import Coercion.Proofs.Cast.Number
import Coercion.Proofs.Column.Clock
import Coercion.Proofs.Zone.Bounds

/-!
Casts between dates and datetimes in any registry whose casters ask some clocks for the time. Both casters take the
values one by one; only a day whose midnight has no place in eight bytes ends the cast of all days. On the clocks of the
database such a midnight is placed where its zone shows it once, or flagged.
-/

namespace Coercion

namespace Registry

open VectorType Column

/-- Whether dates and datetimes are cast by given clocks. -/
structure TellsTimeBy (r : Registry) (k : Clocks) : Prop where
  toDatetime : r.casterFor? VectorType.date.tag (VectorType.datetime none).tag = some (.dateToDatetimeOn k)
  toDate : r.casterFor? (VectorType.datetime none).tag VectorType.date.tag = some (.datetimeToDateOn k)

lemma standard_tellsTimeBy : standard.TellsTimeBy .standard where
  toDatetime := casterFor?_standard .date (.datetime none)
  toDate := casterFor?_standard (.datetime none) .date

variable {r : Registry} {k : Clocks} {zone : Option Zone} {decompose : Bool} {v : TypedVector} {x : Value}
  {result : CastResult}

/-! ### From dates to datetimes -/

/-- The reading at which a day begins. -/
def startOf : Value → Value
  | .period day => .instant (Reading.ofDay day) none
  | _ => .notATime

/-- A day has a midnight unless that is out of range. -/
lemma midnight_cases (x : Value) : Caster.midnight x = .ok (startOf x) ∨
    Caster.midnight x = .error (.refused .outOfBounds) ∧ ∃ day, x = .period day ∧
      Reading.inRange (Reading.ofDay day) = false := by
  cases x with
  | period day =>
    cases hrange : Reading.inRange (Reading.ofDay day) with
    | true =>
      rw [Caster.midnight, hrange]
      exact .inl rfl
    | false =>
      rw [Caster.midnight, hrange]
      exact .inr ⟨rfl, day, rfl, hrange⟩
  | _ => exact .inl rfl

lemma midnight_of_inRange {xs : List Value}
    (hrange : ∀ day, .period day ∈ xs → Reading.inRange (Reading.ofDay day) = true) :
    ∀ x ∈ xs, Caster.midnight x = .ok (startOf x) := by
  intro x hx
  rcases midnight_cases x with hok | ⟨-, day, rfl, hout⟩
  · exact hok
  · rw [hrange day hx] at hout
    cases hout

lemma eq_startOf_of_midnights {xs ys : List Value} (h : xs.mapM Caster.midnight = .ok ys) : ys = xs.map startOf := by
  have hread := (mapM_eq_ok_iff xs ys).1 h
  have hstarts : List.Forall₂ (· = ·) (xs.map startOf) ys := by
    refine List.forall₂_map_left_iff.2 (hread.imp ?_)
    intro x y hxy
    rcases midnight_cases x with hok | ⟨herror, -⟩
    · exact Except.ok.inj (hok.symm.trans hxy)
    · rw [herror] at hxy
      cases hxy
  rw [List.forall₂_eq_eq_eq] at hstarts
  exact hstarts.symm

/-- The midnight of a date, at its place on the clock. -/
def start (k : Clocks) (zone : Option Zone) (x : Value) : Value :=
  match zone with
  | none => startOf x
  | some z => Caster.placedMidnight z (k.place? z) (startOf x)

/-- Whether the midnight of a date is flagged. -/
def isMoved (k : Clocks) (zone : Option Zone) (x : Value) : Bool :=
  match zone with
  | none => false
  | some z => Caster.isMisplaced k (startOf x) (start k (some z) x)

lemma route_toDatetime (hr : r.TellsTimeBy k) (hs : v.type = .date) :
    r.route decompose v.type (.datetime zone) = .direct (.dateToDatetimeOn k) := by
  have needed : NeedsCaster .date (.datetime zone) := by
    refine ⟨rfl, ?_, ?_, ?_⟩ <;> rintro ⟨⟩
  rw [hs]
  exact (Takes.direct needed hr.toDatetime).route_eq

/-- Days in range are cast to the places of their midnights. -/
lemma castTo_starts (hr : r.TellsTimeBy k) (hs : v.type = .date)
    (hstarts : ∀ x ∈ v.values, Caster.midnight x = .ok (startOf x)) :
    r.castTo decompose v (.datetime zone) =
      .ok ⟨⟨.datetime zone, ⟨storage (.datetime zone), v.values.map (start k zone)⟩⟩,
        sortedPositions (positionsOf (v.values.map (isMoved k zone)))⟩ := by
  refine castTo_eq_ok (.datetime zone) (route_toDatetime hr hs) ?_ (List.length_map _)
  rw [mapM_eq_ok_map hstarts]
  cases zone with
  | none =>
    have hnone : positionsOf (v.values.map (isMoved k none)) = [] := positionsOf_eq_nil fun _ _ => rfl
    rw [hnone]
    rfl
  | some z =>
    change Except.ok (CasterOutput.result _ (positionsOf (((v.values.map startOf).zip _).map _))) = _
    rw [map_zip_map, List.map_map, List.map_map]
    rfl

/-- A day out of range closes the way for all of them. -/
lemma castTo_outOfBounds {day : Int} (hr : r.TellsTimeBy k) (hs : v.type = .date) (hday : .period day ∈ v.values)
    (hrange : Reading.inRange (Reading.ofDay day) = false) :
    r.castTo decompose v (.datetime zone) = .error (.refused .outOfBounds) := by
  rw [castTo_direct (route_toDatetime hr hs)]
  cases hread : v.values.mapM Caster.midnight with
  | error f =>
    obtain ⟨x, -, hx⟩ := exists_of_mapM_error hread
    rcases midnight_cases x with hok | ⟨herror, -⟩
    · rw [hok] at hx
      cases hx
    · cases herror.symm.trans hx
      rfl
  | ok ys =>
    obtain ⟨y, -, hy⟩ := exists_mem_of_forall₂ ((mapM_eq_ok_iff _ _).1 hread).flip hday
    rw [Caster.midnight, hrange] at hy
    cases hy

/-- Only days in range are cast at all. -/
lemma result_of_castTo_datetime (hr : r.TellsTimeBy k) (hs : v.type = .date)
    (h : r.castTo decompose v (.datetime zone) = .ok result) :
    result = ⟨⟨.datetime zone, ⟨storage (.datetime zone), v.values.map (start k zone)⟩⟩,
      sortedPositions (positionsOf (v.values.map (isMoved k zone)))⟩ := by
  refine Except.ok.inj (h.symm.trans (castTo_starts hr hs ?_))
  intro x hx
  rcases midnight_cases x with hok | ⟨-, day, rfl, hrange⟩
  · exact hok
  · rw [castTo_outOfBounds hr hs hx hrange] at h
    cases h

/-! ### Placed midnights -/

/-- A midnight is flagged unless it is the reading that is held for the instant where it has been placed. -/
lemma isMisplaced_instant_iff (k : Clocks) (r t : Int) (z : Zone) :
    Caster.isMisplaced k (.instant r none) (.instant t (some z)) = true ↔
      Reading.stored? ((k.rules z).reading t) ≠ some r := by
  rw [Caster.isMisplaced.eq_def, Value.offClock_instant]
  rcases Value.stamp_cases ((k.rules z).reading t) none with ⟨hnone, hstamp⟩ | ⟨s, hsome, hstamp⟩
  · rw [hstamp, hnone]
    exact iff_of_true rfl (by rintro ⟨⟩)
  · rw [hstamp, hsome]
    simp

/-- Whether the midnight of a day has its instant within range on the clock of a zone, if it is shown once there. -/
def BeginsInRange (zone : Zone) (day : Int) : Prop :=
  ∀ t, zone.rules.reading t = Reading.ofDay day → (∀ u, zone.rules.reading u = Reading.ofDay day → u = t) →
    Reading.inRange t = true

/-- What becomes of a midnight in range on the clock of a zone, and whether it is flagged. -/
inductive Placement (zone : Zone) (day : Int) : Value → Bool → Prop where
  | once {t : Int} (shown : zone.rules.reading t = Reading.ofDay day)
    (only : ∀ u, zone.rules.reading u = Reading.ofDay day → u = t) (range : Reading.inRange t = true) :
    Placement zone day (.instant t (some zone)) false
  /-- The clock shows the midnight once, but out of range. -/
  | beyond {t : Int} {flagged : Bool} (shown : zone.rules.reading t = Reading.ofDay day)
    (only : ∀ u, zone.rules.reading u = Reading.ofDay day → u = t) (out : Reading.inRange t = false)
    (unheld : Reading.stored? t = none → flagged = true) :
    Placement zone day (.stamp t (some zone)) flagged
  | twice {t u : Int} (differ : t ≠ u) (shown : zone.rules.reading t = Reading.ofDay day)
    (again : zone.rules.reading u = Reading.ofDay day) : Placement zone day .notATime true
  | skipped (never : ∀ t, zone.rules.reading t ≠ Reading.ofDay day)
    (range : Reading.inRange (zone.rules.shiftForward (Reading.ofDay day)) = true) :
    Placement zone day (.instant (zone.rules.shiftForward (Reading.ofDay day)) (some zone)) true

/-- What becomes of a midnight is an instant in range, or it is missing and flagged. -/
lemma Placement.cases {zone : Zone} {day : Int} {y : Value} {flagged : Bool} (h : Placement zone day y flagged) :
    y = .notATime ∧ flagged = true ∨ ∃ t, y = .instant t (some zone) ∧ Reading.inRange t = true := by
  cases h with
  | @once t _ _ range => exact .inr ⟨t, rfl, range⟩
  | @beyond t _ _ _ _ unheld =>
    rcases Value.stamp_cases t (some zone) with ⟨hnone, hstamp⟩ | ⟨s, hsome, hstamp⟩
    · exact .inl ⟨hstamp, unheld hnone⟩
    · exact .inr ⟨s, hstamp, (Reading.stored?_eq_some hsome).1⟩
  | twice => exact .inl ⟨rfl, rfl⟩
  | skipped _ range => exact .inr ⟨_, rfl, range⟩

/-- **Midnights on the clocks of the database.** A midnight in range is placed where the clock of the zone shows it, and
not flagged, if that is once and in range. -/
theorem placement (zone : Zone) {day : Int} (hrange : Reading.inRange (Reading.ofDay day) = true) :
    Placement zone day (start .standard (some zone) (.period day)) (isMoved .standard (some zone) (.period day)) := by
  have hstart : start .standard (some zone) (.period day) =
      Caster.placedMidnight zone zone.rules.place? (.instant (Reading.ofDay day) none) := rfl
  rw [isMoved, hstart, startOf, Caster.placedMidnight]
  rcases zone.rules.place?_cases (Reading.ofDay day) with
    ⟨t, hplace, shown, only⟩ | ⟨hplace, never⟩ | ⟨hplace, t, u, differ, shown, again⟩
  · rw [hplace]
    cases ht : Reading.inRange t with
    | true =>
      -- what the clock shows is in range, so it is held as it is
      have hunflagged :
          Caster.isMisplaced .standard (.instant (Reading.ofDay day) none) (.instant t (some zone)) = false := by
        rw [Bool.eq_false_iff, Ne, isMisplaced_instant_iff, not_not]
        change Reading.stored? (zone.rules.reading t) = _
        rw [shown]
        exact Reading.stored?_of_inRange hrange
      change Placement zone day (.stamp t (some zone)) (Caster.isMisplaced .standard _ (.stamp t (some zone)))
      rw [Value.stamp_of_inRange ht, hunflagged]
      exact .once shown only ht
    | false =>
      refine .beyond shown only ht ?_
      intro hnone
      change Caster.isMisplaced .standard _ (.stamp t (some zone)) = true
      rw [Value.stamp, hnone]
      rfl
  · obtain ⟨hmoved, hheld⟩ := Zone.moved_of_skipped hrange never
    have hflagged := (isMisplaced_instant_iff .standard (Reading.ofDay day) _ zone).2 hheld
    rw [hplace]
    change Placement zone day (.stamp _ (some zone)) (Caster.isMisplaced .standard _ (.stamp _ (some zone)))
    rw [Value.stamp_of_inRange hmoved, hflagged]
    exact .skipped never hmoved
  · rw [hplace]
    exact .twice differ shown again

/-! ### From datetimes to dates -/

/-- The reading of an instant is the one that the clock of its zone shows, as far as eight bytes hold it. -/
lemma readingOf?_instant {t : Int} (h : Reading.inRange t = true) (zone : Option Zone) :
    Caster.readingOf? k (.instant t zone) = Reading.stored? (k.shown t zone) := by
  cases zone with
  | none => exact (Reading.stored?_of_inRange h).symm
  | some z =>
    rw [Caster.readingOf?.eq_def, Value.offClock_instant, Clocks.shown]
    rcases Value.stamp_cases ((k.rules z).reading t) none with ⟨hnone, hstamp⟩ | ⟨s, hsome, hstamp⟩
    · rw [hstamp, hnone]
    · rw [hstamp, hsome]

/-- Whether the clock of a date and time shows a reading that eight bytes hold as the missing one. -/
def Unread (x : Value) : Prop :=
  ∃ i zone, x.datedInstant = some i ∧ x.zone = .ok (some zone) ∧
    Reading.stored? (zone.rules.reading i.instant) = none

lemma unread_instant_iff {t : Int} : Unread (.instant t zone) ↔
    ∃ z, zone = some z ∧ Reading.stored? (z.rules.reading t) = none := by
  constructor
  · rintro ⟨i, z, hi, hz, hunheld⟩
    cases hi
    cases hz
    exact ⟨z, rfl, hunheld⟩
  · rintro ⟨z, rfl, hunheld⟩
    exact ⟨_, z, rfl, rfl, hunheld⟩

/-- The day of an instant on its clock. -/
def dayOf (k : Clocks) (x : Value) : Value :=
  match Caster.readingOf? k x with
  | some r => .period (Reading.day r)
  | none => .notATime

/-- An instant becomes the day on its clock, unless its reading is held as the missing one. -/
lemma dayOf_cases {t : Int} (h : Reading.inRange t = true) (zone : Option Zone) :
    (∃ day, dayOf .standard (.instant t zone) = .period day) ∨
      dayOf .standard (.instant t zone) = .notATime ∧ Unread (.instant t zone) := by
  rw [dayOf, readingOf?_instant h]
  cases hread : Reading.stored? (Clocks.standard.shown t zone) with
  | some r => exact .inl ⟨_, rfl⟩
  | none =>
    cases zone with
    | none =>
      rw [Clocks.shown, Reading.stored?_of_inRange h] at hread
      cases hread
    | some z => exact .inr ⟨rfl, unread_instant_iff.2 ⟨z, rfl, hread⟩⟩

/-- Whether a datetime is cut off when it becomes a date. -/
def isCutOff (k : Clocks) (x : Value) : Bool :=
  (Caster.readingOf? k x).any fun r => decide (Reading.timeOfDay r ≠ 0)

lemma route_toDate (hr : r.TellsTimeBy k) (hs : v.type = .datetime zone) :
    r.route decompose v.type .date = .direct (.datetimeToDateOn k) := by
  have needed : NeedsCaster (.datetime zone) .date := by
    refine ⟨rfl, ?_, ?_, ?_⟩ <;> rintro ⟨⟩
  rw [hs]
  exact (Takes.direct needed hr.toDate).route_eq

/-- Datetimes become the dates on their clocks, and are flagged unless they are midnights. -/
lemma castTo_days (hr : r.TellsTimeBy k) (hs : v.type = .datetime zone) :
    r.castTo decompose v .date = .ok ⟨⟨.date, ⟨.days, v.values.map (dayOf k)⟩⟩,
      sortedPositions (positionsOf (v.values.map (isCutOff k)))⟩ := by
  refine castTo_eq_ok .date (route_toDate hr hs) ?_ (List.length_map _)
  simp only [List.map_map]
  rfl

end Registry

end Coercion
