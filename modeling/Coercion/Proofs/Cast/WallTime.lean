import Coercion.Proofs.Cast.Unfit

/-!
Dates and datetimes on any clocks. A zone may keep any offsets and change them at any times, so its clock may skip the
midnight of a day, or a whole day and more, and it may show a midnight twice. As long as readings are placed on the
clocks as they should be, a cast of dates flags those midnights that are not shown exactly once, and gives back all
other days; and a cast of datetimes gives the days on their clock, and gives back the midnights that are shown once.
All this is as far as readings and instants are in the range of eight bytes. So there are two exceptions. What the clock
shows at an instant in range may be out of range, and then its day is not given. And a day may begin before the
first reading in range, or after the last, and then the way back is closed for all days.
-/

namespace Coercion

open VectorType Column

/-! ### Places of readings -/

/-- Where a reading belongs on a clock: at the instant at which the clock shows it, if there is only one; nowhere, if
there are several; and otherwise at the first reading after it that the clock shows. -/
inductive HasPlace (clock : Int → Reading) (r : Reading) : Option Int → Prop where
  | once {t : Int} (shown : clock t = r) (only : ∀ u, clock u = r → u = t) : HasPlace clock r (some t)
  | twice {t u : Int} (differ : t ≠ u) (shown : clock t = r) (again : clock u = r) : HasPlace clock r none
  | skipped {t : Int} (never : ∀ u, clock u ≠ r) (later : r < clock t) (first : ∀ u, r < clock u → clock t ≤ clock u) :
    HasPlace clock r (some t)

namespace HasPlace

variable {clock : Int → Reading} {r : Reading} {t : Int}

/-- A reading has a place at which the clock shows it if and only if the clock shows it once. -/
lemma shown_iff (h : HasPlace clock r (some t)) : clock t = r ↔ ∃! u, clock u = r := by
  cases h with
  | once shown only => exact ⟨fun _ => ⟨t, shown, only⟩, fun _ => shown⟩
  | skipped never =>
    refine ⟨fun h => absurd h (never t), ?_⟩
    rintro ⟨u, hu, -⟩
    exact absurd hu (never u)

lemma not_once (h : HasPlace clock r none) : ¬ ∃! u, clock u = r := by
  cases h with
  | twice differ shown again => exact fun honce => differ (honce.unique shown again)

/-- A reading that the clock shows once has its place there. -/
lemma eq_some {place : Option Int} (h : HasPlace clock r place) (shown : clock t = r)
    (only : ∀ u, clock u = r → u = t) : place = some t := by
  cases h with
  | once shown' => rw [only _ shown']
  | twice differ shown' again =>
    have hsame := (only _ shown').trans (only _ again).symm
    exact absurd hsame differ
  | skipped never => exact absurd shown (never t)

end HasPlace

namespace ZoneRules

/-- The rules of a zone place readings where they belong, as long as the clock shows no reading between one that it skips
and the one that this is moved to. -/
lemma hasPlace_place? {z : ZoneRules} (hnext : ∀ r, (∀ u, z.reading u ≠ r) →
      r < z.reading (z.shiftForward r) ∧ ∀ u, r < z.reading u → z.reading (z.shiftForward r) ≤ z.reading u)
    (r : Reading) : HasPlace z.reading r (z.place? r) := by
  rcases z.place?_cases r with ⟨t, hplace, shown, only⟩ | ⟨hplace, never⟩ | ⟨hplace, t, u, differ, shown, again⟩
  · rw [hplace]
    exact .once shown only
  · rw [hplace]
    exact .skipped never (hnext r never).1 (hnext r never).2
  · rw [hplace]
    exact .twice differ shown again

end ZoneRules

namespace Registry

variable {r : Registry} {k : Clocks} {zone : Option Zone} {decompose : Bool} {v : TypedVector} {x : Value} {day t : Int}

/-- Whether the clock of a zone, which may be left out, places readings where they belong. -/
def PlacesReadings (k : Clocks) (zone : Option Zone) : Prop :=
  ∀ z ∈ zone, ∀ r, HasPlace (k.rules z).reading r (k.place? z r)

/-- Whether a day is in range on a clock: its midnight is, and so is the instant at its place, with what the clock shows
there. -/
structure BeginsIn (k : Clocks) (zone : Option Zone) (day : Int) : Prop where
  midnight : Reading.inRange (Reading.ofDay day) = true
  place : ∀ z ∈ zone, ∀ t, k.place? z (Reading.ofDay day) = some t →
    Reading.inRange t = true ∧ Reading.inRange (k.shown t zone) = true

/-- Whether the clock shows the instants of a vector as readings in range. -/
def ShowsInRange (k : Clocks) (zone : Option Zone) (v : TypedVector) : Prop :=
  ∀ t, .instant t zone ∈ v.values → Reading.inRange (k.shown t zone) = true

/-! ### Results -/

/-- What a date becomes: the midnight at which it begins, at the place of this reading, or nothing if it has none. -/
inductive Begins (k : Clocks) (zone : Option Zone) : Value → Value → Prop where
  | missing : Begins k zone .notATime .notATime
  | placed {day t : Int} (place : HasPlace (k.shown · zone) (Reading.ofDay day) (some t)) :
    Begins k zone (.period day) (.instant t zone)
  | unplaced {day : Int} (place : HasPlace (k.shown · zone) (Reading.ofDay day) none) :
    Begins k zone (.period day) .notATime

/-- What a datetime becomes: the day of the reading that its clock shows. -/
inductive FallsOn (k : Clocks) (zone : Option Zone) : Value → Value → Prop where
  | missing : FallsOn k zone .notATime .notATime
  | day (t : Int) : FallsOn k zone (.instant t zone) (.period (Reading.day (k.shown t zone)))

/-- What a cast of dates to datetimes gives. Those midnights are flagged that the clock does not show exactly once. -/
structure StartsDays (k : Clocks) (zone : Option Zone) (v : TypedVector) (res : CastResult) : Prop where
  type : res.vector.type = .datetime zone
  values : List.Forall₂ (Begins k zone) v.values res.vector.values
  flagged_iff : ∀ i, i ∈ res.lossy ↔
    ∃ day, v.values[i]? = some (.period day) ∧ ¬ ∃! t, k.shown t zone = Reading.ofDay day

/-- What a cast of datetimes to dates gives. Those are flagged that the clock does not show as a midnight. -/
structure ReadsDays (k : Clocks) (zone : Option Zone) (v : TypedVector) (res : CastResult) : Prop where
  type : res.vector.type = .date
  values : List.Forall₂ (FallsOn k zone) v.values res.vector.values
  flagged_iff : ∀ i, i ∈ res.lossy ↔
    ∃ t, v.values[i]? = some (.instant t zone) ∧ Reading.timeOfDay (k.shown t zone) ≠ 0

/-- Whether a vector of dates comes back from datetimes: every date that was not flagged is restored, and not flagged on
the way back. -/
def KeepsDays (r : Registry) (k : Clocks) (decompose : Bool) (zone : Option Zone) (v : TypedVector) : Prop :=
  ∃ res back, r.castTo decompose v (.datetime zone) = .ok res ∧ StartsDays k zone v res ∧
    r.castTo decompose res.vector .date = .ok back ∧ back.vector.type = .date ∧ back.vector.size = v.size ∧
      ∀ (i : Nat) x, v.values[i]? = some x → i ∉ res.lossy → back.vector.values[i]? = some x ∧ i ∉ back.lossy

/-- Whether a vector of datetimes comes back from dates: every midnight that was not flagged, and that its clock shows
only once, is restored, and not flagged on the way back. -/
def RestoresMidnights (r : Registry) (k : Clocks) (decompose : Bool) (zone : Option Zone) (v : TypedVector)
    (res : CastResult) : Prop :=
  ∃ back, r.castTo decompose res.vector (.datetime zone) = .ok back ∧ back.vector.type = .datetime zone ∧
    back.vector.size = v.size ∧ ∀ (i : Nat) x, v.values[i]? = some x → i ∉ res.lossy →
      (∀ t, x = .instant t zone → ∀ u, k.shown u zone = k.shown t zone → u = t) →
        back.vector.values[i]? = some x ∧ i ∉ back.lossy

/-! ### Single values -/

/-- The midnight of a date in range stands at its place. -/
lemma hasPlace_start (hk : PlacesReadings k zone) (hday : BeginsIn k zone day) :
    ∃ place, HasPlace (k.shown · zone) (Reading.ofDay day) place ∧
      start k zone (.period day) = (place.map fun t => Value.instant t zone).getD .notATime ∧
        isMoved k zone (.period day) = place.all fun t => decide (k.shown t zone ≠ Reading.ofDay day) := by
  cases zone with
  | none =>
    refine ⟨some (Reading.ofDay day), .once rfl fun _ h => h, rfl, ?_⟩
    simp [isMoved, Clocks.shown]
  | some z =>
    refine ⟨k.place? z (Reading.ofDay day), hk z rfl _, ?_⟩
    rw [isMoved, start, startOf, Caster.placedMidnight]
    cases hplace : k.place? z (Reading.ofDay day) with
    | none => exact ⟨rfl, rfl⟩
    | some t =>
      obtain ⟨hrange, hshown⟩ := hday.place z rfl t hplace
      change Value.stamp t (some z) = _ ∧ Caster.isMisplaced k _ (.stamp t (some z)) = _
      rw [Value.stamp_of_inRange hrange]
      refine ⟨rfl, Bool.eq_iff_iff.2 ?_⟩
      have hheld : Reading.stored? ((k.rules z).reading t) = some (k.shown t (some z)) :=
        Reading.stored?_of_inRange hshown
      rw [isMisplaced_instant_iff, hheld, Ne, Option.some_inj]
      exact decide_eq_true_iff.symm

lemma begins_start (hk : PlacesReadings k zone) (hday : BeginsIn k zone day) :
    Begins k zone (.period day) (start k zone (.period day)) := by
  obtain ⟨place, hplace, hstart, -⟩ := hasPlace_start hk hday
  rw [hstart]
  cases place with
  | none => exact .unplaced hplace
  | some t => exact .placed hplace

/-- The midnights that are flagged are those that the clock does not show exactly once. -/
lemma isMoved_iff (hk : PlacesReadings k zone) (hday : BeginsIn k zone day) :
    isMoved k zone (.period day) = true ↔ ¬ ∃! t, k.shown t zone = Reading.ofDay day := by
  obtain ⟨place, hplace, -, hmoved⟩ := hasPlace_start hk hday
  rw [hmoved]
  cases place with
  | none => exact iff_of_true rfl hplace.not_once
  | some t =>
    rw [← hplace.shown_iff]
    exact decide_eq_true_iff

lemma start_notATime : start k zone .notATime = .notATime := by cases zone <;> rfl

lemma isMoved_notATime : isMoved k zone .notATime = false := by cases zone <;> rfl

/-- A midnight that the clock shows once, at an instant in range, is a day in range. -/
lemma BeginsIn.of_once (hk : PlacesReadings k zone) (hmidnight : Reading.inRange (Reading.ofDay day) = true)
    (hrange : Reading.inRange t = true) (shown : k.shown t zone = Reading.ofDay day)
    (only : ∀ u, k.shown u zone = Reading.ofDay day → u = t) : BeginsIn k zone day where
  midnight := hmidnight
  place z hz u hplace := by
    cases hz
    have hhas : HasPlace (k.rules z).reading (Reading.ofDay day) (some u) := hplace ▸ hk z rfl _
    obtain rfl : u = t := Option.some.inj (hhas.eq_some shown only)
    exact ⟨hrange, shown ▸ hmidnight⟩

/-- A midnight that the clock shows once stands there, and is not flagged. -/
lemma start_of_once (hk : PlacesReadings k zone) (hday : BeginsIn k zone day) (shown : k.shown t zone = Reading.ofDay day)
    (only : ∀ u, k.shown u zone = Reading.ofDay day → u = t) :
    start k zone (.period day) = .instant t zone ∧ isMoved k zone (.period day) = false := by
  obtain ⟨place, hplace, hstart, -⟩ := hasPlace_start hk hday
  rw [hstart, hplace.eq_some shown only]
  refine ⟨rfl, ?_⟩
  rw [Bool.eq_false_iff, Ne, isMoved_iff hk hday, not_not]
  exact ⟨t, shown, only⟩

/-- An instant whose reading is in range is read as what its clock shows. -/
lemma readingOf?_shown (hrange : Reading.inRange t = true) (hshown : Reading.inRange (k.shown t zone) = true) :
    Caster.readingOf? k (.instant t zone) = some (k.shown t zone) := by
  rw [readingOf?_instant hrange, Reading.stored?_of_inRange hshown]

lemma dayOf_instant (hrange : Reading.inRange t = true) (hshown : Reading.inRange (k.shown t zone) = true) :
    dayOf k (.instant t zone) = .period (Reading.day (k.shown t zone)) := by
  rw [dayOf, readingOf?_shown hrange hshown]

lemma isCutOff_instant (hrange : Reading.inRange t = true) (hshown : Reading.inRange (k.shown t zone) = true) :
    isCutOff k (.instant t zone) = true ↔ Reading.timeOfDay (k.shown t zone) ≠ 0 := by
  rw [isCutOff, readingOf?_shown hrange hshown]
  exact decide_eq_true_iff

/-- Only a reading in range is held as one of its own day. -/
lemma inRange_of_dayOf (hrange : Reading.inRange t = true)
    (h : dayOf k (.instant t zone) = .period (Reading.day (k.shown t zone))) :
    Reading.inRange (k.shown t zone) = true := by
  rw [dayOf, readingOf?_instant hrange] at h
  cases hheld : Reading.stored? (k.shown t zone) with
  | none =>
    rw [hheld] at h
    cases h
  | some s =>
    rw [hheld] at h
    have hsame := Reading.eq_of_day_eq hheld (Value.period.inj h)
    rw [← hsame]
    exact (Reading.stored?_eq_some hheld).1

/-! ### There and back -/

/-- What is flagged at a position. -/
lemma mem_flagged {f : Value → Bool} {xs : List Value} {i : Nat} (hx : xs[i]? = some x) :
    i ∈ sortedPositions (positionsOf (xs.map f)) ↔ f x = true := by
  rw [mem_sortedPositions, mem_positionsOf, hx]
  simp

/-- A date that is not flagged comes back from the place of its midnight. -/
lemma dayOf_start (hk : PlacesReadings k zone) (hx : x = .notATime ∨ ∃ day, x = .period day ∧ BeginsIn k zone day)
    (hkept : isMoved k zone x = false) :
    dayOf k (start k zone x) = x ∧ isCutOff k (start k zone x) = false := by
  rcases hx with rfl | ⟨day, rfl, hday⟩
  · rw [start_notATime]
    exact ⟨rfl, rfl⟩
  · rw [Bool.eq_false_iff, Ne, isMoved_iff hk hday, not_not] at hkept
    obtain ⟨t, shown, only⟩ := hkept
    have hshown : Reading.inRange (k.shown t zone) = true := shown ▸ hday.midnight
    have hrange : Reading.inRange t = true := by
      cases zone with
      | none => exact hshown
      | some z => exact (hday.place z rfl t ((hk z rfl _).eq_some shown only)).1
    rw [(start_of_once hk hday shown only).1]
    refine ⟨?_, ?_⟩
    · rw [dayOf_instant hrange hshown, shown, Reading.day_ofDay]
    · rw [Bool.eq_false_iff, Ne, isCutOff_instant hrange hshown, shown, not_not]
      exact Reading.timeOfDay_ofDay day

/-- A midnight that its clock shows only once comes back from its day. -/
lemma start_dayOf (hk : PlacesReadings k zone)
    (hx : x = .notATime ∨ ∃ t, x = .instant t zone ∧ Reading.inRange t = true ∧ Reading.inRange (k.shown t zone) = true)
    (hkept : isCutOff k x = false) (honce : ∀ t, x = .instant t zone → ∀ u, k.shown u zone = k.shown t zone → u = t) :
    start k zone (dayOf k x) = x ∧ isMoved k zone (dayOf k x) = false := by
  rcases hx with rfl | ⟨t, rfl, hrange, hshown⟩
  · exact ⟨start_notATime, isMoved_notATime⟩
  · have hmidnight : Reading.ofDay (Reading.day (k.shown t zone)) = k.shown t zone := by
      rw [Bool.eq_false_iff, Ne, isCutOff_instant hrange hshown, not_not] at hkept
      exact Reading.ofDay_day hkept
    have honly : ∀ u, k.shown u zone = Reading.ofDay (Reading.day (k.shown t zone)) → u = t := by
      intro u hu
      exact honce t rfl u (hu.trans hmidnight)
    have hbegin : Reading.inRange (Reading.ofDay (Reading.day (k.shown t zone))) = true := by rwa [hmidnight]
    have hday := BeginsIn.of_once hk hbegin hrange hmidnight.symm honly
    rw [dayOf_instant hrange hshown]
    exact start_of_once hk hday hmidnight.symm honly

/-- A cast there and one back, each of which takes the values one by one, restore a value at its position. -/
lemma restored {there back : Value → Value} {flag : Value → Bool} {xs : List Value} {i : Nat} (hx : xs[i]? = some x)
    (hback : back (there x) = x) (hflag : flag (there x) = false) :
    ((xs.map there).map back)[i]? = some x ∧ i ∉ sortedPositions (positionsOf ((xs.map there).map flag)) := by
  have hthere : (xs.map there)[i]? = some (there x) := by
    rw [List.getElem?_map, hx]
    rfl
  constructor
  · rw [List.getElem?_map, hthere]
    exact congrArg some hback
  · rw [mem_flagged hthere, hflag]
    exact Bool.false_ne_true

lemma date_cases_of_beginsIn (hv : v.WellFormed) (hs : v.type = .date)
    (hdays : ∀ day, .period day ∈ v.values → BeginsIn k zone day) (hx : x ∈ v.values) :
    x = .notATime ∨ ∃ day, x = .period day ∧ BeginsIn k zone day := by
  rcases date_cases hv hs hx with rfl | ⟨day, rfl⟩
  · exact .inl rfl
  · exact .inr ⟨day, rfl, hdays day hx⟩

/-- Dates become the places of their midnights. -/
lemma startsDays (hk : PlacesReadings k zone) (hv : v.WellFormed) (hs : v.type = .date)
    (hdays : ∀ day, .period day ∈ v.values → BeginsIn k zone day) :
    StartsDays k zone v ⟨⟨.datetime zone, ⟨storage (.datetime zone), v.values.map (start k zone)⟩⟩,
      sortedPositions (positionsOf (v.values.map (isMoved k zone)))⟩ where
  type := rfl
  values := by
    refine List.forall₂_map_right_iff.2 (List.forall₂_same.2 ?_)
    intro x hx
    rcases date_cases_of_beginsIn hv hs hdays hx with rfl | ⟨day, rfl, hday⟩
    · rw [start_notATime]
      exact .missing
    · exact begins_start hk hday
  flagged_iff i := by
    rw [mem_sortedPositions, mem_positionsOf]
    constructor
    · rintro ⟨x, hx, hmoved⟩
      rcases date_cases_of_beginsIn hv hs hdays (List.mem_of_getElem? hx) with rfl | ⟨day, rfl, hday⟩
      · rw [isMoved_notATime] at hmoved
        cases hmoved
      · exact ⟨day, hx, (isMoved_iff hk hday).1 hmoved⟩
    · rintro ⟨day, hx, hnot⟩
      exact ⟨_, hx, (isMoved_iff hk (hdays day (List.mem_of_getElem? hx))).2 hnot⟩

/-- Dates in range come back from datetimes. -/
lemma keepsDays (hr : r.TellsTimeBy k) (hk : PlacesReadings k zone) (hv : v.WellFormed) (hs : v.type = .date)
    (hdays : ∀ day, .period day ∈ v.values → BeginsIn k zone day) : KeepsDays r k decompose zone v := by
  have hstarts := midnight_of_inRange fun day hday => (hdays day hday).midnight
  refine ⟨_, _, castTo_starts hr hs hstarts, startsDays hk hv hs hdays, castTo_days hr rfl, rfl,
    (List.length_map _).trans (List.length_map _), ?_⟩
  intro i x hx hkept
  rw [mem_flagged hx, Bool.not_eq_true] at hkept
  have hday := date_cases_of_beginsIn hv hs hdays (List.mem_of_getElem? hx)
  obtain ⟨hback, hmidnight⟩ := dayOf_start hk hday hkept
  exact restored hx hback hmidnight

lemma datetime_cases_of_showsInRange (hv : v.WellFormed) (hs : v.type = .datetime zone)
    (hshown : ShowsInRange k zone v) (hx : x ∈ v.values) :
    x = .notATime ∨ ∃ t, x = .instant t zone ∧ Reading.inRange t = true ∧ Reading.inRange (k.shown t zone) = true := by
  cases (onClock_of_datetime hv hs).held x hx with
  | noInstant => exact .inl rfl
  | @instant _ _ t hrange => exact .inr ⟨t, rfl, hrange, hshown t hx⟩

/-- Datetimes become the days of their readings if and only if these are in range. -/
lemma readsDays_iff (hv : v.WellFormed) (hs : v.type = .datetime zone) {lossy : List Nat}
    (hlossy : lossy = sortedPositions (positionsOf (v.values.map (isCutOff k)))) :
    ReadsDays k zone v ⟨⟨.date, ⟨.days, v.values.map (dayOf k)⟩⟩, lossy⟩ ↔ ShowsInRange k zone v := by
  constructor
  · intro h t ht
    have hfalls := List.forall₂_same.1 (List.forall₂_map_right_iff.1 h.values) _ ht
    cases (onClock_of_datetime hv hs).held _ ht with
    | instant _ _ hrange =>
      refine inRange_of_dayOf hrange ?_
      generalize dayOf k (.instant t zone) = y at hfalls
      cases hfalls
      rfl
  · intro hshown
    have hcases (x) (hx : x ∈ v.values) := datetime_cases_of_showsInRange hv hs hshown hx
    refine ⟨rfl, ?_, ?_⟩
    · refine List.forall₂_map_right_iff.2 (List.forall₂_same.2 ?_)
      intro x hx
      rcases hcases x hx with rfl | ⟨t, rfl, hrange, hinside⟩
      · exact .missing
      · rw [dayOf_instant hrange hinside]
        exact .day t
    · intro i
      rw [hlossy, mem_sortedPositions, mem_positionsOf]
      constructor
      · rintro ⟨x, hx, htime⟩
        rcases hcases x (List.mem_of_getElem? hx) with rfl | ⟨t, rfl, hrange, hinside⟩
        · cases htime
        · exact ⟨t, hx, (isCutOff_instant hrange hinside).1 htime⟩
      · rintro ⟨t, hx, htime⟩
        rcases hcases _ (List.mem_of_getElem? hx) with hnone | ⟨u, hu, hrange, hinside⟩
        · cases hnone
        · cases hu
          exact ⟨_, hx, (isCutOff_instant hrange hinside).2 htime⟩

/-- Midnights come back from dates if and only if no datetime falls on a day that begins out of range. -/
lemma restoresMidnights_iff (hr : r.TellsTimeBy k) (hk : PlacesReadings k zone) (hv : v.WellFormed)
    (hs : v.type = .datetime zone) (hshown : ShowsInRange k zone v) {lossy : List Nat}
    (hlossy : lossy = sortedPositions (positionsOf (v.values.map (isCutOff k)))) :
    RestoresMidnights r k decompose zone v ⟨⟨.date, ⟨.days, v.values.map (dayOf k)⟩⟩, lossy⟩ ↔
      ∀ t, .instant t zone ∈ v.values → Reading.inRange (Reading.ofDay (Reading.day (k.shown t zone))) = true := by
  have hcases (x) (hx : x ∈ v.values) := datetime_cases_of_showsInRange hv hs hshown hx
  constructor
  · rintro ⟨back, hback, -⟩ t ht
    by_contra hout
    have hday : Value.period (Reading.day (k.shown t zone)) ∈ v.values.map (dayOf k) := by
      rcases hcases _ ht with hnone | ⟨u, hu, hrange, hinside⟩
      · cases hnone
      · cases hu
        rw [← dayOf_instant hrange hinside]
        exact List.mem_map_of_mem ht
    rw [castTo_outOfBounds hr rfl hday (Bool.not_eq_true _ ▸ hout)] at hback
    cases hback
  · intro hrange
    have hdays : ∀ day, .period day ∈ v.values.map (dayOf k) → Reading.inRange (Reading.ofDay day) = true := by
      intro day hday
      obtain ⟨x, hx, hfalls⟩ := List.mem_map.1 hday
      rcases hcases x hx with rfl | ⟨t, rfl, hinstant, hinside⟩
      · cases hfalls
      · rw [dayOf_instant hinstant hinside] at hfalls
        cases hfalls
        exact hrange t hx
    refine ⟨_, castTo_starts hr rfl (midnight_of_inRange hdays), rfl, (List.length_map _).trans (List.length_map _),
      ?_⟩
    intro i x hx hkept honce
    rw [hlossy, mem_flagged hx, Bool.not_eq_true] at hkept
    obtain ⟨hback, hmoved⟩ := start_dayOf hk (hcases x (List.mem_of_getElem? hx)) hkept honce
    exact restored hx hback hmoved

/-- **Dates and datetimes on any clocks.** If readings are placed where they belong, a cast of dates in range flags
exactly those midnights that the clock does not show once, and all others come back from it. A cast of datetimes gives
their days if and only if the clock shows them in range; and then the midnights that it shows once come back from it if
and only if no day begins out of range. -/
theorem castTo_wallTime_iff (hr : r.TellsTimeBy k) (hk : PlacesReadings k zone) (hv : v.WellFormed) :
    (v.type = .date → (∀ day, .period day ∈ v.values → BeginsIn k zone day) → KeepsDays r k decompose zone v) ∧
      (v.type = .datetime zone → ∃ days, r.castTo decompose v .date = .ok days ∧
        (ReadsDays k zone v days ↔ ShowsInRange k zone v) ∧
        (ShowsInRange k zone v → (RestoresMidnights r k decompose zone v days ↔
          ∀ t, .instant t zone ∈ v.values →
            Reading.inRange (Reading.ofDay (Reading.day (k.shown t zone))) = true))) :=
  ⟨fun hs hdays => keepsDays hr hk hv hs hdays,
    fun hs => ⟨_, castTo_days hr hs, readsDays_iff hv hs rfl, fun hshown =>
      restoresMidnights_iff hr hk hv hs hshown rfl⟩⟩

/-! ### A clock that changes at midnight -/

/-- The clock of Havana in the year 2023: it was set forward by an hour at midnight on the 12th of March, and back to
midnight on the 5th of November. -/
def havana : ZoneRules := ⟨-300, [(1678597200, -240), (1699160400, -300)]⟩

lemma reading_havana (t : Int) : havana.reading t =
    if 1699160400000000000 ≤ t then t - 18000000000000
    else if 1678597200000000000 ≤ t then t - 14400000000000
    else t - 18000000000000 := by
  simp only [havana, ZoneRules.reading, ZoneRules.offsetAt, ZoneRules.nanosOf, nanosPerSecond, List.foldl_cons,
    List.foldl_nil]
  unfold Reading
  split_ifs <;> omega

/-- Only the first hour of the 12th of March is skipped. -/
lemma skipped_havana {r : Reading} (hnever : ∀ u, havana.reading u ≠ r) :
    1678579200000000000 ≤ r ∧ r < 1678582800000000000 := by
  have hwinter := hnever (r + 18000000000000)
  have hsummer := hnever (r + 14400000000000)
  rw [reading_havana] at hwinter hsummer
  unfold Reading at *
  split_ifs at hwinter hsummer <;> omega

/-- All skipped readings are moved to the end of that hour. -/
lemma shiftForward_havana {r : Reading} (hfrom : 1678579200000000000 ≤ r) (hto : r < 1678582800000000000) :
    havana.shiftForward r = 1678597200000000000 := by
  have hfull : r + (nanosPerHour - r.fmod nanosPerHour) = 1678582800000000000 := by
    rw [Int.fmod_eq_emod_of_nonneg r (by decide)]
    simp only [nanosPerHour, nanosPerSecond]
    unfold Reading at *
    omega
  rw [ZoneRules.shiftForward, hfull]
  decide

lemma hasPlace_havana (r : Reading) : HasPlace havana.reading r (havana.place? r) := by
  refine ZoneRules.hasPlace_place? ?_ r
  intro r hnever
  obtain ⟨hfrom, hto⟩ := skipped_havana hnever
  have hend : havana.reading 1678597200000000000 = 1678582800000000000 := by decide
  rw [shiftForward_havana hfrom hto, hend]
  refine ⟨hto, ?_⟩
  intro u hu
  rw [reading_havana] at hu ⊢
  unfold Reading at *
  split_ifs at hu ⊢ <;> omega

/-- Clocks that all show the time of Havana. -/
def havanaClocks : Clocks := ⟨fun _ => havana, fun _ => havana.place?⟩

/-- The place of a reading is four or five hours after it. -/
lemma place?_havana {r : Reading} {t : Int} (h : havana.place? r = some t) :
    r + 14400000000000 ≤ t ∧ t ≤ r + 18000000000000 := by
  rcases havana.place?_cases r with ⟨u, hplace, shown, -⟩ | ⟨hplace, never⟩ | ⟨hplace, -⟩
  · obtain rfl := Option.some.inj (hplace.symm.trans h)
    rw [reading_havana] at shown
    unfold Reading at *
    split_ifs at shown <;> omega
  · obtain ⟨hfrom, hto⟩ := skipped_havana never
    rw [shiftForward_havana hfrom hto] at hplace
    obtain rfl := Option.some.inj (hplace.symm.trans h)
    unfold Reading at *
    omega
  · cases hplace.symm.trans h

/-- Days of these years are far from the ends of the range. -/
lemma beginsIn_havana (zone : Zone) {day : Int} (hfrom : 0 ≤ day) (hto : day ≤ 20000) :
    BeginsIn havanaClocks (some zone) day := by
  have hmidnight : 0 ≤ Reading.ofDay day ∧ Reading.ofDay day ≤ 1728000000000000000 := by
    simp only [Reading.ofDay, nanosPerDay, nanosPerSecond]
    unfold Reading
    omega
  obtain ⟨hlow, hhigh⟩ := hmidnight
  generalize hr : Reading.ofDay day = r at hlow hhigh
  refine ⟨?_, ?_⟩
  · rw [hr, Reading.inRange_iff]
    unfold Reading at *
    omega
  · intro z _ t hplace
    rw [hr] at hplace
    obtain ⟨hafter, hbefore⟩ := place?_havana hplace
    have hshown : havanaClocks.shown t (some zone) = havana.reading t := rfl
    rw [hshown, reading_havana, Reading.inRange_iff, Reading.inRange_iff]
    unfold Reading at *
    split_ifs <;> omega

/-- A registry with the casters between dates and datetimes only. -/
def havanaRegistry : Registry :=
  ⟨[], [((.name "date", .name "datetime"), .dateToDatetimeOn havanaClocks),
    ((.name "datetime", .name "date"), .datetimeToDateOn havanaClocks)], false, []⟩

/-- The days of both changes, a day in July, and a missing one. -/
def changingDays : TypedVector :=
  ⟨.date, ⟨.days, [.period 19428, .period 19666, .period 19539, .notATime]⟩⟩

lemma wellFormed_changingDays : changingDays.WellFormed where
  standard := .date
  stored := by decide
  held := by
    simp only [changingDays, TypedVector.values, List.forall_mem_cons]
    exact ⟨.day _ _, .day _ _, .day _ _, .noDay _, by simp⟩
  admitted _ _ := trivial

/-- Midnight and noon of a day in July. -/
def julyDatetimes : TypedVector :=
  ⟨.datetime (some (.named "America/Havana")), ⟨.instants "ns" (some (.named "America/Havana")),
    [.instant 1688184000000000000 (some (.named "America/Havana")),
      .instant 1688227200000000000 (some (.named "America/Havana"))]⟩⟩

lemma wellFormed_julyDatetimes : julyDatetimes.WellFormed where
  standard := .datetime _
  stored := by decide
  held := by
    simp only [julyDatetimes, TypedVector.values, List.forall_mem_cons]
    exact ⟨.instant _ _ (by decide), .instant _ _ (by decide), by simp⟩
  admitted _ _ := trivial

/-- A midnight that is skipped, one that is shown twice and one that is shown once, and a midnight and a noon. -/
theorem castTo_wallTime_iff_havana :
    KeepsDays havanaRegistry havanaClocks true (some (.named "America/Havana")) changingDays ∧
      ∃ days, havanaRegistry.castTo true julyDatetimes .date = .ok days ∧
        ReadsDays havanaClocks (some (.named "America/Havana")) julyDatetimes days ∧
          RestoresMidnights havanaRegistry havanaClocks true (some (.named "America/Havana")) julyDatetimes days := by
  have hr : havanaRegistry.TellsTimeBy havanaClocks := ⟨rfl, rfl⟩
  have hk : PlacesReadings havanaClocks (some (.named "America/Havana")) := by
    intro _ _
    exact hasPlace_havana
  have hinstants : ∀ t, .instant t (some (.named "America/Havana")) ∈ julyDatetimes.values →
      t = 1688184000000000000 ∨ t = 1688227200000000000 := by
    intro t ht
    simpa only [julyDatetimes, TypedVector.values, List.mem_cons, Value.instant.injEq, and_true, List.not_mem_nil,
      or_false] using ht
  have hshown : ShowsInRange havanaClocks (some (.named "America/Havana")) julyDatetimes := by
    intro t ht
    rcases hinstants t ht with rfl | rfl <;> decide
  obtain ⟨days, hdays, hreads, hback⟩ := (castTo_wallTime_iff hr hk wellFormed_julyDatetimes).2 rfl
  refine ⟨(castTo_wallTime_iff hr hk wellFormed_changingDays).1 rfl ?_, days, hdays, hreads.2 hshown,
    (hback hshown).2 ?_⟩
  · intro day hday
    simp only [changingDays, TypedVector.values, List.mem_cons, Value.period.injEq, reduceCtorEq, List.not_mem_nil,
      or_false] at hday
    rcases hday with rfl | rfl | rfl <;> exact beginsIn_havana _ (by decide) (by decide)
  · intro t ht
    rcases hinstants t ht with rfl | rfl <;> decide

/-- Noon of the first day of which eight bytes can hold any reading, and the midnight at the start of the year 2020. -/
def earlyNoon : TypedVector :=
  ⟨.datetime none, ⟨.instants "ns" none, [.instant (-9223329600000000000) none, .instant 1577836800000000000 none]⟩⟩

lemma wellFormed_earlyNoon : earlyNoon.WellFormed where
  standard := .datetime none
  stored := by decide
  held := by
    simp only [earlyNoon, TypedVector.values, List.forall_mem_cons]
    exact ⟨.instant _ _ (by decide), .instant _ _ (by decide), by simp⟩
  admitted _ _ := trivial

/-- The noon is flagged, but its day cannot be cast back, and with it the midnight is lost, which was not flagged. -/
theorem not_castTo_wallTime :
    ¬ ∀ (r : Registry) (k : Clocks) (zone : Option Zone) (decompose : Bool) (v : TypedVector), r.TellsTimeBy k →
      PlacesReadings k zone → v.WellFormed →
        (v.type = .date → (∀ day, .period day ∈ v.values → BeginsIn k zone day) →
            KeepsDays r k decompose zone v) ∧
          (v.type = .datetime zone → ∃ days, r.castTo decompose v .date = .ok days ∧ ReadsDays k zone v days ∧
            RestoresMidnights r k decompose zone v days) := by
  intro h
  have hnaive : PlacesReadings .standard none := nofun
  obtain ⟨days, hdays, -, hback⟩ :=
    (h standard .standard none true earlyNoon standard_tellsTimeBy hnaive wellFormed_earlyNoon).2 rfl
  rw [castTo_days standard_tellsTimeBy rfl] at hdays
  cases hdays
  have hshown : ShowsInRange .standard none earlyNoon := by
    intro t ht
    cases (onClock_of_datetime wellFormed_earlyNoon rfl).held _ ht with
    | instant _ _ hrange => exact hrange
  have hrange := (restoresMidnights_iff standard_tellsTimeBy hnaive wellFormed_earlyNoon rfl hshown rfl).1 hback
  exact absurd (hrange _ List.mem_cons_self) (by decide)

end Registry

end Coercion
