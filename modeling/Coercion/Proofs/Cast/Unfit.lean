import Coercion.Proofs.Cast.Contract
import Coercion.Proofs.Cast.Pointwise
import Coercion.Proofs.Cast.Recoded

/-!
Values that do not fit. Between two kinds that have a caster of their own, lists excepted, a value that the target has no
value for does not end the cast: it is flagged, and what is left of it is in the result, or nothing if nothing is left.
There are two exceptions. The midnight of a day far away has no place in eight bytes, and one such day ends the cast
of all others. And where a clock is ahead of universal time or behind it, the first and last instants in range are shown
out of range, or the first and last midnights are shown out of range of the instants: eight bytes hold something else
then, and nothing is flagged for it.
-/

namespace Coercion

open VectorType Column

namespace Registry

variable {v : TypedVector} {s t : VectorType} {x y : Value} {r : CastResult} {decompose : Bool} {c : Caster}
  {flagged : Prop}

/-! ### What fits, and what is left over -/

/-- Whether a value of a type stands for a value of another one, so that nothing of that is lost. -/
inductive Represents : VectorType → Value → Value → Prop where
  | number {t : VectorType} {x y : Value} (ht : t.IsNumber) (held : t.storage.Holds y) (equal : x.same y = true) :
    Represents t x y
  | text {x : Value} (present : x.isMissing = false) : Represents .character x (.text x.display)
  | level {levels : List Value} {x y : Value} (mem : y ∈ storedLevels levels) (equal : y.same x = true) :
    Represents (.categorical levels) x y
  | date (day : Int) : Represents .date (.period day) (.period day)
  /-- A midnight stands for the date that begins with it. -/
  | day {t : Int} {zone : Option Zone} (midnight : Reading.timeOfDay (Clocks.standard.shown t zone) = 0) :
    Represents .date (.instant t zone) (.period (Reading.day (Clocks.standard.shown t zone)))
  | naive {day : Int} (range : Reading.inRange (Reading.ofDay day) = true) :
    Represents (.datetime none) (.period day) (.instant (Reading.ofDay day) none)
  /-- The clock of the zone shows the midnight of the day once. -/
  | midnight {zone : Zone} {day t : Int} (range : Reading.inRange (Reading.ofDay day) = true)
    (shown : zone.rules.reading t = Reading.ofDay day) (once : ∀ u, zone.rules.reading u = Reading.ofDay day → u = t)
    (place : Reading.inRange t = true) : Represents (.datetime (some zone)) (.period day) (.instant t (some zone))
  | instant (t : Int) (source target : Option Zone) :
    Represents (.datetime target) (.instant t source) (.instant t target)

/-- What is left of a value in a type that has no value for it. -/
inductive LeftOver : VectorType → Value → Value → Prop where
  | nothing {t : VectorType} {x y : Value} (missing : y.isMissing = true) : LeftOver t x y
  /-- A number other than zero and one is taken for truth. -/
  | truth (x : Value) : LeftOver .logical x (.bool true)
  | whole {x : Value} {q : ℚ} (finite : x.quantity? = some (.finite q)) : LeftOver .integer x (.int (towardZero q))
  | nearest (n : Int) : LeftOver .double (.int n) (.double (Double.ofInt n))
  | day (t : Int) (zone : Option Zone) :
    LeftOver .date (.instant t zone) (.period (Reading.day (Clocks.standard.shown t zone)))
  /-- A midnight that the clock of the zone skips is moved forward. -/
  | moved {zone : Zone} {day : Int} (skipped : ∀ t, zone.rules.reading t ≠ Reading.ofDay day) :
    LeftOver (.datetime (some zone)) (.period day)
      (.instant (zone.rules.shiftForward (Reading.ofDay day)) (some zone))

/-- What becomes of one value, given whether it is flagged. A vector of an equal type has only values that fit. -/
structure BestEffort (s t : VectorType) (x y : Value) (flagged : Prop) : Prop where
  missing : x.isMissing = true → y.isMissing = true ∧ ¬ flagged
  /-- A value that does not fit is flagged. -/
  unfit : x.isMissing = false → s.same t = false → (¬ ∃ z, Represents t x z) → flagged
  leftOver : flagged → x.isMissing = false ∧ LeftOver t x y
  kept : x.isMissing = false → ¬ flagged → s.same t = true ∨ Represents t x y

/-- Whether a cast does its best with every value of a vector, whatever they are. -/
def DoesBest (decompose : Bool) (v : TypedVector) (t : VectorType) : Prop :=
  ∃ r, standard.castTo decompose v t = .ok r ∧ r.vector.type = t ∧ r.vector.size = v.size ∧
    ∀ (i : Nat) x y, v.values[i]? = some x → r.vector.values[i]? = some y → BestEffort v.type t x y (i ∈ r.lossy)

/-- Whether a vector has a day whose midnight is out of the range of datetimes, and datetimes are asked for. -/
def OutOfRange (v : TypedVector) (t : VectorType) : Prop :=
  v.type = .date ∧ (∃ zone, t = .datetime zone) ∧
    ∃ day, .period day ∈ v.values ∧ Reading.inRange (Reading.ofDay day) = false

/-- Whether a vector has a day whose midnight the clock of a zone shows once, but out of range of the instants, where
eight bytes hold another instant than that; and datetimes of the zone are asked for. -/
def BeginsBeyond (v : TypedVector) (t : VectorType) : Prop :=
  v.type = .date ∧ ∃ zone, t = .datetime (some zone) ∧ ∃ day i, .period day ∈ v.values ∧
    zone.rules.reading i = Reading.ofDay day ∧ (∀ j, zone.rules.reading j = Reading.ofDay day → j = i) ∧
      Reading.inRange i = false ∧ Reading.stored? i ≠ none

/-- Whether a vector has an instant that is shown out of range on its clock, and dates are asked for. -/
def ShownBeyond (v : TypedVector) (t : VectorType) : Prop :=
  t = .date ∧ ∃ zone, v.type = .datetime zone ∧ ∃ i, .instant i zone ∈ v.values ∧
    Reading.inRange (Clocks.standard.shown i zone) = false

lemma inRange_of_not_outOfRange {zone : Option Zone} {day : Int} (h : ¬ OutOfRange v (.datetime zone))
    (hs : v.type = .date) (hday : .period day ∈ v.values) : Reading.inRange (Reading.ofDay day) = true := by
  by_contra hout
  exact h ⟨hs, ⟨zone, rfl⟩, day, hday, Bool.not_eq_true _ ▸ hout⟩

/-! ### Single values -/

lemma BestEffort.of_missing (hx : x.isMissing = true) (hy : y.isMissing = true) (h : ¬ flagged) :
    BestEffort s t x y flagged where
  missing _ := ⟨hy, h⟩
  unfit hm := by
    rw [hx] at hm
    cases hm
  leftOver hflagged := absurd hflagged h
  kept hm := by
    rw [hx] at hm
    cases hm

/-- A value that is present is either kept, and not flagged, or flagged, and something may be left of it. -/
lemma BestEffort.of_present (hx : x.isMissing = false)
    (h : (¬ flagged ∧ (s.same t = true ∨ Represents t x y)) ∨ flagged ∧ LeftOver t x y) :
    BestEffort s t x y flagged where
  missing hm := by
    rw [hx] at hm
    cases hm
  unfit _ hne hnone := by
    rcases h with ⟨-, hsame | hkept⟩ | ⟨hflagged, -⟩
    · rw [hsame] at hne
      cases hne
    · exact absurd ⟨y, hkept⟩ hnone
    · exact hflagged
  leftOver hflagged := by
    rcases h with ⟨hnot, -⟩ | ⟨-, hleft⟩
    · exact absurd hflagged hnot
    · exact ⟨hx, hleft⟩
  kept _ hnot := by
    rcases h with ⟨-, hkept⟩ | ⟨hflagged, -⟩
    · exact hkept
    · exact absurd hflagged hnot

/-- A cast that replaces the values one by one does its best if it does so with each of them. -/
lemma doesBest_of_map {g : Value → Value} (flag : Value → Prop)
    (hr : standard.castTo decompose v t = .ok r) (htype : r.vector.type = t)
    (hvalues : r.vector.values = v.values.map g)
    (hlossy : ∀ i, i ∈ r.lossy ↔ ∃ x, v.values[i]? = some x ∧ flag x)
    (h : ∀ x ∈ v.values, BestEffort v.type t x (g x) (flag x)) : DoesBest decompose v t := by
  have hlength : r.vector.values.length = v.values.length := by rw [hvalues, List.length_map]
  refine ⟨r, hr, htype, hlength, ?_⟩
  intro i x y hx hy
  rw [hvalues, List.getElem?_map, hx] at hy
  cases hy
  have hflag : i ∈ r.lossy ↔ flag x := by
    rw [hlossy, hx]
    simp
  rw [hflag]
  exact h x (List.mem_of_getElem? hx)

lemma not_mem_nil_iff (i : Nat) : i ∈ ([] : List Nat) ↔ ∃ x, v.values[i]? = some x ∧ False := by simp

/-! ### Each family -/

/-- A vector that has the target's type already, unless it is a categorical. -/
lemma doesBest_unchanged (decompose : Bool) (hv : v.WellFormed) (ht : t.IsStandard)
    (hnot : ∀ levels, v.type ≠ .categorical levels) (hsame : v.type.same t = true) : DoesBest decompose v t := by
  have hpayload := samePayload_of_same hv.standard ht hnot hsame
  have hvalues : v.values = v.values.map id := (List.map_id _).symm
  refine doesBest_of_map (fun _ => False) (castTo_unchanged hsame hpayload) rfl hvalues not_mem_nil_iff ?_
  intro x _
  cases hm : x.isMissing with
  | true => exact .of_missing hm hm id
  | false => exact .of_present hm (.inl ⟨id, .inl hsame⟩)

/-- What is left of a number that is lost. -/
lemma leftOver_of_isLost (hs : s.IsNumber) (ht : t.IsNumber) (hx : s.storage.Holds x) (h : x.isLost t = true) :
    LeftOver t x (x.asNumber t) := by
  have hexact := exactAt_asNumber hs ht hx
  cases ht with
  | logical =>
    rw [hexact.truth h rfl]
    exact .truth x
  | integer =>
    by_cases hfits : ∃ q, x.quantity? = some (.finite q) ∧ fitsSigned 64 (towardZero q) = true
    · obtain ⟨q, hq, hfits⟩ := hfits
      rw [hexact.truncated h rfl q hq hfits]
      exact .whole hq
    · have hunfit : x.asNumber .integer = .notAvailable := by
        refine hexact.unfit h rfl ?_
        intro q hq
        exact Bool.not_eq_true _ ▸ fun hfit => hfits ⟨q, hq, hfit⟩
      rw [hunfit]
      exact .nothing rfl
  | double =>
    rcases number_cases hs hx with ⟨rfl, -⟩ | ⟨b, rfl⟩ | ⟨n, rfl, -⟩ | ⟨d, rfl, hd, -⟩
    · rw [Value.isLost, isMissing_missing hs] at h
      cases h
    · rw [Value.isLost_bool .double b] at h
      cases h
    · exact .nearest n
    · rw [(Value.asNumber_of_holds .double (.double hd)).2] at h
      cases h

lemma doesBest_number (decompose : Bool) (hv : v.WellFormed) (hs : v.type.IsNumber) (ht : t.IsNumber) :
    DoesBest decompose v t := by
  refine doesBest_of_map (fun x => x.isLost t = true) (castTo_number decompose hv hs ht) rfl rfl ?_ ?_
  · intro i
    rw [mem_sortedPositions, lostPositions, mem_positionsOf]
  · intro x hx
    have hheld := (hv.number_stored hs).2 x hx
    cases hm : x.isMissing with
    | true =>
      refine .of_missing hm ?_ ?_
      · rw [Value.asNumber_of_isMissing t hm]
        exact isMissing_missing ht
      · rw [Value.isLost, hm]
        exact Bool.false_ne_true
    | false =>
      refine .of_present hm ?_
      cases hlost : x.isLost t with
      | true => exact .inr ⟨rfl, leftOver_of_isLost hs ht hheld hlost⟩
      | false =>
        have hkept := Represents.number ht (holds_asNumber hs ht hheld) (same_of_isLost_eq_false hm hlost)
        exact .inl ⟨Bool.false_ne_true, .inr hkept⟩

lemma doesBest_toLevels {levels : List Value} (decompose : Bool) (hv : v.WellFormed) (htype : HasLevels v.type)
    (hlevels : LegalLevels levels) : DoesBest decompose v (.categorical levels) := by
  obtain ⟨r, hr, hrelevels⟩ := castTo_relevels decompose hv htype hlevels
  have hflagged : ∀ i, i ∈ r.lossy ↔ ∃ x, v.values[i]? = some x ∧ (v.type.same (.categorical levels) = false ∧
      x.isMissing = false ∧ (carried levels v x).isMissing = true) := by
    intro i
    rw [hrelevels.flagged_iff]
    exact ⟨fun ⟨hne, x, hx, h⟩ => ⟨x, hx, hne, h⟩, fun ⟨x, hx, hne, h⟩ => ⟨hne, x, hx, h⟩⟩
  refine doesBest_of_map _ hr hrelevels.type hrelevels.values hflagged fun x hx => ?_
  cases hm : x.isMissing with
  | true => exact .of_missing hm (carried_of_isMissing levels v hm) fun h => Bool.noConfusion h.2.1
  | false =>
    refine .of_present hm ?_
    cases hsame : v.type.same (.categorical levels) with
    | true => exact .inl ⟨fun h => Bool.noConfusion h.1, .inl rfl⟩
    | false =>
      have hpayload := samePayload_eq_false htype hsame
      cases hcarried : (carried levels v x).isMissing with
      | true => exact .inr ⟨⟨rfl, rfl, rfl⟩, .nothing hcarried⟩
      | false =>
        have hkept := Represents.level (Engine.carried_mem hpayload hcarried) (same_of_carried hpayload hcarried)
        exact .inl ⟨fun h => Bool.noConfusion h.2.2, .inr hkept⟩

lemma doesBest_levelTexts {levels : List Value} (decompose : Bool) (hv : v.WellFormed)
    (hs : v.type = .categorical levels) : DoesBest decompose v .character := by
  refine doesBest_of_map (fun _ => False) (castTo_levelTexts hv hs) rfl rfl not_mem_nil_iff fun x _ => ?_
  cases hm : x.isMissing with
  | true => exact .of_missing hm rfl id
  | false => exact .of_present hm (.inl ⟨id, .inr (.text hm)⟩)

lemma doesBest_instants {a b : Option Zone} (decompose : Bool) (hv : v.WellFormed) (hs : v.type = .datetime a) :
    DoesBest decompose v (.datetime b) := by
  refine doesBest_of_map (g := Value.onClock b) (fun _ => False) (castTo_rezoned decompose hv hs b) rfl rfl
    not_mem_nil_iff ?_
  intro x hx
  rcases datetime_cases hv hs hx with rfl | ⟨t, rfl⟩
  · exact .of_missing rfl rfl id
  · exact .of_present rfl (.inl ⟨id, .inr (.instant t a b)⟩)

lemma bestEffort_day {t : Int} {zone : Option Zone} (hrange : Reading.inRange t = true)
    (hshown : Reading.inRange (Clocks.standard.shown t zone) = true) :
    BestEffort (.datetime zone) .date (.instant t zone) (dayOf .standard (.instant t zone))
      (isCutOff .standard (.instant t zone) = true) := by
  have hread : Caster.readingOf? .standard (.instant t zone) = some (Clocks.standard.shown t zone) := by
    rw [readingOf?_instant hrange, Reading.stored?_of_inRange hshown]
  have hcut : isCutOff .standard (.instant t zone) = true ↔ Reading.timeOfDay (Clocks.standard.shown t zone) ≠ 0 := by
    rw [isCutOff, hread]
    exact decide_eq_true_iff
  rw [dayOf, hread]
  refine .of_present rfl ?_
  by_cases hmidnight : Reading.timeOfDay (Clocks.standard.shown t zone) = 0
  · exact .inl ⟨fun h => hcut.1 h hmidnight, .inr (.day hmidnight)⟩
  · exact .inr ⟨hcut.2 hmidnight, .day t zone⟩

lemma doesBest_days {zone : Option Zone} (decompose : Bool) (hv : v.WellFormed) (hs : v.type = .datetime zone)
    (hshown : ∀ t, .instant t zone ∈ v.values → Reading.inRange (Clocks.standard.shown t zone) = true) :
    DoesBest decompose v .date := by
  refine doesBest_of_map (fun x => isCutOff .standard x = true) (castTo_days standard_tellsTimeBy hs) rfl rfl ?_ ?_
  · intro i
    rw [mem_sortedPositions]
    exact mem_positionsOf _ _ i
  · intro x hx
    rw [hs]
    cases (onClock_of_datetime hv hs).held x hx with
    | noInstant => exact .of_missing rfl rfl Bool.false_ne_true
    | instant _ _ hrange => exact bestEffort_day hrange (hshown _ hx)

/-- **One day out of range ends the cast of all days.** -/
theorem castTo_of_outOfRange (decompose : Bool) (h : OutOfRange v t) :
    standard.castTo decompose v t = .error (.refused .outOfBounds) := by
  obtain ⟨hs, ⟨zone, rfl⟩, day, hday, hrange⟩ := h
  exact castTo_outOfBounds standard_tellsTimeBy hs hday hrange

/-- A midnight is kept where it is shown once, and flagged otherwise. -/
lemma Placement.bestEffort {zone : Zone} {day : Int} {flagged : Bool} (h : Placement zone day y flagged)
    (hrange : Reading.inRange (Reading.ofDay day) = true)
    (hheld : ∀ i, zone.rules.reading i = Reading.ofDay day → (∀ j, zone.rules.reading j = Reading.ofDay day → j = i) →
      Reading.inRange i = false → Reading.stored? i = none) :
    BestEffort .date (.datetime (some zone)) (.period day) y (flagged = true) := by
  refine .of_present rfl ?_
  cases h with
  | once shown only range => exact .inl ⟨Bool.false_ne_true, .inr (.midnight hrange shown only range)⟩
  | @beyond t _ shown only out unheld =>
    have hnone := hheld t shown only out
    rw [Value.stamp, hnone]
    exact .inr ⟨unheld hnone, .nothing rfl⟩
  | twice => exact .inr ⟨rfl, .nothing rfl⟩
  | skipped never => exact .inr ⟨rfl, .moved never⟩

lemma doesBest_midnights (decompose : Bool) {zone : Option Zone} (hv : v.WellFormed) (hs : v.type = .date)
    (hrange : ∀ day, .period day ∈ v.values → Reading.inRange (Reading.ofDay day) = true)
    (hbegins : ¬ BeginsBeyond v (.datetime zone)) : DoesBest decompose v (.datetime zone) := by
  have hr : standard.castTo decompose v (.datetime zone) = .ok _ :=
    castTo_starts standard_tellsTimeBy hs (midnight_of_inRange hrange)
  refine doesBest_of_map (fun x => isMoved .standard zone x = true) hr rfl rfl ?_ ?_
  · intro i
    rw [mem_sortedPositions]
    exact mem_positionsOf _ _ i
  · intro x hx
    rw [hs]
    rcases date_cases hv hs hx with rfl | ⟨day, rfl⟩
    · cases zone <;> exact .of_missing rfl rfl Bool.false_ne_true
    · cases zone with
      | none =>
        have hnaive := Represents.naive (hrange day hx)
        exact .of_present rfl (.inl ⟨Bool.false_ne_true, .inr hnaive⟩)
      | some z =>
        refine (placement z (hrange day hx)).bestEffort (hrange day hx) ?_
        intro i shown only out
        by_contra hheld
        exact hbegins ⟨hs, z, rfl, day, i, hx, shown, only, out, hheld⟩

/-! ### Values beyond -/

/-- A cast that does its best does so with each value that it replaces. -/
lemma DoesBest.of_map {g : Value → Value} {flag : Value → Prop} (h : DoesBest decompose v t)
    (hr : standard.castTo decompose v t = .ok r) (hvalues : r.vector.values = v.values.map g)
    (hlossy : ∀ i, i ∈ r.lossy ↔ ∃ x, v.values[i]? = some x ∧ flag x) (hx : x ∈ v.values) :
    BestEffort v.type t x (g x) (flag x) := by
  obtain ⟨s, hs, -, -, hbest⟩ := h
  cases hr.symm.trans hs
  obtain ⟨i, hi⟩ := List.mem_iff_getElem?.1 hx
  have hy : r.vector.values[i]? = some (g x) := by
    rw [hvalues, List.getElem?_map, hi]
    rfl
  have hflag : i ∈ r.lossy ↔ flag x := by
    rw [hlossy, hi]
    simp
  rw [← hflag]
  exact hbest i x (g x) hi hy

/-- A vector whose kind has a caster of its own for the target does its best there, if nothing in it is out of range. -/
lemma doesBest_of_caster? (decompose : Bool) (hv : v.WellFormed) (hbuilt : v.type.isBuiltIn = true)
    (ht : t.IsStandard) (hbuilt' : t.isBuiltIn = true) (hsource : v.type ≠ .list) (htarget : t ≠ .list)
    (hc : caster? v.type t = some c) (hrange : ¬ OutOfRange v t) (hbegins : ¬ BeginsBeyond v t)
    (hshown : ¬ ShownBeyond v t) : DoesBest decompose v t := by
  have hs := hv.standard
  have hnumber : v.type.IsNumber → t.IsNumber → DoesBest decompose v t := doesBest_number decompose hv
  have hself : v.type = t → (∀ levels, v.type ≠ .categorical levels) → DoesBest decompose v t := by
    rintro rfl hnot
    exact doesBest_unchanged decompose hv hs hnot (same_refl hs)
  generalize hst : v.type = s at *
  cases hs with
  | null => cases hc
  | unspecified => cases hc
  | list => exact absurd rfl hsource
  | binned => cases hbuilt
  | logical | integer | double =>
    cases ht with
    | logical | integer | double => exact hnumber (by constructor) (by constructor)
    | list => exact absurd rfl htarget
    | binned => cases hbuilt'
    | _ => cases hc
  | character =>
    cases ht with
    | character => exact hself rfl (by rintro levels ⟨⟩)
    | categorical hlevels => exact doesBest_toLevels decompose hv (hst ▸ .texts) hlevels
    | list => exact absurd rfl htarget
    | _ => cases hc
  | categorical =>
    cases ht with
    | character => exact doesBest_levelTexts decompose hv hst
    | categorical hlevels => exact doesBest_toLevels decompose hv (hst ▸ .levels _) hlevels
    | list => exact absurd rfl htarget
    | _ => cases hc
  | date =>
    cases ht with
    | date => exact hself rfl (by rintro levels ⟨⟩)
    | datetime =>
      exact doesBest_midnights decompose hv hst (fun _ => inRange_of_not_outOfRange hrange hst) hbegins
    | list => exact absurd rfl htarget
    | _ => cases hc
  | datetime zone =>
    cases ht with
    | date =>
      refine doesBest_days decompose hv hst ?_
      intro i hi
      by_contra hout
      exact hshown ⟨rfl, zone, hst, i, hi, Bool.not_eq_true _ ▸ hout⟩
    | datetime => exact doesBest_instants decompose hv hst
    | list => exact absurd rfl htarget
    | _ => cases hc

/-- A caster makes something of all values, whatever it is worth, if no midnight is out of range. -/
lemma exists_castTo_of_caster? (decompose : Bool) (hv : v.WellFormed) (hbuilt : v.type.isBuiltIn = true)
    (ht : t.IsStandard) (hbuilt' : t.isBuiltIn = true) (hsource : v.type ≠ .list) (htarget : t ≠ .list)
    (hc : caster? v.type t = some c) (hrange : ¬ OutOfRange v t) : ∃ r, standard.castTo decompose v t = .ok r := by
  by_cases hbegins : BeginsBeyond v t
  · obtain ⟨hs, zone, rfl, -⟩ := hbegins
    exact ⟨_, castTo_starts standard_tellsTimeBy hs (midnight_of_inRange fun _ => inRange_of_not_outOfRange hrange hs)⟩
  by_cases hshown : ShownBeyond v t
  · obtain ⟨rfl, zone, hs, -⟩ := hshown
    exact ⟨_, castTo_days standard_tellsTimeBy hs⟩
  obtain ⟨r, hr, -⟩ := doesBest_of_caster? decompose hv hbuilt ht hbuilt' hsource htarget hc hrange hbegins hshown
  exact ⟨r, hr⟩

end Registry

end Coercion
