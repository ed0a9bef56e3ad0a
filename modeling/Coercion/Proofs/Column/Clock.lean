import Coercion.Proofs.Calendar.Reading
import Coercion.Proofs.Traversal
import Coercion.Proofs.Vector.WellFormed
import Coercion.Proofs.Zone.Instants
import Coercion.Proofs.Zone.Sources

/-!
Columns of instants from clock to clock. A reading without a zone is put on the clock of universal time, instants go from
one clock to the next, and the clock of universal time is taken off again. Universal time has no offset, so neither the
first of these steps nor the last changes a number that eight bytes hold, and one undoes the other.
-/

namespace Coercion

namespace Zone

/-- Universal time has no offset. -/
lemma reading_utc (t : Int) : utc.rules.reading t = t := by
  rw [rules_utc]
  exact Int.add_zero t

/-- Universal time shows each reading once. -/
lemma onlyInstant_utc (r : Reading) : Value.onlyInstant r utc = .ok r := by
  have hshown (t : Int) : t ∈ utc.rules.instants r ↔ t = r := by
    rw [ZoneRules.mem_instants, reading_utc]
  have hnodup := utc.rules.nodup_instants r
  rw [Value.onlyInstant]
  generalize utc.rules.instants r = ts at hshown hnodup
  rcases ts with _ | ⟨t, _ | ⟨u, rest⟩⟩
  · exact absurd ((hshown r).2 rfl) List.not_mem_nil
  · rw [(hshown t).1 List.mem_cons_self]
  · have ht := (hshown t).1 List.mem_cons_self
    have hu := (hshown u).1 (List.mem_cons_of_mem t List.mem_cons_self)
    have hne := (List.pairwise_cons.1 hnodup).1 u List.mem_cons_self
    exact absurd (ht.trans hu.symm) hne

end Zone

namespace Value

/-- An instant on another clock. -/
def onClock (zone : Option Zone) : Value → Value
  | .instant t _ => .instant t zone
  | v => v

lemma offClock_instant (rules : Zone → ZoneRules) (t : Int) (z : Zone) :
    offClock rules (.instant t (some z)) = stamp ((rules z).reading t) none := rfl

lemma stamp_of_inRange {n : Int} (h : Reading.inRange n = true) (zone : Option Zone) :
    stamp n zone = .instant n zone := by
  rw [stamp, Reading.stored?_of_inRange h]

/-- A number of nanoseconds in a column is missing, or it is the one that eight bytes hold. -/
lemma stamp_cases (n : Int) (zone : Option Zone) :
    Reading.stored? n = none ∧ stamp n zone = .notATime ∨
      ∃ t, Reading.stored? n = some t ∧ stamp n zone = .instant t zone := by
  rw [stamp]
  cases Reading.stored? n with
  | none => exact .inl ⟨rfl, rfl⟩
  | some t => exact .inr ⟨t, rfl, rfl⟩

end Value

namespace Column

variable {c d : Column} {a : Option Zone}

/-- Whether a column holds instants of a zone, or readings if there is none. -/
structure OnClock (zone : Option Zone) (c : Column) : Prop where
  dtype : c.dtype = .instants "ns" zone
  held : ∀ x ∈ c.values, (Dtype.instants "ns" zone).Holds x

/-- The instants of a column shown in another zone, where readings without a zone count as instants. -/
def rezoned (zone : Option Zone) (c : Column) : Column :=
  ⟨.instants "ns" zone, c.values.map (Value.onClock zone)⟩

lemma OnClock.rezoned (h : c.OnClock a) (b : Option Zone) : (c.rezoned b).OnClock b where
  dtype := rfl
  held y hy := by
    obtain ⟨x, hx, rfl⟩ := List.mem_map.1 hy
    cases h.held x hx with
    | noInstant => exact .noInstant "ns" b
    | instant _ _ range => exact .instant "ns" b range

/-- Instants on the clock that they are on already. -/
lemma OnClock.rezoned_self (h : c.OnClock a) : c.rezoned a = c := by
  have hvalues : c.values.map (Value.onClock a) = c.values := by
    refine (List.map_congr_left fun x hx => ?_).trans (List.map_id _)
    cases h.held x hx <;> rfl
  rw [Column.rezoned, hvalues, ← h.dtype]

lemma rezoned_rezoned (first second : Option Zone) (c : Column) :
    (c.rezoned first).rezoned second = c.rezoned second := by
  rw [rezoned, rezoned, rezoned, List.map_map]
  refine congrArg (Column.mk _) (List.map_congr_left fun x _ => ?_)
  cases x <;> rfl

/-! ### The steps -/

/-- On the clock of universal time a reading is the instant of the same number. -/
lemma OnClock.toClock_utc (h : c.OnClock none) : c.toClock .utc = .ok (c.rezoned (some .utc)) := by
  rw [toClock, h.dtype]
  change (do return (⟨_, ← c.values.mapM _⟩ : Column)) = Except.ok ⟨_, c.values.map (Value.onClock (some .utc))⟩
  rw [mapM_eq_ok_map (g := Value.onClock (some .utc)) fun x hx => ?_]
  · rfl
  · cases h.held x hx with
    | noInstant => rfl
    | @instant _ _ r range =>
      change (do return Value.stamp (← Value.onlyInstant r .utc) (some .utc)) = Except.ok (Value.instant r (some .utc))
      rw [Zone.onlyInstant_utc, ← Value.stamp_of_inRange range]
      rfl

lemma otherClock_eq {z : Zone} (h : c.dtype = .instants "ns" (some z)) (zone : Zone) :
    c.otherClock zone = .ok (c.rezoned (some zone)) := by
  rw [otherClock, h, rezoned]
  refine congrArg (fun values => Except.ok (⟨_, values⟩ : Column)) (List.map_congr_left fun x _ => ?_)
  cases x <;> rfl

/-- The clock of universal time shows an instant as the reading of the same number. -/
lemma OnClock.offClock_utc (h : c.OnClock (some .utc)) : c.offClock = .ok (c.rezoned none) := by
  rw [offClock, h.dtype, Column.rezoned]
  refine congrArg (fun values => Except.ok (⟨_, values⟩ : Column)) (List.map_congr_left fun x hx => ?_)
  cases h.held x hx with
  | noInstant => rfl
  | @instant _ _ t range =>
    change Value.stamp (Zone.utc.rules.reading t) none = .instant t none
    rw [Zone.reading_utc, Value.stamp_of_inRange range]

/-! ### Steps that undo each other -/

/-- Clocks on the way from one clock to another leave no trace. -/
lemma otherClock_otherClock {z first : Zone} (h : c.dtype = .instants "ns" (some z)) (hd : c.otherClock first = .ok d)
    (second : Zone) : d.otherClock second = c.otherClock second := by
  rw [otherClock_eq h] at hd ⊢
  cases hd
  rw [otherClock_eq rfl, rezoned_rezoned]

/-- Instants stay as they are on the clock that they are on. -/
lemma OnClock.otherClock_self {z : Zone} (h : c.OnClock (some z)) : c.otherClock z = .ok c := by
  rw [otherClock_eq h.dtype, h.rezoned_self]

/-- Readings that are put on the clock of universal time are what it shows. -/
lemma OnClock.offClock_toClock (h : c.OnClock none) (hd : c.toClock .utc = .ok d) : d.offClock = .ok c := by
  rw [h.toClock_utc] at hd
  cases hd
  rw [(h.rezoned _).offClock_utc, rezoned_rezoned, h.rezoned_self]

/-- Instants whose clock of universal time is taken off and put on again are the same. -/
lemma OnClock.toClock_offClock (h : c.OnClock (some .utc)) (hd : c.offClock = .ok d) : d.toClock .utc = .ok c := by
  rw [h.offClock_utc] at hd
  cases hd
  rw [(h.rezoned _).toClock_utc, rezoned_rezoned, h.rezoned_self]

/-! ### All steps together -/

lemma OnClock.localize_none (h : c.OnClock none) : c.localize none = .ok c := by
  rw [localize.eq_def, h.dtype]

lemma OnClock.localize_toClock (h : c.OnClock none) (z : Zone) :
    c.localize (some z) = (do (← c.toClock .utc).otherClock z) := by
  rw [localize.eq_def, h.dtype]

lemma OnClock.localize_offClock {z : Zone} (h : c.OnClock (some z)) :
    c.localize none = (do (← c.otherClock .utc).offClock) := by
  rw [localize.eq_def, h.dtype]

lemma OnClock.localize_otherClock {first : Zone} (h : c.OnClock (some first)) (second : Zone) :
    c.localize (some second) = c.otherClock second := by
  rw [localize.eq_def, h.dtype]

/-- **Steps between clocks keep instants.** On the way from one clock to another, or to none, nothing is changed but the
zone. -/
theorem OnClock.localize_eq (h : c.OnClock a) (b : Option Zone) : c.localize b = .ok (c.rezoned b) := by
  cases a with
  | none =>
    cases b with
    | none => rw [h.localize_none, h.rezoned_self]
    | some z =>
      rw [h.localize_toClock, h.toClock_utc]
      change (c.rezoned (some .utc)).otherClock z = _
      rw [otherClock_eq rfl, rezoned_rezoned]
  | some first =>
    cases b with
    | none =>
      rw [h.localize_offClock, otherClock_eq h.dtype]
      change (c.rezoned (some .utc)).offClock = _
      rw [(h.rezoned _).offClock_utc, rezoned_rezoned]
    | some second => rw [h.localize_otherClock, otherClock_eq h.dtype]

/-- Steps to a clock end on it. -/
lemma OnClock.of_localize {b : Option Zone} (h : c.OnClock a) (hd : c.localize b = .ok d) : d.OnClock b := by
  rw [h.localize_eq] at hd
  cases hd
  exact h.rezoned b

/-- Steps to the clock that a column is on change nothing. -/
lemma OnClock.localize_self (h : c.OnClock a) : c.localize a = .ok c := by
  rw [h.localize_eq, h.rezoned_self]

/-- **The way between clocks does not matter.** The steps to a clock, or to none, and on to another one lead where the
steps lead that go there at once. -/
theorem OnClock.localize_localize (h : c.OnClock a) {b : Option Zone} (hd : c.localize b = .ok d) (z : Option Zone) :
    d.localize z = c.localize z := by
  have hclock := h.of_localize hd
  cases a with
  | none =>
    cases b with
    | none =>
      rw [h.localize_none] at hd
      cases hd
      rfl
    | some y =>
      -- the readings are instants of universal time first, and these are on the way to any other clock
      rw [h.localize_toClock] at hd
      obtain ⟨e, he, hd⟩ := bind_eq_ok_iff.1 hd
      have huniversal : e.OnClock (some .utc) := by
        rw [h.toClock_utc] at he
        cases he
        exact h.rezoned _
      cases z with
      | none =>
        rw [hclock.localize_offClock, otherClock_otherClock huniversal.dtype hd, huniversal.otherClock_self,
          h.localize_none]
        exact h.offClock_toClock he
      | some z =>
        rw [hclock.localize_otherClock, otherClock_otherClock huniversal.dtype hd, h.localize_toClock, he]
        rfl
  | some x =>
    cases b with
    | none =>
      rw [h.localize_offClock] at hd
      obtain ⟨e, he, hd⟩ := bind_eq_ok_iff.1 hd
      have huniversal : e.OnClock (some .utc) := by
        rw [otherClock_eq h.dtype] at he
        cases he
        exact h.rezoned _
      cases z with
      | none =>
        rw [hclock.localize_none, h.localize_offClock, he]
        exact hd.symm
      | some z =>
        rw [hclock.localize_toClock, huniversal.toClock_offClock hd, h.localize_otherClock]
        exact otherClock_otherClock h.dtype he z
    | some y =>
      rw [h.localize_otherClock] at hd
      cases z with
      | none => rw [hclock.localize_offClock, h.localize_offClock, otherClock_otherClock h.dtype hd]
      | some z => rw [hclock.localize_otherClock, h.localize_otherClock, otherClock_otherClock h.dtype hd]

/-! ### Instants that are read -/

section Instants

variable {lead : Option String} {seen : Option (Option Provenance)} {xs : List Value} {read : List (Option ReadInstant)}

/-- Values are read as instants one by one, within the range of storage. -/
lemma forall₂_readInstants (h : readInstants lead seen xs = .ok read) :
    List.Forall₂ (fun x i => readInstant lead x = .ok i ∧ ∀ j ∈ i, Reading.inRange j.instant = true) xs read := by
  -- the zone seen last decides whether a value is refused, and not what is read of it
  induction xs generalizing seen read with
  | nil =>
    cases h
    exact .nil
  | cons x xs ih =>
    obtain ⟨i, hi, h⟩ := bind_eq_ok_iff.1 h
    cases i with
    | none =>
      obtain ⟨rest, hrest, h⟩ := bind_eq_ok_iff.1 h
      cases h
      exact .cons ⟨hi, by simp⟩ (ih hrest)
    | some i =>
      dsimp only at h
      split_ifs at h with _ hrange
      · cases h
      · cases h
      · obtain ⟨rest, hrest, h⟩ := bind_eq_ok_iff.1 h
        cases h
        exact .cons ⟨hi, by simpa using hrange⟩ (ih hrest)

end Instants

/-- What has been read is held on any clock. -/
lemma onClock_readMoments {read : List (Option ReadInstant)} (h : c.readMoments = .ok read) (zone : Option Zone) :
    OnClock zone ⟨.instants "ns" zone, read.map (Value.ofRead zone)⟩ where
  dtype := rfl
  held y hy := by
    obtain ⟨i, hi, rfl⟩ := List.mem_map.1 hy
    cases i with
    | none => exact .noInstant "ns" zone
    | some i =>
      have hread : readInstants c.leadingText none c.values = .ok read := by
        rw [readMoments] at h
        split at h <;> first | exact h | cases h
      obtain ⟨x, -, -, hrange⟩ := exists_mem_of_forall₂ (forall₂_readInstants hread) hi
      exact .instant "ns" zone (hrange i rfl)

/-- What has been read is shown in the zone that is asked for. -/
theorem toInstants_eq (zone : Option Zone) (c : Column) :
    c.toInstants zone = (do return ⟨.instants "ns" zone, (← c.readMoments).map (Value.ofRead zone)⟩) := by
  rw [toInstants]
  cases hread : c.readMoments with
  | error f =>
    rw [toMoments, hread]
    rfl
  | ok read =>
    -- the zone in which the instants are read is another one, but they stay the same
    obtain ⟨first, hmoments⟩ :
        ∃ first, c.toMoments = .ok ⟨.instants "ns" first, read.map (Value.ofRead first)⟩ := by
      rw [toMoments, hread]
      exact ⟨_, rfl⟩
    rw [hmoments]
    change Column.localize zone ⟨.instants "ns" first, read.map (Value.ofRead first)⟩ = _
    rw [(onClock_readMoments hread first).localize_eq, rezoned, List.map_map]
    refine congrArg (fun values => Except.ok (⟨_, values⟩ : Column)) (List.map_congr_left fun i _ => ?_)
    cases i <;> rfl

end Column

end Coercion
