import Coercion.Proofs.Cast.Kept
import Coercion.Proofs.Zone.Sources
import Mathlib.Tactic

/-!
Conversions between clocks. A datetime that is shown on another clock keeps its instant, where a reading without a zone
is one of universal time. Readings are kept as numbers and universal time is never ahead of itself, so no reading is
skipped or repeated on the way, and the clocks in between leave no trace.
-/

namespace Coercion

namespace Registry

open Column VectorType

variable {v : TypedVector}

/-- The instant that a datetime refers to. A reading without a zone is one of the clock of universal time. -/
inductive RefersTo : Value → Int → Prop where
  | shown (t : Int) (zone : Zone) : RefersTo (.instant t (some zone)) t
  | universal {r : Reading} {t : Int} (shown : Zone.utc.rules.reading t = r) : RefersTo (.instant r none) t

/-- Two elements that are both missing, or that refer to the same instant. -/
inductive SameInstant : Value → Value → Prop where
  | missing {x y : Value} (first : x.isMissing = true) (second : y.isMissing = true) : SameInstant x y
  | instant {x y : Value} {t : Int} (refers : RefersTo x t) (same : ∀ s, RefersTo x s ↔ RefersTo y s) :
    SameInstant x y

/-- Whether a cast shows a datetime vector on another clock without touching its elements. -/
structure ShownOn (decompose : Bool) (zone : Option Zone) (v w : TypedVector) : Prop where
  /-- Nothing is flagged on the way. -/
  reached : standard.castTo decompose v (.datetime zone) = .ok ⟨w, []⟩
  type : w.type = .datetime zone
  wellFormed : w.WellFormed
  instants : List.Forall₂ SameInstant v.values w.values

/-! ### Universal time -/

lemma refersTo_instant_iff (t s : Int) (zone : Option Zone) : RefersTo (.instant t zone) s ↔ t = s := by
  constructor
  · intro h
    cases h with
    | shown => rfl
    | universal shown => rw [← shown, Zone.reading_utc]
  · rintro rfl
    cases zone with
    | some z => exact .shown t z
    | none => exact .universal (Zone.reading_utc t)

lemma sameInstant_instant (t : Int) (a b : Option Zone) : SameInstant (.instant t a) (.instant t b) := by
  refine .instant ((refersTo_instant_iff t t a).2 rfl) ?_
  intro s
  rw [refersTo_instant_iff, refersTo_instant_iff]

/-! ### Clocks one after the other -/

/-- Instants on another clock make a datetime vector. -/
lemma wellFormed_of_onClock {c : Column} {zone : Option Zone} (h : c.OnClock zone) :
    TypedVector.WellFormed ⟨.datetime zone, c⟩ where
  standard := .datetime zone
  stored := by
    change c.dtype.same (.instants "ns" zone) = true
    rw [h.dtype]
    exact Dtype.same_refl (by rintro levels ⟨⟩)
  held := by
    change ∀ x ∈ c.values, c.dtype.Holds x
    rw [h.dtype]
    exact h.held
  admitted _ _ := trivial

/-- The steps from clock to clock keep the instants of a datetime vector. -/
lemma shownOn_localize (decompose : Bool) {a b : Option Zone} {c : Column} (hv : v.WellFormed)
    (hs : v.type = .datetime a) (hc : v.column.localize b = .ok c) : ShownOn decompose b v ⟨.datetime b, c⟩ where
  reached := castTo_localize decompose hv hs hc
  type := rfl
  wellFormed := wellFormed_of_onClock ((onClock_of_datetime hv hs).of_localize hc)
  instants := by
    have hclock := onClock_of_datetime hv hs
    rw [hclock.localize_eq] at hc
    cases hc
    change List.Forall₂ SameInstant v.values (v.values.map (Value.onClock b))
    rw [List.forall₂_map_right_iff, List.forall₂_same]
    intro x hx
    cases hclock.held x hx with
    | noInstant => exact .missing rfl rfl
    | @instant _ _ t _ => exact sameInstant_instant t a b

/-- A datetime vector is equal to itself, missing positions included. -/
lemma same_self_of_datetime {a : Option Zone} (hv : v.WellFormed) (hs : v.type = .datetime a) :
    v.same v = true := by
  have hidentical : Value.identicalAll v.values v.values = true := by
    refine Value.identicalAll_self fun x hx => identical_self_of_holds (.datetime a) ?_
    exact (onClock_of_datetime hv hs).held x hx
  change (v.type.same v.type && Value.identicalAll v.values v.values) = true
  rw [same_refl hv.standard, hidentical]
  rfl

/-- **Conversions between clocks do not depend on the path.** Casts between datetimes flag nothing and keep every
instant. A clock in between makes no difference to where a vector arrives, and the way back leads to the vector
itself. -/
theorem castTo_clocks (decompose : Bool) {a : Option Zone} (b c : Option Zone) (hv : v.WellFormed)
    (hs : v.type = .datetime a) :
    ∃ between direct around back, ShownOn decompose b v between ∧
      (ShownOn decompose c v direct ∧ ShownOn decompose c between around ∧ around.same direct = true) ∧
      ShownOn decompose a between back ∧ back.same v = true := by
  have hclock := onClock_of_datetime hv hs
  obtain ⟨between, hbetween⟩ : ∃ between, v.column.localize b = .ok between := ⟨_, hclock.localize_eq b⟩
  obtain ⟨direct, hdirect⟩ : ∃ direct, v.column.localize c = .ok direct := ⟨_, hclock.localize_eq c⟩
  have hwell := wellFormed_of_onClock (hclock.of_localize hbetween)
  -- from the clock in between, the steps lead where they lead from the first one
  have honward : between.localize c = .ok direct := (hclock.localize_localize hbetween c).trans hdirect
  have hback : between.localize a = .ok v.column := (hclock.localize_localize hbetween a).trans hclock.localize_self
  refine ⟨⟨.datetime b, between⟩, ⟨.datetime c, direct⟩, ⟨.datetime c, direct⟩, ⟨.datetime a, v.column⟩,
    shownOn_localize decompose hv hs hbetween, ⟨shownOn_localize decompose hv hs hdirect,
      shownOn_localize decompose hwell rfl honward, ?_⟩, shownOn_localize decompose hwell rfl hback, ?_⟩
  · exact same_self_of_datetime (wellFormed_of_onClock (hclock.of_localize hdirect)) rfl
  · rw [← hs]
    exact same_self_of_datetime hv hs

/-- A reading without a zone, before a missing one. -/
def readingBeforeMissing : TypedVector :=
  ⟨.datetime none, ⟨.instants "ns" none, [.instant 0 none, .notATime]⟩⟩

lemma wellFormed_readingBeforeMissing : readingBeforeMissing.WellFormed where
  standard := .datetime none
  stored := rfl
  held x hx := by
    rcases List.mem_cons.1 hx with rfl | hx
    · exact .instant "ns" none (by decide)
    · rw [List.mem_singleton.1 hx]
      exact .noInstant "ns" none
  admitted _ _ := trivial

/-- From readings of universal time to the clock of Tokyo, on to one that is half an hour off, and back. -/
theorem castTo_clocks_tokyo :
    ∃ between direct around back, ShownOn true (some (.named "Asia/Tokyo")) readingBeforeMissing between ∧
      (ShownOn true (some (.fixed 330)) readingBeforeMissing direct ∧
        ShownOn true (some (.fixed 330)) between around ∧ around.same direct = true) ∧
      ShownOn true none between back ∧ back.same readingBeforeMissing = true :=
  castTo_clocks true (some (.named "Asia/Tokyo")) (some (.fixed 330)) wellFormed_readingBeforeMissing rfl

end Registry

end Coercion
