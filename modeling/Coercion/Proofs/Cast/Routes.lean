import Coercion.Proofs.Cast.Search
import Coercion.Proofs.Registry.Tables
import Coercion.Proofs.Unify.Kindred
import Coercion.Proofs.Vector.Construct

/-!
Routes of casts between standard types. A well-formed vector reaches every type that its own type fits, with a column
that can be joined to others of that type. Only dates may fail on their way, if they leave the range of datetimes.
-/

namespace Coercion

/-! ### Well-formed vectors by type -/

namespace TypedVector.WellFormed

variable {v : TypedVector}

lemma dtype_eq (h : v.WellFormed) (hnot : ∀ levels, v.type ≠ .categorical levels) :
    v.column.dtype = v.type.storage :=
  Dtype.eq_of_same h.stored (VectorType.storage_ne_category h.standard hnot)

lemma hashable_of_categorical (h : v.WellFormed) {levels : List Value} (ht : v.type = .categorical levels) :
    ∀ x ∈ v.values, x.unhashable? = none := by
  have hstandard := h.standard
  have hstored := h.stored
  rw [ht] at hstandard hstored
  obtain ⟨ls, hls, hsame⟩ := Dtype.eq_category_of_same hstored
  cases hstandard with
  | categorical hlevels =>
    have hstoredLevels :=
      VectorType.unhashable?_storedLevels fun w hw => (hlevels.level w hw).hashable
    intro x hx
    have hheld := h.held x hx
    rw [hls] at hheld
    cases hheld with
    | noLevel => rfl
    | level hmem =>
      obtain ⟨w, hw, hxw⟩ := Value.exists_same_of_mem hsame hmem
      rw [Value.same_unhashable? hxw, hstoredLevels w hw]

end TypedVector.WellFormed

/-! ### Routes -/

namespace Registry

open VectorType

variable {s t : VectorType}

lemma route_of_same {decompose : Bool} (h : s.same t = true) : standard.route decompose s t = .unchanged :=
  (Takes.unchanged h).route_eq

/-- Between two kinds with values there is the caster of the table. -/
lemma route_direct {decompose : Bool} (hs : s.IsStandard) (ht : t.IsStandard) (hne : s.same t = false) {c : Caster}
    (hc : caster? s t = some c) : standard.route decompose s t = .direct c := by
  have needed : NeedsCaster s t := by
    refine ⟨hne, ?_, ?_, ?_⟩ <;> rintro rfl
    · cases hc
    · cases hc
    · cases hs <;> cases hc
  have hfound := (casterFor?_standard hs ht).trans hc
  exact (Takes.direct needed hfound).route_eq

/-- Without a caster for the two kinds, and without a way through the decomposed form, a cast is refused. -/
lemma route_refused {decompose : Bool} (hs : s.IsStandard) (ht : t.IsStandard) (hsome : s.isTyped = true)
    (hnull : t ≠ .null) (hne : s.same t = false) (hc : caster? s t = none)
    (hdetour : decompose = false ∨ caster? .list t = none) : standard.route decompose s t = .direct .noCast := by
  have needed : NeedsCaster s t := by
    refine ⟨hne, ?_, ?_, hnull⟩ <;> rintro rfl <;> cases hsome
  have noDetour : ∀ c d, ¬ Detour standard decompose s t c d := by
    intro c d detour
    rcases hdetour with hforbidden | hnone
    · rw [detour.allowed] at hforbidden
      cases hforbidden
    · have htogether := (casterFor?_standard .list ht).symm.trans detour.together
      rw [hnone] at htogether
      cases htogether
  have hfallback : standard.casterFor? s.tag .any = some .noCast := by
    rw [casterFor?_any hs]
    cases hs <;> first | rfl | cases hsome
  have hfound := (casterFor?_standard hs ht).trans hc
  exact (Takes.fallback needed hfound noDetour hfallback).route_eq

lemma route_fromNull {decompose : Bool} (hne : VectorType.same .null t = false) :
    standard.route decompose .null t = .fromNull := by
  have hnull : t ≠ .null := by
    rintro rfl
    cases hne
  exact (Takes.fromNull hne hnull rfl).route_eq

lemma route_fromUnspecified {decompose : Bool} (hne : VectorType.same .unspecified t = false) (hnull : t ≠ .null) :
    standard.route decompose .unspecified t = .fromUnspecified :=
  (Takes.fromUnspecified hne hnull rfl).route_eq

/-- A vector that has the target's type already, with the same payload. -/
lemma castWithin_unchanged {v : TypedVector} {decompose : Bool} (fuel : Nat) (h : v.type.same t = true)
    (hpayload : samePayload v.type t = true) :
    standard.castWithin (fuel + 1) decompose v t = .ok ⟨⟨t, v.column⟩, []⟩ := by
  rw [castWithin, route_of_same h]
  exact if_pos hpayload

lemma castTo_unchanged {v : TypedVector} {decompose : Bool} (h : v.type.same t = true)
    (hpayload : samePayload v.type t = true) : standard.castTo decompose v t = .ok ⟨⟨t, v.column⟩, []⟩ :=
  castWithin_unchanged _ h hpayload

/-- A vector that has the target's type already, with a payload in another form. -/
lemma castTo_remade {v : TypedVector} {decompose : Bool} (h : v.type.same t = true)
    (hpayload : samePayload v.type t = false) :
    standard.castTo decompose v t = t.vectorOf v.column >>= fun w => pure ⟨w, []⟩ := by
  rw [castTo, castFuel, castWithin, route_of_same h]
  simp only [hpayload, Bool.false_eq_true, if_false]

/-- A vector without values is cast to one without values. -/
lemma castWithin_fromNull {v : TypedVector} {decompose : Bool} (fuel : Nat) (ht : t.IsStandard) (hs : v.type = .null)
    (hne : v.type.same t = false) :
    standard.castWithin (fuel + 1) decompose v t = .ok ⟨⟨t, ⟨t.storage, []⟩⟩, []⟩ := by
  have hmade : t.empty = .ok ⟨t, ⟨t.storage, []⟩⟩ := by
    rw [VectorType.empty, vectorOf, construct_eq_voided ht isVoid_ofValues_nil fun _ => rfl]
    rfl
  rw [castWithin, hs, route_fromNull (hs ▸ hne)]
  change (do return (⟨← t.empty, []⟩ : CastResult)) = _
  rw [hmade]
  rfl

/-- A vector of missing values is cast to missing values. -/
lemma castWithin_fromUnspecified {v : TypedVector} {decompose : Bool} (fuel : Nat) (ht : t.IsStandard)
    (hs : v.type = .unspecified) (hne : v.type.same t = false) (hnull : t ≠ .null) :
    standard.castWithin (fuel + 1) decompose v t = .ok ⟨⟨t, v.column.voided t.storage⟩, []⟩ := by
  have hmade : t.missingVector v.size = .ok ⟨t, v.column.voided t.storage⟩ := by
    have hvoid := construct_eq_voided ht (isVoid_absences v.size) fun h => absurd h hnull
    rw [missingVector, vectorOf, hvoid]
    simp [Column.voided, Column.ofValues, TypedVector.size, Column.size]
  rw [castWithin, hs, route_fromUnspecified (hs ▸ hne) hnull]
  change (do return (⟨← t.missingVector v.size, []⟩ : CastResult)) = _
  rw [hmade]
  rfl

lemma checked_result (ht : t.IsStandard) {v : TypedVector} {c : Column} {lossy : List Nat} (hsize : c.size = v.size) :
    (CasterOutput.result ⟨t, c⟩ lossy).checked v t = .ok ⟨⟨t, c⟩, sortedPositions lossy⟩ := by
  have hself : (t == t) = true := same_refl ht
  have hlen : ¬ TypedVector.size ⟨t, c⟩ ≠ v.size := by
    intro h
    exact h hsize
  rw [CasterOutput.checked]
  simp only [hself, Bool.not_true, Bool.false_eq_true, if_false]
  exact if_neg hlen

/-- What has been checked is a result, of which only the positions have been put in order. -/
lemma result_of_checked {output : CasterOutput} {source : TypedVector} {r : CastResult}
    (h : output.checked source t = .ok r) :
    ∃ lossy, output = .result r.vector lossy ∧ r.lossy = sortedPositions lossy := by
  cases output with
  | result w lossy =>
    rw [CasterOutput.checked] at h
    split at h
    · split at h <;> cases h
    · split_ifs at h
      cases h
      exact ⟨lossy, rfl, rfl⟩
  | noVector => cases h
  | other => cases h

lemma vector_of_checked {w source : TypedVector} {lossy : List Nat} {r : CastResult}
    (h : (CasterOutput.result w lossy).checked source t = .ok r) : r.vector = w := by
  obtain ⟨lossy', heq, -⟩ := result_of_checked h
  cases heq
  rfl

section Direct

variable {r : Registry} {v : TypedVector} {decompose : Bool} {name : String}
  {f : TypedVector → VectorType → Except Failure CasterOutput} {c : Column} {lossy : List Nat}

/-- A cast by a caster that does no casts on its way, in any registry. -/
lemma castWithin_direct (fuel : Nat) (h : r.route decompose v.type t = .direct (.plain name f)) :
    r.castWithin (fuel + 1) decompose v t = f v t >>= fun output => output.checked v t := by
  rw [castWithin, h]
  rfl

lemma castTo_direct (h : r.route decompose v.type t = .direct (.plain name f)) :
    r.castTo decompose v t = f v t >>= fun output => output.checked v t :=
  castWithin_direct _ h

/-- A caster that does no casts on its way gives the result of a cast if it gives one of the right type and size. -/
theorem castWithin_eq_ok (fuel : Nat) (ht : t.IsStandard)
    (hroute : r.route decompose v.type t = .direct (.plain name f))
    (hf : f v t = .ok (.result ⟨t, c⟩ lossy)) (hsize : c.size = v.size) :
    r.castWithin (fuel + 1) decompose v t = .ok ⟨⟨t, c⟩, sortedPositions lossy⟩ := by
  rw [castWithin_direct fuel hroute, hf]
  exact checked_result ht hsize

theorem castTo_eq_ok (ht : t.IsStandard) (hroute : r.route decompose v.type t = .direct (.plain name f))
    (hf : f v t = .ok (.result ⟨t, c⟩ lossy)) (hsize : c.size = v.size) :
    r.castTo decompose v t = .ok ⟨⟨t, c⟩, sortedPositions lossy⟩ :=
  castWithin_eq_ok _ ht hroute hf hsize

end Direct

end Registry

end Coercion
