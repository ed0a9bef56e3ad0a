import Coercion.Proofs.Cast.Search
import Coercion.Proofs.Unify.Fold
import Coercion.Proofs.Vector.WellFormed

/-!
Levels in another order. A type whose levels are listed in another order is equal to it, is unified with others in the
same way, up to the order of the levels that are found, and its vectors are cast along the same routes.
-/

namespace Coercion

open Value

variable {a a' b b' : List Value}

/-! ### Lists of levels -/

lemma Value.isIn_perm (h : a.Perm a') (v : Value) : v.isIn a = v.isIn a' :=
  h.any_eq

lemma LegalLevels.perm (h : LegalLevels a) (hp : a.Perm a') : LegalLevels a' where
  level v hv := h.level v (hp.mem_iff.2 hv)
  distinct := by
    have hsymm : ∀ {v w : Value}, v.same w = false → w.same v = false := by
      intro v w hvw
      rw [Bool.eq_false_iff] at hvw ⊢
      intro hwv
      exact hvw (same_symm hwv)
    exact (hp.pairwise_iff hsymm).1 h.distinct

namespace VectorType

lemma covers_perm (ha : a.Perm a') (hb : b.Perm b') : covers a b = covers a' b' := by
  rw [covers, covers, hb.all_eq]
  exact congrArg b'.all (funext fun v => isIn_perm ha v)

lemma unionLevels_perm (ha : a.Perm a') (hb : b.Perm b') : (unionLevels a b).Perm (unionLevels a' b') := by
  have hnew : (fun v : Value => !v.isIn a) = fun v => !v.isIn a' := funext fun v => by rw [isIn_perm ha]
  rw [unionLevels, unionLevels, hnew]
  exact ha.append (hb.filter _)

lemma storedLevels_perm (h : a.Perm a') : (storedLevels a).Perm (storedLevels a') := by
  have hstored := h.map storedLevel
  simp only [storedLevels, hstored.all_eq, hstored.any_eq]
  split_ifs
  · exact hstored.map widenedLevel
  · exact hstored

/-! ### Types -/

/-- Whether two types are the same but for the order in which levels are listed. -/
inductive Reordered : VectorType → VectorType → Prop where
  | refl (t : VectorType) : Reordered t t
  | levels {a b : List Value} (perm : a.Perm b) : Reordered (.categorical a) (.categorical b)

variable {s s' t t' x x' y y' : VectorType} {strict : Bool}

namespace Reordered

lemma symm (h : t.Reordered t') : t'.Reordered t := by
  cases h with
  | refl => exact .refl t
  | levels perm => exact .levels perm.symm

lemma isStandard (h : t.Reordered t') (ht : t.IsStandard) : t'.IsStandard := by
  cases h with
  | refl => exact ht
  | levels perm =>
    cases ht with
    | categorical legal => exact .categorical (legal.perm perm)

lemma tag_eq (h : t.Reordered t') : t.tag = t'.tag := by cases h <;> rfl

/-- A type without levels is left as it is. -/
lemma eq_of_eq {u : VectorType} (h : t.Reordered t') (hnot : ∀ levels, u ≠ .categorical levels) (ht : t = u) :
    t' = u := by
  subst ht
  cases h with
  | refl => rfl
  | levels => exact absurd rfl (hnot _)

/-- Two such types list the same levels, or they have none. -/
lemma levels_or_eq (h : t.Reordered t') :
    (∃ a b, t = .categorical a ∧ t' = .categorical b ∧ a.Perm b) ∨ t' = t ∧ ∀ levels, t ≠ .categorical levels := by
  cases h with
  | refl =>
    cases t with
    | categorical a => exact .inl ⟨a, a, rfl, rfl, .refl a⟩
    | _ => exact .inr ⟨rfl, fun _ => VectorType.noConfusion⟩
  | levels perm => exact .inl ⟨_, _, rfl, rfl, perm⟩

/-- Equality of types does not depend on the order of levels. -/
lemma same_eq (hs : s.Reordered s') (ht : t.Reordered t') : s.same t = s'.same t' := by
  cases hs with
  | refl =>
    cases ht with
    | refl => rfl
    | levels perm =>
      cases s with
      | categorical a => rw [VectorType.same, VectorType.same, covers_perm (.refl a) perm, covers_perm perm (.refl a)]
      | _ => rfl
  | levels perm =>
    cases ht with
    | refl =>
      cases t with
      | categorical b => rw [VectorType.same, VectorType.same, covers_perm (.refl b) perm, covers_perm perm (.refl b)]
      | _ => rfl
    | levels perm' => rw [VectorType.same, VectorType.same, covers_perm perm perm', covers_perm perm' perm]

lemma same (h : t.Reordered t') (ht : t.IsStandard) : t.same t' = true := by
  rw [← (Reordered.refl t).same_eq h]
  exact same_refl ht

end Reordered

/-! ### Common types -/

lemma rel_refl (o : Option VectorType) : Option.Rel Reordered o o := by
  cases o with
  | none => exact .none
  | some t => exact .some (.refl t)

lemma common?_reorderedLevels (strict : Bool) (ha : a.Perm a') (hb : b.Perm b') :
    Option.Rel Reordered (common? strict (.categorical a) (.categorical b))
      (common? strict (.categorical a') (.categorical b')) := by
  simp only [common?, covers_perm ha hb, covers_perm hb ha]
  split_ifs
  · exact .some (.levels ha)
  · exact .some (.levels hb)
  · exact .none
  · exact .some (.levels (unionLevels_perm ha hb))

/-- The common type of two types is the same but for the order of its levels. -/
theorem common?_reordered (strict : Bool) (hx : x.Reordered x') (hy : y.Reordered y') :
    Option.Rel Reordered (common? strict x y) (common? strict x' y') := by
  cases hx with
  | refl =>
    cases hy with
    | refl => exact rel_refl _
    | levels hb =>
      cases x with
      | categorical a => exact common?_reorderedLevels strict (.refl a) hb
      | null => exact .some (.levels hb)
      | unspecified => exact .some (.levels hb)
      | _ => exact rel_refl _
  | levels ha =>
    cases hy with
    | refl =>
      cases y with
      | categorical b => exact common?_reorderedLevels strict ha (.refl b)
      | null => exact .some (.levels ha)
      | unspecified => exact .some (.levels ha)
      | _ => exact rel_refl _
    | levels hb => exact common?_reorderedLevels strict ha hb

/-- **The common type of a list of types is the same but for the order of its levels.** -/
theorem commonFrom?_reordered {ts us : List VectorType} (hx : x.Reordered x') (hts : List.Forall₂ Reordered ts us) :
    Option.Rel Reordered (commonFrom? strict x ts) (commonFrom? strict x' us) := by
  induction hts generalizing x x' with
  | nil => exact .some hx
  | @cons t u ts us htu _ ih =>
    have hnext := common?_reordered strict hx htu
    rw [commonFrom?, commonFrom?]
    generalize common? strict x t = found at hnext
    generalize common? strict x' u = found' at hnext
    cases hnext with
    | none => exact .none
    | some h => exact ih h

end VectorType

/-! ### Routes -/

namespace Registry

open VectorType

variable {r : Registry} {decompose : Bool} {s s' t t' : VectorType}

lemma NeedsCaster.reordered (h : NeedsCaster s t) (hs : s.Reordered s') (ht : t.Reordered t') : NeedsCaster s' t' where
  differ := (hs.same_eq ht).symm.trans h.differ
  sourceNull hnull := h.sourceNull (hs.symm.eq_of_eq (fun _ => VectorType.noConfusion) hnull)
  sourceUnspecified hspec := h.sourceUnspecified (hs.symm.eq_of_eq (fun _ => VectorType.noConfusion) hspec)
  targetNull hnull := h.targetNull (ht.symm.eq_of_eq (fun _ => VectorType.noConfusion) hnull)

lemma Detour.reordered {apart together : Caster} (h : Detour r decompose s t apart together) (hs : s.Reordered s')
    (ht : t.Reordered t') : Detour r decompose s' t' apart together where
  allowed := h.allowed
  source := hs.tag_eq ▸ h.source
  target := ht.tag_eq ▸ h.target
  apart := hs.tag_eq ▸ h.apart
  together := ht.tag_eq ▸ h.together

lemma Takes.reordered {route : Route} (h : Takes r decompose s t route) (hs : s.Reordered s') (ht : t.Reordered t') :
    Takes r decompose s' t' route := by
  have hsame := hs.same_eq ht
  have hdetour : (∀ c d, ¬ Detour r decompose s t c d) → ∀ c d, ¬ Detour r decompose s' t' c d := by
    intro hnot c d h
    exact hnot c d (h.reordered hs.symm ht.symm)
  have hnull : t ≠ .null → t' ≠ .null := by
    intro hne h
    exact hne (ht.symm.eq_of_eq (fun _ => VectorType.noConfusion) h)
  cases h with
  | unchanged equal => exact .unchanged (hsame ▸ equal)
  | toNull differ null => exact .toNull (hsame ▸ differ) (ht.eq_of_eq (fun _ => VectorType.noConfusion) null)
  | fromNull differ typed null =>
    exact .fromNull (hsame ▸ differ) (hnull typed) (hs.eq_of_eq (fun _ => VectorType.noConfusion) null)
  | fromUnspecified differ typed unspecified =>
    exact .fromUnspecified (hsame ▸ differ) (hnull typed) (hs.eq_of_eq (fun _ => VectorType.noConfusion) unspecified)
  | direct needed found =>
    rw [hs.tag_eq, ht.tag_eq] at found
    exact .direct (needed.reordered hs ht) found
  | decomposed needed missing detour =>
    rw [hs.tag_eq, ht.tag_eq] at missing
    exact .decomposed (needed.reordered hs ht) missing (detour.reordered hs ht)
  | fallback needed missing noDetour found =>
    rw [hs.tag_eq, ht.tag_eq] at missing
    rw [hs.tag_eq] at found
    exact .fallback (needed.reordered hs ht) missing (hdetour noDetour) found
  | impassable needed missing noDetour noFallback =>
    rw [hs.tag_eq, ht.tag_eq] at missing
    rw [hs.tag_eq] at noFallback
    exact .impassable (needed.reordered hs ht) missing (hdetour noDetour) noFallback

/-- **The route of a cast does not depend on the order of levels.** -/
theorem route_reordered (r : Registry) (decompose : Bool) (hs : s.Reordered s') (ht : t.Reordered t') :
    r.route decompose s t = r.route decompose s' t' :=
  ((takes_route r decompose s t).reordered hs ht).route_eq.symm

end Registry

end Coercion
