import Coercion.Proofs.Combine.Agreement
import Coercion.Proofs.Unify.Order

/-!
The order of a list does not matter for its common type. Any two orders of a list of built-in types lead to equal types
or are both refused. If payloads have to agree, some orders may be refused, but those that are not lead to equal
types, and to the type that is found without that demand. The null type makes no difference anywhere.
-/

namespace Coercion

namespace VectorType

variable {ts us : List VectorType} {t : VectorType}

/-- Two lists of the same types have equal common types, or none. -/
theorem commonFrom?_perm (hts : ∀ s ∈ ts, s.IsStandard ∧ s.isBuiltIn = true ∧ s ≠ .unspecified) (h : ts.Perm us) :
    Option.Rel (fun t u => t.same u = true) (commonFrom? false .null ts) (commonFrom? false .null us) := by
  have hus : ∀ s ∈ us, s.IsStandard ∧ s.isBuiltIn = true ∧ s ≠ .unspecified := by
    intro s hs
    exact hts s (h.mem_iff.2 hs)
  -- what is found for one order is above all of the list, and so above what is found for the other
  have hleast : ∀ {l m : List VectorType} {t : VectorType}, l.Perm m →
      (∀ s ∈ l, s.IsStandard ∧ s.isBuiltIn = true ∧ s ≠ .unspecified) → commonFrom? false .null l = some t →
      ∃ u, commonFrom? false .null m = some u ∧ Below u t := by
    intro l m t hlm hl ht
    obtain ⟨-, hbelow⟩ := below_commonFrom? .null rfl (fun s hs => ⟨(hl s hs).1, (hl s hs).2.1⟩) ht
    refine commonFrom?_least .null nofun ?_ (.null t) ?_
    · intro s hs
      have hs := hl s (hlm.mem_iff.2 hs)
      exact ⟨hs.1, hs.2.2⟩
    · intro s hs
      exact hbelow s (hlm.mem_iff.2 hs)
  cases ht : commonFrom? false .null ts with
  | some t =>
    obtain ⟨u, hu, hut⟩ := hleast h hts ht
    obtain ⟨t', ht', htu⟩ := hleast h.symm hus hu
    rw [ht, Option.some.injEq] at ht'
    subst ht'
    rw [hu]
    have hstandard := commonFrom?_isStandard .null (fun s hs => (hts s hs).1) ht
    exact .some (htu.antisymm hstandard hut)
  | none =>
    cases hu : commonFrom? false .null us with
    | some u =>
      obtain ⟨t, ht', -⟩ := hleast h.symm hus hu
      rw [ht] at ht'
      cases ht'
    | none => exact .none

end VectorType

/-- Two attempts that settle on equal common types, or on none, agree. -/
lemma Agree.of_rel {c d : Option VectorType} {r s : Except Failure VectorType} (hr : Registry.Settles c r)
    (hs : Registry.Settles d s) (hcd : Option.Rel (fun t u => t.same u = true) c d) : Agree r s := by
  cases hcd with
  | some hsame =>
    rw [hr, hs]
    exact .found hsame
  | none =>
    obtain ⟨f, rfl, hf⟩ := hr
    obtain ⟨g, rfl, hg⟩ := hs
    exact .refused hf hg

namespace Engine

open VectorType Registry

variable {ts : List VectorType} {t : VectorType}

lemma commonType_settles (strict : Bool) (hts : ∀ s ∈ ts, s.IsStandard) :
    Settles (commonFrom? strict .null ts) (standard.commonType strict (ts.map .type)) := by
  rw [commonType_types]
  exact commonType_standard strict hts

lemma commonType_eq_ok_iff (strict : Bool) (hts : ∀ s ∈ ts, s.IsStandard) :
    standard.commonType strict (ts.map .type) = .ok t ↔ commonFrom? strict .null ts = some t := by
  have hsettles := commonType_settles strict hts
  cases hc : commonFrom? strict .null ts with
  | some u =>
    rw [hc] at hsettles
    rw [hsettles, Except.ok.injEq, Option.some.injEq]
  | none =>
    rw [hc] at hsettles
    obtain ⟨f, hf, -⟩ := hsettles
    rw [hf]
    exact ⟨nofun, nofun⟩

/-- What the common type of a list of types does not depend on. -/
structure OrderIndependent (ts : List VectorType) : Prop where
  /-- Two orders of the list lead to equal types, or both are refused. -/
  lenient : ∀ us vs : List VectorType, us.Perm ts → vs.Perm ts →
    Agree (standard.commonType false (us.map .type)) (standard.commonType false (vs.map .type))
  /-- Two orders that are both accepted when payloads have to agree lead to equal types. -/
  strict : ∀ (us vs : List VectorType) t u, us.Perm ts → vs.Perm ts → standard.commonType true (us.map .type) = .ok t →
    standard.commonType true (vs.map .type) = .ok u → (t == u) = true
  /-- What is accepted when payloads have to agree is accepted anyway, with an equal type. -/
  relaxed : ∀ t, standard.commonType true (ts.map .type) = .ok t →
    ∃ u, standard.commonType false (ts.map .type) = .ok u ∧ (t == u) = true
  /-- The null type can be inserted anywhere. -/
  null : ∀ (strict : Bool) left right, left ++ right = ts →
    Agree (standard.commonType strict ((left ++ .null :: right).map .type)) (standard.commonType strict (ts.map .type))

/-- **The common type does not depend on the order.** This holds of every list of built-in types, if none of them is
the unspecified one. -/
theorem commonType_orderIndependent (hts : ∀ s ∈ ts, s.IsStandard ∧ s.isBuiltIn = true ∧ s ≠ .unspecified) :
    OrderIndependent ts where
  lenient us vs hus hvs := by
    have hall : ∀ s ∈ us, s.IsStandard ∧ s.isBuiltIn = true ∧ s ≠ .unspecified := by
      intro s hs
      exact hts s (hus.mem_iff.1 hs)
    have hvs' : ∀ s ∈ vs, s.IsStandard := by
      intro s hs
      exact (hts s (hvs.mem_iff.1 hs)).1
    have hus' : ∀ s ∈ us, s.IsStandard := by
      intro s hs
      exact (hall s hs).1
    have hrel := commonFrom?_perm hall (hus.trans hvs.symm)
    exact .of_rel (commonType_settles false hus') (commonType_settles false hvs') hrel
  strict us vs t u hus hvs ht hu := by
    have hall : ∀ s ∈ us, s.IsStandard ∧ s.isBuiltIn = true ∧ s ≠ .unspecified := by
      intro s hs
      exact hts s (hus.mem_iff.1 hs)
    have hus' : ∀ s ∈ us, s.IsStandard := by
      intro s hs
      exact (hall s hs).1
    have hvs' : ∀ s ∈ vs, s.IsStandard := by
      intro s hs
      exact (hts s (hvs.mem_iff.1 hs)).1
    -- both are found without the demand as well, and there the order does not matter
    have ht' := commonFrom?_relaxed .null hus' ((commonType_eq_ok_iff true hus').1 ht)
    have hu' := commonFrom?_relaxed .null hvs' ((commonType_eq_ok_iff true hvs').1 hu)
    have hrel := commonFrom?_perm hall (hus.trans hvs.symm)
    rw [ht', hu', Option.rel_some_some] at hrel
    exact hrel
  relaxed t ht := by
    have hts' : ∀ s ∈ ts, s.IsStandard := by
      intro s hs
      exact (hts s hs).1
    have hfound := (commonType_eq_ok_iff true hts').1 ht
    refine ⟨t, (commonType_eq_ok_iff false hts').2 (commonFrom?_relaxed .null hts' hfound), ?_⟩
    exact same_refl (commonFrom?_isStandard .null hts' hfound)
  null strict left right h := by
    subst h
    have hts' : ∀ s ∈ left ++ right, s.IsStandard := by
      intro s hs
      exact (hts s hs).1
    have hinserted : ∀ s ∈ left ++ .null :: right, s.IsStandard := by
      intro s hs
      rcases List.mem_append.1 hs with hs | hs
      · exact hts' s (List.mem_append.2 (Or.inl hs))
      · rcases List.mem_cons.1 hs with rfl | hs
        · exact .null
        · exact hts' s (List.mem_append.2 (Or.inr hs))
    have hsettles := commonType_settles strict hinserted
    rw [commonFrom?_insert_null] at hsettles
    refine .of_settles hsettles (commonType_settles strict hts') ?_
    intro t ht
    exact commonFrom?_isStandard .null hts' ht

/-- Two categoricals neither of which has the levels of the other, beside texts, which come from either. -/
theorem commonType_orderIndependent_categoricals :
    OrderIndependent [.categorical [.text "a"], .categorical [.text "b", .int 1], .character] :=
  commonType_orderIndependent fun s hs => by
    rcases List.mem_cons.1 hs with rfl | hs
    · exact ⟨.categorical (by decide), rfl, nofun⟩
    rcases List.mem_cons.1 hs with rfl | hs
    · exact ⟨.categorical (by decide), rfl, nofun⟩
    · rw [List.mem_singleton.1 hs]
      exact ⟨.character, rfl, nofun⟩

end Engine

end Coercion
