import Coercion.Proofs.Combine.Permutation

/-!
The order that types say of themselves, and how unification follows it. A type is finer than another if it can represent
every value of it. This is reflexive and transitive, and two different types are finer than each other only if both are
datetimes, since no datetime looks at the zone of another. Two types have a common type just if one of them is finer, or
if both are categoricals whose levels need not agree; and what is found for a list is finer than all of the list.
-/

namespace Coercion

namespace VectorType

/-- The reasons for which a built-in type can represent every value of another. -/
inductive Finer : VectorType → VectorType → Prop where
  | null : Finer .null .null
  | unspecified : Finer .unspecified .unspecified
  | empty : Finer .unspecified .null
  | number {x y : VectorType} {m n : Nat} (hx : x.rank? = some m) (hy : y.rank? = some n) (hnm : n ≤ m) : Finer x y
  | list : Finer .list .list
  | character : Finer .character .character
  | levels (a : List Value) : Finer .character (.categorical a)
  | categorical {a b : List Value} (covered : covers a b = true) : Finer (.categorical a) (.categorical b)
  | date : Finer .date .date
  | midnight (z : Option Zone) : Finer (.datetime z) .date
  | datetime (w z : Option Zone) : Finer (.datetime w) (.datetime z)

variable {x y z t : VectorType}

/-- A built-in type is finer than another for one of the reasons, and for no other reason. -/
theorem finerThan_iff (hx : x.IsStandard) (hxb : x.isBuiltIn = true) (hy : y.IsStandard) (hyb : y.isBuiltIn = true) :
    x.finerThan y = true ↔ Finer x y := by
  constructor
  · intro h
    cases hx with
    | null => cases hy <;> first | exact .null | cases h
    | unspecified => cases hy <;> first | exact .unspecified | exact .empty | cases h
    | logical => cases hy <;> first | exact .number rfl rfl (by decide) | cases h
    | integer => cases hy <;> first | exact .number rfl rfl (by decide) | cases h
    | double => cases hy <;> first | exact .number rfl rfl (by decide) | cases h
    | character => cases hy <;> first | exact .character | exact .levels _ | cases h
    | list => cases hy <;> first | exact .list | cases h
    | categorical => cases hy <;> first | exact .categorical h | cases h
    | date => cases hy <;> first | exact .date | cases h
    | datetime => cases hy <;> first | exact .midnight _ | exact .datetime _ _ | cases h
    | binned => cases hxb
  · intro h
    cases h with
    | number hxm hyn hnm =>
      cases x <;> cases hxm <;> cases y <;> cases hyn <;> first | rfl | exact absurd hnm (by decide)
    | categorical covered => exact covered
    | _ => rfl

/-! ### The laws of the order -/

namespace Finer

theorem refl (hx : x.IsStandard) (hxb : x.isBuiltIn = true) : Finer x x := by
  cases hx with
  | null => exact .null
  | unspecified => exact .unspecified
  | logical => exact .number rfl rfl le_rfl
  | integer => exact .number rfl rfl le_rfl
  | double => exact .number rfl rfl le_rfl
  | character => exact .character
  | list => exact .list
  | categorical legal => exact .categorical (covers_self legal)
  | date => exact .date
  | datetime zone => exact .datetime zone zone
  | binned => cases hxb

theorem trans (hxy : Finer x y) (hyz : Finer y z) : Finer x z := by
  cases hxy with
  | number hx hy hnm =>
    cases hyz with
    | number hy' hz hpn =>
      rw [hy, Option.some.injEq] at hy'
      subst hy'
      exact .number hx hz (hpn.trans hnm)
    | _ => cases hy
  | levels a =>
    cases hyz with
    | categorical => exact .levels _
    | number hy _ _ => cases hy
  | categorical hab =>
    cases hyz with
    | categorical hbc => exact .categorical (covers_trans hab hbc)
    | number hy _ _ => cases hy
  | midnight w =>
    cases hyz with
    | date => exact .midnight w
    | number hy _ _ => cases hy
  | datetime w =>
    cases hyz with
    | midnight => exact .midnight w
    | datetime => exact .datetime w _
    | number hy _ _ => cases hy
  | empty =>
    cases hyz with
    | null => exact .empty
    | number hy _ _ => cases hy
  | _ => exact hyz

/-- Types that are finer than each other are equal, but datetimes with different zones are not. -/
theorem antisymm (hx : x.IsStandard) (hxy : Finer x y) (hyx : Finer y x) :
    x.same y = true ∨ ∃ w z, x = .datetime w ∧ y = .datetime z := by
  cases hxy with
  | number hx' hy hnm =>
    cases hyx with
    | number hy' hx'' hmn =>
      rw [hy, Option.some.injEq] at hy'
      rw [hx', Option.some.injEq] at hx''
      have hsame : x = y := eq_of_rank? hx' (by rw [hy, Option.some.injEq]; omega)
      exact .inl (hsame ▸ same_refl hx)
    | _ => cases hx'
  | categorical hab =>
    cases hyx with
    | categorical hba => exact .inl (by simp [VectorType.same, hab, hba])
    | number hy _ _ => cases hy
  | datetime w z => exact .inr ⟨w, z, rfl, rfl⟩
  | empty => cases hyx; contradiction
  | levels => cases hyx; contradiction
  | midnight => cases hyx; contradiction
  | _ => exact .inl (same_refl hx)

end Finer

/-- **How far being finer is a partial order.** It is reflexive and transitive on the built-in types. Two types that are
finer than each other have to be equal just if they are not datetimes with different zones. -/
theorem finerThan_partialOrder_iff (hx : x.IsStandard ∧ x.isBuiltIn = true) (hy : y.IsStandard ∧ y.isBuiltIn = true)
    (hz : z.IsStandard ∧ z.isBuiltIn = true) :
    x.finerThan x = true ∧
      (x.finerThan y = true → y.finerThan z = true → x.finerThan z = true) ∧
      ((x.finerThan y = true → y.finerThan x = true → (x == y) = true) ↔
        ∀ v w, x = .datetime v → y = .datetime w → v = w) := by
  have hxx := finerThan_iff hx.1 hx.2 hx.1 hx.2
  have hxy := finerThan_iff hx.1 hx.2 hy.1 hy.2
  have hyx := finerThan_iff hy.1 hy.2 hx.1 hx.2
  have hyz := finerThan_iff hy.1 hy.2 hz.1 hz.2
  have hxz := finerThan_iff hx.1 hx.2 hz.1 hz.2
  rw [hxx, hxy, hyx, hyz, hxz]
  refine ⟨.refl hx.1 hx.2, .trans, ?_, ?_⟩
  · rintro hanti v w rfl rfl
    have hsame : (v == w) = true := hanti (.datetime v w) (.datetime w v)
    exact eq_of_beq hsame
  · intro hzones hfiner hcoarser
    rcases hfiner.antisymm hx.1 hcoarser with hsame | ⟨v, w, rfl, rfl⟩
    · exact hsame
    · rw [hzones v w rfl rfl]
      exact same_refl (.datetime w)

/-- Texts, and two categoricals with the same levels in a different order. -/
theorem finerThan_partialOrder_iff_texts :
    VectorType.finerThan .character .character = true ∧
      (VectorType.finerThan .character (.categorical [.text "a", .int 1]) = true →
        VectorType.finerThan (.categorical [.text "a", .int 1]) (.categorical [.int 1]) = true →
        VectorType.finerThan .character (.categorical [.int 1]) = true) ∧
      ((VectorType.finerThan .character (.categorical [.text "a", .int 1]) = true →
          VectorType.finerThan (.categorical [.text "a", .int 1]) .character = true →
          (VectorType.character == .categorical [.text "a", .int 1]) = true) ↔
        ∀ v w, VectorType.character = .datetime v → VectorType.categorical [.text "a", .int 1] = .datetime w → v = w) :=
  finerThan_partialOrder_iff ⟨.character, rfl⟩ ⟨.categorical (by decide), rfl⟩ ⟨.categorical (by decide), rfl⟩

/-- The datetimes without a zone and those with universal time are finer than each other, and differ. -/
theorem not_finerThan_partialOrder :
    ¬ ∀ x y : VectorType, x.IsStandard ∧ x.isBuiltIn = true → y.IsStandard ∧ y.isBuiltIn = true →
      x.finerThan y = true → y.finerThan x = true → (x == y) = true := by
  intro hanti
  have hsame := hanti (.datetime (some .utc)) (.datetime none) ⟨.datetime _, rfl⟩ ⟨.datetime _, rfl⟩ rfl rfl
  exact absurd hsame (by decide)

/-! ### Unification follows the order -/

/-- A type that holds values of another one, and that can be found for it, is finer. -/
lemma Below.finer (h : Below x t) (hx : x.IsStandard) (htyped : x.isTyped = true) : Finer t x := by
  cases h with
  | null => cases htyped
  | unspecified => cases htyped
  | number hx ht hmn => exact .number ht hx hmn
  | list => exact .list
  | character => exact .character
  | categorical covered => exact .categorical covered
  | levels a => exact .levels a
  | date => exact .date
  | midnight z => exact .midnight z
  | datetime z => exact .datetime z z
  | naive z => exact .datetime z none
  | universal z => exact .datetime _ z

/-- Types with values have a common type only if one of them is finer, or if they are categoricals and their levels need
not agree. -/
lemma finer_of_common? {strict : Bool} (hx : x.IsStandard) (hxb : x.isBuiltIn = true) (hxt : x.isTyped = true)
    (hy : y.IsStandard) (hyb : y.isBuiltIn = true) (hyt : y.isTyped = true) (h : common? strict x y = some z) :
    (Finer x y ∨ Finer y x) ∨ strict = false ∧ ∃ a b, x = .categorical a ∧ y = .categorical b := by
  obtain ⟨hxz, hyz⟩ := below_common? hx hxb hy hyb h
  have hzx := hxz.finer hx hxt
  have hzy := hyz.finer hy hyt
  cases hx with
  | @categorical a ha =>
    cases hy with
    | @categorical b hb =>
      rw [common?] at h
      split_ifs at h with hab hba hstrict
      · exact .inl (.inl (.categorical hab))
      · exact .inl (.inr (.categorical hba))
      · exact .inr ⟨by simpa using hstrict, a, b, rfl, rfl⟩
    | character => exact .inl (.inr (.levels _))
    | null => cases hyt
    | unspecified => cases hyt
    | _ => cases h
  | datetime v =>
    cases hy with
    | datetime w => exact .inl (.inl (.datetime v w))
    | date => exact .inl (.inl (.midnight v))
    | null => cases hyt
    | unspecified => cases hyt
    | _ => cases h
  | null => cases hxt
  | unspecified => cases hxt
  | binned => cases hxb
  | _ =>
    -- any other two have one of them as their common type
    cases hy <;> cases h <;> first | exact .inl (.inl hzy) | exact .inl (.inr hzx)

/-- A type with values has a common type with one that it is finer than. -/
lemma Finer.common? (strict : Bool) (h : Finer x y) (htyped : y.isTyped = true) :
    ∃ z, common? strict x y = some z := by
  cases h with
  | null => cases htyped
  | unspecified => cases htyped
  | empty => cases htyped
  | number hx hy hnm => exact ⟨_, common?_number strict hx hy⟩
  | categorical covered => exact ⟨_, if_pos covered⟩
  | datetime v w =>
    rw [VectorType.common?]
    split_ifs <;> exact ⟨_, rfl⟩
  | _ => exact ⟨_, rfl⟩

/-- Two categoricals have a common type if their levels need not agree. -/
lemma common?_categoricals (a b : List Value) : ∃ z, common? false (.categorical a) (.categorical b) = some z := by
  rw [common?]
  split_ifs with hab hba hstrict
  · exact ⟨_, rfl⟩
  · exact ⟨_, rfl⟩
  · exact absurd hstrict (by decide)
  · exact ⟨_, rfl⟩

/-- Whether two types with values have a common type depends on the order alone, unless they are categoricals. -/
theorem common?_isSome_iff (strict : Bool) (hx : x.IsStandard) (hxb : x.isBuiltIn = true) (hxt : x.isTyped = true)
    (hy : y.IsStandard) (hyb : y.isBuiltIn = true) (hyt : y.isTyped = true) :
    (∃ z, common? strict x y = some z) ↔
      (Finer x y ∨ Finer y x) ∨ strict = false ∧ ∃ a b, x = .categorical a ∧ y = .categorical b := by
  constructor
  · rintro ⟨z, hz⟩
    exact finer_of_common? hx hxb hxt hy hyb hyt hz
  · rintro ((hfiner | hcoarser) | ⟨rfl, a, b, rfl, rfl⟩)
    · exact hfiner.common? strict hyt
    · -- the rule is found in the other order, which makes no difference
      obtain ⟨z, hz⟩ := hcoarser.common? strict hxt
      have hcomm := common?_comm strict hy hx
      rw [hz] at hcomm
      cases hxy : VectorType.common? strict x y with
      | some t => exact ⟨t, rfl⟩
      | none => rw [hxy] at hcomm; cases hcomm
    · exact common?_categoricals a b

/-- The type that is found for a list is built in if all of the list are. -/
lemma isBuiltIn_commonFrom? {strict : Bool} {found t : VectorType} {ts : List VectorType} (hfound : found.IsStandard)
    (hbuilt : found.isBuiltIn = true) (hts : ∀ s ∈ ts, s.IsStandard ∧ s.isBuiltIn = true)
    (h : commonFrom? strict found ts = some t) : t.isBuiltIn = true := by
  induction ts generalizing found with
  | nil =>
    cases h
    exact hbuilt
  | cons u us ih =>
    obtain ⟨hu, hub⟩ := hts u (by simp)
    obtain ⟨next, hc, h⟩ := commonFrom?_cons_eq_some.1 h
    have hnext := common?_isStandard hfound hu hc
    have hnextb := isBuiltIn_common? hfound hbuilt hu hub hc
    exact ih hnext hnextb (fun s hs => hts s (by simp [hs])) h

/-! ### The levels of two categoricals together -/

lemma isIn_of_covers {a b : List Value} {v : Value} (h : covers a b = true) (hv : v.isIn b = true) :
    v.isIn a = true := by
  obtain ⟨w, hw, hwv⟩ := (Value.isIn_iff v b).1 hv
  obtain ⟨u, hu, huw⟩ := (covers_iff a b).1 h w hw
  exact (Value.isIn_iff v a).2 ⟨u, hu, Value.same_trans huw hwv⟩

lemma isIn_unionLevels (a b : List Value) (v : Value) :
    v.isIn (unionLevels a b) = true ↔ v.isIn a = true ∨ v.isIn b = true := by
  constructor
  · intro h
    obtain ⟨w, hw, hwv⟩ := (Value.isIn_iff _ _).1 h
    rcases (mem_unionLevels a b w).1 hw with hw | ⟨hw, -⟩
    · exact .inl ((Value.isIn_iff _ _).2 ⟨w, hw, hwv⟩)
    · exact .inr ((Value.isIn_iff _ _).2 ⟨w, hw, hwv⟩)
  · intro h
    by_cases ha : v.isIn a = true
    · obtain ⟨w, hw, hwv⟩ := (Value.isIn_iff _ _).1 ha
      exact (Value.isIn_iff _ _).2 ⟨w, (mem_unionLevels a b w).2 (.inl hw), hwv⟩
    · obtain ⟨w, hw, hwv⟩ := (Value.isIn_iff _ _).1 (h.resolve_left ha)
      -- a level of the second that is equal to none of the first has been added to them
      have hwa : w.isIn a = false := by
        by_contra hwa
        obtain ⟨u, hu, huw⟩ := (Value.isIn_iff _ _).1 (by simpa using hwa)
        exact ha ((Value.isIn_iff _ _).2 ⟨u, hu, Value.same_trans huw hwv⟩)
      exact (Value.isIn_iff _ _).2 ⟨w, (mem_unionLevels a b w).2 (.inr ⟨hw, hwa⟩), hwv⟩

/-- The common type of two categoricals is a categorical with the levels of both. -/
lemma common?_categorical_levels {strict : Bool} {a b : List Value}
    (h : common? strict (.categorical a) (.categorical b) = some z) :
    ∃ c, z = .categorical c ∧ ∀ v : Value, v.isIn c = true ↔ v.isIn a = true ∨ v.isIn b = true := by
  rw [common?] at h
  split_ifs at h with hab hba <;> cases h
  · exact ⟨a, rfl, fun v => ⟨.inl, fun hv => hv.elim id (isIn_of_covers hab)⟩⟩
  · exact ⟨b, rfl, fun v => ⟨.inr, fun hv => hv.elim (isIn_of_covers hba) id⟩⟩
  · exact ⟨_, rfl, isIn_unionLevels a b⟩

end VectorType

namespace Engine

open VectorType Registry

variable {x y : VectorType}

/-- What the order says about the common type of two types. -/
structure FollowsOrder (x y : VectorType) : Prop where
  /-- If payloads have to agree, there is a common type just if one of the two is finer. -/
  strict : (∃ z, standard.unify true (.type x) (.type y) = .ok z) ↔ x.finerThan y = true ∨ y.finerThan x = true
  /-- If they need not, there is one as well if both types are categoricals. -/
  lenient : (∃ z, standard.unify false (.type x) (.type y) = .ok z) ↔
    (x.finerThan y = true ∨ y.finerThan x = true) ∨ ∃ a b, x = .categorical a ∧ y = .categorical b
  /-- The common type is finer than both. -/
  finer : ∀ strict z, standard.unify strict (.type x) (.type y) = .ok z → z.finerThan x = true ∧ z.finerThan y = true
  /-- That of two categoricals has just the levels of both. -/
  levels : ∀ a b, x = .categorical a → y = .categorical b →
    ∀ strict z, standard.unify strict (.type x) (.type y) = .ok z →
      ∃ c, z = .categorical c ∧ ∀ v : Value, v.isIn c = true ↔ v.isIn a = true ∨ v.isIn b = true

lemma unify_eq_ok_iff (strict : Bool) (hx : x.IsStandard) (hy : y.IsStandard) (z : VectorType) :
    standard.unify strict (.type x) (.type y) = .ok z ↔ common? strict x y = some z := by
  change Registry.standard.unify strict x y = .ok z ↔ _
  rcases unify_cases strict hx hy with ⟨t, ht, hunify⟩ | ⟨hnone, d, hunify⟩
  · rw [ht, hunify, Except.ok.injEq, Option.some.injEq]
  · rw [hnone, hunify]
    exact ⟨by rintro ⟨⟩, by rintro ⟨⟩⟩

lemma unify_followsOrder (hx : x.IsStandard) (hxb : x.isBuiltIn = true) (hxt : x.isTyped = true) (hy : y.IsStandard)
    (hyb : y.isBuiltIn = true) (hyt : y.isTyped = true) : FollowsOrder x y where
  strict := by
    simp only [unify_eq_ok_iff true hx hy, common?_isSome_iff true hx hxb hxt hy hyb hyt,
      finerThan_iff hx hxb hy hyb, finerThan_iff hy hyb hx hxb]
    simp
  lenient := by
    simp only [unify_eq_ok_iff false hx hy, common?_isSome_iff false hx hxb hxt hy hyb hyt,
      finerThan_iff hx hxb hy hyb, finerThan_iff hy hyb hx hxb, true_and]
  finer strict z h := by
    have hz := (unify_eq_ok_iff strict hx hy z).1 h
    have hzs := common?_isStandard hx hy hz
    have hzb := isBuiltIn_common? hx hxb hy hyb hz
    obtain ⟨hxz, hyz⟩ := below_common? hx hxb hy hyb hz
    have hzx := hxz.finer hx hxt
    have hzy := hyz.finer hy hyt
    exact ⟨(finerThan_iff hzs hzb hx hxb).2 hzx, (finerThan_iff hzs hzb hy hyb).2 hzy⟩
  levels a b ha hb strict z h := by
    subst ha hb
    exact common?_categorical_levels ((unify_eq_ok_iff strict hx hy z).1 h)

/-- **Unification follows the order of the types.** This holds of any two built-in types that have values; and what is
found for a list of built-in types is finer than all of the list that have values. -/
theorem commonType_finer :
    (∀ x y : VectorType, x.IsStandard → x.isBuiltIn = true → x.isTyped = true → y.IsStandard → y.isBuiltIn = true →
      y.isTyped = true → FollowsOrder x y) ∧
    ∀ (strict : Bool) (ts : List VectorType) (z : VectorType), (∀ t ∈ ts, t.IsStandard ∧ t.isBuiltIn = true) →
      standard.commonType strict (ts.map .type) = .ok z → ∀ t ∈ ts, t.isTyped = true → z.finerThan t = true := by
  constructor
  · intro x y hx hxb hxt hy hyb hyt
    exact unify_followsOrder hx hxb hxt hy hyb hyt
  · intro strict ts z hts h t ht htyped
    have hstandard : ∀ s ∈ ts, s.IsStandard := by
      intro s hs
      exact (hts s hs).1
    have hfound := (commonType_eq_ok_iff strict hstandard).1 h
    have hz := commonFrom?_isStandard .null hstandard hfound
    have hzb := isBuiltIn_commonFrom? .null rfl hts hfound
    have hbelow := (below_commonFrom? .null rfl hts hfound).2 t ht
    obtain ⟨ht', htb⟩ := hts t ht
    have hfiner := hbelow.finer ht' htyped
    exact (finerThan_iff hz hzb ht' htb).2 hfiner

/-- Two categoricals neither of which has the level of the other, and the texts that stand for the levels of both. -/
theorem commonType_finer_texts :
    FollowsOrder (.categorical [.text "a"]) (.categorical [.text "b"]) ∧
      ∀ t ∈ [.categorical [.text "a"], .unspecified, .categorical [.text "b"], .character],
        t.isTyped = true → VectorType.finerThan .character t = true := by
  have hab : VectorType.IsStandard (.categorical [.text "a"]) := .categorical (by decide)
  have hbb : VectorType.IsStandard (.categorical [.text "b"]) := .categorical (by decide)
  have hts : ∀ t ∈ [VectorType.categorical [.text "a"], .unspecified, .categorical [.text "b"], .character],
      t.IsStandard ∧ t.isBuiltIn = true := by
    simp only [List.forall_mem_cons, List.not_mem_nil, false_imp_iff, implies_true, and_true]
    exact ⟨⟨hab, rfl⟩, ⟨.unspecified, rfl⟩, ⟨hbb, rfl⟩, .character, rfl⟩
  refine ⟨commonType_finer.1 _ _ hab rfl rfl hbb rfl rfl, commonType_finer.2 false _ _ hts ?_⟩
  exact (commonType_eq_ok_iff false fun t ht => (hts t ht).1).2 rfl

end Engine

end Coercion
