import Coercion.Proofs.Binary.Order

/-!
The standard types: those of the built-in kinds and of the binned one, with payloads that their constructors accept. On
them equality of types is an equivalence, the levels of two categoricals are together levels of a categorical,
and which of two categoricals is named first does not matter for what both have.
-/

namespace Coercion

/-- What can be a level: a value that is present, equal to itself, and fit to be a member of a set. -/
structure Value.IsLevel (v : Value) : Prop where
  present : v.isMissing = false
  hashable : v.unhashable? = none
  self : v.same v = true

instance (v : Value) : Decidable v.IsLevel :=
  decidable_of_iff (v.isMissing = false ∧ v.unhashable? = none ∧ v.same v = true)
    ⟨fun h => ⟨h.1, h.2.1, h.2.2⟩, fun h => ⟨h.present, h.hashable, h.self⟩⟩

/-- The levels of a categorical. Each can be a level, and no two of them are equal. -/
structure LegalLevels (levels : List Value) : Prop where
  level : ∀ v ∈ levels, v.IsLevel
  distinct : levels.Pairwise fun v w => v.same w = false

instance (levels : List Value) : Decidable (LegalLevels levels) :=
  decidable_of_iff ((∀ v ∈ levels, v.IsLevel) ∧ levels.Pairwise fun v w => v.same w = false)
    ⟨fun h => ⟨h.1, h.2⟩, fun h => ⟨h.level, h.distinct⟩⟩

namespace VectorType

/-- The types of the standard kinds, with a legal payload. -/
inductive IsStandard : VectorType → Prop where
  | null : IsStandard .null
  | unspecified : IsStandard .unspecified
  | logical : IsStandard .logical
  | integer : IsStandard .integer
  | double : IsStandard .double
  | character : IsStandard .character
  | list : IsStandard .list
  | categorical {levels : List Value} (legal : LegalLevels levels) : IsStandard (.categorical levels)
  | date : IsStandard .date
  | datetime (zone : Option Zone) : IsStandard (.datetime zone)
  | binned {boundaries : List Double} (ascending : Ascending boundaries) : IsStandard (.binned boundaries)

lemma IsStandard.legalLevels {levels : List Value} (h : IsStandard (.categorical levels)) : LegalLevels levels := by
  cases h with
  | categorical legal => exact legal

end VectorType

/-! ### Levels -/

namespace Value

lemma isIn_iff (v : Value) (xs : List Value) : v.isIn xs = true ↔ ∃ x ∈ xs, x.same v = true := by
  rw [isIn, List.any_eq_true]

lemma isIn_eq_false_iff (v : Value) (xs : List Value) : v.isIn xs = false ↔ ∀ x ∈ xs, x.same v = false := by
  rw [isIn, List.any_eq_false]
  simp

lemma unhashableIn?_eq_none_iff (xs : List Value) :
    unhashableIn? xs = none ↔ ∀ x ∈ xs, x.unhashable? = none := by
  induction xs with
  | nil => simp [unhashableIn?]
  | cons x xs ih => cases h : x.unhashable? <;> simp [unhashableIn?, h, ih]

end Value

namespace VectorType

open Value

lemma covers_iff (xs ys : List Value) :
    covers xs ys = true ↔ ∀ y ∈ ys, ∃ x ∈ xs, x.same y = true := by
  simp only [covers, List.all_eq_true, isIn_iff]

lemma covers_self {levels : List Value} (h : LegalLevels levels) : covers levels levels = true := by
  rw [covers_iff]
  intro v hv
  have hself := (h.level v hv).self
  exact ⟨v, hv, hself⟩

lemma covers_trans {xs ys zs : List Value} (hxy : covers xs ys = true) (hyz : covers ys zs = true) :
    covers xs zs = true := by
  rw [covers_iff] at *
  intro z hz
  obtain ⟨y, hy, hyz⟩ := hyz z hz
  obtain ⟨x, hx, hxy⟩ := hxy y hy
  exact ⟨x, hx, same_trans hxy hyz⟩

lemma anyMissing_eq_false {levels : List Value} (h : ∀ v ∈ levels, v.IsLevel) :
    anyMissing levels = .ok false := by
  induction levels with
  | nil => rfl
  | cons v vs ih =>
    have hv := h v (by simp)
    have hmissing : levelIsMissing v = .ok false := by
      cases v with
      | list xs => exact absurd hv.hashable (by simp [unhashable?])
      | array e xs => exact absurd hv.hashable (by simp [unhashable?])
      | _ => rw [levelIsMissing.eq_def]; simp only [hv.present]
    rw [anyMissing, hmissing]
    exact ih fun w hw => h w (by simp [hw])

/-- A level of legal levels is equal to no other place among them. -/
lemma countP_same_le_one {levels : List Value} (h : levels.Pairwise fun v w => v.same w = false) (v : Value) :
    levels.countP (fun w => w.same v) ≤ 1 := by
  induction levels with
  | nil => simp
  | cons w ws ih =>
    rw [List.pairwise_cons] at h
    rw [List.countP_cons]
    by_cases hw : w.same v = true
    · -- a second place equal to `v` would be equal to the first
      have hzero : ws.countP (fun u => u.same v) = 0 := by
        rw [List.countP_eq_zero]
        intro u hu huv
        exact absurd (h.1 u hu) (by simp [same_trans hw (same_symm huv)])
      simp [hzero, hw]
    · simpa [hw] using ih h.2

lemma repeatedNames_eq_nil {levels : List Value} (h : levels.Pairwise fun v w => v.same w = false) :
    repeatedNames levels = [] := by
  have hnone : levels.filter (fun v => 1 < levels.countP fun w => w.same v) = [] := by
    rw [List.filter_eq_nil_iff]
    intro v _
    simpa using countP_same_le_one h v
  simp [repeatedNames, hnone]

/-- The categorical type accepts legal levels. -/
theorem ofLevels_eq {levels : List Value} (h : LegalLevels levels) :
    ofLevels levels = .ok (.categorical levels) := by
  have hhash : unhashableIn? levels = none :=
    (unhashableIn?_eq_none_iff levels).2 fun v hv => (h.level v hv).hashable
  simp only [ofLevels, anyMissing_eq_false h.level, hhash, repeatedNames_eq_nil h.distinct]
  rfl

lemma mem_unionLevels (a b : List Value) (v : Value) :
    v ∈ unionLevels a b ↔ v ∈ a ∨ v ∈ b ∧ v.isIn a = false := by
  simp [unionLevels]

/-- The levels of two categoricals are together levels of a categorical. -/
theorem legalLevels_unionLevels {a b : List Value} (ha : LegalLevels a) (hb : LegalLevels b) :
    LegalLevels (unionLevels a b) where
  level v hv := by
    rcases (mem_unionLevels a b v).1 hv with hv | ⟨hv, -⟩
    · exact ha.level v hv
    · exact hb.level v hv
  distinct := by
    rw [unionLevels, List.pairwise_append]
    refine ⟨ha.distinct, hb.distinct.filter _, ?_⟩
    intro v hv w hw
    rw [List.mem_filter, Bool.not_eq_true', isIn_eq_false_iff] at hw
    exact hw.2 v hv

/-- Either order of two categoricals leads to the same set of levels. -/
theorem covers_unionLevels_comm {a b : List Value} (ha : LegalLevels a) (hb : LegalLevels b) :
    covers (unionLevels b a) (unionLevels a b) = true := by
  rw [covers_iff]
  intro v hv
  rcases (mem_unionLevels a b v).1 hv with hv | ⟨hv, -⟩
  · -- a level of both may be written differently in the two
    by_cases hin : v.isIn b = true
    · obtain ⟨w, hw, hwv⟩ := (isIn_iff v b).1 hin
      exact ⟨w, (mem_unionLevels b a w).2 (Or.inl hw), hwv⟩
    · rw [Bool.not_eq_true] at hin
      exact ⟨v, (mem_unionLevels b a v).2 (Or.inr ⟨hv, hin⟩), (ha.level v hv).self⟩
  · exact ⟨v, (mem_unionLevels b a v).2 (Or.inl hv), (hb.level v hv).self⟩

/-! ### Equality of types -/

/-- Whether two types are equal. A type is always equal to itself, even if its payload holds an undefined number. -/
def Equals (x y : VectorType) : Prop :=
  x = y ∨ x.same y = true

lemma Equals.refl (x : VectorType) : x.Equals x :=
  Or.inl rfl

lemma binned_same_iff (a b : List Double) :
    VectorType.same (.binned a) (.binned b) = true ↔ List.Forall₂ (fun x y => x.same y = true) a b := by
  simp only [VectorType.same, tag, params, List.map_cons, List.map_nil, sameAll, same_tuple, beq_self_eq_true,
    Bool.true_and, Bool.and_true, sameAll_iff, List.forall₂_map_left_iff, List.forall₂_map_right_iff,
    Double.value_same]

/-- Categoricals whose levels are equal one by one are equal. -/
lemma same_of_sameAll {a b : List Value} (h : sameAll a b = true) :
    VectorType.same (.categorical a) (.categorical b) = true := by
  have hback : sameAll b a = true := by
    rw [sameAll_iff] at h ⊢
    exact h.flip.imp fun _ _ => same_symm
  have hcovers : ∀ {xs ys : List Value}, sameAll xs ys = true → covers ys xs = true := by
    intro xs ys hsame
    rw [covers_iff]
    intro x hx
    obtain ⟨y, hy, hxy⟩ := exists_same_of_mem hsame hx
    exact ⟨y, hy, same_symm hxy⟩
  rw [VectorType.same, hcovers h, hcovers hback]
  rfl

theorem same_refl {x : VectorType} (h : x.IsStandard) : x.same x = true := by
  cases h with
  | categorical h => simp [VectorType.same, covers_self h]
  | binned h =>
    rw [binned_same_iff]
    exact h.forall₂_same h fun _ => Iff.rfl
  | _ => simp [VectorType.same, tag, params, sameAll]

/-- Two standard types are equal if they are the same, up to the order of levels and to how levels and boundaries
are written. -/
theorem same_iff {x y : VectorType} (hx : x.IsStandard) (hy : y.IsStandard) :
    x.same y = true ↔ x = y ∨
      (∃ a b, x = .categorical a ∧ y = .categorical b ∧ covers a b = true ∧ covers b a = true) ∨
      ∃ a b, x = .binned a ∧ y = .binned b ∧ List.Forall₂ (fun c d => c.same d = true) a b := by
  constructor
  · intro h
    cases hx with
    | categorical => cases hy <;> simp_all [VectorType.same]
    | binned =>
      cases hy with
      | binned => simpa using Or.inr ((binned_same_iff _ _).1 h)
      | _ => simp [VectorType.same, tag] at h
    | _ => cases hy <;> simp_all [VectorType.same, tag]
  · rintro (rfl | ⟨a, b, rfl, rfl, hab, hba⟩ | ⟨a, b, rfl, rfl, hab⟩)
    · exact same_refl hx
    · simp [VectorType.same, hab, hba]
    · exact (binned_same_iff a b).2 hab

/-- Equality of standard types does not depend on the order of its sides. -/
theorem same_symm {x y : VectorType} (hx : x.IsStandard) (hy : y.IsStandard) (h : x.same y = true) :
    y.same x = true := by
  rcases (same_iff hx hy).1 h with rfl | ⟨a, b, rfl, rfl, hab, hba⟩ | ⟨a, b, rfl, rfl, hab⟩
  · exact h
  · simp [VectorType.same, hab, hba]
  · rw [binned_same_iff]
    refine hab.flip.imp ?_
    intro c d hcd
    rw [Double.same_iff] at hcd ⊢
    exact ⟨hcd.2.1, hcd.1, hcd.2.2.symm⟩

end VectorType

end Coercion
