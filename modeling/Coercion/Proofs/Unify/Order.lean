import Coercion.Proofs.Unify.Kindred

/-!
The order of the built-in types. The null type is below every other; numbers are in one line; categoricals are ordered
by their levels, and below texts; dates are below datetimes, and these meet at universal time. The common type of
two types is the least one above both, unless payloads have to agree, and then it is the same if there is one. So
a fold over a list finds the least type above all of the list, whatever the order of the list is.

Types without values have a place in the order as well, but there the common type is not the least: two unspecified
types are taken for truth values.
-/

namespace Coercion

namespace Kindred

/-- Apart from whole numbers, which stand for missing values too, a family is found only if one of the two has it. -/
lemma join?_eq_some {a b c : Kindred} (hc : c ≠ .whole) (h : a.join? b = some c) :
    a = c ∨ b = c := by
  revert a b c
  decide

end Kindred

namespace VectorType

/-- The built-in types: the standard ones, without the binned ones. -/
def isBuiltIn : VectorType → Bool
  | .binned _ | .custom .. | .family _ => false
  | _ => true

/-- Whether vectors of a type are taken over into a built-in type that is found for them. -/
inductive Below : VectorType → VectorType → Prop where
  | null (y : VectorType) : Below .null y
  | unspecified {y : VectorType} (hy : y ≠ .null) : Below .unspecified y
  | number {x y : VectorType} {m n : Nat} (hx : x.rank? = some m) (hy : y.rank? = some n) (hmn : m ≤ n) : Below x y
  | list : Below .list .list
  | character : Below .character .character
  | categorical {a b : List Value} (covered : covers b a = true) : Below (.categorical a) (.categorical b)
  | levels (a : List Value) : Below (.categorical a) .character
  | date : Below .date .date
  | midnight (z : Option Zone) : Below .date (.datetime z)
  | datetime (z : Option Zone) : Below (.datetime z) (.datetime z)
  | naive (z : Option Zone) : Below (.datetime none) (.datetime z)
  | universal (z : Option Zone) : Below (.datetime z) (.datetime (some .utc))

variable {x y z t u : VectorType}

/-! ### The order -/

namespace Below

theorem refl (hx : x.IsStandard) (hb : x.isBuiltIn = true) : Below x x := by
  cases hx with
  | null => exact .null _
  | unspecified => exact .unspecified nofun
  | logical => exact .number rfl rfl le_rfl
  | integer => exact .number rfl rfl le_rfl
  | double => exact .number rfl rfl le_rfl
  | character => exact .character
  | list => exact .list
  | categorical legal => exact .categorical (covers_self legal)
  | date => exact .date
  | datetime zone => exact .datetime zone
  | binned ascending => cases hb

/-- Only the null type is below the null type. -/
lemma eq_null (h : Below x .null) : x = .null := by
  cases h with
  | null => rfl
  | unspecified hy => exact absurd rfl hy
  | number _ hy _ => cases hy

theorem trans (hxy : Below x y) (hyz : Below y z) : Below x z := by
  cases hxy with
  | null => exact .null z
  | unspecified hy =>
    refine .unspecified ?_
    rintro rfl
    exact hy (eq_null hyz)
  | number hx hy hmn =>
    cases hyz with
    | number hy' hz hnp =>
      rw [hy, Option.some.injEq] at hy'
      subst hy'
      exact .number hx hz (hmn.trans hnp)
    | _ => cases hy
  | list => exact hyz
  | character => exact hyz
  | categorical hba =>
    cases hyz with
    | categorical hcb => exact .categorical (covers_trans hcb hba)
    | levels => exact .levels _
    | number hy _ _ => cases hy
  | levels a =>
    cases hyz with
    | character => exact .levels a
    | number hy _ _ => cases hy
  | date => exact hyz
  | midnight zone =>
    cases hyz with
    | number hy _ _ => cases hy
    | _ => exact .midnight _
  | datetime zone => exact hyz
  | naive zone =>
    cases hyz with
    | number hy _ _ => cases hy
    | _ => exact .naive _
  | universal zone =>
    cases hyz with
    | number hy _ _ => cases hy
    | _ => exact .universal _

end Below

/-- Types that have the same rank are the same. -/
lemma eq_of_rank? {n : Nat} (hx : x.rank? = some n) (hy : y.rank? = some n) : x = y := by
  cases x <;> cases hx <;> cases y <;> cases hy <;> rfl

/-- Types that are below each other are equal. -/
theorem Below.antisymm (hx : x.IsStandard) (hxy : Below x y) (hyx : Below y x) : x.same y = true := by
  cases hxy with
  | null => rw [eq_null hyx]; rfl
  | unspecified hy =>
    cases hyx with
    | null => exact absurd rfl hy
    | unspecified => rfl
    | number _ hx _ => cases hx
  | number hx' hy hmn =>
    cases hyx with
    | null => cases hy
    | unspecified => cases hy
    | number hy' hx'' hnm =>
      rw [hy, Option.some.injEq] at hy'
      rw [hx', Option.some.injEq] at hx''
      have hrank : x = y := eq_of_rank? hx' (by rw [hy, Option.some.injEq]; omega)
      exact hrank ▸ same_refl hx
    | _ => cases hx'
  | categorical hba =>
    cases hyx with
    | categorical hab => simp [VectorType.same, hab, hba]
    | number hy _ _ => cases hy
  | levels => cases hyx; contradiction
  | midnight => cases hyx; contradiction
  | naive zone => cases hyx <;> first | exact same_refl hx | contradiction
  | universal zone => cases hyx <;> first | exact same_refl hx | contradiction
  | list => rfl
  | character => rfl
  | date => rfl
  | datetime zone => exact same_refl hx

/-! ### The common type is the least above both -/

/-- Two numeric types meet at the finer one. -/
lemma common?_number (strict : Bool) {m n : Nat} (hx : x.rank? = some m) (hy : y.rank? = some n) :
    common? strict x y = some (if n ≤ m then x else y) := by
  cases x <;> cases hx <;> cases y <;> cases hy <;> rfl

lemma covers_unionLevels_left {a b : List Value} (ha : LegalLevels a) : covers (unionLevels a b) a = true := by
  rw [covers_iff]
  intro v hv
  exact ⟨v, (mem_unionLevels a b v).2 (Or.inl hv), (ha.level v hv).self⟩

lemma covers_unionLevels_right {a b : List Value} (ha : LegalLevels a) (hb : LegalLevels b) :
    covers (unionLevels a b) b = true :=
  covers_trans (covers_unionLevels_comm hb ha) (covers_unionLevels_left hb)

/-- What has the levels of two categoricals has those of both together. -/
lemma covers_unionLevels_of_covers {a b c : List Value} (ha : covers c a = true) (hb : covers c b = true) :
    covers c (unionLevels a b) = true := by
  rw [covers_iff] at *
  intro v hv
  rcases (mem_unionLevels a b v).1 hv with hv | ⟨hv, -⟩
  · exact ha v hv
  · exact hb v hv

lemma below_common?_categorical {strict : Bool} {a b : List Value} (ha : LegalLevels a) (hb : LegalLevels b)
    (h : common? strict (.categorical a) (.categorical b) = some t) :
    Below (.categorical a) t ∧ Below (.categorical b) t := by
  rw [common?] at h
  split_ifs at h with hab hba hstrict <;> cases h
  · exact ⟨.categorical (covers_self ha), .categorical hab⟩
  · exact ⟨.categorical hba, .categorical (covers_self hb)⟩
  · exact ⟨.categorical (covers_unionLevels_left ha), .categorical (covers_unionLevels_right ha hb)⟩

lemma below_common?_datetime {strict : Bool} {a b : Option Zone}
    (h : common? strict (.datetime a) (.datetime b) = some t) : Below (.datetime a) t ∧ Below (.datetime b) t := by
  rw [common?] at h
  split_ifs at h with hab ha hb <;> cases h
  · exact ⟨.datetime a, hab ▸ .datetime a⟩
  · exact ⟨ha ▸ .naive b, .datetime b⟩
  · exact ⟨.datetime a, hb ▸ .naive a⟩
  · exact ⟨.universal a, .universal b⟩

lemma below_common?_number {strict : Bool} {m : Nat} (hx : x.rank? = some m) (hy : y.IsStandard)
    (hyb : y.isBuiltIn = true) (h : common? strict x y = some t) : Below x t ∧ Below y t := by
  cases hr : y.rank? with
  | some n =>
    rw [common?_number strict hx hr, Option.some.injEq] at h
    subst h
    split_ifs with hnm
    · exact ⟨.number hx hx le_rfl, .number hr hx hnm⟩
    · exact ⟨.number hx hr (by omega), .number hr hr le_rfl⟩
  | none =>
    -- a type without a rank that meets numbers has no values
    have hxt : t = x ∧ (y = .null ∨ y = .unspecified) := by
      cases hy <;> cases x <;> cases hx <;> cases hr <;> cases hyb <;> cases h <;> simp
    obtain ⟨rfl, rfl | rfl⟩ := hxt
    · exact ⟨.number hx hx le_rfl, .null t⟩
    · exact ⟨.number hx hx le_rfl, .unspecified (by rintro rfl; cases hx)⟩

/-- Two types are below their common type. -/
theorem below_common? {strict : Bool} (hx : x.IsStandard) (hxb : x.isBuiltIn = true) (hy : y.IsStandard)
    (hyb : y.isBuiltIn = true) (h : common? strict x y = some t) : Below x t ∧ Below y t := by
  have hx' : Below x x := .refl hx hxb
  have hy' : Below y y := .refl hy hyb
  -- by the first type, and then by those that it has a common type with
  cases hx with
  | null => cases h; exact ⟨.null y, hy'⟩
  | unspecified =>
    cases hy with
    | null => cases h; exact ⟨hx', .null _⟩
    | unspecified => cases h; exact ⟨.unspecified nofun, .unspecified nofun⟩
    | _ => cases h; exact ⟨.unspecified nofun, hy'⟩
  | logical => exact below_common?_number rfl hy hyb h
  | integer => exact below_common?_number rfl hy hyb h
  | double => exact below_common?_number rfl hy hyb h
  | categorical ha =>
    cases hy with
    | categorical hb => exact below_common?_categorical ha hb h
    | null => cases h; exact ⟨hx', .null _⟩
    | unspecified => cases h; exact ⟨hx', .unspecified nofun⟩
    | character => cases h; exact ⟨.levels _, .character⟩
    | _ => cases h
  | datetime a =>
    cases hy with
    | datetime b => exact below_common?_datetime h
    | null => cases h; exact ⟨hx', .null _⟩
    | unspecified => cases h; exact ⟨hx', .unspecified nofun⟩
    | date => cases h; exact ⟨hx', .midnight _⟩
    | _ => cases h
  | character =>
    cases hy with
    | null => cases h; exact ⟨hx', .null _⟩
    | unspecified => cases h; exact ⟨hx', .unspecified nofun⟩
    | categorical => cases h; exact ⟨hx', .levels _⟩
    | character => cases h; exact ⟨hx', hx'⟩
    | _ => cases h
  | list =>
    cases hy with
    | null => cases h; exact ⟨hx', .null _⟩
    | unspecified => cases h; exact ⟨hx', .unspecified nofun⟩
    | list => cases h; exact ⟨hx', hx'⟩
    | _ => cases h
  | date =>
    cases hy with
    | null => cases h; exact ⟨hx', .null _⟩
    | unspecified => cases h; exact ⟨hx', .unspecified nofun⟩
    | date => cases h; exact ⟨hx', hx'⟩
    | datetime b => cases h; exact ⟨.midnight b, hy'⟩
    | _ => cases h
  | binned => cases hxb

lemma isBuiltIn_iff (hx : x.IsStandard) : x.isBuiltIn = true ↔ x.kindred ≠ .binned := by
  cases hx <;> simp [isBuiltIn, kindred]

lemma eq_unspecified_iff (x : VectorType) : x = .unspecified ↔ x.kindred = .unspecified := by
  cases x <;> simp [kindred]

/-- The common type of built-in types is built in. -/
lemma isBuiltIn_common? {strict : Bool} (hx : x.IsStandard) (hxb : x.isBuiltIn = true) (hy : y.IsStandard)
    (hyb : y.isBuiltIn = true) (h : common? strict x y = some t) : t.isBuiltIn = true := by
  rw [isBuiltIn_iff hx] at hxb
  rw [isBuiltIn_iff hy] at hyb
  rw [isBuiltIn_iff (common?_isStandard hx hy h)]
  intro ht
  have hjoin := kindred_common? hx hy h
  rw [ht] at hjoin
  exact (Kindred.join?_eq_some (by decide) hjoin).elim hxb hyb

/-- Nothing is left unspecified if neither type is. -/
lemma common?_ne_unspecified {strict : Bool} (hx : x.IsStandard) (hxu : x ≠ .unspecified) (hy : y.IsStandard)
    (hyu : y ≠ .unspecified) (h : common? strict x y = some t) : t ≠ .unspecified := by
  rw [Ne, eq_unspecified_iff] at *
  intro ht
  have hjoin := kindred_common? hx hy h
  rw [ht] at hjoin
  exact (Kindred.join?_eq_some (by decide) hjoin).elim hxu hyu

lemma common?_categorical_least {a b : List Value} (ha : Below (.categorical a) z) (hb : Below (.categorical b) z) :
    ∃ t, common? false (.categorical a) (.categorical b) = some t ∧ Below t z := by
  have hunion : Below (.categorical (unionLevels a b)) z := by
    cases ha with
    | categorical hca =>
      cases hb with
      | categorical hcb => exact .categorical (covers_unionLevels_of_covers hca hcb)
      | number hx _ _ => cases hx
    | levels => exact .levels _
    | number hx _ _ => cases hx
  rw [common?]
  split_ifs with hab hba hstrict
  · exact ⟨_, rfl, ha⟩
  · exact ⟨_, rfl, hb⟩
  · exact hstrict.elim
  · exact ⟨_, rfl, hunion⟩

lemma common?_datetime_least {a b : Option Zone} (ha : Below (.datetime a) z) (hb : Below (.datetime b) z) :
    ∃ t, common? false (.datetime a) (.datetime b) = some t ∧ Below t z := by
  rw [common?]
  split_ifs with hab ha' hb'
  · exact ⟨_, rfl, ha⟩
  · exact ⟨_, rfl, hb⟩
  · exact ⟨_, rfl, ha⟩
  · -- two zones are both below a datetime only if it has universal time
    refine ⟨_, rfl, ?_⟩
    cases ha with
    | universal => exact .datetime _
    | naive => exact absurd rfl ha'
    | number hx _ _ => cases hx
    | datetime =>
      cases hb with
      | universal => exact .datetime _
      | naive => exact absurd rfl hb'
      | number hx _ _ => cases hx
      | datetime => exact absurd rfl hab

lemma common?_null_right (strict : Bool) (x : VectorType) : common? strict x .null = some x := by
  cases x <;> rfl

lemma common?_number_least {m : Nat} (hx : x.rank? = some m) (hyu : y ≠ .unspecified) (hxz : Below x z)
    (hyz : Below y z) : ∃ t, common? false x y = some t ∧ Below t z := by
  cases hyz with
  | null => exact ⟨x, common?_null_right false x, hxz⟩
  | unspecified => exact absurd rfl hyu
  | number hy hz hnp =>
    refine ⟨_, common?_number false hx hy, ?_⟩
    split_ifs with hnm
    · exact hxz
    · exact .number hy hz hnp
  | _ =>
    -- nothing else is below a type that numbers are below
    cases hxz with
    | number _ hz _ => cases hz
    | _ => cases hx

lemma common?_moment_least {a : Option Zone} (hyu : y ≠ .unspecified) (ha : Below (.datetime a) z)
    (hyz : Below y z) : ∃ t, common? false (.datetime a) y = some t ∧ Below t z := by
  obtain ⟨c, rfl⟩ : ∃ c, z = .datetime c := by
    cases ha with
    | number hx _ _ => cases hx
    | _ => exact ⟨_, rfl⟩
  cases hyz with
  | null => exact ⟨_, rfl, ha⟩
  | unspecified => exact absurd rfl hyu
  | number _ hz _ => cases hz
  | midnight => exact ⟨_, rfl, ha⟩
  | datetime => exact common?_datetime_least ha (.datetime c)
  | naive => exact common?_datetime_least ha (.naive c)
  | universal b => exact common?_datetime_least ha (.universal b)

/-- Types that are both below a third one have a common type, and it is below that one too. -/
theorem common?_least (hxu : x ≠ .unspecified) (hyu : y ≠ .unspecified)
    (hxz : Below x z) (hyz : Below y z) : ∃ t, common? false x y = some t ∧ Below t z := by
  cases hxz with
  | null => exact ⟨y, rfl, hyz⟩
  | unspecified => exact absurd rfl hxu
  | number hx _ _ => exact common?_number_least hx hyu (.number hx ‹_› ‹_›) hyz
  | list =>
    cases hyz with
    | unspecified => exact absurd rfl hyu
    | number _ hz _ => cases hz
    | _ => exact ⟨_, rfl, .list⟩
  | character =>
    cases hyz with
    | unspecified => exact absurd rfl hyu
    | number _ hz _ => cases hz
    | _ => exact ⟨_, rfl, .character⟩
  | categorical hba =>
    cases hyz with
    | null => exact ⟨_, rfl, .categorical hba⟩
    | unspecified => exact absurd rfl hyu
    | categorical hbc => exact common?_categorical_least (.categorical hba) (.categorical hbc)
    | number _ hz _ => cases hz
  | levels a =>
    cases hyz with
    | null => exact ⟨_, rfl, .levels a⟩
    | unspecified => exact absurd rfl hyu
    | character => exact ⟨_, rfl, .character⟩
    | levels b => exact common?_categorical_least (.levels a) (.levels b)
    | number _ hz _ => cases hz
  | date =>
    cases hyz with
    | unspecified => exact absurd rfl hyu
    | number _ hz _ => cases hz
    | _ => exact ⟨_, rfl, .date⟩
  | midnight zone =>
    cases hyz with
    | null => exact ⟨_, rfl, .midnight zone⟩
    | unspecified => exact absurd rfl hyu
    | number _ hz _ => cases hz
    | midnight => exact ⟨_, rfl, .midnight zone⟩
    | datetime => exact ⟨_, rfl, .datetime zone⟩
    | naive => exact ⟨_, rfl, .naive zone⟩
    | universal z => exact ⟨_, rfl, .universal z⟩
  | datetime zone => exact common?_moment_least hyu (.datetime zone) hyz
  | naive zone => exact common?_moment_least hyu (.naive zone) hyz
  | universal zone => exact common?_moment_least hyu (.universal zone) hyz

/-! ### The fold finds the least type above a list -/

/-- What has been found, and every type of the list, is below what is found in the end. -/
theorem below_commonFrom? {strict : Bool} {found : VectorType} {ts : List VectorType} (hfound : found.IsStandard)
    (hbuilt : found.isBuiltIn = true) (hts : ∀ s ∈ ts, s.IsStandard ∧ s.isBuiltIn = true)
    (h : commonFrom? strict found ts = some t) : Below found t ∧ ∀ s ∈ ts, Below s t := by
  induction ts generalizing found with
  | nil =>
    cases h
    exact ⟨.refl hfound hbuilt, by simp⟩
  | cons u us ih =>
    obtain ⟨hu, hub⟩ := hts u (by simp)
    obtain ⟨next, hc, h⟩ := commonFrom?_cons_eq_some.1 h
    obtain ⟨hfn, hun⟩ := below_common? hfound hbuilt hu hub hc
    have hnext : next.IsStandard := common?_isStandard hfound hu hc
    obtain ⟨hnt, hus⟩ := ih hnext (isBuiltIn_common? hfound hbuilt hu hub hc) (fun s hs => hts s (by simp [hs])) h
    refine ⟨hfn.trans hnt, ?_⟩
    intro s hs
    rcases List.mem_cons.1 hs with rfl | hs
    · exact hun.trans hnt
    · exact hus s hs

/-- A type that is above what has been found and above the list is above what is found in the end. -/
theorem commonFrom?_least {found : VectorType} {ts : List VectorType} (hfound : found.IsStandard)
    (hspec : found ≠ .unspecified) (hts : ∀ s ∈ ts, s.IsStandard ∧ s ≠ .unspecified) (hz : Below found z)
    (htz : ∀ s ∈ ts, Below s z) : ∃ t, commonFrom? false found ts = some t ∧ Below t z := by
  induction ts generalizing found with
  | nil => exact ⟨found, rfl, hz⟩
  | cons u us ih =>
    obtain ⟨hu, hus⟩ := hts u (by simp)
    obtain ⟨next, hc, hnext⟩ := common?_least hspec hus hz (htz u (by simp))
    have hstandard : next.IsStandard := common?_isStandard hfound hu hc
    obtain ⟨t, ht, htz⟩ := ih hstandard (common?_ne_unspecified hfound hspec hu hus hc)
      (fun s hs => hts s (by simp [hs])) hnext fun s hs => htz s (by simp [hs])
    exact ⟨t, commonFrom?_cons_eq_some.2 ⟨next, hc, ht⟩, htz⟩

/-! ### Payloads that have to agree -/

/-- Types that are unified although payloads have to agree have the same common type without that demand. -/
lemma common?_relaxed (hx : x.IsStandard) (h : common? true x y = some t) : common? false x y = some t := by
  cases hx with
  | @categorical a ha =>
    cases y with
    | categorical b =>
      rw [common?] at h ⊢
      by_cases hab : covers a b = true
      · rw [if_pos hab] at h ⊢
        exact h
      · rw [if_neg hab] at h ⊢
        by_cases hba : covers b a = true
        · rw [if_pos hba] at h ⊢
          exact h
        · rw [if_neg hba] at h
          cases h
    | _ => exact h
  | _ => cases y <;> exact h

lemma commonFrom?_relaxed {found : VectorType} {ts : List VectorType} (hfound : found.IsStandard)
    (hts : ∀ s ∈ ts, s.IsStandard) (h : commonFrom? true found ts = some t) : commonFrom? false found ts = some t := by
  induction ts generalizing found with
  | nil => exact h
  | cons u us ih =>
    have hu : u.IsStandard := hts u (by simp)
    obtain ⟨next, hc, h⟩ := commonFrom?_cons_eq_some.1 h
    have hrest := ih (common?_isStandard hfound hu hc) (fun s hs => hts s (by simp [hs])) h
    exact commonFrom?_cons_eq_some.2 ⟨next, common?_relaxed hfound hc, hrest⟩

/-! ### The null type -/

/-- The null type makes no difference anywhere in a list. -/
lemma commonFrom?_insert_null (strict : Bool) (found : VectorType) (left right : List VectorType) :
    commonFrom? strict found (left ++ .null :: right) = commonFrom? strict found (left ++ right) := by
  induction left generalizing found with
  | nil => rw [List.nil_append, List.nil_append, commonFrom?, common?_null_right]
  | cons u us ih =>
    rw [List.cons_append, List.cons_append, commonFrom?, commonFrom?]
    cases common? strict found u with
    | none => rfl
    | some next => exact ih next

end VectorType

end Coercion
