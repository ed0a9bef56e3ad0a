import Coercion.Proofs.Cast.Refused
import Coercion.Proofs.Combine.Agreement
import Coercion.Proofs.Unify.Refusal

/-!
Where a combination ends. Vectors are combined into their common type, or into a target that each of their types has to
have a common type with. In both cases the search is over before the first cast: a refusal names two types and the
position of the second, or of the first that the target is refused with, and is the same whatever casters there are.
-/

namespace Coercion

namespace Engine

open VectorType Registry

variable {strict : Bool} {rule : LossyRule} {target : Option Specifier} {vs : List TypedVector} {data : List Data}
  {ts : List VectorType} {r : Registry} {t x : VectorType} {i index : Nat} {f g : Failure}

/-- The engine of the standard kinds with other casters. -/
def withCasters (casters : List (TagPair × Caster)) : Engine :=
  ⟨.standard, { Registry.standard with casters := casters }⟩

/-! ### The check of a target -/

/-- Whether the type at a position is the first that is refused with a target. -/
def MismatchedAt (r : Registry) (strict : Bool) (target : VectorType) (ts : List VectorType) (i : Nat) (x : VectorType)
    (f : Failure) : Prop :=
  ts[i]? = some x ∧ r.unify strict x target = .error f ∧
    ∀ j < i, ∀ y, ts[j]? = some y → ∃ u, r.unify strict y target = .ok u

lemma not_mismatchedAt_nil : ¬ MismatchedAt r strict t [] i x f := by
  rintro ⟨hx, -⟩
  simp at hx

lemma mismatchedAt_zero_iff {s : VectorType} :
    MismatchedAt r strict t (s :: ts) 0 x f ↔ s = x ∧ r.unify strict x t = .error f := by
  simp [MismatchedAt]

lemma mismatchedAt_succ_iff {s : VectorType} :
    MismatchedAt r strict t (s :: ts) (i + 1) x f ↔
      (∃ u, r.unify strict s t = .ok u) ∧ MismatchedAt r strict t ts i x f := by
  simp only [MismatchedAt, List.getElem?_cons_succ]
  constructor
  · rintro ⟨hx, hrefused, hbefore⟩
    refine ⟨hbefore 0 (by omega) s rfl, hx, hrefused, ?_⟩
    intro j hj y hy
    exact hbefore (j + 1) (by omega) y (by simpa using hy)
  · rintro ⟨hfirst, hx, hrefused, hbefore⟩
    refine ⟨hx, hrefused, fun j hj y hy => ?_⟩
    cases j with
    | zero =>
      cases hy
      exact hfirst
    | succ j => exact hbefore j (by omega) y (by simpa using hy)

/-- The check fails if and only if the target is refused with a type, and at the first such one. -/
theorem checkTarget_eq_error_iff (index : Nat) :
    checkTarget r strict t index ts = .error g ↔
      ∃ i x f, MismatchedAt r strict t ts i x f ∧ g = refusalAt (index + i) x t f := by
  induction ts generalizing index with
  | nil =>
    constructor
    · rintro ⟨⟩
    · rintro ⟨i, x, f, h, -⟩
      exact absurd h not_mismatchedAt_nil
  | cons s ts ih =>
    rw [checkTarget]
    cases hunify : r.unify strict s t with
    | ok u =>
      dsimp only
      rw [ih]
      constructor
      · rintro ⟨i, x, f, h, rfl⟩
        exact ⟨i + 1, x, f, mismatchedAt_succ_iff.2 ⟨⟨u, hunify⟩, h⟩, by rw [Nat.add_assoc, Nat.add_comm 1 i]⟩
      · rintro ⟨i, x, f, h, rfl⟩
        cases i with
        | zero =>
          obtain ⟨rfl, hrefused⟩ := mismatchedAt_zero_iff.1 h
          rw [hunify] at hrefused
          cases hrefused
        | succ i =>
          exact ⟨i, x, f, (mismatchedAt_succ_iff.1 h).2, by rw [Nat.add_right_comm, Nat.add_assoc]⟩
    | error e =>
      constructor
      · rintro ⟨⟩
        exact ⟨0, s, e, mismatchedAt_zero_iff.2 ⟨rfl, hunify⟩, rfl⟩
      · rintro ⟨i, x, f, h, rfl⟩
        cases i with
        | zero =>
          obtain ⟨rfl, hrefused⟩ := mismatchedAt_zero_iff.1 h
          rw [hunify] at hrefused
          cases hrefused
          rfl
        | succ i =>
          obtain ⟨⟨u, hu⟩, -⟩ := mismatchedAt_succ_iff.1 h
          rw [hunify] at hu
          cases hu

lemma checkTarget_congr {r' : Registry} (h : r.resolvers = r'.resolvers) (index : Nat) (ts : List VectorType) :
    checkTarget r strict t index ts = checkTarget r' strict t index ts := by
  induction ts generalizing index with
  | nil => rfl
  | cons s ts ih => simp only [checkTarget, unify_congr h, ih]

/-! ### The search of a combination -/

/-- Vectors are made before anything else is done with them. -/
lemma combine_made (e : Engine) (rule : LossyRule) (target : Option Specifier)
    (hdata : data.mapM (fun d => standard.vector d none) = .ok vs) :
    e.combine strict rule target data = e.combine strict rule target (vs.map .vector) := by
  have hvectors : (vs.map Data.vector).mapM (fun d => standard.vector d none) = .ok vs := by
    rw [mapM_eq_ok_iff, List.forall₂_map_left_iff, List.forall₂_same]
    intro _ _
    rfl
  change (data.mapM (fun d => standard.vector d none) >>= _) =
    ((vs.map Data.vector).mapM (fun d => standard.vector d none) >>= _)
  rw [hdata, hvectors]

/-- Other casters do not change the type that vectors are combined into. -/
lemma combinedType_withCasters (casters : List (TagPair × Caster)) (strict : Bool) (target : Option Specifier)
    (ts : List VectorType) :
    (withCasters casters).combinedType strict target ts = standard.combinedType strict target ts := by
  have hresolvers : (withCasters casters).registry.resolvers = standard.registry.resolvers := rfl
  cases target with
  | none => simp only [combinedType, Registry.commonType, unifyFrom_congr hresolvers]
  | some s =>
    simp only [combinedType, checkTarget_congr hresolvers]
    rfl

/-- If no type is found, no cast is made: the failure is that of the search. -/
lemma combine_of_not_found (casters : List (TagPair × Caster)) (rule : LossyRule)
    (hdata : data.mapM (fun d => standard.vector d none) = .ok vs)
    (h : standard.combinedType strict target (vs.map TypedVector.type) = .error f) :
    (withCasters casters).combine strict rule target data = .error f := by
  change (data.mapM (fun d => standard.vector d none) >>= fun vectors =>
    (withCasters casters).combinedType strict target (vectors.map TypedVector.type) >>= _) = _
  rw [hdata]
  change ((withCasters casters).combinedType strict target (vs.map TypedVector.type) >>= _) = _
  rw [combinedType_withCasters, h]
  rfl

/-- Without a target, the search fails just as that for the common type does. -/
lemma combinedType_none_eq_error :
    standard.combinedType strict none ts = .error f ↔ Registry.standard.commonType strict ts = .error f := by
  change (Registry.standard.commonType strict ts >>= _) = _ ↔ _
  cases Registry.standard.commonType strict ts with
  | ok t => cases t <;> simp [bind, Except.bind, pure, Except.pure]
  | error g => rfl

/-- With a target, it fails just as the check of the target does. -/
lemma combinedType_some_eq_error {s : Specifier} (hs : standard.resolve s = .ok t) :
    standard.combinedType strict (some s) ts = .error f ↔ checkTarget Registry.standard strict t 0 ts = .error f := by
  rw [combinedType, hs]
  change (checkTarget Registry.standard strict t 0 ts >>= fun _ => pure t) = _ ↔ _
  cases checkTarget Registry.standard strict t 0 ts with
  | ok => simp [bind, Except.bind, pure, Except.pure]
  | error g => simp [bind, Except.bind]

/-! ### Casts are refused in another way -/

/-- A cast to a type without values arrives, or is refused as a cast. -/
lemma castTo_untyped {v : TypedVector} (hv : v.WellFormed) (ht : t.IsStandard) (htyped : t.isTyped = false) :
    Arrives v t (Registry.standard.castTo true v t) ∨
      ∃ f, Registry.standard.castTo true v t = .error f ∧ f.category = .incompatibleCast := by
  have hrefused : ∀ detail, (Failure.noCast v.type t detail).category = .incompatibleCast := by
    intro detail
    rw [Failure.noCast_standard hv.standard ht]
    rfl
  by_cases hsame : v.type.same t = true
  · exact .inl (arrives_unchanged hv ht hsame)
  have hdiffer : v.type.same t = false := Bool.not_eq_true _ ▸ hsame
  rcases (isTyped_eq_false_iff t).1 htyped with rfl | rfl
  · -- only a vector without values is cast to the null type
    have hroute : Registry.standard.route true v.type .null = .toNull := (Takes.toNull hdiffer rfl).route_eq
    by_cases hsize : v.size = 0
    · refine .inl ⟨⟨VectorType.storage .null, []⟩, [], ?_, by simp [Column.size, hsize], rfl⟩
      rw [Registry.castTo, castFuel, castWithin, hroute]
      dsimp only
      rw [if_neg (not_not.2 hsize)]
      rfl
    · refine .inr ⟨_, ?_, hrefused (some "null vectors are empty")⟩
      rw [Registry.castTo, castFuel, castWithin, hroute]
      exact if_pos hsize
  · cases hsource : v.type.isTyped with
    | false =>
      rcases (isTyped_eq_false_iff v.type).1 hsource with hnull | hunspecified
      · exact .inl (arrives_fromNull hv ht hnull hdiffer)
      · exact absurd (by rw [hunspecified]; rfl) hsame
    | true =>
      have hnone : caster? v.type .unspecified = none := by
        cases v.type <;> rfl
      have hroute : Registry.standard.route true v.type .unspecified = .direct .noCast :=
        route_refused hv.standard ht hsource (by rintro ⟨⟩) hdiffer hnone (.inr rfl)
      refine .inr ⟨_, ?_, hrefused none⟩
      rw [castTo_direct hroute]
      rfl

/-- A cast that fails does so in another way than by the refusal of two types. -/
def CastsApart (t : VectorType) (v : TypedVector) : Prop :=
  Arrives v t (Registry.standard.castTo true v t) ∨
    ∃ f, Registry.standard.castTo true v t = .error f ∧ f.category ≠ .incompatibleType

lemma castsApart_of_fits {v : TypedVector} (hv : v.WellFormed) (ht : t.IsStandard) (hfits : v.type.Fits t) :
    CastsApart t v := by
  refine (castTo_fits hv ht hfits).imp_right ?_
  rintro ⟨f, hf, hbounds⟩
  exact ⟨f, hf, by rw [hbounds]; decide⟩

lemma castsApart_of_untyped {v : TypedVector} (hv : v.WellFormed) (ht : t.IsStandard) (htyped : t.isTyped = false) :
    CastsApart t v := by
  refine (castTo_untyped hv ht htyped).imp_right ?_
  rintro ⟨f, hf, hcast⟩
  exact ⟨f, hf, by rw [hcast]; decide⟩

/-- That is so for every type that is found, with a target or without. -/
lemma castsApart_of_found (hvs : ∀ v ∈ vs, v.WellFormed)
    (htarget : ∀ s ∈ target, ∃ t, standard.resolve s = .ok t ∧ t.IsStandard)
    (hfound : standard.combinedType strict target (vs.map TypedVector.type) = .ok t) :
    t.IsStandard ∧ ∀ v ∈ vs, CastsApart t v := by
  have hts := isStandard_types hvs
  have hfitting : Finds (vs.map TypedVector.type) (standard.combinedType strict target (vs.map TypedVector.type)) →
      t.IsStandard ∧ ∀ v ∈ vs, CastsApart t v := by
    rintro (⟨u, hu, hstandard, hfits⟩ | ⟨f, hf, -⟩)
    · rw [hfound] at hu
      cases hu
      refine ⟨hstandard, ?_⟩
      intro v hv
      have hbelow := hfits v.type (List.mem_map_of_mem hv)
      exact castsApart_of_fits (hvs v hv) hstandard hbelow
    · rw [hfound] at hf
      cases hf
  cases target with
  | none => exact hfitting (finds_combinedType_none strict hts)
  | some s =>
    obtain ⟨u, hu, hstandard⟩ := htarget s rfl
    cases htyped : u.isTyped with
    | true => exact hfitting (finds_combinedType_some strict hts hu hstandard htyped)
    | false =>
      -- a target without values is the type that is found, whether or not vectors fit it
      rw [combinedType, hu] at hfound
      change (checkTarget Registry.standard strict u 0 (vs.map TypedVector.type) >>= fun _ => pure u) = .ok t at hfound
      obtain ⟨-, -, hfound⟩ := bind_eq_ok_iff.1 hfound
      cases hfound
      exact ⟨hstandard, fun v hv => castsApart_of_untyped (hvs v hv) hstandard htyped⟩

/-- Two types are refused in the search only: once a type has been found, whatever fails is something else. -/
lemma combinedType_eq_error (hvs : ∀ v ∈ vs, v.WellFormed)
    (htarget : ∀ s ∈ target, ∃ t, standard.resolve s = .ok t ∧ t.IsStandard)
    (hf : standard.combine strict rule target (vs.map .vector) = .error f)
    (hcategory : f.category = .incompatibleType) :
    standard.combinedType strict target (vs.map TypedVector.type) = .error f := by
  rw [combine_vectors] at hf
  rcases bind_eq_error_iff.1 hf with hsearch | ⟨t, hfound, hf⟩
  · exact hsearch
  exfalso
  obtain ⟨ht, hcasts⟩ := castsApart_of_found hvs htarget hfound
  rcases bind_eq_error_iff.1 hf with hcast | ⟨results, hresults, hf⟩
  · obtain ⟨v, hv, hcast⟩ := exists_of_mapM_error hcast
    rcases hcasts v hv with harrives | ⟨g, hg, hapart⟩
    · exact harrives.ne_error f hcast
    · rw [hcast] at hg
      cases hg
      exact hapart hcategory
  · -- results of casts that arrive are joined
    have hjoins : ∀ r ∈ results, r.vector.column.JoinsAs t := by
      intro r hr
      obtain ⟨v, hv, hcast⟩ := (exists_of_mapM_ok hresults).2 r hr
      rcases hcasts v hv with ⟨c, lossy, hok, -, hc⟩ | ⟨g, hg, -⟩
      · rw [hcast] at hok
        cases hok
        exact hc
      · rw [hcast] at hg
        cases hg
    obtain ⟨c, hc⟩ := join_eq_ok ht hjoins
    rw [hc] at hf
    cases hf

/-! ### Both ways to combine -/

/-- Where the failures of a fold of types come from, and those of combinations of vectors of these types, with whatever
casters and whatever is to be done about values that are not preserved. -/
structure PointsOut (strict : Bool) (ts : List VectorType) : Prop where
  /-- Types have no common type if and only if at some position one is refused with what the types before have. -/
  refused : (∃ f, standard.commonType strict (ts.map .type) = .error f ∧ f.category = .incompatibleType) ↔
    ∃ i x y f, Registry.standard.RefusedAt strict ts i x y f
  /-- There is no other such position, and the failure tells of the types that met there, with the same detail. -/
  first : ∀ i x y f, Registry.standard.RefusedAt strict ts i x y f →
    (∀ j x' y' f', Registry.standard.RefusedAt strict ts j x' y' f' → j = i) ∧
      ∃ detail, f = .incompatibleType (.type x) (.type y) detail none ∧
        standard.commonType strict (ts.map .type) = .error (.incompatibleType (.type x) (.type y) detail (some i))
  /-- Vectors of these types are not combined, and fail to be so with the failure of the types. -/
  untargeted : ∀ casters rule data vs, data.mapM (fun d => standard.vector d none) = .ok vs →
    vs.map TypedVector.type = ts → ∀ f, standard.commonType strict (ts.map .type) = .error f →
      (withCasters casters).combine strict rule none data = .error f
  /-- They do not fail for two types otherwise. -/
  untargetedOnly : ∀ rule data vs, data.mapM (fun d => standard.vector d none) = .ok vs →
    vs.map TypedVector.type = ts → (∀ v ∈ vs, v.WellFormed) → ∀ f, f.category = .incompatibleType →
      standard.combine strict rule none data = .error f → standard.commonType strict (ts.map .type) = .error f
  /-- With a target, the failure tells of the first type that the target is refused with. -/
  targeted : ∀ casters rule data vs s t, data.mapM (fun d => standard.vector d none) = .ok vs →
    vs.map TypedVector.type = ts → standard.resolve s = .ok t → t.IsStandard →
      ∀ i x f, MismatchedAt Registry.standard strict t ts i x f →
        ∃ detail, f = .incompatibleType (.type x) (.type t) detail none ∧
          (withCasters casters).combine strict rule (some s) data =
            .error (.incompatibleType (.type x) (.type t) detail (some i))
  /-- Nor do two types fail to be one with a target otherwise. -/
  targetedOnly : ∀ rule data vs s t, data.mapM (fun d => standard.vector d none) = .ok vs →
    vs.map TypedVector.type = ts → standard.resolve s = .ok t → t.IsStandard → (∀ v ∈ vs, v.WellFormed) →
      ∀ f, f.category = .incompatibleType → standard.combine strict rule (some s) data = .error f →
        ∃ i x g, MismatchedAt Registry.standard strict t ts i x g

/-- **Failures point out where they come from.** -/
theorem commonType_pointsOut (strict : Bool) (hts : ∀ t ∈ ts, t.IsStandard) : PointsOut strict ts where
  refused := by
    rw [commonType_types]
    constructor
    · rintro ⟨g, hg, -⟩
      obtain ⟨i, x, y, f, h, -⟩ := commonType_eq_error_iff.1 hg
      exact ⟨i, x, y, f, h⟩
    · rintro ⟨i, x, y, f, h⟩
      obtain ⟨hx, hy, detail, rfl⟩ := h.incompatible hts
      exact ⟨_, commonType_eq_error_iff.2 ⟨i, x, y, _, h, (refusalAt_incompatible hx hy i detail).symm⟩, rfl⟩
  first := by
    intro i x y f h
    obtain ⟨hx, hy, detail, rfl⟩ := h.incompatible hts
    refine ⟨fun j x' y' f' h' => h'.position_eq h, detail, rfl, ?_⟩
    rw [commonType_types, commonType_eq_error_iff]
    exact ⟨i, x, y, _, h, (refusalAt_incompatible hx hy i detail).symm⟩
  untargeted := by
    rintro casters rule data vs hdata rfl f hf
    rw [commonType_types] at hf
    exact combine_of_not_found casters rule hdata (combinedType_none_eq_error.2 hf)
  untargetedOnly := by
    rintro rule data vs hdata rfl hvs f hcategory hf
    rw [combine_made standard rule none hdata] at hf
    rw [commonType_types]
    exact combinedType_none_eq_error.1 (combinedType_eq_error hvs (by simp) hf hcategory)
  targeted := by
    rintro casters rule data vs s t hdata rfl hs ht i x f h
    have hx : x.IsStandard := hts x (List.mem_of_getElem? h.1)
    obtain ⟨detail, rfl⟩ := unify_eq_error hx ht h.2.1
    refine ⟨detail, rfl, combine_of_not_found casters rule hdata ?_⟩
    rw [combinedType_some_eq_error hs, checkTarget_eq_error_iff]
    exact ⟨i, x, _, h, by rw [Nat.zero_add, refusalAt_incompatible hx ht]⟩
  targetedOnly := by
    rintro rule data vs s t hdata rfl hs ht hvs f hcategory hf
    rw [combine_made standard rule (some s) hdata] at hf
    have hsearch := combinedType_eq_error hvs (by simpa using ⟨t, hs, ht⟩) hf hcategory
    rw [combinedType_some_eq_error hs, checkTarget_eq_error_iff] at hsearch
    obtain ⟨i, x, g, h, -⟩ := hsearch
    exact ⟨i, x, g, h⟩

/-- The third of four types is refused with the levels of the first two. -/
theorem commonType_pointsOut_levels :
    let ts : List VectorType := [.categorical [.text "a"], .categorical [.text "a", .text "b"],
      .categorical [.text "c"], .integer]
    PointsOut true ts ∧ ∃ detail, standard.commonType true (ts.map .type) = .error (.incompatibleType
      (.type (.categorical [.text "a", .text "b"])) (.type (.categorical [.text "c"])) detail (some 2)) := by
  intro ts
  have hts : ∀ t ∈ ts, t.IsStandard := by
    simp only [ts, List.forall_mem_cons]
    exact ⟨.categorical (by decide), .categorical (by decide), .categorical (by decide), .integer, by simp⟩
  have hrefused : ∃ f, Registry.standard.RefusedAt true ts 2 (.categorical [.text "a", .text "b"])
      (.categorical [.text "c"]) f :=
    ⟨_, rfl, rfl, rfl⟩
  obtain ⟨f, hf⟩ := hrefused
  obtain ⟨-, detail, -, hfails⟩ := (commonType_pointsOut true hts).first _ _ _ _ hf
  exact ⟨commonType_pointsOut true hts, detail, hfails⟩

end Engine

end Coercion
