import Coercion.Engine
import Coercion.Proofs.Registry.Tables

/-!
The common type of two standard types. The registry looks for a rule in up to four places, and most pairs of kinds have
one in only one order; what comes out is a function of the two types, `common?`, or a refusal that names them. The
function does not depend on the order of the types.
-/

namespace Coercion

namespace VectorType

/-- The common type of two standard types, if they have one. -/
def common? (strict : Bool) : VectorType → VectorType → Option VectorType
  | .null, y => some y
  | x, .null => some x
  | .unspecified, .unspecified => some .logical
  | .unspecified, y => some y
  | x, .unspecified => some x
  | .logical, .logical => some .logical
  | .logical, .integer | .integer, .logical | .integer, .integer => some .integer
  | .logical, .double | .double, .logical | .integer, .double | .double, .integer | .double, .double
  | .double, .binned _ | .binned _, .double => some .double
  | .character, .character | .character, .categorical _ | .categorical _, .character => some .character
  | .list, .list => some .list
  | .categorical a, .categorical b =>
    if covers a b then some (.categorical a)
    else if covers b a then some (.categorical b)
    else if strict then none
    else some (.categorical (unionLevels a b))
  | .date, .date => some .date
  | .date, .datetime z | .datetime z, .date => some (.datetime z)
  | .datetime a, .datetime b =>
    if a = b then some (.datetime a)
    else if a = none then some (.datetime b)
    else if b = none then some (.datetime a)
    else some (.datetime (some .utc))
  | .binned a, .binned b => some (ofBoundaries (a ++ b))
  | _, _ => none

end VectorType

/-! ### Unification is `common?` -/

namespace Failure

variable {x y : VectorType}

lemma unnamedClass?_standard (h : x.IsStandard) : x.unnamedClass? = none := by
  cases h <;> rfl

lemma incompatible_standard (hx : x.IsStandard) (hy : y.IsStandard) (detail : Option String) (index : Option Nat) :
    incompatible x y detail index = .incompatibleType (.type x) (.type y) detail index := by
  rw [incompatible, unnamedClass?_standard hx, unnamedClass?_standard hy]

end Failure

namespace Registry

open VectorType

variable {x y : VectorType}

/-- Whichever order a rule is found in, a refusal names the types in the order that was asked for. -/
lemma refusalFor_incompatible (hx : x.IsStandard) (hy : y.IsStandard) (detail : Option String) :
    refusalFor x y (.incompatible x y detail none) = .incompatibleType (.type x) (.type y) detail none := by
  rw [Failure.incompatible_standard hx hy, refusalFor, Failure.incompatible_standard hx hy]
  split <;> rfl

/-- The rule that applies to two standard types: the one for their kinds, or else the one for the kinds swapped, or
else the fallback. -/
def ruleFor (x y : VectorType) : Dispatch :=
  match resolver? x y, resolver? y x with
  | some rule, _ => ⟨rule, x, y⟩
  | none, some rule => ⟨rule, y, x⟩
  | none, none => ⟨.noCommonType, x, y⟩

lemma dispatch?_standard (hx : x.IsStandard) (hy : y.IsStandard) (hnull : x ≠ .null) :
    standard.dispatch? x y = some (ruleFor x y) := by
  simp only [dispatch?, resolverFor?_standard hx hy, resolverFor?_standard hy hx, resolverFor?_any hx, ruleFor]
  cases resolver? x y with
  | some rule => simp
  | none =>
    cases resolver? y x with
    | some rule => simp
    | none => cases hx <;> simp at hnull ⊢

/-- What comes of a rule: a common type, or a refusal in terms of the types that were asked for. -/
def settled (x y : VectorType) : Except Failure Resolution → Except Failure VectorType
  | .ok (.type t) => .ok t
  | .ok (.other q) => .error (.notATypeResult x.tag y.tag q)
  | .error f => .error (refusalFor x y f)

lemma unify_eq_settled {r : Registry} {strict : Bool} (hx : x ≠ .null) (hy : y ≠ .null) {d : Dispatch}
    (hd : r.dispatch? x y = some d) : r.unify strict x y = settled x y (d.rule.run d.left d.right strict) := by
  rw [unify.eq_def]
  split
  · exact absurd rfl hx
  · exact absurd rfl hy
  · rw [hd]
    simp only
    cases d.rule.run d.left d.right strict with
    | error f => rfl
    | ok r => cases r <;> rfl

/-- The two outcomes of unification: the common type, or a refusal that names both types. -/
def Outcome (strict : Bool) (x y : VectorType) (r : Except Failure VectorType) : Prop :=
  match common? strict x y with
  | some t => r = .ok t
  | none => ∃ detail, r = .error (.incompatibleType (.type x) (.type y) detail none)

lemma outcome_noCommonType (strict : Bool) (hx : x.IsStandard) (hy : y.IsStandard) (h : common? strict x y = none) :
    Outcome strict x y (settled x y (Resolver.noCommonType.run x y strict)) := by
  rw [Outcome, h]
  exact ⟨none, congrArg Except.error (refusalFor_incompatible hx hy none)⟩

lemma outcome_sameType {strict : Bool} (hx : x.IsStandard) (h : common? strict x x = some x) :
    Outcome strict x x (settled x x (Resolver.sameType.run x x strict)) := by
  have hrun : Resolver.sameType.run x x strict = .ok (.type x) := by
    have hself : (x == x) = true := same_refl hx
    simp [Resolver.sameType, Resolver.ofTypes, hself, Except.map]
  rw [Outcome, h, hrun]
  rfl

lemma outcome_categoricals (strict : Bool) {a b : List Value} (ha : LegalLevels a) (hb : LegalLevels b) :
    Outcome strict (.categorical a) (.categorical b)
      (settled (.categorical a) (.categorical b)
        (Resolver.categoricals.run (.categorical a) (.categorical b) strict)) := by
  rw [Outcome, common?.eq_def]
  simp only [Resolver.categoricals, Resolver.ofTypes, finerThan]
  by_cases hab : covers a b = true
  · simp only [hab, if_true]
    rfl
  by_cases hba : covers b a = true
  · simp only [hab, hba, if_true]
    rfl
  cases strict with
  | true =>
    simp only [hab, hba, if_true]
    exact ⟨_, congrArg Except.error (refusalFor_incompatible (.categorical ha) (.categorical hb) _)⟩
  | false =>
    simp only [hab, hba, if_false, Bool.false_eq_true, ofLevels_eq (legalLevels_unionLevels ha hb)]
    rfl

lemma outcome_datetimes (strict : Bool) (a b : Option Zone) :
    Outcome strict (.datetime a) (.datetime b)
      (settled (.datetime a) (.datetime b) (Resolver.datetimes.run (.datetime a) (.datetime b) strict)) := by
  simp only [Outcome, common?, Resolver.datetimes, Resolver.ofTypes, Option.isNone_iff_eq_none]
  split_ifs <;> rfl

/-- Two standard types have the common type that `common?` names, or unification refuses them. -/
theorem unify_standard (strict : Bool) (hx : x.IsStandard) (hy : y.IsStandard) :
    Outcome strict x y (standard.unify strict x y) := by
  by_cases hxn : x = .null
  · subst hxn
    simp [Outcome, common?, unify]
  by_cases hyn : y = .null
  · subst hyn
    cases hx <;> simp [Outcome, common?, unify]
  rw [unify_eq_settled hxn hyn (dispatch?_standard hx hy hxn)]
  -- what is left is to run the rule that is found; without one, the fallback refuses
  have hrefused := outcome_noCommonType strict hx hy
  cases hx with
  | null => exact absurd rfl hxn
  | categorical ha =>
    cases hy with
    | categorical hb => exact outcome_categoricals strict ha hb
    | null => exact absurd rfl hyn
    | _ => first | rfl | exact hrefused rfl
  | datetime a =>
    cases hy with
    | datetime b => exact outcome_datetimes strict a b
    | null => exact absurd rfl hyn
    | _ => first | rfl | exact hrefused rfl
  | list =>
    cases hy with
    | list => exact outcome_sameType .list rfl
    | null => exact absurd rfl hyn
    | _ => first | rfl | exact hrefused rfl
  | character =>
    cases hy with
    | character => exact outcome_sameType .character rfl
    | null => exact absurd rfl hyn
    | _ => first | rfl | exact hrefused rfl
  | date =>
    cases hy with
    | date => exact outcome_sameType .date rfl
    | null => exact absurd rfl hyn
    | _ => first | rfl | exact hrefused rfl
  | _ =>
    cases hy with
    | null => exact absurd rfl hyn
    | _ => first | rfl | exact hrefused rfl

/-- The two outcomes apart. -/
lemma unify_cases (strict : Bool) (hx : x.IsStandard) (hy : y.IsStandard) :
    (∃ t, common? strict x y = some t ∧ standard.unify strict x y = .ok t) ∨
      common? strict x y = none ∧
        ∃ detail, standard.unify strict x y = .error (.incompatibleType (.type x) (.type y) detail none) := by
  have houtcome := unify_standard strict hx hy
  rw [Outcome] at houtcome
  cases hc : common? strict x y with
  | some t =>
    rw [hc] at houtcome
    exact Or.inl ⟨t, rfl, houtcome⟩
  | none =>
    rw [hc] at houtcome
    exact Or.inr ⟨rfl, houtcome⟩

end Registry

/-! ### The common type is standard, and does not depend on the order -/

namespace VectorType

variable {x y : VectorType}

theorem common?_isStandard {strict : Bool} {t : VectorType} (hx : x.IsStandard) (hy : y.IsStandard)
    (h : common? strict x y = some t) : t.IsStandard := by
  have hx' := hx
  have hy' := hy
  cases hx with
  | categorical ha =>
    cases hy with
    | categorical hb =>
      rw [common?] at h
      split_ifs at h <;> cases h
      · exact hx'
      · exact hy'
      · exact .categorical (legalLevels_unionLevels ha hb)
    | _ => cases h <;> assumption
  | datetime a =>
    cases hy with
    | datetime b =>
      rw [common?] at h
      split_ifs at h <;> cases h <;> exact .datetime _
    | _ => cases h <;> assumption
  | binned ha =>
    cases hy with
    | binned hb =>
      cases h
      refine .binned (ascending_orderedBoundaries ?_)
      intro b hb'
      exact (List.mem_append.1 hb').elim (ha.defined b) (hb.defined b)
    | _ => cases h <;> assumption
  | _ => cases hy <;> cases h <;> first | assumption | constructor

lemma common?_categorical_comm (strict : Bool) {a b : List Value} (ha : LegalLevels a) (hb : LegalLevels b) :
    Option.Rel (fun t u => t.same u = true) (common? strict (.categorical a) (.categorical b))
      (common? strict (.categorical b) (.categorical a)) := by
  rw [common?, common?]
  by_cases hab : covers a b = true
  · by_cases hba : covers b a = true
    · simp only [hab, hba, if_true]
      exact .some (by rw [VectorType.same, hab, hba]; rfl)
    · simp only [hab, hba, if_true]
      exact .some (same_refl (.categorical ha))
  · by_cases hba : covers b a = true
    · simp only [hab, hba, if_true]
      exact .some (same_refl (.categorical hb))
    · cases strict with
      | true =>
        simp only [hab, hba, if_true]
        exact .none
      | false =>
        simp only [hab, hba, Bool.false_eq_true, if_false]
        refine .some ?_
        rw [VectorType.same, covers_unionLevels_comm hb ha, covers_unionLevels_comm ha hb]
        rfl

lemma common?_datetime_comm (strict : Bool) (a b : Option Zone) :
    Option.Rel (fun t u => t.same u = true) (common? strict (.datetime a) (.datetime b))
      (common? strict (.datetime b) (.datetime a)) := by
  have hself : ∀ z, VectorType.same (.datetime z) (.datetime z) = true := by
    intro z
    exact same_refl (.datetime z)
  rw [common?, common?]
  by_cases hab : a = b
  · subst hab
    simpa using hself a
  · simp only [hab, Ne.symm hab, if_false]
    cases a with
    | none =>
      cases b with
      | none => exact absurd rfl hab
      | some z => exact .some (hself _)
    | some w =>
      cases b with
      | none => exact .some (hself _)
      | some z => exact .some (hself _)

/-- Either order of two types leads to equal common types, or to none. -/
theorem common?_comm (strict : Bool) (hx : x.IsStandard) (hy : y.IsStandard) :
    Option.Rel (fun t u => t.same u = true) (common? strict x y) (common? strict y x) := by
  have hx' := same_refl hx
  have hy' := same_refl hy
  cases hx with
  | categorical ha =>
    cases hy with
    | categorical hb => exact common?_categorical_comm strict ha hb
    | _ => first | exact .none | exact .some (by assumption)
  | datetime a =>
    cases hy with
    | datetime b => exact common?_datetime_comm strict a b
    | _ => first | exact .none | exact .some (by assumption)
  | binned ha =>
    cases hy with
    | binned hb =>
      exact .some ((binned_same_iff _ _).2 (orderedBoundaries_append_comm ha.defined hb.defined))
    | _ => first | exact .none | exact .some (by assumption)
  | _ => cases hy <;> first | exact .none | exact .some (by assumption)

end VectorType

/-! ### Commutativity -/

/-- Two attempts to unify agree if both find types that are equal, or both are refused. -/
inductive Agree : Except Failure VectorType → Except Failure VectorType → Prop where
  | found {t u : VectorType} (same : (t == u) = true) : Agree (.ok t) (.ok u)
  | refused {f g : Failure} (left : f.category = .incompatibleType) (right : g.category = .incompatibleType) :
    Agree (.error f) (.error g)

namespace Engine

/-- **Unification is commutative.** Two standard types in either order have equal common types, or are refused. -/
theorem unify_comm (strict : Bool) {x y : VectorType} (hx : x.IsStandard) (hy : y.IsStandard) :
    Agree (standard.unify strict (.type x) (.type y)) (standard.unify strict (.type y) (.type x)) := by
  have hcomm := VectorType.common?_comm strict hx hy
  change Agree (Registry.standard.unify strict x y) (Registry.standard.unify strict y x)
  rcases Registry.unify_cases strict hx hy with ⟨t, ht, hxy⟩ | ⟨hnone, d, hxy⟩
  · rcases Registry.unify_cases strict hy hx with ⟨u, hu, hyx⟩ | ⟨hnone, -⟩
    · rw [ht, hu, Option.rel_some_some] at hcomm
      rw [hxy, hyx]
      exact .found hcomm
    · rw [ht, hnone] at hcomm
      cases hcomm
  · rcases Registry.unify_cases strict hy hx with ⟨u, hu, -⟩ | ⟨-, d', hyx⟩
    · rw [hnone, hu] at hcomm
      cases hcomm
    · rw [hxy, hyx]
      exact .refused rfl rfl

/-- Two categoricals neither of which has the levels of the other. -/
theorem unify_comm_categoricals :
    Agree
      (standard.unify false (.type (.categorical [.text "a", .text "b"])) (.type (.categorical [.text "b", .int 1])))
      (standard.unify false (.type (.categorical [.text "b", .int 1])) (.type (.categorical [.text "a", .text "b"]))) :=
  unify_comm false (.categorical (by decide)) (.categorical (by decide))

end Engine

end Coercion
