import Coercion.Proofs.Unify.Common

/-!
Common types in any registry. Whatever kinds there are and whoever has entered their resolvers, the order of two types
does not matter, provided that resolvers keep to three rules: they return a type or refuse, the two that are entered
for one pair of kinds in either order agree, and fallbacks refuse. The null type gives way to every other, whatever is
entered for it, and a refusal names the two types in the order that was asked for.
-/

namespace Coercion

/-- Whether the kind of a type has a name of its own, which is not the wild card. -/
def VectorType.IsNamed (t : VectorType) : Prop :=
  ∃ s, t.tag = .name s ∧ s ≠ "*"

/-- Whether a side of a refusal is a type. -/
def Party.Is (p : Party) (t : VectorType) : Prop :=
  p = .type t ∨ p.same (.type t) = true

namespace Failure

/-- Whether a failure is a refusal to unify two types, whichever it names. -/
def IsUnifyRefusal (f : Failure) : Prop :=
  ∃ a b detail index, f = .incompatibleType a b detail index

/-- Whether a failure is a refusal to unify two types that names them in this order. -/
def Refuses (f : Failure) (x y : VectorType) : Prop :=
  ∃ a b detail index, f = .incompatibleType a b detail index ∧ a.Is x ∧ b.Is y

lemma Refuses.isUnifyRefusal {f : Failure} {x y : VectorType} (h : f.Refuses x y) : f.IsUnifyRefusal := by
  obtain ⟨a, b, detail, index, hf, -⟩ := h
  exact ⟨a, b, detail, index, hf⟩

end Failure

/-- Two attempts concur if what they find is related as is asked for, or both are refused. -/
inductive Concur {α : Type} (related : α → α → Prop) : Except Failure α → Except Failure α → Prop where
  | found {a b : α} (h : related a b) : Concur related (.ok a) (.ok b)
  | refused {f g : Failure} (left : f.IsUnifyRefusal) (right : g.IsUnifyRefusal) : Concur related (.error f) (.error g)

/-- Whether two resolvers have returned equal types. -/
def Resolution.Equals : Resolution → Resolution → Prop
  | .type t, .type u => t.Equals u
  | _, _ => False

namespace Registry

open VectorType

variable {r : Registry} {strict : Bool} {x y : VectorType}

/-- What is asked of the resolvers in a registry. -/
structure FollowsProtocol (r : Registry) : Prop where
  /-- A resolver returns a type or refuses. -/
  proper : ∀ {strict x y rule}, x.IsNamed → y.IsNamed → x ≠ .null → y ≠ .null →
    r.resolverFor? x.tag y.tag = some rule →
      (∃ t, rule.run x y strict = .ok (.type t)) ∨ ∃ f, rule.run x y strict = .error f ∧ f.IsUnifyRefusal
  /-- The resolvers for two kinds in either order agree on swapped types. -/
  commutes : ∀ {strict x y rule rule'}, x.IsNamed → y.IsNamed → x ≠ .null → y ≠ .null →
    r.resolverFor? x.tag y.tag = some rule → r.resolverFor? y.tag x.tag = some rule' →
      Concur Resolution.Equals (rule.run x y strict) (rule'.run y x strict)
  /-- The fallback of a kind refuses. -/
  fallback : ∀ {strict x y rule}, x.IsNamed → y.IsNamed → x ≠ .null → y ≠ .null →
    r.resolverFor? x.tag .any = some rule → ∃ f, rule.run x y strict = .error f ∧ f.IsUnifyRefusal

/-! ### Refusals -/

lemma unnamedClass?_of_isNamed (h : x.IsNamed) : x.unnamedClass? = none := by
  obtain ⟨s, hs, -⟩ := h
  rw [unnamedClass?, hs]

lemma incompatible_of_isNamed (hx : x.IsNamed) (hy : y.IsNamed) (detail : Option String) (index : Option Nat) :
    Failure.incompatible x y detail index = .incompatibleType (.type x) (.type y) detail index := by
  rw [Failure.incompatible, unnamedClass?_of_isNamed hx, unnamedClass?_of_isNamed hy]

/-- Whatever types a refusal names, in the end it names those that were asked for. -/
lemma refuses_refusalFor (hx : x.IsNamed) (hy : y.IsNamed) {f : Failure} (h : f.IsUnifyRefusal) :
    (refusalFor x y f).Refuses x y := by
  obtain ⟨a, b, detail, index, rfl⟩ := h
  rw [refusalFor]
  split_ifs with hsame
  · rw [Bool.and_eq_true] at hsame
    exact ⟨a, b, detail, index, rfl, .inr hsame.1, .inr hsame.2⟩
  · rw [incompatible_of_isNamed hx hy]
    exact ⟨_, _, detail, none, rfl, .inl rfl, .inl rfl⟩

/-! ### What the first rule that applies says -/

/-- What the first rule that applies to two types says. Without a rule they are refused. -/
def verdict (r : Registry) (strict : Bool) (x y : VectorType) : Except Failure Resolution :=
  match r.dispatch? x y with
  | some d => d.rule.run d.left d.right strict
  | none => .error (.incompatible x y none none)

lemma unify_eq_verdict (r : Registry) (strict : Bool) (hx : x ≠ .null) (hy : y ≠ .null) :
    r.unify strict x y = settled x y (r.verdict strict x y) := by
  rw [verdict]
  cases hd : r.dispatch? x y with
  | some d => exact unify_eq_settled hx hy hd
  | none =>
    rw [unify.eq_def]
    split
    · exact absurd rfl hx
    · exact absurd rfl hy
    · rw [hd]
      rfl

lemma verdict_of_direct {rule : Resolver} (h : r.resolverFor? x.tag y.tag = some rule) :
    r.verdict strict x y = rule.run x y strict := by
  simp [verdict, dispatch?, h]

lemma verdict_of_swapped {rule : Resolver} (hxy : r.resolverFor? x.tag y.tag = none)
    (h : r.resolverFor? y.tag x.tag = some rule) : r.verdict strict x y = rule.run y x strict := by
  simp [verdict, dispatch?, hxy, h]

/-- Types for whose kinds there is no resolver in either order are refused. -/
lemma verdict_of_none (strict : Bool) (hr : r.FollowsProtocol) (hx : x.IsNamed) (hy : y.IsNamed) (hxn : x ≠ .null)
    (hyn : y ≠ .null) (hxy : r.resolverFor? x.tag y.tag = none) (hyx : r.resolverFor? y.tag x.tag = none) :
    ∃ f, r.verdict strict x y = .error f ∧ f.IsUnifyRefusal := by
  cases hleft : r.resolverFor? x.tag .any with
  | some rule =>
    have hverdict : r.verdict strict x y = rule.run x y strict := by simp [verdict, dispatch?, hxy, hyx, hleft]
    rw [hverdict]
    exact hr.fallback hx hy hxn hyn hleft
  | none =>
    cases hright : r.resolverFor? y.tag .any with
    | some rule =>
      have hverdict : r.verdict strict x y = rule.run y x strict := by
        simp [verdict, dispatch?, hxy, hyx, hleft, hright]
      rw [hverdict]
      exact hr.fallback hy hx hyn hxn hright
    | none =>
      refine ⟨_, ?_, _, _, _, _, incompatible_of_isNamed hx hy none none⟩
      simp [verdict, dispatch?, hxy, hyx, hleft, hright]

lemma concur_self {outcome : Except Failure Resolution}
    (h : (∃ t, outcome = .ok (.type t)) ∨ ∃ f, outcome = .error f ∧ f.IsUnifyRefusal) :
    Concur Resolution.Equals outcome outcome := by
  rcases h with ⟨t, rfl⟩ | ⟨f, rfl, hf⟩
  · exact .found (Equals.refl t)
  · exact .refused hf hf

/-- Whatever resolvers are asked, and in whichever order, they concur. -/
theorem verdict_concur (hr : r.FollowsProtocol) (hx : x.IsNamed) (hy : y.IsNamed) (hxn : x ≠ .null) (hyn : y ≠ .null) :
    Concur Resolution.Equals (r.verdict strict x y) (r.verdict strict y x) := by
  cases hxy : r.resolverFor? x.tag y.tag with
  | some rule =>
    cases hyx : r.resolverFor? y.tag x.tag with
    | some rule' =>
      rw [verdict_of_direct hxy, verdict_of_direct hyx]
      exact hr.commutes hx hy hxn hyn hxy hyx
    | none =>
      -- one resolver serves both orders
      rw [verdict_of_direct hxy, verdict_of_swapped hyx hxy]
      exact concur_self (hr.proper hx hy hxn hyn hxy)
  | none =>
    cases hyx : r.resolverFor? y.tag x.tag with
    | some rule =>
      rw [verdict_of_swapped hxy hyx, verdict_of_direct hyx]
      exact concur_self (hr.proper hy hx hyn hxn hyx)
    | none =>
      obtain ⟨f, hf, hleft⟩ := verdict_of_none strict hr hx hy hxn hyn hxy hyx
      obtain ⟨g, hg, hright⟩ := verdict_of_none strict hr hy hx hyn hxn hyx hxy
      rw [hf, hg]
      exact .refused hleft hright

/-! ### Unification -/

/-- What the first rule says is a type or a refusal, and so is what comes of unification. -/
lemma settled_cases (hx : x.IsNamed) (hy : y.IsNamed) {outcome outcome' : Except Failure Resolution}
    (h : Concur Resolution.Equals outcome outcome') :
    (∃ t, outcome = .ok (.type t) ∧ settled x y outcome = .ok t) ∨
      ∃ f g, outcome = .error f ∧ settled x y outcome = .error g ∧ g.Refuses x y := by
  cases h with
  | @found a b hab =>
    cases a with
    | type t => exact .inl ⟨t, rfl, rfl⟩
    | other => exact hab.elim
  | refused hf _ => exact .inr ⟨_, _, rfl, rfl, refuses_refusalFor hx hy hf⟩

lemma concur_settled (hx : x.IsNamed) (hy : y.IsNamed) {outcome outcome' : Except Failure Resolution}
    (h : Concur Resolution.Equals outcome outcome') :
    Concur VectorType.Equals (settled x y outcome) (settled y x outcome') := by
  cases h with
  | @found a b hab =>
    cases a with
    | other => exact hab.elim
    | type t => cases b with
      | other => exact hab.elim
      | type u => exact .found hab
  | refused hf hg =>
    exact .refused (refuses_refusalFor hx hy hf).isUnifyRefusal (refuses_refusalFor hy hx hg).isUnifyRefusal

lemma unify_null_left (r : Registry) (strict : Bool) (y : VectorType) : r.unify strict .null y = .ok y := by
  rw [unify.eq_def]

lemma unify_null_right (r : Registry) (strict : Bool) (x : VectorType) : r.unify strict x .null = .ok x := by
  rw [unify.eq_def]
  cases x <;> rfl

/-- What is known about the common type of two types in a registry. -/
structure UnifiesFairly (r : Registry) (strict : Bool) (x y : VectorType) : Prop where
  /-- Either order leads to equal types, or to a refusal. -/
  commutes : Concur VectorType.Equals (r.unify strict x y) (r.unify strict y x)
  /-- The null type gives way on either side. -/
  null : r.unify strict .null x = .ok x ∧ r.unify strict x .null = .ok x
  /-- A failure is a refusal that names the types in the order that was asked for. -/
  named : ∀ f, r.unify strict x y = .error f → f.Refuses x y

/-- **The protocol makes unification commutative.** In a registry whose resolvers follow the protocol, whatever kinds
there are, the order of two types does not matter, and a refusal names them in the order that was asked for. -/
theorem FollowsProtocol.unifiesFairly (hr : r.FollowsProtocol) (strict : Bool) (hx : x.IsNamed) (hy : y.IsNamed) :
    UnifiesFairly r strict x y where
  commutes := by
    by_cases hxn : x = .null
    · rw [hxn, unify_null_left, unify_null_right]
      exact .found (Equals.refl y)
    · by_cases hyn : y = .null
      · rw [hyn, unify_null_left, unify_null_right]
        exact .found (Equals.refl x)
      · rw [unify_eq_verdict r strict hxn hyn, unify_eq_verdict r strict hyn hxn]
        exact concur_settled hx hy (verdict_concur hr hx hy hxn hyn)
  null := ⟨unify_null_left r strict x, unify_null_right r strict x⟩
  named f hf := by
    by_cases hxn : x = .null
    · rw [hxn, unify_null_left] at hf
      cases hf
    · by_cases hyn : y = .null
      · rw [hyn, unify_null_right] at hf
        cases hf
      · rw [unify_eq_verdict r strict hxn hyn] at hf
        rcases settled_cases hx hy (verdict_concur hr hx hy hxn hyn) with ⟨t, -, ht⟩ | ⟨_, g, -, hg, hrefuses⟩
        · rw [ht] at hf
          cases hf
        · rw [hg] at hf
          cases hf
          exact hrefuses

/-! ### A registry of three kinds -/

/-- A type of a kind of one's own, without a payload. -/
def plainType (kind : String) : VectorType :=
  .custom ⟨kind, .name kind, .object, .absent⟩ []

/-- Two resolvers that agree, one for the kinds in one order and one for the other; a third that names neither of its
types when it refuses; and a fallback. -/
def mixedRegistry : Registry :=
  ⟨[((.name "a", .name "c"), .ofTypes "left" fun x _ _ => .ok x),
    ((.name "c", .name "a"), .ofTypes "right" fun _ y _ => .ok y),
    ((.name "b", .name "a"), .ofTypes "other" fun _ _ _ =>
      .error (.incompatibleType (.word "foo") (.word "bar") none none)),
    ((.name "a", .any), .noCommonType)], [], false, []⟩

lemma mem_of_ruleFor? {α : Type} {rules : List (TagPair × α)} {pair : TagPair} {rule : α}
    (h : ruleFor? rules pair = some rule) : (pair, rule) ∈ rules := by
  rw [ruleFor?, Option.map_eq_some_iff] at h
  obtain ⟨⟨key, found⟩, hfound, rfl⟩ := h
  have hkey := List.find?_some hfound
  have hmem := List.mem_of_find?_eq_some hfound
  rwa [show key = pair from beq_iff_eq.1 hkey] at hmem

lemma followsProtocol_mixedRegistry : mixedRegistry.FollowsProtocol where
  proper {strict x y rule} hx hy _ _ h := by
    have hmem := mem_of_ruleFor? h
    simp only [mixedRegistry, List.mem_cons, Prod.mk.injEq, List.not_mem_nil, or_false] at hmem
    rcases hmem with ⟨-, rfl⟩ | ⟨-, rfl⟩ | ⟨-, rfl⟩ | ⟨-, rfl⟩
    · exact .inl ⟨x, rfl⟩
    · exact .inl ⟨y, rfl⟩
    · exact .inr ⟨_, rfl, _, _, _, _, rfl⟩
    · exact .inr ⟨_, rfl, _, _, _, _, incompatible_of_isNamed hx hy none none⟩
  commutes {strict x y rule rule'} hx hy _ _ h h' := by
    have hmem := mem_of_ruleFor? h
    have hmem' := mem_of_ruleFor? h'
    obtain ⟨s, hs, hstar⟩ := hx
    obtain ⟨s', hs', hstar'⟩ := hy
    simp only [mixedRegistry, Tag.any, hs, hs', List.mem_cons, Prod.mk.injEq, Tag.name.injEq, List.not_mem_nil,
      or_false, hstar, hstar', and_false, false_and] at hmem hmem'
    -- the first two entries are for the same kinds in either order, and no other two are
    rcases hmem with ⟨⟨rfl, rfl⟩, rfl⟩ | ⟨⟨rfl, rfl⟩, rfl⟩ | ⟨⟨rfl, rfl⟩, rfl⟩ <;>
      simp only [String.reduceEq, and_self, and_true, and_false, false_and, true_and, or_false, false_or] at hmem'
    · subst hmem'
      exact .found (Equals.refl x)
    · subst hmem'
      exact .found (Equals.refl y)
  fallback {strict x y rule} hx hy _ _ h := by
    have hmem := mem_of_ruleFor? h
    simp only [mixedRegistry, Tag.any, List.mem_cons, Prod.mk.injEq, Tag.name.injEq, String.reduceEq, and_false,
      false_and, false_or, and_true, List.not_mem_nil, or_false] at hmem
    obtain ⟨-, rfl⟩ := hmem
    exact ⟨_, rfl, _, _, _, _, incompatible_of_isNamed hx hy none none⟩

lemma isNamed_plainType {kind : String} (h : kind ≠ "*") : (plainType kind).IsNamed :=
  ⟨kind, rfl, h⟩

/-- A resolver that is called with swapped types and names neither of them: the refusal names both, as asked for. -/
theorem unifiesFairly_mixedRegistry :
    UnifiesFairly mixedRegistry true (plainType "a") (plainType "b") ∧
      mixedRegistry.unify true (plainType "a") (plainType "b") =
        .error (.incompatibleType (.type (plainType "a")) (.type (plainType "b")) none none) :=
  ⟨followsProtocol_mixedRegistry.unifiesFairly true (isNamed_plainType (by decide)) (isNamed_plainType (by decide)), rfl⟩

end Registry

end Coercion
