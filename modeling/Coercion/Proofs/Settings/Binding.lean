import Coercion.Proofs.Settings.Managed

/-!
Binding calls, and the calls that bound arguments stand for. An argument that is added by name is bound beside what
has been bound before. A function gets from a call that has been put together from bound arguments what the arguments
are.
-/

namespace Coercion

/-- Whether a parameter may stand before another one. -/
def ParameterKind.mayPrecede : ParameterKind → ParameterKind → Bool
  | .positionalOnly, _ => true
  | .positional, kind => kind ≠ .positionalOnly
  | .rest, kind | .keyword, kind => kind = .keyword ∨ kind = .named
  | .named, _ => false

namespace Parameter

/-- Whether a parameter takes one argument that may be given by name. -/
def isNamed (p : Parameter) : Bool :=
  p.kind = .positional ∨ p.kind = .keyword

/-- Whether two parameters have the same name and are given in the same way. -/
def Alike (p q : Parameter) : Prop :=
  p.name = q.name ∧ p.kind = q.kind

variable {p q : Parameter}

lemma Alike.takesOne (h : p.Alike q) : p.takesOne = q.takesOne := by
  rw [Parameter.takesOne, Parameter.takesOne, h.2]

lemma Alike.isNamed (h : p.Alike q) : p.isNamed = q.isNamed := by
  rw [Parameter.isNamed, Parameter.isNamed, h.2]

lemma takesOne_of_isPositional (hp : p.isPositional = true) : p.takesOne = true := by
  cases hkind : p.kind <;> simp [isPositional, takesOne, hkind] at hp ⊢

lemma takesOne_of_isNamed (hp : p.isNamed = true) : p.takesOne = true := by
  cases hkind : p.kind <;> simp [isNamed, takesOne, hkind] at hp ⊢

end Parameter

namespace Signature

variable {s t : Signature} {ps left : List Parameter} {keys : List String} {xs : List Input} {b bound other : Arguments}
  {named given : List (String × Input)} {c : Call}

/-- Whether the parameters are listed in the order in which functions have them. -/
def Ordered (s : Signature) : Prop :=
  s.shape.Pairwise fun p q => p.2.mayPrecede q.2 = true

lemma ordered_of_shape (hs : s.Ordered) (h : t.shape = s.shape) : t.Ordered := by
  rw [Ordered, h]
  exact hs

lemma alike_of_shape (h : t.shape = s.shape) : List.Forall₂ Parameter.Alike t.parameters s.parameters := by
  rw [shape, shape, ← List.forall₂_eq_eq_eq, List.forall₂_map_left_iff, List.forall₂_map_right_iff] at h
  exact h.imp fun _ _ heq => Prod.mk.inj heq

/-! ### What is bound -/

lemma bindPositional_rest {p : Parameter} {x : Input} (hp : p.kind = .rest) :
    bindPositional keys (p :: ps) (x :: xs) = .ok ([(p.name, .rest (x :: xs))], ps) := by
  rw [bindPositional, hp]

lemma bindPositional_one {p : Parameter} {x : Input} (hp : p.isPositional = true)
    (hfree : ¬ (p.kind = .positional ∧ p.name ∈ keys)) (h : bindPositional keys ps xs = .ok (b, left)) :
    bindPositional keys (p :: ps) (x :: xs) = .ok ((p.name, .single x) :: b, left) := by
  have hfree' : ¬ (p.kind = .positional ∧ keys.contains p.name = true) := by rwa [List.contains_iff_mem]
  rw [bindPositional]
  cases hkind : p.kind with
  | positionalOnly | positional =>
    rw [hkind] at hfree'
    dsimp only
    rw [if_neg hfree', h]
    rfl
  | rest | keyword | named => simp [Parameter.isPositional, hkind] at hp

/-- The first argument by position is that of the first parameter, or one of the rest. -/
lemma bindPositional_cases {p : Parameter} {x : Input} (h : bindPositional keys (p :: ps) (x :: xs) = .ok (b, left)) :
    (p.kind = .rest ∧ b = [(p.name, .rest (x :: xs))] ∧ left = ps) ∨
      (p.isPositional = true ∧ ¬ (p.kind = .positional ∧ p.name ∈ keys) ∧
        ∃ later, bindPositional keys ps xs = .ok (later, left) ∧ b = (p.name, .single x) :: later) := by
  rw [bindPositional] at h
  cases hkind : p.kind with
  | keyword | named =>
    rw [hkind] at h
    cases h
  | rest =>
    rw [hkind] at h
    cases h
    exact .inl ⟨rfl, rfl, rfl⟩
  | positionalOnly | positional =>
    simp only [hkind] at h
    split at h
    · cases h
    next hfree =>
      obtain ⟨later, hlater, hb⟩ := bind_eq_ok_iff.1 h
      cases hb
      exact .inr ⟨by simp [Parameter.isPositional, hkind], by simp_all, later.1, hlater, rfl⟩

/-- The parameters that are bound by position are the first ones. -/
lemma of_bindPositional (h : bindPositional keys ps xs = .ok (b, left)) :
    ∃ taken, ps = taken ++ left ∧ b.map Prod.fst = taken.map Parameter.name := by
  induction ps generalizing xs b left with
  | nil =>
    cases xs with
    | nil => cases h; exact ⟨[], rfl, rfl⟩
    | cons x xs => cases h
  | cons p ps ih =>
    cases xs with
    | nil => cases h; exact ⟨[], rfl, rfl⟩
    | cons x xs =>
      obtain ⟨-, rfl, rfl⟩ | ⟨-, -, later, hlater, rfl⟩ := bindPositional_cases h
      · exact ⟨[p], rfl, rfl⟩
      · obtain ⟨taken, rfl, hkeys⟩ := ih hlater
        exact ⟨p :: taken, rfl, congrArg (p.name :: ·) hkeys⟩

/-- What is bound by position does not depend on names of other parameters. -/
lemma bindPositional_append {further : List String} (hfurther : ∀ n ∈ further, b.get? n = none)
    (h : bindPositional keys ps xs = .ok (b, left)) : bindPositional (keys ++ further) ps xs = .ok (b, left) := by
  induction ps generalizing xs b left with
  | nil => cases xs <;> exact h
  | cons p ps ih =>
    cases xs with
    | nil => exact h
    | cons x xs =>
      obtain ⟨hkind, rfl, rfl⟩ | ⟨hkind, hfree, later, hlater, rfl⟩ := bindPositional_cases h
      · exact bindPositional_rest hkind
      · have hne : p.name ∉ further := by
          intro hmem
          simpa [Arguments.get?_cons] using hfurther p.name hmem
        refine bindPositional_one hkind ?_ (ih ?_ hlater)
        · intro hnamed
          rw [List.mem_append, or_iff_left hne] at hnamed
          exact hfree hnamed
        · intro n hn
          have hother : n ≠ p.name := by
            intro heq
            exact hne (heq ▸ hn)
          simpa [Arguments.get?_cons, hother] using hfurther n hn

/-- What is bound by name. -/
def bindOnes (ps : List Parameter) (named : List (String × Input)) : Arguments :=
  (ps.filter Parameter.takesOne).filterMap fun p => (named.lookup p.name).map fun x => (p.name, Argument.single x)

/-- The arguments by name that belong to no parameter. -/
def leftOver (ps : List Parameter) (named : List (String × Input)) : List (String × Input) :=
  named.filter fun x => !(ps.filter Parameter.takesOne).any fun p => p.name == x.1

/-- The parameter for the rest of the arguments by name, if there is a rest. -/
def bindRest (ps : List Parameter) (further : List (String × Input)) : Except Failure Arguments :=
  if further.isEmpty then .ok []
  else
    match ps.find? fun p => p.kind = .named with
    | some p => .ok [(p.name, .named further)]
    | none => .error (.refused .typeError)

lemma bindNamed_eq (ps : List Parameter) (named : List (String × Input)) :
    bindNamed ps named =
      if (ps.filter Parameter.takesOne).any fun p => p.kind = .positionalOnly ∧ (named.lookup p.name).isSome then
        .error (.refused .typeError)
      else (bindRest ps (leftOver ps named)).map (bindOnes ps named ++ ·) := by
  rw [bindNamed, bindRest, leftOver, bindOnes]
  dsimp only
  split_ifs
  · rfl
  · rfl
  · exact congrArg Except.ok (List.append_nil _).symm
  · cases ps.find? fun p => p.kind = .named <;> rfl

/-- Arguments are bound by name if no other way of giving them is asked for, and if there is a place for the rest. -/
lemma bindNamed_eq_ok_iff :
    bindNamed ps named = .ok b ↔
      (∀ p ∈ ps, p.kind = .positionalOnly → named.lookup p.name = none) ∧
        ∃ rest, bindRest ps (leftOver ps named) = .ok rest ∧ b = bindOnes ps named ++ rest := by
  have hasked :
      ((ps.filter Parameter.takesOne).any fun p => p.kind = .positionalOnly ∧ (named.lookup p.name).isSome) = true ↔
      ¬ ∀ p ∈ ps, p.kind = .positionalOnly → named.lookup p.name = none := by
    simp only [List.any_eq_true, List.mem_filter, decide_eq_true_eq, not_forall, Option.isSome_iff_ne_none]
    constructor
    · rintro ⟨p, ⟨hp, -⟩, hkind, hsome⟩
      exact ⟨p, hp, hkind, hsome⟩
    · rintro ⟨p, hp, hkind, hsome⟩
      exact ⟨p, ⟨hp, by simp [Parameter.takesOne, hkind]⟩, hkind, hsome⟩
  rw [bindNamed_eq]
  by_cases hany : ∀ p ∈ ps, p.kind = .positionalOnly → named.lookup p.name = none
  · rw [if_neg (mt hasked.1 (not_not_intro hany))]
    cases hrest : bindRest ps (leftOver ps named) with
    | error e => simp [Except.map]
    | ok rest =>
      simp only [Except.map, Except.ok.injEq, exists_eq_left', and_iff_right hany]
      exact eq_comm
  · rw [if_pos (hasked.2 hany)]
    exact ⟨fun h => (by cases h), fun h => absurd h.1 hany⟩

/-- An argument is bound by name to the parameter with its name. -/
lemma get?_bindOnes (ps : List Parameter) (named : List (String × Input)) (n : String) :
    (bindOnes ps named).get? n =
      if n ∈ (ps.filter Parameter.takesOne).map Parameter.name then (named.lookup n).map Argument.single else none := by
  rw [bindOnes]
  induction ps.filter Parameter.takesOne with
  | nil => rfl
  | cons p takers ih =>
    rw [List.filterMap_cons, List.map_cons]
    by_cases hn : n = p.name
    · subst hn
      cases hx : named.lookup p.name with
      | some x => simp [Arguments.get?_cons]
      | none => simp [ih, hx]
    · have hmem : n ∈ p.name :: takers.map Parameter.name ↔ n ∈ takers.map Parameter.name := by simp [hn]
      simp only [hmem, ← ih]
      cases named.lookup p.name with
      | some x => simp [Arguments.get?_cons, hn]
      | none => rfl

/-- What parameters take is not left over. -/
lemma leftOver_append (h : ∀ x ∈ given, x.1 ∈ (ps.filter Parameter.takesOne).map Parameter.name) :
    leftOver ps (named ++ given) = leftOver ps named := by
  have hnone : leftOver ps given = [] := by
    refine List.filter_eq_nil_iff.2 ?_
    intro x hx
    obtain ⟨p, hp, hname⟩ := List.mem_map.1 (h x hx)
    simp only [Bool.not_eq_true', Bool.not_eq_false, List.any_eq_true]
    exact ⟨p, hp, beq_iff_eq.2 hname⟩
  rw [leftOver, List.filter_append, ← leftOver, ← leftOver, hnone, List.append_nil]

/-- Arguments for parameters that are still free can be added by name. -/
lemma bindNamed_append (hnames : (ps.map Parameter.name).Nodup) (h : bindNamed ps named = .ok b)
    (hgiven : ∀ x ∈ given, ∃ p ∈ ps, p.name = x.1 ∧ p.isNamed = true) (hfree : ∀ x ∈ given, b.get? x.1 = none) :
    ∃ all, bindNamed ps (named ++ given) = .ok all ∧
      ∀ n, all.get? n = (b.get? n).or ((given.lookup n).map Argument.single) := by
  obtain ⟨hasked, rest, hrest, rfl⟩ := bindNamed_eq_ok_iff.1 h
  have htaker : ∀ x ∈ given, x.1 ∈ (ps.filter Parameter.takesOne).map Parameter.name := by
    intro x hx
    obtain ⟨p, hp, hname, hkind⟩ := hgiven x hx
    rw [← hname]
    exact List.mem_map_of_mem (List.mem_filter.2 ⟨hp, Parameter.takesOne_of_isNamed hkind⟩)
  have hleft : leftOver ps (named ++ given) = leftOver ps named := leftOver_append htaker
  refine ⟨bindOnes ps (named ++ given) ++ rest, bindNamed_eq_ok_iff.2 ⟨?_, rest, hleft ▸ hrest, rfl⟩, ?_⟩
  · intro p hp hkind
    rw [List.lookup_append, hasked p hp hkind, Option.none_or, List.lookup_eq_none_iff]
    intro x hx
    obtain ⟨q, hq, hname, hnamed⟩ := hgiven x hx
    rw [bne_iff_ne, ← hname]
    intro heq
    rw [← List.inj_on_of_nodup_map hnames hp hq heq] at hnamed
    simp [Parameter.isNamed, hkind] at hnamed
  · intro n
    cases hx : given.lookup n with
    | none =>
      rw [Arguments.get?_append, Arguments.get?_append, get?_bindOnes, get?_bindOnes, List.lookup_append, hx,
        Option.or_none, Option.map_none, Option.or_none]
    | some x =>
      obtain ⟨y, hy, heq⟩ := List.lookup_isSome_iff.1 (hx ▸ rfl : (given.lookup n).isSome = true)
      rw [beq_iff_eq] at heq
      have hmem := htaker y hy
      have hnone := hfree y hy
      rw [← heq] at hmem hnone
      rw [hnone]
      rw [Arguments.get?_append, Option.or_eq_none_iff, get?_bindOnes, if_pos hmem, Option.map_eq_none_iff] at hnone
      rw [Arguments.get?_append, get?_bindOnes, if_pos hmem, List.lookup_append, hnone.1, hx]
      rfl

/-- A call is bound by position first, and then by name. -/
lemma bind_iff :
    s.bind c = .ok b ↔
      ∃ first left second, bindPositional (c.named.map Prod.fst) s.parameters c.positional = .ok (first, left) ∧
        bindNamed left c.named = .ok second ∧ b = first ++ second := by
  constructor
  · intro h
    obtain ⟨⟨first, left⟩, hfirst, hrest⟩ := bind_eq_ok_iff.1 h
    obtain ⟨second, hsecond, hb⟩ := bind_eq_ok_iff.1 hrest
    cases hb
    exact ⟨first, left, second, hfirst, hsecond, rfl⟩
  · rintro ⟨first, left, second, hfirst, hsecond, rfl⟩
    exact bind_eq_ok_iff.2 ⟨(first, left), hfirst, bind_eq_ok_iff.2 ⟨second, hsecond, rfl⟩⟩

/-- Arguments for parameters that are not bound can be added to a call by name. -/
lemma bind_append (hs : s.names.Nodup) (h : s.bind c = .ok b)
    (hgiven : ∀ x ∈ given, ∃ p ∈ s.parameters, p.name = x.1 ∧ p.isNamed = true)
    (hfree : ∀ x ∈ given, b.get? x.1 = none) :
    ∃ all, s.bind ⟨c.positional, c.named ++ given⟩ = .ok all ∧
      ∀ n, all.get? n = (b.get? n).or ((given.lookup n).map Argument.single) := by
  obtain ⟨first, left, second, hfirst, hsecond, rfl⟩ := bind_iff.1 h
  obtain ⟨taken, hparts, hkeys⟩ := of_bindPositional hfirst
  have hapart : ∀ x ∈ given, Arguments.get? first x.1 = none ∧ Arguments.get? second x.1 = none := by
    intro x hx
    have hnone := (Arguments.get?_append first second x.1).symm.trans (hfree x hx)
    exact Option.or_eq_none_iff.1 hnone
  have hpositional : bindPositional ((c.named ++ given).map Prod.fst) s.parameters c.positional = .ok (first, left) := by
    rw [List.map_append]
    refine bindPositional_append ?_ hfirst
    intro n hn
    obtain ⟨x, hx, rfl⟩ := List.mem_map.1 hn
    exact (hapart x hx).1
  have hleft : ∀ x ∈ given, ∃ p ∈ left, p.name = x.1 ∧ p.isNamed = true := by
    intro x hx
    obtain ⟨p, hp, hname, hkind⟩ := hgiven x hx
    rw [hparts, List.mem_append] at hp
    refine ⟨p, hp.resolve_left ?_, hname, hkind⟩
    intro hmem
    have hkey : x.1 ∈ first.map Prod.fst := by
      rw [hkeys, ← hname]
      exact List.mem_map_of_mem hmem
    exact Arguments.get?_eq_none_iff.1 (hapart x hx).1 hkey
  rw [names, hparts, List.map_append] at hs
  obtain ⟨all, hall, hget⟩ :=
    bindNamed_append (List.nodup_append.1 hs).2.1 hsecond hleft fun x hx => (hapart x hx).2
  refine ⟨first ++ all, bind_iff.2 ⟨first, left, all, hpositional, hall, rfl⟩, ?_⟩
  intro n
  rw [Arguments.get?_append, hget, Arguments.get?_append, Option.or_assoc]

/-! ### What the parameters hold -/

lemma keys_bindOnes (ps : List Parameter) (named : List (String × Input)) :
    ((bindOnes ps named).map Prod.fst).Sublist ((ps.filter Parameter.takesOne).map Parameter.name) := by
  rw [bindOnes]
  induction ps.filter Parameter.takesOne with
  | nil => exact .slnil
  | cons p takers ih =>
    rw [List.filterMap_cons]
    cases named.lookup p.name with
    | none => exact ih.cons _
    | some x => exact ih.cons_cons _

lemma bindRest_cases {further : List (String × Input)} {rest : Arguments} (h : bindRest ps further = .ok rest) :
    (further = [] ∧ rest = []) ∨ ∃ p ∈ ps, p.kind = .named ∧ rest = [(p.name, .named further)] := by
  rw [bindRest] at h
  split at h
  next hempty =>
    cases h
    exact .inl ⟨List.isEmpty_iff.1 hempty, rfl⟩
  next =>
    split at h
    next p hfound =>
      cases h
      exact .inr ⟨p, List.mem_of_find?_eq_some hfound, by simpa using List.find?_some hfound, rfl⟩
    next => cases h

/-- Nothing comes after the parameter that takes the rest of what is given by name. -/
lemma eq_nil_of_named {p : Parameter} (hp : p.kind = .named) (ho : ∀ q ∈ ps, p.kind.mayPrecede q.kind = true) :
    ps = [] := by
  refine List.eq_nil_iff_forall_not_mem.2 ?_
  intro q hq
  have hnone := ho q hq
  rw [hp] at hnone
  cases hnone

/-- The bound arguments are in the order of the parameters. -/
lemma keys_bind (hs : s.Ordered) (h : s.bind c = .ok b) : (b.map Prod.fst).Sublist s.names := by
  obtain ⟨first, left, second, hfirst, hsecond, rfl⟩ := bind_iff.1 h
  obtain ⟨taken, hparts, hkeys⟩ := of_bindPositional hfirst
  obtain ⟨-, rest, hrest, rfl⟩ := bindNamed_eq_ok_iff.1 hsecond
  rw [Ordered, shape, List.pairwise_map, hparts] at hs
  rw [List.map_append, names, hparts, List.map_append, hkeys, List.map_append]
  refine List.Sublist.append_left ?_ _
  obtain ⟨-, rfl⟩ | ⟨p, hp, hkind, rfl⟩ := bindRest_cases hrest
  · rw [List.map_nil, List.append_nil]
    exact (keys_bindOnes left c.named).trans (List.filter_sublist.map _)
  · obtain ⟨before, after, rfl⟩ := List.append_of_mem hp
    have hafter := (List.pairwise_append.1 (List.pairwise_append.1 hs).2.1).2.1
    obtain rfl := eq_nil_of_named hkind (List.pairwise_cons.1 hafter).1
    have hones := keys_bindOnes (before ++ [p]) c.named
    have htakers : (before ++ [p]).filter Parameter.takesOne = before.filter Parameter.takesOne := by
      simp [Parameter.takesOne, hkind]
    rw [htakers] at hones
    rw [List.map_append]
    have hbefore := hones.trans (List.filter_sublist.map _)
    exact hbefore.append (List.Sublist.refl _)

/-- What a parameter holds in bound arguments: a single argument, a sequence of arguments by position, or arguments by
name that could not have been given to any other parameter. -/
structure Holds (s : Signature) (p : Parameter) (a : Argument) : Prop where
  single : p.takesOne = true → ∃ x, a = .single x
  rest : p.kind = .rest → ∃ xs, a = .rest xs
  named : p.kind = .named → ∃ further, a = .named further ∧ (further.map Prod.fst).Nodup ∧
    ∀ q ∈ s.parameters, q.isNamed = true → q.name ∉ further.map Prod.fst

lemma holds_single {p : Parameter} (hp : p.takesOne = true) (x : Input) : s.Holds p (.single x) := by
  refine ⟨fun _ => ⟨x, rfl⟩, ?_, ?_⟩ <;> intro hkind <;> simp [Parameter.takesOne, hkind] at hp

/-- What is bound by position is a single argument that has not been named, or the rest. -/
lemma of_mem_bindPositional (h : bindPositional keys ps xs = .ok (b, left)) {x : String × Argument} (hx : x ∈ b) :
    ∃ p ∈ ps, p.name = x.1 ∧ ((p.isPositional = true ∧ ¬ (p.kind = .positional ∧ p.name ∈ keys) ∧ ∃ y, x.2 = .single y) ∨
      (p.kind = .rest ∧ ∃ ys, x.2 = .rest ys)) := by
  induction ps generalizing xs b left with
  | nil =>
    cases xs with
    | nil => cases h; cases hx
    | cons y xs => cases h
  | cons p ps ih =>
    cases xs with
    | nil => cases h; cases hx
    | cons y xs =>
      obtain ⟨hkind, rfl, rfl⟩ | ⟨hkind, hfree, later, hlater, rfl⟩ := bindPositional_cases h
      · obtain rfl := List.mem_singleton.1 hx
        exact ⟨p, List.mem_cons_self, rfl, .inr ⟨hkind, _, rfl⟩⟩
      · obtain rfl | hx := List.mem_cons.1 hx
        · exact ⟨p, List.mem_cons_self, rfl, .inl ⟨hkind, hfree, y, rfl⟩⟩
        · obtain ⟨q, hq, hrest⟩ := ih hlater hx
          exact ⟨q, List.mem_cons_of_mem _ hq, hrest⟩

/-- What belongs to no other parameter has not the name of one that is bound, or could be. -/
lemma not_mem_leftOver {taken : List Parameter} (hs : ((taken ++ left).map Parameter.name).Nodup)
    (h : bindPositional (named.map Prod.fst) (taken ++ left) xs = .ok (b, left))
    (hkeys : b.map Prod.fst = taken.map Parameter.name) {p : Parameter} (hp : p ∈ taken ++ left)
    (hnamed : p.isNamed = true) :
    p.name ∉ (leftOver left named).map Prod.fst := by
  intro hmem
  obtain ⟨x, hx, hname⟩ := List.mem_map.1 hmem
  obtain ⟨hx, hfree⟩ := List.mem_filter.1 hx
  obtain htaken | hleft := List.mem_append.1 hp
  · obtain ⟨y, hy, hyname⟩ := List.mem_map.1 (hkeys.symm ▸ List.mem_map_of_mem htaken : p.name ∈ b.map Prod.fst)
    obtain ⟨q, hq, hqname, hcases⟩ := of_mem_bindPositional h hy
    obtain rfl := List.inj_on_of_nodup_map hs hq hp (hqname.trans hyname)
    obtain ⟨hpositional, hnot, -⟩ | ⟨hkind, -⟩ := hcases
    · refine hnot ⟨?_, hname ▸ List.mem_map_of_mem hx⟩
      cases hkind : q.kind <;> simp [Parameter.isPositional, Parameter.isNamed, hkind] at hpositional hnamed ⊢
    · simp [Parameter.isNamed, hkind] at hnamed
  · have htaker : p ∈ left.filter Parameter.takesOne := List.mem_filter.2 ⟨hleft, Parameter.takesOne_of_isNamed hnamed⟩
    rw [Bool.not_eq_true', List.any_eq_false] at hfree
    exact hfree p htaker (beq_iff_eq.2 hname.symm)

/-- Bound arguments are what the parameters can hold. -/
lemma holds_of_bind (hs : s.names.Nodup) (hc : (c.named.map Prod.fst).Nodup) (h : s.bind c = .ok b) {p : Parameter}
    {a : Argument} (hp : p ∈ s.parameters) (ha : b.get? p.name = some a) : s.Holds p a := by
  obtain ⟨first, left, second, hfirst, hsecond, rfl⟩ := bind_iff.1 h
  obtain ⟨taken, hparts, hkeys⟩ := of_bindPositional hfirst
  obtain ⟨-, rest, hrest, rfl⟩ := bindNamed_eq_ok_iff.1 hsecond
  have hinj : ∀ q ∈ s.parameters, q.name = p.name → q = p := by
    intro q hq
    exact List.inj_on_of_nodup_map hs hq hp
  obtain hmem | hmem := List.mem_append.1 (mem_of_lookup ha)
  · obtain ⟨q, hq, hname, hcases⟩ := of_mem_bindPositional hfirst hmem
    obtain rfl := hinj q hq hname
    obtain ⟨hkind, -, x, rfl⟩ | ⟨hkind, ys, rfl⟩ := hcases
    · exact holds_single (Parameter.takesOne_of_isPositional hkind) x
    · exact ⟨fun htakes => by simp [Parameter.takesOne, hkind] at htakes, fun _ => ⟨ys, rfl⟩, fun hnamed => by
        simp [hkind] at hnamed⟩
  · obtain hmem | hmem := List.mem_append.1 hmem
    · obtain ⟨q, hq, hentry⟩ := List.mem_filterMap.1 hmem
      obtain ⟨x, -, heq⟩ := Option.map_eq_some_iff.1 hentry
      obtain ⟨hname, rfl⟩ := Prod.mk.inj heq
      obtain ⟨hq, htakes⟩ := List.mem_filter.1 hq
      obtain rfl := hinj q (hparts ▸ List.mem_append_right _ hq) hname
      exact holds_single htakes x
    · obtain ⟨-, rfl⟩ | ⟨q, hq, hkind, rfl⟩ := bindRest_cases hrest
      · cases hmem
      · obtain ⟨hname, rfl⟩ := Prod.mk.inj (List.mem_singleton.1 hmem)
        obtain rfl := hinj q (hparts ▸ List.mem_append_right _ hq) hname.symm
        refine ⟨fun htakes => by simp [Parameter.takesOne, hkind] at htakes, fun hrest => by simp [hkind] at hrest,
          fun _ => ⟨_, rfl, ?_, ?_⟩⟩
        · exact hc.sublist (List.filter_sublist.map _)
        · intro r hr hnamed
          rw [names, hparts] at hs
          rw [hparts] at hfirst hr
          exact not_mem_leftOver hs hfirst hkeys hr hnamed

/-! ### What a binding depends on -/

section Alike

variable {qs : List Parameter} (halike : List.Forall₂ Parameter.Alike ps qs)

include halike

lemma bindPositional_alike (h : bindPositional keys ps xs = .ok (b, left)) :
    ∃ left', bindPositional keys qs xs = .ok (b, left') ∧ List.Forall₂ Parameter.Alike left left' := by
  induction halike generalizing xs b left with
  | nil =>
    cases xs with
    | nil => cases h; exact ⟨[], rfl, .nil⟩
    | cons x xs => cases h
  | cons hp hrest ih =>
    cases xs with
    | nil => cases h; exact ⟨_, rfl, hrest.cons hp⟩
    | cons x xs =>
      obtain ⟨hkind, rfl, rfl⟩ | ⟨hkind, hfree, later, hlater, rfl⟩ := bindPositional_cases h
      · rw [hp.2] at hkind
        exact ⟨_, hp.1 ▸ bindPositional_rest hkind, hrest⟩
      · obtain ⟨left', hleft', halike⟩ := ih hlater
        rw [hp.1, hp.2] at hfree
        rw [Parameter.isPositional, hp.2, ← Parameter.isPositional] at hkind
        exact ⟨left', hp.1 ▸ bindPositional_one hkind hfree hleft', halike⟩

lemma takers_alike : List.Forall₂ Parameter.Alike (ps.filter Parameter.takesOne) (qs.filter Parameter.takesOne) := by
  induction halike with
  | nil => exact .nil
  | cons hp _ ih =>
    rw [List.filter_cons, List.filter_cons, hp.takesOne]
    split
    · exact .cons hp ih
    · exact ih

lemma bindOnes_alike : bindOnes ps named = bindOnes qs named := by
  have htakers := takers_alike halike
  rw [bindOnes, bindOnes]
  generalize ps.filter Parameter.takesOne = takers, qs.filter Parameter.takesOne = takers' at htakers ⊢
  induction htakers with
  | nil => rfl
  | cons hp _ ih => rw [List.filterMap_cons, List.filterMap_cons, hp.1, ih]

lemma leftOver_alike : leftOver ps named = leftOver qs named := by
  have hany : ∀ n, ((ps.filter Parameter.takesOne).any fun p => p.name == n) =
      (qs.filter Parameter.takesOne).any fun p => p.name == n := by
    intro n
    have htakers := takers_alike halike
    generalize ps.filter Parameter.takesOne = takers, qs.filter Parameter.takesOne = takers' at htakers ⊢
    induction htakers with
    | nil => rfl
    | cons hp _ ih => rw [List.any_cons, List.any_cons, hp.1, ih]
  rw [leftOver, leftOver]
  congr 1
  funext x
  rw [hany]

lemma find?_alike {test : Parameter → Bool} (htest : ∀ p q, p.Alike q → test p = test q) :
    (ps.find? test = none ∧ qs.find? test = none) ∨
      ∃ p q, ps.find? test = some p ∧ qs.find? test = some q ∧ p.Alike q := by
  induction halike with
  | nil => exact .inl ⟨rfl, rfl⟩
  | @cons p q ps qs hp _ ih =>
    rw [List.find?_cons, List.find?_cons, htest p q hp]
    cases test q with
    | true => exact .inr ⟨p, q, rfl, rfl, hp⟩
    | false => exact ih

lemma bindRest_alike {further : List (String × Input)} : bindRest ps further = bindRest qs further := by
  rw [bindRest, bindRest]
  obtain ⟨hp, hq⟩ | ⟨p, q, hp, hq, h⟩ := find?_alike halike fun p q h => congrArg (fun kind => decide (kind = .named)) h.2
  · rw [hp, hq]
  · simp only [hp, hq, h.1]

lemma bindNamed_alike (h : bindNamed ps named = .ok b) : bindNamed qs named = .ok b := by
  obtain ⟨hasked, rest, hrest, rfl⟩ := bindNamed_eq_ok_iff.1 h
  refine bindNamed_eq_ok_iff.2 ⟨?_, rest, ?_, by rw [bindOnes_alike halike]⟩
  · intro q hq hkind
    obtain ⟨p, hp, hpq⟩ := exists_mem_of_forall₂ halike hq
    rw [← hpq.1]
    exact hasked p hp (hpq.2.trans hkind)
  · rw [← leftOver_alike halike, ← bindRest_alike halike, hrest]

end Alike

/-- A binding depends on the names of the parameters, and on how they are given. -/
lemma bind_of_shape (hshape : s.shape = t.shape) (h : s.bind c = .ok b) : t.bind c = .ok b := by
  obtain ⟨first, left, second, hfirst, hsecond, rfl⟩ := bind_iff.1 h
  obtain ⟨left', hfirst', halike⟩ := bindPositional_alike (alike_of_shape hshape) hfirst
  exact bind_iff.2 ⟨first, left', second, hfirst', bindNamed_alike halike hsecond, rfl⟩

/-! ### Filled-up arguments -/

/-- What a parameter that takes the rest holds where there is none. -/
def emptyRestOf (p : Parameter) : Option Argument :=
  match p.kind with
  | .rest => some (.rest [])
  | .named => some (.named [])
  | _ => none

/-- What the parameter with a name holds where there is no rest for it. -/
def emptyRest? (s : Signature) (n : String) : Option Argument :=
  (s.find? n).bind emptyRestOf

lemma exists_emptyRest {p : Parameter} (hp : p.takesOne = false) : ∃ a, emptyRestOf p = some a ∧ s.Holds p a := by
  have hone : p.takesOne ≠ true := by simp [hp]
  cases hkind : p.kind with
  | positionalOnly | positional | keyword => simp [Parameter.takesOne, hkind] at hp
  | rest => exact ⟨.rest [], by rw [emptyRestOf, hkind], fun h => absurd h hone, fun _ => ⟨[], rfl⟩, by simp [hkind]⟩
  | named =>
    exact ⟨.named [], by rw [emptyRestOf, hkind], fun h => absurd h hone, by simp [hkind], fun _ => ⟨[], rfl, by simp⟩⟩

lemma find?_of_mem (hs : s.names.Nodup) {p : Parameter} (hp : p ∈ s.parameters) : s.find? p.name = some p := by
  obtain ⟨q, hq⟩ := Option.isSome_iff_exists.1 (find?_isSome_iff.2 (List.mem_map_of_mem hp))
  rw [hq, List.inj_on_of_nodup_map hs (List.mem_of_find?_eq_some hq) hp (name_of_find? hq)]

lemma emptyRest?_of_mem (hs : s.names.Nodup) {p : Parameter} (hp : p ∈ s.parameters) :
    s.emptyRest? p.name = emptyRestOf p := by
  rw [emptyRest?, find?_of_mem hs hp, Option.bind_some]

lemma emptyRest?_of_not_mem {n : String} (h : n ∉ s.names) : s.emptyRest? n = none := by
  rw [emptyRest?, Option.not_isSome_iff_eq_none.1 (mt find?_isSome_iff.1 h)]
  rfl

lemma emptyRest?_of_shape (hshape : s.shape = t.shape) (n : String) : s.emptyRest? n = t.emptyRest? n := by
  rw [emptyRest?, emptyRest?, find?, find?]
  obtain ⟨hp, hq⟩ | ⟨p, q, hp, hq, h⟩ :=
    find?_alike (alike_of_shape hshape) fun p q h => congrArg (fun name => name == n) h.1
  · rw [hp, hq]
  · rw [hp, hq, Option.bind_some, Option.bind_some, emptyRestOf, emptyRestOf, h.2]

/-- Arguments are filled up by defaults, and by nothing as the rest. -/
lemma get?_fill (hs : s.names.Nodup) (b : Arguments) (n : String) :
    (s.fill b).get? n = if n ∈ s.names then (b.get? n).or ((s.default? n).or (s.emptyRest? n)) else none := by
  have hfill : s.fill b = s.parameters.filterMap fun p =>
      ((b.get? p.name).or (p.default?.or (emptyRestOf p))).map (p.name, ·) := by
    refine List.filterMap_congr ?_
    intro p _
    rw [emptyRestOf]
    cases b.get? p.name <;> cases p.default? <;> cases p.kind <;> rfl
  rw [hfill, get?_filterMap _ hs, ← find?, default?, emptyRest?]
  by_cases hn : n ∈ s.names
  · obtain ⟨p, hp⟩ := Option.isSome_iff_exists.1 (find?_isSome_iff.2 hn)
    rw [if_pos hn, hp, Option.bind_some, Option.bind_some, Option.bind_some, name_of_find? hp]
  · rw [if_neg hn, Option.not_isSome_iff_eq_none.1 (mt find?_isSome_iff.1 hn)]
    rfl

end Signature

end Coercion
