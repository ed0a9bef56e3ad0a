import Coercion.Proofs.Registry.Session

/-!
What a registration leaves behind when it fails. A rule is checked before it is entered, so that a rule that is refused
leaves both tables alone. There is one way to fail after that: the entry is noted with the name of the rule, and a rule
without a name stays although the registration fails. The registration of a kind enters its rules one after the other,
up to the first that is refused, and takes nothing back.
-/

namespace Coercion

/-- Whether what is offered is a rule without a name. -/
def Offer.IsNameless {α : Type} : Offer α → Prop
  | .nameless .. => True
  | .rule _ | .other _ => False

lemma Offer.IsNameless.callable? {α : Type} {offer : Offer α} (h : offer.IsNameless) :
    ∃ rule, offer.callable? = some rule := by
  cases offer with
  | nameless x className => exact ⟨x, rfl⟩
  | rule x => exact h.elim
  | other quoted => exact h.elim

/-- What is to be entered: an offer, with its table and its pair of kinds. -/
structure Entry where
  table : RuleTable
  pair : TagPair
  offer : Offer table.Rule

namespace Entry

/-- The row that an entry makes in a table, if it is for this table and can be called. -/
def row? : (t : RuleTable) → Entry → Option (TagPair × t.Rule)
  | .coercion, ⟨.coercion, pair, offer⟩ | .cast, ⟨.cast, pair, offer⟩ => offer.callable?.map fun rule => (pair, rule)
  | .coercion, ⟨.cast, _, _⟩ | .cast, ⟨.coercion, _, _⟩ => none

/-- The rows that some entries make in a table. -/
def rows (t : RuleTable) (entries : List Entry) : List (TagPair × t.Rule) :=
  entries.filterMap (row? t)

variable {t table : RuleTable} {pair : TagPair} {offer : Offer table.Rule}

@[simp]
lemma row?_self : row? table ⟨table, pair, offer⟩ = offer.callable?.map fun rule => (pair, rule) := by
  cases table <;> rfl

lemma row?_of_ne (h : t ≠ table) : row? t ⟨table, pair, offer⟩ = none := by
  cases t <;> cases table <;> first | rfl | exact absurd rfl h

@[simp]
lemma rows_nil : rows t [] = [] := rfl

lemma rows_append (es es' : List Entry) : rows t (es ++ es') = rows t es ++ rows t es' :=
  List.filterMap_append

end Entry

namespace Registry

variable {r r' r'' : Registry} {table : RuleTable} {pair : TagPair} {e : Entry} {es es' : List Entry}

/-- Whether a pair of kinds is open to a rule. -/
def Accepts (r : Registry) (table : RuleTable) (pair : TagPair) : Prop :=
  r.frozen = false ∧ r.rule? table pair = none

/-- Why a registry refuses an entry: what is offered cannot be called, nothing can be entered any more, or the pair of
kinds is taken. -/
inductive Refuses (r : Registry) : Entry → Failure → Prop
  | notCallable (table : RuleTable) (pair : TagPair) (quoted : String) :
    Refuses r ⟨table, pair, .other quoted⟩ (.notCallable table quoted)
  | frozen {e : Entry} (callable : e.offer.callable?.isSome = true) (frozen : r.frozen = true) :
    Refuses r e (.frozen e.table e.pair)
  | taken {e : Entry} (callable : e.offer.callable?.isSome = true) (thawed : r.frozen = false)
    (taken : (r.rule? e.table e.pair).isSome = true) : Refuses r e (.alreadyRegistered e.table e.pair)

/-- How a registry comes from another if some entries are made and nothing else is. -/
structure Receives (r : Registry) (es : List Entry) (r' : Registry) : Prop where
  callable : ∀ e ∈ es, e.offer.callable?.isSome = true
  free : ∀ e ∈ es, r.rule? e.table e.pair = none
  /-- Each entry has its row, at the end of its table and in the order of the entries. -/
  rules : ∀ t, r'.rules t = r.rules t ++ Entry.rows t es
  frozen : r'.frozen = r.frozen
  /-- A frozen registry receives nothing. -/
  sealed : r.frozen = true → es = []

namespace Receives

lemma refl (r : Registry) : Receives r [] r where
  callable _ he := nomatch he
  free _ he := nomatch he
  rules t := by simp
  frozen := rfl
  sealed _ := rfl

/-- What is free afterwards has been free before. -/
lemma free_of_free (h : Receives r es r') (hfree : r'.rule? table pair = none) : r.rule? table pair = none := by
  have hrows : (r.rules table ++ Entry.rows table es).find? (·.1 == pair) = none := by
    rw [rule?, ruleFor?, h.rules table, Option.map_eq_none_iff] at hfree
    exact hfree
  rw [List.find?_append, Option.or_eq_none_iff] at hrows
  obtain ⟨hbefore, -⟩ := hrows
  rw [rule?, ruleFor?, hbefore]
  rfl

lemma trans (h : Receives r es r') (h' : Receives r' es' r'') : Receives r (es ++ es') r'' where
  callable e he := by
    rcases List.mem_append.1 he with he | he
    · exact h.callable e he
    · exact h'.callable e he
  free e he := by
    rcases List.mem_append.1 he with he | he
    · exact h.free e he
    · have hfree := h'.free e he
      exact h.free_of_free hfree
  rules t := by rw [h'.rules t, h.rules t, Entry.rows_append, List.append_assoc]
  frozen := by rw [h'.frozen, h.frozen]
  sealed hr := by
    have hr' : r'.frozen = true := by rw [h.frozen, hr]
    rw [h.sealed hr, h'.sealed hr', List.append_nil]

end Receives

end Registry

/-! ### One entry -/

namespace Registration

open Registry

variable {r : Registry} {table : RuleTable} {pair : TagPair} {e : Entry} {es : List Entry}

/-- Enters a rule on offer under its pair of kinds. -/
def make (e : Entry) : Registration Unit :=
  enter e.table e.pair e.offer

lemma ruleOf_eq_ok_iff {offer : Offer table.Rule} {rule : table.Rule} :
    ruleOf table (r.rules table) r.frozen pair offer = .ok rule ↔
      offer.callable? = some rule ∧ r.Accepts table pair := by
  constructor
  · intro h
    refine ⟨?_, of_ruleOf_eq_ok h⟩
    cases offer with
    | rule x | nameless x className =>
      simp only [ruleOf] at h
      split_ifs at h
      cases h
      rfl
    | other quoted => cases h
  · rintro ⟨hcallable, hthawed, hfree⟩
    rw [hthawed]
    exact ruleOf_free hcallable hfree

lemma refuses_of_ruleOf {f : Failure} (h : ruleOf e.table (r.rules e.table) r.frozen e.pair e.offer = .error f) :
    Refuses r e f := by
  obtain ⟨table, pair, offer⟩ := e
  cases offer with
  | rule x | nameless x className =>
    simp only [ruleOf] at h
    split_ifs at h with hfrozen htaken
    · cases h
      exact .frozen rfl hfrozen
    · cases h
      exact .taken rfl (Bool.not_eq_true _ ▸ hfrozen) htaken
  | other quoted =>
    cases h
    exact .notCallable table pair quoted

lemma rules_note (t : RuleTable) (name : table.Rule → String) (offer : Offer table.Rule) :
    (runOn r (note table pair name offer)).2.rules t = r.rules t := by
  cases offer <;> cases t <;> rfl

lemma frozen_note (name : table.Rule → String) (offer : Offer table.Rule) :
    (runOn r (note table pair name offer)).2.frozen = r.frozen := by
  cases offer <;> rfl

lemma frozen_withEntry (rule : table.Rule) : (withEntry r pair table rule).frozen = r.frozen := by
  cases table <;> rfl

lemma rules_withEntry_of_ne {t : RuleTable} (rule : table.Rule) (h : t ≠ table) :
    (withEntry r pair table rule).rules t = r.rules t := by
  cases t <;> cases table <;> first | rfl | exact absurd rfl h

lemma rules_withEntry_eq (t : RuleTable) {offer : Offer table.Rule} {rule : table.Rule}
    (h : offer.callable? = some rule) :
    (withEntry r pair table rule).rules t = r.rules t ++ Entry.rows t [⟨table, pair, offer⟩] := by
  by_cases ht : t = table
  · subst ht
    simp [rules_withEntry, Entry.rows, h]
  · simp [rules_withEntry_of_ne rule ht, Entry.rows, Entry.row?_of_ne ht]

/-- An offer that is accepted is entered. Only a rule without a name makes the registration fail after that. -/
lemma receives_make {rule : e.table.Rule}
    (h : ruleOf e.table (r.rules e.table) r.frozen e.pair e.offer = .ok rule) :
    Receives r [e] (runOn r (make e)).2 := by
  obtain ⟨hcallable, hthawed, hfree⟩ := ruleOf_eq_ok_iff.1 h
  have hrun := runOn_enter_ok h
  refine ⟨?_, ?_, ?_, ?_, ?_⟩
  · intro e' he'
    rw [List.mem_singleton.1 he', hcallable]
    rfl
  · intro e' he'
    rwa [List.mem_singleton.1 he']
  · intro t
    rw [make, hrun, rules_note, rules_withEntry_eq t hcallable]
  · rw [make, hrun, frozen_note, frozen_withEntry]
  · intro hfrozen
    rw [hthawed] at hfrozen
    cases hfrozen

/-- **One entry.** What is offered with a name, or cannot be called, is refused and changes nothing, or is entered. -/
lemma make_cases (r : Registry) (hnamed : ¬ e.offer.IsNameless) :
    (∃ f, Refuses r e f ∧ runOn r (make e) = (.error f, r)) ∨
      ∃ r', Receives r [e] r' ∧ runOn r (make e) = (.ok (), r') := by
  cases h : ruleOf e.table (r.rules e.table) r.frozen e.pair e.offer with
  | error f => exact .inl ⟨f, refuses_of_ruleOf h, runOn_enter_error h⟩
  | ok rule =>
    refine .inr ⟨_, receives_make h, Prod.ext ?_ rfl⟩
    rw [make, runOn_enter_ok h]
    obtain ⟨table, pair, offer⟩ := e
    cases offer with
    | rule x => rfl
    | nameless x className => exact (hnamed trivial).elim
    | other quoted => cases h

/-- A registration that fails leaves the tables alone, unless the rule was accepted and has no name. -/
lemma make_unchanged_iff {f : Failure} (h : (runOn r (make e)).1 = .error f) :
    (∀ t, (runOn r (make e)).2.rules t = r.rules t) ↔ ¬ (r.Accepts e.table e.pair ∧ e.offer.IsNameless) := by
  by_cases hnameless : e.offer.IsNameless
  · cases hrule : ruleOf e.table (r.rules e.table) r.frozen e.pair e.offer with
    | error f' =>
      have hsame : runOn r (make e) = (.error f', r) := runOn_enter_error hrule
      refine iff_of_true (fun t => by rw [hsame]) ?_
      rintro ⟨haccepts, _⟩
      obtain ⟨rule, hcallable⟩ := hnameless.callable?
      rw [ruleOf_eq_ok_iff.2 ⟨hcallable, haccepts⟩] at hrule
      cases hrule
    | ok rule =>
      obtain ⟨hcallable, haccepts⟩ := ruleOf_eq_ok_iff.1 hrule
      refine iff_of_false ?_ fun hnot => hnot ⟨haccepts, hnameless⟩
      intro hsame
      -- the table of the entry has one more row than before
      have hrows := (runOn_enter_ok hrule ▸ hsame e.table :)
      rw [rules_note, rules_withEntry] at hrows
      exact absurd (congrArg List.length hrows) (by simp)
  · refine iff_of_true ?_ fun hboth => hnameless hboth.2
    obtain ⟨f', -, hsame⟩ | ⟨r', -, hsame⟩ := make_cases r hnameless
    · intro t
      rw [hsame]
    · rw [hsame] at h
      cases h

end Registration

/-! ### Rules one by one -/

/-- Whether an operation is about a single rule: it enters one, or makes or applies a decorator for it. -/
def Operation.IsRegistration : Operation → Prop
  | .register .. | .decorator .. | .apply .. => True
  | .registerKind .. | .freeze | .lookup .. => False

/-- Whether an operation offers a rule without a name for a pair of kinds that is open to it. -/
def Operation.EntersNameless (s : Session) : Operation → Prop
  | .register table a b offer => ∃ pair, a.pair b = .ok pair ∧ s.registry.Accepts table pair ∧ offer.IsNameless
  | .apply table n offer =>
    ∃ pair, (s.decorators table)[n]? = some pair ∧ s.registry.Accepts table pair ∧ offer.IsNameless
  | .decorator .. | .registerKind .. | .freeze | .lookup .. => False

namespace Session

open Registration

variable {s : Session} {operation : Operation} {f : Failure}

lemma perform_unchanged_iff {e : Entry} (h : (s.perform (make e)).1 = .error f) :
    (∀ t, (s.perform (make e)).2.registry.rules t = s.registry.rules t) ↔
      ¬ (s.registry.Accepts e.table e.pair ∧ e.offer.IsNameless) := by
  cases hrun : (runOn s.registry (make e)).1 with
  | ok x =>
    rw [perform, hrun] at h
    cases h
  | error f' => exact make_unchanged_iff hrun

/-- **A registration that fails.** Whether it is made directly or through a decorator, it leaves both tables as they were
exactly when it does not offer a rule without a name for a pair of kinds that is open to it. -/
theorem step_unchanged_iff (hsingle : operation.IsRegistration) (hfails : (s.step operation).1 = .error f) :
    (∀ t, (s.step operation).2.registry.rules t = s.registry.rules t) ↔ ¬ operation.EntersNameless s := by
  cases operation with
  | register table a b offer =>
    simp only [step, Operation.EntersNameless] at hfails ⊢
    cases hpair : a.pair b with
    | error f' => simp
    | ok pair =>
      rw [hpair] at hfails
      refine (perform_unchanged_iff (e := ⟨table, pair, offer⟩) hfails).trans (not_congr ?_)
      simp
  | decorator table a b =>
    simp only [step, Operation.EntersNameless] at hfails ⊢
    cases hpair : a.pair b with
    | error f' => simp
    | ok pair =>
      rw [hpair] at hfails
      cases hfails
  | apply table n offer =>
    simp only [step, Operation.EntersNameless] at hfails ⊢
    cases hpair : (s.decorators table)[n]? with
    | none =>
      rw [hpair] at hfails
      cases hfails
    | some pair =>
      rw [hpair] at hfails
      refine (perform_unchanged_iff (e := ⟨table, pair, offer⟩) hfails).trans (not_congr ?_)
      simp
  | registerKind => exact hsingle.elim
  | freeze => exact hsingle.elim
  | lookup => exact hsingle.elim

/-- A caster for a pair of kinds that is taken. -/
theorem step_unchanged_iff_taken :
    let s : Session := ((new .empty).step (.register .cast (.word "widget") (.word "list") (.rule Caster.noCast))).2
    let again : Operation := .register .cast (.word "widget") (.word "list") (.nameless Caster.noCast "partial")
    (s.step again).1 = .error (.alreadyRegistered .cast (.name "widget", .name "list")) ∧
      ∀ t, (s.step again).2.registry.rules t = s.registry.rules t := by
  intro s again
  have hfails : (s.step again).1 = .error (.alreadyRegistered .cast (.name "widget", .name "list")) := rfl
  have hsingle : again.IsRegistration := trivial
  refine ⟨hfails, (step_unchanged_iff hsingle hfails).2 ?_⟩
  rintro ⟨pair, hpair, ⟨-, hfree⟩, -⟩
  cases hpair
  cases hfree

/-- A resolver without a name is entered although its registration fails. -/
theorem not_step_unchanged :
    ¬ ∀ (s : Session) (operation : Operation) (f : Failure), operation.IsRegistration →
      (s.step operation).1 = .error f → ∀ t, (s.step operation).2.registry.rules t = s.registry.rules t := by
  intro h
  have hsame := h (new .empty)
    (.register .coercion (.word "widget") (.word "*") (.nameless Resolver.identity "functools.partial"))
    (.noAttribute "functools.partial" "__qualname__") trivial rfl .coercion
  exact absurd (congrArg List.length hsame) Nat.one_ne_zero

end Session

/-! ### The rules of a kind -/

namespace Registration

open Registry

variable {r : Registry} {es : List Entry} {tag : Tag} {selfCast? : Option (Offer Caster)} {decomposable : Bool}

/-- Makes some entries, one after the other. -/
def makeAll : List Entry → Registration Unit
  | [] => pure ()
  | e :: es => do
    make e
    makeAll es

/-- How the attempt to make some entries one after the other ends. -/
inductive Ends (r : Registry) (es : List Entry) : Except Failure Unit × Registry → Prop
  /-- All of them are made. -/
  | all {r' : Registry} (received : Receives r es r') : Ends r es (.ok (), r')
  /-- One is refused. Those that stand before it have been made, and stay. -/
  | refused {r' : Registry} {n : Nat} {e : Entry} {f : Failure} (found : es[n]? = some e)
    (received : Receives r (es.take n) r') (refuses : Refuses r' e f) : Ends r es (.error f, r')

/-- An entry that is made before some others. -/
lemma Ends.cons {e : Entry} {r' : Registry} {outcome : Except Failure Unit × Registry} (h : Receives r [e] r')
    (hrest : Ends r' es outcome) : Ends r (e :: es) outcome := by
  cases hrest with
  | all received => exact .all (h.trans received)
  | @refused _ n _ _ found received refuses => exact .refused (n := n + 1) found (h.trans received) refuses

/-- **A run of entries.** They are made up to the first that is refused. -/
lemma ends_makeAll (r : Registry) (hnamed : ∀ e ∈ es, ¬ e.offer.IsNameless) : Ends r es (runOn r (makeAll es)) := by
  induction es generalizing r with
  | nil => exact .all (.refl r)
  | cons e es ih =>
    obtain ⟨hfirst, hrest⟩ := List.forall_mem_cons.1 hnamed
    rw [makeAll]
    obtain ⟨f, hrefuses, hrun⟩ | ⟨r', hreceives, hrun⟩ := make_cases r hfirst
    · rw [runOn_bind_error _ (congrArg Prod.fst hrun), hrun]
      exact .refused (n := 0) rfl (.refl r) hrefuses
    · rw [runOn_bind_ok _ (congrArg Prod.fst hrun), hrun]
      exact (ih r' hrest).cons hreceives

/-- The rules of a kind, in the order in which they are entered. The caster of the kind to itself may be missing. -/
def kindEntries (tag : Tag) (selfCast? : Option (Offer Caster)) (decomposable : Bool) : List Entry :=
  [⟨.coercion, (tag, .name "null"), .rule Resolver.identity⟩,
    ⟨.coercion, (tag, .name "unspecified"), .rule Resolver.identity⟩,
    ⟨.coercion, (tag, .any), .rule Resolver.noCommonType⟩] ++
  (selfCast?.map fun selfCast => ⟨.cast, (tag, tag), selfCast⟩).toList ++
  [⟨.cast, (tag, .any), .rule Caster.noCast⟩] ++
  if decomposable then
    [⟨.cast, (tag, .list), .rule Caster.anyToList⟩, ⟨.cast, (.list, tag), .rule Caster.listToAny⟩]
  else []

lemma runOn_kindWith_ok (r : Registry) {specifier : KindSpecifier} (h : specifier.tag = .ok tag) :
    runOn r (kindWith specifier selfCast? decomposable) =
      runOn r (makeAll (kindEntries tag selfCast? decomposable)) := by
  rw [kindWith, h]
  cases decomposable with
  | false => cases selfCast? <;> rfl
  | true => cases selfCast? <;> simp only [kindEntries, Option.map_none, Option.map_some, Option.toList_none,
      Option.toList_some, List.cons_append, List.nil_append, if_true, makeAll, bind_pure_unit] <;> rfl

lemma named_kindEntries (hself : ∀ selfCast ∈ selfCast?, ¬ selfCast.IsNameless) :
    ∀ e ∈ kindEntries tag selfCast? decomposable, ¬ e.offer.IsNameless := by
  have hnone : ∀ e ∈ ([] : List Entry), ¬ e.offer.IsNameless := by
    intro _ he
    exact nomatch he
  simp only [kindEntries, List.forall_mem_append, List.forall_mem_cons]
  refine ⟨⟨⟨⟨id, id, id, hnone⟩, ?_⟩, id, hnone⟩, ?_⟩
  · cases selfCast? with
    | none => exact hnone
    | some selfCast => exact List.forall_mem_singleton.2 (hself selfCast rfl)
  · cases decomposable with
    | false => exact hnone
    | true => exact List.forall_mem_cons.2 ⟨id, List.forall_mem_singleton.2 id⟩

/-- **The registration of a kind.** Whatever the registry holds, the rules of the kind are entered in their order, up to
the first that is refused, and those that stand before it stay. What stands for no kind enters nothing. -/
theorem ends_kindWith (r : Registry) (specifier : KindSpecifier) (decomposable : Bool)
    (hself : ∀ selfCast ∈ selfCast?, ¬ selfCast.IsNameless) :
    match specifier.tag with
    | .ok tag => Ends r (kindEntries tag selfCast? decomposable) (runOn r (kindWith specifier selfCast? decomposable))
    | .error f => runOn r (kindWith specifier selfCast? decomposable) = (.error f, r) := by
  cases htag : specifier.tag with
  | ok tag =>
    simp only [runOn_kindWith_ok r htag]
    exact ends_makeAll r (named_kindEntries hself)
  | error f =>
    simp only [kindWith, htag]
    rfl

/-- The rules of a kind in a registry that has taken nothing yet. -/
theorem ends_kindWith_afresh :
    ¬ (Offer.rule Caster.reconstruct).IsNameless ∧
      Ends .empty (kindEntries (.name "widget") (some (.rule Caster.reconstruct)) true)
        (runOn .empty (kindWith (.word "widget") (some (.rule Caster.reconstruct)) true)) :=
  ⟨id, ends_kindWith .empty (.word "widget") true fun _ h => Option.some.inj h ▸ id⟩

/-- A kind whose cast to lists is taken is refused after five entries, which stay. -/
theorem not_kind_allOrNothing :
    ¬ ∀ (r : Registry) (specifier : KindSpecifier) (selfCast : Offer Caster) (decomposable : Bool) (f : Failure),
      (runOn r (kind specifier selfCast decomposable)).1 = .error f →
        ∀ t, (runOn r (kind specifier selfCast decomposable)).2.rules t = r.rules t := by
  intro h
  have hsame := h (withEntry .empty (.name "widget", .list) .cast Caster.noCast) (.word "widget")
    (.rule Caster.reconstruct) true (.alreadyRegistered .cast (.name "widget", .list)) rfl .coercion
  exact absurd (congrArg List.length hsame) (Nat.succ_ne_zero 2)

end Registration

end Coercion
