import Coercion.Proofs.Traversal
import Coercion.Registry.Session
import Mathlib.Tactic.Lemma
import Mathlib.Tactic.SplitIfs

/-!
Registries only grow. Whatever is done to a registry, in any order and whether or not it fails, a rule that is found once
is found from then on, and only the entries that an operation is about can come to be. Once a registry is frozen its
tables stay as they are, and every attempt to enter a rule is refused, also through a decorator that was made before.
-/

namespace Coercion

namespace Registry

variable {r r' r'' : Registry} {named : RuleTable → TagPair → Prop}

/-- Whether there is at most one entry in each table for a pair of kinds. -/
def HasSingleEntries (r : Registry) : Prop :=
  ∀ table, ((r.rules table).map Prod.fst).Nodup

/-- How one registry may come from another if only some entries are entered. -/
structure Grows (named : RuleTable → TagPair → Prop) (r r' : Registry) : Prop where
  /-- Rules that are found stay what they are. -/
  kept : ∀ table pair rule, r.rule? table pair = some rule → r'.rule? table pair = some rule
  /-- Under other pairs of kinds there is what was there before. -/
  framed : ∀ table pair, ¬ named table pair → r'.rule? table pair = r.rule? table pair
  /-- A table that no entry is for stays as it is. -/
  apart : ∀ table, (∀ pair, ¬ named table pair) → r'.rules table = r.rules table
  /-- No pair of kinds gets a second entry. -/
  single : r.HasSingleEntries → r'.HasSingleEntries
  /-- A frozen registry stays as it is. -/
  sealed : r.frozen = true → r'.frozen = true ∧ ∀ table, r'.rules table = r.rules table

namespace Grows

lemma refl (named : RuleTable → TagPair → Prop) (r : Registry) : Grows named r r where
  kept _ _ _ h := h
  framed _ _ _ := rfl
  apart _ _ := rfl
  single h := h
  sealed h := ⟨h, fun _ => rfl⟩

lemma trans (h : Grows named r r') (h' : Grows named r' r'') : Grows named r r'' where
  kept table pair rule hrule := by
    have hkept := h.kept table pair rule hrule
    exact h'.kept table pair rule hkept
  framed table pair hnot := (h'.framed table pair hnot).trans (h.framed table pair hnot)
  apart table hnot := (h'.apart table hnot).trans (h.apart table hnot)
  single hsingle := h'.single (h.single hsingle)
  sealed hfrozen := by
    obtain ⟨hfrozen', hrules⟩ := h.sealed hfrozen
    obtain ⟨hfrozen'', hrules'⟩ := h'.sealed hfrozen'
    refine ⟨hfrozen'', ?_⟩
    intro table
    exact (hrules' table).trans (hrules table)

lemma mono {named' : RuleTable → TagPair → Prop} (hsub : ∀ table pair, named table pair → named' table pair)
    (h : Grows named r r') : Grows named' r r' where
  kept := h.kept
  framed table pair hnot := by
    refine h.framed table pair ?_
    intro hin
    exact hnot (hsub table pair hin)
  apart table hnot := by
    refine h.apart table ?_
    intro pair hin
    exact hnot pair (hsub table pair hin)
  single := h.single
  sealed := h.sealed

/-- A registry with the same tables that is frozen if the other was. -/
lemma of_rules (hrules : ∀ table, r'.rules table = r.rules table) (hfrozen : r.frozen = true → r'.frozen = true) :
    Grows named r r' where
  kept table pair rule h := by rwa [rule?, hrules]
  framed table pair _ := by rw [rule?, rule?, hrules]
  apart table _ := hrules table
  single h table := by
    rw [hrules]
    exact h table
  sealed h := ⟨hfrozen h, hrules⟩

end Grows

/-! ### What a new entry changes -/

lemma ruleFor?_append {α : Type} (rules : List (TagPair × α)) (pair key : TagPair) (rule : α) :
    ruleFor? (rules ++ [(pair, rule)]) key = (ruleFor? rules key <|> if pair = key then some rule else none) := by
  rw [ruleFor?, ruleFor?, List.find?_append]
  cases hfound : rules.find? fun entry => entry.1 == key with
  | some entry => rfl
  | none => by_cases heq : pair = key <;> simp [heq]

/-- An entry at the end of a table of a registry that is not frozen. -/
lemma Grows.of_append {table : RuleTable} {pair : TagPair} {rule : table.Rule} (hfrozen : r.frozen = false)
    (hfree : r.rule? table pair = none) (hrules : r'.rules table = r.rules table ++ [(pair, rule)])
    (hother : ∀ t, t ≠ table → r'.rules t = r.rules t) : Grows (fun t p => t = table ∧ p = pair) r r' where
  kept t p found h := by
    by_cases ht : t = table
    · subst ht
      rw [rule?] at h
      rw [rule?, hrules, ruleFor?_append, h]
      rfl
    · rw [rule?, hother t ht]
      exact h
  framed t p hnot := by
    by_cases ht : t = table
    · subst ht
      have hne : pair ≠ p := by
        intro heq
        exact hnot ⟨rfl, heq.symm⟩
      rw [rule?, rule?, hrules, ruleFor?_append, if_neg hne]
      cases ruleFor? (r.rules t) p <;> rfl
    · rw [rule?, rule?, hother t ht]
  apart t hnot := hother t fun heq => hnot pair ⟨heq, rfl⟩
  single h t := by
    by_cases ht : t = table
    · subst ht
      rw [rule?, ruleFor?, Option.map_eq_none_iff, List.find?_eq_none] at hfree
      rw [hrules, List.map_append, List.nodup_append]
      refine ⟨h t, List.pairwise_singleton _ _, ?_⟩
      rintro p hp q hq rfl
      obtain ⟨entry, hentry, rfl⟩ := List.mem_map.1 hp
      exact hfree entry hentry (beq_iff_eq.2 (List.mem_singleton.1 hq))
    · rw [hother t ht]
      exact h t
  sealed h := by
    rw [hfrozen] at h
    cases h

end Registry

/-! ### What a registration changes -/

namespace Registration

open Registry

variable {α β : Type} {named : RuleTable → TagPair → Prop} {table : RuleTable} {pair : TagPair}

/-- Whether a registration enters nothing but some entries, however far it gets. -/
def Within (named : RuleTable → TagPair → Prop) (x : Registration α) : Prop :=
  ∀ r, Grows named r (runOn r x).2

lemma within_pure (a : α) : Within named (pure a) := fun r => .refl named r

lemma runOn_bind_ok {r : Registry} {x : Registration α} {a : α} (f : α → Registration β)
    (h : (runOn r x).1 = .ok a) : runOn r (x >>= f) = runOn (runOn r x).2 (f a) :=
  run_bind_ok f (Prod.ext h rfl)

lemma runOn_bind_error {r : Registry} {x : Registration α} {e : Failure} (f : α → Registration β)
    (h : (runOn r x).1 = .error e) : runOn r (x >>= f) = (.error e, (runOn r x).2) :=
  run_bind_error f (Prod.ext h rfl)

lemma within_bind {x : Registration α} {f : α → Registration β} (hx : Within named x) (hf : ∀ a, Within named (f a)) :
    Within named (x >>= f) := by
  intro r
  cases h : (runOn r x).1 with
  | error e =>
    rw [runOn_bind_error f h]
    exact hx r
  | ok a =>
    rw [runOn_bind_ok f h]
    exact (hx r).trans (hf a _)

lemma within_note (rule : α → String) (offer : Offer α) : Within named (note table pair rule offer) := by
  cases offer <;> exact fun r => .of_rules (fun t => by cases t <;> rfl) id

lemma within_freeze : Within named freeze := by
  intro r
  refine .of_rules ?_ fun _ => rfl
  intro table
  cases table <;> rfl

/-- The name of a rule of a table. -/
def ruleName : (table : RuleTable) → table.Rule → String
  | .coercion => Resolver.name
  | .cast => Caster.name

/-- The registry with one more entry at the end of a table. -/
def withEntry (r : Registry) (pair : TagPair) : (table : RuleTable) → table.Rule → Registry
  | .coercion, (rule : Resolver) => { r with resolvers := r.resolvers ++ [(pair, rule)] }
  | .cast, (rule : Caster) => { r with casters := r.casters ++ [(pair, rule)] }

lemma runOn_enter (r : Registry) (offer : Offer table.Rule) :
    runOn r (enter table pair offer) = runOn r (do
      let rule ← liftM (ruleOf table (r.rules table) r.frozen pair offer)
      set (withEntry r pair table rule)
      note table pair (ruleName table) offer) := by
  cases table <;> rfl

/-- A rule that may not be entered changes nothing. -/
lemma runOn_enter_error {r : Registry} {offer : Offer table.Rule} {f : Failure}
    (h : ruleOf table (r.rules table) r.frozen pair offer = .error f) :
    runOn r (enter table pair offer) = (.error f, r) := by
  rw [runOn_enter, h]
  rfl

lemma runOn_enter_ok {r : Registry} {offer : Offer table.Rule} {rule : table.Rule}
    (h : ruleOf table (r.rules table) r.frozen pair offer = .ok rule) :
    runOn r (enter table pair offer) = runOn (withEntry r pair table rule) (note table pair (ruleName table) offer) := by
  rw [runOn_enter, h]
  rfl

/-- A rule is accepted only if the registry is not frozen and the pair of kinds is free. -/
lemma of_ruleOf_eq_ok {rules : List (TagPair × α)} {frozen : Bool} {offer : Offer α} {rule : α}
    (h : ruleOf table rules frozen pair offer = .ok rule) : frozen = false ∧ ruleFor? rules pair = none := by
  have hcheck : ∀ x : α, (if frozen = true then (.error (.frozen table pair) : Except Failure α)
      else if (ruleFor? rules pair).isSome = true then .error (.alreadyRegistered table pair) else .ok x) = .ok rule →
        frozen = false ∧ ruleFor? rules pair = none := by
    intro x hx
    split_ifs at hx with hfrozen htaken
    exact ⟨Bool.not_eq_true _ ▸ hfrozen, Option.not_isSome_iff_eq_none.1 htaken⟩
  cases offer with
  | rule x => exact hcheck x h
  | nameless x className => exact hcheck x h
  | other quoted => cases h

/-- Whatever can be called is refused by a frozen registry. -/
lemma ruleOf_frozen {rules : List (TagPair × α)} {offer : Offer α} {rule : α} (h : offer.callable? = some rule) :
    ruleOf table rules true pair offer = .error (.frozen table pair) := by
  cases offer with
  | rule => rfl
  | nameless => rfl
  | other => cases h

/-- Whatever can be called is accepted for a pair of kinds that is free. -/
lemma ruleOf_free {rules : List (TagPair × α)} {offer : Offer α} {rule : α} (h : offer.callable? = some rule)
    (hfree : ruleFor? rules pair = none) : ruleOf table rules false pair offer = .ok rule := by
  have hcheck : (if (ruleFor? rules pair).isSome = true then (.error (.alreadyRegistered table pair) : Except Failure α)
      else .ok rule) = .ok rule := by
    rw [hfree]
    rfl
  cases offer with
  | rule => cases h; exact hcheck
  | nameless => cases h; exact hcheck
  | other => cases h

lemma rules_withEntry (r : Registry) (rule : table.Rule) :
    (withEntry r pair table rule).rules table = r.rules table ++ [(pair, rule)] := by
  cases table <;> rfl

/-- Registration of a rule enters it under its own pair of kinds, if at all. -/
lemma within_enter (offer : Offer table.Rule) : Within (fun t p => t = table ∧ p = pair) (enter table pair offer) := by
  intro r
  cases h : ruleOf table (r.rules table) r.frozen pair offer with
  | error f =>
    rw [runOn_enter_error h]
    exact .refl _ r
  | ok rule =>
    obtain ⟨hfrozen, hfree⟩ := of_ruleOf_eq_ok h
    rw [runOn_enter_ok h]
    refine .trans (.of_append hfrozen hfree (rules_withEntry r rule) fun t ht => ?_) (within_note _ offer _)
    cases t <;> cases table <;> first | rfl | exact absurd rfl ht

/-- A rule that is entered under a free pair of kinds is found there. -/
lemma rule?_enter {r : Registry} {offer : Offer table.Rule} {rule : table.Rule} (hfrozen : r.frozen = false)
    (hfree : r.rule? table pair = none) (hoffer : offer.callable? = some rule) :
    (runOn r (enter table pair offer)).2.rule? table pair = some rule := by
  rw [runOn_enter_ok (hfrozen ▸ ruleOf_free hoffer hfree)]
  have hentered : (withEntry r pair table rule).rule? table pair = some rule := by
    rw [rule?, rules_withEntry, ruleFor?_append, show ruleFor? (r.rules table) pair = none from hfree, if_pos rfl]
    rfl
  have hnote : Within (fun _ _ => False) (note table pair (ruleName table) offer) := within_note _ offer
  exact (hnote _).kept table pair rule hentered

/-- The entries that the registration of a kind is about. -/
def entriesOfKind (tag : Tag) (decomposable : Bool) : List (RuleTable × TagPair) :=
  [(.coercion, (tag, .name "null")), (.coercion, (tag, .name "unspecified")), (.coercion, (tag, .any)),
    (.cast, (tag, tag)), (.cast, (tag, .any))] ++
  if decomposable then [(.cast, (tag, .list)), (.cast, (.list, tag))] else []

lemma within_enter_of_mem {entries : List (RuleTable × TagPair)} (offer : Offer table.Rule)
    (h : (table, pair) ∈ entries) : Within (fun t p => (t, p) ∈ entries) (enter table pair offer) := by
  intro r
  refine .mono ?_ (within_enter offer r)
  rintro t p ⟨rfl, rfl⟩
  exact h

/-- The registration of a kind whose tag is known. -/
def kindSteps (tag : Tag) (selfCast : Offer Caster) (decomposable : Bool) : Registration Unit := do
  enter .coercion (tag, .name "null") (.rule Resolver.identity)
  enter .coercion (tag, .name "unspecified") (.rule Resolver.identity)
  enter .coercion (tag, .any) (.rule Resolver.noCommonType)
  enter .cast (tag, tag) selfCast
  enter .cast (tag, .any) (.rule Caster.noCast)
  if decomposable then
    enter .cast (tag, .list) (.rule Caster.anyToList)
    enter .cast (.list, tag) (.rule Caster.listToAny)

section Kind

variable {specifier : KindSpecifier} {selfCast : Offer Caster} {decomposable : Bool}

lemma runOn_kind_ok (r : Registry) {tag : Tag} (h : specifier.tag = .ok tag) :
    runOn r (kind specifier selfCast decomposable) = runOn r (kindSteps tag selfCast decomposable) := by
  rw [kind, kindWith, h]
  rfl

lemma runOn_kind_error (r : Registry) {f : Failure} (h : specifier.tag = .error f) :
    runOn r (kind specifier selfCast decomposable) = (.error f, r) := by
  rw [kind, kindWith, h]
  rfl

lemma within_kindSteps (tag : Tag) :
    Within (fun t p => (t, p) ∈ entriesOfKind tag decomposable) (kindSteps tag selfCast decomposable) := by
  rw [kindSteps]
  refine within_bind (within_enter_of_mem _ (by simp [entriesOfKind])) ?_
  intro _
  refine within_bind (within_enter_of_mem _ (by simp [entriesOfKind])) ?_
  intro _
  refine within_bind (within_enter_of_mem _ (by simp [entriesOfKind])) ?_
  intro _
  refine within_bind (within_enter_of_mem _ (by simp [entriesOfKind])) ?_
  intro _
  refine within_bind (within_enter_of_mem _ (by simp [entriesOfKind])) fun _ => ?_
  cases decomposable with
  | false => exact within_pure ()
  | true =>
    refine within_bind (within_enter_of_mem _ (by simp [entriesOfKind])) ?_
    intro _
    exact within_enter_of_mem _ (by simp [entriesOfKind])

/-- Registration of a kind enters its own entries, as far as it gets. -/
lemma within_kind :
    Within (fun t p => ∃ tag, specifier.tag = .ok tag ∧ (t, p) ∈ entriesOfKind tag decomposable)
      (kind specifier selfCast decomposable) := by
  intro r
  cases htag : specifier.tag with
  | error f =>
    rw [runOn_kind_error r htag]
    exact .refl _ r
  | ok tag =>
    rw [runOn_kind_ok r htag]
    refine (within_kindSteps tag r).mono ?_
    intro t p hin
    exact ⟨tag, rfl, hin⟩

/-- A frozen registry refuses a kind at its first entry. -/
lemma runOn_kind_frozen {r : Registry} (hfrozen : r.frozen = true) {tag : Tag} (h : specifier.tag = .ok tag) :
    (runOn r (kind specifier selfCast decomposable)).1 = .error (.frozen .coercion (tag, .name "null")) := by
  have hfirst : (runOn r (enter .coercion (tag, .name "null") (.rule Resolver.identity))).1 =
      .error (.frozen .coercion (tag, .name "null")) := by
    have hrefused : ruleOf .coercion r.resolvers r.frozen (tag, .name "null") (.rule Resolver.identity) =
        .error (.frozen .coercion (tag, .name "null")) := hfrozen ▸ rfl
    exact congrArg Prod.fst (runOn_enter_error hrefused)
  rw [runOn_kind_ok r h, kindSteps, runOn_bind_error _ hfirst]

end Kind

end Registration

/-! ### What an operation changes -/

/-- Whether an operation is about an entry. -/
def Operation.Names (s : Session) : Operation → RuleTable → TagPair → Prop
  | .register table a b _, t, p => t = table ∧ a.pair b = .ok p
  | .apply table n _, t, p => t = table ∧ (s.decorators table)[n]? = some p
  | .registerKind kind _ decomposable, t, p =>
    ∃ tag, kind.tag = .ok tag ∧ (t, p) ∈ Registration.entriesOfKind tag decomposable
  | .decorator .., _, _ | .freeze, _, _ | .lookup .., _, _ => False

/-- Whether an operation tries to enter a rule that can be called, and where it tries so first. -/
def Operation.Attempts (s : Session) : Operation → RuleTable → TagPair → Prop
  | .register table a b offer, t, p => t = table ∧ a.pair b = .ok p ∧ offer.callable?.isSome = true
  | .apply table n offer, t, p => t = table ∧ (s.decorators table)[n]? = some p ∧ offer.callable?.isSome = true
  | .registerKind kind _ _, t, p => t = .coercion ∧ ∃ tag, kind.tag = .ok tag ∧ p = (tag, .name "null")
  | .decorator .., _, _ | .freeze, _, _ | .lookup .., _, _ => False

namespace Session

open Registry

variable {s : Session} {operation : Operation} {table : RuleTable} {pair : TagPair}

lemma perform_grows {named : RuleTable → TagPair → Prop} {x : Registration Unit} (h : Registration.Within named x) :
    Grows named s.registry (s.perform x).2.registry :=
  h s.registry

/-- **One operation.** What an operation changes are entries that it is about. -/
theorem step_grows (s : Session) (operation : Operation) :
    Grows (operation.Names s) s.registry (s.step operation).2.registry := by
  cases operation with
  | register table a b offer =>
    rw [step]
    cases hpair : a.pair b with
    | error f => exact .refl _ _
    | ok pair =>
      refine (perform_grows (Registration.within_enter offer)).mono ?_
      rintro t p ⟨rfl, rfl⟩
      exact ⟨rfl, hpair⟩
  | decorator table a b =>
    rw [step]
    cases a.pair b <;> exact .refl _ _
  | apply table n offer =>
    rw [step]
    cases hpair : (s.decorators table)[n]? with
    | none => exact .refl _ _
    | some pair =>
      refine (perform_grows (Registration.within_enter offer)).mono ?_
      rintro t p ⟨rfl, rfl⟩
      exact ⟨rfl, hpair⟩
  | registerKind kind selfCast decomposable => exact perform_grows Registration.within_kind
  | freeze => exact perform_grows Registration.within_freeze
  | lookup table a b =>
    rw [step]
    cases a.pair b <;> exact .refl _ _

/-- **A run.** What operations change one after the other grows from what was there. -/
theorem run_grows (s : Session) (operations : List Operation) :
    Grows (fun _ _ => True) s.registry (s.run operations).registry := by
  induction operations generalizing s with
  | nil => exact .refl _ _
  | cons operation rest ih =>
    have hstep : Grows (fun _ _ => True) s.registry (s.step operation).2.registry :=
      (step_grows s operation).mono fun _ _ _ => trivial
    exact hstep.trans (ih (s.step operation).2)

/-- A frozen registry refuses every attempt to enter a rule. -/
lemma step_of_attempts (hfrozen : s.registry.frozen = true) (h : operation.Attempts s table pair) :
    (s.step operation).1 = .error (.frozen table pair) := by
  -- whichever way the rule is entered, the registry is asked before anything is changed
  have henter : ∀ (offer : Offer table.Rule), offer.callable?.isSome = true →
      (s.perform (.enter table pair offer)).1 = .error (.frozen table pair) := by
    intro offer hcallable
    obtain ⟨rule, hrule⟩ := Option.isSome_iff_exists.1 hcallable
    rw [perform, Registration.runOn_enter_error (hfrozen ▸ Registration.ruleOf_frozen hrule)]
    rfl
  cases operation with
  | register t a b offer =>
    obtain ⟨rfl, hpair, hcallable⟩ := h
    rw [step, hpair]
    exact henter offer hcallable
  | apply t n offer =>
    obtain ⟨rfl, hpair, hcallable⟩ := h
    rw [step, hpair]
    exact henter offer hcallable
  | registerKind kind selfCast decomposable =>
    obtain ⟨rfl, tag, htag, rfl⟩ := h
    rw [step, perform, Registration.runOn_kind_frozen hfrozen htag]
    rfl
  | decorator => exact h.elim
  | freeze => exact h.elim
  | lookup => exact h.elim

lemma step_lookup_eq_ok_iff (s : Session) {a b : KindSpecifier} {rule : table.Rule} :
    (s.step (.lookup table a b)).1 = .ok (.found table (some rule)) ↔
      ∃ pair, a.pair b = .ok pair ∧ s.registry.rule? table pair = some rule := by
  rw [step]
  cases a.pair b with
  | error f => simp
  | ok pair => simp

/-- What holds of a registry however it is worked on from some moment on. -/
structure AppendOnly (s : Session) (later : List Operation) : Prop where
  /-- A rule that is entered under a free pair of kinds is there. -/
  entered : ∀ table a b pair offer rule, s.registry.frozen = false → a.pair b = .ok pair →
    s.registry.rule? table pair = none → offer.callable? = some rule →
      (s.step (.register table a b offer)).2.registry.rule? table pair = some rule
  /-- A lookup that has found a rule finds the same rule from then on, however the kinds are given. -/
  kept : ∀ table a b a' b' rule, (s.step (.lookup table a b)).1 = .ok (.found table (some rule)) →
    a'.pair b' = a.pair b → ((s.run later).step (.lookup table a' b')).1 = .ok (.found table (some rule))
  /-- No pair of kinds gets a second entry. -/
  single : s.registry.HasSingleEntries → (s.run later).registry.HasSingleEntries
  /-- An operation leaves the entries alone that it is not about. -/
  framed : ∀ operation table pair, ¬ operation.Names s table pair →
    (s.step operation).2.registry.rule? table pair = s.registry.rule? table pair
  /-- An operation that is about no entry of a table leaves the table as it is. -/
  apart : ∀ operation table, (∀ pair, ¬ operation.Names s table pair) →
    (s.step operation).2.registry.rules table = s.registry.rules table
  /-- Both tables of a frozen registry stay as they are. -/
  sealed : ∀ table, ((s.step .freeze).2.run later).registry.rules table = s.registry.rules table
  /-- Whatever is tried later on a frozen registry is refused. -/
  refused : ∀ operation table pair, operation.Attempts ((s.step .freeze).2.run later) table pair →
    (((s.step .freeze).2.run later).step operation).1 = .error (.frozen table pair)

/-- **Registries are append-only.** Whatever has been done so far and is done later, in any order and whether or not it
fails, the rules that are found stay, each operation touches only the entries that it is about, and freezing is for
good. -/
theorem run_appendOnly (s : Session) (later : List Operation) : AppendOnly s later where
  entered table a b pair offer rule hfrozen hpair hfree hoffer := by
    rw [step, hpair]
    exact Registration.rule?_enter hfrozen hfree hoffer
  kept table a b a' b' rule h hsame := by
    obtain ⟨pair, hpair, hrule⟩ := (step_lookup_eq_ok_iff s).1 h
    exact (step_lookup_eq_ok_iff _).2 ⟨pair, hsame.trans hpair, (run_grows s later).kept table pair rule hrule⟩
  single := (run_grows s later).single
  framed operation := (step_grows s operation).framed
  apart operation := (step_grows s operation).apart
  sealed table := by
    have hfreeze : (s.step .freeze).2.registry.rules table = s.registry.rules table := by cases table <;> rfl
    have hsealed := (run_grows (s.step .freeze).2 later).sealed rfl
    exact (hsealed.2 table).trans hfreeze
  refused operation table pair h := step_of_attempts ((run_grows (s.step .freeze).2 later).sealed rfl).1 h

/-- A decorator that was made before the registry was frozen comes too late. -/
example : (((new .empty).run [.decorator .cast (.word "a") (.word "b"), .freeze]).step
    (.apply .cast 0 (.rule Caster.noCast))).1 = .error (.frozen .cast (.name "a", .name "b")) :=
  rfl

end Session

end Coercion
