import Coercion.Proofs.Settings.Passed

/-!
Calls of managed functions. A call validates the managed arguments that it passes, in the order of the parameters, and
raises the first refusal. If nothing is refused, the function gets what the validators have made of the arguments, and
the defaults for the rest.
-/

namespace Coercion

lemma Arguments.isSome_get?_of_mem {bound : Arguments} {n : String} (hn : n ∈ bound.map Prod.fst) :
    (bound.get? n).isSome := by
  rw [Option.isSome_iff_ne_none, Ne, get?_eq_none_iff, not_not]
  exact hn

namespace Managed

variable {m next : Managed} {bound own : Arguments} {c : Call} {n : String}

/-- Whether the managed arguments can be chosen: they can be given by name, they have defaults, and what their
validators do depends on nothing but the value. -/
structure Choosable (m : Managed) : Prop where
  named : ∀ p ∈ m.signature.parameters, (m.validator? p.name).isSome → p.isNamed = true
  valued : ∀ n ∈ m.signature.names, (m.validator? n).isSome → (m.signature.default? n).isSome
  alone : ∀ n v, m.validator? n = some v → ∀ a x y, v.check a x = v.check a y

/-- What the validator of an argument makes of a value. -/
def judged (m : Managed) (n : String) (a : Argument) : Except Failure Argument :=
  match m.validator? n with
  | some v => v.check a []
  | none => .ok a

/-- Why an argument is refused, if it is. -/
def refusal? (m : Managed) (bound : Arguments) (n : String) : Option Failure :=
  (bound.get? n).bind fun a =>
    match m.judged n a with
    | .error e => some e
    | .ok _ => none

/-- The arguments that are refused, in the order of the parameters. -/
def refusals (m : Managed) (bound : Arguments) : List (String × Failure) :=
  m.signature.names.filterMap fun n => (m.refusal? bound n).map (n, ·)

/-- An argument as it is after it has been accepted. -/
def accepted (m : Managed) (bound : Arguments) (n : String) : Option Argument :=
  (bound.get? n).bind fun a => (m.judged n a).toOption

/-- What the function gets for a parameter: what has been accepted, or the default. -/
def held (m : Managed) (bound : Arguments) (n : String) : Option Argument :=
  (m.accepted bound n).or ((m.signature.default? n).or (m.signature.emptyRest? n))

/-! ### Validation -/

lemma judged_of_not_managed (h : m.validator? n = none) (a : Argument) : m.judged n a = .ok a := by
  rw [judged, h]

lemma Choosable.check (hm : m.Choosable) {v : Validator} (h : m.validator? n = some v) (a : Argument) (x : Arguments) :
    v.check a x = m.judged n a := by
  rw [judged, h]
  exact hm.alone n v h a x []

lemma refusal?_of_error {a : Argument} {e : Failure} (hget : bound.get? n = some a) (h : m.judged n a = .error e) :
    m.refusal? bound n = some e := by
  rw [refusal?, hget, Option.bind_some, h]

lemma refusal?_of_ok {a b : Argument} (hget : bound.get? n = some a) (h : m.judged n a = .ok b) :
    m.refusal? bound n = none := by
  rw [refusal?, hget, Option.bind_some, h]

lemma accepted_of_ok {a b : Argument} (hget : bound.get? n = some a) (h : m.judged n a = .ok b) :
    m.accepted bound n = some b := by
  rw [accepted, hget, Option.bind_some, h]
  rfl

lemma accepted_of_not_managed (h : m.validator? n = none) (bound : Arguments) : m.accepted bound n = bound.get? n := by
  rw [accepted]
  cases bound.get? n with
  | none => rfl
  | some a =>
    rw [Option.bind_some, judged_of_not_managed h]
    rfl

lemma accepted_of_none (hget : bound.get? n = none) : m.accepted bound n = none := by
  rw [accepted, hget]
  rfl

lemma refusal?_congr {other : Arguments} (h : bound.get? n = other.get? n) :
    m.refusal? bound n = m.refusal? other n := by
  rw [refusal?, refusal?, h]

lemma accepted_congr {other : Arguments} (h : bound.get? n = other.get? n) :
    m.accepted bound n = m.accepted other n := by
  rw [accepted, accepted, h]

/-- The first of some names at which something is found. -/
lemma findSome?_sublist {α : Type} {f : String → Option α} {xs ys : List String} (hsub : xs.Sublist ys) (hys : ys.Nodup)
    (hf : ∀ y ∈ ys, y ∉ xs → f y = none) : xs.findSome? f = ys.findSome? f := by
  induction hsub with
  | slnil => rfl
  | @cons xs ys y hsub ih =>
    rw [List.nodup_cons] at hys
    rw [List.forall_mem_cons] at hf
    rw [List.findSome?_cons, hf.1 fun hmem => hys.1 (hsub.subset hmem)]
    exact ih hys.2 hf.2
  | @cons_cons xs ys y hsub ih =>
    rw [List.nodup_cons] at hys
    rw [List.findSome?_cons, List.findSome?_cons]
    cases f y with
    | some a => rfl
    | none =>
      refine ih hys.2 fun z hz hnot => hf z (List.mem_cons_of_mem _ hz) ?_
      intro hmem
      obtain rfl | hmem := List.mem_cons.1 hmem
      · exact hys.1 hz
      · exact hnot hmem

lemma head?_refusals (m : Managed) (bound : Arguments) :
    ((m.refusals bound).head?).map Prod.snd = m.signature.names.findSome? (m.refusal? bound) := by
  rw [refusals, List.head?_filterMap, List.map_findSome?]
  congr 1
  funext n
  rw [Function.comp_apply, Option.map_map]
  exact Option.map_id'

lemma findSome?_refusal_congr {other : Arguments} {names : List String} (h : ∀ n ∈ names, bound.get? n = other.get? n) :
    names.findSome? (m.refusal? bound) = names.findSome? (m.refusal? other) := by
  induction names with
  | nil => rfl
  | cons n names ih =>
    rw [List.forall_mem_cons] at h
    rw [List.findSome?_cons, List.findSome?_cons, refusal?_congr h.1, ih h.2]

/-- A validation looks at one argument after the other: it is refused, or it is replaced by what its validator makes
of it. -/
lemma validateAll_step (hm : m.Choosable) (n : String) (names : List String) (bound : Arguments) :
    (∃ e, m.refusal? bound n = some e ∧ m.validateAll (n :: names) bound = .error e) ∨
      (m.refusal? bound n = none ∧ ∃ later, m.validateAll (n :: names) bound = m.validateAll names later ∧
        later.get? n = m.accepted bound n ∧ ∀ k, k ≠ n → later.get? k = bound.get? k) := by
  rw [validateAll, refusal?, accepted]
  cases ha : bound.get? n with
  | none =>
    refine .inr ⟨rfl, bound, ?_, ha, fun _ _ => rfl⟩
    cases m.validator? n <;> rfl
  | some a =>
    rw [Option.bind_some, Option.bind_some]
    cases hv : m.validator? n with
    | none =>
      rw [judged_of_not_managed hv]
      exact .inr ⟨rfl, bound, rfl, ha, fun _ _ => rfl⟩
    | some v =>
      dsimp only
      rw [hm.check hv]
      cases hjudged : m.judged n a with
      | error e => exact .inl ⟨e, rfl, rfl⟩
      | ok b =>
        refine .inr ⟨rfl, bound.set n b, rfl, ?_, ?_⟩
        · rw [Arguments.get?_set, if_pos rfl]
          rfl
        · intro k hk
          rw [Arguments.get?_set, if_neg hk]

/-- The first refusal ends a validation. If nothing is refused, all arguments are replaced by what their validators
make of them. -/
lemma validateAll_cases (hm : m.Choosable) {names : List String} (hnames : names.Nodup) (bound : Arguments) :
    (∃ e, names.findSome? (m.refusal? bound) = some e ∧ m.validateAll names bound = .error e) ∨
      (names.findSome? (m.refusal? bound) = none ∧ ∃ b, m.validateAll names bound = .ok b ∧
        ∀ k, b.get? k = if k ∈ names then m.accepted bound k else bound.get? k) := by
  induction names generalizing bound with
  | nil => exact .inr ⟨rfl, bound, rfl, fun k => (if_neg List.not_mem_nil).symm⟩
  | cons n names ih =>
    rw [List.nodup_cons] at hnames
    rw [List.findSome?_cons]
    obtain ⟨e, hrefusal, hstep⟩ | ⟨hrefusal, later, hstep, hself, hother⟩ := validateAll_step hm n names bound
    · rw [hrefusal]
      exact .inl ⟨e, rfl, hstep⟩
    · have hne : ∀ k ∈ names, k ≠ n := by
        intro k hk heq
        exact hnames.1 (heq ▸ hk)
      rw [hrefusal, hstep, ← findSome?_refusal_congr fun k hk => hother k (hne k hk)]
      refine (ih hnames.2 later).imp_right fun h => ⟨h.1, h.2.imp fun b hb => ⟨hb.1, ?_⟩⟩
      intro k
      rw [hb.2]
      by_cases hk : k ∈ names
      · rw [if_pos hk, if_pos (List.mem_cons_of_mem _ hk), accepted_congr (hother k (hne k hk))]
      · rw [if_neg hk]
        by_cases hn : k = n
        · rw [hn, hself, if_pos List.mem_cons_self]
        · rw [hother k hn, if_neg fun hmem => (List.mem_cons.1 hmem).elim hn hk]

/-- What is not refused is accepted. -/
lemma accepted_isSome (hrefusal : m.refusal? bound n = none) (hn : (bound.get? n).isSome) :
    (m.accepted bound n).isSome := by
  obtain ⟨a, ha⟩ := Option.isSome_iff_exists.1 hn
  rw [refusal?, ha, Option.bind_some] at hrefusal
  rw [accepted, ha, Option.bind_some]
  cases hjudged : m.judged n a with
  | ok b => rfl
  | error e =>
    rw [hjudged] at hrefusal
    cases hrefusal

section Filled

variable (hs : m.signature.Proper)

include hs

/-- An argument that has been bound is not filled in. -/
lemma get?_fill_of_mem (hkeys : (own.map Prod.fst).Sublist m.signature.names) (hn : n ∈ own.map Prod.fst) :
    (m.signature.fill own).get? n = own.get? n := by
  obtain ⟨a, ha⟩ := Option.isSome_iff_exists.1 (Arguments.isSome_get?_of_mem hn)
  rw [Signature.get?_fill hs.names, if_pos (hkeys.subset hn), ha, Option.some_or]

/-- An argument that has not been bound is filled in just as a parameter holds it. -/
lemma get?_fill_of_not_mem (hn : n ∉ own.map Prod.fst) : (m.signature.fill own).get? n = m.held own n := by
  have hfree := Arguments.get?_eq_none_iff.2 hn
  rw [held, Signature.get?_fill hs.names, accepted, hfree, Option.bind_none, Option.none_or]
  by_cases hmem : n ∈ m.signature.names
  · rw [if_pos hmem]
  · rw [if_neg hmem, Signature.default?_of_not_mem hmem, Signature.emptyRest?_of_not_mem hmem]
    rfl

end Filled

/-- An argument that has been bound and is not refused is held as it has been accepted. -/
lemma held_of_mem (hn : n ∈ own.map Prod.fst) (hrefusal : m.refusal? own n = none) :
    m.accepted own n = m.held own n := by
  obtain ⟨a, ha⟩ := Option.isSome_iff_exists.1 (accepted_isSome hrefusal (Arguments.isSome_get?_of_mem hn))
  rw [held, ha, Option.some_or]

/-- A call raises the first refusal of an argument that it passes, and otherwise hands on what has been accepted, with
the defaults for the rest. -/
lemma call_cases (hm : m.Choosable) (hs : m.signature.Proper) (ho : m.signature.Ordered)
    (hbind : m.signature.bind c = .ok own) :
    (∃ r, (m.refusals own).head? = some r ∧ m.call c = .error r.2) ∨
      (m.refusals own = [] ∧ ∃ b, m.call c = m.signature.call b ∧ ∀ k, b.get? k = m.held own k) := by
  have hkeys := Signature.keys_bind ho hbind
  have hget : ∀ k ∈ own.map Prod.fst, (m.signature.fill own).get? k = own.get? k := by
    intro k hk
    exact get?_fill_of_mem hs hkeys hk
  have hfirst : (own.map Prod.fst).findSome? (m.refusal? (m.signature.fill own)) =
      (m.refusals own).head?.map Prod.snd := by
    rw [head?_refusals, findSome?_refusal_congr hget]
    refine findSome?_sublist hkeys hs.names fun k _ hk => ?_
    rw [refusal?, Arguments.get?_eq_none_iff.2 hk]
    rfl
  have hcall : m.call c = (m.validateAll (own.map Prod.fst) (m.signature.fill own)) >>= m.signature.call := by
    rw [call, hbind]
    rfl
  rw [hcall]
  obtain ⟨e, he, hvalidate⟩ | ⟨hnone, b, hvalidate, hb⟩ :=
    validateAll_cases hm (hs.names.sublist hkeys) (m.signature.fill own)
  · obtain ⟨r, hr, rfl⟩ := Option.map_eq_some_iff.1 (hfirst.symm.trans he)
    exact .inl ⟨r, hr, by rw [hvalidate]; rfl⟩
  · have hempty := Option.map_eq_none_iff.1 (hfirst.symm.trans hnone)
    refine .inr ⟨List.head?_eq_none_iff.1 hempty, b, by rw [hvalidate]; rfl, fun k => ?_⟩
    rw [hb]
    split
    next hk =>
      have hrefusal := (refusal?_congr (hget k hk)).symm.trans (List.findSome?_eq_none_iff.1 hnone k hk)
      rw [accepted_congr (hget k hk), held_of_mem hk hrefusal]
    next hk => exact get?_fill_of_not_mem hs hk

/-! ### Changes of defaults -/

section Changed

variable {defaults : String → Option Argument} (h : m.Changed next defaults)

include h

lemma judged_changed (n : String) (a : Argument) : next.judged n a = m.judged n a := by
  rw [judged, judged, h.validator?]

lemma refusal?_changed (bound : Arguments) (n : String) : next.refusal? bound n = m.refusal? bound n := by
  rw [refusal?, refusal?]
  exact congrArg _ (funext fun a => by rw [judged_changed h])

lemma refusals_changed (bound : Arguments) : next.refusals bound = m.refusals bound := by
  rw [refusals, refusals, h.names]
  congr 1
  funext x
  rw [refusal?_changed h]

lemma accepted_changed (bound : Arguments) (n : String) : next.accepted bound n = m.accepted bound n := by
  rw [accepted, accepted]
  exact congrArg _ (funext fun a => by rw [judged_changed h])

lemma choosable_changed (hm : m.Choosable) (hd : ∀ n, (m.signature.default? n).isSome → (defaults n).isSome) :
    next.Choosable where
  named p hp hmanaged := by
    obtain ⟨q, hq, halike⟩ := exists_mem_of_forall₂ (Signature.alike_of_shape h.shape.symm) hp
    rw [h.validator?, ← halike.1] at hmanaged
    rw [← halike.isNamed]
    exact hm.named q hq hmanaged
  valued n hn hmanaged := by
    rw [h.names] at hn
    rw [h.validator?] at hmanaged
    rw [h.default?]
    exact hd n (hm.valued n hn hmanaged)
  alone n v hv := hm.alone n v (h.validator? n ▸ hv)

end Changed

end Managed

end Coercion
