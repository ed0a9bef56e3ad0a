import Coercion.Proofs.Settings.Governed
import Coercion.Proofs.Settings.Isolated
import Coercion.Proofs.Settings.Validated
import Coercion.Settings.Stock

/-!
Choosing values for the managed arguments of a call. They can be passed with the call, or they can be assigned before
it. A call validates all managed arguments that it passes, in the order of the parameters. An assignment validates its
value at once. If nothing is refused, the function gets the same in both ways.
-/

namespace Coercion

namespace SharedFunction

open Adjustment (runOn)

variable {f : SharedFunction} {t : Nat} {n : AttributeName} {v : Validator} {a b : Argument} {e : Failure}
  {given : List (AttributeName × Input)}

/-- Values for arguments, as bound ones. -/
def chosen (given : List (AttributeName × Input)) : Arguments :=
  given.map fun x => (x.1.text, .single x.2)

/-- Values for arguments, as ones that are passed by name. -/
def inputs (given : List (AttributeName × Input)) : List (String × Input) :=
  given.map fun x => (x.1.text, x.2)

/-- Values for arguments, as assignments. -/
def assignments (given : List (AttributeName × Input)) : List Operation :=
  given.map fun x => .use (.assign x.1 (.single x.2))

lemma get?_chosen_self (x : AttributeName × Input) : (chosen (x :: given)).get? x.1.text = some (.single x.2) := by
  rw [chosen, List.map_cons, Arguments.get?_cons, if_pos rfl]

lemma get?_chosen_cons {x : AttributeName × Input} {n : String} (hn : n ≠ x.1.text) :
    (chosen (x :: given)).get? n = (chosen given).get? n := by
  rw [chosen, List.map_cons, Arguments.get?_cons, if_neg hn, chosen]

lemma get?_chosen_of_not_mem {n : String} (h : n ∉ given.map fun x => x.1.text) : (chosen given).get? n = none := by
  rw [Arguments.get?_eq_none_iff, chosen, List.map_map]
  exact h

lemma lookup_inputs (given : List (AttributeName × Input)) (n : String) :
    ((inputs given).lookup n).map Argument.single = (chosen given).get? n := by
  induction given with
  | nil => rfl
  | cons x given ih =>
    rw [inputs, List.map_cons, lookup_cons_eq_ite, chosen, List.map_cons, Arguments.get?_cons]
    split
    · rfl
    · exact ih

/-! ### Assignments -/

lemma step_assign (hf : f.Tidy) (hv : f.properties.lookup n.text = some v) :
    f.step t (.use (.assign n a)) =
      ((runOn (f.managed t) (do Adjustment.assign n.text v a; return Answer.done)).1,
        f.withManaged t (runOn (f.managed t) (do Adjustment.assign n.text v a; return Answer.done)).2) :=
  step_of_adjustment hf (by rw [Use.adjustment, hv]; rfl)

/-- A value that is refused cannot be assigned. -/
lemma step_assign_error (hf : f.Tidy) (hv : f.properties.lookup n.text = some v)
    (hcheck : v.check a (f.managed t).settings = .error e) : (f.step t (.use (.assign n a))).1 = .error e := by
  rw [step_assign hf hv, runOn, run_bind_error _ (Adjustment.assign_error hcheck)]

/-- A value that is accepted becomes the default of an argument that has one. -/
lemma exists_step_assign (hf : f.Tidy) (hv : f.properties.lookup n.text = some v)
    (hcheck : v.check a (f.managed t).settings = .ok b) (hs : (f.managed t).signature.Proper)
    (hd : ((f.managed t).signature.default? n.text).isSome) :
    ∃ next, f.step t (.use (.assign n a)) = (.ok .done, f.withManaged t next) ∧
      (f.managed t).Changed next (Function.update (f.managed t).signature.default? n.text (some b)) := by
  rw [step_assign hf hv]
  obtain ⟨e, hset⟩ | ⟨next, hset, hchanged⟩ := Adjustment.setDefault_cases (f.managed t) n.text (some b)
  · have hmem : n.text ∈ (f.managed t).signature.names := by
      by_contra hnot
      rw [Signature.default?_of_not_mem hnot] at hd
      cases hd
    have hsome : (some b).isSome = ((f.managed t).signature.default? n.text).isSome := hd.symm
    obtain ⟨next, hok⟩ := Adjustment.exists_setDefault hs hmem hsome
    rw [hok] at hset
    cases hset
  · refine ⟨next, ?_, hchanged⟩
    rw [runOn, run_bind_ok _ ((Adjustment.assign_ok hcheck).trans hset)]
    rfl

section Series

variable {m next : Managed} {x : AttributeName × Input} {d : Option Argument}

/-- What is refused of further values does not depend on a default that has been changed before. -/
lemma findSome?_refusal?_changed (h : m.Changed next (Function.update m.signature.default? x.1.text d))
    (hx : x.1.text ∉ given.map fun x => x.1.text) :
    (given.map fun x => x.1.text).findSome? (next.refusal? (chosen given)) =
      (given.map fun x => x.1.text).findSome? (m.refusal? (chosen (x :: given))) := by
  rw [funext (Managed.refusal?_changed h (chosen given))]
  refine Managed.findSome?_refusal_congr ?_
  intro n hn
  have hne : n ≠ x.1.text := by
    intro heq
    exact hx (heq ▸ hn)
  exact (get?_chosen_cons hne).symm

/-- A value that has become a default stands beside what is accepted of further values. -/
lemma accepted_or_default_changed (h : m.Changed next (Function.update m.signature.default? x.1.text (some b)))
    (hjudged : m.judged x.1.text (.single x.2) = .ok b) (hx : x.1.text ∉ given.map fun x => x.1.text) (n : String) :
    (next.accepted (chosen given) n).or (next.signature.default? n) =
      (m.accepted (chosen (x :: given)) n).or (m.signature.default? n) := by
  rw [Managed.accepted_changed h, h.default?]
  by_cases hn : n = x.1.text
  · rw [hn, Function.update_self, Managed.accepted_of_ok (get?_chosen_self x) hjudged,
      Managed.accepted_of_none (get?_chosen_of_not_mem hx)]
    rfl
  · rw [Function.update_of_ne hn, Managed.accepted_congr (get?_chosen_cons hn)]

/-- Settings of which a default has been given another value can still be chosen. -/
lemma choosable_update (h : m.Changed next (Function.update m.signature.default? x.1.text (some b)))
    (hm : m.Choosable) :
    next.Choosable := by
  refine Managed.choosable_changed h hm ?_
  intro n hn
  by_cases heq : n = x.1.text
  · rw [heq, Function.update_self]
    rfl
  · rw [Function.update_of_ne heq]
    exact hn

end Series

/-- The first refusal ends a series of assignments. If nothing is refused, the values that have been accepted are the
defaults. -/
lemma carryOut_assignments (hf : f.Tidy) (hm : (f.managed t).Choosable) (hs : (f.managed t).signature.Proper)
    (hgiven : ∀ x ∈ given, x.1.text ∈ (f.managed t).signature.names ∧ ∃ v, (f.managed t).validator? x.1.text = some v ∧
      f.properties.lookup x.1.text = some v)
    (hnodup : (given.map fun x => x.1.text).Nodup) :
    (∃ e, (given.map fun x => x.1.text).findSome? ((f.managed t).refusal? (chosen given)) = some e ∧
        f.carryOut t (assignments given) = .error e) ∨
      ((given.map fun x => x.1.text).findSome? ((f.managed t).refusal? (chosen given)) = none ∧
        ∃ g, f.carryOut t (assignments given) = .ok g ∧
          (f.managed t).Changed (g.managed t) fun n =>
            ((f.managed t).accepted (chosen given) n).or ((f.managed t).signature.default? n)) := by
  induction given generalizing f with
  | nil => exact .inr ⟨rfl, f, rfl, .refl _⟩
  | cons x given ih =>
    obtain ⟨hx, hnodup⟩ := List.nodup_cons.1 hnodup
    obtain ⟨⟨hmem, v, hv, hproperty⟩, hgiven⟩ := List.forall_mem_cons.1 hgiven
    have hcheck := hm.check hv (.single x.2) (f.managed t).settings
    rw [List.map_cons, List.findSome?_cons]
    cases hjudged : (f.managed t).judged x.1.text (.single x.2) with
    | error e =>
      rw [Managed.refusal?_of_error (get?_chosen_self x) hjudged]
      exact .inl ⟨e, rfl, carryOut_cons_error (step_assign_error hf hproperty (hcheck.trans hjudged))⟩
    | ok b =>
      rw [Managed.refusal?_of_ok (get?_chosen_self x) hjudged]
      obtain ⟨next, hstep, hchanged⟩ := exists_step_assign hf hproperty (hcheck.trans hjudged) hs
        (hm.valued _ hmem (by rw [hv]; rfl))
      -- the further values are assigned to a function that is as good as the first one
      have hnext : (f.withManaged t next).managed t = next := managed_withManaged next
      have hgiven' : ∀ y ∈ given, y.1.text ∈ next.signature.names ∧ ∃ v, next.validator? y.1.text = some v ∧
          (f.withManaged t next).properties.lookup y.1.text = some v := by
        intro y hy
        rw [hchanged.names, hchanged.validator?, withManaged, properties_withSeat]
        exact hgiven y hy
      have hrest := ih (tidy_withManaged hf next) (hnext.symm ▸ choosable_update hchanged hm)
        (hnext.symm ▸ hchanged.proper hs) (hnext.symm ▸ hgiven') hnodup
      rw [hnext, findSome?_refusal?_changed hchanged hx, funext (accepted_or_default_changed hchanged hjudged hx),
        ← carryOut_cons_ok hstep] at hrest
      refine hrest.imp_right ?_
      intro h
      exact ⟨h.1, h.2.imp fun g hg => ⟨hg.1, hchanged.trans hg.2⟩⟩

/-! ### Calls with chosen values -/

/-- A call with further arguments by name. -/
def withInputs (c : Call) (given : List (AttributeName × Input)) : Call :=
  ⟨c.positional, c.named ++ inputs given⟩

/-- What comes of values that are assigned before something is done with the settings. -/
def afterAssigning {β : Type} (f : SharedFunction) (t : Nat) (given : List (AttributeName × Input))
    (use : Managed → Except Failure β) : Except Failure β := do
  let g ← f.carryOut t (assignments given)
  use (g.managed t)

/-- Whether values can be chosen beside what a call binds: for managed arguments that it leaves free, in the order of
the parameters. -/
structure Chooses (m : Managed) (own : Arguments) (given : List (AttributeName × Input)) : Prop where
  ordered : (given.map fun x => x.1.text).Sublist m.signature.names
  managed : ∀ x ∈ given, (m.validator? x.1.text).isSome
  free : ∀ x ∈ given, own.get? x.1.text = none

section Chosen

variable {s : Signature} {m : Managed} {c : Call} {own : Arguments}

/-- A call to which chosen values have been added. -/
lemma call_withInputs_cases (hm : m.Choosable) (hs : m.signature.Proper) (ho : m.signature.Ordered)
    (hbind : m.signature.bind c = .ok own) (h : Chooses m own given) :
    (∃ r, (m.refusals (own ++ chosen given)).head? = some r ∧ m.call (withInputs c given) = .error r.2) ∨
      (m.refusals (own ++ chosen given) = [] ∧ ∃ b, m.call (withInputs c given) = m.signature.call b ∧
        ∀ k, b.get? k = m.held (own ++ chosen given) k) := by
  have hplace : ∀ x ∈ inputs given, ∃ p ∈ m.signature.parameters, p.name = x.1 ∧ p.isNamed = true := by
    intro x hx
    obtain ⟨y, hy, rfl⟩ := List.mem_map.1 hx
    obtain ⟨p, hp, hname⟩ := List.mem_map.1 (h.ordered.subset (List.mem_map_of_mem hy) : y.1.text ∈ m.signature.names)
    exact ⟨p, hp, hname, hm.named p hp (hname ▸ h.managed y hy)⟩
  have hfree : ∀ x ∈ inputs given, own.get? x.1 = none := by
    intro x hx
    obtain ⟨y, hy, rfl⟩ := List.mem_map.1 hx
    exact h.free y hy
  obtain ⟨all, hall, hget⟩ := Signature.bind_append hs.names hbind hplace hfree
  have hget' : ∀ n, all.get? n = (own ++ chosen given).get? n := by
    intro n
    rw [hget, lookup_inputs, Arguments.get?_append]
  have hrefusals : m.refusals all = m.refusals (own ++ chosen given) := by
    rw [Managed.refusals, Managed.refusals]
    congr 1
    funext n
    rw [Managed.refusal?_congr (hget' n)]
  have hheld : ∀ k, m.held all k = m.held (own ++ chosen given) k := by
    intro k
    rw [Managed.held, Managed.held, Managed.accepted_congr (hget' k)]
  have hcall := Managed.call_cases hm hs ho hall
  simp only [hrefusals, hheld] at hcall
  exact hcall

/-- What is accepted of the call itself and of the chosen values. -/
lemma accepted_own_chosen (h : Chooses m own given) (n : String) :
    m.accepted (own ++ chosen given) n = (m.accepted own n).or (m.accepted (chosen given) n) := by
  rw [Managed.accepted, Arguments.get?_append]
  cases hown : own.get? n with
  | none =>
    rw [Managed.accepted_of_none hown, Option.none_or, Option.none_or]
    rfl
  | some a =>
    have hnot : n ∉ given.map fun x => x.1.text := by
      intro hmem
      obtain ⟨x, hx, rfl⟩ := List.mem_map.1 hmem
      rw [h.free x hx] at hown
      cases hown
    rw [Managed.accepted_of_none (get?_chosen_of_not_mem hnot), Option.or_none, Option.some_or, Managed.accepted, hown]

/-- A call after chosen values have been assigned. -/
lemma call_afterAssigning_cases (hf : f.Governed s) (ho : s.Ordered) (hm : (f.managed t).Choosable)
    (hbind : (f.managed t).signature.bind c = .ok own) (h : Chooses (f.managed t) own given) :
    (∃ r, ((f.managed t).refusals (chosen given)).head? = some r ∧ f.carryOut t (assignments given) = .error r.2) ∨
      ((f.managed t).refusals (chosen given) = [] ∧ ∃ g, f.carryOut t (assignments given) = .ok g ∧
        (g.managed t).name = (f.managed t).name ∧
          ((∃ r, ((f.managed t).refusals own).head? = some r ∧ (g.managed t).call c = .error r.2) ∨
            ((f.managed t).refusals own = [] ∧ ∃ b, (g.managed t).call c = (f.managed t).signature.call b ∧
              ∀ k, b.get? k = (f.managed t).held (own ++ chosen given) k))) := by
  have hgoverned := hf.managed t
  have hfirst : (given.map fun x => x.1.text).findSome? ((f.managed t).refusal? (chosen given)) =
      ((f.managed t).refusals (chosen given)).head?.map Prod.snd := by
    rw [Managed.head?_refusals]
    refine Managed.findSome?_sublist h.ordered hgoverned.proper.names fun k _ hk => ?_
    rw [Managed.refusal?, get?_chosen_of_not_mem hk]
    rfl
  have hgiven : ∀ x ∈ given, x.1.text ∈ (f.managed t).signature.names ∧
      ∃ v, (f.managed t).validator? x.1.text = some v ∧ f.properties.lookup x.1.text = some v := by
    intro x hx
    obtain ⟨v, hv⟩ := Option.isSome_iff_exists.1 (h.managed x hx)
    exact ⟨h.ordered.subset (List.mem_map_of_mem hx), v, hv, hgoverned.listed _ v hv⟩
  obtain ⟨e, he, hcarry⟩ | ⟨hnone, g, hcarry, hchanged⟩ := carryOut_assignments hf.tidy hm hgoverned.proper hgiven
    (hgoverned.proper.names.sublist h.ordered)
  · obtain ⟨r, hr, rfl⟩ := Option.map_eq_some_iff.1 (hfirst.symm.trans he)
    exact .inl ⟨r, hr, hcarry⟩
  · have hempty := List.head?_eq_none_iff.1 (Option.map_eq_none_iff.1 (hfirst.symm.trans hnone))
    refine .inr ⟨hempty, g, hcarry, hchanged.name, ?_⟩
    have hm' := Managed.choosable_changed hchanged hm fun n hn => by
      rw [Option.isSome_or, hn, Bool.or_true]
    have hcall := Managed.call_cases hm' (hchanged.proper hgoverned.proper)
      (Signature.ordered_of_shape ho (hchanged.shape.trans hgoverned.shape))
      (Signature.bind_of_shape hchanged.shape.symm hbind)
    rw [Managed.refusals_changed hchanged] at hcall
    refine hcall.imp_right fun hok => ⟨hok.1, hok.2.imp fun b hb => ⟨?_, ?_⟩⟩
    · rw [hb.1]
      exact Signature.call_congr (fun _ => rfl) hchanged.shape
    · intro k
      rw [hb.2, Managed.held, Managed.held, Managed.accepted_changed hchanged, hchanged.default?,
        Signature.emptyRest?_of_shape hchanged.shape, accepted_own_chosen h, Option.or_assoc, Option.or_assoc]

section Held

variable {p : Parameter} (hshape : m.signature.shape = s.shape) (h : Chooses m own given)
  (hrefusals : m.refusals (own ++ chosen given) = []) (hp : p ∈ s.parameters)

include hshape hrefusals hp

/-- Where nothing is refused, an argument that is given or has a default has a value. -/
lemma isSome_held (hthere : (own.get? p.name).isSome ∨ (m.signature.default? p.name).isSome) :
    (m.held (own ++ chosen given) p.name).isSome := by
  obtain ⟨q, hq, halike⟩ := exists_mem_of_forall₂ (Signature.alike_of_shape hshape) hp
  have hmem : p.name ∈ m.signature.names := halike.1 ▸ List.mem_map_of_mem hq
  have hrefusal : m.refusal? (own ++ chosen given) p.name = none :=
    Option.map_eq_none_iff.1 (List.filterMap_eq_nil_iff.1 hrefusals p.name hmem)
  rw [Managed.held, Option.isSome_or, Option.isSome_or]
  obtain hown | hdefault := hthere
  · have hgiven : ((own ++ chosen given).get? p.name).isSome := by
      rw [Arguments.get?_append, Option.isSome_or, hown, Bool.true_or]
    rw [Managed.accepted_isSome hrefusal hgiven, Bool.true_or]
  · rw [hdefault, Bool.true_or, Bool.or_true]

omit hrefusals in
include h in
/-- A parameter for the rest is not managed. It holds what the call binds to it, or it is empty. -/
lemma exists_held_rest (hm : m.Choosable) (hproper : m.signature.Proper) (hs : s.names.Nodup)
    (hc : (c.named.map Prod.fst).Nodup) (hbind : s.bind c = .ok own) (htakes : p.takesOne = false) :
    ∃ a, m.held (own ++ chosen given) p.name = some a ∧ s.Holds p a := by
  obtain ⟨q, hq, halike⟩ := exists_mem_of_forall₂ (Signature.alike_of_shape hshape) hp
  have hfree : m.validator? p.name = none := by
    by_contra hmanaged
    rw [← halike.1] at hmanaged
    have hone := Parameter.takesOne_of_isNamed (hm.named q hq (Option.isSome_iff_ne_none.2 hmanaged))
    rw [halike.takesOne, htakes] at hone
    cases hone
  have hnot : p.name ∉ given.map fun x => x.1.text := by
    intro hx
    obtain ⟨x, hx, hname⟩ := List.mem_map.1 hx
    have hmanaged := h.managed x hx
    rw [hname, hfree] at hmanaged
    cases hmanaged
  rw [Managed.held, Managed.accepted_of_not_managed hfree, Arguments.get?_append, get?_chosen_of_not_mem hnot,
    Option.or_none]
  cases hown : own.get? p.name with
  | some a => exact ⟨a, rfl, Signature.holds_of_bind hs hc hbind hp hown⟩
  | none =>
    have hdefault : m.signature.default? p.name = none := by
      rw [← halike.1, Signature.default?_of_mem hproper.names hq]
      exact Signature.default?_of_takesRest hproper hq (halike.takesOne.trans htakes)
    obtain ⟨a, ha, hholds⟩ := Signature.exists_emptyRest (s := s) htakes
    rw [hdefault, Signature.emptyRest?_of_shape hshape, Signature.emptyRest?_of_mem hs hp, ha]
    exact ⟨a, rfl, hholds⟩

end Held

/-- What the function gets where nothing is refused and nothing is lacking. -/
lemma exists_received (hm : m.Choosable) (hproper : m.signature.Proper) (hshape : m.signature.shape = s.shape)
    (hs : s.Proper) (ho : s.Ordered) (hc : (c.named.map Prod.fst).Nodup) (hbind : s.bind c = .ok own)
    (h : Chooses m own given) (hrefusals : m.refusals (own ++ chosen given) = [])
    (hthere : ∀ p ∈ s.parameters, p.takesOne = true →
      (own.get? p.name).isSome ∨ (m.signature.default? p.name).isSome)
    {b : Arguments} (hheld : ∀ k, b.get? k = m.held (own ++ chosen given) k) :
    ∃ passed received, m.signature.call b = .ok passed ∧ s.complete m.name passed = .ok received ∧
      ∀ p ∈ s.parameters,
        (∃ a, m.held (own ++ chosen given) p.name = some a ∧ received.get? p.name = some (p.received a)) ∧
          (m.validator? p.name = none → ∀ a, own.get? p.name = some a → received.get? p.name = some a) := by
  have hexists : ∀ p ∈ s.parameters,
      ∃ a, m.held (own ++ chosen given) p.name = some a ∧ (p.takesOne = false → s.Holds p a) := by
    intro p hp
    cases htakes : p.takesOne with
    | true =>
      obtain ⟨a, ha⟩ := Option.isSome_iff_exists.1 (isSome_held hshape hrefusals hp (hthere p hp htakes))
      exact ⟨a, ha, fun hfalse => by cases hfalse⟩
    | false =>
      obtain ⟨a, ha, hholds⟩ := exists_held_rest hshape h hp hm hproper hs.names hc hbind htakes
      exact ⟨a, ha, fun _ => hholds⟩
  obtain ⟨passed, received, hpassed, hcomplete, hreceived⟩ := Signature.complete_call m.name hs ho fun p hp =>
    (hheld p.name).symm ▸ hexists p hp
  have hcall : m.signature.call b = s.call b := Signature.call_congr (fun _ => rfl) hshape
  refine ⟨passed, received, hcall.trans hpassed, hcomplete, fun p hp => ⟨?_, ?_⟩⟩
  · obtain ⟨a, ha, -⟩ := hexists p hp
    exact ⟨a, ha, hreceived p hp a ((hheld p.name).trans ha)⟩
  · intro hfree a ha
    have hown : m.held (own ++ chosen given) p.name = some a := by
      rw [Managed.held, Managed.accepted_of_not_managed hfree, Arguments.get?_append, ha, Option.some_or,
        Option.some_or]
    rw [hreceived p hp a ((hheld p.name).trans hown)]
    exact congrArg some (Parameter.received_of_holds (Signature.holds_of_bind hs.names hc hbind hp ha))

/-- Where no chosen value is refused, only values of the call itself can be. -/
lemma refusals_own_chosen (h : m.refusals (chosen given) = []) : m.refusals (own ++ chosen given) = m.refusals own := by
  rw [Managed.refusals, Managed.refusals]
  refine List.filterMap_congr ?_
  intro n hn
  have hnone : m.refusal? (chosen given) n = none := by
    have hmap := List.filterMap_eq_nil_iff.1 h n hn
    rwa [Option.map_eq_none_iff] at hmap
  rw [Managed.refusal?, Arguments.get?_append, Managed.refusal?]
  cases hown : own.get? n with
  | none => rw [Option.none_or, ← Managed.refusal?, hnone, Option.bind_none]
  | some a => rw [Option.some_or]

/-- Whether a value that the call passes itself is refused before all refused chosen ones. -/
def Preempted (m : Managed) (own chosen : Arguments) : Prop :=
  m.refusals chosen ≠ [] ∧ (m.refusals chosen).head? ≠ (m.refusals (own ++ chosen)).head?

lemma head?_of_not_preempted {values : Arguments} (hnot : ¬ Preempted m own values) {r : String × Failure}
    (hr : (m.refusals values).head? = some r) : (m.refusals (own ++ values)).head? = some r := by
  by_contra hne
  refine hnot ⟨?_, fun heq => hne (heq.symm.trans hr)⟩
  intro hnil
  rw [hnil] at hr
  cases hr

/-- What holds of values that are chosen for a call of a function with a signature. -/
structure Interchangeable (f : SharedFunction) (s : Signature) (t : Nat) (c : Call) (own : Arguments)
    (given : List (AttributeName × Input)) : Prop where
  /-- It makes no difference whether they are passed or assigned before, unless they are preempted. -/
  same : ¬ Preempted (f.managed t) own (chosen given) → ∀ {β : Type} (function : String → Call → Except Failure β),
    f.afterAssigning t given (fun m => m.call c >>= function m.name) =
      (f.managed t).call (withInputs c given) >>= function (f.managed t).name
  /-- The assignments raise the first refusal of a chosen value. -/
  refusedAssignment : ∀ r, ((f.managed t).refusals (chosen given)).head? = some r →
    ∀ {β : Type} (use : Managed → Except Failure β), f.afterAssigning t given use = .error r.2
  /-- The call raises the first refusal of any value that is passed. -/
  refusedCall : ∀ r, ((f.managed t).refusals (own ++ chosen given)).head? = some r →
    (f.managed t).call (withInputs c given) = .error r.2
  /-- If nothing is refused and nothing is lacking, the function gets what has been accepted and the defaults, and of
  what is not managed just what has been passed. -/
  received : (f.managed t).refusals (own ++ chosen given) = [] → (c.named.map Prod.fst).Nodup →
    (∀ p ∈ s.parameters, p.takesOne = true →
      (own.get? p.name).isSome ∨ ((f.managed t).signature.default? p.name).isSome) →
    ∃ passed received, (f.managed t).call (withInputs c given) = .ok passed ∧
      s.complete (f.managed t).name passed = .ok received ∧
        ∀ p ∈ s.parameters,
          (∃ a, (f.managed t).held (own ++ chosen given) p.name = some a ∧ received.get? p.name = some (p.received a)) ∧
            ((f.managed t).validator? p.name = none → ∀ a, own.get? p.name = some a → received.get? p.name = some a)

lemma afterAssigning_error {β : Type} {e : Failure} (h : f.carryOut t (assignments given) = .error e)
    (use : Managed → Except Failure β) : f.afterAssigning t given use = .error e := by
  rw [afterAssigning, h]
  rfl

lemma afterAssigning_ok {β : Type} {g : SharedFunction} (h : f.carryOut t (assignments given) = .ok g)
    (use : Managed → Except Failure β) : f.afterAssigning t given use = use (g.managed t) := by
  rw [afterAssigning, h]
  rfl

section Outcome

variable {α : Type} {refusals : List (String × Failure)} {outcome : Except Failure α} {p : Prop}
  (h : (∃ r, refusals.head? = some r ∧ outcome = .error r.2) ∨ (refusals = [] ∧ p))

include h

/-- The first refusal is raised. -/
lemma outcome_of_head? {r : String × Failure} (hr : refusals.head? = some r) : outcome = .error r.2 := by
  obtain ⟨r', hr', herror⟩ | ⟨hnil, -⟩ := h
  · rw [herror, Option.some.inj (hr.symm.trans hr')]
  · rw [hnil] at hr
    cases hr

lemma outcome_of_nil (hnil : refusals = []) : p := by
  obtain ⟨r, hr, -⟩ | ⟨-, hp⟩ := h
  · rw [hnil] at hr
    cases hr
  · exact hp

end Outcome

/-- Values can be chosen for any call that can be bound. -/
lemma interchangeable_of_governed (hf : f.Governed s) (hs : s.Proper) (ho : s.Ordered) (hm : (f.managed t).Choosable)
    (hbind : (f.managed t).signature.bind c = .ok own) (h : Chooses (f.managed t) own given) :
    Interchangeable f s t c own given := by
  have hgoverned := hf.managed t
  have hcall := call_withInputs_cases hm hgoverned.proper (Signature.ordered_of_shape ho hgoverned.shape) hbind h
  have hassigned := call_afterAssigning_cases hf ho hm hbind h
  constructor
  case same =>
    intro hnot β function
    obtain ⟨r, hr, hcarry⟩ | ⟨hempty, g, hcarry, hname, hafter⟩ := hassigned
    · rw [afterAssigning_error hcarry, outcome_of_head? hcall (head?_of_not_preempted hnot hr)]
      rfl
    · rw [refusals_own_chosen hempty] at hcall
      rw [afterAssigning_ok hcarry, hname]
      obtain ⟨r, hr, herror⟩ | ⟨hnil, b, hb, hheld⟩ := hafter
      · rw [herror, outcome_of_head? hcall hr]
      · obtain ⟨b', hb', hheld'⟩ := outcome_of_nil hcall hnil
        rw [hb, hb', Signature.call_congr (fun n => (hheld n).trans (hheld' n).symm) rfl]
  case refusedAssignment =>
    intro r hr β use
    exact afterAssigning_error (outcome_of_head? hassigned hr) use
  case refusedCall =>
    intro r hr
    exact outcome_of_head? hcall hr
  case received =>
    intro hrefusals hc hthere
    obtain ⟨b, hb, hheld⟩ := outcome_of_nil hcall hrefusals
    rw [hb]
    exact exists_received hm hgoverned.proper hgoverned.shape hs ho hc (Signature.bind_of_shape hgoverned.shape hbind) h
      hrefusals hthere hheld

end Chosen

end SharedFunction

/-! ### The managed functions of the engine -/

namespace EngineFunction

open SharedFunction

variable (k : EngineFunction)

lemma proper_signature : k.signature.Proper := by
  cases k <;> exact ⟨by decide, by decide⟩

lemma ordered_signature : k.signature.Ordered := by
  cases k <;> unfold Signature.Ordered <;> decide

lemma properties_shared : k.shared.properties = k.validators.map fun v => (v.name, v) := by
  cases k <;> rfl

lemma governed_shared : k.shared.Governed k.signature := by
  have hshared : k.shared = (create k.name k.signature [] 0).run
      (k.validators.map fun v => (0, .register (.validator v) none none)) := by
    cases k <;> rfl
  rw [hshared]
  exact governed_run (governed_create k.name k.proper_signature [] 0) _

/-- The settings of the engine can be chosen. -/
lemma choosable_of_validator {v : Validator} (hv : v ∈ k.validators) :
    (k.signature.default? v.name).isSome ∧ (∀ p ∈ k.signature.parameters, p.name = v.name → p.isNamed = true) ∧
      ∀ a x y, v.check a x = v.check a y := by
  cases k with
  | cast =>
    obtain rfl := List.mem_singleton.1 hv
    exact ⟨rfl, by decide, fun _ _ _ => rfl⟩
  | combine =>
    obtain rfl | hv := List.mem_cons.1 hv
    · exact ⟨rfl, by decide, fun _ _ _ => rfl⟩
    · obtain rfl := List.mem_singleton.1 hv
      exact ⟨rfl, by decide, fun _ _ _ => rfl⟩
  | commonType =>
    obtain rfl := List.mem_singleton.1 hv
    exact ⟨rfl, by decide, fun _ _ _ => rfl⟩

/-- No use of a function makes its settings others than those that can be chosen. -/
lemma choosable_run (turns : List (Nat × Use)) (t : Nat) : ((k.shared.run (uses turns)).managed t).Choosable := by
  have hf := governed_run k.governed_shared (uses turns)
  have hm := hf.managed t
  have hlisted : ∀ n v, ((k.shared.run (uses turns)).managed t).validator? n = some v →
      n = v.name ∧ v ∈ k.validators := by
    intro n v hv
    have hproperty := hm.listed n v hv
    rw [properties_run k.governed_shared.tidy, properties_shared] at hproperty
    obtain ⟨w, hw, heq⟩ := List.mem_map.1 (mem_of_lookup hproperty)
    obtain ⟨rfl, rfl⟩ := Prod.mk.inj heq
    exact ⟨rfl, hw⟩
  constructor
  case named =>
    intro p hp hmanaged
    obtain ⟨v, hv⟩ := Option.isSome_iff_exists.1 hmanaged
    obtain ⟨hname, hlist⟩ := hlisted p.name v hv
    obtain ⟨q, hq, halike⟩ := exists_mem_of_forall₂ (Signature.alike_of_shape hm.shape.symm) hp
    rw [← halike.isNamed]
    exact (k.choosable_of_validator hlist).2.1 q hq (halike.1.trans hname)
  case valued =>
    intro n _ hmanaged
    obtain ⟨v, hv⟩ := Option.isSome_iff_exists.1 hmanaged
    obtain ⟨rfl, hlist⟩ := hlisted n v hv
    exact hm.valued v.name (hm.first v.name (k.choosable_of_validator hlist).1)
  case alone =>
    intro n v hv
    exact (k.choosable_of_validator (hlisted n v hv).2).2.2

end EngineFunction

/-- What comes of a call of a managed function of an engine. -/
def Engine.called (e : Engine) (k : EngineFunction) (m : Managed) (c : Call) : Except Failure (Reported ⊕ VectorType) :=
  match k with
  | .cast => (e.callCast m c).map .inl
  | .combine => (e.callCombine m c).map .inl
  | .commonType => (e.callCommonType m c).map .inr

/-- What is made of what a function does with the call that is passed on to it. -/
lemma exists_map_call {α β : Type} {start : Managed → Call → Except Failure α}
    (h : ∃ function : String → Call → Except Failure α, ∀ m c, start m c = m.call c >>= function m.name)
    (image : α → β) :
    ∃ function : String → Call → Except Failure β, ∀ m c, (start m c).map image = m.call c >>= function m.name := by
  obtain ⟨function, h⟩ := h
  refine ⟨fun name passed => (function name passed).map image, ?_⟩
  intro m c
  rw [h]
  cases m.call c <;> rfl

/-- A managed function of an engine does something with the call that is passed on to it. -/
lemma Engine.exists_called (e : Engine) (k : EngineFunction) :
    ∃ function : String → Call → Except Failure (Reported ⊕ VectorType),
      ∀ m c, e.called k m c = m.call c >>= function m.name := by
  have hcast : ∃ function : String → Call → Except Failure Reported,
      ∀ m c, e.callCast m c = m.call c >>= function m.name :=
    ⟨fun name passed => EngineFunction.cast.signature.complete name passed >>= fun bound =>
      e.cast (EngineFunction.rule bound "lossy") (EngineFunction.single bound "value").toData
        (EngineFunction.single bound "target").toSpecifier, fun _ _ => rfl⟩
  have hcombine : ∃ function : String → Call → Except Failure Reported,
      ∀ m c, e.callCombine m c = m.call c >>= function m.name :=
    ⟨fun name passed => EngineFunction.combine.signature.complete name passed >>= fun bound =>
      EngineFunction.several bound "values" >>= fun values => EngineFunction.flag bound "strict" >>= fun strict =>
        e.combine strict (EngineFunction.rule bound "lossy")
          (EngineFunction.openSpecifier (EngineFunction.single bound "target")) (values.map Input.toData),
      fun _ _ => rfl⟩
  have hcommonType : ∃ function : String → Call → Except Failure VectorType,
      ∀ m c, e.callCommonType m c = m.call c >>= function m.name :=
    ⟨fun name passed => EngineFunction.commonType.signature.complete name passed >>= fun bound =>
      EngineFunction.several bound "types" >>= fun types => EngineFunction.flag bound "strict" >>= fun strict =>
        e.commonType strict (types.map Input.toSpecifier), fun _ _ => rfl⟩
  cases k with
  | cast => exact exists_map_call hcast Sum.inl
  | combine => exact exists_map_call hcombine Sum.inl
  | commonType => exact exists_map_call hcommonType Sum.inr

namespace SharedFunction

/-- **Passing a value is assigning it.** Values for managed arguments that can be chosen may be passed with any call
that can be bound, or assigned before it: at every moment, in every thread, the function is given the same call or the
same refusal is raised, unless the call itself passes a value that is refused before all refused chosen ones. The
functions of the engine are such functions. -/
theorem interchangeable :
    (∀ (name : String) (s : Signature) (attributes : Arguments) (layers : Nat) (turns : List (Nat × Operation)) (t : Nat),
      let f := (create name s attributes layers).run turns
      s.Proper → s.Ordered → (f.managed t).Choosable →
        ∀ c own given, (f.managed t).signature.bind c = .ok own → Chooses (f.managed t) own given →
          Interchangeable f s t c own given) ∧
      ∀ (k : EngineFunction) (turns : List (Nat × Use)) (t : Nat),
        let f := k.shared.run (uses turns)
        ∀ c own given, (f.managed t).signature.bind c = .ok own → Chooses (f.managed t) own given →
          Interchangeable f k.signature t c own given ∧
            (¬ Preempted (f.managed t) own (chosen given) → ∀ e : Engine,
              f.afterAssigning t given (fun m => e.called k m c) = e.called k (f.managed t) (withInputs c given)) := by
  refine ⟨fun name s attributes layers turns t hs ho hm c own given hbind h => ?_,
    fun k turns t c own given hbind h => ?_⟩
  · exact interchangeable_of_governed (governed_run (governed_create name hs attributes layers) turns) hs ho hm hbind h
  · have hboth := interchangeable_of_governed (governed_run k.governed_shared (uses turns)) k.proper_signature
      k.ordered_signature (k.choosable_run turns t) hbind h
    refine ⟨hboth, fun hnot e => ?_⟩
    obtain ⟨function, hfunction⟩ := e.exists_called k
    simp only [hfunction]
    exact hboth.same hnot function

/-- Settings whose managed arguments all have one of some validators that look at nothing but the value. -/
lemma choosable_of_validators {m : Managed} (hnamed : ∀ p ∈ m.signature.parameters, (m.validator? p.name).isSome →
    p.isNamed = true)
    (hvalued : ∀ n ∈ m.signature.names, (m.validator? n).isSome → (m.signature.default? n).isSome)
    (halone : ∀ x ∈ m.validators, ∀ a y z, x.2.check a y = x.2.check a z) : m.Choosable := by
  refine ⟨hnamed, hvalued, ?_⟩
  intro n v hv
  exact halone (n, v) (mem_of_lookup hv)

/-- A validator of integers. -/
def integer : Validator :=
  .ofValues "int" fun v _ => return .int (← v.asInteger)

lemma xy_free : "x" ∉ fixedNames ∧ "y" ∉ fixedNames := by decide

/-- The function with two managed arguments, both of which have to be integers. -/
def twoIntegers : SharedFunction :=
  (StockFunction.opt.shared 0).run
    [(0, .register (.validator integer) (some (.text "x")) none),
      (0, .register (.validator integer) (some (.text "y")) none)]

lemma choosable_twoIntegers : (twoIntegers.managed 0).Choosable := by
  refine choosable_of_validators (by decide) (by decide) ?_
  have hvalidators : (twoIntegers.managed 0).validators = [("x", integer), ("y", integer)] := by rfl
  rw [hvalidators]
  simp [integer, Validator.ofValues]

/-- An integer that is given as a text is passed with a call, or it is assigned before. Two values are combined with a
setting turned off, or after it has been turned off. -/
theorem interchangeable_integers :
    let seven : List (AttributeName × Input) := [(⟨"y", xy_free.2⟩, .value (.text "7"))]
    let off : List (AttributeName × Input) := [(strictName, .value (.int 0))]
    let five : Call := ⟨[], [("z", .value (.int 5))]⟩
    let pair : Call := ⟨[.value (.int 1), .value (.text "a")], []⟩
    let f := EngineFunction.combine.shared.run (uses [])
    (twoIntegers.managed 0).Choosable ∧
      Interchangeable twoIntegers StockFunction.opt.signature 0 five [("z", .single (.value (.int 5)))] seven ∧
        ∀ e : Engine,
          f.afterAssigning 0 off (fun m => e.called .combine m pair) =
            e.called .combine (f.managed 0) (withInputs pair off) := by
  intro seven off five pair f
  have hproper : StockFunction.opt.signature.Proper := ⟨by decide, by decide⟩
  have hordered : StockFunction.opt.signature.Ordered := by
    unfold Signature.Ordered
    decide
  have hseven : Chooses (twoIntegers.managed 0) [("z", .single (.value (.int 5)))] seven :=
    ⟨by decide, by decide, by simp [seven, Arguments.get?]⟩
  have hoff : Chooses (f.managed 0) [("values", .rest [.value (.int 1), .value (.text "a")])] off :=
    ⟨by decide, by decide, by simp [off, strictName, Arguments.get?]⟩
  have hpair : (f.managed 0).signature.bind pair = .ok [("values", .rest [.value (.int 1), .value (.text "a")])] := by rfl
  refine ⟨choosable_twoIntegers, ?_, ?_⟩
  · exact interchangeable.1 "opt" StockFunction.opt.signature [("tag", .ofValue (.text "original"))] 0 _ 0 hproper
      hordered choosable_twoIntegers five _ seven (by rfl) hseven
  · refine (interchangeable.2 .combine [] 0 pair _ off hpair hoff).2 ?_
    rintro ⟨hne, -⟩
    exact hne (by rfl)

/-- A value that is not an integer is passed by position, and another one is chosen for the argument after it. The
call refuses the first, and the assignment the second. -/
theorem not_interchangeable :
    let given : List (AttributeName × Input) := [(⟨"y", xy_free.2⟩, .value (.text "b"))]
    let c : Call := ⟨[.value (.text "a")], []⟩
    let own : Arguments := [("x", .single (.value (.text "a")))]
    StockFunction.opt.signature.Proper ∧ StockFunction.opt.signature.Ordered ∧ (twoIntegers.managed 0).Choosable ∧
      (twoIntegers.managed 0).signature.bind c = .ok own ∧ Chooses (twoIntegers.managed 0) own given ∧
        twoIntegers.afterAssigning 0 given (fun m => m.call c) = .error (.notAnInteger "'b'") ∧
          (twoIntegers.managed 0).call (withInputs c given) = .error (.notAnInteger "'a'") := by
  have ha : Text.quoted "a" = "'a'" := by decide +kernel
  have hb : Text.quoted "b" = "'b'" := by decide +kernel
  rw [← ha, ← hb]
  refine ⟨⟨by decide, by decide⟩, ?_, choosable_twoIntegers, by rfl, ⟨by decide, by decide, ?_⟩, by rfl, by rfl⟩
  · unfold Signature.Ordered
    decide
  · simp [Arguments.get?]

end SharedFunction

end Coercion
