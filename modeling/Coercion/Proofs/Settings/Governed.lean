import Coercion.Proofs.Settings.Threads

/-!
What holds of the settings of every thread, whatever threads have done before. A thread validates what has been
registered, a default that nobody manages is still the first one, and an argument that has a first default always has
a value. Nothing changes what the parameters are called and how they are given.
-/

namespace Coercion

variable {s : Signature} {properties : List (String × Validator)} {defaults : String → Option Argument}
  {m next : Managed}

/-- Whether the settings of a thread are those of a function with the given signature and managed arguments. -/
structure Managed.GovernedBy (m : Managed) (s : Signature) (properties : List (String × Validator)) : Prop where
  proper : m.signature.Proper
  shape : m.signature.shape = s.shape
  listed : ∀ n v, m.validator? n = some v → properties.lookup n = some v
  untouched : ∀ n, properties.lookup n = none → m.signature.default? n = m.defaults.get? n
  valued : ∀ n, (m.defaults.get? n).isSome → (m.signature.default? n).isSome
  first : ∀ n, (s.default? n).isSome → (m.defaults.get? n).isSome

namespace Managed.GovernedBy

/-- A change of defaults of managed arguments that leaves a value where there is a first default. -/
lemma changed (hm : m.GovernedBy s properties) (h : m.Changed next defaults)
    (huntouched : ∀ n, properties.lookup n = none → defaults n = m.defaults.get? n)
    (hvalued : ∀ n, (m.defaults.get? n).isSome → (defaults n).isSome) : next.GovernedBy s properties where
  proper := h.proper hm.proper
  shape := h.shape.trans hm.shape
  listed n v hv := hm.listed n v (h.validator? n ▸ hv)
  untouched n hn := by rw [h.default?, h.first, huntouched n hn]
  valued n hn := by
    rw [h.first] at hn
    rw [h.default?]
    exact hvalued n hn
  first n hn := by
    rw [h.first]
    exact hm.first n hn

/-- A change of one default, of a managed argument. -/
lemma changed_one {name : String} {d : Option Argument} (hm : m.GovernedBy s properties)
    (h : m.Changed next (Function.update m.signature.default? name d)) (hname : (properties.lookup name).isSome)
    (hd : (m.defaults.get? name).isSome → d.isSome) : next.GovernedBy s properties := by
  refine hm.changed h ?_ ?_
  · intro n hn
    have hne : n ≠ name := by
      rintro rfl
      simp [hn] at hname
    rw [Function.update_of_ne hne, hm.untouched n hn]
  · intro n hn
    by_cases hne : n = name
    · subst hne
      rw [Function.update_self]
      exact hd hn
    · rw [Function.update_of_ne hne]
      exact hm.valued n hn

/-- A default that only parameters have is missing where there is no parameter. -/
lemma get?_of_not_mem (hm : m.GovernedBy s properties) {n : String} (hn : n ∉ m.signature.names) :
    m.defaults.get? n = none := by
  have hnone := Signature.default?_of_not_mem hn
  have hvalued := hm.valued n
  cases hfirst : m.defaults.get? n with
  | none => rfl
  | some a => simp [hfirst, hnone] at hvalued

lemma first_of_mem (hm : m.GovernedBy s properties) (n : String) :
    (if n ∈ m.signature.names then m.defaults.get? n else none) = m.defaults.get? n := by
  by_cases hn : n ∈ m.signature.names
  · rw [if_pos hn]
  · rw [if_neg hn, hm.get?_of_not_mem hn]

/-- A function of which one more argument is managed, seen by a thread that has not registered it. -/
lemma append (hm : m.GovernedBy s properties) (name : String) (v : Validator) :
    m.GovernedBy s (properties ++ [(name, v)]) where
  proper := hm.proper
  shape := hm.shape
  listed n w hw := by rw [List.lookup_append, hm.listed n w hw]; rfl
  untouched n hn := by
    rw [List.lookup_append, Option.or_eq_none_iff] at hn
    exact hm.untouched n hn.1
  valued := hm.valued
  first := hm.first

section Extended

variable {name n : String} {v : Validator} {first : Option Argument} (hm : m.GovernedBy s properties)
  (h : m.Extended next name v first)

include hm h

/-- What a thread validates after it has registered an argument is registered. -/
lemma listed_extended (hfree : properties.lookup name = none) {w : Validator} (hw : next.validator? n = some w) :
    (properties ++ [(name, v)]).lookup n = some w := by
  rw [h.validator?] at hw
  rw [List.lookup_append]
  cases hold : m.validator? n with
  | some u =>
    rw [hold, Option.some_or] at hw
    rw [hm.listed n u hold, Option.some_or, hw]
  | none =>
    rw [hold, Option.none_or] at hw
    split_ifs at hw with hn
    subst hn
    cases hw
    simp [hfree]

/-- An argument that has been registered without a default has the one that it had before, if any. -/
lemma valued_extended (hfirst : first = none → m.signature.default? name = none) (hn : (next.defaults.get? n).isSome) :
    (next.signature.default? n).isSome := by
  rw [h.first] at hn
  rw [h.default?]
  by_cases hne : n = name
  · subst hne
    rw [if_pos rfl] at hn
    rw [Function.update_self]
    cases first with
    | some d => rfl
    | none => exact hfirst rfl ▸ hm.valued n hn
  · rw [if_neg hne] at hn
    rw [Function.update_of_ne hne]
    exact hm.valued n hn

/-- A function of which one more argument is managed, seen by the thread that has registered it. -/
lemma extended (hfree : properties.lookup name = none) (hfirst : first = none → m.signature.default? name = none) :
    next.GovernedBy s (properties ++ [(name, v)]) where
  proper := h.proper hm.proper
  shape := h.shape.trans hm.shape
  listed n w hw := hm.listed_extended h hfree hw
  untouched n hn := by
    rw [List.lookup_append, Option.or_eq_none_iff] at hn
    have hne : n ≠ name := by
      rintro rfl
      simp at hn
    rw [h.default?, h.first, Function.update_of_ne hne, if_neg hne, hm.untouched n hn.1]
  valued n hn := hm.valued_extended h hfirst hn
  first n hn := by
    have hsome := hm.first n hn
    rw [h.first]
    by_cases hne : n = name
    · subst hne
      rw [if_pos rfl, Option.isSome_or, hsome, Bool.or_true]
    · rw [if_neg hne]
      exact hsome

end Extended

end Managed.GovernedBy

/-! ### Uses that change settings -/

namespace Adjustment

/-- An assignment changes a default to an accepted value, or nothing is changed. -/
lemma assign_cases (m : Managed) (name : String) (v : Validator) (a : Argument) :
    (∃ e, runOn m (assign name v a) = (.error e, m)) ∨
      ∃ b next, runOn m (assign name v a) = (.ok (), next) ∧
        m.Changed next (Function.update m.signature.default? name (some b)) := by
  cases hcheck : v.check a m.settings with
  | error e => exact .inl ⟨e, assign_error hcheck⟩
  | ok b =>
    rw [assign_ok hcheck]
    refine (setDefault_cases m name (some b)).imp_right ?_
    intro h
    exact ⟨b, h⟩

/-- A deletion changes a default to the first one, or nothing is changed. -/
lemma restore_cases (m : Managed) (name : String) :
    (∃ e, runOn m (restore name) = (.error e, m)) ∨
      ∃ next, runOn m (restore name) = (.ok (), next) ∧
        m.Changed next (Function.update m.signature.default? name (m.defaults.get? name)) := by
  cases hvalue : m.value name with
  | error e => exact .inl ⟨e, restore_error hvalue⟩
  | ok b =>
    rw [restore_ok hvalue]
    exact setDefault_cases m name (m.defaults.get? name)

end Adjustment

namespace SharedFunction

open Adjustment (runOn)

variable {f : SharedFunction} {t : Nat}

/-- Whether what holds of the settings of a thread holds of those of all threads. -/
structure Governed (f : SharedFunction) (s : Signature) : Prop where
  tidy : f.Tidy
  managed : ∀ t, (f.managed t).GovernedBy s f.properties

/-- Settings that an adjustment leaves as they are or changes to governed ones are governed after it. -/
lemma governedBy_done {x : Adjustment Unit} (hm : m.GovernedBy s properties)
    (h : (∃ e, runOn m x = (.error e, m)) ∨ ∃ next, runOn m x = (.ok (), next) ∧ next.GovernedBy s properties) :
    (runOn m (do x; return Answer.done)).2.GovernedBy s properties := by
  obtain ⟨e, hx⟩ | ⟨next, hx, hnext⟩ := h
  · rw [runOn, run_bind_error _ hx]
    exact hm
  · rw [runOn, run_bind_ok _ hx]
    exact hnext

/-- A use that is about settings keeps to what is registered. -/
lemma governedBy_adjustment (hm : m.GovernedBy s properties) {use : Use} {x : Adjustment Answer}
    (h : use.adjustment properties = some x) : (runOn m x).2.GovernedBy s properties := by
  cases use with
  | assign name a =>
    obtain ⟨v, hv, rfl⟩ := Option.map_eq_some_iff.1 h
    refine governedBy_done hm ((Adjustment.assign_cases m name.text v a).imp_right ?_)
    rintro ⟨b, next, hset, hchanged⟩
    exact ⟨next, hset, hm.changed_one hchanged (by simp [hv]) fun _ => rfl⟩
  | delete name =>
    obtain ⟨v, hv, rfl⟩ := Option.map_eq_some_iff.1 h
    refine governedBy_done hm ((Adjustment.restore_cases m name.text).imp_right ?_)
    rintro ⟨next, hset, hchanged⟩
    exact ⟨next, hset, hm.changed_one hchanged (by simp [hv]) id⟩
  | reset =>
    cases h
    refine governedBy_done hm ((Adjustment.reset_cases m).imp_right ?_)
    rintro ⟨next, hreset, hchanged⟩
    exact ⟨next, hreset, hm.changed hchanged (fun n _ => hm.first_of_mem n) fun n hn => (hm.first_of_mem n).symm ▸ hn⟩
  | read name =>
    obtain ⟨v, hv, rfl⟩ := Option.map_eq_some_iff.1 h
    rw [runOn, run_get_bind]
    cases m.value name.text <;> exact hm
  | settings =>
    cases h
    exact hm
  | call c =>
    cases h
    rw [runOn, run_get_bind]
    cases m.call c <;> exact hm

lemma not_hasEntered_withSeat {s : Seat} {u : Nat} (hne : u ≠ t) (hu : ¬ f.hasEntered u) :
    ¬ (f.withSeat t s).hasEntered u := by
  rw [hasEntered, not_or] at hu ⊢
  refine ⟨hu.1, ?_⟩
  rw [withSeat]
  by_cases ht : t = 0
  · rw [if_pos ht]
    exact hu.2
  · rw [if_neg ht, lookup_others_ne s hne]
    exact hu.2

/-- A thread has what it had before another one changed its settings, unless it starts from the creating thread's and
these have been changed. -/
lemma managed_withManaged_cases (f : SharedFunction) (t : Nat) (m : Managed) (u : Nat) :
    (f.withManaged t m).managed u = f.managed u ∨ (f.withManaged t m).managed u = m := by
  by_cases hu : u = t
  · subst hu
    exact .inr (managed_withManaged m)
  by_cases hentered : f.hasEntered u
  · left
    rw [managed, withManaged, seat_withSeat_of_ne hu hentered, managed]
  · have hlater : ¬ (f.withManaged t m).hasEntered u := not_hasEntered_withSeat hu hentered
    rw [managed_of_not_hasEntered hlater, managed_of_not_hasEntered hentered]
    by_cases ht : t = 0
    · subst ht
      exact .inr (managed_withManaged m)
    · left
      rw [managed, withManaged, seat_withSeat_of_ne (Ne.symm ht) (.inl rfl), managed]

/-- Settings of any thread are governed after one has changed its own to governed ones. -/
lemma governedBy_withManaged (hf : ∀ u, (f.managed u).GovernedBy s properties) (hm : m.GovernedBy s properties)
    (t u : Nat) :
    ((f.withManaged t m).managed u).GovernedBy s properties := by
  obtain hsame | hsame := managed_withManaged_cases f t m u
  · rw [hsame]
    exact hf u
  · rw [hsame]
    exact hm

/-- What holds of the settings of all threads still holds after an operation of one of them. -/
lemma governed_after (hf : f.Governed s) (turn : Nat × Operation) : (f.after turn).Governed s := by
  refine ⟨tidy_after hf.tidy turn, ?_⟩
  intro u
  obtain ⟨t, op⟩ := turn
  rw [after]
  cases op with
  | use use =>
    cases h : use.adjustment f.properties with
    | none =>
      have hbeside := beside_of_no_adjustment (t := t) h
      rw [hbeside.managed, hbeside.properties]
      exact hf.managed u
    | some x =>
      have hproperties : (f.withManaged t (runOn (f.managed t) x).2).properties = f.properties := properties_withSeat
      rw [step_of_adjustment hf.tidy h, hproperties]
      exact governedBy_withManaged hf.managed (governedBy_adjustment (hf.managed t) h) t u
  | register offer given d =>
    obtain ⟨e, hstep⟩ | ⟨name, v, first, next, hentry, hfirst, hextended, hstep⟩ := step_register_cases f t offer given d
    · have hbeside := beside_enter f t
      rw [hstep, hbeside.managed, hbeside.properties]
      exact hf.managed u
    · obtain ⟨-, -, -, htaken⟩ := of_entryOf hentry
      have hfree : f.properties.lookup name = none := by
        rw [isTaken] at htaken
        simp only [Bool.or_eq_false_iff] at htaken
        exact Option.not_isSome_iff_eq_none.1 (Bool.eq_false_iff.1 htaken.1.1.2)
      rw [hstep]
      have hmanaged :
          ({ f.withManaged t next with properties := f.properties ++ [(name, v)] } : SharedFunction).managed u =
            (f.withManaged t next).managed u := managed_congr rfl rfl u
      have hnext := (hf.managed t).extended hextended hfree (Managed.of_firstDefault hfirst).2.2
      rw [hmanaged]
      exact governedBy_withManaged (fun u => (hf.managed u).append name v) hnext t u

lemma governed_create (name : String) {s : Signature} (hs : s.Proper) (attributes : Arguments) (layers : Nat) :
    (create name s attributes layers).Governed s := by
  refine ⟨tidy_create name s attributes layers, ?_⟩
  intro t
  have hmanaged : (create name s attributes layers).managed t = .ofSignature name s := by
    by_cases ht : t = 0
    · rw [ht]
      rfl
    · refine managed_of_not_hasEntered ?_
      rintro (h | h)
      · exact ht h
      · cases h
  have hfirst : ∀ n, (Managed.defaultsOf s).get? n = s.default? n := Signature.get?_defaultsOf hs.names
  rw [hmanaged]
  exact ⟨hs, rfl, fun n v hv => (by cases hv), fun n _ => (hfirst n).symm, fun n hn => hfirst n ▸ hn,
    fun n hn => (hfirst n).symm ▸ hn⟩

/-- What holds of the settings of all threads holds at every moment. -/
lemma governed_run (hf : f.Governed s) (turns : List (Nat × Operation)) : (f.run turns).Governed s := by
  induction turns generalizing f with
  | nil => exact hf
  | cons turn turns ih => exact ih (governed_after hf turn)

/-! ### Operations that all have to go through -/

lemma carryOut_cons_ok {op : Operation} {ops : List Operation} {answer : Answer} {g : SharedFunction}
    (h : f.step t op = (.ok answer, g)) : f.carryOut t (op :: ops) = g.carryOut t ops := by
  rw [carryOut, h]

lemma carryOut_cons_error {op : Operation} {ops : List Operation} {e : Failure} (h : (f.step t op).1 = .error e) :
    f.carryOut t (op :: ops) = .error e := by
  rw [carryOut]
  split
  next heq => rw [heq] at h; cases h
  next heq => rw [heq] at h; cases h; rfl

end SharedFunction

end Coercion
