import Coercion.Proofs.Settings.Threads
import Coercion.Settings.Standard

/-!
The settings of a function that one thread uses, told from what has happened to them. The setting of an argument is what was
assigned to it last, unless it has been deleted or all settings have been reset since; else it is the default that it was
registered with. An operation that fails changes nothing.
-/

namespace Coercion

namespace SharedFunction

open Adjustment (runOn)

variable {f : SharedFunction} {m next : Managed} {n : String}

/-! ### Histories -/

/-- What happens to the setting of an argument. -/
inductive Change where
  /-- It is registered, with a validated default or without a default. -/
  | registered (first : Option Argument)
  /-- It is assigned a validated value. -/
  | assigned (a : Argument)
  /-- It is deleted, or all settings are reset. -/
  | cleared

/-- The default that an argument has been registered with. Histories have the latest change first. -/
def registeredDefault : List Change → Option Argument
  | [] => none
  | .registered first :: _ => first
  | .assigned _ :: earlier | .cleared :: earlier => registeredDefault earlier

/-- The setting of an argument with a history. -/
def settingAfter : List Change → Option Argument
  | [] => none
  | .registered first :: _ => first
  | .assigned a :: _ => some a
  | .cleared :: earlier => registeredDefault earlier

/-- What an operation that succeeds does to the setting of an argument. -/
def Operation.change (f : SharedFunction) (n : String) : Operation → Option Change
  | .use (.assign name a) =>
    if name.text = n then (((f.managed 0).validator? n).bind fun v => (f.managed 0).validated v a).map .assigned
    else none
  | .use (.delete name) => if name.text = n then some .cleared else none
  | .use .reset => some .cleared
  | .use (.read _) | .use .settings | .use (.call _) => none
  | .register offer given default? =>
    match f.entryOf 0 offer given with
    | .ok (name, v) =>
      if name = n then
        some (.registered ((default? <|> (f.managed 0).signature.default? n).bind ((f.managed 0).validated v)))
      else none
    | .error _ => none

/-- What an operation does to the setting of an argument. If it fails it does nothing. -/
def change (f : SharedFunction) (n : String) (op : Operation) : Option Change :=
  match (f.step 0 op).1 with
  | .ok _ => op.change f n
  | .error _ => none

/-- The history of the setting of an argument in a run of operations. -/
def history (n : String) (f : SharedFunction) : List Operation → List Change
  | [] => []
  | op :: ops => history n (f.after (0, op)) ops ++ (f.change n op).toList

/-! ### What a use does -/

/-- The defaults after a use of a managed function that nobody shares. -/
def Use.defaults (m : Managed) : Use → String → Option Argument
  | .assign name a => Function.update m.signature.default? name.text
      ((m.validator? name.text).bind fun v => m.validated v a)
  | .delete name => Function.update m.signature.default? name.text (m.defaults.get? name.text)
  | .reset => fun n => if n ∈ m.signature.names then m.defaults.get? n else none
  | .read _ | .settings | .call _ => m.signature.default?

/-- A use that is about settings changes the defaults in its own way, or nothing. -/
lemma adjustment_cases {use : Use} {x : Adjustment Answer} (h : use.adjustment m.validators = some x) :
    (∃ e, runOn m x = (.error e, m)) ∨
      ∃ answer next, runOn m x = (.ok answer, next) ∧ m.Changed next (use.defaults m) ∧
        ∀ name a, use = .assign name a → (use.defaults m name.text).isSome := by
  cases use with
  | assign name a =>
    obtain ⟨v, hv, rfl⟩ := Option.map_eq_some_iff.1 h
    have hvalidator : m.validator? name.text = some v := hv
    cases hcheck : v.check a m.settings with
    | error e => exact .inl ⟨e, run_bind_error _ (Adjustment.assign_error hcheck)⟩
    | ok b =>
      obtain ⟨e, hset⟩ | ⟨next, hset, hchanged⟩ := Adjustment.setDefault_cases m name.text (some b)
      · exact .inl ⟨e, run_bind_error _ ((Adjustment.assign_ok hcheck).trans hset)⟩
      · refine .inr ⟨.done, next, run_bind_ok _ ((Adjustment.assign_ok hcheck).trans hset), ?_⟩
        rw [Use.defaults, hvalidator, Option.bind_some, Managed.validated, hcheck]
        refine ⟨hchanged, fun other b heq => ?_⟩
        cases heq
        rw [Function.update_self]
        rfl
  | delete name =>
    obtain ⟨v, hv, rfl⟩ := Option.map_eq_some_iff.1 h
    cases hvalue : m.value name.text with
    | error e => exact .inl ⟨e, run_bind_error _ (Adjustment.restore_error hvalue)⟩
    | ok b =>
      obtain ⟨e, hset⟩ | ⟨next, hset, hchanged⟩ :=
        Adjustment.setDefault_cases m name.text (m.defaults.get? name.text)
      · exact .inl ⟨e, run_bind_error _ ((Adjustment.restore_ok hvalue).trans hset)⟩
      · · have hdone := (Adjustment.restore_ok hvalue).trans hset
          exact .inr ⟨.done, next, run_bind_ok _ hdone, hchanged, fun _ _ heq => by cases heq⟩
  | reset =>
    cases h
    obtain ⟨e, hreset⟩ | ⟨next, hreset, hchanged⟩ := Adjustment.reset_cases m
    · exact .inl ⟨e, run_bind_error _ hreset⟩
    · exact .inr ⟨.done, next, run_bind_ok _ hreset, hchanged, fun _ _ heq => by cases heq⟩
  | read name =>
    obtain ⟨v, hv, rfl⟩ := Option.map_eq_some_iff.1 h
    rw [runOn, run_get_bind]
    cases m.value name.text with
    | error e => exact .inl ⟨e, rfl⟩
    | ok b => exact .inr ⟨.value b, m, rfl, .refl m, fun _ _ heq => by cases heq⟩
  | settings =>
    cases h
    exact .inr ⟨.settings m.settings, m, rfl, .refl m, fun _ _ heq => by cases heq⟩
  | call c =>
    cases h
    rw [runOn, run_get_bind]
    cases m.call c with
    | error e => exact .inl ⟨e, rfl⟩
    | ok given => exact .inr ⟨.call given, m, rfl, .refl m, fun _ _ heq => by cases heq⟩

/-! ### Histories are right -/

/-- Whether a history of an argument tells its setting and its first default. An argument that is not managed has had neither,
and its default is still that of the signature. -/
structure Tracked (m : Managed) (n : String) (h : List Change) : Prop where
  managed : (m.validator? n).isSome → n ∈ m.signature.names ∧ m.signature.default? n = settingAfter h ∧
    m.defaults.get? n = registeredDefault h
  free : m.validator? n = none → settingAfter h = none ∧ registeredDefault h = none ∧
    m.signature.default? n = m.defaults.get? n

namespace Tracked

variable {h : List Change} {v : Validator} {first : Option Argument} {defaults : String → Option Argument}

/-- A change of other defaults. -/
lemma changed_other (ht : Tracked m n h) (hchanged : m.Changed next defaults)
    (hn : defaults n = m.signature.default? n) : Tracked next n h := by
  refine ⟨fun hvalidator => ?_, fun hvalidator => ?_⟩ <;>
    rw [hchanged.validator?] at hvalidator <;> rw [hchanged.default?, hchanged.first, hn]
  · rw [hchanged.names]
    exact ht.managed hvalidator
  · exact ht.free hvalidator

lemma changed_assigned (ht : Tracked m n h) (hchanged : m.Changed next defaults) (hv : m.validator? n = some v)
    {a : Argument} (hn : defaults n = some a) : Tracked next n (.assigned a :: h) := by
  obtain ⟨hmem, -, hfirst⟩ := ht.managed (by rw [hv]; rfl)
  refine ⟨fun _ => ⟨hchanged.names ▸ hmem, hchanged.default? ▸ hn, hchanged.first ▸ hfirst⟩, ?_⟩
  intro hnone
  rw [hchanged.validator?, hv] at hnone
  cases hnone

/-- The first default takes the place of the default. -/
lemma changed_cleared (ht : Tracked m n h) (hchanged : m.Changed next defaults)
    (hn : defaults n = m.defaults.get? n) : Tracked next n (.cleared :: h) := by
  refine ⟨fun hvalidator => ?_, fun hvalidator => ?_⟩ <;>
    rw [hchanged.validator?] at hvalidator <;> rw [hchanged.default?, hchanged.first, hn]
  · obtain ⟨hmem, -, hfirst⟩ := ht.managed hvalidator
    exact ⟨hchanged.names ▸ hmem, hfirst, hfirst⟩
  · obtain ⟨-, hfirst, -⟩ := ht.free hvalidator
    exact ⟨hfirst, hfirst, rfl⟩

lemma cleared_free (ht : Tracked m n h) (hv : m.validator? n = none) : Tracked m n (.cleared :: h) := by
  obtain ⟨-, hfirst, hdefault⟩ := ht.free hv
  refine ⟨?_, fun _ => ⟨hfirst, hfirst, hdefault⟩⟩
  intro hsome
  rw [hv] at hsome
  cases hsome

/-- The default of an argument that is not a parameter has never changed. -/
lemma default?_reset (ht : Tracked m n h) :
    (if n ∈ m.signature.names then m.defaults.get? n else none) = m.defaults.get? n := by
  by_cases hmem : n ∈ m.signature.names
  · rw [if_pos hmem]
  · rw [if_neg hmem]
    have hfree : m.validator? n = none :=
      Option.not_isSome_iff_eq_none.1 fun hsome => hmem (ht.managed hsome).1
    rw [← (ht.free hfree).2.2, Signature.default?_of_not_mem hmem]

lemma extended_self (ht : Tracked m n h) (hextended : m.Extended next n v first) (hv : m.validator? n = none)
    (hfirst : first = none → m.signature.default? n = none) : Tracked next n (.registered first :: h) := by
  have hsome : next.validator? n = some v := by
    rw [hextended.validator?, hv, if_pos rfl]
    rfl
  refine ⟨fun _ => ⟨hextended.names ▸ hextended.mem, ?_, ?_⟩, ?_⟩
  · rw [hextended.default?, Function.update_self]
    rfl
  · rw [hextended.first, if_pos rfl]
    cases first with
    | some d => rfl
    | none =>
      rw [Option.none_or, ← (ht.free hv).2.2, hfirst rfl]
      rfl
  · intro hnone
    rw [hsome] at hnone
    cases hnone

lemma extended_other {other : String} (ht : Tracked m n h) (hextended : m.Extended next other v first) (hn : n ≠ other) :
    Tracked next n h := by
  have hvalidator : next.validator? n = m.validator? n := by
    rw [hextended.validator?, if_neg hn, Option.or_none]
  have hdefault : next.signature.default? n = m.signature.default? n := by
    rw [hextended.default?, Function.update_of_ne hn]
  have hfirst : next.defaults.get? n = m.defaults.get? n := by
    rw [hextended.first, if_neg hn]
  exact ⟨fun hsome => by rw [hdefault, hfirst, hextended.names]; exact ht.managed (hvalidator ▸ hsome),
    fun hnone => by rw [hdefault, hfirst]; exact ht.free (hvalidator ▸ hnone)⟩

end Tracked

/-- What holds of a function at every moment, as long as only the thread uses it that created it. -/
structure Sound (f : SharedFunction) : Prop where
  tidy : f.Tidy
  properties : f.properties = (f.managed 0).validators
  proper : (f.managed 0).signature.Proper

lemma sound_create (name : String) {s : Signature} (hs : s.Proper) (attributes : Arguments) (layers : Nat) :
    (create name s attributes layers).Sound :=
  ⟨tidy_create name s attributes layers, rfl, hs⟩

/-- An operation of the creating thread that fails changes nothing; one that succeeds changes defaults in its own way, if it is
about settings at all. -/
lemma step_use_cases (hf : f.Sound) (use : Use) :
    (∃ e, f.step 0 (.use use) = (.error e, f)) ∨
      (∃ answer next, f.step 0 (.use use) = (.ok answer, f.withManaged 0 next) ∧
        (f.managed 0).Changed next (use.defaults (f.managed 0)) ∧
          (∀ name a, use = .assign name a → (use.defaults (f.managed 0) name.text).isSome) ∧
            (use.adjustment f.properties).isSome) ∨
      ∃ answer g, f.step 0 (.use use) = (.ok answer, g) ∧ Beside f g ∧ use.adjustment f.properties = none := by
  cases h : use.adjustment f.properties with
  | some x =>
    rw [step_of_adjustment hf.tidy h]
    obtain ⟨e, hrun⟩ | ⟨answer, next, hrun, hchanged, hassign⟩ := adjustment_cases (hf.properties ▸ h)
    · exact .inl ⟨e, by rw [hrun, withManaged_self, enter_zero]⟩
    · exact .inr (.inl ⟨answer, next, by rw [hrun], hchanged, hassign, rfl⟩)
  | none =>
    have hstep : f.step 0 (.use use) = Access.runOn f (use.access 0) := by
      rw [step, enter_zero, ite_self]
      rfl
    obtain ⟨hbeside, herror⟩ := access_of_no_adjustment (t := 0) h
    rw [hstep]
    cases hanswer : (Access.runOn f (use.access 0)).1 with
    | error e => exact .inl ⟨e, Prod.ext hanswer (herror e hanswer)⟩
    | ok answer => exact .inr (.inr ⟨answer, _, Prod.ext hanswer rfl, hbeside, rfl⟩)

lemma sound_withManaged (hf : f.Sound) {defaults : String → Option Argument}
    (hchanged : (f.managed 0).Changed next defaults) : (f.withManaged 0 next).Sound := by
  refine ⟨tidy_withManaged hf.tidy next, ?_, ?_⟩
  · rw [managed_withManaged, hchanged.validators, ← hf.properties]
    exact properties_withSeat
  · rw [managed_withManaged]
    exact hchanged.proper hf.proper

lemma sound_after (hf : f.Sound) (op : Operation) : (f.after (0, op)).Sound := by
  have htidy := tidy_after hf.tidy (0, op)
  rw [after] at htidy ⊢
  cases op with
  | use use =>
    obtain ⟨e, hstep⟩ | ⟨answer, next, hstep, hchanged, -⟩ | ⟨answer, g, hstep, hbeside, -⟩ := step_use_cases hf use
    · rw [hstep]
      exact hf
    · rw [hstep]
      exact sound_withManaged hf hchanged
    · rw [hstep] at htidy ⊢
      exact ⟨htidy, by rw [hbeside.properties, hbeside.managed, hf.properties], by rw [hbeside.managed]; exact hf.proper⟩
  | register offer given d =>
    obtain ⟨e, hstep⟩ | ⟨name, v, first, next, -, -, hextended, hstep⟩ := step_register_cases f 0 offer given d
    · rw [hstep, enter_zero]
      exact hf
    · rw [hstep] at htidy ⊢
      have hmanaged : ({ f.withManaged 0 next with properties := f.properties ++ [(name, v)] } : SharedFunction).managed 0 =
          next := managed_withManaged next
      refine ⟨htidy, ?_, ?_⟩
      · rw [hmanaged, hextended.validators, hf.properties]
      · rw [hmanaged]
        exact hextended.proper hf.proper

lemma change_of_error {op : Operation} {e : Failure} (h : (f.step 0 op).1 = .error e) (n : String) :
    f.change n op = none := by
  rw [change, h]

lemma change_of_ok {op : Operation} {answer : Answer} (h : (f.step 0 op).1 = .ok answer) (n : String) :
    f.change n op = op.change f n := by
  rw [change, h]

/-- A use that is about settings keeps the history right. -/
lemma tracked_changed (hf : f.Sound) {h : List Change} (ht : Tracked (f.managed 0) n h) {use : Use}
    (hchanged : (f.managed 0).Changed next (use.defaults (f.managed 0)))
    (hassign : ∀ name a, use = .assign name a → (use.defaults (f.managed 0) name.text).isSome)
    (hmanaged : (use.adjustment f.properties).isSome) :
    Tracked next n (((Operation.use use).change f n).toList ++ h) := by
  cases use with
  | assign name a =>
    by_cases hname : name.text = n
    · subst hname
      obtain ⟨v, hv⟩ := Option.isSome_iff_exists.1 (Option.isSome_map.symm.trans hmanaged)
      rw [hf.properties] at hv
      obtain ⟨b, hb⟩ := Option.isSome_iff_exists.1 (hassign name a rfl)
      have hvalidated : (((f.managed 0).validator? name.text).bind fun v => (f.managed 0).validated v a) = some b := by
        rw [← hb, Use.defaults, Function.update_self]
      rw [Operation.change, if_pos rfl, hvalidated]
      exact ht.changed_assigned hchanged hv hb
    · rw [Operation.change, if_neg hname]
      exact ht.changed_other hchanged (Function.update_of_ne (Ne.symm hname) _ _)
  | delete name =>
    by_cases hname : name.text = n
    · subst hname
      rw [Operation.change, if_pos rfl]
      exact ht.changed_cleared hchanged (Function.update_self _ _ _)
    · rw [Operation.change, if_neg hname]
      exact ht.changed_other hchanged (Function.update_of_ne (Ne.symm hname) _ _)
  | reset => exact ht.changed_cleared hchanged ht.default?_reset
  | read | settings | call => exact ht.changed_other hchanged rfl

/-- A use that is not about settings keeps the history right. -/
lemma tracked_beside (hf : f.Sound) {h : List Change} (ht : Tracked (f.managed 0) n h) {use : Use}
    (hnone : use.adjustment f.properties = none) : Tracked (f.managed 0) n (((Operation.use use).change f n).toList ++ h) := by
  rw [hf.properties] at hnone
  cases use with
  | reset | settings | call => cases hnone
  | assign name a =>
    rw [Operation.change]
    by_cases hname : name.text = n
    · subst hname
      rw [if_pos rfl, show (f.managed 0).validator? name.text = none from Option.map_eq_none_iff.1 hnone]
      exact ht
    · rw [if_neg hname]
      exact ht
  | delete name =>
    rw [Operation.change]
    by_cases hname : name.text = n
    · subst hname
      rw [if_pos rfl]
      exact ht.cleared_free (Option.map_eq_none_iff.1 hnone)
    · rw [if_neg hname]
      exact ht
  | read name => exact ht

/-- The history stays right in every operation. -/
lemma tracked_after (hf : f.Sound) {h : List Change} (ht : Tracked (f.managed 0) n h) (op : Operation) :
    Tracked ((f.after (0, op)).managed 0) n ((f.change n op).toList ++ h) := by
  rw [after]
  cases op with
  | use use =>
    obtain ⟨e, hstep⟩ | ⟨answer, next, hstep, hchanged, hassign, hmanaged⟩ | ⟨answer, g, hstep, hbeside, hnone⟩ :=
      step_use_cases hf use
    · rw [change_of_error (congrArg Prod.fst hstep), hstep]
      exact ht
    · rw [change_of_ok (congrArg Prod.fst hstep), hstep, managed_withManaged]
      exact tracked_changed hf ht hchanged hassign hmanaged
    · rw [change_of_ok (congrArg Prod.fst hstep), hstep, hbeside.managed]
      exact tracked_beside hf ht hnone
  | register offer given d =>
    obtain ⟨e, hstep⟩ | ⟨name, v, first, next, hentry, hfirst, hextended, hstep⟩ := step_register_cases f 0 offer given d
    · rw [change_of_error (congrArg Prod.fst hstep), hstep]
      exact ht
    · obtain ⟨-, -, hfree, -⟩ := of_entryOf hentry
      obtain ⟨-, hvalidated, hmissing⟩ := Managed.of_firstDefault hfirst
      rw [change_of_ok (congrArg Prod.fst hstep), hstep, Operation.change, hentry]
      have hmanaged : ({ f.withManaged 0 next with properties := f.properties ++ [(name, v)] } : SharedFunction).managed 0 =
          next := managed_withManaged next
      rw [hmanaged]
      dsimp only
      by_cases hname : name = n
      · subst hname
        rw [if_pos rfl, ← hvalidated]
        exact ht.extended_self hextended hfree hmissing
      · rw [if_neg hname]
        exact ht.extended_other hextended (Ne.symm hname)

/-! ### Runs -/

/-- Operations of the thread that created the function. -/
def byCreator (ops : List Operation) : List (Nat × Operation) :=
  ops.map fun op => (0, op)

lemma tracked_create (name : String) {s : Signature} (hs : s.Proper) (attributes : Arguments) (layers : Nat)
    (n : String) : Tracked ((create name s attributes layers).managed 0) n [] := by
  refine ⟨fun h => ?_, fun _ => ⟨rfl, rfl, (Signature.get?_defaultsOf hs.names n).symm⟩⟩
  cases h

/-- From a moment at which the histories are right they are right at every later one. -/
lemma tracked_run (hf : f.Sound) {h : List Change} (ht : Tracked (f.managed 0) n h) (ops : List Operation) :
    (f.run (byCreator ops)).Sound ∧ Tracked ((f.run (byCreator ops)).managed 0) n (history n f ops ++ h) := by
  induction ops generalizing f h with
  | nil => exact ⟨hf, ht⟩
  | cons op ops ih =>
    rw [history, List.append_assoc]
    exact ih (sound_after hf op) (tracked_after hf ht op)

lemma get?_settings_of_tracked (hf : f.Sound) {h : List Change} (ht : Tracked (f.managed 0) n h) :
    (f.managed 0).settings.get? n = settingAfter h := by
  rw [Managed.get?_settings hf.proper.names]
  cases hv : (f.managed 0).validator? n with
  | none => exact (ht.free hv).1.symm
  | some v => exact (ht.managed (by rw [hv]; rfl)).2.1

lemma settingAfter_isSome {h : List Change} (hfirst : (registeredDefault h).isSome) : (settingAfter h).isSome := by
  cases h with
  | nil => exact hfirst
  | cons c earlier =>
    cases c with
    | registered => exact hfirst
    | assigned => rfl
    | cleared => exact hfirst

/-- Reading a managed argument gives its setting. -/
lemma read_of_get?_settings (hf : f.Sound) {name : AttributeName} {a : Argument}
    (h : (f.managed 0).settings.get? name.text = some a) : (f.step 0 (.use (.read name))).1 = .ok (.value a) := by
  rw [Managed.get?_settings hf.proper.names] at h
  split at h
  next hv =>
    obtain ⟨v, hv⟩ := Option.isSome_iff_exists.1 hv
    have hlookup : f.properties.lookup name.text = some v := hf.properties ▸ hv
    have hread : (Use.read name).adjustment f.properties = some do return .value (← (← get).value name.text) := by
      rw [Use.adjustment, hlookup]
      rfl
    rw [step_of_adjustment hf.tidy hread, runOn, run_get_bind, Managed.value, h]
    rfl
  next => cases h

/-- The managed argument that an operation is about. -/
def Operation.argument? : Operation → Option String
  | .use (.assign name _) | .use (.delete name) | .use (.read name) => some name.text
  | .register offer given _ => (do argumentName given (← admitted offer)).toOption
  | .use .reset | .use .settings | .use (.call _) => none

lemma change_of_argument {op : Operation} {other : String} (h : op.argument? = some other) (hn : n ≠ other) :
    f.change n op = none := by
  cases hanswer : (f.step 0 op).1 with
  | error e => exact change_of_error hanswer n
  | ok answer =>
    rw [change_of_ok hanswer]
    cases op with
    | use use =>
      cases use with
      | reset => cases h
      | settings | call | read => rfl
      | assign | delete =>
        cases h
        exact if_neg (Ne.symm hn)
    | register offer given d =>
      rw [Operation.change]
      cases hentry : f.entryOf 0 offer given with
      | error e => rfl
      | ok entry =>
        obtain ⟨name, v⟩ := entry
        obtain ⟨hadmitted, hname, -⟩ := of_entryOf hentry
        rw [Operation.argument?, hadmitted] at h
        have hother : name = other := by
          have hresolved : (argumentName given v).toOption = some other := h
          rw [hname] at hresolved
          exact Option.some.inj hresolved
        exact if_neg (hother ▸ Ne.symm hn)

lemma after_call (hf : f.Sound) (c : Call) : f.after (0, .use (.call c)) = f := by
  have hrun : (runOn (f.managed 0) (do return Answer.call (← (← get).call c))).2 = f.managed 0 := by
    rw [runOn, run_get_bind]
    cases (f.managed 0).call c <;> rfl
  rw [after, step_of_adjustment hf.tidy rfl, hrun, withManaged_self, enter_zero]

lemma after_of_error (hf : f.Sound) {op : Operation} {e : Failure} (h : (f.step 0 op).1 = .error e) :
    f.after (0, op) = f := by
  rw [after]
  cases op with
  | use use =>
    obtain ⟨e', hstep⟩ | ⟨answer, next, hstep, -⟩ | ⟨answer, g, hstep, -⟩ := step_use_cases hf use
    · rw [hstep]
    · rw [hstep] at h
      cases h
    · rw [hstep] at h
      cases h
  | register offer given d =>
    obtain ⟨e', hstep⟩ | ⟨name, v, first, next, -, -, -, hstep⟩ := step_register_cases f 0 offer given d
    · rw [hstep, enter_zero]
    · rw [hstep] at h
      cases h

/-! ### Operations that go through -/

/-- Whether every managed argument has been registered with a default. -/
def HasDefaults (f : SharedFunction) : Prop :=
  ∀ n, ((f.managed 0).validator? n).isSome → ((f.managed 0).defaults.get? n).isSome

/-- If every managed argument has a first default, there is a default wherever there is a first one. -/
lemma isSome_first (hd : f.HasDefaults) {h : List Change} (ht : Tracked (f.managed 0) n h) :
    ((f.managed 0).defaults.get? n).isSome = ((f.managed 0).signature.default? n).isSome := by
  cases hv : (f.managed 0).validator? n with
  | none => rw [(ht.free hv).2.2]
  | some v =>
    have hsome : ((f.managed 0).validator? n).isSome := by rw [hv]; rfl
    have hfirst := hd n hsome
    obtain ⟨-, hsetting, hregistered⟩ := ht.managed hsome
    rw [hsetting, hfirst, settingAfter_isSome (hregistered ▸ hfirst)]

lemma step_reset_ok (hf : f.Sound) (hd : f.HasDefaults) (ht : ∀ n, ∃ h, Tracked (f.managed 0) n h) :
    (f.step 0 (.use .reset)).1 = .ok .done := by
  obtain ⟨next, hrun⟩ := Adjustment.exists_reset hf.proper fun n _ => isSome_first hd (ht n).choose_spec
  rw [step_of_adjustment hf.tidy rfl, runOn, run_bind_ok _ hrun]
  rfl

section Argument

variable {name : AttributeName} {v : Validator}

lemma step_assign_ok (hf : f.Sound) (hd : f.HasDefaults) {h : List Change} (ht : Tracked (f.managed 0) name.text h)
    (hv : (f.managed 0).validator? name.text = some v) {a b : Argument} (hcheck : v.check a (f.managed 0).settings = .ok b) :
    (f.step 0 (.use (.assign name a))).1 = .ok .done := by
  have hsome : ((f.managed 0).validator? name.text).isSome := by rw [hv]; rfl
  have hlookup : f.properties.lookup name.text = some v := hf.properties ▸ hv
  have hassign : (Use.assign name a).adjustment f.properties = some do
      Adjustment.assign name.text v a
      return .done := by
    rw [Use.adjustment, hlookup]
    rfl
  obtain ⟨next, hrun⟩ := Adjustment.exists_setDefault (d := some b) hf.proper (ht.managed hsome).1
    ((hd name.text hsome).symm.trans (isSome_first hd ht))
  rw [step_of_adjustment hf.tidy hassign, runOn, run_bind_ok _ ((Adjustment.assign_ok hcheck).trans hrun)]
  rfl

lemma step_delete_ok (hf : f.Sound) (hd : f.HasDefaults) {h : List Change} (ht : Tracked (f.managed 0) name.text h)
    (hv : (f.managed 0).validator? name.text = some v) : (f.step 0 (.use (.delete name))).1 = .ok .done := by
  have hsome : ((f.managed 0).validator? name.text).isSome := by rw [hv]; rfl
  have hlookup : f.properties.lookup name.text = some v := hf.properties ▸ hv
  have hdelete : (Use.delete name).adjustment f.properties = some do
      Adjustment.restore name.text
      return .done := by
    rw [Use.adjustment, hlookup]
    rfl
  have hfirst := isSome_first hd ht
  obtain ⟨next, hrun⟩ := Adjustment.exists_setDefault hf.proper (ht.managed hsome).1 hfirst
  obtain ⟨a, ha⟩ := Option.isSome_iff_exists.1 (hfirst.symm.trans (hd name.text hsome))
  have hvalue : (f.managed 0).value name.text = .ok a := by
    rw [Managed.value, ha]
  rw [step_of_adjustment hf.tidy hdelete, runOn, run_bind_ok _ ((Adjustment.restore_ok hvalue).trans hrun)]
  rfl

end Argument

/-- What holds of a function after operations of the thread that created it. -/
structure FollowsHistory (start : SharedFunction) (ops : List Operation) (f : SharedFunction) : Prop where
  /-- The setting of an argument is what its history tells. -/
  settings : ∀ n, (f.managed 0).settings.get? n = settingAfter (history n start ops)
  /-- The first default of a managed argument is the one that its history tells. -/
  first : ∀ n, ((f.managed 0).validator? n).isSome → (f.managed 0).defaults.get? n = registeredDefault (history n start ops)
  /-- Reading an argument gives its setting. -/
  read : ∀ (n : AttributeName) a, (f.managed 0).settings.get? n.text = some a →
    (f.step 0 (.use (.read n))).1 = .ok (.value a)
  /-- An operation on one argument leaves the settings of the others. -/
  apart : ∀ (op : Operation) argument n, op.argument? = some argument → n ≠ argument →
    ((f.after (0, op)).managed 0).settings.get? n = (f.managed 0).settings.get? n
  /-- A call changes nothing. -/
  call : ∀ c, f.after (0, .use (.call c)) = f
  /-- An operation that fails changes nothing. -/
  failed : ∀ op e, (f.step 0 op).1 = .error e → f.after (0, op) = f
  /-- A parameter with a default becomes a managed argument if its name is free and the default is accepted. -/
  registers : ∀ offer given d name v first, f.entryOf 0 offer given = .ok (name, v) →
    ((f.managed 0).signature.default? name).isSome → (f.managed 0).firstDefault name v d = .ok first →
      (f.step 0 (.register offer given d)).1 = .ok (.validator v)
  /-- If all managed arguments have been registered with defaults, they all have settings, a value that is accepted can be
  assigned, and a deletion or a reset goes through. -/
  complete : f.HasDefaults →
    (f.step 0 (.use .reset)).1 = .ok .done ∧
      ∀ (n : AttributeName) v, (f.managed 0).validator? n.text = some v →
        ((f.managed 0).settings.get? n.text).isSome ∧ (f.step 0 (.use (.delete n))).1 = .ok .done ∧
          ∀ a b, v.check a (f.managed 0).settings = .ok b → (f.step 0 (.use (.assign n a))).1 = .ok .done

/-- At every moment of a run the settings are what has happened to them. -/
theorem followsHistory (name : String) (s : Signature) (hs : s.Proper) (attributes : Arguments) (layers : Nat)
    (ops : List Operation) :
    FollowsHistory (create name s attributes layers) ops ((create name s attributes layers).run (byCreator ops)) := by
  have hrun := fun n => tracked_run (sound_create name hs attributes layers) (tracked_create name hs attributes layers n) ops
  have hf := (hrun "").1
  have htracked := fun n => (hrun n).2
  simp only [List.append_nil] at htracked
  generalize (create name s attributes layers).run (byCreator ops) = f at hf htracked ⊢
  have hsettings := fun n => get?_settings_of_tracked hf (htracked n)
  constructor
  case settings => exact hsettings
  case first => exact fun n hn => ((htracked n).managed hn).2.2
  case read => exact fun n a ha => read_of_get?_settings hf ha
  case apart =>
    intro op argument n hop hn
    have hafter := tracked_after hf (htracked n) op
    rw [change_of_argument hop hn] at hafter
    rw [get?_settings_of_tracked (sound_after hf op) hafter, hsettings]
    rfl
  case call => exact after_call hf
  case failed => exact fun op e he => after_of_error hf he
  case registers =>
    intro offer given d name v first hentry hdefault hfirst
    obtain ⟨next, hnext⟩ := Adjustment.exists_register hf.proper hdefault hfirst
    rw [step_register_ok hentry hnext]
  case complete =>
    intro hd
    refine ⟨step_reset_ok hf hd fun n => ⟨_, htracked n⟩, fun n v hv => ⟨?_, step_delete_ok hf hd (htracked n.text) hv,
      fun a b hcheck => step_assign_ok hf hd (htracked n.text) hv hcheck⟩⟩
    have hsome : ((f.managed 0).validator? n.text).isSome := by rw [hv]; rfl
    rw [hsettings]
    exact settingAfter_isSome (((htracked n.text).managed hsome).2.2 ▸ hd n.text hsome)

/-- A trial of the function that combines: an argument is registered, assigned zero, deleted and assigned zero again, with a call in
between, and then it cannot be registered once more. -/
def trial : List Operation :=
  let assignment : Operation := .use (.assign ⟨"strict", by decide⟩ (.ofValue (.int 0)))
  [.register (.validator .strict) none none, assignment, .use (.delete ⟨"strict", by decide⟩), .use (.call ⟨[], []⟩),
    assignment, .register (.validator .strict) none none]

theorem followsHistory_trial :
    let start := create "combine" EngineFunction.combine.signature [] 0
    let f := start.run (byCreator trial)
    EngineFunction.combine.signature.Proper ∧ FollowsHistory start trial f ∧
      (f.managed 0).settings.get? "strict" = some (.ofValue (.bool false)) ∧
        f.after (0, .register (.validator .strict) none none) = f ∧ (f.step 0 (.use .reset)).1 = .ok .done := by
  have hproper : EngineFunction.combine.signature.Proper := ⟨by decide, by decide⟩
  have h := followsHistory "combine" EngineFunction.combine.signature hproper [] 0 trial
  refine ⟨hproper, h, by rfl, h.failed _ (.argumentTaken "strict") (by rfl), (h.complete ?_).1⟩
  intro n hn
  have hvalidators : (((create "combine" EngineFunction.combine.signature [] 0).run (byCreator trial)).managed 0).validators =
      [("strict", Validator.strict)] := by rfl
  have hstrict : ((((create "combine" EngineFunction.combine.signature [] 0).run (byCreator trial)).managed 0).defaults.get?
      "strict").isSome := by rfl
  rw [Managed.validator?, hvalidators, lookup_cons_eq_ite] at hn
  split at hn
  next heq => exact heq ▸ hstrict
  next => cases hn

end SharedFunction

end Coercion
