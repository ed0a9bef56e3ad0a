import Coercion.Proofs.Settings.Governed
import Coercion.Settings.Standard
import Coercion.Settings.Stock

/-!
Resetting all settings beside deleting them one by one. A reset gives every parameter its first default back at once.
A deletion looks at the value before it gives the first default back, and so it fails where an argument has no value.
Both have to keep the parameters in an order in which none without a default comes after one that has it. Where both
go through they come to the same.
-/

namespace Coercion

/-! ### Signatures whose defaults are changed from the left -/

namespace Signature

/-- Parameters are in order if each of them has a default as soon as one before it has one. -/
lemma all_dropWhile_iff {ps : List Parameter} :
    ((ps.dropWhile fun p => p.default?.isNone).all fun p => p.default?.isSome) = true ↔
      ps.Pairwise fun p q => p.default?.isSome → q.default?.isSome := by
  induction ps with
  | nil => simp
  | cons p ps ih =>
    rw [List.dropWhile_cons, List.pairwise_cons]
    cases hd : p.default? with
    | none => simpa using ih
    | some d =>
      simp only [Option.isNone_some, Bool.false_eq_true, if_false, List.all_cons, hd, Option.isSome_some, Bool.true_and,
        List.all_eq_true, forall_const]
      exact ⟨fun h => ⟨h, List.pairwise_of_forall_mem_list fun _ _ q hq _ => h q hq⟩, And.left⟩

/-- Parameters make a signature if what is given by position has a default as soon as something before it has one, and
what takes the rest has none. -/
lemma isValid_iff {ps : List Parameter} :
    isValid ps = true ↔
      (ps.filter Parameter.isPositional).Pairwise (fun p q => p.default?.isSome → q.default?.isSome) ∧
        ∀ p ∈ ps, p.takesOne = true ∨ p.default? = none := by
  rw [isValid, Bool.and_eq_true, inOrder, all_dropWhile_iff]
  simp

end Signature

namespace Managed

variable {m : Managed} {pre post : List Parameter}

/-- A parameter with its first default. -/
def atFirst (m : Managed) (p : Parameter) : Parameter :=
  p.withDefault (m.defaults.get? p.name)

/-- Whether what is given by position has a first default as soon as something before it has one. -/
def FirstInOrder (m : Managed) : Prop :=
  m.signature.parameters.Pairwise fun p q => p.isPositional = true → q.isPositional = true →
    (m.defaults.get? p.name).isSome → (m.defaults.get? q.name).isSome

/-- Parameters stay in order while the first defaults come back from the left. -/
lemma isValid_atFirst (hm : m.signature.Proper) (horder : m.FirstInOrder)
    (hvalued : ∀ p ∈ m.signature.parameters, (m.defaults.get? p.name).isSome → p.default?.isSome)
    (hparts : m.signature.parameters = pre ++ post) : Signature.isValid (pre.map m.atFirst ++ post) = true := by
  have hpositional : Parameter.isPositional ∘ m.atFirst = Parameter.isPositional := rfl
  obtain ⟨hnow, hrest⟩ := Signature.isValid_iff.1 hm.valid
  rw [FirstInOrder, ← List.pairwise_filter, hparts, List.filter_append, List.pairwise_append] at horder
  rw [hparts] at hvalued hrest
  rw [hparts, List.filter_append, List.pairwise_append] at hnow
  rw [Signature.isValid_iff, List.filter_append, List.filter_map, hpositional, List.pairwise_append]
  refine ⟨⟨?_, hnow.2.1, ?_⟩, ?_⟩
  · exact List.pairwise_map.2 horder.1
  · intro p hp q hq hsome
    obtain ⟨p, hpre, rfl⟩ := List.mem_map.1 hp
    have hmem : q ∈ pre ++ post := List.mem_append_right _ (List.mem_filter.1 hq).1
    exact hvalued q hmem (horder.2.2 p hpre q hq hsome)
  · intro p hp
    obtain hp | hp := List.mem_append.1 hp
    · obtain ⟨p, hpre, rfl⟩ := List.mem_map.1 hp
      have hmem : p ∈ pre ++ post := List.mem_append_left _ hpre
      refine (hrest p hmem).imp id ?_
      intro hnone
      have hfirst := hvalued p hmem
      rw [hnone] at hfirst
      refine Option.not_isSome_iff_eq_none.1 ?_
      intro h
      exact Bool.false_ne_true (hfirst h)
    · exact hrest p (List.mem_append_right _ hp)

/-- The first defaults are in order if the parameters with them make a signature. -/
lemma firstInOrder_of_isValid (h : Signature.isValid (m.signature.parameters.map m.atFirst) = true) :
    m.FirstInOrder := by
  have hpositional : Parameter.isPositional ∘ m.atFirst = Parameter.isPositional := rfl
  have horder := (Signature.isValid_iff.1 h).1
  rw [List.filter_map, hpositional, List.pairwise_map] at horder
  rw [FirstInOrder, ← List.pairwise_filter]
  exact horder

/-- The function with the first defaults in some parameters, and the current ones in the others. -/
def partly (m : Managed) (pre post : List Parameter) : Managed :=
  { m with signature := ⟨pre.map m.atFirst ++ post, m.signature.returns?⟩ }

lemma names_partly (hparts : m.signature.parameters = pre ++ post) :
    (m.partly pre post).signature.names = m.signature.names := by
  rw [Signature.names, Signature.names, partly, hparts, List.map_append, List.map_append, List.map_map]
  rfl

lemma GovernedBy.valued_of_mem {s : Signature} {properties : List (String × Validator)} (hm : m.GovernedBy s properties)
    {p : Parameter} (hp : p ∈ m.signature.parameters) (h : (m.defaults.get? p.name).isSome) : p.default?.isSome := by
  rw [← Signature.default?_of_mem hm.proper.names hp]
  exact hm.valued p.name h

lemma atFirst_of_untouched {s : Signature} {properties : List (String × Validator)} (hm : m.GovernedBy s properties)
    {p : Parameter} (hp : p ∈ m.signature.parameters) (hfree : properties.lookup p.name = none) : m.atFirst p = p := by
  rw [atFirst, ← hm.untouched p.name hfree, Signature.default?_of_mem hm.proper.names hp]
  rfl

/-- The default of one more parameter becomes the first one again. -/
lemma withDefault_partly (hm : m.signature.Proper) {p : Parameter}
    (hparts : m.signature.parameters = pre ++ p :: post) :
    (m.partly pre (p :: post)).signature.withDefault m.name p.name (m.defaults.get? p.name) =
      (m.partly pre (p :: post)).signature.withParameters ((pre ++ [p]).map m.atFirst ++ post) := by
  have hnames := hm.names
  rw [Signature.names, hparts, List.map_append, List.map_cons, List.nodup_append, List.nodup_cons] at hnames
  obtain ⟨-, ⟨hpost, -⟩, hpre⟩ := hnames
  have hbefore : ∀ q ∈ pre.map m.atFirst, q.name ≠ p.name := by
    intro q hq
    obtain ⟨q, hmem, rfl⟩ := List.mem_map.1 hq
    exact hpre _ (List.mem_map_of_mem hmem) _ List.mem_cons_self
  have hafter : ∀ q ∈ post, q.name ≠ p.name := by
    intro q hq heq
    exact hpost (heq ▸ List.mem_map_of_mem hq)
  have hfind : (m.partly pre (p :: post)).signature.find? p.name = some p := by
    rw [Signature.find?, partly, List.find?_append, List.find?_eq_none.2 fun q hq => ?_]
    · simp
    · simpa using hbefore q hq
  rw [Signature.withDefault, hfind]
  have hchange : Signature.changeDefault p.name (m.defaults.get? p.name) (pre.map m.atFirst ++ p :: post) =
      (pre ++ [p]).map m.atFirst ++ post := by
    rw [Signature.changeDefault, List.map_append, List.map_cons, if_pos (beq_self_eq_true _),
      List.map_congr_left fun q hq => if_neg (mt beq_iff_eq.1 (hbefore q hq)), List.map_id',
      List.map_congr_left fun q hq => if_neg (mt beq_iff_eq.1 (hafter q hq)), List.map_id']
    simp [atFirst]
  exact congrArg (m.partly pre (p :: post)).signature.withParameters hchange

end Managed

namespace SharedFunction

open Adjustment (runOn)

variable {f : SharedFunction} {t : Nat} {m : Managed}

/-- A name that is not taken from the start. -/
def AttributeName.ofText? (n : String) : Option AttributeName :=
  if h : n ∈ fixedNames then none else some ⟨n, h⟩

/-- Those of some parameters that are managed. -/
def managedAmong (properties : List (String × Validator)) (ps : List Parameter) : List AttributeName :=
  ((ps.map Parameter.name).filter fun n => (properties.lookup n).isSome).filterMap AttributeName.ofText?

/-- The managed arguments, in the order of the parameters. -/
def managedArguments (f : SharedFunction) (t : Nat) : List AttributeName :=
  managedAmong f.properties (f.managed t).signature.parameters

/-- Deletions of arguments. -/
def deletions (names : List AttributeName) : List Operation :=
  names.map fun n => .use (.delete n)

/-- Whether a thread may just as well delete its managed arguments as reset all settings: it can do both, and comes to
the same settings. -/
def ResetsByDeletion (f : SharedFunction) (t : Nat) : Prop :=
  ∃ deleted reset, f.carryOut t (deletions (f.managedArguments t)) = .ok deleted ∧
    f.step t (.use .reset) = (.ok .done, reset) ∧ deleted.managed t = reset.managed t

lemma AttributeName.ofText?_text (n : AttributeName) : ofText? n.text = some n := by
  rw [ofText?, dif_neg n.free]

lemma AttributeName.text_of_ofText? {n : String} {name : AttributeName} (h : ofText? n = some name) :
    name.text = n := by
  rw [ofText?] at h
  split_ifs at h
  cases h
  rfl

lemma mem_managedAmong {properties : List (String × Validator)} {ps : List Parameter} {n : AttributeName} :
    n ∈ managedAmong properties ps ↔ n.text ∈ ps.map Parameter.name ∧ (properties.lookup n.text).isSome := by
  rw [managedAmong, List.mem_filterMap]
  constructor
  · rintro ⟨name, hname, htext⟩
    rw [AttributeName.text_of_ofText? htext]
    exact List.mem_filter.1 hname
  · intro h
    exact ⟨n.text, List.mem_filter.2 h, n.ofText?_text⟩

/-- The names of managed arguments are not taken by anything else. -/
lemma map_text_managedAmong (hf : f.Tidy) (ps : List Parameter) :
    (managedAmong f.properties ps).map AttributeName.text =
      (ps.map Parameter.name).filter fun n => (f.properties.lookup n).isSome := by
  rw [managedAmong, List.map_filterMap]
  refine (List.filterMap_congr ?_).trans (List.filterMap_some ..)
  intro n hn
  rw [AttributeName.ofText?, dif_neg (hf.apart n (List.mem_filter.1 hn).2).1]
  rfl

lemma managedAmong_cons {properties : List (String × Validator)} {p : Parameter}
    (hp : (properties.lookup p.name).isSome)
    (hfree : p.name ∉ fixedNames) (ps : List Parameter) :
    managedAmong properties (p :: ps) = ⟨p.name, hfree⟩ :: managedAmong properties ps := by
  simp [managedAmong, hp, AttributeName.ofText?, hfree]

lemma managedAmong_cons_of_free {properties : List (String × Validator)} {p : Parameter}
    (hp : properties.lookup p.name = none) (ps : List Parameter) :
    managedAmong properties (p :: ps) = managedAmong properties ps := by
  rw [managedAmong, List.map_cons, List.filter_cons_of_neg (by simp [hp]), managedAmong]

/-! ### Deletions of arguments -/

section Delete

variable {n : AttributeName}

lemma step_delete (hf : f.Tidy) (hn : (f.properties.lookup n.text).isSome) :
    f.step t (.use (.delete n)) =
      ((runOn (f.managed t) (do Adjustment.restore n.text; return Answer.done)).1,
        f.withManaged t (runOn (f.managed t) (do Adjustment.restore n.text; return Answer.done)).2) := by
  obtain ⟨v, hv⟩ := Option.isSome_iff_exists.1 hn
  exact step_of_adjustment hf (by rw [Use.adjustment, hv]; rfl)

/-- A managed argument without a value cannot be deleted. -/
lemma step_delete_error (hf : f.Tidy) (hn : (f.properties.lookup n.text).isSome) {e : Failure}
    (h : (f.managed t).value n.text = .error e) : (f.step t (.use (.delete n))).1 = .error e := by
  rw [step_delete hf hn, runOn, run_bind_error _ (Adjustment.restore_error h)]

/-- A deletion that goes through gives a first default back. -/
lemma step_delete_cases (hf : f.Tidy) (hn : (f.properties.lookup n.text).isSome) :
    (∃ e g, f.step t (.use (.delete n)) = (.error e, g)) ∨
      ∃ a next, (f.managed t).value n.text = .ok a ∧ f.step t (.use (.delete n)) = (.ok .done, f.withManaged t next) ∧
        (f.managed t).Changed next
          (Function.update (f.managed t).signature.default? n.text ((f.managed t).defaults.get? n.text)) := by
  cases hvalue : (f.managed t).value n.text with
  | error e => exact .inl ⟨e, _, Prod.ext (step_delete_error hf hn hvalue) rfl⟩
  | ok a =>
    rw [step_delete hf hn]
    obtain ⟨e, hset⟩ | ⟨next, hset, hchanged⟩ :=
      Adjustment.setDefault_cases (f.managed t) n.text ((f.managed t).defaults.get? n.text)
    · exact .inl ⟨e, _, by rw [runOn, run_bind_error _ ((Adjustment.restore_ok hvalue).trans hset)]⟩
    · exact .inr ⟨a, next, rfl, by rw [runOn, run_bind_ok _ ((Adjustment.restore_ok hvalue).trans hset)]; rfl, hchanged⟩

lemma step_delete_of_withDefault (hf : f.Tidy) (hn : (f.properties.lookup n.text).isSome) (hm : f.managed t = m)
    {a : Argument}
    {s : Signature} (hvalue : m.value n.text = .ok a)
    (hset : m.signature.withDefault m.name n.text (m.defaults.get? n.text) = .ok s) :
    f.step t (.use (.delete n)) = (.ok .done, f.withManaged t { m with signature := s }) := by
  have hrun := (Adjustment.restore_ok hvalue).trans (Adjustment.setDefault_ok hset)
  rw [step_delete hf hn, hm, runOn, run_bind_ok _ hrun]
  rfl

end Delete

/-- Arguments that can all be deleted have had values before. -/
lemma exists_value_of_carryOut (hf : f.Tidy) {names : List AttributeName} {g : SharedFunction}
    (hmanaged : ∀ n ∈ names, (f.properties.lookup n.text).isSome) (hnodup : (names.map AttributeName.text).Nodup)
    (h : f.carryOut t (deletions names) = .ok g) : ∀ n ∈ names, ∃ a, (f.managed t).value n.text = .ok a := by
  induction names generalizing f with
  | nil => simp
  | cons n names ih =>
    rw [List.map_cons, List.nodup_cons] at hnodup
    rw [List.forall_mem_cons] at hmanaged
    obtain ⟨e, k, hstep⟩ | ⟨a, next, hvalue, hstep, hchanged⟩ := step_delete_cases (t := t) hf hmanaged.1
    · have herror : f.carryOut t (deletions (n :: names)) = .error e := carryOut_cons_error (congrArg Prod.fst hstep)
      rw [herror] at h
      cases h
    · have hrest : (f.withManaged t next).carryOut t (deletions names) = .ok g := (carryOut_cons_ok hstep).symm.trans h
      have hproperties : (f.withManaged t next).properties = f.properties := properties_withSeat
      refine List.forall_mem_cons.2 ⟨⟨a, hvalue⟩, ?_⟩
      intro other hother
      obtain ⟨b, hb⟩ := ih (tidy_withManaged hf next) (hproperties ▸ hmanaged.2) hnodup.2 hrest other hother
      have hne : other.text ≠ n.text := by
        intro heq
        exact hnodup.1 (heq ▸ List.mem_map_of_mem hother)
      rw [managed_withManaged, Managed.value, hchanged.default?, Function.update_of_ne hne] at hb
      exact ⟨b, hb⟩

/-- Arguments that have values can be deleted one after the other, if the first defaults are in order. -/
lemma exists_carryOut_deletions {s : Signature} {properties : List (String × Validator)}
    (hm : m.GovernedBy s properties)
    (horder : m.FirstInOrder)
    (hvalue : ∀ p ∈ m.signature.parameters, (properties.lookup p.name).isSome → ∃ a, p.default? = some a)
    {pre post : List Parameter} (hparts : m.signature.parameters = pre ++ post) (hf : f.Tidy)
    (hproperties : f.properties = properties) (hmanaged : f.managed t = m.partly pre post) :
    ∃ g, f.carryOut t (deletions (managedAmong properties post)) = .ok g ∧ g.managed t = m.partly (pre ++ post) [] := by
  induction post generalizing pre f with
  | nil => exact ⟨f, rfl, by rw [List.append_nil]; exact hmanaged⟩
  | cons p post ih =>
    have hmem : p ∈ m.signature.parameters := by simp [hparts]
    have hparts' : m.signature.parameters = (pre ++ [p]) ++ post := by simp [hparts]
    have hall : pre ++ p :: post = (pre ++ [p]) ++ post := by simp
    by_cases hp : (properties.lookup p.name).isSome
    · obtain ⟨a, ha⟩ := hvalue p hmem hp
      have hfree : p.name ∉ fixedNames := (hf.apart p.name (hproperties ▸ hp)).1
      have hnow : (m.partly pre (p :: post)).value p.name = .ok a := by
        have hthere : p ∈ (m.partly pre (p :: post)).signature.parameters := by simp [Managed.partly]
        rw [Managed.value, Signature.default?_of_mem (m.names_partly hparts ▸ hm.proper.names) hthere, ha]
      have hvalid : Signature.isValid ((pre ++ [p]).map m.atFirst ++ post) = true :=
        Managed.isValid_atFirst hm.proper horder (fun q hq => hm.valued_of_mem hq) hparts'
      have hset := m.withDefault_partly hm.proper hparts
      rw [Signature.withParameters_of_isValid hvalid] at hset
      have hstep := step_delete_of_withDefault (n := ⟨p.name, hfree⟩) hf (hproperties ▸ hp) hmanaged hnow hset
      rw [managedAmong_cons hp hfree, hall]
      have htidy := tidy_withManaged (t := t) hf (m.partly (pre ++ [p]) post)
      have hkept : (f.withManaged t (m.partly (pre ++ [p]) post)).properties = properties :=
        properties_withSeat.trans hproperties
      obtain ⟨g, hrest, hsame⟩ := ih hparts' htidy hkept (managed_withManaged _)
      exact ⟨g, (carryOut_cons_ok hstep).trans hrest, hsame⟩
    · rw [Option.not_isSome_iff_eq_none] at hp
      have hsame : m.partly pre (p :: post) = m.partly (pre ++ [p]) post := by
        simp [Managed.partly, m.atFirst_of_untouched hm hmem hp]
      rw [managedAmong_cons_of_free hp, hall]
      exact ih hparts' hf hproperties (hmanaged.trans hsame)

/-! ### Deletions and resets -/

/-- A reset goes through if the first defaults are in order, and then every parameter has its first default. -/
lemma step_reset (hf : f.Tidy) (hm : f.managed t = m) (hproper : m.signature.Proper)
    (hvalued : ∀ p ∈ m.signature.parameters, (m.defaults.get? p.name).isSome → p.default?.isSome)
    (horder : m.FirstInOrder) :
    f.step t (.use .reset) = (.ok .done, f.withManaged t (m.partly m.signature.parameters [])) := by
  have hvalid := Managed.isValid_atFirst hproper horder hvalued (List.append_nil _).symm
  rw [List.append_nil] at hvalid
  have hset : m.signature.withDefaults m.defaults.get? = .ok (m.partly m.signature.parameters []).signature := by
    rw [Managed.partly, List.append_nil]
    exact Signature.withParameters_of_isValid hvalid
  have hrun : runOn m .reset = (.ok (), m.partly m.signature.parameters []) := by
    rw [runOn, Adjustment.reset, run_get_bind, hset]
    rfl
  rw [step_of_adjustment hf rfl, hm, runOn, run_bind_ok _ hrun]
  rfl

/-- A reset that goes through leaves parameters that make a signature. -/
lemma firstInOrder_of_reset (hf : f.Tidy) {answer : Answer} {g : SharedFunction}
    (h : f.step t (.use .reset) = (.ok answer, g)) : (f.managed t).FirstInOrder := by
  rw [step_of_adjustment hf rfl] at h
  refine Managed.firstInOrder_of_isValid ?_
  cases hset : (f.managed t).signature.withDefaults (f.managed t).defaults.get? with
  | error e =>
    have hrun : runOn (f.managed t) .reset = (.error e, f.managed t) := by
      rw [runOn, Adjustment.reset, run_get_bind, hset]
      rfl
    rw [runOn, run_bind_error _ hrun] at h
    cases h
  | ok s => exact (Signature.of_withParameters hset).2

/-- **When a reset is the deletion of all managed arguments.** At every moment, and in every thread, the two go
through and come to the same if and only if every managed argument has a value and the first defaults are in order. -/
theorem resetsByDeletion_iff (name : String) {s : Signature} (hs : s.Proper) (attributes : Arguments) (layers : Nat)
    (turns : List (Nat × Operation)) (t : Nat) :
    let f := (create name s attributes layers).run turns
    f.ResetsByDeletion t ↔
      (∀ n ∈ f.managedArguments t, ∃ a, (f.managed t).value n.text = .ok a) ∧ (f.managed t).FirstInOrder := by
  intro f
  have hf : f.Governed s := governed_run (governed_create name hs attributes layers) turns
  have hm := hf.managed t
  constructor
  · rintro ⟨deleted, reset, hdeleted, hreset, -⟩
    refine ⟨exists_value_of_carryOut hf.tidy (fun n hn => (mem_managedAmong.1 hn).2) ?_ hdeleted,
      firstInOrder_of_reset hf.tidy hreset⟩
    rw [managedArguments, map_text_managedAmong hf.tidy]
    exact hm.proper.names.filter _
  · rintro ⟨hvalue, horder⟩
    have hvalue' : ∀ p ∈ (f.managed t).signature.parameters, (f.properties.lookup p.name).isSome →
        ∃ a, p.default? = some a := by
      intro p hp hmanaged
      have hfree : p.name ∉ fixedNames := (hf.tidy.apart p.name hmanaged).1
      obtain ⟨a, ha⟩ := hvalue ⟨p.name, hfree⟩ (mem_managedAmong.2 ⟨List.mem_map_of_mem hp, hmanaged⟩)
      rw [Managed.value, Signature.default?_of_mem hm.proper.names hp] at ha
      exact Option.isSome_iff_exists.1 (by cases hd : p.default? <;> simp [hd] at ha ⊢)
    have hparts : (f.managed t).signature.parameters = [] ++ (f.managed t).signature.parameters := rfl
    obtain ⟨deleted, hdeleted, hsame⟩ := exists_carryOut_deletions hm horder hvalue' hparts hf.tidy rfl rfl
    have hreset := step_reset hf.tidy rfl hm.proper (fun p hp => hm.valued_of_mem hp) horder
    exact ⟨deleted, _, hdeleted, hreset, hsame.trans (managed_withManaged _).symm⟩

lemma strict_free : "strict" ∉ fixedNames := by decide

/-- The creating thread registers an argument of the function that combines, and assigns it. -/
def loosened : List (Nat × Operation) :=
  [(0, .register (.validator .strict) none none), (0, .use (.assign ⟨"strict", strict_free⟩ (.ofValue (.bool false))))]

/-- A second thread may delete what the first one has assigned, or reset it. -/
theorem resetsByDeletion_iff_combine :
    let f := (create "combine" EngineFunction.combine.signature [] 0).run loosened
    EngineFunction.combine.signature.Proper ∧
      (f.managed 1).settings.get? "strict" = some (.ofValue (.bool false)) ∧ f.ResetsByDeletion 1 := by
  have hproper : EngineFunction.combine.signature.Proper := ⟨by decide, by decide⟩
  have h := resetsByDeletion_iff "combine" hproper [] 0 loosened 1
  have hmanaged : ((create "combine" EngineFunction.combine.signature [] 0).run loosened).managedArguments 1 =
      [⟨"strict", strict_free⟩] := by rfl
  refine ⟨hproper, by rfl, h.2 ⟨?_, ?_⟩⟩
  · intro n hn
    rw [hmanaged, List.mem_singleton] at hn
    exact ⟨.ofValue (.bool false), by rw [hn]; rfl⟩
  · unfold Managed.FirstInOrder
    decide

/-- An argument that has to be given is managed, and has no value. It can be reset, but not deleted. -/
theorem not_resetsByDeletion :
    let integer := Validator.ofValues "int" fun v _ => return .int (← v.asInteger)
    let f := (StockFunction.req.shared 0).run [(0, .register (.validator integer) (some (.text "a")) none)]
    ¬ f.ResetsByDeletion 0 ∧ (f.step 0 (.use .reset)).1 = .ok .done ∧
      (f.step 0 (.use (.delete ⟨"a", by decide⟩))).1 = .error (.noDefault "a") := by
  refine ⟨?_, by rfl, by rfl⟩
  rintro ⟨deleted, reset, hdeleted, -⟩
  cases hdeleted

end SharedFunction

end Coercion
