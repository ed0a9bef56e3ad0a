import Coercion.Settings.Managed
import Coercion.Proofs.Traversal
import Mathlib.Data.List.Nodup
import Mathlib.Logic.Function.Basic

/-!
What a change of a managed function does to its settings. The defaults of a signature are read as a function of the name;
a change of one default updates that function at one name, and everything else about the managed function stays.
-/

namespace Coercion

/-! ### Lookups -/

lemma mem_of_lookup {α β : Type} [BEq α] [LawfulBEq α] {xs : List (α × β)} {a : α} {b : β} (h : xs.lookup a = some b) :
    (a, b) ∈ xs := by
  obtain ⟨before, after, rfl, -⟩ := List.lookup_eq_some_iff.1 h
  simp

section Lookup

variable {α β : Type} [BEq α] [LawfulBEq α] [DecidableEq α]

lemma lookup_cons_eq_ite (x : α × β) (xs : List (α × β)) (a : α) :
    (x :: xs).lookup a = if a = x.1 then some x.2 else xs.lookup a := by
  rw [List.lookup_cons]
  by_cases h : a = x.1
  · rw [if_pos h, beq_iff_eq.2 h]
  · rw [if_neg h, beq_false_of_ne h]

lemma lookup_filter_key (keep : α → Bool) (xs : List (α × β)) (a : α) :
    (xs.filter fun x => keep x.1).lookup a = if keep a then xs.lookup a else none := by
  induction xs with
  | nil => simp
  | cons x xs ih =>
    rw [List.filter_cons, lookup_cons_eq_ite]
    by_cases h : a = x.1
    · subst h
      by_cases hk : keep x.1 <;> simp [hk, lookup_cons_eq_ite, ih]
    · by_cases hk : keep x.1 <;> simp [hk, lookup_cons_eq_ite, ih, h]

end Lookup

/-! ### Arguments by name -/

namespace Arguments

lemma get?_cons (x : String × Argument) (xs : Arguments) (name : String) :
    get? (x :: xs) name = if name = x.1 then some x.2 else get? xs name :=
  lookup_cons_eq_ite x xs name

lemma get?_append (xs ys : Arguments) (name : String) : get? (xs ++ ys) name = (get? xs name).or (get? ys name) :=
  List.lookup_append

lemma has_eq_isSome_get? (xs : Arguments) (name : String) : has xs name = (get? xs name).isSome := by
  induction xs with
  | nil => rfl
  | cons x xs ih =>
    rw [get?_cons, has, List.any_cons, ← has, ih]
    by_cases h : name = x.1
    · simp [h]
    · simp [h, Ne.symm h]

lemma get?_eq_none_iff {xs : Arguments} {name : String} : get? xs name = none ↔ name ∉ xs.map Prod.fst := by
  rw [get?, List.lookup_eq_none_iff, List.mem_map, not_exists]
  exact forall_congr' fun x => by rw [not_and, bne_iff_ne, ne_comm]

/-- An argument that is there is replaced in its place. -/
lemma get?_map_replace (xs : Arguments) (name : String) (a : Argument) (other : String) :
    get? (xs.map fun p => if p.1 == name then (name, a) else p) other =
      if other = name then (get? xs name).map fun _ => a else get? xs other := by
  induction xs with
  | nil => by_cases h : other = name <;> simp [h, get?]
  | cons x xs ih =>
    rw [List.map_cons, get?_cons, ih, get?_cons, get?_cons]
    by_cases hx : x.1 = name
    · by_cases h : other = name <;> simp [hx, h]
    · by_cases h : other = name
      · subst h
        simp [hx, Ne.symm hx]
      · simp [hx, h]

lemma get?_set (xs : Arguments) (name : String) (a : Argument) (other : String) :
    (set xs name a).get? other = if other = name then some a else get? xs other := by
  rw [set, has_eq_isSome_get?]
  cases hname : get? xs name with
  | some b =>
    rw [Option.isSome_some, if_pos rfl, get?_map_replace, hname]
    rfl
  | none =>
    rw [Option.isSome_none, if_neg Bool.false_ne_true, get?_append, get?_cons]
    by_cases h : other = name
    · rw [if_pos h, if_pos h, h, hname]
      rfl
    · rw [if_neg h, if_neg h]
      cases get? xs other <;> rfl

lemma get?_erase (xs : Arguments) (name other : String) :
    get? (erase xs name) other = if other = name then none else get? xs other := by
  rw [erase, get?, lookup_filter_key fun n => n != name]
  by_cases h : other = name <;> simp [h, get?]

end Arguments

/-! ### Signatures -/

namespace Parameter

@[simp] lemma name_withDefault (d : Option Argument) (p : Parameter) : (p.withDefault d).name = p.name := rfl

@[simp] lemma default?_withDefault (d : Option Argument) (p : Parameter) : (p.withDefault d).default? = d := rfl

end Parameter

namespace Signature

variable {s t : Signature} {function name other : String} {d : Option Argument}

lemma name_of_find? {p : Parameter} (h : s.find? name = some p) : p.name = name := by
  simpa using List.find?_some h

lemma find?_isSome_iff : (s.find? name).isSome ↔ name ∈ s.names := by
  simp [find?, names, List.find?_isSome]

lemma default?_of_find? {p : Parameter} (h : s.find? name = some p) : s.default? name = p.default? := by
  rw [default?, h]
  rfl

lemma default?_of_not_mem (h : name ∉ s.names) : s.default? name = none := by
  rw [default?, Option.not_isSome_iff_eq_none.1 (mt find?_isSome_iff.1 h)]
  rfl

/-- The signature whose parameters have been changed one by one, without changing a name. -/
lemma find?_map {change : Parameter → Parameter} (hname : ∀ p, (change p).name = p.name) (ps : List Parameter) :
    (ps.map change).find? (fun p => p.name == name) = (ps.find? fun p => p.name == name).map change := by
  rw [List.find?_map]
  congr 2
  funext p
  rw [Function.comp_apply, hname]

/-- The names of the parameters, and how they are given. -/
def shape (s : Signature) : List (String × ParameterKind) :=
  s.parameters.map fun p => (p.name, p.kind)

lemma shape_map {change : Parameter → Parameter} (hname : ∀ p, (change p).name = p.name)
    (hkind : ∀ p, (change p).kind = p.kind) (ps : List Parameter) :
    ((ps.map change).map fun p => (p.name, p.kind)) = ps.map fun p => (p.name, p.kind) := by
  rw [List.map_map]
  refine List.map_congr_left ?_
  intro p _
  exact Prod.ext (hname p) (hkind p)

lemma names_of_shape (h : t.shape = s.shape) : t.names = s.names := by
  have hfirst : ∀ r : Signature, r.names = r.shape.map Prod.fst := by
    intro r
    rw [names, shape, List.map_map]; rfl
  rw [hfirst, hfirst, h]

lemma of_withParameters {ps : List Parameter} (h : s.withParameters ps = .ok t) :
    t = ⟨ps, s.returns?⟩ ∧ isValid ps = true := by
  rw [withParameters] at h
  split at h
  next hvalid =>
    cases h
    exact ⟨rfl, hvalid⟩
  next => cases h

/-- Whether a signature is one that a function can have: every parameter has a name of its own, and they are in order. -/
structure Proper (s : Signature) : Prop where
  names : s.names.Nodup
  valid : isValid s.parameters = true

/-- A changed default is the only thing that changes. -/
lemma of_withDefault (h : s.withDefault function name d = .ok t) :
    t.shape = s.shape ∧ isValid t.parameters = true ∧ t.default? = Function.update s.default? name d := by
  rw [withDefault] at h
  cases hfound : s.find? name with
  | none =>
    rw [hfound] at h
    cases h
  | some p =>
    rw [hfound] at h
    obtain ⟨rfl, hvalid⟩ := of_withParameters h
    refine ⟨shape_map (fun p => by split <;> rfl) (fun p => by split <;> rfl) _, hvalid, ?_⟩
    funext other
    rw [default?, find?, changeDefault, find?_map (fun p => by split <;> rfl), ← find?]
    by_cases h : other = name
    · rw [h, hfound, Function.update_self]
      simp [name_of_find? hfound]
    · rw [Function.update_of_ne h, default?]
      cases hother : s.find? other with
      | none => rfl
      | some q => simp [name_of_find? hother, h]

/-- The default of a parameter is the one under its name. -/
lemma default?_of_mem (hs : s.names.Nodup) {p : Parameter} (hp : p ∈ s.parameters) : s.default? p.name = p.default? := by
  obtain ⟨ps, r⟩ := s
  rw [names] at hs
  induction ps with
  | nil => cases hp
  | cons q ps ih =>
    rw [List.map_cons, List.nodup_cons] at hs
    rw [default?, find?, List.find?_cons]
    rcases List.mem_cons.1 hp with rfl | hp
    · rw [beq_self_eq_true]
      rfl
    · have hne : q.name ≠ p.name := by
        intro heq
        exact hs.1 (heq ▸ List.mem_map_of_mem hp)
      rw [beq_false_of_ne hne]
      exact ih hs.2 hp

lemma all_map_congr {change : Parameter → Parameter} {test : Parameter → Bool} {ps : List Parameter}
    (h : ∀ p ∈ ps, test (change p) = test p) : (ps.map change).all test = ps.all test := by
  rw [List.all_map, Bool.eq_iff_iff, List.all_eq_true, List.all_eq_true]
  exact forall₂_congr fun p hp => by rw [Function.comp_apply, h p hp]

lemma all_dropWhile_map {change : Parameter → Parameter} {ps : List Parameter}
    (hdefault : ∀ p ∈ ps, (change p).default?.isSome = p.default?.isSome) :
    ((ps.map change).dropWhile fun p => p.default?.isNone).all (fun p => p.default?.isSome) =
      (ps.dropWhile fun p => p.default?.isNone).all fun p => p.default?.isSome := by
  induction ps with
  | nil => rfl
  | cons p ps ih =>
    have hall : ((p :: ps).map change).all (fun p => p.default?.isSome) = (p :: ps).all fun p => p.default?.isSome :=
      all_map_congr hdefault
    rw [List.forall_mem_cons] at hdefault
    rw [List.map_cons, List.dropWhile_cons, List.dropWhile_cons, ← Option.not_isSome, ← Option.not_isSome, hdefault.1]
    cases p.default?.isSome with
    | false => exact ih hdefault.2
    | true => exact hall

/-- Parameters that are given in the same way and that have a default as before are in order as before. -/
lemma isValid_map {change : Parameter → Parameter} (hkind : ∀ p, (change p).kind = p.kind) {ps : List Parameter}
    (hdefault : ∀ p ∈ ps, (change p).default?.isSome = p.default?.isSome) : isValid (ps.map change) = isValid ps := by
  have hpositional : Parameter.isPositional ∘ change = Parameter.isPositional := by
    funext p
    rw [Function.comp_apply, Parameter.isPositional, Parameter.isPositional, hkind]
  rw [isValid, isValid, inOrder, inOrder, List.filter_map, hpositional,
    all_dropWhile_map fun p hp => hdefault p (List.mem_filter.1 hp).1, all_map_congr fun p hp => ?_]
  rw [Parameter.takesOne, Parameter.takesOne, hkind, ← Option.not_isSome, ← Option.not_isSome, hdefault p hp]

lemma withParameters_of_isValid {ps : List Parameter} (h : isValid ps = true) :
    s.withParameters ps = .ok ⟨ps, s.returns?⟩ := by
  rw [withParameters, if_pos h]

/-- The default of a parameter that has one can be replaced, and the one of another parameter removed. -/
lemma exists_withDefault (hs : s.Proper) (function : String) (hmem : name ∈ s.names)
    (hd : d.isSome = (s.default? name).isSome) : ∃ t, s.withDefault function name d = .ok t := by
  obtain ⟨p, hp⟩ := Option.isSome_iff_exists.1 (find?_isSome_iff.2 hmem)
  have hvalid : isValid (changeDefault name d s.parameters) = true := by
    rw [changeDefault, isValid_map (fun p => by split <;> rfl) fun p hp => ?_]
    · exact hs.valid
    · by_cases hname : p.name = name
      · rw [if_pos (beq_iff_eq.2 hname), Parameter.default?_withDefault, hd, ← hname, default?_of_mem hs.names hp]
      · rw [if_neg (mt beq_iff_eq.1 hname)]
  rw [withDefault, hp]
  exact ⟨_, withParameters_of_isValid hvalid⟩

lemma exists_withDefaults (hs : s.Proper) {ds : String → Option Argument}
    (hds : ∀ name ∈ s.names, (ds name).isSome = (s.default? name).isSome) : ∃ t, s.withDefaults ds = .ok t := by
  have hkind : ∀ p : Parameter, (p.withDefault (ds p.name)).kind = p.kind := by
    intro _
    rfl
  refine ⟨_, withParameters_of_isValid ?_⟩
  rw [isValid_map hkind fun p hp => ?_]
  · exact hs.valid
  · rw [Parameter.default?_withDefault, hds p.name (List.mem_map_of_mem hp), default?_of_mem hs.names hp]

/-- All defaults are changed to the ones with the names of the parameters. -/
lemma of_withDefaults {ds : String → Option Argument} (h : s.withDefaults ds = .ok t) :
    t.shape = s.shape ∧ isValid t.parameters = true ∧
      t.default? = fun name => if name ∈ s.names then ds name else none := by
  have hname : ∀ p : Parameter, (p.withDefault (ds p.name)).name = p.name := by
    intro p
    exact p.name_withDefault _
  obtain ⟨rfl, hvalid⟩ := of_withParameters h
  refine ⟨shape_map hname (fun _ => rfl) _, hvalid, ?_⟩
  funext name
  rw [default?, find?, find?_map hname, ← find?]
  by_cases hmem : name ∈ s.names
  · obtain ⟨p, hp⟩ := Option.isSome_iff_exists.1 (find?_isSome_iff.2 hmem)
    rw [if_pos hmem, hp, ← name_of_find? hp]
    rfl
  · rw [if_neg hmem, Option.not_isSome_iff_eq_none.1 (mt find?_isSome_iff.1 hmem)]
    rfl

/-- Arguments that are collected from parameters are found under their names. -/
lemma get?_filterMap {ps : List Parameter} (f : Parameter → Option Argument) (h : (ps.map Parameter.name).Nodup)
    (name : String) :
    Arguments.get? (ps.filterMap fun p => (f p).map (p.name, ·)) name = (ps.find? fun p => p.name == name).bind f := by
  induction ps with
  | nil => rfl
  | cons p ps ih =>
    rw [List.map_cons, List.nodup_cons] at h
    rw [List.filterMap_cons, List.find?_cons]
    by_cases hp : p.name = name
    · subst hp
      have hrest : (ps.find? fun q => q.name == p.name) = none := by
        refine List.find?_eq_none.2 fun q hq hname => h.1 ?_
        exact beq_iff_eq.1 hname ▸ List.mem_map_of_mem hq
      rw [beq_self_eq_true]
      cases hd : f p with
      | none => simpa [hrest, hd] using ih h.2
      | some d => simp [Arguments.get?_cons, hd]
    · rw [beq_false_of_ne hp]
      cases hd : f p with
      | none => exact ih h.2
      | some d => simpa [Arguments.get?_cons, Ne.symm hp] using ih h.2

/-- The first defaults of a function are those of its signature. -/
lemma get?_defaultsOf (h : s.names.Nodup) (name : String) : (Managed.defaultsOf s).get? name = s.default? name :=
  get?_filterMap Parameter.default? h name

end Signature

/-! ### Managed functions -/

namespace Managed

variable {m : Managed} {name : String}

/-- The value that a validator makes of another one in the settings, if it lets it pass. -/
def validated (m : Managed) (v : Validator) (a : Argument) : Option Argument :=
  (v.check a m.settings).toOption

lemma get?_settings (h : m.signature.names.Nodup) (name : String) :
    m.settings.get? name = if (m.validator? name).isSome then m.signature.default? name else none := by
  rw [settings, Arguments.get?, lookup_filter_key fun n => (m.validator? n).isSome, ← Arguments.get?,
    Signature.get?_defaultsOf h]

/-- A managed function after its defaults have been replaced; everything else is as before. -/
structure Changed (m next : Managed) (defaults : String → Option Argument) : Prop where
  shape : next.signature.shape = m.signature.shape
  proper : m.signature.Proper → next.signature.Proper
  default? : next.signature.default? = defaults
  validators : next.validators = m.validators
  first : next.defaults = m.defaults
  name : next.name = m.name

lemma Changed.refl (m : Managed) : m.Changed m m.signature.default? := ⟨rfl, id, rfl, rfl, rfl, rfl⟩

/-- Two changes, one after the other. -/
lemma Changed.trans {next last : Managed} {defaults after : String → Option Argument} (h : m.Changed next defaults)
    (h' : next.Changed last after) : m.Changed last after where
  shape := h'.shape.trans h.shape
  proper hs := h'.proper (h.proper hs)
  default? := h'.default?
  validators := h'.validators.trans h.validators
  first := h'.first.trans h.first
  name := h'.name.trans h.name

lemma Changed.names {next : Managed} {defaults : String → Option Argument} (h : m.Changed next defaults) :
    next.signature.names = m.signature.names :=
  Signature.names_of_shape h.shape

lemma Changed.validator? {next : Managed} {defaults : String → Option Argument} (h : m.Changed next defaults)
    (name : String) : next.validator? name = m.validator? name := by
  rw [Managed.validator?, h.validators, Managed.validator?]

/-- A managed function after an argument has become a managed one, with a first default or without one. -/
structure Extended (m next : Managed) (name : String) (v : Validator) (first : Option Argument) : Prop where
  mem : name ∈ m.signature.names
  shape : next.signature.shape = m.signature.shape
  proper : m.signature.Proper → next.signature.Proper
  default? : next.signature.default? = Function.update m.signature.default? name first
  validators : next.validators = m.validators ++ [(name, v)]
  first : ∀ other, next.defaults.get? other =
    if other = name then first.or (m.defaults.get? name) else m.defaults.get? other

lemma Extended.names {next : Managed} {v : Validator} {first : Option Argument} (h : m.Extended next name v first) :
    next.signature.names = m.signature.names :=
  Signature.names_of_shape h.shape

lemma Extended.validator? {next : Managed} {v : Validator} {first : Option Argument} (h : m.Extended next name v first)
    (other : String) : next.validator? other = (m.validator? other).or (if other = name then some v else none) := by
  rw [Managed.validator?, h.validators, List.lookup_append, lookup_cons_eq_ite, Managed.validator?]
  rfl

/-- A first default is that of a parameter, and it is validated. It is missing only if the parameter has none. -/
lemma of_firstDefault {v : Validator} {d first : Option Argument} (h : m.firstDefault name v d = .ok first) :
    name ∈ m.signature.names ∧
      first = (d <|> m.signature.default? name).bind (m.validated v) ∧
        (first = none → m.signature.default? name = none) := by
  rw [firstDefault] at h
  cases hfound : m.signature.find? name with
  | none =>
    rw [hfound] at h
    cases h
  | some p =>
    rw [hfound] at h
    dsimp only at h
    rw [Signature.default?_of_find? hfound]
    refine ⟨Signature.find?_isSome_iff.1 (by rw [hfound]; rfl), ?_⟩
    cases hgiven : d <|> p.default? with
    | none =>
      rw [hgiven] at h
      cases h
      rw [Option.orElse_eq_orElse, Option.orElse_eq_or] at hgiven
      exact ⟨rfl, fun _ => (Option.or_eq_none_iff.1 hgiven).2⟩
    | some b =>
      rw [hgiven] at h
      obtain ⟨c, hcheck, hc⟩ := bind_eq_ok_iff.1 h
      cases hc
      rw [Option.bind_some, Managed.validated, hcheck]
      exact ⟨rfl, fun hnone => by cases hnone⟩

end Managed

namespace Adjustment

variable {m : Managed} {name : String} {v : Validator} {a : Argument} {d : Option Argument} {e : Failure}

lemma setDefault_error (h : m.signature.withDefault m.name name d = .error e) :
    runOn m (setDefault name d) = (.error e, m) := by
  rw [runOn, setDefault, run_get_bind, h]
  rfl

lemma setDefault_ok {s : Signature} (h : m.signature.withDefault m.name name d = .ok s) :
    runOn m (setDefault name d) = (.ok (), { m with signature := s }) := by
  rw [runOn, setDefault, run_get_bind, h]
  rfl

/-- A default is changed, or nothing is. -/
lemma setDefault_cases (m : Managed) (name : String) (d : Option Argument) :
    (∃ e, runOn m (setDefault name d) = (.error e, m)) ∨
      ∃ next, runOn m (setDefault name d) = (.ok (), next) ∧
        m.Changed next (Function.update m.signature.default? name d) := by
  cases h : m.signature.withDefault m.name name d with
  | error e => exact .inl ⟨e, setDefault_error h⟩
  | ok s =>
    obtain ⟨hshape, hvalid, hdefault⟩ := Signature.of_withDefault h
    exact .inr ⟨_, setDefault_ok h, hshape, fun hs => ⟨Signature.names_of_shape hshape ▸ hs.names, hvalid⟩, hdefault, rfl,
      rfl, rfl⟩

lemma assign_error (h : v.check a m.settings = .error e) : runOn m (assign name v a) = (.error e, m) := by
  rw [runOn, assign, run_get_bind, h]
  rfl

lemma assign_ok {b : Argument} (h : v.check a m.settings = .ok b) :
    runOn m (assign name v a) = runOn m (setDefault name (some b)) := by
  rw [runOn, assign, run_get_bind, h]
  rfl

lemma restore_error (h : m.value name = .error e) : runOn m (restore name) = (.error e, m) := by
  rw [runOn, restore, run_get_bind, h]
  rfl

lemma restore_ok (h : m.value name = .ok a) :
    runOn m (restore name) = runOn m (setDefault name (m.defaults.get? name)) := by
  rw [runOn, restore, run_get_bind, h]
  rfl

/-- All defaults are changed to the first ones, or nothing is. -/
lemma reset_cases (m : Managed) :
    (∃ e, runOn m reset = (.error e, m)) ∨
      ∃ next, runOn m reset = (.ok (), next) ∧
        m.Changed next fun name => if name ∈ m.signature.names then m.defaults.get? name else none := by
  rw [runOn, reset, run_get_bind]
  cases h : m.signature.withDefaults m.defaults.get? with
  | error e => exact .inl ⟨e, rfl⟩
  | ok s =>
    obtain ⟨hshape, hvalid, hdefault⟩ := Signature.of_withDefaults h
    exact .inr ⟨_, rfl, hshape, fun hs => ⟨Signature.names_of_shape hshape ▸ hs.names, hvalid⟩, hdefault, rfl, rfl, rfl⟩

lemma setFirst_error {b : Argument} (h : runOn m (setDefault name (some b)) = (.error e, m)) :
    runOn m (setFirst name (some b)) = (.error e, m) :=
  run_bind_error _ h

lemma setFirst_ok {b : Argument} {next : Managed} (h : runOn m (setDefault name (some b)) = (.ok (), next)) :
    runOn m (setFirst name (some b)) = (.ok (), { next with defaults := next.defaults.set name b }) :=
  run_bind_ok _ h

lemma register_error (h : m.firstDefault name v d = .error e) : runOn m (register name v d) = (.error e, m) := by
  rw [runOn, register, run_get_bind, h]
  rfl

lemma register_ok {first : Option Argument} (h : m.firstDefault name v d = .ok first) :
    runOn m (register name v d) = runOn m (do
      setFirst name first
      modify fun m => { m with validators := m.validators ++ [(name, v)] }) := by
  rw [runOn, register, run_get_bind, h]
  rfl

/-- An argument becomes a managed one with a validated default or without a default, or nothing is changed. -/
lemma register_cases (m : Managed) (name : String) (v : Validator) (d : Option Argument) :
    (∃ e, runOn m (register name v d) = (.error e, m)) ∨
      ∃ first next, m.firstDefault name v d = .ok first ∧ runOn m (register name v d) = (.ok (), next) ∧
        m.Extended next name v first := by
  cases h : m.firstDefault name v d with
  | error e => exact .inl ⟨e, register_error h⟩
  | ok first =>
    obtain ⟨hmem, -, hnone⟩ := Managed.of_firstDefault h
    rw [register_ok h]
    cases first with
    | none =>
      refine .inr ⟨none, _, rfl, rfl, hmem, rfl, id, ?_, rfl, ?_⟩
      · rw [← hnone rfl, Function.update_eq_self]
      · intro other
        rw [Option.none_or]
        split
        next heq => rw [heq]
        next => rfl
    | some b =>
      obtain ⟨e, hset⟩ | ⟨next, hset, hchanged⟩ := setDefault_cases m name (some b)
      · exact .inl ⟨e, run_bind_error _ (setFirst_error hset)⟩
      · refine .inr ⟨some b, _, rfl, run_bind_ok _ (setFirst_ok hset), hmem, hchanged.shape, hchanged.proper,
          hchanged.default?, ?_, ?_⟩
        · exact congrArg (· ++ [(name, v)]) hchanged.validators
        · intro other
          rw [← hchanged.first, Option.some_or]
          exact Arguments.get?_set _ _ _ _

/-! ### Changes that go through -/

lemma exists_setDefault (hs : m.signature.Proper) (hmem : name ∈ m.signature.names)
    (hd : d.isSome = (m.signature.default? name).isSome) : ∃ next, runOn m (setDefault name d) = (.ok (), next) := by
  obtain ⟨s, hok⟩ := Signature.exists_withDefault hs m.name hmem hd
  exact ⟨_, setDefault_ok hok⟩

lemma exists_reset (hs : m.signature.Proper)
    (hd : ∀ name ∈ m.signature.names, (m.defaults.get? name).isSome = (m.signature.default? name).isSome) :
    ∃ next, runOn m reset = (.ok (), next) := by
  obtain ⟨s, hok⟩ := Signature.exists_withDefaults hs hd
  rw [runOn, reset, run_get_bind, hok]
  exact ⟨_, rfl⟩

/-- A parameter that has a default becomes a managed argument as soon as its default is accepted. -/
lemma exists_register (hs : m.signature.Proper) (hd : (m.signature.default? name).isSome) {first : Option Argument}
    (hfirst : m.firstDefault name v d = .ok first) : ∃ next, runOn m (register name v d) = (.ok (), next) := by
  obtain ⟨hmem, -, hnone⟩ := Managed.of_firstDefault hfirst
  rw [register_ok hfirst]
  cases first with
  | none =>
    rw [hnone rfl] at hd
    cases hd
  | some b =>
    obtain ⟨next, hset⟩ := exists_setDefault (d := some b) hs hmem hd.symm
    exact ⟨_, run_bind_ok _ (setFirst_ok hset)⟩

end Adjustment

end Coercion
