import Coercion.Proofs.Settings.Binding

/-!
Calls that are put together from bound arguments. The function that gets such a call binds it to its own parameters,
and has the bound arguments again, as long as it has been given everything that it asks for.
-/

namespace Coercion

/-- What a function gets for a parameter that has an argument. -/
def Parameter.received (p : Parameter) (a : Argument) : Argument :=
  if p.takesOne then .single a.toInput else a

/-- What has been bound to a parameter is what a function gets for it. -/
lemma Parameter.received_of_holds {s : Signature} {p : Parameter} {a : Argument} (h : s.Holds p a) :
    p.received a = a := by
  rw [Parameter.received]
  split
  next htakes =>
    obtain ⟨x, rfl⟩ := h.single htakes
    rfl
  next => rfl

namespace Signature

variable {s t : Signature} {ps qs : List Parameter} {keys : List String} {bound other : Arguments}

/-! ### What a call depends on -/

section Congruence

variable (hget : ∀ n, bound.get? n = other.get? n) (halike : List.Forall₂ Parameter.Alike ps qs)

include hget halike

lemma positionalArguments_congr : positionalArguments bound ps = positionalArguments other qs := by
  induction halike with
  | nil => rfl
  | cons h _ ih => rw [positionalArguments, positionalArguments, h.1, h.2, hget, ih]

lemma namedParameters_congr : List.Forall₂ Parameter.Alike (namedParameters bound ps) (namedParameters other qs) := by
  induction halike with
  | nil => exact .nil
  | cons h hrest ih =>
    rw [namedParameters, namedParameters, h.2]
    rw [Arguments.has_eq_isSome_get?, Arguments.has_eq_isSome_get?, h.1, hget]
    split
    · exact hrest.cons h
    · exact hrest.cons h
    · split
      · exact ih
      · exact hrest

end Congruence

lemma mapM_congr_alike {α : Type} {f g : Parameter → Except Failure α} (h : ∀ p q, p.Alike q → f p = g q)
    (halike : List.Forall₂ Parameter.Alike ps qs) : ps.mapM f = qs.mapM g := by
  induction halike with
  | nil => rfl
  | cons hp _ ih => rw [List.mapM_cons, List.mapM_cons, h _ _ hp, ih]

/-- A call depends on what the arguments are, and on how they are given. -/
lemma call_congr (hget : ∀ n, bound.get? n = other.get? n) (hshape : t.shape = s.shape) :
    t.call bound = s.call other := by
  have halike := alike_of_shape hshape
  have hnamed : namedArguments bound t.parameters = namedArguments other s.parameters := by
    rw [namedArguments, namedArguments, mapM_congr_alike (fun p q hp => ?_) (namedParameters_congr hget halike)]
    rw [hp.1, hp.2, hget]
  rw [call, call, positionalArguments_congr hget halike, hnamed]

/-! ### The parts of a signature -/

/-- The parameters of a function, by the ways in which they are given. -/
structure Parts where
  positional : List Parameter
  rest? : Option Parameter
  keyword : List Parameter
  named? : Option Parameter

namespace Parts

/-- What is not given by position one by one. -/
def later (parts : Parts) : List Parameter :=
  parts.keyword ++ parts.named?.toList

def all (parts : Parts) : List Parameter :=
  parts.positional ++ (parts.rest?.toList ++ parts.later)

/-- Whether every parameter is where it belongs. -/
structure Sorted (parts : Parts) : Prop where
  positional : ∀ p ∈ parts.positional, p.isPositional = true
  rest : ∀ p ∈ parts.rest?, p.kind = .rest
  keyword : ∀ p ∈ parts.keyword, p.kind = .keyword
  named : ∀ p ∈ parts.named?, p.kind = .named

end Parts

/-- Nothing that is given by position comes after what is not. -/
lemma not_isPositional_of_mayPrecede {p q : Parameter} (hp : p.isPositional = false)
    (h : p.kind.mayPrecede q.kind = true) : q.isPositional = false ∧ q.kind ≠ .rest := by
  cases hkind : p.kind <;> cases hother : q.kind <;>
    simp [Parameter.isPositional, ParameterKind.mayPrecede, hkind, hother] at hp h ⊢

/-- The parameters of a function come in parts. -/
lemma exists_parts (ho : ps.Pairwise fun p q => p.kind.mayPrecede q.kind = true) :
    ∃ parts : Parts, ps = parts.all ∧ parts.Sorted := by
  induction ps with
  | nil => exact ⟨⟨[], none, [], none⟩, rfl, ⟨by simp, by simp, by simp, by simp⟩⟩
  | cons p ps ih =>
    rw [List.pairwise_cons] at ho
    obtain ⟨hfirst, ho⟩ := ho
    obtain ⟨⟨positional, rest?, keyword, named?⟩, rfl, hparts⟩ := ih ho
    obtain ⟨hpositional, hrest, hkeyword, hnamed⟩ := hparts
    by_cases hp : p.isPositional = true
    · exact ⟨⟨p :: positional, rest?, keyword, named?⟩, rfl, List.forall_mem_cons.2 ⟨hp, hpositional⟩, hrest, hkeyword,
        hnamed⟩
    have hafter := fun q hq => not_isPositional_of_mayPrecede (Bool.not_eq_true _ ▸ hp) (hfirst q hq)
    obtain rfl : positional = [] := by
      refine List.eq_nil_iff_forall_not_mem.2 ?_
      intro q hq
      have hq' := (hafter q (by simp [Parts.all, hq])).1
      rw [hpositional q hq] at hq'
      cases hq'
    obtain rfl : rest? = none := by
      refine Option.eq_none_iff_forall_not_mem.2 ?_
      intro q hq
      exact (hafter q (by simp [Parts.all, Option.mem_def.1 hq])).2 (hrest q hq)
    cases hkind : p.kind with
    | positionalOnly | positional => simp [Parameter.isPositional, hkind] at hp
    | rest => exact ⟨⟨[], some p, keyword, named?⟩, rfl, by simp, by simp [hkind], hkeyword, hnamed⟩
    | keyword =>
      exact ⟨⟨[], none, p :: keyword, named?⟩, rfl, by simp, by simp, List.forall_mem_cons.2 ⟨hkind, hkeyword⟩, hnamed⟩
    | named =>
      rw [eq_nil_of_named hkind hfirst]
      exact ⟨⟨[], none, [], some p⟩, rfl, by simp, by simp, by simp, by simp [hkind]⟩

/-! ### What is passed on -/

/-- What a parameter for the rest of the arguments by position holds. -/
def inOrderOf : Argument → List Input
  | .rest xs => xs
  | _ => []

/-- What a parameter for the rest of the arguments by name holds. -/
def byNameOf : Argument → List (String × Input)
  | .named xs => xs
  | _ => []

/-- The further arguments by position. -/
def Parts.inOrder (parts : Parts) (val : Parameter → Argument) : List Input :=
  (parts.rest?.map fun p => inOrderOf (val p)).getD []

/-- The further arguments by name. -/
def Parts.byName (parts : Parts) (val : Parameter → Argument) : List (String × Input) :=
  (parts.named?.map fun p => byNameOf (val p)).getD []

variable {parts : Parts} {val : Parameter → Argument}

/-- The arguments for the parameters that take one each, as bound ones. -/
def entries (val : Parameter → Argument) (ps : List Parameter) : Arguments :=
  ps.map fun p => (p.name, .single (val p).toInput)

/-- The arguments for the parameters that take one each, as ones that are passed by name. -/
def pairs (val : Parameter → Argument) (ps : List Parameter) : List (String × Input) :=
  ps.map fun p => (p.name, (val p).toInput)

lemma kind_of_mem_later (hparts : parts.Sorted) {p : Parameter} (hp : p ∈ parts.later) :
    p.kind = .keyword ∨ p.kind = .named := by
  obtain hp | hp := List.mem_append.1 hp
  · exact .inl (hparts.keyword p hp)
  · exact .inr (hparts.named p (Option.mem_toList.1 hp))

lemma positionalArguments_later (hparts : parts.Sorted) : positionalArguments bound parts.later = .ok [] := by
  cases hlater : parts.later with
  | nil => rfl
  | cons p ps =>
    obtain hp | hp := kind_of_mem_later (p := p) hparts (by simp [hlater]) <;> rw [positionalArguments, hp]

lemma positionalArguments_append {xs : List Input} (hps : ∀ p ∈ ps, p.isPositional = true)
    (hval : ∀ p ∈ ps, bound.get? p.name = some (val p)) (h : positionalArguments bound qs = .ok xs) :
    positionalArguments bound (ps ++ qs) = .ok ((ps.map fun p => (val p).toInput) ++ xs) := by
  induction ps with
  | nil => exact h
  | cons p ps ih =>
    rw [List.forall_mem_cons] at hps hval
    have hrest := ih hps.2 hval.2
    rw [List.cons_append, positionalArguments, hval.1]
    cases hkind : p.kind with
    | positionalOnly | positional => exact bind_eq_ok_iff.2 ⟨_, hrest, rfl⟩
    | rest | keyword | named => simp [Parameter.isPositional, hkind] at hps

lemma bindPositional_entries {xs : List Input} {first : Arguments} {left : List Parameter}
    (hps : ∀ p ∈ ps, p.isPositional = true) (hfree : ∀ p ∈ ps, ¬ (p.kind = .positional ∧ p.name ∈ keys))
    (h : bindPositional keys qs xs = .ok (first, left)) :
    bindPositional keys (ps ++ qs) ((ps.map fun p => (val p).toInput) ++ xs) = .ok (entries val ps ++ first, left) := by
  induction ps with
  | nil => exact h
  | cons p ps ih =>
    rw [List.forall_mem_cons] at hps hfree
    exact bindPositional_one hps.1 hfree.1 (ih hps.2 hfree.2)

lemma namedParameters_append (hps : ∀ p ∈ ps, p.isPositional = true ∨ p.kind = .rest)
    (hhas : ∀ p ∈ ps, bound.has p.name = true) :
    namedParameters bound (ps ++ qs) = namedParameters bound qs := by
  induction ps with
  | nil => rfl
  | cons p ps ih =>
    rw [List.forall_mem_cons] at hps hhas
    rw [List.cons_append, namedParameters, if_pos hhas.1, ih hps.2 hhas.2]
    cases hkind : p.kind with
    | positionalOnly | positional | rest => rfl
    | keyword | named => simp [Parameter.isPositional, hkind] at hps

/-- Arguments with different names are passed by name one after the other. -/
lemma foldl_passNamed (xs ys : List (String × Input)) (h : ((xs ++ ys).map Prod.fst).Nodup) :
    ys.foldl passNamed xs = xs ++ ys := by
  induction ys generalizing xs with
  | nil => exact (List.append_nil xs).symm
  | cons y ys ih =>
    have hnew : (xs.any fun x => x.1 == y.1) = false := by
      rw [List.map_append, List.nodup_append] at h
      rw [List.any_eq_false]
      intro x hx heq
      exact h.2.2 x.1 (List.mem_map_of_mem hx) y.1 (by simp) (beq_iff_eq.1 heq)
    rw [List.foldl_cons, passNamed, hnew, if_neg Bool.false_ne_true, List.append_cons xs y ys]
    exact ih (xs ++ [y]) (by simpa using h)

/-- Whether a list of bound arguments tells what the parameters hold; a rest may be left out where there is none. -/
structure Tells (all : Arguments) (val : Parameter → Argument) (ps : List Parameter) : Prop where
  sound : ∀ x ∈ all, ∃ p ∈ ps, x = (p.name, p.received (val p))
  complete : ∀ p ∈ ps, (p.name, p.received (val p)) ∈ all ∨ (p.kind = .rest ∧ val p = .rest []) ∨
    (p.kind = .named ∧ val p = .named [])

lemma Tells.append {xs ys : Arguments} (hx : Tells xs val ps) (hy : Tells ys val qs) :
    Tells (xs ++ ys) val (ps ++ qs) where
  sound x hx' := by
    obtain h | h := List.mem_append.1 hx'
    · refine (hx.sound x h).imp ?_
      intro p hp
      exact ⟨List.mem_append_left _ hp.1, hp.2⟩
    · refine (hy.sound x h).imp ?_
      intro p hp
      exact ⟨List.mem_append_right _ hp.1, hp.2⟩
  complete p hp := by
    obtain h | h := List.mem_append.1 hp
    · exact (hx.complete p h).imp_left (List.mem_append_left _)
    · exact (hy.complete p h).imp_left (List.mem_append_right _)

lemma tells_entries (hps : ∀ p ∈ ps, p.takesOne = true) : Tells (entries val ps) val ps where
  sound x hx := by
    obtain ⟨p, hp, rfl⟩ := List.mem_map.1 hx
    exact ⟨p, hp, by rw [Parameter.received, if_pos (hps p hp)]⟩
  complete p hp := by
    rw [Parameter.received, if_pos (hps p hp)]
    exact .inl (List.mem_map_of_mem hp)

/-- What the arguments by position leave of the parameters: those that are not given by position, behind one for the
rest that has got nothing. -/
def Parts.Leaves (parts : Parts) (left : List Parameter) : Prop :=
  left = parts.later ∨ ∃ p, p.kind = .rest ∧ left = p :: parts.later

/-- The further arguments by position are bound to the parameter for them, if there are any. -/
lemma bindPositional_inOrder (keys : List String) (hparts : parts.Sorted)
    (hrest : ∀ p ∈ parts.rest?, ∃ xs, val p = .rest xs) :
    ∃ first left, bindPositional keys (parts.rest?.toList ++ parts.later) (parts.inOrder val) = .ok (first, left) ∧
      Tells first val parts.rest?.toList ∧ parts.Leaves left := by
  obtain ⟨positional, rest?, keyword, named?⟩ := parts
  cases rest? with
  | none =>
    exact ⟨[], _, by simp [Parts.inOrder, bindPositional], ⟨by simp, by simp⟩, .inl rfl⟩
  | some p =>
    have hkind : p.kind = .rest := hparts.rest p rfl
    obtain ⟨xs, hxs⟩ := hrest p rfl
    have hreceived : p.received (val p) = val p := by simp [Parameter.received, Parameter.takesOne, hkind]
    have hinOrder : Parts.inOrder ⟨positional, some p, keyword, named?⟩ val = xs := by
      simp [Parts.inOrder, inOrderOf, hxs]
    rw [hinOrder]
    rw [hxs] at hreceived
    cases xs with
    | nil => exact ⟨[], _, by rw [bindPositional]; rfl, ⟨by simp, by simp [hkind, hxs]⟩, .inr ⟨p, hkind, rfl⟩⟩
    | cons x xs =>
      exact ⟨_, _, bindPositional_rest hkind, ⟨by simp [hreceived, hxs], by simp [hreceived, hxs]⟩, .inl rfl⟩

lemma lookup_pairs (hps : (ps.map Parameter.name).Nodup) {p : Parameter} (hp : p ∈ ps)
    (further : List (String × Input)) :
    (pairs val ps ++ further).lookup p.name = some (val p).toInput := by
  induction ps with
  | nil => cases hp
  | cons q ps ih =>
    rw [List.map_cons, List.nodup_cons] at hps
    rw [pairs, List.map_cons, List.cons_append, lookup_cons_eq_ite]
    obtain rfl | hp := List.mem_cons.1 hp
    · exact if_pos rfl
    · have hne : p.name ≠ q.name := by
        intro heq
        exact hps.1 (heq ▸ List.mem_map_of_mem hp)
      rw [if_neg hne]
      exact ih hps.2 hp

/-- The further arguments by name are bound to the parameter for them, if there are any. -/
lemma bindRest_byName {left : List Parameter} (hparts : parts.Sorted)
    (hfind : (left.find? fun p => p.kind = .named) = parts.named?)
    (hnamed : ∀ p ∈ parts.named?, ∃ xs, val p = .named xs) :
    ∃ rest, bindRest left (parts.byName val) = .ok rest ∧ Tells rest val parts.named?.toList := by
  obtain ⟨positional, rest?, keyword, named?⟩ := parts
  cases named? with
  | none => exact ⟨[], rfl, ⟨by simp, by simp⟩⟩
  | some p =>
    have hkind : p.kind = .named := hparts.named p rfl
    obtain ⟨xs, hxs⟩ := hnamed p rfl
    have hreceived : p.received (.named xs) = .named xs := by simp [Parameter.received, Parameter.takesOne, hkind]
    have hbyName : Parts.byName ⟨positional, rest?, keyword, some p⟩ val = xs := by simp [Parts.byName, byNameOf, hxs]
    rw [hbyName, bindRest, hfind]
    cases xs with
    | nil => exact ⟨[], rfl, ⟨by simp, by simp [hkind, hxs]⟩⟩
    | cons x xs => exact ⟨_, rfl, ⟨by simp [hreceived, hxs], by simp [hreceived, hxs]⟩⟩

section Left

variable {left : List Parameter} (hparts : parts.Sorted) (hleft : parts.Leaves left)

include hparts

lemma takesOne_of_mem_keyword : ∀ p ∈ parts.keyword, p.takesOne = true := fun p hp => by
  simp [Parameter.takesOne, hparts.keyword p hp]

include hleft

/-- What is left takes one argument each just if it is given by name only. -/
lemma filter_takesOne_of_leaves : left.filter Parameter.takesOne = parts.keyword := by
  have hlater : parts.later.filter Parameter.takesOne = parts.keyword := by
    have hnamed : parts.named?.toList.filter Parameter.takesOne = [] := List.filter_eq_nil_iff.2 fun p hp => by
      simp [Parameter.takesOne, hparts.named p (Option.mem_toList.1 hp)]
    rw [Parts.later, List.filter_append, List.filter_eq_self.2 (takesOne_of_mem_keyword hparts), hnamed,
      List.append_nil]
  obtain rfl | ⟨p, hkind, rfl⟩ := hleft
  · exact hlater
  · rw [List.filter_cons_of_neg (by simp [Parameter.takesOne, hkind]), hlater]

lemma find?_named_of_leaves : (left.find? fun p => p.kind = .named) = parts.named? := by
  have hlater : (parts.later.find? fun p => p.kind = .named) = parts.named? := by
    rw [Parts.later, List.find?_append, List.find?_eq_none.2 fun p hp => by simp [hparts.keyword p hp], Option.none_or]
    cases hlast : parts.named? with
    | none => rfl
    | some p => simp [hparts.named p hlast]
  obtain rfl | ⟨p, hkind, rfl⟩ := hleft
  · exact hlater
  · rw [List.find?_cons_of_neg (by simp [hkind]), hlater]

/-- No parameter takes an argument that is passed on beside those for parameters. -/
lemma leftOver_of_leaves (hfree : ∀ p ∈ parts.keyword, p.name ∉ (parts.byName val).map Prod.fst) :
    leftOver left (pairs val parts.keyword ++ parts.byName val) = parts.byName val := by
  rw [leftOver, filter_takesOne_of_leaves hparts hleft, List.filter_append]
  have hnone : (pairs val parts.keyword).filter (fun x => !parts.keyword.any fun p => p.name == x.1) = [] := by
    rw [List.filter_eq_nil_iff, pairs, List.forall_mem_map]
    intro p hp
    simp only [Bool.not_eq_true', Bool.not_eq_false, List.any_eq_true]
    exact ⟨p, hp, beq_self_eq_true _⟩
  have hall : (parts.byName val).filter (fun x => !parts.keyword.any fun p => p.name == x.1) = parts.byName val := by
    refine List.filter_eq_self.2 ?_
    intro x hx
    rw [Bool.not_eq_true', List.any_eq_false]
    intro p hp heq
    exact hfree p hp (beq_iff_eq.1 heq ▸ List.mem_map_of_mem hx)
  rw [hnone, hall, List.nil_append]

/-- The arguments that are passed by name are bound to the parameters that are given by name only, and to the one for
further ones. -/
lemma bindNamed_byName (hnames : (parts.keyword.map Parameter.name).Nodup)
    (hnamed : ∀ p ∈ parts.named?, ∃ xs, val p = .named xs)
    (hfree : ∀ p ∈ parts.keyword, p.name ∉ (parts.byName val).map Prod.fst) :
    ∃ second, bindNamed left (pairs val parts.keyword ++ parts.byName val) = .ok second ∧
      Tells second val parts.later := by
  have htakers := filter_takesOne_of_leaves hparts hleft
  have hasked : ∀ p ∈ left, p.kind = .positionalOnly →
      (pairs val parts.keyword ++ parts.byName val).lookup p.name = none := by
    intro p hp hkind
    have htaker : p ∈ parts.keyword := htakers ▸ List.mem_filter.2 ⟨hp, by simp [Parameter.takesOne, hkind]⟩
    rw [hparts.keyword p htaker] at hkind
    cases hkind
  have hones : bindOnes left (pairs val parts.keyword ++ parts.byName val) = entries val parts.keyword := by
    rw [bindOnes, htakers, entries, ← List.filterMap_eq_map]
    exact List.filterMap_congr fun p hp => by rw [lookup_pairs hnames hp]; rfl
  have hleftOver := leftOver_of_leaves hparts hleft hfree
  obtain ⟨rest, hrest, htells⟩ := bindRest_byName hparts (find?_named_of_leaves hparts hleft) hnamed
  exact ⟨entries val parts.keyword ++ rest,
    bindNamed_eq_ok_iff.2 ⟨hasked, rest, by rw [hleftOver, hrest], by rw [hones]⟩,
    (tells_entries (takesOne_of_mem_keyword hparts)).append htells⟩

end Left

/-- What a parameter that is not given by position passes on by name. -/
def passedBy (val : Parameter → Argument) (p : Parameter) : List (String × Input) :=
  if p.kind = .named then byNameOf (val p) else [(p.name, (val p).toInput)]

lemma flatten_passedBy (hparts : parts.Sorted) :
    (parts.later.map (passedBy val)).flatten = pairs val parts.keyword ++ parts.byName val := by
  have hkeyword : (parts.keyword.map (passedBy val)).flatten = pairs val parts.keyword := by
    have hone : ∀ p ∈ parts.keyword, passedBy val p = [(p.name, (val p).toInput)] := fun p hp => by
      rw [passedBy, if_neg (by simp [hparts.keyword p hp])]
    rw [List.map_congr_left hone, ← List.flatMap_def, ← List.map_eq_flatMap, pairs]
  have hnamed : (parts.named?.toList.map (passedBy val)).flatten = parts.byName val := by
    rw [Parts.byName]
    cases hlast : parts.named? with
    | none => rfl
    | some p => simp [passedBy, hparts.named p hlast]
  rw [Parts.later, List.map_append, List.flatten_append, hkeyword, hnamed]

lemma map_fst_pairs (ps : List Parameter) : (pairs val ps).map Prod.fst = ps.map Parameter.name := by
  rw [pairs, List.map_map]
  rfl

/-- The arguments that are passed by name. -/
lemma namedArguments_parts (hparts : parts.Sorted) (hnames : (parts.all.map Parameter.name).Nodup)
    (hval : ∀ p ∈ parts.all, bound.get? p.name = some (val p))
    (hnamed : ∀ p ∈ parts.named?, ∃ xs, val p = .named xs) (hkeys : ((parts.byName val).map Prod.fst).Nodup)
    (hfree : ∀ p ∈ parts.keyword, p.name ∉ (parts.byName val).map Prod.fst) :
    namedArguments bound parts.all = .ok (pairs val parts.keyword ++ parts.byName val) := by
  have hassoc : parts.all = (parts.positional ++ parts.rest?.toList) ++ parts.later := (List.append_assoc ..).symm
  have hparameters : namedParameters bound parts.all = parts.later := by
    rw [hassoc, namedParameters_append (fun p hp => ?_) fun p hp => ?_]
    · cases hlater : parts.later with
      | nil => rfl
      | cons p ps =>
        obtain hp | hp := kind_of_mem_later (p := p) hparts (by simp [hlater]) <;> rw [namedParameters, hp]
    · rcases List.mem_append.1 hp with hp | hp
      · exact .inl (hparts.positional p hp)
      · exact .inr (hparts.rest p (Option.mem_toList.1 hp))
    · rw [Arguments.has_eq_isSome_get?, hval p (hassoc ▸ List.mem_append_left _ hp)]
      rfl
  have hnodup : ((pairs val parts.keyword ++ parts.byName val).map Prod.fst).Nodup := by
    rw [Parts.all, Parts.later] at hnames
    simp only [List.map_append, List.nodup_append] at hnames
    rw [List.map_append, map_fst_pairs, List.nodup_append]
    refine ⟨hnames.2.1.2.1.1, hkeys, ?_⟩
    rintro n hn _ hx rfl
    obtain ⟨p, hp, rfl⟩ := List.mem_map.1 hn
    exact hfree p hp hx
  rw [namedArguments, hparameters, mapM_eq_ok_map (g := passedBy val) fun p hp => ?_]
  · rw [← flatten_passedBy hparts] at hnodup ⊢
    exact congrArg Except.ok (foldl_passNamed [] _ hnodup)
  · rw [hval p (hassoc ▸ List.mem_append_right _ hp), passedBy]
    obtain hkeyword | hlast := List.mem_append.1 hp
    · rw [hparts.keyword p hkeyword]
      rfl
    · have hlast := Option.mem_toList.1 hlast
      obtain ⟨xs, hxs⟩ := hnamed p hlast
      rw [hparts.named p hlast, hxs]
      rfl

lemma positionalArguments_inOrder (hparts : parts.Sorted) (hrest : ∀ p ∈ parts.rest?, ∃ xs, val p = .rest xs)
    (hval : ∀ p ∈ parts.rest?, bound.get? p.name = some (val p)) :
    positionalArguments bound (parts.rest?.toList ++ parts.later) = .ok (parts.inOrder val) := by
  have hlater : positionalArguments bound parts.later = .ok [] := positionalArguments_later hparts
  rw [Parts.inOrder]
  cases hmiddle : parts.rest? with
  | none => exact hlater
  | some p =>
    obtain ⟨xs, hxs⟩ := hrest p hmiddle
    rw [Option.toList_some, List.singleton_append, positionalArguments, hparts.rest p hmiddle, hval p hmiddle,
      Option.map_some, Option.getD_some, hxs]
    exact bind_eq_ok_iff.2 ⟨xs, rfl, bind_eq_ok_iff.2 ⟨[], hlater, congrArg Except.ok (List.append_nil xs)⟩⟩

/-- What the parameter for further arguments by name holds belongs to nobody else. -/
lemma byName_of_holds (hparts : parts.Sorted) (hholds : ∀ p ∈ parts.named?, s.Holds p (val p)) :
    (∀ p ∈ parts.named?, ∃ xs, val p = .named xs) ∧ ((parts.byName val).map Prod.fst).Nodup ∧
      ∀ q ∈ s.parameters, q.isNamed = true → q.name ∉ (parts.byName val).map Prod.fst := by
  rw [Parts.byName]
  cases hlast : parts.named? with
  | none => simp
  | some p =>
    obtain ⟨xs, hxs, hnodup, hfree⟩ := (hholds p hlast).named (hparts.named p hlast)
    refine ⟨fun q hq => ⟨xs, Option.mem_some_iff.1 hq ▸ hxs⟩, ?_⟩
    rw [Option.map_some, Option.getD_some, hxs]
    exact ⟨hnodup, hfree⟩

lemma default?_of_takesRest (hs : s.Proper) {p : Parameter} (hp : p ∈ s.parameters) (htakes : p.takesOne = false) :
    p.default? = none := by
  have hvalid := hs.valid
  rw [isValid, Bool.and_eq_true, List.all_eq_true] at hvalid
  simpa [htakes] using hvalid.2 p hp

/-- Bound arguments that tell what the parameters hold are filled up to just that. -/
lemma fill_of_tells (hs : s.Proper) {all : Arguments} (h : Tells all val s.parameters) :
    s.fill all = s.parameters.map fun p => (p.name, p.received (val p)) := by
  rw [fill, ← List.filterMap_eq_map]
  refine List.filterMap_congr fun p hp => ?_
  cases hget : all.get? p.name with
  | some a =>
    obtain ⟨q, hq, heq⟩ := h.sound _ (mem_of_lookup hget)
    obtain ⟨hname, rfl⟩ := Prod.mk.inj heq
    rw [List.inj_on_of_nodup_map hs.names hp hq hname]
    rfl
  | none =>
    have hnone : ∀ a, (p.name, a) ∉ all := by
      intro a ha
      simpa using List.lookup_eq_none_iff.1 hget _ ha
    obtain hmem | ⟨hkind, hval⟩ | ⟨hkind, hval⟩ := h.complete p hp
    · exact absurd hmem (hnone _)
    all_goals
      have htakes : p.takesOne = false := by simp [Parameter.takesOne, hkind]
      rw [default?_of_takesRest hs hp htakes, hkind]
      simp [Parameter.received, htakes, hval]

/-- A function that binds a call to arguments that tell what its parameters hold has just that. -/
lemma complete_of_tells (function : String) (hs : s.Proper) {c : Call} {all : Arguments} (hbind : s.bind c = .ok all)
    (h : Tells all val s.parameters) :
    s.complete function c = .ok (s.parameters.map fun p => (p.name, p.received (val p))) := by
  have hthere : ∀ p ∈ s.parameters,
      Arguments.has (s.parameters.map fun p => (p.name, p.received (val p))) p.name = true := by
    intro p hp
    rw [Arguments.has, List.any_map, List.any_eq_true]
    exact ⟨p, hp, beq_self_eq_true _⟩
  have hlacking : (s.parameters.filter fun p => p.takesOne &&
      !Arguments.has (s.parameters.map fun p => (p.name, p.received (val p))) p.name) = [] :=
    List.filter_eq_nil_iff.2 fun p hp => by simp [hthere p hp]
  rw [complete, hbind]
  refine bind_eq_ok_iff.2 ⟨_, rfl, ?_⟩
  dsimp only
  rw [fill_of_tells hs h, hlacking]
  rfl

/-- The call that stands for what the parameters hold. -/
def Parts.passed (parts : Parts) (val : Parameter → Argument) : Call :=
  ⟨(parts.positional.map fun p => (val p).toInput) ++ parts.inOrder val, pairs val parts.keyword ++ parts.byName val⟩

lemma mem_all {p : Parameter} :
    p ∈ parts.all ↔ p ∈ parts.positional ∨ p ∈ parts.rest? ∨ p ∈ parts.keyword ∨ p ∈ parts.named? := by
  simp [Parts.all, Parts.later]

section Passed

variable (hall : s.parameters = parts.all) (hparts : parts.Sorted)
  (hval : ∀ p ∈ s.parameters, p.takesOne = false → s.Holds p (val p))

include hall hparts hval

/-- What the parameters for the rest hold. -/
lemma rests_of_holds : (∀ p ∈ parts.rest?, ∃ xs, val p = .rest xs) ∧ (∀ p ∈ parts.named?, ∃ xs, val p = .named xs) ∧
    ((parts.byName val).map Prod.fst).Nodup ∧
      ∀ q ∈ parts.all, q.isNamed = true → q.name ∉ (parts.byName val).map Prod.fst := by
  rw [hall] at hval
  have hnamed := byName_of_holds hparts fun p hp =>
    hval p (mem_all.2 (.inr (.inr (.inr hp)))) (by simp [Parameter.takesOne, hparts.named p hp])
  rw [hall] at hnamed
  refine ⟨?_, hnamed⟩
  intro p hp
  have hkind := hparts.rest p hp
  have hnot : p.takesOne = false := by simp [Parameter.takesOne, hkind]
  exact (hval p (mem_all.2 (.inr (.inl hp))) hnot).rest hkind

variable (hs : s.Proper)

include hs

lemma call_passed (hget : ∀ p ∈ s.parameters, bound.get? p.name = some (val p)) :
    s.call bound = .ok (parts.passed val) := by
  obtain ⟨hrest, hnamed, hkeys, hapart⟩ := rests_of_holds hall hparts hval
  have hnames := hs.names
  rw [names, hall] at hnames
  rw [hall] at hget
  have hfree : ∀ p ∈ parts.keyword, p.name ∉ (parts.byName val).map Prod.fst := by
    intro p hp
    have hkind := hparts.keyword p hp
    exact hapart p (mem_all.2 (.inr (.inr (.inl hp)))) (by simp [Parameter.isNamed, hkind])
  have hpositional : positionalArguments bound parts.all =
      .ok ((parts.positional.map fun p => (val p).toInput) ++ parts.inOrder val) :=
    positionalArguments_append hparts.positional (fun p hp => hget p (List.mem_append_left _ hp))
      (positionalArguments_inOrder hparts hrest fun p hp => hget p (mem_all.2 (.inr (.inl hp))))
  rw [call, hall, namedArguments_parts hparts hnames hget hnamed hkeys hfree]
  exact bind_eq_ok_iff.2 ⟨_, hpositional, rfl⟩

lemma bind_passed : ∃ all, s.bind (parts.passed val) = .ok all ∧ Tells all val s.parameters := by
  obtain ⟨hrest, hnamed, hkeys, hapart⟩ := rests_of_holds hall hparts hval
  have hnames := hs.names
  rw [names, hall, Parts.all, Parts.later] at hnames
  simp only [List.map_append, List.nodup_append] at hnames
  have hfree : ∀ p ∈ parts.keyword, p.name ∉ (parts.byName val).map Prod.fst := by
    intro p hp
    have hkind := hparts.keyword p hp
    exact hapart p (mem_all.2 (.inr (.inr (.inl hp)))) (by simp [Parameter.isNamed, hkind])
  have hunnamed : ∀ p ∈ parts.positional,
      ¬ (p.kind = .positional ∧ p.name ∈ (pairs val parts.keyword ++ parts.byName val).map Prod.fst) := by
    rintro p hp ⟨hkind, hname⟩
    rw [List.map_append, map_fst_pairs] at hname
    obtain hname | hname := List.mem_append.1 hname
    · exact hnames.2.2 p.name (List.mem_map_of_mem hp) p.name (by simp [hname]) rfl
    · exact hapart p (mem_all.2 (.inl hp)) (by simp [Parameter.isNamed, hkind]) hname
  obtain ⟨first, left, hfirst, htells, hleft⟩ :=
    bindPositional_inOrder ((pairs val parts.keyword ++ parts.byName val).map Prod.fst) hparts hrest
  obtain ⟨second, hsecond, htells'⟩ := bindNamed_byName hparts hleft hnames.2.1.2.1.1 hnamed hfree
  have hone := fun p hp => Parameter.takesOne_of_isPositional (hparts.positional p hp)
  refine ⟨entries val parts.positional ++ first ++ second, bind_iff.2 ⟨_, left, second, ?_, hsecond, rfl⟩, ?_⟩
  · rw [hall]
    exact bindPositional_entries hparts.positional hunnamed hfirst
  · rw [hall, List.append_assoc]
    exact (tells_entries hone).append (htells.append htells')

end Passed

lemma get?_map_received (hs : s.names.Nodup) {p : Parameter} (hp : p ∈ s.parameters) :
    Arguments.get? (s.parameters.map fun p => (p.name, p.received (val p))) p.name = some (p.received (val p)) := by
  have hget := get?_filterMap (fun p => some (p.received (val p))) hs p.name
  rw [← find?, find?_of_mem hs hp, Option.bind_some] at hget
  rw [← hget, ← List.filterMap_eq_map']
  rfl

/-- The argument that is bound to a parameter. -/
def valueIn (bound : Arguments) (p : Parameter) : Argument :=
  (bound.get? p.name).getD default

/-- **A function gets what it is given.** Bound arguments can be put together to a call as soon as every parameter
holds one, and a function that gets the call has them again. -/
theorem complete_call (function : String) (hs : s.Proper) (ho : s.Ordered)
    (hbound : ∀ p ∈ s.parameters, ∃ a, bound.get? p.name = some a ∧ (p.takesOne = false → s.Holds p a)) :
    ∃ passed received, s.call bound = .ok passed ∧ s.complete function passed = .ok received ∧
      ∀ p ∈ s.parameters, ∀ a, bound.get? p.name = some a → received.get? p.name = some (p.received a) := by
  rw [Ordered, shape, List.pairwise_map] at ho
  obtain ⟨parts, hall, hparts⟩ := exists_parts ho
  have hget : ∀ p ∈ s.parameters, bound.get? p.name = some (valueIn bound p) := by
    intro p hp
    obtain ⟨a, ha, -⟩ := hbound p hp
    rw [valueIn, ha, Option.getD_some]
  have hval : ∀ p ∈ s.parameters, p.takesOne = false → s.Holds p (valueIn bound p) := by
    intro p hp htakes
    obtain ⟨a, ha, hholds⟩ := hbound p hp
    rw [valueIn, ha, Option.getD_some]
    exact hholds htakes
  obtain ⟨all, hbind, htells⟩ := bind_passed hall hparts hval hs
  refine ⟨_, _, call_passed hall hparts hval hs hget, complete_of_tells function hs hbind htells, ?_⟩
  intro p hp a ha
  rw [get?_map_received hs.names hp, valueIn, ha, Option.getD_some]

end Signature

end Coercion
