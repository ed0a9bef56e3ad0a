import Coercion.Proofs.Settings.Managed
import Coercion.Settings.Session

/-!
What an operation of a thread does to a managed function. A use that is about the settings changes what its own thread has,
just as it would change a managed function that nobody shares; any other use leaves the settings of all threads as they are.
No managed argument is hidden by a layer.
-/

namespace Coercion

namespace SharedFunction

open Adjustment (runOn)

variable {f g : SharedFunction} {t u : Nat} {s : Seat}

/-! ### Threads -/

/-- Whether a thread has used the function. The creating one always has. -/
def hasEntered (f : SharedFunction) (t : Nat) : Prop :=
  t = 0 ∨ (f.others.lookup t).isSome

lemma lookup_others_ne {others : List (Nat × Seat)} (s : Seat) (h : u ≠ t) :
    ((t, s) :: others.filter fun p => p.1 != t).lookup u = others.lookup u := by
  rw [lookup_cons_eq_ite, if_neg h, lookup_filter_key fun v => v != t, if_pos (bne_iff_ne.2 h)]

@[simp] lemma properties_withSeat : (f.withSeat t s).properties = f.properties := by
  rw [withSeat]
  split <;> rfl

@[simp] lemma layers_withSeat : (f.withSeat t s).layers = f.layers := by
  rw [withSeat]
  split <;> rfl

@[simp] lemma attributes_withSeat : (f.withSeat t s).attributes = f.attributes := by
  rw [withSeat]
  split <;> rfl

@[simp] lemma seat_withSeat_self : (f.withSeat t s).seat t = s := by
  rw [seat, withSeat]
  by_cases h : t = 0
  · rw [if_pos h, if_pos h]
  · rw [if_neg h, if_neg h, lookup_cons_eq_ite, if_pos rfl]
    rfl

/-- What a thread has changes only in steps of its own, once it has used the function. -/
lemma seat_withSeat_of_ne (h : u ≠ t) (hu : f.hasEntered u) : (f.withSeat t s).seat u = f.seat u := by
  rw [seat, seat, withSeat]
  by_cases hu0 : u = 0
  · have ht : t ≠ 0 := by
      intro ht
      exact h (hu0.trans ht.symm)
    rw [if_pos hu0, if_pos hu0, if_neg ht]
  · obtain ⟨r, hr⟩ := Option.isSome_iff_exists.1 (hu.resolve_left hu0)
    rw [if_neg hu0, if_neg hu0, hr]
    by_cases ht : t = 0
    · rw [if_pos ht, hr]
      rfl
    · rw [if_neg ht, lookup_others_ne s h, hr]
      rfl

lemma hasEntered_withSeat (h : f.hasEntered u) : (f.withSeat t s).hasEntered u := by
  rw [withSeat]
  by_cases ht : t = 0
  · rw [if_pos ht]
    exact h
  · rw [if_neg ht]
    by_cases hut : u = t
    · exact .inr (by rw [hut, lookup_cons_eq_ite, if_pos rfl]; rfl)
    · exact h.imp_right fun h => by rwa [lookup_others_ne s hut]

lemma hasEntered_withSeat_self : (f.withSeat t s).hasEntered t := by
  rw [withSeat]
  by_cases ht : t = 0
  · exact .inl ht
  · rw [if_neg ht]
    exact .inr (by rw [lookup_cons_eq_ite, if_pos rfl]; rfl)

@[simp] lemma withSeat_withSeat (r : Seat) : (f.withSeat t s).withSeat t r = f.withSeat t r := by
  rw [withSeat, withSeat, withSeat]
  by_cases h : t = 0
  · rw [if_pos h, if_pos h, if_pos h]
  · rw [if_neg h, if_neg h, if_neg h]
    simp [List.filter_filter]

@[simp] lemma withManaged_enter (m : Managed) : (f.enter t).withManaged t m = f.withManaged t m := by
  rw [withManaged, enter, withSeat_withSeat, seat_withSeat_self, withManaged]

@[simp] lemma managed_enter : (f.enter t).managed t = f.managed t := by
  rw [managed, enter, seat_withSeat_self, managed]

@[simp] lemma managed_withManaged (m : Managed) : (f.withManaged t m).managed t = m := by
  rw [managed, withManaged, seat_withSeat_self]

lemma withManaged_self : f.withManaged t (f.managed t) = f.enter t := rfl

@[simp] lemma enter_enter : (f.enter t).enter t = f.enter t := by
  rw [enter, enter, withSeat_withSeat, seat_withSeat_self]

@[simp] lemma enter_zero : f.enter 0 = f := rfl

/-- A thread that uses the function for the first time finds what the creating thread has. -/
lemma managed_of_not_hasEntered (h : ¬ f.hasEntered t) : f.managed t = f.managed 0 := by
  rw [hasEntered, not_or] at h
  rw [managed, seat, if_neg h.1, Option.not_isSome_iff_eq_none.1 h.2]
  rfl

/-! ### Names -/

/-- The name of an attribute is none of those that are always taken. -/
lemma AttributeName.not_contains (n : AttributeName) {names : List String} (h : names ⊆ fixedNames) :
    names.contains n.text = false := by
  rw [Bool.eq_false_iff]
  intro hcontains
  have hmem : n.text ∈ names := List.contains_iff_mem.1 hcontains
  exact n.free (h hmem)

lemma AttributeName.not_layerNames (n : AttributeName) : layerNames.contains n.text = false := by
  refine n.not_contains ?_
  intro name hname
  simp [fixedNames, managedNames, hname]

lemma AttributeName.not_managedNames (n : AttributeName) : managedNames.contains n.text = false := by
  refine n.not_contains ?_
  intro name hname
  simp [fixedNames, hname]

lemma AttributeName.not_viewNames (n : AttributeName) : viewNames.contains n.text = false := by
  refine n.not_contains ?_
  intro name hname
  simp [fixedNames, hname]

/-- Layers have no names but those that are always taken and those of the function's own attributes, and managed
arguments have neither. -/
structure Tidy (f : SharedFunction) : Prop where
  covered : ∀ own ∈ f.layers, ∀ name, own.has name → name ∈ fixedNames ∨ f.attributes.has name
  apart : ∀ name, (f.properties.lookup name).isSome → name ∉ fixedNames ∧ f.attributes.has name = false

/-- No layer hides a managed argument. -/
lemma Tidy.not_has (hf : f.Tidy) {name : String} (h : (f.properties.lookup name).isSome) :
    ∀ own ∈ f.layers, own.has name = false := by
  intro own hown
  obtain ⟨hfixed, hattributes⟩ := hf.apart name h
  refine Bool.eq_false_iff.2 ?_
  intro hhas
  obtain hmem | hmem := hf.covered own hown name hhas
  · exact hfixed hmem
  · rw [hattributes] at hmem
    cases hmem

lemma deleteFrom_eq_none_iff {name : String} {layers : List Arguments} :
    deleteFrom name layers = none ↔ ∀ own ∈ layers, own.has name = false := by
  induction layers with
  | nil => simp [deleteFrom]
  | cons own layers ih =>
    rw [deleteFrom, List.forall_mem_cons, ← ih]
    by_cases h : own.has name <;> simp [h]

/-- A deletion from layers leaves no name there that has not been there before. -/
lemma exists_of_deleteFrom {name : String} {layers rest : List Arguments} (h : deleteFrom name layers = some rest) :
    ∀ own ∈ rest, ∃ before ∈ layers, ∀ other, own.has other → before.has other := by
  induction layers generalizing rest with
  | nil => cases h
  | cons first layers ih =>
    rw [deleteFrom] at h
    by_cases hfirst : first.has name
    · rw [if_pos hfirst] at h
      cases h
      rw [List.forall_mem_cons]
      refine ⟨⟨first, List.mem_cons_self, ?_⟩, fun own hown => ⟨own, List.mem_cons_of_mem _ hown, fun _ => id⟩⟩
      intro other hother
      rw [Arguments.has_eq_isSome_get?, Arguments.get?_erase] at hother
      rw [Arguments.has_eq_isSome_get?]
      split at hother
      · cases hother
      · exact hother
    · rw [if_neg hfirst] at h
      obtain ⟨tail, htail, rfl⟩ := Option.map_eq_some_iff.1 h
      rw [List.forall_mem_cons]
      refine ⟨⟨first, List.mem_cons_self, fun _ => id⟩, ?_⟩
      intro own hown
      obtain ⟨before, hbefore, hhas⟩ := ih htail own hown
      exact ⟨before, List.mem_cons_of_mem _ hbefore, hhas⟩

lemma findSome?_get?_eq_none {name : String} {layers : List Arguments} (h : ∀ own ∈ layers, own.has name = false) :
    layers.findSome? (fun own => own.get? name) = none := by
  refine List.findSome?_eq_none_iff.2 fun own hown => ?_
  have hnot := h own hown
  rw [Arguments.has_eq_isSome_get?] at hnot
  exact Option.not_isSome_iff_eq_none.1 (Bool.eq_false_iff.1 hnot)

/-! ### Other attributes -/

/-- A function after a change that is not about the settings of any thread. -/
structure Beside (f g : SharedFunction) : Prop where
  managed : ∀ v, g.managed v = f.managed v
  properties : g.properties = f.properties
  entered : ∀ v, f.hasEntered v → g.hasEntered v
  tidy : f.Tidy → g.Tidy

lemma Beside.refl (f : SharedFunction) : Beside f f :=
  ⟨fun _ => rfl, rfl, fun _ => id, id⟩

lemma Beside.trans {h : SharedFunction} (hfg : Beside f g) (hgh : Beside g h) : Beside f h where
  managed v := by rw [hgh.managed, hfg.managed]
  properties := by rw [hgh.properties, hfg.properties]
  entered v hv := by
    have hentered := hfg.entered v hv
    exact hgh.entered v hentered
  tidy hf := by
    have htidy := hfg.tidy hf
    exact hgh.tidy htidy

/-- Settings are not read from attributes. -/
lemma managed_congr (hcreator : g.creator = f.creator) (hothers : g.others = f.others) (v : Nat) :
    g.managed v = f.managed v := by
  rw [managed, managed, seat, seat, hcreator, hothers]
  by_cases hv : v = 0
  · rw [if_pos hv, if_pos hv]
  · rw [if_neg hv, if_neg hv, newSeat, newSeat, hcreator]
    cases f.others.lookup v <;> rfl

lemma managed_enter_of_ne {v : Nat} (h : v ≠ t) : (f.enter t).managed v = f.managed v := by
  by_cases ht : t = 0
  · rw [ht, enter_zero]
  · have hothers : (f.enter t).others = (t, f.seat t) :: f.others.filter fun p => p.1 != t := by
      rw [enter, withSeat, if_neg ht]
    have hcreator : (f.enter t).creator = f.creator := by
      rw [enter, withSeat, if_neg ht]
    rw [managed, managed, seat, seat, hcreator, hothers, lookup_others_ne _ h, newSeat, newSeat, hcreator]
    by_cases hv : v = 0
    · rw [if_pos hv, if_pos hv]
    · rw [if_neg hv, if_neg hv]
      cases f.others.lookup v <;> rfl

lemma beside_enter (f : SharedFunction) (t : Nat) : Beside f (f.enter t) where
  managed v := by
    by_cases h : v = t
    · rw [h, managed_enter]
    · exact managed_enter_of_ne h
  properties := properties_withSeat
  entered _ := hasEntered_withSeat
  tidy hf := by
    refine ⟨?_, ?_⟩
    · rw [enter, layers_withSeat, attributes_withSeat]
      exact hf.covered
    · rw [enter, properties_withSeat, attributes_withSeat]
      exact hf.apart

lemma beside_setAttribute {name : String} (a : Argument) (h : f.properties.lookup name = none) :
    Beside f { f with attributes := f.attributes.set name a } := by
  have hhas : ∀ other, (f.attributes.set name a).has other = (other = name ∨ f.attributes.has other) := by
    intro other
    rw [Arguments.has_eq_isSome_get?, Arguments.has_eq_isSome_get?, Arguments.get?_set]
    by_cases hother : other = name <;> simp [hother]
  refine ⟨managed_congr rfl rfl, rfl, fun _ => id, fun hf => ⟨?_, ?_⟩⟩
  · intro own hown other hother
    refine (hf.covered own hown other hother).imp_right ?_
    intro hmem
    exact (hhas other).mpr (.inr hmem)
  · intro other hother
    refine (hf.apart other hother).imp_right fun hnot => Bool.eq_false_iff.2 ?_
    intro hset
    obtain rfl | hmem := (hhas other).mp hset
    · rw [h] at hother
      cases hother
    · rw [hnot] at hmem
      cases hmem

lemma beside_deleteLayer {name : String} {rest : List Arguments} (h : deleteFrom name f.layers = some rest) :
    Beside f { f with layers := rest } := by
  refine ⟨managed_congr rfl rfl, rfl, fun _ => id, fun hf => ⟨?_, hf.apart⟩⟩
  intro own hown other hother
  obtain ⟨before, hbefore, hhas⟩ := exists_of_deleteFrom h own hown
  exact hf.covered before hbefore other (hhas other hother)

lemma beside_deleteAttribute {name : String} (h : deleteFrom name f.layers = none) :
    Beside f { f with attributes := f.attributes.erase name } := by
  have hhas : ∀ other, (f.attributes.erase name).has other = (other ≠ name ∧ f.attributes.has other) := by
    intro other
    rw [Arguments.has_eq_isSome_get?, Arguments.has_eq_isSome_get?, Arguments.get?_erase]
    by_cases hother : other = name <;> simp [hother]
  refine ⟨managed_congr rfl rfl, rfl, fun _ => id, fun hf => ⟨?_, ?_⟩⟩
  · intro own hown other hother
    refine (hf.covered own hown other hother).imp_right fun hmem => (hhas other).mpr ⟨?_, hmem⟩
    rintro rfl
    rw [deleteFrom_eq_none_iff.1 h own hown] at hother
    cases hother
  · intro other hother
    refine (hf.apart other hother).imp_right fun hnot => Bool.eq_false_iff.2 ?_
    intro herase
    rw [((hhas other).mp herase).2] at hnot
    cases hnot

/-! ### Uses -/

/-- What a use comes to for the settings of its thread, if it is about them. -/
def Use.adjustment (properties : List (String × Validator)) : Use → Option (Adjustment Answer)
  | .assign name a => (properties.lookup name.text).map fun v => do
    Adjustment.assign name.text v a
    return .done
  | .delete name => (properties.lookup name.text).map fun _ => do
    Adjustment.restore name.text
    return .done
  | .reset => some do
    Adjustment.reset
    return .done
  | .read name => (properties.lookup name.text).map fun _ => do return .value (← (← get).value name.text)
  | .settings => some do return .settings (← get).settings
  | .call c => some do return .call (← (← get).call c)

section Access

variable {n : AttributeName} {v : Validator} {a : Argument}

lemma setAttribute_eq : Access.runOn f (.setAttribute t n.text a) = Access.runOn f (.setInner t n.text a) := by
  rw [Access.runOn, Access.setAttribute, run_get_bind, n.not_layerNames]
  cases f.layers <;> rfl

lemma setAttribute_managed (h : f.properties.lookup n.text = some v) :
    Access.runOn f (.setAttribute t n.text a) = Access.runOn f (.adjust t (.assign n.text v a)) := by
  rw [setAttribute_eq, Access.runOn, Access.setInner, run_get_bind, h]
  rfl

lemma setAttribute_other (h : f.properties.lookup n.text = none) :
    Access.runOn f (.setAttribute t n.text a) = (.ok (), { f with attributes := f.attributes.set n.text a }) := by
  rw [setAttribute_eq, Access.runOn, Access.setInner, run_get_bind, h, n.not_viewNames, n.not_managedNames]
  rfl

lemma deleteAttribute_layer {rest : List Arguments} (h : deleteFrom n.text f.layers = some rest) :
    Access.runOn f (.deleteAttribute t n.text) = (.ok (), { f with layers := rest }) := by
  rw [Access.runOn, Access.deleteAttribute, run_get_bind, h]
  rfl

lemma deleteAttribute_managed (hlayers : deleteFrom n.text f.layers = none) (h : f.properties.lookup n.text = some v) :
    Access.runOn f (.deleteAttribute t n.text) = Access.runOn f (.adjust t (.restore n.text)) := by
  rw [Access.runOn, Access.deleteAttribute, run_get_bind, hlayers, Access.deleteInner, run_get_bind, h]
  rfl

lemma deleteAttribute_other (hlayers : deleteFrom n.text f.layers = none) (h : f.properties.lookup n.text = none) :
    Access.runOn f (.deleteAttribute t n.text) =
      if f.attributes.has n.text then (.ok (), { f with attributes := f.attributes.erase n.text })
      else (.error (.noAttribute "function" n.text), f) := by
  rw [Access.runOn, Access.deleteAttribute, run_get_bind, hlayers, Access.deleteInner, run_get_bind, h]
  by_cases hhas : f.attributes.has n.text
  · rw [if_pos hhas, if_pos hhas]
    rfl
  · rw [if_neg hhas, if_neg hhas]
    rfl

/-- An adjustment with an answer is made as one that nobody shares the function with. -/
lemma adjust_bind {α β : Type} (x : Adjustment α) (k : α → β) :
    Access.runOn f (do return k (← Access.adjust t x)) =
      ((runOn (f.managed t) (do return k (← x))).1, f.withManaged t (runOn (f.managed t) (do return k (← x))).2) := by
  have hadjust : Access.runOn f (.adjust t x) =
      ((runOn (f.managed t) x).1, f.withManaged t (runOn (f.managed t) x).2) := rfl
  cases hx : runOn (f.managed t) x with
  | mk r m =>
    rw [hx] at hadjust
    cases r with
    | error e =>
      rw [runOn, run_bind_error _ hx, Access.runOn, run_bind_error _ hadjust]
    | ok y =>
      rw [runOn, run_bind_ok _ hx, Access.runOn, run_bind_ok _ hadjust]
      rfl

end Access

lemma step_of_reaches {op : Operation} (h : f.reaches op = true) :
    f.step t op = Access.runOn (f.enter t) (op.access t) := by
  rw [step, if_pos h]

lemma step_of_not_reaches {op : Operation} (h : f.reaches op = false) : f.step t op = Access.runOn f (op.access t) := by
  rw [step, h, if_neg Bool.false_ne_true]

/-- No layer stops a use that is about settings. -/
lemma reaches_of_adjustment (hf : f.Tidy) {use : Use} {x : Adjustment Answer}
    (h : use.adjustment f.properties = some x) : f.reaches (.use use) = true := by
  cases use with
  | assign | reset | settings | call => rfl
  | delete n =>
    obtain ⟨v, hv, -⟩ := Option.map_eq_some_iff.1 h
    rw [reaches, deleteFrom_eq_none_iff.2 (hf.not_has (by rw [hv]; rfl))]
    rfl
  | read n =>
    obtain ⟨v, hv, -⟩ := Option.map_eq_some_iff.1 h
    rw [reaches, findSome?_get?_eq_none (hf.not_has (by rw [hv]; rfl))]
    rfl

lemma getAttribute_managed (hf : f.Tidy) {n : AttributeName} {v : Validator} (h : f.properties.lookup n.text = some v) :
    f.getAttribute t n.text = (f.managed t).value n.text := by
  rw [getAttribute, findSome?_get?_eq_none (hf.not_has (by rw [h]; rfl)), innerAttribute, h]

/-- What a thread that has used the function does in a use that is about settings. -/
lemma access_of_adjustment (hf : f.Tidy) (ht : f.enter t = f) {use : Use} {x : Adjustment Answer}
    (h : use.adjustment f.properties = some x) :
    Access.runOn f (use.access t) = ((runOn (f.managed t) x).1, f.withManaged t (runOn (f.managed t) x).2) := by
  -- a use that only looks leaves what the thread has
  have hlook : ∀ r : Except Failure Answer, (r, f) = (r, f.withManaged t (f.managed t)) := by
    intro r
    rw [withManaged_self, ht]
  cases use with
  | assign n a =>
    obtain ⟨v, hv, rfl⟩ := Option.map_eq_some_iff.1 h
    refine (run_bind_congr _ (setAttribute_managed hv)).trans ?_
    exact adjust_bind _ _
  | delete n =>
    obtain ⟨v, hv, rfl⟩ := Option.map_eq_some_iff.1 h
    have hnone := deleteFrom_eq_none_iff.2 (hf.not_has (by rw [hv]; rfl))
    refine (run_bind_congr _ (deleteAttribute_managed hnone hv)).trans ?_
    exact adjust_bind _ _
  | reset =>
    cases h
    exact adjust_bind _ _
  | read n =>
    obtain ⟨v, hv, rfl⟩ := Option.map_eq_some_iff.1 h
    rw [Use.access, Access.runOn, run_get_bind, getAttribute_managed hf hv, runOn, run_get_bind]
    cases (f.managed t).value n.text <;> exact hlook _
  | settings =>
    cases h
    exact hlook _
  | call c =>
    cases h
    rw [Use.access, Access.runOn, run_get_bind, runOn, run_get_bind]
    cases (f.managed t).call c <;> exact hlook _

/-- A use that is about settings changes those of its own thread, as it would if nobody shared the function. -/
lemma step_of_adjustment (hf : f.Tidy) {use : Use} {x : Adjustment Answer}
    (h : use.adjustment f.properties = some x) :
    f.step t (.use use) = ((runOn (f.managed t) x).1, f.withManaged t (runOn (f.managed t) x).2) := by
  have hbeside := beside_enter f t
  rw [← hbeside.properties] at h
  rw [step_of_reaches (reaches_of_adjustment hf (hbeside.properties ▸ h)), ← managed_enter, ← withManaged_enter]
  exact access_of_adjustment (hbeside.tidy hf) enter_enter h

/-- A use that is not about settings leaves those of all threads as they are, and it leaves everything as it is if it
fails. -/
lemma access_of_no_adjustment {use : Use} (h : use.adjustment f.properties = none) :
    Beside f (Access.runOn f (use.access t)).2 ∧
      ∀ e, (Access.runOn f (use.access t)).1 = .error e → (Access.runOn f (use.access t)).2 = f := by
  cases use with
  | reset | settings | call => cases h
  | assign n a =>
    have hn := Option.map_eq_none_iff.1 h
    have hrun : Access.runOn f (Use.access t (.assign n a)) =
        (.ok .done, { f with attributes := f.attributes.set n.text a }) := run_bind_ok _ (setAttribute_other hn)
    rw [hrun]
    exact ⟨beside_setAttribute a hn, fun e he => by cases he⟩
  | delete n =>
    have hn := Option.map_eq_none_iff.1 h
    cases hlayers : deleteFrom n.text f.layers with
    | some rest =>
      have hrun : Access.runOn f (Use.access t (.delete n)) = (.ok .done, { f with layers := rest }) :=
        run_bind_ok _ (deleteAttribute_layer hlayers)
      rw [hrun]
      exact ⟨beside_deleteLayer hlayers, fun e he => by cases he⟩
    | none =>
      have hother := deleteAttribute_other (t := t) hlayers hn
      by_cases hhas : f.attributes.has n.text
      · rw [if_pos hhas] at hother
        have hrun : Access.runOn f (Use.access t (.delete n)) =
            (.ok .done, { f with attributes := f.attributes.erase n.text }) := run_bind_ok _ hother
        rw [hrun]
        exact ⟨beside_deleteAttribute hlayers, fun e he => by cases he⟩
      · rw [if_neg hhas] at hother
        have hrun : Access.runOn f (Use.access t (.delete n)) = (.error (.noAttribute "function" n.text), f) :=
          run_bind_error _ hother
        rw [hrun]
        exact ⟨.refl f, fun _ _ => rfl⟩
  | read n =>
    have hrun : (Access.runOn f (Use.access t (.read n))).2 = f := by
      rw [Use.access, Access.runOn, run_get_bind]
      cases f.getAttribute t n.text <;> rfl
    rw [hrun]
    exact ⟨.refl f, fun _ _ => rfl⟩

/-- A use that is not about settings leaves those of all threads as they are. -/
lemma beside_of_no_adjustment {use : Use} (h : use.adjustment f.properties = none) :
    Beside f (f.step t (.use use)).2 := by
  by_cases hreaches : f.reaches (.use use) = true
  · rw [step_of_reaches hreaches]
    have hbeside := beside_enter f t
    have hnone : use.adjustment (f.enter t).properties = none := hbeside.properties.symm ▸ h
    exact hbeside.trans (access_of_no_adjustment hnone).1
  · rw [step_of_not_reaches (Bool.not_eq_true _ ▸ hreaches)]
    exact (access_of_no_adjustment h).1

/-! ### Registrations -/

lemma entryOf_enter (offer : ValidatorOffer) (given : Option Value) :
    (f.enter t).entryOf t offer given = f.entryOf t offer given := by
  have htaken : ∀ name, (f.enter t).isTaken t name = f.isTaken t name := by
    intro name
    rw [isTaken, isTaken, enter, properties_withSeat, seat_withSeat_self, attributes_withSeat]
  simp only [entryOf, managed_enter, htaken]

/-- An argument that is registered has a name that nothing else has. -/
lemma of_entryOf {offer : ValidatorOffer} {given : Option Value} {name : String} {v : Validator}
    (h : f.entryOf t offer given = .ok (name, v)) :
    admitted offer = .ok v ∧ argumentName given v = .ok name ∧ (f.managed t).validator? name = none ∧
      f.isTaken t name = false := by
  rw [entryOf] at h
  obtain ⟨w, hw, h⟩ := bind_eq_ok_iff.1 h
  obtain ⟨other, hother, h⟩ := bind_eq_ok_iff.1 h
  split_ifs at h with hvalidator htaken
  cases h
  exact ⟨hw, hother, Option.not_isSome_iff_eq_none.1 hvalidator, Bool.not_eq_true _ ▸ htaken⟩

section Register

variable {offer : ValidatorOffer} {given : Option Value} {d : Option Argument} {name : String} {v : Validator} {e : Failure}

lemma step_register_refused (h : f.entryOf t offer given = .error e) :
    f.step t (.register offer given d) = (.error e, f.enter t) := by
  rw [step_of_reaches rfl, Operation.access, Access.runOn]
  refine run_bind_error _ ?_
  rw [Access.register, run_get_bind, entryOf_enter, h]
  rfl

lemma run_register (h : f.entryOf t offer given = .ok (name, v)) :
    (Access.register t offer given d).run (f.enter t) = (do
      Access.adjust t (.register name v d)
      modify fun f => { f with properties := f.properties ++ [(name, v)] }
      return v : Access Validator).run (f.enter t) := by
  rw [Access.register, run_get_bind, entryOf_enter, h]
  rfl

lemma run_adjust_enter {α : Type} (x : Adjustment α) {r : Except Failure α} {next : Managed}
    (h : runOn (f.managed t) x = (r, next)) : (Access.adjust t x).run (f.enter t) = (r, f.withManaged t next) := by
  have hrun : (Access.adjust t x).run (f.enter t) =
      ((runOn ((f.enter t).managed t) x).1, (f.enter t).withManaged t (runOn ((f.enter t).managed t) x).2) := rfl
  rw [hrun, managed_enter, h, withManaged_enter]

lemma step_register_error (h : f.entryOf t offer given = .ok (name, v))
    (hrun : runOn (f.managed t) (.register name v d) = (.error e, f.managed t)) :
    f.step t (.register offer given d) = (.error e, f.enter t) := by
  rw [step_of_reaches rfl, Operation.access, Access.runOn]
  exact run_bind_error _ ((run_register h).trans (run_bind_error _ (run_adjust_enter _ hrun)))

lemma step_register_ok (h : f.entryOf t offer given = .ok (name, v)) {next : Managed}
    (hrun : runOn (f.managed t) (.register name v d) = (.ok (), next)) :
    f.step t (.register offer given d) =
      (.ok (.validator v), { f.withManaged t next with properties := f.properties ++ [(name, v)] }) := by
  have hproperties : (f.withManaged t next).properties = f.properties := properties_withSeat
  rw [step_of_reaches rfl, Operation.access, Access.runOn, ← hproperties]
  exact run_bind_ok _ ((run_register h).trans (run_bind_ok _ (run_adjust_enter _ hrun)))

end Register

/-- A registration changes the settings of its own thread and adds an attribute, or nothing. -/
lemma step_register_cases (f : SharedFunction) (t : Nat) (offer : ValidatorOffer) (given : Option Value)
    (d : Option Argument) :
    (∃ e, f.step t (.register offer given d) = (.error e, f.enter t)) ∨
      ∃ name v first next, f.entryOf t offer given = .ok (name, v) ∧ (f.managed t).firstDefault name v d = .ok first ∧
        (f.managed t).Extended next name v first ∧
          f.step t (.register offer given d) = (.ok (.validator v), { f.withManaged t next with
            properties := f.properties ++ [(name, v)] }) := by
  cases h : f.entryOf t offer given with
  | error e => exact .inl ⟨e, step_register_refused h⟩
  | ok entry =>
    obtain ⟨name, v⟩ := entry
    obtain ⟨e, hrun⟩ | ⟨first, next, hfirst, hrun, hextended⟩ := Adjustment.register_cases (f.managed t) name v d
    · exact .inl ⟨e, step_register_error h hrun⟩
    · exact .inr ⟨name, v, first, next, rfl, hfirst, hextended, step_register_ok h hrun⟩

/-! ### All operations -/

lemma tidy_create (name : String) (signature : Signature) (attributes : Arguments) (layers : Nat) :
    (create name signature attributes layers).Tidy := by
  refine ⟨?_, fun other hother => by cases hother⟩
  intro own hown other hother
  rw [(List.mem_replicate.1 hown).2, takenOver, Arguments.has, List.any_append, Bool.or_eq_true] at hother
  refine hother.imp_left ?_
  intro hname
  obtain ⟨x, hx, hxother⟩ := List.any_eq_true.1 hname
  have hfixed : ∀ x ∈ [("__name__", Argument.ofValue (.text name)), ("__qualname__", .ofValue (.text name))],
      x.1 ∈ fixedNames := by
    rw [List.forall_mem_cons, List.forall_mem_singleton]
    exact ⟨show "__name__" ∈ fixedNames by decide, show "__qualname__" ∈ fixedNames by decide⟩
  exact beq_iff_eq.1 hxother ▸ hfixed x hx

lemma tidy_withManaged (hf : f.Tidy) (m : Managed) : (f.withManaged t m).Tidy := by
  refine ⟨?_, ?_⟩
  · rw [withManaged, layers_withSeat, attributes_withSeat]
    exact hf.covered
  · rw [withManaged, properties_withSeat, attributes_withSeat]
    exact hf.apart

/-- A name that is not taken stays apart once it is that of a managed argument. -/
lemma Tidy.extend (hf : f.Tidy) {name : String} (v : Validator) (h : f.isTaken t name = false) :
    ({ f with properties := f.properties ++ [(name, v)] } : SharedFunction).Tidy := by
  refine ⟨hf.covered, ?_⟩
  intro other hother
  rw [isTaken] at h
  simp only [Bool.or_eq_false_iff] at h
  obtain ⟨⟨⟨hfixed, -⟩, -⟩, hattributes⟩ := h
  rw [List.lookup_append, Option.isSome_or, Bool.or_eq_true] at hother
  obtain hother | hother := hother
  · exact hf.apart other hother
  · rw [lookup_cons_eq_ite] at hother
    by_cases hname : other = name
    · rw [hname]
      exact ⟨fun hmem => Bool.eq_false_iff.1 hfixed (List.contains_iff_mem.2 hmem), hattributes⟩
    · rw [if_neg hname] at hother
      cases hother

lemma tidy_after (hf : f.Tidy) (turn : Nat × Operation) : (f.after turn).Tidy := by
  obtain ⟨t, op⟩ := turn
  rw [after]
  cases op with
  | use use =>
    cases h : use.adjustment f.properties with
    | none => exact (beside_of_no_adjustment h).tidy hf
    | some x =>
      rw [step_of_adjustment hf h]
      exact tidy_withManaged hf _
  | register offer given d =>
    obtain ⟨e, hstep⟩ | ⟨name, v, first, next, hentry, -, -, hstep⟩ := step_register_cases f t offer given d
    · rw [hstep]
      exact (beside_enter f t).tidy hf
    · have hproperties : (f.withManaged t next).properties = f.properties := properties_withSeat
      have htaken : (f.withManaged t next).isTaken t name = f.isTaken t name := by
        rw [isTaken, isTaken, withManaged, properties_withSeat, seat_withSeat_self, attributes_withSeat]
      rw [hstep, ← hproperties]
      have hfree := htaken.trans (of_entryOf hentry).2.2.2
      exact (tidy_withManaged hf next).extend v hfree

lemma tidy_run (hf : f.Tidy) (turns : List (Nat × Operation)) : (f.run turns).Tidy := by
  induction turns generalizing f with
  | nil => exact hf
  | cons turn turns ih => exact ih (tidy_after hf turn)

/-- What an operation of a thread leaves to another one: that thread has what it had if it had used the function. -/
lemma after_of_ne (hf : f.Tidy) (turn : Nat × Operation) {v : Nat} (hv : f.hasEntered v) :
    (f.after turn).hasEntered v ∧ (v ≠ turn.1 → (f.after turn).managed v = f.managed v) := by
  obtain ⟨t, op⟩ := turn
  have hother : ∀ m, v ≠ t → (f.withManaged t m).managed v = f.managed v := by
    intro m hne
    rw [managed, withManaged, seat_withSeat_of_ne hne hv, managed]
  rw [after]
  cases op with
  | use use =>
    cases h : use.adjustment f.properties with
    | none =>
      have hbeside := beside_of_no_adjustment (t := t) h
      exact ⟨hbeside.entered v hv, fun _ => hbeside.managed v⟩
    | some x =>
      rw [step_of_adjustment hf h]
      exact ⟨hasEntered_withSeat hv, hother _⟩
  | register offer given d =>
    obtain ⟨e, hstep⟩ | ⟨name, w, first, next, -, -, -, hstep⟩ := step_register_cases f t offer given d
    · rw [hstep]
      exact ⟨(beside_enter f t).entered v hv, fun _ => (beside_enter f t).managed v⟩
    · rw [hstep]
      refine ⟨hasEntered_withSeat (f := f) hv, ?_⟩
      intro hne
      exact (managed_congr rfl rfl v).trans (hother next hne)

end SharedFunction

end Coercion
