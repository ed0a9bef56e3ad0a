import Coercion.Proofs.Settings.Threads
import Coercion.Settings.Standard

/-!
Threads do not see each other's settings. A thread starts with the settings that the creating thread has when the new one uses
the function for the first time. From then on it is as if it had the function to itself, whatever the others do and in
whatever order.
-/

namespace Coercion

namespace SharedFunction

open Adjustment (runOn)

variable {f g : SharedFunction} {t : Nat}

/-- Uses in threads, as operations. -/
def uses (turns : List (Nat × Use)) : List (Nat × Operation) :=
  turns.map fun turn => (turn.1, .use turn.2)

/-- The uses of one thread, as those of a creating one. -/
def own (t : Nat) (turns : List (Nat × Use)) : List (Nat × Use) :=
  (turns.filter fun turn => turn.1 == t).map fun turn => (0, turn.2)

/-- The function as if it had just been created by a thread that comes to it now, with what that thread finds. -/
def alone (f : SharedFunction) : SharedFunction :=
  { f with creator := f.newSeat, others := [] }

/-- Whether a use is about settings: it names a managed argument, or it names nothing. -/
def Use.concerns (properties : List (String × Validator)) : Use → Bool
  | .assign name _ | .delete name | .read name => (properties.lookup name.text).isSome
  | .reset | .settings | .call _ => true

lemma Use.exists_adjustment {properties : List (String × Validator)} {use : Use} (h : use.concerns properties) :
    ∃ x, use.adjustment properties = some x := by
  cases use with
  | reset | settings | call => exact ⟨_, rfl⟩
  | assign n | delete n | read n =>
    obtain ⟨v, hv⟩ := Option.isSome_iff_exists.1 h
    exact ⟨_, congrArg (Option.map _) hv⟩

/-- What becomes of the settings of a thread in a use of its own. -/
def Use.effect (properties : List (String × Validator)) (m : Managed) (use : Use) : Managed :=
  ((use.adjustment properties).map fun x => (runOn m x).2).getD m

/-- A use changes no registration, and the settings of its thread become what they become for anybody. -/
lemma after_use (hf : f.Tidy) (t : Nat) (use : Use) :
    (f.after (t, .use use)).properties = f.properties ∧
      (f.after (t, .use use)).managed t = use.effect f.properties (f.managed t) := by
  rw [after, Use.effect]
  cases h : use.adjustment f.properties with
  | none =>
    have hbeside := beside_of_no_adjustment (t := t) h
    exact ⟨hbeside.properties, hbeside.managed t⟩
  | some x =>
    rw [step_of_adjustment hf h]
    exact ⟨properties_withSeat, managed_withManaged _⟩

lemma properties_run (hf : f.Tidy) (turns : List (Nat × Use)) : (f.run (uses turns)).properties = f.properties := by
  induction turns generalizing f with
  | nil => rfl
  | cons turn turns ih =>
    have hrest := ih (tidy_after hf (turn.1, .use turn.2))
    exact hrest.trans (after_use hf turn.1 turn.2).1

/-- The settings of a thread that has used the function depend on its own uses alone. -/
lemma managed_run (hf : f.Tidy) (ht : f.hasEntered t) (turns : List (Nat × Use)) :
    (f.run (uses turns)).managed t =
      ((own t turns).map Prod.snd).foldl (Use.effect f.properties) (f.managed t) := by
  induction turns generalizing f with
  | nil => rfl
  | cons turn turns ih =>
    obtain ⟨u, use⟩ := turn
    obtain ⟨hentered, hother⟩ := after_of_ne hf (u, .use use) ht
    obtain ⟨hproperties, hmanaged⟩ := after_use hf u use
    refine (ih (tidy_after hf _) hentered).trans ?_
    rw [hproperties, own, own, List.filter_cons]
    by_cases hu : u = t
    · subst hu
      rw [if_pos (beq_self_eq_true u), hmanaged]
      rfl
    · rw [if_neg (mt beq_iff_eq.1 hu), hother (Ne.symm hu)]

/-- A use that gets through the layers brings its thread to the function. -/
lemma hasEntered_after (hf : f.Tidy) {use : Use} (h : f.reaches (.use use) = true) :
    (f.after (t, .use use)).hasEntered t := by
  rw [after]
  cases hadjustment : use.adjustment f.properties with
  | some x =>
    rw [step_of_adjustment hf hadjustment]
    exact hasEntered_withSeat_self
  | none =>
    have hbeside := beside_enter f t
    rw [step_of_reaches h]
    have hnone : use.adjustment (f.enter t).properties = none := hbeside.properties.symm ▸ hadjustment
    exact (access_of_no_adjustment hnone).1.entered t hasEntered_withSeat_self

/-- The settings of a thread, from its first use of the function on. -/
lemma managed_run_first (hf : f.Tidy) (ht : ¬ f.hasEntered t) {first : Use} (hfirst : f.reaches (.use first) = true)
    (rest : List (Nat × Use)) :
    (f.run (uses ((t, first) :: rest))).managed t =
      (first :: (own t rest).map Prod.snd).foldl (Use.effect f.properties) (f.managed 0) := by
  obtain ⟨hproperties, hmanaged⟩ := after_use hf t first
  refine (managed_run (tidy_after hf _) (hasEntered_after hf hfirst) rest).trans ?_
  rw [hproperties, hmanaged, managed_of_not_hasEntered ht]
  rfl

lemma tidy_alone (hf : f.Tidy) : f.alone.Tidy := ⟨hf.covered, hf.apart⟩

lemma own_own (t : Nat) (turns : List (Nat × Use)) : own 0 (own t turns) = own t turns := by
  rw [own, List.filter_eq_self.2 fun turn hturn => ?_]
  · refine (List.map_congr_left ?_).trans (List.map_id _)
    intro turn hturn
    obtain ⟨before, -, rfl⟩ := List.mem_map.1 hturn
    rfl
  · obtain ⟨before, -, rfl⟩ := List.mem_map.1 hturn
    rfl

/-- The settings of somebody who has the function to themselves. -/
lemma managed_run_alone (hf : f.Tidy) (first : Use) (rest : List (Nat × Use)) :
    (f.alone.run (uses ((0, first) :: own t rest))).managed 0 =
      (first :: (own t rest).map Prod.snd).foldl (Use.effect f.properties) (f.managed 0) := by
  have hown : own 0 ((0, first) :: own t rest) = (0, first) :: own t rest := congrArg _ (own_own t rest)
  refine (managed_run (tidy_alone hf) (.inl rfl) _).trans ?_
  rw [hown]
  rfl

/-- What a use that is about settings answers depends on the settings of its thread. -/
lemma answer_congr {u : Nat} (hf : f.Tidy) (hg : g.Tidy) (hproperties : g.properties = f.properties)
    (hmanaged : f.managed t = g.managed u) {use : Use} (h : use.concerns f.properties) :
    (f.step t (.use use)).1 = (g.step u (.use use)).1 := by
  obtain ⟨x, hx⟩ := use.exists_adjustment h
  rw [step_of_adjustment hf hx, step_of_adjustment hg (hproperties.symm ▸ hx), hmanaged]

/-- At every moment after the arguments have been registered: a thread that comes to the function finds the settings that the
creating thread has, and from then on its settings, and what its uses answer about settings, are those of somebody who has
the function to themselves; and no operation changes the settings of another thread that has used the function. -/
theorem isolated (name : String) (s : Signature) (attributes : Arguments) (layers : Nat)
    (before : List (Nat × Operation)) :
    let f := (create name s attributes layers).run before
    (∀ t first, ¬ f.hasEntered t → f.reaches (.use first) = true →
      (f.enter t).managed t = f.managed 0 ∧
        ∀ rest,
          let shared := f.run (uses ((t, first) :: rest))
          let single := f.alone.run (uses ((0, first) :: own t rest))
          shared.managed t = single.managed 0 ∧
            ∀ use : Use, use.concerns f.properties →
              (shared.step t (.use use)).1 = (single.step 0 (.use use)).1) ∧
      ∀ turn t, t ≠ turn.1 → f.hasEntered t → (f.after turn).managed t = f.managed t := by
  intro f
  have hf : f.Tidy := tidy_run (tidy_create name s attributes layers) before
  refine ⟨fun t first ht hfirst => ⟨?_, ?_⟩, fun turn t hne ht => (after_of_ne hf turn ht).2 hne⟩
  · rw [managed_enter, managed_of_not_hasEntered ht]
  · intro rest
    have hmanaged := (managed_run_first hf ht hfirst rest).trans (managed_run_alone hf first rest).symm
    have hshared := properties_run hf ((t, first) :: rest)
    have hsingle := properties_run (tidy_alone hf) ((0, first) :: own t rest)
    refine ⟨hmanaged, ?_⟩
    intro use huse
    have hproperties := hsingle.trans hshared.symm
    exact answer_congr (tidy_run hf _) (tidy_run (tidy_alone hf) _) hproperties hmanaged (hshared.symm ▸ huse)

lemma strict_not_mem_fixedNames : "strict" ∉ fixedNames := by decide

/-- The name of the setting for how closely payloads have to agree. -/
def strictName : AttributeName := ⟨"strict", strict_not_mem_fixedNames⟩

/-- What the creating thread does with the function that combines: it registers the arguments and turns one setting off. -/
def turnedOff : List (Nat × Operation) :=
  [(0, .register (.validator .strict) none none), (0, .register (.validator .lossy) none none),
    (0, .use (.assign strictName (.ofValue (.bool false))))]

/-- What three threads do then. -/
def mixedTurns : List (Nat × Use) :=
  [(0, .assign strictName (.ofValue (.bool true))), (1, .read strictName), (2, .reset)]

/-- A second thread takes over that the setting is turned off, and keeps it so while the first one turns it on again and a third
one resets it. -/
theorem isolated_combine :
    let f := (create "combine" EngineFunction.combine.signature [] 0).run turnedOff
    let shared := f.run (uses ((1, .settings) :: mixedTurns))
    let single := f.alone.run (uses ((0, .settings) :: own 1 mixedTurns))
    ¬ f.hasEntered 1 ∧ f.reaches (.use .settings) = true ∧ (f.enter 1).managed 1 = f.managed 0 ∧
      shared.managed 1 = single.managed 0 ∧
        (shared.step 1 (.use (.read strictName))).1 = (single.step 0 (.use (.read strictName))).1 ∧
          (f.after (1, .use .reset)).managed 0 = f.managed 0 ∧
            (shared.managed 1).settings.get? "strict" = some (.ofValue (.bool false)) := by
  have h := isolated "combine" EngineFunction.combine.signature [] 0 turnedOff
  have hnew : ¬ ((create "combine" EngineFunction.combine.signature [] 0).run turnedOff).hasEntered 1 := by
    rintro (h | h) <;> cases h
  obtain ⟨hstart, hrun⟩ := h.1 1 .settings hnew rfl
  obtain ⟨hmanaged, hanswer⟩ := hrun mixedTurns
  exact ⟨hnew, rfl, hstart, hmanaged, hanswer (.read strictName) (by rfl),
    h.2 (1, .use .reset) 0 Nat.zero_ne_one (.inl rfl), by rfl⟩

end SharedFunction

end Coercion
