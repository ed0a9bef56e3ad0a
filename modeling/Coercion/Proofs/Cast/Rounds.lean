import Coercion.Proofs.Cast.Contract
import Coercion.Proofs.Cast.Layers

/-!
Casts of list vectors, round by round. A cast of a list vector to a kind with values of its own opens the lists, reads what
is in them, and leaves the rest to a cast within the cast. How many casts there may be inside each other is limited, but
the limit is never reached: with one cast for each layer of lists and one for what is in them, what comes of a cast is
told by rules that know of no limit.
-/

namespace Coercion

namespace Registry

open VectorType Column

variable {s t : VectorType} {v w last : TypedVector} {f : Failure} {fuel : Nat} {decompose : Bool} {r : CastResult}
  {execute : Executor} {outcome : Except Failure CastResult}

/-! ### One round -/

/-- A failure to read what is in lists, in terms of the lists. -/
def refusalReading (source target : VectorType) (f : Failure) : Failure :=
  if f.isTypeFailure then .noCast source target f.message else f

lemma WellFormed.admits_list (hv : v.WellFormed) (hlist : v.type = .list) : ∀ x ∈ v.values, Admits .list x :=
  hlist ▸ hv.admitted

lemma mapM_opened (hv : v.WellFormed) (hlist : v.type = .list) :
    v.values.mapM Caster.opened = .ok (v.values.map fun x => (x.alone, x.isUneven)) :=
  mapM_eq_ok_map fun x hx => Value.opened_of_admits (WellFormed.admits_list hv hlist x hx)

/-- What is in the lists cannot be read. -/
lemma run_unread (hv : v.WellFormed) (hlist : v.type = .list) (hread : readOpen (.ofValues v.inside) = .error f) :
    Caster.listToAny.run execute v t = .error (refusalReading v.type t f) := by
  have hvalues : (v.values.map fun x => (x.alone, x.isUneven)).map (·.1) = v.inside := List.map_map
  have hread : ((ofValues v.inside).detect >>= fun s => s.vectorOf (ofValues v.inside)) = .error f := hread
  rw [refusalReading]
  simp only [Caster.listToAny, mapM_opened hv hlist, bind, Except.bind, hvalues] at hread ⊢
  rw [hread]
  cases htype : f.isTypeFailure <;> simp only [htype, Bool.false_eq_true, if_true, if_false] <;> rfl

/-- What is in the lists is read, but cannot be cast. -/
lemma run_refused (hv : v.WellFormed) (hround : Round v w) (hcast : execute w t = .error f) :
    Caster.listToAny.run execute v t = .error (Caster.refusalInside v.type t f) := by
  have hvalues : (v.values.map fun x => (x.alone, x.isUneven)).map (·.1) = v.inside := List.map_map
  have hread : ((ofValues v.inside).detect >>= fun s => s.vectorOf (ofValues v.inside)) = .ok w := hround.read
  simp only [Caster.listToAny, mapM_opened hv hround.list, bind, Except.bind, hvalues] at hread ⊢
  rw [hread]
  simp only [pure, Except.pure, hcast]
  rfl

/-- What is in the lists is read and cast, and the lists that have not one value are flagged. -/
lemma run_returned (hv : v.WellFormed) (hround : Round v w) (hcast : execute w t = .ok r) :
    Caster.listToAny.run execute v t = .ok (.result r.vector (v.unevenPositions ++ r.lossy)) := by
  have hvalues : (v.values.map fun x => (x.alone, x.isUneven)).map (·.1) = v.inside := List.map_map
  have hflags : (v.values.map fun x => (x.alone, x.isUneven)).map (·.2) = v.values.map Value.isUneven := List.map_map
  have hread : ((ofValues v.inside).detect >>= fun s => s.vectorOf (ofValues v.inside)) = .ok w := hround.read
  simp only [Caster.listToAny, mapM_opened hv hround.list, bind, Except.bind, hvalues, hflags] at hread ⊢
  rw [hread]
  simp only [pure, Except.pure, hcast]
  rfl

/-! ### Outcomes -/

/-- What a cast along any route returns is of the type that was asked for, and as long as what was cast. -/
lemma castWithin_returned (hv : v.type = .null → v.size = 0) (h : standard.castWithin fuel decompose v t = .ok r) :
    r.vector.type.Equals t ∧ r.vector.size = v.size := by
  rw [← Making.castWithin_standard] at h
  cases fuel with
  | zero => cases h
  | succ fuel => exact Making.attempt_returned hv (Making.standard_fits t) h

lemma size_of_sameMissing {xs ys : List Value} (h : SameMissing xs ys) : ys.length = xs.length :=
  h.length_eq.symm

/-- A round comes to one vector only. -/
lemma Round.unique {other : TypedVector} (h : Round v w) (h' : Round v other) : other = w :=
  Except.ok.inj (h'.read.symm.trans h.read)

lemma Round.readable (h : Round v w) : readOpen (.ofValues v.inside) ≠ .error f := by
  rw [h.read]
  rintro ⟨⟩

/-- A round keeps the number of elements. -/
lemma Round.size_eq (h : Round v w) : w.size = v.size :=
  (size_of_sameMissing h.reads.2.1).trans (List.length_map _)

lemma checked_of_returned (ht : t.IsStandard) {source : TypedVector} (lossy : List Nat) (htype : w.type.Equals t)
    (hsize : w.size = source.size) :
    (CasterOutput.result w lossy).checked source t = .ok ⟨w, sortedPositions lossy⟩ := by
  have hsame : (w.type == t) = true := by
    rcases htype with heq | hsame
    · rw [heq]
      exact same_refl ht
    · exact hsame
  rw [CasterOutput.checked]
  simp only [hsame, Bool.not_true, Bool.false_eq_true, if_false]
  exact if_neg (not_not.2 hsize)

/-- What comes of a cast to a kind with values of its own, told round by round: what is in the lists may not be read, or not
be cast, and then this is said in terms of the lists; and if it is cast, the lists that have not one value are flagged as
well. What is no list vector is cast as it is. -/
inductive Yields (t : VectorType) : TypedVector → Except Failure CastResult → Prop where
  | last {v : TypedVector} (noList : v.type ≠ .list) : Yields t v (standard.castWithin 1 false v t)
  | unread {v : TypedVector} {f : Failure} (list : v.type = .list) (read : readOpen (.ofValues v.inside) = .error f) :
    Yields t v (.error (refusalReading v.type t f))
  | refused {v w : TypedVector} {f : Failure} (round : Round v w) (rest : Yields t w (.error f)) :
    Yields t v (.error (Caster.refusalInside v.type t f))
  | returned {v w : TypedVector} {r : CastResult} (round : Round v w) (rest : Yields t w (.ok r)) :
    Yields t v (.ok ⟨r.vector, sortedPositions (v.unevenPositions ++ r.lossy)⟩)

/-- A vector that is no list vector needs one cast: the casters of its kind do no casts on their way. -/
lemma castWithin_last (hs : v.type.IsStandard) (ht : t.IsStandard) (hlist : v.type ≠ .list) (fuel : Nat) :
    standard.castWithin (fuel + 1) false v t = standard.castWithin 1 false v t := by
  have htakes := takes_route standard false v.type t
  rw [castWithin, castWithin]
  generalize standard.route false v.type t = route at htakes
  cases htakes with
  | direct needed found =>
    rw [casterFor?_standard hs ht] at found
    obtain ⟨name, run, rfl⟩ := plain_of_caster? hs ht hlist found
    rfl
  | decomposed needed missing detour => exact absurd detour.allowed Bool.false_ne_true
  | fallback needed missing noDetour found =>
    rw [casterFor?_any hs] at found
    split_ifs at found
    cases found
    rfl
  | _ => rfl

/-- **Casts keep to the rounds.** With one cast for each layer of lists and one for what is in them, a cast within a cast
yields what the rounds yield. -/
theorem yields_castWithin (ht : t.IsStandard) (hdec : Decomposable t) (hv : v.WellFormed) (hfuel : v.nesting < fuel)
    (hdirect : v.type ≠ .list → decompose = false) : Yields t v (standard.castWithin fuel decompose v t) := by
  induction fuel generalizing v decompose with
  | zero => omega
  | succ fuel ih =>
    by_cases hlist : v.type = .list
    · have hcast : standard.castWithin (fuel + 1) decompose v t =
          Caster.listToAny.run (standard.castWithin fuel false) v t >>= fun output => output.checked v t := by
        obtain ⟨s, c⟩ := v
        subst hlist
        exact castWithin_list fuel c ht hdec
      rw [hcast]
      cases hread : readOpen (.ofValues v.inside) with
      | error f =>
        rw [run_unread hv hlist hread]
        exact .unread hlist hread
      | ok w =>
        have hround : Round v w := ⟨hlist, hread⟩
        have hless := hround.nesting_lt
        have hrest : Yields t w (standard.castWithin fuel false w t) :=
          ih hround.reads.1 (by omega) fun _ => rfl
        cases hinner : standard.castWithin fuel false w t with
        | error f =>
          rw [run_refused hv hround hinner]
          exact .refused hround (hinner ▸ hrest)
        | ok r =>
          rw [run_returned hv hround hinner]
          have hnull : w.type = .null → w.size = 0 := by
            intro hs
            rw [TypedVector.size, Column.size, show w.column.values = [] from hround.reads.1.values_of_null hs]
            rfl
          obtain ⟨htype, hsize⟩ := castWithin_returned hnull hinner
          have hchecked := checked_of_returned ht (v.unevenPositions ++ r.lossy) htype (hsize.trans hround.size_eq)
          change Yields t v ((CasterOutput.result r.vector (v.unevenPositions ++ r.lossy)).checked v t)
          rw [hchecked]
          exact .returned hround (hinner ▸ hrest)
    · rw [hdirect hlist, castWithin_last hv.standard ht hlist]
      exact .last hlist

/-- The rounds yield one outcome only. -/
lemma Yields.unique {other : Except Failure CastResult} (h : Yields t v outcome) (h' : Yields t v other) :
    other = outcome := by
  induction h generalizing other with
  | last noList =>
    cases h' with
    | last => rfl
    | unread list => exact absurd list noList
    | refused round => exact absurd round.list noList
    | returned round => exact absurd round.list noList
  | unread list read =>
    cases h' with
    | last noList => exact absurd list noList
    | unread _ read' => rw [Except.error.inj (read'.symm.trans read)]
    | refused round => exact absurd read round.readable
    | returned round => exact absurd read round.readable
  | refused round rest ih =>
    cases h' with
    | last noList => exact absurd round.list noList
    | unread _ read => exact absurd read round.readable
    | refused round' rest' =>
      obtain rfl := round.unique round'
      rw [Except.error.inj (ih rest')]
    | returned round' rest' =>
      obtain rfl := round.unique round'
      cases ih rest'
  | returned round rest ih =>
    cases h' with
    | last noList => exact absurd round.list noList
    | unread _ read => exact absurd read round.readable
    | refused round' rest' =>
      obtain rfl := round.unique round'
      cases ih rest'
    | returned round' rest' =>
      obtain rfl := round.unique round'
      rw [Except.ok.inj (ih rest')]

end Registry

end Coercion
