import Coercion.Proofs.Cast.Missing
import Coercion.Proofs.Cast.Refused

/-!
Unwrapping. To cast a list vector, its lists are opened and what is in them is cast, which is how a cast comes to be within a
cast. This comes to an end, since each round takes a layer of lists away and no cast within a cast goes through the
decomposed form: the limit on casts within casts is never reached, and casts satisfy the equation by which they were
meant to be defined, which knows of no limit. What a list vector has lost in the end was lost in one of the rounds, where
a list had not one value, or in the last cast, which is of no list vector.
-/

namespace Coercion

open VectorType Column

variable {t : VectorType} {v u w last : TypedVector} {decompose d : Bool} {r final : CastResult} {n m i : Nat}
  {execute execute' limit limit' : Executor} {c : Caster} {x : Value} {outcome : Except Failure CastResult}

/-- Whether there is a list at a position of a list vector, but not of one value. -/
def TypedVector.IsUnevenAt (v : TypedVector) (i : Nat) : Prop :=
  v.type = .list ∧ ∃ xs, v.values[i]? = some (.list xs) ∧ xs.length ≠ 1

namespace Registry

/-! ### Casts within casts -/

/-- The casts that a cast consists of, each with whether it may go through the decomposed form: the cast itself, and those of
what comes of the rounds, which may not. -/
inductive Involves (decompose : Bool) (v : TypedVector) : Bool → TypedVector → Prop where
  | whole : Involves decompose v decompose v
  | inner {d : Bool} {u w : TypedVector} (outer : Involves decompose v d u) (round : Round u w) :
    Involves decompose v false w

lemma Involves.wellFormed (h : Involves decompose v d u) (hv : v.WellFormed) : u.WellFormed := by
  cases h with
  | whole => exact hv
  | inner _ round => exact round.reads.1

lemma Involves.eq_false (h : Involves decompose v d u) (hlist : v.type = .list) (hu : u.type ≠ .list) : d = false := by
  cases h with
  | whole => exact absurd hlist hu
  | inner => rfl

/-- Opening lists takes one cast, and that of what is in them. -/
lemma run_congr (hv : v.WellFormed) (hlist : v.type = .list) (h : ∀ w, Round v w → execute w t = execute' w t) :
    Caster.listToAny.run execute v t = Caster.listToAny.run execute' v t := by
  cases hread : readOpen (.ofValues v.inside) with
  | error f => rw [run_unread hv hlist hread, run_unread hv hlist hread]
  | ok w =>
    have hround : Round v w := ⟨hlist, hread⟩
    cases hcast : execute w t with
    | error f => rw [run_refused hv hround hcast, run_refused hv hround ((h w hround).symm.trans hcast)]
    | ok r => rw [run_returned hv hround hcast, run_returned hv hround ((h w hround).symm.trans hcast)]

/-- No caster but that for list vectors casts in turn. -/
lemma call_congr (hv : v.WellFormed) (ht : t.IsStandard) (hc : caster? v.type t = some c)
    (h : ∀ w, Round v w → execute w t = execute' w t) : c.call execute v t = c.call execute' v t := by
  by_cases hlist : v.type = .list
  · have hrun := run_congr hv hlist h
    rw [hlist] at hc
    cases ht with
    | list =>
      cases hc
      rfl
    | null => cases hc
    | unspecified => cases hc
    | _ =>
      cases hc
      rw [Caster.call, Caster.call, hrun]
  · obtain ⟨name, f, rfl⟩ := plain_of_caster? hv.standard ht hlist hc
    rfl

/-- A cast of lists, or one that may not go through the decomposed form, does not go through it. -/
lemma route_ne_decomposed {apart together : Caster} (hd : v.type ≠ .list → d = false) :
    standard.route d v.type t ≠ .decomposed apart together := by
  intro hroute
  have htakes := takes_route standard d v.type t
  rw [hroute] at htakes
  cases htakes with
  | decomposed _ _ detour =>
    have hallowed := detour.allowed.symm.trans (hd detour.ne_list)
    cases hallowed

/-- **One cast takes no other cast than that of the next round.** -/
lemma attempt_congr (hv : v.WellFormed) (ht : t.IsStandard) (hd : v.type ≠ .list → d = false)
    (h : ∀ w, Round v w → execute w t = execute' w t) :
    Making.standard.attempt standard execute d v t = Making.standard.attempt standard execute' d v t := by
  have htakes := takes_route standard d v.type t
  rw [Making.attempt.eq_def, Making.attempt.eq_def]
  generalize hroute : standard.route d v.type t = route at htakes
  cases htakes with
  | direct _ found =>
    rw [casterFor?_standard hv.standard ht] at found
    exact call_congr hv ht found h
  | decomposed => exact absurd hroute (route_ne_decomposed hd)
  | fallback _ _ _ found =>
    rw [casterFor?_any hv.standard] at found
    split_ifs at found
    cases found
    rfl
  | _ => rfl

/-! ### The limit -/

/-- Casts within casts up to a limit, beyond which something else is done. -/
def castUpTo (limit : Executor) : Nat → Bool → TypedVector → VectorType → Except Failure CastResult
  | 0, _, v, t => limit v t
  | n + 1, decompose, v, t => Making.standard.attempt standard (castUpTo limit n false) decompose v t

/-- Casts are refused beyond the limit. -/
lemma castUpTo_tooDeep (n : Nat) : castUpTo (fun _ _ => .error .tooDeep) n = standard.castWithin n := by
  rw [← Making.castWithin_standard]
  induction n with
  | zero => rfl
  | succ n ih =>
    funext decompose v t
    rw [castUpTo, ih, Making.castWithin]

/-- What is done beyond the limit makes no difference, if the limit is above the layers of lists. -/
lemma castUpTo_congr (hv : v.WellFormed) (ht : t.IsStandard) (hd : v.type ≠ .list → d = false) (hn : v.nesting < n)
    (hm : v.nesting < m) : castUpTo limit n d v t = castUpTo limit' m d v t := by
  induction n generalizing v d m with
  | zero => omega
  | succ n ih =>
    cases m with
    | zero => omega
    | succ m =>
      -- what comes of a round has a layer less, just as the limit on its casts is less by one
      refine attempt_congr hv ht hd ?_
      intro w hround
      have hless := hround.nesting_lt
      exact ih hround.reads.1 (fun _ => rfl) (by omega) (by omega)

lemma castUpTo_eq_castTo (limit : Executor) (hv : v.WellFormed) (ht : t.IsStandard) (hd : v.type ≠ .list → d = false)
    (hn : v.nesting < n) : castUpTo limit n d v t = standard.castTo d v t := by
  rw [castTo, ← castUpTo_tooDeep]
  exact castUpTo_congr hv ht hd hn (nesting_lt_castFuel v)

/-- Casts satisfy their equation without a limit. -/
lemma castTo_eq_attempt (hv : v.WellFormed) (ht : t.IsStandard) (hd : v.type ≠ .list → d = false) :
    standard.castTo d v t = Making.standard.attempt standard (standard.castTo false) d v t := by
  -- a limit just above the layers of lists, with all casts beyond it done as they are without a limit
  rw [← castUpTo_eq_castTo (standard.castTo false) hv ht hd (Nat.lt_succ_self v.nesting)]
  refine attempt_congr hv ht hd ?_
  intro w hround
  exact castUpTo_eq_castTo _ hround.reads.1 ht (fun _ => rfl) hround.nesting_lt

lemma castTo_ne_tooDeep (decompose : Bool) (hv : v.WellFormed) (hlist : v.type = .list) (ht : t.IsStandard)
    (hbuilt : t.isBuiltIn = true) : standard.castTo decompose v t ≠ .error .tooDeep := by
  have hdecided : IsDecided v.type t (standard.castTo decompose v t) → standard.castTo decompose v t ≠ .error .tooDeep := by
    rintro (⟨r, hr⟩ | ⟨detail, hr⟩) <;> rw [hr] <;> rintro ⟨⟩
  by_cases hdec : Decomposable t
  · have hcast : Concludes v.type t (BreaksOff t v) (standard.castTo decompose v t) :=
      concludes_list decompose hv ht hbuilt hdec hlist (nesting_lt_castFuel v)
    by_cases hbreaks : BreaksOff t v
    · obtain ⟨f, hf, -, hne⟩ := hcast.broken hbreaks
      rw [hf]
      intro h
      exact hne (Except.error.inj h)
    · exact hdecided (hcast.decided hbreaks)
  · exact hdecided (isDecided_of_not_decomposable decompose hv ht hlist hdec)

/-! ### What is lost in the rounds -/

lemma mem_unevenPositions : i ∈ v.unevenPositions ↔ ∃ xs, v.values[i]? = some (.list xs) ∧ xs.length ≠ 1 := by
  rw [TypedVector.unevenPositions, mem_positionsOf]
  simp only [Value.isUneven_iff]
  constructor
  · rintro ⟨x, hx, xs, rfl, hlength⟩
    exact ⟨xs, hx, hlength⟩
  · rintro ⟨xs, hx, hlength⟩
    exact ⟨_, hx, xs, rfl, hlength⟩

/-- What is missing in a list vector, or alone in no list of it, is missing in what comes of the round. -/
lemma Round.missing (h : Round v w) (hx : v.values[i]? = some x) (hm : x.alone = .absent) :
    ∃ y, w.values[i]? = some y ∧ y.isMissing = true := by
  have hinside : v.inside[i]? = some .absent := by
    rw [TypedVector.inside, List.getElem?_map, hx, ← hm]
    rfl
  obtain ⟨y, hy, hsame⟩ := exists_getElem?_of_forall₂ h.reads.2.1 hinside
  exact ⟨y, hy, hsame⟩

/-- What has been read and is no list vector keeps its missing values in a cast. -/
lemma missing_of_readAs {xs : List Value} (hread : ReadAs xs v) (hv : v.WellFormed) (ht : t.IsStandard)
    (hdec : Decomposable t) (hlist : v.type ≠ .list) (hr : standard.castTo false v t = .ok r)
    (hx : v.values[i]? = some x) (hm : x.isMissing = true) : ∃ y, r.vector.values[i]? = some y ∧ y.isMissing = true := by
  cases hread with
  | void _ type =>
    rcases type with hs | hs
    · rw [hv.values_of_null hs] at hx
      cases hx
    · have hne : v.type.same t = false := by
        rw [hs]
        cases ht <;> first | rfl | exact hdec.elim
      have hnull : t ≠ .null := by
        rintro rfl
        exact hdec.elim
      rw [castTo_fromUnspecified ht hs hne hnull] at hr
      cases hr
      refine ⟨t.storage.missing, ?_, isMissing_storageMissing ht⟩
      change (v.values.map fun _ => t.storage.missing)[i]? = _
      rw [List.getElem?_map, hx]
      rfl
  | lists type => exact absurd type hlist
  | family _ type => exact missing_castWithin hv type ht hdec hr hx hm

/-- What is missing in one round is missing in the end. -/
lemma Yields.missing (h : Yields t v outcome) (hv : v.WellFormed) (ht : t.IsStandard) (hdec : Decomposable t)
    (hread : v.type = .list ∨ ∃ xs, ReadAs xs v) (hr : outcome = .ok r) (hx : v.values[i]? = some x)
    (hm : x.isMissing = true) : ∃ y, r.vector.values[i]? = some y ∧ y.isMissing = true := by
  induction h generalizing r x with
  | @last v noList =>
    obtain ⟨xs, hread⟩ := hread.resolve_left noList
    have hcast : standard.castTo false v t = .ok r := (castWithin_last hv.standard ht noList _).trans hr
    exact missing_of_readAs hread hv ht hdec noList hcast hx hm
  | unread => cases hr
  | refused => cases hr
  | @returned v w r' round rest ih =>
    cases hr
    obtain ⟨y, hy, hmissing⟩ := round.missing hx (Value.alone_of_isMissing hm)
    have hrest := ih round.reads.1 (.inr ⟨_, round.reads.2.2⟩) rfl hy hmissing
    exact hrest

/-- A result as it is told by the rounds that lead to it: `last` is what comes of the last one of them, and `final` what comes
of that in a cast of its own. -/
structure Collects (v : TypedVector) (t : VectorType) (r : CastResult) (last : TypedVector) (final : CastResult) : Prop where
  reached : Unwraps v last
  noList : last.type ≠ .list
  cast : standard.castTo false last t = .ok final
  vector : r.vector = final.vector
  /-- What is flagged is where in some round there was a list that had not one value, and what the last cast flags. -/
  flagged : ∀ i, i ∈ r.lossy ↔ (∃ w, Unwraps v w ∧ w.IsUnevenAt i) ∨ i ∈ final.lossy
  missing : ∀ i w, Unwraps v w → w.IsUnevenAt i → ∃ y, r.vector.values[i]? = some y ∧ y.isMissing = true

lemma collects_last (hlist : v.type ≠ .list) (hr : standard.castTo false v t = .ok r) : Collects v t r v r := by
  have hlast : ∀ w, Unwraps v w ↔ w = v := by
    intro w
    exact unwraps_of_not_round fun u h => hlist h.list
  refine ⟨.refl, hlist, hr, rfl, ?_, ?_⟩
  · intro i
    simp [hlast, TypedVector.IsUnevenAt, hlist]
  · intro i w hw hi
    obtain rfl := (hlast w).1 hw
    exact absurd hi.1 hlist

/-- A round adds what it loses to what is lost after it. -/
lemma Collects.before (h : Collects w t r last final) (round : Round v w)
    (hmissing : ∀ i, v.IsUnevenAt i → ∃ y, r.vector.values[i]? = some y ∧ y.isMissing = true) :
    Collects v t ⟨r.vector, sortedPositions (v.unevenPositions ++ r.lossy)⟩ last final where
  reached := .head round h.reached
  noList := h.noList
  cast := h.cast
  vector := h.vector
  flagged i := by
    have hhere : i ∈ v.unevenPositions ↔ v.IsUnevenAt i := mem_unevenPositions.trans (and_iff_right round.list).symm
    simp [mem_sortedPositions, hhere, h.flagged, unwraps_iff round, or_and_right, exists_or, or_assoc]
  missing i u hu hi := by
    rcases (unwraps_iff round).1 hu with rfl | hu
    · exact hmissing i hi
    · exact h.missing i u hu hi

/-- What is flagged in a round is missing in what comes of it. -/
lemma Round.missing_of_isUnevenAt (h : Round v w) (hi : v.IsUnevenAt i) :
    ∃ y, w.values[i]? = some y ∧ y.isMissing = true := by
  obtain ⟨-, xs, hx, hlength⟩ := hi
  exact h.missing hx (Value.alone_of_isUneven (Value.isUneven_iff.2 ⟨xs, rfl, hlength⟩))

/-- **What the rounds lose is collected.** -/
lemma Yields.collects (h : Yields t v outcome) (hv : v.WellFormed) (ht : t.IsStandard) (hdec : Decomposable t)
    (hr : outcome = .ok r) : ∃ last final, Collects v t r last final := by
  induction h generalizing r with
  | @last v noList => exact ⟨v, r, collects_last noList ((castWithin_last hv.standard ht noList _).trans hr)⟩
  | unread => cases hr
  | refused => cases hr
  | @returned v w r' round rest ih =>
    cases hr
    obtain ⟨last, final, hrest⟩ := ih round.reads.1 rfl
    refine ⟨last, final, hrest.before round ?_⟩
    intro i hi
    obtain ⟨y, hy, hm⟩ := round.missing_of_isUnevenAt hi
    exact rest.missing round.reads.1 ht hdec (.inr ⟨_, round.reads.2.2⟩) rfl hy hm

/-- Only an empty list vector is cast to the null type, and it has nothing to lose. -/
lemma collects_null (hlist : v.type = .list) (hr : standard.castTo decompose v .null = .ok r) :
    ∃ last final, Collects v .null r last final := by
  rw [castTo, castFuel, castWithin, route_list_null decompose hlist] at hr
  dsimp only at hr
  split_ifs at hr with hsize
  cases hr
  have hempty : v.values = [] := List.length_eq_zero_iff.1 (not_not.1 hsize)
  have hround : Round v ⟨.null, .ofValues []⟩ := by
    refine ⟨hlist, ?_⟩
    rw [TypedVector.inside, hempty]
    rfl
  have hlast : Collects ⟨.null, .ofValues []⟩ .null ⟨⟨.null, .ofValues []⟩, []⟩ _ _ := collects_last (by rintro ⟨⟩) rfl
  have hall := hlast.before hround fun i hi => by
    obtain ⟨-, xs, hx, -⟩ := hi
    rw [hempty] at hx
    cases hx
  have hnone : v.unevenPositions = [] := by
    rw [TypedVector.unevenPositions, hempty]
    rfl
  rw [hnone, List.nil_append, sortedPositions_nil] at hall
  exact ⟨_, _, hall⟩

/-- What a list vector has lost in a cast to anything but lists is what its rounds have lost. -/
lemma castTo_collects (hv : v.WellFormed) (hlist : v.type = .list) (ht : t.IsStandard) (htarget : t ≠ .list)
    (hr : standard.castTo decompose v t = .ok r) : ∃ last final, Collects v t r last final := by
  by_cases hdec : Decomposable t
  · have hyields : Yields t v (standard.castTo decompose v t) :=
      yields_castWithin ht hdec hv (nesting_lt_castFuel v) fun hnot => absurd hlist hnot
    exact hyields.collects hv ht hdec hr
  cases ht with
  | null => exact collects_null hlist hr
  | unspecified =>
    rw [castTo_direct (route_list_unspecified decompose hlist)] at hr
    cases hr
  | list => exact absurd rfl htarget
  | _ => exact absurd trivial hdec

/-! ### Casts of list vectors -/

/-- What it means that a cast of a list vector comes to an end, and keeps account of what it loses. -/
structure Unwinds (decompose : Bool) (v : TypedVector) (t : VectorType) : Prop where
  /-- A cast takes no other cast than that of the next round, to the same target. -/
  calls : ∀ {d u execute execute'}, Involves decompose v d u → (∀ w, Round u w → execute w t = execute' w t) →
    Making.standard.attempt standard execute d u t = Making.standard.attempt standard execute' d u t
  /-- Each round takes a layer of lists away. -/
  shrinks : ∀ {d u w}, Involves decompose v d u → Round u w → w.nesting < u.nesting
  /-- No cast goes through the decomposed form. -/
  direct : ∀ {d u apart together}, Involves decompose v d u → standard.route d u.type t ≠ .decomposed apart together
  /-- Casts satisfy the equation of a cast that casts in turn, without a limit. -/
  unfolds : ∀ {d u}, Involves decompose v d u →
    standard.castTo d u t = Making.standard.attempt standard (standard.castTo false) d u t
  /-- No limit above the layers of lists is ever reached, whatever is done beyond it. -/
  limitless : ∀ limit n, v.nesting < n → castUpTo limit n decompose v t = standard.castTo decompose v t
  answered : standard.castTo decompose v t ≠ .error .tooDeep
  /-- What is flagged was lost in the rounds or in the last cast. -/
  collects : t ≠ .list → ∀ {r}, standard.castTo decompose v t = .ok r → ∃ last final, Collects v t r last final

/-- **Unwrapping comes to an end and keeps account of its losses.** However deep and uneven the lists are, a cast of a list
vector to any built-in type takes one round after the other, each of them with a layer of lists less, never goes through
the decomposed form, and flags just what was lost in one of the rounds or in the last cast. -/
theorem castTo_unwinds (decompose : Bool) (hv : v.WellFormed) (hlist : v.type = .list) (ht : t.IsStandard)
    (hbuilt : t.isBuiltIn = true) : Unwinds decompose v t where
  calls hu h := attempt_congr (hu.wellFormed hv) ht (hu.eq_false hlist) h
  shrinks _ round := round.nesting_lt
  direct hu := route_ne_decomposed (hu.eq_false hlist)
  unfolds hu := castTo_eq_attempt (hu.wellFormed hv) ht (hu.eq_false hlist)
  limitless limit _ hn := castUpTo_eq_castTo limit hv ht (fun hnot => absurd hlist hnot) hn
  answered := castTo_ne_tooDeep decompose hv hlist ht hbuilt
  collects htarget _ hr := castTo_collects hv hlist ht htarget hr

/-- Lists of lists: one number, two numbers together, no list, and a missing value. -/
def unevenLists : TypedVector :=
  ⟨.list, .ofValues [.list [.list [.int 1]], .list [.list [.int 2, .int 3]], .list [], .absent]⟩

lemma wellFormed_unevenLists : unevenLists.WellFormed where
  standard := .list
  stored := rfl
  held x _ := .any x
  admitted x hx := by
    simp only [unevenLists, TypedVector.values, Column.ofValues, List.mem_cons, List.not_mem_nil, or_false] at hx
    rcases hx with rfl | rfl | rfl | rfl
    · exact .inr ⟨_, rfl⟩
    · exact .inr ⟨_, rfl⟩
    · exact .inr ⟨_, rfl⟩
    · exact .inl rfl

/-- The list that is empty is flagged in the first round, and that of two numbers in the second. -/
theorem castTo_unwinds_uneven :
    Unwinds true unevenLists .integer ∧ ∃ r, standard.castTo true unevenLists .integer = .ok r ∧
      r.vector.values = [.int 1, .notAvailable, .notAvailable, .notAvailable] ∧ ∀ i, i ∈ r.lossy ↔ i = 1 ∨ i = 2 := by
  refine ⟨castTo_unwinds true wellFormed_unevenLists rfl .integer rfl, ?_⟩
  refine ⟨⟨⟨.integer, ⟨.int64, [.int 1, .notAvailable, .notAvailable, .notAvailable]⟩⟩,
    sortedPositions ([2] ++ sortedPositions ([1] ++ []))⟩, rfl, rfl, ?_⟩
  intro i
  simp [mem_sortedPositions, or_comm]

end Registry

end Coercion
