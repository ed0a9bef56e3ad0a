import Coercion.Proofs.Cast.Sound
import Coercion.Proofs.Column.Reordered
import Coercion.Proofs.Combine.Structure

/-!
Casts beside casts in which levels are listed in another order. The routes are the same, and so is what the casters do on
their way: a cast to a type without levels yields one and the same vector, and a cast to levels yields the same
levels with the same positions flagged. Only where a vector has the target's type already does it matter whether its
levels are listed as the target's are, since it is taken over as it is then and is rebuilt otherwise.
-/

namespace Coercion

open VectorType Column TypedVector Engine

variable {levels levels' : List Value} {v w : TypedVector} {s t : VectorType} {c : Caster} {execute : Executor}
  {decompose : Bool}

/-- Two vectors of the same values, whose types list the same levels. -/
structure TypedVector.Reordered (v w : TypedVector) : Prop where
  left : v.WellFormed
  right : w.WellFormed
  type : v.type.Reordered w.type
  values : v.values = w.values

namespace TypedVector.Reordered

lemma symm (h : v.Reordered w) : w.Reordered v :=
  ⟨h.right, h.left, h.type.symm, h.values.symm⟩

lemma size_eq (h : v.Reordered w) : v.size = w.size :=
  congrArg List.length h.values

/-- A vector without levels is left as it is. -/
lemma eq_of_not_categorical (h : v.Reordered w) (hnot : ∀ levels, v.type ≠ .categorical levels) : v = w := by
  have htype : w.type = v.type := h.type.eq_of_eq hnot rfl
  have hdtype : v.column.dtype = w.column.dtype := by
    rw [h.left.dtype_eq hnot, h.right.dtype_eq (htype ▸ hnot), htype]
  have hvalues := h.values
  obtain ⟨s, ⟨d, xs⟩⟩ := v
  obtain ⟨s', ⟨d', xs'⟩⟩ := w
  cases htype
  cases hdtype
  cases hvalues
  rfl

end TypedVector.Reordered

/-- Results of two casts to the same levels, in which the same values have become the same levels. -/
structure CastResult.Corresponds (levels levels' : List Value) (r s : CastResult) : Prop where
  left : r.vector.type = .categorical levels
  right : s.vector.type = .categorical levels'
  column : SameLevels (storedLevels levels) r.vector.column s.vector.column
  lossy : r.lossy = s.lossy

lemma CastResult.Corresponds.symm {r s : CastResult} (h : r.Corresponds levels levels' s) (hperm : levels.Perm levels') :
    s.Corresponds levels' levels r where
  left := h.right
  right := h.left
  column := by
    refine ⟨h.column.values.flip.imp fun _ _ => Value.SameLevel.symm, ?_⟩
    rw [← comparable_perm (storedLevels_perm hperm), ← comparable_perm (storedLevels_perm hperm)]
    exact h.column.matched.symm
  lossy := h.lossy.symm

/-! ### Refusals -/

namespace Failure

lemma category_noCast (hs : s.IsStandard) (ht : t.IsStandard) (detail : Option String) :
    (noCast s t detail).category = .incompatibleCast := by
  rw [noCast, unnamedClass?_standard hs, unnamedClass?_standard ht]
  rfl

/-- A refusal in terms of the types that were asked for is of the kind that it was. -/
lemma category_refusalThrough (hs : s.IsStandard) (ht : t.IsStandard) (f : Failure) :
    (Registry.refusalThrough s t f).category = f.category := by
  cases f with
  | incompatibleCast => exact category_noCast hs ht _
  | _ => rfl

lemma category_refusalInside (hs : s.IsStandard) (ht : t.IsStandard) (f : Failure) :
    (Caster.refusalInside s t f).category = f.category := by
  cases f with
  | incompatibleCast => exact category_noCast hs ht _
  | _ => rfl

end Failure

/-! ### Casters side by side -/

/-- Outputs of casters that are results which correspond. -/
def CasterOutput.Corresponds (levels levels' : List Value) (o p : CasterOutput) : Prop :=
  ∃ r s : CastResult, o = .result r.vector r.lossy ∧ p = .result s.vector s.lossy ∧ r.Corresponds levels levels' s

namespace Registry

/-- A result of the right type fails the check only for its size. -/
lemma checked_of_type (ht : t.IsStandard) (hw : w.type = t) (lossy : List Nat) :
    (CasterOutput.result w lossy).checked v t =
      if w.size = v.size then .ok ⟨w, sortedPositions lossy⟩
      else .error (.changedLength v.type.tag t.tag v.size w.size) := by
  have hself : (w.type == t) = true := by
    subst hw
    exact same_refl ht
  rw [CasterOutput.checked]
  simp only [hself, Bool.not_true, Bool.false_eq_true, if_false, ne_eq, ite_not]

/-- Checks let results that correspond pass, or refuse both. -/
lemma parallel_call (hlevels : LegalLevels levels) (hperm : levels.Perm levels') (hsize : v.size = w.size)
    (h : Parallel (CasterOutput.Corresponds levels levels') (c.run execute v (.categorical levels))
      (c.run execute w (.categorical levels'))) :
    Parallel (CastResult.Corresponds levels levels') (c.call execute v (.categorical levels))
      (c.call execute w (.categorical levels')) := by
  refine h.bind ?_
  rintro _ _ - - ⟨r, s, rfl, rfl, hrs⟩
  have hlength : r.vector.size = s.vector.size := hrs.column.values.length_eq
  rw [checked_of_type (.categorical hlevels) hrs.left, checked_of_type (.categorical (hlevels.perm hperm)) hrs.right,
    hlength, hsize, hrs.lossy]
  split_ifs
  · exact .ok ⟨hrs.left, hrs.right, hrs.column, rfl⟩
  · exact .error rfl

lemma droppedPositions_congr {xs ys zs : List Value} (h : List.Forall₂ Value.SameLevel ys zs) :
    droppedPositions xs ys = droppedPositions xs zs := by
  rw [droppedPositions, droppedPositions]
  congr 1
  induction h generalizing xs with
  | nil => rfl
  | cons hyz _ ih =>
    cases xs with
    | nil => rfl
    | cons x xs =>
      rw [List.zip_cons_cons, List.zip_cons_cons, List.map_cons, List.map_cons, ih]
      simp only [hyz.isMissing_eq]

/-- The same values are turned into levels side by side. -/
lemma parallel_construct (hperm : levels.Perm levels') {c d : Column} (hvalues : c.values = d.values) :
    Parallel (SameLevels (storedLevels levels)) (construct (.categorical levels) c)
      (construct (.categorical levels') d) := by
  have hpresent : c.present = d.present := by rw [present, present, hvalues]
  refine parallel_toLevels (storedLevels_perm hperm) ?_ (by rw [hpresent])
  rw [hvalues]
  exact List.forall₂_same.2 fun _ _ => .inl rfl

lemma parallel_made (hperm : levels.Perm levels') {c d : Column} (hvalues : c.values = d.values) :
    Parallel (CastResult.Corresponds levels levels')
      (construct (.categorical levels) c >>= fun e => pure ⟨⟨.categorical levels, e⟩, []⟩)
      (construct (.categorical levels') d >>= fun e => pure ⟨⟨.categorical levels', e⟩, []⟩) :=
  (parallel_construct hperm hvalues).bind fun _ _ _ _ h => .ok ⟨rfl, rfl, h, rfl⟩

lemma parallel_runToLevels (hperm : levels.Perm levels') (name : String) (execute : Executor)
    (hvalues : v.values = w.values) :
    Parallel (CasterOutput.Corresponds levels levels') ((Caster.toLevels name).run execute v (.categorical levels))
      ((Caster.toLevels name).run execute w (.categorical levels')) := by
  refine (parallel_construct hperm hvalues).bind fun c d _ _ h => .ok ⟨⟨⟨_, c⟩, _⟩, ⟨⟨_, d⟩, _⟩, rfl, rfl, ?_⟩
  refine ⟨rfl, rfl, h, ?_⟩
  rw [hvalues]
  exact droppedPositions_congr h.values

/-- What is in lists is cast side by side, if what is read from them is. -/
lemma parallel_runListToAny (hlevels : LegalLevels levels) (hperm : levels.Perm levels') (hs : v.type.IsStandard)
    (hexecute : ∀ w : TypedVector, w.type.IsUnlevelled →
      Parallel (CastResult.Corresponds levels levels') (execute w (.categorical levels))
        (execute w (.categorical levels'))) :
    Parallel (CasterOutput.Corresponds levels levels') (Caster.listToAny.run execute v (.categorical levels))
      (Caster.listToAny.run execute v (.categorical levels')) := by
  have htarget : (VectorType.categorical levels).IsStandard := .categorical hlevels
  have htarget' : (VectorType.categorical levels').IsStandard := .categorical (hlevels.perm hperm)
  have hopened : Parallel Eq (v.values.mapM Caster.opened) (v.values.mapM Caster.opened) := .refl (fun _ => rfl) _
  refine hopened.bind ?_
  rintro elements _ - - rfl
  dsimp only
  generalize hread : ((Column.ofValues (elements.map (·.1))).detect >>= fun t => t.vectorOf _) = read
  cases read with
  | error f =>
    dsimp only
    split_ifs
    · have hrefused := Failure.category_noCast hs htarget
      have hrefused' := Failure.category_noCast hs htarget'
      exact .error ((hrefused _).trans (hrefused' _).symm)
    · exact .error rfl
  | ok inner =>
    have hcast := hexecute inner (sound_of_detect hread).2
    simp only [pure_bind]
    generalize execute inner (.categorical levels) = r at hcast ⊢
    generalize execute inner (.categorical levels') = s at hcast ⊢
    cases hcast with
    | @error f g category =>
      refine .error ?_
      rw [Failure.category_refusalInside hs htarget, Failure.category_refusalInside hs htarget', category]
    | @ok r s hrs =>
      let unread := positionsOf (elements.map (·.2))
      have hflags : unread ++ r.lossy = unread ++ s.lossy := by
        rw [hrs.lossy]
      exact .ok ⟨⟨r.vector, unread ++ r.lossy⟩, ⟨s.vector, unread ++ s.lossy⟩, rfl, rfl,
        ⟨hrs.left, hrs.right, hrs.column, hflags⟩⟩

lemma parallel_vectorOf (hperm : levels.Perm levels') (c : Column) :
    Parallel (CastResult.Corresponds levels levels')
      ((VectorType.categorical levels).vectorOf c >>= fun w => pure ⟨w, []⟩)
      ((VectorType.categorical levels').vectorOf c >>= fun w => pure ⟨w, []⟩) := by
  simp only [vectorOf, bind_assoc, pure_bind]
  exact parallel_made hperm rfl

/-! ### Vectors without levels -/

lemma same_categorical_eq_false (hs : s.IsStandard) (hnot : ∀ ls, s ≠ .categorical ls) (levels : List Value) :
    s.same (.categorical levels) = false := by
  cases hs with
  | categorical => exact absurd rfl (hnot _)
  | _ => rfl

/-- Only texts and lists become levels, unless they are levels already. -/
lemma caster?_categorical (hs : s.IsStandard) (hnot : ∀ ls, s ≠ .categorical ls)
    (hc : caster? s (.categorical levels) = some c) : c = .characterToCategorical ∨ c = .listToAny := by
  cases hs with
  | categorical => exact absurd rfl (hnot _)
  | character =>
    cases hc
    exact .inl rfl
  | list =>
    cases hc
    exact .inr rfl
  | _ => cases hc

/-- What is taken apart becomes a list. -/
lemma type_of_apart (hs : v.type.IsStandard) (hne : v.type.tag ≠ Tag.list) {apart : Caster}
    (hc : standard.casterFor? v.type.tag Tag.list = some apart) {parts : CastResult}
    (hparts : apart.call execute v .list = .ok parts) : parts.vector.type = .list := by
  have hcaster : caster? v.type .list = some apart := (casterFor?_standard hs .list).symm.trans hc
  have hapart : apart = .anyToList := by
    generalize v.type = s at hs hne hcaster
    cases hs with
    | list => exact absurd rfl hne
    | _ => cases hcaster <;> rfl
  subst hapart
  exact (receives_call (Caster.delivers_anyToList ⟨.list, rfl, by rintro _ ⟨⟩⟩) parts hparts).1

/-- **A vector without levels is cast to the same levels**, in whatever order these stand, however often casters cast in
turn. -/
theorem parallel_castWithin (hlevels : LegalLevels levels) (hperm : levels.Perm levels') (fuel : Nat)
    (hs : v.type.IsStandard) (hnot : ∀ ls, v.type ≠ .categorical ls) :
    Parallel (CastResult.Corresponds levels levels') (standard.castWithin fuel decompose v (.categorical levels))
      (standard.castWithin fuel decompose v (.categorical levels')) := by
  rw [← Making.castWithin_standard]
  induction fuel generalizing v decompose with
  | zero => exact .error rfl
  | succ fuel ih =>
    have htarget : (VectorType.categorical levels).IsStandard := .categorical hlevels
    have htarget' : (VectorType.categorical levels').IsStandard := .categorical (hlevels.perm hperm)
    have hopened (w : TypedVector) (hw : w.type.IsStandard) : Parallel (CasterOutput.Corresponds levels levels')
        (Caster.listToAny.run (Making.standard.castWithin standard fuel false) w (.categorical levels))
        (Caster.listToAny.run (Making.standard.castWithin standard fuel false) w (.categorical levels')) :=
      parallel_runListToAny hlevels hperm hw fun w hw => ih hw.standard hw.noLevels
    have hrefused (detail : Option String) :=
      (Failure.category_noCast hs htarget detail).trans (Failure.category_noCast hs htarget' detail).symm
    have hroute := route_reordered standard decompose (.refl v.type) (.levels hperm)
    have htakes := takes_route standard decompose v.type (.categorical levels)
    change Parallel _ (Making.attempt _ _ _ _ _ _) (Making.attempt _ _ _ _ _ _)
    rw [Making.attempt, Making.attempt, ← hroute]
    generalize standard.route decompose v.type (.categorical levels) = route at htakes
    cases htakes with
    | unchanged equal =>
      rw [same_categorical_eq_false hs hnot] at equal
      cases equal
    | toNull _ null => cases null
    | fromNull => exact parallel_vectorOf hperm _
    | fromUnspecified => exact parallel_vectorOf hperm _
    | direct _ found =>
      rw [casterFor?_standard hs (.categorical hlevels)] at found
      refine parallel_call hlevels hperm rfl ?_
      obtain rfl | rfl := caster?_categorical hs hnot found
      · exact parallel_runToLevels hperm _ _ rfl
      · exact hopened v hs
    | decomposed _ _ detour =>
      have htogether := (casterFor?_standard .list (.categorical hlevels)).symm.trans detour.together
      cases htogether
      -- the first half does not depend on the target, and the second opens what the first one has made
      refine (Parallel.refl (fun _ => rfl) _).bind (R := Eq) ?_
      rintro parts _ hparts - rfl
      have hlist : parts.vector.type.IsStandard := by
        rw [type_of_apart hs detour.source detour.apart hparts]
        exact .list
      have hwhole := parallel_call hlevels hperm rfl (hopened parts.vector hlist)
      generalize Caster.listToAny.call _ parts.vector (.categorical levels) = r at hwhole ⊢
      generalize Caster.listToAny.call _ parts.vector (.categorical levels') = s at hwhole ⊢
      cases hwhole with
      | error category =>
        refine .error ?_
        rw [Failure.category_refusalThrough hs htarget, Failure.category_refusalThrough hs htarget', category]
      | ok hrs => exact .ok ⟨hrs.left, hrs.right, hrs.column, by rw [hrs.lossy]⟩
    | fallback _ _ _ found =>
      rw [casterFor?_any hs] at found
      split_ifs at found
      cases found
      exact .error (hrefused none)
    | impassable => exact .error (hrefused none)

/-! ### Vectors with levels -/

/-- A caster that makes the same of two vectors of one size is called with the same outcome. -/
lemma parallel_call_eq (hrun : c.run execute v t = c.run execute w t) (hsize : v.size = w.size) :
    Parallel Eq (c.call execute v t) (c.call execute w t) := by
  rw [Caster.call, Caster.call, hrun]
  refine (Parallel.refl (fun _ => rfl) _).bind (R := Eq) ?_
  rintro output _ - - rfl
  cases output with
  | result u lossy =>
    simp only [CasterOutput.checked, hsize]
    split_ifs
    · split <;> exact .error rfl
    · exact .error rfl
    · exact .ok rfl
  | noVector => exact .error rfl
  | other => exact .error rfl

/-- **Levels in another order are cast to what has no levels with the same outcome**, however casters cast in turn. -/
theorem parallel_attempt {levels : List Value} (h : v.Reordered w) (hs : v.type = .categorical levels)
    (ht : t.IsStandard) (hnot : ∀ ls, t ≠ .categorical ls) :
    Parallel Eq (Making.standard.attempt standard execute decompose v t)
      (Making.standard.attempt standard execute decompose w t) := by
  have hrefused (detail : Option String) :=
    (Failure.category_noCast h.left.standard ht detail).trans (Failure.category_noCast h.right.standard ht detail).symm
  have hroute := route_reordered standard decompose h.type (.refl t)
  have htakes := takes_route standard decompose v.type t
  rw [Making.attempt, Making.attempt, ← hroute]
  generalize standard.route decompose v.type t = route at htakes
  cases htakes with
  | unchanged equal =>
    have hback := same_symm h.left.standard ht equal
    rw [hs, same_categorical_eq_false ht hnot] at hback
    cases hback
  | toNull =>
    dsimp only
    rw [h.size_eq]
    split_ifs
    · exact .error (hrefused _)
    · exact .refl (fun _ => rfl) _
  | fromNull _ _ null => rw [hs] at null; cases null
  | fromUnspecified _ _ unspecified => rw [hs] at unspecified; cases unspecified
  | direct _ found =>
    rw [casterFor?_standard h.left.standard ht, hs] at found
    refine parallel_call_eq ?_ h.size_eq
    cases ht with
    | character =>
      cases found
      simp only [Caster.categoricalToCharacter, Caster.plain, h.values]
    | list =>
      cases found
      simp only [Caster.anyToList, Caster.plain, h.values]
    | categorical => exact absurd rfl (hnot _)
    | _ => cases found
  | decomposed _ _ detour =>
    have hapart := (casterFor?_standard h.left.standard .list).symm.trans detour.apart
    rw [hs] at hapart
    cases hapart
    refine (parallel_call_eq ?_ h.size_eq).bind ?_
    · simp only [Caster.anyToList, Caster.plain, h.values]
    · rintro parts _ - - rfl
      split
      · exact .ok rfl
      · refine .error ?_
        rw [Failure.category_refusalThrough h.left.standard ht, Failure.category_refusalThrough h.right.standard ht]
  | fallback _ _ _ found =>
    rw [casterFor?_any h.left.standard] at found
    split_ifs at found
    cases found
    exact .error (hrefused none)
  | impassable => exact .error (hrefused none)

lemma sameLevel_self (hv : v.WellFormed) (hs : v.type = .categorical levels) {x : Value} (hx : x ∈ v.values) :
    x.SameLevel x := by
  rcases hv.level_cases hs hx with hnan | ⟨-, hsame⟩
  · exact .inl ⟨hnan, hnan⟩
  · exact .inr (Value.same_trans (Value.same_symm hsame) hsame)

/-- What is recognised by levels is so in whatever order they stand. -/
lemma recognised_perm {ys : List Value} (h : Recognised levels ys) (hperm : levels.Perm levels') :
    Recognised levels' ys where
  known y hy hm := by
    rw [← Value.isIn_perm (storedLevels_perm hperm)]
    exact h.known y hy hm
  together := by
    rw [← comparable_perm (storedLevels_perm hperm)]
    exact h.together

/-- A vector that is taken over beside one that is rebuilt: they correspond if the values are recognised as levels. -/
lemma corresponds_kept (h : v.Reordered w) {ls : List Value} (hs : v.type = .categorical ls)
    (hperm : levels.Perm levels') (hrecognised : Recognised levels v.values) {c : Column}
    (hc : construct (.categorical levels') w.column = .ok c) :
    CastResult.Corresponds levels levels' ⟨⟨.categorical levels, v.column⟩, []⟩ ⟨⟨.categorical levels', c⟩, []⟩ := by
  have hpresent : w.column.present = (Column.ofValues v.values).present := by
    rw [present, present, show w.column.values = v.values from h.values.symm]
    rfl
  have hstored := storedLevels_perm hperm
  have hmade : c.values = v.values.map (taken (storedLevels levels') w.column) :=
    (values_toLevels hc).trans (congrArg _ h.values.symm)
  refine ⟨rfl, rfl, ⟨?_, ?_⟩, rfl⟩
  · change List.Forall₂ _ v.values c.values
    rw [hmade, List.forall₂_map_right_iff, List.forall₂_same]
    intro x hx
    rcases h.left.level_cases hs hx with rfl | ⟨hm, -⟩
    · exact .inl ⟨rfl, taken_of_isMissing _ _ rfl⟩
    · obtain ⟨l, hl, hlx⟩ := (Value.isIn_iff _ _).1 (hrecognised.known x hx hm)
      rw [taken_of_comparable (by rw [← comparable_perm hstored, hpresent, hrecognised.together])]
      exact .inr (Value.same_symm (same_levelIn hm (hstored.mem_iff.1 hl) hlx))
  · have hright := comparable_taken (storedLevels levels') w.column
    rw [← values_toLevels hc, ← comparable_perm hstored] at hright
    exact hrecognised.together.trans hright.symm

lemma castTo_rebuilt {c : Column} (hsame : v.type.same (.categorical levels) = true)
    (hpayload : samePayload v.type (.categorical levels) = false)
    (hc : construct (.categorical levels) v.column = .ok c) :
    standard.castTo decompose v (.categorical levels) = .ok ⟨⟨.categorical levels, c⟩, []⟩ := by
  rw [castTo_remade hsame hpayload, vectorOf, hc]
  rfl

/-- A vector that is rebuilt for levels can be, since its own values are levels. -/
lemma exists_rebuilt {ls : List Value} (hv : v.WellFormed) (hs : v.type = .categorical ls) (levels : List Value) :
    ∃ c, construct (.categorical levels) v.column = .ok c := by
  have hhashable := hv.hashable_of_categorical hs
  exact ⟨_, toLevels_of_hashable _ (unhashableIn?_present hhashable)⟩

lemma parallel_keptRebuilt {ls ls' : List Value} (hperm : levels.Perm levels') (h : v.Reordered w)
    (hs : v.type = .categorical ls) (hs' : w.type = .categorical ls') (hrecognised : Recognised levels v.values)
    (hsame : v.type.same (.categorical levels) = true) (hpayload : samePayload v.type (.categorical levels) = true)
    (hpayload' : samePayload w.type (.categorical levels') = false) :
    Parallel (CastResult.Corresponds levels levels') (standard.castTo decompose v (.categorical levels))
      (standard.castTo decompose w (.categorical levels')) := by
  have hsame' : w.type.same (.categorical levels') = true := by rwa [← h.type.same_eq (.levels hperm)]
  obtain ⟨c, hc⟩ := exists_rebuilt h.right hs' levels'
  rw [castTo_unchanged hsame hpayload, castTo_rebuilt hsame' hpayload' hc]
  exact .ok (corresponds_kept h hs hperm hrecognised hc)

/-- **Levels in another order are cast to the same levels**, in whatever order these stand, unless one of two vectors is
taken over and the other one rebuilt, and some value is not recognised when it is. -/
theorem parallel_castTo {ls ls' : List Value} (hlevels : LegalLevels levels) (hperm : levels.Perm levels')
    (h : v.Reordered w) (hs : v.type = .categorical ls) (hs' : w.type = .categorical ls')
    (hsettled : v.type.same (.categorical levels) = true →
      samePayload v.type (.categorical levels) = samePayload w.type (.categorical levels') ∨
        Recognised levels v.values) :
    Parallel (CastResult.Corresponds levels levels') (standard.castTo decompose v (.categorical levels))
      (standard.castTo decompose w (.categorical levels')) := by
  have hsame_eq := h.type.same_eq (.levels hperm)
  cases hsame : v.type.same (.categorical levels) with
  | true =>
    have hsame' : w.type.same (.categorical levels') = true := hsame_eq ▸ hsame
    have hsettled := hsettled hsame
    cases hpayload : samePayload v.type (.categorical levels) with
    | true =>
      cases hpayload' : samePayload w.type (.categorical levels') with
      | true =>
        rw [castTo_unchanged hsame hpayload, castTo_unchanged hsame' hpayload']
        refine .ok ⟨rfl, rfl, ⟨?_, ?_⟩, rfl⟩
        · change List.Forall₂ _ v.values w.values
          rw [← h.values, List.forall₂_same]
          intro x hx
          exact sameLevel_self h.left hs hx
        · rw [present, present, show v.column.values = w.column.values from h.values]
      | false =>
        have hrecognised := hsettled.resolve_left (by rw [hpayload, hpayload']; decide)
        exact parallel_keptRebuilt hperm h hs hs' hrecognised hsame hpayload hpayload'
    | false =>
      cases hpayload' : samePayload w.type (.categorical levels') with
      | true =>
        have hrecognised := recognised_perm (hsettled.resolve_left (by rw [hpayload, hpayload']; decide)) hperm
        rw [h.values] at hrecognised
        refine (parallel_keptRebuilt hperm.symm h.symm hs' hs hrecognised hsame' hpayload' hpayload).flip ?_
        intro _ _ hrs
        exact hrs.symm hperm.symm
      | false =>
        rw [castTo_remade hsame hpayload, castTo_remade hsame' hpayload']
        simp only [vectorOf, bind_assoc, pure_bind]
        exact parallel_made hperm h.values
  | false =>
    have hne' : w.type.same (.categorical levels') = false := hsame_eq ▸ hsame
    have hcaster : caster? v.type (.categorical levels) = some .recode := by rw [hs]; rfl
    have hcaster' : caster? w.type (.categorical levels') = some .recode := by rw [hs']; rfl
    rw [castTo_direct (route_direct h.left.standard (.categorical hlevels) hsame hcaster),
      castTo_direct (route_direct h.right.standard (.categorical (hlevels.perm hperm)) hne' hcaster')]
    exact parallel_call hlevels hperm h.size_eq
      (parallel_runToLevels hperm "recode" (standard.castWithin 0 false) h.values)

end Registry

end Coercion
