import Coercion.Proofs.Cast.Reordered

/-!
What can be seen of the order of levels. If levels are listed in another order, the same types are unified and the same
vectors are cast and combined, to equal types and with the same positions reported; and the resulting vectors are equal
as well, unless a vector is taken over as it is in one of the orders and rebuilt in the other one, and has values that
are not recognised when it is rebuilt.
-/

namespace Coercion

open VectorType Column

/-! ### Vectors that are equal -/

/-- Whether two vectors cannot be told apart: they are one and the same, or equal. -/
def TypedVector.Indistinct (v w : TypedVector) : Prop :=
  v = w ∨ v.same w = true

namespace TypedVector.Indistinct

variable {v w : TypedVector}

lemma of_sameLevels {levels levels' : List Value} (hlevels : LegalLevels levels) (hperm : levels.Perm levels')
    (hv : v.type = .categorical levels) (hw : w.type = .categorical levels')
    (h : List.Forall₂ Value.SameLevel v.values w.values) : v.Indistinct w := by
  have htype : (v.type == w.type) = true := by
    rw [hv, hw]
    exact (VectorType.Reordered.levels hperm).same (.categorical hlevels)
  have hcolumn : v.column.same w.column = true :=
    (Value.identicalAll_iff _ _).2 (h.imp fun _ _ => Value.SameLevel.identical)
  exact .inr (by rw [TypedVector.same, htype, hcolumn]; rfl)

/-- Equal vectors have missing values at the same places. -/
lemma isMissing_eq (h : v.Indistinct w) :
    List.Forall₂ (fun x y => x.isMissing = y.isMissing) v.values w.values := by
  rcases h with rfl | hsame
  · exact List.forall₂_same.2 fun _ _ => rfl
  · rw [TypedVector.same, Bool.and_eq_true] at hsame
    have hidentical := (Value.identicalAll_iff _ _).1 hsame.2
    exact hidentical.imp fun _ _ => Value.isMissing_of_identical

end TypedVector.Indistinct

/-! ### Casts -/

/-- Whether the order of levels makes no difference to a cast: a vector that has the levels of the target lists them as
the target does before and after, or in another order before and after, or else they recognise all of its values. -/
def Settled (v w : TypedVector) (t u : VectorType) : Prop :=
  ∀ levels, t = .categorical levels → v.type.same t = true →
    Registry.samePayload v.type t = Registry.samePayload w.type u ∨ Engine.Recognised levels v.values

/-- What the results of two casts have in common. -/
structure CastResult.Beside (v w : TypedVector) (t u : VectorType) (r s : CastResult) : Prop where
  type : r.vector.type.Equals s.vector.type
  lossy : r.lossy = s.lossy
  indistinct_iff : r.vector.Indistinct s.vector ↔ Settled v w t u

namespace Registry

variable {v w : TypedVector} {t u : VectorType} {levels levels' : List Value} {decompose : Bool} {r s : CastResult}

lemma beside_of_corresponds (hlevels : LegalLevels levels) (hperm : levels.Perm levels') (hsettled : Settled v w t u)
    (h : r.Corresponds levels levels' s) : r.Beside v w t u s where
  type := by
    rw [h.left, h.right]
    exact .inr ((VectorType.Reordered.levels hperm).same (.categorical hlevels))
  lossy := h.lossy
  indistinct_iff := iff_of_true (.of_sameLevels hlevels hperm h.left h.right h.column.values) hsettled

/-- What is rebuilt without losing a value is recognised. -/
lemma recognised_of_rebuilt {c : Column} (hc : construct (.categorical levels) v.column = .ok c)
    (h : List.Forall₂ (fun x y => x.isMissing = y.isMissing) v.values c.values) :
    Engine.Recognised levels v.values := by
  rw [values_toLevels hc, List.forall₂_map_right_iff] at h
  refine Engine.recognised_iff.2 ?_
  intro x hx
  exact alike_taken (List.forall₂_same.1 h x hx).symm

/-- A vector that is taken over beside one that is rebuilt: nothing is reported, and they are equal only if the values
are recognised. -/
lemma beside_keptRebuilt (hlevels : LegalLevels levels) (hperm : levels.Perm levels') (h : v.Reordered w) {c : Column}
    (hc : construct (.categorical levels') w.column = .ok c)
    (hunsettled : ¬ Settled v w (.categorical levels) (.categorical levels'))
    (hlost : ¬ Engine.Recognised levels v.values) :
    CastResult.Beside v w (.categorical levels) (.categorical levels') ⟨⟨.categorical levels, v.column⟩, []⟩
      ⟨⟨.categorical levels', c⟩, []⟩ where
  type := .inr ((VectorType.Reordered.levels hperm).same (.categorical hlevels))
  lossy := rfl
  indistinct_iff := by
    refine iff_of_false (fun hindistinct => hlost ?_) hunsettled
    have hkept : List.Forall₂ (fun x y => x.isMissing = y.isMissing) v.values c.values := hindistinct.isMissing_eq
    rw [h.values] at hkept ⊢
    exact recognised_perm (recognised_of_rebuilt hc hkept) hperm.symm

/-- A vector that is rebuilt beside one that is taken over. -/
lemma beside_rebuiltKept (hlevels : LegalLevels levels) (hperm : levels.Perm levels') (h : v.Reordered w) {c : Column}
    (hc : construct (.categorical levels) v.column = .ok c)
    (hunsettled : ¬ Settled v w (.categorical levels) (.categorical levels'))
    (hlost : ¬ Engine.Recognised levels v.values) :
    CastResult.Beside v w (.categorical levels) (.categorical levels') ⟨⟨.categorical levels, c⟩, []⟩
      ⟨⟨.categorical levels', w.column⟩, []⟩ where
  type := .inr ((VectorType.Reordered.levels hperm).same (.categorical hlevels))
  lossy := rfl
  indistinct_iff := by
    refine iff_of_false ?_ hunsettled
    intro hindistinct
    refine hlost (recognised_of_rebuilt hc ?_)
    have hkept : List.Forall₂ (fun x y => x.isMissing = y.isMissing) c.values w.values := hindistinct.isMissing_eq
    rw [h.values]
    exact hkept.flip.imp fun _ _ => Eq.symm

/-- Casts to levels that are settled lead to the same levels. -/
lemma corresponds_castTo (hlevels : LegalLevels levels) (hperm : levels.Perm levels') (h : v.Reordered w)
    (hsettled : Settled v w (.categorical levels) (.categorical levels')) :
    Parallel (CastResult.Corresponds levels levels') (standard.castTo decompose v (.categorical levels))
      (standard.castTo decompose w (.categorical levels')) := by
  rcases h.type.levels_or_eq with ⟨ls, ls', hs, hs', -⟩ | ⟨-, hnot⟩
  · exact parallel_castTo hlevels hperm h hs hs' (hsettled levels rfl)
  · rw [← h.eq_of_not_categorical hnot]
    exact parallel_castWithin hlevels hperm _ h.left.standard hnot

lemma settled_of_unlevelled (hv : v.type.IsStandard) (hnot : ∀ ls, v.type ≠ .categorical ls) : Settled v w t u := by
  rintro levels rfl hsame
  rw [same_categorical_eq_false hv hnot] at hsame
  cases hsame

/-- Casts to levels that are not settled leave one of two vectors as it is, and rebuild the other one. -/
lemma beside_castTo_unsettled (hlevels : LegalLevels levels) (hperm : levels.Perm levels') (h : v.Reordered w)
    (hunsettled : ¬ Settled v w (.categorical levels) (.categorical levels')) :
    Parallel (CastResult.Beside v w (.categorical levels) (.categorical levels'))
      (standard.castTo decompose v (.categorical levels)) (standard.castTo decompose w (.categorical levels')) := by
  obtain ⟨ls, ls', hs, hs', -⟩ := h.type.levels_or_eq.resolve_right fun hnot =>
    hunsettled (settled_of_unlevelled h.left.standard hnot.2)
  obtain ⟨hsame, hpayloads, hlost⟩ : v.type.same (.categorical levels) = true ∧
      samePayload v.type (.categorical levels) ≠ samePayload w.type (.categorical levels') ∧
        ¬ Engine.Recognised levels v.values := by
    simpa [Settled] using hunsettled
  have hsame' : w.type.same (.categorical levels') = true := by rwa [← h.type.same_eq (.levels hperm)]
  cases hpayload : samePayload v.type (.categorical levels) with
  | true =>
    obtain ⟨d, hd⟩ := exists_rebuilt h.right hs' levels'
    have hpayload' : samePayload w.type (.categorical levels') = false := by
      rw [← Bool.not_eq_true, ← hpayload]
      exact hpayloads.symm
    rw [castTo_unchanged hsame hpayload, castTo_rebuilt hsame' hpayload' hd]
    exact .ok (beside_keptRebuilt hlevels hperm h hd hunsettled hlost)
  | false =>
    obtain ⟨c, hc⟩ := exists_rebuilt h.left hs levels
    have hpayload' : samePayload w.type (.categorical levels') = true := by
      rw [← Bool.not_eq_false, ← hpayload]
      exact hpayloads.symm
    rw [castTo_rebuilt hsame hpayload hc, castTo_unchanged hsame' hpayload']
    exact .ok (beside_rebuiltKept hlevels hperm h hc hunsettled hlost)

/-- What has no levels is cast from levels in another order with the same outcome. -/
lemma parallel_castTo_unlevelled (h : v.Reordered w) (ht : t.IsStandard) (hnot : ∀ ls, t ≠ .categorical ls) :
    Parallel Eq (standard.castTo decompose v t) (standard.castTo decompose w t) := by
  rcases h.type.levels_or_eq with ⟨ls, -, hs, -, -⟩ | ⟨-, hsource⟩
  · have hexecutor : Making.standard.executor standard w = Making.standard.executor standard v := by
      rw [Making.executor, Making.executor, h.values]
    rw [← Making.castTo_standard, ← Making.castTo_standard, Making.castTo_eq_attempt, Making.castTo_eq_attempt,
      hexecutor]
    exact parallel_attempt h hs ht hnot
  · rw [h.eq_of_not_categorical hsource]
    exact .refl (fun _ => rfl) _

/-- **Casts do not depend on the order of levels**, of the vector or of the target, but for vectors that are taken over
in one order and rebuilt in the other one without being recognised. -/
theorem beside_castTo (h : v.Reordered w) (ht : t.IsStandard) (htu : t.Reordered u) :
    Parallel (CastResult.Beside v w t u) (standard.castTo decompose v t) (standard.castTo decompose w u) := by
  rcases htu.levels_or_eq with ⟨levels, levels', rfl, rfl, hperm⟩ | ⟨rfl, hnot⟩
  · have hlevels : LegalLevels levels := ht.legalLevels
    by_cases hsettled : Settled v w (.categorical levels) (.categorical levels')
    · exact (corresponds_castTo hlevels hperm h hsettled).imp fun _ _ => beside_of_corresponds hlevels hperm hsettled
    · exact beside_castTo_unsettled hlevels hperm h hsettled
  · refine (parallel_castTo_unlevelled h ht hnot).imp ?_
    rintro r _ rfl
    refine ⟨.inl rfl, rfl, iff_of_true (.inl rfl) ?_⟩
    intro levels heq
    exact absurd heq (hnot levels)

/-! ### Common types -/

/-- Standard types that are the same but for the order of levels. -/
def Counterparts (t u : VectorType) : Prop :=
  t.IsStandard ∧ t.Reordered u

lemma Counterparts.same (h : Counterparts t u) : t.same u = true :=
  h.2.same h.1

variable {strict : Bool} {x x' y y' : VectorType} {ts us : List VectorType}

lemma settles_unify (strict : Bool) (hx : x.IsStandard) (hy : y.IsStandard) :
    Settles (common? strict x y) (standard.unify strict x y) := by
  rcases unify_cases strict hx hy with ⟨t, ht, hunify⟩ | ⟨hnone, detail, hunify⟩
  · rw [ht, hunify]
    rfl
  · rw [hnone, hunify]
    exact ⟨_, rfl, rfl⟩

lemma parallel_of_settles {c c' : Option VectorType} {r s : Except Failure VectorType}
    (h : Option.Rel VectorType.Reordered c c') (hc : ∀ t, c = some t → t.IsStandard) (hr : Settles c r)
    (hs : Settles c' s) : Parallel Counterparts r s := by
  cases h with
  | none =>
    obtain ⟨f, rfl, hf⟩ := hr
    obtain ⟨g, rfl, hg⟩ := hs
    exact .error (hf.trans hg.symm)
  | some htu =>
    cases hr
    cases hs
    exact .ok ⟨hc _ rfl, htu⟩

lemma isStandard_reordered (hts : ∀ t ∈ ts, t.IsStandard) (h : List.Forall₂ VectorType.Reordered ts us) :
    ∀ u ∈ us, u.IsStandard := by
  intro u hu
  obtain ⟨t, ht, htu⟩ := exists_mem_of_forall₂ h hu
  exact htu.isStandard (hts t ht)

lemma category_refusalAt (hx : x.IsStandard) (hy : y.IsStandard) (index : Nat) (f : Failure) :
    (refusalAt index x y f).category = f.category := by
  cases f with
  | incompatibleType =>
    rw [refusalAt, Failure.incompatible_standard hx hy]
    rfl
  | _ => rfl

/-- Types are unified with the same outcome, up to the order of levels. -/
lemma parallel_unify (strict : Bool) (hx : x.IsStandard) (hy : y.IsStandard) (hxx : x.Reordered x')
    (hyy : y.Reordered y') : Parallel Counterparts (standard.unify strict x y) (standard.unify strict x' y') :=
  parallel_of_settles (common?_reordered strict hxx hyy) (fun _ => common?_isStandard hx hy)
    (settles_unify strict hx hy) (settles_unify strict (hxx.isStandard hx) (hyy.isStandard hy))

lemma parallel_commonType (strict : Bool) (hts : ∀ t ∈ ts, t.IsStandard)
    (h : List.Forall₂ VectorType.Reordered ts us) :
    Parallel Counterparts (standard.commonType strict ts) (standard.commonType strict us) :=
  parallel_of_settles (commonFrom?_reordered (.refl .null) h) (fun _ => commonFrom?_isStandard .null hts)
    (commonType_standard strict hts) (commonType_standard strict (isStandard_reordered hts h))

end Registry

namespace Engine

open Registry

variable {strict : Bool} {rule : LossyRule} {target target' : Option VectorType} {vs ws : List TypedVector}
  {ts us : List VectorType} {t u : VectorType} {levels levels' : List Value} {results results' : List CastResult}

lemma parallel_checkTarget (strict : Bool) (index : Nat) (ht : t.IsStandard) (htu : t.Reordered u)
    (hts : ∀ s ∈ ts, s.IsStandard) (h : List.Forall₂ VectorType.Reordered ts us) :
    Parallel (fun _ _ => True) (checkTarget Registry.standard strict t index ts)
      (checkTarget Registry.standard strict u index us) := by
  induction h generalizing index with
  | nil => exact .ok trivial
  | @cons s s' ts us hss _ ih =>
    have hs : s.IsStandard := hts s (by simp)
    have hunify := parallel_unify strict hs ht hss htu
    rw [checkTarget, checkTarget]
    generalize Registry.standard.unify strict s t = found at hunify ⊢
    generalize Registry.standard.unify strict s' u = found' at hunify ⊢
    cases hunify with
    | ok => exact ih (index + 1) fun r hr => hts r (by simp [hr])
    | error category =>
      refine .error ?_
      rw [category_refusalAt hs ht, category_refusalAt (hss.isStandard hs) (htu.isStandard ht), category]

/-- The type for a combination is found with the same outcome, up to the order of levels. -/
lemma parallel_combinedType (strict : Bool) (hts : ∀ s ∈ ts, s.IsStandard)
    (h : List.Forall₂ VectorType.Reordered ts us) (htarget : ∀ t ∈ target, t.IsStandard)
    (htargets : Option.Rel VectorType.Reordered target target') :
    Parallel Counterparts (standard.combinedType strict (target.map .type) ts)
      (standard.combinedType strict (target'.map .type) us) := by
  cases htargets with
  | none =>
    change Parallel _ (Registry.standard.commonType strict ts >>= _) (Registry.standard.commonType strict us >>= _)
    refine (parallel_commonType strict hts h).bind ?_
    rintro t u - - ⟨ht, htu⟩
    cases htu with
    | refl =>
      cases t with
      | unspecified => exact .ok ⟨.logical, .refl _⟩
      | _ => exact .ok ⟨ht, .refl _⟩
    | levels perm => exact .ok ⟨ht, .levels perm⟩
  | @some t u htu =>
    change Parallel _ (checkTarget Registry.standard strict t 0 ts >>= fun _ => pure t)
      (checkTarget Registry.standard strict u 0 us >>= fun _ => pure u)
    refine (parallel_checkTarget strict 0 (htarget t rfl) htu hts h).bind ?_
    intro _ _ _ _ _
    exact .ok ⟨htarget t rfl, htu⟩

/-! ### Joined results -/

/-- Results that correspond match their levels together as they do one by one. -/
lemma comparable_results (h : List.Forall₂ (CastResult.Corresponds levels levels') results results') :
    comparable (storedLevels levels) (Column.ofValues (results.flatMap fun r => r.vector.values)).present =
      comparable (storedLevels levels) (Column.ofValues (results'.flatMap fun r => r.vector.values)).present := by
  have hmatched : List.Forall₂ (fun r s : CastResult => (r.vector.column.present = [] ↔ s.vector.column.present = []) ∧
      comparable (storedLevels levels) r.vector.column.present =
        comparable (storedLevels levels) s.vector.column.present) results results' := by
    refine h.imp fun r s hrs => ⟨⟨present_eq_nil hrs.column.values, present_eq_nil ?_⟩, hrs.column.matched⟩
    exact hrs.column.values.flip.imp fun _ _ => Value.SameLevel.symm
  rw [present_flatMap, present_flatMap, Bool.eq_iff_iff, ← not_iff_not, Bool.not_eq_true, Bool.not_eq_true]
  refine ⟨comparable_flatMap_of_forall₂ hmatched, comparable_flatMap_of_forall₂ ?_⟩
  refine hmatched.flip.imp ?_
  rintro r s ⟨hpresent, hcomparable⟩
  exact ⟨hpresent.symm, hcomparable.symm⟩

/-- **Results that correspond are joined to vectors that are equal.** -/
lemma indistinct_join (hlevels : LegalLevels levels) (hperm : levels.Perm levels')
    (h : List.Forall₂ (CastResult.Corresponds levels levels') results results') {v w : TypedVector}
    (hv : join (.categorical levels) results = .ok v) (hw : join (.categorical levels') results' = .ok w) :
    v.Indistinct w := by
  refine .of_sameLevels hlevels hperm (type_of_join hv) (type_of_join hw) ?_
  have hvalues : List.Forall₂ Value.SameLevel (results.flatMap fun r => r.vector.values)
      (results'.flatMap fun r => r.vector.values) :=
    List.rel_flatMap h fun _ _ hrs => hrs.column.values
  rw [values_join_categorical hv, values_join_categorical hw]
  have halike := hvalues.imp fun _ _ => Value.SameLevel.alike
  exact sameLevel_taken (c := .ofValues _) (d := .ofValues _) (storedLevels_perm hperm) halike (comparable_results h)

lemma lossy_reports (rule : LossyRule) (t u : VectorType) {entries entries' : List (Nat × List Nat)}
    (h : entries = entries') :
    (reports rule t entries).map (·.lossy) = (reports rule u entries').map (·.lossy) := by
  rw [reports, reports, h]
  split_ifs <;> rfl

/-- Positions are numbered by the inputs, whatever their types. -/
lemma lossyEntries_eq (h : List.Forall₂ (fun r s : CastResult => r.lossy = s.lossy) results results') :
    lossyEntries results = lossyEntries results' := by
  have hmap : results.map (·.lossy) = results'.map (·.lossy) := by
    rw [← List.forall₂_eq_eq_eq, List.forall₂_map_left_iff, List.forall₂_map_right_iff]
    exact h
  have hentries (rs : List CastResult) : lossyEntries rs = (rs.map (·.lossy)).zipIdx.map Prod.swap := by
    rw [lossyEntries, List.zipIdx_map, List.map_map]
    rfl
  rw [hentries, hentries, hmap]

end Engine

/-- What the results of two combinations have in common. -/
structure Reported.Beside (vs ws : List TypedVector) (r s : Reported) : Prop where
  type : r.vector.type.same s.vector.type = true
  lossy : r.warnings.map (·.lossy) = s.warnings.map (·.lossy)
  indistinct : List.Forall₂ (fun v w => Settled v w r.vector.type s.vector.type) vs ws →
    r.vector.Indistinct s.vector

namespace Engine

open Registry

variable {target target' : Option VectorType} {vs ws : List TypedVector} {ts us : List VectorType}

lemma isStandard_target (htarget : ∀ t ∈ target, t.IsStandard) (s : Specifier) (u : VectorType)
    (hs : target.map Specifier.type = some s) (hu : standard.resolve s = .ok u) : u.IsStandard := by
  cases target with
  | none => cases hs
  | some t =>
    cases hs
    cases hu
    exact htarget _ rfl

/-- The results of casts to the type that is found are joined. -/
lemma exists_joined {strict : Bool} {target : Option Specifier} {t : VectorType} {results : List CastResult}
    (hvs : ∀ v ∈ vs, v.WellFormed)
    (htarget : ∀ s u, target = some s → standard.resolve s = .ok u → u.IsStandard)
    (hfound : standard.combinedType strict target (vs.map TypedVector.type) = .ok t)
    (hresults : vs.mapM (fun v => Registry.standard.castTo true v t) = .ok results) :
    ∃ c, join t results = .ok ⟨t, c⟩ := by
  refine join_eq_ok (fits_of_combinedType (isStandard_types hvs) htarget hfound).1 ?_
  intro r hr
  obtain ⟨v, hv, hcast⟩ := (exists_of_mapM_ok hresults).2 r hr
  exact (joinsAs_of_found hvs htarget hfound hv hcast).1

/-- Casts that are settled are joined to vectors that are equal. -/
lemma indistinct_of_settled {t u : VectorType} {results results' : List CastResult} {v w : TypedVector}
    (h : List.Forall₂ TypedVector.Reordered vs ws) (ht : t.IsStandard) (htu : t.Reordered u)
    (hsettled : List.Forall₂ (fun v w => Settled v w t u) vs ws)
    (hresults : vs.mapM (fun v => Registry.standard.castTo true v t) = .ok results)
    (hresults' : ws.mapM (fun w => Registry.standard.castTo true w u) = .ok results')
    (hv : join t results = .ok v) (hw : join u results' = .ok w) : v.Indistinct w := by
  rcases htu.levels_or_eq with ⟨levels, levels', rfl, rfl, hperm⟩ | ⟨rfl, hnot⟩
  · have hlevels : LegalLevels levels := ht.legalLevels
    have hcasts : List.Forall₂ (fun v w => Parallel (CastResult.Corresponds levels levels')
        (Registry.standard.castTo true v (.categorical levels)) (Registry.standard.castTo true w (.categorical levels')))
        vs ws :=
      (forall₂_and h hsettled).imp fun _ _ hvw => corresponds_castTo hlevels hperm hvw.1 hvw.2
    have hresults := Parallel.mapM_ok hcasts hresults hresults'
    exact indistinct_join hlevels hperm hresults hv hw
  · have hcasts : List.Forall₂ (fun v w => Parallel Eq (Registry.standard.castTo true v u)
        (Registry.standard.castTo true w u)) vs ws :=
      h.imp fun _ _ hvw => parallel_castTo_unlevelled hvw ht hnot
    have hresults := Parallel.mapM_ok hcasts hresults hresults'
    rw [List.forall₂_eq_eq_eq] at hresults
    cases hresults
    cases hv.symm.trans hw
    exact .inl rfl

/-- **Combinations do not depend on the order of levels**, of the vectors or of the target, if the casts of the vectors
do not. -/
theorem beside_combine (strict : Bool) (rule : LossyRule) (h : List.Forall₂ TypedVector.Reordered vs ws)
    (htarget : ∀ t ∈ target, t.IsStandard) (htargets : Option.Rel VectorType.Reordered target target') :
    Parallel (Reported.Beside vs ws) (standard.combine strict rule (target.map .type) (vs.map .vector))
      (standard.combine strict rule (target'.map .type) (ws.map .vector)) := by
  have hvs : ∀ v ∈ vs, v.WellFormed := by
    intro v hv
    obtain ⟨w, -, hvw⟩ := exists_mem_of_forall₂ h.flip hv
    exact hvw.left
  have hws : ∀ w ∈ ws, w.WellFormed := by
    intro w hw
    obtain ⟨v, -, hvw⟩ := exists_mem_of_forall₂ h hw
    exact hvw.right
  have htypes : List.Forall₂ VectorType.Reordered (vs.map TypedVector.type) (ws.map TypedVector.type) := by
    rw [List.forall₂_map_left_iff, List.forall₂_map_right_iff]
    exact h.imp fun _ _ hvw => hvw.type
  rw [combine_vectors, combine_vectors]
  refine (parallel_combinedType strict (isStandard_types hvs) htypes htarget htargets).bind ?_
  rintro t u hfound hfound' ⟨ht, htu⟩
  have htarget' : ∀ t ∈ target', t.IsStandard := by
    cases htargets with
    | none => exact htarget
    | some hreordered =>
      rintro _ ⟨⟩
      exact hreordered.isStandard (htarget _ rfl)
  have hcasts : List.Forall₂ (fun v w => Parallel (fun r s : CastResult => r.lossy = s.lossy)
      (Registry.standard.castTo true v t) (Registry.standard.castTo true w u)) vs ws :=
    h.imp fun v w hvw => (beside_castTo hvw ht htu).imp fun _ _ hrs => hrs.lossy
  refine (Parallel.mapM hcasts).bind ?_
  intro results results' hresults hresults' hlossy
  obtain ⟨c, hc⟩ := exists_joined hvs (isStandard_target htarget) hfound hresults
  obtain ⟨d, hd⟩ := exists_joined hws (isStandard_target htarget') hfound' hresults'
  rw [hc, hd]
  refine .ok ⟨htu.same ht, lossy_reports rule t u (lossyEntries_eq hlossy), ?_⟩
  intro (hsettled : List.Forall₂ (fun v w => Settled v w t u) vs ws)
  exact indistinct_of_settled h ht htu hsettled hresults hresults' hc hd

/-! ### Everything that is observed -/

/-- What does not depend on the order in which levels are listed: whether types are unified, and vectors cast and
combined, or else the kind of reason why they are not; the types that are found; the positions that are reported; and
the vectors themselves, where casts are settled. -/
structure OrderHidden (ts us : List VectorType) (vs ws : List TypedVector) : Prop where
  unify : ∀ strict : Bool, ∀ x ∈ ts.zip us, ∀ y ∈ ts.zip us,
    Parallel (fun t u => t.same u = true) (standard.unify strict (.type x.1) (.type y.1))
      (standard.unify strict (.type x.2) (.type y.2))
  commonType : ∀ strict : Bool,
    Parallel (fun t u => t.same u = true) (standard.commonType strict (ts.map .type))
      (standard.commonType strict (us.map .type))
  castTo : ∀ decompose : Bool, ∀ v ∈ vs.zip ws, ∀ t ∈ ts.zip us,
    Parallel (CastResult.Beside v.1 v.2 t.1 t.2) (standard.castTo decompose (.vector v.1) (.type t.1))
      (standard.castTo decompose (.vector v.2) (.type t.2))
  combine : ∀ (strict : Bool) (rule : LossyRule),
    Parallel (Reported.Beside vs ws) (standard.combine strict rule none (vs.map .vector))
      (standard.combine strict rule none (ws.map .vector))
  combineInto : ∀ (strict : Bool) (rule : LossyRule), ∀ t ∈ ts.zip us,
    Parallel (Reported.Beside vs ws) (standard.combine strict rule (some (.type t.1)) (vs.map .vector))
      (standard.combine strict rule (some (.type t.2)) (ws.map .vector))

/-- Vectors and types stand for themselves. -/
lemma castTo_vector (decompose : Bool) (v : TypedVector) (t : VectorType) :
    standard.castTo decompose (.vector v) (.type t) = Registry.standard.castTo decompose v t :=
  rfl

/-- **The order of levels cannot be observed**, in the types that are found for types and vectors, in whether vectors are
cast and combined, or in the positions that are reported; and in the vectors that result it is observed only if a vector
with the levels of its target is taken over in one order and rebuilt in the other one, and not recognised. -/
theorem orderHidden (hts : ∀ t ∈ ts, t.IsStandard) (htypes : List.Forall₂ VectorType.Reordered ts us)
    (hvectors : List.Forall₂ TypedVector.Reordered vs ws) : OrderHidden ts us vs ws where
  unify strict x hx y hy := by
    have hfound := parallel_unify strict (hts _ (List.of_mem_zip hx).1) (hts _ (List.of_mem_zip hy).1)
      (List.forall₂_zip htypes hx) (List.forall₂_zip htypes hy)
    exact hfound.imp fun _ _ => Counterparts.same
  commonType strict := by
    rw [commonType_types, commonType_types]
    exact (parallel_commonType strict hts htypes).imp fun _ _ => Counterparts.same
  castTo decompose v hv t ht :=
    beside_castTo (List.forall₂_zip hvectors hv) (hts _ (List.of_mem_zip ht).1) (List.forall₂_zip htypes ht)
  combine strict rule := beside_combine strict rule hvectors (by rintro _ ⟨⟩) .none
  combineInto strict rule t ht :=
    beside_combine strict rule hvectors (by rintro _ ⟨⟩; exact hts _ (List.of_mem_zip ht).1)
      (.some (List.forall₂_zip htypes ht))

/-- Texts that are taken over in one order of the levels, and rebuilt in the other one, become equal vectors. -/
theorem orderHidden_texts :
    OrderHidden [.categorical [.text "a", .text "b"]] [.categorical [.text "b", .text "a"]] [textAndMissing]
        [textAndMissing] ∧
      Parallel (fun r s : CastResult => r.vector.Indistinct s.vector)
        (standard.castTo true (.vector textAndMissing) (.type (.categorical [.text "a", .text "b"])))
        (standard.castTo true (.vector textAndMissing) (.type (.categorical [.text "b", .text "a"]))) := by
  have hhidden : OrderHidden [.categorical [.text "a", .text "b"]] [.categorical [.text "b", .text "a"]]
      [textAndMissing] [textAndMissing] :=
    orderHidden (List.forall_mem_singleton.2 (.categorical (by decide))) (.cons (.levels (.swap _ _ _)) .nil)
      (.cons ⟨wellFormed_textAndMissing, wellFormed_textAndMissing, .refl _, rfl⟩ .nil)
  have hsettled : Settled textAndMissing textAndMissing (.categorical [.text "a", .text "b"])
      (.categorical [.text "b", .text "a"]) := by
    rintro levels hlevels -
    cases hlevels
    exact .inr ⟨by decide, by decide⟩
  have hcasts := hhidden.castTo true (textAndMissing, textAndMissing) (by simp)
    (.categorical [.text "a", .text "b"], .categorical [.text "b", .text "a"]) (by simp)
  exact ⟨hhidden, hcasts.imp fun _ _ hrs => hrs.indistinct_iff.2 hsettled⟩

/-- A categorical of both truth values, which holds them. -/
def bothTruths : TypedVector :=
  ⟨.categorical [.bool false, .bool true], ⟨.category (some [.bool false, .bool true]), [.bool false, .bool true]⟩⟩

lemma wellFormed_bothTruths : bothTruths.WellFormed where
  standard := .categorical (by decide)
  stored := by decide
  held := by
    simp only [bothTruths, TypedVector.values, List.forall_mem_cons]
    exact ⟨.level (by simp), .level (by simp), by simp⟩
  admitted _ _ := trivial

/-- Truth values have the levels zero and one, and are taken over as they are for these; for one and zero they are
rebuilt, and all of them are lost. -/
theorem not_orderHidden :
    ¬ ∀ (decompose : Bool) (v w : TypedVector) (t u : VectorType), v.Reordered w → v.type.isBuiltIn = true →
      t.IsStandard → t.isBuiltIn = true → t.Reordered u →
        Parallel (fun r s : CastResult => r.vector.Indistinct s.vector) (standard.castTo decompose (.vector v) (.type t))
          (standard.castTo decompose (.vector w) (.type u)) := by
  intro h
  have hkept : Registry.standard.castTo true bothTruths (.categorical [.int 0, .int 1]) =
      .ok ⟨⟨.categorical [.int 0, .int 1], bothTruths.column⟩, []⟩ := castTo_unchanged rfl rfl
  have hrebuilt : Registry.standard.castTo true bothTruths (.categorical [.int 1, .int 0]) =
      .ok ⟨⟨.categorical [.int 1, .int 0], ⟨.category (some [.int 1, .int 0]), [.double .nan, .double .nan]⟩⟩, []⟩ :=
    castTo_rebuilt rfl rfl rfl
  have hcasts := h true bothTruths bothTruths (.categorical [.int 0, .int 1]) (.categorical [.int 1, .int 0])
    ⟨wellFormed_bothTruths, wellFormed_bothTruths, .refl _, rfl⟩ rfl (.categorical (by decide)) rfl
    (.levels (.swap _ _ _))
  rw [castTo_vector, castTo_vector, hkept, hrebuilt] at hcasts
  cases hcasts with
  | ok hindistinct =>
    have hmissing := hindistinct.isMissing_eq
    cases hmissing with
    | cons hfirst => cases hfirst

end Engine

end Coercion
