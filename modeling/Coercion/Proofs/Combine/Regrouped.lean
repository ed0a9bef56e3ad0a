import Coercion.Proofs.Cast.Placed
import Coercion.Proofs.Combine.Kept

/-!
Vectors that are combined in groups. Numbers and texts are combined value by value: each is placed in the type that is
found, whatever stands beside it. Vectors of numbers, or of texts, may therefore be combined in part first and the
result with the rest: the types above each other lead to the same type in the end, and a value that is placed in one of
them on the way is placed in the last as if it had gone there at once.
-/

namespace Coercion

open VectorType Registry Column

variable {d : Domain} {t u : VectorType} {ts us : List VectorType} {v : TypedVector} {vs xs ys : List TypedVector}
  {levels : List Value} {strict : Bool} {rule : LossyRule}

/-! ### The type that is found in groups -/

namespace Engine

/-- What is found without a target is the common type, with truth values for nothing known. -/
lemma combinedType_none_iff (hts : ∀ s ∈ ts, s.IsStandard) :
    standard.combinedType strict none ts = .ok t ↔ ∃ c, commonFrom? strict .null ts = some c ∧ c.known = t := by
  have hsettles := commonType_standard strict hts
  change (Registry.standard.commonType strict ts >>= _) = _ ↔ _
  cases hc : commonFrom? strict .null ts with
  | none =>
    rw [hc] at hsettles
    obtain ⟨f, hf, -⟩ := hsettles
    rw [hf]
    constructor
    · rintro ⟨⟩
    · rintro ⟨c, hnone, -⟩
      cases hnone
  | some c =>
    rw [hc] at hsettles
    rw [show Registry.standard.commonType strict ts = .ok c from hsettles]
    constructor
    · intro h
      refine ⟨c, rfl, ?_⟩
      cases c <;> cases h <;> rfl
    · rintro ⟨u, hu, rfl⟩
      cases hu
      cases c <;> rfl

/-- The type that is found for vectors of a domain is of the domain. -/
lemma isOf_combinedType (hts : ∀ s ∈ ts, s.IsOf d) (h : standard.combinedType strict none ts = .ok t) :
    t.IsOf d ∧ t ≠ .unspecified := by
  obtain ⟨c, hc, rfl⟩ := (combinedType_none_iff fun s hs => (hts s hs).isStandard).1 h
  have hof : c.IsOf d := (IsOf.null d).commonFrom? hts hc
  by_cases hunknown : c = .unspecified
  · subst hunknown
    cases hof with
    | unspecified => exact ⟨.number .logical, by rintro ⟨⟩⟩
    | number ht => cases ht
  · rw [known_eq_self hunknown]
    exact ⟨hof, hunknown⟩

/-- **Types in groups.** The type of a group and the types that follow lead to the type that all of them lead to. -/
theorem combinedType_regrouped (hts : ∀ s ∈ ts, s.IsOf d) (hus : ∀ s ∈ us, s.IsOf d) :
    (∃ u, standard.combinedType strict none ts = .ok u ∧ standard.combinedType strict none (u :: us) = .ok t) ↔
      standard.combinedType strict none (ts ++ us) = .ok t := by
  have hall : ∀ s ∈ ts ++ us, s.IsOf d := fun s hs => (List.mem_append.1 hs).elim (hts s) (hus s)
  have hfirst : ∀ u, standard.combinedType strict none ts = .ok u ↔ _ := fun u =>
    combinedType_none_iff fun s hs => (hts s hs).isStandard
  have hthen : ∀ c, commonFrom? strict .null ts = some c →
      (standard.combinedType strict none (c.known :: us) = .ok t ↔
        ∃ r, commonFrom? strict c us = some r ∧ r.known = t) := by
    intro c hc
    have hof := isOf_combinedType hts ((hfirst _).2 ⟨c, hc, rfl⟩)
    have hrest : (commonFrom? strict c.known us).map known = (commonFrom? strict c us).map known := by
      by_cases hunknown : c = .unspecified
      · subst hunknown
        refine commonFrom?_known strict ?_
        cases (IsOf.null d).commonFrom? hts hc with
        | unspecified => exact hus
        | number ht => cases ht
      · rw [known_eq_self hunknown]
    rw [combinedType_none_iff (List.forall_mem_cons.2 ⟨hof.1.isStandard, fun s hs => (hus s hs).isStandard⟩),
      commonFrom?, common?_null_left]
    rw [← Option.map_eq_some_iff, ← Option.map_eq_some_iff, hrest]
  rw [combinedType_none_iff fun s hs => (hall s hs).isStandard, commonFrom?_append]
  constructor
  · rintro ⟨u, hu, ht⟩
    obtain ⟨c, hc, rfl⟩ := (hfirst u).1 hu
    obtain ⟨r, hr, hknown⟩ := (hthen c hc).1 ht
    exact ⟨r, by rw [hc]; exact hr, hknown⟩
  · rintro ⟨r, hr, hknown⟩
    obtain ⟨c, hc, hr⟩ := Option.bind_eq_some_iff.1 hr
    exact ⟨c.known, (hfirst _).2 ⟨c, hc, rfl⟩, (hthen c hc).2 ⟨r, hr, hknown⟩⟩

end Engine

/-! ### Joins -/

/-- The values of some vectors, each made something of. -/
lemma flatMap_values_congr {f g : TypedVector → Value → Value} (h : ∀ v ∈ vs, ∀ x ∈ v.values, f v x = g v x) :
    (vs.flatMap fun v => v.values.map (f v)) = vs.flatMap fun v => v.values.map (g v) := by
  refine flatMap_eq_of_forall₂ (List.forall₂_same.2 ?_)
  intro v hv
  exact List.map_congr_left (h v hv)

/-- Casts to levels are joined by placing the values among the levels, whatever the casts have done. -/
lemma join_levels {results : List CastResult} (hvs : ∀ v ∈ vs, v.IsOf .texts ∧ v.type.Below (.categorical levels))
    (ht : (VectorType.categorical levels).IsOf .texts) (hcasts : List.Forall₂ (Carries levels) vs results) :
    Engine.join (.categorical levels) results = .ok (holding (.categorical levels) (vs.flatMap TypedVector.values)) := by
  have hself : (VectorType.categorical levels).Below (.categorical levels) := .refl ht.isStandard rfl
  -- a cast leaves a value as it is or places it among the levels
  have hcarried : ∀ v ∈ vs, ∀ x, carried levels v x = x ∨ carried levels v x = placed (.categorical levels) x := by
    intro v hv x
    rw [carried]
    split_ifs
    · exact .inl rfl
    · refine .inr (taken_of_comparable (comparable_of_texts _ ?_) x)
      intro y hy
      obtain ⟨hy, hm⟩ := mem_present.1 hy
      have htexts := (hvs v hv).1.holdsTexts y hy
      exact htexts.resolve_left (by rw [hm]; exact Bool.false_ne_true)
  have hvalues : (results.flatMap fun r => r.vector.values) = vs.flatMap fun v => v.values.map (carried levels v) :=
    (flatMap_eq_of_forall₂ (hcasts.imp fun v r h => h.values.symm)).symm
  have htexts : ∀ y ∈ results.flatMap (fun r => r.vector.values), y.isMissing = true ∨ y.isText = true := by
    rw [hvalues]
    intro y hy
    obtain ⟨v, hv, hy⟩ := List.mem_flatMap.1 hy
    obtain ⟨x, hx, rfl⟩ := List.mem_map.1 hy
    obtain ⟨hof, hbelow⟩ := hvs v hv
    rcases hcarried v hv x with hkept | hplaced
    · rw [hkept]
      exact hof.holdsTexts x hx
    · rw [hplaced]
      cases hm : x.isMissing with
      | true => exact .inl (isMissing_placed ht hm)
      | false => exact .inr (placed_text hof ht hbelow hx hm).1
  rw [Engine.join_categorical, vectorOf]
  change (Column.toLevels _ _ >>= _) = _
  rw [toLevels_of_texts _ htexts]
  change Except.ok (⟨_, ⟨_, (results.flatMap _).map _⟩⟩ : TypedVector) = _
  rw [hvalues, List.map_flatMap, holding, List.map_flatMap]
  simp only [List.map_map]
  rw [flatMap_values_congr (g := fun _ => placed (.categorical levels))]
  · rfl
  · intro v hv x hx
    obtain ⟨hof, hbelow⟩ := hvs v hv
    rcases hcarried v hv x with hkept | hplaced
    · rw [Function.comp_apply, hkept]
      rfl
    · rw [Function.comp_apply, hplaced]
      exact placed_placed hof ht ht hbelow hself hx

/-- Other casts are joined as they are. -/
lemma join_holding {results : List CastResult} (ht : t.IsOf d) (hnot : ∀ levels, t ≠ .categorical levels)
    (hcasts : List.Forall₂ (fun v r => r.vector = holding t v.values) vs results) :
    Engine.join t results = .ok (holding t (vs.flatMap TypedVector.values)) := by
  have hjoins : ∀ r ∈ results, r.vector.column.JoinsAs t := by
    intro r hr
    obtain ⟨v, -, hv⟩ := exists_mem_of_forall₂ hcasts hr
    rw [hv]
    cases ht with
    | number ht => cases ht <;> rfl
    | levels => exact absurd rfl (hnot _)
    | _ => rfl
  have hvalues : (results.flatMap fun r => r.vector.values) = vs.flatMap fun v => v.values.map (placed t) := by
    refine (flatMap_eq_of_forall₂ (hcasts.imp ?_)).symm
    intro v r h
    rw [h]
    rfl
  rw [Engine.join_stored ht.isStandard hnot hjoins, hvalues, holding, List.map_flatMap]

namespace Engine

lemma isOf_types (hvs : ∀ v ∈ vs, v.IsOf d) : ∀ s ∈ vs.map TypedVector.type, s.IsOf d := by
  intro s hs
  obtain ⟨v, hv, rfl⟩ := List.mem_map.1 hs
  exact (hvs v hv).type

/-- The type that is found for vectors of a domain is above their types. -/
lemma below_combinedType (hvs : ∀ v ∈ vs, v.IsOf d)
    (hfound : standard.combinedType strict none (vs.map TypedVector.type) = .ok t) : ∀ v ∈ vs, v.type.Below t := by
  have hbuilt : ∀ s ∈ vs.map TypedVector.type, s.IsStandard ∧ s.isBuiltIn = true := by
    intro s hs
    exact ⟨(isOf_types hvs s hs).isStandard, (isOf_types hvs s hs).isBuiltIn⟩
  intro v hv
  exact (combinedType_above hbuilt hfound).2.2.1 v.type (List.mem_map_of_mem hv)

/-- **Combination within a domain.** Vectors of numbers, or of texts, are combined by placing all of their values in the
type that is found. -/
theorem combine_holding (strict : Bool) (rule : LossyRule) (hvs : ∀ v ∈ vs, v.IsOf d)
    (hfound : standard.combinedType strict none (vs.map TypedVector.type) = .ok t) :
    ∃ warnings, standard.combine strict rule none (vs.map .vector) =
      .ok ⟨holding t (vs.flatMap TypedVector.values), warnings⟩ := by
  obtain ⟨ht, hspec⟩ := isOf_combinedType (isOf_types hvs) hfound
  have hbelow := below_combinedType hvs hfound
  obtain ⟨results, hresults, hjoined⟩ : ∃ results, vs.mapM (fun v => Registry.standard.castTo true v t) = .ok results ∧
      join t results = .ok (holding t (vs.flatMap TypedVector.values)) := by
    by_cases hlevels : ∃ levels, t = .categorical levels
    · obtain ⟨levels, rfl⟩ := hlevels
      have hdomain : d = .texts := by
        cases ht with
        | number ht => cases ht
        | levels => rfl
      subst hdomain
      have hcasts := fun v hv => castTo_levels (hvs v hv) ht (hbelow v hv)
      obtain ⟨results, hresults⟩ := exists_mapM_ok fun v hv => (hcasts v hv).imp fun r h => h.1
      refine ⟨results, hresults, join_levels (fun v hv => ⟨hvs v hv, hbelow v hv⟩) ht ?_⟩
      have hmem := forall₂_mem_left ((mapM_eq_ok_iff _ _).1 hresults)
      refine hmem.imp ?_
      intro v r h
      obtain ⟨r', hr', hcarries⟩ := hcasts v h.1
      rw [h.2] at hr'
      cases hr'
      exact hcarries
    · have hnot : ∀ levels, t ≠ .categorical levels := by
        intro levels heq
        exact hlevels ⟨levels, heq⟩
      have hcasts := fun v hv => castTo_holding (hvs v hv) ht hspec (hbelow v hv) hnot
      obtain ⟨results, hresults⟩ := exists_mapM_ok fun v hv => (hcasts v hv).elim fun lossy h => ⟨_, h⟩
      refine ⟨results, hresults, join_holding ht hnot ?_⟩
      have hmem := forall₂_mem_left ((mapM_eq_ok_iff _ _).1 hresults)
      refine hmem.imp ?_
      intro v r h
      obtain ⟨lossy, hr⟩ := hcasts v h.1
      rw [h.2] at hr
      cases hr
      rfl
  rw [combine_vectors, hfound]
  change ∃ _, (vs.mapM (fun v => Registry.standard.castTo true v t) >>= _) = _
  rw [hresults]
  change ∃ _, (join t results >>= _) = _
  rw [hjoined]
  exact ⟨_, rfl⟩

/-! ### Groups -/

/-- What is combined is again a vector of the domain. -/
lemma isOf_holding (ht : t.IsOf d) (hspec : t ≠ .unspecified) (hvs : ∀ v ∈ vs, v.IsOf d ∧ v.type.Below t) :
    (holding t (vs.flatMap TypedVector.values)).IsOf d := by
  have hplaced : ∀ y ∈ (holding t (vs.flatMap TypedVector.values)).values, ∃ v ∈ vs, ∃ x ∈ v.values, y = placed t x := by
    intro y hy
    obtain ⟨x, hx, rfl⟩ := List.mem_map.1 hy
    obtain ⟨v, hv, hx⟩ := List.mem_flatMap.1 hx
    exact ⟨v, hv, x, hx, rfl⟩
  refine ⟨⟨ht.isStandard, ht.isPure.same_storage, ?_, ?_⟩, ht, ?_⟩
  · intro y hy
    obtain ⟨v, hv, x, hx, rfl⟩ := hplaced y hy
    obtain ⟨hof, hbelow⟩ := hvs v hv
    cases ht with
    | null => exact absurd hx (not_mem_of_below_null hof.wellFormed hbelow)
    | unspecified => exact absurd rfl hspec
    | number ht =>
      rw [placed_number ht]
      rcases number_of_mem hof hx with hm | ⟨hs, hheld⟩
      · rw [Value.asNumber_of_isMissing t hm]
        exact holds_missing ht
      · exact holds_asNumber hs ht hheld
    | character =>
      change Dtype.string.Holds (shownText x)
      rw [shownText]
      split_ifs
      · exact .noText
      · exact .text _
    | @levels ls =>
      change (Dtype.category _).Holds (levelIn (storedLevels ls) x)
      rcases levelIn_cases (storedLevels ls) x with hnone | ⟨hmem, -⟩
      · rw [hnone]
        exact .noLevel _
      · exact .level hmem
  · intro y hy
    obtain ⟨v, hv, x, hx, rfl⟩ := hplaced y hy
    obtain ⟨hof, hbelow⟩ := hvs v hv
    cases ht with
    | null => exact absurd hx (not_mem_of_below_null hof.wellFormed hbelow)
    | unspecified => exact absurd rfl hspec
    | number ht => cases ht <;> trivial
    | _ => trivial
  · intro levels hlevels
    cases ht with
    | number ht => cases ht <;> cases hlevels
    | levels legal texts =>
      cases hlevels
      exact (IsOf.levels legal texts).isText_storedLevels
    | _ => cases hlevels

/-- A vector of a domain is the same as itself. -/
lemma same_self_of_isOf (hv : v.IsOf d) : v.same v = true := by
  refine TypedVector.same_self hv.wellFormed fun x hx => ?_
  have hheld := hv.wellFormed.held x hx
  have hdtype := hv.wellFormed.dtype_eq
  have htype := hv.type
  generalize hs : v.type = s at hdtype htype
  have hfamily : ∀ {f : Family}, s.OfFamily f → x.identical x = true := fun hf => by
    rw [hdtype hf.ne_categorical] at hheld
    exact identical_self_of_holds hf hheld
  cases htype with
  | null =>
    rw [hv.wellFormed.values_of_null hs] at hx
    cases hx
  | unspecified =>
    rw [hv.wellFormed.absent_of_unspecified hs hx]
    rfl
  | number ht =>
    cases ht with
    | logical => exact hfamily .logical
    | integer => exact hfamily .integer
    | double => exact hfamily .double
  | character => exact hfamily .character
  | levels =>
    have hstored := hv.wellFormed.stored
    rw [hs] at hstored
    obtain ⟨stored, hlevels, -⟩ := Dtype.eq_category_of_same hstored
    rw [hlevels] at hheld
    cases hheld with
    | noLevel => rfl
    | level hmem =>
      obtain ⟨r, hr, -⟩ := Value.text_of_isText (hv.stored stored hlevels x hmem)
      exact Value.identical_of_meaning? hr hr

/-- The first vectors are combined, and what comes of it is combined with the others. -/
def combineInGroups (strict : Bool) (rule : LossyRule) (xs ys : List TypedVector) : Except Failure Reported :=
  standard.combine strict rule none (xs.map .vector) >>= fun r =>
    standard.combine strict rule none (.vector r.vector :: ys.map .vector)

/-- Vectors of a domain are combined if a type is found for them, by placing their values in it. -/
lemma combine_eq_ok_of_domain (hvs : ∀ v ∈ vs, v.IsOf d) {r : Reported}
    (hr : standard.combine strict rule none (vs.map .vector) = .ok r) :
    ∃ t, standard.combinedType strict none (vs.map TypedVector.type) = .ok t ∧
      r.vector = holding t (vs.flatMap TypedVector.values) ∧ r.vector.IsOf d ∧ ∀ v ∈ vs, v.type.Below t := by
  have hfound := combinedType_of_combine hr
  obtain ⟨ht, hspec⟩ := isOf_combinedType (isOf_types hvs) hfound
  have hbelow := below_combinedType hvs hfound
  obtain ⟨warnings, hcombined⟩ := combine_holding strict rule hvs hfound
  rw [hr] at hcombined
  have hvector : r.vector = holding r.vector.type (vs.flatMap TypedVector.values) :=
    congrArg Reported.vector (Except.ok.inj hcombined)
  refine ⟨r.vector.type, hfound, hvector, ?_, hbelow⟩
  rw [hvector]
  exact isOf_holding ht hspec fun v hv => ⟨hvs v hv, hbelow v hv⟩

/-- Placing the values of a combined vector beside others, as if they had never been combined. -/
lemma holding_combined (hxs : ∀ v ∈ xs, v.IsOf d ∧ v.type.Below u) (hu : u.IsOf d) (ht : t.IsOf d) (hut : u.Below t) :
    holding t ((holding u (xs.flatMap TypedVector.values)).values ++ ys.flatMap TypedVector.values) =
      holding t ((xs ++ ys).flatMap TypedVector.values) := by
  have hfirst : ((xs.flatMap TypedVector.values).map (placed u)).map (placed t) =
      (xs.flatMap TypedVector.values).map (placed t) := by
    rw [List.map_map]
    refine List.map_congr_left ?_
    intro x hx
    obtain ⟨v, hv, hx⟩ := List.mem_flatMap.1 hx
    exact placed_placed (hxs v hv).1 hu ht (hxs v hv).2 hut hx
  rw [List.flatMap_append, holding, holding.eq_def t (_ ++ _), List.map_append, List.map_append, ← hfirst]
  rfl

/-- What is combined in groups is the vector of the type that is found for all, in which all values are placed. -/
lemma combineInGroups_eq_ok (hxs : ∀ v ∈ xs, v.IsOf d) (hys : ∀ v ∈ ys, v.IsOf d) {r : Reported}
    (hr : combineInGroups strict rule xs ys = .ok r) :
    ∃ t, standard.combinedType strict none ((xs ++ ys).map TypedVector.type) = .ok t ∧
      r.vector = holding t ((xs ++ ys).flatMap TypedVector.values) := by
  obtain ⟨q, hq, hr⟩ := bind_eq_ok_iff.1 hr
  obtain ⟨u, hu, hqu, hqof, hxu⟩ := combine_eq_ok_of_domain hxs hq
  have hall : ∀ v ∈ q.vector :: ys, v.IsOf d := List.forall_mem_cons.2 ⟨hqof, hys⟩
  have hthen : standard.combine strict rule none ((q.vector :: ys).map .vector) = .ok r := hr
  obtain ⟨t, ht, hrt, -, hbelow⟩ := combine_eq_ok_of_domain hall hthen
  have hqtype : q.vector.type = u := by rw [hqu]; rfl
  rw [List.map_cons, hqtype] at ht
  have htypes : ∀ s ∈ u :: ys.map TypedVector.type, s.IsOf d :=
    List.forall_mem_cons.2 ⟨(isOf_combinedType (isOf_types hxs) hu).1, isOf_types hys⟩
  refine ⟨t, ?_, ?_⟩
  · rw [List.map_append]
    exact (combinedType_regrouped (isOf_types hxs) (isOf_types hys)).1 ⟨u, hu, ht⟩
  · have hut : u.Below t := hqtype ▸ hbelow q.vector List.mem_cons_self
    rw [hrt, List.flatMap_cons, hqu]
    have hxs' : ∀ v ∈ xs, v.IsOf d ∧ v.type.Below u := by
      intro v hv
      exact ⟨hxs v hv, hxu v hv⟩
    have htOf := (isOf_combinedType htypes ht).1
    exact holding_combined hxs' (htypes u List.mem_cons_self) htOf hut

/-- Whether two ways of combining come to the same: both return or neither does, and what they return are the same
vectors. -/
structure ComesToTheSame (r s : Except Failure Reported) : Prop where
  returns_iff : (∃ q, r = .ok q) ↔ ∃ q, s = .ok q
  same : ∀ p q, r = .ok p → s = .ok q → p.vector.same q.vector = true

/-- **Regrouping.** Vectors of numbers, or of texts, may be combined in groups: that comes to the same as combining all of
them at once. -/
theorem combine_regrouped (strict : Bool) (rule : LossyRule) (hxs : ∀ v ∈ xs, v.IsOf d) (hys : ∀ v ∈ ys, v.IsOf d) :
    ComesToTheSame (combineInGroups strict rule xs ys) (standard.combine strict rule none ((xs ++ ys).map .vector)) := by
  have hall : ∀ v ∈ xs ++ ys, v.IsOf d := by
    intro v hv
    exact (List.mem_append.1 hv).elim (hxs v) (hys v)
  constructor
  case returns_iff =>
    constructor
    · rintro ⟨r, hr⟩
      obtain ⟨t, ht, -⟩ := combineInGroups_eq_ok hxs hys hr
      obtain ⟨warnings, hcombined⟩ := combine_holding strict rule hall ht
      exact ⟨_, hcombined⟩
    · rintro ⟨r, hr⟩
      obtain ⟨t, ht, -⟩ := combine_eq_ok_of_domain hall hr
      rw [List.map_append] at ht
      obtain ⟨u, hu, ht⟩ := (combinedType_regrouped (isOf_types hxs) (isOf_types hys)).2 ht
      obtain ⟨warnings, hfirst⟩ := combine_holding strict rule hxs hu
      obtain ⟨-, -, -, hof, -⟩ := combine_eq_ok_of_domain hxs hfirst
      have hrest : ∀ v ∈ holding u (xs.flatMap TypedVector.values) :: ys, v.IsOf d := List.forall_mem_cons.2 ⟨hof, hys⟩
      obtain ⟨warnings', hthen⟩ := combine_holding strict rule hrest ht
      exact ⟨_, bind_eq_ok_iff.2 ⟨_, hfirst, hthen⟩⟩
  case same =>
    intro p q hp hq
    obtain ⟨t, ht, hpt⟩ := combineInGroups_eq_ok hxs hys hp
    obtain ⟨t', ht', hqt, hof, -⟩ := combine_eq_ok_of_domain hall hq
    rw [ht] at ht'
    cases ht'
    rw [hpt, ← hqt]
    exact same_self_of_isOf hof

/-- A missing value of which nothing is known, and a truth value beside a missing one. -/
def unknownAndTruths : List TypedVector :=
  [⟨.unspecified, .ofValues [.absent]⟩, ⟨.logical, ⟨.boolean, [.bool true, .notAvailable]⟩⟩]

/-- An integer that no floating-point number is equal to. -/
def inexactInteger : List TypedVector :=
  [⟨.integer, ⟨.int64, [.int 9007199254740993]⟩⟩]

lemma isOf_unknownAndTruths : ∀ v ∈ unknownAndTruths, v.IsOf .numbers := by
  rw [unknownAndTruths, List.forall_mem_cons, List.forall_mem_singleton]
  constructor
  · refine ⟨⟨.unspecified, rfl, fun x _ => .any x, List.forall_mem_singleton.2 rfl⟩, .unspecified, ?_⟩
    rintro levels ⟨⟩
  · refine ⟨⟨.logical, rfl, ?_, fun _ _ => trivial⟩, .number .logical, ?_⟩
    · exact List.forall_mem_cons.2 ⟨.truth true, List.forall_mem_singleton.2 .noTruth⟩
    · rintro levels ⟨⟩

lemma isOf_inexactInteger : ∀ v ∈ inexactInteger, v.IsOf .numbers := by
  rw [inexactInteger, List.forall_mem_singleton]
  refine ⟨⟨.integer, rfl, List.forall_mem_singleton.2 (.int (by decide)), fun _ _ => trivial⟩, .number .integer, ?_⟩
  rintro levels ⟨⟩

theorem combine_regrouped_numbers :
    (∀ v ∈ unknownAndTruths, v.IsOf .numbers) ∧ (∀ v ∈ inexactInteger, v.IsOf .numbers) ∧
      ComesToTheSame (combineInGroups true .ignore unknownAndTruths inexactInteger)
        (standard.combine true .ignore none ((unknownAndTruths ++ inexactInteger).map .vector)) :=
  ⟨isOf_unknownAndTruths, isOf_inexactInteger,
    combine_regrouped true .ignore isOf_unknownAndTruths isOf_inexactInteger⟩

end Engine

end Coercion
