import Coercion.Proofs.Combine.Kept

/-!
The structure of combined vectors. Every input is cast to the type that has been found, and the results stand one after
the other in the combined vector; one report, if it is wished for and there is something to report, names the positions
that each of the casts has lost. For a categorical the results are looked up among the levels once more when they are
joined, and they stay what they are just if they are recognised there.
-/

namespace Coercion

namespace Registry

open VectorType Column

variable {v : TypedVector} {t : VectorType} {r : CastResult}

/-! ### Casts to types without values -/

/-- Nothing that may have values is cast to the unspecified type. -/
lemma route_unspecified {s : VectorType} (hs : s.IsStandard) (htyped : s.isTyped = true) :
    standard.route true s .unspecified = .direct .noCast := by
  have hne : s.same .unspecified = false := by cases hs <;> first | rfl | exact absurd htyped (by decide)
  have hnone : caster? s .unspecified = none := by cases hs <;> rfl
  exact route_refused hs .unspecified htyped (by rintro ⟨⟩) hne hnone (.inr rfl)

/-- Only vectors without values are cast to the null type, and only such and missing values to the unspecified one. -/
lemma joinsAs_of_castTo_untyped (hv : v.WellFormed) (ht : t.IsStandard) (htyped : t.isTyped = false)
    (hr : standard.castTo true v t = .ok r) :
    r.vector.column.JoinsAs t ∧ v.values.length = r.vector.values.length := by
  have hs := hv.standard
  by_cases hfits : v.type.Fits t
  · exact joinsAs_of_castTo hv ht hfits hr
  rcases (isTyped_eq_false_iff t).1 htyped with rfl | rfl
  · have hroute : standard.route true v.type .null = .toNull := by
      generalize v.type = s at hs hfits
      cases hs <;> first | rfl | exact absurd rfl hfits
    rw [castTo, castFuel, castWithin, hroute] at hr
    simp only at hr
    split_ifs at hr with hsize
    cases hr
    exact ⟨rfl, not_not.1 hsize⟩
  · have hsome : v.type.isTyped = true := by
      by_contra hnot
      rcases (isTyped_eq_false_iff v.type).1 (by simpa using hnot) with h | h
      · exact hfits (by rw [h]; exact Or.inl rfl)
      · exact hfits (by rw [h]; exact Or.inr rfl)
    rw [castTo, castFuel, castWithin, route_unspecified hs hsome] at hr
    cases hr

end Registry

namespace Engine

open VectorType Registry Column

variable {strict : Bool} {rule : LossyRule} {target : Option Specifier} {vs : List TypedVector}
  {ts : List VectorType} {t : VectorType} {results : List CastResult} {levels ys : List Value}

/-! ### The type that is found -/

/-- The type that is found for vectors is one that all of them fit, or a target without values. -/
lemma fits_of_combinedType (hts : ∀ s ∈ ts, s.IsStandard)
    (htarget : ∀ s u, target = some s → standard.resolve s = .ok u → u.IsStandard)
    (h : standard.combinedType strict target ts = .ok t) :
    t.IsStandard ∧ ((∀ s ∈ ts, s.Fits t) ∨ t.isTyped = false) := by
  cases target with
  | none =>
    rcases finds_combinedType_none strict hts with ⟨u, hu, hstandard, hfits⟩ | ⟨f, hf, -⟩
    · rw [h] at hu
      cases hu
      exact ⟨hstandard, .inl hfits⟩
    · rw [h] at hf
      cases hf
  | some s =>
    obtain ⟨u, hu, hchecked⟩ := bind_eq_ok_iff.1 h
    obtain ⟨⟨⟩, hcheck, hfound⟩ := bind_eq_ok_iff.1 hchecked
    cases hfound
    have hstandard := htarget s t rfl hu
    refine ⟨hstandard, ?_⟩
    cases htyped : t.isTyped with
    | false => exact .inr rfl
    | true =>
      rcases finds_checkTarget strict 0 hts hstandard htyped with ⟨-, hfits⟩ | ⟨f, hf, -⟩
      · exact .inl hfits
      · cases hcheck.symm.trans hf

/-- What is cast to the type that is found can be joined, and is as long as it was. -/
lemma joinsAs_of_found (hvs : ∀ v ∈ vs, v.WellFormed)
    (htarget : ∀ s u, target = some s → standard.resolve s = .ok u → u.IsStandard)
    (hfound : standard.combinedType strict target (vs.map TypedVector.type) = .ok t) {v : TypedVector} (hv : v ∈ vs)
    {c : CastResult} (hc : Registry.standard.castTo true v t = .ok c) :
    c.vector.column.JoinsAs t ∧ v.values.length = c.vector.values.length := by
  obtain ⟨ht, hfits⟩ := fits_of_combinedType (isStandard_types hvs) htarget hfound
  rcases hfits with hfits | huntyped
  · have hbelow := hfits v.type (List.mem_map_of_mem hv)
    exact joinsAs_of_castTo (hvs v hv) ht hbelow hc
  · exact joinsAs_of_castTo_untyped (hvs v hv) ht huntyped hc

/-! ### What is recognised -/

/-- Whether values are recognised by the levels of a categorical: each of them that is present is equal to a level in its
stored form, and they are not truth values alone before numbers alone, nor numbers alone before truth values. -/
structure Recognised (levels ys : List Value) : Prop where
  known : ∀ y ∈ ys, y.isMissing = false → y.isIn (storedLevels levels) = true
  together : comparable (storedLevels levels) (Column.ofValues ys).present = true

/-- What is recognised, and nothing else, stays the same when it is taken for a level. -/
theorem recognised_iff :
    Recognised levels ys ↔ ∀ y ∈ ys, (taken (storedLevels levels) (.ofValues ys) y).Alike y := by
  constructor
  · intro h y hy
    rw [taken_of_comparable h.together]
    cases hm : y.isMissing with
    | true =>
      rw [levelIn_of_isMissing _ hm]
      exact .inr (.inr ⟨rfl, hm⟩)
    | false =>
      obtain ⟨l, hl, hly⟩ := (Value.isIn_iff _ _).1 (h.known y hy hm)
      exact .inr (.inl (same_levelIn hm hl hly))
  · intro h
    have htogether : comparable (storedLevels levels) (Column.ofValues ys).present = true := by
      by_contra hnot
      rw [Bool.not_eq_true] at hnot
      obtain ⟨y, hy⟩ := List.exists_mem_of_ne_nil _ ((comparable_eq_false_iff _ _).1 hnot).1
      obtain ⟨hy, hm⟩ := mem_present.1 hy
      have hlost := (h y hy).isMissing_eq
      rw [taken_of_not_comparable hnot, hm] at hlost
      cases hlost
    refine ⟨?_, htogether⟩
    intro y hy hm
    have hlevel := (h y hy).isMissing_eq
    rw [taken_of_comparable htogether, hm] at hlevel
    rcases levelIn_cases (storedLevels levels) y with hnan | ⟨hmem, hsame⟩
    · rw [hnan] at hlevel
      cases hlevel
    · exact (Value.isIn_iff _ _).2 ⟨_, hmem, hsame⟩

/-! ### The structure -/

/-- The values that the casts of some vectors lead to, one after the other. -/
def castValues (t : VectorType) (vs : List TypedVector) : List Value :=
  vs.flatMap fun v =>
    match Registry.standard.castTo true v t with
    | .ok c => c.vector.values
    | .error _ => []

/-- Whether a combined vector has a place for every value of the results of the casts of the inputs, and its reports are
of what they have lost. -/
structure Structured (rule : LossyRule) (vs : List TypedVector) (r : Reported) : Prop where
  size : r.vector.size = start vs vs.length
  /-- Each input is cast, to a vector of its size. -/
  cast : ∀ v ∈ vs, ∃ c, Registry.standard.castTo true v r.vector.type = .ok c ∧ c.vector.size = v.size
  /-- There is at most one report. -/
  once : r.warnings.length ≤ 1
  warned : r.warnings ≠ [] ↔
    rule = .warn ∧ ∃ v ∈ vs, ∃ c, Registry.standard.castTo true v r.vector.type = .ok c ∧ c.lossy ≠ []
  /-- It has one entry for every input that has lost something. -/
  apart : ∀ w ∈ r.warnings, (w.lossy.map (·.1)).Nodup
  entry : ∀ w ∈ r.warnings, ∀ i positions, (i, positions) ∈ w.lossy ↔
    positions ≠ [] ∧ ∃ v c, vs[i]? = some v ∧ Registry.standard.castTo true v r.vector.type = .ok c ∧ c.lossy = positions

/-- Whether the values of a combined vector are those of the casts of the inputs, one input after the other. -/
def HoldsCasts (vs : List TypedVector) (w : TypedVector) : Prop :=
  ∀ (i : Nat) v c, vs[i]? = some v → Registry.standard.castTo true v w.type = .ok c →
    ∀ (j : Nat) y, c.vector.values[j]? = some y → ∃ x, w.values[start vs i + j]? = some x ∧ x.Alike y

/-- The results of the casts of some vectors. -/
abbrev Results (t : VectorType) (vs : List TypedVector) (results : List CastResult) : Prop :=
  List.Forall₂ (fun v c => Registry.standard.castTo true v t = .ok c) vs results

lemma castValues_eq (h : Results t vs results) : castValues t vs = results.flatMap fun c => c.vector.values :=
  flatMap_eq_of_forall₂ (h.imp fun v c hc => by rw [hc])

lemma exists_lossy_iff (h : Results t vs results) (i : Nat) (positions : List Nat) :
    (i, positions) ∈ lossyEntries results ↔
      ∃ v c, vs[i]? = some v ∧ Registry.standard.castTo true v t = .ok c ∧ c.lossy = positions := by
  rw [mem_lossyEntries]
  constructor
  · rintro ⟨c, hc, rfl⟩
    obtain ⟨v, hv, hcast⟩ := exists_getElem?_of_forall₂ h.flip hc
    exact ⟨v, c, hv, hcast, rfl⟩
  · rintro ⟨v, c, hv, hcast, rfl⟩
    obtain ⟨d, hd, hcast'⟩ := exists_getElem?_of_forall₂ h hv
    rw [hcast] at hcast'
    cases hcast'
    exact ⟨c, hd, rfl⟩

lemma length_reports (rule : LossyRule) (t : VectorType) (entries : List (Nat × List Nat)) :
    (reports rule t entries).length ≤ 1 := by
  rw [reports]
  split_ifs
  · exact le_rfl
  · exact Nat.zero_le 1

/-- The inputs are numbered, so that each has one entry. -/
lemma nodup_lossyEntries (results : List CastResult) : ((lossyEntries results).map (·.1)).Nodup := by
  rw [lossyEntries, List.map_map]
  change (results.zipIdx.map Prod.snd).Nodup
  rw [List.zipIdx_map_snd]
  exact List.nodup_range'

/-- The casts of some vectors, each with a result of the size of the vector. -/
abbrev SizedResults (t : VectorType) (vs : List TypedVector) (results : List CastResult) : Prop :=
  List.Forall₂ (fun v c => Registry.standard.castTo true v t = .ok c ∧ v.values.length = c.vector.values.length)
    vs results

lemma SizedResults.casts (h : SizedResults t vs results) : Results t vs results :=
  h.imp fun _ _ hc => hc.1

/-- The results of the casts begin where the inputs do. -/
lemma SizedResults.start_eq (h : SizedResults t vs results) (i : Nat) :
    ((results.take i).flatMap fun c => c.vector.values).length = start vs i := by
  have hlengths := h.imp fun _ _ hc => hc.2
  exact (length_flatMap_of_forall₂ (List.forall₂_take i hlengths)).symm

lemma SizedResults.getElem?_castValues (h : SizedResults t vs results) {i j : Nat} {c : CastResult} {y : Value}
    (hc : results[i]? = some c) (hy : c.vector.values[j]? = some y) :
    (castValues t vs)[start vs i + j]? = some y := by
  have hplace := getElem?_flatMap (fun c : CastResult => c.vector.values) hc hy
  rwa [h.start_eq i, ← castValues_eq h.casts] at hplace

/-- Vectors that are joined have the structure if no value is added or left out. -/
lemma structured_of_length {w : TypedVector} (hw : w.type = t) (hcasts : SizedResults t vs results)
    (hsize : w.values.length = (castValues t vs).length) :
    Structured rule vs ⟨w, reports rule t (lossyEntries results)⟩ := by
  subst hw
  have hentry := exists_lossy_iff hcasts.casts
  constructor
  case size =>
    change w.values.length = _
    rw [hsize, castValues_eq hcasts.casts, ← hcasts.start_eq, hcasts.length_eq, List.take_length]
  case cast =>
    intro v hv
    obtain ⟨c, -, hcast, hlength⟩ := exists_mem_of_forall₂ hcasts.flip hv
    exact ⟨c, hcast, hlength.symm⟩
  case once => exact length_reports _ _ _
  case warned =>
    rw [Ne, List.eq_nil_iff_forall_not_mem, not_forall]
    simp only [not_not, mem_reports]
    constructor
    · rintro ⟨warning, hrule, ⟨⟨i, positions⟩, hmem, hne⟩, -⟩
      obtain ⟨v, c, hv, hcast, rfl⟩ := (hentry i positions).1 hmem
      exact ⟨hrule, v, List.mem_of_getElem? hv, c, hcast, hne⟩
    · rintro ⟨hrule, v, hv, c, hcast, hne⟩
      obtain ⟨i, hi⟩ := List.getElem?_of_mem hv
      exact ⟨_, hrule, ⟨(i, c.lossy), (hentry i _).2 ⟨v, c, hi, hcast, rfl⟩, hne⟩, rfl⟩
  case apart =>
    intro warning hwarning
    obtain ⟨-, -, rfl⟩ := mem_reports.1 hwarning
    exact (List.filter_sublist.map _).nodup (nodup_lossyEntries results)
  case entry =>
    intro warning hwarning i positions
    obtain ⟨-, -, rfl⟩ := mem_reports.1 hwarning
    rw [List.mem_filter, hentry, and_comm, Bool.not_eq_true', List.isEmpty_eq_false_iff]

/-- What is joined holds the casts just if the values that are cast stay the same when they are joined. -/
lemma holdsCasts_iff {w : TypedVector} (hw : w.type = t) (hcasts : SizedResults t vs results) {g : Value → Value}
    (hvalues : w.values = (castValues t vs).map g) : HoldsCasts vs w ↔ ∀ y ∈ castValues t vs, (g y).Alike y := by
  subst hw
  have hplace : ∀ {i j : Nat} {c : CastResult} {y : Value}, results[i]? = some c → c.vector.values[j]? = some y →
      w.values[start vs i + j]? = some (g y) := by
    intro i j c y hc hy
    rw [hvalues, List.getElem?_map, hcasts.getElem?_castValues hc hy]
    rfl
  constructor
  · intro hholds y hy
    -- the value comes from some place of one of the casts, and stands at the same place in the result
    rw [castValues_eq hcasts.casts] at hy
    obtain ⟨c, hc, hy⟩ := List.mem_flatMap.1 hy
    obtain ⟨i, hi⟩ := List.getElem?_of_mem hc
    obtain ⟨j, hj⟩ := List.getElem?_of_mem hy
    obtain ⟨v, hv, hcast, -⟩ := exists_getElem?_of_forall₂ hcasts.flip hi
    obtain ⟨x, hx, hxy⟩ := hholds i v c hv hcast j y hj
    cases hx.symm.trans (hplace hi hj)
    exact hxy
  · intro halike i v c hv hcast j y hy
    obtain ⟨d, hd, hcast', -⟩ := exists_getElem?_of_forall₂ hcasts hv
    cases hcast.symm.trans hcast'
    refine ⟨g y, hplace hd hy, halike y ?_⟩
    exact List.mem_of_getElem? (hcasts.getElem?_castValues hd hy)

/-- **The structure of combination.** Well-formed vectors that are combined, with or without a target, are cast to the
type of the result, which has a place for each of their values, and the losses are in one report. The values are those of
the casts, one input after the other, if and only if the result is no categorical or its levels recognise what has been
cast to it. -/
theorem combine_structured_iff (strict : Bool) (rule : LossyRule) (hvs : ∀ v ∈ vs, v.WellFormed)
    (htarget : ∀ s u, target = some s → standard.resolve s = .ok u → u.IsStandard) {r : Reported}
    (hr : standard.combine strict rule target (vs.map .vector) = .ok r) :
    Structured rule vs r ∧
      (HoldsCasts vs r.vector ↔
        ∀ levels, r.vector.type = .categorical levels → Recognised levels (castValues r.vector.type vs)) := by
  obtain ⟨t, results, w, hfound, hresults, hjoined, rfl⟩ := combine_eq_ok hr
  have ht := (fits_of_combinedType (isStandard_types hvs) htarget hfound).1
  have hw : w.type = t := type_of_join hjoined
  have hmem := forall₂_mem_left hresults
  have hjoins : ∀ v ∈ vs, ∀ c, Registry.standard.castTo true v t = .ok c →
      c.vector.column.JoinsAs t ∧ v.values.length = c.vector.values.length := by
    intro v hv c hcast
    exact joinsAs_of_found hvs htarget hfound hv hcast
  have hcasts : SizedResults t vs results := hmem.imp fun v c h => ⟨h.2, (hjoins v h.1 c h.2).2⟩
  by_cases hcategorical : ∃ levels, t = .categorical levels
  · obtain ⟨levels, rfl⟩ := hcategorical
    have hvalues := values_join_categorical hjoined
    rw [← castValues_eq hresults] at hvalues
    refine ⟨structured_of_length hw hcasts (by rw [hvalues, List.length_map]), ?_⟩
    rw [holdsCasts_iff hw hcasts hvalues, ← recognised_iff]
    refine ⟨fun h ls hls => ?_, fun h => hw ▸ h levels hw⟩
    cases hw.symm.trans hls
    rwa [hw]
  · have hnot : ∀ levels, t ≠ .categorical levels := by
      intro levels heq
      exact hcategorical ⟨levels, heq⟩
    have hvalues := values_join ht hnot (fun c hc => ?_) hjoined
    · rw [← castValues_eq hresults] at hvalues
      refine ⟨structured_of_length hw hcasts (by rw [hvalues]), iff_of_true ?_ ?_⟩
      · have hmapped := hvalues.trans (List.map_id _).symm
        exact (holdsCasts_iff hw hcasts hmapped).2 fun y _ => .inl rfl
      · intro levels hls
        have htype := hw.symm.trans hls
        exact absurd htype (hnot levels)
    · obtain ⟨v, -, hv, hcast⟩ := exists_mem_of_forall₂ hmem hc
      exact (hjoins v hv c hcast).1

/-- A categorical with two texts for levels, the second of which it holds beside a missing value. -/
def textAndMissing : TypedVector :=
  ⟨.categorical [.text "a", .text "b"], ⟨.category (some [.text "a", .text "b"]), [.text "b", .double .nan]⟩⟩

/-- A categorical with the same levels in the other order, which holds the same text. -/
def textOfSwapped : TypedVector :=
  ⟨.categorical [.text "b", .text "a"], ⟨.category (some [.text "b", .text "a"]), [.text "b"]⟩⟩

lemma wellFormed_textAndMissing : textAndMissing.WellFormed where
  standard := .categorical (by decide)
  stored := by decide
  held := by
    simp only [textAndMissing, TypedVector.values, List.forall_mem_cons]
    exact ⟨.level (by simp), .noLevel _, by simp⟩
  admitted _ _ := trivial

lemma wellFormed_textOfSwapped : textOfSwapped.WellFormed where
  standard := .categorical (by decide)
  stored := by decide
  held := List.forall_mem_singleton.2 (.level (by simp))
  admitted _ _ := trivial

/-- Levels in another order are put into the order of the first vector. -/
theorem combine_structured_iff_texts :
    Structured .warn [textAndMissing, textOfSwapped]
      ⟨⟨.categorical [.text "a", .text "b"],
        ⟨.category (some [.text "a", .text "b"]), [.text "b", .double .nan, .text "b"]⟩⟩, []⟩ ∧
    HoldsCasts [textAndMissing, textOfSwapped]
      ⟨.categorical [.text "a", .text "b"],
        ⟨.category (some [.text "a", .text "b"]), [.text "b", .double .nan, .text "b"]⟩⟩ := by
  have hvs : ∀ v ∈ [textAndMissing, textOfSwapped], v.WellFormed := by
    simp only [List.forall_mem_cons]
    exact ⟨wellFormed_textAndMissing, wellFormed_textOfSwapped, by simp⟩
  have hvalues : castValues (.categorical [.text "a", .text "b"]) [textAndMissing, textOfSwapped] =
      [.text "b", .double .nan, .text "b"] := rfl
  have hcombined : standard.combine true .warn none ([textAndMissing, textOfSwapped].map .vector) =
      .ok ⟨⟨.categorical [.text "a", .text "b"],
        ⟨.category (some [.text "a", .text "b"]), [.text "b", .double .nan, .text "b"]⟩⟩, []⟩ := rfl
  obtain ⟨hstructured, hholds⟩ := combine_structured_iff true .warn hvs (by rintro s u ⟨⟩) hcombined
  refine ⟨hstructured, hholds.2 fun levels hlevels => ?_⟩
  cases hlevels
  rw [hvalues]
  exact ⟨by decide, by decide⟩

/-- An empty categorical with the integer one for a level takes in a truth value that is equal to it, and the value is
lost when nothing else is joined to it. -/
theorem not_combine_structured :
    ¬ ∀ (strict : Bool) (rule : LossyRule) (target : Option Specifier) (vs : List TypedVector) (r : Reported),
      (∀ v ∈ vs, v.WellFormed) → (∀ s u, target = some s → standard.resolve s = .ok u → u.IsStandard) →
        standard.combine strict rule target (vs.map .vector) = .ok r →
          Structured rule vs r ∧ HoldsCasts vs r.vector := by
  intro h
  have hvs : ∀ v ∈ [noneOfOne, oneTruth], v.WellFormed := by
    simp only [List.forall_mem_cons]
    exact ⟨wellFormed_noneOfOne, wellFormed_oneTruth, by simp⟩
  obtain ⟨-, hholds⟩ := h false .warn none [noneOfOne, oneTruth]
    ⟨⟨.categorical [.int 1], ⟨.category (some [.int 1]), [.double .nan]⟩⟩, []⟩ hvs (by rintro s u ⟨⟩) rfl
  have hcast : Registry.standard.castTo true oneTruth (.categorical [.int 1]) =
      .ok ⟨⟨.categorical [.int 1], oneTruth.column⟩, []⟩ := castTo_unchanged rfl rfl
  obtain ⟨x, hx, hxy⟩ := hholds 1 oneTruth _ rfl hcast 0 (.bool true) rfl
  cases hx
  have hmissing := hxy.isMissing_eq
  cases hmissing

end Engine

end Coercion
