import Coercion.Proofs.Combine.Agreement

/-!
Vectors without information. Vectors without values and vectors of missing values only are meant to make no difference
to the type of what they are combined with. They make none if at most one vector of missing values comes before the
first vector with values. Two of them are taken for truth values, and then the first vector with values has to be one of
numbers; otherwise a combination is refused that the vectors with values have.
-/

namespace Coercion

namespace Engine

open VectorType Registry

variable {strict : Bool} {rule : LossyRule} {vs : List TypedVector} {ts : List VectorType} {t : VectorType}
  {c : Option VectorType}

/-- The vectors of a list whose types have values. -/
def informative (vs : List TypedVector) : List TypedVector :=
  vs.filter fun v => v.type.isTyped

lemma mem_informative {v : TypedVector} : v ∈ informative vs ↔ v ∈ vs ∧ v.type.isTyped = true :=
  List.mem_filter

lemma types_informative (vs : List TypedVector) :
    (informative vs).map TypedVector.type = (vs.map TypedVector.type).filter isTyped := by
  rw [informative, List.filter_map]
  rfl

/-- Two attempts to combine agree on the type if both make vectors of equal types, or both fail. -/
inductive AgreeOnType : Except Failure Reported → Except Failure Reported → Prop where
  | made {r s : Reported} (same : (r.vector.type == s.vector.type) = true) : AgreeOnType (.ok r) (.ok s)
  | failed {f g : Failure} : AgreeOnType (.error f) (.error g)

/-! ### Common types -/

/-- A list of types has one common type, with values, at most, whether its types without values are there or not. With
them it has that type only if they are ignored before the first type with values. -/
lemma exists_common (strict : Bool) (hts : ∀ t ∈ ts, t.IsStandard) (hsome : ts.any isTyped = true) :
    ∃ c : Option VectorType, (∀ t, c = some t → t.IsStandard ∧ t.isTyped = true) ∧
      Settles c (Registry.standard.commonType strict (ts.filter isTyped)) ∧
      Settles (if leadingIgnored ts then c else none) (Registry.standard.commonType strict ts) ∧
      ∀ t, c = some t → leadingIgnored ts = true → ∀ s ∈ ts, s.Fits t := by
  have htyped : ∀ t ∈ ts.filter isTyped, t.IsStandard := by
    intro t ht
    exact hts t (List.mem_filter.1 ht).1
  have hsome' : (ts.filter isTyped).any isTyped = true := by
    rw [List.any_filter]
    simpa using hsome
  have hfold := commonFrom?_typed strict hts hsome
  refine ⟨commonFrom? strict .null (ts.filter isTyped), ?_, commonType_standard strict htyped, ?_, ?_⟩
  · intro t ht
    exact ⟨commonFrom?_isStandard .null htyped ht, isTyped_commonFrom? .null htyped (Or.inr hsome') ht⟩
  · rw [← hfold]
    exact commonType_standard strict hts
  · intro t ht hlead
    rw [if_pos hlead, ht] at hfold
    exact (fits_commonFrom? .null hts hfold).2

/-- The types without values make no difference to the common type if they are ignored before the first type with
values, or if there is no common type without them either. -/
theorem commonType_agree_iff (strict : Bool) (hts : ∀ t ∈ ts, t.IsStandard) (hsome : ts.any isTyped = true) :
    Agree (Registry.standard.commonType strict ts) (Registry.standard.commonType strict (ts.filter isTyped)) ↔
      leadingIgnored ts = true ∨ ∃ f, Registry.standard.commonType strict (ts.filter isTyped) = .error f := by
  obtain ⟨c, hc, htyped, hall, -⟩ := exists_common strict hts hsome
  by_cases hlead : leadingIgnored ts = true
  · rw [if_pos hlead] at hall
    have hagree := Agree.of_settles hall htyped fun t ht => (hc t ht).1
    exact ⟨fun _ => Or.inl hlead, fun _ => hagree⟩
  · -- the whole list is refused, so the two agree only if the types with values are refused too
    rw [if_neg hlead] at hall
    obtain ⟨f, hf, hcategory⟩ := hall
    rw [hf]
    constructor
    · intro hagree
      generalize Registry.standard.commonType strict (ts.filter isTyped) = r at hagree
      cases hagree with
      | refused => exact Or.inr ⟨_, rfl⟩
    · rintro (h | ⟨g, hg⟩)
      · exact absurd h hlead
      · cases c with
        | none =>
          obtain ⟨g', hg', hcategory'⟩ := htyped
          rw [hg']
          exact .refused hcategory hcategory'
        | some t =>
          rw [htyped] at hg
          cases hg

/-! ### Combined vectors -/

/-- A common type with values is the type that vectors are combined into. -/
lemma settles_combinedType (h : Settles c (Registry.standard.commonType strict ts))
    (htyped : ∀ t, c = some t → t.isTyped = true) : Settles c (standard.combinedType strict none ts) := by
  cases c with
  | none =>
    obtain ⟨f, hf, hcategory⟩ := h
    refine ⟨f, ?_, hcategory⟩
    change (Registry.standard.commonType strict ts >>= _) = _
    rw [hf]
    rfl
  | some t =>
    have ht : t.isTyped = true := htyped t rfl
    change (Registry.standard.commonType strict ts >>= _) = _
    rw [h]
    cases t <;> first | rfl | cases ht

/-- A vector without values arrives at every type with values. -/
lemma arrives_untyped {v : TypedVector} (hv : v.WellFormed) (ht : t.IsStandard)
    (htyped : t.isTyped = true) (huntyped : v.type.isTyped = false) :
    Arrives v t (Registry.standard.castTo true v t) := by
  rcases (isTyped_eq_false_iff v.type).1 huntyped with hs | hs
  · refine arrives_fromNull hv ht hs ?_
    rw [hs]
    cases ht <;> first | rfl | cases htyped
  · refine arrives_fromUnspecified ht hs ?_ ?_
    · rw [hs]
      cases ht <;> first | rfl | cases htyped
    · rintro rfl
      cases htyped

/-- If a list and its vectors with values have the same common type, they are combined into vectors of this type, or
both are not, because of a date that is out of range in both. -/
lemma agreeOnType_of_common (rule : LossyRule) (hvs : ∀ v ∈ vs, v.WellFormed) (ht : t.IsStandard)
    (htyped : t.isTyped = true) (hfits : ∀ v ∈ vs, v.type.Fits t)
    (hall : standard.combinedType strict none (vs.map TypedVector.type) = .ok t)
    (hsome : standard.combinedType strict none ((informative vs).map TypedVector.type) = .ok t) :
    AgreeOnType (standard.combine strict rule none (vs.map .vector))
      (standard.combine strict rule none ((informative vs).map .vector)) := by
  have hwell : ∀ v ∈ informative vs, v.WellFormed := by
    intro v hv
    exact hvs v (mem_informative.1 hv).1
  have hfits' : ∀ v ∈ informative vs, v.type.Fits t := by
    intro v hv
    exact hfits v (mem_informative.1 hv).1
  rcases combine_fitting rule hvs ht hfits hall with ⟨⟨r, hr, hrt⟩, harrives⟩ | ⟨f, hf, -, v, hv, hcast⟩
  · rcases combine_fitting rule hwell ht hfits' hsome with ⟨⟨s, hs, hst⟩, -⟩ | ⟨g, -, -, v, hv, hcast⟩
    · rw [hr, hs]
      refine .made ?_
      rw [hrt, hst]
      exact same_refl ht
    · exact absurd hcast ((harrives v (mem_informative.1 hv).1).ne_error g)
  · rcases combine_fitting rule hwell ht hfits' hsome with ⟨-, harrives⟩ | ⟨g, hg, -⟩
    · -- the vector that is refused has values, since the others arrive, and so it is one of the others too
      have hvalues : v.type.isTyped = true := by
        by_contra huntyped
        have huntyped' := arrives_untyped (hvs v hv) ht htyped (Bool.not_eq_true _ ▸ huntyped)
        exact huntyped'.ne_error f hcast
      have harrives' := harrives v (mem_informative.2 ⟨hv, hvalues⟩)
      exact absurd hcast (harrives'.ne_error f)
    · rw [hf, hg]
      exact .failed

lemma combine_eq_error {f : Failure} (h : standard.combinedType strict none (vs.map TypedVector.type) = .error f) :
    standard.combine strict rule none (vs.map .vector) = .error f := by
  rw [combine_vectors, h]
  rfl

/-- The vectors without values make no difference to what vectors are combined into if they are ignored before the
first vector with values, or if the vectors with values cannot be combined either. -/
theorem combine_agree_iff (strict : Bool) (rule : LossyRule) (hvs : ∀ v ∈ vs, v.WellFormed)
    (hsome : (vs.map TypedVector.type).any isTyped = true) :
    AgreeOnType (standard.combine strict rule none (vs.map .vector))
        (standard.combine strict rule none ((informative vs).map .vector)) ↔
      leadingIgnored (vs.map TypedVector.type) = true ∨
        ∃ f, standard.combine strict rule none ((informative vs).map .vector) = .error f := by
  obtain ⟨c, hc, hinformative, hall, hfits⟩ := exists_common strict (isStandard_types hvs) hsome
  rw [← types_informative] at hinformative
  by_cases hlead : leadingIgnored (vs.map TypedVector.type) = true
  · refine ⟨fun _ => Or.inl hlead, ?_⟩
    intro _
    rw [if_pos hlead] at hall
    have hall' := settles_combinedType hall fun t ht => (hc t ht).2
    have hinformative' := settles_combinedType hinformative fun t ht => (hc t ht).2
    cases c with
    | none =>
      obtain ⟨f, hf, -⟩ := hall'
      obtain ⟨g, hg, -⟩ := hinformative'
      rw [combine_eq_error hf, combine_eq_error hg]
      exact .failed
    | some t =>
      obtain ⟨ht, htyped⟩ := hc t rfl
      have hfits' : ∀ v ∈ vs, v.type.Fits t := by
        intro v hv
        exact hfits t rfl hlead v.type (List.mem_map_of_mem hv)
      exact agreeOnType_of_common rule hvs ht htyped hfits' hall' hinformative'
  · rw [if_neg hlead] at hall
    obtain ⟨f, hf, -⟩ := settles_combinedType hall fun t ht => nomatch ht
    rw [combine_eq_error hf]
    constructor
    · intro hagree
      generalize standard.combine strict rule none ((informative vs).map .vector) = r at hagree
      cases hagree with
      | failed => exact Or.inr ⟨_, rfl⟩
    · rintro (h | ⟨g, hg⟩)
      · exact absurd h hlead
      · rw [hg]
        exact .failed

/-- Vectors with values that can be combined have the type of the result as their common type. -/
lemma commonType_of_combine (hvs : ∀ v ∈ vs, v.WellFormed) (hsome : (vs.map TypedVector.type).any isTyped = true)
    {r : Reported} (hr : standard.combine strict rule none ((informative vs).map .vector) = .ok r) :
    Registry.standard.commonType strict ((informative vs).map TypedVector.type) = .ok r.vector.type := by
  obtain ⟨c, hc, hinformative, -⟩ := exists_common strict (isStandard_types hvs) hsome
  rw [← types_informative] at hinformative
  have hfound := combinedType_of_combine hr
  have hcombined := settles_combinedType hinformative fun t ht => (hc t ht).2
  cases c with
  | none =>
    obtain ⟨f, hf, -⟩ := hcombined
    rw [hf] at hfound
    cases hfound
  | some t =>
    rw [hcombined] at hfound
    cases hfound
    exact hinformative

/-! ### When vectors without values are ignored -/

/-- Whether vectors without values are ignored, by the search for a common type and by combination, exactly if at most
one vector of missing values comes before the first vector with values, or this is one of numbers, or the vectors with
values are refused on their own. What is combined of the latter has their common type. -/
structure MissingIgnored (strict : Bool) (rule : LossyRule) (vs : List TypedVector) : Prop where
  common : Agree (standard.commonType strict (specifiers vs))
      (standard.commonType strict (specifiers (informative vs))) ↔
    leadingIgnored (vs.map TypedVector.type) = true ∨
      ∃ f, standard.commonType strict (specifiers (informative vs)) = .error f
  combined : AgreeOnType (standard.combine strict rule none (vs.map .vector))
      (standard.combine strict rule none ((informative vs).map .vector)) ↔
    leadingIgnored (vs.map TypedVector.type) = true ∨
      ∃ f, standard.combine strict rule none ((informative vs).map .vector) = .error f
  type : ∀ r, standard.combine strict rule none ((informative vs).map .vector) = .ok r →
    standard.commonType strict (specifiers (informative vs)) = .ok r.vector.type

/-- **Vectors without values.** They make no difference to the type of a list that has a vector with values, exactly
under the conditions stated. -/
theorem missing_ignored_iff (strict : Bool) (rule : LossyRule) {vs : List TypedVector} (hvs : ∀ v ∈ vs, v.WellFormed)
    (hsome : (vs.map TypedVector.type).any isTyped = true) : MissingIgnored strict rule vs := by
  constructor
  case common =>
    rw [commonType_specifiers, commonType_specifiers, types_informative]
    exact commonType_agree_iff strict (isStandard_types hvs) hsome
  case combined => exact combine_agree_iff strict rule hvs hsome
  case type =>
    intro r hr
    rw [commonType_specifiers]
    exact commonType_of_combine hvs hsome hr

/-- A vector of one missing value. -/
def oneMissing : TypedVector :=
  ⟨.unspecified, .ofValues [.absent]⟩

lemma wellFormed_oneMissing : oneMissing.WellFormed :=
  ⟨.unspecified, rfl, List.forall_mem_singleton.2 (.any _), List.forall_mem_singleton.2 rfl⟩

/-- A vector of one text. -/
def oneText : TypedVector :=
  ⟨.character, ⟨.string, [.text "a"]⟩⟩

lemma wellFormed_oneText : oneText.WellFormed :=
  ⟨.character, rfl, List.forall_mem_singleton.2 (.text _), List.forall_mem_singleton.2 trivial⟩

lemma wellFormed_missingAndText : ∀ v ∈ [oneMissing, oneMissing, oneText], v.WellFormed := by
  simp only [List.forall_mem_cons]
  exact ⟨wellFormed_oneMissing, wellFormed_oneMissing, wellFormed_oneText, by simp⟩

/-- Two vectors of missing values and one of texts. -/
theorem missing_ignored_iff_texts : MissingIgnored true .warn [oneMissing, oneMissing, oneText] :=
  missing_ignored_iff true .warn wellFormed_missingAndText rfl

/-- The texts are common to themselves, but not to themselves and the missing values before them. -/
theorem not_missing_ignored :
    ¬ ∀ (strict : Bool) (vs : List TypedVector), (∀ v ∈ vs, v.WellFormed) →
      (vs.map TypedVector.type).any isTyped = true →
        Agree (standard.commonType strict (specifiers vs))
          (standard.commonType strict (specifiers (informative vs))) := by
  intro h
  -- the first two are taken for truth values, which have no common type with texts
  have hagree := h true [oneMissing, oneMissing, oneText] wellFormed_missingAndText rfl
  rw [commonType_specifiers, commonType_specifiers, types_informative,
    commonType_agree_iff true (isStandard_types wellFormed_missingAndText) rfl] at hagree
  rcases hagree with hlead | ⟨f, hf⟩
  · exact absurd hlead (by decide)
  · cases hf

end Engine

end Coercion
