import Coercion.Proofs.Cast.Fitting

/-!
Combined vectors. The type that vectors are combined into is found from one table, and the vectors are cast to it by
another one. The two tables agree: every type that has been found for the vectors, or that they all have been unified
with, is one that each of them fits. So the casts are not refused, and what is left to fail is the search for the type
and a date beyond the range of datetimes.
-/

namespace Coercion

namespace Engine

open VectorType Registry

variable {strict : Bool} {rule : LossyRule} {target : Option Specifier} {vs : List TypedVector}
  {ts : List VectorType} {t : VectorType}

/-! ### The search for the type -/

/-- Types stand for themselves. -/
lemma commonType_types (strict : Bool) (ts : List VectorType) :
    standard.commonType strict (ts.map .type) = Registry.standard.commonType strict ts := by
  have hresolved : resolvedTypes standard.types (ts.map .type) = (ts, none) := by
    induction ts with
    | nil => rfl
    | cons t ts ih =>
      rw [List.map_cons, resolvedTypes, ih]
      rfl
  rw [commonType, commonTypeOf, hresolved]
  change (Registry.standard.commonType strict ts >>= fun t => pure t) = _
  cases Registry.standard.commonType strict ts <;> rfl

/-- The types of some vectors, as they are asked for. -/
def specifiers (vs : List TypedVector) : List Specifier :=
  vs.map fun v => .type v.type

lemma commonType_specifiers (strict : Bool) (vs : List TypedVector) :
    standard.commonType strict (specifiers vs) = Registry.standard.commonType strict (vs.map TypedVector.type) := by
  rw [← commonType_types, List.map_map]
  rfl

/-- What comes of the search for a type that vectors of some types can be combined into: a standard type that all of
them fit, or a refusal. -/
def Finds (ts : List VectorType) (r : Except Failure VectorType) : Prop :=
  (∃ t, r = .ok t ∧ t.IsStandard ∧ ∀ s ∈ ts, s.Fits t) ∨ ∃ f, r = .error f ∧ f.category = .incompatibleType

theorem finds_commonType (strict : Bool) (hts : ∀ t ∈ ts, t.IsStandard) :
    Finds ts (Registry.standard.commonType strict ts) := by
  have hsettles := commonType_standard strict hts
  cases hc : commonFrom? strict .null ts with
  | none =>
    rw [hc] at hsettles
    exact Or.inr hsettles
  | some t =>
    rw [hc] at hsettles
    obtain ⟨-, hfits⟩ := fits_commonFrom? .null hts hc
    exact Or.inl ⟨t, hsettles, commonFrom?_isStandard .null hts hc, hfits⟩

/-- Without a target, the type is the common one; if nothing is known of it, it is that of truth values, which vectors
without information fit. -/
theorem finds_combinedType_none (strict : Bool) (hts : ∀ t ∈ ts, t.IsStandard) :
    Finds ts (standard.combinedType strict none ts) := by
  rcases finds_commonType strict hts with ⟨t, hfound, ht, hfits⟩ | ⟨f, hrefused, hf⟩
  · have hcombined : ∃ u, standard.combinedType strict none ts = .ok u ∧
        (t = .unspecified ∧ u = .logical ∨ u = t) := by
      change ∃ u, (Registry.standard.commonType strict ts >>= _) = _ ∧ _
      rw [hfound]
      cases t <;> first | exact ⟨_, rfl, Or.inr rfl⟩ | exact ⟨_, rfl, Or.inl ⟨rfl, rfl⟩⟩
    obtain ⟨u, hu, ⟨rfl, rfl⟩ | rfl⟩ := hcombined
    · -- what fits no information has no values, and fits truth values as well
      refine Or.inl ⟨.logical, hu, .logical, ?_⟩
      intro s hs
      have hs' : s.kindred.Fits .unspecified := hfits s hs
      change s.kindred.Fits .whole
      revert hs'
      cases s.kindred <;> decide
    · exact Or.inl ⟨u, hu, ht, hfits⟩
  · refine Or.inr ⟨f, ?_, hf⟩
    change (Registry.standard.commonType strict ts >>= _) = _
    rw [hrefused]
    rfl

/-- The check of a target passes only if every type has a common type with it. -/
lemma finds_checkTarget (strict : Bool) (index : Nat) (hts : ∀ s ∈ ts, s.IsStandard) (ht : t.IsStandard)
    (htyped : t.isTyped = true) :
    (checkTarget Registry.standard strict t index ts = .ok () ∧ ∀ s ∈ ts, s.Fits t) ∨
      ∃ f, checkTarget Registry.standard strict t index ts = .error f ∧ f.category = .incompatibleType := by
  induction ts generalizing index with
  | nil => exact Or.inl ⟨rfl, by simp⟩
  | cons s ts ih =>
    have hs : s.IsStandard := hts s (by simp)
    rw [checkTarget]
    rcases unify_cases strict hs ht with ⟨u, hc, hunify⟩ | ⟨-, detail, hunify⟩
    · rw [hunify]
      have hfits := fits_of_common? hs ht htyped hc
      rcases ih (index + 1) (fun r hr => hts r (by simp [hr])) with ⟨hok, hrest⟩ | hrefused
      · refine Or.inl ⟨hok, ?_⟩
        intro r hr
        rcases List.mem_cons.1 hr with rfl | hr
        · exact hfits
        · exact hrest r hr
      · exact Or.inr hrefused
    · rw [hunify]
      refine Or.inr ⟨_, rfl, ?_⟩
      rw [refusalAt, Failure.incompatible_standard hs ht]
      rfl

/-- With a target, the type is the target, provided that every type has a common type with it. -/
theorem finds_combinedType_some (strict : Bool) {s : Specifier} (hts : ∀ t ∈ ts, t.IsStandard)
    (hs : standard.resolve s = .ok t) (ht : t.IsStandard) (htyped : t.isTyped = true) :
    Finds ts (standard.combinedType strict (some s) ts) := by
  rw [combinedType, hs]
  change Finds ts (checkTarget Registry.standard strict t 0 ts >>= fun _ => pure t)
  rcases finds_checkTarget strict 0 hts ht htyped with ⟨hok, hfits⟩ | ⟨f, hrefused, hf⟩
  · rw [hok]
    exact Or.inl ⟨t, rfl, ht, hfits⟩
  · rw [hrefused]
    exact Or.inr ⟨f, rfl, hf⟩

/-! ### The casts -/

lemma isStandard_types (hvs : ∀ v ∈ vs, v.WellFormed) : ∀ t ∈ vs.map TypedVector.type, t.IsStandard := by
  intro t ht
  obtain ⟨v, hv, rfl⟩ := List.mem_map.1 ht
  exact (hvs v hv).standard

/-- Vectors that are there already are not made anew. -/
lemma combine_vectors (strict : Bool) (rule : LossyRule) (target : Option Specifier) (vs : List TypedVector) :
    standard.combine strict rule target (vs.map .vector) =
      standard.combinedType strict target (vs.map TypedVector.type) >>= fun t =>
        vs.mapM (fun v => Registry.standard.castTo true v t) >>= fun results =>
          join t results >>= fun joined =>
            pure ⟨joined, reports rule t (results.zipIdx.map fun p => (p.2, p.1.lossy))⟩ := by
  have hvectors : (vs.map Data.vector).mapM (fun d => standard.vector d none) = .ok vs := by
    rw [mapM_eq_ok_iff, List.forall₂_map_left_iff, List.forall₂_same]
    intro _ _
    rfl
  rw [combine, hvectors]
  rfl

lemma type_of_join {results : List CastResult} {v : TypedVector} (h : join t results = .ok v) : v.type = t := by
  rw [join] at h
  split_ifs at h
  · obtain ⟨c, -, hv⟩ := bind_eq_ok_iff.1 h
    cases hv
    rfl
  · obtain ⟨c, -, hv⟩ := bind_eq_ok_iff.1 h
    cases hv
    rfl

/-- Combined vectors have the type that was found for them. -/
theorem combinedType_of_combine {r : Reported} (h : standard.combine strict rule target (vs.map .vector) = .ok r) :
    standard.combinedType strict target (vs.map TypedVector.type) = .ok r.vector.type := by
  rw [combine_vectors] at h
  obtain ⟨t, hfound, h⟩ := bind_eq_ok_iff.1 h
  obtain ⟨results, -, h⟩ := bind_eq_ok_iff.1 h
  obtain ⟨joined, hjoined, h⟩ := bind_eq_ok_iff.1 h
  cases h
  rw [hfound, ← type_of_join hjoined]

/-- Results that can be joined are joined, and the vector that they are joined to has their type. -/
lemma join_eq_ok (ht : t.IsStandard) {results : List CastResult} (h : ∀ r ∈ results, r.vector.column.JoinsAs t) :
    ∃ c, join t results = .ok ⟨t, c⟩ := by
  rw [join]
  split_ifs
  · obtain ⟨c, hc, -⟩ := vectorOf_of_makes (construct_of_isVoid ht isVoid_ofValues_nil fun _ => rfl)
    exact ⟨c, hc⟩
  · have hcolumns : ∀ c ∈ results.map fun r => r.vector.column, c.JoinsAs t := by
      intro c hc
      obtain ⟨r, hr, rfl⟩ := List.mem_map.1 hc
      exact h r hr
    obtain ⟨d, hd⟩ := concat_eq_ok ht hcolumns
    rw [hd]
    exact ⟨d, rfl⟩

/-- **Vectors are combined into a type that they fit.** All of them arrive there and are joined, or one of them has a
date beyond the range of datetimes. -/
theorem combine_fitting (rule : LossyRule) (hvs : ∀ v ∈ vs, v.WellFormed) (ht : t.IsStandard)
    (hfits : ∀ v ∈ vs, v.type.Fits t)
    (hfound : standard.combinedType strict target (vs.map TypedVector.type) = .ok t) :
    ((∃ r, standard.combine strict rule target (vs.map .vector) = .ok r ∧ r.vector.type = t) ∧
        ∀ v ∈ vs, Arrives v t (Registry.standard.castTo true v t)) ∨
      ∃ f, standard.combine strict rule target (vs.map .vector) = .error f ∧ f.category = .outOfBounds ∧
        ∃ v ∈ vs, Registry.standard.castTo true v t = .error f := by
  rw [combine_vectors, hfound]
  change (∃ _, (vs.mapM (fun v => Registry.standard.castTo true v t) >>= _) = _ ∧ _) ∧ _ ∨
    ∃ _, (vs.mapM (fun v => Registry.standard.castTo true v t) >>= _) = _ ∧ _
  cases hcasts : vs.mapM (fun v => Registry.standard.castTo true v t) with
  | error f =>
    -- the vector at fault fits the type, so its cast is not refused but out of bounds
    obtain ⟨v, hv, hcast⟩ := exists_of_mapM_error hcasts
    rcases castTo_fits (hvs v hv) ht (hfits v hv) with harrives | ⟨g, hg, hbounds⟩
    · exact absurd hcast (harrives.ne_error f)
    · rw [hcast] at hg
      cases hg
      exact Or.inr ⟨f, rfl, hbounds, v, hv, hcast⟩
  | ok results =>
    obtain ⟨hsources, hresults⟩ := exists_of_mapM_ok hcasts
    have harrives : ∀ v ∈ vs, Arrives v t (Registry.standard.castTo true v t) := by
      intro v hv
      obtain ⟨r, hr⟩ := hsources v hv
      rcases castTo_fits (hvs v hv) ht (hfits v hv) with harrives | ⟨g, hg, -⟩
      · exact harrives
      · rw [hr] at hg
        cases hg
    have hjoins : ∀ r ∈ results, r.vector.column.JoinsAs t := by
      intro r hr
      obtain ⟨v, hv, hcast⟩ := hresults r hr
      obtain ⟨c, lossy, hok, -, hc⟩ := harrives v hv
      rw [hcast] at hok
      cases hok
      exact hc
    obtain ⟨c, hc⟩ := join_eq_ok ht hjoins
    let warnings := reports rule t (results.zipIdx.map fun p => (p.2, p.1.lossy))
    refine Or.inl ⟨⟨⟨⟨t, c⟩, warnings⟩, ?_, rfl⟩, harrives⟩
    change (join t results >>= fun joined => (pure ⟨joined, warnings⟩ : Except Failure Reported)) = _
    rw [hc]
    rfl

/-- What is left to fail when vectors are combined: the search for the type, and the casts of dates. -/
lemma category_of_finds (hvs : ∀ v ∈ vs, v.WellFormed)
    (hfinds : Finds (vs.map TypedVector.type) (standard.combinedType strict target (vs.map TypedVector.type)))
    {f : Failure} (hf : standard.combine strict rule target (vs.map .vector) = .error f) :
    f.category = .incompatibleType ∨ f.category = .outOfBounds := by
  rcases hfinds with ⟨t, hfound, ht, hfits⟩ | ⟨g, hrefused, hg⟩
  · have hfits' : ∀ v ∈ vs, v.type.Fits t := by
      intro v hv
      exact hfits v.type (List.mem_map_of_mem hv)
    rcases combine_fitting rule hvs ht hfits' hfound with ⟨⟨r, hok, -⟩, -⟩ | ⟨g, hg, hbounds, -⟩
    · rw [hf] at hok
      cases hok
    · rw [hf] at hg
      cases hg
      exact Or.inr hbounds
  · rw [combine_vectors, hrefused] at hf
    cases hf
    exact Or.inl hg

/-- Whether no cast is refused when vectors are combined, be it into their common type, which each of them arrives at,
or into a target with values. What may fail is the search for the type, before any cast is made, and a cast of a date
beyond the range of datetimes. -/
structure NeverRefused (strict : Bool) (rule : LossyRule) (vs : List TypedVector) : Prop where
  common : ∀ t, standard.commonType strict (specifiers vs) = .ok t → ∀ v ∈ vs,
    Arrives v t (Registry.standard.castTo true v t) ∨
      ∃ f, Registry.standard.castTo true v t = .error f ∧ f.category = .outOfBounds
  untargeted : ∀ f, standard.combine strict rule none (vs.map .vector) = .error f →
    f.category = .incompatibleType ∨ f.category = .outOfBounds
  targeted : ∀ s t, standard.resolve s = .ok t → t.IsStandard → t.isTyped = true →
    ∀ f, standard.combine strict rule (some s) (vs.map .vector) = .error f →
      f.category = .incompatibleType ∨ f.category = .outOfBounds

/-- **The tables agree.** No cast is refused when well-formed vectors are combined. -/
theorem combine_neverRefused (strict : Bool) (rule : LossyRule) {vs : List TypedVector}
    (hvs : ∀ v ∈ vs, v.WellFormed) : NeverRefused strict rule vs := by
  have hts := isStandard_types hvs
  constructor
  case common =>
    intro t hcommon v hv
    rw [commonType_specifiers] at hcommon
    rcases finds_commonType strict hts with ⟨u, hfound, hu, hfits⟩ | ⟨g, hrefused, -⟩
    · rw [hcommon] at hfound
      cases hfound
      exact castTo_fits (hvs v hv) hu (hfits v.type (List.mem_map_of_mem hv))
    · rw [hcommon] at hrefused
      cases hrefused
  case untargeted =>
    intro f hf
    exact category_of_finds hvs (finds_combinedType_none strict hts) hf
  case targeted =>
    intro s t hs ht htyped f hf
    exact category_of_finds hvs (finds_combinedType_some strict hts hs ht htyped) hf

/-- A day, a vector of missing values and an instant. -/
theorem combine_neverRefused_moments :
    NeverRefused true .warn
      [⟨.date, ⟨.days, [.period 0]⟩⟩, ⟨.unspecified, .ofValues [.absent]⟩,
        ⟨.datetime none, ⟨.instants "ns" none, [.instant 0 none]⟩⟩] := by
  refine combine_neverRefused true .warn ?_
  simp only [List.forall_mem_cons]
  refine ⟨⟨.date, rfl, ?_, ?_⟩, ⟨.unspecified, rfl, ?_, ?_⟩, ⟨.datetime none, ?_, ?_, ?_⟩, by simp⟩
  · exact List.forall_mem_singleton.2 (.day _ 0)
  · exact List.forall_mem_singleton.2 trivial
  · exact List.forall_mem_singleton.2 (.any _)
  · exact List.forall_mem_singleton.2 rfl
  · simp [VectorType.storage, Dtype.same]
  · exact List.forall_mem_singleton.2 (.instant "ns" none (by decide))
  · exact List.forall_mem_singleton.2 trivial

end Engine

end Coercion
