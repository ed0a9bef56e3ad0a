import Coercion.Proofs.Cast.Sound
import Coercion.Proofs.Combine.Kept

/-!
Vectors that the operations yield. A vector is obtained from raw data, from a vector that there is already, by a cast,
by combining data, or as one of missing values; and these operations may follow each other in any order. No operation
checks what a vector holds, but each of them leaves it as its type asks for.
-/

namespace Coercion

open VectorType Column TypedVector

/-- The vectors that chains of operations yield on the built-in kinds, if integers are never beside floating-point
numbers among the levels. -/
inductive Obtained : TypedVector → Prop where
  /-- Raw data, whose column may be in a format already if it holds what can stand there. -/
  | raw {d : Data} {type : Option Specifier} {v : TypedVector} (raw : ∀ w, d ≠ .vector w)
    (genuine : d.toColumn.IsGenuine)
    (made : Engine.standard.vector d type = .ok v) (kind : v.type.IsPure) : Obtained v
  | retyped {w v : TypedVector} {type : Option Specifier} (source : Obtained w)
    (made : Engine.standard.vector (.vector w) type = .ok v) (kind : v.type.IsPure) : Obtained v
  | cast {d : Data} {decompose : Bool} {w : TypedVector} {target : Specifier} {t : VectorType} {r : CastResult}
    (source : Obtained w) (read : Engine.standard.vector d none = .ok w) (found : Engine.standard.resolve target = .ok t)
    (kind : t.IsPure) (made : Engine.standard.castTo decompose d target = .ok r) : Obtained r.vector
  | combined {data : List Data} {strict : Bool} {rule : LossyRule} {target : Option Specifier} {r : Reported}
    (sources : ∀ d ∈ data, ∀ w, Engine.standard.vector d none = .ok w → Obtained w)
    (made : Engine.standard.combine strict rule target data = .ok r) (kind : r.vector.type.IsPure) : Obtained r.vector
  | empty {t : VectorType} {v : TypedVector} (kind : t.IsPure) (made : t.empty = .ok v) : Obtained v
  | missing {t : VectorType} {n : Nat} {v : TypedVector} (kind : t.IsPure) (made : t.missingVector n = .ok v) :
    Obtained v

variable {v : TypedVector} {t : VectorType} {results : List CastResult}

/-! ### Every operation -/

lemma eq_vector_of_vector? {d : Data} {type : Option VectorType} (h : d.vector? type = some v) : d = .vector v := by
  cases d with
  | vector w =>
    rw [Data.vector?] at h
    split_ifs at h
    cases h
    rfl
  | _ => cases h

/-- Data becomes a vector by being one already, or by being made into storage. -/
lemma vector_cases {d : Data} {type : Option Specifier} (h : Engine.standard.vector d type = .ok v) :
    d = .vector v ∨ v.type.vectorOf d.toColumn = .ok v := by
  have hmade {t : VectorType} (h : t.vectorOf d.toColumn = .ok v) : v.type.vectorOf d.toColumn = .ok v := by
    rwa [type_of_vectorOf h]
  cases type with
  | none =>
    change d.toVector none = _ at h
    rw [Data.toVector] at h
    split at h
    · cases h
      exact .inl (eq_vector_of_vector? ‹_›)
    · obtain ⟨t, -, h⟩ := bind_eq_ok_iff.1 h
      exact .inr (hmade h)
  | some s =>
    obtain ⟨t, -, h⟩ := bind_eq_ok_iff.1 h
    rw [Data.toVector] at h
    split at h
    · cases h
      exact .inl (eq_vector_of_vector? ‹_›)
    · exact .inr (hmade h)

/-- Sound vectors of one type are joined to a sound one. -/
lemma delivers_join (ht : t.IsPure) (h : ∀ r ∈ results, r.vector.type = t ∧ r.vector.Sound) :
    t.Delivers (Engine.join t results) := by
  intro w hw
  rw [Engine.join] at hw
  split_ifs at hw
  · exact delivers_empty ht w hw
  · obtain ⟨c, hc, hw⟩ := bind_eq_ok_iff.1 hw
    cases hw
    refine ⟨rfl, ?_⟩
    rw [concat.eq_def] at hc
    split at hc
    · exact sound_of_construct ht (isGenuine_of_open rfl) hc
    · rename_i hnot
      split_ifs at hc
      · exact sound_of_construct ht (isGenuine_of_open rfl) hc
      · obtain ⟨converted, hconverted, hc⟩ := bind_eq_ok_iff.1 hc
        cases hc
        -- the columns are in the storage of the type already, so none of them is converted
        have hsource : ∀ x ∈ converted.flatMap Column.values, ∃ r ∈ results, x ∈ r.vector.values := by
          intro x hx
          obtain ⟨c, hc, hx⟩ := List.mem_flatMap.1 hx
          obtain ⟨d, hd, hdc⟩ := (exists_of_mapM_ok hconverted).2 c hc
          obtain ⟨r, hr, rfl⟩ := List.mem_map.1 hd
          obtain ⟨hkind, hsound⟩ := h r hr
          rw [convert_of_same (hkind ▸ hsound.stored)] at hdc
          cases hdc
          exact ⟨r, hr, hx⟩
        refine .of_inFormat ht ⟨rfl, ?_⟩ ?_
        · intro x hx
          obtain ⟨r, hr, hmem⟩ := hsource x hx
          obtain ⟨rfl, hsound⟩ := h r hr
          exact (hsound.inFormat hnot).held x hmem
        · intro x hx
          obtain ⟨r, hr, hmem⟩ := hsource x hx
          obtain ⟨rfl, hsound⟩ := h r hr
          exact hsound.admitted x hmem

/-- Data that makes sound vectors is combined into a sound one. -/
lemma delivers_combine {data : List Data} {strict : Bool} {rule : LossyRule} {target : Option Specifier} {r : Reported}
    (hdata : ∀ d ∈ data, ∀ w, Engine.standard.vector d none = .ok w → w.Sound)
    (hr : Engine.standard.combine strict rule target data = .ok r) (ht : r.vector.type.IsPure) : r.vector.Sound := by
  obtain ⟨vectors, hvectors, hr⟩ := bind_eq_ok_iff.1 hr
  obtain ⟨t, -, hr⟩ := bind_eq_ok_iff.1 hr
  obtain ⟨results, hresults, hr⟩ := bind_eq_ok_iff.1 hr
  obtain ⟨joined, hjoined, hr⟩ := bind_eq_ok_iff.1 hr
  cases hr
  have hkind : joined.type = t := Engine.type_of_join hjoined
  rw [hkind] at ht
  refine (delivers_join ht ?_ joined hjoined).2
  intro result hresult
  obtain ⟨v, hv, hcast⟩ := (exists_of_mapM_ok hresults).2 result hresult
  obtain ⟨d, hd, hmade⟩ := (exists_of_mapM_ok hvectors).2 v hv
  exact Registry.receives_castTo (hdata d hd v hmade) ht result hcast

/-! ### Chains of operations -/

/-- **Every vector that is obtained is sound.** -/
theorem Obtained.sound (h : Obtained v) : v.Sound := by
  induction h with
  | raw raw genuine made kind =>
    obtain hvector | hmade := vector_cases made
    · exact absurd hvector (raw _)
    · exact (delivers_vectorOf kind genuine _ hmade).2
  | retyped _ made kind ih =>
    obtain hvector | hmade := vector_cases made
    · cases hvector
      exact ih
    · exact (delivers_vectorOf kind ih.genuine _ hmade).2
  | cast _ read found kind made ih =>
    obtain ⟨w, hw, made⟩ := bind_eq_ok_iff.1 made
    obtain ⟨t, ht, made⟩ := bind_eq_ok_iff.1 made
    rw [read] at hw
    rw [found] at ht
    cases hw
    cases ht
    exact (Registry.receives_castTo ih kind _ made).2
  | combined _ made kind ih => exact delivers_combine ih made kind
  | empty kind made => exact (delivers_empty kind _ made).2
  | missing kind made => exact (delivers_missingVector kind _ _ made).2

/-- **Storage agrees with types, whatever is done.** A vector that any chain of operations on the built-in kinds yields is
in the format of its type and holds only what the type asks for, in particular levels in the order of the type. -/
theorem coherent_of_obtained (h : Obtained v) : v.Coherent :=
  h.sound.coherent

/-- Two texts and a missing value between them, as levels that are listed in some order. -/
def twoTexts (levels : List Value) : TypedVector :=
  ⟨.categorical levels, ⟨.category (some levels), [.text "a", .double .nan, .text "b"]⟩⟩

/-- Texts that are read as levels, and cast to the same levels in another order. -/
theorem coherent_of_obtained_reordered :
    Obtained (twoTexts [.text "b", .text "a"]) ∧ (twoTexts [.text "b", .text "a"]).Coherent := by
  have hread : Engine.standard.vector (.value (.list [.text "a", .absent, .text "b"]))
      (some (.type (.categorical [.text "a", .text "b"]))) = .ok (twoTexts [.text "a", .text "b"]) := rfl
  have hsource : Obtained (twoTexts [.text "a", .text "b"]) :=
    .raw (fun _ => Data.noConfusion) (isGenuine_of_open rfl) hread
      ⟨.categorical (by decide), rfl, by rintro _ ⟨⟩; decide⟩
  have hcast : Engine.standard.castTo true (.vector (twoTexts [.text "a", .text "b"]))
      (.type (.categorical [.text "b", .text "a"])) = .ok ⟨twoTexts [.text "b", .text "a"], []⟩ := rfl
  have hobtained : Obtained (twoTexts [.text "b", .text "a"]) :=
    .cast hsource rfl rfl ⟨.categorical (by decide), rfl, by rintro _ ⟨⟩; decide⟩ hcast
  exact ⟨hobtained, coherent_of_obtained hobtained⟩

end Coercion
