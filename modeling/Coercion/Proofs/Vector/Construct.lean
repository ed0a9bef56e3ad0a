import Coercion.Proofs.Column.Clock
import Mathlib.Data.List.TakeWhile

/-!
Storage of standard types. Every type has a column of missing values, of any size; and columns that are in the storage
of a type, or for a categorical hold nothing but what can be a level, are joined without a failure.
-/

namespace Coercion

/-! ### Columns of missing values -/

namespace Column

variable {c : Column}

lemma mapPresent_eq_ok {d : Dtype} {f : Value → Except Failure Value} {g : Value → Value}
    (h : ∀ v ∈ c.values, v.isMissing = false → f v = .ok (g v)) :
    c.mapPresent d f = .ok ⟨d, c.values.map fun v => if v.isMissing then d.missing else g v⟩ := by
  have hstep : ∀ v ∈ c.values, (if v.isMissing = true then pure d.missing else f v) =
      Except.ok (if v.isMissing = true then d.missing else g v) := by
    intro v hv
    by_cases hm : v.isMissing = true
    · rw [if_pos hm, if_pos hm]
      rfl
    · rw [if_neg hm, if_neg hm]
      exact h v hv (Bool.not_eq_true _ ▸ hm)
  rw [mapPresent, mapM_eq_ok_map hstep]
  rfl

/-- The column of a format with a missing value for every value of another one. -/
def voided (d : Dtype) (c : Column) : Column :=
  ⟨d, c.values.map fun _ => d.missing⟩

lemma size_voided (d : Dtype) (c : Column) : (c.voided d).size = c.size := by simp [voided, size]

/-- An open column of missing values. -/
structure IsVoid (c : Column) : Prop where
  dtype : c.dtype = .object
  missing : ∀ v ∈ c.values, v.isMissing = true

namespace IsVoid

lemma map_eq_voided (h : c.IsVoid) (d : Dtype) (f : Value → Value) :
    (⟨d, c.values.map fun v => if v.isMissing then d.missing else f v⟩ : Column) = c.voided d := by
  rw [voided, List.map_congr_left]
  intro v hv
  rw [if_pos (h.missing v hv)]

lemma mapPresent (h : c.IsVoid) (d : Dtype) (f : Value → Except Failure Value) :
    c.mapPresent d f = .ok (c.voided d) := by
  rw [← h.map_eq_voided d id]
  refine mapPresent_eq_ok ?_
  intro v hv hm
  rw [h.missing v hv] at hm
  cases hm

lemma marked (h : c.IsVoid) : c.marked.IsVoid where
  dtype := h.dtype
  missing v hv := by
    obtain ⟨w, hw, rfl⟩ := List.mem_map.1 hv
    rw [if_pos (h.missing w hw), h.dtype]
    rfl

lemma voided_marked (c : Column) (d : Dtype) : c.marked.voided d = c.voided d := by
  rw [voided, Column.marked, List.map_map]
  rfl

lemma present_eq_nil (h : c.IsVoid) : c.present = [] := by
  rw [present, List.filter_eq_nil_iff]
  simpa using h.missing

lemma of_present_eq_nil (hdtype : c.dtype = .object) (h : c.present = []) : c.IsVoid where
  dtype := hdtype
  missing v hv := by
    rw [present, List.filter_eq_nil_iff] at h
    simpa using h v hv

lemma toBoolean (h : c.IsVoid) : c.toBoolean = .ok (c.voided .boolean) := by
  rw [Column.toBoolean, h.dtype, h.present_eq_nil]
  exact h.mapPresent .boolean _

lemma toInt64 (h : c.IsVoid) : c.toInt64 = .ok (c.voided .int64) := by
  have hplain : c.decategorized = c := by rw [decategorized, h.dtype]
  have hkept : ((c.values.zip (c.voided .int64).values).all fun x => x.1.isMissing || x.2.same x.1) = true := by
    rw [List.all_eq_true]
    intro x hx
    simp [h.missing x.1 (List.of_mem_zip hx).1]
  rw [Column.toInt64, hplain, h.dtype]
  simp only [openInts, h.present_eq_nil, wholes, h.mapPresent]
  simp [Content.of, bind, Except.bind, pure, Except.pure, hkept]

lemma toFloat (h : c.IsVoid) : c.toFloat 64 = .ok (c.voided .float64) := by
  rw [Column.toFloat, h.dtype]
  exact h.mapPresent .float64 _

lemma toText (h : c.IsVoid) : c.toText = c.voided .string := by
  have hplain : c.decategorized = c := by rw [decategorized, h.dtype]
  rw [Column.toText, hplain, h.dtype]
  exact h.map_eq_voided .string _

lemma toDays (h : c.IsVoid) : c.toDays = .ok (c.voided .days) := by
  rw [Column.toDays, h.dtype]
  exact h.mapPresent .days _

lemma toLevels (h : c.IsVoid) (levels : List Value) :
    c.toLevels levels = .ok (c.voided (.category (some levels))) := by
  rw [Column.toLevels, h.present_eq_nil]
  have hcomparable : comparable levels [] = true := by simp [comparable, areBools, areNumbers]
  simp only [Value.unhashableIn?, hcomparable, if_true]
  rw [h.map_eq_voided]

lemma leadingText (h : c.IsVoid) : c.leadingText = none := by
  rw [Column.leadingText, List.dropWhile_eq_nil_iff.2]
  intro v hv
  have hm := h.missing v hv
  cases v with
  | text s => cases hm
  | _ => exact hm

/-- Missing values are read as no instants, whatever is asked of the others. -/
lemma readInstants (lead : Option String) (seen : Option (Option Provenance)) {vs : List Value}
    (h : ∀ v ∈ vs, v.isMissing = true) : readInstants lead seen vs = .ok (vs.map fun _ => none) := by
  induction vs with
  | nil => rfl
  | cons v vs ih =>
    have hv : readInstant lead v = .ok none := by
      unfold readInstant
      exact if_pos (h v (by simp))
    rw [Column.readInstants, hv, List.map_cons]
    change (do return none :: (← Column.readInstants lead seen vs)) = _
    rw [ih fun w hw => h w (by simp [hw])]
    rfl

lemma toInstants (h : c.IsVoid) (zone : Option Zone) :
    c.toInstants zone = .ok (c.voided (.instants "ns" zone)) := by
  rw [toInstants_eq, readMoments, h.dtype, h.leadingText, readInstants none none h.missing, voided]
  change Except.ok (⟨_, List.map _ (List.map _ c.values)⟩ : Column) = _
  rw [List.map_map]
  rfl

end IsVoid

end Column

/-! ### Columns that can be joined -/

/-- Whether a column can be joined to others as one of a type: it is in the storage of the type, or for a categorical
holds only what can be a member of a set. -/
def Column.JoinsAs (t : VectorType) (c : Column) : Prop :=
  match t with
  | .categorical _ => ∀ v ∈ c.values, v.unhashable? = none
  | t => c.dtype.same t.storage = true

namespace Column

lemma unhashableIn?_present {c : Column} (h : ∀ v ∈ c.values, v.unhashable? = none) :
    Value.unhashableIn? c.present = none :=
  (Value.unhashableIn?_eq_none_iff _).2 fun v hv => h v (List.mem_filter.1 hv).1

/-- Values that can be members of a set are turned into levels, or into missing ones. -/
lemma toLevels_eq_ok (levels : List Value) {c : Column} (h : Value.unhashableIn? c.present = none) :
    ∃ vs, c.toLevels levels = .ok ⟨.category (some levels), vs⟩ ∧ vs.length = c.size ∧
      ∀ v ∈ vs, v = .double .nan ∨ v ∈ levels := by
  rw [toLevels, h]
  by_cases hcomparable : comparable levels c.present = true
  · simp only [hcomparable, if_true]
    refine ⟨_, rfl, by simp [size], ?_⟩
    intro v hv
    obtain ⟨w, -, rfl⟩ := List.mem_map.1 hv
    by_cases hw : w.isMissing = true
    · exact Or.inl (if_pos hw)
    · rw [if_neg hw]
      cases hl : levelOf? levels w with
      | none => exact Or.inl rfl
      | some l => exact Or.inr (List.mem_of_find?_eq_some hl)
  · simp only [hcomparable, Bool.false_eq_true, if_false]
    refine ⟨_, rfl, by simp [size], ?_⟩
    intro v hv
    obtain ⟨w, -, rfl⟩ := List.mem_map.1 hv
    exact Or.inl rfl

/-- A column that is in a format already is not converted. -/
lemma convert_of_same {c : Column} {d : Dtype} (h : c.dtype.same d = true) : c.convert d = .ok c := by
  unfold convert
  exact if_pos h

lemma size_decategorized (c : Column) : c.decategorized.size = c.size := by
  fun_cases decategorized c <;> simp [size, Column.opened]

lemma dtype_toText (c : Column) : c.toText.dtype = .string := by
  rw [toText]
  split <;> rfl

lemma size_toText (c : Column) : c.toText.size = c.size := by
  have hsize := size_decategorized c
  simp only [toText]
  split
  · simpa [size, readingTexts] using hsize
  · simpa [size] using hsize

end Column

namespace VectorType

open Column

variable {t : VectorType} {c : Column}

/-- What a type makes of a column: as many values, ready to be joined. -/
def Makes (t : VectorType) (c : Column) (r : Except Failure Column) : Prop :=
  ∃ d, r = .ok d ∧ d.size = c.size ∧ d.JoinsAs t

/-- Values that can be members of a set make a column of any categorical. -/
lemma construct_categorical {levels : List Value} (hlevels : LegalLevels levels)
    (h : Value.unhashableIn? c.present = none) :
    Makes (.categorical levels) c (construct (.categorical levels) c) := by
  obtain ⟨vs, hvs, hlen, hmem⟩ := toLevels_eq_ok (storedLevels levels) h
  refine ⟨_, hvs, hlen, ?_⟩
  intro v hv
  rcases hmem v hv with rfl | hv
  · rfl
  · exact unhashable?_storedLevels (fun w hw => (hlevels.level w hw).hashable) v hv

lemma size_marked (c : Column) : c.marked.size = c.size := by simp [Column.marked, size]

/-- Every open column can be turned into texts. -/
lemma construct_character (h : c.dtype = .object) : Makes .character c (construct .character c) := by
  have hm : c.marked.dtype = .object := h
  refine ⟨c.marked.toText, ?_, ?_, ?_⟩
  · simp [construct, h, convert, hm, Dtype.same, storage]
  · rw [size_toText, size_marked]
  · change c.marked.toText.dtype.same .string = true
    rw [dtype_toText]
    rfl

/-- **Missing values are stored as missing values**, in every standard type, except that a null column has no values. -/
theorem construct_eq_voided (ht : t.IsStandard) (h : c.IsVoid) (hnull : t = .null → c.values = []) :
    t.construct c = .ok (c.voided t.storage) := by
  have hm := h.marked
  have hmarked := IsVoid.voided_marked c
  cases ht with
  | logical =>
    rw [← hmarked, storage, ← hm.toBoolean]
    simp [construct, h.dtype, convert, hm.dtype, Dtype.same, storage, Dtype.boolean]
  | integer =>
    rw [← hmarked, storage, ← hm.toInt64]
    simp [construct, h.dtype, convert, hm.dtype, Dtype.same, storage, Dtype.int64]
  | double =>
    rw [← hmarked, storage, ← hm.toFloat]
    simp [construct, h.dtype, convert, hm.dtype, Dtype.same, storage, Dtype.float64]
  | binned =>
    rw [← hmarked, storage, ← hm.toFloat]
    simp [construct, h.dtype, convert, hm.dtype, Dtype.same, storage, Dtype.float64]
  | character =>
    rw [← hmarked, storage, ← hm.toText]
    simp [construct, h.dtype, convert, hm.dtype, Dtype.same, storage]
  | categorical => exact h.toLevels _
  | date => exact h.toDays
  | datetime zone => exact h.toInstants zone
  | list =>
    have helements : c.values.mapM listElement = .ok (c.values.map fun _ => .absent) := by
      refine mapM_eq_ok_map ?_
      intro v hv
      have hmissing := h.missing v hv
      have hmembers : v.members? = none := by cases v <;> first | rfl | cases hmissing
      rw [listElement, hmembers]
      exact if_pos hmissing
    rw [construct.eq_def]
    simp only [helements]
    rfl
  | null =>
    have hvalues : c.marked.values = [] := by simp [Column.marked, hnull rfl]
    have hcolumn : c.marked = c.voided .object := by
      rw [← hmarked, voided, hvalues, ← hm.dtype, List.map_nil, ← hvalues]
    rw [storage, ← hcolumn]
    simp [construct, h.dtype, convert, hm.dtype, Dtype.same, storage, hvalues, bind, Except.bind, pure, Except.pure]
  | unspecified =>
    have hconvert : c.marked.convert .object = .ok c.marked := convert_of_same (by rw [hm.dtype]; rfl)
    rw [← hmarked, construct.eq_def]
    simp only [h.dtype, storage, hconvert]
    exact if_pos (List.all_eq_true.2 hm.missing)

/-- A column of missing values can be joined to others of the type that it is stored for. -/
lemma joinsAs_voided (ht : t.IsStandard) (c : Column) : (c.voided t.storage).JoinsAs t := by
  cases ht with
  | categorical =>
    intro v hv
    obtain ⟨w, -, rfl⟩ := List.mem_map.1 hv
    rfl
  | datetime zone => simp [JoinsAs, voided, storage, Dtype.same]
  | _ => rfl

/-- Missing values make a column of any standard type, except that a null column has no values. -/
theorem construct_of_isVoid (ht : t.IsStandard) (h : c.IsVoid) (hnull : t = .null → c.values = []) :
    Makes t c (t.construct c) :=
  ⟨_, construct_eq_voided ht h hnull, size_voided _ c, joinsAs_voided ht c⟩

lemma isVoid_ofValues_nil : (Column.ofValues []).IsVoid := ⟨rfl, fun _ h => nomatch h⟩

lemma isVoid_absences (n : Nat) : (Column.ofValues (List.replicate n .absent)).IsVoid where
  dtype := rfl
  missing v hv := by
    rw [List.eq_of_mem_replicate hv]
    rfl

/-- **Columns are joined.** Columns that can be joined as one of a type are joined without a failure. -/
theorem concat_eq_ok (ht : t.IsStandard) {columns : List Column} (h : ∀ c ∈ columns, c.JoinsAs t) :
    ∃ d, t.concat columns = .ok d := by
  -- all types but the categorical ones convert the columns, which are in their storage already
  have hconverted : (∀ levels, t ≠ .categorical levels) → ∃ d,
      (if columns.isEmpty then t.construct (.ofValues [])
      else do return ⟨t.storage, (← columns.mapM (Column.convert t.storage)).flatMap Column.values⟩) =
        .ok d := by
    intro hnot
    cases columns with
    | nil =>
      obtain ⟨d, hd, -⟩ := construct_of_isVoid ht isVoid_ofValues_nil fun _ => rfl
      exact ⟨d, hd⟩
    | cons c cs =>
      have hsame : ∀ d ∈ c :: cs, Column.convert t.storage d = .ok (id d) := by
        intro d hd
        have hjoins := h d hd
        refine convert_of_same ?_
        cases ht with
        | categorical => exact absurd rfl (hnot _)
        | _ => exact hjoins
      rw [mapM_eq_ok_map hsame]
      exact ⟨_, rfl⟩
  cases ht with
  | categorical hlevels =>
    have hhash : ∀ v ∈ columns.flatMap Column.values, v.unhashable? = none := by
      intro v hv
      obtain ⟨c, hc, hv⟩ := List.mem_flatMap.1 hv
      exact h c hc v hv
    obtain ⟨d, hd, -⟩ := construct_categorical hlevels
      (unhashableIn?_present (c := .ofValues (columns.flatMap Column.values)) hhash)
    exact ⟨d, hd⟩
  | _ => exact hconverted fun _ => VectorType.noConfusion

end VectorType

end Coercion
