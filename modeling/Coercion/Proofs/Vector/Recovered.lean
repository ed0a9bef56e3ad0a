import Coercion.Engine
import Coercion.Proofs.Cast.RoundTrip
import Coercion.Proofs.Vector.Sound
import Coercion.Proofs.Zone.Normal

/-!
Types read off storage. The format of a column names the type of the vector that the column comes from, and an open
column is told by its elements; made into a vector of that type, the column holds the values that it held. The
exception is an open column without elements, which is taken for that of a null vector.
-/

namespace Coercion

open VectorType Column

variable {v w : TypedVector} {t : VectorType} {c : Column} {levels stored : List Value}

/-- Whether no integer stands beside a floating-point number among some levels. -/
def UnmixedLevels (levels : List Value) : Prop :=
  ∀ l ∈ levels, ∀ m ∈ levels, isIntLevel (storedLevel l) = true → isDoubleLevel (storedLevel m) = false

instance (levels : List Value) : Decidable (UnmixedLevels levels) :=
  inferInstanceAs (Decidable (∀ l ∈ levels, ∀ m ∈ levels,
    isIntLevel (storedLevel l) = true → isDoubleLevel (storedLevel m) = false))

namespace TypedVector

/-- Whether the storage of a vector has what is needed to tell its type. Formats stand for built-in types, zones stand
in them in normal form, and levels are held apart by their kind; an open column needs an element, and one of lists
needs a list. -/
structure Discernible (v : TypedVector) : Prop where
  builtIn : v.type.isBuiltIn = true
  element : v.type = .unspecified → v.values ≠ []
  list : v.type = .list → ∃ x ∈ v.values, x.isMissing = false
  zone : ∀ z, v.type = .datetime (some z) → z.IsNormal
  levels : ∀ levels, v.type = .categorical levels → UnmixedLevels levels
  stored : ∀ levels, v.column.dtype = .category (some levels) → UnmixedLevels levels

/-- Whether two vectors are equal. The elements of a list need not be equal to themselves, and yet a list vector is. -/
def Equals (v w : TypedVector) : Prop :=
  v.same w = true ∨ v.type = .list ∧ v = w

end TypedVector

/-- A vector is recovered from its storage if the storage tells its type, and is made into an equal vector. -/
def Recovered (v : TypedVector) : Prop :=
  ∃ t w, (Data.column v.column).detect = .ok t ∧ t.same v.type = true ∧
    Engine.standard.vector (.column v.column) none = .ok w ∧ w.Equals v

/-- A column is a vector of the type that it tells. -/
lemma vector_column {d : Column} (ht : (Data.column c).detect = .ok t) (hd : t.construct c = .ok d) :
    Engine.standard.vector (.column c) none = .ok ⟨t, d⟩ := by
  change (do
    let t ← (Data.column c).detect
    t.vectorOf c) = _
  rw [ht]
  change t.vectorOf c = _
  rw [vectorOf, hd]
  rfl

/-- What tells its type and is left as it is by that type is recovered. -/
lemma recovered_of_kept (hv : v.WellFormed) (hdetect : v.column.detect = .ok v.type)
    (hkept : v.type.construct v.column = .ok v.column)
    (hself : v.type = .list ∨ ∀ x ∈ v.values, x.identical x = true) : Recovered v := by
  refine ⟨v.type, v, hdetect, same_refl hv.standard, vector_column hdetect hkept, ?_⟩
  rcases hself with hlist | hself
  · exact .inr ⟨hlist, rfl⟩
  · exact .inl (TypedVector.same_self hv hself)

/-! ### Formats of one kind -/

lemma ofZone_source {zone : Option Zone} (h : ∀ z, zone = some z → z.IsNormal) :
    ofZone (zone.map Zone.source) = .ok (.datetime zone) := by
  cases zone with
  | none => rfl
  | some z =>
    have hnormal : Zone.normalize z.source = .ok z := by
      cases h z rfl with
      | named known => rfl
      | fixed range nameless => exact Zone.ofMinutes_of_nameless range nameless
    rw [Option.map_some, ofZone, hnormal]

/-- The format of a type whose values are of one family stands for the type. -/
lemma ofStorage_storage {f : Family} (ht : t.OfFamily f) (hzone : ∀ z, t = .datetime (some z) → z.IsNormal) :
    ofStorage t.storage = .ok t := by
  cases ht with
  | datetime zone =>
    refine ofZone_source fun z hz => hzone z ?_
    rw [hz]
  | _ => rfl

lemma detect_of_family {f : Family} (ht : t.OfFamily f) (hd : c.dtype = t.storage) :
    c.detect = ofStorage t.storage := by
  rw [detect, hd]
  cases ht <;> rfl

/-- A missing value is read as no instant, whichever way it is marked. -/
lemma readInstant_own (lead : Option String) (x : Value) :
    readInstant lead (if x.isMissing then .absent else x) = readInstant lead x := by
  cases hx : x.isMissing with
  | true =>
    have hnone : ∀ y : Value, y.isMissing = true → readInstant lead y = .ok none := by
      intro y hy
      unfold readInstant
      exact if_pos hy
    rw [if_pos rfl, hnone x hx, hnone .absent rfl]
  | false => rw [if_neg (by decide)]

lemma readInstants_own_eq (lead : Option String) (xs : List Value) (seen : Option (Option Provenance)) :
    readInstants lead seen (own xs).values = readInstants lead seen xs := by
  induction xs generalizing seen with
  | nil => rfl
  | cons x xs ih =>
    change readInstants lead seen ((if x.isMissing then .absent else x) :: (own xs).values) = _
    rw [readInstants, readInstants, readInstant_own]
    simp only [ih]

/-- Instants that are stored already stay as they are. -/
lemma toInstants_stored {zone : Option Zone} (hd : c.dtype = .instants "ns" zone)
    (h : ∀ x ∈ c.values, (Dtype.instants "ns" zone).Holds x) : c.toInstants zone = .ok c := by
  have hlead : c.leadingText = none := by
    rw [leadingText]
    split
    · rename_i s rest heq
      have hmem : Value.text s ∈ c.values :=
        (List.dropWhile_sublist _).mem (heq ▸ List.mem_cons_self)
      exact absurd (h _ hmem) (by rintro ⟨⟩)
    · rfl
  have hown := toInstants_own h
  have hread : c.readMoments = (own c.values).readMoments := by
    change c.readMoments = readInstants (own c.values).leadingText none (own c.values).values
    rw [readMoments, hd, hlead, leadingText_own h, readInstants_own_eq]
  rw [toInstants_eq] at hown
  rw [toInstants_eq, hread, hown, ← hd]

/-- A column in the storage of a type of one family is one of that type as it stands. -/
lemma construct_stored {f : Family} (ht : t.OfFamily f) (hd : c.dtype = t.storage)
    (h : ∀ x ∈ c.values, t.storage.Holds x) : t.construct c = .ok c := by
  have hsame : c.dtype.same t.storage = true := by
    rw [hd]
    exact Dtype.same_refl (storage_ne_category ht.isStandard ht.ne_categorical)
  have hconvert : c.convert t.storage = .ok c := convert_of_same hsame
  cases ht with
  | date => exact if_pos hsame
  | datetime zone => exact toInstants_stored hd h
  | _ =>
    rw [construct.eq_def]
    simp only [hd]
    exact hconvert

lemma recovered_of_family {f : Family} (hv : v.WellFormed) (h : v.Discernible) (ht : v.type.OfFamily f) :
    Recovered v := by
  have hdtype : v.column.dtype = v.type.storage := hv.dtype_eq ht.ne_categorical
  have hheld : ∀ x ∈ v.values, v.type.storage.Holds x := hdtype ▸ hv.held
  have hdetect : v.column.detect = .ok v.type := by
    rw [detect_of_family ht hdtype, ofStorage_storage ht h.zone]
  have hidentical : ∀ x ∈ v.values, x.identical x = true := by
    intro x hx
    exact Registry.identical_self_of_holds ht (hheld x hx)
  exact recovered_of_kept hv hdetect (construct_stored ht hdtype hheld) (.inr hidentical)

/-! ### Open columns -/

lemma detect_of_open (hd : c.dtype = .object) : c.detect = c.detectElements := by
  rw [detect, hd]

/-- A column of absent values, which no type but the unspecified one has, or of none. -/
lemma voided_of_absent (hd : c.dtype = .object) (h : ∀ x ∈ c.values, x = .absent) : c.voided .object = c := by
  have hvalues : c.values.map (fun _ => Value.absent) = c.values :=
    (List.map_congr_left fun x hx => (h x hx).symm).trans (List.map_id _)
  change (⟨.object, c.values.map fun _ => Value.absent⟩ : Column) = c
  rw [hvalues, ← hd]

/-- Open columns of absent values are recovered, those without elements as null ones. -/
lemma recovered_of_absent (hv : v.WellFormed) (hdtype : v.column.dtype = .object)
    (habsent : ∀ x ∈ v.values, x = .absent)
    (ht : v.type = if v.values.isEmpty then .null else .unspecified) : Recovered v := by
  have hmissing : ∀ x ∈ v.values, x.isMissing = true := by
    intro x hx
    rw [habsent x hx]
    rfl
  have hvoid : v.column.IsVoid := ⟨hdtype, hmissing⟩
  have hdetect : v.column.detect = .ok v.type := by
    rw [detect_of_open hdtype, detectElements_of_void hvoid.present_eq_nil, ht]
    rfl
  have hstorage : v.type.storage = .object := by
    rw [ht]
    split_ifs <;> rfl
  have hempty : v.type = .null → v.column.values = [] := hv.values_of_null
  refine recovered_of_kept hv hdetect ?_ (.inr ?_)
  · rw [construct_eq_voided hv.standard hvoid hempty, hstorage, voided_of_absent hdtype habsent]
  · intro x hx
    rw [habsent x hx]
    rfl

lemma family_list (xs : List Value) : (Value.list xs).family = .ok .list := rfl

lemma recovered_of_list (hv : v.WellFormed) (ht : v.type = .list) (h : ∃ x ∈ v.values, x.isMissing = false) :
    Recovered v := by
  have hdtype : v.column.dtype = .object := by
    rw [hv.dtype_eq (by rw [ht]; exact fun _ => VectorType.noConfusion), ht]
    rfl
  have hadmits : ∀ x ∈ v.values, x = .absent ∨ ∃ xs, x = .list xs := by
    intro x hx
    have hadmits := hv.admitted x hx
    rwa [ht] at hadmits
  have hfamily : ∀ x ∈ v.column.present, x.family = .ok .list := by
    intro x hx
    obtain ⟨hx, hm⟩ := mem_present.1 hx
    rcases hadmits x hx with rfl | ⟨xs, rfl⟩
    · cases hm
    · exact family_list xs
  have hsome : v.column.present ≠ [] := by
    obtain ⟨x, hx, hm⟩ := h
    exact List.ne_nil_of_mem (mem_present.2 ⟨hx, hm⟩)
  refine recovered_of_kept hv ?_ ?_ (.inl ht)
  · rw [detect_of_open hdtype, detectElements_of_family hfamily hsome, ht]
    rfl
  · have helements : v.column.values.mapM listElement = .ok (v.column.values.map id) := by
      refine mapM_eq_ok_map ?_
      intro x hx
      rcases hadmits x hx with rfl | ⟨xs, rfl⟩ <;> rfl
    rw [ht, construct.eq_def]
    simp only [helements, List.map_id]
    change Except.ok (Column.ofValues v.column.values) = _
    rw [ofValues, ← hdtype]

/-! ### Levels -/

/-- Levels that are equal one by one to those of a categorical are levels of one. -/
lemma LegalLevels.of_sameAll (hlevels : LegalLevels levels) (h : Value.sameAll stored levels = true) :
    LegalLevels stored where
  level x hx := by
    obtain ⟨l, hl, hxl⟩ := Value.exists_same_of_mem h hx
    have hlevel := hlevels.level l hl
    exact {
      present := (Value.same_isMissing hxl).trans hlevel.present
      hashable := (Value.same_unhashable? hxl).trans hlevel.hashable
      self := Value.same_trans hxl (Value.same_symm hxl) }
  distinct := by
    have hdistinct := hlevels.distinct
    rw [Value.sameAll_iff] at h
    clear hlevels
    induction h with
    | nil => exact .nil
    | @cons x l xs ls hxl hrest ih =>
      rw [List.pairwise_cons] at hdistinct ⊢
      refine ⟨?_, ih hdistinct.2⟩
      intro y hy
      obtain ⟨m, hm, hym⟩ := Value.exists_same_of_mem ((Value.sameAll_iff _ _).2 hrest) hy
      -- otherwise the levels that the two are equal to would be equal
      rw [← Bool.not_eq_true]
      intro hxy
      have hlm := Value.same_trans (Value.same_symm hxl) (Value.same_trans hxy hym)
      rw [hdistinct.1 m hm] at hlm
      cases hlm

lemma plain_storedLevel {x : Value} (h : x.isBool = true ∨ x.isInt = true ∨ x.isDouble = true) :
    (storedLevel x).plain = x.plain := by
  rw [Value.isBool, Value.isInt, Value.isDouble] at h
  cases x with
  | scalar e y => cases e <;> cases y <;> simp_all [storedLevel, Value.plain]
  | moment r zone => cases zone <;> simp_all [Value.plain]
  | ticks r unit => cases r <;> simp_all [Value.plain]
  | _ => rfl

/-- A level is not opposed to the levels as they are stored. -/
lemma not_opposed_storedLevel {l : Value} (h : l ∈ levels) : ¬ Opposed (levels.map storedLevel) l := by
  intro hopposed
  have hplain : (storedLevel l).plain = l.plain := by
    refine plain_storedLevel ?_
    rcases hopposed with ⟨-, hbool⟩ | ⟨-, hnumber⟩
    · exact .inl hbool
    · exact .inr hnumber
  have hstored : Opposed (levels.map storedLevel) (storedLevel l) := by
    rwa [Opposed, Value.isBool, Value.isInt, Value.isDouble, hplain]
  exact not_opposed_of_mem (List.mem_map_of_mem h) hstored

/-- The values of a categorical are members of a set. -/
lemma unhashableIn?_present_of_levels (hv : v.WellFormed) (ht : v.type = .categorical levels) :
    Value.unhashableIn? v.column.present = none := by
  rw [Value.unhashableIn?_eq_none_iff]
  intro x hx
  obtain ⟨hx, hm⟩ := mem_present.1 hx
  rcases hv.level_cases ht hx with rfl | ⟨-, hsame⟩
  · cases hm
  · rcases levelIn_cases (storedLevels levels) x with hnone | ⟨hmem, -⟩
    · rw [hnone] at hsame
      rw [← Value.same_isMissing hsame] at hm
      cases hm
    · rw [← Value.same_unhashable? hsame]
      have hhashable : ∀ l ∈ levels, l.unhashable? = none := by
        intro l hl
        exact ((hv.legalLevels ht).level l hl).hashable
      exact unhashable?_storedLevels hhashable _ hmem

/-- A categorical that is stored under its own levels is one of them as it stands. -/
lemma construct_levels (hv : v.WellFormed) (ht : v.type = .categorical levels) (hunmixed : UnmixedLevels levels)
    (hd : v.column.dtype = .category (some levels)) :
    ∃ d, (VectorType.categorical levels).construct v.column = .ok d ∧ d.same v.column = true := by
  have hcomparable : comparable (storedLevels levels) v.column.present = true := by
    rw [← Bool.not_eq_false, comparable_eq_false_iff, storedLevels_eq_map hunmixed]
    rintro ⟨hsome, hopposed⟩
    obtain ⟨x, hx⟩ := List.exists_mem_of_ne_nil _ hsome
    refine not_opposed_storedLevel ?_ (hopposed x hx)
    obtain ⟨hx, hm⟩ := mem_present.1 hx
    have hheld := hv.held x hx
    rw [hd] at hheld
    cases hheld with
    | noLevel => cases hm
    | level hmem => exact hmem
  refine ⟨_, toLevels_of_comparable (unhashableIn?_present_of_levels hv ht) hcomparable, ?_⟩
  refine Value.identicalAll_map ?_
  intro x hx
  rcases hv.level_cases ht hx with rfl | ⟨-, hsame⟩
  · rfl
  · exact Value.identical_of_same hsame

lemma recovered_of_levels (hv : v.WellFormed) (h : v.Discernible) (ht : v.type = .categorical levels) :
    Recovered v := by
  have hpure : (VectorType.categorical levels).IsPure :=
    ⟨ht ▸ hv.standard, rfl, by rintro _ ⟨⟩; exact h.levels levels ht⟩
  have hstored := hv.stored
  rw [ht] at hstored
  obtain ⟨stored, hdtype, hsame⟩ := Dtype.eq_category_of_same hstored
  have hequal : Value.sameAll stored levels = true := by
    have hlevels := hpure.sameAll_storedLevels
    rw [← Value.same_tuple] at hsame hlevels ⊢
    exact Value.same_trans hsame hlevels
  -- under the levels of its format the column is that of a vector too, whose type the format stands for
  have hlegal : LegalLevels stored := (hv.legalLevels ht).of_sameAll hequal
  have hunmixed : UnmixedLevels stored := h.stored stored hdtype
  have hpure' : (VectorType.categorical stored).IsPure := ⟨.categorical hlegal, rfl, by rintro _ ⟨⟩; exact hunmixed⟩
  have hself : Value.sameAll stored (storedLevels stored) = true := by
    have hlevels := hpure'.sameAll_storedLevels
    rw [← Value.same_tuple] at hlevels ⊢
    exact Value.same_symm hlevels
  have hv' : (⟨.categorical stored, v.column⟩ : TypedVector).WellFormed :=
    { standard := .categorical hlegal
      stored := by rw [hdtype]; exact hself
      held := hv.held
      admitted := fun _ _ => trivial }
  obtain ⟨d, hd, hvalues⟩ := construct_levels hv' rfl hunmixed hdtype
  have hdetect : v.column.detect = .ok (.categorical stored) := by
    rw [detect, hdtype]
    exact ofLevels_eq hlegal
  have htype : (VectorType.categorical stored).same v.type = true := by
    rw [ht]
    exact same_of_sameAll hequal
  refine ⟨_, _, hdetect, htype, vector_column hdetect hd, .inl ?_⟩
  rw [TypedVector.same, Bool.and_eq_true]
  exact ⟨htype, hvalues⟩

/-! ### All kinds -/

/-- **The type is recovered from storage.** The storage of a vector tells its type, and the vector that is made of the
storage alone is equal to the one that it comes from. -/
theorem recovered_of_storage (hv : v.WellFormed) (h : v.Discernible) : Recovered v := by
  have hstandard := hv.standard
  have hbuiltIn := h.builtIn
  have hdtype := hv.dtype_eq
  generalize ht : v.type = t at hstandard hbuiltIn hdtype
  cases hstandard with
  | null =>
    have hvalues : v.values = [] := hv.values_of_null ht
    refine recovered_of_absent hv (hdtype fun _ => VectorType.noConfusion) ?_ ?_
    · intro x hx
      rw [hvalues] at hx
      cases hx
    · rw [hvalues, ht]
      rfl
  | unspecified =>
    refine recovered_of_absent hv (hdtype fun _ => VectorType.noConfusion) ?_ ?_
    · intro x hx
      exact hv.absent_of_unspecified ht hx
    · have hsome : v.values.isEmpty = false := List.isEmpty_eq_false_iff.2 (h.element ht)
      rw [hsome, ht]
      rfl
  | list => exact recovered_of_list hv ht (h.list ht)
  | categorical => exact recovered_of_levels hv h ht
  | binned => cases hbuiltIn
  | logical => exact recovered_of_family hv h (ht ▸ OfFamily.logical)
  | integer => exact recovered_of_family hv h (ht ▸ OfFamily.integer)
  | double => exact recovered_of_family hv h (ht ▸ OfFamily.double)
  | character => exact recovered_of_family hv h (ht ▸ OfFamily.character)
  | date => exact recovered_of_family hv h (ht ▸ OfFamily.date)
  | datetime zone => exact recovered_of_family hv h (ht ▸ OfFamily.datetime zone)

/-- A categorical of two integers, with a missing value beside one of them. -/
def integerAndMissing : TypedVector :=
  ⟨.categorical [.int 2, .int 1], ⟨.category (some [.int 2, .int 1]), [.int 1, .double .nan]⟩⟩

lemma wellFormed_integerAndMissing : integerAndMissing.WellFormed where
  standard := .categorical (by decide)
  stored := by decide
  held := by
    simp only [integerAndMissing, TypedVector.values, List.forall_mem_cons]
    exact ⟨.level (by simp), .noLevel _, by simp⟩
  admitted _ _ := trivial

lemma discernible_integerAndMissing : integerAndMissing.Discernible where
  builtIn := rfl
  element := by rintro ⟨⟩
  list := by rintro ⟨⟩
  zone := by rintro z ⟨⟩
  levels := by
    rintro levels ⟨⟩
    decide
  stored := by
    rintro levels ⟨⟩
    decide

theorem recovered_of_storage_levels :
    integerAndMissing.WellFormed ∧ integerAndMissing.Discernible ∧ Recovered integerAndMissing :=
  ⟨wellFormed_integerAndMissing, discernible_integerAndMissing,
    recovered_of_storage wellFormed_integerAndMissing discernible_integerAndMissing⟩

/-- An unspecified vector without elements. -/
def noElements : TypedVector :=
  ⟨.unspecified, .ofValues []⟩

lemma wellFormed_noElements : noElements.WellFormed where
  standard := .unspecified
  stored := rfl
  held := by rintro x ⟨⟩
  admitted := by rintro x ⟨⟩

/-- An open column without elements is taken for that of a null vector, whatever vector it comes from. -/
theorem not_recovered_noElements : noElements.WellFormed ∧ noElements.type = .unspecified ∧
    (Data.column noElements.column).detect = .ok .null ∧ ¬ Recovered noElements := by
  have hdetect : (Data.column noElements.column).detect = .ok .null := rfl
  refine ⟨wellFormed_noElements, rfl, hdetect, ?_⟩
  rintro ⟨t, w, ht, hsame, -⟩
  rw [hdetect] at ht
  cases ht
  revert hsame
  decide

end Coercion
