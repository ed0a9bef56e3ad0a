import Coercion.Proofs.Column.Made
import Coercion.Proofs.Vector.Detect

/-!
Vectors that are read off single values. Whatever values there are, as long as none of them holds others: if a type is
found for them, and they can be stored as it asks for, then the vector that they are read as is well-formed, and it is
missing exactly the values that were missing before.
-/

namespace Coercion

variable {t : VectorType} {f : Family} {xs : List Value} {x y : Value}

/-! ### Families of values -/

namespace Value

lemma isMissing_plain (x : Value) : x.plain.isMissing = x.isMissing := by
  fun_cases plain x <;> rfl

lemma held?_plain (x : Value) : x.plain.held? = x.held? := by
  fun_cases plain x <;> rfl

/-- Values that hold others are in the family of lists, and no single value is. -/
lemma held?_of_family (h : x.family = .ok .list) : x.held? ≠ none := by
  rw [family.eq_def] at h
  rw [← held?_plain]
  split at h <;> cases h
  all_goals
    rename_i heq
    rw [heq]
    rintro ⟨⟩

/-- Only what is in the family of texts is read as a text. -/
lemma text?_of_family (h : x.family = .ok f) (hf : f ≠ .character) : x.text? = none := by
  cases htext : x.text? with
  | none => rfl
  | some s =>
    exfalso
    rw [text?.eq_def] at htext
    split at htext
    · cases h
      exact hf rfl
    · rename_i e s
      cases e <;> cases h <;> exact hf rfl
    · cases htext

/-- A length of time as the element of a typed array, which counts as an integer. -/
inductive IsSpan : Value → Prop where
  | number (unit : String) (n : Int) : IsSpan (.scalar (.span unit) (.int n))
  | length (unit : String) (seconds : Int) : IsSpan (.scalar (.span unit) (.span seconds))
  | missing (unit : String) : IsSpan (.scalar (.span unit) .notATime)

/-- What is in the family of integers is an integer, or a length of time. -/
lemma plain_of_integer (h : x.family = .ok .integer) : (∃ n, x.plain = .int n) ∨ x.plain.IsSpan := by
  rw [family.eq_def] at h
  split at h
  any_goals cases h
  · rename_i n heq
    exact .inl ⟨n, heq⟩
  · rename_i unit n heq
    exact .inr (heq ▸ .number unit n)
  · rename_i unit seconds heq
    exact .inr (heq ▸ .length unit seconds)
  · rename_i unit heq
    exact .inr (heq ▸ .missing unit)

/-- What is in the family of floating-point numbers is one of them, or a fraction. -/
lemma plain_of_double (h : x.family = .ok .double) : (∃ d, x.plain = .double d) ∨ ∃ q, x.plain = .fraction q := by
  rw [family.eq_def] at h
  split at h
  any_goals cases h
  · rename_i d heq
    exact .inl ⟨d, heq⟩
  · rename_i q heq
    exact .inr ⟨q, heq⟩

/-- What is read as a number for storage: a floating-point number is read as it is, and other numbers are rounded, as far
as there is one near them. A length of time in a typed array is none unless its unit is too fine for one. -/
lemma toStoredDouble_of_number (h : x.family = .ok .double ∨ x.family = .ok .integer) (hm : x.isMissing = false) :
    (∃ d, x.plain = .double d ∧ x.toStoredDouble = .ok d) ∨
      (∃ q, x.plain.quantity? = some (.finite q) ∧ (∀ d, x.plain ≠ .double d) ∧
        x.toStoredDouble = match nearest? q with
          | some d => .ok d
          | none => .error (.refused .overflow)) ∨
      ∃ unit seconds, x.plain = .scalar (.span unit) (.span seconds) ∧ x.toStoredDouble = .error (.refused .typeError) := by
  rw [← isMissing_plain] at hm
  rw [toStoredDouble.eq_def]
  have hnumber : (∃ d, x.plain = .double d) ∨ (∃ q, x.plain = .fraction q) ∨ (∃ n, x.plain = .int n) ∨
      x.plain.IsSpan := by
    rcases h with h | h
    · exact (plain_of_double h).imp_right .inl
    · exact .inr (.inr (plain_of_integer h))
  rcases hnumber with ⟨d, hx⟩ | ⟨q, hx⟩ | ⟨n, hx⟩ | hx
  · rw [hx]
    exact .inl ⟨d, rfl, rfl⟩
  · rw [hx]
    refine .inr (.inl ⟨q, rfl, fun _ => Value.noConfusion, ?_⟩)
    simp only [toDouble, quantity?]
    cases nearest? q <;> rfl
  · rw [hx]
    refine .inr (.inl ⟨n, rfl, fun _ => Value.noConfusion, ?_⟩)
    simp only [toDouble, quantity?]
    cases nearest? n <;> rfl
  · generalize x.plain = y at hx hm
    cases hx with
    | number unit n =>
      refine .inr (.inl ⟨n, rfl, fun _ => Value.noConfusion, ?_⟩)
      simp only [toDouble, quantity?]
      cases nearest? n <;> rfl
    | length unit seconds => exact .inr (.inr ⟨unit, seconds, rfl, rfl⟩)
    | missing unit => cases hm

lemma isNan_nearest? {q : Rat} {d : Double} (h : nearest? q = some d) : d.isNan = false := by
  rw [nearest?] at h
  split at h
  · cases h
  · cases h
    exact BinaryFormat.isNan_round _ _ _ _

/-- A present number is read as a number that is defined. -/
lemma isNan_toStoredDouble (h : x.family = .ok .double ∨ x.family = .ok .integer) (hm : x.isMissing = false)
    {d : Double} (hd : x.toStoredDouble = .ok d) : d.isNan = false := by
  rcases toStoredDouble_of_number h hm with ⟨z, hx, hread⟩ | ⟨q, -, -, hread⟩ | ⟨unit, seconds, -, hread⟩
  · cases hread.symm.trans hd
    rw [← isMissing_plain, hx] at hm
    exact hm
  · cases hq : nearest? q with
    | none =>
      rw [hq] at hread
      cases hread.symm.trans hd
    | some z =>
      rw [hq] at hread
      cases hread.symm.trans hd
      exact isNan_nearest? hq
  · cases hread.symm.trans hd

/-- What is no text is read as a day, if it is read as one at all. -/
lemma toDay_of_text? (h : x.text? = none) (hy : x.toDay = .ok y) : ∃ day, y = .period day := by
  rw [toDay.eq_def] at hy
  split at hy
  any_goals exact ⟨_, (Except.ok.inj hy).symm⟩
  rw [h] at hy
  dsimp only at hy
  split at hy
  · split_ifs at hy
    exact ⟨_, (Except.ok.inj hy).symm⟩
  · cases hy

end Value

/-! ### Storage of single values -/

/-- What is made of an open column is made of its values, whatever the missing ones were. -/
lemma MadeEach.of_own {marker : Value} {made : Value → Value → Prop} {ys : List Value}
    (h : MadeEach marker made (Column.own xs).values ys) : MadeEach marker made xs ys := by
  refine (List.forall₂_map_left_iff.1 h).imp ?_
  intro x y hxy
  rw [Value.MadeAs] at hxy ⊢
  cases hm : x.isMissing with
  | true => simpa [hm, Value.isMissing] using hxy
  | false => simpa [hm] using hxy

namespace Column

/-- Whether a column in a storage format is what some values are read as: it has a place for each of them, and is
missing those that were missing. -/
structure Reads (d : Dtype) (xs : List Value) (c : Column) : Prop where
  dtype : c.dtype = d
  values : List.Forall₂ (fun x y => d.Holds y ∧ y.isMissing = x.isMissing) xs c.values

variable {c : Column} {d : Dtype}

/-- Values that are read one by one, the missing ones as the marker of the format. -/
lemma Reads.of_mapPresent {g : Value → Except Failure Value} (hmarker : d.Holds d.missing ∧ d.missing.isMissing = true)
    (hg : ∀ x ∈ xs, x.isMissing = false → ∀ y, g x = .ok y → d.Holds y ∧ y.isMissing = false)
    (h : (own xs).mapPresent d g = .ok c) : Reads d xs c := by
  refine ⟨dtype_mapPresent h, ?_⟩
  refine (forall₂_mem_left (madeEach_of_mapPresent h).of_own).imp ?_
  rintro x y ⟨hx, hxy⟩
  rw [Value.MadeAs] at hxy
  split_ifs at hxy with hm
  · rw [hm, hxy]
    exact hmarker
  · rw [Bool.not_eq_true] at hm
    rw [hm]
    exact hg x hx hm y hxy

lemma reads_bits (h : (own xs).bits = .ok c) : Reads .boolean xs c := by
  refine .of_mapPresent ⟨.noTruth, rfl⟩ ?_ h
  intro x _ _ y hy
  split at hy
  · cases hy
    exact ⟨.truth _, rfl⟩
  · cases hy

/-- If open values, or those of levels, are read as truth values, they are so one by one. -/
lemma bits_of_toBoolean {e : Column} (hdtype : e.dtype = .object ∨ ∃ levels, e.dtype = .category levels)
    (h : e.toBoolean = .ok c) : e.bits = .ok c := by
  rw [toBoolean] at h
  rcases hdtype with hdtype | ⟨levels, hdtype⟩
  all_goals
    rw [hdtype] at h
    dsimp only at h
    split_ifs at h
    · obtain ⟨_, -, h⟩ := bind_eq_ok_iff.1 h
      exact h
    · obtain ⟨_, -, h⟩ := bind_eq_ok_iff.1 h
      cases h
    · exact h
    · cases h

lemma reads_toBoolean (h : (own xs).toBoolean = .ok c) : Reads .boolean xs c :=
  reads_bits (bits_of_toBoolean (.inl rfl) h)

/-- If open values are read as integers, they are so one by one. -/
lemma ints_of_toInt64 (h : (own xs).toInt64 = .ok c) :
    (own xs).mapPresent .int64 (fun v => do return .int (← checkedInt (← v.toInt))) = .ok c := by
  have hopen : (own xs).openInts = .ok c := h
  rw [openInts] at hopen
  split at hopen
  · cases hopen
  obtain ⟨ints, hints, hwholes⟩ := bind_eq_ok_iff.1 hopen
  dsimp only at hwholes
  split at hwholes
  · cases hwholes
    exact hints
  · cases hwholes

lemma reads_toInt64 (h : (own xs).toInt64 = .ok c) : Reads .int64 xs c := by
  refine .of_mapPresent ⟨.noInt, rfl⟩ ?_ (ints_of_toInt64 h)
  intro x _ _ y hy
  obtain ⟨n, -, hy⟩ := bind_eq_ok_iff.1 hy
  obtain ⟨k, hk, hy⟩ := bind_eq_ok_iff.1 hy
  cases hy
  rw [checkedInt] at hk
  split at hk
  on_goal 2 => cases hk
  rename_i hfits
  cases hk
  exact ⟨.int hfits, rfl⟩

lemma reads_toFloat (hfamily : ∀ x ∈ (own xs).present, x.family = .ok .double ∨ x.family = .ok .integer)
    (h : (own xs).toFloat 64 = .ok c) : Reads .float64 xs c := by
  refine .of_mapPresent ⟨.double (by decide), rfl⟩ ?_ h
  intro x hx hm y hy
  obtain ⟨z, hz, hy⟩ := bind_eq_ok_iff.1 hy
  cases hy
  have hdefined := Value.isNan_toStoredDouble (hfamily x (mem_present_own.2 ⟨hx, hm⟩)) hm hz
  exact ⟨.double (Double.isBinary64_narrow _ z), (Double.isNan_narrow _ z).trans hdefined⟩

lemma reads_toText (xs : List Value) : Reads .string xs (own xs).toText := by
  refine ⟨dtype_toText _, ?_⟩
  change List.Forall₂ _ xs (List.map _ (List.map _ xs))
  rw [List.map_map, List.forall₂_map_right_iff, List.forall₂_same]
  intro x _
  rw [Function.comp_apply]
  cases hm : x.isMissing with
  | true => exact ⟨.noText, rfl⟩
  | false =>
    simp only [Bool.false_eq_true, if_false, hm]
    exact ⟨.text _, rfl⟩

lemma reads_toDays (htext : ∀ x ∈ (own xs).present, x.text? = none) (h : (own xs).toDays = .ok c) :
    Reads .days xs c := by
  refine .of_mapPresent ⟨.noDay _, rfl⟩ ?_ h
  intro x hx hm y hy
  obtain ⟨day, rfl⟩ := Value.toDay_of_text? (htext x (mem_present_own.2 ⟨hx, hm⟩)) hy
  exact ⟨.day _ day, rfl⟩

/-- What is no text is read as an instant, if it is read at all, unless it is missing. -/
lemma readInstant_of_text? {lead : Option String} (htext : x.isMissing = false → x.text? = none)
    {read : Option ReadInstant} (h : readInstant lead x = .ok read) : read.isNone = x.isMissing := by
  unfold readInstant at h
  cases hm : x.isMissing with
  | true =>
    simp only [hm, if_true] at h
    cases h
    rfl
  | false =>
    rw [if_neg (by simp [hm]), htext hm] at h
    dsimp only at h
    split at h <;> cases h <;> rfl

lemma reads_toInstants {zone : Option Zone} (htext : ∀ x ∈ (own xs).present, x.text? = none)
    (h : (own xs).toInstants zone = .ok c) : Reads (.instants "ns" zone) xs c := by
  rw [toInstants_eq] at h
  obtain ⟨read, hread, h⟩ := bind_eq_ok_iff.1 h
  cases h
  have hvalues : ∀ y ∈ (own xs).values, y.isMissing = false → y.text? = none := by
    intro y hy hm
    exact htext y (List.mem_filter.2 ⟨hy, by simp [hm]⟩)
  have hplaces := (List.forall₂_and_left _ _).2 ⟨hvalues, forall₂_readInstants hread⟩
  rw [own, ofValues, List.forall₂_map_left_iff] at hplaces
  refine ⟨rfl, ?_⟩
  rw [List.forall₂_map_right_iff]
  refine hplaces.imp ?_
  rintro x r ⟨htext, hread, hrange⟩
  have hmissing : r.isNone = x.isMissing := by
    rw [readInstant_of_text? htext hread]
    cases hm : x.isMissing <;> simp [hm, Value.isMissing]
  cases r with
  | none => exact ⟨.noInstant _ _, hmissing⟩
  | some i => exact ⟨.instant _ _ (hrange i rfl), hmissing⟩

/-! ### The type of single values -/

/-- The type that is found for values, one of which is present: lists are found to be lists only, and for all others
there is a type of one family to which all of them belong, integers among floating-point numbers excepted. -/
lemma families_of_detectElements {s : VectorType} (hpresent : c.present ≠ []) (h : c.detectElements = .ok s) :
    (∃ x ∈ c.present, x.family = .ok .list) ∨
      ∃ f, s.OfFamily f ∧ ∀ x ∈ c.present, x.family = .ok f ∨ f = .double ∧ x.family = .ok .integer := by
  have hsome : c.present.isEmpty = false := by simpa using hpresent
  rw [detectElements, hsome] at h
  simp only [Bool.false_eq_true, if_false] at h
  obtain ⟨fs, hfs, h⟩ := bind_eq_ok_iff.1 h
  -- whatever is found, it is found from the families of the values
  have hmem : ∀ x ∈ c.present, ∃ g ∈ fs.eraseDups, x.family = .ok g := by
    intro x hx
    obtain ⟨g, hg, hxg⟩ := exists_mem_of_forall₂ ((mapM_eq_ok_iff _ _).1 hfs).flip hx
    exact ⟨g, List.mem_eraseDups.2 hg, hxg⟩
  split at h
  · rename_i hone
    obtain ⟨zones, -, h⟩ := bind_eq_ok_iff.1 h
    split at h
    · cases h
      refine .inr ⟨.datetime, .datetime _, ?_⟩
      intro x hx
      obtain ⟨g, hg, hxg⟩ := hmem x hx
      rw [hone, List.mem_singleton] at hg
      exact .inl (hg ▸ hxg)
    · cases h
  · rename_i f hdate hone
    cases h
    have hall : ∀ x ∈ c.present, x.family = .ok f := by
      intro x hx
      obtain ⟨g, hg, hxg⟩ := hmem x hx
      rw [hone, List.mem_singleton] at hg
      exact hg ▸ hxg
    cases f with
    | list =>
      obtain ⟨x, hx⟩ := List.exists_mem_of_ne_nil _ hpresent
      exact .inl ⟨x, hx, hall x hx⟩
    | _ => exact .inr ⟨_, by constructor, fun x hx => .inl (hall x hx)⟩
  all_goals try cases h
  all_goals
    rename_i htwo
    refine .inr ⟨.double, .double, ?_⟩
    intro x hx
    obtain ⟨g, hg, hxg⟩ := hmem x hx
    rw [htwo] at hg
    rcases List.mem_cons.1 hg with rfl | hg
  · exact .inr ⟨rfl, hxg⟩
  · exact .inl (List.mem_singleton.1 hg ▸ hxg)
  · exact .inl hxg
  · exact .inr ⟨rfl, List.mem_singleton.1 hg ▸ hxg⟩

/-- Values of one family are stored as the type of that family asks for, each in its place. -/
lemma reads_construct (ht : t.OfFamily f)
    (hfamily : ∀ x ∈ (own xs).present, x.family = .ok f ∨ f = .double ∧ x.family = .ok .integer)
    (h : t.construct (own xs) = .ok c) : Reads t.storage xs c := by
  have hmarked : (own xs).marked.convert t.storage = (own xs).convert t.storage := by rw [marked_own]
  have htext : f ≠ .character → f ≠ .double → ∀ x ∈ (own xs).present, x.text? = none := by
    intro hcharacter hdouble x hx
    rcases hfamily x hx with hx | ⟨hx, -⟩
    · exact Value.text?_of_family hx hcharacter
    · exact absurd hx hdouble
  cases ht with
  | logical => exact reads_toBoolean (hmarked.symm.trans h)
  | integer => exact reads_toInt64 (hmarked.symm.trans h)
  | double =>
    refine reads_toFloat ?_ (hmarked.symm.trans h)
    intro x hx
    rcases hfamily x hx with hx | ⟨-, hx⟩
    · exact .inl hx
    · exact .inr hx
  | character =>
    have hmade : Except.ok (own xs).toText = Except.ok c := hmarked.symm.trans h
    cases hmade
    exact reads_toText xs
  | date => exact reads_toDays (htext (by decide) (by decide)) h
  | datetime zone => exact reads_toInstants (htext (by decide) (by decide)) h

end Column

/-! ### Reading -/

/-- What values are read as in the storage of a type of one family is a well-formed vector of this type. -/
lemma Column.Reads.wellFormed {c : Column} (hf : t.OfFamily f) (h : Column.Reads t.storage xs c) :
    TypedVector.WellFormed ⟨t, c⟩ where
  standard := hf.isStandard
  stored := by
    change c.dtype.same t.storage = true
    rw [h.dtype]
    exact Dtype.same_refl fun levels heq => by cases hf <;> cases heq
  held y hy := by
    obtain ⟨x, -, hxy, -⟩ := exists_mem_of_forall₂ h.values hy
    change c.dtype.Holds y
    rw [h.dtype]
    exact hxy
  admitted y _ := by
    change t.Admits y
    cases hf <;> trivial

/-- **Single values are read as a well-formed vector.** If a type is found for values of which none holds others and one
is present, and they can be stored as it asks for, then they make a well-formed vector of a type of one family, which is
missing the values that were missing before. -/
theorem wellFormed_of_read {c : Column} (hsingle : ∀ x ∈ xs, x.held? = none) (hpresent : (Column.own xs).present ≠ [])
    (hdetect : (Column.own xs).detect = .ok t) (hmade : t.construct (Column.own xs) = .ok c) :
    (∃ f, t.OfFamily f) ∧ TypedVector.WellFormed ⟨t, c⟩ ∧
      List.Forall₂ (fun x y => y.isMissing = x.isMissing) xs c.values := by
  rcases Column.families_of_detectElements hpresent hdetect with ⟨x, hx, hlist⟩ | ⟨f, hf, hfamily⟩
  · exact absurd (hsingle x (Column.mem_present_own.1 hx).1) (Value.held?_of_family hlist)
  · have hreads := Column.reads_construct hf hfamily hmade
    exact ⟨⟨f, hf⟩, hreads.wellFormed hf, hreads.values.imp fun _ _ h => h.2⟩

end Coercion
