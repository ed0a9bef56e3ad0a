import Coercion.Proofs.Cast.Layers

/-!
Values that cannot be stored together. Open values are read in two steps: a type is found for them, and they are stored
as it asks for. Where no type is found, or a value is not of the kind that storage expects, this is a failure of types,
and callers tell it apart from all others. The other failures are few: an integer that has not the room of eight bytes
or of a floating-point number, zones that cannot be placed, and instants out of range or from zones that are told apart
although they are the same. Lengths of time count as integers, but most of them are not of the kind that storage
expects.
-/

namespace Coercion

open VectorType Column Registry

variable {s t : VectorType} {xs : List Value} {x y : Value} {f : Failure}

/-! ### Single values -/

namespace Value

/-- Whether a value is a length of time in an array, in a unit that is not too fine for it. -/
def IsLength (x : Value) : Prop :=
  ∃ unit seconds, x.plain = .scalar (.span unit) (.span seconds)

/-- A length of time is not read as an integer, and not as a floating-point number. -/
lemma IsLength.unread (h : x.IsLength) :
    x.toInt = .error (.refused .typeError) ∧ x.toStoredDouble = .error (.refused .typeError) := by
  obtain ⟨unit, seconds, hx⟩ := h
  rw [toInt, toStoredDouble, hx]
  exact ⟨rfl, rfl⟩

/-- A number that is not read for storage is a length of time, or it is beyond the range of floating-point numbers. -/
lemma toStoredDouble_eq_error (h : x.family = .ok .double ∨ x.family = .ok .integer) (hm : x.isMissing = false)
    (hf : x.toStoredDouble = .error f) : x.IsLength ∨ f = .refused .overflow := by
  rcases toStoredDouble_of_number h hm with ⟨d, -, hread⟩ | ⟨q, -, -, hread⟩ | ⟨unit, seconds, hx, -⟩
  · cases hread.symm.trans hf
  · cases hq : nearest? q with
    | none =>
      rw [hq] at hread
      cases hread.symm.trans hf
      exact .inr rfl
    | some d =>
      rw [hq] at hread
      cases hread.symm.trans hf
  · exact .inl ⟨unit, seconds, hx⟩

/-- What is a date, but is not read as a day, carries the mark of an array that holds no dates. -/
lemma toDay_eq_error (h : x.family = .ok .date) (hf : x.toDay = .error f) : f = .refused .valueError := by
  have htext : x.text? = none := text?_of_family h (by decide)
  have hplain : ∀ n, x.plain ≠ .int n := by
    intro n hn
    rw [family, hn] at h
    cases h
  rw [toDay.eq_def] at hf
  split at hf
  any_goals cases hf
  rw [htext] at hf
  dsimp only at hf
  split at hf
  · rename_i n hn
    exact absurd hn (hplain n)
  · cases hf
    rfl

lemma plain_of_logical (h : x.family = .ok .logical) : ∃ b, x.plain = .bool b := by
  rw [family.eq_def] at h
  split at h
  · rename_i b heq
    exact ⟨b, heq⟩
  all_goals cases h

lemma isBool_of_family (h : x.family = .ok .logical) : x.isBool = true := by
  obtain ⟨b, hb⟩ := plain_of_logical h
  rw [isBool, hb]

/-- A failure to find the family of a value is one of types. -/
lemma isTypeFailure_of_family (h : x.family = .error f) : f.isTypeFailure = true := by
  rw [family.eq_def] at h
  split at h <;> cases h
  rfl

lemma zone_ne_tooDeep (x : Value) : x.zone ≠ .error .tooDeep := by
  rw [zone.eq_def]
  split
  · split <;> rintro ⟨⟩
  · rintro ⟨⟩
  · rintro ⟨⟩

/-- A value read as an integer of eight bytes. -/
def stored64 (x : Value) : Except Failure Value := do
  return .int (← checkedInt (← x.toInt))

/-- What counts as an integer is read as one, unless it is a length of time. -/
lemma toInt_of_integer (h : x.family = .ok .integer) (hm : x.isMissing = false) :
    (∃ n, x.toInt = .ok n ∧ x.meaning? = some (.number (.finite n))) ∨ x.IsLength := by
  have hnumber (n : Int) : ((n : ℚ).num.tdiv (n : ℚ).den) = n := by simp
  rw [← isMissing_plain] at hm
  rcases plain_of_integer h with ⟨n, hx⟩ | hx
  · exact .inl ⟨n, toInt_of_plain hx, by rw [← meaning?_plain, hx]; rfl⟩
  · rw [← meaning?_plain, toInt, IsLength]
    generalize x.plain = y at hx hm
    cases hx with
    | number unit n => exact .inl ⟨n, congrArg Except.ok (hnumber n), rfl⟩
    | length unit seconds => exact .inr ⟨unit, seconds, rfl⟩
    | missing unit => cases hm

/-- An integer is stored unless it has not the room of eight bytes. -/
lemma stored64_of_toInt {n : Int} (h : x.toInt = .ok n) :
    x.stored64 = if fitsSigned 64 n then .ok (.int n) else .error (.refused .overflow) := by
  rw [stored64, h]
  cases hfits : fitsSigned 64 n <;> simp [bind, Except.bind, checkedInt, hfits, refuse, pure, Except.pure]

/-- A value read as a floating-point number of eight bytes. -/
def storedDouble (x : Value) : Except Failure Value := do
  return .double ((← x.toStoredDouble).narrow (Element.float 64).format)

lemma storedDouble_eq_error_iff : x.storedDouble = .error f ↔ x.toStoredDouble = .error f := by
  rw [storedDouble, bind_eq_error_iff]
  refine or_iff_left ?_
  rintro ⟨d, -, h⟩
  cases h

/-- Unless it is a length of time, an integer is stored if it has room. -/
lemma stored64_cases (h : x.family = .ok .integer) (hm : x.isMissing = false) (hlength : ¬ x.IsLength) :
    (∃ y, x.stored64 = .ok y) ∨ x.stored64 = .error (.refused .overflow) := by
  rcases toInt_of_integer h hm with ⟨n, hn, -⟩ | hx
  · rw [stored64_of_toInt hn]
    split_ifs
    · exact .inl ⟨_, rfl⟩
    · exact .inr rfl
  · exact absurd hx hlength

/-- Unless it is a length of time, a number is stored among floating-point numbers if it is in their range. -/
lemma storedDouble_cases (h : x.family = .ok .double ∨ x.family = .ok .integer) (hm : x.isMissing = false)
    (hlength : ¬ x.IsLength) : (∃ y, x.storedDouble = .ok y) ∨ x.storedDouble = .error (.refused .overflow) := by
  cases hx : x.storedDouble with
  | ok y => exact .inl ⟨y, rfl⟩
  | error f =>
    rcases toStoredDouble_eq_error h hm (storedDouble_eq_error_iff.1 hx) with hx | rfl
    · exact absurd hx hlength
    · exact .inr rfl

end Value

/-! ### Whole columns -/

namespace Column

variable {d : Dtype} {g : Value → Except Failure Value}

/-- Missing values make no difference to whether the others are read. -/
lemma mapM_present_eq_error_iff (marker : Value) :
    (xs.mapM fun v => if v.isMissing then pure marker else g v) = .error f ↔
      (xs.filter fun v => !v.isMissing).mapM g = .error f := by
  induction xs with
  | nil => rfl
  | cons x xs ih =>
    rw [List.mapM_cons, bind_eq_error_iff]
    cases hm : x.isMissing with
    | true =>
      have hkept : (x :: xs).filter (fun v => !v.isMissing) = xs.filter fun v => !v.isMissing :=
        List.filter_cons_of_neg (by simp [hm])
      rw [hkept, ← ih, if_pos rfl]
      constructor
      · rintro (h | ⟨y, -, h⟩)
        · cases h
        · rcases bind_eq_error_iff.1 h with h | ⟨ys, -, h⟩
          · exact h
          · cases h
      · intro h
        exact .inr ⟨marker, rfl, bind_eq_error_iff.2 (.inl h)⟩
    | false =>
      have hkept : (x :: xs).filter (fun v => !v.isMissing) = x :: xs.filter fun v => !v.isMissing :=
        List.filter_cons_of_pos (by simp [hm])
      rw [hkept, List.mapM_cons, bind_eq_error_iff, if_neg Bool.false_ne_true]
      refine or_congr_right (exists_congr fun y => and_congr_right ?_)
      intro _
      rw [bind_eq_error_iff, bind_eq_error_iff, ih]
      refine or_congr_right (iff_of_false ?_ ?_) <;>
      · rintro ⟨ys, -, h⟩
        cases h

/-- Own values are read one after the other, but for missing ones. -/
lemma mapPresent_eq_error_iff : (own xs).mapPresent d g = .error f ↔ (own xs).present.mapM g = .error f := by
  rw [present, ← mapM_present_eq_error_iff d.missing, mapPresent, bind_eq_error_iff]
  refine or_iff_left ?_
  rintro ⟨ys, -, h⟩
  cases h

/-- Own values are not read if one of them is not. -/
lemma mapPresent_eq_error (h : (own xs).mapPresent d g = .error f) : ∃ x ∈ (own xs).present, g x = .error f :=
  exists_of_mapM_error (mapPresent_eq_error_iff.1 h)

/-- If a value is not read, the reading fails with this one or another. -/
lemma exists_mapPresent_eq_error (d : Dtype) (hx : x ∈ (own xs).present) (hg : g x = .error f) :
    ∃ f, (own xs).mapPresent d g = .error f := by
  cases h : (own xs).mapPresent d g with
  | error f => exact ⟨f, rfl⟩
  | ok c =>
    obtain ⟨ys, hys, -⟩ := bind_eq_ok_iff.1 h
    obtain ⟨hmem, hm⟩ := List.mem_filter.1 hx
    obtain ⟨y, hy⟩ := (exists_of_mapM_ok hys).1 x hmem
    rw [Bool.not_eq_true'] at hm
    rw [hm, if_neg Bool.false_ne_true, hg] at hy
    cases hy

lemma isTypeFailure_of_bits (h : (own xs).bits = .error f) : f.isTypeFailure = true := by
  obtain ⟨x, -, hx⟩ := mapPresent_eq_error h
  split at hx
  · cases hx
  · cases hx
    rfl

/-- Truth values are stored, or are no truth values. -/
lemma isTypeFailure_of_toBoolean (hfamily : ∀ x ∈ (own xs).present, x.family = .ok .logical)
    (h : (own xs).toBoolean = .error f) : f.isTypeFailure = true := by
  have hbools : (own xs).present.all Value.isBool = true :=
    List.all_eq_true.2 fun x hx => Value.isBool_of_family (hfamily x hx)
  rw [toBoolean_of_bools hbools] at h
  exact isTypeFailure_of_bits h

/-- What counts as an integer is refused for its kind if nothing beside it is one. -/
lemma openInts_of_integers (hfamily : ∀ x ∈ (own xs).present, x.family = .ok .integer)
    (hpresent : (own xs).present ≠ []) :
    (own xs).openInts = if (own xs).present.any Value.isInt then (own xs).wholes else refuse .typeError := by
  cases hints : (own xs).present.any Value.isInt with
  | true =>
    have hcontent : Content.of (own xs).present ≠ .mixed := by
      intro hmixed
      rw [Content.of] at hmixed
      split_ifs at hmixed
    rw [openInts, if_pos rfl]
    split
    · contradiction
    · rfl
  | false =>
    -- the first of them tells that they are neither truth values nor numbers nor texts
    have hcontent : Content.of (own xs).present = .mixed := by
      cases hlist : (own xs).present with
      | nil => exact absurd hlist hpresent
      | cons x rest =>
        have hx : x ∈ (own xs).present := by simp [hlist]
        have hnoInt : x.isInt = false := by simpa using List.any_eq_false.1 hints x hx
        rw [hlist] at hints
        have hkind : x.isBool = false ∧ x.isDouble = false ∧ x.isText = false := by
          rw [Value.isInt] at hnoInt
          rw [Value.isBool, Value.isDouble, Value.isText]
          rcases Value.plain_of_integer (hfamily x hx) with ⟨n, hplain⟩ | hplain
          · rw [hplain] at hnoInt
            cases hnoInt
          · generalize x.plain = y at hplain
            cases hplain <;> exact ⟨rfl, rfl, rfl⟩
        obtain ⟨hbool, hdouble, htext⟩ := hkind
        simp [Content.of, hbool, hnoInt, hdouble, htext, hints]
    rw [openInts, hcontent]
    rfl

/-- What counts as integers is stored, unless one has not the room of eight bytes, or there are lengths of time. -/
lemma toInt64_eq_error (hfamily : ∀ x ∈ (own xs).present, x.family = .ok .integer) (hpresent : (own xs).present ≠ [])
    (h : (own xs).toInt64 = .error f) (htype : f.isTypeFailure = false) :
    (own xs).present.any Value.isInt = true ∧ (own xs).mapPresent .int64 Value.stored64 = .error f := by
  have hopen : (own xs).openInts = .error f := h
  rw [openInts_of_integers hfamily hpresent] at hopen
  split_ifs at hopen with hints
  · rcases bind_eq_error_iff.1 hopen with hread | ⟨ints, -, hwholes⟩
    · exact ⟨hints, hread⟩
    · dsimp only at hwholes
      split_ifs at hwholes
      · cases hwholes
      · cases hwholes
        cases htype
  · cases hopen
    cases htype

/-- If a value among integers is not read, nothing is stored. -/
lemma toInt64_of_error (hints : (own xs).present.any Value.isInt = true)
    (hfamily : ∀ x ∈ (own xs).present, x.family = .ok .integer)
    (h : (own xs).mapPresent .int64 Value.stored64 = .error f) : (own xs).toInt64 = .error f := by
  have hpresent : (own xs).present ≠ [] := by
    intro hnone
    rw [hnone] at hints
    cases hints
  change (own xs).openInts = _
  rw [openInts_of_integers hfamily hpresent, if_pos hints]
  change (own xs).mapPresent .int64 Value.stored64 >>= _ = _
  rw [h]
  rfl

/-- Numbers are stored as floating-point numbers one after the other. -/
lemma toFloat_eq_error_iff : (own xs).toFloat 64 = .error f ↔ (own xs).present.mapM Value.storedDouble = .error f :=
  mapPresent_eq_error_iff

/-- Lists are stored, or are no lists. -/
lemma isTypeFailure_of_construct_list {c : Column} (h : construct .list c = .error f) : f.isTypeFailure = true := by
  rw [construct.eq_def] at h
  rcases bind_eq_error_iff.1 h with h | ⟨ys, -, h⟩
  · obtain ⟨x, -, hx⟩ := exists_of_mapM_error h
    rw [listElement] at hx
    split at hx
    · cases hx
    · split_ifs at hx
      cases hx
      rfl
  · cases h

/-- Values that are no texts are stored as instants if they can be read as such, one after the other. -/
lemma toInstants_eq_error_iff {zone : Option Zone} (htext : ∀ x ∈ xs, ∀ s, x ≠ .text s) :
    (own xs).toInstants zone = .error f ↔ readInstants none none xs = .error f := by
  have hread : (ofValues xs).readMoments = readInstants none none xs := by
    change readInstants (ofValues xs).leadingText none xs = _
    rw [leadingText_eq_none (c := ofValues xs) htext]
  rw [← toInstants_ofValues htext zone, toInstants_eq, hread, bind_eq_error_iff]
  constructor
  · rintro (h | ⟨read, -, h⟩)
    · exact h
    · cases h
  · exact .inl

end Column

lemma readInstant_ne_tooDeep (lead : Option String) (x : Value) : readInstant lead x ≠ .error .tooDeep := by
  intro h
  rw [readInstant.eq_def] at h
  split_ifs at h
  split at h
  · split_ifs at h
    split at h
    · cases h
    · split_ifs at h
      cases h
    all_goals cases h
  · split at h <;> cases h

lemma readInstants_ne_tooDeep (lead : Option String) (seen : Option (Option Provenance)) (xs : List Value) :
    readInstants lead seen xs ≠ .error .tooDeep := by
  induction xs generalizing seen with
  | nil => rintro ⟨⟩
  | cons x xs ih =>
    rw [readInstants]
    intro h
    rcases bind_eq_error_iff.1 h with h | ⟨read, -, h⟩
    · exact readInstant_ne_tooDeep lead x h
    cases read with
    | none =>
      rcases bind_eq_error_iff.1 h with h | ⟨rest, -, h⟩
      · exact ih seen h
      · cases h
    | some r =>
      dsimp only at h
      split_ifs at h
      · cases h
      · cases h
      · rcases bind_eq_error_iff.1 h with h | ⟨rest, -, h⟩
        · exact ih _ h
        · cases h

/-! ### Finding a type -/

/-- If no type is found for values, but not because of their types, then they are datetimes, and the zone of one of them
cannot be placed. -/
lemma Column.zone_of_detectElements {c : Column} (h : c.detectElements = .error f) (htype : f.isTypeFailure = false) :
    (∀ x ∈ c.present, x.family = .ok .datetime) ∧ c.present.mapM Value.zone = .error f := by
  rw [detectElements] at h
  split_ifs at h
  · cases h
  · cases h
  rcases bind_eq_error_iff.1 h with h | ⟨fs, hfs, h⟩
  · obtain ⟨x, -, hx⟩ := exists_of_mapM_error h
    rw [Value.isTypeFailure_of_family hx] at htype
    cases htype
  split at h
  · rename_i hone
    constructor
    · intro x hx
      obtain ⟨g, hg, hxg⟩ := exists_mem_of_forall₂ ((mapM_eq_ok_iff _ _).1 hfs).flip hx
      have hmem := List.mem_eraseDups.2 hg
      rw [hone, List.mem_singleton] at hmem
      exact hmem ▸ hxg
    · rcases bind_eq_error_iff.1 h with h | ⟨zones, -, h⟩
      · exact h
      · split at h
        · cases h
        · cases h
          cases htype
  all_goals cases h
  cases htype

/-! ### Storing what has a type -/

/-- Values for which there is a type, or for which there would be one if their zones could be placed, but which cannot
be stored. -/
inductive Unstorable (xs : List Value) : Prop where
  /-- An integer among integers has not the room of eight bytes, and no length of time is before it. -/
  | integer {before after : List Value} {x : Value} {n : Int} (found : (own xs).detect = .ok .integer)
    (whole : (own xs).present.any Value.isInt = true) (split : (own xs).present = before ++ x :: after)
    (numbers : ∀ y ∈ before, ¬ y.IsLength) (read : x.toInt = .ok n) (beyond : fitsSigned 64 n = false)
  /-- An integer or a fraction is beyond the range of floating-point numbers, and no length of time is before it. -/
  | number {before after : List Value} {x : Value} (found : (own xs).detect = .ok .double)
    (split : (own xs).present = before ++ x :: after) (numbers : ∀ y ∈ before, ¬ y.IsLength)
    (beyond : x.toStoredDouble = .error (.refused .overflow))
  /-- The zone of a datetime cannot be placed. -/
  | zone {f : Failure} (datetimes : ∀ x ∈ xs, x.isMissing = false → x.family = .ok .datetime)
    (unplaced : (own xs).present.mapM Value.zone = .error f) (untyped : f.isTypeFailure = false)
  /-- An instant is out of range, or its zone is told apart from the same zone beside it. -/
  | instant {zone : Option Zone} {f : Failure} (found : (own xs).detect = .ok (.datetime zone))
    (unread : readInstants none none xs = .error f) (untyped : f.isTypeFailure = false)
  /-- A date carries the mark of an array that holds no dates. -/
  | day {x : Value} (found : (own xs).detect = .ok .date) (mem : x ∈ xs) (present : x.isMissing = false)
    (unread : x.toDay = .error (.refused .valueError))

namespace Registry

/-- Missing values can always be stored. -/
lemma exists_readOpen_of_void (hvoid : (own xs).present = []) : ∃ w, readOpen (own xs) = .ok w := by
  have hmissing : (own xs).IsVoid := .of_present_eq_nil rfl hvoid
  have hdetect : (own xs).detect = .ok (if (own xs).values.isEmpty then .null else .unspecified) :=
    detectElements_of_void hvoid
  rw [readOpen, hdetect]
  change ∃ w, vectorOf _ _ = _
  rw [vectorOf]
  cases hempty : (own xs).values.isEmpty with
  | true =>
    rw [if_pos rfl, construct_eq_voided .null hmissing fun _ => List.isEmpty_iff.1 hempty]
    exact ⟨_, rfl⟩
  | false =>
    rw [if_neg Bool.false_ne_true, construct_eq_voided .unspecified hmissing (by rintro ⟨⟩)]
    exact ⟨_, rfl⟩

/-- It makes no difference to what own values are converted to that missing ones are marked. -/
lemma convert_marked (xs : List Value) (d : Dtype) : (own xs).marked.convert d = (own xs).convert d := by
  rw [marked_own]

/-- Values of one family that cannot be stored, but not because of their types. -/
lemma unstorable_of_construct {g : Family} (hg : s.OfFamily g) (hpresent : (own xs).present ≠ [])
    (hfamily : ∀ x ∈ (own xs).present, x.family = .ok g ∨ g = .double ∧ x.family = .ok .integer)
    (hs : (own xs).detect = .ok s) (h : s.construct (own xs) = .error f) (htype : f.isTypeFailure = false) :
    Unstorable xs := by
  cases hg with
  | logical =>
    have hfamily : ∀ x ∈ (own xs).present, x.family = .ok .logical := by
      intro x hx
      exact (hfamily x hx).resolve_right (by simp)
    rw [isTypeFailure_of_toBoolean hfamily ((convert_marked xs _).symm.trans h)] at htype
    cases htype
  | integer =>
    have hall : ∀ x ∈ (own xs).present, x.family = .ok .integer := by
      intro x hx
      exact (hfamily x hx).resolve_right (by simp)
    obtain ⟨hints, hread⟩ := toInt64_eq_error hall hpresent ((convert_marked xs _).symm.trans h) htype
    obtain ⟨before, x, after, hsplit, hbefore, hx⟩ := mapM_eq_error_iff.1 (mapPresent_eq_error_iff.1 hread)
    have hnumbers : ∀ y ∈ before, ¬ y.IsLength := by
      intro y hy hlength
      obtain ⟨z, hz⟩ := hbefore y hy
      rw [Value.stored64, hlength.unread.1] at hz
      cases hz
    have hmem : x ∈ (own xs).present := by simp [hsplit]
    rcases Value.toInt_of_integer (hall x hmem) (mem_present_own.1 hmem).2 with ⟨n, hn, -⟩ | hlength
    · rw [Value.stored64_of_toInt hn] at hx
      split_ifs at hx with hfits
      exact .integer hs hints hsplit hnumbers hn (Bool.not_eq_true _ ▸ hfits)
    · rw [Value.stored64, hlength.unread.1] at hx
      cases hx
      cases htype
  | double =>
    have hread := toFloat_eq_error_iff.1 ((convert_marked xs _).symm.trans h)
    obtain ⟨before, x, after, hsplit, hbefore, hx⟩ := mapM_eq_error_iff.1 hread
    rw [Value.storedDouble_eq_error_iff] at hx
    have hnumbers : ∀ y ∈ before, ¬ y.IsLength := by
      intro y hy hlength
      obtain ⟨z, hz⟩ := hbefore y hy
      rw [Value.storedDouble, hlength.unread.2] at hz
      cases hz
    have hmem : x ∈ (own xs).present := by simp [hsplit]
    have hnumber : x.family = .ok .double ∨ x.family = .ok .integer := (hfamily x hmem).imp_right And.right
    rcases Value.toStoredDouble_eq_error hnumber (mem_present_own.1 hmem).2 hx with hlength | rfl
    · cases hlength.unread.2.symm.trans hx
      cases htype
    · exact .number hs hsplit hnumbers hx
  | character => cases ((convert_marked xs _).symm.trans h : Except.ok (own xs).toText = .error f)
  | date =>
    obtain ⟨x, hx, hread⟩ := mapPresent_eq_error (d := .days) h
    obtain ⟨hmem, hm⟩ := mem_present_own.1 hx
    rw [Value.toDay_eq_error ((hfamily x hx).resolve_right (by simp)) hread] at hread
    exact .day hs hmem hm hread
  | datetime zone =>
    have htext : ∀ x ∈ xs, ∀ a, x ≠ .text a := by
      intro x hx
      exact ne_text_of_detect hs ⟨zone, rfl⟩ hx
    exact .instant hs ((toInstants_eq_error_iff htext).1 h) htype

lemma readOpen_eq_error (hs : (own xs).detect = .ok s) (h : s.construct (own xs) = .error f) :
    readOpen (own xs) = .error f := by
  rw [readOpen, hs]
  change vectorOf _ _ = _
  rw [vectorOf, h]
  rfl

/-- What is found for values of one family, one of them being present. -/
lemma family_of_detect {g : Family} (hg : s.OfFamily g) (hs : (own xs).detect = .ok s)
    (hpresent : (own xs).present ≠ []) :
    ∀ x ∈ (own xs).present, x.family = .ok g ∨ g = .double ∧ x.family = .ok .integer := by
  rcases families_of_detectElements hpresent hs with ⟨x, hx, hlist⟩ | ⟨k, hk, hfamily⟩
  · obtain rfl := eq_list_of_detect hs hx hlist
    cases hg
  · have hsame : k = g := by cases hk <;> cases hg <;> rfl
    exact hsame ▸ hfamily

/-- What cannot be stored is not read, for a reason of its own. -/
lemma exists_error_of_unstorable (h : Unstorable xs) :
    ∃ f, readOpen (own xs) = .error f ∧ f.isTypeFailure = false ∧ f ≠ .tooDeep := by
  cases h with
  | @integer before after x n found whole split numbers read beyond =>
    have hpresent : x ∈ (own xs).present := by simp [split]
    have hfamily : ∀ y ∈ (own xs).present, y.family = .ok .integer := by
      intro y hy
      have hcases := family_of_detect .integer found (List.ne_nil_of_mem hpresent) y hy
      exact hcases.resolve_right (by simp)
    have hx : x.stored64 = .error (.refused .overflow) := by
      rw [Value.stored64_of_toInt read, beyond]
      rfl
    have hread : (own xs).present.mapM Value.stored64 = .error (.refused .overflow) := by
      rw [split]
      refine mapM_append_eq_error ?_ hx
      intro y hy
      have hmem : y ∈ (own xs).present := by simp [split, hy]
      exact Value.stored64_cases (hfamily y hmem) (mem_present_own.1 hmem).2 (numbers y hy)
    have hmade := toInt64_of_error whole hfamily (mapPresent_eq_error_iff.2 hread)
    exact ⟨_, readOpen_eq_error found ((convert_marked xs _).trans hmade), rfl, by rintro ⟨⟩⟩
  | @number before after x found split numbers beyond =>
    have hpresent : x ∈ (own xs).present := by simp [split]
    have hfamily : ∀ y ∈ (own xs).present, y.family = .ok .double ∨ y.family = .ok .integer := by
      intro y hy
      exact (family_of_detect .double found (List.ne_nil_of_mem hpresent) y hy).imp_right And.right
    have hread : (own xs).present.mapM Value.storedDouble = .error (.refused .overflow) := by
      rw [split]
      refine mapM_append_eq_error ?_ (Value.storedDouble_eq_error_iff.2 beyond)
      intro y hy
      have hmem : y ∈ (own xs).present := by simp [split, hy]
      exact Value.storedDouble_cases (hfamily y hmem) (mem_present_own.1 hmem).2 (numbers y hy)
    have hmade := toFloat_eq_error_iff.2 hread
    exact ⟨_, readOpen_eq_error found ((convert_marked xs _).trans hmade), rfl, by rintro ⟨⟩⟩
  | @zone f datetimes unplaced untyped =>
    have hfamily : ∀ x ∈ (own xs).present, x.family = .ok .datetime := by
      intro x hx
      exact datetimes x (mem_present_own.1 hx).1 (mem_present_own.1 hx).2
    have hpresent : (own xs).present ≠ [] := by
      intro hnone
      rw [hnone] at unplaced
      cases unplaced
    have hdetect : (own xs).detectElements = .error f := by
      rw [detectElements_of_family hfamily hpresent, if_pos rfl, detectZone, unplaced]
      rfl
    refine ⟨f, ?_, untyped, ?_⟩
    · rw [readOpen, show (own xs).detect = .error f from hdetect]
      rfl
    · rintro rfl
      obtain ⟨x, -, hx⟩ := exists_of_mapM_error unplaced
      exact x.zone_ne_tooDeep hx
  | @instant zone f found unread untyped =>
    have htext : ∀ x ∈ xs, ∀ a, x ≠ .text a := by
      intro x hx
      exact ne_text_of_detect found ⟨zone, rfl⟩ hx
    refine ⟨f, readOpen_eq_error found ((toInstants_eq_error_iff htext).2 unread), untyped, ?_⟩
    rintro rfl
    exact readInstants_ne_tooDeep none none xs unread
  | @day x found mem present unread =>
    have hpresent : x ∈ (own xs).present := mem_present_own.2 ⟨mem, present⟩
    obtain ⟨f, hf⟩ := exists_mapPresent_eq_error .days hpresent unread
    obtain ⟨y, hy, hyf⟩ := mapPresent_eq_error hf
    have hdate := (family_of_detect .date found (List.ne_nil_of_mem hpresent) y hy).resolve_right (by simp)
    obtain rfl := Value.toDay_eq_error hdate hyf
    exact ⟨_, readOpen_eq_error found hf, rfl, by rintro ⟨⟩⟩

/-- **What cannot be stored.** Open values are not read, although not because of their types, if and only if they cannot
be stored together. -/
theorem readOpen_untyped_iff : (∃ f, readOpen (own xs) = .error f ∧ f.isTypeFailure = false) ↔ Unstorable xs := by
  constructor
  · rintro ⟨f, h, htype⟩
    by_cases hpresent : (own xs).present = []
    · obtain ⟨w, hw⟩ := exists_readOpen_of_void hpresent
      rw [hw] at h
      cases h
    rcases bind_eq_error_iff.1 h with hdetect | ⟨s, hs, h⟩
    · obtain ⟨hfamily, hzones⟩ := zone_of_detectElements hdetect htype
      have hfamily' : ∀ x ∈ xs, x.isMissing = false → x.family = .ok .datetime := by
        intro x hx hm
        exact hfamily x (mem_present_own.2 ⟨hx, hm⟩)
      exact .zone hfamily' hzones htype
    · have hmade : s.construct (own xs) = .error f := by
        rcases bind_eq_error_iff.1 h with h | ⟨c, -, h⟩
        · exact h
        · cases h
      rcases families_of_detectElements hpresent hs with ⟨x, hx, hlist⟩ | ⟨g, hg, hfamily⟩
      · obtain rfl := eq_list_of_detect hs hx hlist
        rw [isTypeFailure_of_construct_list hmade] at htype
        cases htype
      · exact unstorable_of_construct hg hpresent hfamily hs hmade htype
  · intro h
    obtain ⟨f, hf, htype, -⟩ := exists_error_of_unstorable h
    exact ⟨f, hf, htype⟩

/-- Reading does not depend on how deep casts may be inside each other. -/
lemma readOpen_ne_tooDeep : readOpen (own xs) ≠ .error .tooDeep := by
  intro h
  obtain ⟨f, hf, -, hne⟩ := exists_error_of_unstorable (readOpen_untyped_iff.1 ⟨_, h, rfl⟩)
  have hdeep := Except.error.inj (hf.symm.trans h)
  exact hne hdeep

end Registry

end Coercion
