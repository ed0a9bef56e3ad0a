import Coercion.Proofs.Cast.Number

/-!
Exactness of casts between number types. The number that a type has for a value is equal to the value whenever any
number of the type is; so exactly those values are flagged that have no equal in the target. A flagged value turns
into truth, or loses its fraction, or is missing where an integer has no room for it.
-/

namespace Coercion

open Value

variable {s t : VectorType} {x z : Value}

/-! ### What number types hold -/

/-- A value in the storage of a number type is a number that says something, or is missing. -/
lemma number_cases (hs : s.IsNumber) (hx : s.storage.Holds x) :
    (x = s.storage.missing ∧ x.meaning? = none) ∨ (∃ b, x = .bool b) ∨
      (∃ n, x = .int n ∧ fitsSigned 64 n = true) ∨
      ∃ d : Double, x = .double d ∧ d.IsBinary64 ∧ x.meaning? = some (.number d.quantity) := by
  cases hs with
  | logical =>
    cases hx with
    | noTruth => exact Or.inl ⟨rfl, rfl⟩
    | truth b => exact Or.inr (Or.inl ⟨b, rfl⟩)
  | integer =>
    cases hx with
    | noInt => exact Or.inl ⟨rfl, rfl⟩
    | int fits => exact Or.inr (Or.inr (Or.inl ⟨_, rfl, fits⟩))
  | double =>
    cases hx with
    | @double d binary =>
      cases d with
      | nan => exact Or.inl ⟨rfl, rfl⟩
      | infinite negative => exact Or.inr (Or.inr (Or.inr ⟨_, rfl, binary, rfl⟩))
      | finite negative m e => exact Or.inr (Or.inr (Or.inr ⟨_, rfl, binary, rfl⟩))

lemma holds_missing (ht : t.IsNumber) : t.storage.Holds t.storage.missing := by
  cases ht with
  | logical => exact .noTruth
  | integer => exact .noInt
  | double => exact .double trivial

lemma isMissing_missing (ht : t.IsNumber) : t.storage.missing.isMissing = true := by
  cases ht <;> rfl

/-- The number that a type has for a value is in the storage of the type. -/
lemma holds_asNumber (hs : s.IsNumber) (ht : t.IsNumber) (hx : s.storage.Holds x) : t.storage.Holds (x.asNumber t) := by
  by_cases hm : x.isMissing = true
  · rw [asNumber_of_isMissing t hm]
    exact holds_missing ht
  rcases number_cases hs hx with ⟨rfl, -⟩ | ⟨b, rfl⟩ | ⟨n, rfl, fits⟩ | ⟨d, rfl, binary, -⟩
  · exact absurd (isMissing_missing hs) hm
  · cases ht with
    | logical => exact .truth _
    | integer => cases b <;> exact .int (by decide)
    | double => exact .double (Double.isBinary64_ofInt _)
  · cases ht with
    | logical => exact .truth _
    | integer => exact .int fits
    | double => exact .double (Double.isBinary64_ofInt _)
  · rw [Bool.not_eq_true] at hm
    cases ht with
    | logical =>
      simp only [asNumber, hm]
      exact .truth _
    | integer =>
      simp only [asNumber, hm, Caster.truncatedValue]
      cases hn : Caster.truncated? d with
      | some n => exact .int ((truncated?_eq_some_iff d n).1 hn).1
      | none => exact .noInt
    | double =>
      simp only [asNumber, hm]
      exact .double binary

/-! ### The best number of a type -/

lemma same_of_isLost_eq_false (hm : x.isMissing = false) (h : x.isLost t = false) : x.same (x.asNumber t) = true := by
  simpa [isLost, hm] using h

/-- A number that is equal to a truth value is not lost in one. -/
lemma isLost_logical_of_same {q : Quantity} (hq : x.quantity? = some q) (hm : x.meaning? = some (.number q)) {b : Bool}
    (h : x.same (.bool b) = true) : x.isLost .logical = false := by
  rw [same_iff_of_meaning? hm] at h
  have hb : q = .finite (if b then 1 else 0) := by simpa [meaning?, quantity?, eq_comm] using h
  rw [isLost_logical hq hm, bit?, hq, hb]
  cases b <;> simp

/-- Floating-point numbers that are equal to a finite number. -/
lemma quantity_of_same {q : ℚ} (hm : x.meaning? = some (.number (.finite q))) {d : Double}
    (h : x.same (.double d) = true) : d.quantity = .finite q := by
  rw [same_iff_of_meaning? hm] at h
  cases d with
  | nan => cases h
  | _ => exact Meaning.number.inj (Option.some.inj h)

lemma meaning?_double {d : Double} {q : ℚ} (h : d.quantity = .finite q) :
    (Value.double d).meaning? = some (.number (.finite q)) := by
  simp only [meaning?, quantity?, h]

/-- An integer that is a floating-point number is not lost among them. -/
lemma isLost_double_of_same {n : Int} {d : Double} (hd : d.IsBinary64) (h : (Value.int n).same (.double d) = true) :
    (Value.int n).isLost .double = false := by
  have hquantity : d.quantity = .finite n := quantity_of_same rfl h
  have hnearest : (Double.ofInt n).toRat? = some (n : ℚ) :=
    Double.toRat?_ofRatio hd ((d.quantity_eq_finite_iff n).1 hquantity)
  have hsame : (Value.int n).same (.double (Double.ofInt n)) = true := by
    have hint : (Value.int n).meaning? = some (.number (.finite n)) := rfl
    rw [same_iff_of_meaning? hint]
    exact meaning?_double (((Double.ofInt n).quantity_eq_finite_iff n).2 hnearest)
  change (!false && !(Value.int n).same (.double (Double.ofInt n))) = false
  rw [hsame]
  rfl

/-- A floating-point number that is an integer of eight bytes is not lost among them. -/
lemma isLost_integer_of_same {n : Int} {d : Double} (fits : fitsSigned 64 n = true)
    (h : (Value.double d).same (.int n) = true) : (Value.double d).isLost .integer = false := by
  have hquantity : d.quantity = .finite n := quantity_of_same rfl (same_symm h)
  have htruncated : Caster.truncated? d = some n := by
    refine (truncated?_eq_some_iff d n).2 ⟨fits, n, hquantity, ?_⟩
    simp [towardZero]
  have hm : (Value.double d).isMissing = false := same_isMissing h
  have hasNumber : (Value.double d).asNumber .integer = .int n := by
    simp only [asNumber, hm, Caster.truncatedValue, htruncated]
    rfl
  rw [isLost, hasNumber, h, hm]
  rfl

/-- **The best number of a type.** A value that has an equal number in the storage of a number type is equal to the
number that the type has for it. -/
theorem isLost_eq_false_of_same (hs : s.IsNumber) (ht : t.IsNumber) (hx : s.storage.Holds x) (hz : t.storage.Holds z)
    (h : x.same z = true) : x.isLost t = false := by
  cases hm : x.isMissing with
  | true => simp [isLost, hm]
  | false =>
    have hzm : z.isMissing = false := by rw [← same_isMissing h, hm]
    rcases number_cases hs hx with ⟨rfl, -⟩ | ⟨b, rfl⟩ | ⟨n, rfl, fits⟩ | ⟨d, rfl, binary, hmeaning⟩
    · rw [isMissing_missing hs] at hm
      cases hm
    · exact isLost_bool ht b
    · -- an integer: the delicate target is that of floating-point numbers, where it is rounded
      cases ht with
      | logical =>
        cases hz with
        | noTruth => cases hzm
        | truth b => exact isLost_logical_of_same rfl rfl h
      | integer => exact (asNumber_of_holds .integer (.int fits)).2
      | double =>
        cases hz with
        | double hbinary => exact isLost_double_of_same hbinary h
    · -- a floating-point number: among the integers it is cut off, and may not fit
      cases ht with
      | logical =>
        cases hz with
        | noTruth => cases hzm
        | truth b => exact isLost_logical_of_same rfl hmeaning h
      | integer =>
        cases hz with
        | noInt => cases hzm
        | int hfits => exact isLost_integer_of_same hfits h
      | double => exact (asNumber_of_holds .double (.double binary)).2

/-- The values that are lost in a number type are those without an equal in its storage. -/
theorem isLost_iff (hs : s.IsNumber) (ht : t.IsNumber) (hx : s.storage.Holds x) :
    x.isLost t = true ↔ x.isMissing = false ∧ ¬ ∃ z, t.storage.Holds z ∧ x.same z = true := by
  constructor
  · intro h
    have hm : x.isMissing = false := by
      rw [isLost, Bool.and_eq_true, Bool.not_eq_true'] at h
      exact h.1
    refine ⟨hm, ?_⟩
    rintro ⟨z, hz, hxz⟩
    rw [isLost_eq_false_of_same hs ht hx hz hxz] at h
    cases h
  · rintro ⟨hm, hnone⟩
    by_contra hlost
    rw [Bool.not_eq_true] at hlost
    exact hnone ⟨x.asNumber t, holds_asNumber hs ht hx, same_of_isLost_eq_false hm hlost⟩

/-! ### Lost values -/

lemma isNonzero_of_bit?_eq_none (h : x.bit? = none) : x.isNonzero = true := by
  rw [bit?.eq_def] at h
  rw [isNonzero.eq_def]
  cases hq : x.quantity? with
  | none => rfl
  | some q =>
    rw [hq] at h
    cases q with
    | finite q =>
      simp only at h ⊢
      split_ifs at h with h0 h1
      simpa using h0
    | _ => rfl

/-- A value that is lost in a truth value turns into truth. -/
lemma asNumber_logical_of_isLost (hs : s.IsNumber) (hx : s.storage.Holds x) (h : x.isLost .logical = true) :
    x.asNumber .logical = .bool true := by
  have hm : x.isMissing = false := ((isLost_iff hs .logical hx).1 h).1
  have hasNumber : x.asNumber .logical = .bool x.isNonzero := by
    unfold asNumber
    rw [hm]
    rfl
  have hbit : ∀ {q}, x.quantity? = some q → x.meaning? = some (.number q) → x.bit? = none := fun hq hmeaning => by
    rw [isLost_logical hq hmeaning, hm] at h
    simpa using h
  rw [hasNumber]
  rcases number_cases hs hx with ⟨rfl, -⟩ | ⟨b, rfl⟩ | ⟨n, rfl, -⟩ | ⟨d, rfl, -, hmeaning⟩
  · rw [isMissing_missing hs] at hm
    cases hm
  · rw [isLost_bool .logical b] at h
    cases h
  · rw [isNonzero_of_bit?_eq_none (hbit rfl rfl)]
  · rw [isNonzero_of_bit?_eq_none (hbit rfl hmeaning)]

/-- A value that is lost among the integers is a floating-point number, and is cut off. -/
lemma asNumber_integer_of_isLost (hs : s.IsNumber) (hx : s.storage.Holds x) (h : x.isLost .integer = true) :
    ∃ d : Double, x = .double d ∧ x.asNumber .integer = Caster.truncatedValue x := by
  have hm : x.isMissing = false := ((isLost_iff hs .integer hx).1 h).1
  rcases number_cases hs hx with ⟨rfl, -⟩ | ⟨b, rfl⟩ | ⟨n, rfl, fits⟩ | ⟨d, rfl, -, -⟩
  · rw [isMissing_missing hs] at hm
    cases hm
  · rw [isLost_bool .integer b] at h
    cases h
  · rw [(asNumber_of_holds .integer (.int fits)).2] at h
    cases h
  · refine ⟨d, rfl, ?_⟩
    unfold asNumber
    rw [hm]
    rfl

/-- What a cast to a number type makes of a value, given whether the value is flagged. -/
structure ExactAt (t : VectorType) (x y : Value) (flagged : Prop) : Prop where
  /-- Exactly the values that are there and have no equal in the target are flagged. -/
  flagged_iff : flagged ↔ x.isMissing = false ∧ ¬ ∃ z, t.storage.Holds z ∧ x.same z = true
  missing : x.isMissing = true → y = t.storage.missing
  equal : x.isMissing = false → ¬ flagged → x.same y = true
  truth : flagged → t = .logical → y = .bool true
  truncated : flagged → t = .integer → ∀ q, x.quantity? = some (.finite q) → fitsSigned 64 (towardZero q) = true →
    y = .int (towardZero q)
  /-- What no integer of eight bytes is left of, an infinite number among it, is missing. -/
  unfit : flagged → t = .integer → (∀ q, x.quantity? = some (.finite q) → fitsSigned 64 (towardZero q) = false) →
    y = .notAvailable

lemma exactAt_asNumber (hs : s.IsNumber) (ht : t.IsNumber) (hx : s.storage.Holds x) :
    ExactAt t x (x.asNumber t) (x.isLost t = true) where
  flagged_iff := isLost_iff hs ht hx
  missing := asNumber_of_isMissing t
  equal hm h := same_of_isLost_eq_false hm (Bool.not_eq_true _ ▸ h)
  truth h hlogical := by
    subst hlogical
    exact asNumber_logical_of_isLost hs hx h
  truncated h hinteger q hq fits := by
    subst hinteger
    obtain ⟨d, rfl, hcut⟩ := asNumber_integer_of_isLost hs hx h
    have hn := (truncated?_eq_some_iff d _).2 ⟨fits, q, Option.some.inj hq, rfl⟩
    rw [hcut, Caster.truncatedValue, hn]
  unfit h hinteger hunfit := by
    subst hinteger
    obtain ⟨d, rfl, hcut⟩ := asNumber_integer_of_isLost hs hx h
    rw [hcut, Caster.truncatedValue]
    cases hn : Caster.truncated? d with
    | none => rfl
    | some n =>
      obtain ⟨fits, q, hq, rfl⟩ := (truncated?_eq_some_iff d n).1 hn
      rw [hunfit q (congrArg some hq)] at fits
      cases fits

namespace Registry

variable {v : TypedVector}

/-- **Casts between number types are exact.** Exactly the values without an equal in the target are flagged; every other
value that is there becomes an equal one; and a flagged one becomes truth, loses its fraction, or becomes missing. -/
theorem castTo_exact (decompose : Bool) (hv : v.WellFormed) (hs : v.type.IsNumber) (ht : t.IsNumber) :
    ∃ r, standard.castTo decompose v t = .ok r ∧ r.vector.type = t ∧ r.vector.size = v.size ∧
      (∀ i ∈ r.lossy, i < v.size) ∧
      ∀ i x y, v.values[i]? = some x → r.vector.values[i]? = some y → ExactAt t x y (i ∈ r.lossy) := by
  have hstored := (hv.number_stored hs).2
  have hflagged : ∀ i, i ∈ sortedPositions (lostPositions t v) ↔ ∃ x, v.values[i]? = some x ∧ x.isLost t = true := by
    intro i
    rw [mem_sortedPositions, lostPositions, mem_positionsOf]
  refine ⟨_, castTo_number decompose hv hs ht, rfl, ?_, ?_, ?_⟩
  · simp [numbersAs, TypedVector.size, Column.size, TypedVector.values]
  · intro i hi
    obtain ⟨x, hx, -⟩ := (hflagged i).1 hi
    exact (List.getElem?_eq_some_iff.1 hx).1
  · intro i x y hx hy
    have hheld : v.type.storage.Holds x := hstored x (List.mem_of_getElem? hx)
    have hyx : y = x.asNumber t := by
      change (v.values.map (asNumber t))[i]? = some y at hy
      rw [List.getElem?_map, hx] at hy
      exact (Option.some.inj hy).symm
    have hlost : i ∈ sortedPositions (lostPositions t v) ↔ x.isLost t = true := by
      rw [hflagged, hx]
      simp
    rw [hyx, hlost]
    exact exactAt_asNumber hs ht hheld

/-- A missing number, two and a half, and an infinite number as integers. -/
theorem castTo_exact_doubles :
    ∃ r, standard.castTo true
        ⟨.double, ⟨.float64, [.double .nan, .double (.finite false 5629499534213120 (-51)),
          .double (.infinite true)]⟩⟩ .integer = .ok r ∧ r.vector.type = .integer ∧ r.vector.size = 3 := by
  have hv : TypedVector.WellFormed ⟨.double, ⟨.float64, [.double .nan,
      .double (.finite false 5629499534213120 (-51)), .double (.infinite true)]⟩⟩ := by
    refine ⟨.double, rfl, ?_, fun _ _ => trivial⟩
    intro x hx
    simp only [TypedVector.values, List.mem_cons, List.not_mem_nil, or_false] at hx
    rcases hx with rfl | rfl | rfl <;> exact .double (by decide)
  obtain ⟨r, hr, htype, hsize, -⟩ := castTo_exact true hv .double .integer
  exact ⟨r, hr, htype, hsize⟩

end Registry

end Coercion
