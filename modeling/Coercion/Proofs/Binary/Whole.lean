import Coercion.Proofs.Binary.Rounding
import Mathlib.Data.Rat.Floor

/-!
Whole numbers among the floating-point numbers. Every integer of at most 53 bits is a floating-point number, and a
floating-point number that takes more bits is an integer; between them nothing is lost by cutting off a fraction and
going back. So a number is rounded, or cut off, only on the side of the bound where it may be.
-/

namespace Coercion

/-- A fraction without the part behind the point. -/
def towardZero (q : ℚ) : Int := if 0 ≤ q then ⌊q⌋ else ⌈q⌉

lemma tdiv_eq_towardZero (q : ℚ) : q.num.tdiv q.den = towardZero q := by
  rw [towardZero]
  split_ifs with h
  · rw [Rat.floor_def', Int.tdiv_eq_ediv_of_nonneg (Rat.num_nonneg.2 h)]
  · have hnum : 0 ≤ -q.num := by
      have := Rat.num_neg.2 (not_le.1 h)
      omega
    rw [Rat.ceil_def', ← Int.tdiv_eq_ediv_of_nonneg hnum, Int.neg_tdiv, neg_neg]

lemma towardZero_intCast (n : Int) : towardZero n = n := by
  rw [towardZero]
  split_ifs
  · exact Int.floor_intCast n
  · exact Int.ceil_intCast n

lemma towardZero_neg (q : ℚ) : towardZero (-q) = -towardZero q := by
  rcases lt_trichotomy q 0 with h | rfl | h
  · rw [towardZero, towardZero, if_pos (by linarith), if_neg (by linarith), Int.floor_neg]
  · rfl
  · rw [towardZero, towardZero, if_neg (by linarith), if_pos (by linarith), Int.ceil_neg]

lemma towardZero_natCast_div (m d : Nat) : towardZero ((m : ℚ) / d) = (m / d : Nat) := by
  have hfloor : ⌊((m : Int) : ℚ) / d⌋ = (m : Int) / d := Rat.floor_intCast_div_natCast m d
  rw [towardZero, if_pos (by positivity)]
  simpa using hfloor

/-- What is left of a number is no farther from zero than the number. -/
lemma abs_towardZero_le (q : ℚ) : |(towardZero q : ℚ)| ≤ |q| := by
  rw [towardZero]
  split_ifs with h
  · rw [abs_of_nonneg h, abs_of_nonneg (by exact_mod_cast Int.floor_nonneg.2 h)]
    exact Int.floor_le q
  · have hneg : q < 0 := not_le.1 h
    have hceil : ((⌈q⌉ : Int) : ℚ) ≤ 0 := by exact_mod_cast Int.ceil_le.2 (by exact_mod_cast hneg.le)
    rw [abs_of_neg hneg, abs_of_nonpos hceil]
    exact neg_le_neg (Int.le_ceil q)

namespace Double

open BinaryFormat (ratio)

/-! ### Integers of at most 53 bits -/

/-- An integer of at most 53 bits, with as many zeros behind it as the format wants. -/
lemma exists_contains {n : Nat} (h : n ≤ 2 ^ 53) :
    ∃ (m : Nat) (e : Int), (∀ s, (finite s m e).IsBinary64) ∧ (m : ℚ) * 2 ^ e = n := by
  rcases Nat.eq_zero_or_pos n with rfl | hpos
  · exact ⟨0, -1074, by decide, by simp⟩
  rcases h.eq_or_lt with rfl | hlt
  · exact ⟨2 ^ 52, 1, by decide, by norm_num⟩
  have hlog : n.log2 < 53 := (Nat.log2_lt hpos.ne').2 hlt
  obtain ⟨k, hk⟩ : ∃ k, n.log2 + k = 52 := ⟨52 - n.log2, by omega⟩
  have hlow : 2 ^ 52 ≤ n * 2 ^ k := by
    rw [← hk, pow_add]
    exact Nat.mul_le_mul_right _ (Nat.log2_self_le hpos.ne')
  have hhigh : n * 2 ^ k < 2 ^ 53 := by
    have hbits : 2 ^ 53 = 2 ^ (n.log2 + 1) * 2 ^ k := by
      rw [← pow_add]
      congr 1
      omega
    rw [hbits]
    exact Nat.mul_lt_mul_of_pos_right Nat.lt_log2_self (by positivity)
  refine ⟨n * 2 ^ k, -(k : Int), fun s => ⟨hhigh, ?_, ?_, Or.inl hlow⟩, ?_⟩
  · change (-1074 : Int) ≤ -k
    omega
  · change -(k : Int) ≤ 971
    omega
  · rw [Nat.cast_mul, Nat.cast_pow, Nat.cast_ofNat, zpow_neg, zpow_natCast]
    field_simp

/-- Such an integer is not rounded. -/
lemma toRat?_round (s : Bool) {n : Nat} (h : n ≤ 2 ^ 53) :
    (BinaryFormat.double.round s n 1).toRat? = some ((if s then -1 else 1) * (n : ℚ)) := by
  obtain ⟨m, e, hcontains, hvalue⟩ := exists_contains h
  have hratio : ratio n 1 = m * 2 ^ e := by rw [ratio, Nat.cast_one, div_one, hvalue]
  rw [BinaryFormat.round_of_contains (hcontains s) s Nat.one_pos hratio, toRat?_finite, hvalue]

/-- **Integers of at most 53 bits are floating-point numbers.** -/
theorem toRat?_ofInt {n : Int} (h : n.natAbs ≤ 2 ^ 53) : (ofInt n).toRat? = some (n : ℚ) := by
  have hround : ofInt n = BinaryFormat.double.round (n < 0) n.natAbs 1 := rfl
  rw [hround, toRat?_round _ h, Option.some.injEq, Nat.cast_natAbs, Int.cast_abs]
  by_cases hneg : n < 0
  · have hcast : (n : ℚ) < 0 := by exact_mod_cast hneg
    simp [hneg, abs_of_neg hcast]
  · have hcast : (0 : ℚ) ≤ n := by exact_mod_cast not_lt.1 hneg
    simp [hneg, abs_of_nonneg hcast]

/-! ### Numbers of more than 53 bits -/

variable {x : Double} {q : ℚ}

/-- A number with an exponent that is not negative is an integer. -/
lemma exists_int_of_exponent {s : Bool} {m : Nat} {e : Int} (he : 0 ≤ e) (hq : (finite s m e).toRat? = some q) :
    ∃ n : Int, q = n := by
  obtain ⟨k, rfl⟩ := Int.eq_ofNat_of_zero_le he
  rw [toRat?_finite, Option.some.injEq] at hq
  refine ⟨(if s then -1 else 1) * (m * 2 ^ k), ?_⟩
  rw [← hq]
  cases s <;> simp

/-- **A floating-point number that takes all bits before the point is an integer.** -/
theorem exists_int_of_le (hx : x.IsBinary64) (hq : x.toRat? = some q) (h : 2 ^ 53 ≤ |q|) : ∃ n : Int, q = n := by
  cases x with
  | finite s m e =>
    by_contra hnone
    have he : e < 0 := not_le.1 fun he => hnone (exists_int_of_exponent he hq)
    have hm : (m : ℚ) < 2 ^ 53 := by exact_mod_cast hx.1
    have hpow : (2 : ℚ) ^ e ≤ 1 := zpow_le_one_of_nonpos₀ one_le_two he.le
    rw [toRat?_finite, Option.some.injEq] at hq
    -- the mantissa would have to make up for a negative exponent
    have habs : |q| = m * 2 ^ e := by
      rw [← hq, abs_mul, abs_of_nonneg (by positivity : (0 : ℚ) ≤ m * 2 ^ e)]
      cases s <;> simp
    have hle : (m : ℚ) * 2 ^ e ≤ m * 1 := by gcongr
    linarith
  | _ => cases hq

/-- A number of so many bits is what is left of it. -/
lemma towardZero_of_le (hx : x.IsBinary64) (hq : x.toRat? = some q) (h : 2 ^ 53 ≤ |q|) : (towardZero q : ℚ) = q := by
  obtain ⟨n, rfl⟩ := exists_int_of_le hx hq h
  rw [towardZero_intCast]

/-! ### The order of finite numbers -/

section Order

variable {y : Double} {p : ℚ}

lemma compare?_of_toRat? (hx : x.toRat? = some p) (hy : y.toRat? = some q) :
    x.compare? y = some (if p < q then .lt else if p = q then .eq else .gt) := by
  cases x with
  | finite s m e =>
    cases y with
    | finite t n f => simp [compare?, hx, hy]
    | _ => cases hy
  | _ => cases hx

lemma less_of_toRat? (hx : x.toRat? = some p) (hy : y.toRat? = some q) : x.less y = decide (p < q) := by
  rw [less, compare?_of_toRat? hx hy]
  split_ifs with hlt heq
  · simp [hlt]
  · simp [hlt]
  · simp [hlt]

lemma same_of_toRat? (hx : x.toRat? = some p) (hy : y.toRat? = some q) : x.same y = decide (p = q) := by
  rw [same, compare?_of_toRat? hx hy]
  split_ifs with hlt heq
  · simp [hlt.ne]
  · simp [heq]
  · simp [heq]

lemma atMost_of_toRat? (hx : x.toRat? = some p) (hy : y.toRat? = some q) : x.atMost y = decide (p ≤ q) := by
  rw [atMost, less_of_toRat? hx hy, same_of_toRat? hx hy, Bool.eq_iff_iff]
  simp [le_iff_lt_or_eq]

end Order

/-! ### Cutting off fractions -/

lemma truncate?_eq (x : Double) : x.truncate? = x.toRat?.map towardZero := by
  rw [truncate?]
  congr 1
  funext q
  exact tdiv_eq_towardZero q

/-- A number loses no more than its fraction. -/
theorem toRat?_trunc (hx : x.IsBinary64) (hq : x.toRat? = some q) : x.trunc.toRat? = some (towardZero q : ℚ) := by
  cases x with
  | finite s m e =>
    by_cases he : 0 ≤ e
    · obtain ⟨n, rfl⟩ := exists_int_of_exponent he hq
      rw [trunc, if_pos he, hq, towardZero_intCast]
    · obtain ⟨k, rfl⟩ : ∃ k : Nat, e = -(k : Int) := ⟨(-e).toNat, by omega⟩
      have hle : m >>> k ≤ 2 ^ 53 := by
        rw [Nat.shiftRight_eq_div_pow]
        exact (Nat.div_le_self m _).trans hx.1.le
      have hvalue : (m : ℚ) * 2 ^ (-(k : Int)) = m / 2 ^ k := by
        rw [zpow_neg, zpow_natCast, ← div_eq_mul_inv]
      have hcut : towardZero ((m : ℚ) / 2 ^ k) = (m >>> k : Nat) := by
        rw [Nat.shiftRight_eq_div_pow, ← towardZero_natCast_div, Nat.cast_pow, Nat.cast_ofNat]
      rw [toRat?_finite, Option.some.injEq, hvalue] at hq
      rw [trunc, if_neg he, neg_neg, Int.toNat_natCast, toRat?_round s hle, ← hq]
      generalize m >>> k = n at hcut
      cases s
      · simp [hcut]
      · simp [towardZero_neg, hcut]
  | _ => cases hq

end Double

end Coercion
