import Coercion.Binary.Basic
import Mathlib.Algebra.Order.Field.Power
import Mathlib.Algebra.Order.Field.Rat
import Mathlib.Tactic

/-!
Rounding to a binary format. A format contains the numbers whose mantissa and exponent it has room for, written in
the one way that it allows. Rounding ends in the format, and leaves a number that the format contains as it is; so a
number that is rounded to an unequal one has no equal in the format.
-/

namespace Coercion

namespace BinaryFormat

/-- The numbers of a format. A mantissa has all bits of the format unless the exponent is the least. -/
def Contains (f : BinaryFormat) : Double → Prop
  | .finite _ m e => m < 2 ^ f.precision ∧ f.minExponent ≤ e ∧ e ≤ f.maxExponent ∧
      (2 ^ (f.precision - 1) ≤ m ∨ e = f.minExponent)
  | _ => True

instance (f : BinaryFormat) (x : Double) : Decidable (f.Contains x) := by
  cases x <;> unfold Contains <;> infer_instance

/-! ### Scaling -/

/-- A fraction as a number. -/
def ratio (num den : Nat) : ℚ := (num : ℚ) / den

lemma scaledBy_den_pos (e : Int) (num : Nat) {den : Nat} (hden : 0 < den) : 0 < (scaledBy e num den).2 := by
  rw [scaledBy]
  split_ifs
  · rw [Nat.shiftLeft_eq]
    positivity
  · exact hden

/-- Scaling by an exponent divides by its power. -/
lemma ratio_scaledBy (e : Int) (num : Nat) {den : Nat} (hden : 0 < den) :
    ratio (scaledBy e num den).1 (scaledBy e num den).2 = ratio num den * 2 ^ (-e) := by
  have hden' : (den : ℚ) ≠ 0 := by positivity
  rw [scaledBy]
  split_ifs with h
  · obtain ⟨k, rfl⟩ := Int.eq_ofNat_of_zero_le h
    simp only [ratio, Nat.shiftLeft_eq, Int.toNat_natCast, zpow_neg, zpow_natCast]
    push_cast
    field_simp
  · obtain ⟨k, hk⟩ := Int.eq_ofNat_of_zero_le (show 0 ≤ -e by omega)
    simp only [hk, ratio, Nat.shiftLeft_eq, Int.toNat_natCast, zpow_natCast]
    push_cast
    field_simp

/-- The bits of numerator and denominator leave two places for the first bit of a fraction. -/
lemma ratio_bounds {num den : Nat} (hnum : 0 < num) (hden : 0 < den) :
    (2 : ℚ) ^ ((num.log2 : Int) - den.log2 - 1) ≤ ratio num den ∧
      ratio num den < 2 ^ ((num.log2 : Int) - den.log2 + 1) := by
  have hn : (2 : ℚ) ^ num.log2 ≤ num := by exact_mod_cast Nat.log2_self_le hnum.ne'
  have hn' : (num : ℚ) < 2 ^ (num.log2 + 1) := by exact_mod_cast Nat.lt_log2_self (n := num)
  have hd : (2 : ℚ) ^ den.log2 ≤ den := by exact_mod_cast Nat.log2_self_le hden.ne'
  have hd' : (den : ℚ) < 2 ^ (den.log2 + 1) := by exact_mod_cast Nat.lt_log2_self (n := den)
  have hlow : (2 : ℚ) ^ ((num.log2 : Int) - den.log2 - 1) = 2 ^ num.log2 / 2 ^ (den.log2 + 1) := by
    rw [sub_sub, zpow_sub₀ two_ne_zero, zpow_natCast, ← Nat.cast_one, ← Nat.cast_add, zpow_natCast]
  have hhigh : (2 : ℚ) ^ ((num.log2 : Int) - den.log2 + 1) = 2 ^ (num.log2 + 1) / 2 ^ den.log2 := by
    rw [sub_add_eq_add_sub, zpow_sub₀ two_ne_zero, zpow_natCast, ← Nat.cast_one, ← Nat.cast_add, zpow_natCast]
  rw [hlow, hhigh, ratio]
  constructor
  · gcongr
  · gcongr

/-- A fraction has its first bit at its magnitude. -/
lemma magnitude_bounds {num den : Nat} (hnum : 0 < num) (hden : 0 < den) :
    (2 : ℚ) ^ magnitude num den ≤ ratio num den ∧ ratio num den < 2 ^ (magnitude num den + 1) := by
  obtain ⟨hlow, hhigh⟩ := ratio_bounds hnum hden
  have hscaled := ratio_scaledBy ((num.log2 : Int) - den.log2) num hden
  have hd := scaledBy_den_pos ((num.log2 : Int) - den.log2) num hden
  simp only [magnitude]
  generalize (num.log2 : Int) - den.log2 = e at *
  generalize scaledBy e num den = nd at *
  obtain ⟨n, d⟩ := nd
  have hpow : (0 : ℚ) < 2 ^ e := by positivity
  have hlt : n < d ↔ ratio num den < 2 ^ e := by
    have hd' : (0 : ℚ) < d := by exact_mod_cast hd
    rw [zpow_neg, ← div_eq_mul_inv, eq_div_iff hpow.ne'] at hscaled
    rw [← hscaled, mul_lt_iff_lt_one_left hpow, ratio, div_lt_one hd', Nat.cast_lt]
  -- one comparison decides between the two places that are left
  split_ifs with h
  · exact ⟨hlow, by simpa using hlt.1 h⟩
  · exact ⟨not_lt.1 fun h' => h (hlt.2 h'), hhigh⟩

/-- The number of bits before the point is determined by the bounds. -/
lemma magnitude_eq {num den : Nat} (hnum : 0 < num) (hden : 0 < den) {e : Int}
    (hlow : (2 : ℚ) ^ e ≤ ratio num den) (hhigh : ratio num den < 2 ^ (e + 1)) : magnitude num den = e := by
  obtain ⟨hlow', hhigh'⟩ := magnitude_bounds hnum hden
  have h1 : e < magnitude num den + 1 := (zpow_lt_zpow_iff_right₀ one_lt_two).1 (hlow.trans_lt hhigh')
  have h2 : magnitude num den < e + 1 := (zpow_lt_zpow_iff_right₀ one_lt_two).1 (hlow'.trans_lt hhigh)
  omega

/-! ### The nearest integer -/

lemma roundedQuotient_mul (m : Nat) {d : Nat} (hd : 0 < d) : roundedQuotient (m * d) d = m := by
  have hdiv : m * d / d = m := Nat.mul_div_cancel m hd
  have hmod : m * d % d = 0 := Nat.mul_mod_left m d
  rw [roundedQuotient, hdiv, hmod]
  simp [hd]

lemma roundedQuotient_cases (n : Nat) {d : Nat} (hd : 0 < d) :
    roundedQuotient n d = n / d ∨ roundedQuotient n d = n / d + 1 ∧ n % d ≠ 0 := by
  simp only [roundedQuotient]
  split_ifs with hbelow habove heven
  · exact Or.inl rfl
  · exact Or.inr ⟨rfl, fun h => by omega⟩
  · exact Or.inl rfl
  · exact Or.inr ⟨rfl, fun h => by omega⟩

lemma roundedQuotient_le {n d k : Nat} (hd : 0 < d) (h : n ≤ k * d) : roundedQuotient n d ≤ k := by
  have hq : n / d ≤ k := by rw [Nat.div_le_iff_le_mul_add_pred hd]; nlinarith
  rcases roundedQuotient_cases n hd with heq | ⟨heq, hmod⟩
  · omega
  · -- a quotient that is rounded up is not `k` itself
    have hne : n / d ≠ k := by
      intro hk
      have hsum := Nat.div_add_mod' n d
      rw [hk] at hsum
      omega
    omega

lemma le_roundedQuotient {n d k : Nat} (hd : 0 < d) (h : k * d ≤ n) : k ≤ roundedQuotient n d := by
  have hq : k ≤ n / d := (Nat.le_div_iff_mul_le hd).2 h
  rcases roundedQuotient_cases n hd with heq | ⟨heq, -⟩ <;> omega

/-! ### Rounding -/

variable {f : BinaryFormat}

/-- The exponent of the last bit that is kept. -/
def lastExponent (f : BinaryFormat) (num den : Nat) : Int :=
  max (magnitude num den - (f.precision - 1)) f.minExponent

/-- The mantissa that is left, which may be one bit too long. -/
def mantissa (f : BinaryFormat) (num den : Nat) : Nat :=
  roundedQuotient (scaledBy (f.lastExponent num den) num den).1 (scaledBy (f.lastExponent num den) num den).2

lemma round_eq {num : Nat} (hnum : num ≠ 0) (negative : Bool) (den : Nat) :
    f.round negative num den =
      if f.mantissa num den = 2 ^ f.precision then
        if f.maxExponent < f.lastExponent num den + 1 then .infinite negative
        else .finite negative (f.mantissa num den / 2) (f.lastExponent num den + 1)
      else if f.maxExponent < f.lastExponent num den then .infinite negative
      else .finite negative (f.mantissa num den) (f.lastExponent num den) := by
  rw [round, if_neg hnum]
  simp only [← lastExponent.eq_1, ← mantissa.eq_1]
  by_cases h : f.mantissa num den = 2 ^ f.precision
  · simp [h]
  · simp [h]

/-- The bounds of a fraction in terms of the last bit that is kept. -/
lemma scaledBy_bounds {num den : Nat} (hnum : 0 < num) (hden : 0 < den) (hp : 1 ≤ f.precision) :
    let nd := scaledBy (f.lastExponent num den) num den
    nd.1 ≤ 2 ^ f.precision * nd.2 ∧
      (f.lastExponent num den ≠ f.minExponent → 2 ^ (f.precision - 1) * nd.2 ≤ nd.1) := by
  intro nd
  obtain ⟨hlow, hhigh⟩ := magnitude_bounds hnum hden
  have hd : (0 : ℚ) < nd.2 := by exact_mod_cast scaledBy_den_pos (f.lastExponent num den) num hden
  have hscaled : ratio nd.1 nd.2 = ratio num den * 2 ^ (-f.lastExponent num den) :=
    ratio_scaledBy (f.lastExponent num den) num hden
  have hpow : (0 : ℚ) < 2 ^ (-f.lastExponent num den) := by positivity
  have hlast : magnitude num den - (f.precision - 1) ≤ f.lastExponent num den := le_max_left _ _
  constructor
  · have hlt : ratio nd.1 nd.2 < 2 ^ (f.precision : Int) := by
      rw [hscaled]
      calc ratio num den * 2 ^ (-f.lastExponent num den)
          < 2 ^ (magnitude num den + 1) * 2 ^ (-f.lastExponent num den) := by gcongr
        _ = 2 ^ (magnitude num den + 1 - f.lastExponent num den) := by
            rw [← zpow_add₀ two_ne_zero, sub_eq_add_neg]
        _ ≤ 2 ^ (f.precision : Int) := by
            refine zpow_le_zpow_right₀ one_le_two ?_
            omega
    rw [ratio, zpow_natCast, div_lt_iff₀ hd] at hlt
    exact_mod_cast hlt.le
  · intro hne
    have heq : f.lastExponent num den = magnitude num den - (f.precision - 1) := by
      rcases max_choice (magnitude num den - (f.precision - 1)) f.minExponent with h | h
      · exact h
      · exact absurd h hne
    have hexp : magnitude num den + -f.lastExponent num den = ((f.precision - 1 : Nat) : Int) := by omega
    have hle : (2 : ℚ) ^ ((f.precision - 1 : Nat) : Int) ≤ ratio nd.1 nd.2 := by
      rw [hscaled, ← hexp, zpow_add₀ two_ne_zero]
      gcongr
    rw [ratio, zpow_natCast, le_div_iff₀ hd] at hle
    exact_mod_cast hle

/-- **Rounding ends in the format.** -/
theorem contains_round (hp : 1 ≤ f.precision) (hE : f.minExponent ≤ f.maxExponent) (negative : Bool) (num : Nat)
    {den : Nat} (hden : 0 < den) : f.Contains (f.round negative num den) := by
  by_cases hnum : num = 0
  · rw [round, if_pos hnum]
    exact ⟨by positivity, le_refl _, hE, Or.inr rfl⟩
  · obtain ⟨hhigh, hlow⟩ := scaledBy_bounds (f := f) (Nat.pos_of_ne_zero hnum) hden hp
    have hd := scaledBy_den_pos (f.lastExponent num den) num hden
    have hmin : f.minExponent ≤ f.lastExponent num den := le_max_right _ _
    have hle : f.mantissa num den ≤ 2 ^ f.precision := roundedQuotient_le hd hhigh
    have hpow : 2 ^ f.precision = 2 * 2 ^ (f.precision - 1) := by
      rw [← pow_succ', Nat.sub_add_cancel hp]
    have hpos : 0 < 2 ^ (f.precision - 1) := by positivity
    rw [round_eq hnum]
    split_ifs with hfull hover hover
    · trivial
    · -- the carry leaves a one and zeros, which lose their last zero to the exponent
      refine ⟨?_, by omega, by omega, Or.inl ?_⟩ <;> rw [hfull] <;> omega
    · trivial
    · refine ⟨by omega, hmin, by omega, ?_⟩
      by_cases he : f.lastExponent num den = f.minExponent
      · exact Or.inr he
      · exact Or.inl (le_roundedQuotient hd (hlow he))

/-- A fraction is never rounded to an undefined number. -/
lemma isNan_round (f : BinaryFormat) (negative : Bool) (num den : Nat) : (f.round negative num den).isNan = false := by
  by_cases hnum : num = 0
  · rw [round, if_pos hnum]
    rfl
  · rw [round_eq hnum]
    split_ifs <;> rfl

/-- A fraction that is small enough for the format is not rounded to an infinite number. -/
theorem round_ne_infinite (hE : f.minExponent < f.maxExponent) (negative : Bool) {num den : Nat} (hden : 0 < den)
    (h : ratio num den < 2 ^ (f.maxExponent + f.precision - 1)) (s : Bool) :
    f.round negative num den ≠ .infinite s := by
  by_cases hnum : num = 0
  · rw [round, if_pos hnum]
    exact Double.noConfusion
  · have hlow := (magnitude_bounds (Nat.pos_of_ne_zero hnum) hden).1
    have hmag : magnitude num den < f.maxExponent + f.precision - 1 :=
      (zpow_lt_zpow_iff_right₀ one_lt_two).1 (hlow.trans_lt h)
    have hlast : f.lastExponent num den + 1 ≤ f.maxExponent := by
      rw [lastExponent]
      omega
    rw [round_eq hnum, if_neg (by omega : ¬ f.maxExponent < f.lastExponent num den + 1),
      if_neg (by omega : ¬ f.maxExponent < f.lastExponent num den)]
    split_ifs <;> exact Double.noConfusion

lemma lastExponent_of_contains {negative : Bool} {m : Nat} {e : Int} (h : f.Contains (.finite negative m e))
    (hm : 0 < m) {num den : Nat} (hnum : 0 < num) (hden : 0 < den) (hratio : ratio num den = m * 2 ^ e) :
    f.lastExponent num den = e := by
  obtain ⟨hlt, hmin, -, hfull⟩ := h
  have hlow : (2 : ℚ) ^ m.log2 ≤ m := by exact_mod_cast Nat.log2_self_le hm.ne'
  have hhigh : (m : ℚ) < 2 ^ (m.log2 + 1) := by exact_mod_cast Nat.lt_log2_self (n := m)
  have hmag : magnitude num den = m.log2 + e := by
    refine magnitude_eq hnum hden ?_ ?_
    · rw [hratio, zpow_add₀ two_ne_zero, zpow_natCast]
      gcongr
    · rw [hratio, add_right_comm, zpow_add₀ two_ne_zero, ← Nat.cast_succ, zpow_natCast]
      gcongr
  have hlog : m.log2 < f.precision := (Nat.log2_lt hm.ne').2 hlt
  rw [lastExponent, hmag]
  rcases hfull with hfull | rfl
  · have hlog' : f.precision - 1 ≤ m.log2 := (Nat.le_log2 hm.ne').2 hfull
    omega
  · omega

/-- **Rounding leaves a number of the format as it is**, whichever sign it is given. -/
theorem round_of_contains {s : Bool} {m : Nat} {e : Int} (h : f.Contains (.finite s m e)) (negative : Bool)
    {num den : Nat} (hden : 0 < den) (hratio : ratio num den = m * 2 ^ e) :
    f.round negative num den = .finite negative m e := by
  rcases Nat.eq_zero_or_pos m with rfl | hm
  · -- zero has the least exponent, for its mantissa is never full
    have hnum : num = 0 := by
      rw [ratio, Nat.cast_zero, zero_mul, div_eq_zero_iff] at hratio
      exact_mod_cast hratio.resolve_right (by positivity)
    obtain ⟨-, -, -, hfull⟩ := h
    have he : e = f.minExponent := hfull.resolve_left (by simp)
    rw [round, if_pos hnum, he]
  · have hnum : 0 < num := by
      have hpos : 0 < ratio num den := by rw [hratio]; positivity
      rw [ratio, div_pos_iff_of_pos_right (by positivity)] at hpos
      exact_mod_cast hpos
    have hlast := lastExponent_of_contains h hm hnum hden hratio
    -- scaled by its own exponent the fraction is the mantissa, so there is nothing to round
    have hd : 0 < (scaledBy e num den).2 := scaledBy_den_pos e num hden
    have hscaled := ratio_scaledBy e num hden
    have hn : (scaledBy e num den).1 = m * (scaledBy e num den).2 := by
      have hd' : ((scaledBy e num den).2 : ℚ) ≠ 0 := by positivity
      rw [hratio, mul_assoc, ← zpow_add₀ two_ne_zero, add_neg_cancel, zpow_zero, mul_one, ratio,
        div_eq_iff hd'] at hscaled
      exact_mod_cast hscaled
    have hmantissa : f.mantissa num den = m := by
      rw [mantissa, hlast, hn, roundedQuotient_mul m hd]
    obtain ⟨hlt, -, hmax, -⟩ := h
    rw [round_eq hnum.ne', hmantissa, hlast, if_neg hlt.ne, if_neg (by omega)]

end BinaryFormat

/-! ### Eight-byte numbers -/

namespace Double

open BinaryFormat (ratio)

/-- Whether a number is one of eight bytes. -/
def IsBinary64 (x : Double) : Prop := BinaryFormat.double.Contains x

instance (x : Double) : Decidable x.IsBinary64 :=
  inferInstanceAs (Decidable (BinaryFormat.double.Contains x))

lemma ratioOf_den_pos (m : Nat) (e : Int) : 0 < (ratioOf m e).2 := by
  rw [ratioOf]
  split_ifs
  · exact Nat.one_pos
  · rw [Nat.shiftLeft_eq]
    positivity

lemma ratio_ratioOf (m : Nat) (e : Int) : ratio (ratioOf m e).1 (ratioOf m e).2 = m * 2 ^ e := by
  rw [ratioOf]
  split_ifs with h
  · obtain ⟨k, rfl⟩ := Int.eq_ofNat_of_zero_le h
    simp [ratio, Nat.shiftLeft_eq]
  · obtain ⟨k, hk⟩ := Int.eq_ofNat_of_zero_le (show 0 ≤ -e by omega)
    have he : e = -(k : Int) := by omega
    simp [he, ratio, Nat.shiftLeft_eq, div_eq_mul_inv]

lemma toRat?_finite (negative : Bool) (m : Nat) (e : Int) :
    (finite negative m e).toRat? = some ((if negative then -1 else 1) * ((m : ℚ) * 2 ^ e)) := by
  rw [toRat?, ← ratio_ratioOf m e, ratio]
  cases negative <;> simp [Rat.mkRat_eq_div, neg_div]

/-- A number of eight bytes is not changed by being stored in eight bytes. -/
lemma narrow_eq {x : Double} (h : x.IsBinary64) : x.narrow BinaryFormat.double = x := by
  cases x with
  | finite s m e =>
    have hround := BinaryFormat.round_of_contains h s (ratioOf_den_pos m e) (ratio_ratioOf m e)
    simp only [narrow, hround]
  | _ => rfl

/-- In a narrower format the same numbers are undefined. -/
lemma isNan_narrow (f : BinaryFormat) (x : Double) : (x.narrow f).isNan = x.isNan := by
  cases x with
  | finite s m e =>
    dsimp only [narrow]
    split
    · exact BinaryFormat.isNan_round _ _ _ _
    · exact BinaryFormat.isNan_round _ _ _ _
  | _ => rfl

/-- A number of a narrower format is held as one of eight bytes. -/
lemma isBinary64_narrow (f : BinaryFormat) (x : Double) : (x.narrow f).IsBinary64 := by
  cases x with
  | finite s m e =>
    dsimp only [narrow]
    split
    · exact BinaryFormat.contains_round (by decide) (by decide) _ _ (ratioOf_den_pos _ _)
    · rename_i hround
      cases hr : f.round s (ratioOf m e).1 (ratioOf m e).2 with
      | finite s m e => exact absurd hr (hround s m e)
      | _ => trivial
  | _ => trivial

lemma isBinary64_ofRatio (num : Int) {den : Nat} (hden : 0 < den) : (ofRatio num den).IsBinary64 :=
  BinaryFormat.contains_round (by decide) (by decide) _ _ hden

/-- A fraction that is a number of eight bytes is found as that number. -/
theorem toRat?_ofRatio {z : Double} (hz : z.IsBinary64) {q : ℚ} (h : z.toRat? = some q) :
    (ofRatio q.num q.den).toRat? = some q := by
  cases z with
  | finite s m e =>
    rw [toRat?_finite, Option.some.injEq] at h
    have hnonneg : (0 : ℚ) ≤ m * 2 ^ e := by positivity
    have hratio : ratio q.num.natAbs q.den = |q| := by
      rw [ratio, Nat.cast_natAbs, Int.cast_abs]
      conv_rhs => rw [← Rat.num_div_den q, abs_div, Nat.abs_cast]
    have habs : ratio q.num.natAbs q.den = m * 2 ^ e := by
      rw [hratio, ← h, abs_mul, abs_of_nonneg hnonneg]
      cases s <;> simp
    have hround : ofRatio q.num q.den = finite (q.num < 0) m e :=
      BinaryFormat.round_of_contains hz (q.num < 0) q.den_pos habs
    rw [hround, toRat?_finite, ← habs, hratio, Option.some.injEq]
    by_cases hneg : q.num < 0
    · have hq : q < 0 := Rat.num_neg.1 hneg
      simp [hneg, abs_of_neg hq]
    · have hq : 0 ≤ q := Rat.num_nonneg.1 (not_lt.1 hneg)
      simp [hneg, abs_of_nonneg hq]
  | _ => cases h

lemma ofInt_eq (n : Int) : ofInt n = ofRatio (n : ℚ).num (n : ℚ).den := rfl

/-- An integer is never rounded to an undefined number. -/
lemma isNan_ofInt (n : Int) : (ofInt n).isNan = false :=
  BinaryFormat.isNan_round _ _ _ _

lemma isBinary64_ofInt (n : Int) : (ofInt n).IsBinary64 := isBinary64_ofRatio n Nat.one_pos

/-- An integer of eight bytes is within the range of floating-point numbers. -/
lemma ofInt_ne_infinite {n : Int} (h : n.natAbs ≤ 2 ^ 63) (s : Bool) : ofInt n ≠ .infinite s := by
  refine BinaryFormat.round_ne_infinite (by decide) _ Nat.one_pos ?_ s
  have hle : (n.natAbs : ℚ) ≤ 2 ^ 63 := by exact_mod_cast h
  rw [ratio, Nat.cast_one, div_one]
  calc (n.natAbs : ℚ) ≤ 2 ^ 63 := hle
    _ = 2 ^ (63 : Int) := by norm_cast
    _ < 2 ^ (BinaryFormat.double.maxExponent + BinaryFormat.double.precision - 1) :=
        zpow_lt_zpow_right₀ one_lt_two (by decide)

end Double

end Coercion
