import Coercion.Proofs.Binary.Whole
import Coercion.Proofs.Cast.Routes

/-!
Casts between the number types. The result is the source with every value replaced by the number that the target has
for it, and the positions that are flagged are those where this number is not equal to the value. Casters find these
positions in different ways; here all of them are shown to come to the same.
-/

namespace Coercion

/-! ### Positions -/

section Positions

variable {α : Type}

lemma mem_positionsOf (f : α → Bool) (xs : List α) (i : Nat) :
    i ∈ Column.positionsOf (xs.map f) ↔ ∃ x, xs[i]? = some x ∧ f x = true := by
  simp only [Column.positionsOf, List.mem_map, List.mem_filter, Prod.exists, List.mem_zipIdx_iff_getElem?,
    List.getElem?_map, Option.map_eq_some_iff, exists_eq_right]

lemma positionsOf_eq_nil {f : α → Bool} {xs : List α} (h : ∀ x ∈ xs, f x = false) :
    Column.positionsOf (xs.map f) = [] := by
  rw [List.eq_nil_iff_forall_not_mem]
  intro i hi
  obtain ⟨x, hx, hf⟩ := (mem_positionsOf f xs i).1 hi
  rw [h x (List.mem_of_getElem? hx)] at hf
  cases hf

lemma mem_sortedPositions (positions : List Nat) (i : Nat) : i ∈ sortedPositions positions ↔ i ∈ positions := by
  rw [sortedPositions, List.mem_eraseDups, List.mem_mergeSort]

lemma sortedPositions_nil : sortedPositions [] = [] := by simp [sortedPositions]

/-- A list beside its own image. -/
lemma map_zip_map {β γ : Type} (g : α → β) (f : α × β → γ) (xs : List α) :
    (xs.zip (xs.map g)).map f = xs.map fun x => f (x, g x) := by
  induction xs with
  | nil => rfl
  | cons x xs ih => simp [ih]

/-- A traversal of a list beside its own image. -/
lemma mapM_zip_map {β γ : Type} (g : α → β) (f : α × β → Except Failure γ) (xs : List α) :
    (xs.zip (xs.map g)).mapM f = xs.mapM fun x => f (x, g x) := by
  induction xs with
  | nil => rfl
  | cons x xs ih => simp [ih]

end Positions

/-! ### Numbers in the target's storage -/

namespace Double

lemma quantity_eq_finite_iff (x : Double) (q : ℚ) : x.quantity = .finite q ↔ x.toRat? = some q := by
  cases x with
  | finite s m e => simp [quantity, toRat?]
  | _ => simp [quantity, toRat?]

end Double

namespace Caster

/-- The integer of eight bytes that is left of a floating-point number without its fraction. -/
def truncated? (x : Double) : Option Int :=
  x.truncate?.filter (fitsSigned 64)

/-- A floating-point number as an integer, missing if there is none. -/
def truncatedValue : Value → Value
  | .double x =>
    match truncated? x with
    | some n => .int n
    | none => .notAvailable
  | _ => .notAvailable

end Caster

lemma truncated?_eq_some_iff (d : Double) (n : Int) :
    Caster.truncated? d = some n ↔
      fitsSigned 64 n = true ∧ ∃ q, d.quantity = .finite q ∧ towardZero q = n := by
  simp only [Caster.truncated?, Double.truncate?, Option.filter_eq_some_iff, Option.map_eq_some_iff,
    tdiv_eq_towardZero, Double.quantity_eq_finite_iff, and_comm]

namespace Value

/-- The number that a number type has for a value: the truth of a number, a number without its fraction if that fits, or
the nearest floating-point number. -/
def asNumber (t : VectorType) (v : Value) : Value :=
  if v.isMissing then t.storage.missing
  else
    match t, v with
    | .logical, v => .bool v.isNonzero
    | .integer, .bool b => .int (if b then 1 else 0)
    | .integer, .double x => Caster.truncatedValue (.double x)
    | .double, .bool b => .double (Double.ofInt (if b then 1 else 0))
    | .double, .int n => .double (Double.ofInt n)
    | _, v => v

/-- Whether a value differs from the number that a number type has for it. -/
def isLost (t : VectorType) (v : Value) : Bool :=
  !v.isMissing && !v.same (v.asNumber t)

lemma asNumber_of_isMissing {v : Value} (t : VectorType) (h : v.isMissing = true) :
    v.asNumber t = t.storage.missing := by
  unfold asNumber
  exact if_pos h

lemma toStoredDouble_int {n : Int} (h : fitsSigned 64 n = true) :
    (Value.int n).toStoredDouble = .ok (Double.ofInt n) := by
  have hbound : n.natAbs ≤ 2 ^ 63 := by
    simp only [fitsSigned, Bool.and_eq_true, decide_eq_true_eq, Nat.pow_eq] at h
    omega
  have hnearest : nearest? (n : ℚ) = some (Double.ofInt n) := by
    rw [nearest?, ← Double.ofInt_eq]
    cases hn : Double.ofInt n with
    | infinite s => exact absurd hn (Double.ofInt_ne_infinite hbound s)
    | _ => rfl
  simp only [toStoredDouble, plain, toDouble, quantity?, hnearest]

lemma toStoredDouble_bool (b : Bool) : (Value.bool b).toStoredDouble = .ok (Double.ofInt (if b then 1 else 0)) := by
  cases b <;> rfl

end Value

namespace Column

open Value

variable {c : Column}

/-- Reading single values one by one, where each of them is read as the number of the target. -/
lemma mapPresent_asNumber (t : VectorType) {f : Value → Except Failure Value}
    (h : ∀ v ∈ c.values, v.isMissing = false → f v = .ok (v.asNumber t)) :
    c.mapPresent t.storage f = .ok ⟨t.storage, c.values.map (asNumber t)⟩ := by
  rw [mapPresent_eq_ok h]
  have hmap : (fun v => if v.isMissing = true then t.storage.missing else v.asNumber t) = asNumber t := by
    funext v
    by_cases hv : v.isMissing = true
    · rw [if_pos hv, asNumber_of_isMissing t hv]
    · rw [if_neg hv]
  rw [hmap]

lemma convert_int64_of_boolean (hd : c.dtype = .boolean) (h : ∀ v ∈ c.values, Dtype.boolean.Holds v) :
    c.convert .int64 = .ok ⟨.int64, c.values.map (asNumber .integer)⟩ := by
  have hplain : c.decategorized = c := by rw [decategorized, hd]; rfl
  have hconvert : c.convert .int64 = c.toInt64 := by unfold convert; rw [hd]; rfl
  rw [hconvert, toInt64, hplain, hd]
  refine mapPresent_asNumber .integer fun v hv hm => ?_
  cases h v hv with
  | noTruth => cases hm
  | truth b => cases b <;> rfl

/-- Truth values and integers are converted to the nearest floating-point numbers. -/
lemma convert_float64 (hd : c.dtype = .boolean ∨ c.dtype = .int64) (h : ∀ v ∈ c.values, c.dtype.Holds v) :
    c.convert .float64 = .ok ⟨.float64, c.values.map (asNumber .double)⟩ := by
  have hconvert : c.convert .float64 = c.mapPresent .float64 fun v => do
      return .double ((← v.toStoredDouble).narrow (Element.float 64).format) := by
    unfold convert toFloat
    rcases hd with hd | hd <;> rw [hd] <;> rfl
  rw [hconvert]
  refine mapPresent_asNumber .double ?_
  intro v hv hm
  have hread : ∀ n : Int, v.toStoredDouble = .ok (Double.ofInt n) →
      (do return Value.double ((← v.toStoredDouble).narrow (Element.float 64).format)) =
        (Except.ok (.double (Double.ofInt n)) : Except Failure Value) := by
    intro n hn
    rw [hn]
    have hnarrow := Double.narrow_eq (Double.isBinary64_ofInt n)
    exact congrArg (fun x => Except.ok (Value.double x)) hnarrow
  have hheld := h v hv
  rcases hd with hd | hd
  · rw [hd] at hheld
    cases hheld with
    | noTruth => cases hm
    | truth b => exact hread _ (toStoredDouble_bool b)
  · rw [hd] at hheld
    cases hheld with
    | noInt => cases hm
    | int fits => exact hread _ (toStoredDouble_int fits)

end Column

/-! ### Casts -/

namespace VectorType

/-- The types of truth values, integers and floating-point numbers. -/
inductive IsNumber : VectorType → Prop where
  | logical : IsNumber .logical
  | integer : IsNumber .integer
  | double : IsNumber .double

lemma IsNumber.isStandard {t : VectorType} (h : t.IsNumber) : t.IsStandard := by
  cases h <;> constructor

end VectorType

/-- A number vector is in the storage of its type, as are its values. -/
lemma TypedVector.WellFormed.number_stored {v : TypedVector} (hv : v.WellFormed) (hs : v.type.IsNumber) :
    v.column.dtype = v.type.storage ∧ ∀ x ∈ v.values, v.type.storage.Holds x := by
  have hdtype : v.column.dtype = v.type.storage := by
    refine hv.dtype_eq ?_
    intro levels h
    rw [h] at hs
    cases hs
  exact ⟨hdtype, hdtype ▸ hv.held⟩

namespace Value

variable {t : VectorType}

/-- A value in the storage of a number type is the number that the type has for it. -/
lemma asNumber_of_holds (ht : t.IsNumber) {x : Value} (h : t.storage.Holds x) :
    x.asNumber t = x ∧ x.isLost t = false := by
  have hasNumber : x.asNumber t = x := by
    cases ht with
    | logical =>
      cases h with
      | noTruth => rfl
      | truth b => cases b <;> rfl
    | integer =>
      cases h with
      | noInt => rfl
      | int => rfl
    | double =>
      cases h with
      | @double d _ => cases d <;> rfl
  refine ⟨hasNumber, ?_⟩
  -- not lost, since it is equal to itself unless it is missing
  rw [isLost, hasNumber]
  cases hm : x.isMissing with
  | true => rfl
  | false =>
    have hsingle : x.held? = none := by
      cases ht <;> cases h <;> rfl
    rw [same_self hsingle hm]
    rfl

/-- Truth values have equal numbers in every number type. -/
lemma isLost_bool (ht : t.IsNumber) (b : Bool) : (Value.bool b).isLost t = false := by
  cases ht <;> cases b <;> rfl

/-- All numbers but zero and one are lost in a truth value. -/
lemma isLost_logical {x : Value} {q : Quantity} (hq : x.quantity? = some q) (hm : x.meaning? = some (.number q)) :
    x.isLost .logical = (!x.isMissing && x.bit?.isNone) := by
  cases hmissing : x.isMissing with
  | true => simp [isLost, hmissing]
  | false =>
    have hasNumber : x.asNumber .logical = .bool x.isNonzero := by
      unfold asNumber
      rw [hmissing]
      rfl
    have hsame : ∀ b : Bool, x.same (.bool b) = decide (q = .finite (if b then 1 else 0)) := by
      intro b
      rw [Bool.eq_iff_iff, same_iff_of_meaning? hm, decide_eq_true_eq]
      simp [meaning?, quantity?, eq_comm]
    rw [isLost, hmissing, hasNumber, hsame, bit?, isNonzero, hq]
    cases q with
    | finite q => by_cases h0 : q = 0 <;> by_cases h1 : q = 1 <;> simp [h0, h1]
    | _ => rfl

end Value

/-! ### What the casters find -/

namespace Caster

open Value

section Whole

variable {x : Double} {q : ℚ}

lemma fitsSigned_iff (n : Int) : fitsSigned 64 n = true ↔ -2 ^ 63 ≤ n ∧ n < 2 ^ 63 := by
  simp only [fitsSigned, Bool.and_eq_true, decide_eq_true_eq, Nat.pow_eq]
  norm_num

/-- Whether something is left of a floating-point number in eight bytes can be told from the number itself: below the
least integer, where the fraction would make the difference, floating-point numbers have none. -/
lemma fitsSigned_towardZero (hx : x.IsBinary64) (hq : x.toRat? = some q) :
    fitsSigned 64 (towardZero q) = true ↔ -2 ^ 63 ≤ q ∧ q < 2 ^ 63 := by
  rw [fitsSigned_iff]
  by_cases hlarge : 2 ^ 53 ≤ |q|
  · obtain ⟨n, rfl⟩ := Double.exists_int_of_le hx hq hlarge
    rw [towardZero_intCast]
    exact_mod_cast Iff.rfl
  · have hsmall : |q| < 2 ^ 53 := not_le.1 hlarge
    have hleft : |(towardZero q : ℚ)| < 2 ^ 53 := (abs_towardZero_le q).trans_lt hsmall
    obtain ⟨hlow, hhigh⟩ := abs_lt.1 hsmall
    obtain ⟨hlow', hhigh'⟩ := abs_lt.1 hleft
    have hlow' : -2 ^ 53 < towardZero q := by exact_mod_cast hlow'
    have hhigh' : towardZero q < 2 ^ 53 := by exact_mod_cast hhigh'
    constructor
    · intro _
      exact ⟨by linarith, by linarith⟩
    · intro _
      exact ⟨by linarith, by linarith⟩

lemma hasRoom_of_toRat? (hx : x.IsBinary64) (hq : x.toRat? = some q) :
    hasRoom Column.leastInt x = fitsSigned 64 (towardZero q) := by
  have hleast : (Double.ofInt Column.leastInt).toRat? = some (-2 ^ 63) := by decide +kernel
  have hbehind : (Double.ofInt (Nat.pow 2 63)).toRat? = some (2 ^ 63) := by decide +kernel
  have hdefined : x.isNan = false := by
    cases x with
    | nan => cases hq
    | _ => rfl
  rw [hasRoom, Double.atMost_of_toRat? hleast hq, Double.less_of_toRat? hq hbehind, hdefined, Bool.eq_iff_iff,
    fitsSigned_towardZero hx hq]
  simp

/-- There is no room for what is not a finite number. -/
lemma hasRoom_of_toRat?_eq_none (hq : x.toRat? = none) : hasRoom Column.leastInt x = false := by
  cases x with
  | nan => rfl
  | infinite s => cases s <;> rfl
  | finite s m e => cases hq

lemma toRat?_wholePart (hx : x.IsBinary64) (hq : x.toRat? = some q) (hroom : hasRoom Column.leastInt x = true) :
    (wholePart Column.leastInt x).toRat? = some (towardZero q : ℚ) := by
  rw [wholePart, if_pos hroom]
  exact Double.toRat?_trunc hx hq

lemma truncatedValue_of_toRat? (hq : x.toRat? = some q) :
    truncatedValue (.double x) = if fitsSigned 64 (towardZero q) then .int (towardZero q) else .notAvailable := by
  rw [truncatedValue, truncated?, Double.truncate?_eq, hq, Option.map_some, Option.filter_some]
  split_ifs <;> rfl

/-- What a caster makes of a floating-point number is what is left of it. -/
lemma wholeValue_double (hx : x.IsBinary64) : wholeValue Column.leastInt (.double x) = truncatedValue (.double x) := by
  cases hq : x.toRat? with
  | none =>
    rw [wholeValue, truncatedValue, truncated?, Double.truncate?_eq, hq, hasRoom_of_toRat?_eq_none hq]
    rfl
  | some q =>
    rw [wholeValue, truncatedValue_of_toRat? hq]
    have hroom := hasRoom_of_toRat? hx hq
    cases hfits : fitsSigned 64 (towardZero q) with
    | false => simp [hroom, hfits]
    | true =>
      have hpart := toRat?_wholePart hx hq (hroom.trans hfits)
      have hint : asInt64 (wholePart Column.leastInt x) = towardZero q := by
        simp [asInt64, Double.truncate?_eq, hpart, towardZero_intCast, hfits]
      simp [hroom, hfits, hint]

/-- **Numbers that are cut off.** The test of the range and the comparison with the part before the point find the
floating-point numbers without an equal integer of eight bytes. -/
theorem isCut_double (hx : x.IsBinary64) : isCut Column.leastInt (.double x) = (Value.double x).isLost .integer := by
  cases hq : x.toRat? with
  | none =>
    cases x with
    | nan => rfl
    | infinite s => cases s <;> rfl
    | finite s m e => cases hq
  | some q =>
    have hdefined : x.isNan = false := by
      cases x with
      | nan => cases hq
      | _ => rfl
    have hmeaning : (Value.double x).meaning? = some (.number (.finite q)) := by
      simp only [meaning?, quantity?, (x.quantity_eq_finite_iff q).2 hq]
    have hm : (Value.double x).isMissing = false := hdefined
    have hlost : (Value.double x).isLost .integer = !(Value.double x).same (truncatedValue (.double x)) := by
      rw [isLost, hm, asNumber, hm]
      rfl
    have hsame : ∀ w : Value, (Value.double x).same w = decide (w.meaning? = some (.number (.finite q))) := by
      intro w
      rw [Bool.eq_iff_iff, same_iff_of_meaning? hmeaning, decide_eq_true_eq]
    rw [hlost, hsame, truncatedValue_of_toRat? hq, isCut, hdefined, hasRoom_of_toRat? hx hq]
    cases hfits : fitsSigned 64 (towardZero q) with
    | false =>
      -- what does not fit is replaced by a missing value, which nothing is equal to
      simp [meaning?, quantity?, momentOf?]
    | true =>
      have hpart := toRat?_wholePart hx hq ((hasRoom_of_toRat? hx hq).trans hfits)
      rw [Double.same_of_toRat? hpart hq]
      simp [meaning?, quantity?]

end Whole

lemma toInt_double {x : Double} {q : ℚ} (h : x.quantity = .finite q) :
    (Value.double x).toInt = .ok (towardZero q) := by
  cases x with
  | finite s m e =>
    cases h
    exact congrArg Except.ok (tdiv_eq_towardZero _)
  | _ => cases h

/-- **Numbers that are rounded.** Within the bounds of the floating-point numbers no integer is, and beyond them a number
that has the same integer part is that integer. -/
theorem isRounded_int {n : Int} (h : fitsSigned 64 n = true) :
    isRounded (-(Nat.pow 2 53 : Int), (Nat.pow 2 53 : Int)) (.int n) (.double (Double.ofInt n)) =
      .ok ((Value.int n).isLost .double) := by
  have hbound : n.natAbs ≤ 2 ^ 63 := by
    have := (fitsSigned_iff n).1 h
    omega
  obtain ⟨q, hq⟩ : ∃ q, (Double.ofInt n).toRat? = some q := by
    cases hn : Double.ofInt n with
    | nan => simpa [hn, Double.isNan] using Double.isNan_ofInt n
    | infinite s => exact absurd hn (Double.ofInt_ne_infinite hbound s)
    | finite s m e => exact ⟨_, rfl⟩
  have hquantity : (Double.ofInt n).quantity = .finite q := ((Double.ofInt n).quantity_eq_finite_iff q).2 hq
  have hlost : (Value.int n).isLost .double = !decide (q = n) := by
    have hmeaning : (Value.int n).meaning? = some (.number (.finite n)) := rfl
    have hsame : (Value.int n).same (.double (Double.ofInt n)) = decide (q = n) := by
      rw [Bool.eq_iff_iff, same_iff_of_meaning? hmeaning, decide_eq_true_eq]
      simp [meaning?, quantity?, hquantity]
    exact congrArg (!·) hsame
  rw [isRounded, hlost]
  by_cases hsmall : n.natAbs ≤ 2 ^ 53
  · have hwithin : isBeyond (-(Nat.pow 2 53 : Int), (Nat.pow 2 53 : Int)) (.int n) = false := by
      simp only [isBeyond, Nat.pow_eq, Bool.or_eq_false_iff, decide_eq_false_iff_not]
      omega
    have hexact : q = n := Option.some.inj (hq.symm.trans (Double.toRat?_ofInt hsmall))
    rw [if_neg (by rw [hwithin]; decide), hexact, decide_eq_true rfl]
    rfl
  · have hbeyond : isBeyond (-(Nat.pow 2 53 : Int), (Nat.pow 2 53 : Int)) (.int n) = true := by
      simp only [isBeyond, Nat.pow_eq, Bool.or_eq_true, decide_eq_true_eq]
      omega
    have hnew : (Value.double (Double.ofInt n)).toInt = .ok (towardZero q) := toInt_double hquantity
    have hold : (Value.int n).toInt = .ok n := congrArg Except.ok (Int.tdiv_one n)
    -- a number whose integer part is so large has no fraction to be lost
    have hwhole : towardZero q = n → q = n := by
      intro heq
      have hlarge : (2 : ℚ) ^ 53 ≤ |(towardZero q : ℚ)| := by
        rw [heq, ← Int.cast_abs, ← Nat.cast_natAbs]
        exact_mod_cast (not_le.1 hsmall).le
      rw [← heq, Double.towardZero_of_le (Double.isBinary64_ofInt n) hq (hlarge.trans (abs_towardZero_le q))]
    have hiff : towardZero q = n ↔ q = n := ⟨hwhole, fun heq => by rw [heq, towardZero_intCast]⟩
    have hflag : (towardZero q != n) = !decide (q = n) := by
      rw [bne, Bool.beq_eq_decide_eq, decide_eq_decide.2 hiff]
    rw [if_pos hbeyond, hnew, hold, ← hflag]
    rfl

lemma isRounded_asNumber {x : Value} (hx : Dtype.int64.Holds x) :
    isRounded (-(Nat.pow 2 53 : Int), (Nat.pow 2 53 : Int)) x (x.asNumber .double) = .ok (x.isLost .double) := by
  cases hx with
  | noInt => rfl
  | int fits => exact isRounded_int fits

end Caster

namespace Registry

open Value Column

variable {v : TypedVector} {t : VectorType}

/-- The vector of the numbers that a number type has for the values of another vector. -/
def numbersAs (t : VectorType) (v : TypedVector) : TypedVector :=
  ⟨t, ⟨t.storage, v.values.map (asNumber t)⟩⟩

/-- The positions of values that a number type has no equal number for. -/
def lostPositions (t : VectorType) (v : TypedVector) : List Nat :=
  positionsOf (v.values.map (isLost t))

/-- A caster that yields the numbers of the target, and flags the values that differ from them. -/
lemma castTo_numbersAs {decompose : Bool} {name : String}
    {f : TypedVector → VectorType → Except Failure CasterOutput} (ht : t.IsStandard)
    (hroute : standard.route decompose v.type t = .direct (.plain name f))
    (hf : f v t = .ok (.result (numbersAs t v) (lostPositions t v))) :
    standard.castTo decompose v t = .ok ⟨numbersAs t v, sortedPositions (lostPositions t v)⟩ :=
  castTo_eq_ok ht hroute hf (by simp [size, TypedVector.size, TypedVector.values])

lemma lostPositions_eq_nil (h : ∀ x ∈ v.values, x.isLost t = false) : lostPositions t v = [] :=
  positionsOf_eq_nil h

/-- A number vector that has the target's type already. -/
lemma castTo_same_number {decompose : Bool} (hv : v.WellFormed) (ht : v.type.IsNumber) :
    standard.castTo decompose v v.type = .ok ⟨numbersAs v.type v, sortedPositions (lostPositions v.type v)⟩ := by
  obtain ⟨hdtype, hheld⟩ := hv.number_stored ht
  have hkept : ∀ x ∈ v.values, x.asNumber v.type = x ∧ x.isLost v.type = false := by
    intro x hx
    exact asNumber_of_holds ht (hheld x hx)
  have hmap : v.values.map (asNumber v.type) = v.values :=
    (List.map_congr_left fun x hx => (hkept x hx).1).trans (List.map_id _)
  have hcolumn : numbersAs v.type v = ⟨v.type, v.column⟩ := by
    rw [numbersAs, hmap, ← hdtype]
    rfl
  have hpayload : samePayload v.type v.type = true := by
    generalize v.type = s at ht
    cases ht <;> rfl
  rw [castTo_unchanged (VectorType.same_refl ht.isStandard) hpayload, hcolumn,
    lostPositions_eq_nil fun x hx => (hkept x hx).2, sortedPositions_nil]

/-- A conversion of storage that yields the numbers of the target, all of them equal to their sources. -/
lemma castTo_converted {decompose : Bool} {name : String} (ht : t.IsNumber)
    (hroute : standard.route decompose v.type t = .direct (.converted name))
    (hconvert : v.column.convert t.storage = .ok ⟨t.storage, v.values.map (asNumber t)⟩)
    (hkept : ∀ x ∈ v.values, x.isLost t = false) :
    standard.castTo decompose v t = .ok ⟨numbersAs t v, sortedPositions (lostPositions t v)⟩ := by
  refine castTo_numbersAs ht.isStandard hroute ?_
  rw [hconvert, lostPositions_eq_nil hkept]
  rfl

/-- Integers and floating-point numbers as truth values. -/
lemma castTo_toLogical {decompose : Bool} {name : String} (hv : v.WellFormed)
    (hs : v.type = .integer ∨ v.type = .double)
    (hroute : standard.route decompose v.type .logical = .direct (.toLogical name)) :
    standard.castTo decompose v .logical =
      .ok ⟨numbersAs .logical v, sortedPositions (lostPositions .logical v)⟩ := by
  refine castTo_numbersAs .logical hroute ?_
  have hnumber : v.type.IsNumber := by
    rcases hs with hs | hs <;> rw [hs] <;> constructor
  have hlost : ∀ x ∈ v.values, (!x.isMissing && x.bit?.isNone) = x.isLost .logical := by
    intro x hx
    have hheld := (hv.number_stored hnumber).2 x hx
    rcases hs with hs | hs <;> rw [hs] at hheld
    · cases hheld with
      | noInt => rfl
      | int fits => exact (isLost_logical rfl rfl).symm
    · cases hheld with
      | @double d binary =>
        cases d with
        | nan => rfl
        | infinite s => exact (isLost_logical rfl rfl).symm
        | finite s m e => exact (isLost_logical rfl rfl).symm
  rw [lostPositions, ← List.map_congr_left hlost]
  rfl

lemma castTo_integerToDouble {decompose : Bool} (hv : v.WellFormed) (hs : v.type = .integer) :
    standard.castTo decompose v .double =
      .ok ⟨numbersAs .double v, sortedPositions (lostPositions .double v)⟩ := by
  have hdtype : v.column.dtype = .int64 := by
    rw [(hv.number_stored (hs ▸ .integer)).1, hs]
    rfl
  have hroute : standard.route decompose v.type .double = .direct .integerToDouble := by
    refine route_direct hv.standard .double ?_ ?_
    · rw [hs]
      rfl
    · rw [hs]
      rfl
  refine castTo_numbersAs .double hroute ?_
  have hconvert : v.column.convert (VectorType.storage .double) = .ok ⟨.float64, v.values.map (asNumber .double)⟩ :=
    convert_float64 (Or.inr hdtype) hv.held
  rw [hconvert]
  have hflags : (v.values.zip (v.values.map (asNumber .double))).mapM (fun p =>
      Caster.isRounded (-(Nat.pow 2 53 : Int), (Nat.pow 2 53 : Int)) p.1 p.2) =
      .ok (v.values.map (isLost .double)) := by
    rw [mapM_zip_map]
    refine mapM_eq_ok_map ?_
    intro x hx
    exact Caster.isRounded_asNumber (hdtype ▸ hv.held x hx)
  have hbounds : Caster.boundsOf .double "max" = .ok (-(Nat.pow 2 53 : Int), (Nat.pow 2 53 : Int)) := rfl
  simp only [hbounds, hflags, bind, Except.bind]
  rfl

lemma castTo_doubleToInteger {decompose : Bool} (hv : v.WellFormed) (hs : v.type = .double) :
    standard.castTo decompose v .integer =
      .ok ⟨numbersAs .integer v, sortedPositions (lostPositions .integer v)⟩ := by
  refine castTo_numbersAs .integer (route_direct hv.standard .integer (by rw [hs]; rfl) (by rw [hs]; rfl)) ?_
  have hdtype : v.column.dtype = .float64 := by
    rw [(hv.number_stored (hs ▸ .double)).1, hs]
    rfl
  have hconvert : v.column.convert .float64 = .ok v.column := convert_of_same (by rw [hdtype]; rfl)
  have hvalues : v.values.map (Caster.wholeValue Column.leastInt) = v.values.map (asNumber .integer) := by
    refine List.map_congr_left ?_
    intro x hx
    have hheld := hv.held x hx
    rw [hdtype] at hheld
    cases hheld with
    | @double d binary =>
      rw [Caster.wholeValue_double binary]
      cases d <;> rfl
  have hflags : v.values.map (Caster.isCut Column.leastInt) = v.values.map (isLost .integer) := by
    refine List.map_congr_left ?_
    intro x hx
    have hheld := hv.held x hx
    rw [hdtype] at hheld
    cases hheld with
    | double binary => exact Caster.isCut_double binary
  have hbounds : Caster.boundsOf .integer "min" = .ok (Column.leastInt, (Nat.pow 2 63 : Int) - 1) := rfl
  rw [hconvert, hbounds, numbersAs, lostPositions, ← hvalues, ← hflags]
  rfl

/-- **Casts between number types.** A number vector becomes the vector of the numbers that the target has for its
values, and the positions at which these differ are flagged. -/
theorem castTo_number (decompose : Bool) (hv : v.WellFormed) (hs : v.type.IsNumber) (ht : t.IsNumber) :
    standard.castTo decompose v t = .ok ⟨numbersAs t v, sortedPositions (lostPositions t v)⟩ := by
  by_cases hst : v.type = t
  · subst hst
    exact castTo_same_number hv hs
  obtain ⟨hdtype, hheld⟩ := hv.number_stored hs
  have hstandard := hv.standard
  generalize hs' : v.type = s at *
  cases hs with
  | logical =>
    have hkept : ∀ x ∈ v.values, x.isLost t = false := by
      intro x hx
      cases hheld x hx with
      | noTruth => rfl
      | truth b => exact isLost_bool ht b
    cases ht with
    | logical => exact absurd rfl hst
    | integer =>
      exact castTo_converted .integer (hs' ▸ route_direct .logical .integer rfl rfl)
        (convert_int64_of_boolean hdtype hheld) hkept
    | double =>
      have hconvert := convert_float64 (Or.inl hdtype) hv.held
      exact castTo_converted .double (hs' ▸ route_direct .logical .double rfl rfl) hconvert hkept
  | integer =>
    cases ht with
    | logical => exact castTo_toLogical hv (Or.inl hs') (hs' ▸ route_direct .integer .logical rfl rfl)
    | integer => exact absurd rfl hst
    | double => exact castTo_integerToDouble hv hs'
  | double =>
    cases ht with
    | logical => exact castTo_toLogical hv (Or.inr hs') (hs' ▸ route_direct .double .logical rfl rfl)
    | integer => exact castTo_doubleToInteger hv hs'
    | double => exact absurd rfl hst

end Registry

end Coercion
