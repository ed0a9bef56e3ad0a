import Coercion.Proofs.Zone.Names
import Mathlib.Tactic

/-!
Zones in normal form: the names of the database, and the fixed offsets of less than a day that have no name there. They
are what every zone is brought to that a caller may give, and each of them can be read again from its text.
-/

namespace Coercion

/-- Whether a zone that carries a name of its own has it from the database. -/
def ZoneSource.Known : ZoneSource → Prop
  | .entry name | .keyed name => Zone.isName name = true
  | _ => True

namespace Zone

/-- The zones in normal form. -/
inductive IsNormal : Zone → Prop where
  | named {name : String} (known : isName name = true) : IsNormal (.named name)
  /-- An offset of less than a day that is no whole number of hours within the range of the database. -/
  | fixed {m : Int} (range : m.natAbs < 1440) (nameless : ¬ (m % 60 = 0 ∧ -12 ≤ m / 60 ∧ m / 60 ≤ 14)) :
    IsNormal (.fixed m)

variable {z : Zone} {m : Int}

/-! ### Normal forms -/

/-- Whole hours have the names that are spelled with their number. -/
lemma eq_hoursName (sign : Char) (text : String) (hours : Nat) (h : text.toList = [sign]) :
    "Etc/GMT" ++ text ++ toString hours = String.ofList (hoursName sign hours) := by
  rw [← String.toList_inj]
  simp [hoursName, String.toList_append, h]

/-- An offset is brought to normal form. -/
lemma isNormal_ofMinutes (h : ofMinutes m = .ok z) : z.IsNormal := by
  rw [ofMinutes] at h
  split_ifs at h with hzero hnamed hfar
  · cases h
    exact .named isName_utc
  · simp only at h
    cases h
    refine .named ?_
    split_ifs with hwest
    · rw [eq_hoursName '+' "+" _ rfl]
      exact isName_hours (Or.inr ⟨rfl, by omega⟩)
    · rw [eq_hoursName '-' "-" _ rfl]
      exact isName_hours (Or.inl ⟨rfl, by omega⟩)
  · cases h
    exact .fixed (by omega) hnamed

lemma ofMinutes_of_nameless (range : m.natAbs < 1440) (nameless : ¬ (m % 60 = 0 ∧ -12 ≤ m / 60 ∧ m / 60 ≤ 14)) :
    ofMinutes m = .ok (.fixed m) := by
  have hzero : m ≠ 0 := by
    rintro rfl
    exact nameless (by decide)
  rw [ofMinutes, if_neg hzero, if_neg nameless, if_neg (by omega)]

lemma isNormal_ofOffset {micros : Int} (h : ofOffset micros = .ok z) : z.IsNormal := by
  rw [ofOffset] at h
  split_ifs at h
  exact isNormal_ofMinutes h

lemma isNormal_ofText {s : String} (h : ofText s = .ok z) : z.IsNormal := by
  rw [ofText] at h
  split_ifs at h
  · cases h
    exact .named isName_utc
  · cases hoffset : readOffset s with
    | some m =>
      rw [hoffset] at h
      exact isNormal_ofMinutes h
    | none =>
      rw [hoffset] at h
      cases hname : findName s with
      | some name =>
        rw [hname] at h
        cases h
        rw [findName] at hname
        split_ifs at hname
        exact .named (List.contains_iff_mem.2 (List.mem_of_find?_eq_some hname))
      | none =>
        rw [hname] at h
        cases h

/-- **Normal forms.** What a zone is brought to is in normal form. -/
theorem isNormal_normalize {source : ZoneSource} (hknown : source.Known) (h : normalize source = .ok z) :
    z.IsNormal := by
  cases source with
  | text s => exact isNormal_ofText h
  | entry name | keyed name =>
    cases h
    exact .named hknown
  | universal =>
    cases h
    exact .named isName_utc
  | offset seconds => exact isNormal_ofOffset h
  | labelled name seconds =>
    rw [normalize] at h
    split_ifs at h with hname
    · cases h
      exact .named hname
    · exact isNormal_ofOffset h
  | minutes m => exact isNormal_ofMinutes h
  | unplaced | invalid => cases h

/-! ### Texts of offsets -/

/-- A number below a hundred, as its two digits. -/
lemma toList_paddedNat {k : Nat} (hk : k < 100) :
    (paddedNat 2 k).toList = [(k / 10).digitChar, (k % 10).digitChar] := by
  have hdigits : (toString k).toList = Nat.toDigits 10 k := Nat.toList_repr
  rw [paddedNat, String.toList_append, String.toList_ofList, ← String.length_toList, hdigits]
  by_cases hten : 10 ≤ k
  · rw [Nat.toDigits_of_base_le (by omega) hten, Nat.toDigits_of_lt_base (by omega)]
    rfl
  · rw [Nat.toDigits_of_lt_base (by omega), Nat.div_eq_of_lt (by omega), Nat.mod_eq_of_lt (by omega)]
    rfl

lemma digitValue?_digitChar {d : Nat} (hd : d < 10) : Text.digitValue? d.digitChar = some d := by
  interval_cases d <;> rfl

/-- Two digits are read as the number that they were written for. -/
lemma takeTwo_paddedNat {k : Nat} (hk : k < 100) (rest : List Char) :
    takeTwo ((paddedNat 2 k).toList ++ rest) = some (k, rest) := by
  rw [toList_paddedNat hk]
  simp only [takeTwo, List.cons_append, List.nil_append, Text.readDigits, List.foldl_cons, List.foldl_nil,
    digitValue?_digitChar (show k / 10 < 10 by omega), digitValue?_digitChar (show k % 10 < 10 by omega)]
  simp
  omega

/-- The text of an offset of whole minutes. -/
lemma toList_offsetText (m : Int) : (offsetText ":" (60 * m)).toList =
    (if m < 0 then '-' else '+') :: ((paddedNat 2 (m.natAbs / 60)).toList ++
      ':' :: ((paddedNat 2 (m.natAbs % 60)).toList ++ [])) := by
  have hhours : (60 * m).natAbs / 3600 = m.natAbs / 60 := by omega
  have hminutes : (60 * m).natAbs / 60 % 60 = m.natAbs % 60 := by omega
  have hseconds : (60 * m).natAbs % 60 = 0 := by omega
  have hsign : 60 * m < 0 ↔ m < 0 := by omega
  rw [offsetText]
  simp only [hhours, hminutes, hseconds, hsign, if_true, String.toList_append]
  split_ifs <;> simp

/-- An offset of less than a day is read from its text. -/
lemma readOffset_offsetText (h : m.natAbs < 1440) : readOffset (offsetText ":" (60 * m)) = some m := by
  have hhours : m.natAbs / 60 < 100 := by omega
  have hminutes : m.natAbs % 60 < 100 := by omega
  have htotal : 60 * (m.natAbs / 60) + m.natAbs % 60 = m.natAbs := by omega
  rw [readOffset, toList_offsetText]
  by_cases hsign : m < 0
  all_goals
    simp only [hsign, if_true, if_false, List.take_succ_cons, List.cons.injEq, Char.reduceEq, false_and,
      takeTwo_paddedNat hhours, takeTwo_paddedNat hminutes, Option.bind_eq_bind, Option.bind_some, true_or, htotal,
      Bool.false_eq_true]
    congr 1
    omega

/-- **Zones in normal form are read from their texts.** -/
theorem ofText_text (hz : z.IsNormal) : ofText z.text = .ok z := by
  cases hz with
  | named known => exact ofText_of_isName known
  | @fixed m range nameless =>
    have hnot : (offsetText ":" (60 * m)).map Char.toUpper ≠ "UTC" := by
      rw [Ne, ← String.toList_inj, String.toList_map, toList_offsetText]
      split_ifs <;> simp
    rw [text, ofText, if_neg hnot, readOffset_offsetText range]
    exact ofMinutes_of_nameless range nameless

end Zone

end Coercion
