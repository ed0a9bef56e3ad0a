import Coercion.Zone.Basic
import Mathlib

/-!
The names of the zone database. Each of them is a plain word that reads as no offset, and no two of them are the same
but for the case of their letters. So every name is found again under its own spelling, and it stands for its own zone.
-/

namespace Coercion.Zone

/-! ### Numbers with different remainders -/

/-- Whether some numbers leave remainders that differ from each other and from those that are marked. -/
def freshRemainders (m : Nat) : Nat → List Nat → Bool
  | _, [] => true
  | marks, n :: ns => !marks.testBit (n % m) && freshRemainders m (marks ||| 1 <<< (n % m)) ns

lemma nodup_of_freshRemainders {m marks : Nat} {ns : List Nat} (h : freshRemainders m marks ns = true) :
    (∀ n ∈ ns, marks.testBit (n % m) = false) ∧ ns.Nodup := by
  induction ns generalizing marks with
  | nil => exact ⟨by simp, .nil⟩
  | cons n ns ih =>
    simp only [freshRemainders, Bool.and_eq_true, Bool.not_eq_true'] at h
    obtain ⟨hfresh, hnodup⟩ := ih h.2
    simp only [Nat.testBit_or, Bool.or_eq_false_iff] at hfresh
    constructor
    · intro k hk
      rcases List.mem_cons.1 hk with rfl | hk
      · exact h.1
      · exact (hfresh k hk).1
    · -- the remainder of the first number is marked, so the number does not come again
      refine List.nodup_cons.2 ⟨?_, hnodup⟩
      intro hn
      simpa [Nat.one_shiftLeft] using (hfresh n hn).2

/-! ### Spellings -/

/-- The characters that names are spelled with. -/
def isNameChar (c : Char) : Bool :=
  c.isAlphanum || c == '+' || c == '-' || c == '/' || c == '_'

/-- What holds of the spelling of every name. -/
structure PlainName (cs : List Char) : Prop where
  /-- A name begins with a letter. -/
  letter : cs.head?.any Char.isAlpha = true
  chars : cs.all isNameChar = true
  /-- No sign is spelled out. -/
  signs : replaceWord ['_', 'm', 'i', 'n', 'u', 's', '_'] '-' 0
    (replaceWord ['_', 'p', 'l', 'u', 's', '_'] '+' 0 cs) = cs
  /-- Only universal time has a name that begins like the one of universal time. -/
  universal : (cs.map Char.toUpper).take 3 = ['U', 'T', 'C'] → cs = ['U', 'T', 'C']

instance : DecidablePred PlainName := fun cs =>
  decidable_of_iff (cs.head?.any Char.isAlpha = true ∧ cs.all isNameChar = true ∧
    replaceWord ['_', 'm', 'i', 'n', 'u', 's', '_'] '-' 0 (replaceWord ['_', 'p', 'l', 'u', 's', '_'] '+' 0 cs) = cs ∧
    ((cs.map Char.toUpper).take 3 = ['U', 'T', 'C'] → cs = ['U', 'T', 'C']))
    ⟨fun h => ⟨h.1, h.2.1, h.2.2.1, h.2.2.2⟩, fun h => ⟨h.letter, h.chars, h.signs, h.universal⟩⟩

/-- A number that stands for a spelling, whatever the case of its letters. -/
def caselessCode (cs : List Char) : Nat :=
  cs.foldl (fun n c => 128 * n + c.toLower.toNat) 0

/-- The spelling of the name for a number of hours on one side of universal time. -/
def hoursName (sign : Char) (hours : Nat) : List Char :=
  ['E', 't', 'c', '/', 'G', 'M', 'T', sign] ++ Nat.toDigits 10 hours

/-- Texts beside the characters that they are made of. -/
inductive SpelledBy : List String → List (List Char) → Prop where
  | nil : SpelledBy [] []
  | cons {cs : List Char} {texts : List String} {css : List (List Char)} (rest : SpelledBy texts css) :
    SpelledBy (String.ofList cs :: texts) (cs :: css)

lemma SpelledBy.map_toList {texts : List String} {css : List (List Char)} (h : SpelledBy texts css) :
    texts.map String.toList = css := by
  induction h with
  | nil => rfl
  | cons _ ih => rw [List.map_cons, String.toList_ofList, ih]

set_option maxRecDepth 8000 in
/-- The names one by one. Their codes are told apart by the remainders. -/
lemma exists_spellings : ∃ css, SpelledBy names css ∧ (∀ cs ∈ css, PlainName cs) ∧
    freshRemainders 24271 0 (css.map caselessCode) = true ∧ ['U', 'T', 'C'] ∈ css ∧
    (∀ hours < 15, hoursName '-' hours ∈ css) ∧ ∀ hours < 13, hoursName '+' hours ∈ css := by
  simp only [names, table, links, List.map_cons, List.map_nil, List.cons_append, List.nil_append]
  apply Exists.intro
  apply And.intro
  case h.left => repeat (first | exact .nil | apply SpelledBy.cons)
  case h.right => decide +kernel

/-! ### Names as texts -/

variable {m n : String}

/-- The spelling of a name is plain. -/
lemma plainName_of_isName (h : isName n = true) : PlainName n.toList := by
  obtain ⟨css, hspelled, hplain, -⟩ := exists_spellings
  refine hplain _ ?_
  rw [← hspelled.map_toList]
  exact List.mem_map_of_mem (List.contains_iff_mem.1 h)

/-- What is not spelled like a name is none. -/
lemma isName_eq_false (h : ¬ PlainName n.toList) : isName n = false :=
  Bool.eq_false_iff.2 fun hname => h (plainName_of_isName hname)

/-- No name stands in the database twice. -/
lemma nodup_names : names.Nodup := by
  obtain ⟨css, hspelled, -, hfresh, -⟩ := exists_spellings
  have hcodes := (nodup_of_freshRemainders hfresh).2
  rw [← hspelled.map_toList, List.map_map] at hcodes
  exact hcodes.of_map

lemma isName_of_spelling {css : List (List Char)} {cs : List Char} (hspelled : SpelledBy names css) (h : cs ∈ css) :
    isName (String.ofList cs) = true := by
  rw [← hspelled.map_toList] at h
  obtain ⟨name, hname, rfl⟩ := List.mem_map.1 h
  rw [String.ofList_toList]
  exact List.contains_iff_mem.2 hname

lemma isName_utc : isName "UTC" = true := by
  obtain ⟨css, hspelled, -, -, hutc, -⟩ := exists_spellings
  exact isName_of_spelling hspelled hutc

/-- There are names for the hours from fourteen to the east to twelve to the west. -/
lemma isName_hours {sign : Char} {hours : Nat} (h : sign = '-' ∧ hours < 15 ∨ sign = '+' ∧ hours < 13) :
    isName (String.ofList (hoursName sign hours)) = true := by
  obtain ⟨css, hspelled, -, -, -, heast, hwest⟩ := exists_spellings
  refine isName_of_spelling hspelled ?_
  rcases h with ⟨rfl, h⟩ | ⟨rfl, h⟩
  · exact heast hours h
  · exact hwest hours h

lemma caselessCode_congr {cs ds : List Char} (h : cs.map Char.toLower = ds.map Char.toLower) :
    caselessCode cs = caselessCode ds := by
  have hcode : ∀ es : List Char, caselessCode es = (es.map Char.toLower).foldl (fun k c => 128 * k + c.toNat) 0 := by
    intro es
    rw [List.foldl_map]
    rfl
  rw [hcode, hcode, h]

/-- Names that are the same but for the case of their letters are the same. -/
theorem eq_of_map_toLower (hm : isName m = true) (hn : isName n = true) (h : m.map Char.toLower = n.map Char.toLower) :
    m = n := by
  obtain ⟨css, hspelled, -, hfresh, -⟩ := exists_spellings
  have hnodup := (nodup_of_freshRemainders hfresh).2
  rw [← hspelled.map_toList, List.map_map] at hnodup
  refine List.inj_on_of_nodup_map hnodup (List.contains_iff_mem.1 hm) (List.contains_iff_mem.1 hn) ?_
  refine caselessCode_congr ?_
  rw [← String.toList_map, ← String.toList_map, h]

/-- The range of the characters of names. -/
lemma bounds_of_isNameChar {c : Char} (h : isNameChar c = true) : 43 ≤ c.toNat ∧ c.toNat ≤ 122 := by
  simp only [isNameChar, Char.isAlphanum, Char.isAlpha, Char.isUpper, Char.isLower, Char.isDigit, Bool.or_eq_true,
    Bool.and_eq_true, decide_eq_true_eq, beq_iff_eq, ge_iff_le, UInt32.le_iff_toNat_le] at h
  rcases h with ((((hletter | hdigit) | rfl) | rfl) | rfl) | rfl
  · rcases hletter with hupper | hlower
    · exact ⟨le_trans (by decide) hupper.1, le_trans hupper.2 (by decide)⟩
    · exact ⟨le_trans (by decide) hlower.1, le_trans hlower.2 (by decide)⟩
  · exact ⟨le_trans (by decide) hdigit.1, le_trans hdigit.2 (by decide)⟩
  all_goals decide

/-- A name of the database is found under its own spelling. -/
theorem findName_of_isName (h : isName n = true) : findName n = some n := by
  have hplain := plainName_of_isName h
  have hascii : n.toList.all (·.toNat < 128) = true := by
    rw [List.all_eq_true]
    intro c hc
    have hname := List.all_eq_true.1 hplain.chars c hc
    have hbound := (bounds_of_isNameChar hname).2
    exact decide_eq_true (lt_of_le_of_lt hbound (by decide))
  have hsigns : spellSigns n = n := by
    rw [spellSigns, hplain.signs, String.ofList_toList]
  have hmem : n ∈ names := List.contains_iff_mem.1 h
  rw [findName, if_pos hascii, hsigns]
  -- there is a name with these letters, and it can be no other
  cases hfound : names.find? fun k => k.map Char.toLower == n.map Char.toLower with
  | none =>
    have := List.find?_eq_none.1 hfound n hmem
    simp at this
  | some k =>
    have hk : isName k = true := List.contains_iff_mem.2 (List.mem_of_find?_eq_some hfound)
    have hsame := List.find?_some hfound
    rw [eq_of_map_toLower hk h (beq_iff_eq.1 hsame)]

/-- No name reads as an offset. -/
lemma readOffset_of_isName (h : isName n = true) : readOffset n = none := by
  have hplain := plainName_of_isName h
  rw [readOffset]
  by_cases huniversal : n.toList.take 3 = ['U', 'T', 'C']
  · have hutc : n.toList = ['U', 'T', 'C'] := by
      refine hplain.universal ?_
      rw [← List.map_take, huniversal]
      decide
    simp [hutc]
  · rw [if_neg huniversal]
    have hletter := hplain.letter
    cases hn : n.toList with
    | nil => rfl
    | cons c cs =>
      -- a name begins with a letter, which is no sign
      rw [hn] at hletter
      change c.isAlpha = true at hletter
      have hplus : c ≠ '+' := by
        rintro rfl
        exact absurd hletter (by decide)
      have hminus : c ≠ '-' := by
        rintro rfl
        exact absurd hletter (by decide)
      simp [hplus, hminus]

/-- **Names stand for their zones.** -/
theorem ofText_of_isName (h : isName n = true) : ofText n = .ok (.named n) := by
  rw [ofText]
  split_ifs with hupper
  · have hutc : n = "UTC" := by
      rw [← String.toList_inj]
      refine (plainName_of_isName h).universal ?_
      rw [← String.toList_map, hupper]
      decide
    rw [hutc]
    rfl
  · rw [readOffset_of_isName h, findName_of_isName h]

end Coercion.Zone
