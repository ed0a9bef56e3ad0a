import Coercion.Proofs.Cast.Detour
import Coercion.Proofs.Combine.Levels
import Coercion.Proofs.Unify.Domain

/-!
Numbers and texts in the types of their domain. Each value is placed in a type by itself: a number as the number that the
type has for it, a text as the text that it shows or as the level that it is equal to. To place a value in a type and then
in one above comes to the same as to place it there at once, and a cast to a type above places all values of a vector.
-/

namespace Coercion

open VectorType Registry Column

/-- The vectors of a domain. The levels of a categorical are texts in storage too. -/
structure TypedVector.IsOf (d : Domain) (v : TypedVector) : Prop where
  wellFormed : v.WellFormed
  type : v.type.IsOf d
  stored : ∀ levels, v.column.dtype = .category (some levels) → ∀ l ∈ levels, l.isText = true

variable {d : Domain} {s t u : VectorType} {v : TypedVector} {x y : Value} {levels : List Value}

/-! ### Values in a type of their domain -/

/-- What becomes of a number or a text in a vector of a type. -/
def placed (t : VectorType) (x : Value) : Value :=
  match t with
  | .character => shownText x
  | .categorical levels => levelIn (storedLevels levels) x
  | t => x.asNumber t

/-- The vector of a type in which some values are placed. -/
def holding (t : VectorType) (xs : List Value) : TypedVector :=
  ⟨t, ⟨t.storage, xs.map (placed t)⟩⟩

lemma placed_number (ht : t.IsNumber) (x : Value) : placed t x = x.asNumber t := by
  cases ht <;> rfl

namespace TypedVector.IsOf

lemma holdsTexts (hv : v.IsOf .texts) : HoldsTexts v := by
  intro x hx
  have hheld := hv.wellFormed.held x hx
  have htype := hv.type
  generalize hs : v.type = s at htype
  cases htype with
  | null =>
    rw [hv.wellFormed.values_of_null hs] at hx
    cases hx
  | character =>
    rw [hv.wellFormed.dtype_eq (by rw [hs]; exact fun _ => VectorType.noConfusion), hs] at hheld
    cases hheld with
    | noText => exact .inl rfl
    | text => exact .inr rfl
  | levels =>
    have hstored := hv.wellFormed.stored
    rw [hs] at hstored
    obtain ⟨stored, hdtype, -⟩ := Dtype.eq_category_of_same hstored
    rw [hdtype] at hheld
    cases hheld with
    | noLevel => exact .inl rfl
    | level hmem => exact .inr (hv.stored stored hdtype x hmem)

end TypedVector.IsOf

/-- Texts that are equal are shown alike. -/
lemma shownText_congr (hx : x.isText = true) (hy : y.isText = true) (h : y.same x = true) : shownText y = shownText x := by
  obtain ⟨r, hr, hrtext, -, hrm⟩ := Value.text_of_isText hx
  obtain ⟨s, hs, hstext, -, hsm⟩ := Value.text_of_isText hy
  have hsays := (Value.same_iff_of_meaning? hs x).1 h
  rw [hr] at hsays
  cases hsays
  rw [shownText, shownText, hrm, hsm, hrtext, hstext]

/-- What is placed has no values if only the null type is below the type. -/
lemma not_mem_of_below_null (hv : v.WellFormed) (hbelow : v.type.Below .null) : x ∉ v.values := by
  rw [hv.values_of_null hbelow.eq_null]
  exact List.not_mem_nil

/-- A text of a vector becomes an equal text in every type of texts above that of the vector. -/
lemma placed_text (hv : v.IsOf .texts) (hu : u.IsOf .texts) (hbelow : v.type.Below u) (hx : x ∈ v.values)
    (hm : x.isMissing = false) : (placed u x).isText = true ∧ (placed u x).same x = true := by
  have htext : x.isText = true := (hv.holdsTexts x hx).resolve_left (by rw [hm]; exact Bool.false_ne_true)
  have hof := hu
  cases hu with
  | null => exact absurd hx (not_mem_of_below_null hv.wellFormed hbelow)
  | character =>
    have hshown := (isText_shownText x).resolve_left (by rw [isMissing_shownText, hm]; exact Bool.false_ne_true)
    exact ⟨hshown, Value.same_symm (same_shownText htext)⟩
  | @levels ls legal texts =>
    have hown : storedLevels v.type.levels = v.type.levels.map storedLevel := by
      have htype := hv.type
      generalize v.type = s at htype
      cases htype with
      | levels legal texts => exact (IsOf.levels legal texts).isPure.storedLevels_eq
      | _ => rfl
    obtain ⟨l, hl, hlx⟩ := Engine.exists_level hv.wellFormed hbelow hown hof.isPure.storedLevels_eq hx hm
    have hsame : (levelIn (storedLevels ls) x).same x = true := same_levelIn hm hl hlx
    rcases levelIn_cases (storedLevels ls) x with hnone | ⟨hmem, -⟩
    · rw [← Value.same_isMissing hsame, hnone] at hm
      cases hm
    · exact ⟨hof.isText_storedLevels _ hmem, hsame⟩

/-- A missing value is placed as the marker of the type. -/
lemma placed_of_isMissing (ht : t.IsOf d) (h : x.isMissing = true) : placed t x = t.storage.missing := by
  cases ht with
  | null => exact Value.asNumber_of_isMissing _ h
  | unspecified => exact Value.asNumber_of_isMissing _ h
  | number ht => rw [placed_number ht, Value.asNumber_of_isMissing _ h]
  | character =>
    rw [placed, shownText, h]
    rfl
  | levels => exact levelIn_of_isMissing _ h

lemma isMissing_placed (ht : t.IsOf d) (h : x.isMissing = true) : (placed t x).isMissing = true := by
  rw [placed_of_isMissing ht h]
  exact isMissing_storageMissing ht.isStandard

/-- A value of a vector of numbers is missing, or in the storage of a number type. -/
lemma number_of_mem (hv : v.IsOf .numbers) (hx : x ∈ v.values) :
    x.isMissing = true ∨ v.type.IsNumber ∧ v.type.storage.Holds x := by
  have htype := hv.type
  generalize hs : v.type = s at htype
  cases htype with
  | null =>
    rw [hv.wellFormed.values_of_null hs] at hx
    cases hx
  | unspecified =>
    rw [hv.wellFormed.absent_of_unspecified hs hx]
    exact .inl rfl
  | number ht =>
    rw [← hs] at ht ⊢
    exact .inr ⟨ht, (hv.wellFormed.number_stored ht).2 x hx⟩

/-- Numbers are the same in two steps: from truth values to integers to floating-point numbers. -/
lemma asNumber_asNumber {l m n : Nat} (hs : s.rank? = some l) (hu : u.rank? = some m) (ht : t.rank? = some n)
    (hlm : l ≤ m) (hmn : m ≤ n) (hx : s.storage.Holds x) : (x.asNumber u).asNumber t = x.asNumber t := by
  have hnumber := isNumber_of_rank? hs
  by_cases hsu : s = u
  · subst hsu
    rw [(Value.asNumber_of_holds hnumber hx).1]
  by_cases hut : u = t
  · subst hut
    have hheld := holds_asNumber hnumber (isNumber_of_rank? hu) hx
    rw [(Value.asNumber_of_holds (isNumber_of_rank? hu) hheld).1]
  · -- what is left is the way from truth values through integers to floating-point numbers
    cases hnumber with
    | logical =>
      cases isNumber_of_rank? hu with
      | logical => exact absurd rfl hsu
      | integer =>
        cases isNumber_of_rank? ht with
        | logical => cases hu; cases ht; omega
        | integer => exact absurd rfl hut
        | double =>
          cases hx with
          | noTruth => rfl
          | truth b => rfl
      | double =>
        cases isNumber_of_rank? ht with
        | double => exact absurd rfl hut
        | _ => cases hu; cases ht; omega
    | integer =>
      cases isNumber_of_rank? hu with
      | integer => exact absurd rfl hsu
      | logical => cases hs; cases hu; omega
      | double =>
        cases isNumber_of_rank? ht with
        | double => exact absurd rfl hut
        | _ => cases hu; cases ht; omega
    | double =>
      cases isNumber_of_rank? hu with
      | double => exact absurd rfl hsu
      | _ => cases hs; cases hu; omega

/-- **Values on the way.** A value that is placed in a type above its own, and then in one above that, is placed there as
if it had been at once. -/
theorem placed_placed (hv : v.IsOf d) (hu : u.IsOf d) (ht : t.IsOf d) (hvu : v.type.Below u) (hut : u.Below t)
    (hx : x ∈ v.values) : placed t (placed u x) = placed t x := by
  cases hm : x.isMissing with
  | true => rw [placed_of_isMissing ht (isMissing_placed hu hm), placed_of_isMissing ht hm]
  | false =>
    cases d with
    | numbers =>
      obtain ⟨hnumber, hheld⟩ := (number_of_mem hv hx).resolve_left (by rw [hm]; exact Bool.false_ne_true)
      generalize v.type = s at hvu hnumber hheld
      cases hvu with
      | number hs hu' hlm =>
        cases hut with
        | number hu'' ht' hmn =>
          rw [hu'] at hu''
          cases hu''
          have htn := isNumber_of_rank? ht'
          rw [placed_number (isNumber_of_rank? hu'), placed_number htn, placed_number htn]
          exact asNumber_asNumber hs hu' ht' hlm hmn hheld
        | _ => cases hu'
      | _ => cases hnumber
    | texts =>
      obtain ⟨htext, hsame⟩ := placed_text hv hu hvu hx hm
      have hxtext : x.isText = true := (hv.holdsTexts x hx).resolve_left (by rw [hm]; exact Bool.false_ne_true)
      cases ht with
      | null =>
        have hbelow := hut.eq_null ▸ hvu
        exact absurd hx (not_mem_of_below_null hv.wellFormed hbelow)
      | character => exact shownText_congr hxtext htext hsame
      | levels => exact levelIn_congr _ hsame

/-! ### Casts -/

lemma holding_of_missing (ht : t.IsOf d) (hx : ∀ x ∈ v.values, x.isMissing = true) :
    holding t v.values = ⟨t, v.column.voided t.storage⟩ := by
  rw [holding, voided]
  have hvalues : v.values.map (placed t) = v.column.values.map fun _ => t.storage.missing :=
    List.map_congr_left fun x h => placed_of_isMissing ht (hx x h)
  rw [hvalues]

/-- A vector that its own type holds is left as it is. -/
lemma castTo_holding_self (hv : v.IsOf d) (hs : v.type = t) (hnot : ∀ levels, t ≠ .categorical levels)
    (hplaced : ∀ x ∈ v.values, placed t x = x) :
    Registry.standard.castTo true v t = .ok ⟨holding t v.values, []⟩ := by
  subst hs
  have hsame : v.type.same v.type = true := same_refl hv.wellFormed.standard
  have hheld : holding v.type v.values = v := by
    rw [holding, (List.map_congr_left hplaced).trans (List.map_id' _), ← hv.wellFormed.dtype_eq hnot]
    rfl
  rw [castTo_unchanged hsame (samePayload_of_same hv.wellFormed.standard hv.wellFormed.standard hnot hsame), hheld]

/-- **Casts within a domain.** A vector is cast to a type above its own by placing its values there. -/
theorem castTo_holding (hv : v.IsOf d) (ht : t.IsOf d) (hspec : t ≠ .unspecified) (hbelow : v.type.Below t)
    (hnot : ∀ levels, t ≠ .categorical levels) :
    ∃ lossy, Registry.standard.castTo true v t = .ok ⟨holding t v.values, lossy⟩ := by
  have hwell := hv.wellFormed
  have htype := hv.type
  generalize hs : v.type = s at hbelow htype
  cases hbelow with
  | null =>
    have hnone : ∀ x ∈ v.values, x.isMissing = true := by
      rw [hwell.values_of_null hs]
      rintro x ⟨⟩
    by_cases hnull : t = .null
    · refine ⟨[], castTo_holding_self hv (hs.trans hnull.symm) hnot ?_⟩
      rw [hwell.values_of_null hs]
      rintro x ⟨⟩
    · have hne : v.type.same t = false := by
        rw [hs]
        cases ht with
        | null => exact absurd rfl hnull
        | number ht => cases ht <;> rfl
        | _ => rfl
      rw [holding_of_missing ht hnone]
      exact ⟨[], castTo_fromNull hwell ht.isStandard hs hne⟩
  | unspecified hnull =>
    have hmissing : ∀ x ∈ v.values, x.isMissing = true := by
      intro x hx
      rw [hwell.absent_of_unspecified hs hx]
      rfl
    have hne : v.type.same t = false := by
      rw [hs]
      cases ht with
      | unspecified => exact absurd rfl hspec
      | number ht => cases ht <;> rfl
      | _ => rfl
    rw [holding_of_missing ht hmissing]
    exact ⟨[], castTo_fromUnspecified ht.isStandard hs hne hnull⟩
  | number hx hy hmn =>
    have hnumbers : numbersAs t v = holding t v.values := by
      rw [numbersAs, holding]
      congr 2
      refine List.map_congr_left ?_
      intro x hx
      exact (placed_number (isNumber_of_rank? hy) x).symm
    rw [← hnumbers]
    have hnumber := hs ▸ isNumber_of_rank? hx
    exact ⟨_, castTo_number true hwell hnumber (isNumber_of_rank? hy)⟩
  | character =>
    refine ⟨[], castTo_holding_self hv hs hnot ?_⟩
    intro x hx
    have hheld := hwell.held x hx
    rw [hwell.dtype_eq (by rw [hs]; exact hnot), hs] at hheld
    cases hheld <;> rfl
  | levels a =>
    cases ht with
    | character =>
      have hshown : v.values.map (fun x => if x.isMissing then .notAvailable else .text x.display) =
          v.values.map (placed .character) := by
        refine List.map_congr_left ?_
        intro x hx
        exact (shownText_eq_display (hv.holdsTexts x hx)).symm
      rw [holding, ← hshown]
      exact ⟨[], castTo_levelTexts hwell hs⟩
    | number ht => cases ht
  | categorical => exact absurd rfl (hnot _)
  | list | date | midnight | datetime | naive | universal =>
    cases htype with
    | number ht => cases ht

/-- A vector is cast to levels above its own, which carries its values over. -/
lemma castTo_levels (hv : v.IsOf d) (ht : (VectorType.categorical levels).IsOf d)
    (hbelow : v.type.Below (.categorical levels)) :
    ∃ r, Registry.standard.castTo true v (.categorical levels) = .ok r ∧ Carries levels v r := by
  have hwell := hv.wellFormed
  have harrives : Arrives v (.categorical levels) (Registry.standard.castTo true v (.categorical levels)) := by
    cases hsame : v.type.same (.categorical levels) with
    | true => exact arrives_unchanged hwell ht.isStandard hsame
    | false =>
      have hstandard := hwell.standard
      generalize hs : v.type = s at hbelow hstandard
      cases hbelow with
      | null => exact arrives_fromNull hwell ht.isStandard hs hsame
      | unspecified hnull => exact arrives_fromUnspecified ht.isStandard hs hsame hnull
      | number _ hy => cases hy
      | categorical =>
        have hroute : Registry.standard.route true v.type (.categorical levels) = .direct .recode := by
          rw [hs] at hsame ⊢
          exact route_direct hstandard ht.isStandard hsame rfl
        exact arrives_toLevels ht.isStandard.legalLevels (hwell.hashable_of_categorical hs) hroute
  obtain ⟨c, lossy, hr, -⟩ := harrives
  exact ⟨_, hr, castTo_categorical ht.isStandard.legalLevels hwell hbelow hr⟩

end Coercion
