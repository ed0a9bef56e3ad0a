import Coercion.Proofs.Cast.Clocks
import Coercion.Proofs.Cast.Exact
import Coercion.Proofs.Cast.RoundTrip
import Coercion.Proofs.Unify.Order
import Coercion.Proofs.Zone.Instants

/-!
Values that are kept by casts to a type above their own. Numbers become equal numbers, levels become equal levels or the
texts that they are shown as, dates become the midnights at which they begin, and datetimes keep their instants. Two
sorts of values are excepted, and these are the ones that are flagged: integers that no floating-point number is equal
to, and dates whose midnight the clock of the target does not show exactly once.

Levels are the exception to this: truth values alone do not match numbers alone, whether or not they are equal.
-/

namespace Coercion

open VectorType

/-- A value that a type has no place for, although its own type is below it. -/
inductive Excepted : VectorType → Value → Prop where
  /-- No floating-point number is equal to the integer. -/
  | inexact {n : Int} (none : ¬ ∃ d : Double, d.IsBinary64 ∧ (Value.int n).same (.double d) = true) :
    Excepted .double (.int n)
  /-- The clock of the zone skips the midnight of the day, or shows it twice. -/
  | misplaced {zone : Zone} {day : Int} (notOnce : ¬ ∃! t, zone.rules.reading t = Reading.ofDay day) :
    Excepted (.datetime (some zone)) (.period day)

/-- What is kept of a value in a type. -/
inductive Kept : VectorType → Value → Value → Prop where
  | missing {t : VectorType} {x y : Value} (source : x.isMissing = true) (result : y.isMissing = true) : Kept t x y
  | number {t : VectorType} {x y : Value} (ht : t.IsNumber) (equal : x.same y = true) : Kept t x y
  | text {x : Value} (present : x.isMissing = false) : Kept .character x (.text x.display)
  | level {levels : List Value} {x y : Value} (mem : y ∈ storedLevels levels) (equal : x.same y = true) :
    Kept (.categorical levels) x y
  | list (xs : List Value) : Kept .list (.list xs) (.list xs)
  | date (day : Int) : Kept .date (.period day) (.period day)
  /-- A date is the midnight at which it begins, read as universal time where there is no zone. -/
  | naiveMidnight (day : Int) : Kept (.datetime none) (.period day) (.instant (Reading.ofDay day) none)
  | midnight {zone : Zone} {day t : Int} (shown : zone.rules.reading t = Reading.ofDay day) :
    Kept (.datetime (some zone)) (.period day) (.instant t (some zone))
  | instant (t : Int) (source target : Option Zone) : Kept (.datetime target) (.instant t source) (.instant t target)

namespace Registry

open Column

variable {v : TypedVector} {t : VectorType} {r : CastResult} {decompose : Bool}

/-- Whether a cast keeps the values of a vector: exactly the values that are excepted are flagged, and all others are
kept. -/
structure Keeps (t : VectorType) (v : TypedVector) (r : CastResult) : Prop where
  flagged_iff : ∀ j, j ∈ r.lossy ↔ ∃ x, v.values[j]? = some x ∧ Excepted t x
  kept : ∀ (j : Nat) x y, v.values[j]? = some x → r.vector.values[j]? = some y → ¬ Excepted t x → Kept t x y

/-- A cast that replaces the values one by one, each of which is kept, and flags none of them. -/
lemma keeps_of_map {g : Value → Value} (hvalues : r.vector.values = v.values.map g) (hlossy : r.lossy = [])
    (h : ∀ x ∈ v.values, Kept t x (g x) ∧ ¬ Excepted t x) : Keeps t v r where
  flagged_iff j := by
    rw [hlossy]
    constructor
    · nofun
    · rintro ⟨x, hx, hexcepted⟩
      exact absurd hexcepted (h x (List.mem_of_getElem? hx)).2
  kept j x y hx hy _ := by
    rw [hvalues, List.getElem?_map, hx] at hy
    cases hy
    exact (h x (List.mem_of_getElem? hx)).1

/-- A vector that has the target's type already, unless it is a categorical. -/
lemma keeps_unchanged (hv : v.WellFormed) (ht : t.IsStandard) (hnot : ∀ levels, v.type ≠ .categorical levels)
    (hsame : v.type.same t = true) (hr : standard.castTo decompose v t = .ok r)
    (h : ∀ x ∈ v.values, Kept t x x ∧ ¬ Excepted t x) : Keeps t v r := by
  rw [castTo_unchanged hsame (samePayload_of_same hv.standard ht hnot hsame)] at hr
  cases hr
  exact keeps_of_map (List.map_id _).symm rfl h

/-! ### Vectors without values -/

lemma keeps_fromNull (hv : v.WellFormed) (ht : t.IsStandard) (hs : v.type = .null)
    (hr : standard.castTo decompose v t = .ok r) : Keeps t v r := by
  have hnone : ∀ x ∈ v.values, Kept t x x ∧ ¬ Excepted t x := by
    rw [hv.values_of_null hs]
    nofun
  cases hsame : v.type.same t with
  | true => exact keeps_unchanged hv ht (by rw [hs]; nofun) hsame hr hnone
  | false =>
    rw [castTo_fromNull hv ht hs hsame] at hr
    cases hr
    refine keeps_of_map rfl rfl ?_
    rw [hv.values_of_null hs]
    nofun

lemma isMissing_storageMissing (ht : t.IsStandard) : t.storage.missing.isMissing = true := by
  cases ht <;> rfl

lemma keeps_fromUnspecified (hv : v.WellFormed) (ht : t.IsStandard) (hs : v.type = .unspecified) (hnull : t ≠ .null)
    (hspec : t ≠ .unspecified) (hr : standard.castTo decompose v t = .ok r) : Keeps t v r := by
  have hne : v.type.same t = false := by
    rw [hs]
    cases ht <;> first | rfl | exact absurd rfl hspec
  rw [castTo_fromUnspecified ht hs hne hnull] at hr
  cases hr
  refine keeps_of_map (g := fun _ => t.storage.missing) rfl rfl ?_
  intro x hx
  rw [hv.absent_of_unspecified hs hx]
  exact ⟨.missing rfl (isMissing_storageMissing ht), nofun⟩

/-! ### Numbers -/

lemma isNumber_of_rank? {s : VectorType} {n : Nat} (h : s.rank? = some n) : s.IsNumber := by
  cases s <;> cases h <;> constructor

/-- In a finer number type only integers without an equal floating-point number are lost. -/
lemma isLost_iff_excepted {s : VectorType} {m n : Nat} {x : Value} (hs : s.rank? = some m) (ht : t.rank? = some n)
    (hmn : m ≤ n) (hx : s.storage.Holds x) : x.isLost t = true ↔ Excepted t x := by
  have htn := isNumber_of_rank? ht
  rcases number_cases (isNumber_of_rank? hs) hx with ⟨rfl, -⟩ | ⟨b, rfl⟩ | ⟨k, rfl, hk⟩ | ⟨d, rfl, hd, -⟩
  · have hm := isMissing_missing (isNumber_of_rank? hs)
    rw [Value.isLost, hm]
    cases s <;> cases hs <;> exact iff_of_false Bool.false_ne_true (by rintro ⟨⟩)
  · rw [Value.isLost_bool htn b]
    exact iff_of_false Bool.false_ne_true (by rintro ⟨⟩)
  · -- an integer: it is lost among the floating-point numbers only, and truth values are not finer
    cases htn with
    | logical =>
      cases s <;> cases hs <;> cases hx
      cases ht
      omega
    | integer =>
      rw [(Value.asNumber_of_holds .integer (.int hk)).2]
      exact iff_of_false Bool.false_ne_true (by rintro ⟨⟩)
    | double =>
      rw [isLost_iff .integer .double (.int hk)]
      constructor
      · rintro ⟨-, hnone⟩
        refine .inexact ?_
        rintro ⟨d, hd, hsame⟩
        exact hnone ⟨_, .double hd, hsame⟩
      · rintro ⟨hnone⟩
        refine ⟨rfl, ?_⟩
        rintro ⟨z, hz, hsame⟩
        cases hz with
        | double hd => exact hnone ⟨_, hd, hsame⟩
  · cases htn with
    | double =>
      rw [(Value.asNumber_of_holds .double (.double hd)).2]
      exact iff_of_false Bool.false_ne_true (by rintro ⟨⟩)
    | _ =>
      cases s <;> cases hs <;> cases hx
      cases ht
      omega

lemma keeps_number {m n : Nat} (hv : v.WellFormed) (hs : v.type.rank? = some m) (ht : t.rank? = some n) (hmn : m ≤ n)
    (hr : standard.castTo decompose v t = .ok r) : Keeps t v r := by
  have hsn := isNumber_of_rank? hs
  have htn := isNumber_of_rank? ht
  have hlost : ∀ x ∈ v.values, x.isLost t = true ↔ Excepted t x := by
    intro x hx
    exact isLost_iff_excepted hs ht hmn ((hv.number_stored hsn).2 x hx)
  rw [castTo_number decompose hv hsn htn] at hr
  cases hr
  constructor
  case flagged_iff =>
    intro j
    rw [mem_sortedPositions, lostPositions, mem_positionsOf]
    refine exists_congr fun x => and_congr_right ?_
    intro hx
    exact hlost x (List.mem_of_getElem? hx)
  case kept =>
    intro j x y hx hy hnot
    rw [← hlost x (List.mem_of_getElem? hx), Bool.not_eq_true] at hnot
    change (v.values.map (Value.asNumber t))[j]? = some y at hy
    rw [List.getElem?_map, hx] at hy
    cases hy
    cases hm : x.isMissing with
    | true =>
      refine .missing hm ?_
      rw [Value.asNumber_of_isMissing t hm]
      exact isMissing_missing htn
    | false => exact .number htn (same_of_isLost_eq_false hm hnot)

/-! ### Levels as texts -/

lemma construct_levelTexts (xs : List Value) :
    construct .character (.ofValues (xs.map Caster.levelText)) =
      .ok ⟨.string, xs.map fun x => if x.isMissing then .notAvailable else .text x.display⟩ := by
  change Except.ok (⟨.string, ((xs.map _).map _).map _⟩ : Column) = _
  rw [List.map_map, List.map_map]
  congr 2
  refine List.map_congr_left fun x _ => ?_
  cases hm : x.isMissing <;>
    simp [Caster.levelText, hm, Value.isMissing, textOf, Value.display, Column.ofValues, Dtype.missing]

/-- Levels become the texts that they are shown as. -/
lemma castTo_levelTexts {levels : List Value} (hv : v.WellFormed) (hs : v.type = .categorical levels) :
    standard.castTo decompose v .character = .ok ⟨⟨.character, ⟨.string, v.values.map fun x =>
      if x.isMissing then .notAvailable else .text x.display⟩⟩, []⟩ := by
  have hroute : standard.route decompose v.type .character = .direct .categoricalToCharacter := by
    have hstandard := hv.standard
    rw [hs] at hstandard ⊢
    exact route_direct hstandard .character rfl rfl
  rw [← sortedPositions_nil]
  refine castTo_eq_ok .character hroute ?_ (by simp [Column.size, TypedVector.size, TypedVector.values])
  rw [construct_levelTexts]
  rfl

lemma keeps_levelTexts {levels : List Value} (hv : v.WellFormed) (hs : v.type = .categorical levels)
    (hr : standard.castTo decompose v .character = .ok r) : Keeps .character v r := by
  rw [castTo_levelTexts hv hs] at hr
  cases hr
  refine keeps_of_map rfl rfl fun x _ => ⟨?_, nofun⟩
  cases hm : x.isMissing with
  | true => exact .missing hm rfl
  | false => exact .text hm

/-! ### Dates and datetimes -/

/-- What dates hold. -/
lemma date_cases (hv : v.WellFormed) (hs : v.type = .date) {x : Value} (hx : x ∈ v.values) :
    x = .notATime ∨ ∃ day, x = .period day := by
  have hheld := hv.held x hx
  rw [hv.dtype_eq (by rw [hs]; nofun), hs] at hheld
  cases hheld with
  | noDay => exact Or.inl rfl
  | day _ day => exact Or.inr ⟨day, rfl⟩

/-- Dates that are cast to datetimes have their midnights in range. -/
lemma inRange_of_castTo_datetime {zone : Option Zone} (hs : v.type = .date)
    (hr : standard.castTo decompose v (.datetime zone) = .ok r) {day : Int} (hday : .period day ∈ v.values) :
    Reading.inRange (Reading.ofDay day) = true := by
  by_contra hout
  rw [castTo_outOfBounds standard_tellsTimeBy hs hday (Bool.not_eq_true _ ▸ hout)] at hr
  cases hr

/-- What is kept of a midnight, and whether it is flagged, if it has its instant within range. -/
lemma kept_of_placement {z : Zone} {day : Int} {y : Value} {flagged : Bool} (h : Placement z day y flagged)
    (hbegins : BeginsInRange z day) :
    (flagged = true ↔ Excepted (.datetime (some z)) (.period day)) ∧
      (¬ Excepted (.datetime (some z)) (.period day) → Kept (.datetime (some z)) (.period day) y) := by
  cases h with
  | once shown only =>
    have hnot : ¬ Excepted (.datetime (some z)) (.period day) := by
      intro hexcepted
      cases hexcepted with
      | misplaced notOnce => exact notOnce ⟨_, shown, only⟩
    exact ⟨iff_of_false Bool.false_ne_true hnot, fun _ => .midnight shown⟩
  | beyond shown only out =>
    rw [hbegins _ shown only] at out
    cases out
  | twice differ shown again =>
    have hexcepted : Excepted (.datetime (some z)) (.period day) :=
      .misplaced fun honce => differ (honce.unique shown again)
    exact ⟨iff_of_true rfl hexcepted, fun hnot => absurd hexcepted hnot⟩
  | skipped never =>
    have hexcepted : Excepted (.datetime (some z)) (.period day) := .misplaced fun ⟨t, ht, _⟩ => never t ht
    exact ⟨iff_of_true rfl hexcepted, fun hnot => absurd hexcepted hnot⟩

/-- A midnight that is kept, unless it is excepted, has its instant within range. -/
lemma beginsInRange_of_kept {z : Zone} {day : Int} (hrange : Reading.inRange (Reading.ofDay day) = true)
    (hkept : ¬ Excepted (.datetime (some z)) (.period day) →
      Kept (.datetime (some z)) (.period day) (start .standard (some z) (.period day))) : BeginsInRange z day := by
  intro t shown only
  have hnot : ¬ Excepted (.datetime (some z)) (.period day) := by
    intro hexcepted
    cases hexcepted with
    | misplaced notOnce => exact notOnce ⟨t, shown, only⟩
  have hplaced := placement z hrange
  generalize isMoved .standard (some z) (.period day) = flagged at hplaced
  generalize start .standard (some z) (.period day) = y at hplaced hkept
  cases hplaced with
  | once shown' _ range =>
    rw [← only _ shown']
    exact range
  | @beyond u flagged shown' only' out unheld =>
    -- eight bytes hold another instant, at which the clock does not show the midnight
    rcases Value.stamp_cases u (some z) with ⟨-, hstamp⟩ | ⟨s, hsome, hstamp⟩
    · rw [hstamp] at hkept
      cases hkept hnot with
      | missing source => cases source
      | number ht => cases ht
    · rw [hstamp] at hkept
      cases hkept hnot with
      | missing source => cases source
      | number ht => cases ht
      | midnight shownThere =>
        obtain rfl := only' s shownThere
        rw [(Reading.stored?_eq_some hsome).1] at out
        cases out
  | twice differ shown' again =>
    have hsame := (only _ shown').trans (only _ again).symm
    exact absurd hsame differ
  | skipped never => exact absurd shown (never t)

/-- Those midnights are flagged that the clock of the zone does not show exactly once, if all others have their instants
within range. -/
lemma keeps_midnights {zone : Option Zone} (hv : v.WellFormed) (hs : v.type = .date)
    (hbegins : ∀ z ∈ zone, ∀ day, .period day ∈ v.values → BeginsInRange z day)
    (hr : standard.castTo decompose v (.datetime zone) = .ok r) : Keeps (.datetime zone) v r := by
  have hrange : ∀ day, .period day ∈ v.values → Reading.inRange (Reading.ofDay day) = true := by
    intro day
    exact inRange_of_castTo_datetime hs hr
  obtain rfl := result_of_castTo_datetime standard_tellsTimeBy hs hr
  cases zone with
  | none =>
    have hunflagged : positionsOf (v.values.map (isMoved .standard none)) = [] := positionsOf_eq_nil fun _ _ => rfl
    have hlossy : sortedPositions (positionsOf (v.values.map (isMoved .standard none))) = [] := by
      rw [hunflagged, sortedPositions_nil]
    refine keeps_of_map rfl hlossy ?_
    intro x hx
    rcases date_cases hv hs hx with rfl | ⟨day, rfl⟩
    · exact ⟨.missing rfl rfl, nofun⟩
    · exact ⟨.naiveMidnight day, nofun⟩
  | some z =>
    have hplaced : ∀ day, .period day ∈ v.values →
        (isMoved .standard (some z) (.period day) = true ↔ Excepted (.datetime (some z)) (.period day)) ∧
          (¬ Excepted (.datetime (some z)) (.period day) →
            Kept (.datetime (some z)) (.period day) (start .standard (some z) (.period day))) := by
      intro day hday
      exact kept_of_placement (placement z (hrange day hday)) (hbegins z rfl day hday)
    constructor
    case flagged_iff =>
      intro j
      rw [mem_sortedPositions, mem_positionsOf]
      refine exists_congr fun x => and_congr_right ?_
      intro hx
      have hmem := List.mem_of_getElem? hx
      rcases date_cases hv hs hmem with rfl | ⟨day, rfl⟩
      · exact iff_of_false (by rintro ⟨⟩) (by rintro ⟨⟩)
      · exact (hplaced day hmem).1
    case kept =>
      intro j x y hx hy hnot
      have hmem := List.mem_of_getElem? hx
      change (v.values.map (start .standard (some z)))[j]? = some y at hy
      rw [List.getElem?_map, hx] at hy
      cases hy
      rcases date_cases hv hs hmem with rfl | ⟨day, rfl⟩
      · exact .missing rfl rfl
      · exact (hplaced day hmem).2 hnot

/-- What datetimes hold. -/
lemma datetime_cases {zone : Option Zone} (hv : v.WellFormed) (hs : v.type = .datetime zone) {x : Value}
    (hx : x ∈ v.values) : x = .notATime ∨ ∃ t, x = .instant t zone := by
  cases (onClock_of_datetime hv hs).held x hx with
  | noInstant => exact Or.inl rfl
  | @instant _ _ t _ => exact Or.inr ⟨t, rfl⟩

/-- Datetimes keep their instants, whatever clock shows them. -/
lemma keeps_instants {a b : Option Zone} (hv : v.WellFormed) (hs : v.type = .datetime a)
    (hr : standard.castTo decompose v (.datetime b) = .ok r) : Keeps (.datetime b) v r := by
  rw [castTo_rezoned decompose hv hs b] at hr
  cases hr
  refine keeps_of_map rfl rfl ?_
  intro x hx
  rcases datetime_cases hv hs hx with rfl | ⟨t, rfl⟩
  · exact ⟨.missing rfl rfl, by rintro ⟨⟩⟩
  · exact ⟨.instant t a b, by rintro ⟨⟩⟩

/-! ### Every cast but those to categoricals -/

lemma keeps_character (hv : v.WellFormed) (hs : v.type = .character)
    (hr : standard.castTo decompose v .character = .ok r) : Keeps .character v r := by
  refine keeps_unchanged hv .character (by rw [hs]; nofun) (by rw [hs]; rfl) hr ?_
  intro x hx
  have hheld := hv.held x hx
  rw [hv.dtype_eq (by rw [hs]; nofun), hs] at hheld
  cases hheld with
  | noText => exact ⟨.missing rfl rfl, nofun⟩
  | text s => exact ⟨.text rfl, nofun⟩

lemma keeps_list (hv : v.WellFormed) (hs : v.type = .list) (hr : standard.castTo decompose v .list = .ok r) :
    Keeps .list v r := by
  refine keeps_unchanged hv .list (by rw [hs]; nofun) (by rw [hs]; rfl) hr ?_
  intro x hx
  have hadmits := hv.admitted x hx
  rw [hs] at hadmits
  rcases hadmits with rfl | ⟨xs, rfl⟩
  · exact ⟨.missing rfl rfl, nofun⟩
  · exact ⟨.list xs, nofun⟩

lemma keeps_date (hv : v.WellFormed) (hs : v.type = .date) (hr : standard.castTo decompose v .date = .ok r) :
    Keeps .date v r := by
  refine keeps_unchanged hv .date (by rw [hs]; nofun) (by rw [hs]; rfl) hr ?_
  intro x hx
  rcases date_cases hv hs hx with rfl | ⟨day, rfl⟩
  · exact ⟨.missing rfl rfl, nofun⟩
  · exact ⟨.date day, nofun⟩

/-- **Casts to a type above keep the values**, except for what is excepted, and this is flagged. Days have to begin
within range on the clock of the target, and categoricals are left out here. -/
theorem castTo_keeps (hv : v.WellFormed) (ht : t.IsStandard) (hnot : ∀ levels, t ≠ .categorical levels)
    (hspec : t ≠ .unspecified) (hbelow : v.type.Below t)
    (hbegins : ∀ z, t = .datetime (some z) → ∀ day, .period day ∈ v.values → BeginsInRange z day)
    (hr : standard.castTo decompose v t = .ok r) : Keeps t v r := by
  generalize hs : v.type = s at hbelow
  cases hbelow with
  | null => exact keeps_fromNull hv ht hs hr
  | unspecified hnull => exact keeps_fromUnspecified hv ht hs hnull hspec hr
  | number hx hy hmn => exact keeps_number hv (hs ▸ hx) hy hmn hr
  | list => exact keeps_list hv hs hr
  | character => exact keeps_character hv hs hr
  | categorical => exact absurd rfl (hnot _)
  | levels => exact keeps_levelTexts hv hs hr
  | date => exact keeps_date hv hs hr
  | midnight =>
    refine keeps_midnights hv hs ?_ hr
    rintro z ⟨⟩
    exact hbegins z rfl
  | datetime => exact keeps_instants hv hs hr
  | naive => exact keeps_instants hv hs hr
  | universal => exact keeps_instants hv hs hr

/-! ### Casts to categoricals -/

/-- What a cast to a categorical makes of a value: nothing else if the levels are listed as in the source, and otherwise
the level that it is taken for. -/
def carried (levels : List Value) (v : TypedVector) (x : Value) : Value :=
  if samePayload v.type (.categorical levels) then x else taken (storedLevels levels) v.column x

lemma carried_of_isMissing (levels : List Value) (v : TypedVector) {x : Value} (h : x.isMissing = true) :
    (carried levels v x).isMissing = true := by
  rw [carried]
  split_ifs
  · exact h
  · rw [taken_of_isMissing _ _ h]
    rfl

/-- Categoricals that list equal levels in the same order are equal. -/
lemma same_of_samePayload {a b : List Value} (h : samePayload (.categorical a) (.categorical b) = true) :
    VectorType.same (.categorical a) (.categorical b) = true := by
  refine same_of_sameAll ?_
  simpa [samePayload, params, Value.same_tuple] using h

/-- A vector without values in the place of a categorical. -/
lemma carried_of_void {levels : List Value} (hpayload : samePayload v.type (.categorical levels) = false)
    (h : ∀ x ∈ v.values, x.isMissing = true) :
    (v.column.voided (storage (.categorical levels))).values = v.values.map (carried levels v) := by
  refine List.map_congr_left ?_
  intro x hx
  rw [carried, hpayload, taken_of_isMissing _ _ (h x hx)]
  rfl

/-- Whether a cast to a categorical carries every value over, and flags only values that it drops. -/
structure Carries (levels : List Value) (v : TypedVector) (r : CastResult) : Prop where
  values : r.vector.values = v.values.map (carried levels v)
  dropped : ∀ j ∈ r.lossy, ∃ x, v.values[j]? = some x ∧ x.isMissing = false ∧ (carried levels v x).isMissing = true

section

variable {levels : List Value}

/-- Levels that are listed in the same way stay as they are. -/
lemma carries_unchanged (hsame : v.type.same (.categorical levels) = true)
    (hpayload : samePayload v.type (.categorical levels) = true)
    (hr : standard.castTo decompose v (.categorical levels) = .ok r) : Carries levels v r := by
  rw [castTo_unchanged hsame hpayload] at hr
  cases hr
  refine ⟨?_, by rintro j ⟨⟩⟩
  refine ((List.map_congr_left ?_).trans (List.map_id _)).symm
  intro x _
  exact if_pos hpayload

/-- A column that is made from the values anew has each of them as the level that it is taken for. -/
lemma values_eq_carried {c : Column} (hpayload : samePayload v.type (.categorical levels) = false)
    (hc : v.column.toLevels (storedLevels levels) = .ok c) : c.values = v.values.map (carried levels v) := by
  rw [values_toLevels hc]
  refine List.map_congr_left ?_
  intro x _
  rw [carried, hpayload]
  rfl

/-- Equal levels that are listed in another way. -/
lemma carries_remade (hsame : v.type.same (.categorical levels) = true)
    (hpayload : samePayload v.type (.categorical levels) = false)
    (hr : standard.castTo decompose v (.categorical levels) = .ok r) : Carries levels v r := by
  rw [castTo_remade hsame hpayload] at hr
  obtain ⟨w, hw, hr⟩ := bind_eq_ok_iff.1 hr
  obtain ⟨c, hc, hw⟩ := bind_eq_ok_iff.1 hw
  cases hw
  cases hr
  exact ⟨values_eq_carried hpayload hc, by rintro j ⟨⟩⟩

/-- Other levels. -/
lemma carries_recode (ht : (VectorType.categorical levels).IsStandard)
    (hroute : standard.route decompose v.type (.categorical levels) = .direct .recode)
    (hpayload : samePayload v.type (.categorical levels) = false)
    (hr : standard.castTo decompose v (.categorical levels) = .ok r) : Carries levels v r := by
  -- the cast has returned, so there is a column of these levels
  obtain ⟨c, hc⟩ : ∃ c, v.column.toLevels (storedLevels levels) = .ok c := by
    rw [castTo_direct hroute] at hr
    obtain ⟨output, houtput, -⟩ := bind_eq_ok_iff.1 hr
    obtain ⟨c, hc, -⟩ := bind_eq_ok_iff.1 houtput
    exact ⟨c, hc⟩
  have hvalues := values_eq_carried hpayload hc
  have hok : standard.castTo decompose v (.categorical levels) =
      .ok ⟨⟨.categorical levels, c⟩, sortedPositions (droppedPositions v.values c.values)⟩ := by
    refine castTo_eq_ok ht hroute ?_ ?_
    · rw [show construct (.categorical levels) v.column = .ok c from hc]
      rfl
    · rw [Column.size, hvalues]
      exact List.length_map _
  rw [hr] at hok
  cases hok
  refine ⟨hvalues, ?_⟩
  intro j hj
  change j ∈ sortedPositions (droppedPositions v.values c.values) at hj
  rw [mem_sortedPositions, droppedPositions, hvalues, map_zip_map, mem_positionsOf] at hj
  obtain ⟨x, hx, hdropped⟩ := hj
  rw [Bool.and_eq_true, Bool.not_eq_true'] at hdropped
  exact ⟨x, hx, hdropped.1, hdropped.2⟩

/-- **Casts to categoricals, value by value.** From a type below a categorical each value becomes the level that it is
taken for, and only values that are dropped are flagged. -/
theorem castTo_categorical (hlevels : LegalLevels levels) (hv : v.WellFormed)
    (hbelow : v.type.Below (.categorical levels)) (hr : standard.castTo decompose v (.categorical levels) = .ok r) :
    Carries levels v r := by
  have ht : (VectorType.categorical levels).IsStandard := .categorical hlevels
  generalize hs : v.type = s at hbelow
  cases hbelow with
  | null =>
    rw [castTo_fromNull hv ht hs (by rw [hs]; rfl)] at hr
    cases hr
    refine ⟨carried_of_void (by rw [hs]; rfl) ?_, by rintro j ⟨⟩⟩
    rw [hv.values_of_null hs]
    rintro x ⟨⟩
  | unspecified =>
    rw [castTo_fromUnspecified ht hs (by rw [hs]; rfl) (by rintro ⟨⟩)] at hr
    cases hr
    refine ⟨carried_of_void (by rw [hs]; rfl) ?_, by rintro j ⟨⟩⟩
    intro x hx
    rw [hv.absent_of_unspecified hs hx]
    rfl
  | number _ hy => cases hy
  | @categorical a _ covered =>
    cases hpayload : samePayload v.type (.categorical levels) with
    | true =>
      refine carries_unchanged ?_ hpayload hr
      rw [hs] at hpayload ⊢
      exact same_of_samePayload hpayload
    | false =>
      cases hsame : v.type.same (.categorical levels) with
      | true => exact carries_remade hsame hpayload hr
      | false =>
        refine carries_recode ht ?_ hpayload hr
        rw [hs] at hsame ⊢
        exact route_direct (hs ▸ hv.standard) ht hsame rfl

end

end Registry

end Coercion
