import Coercion.Proofs.Column.Level
import Coercion.Proofs.Column.Size

/-!
What columns hold. A column that is turned into a format holds nothing but what the format has a place for: its own
marker of missing values, numbers that fit, levels of its own, days, and instants in range on its clock.
-/

namespace Coercion

namespace Dtype.Holds

variable {x : Value}

lemma cases_days (h : Dtype.days.Holds x) : x = .notATime ∨ ∃ day, x = .period day := by
  cases h with
  | noDay => exact .inl rfl
  | day _ n => exact .inr ⟨n, rfl⟩

lemma cases_instants {unit : String} {zone : Option Zone} (h : (Dtype.instants unit zone).Holds x) :
    x = .notATime ∨ ∃ t, x = .instant t zone ∧ Reading.inRange t = true := by
  cases h with
  | noInstant => exact .inl rfl
  | instant _ _ range => exact .inr ⟨_, rfl, range⟩

end Dtype.Holds

namespace Column

variable {c : Column} {d : Dtype}

/-- Whether a column is in a format and holds nothing else than that does. -/
structure InFormat (d : Dtype) (c : Column) : Prop where
  dtype : c.dtype = d
  held : ∀ x ∈ c.values, d.Holds x

/-- Whether what is made, if anything is, is a column in a format. -/
def Yields (d : Dtype) (made : Except Failure Column) : Prop :=
  ∀ c, made = .ok c → c.InFormat d

lemma Yields.of_ok (h : c.InFormat d) : Yields d (.ok c) := by
  rintro _ ⟨⟩
  exact h

lemma yields_refuse (category : Category) : Yields d (refuse category) := by rintro _ ⟨⟩

/-- What is found out first does not change what is made. -/
lemma Yields.after {α : Type} {x : Except Failure α} {made : α → Except Failure Column}
    (h : ∀ a, x = .ok a → Yields d (made a)) : Yields d (x >>= made) := by
  intro e he
  obtain ⟨a, ha, he⟩ := bind_eq_ok_iff.1 he
  exact h a ha e he

lemma Yields.ite {p : Prop} [Decidable p] {made made' : Except Failure Column} (h : Yields d made)
    (h' : Yields d made') : Yields d (if p then made else made') := by
  split_ifs
  · exact h
  · exact h'

lemma inFormat_nil (d : Dtype) : InFormat d ⟨d, []⟩ :=
  ⟨rfl, by rintro x ⟨⟩⟩

lemma inFormat_map {α : Type} {xs : List α} {f : α → Value} (h : ∀ x ∈ xs, d.Holds (f x)) :
    InFormat d ⟨d, xs.map f⟩ := by
  refine ⟨rfl, ?_⟩
  intro y hy
  obtain ⟨x, hx, rfl⟩ := List.mem_map.1 hy
  exact h x hx

/-- A column whose present values are made one by one. -/
lemma yields_mapPresent {f : Value → Except Failure Value} (hmissing : d.Holds d.missing)
    (h : ∀ x y, f x = .ok y → d.Holds y) : Yields d (c.mapPresent d f) := by
  intro e he
  obtain ⟨values, hvalues, he⟩ := bind_eq_ok_iff.1 he
  cases he
  refine ⟨rfl, ?_⟩
  intro y hy
  obtain ⟨x, -, hxy⟩ := (exists_of_mapM_ok hvalues).2 y hy
  split_ifs at hxy
  · cases hxy
    exact hmissing
  · exact h x y hxy

/-! ### Numbers -/

lemma holds_noTruth : Dtype.boolean.Holds .notAvailable := .noTruth

lemma holds_noInt : Dtype.int64.Holds .notAvailable := .noInt

lemma holds_truth (b : Bool) : Dtype.boolean.Holds (.bool b) := .truth b

lemma yields_bits : Yields .boolean c.bits := by
  refine yields_mapPresent holds_noTruth fun x y hxy => ?_
  cases hbit : x.bit? with
  | none => simp [hbit, refuse] at hxy
  | some b =>
    simp only [hbit, Except.ok.injEq] at hxy
    subst hxy
    exact holds_truth b

lemma yields_toBoolean : Yields .boolean c.toBoolean := by
  have hopen : Yields .boolean (if Content.of c.present = .nothing ∨ Content.of c.present = .bools ∨
      (Content.of c.present).isNumeric = true then c.bits else refuse .typeError) := yields_bits.ite (yields_refuse _)
  rw [toBoolean]
  split
  · refine yields_mapPresent holds_noTruth fun x y hxy => ?_
    cases hxy
    exact holds_truth _
  · exact .ite (.after fun _ _ => hopen) hopen
  · exact .ite (.after fun _ _ => hopen) hopen
  · refine yields_bits.ite (.ite (yields_mapPresent holds_noTruth ?_) (yields_refuse _))
    rintro x y ⟨⟩

lemma holds_int {n : Int} (h : fitsSigned 64 n = true) : Dtype.int64.Holds (.int n) := .int h

/-- The low eight bytes of an integer are an integer of eight bytes. -/
lemma fitsSigned_lowBytes (n : Int) : fitsSigned 64 (lowBytes n) = true := by
  have hlow : -((Nat.pow 2 64 : Int) / 2) ≤ lowBytes n := Int.le_bmod (by decide)
  have hhigh : lowBytes n < ((Nat.pow 2 64 : Int) + 1) / 2 := Int.bmod_lt (by decide)
  simp only [fitsSigned, Bool.and_eq_true, decide_eq_true_eq, Nat.pow_eq] at hlow hhigh ⊢
  omega

lemma holds_of_checkedInt {n m : Int} (h : checkedInt n = .ok m) : Dtype.int64.Holds (.int m) := by
  rw [checkedInt] at h
  split_ifs at h with hfits
  · cases h
    exact holds_int hfits
  · cases h

lemma yields_wholes : Yields .int64 c.wholes := by
  refine .after ?_
  intro ints hints
  have hints : InFormat .int64 ints := by
    refine yields_mapPresent holds_noInt ?_ ints hints
    intro x y hxy
    obtain ⟨n, -, hxy⟩ := bind_eq_ok_iff.1 hxy
    obtain ⟨m, hm, hxy⟩ := bind_eq_ok_iff.1 hxy
    cases hxy
    exact holds_of_checkedInt hm
  exact .ite (.of_ok hints) (yields_refuse _)

lemma yields_openInts : Yields .int64 c.openInts := by
  rw [openInts]
  split
  · exact yields_refuse _
  · exact yields_wholes

lemma yields_exactInts : Yields .int64 c.exactInts := by
  refine .ite (yields_refuse _) (yields_mapPresent holds_noInt ?_)
  intro x y hxy
  split at hxy
  · split at hxy
    · split_ifs at hxy with hfits
      · cases hxy
        exact holds_int hfits
      · cases hxy
    · cases hxy
  · cases hxy

/-- Integers of one width, or truth values, as integers of eight bytes. -/
lemma yields_fitting : Yields .int64 (c.mapPresent .int64 fun v => do
    let n ← v.toInt
    if fitsSigned 64 n then return .int n else refuse .typeError) := by
  refine yields_mapPresent holds_noInt ?_
  intro x y hxy
  obtain ⟨n, -, hxy⟩ := bind_eq_ok_iff.1 hxy
  split_ifs at hxy with hfits
  · cases hxy
    exact holds_int hfits
  · cases hxy

lemma yields_noValues : Yields d (if c.values.isEmpty = true then .ok ⟨d, []⟩ else refuse .typeError) :=
  .ite (.of_ok (inFormat_nil d)) (yields_refuse _)

lemma yields_toInt64 : Yields .int64 c.toInt64 := by
  rw [toInt64]
  split
  · refine yields_mapPresent holds_noInt ?_
    intro x y hxy
    split at hxy <;> cases hxy
    · exact holds_int (fitsSigned_lowBytes _)
    · exact holds_int (by decide)
  · exact yields_exactInts
  · exact yields_fitting
  · exact yields_fitting
  · exact yields_fitting
  · exact yields_openInts
  · exact yields_openInts
  · exact yields_openInts
  · exact yields_noValues
  · exact yields_noValues
  · exact yields_refuse _

lemma holds_double {x : Double} (h : x.IsBinary64) : Dtype.float64.Holds (.double x) := .double h

lemma holds_narrow (x : Double) : Dtype.float64.Holds (.double (x.narrow (Element.float 64).format)) :=
  holds_double (Double.isBinary64_narrow _ x)

lemma holds_undefined : Dtype.float64.Holds (.double .nan) := holds_double trivial

lemma holds_of_toStoredDouble {x y : Value}
    (h : (do return .double ((← x.toStoredDouble).narrow (Element.float 64).format) : Except Failure Value) = .ok y) :
    Dtype.float64.Holds y := by
  obtain ⟨z, -, h⟩ := bind_eq_ok_iff.1 h
  cases h
  exact holds_narrow z

lemma yields_toFloat : Yields .float64 (c.toFloat 64) := by
  unfold toFloat
  extract_lets f e read
  have hread : Yields .float64 (c.mapPresent e read) := by
    refine yields_mapPresent holds_undefined ?_
    intro x y hxy
    dsimp only [read] at hxy
    split at hxy
    · cases hxy
      exact holds_narrow _
    · exact holds_of_toStoredDouble hxy
  split
  · exact yields_refuse _
  · exact yields_refuse _
  · exact yields_refuse _
  · split_ifs
    · exact .of_ok (inFormat_nil _)
    · split
      · exact yields_refuse _
      · exact yields_refuse _
      · exact hread
  · exact hread
  · refine yields_mapPresent holds_undefined ?_
    intro x y hxy
    exact holds_of_toStoredDouble hxy

/-! ### Texts -/

lemma holds_textOrNone {x : Value} {s : String} :
    Dtype.string.Holds (if x.isMissing then .notAvailable else .text s) := by
  split_ifs
  · exact .noText
  · exact .text s

lemma inFormat_toText : InFormat .string c.toText := by
  rw [toText]
  split
  · refine inFormat_map ?_
    intro x _
    split
    · exact .text _
    · exact holds_textOrNone
  · exact inFormat_map fun x _ => holds_textOrNone

/-! ### Levels and moments -/

lemma inFormat_toLevels {levels : List Value} : Yields (.category (some levels)) (c.toLevels levels) := by
  intro d hd
  have hdtype : d.dtype = .category (some levels) := by
    rw [toLevels] at hd
    split at hd
    · cases hd
    · split_ifs at hd <;> cases hd <;> rfl
  refine ⟨hdtype, ?_⟩
  intro x hx
  rw [values_toLevels hd] at hx
  obtain ⟨y, -, rfl⟩ := List.mem_map.1 hx
  rw [taken]
  split_ifs
  · rcases levelIn_cases levels y with hnone | ⟨hmem, -⟩
    · rw [hnone]
      exact .noLevel levels
    · exact .level hmem
  · exact .noLevel levels

lemma holds_of_toDay {x y : Value} (h : x.toDay = .ok y) : Dtype.days.Holds y := by
  have hday (day : Int) : Dtype.days.Holds (.period day) := .day "D" day
  have hnone : Dtype.days.Holds .notATime := .noDay "D"
  revert h
  fun_cases Value.toDay x <;> rintro ⟨⟩
  all_goals first | exact hnone | exact hday _

lemma yields_toDays (h : c.dtype.same .days = true → ∀ x ∈ c.values, c.dtype.Holds x) : Yields .days c.toDays := by
  rw [toDays]
  split_ifs with hsame
  · have hdtype : c.dtype = .days := Dtype.eq_of_same hsame fun levels => by rintro ⟨⟩
    exact .of_ok ⟨hdtype, hdtype ▸ h hsame⟩
  · exact yields_mapPresent (.noDay "D") fun x y => holds_of_toDay

lemma yields_toInstants (zone : Option Zone) : Yields (.instants "ns" zone) (c.toInstants zone) := by
  rw [toInstants_eq]
  refine .after ?_
  intro read hread
  exact .of_ok ⟨rfl, (onClock_readMoments hread zone).held⟩

/-! ### Conversion -/

/-- Whether a column holds what its format does, if that is the format of a standard type. The values of an open
column, and those in a format of which no standard type makes use, may be of any kind. -/
def IsGenuine (c : Column) : Prop :=
  ∀ t : VectorType, t.IsStandard → c.dtype.same t.storage = true → ∀ x ∈ c.values, c.dtype.Holds x

lemma inFormat_of_open (h : c.dtype = .object) : InFormat .object c :=
  ⟨h, fun x _ => .any x⟩

lemma isGenuine_of_open (h : c.dtype = .object) : c.IsGenuine := by
  intro _ _ _ x _
  rw [h]
  exact .any x

end Column

namespace VectorType

open Column

variable {t : VectorType} {c d : Column}

/-- A column that is in the storage of a type already is left as it is. -/
lemma yields_kept (ht : t.IsStandard) (hc : c.IsGenuine) (hnot : ∀ levels, t.storage ≠ .category (some levels))
    {made : Except Failure Column} (hmade : Yields t.storage made) :
    Yields t.storage (if c.dtype.same t.storage = true then .ok c else made) := by
  split_ifs with hsame
  · have hdtype : c.dtype = t.storage := Dtype.eq_of_same hsame hnot
    exact .of_ok ⟨hdtype, hdtype ▸ hc t ht hsame⟩
  · exact hmade

lemma yields_convert (ht : t.IsStandard) (hc : c.IsGenuine) (hlevels : ∀ levels, t ≠ .categorical levels)
    (hdate : t ≠ .date) (hzone : ∀ zone, t ≠ .datetime zone) : Yields t.storage (c.convert t.storage) := by
  rw [convert.eq_def]
  cases ht with
  | logical => exact yields_kept .logical hc (fun _ => Dtype.noConfusion) yields_toBoolean
  | integer => exact yields_kept .integer hc (fun _ => Dtype.noConfusion) yields_toInt64
  | double => exact yields_kept .double hc (fun _ => Dtype.noConfusion) yields_toFloat
  | binned h => exact yields_kept (.binned h) hc (fun _ => Dtype.noConfusion) yields_toFloat
  | character => exact yields_kept .character hc (fun _ => Dtype.noConfusion) (.of_ok inFormat_toText)
  | categorical => exact absurd rfl (hlevels _)
  | date => exact absurd rfl hdate
  | datetime => exact absurd rfl (hzone _)
  | null => exact yields_kept .null hc (fun _ => Dtype.noConfusion) (.of_ok (inFormat_of_open rfl))
  | unspecified => exact yields_kept .unspecified hc (fun _ => Dtype.noConfusion) (.of_ok (inFormat_of_open rfl))
  | list => exact yields_kept .list hc (fun _ => Dtype.noConfusion) (.of_ok (inFormat_of_open rfl))

/-- **A type stores what its storage holds**: the column that it makes of another one is in its storage, and holds nothing
else than that does. -/
theorem yields_construct (ht : t.IsStandard) (hc : c.IsGenuine) : Yields t.storage (t.construct c) := by
  have hmarked : c.dtype = .object → c.marked.IsGenuine := by
    intro h
    exact isGenuine_of_open h
  rw [construct.eq_def]
  dsimp only
  split
  · refine .after fun d hd => .ite (.of_ok ?_) (by rintro _ ⟨⟩)
    have hopen (e : Column) (he : e.IsGenuine) : Yields .object (e.convert .object) :=
      yields_convert .null he (fun _ => VectorType.noConfusion) VectorType.noConfusion fun _ => VectorType.noConfusion
    split at hd
    · exact hopen _ (hmarked ‹_›) d hd
    · exact hopen c hc d hd
  · exact .after fun _ _ => .ite (.of_ok (inFormat_of_open rfl)) (by rintro _ ⟨⟩)
  · exact .after fun _ _ => .of_ok (inFormat_of_open rfl)
  · exact inFormat_toLevels
  · exact yields_toDays (hc .date .date)
  · exact yields_toInstants _
  · split
    · exact yields_convert ht (hmarked ‹_›) ‹_› ‹_› ‹_›
    · exact yields_convert ht hc ‹_› ‹_› ‹_›

lemma listElement_cases {x y : Value} (h : listElement x = .ok y) : y = .absent ∨ ∃ xs, y = .list xs := by
  rw [listElement] at h
  split at h
  · cases h
    exact Or.inr ⟨_, rfl⟩
  · split_ifs at h
    cases h
    exact Or.inl rfl

/-- A type that is stored openly makes no column of values that it does not admit. -/
lemma admits_construct (h : t.construct c = .ok d) : ∀ x ∈ d.values, t.Admits x := by
  intro x hx
  rw [construct.eq_def] at h
  dsimp only at h
  cases t with
  | null =>
    obtain ⟨e, -, h⟩ := bind_eq_ok_iff.1 h
    split_ifs at h with hempty
    cases h
    rw [List.isEmpty_iff.1 hempty] at hx
    cases hx
  | unspecified =>
    obtain ⟨e, -, h⟩ := bind_eq_ok_iff.1 h
    split_ifs at h
    cases h
    obtain ⟨y, -, rfl⟩ := List.mem_map.1 hx
    rfl
  | list =>
    obtain ⟨values, hvalues, h⟩ := bind_eq_ok_iff.1 h
    cases h
    obtain ⟨y, -, hy⟩ := (exists_of_mapM_ok hvalues).2 x hx
    exact listElement_cases hy
  | _ => trivial

end VectorType

end Coercion
