import Coercion.Proofs.Zone.Normal
import Coercion.VectorType.Field
import Coercion.Zone.Rules
import Mathlib.Tactic

/-!
Zones as their callers give them. A zone that has been brought to normal form stays as it is, whether it is given again
itself or by its text, so it does not matter in which of its forms a zone came. A fixed offset is brought to the zone of
its offset, which has that offset at all times. The one exception is an offset with a name: if the database has a zone
of that name then it is taken for that zone, whatever the offset was.
-/

namespace Coercion

namespace Zone

variable {z : Zone} {m : Int} {name : String}

/-! ### Normal forms -/

/-- A zone in normal form as it is given again: a name as a text, and any other zone by its offset. -/
def again : Zone → ZoneSource
  | .named name => .text name
  | .fixed m => .minutes m

/-- The normal form of a zone, which may be left out. -/
def normalizeIfGiven : Option ZoneSource → Except ZoneFault (Option Zone)
  | none => .ok none
  | some source => (normalize source).map some

lemma normalizeIfGiven_some {source : ZoneSource} {n : Option Zone} (h : normalizeIfGiven (some source) = .ok n) :
    ∃ z, n = some z ∧ normalize source = .ok z := by
  cases hz : normalize source with
  | error fault =>
    rw [normalizeIfGiven, hz] at h
    cases h
  | ok z =>
    rw [normalizeIfGiven, hz] at h
    cases h
    exact ⟨z, rfl, rfl⟩

/-- A zone in normal form is brought to itself. -/
lemma normalize_again (hz : z.IsNormal) : normalize z.again = .ok z := by
  cases hz with
  | named known => exact ofText_of_isName known
  | fixed range nameless => exact ofMinutes_of_nameless range nameless

/-- Whether two zones make the same datetime type: they make equal ones, which are told apart by nothing and are one
member of a set. -/
def MakeOneType (source other : Option ZoneSource) : Prop :=
  ∃ t t', VectorType.ofZone source = .ok t ∧ VectorType.ofZone other = .ok t' ∧ t.same t' = true ∧ t.key = t'.key ∧
    t.setSize t' = .ok 1

lemma ofZone_of_normalizeIfGiven {source : Option ZoneSource} {n : Option Zone} (h : normalizeIfGiven source = .ok n) :
    VectorType.ofZone source = .ok (.datetime n) := by
  cases source with
  | none =>
    cases h
    rfl
  | some source =>
    obtain ⟨z, rfl, hz⟩ := normalizeIfGiven_some h
    rw [VectorType.ofZone, hz]

/-- A datetime type is one member of a set with itself. -/
lemma setSize_datetime (n : Option Zone) : (VectorType.datetime n).setSize (.datetime n) = .ok 1 := by
  have hsame : (VectorType.datetime n == VectorType.datetime n) = true := beq_self_eq_true n
  have hhash : Value.unhashableIn? ((VectorType.datetime n).params.map (·.2)) = none := by
    rcases n with _ | _ | _ <;> rfl
  rw [VectorType.setSize, hhash]
  simp only [hsame, if_true]

lemma makeOneType_of_normalizeIfGiven {source other : Option ZoneSource} {n : Option Zone}
    (h : normalizeIfGiven source = .ok n) (hother : normalizeIfGiven other = .ok n) : MakeOneType source other :=
  ⟨.datetime n, .datetime n, ofZone_of_normalizeIfGiven h, ofZone_of_normalizeIfGiven hother,
    beq_self_eq_true n, rfl, setSize_datetime n⟩

/-- **Normal forms are stable.** A zone in normal form is brought to itself, and so is its text. Zones with the same
normal form make the same datetime type. -/
theorem normalizeIfGiven_stable {source : Option ZoneSource} {n : Option Zone} (hknown : ∀ s ∈ source, s.Known)
    (h : normalizeIfGiven source = .ok n) :
    normalizeIfGiven (n.map again) = .ok n ∧ (∀ z ∈ n, normalizeIfGiven (some (.text z.text)) = .ok n) ∧
      ∀ other, normalizeIfGiven other = .ok n → MakeOneType source other := by
  refine ⟨?_, ?_, fun other hother => makeOneType_of_normalizeIfGiven h hother⟩
  · cases source with
    | none =>
      cases h
      rfl
    | some source =>
      obtain ⟨z, rfl, hz⟩ := normalizeIfGiven_some h
      have hnormal := isNormal_normalize (hknown source rfl) hz
      rw [Option.map_some, normalizeIfGiven, normalize_again hnormal]
      rfl
  · rintro z rfl
    cases source with
    | none => cases h
    | some source =>
      obtain ⟨z, ⟨⟩, hz⟩ := normalizeIfGiven_some h
      have hread : normalize (.text z.text) = .ok z := ofText_text (isNormal_normalize (hknown source rfl) hz)
      rw [normalizeIfGiven, hread]
      rfl

/-- Half past one to the west, given as a named offset. -/
theorem normalizeIfGiven_stable_west :
    normalizeIfGiven (some (.labelled "west of here" (-5400))) = .ok (some (.fixed (-90))) ∧
      normalizeIfGiven (some (.minutes (-90))) = .ok (some (.fixed (-90))) ∧
        (∀ z ∈ some (Zone.fixed (-90)), normalizeIfGiven (some (.text z.text)) = .ok (some (.fixed (-90)))) ∧
          ∀ other, normalizeIfGiven other = .ok (some (.fixed (-90))) →
            MakeOneType (some (.labelled "west of here" (-5400))) other := by
  have h : normalizeIfGiven (some (.labelled "west of here" (-5400))) = .ok (some (.fixed (-90))) := by
    have hname : isName "west of here" = false := isName_eq_false (by decide)
    rw [normalizeIfGiven, normalize, hname]
    rfl
  have hknown : ∀ s ∈ some (ZoneSource.labelled "west of here" (-5400)), s.Known := by
    rintro s ⟨⟩
    trivial
  exact ⟨h, normalizeIfGiven_stable hknown h⟩

/-! ### The rules of a name -/

/-- A row is found under its name if the names are distinct. -/
lemma find?_row {α : Type} {rows : List (String × α)} {row : String × α} (hnodup : (rows.map (·.1)).Nodup)
    (h : row ∈ rows) : rows.find? (·.1 == row.1) = some row := by
  induction rows with
  | nil => cases h
  | cons first rows ih =>
    rw [List.map_cons, List.nodup_cons] at hnodup
    rcases List.mem_cons.1 h with rfl | h
    · rw [List.find?_cons_of_pos (by simp)]
    · have hne : first.1 ≠ row.1 := by
        intro heq
        exact hnodup.1 (heq ▸ List.mem_map_of_mem h)
      rw [List.find?_cons_of_neg (by simpa using hne), ih hnodup.2 h]

/-- A zone with a row of its own has the rules of this row. -/
lemma rules_of_row {offsets changes : String} (h : (name, offsets, changes) ∈ table) :
    (Zone.named name).rules = readRules offsets changes := by
  obtain ⟨htable, -, hapart⟩ := List.nodup_append.1 nodup_names
  have hlink : links.find? (·.1 == name) = none := by
    rw [List.find?_eq_none]
    intro link hlink hname
    have hsame : name = link.1 := (beq_iff_eq.1 hname).symm
    exact hapart name (List.mem_map_of_mem h) link.1 (List.mem_map_of_mem hlink) hsame
  have hrow : table.find? (·.1 == name) = some (name, offsets, changes) := find?_row htable h
  rw [rules, tableName, hlink]
  simp only [hrow]

/-- A name that stands for another one has the rules of that one. -/
lemma rules_of_link {target offsets changes : String} (hlink : (name, target) ∈ links)
    (h : (target, offsets, changes) ∈ table) : (Zone.named name).rules = readRules offsets changes := by
  obtain ⟨htable, hlinks, -⟩ := List.nodup_append.1 nodup_names
  have hname : links.find? (·.1 == name) = some (name, target) := find?_row hlinks hlink
  have hrow : table.find? (·.1 == target) = some (target, offsets, changes) := find?_row htable h
  rw [rules, tableName, hname]
  simp only [hrow]

/-- The digits of a number contain no blank. -/
lemma blank_notMem_toString (m : Int) : ' ' ∉ (toString m).toList := by
  have hdigits : ∀ k : Nat, ' ' ∉ k.repr.toList := by
    intro k hmem
    rw [Nat.toList_repr] at hmem
    have hdigit := Nat.isDigit_of_mem_toDigits (by decide) (by decide) hmem
    exact absurd hdigit (by decide)
  have hrepr : toString m = m.repr := rfl
  rw [hrepr, Int.repr_eq_if]
  split_ifs
  · exact hdigits _
  · simpa using hdigits _

/-- A row with a single offset and without changes. -/
lemma readRules_single (m : Int) : readRules (toString m) "" = ⟨m, []⟩ := by
  have hsplit : (toString m).toList.splitOn ' ' = [(toString m).toList] :=
    List.splitOnP_eq_singleton fun c hc => beq_false_of_ne (ne_of_mem_of_not_mem hc (blank_notMem_toString m))
  rw [readRules, hsplit]
  simp [readChanges]

/-! ### Fixed offsets -/

/-- The zones that fixed offsets stand for: universal time, a zone of the database if the offset is a whole number of
hours in its range, and the offset itself in all other cases. The names count hours to the west. -/
inductive IsAt : Int → Zone → Prop where
  | universal : IsAt 0 utc
  | east {hours : Nat} (some : 0 < hours) (range : hours ≤ 14) :
    IsAt (60 * hours) (.named ("Etc/GMT-" ++ toString hours))
  | west {hours : Nat} (some : 0 < hours) (range : hours ≤ 12) :
    IsAt (-(60 * hours)) (.named ("Etc/GMT+" ++ toString hours))
  | nameless {m : Int} (range : m.natAbs < 1440) (nameless : ¬ (m % 60 = 0 ∧ -12 ≤ m / 60 ∧ m / 60 ≤ 14)) :
    IsAt m (.fixed m)

/-- The rows of the zones that are named by their offset. They stand side by side. -/
def fixedRows : List (String × String × String) :=
  (table.drop 311).take 28

lemma mem_table_of_mem_fixedRows {row : String × String × String} (h : row ∈ fixedRows) : row ∈ table :=
  List.mem_of_mem_drop (List.mem_of_mem_take h)

/-- The row of universal time. -/
lemma row_utc : ("UTC", "Etc/UTC") ∈ links ∧ ("Etc/UTC", toString (0 : Int), "") ∈ fixedRows := by
  decide +kernel

/-- The rows of the whole hours to the east. -/
lemma row_east : ∀ hours : Nat, hours < 15 → 0 < hours →
    ("Etc/GMT-" ++ toString hours, toString (60 * hours : Int), "") ∈ fixedRows := by
  decide +kernel

/-- The rows of the whole hours to the west. -/
lemma row_west : ∀ hours : Nat, hours < 13 → 0 < hours →
    ("Etc/GMT+" ++ toString hours, toString (-(60 * hours) : Int), "") ∈ fixedRows := by
  decide +kernel

lemma rules_utc : utc.rules = ⟨0, []⟩ := by
  rw [utc, rules_of_link row_utc.1 (mem_table_of_mem_fixedRows row_utc.2), readRules_single]

/-- The zone of an offset has this offset, and no other. -/
theorem rules_of_isAt (h : IsAt m z) : z.rules = ⟨m, []⟩ := by
  cases h with
  | universal => exact rules_utc
  | east some range =>
    rw [rules_of_row (mem_table_of_mem_fixedRows (row_east _ (by omega) some)), readRules_single]
  | west some range =>
    rw [rules_of_row (mem_table_of_mem_fixedRows (row_west _ (by omega) some)), readRules_single]
  | nameless => rfl

/-- An offset is brought to the zone that it stands for. -/
lemma ofMinutes_of_isAt (h : IsAt m z) : ofMinutes m = .ok z := by
  cases h with
  | universal => rfl
  | @east hours some range =>
    rw [ofMinutes, if_neg (by omega), if_pos (by omega)]
    have hsign : ¬ (60 * hours : Int) / 60 < 0 := by omega
    have hhours : ((60 * hours : Int) / 60).natAbs = hours := by omega
    simp only [hsign, if_false, hhours]
    rfl
  | @west hours some range =>
    rw [ofMinutes, if_neg (by omega), if_pos (by omega)]
    have hsign : -(60 * hours : Int) / 60 < 0 := by omega
    have hhours : (-(60 * hours : Int) / 60).natAbs = hours := by omega
    simp only [hsign, if_true, hhours]
    rfl
  | nameless range nameless => exact ofMinutes_of_nameless range nameless

/-- Each offset of less than a day stands for a zone. -/
lemma exists_isAt (h : m.natAbs < 1440) : ∃ z, IsAt m z := by
  by_cases hhours : m % 60 = 0 ∧ -12 ≤ m / 60 ∧ m / 60 ≤ 14
  · rcases lt_trichotomy m 0 with hwest | rfl | heast
    · have hm : m = -(60 * ((m / 60).natAbs : Int)) := by omega
      exact ⟨_, hm ▸ IsAt.west (by omega) (by omega)⟩
    · exact ⟨utc, .universal⟩
    · have hm : m = 60 * ((m / 60).natAbs : Int) := by omega
      exact ⟨_, hm ▸ IsAt.east (by omega) (by omega)⟩
  · exact ⟨.fixed m, .nameless h hhours⟩

/-- An offset of whole minutes, which is given in microseconds. -/
lemma ofOffset_minutes (m : Int) : ofOffset (60 * m * 1000000) = ofMinutes m := by
  have hmicros : 60 * m * 1000000 = m * 60000000 := by omega
  rw [ofOffset, hmicros, if_neg (by simp), Int.mul_ediv_cancel m (by decide)]

/-- The fixed offsets that come in whole minutes and are less than a day, with their minutes. -/
inductive HasOffset : ZoneSource → Int → Prop where
  | universal : HasOffset .universal 0
  | offset {m : Int} (range : m.natAbs < 1440) : HasOffset (.offset (60 * m)) m
  | labelled {m : Int} (name : String) (range : m.natAbs < 1440) : HasOffset (.labelled name (60 * m)) m
  | minutes {m : Int} (range : m.natAbs < 1440) : HasOffset (.minutes m) m

/-- Fixed offsets are brought to normal form by their offset alone. -/
structure NormalizesByOffset (source : ZoneSource) (m : Int) : Prop where
  /-- A name makes no difference. -/
  unnamed : normalize source = normalize (.offset (60 * m))
  /-- The normal form is the zone of the offset, which has the offset at all times. -/
  placed : ∃ z, normalize source = .ok z ∧ IsAt m z ∧ ∀ instant, z.rules.offsetAt instant = m

/-- The normal form of an offset that has no name. -/
lemma normalize_offset (hz : IsAt m z) : normalize (.offset (60 * m)) = .ok z :=
  (ofOffset_minutes m).trans (ofMinutes_of_isAt hz)

lemma normalizesByOffset_of_normalize {source : ZoneSource} (hz : IsAt m z) (h : normalize source = .ok z) :
    NormalizesByOffset source m where
  unnamed := h.trans (normalize_offset hz).symm
  placed := by
    refine ⟨z, h, hz, ?_⟩
    intro instant
    rw [rules_of_isAt hz, ZoneRules.offsetAt, List.foldl_nil]

/-- A fixed offset has the range of the zones. -/
lemma HasOffset.range {source : ZoneSource} (h : HasOffset source m) : m.natAbs < 1440 := by
  cases h with
  | universal => decide
  | offset range | labelled _ range | minutes range => exact range

/-- The normal form of a fixed offset: the zone of its offset, except if its name is that of a zone. -/
lemma normalize_of_hasOffset {source : ZoneSource} (h : HasOffset source m) (hz : IsAt m z)
    (hname : ∀ name, source = .labelled name (60 * m) → isName name = false) : normalize source = .ok z := by
  cases h with
  | universal => exact ofMinutes_of_isAt hz
  | offset range => exact normalize_offset hz
  | labelled name range =>
    rw [normalize, hname name rfl, if_neg (by decide)]
    exact normalize_offset hz
  | minutes range => exact ofMinutes_of_isAt hz

/-- **Fixed offsets.** A fixed offset is brought to normal form by its offset alone, whatever its name, if and only if
its name is not that of some other zone. -/
theorem normalizesByOffset_iff {source : ZoneSource} (h : HasOffset source m) :
    NormalizesByOffset source m ↔
      ∀ name, source = .labelled name (60 * m) → isName name = true → IsAt m (.named name) := by
  obtain ⟨z, hz⟩ := exists_isAt h.range
  constructor
  · rintro ⟨-, z', hnormal, hplaced, -⟩ name rfl hname
    rw [normalize, if_pos hname] at hnormal
    cases hnormal
    exact hplaced
  · intro hsame
    by_cases hname : ∃ name, source = .labelled name (60 * m) ∧ isName name = true
    · obtain ⟨name, rfl, hname⟩ := hname
      refine normalizesByOffset_of_normalize (hsame name rfl hname) ?_
      rw [normalize, if_pos hname]
    · refine normalizesByOffset_of_normalize hz (normalize_of_hasOffset h hz ?_)
      intro name hsource
      refine Bool.eq_false_iff.2 ?_
      intro hknown
      exact hname ⟨name, hsource, hknown⟩

/-- The offset of two hours, with a name that is written in small letters. -/
theorem normalizesByOffset_iff_small :
    HasOffset (.labelled "utc" 7200) 120 ∧ NormalizesByOffset (.labelled "utc" 7200) 120 := by
  have hunknown : isName "utc" = false := isName_eq_false (by decide)
  have hoffset : HasOffset (.labelled "utc" (60 * 120)) 120 := .labelled "utc" (by decide)
  refine ⟨hoffset, (normalizesByOffset_iff hoffset).2 ?_⟩
  rintro name ⟨⟩ hname
  rw [hunknown] at hname
  cases hname

/-- No offset stands for this zone, for all that its offset never changes. -/
lemma not_isAt_est : ¬ IsAt m (.named "EST") := by
  intro h
  generalize hz : Zone.named "EST" = z at h
  cases h with
  | universal => exact absurd hz (by decide)
  | east | west =>
    have hname := congrArg String.toList (Zone.named.inj hz)
    rw [String.toList_append] at hname
    exact absurd (congrArg (·[2]?) hname) (by simp)
  | nameless => cases hz

/-- The offset of an hour to the east with the name of a zone that is five hours to the west. -/
theorem not_normalizesByOffset :
    ¬ ∀ source m, HasOffset source m → NormalizesByOffset source m := by
  intro h
  obtain ⟨-, z, hz, hplaced, -⟩ := h (.labelled "EST" (60 * 60)) 60 (.labelled "EST" (by decide))
  have hknown : isName "EST" = true := by decide +kernel
  rw [normalize, if_pos hknown] at hz
  cases hz
  exact not_isAt_est hplaced

end Zone

end Coercion
