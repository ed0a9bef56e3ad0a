import Coercion.Proofs.Combine.Agreement
import Coercion.Proofs.Combine.Levels

/-!
Values that are kept by combination. The common type is above the types of all vectors, so every value finds its place
in the result and is kept there, except for integers without an equal floating-point number and dates without a single
midnight, and it is these that the report names. Only the levels of categoricals may fail to match: truth values are
equal to zero and one, and so are levels that both have, but where truth values stand alone on one side and numbers on
the other, storage takes none of them for the other, and values are lost without a report. And a midnight may have its
instant out of range, on a clock that is most of a day off.
-/

namespace Coercion

/-- Whether a report names a position of an input. -/
def Reported.Flags (r : Reported) (i j : Nat) : Prop :=
  ∃ w ∈ r.warnings, ∃ positions, (i, positions) ∈ w.lossy ∧ j ∈ positions

namespace Engine

open VectorType Registry Column

variable {strict : Bool} {rule : LossyRule} {vs : List TypedVector} {ts : List VectorType} {t : VectorType}
  {results : List CastResult} {levels : List Value}

/-- Where the values of an input begin in the vector that the inputs are combined into. -/
def start (vs : List TypedVector) (i : Nat) : Nat :=
  ((vs.take i).flatMap TypedVector.values).length

/-- Whether combination keeps the values of the inputs: all of them are there, in order; those that are not excepted are
kept, and exactly those that are excepted are named in a report, if one is wished for. -/
structure KeepsValues (rule : LossyRule) (vs : List TypedVector) (r : Reported) : Prop where
  size : r.vector.size = start vs vs.length
  value : ∀ (i : Nat) v (j : Nat) x, vs[i]? = some v → v.values[j]? = some x →
    ∃ y, r.vector.values[start vs i + j]? = some y ∧ (¬ Excepted r.vector.type x → Kept r.vector.type x y)
  flagged : ∀ i j, r.Flags i j ↔
    rule = .warn ∧ ∃ v x, vs[i]? = some v ∧ v.values[j]? = some x ∧ Excepted r.vector.type x

/-! ### The type that is found -/

/-- What is found without a target is the common type, or that of truth values if nothing is known of the inputs. -/
lemma combinedType_none_eq_ok (hts : ∀ s ∈ ts, s.IsStandard) (h : standard.combinedType strict none ts = .ok t) :
    ∃ c, commonFrom? strict .null ts = some c ∧ (c = .unspecified ∧ t = .logical ∨ c = t ∧ t ≠ .unspecified) := by
  have hsettles := commonType_standard strict hts
  change (Registry.standard.commonType strict ts >>= _) = _ at h
  cases hc : commonFrom? strict .null ts with
  | none =>
    rw [hc] at hsettles
    obtain ⟨f, hf, -⟩ := hsettles
    rw [hf] at h
    cases h
  | some c =>
    rw [hc] at hsettles
    rw [show Registry.standard.commonType strict ts = .ok c from hsettles] at h
    refine ⟨c, rfl, ?_⟩
    cases c <;> first | exact Or.inl ⟨rfl, by cases h; rfl⟩ | (cases h; exact Or.inr ⟨rfl, nofun⟩)

/-- What is below the unspecified type is below that of truth values. -/
lemma below_logical {s : VectorType} (h : Below s .unspecified) : Below s .logical := by
  cases h with
  | null => exact .null _
  | unspecified => exact .unspecified nofun
  | number _ hy _ => cases hy

/-- The type that is found without a target is above the types of all inputs, and its levels are theirs. -/
theorem combinedType_above (hts : ∀ s ∈ ts, s.IsStandard ∧ s.isBuiltIn = true)
    (h : standard.combinedType strict none ts = .ok t) :
    t.IsStandard ∧ t ≠ .unspecified ∧ (∀ s ∈ ts, s.Below t) ∧ ∀ l ∈ t.levels, ∃ s ∈ ts, l ∈ s.levels := by
  have hstandard : ∀ s ∈ ts, s.IsStandard := by
    intro s hs
    exact (hts s hs).1
  obtain ⟨c, hc, hcases⟩ := combinedType_none_eq_ok hstandard h
  obtain ⟨-, hbelow⟩ := below_commonFrom? .null rfl hts hc
  rcases hcases with ⟨rfl, rfl⟩ | ⟨rfl, hspec⟩
  · exact ⟨.logical, nofun, fun s hs => below_logical (hbelow s hs), nofun⟩
  · refine ⟨commonFrom?_isStandard .null hstandard hc, hspec, hbelow, ?_⟩
    intro l hl
    rcases mem_levels_commonFrom? hc hl with hnone | hsome
    · cases hnone
    · exact hsome

/-! ### Reports -/

/-- What a report is about: the positions that are lost in each of the casts. -/
def lossyEntries (results : List CastResult) : List (Nat × List Nat) :=
  results.zipIdx.map fun p => (p.2, p.1.lossy)

lemma mem_lossyEntries {i : Nat} {positions : List Nat} :
    (i, positions) ∈ lossyEntries results ↔ ∃ result, results[i]? = some result ∧ positions = result.lossy := by
  simp only [lossyEntries, List.mem_map, Prod.exists, List.mem_zipIdx_iff_getElem?, Prod.mk.injEq]
  constructor
  · rintro ⟨result, k, hresult, rfl, rfl⟩
    exact ⟨result, hresult, rfl⟩
  · rintro ⟨result, hresult, rfl⟩
    exact ⟨result, i, hresult, rfl, rfl⟩

/-- There is one report at most; it is made if it is wished for and something is lost, and leaves out where nothing
is. -/
lemma mem_reports {entries : List (Nat × List Nat)} {warning : LossyWarning} :
    warning ∈ reports rule t entries ↔
      rule = .warn ∧ (∃ entry ∈ entries, entry.2 ≠ []) ∧
        warning = ⟨entries.filter fun entry => !entry.2.isEmpty, t.display⟩ := by
  have hsome : (!(entries.filter fun entry => !entry.2.isEmpty).isEmpty) = true ↔ ∃ entry ∈ entries, entry.2 ≠ [] := by
    simp [List.isEmpty_eq_false_iff]
  rw [reports]
  split_ifs with hreported
  · rw [List.mem_singleton]
    exact ⟨fun h => ⟨hreported.1, hsome.1 hreported.2, h⟩, fun h => h.2.2⟩
  · refine iff_of_false nofun fun h => hreported ⟨h.1, hsome.2 h.2.1⟩

/-- A report is made if it is wished for, and names the positions that are lost in each of the casts. -/
lemma flags_reports_iff (w : TypedVector) (i j : Nat) :
    (⟨w, reports rule t (results.zipIdx.map fun p => (p.2, p.1.lossy))⟩ : Reported).Flags i j ↔
      rule = .warn ∧ ∃ result, results[i]? = some result ∧ j ∈ result.lossy := by
  change (∃ warning ∈ reports rule t (lossyEntries results), _) ↔ _
  constructor
  · rintro ⟨warning, hwarning, positions, hmem, hj⟩
    obtain ⟨hrule, -, rfl⟩ := mem_reports.1 hwarning
    obtain ⟨result, hresult, rfl⟩ := mem_lossyEntries.1 (List.mem_filter.1 hmem).1
    exact ⟨hrule, result, hresult, hj⟩
  · rintro ⟨hrule, result, hresult, hj⟩
    have hmem : (i, result.lossy) ∈ lossyEntries results := mem_lossyEntries.2 ⟨result, hresult, rfl⟩
    have hlossy : result.lossy ≠ [] := List.ne_nil_of_mem hj
    refine ⟨_, mem_reports.2 ⟨hrule, ⟨_, hmem, hlossy⟩, rfl⟩, result.lossy, ?_, hj⟩
    refine List.mem_filter.2 ⟨hmem, ?_⟩
    rw [Bool.not_eq_true', List.isEmpty_eq_false_iff]
    exact hlossy

/-! ### Joined results -/

/-- Results of a type other than a categorical one are joined as they are. -/
lemma join_stored (ht : t.IsStandard) (hnot : ∀ levels, t ≠ .categorical levels)
    (hjoins : ∀ r ∈ results, r.vector.column.JoinsAs t) :
    join t results = .ok ⟨t, ⟨t.storage, results.flatMap fun r => r.vector.values⟩⟩ := by
  rw [join]
  split_ifs with hempty
  · rw [List.isEmpty_iff.1 hempty, VectorType.empty, vectorOf, construct_eq_voided ht isVoid_ofValues_nil fun _ => rfl]
    rfl
  · have hconvert : ∀ c ∈ results.map (fun r => r.vector.column), c.convert t.storage = .ok (id c) := by
      intro c hc
      obtain ⟨r, hr, rfl⟩ := List.mem_map.1 hc
      have hjoin := hjoins r hr
      refine convert_of_same ?_
      cases ht with
      | categorical => exact absurd rfl (hnot _)
      | _ => exact hjoin
    have hconcat : t.concat (results.map fun r => r.vector.column) =
        .ok ⟨t.storage, results.flatMap fun r => r.vector.values⟩ := by
      rw [concat.eq_def]
      have hsome : (results.map fun r => r.vector.column).isEmpty = false := by
        rw [List.isEmpty_map]
        exact Bool.not_eq_true _ ▸ hempty
      cases ht with
      | categorical => exact absurd rfl (hnot _)
      | _ =>
        simp only [hsome, Bool.false_eq_true, if_false, mapM_eq_ok_map hconvert, List.map_id]
        change Except.ok (⟨_, List.flatMap _ (List.map _ results)⟩ : Column) = _
        rw [List.flatMap_map]
        rfl
    rw [hconcat]
    rfl

lemma values_join {w : TypedVector} (ht : t.IsStandard) (hnot : ∀ levels, t ≠ .categorical levels)
    (hjoins : ∀ r ∈ results, r.vector.column.JoinsAs t) (h : join t results = .ok w) :
    w.values = results.flatMap fun r => r.vector.values := by
  rw [join_stored ht hnot hjoins] at h
  cases h
  rfl

/-- Results of a categorical type are joined level by level. -/
lemma join_categorical (levels : List Value) (results : List CastResult) :
    join (.categorical levels) results =
      (VectorType.categorical levels).vectorOf (.ofValues (results.flatMap fun r => r.vector.values)) := by
  rw [join]
  split_ifs with hempty
  · rw [List.isEmpty_iff.1 hempty]
    rfl
  · have hflat : (results.map fun r => r.vector.column).flatMap Column.values =
        results.flatMap fun r => r.vector.values := List.flatMap_map _ _ _
    rw [← hflat]
    rfl

lemma values_join_categorical {w : TypedVector} (h : join (.categorical levels) results = .ok w) :
    w.values = (results.flatMap fun r => r.vector.values).map
      (taken (storedLevels levels) (.ofValues (results.flatMap fun r => r.vector.values))) := by
  rw [join_categorical] at h
  obtain ⟨c, hc, hw⟩ := bind_eq_ok_iff.1 h
  cases hw
  exact values_toLevels hc

/-! ### Combined vectors -/

lemma length_start {f : TypedVector → List Value} (h : ∀ v ∈ vs, (f v).length = v.values.length) (i : Nat) :
    ((vs.take i).flatMap f).length = start vs i := by
  refine length_flatMap_of_forall₂ (List.forall₂_same.2 ?_)
  intro v hv
  exact h v (List.mem_of_mem_take hv)

/-- Reports name what the casts flag. -/
lemma flags_iff_of_casts (w : TypedVector)
    (h : List.Forall₂ (fun v r => ∀ j, j ∈ r.lossy ↔ ∃ x, v.values[j]? = some x ∧ Excepted t x) vs results)
    (i j : Nat) :
    (⟨w, reports rule t (results.zipIdx.map fun p => (p.2, p.1.lossy))⟩ : Reported).Flags i j ↔
      rule = .warn ∧ ∃ v x, vs[i]? = some v ∧ v.values[j]? = some x ∧ Excepted t x := by
  rw [flags_reports_iff]
  refine and_congr_right ?_
  intro _
  constructor
  · rintro ⟨result, hresult, hj⟩
    obtain ⟨v, hv, hflagged⟩ := exists_getElem?_of_forall₂ h.flip hresult
    obtain ⟨x, hx, hexcepted⟩ := (hflagged j).1 hj
    exact ⟨v, x, hv, hx, hexcepted⟩
  · rintro ⟨v, x, hv, hx, hexcepted⟩
    obtain ⟨result, hresult, hflagged⟩ := exists_getElem?_of_forall₂ h hv
    exact ⟨result, hresult, (hflagged j).2 ⟨x, hx, hexcepted⟩⟩

/-- What is combined without a failure: a type is found, every vector is cast to it, and the results are joined. -/
lemma combine_eq_ok {target : Option Specifier} {r : Reported}
    (hr : standard.combine strict rule target (vs.map .vector) = .ok r) :
    ∃ t results w, standard.combinedType strict target (vs.map TypedVector.type) = .ok t ∧
      List.Forall₂ (fun v r => Registry.standard.castTo true v t = .ok r) vs results ∧ join t results = .ok w ∧
      r = ⟨w, reports rule t (results.zipIdx.map fun p => (p.2, p.1.lossy))⟩ := by
  rw [combine_vectors] at hr
  obtain ⟨t, hfound, hr⟩ := bind_eq_ok_iff.1 hr
  obtain ⟨results, hcasts, hr⟩ := bind_eq_ok_iff.1 hr
  obtain ⟨w, hjoined, hr⟩ := bind_eq_ok_iff.1 hr
  cases hr
  exact ⟨t, results, w, hfound, (mapM_eq_ok_iff _ _).1 hcasts, hjoined, rfl⟩

/-- Where a value of a result stands among the joined ones. -/
lemma getElem?_joined {w : TypedVector} {i j : Nat} {r : CastResult} {y : Value}
    (hlengths : List.Forall₂ (fun v (r : CastResult) => v.values.length = r.vector.values.length) vs results)
    (hvalues : w.values = results.flatMap fun r => r.vector.values) (hr : results[i]? = some r)
    (hy : r.vector.values[j]? = some y) : w.values[start vs i + j]? = some y := by
  have hstart : ((results.take i).flatMap fun r => r.vector.values).length = start vs i :=
    (length_flatMap_of_forall₂ (List.forall₂_take i hlengths)).symm
  have hposition := getElem?_flatMap (fun r : CastResult => r.vector.values) hr hy
  rw [hstart, ← hvalues] at hposition
  exact hposition

/-- Vectors whose values are kept by the casts, and joined as they are, keep their values when they are combined. -/
lemma keepsValues_of_casts {w : TypedVector} (hw : w.type = t)
    (hcasts : List.Forall₂ (fun v r => Keeps t v r ∧ v.values.length = r.vector.values.length) vs results)
    (hvalues : w.values = results.flatMap fun r => r.vector.values) :
    KeepsValues rule vs ⟨w, reports rule t (results.zipIdx.map fun p => (p.2, p.1.lossy))⟩ := by
  subst hw
  have hlengths := hcasts.imp fun v r h => h.2
  constructor
  case size =>
    change w.values.length = (List.flatMap _ (vs.take vs.length)).length
    rw [List.take_length, hvalues]
    exact (length_flatMap_of_forall₂ hlengths).symm
  case value =>
    intro i v j x hv hx
    obtain ⟨r, hr, hkeeps, hlength⟩ := exists_getElem?_of_forall₂ hcasts hv
    have hj : j < r.vector.values.length := hlength ▸ (List.getElem?_eq_some_iff.1 hx).1
    have hy := List.getElem?_eq_getElem hj
    exact ⟨_, getElem?_joined hlengths hvalues hr hy, hkeeps.kept j x _ hx hy⟩
  case flagged => exact flags_iff_of_casts w (hcasts.imp fun v r h => h.1.flagged_iff)

/-- The values of a categorical are missing together with what is kept of them. -/
lemma isMissing_of_kept {x y : Value} (h : Kept (.categorical levels) x y) : x.isMissing = y.isMissing := by
  cases h with
  | missing source result => rw [source, result]
  | number ht => cases ht
  | level _ equal => exact Value.same_isMissing equal

/-- Vectors keep their values when they are combined into a categorical if and only if the values match its levels. -/
lemma keepsValues_categorical_iff {w : TypedVector} (hw : w.type = .categorical levels) (hlevels : HaveLevels levels vs)
    (hcasts : List.Forall₂ (Carries levels) vs results)
    (hjoined : join (.categorical levels) results = .ok w) :
    KeepsValues rule vs ⟨w, reports rule (.categorical levels) (results.zipIdx.map fun p => (p.2, p.1.lossy))⟩ ↔
      MatchesLevels levels vs := by
  have hgathered : (results.flatMap fun r => r.vector.values) = gathered levels vs :=
    (flatMap_eq_of_forall₂ (hcasts.imp fun v r h => h.values.symm)).symm
  have hvalues := values_join_categorical hjoined
  rw [hgathered] at hvalues
  have hposition : ∀ (i : Nat) v (j : Nat) x, vs[i]? = some v → v.values[j]? = some x →
      w.values[start vs i + j]? = some (combined levels vs v x) := by
    intro i v j x hv hx
    have hcarried : (v.values.map (carried levels v))[j]? = some (carried levels v x) := by
      rw [List.getElem?_map, hx]
      rfl
    have hplace := getElem?_flatMap (fun v : TypedVector => v.values.map (carried levels v)) hv hcarried
    rw [length_start fun v _ => List.length_map _] at hplace
    rw [hvalues, List.getElem?_map, gathered, hplace]
    rfl
  constructor
  · intro hkeeps
    refine matchesLevels_of_present ?_
    intro v hv x hx hm
    obtain ⟨i, hi⟩ := List.getElem?_of_mem hv
    obtain ⟨j, hj⟩ := List.getElem?_of_mem hx
    obtain ⟨y, hy, hkept⟩ := hkeeps.value i v j x hi hj
    rw [hposition i v j x hi hj] at hy
    cases hy
    rw [hw] at hkept
    have hkept' := hkept (by rintro ⟨⟩)
    rw [← isMissing_of_kept hkept', hm]
  · intro hmatch
    constructor
    case size =>
      have hlength : ((vs.take vs.length).flatMap fun v => v.values.map (carried levels v)).length =
          start vs vs.length :=
        length_start (fun v _ => List.length_map _) vs.length
      rw [List.take_length] at hlength
      change w.values.length = _
      rw [hvalues, List.length_map, ← hlength]
      rfl
    case value =>
      intro i v j x hv hx
      refine ⟨_, hposition i v j x hv hx, ?_⟩
      intro _
      rw [hw]
      exact kept_combined hlevels hmatch (List.mem_of_getElem? hv) (List.mem_of_getElem? hx)
    case flagged =>
      rw [hw]
      refine flags_iff_of_casts w ?_
      -- nothing is dropped, so nothing is flagged
      have hmem := forall₂_mem_left hcasts
      refine hmem.imp fun v r h j => iff_of_false ?_ (by rintro ⟨x, -, ⟨⟩⟩)
      intro hj
      obtain ⟨hv, hcast⟩ := h
      obtain ⟨x, hx, hm, hlost⟩ := hcast.dropped j hj
      obtain ⟨l, hl, hlx⟩ := hlevels v hv x (List.mem_of_getElem? hx) hm
      have hsame := same_carried (hmatch.each v hv) hm hl hlx
      rw [Value.same_isMissing hsame, hm] at hlost
      cases hlost

/-- A vector that is cast to the type that has been found is cast to one of its size that can be joined to others. -/
lemma joinsAs_of_cast (hts : ∀ s ∈ ts, s.IsStandard) (hfound : standard.combinedType strict none ts = .ok t)
    {v : TypedVector} (hv : v.WellFormed) (hmem : v.type ∈ ts) {r : CastResult}
    (hr : Registry.standard.castTo true v t = .ok r) :
    r.vector.column.JoinsAs t ∧ v.values.length = r.vector.values.length := by
  rcases finds_combinedType_none strict hts with ⟨u, hu, hstandard, hfits⟩ | ⟨f, hf, -⟩
  · rw [hfound] at hu
    cases hu
    exact joinsAs_of_castTo hv hstandard (hfits v.type hmem) hr
  · rw [hfound] at hf
    cases hf

/-- Of the vectors below datetimes only those of dates hold days. -/
lemma type_of_day {zone : Option Zone} {v : TypedVector} {day : Int} (hv : v.WellFormed)
    (hbelow : v.type.Below (.datetime zone)) (hday : .period day ∈ v.values) : v.type = .date := by
  generalize hs : v.type = s at hbelow
  cases hbelow with
  | null =>
    rw [hv.values_of_null hs] at hday
    cases hday
  | unspecified => cases hv.absent_of_unspecified hs hday
  | number _ ht => cases ht
  | midnight => rfl
  | _ => rcases datetime_cases hv hs hday with h | ⟨t, h⟩ <;> cases h

/-- If the values are kept, then each midnight that is shown once has its instant within range. -/
lemma beginsInRange_of_keepsValues {zone : Zone} {w : TypedVector} {reported : List LossyWarning}
    (hw : w.type = .datetime (some zone)) (hwell : ∀ v ∈ vs, v.WellFormed)
    (hbelow : ∀ v ∈ vs, v.type.Below (.datetime (some zone)))
    (hcasts : List.Forall₂ (fun v r => Registry.standard.castTo true v (.datetime (some zone)) = .ok r) vs results)
    (hlengths : List.Forall₂ (fun v (r : CastResult) => v.values.length = r.vector.values.length) vs results)
    (hvalues : w.values = results.flatMap fun r => r.vector.values) (hkeeps : KeepsValues rule vs ⟨w, reported⟩)
    {v : TypedVector} (hv : v ∈ vs) {day : Int} (hday : .period day ∈ v.values) : BeginsInRange zone day := by
  have hdate := type_of_day (hwell v hv) (hbelow v hv) hday
  obtain ⟨i, hi⟩ := List.getElem?_of_mem hv
  obtain ⟨j, hj⟩ := List.getElem?_of_mem hday
  obtain ⟨r, hr, hcast⟩ := exists_getElem?_of_forall₂ hcasts hi
  refine beginsInRange_of_kept (inRange_of_castTo_datetime hdate hcast hday) ?_
  have hresult := result_of_castTo_datetime standard_tellsTimeBy hdate hcast
  have hplaced : r.vector.values[j]? = some (Registry.start .standard (some zone) (.period day)) := by
    rw [hresult]
    change (v.values.map _)[j]? = _
    rw [List.getElem?_map, hj]
    rfl
  obtain ⟨y, hy, hkept⟩ := hkeeps.value i v j _ hi hj
  rw [getElem?_joined hlengths hvalues hr hplaced] at hy
  cases hy
  rw [hw] at hkept
  exact hkept

/-- **Combination keeps values.** Vectors of built-in types that do not mix integers with floating-point numbers among
their levels keep their values when they are combined, except for those that are excepted, which are reported, if and
only if their values match the levels of the result in case it is a categorical, and their dates begin within range in
case it is one of datetimes in a zone. -/
theorem combine_keepsValues_iff (strict : Bool) (rule : LossyRule)
    (hvs : ∀ v ∈ vs, v.WellFormed ∧ v.type.isBuiltIn = true) (hmix : ¬ MixesNumbers vs) {r : Reported}
    (hr : standard.combine strict rule none (vs.map .vector) = .ok r) :
    KeepsValues rule vs r ↔ (∀ levels, r.vector.type = .categorical levels → MatchesLevels levels vs) ∧
      ∀ zone, r.vector.type = .datetime (some zone) → ∀ v ∈ vs, ∀ day, .period day ∈ v.values →
        BeginsInRange zone day := by
  have hwell : ∀ v ∈ vs, v.WellFormed := by
    intro v hv
    exact (hvs v hv).1
  have hts : ∀ s ∈ vs.map TypedVector.type, s.IsStandard ∧ s.isBuiltIn = true := by
    intro s hs
    obtain ⟨v, hv, rfl⟩ := List.mem_map.1 hs
    exact ⟨(hwell v hv).standard, (hvs v hv).2⟩
  obtain ⟨t, results, w, hfound, hcasts, hjoined, rfl⟩ := combine_eq_ok hr
  obtain ⟨ht, hspec, habove, hown⟩ := combinedType_above hts hfound
  have hw : w.type = t := type_of_join hjoined
  have hbelow : ∀ v ∈ vs, v.type.Below t := by
    intro v hv
    exact habove v.type (List.mem_map_of_mem hv)
  have hmem := forall₂_mem_left hcasts
  by_cases hcategorical : ∃ levels, t = .categorical levels
  · obtain ⟨levels, rfl⟩ := hcategorical
    have hlevels : LegalLevels levels := by
      cases ht with
      | categorical legal => exact legal
    have hhave : HaveLevels levels vs := by
      refine haveLevels hwell hmix hbelow ?_
      intro l hl
      obtain ⟨s, hs, hl⟩ := hown l hl
      obtain ⟨v, hv, rfl⟩ := List.mem_map.1 hs
      exact ⟨v, hv, hl⟩
    have hcarried := hmem.imp fun v r h => castTo_categorical hlevels (hwell v h.1) (hbelow v h.1) h.2
    rw [keepsValues_categorical_iff hw hhave hcarried hjoined]
    constructor
    · intro hmatch
      constructor
      · intro ls hls
        rw [hw] at hls
        cases hls
        exact hmatch
      · intro zone hzone
        cases hw.symm.trans hzone
    · rintro ⟨hmatch, -⟩
      exact hmatch levels hw
  · -- in every other type all values are kept, and nothing is asked of them
    have hnot : ∀ levels, t ≠ .categorical levels := by
      intro levels heq
      exact hcategorical ⟨levels, heq⟩
    have hstandard : ∀ s ∈ vs.map TypedVector.type, s.IsStandard := by
      intro s hs
      exact (hts s hs).1
    have hjoins : ∀ r ∈ results, r.vector.column.JoinsAs t := by
      intro r hresult
      obtain ⟨v, -, hv, hcast⟩ := exists_mem_of_forall₂ hmem hresult
      have htype := List.mem_map_of_mem (f := TypedVector.type) hv
      exact (joinsAs_of_cast hstandard hfound (hwell v hv) htype hcast).1
    have hvalues := values_join ht hnot hjoins hjoined
    have hlengths : List.Forall₂ (fun v (r : CastResult) => v.values.length = r.vector.values.length) vs results :=
      hmem.imp fun v r h => (joinsAs_of_cast hstandard hfound (hwell v h.1) (List.mem_map_of_mem h.1) h.2).2
    constructor
    · intro hkeeps
      have hnone : ∀ levels, w.type ≠ .categorical levels := by
        intro levels hls
        exact hnot levels (hw.symm.trans hls)
      refine ⟨fun levels hls => absurd hls (hnone levels), ?_⟩
      intro zone hzone v hv day hday
      obtain rfl : t = .datetime (some zone) := hw.symm.trans hzone
      exact beginsInRange_of_keepsValues hw hwell hbelow hcasts hlengths hvalues hkeeps hv hday
    · rintro ⟨-, hbegins⟩
      refine keepsValues_of_casts hw ?_ hvalues
      refine (forall₂_and hmem hlengths).imp ?_
      intro v r h
      obtain ⟨⟨hv, hcast⟩, hlength⟩ := h
      have hdays : ∀ z, t = .datetime (some z) → ∀ day, .period day ∈ v.values → BeginsInRange z day := by
        intro z hz day hday
        exact hbegins z (hw.trans hz) v hv day hday
      exact ⟨castTo_keeps (hwell v hv) ht hnot hspec (hbelow v hv) hdays hcast, hlength⟩

/-- A categorical with one truth value for a level, and that level in it. -/
def oneTruth : TypedVector :=
  ⟨.categorical [.bool true], ⟨.category (some [.bool true]), [.bool true]⟩⟩

lemma wellFormed_oneTruth : oneTruth.WellFormed where
  standard := .categorical (by decide)
  stored := by decide
  held := List.forall_mem_singleton.2 (.level (by simp))
  admitted _ _ := trivial

/-- A categorical with one integer for a level, and no values. -/
def noneOfOne : TypedVector :=
  ⟨.categorical [.int 1], ⟨.category (some [.int 1]), []⟩⟩

lemma wellFormed_noneOfOne : noneOfOne.WellFormed where
  standard := .categorical (by decide)
  stored := by decide
  held := nofun
  admitted := nofun

lemma not_mixesNumbers_oneTruth {v : TypedVector} (hv : v.type = .categorical [.int 1]) :
    ¬ MixesNumbers [v, oneTruth] := by
  rintro ⟨-, -, w, hw, -, -, m, hm, -, hdouble⟩
  have hcases : m = .int 1 ∨ m = .bool true := by
    rcases List.mem_cons.1 hw with rfl | hw
    · rw [hv] at hm
      exact Or.inl (List.mem_singleton.1 hm)
    · rw [List.mem_singleton.1 hw] at hm
      exact Or.inr (List.mem_singleton.1 hm)
  rcases hcases with rfl | rfl <;> cases hdouble

/-- Beside the integer one, which is a level of both, the truth value is kept as this level. -/
theorem combine_keepsValues_iff_truth :
    KeepsValues .warn [oneLevel, oneTruth]
      ⟨⟨.categorical [.int 1], ⟨.category (some [.int 1]), [.int 1, .int 1]⟩⟩, []⟩ := by
  have hvs : ∀ v ∈ [oneLevel, oneTruth], v.WellFormed ∧ v.type.isBuiltIn = true := by
    simp only [List.forall_mem_cons]
    exact ⟨⟨wellFormed_oneLevel, rfl⟩, ⟨wellFormed_oneTruth, rfl⟩, by simp⟩
  refine (combine_keepsValues_iff false .warn hvs (not_mixesNumbers_oneTruth rfl) rfl).2 ⟨?_, by rintro zone ⟨⟩⟩
  intro levels hlevels
  cases hlevels
  constructor
  · simp only [List.forall_mem_cons]
    exact ⟨nofun, nofun, by simp⟩
  · rfl

/-- Alone among the values the truth value is lost, although the levels of the two vectors are equal; and no report
names it. -/
theorem not_combine_keepsValues :
    ¬ ∀ (strict : Bool) (rule : LossyRule) (vs : List TypedVector) (r : Reported),
      (∀ v ∈ vs, v.WellFormed ∧ v.type.isBuiltIn = true) → ¬ MixesNumbers vs →
        standard.combine strict rule none (vs.map .vector) = .ok r → KeepsValues rule vs r := by
  intro h
  have hvs : ∀ v ∈ [noneOfOne, oneTruth], v.WellFormed ∧ v.type.isBuiltIn = true := by
    simp only [List.forall_mem_cons]
    exact ⟨⟨wellFormed_noneOfOne, rfl⟩, ⟨wellFormed_oneTruth, rfl⟩, by simp⟩
  have hkeeps := h false .warn [noneOfOne, oneTruth]
    ⟨⟨.categorical [.int 1], ⟨.category (some [.int 1]), [.double .nan]⟩⟩, []⟩ hvs (not_mixesNumbers_oneTruth rfl) rfl
  obtain ⟨y, hy, hkept⟩ := hkeeps.value 1 oneTruth 0 (.bool true) rfl rfl
  cases hy
  have hmissing := isMissing_of_kept (hkept nofun)
  cases hmissing

end Engine

end Coercion
