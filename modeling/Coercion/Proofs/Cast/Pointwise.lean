import Coercion.Proofs.Cast.Kept

/-!
Casters value by value. Every caster between two kinds with values of their own, lists excepted, replaces the values of
a vector one by one. A missing value becomes the marker of the target and is not flagged, and a value that becomes
missing is flagged. So a caster treats a vector of missing values as any other cast would, and what it returns has the
type and the size that are asked for.
-/

namespace Coercion

namespace Registry

open VectorType Column

variable {v : TypedVector} {s t : VectorType} {f : Family} {c : Caster} {execute : Executor} {output : CasterOutput}
  {xs : List Value} {g : Value → Value} {flag : Value → Bool} {levels : List Value}

/-! ### Replacing values -/

/-- What is asked of a replacement of some values by those of a type, and of the flags that are set along with it. -/
structure Disciplined (t : VectorType) (xs : List Value) (g : Value → Value) (flag : Value → Bool) : Prop where
  /-- Missing values stay missing, and are not flagged. -/
  missing : ∀ x ∈ xs, x.isMissing = true → g x = t.storage.missing ∧ flag x = false
  /-- Values that become missing are flagged, but for datetimes that have no reading and become dates. -/
  dropped : ∀ x ∈ xs, x.isMissing = false → (g x).isMissing = true → flag x = true ∨ t = .date ∧ Unread x
  stored : ∀ x ∈ xs, (g x).identical (g x) = true

/-- Whether a caster has returned a vector of the target's type in which the values of the source are replaced one by
one. -/
def Pointwise (t : VectorType) (v : TypedVector) (output : CasterOutput) : Prop :=
  ∃ c lossy g flag, output = .result ⟨t, c⟩ lossy ∧ c.values = v.values.map g ∧
    (∀ i, i ∈ lossy ↔ ∃ x, v.values[i]? = some x ∧ flag x = true) ∧ Disciplined t v.values g flag

lemma Pointwise.of_flagged {d : Dtype} (h : Disciplined t v.values g flag) :
    Pointwise t v (.result ⟨t, ⟨d, v.values.map g⟩⟩ (positionsOf (v.values.map flag))) :=
  ⟨_, _, g, flag, rfl, rfl, mem_positionsOf flag v.values, h⟩

lemma Pointwise.of_exact {d : Dtype} (h : Disciplined t v.values g fun _ => false) :
    Pointwise t v (.result ⟨t, ⟨d, v.values.map g⟩⟩ []) :=
  ⟨_, _, g, _, rfl, rfl, by simp, h⟩

/-- Flags that are set where a value becomes missing. -/
lemma Pointwise.of_dropped {d : Dtype} (hmissing : ∀ x ∈ v.values, x.isMissing = true → g x = t.storage.missing)
    (hstored : ∀ x ∈ v.values, (g x).identical (g x) = true) :
    Pointwise t v (.result ⟨t, ⟨d, v.values.map g⟩⟩ (droppedPositions v.values (v.values.map g))) := by
  rw [droppedPositions, map_zip_map]
  refine .of_flagged ⟨fun x hx hm => ⟨hmissing x hx hm, by simp [hm]⟩, fun x hx hm hdropped => .inl ?_, hstored⟩
  simp [hm, hdropped]

lemma identical_missing (ht : t.IsStandard) : t.storage.missing.identical t.storage.missing = true := by
  cases ht <;> rfl

/-- Values are replaced as is asked for if each of them either is missing and stays so, or becomes a single value that
is present, or is dropped and flagged unless it has no reading. -/
lemma Disciplined.of_cases (ht : t.IsStandard)
    (h : ∀ x ∈ xs, x.isMissing = true ∧ g x = t.storage.missing ∧ flag x = false ∨
      x.isMissing = false ∧ ((g x).held? = none ∧ (g x).isMissing = false ∨
        g x = t.storage.missing ∧ (flag x = true ∨ t = .date ∧ Unread x))) :
    Disciplined t xs g flag where
  missing x hx hm := by
    rcases h x hx with ⟨-, hkept⟩ | ⟨hpresent, -⟩
    · exact hkept
    · rw [hm] at hpresent
      cases hpresent
  dropped x hx hm hlost := by
    rcases h x hx with ⟨hmissing, -⟩ | ⟨-, ⟨-, hkept⟩ | ⟨-, hflagged⟩⟩
    · rw [hm] at hmissing
      cases hmissing
    · rw [hlost] at hkept
      cases hkept
    · exact hflagged
  stored x hx := by
    rcases h x hx with ⟨-, hmarker, -⟩ | ⟨-, ⟨hheld, hkept⟩ | ⟨hmarker, -⟩⟩
    · rw [hmarker]
      exact identical_missing ht
    · exact Value.identical_of_same (Value.same_self hheld hkept)
    · rw [hmarker]
      exact identical_missing ht

/-! ### Casters from a kind to itself -/

lemma disciplined_id (ht : t.OfFamily f) (h : ∀ x ∈ xs, t.storage.Holds x) :
    Disciplined t xs id fun _ => false where
  missing x hx hm := ⟨ht.missing_eq (h x hx) hm, rfl⟩
  dropped x hx hm hlost := by
    rw [id, hm] at hlost
    cases hlost
  stored x hx := identical_self_of_holds ht (h x hx)

lemma droppedPositions_self (xs : List Value) : droppedPositions xs xs = [] := by
  have hmap := map_zip_map id (fun p : Value × Value => !p.1.isMissing && p.2.isMissing) xs
  rw [List.map_id] at hmap
  rw [droppedPositions, hmap]
  exact positionsOf_eq_nil fun x _ => by cases hm : x.isMissing <;> simp [hm]

/-- A column whose values are stored in the same way under another type is not changed. -/
lemma Pointwise.of_same (ht : t.OfFamily f) (h : ∀ x ∈ v.values, t.storage.Holds x) :
    Pointwise t v (.result ⟨t, v.column⟩ []) :=
  ⟨v.column, [], id, fun _ => false, rfl, (List.map_id _).symm, by simp, disciplined_id ht h⟩

/-- The caster from a kind to itself leaves a vector as it is, if the payloads are the same. -/
theorem run_own (hv : v.WellFormed) (hf : v.type.OfFamily f) (hc : caster? v.type v.type = some c) :
    c.run execute v v.type = .ok (.result v []) := by
  have hdtype : v.column.dtype = v.type.storage := hv.dtype_eq hf.ne_categorical
  have hheld := hv.held
  obtain ⟨s, column⟩ := v
  simp only at hf hc hdtype hheld
  -- what the column is rebuilt to is the column itself
  have hrebuilt : s.construct column = .ok column → Caster.reconstruct.run execute ⟨s, column⟩ s =
      .ok (.result ⟨s, column⟩ []) := by
    intro hmade
    change (do
      let d ← s.construct column
      return CasterOutput.result ⟨s, d⟩ (droppedPositions column.values d.values)) = _
    rw [hmade, ← droppedPositions_self column.values]
    rfl
  have hconvert : column.convert s.storage = .ok column := by
    refine convert_of_same ?_
    rw [hdtype]
    exact Dtype.same_refl (by cases hf <;> simp [storage, Dtype.boolean, Dtype.int64, Dtype.float64, Dtype.days])
  cases hf with
  | date =>
    cases hc
    refine hrebuilt ?_
    change column.toDays = _
    rw [toDays, hdtype]
    rfl
  | datetime zone =>
    cases hc
    have hclock := onClock_of_datetime hv rfl
    refine run_localize execute hv rfl ?_
    rw [hclock.localize_eq, hclock.rezoned_self]
  | _ =>
    cases hc
    refine hrebuilt ?_
    rw [construct.eq_def]
    simp only [hdtype, storage, Dtype.boolean, Dtype.int64, Dtype.float64] at hconvert ⊢
    exact hconvert

/-! ### Casters to levels and from them -/

/-- A value that is taken for a level is a level, or missing. -/
lemma identical_taken (levels : List Value) (c : Column) (x : Value) :
    (taken levels c x).identical (taken levels c x) = true := by
  rw [taken]
  split_ifs
  · rcases levelIn_cases levels x with hnan | ⟨-, hsame⟩
    · rw [hnan]
      rfl
    · exact Value.identical_of_same (Value.same_trans hsame (Value.same_symm hsame))
  · rfl

lemma pointwise_toLevels {name : String}
    (hrun : (Caster.toLevels name).run execute v (.categorical levels) = .ok output) :
    Pointwise (.categorical levels) v output := by
  obtain ⟨⟨d, ys⟩, hmade, hout⟩ := bind_eq_ok_iff.1 hrun
  cases hout
  have hvalues : ys = v.values.map (taken (storedLevels levels) v.column) := values_toLevels hmade
  subst hvalues
  exact .of_dropped (fun x _ hm => taken_of_isMissing _ _ hm) fun x _ => identical_taken _ _ x

lemma pointwise_levelTexts (hrun : Caster.categoricalToCharacter.run execute v .character = .ok output) :
    Pointwise .character v output := by
  obtain ⟨d, hmade, hout⟩ := bind_eq_ok_iff.1 hrun
  rw [construct_levelTexts] at hmade
  cases hmade
  cases hout
  refine .of_exact (.of_cases .character fun x _ => ?_)
  cases hm : x.isMissing with
  | true => exact .inl ⟨rfl, rfl, rfl⟩
  | false => exact .inr ⟨rfl, .inl ⟨rfl, rfl⟩⟩

/-! ### Casters between numbers -/

lemma disciplined_asNumber (hs : s.IsNumber) (ht : t.IsNumber) (h : ∀ x ∈ xs, s.storage.Holds x) :
    Disciplined t xs (Value.asNumber t) (Value.isLost t) where
  missing x _ hm := ⟨Value.asNumber_of_isMissing t hm, by simp [Value.isLost, hm]⟩
  dropped x _ hm hlost := by
    rw [Value.isLost, hm]
    cases hsame : x.same (x.asNumber t) with
    | false => exact .inl rfl
    | true =>
      rw [← Value.same_isMissing hsame, hm] at hlost
      cases hlost
  stored x hx := by
    obtain ⟨f, hf⟩ : ∃ f, t.OfFamily f := by cases ht <;> exact ⟨_, by constructor⟩
    exact identical_self_of_holds hf (holds_asNumber hs ht (h x hx))

/-- The casters that do not open lists do no casts on their way. -/
lemma plain_of_caster? (hs : s.IsStandard) (ht : t.IsStandard) (hlist : s ≠ .list) (hc : caster? s t = some c) :
    ∃ name f, c = .plain name f := by
  cases hs <;> cases ht <;> first | exact absurd rfl hlist | cases hc <;> exact ⟨_, _, rfl⟩

/-- What the caster returns is what comes of the cast. -/
lemma pointwise_number (hv : v.WellFormed) (hs : v.type.IsNumber) (ht : t.IsNumber) (hne : v.type.same t = false)
    (hc : caster? v.type t = some c) (hrun : c.run execute v t = .ok output) : Pointwise t v output := by
  have hlist : v.type ≠ .list := by
    intro heq
    rw [heq] at hs
    cases hs
  obtain ⟨name, f, rfl⟩ := plain_of_caster? hv.standard ht.isStandard hlist hc
  have hroute : standard.route true v.type t = .direct (.plain name f) :=
    route_direct hv.standard ht.isStandard hne hc
  have hcast := castTo_number true hv hs ht
  rw [castTo_direct hroute, show f v t = .ok output from hrun] at hcast
  obtain ⟨lossy, rfl, hlossy⟩ := result_of_checked hcast
  refine ⟨_, lossy, _, Value.isLost t, rfl, rfl, ?_, disciplined_asNumber hs ht (hv.number_stored hs).2⟩
  intro i
  have hpositions : i ∈ sortedPositions (lostPositions t v) ↔ i ∈ sortedPositions lossy := iff_of_eq (congrArg _ hlossy)
  rw [mem_sortedPositions, mem_sortedPositions] at hpositions
  rw [← hpositions, lostPositions, mem_positionsOf]

/-! ### Casters between boundaries -/

lemma binned_cases (hd : v.column.dtype = .float64) (hv : v.WellFormed) {x : Value} (hx : x ∈ v.values) :
    ∃ d, x = .double d := by
  have hheld := hv.held x hx
  rw [hd] at hheld
  cases hheld with
  | @double d _ => exact ⟨d, rfl⟩

lemma identical_double (d : Double) : (Value.double d).identical (.double d) = true := by
  cases d with
  | nan => rfl
  | _ => exact Value.identical_of_meaning? rfl rfl

lemma pointwise_rebin {bs : List Double} (hv : v.WellFormed) (hd : v.column.dtype = .float64)
    (hrun : Caster.rebin.run execute v (.binned bs) = .ok output) : Pointwise (.binned bs) v output := by
  have hconvert : v.column.convert .float64 = .ok v.column := convert_of_same (by rw [hd]; rfl)
  obtain ⟨d, hmade, hout⟩ := bind_eq_ok_iff.1 hrun
  rw [hconvert] at hmade
  cases hmade
  cases hout
  refine .of_dropped ?_ ?_
  · intro x hx hm
    obtain ⟨d, rfl⟩ := binned_cases hd hv hx
    cases d with
    | nan => simp [Caster.binnedValue, storage, Dtype.missing, Dtype.float64]
    | _ => cases hm
  · intro x hx
    obtain ⟨d, rfl⟩ := binned_cases hd hv hx
    exact identical_double _

lemma run_binnedToDouble (hd : v.column.dtype = .float64) :
    Caster.binnedToDouble.run execute v .double = .ok (.result ⟨.double, v.column⟩ []) := by
  have hconvert : v.column.convert (storage .double) = .ok v.column := convert_of_same (by rw [hd]; rfl)
  change (do return CasterOutput.exact ⟨.double, ← v.column.convert (storage .double)⟩) = _
  rw [hconvert]
  rfl

/-! ### Casters between dates and datetimes -/

lemma pointwise_instants {w z : Option Zone} (hv : v.WellFormed) (hs : v.type = .datetime w)
    (hrun : Caster.datetimeToDatetime.run execute v (.datetime z) = .ok output) : Pointwise (.datetime z) v output := by
  cases (run_localize execute hv hs ((onClock_of_datetime hv hs).localize_eq z)).symm.trans hrun
  refine .of_exact (.of_cases (.datetime z) ?_)
  intro x hx
  rcases datetime_cases hv hs hx with rfl | ⟨t, rfl⟩
  · exact .inl ⟨rfl, rfl, rfl⟩
  · exact .inr ⟨rfl, .inl ⟨rfl, rfl⟩⟩

lemma pointwise_days {w : Option Zone} (hv : v.WellFormed) (hs : v.type = .datetime w)
    (hrun : Caster.datetimeToDate.run execute v .date = .ok output) : Pointwise .date v output := by
  cases hrun
  refine ⟨_, _, dayOf .standard, isCutOff .standard, rfl, List.map_map, ?_, .of_cases .date ?_⟩
  · intro i
    rw [List.map_map]
    exact mem_positionsOf _ _ i
  · intro x hx
    cases (onClock_of_datetime hv hs).held x hx with
    | noInstant => exact .inl ⟨rfl, rfl, rfl⟩
    | @instant _ _ t range =>
      rcases dayOf_cases range w with ⟨day, hday⟩ | ⟨hlost, hunread⟩
      · rw [hday]
        exact .inr ⟨rfl, .inl ⟨rfl, rfl⟩⟩
      · exact .inr ⟨rfl, .inr ⟨hlost, .inr ⟨rfl, hunread⟩⟩⟩

lemma pointwise_midnights {zone : Option Zone} (hv : v.WellFormed) (hs : v.type = .date)
    (hrun : Caster.dateToDatetime.run execute v (.datetime zone) = .ok output) : Pointwise (.datetime zone) v output := by
  obtain ⟨midnights, hmidnights, hout⟩ := bind_eq_ok_iff.1 hrun
  have hread : ∀ x ∈ v.values, ∃ y, Caster.midnight x = .ok y := (exists_of_mapM_ok hmidnights).1
  have hstarts := eq_startOf_of_midnights hmidnights
  subst hstarts
  cases zone with
  | none =>
    cases hout
    refine .of_exact (.of_cases (.datetime none) ?_)
    intro x hx
    rcases date_cases hv hs hx with rfl | ⟨day, rfl⟩
    · exact .inl ⟨rfl, rfl, rfl⟩
    · exact .inr ⟨rfl, .inl ⟨rfl, rfl⟩⟩
  | some z =>
    cases hout
    rw [map_zip_map, List.map_map, List.map_map]
    refine .of_flagged (.of_cases (.datetime (some z)) ?_)
    intro x hx
    rcases date_cases hv hs hx with rfl | ⟨day, rfl⟩
    · exact .inl ⟨rfl, rfl, rfl⟩
    · have hrange : Reading.inRange (Reading.ofDay day) = true := by
        obtain ⟨y, hy⟩ := hread _ hx
        rw [Caster.midnight] at hy
        split_ifs at hy with hrange
        exact hrange
      refine .inr ⟨rfl, ?_⟩
      rcases (placement z hrange).cases with ⟨hlost, hflagged⟩ | ⟨t, hplaced, -⟩
      · exact .inr ⟨hlost, .inl hflagged⟩
      · have hplaced : start .standard (some z) (.period day) = .instant t (some z) := hplaced
        refine .inl ?_
        change (start .standard (some z) (.period day)).held? = none ∧
          (start .standard (some z) (.period day)).isMissing = false
        rw [hplaced]
        exact ⟨rfl, rfl⟩

/-! ### All casters -/

/-- **Casters take values one by one.** -/
theorem caster_pointwise (hv : v.WellFormed) (ht : t.IsStandard) (hsource : v.type ≠ .list) (htarget : t ≠ .list)
    (hc : caster? v.type t = some c) (hrun : c.run execute v t = .ok output) : Pointwise t v output := by
  have hs := hv.standard
  have hdtype := hv.dtype_eq
  -- a kind of one family that is cast to itself stays what it is
  have hown : ∀ f, v.type.OfFamily f → t = v.type → Pointwise t v output := by
    rintro f hf rfl
    cases hrun.symm.trans (run_own hv hf hc)
    exact .of_same hf (hdtype hf.ne_categorical ▸ hv.held)
  have hnumber : v.type.IsNumber → t.IsNumber → v.type.same t = false → Pointwise t v output := by
    intro hsn htn hne
    exact pointwise_number hv hsn htn hne hc hrun
  generalize hst : v.type = s at *
  cases hs with
  | null => cases hc
  | unspecified => cases hc
  | list => exact absurd rfl hsource
  | logical =>
    cases ht with
    | logical => exact hown _ .logical rfl
    | integer => exact hnumber .logical .integer rfl
    | double => exact hnumber .logical .double rfl
    | list => exact absurd rfl htarget
    | _ => cases hc
  | integer =>
    cases ht with
    | logical => exact hnumber .integer .logical rfl
    | integer => exact hown _ .integer rfl
    | double => exact hnumber .integer .double rfl
    | list => exact absurd rfl htarget
    | _ => cases hc
  | double =>
    cases ht with
    | logical => exact hnumber .double .logical rfl
    | integer => exact hnumber .double .integer rfl
    | double => exact hown _ .double rfl
    | binned =>
      cases hc
      exact pointwise_rebin hv (hdtype (by simp)) hrun
    | list => exact absurd rfl htarget
    | _ => cases hc
  | binned =>
    cases ht with
    | double =>
      cases hc
      have hfloat : v.column.dtype = .float64 := hdtype (by simp)
      cases hrun.symm.trans (run_binnedToDouble hfloat)
      have hheld : ∀ x ∈ v.values, Dtype.float64.Holds x := hfloat ▸ hv.held
      exact .of_same .double hheld
    | binned =>
      cases hc
      exact pointwise_rebin hv (hdtype (by simp)) hrun
    | list => exact absurd rfl htarget
    | _ => cases hc
  | character =>
    cases ht with
    | character => exact hown _ .character rfl
    | categorical => cases hc; exact pointwise_toLevels hrun
    | list => exact absurd rfl htarget
    | _ => cases hc
  | categorical =>
    cases ht with
    | character => cases hc; exact pointwise_levelTexts hrun
    | categorical => cases hc; exact pointwise_toLevels hrun
    | list => exact absurd rfl htarget
    | _ => cases hc
  | date =>
    cases ht with
    | date => exact hown _ .date rfl
    | datetime => cases hc; exact pointwise_midnights hv hst hrun
    | list => exact absurd rfl htarget
    | _ => cases hc
  | datetime =>
    cases ht with
    | date => cases hc; exact pointwise_days hv hst hrun
    | datetime => cases hc; exact pointwise_instants hv hst hrun
    | list => exact absurd rfl htarget
    | _ => cases hc

end Registry

end Coercion
