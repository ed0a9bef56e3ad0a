import Coercion.Proofs.Cast.Number
import Coercion.Proofs.Column.Clock

/-!
Casts that cannot be refused. A well-formed vector reaches every standard type that its own type fits, by the caster of
the table or without one, and ends up in a column that can be joined to others of that type. The only failure on the
way is that of a date beyond the range of datetimes.
-/

namespace Coercion

namespace VectorType

variable {s t : VectorType}

lemma vectorOf_of_makes {c : Column} (h : Makes t c (t.construct c)) :
    ∃ d, t.vectorOf c = .ok ⟨t, d⟩ ∧ d.size = c.size ∧ d.JoinsAs t := by
  obtain ⟨d, hd, hsize, hjoins⟩ := h
  exact ⟨d, by rw [vectorOf, hd]; rfl, hsize, hjoins⟩

end VectorType

namespace Registry

open VectorType Column

variable {v : TypedVector} {t : VectorType} {decompose : Bool}

/-- A cast arrives if it yields a vector of the target's type and the size of the source that can be joined to
others. -/
def Arrives (v : TypedVector) (t : VectorType) (r : Except Failure CastResult) : Prop :=
  ∃ c lossy, r = .ok ⟨⟨t, c⟩, lossy⟩ ∧ c.size = v.size ∧ c.JoinsAs t

lemma Arrives.ne_error {r : Except Failure CastResult} (h : Arrives v t r) (f : Failure) : r ≠ .error f := by
  obtain ⟨c, lossy, rfl, -⟩ := h
  intro h
  cases h

/-! ### Casts without a caster -/

lemma samePayload_binned {a b : List Double} (h : List.Forall₂ (fun c d => c.same d = true) a b) :
    samePayload (.binned a) (.binned b) = true := by
  simpa only [samePayload, params, List.length_singleton, beq_self_eq_true, List.all_cons, List.all_nil,
    List.any_cons, List.any_nil, Bool.true_and, Bool.and_true, Bool.or_false, Value.same_tuple, Value.sameAll_iff,
    List.forall₂_map_left_iff, List.forall₂_map_right_iff, Double.value_same] using h

/-- Equal types have the same payload, but for the order of levels. -/
lemma samePayload_of_same {s t : VectorType} (hs : s.IsStandard) (ht : t.IsStandard)
    (hnot : ∀ levels, s ≠ .categorical levels) (h : s.same t = true) : samePayload s t = true := by
  rcases (VectorType.same_iff hs ht).1 h with rfl | ⟨a, b, rfl, rfl, -, -⟩ | ⟨a, b, rfl, rfl, hab⟩
  · cases hs with
    | categorical => exact absurd rfl (hnot _)
    | datetime zone =>
      rcases zone with _ | (_ | _) <;> simp [samePayload, params, zoneValue, Value.same, Value.meaning?]
    | binned hbs => exact samePayload_binned (hbs.forall₂_same hbs fun _ => Iff.rfl)
    | _ => rfl
  · exact absurd rfl (hnot a)
  · exact samePayload_binned hab

/-- A vector that has the target's type already. The levels of a categorical may stand in another order, and are
then put into the target's. -/
lemma arrives_unchanged (hv : v.WellFormed) (ht : t.IsStandard) (h : v.type.same t = true) :
    Arrives v t (standard.castTo decompose v t) := by
  have hs := hv.standard
  have hstored := hv.stored
  by_cases hpayload : samePayload v.type t = true
  · refine ⟨v.column, [], castTo_unchanged h hpayload, rfl, ?_⟩
    rcases (VectorType.same_iff hs ht).1 h with heq | ⟨a, b, heq, rfl, -, -⟩ | ⟨a, b, heq, rfl, -⟩
    · cases ht with
      | categorical => exact hv.hashable_of_categorical heq
      | _ =>
        rw [heq] at hstored
        exact hstored
    · exact hv.hashable_of_categorical heq
    · rw [heq] at hstored
      exact hstored
  · -- only the levels of a categorical can be in another order, and the column is then made anew
    obtain ⟨a, ha⟩ : ∃ levels, v.type = .categorical levels := by
      by_contra hnot
      have hsamePayload := samePayload_of_same hs ht (fun levels hl => hnot ⟨levels, hl⟩) h
      exact hpayload hsamePayload
    cases ht with
    | categorical hlevels =>
      have hhash := unhashableIn?_present (hv.hashable_of_categorical ha)
      obtain ⟨c, hc, hsize, hjoins⟩ := vectorOf_of_makes (construct_categorical hlevels hhash)
      refine ⟨c, [], ?_, hsize, hjoins⟩
      rw [castTo_remade h (Bool.not_eq_true _ ▸ hpayload), hc]
      rfl
    | _ => simp [ha, VectorType.same] at h

lemma castTo_fromNull (hv : v.WellFormed) (ht : t.IsStandard) (hs : v.type = .null) (hne : v.type.same t = false) :
    standard.castTo decompose v t = .ok ⟨⟨t, v.column.voided t.storage⟩, []⟩ := by
  have hvoided : v.column.voided t.storage = ⟨t.storage, []⟩ := by
    rw [voided, show v.column.values = [] from hv.values_of_null hs]
    rfl
  rw [hvoided]
  exact castWithin_fromNull _ ht hs hne

lemma arrives_fromNull (hv : v.WellFormed) (ht : t.IsStandard) (hs : v.type = .null) (hne : v.type.same t = false) :
    Arrives v t (standard.castTo decompose v t) :=
  ⟨_, [], castTo_fromNull hv ht hs hne, size_voided _ _, joinsAs_voided ht _⟩

lemma castTo_fromUnspecified (ht : t.IsStandard) (hs : v.type = .unspecified) (hne : v.type.same t = false)
    (hnull : t ≠ .null) : standard.castTo decompose v t = .ok ⟨⟨t, v.column.voided t.storage⟩, []⟩ :=
  castWithin_fromUnspecified _ ht hs hne hnull

lemma arrives_fromUnspecified (ht : t.IsStandard) (hs : v.type = .unspecified)
    (hne : v.type.same t = false) (hnull : t ≠ .null) : Arrives v t (standard.castTo decompose v t) :=
  ⟨_, [], castTo_fromUnspecified ht hs hne hnull, size_voided _ _, joinsAs_voided ht _⟩

/-! ### Casts by a caster -/

lemma arrives_direct {name : String} {f : TypedVector → VectorType → Except Failure CasterOutput} (c : Column)
    (lossy : List Nat) (ht : t.IsStandard) (hroute : standard.route decompose v.type t = .direct (.plain name f))
    (hf : f v t = .ok (.result ⟨t, c⟩ lossy)) (hsize : c.size = v.size) (hjoins : c.JoinsAs t) :
    Arrives v t (standard.castTo decompose v t) :=
  ⟨c, _, castTo_eq_ok ht hroute hf hsize, hsize, hjoins⟩

lemma arrives_number (hv : v.WellFormed) (hs : v.type.IsNumber) (ht : t.IsNumber) :
    Arrives v t (standard.castTo decompose v t) := by
  refine ⟨_, _, castTo_number decompose hv hs ht, by simp [Column.size, TypedVector.size, TypedVector.values], ?_⟩
  cases ht <;> rfl

/-- Numbers within boundaries, from plain ones or from ones within other boundaries. -/
lemma castTo_rebin {bs : List Double} (ht : (VectorType.binned bs).IsStandard) (hdtype : v.column.dtype = .float64)
    (hroute : standard.route decompose v.type (.binned bs) = .direct .rebin) :
    standard.castTo decompose v (.binned bs) =
      .ok ⟨⟨.binned bs, ⟨.float64, v.values.map (Caster.binnedValue bs)⟩⟩,
        sortedPositions (droppedPositions v.values (v.values.map (Caster.binnedValue bs)))⟩ := by
  have hconvert : v.column.convert .float64 = .ok v.column := convert_of_same (by rw [hdtype]; rfl)
  have hrun : (do
      let values ← v.column.convert .float64
      let c : Column := ⟨.float64, values.values.map (Caster.binnedValue bs)⟩
      return CasterOutput.result ⟨.binned bs, c⟩ (droppedPositions values.values c.values) : Except Failure _) =
      .ok (.result ⟨.binned bs, ⟨.float64, v.values.map (Caster.binnedValue bs)⟩⟩
        (droppedPositions v.values (v.values.map (Caster.binnedValue bs)))) := by
    rw [hconvert]
    rfl
  exact castTo_eq_ok ht hroute hrun (by simp [size, TypedVector.size, TypedVector.values])

lemma arrives_rebin {bs : List Double} (ht : (VectorType.binned bs).IsStandard) (hdtype : v.column.dtype = .float64)
    (hroute : standard.route decompose v.type (.binned bs) = .direct .rebin) :
    Arrives v (.binned bs) (standard.castTo decompose v (.binned bs)) :=
  ⟨_, _, castTo_rebin ht hdtype hroute, by simp [size, TypedVector.size, TypedVector.values], rfl⟩

/-- Numbers within boundaries as plain ones. -/
lemma arrives_binnedToDouble (hdtype : v.column.dtype = .float64)
    (hroute : standard.route decompose v.type .double = .direct .binnedToDouble) :
    Arrives v .double (standard.castTo decompose v .double) := by
  have hconvert : v.column.convert (storage .double) = .ok v.column := convert_of_same (by rw [hdtype]; rfl)
  refine arrives_direct v.column [] .double hroute ?_ rfl ?_
  · rw [hconvert]
    rfl
  · change v.column.dtype.same .float64 = true
    rw [hdtype]
    rfl

/-- Values that can be levels, as levels of a categorical. -/
lemma arrives_toLevels {levels : List Value} (hlevels : LegalLevels levels) {name : String}
    (hhash : ∀ x ∈ v.values, x.unhashable? = none)
    (hroute : standard.route decompose v.type (.categorical levels) = .direct (.toLevels name)) :
    Arrives v (.categorical levels) (standard.castTo decompose v (.categorical levels)) := by
  obtain ⟨c, hc, hsize, hjoins⟩ := construct_categorical hlevels (unhashableIn?_present hhash)
  refine arrives_direct c (droppedPositions v.values c.values) (.categorical hlevels) hroute ?_ hsize hjoins
  rw [hc]
  rfl

/-- Levels as texts. -/
lemma arrives_categoricalToCharacter
    (hroute : standard.route decompose v.type .character = .direct .categoricalToCharacter) :
    Arrives v .character (standard.castTo decompose v .character) := by
  obtain ⟨c, hc, hsize, hjoins⟩ := construct_character (c := .ofValues (v.values.map Caster.levelText)) rfl
  refine arrives_direct c [] .character hroute ?_ ?_ hjoins
  · rw [hc]
    rfl
  · rw [hsize]
    simp [Column.ofValues, size, TypedVector.size, TypedVector.values]

/-- Datetimes as dates. -/
lemma arrives_datetimeToDate (hroute : standard.route decompose v.type .date = .direct .datetimeToDate) :
    Arrives v .date (standard.castTo decompose v .date) :=
  arrives_direct _ _ .date hroute rfl (by simp [size, TypedVector.size, TypedVector.values]) rfl

/-- The column of a datetime vector holds instants of its zone. -/
lemma onClock_of_datetime {zone : Option Zone} (hv : v.WellFormed) (hs : v.type = .datetime zone) :
    v.column.OnClock zone := by
  have hdtype : v.column.dtype = .instants "ns" zone := by
    rw [hv.dtype_eq (by rw [hs]; rintro levels ⟨⟩), hs]
    rfl
  exact ⟨hdtype, hdtype ▸ hv.held⟩

/-- The caster of datetimes brings the column to the clock that is asked for. -/
lemma run_localize (execute : Executor) {a b : Option Zone} {c : Column} (hv : v.WellFormed)
    (hs : v.type = .datetime a) (hc : v.column.localize b = .ok c) :
    Caster.datetimeToDatetime.run execute v (.datetime b) = .ok (.result ⟨.datetime b, c⟩ []) := by
  have hclock := (onClock_of_datetime hv hs).localize_eq b
  rw [hc] at hclock
  cases hclock
  have hformat : (v.column.rezoned b).convert (storage (.datetime b)) = .ok (v.column.rezoned b) :=
    convert_of_same (Dtype.same_refl (by rintro levels ⟨⟩))
  change (do return CasterOutput.exact ⟨.datetime b, ← (← v.column.localize b).convert (storage (.datetime b))⟩) = _
  rw [hc]
  change (do return CasterOutput.exact ⟨.datetime b, ← (v.column.rezoned b).convert (storage (.datetime b))⟩) = _
  rw [hformat]
  rfl

/-- Whatever clock a column of instants is brought to, a cast of datetimes to that clock gives this column. -/
lemma castTo_localize (decompose : Bool) {a b : Option Zone} {c : Column} (hv : v.WellFormed)
    (hs : v.type = .datetime a) (hc : v.column.localize b = .ok c) :
    standard.castTo decompose v (.datetime b) = .ok ⟨⟨.datetime b, c⟩, []⟩ := by
  have hclock := onClock_of_datetime hv hs
  by_cases hab : a = b
  · -- the clock is the one that shows the vector already
    subst hab
    have hsame : v.type.same (.datetime a) = true := by
      rw [hs]
      exact same_refl (.datetime a)
    have hnot : ∀ levels, v.type ≠ .categorical levels := by
      rw [hs]
      rintro levels ⟨⟩
    rw [hclock.localize_eq, hclock.rezoned_self] at hc
    cases hc
    rw [castTo_unchanged hsame (samePayload_of_same hv.standard (.datetime a) hnot hsame), ← hs]
  · have hroute : standard.route decompose v.type (.datetime b) = .direct .datetimeToDatetime := by
      rw [hs]
      exact route_direct (.datetime a) (.datetime b) (by simpa [VectorType.same] using hab) rfl
    have hsize : c.size = v.size := by
      rw [hclock.localize_eq] at hc
      cases hc
      exact List.length_map _
    rw [← sortedPositions_nil]
    exact castTo_eq_ok (.datetime b) hroute (run_localize (standard.castTo false) hv hs hc) hsize

/-- Casts between datetimes change the clock, and nothing else. -/
lemma castTo_rezoned (decompose : Bool) {a : Option Zone} (hv : v.WellFormed) (hs : v.type = .datetime a)
    (b : Option Zone) :
    standard.castTo decompose v (.datetime b) = .ok ⟨⟨.datetime b, v.column.rezoned b⟩, []⟩ :=
  castTo_localize decompose hv hs ((onClock_of_datetime hv hs).localize_eq b)

/-- Datetimes on another clock. -/
lemma arrives_datetimeToDatetime {a b : Option Zone} (hv : v.WellFormed) (hs : v.type = .datetime a) :
    Arrives v (.datetime b) (standard.castTo decompose v (.datetime b)) := by
  refine ⟨v.column.rezoned b, [], castTo_rezoned decompose hv hs b, List.length_map _, ?_⟩
  exact Dtype.same_refl (by rintro levels ⟨⟩)

/-- Dates as datetimes, unless one of them is out of range. -/
lemma arrives_dateToDatetime {zone : Option Zone}
    (hroute : standard.route decompose v.type (.datetime zone) = .direct .dateToDatetime) :
    Arrives v (.datetime zone) (standard.castTo decompose v (.datetime zone)) ∨
      ∃ f, standard.castTo decompose v (.datetime zone) = .error f ∧ f.category = .outOfBounds := by
  cases hread : v.values.mapM Caster.midnight with
  | error f =>
    refine Or.inr ⟨f, ?_, ?_⟩
    · rw [castTo_direct hroute, hread]
      rfl
    · obtain ⟨x, -, hx⟩ := exists_of_mapM_error hread
      unfold Caster.midnight at hx
      split at hx
      · split_ifs at hx
        cases hx
        rfl
      · cases hx
  | ok midnights =>
    have hlength : midnights.length = v.size := ((mapM_eq_ok_iff _ _).1 hread).length_eq.symm
    refine Or.inl ?_
    cases zone with
    | none =>
      refine arrives_direct ⟨storage (.datetime none), midnights⟩ [] (.datetime none) hroute ?_ hlength ?_
      · rw [hread]
        rfl
      · simp [JoinsAs, storage, Dtype.same]
    | some z =>
      let placed := midnights.map (Caster.placedMidnight z z.rules.place?)
      let misplaced := (midnights.zip placed).map fun p => Caster.isMisplaced .standard p.1 p.2
      have hplaced : placed.length = v.size := (List.length_map _).trans hlength
      refine arrives_direct ⟨storage (.datetime (some z)), placed⟩ (positionsOf misplaced) (.datetime (some z)) hroute
        ?_ ?_ ?_
      · rw [hread]
        rfl
      · exact hplaced
      · simp [JoinsAs, storage, Dtype.same]

/-! ### Casts to a fitting type -/

/-- **A cast to a fitting type is not refused.** A well-formed vector arrives at every standard type that its own type
fits, unless it has a date beyond the range of datetimes. -/
theorem castTo_fits (hv : v.WellFormed) (ht : t.IsStandard) (hfits : v.type.Fits t) :
    Arrives v t (standard.castTo decompose v t) ∨
      ∃ f, standard.castTo decompose v t = .error f ∧ f.category = .outOfBounds := by
  by_cases hsame : v.type.same t = true
  · exact Or.inl (arrives_unchanged hv ht hsame)
  rw [Bool.not_eq_true] at hsame
  have hs := hv.standard
  have hroute : ∀ {c : Caster}, caster? v.type t = some c → standard.route decompose v.type t = .direct c := by
    intro c hc
    exact route_direct hs ht hsame hc
  have hnumber : v.type.IsNumber → t.IsNumber → Arrives v t (standard.castTo decompose v t) := arrives_number hv
  have hstorage := hv.dtype_eq
  have hheld := hv.held
  generalize hsource : v.type = s at *
  -- by the source, and then by the targets of its family; all others contradict `hfits`
  cases hs with
  | null => exact Or.inl (arrives_fromNull hv ht hsource (hsource ▸ hsame))
  | unspecified =>
    refine Or.inl (arrives_fromUnspecified ht hsource (hsource ▸ hsame) ?_)
    rintro rfl
    cases hfits
  | logical =>
    cases ht with
    | logical => exact Or.inl (hnumber .logical .logical)
    | integer => exact Or.inl (hnumber .logical .integer)
    | double => exact Or.inl (hnumber .logical .double)
    | unspecified => rcases hfits with h | h <;> cases h
    | _ => cases hfits
  | integer =>
    cases ht with
    | logical => exact Or.inl (hnumber .integer .logical)
    | integer => exact Or.inl (hnumber .integer .integer)
    | double => exact Or.inl (hnumber .integer .double)
    | unspecified => rcases hfits with h | h <;> cases h
    | _ => cases hfits
  | double =>
    cases ht with
    | logical => exact Or.inl (hnumber .double .logical)
    | integer => exact Or.inl (hnumber .double .integer)
    | double => exact Or.inl (hnumber .double .double)
    | binned hbs =>
      exact Or.inl (arrives_rebin (.binned hbs) (hstorage (by simp)) (hsource ▸ hroute rfl))
    | unspecified => rcases hfits with h | h <;> cases h
    | _ => cases hfits
  | binned has =>
    cases ht with
    | binned hbs => exact Or.inl (arrives_rebin (.binned hbs) (hstorage (by simp)) (hsource ▸ hroute rfl))
    | double => exact Or.inl (arrives_binnedToDouble (hstorage (by simp)) (hsource ▸ hroute rfl))
    | unspecified => rcases hfits with h | h <;> cases h
    | _ => cases hfits
  | character =>
    cases ht with
    | character => cases hsame
    | categorical hlevels =>
      have hdtype : v.column.dtype = .string := hstorage (by simp)
      have hhash : ∀ x ∈ v.values, x.unhashable? = none := by
        intro x hx
        have hx := hheld x hx
        rw [hdtype] at hx
        cases hx <;> rfl
      exact Or.inl (arrives_toLevels hlevels hhash (hsource ▸ hroute rfl))
    | unspecified => rcases hfits with h | h <;> cases h
    | _ => cases hfits
  | categorical ha =>
    cases ht with
    | character => exact Or.inl (arrives_categoricalToCharacter (hsource ▸ hroute rfl))
    | categorical hlevels =>
      exact Or.inl (arrives_toLevels hlevels (hv.hashable_of_categorical hsource) (hsource ▸ hroute rfl))
    | unspecified => rcases hfits with h | h <;> cases h
    | _ => cases hfits
  | list =>
    cases ht with
    | list => cases hsame
    | unspecified => rcases hfits with h | h <;> cases h
    | _ => cases hfits
  | date =>
    cases ht with
    | date => cases hsame
    | datetime zone => exact arrives_dateToDatetime (hsource ▸ hroute rfl)
    | unspecified => rcases hfits with h | h <;> cases h
    | _ => cases hfits
  | datetime zone =>
    cases ht with
    | date => exact Or.inl (arrives_datetimeToDate (hsource ▸ hroute rfl))
    | datetime zone' => exact Or.inl (arrives_datetimeToDatetime hv hsource)
    | unspecified => rcases hfits with h | h <;> cases h
    | _ => cases hfits

/-- What comes of such a cast has the size of the source and can be joined to others. -/
lemma joinsAs_of_castTo (hv : v.WellFormed) (ht : t.IsStandard) (hfits : v.type.Fits t) {r : CastResult}
    (hr : standard.castTo decompose v t = .ok r) :
    r.vector.column.JoinsAs t ∧ v.values.length = r.vector.values.length := by
  have harrives : Arrives v t (standard.castTo decompose v t) ∨ _ := castTo_fits hv ht hfits
  rcases harrives with ⟨c, lossy, hc, hsize, hjoins⟩ | ⟨f, hf, -⟩
  · rw [hr] at hc
    cases hc
    exact ⟨hjoins, hsize.symm⟩
  · rw [hr] at hf
    cases hf

end Registry

end Coercion
