import Coercion.Proofs.Cast.Pointwise

/-!
The way through the decomposed form, beside the direct one. A vector that is taken apart and put together again as one
of another type is first read as a vector of its own, out of nothing but its values, and then cast from there. What is
read may have another type: missing values alone have none, the values of a binned vector are plain numbers, and levels
are texts. In the end it makes no difference: wherever there is a caster for two kinds, the values that it returns are
those that come out of the lists, and the same positions are flagged.
-/

namespace Coercion

namespace Registry

open VectorType Column

variable {v : TypedVector} {s t : VectorType} {f : Family} {c : Caster} {execute : Executor} {d e : Column}
  {lossy flagged : List Nat}

/-- Whether a vector becomes another one through the decomposed form as well, with the same positions flagged. -/
structure AgreesThroughLists (decompose : Bool) (v : TypedVector) (t : VectorType) (w : TypedVector)
    (lossy : List Nat) : Prop where
  /-- There are casters for both halves of the way. -/
  apart : standard.route decompose v.type .list = .direct .anyToList
  together : standard.route decompose .list t = .direct .listToAny
  /-- Both of them return, and what one of them flags is flagged by the direct cast too, and the reverse. -/
  arrives : ∃ parts whole, standard.castTo decompose v .list = .ok parts ∧
    standard.castTo decompose parts.vector t = .ok whole ∧ whole.vector.same w = true ∧
      ∀ i, i ∈ parts.lossy ∨ i ∈ whole.lossy ↔ i ∈ lossy

/-- What open values are read as and become in a cast, with what is flagged on the way. -/
def ReadsAs (t : VectorType) (xs : List Value) (d : Column) (lossy : List Nat) : Prop :=
  ∃ inner, readOpen (own xs) = .ok inner ∧ ∀ fuel, standard.castWithin (fuel + 1) false inner t = .ok ⟨⟨t, d⟩, lossy⟩

/-- The way through lists leads to what the open values are read as. -/
lemma agrees_of_readsAs (decompose : Bool) (hv : v.WellFormed) (ht : t.IsStandard) (hs : Decomposable v.type)
    (hdec : Decomposable t) (hread : ReadsAs t v.values d flagged) (hsize : d.size = v.size)
    (hsame : Value.identicalAll d.values e.values = true) (hlossy : ∀ i, i ∈ flagged ↔ i ∈ lossy) :
    AgreesThroughLists decompose v t ⟨t, e⟩ lossy := by
  obtain ⟨⟨hapart, hcapart⟩, -⟩ := hs.casters hv.standard
  obtain ⟨-, htogether, hctogether⟩ := hdec.casters ht
  obtain ⟨inner, hinner, hcast⟩ := hread
  refine ⟨route_direct hv.standard .list hapart hcapart, route_direct .list ht htogether hctogether, ?_⟩
  refine ⟨_, _, castTo_list decompose hv.standard hs, castWithin_opened ht hdec hinner (hcast _) hsize, ?_, ?_⟩
  · change (t.same t && Value.identicalAll d.values e.values) = true
    rw [same_refl ht, hsame]
    rfl
  · intro i
    rw [mem_sortedPositions, hlossy]
    simp

lemma decomposable_of_caster? (hs : s.IsStandard) (ht : t.IsStandard) (hsource : s ≠ .list) (htarget : t ≠ .list)
    (hc : caster? s t = some c) : Decomposable s ∧ Decomposable t := by
  cases hs <;> cases ht <;>
    first
    | exact ⟨trivial, trivial⟩
    | exact absurd rfl hsource
    | exact absurd rfl htarget
    | cases hc

/-! ### Vectors without a present value -/

/-- Missing values are read as nothing that is known, and become missing values of the target, as they do directly. -/
lemma readsAs_of_void {xs : List Value} (ht : t.IsStandard) (hdec : Decomposable t) (hvoid : (own xs).present = []) :
    ReadsAs t xs ((own xs).voided t.storage) [] := by
  have hmissing : (own xs).IsVoid := .of_present_eq_nil rfl hvoid
  have hmade := construct_eq_voided ht hmissing (by rintro rfl; exact hdec.elim)
  have hsize : ((own xs).voided t.storage).size = xs.length := by simp [voided, own, ofValues, size]
  exact (restores_of_void ht hdec hvoid hmade hsize).read

/-- A caster that takes values one by one does the same to missing values as the way through lists. -/
lemma agrees_of_void (decompose : Bool) (hv : v.WellFormed) (ht : t.IsStandard) (hs : Decomposable v.type)
    (hdec : Decomposable t) (hvoid : (own v.values).present = []) {g : Value → Value} {flag : Value → Bool}
    (hvalues : e.values = v.values.map g)
    (hlossy : ∀ i, i ∈ lossy ↔ ∃ x, v.values[i]? = some x ∧ flag x = true) (hdisc : Disciplined t v.values g flag) :
    AgreesThroughLists decompose v t ⟨t, e⟩ lossy := by
  have hmissing : ∀ x ∈ v.values, x.isMissing = true := by
    intro x hx
    exact isMissing_of_present_own hvoid hx
  refine agrees_of_readsAs decompose hv ht hs hdec (readsAs_of_void ht hdec hvoid) ?_ ?_ ?_
  · simp [voided, own, ofValues, size, TypedVector.size, TypedVector.values]
  · have hmarkers : ((own v.values).voided t.storage).values = v.values.map fun _ => t.storage.missing := by
      rw [voided, own, ofValues, List.map_map]
      rfl
    rw [hmarkers, hvalues, Value.identicalAll_iff, List.forall₂_map_left_iff, List.forall₂_map_right_iff,
      List.forall₂_same]
    intro x hx
    rw [(hdisc.missing x hx (hmissing x hx)).1]
    exact identical_missing ht
  · intro i
    rw [hlossy]
    refine iff_of_false List.not_mem_nil ?_
    rintro ⟨x, hx, hflag⟩
    have hx := List.mem_of_getElem? hx
    rw [(hdisc.missing x hx (hmissing x hx)).2] at hflag
    cases hflag

/-! ### Vectors of one family -/

lemma readsAs_of_family (hv : v.WellFormed) (hf : v.type.OfFamily f) (ht : t.IsStandard) (hsource : v.type ≠ .list)
    (hpresent : (own v.values).present ≠ []) (hc : caster? v.type t = some c)
    (hrun : c.run execute v t = .ok (.result ⟨t, e⟩ lossy)) (hsize : e.size = v.size) :
    ∃ flagged, ReadsAs t v.values e flagged ∧ ∀ i, i ∈ flagged ↔ i ∈ lossy := by
  have hdtype := hv.dtype_eq hf.ne_categorical
  have hread : readOpen (own v.values) = .ok v := by
    rw [readOpen_own hf (hdtype ▸ hv.held) hpresent, ← hdtype]
    rfl
  cases hsame : v.type.same t with
  | false =>
    obtain ⟨name, f, rfl⟩ := plain_of_caster? hv.standard ht hsource hc
    refine ⟨sortedPositions lossy, ⟨v, hread, ?_⟩, mem_sortedPositions lossy⟩
    intro fuel
    exact castWithin_eq_ok fuel ht (route_direct hv.standard ht hsame hc) hrun hsize
  | true =>
    -- the vector has the type already, and its caster leaves it as it is
    have heq : t = v.type := by
      rcases (VectorType.same_iff hv.standard ht).1 hsame with heq | ⟨a, b, heq, -⟩ | ⟨a, b, heq, -⟩
      · exact heq.symm
      · exact absurd heq (hf.ne_categorical a)
      · rw [heq] at hf
        cases hf
    subst heq
    have hown := hrun.symm.trans (run_own hv hf hc)
    simp only [Except.ok.injEq, CasterOutput.result.injEq] at hown
    obtain ⟨hvector, rfl⟩ := hown
    have hpayload := samePayload_of_same hv.standard ht hf.ne_categorical hsame
    refine ⟨[], ⟨v, hread, ?_⟩, fun i => Iff.rfl⟩
    intro fuel
    rw [castWithin_unchanged fuel hsame hpayload, hvector]

/-! ### Vectors within boundaries -/

/-- The numbers within boundaries are read as plain ones. -/
lemma readsAs_of_binned (hv : v.WellFormed) {bs : List Double} (hs : v.type = .binned bs) (ht : t.IsStandard)
    (hpresent : (own v.values).present ≠ []) (hc : caster? v.type t = some c) (htarget : t ≠ .list)
    (hrun : c.run execute v t = .ok (.result ⟨t, e⟩ lossy)) (hsize : e.size = v.size) :
    ∃ flagged, ReadsAs t v.values e flagged ∧ ∀ i, i ∈ flagged ↔ i ∈ lossy := by
  have hdtype : v.column.dtype = .float64 := by
    rw [hv.dtype_eq (by rw [hs]; nofun), hs]
    rfl
  have hheld : ∀ x ∈ v.values, Dtype.float64.Holds x := hdtype ▸ hv.held
  have hread : readOpen (own v.values) = .ok ⟨.double, v.column⟩ := by
    rw [readOpen_own .double hheld hpresent, show storage .double = v.column.dtype from hdtype.symm]
    rfl
  rw [hs] at hc
  cases ht with
  | double =>
    cases hc
    cases hrun.symm.trans (run_binnedToDouble hdtype)
    exact ⟨[], ⟨_, hread, fun fuel => castWithin_unchanged fuel rfl rfl⟩, fun i => Iff.rfl⟩
  | binned hbs =>
    cases hc
    refine ⟨sortedPositions lossy, ⟨_, hread, ?_⟩, mem_sortedPositions lossy⟩
    intro fuel
    -- the caster looks at the column only, so it does the same for plain numbers
    exact castWithin_eq_ok fuel (.binned hbs) (route_direct .double (.binned hbs) rfl rfl) hrun hsize
  | list => exact absurd rfl htarget
  | _ => cases hc

/-! ### Texts among the levels -/

lemma HasTextLevels.holdsTexts (hv : v.WellFormed) (h : HasTextLevels v) : HoldsTexts v := by
  obtain ⟨levels, stored, -, hdtype, htext⟩ := h
  intro x hx
  have hheld := hv.held x hx
  rw [hdtype] at hheld
  cases hheld with
  | noLevel => exact Or.inl rfl
  | level hmem => exact Or.inr (htext x (List.mem_append.2 (Or.inr hmem)))

/-- A text is shown as it is displayed. -/
lemma shownText_eq_display {x : Value} (h : x.isMissing = true ∨ x.isText = true) :
    shownText x = if x.isMissing then .notAvailable else .text x.display := by
  rw [shownText]
  split_ifs with hm
  · rfl
  · have htext : x.isText = true := h.resolve_left hm
    cases x <;> first | rfl | cases htext

lemma isMissing_shownText (x : Value) : (shownText x).isMissing = x.isMissing := by
  rw [shownText]
  cases hm : x.isMissing <;> rfl

/-- What is shown as a text is missing where it was missing before, so the same positions are dropped. -/
lemma droppedPositions_shownText (xs : List Value) (g : Value → Value) :
    droppedPositions (xs.map shownText) (xs.map g) = droppedPositions xs (xs.map g) := by
  rw [droppedPositions, droppedPositions, List.zip_map', List.map_map, map_zip_map]
  refine congrArg positionsOf (List.map_congr_left ?_)
  intro x _
  change (!(shownText x).isMissing && (g x).isMissing) = (!x.isMissing && (g x).isMissing)
  rw [isMissing_shownText]

/-- Levels that are texts are read as texts. -/
lemma readsAs_of_texts {levels : List Value} (hs : v.type = .categorical levels)
    (htexts : HoldsTexts v) (ht : t.IsStandard) (hpresent : (own v.values).present ≠ [])
    (hc : caster? v.type t = some c) (htarget : t ≠ .list)
    (hrun : c.run execute v t = .ok (.result ⟨t, e⟩ lossy)) :
    ∃ d flagged, ReadsAs t v.values d flagged ∧ d.size = v.size ∧ d.values = e.values ∧
      ∀ i, i ∈ flagged ↔ i ∈ lossy := by
  have hread := readOpen_of_texts htexts hpresent
  rw [hs] at hc
  cases ht with
  | character =>
    cases hc
    obtain ⟨d, hmade, hout⟩ := bind_eq_ok_iff.1 hrun
    rw [construct_levelTexts] at hmade
    cases hmade
    cases hout
    refine ⟨_, [], ⟨_, hread, fun fuel => castWithin_unchanged fuel rfl rfl⟩, List.length_map _, ?_, fun i => Iff.rfl⟩
    refine List.map_congr_left ?_
    intro x hx
    exact shownText_eq_display (htexts x hx)
  | categorical hlevels =>
    cases hc
    obtain ⟨d, hmade, hout⟩ := bind_eq_ok_iff.1 hrun
    have hd := (toLevels_of_texts _ htexts).symm.trans hmade
    cases hd
    cases hout
    refine ⟨_, _, ⟨_, hread, fun fuel => castWithin_shownTexts false fuel hlevels htexts⟩, List.length_map _, rfl, ?_⟩
    intro i
    rw [mem_sortedPositions, droppedPositions_shownText]
    exact Iff.rfl
  | list => exact absurd rfl htarget
  | _ => cases hc

/-! ### The two ways beside each other -/

/-- The kinds that can be taken apart have values of one family, numbers within boundaries, or levels. -/
lemma Decomposable.cases (hdec : Decomposable s) (hs : s.IsStandard) :
    (∃ f, s.OfFamily f) ∨ (∃ bs, s = .binned bs) ∨ ∃ levels, s = .categorical levels := by
  cases hs <;>
    first
    | exact .inl ⟨_, by constructor⟩
    | exact .inr (.inl ⟨_, rfl⟩)
    | exact .inr (.inr ⟨_, rfl⟩)
    | exact hdec.elim

/-- **Direct casts agree with those through lists.** Wherever there is a caster for two kinds with values of their own,
that from a kind to itself included, and the caster returns, it returns a vector, and the way through the decomposed form
returns an equal one, with the same positions flagged. Of categorical vectors this is said where the levels are texts. -/
theorem direct_agrees_throughLists (decompose : Bool) (execute : Executor) (hv : v.WellFormed) (ht : t.IsStandard)
    (hsource : v.type ≠ .list) (htarget : t ≠ .list)
    (htexts : ∀ levels, v.type = .categorical levels → HasTextLevels v)
    (hc : standard.casterFor? v.type.tag t.tag = some c) {output : CasterOutput}
    (hrun : c.run execute v t = .ok output) :
    ∃ w lossy, output = .result w lossy ∧ AgreesThroughLists decompose v t w lossy := by
  have hs := hv.standard
  rw [casterFor?_standard hs ht] at hc
  obtain ⟨hdecs, hdec⟩ := decomposable_of_caster? hs ht hsource htarget hc
  obtain ⟨e, lossy, g, flag, rfl, hvalues, hlossy, hdisc⟩ := caster_pointwise hv ht hsource htarget hc hrun
  refine ⟨_, _, rfl, ?_⟩
  by_cases hpresent : (own v.values).present = []
  · exact agrees_of_void decompose hv ht hdecs hdec hpresent hvalues hlossy hdisc
  have hsize : e.size = v.size := (congrArg List.length hvalues).trans (List.length_map g)
  have hself : Value.identicalAll e.values e.values = true := by
    refine Value.identicalAll_self ?_
    intro y hy
    rw [hvalues] at hy
    obtain ⟨x, hx, rfl⟩ := List.mem_map.1 hy
    exact hdisc.stored x hx
  rcases hdecs.cases hs with ⟨f, hf⟩ | ⟨bs, hbs⟩ | ⟨levels, hlevels⟩
  · obtain ⟨flagged, hread, hflagged⟩ := readsAs_of_family hv hf ht hsource hpresent hc hrun hsize
    exact agrees_of_readsAs decompose hv ht hdecs hdec hread hsize hself hflagged
  · obtain ⟨flagged, hread, hflagged⟩ := readsAs_of_binned hv hbs ht hpresent hc htarget hrun hsize
    exact agrees_of_readsAs decompose hv ht hdecs hdec hread hsize hself hflagged
  · have hholds := (htexts levels hlevels).holdsTexts hv
    obtain ⟨d, flagged, hread, hreadSize, hsame, hflagged⟩ :=
      readsAs_of_texts hlevels hholds ht hpresent hc htarget hrun
    exact agrees_of_readsAs decompose hv ht hdecs hdec hread hreadSize (hsame ▸ hself) hflagged

/-- A categorical with two texts for levels, which holds both of them around a missing value. -/
def bothAroundMissing : TypedVector :=
  ⟨.categorical [.text "a", .text "b"], ⟨.category (some [.text "a", .text "b"]),
    [.text "b", .double .nan, .text "a"]⟩⟩

lemma wellFormed_bothAroundMissing : bothAroundMissing.WellFormed where
  standard := .categorical (by decide)
  stored := by decide
  held := by
    simp only [bothAroundMissing, TypedVector.values, List.forall_mem_cons]
    exact ⟨.level (by simp), .noLevel _, .level (by simp), by simp⟩
  admitted _ _ := trivial

/-- A level that is not among those of the target is flagged on both ways. -/
theorem direct_agrees_throughLists_texts :
    AgreesThroughLists true bothAroundMissing (.categorical [.text "a"])
      ⟨.categorical [.text "a"], ⟨.category (some [.text "a"]), [.double .nan, .double .nan, .text "a"]⟩⟩ [0] := by
  have ht : (VectorType.categorical [.text "a"]).IsStandard := .categorical (by decide)
  have hc : standard.casterFor? bothAroundMissing.type.tag (VectorType.categorical [.text "a"]).tag = some .recode :=
    (casterFor?_standard wellFormed_bothAroundMissing.standard ht).trans rfl
  have hrun : Caster.recode.run (fun _ _ => .error .tooDeep) bothAroundMissing (.categorical [.text "a"]) =
      .ok (.result ⟨.categorical [.text "a"], ⟨.category (some [.text "a"]),
        [.double .nan, .double .nan, .text "a"]⟩⟩ [0]) := rfl
  obtain ⟨w, lossy, hresult, hagrees⟩ :=
    direct_agrees_throughLists true _ wellFormed_bothAroundMissing ht (by rintro ⟨⟩) (by rintro ⟨⟩)
      (fun _ _ => ⟨_, _, rfl, rfl, by decide⟩) hc hrun
  cases hresult
  exact hagrees

end Registry

end Coercion
