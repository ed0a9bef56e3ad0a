import Coercion.Proofs.Cast.Fitting
import Coercion.Proofs.Column.Level
import Coercion.Proofs.Vector.Detect

/-!
The decomposed form. Any vector can be taken apart into a list vector, whose elements are lists of one value, and
nothing is flagged. The way back opens the lists, one layer after the other, until there are values inside; their
type is found anew, and from there it is one more cast. Vectors whose values tell their type come back as they were,
however many lists there are around the values, and so do categoricals that hold only texts. No other categorical
comes back, since there is no cast to it from the kind of its levels.
-/

namespace Coercion

/-! ### Values in lists -/

namespace Value

/-- A value in `n` lists, one inside the other. -/
def inLists (v : Value) : Nat → Value
  | 0 => v
  | n + 1 => .list [v.inLists n]

/-- A value in `n` lists, as a list vector holds it: a missing one is absent. -/
def enclosed (n : Nat) (v : Value) : Value :=
  if v.isMissing then .absent else v.inLists n

lemma enclosed_of_isMissing (n : Nat) {v : Value} (h : v.isMissing = true) : v.enclosed n = .absent :=
  if_pos h

lemma enclosed_of_present (n : Nat) {v : Value} (h : v.isMissing = false) : v.enclosed n = v.inLists n := by
  rw [enclosed, h]
  rfl

lemma isMissing_enclosed (n : Nat) (v : Value) : (v.enclosed n).isMissing = v.isMissing := by
  cases h : v.isMissing with
  | true =>
    rw [enclosed_of_isMissing n h]
    rfl
  | false =>
    rw [enclosed_of_present n h]
    cases n with
    | zero => exact h
    | succ n => rfl

/-- Opening takes one list away. -/
lemma opened_enclosed (n : Nat) (v : Value) : Caster.opened (v.enclosed (n + 1)) = .ok (v.enclosed n, false) := by
  cases h : v.isMissing with
  | true =>
    rw [enclosed_of_isMissing _ h, enclosed_of_isMissing _ h]
    rfl
  | false =>
    rw [enclosed_of_present _ h, enclosed_of_present _ h]
    rfl

lemma listElement_enclosed (n : Nat) (v : Value) :
    VectorType.listElement (v.enclosed (n + 1)) = .ok (v.enclosed (n + 1)) := by
  cases h : v.isMissing with
  | true =>
    rw [enclosed_of_isMissing _ h]
    rfl
  | false =>
    rw [enclosed_of_present _ h]
    rfl

lemma depth_inLists (v : Value) (n : Nat) : n ≤ (v.inLists n).depth := by
  induction n with
  | zero => exact Nat.zero_le _
  | succ n ih =>
    rw [inLists, depth, depthOfAll, depthOfAll]
    omega

lemma depth_le_depthOfAll {v : Value} {vs : List Value} (h : v ∈ vs) : v.depth ≤ depthOfAll vs := by
  induction vs with
  | nil => cases h
  | cons w ws ih =>
    rw [depthOfAll]
    rcases List.mem_cons.1 h with rfl | h
    · omega
    · have := ih h
      omega

end Value

/-- The list vector that holds the values of a vector in `n` lists. -/
def TypedVector.enclosed (n : Nat) (v : TypedVector) : TypedVector :=
  ⟨.list, .ofValues (v.values.map (Value.enclosed n))⟩

namespace Registry

open VectorType Column

variable {t : VectorType} {f : Family} {xs : List Value} {decompose : Bool}

/-! ### Taking apart -/

/-- The kinds that can be taken apart and put together: those with values of their own, lists excepted. -/
def Decomposable : VectorType → Prop
  | .null | .unspecified | .list => False
  | _ => True

lemma Decomposable.casters (h : Decomposable t) (ht : t.IsStandard) :
    (t.same .list = false ∧ caster? t .list = some .anyToList) ∧
      VectorType.same .list t = false ∧ caster? .list t = some .listToAny := by
  cases ht <;> first | exact ⟨⟨rfl, rfl⟩, rfl, rfl⟩ | exact absurd h id

lemma construct_list {c : Column} {ys : List Value} (h : c.values.mapM listElement = .ok ys) :
    construct .list c = .ok (.ofValues ys) := by
  rw [construct.eq_def]
  simp only [h]
  rfl

lemma size_enclosed (n : Nat) (v : TypedVector) : (v.enclosed n).size = v.size := by
  simp [TypedVector.enclosed, size, ofValues, TypedVector.size, TypedVector.values]

/-- **Every vector with values can be taken apart without a loss.** -/
theorem castTo_list {v : TypedVector} (decompose : Bool) (hv : v.type.IsStandard) (hdec : Decomposable v.type) :
    standard.castTo decompose v .list = .ok ⟨v.enclosed 1, []⟩ := by
  obtain ⟨⟨hne, hc⟩, -⟩ := hdec.casters hv
  have hroute : standard.route decompose v.type .list = .direct .anyToList := route_direct hv .list hne hc
  have helements : (Column.ofValues (v.values.map Caster.wrapped)).values.mapM listElement =
      .ok (v.values.map (Value.enclosed 1)) := by
    change (v.values.map (Value.enclosed 1)).mapM listElement = _
    rw [mapM_eq_ok_iff, List.forall₂_map_left_iff, List.forall₂_map_right_iff, List.forall₂_same]
    intro x _
    exact Value.listElement_enclosed 0 x
  have hrun : (do
      return CasterOutput.exact ⟨.list, ← construct .list (.ofValues (v.values.map Caster.wrapped))⟩ :
        Except Failure CasterOutput) = .ok (.result (v.enclosed 1) []) := by
    rw [construct_list helements]
    rfl
  have hcast := castTo_eq_ok .list hroute hrun (size_enclosed 1 v)
  rw [sortedPositions_nil] at hcast
  exact hcast

/-! ### Putting together -/

/-- The vector that open values are taken for. -/
def readOpen (c : Column) : Except Failure TypedVector :=
  c.detect >>= fun s => s.vectorOf c

/-- A list vector is cast to a kind with values of its own by opening the lists. -/
lemma castWithin_list (fuel : Nat) (c : Column) (ht : t.IsStandard) (hdec : Decomposable t) :
    standard.castWithin (fuel + 1) decompose ⟨.list, c⟩ t =
      Caster.listToAny.run (standard.castWithin fuel false) ⟨.list, c⟩ t >>= fun output =>
        output.checked ⟨.list, c⟩ t := by
  obtain ⟨-, hne, hc⟩ := hdec.casters ht
  have hroute : standard.route decompose .list t = .direct .listToAny := route_direct .list ht hne hc
  rw [castWithin, hroute]

lemma mapM_opened_enclosed (n : Nat) (xs : List Value) :
    (xs.map (Value.enclosed (n + 1))).mapM Caster.opened = .ok (xs.map fun x => (x.enclosed n, false)) := by
  rw [mapM_eq_ok_iff, List.forall₂_map_left_iff, List.forall₂_map_right_iff, List.forall₂_same]
  intro x _
  exact Value.opened_enclosed n x

/-- One layer of lists is taken away, and the rest is cast, with the same values flagged. -/
lemma castWithin_opened {fuel n : Nat} {inner : TypedVector} {d : Column} {lossy : List Nat} (ht : t.IsStandard)
    (hdec : Decomposable t) (hinner : readOpen (.ofValues (xs.map (Value.enclosed n))) = .ok inner)
    (hcast : standard.castWithin fuel false inner t = .ok ⟨⟨t, d⟩, lossy⟩) (hsize : d.size = xs.length) :
    standard.castWithin (fuel + 1) decompose ⟨.list, .ofValues (xs.map (Value.enclosed (n + 1)))⟩ t =
      .ok ⟨⟨t, d⟩, sortedPositions lossy⟩ := by
  have hopened := mapM_opened_enclosed n xs
  have hvalues : (xs.map fun x => (x.enclosed n, false)).map (·.1) = xs.map (Value.enclosed n) := by
    rw [List.map_map]
    rfl
  have hflags : positionsOf ((xs.map fun x => (x.enclosed n, false)).map (·.2)) = [] := by
    rw [List.map_map]
    exact positionsOf_eq_nil fun _ _ => rfl
  have hrun : Caster.listToAny.run (standard.castWithin fuel false)
      ⟨.list, .ofValues (xs.map (Value.enclosed (n + 1)))⟩ t = .ok (.result ⟨t, d⟩ lossy) := by
    have hread : ((Column.ofValues (xs.map (Value.enclosed n))).detect >>= fun s =>
        s.vectorOf (.ofValues (xs.map (Value.enclosed n)))) = .ok inner := hinner
    simp only [Caster.listToAny, TypedVector.values, Column.ofValues] at hread ⊢
    simp only [hopened, bind, Except.bind, hvalues, hflags] at hread ⊢
    rw [hread]
    simp only [pure, Except.pure, hcast]
    rfl
  rw [castWithin_list fuel _ ht hdec, hrun]
  have hlength : d.size = TypedVector.size ⟨.list, .ofValues (xs.map (Value.enclosed (n + 1)))⟩ :=
    hsize.trans (List.length_map _).symm
  exact checked_result ht hlength

/-- If nothing is flagged in what is inside, nothing is flagged in the whole. -/
lemma castWithin_enclosed_succ {fuel n : Nat} {inner : TypedVector} {d : Column} (ht : t.IsStandard)
    (hdec : Decomposable t) (hinner : readOpen (.ofValues (xs.map (Value.enclosed n))) = .ok inner)
    (hcast : standard.castWithin fuel false inner t = .ok ⟨⟨t, d⟩, []⟩) (hsize : d.size = xs.length) :
    standard.castWithin (fuel + 1) decompose ⟨.list, .ofValues (xs.map (Value.enclosed (n + 1)))⟩ t =
      .ok ⟨⟨t, d⟩, []⟩ := by
  rw [castWithin_opened ht hdec hinner hcast hsize, sortedPositions_nil]

/-- What values are put together to: the vector that the open values are taken for is cast to this column, and nothing
is flagged. -/
structure Restores (t : VectorType) (xs : List Value) (d : Column) : Prop where
  size : d.size = xs.length
  read : ∃ inner, readOpen (own xs) = .ok inner ∧
    ∀ fuel, standard.castWithin (fuel + 1) false inner t = .ok ⟨⟨t, d⟩, []⟩

lemma enclosed_of_void (h : (own xs).present = []) (n : Nat) : xs.map (Value.enclosed n) = (own xs).values := by
  refine List.map_congr_left ?_
  intro x hx
  have hm : x.isMissing = true := isMissing_of_present_own h hx
  rw [Value.enclosed_of_isMissing n hm, hm]
  rfl

/-- Values in lists are taken for a list vector if one of them is present. -/
lemma readOpen_enclosed (n : Nat) (h : (own xs).present ≠ []) :
    readOpen (.ofValues (xs.map (Value.enclosed (n + 1)))) =
      .ok ⟨.list, .ofValues (xs.map (Value.enclosed (n + 1)))⟩ := by
  have hpresent : ∀ y ∈ (Column.ofValues (xs.map (Value.enclosed (n + 1)))).present, y.family = .ok .list := by
    intro y hy
    obtain ⟨hy, hm⟩ := List.mem_filter.1 hy
    obtain ⟨x, -, rfl⟩ := List.mem_map.1 hy
    rw [Value.isMissing_enclosed] at hm
    rw [Value.enclosed_of_present _ (by simpa using hm)]
    rfl
  have hne : (Column.ofValues (xs.map (Value.enclosed (n + 1)))).present ≠ [] := by
    obtain ⟨x, hx⟩ := List.exists_mem_of_ne_nil _ h
    obtain ⟨hx, hm⟩ := mem_present_own.1 hx
    refine List.ne_nil_of_mem (a := x.enclosed (n + 1)) (List.mem_filter.2 ⟨List.mem_map_of_mem hx, ?_⟩)
    rw [Value.isMissing_enclosed, hm]
    rfl
  have hdetect : (Column.ofValues (xs.map (Value.enclosed (n + 1)))).detect = .ok .list :=
    detectElements_of_family hpresent hne
  have helements : (xs.map (Value.enclosed (n + 1))).mapM listElement = .ok (xs.map (Value.enclosed (n + 1))) := by
    rw [mapM_eq_ok_iff, List.forall₂_map_left_iff, List.forall₂_map_right_iff, List.forall₂_same]
    intro x _
    exact Value.listElement_enclosed n x
  rw [readOpen, hdetect]
  change vectorOf .list _ = _
  rw [vectorOf, construct_list helements]
  rfl

/-- Values that are restored from the open form are restored from any number of lists. -/
theorem castWithin_enclosed {d : Column} (ht : t.IsStandard) (hdec : Decomposable t) (h : Restores t xs d)
    (hpresent : (own xs).present ≠ []) (n fuel : Nat) :
    standard.castWithin (fuel + n + 2) decompose ⟨.list, .ofValues (xs.map (Value.enclosed (n + 1)))⟩ t =
      .ok ⟨⟨t, d⟩, []⟩ := by
  induction n generalizing decompose with
  | zero =>
    obtain ⟨inner, hinner, hcast⟩ := h.read
    exact castWithin_enclosed_succ ht hdec hinner (hcast fuel) h.size
  | succ n ih => exact castWithin_enclosed_succ ht hdec (readOpen_enclosed n hpresent) ih h.size

theorem castTo_enclosed {v : TypedVector} {d : Column} (decompose : Bool) (ht : t.IsStandard) (hdec : Decomposable t)
    (h : Restores t v.values d) (n : Nat) :
    standard.castTo decompose (v.enclosed (n + 1)) t = .ok ⟨⟨t, d⟩, []⟩ := by
  rw [castTo, castFuel]
  by_cases hvoid : (own v.values).present = []
  · -- nothing is in the lists, so that one of them is all there is
    obtain ⟨inner, hinner, hcast⟩ := h.read
    have hsame : v.enclosed (n + 1) = v.enclosed 1 := by
      rw [TypedVector.enclosed, TypedVector.enclosed, enclosed_of_void hvoid, enclosed_of_void hvoid]
    rw [hsame]
    exact castWithin_enclosed_succ ht hdec hinner (hcast _) h.size
  · obtain ⟨x, hx⟩ := List.exists_mem_of_ne_nil _ hvoid
    obtain ⟨hx, hm⟩ := mem_present_own.1 hx
    have hdepth : n + 1 ≤ Value.depthOfAll (v.enclosed (n + 1)).values := by
      have hmem : x.enclosed (n + 1) ∈ (v.enclosed (n + 1)).values := List.mem_map_of_mem hx
      have hdeep := Value.depth_le_depthOfAll hmem
      have hlists := Value.depth_inLists x (n + 1)
      rw [Value.enclosed_of_present _ hm] at hdeep
      omega
    obtain ⟨fuel, hfuel⟩ : ∃ fuel, Value.depthOfAll (v.enclosed (n + 1)).values + 4 = fuel + n + 2 :=
      ⟨Value.depthOfAll (v.enclosed (n + 1)).values + 2 - n, by omega⟩
    rw [hfuel]
    exact castWithin_enclosed ht hdec h hvoid n fuel

/-! ### What is restored -/

/-- Without a present value the type is not known, and the cast makes missing values of the target. -/
lemma restores_of_void {d : Column} (ht : t.IsStandard) (hdec : Decomposable t) (hvoid : (own xs).present = [])
    (hd : t.construct (own xs) = .ok d) (hsize : d.size = xs.length) : Restores t xs d where
  size := hsize
  read := by
    have hdetect : (own xs).detect = .ok (if (own xs).values.isEmpty then .null else .unspecified) :=
      detectElements_of_void hvoid
    have hmissing : (own xs).IsVoid := .of_present_eq_nil rfl hvoid
    have hvoided : ∀ s : VectorType, ((own xs).voided s.storage).voided t.storage = d := by
      intro s
      have hnull : t = .null → (own xs).values = [] := by
        rintro rfl
        exact hdec.elim
      rw [construct_eq_voided ht hmissing hnull] at hd
      cases hd
      rw [voided, voided, List.map_map]
      rfl
    rw [readOpen, hdetect]
    -- the type that is found tells only whether there are places at all
    cases hempty : (own xs).values.isEmpty with
    | true =>
      have hvalues : (own xs).values = [] := List.isEmpty_iff.1 hempty
      have hread := construct_eq_voided .null hmissing fun _ => hvalues
      refine ⟨⟨.null, (own xs).voided (storage .null)⟩, ?_, ?_⟩
      · change (do return (⟨.null, ← construct .null (own xs)⟩ : TypedVector)) = _
        rw [hread]
        rfl
      · intro fuel
        have hne : VectorType.same .null t = false := by
          cases ht <;> first | rfl | exact absurd hdec id
        rw [castWithin_fromNull fuel ht rfl hne, ← hvoided .null]
        rw [voided, voided, hvalues]
        rfl
    | false =>
      have hread := construct_eq_voided .unspecified hmissing (by rintro ⟨⟩)
      refine ⟨⟨.unspecified, (own xs).voided (storage .unspecified)⟩, ?_, ?_⟩
      · change (do return (⟨.unspecified, ← construct .unspecified (own xs)⟩ : TypedVector)) = _
        rw [hread]
        rfl
      · intro fuel
        have hne : VectorType.same .unspecified t = false := by
          cases ht <;> first | rfl | exact absurd hdec id
        have hnull : t ≠ .null := by
          rintro rfl
          exact hdec
        rw [castWithin_fromUnspecified fuel ht rfl hne hnull]
        exact congrArg (fun c => Except.ok (⟨⟨t, c⟩, []⟩ : CastResult)) (hvoided .unspecified)

lemma Decomposable.of_family (ht : t.OfFamily f) : Decomposable t := by
  cases ht <;> trivial

/-- The values of a vector of one family are taken for this vector if one of them is present. -/
lemma readOpen_own (ht : t.OfFamily f) (h : ∀ x ∈ xs, t.storage.Holds x) (hpresent : (own xs).present ≠ []) :
    readOpen (own xs) = .ok ⟨t, ⟨t.storage, xs⟩⟩ := by
  rw [readOpen, detect_own ht h hpresent]
  change (do return (⟨t, ← t.construct (own xs)⟩ : TypedVector)) = _
  rw [construct_own ht h]
  rfl

/-- A vector of one family is restored as it was. -/
theorem restores_of_family (ht : t.OfFamily f) (h : ∀ x ∈ xs, t.storage.Holds x) : Restores t xs ⟨t.storage, xs⟩ := by
  by_cases hvoid : (own xs).present = []
  · exact restores_of_void ht.isStandard (.of_family ht) hvoid (construct_own ht h) rfl
  · refine ⟨rfl, ⟨t, ⟨t.storage, xs⟩⟩, readOpen_own ht h hvoid, ?_⟩
    intro fuel
    have hself : t.same t = true := same_refl ht.isStandard
    have hpayload : samePayload t t = true := samePayload_of_same ht.isStandard ht.isStandard ht.ne_categorical hself
    exact castWithin_unchanged fuel hself hpayload

/-! ### Texts among the levels -/

/-- A value as one of a vector of texts. -/
def shownText (x : Value) : Value :=
  if x.isMissing then .notAvailable else .text (textOf x)

/-- A text says the same as the text that it is shown as. -/
lemma same_shownText {x : Value} (h : x.isText = true) : x.same (shownText x) = true := by
  obtain ⟨s, hs, htext, -, hm⟩ := Value.text_of_isText h
  have hshown : shownText x = .text s := by
    rw [shownText, hm, htext]
    rfl
  rw [hshown]
  exact (Value.same_iff _ _).2 (Or.inl ⟨_, hs, rfl⟩)

lemma isText_shownText (x : Value) : (shownText x).isMissing = true ∨ (shownText x).isText = true := by
  rw [shownText]
  cases x.isMissing with
  | true => exact Or.inl rfl
  | false => exact Or.inr rfl

/-- A text is taken for the level that it is shown as, and so is a missing value. -/
lemma levelIn_shownText (levels : List Value) {x : Value} (h : x.isMissing = true ∨ x.isText = true) :
    levelIn levels (shownText x) = levelIn levels x := by
  rcases h with hm | htext
  · have hshown : (shownText x).isMissing = true := by
      rw [shownText, hm]
      rfl
    rw [levelIn_of_isMissing levels hshown, levelIn_of_isMissing levels hm]
  · exact (levelIn_congr levels (same_shownText htext)).symm

/-- Texts out of lists are put together to a vector of texts. -/
lemma readOpen_of_texts (htext : ∀ x ∈ xs, x.isMissing = true ∨ x.isText = true) (hvoid : (own xs).present ≠ []) :
    readOpen (own xs) = .ok ⟨.character, ⟨.string, xs.map shownText⟩⟩ := by
  have hfamily : ∀ x ∈ (own xs).present, x.family = .ok .character := by
    intro x hx
    obtain ⟨hx, hm⟩ := mem_present_own.1 hx
    rcases htext x hx with hmissing | htext
    · rw [hmissing] at hm
      cases hm
    · obtain ⟨s, -, -, hfamily, -⟩ := Value.text_of_isText htext
      exact hfamily
  have hdetect : (own xs).detect = .ok .character := detectElements_of_family hfamily hvoid
  have hshown : (own xs).toText = ⟨.string, xs.map shownText⟩ := by
    change (⟨.string, (xs.map _).map _⟩ : Column) = _
    rw [List.map_map]
    congr 1
    refine List.map_congr_left fun x _ => ?_
    cases hm : x.isMissing <;> simp [hm, shownText, Value.isMissing]
  rw [readOpen, hdetect]
  change (do return (⟨.character, ← (own xs).marked.convert .string⟩ : TypedVector)) = _
  rw [marked_own]
  change (do return (⟨.character, ← Except.ok (own xs).toText⟩ : TypedVector)) = _
  rw [hshown]
  rfl

variable {levels : List Value}

/-- A vector of texts is cast to levels, with the texts that are no level flagged. -/
lemma castWithin_shownTexts (decompose : Bool) (fuel : Nat) (hlevels : LegalLevels levels)
    (htext : ∀ x ∈ xs, x.isMissing = true ∨ x.isText = true) :
    standard.castWithin (fuel + 1) decompose ⟨.character, ⟨.string, xs.map shownText⟩⟩ (.categorical levels) =
      .ok ⟨⟨.categorical levels, ⟨.category (some (storedLevels levels)), xs.map (levelIn (storedLevels levels))⟩⟩,
        sortedPositions (droppedPositions (xs.map shownText) (xs.map (levelIn (storedLevels levels))))⟩ := by
  have ht : (VectorType.categorical levels).IsStandard := .categorical hlevels
  have hroute : standard.route decompose .character (.categorical levels) = .direct .characterToCategorical :=
    route_direct .character ht rfl rfl
  have htexts : ∀ v ∈ xs.map shownText, v.isMissing = true ∨ v.isText = true := by
    intro v hv
    obtain ⟨x, -, rfl⟩ := List.mem_map.1 hv
    exact isText_shownText x
  have hmade : construct (.categorical levels) ⟨.string, xs.map shownText⟩ =
      .ok ⟨.category (some (storedLevels levels)), xs.map (levelIn (storedLevels levels))⟩ := by
    change Column.toLevels (storedLevels levels) _ = _
    rw [toLevels_of_texts _ htexts, List.map_map]
    congr 2
    refine List.map_congr_left ?_
    intro x hx
    exact levelIn_shownText _ (htext x hx)
  refine castWithin_eq_ok fuel ht hroute ?_ (by simp [size, TypedVector.size])
  rw [hmade]
  rfl

/-- Texts that are levels of a categorical are restored as these levels. -/
theorem restores_of_texts (hlevels : LegalLevels levels) (htext : ∀ x ∈ xs, x.isMissing = true ∨ x.isText = true)
    (hlevel : ∀ x ∈ xs, x.isMissing = false → (levelIn (storedLevels levels) x).isMissing = false) :
    Restores (.categorical levels) xs
      ⟨.category (some (storedLevels levels)), xs.map (levelIn (storedLevels levels))⟩ := by
  have ht : (VectorType.categorical levels).IsStandard := .categorical hlevels
  by_cases hvoid : (own xs).present = []
  · have hmissing : (own xs).IsVoid := .of_present_eq_nil rfl hvoid
    have hown : ∀ v ∈ (own xs).values, v.isMissing = true ∨ v.isText = true := by
      intro v hv
      exact Or.inl (hmissing.missing v hv)
    refine restores_of_void ht trivial hvoid ?_ (List.length_map _)
    change (own xs).toLevels _ = _
    rw [toLevels_of_texts _ hown, own, ofValues, List.map_map]
    congr 2
    refine List.map_congr_left fun x _ => ?_
    cases hm : x.isMissing <;> simp [hm, levelIn, Value.isMissing]
  · have hkept : droppedPositions (xs.map shownText) (xs.map (levelIn (storedLevels levels))) = [] := by
      rw [droppedPositions, List.zip_map', List.map_map]
      refine positionsOf_eq_nil fun x hx => ?_
      cases hm : x.isMissing with
      | true => simp [shownText, hm, Value.isMissing]
      | false => simp [hlevel x hx hm]
    refine ⟨List.length_map _, ⟨.character, ⟨.string, xs.map shownText⟩⟩, readOpen_of_texts htext hvoid, ?_⟩
    intro fuel
    rw [castWithin_shownTexts false fuel hlevels htext, hkept, sortedPositions_nil]

end Registry

end Coercion
