import Coercion.Proofs.Cast.Decomposed

/-!
Round trips through the decomposed form. A vector whose values tell their type is put together again from any number of
lists around its values, and so is a categorical that holds only texts. Of the other categoricals none comes back:
the values in the lists are taken for a vector of their own kind, and only texts can be cast to levels.
-/

namespace Coercion

/-! ### The values of a categorical -/

namespace TypedVector.WellFormed

open VectorType Column

variable {v : TypedVector}

lemma legalLevels (h : v.WellFormed) {levels : List Value} (ht : v.type = .categorical levels) :
    LegalLevels levels :=
  (ht ▸ h.standard).legalLevels

/-- A value of a categorical is the marker of missing ones, or equal to a stored level of the type. -/
lemma level_cases (h : v.WellFormed) {levels : List Value} (ht : v.type = .categorical levels) {x : Value}
    (hx : x ∈ v.values) :
    x = .double .nan ∨ x.isMissing = false ∧ (levelIn (storedLevels levels) x).same x = true := by
  have hstored := h.stored
  rw [ht] at hstored
  obtain ⟨ls, hls, hsame⟩ := Dtype.eq_category_of_same hstored
  have hheld := h.held x hx
  rw [hls] at hheld
  cases hheld with
  | noLevel => exact Or.inl rfl
  | level hmem =>
    obtain ⟨l, hl, hxl⟩ := Value.exists_same_of_mem hsame hmem
    have hpresent : l.isMissing = false :=
      isMissing_storedLevels (fun w hw => ((h.legalLevels ht).level w hw).present) l hl
    have hm : x.isMissing = false := (Value.same_isMissing hxl).trans hpresent
    exact Or.inr ⟨hm, same_levelIn hm hl (Value.same_symm hxl)⟩

end TypedVector.WellFormed

/-- A vector is the same as itself if all its values are identical to themselves. -/
lemma TypedVector.same_self {v : TypedVector} (hv : v.WellFormed) (h : ∀ x ∈ v.values, x.identical x = true) :
    v.same v = true := by
  rw [same, Bool.and_eq_true]
  exact ⟨VectorType.same_refl hv.standard, Value.identicalAll_self h⟩

namespace Registry

open VectorType Column

variable {v : TypedVector} {t : VectorType} {f : Family} {decompose : Bool}

/-! ### Vectors that come back -/

/-- A vector survives the decomposed form if nothing is flagged when it is taken apart, and if its values are put
together to an equal vector from any number of lists around them, again with nothing flagged. -/
structure Survives (decompose : Bool) (v : TypedVector) : Prop where
  apart : standard.castTo decompose v .list = .ok ⟨v.enclosed 1, []⟩
  together : ∀ n, ∃ w, standard.castTo decompose (v.enclosed (n + 1)) v.type = .ok ⟨w, []⟩ ∧ w.same v = true

/-- A value in the storage of one family is identical to itself. -/
lemma identical_self_of_holds (ht : t.OfFamily f) {x : Value} (hx : t.storage.Holds x) : x.identical x = true := by
  cases hm : x.isMissing with
  | true =>
    rw [ht.missing_eq hx hm]
    cases ht <;> rfl
  | false =>
    have hheld : x.held? = none := ht.held?_eq hx
    rcases (Value.same_iff x x).1 (Value.same_self hheld hm) with ⟨m, hx, -⟩ | ⟨s, ys, zs, hs, -⟩
    · exact Value.identical_of_meaning? hx hx
    · rw [hheld] at hs
      cases hs

lemma survives_of_family (decompose : Bool) (hv : v.WellFormed) (ht : v.type.OfFamily f) : Survives decompose v := by
  have hdtype : v.column.dtype = v.type.storage := hv.dtype_eq ht.ne_categorical
  have hheld : ∀ x ∈ v.values, v.type.storage.Holds x := hdtype ▸ hv.held
  refine ⟨castTo_list decompose hv.standard (.of_family ht), ?_⟩
  intro n
  have hback := castTo_enclosed decompose hv.standard (.of_family ht) (restores_of_family ht hheld) n
  have hself : v.same v = true := TypedVector.same_self hv fun x hx => identical_self_of_holds ht (hheld x hx)
  exact ⟨_, hback, hself⟩

/-- Whether every value of a vector is missing or a text. -/
def HoldsTexts (v : TypedVector) : Prop :=
  ∀ x ∈ v.values, x.isMissing = true ∨ x.isText = true

lemma survives_of_texts (decompose : Bool) (hv : v.WellFormed) {levels : List Value} (ht : v.type = .categorical levels)
    (htexts : HoldsTexts v) : Survives decompose v := by
  have hdec : Decomposable v.type := by
    rw [ht]
    trivial
  have hlevel : ∀ x ∈ v.values, x.isMissing = false → (levelIn (storedLevels levels) x).isMissing = false := by
    intro x hx hm
    rcases hv.level_cases ht hx with rfl | ⟨-, hsame⟩
    · cases hm
    · rw [Value.same_isMissing hsame, hm]
  have hrestores : Restores v.type v.values _ := ht ▸ restores_of_texts (hv.legalLevels ht) htexts hlevel
  refine ⟨castTo_list decompose hv.standard hdec, ?_⟩
  intro n
  refine ⟨_, castTo_enclosed decompose hv.standard hdec hrestores n, ?_⟩
  have hidentical : Value.identicalAll (v.values.map (levelIn (storedLevels levels))) v.values = true := by
    refine Value.identicalAll_map ?_
    intro x hx
    rcases hv.level_cases ht hx with rfl | ⟨hm, hsame⟩
    · rfl
    · rcases htexts x hx with hmissing | htext
      · rw [hmissing] at hm
        cases hm
      · obtain ⟨s, hs, -⟩ := Value.text_of_isText htext
        have hlevel := (Value.same_iff_of_meaning? hs _).1 (Value.same_symm hsame)
        exact Value.identical_of_meaning? hlevel hs
  change (v.type.same v.type && Value.identicalAll (v.values.map (levelIn (storedLevels levels))) v.values) = true
  rw [same_refl hv.standard, hidentical]
  rfl

/-- Whether a vector is a categorical whose levels, in the type and in storage, are all texts. -/
def HasTextLevels (v : TypedVector) : Prop :=
  ∃ levels stored, v.type = .categorical levels ∧ v.column.dtype = .category (some stored) ∧
    ∀ l ∈ levels ++ stored, l.isText = true

/-- **The decomposed form keeps what tells its type.** A well-formed vector of truth values, numbers, texts, dates or
datetimes survives the decomposed form, and so does a categorical that has only texts for levels. -/
theorem castTo_survives (decompose : Bool) (hv : v.WellFormed)
    (hkind : (∃ f, v.type.OfFamily f) ∨ HasTextLevels v) : Survives decompose v := by
  rcases hkind with ⟨f, hf⟩ | ⟨levels, stored, ht, hdtype, htext⟩
  · exact survives_of_family decompose hv hf
  · refine survives_of_texts decompose hv ht ?_
    intro x hx
    have hheld := hv.held x hx
    rw [hdtype] at hheld
    cases hheld with
    | noLevel => exact Or.inl rfl
    | level hmem => exact Or.inr (htext x (List.mem_append.2 (Or.inr hmem)))

/-- A categorical of two texts with a missing value. -/
theorem castTo_survives_texts :
    Survives true ⟨.categorical [.text "a", .text "b"], ⟨.category (some [.text "a", .text "b"]),
      [.text "b", .double .nan]⟩⟩ :=
  castTo_survives true
    { standard := .categorical (by decide)
      stored := by decide
      held := by
        intro x hx
        rcases List.mem_cons.1 hx with rfl | hx
        · exact .level (by simp)
        · rw [List.mem_singleton.1 hx]
          exact .noLevel _
      admitted := fun _ _ => trivial }
    (Or.inr ⟨_, _, rfl, rfl, by decide⟩)

/-! ### Vectors that do not come back -/

/-- What open values are taken for is of their own family, or of no known type if there is none among them. -/
lemma detectElements_eq_ok {c : Column} {s : VectorType} (h : c.detectElements = .ok s) :
    (s = .null ∨ s = .unspecified) ∧ c.present = [] ∨
      ((∃ f, s = Family.type f) ∨ ∃ zone, s = .datetime zone) ∧ ∀ x ∈ c.present, ∃ f, x.family = .ok f := by
  cases hempty : c.present.isEmpty with
  | true =>
    have hvoid : c.present = [] := List.isEmpty_iff.1 hempty
    rw [detectElements_of_void hvoid] at h
    refine Or.inl ⟨?_, hvoid⟩
    split_ifs at h <;> cases h
    · exact Or.inl rfl
    · exact Or.inr rfl
  | false =>
    rw [detectElements, hempty] at h
    simp only [Bool.false_eq_true, if_false] at h
    obtain ⟨fs, hfs, h⟩ := bind_eq_ok_iff.1 h
    refine Or.inr ⟨?_, (exists_of_mapM_ok hfs).1⟩
    split at h
    · obtain ⟨zones, -, h⟩ := bind_eq_ok_iff.1 h
      split at h
      · cases h
        exact Or.inr ⟨_, rfl⟩
      · cases h
    · cases h
      exact Or.inl ⟨_, rfl⟩
    · cases h
      exact Or.inl ⟨.double, rfl⟩
    · cases h
      exact Or.inl ⟨.double, rfl⟩
    · cases h

lemma readOpen_eq_ok {ys : List Value} {inner : TypedVector} (h : readOpen (.ofValues ys) = .ok inner) :
    (Column.ofValues ys).detectElements = .ok inner.type ∧
      inner.type.construct (.ofValues ys) = .ok inner.column := by
  obtain ⟨s, hs, h⟩ := bind_eq_ok_iff.1 h
  obtain ⟨c, hc, h⟩ := bind_eq_ok_iff.1 h
  cases h
  exact ⟨hs, hc⟩

/-- Nothing reaches a kind to which there is no caster, once the decomposed form is out of reach. -/
lemma castWithin_ne_ok {s : VectorType} {fuel : Nat} {c : Column} {r : CastResult} (hs : s.IsStandard)
    (ht : t.IsStandard) (hsome : Decomposable s) (htyped : t.isTyped = true) (hne : s.same t = false)
    (hc : caster? s t = none) : standard.castWithin fuel false ⟨s, c⟩ t ≠ .ok r := by
  have htypedSource : s.isTyped = true := by
    cases hs <;> first | rfl | exact hsome.elim
  have hnull : t ≠ .null := by
    rintro rfl
    cases htyped
  have hroute : standard.route false s t = .direct .noCast :=
    route_refused hs ht htypedSource hnull hne hc (.inl rfl)
  intro h
  cases fuel with
  | zero => cases h
  | succ fuel =>
    rw [castWithin, hroute] at h
    cases h

/-- Whether a value is missing or says what a text says. -/
def SaysText (x : Value) : Prop :=
  x.isMissing = true ∨ ∃ s, x.meaning? = some (.text s)

/-- What is put together is the cast of what is in the lists. -/
lemma listToAny_eq_ok {execute : Executor} {w : TypedVector} {output : CasterOutput}
    (h : Caster.listToAny.run execute w t = .ok output) :
    ∃ elements inner result, w.values.mapM Caster.opened = .ok elements ∧
      readOpen (.ofValues (elements.map (·.1))) = .ok inner ∧ execute inner t = .ok result ∧
      output = .result result.vector (positionsOf (elements.map (·.2)) ++ result.lossy) := by
  obtain ⟨elements, helements, h⟩ := bind_eq_ok_iff.1 h
  dsimp only at h
  split at h
  · rename_i inner hread
    obtain ⟨_, hinner, h⟩ := bind_eq_ok_iff.1 h
    cases hinner
    split at h
    · rename_i result hresult
      cases h
      exact ⟨elements, inner, result, helements, hread, hresult, rfl⟩
    · cases h
  · -- nothing is read, so nothing is cast
    split_ifs at h <;> obtain ⟨_, hthrown, -⟩ := bind_eq_ok_iff.1 h <;> cases hthrown

/-- A vector that is all missing is made into one of missing values. -/
lemma saysText_toLevels {levels : List Value} {c d : Column}
    (h : ∀ x ∈ c.values, x.isMissing = true ∨ x.isText = true) (hd : c.toLevels levels = .ok d) :
    ∀ y ∈ d.values, SaysText y := by
  rw [toLevels_of_texts levels h] at hd
  cases hd
  intro y hy
  obtain ⟨x, hx, rfl⟩ := List.mem_map.1 hy
  rcases levelIn_cases levels x with hmissing | ⟨-, hsame⟩
  · rw [hmissing]
    exact Or.inl rfl
  · rcases h x hx with hm | htext
    · rw [levelIn_of_isMissing levels hm]
      exact Or.inl rfl
    · obtain ⟨s, hs, -⟩ := Value.text_of_isText htext
      exact Or.inr ⟨s, (Value.same_iff_of_meaning? hs _).1 (Value.same_symm hsame)⟩

/-- A vector of no known type is cast to missing values. -/
lemma saysText_fromVoid {levels : List Value} {s : VectorType} {fuel : Nat} {c : Column} {r : CastResult}
    (ht : (VectorType.categorical levels).IsStandard) (hs : s = .null ∨ s = .unspecified)
    (h : standard.castWithin fuel decompose ⟨s, c⟩ (.categorical levels) = .ok r) :
    ∀ x ∈ r.vector.values, SaysText x := by
  cases fuel with
  | zero => cases h
  | succ fuel =>
    intro x hx
    rcases hs with rfl | rfl
    · rw [castWithin_fromNull fuel ht rfl rfl] at h
      cases h
      cases hx
    · rw [castWithin_fromUnspecified fuel ht rfl rfl nofun] at h
      cases h
      obtain ⟨y, -, rfl⟩ := List.mem_map.1 hx
      exact Or.inl rfl

/-- A vector of texts is cast to texts. -/
lemma saysText_fromTexts {levels : List Value} {ys : List Value} {fuel : Nat} {c : Column} {r : CastResult}
    (ht : (VectorType.categorical levels).IsStandard)
    (hc : construct .character (.ofValues ys) = .ok c)
    (h : standard.castWithin fuel decompose ⟨.character, c⟩ (.categorical levels) = .ok r) :
    ∀ x ∈ r.vector.values, SaysText x := by
  have htexts : ∀ x ∈ c.values, x.isMissing = true ∨ x.isText = true := by
    change Except.ok (Column.ofValues ys).marked.toText = _ at hc
    cases hc
    intro x hx
    change x ∈ List.map _ _ at hx
    obtain ⟨y, -, rfl⟩ := List.mem_map.1 hx
    exact isText_shownText y
  cases fuel with
  | zero => cases h
  | succ fuel =>
    have hroute : standard.route decompose .character (.categorical levels) = .direct .characterToCategorical :=
      route_direct .character ht rfl rfl
    rw [castWithin, hroute] at h
    obtain ⟨output, houtput, hchecked⟩ := bind_eq_ok_iff.1 h
    obtain ⟨d, hd, houtput⟩ := bind_eq_ok_iff.1 houtput
    cases houtput
    rw [vector_of_checked hchecked]
    exact saysText_toLevels htexts hd

/-- Whatever lists are cast to levels, only texts and missing values come of them. -/
theorem saysText_of_castWithin {levels : List Value} (hlevels : LegalLevels levels) {fuel : Nat} {c : Column}
    {r : CastResult} (h : standard.castWithin fuel decompose ⟨.list, c⟩ (.categorical levels) = .ok r) :
    ∀ x ∈ r.vector.values, SaysText x := by
  have ht : (VectorType.categorical levels).IsStandard := .categorical hlevels
  -- the lists are opened one by one: what is in them is a list again, or has a type that decides what comes of it
  induction fuel generalizing decompose c r with
  | zero => cases h
  | succ fuel ih =>
    rw [castWithin_list fuel c ht trivial] at h
    obtain ⟨output, houtput, hchecked⟩ := bind_eq_ok_iff.1 h
    obtain ⟨elements, ⟨s, d⟩, result, -, hread, hcast, rfl⟩ := listToAny_eq_ok houtput
    rw [vector_of_checked hchecked]
    obtain ⟨hdetect, hmade⟩ := readOpen_eq_ok hread
    rcases detectElements_eq_ok hdetect with ⟨rfl | rfl, -⟩ | ⟨⟨f, rfl⟩ | ⟨zone, rfl⟩, -⟩
    · exact saysText_fromVoid ht (.inl rfl) hcast
    · exact saysText_fromVoid ht (.inr rfl) hcast
    · cases f with
      | list => exact ih hcast
      | character => exact saysText_fromTexts ht hmade hcast
      | logical => exact absurd hcast (castWithin_ne_ok .logical ht trivial rfl rfl rfl)
      | integer => exact absurd hcast (castWithin_ne_ok .integer ht trivial rfl rfl rfl)
      | double => exact absurd hcast (castWithin_ne_ok .double ht trivial rfl rfl rfl)
      | datetime => exact absurd hcast (castWithin_ne_ok (.datetime none) ht trivial rfl rfl rfl)
      | date => exact absurd hcast (castWithin_ne_ok .date ht trivial rfl rfl rfl)
    · exact absurd hcast (castWithin_ne_ok (.datetime zone) ht trivial rfl rfl rfl)

/-- Whether a vector comes back as it was if it is taken apart and put together again, with nothing flagged. -/
def Recovers (decompose : Bool) (v : TypedVector) : Prop :=
  ∃ parts whole, standard.castTo decompose v .list = .ok parts ∧
    standard.castTo decompose parts.vector v.type = .ok whole ∧ whole.lossy = [] ∧ whole.vector.same v = true

/-- A categorical that comes back holds only texts. -/
lemma holdsTexts_of_recovers (hv : v.WellFormed) {levels : List Value} (ht : v.type = .categorical levels)
    (h : Recovers decompose v) : HoldsTexts v := by
  obtain ⟨parts, whole, hparts, hwhole, -, hsame⟩ := h
  have hdec : Decomposable v.type := by
    rw [ht]
    trivial
  have hlevels := hv.legalLevels ht
  rw [castTo_list decompose hv.standard hdec] at hparts
  cases hparts
  rw [ht, castTo, castFuel] at hwhole
  -- what comes back says what texts say, and so does what it is identical to
  have hsays : ∀ x ∈ v.values, SaysText x := by
    have hback := saysText_of_castWithin hlevels hwhole
    have hidentical : Value.identicalAll whole.vector.values v.values = true := (Bool.and_eq_true_iff.1 hsame).2
    rw [Value.identicalAll_iff] at hidentical
    intro x hx
    obtain ⟨y, hy, hyx⟩ := exists_mem_of_forall₂ hidentical hx
    exact Value.identical_single (hback y hy) hyx
  -- and the values have a family, or the type of what is in the lists would not have been found
  have hfamily : ∀ x ∈ v.values, x.isMissing = false → ∃ f, x.family = .ok f := by
    rw [TypedVector.enclosed, castWithin_list _ _ (.categorical hlevels) trivial] at hwhole
    obtain ⟨output, houtput, -⟩ := bind_eq_ok_iff.1 hwhole
    obtain ⟨elements, inner, -, helements, hread, -⟩ := listToAny_eq_ok houtput
    have hopened : elements.map (·.1) = (own v.values).values := by
      have hmapped := (mapM_opened_enclosed 0 v.values).symm.trans helements
      cases hmapped
      rw [List.map_map]
      rfl
    rw [hopened] at hread
    intro x hx hm
    have hpresent : x ∈ (own v.values).present := mem_present_own.2 ⟨hx, hm⟩
    rcases detectElements_eq_ok (readOpen_eq_ok hread).1 with ⟨-, hvoid⟩ | ⟨-, hfamilies⟩
    · rw [show (Column.ofValues (own v.values).values) = own v.values from rfl] at hvoid
      rw [hvoid] at hpresent
      cases hpresent
    · exact hfamilies x hpresent
  intro x hx
  rcases hsays x hx with hm | ⟨s, hs⟩
  · exact Or.inl hm
  · cases hm : x.isMissing with
    | true => exact Or.inl rfl
    | false =>
      obtain ⟨f, hf⟩ := hfamily x hx hm
      exact Or.inr (Value.isText_of_family hf hs)

/-- **Only texts come back.** A categorical comes back from the decomposed form as it was, with nothing flagged, if and
only if all of its values that are present are texts. -/
theorem recovers_iff (decompose : Bool) (hv : v.WellFormed) {levels : List Value} (ht : v.type = .categorical levels) :
    Recovers decompose v ↔ HoldsTexts v := by
  constructor
  · exact holdsTexts_of_recovers hv ht
  · intro htexts
    obtain ⟨hapart, htogether⟩ := survives_of_texts decompose hv ht htexts
    obtain ⟨w, hw, hsame⟩ := htogether 0
    exact ⟨_, _, hapart, hw, rfl, hsame⟩

/-- A categorical of an integer and a text, with the text in it. -/
theorem recovers_iff_mixed :
    Recovers true ⟨.categorical [.int 1, .text "a"], ⟨.category (some [.int 1, .text "a"]), [.text "a"]⟩⟩ ↔
      HoldsTexts ⟨.categorical [.int 1, .text "a"], ⟨.category (some [.int 1, .text "a"]), [.text "a"]⟩⟩ :=
  recovers_iff true
    { standard := .categorical (by decide)
      stored := by decide
      held := by
        intro x hx
        rw [List.mem_singleton.1 hx]
        exact .level (by simp)
      admitted := fun _ _ => trivial } rfl

/-- A categorical with one integer for a level, and that level in it. -/
def oneLevel : TypedVector :=
  ⟨.categorical [.int 1], ⟨.category (some [.int 1]), [.int 1]⟩⟩

lemma wellFormed_oneLevel : oneLevel.WellFormed where
  standard := .categorical (by decide)
  stored := by decide
  held := by
    intro x hx
    rw [List.mem_singleton.1 hx]
    exact .level (by simp)
  admitted _ _ := trivial

/-- An integer that is a level is put together to an integer, from which there is no way to levels. -/
theorem not_recovers :
    ¬ ∀ (v : TypedVector) (levels : List Value), v.WellFormed → v.type = .categorical levels → Recovers true v := by
  intro h
  have htexts := holdsTexts_of_recovers wellFormed_oneLevel rfl (h oneLevel _ wellFormed_oneLevel rfl)
  rcases htexts (.int 1) (by simp [oneLevel, TypedVector.values]) with hm | ht
  · cases hm
  · cases ht

end Registry

end Coercion
