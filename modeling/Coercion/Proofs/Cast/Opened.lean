import Coercion.Proofs.Cast.Missing

/-!
Numbers out of lists. A list vector is cast to numbers in two steps: the values in the lists are read as a vector of
their own, and this vector is cast. Only the second step flags values that are lost. In the first step every number
stays what it is, with one exception: integers that stand beside floating-point numbers are read as floating-point
numbers too, and are rounded if they have to be.
-/

namespace Coercion

namespace Value

variable {x y : Value} {t : VectorType}

/-- Truth values, integers, and floating-point numbers of eight bytes, with or without the mark of a typed array. -/
inductive IsNumeral (x : Value) : Prop where
  | truth (b : Bool) (plain : x.plain = .bool b) : IsNumeral x
  | integer (n : Int) (plain : x.plain = .int n) : IsNumeral x
  | double (d : Double) (plain : x.plain = .double d) (binary : d.IsBinary64) : IsNumeral x

/-- Whether a value is a number that integers beside it are read as floating-point numbers for. -/
def isFraction (x : Value) : Bool :=
  match x.plain with
  | .double _ | .fraction _ => true
  | _ => false

lemma isFraction_iff : x.isFraction = true ↔ x.family = .ok .double := by
  constructor
  · intro h
    rw [isFraction] at h
    rw [family]
    split at h
    · rename_i d hd
      rw [hd]
    · rename_i q hq
      rw [hq]
    · cases h
  · intro h
    rcases plain_of_double h with ⟨d, hd⟩ | ⟨q, hq⟩
    · rw [isFraction, hd]
    · rw [isFraction, hq]

/-- A value is equal to the same values as without its mark. -/
lemma same_plain : x.plain.same y = true ↔ x.same y = true := by
  rw [same_iff, same_iff, meaning?_plain, held?_plain]

lemma toInt_of_plain {n : Int} (h : x.plain = .int n) : x.toInt = .ok n := by
  rw [toInt, h]
  simp [quantity?]

/-- A value is itself, or itself under a mark. -/
lemma plain_cases (x : Value) : x = x.plain ∨ ∃ e, x = .scalar e x.plain := by
  fun_cases plain x <;> simp

lemma bit?_of_plain {b : Bool} (h : x.plain = .bool b) : x.bit? = some b := by
  have hquantity : x.quantity? = some (.finite (if b then 1 else 0)) := by
    rcases plain_cases x with hx | ⟨e, hx⟩ <;> rw [hx, h] <;> rfl
  cases b <;> simp [bit?, hquantity]

lemma toStoredDouble_of_int {n : Int} {d : Double} (h : x.plain = .int n) (hd : x.toStoredDouble = .ok d) :
    d = Double.ofInt n := by
  rw [toStoredDouble, h] at hd
  simp only [toDouble, quantity?, nearest?, ← Double.ofInt_eq] at hd
  cases hn : Double.ofInt n <;> simp [hn] at hd <;> exact hd.symm

lemma toStoredDouble_of_double {d : Double} (h : x.plain = .double d) : x.toStoredDouble = .ok d := by
  rw [toStoredDouble, h]
  rfl

end Value

/-! ### Reading -/

namespace Column

variable {xs : List Value} {c : Column} {d : Dtype} {s : VectorType} {f : Family}

/-- Whether a value is read for a number as the number of a type. -/
def ReadsNumber (s : VectorType) (x y : Value) : Prop :=
  x.isMissing = false → x.IsNumeral → y = x.plain.asNumber s

/-- Numbers are read one by one, each of them in its family. -/
lemma forall₂_readsNumber_of {g : Value → Except Failure Value}
    (hfamily : ∀ x ∈ xs, x.isMissing = false → x.family = .ok f ∨ f = .double ∧ x.family = .ok .integer)
    (h : (own xs).mapPresent d g = .ok c)
    (hg : ∀ x y, (x.family = .ok f ∨ f = .double ∧ x.family = .ok .integer) → x.IsNumeral → g x = .ok y →
      y = x.plain.asNumber s) : List.Forall₂ (ReadsNumber s) xs c.values := by
  refine ((List.forall₂_and_left _ _).2 ⟨hfamily, (madeEach_of_mapPresent h).of_own⟩).imp ?_
  rintro x y ⟨hx, hxy⟩ hm hnumeral
  rw [Value.MadeAs, hm, if_neg Bool.false_ne_true] at hxy
  exact hg x y (hx hm) hnumeral hxy

/-- Numbers of one family are read as the numbers that the type of that family has for them. -/
lemma forall₂_readsNumber (hs : s.IsNumber) (ht : s.OfFamily f)
    (hfamily : ∀ x ∈ xs, x.isMissing = false → x.family = .ok f ∨ f = .double ∧ x.family = .ok .integer)
    (h : s.construct (own xs) = .ok c) : List.Forall₂ (ReadsNumber s) xs c.values := by
  have hconvert : (own xs).convert s.storage = .ok c := by
    rw [← marked_own xs]
    cases hs <;> exact h
  cases hs with
  | logical =>
    cases ht
    refine forall₂_readsNumber_of hfamily (bits_of_toBoolean (.inl rfl) hconvert) ?_
    intro x y hx hnumeral hxy
    have hx : x.family = .ok .logical := hx.resolve_right (by simp)
    cases hnumeral with
    | truth b hplain =>
      simp only [Value.bit?_of_plain hplain, Except.ok.injEq] at hxy
      rw [hplain, ← hxy]
      cases b <;> rfl
    | integer n hplain => simp [Value.family, hplain] at hx
    | double d hplain => simp [Value.family, hplain] at hx
  | integer =>
    cases ht
    refine forall₂_readsNumber_of hfamily (ints_of_toInt64 hconvert) ?_
    intro x y hx hnumeral hxy
    have hx : x.family = .ok .integer := hx.resolve_right (by simp)
    cases hnumeral with
    | truth b hplain => simp [Value.family, hplain] at hx
    | integer n hplain =>
      obtain ⟨n', hn', hxy⟩ := bind_eq_ok_iff.1 hxy
      rw [Value.toInt_of_plain hplain] at hn'
      cases hn'
      obtain ⟨m, hm, hxy⟩ := bind_eq_ok_iff.1 hxy
      cases hxy
      rw [checkedInt] at hm
      split_ifs at hm
      · cases hm
        rw [hplain]
        rfl
      · cases hm
    | double d hplain => simp [Value.family, hplain] at hx
  | double =>
    cases ht
    refine forall₂_readsNumber_of hfamily (d := .float64) hconvert ?_
    intro x y hx hnumeral hxy
    obtain ⟨z, hz, hxy⟩ := bind_eq_ok_iff.1 hxy
    cases hxy
    cases hnumeral with
    | truth b hplain => simp [Value.family, hplain] at hx
    | integer n hplain =>
      rw [Value.toStoredDouble_of_int hplain hz, hplain]
      exact congrArg Value.double (Double.narrow_eq (Double.isBinary64_ofInt n))
    | double d hplain binary =>
      rw [Value.toStoredDouble_of_double hplain] at hz
      cases hz
      rw [hplain, (Value.asNumber_of_holds .double (.double binary)).1]
      exact congrArg Value.double (Double.narrow_eq binary)

/-- What is found for values, one of which is in a known family: the type of this family, if all values are in it, or
that of floating-point numbers, if there are integers and fractions. -/
lemma detectElements_of_mem {x : Value} (h : c.detectElements = .ok s) (hx : x ∈ c.present) (hf : x.family = .ok f)
    (hdate : f ≠ .datetime) :
    (s = f.type ∧ ∀ y ∈ c.present, y.family = .ok f) ∨
      s = .double ∧ (∀ y ∈ c.present, y.family = .ok .integer ∨ y.family = .ok .double) ∧
        ∃ y ∈ c.present, y.family = .ok .double := by
  have hsome : c.present.isEmpty = false := by simpa using List.ne_nil_of_mem hx
  rw [detectElements, hsome] at h
  simp only [Bool.false_eq_true, if_false] at h
  obtain ⟨fs, hfs, h⟩ := bind_eq_ok_iff.1 h
  rw [mapM_eq_ok_iff] at hfs
  have hfound : ∀ y ∈ c.present, ∃ g ∈ fs.eraseDups, y.family = .ok g := by
    intro y hy
    obtain ⟨g, hg, hyg⟩ := exists_mem_of_forall₂ hfs.flip hy
    exact ⟨g, List.mem_eraseDups.2 hg, hyg⟩
  have hsource : ∀ g ∈ fs.eraseDups, ∃ y ∈ c.present, y.family = .ok g := by
    intro g hg
    exact exists_mem_of_forall₂ hfs (List.mem_eraseDups.1 hg)
  have hone : ∀ g, fs.eraseDups = [g] → g = f ∧ ∀ y ∈ c.present, y.family = .ok f := by
    intro g hg
    have hall : ∀ y ∈ c.present, y.family = .ok g := by
      intro y hy
      obtain ⟨k, hk, hyk⟩ := hfound y hy
      rw [hg, List.mem_singleton] at hk
      exact hk ▸ hyk
    obtain rfl : g = f := by simpa [hall x hx] using hf
    exact ⟨rfl, hall⟩
  have htwo : fs.eraseDups.Perm [.integer, .double] →
      (∀ y ∈ c.present, y.family = .ok .integer ∨ y.family = .ok .double) ∧
        ∃ y ∈ c.present, y.family = .ok .double := by
    intro hperm
    refine ⟨?_, hsource .double (hperm.mem_iff.2 (by simp))⟩
    intro y hy
    obtain ⟨k, hk, hyk⟩ := hfound y hy
    rcases List.mem_cons.1 (hperm.mem_iff.1 hk) with rfl | hk
    · exact .inl hyk
    · exact .inr (List.mem_singleton.1 hk ▸ hyk)
  split at h
  · rename_i heq
    exact absurd (hone _ heq).1.symm hdate
  · rename_i heq
    cases h
    obtain ⟨rfl, hall⟩ := hone _ heq
    exact .inl ⟨rfl, hall⟩
  · rename_i heq
    cases h
    exact .inr ⟨rfl, htwo (heq ▸ .refl _)⟩
  · rename_i heq
    cases h
    exact .inr ⟨rfl, htwo (heq ▸ .swap _ _ _)⟩
  · cases h

/-- The type that is found for values, one of which is a number: that of a family of numbers, and that of floating-point
numbers exactly if one of the values is a fraction. -/
lemma number_of_detectElements (h : c.detectElements = .ok s) {x : Value} (hx : x ∈ c.present)
    (hnumeral : x.IsNumeral) :
    s.IsNumber ∧ (∃ f, s.OfFamily f ∧ ∀ y ∈ c.present, y.family = .ok f ∨ f = .double ∧ y.family = .ok .integer) ∧
      (s = .double ↔ ∃ y ∈ c.present, y.isFraction = true) := by
  obtain ⟨f, hf, hnumber⟩ : ∃ f, x.family = .ok f ∧ (f = .logical ∨ f = .integer ∨ f = .double) := by
    cases hnumeral with
    | truth b hplain => exact ⟨.logical, by rw [Value.family, hplain], .inl rfl⟩
    | integer n hplain => exact ⟨.integer, by rw [Value.family, hplain], .inr (.inl rfl)⟩
    | double d hplain => exact ⟨.double, by rw [Value.family, hplain], .inr (.inr rfl)⟩
  simp only [Value.isFraction_iff]
  rcases detectElements_of_mem h hx hf (by rcases hnumber with rfl | rfl | rfl <;> decide) with
    ⟨rfl, hall⟩ | ⟨rfl, hall, hsome⟩
  · have htype : f.type.IsNumber ∧ f.type.OfFamily f ∧ (f.type = .double ↔ f = .double) := by
      rcases hnumber with rfl | rfl | rfl
      · exact ⟨.logical, .logical, by simp [Family.type]⟩
      · exact ⟨.integer, .integer, by simp [Family.type]⟩
      · exact ⟨.double, .double, by simp [Family.type]⟩
    refine ⟨htype.1, ⟨f, htype.2.1, fun y hy => .inl (hall y hy)⟩, htype.2.2.trans ⟨?_, ?_⟩⟩
    · rintro rfl
      exact ⟨x, hx, hf⟩
    · rintro ⟨y, hy, hdouble⟩
      simpa [hall y hy] using hdouble
  · refine ⟨.double, ⟨.double, .double, ?_⟩, iff_of_true rfl hsome⟩
    intro y hy
    exact (hall y hy).elim (fun hint => .inr ⟨rfl, hint⟩) .inl

end Column

/-! ### Lists of one -/

namespace TypedVector

variable {v : TypedVector}

/-- Whether one of the lists of a list vector has a single value that is a fraction. -/
def holdsFraction (v : TypedVector) : Bool :=
  v.values.any fun
    | .list [x] => !x.isMissing && x.isFraction
    | _ => false

lemma holdsFraction_iff :
    v.holdsFraction = true ↔ ∃ x, .list [x] ∈ v.values ∧ x.isMissing = false ∧ x.isFraction = true := by
  rw [holdsFraction, List.any_eq_true]
  constructor
  · rintro ⟨y, hy, h⟩
    split at h
    · rename_i x
      exact ⟨x, hy, by simpa using h⟩
    · cases h
  · rintro ⟨x, hx, hm, hfraction⟩
    exact ⟨_, hx, by simp [hm, hfraction]⟩

/-- What a number in a list is read as: an integer becomes a floating-point number if there is a fraction in another
list, and every other number stays what it is. -/
def readAs (v : TypedVector) (x : Value) : Value :=
  match x.plain with
  | .int n => if v.holdsFraction then .double (Double.ofInt n) else .int n
  | y => y

/-- What is found for the values in the lists decides how their numbers are read. -/
lemma asNumber_plain {s : VectorType} {f : Family} {x : Value} (hs : s.IsNumber) (ht : s.OfFamily f)
    (hfraction : s = .double ↔ v.holdsFraction = true)
    (hx : x.family = .ok f ∨ f = .double ∧ x.family = .ok .integer) (hnumeral : x.IsNumeral) :
    x.plain.asNumber s = v.readAs x := by
  cases hnumeral with
  | truth b hplain =>
    rw [readAs, hplain]
    obtain rfl : f = .logical := by simpa [Value.family, hplain, eq_comm] using hx
    cases ht
    cases b <;> rfl
  | integer n hplain =>
    rw [readAs, hplain]
    cases hs with
    | logical => cases ht; simp [Value.family, hplain] at hx
    | integer =>
      rw [show v.holdsFraction = false by simpa using hfraction]
      rfl
    | double =>
      rw [hfraction.1 rfl]
      rfl
  | double d hplain binary =>
    rw [readAs, hplain]
    obtain rfl : f = .double := by simpa [Value.family, hplain, eq_comm] using hx
    cases ht
    exact (Value.asNumber_of_holds .double (.double binary)).1

end TypedVector

/-! ### Casts of what is read -/

namespace Column

variable {xs : List Value} {c : Column} {s : VectorType} {f : Family}

/-- For numbers it makes no difference how missing values are marked. -/
lemma construct_ofValues (hs : s.IsNumber) (xs : List Value) : s.construct (.ofValues xs) = s.construct (own xs) := by
  have hmarked : (ofValues xs).marked.convert s.storage = (own xs).marked.convert s.storage := by
    rw [marked_own]
    rfl
  cases hs <;> exact hmarked

end Column

namespace Registry

open VectorType Column

variable {v inner : TypedVector} {s t : VectorType} {fuel : Nat} {decompose : Bool} {result r : CastResult}

/-- Numbers are cast to numbers alike however many casts may still be done. -/
lemma castWithin_number (hv : v.WellFormed) (hs : v.type.IsNumber) (ht : t.IsNumber)
    (h : standard.castWithin fuel decompose v t = .ok result) :
    result = ⟨numbersAs t v, sortedPositions (lostPositions t v)⟩ := by
  have hto := castTo_number decompose hv hs ht
  have hlist : v.type ≠ .list := by
    intro heq
    rw [heq] at hs
    cases hs
  cases fuel with
  | zero => cases h
  | succ fuel =>
    suffices hsame : standard.castWithin (fuel + 1) decompose v t = standard.castTo decompose v t by
      rw [hsame, hto] at h
      exact (Except.ok.inj h).symm
    cases hsame : v.type.same t with
    | true =>
      have hpayload : samePayload v.type t = true := by
        refine samePayload_of_same hs.isStandard ht.isStandard ?_ hsame
        intro levels heq
        rw [heq] at hs
        cases hs
      rw [castWithin_unchanged fuel hsame hpayload, castTo_unchanged hsame hpayload]
    | false =>
      obtain ⟨c, hc⟩ : ∃ c, caster? v.type t = some c := by
        generalize v.type = s at *
        cases hs <;> cases ht <;> exact ⟨_, rfl⟩
      obtain ⟨name, f, rfl⟩ := plain_of_caster? hs.isStandard ht.isStandard hlist hc
      have hroute : standard.route decompose v.type t = .direct (.plain name f) :=
        route_direct hs.isStandard ht.isStandard hsame hc
      rw [castWithin_direct fuel hroute, castTo_direct hroute]

/-- A value that comes out of a list vector, if it is present, was alone in its list. -/
lemma eq_list_of_opened (hv : v.WellFormed) (htype : v.type = .list) {e y : Value} {flag : Bool} (he : e ∈ v.values)
    (h : Caster.opened e = .ok (y, flag)) (hm : y.isMissing = false) : e = .list [y] := by
  have hadmits := hv.admitted e he
  rw [htype] at hadmits
  rcases hadmits with rfl | ⟨xs, rfl⟩
  · cases h
    cases hm
  · rcases xs with _ | ⟨x, _ | ⟨x', xs⟩⟩ <;> cases h
    · cases hm
    · rfl
    · cases hm

/-- The present values that come out of a list vector are those that were alone in their lists. -/
lemma mem_present_opened (hv : v.WellFormed) (htype : v.type = .list) {elements : List (Value × Bool)}
    (h : List.Forall₂ (fun e p => Caster.opened e = .ok p) v.values elements) (y : Value) :
    y ∈ (Column.ofValues (elements.map (·.1))).present ↔ .list [y] ∈ v.values ∧ y.isMissing = false := by
  rw [mem_present]
  refine and_congr_left fun hm => ⟨?_, ?_⟩
  · intro hy
    obtain ⟨⟨_, flag⟩, hp, rfl⟩ := List.mem_map.1 hy
    obtain ⟨e, he, hopened⟩ := exists_mem_of_forall₂ h hp
    exact eq_list_of_opened hv htype he hopened hm ▸ he
  · intro hy
    obtain ⟨p, hp, hopened⟩ := exists_mem_of_forall₂ h.flip hy
    cases hopened
    exact List.mem_map_of_mem hp

/-- **Numbers out of lists.** What comes of a number that is alone in its list is what a number type has for the number
that it is read as, and it is flagged if that differs. -/
theorem castTo_opened (hv : v.WellFormed) (htype : v.type = .list) (ht : t.IsNumber)
    (hr : standard.castTo decompose v t = .ok r) {i : Nat} {x : Value} (hx : v.values[i]? = some (.list [x]))
    (hm : x.isMissing = false) (hnumeral : x.IsNumeral) :
    r.vector.values[i]? = some ((v.readAs x).asNumber t) ∧ (i ∈ r.lossy ↔ (v.readAs x).isLost t = true) := by
  obtain ⟨elements, inner, result, helements, hread, hcast, hvector, hlossy⟩ :
      ∃ elements inner result, v.values.mapM Caster.opened = .ok elements ∧
        readOpen (.ofValues (elements.map (·.1))) = .ok inner ∧
        standard.castWithin (Value.depthOfAll v.values + 3) false inner t = .ok result ∧ r.vector = result.vector ∧
        r.lossy = sortedPositions (positionsOf (elements.map (·.2)) ++ result.lossy) := by
    obtain ⟨_, c⟩ := v
    subst htype
    have hdec : Decomposable t := by cases ht <;> trivial
    rw [castTo, castFuel, castWithin_list _ _ ht.isStandard hdec] at hr
    obtain ⟨output, houtput, hchecked⟩ := bind_eq_ok_iff.1 hr
    obtain ⟨elements, inner, result, helements, hread, hcast, rfl⟩ := listToAny_eq_ok houtput
    obtain ⟨lossy, heq, hlossy⟩ := result_of_checked hchecked
    obtain ⟨hvector, rfl⟩ := CasterOutput.result.inj heq
    exact ⟨elements, inner, result, helements, hread, hcast, hvector.symm, hlossy⟩
  rw [mapM_eq_ok_iff] at helements
  obtain ⟨hdetect, hmade⟩ := readOpen_eq_ok hread
  -- the value is one of those that are read, and they are all numbers
  obtain ⟨p, hp, hopened⟩ := exists_getElem?_of_forall₂ helements hx
  cases hopened
  have hvalue : (elements.map (·.1))[i]? = some x := by
    rw [List.getElem?_map, hp]
    rfl
  have hpresent : ∀ y, y ∈ (Column.ofValues (elements.map (·.1))).present ↔
      .list [y] ∈ v.values ∧ y.isMissing = false :=
    mem_present_opened hv htype helements
  obtain ⟨hnumber, ⟨f, hf, hfamily⟩, hfraction⟩ :=
    number_of_detectElements hdetect ((hpresent x).2 ⟨List.mem_of_getElem? hx, hm⟩) hnumeral
  have hfraction : inner.type = .double ↔ v.holdsFraction = true := by
    rw [hfraction, TypedVector.holdsFraction_iff]
    simp only [hpresent, and_assoc]
  -- so they are read one by one, and cast one by one
  rw [construct_ofValues hnumber] at hmade
  have hinner : inner.WellFormed := by
    refine (reads_construct hf (fun y hy => hfamily y ?_) hmade).wellFormed hf
    exact mem_present.2 (mem_present_own.1 hy)
  have hreads : List.Forall₂ (ReadsNumber inner.type) (elements.map (·.1)) inner.column.values :=
    forall₂_readsNumber hnumber hf (fun y hy hm => hfamily y (mem_present.2 ⟨hy, hm⟩)) hmade
  obtain ⟨w, hw, hxw⟩ := exists_getElem?_of_forall₂ hreads hvalue
  have hxf := hfamily x ((hpresent x).2 ⟨List.mem_of_getElem? hx, hm⟩)
  have hreadAs : w = v.readAs x :=
    (hxw hm hnumeral).trans (TypedVector.asNumber_plain hnumber hf hfraction hxf hnumeral)
  subst hreadAs
  cases castWithin_number hinner hnumber ht hcast
  constructor
  · rw [hvector]
    change (inner.values.map (Value.asNumber t))[i]? = _
    rw [List.getElem?_map, TypedVector.values, hw]
    rfl
  · rw [hlossy, mem_sortedPositions, List.mem_append, mem_sortedPositions, lostPositions, mem_positionsOf,
      mem_positionsOf]
    simp [hp, TypedVector.values, hw]

/-- A number is read as itself, unless it is an integer beside a fraction. -/
lemma readAs_cases (v : TypedVector) {x : Value} (hnumeral : x.IsNumeral) :
    v.readAs x = x.plain ∨
      v.holdsFraction = true ∧ ∃ n, x.plain = .int n ∧ v.readAs x = .double (Double.ofInt n) := by
  cases hnumeral with
  | truth b hplain => exact .inl (by rw [TypedVector.readAs, hplain])
  | integer n hplain =>
    cases hfraction : v.holdsFraction with
    | true => exact .inr ⟨rfl, n, hplain, by rw [TypedVector.readAs, hplain, hfraction]; rfl⟩
    | false => exact .inl (by rw [TypedVector.readAs, hplain, hfraction]; rfl)
  | double d hplain => exact .inl (by rw [TypedVector.readAs, hplain])

/-- A number that is not lost among the floating-point numbers is equal to what it is read as. -/
lemma same_readAs {x : Value} (hm : x.isMissing = false) (hnumeral : x.IsNumeral)
    (hkept : v.holdsFraction = true → ∀ n, x.plain = .int n → (Value.int n).isLost .double = false) :
    x.same (v.readAs x) = true := by
  rw [← Value.same_plain]
  rcases readAs_cases v hnumeral with hread | ⟨hfraction, n, hplain, hread⟩
  · rw [hread]
    refine Value.same_self ?_ (by rw [Value.isMissing_plain, hm])
    cases hnumeral with
    | truth b hplain => rw [hplain]; rfl
    | integer n hplain => rw [hplain]; rfl
    | double d hplain => rw [hplain]; rfl
  · rw [hread, hplain]
    exact same_of_isLost_eq_false rfl (hkept hfraction n hplain)

/-- Whether the numbers in a list vector are kept: wherever a number is alone in its list and is not flagged, there is
an equal number in the result. -/
def KeepsNumbers (v : TypedVector) (r : CastResult) : Prop :=
  ∀ i x, v.values[i]? = some (.list [x]) → x.isMissing = false → x.IsNumeral → i ∉ r.lossy →
    ∃ y, r.vector.values[i]? = some y ∧ x.same y = true

/-- **No number is lost unnoticed, but for integers beside fractions.** If a list vector is cast to numbers, what comes
of the numbers in it is equal to them or flagged if and only if there is no fraction among them, or no integer that no
floating-point number is equal to, unless the target has no equal for the rounded number either. -/
theorem castTo_keepsNumbers_iff (hv : v.WellFormed) (htype : v.type = .list) (ht : t.IsNumber)
    (hr : standard.castTo decompose v t = .ok r) :
    KeepsNumbers v r ↔
      (v.holdsFraction = true → ∀ x n, .list [x] ∈ v.values → x.plain = .int n →
        (Value.int n).isLost .double = true → (Value.double (Double.ofInt n)).isLost t = true) := by
  constructor
  · intro hkeeps hfraction x n hx hplain hlost
    by_contra hkept
    obtain ⟨i, hi⟩ := List.getElem?_of_mem hx
    have hm : x.isMissing = false := by rw [← Value.isMissing_plain, hplain]; rfl
    have hread : v.readAs x = .double (Double.ofInt n) := by
      rw [TypedVector.readAs, hplain, hfraction]
      rfl
    obtain ⟨hvalue, hflagged⟩ := castTo_opened hv htype ht hr hi hm (.integer n hplain)
    rw [hread] at hvalue hflagged
    obtain ⟨y, hy, hsame⟩ := hkeeps i x hi hm (.integer n hplain) (mt hflagged.1 hkept)
    obtain rfl : (Value.double (Double.ofInt n)).asNumber t = y := by simpa [hvalue] using hy
    -- the integer would be equal to the number that it is rounded to
    have hrounded : (Value.double (Double.ofInt n)).same ((Value.double (Double.ofInt n)).asNumber t) = true :=
      same_of_isLost_eq_false (Double.isNan_ofInt n) (Bool.not_eq_true _ ▸ hkept)
    rw [← Value.same_plain, hplain] at hsame
    have hequal : (Value.int n).same (.double (Double.ofInt n)) = true :=
      Value.same_trans hsame (Value.same_symm hrounded)
    simp [Value.isLost, Value.isMissing, Value.asNumber, hequal] at hlost
  · intro h i x hi hm hnumeral hnot
    obtain ⟨hvalue, hflagged⟩ := castTo_opened hv htype ht hr hi hm hnumeral
    have hkept : (v.readAs x).isLost t = false := by simpa using mt hflagged.2 hnot
    have hread : x.same (v.readAs x) = true := by
      refine same_readAs hm hnumeral ?_
      intro hfraction n hplain
      by_contra hlost
      have hrounded := h hfraction x n (List.mem_of_getElem? hi) hplain (by simpa using hlost)
      rw [TypedVector.readAs, hplain, hfraction] at hkept
      exact absurd hrounded (by simpa using hkept)
    have hpresent : (v.readAs x).isMissing = false := by rw [← Value.same_isMissing hread, hm]
    exact ⟨_, hvalue, Value.same_trans hread (same_of_isLost_eq_false hpresent hkept)⟩

/-- A list vector of an integer and of one half, each in a list of its own. -/
def besideHalf (n : Int) : TypedVector :=
  ⟨.list, .ofValues [.list [.int n], .list [.double (.finite false 4503599627370496 (-53))]]⟩

lemma wellFormed_besideHalf (n : Int) : (besideHalf n).WellFormed where
  standard := .list
  stored := rfl
  held x _ := .any x
  admitted x hx := by
    simp only [besideHalf, TypedVector.values, Column.ofValues, List.mem_cons, List.not_mem_nil, or_false] at hx
    rcases hx with rfl | rfl <;> exact .inr ⟨_, rfl⟩

/-- An integer that is a floating-point number keeps its value beside a fraction. -/
theorem castTo_keepsNumbers_one :
    ∃ r, standard.castTo true (besideHalf 1) .double = .ok r ∧ KeepsNumbers (besideHalf 1) r := by
  obtain ⟨r, hr⟩ : ∃ r, standard.castTo true (besideHalf 1) .double = .ok r := ⟨_, rfl⟩
  refine ⟨r, hr, (castTo_keepsNumbers_iff (wellFormed_besideHalf 1) rfl .double hr).2 ?_⟩
  intro _ x n hx hplain hlost
  simp only [besideHalf, TypedVector.values, Column.ofValues, List.mem_cons, List.not_mem_nil, or_false,
    Value.list.injEq, List.cons.injEq, and_true] at hx
  rcases hx with rfl | rfl
  · cases hplain
    cases hlost
  · cases hplain

/-- The first integer that is no floating-point number is rounded beside a fraction, and is not flagged. -/
theorem not_castTo_keepsNumbers :
    ¬ ∀ (v : TypedVector) (t : VectorType) (r : CastResult), v.WellFormed → v.type = .list →
      t = .integer ∨ t = .double → standard.castTo true v t = .ok r → KeepsNumbers v r := by
  intro h
  obtain ⟨r, hr⟩ : ∃ r, standard.castTo true (besideHalf 9007199254740993) .double = .ok r := ⟨_, rfl⟩
  have hv := wellFormed_besideHalf 9007199254740993
  have hnumeral : (Value.int 9007199254740993).IsNumeral := .integer _ rfl
  obtain ⟨hvalue, hflagged⟩ := castTo_opened (i := 0) hv rfl .double hr rfl rfl hnumeral
  have hnot : 0 ∉ r.lossy := mt hflagged.1 (by decide)
  obtain ⟨y, hy, hsame⟩ := h _ _ r hv rfl (.inr rfl) hr 0 _ rfl rfl hnumeral hnot
  obtain rfl := Option.some.inj (hvalue.symm.trans hy)
  exact absurd hsame (by decide)

end Registry

end Coercion
