import Coercion.Proofs.Cast.Opened
import Coercion.Proofs.Vector.Recovered
import Mathlib.Logic.Relation

/-!
Layers of lists. What is in the lists of a list vector is read as a vector of its own, whatever it is: the values that are
missing stay missing, lists are read as a list vector again, and all other values as a vector of one family. This is one
round of unwrapping, and since it takes a layer of lists away, only so many rounds can follow each other.
-/

namespace Coercion

open VectorType Column Registry

variable {s t : VectorType} {xs ys : List Value} {x y : Value} {w : TypedVector}

namespace Value

lemma depthOfAll_le_of_forall₂ (h : List.Forall₂ (fun x y : Value => y.depth ≤ x.depth) xs ys) :
    depthOfAll ys ≤ depthOfAll xs := by
  induction h with
  | nil => exact Nat.le_refl _
  | cons hxy _ ih =>
    rw [depthOfAll, depthOfAll]
    omega

/-- A missing value holds no others. -/
lemma members?_of_isMissing (h : x.isMissing = true) : x.members? = none := by
  cases x <;> first | rfl | cases h

end Value

namespace Column

lemma present_ofValues (xs : List Value) : (ofValues xs).present = (own xs).present := by
  rw [present_own]
  rfl

lemma detect_ofValues (xs : List Value) : (ofValues xs).detect = (own xs).detect := by
  have hempty : (ofValues xs).values.isEmpty = (own xs).values.isEmpty := by simp [own, ofValues]
  change (ofValues xs).detectElements = (own xs).detectElements
  rw [detectElements, detectElements, present_ofValues, hempty]

lemma mapM_own {α : Type} {g : Value → Except Failure α} (h : ∀ x : Value, x.isMissing = true → g x = g .absent)
    (xs : List Value) : xs.mapM g = (own xs).values.mapM g := by
  rw [own, ofValues, List.mapM_map]
  congr 1
  funext x
  rw [Function.comp_apply]
  cases hm : x.isMissing with
  | true => exact h x hm
  | false => rfl

lemma toDays_ofValues (xs : List Value) : (ofValues xs).toDays = (own xs).toDays := by
  have hmissing : ∀ x : Value, x.isMissing = true → (if x.isMissing then pure Dtype.days.missing else x.toDay) =
      (if Value.absent.isMissing then pure Dtype.days.missing else Value.absent.toDay) := by
    intro x hm
    rw [hm]; rfl
  change (ofValues xs).mapPresent .days Value.toDay = (own xs).mapPresent .days Value.toDay
  rw [mapPresent, mapPresent, ← mapM_own hmissing]
  rfl

/-- Without a text among the values, no text fixes a format. -/
lemma leadingText_eq_none {c : Column} (h : ∀ y ∈ c.values, ∀ s, y ≠ .text s) : c.leadingText = none := by
  rw [leadingText]
  split
  · rename_i s rest heq
    have hmem : Value.text s ∈ c.values := by
      have hhead : Value.text s ∈ Value.text s :: rest := List.mem_cons_self
      rw [← heq] at hhead
      exact (List.dropWhile_sublist _).mem hhead
    exact absurd rfl (h _ hmem s)
  · rfl

lemma toInstants_ofValues (htext : ∀ x ∈ xs, ∀ s, x ≠ .text s) (zone : Option Zone) :
    (ofValues xs).toInstants zone = (own xs).toInstants zone := by
  have hown : ∀ y ∈ (own xs).values, ∀ s, y ≠ .text s := by
    intro y hy s
    obtain ⟨x, hx, rfl⟩ := List.mem_map.1 hy
    split_ifs
    · rintro ⟨⟩
    · exact htext x hx s
  have hsame : (ofValues xs).readMoments = (own xs).readMoments := by
    change readInstants (ofValues xs).leadingText none xs = readInstants (own xs).leadingText none (own xs).values
    rw [leadingText_eq_none hown, leadingText_eq_none (c := ofValues xs) htext, readInstants_own_eq]
  rw [toInstants_eq, toInstants_eq, hsame]

lemma listElement_of_isMissing (h : x.isMissing = true) : listElement x = .ok .absent := by
  rw [listElement, Value.members?_of_isMissing h]
  exact if_pos h

/-- It makes no difference to storage how missing values are marked. -/
lemma construct_ofValues_own (hs : s.IsUnlevelled) (htext : (∃ zone, s = .datetime zone) → ∀ x ∈ xs, ∀ s, x ≠ .text s) :
    s.construct (.ofValues xs) = s.construct (own xs) := by
  have hmarked : (ofValues xs).marked = (own xs).marked := (marked_own xs).symm
  have hstandard := hs.standard
  cases hstandard with
  | categorical => exact absurd rfl (hs.noLevels _)
  | list =>
    have helements : xs.mapM listElement = (own xs).values.mapM listElement :=
      mapM_own (fun x hm => by rw [listElement_of_isMissing hm, listElement_of_isMissing rfl]) xs
    rw [construct.eq_def, construct.eq_def]
    simp only [← helements]
    rfl
  | date => exact toDays_ofValues xs
  | datetime zone => exact toInstants_ofValues (htext ⟨zone, rfl⟩) zone
  | null =>
    rw [construct.eq_def, construct.eq_def]
    simp only [ofValues] at hmarked ⊢
    rw [hmarked]
    rfl
  | unspecified =>
    rw [construct.eq_def, construct.eq_def]
    simp only [ofValues] at hmarked ⊢
    rw [hmarked]
    rfl
  | _ =>
    rw [construct.eq_def, construct.eq_def]
    simp only [ofValues] at hmarked ⊢
    rw [hmarked]
    rfl

/-- Values that are found to be dates and times are no texts. -/
lemma ne_text_of_detect (h : (own xs).detect = .ok s) (hs : ∃ zone, s = .datetime zone) (hx : x ∈ xs) (a : String) :
    x ≠ .text a := by
  rintro rfl
  obtain ⟨zone, rfl⟩ := hs
  have hmem : .text a ∈ (own xs).present := mem_present_own.2 ⟨hx, rfl⟩
  have hfound := detectElements_of_mem h hmem (f := .character) rfl (by decide)
  rcases hfound with ⟨hs, -⟩ | ⟨hs, -⟩ <;> cases hs

end Column

/-- It makes no difference to what values are read as how the missing ones are marked. -/
lemma Registry.readOpen_ofValues (xs : List Value) : readOpen (.ofValues xs) = readOpen (own xs) := by
  rw [readOpen, readOpen, detect_ofValues]
  cases hs : (own xs).detect with
  | error f => rfl
  | ok s =>
    have hunlevelled : s.IsUnlevelled := isUnlevelled_of_detectElements hs
    change s.vectorOf (.ofValues xs) = s.vectorOf (own xs)
    rw [vectorOf, vectorOf, construct_ofValues_own hunlevelled fun hs' x hx a => ne_text_of_detect hs hs' hx a]

namespace Registry

/-- Whether values are missing at the same places. -/
def SameMissing (xs ys : List Value) : Prop :=
  List.Forall₂ (fun x y => y.isMissing = x.isMissing) xs ys

/-- Missing values are read as missing values of no known type. -/
lemma read_void (hvoid : (own xs).present = []) (h : readOpen (own xs) = .ok w) :
    w.WellFormed ∧ SameMissing xs w.values ∧ (w.type = .null ∨ w.type = .unspecified) := by
  have hmissing : (own xs).IsVoid := .of_present_eq_nil rfl hvoid
  have hsame : SameMissing xs ((own xs).voided .object).values := by
    change List.Forall₂ _ xs (List.map _ (List.map _ xs))
    rw [List.map_map, List.forall₂_map_right_iff, List.forall₂_same]
    intro x hx
    exact (isMissing_of_present_own hvoid hx).symm
  have hdetect : (own xs).detect = .ok (if (own xs).values.isEmpty then .null else .unspecified) :=
    detectElements_of_void hvoid
  obtain ⟨s, hs, h⟩ := bind_eq_ok_iff.1 h
  obtain ⟨c, hc, h⟩ := bind_eq_ok_iff.1 h
  cases h
  rw [hdetect] at hs
  cases hempty : (own xs).values.isEmpty with
  | true =>
    have hvalues : (own xs).values = [] := List.isEmpty_iff.1 hempty
    rw [hempty] at hs
    cases hs
    rw [if_pos rfl, construct_eq_voided .null hmissing fun _ => hvalues] at hc
    cases hc
    refine ⟨⟨.null, rfl, fun y hy => .any y, ?_⟩, hsame, .inl rfl⟩
    intro y hy
    obtain ⟨z, hz, -⟩ := List.mem_map.1 hy
    rw [hvalues] at hz
    cases hz
  | false =>
    rw [hempty] at hs
    cases hs
    rw [if_neg Bool.false_ne_true, construct_eq_voided .unspecified hmissing (by rintro ⟨⟩)] at hc
    cases hc
    refine ⟨⟨.unspecified, rfl, fun y hy => .any y, ?_⟩, hsame, .inr rfl⟩
    intro y hy
    obtain ⟨z, -, rfl⟩ := List.mem_map.1 hy
    rfl

/-- What is an element of a list vector, beside the value that it is made of: missing if that is missing, and a list of
the same values if not. -/
lemma listElement_eq_ok (h : listElement x = .ok y) :
    (x.isMissing = true ∧ y = .absent) ∨ x.isMissing = false ∧ ∃ xs, x.members? = some xs ∧ y = .list xs := by
  rw [listElement] at h
  cases hmembers : x.members? with
  | none =>
    rw [hmembers] at h
    dsimp only at h
    split_ifs at h with hm
    cases h
    exact .inl ⟨hm, rfl⟩
  | some ys =>
    rw [hmembers] at h
    cases h
    refine .inr ⟨?_, ys, rfl, rfl⟩
    cases hm : x.isMissing with
    | false => rfl
    | true =>
      rw [Value.members?_of_isMissing hm] at hmembers
      cases hmembers

lemma depth_ofElement_le (e : Element) (v : Value) : (Value.ofElement e v).depth ≤ v.depth := by
  cases e <;> simp [Value.ofElement, Value.depth]

lemma depth_le_of_listElement (h : listElement x = .ok y) : y.depth ≤ x.depth := by
  rcases listElement_eq_ok h with ⟨-, rfl⟩ | ⟨-, ys, hmembers, rfl⟩
  · exact Nat.zero_le _
  · cases x with
    | list => cases hmembers; exact Nat.le_refl _
    | tuple => cases hmembers; exact Nat.le_refl _
    | array e vs =>
      cases hmembers
      rw [Value.depth, Value.depth]
      refine Nat.succ_le_succ (Value.depthOfAll_le_of_forall₂ ?_)
      rw [List.forall₂_map_right_iff, List.forall₂_same]
      intro v _
      exact depth_ofElement_le e v
    | _ => cases hmembers

/-- Values are found to be lists if one of them is. -/
lemma eq_list_of_detect (hs : (own xs).detect = .ok s) (hx : x ∈ (own xs).present) (hlist : x.family = .ok .list) :
    s = .list := by
  rcases detectElements_of_mem hs hx hlist (by decide) with ⟨hs, -⟩ | ⟨-, hnumbers, -⟩
  · exact hs
  · rcases hnumbers x hx with hnumber | hnumber <;> rw [hlist] at hnumber <;> cases hnumber

/-- Lists are read as a list vector, which is nested no deeper. -/
lemma read_lists (hx : x ∈ (own xs).present) (hlist : x.family = .ok .list) (h : readOpen (own xs) = .ok w) :
    w.WellFormed ∧ SameMissing xs w.values ∧ w.type = .list ∧ Value.depthOfAll w.values ≤ Value.depthOfAll xs ∧
      1 ≤ Value.depthOfAll w.values := by
  obtain ⟨s, hs, h⟩ := bind_eq_ok_iff.1 h
  obtain ⟨c, hc, h⟩ := bind_eq_ok_iff.1 h
  cases h
  obtain rfl := eq_list_of_detect hs hx hlist
  rw [construct.eq_def] at hc
  obtain ⟨ys, hys, hc⟩ := bind_eq_ok_iff.1 hc
  cases hc
  rw [← mapM_own (fun x hm => by rw [listElement_of_isMissing hm, listElement_of_isMissing rfl]), mapM_eq_ok_iff] at hys
  have hadmits : ∀ y ∈ ys, Admits .list y := by
    intro y hy
    obtain ⟨z, -, hz⟩ := exists_mem_of_forall₂ hys hy
    rcases listElement_eq_ok hz with ⟨-, rfl⟩ | ⟨-, zs, -, rfl⟩
    · exact .inl rfl
    · exact .inr ⟨zs, rfl⟩
  refine ⟨⟨.list, rfl, fun y _ => .any y, hadmits⟩, hys.imp ?_, rfl, ?_, ?_⟩
  · intro z y hzy
    rcases listElement_eq_ok hzy with ⟨hm, rfl⟩ | ⟨hm, zs, -, rfl⟩ <;> rw [hm] <;> rfl
  · exact Value.depthOfAll_le_of_forall₂ (hys.imp fun _ _ => depth_le_of_listElement)
  · obtain ⟨hx, hm⟩ := mem_present_own.1 hx
    obtain ⟨y, hy, hxy⟩ := exists_mem_of_forall₂ hys.flip hx
    rcases listElement_eq_ok hxy with ⟨hmissing, -⟩ | ⟨-, zs, -, rfl⟩
    · rw [hm] at hmissing
      cases hmissing
    · have hdeep := Value.depth_le_depthOfAll hy
      rw [Value.depth] at hdeep
      exact Nat.le_trans (Nat.succ_le_succ (Nat.zero_le _)) hdeep

/-- Values of one family are read as a vector of it. -/
lemma read_family {f : Family} (hs : w.type.OfFamily f)
    (hfamily : ∀ x ∈ (own xs).present, x.family = .ok f ∨ f = .double ∧ x.family = .ok .integer)
    (h : readOpen (own xs) = .ok w) : w.WellFormed ∧ SameMissing xs w.values := by
  obtain ⟨s, -, h⟩ := bind_eq_ok_iff.1 h
  obtain ⟨c, hc, h⟩ := bind_eq_ok_iff.1 h
  cases h
  have hreads := reads_construct hs hfamily hc
  exact ⟨hreads.wellFormed hs, hreads.values.imp fun _ _ hxy => hxy.2⟩

/-- What open values are read as: missing values alone as missing values, lists as a list vector, and values of one family
as a vector of it. -/
inductive ReadAs (xs : List Value) (w : TypedVector) : Prop where
  | void (none : (own xs).present = []) (type : w.type = .null ∨ w.type = .unspecified)
  | lists (type : w.type = .list) (shallow : Value.depthOfAll w.values ≤ Value.depthOfAll xs)
    (nested : 1 ≤ Value.depthOfAll w.values)
  | family {f : Family} (some : (own xs).present ≠ []) (type : w.type.OfFamily f)

/-- **Whatever is read is a well-formed vector.** -/
theorem wellFormed_of_readOpen (h : readOpen (own xs) = .ok w) : w.WellFormed ∧ SameMissing xs w.values ∧ ReadAs xs w := by
  by_cases hpresent : (own xs).present = []
  · obtain ⟨hw, hsame, htype⟩ := read_void hpresent h
    exact ⟨hw, hsame, .void hpresent htype⟩
  obtain ⟨s, hs, -⟩ := bind_eq_ok_iff.1 h
  have htype : w.type = s := by
    obtain ⟨s', hs', h⟩ := bind_eq_ok_iff.1 h
    rw [hs] at hs'
    cases hs'
    exact type_of_vectorOf h
  rcases families_of_detectElements hpresent hs with ⟨x, hx, hlist⟩ | ⟨f, hf, hfamily⟩
  · obtain ⟨hw, hsame, hlist, hdepth⟩ := read_lists hx hlist h
    exact ⟨hw, hsame, .lists hlist hdepth.1 hdepth.2⟩
  · rw [← htype] at hf
    obtain ⟨hw, hsame⟩ := read_family hf hfamily h
    exact ⟨hw, hsame, .family hpresent hf⟩

end Registry

/-! ### Rounds -/

namespace Value

/-- The value that is alone in a list. -/
def alone : Value → Value
  | .list [x] => x
  | _ => .absent

/-- Whether something is a list, but not of one value. -/
def isUneven : Value → Bool
  | .list xs => xs.length ≠ 1
  | _ => false

lemma isUneven_iff : x.isUneven = true ↔ ∃ xs, x = .list xs ∧ xs.length ≠ 1 := by
  cases x <;> simp [isUneven]

lemma alone_of_isUneven (h : x.isUneven = true) : x.alone = .absent := by
  obtain ⟨xs, rfl, hlength⟩ := isUneven_iff.1 h
  rcases xs with _ | ⟨y, _ | ⟨z, zs⟩⟩
  · rfl
  · exact absurd rfl hlength
  · rfl

lemma alone_of_isMissing (h : x.isMissing = true) : x.alone = .absent := by
  cases x <;> first | rfl | cases h

/-- The elements of list vectors can be opened. -/
lemma opened_of_admits (h : VectorType.list.Admits x) : Caster.opened x = .ok (x.alone, x.isUneven) := by
  rcases h with rfl | ⟨xs, rfl⟩
  · rfl
  · rcases xs with _ | ⟨y, _ | ⟨z, zs⟩⟩ <;> rfl

lemma depth_alone_le (x : Value) : x.alone.depth ≤ x.depth - 1 := by
  fun_cases alone x
  · simp [depth, depthOfAll]
  · exact Nat.zero_le _

lemma depthOfAll_alone_le (xs : List Value) : depthOfAll (xs.map alone) ≤ depthOfAll xs - 1 := by
  induction xs with
  | nil => exact Nat.le_refl _
  | cons x xs ih =>
    have hx := depth_alone_le x
    rw [List.map_cons, depthOfAll, depthOfAll]
    omega

end Value

namespace TypedVector

/-- What is in the lists of a list vector, where it is alone. -/
def inside (v : TypedVector) : List Value :=
  v.values.map Value.alone

/-- The positions of the lists that have not one value. -/
def unevenPositions (v : TypedVector) : List Nat :=
  Column.positionsOf (v.values.map Value.isUneven)

/-- How deep lists are nested in a vector. A list vector has one layer at least. -/
def nesting (v : TypedVector) : Nat :=
  match v.type with
  | .list => max 1 (Value.depthOfAll v.values)
  | _ => 0

lemma nesting_of_list {v : TypedVector} (h : v.type = .list) : v.nesting = max 1 (Value.depthOfAll v.values) := by
  rw [nesting, h]

lemma nesting_of_ne_list {v : TypedVector} (h : v.type ≠ .list) : v.nesting = 0 := by
  rw [nesting]
  split
  · contradiction
  · rfl

end TypedVector

namespace Registry

variable {v last : TypedVector} {fuel : Nat} {decompose : Bool} {r final : CastResult}

/-- One round of unwrapping: what is in the lists of a list vector is read as a vector of its own. -/
structure Round (v w : TypedVector) : Prop where
  list : v.type = .list
  read : readOpen (.ofValues v.inside) = .ok w

/-- The vectors that come of a vector in any number of rounds, itself included. -/
def Unwraps : TypedVector → TypedVector → Prop :=
  Relation.ReflTransGen Round

lemma Round.reads (h : Round v w) : w.WellFormed ∧ SameMissing v.inside w.values ∧ ReadAs v.inside w := by
  have hread := h.read
  rw [readOpen_ofValues] at hread
  exact wellFormed_of_readOpen hread

/-- **Each round takes a layer of lists away.** -/
theorem Round.nesting_lt (h : Round v w) : w.nesting < v.nesting := by
  rw [TypedVector.nesting_of_list h.list]
  cases h.reads.2.2 with
  | lists type shallow nested =>
    have hlayer := Value.depthOfAll_alone_le v.values
    rw [TypedVector.inside] at shallow
    rw [TypedVector.nesting_of_list type]
    omega
  | void _ type =>
    rw [TypedVector.nesting_of_ne_list (by rintro heq; rw [heq] at type; rcases type with h | h <;> cases h)]
    omega
  | family _ type =>
    rw [TypedVector.nesting_of_ne_list (by rintro heq; rw [heq] at type; cases type)]
    omega

end Registry
end Coercion
