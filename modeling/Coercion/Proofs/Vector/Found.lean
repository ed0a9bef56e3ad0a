import Coercion.Proofs.Vector.Sound
import Coercion.Proofs.Vector.Detect
import Mathlib.Data.List.Permutation

/-!
The type that is found for raw values. It is told by the present values alone, and by the set of them: neither their
order nor how often one of them stands there makes a difference, nor do missing values beside them. Of two lists with
a type each, the joined list has a type if the two types are equal, or if one has integers and the other one
floating-point numbers.
-/

namespace Coercion

open VectorType Column

variable {vs ws xs ys : List Value} {s t : VectorType} {f g : Failure} {k : Family} {x : Value} {c : Column}

/-! ### Families without repetitions -/

/-- What comes of a traversal, without repetitions, is what comes of some element. -/
lemma mem_eraseDups_of_mapM {α β : Type} [BEq β] [LawfulBEq β] {h : α → Except Failure β} {as : List α} {bs : List β}
    (hbs : as.mapM h = .ok bs) {b : β} : b ∈ bs.eraseDups ↔ ∃ a ∈ as, h a = .ok b := by
  rw [List.mem_eraseDups]
  constructor
  · intro hb
    exact exists_mem_of_forall₂ ((mapM_eq_ok_iff _ _).1 hbs) hb
  · rintro ⟨a, ha, hab⟩
    obtain ⟨c, hc, hac⟩ := exists_mem_of_forall₂ ((mapM_eq_ok_iff _ _).1 hbs).flip ha
    rw [hab] at hac
    cases hac
    exact hc

/-- If only one thing is left without repetitions, it comes of all elements. -/
lemma eq_of_eraseDups_mapM {α β : Type} [BEq β] [LawfulBEq β] {h : α → Except Failure β} {as : List α} {bs : List β}
    {b : β} (hbs : as.mapM h = .ok bs) (hone : bs.eraseDups = [b]) : ∀ a ∈ as, h a = .ok b := by
  intro a ha
  obtain ⟨c, hc⟩ := (exists_of_mapM_ok hbs).1 a ha
  have hmem : c ∈ bs.eraseDups := (mem_eraseDups_of_mapM hbs).2 ⟨a, ha, hc⟩
  rw [hone, List.mem_singleton] at hmem
  exact hmem ▸ hc

/-! ### What values tell -/

/-- The type that a single value tells: that of its family, with its zone if it is a datetime. -/
def Value.ownType (x : Value) : Except Failure VectorType := do
  match ← x.family with
  | .datetime => return .datetime (← x.zone)
  | k => return k.type

lemma ownType_of_family (h : x.family = .ok k) (timeless : k ≠ .datetime) : x.ownType = .ok k.type := by
  rw [Value.ownType, h]
  cases k <;> first | rfl | exact absurd rfl timeless

lemma ownType_of_zone {zone : Option Zone} (h : x.family = .ok .datetime) (hzone : x.zone = .ok zone) :
    x.ownType = .ok (.datetime zone) := by
  rw [Value.ownType, h]
  change (x.zone >>= fun zone => pure (VectorType.datetime zone)) = _
  rw [hzone]
  rfl

/-- A value tells its family. -/
lemma family_of_ownType (h : x.ownType = .ok t) :
    (∃ k, k ≠ .datetime ∧ x.family = .ok k ∧ t = k.type) ∨
      ∃ zone, x.family = .ok .datetime ∧ x.zone = .ok zone ∧ t = .datetime zone := by
  obtain ⟨k, hk, h⟩ := bind_eq_ok_iff.1 h
  split at h
  · obtain ⟨zone, hzone, h⟩ := bind_eq_ok_iff.1 h
    cases h
    exact .inr ⟨zone, hk, hzone, rfl⟩
  · rename_i htimeless
    cases h
    exact .inl ⟨k, htimeless, hk, rfl⟩

lemma family_of_ownType_integer (h : x.ownType = .ok .integer) : x.family = .ok .integer := by
  rcases family_of_ownType h with ⟨k, -, hk, htype⟩ | ⟨zone, -, -, htype⟩
  · cases k <;> first | exact hk | cases htype
  · cases htype

lemma family_of_ownType_double (h : x.ownType = .ok .double) : x.family = .ok .double := by
  rcases family_of_ownType h with ⟨k, -, hk, htype⟩ | ⟨zone, -, -, htype⟩
  · cases k <;> first | exact hk | cases htype
  · cases htype

/-- Values that tell the same type are of the same family. -/
lemma family_eq_of_ownType {y : Value} (hx : x.ownType = .ok t) (hy : y.ownType = .ok t) : x.family = y.family := by
  rcases family_of_ownType hx with ⟨k, hk, hfamily, rfl⟩ | ⟨zone, hfamily, -, rfl⟩
  · rcases family_of_ownType hy with ⟨l, -, hfamily', htype⟩ | ⟨zone, -, -, htype⟩
    · rw [hfamily, hfamily']
      cases k <;> cases l <;> first | rfl | cases htype
    · cases k <;> first | exact absurd rfl hk | cases htype
  · rcases family_of_ownType hy with ⟨l, hl, -, htype⟩ | ⟨zone', hfamily', -, -⟩
    · cases l <;> first | exact absurd rfl hl | cases htype
    · rw [hfamily, hfamily']

/-- The type that values tell together: the one that each of them tells, or that of floating-point numbers if there are
integers beside these. -/
inductive Tells (vs : List Value) : VectorType → Prop where
  | one {t : VectorType} (all : ∀ v ∈ vs, v.ownType = .ok t) : Tells vs t
  | numbers (all : ∀ v ∈ vs, v.ownType = .ok .integer ∨ v.ownType = .ok .double)
    (integer : ∃ v ∈ vs, v.ownType = .ok .integer) (double : ∃ v ∈ vs, v.ownType = .ok .double) : Tells vs .double

/-- The set of the values is all that matters. -/
lemma Tells.of_mem_iff (h : Tells vs t) (hmem : ∀ v, v ∈ vs ↔ v ∈ ws) : Tells ws t := by
  cases h with
  | one all => exact .one fun v hv => all v ((hmem v).2 hv)
  | numbers all integer double =>
    obtain ⟨i, hi, hint⟩ := integer
    obtain ⟨d, hd, hdouble⟩ := double
    refine .numbers ?_ ⟨i, (hmem i).1 hi, hint⟩ ⟨d, (hmem d).1 hd, hdouble⟩
    intro v hv
    exact all v ((hmem v).2 hv)

lemma detectElements_of_one (h : ∀ v ∈ c.present, v.ownType = .ok t) (hne : c.present ≠ []) :
    c.detectElements = .ok t := by
  obtain ⟨x, hx⟩ := List.exists_mem_of_ne_nil _ hne
  rcases family_of_ownType (h x hx) with ⟨k, timeless, hk, rfl⟩ | ⟨zone, hfamily, -, rfl⟩
  · have hall : ∀ v ∈ c.present, v.family = .ok k := by
      intro v hv
      have hsame := family_eq_of_ownType (h v hv) (h x hx)
      exact hsame.trans hk
    rw [detectElements_of_family hall hne, if_neg timeless]
  · have hall : ∀ v ∈ c.present, v.family = .ok .datetime := by
      intro v hv
      have hsame := family_eq_of_ownType (h v hv) (h x hx)
      exact hsame.trans hfamily
    have hshare : ∀ v ∈ c.present, v.zone = .ok zone := by
      intro v hv
      rcases family_of_ownType (h v hv) with ⟨k, timeless, hk, -⟩ | ⟨zone', -, hzone, htype⟩
      · rw [hall v hv] at hk
        cases hk
        exact absurd rfl timeless
      · cases htype
        exact hzone
    rw [detectElements_of_family hall hne, if_pos rfl, detectZone_of_zone hshare hne]

lemma detectElements_of_tells (h : Tells c.present t) (hne : c.present ≠ []) : c.detectElements = .ok t := by
  cases h with
  | one all => exact detectElements_of_one all hne
  | numbers all integer double =>
    have hall : ∀ v ∈ c.present, v.family = .ok .integer ∨ v.family = .ok .double := by
      intro v hv
      exact (all v hv).imp family_of_ownType_integer family_of_ownType_double
    obtain ⟨ks, hks⟩ := exists_mapM_ok fun v hv => (hall v hv).elim (fun h => ⟨_, h⟩) fun h => ⟨_, h⟩
    -- both families are found, in the order in which they stand in the list
    have hpair : ks.eraseDups.Perm [.integer, .double] := by
      refine (List.perm_ext_iff_of_nodup (nodup_eraseDups ks) (by decide)).2 ?_
      intro k
      rw [mem_eraseDups_of_mapM hks]
      constructor
      · rintro ⟨v, hv, hk⟩
        rcases hall v hv with hfamily | hfamily <;> rw [hk] at hfamily <;> cases hfamily <;> simp
      · intro hk
        rcases List.mem_cons.1 hk with rfl | hk
        · obtain ⟨v, hv, hint⟩ := integer
          exact ⟨v, hv, family_of_ownType_integer hint⟩
        · obtain ⟨v, hv, hdouble⟩ := double
          exact ⟨v, hv, List.mem_singleton.1 hk ▸ family_of_ownType_double hdouble⟩
    have hsome : c.present.isEmpty = false := by simpa using hne
    rw [detectElements, hsome]
    simp only [Bool.false_eq_true, if_false, hks, bind, Except.bind]
    rcases List.perm_pair.1 hpair with hpair | hpair <;> rw [hpair] <;> rfl

lemma tells_of_detectZone (hall : ∀ v ∈ vs, v.family = .ok .datetime) (h : detectZone vs = .ok t) : Tells vs t := by
  obtain ⟨zones, hzones, h⟩ := bind_eq_ok_iff.1 h
  split at h
  · rename_i zone hone
    cases h
    refine .one ?_
    intro v hv
    exact ownType_of_zone (hall v hv) (eq_of_eraseDups_mapM hzones hone v hv)
  · cases h

lemma tells_of_detectElements (h : c.detectElements = .ok t) (hne : c.present ≠ []) : Tells c.present t := by
  have hsome : c.present.isEmpty = false := by simpa using hne
  rw [detectElements, hsome] at h
  simp only [Bool.false_eq_true, if_false] at h
  obtain ⟨ks, hks, h⟩ := bind_eq_ok_iff.1 h
  have hnumbers : ks.eraseDups.Perm [.integer, .double] → Tells c.present .double := by
    intro hperm
    have htells : ∀ k ∈ ks.eraseDups, ∃ v ∈ c.present, v.ownType = .ok k.type := by
      intro k hk
      obtain ⟨v, hv, hvk⟩ := (mem_eraseDups_of_mapM hks).1 hk
      refine ⟨v, hv, ownType_of_family hvk ?_⟩
      rintro rfl
      simpa using hperm.mem_iff.1 hk
    have hinteger := hperm.mem_iff.2 (show Family.integer ∈ [.integer, .double] by simp)
    have hdouble := hperm.mem_iff.2 (show Family.double ∈ [.integer, .double] by simp)
    refine .numbers ?_ (htells .integer hinteger) (htells .double hdouble)
    intro v hv
    obtain ⟨k, hk⟩ := (exists_of_mapM_ok hks).1 v hv
    have hmem : k ∈ ks.eraseDups := (mem_eraseDups_of_mapM hks).2 ⟨v, hv, hk⟩
    rcases List.mem_cons.1 (hperm.mem_iff.1 hmem) with rfl | hmem
    · exact .inl (ownType_of_family hk (by decide))
    · obtain rfl := List.mem_singleton.1 hmem
      exact .inr (ownType_of_family hk (by decide))
  split at h
  · rename_i hone
    exact tells_of_detectZone (eq_of_eraseDups_mapM hks hone) h
  · rename_i k timeless hone
    cases h
    refine .one ?_
    intro v hv
    exact ownType_of_family (eq_of_eraseDups_mapM hks hone v hv) timeless
  · rename_i hpair
    cases h
    exact hnumbers (hpair ▸ .refl _)
  · rename_i hpair
    cases h
    exact hnumbers (hpair ▸ .swap _ _ _)
  · cases h

/-- **What is found is what the present values tell.** -/
theorem detectElements_eq_ok_iff (hne : c.present ≠ []) : c.detectElements = .ok t ↔ Tells c.present t := by
  constructor
  · intro h
    exact tells_of_detectElements h hne
  · intro h
    exact detectElements_of_tells h hne

/-! ### Why no type is found -/

/-- Whether a zone is an object of its own, as that of a moment is: a text stands for one if it is the name of a zone,
and an offset is one of less than a day. -/
def ZoneSource.IsObject : ZoneSource → Prop
  | .text s => ∃ z, Zone.ofText s = .ok z
  | .offset seconds | .labelled _ seconds => seconds.natAbs < 86400
  | .minutes m => m.natAbs < 1440
  | .invalid _ => False
  | .entry _ | .keyed _ | .universal | .unplaced => True

/-- Whether a value has no zone at all or one that is an object. -/
def Value.ZoneIsObject : Value → Prop
  | .moment _ (some source) => source.IsObject
  | _ => True

lemma ne_tooFarOff_of_minutes {m : Int} (h : m.natAbs < 1440) {fault : ZoneFault}
    (hfault : Zone.ofMinutes m = .error fault) : False := by
  rw [Zone.ofMinutes] at hfault
  split_ifs at hfault
  omega

/-- An offset of less than a day may have no normal form, but only because it is not one of whole minutes. -/
lemma category_of_ofOffset {seconds : Int} (h : seconds.natAbs < 86400) {fault : ZoneFault}
    (hfault : Zone.ofOffset (seconds * 1000000) = .error fault) : (Failure.badZone fault).category = .typeError := by
  rw [Zone.ofOffset] at hfault
  split_ifs at hfault
  · cases hfault
    rfl
  · exact (ne_tooFarOff_of_minutes (by omega) hfault).elim

/-- A zone that is an object has a normal form, or is of the wrong type. -/
lemma ZoneSource.IsObject.category {source : ZoneSource} (h : source.IsObject) {fault : ZoneFault}
    (hfault : Zone.normalize source = .error fault) : (Failure.badZone fault).category = .typeError := by
  cases source with
  | text s =>
    obtain ⟨z, hz⟩ := h
    rw [Zone.normalize, hz] at hfault
    cases hfault
  | offset seconds => exact category_of_ofOffset h hfault
  | labelled name seconds =>
    rw [Zone.normalize] at hfault
    split_ifs at hfault
    exact category_of_ofOffset h hfault
  | minutes m => exact (ne_tooFarOff_of_minutes h hfault).elim
  | unplaced =>
    cases hfault
    rfl
  | invalid q => exact h.elim
  | _ => cases hfault

lemma category_of_zone (h : x.ZoneIsObject) (hf : x.zone = .error f) : f.category = .typeError := by
  cases x with
  | moment r source =>
    cases source with
    | none => cases hf
    | some source =>
      rw [Value.zone] at hf
      split at hf
      · cases hf
      · rename_i fault hfault
        cases hf
        exact h.category hfault
  | _ => cases hf

lemma category_of_family (h : x.family = .error f) : f.category = .typeError := by
  rw [Value.family.eq_def] at h
  split at h <;> cases h
  rfl

/-- No type is found because values are of the wrong type or of several types, or else because the zone of a datetime
has no normal form. -/
lemma category_of_detectElements (h : c.detectElements = .error f) :
    f.category = .typeError ∨ (∀ v ∈ c.present, v.family = .ok .datetime) ∧ ∃ v ∈ c.present, v.zone = .error f := by
  rw [detectElements] at h
  split_ifs at h
  · cases h
  · cases h
  rcases bind_eq_error_iff.1 h with h | ⟨ks, hks, h⟩
  · obtain ⟨v, -, hv⟩ := exists_of_mapM_error h
    exact .inl (category_of_family hv)
  split at h
  · rename_i hone
    rcases bind_eq_error_iff.1 h with h | ⟨zones, -, h⟩
    · exact .inr ⟨eq_of_eraseDups_mapM hks hone, exists_of_mapM_error h⟩
    · split at h
      · cases h
      · cases h
        exact .inl rfl
  all_goals cases h
  exact .inl rfl

/-- Where zones are objects, it is always a matter of types. -/
lemma typeError_of_detectElements (hzones : ∀ v ∈ c.present, v.ZoneIsObject) (h : c.detectElements = .error f) :
    f.category = .typeError := by
  rcases category_of_detectElements h with htype | ⟨-, v, hv, hzone⟩
  · exact htype
  · exact category_of_zone (hzones v hv) hzone

/-! ### One set of values -/

/-- Whether two attempts to find a type come to the same: to one type, or to type errors. -/
inductive SameFinding : Except Failure VectorType → Except Failure VectorType → Prop where
  | found (t : VectorType) : SameFinding (.ok t) (.ok t)
  | refused {f g : Failure} (left : f.category = .typeError) (right : g.category = .typeError) :
    SameFinding (.error f) (.error g)

lemma sameFinding_of_present {d : Column} (hzones : ∀ v ∈ c.present, v.ZoneIsObject)
    (hmem : ∀ v, v ∈ c.present ↔ v ∈ d.present) (hne : c.present ≠ []) :
    SameFinding c.detectElements d.detectElements := by
  have hne' : d.present ≠ [] := by
    obtain ⟨v, hv⟩ := List.exists_mem_of_ne_nil _ hne
    exact List.ne_nil_of_mem ((hmem v).1 hv)
  have hfound : ∀ t, c.detectElements = .ok t ↔ d.detectElements = .ok t := by
    intro t
    rw [detectElements_eq_ok_iff hne, detectElements_eq_ok_iff hne']
    constructor
    · intro h
      exact h.of_mem_iff hmem
    · intro h
      exact h.of_mem_iff fun v => (hmem v).symm
  cases hc : c.detectElements with
  | ok t =>
    rw [(hfound t).1 hc]
    exact .found t
  | error f =>
    cases hd : d.detectElements with
    | ok t =>
      rw [(hfound t).2 hd] at hc
      cases hc
    | error g =>
      have hzones' : ∀ v ∈ d.present, v.ZoneIsObject := by
        intro v hv
        exact hzones v ((hmem v).2 hv)
      exact .refused (typeError_of_detectElements hzones hc) (typeError_of_detectElements hzones' hd)

/-- Lists of the same elements are of one type, or of none. -/
lemma sameFinding_of_mem_iff (hzones : ∀ x ∈ xs, x.ZoneIsObject) (hmem : ∀ x, x ∈ xs ↔ x ∈ ys) :
    SameFinding (Data.value (.list xs)).detect (Data.value (.list ys)).detect := by
  have hpresent : ∀ v, v ∈ (Column.ofValues xs).present ↔ v ∈ (Column.ofValues ys).present := by
    intro v
    simp [Column.present, Column.ofValues, hmem]
  change SameFinding (Column.ofValues xs).detectElements (Column.ofValues ys).detectElements
  by_cases hne : (Column.ofValues xs).present = []
  · -- without present values all that counts is whether there is any value
    have hne' : (Column.ofValues ys).present = [] := by
      refine List.eq_nil_iff_forall_not_mem.2 ?_
      intro v hv
      have hv' := (hpresent v).2 hv
      rw [hne] at hv'
      cases hv'
    have hempty : xs.isEmpty = ys.isEmpty := by
      rw [Bool.eq_iff_iff, List.isEmpty_iff, List.isEmpty_iff, List.eq_nil_iff_forall_not_mem,
        List.eq_nil_iff_forall_not_mem]
      simp [hmem]
    rw [detectElements_of_void hne, detectElements_of_void hne']
    change SameFinding (.ok (if xs.isEmpty then _ else _)) (.ok (if ys.isEmpty then _ else _))
    rw [hempty]
    exact .found _
  · exact sameFinding_of_present (fun v hv => hzones v (List.mem_filter.1 hv).1) hpresent hne

/-! ### Joined lists -/

/-- Values that tell the same type, tell it together. -/
lemma Tells.append (hv : Tells vs t) (hw : Tells ws t) : Tells (vs ++ ws) t := by
  cases hv with
  | one allv =>
    cases hw with
    | one allw =>
      refine .one ?_
      intro v h
      rcases List.mem_append.1 h with h | h
      · exact allv v h
      · exact allw v h
    | numbers allw integer double =>
      obtain ⟨i, hi, hint⟩ := integer
      obtain ⟨d, hd, hdouble⟩ := double
      refine .numbers ?_ ⟨i, List.mem_append_right _ hi, hint⟩ ⟨d, List.mem_append_right _ hd, hdouble⟩
      intro v h
      rcases List.mem_append.1 h with h | h
      · exact .inr (allv v h)
      · exact allw v h
  | numbers allv integer double =>
    obtain ⟨i, hi, hint⟩ := integer
    obtain ⟨d, hd, hdouble⟩ := double
    refine .numbers ?_ ⟨i, List.mem_append_left _ hi, hint⟩ ⟨d, List.mem_append_left _ hd, hdouble⟩
    intro v h
    rcases List.mem_append.1 h with h | h
    · exact allv v h
    · cases hw with
      | one allw => exact .inr (allw v h)
      | numbers allw _ _ => exact allw v h

/-- Integers and floating-point numbers together tell these. -/
lemma Tells.mixed (hv : Tells vs .integer) (hw : Tells ws .double) (hne : vs ≠ []) (hne' : ws ≠ []) :
    Tells (vs ++ ws) .double := by
  obtain ⟨i, hi⟩ := List.exists_mem_of_ne_nil _ hne
  cases hv with
  | one allv =>
    have hdoubles : (∀ v ∈ ws, v.ownType = .ok .integer ∨ v.ownType = .ok .double) ∧
        ∃ v ∈ ws, v.ownType = .ok .double := by
      cases hw with
      | one allw =>
        obtain ⟨d, hd⟩ := List.exists_mem_of_ne_nil _ hne'
        exact ⟨fun v h => .inr (allw v h), d, hd, allw d hd⟩
      | numbers allw _ double => exact ⟨allw, double⟩
    obtain ⟨hall, d, hd, hdouble⟩ := hdoubles
    refine .numbers ?_ ⟨i, List.mem_append_left _ hi, allv i hi⟩ ⟨d, List.mem_append_right _ hd, hdouble⟩
    intro v h
    rcases List.mem_append.1 h with h | h
    · exact .inl (allv v h)
    · exact hall v h

/-- A part of some values tells the type that all of them tell, or that of integers. -/
lemma Tells.part (h : Tells vs t) (hsub : ∀ w ∈ ws, w ∈ vs) : Tells ws t ∨ t = .double ∧ Tells ws .integer := by
  cases h with
  | one all => exact .inl (.one fun w hw => all w (hsub w hw))
  | numbers all =>
    -- of integers and floating-point numbers, a part may have the ones, the others or both
    by_cases hints : ∀ w ∈ ws, w.ownType = .ok .integer
    · exact .inr ⟨rfl, .one hints⟩
    by_cases hdoubles : ∀ w ∈ ws, w.ownType = .ok .double
    · exact .inl (.one hdoubles)
    have hall : ∀ w ∈ ws, w.ownType = .ok .integer ∨ w.ownType = .ok .double := by
      intro w hw
      exact all w (hsub w hw)
    simp only [not_forall] at hints hdoubles
    obtain ⟨d, hd, hnot⟩ := hints
    obtain ⟨i, hi, hnot'⟩ := hdoubles
    exact .inl (.numbers hall ⟨i, hi, (hall i hi).resolve_right hnot'⟩ ⟨d, hd, (hall d hd).resolve_left hnot⟩)

/-- Values tell one type at most. -/
lemma Tells.unique (hne : vs ≠ []) (hs : Tells vs s) (ht : Tells vs t) : s = t := by
  obtain ⟨x, hx⟩ := List.exists_mem_of_ne_nil _ hne
  have hone : ∀ {u w : VectorType} {v : Value}, v.ownType = .ok u → v.ownType = .ok w → u = w := by
    intro u w v hu hw
    rw [hu] at hw
    exact Except.ok.inj hw
  cases hs with
  | one alls =>
    cases ht with
    | one allt => exact hone (alls x hx) (allt x hx)
    | numbers _ _ double =>
      obtain ⟨d, hd, hdouble⟩ := double
      exact hone (alls d hd) hdouble
  | numbers _ integer double =>
    obtain ⟨d, hd, hdouble⟩ := double
    cases ht with
    | one allt => exact hone hdouble (allt d hd)
    | numbers => rfl

/-! ### All lists -/

/-- The type that is found for a list. -/
def typeOf (xs : List Value) : Except Failure VectorType :=
  (Data.value (.list xs)).detect

/-- Whether a list has a value that is not missing. -/
def HasPresent (xs : List Value) : Prop :=
  ∃ x ∈ xs, x.isMissing = false

/-- That the type of a list depends on the set of its present values. -/
structure FoundBySet (xs : List Value) : Prop where
  reordered : ∀ ys, xs.Perm ys → SameFinding (typeOf xs) (typeOf ys)
  repeated : ∀ ys, (∀ x, x ∈ xs ↔ x ∈ ys) → SameFinding (typeOf xs) (typeOf ys)
  /-- Markers of missing values, of whatever kind and wherever they stand, make no difference beside a present value. -/
  marked : ∀ ys, HasPresent xs → xs.filter (fun x => !x.isMissing) = ys.filter (fun y => !y.isMissing) →
    SameFinding (typeOf xs) (typeOf ys)
  joined : ∀ ys s t, HasPresent xs → HasPresent ys → typeOf xs = .ok s → typeOf ys = .ok t →
    ((s == t) = true → typeOf (xs ++ ys) = .ok s) ∧
      (s = .integer ∧ t = .double ∨ s = .double ∧ t = .integer → typeOf (xs ++ ys) = .ok .double) ∧
        ((s == t) = false → ¬ (s = .integer ∧ t = .double ∨ s = .double ∧ t = .integer) →
          ∃ f, typeOf (xs ++ ys) = .error f ∧ f.category = .typeError)

lemma mem_present_ofValues : x ∈ (Column.ofValues xs).present ↔ x ∈ xs ∧ x.isMissing = false := by
  simp [Column.present, Column.ofValues]

lemma present_ofValues_ne_nil (h : HasPresent xs) : (Column.ofValues xs).present ≠ [] := by
  obtain ⟨x, hx, hm⟩ := h
  exact List.ne_nil_of_mem (mem_present_ofValues.2 ⟨hx, hm⟩)

lemma typeOf_eq_ok_iff (h : HasPresent xs) : typeOf xs = .ok t ↔ Tells (Column.ofValues xs).present t :=
  detectElements_eq_ok_iff (present_ofValues_ne_nil h)

lemma HasPresent.append (h : HasPresent xs) (ys : List Value) : HasPresent (xs ++ ys) := by
  obtain ⟨x, hx, hm⟩ := h
  exact ⟨x, List.mem_append_left _ hx, hm⟩

lemma present_ofValues_append (xs ys : List Value) :
    (Column.ofValues (xs ++ ys)).present = (Column.ofValues xs).present ++ (Column.ofValues ys).present :=
  List.filter_append _ _

/-- Types that are found are equal only if they are one. -/
lemma eq_of_same_found {d : Column} (hs : c.detectElements = .ok s) (ht : d.detectElements = .ok t)
    (h : (s == t) = true) : s = t := by
  have hs' := isUnlevelled_of_detectElements hs
  rcases (VectorType.same_iff hs'.standard (isUnlevelled_of_detectElements ht).standard).1 h with
    rfl | ⟨a, -, rfl, -⟩ | ⟨a, -, rfl, -⟩
  · rfl
  · exact absurd rfl (hs'.noLevels a)
  · cases hs'.builtIn

/-- Joined lists have a type only if their types are equal, or if they have integers and floating-point numbers. -/
lemma typeError_of_joined (hs : typeOf xs = .ok s) (ht : typeOf ys = .ok t) (hx : HasPresent xs) (hy : HasPresent ys)
    (hne : s ≠ t) (hmixed : ¬ (s = .integer ∧ t = .double ∨ s = .double ∧ t = .integer)) :
    ∃ f, typeOf (xs ++ ys) = .error f ∧ f.category = .typeError := by
  have hxs := present_ofValues_ne_nil hx
  have hys := present_ofValues_ne_nil hy
  have htells := (typeOf_eq_ok_iff hx).1 hs
  have htells' := (typeOf_eq_ok_iff hy).1 ht
  have happend := present_ofValues_append xs ys
  cases h : typeOf (xs ++ ys) with
  | ok u =>
    exfalso
    have hall : Tells ((Column.ofValues xs).present ++ (Column.ofValues ys).present) u := by
      rw [← happend]
      exact (typeOf_eq_ok_iff (hx.append ys)).1 h
    have hparts : ∀ {w : VectorType} {vs : List Value}, vs ≠ [] → Tells vs w →
        (∀ v ∈ vs, v ∈ (Column.ofValues xs).present ++ (Column.ofValues ys).present) →
          w = u ∨ u = .double ∧ w = .integer := fun hne hw hsub =>
      (hall.part hsub).imp (fun h => hw.unique hne h) fun h => ⟨h.1, hw.unique hne h.2⟩
    rcases hparts hxs htells fun v hv => List.mem_append_left _ hv with rfl | ⟨rfl, rfl⟩
    · rcases hparts hys htells' fun v hv => List.mem_append_right _ hv with rfl | ⟨rfl, rfl⟩
      · exact hne rfl
      · exact hmixed (.inr ⟨rfl, rfl⟩)
    · rcases hparts hys htells' fun v hv => List.mem_append_right _ hv with rfl | ⟨-, rfl⟩
      · exact hmixed (.inl ⟨rfl, rfl⟩)
      · exact hne rfl
  | error f =>
    refine ⟨f, rfl, ?_⟩
    have hcategory : f.category = .typeError ∨ (∀ v ∈ (Column.ofValues (xs ++ ys)).present, v.family = .ok .datetime) ∧
        ∃ v ∈ (Column.ofValues (xs ++ ys)).present, v.zone = .error f := category_of_detectElements h
    rcases hcategory with htype | ⟨hfamily, v, hv, hzone⟩
    · exact htype
    · -- the zone of a value that stands in a list with a type has a normal form
      exfalso
      have hplaced : ∀ {w : VectorType} {vs : List Value}, Tells vs w → v ∈ vs → False := by
        intro w vs hw hv'
        have hown : ∃ u, v.ownType = .ok u := by
          cases hw with
          | one all => exact ⟨_, all v hv'⟩
          | numbers all =>
            rcases all v hv' with h | h
            · exact ⟨_, h⟩
            · exact ⟨_, h⟩
        obtain ⟨u, hu⟩ := hown
        rw [Value.ownType, hfamily v hv] at hu
        change (v.zone >>= fun zone => pure (VectorType.datetime zone)) = _ at hu
        rw [hzone] at hu
        cases hu
      rw [happend] at hv
      exact (List.mem_append.1 hv).elim (hplaced htells) (hplaced htells')

/-- **The type of a list is told by the set of its present values.** -/
theorem foundBySet (hzones : ∀ x ∈ xs, x.ZoneIsObject) : FoundBySet xs where
  reordered ys hperm := sameFinding_of_mem_iff hzones fun x => hperm.mem_iff
  repeated ys hmem := sameFinding_of_mem_iff hzones hmem
  marked ys hx hsame := by
    have hpresent : (Column.ofValues xs).present = (Column.ofValues ys).present := hsame
    have hmem : ∀ v, v ∈ (Column.ofValues xs).present ↔ v ∈ (Column.ofValues ys).present := by
      intro v
      rw [hpresent]
    have hzones' : ∀ v ∈ (Column.ofValues xs).present, v.ZoneIsObject := by
      intro v hv
      exact hzones v (List.mem_filter.1 hv).1
    exact sameFinding_of_present hzones' hmem (present_ofValues_ne_nil hx)
  joined ys s t hx hy hs ht := by
    have hxs := present_ofValues_ne_nil hx
    have hys := present_ofValues_ne_nil hy
    have htells := (typeOf_eq_ok_iff hx).1 hs
    have htells' := (typeOf_eq_ok_iff hy).1 ht
    have hfound : ∀ u, Tells ((Column.ofValues xs).present ++ (Column.ofValues ys).present) u →
        typeOf (xs ++ ys) = .ok u := by
      intro u hu
      rw [← present_ofValues_append] at hu
      exact (typeOf_eq_ok_iff (hx.append ys)).2 hu
    refine ⟨?_, ?_, ?_⟩
    · intro hsame
      obtain rfl := eq_of_same_found hs ht hsame
      exact hfound s (htells.append htells')
    · rintro (⟨rfl, rfl⟩ | ⟨rfl, rfl⟩)
      · exact hfound .double (htells.mixed htells' hxs hys)
      · refine hfound .double ((htells'.mixed htells hys hxs).of_mem_iff ?_)
        intro v
        rw [List.mem_append, List.mem_append, or_comm]
    · intro hdiffer hmixed
      refine typeError_of_joined hs ht hx hy ?_ hmixed
      rintro rfl
      rw [show (s == s) = true from VectorType.same_refl (isUnlevelled_of_detectElements hs).standard] at hdiffer
      cases hdiffer

/-- One zone in two forms, and a missing value between them. -/
theorem foundBySet_moments :
    let xs : List Value := [.moment 0 (some (.offset 19800)), .notATime, .moment 0 (some (.minutes 330))]
    FoundBySet xs ∧ typeOf xs = .ok (.datetime (some (.fixed 330))) := by
  refine ⟨foundBySet ?_, rfl⟩
  simp only [List.forall_mem_cons]
  exact ⟨show (19800 : Int).natAbs < 86400 by decide, trivial, show (330 : Int).natAbs < 1440 by decide, by simp⟩

end Coercion
