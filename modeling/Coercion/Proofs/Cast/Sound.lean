import Coercion.Proofs.Cast.Contract
import Coercion.Proofs.Cast.Kept
import Coercion.Proofs.Vector.Sound

/-!
Casts of sound vectors. Whatever a caster of the standard kinds returns is a sound vector of the target, and so is what
is made without a caster: a vector of equal type is taken over as it is only if its levels are listed as those of the
target are, and is rebuilt otherwise.
-/

namespace Coercion

open VectorType Column TypedVector

variable {v w : TypedVector} {t : VectorType} {c : Caster} {execute : Executor}

/-- Whether what comes of a cast, if anything does, is a sound vector of a type. -/
def VectorType.Receives (t : VectorType) (cast : Except Failure CastResult) : Prop :=
  ∀ r, cast = .ok r → r.vector.type = t ∧ r.vector.Sound

/-- Whether what a caster returns for a vector and a type, if it is a result, is a sound vector of that type. -/
def Caster.Delivers (c : Caster) (execute : Executor) (v : TypedVector) (t : VectorType) : Prop :=
  ∀ w lossy, c.run execute v t = .ok (.result w lossy) → w.type = t ∧ w.Sound

namespace Caster

lemma delivers_noCast : noCast.Delivers execute v t := by rintro _ _ ⟨⟩

/-- Casters that make a column, and then say what was lost. -/
lemma delivers_made {made : Except Failure Column} (hmade : ∀ c, made = .ok c → Sound ⟨t, c⟩)
    {flags : Column → List Nat} {lossy : List Nat}
    (h : (made >>= fun c => pure (CasterOutput.result ⟨t, c⟩ (flags c))) = .ok (.result w lossy)) :
    w.type = t ∧ w.Sound := by
  obtain ⟨c, hc, h⟩ := bind_eq_ok_iff.1 h
  cases h
  exact ⟨rfl, hmade c hc⟩

lemma delivers_reconstruct (hv : v.Sound) (ht : t.IsPure) : reconstruct.Delivers execute v t :=
  fun _ _ => delivers_made fun _ => sound_of_construct ht hv.genuine

lemma delivers_toLevels (name : String) (hv : v.Sound) (ht : t.IsPure) : (toLevels name).Delivers execute v t :=
  fun _ _ => delivers_made fun _ => sound_of_construct ht hv.genuine

lemma delivers_categoricalToCharacter (ht : t.IsPure) : categoricalToCharacter.Delivers execute v t :=
  fun _ _ => delivers_made fun _ => sound_of_construct ht (isGenuine_of_open rfl)

lemma delivers_anyToList (ht : t.IsPure) : anyToList.Delivers execute v t :=
  fun _ _ => delivers_made fun _ => sound_of_construct ht (isGenuine_of_open rfl)

/-- What is in the lists is read as what it is, and cast in turn. -/
lemma delivers_listToAny (hexecute : ∀ w : TypedVector, w.Sound → t.Receives (execute w t)) :
    listToAny.Delivers execute v t := by
  intro w lossy h
  obtain ⟨elements, -, h⟩ := bind_eq_ok_iff.1 h
  dsimp only at h
  split at h
  · have hsound := (sound_of_detect ‹_›).1
    rw [pure_bind] at h
    split at h
    · cases h
      exact hexecute _ hsound _ ‹_›
    · cases h
  · split_ifs at h <;> cases h

/-! ### Numbers -/

/-- Types of values that admit whatever can stand in their storage. -/
lemma sound_of_inFormat (ht : t.IsPure) (hadmits : ∀ x, t.Admits x) {d : Column} (hd : d.InFormat t.storage) :
    Sound ⟨t, d⟩ :=
  .of_inFormat ht hd fun x _ => hadmits x

lemma sound_of_convert (hv : v.Sound) (ht : t.IsPure) (hnumber : t.IsNumber) {d : Column}
    (h : v.column.convert t.storage = .ok d) : Sound ⟨t, d⟩ := by
  have hadmits : ∀ x, t.Admits x := by cases hnumber <;> exact fun _ => trivial
  refine sound_of_inFormat ht hadmits (yields_convert ht.standard hv.genuine ?_ ?_ ?_ d h)
  all_goals
    cases hnumber <;> first | exact VectorType.noConfusion | exact fun _ => VectorType.noConfusion

lemma delivers_converted (name : String) (hv : v.Sound) (ht : t.IsPure) (hnumber : t.IsNumber) :
    (converted name).Delivers execute v t :=
  fun _ _ => delivers_made fun _ => sound_of_convert hv ht hnumber

lemma delivers_integerToDouble (hv : v.Sound) (ht : t.IsPure) (hnumber : t.IsNumber) :
    integerToDouble.Delivers execute v t := by
  intro w lossy h
  obtain ⟨d, hd, h⟩ := bind_eq_ok_iff.1 h
  obtain ⟨bounds, -, h⟩ := bind_eq_ok_iff.1 h
  obtain ⟨flags, -, h⟩ := bind_eq_ok_iff.1 h
  cases h
  exact ⟨rfl, sound_of_convert hv ht hnumber hd⟩

lemma holds_truthOf (x : Value) : Dtype.boolean.Holds (truthOf .boolean x) := by
  rw [truthOf]
  split_ifs
  · exact holds_noTruth
  · exact holds_truth _

lemma delivers_toLogical (name : String) (ht : VectorType.logical.IsPure) :
    (toLogical name).Delivers execute v .logical := by
  rintro w lossy ⟨⟩
  exact ⟨rfl, sound_of_inFormat ht (fun _ => trivial) (inFormat_map fun x _ => holds_truthOf x)⟩

lemma fitsSigned_asInt64 (x : Double) : fitsSigned 64 (asInt64 x) = true := by
  rw [asInt64]
  split
  · split_ifs with hfits
    · exact hfits
    · decide
  · decide

lemma holds_wholeValue (least : Int) (x : Value) : Dtype.int64.Holds (wholeValue least x) := by
  fun_cases wholeValue least x with
  | case1 d h => exact holds_int (fitsSigned_asInt64 _)
  | case2 => exact holds_noInt
  | case3 => exact holds_noInt

lemma delivers_doubleToInteger (ht : VectorType.integer.IsPure) : doubleToInteger.Delivers execute v .integer := by
  intro w lossy h
  obtain ⟨numbers, -, h⟩ := bind_eq_ok_iff.1 h
  obtain ⟨bounds, -, h⟩ := bind_eq_ok_iff.1 h
  cases h
  exact ⟨rfl, sound_of_inFormat ht (fun _ => trivial) (inFormat_map fun x _ => holds_wholeValue _ x)⟩

/-! ### Dates and datetimes -/

/-- Steps from one clock to another make a column of the other clock. -/
lemma delivers_datetimeToDatetime {a b : Option Zone} (hv : v.Sound) (hs : v.type = .datetime a)
    (ht : (VectorType.datetime b).IsPure) : datetimeToDatetime.Delivers execute v (.datetime b) := by
  have hclock := Registry.onClock_of_datetime hv.toWellFormed hs
  intro w lossy h
  rw [Registry.run_localize execute hv.toWellFormed hs (hclock.localize_eq b)] at h
  cases h
  have hrezoned := hclock.rezoned b
  exact ⟨rfl, sound_of_inFormat ht (fun _ => trivial) ⟨hrezoned.dtype, hrezoned.held⟩⟩

/-- The midnight of a day is in range if it is one at all. -/
lemma holds_midnight {x y : Value} (h : midnight x = .ok y) : (Dtype.instants "ns" none).Holds y := by
  rcases Registry.midnight_cases x with hok | ⟨herror, -⟩
  · obtain rfl := Except.ok.inj (hok.symm.trans h)
    cases x with
    | period day =>
      rw [midnight] at h
      split_ifs at h with hrange
      · exact .instant "ns" none hrange
    | _ => exact .noInstant "ns" none
  · cases herror.symm.trans h

lemma holds_stamp (t : Int) (zone : Option Zone) : (Dtype.instants "ns" zone).Holds (.stamp t zone) := by
  rcases Value.stamp_cases t zone with ⟨-, hstamp⟩ | ⟨s, hsome, hstamp⟩
  · rw [hstamp]
    exact .noInstant "ns" zone
  · rw [hstamp]
    exact .instant "ns" zone (Reading.stored?_eq_some hsome).1

/-- What is placed on a clock is held there. -/
lemma holds_placedMidnight (z : Zone) {x : Value} (hx : (Dtype.instants "ns" none).Holds x) :
    (Dtype.instants "ns" (some z)).Holds (placedMidnight z z.rules.place? x) := by
  obtain rfl | ⟨t, rfl, -⟩ := hx.cases_instants
  · exact .noInstant "ns" (some z)
  · rw [placedMidnight]
    split
    · exact holds_stamp _ (some z)
    · exact .noInstant "ns" (some z)

lemma delivers_dateToDatetime {zone : Option Zone} (ht : (VectorType.datetime zone).IsPure) :
    dateToDatetime.Delivers execute v (.datetime zone) := by
  intro w lossy h
  obtain ⟨midnights, hmidnights, h⟩ := bind_eq_ok_iff.1 h
  have hheld : ∀ y ∈ midnights, (Dtype.instants "ns" none).Holds y := by
    intro y hy
    obtain ⟨x, -, hx⟩ := exists_mem_of_forall₂ ((mapM_eq_ok_iff _ _).1 hmidnights) hy
    exact holds_midnight hx
  cases zone with
  | none =>
    cases h
    exact ⟨rfl, sound_of_inFormat ht (fun _ => trivial) ⟨rfl, hheld⟩⟩
  | some z =>
    cases h
    have hplaced : ∀ x ∈ midnights, Dtype.Holds (.instants "ns" (some z)) (placedMidnight z z.rules.place? x) := by
      intro x hx
      exact holds_placedMidnight z (hheld x hx)
    exact ⟨rfl, sound_of_inFormat ht (fun _ => trivial) (inFormat_map hplaced)⟩

lemma delivers_datetimeToDate (ht : VectorType.date.IsPure) : datetimeToDate.Delivers execute v .date := by
  rintro w lossy ⟨⟩
  refine ⟨rfl, sound_of_inFormat ht (fun _ => trivial) (inFormat_map ?_)⟩
  intro r _
  split
  · exact .day "D" _
  · exact .noDay "D"

end Caster

namespace Registry

/-- **Casters make sound vectors.** What the caster for two built-in kinds makes of a sound vector is sound, if the casts
that it does on its way are. -/
theorem caster_delivers (hv : v.Sound) (ht : t.IsPure) (hexecute : ∀ w : TypedVector, w.Sound → t.Receives (execute w t))
    (hc : caster? v.type t = some c) : c.Delivers execute v t := by
  have hs := hv.kind
  generalize hst : v.type = s at hs hc
  cases hs.standard with
  | null => cases hc
  | unspecified => cases hc
  | binned => cases hs.builtIn
  | list =>
    cases ht.standard with
    | null => cases hc
    | unspecified => cases hc
    | list => cases hc; exact Caster.delivers_reconstruct hv ht
    | _ => cases hc; exact Caster.delivers_listToAny hexecute
  | logical =>
    cases ht.standard with
    | logical => cases hc; exact Caster.delivers_reconstruct hv ht
    | integer => cases hc; exact Caster.delivers_converted _ hv ht .integer
    | double => cases hc; exact Caster.delivers_converted _ hv ht .double
    | list => cases hc; exact Caster.delivers_anyToList ht
    | _ => cases hc
  | integer =>
    cases ht.standard with
    | logical => cases hc; exact Caster.delivers_toLogical _ ht
    | integer => cases hc; exact Caster.delivers_reconstruct hv ht
    | double => cases hc; exact Caster.delivers_integerToDouble hv ht .double
    | list => cases hc; exact Caster.delivers_anyToList ht
    | _ => cases hc
  | double =>
    cases ht.standard with
    | logical => cases hc; exact Caster.delivers_toLogical _ ht
    | integer => cases hc; exact Caster.delivers_doubleToInteger ht
    | double => cases hc; exact Caster.delivers_reconstruct hv ht
    | binned => cases ht.builtIn
    | list => cases hc; exact Caster.delivers_anyToList ht
    | _ => cases hc
  | character =>
    cases ht.standard with
    | character => cases hc; exact Caster.delivers_reconstruct hv ht
    | categorical => cases hc; exact Caster.delivers_toLevels _ hv ht
    | list => cases hc; exact Caster.delivers_anyToList ht
    | _ => cases hc
  | categorical =>
    cases ht.standard with
    | character => cases hc; exact Caster.delivers_categoricalToCharacter ht
    | categorical => cases hc; exact Caster.delivers_toLevels _ hv ht
    | list => cases hc; exact Caster.delivers_anyToList ht
    | _ => cases hc
  | date =>
    cases ht.standard with
    | date => cases hc; exact Caster.delivers_reconstruct hv ht
    | datetime => cases hc; exact Caster.delivers_dateToDatetime ht
    | list => cases hc; exact Caster.delivers_anyToList ht
    | _ => cases hc
  | datetime =>
    cases ht.standard with
    | date => cases hc; exact Caster.delivers_datetimeToDate ht
    | datetime => cases hc; exact Caster.delivers_datetimeToDatetime hv hst ht
    | list => cases hc; exact Caster.delivers_anyToList ht
    | _ => cases hc

/-! ### Routes -/

/-- What a caster returns is checked, which does not change it. -/
lemma receives_call (h : c.Delivers execute v t) : t.Receives (c.call execute v t) := by
  intro r hr
  obtain ⟨output, hrun, hr⟩ := bind_eq_ok_iff.1 hr
  obtain ⟨lossy, rfl, -⟩ := result_of_checked hr
  exact h r.vector lossy hrun

lemma receives_made {made : Except Failure TypedVector} (h : t.Delivers made) :
    t.Receives (made >>= fun w => pure ⟨w, []⟩) := by
  intro r hr
  obtain ⟨w, hw, hr⟩ := bind_eq_ok_iff.1 hr
  cases hr
  exact h w hw

/-- A vector of an equal type, with its levels listed as those of the target are, is one of the target. -/
lemma sound_of_samePayload (hv : v.Sound) (ht : t.IsPure) (hsame : v.type.same t = true)
    (hpayload : samePayload v.type t = true) : Sound ⟨t, v.column⟩ := by
  have hself {s : VectorType} (hs : v.type = s) : Sound ⟨s, v.column⟩ := by
    subst hs
    exact hv
  rcases (same_iff hv.kind.standard ht.standard).1 hsame with heq | ⟨a, b, ha, rfl, -, -⟩ | ⟨a, b, -, rfl, -⟩
  · exact hself heq
  · have hsound := hself ha
    obtain ⟨ls, hls, hstored⟩ := Dtype.eq_category_of_same hsound.stored
    have hab : (Value.tuple a).same (.tuple b) = true := by
      rw [ha] at hpayload
      simpa [samePayload, params] using hpayload
    have hlevels := hsound.kind.sameAll_storedLevels
    have hlevels' := ht.sameAll_storedLevels
    rw [← Value.same_tuple] at hstored hlevels hlevels'
    refine ⟨⟨ht.standard, ?_, hv.held, fun _ _ => trivial⟩, ht⟩
    rw [show (TypedVector.mk (.categorical b) v.column).column.dtype = _ from hls, storage, Dtype.same,
      ← Value.same_tuple]
    -- the levels in storage are those of the source, and these are those of the target
    have hback := Value.same_trans hab (Value.same_symm hlevels')
    exact Value.same_trans hstored (Value.same_trans hlevels hback)
  · cases ht.builtIn

/-- Every route leads to a sound vector, if the casts that casters do on their way do. -/
lemma receives_attempt {decompose : Bool} (hv : v.Sound) (ht : t.IsPure)
    (hexecute : ∀ (w : TypedVector) (t : VectorType), w.Sound → t.IsPure → t.Receives (execute w t)) :
    t.Receives (Making.standard.attempt standard execute decompose v t) := by
  have hcall {v : TypedVector} {t : VectorType} {c : Caster} (hv : v.Sound) (ht : t.IsPure)
      (hc : standard.casterFor? v.type.tag t.tag = some c) : t.Receives (c.call execute v t) := by
    rw [casterFor?_standard hv.kind.standard ht.standard] at hc
    exact receives_call (caster_delivers hv ht (fun w hw => hexecute w t hw ht) hc)
  have htakes := takes_route standard decompose v.type t
  rw [Making.attempt]
  generalize standard.route decompose v.type t = route at htakes
  cases htakes with
  | unchanged equal =>
    dsimp only
    split_ifs with hpayload
    · rintro r ⟨⟩
      exact ⟨rfl, sound_of_samePayload hv ht equal hpayload⟩
    · intro r hr
      obtain ⟨c, hc, hr⟩ := bind_eq_ok_iff.1 hr
      cases hr
      exact ⟨rfl, sound_of_construct ht hv.genuine hc⟩
  | toNull =>
    dsimp only
    split_ifs
    · rintro r ⟨⟩
    · exact receives_made (delivers_empty ht)
  | fromNull => exact receives_made (delivers_empty ht)
  | fromUnspecified => exact receives_made (delivers_missingVector ht _)
  | direct _ found => exact hcall hv ht found
  | decomposed _ _ detour =>
    have hlist : VectorType.list.IsPure := (isUnlevelled_family .list).isPure
    intro r hr
    obtain ⟨parts, hparts, hr⟩ := bind_eq_ok_iff.1 hr
    obtain ⟨hkind, hsound⟩ := hcall hv hlist detour.apart parts hparts
    split at hr
    · rename_i whole hwhole
      cases hr
      exact hcall hsound ht (by rw [hkind]; exact detour.together) whole hwhole
    · cases hr
  | fallback _ _ _ found =>
    -- the fallback of every built-in kind refuses
    rw [casterFor?_any hv.kind.standard] at found
    split_ifs at found
    cases found
    exact receives_call Caster.delivers_noCast
  | impassable => rintro r ⟨⟩

/-- **Casts keep vectors sound**, however often casters cast in turn. -/
theorem receives_castWithin (fuel : Nat) {decompose : Bool} (hv : v.Sound) (ht : t.IsPure) :
    t.Receives (standard.castWithin fuel decompose v t) := by
  rw [← Making.castWithin_standard]
  induction fuel generalizing v t decompose with
  | zero => rintro r ⟨⟩
  | succ fuel ih => exact receives_attempt hv ht fun w t hw ht => ih hw ht

theorem receives_castTo {decompose : Bool} (hv : v.Sound) (ht : t.IsPure) :
    t.Receives (standard.castTo decompose v t) :=
  receives_castWithin _ hv ht

end Registry

end Coercion
