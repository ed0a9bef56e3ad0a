import Coercion.Cast.Making
import Coercion.Proofs.Cast.Detour
import Coercion.Proofs.Cast.Search
import Coercion.Proofs.Vector.Read

/-!
Missing values in casts. A cast neither invents values nor hides that it has lost one: what is missing stays missing
and is not flagged, and what becomes missing is flagged. This holds of every caster between kinds that are no lists,
and of the way through the decomposed form, where the type of the values is found anew before they are cast. There is
one exception: the clock of a datetime may show a reading that eight bytes hold as the missing one, and then the date
is missing without a flag.
-/

namespace Coercion

/-- Whether some values have been replaced by others as a cast has to do it, with these positions flagged. -/
structure KeepsMissing (old new : List Value) (lossy : List Nat) : Prop where
  /-- Every value has its place in the result. -/
  size : new.length = old.length
  /-- A value that is missing stays missing, and is not flagged. -/
  kept : ∀ i x, old[i]? = some x → x.isMissing = true → i ∉ lossy ∧ ∃ y, new[i]? = some y ∧ y.isMissing = true
  /-- A value that becomes missing is flagged. -/
  dropped : ∀ i x y, old[i]? = some x → new[i]? = some y → x.isMissing = false → y.isMissing = true → i ∈ lossy
  /-- What is flagged is the position of a value that was not missing. -/
  flagged : ∀ i ∈ lossy, ∃ x, old[i]? = some x ∧ x.isMissing = false

namespace KeepsMissing

variable {old mid new : List Value} {lossy flagged : List Nat}

/-- Nothing is flagged where the same values are missing as before. -/
lemma of_sameMissing (h : List.Forall₂ (fun x y => y.isMissing = x.isMissing) old new) : KeepsMissing old new [] where
  size := h.length_eq.symm
  kept i x hx hm := by
    obtain ⟨y, hy, hxy⟩ := exists_getElem?_of_forall₂ h hx
    exact ⟨List.not_mem_nil, y, hy, hxy.trans hm⟩
  dropped i x y hx hy hm hlost := by
    obtain ⟨z, hz, hxz⟩ := exists_getElem?_of_forall₂ h hx
    rw [hy] at hz
    cases hz
    rw [hxz, hm] at hlost
    cases hlost
  flagged i hi := by cases hi

/-- Before a cast, values may be read as others that are missing at the same places. -/
lemma trans (h : List.Forall₂ (fun x y => y.isMissing = x.isMissing) old mid) (hmid : KeepsMissing mid new lossy) :
    KeepsMissing old new lossy where
  size := hmid.size.trans h.length_eq.symm
  kept i x hx hm := by
    obtain ⟨y, hy, hxy⟩ := exists_getElem?_of_forall₂ h hx
    exact hmid.kept i y hy (hxy.trans hm)
  dropped i x z hx hz hm hlost := by
    obtain ⟨y, hy, hxy⟩ := exists_getElem?_of_forall₂ h hx
    exact hmid.dropped i y z hy hz (hxy.trans hm) hlost
  flagged i hi := by
    obtain ⟨y, hy, hm⟩ := hmid.flagged i hi
    obtain ⟨x, hx, hyx⟩ := exists_getElem?_of_forall₂ h.flip hy
    exact ⟨x, hx, hyx.symm.trans hm⟩

/-- What they are read as is replaced in the same way. -/
lemma of_trans (h : List.Forall₂ (fun x y => y.isMissing = x.isMissing) old mid) (hold : KeepsMissing old new lossy) :
    KeepsMissing mid new lossy :=
  .trans (h.flip.imp fun _ _ heq => heq.symm) hold

/-- It does not matter in which order positions are flagged, or how often. -/
lemma congr (h : KeepsMissing old new lossy) (heq : ∀ i, i ∈ flagged ↔ i ∈ lossy) : KeepsMissing old new flagged where
  size := h.size
  kept i x hx hm := by
    rw [heq]
    exact h.kept i x hx hm
  dropped i x y hx hy hm hlost := (heq i).2 (h.dropped i x y hx hy hm hlost)
  flagged i hi := h.flagged i ((heq i).1 hi)

/-- Values that are replaced one by one, with flags that are set one by one. -/
lemma of_map {g : Value → Value} {flag : Value → Bool}
    (hkept : ∀ x ∈ old, x.isMissing = true → (g x).isMissing = true ∧ flag x = false)
    (hdropped : ∀ x ∈ old, x.isMissing = false → (g x).isMissing = true → flag x = true)
    (hlossy : ∀ i, i ∈ lossy ↔ ∃ x, old[i]? = some x ∧ flag x = true) : KeepsMissing old (old.map g) lossy where
  size := List.length_map g
  kept i x hx hm := by
    obtain ⟨hstays, hunflagged⟩ := hkept x (List.mem_of_getElem? hx) hm
    refine ⟨fun hi => ?_, g x, by rw [List.getElem?_map, hx, Option.map_some], hstays⟩
    obtain ⟨z, hz, hflag⟩ := (hlossy i).1 hi
    rw [hx] at hz
    cases hz
    rw [hunflagged] at hflag
    cases hflag
  dropped i x y hx hy hm hlost := by
    rw [List.getElem?_map, hx, Option.map_some] at hy
    cases hy
    exact (hlossy i).2 ⟨x, hx, hdropped x (List.mem_of_getElem? hx) hm hlost⟩
  flagged i hi := by
    obtain ⟨x, hx, hflag⟩ := (hlossy i).1 hi
    refine ⟨x, hx, ?_⟩
    cases hm : x.isMissing with
    | false => rfl
    | true =>
      rw [(hkept x (List.mem_of_getElem? hx) hm).2] at hflag
      cases hflag

end KeepsMissing

namespace Registry

open VectorType Column

variable {v inner : TypedVector} {t : VectorType} {f : Family} {c : Caster} {execute : Executor} {output : CasterOutput}
  {result : CastResult} {fuel : Nat}

/-! ### Casters between kinds -/

/-- A caster that takes values one by one keeps to the discipline, if dates have readings. -/
lemma Pointwise.keepsMissing (ht : t.IsStandard) (hread : t = .date → ∀ x ∈ v.values, ¬ Unread x)
    (h : Pointwise t v output) :
    ∃ w lossy, output = .result w lossy ∧ KeepsMissing v.values w.values lossy := by
  obtain ⟨d, lossy, g, flag, rfl, hvalues, hlossy, hdisc⟩ := h
  have hkept : ∀ x ∈ v.values, x.isMissing = true → (g x).isMissing = true ∧ flag x = false := by
    intro x hx hm
    obtain ⟨hmarker, hunflagged⟩ := hdisc.missing x hx hm
    exact ⟨hmarker ▸ isMissing_storageMissing ht, hunflagged⟩
  have hdropped : ∀ x ∈ v.values, x.isMissing = false → (g x).isMissing = true → flag x = true := by
    intro x hx hm hlost
    rcases hdisc.dropped x hx hm hlost with hflagged | ⟨hdate, hunread⟩
    · exact hflagged
    · exact absurd hunread (hread hdate x hx)
  refine ⟨_, _, rfl, ?_⟩
  change KeepsMissing v.values d.values lossy
  rw [hvalues]
  exact .of_map hkept hdropped hlossy

/-- What a caster keeps, the cast that it is checked in keeps too. -/
lemma keepsMissing_of_checked {source : TypedVector} {old : List Value}
    (h : ∃ w lossy, output = .result w lossy ∧ KeepsMissing old w.values lossy)
    (hchecked : output.checked source t = .ok result) : KeepsMissing old result.vector.values result.lossy := by
  obtain ⟨w, lossy, rfl, hkeeps⟩ := h
  obtain ⟨lossy', heq, hlossy⟩ := result_of_checked hchecked
  cases heq
  exact hkeeps.congr fun i => by rw [hlossy, mem_sortedPositions]

/-! ### Casts of what has been read -/

/-- A vector of one family stays as it is on the way to any kind that is no list, or goes there by a caster that takes
the values one by one, if it gets there. -/
lemma pointwise_castWithin (hw : inner.WellFormed) (hf : inner.type.OfFamily f) (ht : t.IsStandard)
    (hdec : Decomposable t) (h : standard.castWithin fuel false inner t = .ok result) :
    result = ⟨⟨t, inner.column⟩, []⟩ ∨
      ∃ output, Pointwise t inner output ∧ ∃ source : TypedVector, output.checked source t = .ok result := by
  have hsource : inner.type ≠ .list := by
    intro heq
    rw [heq] at hf
    cases hf
  have htarget : t ≠ .list := by
    rintro rfl
    exact hdec
  cases fuel with
  | zero => cases h
  | succ fuel =>
    cases hsame : inner.type.same t with
    | true =>
      have hpayload := samePayload_of_same hw.standard ht hf.ne_categorical hsame
      rw [castWithin_unchanged fuel hsame hpayload] at h
      cases h
      exact .inl rfl
    | false =>
      cases hc : caster? inner.type t with
      | some c =>
        rw [castWithin, route_direct hw.standard ht hsame hc] at h
        obtain ⟨output, hrun, hchecked⟩ := bind_eq_ok_iff.1 h
        exact .inr ⟨output, caster_pointwise hw ht hsource htarget hc hrun, _, hchecked⟩
      | none =>
        -- the decomposed form is out of reach within a cast, so there is no other way
        have htyped : t.isTyped = true := by
          cases ht <;> first | rfl | exact hdec.elim
        exact absurd h (castWithin_ne_ok hw.standard ht (.of_family hf) htyped hsame hc)

/-- A vector of one family keeps to the discipline on this way, if dates have readings. -/
lemma keepsMissing_castWithin (hw : inner.WellFormed) (hf : inner.type.OfFamily f) (ht : t.IsStandard)
    (hdec : Decomposable t) (hunread : t = .date → ∀ x ∈ inner.values, ¬ Unread x)
    (h : standard.castWithin fuel false inner t = .ok result) :
    KeepsMissing inner.values result.vector.values result.lossy := by
  rcases pointwise_castWithin hw hf ht hdec h with rfl | ⟨output, hpointwise, source, hchecked⟩
  · exact .of_sameMissing (List.forall₂_same.2 fun _ _ => rfl)
  · exact keepsMissing_of_checked (hpointwise.keepsMissing ht hunread) hchecked

/-- What is missing stays missing on this way, whether or not dates have readings. -/
lemma missing_castWithin (hw : inner.WellFormed) (hf : inner.type.OfFamily f) (ht : t.IsStandard)
    (hdec : Decomposable t) (h : standard.castWithin fuel false inner t = .ok result) {i : Nat} {x : Value}
    (hx : inner.values[i]? = some x) (hm : x.isMissing = true) :
    ∃ y, result.vector.values[i]? = some y ∧ y.isMissing = true := by
  rcases pointwise_castWithin hw hf ht hdec h with rfl | ⟨output, hpointwise, source, hchecked⟩
  · exact ⟨x, hx, hm⟩
  · obtain ⟨d, lossy, g, flag, rfl, hvalues, -, hdisc⟩ := hpointwise
    obtain ⟨lossy', heq, -⟩ := result_of_checked hchecked
    have hvector : result.vector = ⟨t, d⟩ := (CasterOutput.result.inj heq).1.symm
    refine ⟨g x, ?_, ?_⟩
    · rw [hvector]
      change d.values[i]? = _
      rw [hvalues, List.getElem?_map, hx, Option.map_some]
    · rw [(hdisc.missing x (List.mem_of_getElem? hx) hm).1]
      exact isMissing_storageMissing ht

/-- Only datetimes are shown on clocks. -/
lemma datetime_of_unread (hw : inner.WellFormed) (hf : inner.type.OfFamily f) {x : Value} (hx : x ∈ inner.values)
    (h : Unread x) :
    ∃ t z, x = .instant t (some z) ∧ inner.type = .datetime (some z) ∧ Reading.stored? (z.rules.reading t) = none := by
  have hheld := hw.held x hx
  rw [hw.dtype_eq hf.ne_categorical] at hheld
  generalize inner.type = s at hf hheld
  obtain ⟨i, z, hi, hz, hunheld⟩ := h
  cases hf with
  | datetime zone =>
    cases hheld with
    | noInstant => cases hi
    | instant =>
      cases hi
      cases hz
      exact ⟨_, z, rfl, rfl, hunheld⟩
  | _ => cases hheld <;> cases hi

/-! ### The decomposed form -/

/-- Whether all levels of a categorical vector are single values, which hold no others. -/
def HasSingleLevels (v : TypedVector) : Prop :=
  ∀ levels, v.type = .categorical levels → ∀ l ∈ levels, l.held? = none

/-- The values of a vector that can be taken apart are single ones, if its levels are. -/
lemma held?_of_decomposable (hv : v.WellFormed) (hdec : Decomposable v.type) (hlevels : HasSingleLevels v) :
    ∀ x ∈ v.values, x.held? = none := by
  have hdtype := hv.dtype_eq
  intro x hx
  have hheld := hv.held x hx
  rcases hdec.cases hv.standard with ⟨f, hf⟩ | ⟨bs, hbs⟩ | ⟨levels, hcat⟩
  · rw [hdtype hf.ne_categorical] at hheld
    exact hf.held?_eq hheld
  · rw [hdtype (by rw [hbs]; rintro levels ⟨⟩), hbs] at hheld
    exact VectorType.OfFamily.double.held?_eq hheld
  · rcases hv.level_cases hcat hx with rfl | ⟨-, hsame⟩
    · rfl
    · have hsingle : ∀ l ∈ storedLevels levels, l.held? = none :=
        forall_storedLevels (fun l hl => (held?_storedLevel l).trans (hlevels levels hcat l hl)) fun _ => rfl
      -- the value is equal to a stored level, and only what holds nothing is equal to a single value
      rcases levelIn_cases (storedLevels levels) x with hnan | ⟨hmem, -⟩
      · rw [hnan] at hsame
        obtain ⟨m, hm, -⟩ := (Value.same_of_held?_eq_none rfl x).1 hsame
        cases hm
      · obtain ⟨m, -, hm⟩ := (Value.same_of_held?_eq_none (hsingle _ hmem) x).1 hsame
        exact Value.held?_of_meaning? hm

lemma call_anyToList (hs : v.type.IsStandard) (hdec : Decomposable v.type) :
    Caster.anyToList.call execute v .list = .ok ⟨v.enclosed 1, []⟩ := by
  obtain ⟨⟨hne, hc⟩, -⟩ := hdec.casters hs
  have hroute : standard.route true v.type .list = .direct .anyToList := route_direct hs .list hne hc
  have hcast := castTo_list true hs hdec
  rw [castTo_direct hroute] at hcast
  exact hcast

/-- What is put together from lists of one value each is what the values are read as, cast to the target. -/
lemma listToAny_enclosed (h : Caster.listToAny.run execute (v.enclosed 1) t = .ok output) :
    ∃ inner result, readOpen (own v.values) = .ok inner ∧ execute inner t = .ok result ∧
      output = .result result.vector result.lossy := by
  obtain ⟨elements, inner, result, helements, hread, hresult, rfl⟩ := listToAny_eq_ok h
  have hmapped := (mapM_opened_enclosed 0 v.values).symm.trans helements
  cases hmapped
  have hflags : positionsOf ((v.values.map fun x => (x.enclosed 0, false)).map (·.2)) = [] := by
    rw [List.map_map]
    exact positionsOf_eq_nil fun _ _ => rfl
  refine ⟨inner, result, ?_, hresult, by rw [hflags, List.nil_append]⟩
  rw [List.map_map] at hread
  exact hread

/-- Putting single values together keeps to the discipline. -/
lemma keepsMissing_listToAny (hsingle : ∀ x ∈ v.values, x.held? = none) (ht : t.IsStandard) (hdec : Decomposable t)
    (hunread : ∀ inner zone, readOpen (own v.values) = .ok inner → t = .date → inner.type = .datetime zone →
      ∀ x ∈ inner.values, ¬ Unread x)
    (h : Caster.listToAny.run (standard.castWithin fuel false) (v.enclosed 1) t = .ok output) :
    ∃ w lossy, output = .result w lossy ∧ KeepsMissing v.values w.values lossy := by
  obtain ⟨⟨s, d⟩, result, hread, hcast, rfl⟩ := listToAny_enclosed h
  refine ⟨_, _, rfl, ?_⟩
  by_cases hpresent : (own v.values).present = []
  · -- nothing is read but missing values, and these are cast to missing ones
    obtain ⟨inner, hinner, hvoided⟩ := readsAs_of_void ht hdec hpresent
    rw [hread] at hinner
    cases hinner
    cases fuel with
    | zero => cases hcast
    | succ fuel =>
      rw [hvoided] at hcast
      cases hcast
      refine .of_sameMissing ?_
      change List.Forall₂ _ v.values (List.map _ (List.map _ v.values))
      rw [List.map_map, List.forall₂_map_right_iff, List.forall₂_same]
      intro x hx
      have hmissing := isMissing_of_present_own hpresent hx
      exact (isMissing_storageMissing ht).trans hmissing.symm
  · obtain ⟨hdetect, hmade⟩ := readOpen_eq_ok hread
    obtain ⟨⟨f, hf⟩, hw, hsame⟩ := wellFormed_of_read hsingle hpresent hdetect hmade
    have hshown : t = .date → ∀ x ∈ d.values, ¬ Unread x := by
      intro hdate x hx hlost
      obtain ⟨_, z, -, htype, -⟩ := datetime_of_unread hw hf hx hlost
      exact hunread _ _ hread hdate htype x hx hlost
    exact .trans hsame (keepsMissing_castWithin hw hf ht hdec hshown hcast)

/-- The casters for the two halves of the decomposed form, and the kinds that they are there for. -/
lemma decomposable_of_casterFor? (hs : v.type.IsStandard) (ht : t.IsStandard) (hsource : v.type ≠ .list)
    (htarget : t ≠ .list) {apart together : Caster} (hapart : standard.casterFor? v.type.tag .list = some apart)
    (htogether : standard.casterFor? .list t.tag = some together) :
    (Decomposable v.type ∧ apart = .anyToList) ∧ Decomposable t ∧ together = .listToAny := by
  have hfirst := (casterFor?_standard hs .list).symm.trans hapart
  have hsecond := (casterFor?_standard .list ht).symm.trans htogether
  generalize v.type = s at hs hsource hfirst
  constructor
  · cases hs <;> first | exact absurd rfl hsource | cases hfirst <;> exact ⟨trivial, rfl⟩
  · cases ht <;> first | exact absurd rfl htarget | cases hsecond <;> exact ⟨trivial, rfl⟩

/-! ### All casts -/

/-- Whether missing values are kept in all casts of a vector to a type. -/
structure CastsKeepMissing (v : TypedVector) (t : VectorType) : Prop where
  /-- Whatever the caster for the two kinds returns is a result, in which missing values are kept. -/
  direct : ∀ {c execute output}, standard.casterFor? v.type.tag t.tag = some c → c.run execute v t = .ok output →
    ∃ w lossy, output = .result w lossy ∧ KeepsMissing v.values w.values lossy
  /-- So are they if the vector is taken apart and put together again, whether or not there is another way. -/
  halves : HasSingleLevels v → ∀ {apart together execute fuel parts whole},
    standard.casterFor? v.type.tag .list = some apart → standard.casterFor? .list t.tag = some together →
    apart.call execute v .list = .ok parts →
    together.call (standard.castWithin fuel false) parts.vector t = .ok whole →
    KeepsMissing v.values whole.vector.values (parts.lossy ++ whole.lossy)
  /-- And so are they in a cast that has no other way. -/
  decomposed : HasSingleLevels v → ∀ {decompose apart together result},
    standard.route decompose v.type t = .decomposed apart together → standard.castTo decompose v t = .ok result →
    KeepsMissing v.values result.vector.values result.lossy

/-- Whether a datetime that is cast to a date, or read and cast to one, is shown as what eight bytes hold as the missing
reading. -/
structure LosesReading (v : TypedVector) (t : VectorType) : Prop where
  date : t = .date
  single : HasSingleLevels v
  unread : ∃ inner zone, readOpen (own v.values) = .ok inner ∧ inner.type = .datetime zone ∧
    ∃ x ∈ inner.values, Unread x

/-! ### Readings that are lost -/

/-- Kinds with values of their own can be taken apart. -/
lemma decomposable_of_present (hv : v.WellFormed) (hsource : v.type ≠ .list) (hpresent : (own v.values).present ≠ []) :
    Decomposable v.type := by
  obtain ⟨x, hx⟩ := List.exists_mem_of_ne_nil _ hpresent
  obtain ⟨hx, hm⟩ := mem_present_own.1 hx
  have hs := hv.standard
  generalize hst : v.type = s at hs hsource
  cases hs with
  | null =>
    rw [hv.values_of_null hst] at hx
    cases hx
  | unspecified =>
    rw [hv.absent_of_unspecified hst hx] at hm
    cases hm
  | list => exact absurd rfl hsource
  | _ => trivial

/-- A vector of datetimes that is cast to dates loses those without a reading, and does not flag them. -/
lemma not_keepsMissing_days (hw : inner.WellFormed) {z : Zone} (hs : inner.type = .datetime (some z)) {t : Int}
    (hx : .instant t (some z) ∈ inner.values) (hunheld : Reading.stored? (z.rules.reading t) = none) :
    ∃ d lossy, standard.castTo false inner .date = .ok ⟨⟨.date, d⟩, lossy⟩ ∧ d.size = inner.size ∧
      ¬ KeepsMissing inner.values d.values lossy := by
  refine ⟨_, _, castTo_days standard_tellsTimeBy hs, List.length_map _, ?_⟩
  intro hkeeps
  have hrange : Reading.inRange t = true := by
    cases (onClock_of_datetime hw hs).held _ hx with
    | instant _ _ range => exact range
  have hlost : Caster.readingOf? .standard (.instant t (some z)) = none :=
    (readingOf?_instant hrange (some z)).trans hunheld
  obtain ⟨i, hi⟩ := List.mem_iff_getElem?.1 hx
  have hday : (inner.values.map (dayOf .standard))[i]? = some .notATime := by
    rw [List.getElem?_map, hi, Option.map_some, dayOf, hlost]
  have hflagged := hkeeps.dropped i _ _ hi hday rfl rfl
  change i ∈ sortedPositions (positionsOf (inner.values.map (isCutOff .standard))) at hflagged
  rw [mem_sortedPositions, mem_positionsOf] at hflagged
  obtain ⟨y, hy, hcut⟩ := hflagged
  cases hi.symm.trans hy
  rw [isCutOff, hlost] at hcut
  cases hcut

/-- The decomposed form reads such a datetime before it is cast. -/
lemma LosesReading.not_keeps (hv : v.WellFormed) (hsource : v.type ≠ .list) (hloses : LosesReading v t) :
    ¬ CastsKeepMissing v t := by
  intro hkeeps
  obtain ⟨rfl, hlevels, inner, zone, hread, htype, x, hx, hunread⟩ := hloses
  obtain ⟨hdetect, hmade⟩ := readOpen_eq_ok hread
  have hpresent : (own v.values).present ≠ [] := by
    intro hnone
    have hvoid := (detectElements_of_void (c := own v.values) hnone).symm.trans hdetect
    rw [htype] at hvoid
    split_ifs at hvoid <;> cases hvoid
  have hdecs := decomposable_of_present hv hsource hpresent
  have hsingle := held?_of_decomposable hv hdecs hlevels
  obtain ⟨⟨f, hf⟩, hw, hsame⟩ := wellFormed_of_read hsingle hpresent hdetect hmade
  obtain ⟨t, z, rfl, htype, hunheld⟩ := datetime_of_unread hw hf hx hunread
  obtain ⟨d, lossy, hcast, hsize, hnot⟩ := not_keepsMissing_days hw htype hx hunheld
  -- the datetimes are taken apart and put together as dates
  obtain ⟨⟨-, hapart⟩, -⟩ := hdecs.casters hv.standard
  have hfirst := (casterFor?_standard hv.standard .list).trans hapart
  have hsecond : standard.casterFor? VectorType.list.tag VectorType.date.tag = some .listToAny :=
    casterFor?_standard .list .date
  have hparts : Caster.anyToList.call (standard.castWithin 0 false) v .list = .ok ⟨v.enclosed 1, []⟩ :=
    call_anyToList hv.standard hdecs
  have hwhole : standard.castWithin (castFuel inner + 1) false ⟨.list, .ofValues (v.values.map (Value.enclosed 1))⟩ .date =
      .ok ⟨⟨.date, d⟩, sortedPositions lossy⟩ :=
    castWithin_opened .date trivial hread hcast (hsize.trans hsame.length_eq.symm)
  rw [castWithin_list _ _ .date trivial] at hwhole
  have hhalves := hkeeps.halves hlevels hfirst hsecond hparts hwhole
  refine hnot (.of_trans hsame (hhalves.congr ?_))
  intro i
  rw [List.nil_append, mem_sortedPositions]

/-! ### All casts together -/

lemma keepsMissing_halves (hv : v.WellFormed) (ht : t.IsStandard) (hsource : v.type ≠ .list) (htarget : t ≠ .list)
    (hlevels : HasSingleLevels v) (hread : ¬ LosesReading v t) {apart together : Caster} {parts whole : CastResult}
    (hapart : standard.casterFor? v.type.tag .list = some apart)
    (htogether : standard.casterFor? .list t.tag = some together) (hparts : apart.call execute v .list = .ok parts)
    (hwhole : together.call (standard.castWithin fuel false) parts.vector t = .ok whole) :
    KeepsMissing v.values whole.vector.values (parts.lossy ++ whole.lossy) := by
  obtain ⟨⟨hdecs, rfl⟩, hdec, rfl⟩ :=
    decomposable_of_casterFor? hv.standard ht hsource htarget hapart htogether
  rw [call_anyToList hv.standard hdecs] at hparts
  cases hparts
  obtain ⟨output, hrun, hchecked⟩ := bind_eq_ok_iff.1 hwhole
  have hsingle := held?_of_decomposable hv hdecs hlevels
  have hunread : ∀ inner zone, readOpen (own v.values) = .ok inner → t = .date → inner.type = .datetime zone →
      ∀ x ∈ inner.values, ¬ Unread x := by
    intro inner zone hinner hdate htype x hx hlost
    exact hread ⟨hdate, hlevels, inner, zone, hinner, htype, x, hx, hlost⟩
  rw [List.nil_append]
  exact keepsMissing_of_checked (keepsMissing_listToAny hsingle ht hdec hunread hrun) hchecked

/-- A datetime vector that is cast to dates is what its values are read as. -/
lemma losesReading_of_direct (hv : v.WellFormed) (hsource : v.type ≠ .list) (hc : caster? v.type .date = some c)
    {x : Value} (hx : x ∈ v.values) (hunread : Unread x) : LosesReading v .date := by
  obtain ⟨f, hf⟩ : ∃ f, v.type.OfFamily f := by
    have hs := hv.standard
    generalize v.type = s at hs hc hsource
    cases hs with
    | list => exact absurd rfl hsource
    | date => exact ⟨_, .date⟩
    | datetime zone => exact ⟨_, .datetime zone⟩
    | _ => cases hc
  obtain ⟨t, z, rfl, htype, -⟩ := datetime_of_unread hv hf hx hunread
  have hdtype := hv.dtype_eq hf.ne_categorical
  have hpresent : (own v.values).present ≠ [] := List.ne_nil_of_mem (mem_present_own.2 ⟨hx, rfl⟩)
  have hread : readOpen (own v.values) = .ok v := by
    rw [readOpen_own hf (hdtype ▸ hv.held) hpresent, ← hdtype]
    rfl
  have hlevels : HasSingleLevels v := by
    intro levels heq
    rw [htype] at heq
    cases heq
  exact ⟨rfl, hlevels, v, some z, hread, htype, _, hx, hunread⟩

/-- **Casts keep missing values, unless a reading is lost.** Between kinds that are no lists, every caster and, where
levels are single values, the decomposed form leave missing values missing and unflagged, and flag every value that
becomes missing, if and only if no datetime that becomes a date is shown as the missing reading. -/
theorem casts_keepMissing_iff (hv : v.WellFormed) (ht : t.IsStandard) (hsource : v.type ≠ .list) (htarget : t ≠ .list) :
    CastsKeepMissing v t ↔ ¬ LosesReading v t := by
  constructor
  · intro hkeeps hloses
    exact hloses.not_keeps hv hsource hkeeps
  intro hread
  constructor
  case direct =>
    intro c execute output hc hrun
    rw [casterFor?_standard hv.standard ht] at hc
    refine (caster_pointwise hv ht hsource htarget hc hrun).keepsMissing ht ?_
    rintro rfl x hx hunread
    exact hread (losesReading_of_direct hv hsource hc hx hunread)
  case halves =>
    intro hlevels apart together execute fuel parts whole
    exact keepsMissing_halves hv ht hsource htarget hlevels hread
  case decomposed =>
    intro hlevels decompose apart together result hroute hcast
    have htakes := takes_route standard decompose v.type t
    rw [hroute] at htakes
    obtain ⟨hapart, htogether⟩ : standard.casterFor? v.type.tag .list = some apart ∧
        standard.casterFor? .list t.tag = some together := by
      cases htakes with
      | decomposed _ _ detour => exact ⟨detour.apart, detour.together⟩
    rw [castTo, castFuel, castWithin, hroute] at hcast
    obtain ⟨parts, hparts, hcast⟩ := bind_eq_ok_iff.1 hcast
    split at hcast
    · rename_i whole hwhole
      cases hcast
      have hhalves := keepsMissing_halves hv ht hsource htarget hlevels hread hapart htogether hparts hwhole
      exact hhalves.congr fun i => mem_sortedPositions _ i
    · cases hcast

/-- A categorical with two integers for levels, which holds both of them around a missing value. -/
def integersAroundMissing : TypedVector :=
  ⟨.categorical [.int 1, .int 2], ⟨.category (some [.int 1, .int 2]), [.int 2, .double .nan, .int 1]⟩⟩

lemma wellFormed_integersAroundMissing : integersAroundMissing.WellFormed where
  standard := .categorical (by decide)
  stored := by decide
  held := by
    simp only [integersAroundMissing, TypedVector.values, List.forall_mem_cons]
    exact ⟨.level (by simp), .noLevel _, .level (by simp), by simp⟩
  admitted _ _ := trivial

/-- Levels that are integers reach truth values through the decomposed form, and only the one that is no truth value is
flagged. -/
theorem casts_keepMissing_iff_integers :
    standard.castTo true integersAroundMissing .logical =
        .ok ⟨⟨.logical, ⟨.boolean, [.bool true, .notAvailable, .bool true]⟩⟩, [0]⟩ ∧
      KeepsMissing integersAroundMissing.values [.bool true, .notAvailable, .bool true] [0] := by
  have hcast : standard.castTo true integersAroundMissing .logical =
      .ok ⟨⟨.logical, ⟨.boolean, [.bool true, .notAvailable, .bool true]⟩⟩, [0]⟩ := by
    have hfound : standard.castTo true integersAroundMissing .logical =
        .ok ⟨⟨.logical, ⟨.boolean, [.bool true, .notAvailable, .bool true]⟩⟩,
          sortedPositions (sortedPositions [] ++ sortedPositions (sortedPositions [0]))⟩ := rfl
    have hsorted : sortedPositions [0] = [0] := by simp [sortedPositions, List.eraseDups_cons]
    rw [hfound, hsorted, hsorted, sortedPositions_nil, List.nil_append, hsorted]
  have hroute : standard.route true integersAroundMissing.type .logical = .decomposed .anyToList .listToAny := rfl
  have hlevels : HasSingleLevels integersAroundMissing := by
    intro levels heq
    cases heq
    decide
  have hkeeps : CastsKeepMissing integersAroundMissing .logical := by
    refine (casts_keepMissing_iff wellFormed_integersAroundMissing .logical (by rintro ⟨⟩) (by rintro ⟨⟩)).2 ?_
    rintro ⟨hdate, -⟩
    cases hdate
  exact ⟨hcast, hkeeps.decomposed hlevels hroute hcast⟩

/-- A datetime whose clock, behind universal time, shows the reading before the first one that eight bytes hold. -/
def firstOnItsClock : TypedVector :=
  ⟨.datetime (some (.fixed (-510))),
    ⟨.instants "ns" (some (.fixed (-510))), [.instant (-9223341436854775808) (some (.fixed (-510)))]⟩⟩

lemma wellFormed_firstOnItsClock : firstOnItsClock.WellFormed where
  standard := .datetime _
  stored := rfl
  held x hx := by
    rw [List.mem_singleton.1 hx]
    exact .instant "ns" _ (by decide)
  admitted _ _ := trivial

/-- This datetime becomes a missing date, and is not flagged. -/
theorem not_casts_keepMissing :
    ¬ ∀ (v : TypedVector) (t : VectorType), v.WellFormed → t.IsStandard → v.type ≠ .list → t ≠ .list →
      CastsKeepMissing v t := by
  intro h
  have hdatetime : firstOnItsClock.type ≠ .list := by rintro ⟨⟩
  have hmem : .instant (-9223341436854775808) (some (.fixed (-510))) ∈ firstOnItsClock.values := List.mem_singleton.2 rfl
  have hunheld : Reading.stored? ((Zone.fixed (-510)).rules.reading (-9223341436854775808)) = none := by decide +kernel
  have hunread : Unread (.instant (-9223341436854775808) (some (.fixed (-510)))) :=
    unread_instant_iff.2 ⟨_, rfl, hunheld⟩
  have hloses := losesReading_of_direct wellFormed_firstOnItsClock hdatetime rfl hmem hunread
  exact hloses.not_keeps wellFormed_firstOnItsClock hdatetime
    (h _ _ wellFormed_firstOnItsClock .date hdatetime (by rintro ⟨⟩))

end Registry

end Coercion
