import Coercion.Proofs.Cast.Pointwise
import Coercion.Proofs.Combine.Kept

/-!
Binned vectors are combined without a loss. From vector to vector the boundaries found so far are united with those of
the next one, so they only ever reach further out, and what lies between the boundaries of its own type lies between the
common ones as well. All values come through as they are, and the common type does not depend on the order of the
vectors.
-/

namespace Coercion

/-! ### Ascending boundaries -/

namespace Ascending

variable {bs : List Double}

lemma pairwise_less (h : Ascending bs) : bs.Pairwise fun b c => b.less c = true := by
  have hplaces := h.sorted.pairwise
  rw [List.pairwise_map] at hplaces
  refine hplaces.imp_of_mem fun hb hc hlt => ?_
  exact (Double.less_iff _ _).2 ⟨h.defined _ hb, h.defined _ hc, hlt⟩

/-- No boundary comes before the first. -/
lemma head_le (h : Ascending bs) {low b : Double} (hlow : bs.head? = some low) (hb : b ∈ bs) : low.place ≤ b.place := by
  obtain ⟨rest, rfl⟩ := List.head?_eq_some_iff.1 hlow
  rcases List.mem_cons.1 hb with rfl | hb
  · exact le_rfl
  · exact ((cons_iff.1 h).2.1 b hb).le

/-- No boundary comes after the last. -/
lemma le_getLast (h : Ascending bs) {high b : Double} (hhigh : bs.getLast? = some high) (hb : b ∈ bs) :
    b.place ≤ high.place := by
  obtain ⟨init, rfl⟩ := List.getLast?_eq_some_iff.1 hhigh
  rcases List.mem_append.1 hb with hb | hb
  · have hless := (List.pairwise_append.1 h.pairwise_less).2.2 b hb high (by simp)
    exact ((Double.less_iff b high).1 hless).2.2.le
  · rw [List.mem_singleton.1 hb]

end Ascending

namespace VectorType

lemma mem_insertBoundary {b c : Double} {bs : List Double} (h : c ∈ insertBoundary b bs) : c = b ∨ c ∈ bs := by
  induction bs with
  | nil => exact Or.inl (List.mem_singleton.1 h)
  | cons d ds ih =>
    rw [insertBoundary] at h
    split_ifs at h
    · exact List.mem_cons.1 h
    · exact Or.inr h
    · rcases List.mem_cons.1 h with rfl | h
      · exact Or.inr List.mem_cons_self
      · exact (ih h).imp_right (List.mem_cons_of_mem d)

/-- Boundaries that are put in order are among those that are given. -/
lemma mem_orderedBoundaries {bs : List Double} {c : Double} (h : c ∈ orderedBoundaries bs) : c ∈ bs := by
  have hfold : ∀ {acc}, c ∈ bs.foldl (fun bs b => insertBoundary b bs) acc → c ∈ acc ∨ c ∈ bs := by
    clear h
    induction bs with
    | nil => exact Or.inl
    | cons b bs ih =>
      intro acc hc
      rcases ih hc with hc | hc
      · rcases mem_insertBoundary hc with rfl | hacc
        · exact Or.inr List.mem_cons_self
        · exact Or.inl hacc
      · exact Or.inr (List.mem_cons_of_mem b hc)
  exact (hfold h).resolve_left List.not_mem_nil

/-! ### United boundaries -/

/-- The boundaries of a type; only binned types have some. -/
def boundaries : VectorType → List Double
  | .binned bs => bs
  | _ => []

/-- Whether boundaries are those of some types together: in strictly ascending order, each of them a boundary of one
of the types, and each boundary of one of the types equal to one of them. -/
structure Unites (bs : List Double) (ts : List VectorType) : Prop where
  ascending : bs.Pairwise fun b c => b.less c = true
  own : ∀ b ∈ bs, ∃ t ∈ ts, b ∈ t.boundaries
  all : ∀ t ∈ ts, ∀ b ∈ t.boundaries, ∃ c ∈ bs, c.same b = true

/-- A binned type with boundaries that its constructor accepts. -/
def IsBinned (t : VectorType) : Prop :=
  t.IsStandard ∧ t = .binned t.boundaries

variable {bs cs : List Double} {ts us : List VectorType} {t : VectorType}

lemma IsBinned.ascending (h : t.IsBinned) : Ascending t.boundaries := by
  obtain ⟨hstandard, heq⟩ := h
  rw [heq] at hstandard
  cases hstandard with
  | binned ascending => exact ascending

namespace Unites

lemma mem_places_iff (h : Unites bs ts) (p : WithBot (WithTop ℚ)) :
    p ∈ bs.map Double.place ↔ ∃ t ∈ ts, p ∈ t.boundaries.map Double.place := by
  simp only [List.mem_map]
  constructor
  · rintro ⟨b, hb, rfl⟩
    obtain ⟨t, ht, hbt⟩ := h.own b hb
    exact ⟨t, ht, b, hbt, rfl⟩
  · rintro ⟨t, ht, b, hb, rfl⟩
    obtain ⟨c, hc, hcb⟩ := h.all t ht b hb
    exact ⟨c, hc, ((Double.same_iff c b).1 hcb).2.2⟩

lemma of_mem_places_iff (hbs : Ascending bs) (hts : ∀ t ∈ ts, Ascending t.boundaries)
    (hown : ∀ b ∈ bs, ∃ t ∈ ts, b ∈ t.boundaries)
    (hplaces : ∀ p, p ∈ bs.map Double.place ↔ ∃ t ∈ ts, p ∈ t.boundaries.map Double.place) : Unites bs ts where
  ascending := hbs.pairwise_less
  own := hown
  all t ht b hb := by
    obtain ⟨c, hc, hcb⟩ := List.mem_map.1 ((hplaces b.place).2 ⟨t, ht, List.mem_map_of_mem hb⟩)
    exact ⟨c, hc, (Double.same_iff c b).2 ⟨hbs.defined c hc, (hts t ht).defined b hb, hcb⟩⟩

/-- The boundaries of the same types in another order make an equal type. -/
theorem same_of_perm (hbs : Ascending bs) (hcs : Ascending cs) (h : Unites bs ts) (h' : Unites cs us)
    (hperm : ts.Perm us) : VectorType.same (.binned bs) (.binned cs) = true := by
  refine (binned_same_iff bs cs).2 (hbs.forall₂_same hcs ?_)
  intro p
  rw [h.mem_places_iff, h'.mem_places_iff]
  refine exists_congr ?_
  intro t
  exact and_congr_left fun _ => hperm.mem_iff

lemma singleton (ht : t.IsBinned) : Unites t.boundaries [t] :=
  .of_mem_places_iff ht.ascending (by simpa using ht.ascending) (by simp) (by simp)

/-- The boundaries of one type more. -/
lemma append (hbs : Ascending bs) (hts : ∀ t ∈ ts, Ascending t.boundaries) (h : Unites bs ts) (ht : t.IsBinned) :
    Ascending (orderedBoundaries (bs ++ t.boundaries)) ∧
      Unites (orderedBoundaries (bs ++ t.boundaries)) (ts ++ [t]) := by
  have hdefined : ∀ b ∈ bs ++ t.boundaries, b.isNan = false := by
    simpa only [List.mem_append, or_imp, forall_and] using And.intro hbs.defined ht.ascending.defined
  have hascending := ascending_orderedBoundaries hdefined
  refine ⟨hascending, .of_mem_places_iff hascending ?_ ?_ ?_⟩
  · simpa only [List.mem_append, List.mem_singleton, or_imp, forall_and, forall_eq] using And.intro hts ht.ascending
  · intro b hb
    rcases List.mem_append.1 (mem_orderedBoundaries hb) with hb | hb
    · obtain ⟨s, hs, hbs⟩ := h.own b hb
      exact ⟨s, List.mem_append_left _ hs, hbs⟩
    · exact ⟨t, by simp, hb⟩
  · intro p
    rw [mem_places_orderedBoundaries hdefined, List.map_append, List.mem_append, h.mem_places_iff]
    simp only [List.mem_append, List.mem_singleton, or_and_right, exists_or, exists_eq_left]

end Unites

/-- The common type of binned types has their boundaries. -/
theorem commonFrom?_binned (strict : Bool) (hbs : Ascending bs) (hts : ∀ t ∈ ts, t.IsBinned) (h : Unites bs ts)
    (hus : ∀ u ∈ us, u.IsBinned) :
    ∃ cs, commonFrom? strict (.binned bs) us = some (.binned cs) ∧ Ascending cs ∧ Unites cs (ts ++ us) := by
  induction us generalizing bs ts with
  | nil => exact ⟨bs, rfl, hbs, by rwa [List.append_nil]⟩
  | cons u us ih =>
    have hu : u.IsBinned := hus u (by simp)
    obtain ⟨hnext, hunites⟩ := h.append hbs (fun t ht => (hts t ht).ascending) hu
    have hall : ∀ t ∈ ts ++ [u], t.IsBinned := by
      simpa only [List.mem_append, List.mem_singleton, or_imp, forall_and, forall_eq] using And.intro hts hu
    obtain ⟨cs, hcs, hfinal⟩ := ih hnext hall hunites fun w hw => hus w (by simp [hw])
    rw [List.append_assoc] at hfinal
    refine ⟨cs, commonFrom?_cons_eq_some.2 ⟨_, ?_, hcs⟩, hfinal⟩
    rw [hu.2]
    rfl

lemma commonFrom?_null_binned (strict : Bool) (hne : ts ≠ []) (hts : ∀ t ∈ ts, t.IsBinned) :
    ∃ bs, commonFrom? strict .null ts = some (.binned bs) ∧ Ascending bs ∧ Unites bs ts := by
  obtain ⟨t, us, rfl⟩ := List.exists_cons_of_ne_nil hne
  have ht : t.IsBinned := hts t (by simp)
  have hus : ∀ u ∈ us, u.IsBinned := by
    intro u hu
    exact hts u (by simp [hu])
  obtain ⟨bs, hbs, hunites⟩ := commonFrom?_binned strict ht.ascending (by simpa using ht) (.singleton ht) hus
  refine ⟨bs, commonFrom?_cons_eq_some.2 ⟨t, rfl, ?_⟩, hunites⟩
  rw [ht.2]
  exact hbs

end VectorType

/-! ### Numbers between boundaries -/

open VectorType Registry Column

/-- A binned vector whose present values all lie between the first and the last boundary of its type. Without
boundaries there is no such place, and all values are missing. -/
structure TypedVector.LiesWithin (v : TypedVector) : Prop where
  wellFormed : v.WellFormed
  binned : v.type = .binned v.type.boundaries
  within : ∀ x, .double x ∈ v.values → x.isNan = false → ∃ low high,
    v.type.boundaries.head? = some low ∧ v.type.boundaries.getLast? = some high ∧
      low.place ≤ x.place ∧ x.place ≤ high.place

variable {v : TypedVector} {vs : List TypedVector} {bs : List Double} {x : Double}

namespace TypedVector.LiesWithin

lemma isBinned (h : v.LiesWithin) : v.type.IsBinned :=
  ⟨h.wellFormed.standard, h.binned⟩

lemma ne_categorical (h : v.LiesWithin) (levels : List Value) : v.type ≠ .categorical levels := by
  rw [h.binned]
  exact VectorType.noConfusion

lemma dtype_eq (h : v.LiesWithin) : v.column.dtype = .float64 := by
  rw [h.wellFormed.dtype_eq h.ne_categorical, h.binned]
  rfl

end TypedVector.LiesWithin

lemma Double.less_eq_false {x y : Double} (h : y.place ≤ x.place) : x.less y = false := by
  rw [← Bool.not_eq_true, Double.less_iff]
  rintro ⟨-, -, hlt⟩
  exact absurd h (not_le.2 hlt)

/-- What lies between two of some boundaries is not outside of them. -/
lemma Caster.isOutside_eq_false (hbs : Ascending bs) {low high : Double} (hlow : low ∈ bs) (hhigh : high ∈ bs)
    (hfrom : low.place ≤ x.place) (hto : x.place ≤ high.place) : isOutside bs x = false := by
  have hne : bs ≠ [] := List.ne_nil_of_mem hlow
  have hfirst := List.head?_eq_some_head hne
  have hlast := List.getLast?_eq_some_getLast hne
  have habove : x.less (bs.head hne) = false := Double.less_eq_false ((hbs.head_le hfirst hlow).trans hfrom)
  have hbelow : (bs.getLast hne).less x = false := Double.less_eq_false (hto.trans (hbs.le_getLast hlast hhigh))
  rw [isOutside, hfirst, hlast]
  simp only [habove, hbelow, Bool.or_self]

namespace Registry

/-- Boundaries that are equal to some of `bs` hold no value that `bs` does not hold. -/
lemma binnedValue_eq_self (hv : v.LiesWithin) (hbs : Ascending bs)
    (hall : ∀ b ∈ v.type.boundaries, ∃ c ∈ bs, c.same b = true) {x : Value} (hx : x ∈ v.values) :
    Caster.binnedValue bs x = x := by
  obtain ⟨d, rfl⟩ := binned_cases hv.dtype_eq hv.wellFormed hx
  cases hd : d.isNan with
  | true =>
    cases d with
    | nan => simp [Caster.binnedValue]
    | _ => cases hd
  | false =>
    obtain ⟨low, high, hlow, hhigh, hfrom, hto⟩ := hv.within d hx hd
    obtain ⟨first, hfirst, hlow⟩ := hall low (List.mem_of_head? hlow)
    obtain ⟨last, hlast, hhigh⟩ := hall high (List.mem_of_getLast? hhigh)
    rw [Double.same_iff] at hlow hhigh
    rw [← hlow.2.2] at hfrom
    rw [← hhigh.2.2] at hto
    rw [Caster.binnedValue, Caster.isOutside_eq_false hbs hfirst hlast hfrom hto]
    rfl

/-- **A cast to wider boundaries** leaves every value as it is. -/
theorem castTo_wider (hv : v.LiesWithin) (hbs : Ascending bs)
    (hall : ∀ b ∈ v.type.boundaries, ∃ c ∈ bs, c.same b = true) :
    standard.castTo true v (.binned bs) = .ok ⟨⟨.binned bs, v.column⟩, []⟩ := by
  have hstandard : (VectorType.binned bs).IsStandard := .binned hbs
  by_cases hsame : v.type.same (.binned bs) = true
  · exact castTo_unchanged hsame (samePayload_of_same hv.wellFormed.standard hstandard hv.ne_categorical hsame)
  · have hcaster : caster? v.type (.binned bs) = some .rebin := by rw [hv.binned]; rfl
    have hroute : standard.route true v.type (.binned bs) = .direct .rebin :=
      route_direct hv.wellFormed.standard hstandard (Bool.not_eq_true _ ▸ hsame) hcaster
    have hvalues : v.values.map (Caster.binnedValue bs) = v.values :=
      (List.map_congr_left fun x hx => binnedValue_eq_self hv hbs hall hx).trans (List.map_id _)
    rw [castTo_rebin hstandard hv.dtype_eq hroute, hvalues, droppedPositions_self, sortedPositions_nil, ← hv.dtype_eq]
    rfl

end Registry

namespace Engine

variable {strict : Bool} {rule : LossyRule}

/-- Nothing is reported if no cast has lost anything. -/
lemma reports_eq_nil {t : VectorType} {results : List CastResult} (h : ∀ r ∈ results, r.lossy = []) :
    reports rule t (results.zipIdx.map fun p => (p.2, p.1.lossy)) = [] := by
  rw [List.eq_nil_iff_forall_not_mem]
  intro warning hwarning
  obtain ⟨-, ⟨⟨i, positions⟩, hentry, hlossy⟩, -⟩ := mem_reports.1 hwarning
  obtain ⟨r, hr, rfl⟩ := mem_lossyEntries.1 hentry
  exact hlossy (h r (List.mem_of_getElem? hr))

/-- Binned vectors are combined into the type with all their boundaries. -/
lemma combine_within (strict : Bool) (rule : LossyRule) (hne : vs ≠ []) (hvs : ∀ v ∈ vs, v.LiesWithin) :
    ∃ bs, Ascending bs ∧ Unites bs (vs.map TypedVector.type) ∧
      standard.combine strict rule none (vs.map .vector) =
        .ok ⟨⟨.binned bs, ⟨.float64, vs.flatMap TypedVector.values⟩⟩, []⟩ := by
  have hbinned : ∀ t ∈ vs.map TypedVector.type, t.IsBinned := by
    simpa only [List.forall_mem_map] using fun v hv => (hvs v hv).isBinned
  obtain ⟨bs, hfound, hbs, hunites⟩ := commonFrom?_null_binned strict (by simpa using hne) hbinned
  refine ⟨bs, hbs, hunites, ?_⟩
  have hcommon : Registry.standard.commonType strict (vs.map TypedVector.type) = .ok (.binned bs) := by
    have hsettles := commonType_standard strict fun t ht => (hbinned t ht).1
    rwa [hfound] at hsettles
  have htype : standard.combinedType strict none (vs.map TypedVector.type) = .ok (.binned bs) := by
    change (Registry.standard.commonType strict (vs.map TypedVector.type) >>= _) = _
    rw [hcommon]
    rfl
  let cast (v : TypedVector) : CastResult := ⟨⟨.binned bs, v.column⟩, []⟩
  have hcasts : vs.mapM (fun v => Registry.standard.castTo true v (.binned bs)) = .ok (vs.map cast) :=
    mapM_eq_ok_map fun v hv => castTo_wider (hvs v hv) hbs (hunites.all v.type (List.mem_map_of_mem hv))
  have hjoins : ∀ r ∈ vs.map cast, r.vector.column.JoinsAs (.binned bs) := by
    rw [List.forall_mem_map]
    intro v hv
    change v.column.dtype.same .float64 = true
    rw [(hvs v hv).dtype_eq]
    rfl
  have hjoined := join_stored (.binned hbs) (fun _ => VectorType.noConfusion) hjoins
  rw [List.flatMap_map] at hjoined
  have hreports : reports rule (.binned bs) ((vs.map cast).zipIdx.map fun p => (p.2, p.1.lossy)) = [] :=
    reports_eq_nil (by simp [cast])
  rw [combine_vectors, htype]
  change (vs.mapM (fun v => Registry.standard.castTo true v (.binned bs)) >>= _) = _
  rw [hcasts]
  change (join (.binned bs) (vs.map cast) >>= _) = _
  rw [hjoined, hreports]
  rfl

/-- **Binned vectors are combined without a loss.** The common type has all boundaries of the vectors in strictly
ascending order, every vector is cast to it as it is, and so are the values joined; the order of the vectors
makes no difference for the type. -/
theorem combine_binned (strict : Bool) (rule : LossyRule) (hne : vs ≠ []) (hvs : ∀ v ∈ vs, v.LiesWithin) :
    ∃ bs, Unites bs (vs.map TypedVector.type) ∧
      standard.combine strict rule none (vs.map .vector) =
        .ok ⟨⟨.binned bs, ⟨.float64, vs.flatMap TypedVector.values⟩⟩, []⟩ ∧
      (∀ v ∈ vs, Registry.standard.castTo true v (.binned bs) = .ok ⟨⟨.binned bs, v.column⟩, []⟩) ∧
      ∀ ws : List TypedVector, ws.Perm vs → ∃ r, standard.combine strict rule none (ws.map .vector) = .ok r ∧
        (r.vector.type == .binned bs) = true := by
  obtain ⟨bs, hbs, hunites, hcombined⟩ := combine_within strict rule hne hvs
  refine ⟨bs, hunites, hcombined, ?_, ?_⟩
  · intro v hv
    exact castTo_wider (hvs v hv) hbs (hunites.all v.type (List.mem_map_of_mem hv))
  · intro ws hperm
    have hws : ws ≠ [] := by
      intro h
      exact hne (by rwa [h, List.nil_perm] at hperm)
    obtain ⟨cs, hcs, hunites', hcombined'⟩ := combine_within strict rule hws fun v hv => hvs v (hperm.mem_iff.1 hv)
    exact ⟨_, hcombined', hunites'.same_of_perm hcs hbs hunites (hperm.map _)⟩

/-- A scale from zero to two, one without boundaries, and a single boundary. -/
theorem combine_binned_scales :
    let vs : List TypedVector := [
      ⟨.binned [.ofInt 0, .ofInt 2], ⟨.float64, [.double (.ofInt 1), .double .nan]⟩⟩,
      ⟨.binned [], ⟨.float64, [.double .nan]⟩⟩,
      ⟨.binned [.ofInt 8], ⟨.float64, [.double (.ofInt 8)]⟩⟩]
    vs ≠ [] ∧ (∀ v ∈ vs, v.LiesWithin) ∧ ∃ bs, Unites bs (vs.map TypedVector.type) ∧
      standard.combine true .warn none (vs.map .vector) =
        .ok ⟨⟨.binned bs, ⟨.float64, vs.flatMap TypedVector.values⟩⟩, []⟩ := by
  intro vs
  have hless : ∀ {x y : Double}, x.less y = true → x.place < y.place := fun h => ((Double.less_iff _ _).1 h).2.2
  have hscale : Ascending [.ofInt 0, .ofInt 2] :=
    Ascending.cons_iff.2 ⟨by decide, List.forall_mem_singleton.2 (hless (by decide)),
      Ascending.cons_iff.2 ⟨by decide, by simp, .nil⟩⟩
  have hsingle : Ascending [.ofInt 8] := Ascending.cons_iff.2 ⟨by decide, by simp, .nil⟩
  have hvs : ∀ v ∈ vs, v.LiesWithin := by
    simp only [vs, List.forall_mem_cons]
    refine ⟨⟨⟨.binned hscale, rfl, ?_, fun _ _ => trivial⟩, rfl, ?_⟩,
      ⟨⟨.binned .nil, rfl, ?_, fun _ _ => trivial⟩, rfl, ?_⟩,
      ⟨⟨.binned hsingle, rfl, ?_, fun _ _ => trivial⟩, rfl, ?_⟩, by simp⟩
    · exact List.forall_mem_cons.2 ⟨.double (by decide), List.forall_mem_singleton.2 (.double (by decide))⟩
    · intro x hx hnan
      rcases List.mem_cons.1 hx with hx | hx
      · cases hx
        exact ⟨_, _, rfl, rfl, (hless (by decide)).le, (hless (by decide)).le⟩
      · cases List.mem_singleton.1 hx
        cases hnan
    · exact List.forall_mem_singleton.2 (.double (by decide))
    · intro x hx hnan
      cases List.mem_singleton.1 hx
      cases hnan
    · exact List.forall_mem_singleton.2 (.double (by decide))
    · intro x hx hnan
      cases List.mem_singleton.1 hx
      exact ⟨_, _, rfl, rfl, le_rfl, le_rfl⟩
  obtain ⟨bs, hunites, hcombined, -⟩ := combine_binned true .warn (List.cons_ne_nil _ _) hvs
  exact ⟨List.cons_ne_nil _ _, hvs, bs, hunites, hcombined⟩

end Engine

end Coercion
