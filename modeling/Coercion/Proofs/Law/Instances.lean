import Coercion.Law
import Coercion.Proofs.VectorType.Standard
import Mathlib.Algebra.BigOperators.Fin
import Mathlib.Data.List.Sym
import Mathlib.Data.Set.Card
import Mathlib.Data.Sym.Card
import Mathlib.Tactic

/-!
The laws that the rules of a kind have to obey, apart from any way to check them. Unification is commutative on samples
and with partners, the null type gives way on both sides, and a sample survives a cast to its own type and the way
through the decomposed form, while its type has an empty vector of its own. Some samples and partners make finitely
many instances of these laws, in which two samples are one pair in whatever order they are named; to count the violated
instances is to add them up law by law.
-/

namespace Coercion

/-! ### The laws -/

/-- Whether two attempts to unify come to equal types, or to refusals of the same class. -/
inductive SameOutcome : Except Failure VectorType → Except Failure VectorType → Prop where
  | types {t u : VectorType} (equal : t.same u = true) : SameOutcome (.ok t) (.ok u)
  | refusals {f g : Failure} {className : String} (left : f.refusalClass? = some className)
    (right : g.refusalClass? = some className) : SameOutcome (.error f) (.error g)

namespace Registry

/-- Whether the order of two types does not matter for what they are unified to. -/
def Commutes (r : Registry) (strict : Bool) (x y : VectorType) : Prop :=
  SameOutcome (r.unify strict x y) (r.unify strict y x)

/-- Whether two types are unified to a type that is equal to a given one. -/
def UnifiesTo (r : Registry) (x y t : VectorType) : Prop :=
  ∃ u, r.unify true x y = .ok u ∧ u.same t = true

end Registry

namespace Making

/-- Whether the cast of a vector to its own type flags nothing and gives an equal vector. -/
def SelfCasts (m : Making) (r : Registry) (v : TypedVector) : Prop :=
  ∃ result, m.castTo r true v v.type = .ok result ∧ result.lossy = [] ∧ result.vector.same v = true

/-- Whether the empty vector of a type is empty and has the type. -/
def Probes (m : Making) (t : VectorType) : Prop :=
  ∃ w, m.empty t = .ok w ∧ w.size = 0 ∧ w.type.same t = true

/-- Whether a vector is taken apart and put together to an equal one without anything being flagged, if there is a
caster to take it apart. -/
def RoundTrips (m : Making) (r : Registry) (v : TypedVector) : Prop :=
  (r.casterFor? v.type.tag .list).isSome → ∃ parts whole, m.castTo r true v .list = .ok parts ∧
    m.castTo r true parts.vector v.type = .ok whole ∧ parts.lossy = [] ∧ whole.lossy = [] ∧
      whole.vector.same v = true

/-- Whether all laws hold for some samples and partners. -/
structure Lawful (m : Making) (r : Registry) (samples : List TypedVector) (partners : List VectorType) : Prop where
  commutes : ∀ v ∈ samples, ∀ w ∈ samples, ∀ strict, r.Commutes strict v.type w.type
  commutesWith : ∀ v ∈ samples, ∀ t ∈ partners, ∀ strict, r.Commutes strict v.type t
  nullAfter : ∀ v ∈ samples, r.UnifiesTo v.type .null v.type
  nullBefore : ∀ v ∈ samples, r.UnifiesTo .null v.type v.type
  selfCast : ∀ v ∈ samples, m.SelfCasts r v
  probe : ∀ v ∈ samples, m.Probes v.type
  roundTrip : ∀ v ∈ samples, m.RoundTrips r v

end Making

/-! ### Equality of types does not depend on the order -/

namespace VectorType

open Value

lemma sameAll_comm (xs ys : List Value) : sameAll xs ys = sameAll ys xs := by
  rw [Bool.eq_iff_iff, sameAll_iff, sameAll_iff]
  constructor
  · intro h
    exact h.flip.imp fun _ _ => Value.same_symm
  · intro h
    exact h.flip.imp fun _ _ => Value.same_symm

lemma same_comm (x y : VectorType) : x.same y = y.same x := by
  have hboth : (x.tag == y.tag && sameAll (x.params.map (·.2)) (y.params.map (·.2))) =
      (y.tag == x.tag && sameAll (y.params.map (·.2)) (x.params.map (·.2))) := by
    rw [sameAll_comm, Bool.beq_comm]
  cases x with
  | categorical a =>
    cases y with
    | categorical b => exact Bool.and_comm ..
    | _ => rfl
  | datetime a =>
    cases y with
    | categorical b => rfl
    | datetime b => exact Bool.beq_comm
    | _ => exact hboth
  | _ =>
    cases y with
    | categorical b => rfl
    | _ => exact hboth

end VectorType

lemma SameOutcome.symm {a b : Except Failure VectorType} (h : SameOutcome a b) : SameOutcome b a := by
  cases h with
  | types equal => exact .types (VectorType.same_comm .. ▸ equal)
  | refusals left right => exact .refusals right left

namespace Registry

variable {r : Registry} {strict : Bool} {x y : VectorType}

lemma Commutes.symm (h : r.Commutes strict x y) : r.Commutes strict y x :=
  SameOutcome.symm h

/-- Whether unification is commutative on a pair of types, in whatever order they are named. -/
def CommutesOn (r : Registry) (strict : Bool) (p : Sym2 VectorType) : Prop :=
  ∀ x y, p = s(x, y) → r.Commutes strict x y

lemma commutesOn_mk : r.CommutesOn strict s(x, y) ↔ r.Commutes strict x y := by
  constructor
  · intro h
    exact h x y rfl
  · intro h a b hab
    rcases Sym2.eq_iff.1 hab with ⟨rfl, rfl⟩ | ⟨rfl, rfl⟩
    · exact h
    · exact h.symm

end Registry

/-! ### Instances -/

/-- The instances of the laws for `n` samples and `k` partners. -/
inductive LawInstance (n k : ℕ) where
  /-- Two samples, which may be the same, in one mode of unification. -/
  | commutes (strict : Bool) (p : Sym2 (Fin n))
  | commutesWith (strict : Bool) (i : Fin n) (j : Fin k)
  | nullAfter (i : Fin n)
  | nullBefore (i : Fin n)
  | selfCast (i : Fin n)
  | probe (i : Fin n)
  | roundTrip (i : Fin n)

namespace LawInstance

variable {n k : ℕ}

/-- What a law says in an instance of it. -/
def Holds (m : Making) (r : Registry) (samples : List TypedVector) (partners : List VectorType) :
    LawInstance samples.length partners.length → Prop
  | .commutes strict p => r.CommutesOn strict (p.map fun i => (samples.get i).type)
  | .commutesWith strict i j => r.Commutes strict (samples.get i).type (partners.get j)
  | .nullAfter i => r.UnifiesTo (samples.get i).type .null (samples.get i).type
  | .nullBefore i => r.UnifiesTo .null (samples.get i).type (samples.get i).type
  | .selfCast i => m.SelfCasts r (samples.get i)
  | .probe i => m.Probes (samples.get i).type
  | .roundTrip i => m.RoundTrips r (samples.get i)

/-- The instances in which a law does not hold. -/
def violated (m : Making) (r : Registry) (samples : List TypedVector) (partners : List VectorType) :
    Set (LawInstance samples.length partners.length) :=
  {l | ¬ Holds m r samples partners l}

/-- The laws hold if and only if no instance of them is violated. -/
theorem lawful_iff_violated_eq_empty {m : Making} {r : Registry} {samples : List TypedVector}
    {partners : List VectorType} : m.Lawful r samples partners ↔ violated m r samples partners = ∅ := by
  have hall : violated m r samples partners = ∅ ↔ ∀ l, Holds m r samples partners l := by
    rw [Set.eq_empty_iff_forall_notMem]
    exact forall_congr' fun l => not_not
  rw [hall]
  constructor
  · intro h l
    cases l with
    | commutes strict p =>
      induction p with
      | _ i j => exact Registry.commutesOn_mk.2 (h.commutes _ (samples.get_mem i) _ (samples.get_mem j) strict)
    | commutesWith strict i j => exact h.commutesWith _ (samples.get_mem i) _ (partners.get_mem j) strict
    | nullAfter i => exact h.nullAfter _ (samples.get_mem i)
    | nullBefore i => exact h.nullBefore _ (samples.get_mem i)
    | selfCast i => exact h.selfCast _ (samples.get_mem i)
    | probe i => exact h.probe _ (samples.get_mem i)
    | roundTrip i => exact h.roundTrip _ (samples.get_mem i)
  · intro h
    constructor
    case commutes =>
      intro v hv w hw strict
      obtain ⟨i, rfl⟩ := List.get_of_mem hv
      obtain ⟨j, rfl⟩ := List.get_of_mem hw
      exact Registry.commutesOn_mk.1 (h (.commutes strict s(i, j)))
    case commutesWith =>
      intro v hv t ht strict
      obtain ⟨i, rfl⟩ := List.get_of_mem hv
      obtain ⟨j, rfl⟩ := List.get_of_mem ht
      exact h (.commutesWith strict i j)
    -- the other laws are about one sample each
    all_goals
      intro v hv
      obtain ⟨i, rfl⟩ := List.get_of_mem hv
    · exact h (.nullAfter i)
    · exact h (.nullBefore i)
    · exact h (.selfCast i)
    · exact h (.probe i)
    · exact h (.roundTrip i)

/-! ### Counting -/

/-- The instances, law by law. -/
def sumEquiv (n k : ℕ) :
    LawInstance n k ≃
      (Bool × Sym2 (Fin n)) ⊕ (Bool × Fin n × Fin k) ⊕ Fin n ⊕ Fin n ⊕ Fin n ⊕ Fin n ⊕ Fin n where
  toFun
    | .commutes strict p => .inl (strict, p)
    | .commutesWith strict i j => .inr (.inl (strict, i, j))
    | .nullAfter i => .inr (.inr (.inl i))
    | .nullBefore i => .inr (.inr (.inr (.inl i)))
    | .selfCast i => .inr (.inr (.inr (.inr (.inl i))))
    | .probe i => .inr (.inr (.inr (.inr (.inr (.inl i)))))
    | .roundTrip i => .inr (.inr (.inr (.inr (.inr (.inr i)))))
  invFun
    | .inl (strict, p) => .commutes strict p
    | .inr (.inl (strict, i, j)) => .commutesWith strict i j
    | .inr (.inr (.inl i)) => .nullAfter i
    | .inr (.inr (.inr (.inl i))) => .nullBefore i
    | .inr (.inr (.inr (.inr (.inl i)))) => .selfCast i
    | .inr (.inr (.inr (.inr (.inr (.inl i))))) => .probe i
    | .inr (.inr (.inr (.inr (.inr (.inr i))))) => .roundTrip i
  left_inv l := by cases l <;> rfl
  right_inv s := by rcases s with _ | _ | _ | _ | _ | _ | _ <;> rfl

instance : Fintype (LawInstance n k) :=
  Fintype.ofEquiv _ (sumEquiv n k).symm

end LawInstance

open Classical in
/-- One if a law does not hold, and nothing if it does. -/
noncomputable def cost (p : Prop) : ℕ :=
  if p then 0 else 1

lemma cost_of {p : Prop} (h : p) : cost p = 0 :=
  if_pos h

lemma cost_of_not {p : Prop} (h : ¬ p) : cost p = 1 :=
  if_neg h

/-- The violated instances are those of each law together. -/
theorem LawInstance.ncard_not_holds (p : LawInstance n k → Prop) :
    {l | ¬ p l}.ncard = (∑ q : Sym2 (Fin n), ∑ strict, cost (p (.commutes strict q))) +
      ∑ i, ((∑ j, ∑ strict, cost (p (.commutesWith strict i j))) +
        (cost (p (.nullAfter i)) + cost (p (.nullBefore i))) +
        (cost (p (.selfCast i)) + cost (p (.probe i)) + cost (p (.roundTrip i)))) := by
  classical
  have hcost : ∀ l, (if ¬ p l then 1 else 0) = cost (p l) := by
    intro l
    by_cases h : p l
    · rw [cost_of h, if_neg (not_not.2 h)]
    · rw [cost_of_not h, if_pos h]
  have hcount : {l | ¬ p l}.ncard = ∑ l, cost (p l) := by
    rw [Set.ncard_eq_toFinset_card', Set.toFinset_ofPred, Finset.card_filter]
    exact Finset.sum_congr rfl fun l _ => hcost l
  rw [hcount, ← Equiv.sum_comp (sumEquiv n k).symm fun l => cost (p l)]
  simp only [sumEquiv, Equiv.coe_fn_symm_mk, Fintype.sum_sum_type, Fintype.sum_prod_type, Fintype.sum_bool,
    Finset.sum_add_distrib]
  ring

/-- What is added up over the pairs of places in a list is added up over the pairs of its elements. -/
lemma sum_places {α : Type} (xs : List α) (f : Sym2 α → ℕ) :
    ∑ q : Sym2 (Fin xs.length), f (q.map xs.get) = (xs.sym2.map f).sum := by
  have hall : (Finset.univ : Finset (Sym2 (Fin xs.length))) = (List.finRange xs.length).sym2.toFinset := by
    ext q
    simp [List.mem_sym2_iff]
  have hplaces : xs.sym2 = (List.finRange xs.length).sym2.map (Sym2.map xs.get) := by
    rw [← List.sym2_map, List.map_get_finRange]
  rw [hall, List.sum_toFinset _ (List.nodup_finRange _).sym2, hplaces, List.map_map]
  rfl

end Coercion
