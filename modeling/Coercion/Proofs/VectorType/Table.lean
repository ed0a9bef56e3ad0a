import Coercion.VectorType.Table
import Coercion.Proofs.Traversal
import Coercion.Proofs.Value.Equality

/-!
The table of types stays consistent. A candidate is accepted if and only if it is a class of types with a tag none of
whose names is taken; what is refused changes nothing. So after any offers the table holds what the accepted classes
declare and nothing else: every kind and every name stands for the one class that declared it, whatever is offered
later.
-/

namespace Coercion

/-! ### Names -/

namespace Alias

lemma same_self (a : Alias) : a.same a = true := by
  cases a with
  | value v hashable self => exact self
  | valueClass name => simp [same]
  | object quoted number => simp [same]

lemma same_symm {a b : Alias} (h : a.same b = true) : b.same a = true := by
  revert h
  fun_cases same a b with
  | case1 v _ _ w => exact Value.same_symm
  | case2 m n => simpa only [same, beq_iff_eq] using Eq.symm
  | case3 p m q n =>
    simp only [same, Bool.and_eq_true, beq_iff_eq]
    exact And.imp Eq.symm Eq.symm
  | case4 => simp

lemma same_trans {a b c : Alias} (hab : a.same b = true) (hbc : b.same c = true) : a.same c = true := by
  revert hab hbc
  fun_cases same a b with
  | case1 v _ _ w =>
    cases c with
    | value x hashable self => exact Value.same_trans
    | _ => simp [same]
  | case2 m n =>
    simp only [beq_iff_eq]
    intro h
    exact h ▸ id
  | case3 p m q n =>
    simp only [Bool.and_eq_true, beq_iff_eq]
    rintro ⟨rfl, rfl⟩
    exact id
  | case4 => simp

instance : EquivBEq Alias where
  rfl := same_self _
  symm := same_symm
  trans := same_trans

end Alias

/-- Leaving out repeated names leaves out none of them. -/
lemma any_eraseDups {κ : Type} [BEq κ] [PartialEquivBEq κ] (names : List κ) (a : κ) :
    (names.eraseDups.any fun n => n == a) = names.any fun n => n == a := by
  cases names with
  | nil => rfl
  | cons n names =>
    rw [List.eraseDups_cons, List.any_cons, List.any_cons, any_eraseDups (names.filter fun m => !m == n) a,
      List.any_filter]
    cases hn : n == a with
    | true => rfl
    | false =>
      -- what is equal to `a` is not equal to `n`, and so not left out
      have hkept : ∀ m : κ, (m == a) = true → (m == n) = false := by
        intro m hm
        exact BEq.neq_of_beq_of_neq hm (BEq.symm_false hn)
      rw [Bool.false_or, Bool.false_or]
      refine List.any_congr rfl fun m => ?_
      cases hm : m == a with
      | true => simp [hkept m hm]
      | false => simp
termination_by names.length
decreasing_by exact Nat.lt_succ_of_le (List.length_filter_le _ _)

namespace TypeTable

/-! ### Entries -/

section Entries

variable {κ : Type} [BEq κ]

lemma under_cons (entry : κ × VectorType) (entries : List (κ × VectorType)) (k : κ) :
    under (entry :: entries) k = if entry.1 == k then some entry.2 else under entries k := by
  rw [under, under, List.find?_cons]
  cases entry.1 == k <;> rfl

variable [PartialEquivBEq κ]

lemma under_put (key : κ) (type : VectorType) (entries : List (κ × VectorType)) (k : κ) :
    under (put key type entries) k = if key == k then some type else under entries k := by
  induction entries with
  | nil => rw [put, under_cons]
  | cons entry entries ih =>
    rw [put, under_cons]
    cases hkey : entry.1 == key with
    | true =>
      rw [if_pos rfl, under_cons, BEq.congr_left hkey]
      split_ifs <;> rfl
    | false =>
      rw [if_neg Bool.false_ne_true, under_cons, ih]
      cases hk : entry.1 == k with
      | true =>
        -- no entry is under both of two keys that differ
        rw [BEq.neq_of_neq_of_beq (BEq.symm_false hkey) hk]
        rfl
      | false => rfl

lemma under_foldl_put (type : VectorType) (keys : List κ) (entries : List (κ × VectorType)) (k : κ) :
    under (keys.foldl (fun entries key => put key type entries) entries) k =
      if keys.any fun key => key == k then some type else under entries k := by
  induction keys generalizing entries with
  | nil => rfl
  | cons key keys ih =>
    rw [List.foldl_cons, ih, under_put, List.any_cons]
    cases key == k <;> cases keys.any fun key => key == k <;> rfl

end Entries

end TypeTable

/-! ### What a class of types declares -/

/-- The kind of a class of types, all its names, and the type that they stand for. -/
structure Declaration where
  kind : String
  names : List Alias
  type : VectorType

/-- Whether a name is among those that a class declares. -/
def Declaration.Declares (d : Declaration) (a : Alias) : Prop :=
  ∃ n ∈ d.names, (n == a) = true

/-- What a candidate declares, if it is a class of types with a tag. The tag is one of the names. -/
def Candidate.declaration? : Candidate → Option Declaration
  | .kind _ (.name tag) aliases type => if tag.isEmpty then none else some ⟨tag, aliases ++ [.word tag], type⟩
  | _ => none

lemma Candidate.eq_of_declaration? {c : Candidate} {d : Declaration} (h : c.declaration? = some d) :
    ∃ className aliases, d.kind.isEmpty = false ∧ d.names = aliases ++ [.word d.kind] ∧
      c = .kind className (.name d.kind) aliases d.type := by
  revert h
  fun_cases Candidate.declaration? c with
  | case1 => simp
  | case2 className tag aliases type hempty =>
    rintro ⟨⟩
    exact ⟨className, aliases, Bool.not_eq_true _ ▸ hempty, rfl, rfl⟩
  | case3 => simp

/-- The tag of a class is one of its names. -/
lemma Declaration.kind_mem {c : Candidate} {d : Declaration} (h : c.declaration? = some d) : .word d.kind ∈ d.names := by
  obtain ⟨-, aliases, -, hnames, -⟩ := Candidate.eq_of_declaration? h
  rw [hnames]
  simp

namespace TypeTable

set_option maxRecDepth 8000 in
/-- The standard kinds are entered under all their names. -/
lemma aliases_standard : standard.aliases =
    standardCandidates.flatMap fun c => c.declaration?.toList.flatMap fun d => d.names.map fun n => (n, d.type) := by
  rfl

variable {table : TypeTable} {c : Candidate} {d : Declaration}

/-! ### What an offer comes to -/

/-- The table with what a class declares. -/
def declaring (table : TypeTable) (d : Declaration) : TypeTable :=
  ⟨put d.kind d.type table.kinds, d.names.eraseDups.foldl (fun entries name => put name d.type entries) table.aliases⟩

lemma kind?_declaring (table : TypeTable) (d : Declaration) (kind : String) :
    (table.declaring d).kind? kind = if d.kind == kind then some d.type else table.kind? kind :=
  under_put d.kind d.type table.kinds kind

lemma find?_declaring (table : TypeTable) (d : Declaration) (a : Alias) :
    (table.declaring d).find? a = if d.names.any fun n => n == a then some d.type else table.find? a := by
  rw [← any_eraseDups]
  exact under_foldl_put d.type d.names.eraseDups table.aliases a

lemma run_enterNames (type : VectorType) (names : List Alias) (table : TypeTable) :
    (names.forM (Enrolment.enterName type)).run table =
      (.ok (), ⟨table.kinds, names.foldl (fun entries name => put name type entries) table.aliases⟩) := by
  induction names generalizing table with
  | nil => rfl
  | cons name names ih => exact ih _

/-- Whether what a class declares is free: neither its kind nor any of its names has been entered. -/
structure IsFree (table : TypeTable) (d : Declaration) : Prop where
  kind : table.kind? d.kind = none
  names : ∀ a ∈ d.names, table.find? a = none

/-- Equal names stand for the same type. -/
lemma find?_congr (table : TypeTable) {a b : Alias} (h : (a == b) = true) : table.find? a = table.find? b := by
  have hpred : (fun entry : Alias × VectorType => entry.1 == a) = fun entry => entry.1 == b :=
    funext fun entry => BEq.congr_right h
  rw [find?, find?, under, under, hpred]

lemma isEmpty_taken_iff (table : TypeTable) (names : List Alias) :
    (names.eraseDups.filter fun a => (table.find? a).isSome).isEmpty = true ↔ ∀ a ∈ names, table.find? a = none := by
  -- a member of one of the two lists is equal to a member of the other
  have hmoved : ∀ {l m : List Alias}, (∀ a, (l.any fun n => n == a) = m.any fun n => n == a) →
      (∀ a ∈ l, table.find? a = none) → ∀ a ∈ m, table.find? a = none := by
    intro l m hsame hl a ha
    have hany : (l.any fun n => n == a) = true := (hsame a).trans (List.any_eq_true.2 ⟨a, ha, BEq.rfl⟩)
    obtain ⟨b, hb, hba⟩ := List.any_eq_true.1 hany
    rw [← table.find?_congr hba, hl b hb]
  have hfree : (names.eraseDups.filter fun a => (table.find? a).isSome).isEmpty = true ↔
      ∀ a ∈ names.eraseDups, table.find? a = none := by
    simp [List.filter_eq_nil_iff]
  rw [hfree]
  exact ⟨hmoved (any_eraseDups names), hmoved fun a => (any_eraseDups names a).symm⟩

lemma offer_of_declaration?_eq_none (h : c.declaration? = none) : ∃ f, table.offer c = (.error f, table) := by
  revert h
  fun_cases Candidate.declaration? c with
  | case1 className tag aliases type hempty =>
    intro
    refine ⟨.kindWithoutName className, ?_⟩
    rw [offer, Enrolment.add, if_pos hempty]
    rfl
  | case2 => simp
  | case3 c hnot =>
    intro
    cases c with
    | other display => exact ⟨_, rfl⟩
    | kind className tag aliases type =>
      cases tag with
      | other quoted name => exact ⟨_, rfl⟩
      | name tag => exact absurd rfl (hnot className tag aliases type)

lemma offer_of_isFree (hd : c.declaration? = some d) (hfree : table.IsFree d) :
    table.offer c = (.ok (), table.declaring d) := by
  obtain ⟨className, aliases, hempty, hnames, rfl⟩ := Candidate.eq_of_declaration? hd
  have hkind : ¬ (table.kind? d.kind).isSome = true := by simp [hfree.kind]
  have htaken := (isEmpty_taken_iff table d.names).2 hfree.names
  rw [offer, Enrolment.add, if_neg (by simp [hempty]), run_get_bind, if_neg hkind, ← hnames]
  simp only [htaken, if_true]
  exact run_enterNames d.type _ _

lemma offer_of_not_isFree (hd : c.declaration? = some d) (htaken : ¬ table.IsFree d) :
    ∃ f, table.offer c = (.error f, table) := by
  obtain ⟨className, aliases, hempty, hnames, rfl⟩ := Candidate.eq_of_declaration? hd
  rw [offer, Enrolment.add, if_neg (by simp [hempty]), run_get_bind, ← hnames]
  by_cases hkind : (table.kind? d.kind).isSome = true
  · rw [if_pos hkind]
    exact ⟨_, rfl⟩
  · rw [if_neg hkind]
    have hnames : ¬ (d.names.eraseDups.filter fun a => (table.find? a).isSome).isEmpty = true := by
      intro hempty
      exact htaken ⟨by simpa using hkind, (isEmpty_taken_iff table d.names).1 hempty⟩
    simp only [hnames]
    exact ⟨_, rfl⟩

/-- **What an offer comes to.** A class of types whose names are free is entered, and anything else is refused, which
leaves the table as it is. -/
theorem offer_cases (table : TypeTable) (c : Candidate) :
    (∃ d, c.declaration? = some d ∧ table.IsFree d ∧ table.offer c = (.ok (), table.declaring d)) ∨
      (∀ d, c.declaration? = some d → ¬ table.IsFree d) ∧ ∃ f, table.offer c = (.error f, table) := by
  cases hd : c.declaration? with
  | none => exact Or.inr ⟨by simp, offer_of_declaration?_eq_none hd⟩
  | some d =>
    by_cases hfree : table.IsFree d
    · exact Or.inl ⟨d, rfl, hfree, offer_of_isFree hd hfree⟩
    · exact Or.inr ⟨by simpa using hfree, offer_of_not_isFree hd hfree⟩

/-! ### What has been declared -/

/-- What the accepted ones among some candidates declare, in the order in which they are offered. -/
def declared (table : TypeTable) : List Candidate → List Declaration
  | [] => []
  | c :: cs =>
    match table.offer c with
    | (.ok _, next) => c.declaration?.toList ++ next.declared cs
    | (.error _, next) => next.declared cs

/-- Whether a table holds what some classes declare and nothing else. -/
structure Records (table : TypeTable) (ds : List Declaration) : Prop where
  kind?_eq_some_iff : ∀ kind t, table.kind? kind = some t ↔ ∃ d ∈ ds, d.kind = kind ∧ d.type = t
  find?_eq_some_iff : ∀ a t, table.find? a = some t ↔ ∃ d ∈ ds, d.Declares a ∧ d.type = t
  /-- Each kind is a name of its own class. -/
  tagged : ∀ d ∈ ds, d.Declares (.word d.kind)
  /-- No two classes declare a name. -/
  apart : ds.Pairwise fun d e => ∀ a, d.Declares a → ¬ e.Declares a

namespace Records

variable {ds : List Declaration}

lemma empty : Records TypeTable.empty [] where
  kind?_eq_some_iff _ _ := by simp [TypeTable.empty, kind?, under]
  find?_eq_some_iff _ _ := by simp [TypeTable.empty, find?, under]
  tagged _ hd := by cases hd
  apart := .nil

/-- A kind that is entered is entered as a name as well. -/
lemma find?_word (h : table.Records ds) {kind : String} {t : VectorType} (hkind : table.kind? kind = some t) :
    table.find? (.word kind) = some t := by
  obtain ⟨d, hd, rfl, rfl⟩ := (h.kind?_eq_some_iff _ _).1 hkind
  exact (h.find?_eq_some_iff _ _).2 ⟨d, hd, h.tagged d hd, rfl⟩

/-- A class whose names are free declares none that has been declared before. -/
lemma not_declares (h : table.Records ds) (hfree : table.IsFree d) {e : Declaration} (he : e ∈ ds) {a : Alias}
    (hea : e.Declares a) : ¬ d.Declares a := by
  rintro ⟨n, hn, hna⟩
  have hfound := (h.find?_eq_some_iff a e.type).2 ⟨e, he, hea, rfl⟩
  rw [← table.find?_congr hna, hfree.names n hn] at hfound
  cases hfound

/-- What is found under a key when one class more has been entered: its type, if the key is its own, and what was
found before if not. -/
lemma eq_some_iff_of_append {P : Declaration → Prop} [DecidablePred P] {found : Option VectorType}
    (hfound : ∀ t, found = some t ↔ ∃ e ∈ ds, P e ∧ e.type = t) (hnew : P d → ∀ e ∈ ds, ¬ P e) (t : VectorType) :
    (if P d then some d.type else found) = some t ↔ ∃ e ∈ ds ++ [d], P e ∧ e.type = t := by
  simp only [List.mem_append, List.mem_singleton, or_and_right, exists_or, exists_eq_left]
  by_cases hd : P d
  · have hnone : ¬ ∃ e ∈ ds, P e ∧ e.type = t := by
      rintro ⟨e, he, hPe, -⟩
      exact hnew hd e he hPe
    simp [hd, hnone]
  · simp [hd, hfound]

/-- One class more. -/
theorem declaring (h : table.Records ds) (hfree : table.IsFree d) (htag : .word d.kind ∈ d.names) :
    (table.declaring d).Records (ds ++ [d]) where
  kind?_eq_some_iff kind t := by
    have hiff : ∀ e : Declaration, e.kind = kind ↔ (e.kind == kind) = true := by
      intro e
      exact beq_iff_eq.symm
    have hold := h.kind?_eq_some_iff kind
    have hnew : d.kind = kind → ∀ e ∈ ds, ¬ e.kind = kind := by
      intro hd e he hekind
      have hfound := (hold e.type).2 ⟨e, he, hekind, rfl⟩
      rw [← hd, hfree.kind] at hfound
      cases hfound
    simp only [hiff] at hold hnew ⊢
    rw [kind?_declaring]
    exact eq_some_iff_of_append hold hnew t
  find?_eq_some_iff a t := by
    have hiff : ∀ e : Declaration, e.Declares a ↔ (e.names.any fun n => n == a) = true := by
      intro e
      exact List.any_eq_true.symm
    have hold := h.find?_eq_some_iff a
    have hnew : d.Declares a → ∀ e ∈ ds, ¬ e.Declares a := by
      intro hd e he hea
      exact h.not_declares hfree he hea hd
    simp only [hiff] at hold hnew ⊢
    rw [find?_declaring]
    exact eq_some_iff_of_append hold hnew t
  tagged e he := by
    rcases List.mem_append.1 he with he | he
    · exact h.tagged e he
    · rw [List.mem_singleton.1 he]
      exact ⟨_, htag, BEq.rfl⟩
  apart := by
    rw [List.pairwise_append]
    refine ⟨h.apart, List.pairwise_singleton _ _, ?_⟩
    intro e he e' he' a ha
    rw [List.mem_singleton.1 he']
    exact h.not_declares hfree he ha

/-- **A table holds what the accepted candidates declare.** -/
theorem after (h : table.Records ds) (cs : List Candidate) : (table.after cs).Records (ds ++ table.declared cs) := by
  induction cs generalizing table ds with
  | nil => simpa [TypeTable.after, declared] using h
  | cons c cs ih =>
    rw [TypeTable.after, List.foldl_cons, declared]
    rcases table.offer_cases c with ⟨d, hd, hfree, hoffer⟩ | ⟨-, f, hoffer⟩
    · rw [hoffer, hd]
      have hnext := ih (h.declaring hfree (Declaration.kind_mem hd))
      rwa [List.append_assoc] at hnext
    · rw [hoffer]
      exact ih h

end Records

/-- The table after some offers to an empty one holds what the accepted ones declare. -/
lemma records_after (cs : List Candidate) : (empty.after cs).Records (empty.declared cs) :=
  Records.empty.after cs

lemma after_append (cs more : List Candidate) : empty.after (cs ++ more) = (empty.after cs).after more :=
  List.foldl_append

/-! ### Consistency -/

/-- Whether a name is taken, as a kind or as a name of one. -/
def Takes (table : TypeTable) (a : Alias) : Prop :=
  (∃ kind, (Alias.word kind == a) = true ∧ (table.kind? kind).isSome = true) ∨ (table.find? a).isSome = true

/-- In a table that holds what some classes declare, the names of a class are free if none of them is taken. -/
lemma Records.isFree_iff {ds : List Declaration} (h : table.Records ds) (hd : c.declaration? = some d) :
    table.IsFree d ↔ ∀ a ∈ d.names, ¬ table.Takes a := by
  constructor
  · rintro hfree a ha (⟨kind, hkind, hsome⟩ | hsome)
    · obtain ⟨t, ht⟩ := Option.isSome_iff_exists.1 hsome
      have hfound := h.find?_word ht
      rw [table.find?_congr hkind, hfree.names a ha] at hfound
      cases hfound
    · rw [hfree.names a ha] at hsome
      cases hsome
  · intro hnot
    constructor
    · have htag := hnot _ (Declaration.kind_mem hd)
      rw [← Option.not_isSome_iff_eq_none]
      intro hsome
      exact htag (Or.inl ⟨d.kind, BEq.rfl, hsome⟩)
    · intro a ha
      rw [← Option.not_isSome_iff_eq_none]
      intro hsome
      exact hnot a ha (Or.inr hsome)

/-- A candidate is accepted if and only if it is a class of types with a tag, and none of its names is taken. -/
lemma Records.accepts_iff {ds : List Declaration} (h : table.Records ds) (c : Candidate) :
    (table.offer c).1 = .ok () ↔ ∃ d, c.declaration? = some d ∧ ∀ a ∈ d.names, ¬ table.Takes a := by
  rcases table.offer_cases c with ⟨d, hd, hfree, hoffer⟩ | ⟨hnot, f, hoffer⟩
  · rw [hoffer]
    exact ⟨fun _ => ⟨d, hd, (h.isFree_iff hd).1 hfree⟩, fun _ => rfl⟩
  · rw [hoffer]
    constructor
    · intro hok
      cases hok
    · rintro ⟨d, hd, hfree⟩
      exact absurd ((h.isFree_iff hd).2 hfree) (hnot d hd)

/-- What is refused changes nothing. -/
lemma offer_unchanged {f : Failure} (hf : (table.offer c).1 = .error f) : (table.offer c).2 = table := by
  rcases table.offer_cases c with ⟨d, -, -, hoffer⟩ | ⟨-, g, hoffer⟩
  · rw [hoffer] at hf
    cases hf
  · rw [hoffer]

/-- What is found stays found when more classes have been entered. -/
lemma Records.kept {ds es : List Declaration} {next : TypeTable} (h : table.Records ds) (hnext : next.Records (ds ++ es))
    {t : VectorType} : (∀ kind, table.kind? kind = some t → next.kind? kind = some t) ∧
      ∀ a, table.find? a = some t → next.find? a = some t := by
  constructor
  · intro kind hkind
    obtain ⟨d, hd, hdkind⟩ := (h.kind?_eq_some_iff kind t).1 hkind
    exact (hnext.kind?_eq_some_iff kind t).2 ⟨d, List.mem_append_left es hd, hdkind⟩
  · intro a ha
    obtain ⟨d, hd, hda⟩ := (h.find?_eq_some_iff a t).1 ha
    exact (hnext.find?_eq_some_iff a t).2 ⟨d, List.mem_append_left es hd, hda⟩

/-- Whether the table that some offers lead to is consistent, and stays so. -/
structure Consistent (cs : List Candidate) : Prop where
  /-- A candidate is accepted if and only if it is a class of types with a tag, and none of its names, the tag
  included, is taken. -/
  accepts_iff : ∀ c, ((empty.after cs).offer c).1 = .ok () ↔
    ∃ d, c.declaration? = some d ∧ ∀ a ∈ d.names, ¬ (empty.after cs).Takes a
  /-- What is refused changes nothing. -/
  unchanged : ∀ c f, ((empty.after cs).offer c).1 = .error f → ((empty.after cs).offer c).2 = empty.after cs
  /-- Each kind stands for the class that declared it, and is one of its names. -/
  kinds : ∀ kind t, (empty.after cs).kind? kind = some t ↔ ∃ d ∈ empty.declared cs, d.kind = kind ∧ d.type = t
  tagged : ∀ kind t, (empty.after cs).kind? kind = some t → (empty.after cs).find? (.word kind) = some t
  /-- Each name stands for the class that declared it, and no two classes declared a name. -/
  names : ∀ a t, (empty.after cs).find? a = some t ↔ ∃ d ∈ empty.declared cs, d.Declares a ∧ d.type = t
  apart : (empty.declared cs).Pairwise fun d e => ∀ a, d.Declares a → ¬ e.Declares a
  /-- Whatever is offered later, no kind and no name comes to stand for anything else. -/
  kindKept : ∀ more kind t, (empty.after cs).kind? kind = some t → (empty.after (cs ++ more)).kind? kind = some t
  nameKept : ∀ more a t, (empty.after cs).find? a = some t → (empty.after (cs ++ more)).find? a = some t

/-- **The table of types stays consistent**, whatever is offered for registration and in whatever order. -/
theorem isConsistent (cs : List Candidate) : Consistent cs := by
  have hrecords := records_after cs
  have hlater : ∀ more, (empty.after (cs ++ more)).Records (empty.declared cs ++ (empty.after cs).declared more) := by
    intro more
    exact after_append cs more ▸ hrecords.after more
  constructor
  case accepts_iff => exact hrecords.accepts_iff
  case unchanged => exact fun c f => offer_unchanged
  case kinds => exact hrecords.kind?_eq_some_iff
  case tagged => exact fun kind t => hrecords.find?_word
  case names => exact hrecords.find?_eq_some_iff
  case apart => exact hrecords.apart
  case kindKept => exact fun more kind t => (hrecords.kept (hlater more)).1 kind
  case nameKept => exact fun more a t => (hrecords.kept (hlater more)).2 a

/-- Numbers are names as well, and equal numbers are one name however they are written. -/
example :
    ((empty.after [.kind "One" (.name "one") [.value (.int 1) rfl rfl] .integer]).offer
      (.kind "True" (.name "true") [.value (.bool true) rfl rfl] .logical)).1 = .error (.aliasesTaken ["True"]) :=
  rfl

end TypeTable

end Coercion
