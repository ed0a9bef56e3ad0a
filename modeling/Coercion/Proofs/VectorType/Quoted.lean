import Coercion.Proofs.Traversal
import Coercion.Proofs.VectorType.Specifier
import Mathlib.Tactic

/-!
Arguments between quotes. Quotes protect what stands between them, but only if the first one is the first character of
its token. Behind a bare comma it is, so every list of texts can be written in quotes that do not occur in them. Where a
blank follows the comma the token begins with that blank: the quotes are still taken off once the blank is trimmed, but
a comma between them ends the token. So exactly those texts are lost that have a comma in them and a blank before them.
-/

namespace Coercion

open Text

namespace Specifier

variable {quote : Char} {cs ds : List Char} {css tss : List (List Char)}

/-- Characters between quotes. -/
def inQuotes (quote : Char) (cs : List Char) : List Char :=
  quote :: (cs ++ [quote])

/-- The arguments after the first one, between quotes and behind separators. -/
def furtherArguments (separator : List Char) (quote : Char) (css : List (List Char)) : List Char :=
  css.flatMap fun cs => separator ++ inQuotes quote cs

/-- What tokens stand for. -/
def read (tss : List (List Char)) : List String :=
  ((tss.map fun ts => String.ofList (trim ts)).filter fun t => !t.isEmpty).map stripQuotes

/-- The two quotes. -/
inductive IsQuote : Char → Prop where
  | single : IsQuote '\''
  | double : IsQuote '"'

lemma IsQuote.mem (h : IsQuote quote) : quote = '\'' ∨ quote = '"' := by
  cases h
  · exact Or.inl rfl
  · exact Or.inr rfl

lemma IsQuote.not_blank (h : IsQuote quote) : isBlank quote = false := by
  cases h <;> decide

lemma IsQuote.ne_comma (h : IsQuote quote) : quote ≠ ',' := by
  cases h <;> decide

lemma intercalate_inQuotes (separator cs : List Char) (css : List (List Char)) :
    separator.intercalate ((cs :: css).map (inQuotes quote)) =
      inQuotes quote cs ++ furtherArguments separator quote css := by
  induction css generalizing cs with
  | nil => simp [furtherArguments]
  | cons ds css ih =>
    have hcons : separator.intercalate ((cs :: ds :: css).map (inQuotes quote)) =
        inQuotes quote cs ++ (separator ++ separator.intercalate ((ds :: css).map (inQuotes quote))) := by
      simp [List.intercalate]
    rw [hcons, ih, furtherArguments, furtherArguments, List.flatMap_cons, List.append_assoc]

/-! ### Tokens -/

lemma closeQuote?_append (h : quote ∉ cs) (rest : List Char) :
    closeQuote? quote (cs ++ quote :: rest) = some (cs, rest) := by
  induction cs with
  | nil => simp [closeQuote?]
  | cons c cs ih =>
    obtain ⟨hc, hcs⟩ := not_or.1 (List.mem_cons.not.1 h)
    rw [List.cons_append, closeQuote?, if_neg (Ne.symm hc), ih hcs]
    rfl

/-- A quote at the start of a token protects all up to the next one. -/
lemma tokens_inQuotes (hquote : IsQuote quote) (h : quote ∉ cs) (rest : List Char) :
    tokens (inQuotes quote cs ++ rest) = inQuotes quote cs :: tokens rest := by
  have hspelled : inQuotes quote cs ++ rest = quote :: (cs ++ quote :: rest) := by simp [inQuotes]
  rw [hspelled, tokens, if_neg hquote.ne_comma, if_pos hquote.mem]
  split
  · next inside after hclosed =>
    rw [closeQuote?_append h] at hclosed
    cases hclosed
    rfl
  · next hopen =>
    rw [closeQuote?_append h] at hopen
    cases hopen

/-- Behind bare commas every argument is a token. -/
lemma tokens_commas (hquote : IsQuote quote) (h : ∀ cs ∈ css, quote ∉ cs) :
    tokens (furtherArguments [','] quote css) = css.map (inQuotes quote) := by
  induction css with
  | nil => rw [furtherArguments, List.flatMap_nil, tokens, List.map_nil]
  | cons cs css ih =>
    rw [furtherArguments, List.flatMap_cons, List.append_assoc, List.singleton_append, tokens_comma,
      tokens_inQuotes hquote (h cs (by simp))]
    exact congrArg _ (ih fun ds hds => h ds (by simp [hds]))

/-- Arguments behind blanks begin with a comma, if there are any. -/
lemma split_furtherArguments (quote : Char) (css : List (List Char)) :
    beforeComma (furtherArguments [',', ' '] quote css) = [] ∧
      fromComma (furtherArguments [',', ' '] quote css) = furtherArguments [',', ' '] quote css := by
  cases css <;> simp [furtherArguments, beforeComma, fromComma]

lemma tokens_further_cons (cs : List Char) (css : List (List Char)) :
    tokens (furtherArguments [',', ' '] quote (cs :: css)) =
      (' ' :: beforeComma (inQuotes quote cs ++ furtherArguments [',', ' '] quote css)) ::
        tokens (fromComma (inQuotes quote cs ++ furtherArguments [',', ' '] quote css)) := by
  change tokens (',' :: ' ' :: (inQuotes quote cs ++ furtherArguments [',', ' '] quote css)) = _
  rw [tokens_comma, tokens_cons (by decide) (by decide)]

/-- Behind a blank, an argument without commas is a token with the blank. -/
lemma tokens_blank (hquote : IsQuote quote) (hcomma : ',' ∉ cs) (css : List (List Char)) :
    tokens (furtherArguments [',', ' '] quote (cs :: css)) =
      (' ' :: inQuotes quote cs) :: tokens (furtherArguments [',', ' '] quote css) := by
  have hnot : ',' ∉ inQuotes quote cs := by simp [inQuotes, hcomma, hquote.ne_comma.symm]
  obtain ⟨hbefore, hfrom⟩ := split_furtherArguments quote css
  rw [tokens_further_cons, beforeComma_append hnot, fromComma_append hnot, hbefore, hfrom, List.append_nil]

/-- Behind a blank, the first comma of an argument ends its token. -/
lemma tokens_blank_comma (hquote : IsQuote quote) (hcomma : ',' ∉ cs) (ds : List Char) (css : List (List Char)) :
    ∃ tss, tokens (furtherArguments [',', ' '] quote ((cs ++ ',' :: ds) :: css)) = (' ' :: quote :: cs) :: tss := by
  have hnot : ',' ∉ quote :: cs := by simp [hcomma, hquote.ne_comma.symm]
  have hspelled : inQuotes quote (cs ++ ',' :: ds) ++ furtherArguments [',', ' '] quote css =
      quote :: cs ++ ',' :: (ds ++ quote :: furtherArguments [',', ' '] quote css) := by
    simp [inQuotes]
  have hstop (rest : List Char) : beforeComma (',' :: rest) = [] := by simp [beforeComma]
  rw [tokens_further_cons, hspelled, beforeComma_append hnot, hstop, List.append_nil]
  exact ⟨_, rfl⟩

/-! ### What is read -/

lemma trimRight_cons {c : Char} (h : isBlank c = false) (cs : List Char) : trimRight (c :: cs) = c :: trimRight cs := by
  rw [trimRight, trimRight, List.reverse_cons, List.dropWhile_append]
  split
  · next hempty =>
    rw [List.isEmpty_iff.1 hempty, List.dropWhile_cons_of_neg (by simp [h])]
    rfl
  · rw [List.reverse_append]
    rfl

lemma trim_blank (cs : List Char) : trim (' ' :: cs) = trim cs := by
  rw [trim, trim]
  exact congrArg trimRight (List.dropWhile_cons_of_pos (by decide))

lemma trim_inQuotes (hquote : IsQuote quote) (cs : List Char) : trim (inQuotes quote cs) = inQuotes quote cs := by
  rw [trim, trimLeft_of_head, trimRight_of_getLast]
  · simp [inQuotes, hquote.not_blank, List.getLast?_cons]
  · simp [inQuotes, hquote.not_blank]

lemma trim_quote (hquote : IsQuote quote) (cs : List Char) : trim (quote :: cs) = quote :: trimRight cs := by
  rw [trim, trimLeft_of_head (by simp [hquote.not_blank]), trimRight_cons hquote.not_blank]

lemma stripQuotes_inQuotes (hquote : IsQuote quote) (cs : List Char) :
    stripQuotes (String.ofList (inQuotes quote cs)) = String.ofList cs := by
  rw [stripQuotes, String.toList_ofList]
  simp [inQuotes, hquote.mem]

/-- A quote that nothing closes is not taken off. -/
lemma stripQuotes_open (h : quote ∉ cs) :
    stripQuotes (String.ofList (quote :: cs)) = String.ofList (quote :: cs) := by
  have hlast : cs.getLast? ≠ some quote := by
    intro hlast
    exact h (List.mem_of_getLast? hlast)
  rw [stripQuotes, String.toList_ofList]
  simp [hlast]

lemma read_cons (h : trim cs ≠ []) (tss : List (List Char)) :
    read (cs :: tss) = stripQuotes (String.ofList (trim cs)) :: read tss := by
  simp [read, h]

lemma read_inQuotes (hquote : IsQuote quote) (h : trim ds = inQuotes quote cs) (tss : List (List Char)) :
    read (ds :: tss) = String.ofList cs :: read tss := by
  rw [read_cons (by simp [h, inQuotes]), h, stripQuotes_inQuotes hquote]

/-- Tokens between quotes stand for what is between them. -/
lemma read_map_inQuotes (hquote : IsQuote quote) (css : List (List Char)) :
    read (css.map (inQuotes quote)) = css.map String.ofList := by
  induction css with
  | nil => rfl
  | cons cs css ih => rw [List.map_cons, read_inQuotes hquote (trim_inQuotes hquote cs), ih, List.map_cons]

/-- **Arguments behind blanks.** They are read as they were written if and only if none of them has a comma in it. -/
theorem read_blanks_iff (hquote : IsQuote quote) (h : ∀ cs ∈ css, quote ∉ cs) :
    read (tokens (furtherArguments [',', ' '] quote css)) = css.map String.ofList ↔ ∀ cs ∈ css, ',' ∉ cs := by
  induction css with
  | nil =>
    rw [furtherArguments, List.flatMap_nil, tokens]
    simp [read]
  | cons cs css ih =>
    by_cases hcomma : ',' ∈ cs
    · -- the token ends at the comma and keeps its quote, which the argument does not have
      refine iff_of_false ?_ fun hnone => hnone cs (by simp) hcomma
      intro hread
      obtain ⟨ds, es, rfl, hds⟩ := List.eq_append_cons_of_mem hcomma
      obtain ⟨tss, htokens⟩ := tokens_blank_comma hquote hds es css
      have hquoteless : quote ∉ ds ++ ',' :: es := h _ (by simp)
      have hopen : quote ∉ trimRight ds := by
        intro hmem
        rw [trimRight, List.mem_reverse] at hmem
        have hds' := (List.dropWhile_sublist _).mem hmem
        exact hquoteless (List.mem_append_left _ (List.mem_reverse.1 hds'))
      rw [htokens, read_cons (by simp [trim_blank, trim_quote hquote]), trim_blank, trim_quote hquote,
        stripQuotes_open hopen, List.map_cons] at hread
      have hsame := String.ofList_injective (List.cons.inj hread).1
      exact hquoteless (hsame ▸ List.mem_cons_self)
    · have htrim : trim (' ' :: inQuotes quote cs) = inQuotes quote cs := by
        rw [trim_blank, trim_inQuotes hquote]
      rw [tokens_blank hquote hcomma, read_inQuotes hquote htrim, List.map_cons, List.cons_inj_right,
        ih fun ds hds => h ds (by simp [hds])]
      simp [hcomma]

/-! ### Quoted levels -/

/-- A text between quotes. -/
def enquoted (quote : Char) (s : String) : String :=
  String.ofList (inQuotes quote s.toList)

/-- Texts between quotes, one after the other. -/
def enquotedList (quote : Char) (separator : String) (texts : List String) : String :=
  separator.intercalate (texts.map (enquoted quote))

/-- Texts that can be written between quotes: they are distinct, and none has a line feed in it or the quote. -/
structure Quotable (quote : Char) (texts : List String) : Prop where
  distinct : texts.Nodup
  noFeed : ∀ s ∈ texts, '\n' ∉ s.toList
  noQuote : ∀ s ∈ texts, quote ∉ s.toList

variable {separator : String} {texts : List String}

lemma toList_enquotedList (quote : Char) (separator : String) (texts : List String) :
    (enquotedList quote separator texts).toList =
      separator.toList.intercalate ((texts.map String.toList).map (inQuotes quote)) := by
  rw [enquotedList, String.toList_intercalate, List.map_map, List.map_map]
  congr 1
  exact List.map_congr_left fun s _ => String.toList_ofList

lemma noFeed_enquotedList (hquote : IsQuote quote) (hseparator : '\n' ∉ separator.toList) (h : Quotable quote texts) :
    '\n' ∉ (enquotedList quote separator texts).toList := by
  rw [toList_enquotedList]
  cases texts with
  | nil => simp
  | cons s texts =>
    have hfeed : quote ≠ '\n' := by cases hquote <;> decide
    have hnot : ∀ t ∈ s :: texts, '\n' ∉ inQuotes quote t.toList := by
      intro t ht
      simp [inQuotes, h.noFeed t ht, hfeed.symm]
    rw [List.map_cons, intercalate_inQuotes, List.mem_append, not_or]
    refine ⟨hnot s (by simp), ?_⟩
    simp only [furtherArguments, List.mem_flatMap, List.mem_map, not_exists, not_and]
    rintro _ ⟨t, ht, rfl⟩ hmem
    rcases List.mem_append.1 hmem with hmem | hmem
    · exact hseparator hmem
    · exact hnot t (by simp [ht]) hmem

/-- The arguments between quotes are the texts, unless there is a comma in one that stands behind a blank. -/
lemma arguments_enquotedList_iff (hquote : IsQuote quote) (hseparator : separator = "," ∨ separator = ", ")
    (h : Quotable quote texts) :
    arguments (enquotedList quote separator texts) = texts ↔
      separator = "," ∨ ∀ s ∈ texts.tail, ',' ∉ s.toList := by
  change read (tokens (enquotedList quote separator texts).toList) = texts ↔ _
  rw [toList_enquotedList]
  cases texts with
  | nil => simp [tokens, read]
  | cons s texts =>
    have hback : (texts.map String.toList).map String.ofList = texts := by simp
    have hquoteless : ∀ cs ∈ texts.map String.toList, quote ∉ cs := by
      intro cs hcs
      obtain ⟨t, ht, rfl⟩ := List.mem_map.1 hcs
      exact h.noQuote t (by simp [ht])
    rw [List.map_cons, intercalate_inQuotes, tokens_inQuotes hquote (h.noQuote s (by simp)),
      read_inQuotes hquote (trim_inQuotes hquote _), String.ofList_toList, List.cons_inj_right, List.tail_cons]
    rcases hseparator with rfl | rfl
    · have hread : read (tokens (furtherArguments [','] quote (texts.map String.toList))) = texts := by
        rw [tokens_commas hquote hquoteless, read_map_inQuotes hquote, hback]
      exact iff_of_true hread (Or.inl rfl)
    · have hblanks := read_blanks_iff hquote hquoteless
      rw [hback] at hblanks
      refine hblanks.trans ?_
      simp

end Specifier

namespace VectorType

open Specifier

variable {quote : Char} {separator : String} {texts : List String}

lemma legalLevels_texts (h : texts.Nodup) : LegalLevels (texts.map .text) where
  level v hv := by
    obtain ⟨s, -, rfl⟩ := List.mem_map.1 hv
    exact ⟨rfl, rfl, (Value.same_iff_of_meaning? rfl _).2 rfl⟩
  distinct := by
    rw [List.pairwise_map]
    refine h.imp fun {s t} hne => Bool.not_eq_true _ ▸ fun hsame => hne ?_
    have hmeaning := (Value.same_iff_of_meaning? rfl _).1 hsame
    cases hmeaning
    rfl

/-- A categorical keeps the levels that it is made with. -/
lemma eq_of_ofLevels {levels : List Value} {t : VectorType} (h : ofLevels levels = .ok t) :
    t = .categorical levels := by
  obtain ⟨missing, -, h⟩ := bind_eq_ok_iff.1 h
  cases missing with
  | true => cases h
  | false =>
    cases hhash : Value.unhashableIn? levels with
    | some c =>
      rw [hhash] at h
      cases h
    | none =>
      rw [hhash] at h
      change (if (repeatedNames levels).isEmpty = true then Except.ok (.categorical levels) else
        Except.error (Failure.repeatedLevels (repeatedNames levels))) = Except.ok t at h
      split_ifs at h
      cases h
      rfl

/-- Quoted levels are read as they were written if the arguments are. -/
lemma resolve_enquotedList_iff (hquote : IsQuote quote) (hseparator : separator = "," ∨ separator = ", ")
    (h : Quotable quote texts) :
    resolve TypeTable.standard (.text ("categorical[" ++ enquotedList quote separator texts ++ "]")) =
        .ok (.categorical (texts.map .text)) ↔
      arguments (enquotedList quote separator texts) = texts := by
  have hopened : "categorical[" = "categorical" ++ "[" := rfl
  have hfeed : '\n' ∉ separator.toList := by rcases hseparator with rfl | rfl <;> decide
  rw [hopened, resolve_brackets find?_categorical.1 find?_categorical.2 (noFeed_enquotedList hquote hfeed h),
    ofArguments]
  constructor
  · intro hread
    have hlevels := VectorType.categorical.inj (eq_of_ofLevels hread)
    have hinjective := List.map_injective_iff.2 fun s t (hst : Value.text s = .text t) => Value.text.inj hst
    exact (hinjective hlevels).symm
  · intro hread
    rw [hread]
    exact ofLevels_eq (legalLevels_texts h.distinct)

/-- **Quoted levels.** A categorical whose levels are written between quotes is read with exactly these levels, in their
order, if the separator is a bare comma. With a blank behind the comma it is so if and only if no level but the first
has a comma in it. -/
theorem resolve_enquoted_iff (hquote : IsQuote quote) (hseparator : separator = "," ∨ separator = ", ")
    (h : Quotable quote texts) :
    resolve TypeTable.standard (.text ("categorical[" ++ enquotedList quote separator texts ++ "]")) =
        .ok (.categorical (texts.map .text)) ↔
      separator = "," ∨ ∀ s ∈ texts.tail, ',' ∉ s.toList :=
  (resolve_enquotedList_iff hquote hseparator h).trans (arguments_enquotedList_iff hquote hseparator h)

/-- A comma in the first level, brackets and other quotes in the second, blanks around the third, and a level without
characters. -/
theorem resolve_enquoted_iff_blanks :
    enquotedList '\'' ", " ["a, b", "[\"x\"]", " y ", ""] = "'a, b', '[\"x\"]', ' y ', ''" ∧
      resolve TypeTable.standard (.text ("categorical[" ++ enquotedList '\'' ", " ["a, b", "[\"x\"]", " y ", ""] ++ "]")) =
        .ok (.categorical [.text "a, b", .text "[\"x\"]", .text " y ", .text ""]) := by
  refine ⟨by decide +kernel, (resolve_enquoted_iff .single (Or.inr rfl) ⟨by decide, ?_, ?_⟩).2 (Or.inr ?_)⟩
  · decide
  · decide
  · decide

/-- Behind a blank, a comma between quotes separates. -/
theorem not_resolve_enquoted :
    ¬ ∀ (quote : Char) (separator : String) (texts : List String), IsQuote quote → separator = "," ∨ separator = ", " →
      texts ≠ [] → Quotable quote texts →
        resolve TypeTable.standard (.text ("categorical[" ++ enquotedList quote separator texts ++ "]")) =
          .ok (.categorical (texts.map .text)) := by
  intro h
  have hquotable : Quotable '\'' ["a", "b,c"] := ⟨by decide, by decide, by decide⟩
  have hread := h '\'' ", " ["a", "b,c"] .single (Or.inr rfl) (by simp) hquotable
  rw [resolve_enquotedList_iff .single (Or.inr rfl) hquotable,
    arguments_enquotedList_iff .single (Or.inr rfl) hquotable] at hread
  exact absurd hread (by decide)

end VectorType

end Coercion
