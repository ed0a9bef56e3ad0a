import Coercion.VectorType.Specifier
import Coercion.Proofs.VectorType.Standard
import Coercion.Proofs.VectorType.Table
import Coercion.Proofs.Zone.Normal
import Mathlib.Tactic

/-!
Types that are read again from their displayed form. A categorical is shown by its levels as they are, without quotes
around them, so only such levels come back that are one argument each: the commas between them, the brackets around them
and the blanks beside them must be the only ones that the reader finds.
-/

namespace Coercion

open Text

/-! ### Arguments -/

namespace Specifier

/-- What stands for itself among the arguments of a specifier. -/
structure PlainArgument (cs : List Char) : Prop where
  ne_nil : cs ≠ []
  noComma : ',' ∉ cs
  noFeed : '\n' ∉ cs
  /-- There is no blank at the start, and no quote that could open a longer argument. -/
  start : ∀ c ∈ cs.head?, isBlank c = false ∧ c ≠ '\'' ∧ c ≠ '"'
  stop : ∀ c ∈ cs.getLast?, isBlank c = false

instance : DecidablePred PlainArgument := fun cs =>
  decidable_of_iff (cs ≠ [] ∧ ',' ∉ cs ∧ '\n' ∉ cs ∧
      cs.head?.all (fun c => !isBlank c && c != '\'' && c != '"') = true ∧
      cs.getLast?.all (fun c => !isBlank c) = true) <| by
    simp only [Option.all_eq_true, Bool.and_eq_true, Bool.not_eq_true', bne_iff_ne, ne_eq, and_assoc]
    exact ⟨fun h => ⟨h.1, h.2.1, h.2.2.1, h.2.2.2.1, h.2.2.2.2⟩,
      fun h => ⟨h.ne_nil, h.noComma, h.noFeed, h.start, h.stop⟩⟩

variable {cs : List Char} {css : List (List Char)}

lemma trimLeft_of_head (h : ∀ c ∈ cs.head?, isBlank c = false) : trimLeft cs = cs := by
  cases cs with
  | nil => rfl
  | cons c cs => rw [trimLeft, List.dropWhile_cons_of_neg (by simp [h c (by simp)])]

lemma trimRight_of_getLast (h : ∀ c ∈ cs.getLast?, isBlank c = false) : trimRight cs = cs := by
  have hreverse : cs.reverse.dropWhile isBlank = cs.reverse := by
    refine trimLeft_of_head fun c hc => h c ?_
    rwa [List.head?_reverse] at hc
  rw [trimRight, hreverse, List.reverse_reverse]

namespace PlainArgument

lemma trim_eq (h : PlainArgument cs) : trim cs = cs := by
  rw [trim, trimLeft_of_head fun c hc => (h.start c hc).1, trimRight_of_getLast h.stop]

/-- A blank before an argument is dropped. -/
lemma trim_blank_cons (h : PlainArgument cs) : trim (' ' :: cs) = cs := by
  have hdrop : trimLeft (' ' :: cs) = trimLeft cs := List.dropWhile_cons_of_pos (by decide)
  rw [trim, hdrop]
  exact h.trim_eq

end PlainArgument

lemma beforeComma_append (h : ',' ∉ cs) (rest : List Char) : beforeComma (cs ++ rest) = cs ++ beforeComma rest :=
  List.takeWhile_append_of_pos fun _ hc => decide_eq_true (ne_of_mem_of_not_mem hc h)

lemma fromComma_append (h : ',' ∉ cs) (rest : List Char) : fromComma (cs ++ rest) = fromComma rest :=
  List.dropWhile_append_of_pos fun _ hc => decide_eq_true (ne_of_mem_of_not_mem hc h)

/-- A token that no quote opens goes on to the next comma. -/
lemma tokens_cons {c : Char} (hcomma : c ≠ ',') (hquote : c ≠ '\'' ∧ c ≠ '"') (cs : List Char) :
    tokens (c :: cs) = (c :: beforeComma cs) :: tokens (fromComma cs) := by
  rw [tokens, if_neg hcomma, if_neg (not_or.2 hquote)]

lemma tokens_comma (rest : List Char) : tokens (',' :: rest) = tokens rest := by
  rw [tokens, if_pos rfl]

/-- The tokens of one argument, and of an argument before others. -/
lemma tokens_argument {c : Char} (hcomma : ',' ∉ c :: cs) (hquote : c ≠ '\'' ∧ c ≠ '"') :
    tokens (c :: cs) = [c :: cs] ∧ ∀ rest, tokens (c :: cs ++ ',' :: rest) = (c :: cs) :: tokens rest := by
  obtain ⟨hc, hcs⟩ := not_or.1 (List.mem_cons.not.1 hcomma)
  constructor
  · have hbefore : beforeComma cs = cs := by simpa [beforeComma] using beforeComma_append hcs []
    have hfrom : fromComma cs = [] := by simpa [fromComma] using fromComma_append hcs []
    rw [tokens_cons (Ne.symm hc) hquote, hbefore, hfrom, tokens]
  · intro rest
    have hbefore : beforeComma (cs ++ ',' :: rest) = cs := by
      rw [beforeComma_append hcs]
      exact List.append_nil cs
    have hfrom : fromComma (cs ++ ',' :: rest) = ',' :: rest := fromComma_append hcs _
    rw [List.cons_append, tokens_cons (Ne.symm hc) hquote, hbefore, hfrom, tokens_comma]

/-- Arguments of which each but the first stands behind a comma and a blank. -/
lemma intercalate_cons_cons (cs ds : List Char) (dss : List (List Char)) :
    [',', ' '].intercalate (cs :: ds :: dss) = cs ++ ',' :: ' ' :: [',', ' '].intercalate (ds :: dss) := by
  simp [List.intercalate]

lemma noFeed_intercalate (h : ∀ cs ∈ css, PlainArgument cs) : '\n' ∉ [',', ' '].intercalate css := by
  induction css with
  | nil => simp
  | cons cs css ih =>
    have hcs := (h cs (by simp)).noFeed
    cases css with
    | nil => rwa [List.intercalate_singleton]
    | cons ds dss =>
      rw [intercalate_cons_cons, List.mem_append]
      simp [hcs, ih fun es hes => h es (List.mem_cons_of_mem _ hes)]

lemma trim_tokens_blank (h : ∀ ds ∈ cs :: css, PlainArgument ds) :
    (tokens (' ' :: [',', ' '].intercalate (cs :: css))).map trim = cs :: css := by
  induction css generalizing cs with
  | nil =>
    have hcs := h cs (by simp)
    have hcomma : ',' ∉ ' ' :: cs := by simp [hcs.noComma]
    rw [List.intercalate_singleton, (tokens_argument hcomma (by decide)).1, List.map_singleton, hcs.trim_blank_cons]
  | cons ds dss ih =>
    have hcs := h cs (by simp)
    have hcomma : ',' ∉ ' ' :: cs := by simp [hcs.noComma]
    rw [intercalate_cons_cons, ← List.cons_append, (tokens_argument hcomma (by decide)).2, List.map_cons,
      hcs.trim_blank_cons, ih fun es hes => h es (by simp [hes])]

/-- **Arguments that are written one after the other.** The reader finds them again, each of them once. -/
theorem trim_tokens_intercalate (h : ∀ cs ∈ css, PlainArgument cs) :
    (tokens ([',', ' '].intercalate css)).map trim = css := by
  cases css with
  | nil =>
    have hnone : tokens ([',', ' '].intercalate []) = [] := by rw [List.intercalate_nil, tokens]
    rw [hnone]
    rfl
  | cons cs css =>
    have hcs := h cs (by simp)
    have htrim := hcs.trim_eq
    obtain ⟨c, tail, rfl⟩ := List.exists_cons_of_ne_nil hcs.ne_nil
    have htokens := tokens_argument hcs.noComma (hcs.start c (by simp)).2
    cases css with
    | nil => rw [List.intercalate_singleton, htokens.1, List.map_singleton, htrim]
    | cons ds dss =>
      rw [intercalate_cons_cons, htokens.2, List.map_cons, htrim, trim_tokens_blank fun es hes => h es (by simp [hes])]

/-- Quotes are only taken off where one begins an argument. -/
lemma stripQuotes_eq {s : String} (h : PlainArgument s.toList) : stripQuotes s = s := by
  obtain ⟨c, cs, hcs⟩ := List.exists_cons_of_ne_nil h.ne_nil
  have hquote := (h.start c (by simp [hcs])).2
  rw [stripQuotes, hcs]
  simp [hquote.1, hquote.2]

/-- The arguments in brackets are those that were written there. -/
lemma arguments_intercalate {texts : List String} (h : ∀ s ∈ texts, PlainArgument s.toList) :
    arguments (", ".intercalate texts) = texts := by
  have hplain : ∀ cs ∈ texts.map String.toList, PlainArgument cs := by
    intro cs hcs
    obtain ⟨s, hs, rfl⟩ := List.mem_map.1 hcs
    exact h s hs
  have htrimmed : trimmedTokens (", ".intercalate texts) = texts := by
    have htokens := trim_tokens_intercalate hplain
    rw [trimmedTokens, String.toList_intercalate]
    change (tokens ([',', ' '].intercalate (texts.map String.toList))).map (String.ofList ∘ trim) = texts
    rw [← List.map_map, htokens, List.map_map]
    simp
  have hfilter : texts.filter (fun t => !t.isEmpty) = texts := by
    rw [List.filter_eq_self]
    intro s hs
    have hne := (h s hs).ne_nil
    simpa using hne
  rw [arguments, htrimmed, hfilter]
  have hstripped : texts.map stripQuotes = texts.map id := List.map_congr_left fun s hs => stripQuotes_eq (h s hs)
  exact hstripped.trans (List.map_id _)

/-! ### Names and brackets -/

/-- What can be the name of a kind in a specifier. -/
structure KindName (cs : List Char) : Prop where
  ne_nil : cs ≠ []
  noOpen : '[' ∉ cs
  noClose : ']' ∉ cs
  trimmed : trim cs = cs

instance : DecidablePred KindName := fun cs =>
  decidable_of_iff (cs ≠ [] ∧ '[' ∉ cs ∧ ']' ∉ cs ∧ trim cs = cs)
    ⟨fun h => ⟨h.1, h.2.1, h.2.2.1, h.2.2.2⟩, fun h => ⟨h.ne_nil, h.noOpen, h.noClose, h.trimmed⟩⟩

lemma KindName.trimName_eq (h : KindName cs) : trimName cs = some cs := by
  obtain ⟨c, tail, rfl⟩ := List.exists_cons_of_ne_nil h.ne_nil
  rw [trimName, h.trimmed]

/-- A specifier up to its first bracket, and from there on. -/
lemma split_at_open (h : KindName cs) (rest : List Char) :
    (cs ++ rest).takeWhile (fun c => !decide (c = '[')) = cs ++ rest.takeWhile (fun c => !decide (c = '[')) ∧
      (cs ++ rest).dropWhile (fun c => !decide (c = '[')) = rest.dropWhile fun c => !decide (c = '[') := by
  have hall : ∀ c ∈ cs, (!decide (c = '[')) = true := by
    intro c hc
    rw [Bool.not_eq_true', decide_eq_false_iff_not]
    exact ne_of_mem_of_not_mem hc h.noOpen
  exact ⟨List.takeWhile_append_of_pos hall, List.dropWhile_append_of_pos hall⟩

lemma split?_name {name : String} (h : KindName name.toList) : split? name = some ⟨name, none⟩ := by
  obtain ⟨hhead, hrest⟩ := split_at_open h []
  rw [List.append_nil] at hhead hrest
  simp only [split?, hhead, hrest, List.takeWhile_nil, List.dropWhile_nil, List.append_nil, if_neg h.noClose,
    h.trimName_eq, String.ofList_toList]

/-- What stands between the first bracket and the last one. -/
lemma split?_brackets {name body : String} (h : KindName name.toList) (hfeed : '\n' ∉ body.toList) :
    split? (name ++ "[" ++ body ++ "]") = some ⟨name, some body⟩ := by
  have hspelled : (name ++ "[" ++ body ++ "]").toList = name.toList ++ '[' :: (body.toList ++ [']']) := by
    simp [String.toList_append]
  obtain ⟨hhead, hrest⟩ := split_at_open h ('[' :: (body.toList ++ [']']))
  have htrim : trimRight (body.toList ++ [']']) = body.toList ++ [']'] := by
    refine trimRight_of_getLast ?_
    simp
    decide
  simp only [split?, hspelled, hhead, hrest]
  simp [h.noClose, h.trimName_eq, htrim, hfeed]

end Specifier

namespace VectorType

open Specifier

/-! ### Reading what was displayed -/

/-- The kinds without a payload. -/
inductive IsPlain : VectorType → Prop where
  | null : IsPlain .null
  | unspecified : IsPlain .unspecified
  | logical : IsPlain .logical
  | integer : IsPlain .integer
  | double : IsPlain .double
  | character : IsPlain .character
  | list : IsPlain .list
  | date : IsPlain .date

/-- A level that can be read from the displayed form of a categorical. -/
def IsReadableLevel (v : Value) : Prop :=
  ∃ s, v.text? = some s ∧ PlainArgument s.toList

/-- The types whose displayed form can be read. -/
inductive IsReadable : VectorType → Prop where
  | plain {t : VectorType} (plain : t.IsPlain) : IsReadable t
  | datetime {zone : Option Zone} (normal : ∀ z ∈ zone, z.IsNormal) : IsReadable (.datetime zone)
  | categorical {levels : List Value} (readable : ∀ v ∈ levels, IsReadableLevel v)
    (distinct : levels.Pairwise fun v w => v.same w = false) : IsReadable (.categorical levels)

/-- Every datetime type that is made for a caller can be read. -/
theorem isReadable_ofZone {source : Option ZoneSource} {t : VectorType} (hknown : ∀ s ∈ source, s.Known)
    (h : ofZone source = .ok t) : t.IsReadable := by
  cases source with
  | none =>
    cases h
    exact .datetime (by simp)
  | some s =>
    cases hz : Zone.normalize s with
    | error fault => simp [ofZone, hz] at h
    | ok z =>
      simp only [ofZone, hz, Except.ok.injEq] at h
      subst h
      refine .datetime ?_
      simpa using Zone.isNormal_normalize (hknown s rfl) hz

/-- Each kind is registered under the name that it is displayed with. -/
lemma find?_plain {t : VectorType} (ht : t.IsPlain) :
    KindName t.display.toList ∧ TypeTable.standard.find? (.word t.display) = some t := by
  rw [TypeTable.find?, TypeTable.aliases_standard]
  cases ht <;> exact ⟨by decide +kernel, rfl⟩

lemma find?_datetime :
    KindName "datetime".toList ∧ TypeTable.standard.find? (.word "datetime") = some (.datetime none) := by
  rw [TypeTable.find?, TypeTable.aliases_standard]
  exact ⟨by decide +kernel, rfl⟩

lemma find?_categorical :
    KindName "categorical".toList ∧ TypeTable.standard.find? (.word "categorical") = some (.categorical []) := by
  rw [TypeTable.find?, TypeTable.aliases_standard]
  exact ⟨by decide +kernel, rfl⟩

lemma resolve_name {table : TypeTable} {name : String} {t : VectorType} (hname : KindName name.toList)
    (hfind : table.find? (.word name) = some t) : resolve table (.text name) = t.ofArguments [] := by
  rw [resolve, resolveText, split?_name hname]
  simp only [hfind]
  rfl

lemma resolve_brackets {table : TypeTable} {name body : String} {t : VectorType} (hname : KindName name.toList)
    (hfind : table.find? (.word name) = some t) (hfeed : '\n' ∉ body.toList) :
    resolve table (.text (name ++ "[" ++ body ++ "]")) = t.ofArguments (arguments body) := by
  rw [resolve, resolveText, split?_brackets hname hfeed]
  simp only [hfind]
  rfl

lemma resolve_display_plain {t : VectorType} (ht : t.IsPlain) :
    resolve TypeTable.standard (.text t.display) = .ok t := by
  rw [resolve_name (find?_plain ht).1 (find?_plain ht).2]
  cases ht <;> rfl

/-! ### Texts of zones -/

lemma not_blank_of_isNameChar {c : Char} (h : Zone.isNameChar c = true) : isBlank c = false := by
  obtain ⟨hlow, hhigh⟩ := Zone.bounds_of_isNameChar h
  simp only [isBlank, Bool.or_eq_false_iff, Bool.and_eq_false_imp, decide_eq_true_eq, decide_eq_false_iff_not,
    beq_eq_false_iff_ne]
  omega

lemma plainArgument_of_chars {cs : List Char} (hne : cs ≠ []) (h : ∀ c ∈ cs, Zone.isNameChar c = true ∨ c = ':') :
    PlainArgument cs := by
  have hnot : ∀ d, Zone.isNameChar d = false → d ≠ ':' → d ∉ cs := by
    intro d hd hcolon hmem
    rcases h d hmem with hname | hname
    · rw [hname] at hd
      cases hd
    · exact hcolon hname
  have hblank : ∀ c ∈ cs, isBlank c = false := by
    intro c hc
    rcases h c hc with hname | rfl
    · exact not_blank_of_isNameChar hname
    · decide
  refine ⟨hne, hnot ',' (by decide) (by decide), hnot '\n' (by decide) (by decide), ?_, ?_⟩
  · intro c hc
    have hmem := List.mem_of_head? hc
    have hsingle := ne_of_mem_of_not_mem hmem (hnot '\'' (by decide) (by decide))
    have hdouble := ne_of_mem_of_not_mem hmem (hnot '"' (by decide) (by decide))
    exact ⟨hblank c hmem, hsingle, hdouble⟩
  · intro c hc
    exact hblank c (List.mem_of_getLast? hc)

lemma isNameChar_digitChar {d : Nat} (hd : d < 10) : Zone.isNameChar d.digitChar = true := by
  interval_cases d <;> decide

/-- The text of a zone is one argument. -/
lemma plainArgument_text {z : Zone} (hz : z.IsNormal) : PlainArgument z.text.toList := by
  cases hz with
  | @named name known =>
    have hplain := Zone.plainName_of_isName known
    refine plainArgument_of_chars ?_ fun c hc => Or.inl (List.all_eq_true.1 hplain.chars c hc)
    intro hnil
    have hletter := hplain.letter
    change name.toList = [] at hnil
    rw [hnil] at hletter
    cases hletter
  | @fixed m range nameless =>
    rw [Zone.text, Zone.toList_offsetText, Zone.toList_paddedNat (by omega), Zone.toList_paddedNat (by omega)]
    refine plainArgument_of_chars (by simp) ?_
    intro c hc
    simp only [List.cons_append, List.nil_append, List.append_nil, List.mem_cons, List.not_mem_nil, or_false] at hc
    rcases hc with rfl | rfl | rfl | rfl | rfl | rfl
    · left
      split_ifs <;> decide
    · exact Or.inl (isNameChar_digitChar (by omega))
    · exact Or.inl (isNameChar_digitChar (by omega))
    · exact Or.inr rfl
    · exact Or.inl (isNameChar_digitChar (by omega))
    · exact Or.inl (isNameChar_digitChar (by omega))

lemma resolve_display_datetime {zone : Option Zone} (hzone : ∀ z ∈ zone, z.IsNormal) :
    resolve TypeTable.standard (.text (VectorType.datetime zone).display) = .ok (.datetime zone) := by
  cases zone with
  | none => exact resolve_name find?_datetime.1 find?_datetime.2
  | some z =>
    have hplain := plainArgument_text (hzone z rfl)
    have harguments : arguments z.text = [z.text] := by
      simpa using @arguments_intercalate [z.text] (by simpa using hplain)
    have hopened : "datetime[" = "datetime" ++ "[" := rfl
    rw [display, hopened, resolve_brackets find?_datetime.1 find?_datetime.2 hplain.noFeed, harguments]
    simp only [ofArguments, ofZone, Zone.normalize, Zone.ofText_text (hzone z rfl)]

/-! ### Levels -/

/-- Texts are displayed as they are. -/
lemma of_text? {v : Value} {s : String} (h : v.text? = some s) : v.display = s ∧ v.meaning? = some (.text s) := by
  cases v with
  | text =>
    cases h
    exact ⟨rfl, rfl⟩
  | scalar e w =>
    cases w with
    | text =>
      cases h
      exact ⟨rfl, rfl⟩
    | _ => cases h
  | _ => cases h

/-- A readable level as it is read. -/
lemma same_display {v : Value} (h : IsReadableLevel v) : (Value.text v.display).same v = true := by
  obtain ⟨s, hs, -⟩ := h
  rw [(of_text? hs).1, Value.same_iff_of_meaning? rfl]
  exact (of_text? hs).2

lemma legalLevels_displays {levels : List Value} (readable : ∀ v ∈ levels, IsReadableLevel v)
    (distinct : levels.Pairwise fun v w => v.same w = false) :
    LegalLevels (levels.map fun v => .text v.display) where
  level := by
    intro y hy
    obtain ⟨x, -, rfl⟩ := List.mem_map.1 hy
    exact ⟨rfl, rfl, (Value.same_iff_of_meaning? rfl _).2 rfl⟩
  distinct := by
    rw [List.pairwise_map]
    refine distinct.imp_of_mem fun {v w} hv hw hne => ?_
    rw [← Bool.not_eq_true] at hne ⊢
    -- equal texts would be displayed by equal levels
    intro hsame
    refine hne (Value.same_trans (Value.same_symm (same_display (readable v hv))) ?_)
    exact Value.same_trans hsame (same_display (readable w hw))

lemma sameAll_displays {levels : List Value} (readable : ∀ v ∈ levels, IsReadableLevel v) :
    Value.sameAll (levels.map fun v => .text v.display) levels = true := by
  rw [Value.sameAll_iff, List.forall₂_map_left_iff, List.forall₂_same]
  intro v hv
  exact same_display (readable v hv)

lemma resolve_display_categorical {levels : List Value} (readable : ∀ v ∈ levels, IsReadableLevel v)
    (distinct : levels.Pairwise fun v w => v.same w = false) :
    resolve TypeTable.standard (.text (VectorType.categorical levels).display) =
      .ok (.categorical (levels.map fun v => .text v.display)) := by
  have hplain : ∀ s ∈ levels.map Value.display, PlainArgument s.toList := by
    intro s hs
    obtain ⟨v, hv, rfl⟩ := List.mem_map.1 hs
    obtain ⟨s, hs, hplain⟩ := readable v hv
    rwa [(of_text? hs).1]
  have hfeed : '\n' ∉ (", ".intercalate (levels.map Value.display)).toList := by
    rw [String.toList_intercalate]
    refine noFeed_intercalate ?_
    intro cs hcs
    obtain ⟨s, hs, rfl⟩ := List.mem_map.1 hcs
    exact hplain s hs
  have hopened : "categorical[" = "categorical" ++ "[" := rfl
  rw [display, hopened, resolve_brackets find?_categorical.1 find?_categorical.2 hfeed, arguments_intercalate hplain,
    ofArguments, List.map_map]
  exact ofLevels_eq (legalLevels_displays readable distinct)

/-- **Types are read from what they are displayed as.** The type that is read is equal to the one that was displayed,
and the levels of a categorical keep their order. -/
theorem resolve_display {t : VectorType} (ht : t.IsReadable) :
    ∃ read, resolve TypeTable.standard (.text t.display) = .ok read ∧ read.same t = true ∧
      ∀ levels, t = .categorical levels → ∃ found, read = .categorical found ∧ Value.sameAll found levels = true := by
  cases ht with
  | plain plain =>
    refine ⟨t, resolve_display_plain plain, ?_, ?_⟩
    · cases plain <;> rfl
    · rintro levels rfl
      cases plain
  | datetime normal => exact ⟨_, resolve_display_datetime normal, same_refl (.datetime _), by rintro levels ⟨⟩⟩
  | @categorical levels readable distinct =>
    have hsame := sameAll_displays readable
    refine ⟨_, resolve_display_categorical readable distinct, ?_, ?_⟩
    · exact same_of_sameAll hsame
    · rintro _ ⟨⟩
      exact ⟨_, rfl, hsame⟩

/-- Levels with brackets, with a blank and with a quote in them. -/
def bracketed : VectorType :=
  .categorical [.text "b [1]", .text "it's", .text "[]"]

theorem resolve_display_bracketed : bracketed.display = "categorical[b [1], it's, []]" ∧
    ∃ read, resolve TypeTable.standard (.text bracketed.display) = .ok read ∧ read.same bracketed = true ∧
      ∀ levels, bracketed = .categorical levels →
        ∃ found, read = .categorical found ∧ Value.sameAll found levels = true := by
  refine ⟨by decide +kernel, resolve_display (.categorical ?_ (by decide))⟩
  have hlevel (s : String) (cs : List Char) (hs : s.toList = cs) (hcs : PlainArgument cs) : IsReadableLevel (.text s) :=
    ⟨s, rfl, hs ▸ hcs⟩
  simp only [List.forall_mem_cons]
  refine ⟨?_, ?_, ?_, by simp⟩
  · exact hlevel _ ['b', ' ', '[', '1', ']'] (by simp) (by decide)
  · exact hlevel _ ['i', 't', '\'', 's'] (by simp) (by decide)
  · exact hlevel _ ['[', ']'] (by simp) (by decide)

end VectorType

end Coercion
