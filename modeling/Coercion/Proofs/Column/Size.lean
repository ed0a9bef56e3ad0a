import Coercion.Proofs.Column.Made

/-!
The number of values. A column that is turned into another format, or into the storage of a type, has as many values
afterwards as before.
-/

namespace Coercion

namespace Column

variable {c d : Column}

/-- Whether what is made of a column, if anything is, has as many values. -/
def SizedAs (c : Column) (made : Except Failure Column) : Prop :=
  ∀ d, made = .ok d → d.size = c.size

lemma SizedAs.of_ok (h : d.size = c.size) : c.SizedAs (.ok d) := by
  rintro _ ⟨⟩
  exact h

lemma sizedAs_refuse (category : Category) : c.SizedAs (refuse category) := by rintro _ ⟨⟩

/-- As many values as in a column that has as many. -/
lemma SizedAs.trans {made : Except Failure Column} (h : d.SizedAs made) (hd : d.size = c.size) : c.SizedAs made :=
  fun e he => (h e he).trans hd

lemma SizedAs.bind {made : Except Failure Column} {f : Column → Except Failure Column} (h : c.SizedAs made)
    (hf : ∀ d : Column, d.SizedAs (f d)) : c.SizedAs (made >>= f) := by
  intro e he
  obtain ⟨d, hd, he⟩ := bind_eq_ok_iff.1 he
  exact (hf d e he).trans (h d hd)

/-- What is found out first does not change what is made. -/
lemma SizedAs.after {α : Type} {x : Except Failure α} {made : α → Except Failure Column} (h : ∀ a, c.SizedAs (made a)) :
    c.SizedAs (x >>= made) := by
  intro e he
  obtain ⟨a, -, he⟩ := bind_eq_ok_iff.1 he
  exact h a e he

lemma SizedAs.ite {p : Prop} [Decidable p] {made made' : Except Failure Column} (h : c.SizedAs made)
    (h' : c.SizedAs made') : c.SizedAs (if p then made else made') := by
  split_ifs
  · exact h
  · exact h'

lemma sizedAs_mapM (e : Dtype) (f : Value → Except Failure Value) :
    c.SizedAs (do return ⟨e, ← c.values.mapM f⟩) := by
  intro d hd
  obtain ⟨values, hvalues, hd⟩ := bind_eq_ok_iff.1 hd
  cases hd
  exact ((mapM_eq_ok_iff _ _).1 hvalues).length_eq.symm

lemma sizedAs_mapPresent (e : Dtype) (f : Value → Except Failure Value) : c.SizedAs (c.mapPresent e f) :=
  sizedAs_mapM e _

/-! ### Numbers -/

lemma sizedAs_toBoolean : c.SizedAs c.toBoolean := by
  have hbits : c.SizedAs c.bits := sizedAs_mapPresent _ _
  have hopen : c.SizedAs (if Content.of c.present = .nothing ∨ Content.of c.present = .bools ∨
      (Content.of c.present).isNumeric = true then c.bits else refuse .typeError) := hbits.ite (sizedAs_refuse _)
  rw [toBoolean]
  split
  · exact sizedAs_mapPresent _ _
  · exact .ite (.after fun _ => hopen) hopen
  · exact .ite (.after fun _ => hopen) hopen
  · exact hbits.ite (.ite (sizedAs_mapPresent _ _) (sizedAs_refuse _))

lemma sizedAs_openInts : c.SizedAs c.openInts := by
  rw [openInts]
  split
  · exact sizedAs_refuse _
  · refine (sizedAs_mapPresent _ _).bind ?_
    intro ints
    exact .ite (.of_ok rfl) (sizedAs_refuse _)

lemma sizedAs_exactInts : c.SizedAs c.exactInts :=
  .ite (sizedAs_refuse _) (sizedAs_mapPresent _ _)

/-- A column without values, made of one without values. -/
lemma sizedAs_none (d : Dtype) :
    c.SizedAs (if c.values.isEmpty = true then .ok ⟨d, []⟩ else refuse .typeError) := by
  intro e he
  split_ifs at he with hempty
  · cases he
    rw [size, size, List.isEmpty_iff.1 hempty]
  · cases he

lemma sizedAs_toInt64 : c.SizedAs c.toInt64 := by
  refine SizedAs.trans (d := c.decategorized) ?_ (size_decategorized c)
  rw [toInt64]
  split
  · exact sizedAs_mapPresent _ _
  · exact sizedAs_exactInts
  · exact sizedAs_mapPresent _ _
  · exact sizedAs_mapPresent _ _
  · exact sizedAs_mapPresent _ _
  · exact sizedAs_openInts
  · exact sizedAs_openInts
  · exact sizedAs_openInts
  · exact sizedAs_none _
  · exact sizedAs_none _
  · exact sizedAs_refuse _

lemma sizedAs_toFloat (width : Nat) : c.SizedAs (c.toFloat width) := by
  rw [toFloat]
  split
  · exact sizedAs_refuse _
  · exact sizedAs_refuse _
  · exact sizedAs_refuse _
  · split_ifs with hempty
    · refine .of_ok ?_
      rw [size, size, List.isEmpty_iff.1 hempty]
    · split
      · exact sizedAs_refuse _
      · exact sizedAs_refuse _
      · exact sizedAs_mapPresent _ _
  · exact sizedAs_mapPresent _ _
  · exact sizedAs_mapPresent _ _

lemma sizedAs_toPlainInt (e : Dtype) (fits : Int → Bool) : c.SizedAs (c.toPlainInt e fits) := by
  rw [toPlainInt]
  exact .ite (.after fun _ => sizedAs_mapPresent _ _) (sizedAs_mapPresent _ _)

/-! ### Levels and moments -/

lemma sizedAs_toLevels (levels : List Value) : c.SizedAs (c.toLevels levels) := by
  rw [toLevels]
  split
  · exact sizedAs_refuse _
  · exact .ite (.of_ok (List.length_map _)) (.of_ok (List.length_map _))

lemma sizedAs_toInstants (zone : Option Zone) : c.SizedAs (c.toInstants zone) := by
  rw [toInstants_eq]
  intro d hd
  obtain ⟨read, hread, hd⟩ := bind_eq_ok_iff.1 hd
  cases hd
  rw [readMoments] at hread
  split at hread
  any_goals cases hread
  have hlength := (forall₂_readInstants hread).length_eq
  exact (List.length_map _).trans hlength.symm

lemma sizedAs_toClock (zone : Zone) : c.SizedAs (c.toClock zone) := by
  rw [toClock]
  split
  · exact sizedAs_mapPresent _ _
  · exact sizedAs_refuse _
  · exact sizedAs_refuse _

lemma sizedAs_otherClock (zone : Zone) : c.SizedAs (c.otherClock zone) := by
  rw [otherClock]
  split
  · exact .of_ok (List.length_map _)
  · exact sizedAs_refuse _
  · exact sizedAs_refuse _

lemma sizedAs_offClock : c.SizedAs c.offClock := by
  rw [offClock]
  split
  · exact .of_ok (List.length_map _)
  · exact .of_ok rfl
  · exact sizedAs_refuse _

lemma sizedAs_localize (zone : Option Zone) : c.SizedAs (c.localize zone) := by
  rw [localize.eq_def]
  split
  · exact .of_ok rfl
  · exact (sizedAs_toClock _).bind fun _ => sizedAs_otherClock _
  · exact (sizedAs_otherClock _).bind fun _ => sizedAs_offClock
  · exact sizedAs_otherClock _
  · exact sizedAs_refuse _

lemma sizedAs_toDays : c.SizedAs c.toDays :=
  .ite (.of_ok rfl) (sizedAs_mapPresent _ _)

/-! ### Conversion -/

/-- **Conversion keeps the number of values.** -/
theorem sizedAs_convert (target : Dtype) : c.SizedAs (c.convert target) := by
  rw [convert.eq_def]
  refine .ite (.of_ok rfl) ?_
  split
  · exact .of_ok rfl
  · exact sizedAs_toBoolean
  · exact sizedAs_toInt64
  · exact sizedAs_toInt64.bind fun _ => sizedAs_mapPresent _ _
  · exact sizedAs_toInt64.bind fun _ => sizedAs_mapPresent _ _
  · exact (sizedAs_toFloat _).bind fun _ => sizedAs_mapPresent _ _
  · exact sizedAs_refuse _
  · exact .of_ok (size_toText c)
  · exact sizedAs_toLevels _
  · exact sizedAs_mapPresent _ _
  · split
    · exact .ite ((sizedAs_localize _).bind fun _ => .of_ok rfl) (sizedAs_refuse _)
    · exact sizedAs_mapPresent _ _
    · exact sizedAs_toInstants _
  · exact sizedAs_mapPresent _ _
  · exact sizedAs_toPlainInt _ _
  · exact sizedAs_toPlainInt _ _
  · exact sizedAs_toFloat _
  · exact .of_ok (List.length_map _)
  · exact .of_ok rfl

end Column

namespace VectorType

open Column

/-- **Storage keeps the number of values.** The column of a type that is made of another column has as many values. -/
theorem sizedAs_construct (t : VectorType) (c : Column) : c.SizedAs (t.construct c) := by
  have hmarked : c.SizedAs (c.marked.convert t.storage) := (sizedAs_convert _).trans (size_marked c)
  have hconvert : c.SizedAs (c.convert t.storage) := sizedAs_convert _
  rw [construct.eq_def]
  dsimp only
  split
  · refine .bind ?_ fun d => .ite (.of_ok rfl) (by rintro _ ⟨⟩)
    split
    · exact hmarked
    · exact hconvert
  · refine .bind ?_ fun d => .ite (.of_ok (List.length_map _)) (by rintro _ ⟨⟩)
    split
    · exact hmarked
    · exact hconvert
  · exact sizedAs_mapM _ _
  · exact sizedAs_toLevels _
  · exact sizedAs_toDays
  · exact sizedAs_toInstants _
  · split
    · exact hmarked
    · exact hconvert

end VectorType

end Coercion
