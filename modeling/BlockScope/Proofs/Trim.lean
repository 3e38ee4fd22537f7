import BlockScope.Text.Blank
import Mathlib.Data.List.DropRight

/-!
Text without the blanks at its ends. Trimming at the end takes away nothing but blanks and leaves a
text whose last character is not one. Trimming at both ends gives a trimmed text, which has no blank
at either end, and a trimmed text stays as it is.
-/

set_option autoImplicit false
set_option relaxedAutoImplicit false

namespace BlockScope

variable {text blanks : List Char}

/-! ### Blanks at the end -/

theorem exists_blanks (text : List Char) :
    ∃ blanks, text = trimEnd text ++ blanks ∧ ∀ c ∈ blanks, isBlank c = true := by
  refine ⟨(text.reverse.takeWhile isBlank).reverse, ?_, fun c hc ↦ ?_⟩
  · rw [trimEnd, ← List.reverse_append, List.takeWhile_append_dropWhile, List.reverse_reverse]
  · exact List.mem_takeWhile_imp (List.mem_reverse.mp hc)

theorem trimEnd_append_blanks (hblanks : ∀ c ∈ blanks, isBlank c = true) :
    trimEnd (text ++ blanks) = trimEnd text := by
  rw [trimEnd, List.reverse_append, List.dropWhile_append_of_pos, trimEnd]
  intro c hc
  exact hblanks c (List.mem_reverse.mp hc)

/-- Cutting a text and trimming it is the same as trimming, cutting and trimming again. -/
theorem trimEnd_take_trimEnd (text : List Char) (count : Nat) :
    trimEnd ((trimEnd text).take count) = trimEnd (text.take count) := by
  obtain ⟨blanks, htext, hblanks⟩ := exists_blanks text
  have htake : text.take count =
      (trimEnd text).take count ++ blanks.take (count - (trimEnd text).length) := by
    rw [← List.take_append, ← htext]
  rw [htake, trimEnd_append_blanks]
  intro c hc
  exact hblanks c (List.mem_of_mem_take hc)

/-- A character that is not blank is not trimmed away. -/
theorem lt_length_trimEnd {index : Nat} {c : Char} (hindex : text[index]? = some c)
    (hc : isBlank c = false) : index < (trimEnd text).length := by
  obtain ⟨blanks, htext, hblanks⟩ := exists_blanks text
  rw [htext, List.getElem?_append] at hindex
  split at hindex
  · assumption
  · rw [hblanks c (List.mem_of_getElem? hindex)] at hc
    contradiction

/-- Without the characters of a class at its end, a text ends in no character of the class. -/
theorem eq_false_of_getLast?_rdropWhile (p : Char → Bool) (text : List Char) :
    ∀ c ∈ (text.rdropWhile p).getLast?, p c = false := by
  intro c hc
  obtain ⟨hne, rfl⟩ := List.mem_getLast?_eq_getLast hc
  exact Bool.eq_false_iff.mpr (List.rdropWhile_last_not p text hne)

theorem isBlank_getLast?_trimEnd (text : List Char) :
    ∀ c ∈ (trimEnd text).getLast?, isBlank c = false :=
  eq_false_of_getLast?_rdropWhile isBlank text

theorem trimEnd_of_getLast? (hlast : ∀ c ∈ text.getLast?, isBlank c = false) :
    trimEnd text = text := by
  refine List.rdropWhile_eq_self_iff.mpr fun hne ↦ ?_
  rw [hlast _ (List.getLast_mem_getLast? hne)]
  exact Bool.false_ne_true

/-! ### Blanks at both ends -/

/-- No blank stands at either end of a text. -/
structure IsTrimmed (text : List Char) : Prop where
  head : ∀ c ∈ text.head?, isBlank c = false
  last : ∀ c ∈ text.getLast?, isBlank c = false

/-- What is left of a text begins where it began, unless nothing is left. -/
theorem isTrimmed_trim (text : List Char) : IsTrimmed (trim text) := by
  refine ⟨fun c hc ↦ ?_, isBlank_getLast?_trimEnd _⟩
  have hfirst : c ∈ (text.dropWhile isBlank).head? := by
    obtain ⟨blanks, hsplit, -⟩ := exists_blanks (text.dropWhile isBlank)
    rw [trim, Option.mem_def] at hc
    rw [hsplit, List.head?_append, hc]
    rfl
  have hsolid := List.head?_dropWhile_not isBlank text
  rw [Option.mem_def.mp hfirst] at hsolid
  exact hsolid

theorem IsTrimmed.trim_eq (htext : IsTrimmed text) : trim text = text := by
  have hdrop : text.dropWhile isBlank = text := by
    cases text with
    | nil => rfl
    | cons c rest => simp [htext.head c (by simp)]
  rw [trim, hdrop, trimEnd_of_getLast? htext.last]

theorem mem_of_mem_trim {c : Char} (hc : c ∈ trim text) : c ∈ text :=
  (List.dropWhile_suffix isBlank).subset ((List.rdropWhile_prefix isBlank _).subset hc)

theorem trim_eq_nil_iff : trim text = [] ↔ ∀ c ∈ text, isBlank c = true := by
  constructor
  · intro htrim c hc
    have hbehind : ∀ d ∈ text.dropWhile isBlank, isBlank d = true :=
      List.rdropWhile_eq_nil_iff.mp htrim
    rw [← List.takeWhile_append_dropWhile (p := isBlank) (l := text), List.mem_append] at hc
    exact hc.elim List.mem_takeWhile_imp (hbehind c)
  · intro hblanks
    rw [trim, List.dropWhile_eq_nil_iff.mpr hblanks]
    rfl

end BlockScope
