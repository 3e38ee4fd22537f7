import BlockScope.Proofs.Lowercase
import BlockScope.Proofs.Trim

/-!
Lowered text. A character of a lowered text is its own lower-case form, so lowering a text twice is
lowering it once. The ends of a text are lowered to the ends of the lowered text, and only a blank
is lowered to a blank, so a trimmed text is still trimmed when it has been lowered.
-/

set_option autoImplicit false
set_option relaxedAutoImplicit false

namespace BlockScope

variable {text before after : List Char} {c d : Char}

theorem lowerBetween_ne_nil (before : List Char) (c : Char) (after : List Char) :
    lowerBetween before c after ≠ [] := by
  unfold lowerBetween
  split
  · exact List.cons_ne_nil _ _
  · exact lowerChar_ne_nil c

theorem isBlank_of_mem_lowerBetween (hd : d ∈ lowerBetween before c after)
    (hc : isBlank c = false) : isBlank d = false := by
  unfold lowerBetween at hd
  split at hd
  · rw [List.mem_singleton.mp hd, lowerSigma]
    split <;> decide
  · exact isBlank_of_mem_lowerChar hd hc

@[simp] theorem lowercase_nil : lowercase [] = [] := rfl

theorem lowercaseAfter_eq_self (htext : ∀ c ∈ text, lowerChar c = [c]) :
    ∀ before, lowercaseAfter before text = text := by
  induction text with
  | nil =>
    intro before
    rfl
  | cons c rest ih =>
    intro before
    obtain ⟨hc, hrest⟩ := List.forall_mem_cons.mp htext
    have hsigma : c ≠ 'Σ' := by
      rintro rfl
      exact absurd hc (by decide +kernel)
    rw [lowercaseAfter_cons, lowerBetween, if_neg hsigma, hc, ih hrest, List.singleton_append]

/-- Lowering a text twice is lowering it once. -/
theorem lowercase_lowercase (text : List Char) : lowercase (lowercase text) = lowercase text := by
  refine lowercaseAfter_eq_self (fun c hc ↦ ?_) []
  rcases mem_lowercaseAfter hc with rfl | rfl | ⟨d, -, hd⟩
  · decide +kernel
  · decide +kernel
  · exact lowerChar_of_mem_lowerChar hd

theorem lowercase_eq_nil_iff : lowercase text = [] ↔ text = [] := by
  constructor
  · intro hnil
    cases text with
    | nil => rfl
    | cons c rest =>
      rw [lowercase, lowercaseAfter_cons, List.append_eq_nil_iff] at hnil
      exact absurd hnil.1 (lowerBetween_ne_nil [] c rest)
  · rintro rfl
    rfl

/-- The end of a text is lowered to the end of the lowered text. -/
theorem lowercaseAfter_suffix (rest text : List Char) :
    ∀ before, lowercaseAfter (text.reverse ++ before) rest <:+
      lowercaseAfter before (text ++ rest) := by
  induction text with
  | nil =>
    intro before
    exact List.suffix_rfl
  | cons c text ih =>
    intro before
    have hlater := ih (c :: before)
    rw [List.cons_append, lowercaseAfter_cons, List.reverse_cons, List.append_assoc]
    exact hlater.trans (List.suffix_append _ _)

theorem isTrimmed_lowercase (htext : IsTrimmed text) : IsTrimmed (lowercase text) := by
  constructor
  · intro d hd
    cases text with
    | nil => simp at hd
    | cons c rest =>
      rw [lowercase, lowercaseAfter_cons,
        List.head?_append_of_ne_nil _ (lowerBetween_ne_nil [] c rest)] at hd
      exact isBlank_of_mem_lowerBetween (List.mem_of_mem_head? hd) (htext.head c rfl)
  · intro d hd
    rcases List.eq_nil_or_concat' text with rfl | ⟨front, c, rfl⟩
    · simp at hd
    · obtain ⟨lead, hlead⟩ := lowercaseAfter_suffix [c] front []
      have hform : lowercaseAfter (front.reverse ++ []) [c] =
          lowerBetween (front.reverse ++ []) c [] := List.append_nil _
      rw [lowercase, ← hlead, hform,
        List.getLast?_append_of_ne_nil _ (lowerBetween_ne_nil _ c [])] at hd
      exact isBlank_of_mem_lowerBetween (List.mem_of_mem_getLast? hd) (htext.last c (by simp))

end BlockScope
