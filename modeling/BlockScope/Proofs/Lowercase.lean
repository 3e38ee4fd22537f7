import BlockScope.Proofs.LetterCase
import BlockScope.Proofs.Pieces

/-!
Lowering a text part by part. Only a capital sigma looks at what stands around it, and it does not
look beyond a character that is neither cased nor case-ignorable. A slash is such a character, so a
path is lowered by lowering its components. No other character becomes a slash, or any sign before
the letters, and it makes no difference whether the capitals `A` to `Z` have been lowered before.
-/

set_option autoImplicit false
set_option relaxedAutoImplicit false

namespace BlockScope

/-! ### Where words end -/

section Words

variable {mark : Char}

/-- A character that ends a word: it is not cased and is not looked through. -/
def EndsWord (mark : Char) : Prop := isCased mark = false ∧ isCaseIgnorable mark = false

instance : Decidable (EndsWord mark) := inferInstanceAs (Decidable (_ ∧ _))

theorem casedFirst_append_cons (hmark : EndsWord mark) (text rest : List Char) :
    casedFirst (text ++ mark :: rest) = casedFirst text := by
  induction text with
  | nil => simp [casedFirst, hmark.1, hmark.2]
  | cons c text ih =>
    by_cases hc : isCaseIgnorable c = true
    · simpa [casedFirst, hc] using ih
    · simp [casedFirst, hc]

theorem lowerBetween_append_cons_left (hmark : EndsWord mark) (before more after : List Char)
    (c : Char) : lowerBetween (before ++ mark :: more) c after = lowerBetween before c after := by
  simp only [lowerBetween, lowerSigma, casedFirst_append_cons hmark]

theorem lowerBetween_append_cons_right (hmark : EndsWord mark) (before after more : List Char)
    (c : Char) : lowerBetween before c (after ++ mark :: more) = lowerBetween before c after := by
  simp only [lowerBetween, lowerSigma, casedFirst_append_cons hmark]

theorem lowercaseAfter_cons (before : List Char) (c : Char) (rest : List Char) :
    lowercaseAfter before (c :: rest) =
      lowerBetween before c rest ++ lowercaseAfter (c :: before) rest := rfl

/-- What stands before the end of a word makes no difference behind it. -/
theorem lowercaseAfter_append_cons (hmark : EndsWord mark) (more text : List Char) :
    ∀ before, lowercaseAfter (before ++ mark :: more) text = lowercaseAfter before text := by
  induction text with
  | nil =>
    intro before
    rfl
  | cons c rest ih =>
    intro before
    have hrest := ih (c :: before)
    rw [List.cons_append] at hrest
    rw [lowercaseAfter_cons, lowercaseAfter_cons, lowerBetween_append_cons_left hmark, hrest]

theorem lowercaseAfter_text_append_cons (hmark : EndsWord mark) (rest text : List Char) :
    ∀ before, lowercaseAfter before (text ++ mark :: rest) =
      lowercaseAfter before text ++ (lowerChar mark ++ lowercase rest) := by
  induction text with
  | nil =>
    intro before
    have hsigma : mark ≠ 'Σ' := by
      rintro rfl
      exact absurd hmark (by decide)
    have hbehind := lowercaseAfter_append_cons hmark before rest []
    rw [List.nil_append] at hbehind
    rw [List.nil_append, lowercaseAfter_cons, lowerBetween, if_neg hsigma, hbehind]
    rfl
  | cons c text ih =>
    intro before
    rw [List.cons_append, lowercaseAfter_cons, lowercaseAfter_cons,
      lowerBetween_append_cons_right hmark, ih, List.append_assoc]

/-- Words are lowered apart from each other. -/
theorem lowercase_append_cons (hmark : EndsWord mark) (text rest : List Char) :
    lowercase (text ++ mark :: rest) = lowercase text ++ (lowerChar mark ++ lowercase rest) :=
  lowercaseAfter_text_append_cons hmark rest text []

end Words

/-! ### Slashes and other signs -/

theorem lowercase_append_slash (text rest : List Char) :
    lowercase (text ++ '/' :: rest) = lowercase text ++ '/' :: lowercase rest := by
  have hslash : lowerChar '/' = ['/'] := by decide +kernel
  rw [lowercase_append_cons (by decide +kernel), hslash]
  rfl

theorem lowercase_joinPieces (parts : List (List Char)) :
    lowercase (joinPieces '/' parts) = joinPieces '/' (parts.map lowercase) := by
  induction parts with
  | nil => rfl
  | cons part later ih =>
    cases later with
    | nil => rfl
    | cons next rest =>
      rw [joinPieces_cons part (List.cons_ne_nil next rest), lowercase_append_slash, ih]
      rfl

theorem mem_lowercaseAfter {c : Char} {text : List Char} :
    ∀ {before}, c ∈ lowercaseAfter before text →
      c = 'ς' ∨ c = 'σ' ∨ ∃ d ∈ text, c ∈ lowerChar d := by
  induction text with
  | nil =>
    intro before hc
    exact absurd hc List.not_mem_nil
  | cons d rest ih =>
    intro before hc
    rw [lowercaseAfter_cons, List.mem_append] at hc
    rcases hc with hc | hc
    · unfold lowerBetween at hc
      split at hc
      · rw [List.mem_singleton, lowerSigma] at hc
        split at hc
        · exact .inl hc
        · exact .inr (.inl hc)
      · exact .inr (.inr ⟨d, List.mem_cons_self, hc⟩)
    · rcases ih hc with hc | hc | ⟨e, he, hc⟩
      · exact .inl hc
      · exact .inr (.inl hc)
      · exact .inr (.inr ⟨e, List.mem_cons_of_mem d he, hc⟩)

/-- Assumes: a sign or a digit before the letters. Only the sign itself is lowered to it. -/
theorem notMem_lowercase {mark : Char} (hmark : mark.toNat ≤ 0x40) {text : List Char}
    (htext : mark ∉ text) : mark ∉ lowercase text := by
  intro hmem
  rcases mem_lowercaseAfter hmem with rfl | rfl | ⟨c, hc, hlower⟩
  · exact absurd hmark (by decide)
  · exact absurd hmark (by decide)
  · have hsigns : (0x0, 0x40) ∈ neverLowered := by simp [neverLowered]
    rw [← eq_of_mem_lowerChar hlower hsigns (Nat.zero_le _) hmark] at hc
    exact htext hc

/-! ### The capitals from `A` to `Z` -/

section Capitals

/-- Assumes: a function that has the same value at the capitals from `A` to `Z` as at their small
letters. It has the same value at every character as at its small letter. -/
theorem apply_toLower {α : Type} (f : Char → α)
    (hcapitals : ∀ code ∈ List.range' 0x41 26, f (Char.ofNat code).toLower = f (Char.ofNat code))
    (c : Char) : f c.toLower = f c := by
  by_cases hcapital : c.val ≥ 'A'.val ∧ c.val ≤ 'Z'.val
  · have hcode : c.toNat ∈ List.range' 0x41 26 :=
      List.mem_range'_1.mpr ⟨hcapital.1, Nat.lt_succ_of_le hcapital.2⟩
    simpa using hcapitals c.toNat hcode
  · have hlower : c.toLower = c := dif_neg hcapital
    rw [hlower]

theorem lowerChar_toLower (c : Char) : lowerChar c.toLower = lowerChar c :=
  apply_toLower lowerChar (by decide +kernel) c

theorem toLower_eq_sigma_iff (c : Char) : c.toLower = 'Σ' ↔ c = 'Σ' := by
  have hsigma := apply_toLower (· == 'Σ') (by decide +kernel) c
  rwa [Bool.eq_iff_iff, beq_iff_eq, beq_iff_eq] at hsigma

theorem isCased_toLower (c : Char) : isCased c.toLower = isCased c :=
  apply_toLower isCased (by decide +kernel) c

theorem isCaseIgnorable_toLower (c : Char) : isCaseIgnorable c.toLower = isCaseIgnorable c :=
  apply_toLower isCaseIgnorable (by decide +kernel) c

theorem casedFirst_map_toLower (text : List Char) :
    casedFirst (text.map Char.toLower) = casedFirst text := by
  induction text with
  | nil => rfl
  | cons c rest ih =>
    by_cases hc : isCaseIgnorable c = true
    · simpa [casedFirst, isCaseIgnorable_toLower, hc] using ih
    · simp [casedFirst, isCaseIgnorable_toLower, isCased_toLower, hc]

theorem lowercaseAfter_map_toLower (text : List Char) :
    ∀ before, lowercaseAfter (before.map Char.toLower) (text.map Char.toLower) =
      lowercaseAfter before text := by
  induction text with
  | nil =>
    intro before
    rfl
  | cons c rest ih =>
    intro before
    have hrest := ih (c :: before)
    rw [List.map_cons] at hrest
    rw [List.map_cons, lowercaseAfter_cons, lowercaseAfter_cons, hrest]
    simp only [lowerBetween, lowerChar_toLower, toLower_eq_sigma_iff, lowerSigma,
      casedFirst_map_toLower]

theorem lowercase_map_toLower (text : List Char) :
    lowercase (text.map Char.toLower) = lowercase text :=
  lowercaseAfter_map_toLower text []

end Capitals

end BlockScope
