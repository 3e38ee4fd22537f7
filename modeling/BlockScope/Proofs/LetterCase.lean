import BlockScope.Text.Blank
import BlockScope.Text.Lowercase

/-!
The tables of letter case. No code point that they lower to is a capital, so the characters of a
lower-case form are lowered to themselves. None of them is a blank, a digit or a sign before the
letters, so these come from no other character.
-/

set_option autoImplicit false
set_option relaxedAutoImplicit false

namespace BlockScope

/-! ### Code points that are lowered to -/

namespace CapitalRun

variable {run other : CapitalRun} {code lowered : Nat}

/-- The last code point that the run lowers to. -/
def lowerLast (run : CapitalRun) : Nat := run.lower + (run.last - run.first)

theorem lower?_eq_some_iff :
    run.lower? code = some lowered ↔ run.first ≤ code ∧ code ≤ run.last ∧
      (code - run.first) % run.stride = 0 ∧ run.lower + (code - run.first) = lowered := by
  simp only [lower?, Option.ite_none_right_eq_some, Bool.and_eq_true, decide_eq_true_eq, beq_iff_eq,
    Option.some.injEq, and_assoc]

theorem le_lowerLast_of_lower? (hlowered : run.lower? code = some lowered) :
    run.lower ≤ lowered ∧ lowered ≤ run.lowerLast := by
  obtain ⟨hfirst, hlast, -, rfl⟩ := lower?_eq_some_iff.mp hlowered
  unfold lowerLast
  omega

/-- Whether no code point that a run lowers to is a capital of another run. Either the code points
lie apart, or they lie between capitals that stand at every second code point. -/
def clearOf (run other : CapitalRun) : Bool :=
  Nat.blt other.last run.lower || Nat.blt run.lowerLast other.first ||
    (other.stride == 2 && (run.lower + other.first) % 2 == 1 &&
      (run.stride == 2 || run.first == run.last))

theorem lower?_eq_none_of_clearOf (hclear : run.clearOf other = true)
    (hlowered : run.lower? code = some lowered) : other.lower? lowered = none := by
  obtain ⟨hlower, hlowerLast⟩ := le_lowerLast_of_lower? hlowered
  obtain ⟨hfirst, hlast, hstride, rfl⟩ := lower?_eq_some_iff.mp hlowered
  refine Option.eq_none_iff_forall_ne_some.mpr fun twice htwice ↦ ?_
  obtain ⟨hfirst', hlast', hstride', -⟩ := lower?_eq_some_iff.mp htwice
  simp only [clearOf, Bool.or_eq_true, Bool.and_eq_true, Nat.blt_eq, beq_iff_eq] at hclear
  rcases hclear with (hbelow | habove) | ⟨⟨hsecond, hodd⟩, hsteps⟩
  · omega
  · omega
  · rw [hsecond] at hstride'
    rcases hsteps with hsteps | hsteps
    · rw [hsteps] at hstride
      omega
    · omega

end CapitalRun

section Tables

variable {run other : CapitalRun}

theorem clearOf_of_mem (hrun : run ∈ capitalRuns) (hother : other ∈ capitalRuns) :
    run.clearOf other = true := by
  -- All pairs of runs are compared, which is why `clearOf` is a test and compares with `Nat.blt`.
  have htables : (capitalRuns.all fun run ↦ capitalRuns.all run.clearOf) = true := by
    decide +kernel
  exact List.all_eq_true.mp (List.all_eq_true.mp htables run hrun) other hother

/-- Code points that no run lowers to: the signs and digits before the letters, the capital with a
lower-case form of two characters, the codes that belong to no character, and the blanks. -/
def neverLowered : List (Nat × Nat) :=
  (0x0, 0x40) :: (0x130, 0x130) :: (0xD800, 0xDFFF) :: blankRanges

theorem lowerLast_lt_or_lt_lower (hrun : run ∈ capitalRuns) {range : Nat × Nat}
    (hrange : range ∈ neverLowered) : run.lowerLast < range.1 ∨ range.2 < run.lower := by
  have htables : ∀ run ∈ capitalRuns, ∀ range ∈ neverLowered,
      run.lowerLast < range.1 ∨ range.2 < run.lower := by
    decide +kernel
  exact htables run hrun range hrange

theorem toNat_ofNat_of_lower? (hrun : run ∈ capitalRuns) {code lowered : Nat}
    (hlowered : run.lower? code = some lowered) : (Char.ofNat lowered).toNat = lowered := by
  have hbound : ∀ run ∈ capitalRuns, run.lowerLast < 0x110000 := by decide +kernel
  obtain ⟨hlower, hlast⟩ := CapitalRun.le_lowerLast_of_lower? hlowered
  have hsurrogates : (0xD800, 0xDFFF) ∈ neverLowered := by simp [neverLowered]
  have hvalid : lowered.isValidChar := by
    have hlimit := hbound run hrun
    rcases lowerLast_lt_or_lt_lower hrun hsurrogates with hlow | hhigh
    · exact .inl (by omega)
    · exact .inr (by omega)
  have hsame : Char.ofNat lowered = Char.ofNatAux lowered hvalid := dif_pos hvalid
  rw [hsame]
  rfl

end Tables

/-! ### Lower-case forms -/

section Characters

variable {c d : Char}

theorem lowerChar_eq_self (hdotted : c ≠ 'İ')
    (hruns : ∀ run ∈ capitalRuns, run.lower? c.toNat = none) : lowerChar c = [c] := by
  rw [lowerChar, if_neg hdotted, List.findSome?_eq_none_iff.mpr hruns]

/-- The small letters from `a` to `z` and the signs between them and the capitals. -/
theorem lowerChar_eq_self_of_lt (hfirst : 0x5B ≤ c.toNat) (hlast : c.toNat < 0x80) :
    lowerChar c = [c] := by
  have hruns : ∀ run ∈ capitalRuns, run.last < 0x5B ∨ 0x80 ≤ run.first := by decide +kernel
  refine lowerChar_eq_self ?_ fun run hrun ↦ ?_
  · rintro rfl
    exact absurd hlast (by decide)
  · refine Option.eq_none_iff_forall_ne_some.mpr fun code hcode ↦ ?_
    obtain ⟨hbegin, hend, -, -⟩ := CapitalRun.lower?_eq_some_iff.mp hcode
    have hapart := hruns run hrun
    omega

/-- A character of a lower-case form is the character itself, or it belongs to the one form that has
two characters, or a run lowers to it. -/
theorem mem_lowerChar_cases (hd : d ∈ lowerChar c) :
    (d = c ∧ lowerChar c = [c]) ∨ (d = 'i' ∨ d = '\u0307') ∨
      ∃ run ∈ capitalRuns, run.lower? c.toNat = some d.toNat := by
  by_cases hdotted : c = 'İ'
  · rw [lowerChar, if_pos hdotted] at hd
    exact .inr (.inl (by simpa using hd))
  · cases hfound : capitalRuns.findSome? fun run ↦ run.lower? c.toNat with
    | none =>
      have hself := lowerChar_eq_self hdotted (List.findSome?_eq_none_iff.mp hfound)
      rw [hself, List.mem_singleton] at hd
      exact .inl ⟨hd, hself⟩
    | some code =>
      rw [lowerChar, if_neg hdotted, hfound, List.mem_singleton] at hd
      obtain ⟨run, hrun, hlower⟩ := List.exists_of_findSome?_eq_some hfound
      refine .inr (.inr ⟨run, hrun, ?_⟩)
      rw [hd, toNat_ofNat_of_lower? hrun hlower, hlower]

/-- Lower-case forms are lowered to themselves. -/
theorem lowerChar_of_mem_lowerChar (hd : d ∈ lowerChar c) : lowerChar d = [d] := by
  rcases mem_lowerChar_cases hd with ⟨rfl, hself⟩ | (rfl | rfl) | ⟨run, hrun, hlower⟩
  · exact hself
  · decide +kernel
  · decide +kernel
  · refine lowerChar_eq_self ?_ fun other hother ↦
      CapitalRun.lower?_eq_none_of_clearOf (clearOf_of_mem hrun hother) hlower
    rintro rfl
    have hdotted : (0x130, 0x130) ∈ neverLowered := by simp [neverLowered]
    have hapart := lowerLast_lt_or_lt_lower hrun hdotted
    have hcode : 'İ'.toNat = 0x130 := rfl
    have hbounds := CapitalRun.le_lowerLast_of_lower? hlower
    omega

/-- Assumes: a character of a lower-case form that no run lowers to. -/
theorem eq_of_mem_lowerChar (hd : d ∈ lowerChar c) {range : Nat × Nat}
    (hrange : range ∈ neverLowered) (hfirst : range.1 ≤ d.toNat) (hlast : d.toNat ≤ range.2) :
    d = c := by
  have hdotted : ∀ range ∈ neverLowered, ∀ code ∈ [0x69, 0x307],
      ¬(range.1 ≤ code ∧ code ≤ range.2) := by
    decide
  rcases mem_lowerChar_cases hd with ⟨hsame, -⟩ | (rfl | rfl) | ⟨run, hrun, hlower⟩
  · exact hsame
  · exact absurd ⟨hfirst, hlast⟩ (hdotted range hrange _ (by simp))
  · exact absurd ⟨hfirst, hlast⟩ (hdotted range hrange _ (by simp))
  · have hapart := lowerLast_lt_or_lt_lower hrun hrange
    have hbounds := CapitalRun.le_lowerLast_of_lower? hlower
    omega

theorem isBlank_of_mem_lowerChar (hd : d ∈ lowerChar c) (hc : isBlank c = false) :
    isBlank d = false := by
  refine Bool.eq_false_iff.mpr fun hblank ↦ ?_
  obtain ⟨range, hrange, hfirst, hlast⟩ := exists_range_of_inRanges hblank
  have hsame := eq_of_mem_lowerChar hd (by simp [neverLowered, hrange]) hfirst hlast
  rw [hsame, hc] at hblank
  exact absurd hblank Bool.false_ne_true

theorem lowerChar_ne_nil (c : Char) : lowerChar c ≠ [] := by
  unfold lowerChar
  split
  · exact List.cons_ne_nil _ _
  · split <;> exact List.cons_ne_nil _ _

end Characters

end BlockScope
