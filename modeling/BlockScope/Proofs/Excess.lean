import BlockScope.Proofs.OpenBraces
import Mathlib.Order.Bounds.Basic

/-!
The counts of a scan in closed form. A scan counts brace by brace and never below zero: a closing
brace with nothing to close is set aside. Written down for the whole text, the braces set aside are
the largest excess of closing over opening braces that the text reaches anywhere, because a brace is
set aside exactly where the excess rises above all that was before. The open braces are the rest of
the balance. Both are carried along the text together, one brace at a time.
-/

set_option autoImplicit false
set_option relaxedAutoImplicit false

namespace BlockScope

def isBrace (c : Char) : Bool := c == '{' || c == '}'

/-- The braces outside comments that precede a position, as a word. -/
def braceWord (source : LineSource) (position : Position) : List Char :=
  ((textBefore source position).map (·.2)).filter isBrace

/-- How many more closing braces than opening ones a word has. -/
def excess (word : List Char) : Int := word.count '}' - word.count '{'

/-- The excesses that a word reaches, from its beginning to its end. -/
def excesses (word : List Char) : Set Int :=
  {reached | ∃ front, front <+: word ∧ excess front = reached}

theorem excess_concat_opening (word : List Char) : excess (word ++ ['{']) = excess word - 1 := by
  have hcounts : ['{'].count '{' = 1 ∧ ['{'].count '}' = 0 := by decide
  rw [excess, excess, List.count_append, List.count_append, hcounts.1, hcounts.2]
  omega

theorem excess_concat_closing (word : List Char) : excess (word ++ ['}']) = excess word + 1 := by
  have hcounts : ['}'].count '{' = 0 ∧ ['}'].count '}' = 1 := by decide
  rw [excess, excess, List.count_append, List.count_append, hcounts.1, hcounts.2]
  omega

theorem excesses_nil : excesses [] = {0} := by
  ext reached
  simp [excesses, excess, eq_comm]

theorem excesses_concat (word : List Char) (c : Char) :
    excesses (word ++ [c]) = insert (excess (word ++ [c])) (excesses word) := by
  ext reached
  simp only [excesses, List.prefix_concat_iff, Set.mem_ofPred_eq, Set.mem_insert_iff]
  constructor
  · rintro ⟨front, rfl | hfront, rfl⟩
    · exact .inl rfl
    · exact .inr ⟨front, hfront, rfl⟩
  · rintro (rfl | ⟨front, hfront, rfl⟩)
    · exact ⟨_, .inl rfl, rfl⟩
    · exact ⟨front, .inr hfront, rfl⟩

namespace UnmatchedBraces

/-- The counts of a walk belong to a word: the strays are the largest excess that the word reaches,
and the open braces are what is missing from the excess of the whole word to it. -/
structure Counts (word : List Char) (braces : UnmatchedBraces) : Prop where
  strays : IsGreatest (excesses word) braces.closings.length
  opened : (braces.openings.length : Int) = braces.closings.length - excess word

variable {word : List Char} {braces : UnmatchedBraces}

theorem counts_nil : Counts [] ⟨[], []⟩ := by
  refine ⟨?_, rfl⟩
  rw [excesses_nil]
  exact isGreatest_singleton

/-- Assumes: the strays rise to the excess behind one more brace if that is above them, and the open
braces make up the difference again. -/
theorem Counts.concat (hcounts : Counts word braces) {c : Char} {next : UnmatchedBraces}
    (hstrays : (next.closings.length : Int) = max (excess (word ++ [c])) braces.closings.length)
    (hopened : (next.openings.length : Int) = next.closings.length - excess (word ++ [c])) :
    Counts (word ++ [c]) next := by
  refine ⟨?_, hopened⟩
  rw [excesses_concat, hstrays]
  exact hcounts.strays.insert _

theorem Counts.opening (hcounts : Counts word braces) (position : Position) :
    Counts (word ++ ['{']) (braces.meet position '{') := by
  have hopened := hcounts.opened
  refine hcounts.concat ?_ ?_
  · simp only [meet_opening, excess_concat_opening]
    omega
  · simp only [meet_opening, excess_concat_opening, List.length_cons]
    omega

theorem Counts.closing (hcounts : Counts word braces) (position : Position) :
    Counts (word ++ ['}']) (braces.meet position '}') := by
  have hopened := hcounts.opened
  obtain ⟨openings, closings⟩ := braces
  cases openings with
  | nil =>
    -- Nothing is open, so the excess was at its largest and now rises above it.
    simp only [List.length_nil] at hopened
    refine hcounts.concat ?_ ?_
    · simp only [meet_closing_nil, excess_concat_closing, List.length_cons]
      omega
    · simp only [meet_closing_nil, excess_concat_closing, List.length_nil, List.length_cons]
      omega
  | cons inner outer =>
    simp only [List.length_cons] at hopened
    refine hcounts.concat ?_ ?_
    · simp only [meet_closing_cons, excess_concat_closing]
      omega
    · simp only [meet_closing_cons, excess_concat_closing]
      omega

theorem Counts.meetAll (text : List (Position × Char)) :
    ∀ {word : List Char} {braces : UnmatchedBraces}, Counts word braces →
      Counts (word ++ (text.map (·.2)).filter isBrace) (braces.meetAll text) := by
  induction text with
  | nil =>
    intro word braces hcounts
    simpa using hcounts
  | cons placed rest ih =>
    intro word braces hcounts
    obtain ⟨position, c⟩ := placed
    rw [List.map_cons, meetAll_cons]
    by_cases hopen : c = '{'
    · subst hopen
      rw [List.filter_cons_of_pos rfl, List.append_cons]
      exact ih (hcounts.opening position)
    · by_cases hclose : c = '}'
      · subst hclose
        rw [List.filter_cons_of_pos rfl, List.append_cons]
        exact ih (hcounts.closing position)
      · rw [List.filter_cons_of_neg (by simp [isBrace, hopen, hclose]),
          meet_of_ne _ _ hopen hclose]
        exact ih hcounts

end UnmatchedBraces

theorem counts_bracesBefore (source : LineSource) (position : Position) :
    (bracesBefore source position).Counts (braceWord source position) :=
  .meetAll (textBefore source position) UnmatchedBraces.counts_nil

/-- At most the open braces below the outermost one have frames. -/
theorem Nesting.Tracks.length_frames_le {headerOf : Position → Option Header}
    {braces : UnmatchedBraces} {nesting : Nesting} (htracks : Tracks headerOf braces nesting) :
    nesting.frames.length ≤ nesting.depth - 1 := by
  have hlength := congrArg List.length htracks.frames
  rw [List.length_map] at hlength
  rw [hlength, htracks.depth]
  refine (List.length_filterMap_le _ _).trans ?_
  rw [List.length_tail, List.length_reverse]

/-- At every position the strays of a scan are the largest excess of closing over opening braces
among all beginnings of the braces before the position, and its depth is the excess of opening over
closing braces with the strays added. So the depth does not fall below zero, and at most the braces
below the outermost one have frames. -/
theorem scanAt_counts_braces (source : LineSource) (position : Position) :
    ∃ nesting, scanAt source position.line position.character = .ok nesting ∧
      IsGreatest (excesses (braceWord source position)) nesting.strayCount ∧
      (nesting.depth : Int) = (braceWord source position).count '{' -
        (braceWord source position).count '}' + nesting.strayCount ∧
      (0 : Int) ≤ (braceWord source position).count '{' -
        (braceWord source position).count '}' + nesting.strayCount ∧
      (nesting.frames.length : Int) ≤ max ((nesting.depth : Int) - 1) 0 := by
  have htracks := tracks_nestingBefore source position
  obtain ⟨hstrays, hopened⟩ := counts_bracesBefore source position
  rw [← htracks.strays] at hstrays hopened
  rw [← htracks.depth, excess] at hopened
  have hframes := htracks.length_frames_le
  have hcount : (nestingBefore source position).strayCount =
      (nestingBefore source position).strays.length := rfl
  refine ⟨_, scanAt_coordinates source position, hstrays, ?_, ?_, ?_⟩
  · omega
  · omega
  · omega

end BlockScope
