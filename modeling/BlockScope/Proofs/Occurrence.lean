import BlockScope.Text.Occurrence

/-!
What a search from left to right finds. Every occurrence is a match of the recogniser at its place.
The occurrences come in order and do not overlap. A match that is not among them begins inside one
that is, so a recogniser whose matches never overlap has all its matches found.
-/

set_option autoImplicit false
set_option relaxedAutoImplicit false

namespace BlockScope

variable {α : Type} {recognise : Recogniser α}

/-- The recogniser matches a text at an occurrence, with its value and its length. -/
def Occurrence.Matches (recognise : Recogniser α) (text : List Char) (found : Occurrence α) :
    Prop :=
  ∃ lead rest length, text = lead ++ rest ∧ rest ≠ [] ∧ found.start = lead.length ∧
    found.stop = lead.length + length ∧ recognise lead.getLast? rest = some (found.value, length)

/-- One occurrence ends before another begins. -/
def Occurrence.EndsBefore (first second : Occurrence α) : Prop :=
  first.start < second.start ∧ first.stop ≤ second.start

/-- One step to the right leaves the text in front of the search and the text behind it together
as they were. -/
theorem getLast?_concat_length (lead : List Char) (c : Char) :
    (lead ++ [c]).getLast? = some c ∧ (lead ++ [c]).length = lead.length + 1 := by
  simp

theorem matches_of_mem_occurrencesFrom {found : Occurrence α} (rest : List Char) :
    ∀ (lead : List Char) (skip : Nat),
      found ∈ occurrencesFrom recognise lead.getLast? lead.length skip rest →
        found.Matches recognise (lead ++ rest) ∧ lead.length + skip ≤ found.start := by
  induction rest with
  | nil =>
    intro lead skip hfound
    simp [occurrencesFrom] at hfound
  | cons c rest ih =>
    intro lead skip hfound
    obtain ⟨hlast, hlength⟩ := getLast?_concat_length lead c
    have htext : lead ++ c :: rest = (lead ++ [c]) ++ rest := by simp
    cases skip with
    | succ skip =>
      rw [occurrencesFrom, ← hlast, ← hlength] at hfound
      obtain ⟨hmatches, hstart⟩ := ih _ _ hfound
      exact ⟨htext ▸ hmatches, by omega⟩
    | zero =>
      rw [occurrencesFrom] at hfound
      split at hfound
      · rename_i value length hhere
        rcases List.mem_cons.mp hfound with rfl | hlater
        · exact ⟨⟨lead, c :: rest, length, rfl, by simp, rfl, rfl, hhere⟩, Nat.le_refl _⟩
        · rw [← hlast, ← hlength] at hlater
          obtain ⟨hmatches, hstart⟩ := ih _ _ hlater
          exact ⟨htext ▸ hmatches, by omega⟩
      · rw [← hlast, ← hlength] at hfound
        obtain ⟨hmatches, hstart⟩ := ih _ _ hfound
        exact ⟨htext ▸ hmatches, by omega⟩

theorem pairwise_occurrencesFrom (rest : List Char) :
    ∀ (lead : List Char) (skip : Nat),
      (occurrencesFrom recognise lead.getLast? lead.length skip rest).Pairwise
        Occurrence.EndsBefore := by
  induction rest with
  | nil =>
    intro lead skip
    simp [occurrencesFrom]
  | cons c rest ih =>
    intro lead skip
    obtain ⟨hlast, hlength⟩ := getLast?_concat_length lead c
    cases skip with
    | succ skip =>
      rw [occurrencesFrom, ← hlast, ← hlength]
      exact ih _ _
    | zero =>
      rw [occurrencesFrom]
      split
      · rename_i value length hhere
        rw [← hlast, ← hlength]
        refine List.pairwise_cons.mpr ⟨fun later hlater ↦ ?_, ih _ _⟩
        have hstart := (matches_of_mem_occurrencesFrom rest _ _ hlater).2
        constructor
        · change lead.length < later.start
          omega
        · change lead.length + length ≤ later.start
          omega
      · rw [← hlast, ← hlength]
        exact ih _ _

/-- Assumes: a match that does not begin before the end of the skipped text. It is found, or it
begins inside one that is. -/
theorem mem_occurrencesFrom_or_covered {found : Occurrence α} (rest : List Char) :
    ∀ (lead : List Char) (skip : Nat), found.Matches recognise (lead ++ rest) →
      lead.length + skip ≤ found.start →
        found ∈ occurrencesFrom recognise lead.getLast? lead.length skip rest ∨
          ∃ earlier ∈ occurrencesFrom recognise lead.getLast? lead.length skip rest,
            earlier.start < found.start ∧ found.start < earlier.stop := by
  induction rest with
  | nil =>
    intro lead skip hmatches hstart
    obtain ⟨front, back, length, htext, hback, hfront, -, -⟩ := hmatches
    have hlong : lead.length = front.length + back.length := by
      simpa using congrArg List.length htext
    have hpositive : 0 < back.length := List.length_pos_iff.mpr hback
    omega
  | cons c rest ih =>
    intro lead skip hmatches hstart
    obtain ⟨hlast, hlength⟩ := getLast?_concat_length lead c
    have htext : lead ++ c :: rest = (lead ++ [c]) ++ rest := by simp
    have hlater := htext ▸ hmatches
    cases skip with
    | succ skip =>
      rw [occurrencesFrom, ← hlast, ← hlength]
      exact ih _ _ hlater (by omega)
    | zero =>
      rw [occurrencesFrom]
      by_cases hhere : found.start = lead.length
      · -- The match begins here, so the recogniser is asked about the very text of the match.
        obtain ⟨front, back, length, hsplit, -, hfront, hstop, hvalue⟩ := hmatches
        obtain ⟨rfl, rfl⟩ := List.append_inj hsplit (by omega)
        rw [hvalue]
        left
        refine List.mem_cons.mpr (Or.inl ?_)
        cases found
        simp_all
      · split
        · rename_i value length hfirst
          by_cases hinside : found.start < lead.length + length
          · right
            exact ⟨_, List.mem_cons_self, by change lead.length < found.start; omega, hinside⟩
          · rw [← hlast, ← hlength]
            rcases ih (lead ++ [c]) (length - 1) hlater (by omega) with hmem | ⟨earlier, hmem, h⟩
            · exact Or.inl (List.mem_cons_of_mem _ hmem)
            · exact Or.inr ⟨earlier, List.mem_cons_of_mem _ hmem, h⟩
        · rw [← hlast, ← hlength]
          exact ih _ _ hlater (by omega)

theorem matches_of_mem_occurrences {text : List Char} {found : Occurrence α}
    (hfound : found ∈ occurrences recognise text) : found.Matches recognise text :=
  (matches_of_mem_occurrencesFrom text [] 0 hfound).1

theorem pairwise_occurrences (recognise : Recogniser α) (text : List Char) :
    (occurrences recognise text).Pairwise Occurrence.EndsBefore :=
  pairwise_occurrencesFrom text [] 0

theorem mem_occurrences_or_covered {text : List Char} {found : Occurrence α}
    (hmatches : found.Matches recognise text) :
    found ∈ occurrences recognise text ∨
      ∃ earlier ∈ occurrences recognise text,
        earlier.start < found.start ∧ found.start < earlier.stop :=
  mem_occurrencesFrom_or_covered text [] 0 hmatches (Nat.zero_le _)

/-- Of two occurrences the one that begins first also ends before the other begins. -/
theorem stop_le_start_of_mem_occurrences {text : List Char} {first second : Occurrence α}
    (hfirst : first ∈ occurrences recognise text) (hsecond : second ∈ occurrences recognise text)
    (hstart : first.start < second.start) : first.stop ≤ second.start := by
  have horder := List.pairwise_iff_getElem.mp (pairwise_occurrences recognise text)
  obtain ⟨i, hi, rfl⟩ := List.mem_iff_getElem.mp hfirst
  obtain ⟨j, hj, rfl⟩ := List.mem_iff_getElem.mp hsecond
  rcases Nat.lt_trichotomy i j with hij | rfl | hji
  · exact (horder i j hi hj hij).2
  · exact absurd hstart (Nat.lt_irrefl _)
  · have hreverse := (horder j i hj hi hji).1
    omega

/-- Assumes: no match begins inside another one. Then every match is found. -/
theorem mem_occurrences_iff {text : List Char}
    (hapart : ∀ first second : Occurrence α, first.Matches recognise text →
      second.Matches recognise text → first.start < second.start → first.stop ≤ second.start)
    {found : Occurrence α} :
    found ∈ occurrences recognise text ↔ found.Matches recognise text := by
  constructor
  · exact matches_of_mem_occurrences
  · intro hmatches
    rcases mem_occurrences_or_covered hmatches with hmem | ⟨earlier, hmem, hstart, hstop⟩
    · exact hmem
    · have := hapart earlier found (matches_of_mem_occurrences hmem) hmatches hstart
      omega

end BlockScope
