import BlockScope.Proofs.LineMap
import BlockScope.Proofs.Scan
import Mathlib.Data.Prod.Lex
import Mathlib.Order.Interval.Set.Defs

/-!
Offsets and positions name the same places of a text. Every offset up to the end of the text is a
character of some line or the end of one, and the map leads there and back; an offset or a position
beyond is first moved to the nearest end. Going on in the text is going on in document order, line
by line and then character by character. The lines that the map counts are the lines that the text
is cut into, so that a span between two characters of a line covers what the line itself has between
them, and is refused only where it would run backwards.
-/

set_option autoImplicit false
set_option relaxedAutoImplicit false

namespace BlockScope

/-! ### Document order -/

namespace Position

/-- The line and then the character. -/
def key (position : Position) : Nat ×ₗ Nat := toLex (position.line, position.character)

theorem key_injective : Function.Injective key := by
  rintro ⟨line, character⟩ ⟨line', character'⟩ hkey
  simpa [key] using hkey

/-- Positions are ordered by line, and on one line by character. -/
instance : LinearOrder Position := LinearOrder.lift' key key_injective

theorem lt_iff {first second : Position} :
    first < second ↔ first.line < second.line ∨
      first.line = second.line ∧ first.character < second.character :=
  Prod.Lex.toLex_lt_toLex

theorem le_iff {first second : Position} :
    first ≤ second ↔ first.line < second.line ∨
      first.line = second.line ∧ first.character ≤ second.character :=
  Prod.Lex.toLex_le_toLex

end Position

/-! ### The line of an offset -/

/-- An offset before the place behind all lines is a character of a line, or its end. -/
theorem exists_line_of_lt_lineStart (lines : List (List Char)) :
    ∀ offset : Nat, offset < lineStart lines lines.length → ∃ number line character,
      lines[number]? = some line ∧ character ≤ line.length ∧
        lineStart lines number + character = offset := by
  induction lines with
  | nil =>
    intro offset hoffset
    simp at hoffset
  | cons line later ih =>
    intro offset hoffset
    rw [List.length_cons, lineStart_cons_succ] at hoffset
    by_cases hinside : offset ≤ line.length
    · exact ⟨0, line, offset, rfl, hinside, by simp⟩
    · obtain ⟨number, found, character, hline, hcharacter, hsum⟩ :=
        ih (offset - (line.length + 1)) (by omega)
      refine ⟨number + 1, found, character, hline, hcharacter, ?_⟩
      rw [lineStart_cons_succ]
      omega

namespace Document

variable {document : Document} {offset number : Nat} {line : List Char}

/-- Assumes: an offset of the text. Its position is on a line, not behind its end, and is reached
from the beginning of the line at that offset. -/
theorem exists_line_positionAt (hoffset : offset ≤ document.chars.length) :
    ∃ line, document.lines[(document.lineMap.positionAt offset).line]? = some line ∧
      (document.lineMap.positionAt offset).character ≤ line.length ∧
      lineStart document.lines (document.lineMap.positionAt offset).line +
        (document.lineMap.positionAt offset).character = offset := by
  obtain ⟨number, line, character, hline, hcharacter, rfl⟩ :=
    exists_line_of_lt_lineStart document.lines offset (by rw [← length_chars_succ]; omega)
  rw [positionAt_lineMap hline hcharacter]
  exact ⟨line, hline, hcharacter, rfl⟩

/-- An offset beyond the text stands for its end. -/
theorem positionAt_min (document : Document) (offset : Nat) :
    document.lineMap.positionAt (min offset document.chars.length) =
      document.lineMap.positionAt offset := by
  have hlength : document.lineMap.length = document.chars.length := rfl
  simp only [LineMap.positionAt, hlength, Nat.min_assoc, Nat.min_self]

theorem offsetAt_positionAt (document : Document) (offset : Nat) :
    document.lineMap.offsetAt (document.lineMap.positionAt offset) =
      min offset document.chars.length := by
  obtain ⟨line, hline, hcharacter, hoffset⟩ :=
    exists_line_positionAt (Nat.min_le_right offset document.chars.length)
  rw [← positionAt_min, offsetAt_lineMap hline hcharacter, hoffset]

theorem strictMonoOn_positionAt (document : Document) :
    StrictMonoOn document.lineMap.positionAt (Set.Iic document.chars.length) := by
  intro first hfirst second hsecond hlt
  obtain ⟨line, hline, hcharacter, hoffset⟩ := exists_line_positionAt hfirst
  obtain ⟨line', hline', hcharacter', hoffset'⟩ := exists_line_positionAt hsecond
  rw [Position.lt_iff, ← lineStart_add_lt_iff hline hline' hcharacter hcharacter', hoffset,
    hoffset']
  exact hlt

theorem lineCount_lineMap (document : Document) :
    document.lineMap.lineCount = document.lines.length := by
  rw [LineMap.lineCount, starts_lineMap, List.length_map, List.length_range]

theorem line_natCast (hline : document.lines[number]? = some line) :
    document.line number = line := by
  rw [Document.line, if_neg (by omega), Int.toNat_natCast, List.getD_eq_getElem?_getD, hline,
    Option.getD_some]

theorem offsetAt_le_length (document : Document) (position : Position) :
    document.lineMap.offsetAt position ≤ document.chars.length := by
  rcases Nat.lt_or_ge position.line document.lines.length with hinside | hbeyond
  · have hline := List.getElem?_eq_getElem hinside
    have hend := lineStart_add_length_lt hline hinside (Nat.le_refl _)
    rw [← length_chars_succ] at hend
    rw [offsetAt_lineMap_min hline]
    omega
  · rw [offsetAt_lineMap_of_le hbeyond]

theorem monotone_offsetAt (document : Document) : Monotone document.lineMap.offsetAt := by
  rintro ⟨number, character⟩ ⟨number', character'⟩ hle
  replace hle : number < number' ∨ number = number' ∧ character ≤ character' :=
    Position.le_iff.mp hle
  rcases Nat.lt_or_ge number' document.lines.length with hinside' | hbeyond
  · have hinside : number < document.lines.length := by omega
    have hline := List.getElem?_eq_getElem hinside
    have hline' := List.getElem?_eq_getElem hinside'
    rw [offsetAt_lineMap_min hline, offsetAt_lineMap_min hline']
    rcases hle with hbefore | ⟨rfl, hcharacter⟩
    · have hend := lineStart_add_length_lt hline hbefore (Nat.le_of_lt hinside')
      omega
    · omega
  · -- The second position stands for the end of the text, and no offset is beyond it.
    have hend : document.lineMap.offsetAt ⟨number', character'⟩ = document.chars.length :=
      offsetAt_lineMap_of_le hbeyond
    rw [hend]
    exact offsetAt_le_length document _

/-- Assumes: a position on a line. The way to its offset and back leads to it, or to the end of the
line if it is beyond. -/
theorem positionAt_offsetAt (hline : document.lines[number]? = some line) (character : Nat) :
    document.lineMap.positionAt (document.lineMap.offsetAt ⟨number, character⟩) =
      ⟨number, min character line.length⟩ := by
  rw [offsetAt_lineMap_min hline, positionAt_lineMap hline (Nat.min_le_right _ _)]

theorem positionAt_length (document : Document) :
    document.lineMap.positionAt document.chars.length =
      ⟨document.lines.length - 1,
        (document.lines.getLast (pieces_ne_nil '\n' document.chars)).length⟩ := by
  have hne : document.lines ≠ [] := pieces_ne_nil '\n' document.chars
  have hpositive := List.length_pos_iff.mpr hne
  have hlast : document.lines[document.lines.length - 1]? = some (document.lines.getLast hne) := by
    rw [← List.getLast?_eq_getElem?, List.getLast?_eq_some_getLast hne]
  rw [length_chars_of_last hlast (by omega), positionAt_lineMap hlast (Nat.le_refl _)]

end Document

/-- In every text offsets and positions are inverse to each other, and each way keeps the order. An
offset beyond the text stands for its end, a character beyond its line for the end of the line, and
a line beyond the last one for the end of the last line. -/
theorem offsetAt_positionAt_inverse (document : Document) :
    (∀ offset, document.lineMap.offsetAt (document.lineMap.positionAt offset) =
      min offset document.chars.length) ∧
    (∀ position, document.lineMap.positionAt (document.lineMap.offsetAt position) =
      if position.line < document.lineMap.lineCount then
        ⟨position.line, min position.character (document.line position.line).length⟩
      else ⟨document.lineMap.lineCount - 1,
        (document.lines.getLast (pieces_ne_nil '\n' document.chars)).length⟩) ∧
    StrictMonoOn document.lineMap.positionAt (Set.Iic document.chars.length) ∧
    Monotone document.lineMap.offsetAt := by
  refine ⟨document.offsetAt_positionAt, fun position ↦ ?_, document.strictMonoOn_positionAt,
    document.monotone_offsetAt⟩
  rw [Document.lineCount_lineMap]
  split
  · rename_i hinside
    have hline := List.getElem?_eq_getElem hinside
    rw [Document.line_natCast hline]
    exact Document.positionAt_offsetAt hline position.character
  · rename_i hbeyond
    rw [Document.offsetAt_lineMap_of_le (Nat.not_lt.mp hbeyond), Document.positionAt_length]

/-! ### Spans on a line -/

/-- Cutting a line at places beyond its end is cutting it at its end. -/
theorem take_drop_min (line : List Char) (first last : Nat) :
    (line.drop (min first line.length)).take (min last line.length - min first line.length) =
      (line.take last).drop first := by
  by_cases hinside : first ≤ line.length
  · rw [Nat.min_eq_left hinside, List.drop_take, List.take_eq_take_iff, List.length_drop]
    omega
  · have hbeyond : line.length ≤ first := Nat.le_of_not_le hinside
    rw [Nat.min_eq_right hbeyond, List.drop_length, List.take_nil, List.drop_eq_nil_of_le]
    rw [List.length_take]
    omega

namespace Document

/-- A span between two characters of a line cannot be given: one of the numbers is negative, or the
line exists and, moved to its end where they are beyond it, the last character comes before the
first. -/
def RefusesSpan (document : Document) (line first last : Int) : Prop :=
  line < 0 ∨ first < 0 ∨ last < 0 ∨
    line < document.lineMap.lineCount ∧
      min last (document.line line).length < min first (document.line line).length

instance (document : Document) (line first last : Int) :
    Decidable (document.RefusesSpan line first last) :=
  inferInstanceAs (Decidable (_ ∨ _))

variable {document : Document}

theorem spanOn_of_negative {line first last : Int}
    (hnegative : line < 0 ∨ first < 0 ∨ last < 0) :
    document.lineMap.spanOn line first last = .error .negativePosition := by
  by_cases hfirst : line < 0 ∨ first < 0
  · rw [LineMap.spanOn, LineMap.offsetOn_of_negative _ hfirst]
    rfl
  · obtain ⟨number, rfl⟩ := Int.eq_ofNat_of_zero_le (by omega : 0 ≤ line)
    obtain ⟨character, rfl⟩ := Int.eq_ofNat_of_zero_le (by omega : 0 ≤ first)
    rw [LineMap.spanOn, LineMap.offsetOn_natCast, offsetOf_reckonedOffset,
      LineMap.offsetOn_of_negative _ (by omega)]
    rfl

/-- Assumes: characters of a line, the last before the first. -/
theorem spanOn_of_inverted {number first last : Nat} {line : List Char}
    (hline : document.lines[number]? = some line)
    (hinverted : min last line.length < min first line.length) :
    document.lineMap.spanOn number first last = .error .invertedSpan := by
  rw [spanOn_natCast, offsetAt_lineMap_min hline, offsetAt_lineMap_min hline,
    Span.ofOffsets, dif_neg (by omega)]

/-- Assumes: characters of a line, the last not before the first. The span between them covers the
part of the line between them. -/
theorem exists_spanOn_slice {number first last : Nat} {line : List Char}
    (hline : document.lines[number]? = some line)
    (hordered : min first line.length ≤ min last line.length) :
    ∃ span, document.lineMap.spanOn number first last = .ok span ∧
      document.slice span = (line.take last).drop first := by
  obtain ⟨span, hspan, -, -, hslice⟩ := exists_spanOn hline hordered (Nat.min_le_right _ _)
  refine ⟨span, ?_, hslice.trans (take_drop_min line first last)⟩
  rw [← hspan]
  simp only [spanOn_natCast, offsetAt_lineMap_min hline, Nat.min_assoc, Nat.min_self]

/-- Beyond the last line every span is empty and stands at the end of the text. -/
theorem exists_spanOn_beyond {number : Nat} (hbeyond : document.lines.length ≤ number)
    (first last : Nat) :
    ∃ span, document.lineMap.spanOn number first last = .ok span ∧ document.slice span = [] := by
  have hoffset : ∀ character, document.lineMap.offsetAt ⟨number, character⟩ =
      document.chars.length := fun _ ↦ offsetAt_lineMap_of_le hbeyond
  refine ⟨⟨_, _, Nat.le_refl document.chars.length⟩, ?_, ?_⟩
  · rw [spanOn_natCast, hoffset, hoffset, Span.ofOffsets, dif_pos (Nat.le_refl _)]
  · rw [Document.slice, Span.slice, Nat.sub_self, List.take_zero]

theorem line_eq_nil_of_le {number : Nat} (hbeyond : document.lines.length ≤ number) :
    document.line number = [] := by
  rw [Document.line, if_neg (by omega), Int.toNat_natCast, List.getD_eq_getElem?_getD,
    List.getElem?_eq_none hbeyond, Option.getD_none]

theorem refusesSpan_natCast_iff {number first last : Nat} :
    document.RefusesSpan number first last ↔ ∃ line, document.lines[number]? = some line ∧
      min last line.length < min first line.length := by
  rw [RefusesSpan, lineCount_lineMap]
  rcases Nat.lt_or_ge number document.lines.length with hinside | hbeyond
  · have hline := List.getElem?_eq_getElem hinside
    rw [line_natCast hline, hline]
    simp only [Option.some.injEq, exists_eq_left']
    omega
  · rw [List.getElem?_eq_none hbeyond]
    simp only [reduceCtorEq, false_and, exists_false, iff_false]
    omega

/-- A span on a line is refused where it should be, and otherwise covers its part of the line. -/
theorem spanOn_refused_or_covers (document : Document) (line first last : Int) :
    (document.RefusesSpan line first last ∧
      ∃ error, document.lineMap.spanOn line first last = .error error) ∨
    (¬ document.RefusesSpan line first last ∧
      ∃ span, document.lineMap.spanOn line first last = .ok span ∧
        document.slice span = ((document.line line).take last.toNat).drop first.toNat) := by
  by_cases hnegative : line < 0 ∨ first < 0 ∨ last < 0
  · exact .inl ⟨by unfold RefusesSpan; omega, _, spanOn_of_negative hnegative⟩
  · obtain ⟨number, rfl⟩ := Int.eq_ofNat_of_zero_le (by omega : 0 ≤ line)
    obtain ⟨first, rfl⟩ := Int.eq_ofNat_of_zero_le (by omega : 0 ≤ first)
    obtain ⟨last, rfl⟩ := Int.eq_ofNat_of_zero_le (by omega : 0 ≤ last)
    rw [refusesSpan_natCast_iff, Int.toNat_natCast, Int.toNat_natCast]
    cases hline : document.lines[number]? with
    | none =>
      have hbeyond := List.getElem?_eq_none_iff.mp hline
      rw [line_eq_nil_of_le hbeyond, List.take_nil, List.drop_nil]
      exact .inr ⟨by simp, exists_spanOn_beyond hbeyond first last⟩
    | some text =>
      rw [line_natCast hline]
      rcases Nat.lt_or_ge (min last text.length) (min first text.length) with hinverted | hordered
      · exact .inl ⟨⟨text, rfl, hinverted⟩, _, spanOn_of_inverted hline hinverted⟩
      · refine .inr ⟨?_, exists_spanOn_slice hline hordered⟩
        rintro ⟨_, ⟨⟩, hinverted⟩
        omega

end Document

/-- The line map and the cutting of a text into lines describe the same lines. They count as many,
and so does the text as a source of lines. For all numbers, a span between two characters of a line
is refused exactly as stated; if it is not, it covers what the line, which is empty beyond the last
one, has between them. -/
theorem spanOn_agrees_with_lines (document : Document) :
    document.lineMap.lineCount = document.lineCount ∧
    document.lineMap.lineCount = document.source.count ∧
    ∀ line first last : Int,
      ((∃ error, document.lineMap.spanOn line first last = .error error) ↔
        document.RefusesSpan line first last) ∧
      (¬ document.RefusesSpan line first last →
        ∃ span, document.lineMap.spanOn line first last = .ok span ∧
          document.slice span = ((document.line line).take last.toNat).drop first.toNat) ∧
      (document.lineMap.lineCount ≤ line → document.line line = []) := by
  have hcount : document.lineMap.lineCount = document.lines.length := document.lineCount_lineMap
  refine ⟨hcount, ?_, fun line first last ↦ ⟨?_, ?_, fun hbeyond ↦ ?_⟩⟩
  · rw [hcount, Document.source, count_ofLines]
  · rcases document.spanOn_refused_or_covers line first last with
      ⟨hrefused, herror⟩ | ⟨hadmitted, span, hspan, -⟩
    · exact iff_of_true herror hrefused
    · refine iff_of_false ?_ hadmitted
      rintro ⟨error, herror⟩
      rw [hspan] at herror
      contradiction
  · intro hadmitted
    exact ((document.spanOn_refused_or_covers line first last).resolve_left
      fun hrefused ↦ hadmitted hrefused.1).2
  · obtain ⟨number, rfl⟩ := Int.eq_ofNat_of_zero_le (by omega : 0 ≤ line)
    exact Document.line_eq_nil_of_le (by omega)

/-- Lines of three, no and four characters, the first with a carriage return. -/
def unevenLines : Document := .ofString "ab\r\n\nabcd"

/-- On the first line the characters five and three are both beyond the end, so nothing is between
them. On the last line the span from five to three would run backwards. -/
theorem spanOn_agrees_with_lines_unevenLines :
    ¬ unevenLines.RefusesSpan 0 5 3 ∧ ¬ unevenLines.RefusesSpan 0 1 9 ∧
      unevenLines.RefusesSpan 2 5 3 ∧ unevenLines.lineMap.lineCount ≤ (3 : Int) ∧
      (∃ span, unevenLines.lineMap.spanOn 0 5 3 = .ok span ∧ unevenLines.slice span = []) ∧
      (∃ span, unevenLines.lineMap.spanOn 0 1 9 = .ok span ∧
        unevenLines.slice span = ['b', '\r']) ∧
      (∃ error, unevenLines.lineMap.spanOn 2 5 3 = .error error) ∧ unevenLines.line 3 = [] := by
  obtain ⟨-, -, hspans⟩ := spanOn_agrees_with_lines unevenLines
  have hempty : ¬ unevenLines.RefusesSpan 0 5 3 := by decide +kernel
  have hclamped : ¬ unevenLines.RefusesSpan 0 1 9 := by decide +kernel
  have hbackwards : unevenLines.RefusesSpan 2 5 3 := by decide +kernel
  have hbeyond : unevenLines.lineMap.lineCount ≤ (3 : Int) := by decide +kernel
  obtain ⟨span, hspan, hslice⟩ := (hspans 0 5 3).2.1 hempty
  obtain ⟨span', hspan', hslice'⟩ := (hspans 0 1 9).2.1 hclamped
  refine ⟨hempty, hclamped, hbackwards, hbeyond, ⟨span, hspan, ?_⟩, ⟨span', hspan', ?_⟩,
    (hspans 2 5 3).1.mpr hbackwards, (hspans 3 0 0).2.2 hbeyond⟩
  · rw [hslice]
    decide +kernel
  · rw [hslice']
    decide +kernel

end BlockScope
