import BlockScope.Context
import BlockScope.Proofs.Enclosing
import BlockScope.Proofs.LineMap

/-!
What is known about a position comes from the lines before it, the last of them cut there. The scan
walks over these lines forwards, and the search for the name of a block reads them backwards, so
two positions with the same lines before them cannot be told apart, in one document or in two. The
text up to the offset of a position has exactly these lines. Nothing that stands behind a position
therefore makes a difference to it.
-/

set_option autoImplicit false
set_option relaxedAutoImplicit false

namespace BlockScope

/-! ### A scan walks over the lines before its position -/

namespace Nesting

/-- The nesting behind some more lines, the first of which has a number. -/
def walkLines : Nesting → Nat → List (List Char) → Nesting
  | nesting, _, [] => nesting
  | nesting, number, line :: rest =>
    (nesting.walk number (braceMarks (uncommented line))).walkLines (number + 1) rest

@[simp] theorem walkLines_nil (nesting : Nesting) (number : Nat) :
    nesting.walkLines number [] = nesting := rfl

theorem walkLines_cons (nesting : Nesting) (number : Nat) (line : List Char)
    (rest : List (List Char)) :
    nesting.walkLines number (line :: rest) =
      (nesting.walk number (braceMarks (uncommented line))).walkLines (number + 1) rest := rfl

theorem walkLines_append (above below : List (List Char)) :
    ∀ (nesting : Nesting) (number : Nat), nesting.walkLines number (above ++ below) =
      (nesting.walkLines number above).walkLines (number + above.length) below := by
  induction above with
  | nil =>
    intro nesting number
    rfl
  | cons line above ih =>
    intro nesting number
    rw [List.cons_append, walkLines_cons, walkLines_cons, ih, List.length_cons, Nat.add_assoc,
      Nat.add_comm 1]

/-- Assumes: a relation between nestings that no brace breaks, on whatever lines it is met. Walking
over the same lines, numbered in two ways, keeps the relation. -/
theorem walkLines_related {related : Nesting → Nesting → Prop}
    (hstep : ∀ (first second : Nesting) (line line' : Nat) (mark : BraceMark),
      related first second → related (first.step line mark) (second.step line' mark))
    (lines : List (List Char)) :
    ∀ {first second : Nesting} (number number' : Nat), related first second →
      related (first.walkLines number lines) (second.walkLines number' lines) := by
  have hwalk : ∀ (line line' : Nat) (marks : List BraceMark) {first second : Nesting},
      related first second → related (first.walk line marks) (second.walk line' marks) := by
    intro line line' marks
    induction marks with
    | nil =>
      intro first second hrelated
      exact hrelated
    | cons mark marks ih =>
      intro first second hrelated
      exact ih (hstep first second line line' mark hrelated)
  induction lines with
  | nil =>
    intro first second number number' hrelated
    exact hrelated
  | cons line rest ih =>
    intro first second number number' hrelated
    exact ih _ _ (hwalk number number' _ hrelated)

end Nesting

theorem nestingBefore_ofLines (lines : List (List Char)) (position : Position) :
    nestingBefore (.ofLines lines) position =
      Nesting.empty.walkLines 0 (linesBefore lines position) := by
  have hcount : min (position.line + 1) (LineSource.ofLines lines).count.toNat =
      (linesBefore lines position).length := by
    rw [count_ofLines, Int.toNat_natCast, length_linesBefore]
  have hfirst : ∀ count ≤ (linesBefore lines position).length,
      (List.range count).foldl (fun nesting number ↦ nesting.walk number
        (braceMarks (visibleText (.ofLines lines) position number))) .empty =
          Nesting.empty.walkLines 0 ((linesBefore lines position).take count) := by
    intro count
    induction count with
    | zero =>
      intro _
      rfl
    | succ count ih =>
      intro hle
      have hline := List.getElem?_eq_getElem (Nat.lt_of_succ_le hle)
      rw [List.range_succ, List.foldl_append, ih (by omega), List.foldl_cons, List.foldl_nil,
        visibleText_ofLines hline, List.take_add_one, hline, Option.toList_some,
        Nesting.walkLines_append, List.length_take_of_le (by omega), Nat.zero_add,
        Nesting.walkLines_cons, Nesting.walkLines_nil]
  rw [nestingBefore, hcount, hfirst _ (Nat.le_refl _), List.take_length]

/-- The place behind the last line has all lines before it. -/
theorem linesBefore_length (lines : List (List Char)) :
    linesBefore lines ⟨lines.length, 0⟩ = lines := by
  simp [linesBefore]

theorem enclosingName?_eq_searchLines (lines : List (List Char)) (position : Position) :
    enclosingName? lines position.line position.character =
      .ok (searchLines 0 (linesBefore lines position).reverse) := by
  rw [enclosingName?, scanPosition_coordinates]
  rfl

/-! ### Positions that cannot be told apart -/

/-- Nothing that is known about a position of one document tells it from a position of another: a
scan finds the same nesting, it resolves to the same context whatever the root type and the
vocabulary, and the search backwards finds the same name. -/
structure SameContext (first : Document) (position : Position) (second : Document)
    (position' : Position) : Prop where
  scan : ∃ nesting, scanAt first.source position.line position.character = .ok nesting ∧
    scanAt second.source position'.line position'.character = .ok nesting
  resolve : ∀ (vocabulary : Vocabulary) (root : Option ObjectType) (path : Option String),
    resolveDocument vocabulary root path first position.line position.character =
      resolveDocument vocabulary root path second position'.line position'.character
  enclosing : ∃ name, enclosingName? first.lines position.line position.character = .ok name ∧
    enclosingName? second.lines position'.line position'.character = .ok name

/-- Assumes: the walk over the lines before two positions ends with the same nesting, and so does
the search through them with the same name. -/
theorem SameContext.of_linesBefore {first second : Document} {position position' : Position}
    (hwalk : Nesting.empty.walkLines 0 (linesBefore first.lines position) =
      Nesting.empty.walkLines 0 (linesBefore second.lines position'))
    (hsearch : searchLines 0 (linesBefore first.lines position).reverse =
      searchLines 0 (linesBefore second.lines position').reverse) :
    SameContext first position second position' := by
  have hnesting : nestingBefore first.source position = nestingBefore second.source position' := by
    rw [Document.source, Document.source, nestingBefore_ofLines, nestingBefore_ofLines, hwalk]
  refine ⟨⟨_, scanAt_coordinates _ _, ?_⟩, fun vocabulary root path ↦ ?_,
    ⟨_, enclosingName?_eq_searchLines _ _, ?_⟩⟩
  · rw [scanAt_coordinates, hnesting]
  · simp only [resolveDocument, resolveAt, scanAt_coordinates, hnesting]
  · rw [enclosingName?_eq_searchLines, hsearch]

/-! ### The text up to a position -/

/-- The text of a document up to an offset. -/
def Document.upTo (document : Document) (offset : Nat) : Document :=
  ⟨document.chars.take offset⟩

/-- Every position stands for a character of a line, or for the end of one. -/
theorem exists_line_of_position (document : Document) (position : Position) :
    ∃ number line character, document.lines[number]? = some line ∧ character ≤ line.length ∧
      document.lineMap.offsetAt position = lineStart document.lines number + character ∧
      linesBefore document.lines position =
        document.lines.take number ++ [line.take character] := by
  by_cases hinside : position.line < document.lines.length
  · have hline := List.getElem?_eq_getElem hinside
    refine ⟨position.line, _, min position.character document.lines[position.line].length, hline,
      Nat.min_le_right _ _, ?_, ?_⟩
    · exact Document.offsetAt_lineMap_min hline position.character
    · rw [linesBefore, List.head?_drop, hline, ← List.take_take, List.take_length]
      rfl
  · -- Beyond the last line the position stands for the end of that line.
    obtain ⟨above, last, hlines⟩ : ∃ above last, document.lines = above ++ [last] :=
      ⟨_, _, (List.dropLast_concat_getLast (pieces_ne_nil '\n' document.chars)).symm⟩
    have hline : document.lines[above.length]? = some last := by simp [hlines]
    refine ⟨above.length, last, last.length, hline, Nat.le_refl _, ?_, ?_⟩
    · rw [Document.offsetAt_lineMap_of_le (Nat.not_lt.mp hinside)]
      exact Document.length_chars_of_last hline (by simp [hlines])
    · rw [linesBefore, List.head?_drop, List.getElem?_eq_none (by omega),
        List.take_of_length_le (by omega), hlines]
      simp

/-- The text up to a position has, before the place where it ends, the lines before the
position. -/
theorem linesBefore_upTo (document : Document) (position : Position) :
    linesBefore (document.upTo (document.lineMap.offsetAt position)).lines
        (document.lineMap.positionAt (document.lineMap.offsetAt position)) =
      linesBefore document.lines position := by
  obtain ⟨number, line, character, hline, hcharacter, hoffset, hbefore⟩ :=
    exists_line_of_position document position
  have hcount : (document.lines.take number).length = number :=
    List.length_take_of_le (Nat.le_of_lt (List.getElem?_eq_some_iff.mp hline).1)
  rw [hoffset, Document.positionAt_lineMap hline hcharacter, Document.upTo,
    Document.lines_take hline hcharacter, hbefore, linesBefore]
  simp only [List.take_left' hcount, List.drop_left' hcount]
  simp [List.take_take]

/-- What is known about a position depends only on the text before it: at the end of the text up to
the offset of the position the same is known. Positions beyond the end of a line or of the document
are included, and stand for that end. -/
theorem sameContext_upTo (document : Document) (position : Position) :
    SameContext document position (document.upTo (document.lineMap.offsetAt position))
      (document.lineMap.positionAt (document.lineMap.offsetAt position)) := by
  refine .of_linesBefore ?_ ?_
  · rw [linesBefore_upTo]
  · rw [linesBefore_upTo]

end BlockScope
