import BlockScope.Context
import BlockScope.Proofs.Header

/-!
Scans and cutting. The header of a brace is the one that the text before it ends with, so the
braces of a line that has been cut are those of the whole line up to the cut. A comment is cut off
in the same way whether the line is cut before or after it. The nesting at a position is therefore
the nesting behind the lines above, walked on over the braces of the whole line that stand before
the position.
-/

set_option autoImplicit false
set_option relaxedAutoImplicit false

namespace BlockScope

theorem line_ofLines (lines : List (List Char)) (number : Nat) :
    (LineSource.ofLines lines).line number = lines.getD number [] := by
  simp [LineSource.ofLines]

theorem count_ofLines (lines : List (List Char)) :
    (LineSource.ofLines lines).count = lines.length := by
  simp [LineSource.ofLines]

/-- The braces of the rest of a line, behind its beginning `front`. The header of a brace is read
from the text before it. -/
def marksBehind (front : List Char) : List Char → List BraceMark
  | [] => []
  | c :: rest =>
    if c = '{' then
      ⟨front.length, .opening (Header.atEnd? front)⟩ :: marksBehind (front ++ [c]) rest
    else if c = '}' then ⟨front.length, .closing⟩ :: marksBehind (front ++ [c]) rest
    else marksBehind (front ++ [c]) rest

theorem braceMarksFrom_openings (rest : List Char) :
    ∀ front : List Char, braceMarksFrom (Header.openings (front ++ rest)) front.length rest =
      marksBehind front rest := by
  induction rest with
  | nil =>
    intro front
    rfl
  | cons c rest ih =>
    intro front
    have hnext := ih (front ++ [c])
    rw [List.append_assoc, List.singleton_append, List.length_append, List.length_singleton]
      at hnext
    rw [braceMarksFrom, marksBehind, hnext]
    by_cases hopen : c = '{'
    · rw [if_pos hopen, if_pos hopen, hopen, Header.headerAt?_openings]
    · rw [if_neg hopen, if_neg hopen]

theorem braceMarks_eq_marksBehind (text : List Char) : braceMarks text = marksBehind [] text :=
  braceMarksFrom_openings text []

theorem le_column_of_mem_marksBehind {mark : BraceMark} (rest : List Char) :
    ∀ front : List Char, mark ∈ marksBehind front rest → front.length ≤ mark.column := by
  induction rest with
  | nil =>
    intro front hmark
    simp [marksBehind] at hmark
  | cons c rest ih =>
    intro front hmark
    have hlater : mark ∈ marksBehind (front ++ [c]) rest → front.length ≤ mark.column := by
      intro h
      have hcolumn := ih _ h
      rw [List.length_append, List.length_singleton] at hcolumn
      omega
    rw [marksBehind] at hmark
    split at hmark
    · rcases List.mem_cons.mp hmark with rfl | hmark
      · exact Nat.le_refl _
      · exact hlater hmark
    · split at hmark
      · rcases List.mem_cons.mp hmark with rfl | hmark
        · exact Nat.le_refl _
        · exact hlater hmark
      · exact hlater hmark

theorem marksBehind_take (rest : List Char) :
    ∀ (front : List Char) (count : Nat), marksBehind front (rest.take count) =
      (marksBehind front rest).takeWhile (·.column < front.length + count) := by
  induction rest with
  | nil =>
    intro front count
    simp [marksBehind]
  | cons c rest ih =>
    intro front count
    cases count with
    | zero =>
      rw [List.take_zero, marksBehind]
      cases hmarks : marksBehind front (c :: rest) with
      | nil => rfl
      | cons mark marks =>
        have hcolumn := le_column_of_mem_marksBehind (c :: rest) front
          (hmarks ▸ List.mem_cons_self : mark ∈ _)
        rw [List.takeWhile_cons_of_neg]
        simpa using hcolumn
    | succ count =>
      have hnext := ih (front ++ [c]) count
      rw [List.length_append, List.length_singleton, Nat.add_assoc, Nat.add_comm 1] at hnext
      rw [List.take_succ_cons, marksBehind, marksBehind, hnext]
      split
      · rw [List.takeWhile_cons_of_pos (by simp)]
      · split
        · rw [List.takeWhile_cons_of_pos (by simp)]
        · rfl

/-- Cutting a line keeps the braces before the cut, with their headers. -/
theorem braceMarks_take (text : List Char) (count : Nat) :
    braceMarks (text.take count) = (braceMarks text).takeWhile (·.column < count) := by
  rw [braceMarks_eq_marksBehind, braceMarks_eq_marksBehind, marksBehind_take]
  simp

/-- It does not matter whether a line is cut first or its comment taken away first. -/
theorem uncommentedBefore_eq_take (line : List Char) (column : Nat) :
    uncommentedBefore line column = (uncommented line).take column :=
  List.take_takeWhile.symm

/-- The nesting behind the first lines of a source. -/
def nestingBehind (source : LineSource) (count : Nat) : Nesting :=
  (List.range count).foldl
    (fun nesting number ↦ nesting.walk number (braceMarks (uncommented (source.line number))))
    .empty

theorem nestingBehind_succ (source : LineSource) (count : Nat) :
    nestingBehind source (count + 1) =
      (nestingBehind source count).walk count (braceMarks (uncommented (source.line count))) := by
  simp [nestingBehind, List.range_succ]

/-- As long as the line of the position is not reached, all the text of a line counts. -/
theorem foldl_visibleText_eq_nestingBehind (source : LineSource) (position : Position) {count : Nat}
    (hcount : count ≤ position.line) :
    (List.range count).foldl (fun nesting number ↦
      nesting.walk number (braceMarks (visibleText source position number))) .empty =
        nestingBehind source count := by
  induction count with
  | zero => rfl
  | succ count ih =>
    rw [List.range_succ, List.foldl_append, ih (by omega), nestingBehind_succ, List.foldl_cons,
      List.foldl_nil, visibleText, if_neg (by omega)]

/-- Assumes: a position on a line of the source. -/
theorem nestingBefore_of_lt {source : LineSource} {position : Position}
    (hline : (position.line : Int) < source.count) :
    nestingBefore source position =
      (nestingBehind source position.line).walk position.line
        ((braceMarks (uncommented (source.line position.line))).takeWhile
          (·.column < position.character)) := by
  have hcount : min (position.line + 1) source.count.toNat = position.line + 1 := by omega
  rw [nestingBefore, hcount, List.range_succ, List.foldl_append, List.foldl_cons, List.foldl_nil,
    foldl_visibleText_eq_nestingBehind source position (Nat.le_refl _), visibleText, if_pos rfl,
    uncommentedBefore_eq_take, braceMarks_take]

/-- A position has no negative coordinate, so a scan at it is never refused. -/
theorem scanPosition_coordinates (position : Position) :
    scanPosition position.line position.character = .ok position := by
  rw [scanPosition, if_neg (by omega), Int.toNat_natCast, Int.toNat_natCast]

theorem scanAt_coordinates (source : LineSource) (position : Position) :
    scanAt source position.line position.character = .ok (nestingBefore source position) := by
  rw [scanAt, scanPosition_coordinates]
  rfl

theorem resolveAt_coordinates (vocabulary : Vocabulary) (root : ObjectType) (source : LineSource)
    (position : Position) :
    resolveAt vocabulary root source position.line position.character =
      .ok (.ofNesting vocabulary root (nestingBefore source position)) := by
  rw [resolveAt, scanAt_coordinates]
  rfl

/-- Assumes: a property of the empty nesting that no brace takes away. Every scan ends with it. -/
theorem nestingBefore_invariant {motive : Nesting → Prop} (hempty : motive .empty)
    (hstep : ∀ (nesting : Nesting) (line : Nat) (mark : BraceMark),
      motive nesting → motive (nesting.step line mark))
    (source : LineSource) (position : Position) : motive (nestingBefore source position) := by
  refine List.foldlRecOn _ _ hempty fun nesting hnesting number _ ↦ ?_
  exact List.foldlRecOn _ _ hnesting fun inner hinner mark _ ↦ hstep inner number mark hinner

end BlockScope
