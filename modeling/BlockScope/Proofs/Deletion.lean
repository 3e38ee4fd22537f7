import BlockScope.Proofs.Unmatched
import Mathlib.Data.List.Basic

/-!
Deleting braces from a text. A brace outside comments is no line feed and no number sign, so a text
without some of its braces has the same lines, each without its own deleted braces, and the same
comments. What is left of the text outside comments is therefore what stood there before, in the
same order, less the deleted braces; only the columns change.
-/

set_option autoImplicit false
set_option relaxedAutoImplicit false

namespace BlockScope

/-- The characters of a text, which begins at an offset, without those at the deleted offsets. -/
def keptFrom (deleted : Nat → Bool) : Nat → List Char → List Char
  | _, [] => []
  | offset, c :: rest =>
    if deleted offset then keptFrom deleted (offset + 1) rest
    else c :: keptFrom deleted (offset + 1) rest

/-- A document without the characters at the deleted offsets. -/
def Document.without (document : Document) (deleted : Nat → Bool) : Document :=
  ⟨keptFrom deleted 0 document.chars⟩

/-- A brace stands at an offset of the text, outside comments. -/
def Document.HasBraceAt (document : Document) (offset : Nat) : Prop :=
  ∃ brace, (brace = '{' ∨ brace = '}') ∧ document.HasAt (document.lineMap.positionAt offset) brace

/-- The offset of a place, counted along the lines of a document. -/
def Document.placeOffset (document : Document) (position : Position) : Nat :=
  lineStart document.lines position.line + position.character

/-- The map leads from the offset of a character back to its place. -/
theorem Document.HasAt.positionAt {document : Document} {position : Position} {c : Char}
    (hat : document.HasAt position c) :
    document.lineMap.positionAt (document.placeOffset position) = position := by
  obtain ⟨line, hline, hc⟩ := hat
  have hlength : (uncommented line).length ≤ line.length := (List.takeWhile_prefix _).length_le
  have hinside := (List.getElem?_eq_some_iff.mp hc).1
  exact Document.positionAt_lineMap hline (by omega)

/-! ### Texts without some characters -/

section Kept

variable {deleted : Nat → Bool}

theorem keptFrom_sublist (text : List Char) :
    ∀ offset : Nat, List.Sublist (keptFrom deleted offset text) text := by
  induction text with
  | nil =>
    intro offset
    exact .slnil
  | cons c rest ih =>
    intro offset
    rw [keptFrom]
    split
    · exact (ih _).cons c
    · exact (ih _).cons_cons c

theorem keptFrom_append (second first : List Char) :
    ∀ offset : Nat, keptFrom deleted offset (first ++ second) =
      keptFrom deleted offset first ++ keptFrom deleted (offset + first.length) second := by
  induction first with
  | nil =>
    intro offset
    rfl
  | cons c rest ih =>
    intro offset
    have hoffset : offset + (c :: rest).length = offset + 1 + rest.length := by
      rw [List.length_cons]
      omega
    rw [List.cons_append, keptFrom, keptFrom, ih, hoffset]
    split
    · rfl
    · rfl

/-- Assumes: no number sign is deleted. The comment begins at the same sign as before. -/
theorem uncommented_keptFrom (text : List Char) :
    ∀ offset : Nat, (∀ index, text[index]? = some '#' → deleted (offset + index) = false) →
      uncommented (keptFrom deleted offset text) = keptFrom deleted offset (uncommented text) := by
  induction text with
  | nil =>
    intro offset _
    rfl
  | cons c rest ih =>
    intro offset hsigns
    have hrest := ih (offset + 1) fun index hindex ↦ by
      have hkept := hsigns (index + 1) hindex
      rwa [← Nat.add_assoc, Nat.add_right_comm] at hkept
    by_cases hsign : c = '#'
    · subst hsign
      have hkept : deleted offset = false := hsigns 0 rfl
      rw [keptFrom, hkept]
      rfl
    · have hcode : uncommented (c :: rest) = c :: uncommented rest := by
        simp [uncommented, hsign]
      rw [hcode, keptFrom, keptFrom, ← hrest]
      split
      · rfl
      · simp [uncommented, hsign]

/-- Lines without the deleted characters, the first of them beginning at an offset. -/
def keptLines (deleted : Nat → Bool) (offset : Nat) (lines : List (List Char)) :
    List (List Char) :=
  lines.mapIdx fun number line ↦ keptFrom deleted (offset + lineStart lines number) line

theorem keptLines_cons (line : List Char) (later : List (List Char)) (offset : Nat) :
    keptLines deleted offset (line :: later) =
      keptFrom deleted offset line :: keptLines deleted (offset + line.length + 1) later := by
  simp only [keptLines, List.mapIdx_cons, lineStart_zero, lineStart_cons_succ, Nat.add_zero,
    Nat.add_assoc]

/-- Assumes: no separator behind a line is deleted. What is left is the lines that are left. -/
theorem keptFrom_joinPieces {separator : Char} (lines : List (List Char)) :
    ∀ offset : Nat, (∀ number line, lines[number]? = some line →
        deleted (offset + (lineStart lines number + line.length)) = false) →
      keptFrom deleted offset (joinPieces separator lines) =
        joinPieces separator (keptLines deleted offset lines) := by
  induction lines with
  | nil =>
    intro offset _
    rfl
  | cons line later ih =>
    intro offset hfeeds
    cases later with
    | nil => rfl
    | cons next rest =>
      -- The separator is kept, so it still stands between the first line and the later ones.
      have hfeed : deleted (offset + line.length) = false := by
        simpa using hfeeds 0 line rfl
      have hlater := ih (offset + line.length + 1) fun number other hother ↦ by
        have hkept := hfeeds (number + 1) other hother
        rw [lineStart_cons_succ] at hkept
        rw [← hkept]
        congr 1
        omega
      have hne : keptLines deleted (offset + line.length + 1) (next :: rest) ≠ [] := by
        simp [keptLines]
      rw [keptLines_cons, joinPieces_cons _ hne, ← hlater, joinPieces_cons _ (List.cons_ne_nil _ _),
        keptFrom_append, keptFrom, hfeed]
      rfl

/-- On one line, the placed characters that are not deleted are the characters that are left. -/
theorem map_filter_placedFrom (number start : Nat) (text : List Char) :
    ∀ column : Nat, ((placedFrom number column text).filter fun placed ↦
        !deleted (start + placed.1.character)).map (·.2) =
      keptFrom deleted (start + column) text := by
  induction text with
  | nil =>
    intro column
    rfl
  | cons c rest ih =>
    intro column
    rw [placedFrom_cons, keptFrom]
    cases hdeleted : deleted (start + column) with
    | true =>
      rw [List.filter_cons_of_neg (by simp [hdeleted]), ih]
      rfl
    | false =>
      rw [List.filter_cons_of_pos (by simp [hdeleted]), List.map_cons, ih]
      rfl

theorem map_snd_placedFrom (number column : Nat) (text : List Char) :
    (placedFrom number column text).map (·.2) = text := by
  rw [placedFrom, List.map_map]
  exact List.zipIdx_map_fst column text

theorem map_snd_placedLines (lines : List (List Char)) :
    (placedLines lines).map (·.2) = lines.flatMap uncommented := by
  rw [placedLines, List.map_flatMap]
  simp only [map_snd_placedFrom]
  rw [← List.flatMap_map Prod.fst, List.zipIdx_map_fst]

end Kept

/-! ### Documents without some braces -/

section Without

variable {document : Document} {deleted : Nat → Bool}
  (hbraces : ∀ offset, deleted offset = true → document.HasBraceAt offset)

include hbraces

/-- Assumes: only braces outside comments are deleted. What is deleted on a line is one of its
braces before the comment. -/
theorem exists_brace_of_deleted {number index : Nat} {line : List Char}
    (hline : document.lines[number]? = some line) (hindex : index ≤ line.length)
    (hdeleted : deleted (lineStart document.lines number + index) = true) :
    ∃ brace, (brace = '{' ∨ brace = '}') ∧ (uncommented line)[index]? = some brace := by
  obtain ⟨brace, hbrace, line', hline', hat⟩ := hbraces _ hdeleted
  rw [Document.positionAt_lineMap hline hindex] at hline' hat
  obtain rfl : line = line' := Option.some.inj (hline.symm.trans hline')
  exact ⟨brace, hbrace, hat⟩

theorem deleted_lineFeed {number : Nat} {line : List Char}
    (hline : document.lines[number]? = some line) :
    deleted (lineStart document.lines number + line.length) = false := by
  rw [Bool.eq_false_iff]
  intro hdeleted
  obtain ⟨brace, -, hat⟩ := exists_brace_of_deleted hbraces hline (Nat.le_refl _) hdeleted
  have hinside := (List.getElem?_eq_some_iff.mp hat).1
  have hlength : (uncommented line).length ≤ line.length := (List.takeWhile_prefix _).length_le
  omega

theorem deleted_numberSign {number index : Nat} {text : List Char}
    (hline : document.lines[number]? = some text) (hsign : text[index]? = some '#') :
    deleted (lineStart document.lines number + index) = false := by
  rw [Bool.eq_false_iff]
  intro hdeleted
  obtain ⟨brace, hbrace, hat⟩ := exists_brace_of_deleted hbraces hline
    (Nat.le_of_lt (List.getElem?_eq_some_iff.mp hsign).1) hdeleted
  obtain ⟨comment, hcomment⟩ : uncommented text <+: text := List.takeWhile_prefix _
  rw [← hcomment, List.getElem?_append_left (List.getElem?_eq_some_iff.mp hat).1, hat] at hsign
  obtain rfl : brace = '#' := Option.some.inj hsign
  exact absurd hbrace (by decide)

theorem lines_without :
    (document.without deleted).lines = keptLines deleted 0 document.lines := by
  have hne : document.lines ≠ [] := pieces_ne_nil '\n' document.chars
  have htext : document.chars = joinPieces '\n' document.lines :=
    (joinPieces_pieces '\n' document.chars).symm
  have hkept : keptFrom deleted 0 document.chars =
      joinPieces '\n' (keptLines deleted 0 document.lines) := by
    rw [htext, keptFrom_joinPieces document.lines 0]
    intro number line hline
    rw [Nat.zero_add]
    exact deleted_lineFeed hbraces hline
  rw [Document.lines, Document.without, hkept]
  refine pieces_joinPieces ?_ fun part hpart ↦ ?_
  · rwa [keptLines, ne_eq, List.mapIdx_eq_nil_iff]
  · obtain ⟨number, hnumber, rfl⟩ := List.mem_mapIdx.mp hpart
    intro hfeed
    exact notMem_of_mem_pieces document.chars _ (List.getElem_mem hnumber)
      ((keptFrom_sublist _ _).mem hfeed)

/-- Assumes: only braces outside comments are deleted. The characters outside comments that are left
are those that were there and are not deleted. -/
theorem map_snd_placedLines_without :
    (placedLines (document.without deleted).lines).map (·.2) =
      ((placedLines document.lines).filter fun placed ↦
        !deleted (document.placeOffset placed.1)).map (·.2) := by
  rw [map_snd_placedLines, lines_without hbraces, keptLines, List.mapIdx_eq_zipIdx_map,
    List.flatMap_map, placedLines, List.filter_flatMap, List.map_flatMap]
  refine List.flatMap_congr ?_
  rintro ⟨line, number⟩ hentry
  have hline := List.mk_mem_zipIdx_iff_getElem?.mp hentry
  have hfilter : (placedFrom number 0 (uncommented line)).filter (fun placed ↦
      !deleted (document.placeOffset placed.1)) =
        (placedFrom number 0 (uncommented line)).filter fun placed ↦
          !deleted (lineStart document.lines number + placed.1.character) := by
    refine List.filter_congr fun placed hplaced ↦ ?_
    rw [Document.placeOffset, line_eq_of_mem_placedFrom hplaced]
  rw [hfilter, map_filter_placedFrom]
  simp only [Nat.zero_add, Nat.add_zero]
  exact uncommented_keptFrom line _ fun index hindex ↦ deleted_numberSign hbraces hline hindex

end Without

end BlockScope
