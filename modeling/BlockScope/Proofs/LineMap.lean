import BlockScope.Proofs.Pieces
import BlockScope.Text.Document

/-!
The offsets of a line map and the lines of a text. The map counts offsets while it goes through the
text once; the lines come from cutting the text at its line feeds. A line begins behind all the
lines above it, each with its line feed, and the text from there on begins with the line. A span
between two characters of a line therefore covers exactly that part of the line. Offsets grow from
line to line, so the map finds the position of an offset again, and a text that is cut at an offset
has the lines above and the beginning of the line where it is cut.
-/

set_option autoImplicit false
set_option relaxedAutoImplicit false

namespace BlockScope

/-- The offset at which a line begins, behind the lines above it and a line feed for each. -/
def lineStart : List (List Char) → Nat → Nat
  | line :: lines, number + 1 => line.length + 1 + lineStart lines number
  | _, _ => 0

@[simp] theorem lineStart_zero (lines : List (List Char)) : lineStart lines 0 = 0 := by
  cases lines <;> rfl

@[simp] theorem lineStart_cons_succ (line : List Char) (lines : List (List Char)) (number : Nat) :
    lineStart (line :: lines) (number + 1) = line.length + 1 + lineStart lines number := rfl

theorem lineStart_succ {line : List Char} (lines : List (List Char)) :
    ∀ number : Nat, lines[number]? = some line →
      lineStart lines (number + 1) = lineStart lines number + line.length + 1 := by
  induction lines with
  | nil =>
    intro number hline
    simp at hline
  | cons first later ih =>
    intro number hline
    cases number with
    | zero =>
      obtain rfl : first = line := by simpa using hline
      simp
    | succ number =>
      rw [lineStart_cons_succ, ih number hline, lineStart_cons_succ]
      omega

/-- Assumes: a line above another place where a line begins or the text ends. It ends before that
place. -/
theorem lineStart_add_length_lt {lines : List (List Char)} {number later : Nat} {line : List Char}
    (hline : lines[number]? = some line) (hlater : number < later)
    (hinside : later ≤ lines.length) :
    lineStart lines number + line.length < lineStart lines later := by
  induction later with
  | zero => omega
  | succ later ih =>
    have hnext := lineStart_succ lines later (List.getElem?_eq_getElem (Nat.lt_of_succ_le hinside))
    by_cases hsame : number = later
    · subst hsame
      rw [lineStart_succ lines number hline]
      omega
    · have hbefore := ih (by omega) (by omega)
      omega

/-- Offsets follow the order of positions: line by line, and on one line by character. -/
theorem lineStart_add_lt_iff {lines : List (List Char)} {number number' : Nat}
    {line line' : List Char} {character character' : Nat} (hline : lines[number]? = some line)
    (hline' : lines[number']? = some line') (hcharacter : character ≤ line.length)
    (hcharacter' : character' ≤ line'.length) :
    lineStart lines number + character < lineStart lines number' + character' ↔
      number < number' ∨ number = number' ∧ character < character' := by
  have hbelow := (List.getElem?_eq_some_iff.mp hline).1
  have hbelow' := (List.getElem?_eq_some_iff.mp hline').1
  rcases Nat.lt_trichotomy number number' with hbefore | rfl | hbehind
  · have hstart := lineStart_add_length_lt hline hbefore (Nat.le_of_lt hbelow')
    omega
  · omega
  · have hstart := lineStart_add_length_lt hline' hbehind (Nat.le_of_lt hbelow)
    omega

namespace LineMap

theorem getElem?_startsAfter (text : List Char) :
    ∀ offset number : Nat, (offset :: startsAfter offset text)[number]? =
      if number < (pieces '\n' text).length then some (offset + lineStart (pieces '\n' text) number)
      else none := by
  induction text with
  | nil =>
    intro offset number
    cases number with
    | zero => rfl
    | succ number => simp [startsAfter]
  | cons c rest ih =>
    intro offset number
    cases number with
    | zero =>
      have hpositive := List.length_pos_iff.mpr (pieces_ne_nil '\n' (c :: rest))
      rw [if_pos hpositive, lineStart_zero]
      rfl
    | succ number =>
      rw [startsAfter, List.getElem?_cons_succ]
      by_cases hfeed : c = '\n'
      · subst hfeed
        rw [if_pos rfl, ih, pieces_cons_self, List.length_cons, lineStart_cons_succ]
        simp only [Nat.succ_lt_succ_iff, List.length_nil, Nat.zero_add, Nat.add_assoc]
      · -- The character belongs to the first piece, which therefore begins one place further on.
        obtain ⟨piece, later, hpieces⟩ := List.exists_cons_of_ne_nil (pieces_ne_nil '\n' rest)
        have hnext := ih (offset + 1) (number + 1)
        rw [List.getElem?_cons_succ, hpieces, lineStart_cons_succ] at hnext
        rw [if_neg hfeed, hnext, pieces, if_neg hfeed, hpieces, lineStart_cons_succ]
        simp only [List.length_cons]
        congr 2
        omega

theorem getElem?_starts (text : List Char) (number : Nat) :
    (ofText text).starts[number]? =
      if number < (pieces '\n' text).length then some (lineStart (pieces '\n' text) number)
      else none := by
  have hstarts := getElem?_startsAfter text 0 number
  rw [Nat.zero_add] at hstarts
  exact hstarts

theorem offsetOn_natCast (map : LineMap) (line character : Nat) :
    map.offsetOn line character = offsetOf (map.reckonedOffset ⟨line, character⟩) := by
  have hposition : Position.of line character = .ok ⟨line, character⟩ := by
    rw [Position.of, if_neg (by omega), Int.toNat_natCast, Int.toNat_natCast]
  rw [offsetOn, hposition]
  rfl

theorem offsetOn_of_negative (map : LineMap) {line character : Int}
    (hnegative : line < 0 ∨ character < 0) :
    map.offsetOn line character = .error .negativePosition := by
  rw [offsetOn, Position.of, if_pos hnegative]
  rfl

end LineMap

theorem length_joinPieces {separator : Char} {lines : List (List Char)} (hne : lines ≠ []) :
    (joinPieces separator lines).length + 1 = lineStart lines lines.length := by
  induction lines with
  | nil => contradiction
  | cons line later ih =>
    rw [List.length_cons, lineStart_cons_succ]
    cases later with
    | nil => rfl
    | cons next rest =>
      rw [joinPieces_cons _ (by simp), ← ih (by simp), List.length_append, List.length_cons]
      omega

/-- Behind the lines above it a text goes on with the line itself. -/
theorem exists_drop_joinPieces {separator : Char} {line : List Char} (lines : List (List Char)) :
    ∀ number : Nat, lines[number]? = some line →
      ∃ more, (joinPieces separator lines).drop (lineStart lines number) = line ++ more := by
  induction lines with
  | nil =>
    intro number hline
    simp at hline
  | cons first later ih =>
    intro number hline
    cases number with
    | zero =>
      obtain rfl : first = line := by simpa using hline
      cases later with
      | nil => exact ⟨[], (List.append_nil _).symm⟩
      | cons next rest =>
        exact ⟨_, joinPieces_cons first (by simp)⟩
    | succ number =>
      rw [List.getElem?_cons_succ] at hline
      have hne : later ≠ [] := by
        rintro rfl
        simp at hline
      obtain ⟨more, hmore⟩ := ih number hline
      refine ⟨more, ?_⟩
      rw [joinPieces_cons _ hne, lineStart_cons_succ, ← hmore, List.append_cons, ← List.drop_drop,
        List.drop_left']
      simp

/-- Assumes: a character of a line. The text up to it is the lines above and the beginning of the
line. -/
theorem take_joinPieces {separator : Char} {line : List Char} {character : Nat}
    (hcharacter : character ≤ line.length) (lines : List (List Char)) :
    ∀ number : Nat, lines[number]? = some line →
      (joinPieces separator lines).take (lineStart lines number + character) =
        joinPieces separator (lines.take number ++ [line.take character]) := by
  induction lines with
  | nil =>
    intro number hline
    simp at hline
  | cons first later ih =>
    intro number hline
    cases number with
    | zero =>
      obtain ⟨more, hmore⟩ : ∃ more, joinPieces separator (first :: later) = line ++ more :=
        exists_drop_joinPieces _ 0 hline
      rw [lineStart_zero, Nat.zero_add, hmore, List.take_append_of_le_length hcharacter]
      rfl
    | succ number =>
      rw [List.getElem?_cons_succ] at hline
      have hne : later ≠ [] := by
        rintro rfl
        simp at hline
      have hcount : first.length + 1 + lineStart later number + character =
          (first ++ [separator]).length + (lineStart later number + character) := by
        simp only [List.length_append, List.length_singleton]
        omega
      rw [joinPieces_cons _ hne, lineStart_cons_succ, hcount,
        List.append_cons first separator (joinPieces separator later),
        List.take_length_add_append, ih number hline, List.take_succ_cons, List.cons_append,
        joinPieces_cons _ (by simp), List.append_assoc, List.singleton_append]

namespace Document

variable {document : Document} {number : Nat} {line : List Char}

theorem exists_drop_lineStart (hline : document.lines[number]? = some line) :
    ∃ more, document.chars.drop (lineStart document.lines number) = line ++ more := by
  have hdrop : ∃ more, (joinPieces '\n' document.lines).drop (lineStart document.lines number) =
      line ++ more := exists_drop_joinPieces document.lines number hline
  rwa [lines, joinPieces_pieces] at hdrop

theorem getElem?_lineMap_starts (document : Document) (number : Nat) :
    document.lineMap.starts[number]? =
      if number < document.lines.length then some (lineStart document.lines number) else none :=
  LineMap.getElem?_starts document.chars number

/-- The end of the text stands behind all lines and the line feeds between them. -/
theorem length_chars_succ (document : Document) :
    document.chars.length + 1 = lineStart document.lines document.lines.length := by
  have htotal : (joinPieces '\n' document.lines).length + 1 =
      lineStart document.lines document.lines.length :=
    length_joinPieces (pieces_ne_nil _ _)
  rwa [lines, joinPieces_pieces] at htotal

/-- Assumes: the last line. The text ends with it. -/
theorem length_chars_of_last (hline : document.lines[number]? = some line)
    (hlast : number + 1 = document.lines.length) :
    document.chars.length = lineStart document.lines number + line.length := by
  have htotal := length_chars_succ document
  rw [← hlast, lineStart_succ document.lines number hline] at htotal
  exact Nat.succ.inj htotal

/-- A line ends where its characters end, before its line feed or at the end of the text. -/
theorem lineEnd_lineMap (hline : document.lines[number]? = some line) :
    document.lineMap.lineEnd number = (lineStart document.lines number + line.length : Nat) := by
  rw [LineMap.lineEnd, getElem?_lineMap_starts]
  by_cases hnext : number + 1 < document.lines.length
  · rw [if_pos hnext, lineStart_succ document.lines number hline]
    change ((lineStart document.lines number + line.length + 1 : Nat) : Int) - 1 = _
    omega
  · have hbelow := (List.getElem?_eq_some_iff.mp hline).1
    rw [if_neg hnext]
    exact congrArg Nat.cast (length_chars_of_last hline (by omega))

/-- A character beyond the end of a line stands for that end. -/
theorem reckonedOffset_lineMap (hline : document.lines[number]? = some line) (character : Nat) :
    document.lineMap.reckonedOffset ⟨number, character⟩ =
      (lineStart document.lines number + min character line.length : Nat) := by
  have hbelow := (List.getElem?_eq_some_iff.mp hline).1
  rw [LineMap.reckonedOffset, getElem?_lineMap_starts, if_pos hbelow]
  change min ((lineStart document.lines number : Int) + character)
    (document.lineMap.lineEnd number) = _
  rw [lineEnd_lineMap hline]
  omega

/-- A line beyond the last one stands for the end of the text. -/
theorem reckonedOffset_lineMap_of_le {position : Position}
    (hbeyond : document.lines.length ≤ position.line) :
    document.lineMap.reckonedOffset position = document.chars.length := by
  rw [LineMap.reckonedOffset, getElem?_lineMap_starts, if_neg (Nat.not_lt.mpr hbeyond)]
  rfl

theorem offsetAt_lineMap_min (hline : document.lines[number]? = some line) (character : Nat) :
    document.lineMap.offsetAt ⟨number, character⟩ =
      lineStart document.lines number + min character line.length := by
  rw [LineMap.offsetAt, reckonedOffset_lineMap hline, Int.toNat_natCast]

theorem offsetAt_lineMap (hline : document.lines[number]? = some line) {character : Nat}
    (hcharacter : character ≤ line.length) :
    document.lineMap.offsetAt ⟨number, character⟩ =
      lineStart document.lines number + character := by
  rw [offsetAt_lineMap_min hline, Nat.min_eq_left hcharacter]

theorem offsetAt_lineMap_of_le {position : Position}
    (hbeyond : document.lines.length ≤ position.line) :
    document.lineMap.offsetAt position = document.chars.length := by
  rw [LineMap.offsetAt, reckonedOffset_lineMap_of_le hbeyond, Int.toNat_natCast]

/-- No offset of a position is reckoned as negative, because a line ends behind its beginning. -/
theorem offsetOf_reckonedOffset (document : Document) (position : Position) :
    offsetOf (document.lineMap.reckonedOffset position) =
      .ok (document.lineMap.offsetAt position) := by
  have hreckoned : 0 ≤ document.lineMap.reckonedOffset position := by
    by_cases hinside : position.line < document.lines.length
    · rw [reckonedOffset_lineMap (List.getElem?_eq_getElem hinside)]
      exact Int.natCast_nonneg _
    · rw [reckonedOffset_lineMap_of_le (Nat.not_lt.mp hinside)]
      exact Int.natCast_nonneg _
  rw [offsetOf, if_neg (Int.not_lt.mpr hreckoned), LineMap.offsetAt]

theorem spanOn_natCast (document : Document) (line first last : Nat) :
    document.lineMap.spanOn line first last =
      Span.ofOffsets (document.lineMap.offsetAt ⟨line, first⟩)
        (document.lineMap.offsetAt ⟨line, last⟩) := by
  rw [LineMap.spanOn, LineMap.offsetOn_natCast, LineMap.offsetOn_natCast,
    offsetOf_reckonedOffset, offsetOf_reckonedOffset]
  rfl

theorem starts_lineMap (document : Document) :
    document.lineMap.starts =
      (List.range document.lines.length).map (lineStart document.lines) := by
  refine List.ext_getElem? fun index ↦ ?_
  rw [getElem?_lineMap_starts, List.getElem?_map]
  by_cases hindex : index < document.lines.length
  · simp [hindex]
  · simp [hindex]

/-- Of the lines, those up to the line of a character do not begin after it. -/
theorem countP_starts (hline : document.lines[number]? = some line) {character : Nat}
    (hcharacter : character ≤ line.length) :
    document.lineMap.starts.countP (· ≤ lineStart document.lines number + character) =
      number + 1 := by
  have hbelow := (List.getElem?_eq_some_iff.mp hline).1
  obtain ⟨more, hmore⟩ := Nat.exists_eq_add_of_lt hbelow
  have hupper : ∀ index ∈ List.range (number + 1),
      lineStart document.lines index ≤ lineStart document.lines number + character := by
    intro index hindex
    rw [List.mem_range, Nat.lt_succ_iff] at hindex
    rcases Nat.eq_or_lt_of_le hindex with rfl | hbefore
    · omega
    · have hstart := lineStart_add_length_lt
        (List.getElem?_eq_getElem (Nat.lt_trans hbefore hbelow)) hbefore (Nat.le_of_lt hbelow)
      omega
  have hlower : ∀ index ∈ List.range more, ¬ lineStart document.lines (number + 1 + index) ≤
      lineStart document.lines number + character := by
    intro index hindex
    rw [List.mem_range] at hindex
    have hstart := lineStart_add_length_lt hline (by omega : number < number + 1 + index)
      (by omega)
    omega
  have hfirst : (List.range (number + 1)).countP (fun index ↦
      decide (lineStart document.lines index ≤ lineStart document.lines number + character)) =
        number + 1 := by
    rw [List.countP_eq_length.mpr fun index hindex ↦ decide_eq_true (hupper index hindex),
      List.length_range]
  have hrest : (List.range more).countP (fun index ↦ decide (lineStart document.lines
      (number + 1 + index) ≤ lineStart document.lines number + character)) = 0 :=
    List.countP_eq_zero.mpr fun index hindex ↦ by simpa using hlower index hindex
  have hlength : document.lines.length = number + 1 + more := by omega
  rw [starts_lineMap, hlength, List.countP_map, List.range_add, List.countP_append,
    List.countP_map]
  have hsum := congr (congrArg HAdd.hAdd hfirst) hrest
  exact hsum

/-- The map finds the position of a character again from its offset. -/
theorem positionAt_lineMap (hline : document.lines[number]? = some line) {character : Nat}
    (hcharacter : character ≤ line.length) :
    document.lineMap.positionAt (lineStart document.lines number + character) =
      ⟨number, character⟩ := by
  have hbelow := (List.getElem?_eq_some_iff.mp hline).1
  have hinside : min (lineStart document.lines number + character) document.lineMap.length =
      lineStart document.lines number + character := by
    have hend := lineStart_add_length_lt hline hbelow (Nat.le_refl _)
    rw [← length_chars_succ] at hend
    change min _ document.chars.length = _
    omega
  have hstart : document.lineMap.starts.getD number 0 = lineStart document.lines number := by
    rw [List.getD_eq_getElem?_getD, getElem?_lineMap_starts, if_pos hbelow]
    rfl
  simp only [LineMap.positionAt, hinside, countP_starts hline hcharacter, Nat.add_sub_cancel,
    hstart, Nat.add_sub_cancel_left]

/-- The text up to a character of a line has the lines above it and the beginning of the line. -/
theorem lines_take (hline : document.lines[number]? = some line) {character : Nat}
    (hcharacter : character ≤ line.length) :
    lines ⟨document.chars.take (lineStart document.lines number + character)⟩ =
      document.lines.take number ++ [line.take character] := by
  have hnone : ∀ part ∈ document.lines, '\n' ∉ part := notMem_of_mem_pieces document.chars
  have htext : document.chars = joinPieces '\n' document.lines :=
    (joinPieces_pieces '\n' document.chars).symm
  have hcut : document.chars.take (lineStart document.lines number + character) =
      joinPieces '\n' (document.lines.take number ++ [line.take character]) := by
    rw [← take_joinPieces hcharacter document.lines number hline, ← htext]
  rw [lines, hcut]
  refine pieces_joinPieces (by simp) fun part hpart ↦ ?_
  rcases List.mem_append.mp hpart with hpart | hpart
  · exact hnone part (List.mem_of_mem_take hpart)
  · rw [List.mem_singleton.mp hpart]
    exact fun hfeed ↦ hnone line (List.mem_of_getElem? hline) (List.mem_of_mem_take hfeed)

/-- Assumes: two characters of a line, the first not behind the second. The span between them
exists, begins and ends at their offsets, and covers the part of the line between them. -/
theorem exists_spanOn (hline : document.lines[number]? = some line) {first last : Nat}
    (hfirst : first ≤ last) (hlast : last ≤ line.length) :
    ∃ span, document.lineMap.spanOn number first last = .ok span ∧
      span.start = lineStart document.lines number + first ∧
      span.stop = lineStart document.lines number + last ∧
      document.slice span = (line.drop first).take (last - first) := by
  obtain ⟨more, hmore⟩ := exists_drop_lineStart hline
  have hordered : lineStart document.lines number + first ≤
      lineStart document.lines number + last := Nat.add_le_add_left hfirst _
  refine ⟨⟨_, _, hordered⟩, ?_, rfl, rfl, ?_⟩
  · rw [spanOn_natCast, offsetAt_lineMap hline (Nat.le_trans hfirst hlast),
      offsetAt_lineMap hline hlast, Span.ofOffsets, dif_pos hordered]
  · change (document.chars.drop (lineStart document.lines number + first)).take
      (lineStart document.lines number + last - (lineStart document.lines number + first)) = _
    rw [← List.drop_drop, hmore, List.drop_append_of_le_length (Nat.le_trans hfirst hlast),
      Nat.add_sub_add_left, List.take_append_of_le_length]
    rw [List.length_drop]
    omega

end Document

end BlockScope
