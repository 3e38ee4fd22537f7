import BlockScope.Block.PointScan
import BlockScope.Block.Unmatched
import BlockScope.Proofs.FrameStack
import BlockScope.Proofs.Scan

/-!
The braces that are open at a position, taken from the text alone: the characters outside comments
that precede the position are met one after another, each closing brace closes the most recent open
one, and a closing brace with nothing to close is set aside. A nesting tracks such a state brace by
brace: the stack that it stands for holds the open braces of the text, with the frames of their
headers. The walk over a line keeps the two together, and so does the whole scan. So the depth, the
frames with their depths and the stray braces of a scan can be read off the braces that the text
leaves open.
-/

set_option autoImplicit false
set_option relaxedAutoImplicit false

namespace BlockScope

/-! ### The text before a position -/

/-- The characters of a text, which begins at a column of a line, each with its place. -/
def placedFrom (number column : Nat) (text : List Char) : List (Position × Char) :=
  (text.zipIdx column).map fun entry ↦ (⟨number, entry.2⟩, entry.1)

/-- The characters of a source outside comments, each with its place. -/
def placedText (source : LineSource) : List (Position × Char) :=
  (List.range source.count.toNat).flatMap fun number ↦
    placedFrom number 0 (uncommented (source.line number))

def textBefore (source : LineSource) (position : Position) : List (Position × Char) :=
  (placedText source).filter (·.1.precedes position)

@[simp] theorem placedFrom_nil (number column : Nat) : placedFrom number column [] = [] := rfl

@[simp] theorem placedFrom_cons (number column : Nat) (c : Char) (rest : List Char) :
    placedFrom number column (c :: rest) =
      (⟨number, column⟩, c) :: placedFrom number (column + 1) rest := rfl

theorem line_eq_of_mem_placedFrom {number column : Nat} {text : List Char}
    {placed : Position × Char} (hplaced : placed ∈ placedFrom number column text) :
    placed.1.line = number := by
  obtain ⟨entry, -, rfl⟩ := List.mem_map.mp hplaced
  rfl

/-- On the line of a position the text before it is the text up to its column. -/
theorem filter_placedFrom_same (position : Position) (text : List Char) :
    ∀ column : Nat, (placedFrom position.line column text).filter (·.1.precedes position) =
      placedFrom position.line column (text.take (position.character - column)) := by
  induction text with
  | nil =>
    intro column
    simp
  | cons c rest ih =>
    intro column
    rw [placedFrom_cons, List.filter_cons, ih]
    by_cases hcolumn : column < position.character
    · have hcount : position.character - column = position.character - (column + 1) + 1 := by
        omega
      rw [if_pos (by simpa [Position.precedes] using hcolumn), hcount, List.take_succ_cons,
        placedFrom_cons]
    · have hcount : position.character - column = 0 := by omega
      have hnext : position.character - (column + 1) = 0 := by omega
      rw [if_neg (by simpa [Position.precedes] using hcolumn), hcount, hnext]
      simp

/-- The part of a line that precedes a position is what counts of it there, and nothing of a line
below the position precedes it. -/
theorem filter_placedFrom (source : LineSource) (position : Position) (number : Nat) :
    (placedFrom number 0 (uncommented (source.line number))).filter (·.1.precedes position) =
      if number ≤ position.line then placedFrom number 0 (visibleText source position number)
      else [] := by
  rcases Nat.lt_trichotomy number position.line with hbefore | rfl | hbehind
  · rw [if_pos (Nat.le_of_lt hbefore), visibleText, if_neg (Nat.ne_of_lt hbefore)]
    refine List.filter_eq_self.mpr fun placed hplaced ↦ ?_
    have hline := line_eq_of_mem_placedFrom hplaced
    simp [Position.precedes, hline, hbefore]
  · rw [if_pos (Nat.le_refl _), visibleText, if_pos rfl, uncommentedBefore_eq_take,
      filter_placedFrom_same, Nat.sub_zero]
  · rw [if_neg (by omega)]
    refine List.filter_eq_nil_iff.mpr fun placed hplaced ↦ ?_
    have hline := line_eq_of_mem_placedFrom hplaced
    simp only [Position.precedes, hline, Bool.or_eq_true, decide_eq_true_eq, Bool.and_eq_true,
      beq_iff_eq]
    omega

/-- The text before a position, line by line as a scan reads it. -/
theorem textBefore_eq_flatMap (source : LineSource) (position : Position) :
    textBefore source position =
      (List.range (min (position.line + 1) source.count.toNat)).flatMap fun number ↦
        placedFrom number 0 (visibleText source position number) := by
  rw [textBefore, placedText, List.filter_flatMap]
  simp only [filter_placedFrom]
  induction source.count.toNat with
  | zero => simp
  | succ count ih =>
    rw [List.range_succ, List.flatMap_append, ih]
    by_cases hline : count ≤ position.line
    · have hold : min (position.line + 1) count = count := by omega
      have hnew : min (position.line + 1) (count + 1) = count + 1 := by omega
      rw [hold, hnew, List.range_succ, List.flatMap_append]
      simp [hline]
    · have hsame : min (position.line + 1) (count + 1) = min (position.line + 1) count := by omega
      rw [hsame]
      simp [hline]

/-! ### The braces that the text leaves open -/

namespace UnmatchedBraces

/-- The unmatched braces after some more characters. -/
def meetAll (braces : UnmatchedBraces) (text : List (Position × Char)) : UnmatchedBraces :=
  text.foldl (fun braces placed ↦ braces.meet placed.1 placed.2) braces

@[simp] theorem meetAll_nil (braces : UnmatchedBraces) : braces.meetAll [] = braces := rfl

@[simp] theorem meetAll_cons (braces : UnmatchedBraces) (placed : Position × Char)
    (rest : List (Position × Char)) :
    braces.meetAll (placed :: rest) = (braces.meet placed.1 placed.2).meetAll rest := rfl

theorem meetAll_append (braces : UnmatchedBraces) (first second : List (Position × Char)) :
    braces.meetAll (first ++ second) = (braces.meetAll first).meetAll second :=
  List.foldl_append

@[simp] theorem meet_opening (braces : UnmatchedBraces) (position : Position) :
    braces.meet position '{' = { braces with openings := position :: braces.openings } := rfl

theorem meet_closing_nil (closings : List Position) (position : Position) :
    meet ⟨[], closings⟩ position '}' = ⟨[], position :: closings⟩ := rfl

theorem meet_closing_cons (inner : Position) (outer closings : List Position)
    (position : Position) : meet ⟨inner :: outer, closings⟩ position '}' = ⟨outer, closings⟩ := rfl

theorem meet_of_ne (braces : UnmatchedBraces) (position : Position) {c : Char} (hopen : c ≠ '{')
    (hclose : c ≠ '}') : braces.meet position c = braces := by
  rw [meet, if_neg hopen, if_neg hclose]

end UnmatchedBraces

/-- The braces without a partner in the text before a position. -/
def bracesBefore (source : LineSource) (position : Position) : UnmatchedBraces :=
  UnmatchedBraces.meetAll ⟨[], []⟩ (textBefore source position)

/-- The braces that are open at a position, the outermost first. -/
def openBraces (source : LineSource) (position : Position) : List Position :=
  (bracesBefore source position).openings.reverse

/-- The closing braces before a position that closed nothing, the latest first. -/
def strayBraces (source : LineSource) (position : Position) : List Position :=
  (bracesBefore source position).closings

/-- The header, among those of its line, that ends with the brace at a place. -/
def braceHeader? (source : LineSource) (brace : Position) : Option Header :=
  headerAt? (Header.openings (uncommented (source.line brace.line))) brace.character

/-! ### What a nesting tracks -/

/-- The header that a frame was made from. -/
def Frame.header (frame : Frame) : Header := ⟨frame.name, frame.operator⟩

/-- The headers of open braces, the innermost first. The outermost brace counts as having none. -/
def openHeaders (headerOf : Position → Option Header) : List Position → List (Option Header)
  | [] => []
  | brace :: outer =>
    (if outer.isEmpty then none else headerOf brace) :: openHeaders headerOf outer

theorem length_openHeaders (headerOf : Position → Option Header) (braces : List Position) :
    (openHeaders headerOf braces).length = braces.length := by
  induction braces with
  | nil => rfl
  | cons brace outer ih => rw [openHeaders, List.length_cons, ih, List.length_cons]

/-- The braces inside the outermost one count with their own headers. -/
theorem openHeaders_concat (headerOf : Position → Option Header) (inner : List Position)
    (outermost : Position) :
    openHeaders headerOf (inner ++ [outermost]) = inner.map headerOf ++ [none] := by
  induction inner with
  | nil => rfl
  | cons brace inner ih =>
    rw [List.cons_append, openHeaders, ih]
    simp

theorem filterMap_openHeaders (headerOf : Position → Option Header) (braces : List Position) :
    (openHeaders headerOf braces).filterMap id = braces.dropLast.filterMap headerOf := by
  rcases List.eq_nil_or_concat braces with rfl | ⟨inner, outermost, rfl⟩
  · rfl
  · rw [List.concat_eq_append, openHeaders_concat, List.dropLast_concat]
    simp [List.filterMap_map]

/-- Counted from the outermost brace on, the braces with headers stand from depth two on. -/
theorem reverse_filledDepths_openHeaders (headerOf : Position → Option Header)
    (braces : List Position) :
    (filledDepths (openHeaders headerOf braces)).reverse =
      ((braces.reverse.tail.zipIdx 2).filter fun entry ↦ (headerOf entry.1).isSome).map (·.2) := by
  rw [reverse_filledDepths]
  rcases List.eq_nil_or_concat braces with rfl | ⟨inner, outermost, rfl⟩
  · rfl
  · rw [List.concat_eq_append, openHeaders_concat, List.reverse_concat, List.reverse_concat,
      List.tail_cons, List.zipIdx_cons, List.filter_cons_of_neg (by simp), ← List.map_reverse,
      List.zipIdx_map, List.filter_map, List.map_map]
    rfl

namespace Nesting

/-- A nesting tracks the braces that a text leaves unmatched: it stands for the stack of the open
ones, each with the frame of its header, and its strays are those of the text. -/
structure Tracks (headerOf : Position → Option Header) (braces : UnmatchedBraces)
    (nesting : Nesting) : Prop where
  strays : nesting.strays = braces.closings
  opened : ∃ opened, nesting.StandsFor opened ∧
    opened.map (·.map Frame.header) = openHeaders headerOf braces.openings

variable {headerOf : Position → Option Header} {braces : UnmatchedBraces} {nesting : Nesting}

theorem tracks_empty (headerOf : Position → Option Header) : Tracks headerOf ⟨[], []⟩ .empty :=
  ⟨rfl, [], standsFor_empty, rfl⟩

theorem Tracks.depth (htracks : Tracks headerOf braces nesting) :
    nesting.depth = braces.openings.length := by
  obtain ⟨opened, hstands, hheaders⟩ := htracks.opened
  rw [hstands.depth, ← length_openHeaders headerOf, ← hheaders, List.length_map]

/-- Below the outermost brace a brace gets the frame of its header. -/
theorem Tracks.newFrame? (htracks : Tracks headerOf braces nesting) (header : Option Header) :
    (nesting.newFrame? header).map Frame.header =
      if braces.openings.isEmpty then none else header := by
  unfold Nesting.newFrame?
  rw [htracks.depth]
  by_cases hempty : braces.openings = []
  · simp [hempty]
  · cases header with
    | none => simp
    | some header => simp [hempty, frameFor, Frame.header]

theorem Tracks.openBrace (htracks : Tracks headerOf braces nesting) (position : Position) :
    Tracks headerOf (braces.meet position '{') (nesting.openBrace (headerOf position)) := by
  obtain ⟨opened, hstands, hheaders⟩ := htracks.opened
  refine ⟨?_, _, hstands.openBrace (headerOf position), ?_⟩
  · rw [strays_openBrace, htracks.strays, UnmatchedBraces.meet_opening]
  · rw [List.map_cons, htracks.newFrame?, hheaders]
    rfl

theorem Tracks.closeBrace (htracks : Tracks headerOf braces nesting) (position : Position) :
    Tracks headerOf (braces.meet position '}') (nesting.closeBrace position) := by
  have hdepth := htracks.depth
  obtain ⟨hstrays, opened, hstands, hheaders⟩ := htracks
  obtain ⟨openings, closings⟩ := braces
  cases openings with
  | nil =>
    obtain rfl : opened = [] := by simpa [openHeaders] using hheaders
    refine ⟨?_, [], hstands.closeBrace_nil position, rfl⟩
    rw [strays_closeBrace, if_pos (by simp [hdepth]), hstrays]
    rfl
  | cons brace outer =>
    cases opened with
    | nil => simp [openHeaders] at hheaders
    | cons entry opened =>
      refine ⟨?_, opened, hstands.closeBrace position, (List.cons.inj hheaders).2⟩
      rw [strays_closeBrace, if_neg (by simp [hdepth]), hstrays]
      rfl

/-- Assumes: the header of each brace of a line is the one that the text before it ends with. The
walk over the rest of the line tracks what its characters leave unmatched. -/
theorem Tracks.walk {number : Nat} (rest : List Char) :
    ∀ (front : List Char) {braces : UnmatchedBraces} {nesting : Nesting},
      (∀ before behind, front ++ rest = before ++ '{' :: behind →
        headerOf ⟨number, before.length⟩ = Header.atEnd? before) →
      Tracks headerOf braces nesting →
        Tracks headerOf (braces.meetAll (placedFrom number front.length rest))
          (nesting.walk number (marksBehind front rest)) := by
  induction rest with
  | nil =>
    intro front braces nesting _ htracks
    exact htracks
  | cons c rest ih =>
    intro front braces nesting hheader htracks
    have hlength : (front ++ [c]).length = front.length + 1 := by simp
    have hnext : ∀ before behind, front ++ [c] ++ rest = before ++ '{' :: behind →
        headerOf ⟨number, before.length⟩ = Header.atEnd? before := by
      intro before behind htext
      exact hheader before behind (by rw [← htext]; simp)
    rw [placedFrom_cons, UnmatchedBraces.meetAll_cons, marksBehind, ← hlength]
    by_cases hopen : c = '{'
    · subst hopen
      rw [if_pos rfl, ← hheader front rest rfl]
      exact ih _ hnext (htracks.openBrace _)
    · rw [if_neg hopen]
      by_cases hclose : c = '}'
      · subst hclose
        rw [if_pos rfl]
        exact ih _ hnext (htracks.closeBrace _)
      · rw [if_neg hclose, UnmatchedBraces.meet_of_ne _ _ hopen hclose]
        exact ih _ hnext htracks

theorem Tracks.frames (htracks : Tracks headerOf braces nesting) :
    nesting.frames.map Frame.header = braces.openings.reverse.tail.filterMap headerOf := by
  obtain ⟨opened, hstands, hheaders⟩ := htracks.opened
  have hstack : nesting.stack.map Frame.header = braces.openings.dropLast.filterMap headerOf := by
    rw [hstands.stack, ← filterMap_openHeaders, ← hheaders, List.filterMap_map, List.map_filterMap]
    rfl
  rw [Nesting.frames, List.map_reverse, hstack, List.tail_reverse, List.filterMap_reverse]

/-- The depths that are kept are those of the braces with frames. -/
theorem Tracks.stackDepths (htracks : Tracks headerOf braces nesting) :
    nesting.stackDepths.reverse = ((braces.openings.reverse.tail.zipIdx 2).filter
      fun entry ↦ (headerOf entry.1).isSome).map (·.2) := by
  obtain ⟨opened, hstands, hheaders⟩ := htracks.opened
  rw [hstands.stackDepths, ← filledDepths_map Frame.header, hheaders,
    reverse_filledDepths_openHeaders]

/-- A frame is taken away exactly if the brace that is being closed has a frame. -/
theorem Tracks.closesFrame_iff (htracks : Tracks headerOf braces nesting) :
    nesting.closesFrame = true ↔
      ∃ brace, braces.openings.reverse.tail.getLast? = some brace ∧
        (headerOf brace).isSome = true := by
  obtain ⟨-, opened, hstands, hheaders⟩ := htracks
  obtain ⟨openings, closings⟩ := braces
  cases opened with
  | nil =>
    obtain rfl : openings = [] := by
      have hlength := congrArg List.length hheaders
      rw [length_openHeaders] at hlength
      exact List.length_eq_zero_iff.mp hlength.symm
    simp [Nesting.closesFrame, hstands.depth]
  | cons entry opened =>
    cases openings with
    | nil => simp [openHeaders] at hheaders
    | cons brace outer =>
      have hentry : entry.map Frame.header = if outer.isEmpty then none else headerOf brace :=
        (List.cons.inj hheaders).1
      rw [hstands.closesFrame_eq, ← Option.isSome_map, hentry]
      by_cases hempty : outer = [] <;> simp [hempty]

end Nesting

/-! ### A scan tracks the text before its position -/

/-- The text of a line that counts at a position is the beginning of the line. -/
theorem exists_uncommented_eq_append (source : LineSource) (position : Position) (number : Nat) :
    ∃ behind, uncommented (source.line number) = visibleText source position number ++ behind := by
  rw [visibleText]
  split
  · rw [uncommentedBefore_eq_take]
    exact ⟨_, (List.take_append_drop _ _).symm⟩
  · exact ⟨[], (List.append_nil _).symm⟩

/-- The header of a brace that counts at a position is the one that the text before it ends
with. -/
theorem braceHeader?_eq_atEnd? {source : LineSource} {position : Position} {number : Nat}
    {before behind : List Char}
    (htext : visibleText source position number = before ++ '{' :: behind) :
    braceHeader? source ⟨number, before.length⟩ = Header.atEnd? before := by
  obtain ⟨more, hmore⟩ := exists_uncommented_eq_append source position number
  rw [braceHeader?, hmore, htext, List.append_assoc, List.cons_append, Header.headerAt?_openings]

theorem tracks_nestingBefore (source : LineSource) (position : Position) :
    Nesting.Tracks (braceHeader? source) (bracesBefore source position)
      (nestingBefore source position) := by
  rw [bracesBefore, textBefore_eq_flatMap, nestingBefore]
  induction min (position.line + 1) source.count.toNat with
  | zero => exact Nesting.tracks_empty _
  | succ count ih =>
    rw [List.range_succ, List.flatMap_append, UnmatchedBraces.meetAll_append, List.foldl_append,
      List.flatMap_singleton, List.foldl_cons, List.foldl_nil, braceMarks_eq_marksBehind]
    refine ih.walk (visibleText source position count) [] ?_
    intro before behind htext
    exact braceHeader?_eq_atEnd? htext

/-- At every position a scan counts the braces that the text before it leaves open and the closing
braces that closed nothing. Its frames are, in order, the headers of the open braces below the
outermost one that have a header on their line, and the depths that it keeps beside the frames are
the depths of these braces. So the next closing brace takes a frame away exactly if the brace that
it closes has one. -/
theorem scanAt_openBraces (source : LineSource) (position : Position) :
    ∃ nesting, scanAt source position.line position.character = .ok nesting ∧
      nesting.depth = (openBraces source position).length ∧
      nesting.strayCount = (strayBraces source position).length ∧
      nesting.frames.map (fun frame ↦ (frame.name, frame.operator)) =
        ((openBraces source position).tail.filterMap (braceHeader? source)).map
          (fun header ↦ (header.name, header.operator)) ∧
      nesting.stackDepths.reverse = (((openBraces source position).tail.zipIdx 2).filter
        fun entry ↦ (braceHeader? source entry.1).isSome).map (·.2) ∧
      (nesting.closesFrame = true ↔
        ∃ brace, (openBraces source position).tail.getLast? = some brace ∧
          (braceHeader? source brace).isSome = true) := by
  have htracks := tracks_nestingBefore source position
  refine ⟨_, scanAt_coordinates source position, ?_, ?_, ?_, htracks.stackDepths,
    htracks.closesFrame_iff⟩
  · rw [htracks.depth, openBraces, List.length_reverse]
  · rw [Nesting.strayCount, htracks.strays, strayBraces]
  · rw [openBraces, ← htracks.frames, List.map_map]
    rfl

end BlockScope
