import BlockScope.Block.Enclosing
import BlockScope.Proofs.OpenBraces

/-!
The search backwards for the name of a block and the walk forwards over the braces agree. Going
backwards, a closing brace asks for one more opening brace to be passed over; going forwards, it
takes one away from the open braces. So the search that still has to pass over some braces looks at
the open braces without that many of the innermost ones, and this carries the induction over the
reversed text. A closing brace that closes nothing makes no difference on either side: backwards it
is waited for in vain, and forwards there is nothing to take away.
-/

set_option autoImplicit false
set_option relaxedAutoImplicit false

namespace BlockScope

/-! ### The search looks at the open braces -/

theorem placedFrom_concat (number column : Nat) (front : List Char) (c : Char) :
    placedFrom number column (front ++ [c]) =
      placedFrom number column front ++ [(⟨number, column + front.length⟩, c)] := by
  simp [placedFrom, List.zipIdx_append]

theorem openings_meet_closing (braces : UnmatchedBraces) (position : Position) :
    (braces.meet position '}').openings = braces.openings.tail := by
  obtain ⟨openings, closings⟩ := braces
  cases openings <;> rfl

section SearchLine

variable (above : List (List Char)) (awaiting : Nat) (before : List Char)

@[simp] theorem searchLine_closing :
    searchLine above awaiting ('}' :: before) = searchLine above (awaiting + 1) before := by
  simp [searchLine]

@[simp] theorem searchLine_opening_succ :
    searchLine above (awaiting + 1) ('{' :: before) = searchLine above awaiting before := by
  simp [searchLine]

theorem searchLine_opening_of_some {name : String}
    (hname : braceName? before.reverse above = some name) :
    searchLine above 0 ('{' :: before) = .found name := by
  simp [searchLine, hname]

theorem searchLine_opening_of_none (hname : braceName? before.reverse above = none) :
    searchLine above 0 ('{' :: before) = searchLine above 0 before := by
  simp [searchLine, hname]

theorem searchLine_of_ne {c : Char} (hopen : c ≠ '{') (hclose : c ≠ '}') :
    searchLine above awaiting (c :: before) = searchLine above awaiting before := by
  simp [searchLine, hopen, hclose]

end SearchLine

/-- The name that a search through a line leads to, when the braces before the line are open. -/
def LineSearch.resume (nameOf : Position → Option String) (outer : List Position) :
    LineSearch → Option String
  | found name => some name
  | passed awaiting => (outer.drop awaiting).findSome? nameOf

/-- Assumes: each brace of the line has the name that the search gives it. A search through the line
backwards, resumed on the lines above, finds the first name among the open braces behind those that
it has to pass over. -/
theorem resume_searchLine {nameOf : Position → Option String} {above : List (List Char)}
    {number : Nat} (braces : UnmatchedBraces) (reversed : List Char) :
    ∀ awaiting : Nat,
      (∀ before behind, reversed.reverse = before ++ '{' :: behind →
        nameOf ⟨number, before.length⟩ = braceName? before above) →
      (searchLine above awaiting reversed).resume nameOf braces.openings =
        ((braces.meetAll (placedFrom number 0 reversed.reverse)).openings.drop
          awaiting).findSome? nameOf := by
  induction reversed with
  | nil =>
    intro awaiting _
    rfl
  | cons c before ih =>
    intro awaiting hname
    have hrest : ∀ front behind, before.reverse = front ++ '{' :: behind →
        nameOf ⟨number, front.length⟩ = braceName? front above := by
      intro front behind htext
      refine hname front (behind ++ [c]) ?_
      rw [List.reverse_cons, htext, List.append_assoc, List.cons_append]
    rw [List.reverse_cons, placedFrom_concat, UnmatchedBraces.meetAll_append,
      UnmatchedBraces.meetAll_cons, UnmatchedBraces.meetAll_nil]
    by_cases hclose : c = '}'
    · subst hclose
      rw [searchLine_closing, ih _ hrest, openings_meet_closing, List.drop_tail]
    · by_cases hopen : c = '{'
      · subst hopen
        rw [UnmatchedBraces.meet_opening, Nat.zero_add]
        cases awaiting with
        | succ outer =>
          rw [searchLine_opening_succ]
          exact ih outer hrest
        | zero =>
          rw [List.drop_zero, List.findSome?_cons]
          have hbrace := hname before.reverse [] (by simp)
          rw [hbrace]
          cases hfound : braceName? before.reverse above with
          | some name =>
            rw [searchLine_opening_of_some _ _ hfound]
            rfl
          | none =>
            rw [searchLine_opening_of_none _ _ hfound]
            exact ih 0 hrest
      · rw [searchLine_of_ne _ _ _ hopen hclose, UnmatchedBraces.meet_of_ne _ _ hopen hclose,
          ih _ hrest]

/-- The characters of lines outside comments, each with its place. -/
def placedLines (lines : List (List Char)) : List (Position × Char) :=
  lines.zipIdx.flatMap fun entry ↦ placedFrom entry.2 0 (uncommented entry.1)

theorem placedLines_concat (lines : List (List Char)) (line : List Char) :
    placedLines (lines ++ [line]) =
      placedLines lines ++ placedFrom lines.length 0 (uncommented line) := by
  simp [placedLines, List.zipIdx_append]

/-- Assumes: each brace of the lines has the name that the search gives it there. The lines are
listed with the nearest first, and the induction follows the search through them. -/
theorem searchLines_eq_findSome? {nameOf : Position → Option String} (reversed : List (List Char)) :
    ∀ awaiting : Nat,
      (∀ line above, line :: above <:+ reversed → ∀ before behind,
        uncommented line = before ++ '{' :: behind →
          nameOf ⟨above.length, before.length⟩ = braceName? before above) →
      searchLines awaiting reversed =
        ((UnmatchedBraces.meetAll ⟨[], []⟩ (placedLines reversed.reverse)).openings.drop
          awaiting).findSome? nameOf := by
  induction reversed with
  | nil =>
    intro awaiting _
    simp [searchLines, placedLines]
  | cons line above ih =>
    intro awaiting hname
    have hline := resume_searchLine
      (UnmatchedBraces.meetAll ⟨[], []⟩ (placedLines above.reverse))
      (uncommented line).reverse awaiting (fun before behind htext ↦
        hname line above List.suffix_rfl before behind (by rw [← htext, List.reverse_reverse]))
    rw [List.reverse_reverse] at hline
    rw [List.reverse_cons, placedLines_concat, UnmatchedBraces.meetAll_append, List.length_reverse,
      ← hline, searchLines]
    have hrest := fun count ↦ ih count fun next higher hsuffix ↦
      hname next higher (hsuffix.trans (List.suffix_cons line above))
    cases searchLine above awaiting (uncommented line).reverse with
    | found name => rfl
    | passed count => exact hrest count

/-! ### The lines before a position -/

section Lines

variable (lines : List (List Char)) (position : Position)

theorem getElem?_linesBefore (number : Nat) :
    (linesBefore lines position)[number]? =
      if number < position.line then lines[number]?
      else if number = position.line then lines[number]?.map (·.take position.character)
      else none := by
  rw [linesBefore, List.head?_drop, List.getElem?_append, List.length_take]
  by_cases hbefore : number < position.line
  · rw [if_pos hbefore]
    split
    · rw [List.getElem?_take_of_lt hbefore]
    · have hend : lines.length ≤ position.line := by omega
      rw [List.getElem?_eq_none hend, List.getElem?_eq_none (by omega : lines.length ≤ number)]
      rfl
  · rw [if_neg hbefore, if_neg (by omega)]
    by_cases hinside : position.line < lines.length
    · rw [Nat.min_eq_left (Nat.le_of_lt hinside), List.getElem?_eq_getElem hinside]
      by_cases hsame : number = position.line
      · subst hsame
        simp [List.getElem?_eq_getElem hinside]
      · rw [if_neg hsame]
        have hbehind : number - position.line ≠ 0 := by omega
        simpa using hbehind
    · rw [List.getElem?_eq_none (by omega : lines.length ≤ position.line),
        List.getElem?_eq_none (by omega : lines.length ≤ number)]
      simp

theorem length_linesBefore :
    (linesBefore lines position).length = min (position.line + 1) lines.length := by
  rw [linesBefore, List.head?_drop, List.length_append, List.length_take]
  by_cases hinside : position.line < lines.length
  · rw [List.getElem?_eq_getElem hinside]
    simp only [Option.map_some, Option.toList_some, List.length_singleton]
    omega
  · rw [List.getElem?_eq_none (by omega)]
    simp only [Option.map_none, Option.toList_none, List.length_nil]
    omega

variable {lines position}

/-- What counts of a line at a position is what stands outside comments in the line, cut there if
it is the line of the position. -/
theorem visibleText_ofLines {number : Nat} {line : List Char}
    (hline : (linesBefore lines position)[number]? = some line) :
    visibleText (.ofLines lines) position number = uncommented line := by
  rw [getElem?_linesBefore] at hline
  rw [visibleText, line_ofLines, List.getD_eq_getElem?_getD]
  split at hline
  · rename_i hbefore
    rw [if_neg (by omega), hline]
    rfl
  · split at hline
    · rename_i hsame
      obtain ⟨whole, hwhole, rfl⟩ := Option.map_eq_some_iff.mp hline
      rw [if_pos hsame, hwhole]
      rfl
    · contradiction

theorem textBefore_ofLines (lines : List (List Char)) (position : Position) :
    textBefore (.ofLines lines) position = placedLines (linesBefore lines position) := by
  have hcount : min (position.line + 1) (LineSource.ofLines lines).count.toNat =
      (linesBefore lines position).length := by
    rw [count_ofLines, Int.toNat_natCast, length_linesBefore]
  have hfirst : ∀ count ≤ (linesBefore lines position).length,
      (List.range count).flatMap (fun number ↦
        placedFrom number 0 (visibleText (.ofLines lines) position number)) =
          placedLines ((linesBefore lines position).take count) := by
    intro count
    induction count with
    | zero =>
      intro _
      rfl
    | succ count ih =>
      intro hle
      have hline := List.getElem?_eq_getElem (Nat.lt_of_succ_le hle)
      rw [List.range_succ, List.flatMap_append, ih (by omega), List.flatMap_singleton,
        visibleText_ofLines hline, List.take_add_one, hline, Option.toList_some,
        placedLines_concat, List.length_take_of_le (by omega)]
  rw [textBefore_eq_flatMap, hcount, hfirst _ (Nat.le_refl _), List.take_length]

end Lines

/-! ### The names of open braces -/

/-- The header that the line above a line ends with. -/
def danglingAbove? (source : LineSource) : Nat → Option Header
  | 0 => none
  | number + 1 => Header.atEnd? (uncommented (source.line number))

/-- The name of a brace, from its header or else from the line above. -/
def blockName? (source : LineSource) (brace : Position) : Option String :=
  ((braceHeader? source brace).or (danglingAbove? source brace.line)).map (·.name)

/-- A brace has a name: that of the header that ends with it on its line, or, where there is none,
that of a header with which the line above ends. -/
def HasName (source : LineSource) (brace : Position) (name : String) : Prop :=
  match braceHeader? source brace with
  | some header => header.name = name
  | none => 0 < brace.line ∧ ∃ header start,
      Header.EndsText header start (uncommented (source.line (brace.line - 1))) ∧
        header.name = name

theorem blockName?_eq_some_iff {source : LineSource} {brace : Position} {name : String} :
    blockName? source brace = some name ↔ HasName source brace name := by
  unfold blockName? HasName
  cases braceHeader? source brace with
  | some header => simp
  | none =>
    obtain ⟨number, character⟩ := brace
    cases number with
    | zero => simp [danglingAbove?]
    | succ number =>
      simp only [Option.none_or, danglingAbove?, Option.map_eq_some_iff, Header.atEnd?_eq_some_iff,
        Nat.zero_lt_succ, Nat.add_sub_cancel, true_and]
      constructor
      · rintro ⟨header, ⟨start, hheader⟩, hname⟩
        exact ⟨header, start, hheader, hname⟩
      · rintro ⟨header, start, hheader, hname⟩
        exact ⟨header, ⟨start, hheader⟩, hname⟩

/-- Assumes: a line among those before a position, the nearest of them first, and a brace on it. The
search gives the brace its own name. -/
theorem blockName?_eq_braceName? {lines : List (List Char)} {position : Position}
    {line : List Char} {above : List (List Char)}
    (hsuffix : line :: above <:+ (linesBefore lines position).reverse) {before behind : List Char}
    (hline : uncommented line = before ++ '{' :: behind) :
    blockName? (.ofLines lines) ⟨above.length, before.length⟩ = braceName? before above := by
  obtain ⟨below, hbelow⟩ := hsuffix
  have hlines : linesBefore lines position = above.reverse ++ line :: below.reverse := by
    rw [← List.reverse_reverse (linesBefore lines position), ← hbelow]
    simp
  have hhere : (linesBefore lines position)[above.length]? = some line := by
    rw [hlines, List.getElem?_append_right (by simp), List.length_reverse, Nat.sub_self]
    rfl
  have hheader : braceHeader? (.ofLines lines) ⟨above.length, before.length⟩ =
      Header.atEnd? before :=
    braceHeader?_eq_atEnd? ((visibleText_ofLines hhere).trans hline)
  have hdangling : danglingAbove? (.ofLines lines) above.length =
      above.head?.bind fun next ↦ Header.atEnd? (uncommented next) := by
    cases above with
    | nil => rfl
    | cons next higher =>
      have habove : (linesBefore lines position)[higher.length]? = some next := by
        rw [hlines]
        simp
      have hinside : higher.length < position.line := by
        have hlength := length_linesBefore lines position
        rw [hlines] at hlength
        simp only [List.length_append, List.length_reverse, List.length_cons] at hlength
        omega
      rw [getElem?_linesBefore, if_pos hinside] at habove
      rw [List.length_cons, danglingAbove?, line_ofLines, List.getD_eq_getElem?_getD, habove]
      rfl
  rw [blockName?, hheader, braceName?, hdangling]
  cases Header.atEnd? before with
  | some header => rfl
  | none =>
    cases above.head? with
    | none => rfl
    | some next => cases hfound : Header.atEnd? (uncommented next) <;> simp [hfound]

/-- The search backwards finds the first name among the open braces, the innermost first. -/
theorem enclosingName?_coordinates (lines : List (List Char)) (position : Position) :
    enclosingName? lines position.line position.character =
      .ok ((bracesBefore (.ofLines lines) position).openings.findSome?
        (blockName? (.ofLines lines))) := by
  have hsearch := searchLines_eq_findSome? (linesBefore lines position).reverse 0
    fun line above hsuffix before behind hline ↦ blockName?_eq_braceName? hsuffix hline
  rw [List.reverse_reverse, List.drop_zero, ← textBefore_ofLines] at hsearch
  rw [enclosingName?, scanPosition_coordinates, bracesBefore, ← hsearch]
  rfl

theorem blockName?_eq_none_iff {source : LineSource} {brace : Position} :
    blockName? source brace = none ↔ ∀ name, ¬ HasName source brace name := by
  rw [Option.eq_none_iff_forall_ne_some]
  exact forall_congr' fun name ↦ not_congr blockName?_eq_some_iff

/-- The first name among the open braces is that of the innermost one that has a name. -/
theorem findSome?_blockName?_eq_some_iff {source : LineSource} {position : Position}
    {name : String} :
    (bracesBefore source position).openings.findSome? (blockName? source) = some name ↔
      ∃ outer brace inner, openBraces source position = outer ++ brace :: inner ∧
        HasName source brace name ∧
        ∀ closer ∈ inner, ∀ other, ¬ HasName source closer other := by
  rw [List.findSome?_eq_some_iff]
  constructor
  · rintro ⟨inner, brace, outer, hsplit, hname, hinner⟩
    refine ⟨outer.reverse, brace, inner.reverse, ?_, blockName?_eq_some_iff.mp hname, ?_⟩
    · rw [openBraces, hsplit]
      simp
    · intro closer hcloser
      exact blockName?_eq_none_iff.mp (hinner closer (List.mem_reverse.mp hcloser))
  · rintro ⟨outer, brace, inner, hsplit, hname, hinner⟩
    refine ⟨inner.reverse, brace, outer.reverse, ?_, blockName?_eq_some_iff.mpr hname, ?_⟩
    · rw [openBraces, List.reverse_eq_iff] at hsplit
      rw [hsplit]
      simp
    · intro closer hcloser
      exact blockName?_eq_none_iff.mpr (hinner closer (List.mem_reverse.mp hcloser))

/-- Assumes: no line ends with a header. A brace then has no name but that of its own header. -/
theorem blockName?_of_no_dangling {lines : List (List Char)}
    (hdangling : ∀ line ∈ lines, ∀ header start,
      ¬ Header.EndsText header start (uncommented line)) (brace : Position) :
    blockName? (.ofLines lines) brace = (braceHeader? (.ofLines lines) brace).map (·.name) := by
  have habove : danglingAbove? (.ofLines lines) brace.line = none := by
    cases brace.line with
    | zero => rfl
    | succ number =>
      rw [danglingAbove?, line_ofLines, List.getD_eq_getElem?_getD]
      cases hline : lines[number]? with
      | none => rfl
      | some line =>
        refine Option.eq_none_iff_forall_ne_some.mpr fun header hheader ↦ ?_
        obtain ⟨start, hends⟩ := Header.atEnd?_eq_some_iff.mp hheader
        exact hdangling line (List.mem_of_getElem? hline) header start hends
  rw [blockName?, habove, Option.or_none]

/-- Assumes: a value is found behind the first element. The last value found there is the last one
of all. -/
theorem getLast?_filterMap_tail {α β : Type} (f : α → Option β) {values : List α}
    (hne : values.tail.filterMap f ≠ []) :
    (values.tail.filterMap f).getLast? = values.reverse.findSome? f := by
  rw [← List.head?_filterMap, List.filterMap_reverse, List.head?_reverse]
  cases values with
  | nil => rfl
  | cons value values =>
    rw [List.tail_cons] at hne ⊢
    rw [List.filterMap_cons]
    cases f value with
    | none => rfl
    | some found => rw [List.getLast?_cons_of_ne_nil hne]

/-- Assumes: no line ends with a header, and the scan at a position has frames. The innermost frame
has the name that the search backwards finds. -/
theorem getLast?_path_of_no_dangling {lines : List (List Char)} {position : Position}
    (hdangling : ∀ line ∈ lines, ∀ header start,
      ¬ Header.EndsText header start (uncommented line))
    (hpath : (nestingBefore (.ofLines lines) position).path ≠ []) :
    (nestingBefore (.ofLines lines) position).path.getLast? =
      (bracesBefore (.ofLines lines) position).openings.findSome?
        (blockName? (.ofLines lines)) := by
  have hnames : (nestingBefore (.ofLines lines) position).path =
      (bracesBefore (.ofLines lines) position).openings.reverse.tail.filterMap
        (blockName? (.ofLines lines)) := by
    have hframes := (tracks_nestingBefore (.ofLines lines) position).frames
    have hmapped := congrArg (List.map (·.name)) hframes
    rw [List.map_map, List.map_filterMap] at hmapped
    simp only [← blockName?_of_no_dangling hdangling] at hmapped
    exact hmapped
  rw [hnames] at hpath ⊢
  rw [getLast?_filterMap_tail _ hpath, List.reverse_reverse]

/-- The search backwards returns the name of the innermost open brace that has a name, and nothing
exactly if no open brace has one. Where no line ends with a header, this is the name of the
innermost frame of a scan that has frames. -/
theorem enclosingName?_innermost (document : Document) (position : Position) :
    ∃ result, enclosingName? document.lines position.line position.character = .ok result ∧
      (∀ name, result = some name ↔
        ∃ outer brace inner, openBraces document.source position = outer ++ brace :: inner ∧
          HasName document.source brace name ∧
          ∀ closer ∈ inner, ∀ other, ¬ HasName document.source closer other) ∧
      (result = none ↔
        ∀ brace ∈ openBraces document.source position, ∀ name,
          ¬ HasName document.source brace name) ∧
      ((∀ line ∈ document.lines, ∀ header start,
          ¬ Header.EndsText header start (uncommented line)) →
        ∀ nesting, scanAt document.source position.line position.character = .ok nesting →
          nesting.path ≠ [] → result = nesting.path.getLast?) := by
  refine ⟨_, enclosingName?_coordinates document.lines position, fun name ↦ ?_, ?_, ?_⟩
  · exact findSome?_blockName?_eq_some_iff
  · rw [List.findSome?_eq_none_iff]
    constructor
    · intro hall brace hbrace
      exact blockName?_eq_none_iff.mp (hall brace (List.mem_reverse.mp hbrace))
    · intro hall brace hbrace
      exact blockName?_eq_none_iff.mpr (hall brace (List.mem_reverse.mpr hbrace))
  · intro hdangling nesting hscan hpath
    rw [scanAt_coordinates] at hscan
    cases hscan
    exact (getLast?_path_of_no_dangling hdangling hpath).symm

/-- In a document without dangling headers the search finds the innermost frame. A block has been
closed before the position, and an unnamed brace is open inside the frame. -/
theorem enclosingName?_innermost_unnamed :
    (∀ line ∈ (Document.ofString "a = \x7b\nb = \x7b c = \x7b\x7d \x7b").lines, ∀ header start,
        ¬ Header.EndsText header start (uncommented line)) ∧
      enclosingName? (Document.ofString "a = \x7b\nb = \x7b c = \x7b\x7d \x7b").lines 1 15 =
        .ok (some "b") := by
  have hdangling : ∀ line ∈ (Document.ofString "a = \x7b\nb = \x7b c = \x7b\x7d \x7b").lines,
      ∀ header start, ¬ Header.EndsText header start (uncommented line) := by
    have hlines : ∀ line ∈ (Document.ofString "a = \x7b\nb = \x7b c = \x7b\x7d \x7b").lines,
        Header.atEnd? (uncommented line) = none := by
      decide +kernel
    intro line hline header start hends
    have hend := Header.atEnd?_eq_some_iff.mpr ⟨start, hends⟩
    rw [hlines line hline] at hend
    contradiction
  obtain ⟨result, hresult, -, -, hframe⟩ := enclosingName?_innermost
    (Document.ofString "a = \x7b\nb = \x7b c = \x7b\x7d \x7b") ⟨1, 15⟩
  have hinnermost := hframe hdangling _ (scanAt_coordinates _ _) (by decide +kernel)
  refine ⟨hdangling, hresult.trans ?_⟩
  rw [hinnermost]
  decide +kernel

end BlockScope
