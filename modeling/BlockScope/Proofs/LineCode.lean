import BlockScope.Check.ChainRule
import BlockScope.Proofs.LinesBefore
import BlockScope.Proofs.StatementKey
import BlockScope.Proofs.Trim

/-!
The code of a line is what is left without its comment and without the blanks before it or at the
end of the line. Everything that is read from a line is read from its code: the headers and keys end
in a sign that is not blank, apart from the blanks that may follow a header, and a brace is none
either. So the walk over braces, the search for names, the search for keys and the search for
unmatched braces do not change when each line is replaced by its code.
-/

set_option autoImplicit false
set_option relaxedAutoImplicit false

namespace BlockScope

/-! ### Blanks at the end of a text -/

section Blanks

variable {text blanks : List Char}

/-- Assumes: a text with blanks behind it, split behind some characters that are not blank. The
blanks are at the end of what follows those characters. -/
theorem exists_append_blanks {front sign back : List Char}
    (hblanks : ∀ c ∈ blanks, isBlank c = true) (hsplit : text ++ blanks = front ++ sign ++ back)
    (hne : sign ≠ []) (hsign : ∀ c ∈ sign, isBlank c = false) :
    ∃ more, text = front ++ sign ++ more ∧ back = more ++ blanks := by
  rcases List.append_eq_append_iff.mp hsplit with ⟨extra, hextra, hrest⟩ | hinside
  · rcases List.eq_nil_or_concat extra with rfl | ⟨extra, last, rfl⟩
    · exact ⟨[], by simpa using hextra.symm, by simpa using hrest.symm⟩
    · -- The last sign would be one of the blanks.
      have hlast : sign.getLast? = some last := by
        have hend := congrArg List.getLast? hextra
        rw [List.getLast?_append, List.getLast?_eq_some_getLast hne] at hend
        rw [List.getLast?_eq_some_getLast hne]
        simpa using hend
      have hblank := hblanks last (by rw [hrest]; simp)
      rw [hsign last (List.mem_of_getLast? hlast)] at hblank
      contradiction
  · exact hinside

theorem ne_brace_of_isBlank {c : Char} (hc : isBlank c = true) : c ≠ '{' ∧ c ≠ '}' := by
  constructor
  all_goals
    rintro rfl
    exact absurd hc (by decide)

end Blanks

/-! ### What is read from a text does not depend on blanks at its end -/

section Readers

variable {text blanks : List Char}

theorem marksBehind_blanks (hblanks : ∀ c ∈ blanks, isBlank c = true) :
    ∀ front : List Char, marksBehind front blanks = [] := by
  induction blanks with
  | nil =>
    intro front
    rfl
  | cons c blanks ih =>
    intro front
    obtain ⟨hc, hrest⟩ := List.forall_mem_cons.mp hblanks
    simp [marksBehind, ne_brace_of_isBlank hc, ih hrest]

theorem marksBehind_append_blanks (hblanks : ∀ c ∈ blanks, isBlank c = true) (text : List Char) :
    ∀ front : List Char, marksBehind front (text ++ blanks) = marksBehind front text := by
  induction text with
  | nil =>
    intro front
    exact marksBehind_blanks hblanks front
  | cons c rest ih =>
    intro front
    rw [List.cons_append, marksBehind, marksBehind, ih]

theorem braceMarks_trimEnd (text : List Char) : braceMarks (trimEnd text) = braceMarks text := by
  obtain ⟨blanks, htext, hblanks⟩ := exists_blanks text
  rw [braceMarks_eq_marksBehind text, htext, marksBehind_append_blanks hblanks, ← htext,
    braceMarks_eq_marksBehind]

theorem Header.atEnd?_append_blanks (hblanks : ∀ c ∈ blanks, isBlank c = true) :
    Header.atEnd? (text ++ blanks) = Header.atEnd? text := by
  refine Option.ext fun header ↦ ?_
  rw [atEnd?_eq_some_iff, atEnd?_eq_some_iff]
  constructor
  · rintro ⟨start, lead, body, hsplit, hstart, ⟨gap, tail, rfl, hne, hname, hgap, htail⟩, hlead⟩
    -- The operator ends in a sign, so the blanks are at the end of those behind the operator.
    have hsign : text ++ blanks = (lead ++ (header.name.toList ++ gap)) ++
        header.operator.symbol.toList ++ tail := by
      rw [hsplit]
      simp only [List.append_assoc]
    obtain ⟨more, htext, rfl⟩ := exists_append_blanks hblanks hsign (symbol_ne_nil _)
      fun c hc ↦ (operator_sign hc).2
    refine ⟨start, lead, _, by rw [htext]; simp only [List.append_assoc], hstart,
      ⟨gap, more, rfl, hne, hname, hgap, fun c hc ↦ htail c (List.mem_append_left _ hc)⟩, hlead⟩
  · rintro ⟨start, lead, body, rfl, hstart, ⟨gap, tail, rfl, hne, hname, hgap, htail⟩, hlead⟩
    refine ⟨start, lead, _, List.append_assoc _ _ _, hstart,
      ⟨gap, tail ++ blanks, List.append_assoc _ _ _, hne, hname, hgap, fun c hc ↦ ?_⟩, hlead⟩
    exact (List.mem_append.mp hc).elim (htail c) (hblanks c)

theorem Header.atEnd?_trimEnd (text : List Char) :
    Header.atEnd? (trimEnd text) = Header.atEnd? text := by
  obtain ⟨blanks, htext, hblanks⟩ := exists_blanks text
  rw [← atEnd?_append_blanks hblanks, ← htext]

theorem searchLine_blanks (above : List (List Char)) (awaiting : Nat) (rest : List Char)
    (hblanks : ∀ c ∈ blanks, isBlank c = true) :
    searchLine above awaiting (blanks ++ rest) = searchLine above awaiting rest := by
  induction blanks with
  | nil => rfl
  | cons c blanks ih =>
    obtain ⟨hc, hrest⟩ := List.forall_mem_cons.mp hblanks
    obtain ⟨hopen, hclose⟩ := ne_brace_of_isBlank hc
    rw [List.cons_append, searchLine_of_ne _ _ _ hopen hclose, ih hrest]

theorem searchLine_trimEnd (above : List (List Char)) (awaiting : Nat) (text : List Char) :
    searchLine above awaiting (trimEnd text).reverse =
      searchLine above awaiting text.reverse := by
  obtain ⟨blanks, htext, hblanks⟩ := exists_blanks text
  have hreverse : text.reverse = blanks.reverse ++ (trimEnd text).reverse := by
    rw [← List.reverse_append, ← htext]
  rw [hreverse, searchLine_blanks]
  intro c hc
  exact hblanks c (List.mem_reverse.mp hc)

/-- The operator at the front of a text is known from its first two characters. -/
theorem statementOperatorLength_cons (c : Char) (rest : List Char) :
    statementOperatorLength (c :: rest) =
      if rest.head? = some '=' ∧ c ∈ ['?', '>', '<', '=', '!'] then some 2
      else if c ∈ ['=', '>', '<'] then some 1 else none := by
  unfold statementOperatorLength
  split
  all_goals simp_all [List.head?_eq_some_iff]
  grind

theorem statementOperatorLength_append_blanks (hblanks : ∀ c ∈ blanks, isBlank c = true)
    (hne : text ≠ []) :
    statementOperatorLength (text ++ blanks) = statementOperatorLength text := by
  obtain ⟨c, rest, rfl⟩ := List.exists_cons_of_ne_nil hne
  have hequals : (rest ++ blanks).head? = some '=' ↔ rest.head? = some '=' := by
    cases rest with
    | cons d rest => rfl
    | nil =>
      refine iff_of_false (fun hhead ↦ ?_) (by simp)
      exact absurd (hblanks '=' (List.mem_of_mem_head? hhead)) (by decide)
  rw [List.cons_append, statementOperatorLength_cons, statementOperatorLength_cons]
  simp only [hequals]

theorem statementKey_append_blanks (hblanks : ∀ c ∈ blanks, isBlank c = true)
    (before : Option Char) :
    statementKey before (text ++ blanks) = statementKey before text := by
  refine Option.ext fun ⟨key, length⟩ ↦ ?_
  rw [statementKey_eq_some_iff, statementKey_eq_some_iff]
  refine and_congr_right fun _ ↦ ⟨?_, ?_⟩
  · rintro ⟨gap, rest, operatorLength, hsplit, hne, hkey, hgap, hlength, rfl⟩
    obtain ⟨operator, hoperator, tail, rfl, -⟩ :=
      exists_operator_of_statementOperatorLength hlength
    obtain ⟨hsigns, hsign⟩ := statementOperator_sign hoperator
    have hbehind : text ++ blanks = (key.toList ++ gap) ++ operator.toList ++ tail := by
      rw [hsplit]
      simp only [List.append_assoc]
    obtain ⟨more, htext, rfl⟩ := exists_append_blanks hblanks hbehind hsigns
      fun c hc ↦ (hsign c hc).2
    rw [← List.append_assoc, statementOperatorLength_append_blanks hblanks (by simp [hsigns])]
      at hlength
    exact ⟨gap, operator.toList ++ more, operatorLength,
      by rw [htext]; simp only [List.append_assoc], hne, hkey, hgap, hlength, rfl⟩
  · rintro ⟨gap, rest, operatorLength, rfl, hne, hkey, hgap, hlength, rfl⟩
    have hrest : rest ≠ [] := by
      rintro rfl
      contradiction
    rw [← statementOperatorLength_append_blanks hblanks hrest] at hlength
    exact ⟨gap, rest ++ blanks, operatorLength, by simp only [List.append_assoc], hne, hkey, hgap,
      hlength, rfl⟩

/-- No key begins with a blank. -/
theorem occurrencesFrom_statementKey_blanks (hblanks : ∀ c ∈ blanks, isBlank c = true) :
    ∀ (before : Option Char) (offset skip : Nat),
      occurrencesFrom statementKey before offset skip blanks = [] := by
  induction blanks with
  | nil =>
    intro before offset skip
    rfl
  | cons c blanks ih =>
    intro before offset skip
    have hrest := (List.forall_mem_cons.mp hblanks).2
    cases skip with
    | succ skip => exact ih hrest _ _ _
    | zero =>
      have hnone : statementKey before ([] ++ c :: blanks) = statementKey before [] :=
        statementKey_append_blanks hblanks before
      rw [List.nil_append] at hnone
      rw [occurrencesFrom, hnone]
      exact ih hrest _ _ _

theorem occurrencesFrom_statementKey_append_blanks (hblanks : ∀ c ∈ blanks, isBlank c = true)
    (text : List Char) :
    ∀ (before : Option Char) (offset skip : Nat),
      occurrencesFrom statementKey before offset skip (text ++ blanks) =
        occurrencesFrom statementKey before offset skip text := by
  induction text with
  | nil =>
    intro before offset skip
    exact occurrencesFrom_statementKey_blanks hblanks before offset skip
  | cons c rest ih =>
    intro before offset skip
    cases skip with
    | succ skip =>
      rw [List.cons_append, occurrencesFrom, occurrencesFrom, ih]
    | zero =>
      rw [List.cons_append, occurrencesFrom, occurrencesFrom, ← List.cons_append,
        statementKey_append_blanks hblanks]
      simp only [ih]

theorem statementKeys_trimEnd (text : List Char) :
    statementKeys (trimEnd text) = statementKeys text := by
  obtain ⟨blanks, htext, hblanks⟩ := exists_blanks text
  rw [statementKeys, occurrences, ← occurrencesFrom_statementKey_append_blanks hblanks, ← htext]
  rfl

theorem meetLine_blanks (hblanks : ∀ c ∈ blanks, isBlank c = true) (number : Nat) :
    ∀ (column : Nat) (braces : UnmatchedBraces),
      UnmatchedBraces.meetLine number column braces blanks = braces := by
  induction blanks with
  | nil =>
    intro column braces
    rfl
  | cons c blanks ih =>
    intro column braces
    obtain ⟨hc, hrest⟩ := List.forall_mem_cons.mp hblanks
    obtain ⟨hopen, hclose⟩ := ne_brace_of_isBlank hc
    rw [UnmatchedBraces.meetLine, UnmatchedBraces.meet_of_ne _ _ hopen hclose, ih hrest]

theorem meetLine_append_blanks (hblanks : ∀ c ∈ blanks, isBlank c = true) (number : Nat)
    (text : List Char) :
    ∀ (column : Nat) (braces : UnmatchedBraces),
      UnmatchedBraces.meetLine number column braces (text ++ blanks) =
        UnmatchedBraces.meetLine number column braces text := by
  induction text with
  | nil =>
    intro column braces
    exact meetLine_blanks hblanks number column braces
  | cons c rest ih =>
    intro column braces
    exact ih _ _

theorem meetLine_trimEnd (number column : Nat) (braces : UnmatchedBraces) (text : List Char) :
    UnmatchedBraces.meetLine number column braces (trimEnd text) =
      UnmatchedBraces.meetLine number column braces text := by
  obtain ⟨blanks, htext, hblanks⟩ := exists_blanks text
  rw [← meetLine_append_blanks hblanks, ← htext]

end Readers

/-! ### The code of a line -/

/-- A line without its comment, and without the blanks that are then at its end. -/
def lineCode (line : List Char) : List Char := trimEnd (uncommented line)

theorem lineCode_prefix_line (line : List Char) : lineCode line <+: line := by
  obtain ⟨blanks, hblanks, -⟩ := exists_blanks (uncommented line)
  have hcode : lineCode line <+: uncommented line := ⟨blanks, hblanks.symm⟩
  exact hcode.trans (List.takeWhile_prefix _)

theorem uncommented_lineCode (line : List Char) : uncommented (lineCode line) = lineCode line := by
  obtain ⟨blanks, hblanks, -⟩ := exists_blanks (uncommented line)
  rw [uncommented, List.takeWhile_eq_self_iff]
  intro c hc
  have hmem : c ∈ uncommented line := by
    rw [hblanks]
    exact List.mem_append_left _ hc
  have hplain := List.mem_takeWhile_imp hmem
  exact hplain

/-- What counts of a line that is cut is what counts of its code, cut there. -/
theorem lineCode_take (line : List Char) (count : Nat) :
    lineCode ((lineCode line).take count) = lineCode (line.take count) := by
  have hcut : ∀ text : List Char, uncommented (text.take count) = (uncommented text).take count :=
    fun text ↦ uncommentedBefore_eq_take text count
  rw [lineCode, hcut, uncommented_lineCode, lineCode, trimEnd_take_trimEnd, lineCode, hcut]

theorem lineCode_lineCode (line : List Char) : lineCode (lineCode line) = lineCode line := by
  have hwhole := lineCode_take line line.length
  rwa [List.take_of_length_le (lineCode_prefix_line line).length_le, List.take_length] at hwhole

theorem lineCode_uncommented (line : List Char) : lineCode (uncommented line) = lineCode line := by
  rw [lineCode, uncommented, uncommented, List.takeWhile_idem, lineCode, uncommented]

/-- Blanks at the end of a line stand behind its code, or in its comment. -/
theorem lineCode_append_blanks {blanks : List Char} (hblanks : ∀ c ∈ blanks, isBlank c = true)
    (line : List Char) : lineCode (line ++ blanks) = lineCode line := by
  have hplain : uncommented blanks = blanks := by
    refine List.takeWhile_eq_self_iff.mpr fun c hc ↦ bne_iff_ne.mpr ?_
    rintro rfl
    exact absurd (hblanks _ hc) (by decide)
  have hline : uncommented (line ++ blanks) = uncommented line ∨
      uncommented (line ++ blanks) = uncommented line ++ blanks := by
    rw [uncommented, List.takeWhile_append]
    split
    · rename_i hwhole
      right
      rw [← uncommented, hplain, uncommented, (List.takeWhile_prefix _).eq_of_length hwhole]
    · left
      rfl
  rcases hline with hcomment | hcode
  · rw [lineCode, hcomment, lineCode]
  · rw [lineCode, hcode, trimEnd_append_blanks hblanks, lineCode]

/-! ### Lines may be replaced by their code -/

theorem walkLines_map_lineCode (lines : List (List Char)) :
    ∀ (nesting : Nesting) (number : Nat),
      nesting.walkLines number (lines.map lineCode) = nesting.walkLines number lines := by
  induction lines with
  | nil =>
    intro nesting number
    rfl
  | cons line rest ih =>
    intro nesting number
    rw [List.map_cons, Nesting.walkLines_cons, uncommented_lineCode, lineCode, braceMarks_trimEnd,
      ih, Nesting.walkLines_cons]

theorem braceName?_map_lineCode (before : List Char) (above : List (List Char)) :
    braceName? before (above.map lineCode) = braceName? before above := by
  cases above with
  | nil => rfl
  | cons line above =>
    have hend : Header.atEnd? (uncommented (lineCode line)) = Header.atEnd? (uncommented line) := by
      rw [uncommented_lineCode, lineCode, Header.atEnd?_trimEnd]
    simp [braceName?, hend]

/-- Assumes: every brace of a line gets the same name from two lists of lines above it. -/
theorem searchLine_congr {above above' : List (List Char)}
    (hname : ∀ before, braceName? before above = braceName? before above') (text : List Char) :
    ∀ awaiting : Nat, searchLine above awaiting text = searchLine above' awaiting text := by
  induction text with
  | nil =>
    intro awaiting
    rfl
  | cons c before ih =>
    intro awaiting
    simp only [searchLine, hname, ih]

theorem searchLines_map_lineCode (lines : List (List Char)) :
    ∀ awaiting : Nat, searchLines awaiting (lines.map lineCode) = searchLines awaiting lines := by
  induction lines with
  | nil =>
    intro awaiting
    rfl
  | cons line above ih =>
    intro awaiting
    have hline : searchLine (above.map lineCode) awaiting (uncommented (lineCode line)).reverse =
        searchLine above awaiting (uncommented line).reverse := by
      rw [uncommented_lineCode, lineCode, searchLine_trimEnd]
      exact searchLine_congr (fun before ↦ braceName?_map_lineCode before above) _ _
    simp only [List.map_cons, searchLines, hline, ih]

theorem linesBefore_map_lineCode (lines : List (List Char)) (position : Position) :
    (linesBefore (lines.map lineCode) position).map lineCode =
      (linesBefore lines position).map lineCode := by
  rw [linesBefore, linesBefore, List.map_append, List.map_append, ← List.map_take,
    ← List.map_drop, List.head?_map, List.map_map]
  congr 1
  · exact List.map_congr_left fun line _ ↦ lineCode_lineCode line
  · cases (lines.drop position.line).head? with
    | none => rfl
    | some line => simp [lineCode_take]

theorem chainKeysFrom_map_lineCode (lines : List (List Char)) :
    ∀ number : Nat, chainKeysFrom number (lines.map lineCode) = chainKeysFrom number lines := by
  induction lines with
  | nil =>
    intro number
    rfl
  | cons line rest ih =>
    intro number
    have hline : chainKeysOn number (lineCode line) = chainKeysOn number line := by
      rw [chainKeysOn, uncommented_lineCode, lineCode, statementKeys_trimEnd, chainKeysOn]
    rw [List.map_cons, chainKeysFrom, chainKeysFrom, hline, ih]

theorem meetLines_map_lineCode (lines : List (List Char)) :
    ∀ (number : Nat) (braces : UnmatchedBraces),
      UnmatchedBraces.meetLines number braces (lines.map lineCode) =
        UnmatchedBraces.meetLines number braces lines := by
  induction lines with
  | nil =>
    intro number braces
    rfl
  | cons line rest ih =>
    intro number braces
    rw [List.map_cons, UnmatchedBraces.meetLines, uncommented_lineCode, lineCode, meetLine_trimEnd,
      ih, UnmatchedBraces.meetLines]

end BlockScope
