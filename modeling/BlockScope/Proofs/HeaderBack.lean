import BlockScope.Proofs.Scan
import BlockScope.Proofs.Trim
import Mathlib.Data.List.Sort

/-!
Headers read back from their braces. Before a brace stand perhaps blanks, an operator, perhaps
blanks again and a name, and each of them can be read from right to left without looking at what
stands further to the left. The search for headers from left to right finds exactly what is read
back from the braces of the line, in their order. What is read back from a brace depends on nothing
behind it, so cutting a line keeps the headers of the braces before the cut.
-/

set_option autoImplicit false
set_option relaxedAutoImplicit false

namespace BlockScope

namespace BlockOperator

/-- All operators, those of two signs first. -/
def longestFirst : List BlockOperator := [soft, greaterEqual, lessEqual, equals, greater, less]

/-- The operator that a text ends with. Where two of them end there, the longer one is read. -/
def atEnd? (text : List Char) : Option BlockOperator :=
  longestFirst.find? (·.symbol.toList.isSuffixOf text)

theorem exists_append_symbol_of_atEnd? {text : List Char} {operator : BlockOperator}
    (hend : atEnd? text = some operator) : ∃ front, text = front ++ operator.symbol.toList := by
  unfold atEnd? at hend
  have hsuffix := List.find?_some hend
  obtain ⟨front, hfront⟩ := List.isSuffixOf_iff_suffix.mp hsuffix
  exact ⟨front, hfront.symm⟩

/-- Assumes: a text that does not end in a sign with which an operator could be longer. -/
theorem atEnd?_append_symbol (operator : BlockOperator) {front : List Char}
    (hfront : ∀ c ∈ front.getLast?, c ∉ ['?', '>', '<']) :
    atEnd? (front ++ operator.symbol.toList) = some operator := by
  rcases List.eq_nil_or_concat' front with rfl | ⟨front, c, rfl⟩
  · cases operator <;> decide
  · have hc : c ∉ ['?', '>', '<'] := hfront c (by simp)
    simp only [List.mem_cons, List.not_mem_nil, or_false, not_or] at hc
    obtain ⟨hsoft, hgreater, hless⟩ := hc
    cases operator <;>
      simp [atEnd?, longestFirst, symbol, List.isSuffixOf, List.isPrefixOf_cons_cons, Ne.symm hsoft,
        Ne.symm hgreater, Ne.symm hless]

end BlockOperator

namespace Header

/-- The header that a text ends with, read from right to left, and the offset at which it begins.
The name takes all the name characters that stand in front of the operator. -/
def readBack? (text : List Char) : Option (Nat × Header) :=
  let code := trimEnd text
  match BlockOperator.atEnd? code with
  | none => none
  | some operator =>
    let front := trimEnd (code.rdrop operator.symbol.toList.length)
    let name := front.rtakeWhile isNameChar
    if name.isEmpty then none
    else some ((front.rdropWhile isNameChar).length, ⟨String.ofList name, operator⟩)

section Reading

variable {text : List Char} {start : Nat} {header : Header}

/-- In front of the operator of a header stands a blank or a name character. -/
theorem notMem_signs_of_getLast? {lead name gap : List Char} (hne : name ≠ [])
    (hname : ∀ c ∈ name, isNameChar c = true) (hgap : ∀ c ∈ gap, isBlank c = true) :
    ∀ c ∈ (lead ++ name ++ gap).getLast?, c ∉ ['?', '>', '<'] := by
  have hsigns : ['?', '>', '<'].all (fun sign ↦ !isNameChar sign && !isBlank sign) = true := by
    decide
  intro c hlast hsign
  obtain ⟨hother, hsolid⟩ : isNameChar c = false ∧ isBlank c = false := by
    simpa using List.all_eq_true.mp hsigns c hsign
  rw [List.append_assoc, List.getLast?_append_of_ne_nil _ (by simp [hne])] at hlast
  rcases List.mem_append.mp (List.mem_of_mem_getLast? hlast) with hmem | hmem
  · rw [hname c hmem] at hother
    contradiction
  · rw [hgap c hmem] at hsolid
    contradiction

theorem endsText_of_readBack? (hread : readBack? text = some (start, header)) :
    header.EndsText start text := by
  simp only [readBack?, List.isEmpty_iff] at hread
  split at hread
  · contradiction
  · rename_i operator hend
    split at hread
    · contradiction
    · rename_i hne
      simp only [Option.some.injEq, Prod.mk.injEq] at hread
      obtain ⟨rfl, rfl⟩ := hread
      obtain ⟨stem, hstem⟩ := BlockOperator.exists_append_symbol_of_atEnd? hend
      rw [hstem, List.rdrop_append_length] at hne ⊢
      -- The text in parts, as they are met from the right: tail, operator, gap and name.
      obtain ⟨tail, htext, htail⟩ := exists_blanks text
      obtain ⟨gap, hgap, hblanks⟩ := exists_blanks stem
      have hname : (trimEnd stem).rdropWhile isNameChar ++ (trimEnd stem).rtakeWhile isNameChar =
          trimEnd stem := List.rdropWhile_append_rtakeWhile
      have hparts : text = (trimEnd stem).rdropWhile isNameChar ++
          ((trimEnd stem).rtakeWhile isNameChar ++ gap ++ operator.symbol.toList ++ tail) :=
        calc text = stem ++ operator.symbol.toList ++ tail := by rw [← hstem, ← htext]
          _ = trimEnd stem ++ gap ++ operator.symbol.toList ++ tail := by rw [← hgap]
          _ = _ := by simp only [← List.append_assoc, hname]
      refine ⟨_, _, hparts, rfl, ⟨gap, tail, by simp, by simpa using hne, fun c hc ↦ ?_, hblanks,
        htail⟩, fun c hc ↦ ?_⟩
      · exact List.mem_rtakeWhile_imp (by simpa using hc)
      · exact eq_false_of_getLast?_rdropWhile isNameChar _ c hc

/-- A run of name characters that has none in front of it is what is read back as the name. -/
theorem rtakeWhile_and_rdropWhile_run {lead name : List Char}
    (hname : ∀ c ∈ name, isNameChar c = true) (hlead : ∀ c ∈ lead.getLast?, isNameChar c = false) :
    (lead ++ name).rtakeWhile isNameChar = name ∧ (lead ++ name).rdropWhile isNameChar = lead := by
  have hnames : ∀ c ∈ name.reverse, isNameChar c = true := by simpa using hname
  have hhead : ∀ c ∈ lead.reverse.head?, isNameChar c = false := by simpa using hlead
  rw [List.rtakeWhile, List.rdropWhile, List.reverse_append, takeWhile_run hnames hhead,
    dropWhile_run hnames hhead, List.reverse_reverse, List.reverse_reverse]
  exact ⟨rfl, rfl⟩

theorem EndsText.readBack?_eq (hends : header.EndsText start text) :
    readBack? text = some (start, header) := by
  obtain ⟨lead, body, rfl, rfl, ⟨gap, tail, rfl, hne, hname, hgap, htail⟩, hlead⟩ := hends
  have hcode : trimEnd (lead ++ (header.name.toList ++ gap ++ header.operator.symbol.toList ++
      tail)) = lead ++ header.name.toList ++ gap ++ header.operator.symbol.toList := by
    have hlast : ∀ c ∈ (lead ++ header.name.toList ++ gap ++
        header.operator.symbol.toList).getLast?, isBlank c = false := by
      intro c hc
      rw [List.getLast?_append_of_ne_nil _ (symbol_ne_nil _)] at hc
      exact (operator_sign (List.mem_of_mem_getLast? hc)).2
    rw [← List.append_assoc, trimEnd_append_blanks htail, ← List.append_assoc, ← List.append_assoc,
      trimEnd_of_getLast? hlast]
  have hfront : trimEnd (lead ++ header.name.toList ++ gap) = lead ++ header.name.toList := by
    rw [trimEnd_append_blanks hgap]
    refine trimEnd_of_getLast? fun c hc ↦ ?_
    rw [List.getLast?_append_of_ne_nil _ hne] at hc
    exact isBlank_eq_false_of_isNameChar (hname c (List.mem_of_mem_getLast? hc))
  obtain ⟨htake, hdrop⟩ := rtakeWhile_and_rdropWhile_run hname hlead
  simp only [readBack?, hcode,
    BlockOperator.atEnd?_append_symbol _ (notMem_signs_of_getLast? hne hname hgap)]
  rw [List.rdrop_append_length, hfront, htake, hdrop, if_neg (by simpa using hne),
    String.ofList_toList]

/-- Reading back finds the header that ends the text. -/
theorem readBack?_eq_some_iff :
    readBack? text = some (start, header) ↔ header.EndsText start text :=
  ⟨endsText_of_readBack?, EndsText.readBack?_eq⟩

end Reading

/-- The headers of a text that open a brace, read back from each brace in turn. -/
def openingsBack (text : List Char) : List (Occurrence Header) :=
  (List.range text.length).filterMap fun brace ↦
    if text[brace]? = some '{' then
      (readBack? (text.take brace)).map fun (start, header) ↦ ⟨start, brace + 1, header⟩
    else none

section Order

variable {line : List Char} {found : Occurrence Header}

/-- One header opens its brace before another one does. -/
def OpensBefore (first second : Occurrence Header) : Prop := first.stop < second.stop

instance : Std.Irrefl OpensBefore := ⟨fun found ↦ Nat.lt_irrefl found.stop⟩

instance : Std.Antisymm OpensBefore :=
  ⟨fun _ _ hfirst hsecond ↦ absurd hsecond (Nat.lt_asymm hfirst)⟩

theorem pairwise_openings (line : List Char) : (openings line).Pairwise OpensBefore := by
  refine (pairwise_occurrences opening line).imp_of_mem fun {first second} _ hmem hbefore ↦ ?_
  obtain ⟨lead, body, rest, -, -, hstart, hstop⟩ :=
    matches_opening_iff.mp (matches_of_mem_occurrences hmem)
  have hends := hbefore.2
  change first.stop < second.stop
  omega

theorem mem_openingsBack_iff :
    found ∈ openingsBack line ↔
      ∃ front back, line = front ++ '{' :: back ∧ found.stop = front.length + 1 ∧
        found.value.EndsText found.start front := by
  simp only [openingsBack, List.mem_filterMap, List.mem_range, Option.ite_none_right_eq_some,
    Option.map_eq_some_iff]
  constructor
  · rintro ⟨brace, hlength, hbrace, ⟨start, header⟩, hread, rfl⟩
    refine ⟨line.take brace, line.drop (brace + 1), ?_, ?_, readBack?_eq_some_iff.mp hread⟩
    · obtain ⟨hbound, hget⟩ := List.getElem?_eq_some_iff.mp hbrace
      rw [← hget, List.getElem_cons_drop, List.take_append_drop]
    · simp only [List.length_take]
      omega
  · rintro ⟨front, back, rfl, hstop, hends⟩
    refine ⟨front.length, by simp, by simp, (found.start, found.value), ?_, ?_⟩
    · rw [List.take_left, readBack?_eq_some_iff.mpr hends]
    · cases found
      simp_all

theorem pairwise_openingsBack (line : List Char) : (openingsBack line).Pairwise OpensBefore := by
  refine List.Pairwise.filterMap _ ?_ List.pairwise_lt_range
  intro brace later hlater first hfirst second hsecond
  simp only [Option.ite_none_right_eq_some, Option.map_eq_some_iff] at hfirst hsecond
  obtain ⟨-, place, -, rfl⟩ := hfirst
  obtain ⟨-, place', -, rfl⟩ := hsecond
  exact Nat.succ_lt_succ hlater

/-- The search from left to right finds what is read back from the braces. -/
theorem openings_eq_openingsBack (line : List Char) : openings line = openingsBack line :=
  (pairwise_openings line).eq_of_mem_iff (pairwise_openingsBack line) fun _ ↦
    mem_openings_iff.trans mem_openingsBack_iff.symm

/-- Cutting a line keeps the headers whose brace stands before the cut. -/
theorem openings_take (line : List Char) (count : Nat) :
    openings (line.take count) = (openings line).filter fun found ↦ found.stop - 1 < count := by
  refine (pairwise_openings _).eq_of_mem_iff ((pairwise_openings line).filter _) fun found ↦ ?_
  rw [List.mem_filter, mem_openings_iff, mem_openings_iff, decide_eq_true_eq]
  constructor
  · rintro ⟨front, back, htake, hstop, hends⟩
    have hlength : (line.take count).length = front.length + (back.length + 1) := by
      rw [htake, List.length_append, List.length_cons]
    rw [List.length_take] at hlength
    refine ⟨⟨front, back ++ line.drop count, ?_, hstop, hends⟩, by omega⟩
    rw [← List.cons_append, ← List.append_assoc, ← htake, List.take_append_drop]
  · rintro ⟨⟨front, back, rfl, hstop, hends⟩, hcount⟩
    obtain ⟨more, rfl⟩ : ∃ more, count = front.length + (more + 1) :=
      ⟨count - front.length - 1, by omega⟩
    refine ⟨front, back.take more, ?_, hstop, hends⟩
    rw [List.take_length_add_append, List.take_succ_cons]

end Order

/-- The headers that the search from left to right finds in a line are, in order, those that are
read back from its braces: in front of the brace and perhaps blanks an operator, the longer one if
two end there, and in front of it and perhaps blanks again all the name characters that stand there,
at least one. A header begins with its name and ends with its brace. What is found in a line that
has been cut is what is found in the whole line up to the cut. -/
theorem openings_read_back_from_braces (line : List Char) :
    openings line = openingsBack line ∧
      ∀ cutoff : Nat, openings (stripComment line (some cutoff)) =
        (openings (stripComment line none)).filter fun found ↦ found.stop - 1 < cutoff := by
  refine ⟨openings_eq_openingsBack line, fun cutoff ↦ ?_⟩
  have hstrip : stripComment line (some cutoff) = (uncommented line).take cutoff := by
    rw [stripComment, if_pos (Int.natCast_nonneg cutoff), Int.toNat_natCast,
      uncommentedBefore_eq_take]
  rw [hstrip, openings_take]
  rfl

-- Two operators or a blank inside the name leave no header, or a shorter one.
example : openings "a >= = \x7b b c = \x7b d == \x7b e?=\x7b".toList =
    [⟨11, 16, ⟨"c", .equals⟩⟩, ⟨24, 28, ⟨"e", .soft⟩⟩] := by
  decide +kernel

end Header

end BlockScope
