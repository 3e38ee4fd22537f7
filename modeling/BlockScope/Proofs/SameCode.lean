import BlockScope.Proofs.Finding

/-!
Documents with the same code. Two documents may differ in their comments and in the blanks at the
ends of their lines, and so in every offset, and still nothing tells them apart: a position is in
the same blocks of both, and a check of one finds the same as a check of the other, at the same
positions and over the same text. The rules find the same because they read only code. The order of
the diagnostics is by offset; the offsets of findings are ordered like their positions, in both
documents, so the diagnostics are also listed in the same order.
-/

set_option autoImplicit false
set_option relaxedAutoImplicit false

namespace BlockScope

/-- Two documents have as many lines, with the same code on them. -/
def SameCode (first second : Document) : Prop :=
  first.lines.map lineCode = second.lines.map lineCode

instance (first second : Document) : Decidable (SameCode first second) :=
  inferInstanceAs (Decidable (first.lines.map lineCode = second.lines.map lineCode))

namespace SameCode

variable {first second : Document}

/-! ### The same blocks -/

theorem map_lineCode_linesBefore (hsame : SameCode first second) (position : Position) :
    (linesBefore first.lines position).map lineCode =
      (linesBefore second.lines position).map lineCode := by
  rw [← linesBefore_map_lineCode, hsame, linesBefore_map_lineCode]

theorem walkLines_linesBefore (hsame : SameCode first second) (position : Position) :
    Nesting.empty.walkLines 0 (linesBefore first.lines position) =
      Nesting.empty.walkLines 0 (linesBefore second.lines position) := by
  rw [← walkLines_map_lineCode, hsame.map_lineCode_linesBefore, walkLines_map_lineCode]

theorem sameContext (hsame : SameCode first second) (position : Position) :
    SameContext first position second position := by
  refine .of_linesBefore (hsame.walkLines_linesBefore position) ?_
  rw [← searchLines_map_lineCode, List.map_reverse, hsame.map_lineCode_linesBefore,
    ← List.map_reverse, searchLines_map_lineCode]

/-! ### The same findings -/

theorem findings_eq (hsame : SameCode first second) (services : Services) (rule : Rule) :
    rule.findings services first = rule.findings services second := by
  have hbraces : UnmatchedBraces.ofLines first.lines = UnmatchedBraces.ofLines second.lines := by
    rw [UnmatchedBraces.ofLines, ← meetLines_map_lineCode, hsame, meetLines_map_lineCode]
    rfl
  have hkeys : chainKeys first = chainKeys second := by
    rw [chainKeys, ← chainKeysFrom_map_lineCode, hsame, chainKeysFrom_map_lineCode]
    rfl
  have hnested : nestedChainKeys first = nestedChainKeys second := by
    rw [nestedChainKeys, hkeys]
    refine List.map_congr_left fun key _ ↦ ?_
    rw [Document.source, Document.source, nestingBefore_ofLines, nestingBefore_ofLines,
      hsame.walkLines_linesBefore]
  simp only [Rule.findings, braceFindings, hbraces, hnested]

theorem findingsOf_eq (hsame : SameCode first second) (services : Services) (rules : List Rule) :
    findingsOf services first rules = findingsOf services second rules := by
  rw [findingsOf, findingsOf]
  exact List.flatMap_congr fun rule _ ↦ hsame.findings_eq services rule

theorem slice_eq (hsame : SameCode first second) {finding : Finding}
    (hfirst : finding.StandsIn first) (hsecond : finding.StandsIn second) :
    first.slice (finding.span first) = second.slice (finding.span second) := by
  obtain ⟨line, hline, -⟩ := id hfirst
  obtain ⟨line', hline', -⟩ := id hsecond
  have hcode : lineCode line = lineCode line' := by
    have hat := congrArg (·[finding.position.line]?) hsame
    simpa [hline, hline'] using hat
  rw [hfirst.slice hline, hsecond.slice hline', hcode]

end SameCode

/-! ### The same order -/

section Order

variable {first second : Document} {finding other : Finding}

theorem compare_eq_of_lt_iff {left right left' right' : Nat} (hlt : left < right ↔ left' < right')
    (hgt : right < left ↔ right' < left') : compare left right = compare left' right' := by
  simp only [Nat.compare_eq_ite_lt, hlt, hgt]

/-- Assumes: two findings that stand in two documents. Their diagnostics are ordered in the same
way. -/
theorem order_diagnostic_eq (hfirst : finding.StandsIn first) (hfirst' : other.StandsIn first)
    (hsecond : finding.StandsIn second) (hsecond' : other.StandsIn second) :
    Diagnostic.order (finding.diagnostic first) (other.diagnostic first) =
      Diagnostic.order (finding.diagnostic second) (other.diagnostic second) := by
  have hplaces : ∀ inside ≤ finding.length, ∀ inside' ≤ other.length,
      compare (lineStart first.lines finding.position.line + finding.position.character + inside)
          (lineStart first.lines other.position.line + other.position.character + inside') =
        compare (lineStart second.lines finding.position.line + finding.position.character + inside)
          (lineStart second.lines other.position.line + other.position.character + inside') := by
    intro inside hinside inside' hinside'
    refine compare_eq_of_lt_iff ?_ ?_
    · rw [hfirst.offset_lt_iff hfirst' hinside hinside',
        hsecond.offset_lt_iff hsecond' hinside hinside']
    · rw [hfirst'.offset_lt_iff hfirst hinside' hinside,
        hsecond'.offset_lt_iff hsecond hinside' hinside]
  have hstarts := hplaces 0 (Nat.zero_le _) 0 (Nat.zero_le _)
  have hstops := hplaces finding.length (Nat.le_refl _) other.length (Nat.le_refl _)
  simp only [Nat.add_zero] at hstarts
  simp only [Diagnostic.order, compareLex, compareOn, Finding.diagnostic, DiagnosticKind.spanning,
    Finding.span, hstarts, hstops]

/-- Assumes: findings that stand in two documents. Their diagnostics are listed in the order of one
list of findings. -/
theorem exists_sort_diagnostic_eq {findings : List Finding}
    (hfirst : ∀ finding ∈ findings, finding.StandsIn first)
    (hsecond : ∀ finding ∈ findings, finding.StandsIn second) :
    ∃ sorted : List Finding, (∀ finding ∈ sorted, finding ∈ findings) ∧
      Diagnostic.sort (findings.map (Finding.diagnostic first)) =
        sorted.map (Finding.diagnostic first) ∧
      Diagnostic.sort (findings.map (Finding.diagnostic second)) =
        sorted.map (Finding.diagnostic second) := by
  refine ⟨findings.mergeSort fun finding other ↦
    (Diagnostic.order (finding.diagnostic first) (other.diagnostic first)).isLE,
    fun finding hfinding ↦ List.mem_mergeSort.mp hfinding, ?_, ?_⟩
  · symm
    refine List.map_mergeSort ?_
    intro finding _ other _
    rfl
  · symm
    refine List.map_mergeSort ?_
    intro finding hfinding other hother
    rw [order_diagnostic_eq (hfirst finding hfinding) (hfirst other hother)
      (hsecond finding hfinding) (hsecond other hother)]

end Order

/-! ### The same reports -/

/-- A diagnostic in one document reads like one in another: they say the same, at the same position
and about the same text. -/
structure ReadsAlike (first second : Document) (diagnostic other : Diagnostic) : Prop where
  code : diagnostic.code = other.code
  message : diagnostic.message = other.message
  severity : diagnostic.severity = other.severity
  hint : diagnostic.hint = other.hint
  category : diagnostic.category = other.category
  position : first.lineMap.positionAt diagnostic.span.start =
    second.lineMap.positionAt other.span.start
  covers : first.slice diagnostic.span = second.slice other.span

/-- Two checks have failed for the same reason, or their reports read alike, diagnostic by
diagnostic. -/
def SameReports (first second : Document) :
    Except CheckError CheckReport → Except CheckError CheckReport → Prop
  | .error error, .error error' => error = error'
  | .ok report, .ok report' =>
    List.Forall₂ (ReadsAlike first second) report.diagnostics report'.diagnostics
  | _, _ => False

/-- Nothing tells two documents apart: every position has the same context in both, and every check
reports the same on both. A check does report, unless its services are given twice or a rule is
refused. -/
structure Indistinguishable (first second : Document) : Prop where
  context : ∀ position, SameContext first position second position
  reports : ∀ services path rules, SameReports first second
    (checkDocument first services path rules) (checkDocument second services path rules)
  returns : ∀ services path rules,
    (∃ report, checkDocument first services path rules = .ok report) ↔
      (∃ chosen, chooseServices services path = .ok chosen) ∧ Rule.validate rules = .ok ()

theorem SameCode.readsAlike {first second : Document} (hsame : SameCode first second)
    {finding : Finding} (hfirst : finding.StandsIn first) (hsecond : finding.StandsIn second) :
    ReadsAlike first second (finding.diagnostic first) (finding.diagnostic second) where
  code := rfl
  message := rfl
  severity := rfl
  hint := rfl
  category := rfl
  position := hfirst.positionAt.trans hsecond.positionAt.symm
  covers := hsame.slice_eq hfirst hsecond

theorem SameCode.forall₂_readsAlike {first second : Document} (hsame : SameCode first second)
    (services : Services) (rules : List Rule) :
    List.Forall₂ (ReadsAlike first second)
      (Diagnostic.sort ((findingsOf services first rules).map (Finding.diagnostic first)))
      (Diagnostic.sort ((findingsOf services second rules).map (Finding.diagnostic second))) := by
  have hfirst : ∀ finding ∈ findingsOf services second rules, finding.StandsIn first := by
    intro finding hfinding
    rw [← hsame.findingsOf_eq] at hfinding
    exact standsIn_of_mem_findingsOf hfinding
  have hsecond : ∀ finding ∈ findingsOf services second rules, finding.StandsIn second :=
    fun finding hfinding ↦ standsIn_of_mem_findingsOf hfinding
  obtain ⟨sorted, hsorted, horder, horder'⟩ := exists_sort_diagnostic_eq hfirst hsecond
  rw [hsame.findingsOf_eq, horder, horder', List.forall₂_map_left_iff, List.forall₂_map_right_iff,
    List.forall₂_same]
  intro finding hfinding
  exact hsame.readsAlike (hfirst finding (hsorted finding hfinding))
    (hsecond finding (hsorted finding hfinding))

theorem SameCode.sameReports {first second : Document} (hsame : SameCode first second)
    (services : Option Services) (path : Option String) (rules : List Rule) :
    SameReports first second (checkDocument first services path rules)
      (checkDocument second services path rules) := by
  cases hservices : chooseServices services path with
  | error error =>
    simp only [checkDocument, hservices]
    rfl
  | ok chosen =>
    cases hrules : Rule.validate rules with
    | error error =>
      simp only [checkDocument, hservices, hrules]
      rfl
    | ok =>
      obtain ⟨report, hreport, hdiagnostics⟩ := exists_checkDocument_eq first hservices hrules
      obtain ⟨report', hreport', hdiagnostics'⟩ := exists_checkDocument_eq second hservices hrules
      rw [hreport, hreport']
      change List.Forall₂ _ report.diagnostics report'.diagnostics
      rw [hdiagnostics, hdiagnostics']
      exact hsame.forall₂_readsAlike chosen rules

/-! ### Documents that differ only in what does not count -/

/-- A character, with a carriage return before it if it is a line feed. -/
def withReturn (c : Char) : List Char := if c = '\n' then ['\r', '\n'] else [c]

/-- The document with a carriage return before each line feed. -/
def Document.withCarriageReturns (document : Document) : Document :=
  ⟨document.chars.flatMap withReturn⟩

/-- The document without its comments. -/
def Document.withoutComments (document : Document) : Document :=
  ⟨joinPieces '\n' (document.lines.map uncommented)⟩

theorem flatMap_withReturn_of_notMem {line : List Char} (hline : '\n' ∉ line) :
    line.flatMap withReturn = line := by
  induction line with
  | nil => rfl
  | cons c rest ih =>
    rw [List.mem_cons, not_or] at hline
    rw [List.flatMap_cons, withReturn, if_neg (Ne.symm hline.1), ih hline.2, List.singleton_append]

theorem map_lineCode_flatMap_withReturn {lines : List (List Char)} (hne : lines ≠ [])
    (hlines : ∀ line ∈ lines, '\n' ∉ line) :
    (pieces '\n' ((joinPieces '\n' lines).flatMap withReturn)).map lineCode =
      lines.map lineCode := by
  induction lines with
  | nil => contradiction
  | cons line later ih =>
    obtain ⟨hline, hlater⟩ := List.forall_mem_cons.mp hlines
    cases later with
    | nil =>
      rw [joinPieces, flatMap_withReturn_of_notMem hline, pieces_of_notMem hline]
    | cons next rest =>
      have hreturn : '\n' ∉ line ++ ['\r'] := by simp [hline]
      have hcode : lineCode (line ++ ['\r']) = lineCode line :=
        lineCode_append_blanks (List.forall_mem_singleton.mpr (by decide)) line
      rw [joinPieces_cons _ (by simp), List.flatMap_append, List.flatMap_cons, withReturn,
        if_pos rfl, flatMap_withReturn_of_notMem hline, List.cons_append, List.singleton_append,
        List.append_cons, pieces_append_separator hreturn, List.map_cons, ih (by simp) hlater,
        hcode]
      rfl

theorem sameCode_withCarriageReturns (document : Document) :
    SameCode document document.withCarriageReturns := by
  have hlines := map_lineCode_flatMap_withReturn (pieces_ne_nil '\n' document.chars)
    (notMem_of_mem_pieces document.chars)
  rw [joinPieces_pieces] at hlines
  exact hlines.symm

theorem sameCode_withoutComments (document : Document) :
    SameCode document document.withoutComments := by
  have hlines : document.withoutComments.lines = document.lines.map uncommented := by
    refine pieces_joinPieces ?_ ?_
    · exact List.map_eq_nil_iff.not.mpr (pieces_ne_nil '\n' document.chars)
    · intro part hpart
      obtain ⟨line, hline, rfl⟩ := List.mem_map.mp hpart
      intro hfeed
      exact notMem_of_mem_pieces document.chars line hline
        ((List.takeWhile_prefix _).subset hfeed)
  rw [SameCode, hlines, List.map_map]
  exact List.map_congr_left fun line _ ↦ (lineCode_uncommented line).symm

/-- Comments and the blanks at the ends of lines do not count: a document cannot be told from any
other with the same code. In particular it cannot be told from itself with carriage returns before
the line feeds, nor from itself without comments. -/
theorem sameCode_indistinguishable (document : Document) :
    (∀ other, SameCode document other → Indistinguishable document other) ∧
      SameCode document document.withCarriageReturns ∧
      SameCode document document.withoutComments := by
  refine ⟨fun other hsame ↦ ?_, sameCode_withCarriageReturns document,
    sameCode_withoutComments document⟩
  exact ⟨hsame.sameContext, hsame.sameReports, exists_checkDocument_iff document⟩

/-- A block with a comment and blanks, with a key in it that does not resolve, and a closing brace
too many. -/
def annotated : Document := .ofString "a = \x7b # x \x7d\n b.c = 1 \x7d \t\n\x7d#"

/-- The same code, with carriage returns and with another comment. -/
def reformatted : Document := .ofString "a = \x7b\r\n b.c = 1 \x7d\r\n\x7d # y"

/-- Both have one diagnostic for the key and one for the brace. -/
theorem sameCode_indistinguishable_reformatted :
    SameCode annotated reformatted ∧ Indistinguishable annotated reformatted ∧
      ∃ report, checkDocument annotated none none Rule.defaults = .ok report ∧
        report.diagnostics.length = 2 := by
  have hsame : SameCode annotated reformatted := by decide +kernel
  have hservices : chooseServices none none = .ok {} := rfl
  have hcount : (findingsOf {} annotated Rule.defaults).length = 2 := by
    rw [Rule.defaults_eq]
    decide +kernel
  obtain ⟨report, hreport, hdiagnostics⟩ :=
    exists_checkDocument_eq annotated hservices Rule.validate_defaults
  refine ⟨hsame, (sameCode_indistinguishable annotated).1 reformatted hsame, report, hreport, ?_⟩
  rw [hdiagnostics, Diagnostic.sort, List.length_mergeSort, List.length_map, hcount]

end BlockScope
