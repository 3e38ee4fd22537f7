import BlockScope.Proofs.Finding

/-!
What the rule on braces reports, told by the scan. The rule pairs braces and lists those that are
left over, while a scan counts how deep a position is. They agree: a closing brace is left over
where the scan has depth zero, and an opening brace is left over where the scan never comes back to
the depth before it. As many braces of each kind are reported as the scan counts at the end of the
document. A closing brace is left over only when nothing is open, so all of them stand before the
opening braces that are left over, and the report is in document order as it is.
-/

set_option autoImplicit false
set_option relaxedAutoImplicit false

namespace BlockScope

/-! ### The end of a document -/

/-- A position of a document, before or behind a character of one of its lines. -/
def Document.HasPosition (document : Document) (position : Position) : Prop :=
  ∃ line, document.lines[position.line]? = some line ∧ position.character ≤ line.length

/-- The position behind the last character. -/
def Document.endPosition (document : Document) : Position :=
  document.lineMap.positionAt document.chars.length

theorem Document.HasAt.hasPosition_next {document : Document} {position : Position} {c : Char}
    (hat : document.HasAt position c) : document.HasPosition position.next := by
  obtain ⟨line, hline, hc⟩ := hat
  have hlength : (uncommented line).length ≤ line.length := (List.takeWhile_prefix _).length_le
  exact ⟨line, hline, Nat.lt_of_lt_of_le (List.getElem?_eq_some_iff.mp hc).1 hlength⟩

/-- All lines are before the end. -/
theorem linesBefore_endPosition (document : Document) :
    linesBefore document.lines document.endPosition = document.lines := by
  have hbeyond := linesBefore_upTo document ⟨document.lines.length, 0⟩
  have hoffset : document.lineMap.offsetAt ⟨document.lines.length, 0⟩ = document.chars.length :=
    Document.offsetAt_lineMap_of_le (Nat.le_refl _)
  have hwhole : document.upTo document.chars.length = document := by
    rw [Document.upTo, List.take_length]
  rwa [hoffset, hwhole, linesBefore_length] at hbeyond

theorem bracesBefore_endPosition (document : Document) :
    bracesBefore document.source document.endPosition =
      UnmatchedBraces.ofLines document.lines := by
  rw [ofLines_eq_unmatchedIn, bracesBefore, unmatchedIn, Document.source, textBefore_ofLines,
    linesBefore_endPosition, placedText_ofLines]

/-! ### The braces that are reported -/

section Braces

variable {document : Document} {position : Position}

theorem mem_closings_iff :
    position ∈ (UnmatchedBraces.ofLines document.lines).closings ↔
      document.HasAt position '}' ∧ (nestingBefore document.source position).depth = 0 := by
  rw [ofLines_eq_unmatchedIn, ← Document.source, mem_closings_unmatchedIn_iff,
    mem_placedText_source_iff, depth_nestingBefore, List.length_eq_zero_iff]

theorem mem_openings_iff_forall_depth_lt :
    position ∈ (UnmatchedBraces.ofLines document.lines).openings ↔
      document.HasAt position '{' ∧
        ∀ later, document.HasPosition later → position.precedes later = true →
          (nestingBefore document.source position).depth <
            (nestingBefore document.source later).depth := by
  constructor
  · intro hopening
    refine ⟨hasAt_of_mem_entries (UnmatchedBraces.mem_entries_opening.mpr hopening),
      fun later _ hlater ↦ ?_⟩
    rw [ofLines_eq_unmatchedIn] at hopening
    exact depth_lt_of_mem_openings hopening hlater
  · rintro ⟨hbrace, hdeeper⟩
    rw [ofLines_eq_unmatchedIn, ← Document.source]
    refine mem_openings_of_depth_lt (mem_placedText_source_iff.mpr hbrace) ?_
    rintro ⟨place, c⟩ hplaced hlater
    exact hdeeper _ (mem_placedText_source_iff.mp hplaced).hasPosition_next hlater

end Braces

/-! ### Their diagnostics -/

/-- A diagnostic with the code of a kind begins at a position. -/
def ReportedAt (document : Document) (diagnostics : List Diagnostic) (kind : DiagnosticKind)
    (position : Position) : Prop :=
  ∃ diagnostic ∈ diagnostics, diagnostic.code = kind.code ∧
    document.lineMap.positionAt diagnostic.span.start = position

theorem reportedAt_braceFindings_iff {document : Document} {kind : DiagnosticKind}
    {position : Position} :
    ReportedAt document ((braceFindings document.lines).map (Finding.diagnostic document)) kind
        position ↔
      ∃ brace, (position, brace) ∈ (UnmatchedBraces.ofLines document.lines).entries ∧
        (braceKind brace).code = kind.code := by
  simp only [ReportedAt, braceFindings, List.map_map, List.mem_map]
  constructor
  · rintro ⟨diagnostic, ⟨⟨place, brace⟩, hentry, rfl⟩, hcode, rfl⟩
    refine ⟨brace, ?_, hcode⟩
    rwa [Function.comp_apply, Finding.diagnostic, DiagnosticKind.spanning,
      (standsIn_braceFinding hentry).positionAt]
  · rintro ⟨brace, hentry, hcode⟩
    exact ⟨_, ⟨_, hentry, rfl⟩, hcode, (standsIn_braceFinding hentry).positionAt⟩

theorem pairwise_entries (document : Document) :
    (UnmatchedBraces.ofLines document.lines).entries.Pairwise ComesBefore := by
  rw [ofLines_eq_unmatchedIn]
  exact (pairwise_placedText _).sublist (entries_unmatchedIn_sublist _)

theorem pairwise_start_braceFindings (document : Document) :
    ((braceFindings document.lines).map (Finding.diagnostic document)).Pairwise
      fun first second ↦ first.span.start < second.span.start := by
  rw [braceFindings, List.map_map, List.pairwise_map]
  refine (pairwise_entries document).imp_of_mem fun hfirst hsecond hbefore ↦ ?_
  exact ((standsIn_braceFinding hfirst).start_lt_iff (standsIn_braceFinding hsecond)).mpr hbefore

theorem code_braceKind_eq_extra_iff {brace : Char} :
    (braceKind brace).code = DiagnosticKind.extraClosingBrace.code ↔ brace = '}' := by
  unfold braceKind
  split
  · simp_all
  · simp_all [DiagnosticKind.extraClosingBrace, DiagnosticKind.unclosedBlock]

theorem code_braceKind_eq_unclosed_iff {brace : Char} :
    (braceKind brace).code = DiagnosticKind.unclosedBlock.code ↔ brace ≠ '}' := by
  unfold braceKind
  split
  · simp_all [DiagnosticKind.extraClosingBrace, DiagnosticKind.unclosedBlock]
  · simp_all

/-- What a report on braces has to say, given the nesting that a scan finds at each position. -/
structure AgreesWithScan (document : Document) (scan : Position → Nesting)
    (diagnostics : List Diagnostic) : Prop where
  kinds : ∀ diagnostic ∈ diagnostics, diagnostic.span.stop = diagnostic.span.start + 1 ∧
    (diagnostic = DiagnosticKind.extraClosingBrace.spanning diagnostic.span ∨
      diagnostic = DiagnosticKind.unclosedBlock.spanning diagnostic.span)
  extra : ∀ position, ReportedAt document diagnostics .extraClosingBrace position ↔
    document.HasAt position '}' ∧ (scan position).depth = 0
  unclosed : ∀ position, ReportedAt document diagnostics .unclosedBlock position ↔
    document.HasAt position '{' ∧ ∀ later, document.HasPosition later →
      position.precedes later = true → (scan position).depth < (scan later).depth
  extraCount : diagnostics.countP (·.code = DiagnosticKind.extraClosingBrace.code) =
    (scan document.endPosition).strayCount
  unclosedCount : diagnostics.countP (·.code = DiagnosticKind.unclosedBlock.code) =
    (scan document.endPosition).depth
  ordered : diagnostics.Pairwise fun first second ↦ first.span.start < second.span.start
  extraFirst : ∀ first ∈ diagnostics, ∀ second ∈ diagnostics,
    first.code = DiagnosticKind.extraClosingBrace.code →
      second.code = DiagnosticKind.unclosedBlock.code → first.span.start < second.span.start

/-- The leftover closing braces stand before the leftover opening braces. -/
theorem start_lt_of_extra_of_unclosed {document : Document} {first second : Diagnostic}
    (hfirst : first ∈ (braceFindings document.lines).map (Finding.diagnostic document))
    (hsecond : second ∈ (braceFindings document.lines).map (Finding.diagnostic document))
    (hextra : first.code = DiagnosticKind.extraClosingBrace.code)
    (hunclosed : second.code = DiagnosticKind.unclosedBlock.code) :
    first.span.start < second.span.start := by
  rw [braceFindings, List.map_map] at hfirst hsecond
  obtain ⟨⟨place, brace⟩, hentry, rfl⟩ := List.mem_map.mp hfirst
  obtain ⟨⟨place', brace'⟩, hentry', rfl⟩ := List.mem_map.mp hsecond
  obtain rfl : brace = '}' := code_braceKind_eq_extra_iff.mp hextra
  obtain rfl : brace' = '{' := (UnmatchedBraces.brace_of_mem_entries hentry').resolve_left
    (code_braceKind_eq_unclosed_iff.mp hunclosed)
  refine ((standsIn_braceFinding hentry).start_lt_iff (standsIn_braceFinding hentry')).mpr ?_
  have hacross := (List.pairwise_append.mp (pairwise_entries document)).2.2
  refine hacross (place, '}') ?_ (place', '{') ?_
  · exact List.mem_map_of_mem
      (List.mem_reverse.mpr (UnmatchedBraces.mem_entries_closing.mp hentry))
  · exact List.mem_map_of_mem
      (List.mem_reverse.mpr (UnmatchedBraces.mem_entries_opening.mp hentry'))

theorem countP_code_braceFindings (document : Document) (kind : DiagnosticKind) :
    ((braceFindings document.lines).map (Finding.diagnostic document)).countP
        (·.code = kind.code) =
      (UnmatchedBraces.ofLines document.lines).entries.countP
        fun entry ↦ (braceKind entry.2).code = kind.code := by
  rw [braceFindings, List.map_map, List.countP_map]
  rfl

theorem agreesWithScan_braceFindings (document : Document) :
    AgreesWithScan document (nestingBefore document.source)
      ((braceFindings document.lines).map (Finding.diagnostic document)) where
  kinds := by
    intro diagnostic hdiagnostic
    rw [braceFindings, List.map_map] at hdiagnostic
    obtain ⟨entry, hentry, rfl⟩ := List.mem_map.mp hdiagnostic
    refine ⟨rfl, ?_⟩
    by_cases hclosing : entry.2 = '}'
    · left
      simp only [Function.comp_apply, Finding.diagnostic, braceFinding, braceKind, if_pos hclosing]
      rfl
    · right
      simp only [Function.comp_apply, Finding.diagnostic, braceFinding, braceKind, if_neg hclosing]
      rfl
  extra := by
    intro position
    rw [reportedAt_braceFindings_iff, ← mem_closings_iff]
    simp only [code_braceKind_eq_extra_iff, exists_eq_right, UnmatchedBraces.mem_entries_closing]
  unclosed := by
    intro position
    rw [reportedAt_braceFindings_iff, ← mem_openings_iff_forall_depth_lt,
      ← UnmatchedBraces.mem_entries_opening]
    simp only [code_braceKind_eq_unclosed_iff]
    constructor
    · rintro ⟨brace, hentry, hne⟩
      obtain rfl := (UnmatchedBraces.brace_of_mem_entries hentry).resolve_left hne
      exact hentry
    · intro hentry
      exact ⟨'{', hentry, by decide⟩
  extraCount := by
    rw [Nesting.strayCount, (tracks_nestingBefore _ _).strays, bracesBefore_endPosition,
      countP_code_braceFindings]
    simp [code_braceKind_eq_extra_iff, UnmatchedBraces.entries, Function.comp_def]
  unclosedCount := by
    rw [depth_nestingBefore, bracesBefore_endPosition, countP_code_braceFindings]
    simp [code_braceKind_eq_unclosed_iff, UnmatchedBraces.entries, Function.comp_def]
  ordered := pairwise_start_braceFindings document
  extraFirst := fun _ hfirst _ hsecond ↦ start_lt_of_extra_of_unclosed hfirst hsecond

/-- Assumes: a rule on braces. It runs on every document, a scan succeeds at every position, and
the report of the rule says what the scans say. -/
theorem braces_run_agrees_with_scan (services : Services) (document : Document) (rule : Rule)
    (hkind : rule.kind = .braces) :
    ∃ run scan, rule.run services document = .ok run ∧
      (∀ position : Position,
        scanAt document.source position.line position.character = .ok (scan position)) ∧
      AgreesWithScan document scan run.diagnostics := by
  obtain ⟨run, hrun, hdiagnostics⟩ := rule.exists_run_eq services document
  refine ⟨run, nestingBefore document.source, hrun, scanAt_coordinates document.source, ?_⟩
  rw [hdiagnostics, Rule.findings, hkind]
  exact agreesWithScan_braceFindings document

/-- A closing brace with nothing to close, a block that is closed, and one that is not. The last
closing brace is in a comment. -/
def leftoverBraces : Document :=
  .ofString "\x7d a = \x7b\n\x7d b = \x7b c # \x7d"

/-- The rule reports one brace of each kind, the closing one at the beginning. -/
theorem braces_run_agrees_with_scan_leftoverBraces :
    Rule.braces.kind = .braces ∧
      ∃ run, Rule.braces.run {} leftoverBraces = .ok run ∧
        ReportedAt leftoverBraces run.diagnostics .extraClosingBrace ⟨0, 0⟩ ∧
        run.diagnostics.countP (·.code = DiagnosticKind.extraClosingBrace.code) = 1 ∧
        run.diagnostics.countP (·.code = DiagnosticKind.unclosedBlock.code) = 1 := by
  obtain ⟨run, scan, hrun, hscan, hagrees⟩ :=
    braces_run_agrees_with_scan {} leftoverBraces .braces rfl
  have hfirst := hscan ⟨0, 0⟩
  have hlast := hscan leftoverBraces.endPosition
  have hbegin : scanAt leftoverBraces.source 0 0 = .ok .empty := by decide +kernel
  have hend : scanAt leftoverBraces.source leftoverBraces.endPosition.line
      leftoverBraces.endPosition.character = .ok ⟨1, [], [], [⟨0, 0⟩]⟩ := by
    decide +kernel
  have hdepth : scan ⟨0, 0⟩ = .empty := Except.ok.inj (hfirst.symm.trans hbegin)
  have hcounts : scan leftoverBraces.endPosition = ⟨1, [], [], [⟨0, 0⟩]⟩ :=
    Except.ok.inj (hlast.symm.trans hend)
  refine ⟨rfl, run, hrun, (hagrees.extra _).mpr ⟨⟨_, rfl, by decide +kernel⟩, ?_⟩, ?_, ?_⟩
  · rw [hdepth]
    rfl
  · rw [hagrees.extraCount, hcounts]
    rfl
  · rw [hagrees.unclosedCount, hcounts]

end BlockScope
