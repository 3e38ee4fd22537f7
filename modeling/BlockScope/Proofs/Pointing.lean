import BlockScope.Proofs.BraceRule
import BlockScope.Proofs.RuleOrder

/-!
Where diagnostics point. The rules find braces and keys at columns of lines, and the spans of their
diagnostics are offsets in the text. Both speak of the same characters: the span of a diagnostic is
not empty, it lies in the text, on one line and before any comment, it covers the brace or the key
that is reported, and the line map leads from its beginning back to where the rule has found it.
Braces are no characters of keys, and no key begins inside another, so that the diagnostics of the
usual rules never overlap and are listed one behind the other.
-/

set_option autoImplicit false
set_option relaxedAutoImplicit false

namespace BlockScope

/-! ### The text of a finding -/

/-- A diagnostic points at a text that stands at a position: its span covers the text, which is on
the line of the position and before any comment there. -/
structure PointsAt (document : Document) (diagnostic : Diagnostic) (position : Position)
    (text : List Char) : Prop where
  nonempty : diagnostic.span.start < diagnostic.span.stop
  inside : diagnostic.span.stop ≤ document.chars.length
  covers : document.slice diagnostic.span = text
  oneLine : '\n' ∉ text
  outsideComment : '#' ∉ text
  begins : document.lineMap.positionAt diagnostic.span.start = position
  onLine : ∃ line, document.lines[position.line]? = some line ∧
    (line.drop position.character).take text.length = text ∧ '#' ∉ line.take position.character

theorem notMem_take_of_le_length_lineCode {line : List Char} {count : Nat}
    (hcount : count ≤ (lineCode line).length) : '#' ∉ line.take count := by
  obtain ⟨more, hmore⟩ := lineCode_prefix_line line
  have hcode : line.take count = (lineCode line).take count :=
    calc line.take count = (lineCode line ++ more).take count := by rw [hmore]
      _ = (lineCode line).take count := List.take_append_of_le_length hcount
  intro hsign
  rw [hcode, ← uncommented_lineCode] at hsign
  have hkept := List.mem_takeWhile_imp (List.mem_of_mem_take hsign)
  exact absurd hkept (by decide)

namespace Finding

variable {document : Document} {finding : Finding} {line : List Char}

theorem StandsIn.slice_line (hstands : finding.StandsIn document)
    (hline : document.lines[finding.position.line]? = some line) :
    document.slice (finding.span document) =
      (line.drop finding.position.character).take finding.length := by
  obtain ⟨line', hline', hinside⟩ := id hstands
  obtain rfl : line = line' := Option.some.inj (hline.symm.trans hline')
  rw [hstands.slice hline, take_drop_of_prefix (lineCode_prefix_line line) hinside]

theorem StandsIn.stop_le_length (hstands : finding.StandsIn document) :
    (finding.span document).stop ≤ document.chars.length := by
  obtain ⟨line, hline, hinside⟩ := hstands
  have hlength := (lineCode_prefix_line line).length_le
  have hend := lineStart_add_length_lt hline (List.getElem?_eq_some_iff.mp hline).1 (Nat.le_refl _)
  rw [← Document.length_chars_succ] at hend
  change lineStart document.lines finding.position.line + finding.position.character +
    finding.length ≤ _
  omega

/-- Assumes: a finding that stands in a document and is about some characters. Its diagnostic
points at them. -/
theorem StandsIn.pointsAt (hstands : finding.StandsIn document) (hlength : 0 < finding.length) :
    PointsAt document (finding.diagnostic document) finding.position
      (document.slice (finding.span document)) := by
  obtain ⟨line, hline, hinside⟩ := id hstands
  have hslice := hstands.slice_line hline
  have hcount : (document.slice (finding.span document)).length = finding.length := by
    have hfits := (lineCode_prefix_line line).length_le
    rw [hslice, List.length_take, List.length_drop]
    omega
  refine ⟨Nat.lt_add_of_pos_right hlength, hstands.stop_le_length, rfl, ?_, ?_,
    hstands.positionAt, line, hline, ?_, ?_⟩
  · intro hfeed
    rw [hslice] at hfeed
    exact notMem_of_mem_pieces document.chars line (List.mem_of_getElem? hline)
      (List.mem_of_mem_drop (List.mem_of_mem_take hfeed))
  · intro hsign
    rw [hslice, List.take_drop] at hsign
    exact notMem_take_of_le_length_lineCode hinside (List.mem_of_mem_drop hsign)
  · rw [hcount, hslice]
  · exact notMem_take_of_le_length_lineCode (Nat.le_trans (Nat.le_add_right _ _) hinside)

end Finding

/-! ### What the rules report -/

/-- What a diagnostic of some rules reports, where, and with which text: a closing brace without a
partner, an opening brace without one, or a dotted key, which the message quotes. The rule on braces
has met the brace there, and the rule on chains has read the key there. -/
inductive Reports (document : Document) (rules : List Rule) :
    Diagnostic → Position → List Char → Prop
  | extraClosingBrace (rule : Rule) (span : Span) (position : Position) (hrule : rule ∈ rules)
    (hkind : rule.kind = .braces)
    (hfound : position ∈ (UnmatchedBraces.ofLines document.lines).closings) :
    Reports document rules (DiagnosticKind.extraClosingBrace.spanning span) position ['}']
  | unclosedBlock (rule : Rule) (span : Span) (position : Position) (hrule : rule ∈ rules)
    (hkind : rule.kind = .braces)
    (hfound : position ∈ (UnmatchedBraces.ofLines document.lines).openings) :
    Reports document rules (DiagnosticKind.unclosedBlock.spanning span) position ['{']
  | invalidChain (rule : Rule) (span : Span) (key : ChainKey) (segment : String)
    (hrule : rule ∈ rules) (hkind : rule.kind = .chains) (hfound : key ∈ chainKeys document)
    (hdotted : '.' ∈ key.key.toList) :
    Reports document rules
      { DiagnosticKind.invalidChain.spanning span with
        code := rule.code
        message := "Scope path contains a segment that does not change scope. `" ++ key.key ++
          "` stops at `" ++ segment ++ "`." }
      key.position key.key.toList

section Reports

variable {services : Services} {document : Document}

theorem slice_braceFinding {entry : Position × Char}
    (hentry : entry ∈ (UnmatchedBraces.ofLines document.lines).entries) :
    document.slice ((braceFinding entry).span document) = [entry.2] := by
  obtain ⟨line, hline, hbrace⟩ := hasAt_of_mem_entries hentry
  obtain ⟨more, hmore⟩ : uncommented line <+: line := List.takeWhile_prefix _
  rw [(standsIn_braceFinding hentry).slice_line hline]
  change (line.drop entry.1.character).take 1 = _
  rw [List.take_one, List.head?_drop, ← hmore,
    List.getElem?_append_left (List.getElem?_eq_some_iff.mp hbrace).1, hbrace]
  rfl

theorem slice_chainFinding {unresolved : ChainKey × ChainOutcome}
    (hunresolved : unresolved ∈ unresolvedChains services (nestedChainKeys document))
    (code : String) :
    document.slice ((chainFinding code unresolved).span document) = unresolved.1.key.toList := by
  obtain ⟨line, -, hline, hstands, -⟩ := mem_unresolvedChains_iff.mp hunresolved
  rw [(standsIn_chainFinding hunresolved code).slice_line hline]
  change (line.drop unresolved.1.position.character).take unresolved.1.key.length = _
  rw [← String.length_toList, hstands.slice.2]

theorem reports_braceFinding {rules : List Rule} {rule : Rule} {entry : Position × Char}
    (hentry : entry ∈ (UnmatchedBraces.ofLines document.lines).entries) (hrule : rule ∈ rules)
    (hkind : rule.kind = .braces) :
    Reports document rules ((braceFinding entry).diagnostic document) entry.1 [entry.2] := by
  obtain ⟨position, brace⟩ := entry
  rcases UnmatchedBraces.brace_of_mem_entries hentry with hclosing | hopening
  · subst hclosing
    exact .extraClosingBrace rule _ position hrule hkind
      (UnmatchedBraces.mem_entries_closing.mp hentry)
  · subst hopening
    exact .unclosedBlock rule _ position hrule hkind
      (UnmatchedBraces.mem_entries_opening.mp hentry)

theorem reports_chainFinding {rules : List Rule} {rule : Rule}
    {unresolved : ChainKey × ChainOutcome}
    (hunresolved : unresolved ∈ unresolvedChains services (nestedChainKeys document))
    (hrule : rule ∈ rules) (hkind : rule.kind = .chains) :
    Reports document rules ((chainFinding rule.code unresolved).diagnostic document)
      unresolved.1.position unresolved.1.key.toList := by
  obtain ⟨line, -, hline, hstands, hshape, -⟩ := mem_unresolvedChains_iff.mp hunresolved
  rw [Finding.diagnostic, chainFinding, chainMessage_eq]
  exact .invalidChain rule _ unresolved.1 _ hrule hkind
    (mem_chainKeys_iff.mpr ⟨line, hline, hstands, hshape⟩) hshape.1

/-- What the rules find they report where it stands. -/
theorem exists_reports_of_mem_findingsOf {rules : List Rule} {finding : Finding}
    (hfinding : finding ∈ findingsOf services document rules) :
    ∃ position text, Reports document rules (finding.diagnostic document) position text ∧
      PointsAt document (finding.diagnostic document) position text := by
  have hstands := standsIn_of_mem_findingsOf hfinding
  obtain ⟨rule, hrule, hfound⟩ := List.mem_flatMap.mp hfinding
  cases hkind : rule.kind with
  | braces =>
    simp only [Rule.findings, hkind] at hfound
    obtain ⟨entry, hentry, rfl⟩ := List.mem_map.mp hfound
    have hpoints := hstands.pointsAt Nat.one_pos
    rw [slice_braceFinding hentry] at hpoints
    exact ⟨_, _, reports_braceFinding hentry hrule hkind, hpoints⟩
  | chains =>
    simp only [Rule.findings, hkind] at hfound
    obtain ⟨unresolved, hunresolved, rfl⟩ := List.mem_map.mp hfound
    obtain ⟨line, -, -, ⟨lead, gap, rest, -, -, hne, -⟩, -⟩ :=
      mem_unresolvedChains_iff.mp hunresolved
    have hlength : 0 < unresolved.1.key.length := by
      rw [← String.length_toList]
      exact List.length_pos_iff.mpr hne
    have hpoints := hstands.pointsAt hlength
    rw [slice_chainFinding hunresolved] at hpoints
    exact ⟨_, _, reports_chainFinding hunresolved hrule hkind, hpoints⟩

end Reports

/-! ### Findings that do not overlap -/

/-- No character belongs to both spans. -/
def Span.Disjoint (first second : Span) : Prop :=
  ∀ offset, ¬ ((first.start ≤ offset ∧ offset < first.stop) ∧
    second.start ≤ offset ∧ offset < second.stop)

theorem Span.Disjoint.symm {first second : Span} (hdisjoint : first.Disjoint second) :
    second.Disjoint first :=
  fun offset hboth ↦ hdisjoint offset hboth.symm

/-- Two findings are on different lines, or one of them ends before the other. -/
def Finding.Apart (first second : Finding) : Prop :=
  first.position.line = second.position.line →
    first.position.character + first.length ≤ second.position.character ∨
      second.position.character + second.length ≤ first.position.character

theorem Finding.Apart.disjoint {document : Document} {first second : Finding}
    (hapart : first.Apart second) (hfirst : first.StandsIn document)
    (hsecond : second.StandsIn document) :
    (first.span document).Disjoint (second.span document) := by
  rintro offset ⟨⟨hstart, hstop⟩, hstart', hstop'⟩
  have hbefore := (hfirst.offset_lt_iff hsecond (Nat.zero_le _) (Nat.le_refl _)).mp
    (Nat.lt_of_le_of_lt hstart hstop')
  have hbehind := (hsecond.offset_lt_iff hfirst (Nat.zero_le _) (Nat.le_refl _)).mp
    (Nat.lt_of_le_of_lt hstart' hstop)
  have hline : first.position.line = second.position.line := by omega
  have hends := hapart hline
  omega

section Keys

variable {text key : List Char} {column : Nat} {c : Char}

theorem KeyStandsAt.isKeyChar_of_getElem? (hkey : KeyStandsAt text column key) {index : Nat}
    (hfrom : column ≤ index) (hto : index < column + key.length) (hc : text[index]? = some c) :
    isKeyChar c = true := by
  obtain ⟨lead, gap, rest, rfl, rfl, -, hchars, -⟩ := hkey
  rw [List.append_assoc, List.append_assoc, List.getElem?_append_right hfrom,
    List.getElem?_append_left (by omega)] at hc
  exact hchars c (List.mem_of_getElem? hc)

theorem KeyStandsAt.isKeyChar_before (hkey : KeyStandsAt text column key) (hcolumn : 0 < column)
    (hc : text[column - 1]? = some c) : isKeyChar c = false := by
  obtain ⟨lead, gap, rest, rfl, rfl, -, -, hlead, -⟩ := hkey
  rw [List.append_assoc, List.append_assoc, List.getElem?_append_left (by omega),
    ← List.getLast?_eq_getElem?] at hc
  exact hlead c hc

/-- Assumes: two keys on a line, the second beginning behind the first. It begins behind the end of
the first, because there is no key character in front of it. -/
theorem KeyStandsAt.end_le (hkey : KeyStandsAt text column key) {key' : List Char} {column' : Nat}
    (hkey' : KeyStandsAt text column' key') (hbefore : column < column') :
    column + key.length ≤ column' := by
  by_contra hinside
  have hlength : column + key.length ≤ text.length := by
    obtain ⟨lead, gap, rest, rfl, rfl, -⟩ := hkey
    simp only [List.length_append]
    omega
  have hc := List.getElem?_eq_getElem (by omega : column' - 1 < text.length)
  have hkeyChar := hkey.isKeyChar_of_getElem? (by omega) (by omega) hc
  rw [hkey'.isKeyChar_before (by omega) hc] at hkeyChar
  contradiction

end Keys

section Defaults

variable {services : Services} {document : Document}

theorem pairwise_apart_braceFindings (document : Document) :
    (braceFindings document.lines).Pairwise Finding.Apart := by
  refine List.pairwise_map.mpr ((pairwise_entries document).imp ?_)
  intro first second hbefore hline
  have hplaces := Position.precedes_iff.mp hbefore
  change first.1.line = second.1.line at hline
  change first.1.character + 1 ≤ second.1.character ∨ _
  omega

theorem pairwise_apart_chainFindings (services : Services) (document : Document) (code : String) :
    ((unresolvedChains services (nestedChainKeys document)).map (chainFinding code)).Pairwise
      Finding.Apart := by
  refine List.pairwise_map.mpr ((pairwise_unresolvedChains services document).imp_of_mem ?_)
  intro first second hfirst hsecond hbefore hsame
  obtain ⟨line, -, hline, hstands, -⟩ := mem_unresolvedChains_iff.mp hfirst
  obtain ⟨line', -, hline', hstands', -⟩ := mem_unresolvedChains_iff.mp hsecond
  change first.1.position.line = second.1.position.line at hsame
  obtain rfl : line = line' := by
    rw [hsame] at hline
    exact Option.some.inj (hline.symm.trans hline')
  have hplaces := Position.precedes_iff.mp hbefore
  have hend := hstands.end_le hstands' (by omega)
  rw [String.length_toList] at hend
  exact .inl hend

/-- No brace stands inside a key. -/
theorem apart_braceFinding_chainFinding {entry : Position × Char}
    {unresolved : ChainKey × ChainOutcome}
    (hentry : entry ∈ (UnmatchedBraces.ofLines document.lines).entries)
    (hunresolved : unresolved ∈ unresolvedChains services (nestedChainKeys document))
    (code : String) : (braceFinding entry).Apart (chainFinding code unresolved) := by
  intro hsame
  obtain ⟨line, hline, hbrace⟩ := hasAt_of_mem_entries hentry
  obtain ⟨line', -, hline', hstands, -⟩ := mem_unresolvedChains_iff.mp hunresolved
  change entry.1.line = unresolved.1.position.line at hsame
  obtain rfl : line = line' := by
    rw [hsame] at hline
    exact Option.some.inj (hline.symm.trans hline')
  change entry.1.character + 1 ≤ unresolved.1.position.character ∨
    unresolved.1.position.character + unresolved.1.key.length ≤ entry.1.character
  by_contra hoverlap
  have hkeyChar := hstands.isKeyChar_of_getElem? (by omega)
    (by rw [String.length_toList]; omega) hbrace
  rcases UnmatchedBraces.brace_of_mem_entries hentry with hclosing | hopening
  · rw [hclosing] at hkeyChar
    exact absurd hkeyChar (by decide)
  · rw [hopening] at hkeyChar
    exact absurd hkeyChar (by decide)

theorem pairwise_apart_findingsOf_defaults (services : Services) (document : Document) :
    (findingsOf services document Rule.defaults).Pairwise Finding.Apart := by
  have hfindings : findingsOf services document Rule.defaults = braceFindings document.lines ++
      (unresolvedChains services (nestedChainKeys document)).map
        (chainFinding Rule.chains.code) := by
    simp [findingsOf, Rule.defaults_eq, Rule.findings, Rule.braces, Rule.chains]
  rw [hfindings]
  refine List.pairwise_append.mpr ⟨pairwise_apart_braceFindings document,
    pairwise_apart_chainFindings services document _, ?_⟩
  intro first hfirst second hsecond
  obtain ⟨entry, hentry, rfl⟩ := List.mem_map.mp hfirst
  obtain ⟨unresolved, hunresolved, rfl⟩ := List.mem_map.mp hsecond
  exact apart_braceFinding_chainFinding hentry hunresolved _

/-- The usual rules never report the same character twice. -/
theorem pairwise_disjoint_defaults (services : Services) (document : Document) :
    (Diagnostic.sort ((findingsOf services document Rule.defaults).map
      (Finding.diagnostic document))).Pairwise
        fun first second ↦ first.span.Disjoint second.span := by
  rw [(Diagnostic.perm_sort _).pairwise_iff Span.Disjoint.symm, List.pairwise_map]
  refine (pairwise_apart_findingsOf_defaults services document).imp_of_mem ?_
  intro first second hfirst hsecond hapart
  exact hapart.disjoint (standsIn_of_mem_findingsOf hfirst) (standsIn_of_mem_findingsOf hsecond)

end Defaults

/-- Assumes: a check that is not refused. It returns a report, and each of its diagnostics points at
the brace or the key that it reports. By the usual rules no two of them overlap, and each begins
behind the one before it. -/
theorem checkDocument_diagnostics_point (document : Document) (services : Option Services)
    (path : Option String) (rules : List Rule) (hadmitted : ¬ Refused services path rules) :
    ∃ report, checkDocument document services path rules = .ok report ∧
      (∀ diagnostic ∈ report.diagnostics, ∃ position text,
        Reports document rules diagnostic position text ∧
          PointsAt document diagnostic position text) ∧
      (rules = Rule.defaults →
        (report.diagnostics.Pairwise fun first second ↦ first.span.Disjoint second.span) ∧
          report.diagnostics.Pairwise fun first second ↦ first.span.start < second.span.start) := by
  obtain ⟨⟨chosen, hservices⟩, hrules⟩ := not_refused_iff.mp hadmitted
  obtain ⟨report, hreport, hdiagnostics⟩ := exists_checkDocument_eq document hservices
    (Rule.validate_eq_ok_iff.mpr hrules)
  have hpoint : ∀ diagnostic ∈ report.diagnostics, ∃ position text,
      Reports document rules diagnostic position text ∧
        PointsAt document diagnostic position text := by
    intro diagnostic hdiagnostic
    rw [hdiagnostics, (Diagnostic.perm_sort _).mem_iff] at hdiagnostic
    obtain ⟨finding, hfinding, rfl⟩ := List.mem_map.mp hdiagnostic
    exact exists_reports_of_mem_findingsOf hfinding
  refine ⟨report, hreport, hpoint, ?_⟩
  rintro rfl
  have hdisjoint := pairwise_disjoint_defaults chosen document
  have horder := Diagnostic.pairwise_sort
    ((findingsOf chosen document Rule.defaults).map (Finding.diagnostic document))
  rw [← hdiagnostics] at hdisjoint horder
  refine ⟨hdisjoint, (hdisjoint.and horder).imp_of_mem ?_⟩
  -- Diagnostics that begin at the same place would share the character there.
  intro first second hfirst hsecond hboth
  obtain ⟨position, text, -, hpoints⟩ := hpoint first hfirst
  obtain ⟨position', text', -, hpoints'⟩ := hpoint second hsecond
  have hstart := Diagnostic.start_le_of_order hboth.2
  have hshared := hboth.1 second.span.start
  have hnonempty := hpoints.nonempty
  have hnonempty' := hpoints'.nonempty
  omega

/-- A closing brace before a carriage return, and a block with a key and a comment that is not
closed. Its name is a letter outside the basic plane. -/
def crowdedLines : Document :=
  .ofString "\x7d\r\n𝒶 = \x7b b.c = 1 # d.e = 2 \x7d"

/-- The two braces and the key outside the comment are reported, each where it stands. -/
theorem checkDocument_diagnostics_point_crowdedLines :
    ¬ Refused none none Rule.defaults ∧
      ∃ report, checkDocument crowdedLines none none Rule.defaults = .ok report ∧
        (report.diagnostics.map fun diagnostic ↦
          (diagnostic.span.start, String.ofList (crowdedLines.slice diagnostic.span))) =
            [(0, "\x7d"), (7, "\x7b"), (9, "b.c")] ∧
        report.diagnostics.Pairwise fun first second ↦ first.span.Disjoint second.span := by
  have hadmitted : ¬ Refused none none Rule.defaults :=
    not_refused_iff.mpr ⟨⟨{}, rfl⟩, Rule.validate_eq_ok_iff.mp Rule.validate_defaults⟩
  have hlisted : ((findingsOf {} crowdedLines Rule.defaults).map
      (Finding.diagnostic crowdedLines)).Pairwise
        fun first second ↦ (Diagnostic.order first second).isLE = true := by
    rw [Rule.defaults_eq]
    decide +kernel
  have htexts : (((findingsOf {} crowdedLines Rule.defaults).map
      (Finding.diagnostic crowdedLines)).map fun diagnostic ↦
        (diagnostic.span.start, String.ofList (crowdedLines.slice diagnostic.span))) =
          [(0, "\x7d"), (7, "\x7b"), (9, "b.c")] := by
    rw [Rule.defaults_eq]
    decide +kernel
  obtain ⟨report, hreport, -, hapart⟩ :=
    checkDocument_diagnostics_point crowdedLines none none Rule.defaults hadmitted
  refine ⟨hadmitted, report, hreport, ?_, (hapart rfl).1⟩
  rw [diagnostics_of_checkDocument rfl hreport, Diagnostic.sort,
    List.mergeSort_of_pairwise hlisted, htexts]

end BlockScope
