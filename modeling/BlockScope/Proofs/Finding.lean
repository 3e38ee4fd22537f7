import BlockScope.Proofs.ChainRule
import BlockScope.Proofs.LineCode
import BlockScope.Proofs.Unmatched

/-!
Findings. A rule finds something on a line, at some characters of its code; where that is in the
text is only settled when the lines above it are counted. Separating the two, a rule is a list of
findings, read off the lines, and its diagnostics are the findings with the spans that they take in
the text. Such a span always exists, so no rule ever fails on a document, and neither does a check
with rules that are accepted.
-/

set_option autoImplicit false
set_option relaxedAutoImplicit false

namespace BlockScope

/-- Assumes: a part at the front of a text, and characters inside it. -/
theorem take_drop_of_prefix {part whole : List Char} {start length : Nat}
    (hpart : part <+: whole) (hinside : start + length ≤ part.length) :
    (whole.drop start).take length = (part.drop start).take length := by
  obtain ⟨more, rfl⟩ := hpart
  have hstart : start ≤ part.length := by omega
  have hlength : length ≤ (part.drop start).length := by
    rw [List.length_drop]
    omega
  rw [List.drop_append_of_le_length hstart, List.take_append_of_le_length hlength]

/-- What a rule has found: a kind of diagnostic, where it begins, and how many characters of the
line it is about. -/
structure Finding where
  kind : DiagnosticKind
  position : Position
  length : Nat

namespace Finding

/-- The characters of a document that the finding is about. -/
def span (document : Document) (finding : Finding) : Span :=
  ⟨lineStart document.lines finding.position.line + finding.position.character,
    lineStart document.lines finding.position.line + finding.position.character + finding.length,
    Nat.le_add_right _ _⟩

def diagnostic (document : Document) (finding : Finding) : Diagnostic :=
  finding.kind.spanning (finding.span document)

/-- The finding is about characters of the code of a line. -/
def StandsIn (document : Document) (finding : Finding) : Prop :=
  ∃ line, document.lines[finding.position.line]? = some line ∧
    finding.position.character + finding.length ≤ (lineCode line).length

variable {document : Document} {finding : Finding}

theorem StandsIn.spanOn (hstands : finding.StandsIn document) :
    document.lineMap.spanOn finding.position.line finding.position.character
      (finding.position.character + finding.length) = .ok (finding.span document) := by
  obtain ⟨line, hline, hinside⟩ := hstands
  obtain ⟨⟨start, stop, horder⟩, hspan, hstart, hstop, -⟩ := Document.exists_spanOn hline
    (Nat.le_add_right finding.position.character finding.length)
    (Nat.le_trans hinside (lineCode_prefix_line line).length_le)
  rw [Int.natCast_add] at hspan
  change start = _ at hstart
  change stop = _ at hstop
  subst hstart hstop
  rw [hspan]
  simp only [span, Nat.add_assoc]

theorem StandsIn.positionAt (hstands : finding.StandsIn document) :
    document.lineMap.positionAt (finding.span document).start = finding.position := by
  obtain ⟨line, hline, hinside⟩ := hstands
  have hlength := (lineCode_prefix_line line).length_le
  exact Document.positionAt_lineMap hline (by omega)

/-- Assumes: places inside two findings. They come in the text in the order of their lines and
columns, whatever else the lines hold. -/
theorem StandsIn.offset_lt_iff {other : Finding} (hstands : finding.StandsIn document)
    (hother : other.StandsIn document) {inside inside' : Nat} (hinside : inside ≤ finding.length)
    (hinside' : inside' ≤ other.length) :
    lineStart document.lines finding.position.line + finding.position.character + inside <
        lineStart document.lines other.position.line + other.position.character + inside' ↔
      finding.position.line < other.position.line ∨
        finding.position.line = other.position.line ∧
          finding.position.character + inside < other.position.character + inside' := by
  obtain ⟨line, hline, hend⟩ := hstands
  obtain ⟨line', hline', hend'⟩ := hother
  have hlength := (lineCode_prefix_line line).length_le
  have hlength' := (lineCode_prefix_line line').length_le
  rw [Nat.add_assoc, Nat.add_assoc]
  exact lineStart_add_lt_iff hline hline' (by omega) (by omega)

theorem StandsIn.start_lt_iff {other : Finding} (hstands : finding.StandsIn document)
    (hother : other.StandsIn document) :
    (finding.span document).start < (other.span document).start ↔
      finding.position.precedes other.position = true := by
  rw [Position.precedes_iff]
  exact hstands.offset_lt_iff hother (Nat.zero_le _) (Nat.zero_le _)

/-- The slice of a finding is the part of the code that it is about. -/
theorem StandsIn.slice (hstands : finding.StandsIn document) {line : List Char}
    (hline : document.lines[finding.position.line]? = some line) :
    document.slice (finding.span document) =
      ((lineCode line).drop finding.position.character).take finding.length := by
  obtain ⟨line', hline', hinside⟩ := id hstands
  obtain rfl : line = line' := Option.some.inj (hline.symm.trans hline')
  obtain ⟨span, hspan, -, -, hslice⟩ := Document.exists_spanOn hline
    (Nat.le_add_right finding.position.character finding.length)
    (Nat.le_trans hinside (lineCode_prefix_line line).length_le)
  rw [Int.natCast_add, hstands.spanOn] at hspan
  rw [Except.ok.inj hspan, hslice, Nat.add_sub_cancel_left]
  exact take_drop_of_prefix (lineCode_prefix_line line) hinside

end Finding

/-! ### The findings of the rules -/

/-- The kind of diagnostic for a brace without a partner. -/
def braceKind (brace : Char) : DiagnosticKind :=
  if brace = '}' then .extraClosingBrace else .unclosedBlock

def braceFinding (entry : Position × Char) : Finding := ⟨braceKind entry.2, entry.1, 1⟩

/-- The braces of lines without a partner: the closing ones and then the opening ones. -/
def braceFindings (lines : List (List Char)) : List Finding :=
  (UnmatchedBraces.ofLines lines).entries.map braceFinding

/-- A key that does not resolve, under the code of a rule. -/
def chainFinding (code : String) (unresolved : ChainKey × ChainOutcome) : Finding where
  kind := { DiagnosticKind.invalidChain with
    code
    message := chainMessage unresolved.1.key unresolved.2 }
  position := unresolved.1.position
  length := unresolved.1.key.length

def Rule.findings (services : Services) (document : Document) (rule : Rule) : List Finding :=
  match rule.kind with
  | .braces => braceFindings document.lines
  | .chains =>
    (unresolvedChains services (nestedChainKeys document)).map (chainFinding rule.code)

theorem hasAt_of_mem_entries {document : Document} {entry : Position × Char}
    (hentry : entry ∈ (UnmatchedBraces.ofLines document.lines).entries) :
    document.HasAt entry.1 entry.2 := by
  rw [ofLines_eq_unmatchedIn] at hentry
  exact mem_placedText_source_iff.mp ((entries_unmatchedIn_sublist _).mem hentry)

theorem UnmatchedBraces.brace_of_mem_entries {braces : UnmatchedBraces} {entry : Position × Char}
    (hentry : entry ∈ braces.entries) : entry.2 = '}' ∨ entry.2 = '{' := by
  rcases List.mem_append.mp hentry with hclosing | hopening
  · obtain ⟨position, -, rfl⟩ := List.mem_map.mp hclosing
    exact .inl rfl
  · obtain ⟨position, -, rfl⟩ := List.mem_map.mp hopening
    exact .inr rfl

theorem standsIn_braceFinding {document : Document} {entry : Position × Char}
    (hentry : entry ∈ (UnmatchedBraces.ofLines document.lines).entries) :
    (braceFinding entry).StandsIn document := by
  obtain ⟨line, hline, hbrace⟩ := hasAt_of_mem_entries hentry
  have hblank : isBlank entry.2 = false := by
    rcases UnmatchedBraces.brace_of_mem_entries hentry with hclosing | hopening
    · rw [hclosing]
      decide
    · rw [hopening]
      decide
  exact ⟨line, hline, lt_length_trimEnd hbrace hblank⟩

/-- A key ends with a key character, which is not blank. -/
theorem KeyStandsAt.length_le {line key : List Char} {column : Nat}
    (hkey : KeyStandsAt (uncommented line) column key) :
    column + key.length ≤ (lineCode line).length := by
  obtain ⟨lead, gap, rest, htext, rfl, hne, hchars, -⟩ := hkey
  obtain ⟨shorter, last, rfl⟩ : ∃ shorter last, key = shorter ++ [last] :=
    ⟨_, _, (List.dropLast_concat_getLast hne).symm⟩
  have hlast : (uncommented line)[lead.length + shorter.length]? = some last := by
    rw [htext]
    simp
  have hblank : isBlank last = false := by
    cases hcase : isBlank last with
    | false => rfl
    | true =>
      have hkeyChar := hchars last (by simp)
      rw [isKeyChar_eq_false_of_isBlank hcase] at hkeyChar
      contradiction
  have hinside := lt_length_trimEnd hlast hblank
  rw [List.length_append, List.length_singleton]
  exact hinside

theorem standsIn_chainFinding {services : Services} {document : Document}
    {unresolved : ChainKey × ChainOutcome}
    (hunresolved : unresolved ∈ unresolvedChains services (nestedChainKeys document))
    (code : String) : (chainFinding code unresolved).StandsIn document := by
  obtain ⟨line, -, hline, hstands, -⟩ := mem_unresolvedChains_iff.mp hunresolved
  have hinside := hstands.length_le
  rw [String.length_toList] at hinside
  exact ⟨line, hline, hinside⟩

theorem Rule.standsIn_of_mem_findings {services : Services} {document : Document} {rule : Rule}
    {finding : Finding} (hfinding : finding ∈ rule.findings services document) :
    finding.StandsIn document := by
  unfold Rule.findings at hfinding
  split at hfinding
  · obtain ⟨entry, hentry, rfl⟩ := List.mem_map.mp hfinding
    exact standsIn_braceFinding hentry
  · obtain ⟨unresolved, hunresolved, rfl⟩ := List.mem_map.mp hfinding
    exact standsIn_chainFinding hunresolved rule.code

/-! ### Runs and checks -/

/-- Assumes: a step that succeeds on every element. -/
theorem mapM_eq_ok_map {ε α β : Type} {step : α → Except ε β} {result : α → β} (elements : List α)
    (hstep : ∀ element ∈ elements, step element = .ok (result element)) :
    elements.mapM step = .ok (elements.map result) := by
  obtain ⟨results, hresults, hall⟩ := @exists_mapM_eq_ok _ _ _ step (result · = ·) elements
    fun element helement ↦ ⟨_, hstep element helement, rfl⟩
  rw [← List.forall₂_map_left_iff, List.forall₂_eq_eq_eq] at hall
  rw [hresults, hall]

theorem mapM_overBrace_eq {document : Document} {brace : Char} (positions : List Position)
    (hentries : ∀ position ∈ positions,
      (position, brace) ∈ (UnmatchedBraces.ofLines document.lines).entries) :
    positions.mapM ((braceKind brace).overBrace document.lineMap) =
      .ok (positions.map fun position ↦ (braceFinding (position, brace)).diagnostic document) := by
  refine mapM_eq_ok_map positions fun position hposition ↦ ?_
  have hspan := (standsIn_braceFinding (hentries position hposition)).spanOn
  simp only [braceFinding, Int.natCast_one] at hspan
  rw [DiagnosticKind.overBrace, hspan]
  rfl

theorem braceDiagnostics_eq (document : Document) :
    braceDiagnostics document =
      .ok ((braceFindings document.lines).map (Finding.diagnostic document)) := by
  have hextra := mapM_overBrace_eq (UnmatchedBraces.ofLines document.lines).closings.reverse
    fun position hposition ↦
      UnmatchedBraces.mem_entries_closing.mpr (List.mem_reverse.mp hposition)
  have hunclosed := mapM_overBrace_eq (UnmatchedBraces.ofLines document.lines).openings.reverse
    fun position hposition ↦
      UnmatchedBraces.mem_entries_opening.mpr (List.mem_reverse.mp hposition)
  change _ = Except.ok (List.map _ (List.map _ (_ ++ _)))
  rw [List.map_append, List.map_append, List.map_map, List.map_map, List.map_map, List.map_map]
  change (do
    let extra ← List.mapM ((braceKind '}').overBrace document.lineMap) _
    let unclosed ← List.mapM ((braceKind '{').overBrace document.lineMap) _
    return extra ++ unclosed) = _
  rw [hextra, hunclosed]
  rfl

theorem mapM_chainDiagnostic_eq (code : String) (services : Services) (document : Document) :
    (unresolvedChains services (nestedChainKeys document)).mapM
        (chainDiagnostic code document.lineMap) =
      .ok (((unresolvedChains services (nestedChainKeys document)).map (chainFinding code)).map
        (Finding.diagnostic document)) := by
  rw [List.map_map]
  refine mapM_eq_ok_map _ fun unresolved hunresolved ↦ ?_
  have hspan := (standsIn_chainFinding hunresolved code).spanOn
  simp only [chainFinding] at hspan
  simp only [chainDiagnostic, hspan]
  rfl

/-- A rule runs on every document, and its diagnostics are its findings in the text. -/
theorem Rule.exists_run_eq (services : Services) (document : Document) (rule : Rule) :
    ∃ run, rule.run services document = .ok run ∧
      run.diagnostics = (rule.findings services document).map (Finding.diagnostic document) := by
  cases hkind : rule.kind with
  | braces =>
    simp only [Rule.run, Rule.findings, hkind, braceDiagnostics_eq]
    exact ⟨_, rfl, rfl⟩
  | chains =>
    refine ⟨_, run_of_chainDiagnostics hkind (mapM_chainDiagnostic_eq _ _ _), ?_⟩
    simp only [Rule.findings, hkind]

/-- What several rules find in a document. -/
def findingsOf (services : Services) (document : Document) (rules : List Rule) : List Finding :=
  rules.flatMap (Rule.findings services document)

theorem standsIn_of_mem_findingsOf {services : Services} {document : Document} {rules : List Rule}
    {finding : Finding} (hfinding : finding ∈ findingsOf services document rules) :
    finding.StandsIn document := by
  obtain ⟨rule, -, hrule⟩ := List.mem_flatMap.mp hfinding
  exact rule.standsIn_of_mem_findings hrule

theorem exists_mapM_run_eq (services : Services) (document : Document) (rules : List Rule) :
    ∃ runs, rules.mapM (Rule.run services document) = .ok runs ∧
      runs.flatMap (·.diagnostics) =
        (findingsOf services document rules).map (Finding.diagnostic document) := by
  obtain ⟨runs, hruns, hall⟩ := exists_mapM_eq_ok rules
    fun rule _ ↦ Rule.exists_run_eq services document rule
  refine ⟨runs, hruns, ?_⟩
  clear hruns
  induction hall with
  | nil => rfl
  | cons hrule _ ih =>
    rw [List.flatMap_cons, hrule, ih, findingsOf, findingsOf, List.flatMap_cons, List.map_append]

/-- Assumes: services that are given at most once, and rules that are accepted. The check returns a
report, of what the rules find. -/
theorem exists_checkDocument_eq {services : Option Services} {path : Option String}
    {chosen : Services} {rules : List Rule} (document : Document)
    (hservices : chooseServices services path = .ok chosen)
    (hrules : Rule.validate rules = .ok ()) :
    ∃ report, checkDocument document services path rules = .ok report ∧
      report.diagnostics = Diagnostic.sort
        ((findingsOf chosen document rules).map (Finding.diagnostic document)) := by
  obtain ⟨runs, hruns, hdiagnostics⟩ := exists_mapM_run_eq chosen document rules
  rw [checkDocument, hservices, hrules]
  change ∃ report, (rules.mapM (Rule.run chosen document) >>= _) = _ ∧ _
  rw [hruns]
  exact ⟨_, rfl, congrArg Diagnostic.sort hdiagnostics⟩

/-- A check returns a report unless the services are given twice or a rule is refused. -/
theorem exists_checkDocument_iff (document : Document) (services : Option Services)
    (path : Option String) (rules : List Rule) :
    (∃ report, checkDocument document services path rules = .ok report) ↔
      (∃ chosen, chooseServices services path = .ok chosen) ∧ Rule.validate rules = .ok () := by
  constructor
  · rintro ⟨report, hreport⟩
    rw [checkDocument] at hreport
    cases hservices : chooseServices services path with
    | error error =>
      rw [hservices] at hreport
      contradiction
    | ok chosen =>
      cases hrules : Rule.validate rules with
      | error error =>
        rw [hservices, hrules] at hreport
        contradiction
      | ok => exact ⟨⟨chosen, rfl⟩, rfl⟩
  · rintro ⟨⟨chosen, hservices⟩, hrules⟩
    obtain ⟨report, hreport, -⟩ := exists_checkDocument_eq document hservices hrules
    exact ⟨report, hreport⟩

/-- Assumes: a check that returns a report. The report lists what the rules find. -/
theorem diagnostics_of_checkDocument {document : Document} {services : Option Services}
    {path : Option String} {chosen : Services} {rules : List Rule} {report : CheckReport}
    (hservices : chooseServices services path = .ok chosen)
    (hreport : checkDocument document services path rules = .ok report) :
    report.diagnostics = Diagnostic.sort
      ((findingsOf chosen document rules).map (Finding.diagnostic document)) := by
  have hrules := ((exists_checkDocument_iff document services path rules).mp ⟨report, hreport⟩).2
  obtain ⟨report', hreport', hdiagnostics⟩ := exists_checkDocument_eq document hservices hrules
  obtain rfl := Except.ok.inj (hreport.symm.trans hreport')
  exact hdiagnostics

end BlockScope
