import BlockScope.Check.Run
import BlockScope.Context
import BlockScope.Proofs.LineMap
import BlockScope.Proofs.PointScan
import BlockScope.Proofs.StatementKey
import Mathlib.Data.List.Forall2

/-!
What the rule on dotted keys reports. The keys of a document come in document order and stand on its
lines, so the pass over them gives each key the nesting of its own position, and the type that a
chain is followed from is the one that is resolved there. A key takes part of a line, so its span
exists and covers it. The rule therefore never fails, and its diagnostics are one for each key that
stands in a block, has the shape of a chain and does not resolve.
-/

set_option autoImplicit false
set_option relaxedAutoImplicit false

namespace BlockScope

/-! ### The shape of a chain key -/

/-- A text is groups of digits with single dots between them. -/
def IsDottedDigits (text : List Char) : Prop :=
  ∃ groups, groups ≠ [] ∧ text = joinPieces '.' groups ∧
    ∀ group ∈ groups, group ≠ [] ∧ ∀ c ∈ group, isDecimalDigit c = true

theorem isDottedNumber_iff {text : List Char} :
    isDottedNumber text = true ↔ IsDottedDigits text := by
  have hgroups : ∀ groups : List (List Char),
      (groups.all fun group ↦ !group.isEmpty && group.all isDecimalDigit) = true ↔
        ∀ group ∈ groups, group ≠ [] ∧ ∀ c ∈ group, isDecimalDigit c = true := by
    intro groups
    simp
  rw [isDottedNumber, hgroups]
  constructor
  · intro hdigits
    exact ⟨pieces '.' text, pieces_ne_nil _ _, (joinPieces_pieces _ _).symm, hdigits⟩
  · rintro ⟨groups, hne, rfl, hdigits⟩
    rw [pieces_joinPieces hne]
    · exact hdigits
    · intro group hgroup hdot
      exact absurd ((hdigits group hgroup).2 '.' hdot) (by decide)

/-- A key has the shape of a chain: it has a dot, neither a parameter nor a variable, no colon
except in a saved reference at its front, and it is no date. -/
def HasChainShape (key : List Char) : Prop :=
  '.' ∈ key ∧ '$' ∉ key ∧ '@' ∉ key ∧ (':' ∈ key → "scope:".toList <+: key) ∧ ¬ IsDottedDigits key

theorem isChainKey_iff {key : String} : isChainKey key = true ↔ HasChainShape key.toList := by
  have hcolon : (!key.toList.contains ':' || referenceMark.isPrefixOf key.toList) = true ↔
      (':' ∈ key.toList → "scope:".toList <+: key.toList) := by
    rw [Bool.or_eq_true, Bool.not_eq_true', List.isPrefixOf_iff_prefix, ← Bool.not_eq_true,
      List.contains_iff_mem]
    exact (Decidable.imp_iff_not_or).symm
  have hdate : (!isDottedNumber key.toList) = true ↔ ¬ IsDottedDigits key.toList := by
    rw [Bool.not_eq_true', ← Bool.not_eq_true, isDottedNumber_iff]
  simp only [isChainKey, isChain, Bool.and_eq_true, hcolon, hdate, HasChainShape, and_assoc]
  simp

/-! ### The keys of a document -/

theorem mem_chainKeysOn_iff {number : Nat} {line : List Char} {key : ChainKey} :
    key ∈ chainKeysOn number line ↔ key.position.line = number ∧
      KeyStandsAt (uncommented line) key.position.character key.key.toList ∧
      HasChainShape key.key.toList := by
  rw [← mem_statementKeys_iff, ← isChainKey_iff, chainKeysOn, List.mem_map]
  constructor
  · rintro ⟨found, hfound, rfl⟩
    obtain ⟨hmem, hshape⟩ := List.mem_filter.mp hfound
    exact ⟨rfl, ⟨found, hmem, rfl, rfl⟩, hshape⟩
  · obtain ⟨⟨number', column⟩, text⟩ := key
    rintro ⟨rfl, ⟨found, hmem, rfl, rfl⟩, hshape⟩
    exact ⟨found, List.mem_filter.mpr ⟨hmem, hshape⟩, rfl⟩

theorem mem_chainKeysFrom_iff {key : ChainKey} (lines : List (List Char)) :
    ∀ number : Nat, key ∈ chainKeysFrom number lines ↔
      ∃ index line, lines[index]? = some line ∧ key ∈ chainKeysOn (number + index) line := by
  induction lines with
  | nil =>
    intro number
    simp [chainKeysFrom]
  | cons first rest ih =>
    intro number
    rw [chainKeysFrom, List.mem_append, ih]
    constructor
    · rintro (hfirst | ⟨index, line, hline, hkey⟩)
      · exact ⟨0, first, rfl, hfirst⟩
      · rw [Nat.add_assoc, Nat.add_comm 1] at hkey
        exact ⟨index + 1, line, hline, hkey⟩
    · rintro ⟨index, line, hline, hkey⟩
      cases index with
      | zero =>
        obtain rfl : first = line := by simpa using hline
        exact .inl hkey
      | succ index =>
        refine .inr ⟨index, line, hline, ?_⟩
        rwa [Nat.add_assoc, Nat.add_comm 1]

/-- The keys of a document are those that stand on its lines, before the comments, and have the
shape of a chain. -/
theorem mem_chainKeys_iff {document : Document} {key : ChainKey} :
    key ∈ chainKeys document ↔ ∃ line, document.lines[key.position.line]? = some line ∧
      KeyStandsAt (uncommented line) key.position.character key.key.toList ∧
      HasChainShape key.key.toList := by
  rw [chainKeys, mem_chainKeysFrom_iff]
  constructor
  · rintro ⟨index, line, hline, hkey⟩
    obtain ⟨hnumber, hkey⟩ := mem_chainKeysOn_iff.mp hkey
    rw [Nat.zero_add] at hnumber
    exact ⟨line, hnumber ▸ hline, hkey⟩
  · rintro ⟨line, hline, hkey⟩
    exact ⟨_, line, hline, mem_chainKeysOn_iff.mpr ⟨(Nat.zero_add _).symm, hkey⟩⟩

/-- The first of two keys comes before the second in the document. -/
def ChainKey.ComesBefore (first second : ChainKey) : Prop :=
  first.position.precedes second.position = true

theorem pairwise_chainKeysOn (number : Nat) (line : List Char) :
    (chainKeysOn number line).Pairwise ChainKey.ComesBefore := by
  rw [chainKeysOn, List.pairwise_map]
  refine ((pairwise_occurrences statementKey (uncommented line)).filter _).imp ?_
  intro first second horder
  simp [ChainKey.ComesBefore, Position.precedes, horder.1]

theorem pairwise_chainKeysFrom (lines : List (List Char)) :
    ∀ number : Nat, (chainKeysFrom number lines).Pairwise ChainKey.ComesBefore := by
  induction lines with
  | nil =>
    intro number
    exact .nil
  | cons line rest ih =>
    intro number
    refine List.pairwise_append.mpr ⟨pairwise_chainKeysOn number line, ih _, ?_⟩
    intro first hfirst second hsecond
    obtain ⟨index, line', -, hsecond⟩ := (mem_chainKeysFrom_iff rest _).mp hsecond
    have hupper := (mem_chainKeysOn_iff.mp hfirst).1
    have hlower := (mem_chainKeysOn_iff.mp hsecond).1
    have hlines : first.position.line < second.position.line := by omega
    simp [ChainKey.ComesBefore, Position.precedes, hlines]

theorem precedes_eq_false_of_precedes {first second : Position}
    (horder : first.precedes second = true) : second.precedes first = false := by
  simp only [Position.precedes, Bool.or_eq_true, Bool.and_eq_true, decide_eq_true_eq, beq_iff_eq,
    Bool.or_eq_false_iff, Bool.and_eq_false_iff, decide_eq_false_iff_not, beq_eq_false_iff_ne]
    at horder ⊢
  omega

/-- The chain keys of a document, each with the nesting that a scan from the top finds at its
position. -/
def nestedChainKeys (document : Document) : List (ChainKey × Nesting) :=
  (chainKeys document).map fun key ↦ (key, nestingBefore document.source key.position)

/-- The pass over the keys leaves none of them out, so each key gets the nesting of its own
position. -/
theorem placedChainKeys_eq (document : Document) :
    placedChainKeys document = .ok (nestedChainKeys document) := by
  have horder : InDocumentOrder ((chainKeys document).map (·.position)) := by
    refine List.pairwise_map.mpr ((pairwise_chainKeysFrom document.lines 0).imp ?_)
    intro first second hbefore
    exact precedes_eq_false_of_precedes hbefore
  have hline : ∀ point ∈ (chainKeys document).map (·.position),
      (point.line : Int) < document.source.count := by
    intro point hpoint
    obtain ⟨key, hkey, rfl⟩ := List.mem_map.mp hpoint
    obtain ⟨line, hline, -⟩ := mem_chainKeys_iff.mp hkey
    have hbelow := (List.getElem?_eq_some_iff.mp hline).1
    rw [Document.source, count_ofLines]
    exact Int.ofNat_lt.mpr hbelow
  obtain ⟨hresults, hfailure⟩ := scanPoints_eq horder hline
  have hpoints : ((chainKeys document).map fun key ↦
      ((key.position.line : Int), (key.position.character : Int))) =
        ((chainKeys document).map (·.position)).map Position.coordinates := by
    rw [List.map_map]
    rfl
  simp only [placedChainKeys, hpoints, hfailure, hresults]
  rw [List.map_map, List.map_map, nestedChainKeys, List.map_prod_left_eq_zip]
  rfl

/-! ### The keys that are reported -/

/-- The type from which a chain is followed where it stands. Where that is indeterminate, it is the
usual one. -/
def PositionContext.chainType (context : PositionContext) : ObjectType :=
  if context.objectType = .indeterminate then .character else context.objectType

/-- A key of a document does not resolve: it stands on a line, before the comment, it has the shape
of a chain, its position is inside a block, and following it from the type that is resolved there
ends without success. -/
def IsUnresolved (services : Services) (document : Document) (key : ChainKey)
    (outcome : ChainOutcome) : Prop :=
  ∃ line context, document.lines[key.position.line]? = some line ∧
    KeyStandsAt (uncommented line) key.position.character key.key.toList ∧
    HasChainShape key.key.toList ∧
    resolveAt services.vocabulary services.root document.source key.position.line
      key.position.character = .ok context ∧
    1 ≤ context.depth ∧
    followChain services.vocabulary services.changers key.key context.chainType = outcome ∧
    outcome.isValid = false

/-- A placed key is followed if it is inside a block, from the type that its nesting gives. -/
theorem filter_chainOutcome?_eq_some_iff {services : Services} {key : ChainKey} {nesting : Nesting}
    {outcome : ChainOutcome} :
    (chainOutcome? services (key, nesting)).filter ChainOutcome.isInvalid = some outcome ↔
      1 ≤ nesting.depth ∧
        followChain services.vocabulary services.changers key.key
          (PositionContext.ofNesting services.vocabulary services.root nesting).chainType =
            outcome ∧
        outcome.isValid = false := by
  rw [Option.filter_eq_some_iff, chainOutcome?, ChainOutcome.isInvalid, Bool.not_eq_true',
    ← and_assoc]
  refine and_congr_left fun _ ↦ ?_
  by_cases hdepth : nesting.depth = 0
  · simp [hdepth]
  · rw [if_neg hdepth, Option.some.injEq]
    exact (and_iff_right (Nat.pos_of_ne_zero hdepth)).symm

theorem mem_unresolvedChains_iff {services : Services} {document : Document} {key : ChainKey}
    {outcome : ChainOutcome} :
    (key, outcome) ∈ unresolvedChains services (nestedChainKeys document) ↔
      IsUnresolved services document key outcome := by
  have hcontext := resolveAt_coordinates services.vocabulary services.root document.source
    key.position
  constructor
  · intro hmem
    obtain ⟨entry, hentry, hreported⟩ := List.mem_filterMap.mp hmem
    obtain ⟨key', hkey, rfl⟩ := List.mem_map.mp hentry
    obtain ⟨outcome', hfails, hpair⟩ := Option.map_eq_some_iff.mp hreported
    obtain ⟨rfl, rfl⟩ := Prod.mk.inj hpair
    obtain ⟨line, hline, hstands, hshape⟩ := mem_chainKeys_iff.mp hkey
    exact ⟨line, _, hline, hstands, hshape, hcontext, filter_chainOutcome?_eq_some_iff.mp hfails⟩
  · rintro ⟨line, context, hline, hstands, hshape, hresolved, hfails⟩
    obtain rfl := Except.ok.inj (hcontext.symm.trans hresolved)
    refine List.mem_filterMap.mpr ⟨(key, nestingBefore document.source key.position),
      List.mem_map.mpr ⟨key, mem_chainKeys_iff.mpr ⟨line, hline, hstands, hshape⟩, rfl⟩, ?_⟩
    rw [filter_chainOutcome?_eq_some_iff.mpr hfails]
    rfl

theorem pairwise_unresolvedChains (services : Services) (document : Document) :
    (unresolvedChains services (nestedChainKeys document)).Pairwise fun first second ↦
      first.1.ComesBefore second.1 := by
  have horder : (nestedChainKeys document).Pairwise fun first second ↦
      first.1.ComesBefore second.1 :=
    List.pairwise_map.mpr (pairwise_chainKeysFrom document.lines 0)
  refine List.Pairwise.filterMap _ ?_ horder
  intro first second hbefore reported hfirst reported' hsecond
  obtain ⟨outcome, -, rfl⟩ := Option.map_eq_some_iff.mp hfirst
  obtain ⟨outcome', -, rfl⟩ := Option.map_eq_some_iff.mp hsecond
  exact hbefore

/-! ### Their diagnostics -/

/-- What the diagnostic for a key that does not resolve has to say: its message names the key and
the segment at which following it stops, if there is one, and its span covers the key. -/
structure Describes (rule : Rule) (document : Document) (unresolved : ChainKey × ChainOutcome)
    (diagnostic : Diagnostic) : Prop where
  code : diagnostic.code = rule.code
  message : diagnostic.message =
    "Scope path contains a segment that does not change scope. `" ++ unresolved.1.key ++
      "` stops at `" ++ unresolved.2.invalidSegment?.getD "None" ++ "`."
  start : diagnostic.span.start =
    lineStart document.lines unresolved.1.position.line + unresolved.1.position.character
  stop : diagnostic.span.stop = diagnostic.span.start + unresolved.1.key.length
  covers : document.slice diagnostic.span = unresolved.1.key.toList
  severity : diagnostic.severity = DiagnosticKind.invalidChain.severity
  hint : diagnostic.hint = some DiagnosticKind.invalidChain.hint
  category : diagnostic.category = some DiagnosticKind.invalidChain.category

theorem chainMessage_eq (key : String) (outcome : ChainOutcome) :
    chainMessage key outcome =
      "Scope path contains a segment that does not change scope. `" ++ key ++ "` stops at `" ++
        outcome.invalidSegment?.getD "None" ++ "`." := by
  have hopening : "Scope path contains a segment that does not change scope. `" =
      DiagnosticKind.invalidChain.message ++ " `" := by
    decide
  rw [hopening]
  simp [chainMessage, toString, String.append_assoc]

/-- A key takes part of its line. -/
theorem KeyStandsAt.slice {line key : List Char} {column : Nat}
    (hkey : KeyStandsAt (uncommented line) column key) :
    column + key.length ≤ line.length ∧ (line.drop column).take key.length = key := by
  obtain ⟨lead, gap, rest, htext, rfl, -⟩ := hkey
  obtain ⟨more, hline⟩ : uncommented line <+: line := List.takeWhile_prefix _
  rw [htext, List.append_assoc, List.append_assoc, List.append_assoc] at hline
  rw [← hline, List.drop_left, List.take_left]
  refine ⟨?_, rfl⟩
  simp only [List.length_append]
  omega

theorem exists_chainDiagnostic {services : Services} {document : Document} (rule : Rule)
    {unresolved : ChainKey × ChainOutcome}
    (hunresolved : IsUnresolved services document unresolved.1 unresolved.2) :
    ∃ diagnostic, chainDiagnostic rule.code document.lineMap unresolved = .ok diagnostic ∧
      Describes rule document unresolved diagnostic := by
  obtain ⟨line, context, hline, hstands, -⟩ := hunresolved
  obtain ⟨hend, hslice⟩ := hstands.slice
  rw [String.length_toList] at hend hslice
  obtain ⟨span, hspan, hstart, hstop, hcovers⟩ :=
    Document.exists_spanOn hline (Nat.le_add_right _ _) hend
  rw [Nat.add_sub_cancel_left, hslice] at hcovers
  rw [← Nat.add_assoc, ← hstart] at hstop
  refine ⟨{ DiagnosticKind.invalidChain.spanning span with
    code := rule.code, message := chainMessage unresolved.1.key unresolved.2 }, ?_, ?_⟩
  · rw [chainDiagnostic]
    simp only [Int.natCast_add] at hspan ⊢
    rw [hspan]
    rfl
  · exact ⟨rfl, chainMessage_eq _ _, hstart, hstop, hcovers, rfl, rfl, rfl⟩

/-- Assumes: a step that succeeds on every element. It succeeds on the whole list, with one result
for each element, in order. -/
theorem exists_mapM_eq_ok {ε α β : Type} {step : α → Except ε β} {related : α → β → Prop}
    (elements : List α)
    (hstep : ∀ element ∈ elements, ∃ result, step element = .ok result ∧ related element result) :
    ∃ results, elements.mapM step = .ok results ∧ List.Forall₂ related elements results := by
  induction elements with
  | nil => exact ⟨[], rfl, .nil⟩
  | cons element rest ih =>
    obtain ⟨result, hresult, hrelated⟩ := hstep element List.mem_cons_self
    obtain ⟨results, hresults, hall⟩ := ih fun later hlater ↦
      hstep later (List.mem_cons_of_mem _ hlater)
    refine ⟨result :: results, ?_, .cons hrelated hall⟩
    rw [List.mapM_cons, hresult, hresults]
    rfl

/-- Assumes: a rule on chains, and diagnostics for all keys that do not resolve. -/
theorem run_of_chainDiagnostics {services : Services} {document : Document} {rule : Rule}
    (hkind : rule.kind = .chains) {diagnostics : List Diagnostic}
    (hdiagnostics : (unresolvedChains services (nestedChainKeys document)).mapM
      (chainDiagnostic rule.code document.lineMap) = .ok diagnostics) :
    rule.run services document =
      .ok ⟨diagnostics, passEvents services 0 (nestedChainKeys document) ++
        [.ruleFinished rule.name diagnostics.length]⟩ := by
  rw [Rule.run, hkind, placedChainKeys_eq]
  change ((chainDiagnostics rule.code services document (nestedChainKeys document)).mapError
    CheckError.place >>= _) = _
  rw [chainDiagnostics, hdiagnostics]
  rfl

/-- Assumes: a rule on chains. It runs on every document, and its diagnostics are one for each key
that does not resolve, in document order. -/
theorem chains_run_reports_unresolved (services : Services) (document : Document) (rule : Rule)
    (hkind : rule.kind = .chains) :
    ∃ run reported, rule.run services document = .ok run ∧
      List.Forall₂ (Describes rule document) reported run.diagnostics ∧
      (reported.Pairwise fun first second ↦ first.1.ComesBefore second.1) ∧
      ∀ key outcome, (key, outcome) ∈ reported ↔ IsUnresolved services document key outcome := by
  obtain ⟨diagnostics, hdiagnostics, hdescribes⟩ :=
    exists_mapM_eq_ok (unresolvedChains services (nestedChainKeys document))
      fun unresolved hunresolved ↦
        exists_chainDiagnostic rule (mem_unresolvedChains_iff.mp hunresolved)
  exact ⟨_, _, run_of_chainDiagnostics hkind hdiagnostics, hdescribes,
    pairwise_unresolvedChains services document, fun key outcome ↦ mem_unresolvedChains_iff⟩

/-- A block on the second line, with a key that does not resolve between one that resolves and one
behind a comment sign. -/
def brokenChain : Document :=
  .ofString "x\na = \x7b liege.host = 1 b.c > 2 # d.e = 3"

theorem isUnresolved_brokenChain :
    IsUnresolved {} brokenChain ⟨⟨1, 21⟩, "b.c"⟩ (.stopsAt "b") := by
  refine ⟨"a = \x7b liege.host = 1 b.c > 2 # d.e = 3".toList, _, by decide +kernel,
    mem_statementKeys_iff.mp ⟨⟨21, 26, "b.c"⟩, ?_, rfl, rfl⟩, isChainKey_iff.mp ?_, rfl, ?_⟩
  · decide +kernel
  · decide +kernel
  · decide +kernel

/-- The rule reports the key. -/
theorem chains_run_reports_unresolved_brokenChain :
    Rule.chains.kind = .chains ∧
      IsUnresolved {} brokenChain ⟨⟨1, 21⟩, "b.c"⟩ (.stopsAt "b") ∧
      ∃ run, Rule.chains.run {} brokenChain = .ok run ∧ run.diagnostics ≠ [] := by
  obtain ⟨run, reported, hrun, hdescribes, -, hreported⟩ :=
    chains_run_reports_unresolved {} brokenChain .chains rfl
  refine ⟨rfl, isUnresolved_brokenChain, run, hrun, ?_⟩
  intro hnone
  rw [hnone, List.forall₂_nil_right_iff] at hdescribes
  have hmem := (hreported _ _).mpr isUnresolved_brokenChain
  rw [hdescribes] at hmem
  exact List.not_mem_nil hmem

end BlockScope
