import BlockScope.Proofs.Refusal

/-!
The order in which the rules of a check are given does not matter. Whether they are accepted does
not depend on it, and the rules together find the same, only in another order. The diagnostics are
then listed by their spans, codes and messages. A caller may choose codes, and so may make them
clash, but what else a diagnostic says follows from its message. Diagnostics that the listing does
not tell apart are therefore equal, and it makes one list of them however they arrive.
-/

set_option autoImplicit false
set_option relaxedAutoImplicit false

namespace BlockScope

/-! ### The listing of diagnostics -/

namespace Diagnostic

instance : Std.TransCmp order :=
  inferInstanceAs (Std.TransCmp (compareLex (compareOn fun diagnostic ↦ diagnostic.span.start)
    (compareLex (compareOn fun diagnostic ↦ diagnostic.span.stop)
      (compareLex (compareOn Diagnostic.code) (compareOn Diagnostic.message)))))

theorem order_eq_eq_iff {first second : Diagnostic} :
    order first second = .eq ↔ first.span = second.span ∧ first.code = second.code ∧
      first.message = second.message := by
  have hspan : first.span = second.span ↔
      first.span.start = second.span.start ∧ first.span.stop = second.span.stop := by
    rw [Span.mk.injEq]
  simp only [order, compareLex_eq_eq, compareOn, Std.compare_eq_iff_eq, hspan, and_assoc]

theorem start_le_of_order {first second : Diagnostic}
    (horder : (order first second).isLE = true) : first.span.start ≤ second.span.start := by
  by_contra hbehind
  have hgt : compare first.span.start second.span.start = .gt :=
    Nat.compare_eq_gt.mpr (Nat.lt_of_not_le hbehind)
  rw [order, compareLex, compareOn, hgt] at horder
  contradiction

theorem perm_sort (diagnostics : List Diagnostic) : (sort diagnostics).Perm diagnostics :=
  List.mergeSort_perm _ _

theorem pairwise_sort (diagnostics : List Diagnostic) :
    (sort diagnostics).Pairwise fun first second ↦ (order first second).isLE = true := by
  refine List.pairwise_mergeSort (fun _ _ _ ↦ Std.TransCmp.isLE_trans) (fun first second ↦ ?_) _
  rw [@Std.OrientedCmp.eq_swap _ order _ first second]
  cases order second first <;> rfl

/-- Assumes: diagnostics that are equal if they agree in what they are listed by. The listing does
not depend on the order in which they arrive. -/
theorem sort_eq_of_perm {diagnostics other : List Diagnostic} (hperm : diagnostics.Perm other)
    (hdistinct : ∀ first ∈ diagnostics, ∀ second ∈ diagnostics, order first second = .eq →
      first = second) :
    sort diagnostics = sort other := by
  refine List.Perm.eq_of_pairwise ?_ (pairwise_sort diagnostics) (pairwise_sort other) ?_
  · intro first second hfirst hsecond horder horder'
    have hmem : second ∈ diagnostics :=
      hperm.mem_iff.mpr ((perm_sort other).mem_iff.mp hsecond)
    exact hdistinct first ((perm_sort diagnostics).mem_iff.mp hfirst) second hmem
      (Std.OrientedCmp.isLE_antisymm horder horder')
  · exact (perm_sort diagnostics).trans (hperm.trans (perm_sort other).symm)

end Diagnostic

/-! ### What follows from a message -/

/-- The hint that goes with a message. -/
def hintFor (message : String) : String :=
  if message = DiagnosticKind.extraClosingBrace.message then DiagnosticKind.extraClosingBrace.hint
  else if message = DiagnosticKind.unclosedBlock.message then DiagnosticKind.unclosedBlock.hint
  else DiagnosticKind.invalidChain.hint

/-- The kind of diagnostic with a code and a message, from which all the rest follows. -/
def DiagnosticKind.ofMessage (code message : String) : DiagnosticKind where
  code
  message
  hint := hintFor message
  severity := .warning
  category := "typecheck"

theorem hintFor_chainMessage (key : String) (outcome : ChainOutcome) :
    hintFor (chainMessage key outcome) = DiagnosticKind.invalidChain.hint := by
  have hhead : (chainMessage key outcome).toList.head? = some 'S' := by
    rw [chainMessage, String.toList_append]
    rfl
  -- The first characters of the three messages differ.
  rw [hintFor, if_neg, if_neg]
  · intro hmessage
    rw [hmessage] at hhead
    exact absurd hhead (by decide)
  · intro hmessage
    rw [hmessage] at hhead
    exact absurd hhead (by decide)

theorem braceKind_eq_ofMessage (brace : Char) :
    braceKind brace = .ofMessage (braceKind brace).code (braceKind brace).message := by
  unfold braceKind
  split <;> decide

theorem Rule.kind_of_mem_findings {services : Services} {document : Document} {rule : Rule}
    {finding : Finding} (hfinding : finding ∈ rule.findings services document) :
    finding.kind = .ofMessage finding.kind.code finding.kind.message := by
  unfold Rule.findings at hfinding
  split at hfinding
  · obtain ⟨entry, -, rfl⟩ := List.mem_map.mp hfinding
    exact braceKind_eq_ofMessage entry.2
  · obtain ⟨⟨key, outcome⟩, -, rfl⟩ := List.mem_map.mp hfinding
    rw [DiagnosticKind.ofMessage, chainFinding, hintFor_chainMessage]
    rfl

section Rules

variable {services : Services} {document : Document} {rules : List Rule}

/-- What the rules find is the same diagnostic as soon as span, code and message are the same. -/
theorem eq_of_order_eq {first second : Diagnostic}
    (hfirst : first ∈ (findingsOf services document rules).map (Finding.diagnostic document))
    (hsecond : second ∈ (findingsOf services document rules).map (Finding.diagnostic document))
    (horder : Diagnostic.order first second = .eq) : first = second := by
  obtain ⟨finding, hfinding, rfl⟩ := List.mem_map.mp hfirst
  obtain ⟨other, hother, rfl⟩ := List.mem_map.mp hsecond
  obtain ⟨rule, -, hrule⟩ := List.mem_flatMap.mp hfinding
  obtain ⟨rule', -, hrule'⟩ := List.mem_flatMap.mp hother
  obtain ⟨hspan, hcode, hmessage⟩ := Diagnostic.order_eq_eq_iff.mp horder
  change finding.span document = other.span document at hspan
  change finding.kind.code = other.kind.code at hcode
  change finding.kind.message = other.kind.message at hmessage
  have hkind : finding.kind = other.kind := by
    rw [Rule.kind_of_mem_findings hrule, Rule.kind_of_mem_findings hrule', hcode, hmessage]
  rw [Finding.diagnostic, Finding.diagnostic, hkind, hspan]

theorem sort_findingsOf_perm {rules' : List Rule} (hperm : rules.Perm rules') :
    Diagnostic.sort ((findingsOf services document rules).map (Finding.diagnostic document)) =
      Diagnostic.sort
        ((findingsOf services document rules').map (Finding.diagnostic document)) :=
  Diagnostic.sort_eq_of_perm ((hperm.flatMap_right _).map _) fun _ hfirst _ hsecond ↦
    eq_of_order_eq hfirst hsecond

/-- The diagnostics of a check are listed in the order of the positions where they begin. -/
theorem inDocumentOrder_sort_findingsOf (services : Services) (document : Document)
    (rules : List Rule) :
    InDocumentOrder ((Diagnostic.sort ((findingsOf services document rules).map
      (Finding.diagnostic document))).map
        fun diagnostic ↦ document.lineMap.positionAt diagnostic.span.start) := by
  refine List.pairwise_map.mpr ((Diagnostic.pairwise_sort _).imp_of_mem ?_)
  intro first second hfirst hsecond horder
  obtain ⟨finding, hfinding, rfl⟩ :=
    List.mem_map.mp ((Diagnostic.perm_sort _).mem_iff.mp hfirst)
  obtain ⟨other, hother, rfl⟩ :=
    List.mem_map.mp ((Diagnostic.perm_sort _).mem_iff.mp hsecond)
  have hstands := standsIn_of_mem_findingsOf hfinding
  have hstands' := standsIn_of_mem_findingsOf hother
  have hstart : (finding.span document).start ≤ (other.span document).start :=
    Diagnostic.start_le_of_order horder
  change (document.lineMap.positionAt (other.span document).start).precedes
    (document.lineMap.positionAt (finding.span document).start) = false
  rw [hstands.positionAt, hstands'.positionAt, ← Bool.not_eq_true, ← hstands'.start_lt_iff hstands]
  exact Nat.not_lt.mpr hstart

end Rules

/-- Assumes: the same rules in two orders. Either both checks fail, because the rules or the
services are refused, or both return the same diagnostics, in document order. -/
theorem checkDocument_perm (document : Document) (services : Option Services)
    (path : Option String) {rules rules' : List Rule} (hperm : rules.Perm rules') :
    (Refused services path rules ∧
        (∃ error, checkDocument document services path rules = .error error) ∧
        ∃ error, checkDocument document services path rules' = .error error) ∨
      (¬ Refused services path rules ∧ ∃ report report',
        checkDocument document services path rules = .ok report ∧
        checkDocument document services path rules' = .ok report' ∧
        report.diagnostics = report'.diagnostics ∧
        InDocumentOrder (report.diagnostics.map
          fun diagnostic ↦ document.lineMap.positionAt diagnostic.span.start)) := by
  by_cases hrefused : Refused services path rules
  · exact .inl ⟨hrefused, (exists_error_iff_refused document services path rules).mpr hrefused,
      (exists_error_iff_refused document services path rules').mpr (hrefused.perm hperm)⟩
  · obtain ⟨⟨chosen, hservices⟩, hrules⟩ := not_refused_iff.mp hrefused
    obtain ⟨report, hreport, hdiagnostics⟩ := exists_checkDocument_eq document hservices
      (Rule.validate_eq_ok_iff.mpr hrules)
    obtain ⟨report', hreport', hdiagnostics'⟩ := exists_checkDocument_eq document hservices
      (Rule.validate_eq_ok_iff.mpr (hrules.perm hperm))
    refine .inr ⟨hrefused, report, report', hreport, hreport', ?_, ?_⟩
    · rw [hdiagnostics, hdiagnostics', sort_findingsOf_perm hperm]
    · rw [hdiagnostics]
      exact inDocumentOrder_sort_findingsOf chosen document rules

/-- A block with a key that does not resolve, and a block that is not closed. -/
def brokenBlocks : Document := .ofString "a = \x7b b.c = 1 \x7d d = \x7b"

/-- The rule on braces, and the rule on chains twice, under a code that the rule on braces uses. -/
def clashingRules : List Rule :=
  [.braces, { Rule.chains with code := DiagnosticKind.unclosedBlock.code },
    { Rule.chains with code := DiagnosticKind.unclosedBlock.code, name := "again" }]

/-- In both orders the rules report the key, twice, and the brace. -/
theorem checkDocument_perm_clashingRules :
    clashingRules.Perm clashingRules.reverse ∧ clashingRules ≠ clashingRules.reverse ∧
      ∃ report report', checkDocument brokenBlocks none none clashingRules = .ok report ∧
        checkDocument brokenBlocks none none clashingRules.reverse = .ok report' ∧
        report.diagnostics = report'.diagnostics ∧ report.diagnostics.length = 3 := by
  have hperm : clashingRules.Perm clashingRules.reverse := (List.reverse_perm _).symm
  have hrules : Rule.validate clashingRules = .ok () := by decide +kernel
  have hcount : (findingsOf {} brokenBlocks clashingRules).length = 3 := by decide +kernel
  refine ⟨hperm, by decide, ?_⟩
  rcases checkDocument_perm brokenBlocks none none hperm with
    ⟨hrefused, -⟩ | ⟨-, report, report', hreport, hreport', hsame, -⟩
  · exact absurd hrefused (not_refused_iff.mpr ⟨⟨_, rfl⟩, Rule.validate_eq_ok_iff.mp hrules⟩)
  · refine ⟨report, report', hreport, hreport', hsame, ?_⟩
    rw [diagnostics_of_checkDocument rfl hreport, (Diagnostic.perm_sort _).length_eq,
      List.length_map, hcount]

end BlockScope
