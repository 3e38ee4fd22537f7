import BlockScope.Proofs.BraceRule
import BlockScope.Proofs.Deletion
import BlockScope.Proofs.Insertion
import Mathlib.Data.Finset.Card
import Mathlib.Data.Nat.Dist

/-!
The braces that the rule reports are a smallest repair. Without them every brace has its partner:
a pair that was matched is still met in the same order, and nothing else is left. And fewer
deletions are not enough. Of two walks, one of which meets the same characters as the other or skips
some, the numbers of open and of stray braces move apart by at most one for each skipped character,
because a character that both meet never moves them further apart. A walk that ends with nothing
unmatched has therefore skipped at least as many braces as the other one leaves unmatched.
-/

set_option autoImplicit false
set_option relaxedAutoImplicit false

namespace BlockScope

namespace UnmatchedBraces

/-! ### Walks that skip some characters -/

/-- How far apart two walks are, in their numbers of open braces and of stray ones. -/
def gap (first second : UnmatchedBraces) : Nat :=
  Nat.dist first.openings.length second.openings.length +
    Nat.dist first.closings.length second.closings.length

theorem gap_self (braces : UnmatchedBraces) : gap braces braces = 0 := by
  simp [gap, Nat.dist_self]

theorem gap_nothing (braces : UnmatchedBraces) : gap braces ⟨[], []⟩ = braces.entries.length := by
  simp [gap, entries, Nat.dist, Nat.add_comm]

/-- A character that both walks meet never moves them apart. Where only one of them has a brace to
close, the numbers of open braces come nearer by as much as those of strays may go apart. -/
theorem gap_meet_meet_le (first second : UnmatchedBraces) (position position' : Position)
    (c : Char) : gap (first.meet position c) (second.meet position' c) ≤ gap first second := by
  by_cases hopen : c = '{'
  · subst hopen
    simp only [gap, meet_opening, List.length_cons, Nat.dist_add_add_right, Nat.le_refl]
  · by_cases hclose : c = '}'
    · subst hclose
      obtain ⟨openings, closings⟩ := first
      obtain ⟨openings', closings'⟩ := second
      cases openings with
      | nil =>
        cases openings' with
        | nil =>
          simp only [gap, meet_closing_nil, List.length_cons, Nat.dist_add_add_right, Nat.le_refl]
        | cons inner outer =>
          simp only [gap, meet_closing_nil, meet_closing_cons, List.length_nil, List.length_cons,
            Nat.dist]
          omega
      | cons inner outer =>
        cases openings' with
        | nil =>
          simp only [gap, meet_closing_nil, meet_closing_cons, List.length_nil, List.length_cons,
            Nat.dist]
          omega
        | cons inner' outer' =>
          simp only [gap, meet_closing_cons, List.length_cons, Nat.dist_add_add_right,
            Nat.le_refl]
    · rw [meet_of_ne _ _ hopen hclose, meet_of_ne _ _ hopen hclose]

theorem gap_meet_le (first second : UnmatchedBraces) (position : Position) (c : Char) :
    gap (first.meet position c) second ≤ gap first second + 1 := by
  by_cases hopen : c = '{'
  · subst hopen
    simp only [gap, meet_opening, List.length_cons, Nat.dist]
    omega
  · by_cases hclose : c = '}'
    · subst hclose
      obtain ⟨openings, closings⟩ := first
      cases openings with
      | nil =>
        simp only [gap, meet_closing_nil, List.length_cons, Nat.dist]
        omega
      | cons inner outer =>
        simp only [gap, meet_closing_cons, List.length_cons, Nat.dist]
        omega
    · rw [meet_of_ne _ _ hopen hclose]
      exact Nat.le_succ _

/-- Assumes: a text whose characters are those of another one that are kept. The walks over the two
move apart by at most one for each character that is not kept. -/
theorem gap_meetAll_le (keep : Position × Char → Bool) (text : List (Position × Char)) :
    ∀ (kept : List (Position × Char)) (first second : UnmatchedBraces),
      kept.map (·.2) = (text.filter keep).map (·.2) →
        gap (first.meetAll text) (second.meetAll kept) ≤
          gap first second + text.countP fun placed ↦ !keep placed := by
  induction text with
  | nil =>
    intro kept first second hkept
    obtain rfl : kept = [] := by simpa using hkept
    simp
  | cons placed rest ih =>
    intro kept first second hkept
    cases hplaced : keep placed with
    | true =>
      rw [List.filter_cons_of_pos hplaced, List.map_cons] at hkept
      obtain ⟨placed', kept, rfl, hsame, hrest⟩ := List.map_eq_cons_iff.mp hkept
      have hnext := ih kept (first.meet placed.1 placed.2) (second.meet placed'.1 placed'.2) hrest
      have hboth := gap_meet_meet_le first second placed.1 placed'.1 placed.2
      rw [List.countP_cons_of_neg (by simp [hplaced]), meetAll_cons, meetAll_cons]
      rw [hsame] at hnext ⊢
      omega
    | false =>
      rw [List.filter_cons_of_neg (by simp [hplaced])] at hkept
      have hnext := ih kept (first.meet placed.1 placed.2) second hkept
      have hone := gap_meet_le first second placed.1 placed.2
      rw [List.countP_cons_of_pos (by simp [hplaced]), meetAll_cons]
      omega

theorem eq_nothing_of_entries {braces : UnmatchedBraces} (hentries : braces.entries = []) :
    braces = ⟨[], []⟩ := by
  obtain ⟨openings, closings⟩ := braces
  simp only [entries, List.append_eq_nil_iff, List.map_eq_nil_iff, List.reverse_eq_nil_iff]
    at hentries
  rw [hentries.1, hentries.2]

/-- Assumes: two texts with the same characters. If one leaves nothing unmatched, so does the other,
wherever the characters stand. -/
theorem meetAll_eq_nothing {text other : List (Position × Char)}
    (hsame : other.map (·.2) = text.map (·.2))
    (hnothing : meetAll ⟨[], []⟩ text = ⟨[], []⟩) : meetAll ⟨[], []⟩ other = ⟨[], []⟩ := by
  have hgap := gap_meetAll_le (fun _ ↦ true) other text ⟨[], []⟩ ⟨[], []⟩
    (by simpa using hsame.symm)
  rw [hnothing, gap_nothing, gap_self] at hgap
  exact eq_nothing_of_entries (List.length_eq_zero_iff.mp (by simpa using hgap))

/-! ### The matched braces alone -/

theorem entries_openings_cons (inner : Position) (outer closings : List Position) :
    entries ⟨inner :: outer, closings⟩ = entries ⟨outer, closings⟩ ++ [(inner, '{')] := by
  simp [entries]

/-- Assumes: characters at different places, and a closing brace with a brace to close. Neither of
the two is unmatched in the end, because neither is met again. -/
theorem notMem_entries_of_closed {inner position : Position} {outer closings : List Position}
    {rest : List (Position × Char)}
    (hnodup : (entries ⟨inner :: outer, closings⟩ ++ (position, '}') :: rest).Nodup) :
    (inner, '{') ∉ (meetAll ⟨outer, closings⟩ rest).entries ∧
      (position, '}') ∉ (meetAll ⟨outer, closings⟩ rest).entries := by
  rw [entries_openings_cons, List.append_assoc, List.singleton_append] at hnodup
  obtain ⟨-, hbehind, hacross⟩ := List.nodup_append.mp hnodup
  obtain ⟨hinner, hposition⟩ := List.nodup_cons.mp hbehind
  have hcollected := (entries_meetAll_sublist rest ⟨outer, closings⟩).subset
  constructor
  · intro hmem
    rcases List.mem_append.mp (hcollected hmem) with hbefore | hlater
    · exact hacross _ hbefore _ List.mem_cons_self rfl
    · exact hinner (List.mem_cons_of_mem _ hlater)
  · intro hmem
    rcases List.mem_append.mp (hcollected hmem) with hbefore | hlater
    · exact hacross _ hbefore _ (List.mem_cons_of_mem _ List.mem_cons_self) rfl
    · exact (List.nodup_cons.mp hposition).1 hlater

/-- Assumes: characters at different places. A walk that skips what is unmatched in the end, and
begins with the open braces that will be closed, leaves nothing unmatched. The induction is on the
text, and what is unmatched in the end stays the same along it. -/
theorem meetAll_matched (text : List (Position × Char)) :
    ∀ braces : UnmatchedBraces, (braces.entries ++ text).Nodup →
      meetAll ⟨braces.openings.filter fun brace ↦ (brace, '{') ∉ (braces.meetAll text).entries, []⟩
        (text.filter fun placed ↦ placed ∉ (braces.meetAll text).entries) = ⟨[], []⟩ := by
  induction text with
  | nil =>
    intro braces _
    simp [mem_entries_opening]
  | cons placed rest ih =>
    intro braces hnodup
    obtain ⟨position, c⟩ := placed
    have hnext := ih (braces.meet position c) (by
      have hstep := (entries_meet_sublist braces position c).append_right rest
      rw [List.append_assoc, List.singleton_append] at hstep
      exact hnodup.sublist hstep)
    rw [meetAll_cons]
    by_cases hopen : c = '{'
    · subst hopen
      rw [meet_opening] at hnext ⊢
      change meetAll ⟨(position :: braces.openings).filter _, []⟩ _ = _ at hnext
      -- The walk over the matched braces opens this one as well, or never sees it.
      by_cases hstays : (position, '{') ∈
          (meetAll ⟨position :: braces.openings, braces.closings⟩ rest).entries
      · rw [List.filter_cons_of_neg (by simpa using hstays)] at hnext ⊢
        exact hnext
      · rw [List.filter_cons_of_pos (by simpa using hstays)] at hnext ⊢
        exact hnext
    · by_cases hclose : c = '}'
      · subst hclose
        obtain ⟨openings, closings⟩ := braces
        cases openings with
        | nil =>
          -- A stray stays one, so the walk over the matched braces does not meet it.
          have hkept := closings_suffix_meetAll rest ⟨[], position :: closings⟩
          have hstays : (position, '}') ∈ (meetAll ⟨[], position :: closings⟩ rest).entries :=
            mem_entries_closing.mpr (hkept.mem List.mem_cons_self)
          rw [meet_closing_nil] at hnext ⊢
          rw [List.filter_cons_of_neg (by simpa using hstays)]
          exact hnext
        | cons inner outer =>
          -- Both braces of the pair are kept, and the pair is closed in both walks.
          obtain ⟨hinner, hposition⟩ := notMem_entries_of_closed hnodup
          rw [meet_closing_cons] at hnext ⊢
          rw [List.filter_cons_of_pos (by simpa using hinner),
            List.filter_cons_of_pos (by simpa using hposition), meetAll_cons, meet_closing_cons]
          exact hnext
      · have hother : (position, c) ∉ (braces.meetAll rest).entries := by
          intro hmem
          exact (brace_of_mem_entries hmem).elim hclose hopen
        rw [meet_of_ne _ _ hopen hclose] at hnext ⊢
        rw [List.filter_cons_of_pos (by simpa using hother), meetAll_cons,
          meet_of_ne _ _ hopen hclose]
        exact hnext

end UnmatchedBraces

/-! ### Repairs of a document -/

section Repairs

variable {document : Document}

theorem ofLines_eq_meetAll (lines : List (List Char)) :
    UnmatchedBraces.ofLines lines = UnmatchedBraces.meetAll ⟨[], []⟩ (placedLines lines) := by
  rw [ofLines_eq_unmatchedIn, unmatchedIn, placedText_ofLines]

theorem pairwise_placedLines (lines : List (List Char)) :
    (placedLines lines).Pairwise ComesBefore := by
  rw [← placedText_ofLines]
  exact pairwise_placedText _

theorem hasAt_of_mem_placedLines {placed : Position × Char}
    (hplaced : placed ∈ placedLines document.lines) : document.HasAt placed.1 placed.2 := by
  rw [← placedText_ofLines] at hplaced
  exact mem_placedText_source_iff.mp hplaced

theorem Document.HasAt.unique {position : Position} {c c' : Char}
    (hat : document.HasAt position c) (hat' : document.HasAt position c') : c = c' := by
  obtain ⟨line, hline, hc⟩ := hat
  obtain ⟨line', hline', hc'⟩ := hat'
  obtain rfl : line = line' := Option.some.inj (hline.symm.trans hline')
  exact Option.some.inj (hc.symm.trans hc')

/-- Different characters have different offsets, so no more of them are deleted than there are
offsets to delete. -/
theorem countP_deleted_le_card (document : Document) (deleted : Finset Nat) :
    (placedLines document.lines).countP (document.placeOffset ·.1 ∈ deleted) ≤ deleted.card := by
  have hnodup : (((placedLines document.lines).filter (document.placeOffset ·.1 ∈ deleted)).map
      (document.placeOffset ·.1)).Nodup := by
    refine List.pairwise_map.mpr (((pairwise_placedLines _).filter _).imp_of_mem ?_)
    intro first second hfirst hsecond hbefore hsame
    have hposition := (hasAt_of_mem_placedLines (List.mem_of_mem_filter hfirst)).positionAt
    have hposition' := (hasAt_of_mem_placedLines (List.mem_of_mem_filter hsecond)).positionAt
    rw [hsame, hposition'] at hposition
    rw [ComesBefore, hposition] at hbefore
    exact Position.precedes_irrefl _ hbefore
  have hsubset : (((placedLines document.lines).filter (document.placeOffset ·.1 ∈ deleted)).map
      (document.placeOffset ·.1)).toFinset ⊆ deleted := by
    intro offset hoffset
    obtain ⟨placed, hplaced, rfl⟩ := List.mem_map.mp (List.mem_toFinset.mp hoffset)
    simpa using (List.mem_filter.mp hplaced).2
  have hcard := Finset.card_le_card hsubset
  rwa [List.toFinset_card_of_nodup hnodup, List.length_map, ← List.countP_eq_length_filter]
    at hcard

/-- Assumes: only braces outside comments are deleted, and nothing is unmatched then. At least as
many are deleted as were unmatched. -/
theorem length_entries_le_card {deleted : Finset Nat}
    (hbraces : ∀ offset ∈ deleted, document.HasBraceAt offset)
    (hrepaired : UnmatchedBraces.ofLines (document.without (· ∈ deleted)).lines = ⟨[], []⟩) :
    (UnmatchedBraces.ofLines document.lines).entries.length ≤ deleted.card := by
  have hdeleted : ∀ offset, decide (offset ∈ deleted) = true → document.HasBraceAt offset := by
    simpa using hbraces
  have hgap := UnmatchedBraces.gap_meetAll_le _ _ _ ⟨[], []⟩ ⟨[], []⟩
    (map_snd_placedLines_without hdeleted)
  rw [← ofLines_eq_meetAll, ← ofLines_eq_meetAll, hrepaired, UnmatchedBraces.gap_nothing,
    UnmatchedBraces.gap_self, Nat.zero_add] at hgap
  simp only [Bool.not_not] at hgap
  exact hgap.trans (countP_deleted_le_card document deleted)

theorem hasBraceAt_of_mem_entries {entry : Position × Char}
    (hentry : entry ∈ (UnmatchedBraces.ofLines document.lines).entries) :
    document.HasBraceAt (document.placeOffset entry.1) := by
  have hat := hasAt_of_mem_entries hentry
  refine ⟨entry.2, (UnmatchedBraces.brace_of_mem_entries hentry).symm, ?_⟩
  rwa [hat.positionAt]

/-- Assumes: exactly the unmatched braces are deleted. Nothing is unmatched then. -/
theorem ofLines_without_unmatched {deleted : Nat → Bool}
    (hdeleted : ∀ offset, deleted offset = true ↔
      ∃ entry ∈ (UnmatchedBraces.ofLines document.lines).entries,
        document.placeOffset entry.1 = offset) :
    UnmatchedBraces.ofLines (document.without deleted).lines = ⟨[], []⟩ := by
  have hbraces : ∀ offset, deleted offset = true → document.HasBraceAt offset := by
    intro offset hoffset
    obtain ⟨entry, hentry, rfl⟩ := (hdeleted offset).mp hoffset
    exact hasBraceAt_of_mem_entries hentry
  have hfilter : (placedLines document.lines).filter (fun placed ↦
      !deleted (document.placeOffset placed.1)) =
        (placedLines document.lines).filter fun placed ↦
          placed ∉ (UnmatchedBraces.ofLines document.lines).entries := by
    refine List.filter_congr fun placed hplaced ↦ ?_
    rw [Bool.eq_iff_iff, Bool.not_eq_true', ← Bool.not_eq_true, decide_eq_true_iff, hdeleted,
      not_iff_not]
    refine ⟨?_, fun hentry ↦ ⟨placed, hentry, rfl⟩⟩
    rintro ⟨entry, hentry, hsame⟩
    have hat := hasAt_of_mem_entries hentry
    have hat' := hasAt_of_mem_placedLines hplaced
    have hposition : entry.1 = placed.1 := by rw [← hat.positionAt, hsame, hat'.positionAt]
    rw [hposition] at hat
    rwa [← Prod.ext hposition (hat.unique hat')]
  have hnodup : (placedLines document.lines).Nodup := by
    refine (pairwise_placedLines document.lines).imp ?_
    rintro placed _ hbefore rfl
    exact Position.precedes_irrefl _ hbefore
  have hmatched := UnmatchedBraces.meetAll_matched (placedLines document.lines) ⟨[], []⟩ hnodup
  rw [ofLines_eq_meetAll]
  refine UnmatchedBraces.meetAll_eq_nothing (map_snd_placedLines_without hbraces) ?_
  rw [hfilter, ofLines_eq_meetAll]
  exact hmatched

end Repairs

/-! ### What the rule reports -/

/-- The document without the characters that some diagnostics cover. -/
def Document.withoutReported (document : Document) (diagnostics : List Diagnostic) : Document :=
  document.without fun offset ↦ diagnostics.any fun diagnostic ↦
    diagnostic.span.start ≤ offset && offset < diagnostic.span.stop

/-- Assumes: a rule on braces. It runs on every document and reports the braces without a
partner. -/
theorem exists_run_braceFindings {rule : Rule} (hkind : rule.kind = .braces) (services : Services)
    (document : Document) :
    ∃ run, rule.run services document = .ok run ∧
      run.diagnostics = (braceFindings document.lines).map (Finding.diagnostic document) := by
  obtain ⟨run, hrun, hdiagnostics⟩ := rule.exists_run_eq services document
  simp only [Rule.findings, hkind] at hdiagnostics
  exact ⟨run, hrun, hdiagnostics⟩

theorem braceFindings_eq_nil_iff {lines : List (List Char)} :
    braceFindings lines = [] ↔ UnmatchedBraces.ofLines lines = ⟨[], []⟩ := by
  rw [braceFindings, List.map_eq_nil_iff]
  refine ⟨UnmatchedBraces.eq_nothing_of_entries, fun hnothing ↦ ?_⟩
  rw [hnothing]
  rfl

/-- Lines close what they open exactly if none of their braces is without a partner. -/
theorem isComplete_iff_ofLines {lines : List (List Char)} :
    IsComplete lines ↔ UnmatchedBraces.ofLines lines = ⟨[], []⟩ := by
  have hscan := scanAt_coordinates (.ofLines lines) ⟨lines.length, 0⟩
  have hdepth := depth_nestingBefore (.ofLines lines) ⟨lines.length, 0⟩
  have hstrays := (tracks_nestingBefore (.ofLines lines) ⟨lines.length, 0⟩).strays
  have hbraces : bracesBefore (.ofLines lines) ⟨lines.length, 0⟩ =
      UnmatchedBraces.ofLines lines := by
    rw [ofLines_eq_meetAll, bracesBefore, textBefore_ofLines, linesBefore_length]
  rw [hbraces] at hdepth hstrays
  constructor
  · rintro ⟨nesting, hnesting, hclosed, hnone⟩
    obtain rfl := Except.ok.inj (hscan.symm.trans hnesting)
    refine UnmatchedBraces.eq_nothing_of_entries (List.length_eq_zero_iff.mp ?_)
    rw [hdepth] at hclosed
    rw [Nesting.strayCount, hstrays] at hnone
    simp [UnmatchedBraces.entries, hclosed, hnone]
  · intro hnothing
    rw [hnothing] at hdepth hstrays
    exact ⟨_, hscan, hdepth, congrArg List.length hstrays⟩

theorem any_covers_braceFindings_iff {document : Document} {offset : Nat} :
    (((braceFindings document.lines).map (Finding.diagnostic document)).any fun diagnostic ↦
        diagnostic.span.start ≤ offset && offset < diagnostic.span.stop) = true ↔
      ∃ entry ∈ (UnmatchedBraces.ofLines document.lines).entries,
        document.placeOffset entry.1 = offset := by
  rw [braceFindings, List.map_map, List.any_map, List.any_eq_true]
  refine exists_congr fun entry ↦ and_congr_right fun _ ↦ ?_
  change (decide (document.placeOffset entry.1 ≤ offset) &&
    decide (offset < document.placeOffset entry.1 + 1)) = true ↔ _
  rw [Bool.and_eq_true, decide_eq_true_iff, decide_eq_true_iff]
  omega

/-- Assumes: a rule on braces. It runs on every document, and what it reports are single braces
outside comments. Without them the rule has nothing to report, and a scan finds that every brace has
its partner. Without fewer braces, whichever they are, neither is so. -/
theorem braces_run_minimum_repair (services : Services) (document : Document) (rule : Rule)
    (hkind : rule.kind = .braces) :
    ∃ run, rule.run services document = .ok run ∧
      (∀ diagnostic ∈ run.diagnostics, diagnostic.span.stop = diagnostic.span.start + 1 ∧
        document.HasBraceAt diagnostic.span.start) ∧
      (∃ repaired, rule.run services (document.withoutReported run.diagnostics) = .ok repaired ∧
        repaired.diagnostics = []) ∧
      IsComplete (document.withoutReported run.diagnostics).lines ∧
      ∀ deleted : Finset Nat, (∀ offset ∈ deleted, document.HasBraceAt offset) →
        deleted.card < run.diagnostics.length →
          ∃ rerun, rule.run services (document.without (· ∈ deleted)) = .ok rerun ∧
            rerun.diagnostics ≠ [] ∧ ¬ IsComplete (document.without (· ∈ deleted)).lines := by
  obtain ⟨run, hrun, hdiagnostics⟩ := exists_run_braceFindings hkind services document
  have hrepair : UnmatchedBraces.ofLines (document.withoutReported run.diagnostics).lines =
      ⟨[], []⟩ := by
    rw [Document.withoutReported, hdiagnostics]
    exact ofLines_without_unmatched fun _ ↦ any_covers_braceFindings_iff
  refine ⟨run, hrun, ?_, ?_, isComplete_iff_ofLines.mpr hrepair, fun deleted hbraces hfewer ↦ ?_⟩
  · intro diagnostic hdiagnostic
    rw [hdiagnostics, braceFindings, List.map_map] at hdiagnostic
    obtain ⟨entry, hentry, rfl⟩ := List.mem_map.mp hdiagnostic
    exact ⟨rfl, hasBraceAt_of_mem_entries hentry⟩
  · obtain ⟨repaired, hrepaired, hleft⟩ := exists_run_braceFindings hkind services
      (document.withoutReported run.diagnostics)
    refine ⟨repaired, hrepaired, ?_⟩
    rw [hleft, List.map_eq_nil_iff, braceFindings_eq_nil_iff, hrepair]
  · obtain ⟨rerun, hrerun, hleft⟩ := exists_run_braceFindings hkind services
      (document.without (· ∈ deleted))
    have hunmatched : UnmatchedBraces.ofLines (document.without (· ∈ deleted)).lines ≠
        ⟨[], []⟩ := by
      intro hnothing
      have henough := length_entries_le_card hbraces hnothing
      rw [hdiagnostics, List.length_map, braceFindings, List.length_map] at hfewer
      omega
    refine ⟨rerun, hrerun, ?_, mt isComplete_iff_ofLines.mp hunmatched⟩
    rwa [hleft, ne_eq, List.map_eq_nil_iff, braceFindings_eq_nil_iff]

/-- The closing brace at the beginning and the second opening brace are reported. Without both the
rule has nothing to report, and without the first one alone it still has. -/
theorem braces_run_minimum_repair_leftoverBraces :
    Rule.braces.kind = .braces ∧
      (∀ offset ∈ ({0} : Finset Nat), leftoverBraces.HasBraceAt offset) ∧
      (∃ repaired, Rule.braces.run {} (.ofString " a = \x7b\n\x7d b =  c # \x7d") = .ok repaired ∧
        repaired.diagnostics = []) ∧
      ∃ rerun, Rule.braces.run {} (leftoverBraces.without (· ∈ ({0} : Finset Nat))) = .ok rerun ∧
        rerun.diagnostics ≠ [] ∧
          ¬ IsComplete (leftoverBraces.without (· ∈ ({0} : Finset Nat))).lines := by
  have hbraces : ∀ offset ∈ ({0} : Finset Nat), leftoverBraces.HasBraceAt offset := by
    intro offset hoffset
    rw [Finset.mem_singleton.mp hoffset]
    exact ⟨'}', .inr rfl, _, rfl, by decide +kernel⟩
  obtain ⟨run, hrun, -, hrepaired, -, hminimum⟩ :=
    braces_run_minimum_repair {} leftoverBraces .braces rfl
  obtain ⟨run', hrun', hdiagnostics⟩ :=
    @exists_run_braceFindings .braces rfl {} leftoverBraces
  obtain rfl : run = run' := Except.ok.inj (hrun.symm.trans hrun')
  have htext : leftoverBraces.withoutReported run.diagnostics =
      .ofString " a = \x7b\n\x7d b =  c # \x7d" := by
    rw [hdiagnostics]
    decide +kernel
  have hfewer : ({0} : Finset Nat).card < run.diagnostics.length := by
    rw [hdiagnostics]
    decide +kernel
  rw [htext] at hrepaired
  exact ⟨rfl, hbraces, hrepaired, hminimum {0} hbraces hfewer⟩

end BlockScope
