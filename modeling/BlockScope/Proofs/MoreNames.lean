import BlockScope.Proofs.KnownNames
import BlockScope.Proofs.Pointing

/-!
Services that know more names. With more names known a chain may get further before it stops, even
to a saved reference behind which nothing can stop it any more, but a chain that has been followed
to its end stays valid. Whether a chain stops somewhere does not depend on the types on the way, so
this holds although the types that are tracked and reached may be others. The keys that the rule on
dotted keys flags by the richer services are therefore among those that it flags by the poorer ones.
-/

set_option autoImplicit false
set_option relaxedAutoImplicit false

namespace BlockScope

/-! ### Chains that stop -/

/-- Assumes: fewer names that are not known. A chain with which something is wrong by them has
something wrong by more of them as well, perhaps at an earlier segment. -/
theorem isSome_chainFault?_of_imp {isUnknown isUnknown' : String → Bool}
    (hfewer : ∀ name, isUnknown' name = true → isUnknown name = true) {chain : String}
    (hfault : (chainFault? isUnknown' chain).isSome = true) :
    (chainFault? isUnknown chain).isSome = true := by
  unfold chainFault? at hfault ⊢
  cases hsegments : chainSegments chain with
  | nil => rfl
  | cons first rest =>
    simp only [hsegments, Option.isSome_map, List.find?_isSome] at hfault ⊢
    obtain ⟨segment, hsegment, hunknown⟩ := hfault
    exact ⟨segment, hsegment, hfewer segment hunknown⟩

/-- A key with its nesting is followed and ends without success. -/
def isFlagged (services : Services) (placed : ChainKey × Nesting) : Bool :=
  (chainOutcome? services placed).any ChainOutcome.isInvalid

/-- A key is flagged if it is inside a block and something is wrong with it as a chain. -/
theorem isFlagged_iff {services : Services} {placed : ChainKey × Nesting} :
    isFlagged services placed = true ↔ placed.2.depth ≠ 0 ∧
      (chainFault? (fun name ↦ (segmentType? services.vocabulary services.changers name).isNone)
        placed.1.key).isSome = true := by
  rw [isFlagged, chainOutcome?]
  split
  · rename_i hdepth
    simp [hdepth]
  · rename_i hdepth
    rw [← Option.isSome_filter, filter_isInvalid_followChain]
    exact (and_iff_right hdepth).symm

theorem map_fst_unresolvedChains (services : Services) (placed : List (ChainKey × Nesting)) :
    (unresolvedChains services placed).map (·.1) =
      (placed.filter (isFlagged services)).map (·.1) := by
  unfold unresolvedChains
  induction placed with
  | nil => rfl
  | cons entry rest ih =>
    cases houtcome : (chainOutcome? services entry).filter ChainOutcome.isInvalid with
    | none =>
      have hflagged : isFlagged services entry = false := by
        rw [isFlagged, ← Option.isSome_filter, houtcome]
        rfl
      rw [List.filterMap_cons_none (by rw [houtcome]; rfl),
        List.filter_cons_of_neg (by simp [hflagged]), ih]
    | some outcome =>
      have hflagged : isFlagged services entry = true := by
        rw [isFlagged, ← Option.isSome_filter, houtcome]
        rfl
      rw [List.filterMap_cons_some (by rw [houtcome]; rfl), List.filter_cons_of_pos hflagged,
        List.map_cons, List.map_cons, ih]

section Richer

variable {services services' : Services}

theorem isFlagged_of_knows (hknows : ∀ name, services.Knows name → services'.Knows name)
    {placed : ChainKey × Nesting} (hflagged : isFlagged services' placed = true) :
    isFlagged services placed = true := by
  rw [isFlagged_iff] at hflagged ⊢
  obtain ⟨hdepth, hfault⟩ := hflagged
  refine ⟨hdepth, isSome_chainFault?_of_imp (fun name hunknown ↦ ?_) hfault⟩
  have hname := hknows name
  rw [Services.knows_iff, Services.knows_iff] at hname
  rw [← Option.not_isSome, Bool.not_eq_true', ← Bool.not_eq_true] at hunknown ⊢
  exact mt hname hunknown

/-- Assumes: services of which the second know all that the first know. The keys that do not resolve
by the second do not resolve by the first. -/
theorem unresolvedChains_sublist_of_knows
    (hknows : ∀ name, services.Knows name → services'.Knows name)
    (placed : List (ChainKey × Nesting)) :
    ((unresolvedChains services' placed).map (·.1)).Sublist
      ((unresolvedChains services placed).map (·.1)) := by
  rw [map_fst_unresolvedChains, map_fst_unresolvedChains]
  exact (List.monotone_filter_right placed fun _ hflagged ↦
    isFlagged_of_knows hknows hflagged).map _

end Richer

/-! ### Keys that are flagged -/

/-- The key that a diagnostic is about: the line and the column at which its span begins, and the
text that it covers. -/
def Document.flaggedKey (document : Document) (diagnostic : Diagnostic) : ChainKey :=
  ⟨document.lineMap.positionAt diagnostic.span.start,
    String.ofList (document.slice diagnostic.span)⟩

/-- Assumes: a rule on chains. It runs on every document, and flags the keys that do not resolve. -/
theorem exists_run_flaggedKeys (services : Services) (document : Document) {rule : Rule}
    (hkind : rule.kind = .chains) :
    ∃ run, rule.run services document = .ok run ∧
      run.diagnostics.map document.flaggedKey =
        (unresolvedChains services (nestedChainKeys document)).map (·.1) := by
  obtain ⟨run, hrun, hdiagnostics⟩ := Rule.exists_run_eq services document rule
  refine ⟨run, hrun, ?_⟩
  simp only [hdiagnostics, Rule.findings, hkind, List.map_map]
  refine List.map_congr_left fun unresolved hunresolved ↦ ?_
  have hposition := (standsIn_chainFinding hunresolved rule.code).positionAt
  have htext := slice_chainFinding hunresolved rule.code
  change ChainKey.mk (document.lineMap.positionAt
    ((chainFinding rule.code unresolved).span document).start)
      (String.ofList (document.slice ((chainFinding rule.code unresolved).span document))) = _
  rw [hposition, htext, String.ofList_toList]
  rfl

/-- Assumes: a rule on chains, and services of which the second know all names that the first know.
The rule runs by both, and the keys that it flags by the second are among those that it flags by the
first, in the same order. -/
theorem chains_run_flags_fewer (services services' : Services) (document : Document) (rule : Rule)
    (hkind : rule.kind = .chains)
    (hknows : ∀ name, services.Knows name → services'.Knows name) :
    ∃ run run', rule.run services document = .ok run ∧ rule.run services' document = .ok run' ∧
      (run'.diagnostics.map document.flaggedKey).Sublist
        (run.diagnostics.map document.flaggedKey) := by
  obtain ⟨run, hrun, hflagged⟩ := exists_run_flaggedKeys services document hkind
  obtain ⟨run', hrun', hflagged'⟩ := exists_run_flaggedKeys services' document hkind
  refine ⟨run, run', hrun, hrun', ?_⟩
  rw [hflagged, hflagged']
  exact unresolvedChains_sublist_of_knows hknows (nestedChainKeys document)

/-- Two keys, of which the first ends and the second begins with the same name. -/
def sharedName : Document := .ofString "a = \x7b liege.host = 1 host.b = 2"

/-- Services that know one name. -/
def liegeServices : Services where
  vocabulary := .ofKeywords [] []
  changers := .ofList [("liege", "war")]

/-- Services that know the shared name as well, and lead to other types. -/
def hostServices : Services where
  vocabulary := .ofKeywords [{ name := "liege", outputType := some "faith" }]
    [{ name := "host", outputType := some "province" }]
  changers := .empty

theorem hostServices_knows_of_liegeServices (name : String) (hname : liegeServices.Knows name) :
    hostServices.Knows name := by
  rcases hname with hchanger | hkeyword
  · obtain ⟨type, hfound⟩ := Option.isSome_iff_exists.mp hchanger
    obtain ⟨rfl, -⟩ : name = "liege" ∧ type = "war" := by
      simpa using NameTable.mem_of_find?_ofList hfound
    exact .inr (by decide +kernel)
  · exact absurd rfl hkeyword

/-- The services that know more flag only the second key, which stops at a later segment for
them. -/
theorem chains_run_flags_fewer_sharedName :
    (∀ name, liegeServices.Knows name → hostServices.Knows name) ∧
      ∃ run run', Rule.chains.run liegeServices sharedName = .ok run ∧
        Rule.chains.run hostServices sharedName = .ok run' ∧
        (run'.diagnostics.map sharedName.flaggedKey).Sublist
          (run.diagnostics.map sharedName.flaggedKey) ∧
        run.diagnostics.map sharedName.flaggedKey =
          [⟨⟨0, 6⟩, "liege.host"⟩, ⟨⟨0, 21⟩, "host.b"⟩] ∧
        run'.diagnostics.map sharedName.flaggedKey = [⟨⟨0, 21⟩, "host.b"⟩] := by
  have hpoorer : (unresolvedChains liegeServices (nestedChainKeys sharedName)).map (·.1) =
      [⟨⟨0, 6⟩, "liege.host"⟩, ⟨⟨0, 21⟩, "host.b"⟩] := by
    decide +kernel
  have hricher : (unresolvedChains hostServices (nestedChainKeys sharedName)).map (·.1) =
      [⟨⟨0, 21⟩, "host.b"⟩] := by
    decide +kernel
  obtain ⟨run, run', hrun, hrun', hsublist⟩ := chains_run_flags_fewer liegeServices hostServices
    sharedName .chains rfl hostServices_knows_of_liegeServices
  obtain ⟨poorer, hpoorerRun, hflagged⟩ :=
    exists_run_flaggedKeys liegeServices sharedName (rfl : Rule.chains.kind = .chains)
  obtain ⟨richer, hricherRun, hflagged'⟩ :=
    exists_run_flaggedKeys hostServices sharedName (rfl : Rule.chains.kind = .chains)
  obtain rfl := Except.ok.inj (hrun.symm.trans hpoorerRun)
  obtain rfl := Except.ok.inj (hrun'.symm.trans hricherRun)
  exact ⟨hostServices_knows_of_liegeServices, run, run', hrun, hrun', hsublist,
    hflagged.trans hpoorer, hflagged'.trans hricher⟩

end BlockScope
