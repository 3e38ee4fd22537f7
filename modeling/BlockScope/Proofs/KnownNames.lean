import BlockScope.Proofs.Refusal

/-!
What a check sees of its services. The rule on dotted keys tracks the type of object around each key
and follows the key through the types that its segments lead to, but types never decide anything: a
chain stops at its first segment that is not known, unless a saved reference ends it before. A check
therefore reports the same for all services that know the same names. Root types, output types and
supported types may differ, and so may the path that the root type is taken from.
-/

set_option autoImplicit false
set_option relaxedAutoImplicit false

namespace BlockScope

/-- The services know a name: it is a scope changer of chains, or a keyword with an output type. -/
def Services.Knows (services : Services) (name : String) : Prop :=
  services.changers.contains name = true ∨ services.vocabulary.outputType? name ≠ none

theorem Services.knows_iff {services : Services} {name : String} :
    services.Knows name ↔
      (segmentType? services.vocabulary services.changers name).isSome = true := by
  rw [Services.Knows, NameTable.contains, segmentType?, Option.isSome_or, Bool.or_eq_true,
    ← Option.isSome_iff_ne_none]

/-! ### Where a chain stops -/

/-- What is wrong with a chain, given the names that are not known: it has no segments, or it stops
at the first of them that is not known and does not stand behind a saved reference. -/
def chainFault? (isUnknown : String → Bool) (chain : String) : Option ChainOutcome :=
  match chainSegments chain with
  | [] => some .empty
  | segments =>
    ((segments.takeWhile fun segment ↦ !isScopeReference segment).find? isUnknown).map .stopsAt

section Fault

variable (vocabulary : Vocabulary) (changers : NameTable ObjectType)

theorem filter_isInvalid_followSegments (segments : List String) :
    ∀ start : ObjectType,
      (some (followSegments vocabulary changers start segments)).filter ChainOutcome.isInvalid =
        ((segments.takeWhile fun segment ↦ !isScopeReference segment).find?
          fun name ↦ (segmentType? vocabulary changers name).isNone).map .stopsAt := by
  induction segments with
  | nil =>
    intro start
    rfl
  | cons segment rest ih =>
    intro start
    rw [followSegments]
    by_cases hreference : isScopeReference segment = true
    · rw [if_pos hreference, List.takeWhile_cons_of_neg (by simp [hreference])]
      rfl
    · rw [if_neg hreference, List.takeWhile_cons_of_pos (by simp [hreference])]
      cases htype : segmentType? vocabulary changers segment with
      | none =>
        rw [List.find?_cons_of_pos (by simp [htype])]
        rfl
      | some type =>
        -- The type is what the rest is followed from, and that makes no difference.
        rw [List.find?_cons_of_neg (by simp [htype])]
        exact ih type

/-- Following a chain ends without success exactly if something is wrong with it. The type from
which it is followed does not count. -/
theorem filter_isInvalid_followChain (chain : String) (start : ObjectType) :
    (some (followChain vocabulary changers chain start)).filter ChainOutcome.isInvalid =
      chainFault? (fun name ↦ (segmentType? vocabulary changers name).isNone) chain := by
  rw [followChain, chainFault?]
  cases chainSegments chain with
  | nil => rfl
  | cons first rest => exact filter_isInvalid_followSegments vocabulary changers _ start

/-- Following a chain from one type ends without success where following it from another does. -/
theorem followChain_start (chain : String) (start start' : ObjectType) :
    (followChain vocabulary changers chain start).isValid =
        (followChain vocabulary changers chain start').isValid ∧
      (followChain vocabulary changers chain start).invalidSegment? =
        (followChain vocabulary changers chain start').invalidSegment? := by
  have hvalid : ∀ outcome : ChainOutcome,
      outcome.isValid = ((some outcome).filter ChainOutcome.isInvalid).isNone := by
    intro outcome
    cases outcome <;> rfl
  have hsegment : ∀ outcome : ChainOutcome, outcome.invalidSegment? =
      ((some outcome).filter ChainOutcome.isInvalid).bind ChainOutcome.invalidSegment? := by
    intro outcome
    cases outcome <;> rfl
  rw [hvalid, hvalid (followChain _ _ _ start'), hsegment, hsegment (followChain _ _ _ start'),
    filter_isInvalid_followChain, filter_isInvalid_followChain]
  exact ⟨rfl, rfl⟩

end Fault

/-! ### The same names, the same findings -/

section SameNames

variable {services services' : Services}

theorem unresolvedChains_eq_of_knows
    (hnames : ∀ name, services.Knows name ↔ services'.Knows name)
    (placed : List (ChainKey × Nesting)) :
    unresolvedChains services placed = unresolvedChains services' placed := by
  have hunknown : (fun name ↦ (segmentType? services.vocabulary services.changers name).isNone) =
      fun name ↦ (segmentType? services'.vocabulary services'.changers name).isNone := by
    funext name
    have hname := hnames name
    rw [Services.knows_iff, Services.knows_iff, Bool.coe_iff_coe] at hname
    rw [← Option.not_isSome, ← Option.not_isSome, hname]
  have hfaults : ∀ entry, (chainOutcome? services entry).filter ChainOutcome.isInvalid =
      (chainOutcome? services' entry).filter ChainOutcome.isInvalid := by
    intro entry
    rw [chainOutcome?, chainOutcome?]
    split
    · rfl
    · rw [filter_isInvalid_followChain, filter_isInvalid_followChain, hunknown]
  simp only [unresolvedChains, hfaults]

theorem findingsOf_eq_of_knows (hnames : ∀ name, services.Knows name ↔ services'.Knows name)
    (document : Document) (rules : List Rule) :
    findingsOf services document rules = findingsOf services' document rules := by
  refine List.flatMap_congr fun rule _ ↦ ?_
  simp only [Rule.findings, unresolvedChains_eq_of_knows hnames]

end SameNames

/-! ### Other types -/

/-- The table with each value changed, by its name. -/
def NameTable.mapValues {α β : Type} (change : String → α → β) (table : NameTable α) :
    NameTable β :=
  ⟨table.entries.map fun entry ↦ (entry.1, change entry.1 entry.2)⟩

theorem NameTable.find?_mapValues {α β : Type} (change : String → α → β) (table : NameTable α)
    (name : String) :
    (table.mapValues change).find? name = (table.find? name).map (change name) := by
  rw [find?, find?, mapValues]
  induction table.entries with
  | nil => rfl
  | cons entry rest ih =>
    obtain ⟨key, value⟩ := entry
    rw [List.map_cons, List.lookup_cons, List.lookup_cons, ih]
    by_cases hkey : name = key
    · simp [hkey]
    · have hbeq : (name == key) = false := by simp [hkey]
      simp [hbeq]

/-- The services with the same names and other types: another root, other types that the names lead
to, and other types that support the keywords. -/
def Services.retyped (services : Services) (root : ObjectType)
    (output : String → ObjectType → ObjectType) (supported : String → List ObjectType) :
    Services :=
  let retype := fun name (keyword : Keyword) ↦
    { keyword with
      outputType := keyword.outputType.map (output name)
      supportedTypes := supported name }
  { vocabulary :=
      { conditions := services.vocabulary.conditions.mapValues retype
        actions := services.vocabulary.actions.mapValues retype }
    changers := services.changers.mapValues output
    root }

theorem Services.knows_retyped_iff (services : Services) (root : ObjectType)
    (output : String → ObjectType → ObjectType) (supported : String → List ObjectType)
    (name : String) :
    services.Knows name ↔ (services.retyped root output supported).Knows name := by
  have hchangers : (services.retyped root output supported).changers.contains name =
      services.changers.contains name := by
    simp [retyped, NameTable.contains, NameTable.find?_mapValues]
  have hvocabulary : (services.retyped root output supported).vocabulary.outputType? name =
      (services.vocabulary.outputType? name).map (output name) := by
    simp only [retyped, Vocabulary.outputType?, Vocabulary.conditionOutput?,
      Vocabulary.actionOutput?, NameTable.find?_mapValues]
    cases services.vocabulary.conditions.find? name <;>
      cases services.vocabulary.actions.find? name <;> simp [Option.map_or]
  rw [Services.Knows, Services.Knows, hchangers, hvocabulary, ne_eq, ne_eq, Option.map_eq_none_iff]

/-! ### The same reports -/

/-- Two checks return reports with the same diagnostics. -/
def SameDiagnostics (first second : Except CheckError CheckReport) : Prop :=
  ∃ report report', first = .ok report ∧ second = .ok report' ∧
    report.diagnostics = report'.diagnostics

theorem sameDiagnostics_of_knows {services services' : Option Services} {path path' : Option String}
    {chosen chosen' : Services} {rules : List Rule} (document : Document)
    (hservices : chooseServices services path = .ok chosen)
    (hservices' : chooseServices services' path' = .ok chosen')
    (hnames : ∀ name, chosen.Knows name ↔ chosen'.Knows name) (hrules : Rule.Acceptable rules) :
    SameDiagnostics (checkDocument document services path rules)
      (checkDocument document services' path' rules) := by
  have hvalid := Rule.validate_eq_ok_iff.mpr hrules
  obtain ⟨report, hreport, hdiagnostics⟩ := exists_checkDocument_eq document hservices hvalid
  obtain ⟨report', hreport', hdiagnostics'⟩ := exists_checkDocument_eq document hservices' hvalid
  refine ⟨report, report', hreport, hreport', ?_⟩
  rw [hdiagnostics, hdiagnostics', findingsOf_eq_of_knows hnames]

/-- A check of a document by rules sees only the names that its services know. -/
structure SeesOnlyNames (document : Document) (rules : List Rule) : Prop where
  names : ∀ services services' : Services,
    (∀ name, services.Knows name ↔ services'.Knows name) →
      SameDiagnostics (checkDocument document (some services) none rules)
        (checkDocument document (some services') none rules)
  types : ∀ (services : Services) root output supported,
    SameDiagnostics (checkDocument document (some services) none rules)
      (checkDocument document (some (services.retyped root output supported)) none rules)
  path : ∀ path, SameDiagnostics (checkDocument document none (some path) rules)
    (checkDocument document none none rules)
  /-- The type that is tracked at a key, from which its chain is followed, makes no difference. -/
  tracked : ∀ vocabulary changers chain start start',
    (followChain vocabulary changers chain start).isValid =
        (followChain vocabulary changers chain start').isValid ∧
      (followChain vocabulary changers chain start).invalidSegment? =
        (followChain vocabulary changers chain start').invalidSegment?

/-- Assumes: rules that are accepted. A check by them sees only the names that are known. -/
theorem checkDocument_sees_only_names (document : Document) (rules : List Rule)
    (hrules : Rule.Acceptable rules) : SeesOnlyNames document rules where
  names _ _ hnames := sameDiagnostics_of_knows document rfl rfl hnames hrules
  types services root output supported :=
    sameDiagnostics_of_knows document rfl rfl
      (services.knows_retyped_iff root output supported) hrules
  path _ := sameDiagnostics_of_knows document rfl rfl (fun _ ↦ Iff.rfl) hrules
  tracked := followChain_start

/-- A key that is known from its beginning to its end, and one that is not. -/
def knownAndUnknown : Document := .ofString "a = \x7b liege.host = 1 liege.b = 2"

/-- The built-in services with the root at a war, and with all names leading to provinces. -/
def provincialServices : Services :=
  ({} : Services).retyped "war" (fun _ _ ↦ "province") fun _ ↦ ["faith"]

/-- Only the key that is not known and the open block are reported, by both services. -/
theorem checkDocument_sees_only_names_provincialServices :
    Rule.Acceptable Rule.defaults ∧
      (∀ name, Services.Knows {} name ↔ provincialServices.Knows name) ∧
      ∃ report report', checkDocument knownAndUnknown (some {}) none Rule.defaults = .ok report ∧
        checkDocument knownAndUnknown (some provincialServices) none Rule.defaults = .ok report' ∧
        report.diagnostics = report'.diagnostics ∧ report.diagnostics.length = 2 := by
  have hrules := Rule.validate_eq_ok_iff.mp Rule.validate_defaults
  have hnames : ∀ name, Services.Knows {} name ↔ provincialServices.Knows name :=
    Services.knows_retyped_iff _ _ _ _
  have hcount : (findingsOf {} knownAndUnknown Rule.defaults).length = 2 := by
    rw [Rule.defaults_eq]
    decide +kernel
  obtain ⟨report, report', hreport, hreport', hsame⟩ :=
    (checkDocument_sees_only_names knownAndUnknown Rule.defaults hrules).names _ _ hnames
  refine ⟨hrules, hnames, report, report', hreport, hreport', hsame, ?_⟩
  rw [diagnostics_of_checkDocument rfl hreport, Diagnostic.sort, List.length_mergeSort,
    List.length_map, hcount]

end BlockScope
