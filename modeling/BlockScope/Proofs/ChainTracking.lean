import BlockScope.Proofs.ChainParts

/-!
Chains and nested blocks. The same names can be written as blocks inside each other or as a chain
with dots, and both are meant to lead to the same type. Either way the last name decides: a chain
that is valid leads where its last segment does, and tracking gives the output type of the last
name or, if it has none, the type around it. The two therefore agree where the table of chains and
the vocabulary say the same of the last name. But tracking does not look into the table of chains,
and most of the names in the built-in one have no output type in the built-in vocabulary. Such a
name changes the scope as the end of a chain and leaves it as it is as the innermost block.
-/

set_option autoImplicit false
set_option relaxedAutoImplicit false

namespace BlockScope

/-! ### The last name decides -/

section Last

variable {vocabulary : Vocabulary} {changers : NameTable ObjectType} {names : List String}
  {start type : ObjectType}

/-- Assumes: names without a saved reference that lead to a type. The last of them leads there. -/
theorem segmentType?_getLast (hne : names ≠ [])
    (hplain : ∀ name ∈ names, isScopeReference name = false)
    (hreaches : followSegments vocabulary changers start names = .reaches type) :
    segmentType? vocabulary changers (names.getLast hne) = some type := by
  have hearlier : ∀ name ∈ names.dropLast, isScopeReference name = false :=
    fun name hname ↦ hplain name (List.dropLast_subset names hname)
  have hlast := hplain _ (List.getLast_mem hne)
  rw [← List.dropLast_concat_getLast hne, followSegments_append hearlier] at hreaches
  obtain ⟨current, -, hend⟩ := ChainOutcome.andThen_eq_reaches_iff.mp hreaches
  rw [followSegments_of_plain hlast] at hend
  cases htype : segmentType? vocabulary changers (names.getLast hne) with
  | none =>
    rw [htype] at hend
    contradiction
  | some reached =>
    rw [htype] at hend
    exact congrArg some (ChainOutcome.reaches.inj hend)

/-- Assumes: a last name that is neither a saved reference nor a number. -/
theorem trackScope_getLast (hne : names ≠ [])
    (hreference : isScopeReference (names.getLast hne) = false)
    (hnumber : isNumericName (names.getLast hne) = false) :
    trackScope vocabulary names start =
      (vocabulary.outputType? (names.getLast hne)).getD
        (trackScope vocabulary names.dropLast start) := by
  have hconcat : trackScope vocabulary (names.dropLast ++ [names.getLast hne]) start =
      trackName vocabulary (trackScope vocabulary names.dropLast start) (names.getLast hne) :=
    List.foldl_append
  rw [List.dropLast_concat_getLast, trackName] at hconcat
  simpa [hreference, hnumber] using hconcat

/-- Assumes: a name to which the vocabulary gives the type of the table of chains, if that has it.
The vocabulary gives it the type to which it leads in a chain. -/
theorem outputType?_of_segmentType? {name : String}
    (hagree : ∀ held, changers.find? name = some held → vocabulary.outputType? name = some held)
    (htype : segmentType? vocabulary changers name = some type) :
    vocabulary.outputType? name = some type := by
  rw [segmentType?] at htype
  cases hheld : changers.find? name with
  | none => simpa [hheld] using htype
  | some held =>
    obtain rfl : held = type := by simpa [hheld] using htype
    exact hagree held hheld

/-- Assumes: names that are neither saved references nor numbers, and tables that say the same of
the last one. If they are followed to a type, tracking them gives the same type. -/
theorem finalType?_followSegments (hne : names ≠ [])
    (hplain : ∀ name ∈ names, isScopeReference name = false ∧ isNumericName name = false)
    (hagree : ∀ held, changers.find? (names.getLast hne) = some held →
      vocabulary.outputType? (names.getLast hne) = some held)
    (hvalid : (followSegments vocabulary changers start names).isValid = true) :
    (followSegments vocabulary changers start names).finalType? =
      some (trackScope vocabulary names start) := by
  obtain ⟨hreference, hnumber⟩ := hplain _ (List.getLast_mem hne)
  obtain ⟨type, hreaches⟩ := ChainOutcome.exists_reaches_of_isValid hvalid
  have hlast := segmentType?_getLast hne (fun name hname ↦ (hplain name hname).1) hreaches
  rw [hreaches, trackScope_getLast hne hreference hnumber,
    outputType?_of_segmentType? hagree hlast]
  rfl

end Last

/-! ### Tables that agree -/

/-- Assumes: a table of chains whose names all have the same types in the vocabulary, and a chain
none of whose segments is a saved reference or a number. If the chain is valid, its type is the one
that tracking gives for its segments. -/
theorem followChain_agrees_with_tracking (vocabulary : Vocabulary)
    (changers : NameTable ObjectType)
    (hagree : ∀ name type, changers.find? name = some type →
      vocabulary.outputType? name = some type)
    (chain : String) (start : ObjectType)
    (hplain : ∀ segment ∈ chainSegments chain,
      isScopeReference segment = false ∧ isNumericName segment = false)
    (hvalid : (followChain vocabulary changers chain start).isValid = true) :
    (followChain vocabulary changers chain start).finalType? =
      some (trackScope vocabulary (chainSegments chain) start) := by
  have hne := chainSegments_ne_nil_of_isValid hvalid
  rw [followChain_of_ne_nil hne] at hvalid ⊢
  exact finalType?_followSegments hne hplain (hagree _) hvalid

/-- A chain whose first segment only the vocabulary has, and whose last one both tables have. -/
theorem followChain_agrees_with_tracking_neighbours :
    followChain neighbourhood neighbours "member..neighbour" "war" = .reaches "place" ∧
      trackScope neighbourhood ["member", "neighbour"] "war" = "place" := by
  have hagree : ∀ name type, neighbours.find? name = some type →
      neighbourhood.outputType? name = some type := by
    intro name type hfound
    obtain ⟨rfl, rfl⟩ : name = "neighbour" ∧ type = "place" := by
      simpa using NameTable.mem_of_find?_ofList hfound
    decide +kernel
  have hreaches : followChain neighbourhood neighbours "member..neighbour" "war" =
      .reaches "place" := by
    decide +kernel
  have hsegments : chainSegments "member..neighbour" = ["member", "neighbour"] := by
    decide +kernel
  have hfinal := followChain_agrees_with_tracking neighbourhood neighbours hagree
    "member..neighbour" "war" (by decide +kernel) (by rw [hreaches]; rfl)
  rw [hreaches, hsegments] at hfinal
  exact ⟨hreaches, (Option.some.inj hfinal).symm⟩

/-! ### The built-in tables -/

/-- The built-in tables never give a name two different types. -/
theorem outputType?_builtin_of_find? {name : String} {type : ObjectType}
    (hfound : scopeChangers.find? name = some type)
    (hoffered : Vocabulary.builtin.outputType? name ≠ none) :
    Vocabulary.builtin.outputType? name = some type := by
  have htables : ∀ entry ∈ Builtin.scopeChangerList,
      Vocabulary.builtin.outputType? entry.1 = none ∨
        Vocabulary.builtin.outputType? entry.1 = some entry.2 := by
    decide +kernel
  exact (htables _ (NameTable.mem_of_find?_ofList hfound)).resolve_left hoffered

/-- A built-in name that changes the scope in chains but not as a block. -/
def IsChainOnly (name : String) : Prop :=
  scopeChangers.contains name = true ∧ Vocabulary.builtin.outputType? name = none

instance (name : String) : Decidable (IsChainOnly name) := inferInstanceAs (Decidable (_ ∧ _))

theorem followChain_intercalate {names : List String} (hne : names ≠ [])
    (hnames : ∀ name ∈ names, name ≠ "" ∧ '.' ∉ name.toList) (vocabulary : Vocabulary)
    (changers : NameTable ObjectType) (start : ObjectType) :
    followChain vocabulary changers (".".intercalate names) start =
      followSegments vocabulary changers start names := by
  have hsegments := chainSegments_intercalate hnames
  rw [followChain_of_ne_nil (by rwa [hsegments]), hsegments]

/-- Assumes: names that are not empty and have no dot, none of them a saved reference or a number,
and that are a valid chain by the built-in tables. Unless the last name only counts in chains,
tracking the names as blocks gives the type of the chain. If it does, the chain leads where the
table of chains says, and the block makes no difference to the type around it. -/
theorem trackScope_builtin_unless_chainOnly (names : List String) (start : ObjectType)
    (hne : names ≠ []) (hnames : ∀ name ∈ names, name ≠ "" ∧ '.' ∉ name.toList)
    (hplain : ∀ name ∈ names, isScopeReference name = false ∧ isNumericName name = false)
    (hvalid :
      (followChain .builtin scopeChangers (".".intercalate names) start).isValid = true) :
    (¬ IsChainOnly (names.getLast hne) →
      (followChain .builtin scopeChangers (".".intercalate names) start).finalType? =
        some (trackScope .builtin names start)) ∧
    (IsChainOnly (names.getLast hne) →
      (followChain .builtin scopeChangers (".".intercalate names) start).finalType? =
          scopeChangers.find? (names.getLast hne) ∧
        trackScope .builtin names start = trackScope .builtin names.dropLast start) := by
  rw [followChain_intercalate hne hnames] at hvalid ⊢
  constructor
  · intro hboth
    refine finalType?_followSegments hne hplain (fun held hheld ↦ ?_) hvalid
    refine outputType?_builtin_of_find? hheld fun hnone ↦ hboth ⟨?_, hnone⟩
    rw [NameTable.contains, hheld]
    rfl
  · intro honly
    obtain ⟨hreference, hnumber⟩ := hplain _ (List.getLast_mem hne)
    obtain ⟨type, hreaches⟩ := ChainOutcome.exists_reaches_of_isValid hvalid
    have hlast := segmentType?_getLast hne (fun name hname ↦ (hplain name hname).1) hreaches
    rw [segmentType?, honly.2, Option.or_none] at hlast
    rw [hreaches, hlast, trackScope_getLast hne hreference hnumber, honly.2]
    exact ⟨rfl, rfl⟩

/-- As a chain `location` leads from a character to a province, as a block it stays with the
character. -/
theorem trackScope_builtin_misses_location :
    (∀ name ∈ ["location"], name ≠ "" ∧ '.' ∉ name.toList) ∧
      (∀ name ∈ ["location"], isScopeReference name = false ∧ isNumericName name = false) ∧
      followChain .builtin scopeChangers (".".intercalate ["location"]) "character" =
        .reaches "province" ∧
      trackScope .builtin ["location"] "character" = "character" := by
  decide +kernel

/-- Names that only count in chains do no harm before the last one. -/
theorem trackScope_builtin_unless_chainOnly_inside :
    IsChainOnly "location" ∧ ¬ IsChainOnly "county" ∧
      followChain .builtin scopeChangers (".".intercalate ["location", "county"]) "character" =
        .reaches "landed_title" ∧
      trackScope .builtin ["location", "county"] "character" = "landed_title" ∧
      trackScope .builtin ["county", "location"] "character" = "landed_title" := by
  have honly : IsChainOnly "location" := by decide +kernel
  have hboth : ¬ IsChainOnly "county" := by decide +kernel
  have hreaches : followChain .builtin scopeChangers (".".intercalate ["location", "county"])
      "character" = .reaches "landed_title" := by
    decide +kernel
  have hagrees := (trackScope_builtin_unless_chainOnly ["location", "county"] "character"
    (by simp) (by decide +kernel) (by decide +kernel) (by rw [hreaches]; rfl)).1 hboth
  have hstays := (trackScope_builtin_unless_chainOnly ["county", "location"] "character"
    (by simp) (by decide +kernel) (by decide +kernel) (by decide +kernel)).2 honly
  rw [hreaches] at hagrees
  refine ⟨honly, hboth, hreaches, (Option.some.inj hagrees).symm, hstays.2.trans ?_⟩
  decide +kernel

end BlockScope
