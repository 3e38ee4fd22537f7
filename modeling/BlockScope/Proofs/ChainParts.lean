import BlockScope.Proofs.ChainSegments

/-!
Chains in parts. Of the way that a chain has been followed so far, only the type that it has led to
counts for the rest. A chain with a dot in it is therefore followed by following the part before the
dot and then, from where that leads, the part behind it. Two things keep the second part from being
looked at: a segment of the first that does not change the scope, at which the whole chain stops,
and a saved reference in the first, with which the whole chain ends.
-/

set_option autoImplicit false
set_option relaxedAutoImplicit false

namespace BlockScope

/-! ### Segments in two parts -/

namespace ChainOutcome

/-- Goes on from the type that has been reached, if there is one. -/
def andThen (outcome : ChainOutcome) (next : ObjectType → ChainOutcome) : ChainOutcome :=
  match outcome with
  | reaches type => next type
  | stopsAt segment => stopsAt segment
  | empty => empty

variable {outcome : ChainOutcome} {next : ObjectType → ChainOutcome}

theorem exists_reaches_of_isValid (hvalid : outcome.isValid = true) :
    ∃ type, outcome = .reaches type := by
  cases outcome with
  | reaches type => exact ⟨type, rfl⟩
  | stopsAt segment => contradiction
  | empty => contradiction

theorem andThen_of_invalid (hinvalid : outcome.isValid = false) :
    outcome.andThen next = outcome := by
  cases outcome with
  | reaches type => contradiction
  | stopsAt segment => rfl
  | empty => rfl

theorem andThen_eq_reaches_iff {type : ObjectType} :
    outcome.andThen next = .reaches type ↔
      ∃ current, outcome = .reaches current ∧ next current = .reaches type := by
  cases outcome <;> simp [andThen]

end ChainOutcome

section Segments

variable {vocabulary : Vocabulary} {changers : NameTable ObjectType} {segment : String}
  {first plain segments : List String}

theorem followSegments_of_reference (hreference : isScopeReference segment = true)
    (start : ObjectType) (rest : List String) :
    followSegments vocabulary changers start (segment :: rest) = .reaches .character := by
  rw [followSegments, if_pos hreference]

theorem followSegments_of_plain (hplain : isScopeReference segment = false) (start : ObjectType)
    (rest : List String) :
    followSegments vocabulary changers start (segment :: rest) =
      (segmentType? vocabulary changers segment).elim (.stopsAt segment) fun type ↦
        followSegments vocabulary changers type rest := by
  rw [followSegments, if_neg (by simp [hplain])]
  cases segmentType? vocabulary changers segment <;> rfl

/-- Assumes: segments without a saved reference. What is behind them is followed from the type to
which they lead. -/
theorem followSegments_append (hplain : ∀ segment ∈ first, isScopeReference segment = false)
    (second : List String) :
    ∀ start : ObjectType, followSegments vocabulary changers start (first ++ second) =
      (followSegments vocabulary changers start first).andThen fun type ↦
        followSegments vocabulary changers type second := by
  induction first with
  | nil =>
    intro start
    rfl
  | cons segment rest ih =>
    intro start
    obtain ⟨hsegment, hrest⟩ := List.forall_mem_cons.mp hplain
    rw [List.cons_append, followSegments_of_plain hsegment, followSegments_of_plain hsegment]
    cases segmentType? vocabulary changers segment with
    | none => rfl
    | some type => exact ih hrest type

/-- Segments with a saved reference fall into those before the first one, which is all that counts
of them, and those behind it. -/
theorem exists_split_at_reference
    (hreference : ∃ segment ∈ segments, isScopeReference segment = true) :
    ∃ plain reference later, segments = plain ++ reference :: later ∧
      isScopeReference reference = true ∧
      ∀ segment ∈ plain, isScopeReference segment = false := by
  obtain ⟨reference, hfound⟩ := Option.isSome_iff_exists.mp (List.find?_isSome.mpr hreference)
  obtain ⟨hmark, plain, later, hsplit, hplain⟩ := List.find?_eq_some_iff_append.mp hfound
  refine ⟨plain, reference, later, hsplit, hmark, fun segment hsegment ↦ ?_⟩
  simpa using hplain segment hsegment

theorem followSegments_through_reference {reference : String}
    (hplain : ∀ segment ∈ plain, isScopeReference segment = false)
    (hreference : isScopeReference reference = true) (later : List String) (start : ObjectType) :
    followSegments vocabulary changers start (plain ++ reference :: later) =
      (followSegments vocabulary changers start plain).andThen fun _ ↦ .reaches .character := by
  rw [followSegments_append hplain]
  congr 1
  funext type
  exact followSegments_of_reference hreference type later

/-- Nothing behind a saved reference is looked at. -/
theorem followSegments_append_of_reference
    (hreference : ∃ segment ∈ first, isScopeReference segment = true) (second : List String)
    (start : ObjectType) :
    followSegments vocabulary changers start (first ++ second) =
      followSegments vocabulary changers start first := by
  obtain ⟨plain, reference, later, rfl, hmark, hplain⟩ := exists_split_at_reference hreference
  rw [List.append_assoc, List.cons_append, followSegments_through_reference hplain hmark,
    followSegments_through_reference hplain hmark]

theorem followSegments_eq_of_reference
    (hreference : ∃ segment ∈ segments, isScopeReference segment = true) {start : ObjectType}
    (hvalid : (followSegments vocabulary changers start segments).isValid = true) :
    followSegments vocabulary changers start segments = .reaches .character := by
  obtain ⟨plain, reference, later, rfl, hmark, hplain⟩ := exists_split_at_reference hreference
  obtain ⟨type, hreaches⟩ := ChainOutcome.exists_reaches_of_isValid hvalid
  rw [followSegments_through_reference hplain hmark] at hreaches ⊢
  obtain ⟨current, hcurrent, -⟩ := ChainOutcome.andThen_eq_reaches_iff.mp hreaches
  exact ChainOutcome.andThen_eq_reaches_iff.mpr ⟨current, hcurrent, rfl⟩

/-- Segments that stop are not helped by more of them. -/
theorem followSegments_append_of_invalid {start : ObjectType}
    (hinvalid : (followSegments vocabulary changers start first).isValid = false)
    (second : List String) :
    followSegments vocabulary changers start (first ++ second) =
      followSegments vocabulary changers start first := by
  by_cases hreference : ∃ segment ∈ first, isScopeReference segment = true
  · exact followSegments_append_of_reference hreference second start
  · have hplain : ∀ segment ∈ first, isScopeReference segment = false := by
      simpa using hreference
    rw [followSegments_append hplain, ChainOutcome.andThen_of_invalid hinvalid]

theorem followSegments_ne_empty (segments : List String) :
    ∀ start : ObjectType, followSegments vocabulary changers start segments ≠ .empty := by
  induction segments with
  | nil =>
    intro start
    exact ChainOutcome.noConfusion
  | cons segment rest ih =>
    intro start
    cases hreference : isScopeReference segment with
    | true =>
      rw [followSegments_of_reference hreference]
      exact ChainOutcome.noConfusion
    | false =>
      rw [followSegments_of_plain hreference]
      cases segmentType? vocabulary changers segment with
      | none => exact ChainOutcome.noConfusion
      | some type => exact ih type

end Segments

/-! ### Chains in two parts -/

section Chains

variable {vocabulary : Vocabulary} {changers : NameTable ObjectType} {chain : String}

theorem followChain_of_nil (hsegments : chainSegments chain = []) (start : ObjectType) :
    followChain vocabulary changers chain start = .empty := by
  rw [followChain, hsegments]

theorem followChain_of_ne_nil (hsegments : chainSegments chain ≠ []) (start : ObjectType) :
    followChain vocabulary changers chain start =
      followSegments vocabulary changers start (chainSegments chain) := by
  obtain ⟨segment, rest, hchain⟩ := List.exists_cons_of_ne_nil hsegments
  rw [followChain, hchain]

/-- Only a chain without segments ends as an empty one. -/
theorem followChain_eq_empty_iff {start : ObjectType} :
    followChain vocabulary changers chain start = .empty ↔ chainSegments chain = [] := by
  constructor
  · cases hsegments : chainSegments chain with
    | nil => exact fun _ ↦ rfl
    | cons segment rest =>
      intro hempty
      rw [followChain_of_ne_nil (by simp [hsegments])] at hempty
      exact absurd hempty (followSegments_ne_empty _ start)
  · intro hsegments
    exact followChain_of_nil hsegments start

theorem chainSegments_ne_nil_of_isValid {start : ObjectType}
    (hvalid : (followChain vocabulary changers chain start).isValid = true) :
    chainSegments chain ≠ [] := by
  intro hsegments
  rw [followChain_of_nil hsegments] at hvalid
  contradiction

end Chains

/-- How two chains with a dot between them are followed from a type, by how each of them is. -/
structure FollowedInParts (vocabulary : Vocabulary) (changers : NameTable ObjectType)
    (first second : String) (start : ObjectType) : Prop where
  emptyFirst : chainSegments first = [] →
    followChain vocabulary changers (first ++ "." ++ second) start =
      followChain vocabulary changers second start
  emptySecond : chainSegments second = [] →
    followChain vocabulary changers (first ++ "." ++ second) start =
      followChain vocabulary changers first start
  /-- Where the first chain stops, the whole one does. -/
  stopped : chainSegments first ≠ [] →
    (followChain vocabulary changers first start).isValid = false →
      followChain vocabulary changers (first ++ "." ++ second) start =
        followChain vocabulary changers first start
  /-- With a saved reference in the first chain, the whole one ends. -/
  referred : (∃ segment ∈ chainSegments first, isScopeReference segment = true) →
    (followChain vocabulary changers first start).isValid = true →
      followChain vocabulary changers first start = .reaches .character ∧
        followChain vocabulary changers (first ++ "." ++ second) start =
          followChain vocabulary changers first start
  /-- In all other cases the second chain is followed from the type to which the first leads. -/
  continued : (∀ segment ∈ chainSegments first, isScopeReference segment = false) →
    chainSegments second ≠ [] → ∀ type,
      followChain vocabulary changers first start = .reaches type →
        followChain vocabulary changers (first ++ "." ++ second) start =
          followChain vocabulary changers second type

/-- Assumes: a first chain that has segments. The whole one is followed by the segments of both. -/
theorem followChain_append_dot {vocabulary : Vocabulary} {changers : NameTable ObjectType}
    {first : String} (hfirst : chainSegments first ≠ []) (second : String) (start : ObjectType) :
    followChain vocabulary changers (first ++ "." ++ second) start =
      followSegments vocabulary changers start (chainSegments first ++ chainSegments second) := by
  rw [← chainSegments_append_dot, followChain_of_ne_nil]
  rw [chainSegments_append_dot]
  exact List.append_ne_nil_of_left_ne_nil hfirst _

theorem followedInParts (vocabulary : Vocabulary) (changers : NameTable ObjectType)
    (first second : String) (start : ObjectType) :
    FollowedInParts vocabulary changers first second start where
  emptyFirst hfirst := by
    rw [followChain, followChain, chainSegments_append_dot, hfirst, List.nil_append]
  emptySecond hsecond := by
    rw [followChain, followChain, chainSegments_append_dot, hsecond, List.append_nil]
  stopped hfirst hinvalid := by
    rw [followChain_of_ne_nil hfirst] at hinvalid ⊢
    rw [followChain_append_dot hfirst, followSegments_append_of_invalid hinvalid]
  referred hreference hvalid := by
    have hfirst : chainSegments first ≠ [] := by
      obtain ⟨segment, hsegment, -⟩ := hreference
      exact List.ne_nil_of_mem hsegment
    rw [followChain_of_ne_nil hfirst] at hvalid ⊢
    rw [followChain_append_dot hfirst]
    exact ⟨followSegments_eq_of_reference hreference hvalid,
      followSegments_append_of_reference hreference _ start⟩
  continued hplain hsecond type hreaches := by
    have hfirst : chainSegments first ≠ [] :=
      chainSegments_ne_nil_of_isValid (congrArg ChainOutcome.isValid hreaches)
    rw [followChain_of_ne_nil hfirst] at hreaches
    rw [followChain_append_dot hfirst, followSegments_append hplain, hreaches,
      followChain_of_ne_nil hsecond]
    rfl

/-- A chain is followed in the parts between its dots, whatever its segments and the tables are. And
each outcome tells whether the chain is valid in two more ways: it has a type exactly if the chain
is valid, and it names a segment exactly if the chain has segments and is not valid. -/
theorem followChain_composes (vocabulary : Vocabulary) (changers : NameTable ObjectType) :
    (∀ first second start, FollowedInParts vocabulary changers first second start) ∧
      ∀ chain start,
        ((followChain vocabulary changers chain start).finalType? = none ↔
          (followChain vocabulary changers chain start).isValid = false) ∧
        ((followChain vocabulary changers chain start).invalidSegment? = none ↔
          (followChain vocabulary changers chain start).isValid = true ∨
            chainSegments chain = []) := by
  refine ⟨followedInParts vocabulary changers, fun chain start ↦ ?_⟩
  rw [← @followChain_eq_empty_iff vocabulary changers chain start]
  cases followChain vocabulary changers chain start <;>
    simp [ChainOutcome.finalType?, ChainOutcome.isValid, ChainOutcome.invalidSegment?]

/-- A small vocabulary. Of a name that it has twice the condition counts. -/
def neighbourhood : Vocabulary :=
  .ofKeywords [{ name := "neighbour", outputType := some "place" }, { name := "limit" }]
    [{ name := "neighbour", outputType := some "group" },
      { name := "member", outputType := some "person" }]

/-- A table of chains that has some of its names. -/
def neighbours : NameTable ObjectType := .ofList [("neighbour", "place")]

/-- Chains that begin or end with dots, or with the mark of a reference, joined in each of the five
ways. -/
theorem followChain_composes_dottedEnds :
    followChain neighbourhood neighbours ("." ++ "." ++ ".member") "war" = .reaches "person" ∧
      followChain neighbourhood neighbours ("member." ++ "." ++ ".") "war" = .reaches "person" ∧
      followChain neighbourhood neighbours ("scope:" ++ "." ++ "member") "war" =
        .stopsAt "scope:" ∧
      followChain neighbourhood neighbours ("member.scope:a" ++ "." ++ "limit") "war" =
        .reaches "character" ∧
      followChain neighbourhood neighbours ("member." ++ "." ++ ".neighbour") "war" =
        .reaches "place" := by
  have hparts := (followChain_composes neighbourhood neighbours).1
  refine ⟨?_, ?_, ?_, ?_, ?_⟩
  · exact ((hparts _ _ _).emptyFirst (by decide +kernel)).trans (by decide +kernel)
  · exact ((hparts _ _ _).emptySecond (by decide +kernel)).trans (by decide +kernel)
  · exact ((hparts _ _ _).stopped (by decide +kernel) (by decide +kernel)).trans
      (by decide +kernel)
  · obtain ⟨hcharacter, hwhole⟩ := (hparts "member.scope:a" "limit" "war").referred
      (by decide +kernel) (by decide +kernel)
    exact hwhole.trans hcharacter
  · exact ((hparts _ _ _).continued (by decide +kernel) (by decide +kernel) "person"
      (by decide +kernel)).trans (by decide +kernel)

end BlockScope
