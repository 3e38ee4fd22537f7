import BlockScope.Scope.Track

/-!
Which name of a path decides the tracked type. A name is effective if it is a saved reference, or
if it is not a number and a keyword gives it an output type. Of several keywords with one name only
the last counts, so one without an output type hides an earlier one that has it; but a condition
without an output type does not hide an action. Tracking gives the type of the last effective name
of the path, whatever stands before it, and the type at the root where no name is effective.
-/

set_option autoImplicit false
set_option relaxedAutoImplicit false

namespace BlockScope

/-! ### Keywords with one name -/

section Keywords

variable {keywords conditions actions : List Keyword} {name : String} {keyword : Keyword}
  {type : ObjectType}

/-- The keyword is the last one of its name in a list. -/
def LastNamed (keywords : List Keyword) (name : String) (keyword : Keyword) : Prop :=
  ∃ earlier later, keywords = earlier ++ keyword :: later ∧ keyword.name = name ∧
    ∀ other ∈ later, other.name ≠ name

/-- The last keyword of a name has an output type. -/
def Offers (keywords : List Keyword) (name : String) (type : ObjectType) : Prop :=
  ∃ keyword, LastNamed keywords name keyword ∧ keyword.outputType = some type

theorem lookup_named (keywords : List Keyword) (name : String) :
    (keywords.map fun keyword ↦ (keyword.name, keyword)).lookup name =
      keywords.find? (·.name == name) := by
  induction keywords with
  | nil => rfl
  | cons keyword rest ih =>
    rw [List.map_cons, List.lookup_cons, ih, List.find?_cons, BEq.comm]

theorem find?_named_eq_some_iff :
    (NameTable.ofList (keywords.map fun keyword ↦ (keyword.name, keyword))).find? name =
        some keyword ↔
      LastNamed keywords name keyword := by
  rw [NameTable.find?_ofList, ← List.map_reverse, lookup_named, List.find?_eq_some_iff_append]
  constructor
  · rintro ⟨hname, later, earlier, hkeywords, hlater⟩
    refine ⟨earlier.reverse, later.reverse, ?_, by simpa using hname, by simpa using hlater⟩
    rw [← List.reverse_reverse keywords, hkeywords]
    simp
  · rintro ⟨earlier, later, rfl, hname, hlater⟩
    exact ⟨by simpa using hname, later.reverse, earlier.reverse, by simp, by simpa using hlater⟩

theorem bind_outputType_named_eq_some_iff :
    ((NameTable.ofList (keywords.map fun keyword ↦ (keyword.name, keyword))).find? name).bind
        (·.outputType) = some type ↔
      Offers keywords name type := by
  rw [Option.bind_eq_some_iff]
  exact exists_congr fun keyword ↦ and_congr_left fun _ ↦ find?_named_eq_some_iff

theorem outputType?_eq_some_iff :
    (Vocabulary.ofKeywords conditions actions).outputType? name = some type ↔
      Offers conditions name type ∨
        (∀ other, ¬ Offers conditions name other) ∧ Offers actions name type := by
  have hcondition : ∀ other,
      (Vocabulary.ofKeywords conditions actions).conditionOutput? name = some other ↔
        Offers conditions name other :=
    fun other ↦ bind_outputType_named_eq_some_iff
  have haction : (Vocabulary.ofKeywords conditions actions).actionOutput? name = some type ↔
      Offers actions name type :=
    bind_outputType_named_eq_some_iff
  rw [Vocabulary.outputType?, Option.or_eq_some_iff, Option.eq_none_iff_forall_ne_some, haction]
  simp only [ne_eq, hcondition]

end Keywords

/-! ### Effective names -/

section Effective

variable {vocabulary : Vocabulary} {conditions actions : List Keyword} {name : String}
  {type : ObjectType}

/-- A name is effective: it sets the type, whatever the type around it is. -/
inductive SetsType (conditions actions : List Keyword) (name : String) : ObjectType → Prop
  | reference (hreference : isScopeReference name = true) :
      SetsType conditions actions name .indeterminate
  | condition {type : ObjectType} (hreference : isScopeReference name = false)
      (hnumber : isNumericName name = false) (hoffers : Offers conditions name type) :
      SetsType conditions actions name type
  | action {type : ObjectType} (hreference : isScopeReference name = false)
      (hnumber : isNumericName name = false) (hhidden : ∀ other, ¬ Offers conditions name other)
      (hoffers : Offers actions name type) :
      SetsType conditions actions name type

/-- The type that a name sets. -/
def setType? (vocabulary : Vocabulary) (name : String) : Option ObjectType :=
  if isScopeReference name then some .indeterminate
  else if isNumericName name then none
  else vocabulary.outputType? name

theorem trackName_eq (vocabulary : Vocabulary) (current : ObjectType) (name : String) :
    trackName vocabulary current name = (setType? vocabulary name).getD current := by
  unfold trackName setType?
  split
  · rfl
  · split
    · rfl
    · rfl

theorem setType?_eq_some_iff :
    setType? (.ofKeywords conditions actions) name = some type ↔
      SetsType conditions actions name type := by
  unfold setType?
  split
  · rename_i hreference
    constructor
    · rintro ⟨⟩
      exact .reference hreference
    · rintro (- | hplain | hplain)
      · rfl
      all_goals simp [hreference] at hplain
  · rename_i hreference
    rw [Bool.not_eq_true] at hreference
    split
    · rename_i hnumber
      constructor
      · rintro ⟨⟩
      · rintro (hsaved | ⟨-, hplain, -⟩ | ⟨-, hplain, -, -⟩)
        · simp [hreference] at hsaved
        all_goals simp [hnumber] at hplain
    · rename_i hnumber
      rw [Bool.not_eq_true] at hnumber
      rw [outputType?_eq_some_iff]
      constructor
      · rintro (hoffers | ⟨hhidden, hoffers⟩)
        · exact .condition hreference hnumber hoffers
        · exact .action hreference hnumber hhidden hoffers
      · rintro (hsaved | ⟨-, -, hoffers⟩ | ⟨-, -, hhidden, hoffers⟩)
        · simp [hreference] at hsaved
        · exact .inl hoffers
        · exact .inr ⟨hhidden, hoffers⟩

theorem setType?_eq_none_iff :
    setType? (.ofKeywords conditions actions) name = none ↔
      ∀ type, ¬ SetsType conditions actions name type := by
  simp only [Option.eq_none_iff_forall_ne_some, ne_eq, setType?_eq_some_iff]

/-- Tracking looks for the last name that sets a type. -/
theorem trackScope_eq_findSome? (vocabulary : Vocabulary) (path : List String) :
    ∀ root : ObjectType, trackScope vocabulary path root =
      (path.reverse.findSome? (setType? vocabulary)).getD root := by
  induction path with
  | nil =>
    intro root
    rfl
  | cons name later ih =>
    intro root
    have hstep : trackScope vocabulary (name :: later) root =
        trackScope vocabulary later (trackName vocabulary root name) := rfl
    rw [hstep, ih, trackName_eq, List.reverse_cons, List.findSome?_append]
    cases later.reverse.findSome? (setType? vocabulary) with
    | none => cases hset : setType? vocabulary name <;> simp [hset]
    | some type => rfl

/-- The last effective name of a path sets the tracked type, and without one it is the type at the
root. -/
theorem trackScope_eq_iff_last_effective (conditions actions : List Keyword) (path : List String)
    (root type : ObjectType) :
    trackScope (.ofKeywords conditions actions) path root = type ↔
      (∃ earlier name later, path = earlier ++ name :: later ∧
        SetsType conditions actions name type ∧
        ∀ other ∈ later, ∀ set, ¬ SetsType conditions actions other set) ∨
      (∀ name ∈ path, ∀ set, ¬ SetsType conditions actions name set) ∧ root = type := by
  rw [trackScope_eq_findSome?, Option.getD_eq_iff, List.findSome?_eq_some_iff,
    List.findSome?_eq_none_iff]
  simp only [setType?_eq_some_iff, setType?_eq_none_iff, List.mem_reverse]
  refine or_congr ?_ Iff.rfl
  constructor
  · rintro ⟨later, name, earlier, hpath, hsets, hlater⟩
    refine ⟨earlier.reverse, name, later.reverse, ?_, hsets, by simpa using hlater⟩
    rw [← List.reverse_reverse path, hpath]
    simp
  · rintro ⟨earlier, name, later, rfl, hsets, hlater⟩
    exact ⟨later.reverse, name, earlier.reverse, by simp, hsets, by simpa using hlater⟩

/-- The second condition hides the first and not the action, and the number does not count though it
is a keyword. -/
example : trackScope
    (.ofKeywords [{ name := "ally", outputType := some "war" }, { name := "ally" }]
      [{ name := "ally", outputType := some "" }, { name := "50", outputType := some "army" }])
    ["scope:actor", "ally", "limit", "50"] "character" = "" := by
  decide +kernel

end Effective

end BlockScope
