import BlockScope.Proofs.Lowered
import BlockScope.Scope.ObjectType

/-!
The normal form of object types. A type as it is read from the documentation has no blanks around
it, no comma, no capitals and no shorter name. Reading such a word leaves it as it is, because the
type that a shorter name stands for has none itself. So a list of types that was read once, joined
with commas and read again is the same list.
-/

set_option autoImplicit false
set_option relaxedAutoImplicit false

namespace BlockScope

namespace ObjectType

/-- A type in the form in which types are kept. -/
structure IsNormal (type : ObjectType) : Prop where
  ne_empty : type ≠ ""
  comma_notMem : ',' ∉ type.toList
  isTrimmed : IsTrimmed type.toList
  lowercase_eq : lowercase type.toList = type.toList
  notMem_aliases : type ∉ aliases.map Prod.fst

variable {type : ObjectType} {types : List ObjectType} {word : List Char}

/-- The types that shorter names stand for are in normal form. -/
theorem isNormal_of_mem_aliases {entry : String × ObjectType} (hentry : entry ∈ aliases) :
    IsNormal entry.2 := by
  have htable : ∀ entry ∈ aliases, entry.2 ≠ "" ∧ ',' ∉ entry.2.toList ∧
      trim entry.2.toList = entry.2.toList ∧
      entry.2.toList.all (fun c ↦ 0x5B ≤ c.toNat && c.toNat < 0x80) = true ∧
      entry.2 ∉ aliases.map Prod.fst := by
    decide +kernel
  obtain ⟨hempty, hcomma, htrim, hsmall, hname⟩ := htable entry hentry
  refine ⟨hempty, hcomma, ?_, lowercaseAfter_eq_self (fun c hc ↦ ?_) [], hname⟩
  · rw [← htrim]
    exact isTrimmed_trim _
  · have hcode := List.all_eq_true.mp hsmall c hc
    rw [Bool.and_eq_true, decide_eq_true_eq, decide_eq_true_eq] at hcode
    exact lowerChar_eq_self_of_lt hcode.1 hcode.2

/-- A word without capitals and blanks around it is a shorter name, or it is the type itself. -/
theorem ofWord_cases (word : List Char) :
    (String.ofList (lowercase (trim word)), ofWord word) ∈ aliases ∨
      String.ofList (lowercase (trim word)) ∉ aliases.map Prod.fst ∧
        ofWord word = String.ofList (lowercase (trim word)) := by
  cases hlookup : aliases.lookup (String.ofList (lowercase (trim word))) with
  | some target =>
    have htype : ofWord word = target := by simp only [ofWord, hlookup, Option.getD_some]
    obtain ⟨before, after, hsplit, -⟩ := List.lookup_eq_some_iff.mp hlookup
    left
    rw [htype, hsplit]
    exact List.mem_append_right before List.mem_cons_self
  | none =>
    right
    refine ⟨fun hname ↦ ?_, by simp only [ofWord, hlookup, Option.getD_none]⟩
    obtain ⟨entry, hentry, hsame⟩ := List.mem_map.mp hname
    have hdiffers := List.lookup_eq_none_iff.mp hlookup entry hentry
    rw [hsame, bne_self_eq_false] at hdiffers
    exact absurd hdiffers Bool.false_ne_true

/-- Assumes: a word without commas that is not blank. -/
theorem isNormal_ofWord (hcomma : ',' ∉ word) (hword : ∃ c ∈ word, isBlank c = false) :
    IsNormal (ofWord word) := by
  rcases ofWord_cases word with hentry | ⟨hname, htype⟩
  · exact isNormal_of_mem_aliases hentry
  · have hsolid : trim word ≠ [] := by
      intro hnil
      obtain ⟨c, hc, hsolid⟩ := hword
      rw [trim_eq_nil_iff.mp hnil c hc] at hsolid
      contradiction
    rw [htype]
    constructor
    · simpa [lowercase_eq_nil_iff] using hsolid
    · simpa using notMem_lowercase (by decide) fun hmem ↦ hcomma (mem_of_mem_trim hmem)
    · simpa using isTrimmed_lowercase (isTrimmed_trim word)
    · simpa using lowercase_lowercase (trim word)
    · exact hname

theorem IsNormal.ofWord_eq (htype : IsNormal type) : ofWord type.toList = type := by
  have hplain : String.ofList (lowercase (trim type.toList)) = type := by
    rw [htype.isTrimmed.trim_eq, htype.lowercase_eq, String.ofList_toList]
  have hcases := ofWord_cases type.toList
  rw [hplain] at hcases
  rcases hcases with hentry | ⟨-, hsame⟩
  · exact absurd (List.mem_map.mpr ⟨_, hentry, rfl⟩) htype.notMem_aliases
  · exact hsame

theorem IsNormal.not_all_isBlank (htype : IsNormal type) : type.toList.all isBlank = false := by
  obtain ⟨c, rest, hsplit⟩ :=
    List.exists_cons_of_ne_nil (fun hnil ↦ htype.ne_empty (String.toList_eq_nil_iff.mp hnil))
  rw [hsplit, List.all_cons, htype.isTrimmed.head c (by rw [hsplit]; rfl), Bool.false_and]

theorem isNormal_of_mem_parseList {words : String} (htype : type ∈ parseList words) :
    IsNormal type := by
  obtain ⟨part, hpart, rfl⟩ := List.mem_map.mp htype
  obtain ⟨hpiece, hsolid⟩ := List.mem_filter.mp hpart
  exact isNormal_ofWord (notMem_of_mem_pieces _ part hpiece) (by simpa using hsolid)

/-- Types in normal form are read back from the list that they are joined to. -/
theorem parseList_intercalate (htypes : ∀ type ∈ types, IsNormal type) :
    parseList (",".intercalate types) = types := by
  cases types with
  | nil => rfl
  | cons first later =>
    have hcommas : ∀ part ∈ (first :: later).map String.toList, ',' ∉ part :=
      List.forall_mem_map.mpr fun type htype ↦ (htypes type htype).comma_notMem
    have hsolid : ∀ part ∈ (first :: later).map String.toList, (!part.all isBlank) = true := by
      refine List.forall_mem_map.mpr fun type htype ↦ ?_
      rw [(htypes type htype).not_all_isBlank]
      rfl
    have hread : ∀ type ∈ first :: later, (ofWord ∘ String.toList) type = id type := by
      intro type htype
      rw [Function.comp_apply, (htypes type htype).ofWord_eq, id_eq]
    rw [parseList, toList_intercalate_eq_joinPieces ',' rfl, pieces_joinPieces (by simp) hcommas,
      List.filter_eq_self.mpr hsolid, List.map_map, List.map_congr_left hread, List.map_id]

/-- Reading a list gives types in normal form, and joining them with commas and reading again gives
the same types, so the same scopes are supported as before. Every list of types in normal form stays
as it is in this way. -/
theorem parseList_fixed_point :
    (∀ words : String, (∀ type ∈ parseList words, IsNormal type) ∧
      parseList (",".intercalate (parseList words)) = parseList words ∧
      ∀ current, isSupported current (parseList (",".intercalate (parseList words))) =
        isSupported current (parseList words)) ∧
    ∀ types : List ObjectType, (∀ type ∈ types, IsNormal type) →
      parseList (",".intercalate types) = types := by
  refine ⟨fun words ↦ ?_, fun types ↦ parseList_intercalate⟩
  have hnormal : ∀ type ∈ parseList words, IsNormal type := fun _ ↦ isNormal_of_mem_parseList
  have hsame := parseList_intercalate hnormal
  refine ⟨hnormal, hsame, fun current ↦ ?_⟩
  rw [hsame]

/-- A list with a blank entry, shorter names, a capital whose lower-case form depends on the end of
the word and one whose lower-case form has two characters. -/
theorem parseList_fixed_point_untidyWords :
    parseList " Title,, HOUSE , ΟΔΟΣ,\tİ" = ["landed_title", "dynasty_house", "οδος", "i\u0307"] ∧
      (∀ type ∈ ["landed_title", "dynasty_house", "οδος", "i\u0307"], IsNormal type) ∧
      parseList "landed_title,dynasty_house,οδος,i\u0307" =
        ["landed_title", "dynasty_house", "οδος", "i\u0307"] := by
  have hread : parseList " Title,, HOUSE , ΟΔΟΣ,\tİ" =
      ["landed_title", "dynasty_house", "οδος", "i\u0307"] := by
    decide +kernel
  have hnormal := (parseList_fixed_point.1 " Title,, HOUSE , ΟΔΟΣ,\tİ").1
  rw [hread] at hnormal
  exact ⟨hread, hnormal, parseList_fixed_point.2 _ hnormal⟩

end ObjectType

end BlockScope
