import BlockScope.Proofs.Lowercase
import BlockScope.Scope.ContentFolder

/-!
Content folders by components. A path is compared with the folders as one text with slashes in it,
but what counts are its components: a folder matches where `common` and the name of the folder are
components next to each other and another component follows. No part of a component matches, since
both the folder and the components are cut off by slashes. Of the folders that match, the first of
the longest decides. The root type therefore depends on the components alone, in lower case, and
not on how they are written.
-/

set_option autoImplicit false
set_option relaxedAutoImplicit false

namespace BlockScope

/-! ### Components -/

def isPathSeparator (c : Char) : Bool := c == '/' || c == '\\'

/-- The components of a path: what stands between slashes or backslashes and is neither empty nor a
single dot. -/
def components (path : List Char) : List (List Char) :=
  (path.splitOnP isPathSeparator).filter fun part ↦ part != [] && part != ['.']

def loweredComponents (path : List Char) : List (List Char) := (components path).map lowercase

/-- A folder inside `common` is on the way of some components, and the way goes on behind it. -/
def PassesFolder (parts : List (List Char)) (folder : String) : Prop :=
  ∃ name before next after, folder = "common/" ++ name ∧
    parts = before ++ "common".toList :: name.toList :: next :: after

section Components

variable (path : List Char)

theorem pieces_map_slash (text : List Char) :
    pieces '/' (text.map fun c ↦ if c = '\\' then '/' else c) = text.splitOnP isPathSeparator := by
  induction text with
  | nil => rfl
  | cons c rest ih =>
    obtain ⟨part, later, hparts⟩ :=
      List.exists_cons_of_ne_nil (List.splitOnP_ne_nil isPathSeparator rest)
    rw [List.map_cons, pieces_cons, ih, List.splitOnP_cons_eq_if_modifyHead, hparts]
    by_cases hback : c = '\\'
    · simp [isPathSeparator, hback]
    · by_cases hslash : c = '/'
      · simp [isPathSeparator, hslash]
      · simp [isPathSeparator, hback, hslash]

theorem pathComponents_map_slash :
    pathComponents (path.map fun c ↦ if c = '\\' then '/' else c) = components path := by
  rw [pathComponents, pieces_map_slash, components]

theorem slash_notMem_components : ∀ part ∈ components path, '/' ∉ part := by
  intro part hpart
  rw [← pathComponents_map_slash, pathComponents, List.mem_filter] at hpart
  exact notMem_of_mem_pieces _ part hpart.1

theorem slash_notMem_loweredComponents : ∀ part ∈ loweredComponents path, '/' ∉ part := by
  intro part hpart
  obtain ⟨written, hwritten, rfl⟩ := List.mem_map.mp hpart
  exact notMem_lowercase (by decide) (slash_notMem_components path written hwritten)

theorem exists_pathRoot_eq (text : List Char) :
    ∃ count, pathRoot text = List.replicate count '/' := by
  unfold pathRoot
  split
  · exact ⟨0, rfl⟩
  · exact ⟨2, rfl⟩
  · exact ⟨1, rfl⟩

theorem lowercase_replicate_slash_append (count : Nat) (rest : List Char) :
    lowercase (List.replicate count '/' ++ rest) =
      List.replicate count '/' ++ lowercase rest := by
  induction count with
  | zero => rfl
  | succ count ih =>
    rw [List.replicate_succ, List.cons_append, ← List.nil_append ('/' :: _),
      lowercase_append_slash, ih]
    rfl

theorem pieces_replicate_append (count : Nat) (rest : List Char) :
    pieces '/' (List.replicate count '/' ++ rest) =
      List.replicate count [] ++ pieces '/' rest := by
  induction count with
  | zero => rfl
  | succ count ih =>
    rw [List.replicate_succ, List.cons_append, pieces_cons_self, ih]
    rfl

theorem joinPieces_pathComponents_ne_nil {text : List Char} (hparts : pathComponents text ≠ []) :
    joinPieces '/' (pathComponents text) ≠ [] := by
  obtain ⟨part, later, hsplit⟩ := List.exists_cons_of_ne_nil hparts
  have hpart : part ∈ pathComponents text := by simp [hsplit]
  have hne : part ≠ [] := by
    simpa using (Bool.and_eq_true_iff.mp (List.mem_filter.mp hpart).2).1
  obtain ⟨c, rest, rfl⟩ := List.exists_cons_of_ne_nil hne
  rw [hsplit]
  cases later <;> simp [joinPieces]

/-- The normal form of a path is made of slashes and of its components, or of a last part in their
place. -/
theorem exists_normalPath_eq (text : List Char) :
    ∃ count parts, normalPath text = List.replicate count '/' ++ joinPieces '/' parts ∧
      parts ≠ [] ∧ (parts = pathComponents text ∨
        pathComponents text = [] ∧ (parts = [[]] ∨ parts = [['.']])) := by
  obtain ⟨count, hroot⟩ := exists_pathRoot_eq text
  unfold normalPath
  rw [hroot]
  by_cases hparts : pathComponents text = []
  · rw [hparts]
    cases count with
    | zero => exact ⟨0, [['.']], rfl, by simp, .inr ⟨rfl, .inr rfl⟩⟩
    | succ count => exact ⟨count + 1, [[]], rfl, by simp, .inr ⟨rfl, .inl rfl⟩⟩
  · refine ⟨count, pathComponents text, ?_, hparts, .inl rfl⟩
    split
    · rename_i hnil
      exact absurd (List.append_eq_nil_iff.mp hnil).2 (joinPieces_pathComponents_ne_nil hparts)
    · rfl

/-- The text that is compared with the folders has the components as its pieces. Before them are
empty pieces, and where there is no component some last piece stands in their place. -/
theorem exists_pieces_comparablePath (path : String) :
    ∃ roots ends,
      pieces '/' (comparablePath path) = roots ++ (loweredComponents path.toList ++ ends) ∧
      roots ≠ [] ∧ (∀ part ∈ roots, part = []) ∧
      (ends = [] ∨ loweredComponents path.toList = [] ∧ ends.length = 1) := by
  obtain ⟨count, parts, hnormal, hne, hparts⟩ :=
    exists_normalPath_eq (path.toList.map fun c ↦ if c = '\\' then '/' else c)
  rw [pathComponents_map_slash] at hparts
  have hslash : ∀ part ∈ parts.map lowercase, '/' ∉ part := by
    rcases hparts with rfl | ⟨-, rfl | rfl⟩
    · exact slash_notMem_loweredComponents path.toList
    all_goals decide +kernel
  have hpieces : pieces '/' (comparablePath path) =
      List.replicate (count + 1) [] ++ parts.map lowercase := by
    rw [comparablePath, hnormal, lowercase_replicate_slash_append, lowercase_joinPieces,
      ← List.cons_append, ← List.replicate_succ, pieces_replicate_append,
      pieces_joinPieces (by simpa using hne) hslash]
  have hroots : ∀ part ∈ List.replicate (count + 1) ([] : List Char), part = [] :=
    fun part hpart ↦ List.eq_of_mem_replicate hpart
  rcases hparts with rfl | ⟨hnone, hlast⟩
  · exact ⟨_, [], by rw [hpieces, loweredComponents, List.append_nil], by simp, hroots, .inl rfl⟩
  · have hlowered : loweredComponents path.toList = [] := by simp [loweredComponents, hnone]
    refine ⟨_, parts.map lowercase, by rw [hpieces, hlowered, List.nil_append], by simp, hroots,
      .inr ⟨hlowered, ?_⟩⟩
    rcases hlast with rfl | rfl <;> rfl

end Components

/-! ### Folders on the way -/

section Way

theorem occursIn_iff {pattern text : List Char} :
    occursIn pattern text = true ↔ pattern <:+: text := by
  induction text with
  | nil => simp [occursIn]
  | cons c rest ih =>
    rw [occursIn, Bool.or_eq_true, List.isPrefixOf_iff_prefix, ih, List.infix_cons_iff]

/-- Assumes: two names without a slash. They occur between slashes where they are pieces next to
each other, with others around them. -/
theorem infix_iff_pieces {first second text : List Char} (hfirst : '/' ∉ first)
    (hsecond : '/' ∉ second) :
    '/' :: (first ++ '/' :: second) ++ ['/'] <:+: text ↔
      ∃ before after, before ≠ [] ∧ after ≠ [] ∧
        pieces '/' text = before ++ first :: second :: after := by
  constructor
  · rintro ⟨front, back, rfl⟩
    refine ⟨pieces '/' front, pieces '/' back, pieces_ne_nil _ _, pieces_ne_nil _ _, ?_⟩
    have htext : front ++ ('/' :: (first ++ '/' :: second) ++ ['/']) ++ back =
        front ++ '/' :: (first ++ '/' :: (second ++ '/' :: back)) := by simp
    rw [htext, pieces_append_cons, pieces_append_separator hfirst, pieces_append_separator hsecond]
  · rintro ⟨before, after, hbefore, hafter, hpieces⟩
    refine ⟨joinPieces '/' before, joinPieces '/' after, ?_⟩
    rw [← joinPieces_pieces '/' text, hpieces, joinPieces_append hbefore (by simp),
      joinPieces_cons first (by simp), joinPieces_cons second hafter]
    simp

theorem goesThrough_iff_passesFolder (path : String) {folder name : String}
    (hfolder : folder = "common/" ++ name) (hname : '/' ∉ name.toList) :
    goesThrough (comparablePath path) folder = true ↔
      PassesFolder (loweredComponents path.toList) folder := by
  have hpattern : '/' :: folder.toList ++ ['/'] =
      '/' :: ("common".toList ++ '/' :: name.toList) ++ ['/'] := by
    rw [hfolder, String.toList_append]
    rfl
  obtain ⟨roots, ends, hpieces, hroots, hempty, hends⟩ := exists_pieces_comparablePath path
  rw [goesThrough, hpattern, occursIn_iff, infix_iff_pieces (by decide) hname, hpieces]
  constructor
  · rintro ⟨before, after, -, hafter, hsplit⟩
    have hcommon : "common".toList ∉ roots := fun hmem ↦ absurd (hempty _ hmem) (by decide)
    obtain ⟨middle, -, hparts⟩ := exists_middle_of_notMem hcommon hsplit
    obtain ⟨next, later, rfl⟩ := List.exists_cons_of_ne_nil hafter
    rcases hends with rfl | ⟨hnone, hone⟩
    · exact ⟨name, middle, next, later, hfolder, by rw [← hparts, List.append_nil]⟩
    · have hlength := congrArg List.length hparts
      simp only [hnone, hone, List.length_append, List.length_cons, List.length_nil] at hlength
      omega
  · rintro ⟨other, before, next, after, hother, hparts⟩
    obtain rfl : name = other := by
      simpa [← String.toList_inj] using hfolder.symm.trans hother
    exact ⟨roots ++ before, next :: after ++ ends, by simp [hroots], by simp, by simp [hparts]⟩

/-- Every folder of the table is inside `common`. -/
theorem exists_name_of_mem_contentFolders {folder : String × ObjectType}
    (hfolder : folder ∈ contentFolders) :
    ∃ name, folder.1 = "common/" ++ name ∧ '/' ∉ name.toList := by
  have htable : ∀ folder ∈ contentFolders,
      folder.1 = "common/" ++ String.ofList (folder.1.toList.drop 7) ∧
        '/' ∉ (String.ofList (folder.1.toList.drop 7)).toList := by
    decide +kernel
  exact ⟨_, htable folder hfolder⟩

theorem goesThrough_iff_of_mem_contentFolders (path : String) {folder : String × ObjectType}
    (hfolder : folder ∈ contentFolders) :
    goesThrough (comparablePath path) folder.1 = true ↔
      PassesFolder (loweredComponents path.toList) folder.1 := by
  obtain ⟨name, hname, hslash⟩ := exists_name_of_mem_contentFolders hfolder
  exact goesThrough_iff_passesFolder path hname hslash

end Way

/-! ### The longest folder -/

/-- A folder matches and is longer than those before it that match, and no shorter than those behind
it. -/
def FirstLongest (Matches : String → Prop) (folders : List (String × ObjectType))
    (best : String × ObjectType) : Prop :=
  ∃ earlier later, folders = earlier ++ best :: later ∧ Matches best.1 ∧
    (∀ folder ∈ earlier, Matches folder.1 → folder.1.length < best.1.length) ∧
    ∀ folder ∈ later, Matches folder.1 → folder.1.length ≤ best.1.length

/-- The best folder has been found among those that have been seen. -/
def HoldsBest (Matches : String → Prop) (seen : List (String × ObjectType)) :
    Option (String × ObjectType) → Prop
  | none => ∀ folder ∈ seen, ¬ Matches folder.1
  | some best => FirstLongest Matches seen best

section Longest

variable {Matches : String → Prop} {seen folders : List (String × ObjectType)}
  {best : Option (String × ObjectType)} {folder : String × ObjectType}

/-- Assumes: two folders that match, the first not further right than the second. If none behind the
first is longer, and all before the second are shorter, they are the same. -/
theorem eq_of_longest {first second : String × ObjectType}
    {between later later' : List (String × ObjectType)}
    (hsplit : first :: later = between ++ second :: later') (hfirst : Matches first.1)
    (hsecond : Matches second.1)
    (hlater : ∀ folder ∈ later, Matches folder.1 → folder.1.length ≤ first.1.length)
    (hbetween : ∀ folder ∈ between, Matches folder.1 → folder.1.length < second.1.length) :
    first = second := by
  cases between with
  | nil => exact (List.cons.inj hsplit).1
  | cons left between =>
    obtain ⟨rfl, rfl⟩ := List.cons.inj hsplit
    have hshorter := hbetween first List.mem_cons_self hfirst
    have hlonger := hlater second (by simp) hsecond
    omega

theorem FirstLongest.unique {first second : String × ObjectType}
    (hfirst : FirstLongest Matches folders first) (hsecond : FirstLongest Matches folders second) :
    first = second := by
  obtain ⟨earlier, later, rfl, hmatch, hearlier, hlater⟩ := hfirst
  obtain ⟨earlier', later', hsplit, hmatch', hearlier', hlater'⟩ := hsecond
  rcases List.append_eq_append_iff.mp hsplit with ⟨between, rfl, hrest⟩ | ⟨between, rfl, hrest⟩
  · exact eq_of_longest hrest hmatch hmatch' hlater (List.forall_mem_append.mp hearlier').2
  · exact (eq_of_longest hrest hmatch' hmatch hlater' (List.forall_mem_append.mp hearlier).2).symm

theorem FirstLongest.length_le {held : String × ObjectType}
    (hheld : FirstLongest Matches folders held) (hmem : folder ∈ folders)
    (hfolder : Matches folder.1) : folder.1.length ≤ held.1.length := by
  obtain ⟨earlier, later, rfl, -, hearlier, hlater⟩ := hheld
  rw [List.mem_append, List.mem_cons] at hmem
  rcases hmem with hmem | rfl | hmem
  · exact Nat.le_of_lt (hearlier folder hmem hfolder)
  · exact Nat.le_refl _
  · exact hlater folder hmem hfolder

/-- A folder that is not longer, or does not match, leaves the best one as it is. -/
theorem FirstLongest.concat {held : String × ObjectType} (hheld : FirstLongest Matches seen held)
    (hfolder : Matches folder.1 → folder.1.length ≤ held.1.length) :
    FirstLongest Matches (seen ++ [folder]) held := by
  obtain ⟨earlier, later, rfl, hmatch, hearlier, hlater⟩ := hheld
  refine ⟨earlier, later ++ [folder], by simp, hmatch, hearlier, ?_⟩
  rw [List.forall_mem_append, List.forall_mem_singleton]
  exact ⟨hlater, hfolder⟩

theorem HoldsBest.concat_of_not (hbest : HoldsBest Matches seen best)
    (hfolder : ¬ Matches folder.1) : HoldsBest Matches (seen ++ [folder]) best := by
  cases best with
  | none => exact List.forall_mem_append.mpr ⟨hbest, List.forall_mem_singleton.mpr hfolder⟩
  | some held => exact FirstLongest.concat hbest fun hmatch ↦ absurd hmatch hfolder

theorem HoldsBest.concat (hbest : HoldsBest Matches seen best) (hfolder : Matches folder.1) :
    HoldsBest Matches (seen ++ [folder]) (longerFolder best folder) := by
  cases best with
  | none =>
    exact ⟨seen, [], rfl, hfolder, fun other hmem hother ↦ absurd hother (hbest other hmem),
      by simp⟩
  | some held =>
    have hheld : FirstLongest Matches seen held := hbest
    have hstep : longerFolder (some held) folder =
        if held.1.length < folder.1.length then some folder else some held := rfl
    rw [hstep]
    split
    · rename_i hlonger
      refine ⟨seen, [], rfl, hfolder, fun other hmem hother ↦ ?_, by simp⟩
      exact Nat.lt_of_le_of_lt (hheld.length_le hmem hother) hlonger
    · rename_i hshorter
      exact hheld.concat fun _ ↦ Nat.le_of_not_lt hshorter

/-- Going through the folders with the best one so far finds the best of them all. -/
theorem HoldsBest.foldl {goes : String → Bool} (later : List (String × ObjectType)) :
    ∀ {seen best}, (∀ folder ∈ later, goes folder.1 = true ↔ Matches folder.1) →
      HoldsBest Matches seen best →
      HoldsBest Matches (seen ++ later)
        (later.foldl (fun best folder ↦ if goes folder.1 then longerFolder best folder else best)
          best) := by
  induction later with
  | nil =>
    intro seen best hgoes hbest
    rwa [List.append_nil]
  | cons folder later ih =>
    intro seen best hgoes hbest
    rw [List.forall_mem_cons] at hgoes
    rw [← List.singleton_append, ← List.append_assoc, List.singleton_append, List.foldl_cons]
    refine ih hgoes.2 ?_
    by_cases hfolder : goes folder.1 = true
    · rw [if_pos hfolder]
      exact hbest.concat (hgoes.1.mp hfolder)
    · rw [if_neg hfolder]
      exact hbest.concat_of_not fun hmatch ↦ hfolder (hgoes.1.mpr hmatch)

theorem holdsBest_contentFolder? (path : String) :
    HoldsBest (PassesFolder (loweredComponents path.toList)) contentFolders
      (contentFolder? path) := by
  have hnothing : HoldsBest (PassesFolder (loweredComponents path.toList)) [] none := by
    simp [HoldsBest]
  have hbest := HoldsBest.foldl contentFolders
    (fun folder hfolder ↦ goesThrough_iff_of_mem_contentFolders path hfolder) hnothing
  rwa [List.nil_append] at hbest

end Longest

/-! ### Ways to write a path -/

/-- Two ways to write the same components: with other separators or more of them, with single dots
as components, with a root, or with letters from `A` to `Z` for small ones. -/
inductive Respelled : List Char → List Char → Prop
  | separator (front back : List Char) {mark other : Char} (hmark : isPathSeparator mark = true)
      (hother : isPathSeparator other = true) :
      Respelled (front ++ mark :: back) (front ++ other :: back)
  | repeated (front back : List Char) {mark other : Char} (hmark : isPathSeparator mark = true)
      (hother : isPathSeparator other = true) :
      Respelled (front ++ mark :: back) (front ++ mark :: other :: back)
  | dot (front back : List Char) {mark other : Char} (hmark : isPathSeparator mark = true)
      (hother : isPathSeparator other = true) :
      Respelled (front ++ mark :: back) (front ++ mark :: '.' :: other :: back)
  | lastDot (front : List Char) {mark : Char} (hmark : isPathSeparator mark = true) :
      Respelled (front ++ [mark]) (front ++ [mark, '.'])
  | root (path : List Char) {mark : Char} (hmark : isPathSeparator mark = true) :
      Respelled path (mark :: path)
  | letterCase (front back : List Char) {c d : Char} (hletter : c.toLower = d.toLower) :
      Respelled (front ++ c :: back) (front ++ d :: back)
  | symm {path other : List Char} : Respelled path other → Respelled other path
  | trans {path between other : List Char} :
      Respelled path between → Respelled between other → Respelled path other

section Spelling

theorem components_append_cons {mark : Char} (hmark : isPathSeparator mark = true)
    (front back : List Char) :
    components (front ++ mark :: back) = components front ++ components back := by
  rw [components, List.splitOnP_append_cons _ _ hmark, List.filter_append]
  rfl

@[simp] theorem components_nil : components [] = [] := by
  simp [components]

theorem components_cons {mark : Char} (hmark : isPathSeparator mark = true) (back : List Char) :
    components (mark :: back) = components back := by
  simpa using components_append_cons hmark [] back

theorem components_dot : components ['.'] = [] := by
  decide +kernel

theorem isPathSeparator_toLower (c : Char) : isPathSeparator c.toLower = isPathSeparator c :=
  apply_toLower isPathSeparator (by decide +kernel) c

theorem toLower_eq_dot_iff (c : Char) : c.toLower = '.' ↔ c = '.' := by
  have hdot := apply_toLower (· == '.') (by decide +kernel) c
  rwa [Bool.eq_iff_iff, beq_iff_eq, beq_iff_eq] at hdot

theorem splitOnP_map_toLower (path : List Char) :
    (path.map Char.toLower).splitOnP isPathSeparator =
      (path.splitOnP isPathSeparator).map (·.map Char.toLower) := by
  induction path with
  | nil => rfl
  | cons c rest ih =>
    obtain ⟨part, later, hparts⟩ :=
      List.exists_cons_of_ne_nil (List.splitOnP_ne_nil isPathSeparator rest)
    rw [List.map_cons, List.splitOnP_cons_eq_if_modifyHead, List.splitOnP_cons_eq_if_modifyHead, ih,
      hparts, isPathSeparator_toLower]
    split <;> rfl

theorem components_map_toLower (path : List Char) :
    components (path.map Char.toLower) = (components path).map (·.map Char.toLower) := by
  rw [components, splitOnP_map_toLower, List.filter_map, components]
  refine congrArg _ (List.filter_congr fun part _ ↦ ?_)
  have hdot : part.map Char.toLower = ['.'] ↔ part = ['.'] := by
    simp [List.map_eq_singleton_iff, toLower_eq_dot_iff]
  rw [Bool.eq_iff_iff]
  simp [hdot]

theorem loweredComponents_map_toLower (path : List Char) :
    loweredComponents (path.map Char.toLower) = loweredComponents path := by
  rw [loweredComponents, components_map_toLower, List.map_map]
  exact List.map_congr_left fun part _ ↦ lowercase_map_toLower part

theorem Respelled.loweredComponents_eq {path other : List Char} (hpath : Respelled path other) :
    loweredComponents path = loweredComponents other := by
  induction hpath with
  | separator front back hmark hother =>
    rw [loweredComponents, components_append_cons hmark, ← components_append_cons hother]
    rfl
  | repeated front back hmark hother =>
    rw [loweredComponents, loweredComponents, components_append_cons hmark,
      components_append_cons hmark, components_cons hother]
  | dot front back hmark hother =>
    have hdot := components_append_cons hother ['.'] back
    rw [List.singleton_append, components_dot, List.nil_append] at hdot
    rw [loweredComponents, loweredComponents, components_append_cons hmark,
      components_append_cons hmark, hdot]
  | lastDot front hmark =>
    rw [loweredComponents, loweredComponents, components_append_cons hmark,
      components_append_cons hmark, components_dot, components_nil]
  | root path hmark => rw [loweredComponents, loweredComponents, components_cons hmark]
  | letterCase front back hletter =>
    rw [← loweredComponents_map_toLower, List.map_append, List.map_cons, hletter, ← List.map_cons,
      ← List.map_append, loweredComponents_map_toLower]
  | symm _ ih => exact ih.symm
  | trans _ _ ih ih' => exact ih.trans ih'

end Spelling

/-! ### Root types -/

theorem rootTypeFor_eq_iff_of_components (path : String) (type : ObjectType) :
    rootTypeFor path = type ↔
      (∃ folder, FirstLongest (PassesFolder (loweredComponents path.toList)) contentFolders folder ∧
        folder.2 = type) ∨
      (∀ folder ∈ contentFolders, ¬ PassesFolder (loweredComponents path.toList) folder.1) ∧
        ObjectType.character = type := by
  have hbest := holdsBest_contentFolder? path
  unfold rootTypeFor
  cases hfound : contentFolder? path with
  | none =>
    rw [hfound] at hbest
    constructor
    · intro htype
      exact .inr ⟨hbest, htype⟩
    · rintro (⟨folder, ⟨earlier, later, hfolders, hmatch, -⟩, -⟩ | ⟨-, htype⟩)
      · exact absurd hmatch (hbest folder (by simp [hfolders]))
      · exact htype
  | some folder =>
    rw [hfound] at hbest
    constructor
    · intro htype
      exact .inl ⟨folder, hbest, htype⟩
    · rintro (⟨other, hother, htype⟩ | ⟨hnone, -⟩)
      · rwa [FirstLongest.unique hbest hother]
      · obtain ⟨earlier, later, hfolders, hmatch, -⟩ := hbest
        exact absurd hmatch (hnone folder (by simp [hfolders]))

/-- The root type of a path is that of the longest folder that its components pass, the first of the
longest, and without one it is the type of characters. How the components are written makes no
difference. -/
theorem rootTypeFor_decided_by_components (path : String) :
    (∀ type, rootTypeFor path = type ↔
      (∃ folder, FirstLongest (PassesFolder (loweredComponents path.toList)) contentFolders folder ∧
        folder.2 = type) ∨
      (∀ folder ∈ contentFolders, ¬ PassesFolder (loweredComponents path.toList) folder.1) ∧
        ObjectType.character = type) ∧
    ∀ other : String, Respelled path.toList other.toList →
      rootTypeFor other = rootTypeFor path := by
  refine ⟨rootTypeFor_eq_iff_of_components path, fun other hother ↦ ?_⟩
  rw [rootTypeFor_eq_iff_of_components, ← hother.loweredComponents_eq]
  exact (rootTypeFor_eq_iff_of_components path _).mp rfl

/-- A path through one folder, and the same one with a root, a backslash, a dot and a capital. -/
theorem rootTypeFor_decided_by_components_backslash :
    rootTypeFor "/common\\./Culture/x" = "culture" := by
  have hplain : rootTypeFor "common/culture/x" = "culture" := by
    decide +kernel
  have hcapital : Respelled "common/culture/x".toList "common/Culture/x".toList :=
    .letterCase "common/".toList "ulture/x".toList (by decide)
  have hdot : Respelled "common/Culture/x".toList "common/./Culture/x".toList :=
    .dot "common".toList "Culture/x".toList (by decide) (by decide)
  have hbackslash : Respelled "common/./Culture/x".toList "common\\./Culture/x".toList :=
    .separator "common".toList "./Culture/x".toList (by decide) (by decide)
  have hroot : Respelled "common\\./Culture/x".toList "/common\\./Culture/x".toList :=
    .root _ (by decide)
  rw [← hplain]
  exact (rootTypeFor_decided_by_components "common/culture/x").2 _
    (hcapital.trans (hdot.trans (hbackslash.trans hroot)))

end BlockScope
