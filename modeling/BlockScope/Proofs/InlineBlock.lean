import BlockScope.Proofs.Pieces
import BlockScope.Proofs.TypedLine

/-!
Typing behind a brace. Where a key is being typed, only what follows the last brace of the line
matters: `trigger = { is_ad` is read as ` is_ad` alone would be. For assignments this fails in two
ways, because an assignment is only looked for at the beginning of the line. The text behind the
brace may be an assignment by itself, as in `trigger = { culture = `, and then it is not recognised.
Or the brace may have become part of a value that is typed without a blank, as in
`trigger = {is_ad`. The main statement says that there is no third way.
-/

set_option autoImplicit false
set_option relaxedAutoImplicit false

namespace BlockScope

/-- A text is an assignment, with or without a value. -/
def IsAssignment (text : List Char) : Prop := ∃ parts : Assignment, parts.text = text

/-- The brace and what follows it prolong a value and are not read as a block. -/
def ContinuesValue (before : List Char) (brace : Char) (after : List Char) : Prop :=
  ∃ parts : Assignment, parts.text = before ∧ (∀ c ∈ after, isBlank c = false) ∧
    parts.value ++ brace :: after ≠ ['{']

/-! ### Braces in assignments -/

theorem brace_class {brace : Char} (hbrace : brace = '{' ∨ brace = '}') :
    isBlank brace = false ∧ isNameChar brace = false ∧ brace ≠ '=' := by
  rcases hbrace with rfl | rfl <;> decide

namespace Assignment

section Prolong

variable {more before after : List Char} {brace : Char}

/-- An assignment with a longer value. -/
def prolong (parts : Assignment) (more : List Char) (hmore : ∀ c ∈ more, isBlank c = false) :
    Assignment :=
  { parts with
    value := parts.value ++ more
    isBlank_value := List.forall_mem_append.mpr ⟨parts.isBlank_value, hmore⟩ }

theorem text_prolong (parts : Assignment) (hmore : ∀ c ∈ more, isBlank c = false) :
    (parts.prolong more hmore).text = parts.text ++ more := by
  simp [prolong, text]

theorem brace_notMem_lead (parts : Assignment) (hbrace : brace = '{' ∨ brace = '}') :
    brace ∉ parts.indent ++ parts.field ++ parts.gap ++ '=' :: parts.space := by
  obtain ⟨hblank, hname, hequals⟩ := brace_class hbrace
  simp only [List.mem_append, List.mem_cons, not_or]
  refine ⟨⟨⟨fun hmem ↦ ?_, fun hmem ↦ ?_⟩, fun hmem ↦ ?_⟩, hequals, fun hmem ↦ ?_⟩
  · simp [parts.isBlank_indent brace hmem] at hblank
  · simp [parts.isNameChar_field brace hmem] at hname
  · simp [parts.isBlank_gap brace hmem] at hblank
  · simp [parts.isBlank_space brace hmem] at hblank

/-- A brace in an assignment belongs to the value, so what stands before it is an assignment too. -/
theorem exists_of_text_eq_append (parts : Assignment) (hbrace : brace = '{' ∨ brace = '}')
    (htext : parts.text = before ++ brace :: after) :
    ∃ shorter : Assignment, shorter.text = before ∧ (∀ c ∈ after, isBlank c = false) ∧
      parts.value = shorter.value ++ brace :: after := by
  have hlead : parts.indent ++ parts.field ++ parts.gap ++ '=' :: parts.space ++ parts.value =
      before ++ brace :: after := by
    rw [← htext]
    simp [text]
  obtain ⟨begun, hbefore, hvalue⟩ :=
    exists_middle_of_notMem (parts.brace_notMem_lead hbrace) hlead
  have hsolid := parts.isBlank_value
  rw [hvalue, List.forall_mem_append, List.forall_mem_cons] at hsolid
  refine ⟨{ parts with value := begun, isBlank_value := hsolid.1 }, ?_, hsolid.2.2, hvalue⟩
  rw [hbefore]
  simp [text]

end Prolong

end Assignment

namespace CursorLine

section Behind

variable {before after : List Char} {brace : Char}

/-- The key being typed does not reach back beyond a brace, and may begin right behind it. -/
theorem partialKeyOf_behind_brace (hbrace : brace = '{' ∨ brace = '}')
    (hline : '\n' ∉ before ++ brace :: after) :
    partialKeyOf (before ++ brace :: after) = partialKeyOf after := by
  have hafter : '\n' ∉ after := fun hmem ↦ hline (by simp [hmem])
  obtain ⟨-, hname, -⟩ := brace_class hbrace
  obtain ⟨inner, run, hrun⟩ := exists_longestRun after
  obtain ⟨rfl, hnames, hlast⟩ := longestRun_iff.mp hrun
  have hends : ∀ c, c ∈ (before ++ brace :: inner).getLast? ↔
      c ∈ inner.getLast? ∨ inner = [] ∧ c = brace := by
    intro c
    rcases List.eq_nil_or_concat inner with rfl | ⟨front, d, rfl⟩
    · simp [eq_comm]
    · have hsplit : before ++ brace :: (front ++ [d]) = before ++ brace :: front ++ [d] := by simp
      rw [List.concat_eq_append, hsplit, List.getLast?_concat, List.getLast?_concat]
      simp
  have hwhole : LongestRun (before ++ brace :: (inner ++ run)) (before ++ brace :: inner) run := by
    refine longestRun_iff.mpr ⟨by simp, hnames, fun c hc ↦ ?_⟩
    rcases (hends c).mp hc with hinner | ⟨-, rfl⟩
    · exact hlast c hinner
    · exact hname
  have hfollow : KeyMayFollow (before ++ brace :: inner) ↔ KeyMayFollow inner := by
    refine ⟨fun h c hc ↦ h c ((hends c).mpr (.inl hc)), fun h c hc ↦ ?_⟩
    rcases (hends c).mp hc with hinner | ⟨-, rfl⟩
    · exact h c hinner
    · exact .inr hbrace
  rw [partialKeyOf_eq hline hwhole, partialKeyOf_eq hafter hrun]
  simp only [hfollow]

/-- Assumes: a brace that does not prolong a value. The line is read as a key. -/
theorem ofText_behind_brace (hbrace : brace = '{' ∨ brace = '}')
    (hline : '\n' ∉ before ++ brace :: after) (hcode : '#' ∉ before ++ brace :: after)
    (hblock : ¬ ContinuesValue before brace after) :
    ofText (before ++ brace :: after) = { partialKey := partialKeyOf after } := by
  rw [← partialKeyOf_behind_brace hbrace hline]
  refine ofText_of_no_value hcode hline fun parts htext ↦ ?_
  obtain ⟨shorter, hbefore, hsolid, hvalue⟩ := parts.exists_of_text_eq_append hbrace htext
  by_contra hne
  exact hblock ⟨shorter, hbefore, hsolid, by rwa [← hvalue]⟩

/-- Assumes: a brace that prolongs a value. The value goes on to the cursor. -/
theorem ofText_prolonged (parts : Assignment) (hbrace : brace = '{' ∨ brace = '}')
    (hline : '\n' ∉ parts.text ++ brace :: after) (hcode : '#' ∉ parts.text ++ brace :: after)
    (hsolid : ∀ c ∈ after, isBlank c = false) (hvalue : parts.value ++ brace :: after ≠ ['{']) :
    ofText (parts.text ++ brace :: after) =
      { fieldName := some (String.ofList parts.field)
        partialValue := some (String.ofList (parts.value ++ brace :: after)) } := by
  have hmore : ∀ c ∈ brace :: after, isBlank c = false :=
    List.forall_mem_cons.mpr ⟨(brace_class hbrace).1, hsolid⟩
  rw [← parts.text_prolong hmore] at hline hcode ⊢
  rw [ofText_assignment hcode hline hvalue, if_neg (by simp [Assignment.prolong])]
  rfl

/-- A value that is typed on a line without braces has no brace. -/
theorem notMem_partialValue {text : List Char} {value : String} (hline : '\n' ∉ text)
    (hbrace : brace ∉ text) (hvalue : (ofText text).partialValue = some value) :
    brace ∉ value.toList := by
  obtain ⟨reading, hfits⟩ := exists_fits text
  rw [ofText_eq_shape hline hfits] at hvalue
  cases reading with
  | comment | field parts | key before run => simp [Reading.shape] at hvalue
  | value parts =>
    obtain ⟨-, rfl, -, -⟩ := hfits
    obtain rfl : String.ofList parts.value = value := by simpa [Reading.shape] using hvalue
    intro hmem
    rw [String.toList_ofList] at hmem
    exact hbrace (by simp [Assignment.text, hmem])

theorem fieldName_of_isAssignment {text : List Char} (hline : '\n' ∉ text) (hcode : '#' ∉ text)
    (hbrace : '{' ∉ text) (hassignment : IsAssignment text) : (ofText text).fieldName ≠ none := by
  obtain ⟨parts, rfl⟩ := hassignment
  have hvalue : parts.value ≠ ['{'] := by
    intro hvalue
    exact hbrace (by simp [Assignment.text, hvalue])
  rw [ofText_assignment hcode hline hvalue]
  split <;> simp [Reading.shape]

theorem ofText_behind_brace_eq_iff (hbrace : brace = '{' ∨ brace = '}')
    (hline : '\n' ∉ before ++ brace :: after) (hcode : '#' ∉ before ++ brace :: after)
    (hinner : '{' ∉ after ∧ '}' ∉ after) :
    ofText (before ++ brace :: after) = ofText after ↔
      ¬ ContinuesValue before brace after ∧ ¬ IsAssignment after := by
  have hline' : '\n' ∉ after := fun hmem ↦ hline (by simp [hmem])
  have hcode' : '#' ∉ after := fun hmem ↦ hcode (by simp [hmem])
  constructor
  · intro hsame
    have hblock : ¬ ContinuesValue before brace after := by
      rintro ⟨parts, rfl, hsolid, hvalue⟩
      have hfree : brace ∉ after := by
        rcases hbrace with rfl | rfl
        · exact hinner.1
        · exact hinner.2
      rw [ofText_prolonged parts hbrace hline hcode hsolid hvalue] at hsame
      have hmem := notMem_partialValue hline' hfree (congrArg partialValue hsame.symm)
      simp at hmem
    refine ⟨hblock, fun hassignment ↦ ?_⟩
    rw [ofText_behind_brace hbrace hline hcode hblock] at hsame
    exact fieldName_of_isAssignment hline' hcode' hinner.1 hassignment (by rw [← hsame])
  · rintro ⟨hblock, hother⟩
    rw [ofText_behind_brace hbrace hline hcode hblock]
    exact (ofText_of_no_value hcode' hline' fun parts htext ↦ absurd ⟨parts, htext⟩ hother).symm

/-- Assumes: a line without a comment and without a line feed, and no brace behind the one that is
looked at. What is typed is what would be typed without the text up to the brace, unless the brace
prolongs a value or an assignment stands behind it. Unless it prolongs a value, what is typed is
the key behind it, and otherwise it is the value. -/
theorem ofLine_behind_brace_iff (before after : List Char) (brace : Char)
    (hbrace : brace = '{' ∨ brace = '}') (hbefore : '\n' ∉ before ∧ '#' ∉ before)
    (hafter : '\n' ∉ after ∧ '#' ∉ after) (hinner : '{' ∉ after ∧ '}' ∉ after) :
    (ofLine (before ++ brace :: after) (before ++ brace :: after).length =
        ofLine after after.length ↔
      ¬ ContinuesValue before brace after ∧ ¬ IsAssignment after) ∧
    (¬ ContinuesValue before brace after →
      ofLine (before ++ brace :: after) (before ++ brace :: after).length =
        { partialKey := partialKeyOf after }) ∧
    ∀ parts : Assignment, parts.text = before → (∀ c ∈ after, isBlank c = false) →
      parts.value ++ brace :: after ≠ ['{'] →
        ofLine (before ++ brace :: after) (before ++ brace :: after).length =
          { fieldName := some (String.ofList parts.field)
            partialValue := some (String.ofList (parts.value ++ brace :: after)) } := by
  have hline : '\n' ∉ before ++ brace :: after := by
    rcases hbrace with rfl | rfl <;> simp [hbefore.1, hafter.1]
  have hcode : '#' ∉ before ++ brace :: after := by
    rcases hbrace with rfl | rfl <;> simp [hbefore.2, hafter.2]
  simp only [ofLine, Int.toNat_natCast, List.take_length]
  refine ⟨ofText_behind_brace_eq_iff hbrace hline hcode hinner,
    ofText_behind_brace hbrace hline hcode, ?_⟩
  rintro parts rfl hsolid hvalue
  exact ofText_prolonged parts hbrace hline hcode hsolid hvalue

/-- Behind the brace a value is expected, but the line is read as if a key were. -/
theorem ofLine_behind_brace_misses_field :
    ('\n' ∉ "trigger = ".toList ∧ '#' ∉ "trigger = ".toList) ∧
      ('\n' ∉ " culture = ".toList ∧ '#' ∉ " culture = ".toList) ∧
      ('{' ∉ " culture = ".toList ∧ '}' ∉ " culture = ".toList) ∧
      ofLine ("trigger = ".toList ++ '{' :: " culture = ".toList)
        ("trigger = ".toList ++ '{' :: " culture = ".toList).length = {} ∧
      ofLine " culture = ".toList " culture = ".toList.length =
        { afterEquals := true, fieldName := some "culture" } := by
  decide +kernel

/-- The blank behind the brace ends the value, and the key that follows has no equals sign. -/
theorem ofLine_behind_brace_iff_innerKey :
    ofLine ("trigger = ".toList ++ '{' :: " is_ad".toList)
        ("trigger = ".toList ++ '{' :: " is_ad".toList).length =
      ofLine " is_ad".toList " is_ad".toList.length := by
  refine (ofLine_behind_brace_iff "trigger = ".toList " is_ad".toList '{' (.inl rfl) (by decide)
    (by decide) (by decide)).1.mpr ⟨?_, ?_⟩
  · rintro ⟨-, -, hsolid, -⟩
    exact absurd (hsolid ' ' (by decide)) (by decide)
  · rintro ⟨parts, htext⟩
    have hequals : '=' ∈ parts.text := by simp [Assignment.text]
    rw [htext] at hequals
    exact absurd hequals (by decide)

end Behind

end CursorLine

end BlockScope
