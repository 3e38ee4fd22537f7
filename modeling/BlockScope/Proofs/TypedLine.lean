import BlockScope.Proofs.Header
import BlockScope.Script.CursorLine

/-!
What is being typed, read off the text before the cursor. A text without a comment is an assignment
without a value yet, an assignment with a value, or something else that ends in a run of name
characters. Blanks, name characters and the equals sign have no member in common, so a text has the
parts of an assignment in at most one way. Every text has exactly one reading, and the shape of the
line is the shape of that reading.
-/

set_option autoImplicit false
set_option relaxedAutoImplicit false

namespace BlockScope

/-! ### Assignments -/

/-- Assumes: two runs of a class, behind neither of which the class goes on. If the texts are the
same, so are the runs. -/
theorem run_append_inj {p : Char → Bool} {run rest run' rest' : List Char}
    (hrun : ∀ c ∈ run, p c = true) (hrest : ∀ c ∈ rest.head?, p c = false)
    (hrun' : ∀ c ∈ run', p c = true) (hrest' : ∀ c ∈ rest'.head?, p c = false)
    (hsame : run ++ rest = run' ++ rest') : run = run' ∧ rest = rest' := by
  have htake := congrArg (List.takeWhile p) hsame
  have hdrop := congrArg (List.dropWhile p) hsame
  rw [takeWhile_run hrun hrest, takeWhile_run hrun' hrest'] at htake
  rw [dropWhile_run hrun hrest, dropWhile_run hrun' hrest'] at hdrop
  exact ⟨htake, hdrop⟩

/-- The parts of an assignment: blanks, a field, blanks, the equals sign, blanks, and a value, which
may still be empty. -/
@[ext] structure Assignment where
  indent : List Char
  field : List Char
  gap : List Char
  space : List Char
  value : List Char
  isBlank_indent : ∀ c ∈ indent, isBlank c = true
  field_ne_nil : field ≠ []
  isNameChar_field : ∀ c ∈ field, isNameChar c = true
  isBlank_gap : ∀ c ∈ gap, isBlank c = true
  isBlank_space : ∀ c ∈ space, isBlank c = true
  isBlank_value : ∀ c ∈ value, isBlank c = false

namespace Assignment

def text (parts : Assignment) : List Char :=
  parts.indent ++ (parts.field ++ (parts.gap ++ '=' :: (parts.space ++ parts.value)))

section Ends

variable (parts : Assignment) (rest : List Char)

theorem isBlank_head?_field : ∀ c ∈ (parts.field ++ rest).head?, isBlank c = false := by
  intro c hc
  obtain ⟨d, field, hfield⟩ := List.exists_cons_of_ne_nil parts.field_ne_nil
  rw [hfield] at hc
  obtain rfl : d = c := by simpa using hc
  exact isBlank_eq_false_of_isNameChar (parts.isNameChar_field d (by simp [hfield]))

theorem isNameChar_head?_gap :
    ∀ c ∈ (parts.gap ++ '=' :: rest).head?, isNameChar c = false := by
  intro c hc
  cases hgap : parts.gap with
  | nil =>
    rw [hgap] at hc
    obtain rfl : '=' = c := by simpa using hc
    decide
  | cons d gap =>
    rw [hgap] at hc
    obtain rfl : d = c := by simpa using hc
    exact isNameChar_eq_false_of_isBlank (parts.isBlank_gap d (by simp [hgap]))

theorem isBlank_head?_equals : ∀ c ∈ ('=' :: rest).head?, isBlank c = false := by
  intro c hc
  obtain rfl : '=' = c := by simpa using hc
  decide

theorem isBlank_head?_value : ∀ c ∈ parts.value.head?, isBlank c = false :=
  fun c hc ↦ parts.isBlank_value c (List.mem_of_head? hc)

end Ends

/-- A text is an assignment in at most one way. -/
theorem text_inj {first second : Assignment} (htext : first.text = second.text) :
    first = second := by
  obtain ⟨hindent, htext⟩ := run_append_inj first.isBlank_indent (first.isBlank_head?_field _)
    second.isBlank_indent (second.isBlank_head?_field _) htext
  obtain ⟨hfield, htext⟩ := run_append_inj first.isNameChar_field (first.isNameChar_head?_gap _)
    second.isNameChar_field (second.isNameChar_head?_gap _) htext
  obtain ⟨hgap, htext⟩ := run_append_inj first.isBlank_gap (isBlank_head?_equals _)
    second.isBlank_gap (isBlank_head?_equals _) htext
  obtain ⟨hspace, hvalue⟩ := run_append_inj first.isBlank_space first.isBlank_head?_value
    second.isBlank_space second.isBlank_head?_value (List.cons.inj htext).2
  exact Assignment.ext hindent hfield hgap hspace hvalue

theorem readAssignment?_text (parts : Assignment) :
    CursorLine.readAssignment? parts.text = some (String.ofList parts.field, parts.value) := by
  have hindent := dropWhile_run parts.isBlank_indent (parts.isBlank_head?_field
    (parts.gap ++ '=' :: (parts.space ++ parts.value)))
  have hname := takeWhile_run parts.isNameChar_field
    (parts.isNameChar_head?_gap (parts.space ++ parts.value))
  have hfield := dropWhile_run parts.isNameChar_field
    (parts.isNameChar_head?_gap (parts.space ++ parts.value))
  have hgap := dropWhile_run parts.isBlank_gap (isBlank_head?_equals (parts.space ++ parts.value))
  have hspace := dropWhile_run parts.isBlank_space parts.isBlank_head?_value
  simp only [CursorLine.readAssignment?, text, hindent, hname, hfield, hgap, hspace,
    List.isEmpty_iff, parts.field_ne_nil, if_false]

end Assignment

namespace CursorLine

section Read

variable {text rest : List Char} {field : String}

/-- What is read as a field and a rest has the parts of an assignment, but blanks may stand inside
the rest. -/
theorem exists_parts_of_readAssignment? (hread : readAssignment? text = some (field, rest)) :
    ∃ indent name gap space, text = indent ++ (name ++ (gap ++ '=' :: (space ++ rest))) ∧
      (∀ c ∈ indent, isBlank c = true) ∧ name ≠ [] ∧ (∀ c ∈ name, isNameChar c = true) ∧
      (∀ c ∈ gap, isBlank c = true) ∧ ∀ c ∈ space, isBlank c = true := by
  simp only [readAssignment?, List.isEmpty_iff] at hread
  split at hread
  · contradiction
  · rename_i hne
    split at hread
    · rename_i behind hequals
      simp only [Option.some.injEq, Prod.mk.injEq] at hread
      obtain ⟨rfl, rfl⟩ := hread
      refine ⟨text.takeWhile isBlank, (text.dropWhile isBlank).takeWhile isNameChar,
        ((text.dropWhile isBlank).dropWhile isNameChar).takeWhile isBlank,
        behind.takeWhile isBlank, ?_, fun c ↦ List.mem_takeWhile_imp, hne,
        fun c ↦ List.mem_takeWhile_imp, fun c ↦ List.mem_takeWhile_imp,
        fun c ↦ List.mem_takeWhile_imp⟩
      rw [List.takeWhile_append_dropWhile, ← hequals, List.takeWhile_append_dropWhile,
        List.takeWhile_append_dropWhile, List.takeWhile_append_dropWhile]
    · contradiction

theorem suffix_of_readAssignment? (hread : readAssignment? text = some (field, rest)) :
    rest <:+ text := by
  obtain ⟨indent, name, gap, space, rfl, -⟩ := exists_parts_of_readAssignment? hread
  exact ⟨indent ++ name ++ gap ++ '=' :: space, by simp⟩

theorem exists_assignment_of_readAssignment?
    (hread : readAssignment? text = some (field, rest)) (hrest : ∀ c ∈ rest, isBlank c = false) :
    ∃ parts : Assignment, parts.text = text ∧ parts.value = rest := by
  obtain ⟨indent, name, gap, space, rfl, hindent, hne, hname, hgap, hspace⟩ :=
    exists_parts_of_readAssignment? hread
  exact ⟨⟨indent, name, gap, space, rest, hindent, hne, hname, hgap, hspace, hrest⟩, rfl, rfl⟩

theorem withoutFinalLineFeed_of_notMem (htext : '\n' ∉ text) :
    withoutFinalLineFeed text = text := by
  unfold withoutFinalLineFeed
  split
  · rename_i rest hreverse
    exact absurd (List.mem_reverse.mp (by simp [hreverse])) htext
  · rfl

theorem readValue?_of_solid (hrest : '\n' ∉ rest) (hne : rest ≠ []) (hbrace : rest ≠ ['{'])
    (hsolid : ∀ c ∈ rest, isBlank c = false) : readValue? rest = some (String.ofList rest) := by
  have hblank : rest.any isBlank = false := by
    simpa using hsolid
  simp [readValue?, withoutFinalLineFeed_of_notMem hrest, hne, hblank, hbrace]

theorem readValue?_of_no_value (hrest : '\n' ∉ rest)
    (hother : (∀ c ∈ rest, isBlank c = false) → rest = ['{']) : readValue? rest = none := by
  by_cases hsolid : ∀ c ∈ rest, isBlank c = false
  · rw [hother hsolid]
    decide
  · have hblank : rest.any isBlank = true := by
      simpa using hsolid
    simp [readValue?, withoutFinalLineFeed_of_notMem hrest, hblank]

end Read

/-! ### Runs of name characters at the end -/

/-- The run is the longest end of a text that has only name characters. -/
structure LongestRun (text before run : List Char) : Prop where
  text_eq : text = before ++ run
  isNameChar_run : ∀ c ∈ run, isNameChar c = true
  longest : ∀ ending, ending <:+ text → (∀ c ∈ ending, isNameChar c = true) →
    ending.length ≤ run.length

/-- A key may begin behind a text. -/
def KeyMayFollow (before : List Char) : Prop :=
  ∀ c ∈ before.getLast?, isBlank c = true ∨ c = '{' ∨ c = '}'

section Run

variable {text before run : List Char}

theorem mayPrecedePartialKey_iff :
    mayPrecedePartialKey before.getLast? = true ↔ KeyMayFollow before := by
  unfold KeyMayFollow
  cases before.getLast? <;> simp [mayPrecedePartialKey, or_assoc]

/-- A run of name characters is the longest one where no name character stands before it. -/
theorem longestRun_iff :
    LongestRun text before run ↔ text = before ++ run ∧ (∀ c ∈ run, isNameChar c = true) ∧
      ∀ c ∈ before.getLast?, isNameChar c = false := by
  constructor
  · rintro ⟨rfl, hrun, hlongest⟩
    refine ⟨rfl, hrun, fun c hc ↦ ?_⟩
    by_contra hname
    rw [Bool.not_eq_false] at hname
    obtain ⟨front, rfl⟩ := List.getLast?_eq_some_iff.mp hc
    have hlength := hlongest (c :: run) ⟨front, by simp⟩ (by simpa [hname] using hrun)
    rw [List.length_cons] at hlength
    omega
  · rintro ⟨rfl, hrun, hlast⟩
    refine ⟨rfl, hrun, fun ending hending hname ↦ ?_⟩
    by_contra hlonger
    obtain ⟨extra, rfl⟩ : run <:+ ending :=
      List.suffix_of_suffix_length_le (List.suffix_append before run) hending (by omega)
    obtain ⟨front, hfront⟩ := hending
    obtain rfl : front ++ extra = before :=
      List.append_cancel_right (by rw [List.append_assoc, hfront])
    have hne : extra ≠ [] := by
      rintro rfl
      simp at hlonger
    have hends : (front ++ extra).getLast? = some (extra.getLast hne) := by
      simp [List.getLast?_append, List.getLast?_eq_some_getLast hne]
    have hextra := hname (extra.getLast hne) (by simp)
    rw [hlast _ hends] at hextra
    contradiction

theorem exists_longestRun (text : List Char) : ∃ before run, LongestRun text before run := by
  refine ⟨(text.reverse.dropWhile isNameChar).reverse, (text.reverse.takeWhile isNameChar).reverse,
    longestRun_iff.mpr ⟨?_, fun c hc ↦ ?_, fun c hc ↦ ?_⟩⟩
  · rw [← List.reverse_append, List.takeWhile_append_dropWhile, List.reverse_reverse]
  · exact List.mem_takeWhile_imp (List.mem_reverse.mp hc)
  · have hhead := List.head?_dropWhile_not isNameChar text.reverse
    rw [← List.getLast?_reverse, hc] at hhead
    simpa using hhead

theorem LongestRun.unique {before' run' : List Char} (hrun : LongestRun text before run)
    (hrun' : LongestRun text before' run') : before = before' ∧ run = run' := by
  have hlength : run.length = run'.length :=
    Nat.le_antisymm (hrun'.longest run ⟨before, hrun.text_eq.symm⟩ hrun.isNameChar_run)
      (hrun.longest run' ⟨before', hrun'.text_eq.symm⟩ hrun'.isNameChar_run)
  exact List.append_inj' (hrun.text_eq.symm.trans hrun'.text_eq) hlength

instance (before : List Char) : Decidable (KeyMayFollow before) :=
  decidable_of_iff _ mayPrecedePartialKey_iff

theorem partialKeyOf_eq (htext : '\n' ∉ text) (hrun : LongestRun text before run) :
    partialKeyOf text = if KeyMayFollow before then String.ofList run else "" := by
  obtain ⟨rfl, hname, hlast⟩ := longestRun_iff.mp hrun
  have hnames : ∀ c ∈ run.reverse, isNameChar c = true := by
    simpa using hname
  have hhead : ∀ c ∈ before.reverse.head?, isNameChar c = false := by
    simpa using hlast
  simp only [partialKeyOf, withoutFinalLineFeed_of_notMem htext, List.reverse_append,
    dropWhile_run hnames hhead, takeWhile_run hnames hhead, List.head?_reverse,
    mayPrecedePartialKey_iff, List.reverse_reverse]

end Run

/-! ### Readings -/

/-- What the text before a cursor can be read as, with the parts that it has then. -/
inductive Reading
  /-- The cursor is inside a comment. -/
  | comment
  /-- A field and an equals sign: a value is expected. -/
  | field (parts : Assignment)
  /-- A value is being typed. -/
  | value (parts : Assignment)
  /-- A key may be typed: the text ends in a run of name characters. -/
  | key (before run : List Char)

namespace Reading

def shape : Reading → CursorLine
  | comment => {}
  | field parts => { afterEquals := true, fieldName := some (String.ofList parts.field) }
  | value parts =>
    { fieldName := some (String.ofList parts.field)
      partialValue := some (String.ofList parts.value) }
  | key before run => { partialKey := if KeyMayFollow before then String.ofList run else "" }

/-- A text can be read that way. A lone opening brace is not a value. -/
def Fits (text : List Char) : Reading → Prop
  | comment => '#' ∈ text
  | field parts => '#' ∉ text ∧ parts.text = text ∧ parts.value = []
  | value parts => '#' ∉ text ∧ parts.text = text ∧ parts.value ≠ [] ∧ parts.value ≠ ['{']
  | key before run =>
    '#' ∉ text ∧ (∀ parts : Assignment, parts.text = text → parts.value = ['{']) ∧
      LongestRun text before run

section Unique

variable {text : List Char} {reading : Reading}

theorem Fits.eq_comment (hfits : reading.Fits text) (hcomment : '#' ∈ text) :
    reading = .comment := by
  cases reading with
  | comment => rfl
  | field parts | value parts | key before run => exact absurd hcomment hfits.1

theorem Fits.eq_of_assignment (hfits : reading.Fits text) (hcode : '#' ∉ text)
    {parts : Assignment} (htext : parts.text = text) (hbrace : parts.value ≠ ['{']) :
    reading = .field parts ∧ parts.value = [] ∨ reading = .value parts ∧ parts.value ≠ [] := by
  cases reading with
  | comment => exact absurd hfits hcode
  | field other =>
    obtain ⟨-, hother, hvalue⟩ := hfits
    obtain rfl := Assignment.text_inj (htext.trans hother.symm)
    exact .inl ⟨rfl, hvalue⟩
  | value other =>
    obtain ⟨-, hother, hvalue, -⟩ := hfits
    obtain rfl := Assignment.text_inj (htext.trans hother.symm)
    exact .inr ⟨rfl, hvalue⟩
  | key before run => exact absurd (hfits.2.1 parts htext) hbrace

theorem Fits.eq_key (hfits : reading.Fits text) (hcode : '#' ∉ text)
    (hother : ∀ parts : Assignment, parts.text = text → parts.value = ['{'])
    {before run : List Char} (hrun : LongestRun text before run) : reading = .key before run := by
  cases reading with
  | comment => exact absurd hfits hcode
  | field parts =>
    obtain ⟨-, htext, hvalue⟩ := hfits
    simp [hother parts htext] at hvalue
  | value parts => exact absurd (hother parts hfits.2.1) hfits.2.2.2
  | key before' run' =>
    obtain ⟨rfl, rfl⟩ := hfits.2.2.unique hrun
    rfl

/-- No text can be read in two ways. -/
theorem Fits.unique {other : Reading} (hfits : reading.Fits text) (hother : other.Fits text) :
    other = reading := by
  cases reading with
  | comment => exact hother.eq_comment hfits
  | field parts =>
    obtain ⟨hcode, htext, hvalue⟩ := hfits
    rcases hother.eq_of_assignment hcode htext (by simp [hvalue]) with ⟨hsame, -⟩ | ⟨-, hne⟩
    · exact hsame
    · exact absurd hvalue hne
  | value parts =>
    obtain ⟨hcode, htext, hvalue, hbrace⟩ := hfits
    rcases hother.eq_of_assignment hcode htext hbrace with ⟨-, hnil⟩ | ⟨hsame, -⟩
    · exact absurd hnil hvalue
    · exact hsame
  | key before run =>
    obtain ⟨hcode, hblock, hrun⟩ := hfits
    exact hother.eq_key hcode hblock hrun

end Unique

end Reading

section Shape

variable {text : List Char}

theorem ofText_assignment {parts : Assignment} (hcode : '#' ∉ parts.text)
    (hline : '\n' ∉ parts.text) (hbrace : parts.value ≠ ['{']) :
    ofText parts.text =
      if parts.value = [] then (Reading.field parts).shape else (Reading.value parts).shape := by
  have hvalue : '\n' ∉ parts.value := fun hmem ↦ hline (by simp [Assignment.text, hmem])
  unfold ofText
  rw [if_neg (by simpa using hcode), parts.readAssignment?_text]
  by_cases hne : parts.value = []
  · rw [hne, if_pos rfl]
    rfl
  · rw [if_neg hne]
    simp [readValue?_of_solid hvalue hne hbrace parts.isBlank_value, Reading.shape]

/-- Assumes: a text that is no assignment, or that opens a block. A key is being typed. -/
theorem ofText_of_no_value (hcode : '#' ∉ text) (hline : '\n' ∉ text)
    (hother : ∀ parts : Assignment, parts.text = text → parts.value = ['{']) :
    ofText text = { partialKey := partialKeyOf text } := by
  unfold ofText
  rw [if_neg (by simpa using hcode)]
  cases hread : readAssignment? text with
  | none => rfl
  | some found =>
    obtain ⟨field, rest⟩ := found
    have hrest : '\n' ∉ rest := fun hmem ↦ hline ((suffix_of_readAssignment? hread).mem hmem)
    have hbrace : (∀ c ∈ rest, isBlank c = false) → rest = ['{'] := by
      intro hsolid
      obtain ⟨parts, htext, rfl⟩ := exists_assignment_of_readAssignment? hread hsolid
      exact hother parts htext
    cases rest with
    | nil => simp at hbrace
    | cons c rest => simp [readValue?_of_no_value hrest hbrace]

theorem ofText_eq_shape (hline : '\n' ∉ text) {reading : Reading} (hfits : reading.Fits text) :
    ofText text = reading.shape := by
  cases reading with
  | comment =>
    have hcomment : '#' ∈ text := hfits
    unfold ofText
    rw [if_pos (by simpa using hcomment)]
    rfl
  | field parts =>
    obtain ⟨hcode, rfl, hvalue⟩ := hfits
    rw [ofText_assignment hcode hline (by simp [hvalue]), if_pos hvalue]
  | value parts =>
    obtain ⟨hcode, rfl, hvalue, hbrace⟩ := hfits
    rw [ofText_assignment hcode hline hbrace, if_neg hvalue]
  | key before run =>
    obtain ⟨hcode, hother, hrun⟩ := hfits
    rw [ofText_of_no_value hcode hline hother, partialKeyOf_eq hline hrun]
    rfl

theorem exists_fits (text : List Char) : ∃ reading : Reading, reading.Fits text := by
  by_cases hcode : '#' ∈ text
  · exact ⟨.comment, hcode⟩
  by_cases hother : ∀ parts : Assignment, parts.text = text → parts.value = ['{']
  · obtain ⟨before, run, hrun⟩ := exists_longestRun text
    exact ⟨.key before run, hcode, hother, hrun⟩
  · simp only [not_forall] at hother
    obtain ⟨parts, htext, hbrace⟩ := hother
    by_cases hvalue : parts.value = []
    · exact ⟨.field parts, hcode, htext, hvalue⟩
    · exact ⟨.value parts, hcode, htext, hvalue, hbrace⟩

/-- Assumes: a line without a line feed. The text before the cursor has exactly one reading, and
the line has the shape of that reading. -/
theorem ofLine_has_one_reading (line : List Char) (character : Int) (hline : '\n' ∉ line) :
    ∃ reading : Reading, reading.Fits (line.take character.toNat) ∧
      ofLine line character = reading.shape ∧
      ∀ other : Reading, other.Fits (line.take character.toNat) → other = reading := by
  obtain ⟨reading, hfits⟩ := exists_fits (line.take character.toNat)
  have htake : '\n' ∉ line.take character.toNat := fun hmem ↦ hline (List.mem_of_mem_take hmem)
  exact ⟨reading, hfits, ofText_eq_shape htake hfits, fun other hother ↦ hfits.unique hother⟩

/-- An assignment whose value begins with an equals sign. -/
def doubledEquals : Assignment where
  indent := ['\t']
  field := ['a', 'g', 'e']
  gap := [' ']
  space := []
  value := ['=', 'b']
  isBlank_indent := List.all_eq_true.mp (by decide)
  field_ne_nil := by simp
  isNameChar_field := List.all_eq_true.mp (by decide)
  isBlank_gap := List.all_eq_true.mp (by decide)
  isBlank_space := by simp
  isBlank_value := by simpa using (by decide : isBlank '=' = false ∧ isBlank 'b' = false)

/-- The second equals sign belongs to the value, and the comment is behind the cursor. -/
theorem ofLine_has_one_reading_doubledEquals :
    '\n' ∉ "\tage ==b # c".toList ∧
      ofLine "\tage ==b # c".toList 8 = { fieldName := some "age", partialValue := some "=b" } ∧
      ∀ other : Reading, other.Fits doubledEquals.text → other = .value doubledEquals := by
  have hline : '\n' ∉ "\tage ==b # c".toList := by decide
  have hcursor : "\tage ==b # c".toList.take (8 : Int).toNat = doubledEquals.text := by decide
  have hfits : (Reading.value doubledEquals).Fits doubledEquals.text :=
    ⟨by decide, rfl, by decide, by decide⟩
  obtain ⟨reading, -, hshape, hunique⟩ :=
    ofLine_has_one_reading "\tage ==b # c".toList 8 hline
  rw [hcursor] at hunique
  obtain rfl := hunique _ hfits
  exact ⟨hline, hshape, hunique⟩

end Shape

end CursorLine

end BlockScope
