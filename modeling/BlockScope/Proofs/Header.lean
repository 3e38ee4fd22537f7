import BlockScope.Block.Brace
import BlockScope.Proofs.Occurrence
import Mathlib.Data.List.TakeWhile

/-!
Where the headers of a line stand. The classes of name characters, blanks and operator signs have
no member in common, so a text is the spelling of at most one header, and a name character in it
has only name characters before it. The header that a text ends with, and the header that opens a
brace, are therefore both the one whose spelling ends there and whose name has no name character
in front of it: the search from the left for headers with their braces and the search for a
dangling header find the same thing, and neither looks beyond the brace.
-/

set_option autoImplicit false
set_option relaxedAutoImplicit false

namespace BlockScope

section Runs

variable {p : Char → Bool} {run rest : List Char}

/-- Assumes: a run of characters of a class, behind which none of them follows. -/
theorem takeWhile_run (hrun : ∀ c ∈ run, p c = true) (hrest : ∀ c ∈ rest.head?, p c = false) :
    (run ++ rest).takeWhile p = run := by
  rw [List.takeWhile_append_of_pos hrun]
  cases rest with
  | nil => simp
  | cons c rest => simp [hrest c (by simp)]

theorem dropWhile_run (hrun : ∀ c ∈ run, p c = true) (hrest : ∀ c ∈ rest.head?, p c = false) :
    (run ++ rest).dropWhile p = rest := by
  rw [List.dropWhile_append_of_pos hrun]
  cases rest with
  | nil => simp
  | cons c rest => simp [hrest c (by simp)]

/-- Assumes: a run of characters of a class, behind which none of them stands. In front of a
character of the class there are then only characters of the class. -/
theorem all_before_of_run {behind front back : List Char} {c : Char}
    (hrun : ∀ d ∈ run, p d = true) (hbehind : ∀ d ∈ behind, p d = false)
    (hsplit : run ++ behind = front ++ c :: back) (hc : p c = true) :
    ∀ d ∈ front, p d = true := by
  rcases List.append_eq_append_iff.mp hsplit with ⟨middle, hfront, hmiddle⟩ | ⟨middle, rfl, -⟩
  · have hmem : c ∈ behind := by
      rw [hmiddle]
      simp
    rw [hbehind c hmem] at hc
    contradiction
  · intro d hd
    exact hrun d (List.mem_append_left _ hd)

/-- Assumes: a run of characters of a class, with others behind it, and another run of the class
that begins further on in the same text. It begins behind those others, because in front of any
place before them there is a character of the class. -/
theorem length_le_of_run {lead behind more lead' rest' : List Char} {c : Char}
    (hrun : ∀ d ∈ run, p d = true) (hbehind : ∀ d ∈ behind, p d = false)
    (htext : lead ++ (run ++ behind ++ more) = lead' ++ c :: rest') (hc : p c = true)
    (hlead' : ∀ d ∈ lead'.getLast?, p d = false) (hlength : lead.length < lead'.length) :
    lead.length + (run ++ behind).length ≤ lead'.length := by
  obtain ⟨between, rfl⟩ : lead <+: lead' :=
    List.prefix_of_prefix_length_le ⟨_, htext⟩ (List.prefix_append lead' (c :: rest'))
      (Nat.le_of_lt hlength)
  have hne : between ≠ [] := by
    rintro rfl
    simp at hlength
  have hlast : (lead ++ between).getLast? = some (between.getLast hne) := by
    rw [List.getLast?_append, List.getLast?_eq_some_getLast hne]
    rfl
  rw [List.append_assoc lead between] at htext
  rcases List.append_eq_append_iff.mp (List.append_cancel_left htext) with
    ⟨extra, rfl, -⟩ | ⟨extra, hsplit, hrest⟩
  · simp only [List.length_append]
    omega
  · cases extra with
    | nil => rw [hsplit, List.append_nil, List.length_append]
    | cons d extra =>
      obtain ⟨rfl, -⟩ := List.cons.inj hrest
      have hbefore := all_before_of_run hrun hbehind hsplit hc _ (List.getLast_mem hne)
      rw [hlead' _ hlast] at hbefore
      contradiction

end Runs

section Classes

theorem isAlphanumeric_eq_false_of_isBlank {c : Char} (hc : isBlank c = true) :
    isAlphanumeric c = false := by
  have htables : ∀ range ∈ blankRanges, ∀ code ∈ List.range' range.1 (range.2 + 1 - range.1),
      inRanges alphanumericRanges code = false := by
    decide +kernel
  obtain ⟨range, hrange, hfirst, hlast⟩ := exists_range_of_inRanges hc
  exact htables range hrange _ (List.mem_range'_1.mpr ⟨hfirst, by omega⟩)

theorem isNameChar_eq_false_of_isBlank {c : Char} (hc : isBlank c = true) :
    isNameChar c = false := by
  have hother : ∀ sign ∈ ['_', '.', ':', '$'], c ≠ sign := by
    rintro sign hsign rfl
    simp only [List.mem_cons, List.not_mem_nil, or_false] at hsign
    rcases hsign with rfl | rfl | rfl | rfl
    all_goals exact absurd hc (by decide)
  simp only [List.mem_cons, List.not_mem_nil, or_false, forall_eq_or_imp, forall_eq] at hother
  simp [isNameChar, isWord, isAlphanumeric_eq_false_of_isBlank hc, hother]

theorem isBlank_eq_false_of_isNameChar {c : Char} (hc : isNameChar c = true) :
    isBlank c = false := by
  by_contra hblank
  rw [Bool.not_eq_false] at hblank
  rw [isNameChar_eq_false_of_isBlank hblank] at hc
  contradiction

/-- The signs of operators are in no other class. -/
theorem operator_sign {operator : BlockOperator} {c : Char} (hc : c ∈ operator.symbol.toList) :
    isNameChar c = false ∧ isBlank c = false := by
  have hsigns : operator.symbol.toList.all (fun sign ↦ !isNameChar sign && !isBlank sign) =
      true := by
    cases operator <;> decide
  simpa using List.all_eq_true.mp hsigns c hc

theorem symbol_ne_nil (operator : BlockOperator) : operator.symbol.toList ≠ [] := by
  cases operator <;> decide

end Classes

namespace BlockOperator

theorem eq_symbol_append_of_read? {text rest : List Char} {operator : BlockOperator}
    (hread : read? text = some (operator, rest)) : text = operator.symbol.toList ++ rest := by
  unfold read? at hread
  split at hread
  all_goals simp only [Option.some.injEq, Prod.mk.injEq, reduceCtorEq] at hread
  all_goals
    obtain ⟨rfl, rfl⟩ := hread
    rfl

/-- Assumes: no equals sign follows, which might belong to a longer operator. -/
theorem read?_symbol_append (operator : BlockOperator) {rest : List Char}
    (hrest : ∀ c ∈ rest.head?, c ≠ '=') :
    read? (operator.symbol.toList ++ rest) = some (operator, rest) := by
  cases operator <;> cases rest <;> simp_all [symbol, read?]

end BlockOperator

namespace Header

/-- A text is the spelling of a header: its name, perhaps blanks, its operator, and perhaps blanks
again. -/
def Spells (header : Header) (text : List Char) : Prop :=
  ∃ gap tail, text = header.name.toList ++ gap ++ header.operator.symbol.toList ++ tail ∧
    header.name.toList ≠ [] ∧ (∀ c ∈ header.name.toList, isNameChar c = true) ∧
    (∀ c ∈ gap, isBlank c = true) ∧ ∀ c ∈ tail, isBlank c = true

/-- A text ends with a header that begins at an offset. The name takes all the name characters that
stand there. -/
def EndsText (header : Header) (start : Nat) (text : List Char) : Prop :=
  ∃ lead body, text = lead ++ body ∧ lead.length = start ∧ header.Spells body ∧
    ∀ c ∈ lead.getLast?, isNameChar c = false

section Spelling

variable {header : Header} {body rest : List Char}

/-- Assumes: the spelling of a header, with nothing behind it or with a brace. -/
theorem Spells.read?_append (hbody : header.Spells body) (hrest : ∀ c ∈ rest.head?, c = '{') :
    read? (body ++ rest) = some (header, rest) := by
  obtain ⟨gap, tail, rfl, hne, hname, hgap, htail⟩ := hbody
  have hsymbol : ∀ c ∈ (header.operator.symbol.toList ++ (tail ++ rest)).head?,
      c ∈ header.operator.symbol.toList := by
    intro c hc
    obtain ⟨sign, signs, hsigns⟩ := List.exists_cons_of_ne_nil (symbol_ne_nil header.operator)
    rw [hsigns] at hc ⊢
    obtain rfl : sign = c := by simpa using hc
    exact List.mem_cons_self
  have hafterName : ∀ c ∈ (gap ++ (header.operator.symbol.toList ++ (tail ++ rest))).head?,
      isNameChar c = false := by
    intro c hc
    cases gap with
    | nil => exact (operator_sign (hsymbol c hc)).1
    | cons d gap =>
      obtain rfl : d = c := by simpa using hc
      exact isNameChar_eq_false_of_isBlank (hgap d List.mem_cons_self)
  have hafterOperator : ∀ c ∈ (tail ++ rest).head?, c ≠ '=' := by
    intro c hc
    cases tail with
    | nil =>
      rw [hrest c hc]
      decide
    | cons d tail =>
      obtain rfl : d = c := by simpa using hc
      rintro rfl
      exact absurd (htail '=' List.mem_cons_self) (by decide)
  have hafterTail : ∀ c ∈ rest.head?, isBlank c = false := by
    intro c hc
    rw [hrest c hc]
    decide
  simp only [List.append_assoc, Header.read?]
  rw [takeWhile_run hname hafterName, dropWhile_run hname hafterName,
    dropWhile_run hgap fun c hc ↦ (operator_sign (hsymbol c hc)).2,
    BlockOperator.read?_symbol_append _ hafterOperator]
  simp only [dropWhile_run htail hafterTail, String.ofList_toList, List.isEmpty_iff, hne, if_false]

theorem exists_spells_of_read? {text : List Char} (hread : read? text = some (header, rest)) :
    ∃ body, text = body ++ rest ∧ header.Spells body := by
  simp only [read?, List.isEmpty_iff] at hread
  split at hread
  · contradiction
  · rename_i hne
    split at hread
    · contradiction
    · rename_i operator behind hoperator
      simp only [Option.some.injEq, Prod.mk.injEq] at hread
      obtain ⟨rfl, rfl⟩ := hread
      have hsymbol := BlockOperator.eq_symbol_append_of_read? hoperator
      refine ⟨text.takeWhile isNameChar ++ (text.dropWhile isNameChar).takeWhile isBlank ++
        operator.symbol.toList ++ behind.takeWhile isBlank, ?_,
        (text.dropWhile isNameChar).takeWhile isBlank, behind.takeWhile isBlank, ?_, ?_⟩
      · simp only [List.append_assoc, List.takeWhile_append_dropWhile]
        rw [← hsymbol, List.takeWhile_append_dropWhile, List.takeWhile_append_dropWhile]
      · simp only [String.toList_ofList]
      · simp only [String.toList_ofList]
        exact ⟨hne, fun c ↦ List.mem_takeWhile_imp, fun c ↦ List.mem_takeWhile_imp,
          fun c ↦ List.mem_takeWhile_imp⟩

theorem Spells.exists_cons (hbody : header.Spells body) :
    ∃ c rest, body = c :: rest ∧ isNameChar c = true := by
  obtain ⟨gap, tail, rfl, hne, hname, -, -⟩ := hbody
  obtain ⟨c, name, hsplit⟩ := List.exists_cons_of_ne_nil hne
  rw [hsplit] at hname ⊢
  exact ⟨c, _, rfl, hname c List.mem_cons_self⟩

/-- A name character in front of the spelling of a header makes the name longer. -/
theorem Spells.cons (hbody : header.Spells body) {c : Char} (hc : isNameChar c = true) :
    Spells ⟨String.ofList (c :: header.name.toList), header.operator⟩ (c :: body) := by
  obtain ⟨gap, tail, rfl, hne, hname, hgap, htail⟩ := hbody
  refine ⟨gap, tail, by simp, by simp, ?_, hgap, htail⟩
  simpa [hc] using hname

/-- Behind the name no name character follows. -/
theorem Spells.exists_split (hbody : header.Spells body) :
    ∃ behind, body = header.name.toList ++ behind ∧ ∀ c ∈ behind, isNameChar c = false := by
  obtain ⟨gap, tail, rfl, -, -, hgap, htail⟩ := hbody
  refine ⟨gap ++ header.operator.symbol.toList ++ tail, by simp, fun c hc ↦ ?_⟩
  rw [List.append_assoc, List.mem_append, List.mem_append] at hc
  rcases hc with hc | hc | hc
  · exact isNameChar_eq_false_of_isBlank (hgap c hc)
  · exact (operator_sign hc).1
  · exact isNameChar_eq_false_of_isBlank (htail c hc)

/-- In the spelling of a header only name characters stand before a name character. -/
theorem Spells.isNameChar_of_mem {front back : List Char} {c : Char}
    (hbody : header.Spells (front ++ c :: back)) (hc : isNameChar c = true) :
    ∀ d ∈ front, isNameChar d = true := by
  obtain ⟨gap, tail, -, -, hname, -, -⟩ := id hbody
  obtain ⟨behind, hsplit, hbehind⟩ := hbody.exists_split
  exact all_before_of_run hname hbehind hsplit.symm hc

end Spelling

section Search

theorem opening_eq_some_iff {before : Option Char} {text : List Char} {header : Header}
    {length : Nat} :
    opening before text = some (header, length) ↔
      ∃ body rest, text = body ++ '{' :: rest ∧ header.Spells body ∧
        length = body.length + 1 := by
  constructor
  · intro hopening
    unfold opening at hopening
    split at hopening
    · rename_i found rest hread
      simp only [Option.some.injEq, Prod.mk.injEq] at hopening
      obtain ⟨rfl, rfl⟩ := hopening
      obtain ⟨body, rfl, hbody⟩ := exists_spells_of_read? hread
      refine ⟨body, rest, rfl, hbody, ?_⟩
      simp only [List.length_append, List.length_cons]
      omega
    · contradiction
  · rintro ⟨body, rest, rfl, hbody, rfl⟩
    rw [opening, hbody.read?_append (by simp)]
    simp only [List.length_append, List.length_cons, Option.some.injEq, Prod.mk.injEq, true_and]
    omega

theorem dangling_eq_some_iff {before : Option Char} {text : List Char} {header : Header}
    {length : Nat} :
    dangling before text = some (header, length) ↔ header.Spells text ∧ length = text.length := by
  constructor
  · intro hdangling
    unfold dangling at hdangling
    split at hdangling
    · rename_i found hread
      simp only [Option.some.injEq, Prod.mk.injEq] at hdangling
      obtain ⟨rfl, rfl⟩ := hdangling
      obtain ⟨body, rfl, hbody⟩ := exists_spells_of_read? hread
      exact ⟨by simpa using hbody, rfl⟩
    · contradiction
  · rintro ⟨htext, rfl⟩
    have hnothing : ∀ c ∈ ([] : List Char).head?, c = '{' := by simp
    have hread := htext.read?_append hnothing
    rw [List.append_nil] at hread
    rw [dangling, hread]

theorem Spells.dangling_ne_none {text : List Char} {header : Header} (htext : header.Spells text)
    (before : Option Char) : dangling before text ≠ none := by
  have hfound : dangling before text = some (header, text.length) :=
    dangling_eq_some_iff.mpr ⟨htext, rfl⟩
  simp [hfound]

/-- The search for a dangling header finds the one that ends the text. The induction is on the text:
a header that begins at the first character is found there, and one that begins later is not hidden
by it, because the name would have been longer. -/
theorem head?_dangling_eq_some_iff {header : Header} (text : List Char) :
    ∀ (before : Option Char) (offset : Nat),
      (occurrencesFrom dangling before offset 0 text).head?.map (·.value) = some header ↔
        ∃ start, header.EndsText start text := by
  induction text with
  | nil =>
    intro before offset
    simp only [occurrencesFrom, List.head?_nil, Option.map_none, reduceCtorEq, false_iff]
    rintro ⟨start, lead, body, htext, -, hbody, -⟩
    obtain ⟨c, rest, rfl, -⟩ := hbody.exists_cons
    simp at htext
  | cons c rest ih =>
    intro before offset
    rw [occurrencesFrom]
    split
    · rename_i found length hfound
      obtain ⟨hspells, -⟩ := dangling_eq_some_iff.mp hfound
      simp only [List.head?_cons, Option.map_some, Option.some.injEq]
      constructor
      · rintro rfl
        exact ⟨0, [], c :: rest, rfl, rfl, hspells, by simp⟩
      · rintro ⟨start, lead, body, htext, -, hbody, hlead⟩
        cases hlast : lead.getLast? with
        | none =>
          rw [List.getLast?_eq_none_iff.mp hlast, List.nil_append] at htext
          rw [← htext] at hbody
          have hsame := hfound.symm.trans (dangling_eq_some_iff.mpr ⟨hbody, rfl⟩)
          exact (Prod.mk.inj (Option.some.inj hsame)).1
        | some last =>
          obtain ⟨first, back, rfl, hfirst⟩ := hbody.exists_cons
          rw [htext] at hspells
          have hname := hspells.isNameChar_of_mem hfirst last (List.mem_of_getLast? hlast)
          rw [hlead last hlast] at hname
          contradiction
    · rename_i hnone
      rw [ih]
      constructor
      · rintro ⟨start, lead, body, rfl, -, hbody, hlead⟩
        refine ⟨lead.length + 1, c :: lead, body, rfl, rfl, hbody, ?_⟩
        intro last hlast
        cases lead with
        | nil =>
          obtain rfl : c = last := by simpa using hlast
          cases hname : isNameChar c with
          | false => rfl
          | true => exact absurd hnone ((hbody.cons hname).dangling_ne_none before)
        | cons d lead => exact hlead last (by simpa using hlast)
      · rintro ⟨start, lead, body, htext, -, hbody, hlead⟩
        cases lead with
        | nil =>
          rw [List.nil_append] at htext
          rw [htext] at hnone
          exact absurd hnone (hbody.dangling_ne_none before)
        | cons d lead =>
          obtain ⟨rfl, rfl⟩ := List.cons.inj htext
          refine ⟨lead.length, lead, body, rfl, rfl, hbody, ?_⟩
          intro last hlast
          refine hlead last ?_
          rw [List.getLast?_cons, Option.mem_def.mp hlast]
          rfl

theorem atEnd?_eq_some_iff {header : Header} {text : List Char} :
    atEnd? text = some header ↔ ∃ start, header.EndsText start text :=
  head?_dangling_eq_some_iff text none 0

/-- A match with its brace ends behind the brace, and a header is spelt before it. -/
theorem matches_opening_iff {text : List Char} {found : Occurrence Header} :
    found.Matches opening text ↔
      ∃ lead body rest, text = lead ++ body ++ '{' :: rest ∧ found.value.Spells body ∧
        found.start = lead.length ∧ found.stop = lead.length + body.length + 1 := by
  constructor
  · rintro ⟨lead, behind, length, rfl, -, hstart, hstop, hopening⟩
    obtain ⟨body, rest, rfl, hbody, rfl⟩ := opening_eq_some_iff.mp hopening
    exact ⟨lead, body, rest, by simp, hbody, hstart, hstop⟩
  · rintro ⟨lead, body, rest, rfl, hbody, hstart, hstop⟩
    exact ⟨lead, body ++ '{' :: rest, body.length + 1, by simp, by simp, hstart, hstop,
      opening_eq_some_iff.mpr ⟨body, rest, rfl, hbody, rfl⟩⟩

/-- No occurrence begins inside the name of a longer header. If one did, the longer header would
match as well, and it would have been found, unless an earlier occurrence held its beginning; but
that occurrence would end in a brace in front of this one. -/
theorem isNameChar_before_opening {text lead behind : List Char} {found : Occurrence Header}
    (hfound : found ∈ openings text) (htext : text = lead ++ behind)
    (hstart : found.start = lead.length) : ∀ c ∈ lead.getLast?, isNameChar c = false := by
  intro c hc
  cases hname : isNameChar c with
  | false => rfl
  | true =>
    exfalso
    obtain ⟨shorter, rfl⟩ := List.getLast?_eq_some_iff.mp hc
    rw [List.length_append, List.length_singleton] at hstart
    obtain ⟨front, body, rest, hsplit, hbody, hfront, hstop⟩ :=
      matches_opening_iff.mp (matches_of_mem_occurrences hfound)
    obtain ⟨rfl, rfl⟩ : shorter ++ [c] = front ∧ behind = body ++ '{' :: rest := by
      refine List.append_inj (htext.symm.trans (hsplit.trans (List.append_assoc _ _ _))) ?_
      rw [← hfront, hstart]
      simp
    have hlonger : Occurrence.Matches opening text
        ⟨shorter.length, found.stop,
          ⟨String.ofList (c :: found.value.name.toList), found.value.operator⟩⟩ := by
      refine matches_opening_iff.mpr
        ⟨shorter, c :: body, rest, ?_, hbody.cons hname, rfl, ?_⟩
      · rw [htext]
        simp
      · change found.stop = _
        simp only [hstop, List.length_append, List.length_cons, List.length_nil]
        omega
    rcases mem_occurrences_or_covered hlonger with hmem | ⟨earlier, hmem, hleft, hright⟩
    · have hapart := stop_le_start_of_mem_occurrences hmem hfound
        (by change shorter.length < found.start; omega)
      change found.stop ≤ found.start at hapart
      omega
    · change earlier.start < shorter.length at hleft
      change shorter.length < earlier.stop at hright
      have hapart := stop_le_start_of_mem_occurrences hmem hfound (by omega)
      obtain ⟨lead', body', rest', hsplit', -, -, hstop'⟩ :=
        matches_opening_iff.mp (matches_of_mem_occurrences hmem)
      have hbrace : shorter = lead' ++ body' ∧ c :: (body ++ '{' :: rest) = '{' :: rest' := by
        refine List.append_inj ?_ ?_
        · rw [← hsplit', htext]
          simp
        · rw [List.length_append]
          omega
      rw [(List.cons.inj hbrace.2).1] at hname
      exact absurd hname (by decide)

/-- Assumes: a match whose name has no name character in front of it. No other match begins before
it and ends behind its beginning. -/
theorem not_covered_of_isNameChar {lead body rest : List Char} {header : Header}
    (hbody : header.Spells body) (hlead : ∀ c ∈ lead.getLast?, isNameChar c = false)
    {earlier : Occurrence Header}
    (hearlier : earlier.Matches opening (lead ++ body ++ '{' :: rest))
    (hleft : earlier.start < lead.length) : earlier.stop ≤ lead.length := by
  obtain ⟨lead', body', rest', hsplit, hbody', hstart', hstop'⟩ := matches_opening_iff.mp hearlier
  obtain ⟨first, back, rfl, hfirst⟩ := hbody.exists_cons
  obtain ⟨gap, tail, -, -, hname, -, -⟩ := id hbody'
  obtain ⟨behind, rfl, hbehind⟩ := hbody'.exists_split
  -- The brace is no name character either, so the run of others goes on to the end of the match.
  have hother : ∀ c ∈ behind ++ ['{'], isNameChar c = false := by
    intro c hc
    rcases List.mem_append.mp hc with hc | hc
    · exact hbehind c hc
    · rw [List.mem_singleton.mp hc]
      decide
  have htext : lead' ++ (earlier.value.name.toList ++ (behind ++ ['{']) ++ rest') =
      lead ++ first :: (back ++ '{' :: rest) := by
    simpa using hsplit.symm
  have hlength := length_le_of_run hname hother htext hfirst hlead (by omega)
  simp only [List.length_append, List.length_singleton] at hlength hstop'
  omega

/-- The headers of a line that open a brace are those that end the text before one. -/
theorem mem_openings_iff {text : List Char} {found : Occurrence Header} :
    found ∈ openings text ↔
      ∃ front back, text = front ++ '{' :: back ∧ found.stop = front.length + 1 ∧
        found.value.EndsText found.start front := by
  constructor
  · intro hfound
    obtain ⟨lead, body, rest, htext, hbody, hstart, hstop⟩ :=
      matches_opening_iff.mp (matches_of_mem_occurrences hfound)
    refine ⟨lead ++ body, rest, htext, by rw [hstop, List.length_append], lead, body, rfl,
      hstart.symm, hbody, ?_⟩
    exact isNameChar_before_opening hfound (htext.trans (List.append_assoc _ _ _)) hstart
  · rintro ⟨front, back, rfl, hstop, lead, body, rfl, hstart, hbody, hlead⟩
    have hmatches : found.Matches opening (lead ++ body ++ '{' :: back) :=
      matches_opening_iff.mpr ⟨lead, body, back, rfl, hbody, hstart.symm,
        by rw [hstop, List.length_append]⟩
    rcases mem_occurrences_or_covered hmatches with hmem | ⟨earlier, hmem, hleft, hright⟩
    · exact hmem
    · have hapart := not_covered_of_isNameChar hbody hlead (matches_of_mem_occurrences hmem)
        (by omega)
      omega

/-- The header that opens a brace is the one that the text before the brace ends with. -/
theorem headerAt?_openings (front back : List Char) :
    headerAt? (openings (front ++ '{' :: back)) front.length = atEnd? front := by
  -- Both searches are compared with the one header that ends the text.
  have hends : ∀ found ∈ openings (front ++ '{' :: back), found.stop = front.length + 1 →
      atEnd? front = some found.value := by
    intro found hmem hstop
    obtain ⟨front', back', htext, hstop', hheader⟩ := mem_openings_iff.mp hmem
    obtain ⟨rfl, -⟩ := List.append_inj htext (by omega)
    exact atEnd?_eq_some_iff.mpr ⟨_, hheader⟩
  unfold headerAt?
  cases hfind : (openings (front ++ '{' :: back)).find? (·.stop == front.length + 1) with
  | some found =>
    have hstop : found.stop = front.length + 1 := by simpa using List.find?_some hfind
    rw [hends found (List.mem_of_find?_eq_some hfind) hstop]
    rfl
  | none =>
    cases hend : atEnd? front with
    | none => rfl
    | some header =>
      obtain ⟨start, hheader⟩ := atEnd?_eq_some_iff.mp hend
      have hmem : ⟨start, front.length + 1, header⟩ ∈ openings (front ++ '{' :: back) :=
        mem_openings_iff.mpr ⟨front, back, rfl, rfl, hheader⟩
      exact absurd (List.find?_eq_none.mp hfind _ hmem) (by simp)

end Search

end Header

end BlockScope
