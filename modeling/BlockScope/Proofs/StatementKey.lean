import BlockScope.Proofs.Header
import BlockScope.Script.StatementKey

/-!
Where the statement keys of a line stand. A key is a longest run of key characters, with a blank, an
opening brace or nothing in front of it and an operator behind it. No key begins inside the match of
another one, because there is neither a blank nor a brace in front of a key character there. The
search from the left therefore misses none of them.
-/

set_option autoImplicit false
set_option relaxedAutoImplicit false

namespace BlockScope

/-- The operators that may follow a key. -/
def statementOperators : List String := ["?=", ">=", "<=", "==", "!=", "=", ">", "<"]

/-- A key stands at a column of a text: it is a longest run of key characters, a key may begin
there, and an operator follows it, perhaps behind blanks. -/
def KeyStandsAt (text : List Char) (column : Nat) (key : List Char) : Prop :=
  ∃ lead gap rest, text = lead ++ key ++ gap ++ rest ∧ lead.length = column ∧
    key ≠ [] ∧ (∀ c ∈ key, isKeyChar c = true) ∧
    (∀ c ∈ lead.getLast?, isKeyChar c = false) ∧ (∀ c ∈ (gap ++ rest).head?, isKeyChar c = false) ∧
    (∀ c ∈ lead.getLast?, isBlank c = true ∨ c = '{') ∧ (∀ c ∈ gap, isBlank c = true) ∧
    ∃ operator ∈ statementOperators, operator.toList <+: rest

section Classes

theorem isKeyChar_eq_false_of_isBlank {c : Char} (hc : isBlank c = true) : isKeyChar c = false := by
  have hsign : c ≠ '@' := by
    rintro rfl
    exact absurd hc (by decide)
  simp [isKeyChar, isNameChar_eq_false_of_isBlank hc, hsign]

/-- The signs of statement operators are neither key characters nor blanks. -/
theorem statementOperator_sign {operator : String} (hoperator : operator ∈ statementOperators) :
    operator.toList ≠ [] ∧
      ∀ c ∈ operator.toList, isKeyChar c = false ∧ isBlank c = false := by
  have hsigns : (statementOperators.all fun operator ↦ !operator.toList.isEmpty &&
      operator.toList.all fun sign ↦ !isKeyChar sign && !isBlank sign) = true := by
    decide
  simpa using List.all_eq_true.mp hsigns operator hoperator

theorem mayPrecedeKey_iff {before : Option Char} :
    mayPrecedeKey before = true ↔ ∀ c ∈ before, isBlank c = true ∨ c = '{' := by
  cases before <;> simp [mayPrecedeKey]

/-- A key never begins behind a key character. -/
theorem isKeyChar_eq_false_of_mayPrecedeKey {c : Char} (hc : isBlank c = true ∨ c = '{') :
    isKeyChar c = false := by
  rcases hc with hblank | rfl
  · exact isKeyChar_eq_false_of_isBlank hblank
  · decide

end Classes

theorem exists_operator_of_statementOperatorLength {text : List Char} {length : Nat}
    (hlength : statementOperatorLength text = some length) :
    ∃ operator ∈ statementOperators, ∃ rest,
      text = operator.toList ++ rest ∧ length = operator.toList.length := by
  unfold statementOperatorLength at hlength
  split at hlength
  all_goals simp only [Option.some.injEq, reduceCtorEq] at hlength
  all_goals subst hlength
  · exact ⟨"?=", by decide, _, rfl, rfl⟩
  · exact ⟨">=", by decide, _, rfl, rfl⟩
  · exact ⟨"<=", by decide, _, rfl, rfl⟩
  · exact ⟨"==", by decide, _, rfl, rfl⟩
  · exact ⟨"!=", by decide, _, rfl, rfl⟩
  · exact ⟨"=", by decide, _, rfl, rfl⟩
  · exact ⟨">", by decide, _, rfl, rfl⟩
  · exact ⟨"<", by decide, _, rfl, rfl⟩

theorem exists_statementOperatorLength {text : List Char} {operator : String}
    (hoperator : operator ∈ statementOperators) (htext : operator.toList <+: text) :
    ∃ length, statementOperatorLength text = some length := by
  obtain ⟨rest, rfl⟩ := htext
  simp only [statementOperators, List.mem_cons, List.not_mem_nil, or_false] at hoperator
  rcases hoperator with rfl | rfl | rfl | rfl | rfl | rfl | rfl | rfl
  all_goals
    cases rest with
    | nil => exact ⟨_, rfl⟩
    | cons c rest =>
      by_cases hequals : c = '='
      · subst hequals
        exact ⟨_, rfl⟩
      · simp [statementOperatorLength, hequals]

/-- Assumes: a text with an operator at its front, perhaps behind blanks. The text begins with no
key character, and behind the blanks it begins with no blank. -/
theorem head?_of_statementOperatorLength {gap rest : List Char} {length : Nat}
    (hgap : ∀ c ∈ gap, isBlank c = true) (hlength : statementOperatorLength rest = some length) :
    (∀ c ∈ (gap ++ rest).head?, isKeyChar c = false) ∧ ∀ c ∈ rest.head?, isBlank c = false := by
  obtain ⟨operator, hoperator, more, rfl, -⟩ := exists_operator_of_statementOperatorLength hlength
  obtain ⟨hne, hsigns⟩ := statementOperator_sign hoperator
  obtain ⟨sign, signs, hsplit⟩ := List.exists_cons_of_ne_nil hne
  rw [hsplit] at hsigns ⊢
  have hsign := hsigns sign List.mem_cons_self
  refine ⟨?_, by simpa using hsign.2⟩
  cases gap with
  | nil => simpa using hsign.1
  | cons c gap => simpa using isKeyChar_eq_false_of_isBlank (hgap c List.mem_cons_self)

theorem statementKey_eq_some_iff {before : Option Char} {text : List Char} {key : String}
    {length : Nat} :
    statementKey before text = some (key, length) ↔
      (∀ c ∈ before, isBlank c = true ∨ c = '{') ∧
        ∃ gap rest operatorLength, text = key.toList ++ (gap ++ rest) ∧ key.toList ≠ [] ∧
          (∀ c ∈ key.toList, isKeyChar c = true) ∧ (∀ c ∈ gap, isBlank c = true) ∧
          statementOperatorLength rest = some operatorLength ∧
          length = key.toList.length + gap.length + operatorLength := by
  constructor
  · intro hkey
    simp only [statementKey, Bool.or_eq_true, List.isEmpty_iff, Bool.not_eq_true'] at hkey
    split at hkey
    · contradiction
    · rename_i hstart
      rw [not_or, Bool.not_eq_false, mayPrecedeKey_iff] at hstart
      split at hkey
      · contradiction
      · rename_i operatorLength hlength
        simp only [Option.some.injEq, Prod.mk.injEq] at hkey
        obtain ⟨rfl, rfl⟩ := hkey
        refine ⟨hstart.2, (text.dropWhile isKeyChar).takeWhile isBlank,
          (text.dropWhile isKeyChar).dropWhile isBlank, operatorLength, ?_, ?_, ?_,
          fun c ↦ List.mem_takeWhile_imp, hlength, ?_⟩
        · rw [String.toList_ofList, List.takeWhile_append_dropWhile,
            List.takeWhile_append_dropWhile]
        · rw [String.toList_ofList]
          exact hstart.1
        · rw [String.toList_ofList]
          exact fun c ↦ List.mem_takeWhile_imp
        · rw [String.toList_ofList]
  · rintro ⟨hbefore, gap, rest, operatorLength, rfl, hne, hkey, hgap, hlength, rfl⟩
    obtain ⟨hbehind, hrest⟩ := head?_of_statementOperatorLength hgap hlength
    have hstart : mayPrecedeKey before = true := mayPrecedeKey_iff.mpr hbefore
    have hnonempty : key.toList.isEmpty = false := by simpa using hne
    simp only [statementKey, takeWhile_run hkey hbehind, dropWhile_run hkey hbehind,
      takeWhile_run hgap hrest, dropWhile_run hgap hrest, hlength, hstart, hnonempty,
      String.ofList_toList]
    rfl

/-- A match of a key is a key that stands there, with its operator behind it. -/
theorem matches_statementKey_iff {text : List Char} {found : Occurrence String} :
    found.Matches statementKey text ↔
      ∃ lead gap rest operatorLength, text = lead ++ (found.value.toList ++ (gap ++ rest)) ∧
        found.start = lead.length ∧
        found.stop = lead.length + (found.value.toList.length + gap.length + operatorLength) ∧
        found.value.toList ≠ [] ∧ (∀ c ∈ found.value.toList, isKeyChar c = true) ∧
        (∀ c ∈ lead.getLast?, isBlank c = true ∨ c = '{') ∧ (∀ c ∈ gap, isBlank c = true) ∧
        statementOperatorLength rest = some operatorLength := by
  constructor
  · rintro ⟨lead, behind, length, rfl, -, hstart, hstop, hfound⟩
    obtain ⟨hlead, gap, rest, operatorLength, rfl, hne, hkey, hgap, hlength, rfl⟩ :=
      statementKey_eq_some_iff.mp hfound
    exact ⟨lead, gap, rest, operatorLength, rfl, hstart, hstop, hne, hkey, hlead, hgap, hlength⟩
  · rintro ⟨lead, gap, rest, operatorLength, rfl, hstart, hstop, hne, hkey, hlead, hgap, hlength⟩
    refine ⟨lead, _, _, rfl, by simp [hne], hstart, hstop, ?_⟩
    exact statementKey_eq_some_iff.mpr
      ⟨hlead, gap, rest, operatorLength, rfl, hne, hkey, hgap, hlength, rfl⟩

/-- No key begins inside the match of another one. -/
theorem stop_le_start_of_matches_statementKey {text : List Char} {first second : Occurrence String}
    (hfirst : first.Matches statementKey text) (hsecond : second.Matches statementKey text)
    (hstart : first.start < second.start) : first.stop ≤ second.start := by
  obtain ⟨lead, gap, rest, length, htext, hleft, hstop, -, hkey, -, hgap, hlength⟩ :=
    matches_statementKey_iff.mp hfirst
  obtain ⟨lead', gap', rest', -, htext', hleft', -, hne', hkey', hlead', -, -⟩ :=
    matches_statementKey_iff.mp hsecond
  obtain ⟨operator, hoperator, more, rfl, rfl⟩ :=
    exists_operator_of_statementOperatorLength hlength
  obtain ⟨c, key', hsplit⟩ := List.exists_cons_of_ne_nil hne'
  have hbehind : ∀ d ∈ gap ++ operator.toList, isKeyChar d = false := by
    intro d hd
    rcases List.mem_append.mp hd with hblank | hsign
    · exact isKeyChar_eq_false_of_isBlank (hgap d hblank)
    · exact ((statementOperator_sign hoperator).2 d hsign).1
  have hboth : lead ++ (first.value.toList ++ (gap ++ operator.toList) ++ more) =
      lead' ++ c :: (key' ++ (gap' ++ rest')) := by
    rw [htext, hsplit] at htext'
    simpa using htext'
  have hc : isKeyChar c = true := hkey' c (by rw [hsplit]; exact List.mem_cons_self)
  have hlength := length_le_of_run hkey hbehind hboth hc
    (fun d hd ↦ isKeyChar_eq_false_of_mayPrecedeKey (hlead' d hd)) (by omega)
  simp only [List.length_append] at hlength
  omega

/-- The statement keys of a line are all the keys that stand on it. -/
theorem mem_statementKeys_iff {text : List Char} {column : Nat} {key : String} :
    (∃ found ∈ statementKeys text, found.start = column ∧ found.value = key) ↔
      KeyStandsAt text column key.toList := by
  constructor
  · rintro ⟨found, hfound, rfl, rfl⟩
    obtain ⟨lead, gap, rest, length, htext, hstart, -, hne, hkey, hlead, hgap, hlength⟩ :=
      matches_statementKey_iff.mp (matches_of_mem_occurrences hfound)
    obtain ⟨operator, hoperator, more, hrest, -⟩ :=
      exists_operator_of_statementOperatorLength hlength
    refine ⟨lead, gap, rest, by simpa using htext, hstart.symm, hne, hkey,
      fun c hc ↦ isKeyChar_eq_false_of_mayPrecedeKey (hlead c hc),
      (head?_of_statementOperatorLength hgap hlength).1, hlead, hgap, operator, hoperator, more,
      hrest.symm⟩
  · rintro ⟨lead, gap, rest, htext, hstart, hne, hkey, -, -, hlead, hgap, operator, hoperator,
      hrest⟩
    obtain ⟨length, hlength⟩ := exists_statementOperatorLength hoperator hrest
    have hmatches : Occurrence.Matches statementKey text
        ⟨lead.length, lead.length + (key.toList.length + gap.length + length), key⟩ :=
      matches_statementKey_iff.mpr ⟨lead, gap, rest, length, by simpa using htext, rfl, rfl, hne,
        hkey, hlead, hgap, hlength⟩
    refine ⟨_, (mem_occurrences_iff fun first second ↦ ?_).mpr hmatches, hstart, rfl⟩
    exact stop_le_start_of_matches_statementKey

end BlockScope
