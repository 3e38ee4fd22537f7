import BlockScope.Proofs.Pieces
import BlockScope.Scope.Chain

/-!
The segments of a chain are its pieces between dots, without the empty ones. A saved reference is
taken whole up to the next dot, but so is every other segment, and reading the mark of a reference
only changes which of two readers goes on. Both readers do the same with what they have read: they
keep it until a dot or the end, and drop it if it is empty. So cutting chains and joining segments
with dots undo each other.
-/

set_option autoImplicit false
set_option relaxedAutoImplicit false

namespace BlockScope

/-! ### The two readers of a chain -/

/-- The pieces of a text between dots, without the empty ones. -/
def dottedPieces (text : List Char) : List (List Char) := (pieces '.' text).filter (!·.isEmpty)

section Readers

variable {read : List Char}

theorem dottedPieces_of_notMem (hread : '.' ∉ read) : dottedPieces read = consSegment read [] := by
  rw [dottedPieces, pieces_of_notMem hread, consSegment]
  cases read <;> rfl

/-- A dot ends the piece before it, which is kept unless it is empty. -/
theorem dottedPieces_append_dot (hread : '.' ∉ read) (rest : List Char) :
    dottedPieces (read ++ '.' :: rest) = consSegment read (dottedPieces rest) := by
  rw [dottedPieces, pieces_append_separator hread, consSegment, dottedPieces]
  cases read <;> rfl

theorem consSegment_of_ne_nil (hread : read ≠ []) (later : List (List Char)) :
    consSegment read later = read :: later := by
  rw [consSegment, if_neg (by simpa using hread)]

/-- Assumes: what has been read of the current segment has no dot. Both readers find the pieces of
it and the rest; the reader of references needs to have read something. The induction is on the
rest, for both at once, because each of them goes on with the other. -/
theorem segmentsFrom_and_referenceFrom_eq (rest : List Char) :
    ∀ read : List Char, '.' ∉ read →
      segmentsFrom read rest = dottedPieces (read ++ rest) ∧
        (read ≠ [] → referenceFrom read rest = dottedPieces (read ++ rest)) := by
  induction rest with
  | nil =>
    intro read hread
    rw [List.append_nil, dottedPieces_of_notMem hread, segmentsFrom, referenceFrom]
    exact ⟨rfl, fun hne ↦ (consSegment_of_ne_nil hne []).symm⟩
  | cons c rest ih =>
    intro read hread
    rw [segmentsFrom, referenceFrom]
    by_cases hdot : c = '.'
    · subst hdot
      have hlater := (ih [] List.not_mem_nil).1
      rw [if_pos rfl, if_pos rfl, dottedPieces_append_dot hread, hlater, List.nil_append]
      exact ⟨rfl, fun hne ↦ (consSegment_of_ne_nil hne _).symm⟩
    · have hlonger : '.' ∉ read ++ [c] := by
        simpa [hread] using Ne.symm hdot
      obtain ⟨hsegments, hreference⟩ := ih (read ++ [c]) hlonger
      rw [if_neg hdot, if_neg hdot, List.append_cons read c rest]
      refine ⟨?_, fun _ ↦ hreference (by simp)⟩
      -- The mark of a reference hands over to the other reader, which finds the same.
      split
      · rename_i hmark
        rw [← hmark]
        exact hreference (by simp)
      · exact hsegments

end Readers

theorem chainSegments_eq (chain : String) :
    chainSegments chain = (dottedPieces chain.toList).map String.ofList := by
  rw [chainSegments, (segmentsFrom_and_referenceFrom_eq chain.toList [] List.not_mem_nil).1]
  rfl

theorem dottedPieces_append_cons (first second : List Char) :
    dottedPieces (first ++ '.' :: second) = dottedPieces first ++ dottedPieces second := by
  rw [dottedPieces, pieces_append_cons, List.filter_append]
  rfl

/-- Assumes: parts that are not empty and have no dot. -/
theorem dottedPieces_joinPieces {parts : List (List Char)}
    (hparts : ∀ part ∈ parts, part ≠ [] ∧ '.' ∉ part) :
    dottedPieces (joinPieces '.' parts) = parts := by
  cases parts with
  | nil => rfl
  | cons part later =>
    rw [dottedPieces, pieces_joinPieces (by simp) fun other hother ↦ (hparts other hother).2,
      List.filter_eq_self]
    intro other hother
    simpa using (hparts other hother).1

theorem chainSegments_append_dot (first second : String) :
    chainSegments (first ++ "." ++ second) = chainSegments first ++ chainSegments second := by
  simp [chainSegments_eq, dottedPieces_append_cons]

/-- Assumes: segments that are not empty and have no dot. They are the segments of the chain that
they are joined to. -/
theorem chainSegments_intercalate {segments : List String}
    (hsegments : ∀ segment ∈ segments, segment ≠ "" ∧ '.' ∉ segment.toList) :
    chainSegments (".".intercalate segments) = segments := by
  rw [chainSegments_eq, toList_intercalate_eq_joinPieces '.' rfl,
    dottedPieces_joinPieces (by simpa using hsegments), List.map_map]
  simp [Function.comp_def]

/-- The segments of a chain are its pieces between dots that are not empty, in order. Joining two
chains with a dot joins their segments, and segments that are not empty and have no dot are those of
the chain that they are joined to. -/
theorem chainSegments_cut_at_dots :
    (∀ chain : String, chainSegments chain =
      ((pieces '.' chain.toList).filter (!·.isEmpty)).map String.ofList) ∧
    (∀ first second : String,
      chainSegments (first ++ "." ++ second) = chainSegments first ++ chainSegments second) ∧
    ∀ segments : List String, (∀ segment ∈ segments, segment ≠ "" ∧ '.' ∉ segment.toList) →
      chainSegments (".".intercalate segments) = segments :=
  ⟨chainSegments_eq, chainSegments_append_dot, fun _ hsegments ↦
    chainSegments_intercalate hsegments⟩

/-- A saved reference with a colon in its name, and the mark of one at the end, are segments like
the others. -/
theorem chainSegments_cut_at_dots_references :
    (∀ segment ∈ ["scope:actor:first", "liege", "scope:"],
      segment ≠ "" ∧ '.' ∉ segment.toList) ∧
      chainSegments "scope:actor:first.liege.scope:" =
        ["scope:actor:first", "liege", "scope:"] := by
  have hsegments : ∀ segment ∈ ["scope:actor:first", "liege", "scope:"],
      segment ≠ "" ∧ '.' ∉ segment.toList := by
    decide
  exact ⟨hsegments, chainSegments_cut_at_dots.2.2 _ hsegments⟩

end BlockScope
