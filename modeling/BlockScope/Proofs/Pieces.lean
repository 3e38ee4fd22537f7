import BlockScope.Text.Pieces

/-!
Cutting and joining undo each other. No piece of a text holds the separator, and parts without the
separator are the pieces of what they are joined to.
-/

set_option autoImplicit false
set_option relaxedAutoImplicit false

namespace BlockScope

variable {separator : Char} {piece : List Char}

theorem pieces_of_notMem (hpiece : separator ∉ piece) : pieces separator piece = [piece] := by
  induction piece with
  | nil => rfl
  | cons c piece ih =>
    rw [List.mem_cons, not_or] at hpiece
    rw [pieces_cons, if_neg (Ne.symm hpiece.1), ih hpiece.2]

theorem pieces_append_separator (hpiece : separator ∉ piece) (rest : List Char) :
    pieces separator (piece ++ separator :: rest) = piece :: pieces separator rest := by
  induction piece with
  | nil => exact pieces_cons_self separator rest
  | cons c piece ih =>
    rw [List.mem_cons, not_or] at hpiece
    rw [List.cons_append, pieces_cons, if_neg (Ne.symm hpiece.1), ih hpiece.2]

/-- Assumes: parts without the separator. Cutting what they are joined to gives them back. -/
theorem pieces_joinPieces {parts : List (List Char)} (hne : parts ≠ [])
    (hparts : ∀ part ∈ parts, separator ∉ part) :
    pieces separator (joinPieces separator parts) = parts := by
  induction parts with
  | nil => contradiction
  | cons part later ih =>
    have hpart := hparts part List.mem_cons_self
    cases later with
    | nil => exact pieces_of_notMem hpart
    | cons next rest =>
      rw [joinPieces_cons _ (by simp), pieces_append_separator hpart,
        ih (by simp) fun other hother ↦ hparts other (List.mem_cons_of_mem _ hother)]

theorem notMem_of_mem_pieces (text : List Char) :
    ∀ part ∈ pieces separator text, separator ∉ part := by
  induction text with
  | nil => simp
  | cons c rest ih =>
    by_cases hc : c = separator
    · subst hc
      rw [pieces_cons_self]
      exact List.forall_mem_cons.mpr ⟨List.not_mem_nil, ih⟩
    · obtain ⟨first, later, hpieces⟩ := List.exists_cons_of_ne_nil (pieces_ne_nil separator rest)
      rw [hpieces] at ih
      obtain ⟨hfirst, hlater⟩ := List.forall_mem_cons.mp ih
      rw [pieces_cons, if_neg hc, hpieces]
      refine List.forall_mem_cons.mpr ⟨?_, hlater⟩
      exact List.not_mem_cons_of_ne_of_not_mem (Ne.symm hc) hfirst

/-- A separator between two texts lies between their pieces. -/
theorem pieces_append_cons (separator : Char) (first second : List Char) :
    pieces separator (first ++ separator :: second) =
      pieces separator first ++ pieces separator second := by
  induction first with
  | nil => exact pieces_cons_self separator second
  | cons c first ih =>
    rw [List.cons_append, pieces_cons, pieces_cons, ih]
    by_cases hc : c = separator
    · rw [if_pos hc, if_pos hc, List.cons_append]
    · rw [if_neg hc, if_neg hc]
      obtain ⟨piece, later, hpieces⟩ := List.exists_cons_of_ne_nil (pieces_ne_nil separator first)
      rw [hpieces]
      rfl

theorem joinPieces_append {parts later : List (List Char)} (hparts : parts ≠ [])
    (hlater : later ≠ []) : joinPieces separator (parts ++ later) =
      joinPieces separator parts ++ separator :: joinPieces separator later := by
  induction parts with
  | nil => contradiction
  | cons part rest ih =>
    cases rest with
    | nil => exact joinPieces_cons part hlater
    | cons next rest =>
      rw [List.cons_append, joinPieces_cons part (by simp), ih (by simp),
        joinPieces_cons part (by simp), List.append_assoc, List.cons_append]

/-- Assumes: an entry that does not occur in the first of two parts of a list. Where the entry
stands, the first part is over. -/
theorem exists_middle_of_notMem {α : Type} {lead rest before after : List α} {entry : α}
    (hlead : entry ∉ lead) (hsplit : lead ++ rest = before ++ entry :: after) :
    ∃ middle, before = lead ++ middle ∧ rest = middle ++ entry :: after := by
  rcases List.append_eq_append_iff.mp hsplit with ⟨middle, hbefore, hrest⟩ | ⟨middle, hends, hrest⟩
  · exact ⟨middle, hbefore, hrest⟩
  · cases middle with
    | nil => exact ⟨[], by simpa using hends.symm, by simpa using hrest.symm⟩
    | cons other middle =>
      obtain ⟨rfl, -⟩ := List.cons.inj hrest
      rw [hends] at hlead
      exact absurd (List.mem_append_right before List.mem_cons_self) hlead

theorem intercalate_eq_joinPieces (separator : Char) (parts : List (List Char)) :
    [separator].intercalate parts = joinPieces separator parts := by
  induction parts with
  | nil => rfl
  | cons part later ih =>
    cases later with
    | nil => simp [joinPieces]
    | cons next rest =>
      rw [List.intercalate_cons_cons, ih, joinPieces_cons part (List.cons_ne_nil next rest),
        List.append_assoc, List.singleton_append]

theorem toList_intercalate_eq_joinPieces (separator : Char) {mark : String}
    (hmark : mark.toList = [separator]) (parts : List String) :
    (mark.intercalate parts).toList = joinPieces separator (parts.map String.toList) := by
  rw [String.toList_intercalate, hmark, intercalate_eq_joinPieces]

end BlockScope
