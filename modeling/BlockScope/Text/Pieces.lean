/-!
Cutting a text at a separator. A text with `n` separators has `n + 1` pieces, some of them perhaps
empty, and joining them with the separator gives the text back.
-/

set_option autoImplicit false
set_option relaxedAutoImplicit false

namespace BlockScope

/-- The parts of a text between the occurrences of a character. -/
def pieces (separator : Char) : List Char → List (List Char)
  | [] => [[]]
  | c :: rest =>
    if c = separator then [] :: pieces separator rest
    else match pieces separator rest with
      | [] => [[c]]
      | piece :: later => (c :: piece) :: later

/-- The pieces put together again. -/
def joinPieces (separator : Char) : List (List Char) → List Char
  | [] => []
  | [piece] => piece
  | piece :: later => piece ++ separator :: joinPieces separator later

theorem pieces_cons (separator c : Char) (rest : List Char) :
    pieces separator (c :: rest) =
      if c = separator then [] :: pieces separator rest
      else match pieces separator rest with
        | [] => [[c]]
        | piece :: later => (c :: piece) :: later := rfl

theorem pieces_ne_nil (separator : Char) (text : List Char) : pieces separator text ≠ [] := by
  cases text with
  | nil => exact List.cons_ne_nil _ _
  | cons c rest =>
    rw [pieces_cons]
    split
    · simp
    · split <;> simp

@[simp] theorem pieces_nil (separator : Char) : pieces separator [] = [[]] := rfl

@[simp] theorem pieces_cons_self (separator : Char) (rest : List Char) :
    pieces separator (separator :: rest) = [] :: pieces separator rest := by
  rw [pieces_cons, if_pos rfl]

theorem joinPieces_cons {separator : Char} {later : List (List Char)} (piece : List Char)
    (h : later ≠ []) :
    joinPieces separator (piece :: later) = piece ++ separator :: joinPieces separator later := by
  cases later with
  | nil => contradiction
  | cons next rest => rfl

@[simp] theorem joinPieces_pieces (separator : Char) (text : List Char) :
    joinPieces separator (pieces separator text) = text := by
  induction text with
  | nil => rfl
  | cons c rest ih =>
    rw [pieces_cons]
    split
    · rename_i hc
      rw [joinPieces_cons _ (pieces_ne_nil _ _), ih, hc]
      rfl
    · split
      · rename_i hnil
        exact absurd hnil (pieces_ne_nil _ _)
      · rename_i piece later hpieces
        rw [hpieces] at ih
        cases later with
        | nil => simpa [joinPieces] using ih
        | cons next tail => simpa [joinPieces] using ih

end BlockScope
