import BlockScope.Block.Nesting

/-!
What a nesting stands for. The open braces form a stack, and each of them has a frame or has none.
Of this stack a nesting keeps only the height and the frames that are there, with their depths. That
is enough to walk on. The depths of the frames are at most the height, and below an entry they are
less than its depth, so the innermost frame stands at the depth of the innermost brace exactly if it
belongs to it. The test on closing a brace therefore finds out whether that brace has a frame, and
every step of a nesting is a step of the full stack.
-/

set_option autoImplicit false
set_option relaxedAutoImplicit false

namespace BlockScope

/-! ### The entries of a stack that are there -/

section Depths

variable {α β : Type}

/-- The depths of the entries of a stack that are there, the innermost first. The outermost entry
stands at depth one. -/
def filledDepths : List (Option α) → List Nat
  | [] => []
  | some _ :: outer => (outer.length + 1) :: filledDepths outer
  | none :: outer => filledDepths outer

theorem le_length_of_mem_filledDepths {depth : Nat} {entries : List (Option α)}
    (hdepth : depth ∈ filledDepths entries) : depth ≤ entries.length := by
  induction entries with
  | nil => exact absurd hdepth List.not_mem_nil
  | cons entry outer ih =>
    cases entry with
    | none => exact Nat.le_succ_of_le (ih hdepth)
    | some value =>
      rcases List.mem_cons.mp hdepth with rfl | houter
      · exact Nat.le_refl _
      · exact Nat.le_succ_of_le (ih houter)

theorem filledDepths_map (f : α → β) (entries : List (Option α)) :
    filledDepths (entries.map (·.map f)) = filledDepths entries := by
  induction entries with
  | nil => rfl
  | cons entry outer ih =>
    cases entry with
    | none => exact ih
    | some value =>
      rw [List.map_cons, Option.map_some, filledDepths, filledDepths, ih, List.length_map]

/-- Counted from the outermost entry on, the depth of an entry is its place. -/
theorem reverse_filledDepths (entries : List (Option α)) :
    (filledDepths entries).reverse =
      ((entries.reverse.zipIdx 1).filter (·.1.isSome)).map (·.2) := by
  induction entries with
  | nil => rfl
  | cons entry outer ih =>
    rw [List.reverse_cons, List.zipIdx_append, List.filter_append, List.map_append, ← ih]
    cases entry with
    | none => simp [filledDepths]
    | some value => simp [filledDepths, Nat.add_comm]

end Depths

namespace Nesting

variable {nesting other : Nesting} {opened : List (Option Frame)}

/-! ### The stack of open braces -/

/-- A nesting stands for a stack of open braces, each with its frame if it has one: it has the
height of the stack, its frames and their depths. The outermost brace, at depth one, has none. -/
structure StandsFor (nesting : Nesting) (opened : List (Option Frame)) : Prop where
  depth : nesting.depth = opened.length
  stack : nesting.stack = opened.filterMap id
  stackDepths : nesting.stackDepths = filledDepths opened
  outermost : ∀ depth ∈ filledDepths opened, 1 < depth

theorem standsFor_empty : StandsFor .empty [] := ⟨rfl, rfl, rfl, by simp [filledDepths]⟩

/-- Assumes: two nestings with the same strays that stand for the same stack. They are the same. -/
theorem StandsFor.eq (hstands : nesting.StandsFor opened) (hother : other.StandsFor opened)
    (hstrays : nesting.strays = other.strays) : nesting = other := by
  obtain ⟨depth, stack, stackDepths, strays⟩ := nesting
  obtain ⟨depth', stack', stackDepths', strays'⟩ := other
  congr
  · exact hstands.depth.trans hother.depth.symm
  · exact hstands.stack.trans hother.stack.symm
  · exact hstands.stackDepths.trans hother.stackDepths.symm

/-! ### Opening a brace -/

/-- The frame of a brace that is opened here, if it has one. -/
def newFrame? (nesting : Nesting) (header : Option Header) : Option Frame :=
  if nesting.depth = 0 then none else header.map nesting.frameFor

theorem openBrace_of_none {header : Option Header} (hframe : nesting.newFrame? header = none) :
    nesting.openBrace header = { nesting with depth := nesting.depth + 1 } := by
  unfold newFrame? at hframe
  cases header with
  | none => rfl
  | some header =>
    by_cases hdepth : nesting.depth = 0
    · simp [openBrace, hdepth]
    · simp [hdepth] at hframe

theorem openBrace_of_some {header : Option Header} {frame : Frame}
    (hframe : nesting.newFrame? header = some frame) :
    nesting.openBrace header =
      { nesting with
        depth := nesting.depth + 1
        stack := frame :: nesting.stack
        stackDepths := (nesting.depth + 1) :: nesting.stackDepths } := by
  unfold newFrame? at hframe
  by_cases hdepth : nesting.depth = 0
  · simp [hdepth] at hframe
  · rw [if_neg hdepth] at hframe
    obtain ⟨header, rfl, rfl⟩ := Option.map_eq_some_iff.mp hframe
    have hbelow : 1 < nesting.depth + 1 := by omega
    simp [openBrace, hbelow]

theorem StandsFor.openBrace (hstands : nesting.StandsFor opened) (header : Option Header) :
    (nesting.openBrace header).StandsFor (nesting.newFrame? header :: opened) := by
  obtain ⟨hdepth, hstack, hdepths, houtermost⟩ := hstands
  cases hframe : nesting.newFrame? header with
  | none =>
    rw [openBrace_of_none hframe]
    exact ⟨by simp [hdepth], hstack, hdepths, houtermost⟩
  | some frame =>
    have hbelow : nesting.depth ≠ 0 := by
      intro hzero
      simp [newFrame?, hzero] at hframe
    have hnew : 1 < opened.length + 1 := by omega
    rw [openBrace_of_some hframe]
    exact ⟨by simp [hdepth], by simp [hstack], by simp [hdepth, hdepths, filledDepths],
      List.forall_mem_cons.mpr ⟨hnew, houtermost⟩⟩

/-! ### Closing a brace -/

/-- The test on closing a brace finds out whether the innermost brace has a frame. -/
theorem StandsFor.closesFrame_eq {entry : Option Frame} {outer : List (Option Frame)}
    (hstands : nesting.StandsFor (entry :: outer)) : nesting.closesFrame = entry.isSome := by
  obtain ⟨hdepth, hstack, hdepths, houtermost⟩ := hstands
  cases entry with
  | some frame =>
    have hbelow : 1 < outer.length + 1 := (List.forall_mem_cons.mp houtermost).1
    simp [closesFrame, hdepth, hstack, hdepths, filledDepths, Nat.lt_of_succ_lt_succ hbelow]
  | none =>
    -- The innermost frame, if there is one, belongs to a brace farther out.
    have hother : nesting.stackDepths.head? ≠ some nesting.depth := by
      intro hhead
      rw [hdepths, hdepth] at hhead
      have hle : (none :: outer).length ≤ outer.length :=
        le_length_of_mem_filledDepths (List.mem_of_mem_head? hhead)
      exact Nat.not_succ_le_self _ hle
    simp [closesFrame, hother]

theorem StandsFor.closeBrace {entry : Option Frame} {outer : List (Option Frame)}
    (hstands : nesting.StandsFor (entry :: outer)) (position : Position) :
    (nesting.closeBrace position).StandsFor outer := by
  have htest := hstands.closesFrame_eq
  obtain ⟨hdepth, hstack, hdepths, houtermost⟩ := hstands
  have hopen : nesting.depth ≠ 0 := by simp [hdepth]
  unfold Nesting.closeBrace
  rw [if_neg hopen, htest]
  cases entry with
  | none => exact ⟨by simp [hdepth], hstack, hdepths, houtermost⟩
  | some frame =>
    exact ⟨by simp [hdepth], by simp [hstack], by simp [hdepths, filledDepths],
      (List.forall_mem_cons.mp houtermost).2⟩

theorem StandsFor.closeBrace_nil (hstands : nesting.StandsFor []) (position : Position) :
    (nesting.closeBrace position).StandsFor [] := by
  have hdepth : nesting.depth = 0 := hstands.depth
  unfold Nesting.closeBrace
  rw [if_pos hdepth]
  exact ⟨hstands.depth, hstands.stack, hstands.stackDepths, hstands.outermost⟩

/-! ### One step of a walk -/

theorem StandsFor.exists_step (hstands : nesting.StandsFor opened) (line : Nat)
    (mark : BraceMark) : ∃ next, (nesting.step line mark).StandsFor next := by
  obtain ⟨column, brace⟩ := mark
  cases brace with
  | opening header => exact ⟨_, hstands.openBrace header⟩
  | closing =>
    cases opened with
    | nil => exact ⟨_, hstands.closeBrace_nil _⟩
    | cons entry outer => exact ⟨_, hstands.closeBrace _⟩

end Nesting

end BlockScope
