import BlockScope.Proofs.OpenBraces
import Mathlib.Data.List.Chain

/-!
The modes of a scan form one chain. A frame gets its mode once, when its brace is opened, from the
frame that is then the innermost. Braces are closed from the inside, so that frame is still there as
long as the new one is, with whatever opened and closed in between, and unnamed braces take no part.
Read from the outermost frame inwards, each frame is therefore classified under the one around it,
and the mode at a position can be computed from the headers of the open braces alone.
-/

set_option autoImplicit false
set_option relaxedAutoImplicit false

namespace BlockScope

/-- The mode inside blocks that lie one in another, given by their headers, the outermost first. -/
def modeInside (headers : List Header) : Mode :=
  headers.foldl (fun mode header ↦ classify header.name header.operator mode) .unknown

/-! ### Frames one in another -/

/-- Frames that lie one in another, the innermost first: each is classified under the mode inside
those around it. -/
inductive Nested : List Frame → Prop
  | nil : Nested []
  | cons (frame : Frame) (outer : List Frame) (hparent : frame.parentMode = innermostMode outer)
    (hmode : frame.mode = classify frame.name frame.operator frame.parentMode)
    (houter : Nested outer) : Nested (frame :: outer)

namespace Nested

variable {frame : Frame} {frames : List Frame}

theorem tail (hnested : Nested frames) : Nested frames.tail := by
  cases hnested with
  | nil => exact .nil
  | cons _ _ _ _ houter => exact houter

theorem mode_eq (hnested : Nested frames) (hframe : frame ∈ frames) :
    frame.mode = classify frame.name frame.operator frame.parentMode := by
  induction hnested with
  | nil => simp at hframe
  | cons inner outer _ hmode _ ih =>
    rcases List.mem_cons.mp hframe with rfl | houter
    · exact hmode
    · exact ih houter

theorem isChain (hnested : Nested frames) :
    frames.IsChain fun inner outer ↦ inner.parentMode = outer.mode := by
  induction hnested with
  | nil => exact .nil
  | cons inner outer hparent _ _ ih =>
    cases outer with
    | nil => exact .singleton _
    | cons next outer => exact .cons_cons hparent ih

theorem parentMode_getLast? (hnested : Nested frames) (hframe : frames.getLast? = some frame) :
    frame.parentMode = .unknown := by
  induction hnested with
  | nil => simp at hframe
  | cons inner outer hparent _ _ ih =>
    cases outer with
    | nil =>
      obtain rfl : inner = frame := by simpa using hframe
      exact hparent
    | cons next outer =>
      rw [List.getLast?_cons_cons] at hframe
      exact ih hframe

/-- The innermost mode comes from the headers: the induction goes from the frames inside to those
around them, so the headers are taken from the end of the list. -/
theorem innermostMode_eq (hnested : Nested frames) :
    innermostMode frames = modeInside (frames.map Frame.header).reverse := by
  induction hnested with
  | nil => rfl
  | cons inner outer hparent hmode _ ih =>
    rw [List.map_cons, List.reverse_cons, modeInside, List.foldl_append]
    change inner.mode = classify inner.name inner.operator
      (modeInside (outer.map Frame.header).reverse)
    rw [← ih, ← hparent, hmode]

end Nested

/-! ### Every scan nests its frames -/

section Steps

variable {nesting : Nesting}

theorem nested_openBrace (hnested : Nested nesting.stack) (header : Option Header) :
    Nested (nesting.openBrace header).stack := by
  unfold Nesting.openBrace
  split
  · split
    · exact .cons _ _ rfl rfl hnested
    · exact hnested
  · exact hnested

theorem nested_closeBrace (hnested : Nested nesting.stack) (position : Position) :
    Nested (nesting.closeBrace position).stack := by
  unfold Nesting.closeBrace
  split
  · exact hnested
  · split
    · exact hnested.tail
    · exact hnested

theorem nested_step (hnested : Nested nesting.stack) (line : Nat) (mark : BraceMark) :
    Nested (nesting.step line mark).stack := by
  obtain ⟨column, brace⟩ := mark
  cases brace with
  | opening header => exact nested_openBrace hnested header
  | closing => exact nested_closeBrace hnested _

end Steps

theorem nested_nestingBefore (source : LineSource) (position : Position) :
    Nested (nestingBefore source position).stack :=
  nestingBefore_invariant (motive := fun nesting ↦ Nested nesting.stack)
    .nil (fun _ line mark hnested ↦ nested_step hnested line mark) source position

/-- At every position the frames of a scan form one chain: the outermost one is classified under no
known mode, and each of the others under the mode of the frame around it. The mode of the scan is
what classifying their headers one after another gives, or those of the named braces that the text
leaves open below the outermost one. The context of the position has the same frames and mode. -/
theorem scanAt_modes_chain (source : LineSource) (position : Position) :
    ∃ nesting, scanAt source position.line position.character = .ok nesting ∧
      (∀ frame, nesting.frames.head? = some frame → frame.parentMode = .unknown) ∧
      (nesting.frames.IsChain fun outer inner ↦ inner.parentMode = outer.mode) ∧
      (∀ frame ∈ nesting.frames,
        frame.mode = classify frame.name frame.operator frame.parentMode) ∧
      nesting.mode = modeInside (nesting.frames.map Frame.header) ∧
      nesting.mode =
        modeInside ((openBraces source position).tail.filterMap (braceHeader? source)) ∧
      ∀ vocabulary root, ∃ context,
        resolveAt vocabulary root source position.line position.character = .ok context ∧
          context.frames = nesting.frames ∧ context.mode = nesting.mode := by
  have hnested := nested_nestingBefore source position
  have hheaders := (tracks_nestingBefore source position).frames
  have hmode : (nestingBefore source position).mode =
      modeInside ((nestingBefore source position).frames.map Frame.header) := by
    rw [Nesting.mode, hnested.innermostMode_eq, Nesting.frames, List.map_reverse]
  refine ⟨_, scanAt_coordinates source position, fun frame hframe ↦ ?_, ?_, fun frame hframe ↦ ?_,
    hmode, ?_, fun vocabulary root ↦ ⟨_, resolveAt_coordinates vocabulary root source position,
      rfl, rfl⟩⟩
  · rw [Nesting.frames, List.head?_reverse] at hframe
    exact hnested.parentMode_getLast? hframe
  · exact List.isChain_reverse.mpr hnested.isChain
  · exact hnested.mode_eq (List.mem_reverse.mp hframe)
  · rw [hmode, hheaders, openBraces]

/-- A weight block with an unnamed brace in it and a modifier in that. Before it stand a closing
brace that closes nothing and a condition block that is closed again. -/
def weightBehindLimit : LineSource :=
  .ofLines ["\x7d a = \x7b limit = \x7b \x7d".toList, "ai_will_do = \x7b \x7b".toList,
    "modifier = \x7b".toList]

/-- The modifier adjusts the weight, and the condition block leaves no trace. -/
theorem scanAt_modes_chain_weightBehindLimit :
    ∃ nesting outer inner, scanAt weightBehindLimit 2 12 = .ok nesting ∧
      nesting.frames = [outer, inner] ∧ outer.parentMode = .unknown ∧
      inner.parentMode = outer.mode ∧ inner.mode = classify "modifier" .equals inner.parentMode ∧
      nesting.mode = .weight := by
  obtain ⟨nesting, hscan, hfirst, hchain, hmodes, hmode, -⟩ :=
    scanAt_modes_chain weightBehindLimit ⟨2, 12⟩
  have hframes : nesting.frames =
      [⟨"ai_will_do", .equals, .weight, .unknown⟩, ⟨"modifier", .equals, .weight, .weight⟩] := by
    obtain rfl := Except.ok.inj ((scanAt_coordinates _ _).symm.trans hscan)
    decide +kernel
  rw [hframes] at hfirst hchain hmodes hmode
  refine ⟨nesting, _, _, hscan, hframes, hfirst _ rfl, ?_, hmodes _ (by simp), ?_⟩
  · exact (List.isChain_cons_cons.mp hchain).1
  · rw [hmode]
    decide +kernel

end BlockScope
