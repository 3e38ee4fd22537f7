import BlockScope.Block.Brace
import BlockScope.Block.Classification
import BlockScope.Text.Position

/-!
The blocks around a place. A nesting counts the open braces and keeps a stack with the frames of
those that have one. A brace has a frame if it has a header, except the outermost one, which belongs
to the entity that the document defines. The braces without a frame leave no trace but in the count,
so each frame is kept with the depth of its brace: a closing brace takes the innermost frame away if
it stands at the depth that is being closed.
-/

set_option autoImplicit false
set_option relaxedAutoImplicit false

namespace BlockScope

/-- A named block below the level of the document. -/
structure Frame where
  name : String
  operator : BlockOperator
  mode : Mode
  /-- The mode of the frame around it. -/
  parentMode : Mode
  deriving DecidableEq, Repr

/-- The mode inside some frames, the innermost first. -/
def innermostMode : List Frame → Mode
  | [] => .unknown
  | frame :: _ => frame.mode

structure Nesting where
  /-- How many braces are open. -/
  depth : Nat
  /-- The frames of the open braces that have one, the innermost first. -/
  stack : List Frame
  /-- The depths of the braces of these frames, in the same order. -/
  stackDepths : List Nat
  /-- The closing braces that closed nothing, the latest first. -/
  strays : List Position
  deriving DecidableEq, Repr

namespace Nesting

def empty : Nesting := ⟨0, [], [], []⟩

/-- The frames of the open braces, the outermost first. -/
def frames (nesting : Nesting) : List Frame := nesting.stack.reverse

def path (nesting : Nesting) : List String := nesting.frames.map (·.name)

def mode (nesting : Nesting) : Mode := innermostMode nesting.stack

def strayCount (nesting : Nesting) : Nat := nesting.strays.length

/-- The frame of a brace opened here by a header. -/
def frameFor (nesting : Nesting) (header : Header) : Frame where
  name := header.name
  operator := header.operator
  mode := classify header.name header.operator nesting.mode
  parentMode := nesting.mode

def openBrace (nesting : Nesting) (header : Option Header) : Nesting :=
  match header with
  | some header =>
    if 1 < nesting.depth + 1 then
      { nesting with
        depth := nesting.depth + 1
        stack := nesting.frameFor header :: nesting.stack
        stackDepths := (nesting.depth + 1) :: nesting.stackDepths }
    else { nesting with depth := nesting.depth + 1 }
  | none => { nesting with depth := nesting.depth + 1 }

/-- Whether the innermost frame stands at the depth of the innermost brace, below the outermost. -/
def closesFrame (nesting : Nesting) : Bool :=
  !nesting.stack.isEmpty && nesting.stackDepths.head? == some nesting.depth && 1 < nesting.depth

def closeBrace (nesting : Nesting) (position : Position) : Nesting :=
  if nesting.depth = 0 then { nesting with strays := position :: nesting.strays }
  else if nesting.closesFrame then
    { nesting with
      depth := nesting.depth - 1
      stack := nesting.stack.tail
      stackDepths := nesting.stackDepths.tail }
  else { nesting with depth := nesting.depth - 1 }

def step (line : Nat) (nesting : Nesting) (mark : BraceMark) : Nesting :=
  match mark.brace with
  | .opening header => nesting.openBrace header
  | .closing => nesting.closeBrace ⟨line, mark.column⟩

/-- The nesting behind some braces of a line. -/
def walk (nesting : Nesting) (line : Nat) (marks : List BraceMark) : Nesting :=
  marks.foldl (step line) nesting

@[simp] theorem depth_openBrace (nesting : Nesting) (header : Option Header) :
    (nesting.openBrace header).depth = nesting.depth + 1 := by
  unfold openBrace
  split
  · split <;> rfl
  · rfl

@[simp] theorem strays_openBrace (nesting : Nesting) (header : Option Header) :
    (nesting.openBrace header).strays = nesting.strays := by
  unfold openBrace
  split
  · split <;> rfl
  · rfl

@[simp] theorem depth_closeBrace (nesting : Nesting) (position : Position) :
    (nesting.closeBrace position).depth = nesting.depth - 1 := by
  unfold closeBrace
  split
  · simp [*]
  · split <;> rfl

theorem strays_closeBrace (nesting : Nesting) (position : Position) :
    (nesting.closeBrace position).strays =
      if nesting.depth = 0 then position :: nesting.strays else nesting.strays := by
  unfold closeBrace
  split
  · rfl
  · split <;> rfl

@[simp] theorem walk_nil (nesting : Nesting) (line : Nat) : nesting.walk line [] = nesting := rfl

theorem walk_append (nesting : Nesting) (line : Nat) (first second : List BraceMark) :
    nesting.walk line (first ++ second) = (nesting.walk line first).walk line second :=
  List.foldl_append

end Nesting

end BlockScope
