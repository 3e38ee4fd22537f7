import BlockScope.Proofs.LinesBefore

/-!
Lines that close what they open leave no trace. Their braces are walked over from another nesting
than in a scan of their own, and the frames that they get depend on it. But the walk only ever adds
to the open braces that were there and takes away what it has added, and it has added as many as
are open in the scan of the lines alone. Where that scan ends without an open and without a stray
brace, the nesting is therefore back at what it was. The argument is about the stack that a nesting
stands for, because a nesting does not say which of its frames belong to the inserted lines. Behind
the lines the walk goes on as it would have without them, except that its strays are found on other
lines.
-/

set_option autoImplicit false
set_option relaxedAutoImplicit false

namespace BlockScope

namespace Nesting

/-! ### A walk on top of another nesting -/

/-- A nesting stands on a base: it has the strays of the base, and it stands for the open braces of
the base with as many inside them as are open in a nesting of its own. -/
structure StandsOn (base : Nesting) (opened : List (Option Frame)) (own whole : Nesting) :
    Prop where
  strays : whole.strays = base.strays
  inner : ∃ inner, whole.StandsFor (inner ++ opened) ∧ inner.length = own.depth

variable {base own whole : Nesting} {opened : List (Option Frame)}

/-- A nesting stands for open braces behind any lines. -/
theorem StandsFor.exists_walkLines (hbase : base.StandsFor opened) (number : Nat)
    (lines : List (List Char)) : ∃ next, (base.walkLines number lines).StandsFor next := by
  refine @walkLines_related (fun nesting _ ↦ ∃ next, nesting.StandsFor next) ?_ lines base base
    number number ⟨opened, hbase⟩
  rintro nesting - line - mark ⟨opened, hstands⟩
  exact hstands.exists_step line mark

theorem standsOn_empty (hbase : base.StandsFor opened) : StandsOn base opened .empty base :=
  ⟨rfl, [], hbase, rfl⟩

/-- Assumes: the own nesting has closed all that it has opened. What stands on the base is then the
base again. -/
theorem StandsOn.eq_base (hstands : StandsOn base opened own whole)
    (hbase : base.StandsFor opened) (hdepth : own.depth = 0) : whole = base := by
  obtain ⟨hstrays, inner, hwhole, hlength⟩ := hstands
  obtain rfl : inner = [] := List.length_eq_zero_iff.mp (hlength.trans hdepth)
  exact hwhole.eq hbase hstrays

/-- Assumes: a brace that is not a stray of the own nesting. The line does not matter. -/
theorem StandsOn.step (hstands : StandsOn base opened own whole) (line line' : Nat)
    (mark : BraceMark) (hstray : (own.step line mark).strays = own.strays) :
    StandsOn base opened (own.step line mark) (whole.step line' mark) := by
  obtain ⟨hstrays, inner, hwhole, hlength⟩ := hstands
  obtain ⟨column, brace⟩ := mark
  cases brace with
  | opening header =>
    refine ⟨?_, whole.newFrame? header :: inner, hwhole.openBrace header, ?_⟩
    · exact (strays_openBrace whole header).trans hstrays
    · exact (congrArg (· + 1) hlength).trans (depth_openBrace own header).symm
  | closing =>
    have hopen : own.depth ≠ 0 := by
      intro hdepth
      simp [Nesting.step, strays_closeBrace, hdepth] at hstray
    cases inner with
    | nil => exact absurd hlength.symm hopen
    | cons entry inner =>
      have hdeeper : whole.depth ≠ 0 := by
        rw [hwhole.depth]
        exact Nat.succ_ne_zero _
      refine ⟨?_, inner, hwhole.closeBrace _, ?_⟩
      · exact (strays_closeBrace whole _).trans ((if_neg hdeeper).trans hstrays)
      · exact (congrArg (· - 1) hlength).trans (depth_closeBrace own _).symm

/-- A brace never takes a stray away. -/
theorem strays_suffix_step (nesting : Nesting) (line : Nat) (mark : BraceMark) :
    nesting.strays <:+ (nesting.step line mark).strays := by
  unfold step
  split
  · simp only [strays_openBrace, List.suffix_rfl]
  · rw [strays_closeBrace]
    split
    · exact List.suffix_cons _ _
    · exact List.suffix_rfl

/-- Assumes: lines whose own scan ends without a stray. The relation that is kept holds as long as
no stray has been met, because a stray at any brace would still be there at the end. -/
theorem StandsOn.walkLines (hstands : StandsOn base opened own whole) (lines : List (List Char))
    (number number' : Nat) (hnone : (own.walkLines number lines).strays = []) :
    StandsOn base opened (own.walkLines number lines) (whole.walkLines number' lines) := by
  refine @walkLines_related (fun own whole ↦ own.strays = [] → StandsOn base opened own whole) ?_
    lines own whole number number' (fun _ ↦ hstands) hnone
  intro own whole line line' mark hbefore hnext
  have hhere : own.strays = [] :=
    List.suffix_nil.mp (hnext ▸ strays_suffix_step own line mark)
  exact (hbefore hhere).step line line' mark (hnext.trans hhere.symm)

/-! ### A walk on other lines -/

/-- Two nestings have the same open braces and frames and as many strays, which may have been found
at other places. -/
structure Alike (first second : Nesting) : Prop where
  depth : first.depth = second.depth
  stack : first.stack = second.stack
  stackDepths : first.stackDepths = second.stackDepths
  strayCount : first.strayCount = second.strayCount

variable {first second : Nesting}

theorem Alike.refl (nesting : Nesting) : Alike nesting nesting := ⟨rfl, rfl, rfl, rfl⟩

theorem Alike.frames (halike : Alike first second) : first.frames = second.frames := by
  rw [Nesting.frames, Nesting.frames, halike.stack]

theorem Alike.step (halike : Alike first second) (line line' : Nat) (mark : BraceMark) :
    Alike (first.step line mark) (second.step line' mark) := by
  obtain ⟨depth, stack, stackDepths, strays⟩ := first
  obtain ⟨depth', stack', stackDepths', strays'⟩ := second
  obtain ⟨rfl, rfl, rfl, hcount⟩ := halike
  obtain ⟨column, brace⟩ := mark
  cases brace with
  | opening header =>
    change Alike (openBrace _ header) (openBrace _ header)
    unfold openBrace
    split
    · split <;> exact ⟨rfl, rfl, rfl, hcount⟩
    · exact ⟨rfl, rfl, rfl, hcount⟩
  | closing =>
    change Alike (closeBrace _ _) (closeBrace _ _)
    -- The strays take no part in the two tests on closing a brace.
    have htest : closesFrame ⟨depth, stack, stackDepths, strays'⟩ =
        closesFrame ⟨depth, stack, stackDepths, strays⟩ := rfl
    unfold closeBrace
    rw [htest]
    by_cases hdepth : depth = 0
    · rw [if_pos hdepth, if_pos hdepth]
      exact ⟨rfl, rfl, rfl, congrArg (· + 1) hcount⟩
    · rw [if_neg hdepth, if_neg hdepth]
      split <;> exact ⟨rfl, rfl, rfl, hcount⟩

theorem Alike.walkLines (halike : Alike first second) (lines : List (List Char))
    (number number' : Nat) :
    Alike (first.walkLines number lines) (second.walkLines number' lines) :=
  walkLines_related (fun _ _ line line' mark hbefore ↦ hbefore.step line line' mark) lines _ _
    halike

end Nesting

/-! ### Inserting complete blocks -/

/-- Lines close what they open, and nothing else: the scan of them alone ends without an open brace
and has met no stray. The line behind the last one stands for their end. -/
def IsComplete (lines : List (List Char)) : Prop :=
  ∃ nesting, scanAt (.ofLines lines) lines.length 0 = .ok nesting ∧ nesting.depth = 0 ∧
    nesting.strayCount = 0

/-- Assumes: lines that close what they open, and a nesting that stands for open braces. Walking
over the lines does not change it. -/
theorem IsComplete.walkLines_eq {inserted : List (List Char)} (hcomplete : IsComplete inserted)
    {nesting : Nesting} {opened : List (Option Frame)} (hstands : nesting.StandsFor opened)
    (number : Nat) : nesting.walkLines number inserted = nesting := by
  obtain ⟨own, hscan, hdepth, hstrays⟩ := hcomplete
  have hown : Nesting.empty.walkLines 0 inserted = own := by
    have hnesting := scanAt_coordinates (.ofLines inserted) ⟨inserted.length, 0⟩
    rw [nestingBefore_ofLines, linesBefore_length] at hnesting
    exact Except.ok.inj (hnesting.symm.trans hscan)
  subst hown
  have hnone := List.length_eq_zero_iff.mp hstrays
  exact ((Nesting.standsOn_empty hstands).walkLines inserted 0 number hnone).eq_base hstands hdepth

/-- Before a position below some lines stand those lines and what is before it in the rest. -/
theorem linesBefore_append (above below : List (List Char)) (further character : Nat) :
    linesBefore (above ++ below) ⟨above.length + further, character⟩ =
      above ++ linesBefore below ⟨further, character⟩ := by
  simp only [linesBefore, List.take_length_add_append, List.drop_length_add_append,
    List.append_assoc]

/-- Assumes: lines that close what they open, and a line of a document at or below the one in front
of which they are inserted. At every character of that line a scan of the new document finds the
depth, the frames and the number of stray braces that a scan of the old one finds. -/
theorem scanAt_insert (lines inserted : List (List Char)) (index further character : Nat)
    (hcomplete : IsComplete inserted) (hline : index + further < lines.length) :
    ∃ old new,
      scanAt (.ofLines lines) (index + further : Nat) character = .ok old ∧
      scanAt (.ofLines (lines.take index ++ inserted ++ lines.drop index))
        (index + inserted.length + further : Nat) character = .ok new ∧
      new.depth = old.depth ∧ new.frames = old.frames ∧ new.strayCount = old.strayCount := by
  have habove : (lines.take index).length = index := List.length_take_of_le (by omega)
  have hold : linesBefore lines ⟨index + further, character⟩ =
      lines.take index ++ linesBefore (lines.drop index) ⟨further, character⟩ := by
    have hsplit := linesBefore_append (lines.take index) (lines.drop index) further character
    rwa [List.take_append_drop, habove] at hsplit
  have hnew : linesBefore (lines.take index ++ inserted ++ lines.drop index)
      ⟨index + inserted.length + further, character⟩ =
        lines.take index ++ inserted ++ linesBefore (lines.drop index) ⟨further, character⟩ := by
    have hsplit := linesBefore_append (lines.take index ++ inserted) (lines.drop index) further
      character
    rwa [List.length_append, habove] at hsplit
  refine ⟨_, _, scanAt_coordinates _ ⟨_, _⟩, scanAt_coordinates _ ⟨_, _⟩, ?_⟩
  obtain ⟨opened, hstands⟩ := Nesting.standsFor_empty.exists_walkLines 0 (lines.take index)
  have halike : Nesting.Alike
      (nestingBefore (.ofLines (lines.take index ++ inserted ++ lines.drop index))
        ⟨index + inserted.length + further, character⟩)
      (nestingBefore (.ofLines lines) ⟨index + further, character⟩) := by
    rw [nestingBefore_ofLines, nestingBefore_ofLines, hold, hnew, Nesting.walkLines_append,
      Nesting.walkLines_append, Nesting.walkLines_append, hcomplete.walkLines_eq hstands]
    exact (Nesting.Alike.refl _).walkLines _ _ _
  exact ⟨halike.depth, halike.frames, halike.strayCount⟩

/-- Three lines with a block and an unnamed brace inside a block, and a brace in a comment. -/
def nestedBlock : List (List Char) :=
  ["b = \x7b c = \x7b".toList, "\x7b \x7d \x7d # \x7b".toList, "\x7d".toList]

/-- The block is inserted two levels deep, behind a stray brace. On the line below it the frames
stay as they are. -/
theorem scanAt_insert_nestedBlock :
    IsComplete nestedBlock ∧
      ∃ nesting, scanAt (.ofLines (["\x7d a = \x7b".toList, "limit = \x7b".toList] ++ nestedBlock ++
          ["d = \x7b".toList])) 5 5 = .ok nesting ∧
        nesting.depth = 3 ∧ nesting.frames.map (·.name) = ["limit", "d"] ∧
        nesting.strayCount = 1 := by
  have hcomplete : IsComplete nestedBlock :=
    ⟨_, scanAt_coordinates _ ⟨3, 0⟩, by decide +kernel, by decide +kernel⟩
  obtain ⟨old, new, hold, hnew, hdepth, hframes, hstrays⟩ :=
    scanAt_insert ["\x7d a = \x7b".toList, "limit = \x7b".toList, "d = \x7b".toList] nestedBlock
      2 0 5 hcomplete (by decide)
  obtain rfl := Except.ok.inj ((scanAt_coordinates _ ⟨2, 5⟩).symm.trans hold)
  refine ⟨hcomplete, new, hnew, ?_⟩
  rw [hdepth, hframes, hstrays]
  decide +kernel

end BlockScope
