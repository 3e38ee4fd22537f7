import BlockScope.Proofs.Unmatched

/-!
Whose name the search backwards returns. A header belongs to a brace if nothing but blanks stands
between them, with at most one line break, and then perhaps a comment behind the header. The search
gives an open brace the name of its own header, or else that of a header with which the line above
ends. In the second case it does not look at what stands before the brace on its line, so the name
belongs to the brace if the brace stands first there. If something else does, the header may have
opened another block, which has been closed since.
-/

set_option autoImplicit false
set_option relaxedAutoImplicit false

namespace BlockScope

/-- Nothing but blanks stands before a brace on its line. -/
def StandsFirst (source : LineSource) (brace : Position) : Prop :=
  ∀ c ∈ (source.line brace.line).take brace.character, isBlank c = true

instance (source : LineSource) (brace : Position) : Decidable (StandsFirst source brace) :=
  List.decidableBAll (fun c ↦ isBlank c = true) _

/-- A brace belongs to a header with a name. The header ends before the brace on its line, or the
brace stands first there and the line above ends with the header, up to a comment. -/
def HeadedBy (source : LineSource) (brace : Position) (name : String) : Prop :=
  ∃ header : Header, header.name = name ∧
    ((∃ start, header.EndsText start ((source.line brace.line).take brace.character)) ∨
      0 < brace.line ∧ StandsFirst source brace ∧
        ∃ start, header.EndsText start (uncommented (source.line (brace.line - 1))))

/-- The search gives a brace a name that does not belong to it: the brace has no header on its line,
and behind the header with which the line above ends something else than blanks stands before it. -/
def Misread (source : LineSource) (brace : Position) : Prop :=
  braceHeader? source brace = none ∧ ¬ StandsFirst source brace ∧ ∃ name, HasName source brace name

/-- The innermost open brace that has a name. -/
def InnermostNamed (source : LineSource) (position brace : Position) : Prop :=
  (∃ name, HasName source brace name) ∧
    ∃ outer inner, openBraces source position = outer ++ brace :: inner ∧
      ∀ closer ∈ inner, ∀ name, ¬ HasName source closer name

section Brace

variable {source : LineSource} {position brace : Position} {name : String}

/-- An open brace stands outside comments, behind the text before it on its line. -/
theorem exists_uncommented_eq_of_mem_openBraces (hopen : brace ∈ openBraces source position) :
    ∃ before behind, uncommented (source.line brace.line) = before ++ '{' :: behind ∧
      before.length = brace.character ∧
      (source.line brace.line).take brace.character = before := by
  have hentry : (brace, '{') ∈ textBefore source position :=
    (UnmatchedBraces.entries_meetAll_sublist (textBefore source position) ⟨[], []⟩).mem
      (UnmatchedBraces.mem_entries_opening.mpr (List.mem_reverse.mp hopen))
  obtain ⟨-, hbrace⟩ := mem_placedText_iff.mp (List.mem_filter.mp hentry).1
  obtain ⟨hinside, hchar⟩ := List.getElem?_eq_some_iff.mp hbrace
  obtain ⟨comment, hcomment⟩ : uncommented (source.line brace.line) <+: source.line brace.line :=
    List.takeWhile_prefix _
  refine ⟨(uncommented (source.line brace.line)).take brace.character,
    (uncommented (source.line brace.line)).drop (brace.character + 1), ?_, ?_, ?_⟩
  · rw [← hchar, ← List.drop_eq_getElem_cons hinside, List.take_append_drop]
  · exact List.length_take_of_le (Nat.le_of_lt hinside)
  · rw [← hcomment, List.take_append_of_le_length (Nat.le_of_lt hinside), hcomment]

/-- The header of an open brace is the one that the text before it on its line ends with. -/
theorem braceHeader?_eq_some_iff (hopen : brace ∈ openBraces source position) {header : Header} :
    braceHeader? source brace = some header ↔
      ∃ start, header.EndsText start ((source.line brace.line).take brace.character) := by
  obtain ⟨before, behind, hline, hlength, hbefore⟩ :=
    exists_uncommented_eq_of_mem_openBraces hopen
  rw [hbefore, braceHeader?, hline, ← hlength, Header.headerAt?_openings,
    Header.atEnd?_eq_some_iff]

/-- Assumes: an open brace with a name that is not misread. The name belongs to it. -/
theorem HasName.headedBy (hname : HasName source brace name)
    (hopen : brace ∈ openBraces source position) (hread : ¬ Misread source brace) :
    HeadedBy source brace name := by
  cases hheader : braceHeader? source brace with
  | some header =>
    refine ⟨header, ?_, .inl ((braceHeader?_eq_some_iff hopen).mp hheader)⟩
    simpa only [HasName, hheader] using hname
  | none =>
    have hfirst : StandsFirst source brace := by
      by_contra hnot
      exact hread ⟨hheader, hnot, name, hname⟩
    simp only [HasName, hheader] at hname
    obtain ⟨hline, header, start, hends, hsame⟩ := hname
    exact ⟨header, hsame, .inr ⟨hline, hfirst, start, hends⟩⟩

/-- Assumes: an open brace that is misread. No name belongs to it. -/
theorem Misread.not_headedBy (hread : Misread source brace)
    (hopen : brace ∈ openBraces source position) : ¬ HeadedBy source brace name := by
  obtain ⟨hheader, hnot, -⟩ := hread
  rintro ⟨header, -, hends | ⟨-, hfirst, -⟩⟩
  · rw [(braceHeader?_eq_some_iff hopen).mpr hends] at hheader
    contradiction
  · exact hnot hfirst

theorem InnermostNamed.mem_openBraces (hinnermost : InnermostNamed source position brace) :
    brace ∈ openBraces source position := by
  obtain ⟨-, outer, inner, hsplit, -⟩ := hinnermost
  rw [hsplit]
  exact List.mem_append_right _ List.mem_cons_self

end Brace

/-- The search backwards succeeds at every position, and what it returns depends on the innermost
open brace that has a name. Where that brace is not misread, a name that is returned belongs to it,
and so to a block that is not closed. And where it is misread, a name is returned that does not
belong to it. -/
theorem enclosingName?_headed_unless_misread (document : Document) (position : Position) :
    ∃ result, enclosingName? document.lines position.line position.character = .ok result ∧
      ((∀ brace, InnermostNamed document.source position brace →
          ¬ Misread document.source brace) →
        ∀ name, result = some name →
          ∃ brace ∈ openBraces document.source position,
            InnermostNamed document.source position brace ∧
              HeadedBy document.source brace name) ∧
      ∀ brace, InnermostNamed document.source position brace →
        Misread document.source brace →
          ∃ name, result = some name ∧ ¬ HeadedBy document.source brace name := by
  refine ⟨_, enclosingName?_coordinates document.lines position, ?_, ?_⟩
  · intro hread name hresult
    obtain ⟨outer, brace, inner, hsplit, hname, hinner⟩ :=
      findSome?_blockName?_eq_some_iff.mp hresult
    have hinnermost : InnermostNamed document.source position brace :=
      ⟨⟨name, hname⟩, outer, inner, hsplit, hinner⟩
    have hopen := hinnermost.mem_openBraces
    exact ⟨brace, hopen, hinnermost, hname.headedBy hopen (hread brace hinnermost)⟩
  · intro brace hinnermost hread
    have hopen := hinnermost.mem_openBraces
    obtain ⟨⟨name, hname⟩, outer, inner, hsplit, hinner⟩ := hinnermost
    have hresult := findSome?_blockName?_eq_some_iff.mpr
      ⟨outer, brace, inner, hsplit, hname, hinner⟩
    exact ⟨name, hresult, hread.not_headedBy hopen⟩

/-- A header, and below it the block that it opens, closed again, and a brace without a name. -/
def closedBelowHeader : Document := .ofString "a =\n\x7b \x7d \x7b"

/-- The search returns the name of the closed block, and no open brace belongs to it. -/
theorem enclosingName?_of_closed_block :
    enclosingName? closedBelowHeader.lines 1 5 = .ok (some "a") ∧
      ¬ ∃ brace ∈ openBraces closedBelowHeader.source ⟨1, 5⟩,
        HeadedBy closedBelowHeader.source brace "a" := by
  have hopened : openBraces closedBelowHeader.source ⟨1, 5⟩ = [⟨1, 4⟩] := by decide +kernel
  refine ⟨by decide +kernel, ?_⟩
  rintro ⟨brace, hopen, hheaded⟩
  have hbrace := hopen
  rw [hopened, List.mem_singleton] at hbrace
  subst hbrace
  obtain ⟨header, -, hends | ⟨-, hfirst, -⟩⟩ := hheaded
  · have hheader := (braceHeader?_eq_some_iff hopen).mpr hends
    have hnone : braceHeader? closedBelowHeader.source ⟨1, 4⟩ = none := by decide +kernel
    rw [hnone] at hheader
    contradiction
  · exact absurd hfirst (by decide +kernel)

/-- A closed block below its header and a brace without a name behind it. Inside that brace stands
another one, on the line below its own header, with a comment between them. -/
def headerAbove : Document :=
  .ofString "a =\n\x7b \x7d \x7b\n\toption = # \x7b\n\t\x7b\n\t\t\n"

/-- Of the two braces below headers, the inner one stands first on its line and is read rightly,
although the outer one is not. Where the outer one is the innermost, its name is not its own. -/
theorem enclosingName?_headed_unless_misread_headerAbove :
    InnermostNamed headerAbove.source ⟨4, 2⟩ ⟨3, 1⟩ ∧
      (∀ brace, InnermostNamed headerAbove.source ⟨4, 2⟩ brace →
        ¬ Misread headerAbove.source brace) ∧
      Misread headerAbove.source ⟨1, 4⟩ ∧
      enclosingName? headerAbove.lines 4 2 = .ok (some "option") ∧
      (∃ brace ∈ openBraces headerAbove.source ⟨4, 2⟩,
        HeadedBy headerAbove.source brace "option") ∧
      InnermostNamed headerAbove.source ⟨1, 5⟩ ⟨1, 4⟩ ∧
      ∃ name, enclosingName? headerAbove.lines 1 5 = .ok (some name) ∧
        ¬ HeadedBy headerAbove.source ⟨1, 4⟩ name := by
  have hopened : openBraces headerAbove.source ⟨4, 2⟩ = [⟨1, 4⟩, ⟨3, 1⟩] := by decide +kernel
  have hoption : HasName headerAbove.source ⟨3, 1⟩ "option" :=
    blockName?_eq_some_iff.mp (by decide +kernel)
  have hforeign : HasName headerAbove.source ⟨1, 4⟩ "a" :=
    blockName?_eq_some_iff.mp (by decide +kernel)
  have hmisread : Misread headerAbove.source ⟨1, 4⟩ :=
    ⟨by decide +kernel, by decide +kernel, "a", hforeign⟩
  have hread : ∀ brace, InnermostNamed headerAbove.source ⟨4, 2⟩ brace →
      ¬ Misread headerAbove.source brace := by
    rintro brace ⟨-, outer, inner, hsplit, hinner⟩ ⟨-, hnot, -⟩
    rw [hopened] at hsplit
    rcases outer with _ | ⟨first, _ | ⟨second, outer⟩⟩
    · obtain ⟨-, rfl⟩ := List.cons.inj hsplit
      exact hinner ⟨3, 1⟩ (by simp) "option" hoption
    · obtain ⟨-, hsplit⟩ := List.cons.inj hsplit
      obtain ⟨rfl, -⟩ := List.cons.inj hsplit
      exact absurd (by decide +kernel) hnot
    · simp at hsplit
  have hinner : InnermostNamed headerAbove.source ⟨4, 2⟩ ⟨3, 1⟩ :=
    ⟨⟨_, hoption⟩, [⟨1, 4⟩], [], hopened, by simp⟩
  have houter : InnermostNamed headerAbove.source ⟨1, 5⟩ ⟨1, 4⟩ :=
    ⟨⟨_, hforeign⟩, [], [], by decide +kernel, by simp⟩
  have hsearch : enclosingName? headerAbove.lines 4 2 = .ok (some "option") := by decide +kernel
  obtain ⟨result, hresult, hheaded, -⟩ := enclosingName?_headed_unless_misread headerAbove ⟨4, 2⟩
  obtain ⟨brace, hopen, -, hbelongs⟩ :=
    hheaded hread "option" (Except.ok.inj (hresult.symm.trans hsearch))
  obtain ⟨other, hother, -, hnone⟩ := enclosingName?_headed_unless_misread headerAbove ⟨1, 5⟩
  obtain ⟨name, rfl, hnot⟩ := hnone ⟨1, 4⟩ houter hmisread
  exact ⟨hinner, hread, hmisread, hsearch, ⟨brace, hopen, hbelongs⟩, houter, name, hother, hnot⟩

end BlockScope
