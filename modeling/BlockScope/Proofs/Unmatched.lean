import BlockScope.Proofs.LinesBefore

/-!
Which braces of a document stay without a partner. The characters of a document come in the order
of their places, so the text before a position is the beginning of the whole text, and what is
unmatched there is what the walk has collected so far. A closing brace stays unmatched if nothing
is open where it stands. An opening brace stays unmatched if from there on more braces are open
than before it. And because a closing brace is set aside only while nothing is open, the unmatched
closing braces followed by the unmatched opening ones are part of the text in its own order.
-/

set_option autoImplicit false
set_option relaxedAutoImplicit false

namespace BlockScope

open scoped List

/-! ### Characters in the order of their places -/

theorem Position.precedes_iff {first second : Position} :
    first.precedes second = true ↔ first.line < second.line ∨
      first.line = second.line ∧ first.character < second.character := by
  simp [Position.precedes]

theorem Position.precedes_irrefl (position : Position) : position.precedes position ≠ true := by
  rw [ne_eq, precedes_iff]
  omega

theorem Position.precedes_trans {first second third : Position}
    (hfirst : first.precedes second = true) (hsecond : second.precedes third = true) :
    first.precedes third = true := by
  rw [precedes_iff] at hfirst hsecond ⊢
  omega

/-- The place behind the character at a position. -/
def Position.next (position : Position) : Position := ⟨position.line, position.character + 1⟩

theorem Position.precedes_next_iff {first second : Position} :
    first.precedes second.next = true ↔ first = second ∨ first.precedes second = true := by
  obtain ⟨line, character⟩ := first
  obtain ⟨line', character'⟩ := second
  simp only [precedes_iff, next, Position.mk.injEq]
  omega

/-- One placed character comes before another in the document. -/
def ComesBefore (first second : Position × Char) : Prop := first.1.precedes second.1 = true

theorem mem_placedFrom_iff {number column : Nat} {text : List Char} {position : Position}
    {c : Char} :
    (position, c) ∈ placedFrom number column text ↔ position.line = number ∧
      column ≤ position.character ∧ text[position.character - column]? = some c := by
  obtain ⟨line, character⟩ := position
  simp only [placedFrom, List.mem_map, Prod.mk.injEq, Position.mk.injEq, Prod.exists,
    List.mk_mem_zipIdx_iff_le_and_getElem?_sub]
  constructor
  · rintro ⟨_, _, hentry, ⟨rfl, rfl⟩, rfl⟩
    exact ⟨rfl, hentry⟩
  · rintro ⟨rfl, hentry⟩
    exact ⟨c, character, hentry, ⟨rfl, rfl⟩, rfl⟩

theorem mem_placedText_iff {source : LineSource} {position : Position} {c : Char} :
    (position, c) ∈ placedText source ↔ position.line < source.count.toNat ∧
      (uncommented (source.line position.line))[position.character]? = some c := by
  simp only [placedText, List.mem_flatMap, List.mem_range, mem_placedFrom_iff]
  constructor
  · rintro ⟨number, hnumber, rfl, -, hc⟩
    exact ⟨hnumber, hc⟩
  · rintro ⟨hnumber, hc⟩
    exact ⟨_, hnumber, rfl, Nat.zero_le _, hc⟩

theorem pairwise_placedFrom (number : Nat) (text : List Char) :
    ∀ column : Nat, (placedFrom number column text).Pairwise ComesBefore := by
  induction text with
  | nil =>
    intro column
    exact .nil
  | cons c rest ih =>
    intro column
    rw [placedFrom_cons]
    refine List.pairwise_cons.mpr ⟨?_, ih _⟩
    rintro ⟨position, d⟩ hlater
    obtain ⟨hline, hcolumn, -⟩ := mem_placedFrom_iff.mp hlater
    exact Position.precedes_iff.mpr (.inr ⟨hline.symm, hcolumn⟩)

theorem pairwise_placedText (source : LineSource) : (placedText source).Pairwise ComesBefore := by
  refine List.pairwise_flatMap.mpr ⟨fun number _ ↦ pairwise_placedFrom number _ 0, ?_⟩
  refine List.pairwise_lt_range.imp ?_
  rintro number later hnumber ⟨position, c⟩ hfirst ⟨position', c'⟩ hsecond
  have hline := (mem_placedFrom_iff.mp hfirst).1
  have hline' := (mem_placedFrom_iff.mp hsecond).1
  subst hline hline'
  exact Position.precedes_iff.mpr (.inl hnumber)

/-- Assumes: characters in order, and a property that passes from each to those before it. The
characters that have it stand at the beginning. -/
theorem filter_prefix_of_pairwise {keep : Position × Char → Bool} {text : List (Position × Char)}
    (hordered : text.Pairwise ComesBefore)
    (hkeep : ∀ first second, ComesBefore first second → keep second = true → keep first = true) :
    text.filter keep <+: text := by
  induction text with
  | nil => exact List.prefix_rfl
  | cons placed rest ih =>
    obtain ⟨hfirst, hrest⟩ := List.pairwise_cons.mp hordered
    cases hplaced : keep placed with
    | true =>
      rw [List.filter_cons_of_pos hplaced]
      exact List.prefix_cons_inj placed |>.mpr (ih hrest)
    | false =>
      have hnone : (placed :: rest).filter keep = [] := by
        rw [List.filter_cons_of_neg (by simp [hplaced]), List.filter_eq_nil_iff]
        intro later hlater hkept
        rw [hkeep placed later (hfirst later hlater) hkept] at hplaced
        contradiction
      rw [hnone]
      exact List.nil_prefix

section Split

variable {source : LineSource} {front back : List (Position × Char)} {placed : Position × Char}

/-- Assumes: the text of a source, split at a character. -/
theorem comesBefore_of_split (hsplit : placedText source = front ++ placed :: back) :
    (∀ earlier ∈ front, ComesBefore earlier placed) ∧ (∀ later ∈ back, ComesBefore placed later) ∧
      back.Pairwise ComesBefore := by
  have hordered := pairwise_placedText source
  rw [hsplit] at hordered
  obtain ⟨-, hbehind, hacross⟩ := List.pairwise_append.mp hordered
  obtain ⟨hfirst, hback⟩ := List.pairwise_cons.mp hbehind
  exact ⟨fun earlier hearlier ↦ hacross earlier hearlier placed List.mem_cons_self, hfirst, hback⟩

/-- Before a later position stands the text up to the character, and some of the text behind it. -/
theorem exists_textBefore_of_split (hsplit : placedText source = front ++ placed :: back)
    {later : Position} (hlater : placed.1.precedes later = true) :
    ∃ more, more <+: back ∧ textBefore source later = front ++ placed :: more := by
  obtain ⟨hfront, -, hback⟩ := comesBefore_of_split hsplit
  have hkept : front.filter (·.1.precedes later) = front :=
    List.filter_eq_self.mpr fun earlier hearlier ↦
      Position.precedes_trans (hfront earlier hearlier) hlater
  refine ⟨back.filter (·.1.precedes later), filter_prefix_of_pairwise hback ?_, ?_⟩
  · intro first second hbefore hsecond
    exact Position.precedes_trans hbefore hsecond
  · rw [textBefore, hsplit, List.filter_append, hkept,
      List.filter_cons_of_pos (by exact hlater)]

/-- Before a character stands the text in front of it, and at the place behind it the character has
been added. -/
theorem textBefore_of_split (hsplit : placedText source = front ++ placed :: back) :
    textBefore source placed.1 = front ∧ textBefore source placed.1.next = front ++ [placed] := by
  obtain ⟨hfront, hback, -⟩ := comesBefore_of_split hsplit
  have hbehind : ∀ later ∈ back, ¬ later.1.precedes placed.1 = true := by
    intro later hlater hbefore
    exact Position.precedes_irrefl _ (Position.precedes_trans hbefore (hback later hlater))
  constructor
  · rw [textBefore, hsplit, List.filter_append, List.filter_eq_self.mpr hfront,
      List.filter_cons_of_neg (by exact Position.precedes_irrefl _),
      List.filter_eq_nil_iff.mpr hbehind, List.append_nil]
  · have hnext : ∀ earlier ∈ front, earlier.1.precedes placed.1.next = true :=
      fun earlier hearlier ↦ Position.precedes_next_iff.mpr (.inr (hfront earlier hearlier))
    have hother : ∀ later ∈ back, ¬ later.1.precedes placed.1.next = true := by
      intro later hlater hbefore
      rcases Position.precedes_next_iff.mp hbefore with hsame | hbefore
      · have hafter := hback later hlater
        rw [ComesBefore, hsame] at hafter
        exact Position.precedes_irrefl _ hafter
      · exact hbehind later hlater hbefore
    rw [textBefore, hsplit, List.filter_append, List.filter_eq_self.mpr hnext,
      List.filter_cons_of_pos (by exact Position.precedes_next_iff.mpr (.inl rfl)),
      List.filter_eq_nil_iff.mpr hother]

end Split

/-! ### What one walk collects -/

namespace UnmatchedBraces

/-- The unmatched braces as characters at their places: the closing ones and then the opening
ones, both in the order in which they were met. -/
def entries (braces : UnmatchedBraces) : List (Position × Char) :=
  braces.closings.reverse.map (·, '}') ++ braces.openings.reverse.map (·, '{')

theorem mem_entries_opening {braces : UnmatchedBraces} {position : Position} :
    (position, '{') ∈ braces.entries ↔ position ∈ braces.openings := by
  simp [entries]

theorem mem_entries_closing {braces : UnmatchedBraces} {position : Position} :
    (position, '}') ∈ braces.entries ↔ position ∈ braces.closings := by
  simp [entries]

/-- A closing brace is set aside only if nothing is open, so it comes behind all entries. -/
theorem entries_meet_sublist (braces : UnmatchedBraces) (position : Position) (c : Char) :
    (braces.meet position c).entries <+ braces.entries ++ [(position, c)] := by
  obtain ⟨openings, closings⟩ := braces
  by_cases hopen : c = '{'
  · subst hopen
    simp [entries]
  · by_cases hclose : c = '}'
    · subst hclose
      cases openings with
      | nil => simp [entries, meet]
      | cons inner outer =>
        simp only [entries, meet, List.reverse_cons, List.map_append, List.append_assoc]
        exact (List.sublist_append_left _ _).append_left _
    · rw [meet_of_ne _ _ hopen hclose]
      exact List.sublist_append_left _ _

theorem entries_meetAll_sublist (text : List (Position × Char)) :
    ∀ braces : UnmatchedBraces, (braces.meetAll text).entries <+ braces.entries ++ text := by
  induction text with
  | nil =>
    intro braces
    simp
  | cons placed rest ih =>
    intro braces
    have hstep := (entries_meet_sublist braces placed.1 placed.2).append_right rest
    rw [List.append_assoc, List.singleton_append] at hstep
    exact (ih _).trans hstep

theorem closings_suffix_meet (braces : UnmatchedBraces) (position : Position) (c : Char) :
    braces.closings <:+ (braces.meet position c).closings := by
  unfold meet
  split
  · exact List.suffix_rfl
  · split
    · split
      · exact List.suffix_cons _ _
      · exact List.suffix_rfl
    · exact List.suffix_rfl

theorem closings_suffix_meetAll (text : List (Position × Char)) :
    ∀ braces : UnmatchedBraces, braces.closings <:+ (braces.meetAll text).closings := by
  induction text with
  | nil =>
    intro braces
    exact List.suffix_rfl
  | cons placed rest ih =>
    intro braces
    exact (closings_suffix_meet braces placed.1 placed.2).trans (ih _)

/-- Assumes: a brace that is open, with some others outside it. Behind one more character it is
still there, or it has just been closed. -/
theorem openings_meet_of_suffix {braces : UnmatchedBraces} {brace : Position}
    {outer : List Position} (hopen : brace :: outer <:+ braces.openings) (position : Position)
    (c : Char) :
    brace :: outer <:+ (braces.meet position c).openings ∨
      (braces.meet position c).openings = outer := by
  by_cases hopening : c = '{'
  · subst hopening
    exact .inl (hopen.trans (List.suffix_cons _ _))
  · by_cases hclosing : c = '}'
    · subst hclosing
      rw [openings_meet_closing]
      obtain ⟨inner, hinner⟩ := hopen
      rw [← hinner]
      cases inner with
      | nil => exact .inr rfl
      | cons innermost inner => exact .inl (List.suffix_append _ _)
    · rw [meet_of_ne _ _ hopening hclosing]
      exact .inl hopen

/-- Assumes: a brace that is open, with some others outside it, and a text in which it does not
stand. It is still open behind the text exactly if at every place of the text more braces are open
than the outer ones. The induction is on the text: once the brace is closed it is lost, because it
is not met again. -/
theorem mem_openings_meetAll_iff {brace : Position} {outer : List Position}
    (houter : brace ∉ outer) (text : List (Position × Char)) :
    ∀ {braces : UnmatchedBraces}, brace :: outer <:+ braces.openings →
      (∀ placed ∈ text, placed.1 ≠ brace) →
        (brace ∈ (braces.meetAll text).openings ↔
          ∀ front, front <+: text → outer.length < (braces.meetAll front).openings.length) := by
  induction text with
  | nil =>
    intro braces hopen _
    refine iff_of_true (hopen.mem List.mem_cons_self) fun front hfront ↦ ?_
    rw [List.prefix_nil.mp hfront, meetAll_nil]
    exact hopen.length_le
  | cons placed rest ih =>
    intro braces hopen htext
    obtain ⟨-, hrest⟩ := List.forall_mem_cons.mp htext
    rw [meetAll_cons]
    rcases openings_meet_of_suffix hopen placed.1 placed.2 with hkept | hlost
    · rw [ih hkept hrest]
      constructor
      · intro hdeep front hfront
        rcases List.prefix_cons_iff.mp hfront with rfl | ⟨more, rfl, hmore⟩
        · exact hopen.length_le
        · exact hdeep more hmore
      · intro hdeep front hfront
        exact hdeep (placed :: front) ((List.prefix_cons_inj placed).mpr hfront)
    · refine iff_of_false (fun hmem ↦ ?_) fun hdeep ↦ ?_
      · have hentry := (entries_meetAll_sublist rest _).mem (mem_entries_opening.mpr hmem)
        rcases List.mem_append.mp hentry with hbefore | hlater
        · rw [mem_entries_opening, hlost] at hbefore
          exact houter hbefore
        · exact hrest _ hlater rfl
      · have hshallow := hdeep [placed] ⟨rest, rfl⟩
        rw [meetAll_cons, meetAll_nil, hlost] at hshallow
        exact Nat.lt_irrefl _ hshallow

end UnmatchedBraces

/-! ### The unmatched braces of a source -/

/-- The braces of a source without a partner. -/
def unmatchedIn (source : LineSource) : UnmatchedBraces :=
  UnmatchedBraces.meetAll ⟨[], []⟩ (placedText source)

section Source

variable {source : LineSource} {position : Position}

theorem entries_unmatchedIn_sublist (source : LineSource) :
    (unmatchedIn source).entries <+ placedText source :=
  UnmatchedBraces.entries_meetAll_sublist (placedText source) ⟨[], []⟩

/-- Assumes: the text of a source, split at a character. No other character has its place. -/
theorem ne_of_split {front back : List (Position × Char)} {placed : Position × Char}
    (hsplit : placedText source = front ++ placed :: back) :
    (∀ earlier ∈ front, earlier.1 ≠ placed.1) ∧ ∀ later ∈ back, later.1 ≠ placed.1 := by
  obtain ⟨hfront, hback, -⟩ := comesBefore_of_split hsplit
  refine ⟨fun earlier hearlier hsame ↦ ?_, fun later hlater hsame ↦ ?_⟩
  · have hbefore := hfront earlier hearlier
    rw [ComesBefore, hsame] at hbefore
    exact Position.precedes_irrefl _ hbefore
  · have hbefore := hback later hlater
    rw [ComesBefore, hsame] at hbefore
    exact Position.precedes_irrefl _ hbefore

/-- Assumes: the text of a source, split at a character. No brace at its place is left over from
what stands before it. -/
theorem notMem_entries_of_split {front back : List (Position × Char)} {placed : Position × Char}
    (hsplit : placedText source = front ++ placed :: back) (brace : Char) :
    (placed.1, brace) ∉ (UnmatchedBraces.meetAll ⟨[], []⟩ front).entries := by
  intro hmem
  have hentry := (UnmatchedBraces.entries_meetAll_sublist front ⟨[], []⟩).mem hmem
  exact (ne_of_split hsplit).1 _ hentry rfl

/-- Assumes: the text of a source, split at a closing brace. The brace is collected where it stands
or nowhere. -/
theorem mem_closings_unmatchedIn_of_split {front back : List (Position × Char)}
    (hsplit : placedText source = front ++ (position, '}') :: back) :
    position ∈ (unmatchedIn source).closings ↔ (bracesBefore source position).openings = [] := by
  have hearlier := notMem_entries_of_split hsplit '}'
  rw [UnmatchedBraces.mem_entries_closing] at hearlier
  rw [bracesBefore, (textBefore_of_split hsplit).1, unmatchedIn, hsplit,
    UnmatchedBraces.meetAll_append, UnmatchedBraces.meetAll_cons]
  generalize UnmatchedBraces.meetAll ⟨[], []⟩ front = braces at hearlier ⊢
  obtain ⟨openings, closings⟩ := braces
  cases openings with
  | nil =>
    have hmet : position ∈ (UnmatchedBraces.meet ⟨[], closings⟩ position '}').closings :=
      List.mem_cons_self
    exact iff_of_true ((UnmatchedBraces.closings_suffix_meetAll back _).mem hmet) rfl
  | cons inner outer =>
    refine iff_of_false (fun hmem ↦ ?_) (List.cons_ne_nil _ _)
    have hentry := (UnmatchedBraces.entries_meetAll_sublist back _).mem
      (UnmatchedBraces.mem_entries_closing.mpr hmem)
    rcases List.mem_append.mp hentry with hbefore | hlater
    · have hmet : position ∈
          (UnmatchedBraces.meet ⟨inner :: outer, closings⟩ position '}').closings :=
        UnmatchedBraces.mem_entries_closing.mp hbefore
      exact hearlier hmet
    · exact (ne_of_split hsplit).2 _ hlater rfl

theorem mem_closings_unmatchedIn_iff :
    position ∈ (unmatchedIn source).closings ↔
      (position, '}') ∈ placedText source ∧ (bracesBefore source position).openings = [] := by
  constructor
  · intro hclosing
    have hentry := (entries_unmatchedIn_sublist source).mem
      (UnmatchedBraces.mem_entries_closing.mpr hclosing)
    obtain ⟨front, back, hsplit⟩ := List.append_of_mem hentry
    exact ⟨hentry, (mem_closings_unmatchedIn_of_split hsplit).mp hclosing⟩
  · rintro ⟨hentry, hnone⟩
    obtain ⟨front, back, hsplit⟩ := List.append_of_mem hentry
    exact (mem_closings_unmatchedIn_of_split hsplit).mpr hnone

/-- Assumes: the text of a source, split at an opening brace. The brace stays unmatched exactly if
behind it and behind each of the following characters more braces are open than before it. -/
theorem mem_openings_unmatchedIn_of_split {front back : List (Position × Char)}
    (hsplit : placedText source = front ++ (position, '{') :: back) :
    position ∈ (unmatchedIn source).openings ↔ ∀ more, more <+: back →
      (bracesBefore source position).openings.length <
        (UnmatchedBraces.meetAll ⟨[], []⟩
          (front ++ (position, '{') :: more)).openings.length := by
  have hearlier := notMem_entries_of_split hsplit '{'
  rw [UnmatchedBraces.mem_entries_opening] at hearlier
  rw [bracesBefore, (textBefore_of_split hsplit).1, unmatchedIn, hsplit]
  simp only [UnmatchedBraces.meetAll_append, UnmatchedBraces.meetAll_cons]
  exact UnmatchedBraces.mem_openings_meetAll_iff hearlier back List.suffix_rfl
    (ne_of_split hsplit).2

/-- The depth of a scan is the number of braces that are open there. -/
theorem depth_nestingBefore (source : LineSource) (position : Position) :
    (nestingBefore source position).depth =
      (bracesBefore source position).openings.length :=
  (tracks_nestingBefore source position).depth

/-- An unmatched opening brace is open at every later position, so every scan there is deeper than
the scan before it. -/
theorem depth_lt_of_mem_openings (hopening : position ∈ (unmatchedIn source).openings)
    {later : Position} (hlater : position.precedes later = true) :
    (nestingBefore source position).depth < (nestingBefore source later).depth := by
  have hentry := (entries_unmatchedIn_sublist source).mem
    (UnmatchedBraces.mem_entries_opening.mpr hopening)
  obtain ⟨front, back, hsplit⟩ := List.append_of_mem hentry
  obtain ⟨more, hmore, htext⟩ := exists_textBefore_of_split hsplit hlater
  have hdeeper := (mem_openings_unmatchedIn_of_split hsplit).mp hopening more hmore
  rw [← htext] at hdeeper
  rw [depth_nestingBefore, depth_nestingBefore]
  exact hdeeper

/-- Assumes: an opening brace, and at the places behind it and behind each later character the scan
is deeper than before the brace. The brace is unmatched. -/
theorem mem_openings_of_depth_lt (hbrace : (position, '{') ∈ placedText source)
    (hdeeper : ∀ placed ∈ placedText source, position.precedes placed.1.next = true →
      (nestingBefore source position).depth < (nestingBefore source placed.1.next).depth) :
    position ∈ (unmatchedIn source).openings := by
  obtain ⟨front, back, hsplit⟩ := List.append_of_mem hbrace
  refine (mem_openings_unmatchedIn_of_split hsplit).mpr fun more hmore ↦ ?_
  -- The text that has been met ends with some character, and is the text before the next place.
  obtain ⟨rest, rfl⟩ := hmore
  obtain ⟨met, last, hmet⟩ : ∃ met last,
      front ++ (position, '{') :: more = met ++ [last] :=
    ⟨_, _, (List.dropLast_concat_getLast (by simp)).symm⟩
  have hlast : placedText source = met ++ last :: rest := by
    rw [hsplit, List.append_cons met, ← hmet]
    simp
  have hlater : position = last.1 ∨ position.precedes last.1 = true := by
    have hmem : (position, '{') ∈ met ++ [last] := by
      rw [← hmet]
      simp
    rcases List.mem_append.mp hmem with hbefore | hsame
    · exact .inr ((comesBefore_of_split hlast).1 _ hbefore)
    · exact .inl (congrArg Prod.fst (List.mem_singleton.mp hsame))
  have hdeep := hdeeper last (by rw [hlast]; simp) (Position.precedes_next_iff.mpr hlater)
  rw [depth_nestingBefore, depth_nestingBefore, bracesBefore, bracesBefore,
    (textBefore_of_split hlast).2, ← hmet] at hdeep
  exact hdeep

end Source

/-! ### The unmatched braces of a document -/

theorem meetLine_eq_meetAll (number : Nat) (text : List Char) :
    ∀ (column : Nat) (braces : UnmatchedBraces),
      UnmatchedBraces.meetLine number column braces text =
        braces.meetAll (placedFrom number column text) := by
  induction text with
  | nil =>
    intro column braces
    rfl
  | cons c rest ih =>
    intro column braces
    exact ih _ _

theorem meetLines_eq_meetAll (lines : List (List Char)) :
    ∀ (number : Nat) (braces : UnmatchedBraces),
      UnmatchedBraces.meetLines number braces lines =
        braces.meetAll ((lines.zipIdx number).flatMap fun entry ↦
          placedFrom entry.2 0 (uncommented entry.1)) := by
  induction lines with
  | nil =>
    intro number braces
    rfl
  | cons line rest ih =>
    intro number braces
    rw [UnmatchedBraces.meetLines, ih, meetLine_eq_meetAll, List.zipIdx_cons, List.flatMap_cons,
      UnmatchedBraces.meetAll_append]

theorem placedText_ofLines (lines : List (List Char)) :
    placedText (.ofLines lines) = placedLines lines := by
  have hall : textBefore (.ofLines lines) ⟨lines.length, 0⟩ = placedText (.ofLines lines) := by
    refine List.filter_eq_self.mpr fun placed hplaced ↦ ?_
    have hline := (mem_placedText_iff.mp hplaced).1
    rw [count_ofLines, Int.toNat_natCast] at hline
    exact Position.precedes_iff.mpr (.inl hline)
  have hlines : linesBefore lines ⟨lines.length, 0⟩ = lines := by simp [linesBefore]
  rw [← hall, textBefore_ofLines, hlines]

theorem ofLines_eq_unmatchedIn (lines : List (List Char)) :
    UnmatchedBraces.ofLines lines = unmatchedIn (.ofLines lines) := by
  rw [UnmatchedBraces.ofLines, meetLines_eq_meetAll, unmatchedIn, placedText_ofLines, placedLines]

/-- A character stands at a position of a document, outside comments. -/
def Document.HasAt (document : Document) (position : Position) (c : Char) : Prop :=
  ∃ line, document.lines[position.line]? = some line ∧
    (uncommented line)[position.character]? = some c

theorem mem_placedText_source_iff {document : Document} {position : Position} {c : Char} :
    (position, c) ∈ placedText document.source ↔ document.HasAt position c := by
  rw [mem_placedText_iff, Document.source, count_ofLines, Int.toNat_natCast, line_ofLines,
    List.getD_eq_getElem?_getD]
  constructor
  · rintro ⟨hline, hc⟩
    rw [List.getElem?_eq_getElem hline] at hc
    exact ⟨_, List.getElem?_eq_getElem hline, hc⟩
  · rintro ⟨line, hline, hc⟩
    rw [hline]
    exact ⟨(List.getElem?_eq_some_iff.mp hline).1, hc⟩

end BlockScope
