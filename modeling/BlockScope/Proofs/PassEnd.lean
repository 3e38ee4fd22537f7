import BlockScope.Proofs.PointScan

/-!
Where a forward pass ends when the points are arbitrary. A pass takes points as long as they are not
negative, do not go back in the document and lie on its lines, so what it yields belongs to the
longest beginning of the points with these properties. The first point that it does not take decides
how it ends, and the points behind that one are never looked at. The lines that it has asked for by
then are those down to the last point that it took, each of them once: a point that is not taken
makes it read nothing.
-/

set_option autoImplicit false
set_option relaxedAutoImplicit false

namespace BlockScope

/-! ### Lines are asked for in order -/

namespace ScanPass

/-- A pass has asked for each line that it has read once, from the first one on. -/
def AsksInOrder (pass : ScanPass) : Prop := pass.requested.reverse = List.range pass.linesRead

variable {source : LineSource} {pass : ScanPass}

theorem asksInOrder_start : start.AsksInOrder := rfl

theorem AsksInOrder.nextLine (hpass : pass.AsksInOrder) : (pass.nextLine source).AsksInOrder := by
  change (pass.linesRead :: pass.requested).reverse = List.range (pass.linesRead + 1)
  rw [List.reverse_cons, List.range_succ, show pass.requested.reverse = _ from hpass]

theorem AsksInOrder.readLines (count : Nat) :
    ∀ {pass : ScanPass}, pass.AsksInOrder → (pass.readLines source count).AsksInOrder := by
  induction count with
  | zero =>
    intro pass hpass
    exact hpass
  | succ count ih =>
    intro pass hpass
    exact ih hpass.nextLine

theorem AsksInOrder.advance (hpass : pass.AsksInOrder) (position : Position) :
    (pass.advance source position).AsksInOrder :=
  hpass.readLines (position.line + 1 - pass.linesRead)

theorem StandsBehind.linesRead {previous : Option Position}
    (hpass : pass.StandsBehind source previous) :
    pass.linesRead = previous.elim 0 (·.line + 1) := by
  cases previous with
  | none =>
    cases hpass
    rfl
  | some previous => exact StandsAt.linesRead hpass

end ScanPass

/-! ### Points that a pass takes -/

def IsNegative (point : Int × Int) : Prop := point.1 < 0 ∨ point.2 < 0

/-- One point comes before another: on a line above it, or further left on the same line. -/
def PointBefore (first second : Int × Int) : Prop :=
  first.1 < second.1 ∨ first.1 = second.1 ∧ first.2 < second.2

/-- Points that a pass can take one after another: none of them is negative or comes before an
earlier one, and all of them are on lines of the source. -/
structure Takeable (source : LineSource) (points : List (Int × Int)) : Prop where
  nonnegative : ∀ point ∈ points, ¬ IsNegative point
  ordered : points.Pairwise fun first second ↦ ¬ PointBefore second first
  inside : ∀ point ∈ points, point.1 < source.count

/-- How a pass ends behind the last point that it took, if any, with some points left, and what it
says then. -/
inductive PassEnds (source : LineSource) (last : Option (Int × Int)) :
    List (Int × Int) → Option String → Prop
  | exhausted : PassEnds source last [] none
  | negative (point : Int × Int) (later : List (Int × Int)) (hpoint : IsNegative point) :
    PassEnds source last (point :: later) (some "Scan position cannot be negative")
  | outOfOrder (point previous : Int × Int) (later : List (Int × Int))
    (hpoint : ¬ IsNegative point) (hlast : last = some previous)
    (hbefore : PointBefore point previous) :
    PassEnds source last (point :: later) (some "Scan points must be in document order")
  | beyond (point : Int × Int) (later : List (Int × Int)) (hpoint : ¬ IsNegative point)
    (horder : ∀ previous, last = some previous → ¬ PointBefore point previous)
    (hbeyond : source.count ≤ point.1) : PassEnds source last (point :: later) none

section Takeable

variable {source : LineSource} {taken rest front : List (Int × Int)} {message : Option String}

theorem Takeable.of_prefix (htaken : Takeable source taken) (hfront : front <+: taken) :
    Takeable source front where
  nonnegative := fun point hpoint ↦ htaken.nonnegative point (hfront.subset hpoint)
  ordered := htaken.ordered.sublist hfront.sublist
  inside := fun point hpoint ↦ htaken.inside point (hfront.subset hpoint)

/-- The point at which a pass ends is not one that could have been taken. -/
theorem PassEnds.not_takeable {point : Int × Int} {later more : List (Int × Int)}
    (hends : PassEnds source taken.getLast? (point :: later) message) :
    ¬ Takeable source (taken ++ point :: more) := by
  intro htakeable
  have hmem : point ∈ taken ++ point :: more := List.mem_append_right _ List.mem_cons_self
  cases hends with
  | negative _ _ hpoint => exact htakeable.nonnegative point hmem hpoint
  | outOfOrder _ previous _ _ hlast hbefore =>
    obtain ⟨-, -, hacross⟩ := List.pairwise_append.mp htakeable.ordered
    exact hacross previous (List.mem_of_getLast? hlast) point List.mem_cons_self hbefore
  | beyond _ _ _ _ hbeyond =>
    have hinside := htakeable.inside point hmem
    omega

/-- Assumes: points that a pass can take, behind which it ends. They are the longest beginning of
all the points that it can take. -/
theorem PassEnds.takeable_prefix_iff (hends : PassEnds source taken.getLast? rest message)
    (htaken : Takeable source taken) :
    front <+: taken ++ rest ∧ Takeable source front ↔ front <+: taken := by
  constructor
  · rintro ⟨hfront, htakeable⟩
    rcases List.prefix_or_prefix_of_prefix hfront (List.prefix_append taken rest) with
      hshort | ⟨more, rfl⟩
    · exact hshort
    · obtain ⟨later, rfl⟩ := (List.prefix_append_right_inj taken).mp hfront
      cases more with
      | nil => simp
      | cons point more => exact absurd htakeable hends.not_takeable
  · intro hfront
    exact ⟨hfront.trans (List.prefix_append _ _), htaken.of_prefix hfront⟩

end Takeable

/-! ### What a pass yields -/

theorem pointBefore_coordinates_iff {first second : Position} :
    PointBefore first.coordinates second.coordinates ↔ first.precedes second = true := by
  simp only [PointBefore, Position.coordinates, Position.precedes, Bool.or_eq_true,
    Bool.and_eq_true, decide_eq_true_eq, beq_iff_eq]
  omega

/-- Assumes: three positions, none of them before the one in front of it. -/
theorem Position.precedes_eq_false_trans {first second third : Position}
    (hfirst : second.precedes first = false) (hsecond : third.precedes second = false) :
    third.precedes first = false := by
  simp only [Position.precedes, Bool.or_eq_false_iff, Bool.and_eq_false_iff,
    decide_eq_false_iff_not, beq_eq_false_iff_ne] at hfirst hsecond ⊢
  omega

/-- The last of some points behind the previous one. -/
theorem getLast?_cons_or (point : Position) (taken : List Position) (previous : Option Position) :
    (point :: taken).getLast?.or previous = taken.getLast?.or (some point) := by
  rw [List.getLast?_cons]
  cases taken.getLast? <;> rfl

theorem not_isNegative_coordinates (position : Position) : ¬ IsNegative position.coordinates := by
  simp only [IsNegative, Position.coordinates]
  omega

theorem exists_coordinates_of_not_isNegative {point : Int × Int} (hpoint : ¬ IsNegative point) :
    ∃ position : Position, point = position.coordinates := by
  obtain ⟨line, character⟩ := point
  simp only [IsNegative, not_or, Int.not_lt] at hpoint
  refine ⟨⟨line.toNat, character.toNat⟩, ?_⟩
  simp [Position.coordinates, Int.toNat_of_nonneg hpoint.1, Int.toNat_of_nonneg hpoint.2]

/-- Assumes: points in document order on lines of the source. -/
theorem takeable_coordinates {source : LineSource} {points : List Position}
    (horder : InDocumentOrder points)
    (hline : ∀ point ∈ points, (point.line : Int) < source.count) :
    Takeable source (points.map Position.coordinates) where
  nonnegative := by
    simpa using fun point _ ↦ not_isNegative_coordinates point
  ordered := by
    refine List.pairwise_map.mpr (horder.imp ?_)
    intro first second hbefore
    rw [pointBefore_coordinates_iff, hbefore]
    decide
  inside := by
    simpa [Position.coordinates] using hline

/-- The rest of a pass behind the previous point: it takes some points, yields the nesting of a
fresh scan at each of them, has asked for the lines down to the last one, and ends there. -/
structure PointScan.EndsBehind (source : LineSource) (previous : Option Position)
    (taken : List Position) (rest : List (Int × Int)) (scan : PointScan) : Prop where
  ordered : InDocumentOrder (previous.toList ++ taken)
  inside : ∀ point ∈ taken, (point.line : Int) < source.count
  results : scan.results = taken.map fun point ↦ (point, nestingBefore source point)
  requested : scan.requested = List.range ((taken.getLast?.or previous).elim 0 (·.line + 1))
  ends : PassEnds source ((taken.getLast?.or previous).map Position.coordinates) rest
    (scan.failure.map ScanError.message)

section Pass

variable {source : LineSource} {pass : ScanPass} {previous : Option Position}

theorem ScanPass.StandsBehind.finish (hpass : pass.StandsBehind source previous)
    (hasks : pass.AsksInOrder) {rest : List (Int × Int)} {failure : Option ScanError}
    (hends : PassEnds source (previous.map Position.coordinates) rest
      (failure.map ScanError.message)) :
    (pass.finish failure).EndsBehind source previous [] rest where
  ordered := by
    cases previous with
    | none => exact .nil
    | some previous => exact List.pairwise_singleton _ _
  inside := by simp
  results := rfl
  requested := by
    rw [List.getLast?_nil, Option.none_or, ← hpass.linesRead]
    exact hasks
  ends := hends

/-- Assumes: a point on a line of the source that does not come before the previous one, and a pass
that goes on behind it. -/
theorem PointScan.EndsBehind.cons {point : Position} {taken : List Position}
    {rest : List (Int × Int)} {later : PointScan}
    (hlater : later.EndsBehind source (some point) taken rest)
    (hprevious : previous.any point.precedes = false) (hline : (point.line : Int) < source.count)
    {nesting : Nesting} (hnesting : nesting = nestingBefore source point) :
    { later with results := (point, nesting) :: later.results : PointScan }.EndsBehind source
      previous (point :: taken) rest where
  ordered := by
    have hordered : InDocumentOrder (point :: taken) := hlater.ordered
    cases previous with
    | none => exact hordered
    | some previous =>
      have hfirst : point.precedes previous = false := by simpa using hprevious
      refine List.pairwise_cons.mpr ⟨?_, hordered⟩
      refine List.forall_mem_cons.mpr ⟨hfirst, fun next hnext ↦ ?_⟩
      exact Position.precedes_eq_false_trans hfirst (List.rel_of_pairwise_cons hordered hnext)
  inside := List.forall_mem_cons.mpr ⟨hline, hlater.inside⟩
  results := by
    rw [List.map_cons, hnesting, hlater.results]
  requested := by
    rw [getLast?_cons_or]
    exact hlater.requested
  ends := by
    rw [getLast?_cons_or]
    exact hlater.ends

end Pass

section Refused

variable {source : LineSource} {pass : ScanPass} {previous : Option Position}
  {rest : List (Int × Int)}

theorem scanPointsFrom_cons_of_isNegative {point : Int × Int} (hpoint : IsNegative point) :
    scanPointsFrom source pass previous (point :: rest) =
      pass.finish (some .negativePosition) := by
  have hrefused : scanPosition point.1 point.2 = .error .negativePosition := if_pos hpoint
  rw [scanPointsFrom, hrefused]

theorem scanPointsFrom_coordinates_cons_of_precedes {position : Position}
    (hbefore : previous.any position.precedes = true) :
    scanPointsFrom source pass previous (position.coordinates :: rest) =
      pass.finish (some .outOfOrder) := by
  rw [Position.coordinates, scanPointsFrom, scanPosition_coordinates]
  simp only [hbefore, if_true]

theorem scanPointsFrom_coordinates_cons_of_le {position : Position}
    (hbefore : previous.any position.precedes = false)
    (hline : source.count ≤ (position.line : Int)) :
    scanPointsFrom source pass previous (position.coordinates :: rest) = pass.finish none := by
  rw [Position.coordinates, scanPointsFrom, scanPosition_coordinates]
  simp only [hbefore, Bool.false_eq_true, if_false]
  rw [if_pos hline]

end Refused

/-- Assumes: a pass that stands behind the previous point and has asked for its lines in order. The
induction follows the points; as long as they are taken, where the pass stands is carried along. -/
theorem exists_endsBehind_scanPointsFrom {source : LineSource} (points : List (Int × Int)) :
    ∀ (pass : ScanPass) (previous : Option Position), pass.StandsBehind source previous →
      pass.AsksInOrder →
        ∃ (taken : List Position) (rest : List (Int × Int)),
          points = taken.map Position.coordinates ++ rest ∧
          (scanPointsFrom source pass previous points).EndsBehind source previous taken rest := by
  induction points with
  | nil =>
    intro pass previous hpass hasks
    exact ⟨[], [], rfl, hpass.finish hasks .exhausted⟩
  | cons point points ih =>
    intro pass previous hpass hasks
    by_cases hnegative : IsNegative point
    · refine ⟨[], point :: points, rfl, ?_⟩
      rw [scanPointsFrom_cons_of_isNegative hnegative]
      exact hpass.finish hasks (.negative point points hnegative)
    · obtain ⟨position, rfl⟩ := exists_coordinates_of_not_isNegative hnegative
      cases hbefore : previous.any position.precedes with
      | true =>
        refine ⟨[], position.coordinates :: points, rfl, ?_⟩
        rw [scanPointsFrom_coordinates_cons_of_precedes hbefore]
        obtain ⟨last, rfl, hlast⟩ := (Option.any_eq_true _ _).mp hbefore
        exact hpass.finish hasks (.outOfOrder _ _ points hnegative rfl
          (pointBefore_coordinates_iff.mpr hlast))
      | false =>
        by_cases hline : (position.line : Int) < source.count
        · have hstands := hpass.advance hbefore
          obtain ⟨taken, rest, hpoints, hends⟩ := ih (pass.advance source position) (some position)
            hstands (hasks.advance position)
          refine ⟨position :: taken, rest, by rw [hpoints]; rfl, ?_⟩
          rw [scanPointsFrom_coordinates_cons hbefore hline]
          exact hends.cons hbefore hline (hstands.nesting_eq_nestingBefore hline)
        · refine ⟨[], position.coordinates :: points, rfl, ?_⟩
          rw [scanPointsFrom_coordinates_cons_of_le hbefore (Int.not_lt.mp hline)]
          refine hpass.finish hasks (.beyond _ points hnegative ?_ (Int.not_lt.mp hline))
          intro _ hlast
          obtain ⟨last, rfl, rfl⟩ := Option.map_eq_some_iff.mp hlast
          rw [pointBefore_coordinates_iff, show position.precedes last = false from hbefore]
          decide

/-- A pass takes the longest beginning of the points that it can take. It yields these points in
order, with the nesting that a scan from the top finds at each of them, and then the next point, if
there is one, decides how it ends. It has asked for the lines down to that of the last point that it
took, each of them once and in order, and for none if it took nothing. -/
theorem scanPoints_takes_longest (source : LineSource) (points : List (Int × Int)) :
    ∃ taken rest, points = taken ++ rest ∧
      (∀ front, front <+: points ∧ Takeable source front ↔ front <+: taken) ∧
      (scanPoints source points).results.map
          (fun result ↦ (result.1.coordinates, (.ok result.2 : Except ScanError Nesting))) =
        taken.map (fun point ↦ (point, scanAt source point.1 point.2)) ∧
      PassEnds source taken.getLast? rest
        ((scanPoints source points).failure.map ScanError.message) ∧
      (scanPoints source points).requested =
        List.range (taken.getLast?.elim 0 fun last ↦ last.1.toNat + 1) := by
  obtain ⟨taken, rest, rfl, hends⟩ :=
    exists_endsBehind_scanPointsFrom points .start none rfl ScanPass.asksInOrder_start
  have htakeable : Takeable source (taken.map Position.coordinates) :=
    takeable_coordinates hends.ordered hends.inside
  have hending := hends.ends
  have hrequested := hends.requested
  rw [Option.or_none] at hending hrequested
  rw [← List.getLast?_map] at hending
  refine ⟨taken.map Position.coordinates, rest, rfl, fun front ↦ ?_, ?_, hending, ?_⟩
  · exact hending.takeable_prefix_iff htakeable
  · rw [scanPoints, hends.results, List.map_map, List.map_map]
    refine List.map_congr_left fun point _ ↦ ?_
    exact Prod.ext rfl (scanAt_coordinates source point).symm
  · rw [scanPoints, hrequested, List.getLast?_map]
    cases taken.getLast? <;> rfl

end BlockScope
