import Multimaster.Clique.Maximum

/-!
# The recursion of the search stays in bounds

The branch loop makes a number of turns that the pivot loop counted before the
array was permuted, and looks for the vertex of its next turn without a bound.
Here the calls and the turns of the search are followed one by one: in each of
them the borders, the selected index and the array are as the loop needs them,
and every call returns.
-/

namespace Multimaster
namespace Clique

/-! ## Calls and turns -/

/-- The arguments of a call of `extend`, with the result at that time. -/
structure Frame where
  cur : List ℕ
  result : List ℕ
  oldSet : List ℕ
  ne : ℕ
  ce : ℕ
  deriving DecidableEq

/-- The call of `MtmFindMaxClique`. -/
def startFrame (nNodes : ℕ) : Frame where
  cur := []
  result := []
  oldSet := List.range maxNodes
  ne := 0
  ce := nNodes

/-- What the call returns. -/
def Frame.run
    (graph : ℕ → Nodemask) (fuel : ℕ) (frame : Frame) : Option (List ℕ) :=
  extend graph fuel frame.cur frame.result frame.oldSet frame.ne frame.ce

/-- A turn of the branch loop, with `k` turns to go after it. -/
structure Turn extends Frame where
  fixp : Option ℕ
  k : ℕ
  s : Option ℕ
  deriving DecidableEq

/-- The rest of the loop from a turn on. -/
def Turn.run
    (graph : ℕ → Nodemask) (recurse : Recursion (List ℕ)) (turn : Turn) :
    Option (List ℕ) :=
  branches (visit recurse) graph turn.cur turn.ce turn.fixp (turn.k + 1)
    turn.oldSet turn.ne turn.s turn.result

/-- The pivot of a call. -/
def Frame.pivot (graph : ℕ → Nodemask) (frame : Frame) : Pivot :=
  choosePivot graph ((frame.oldSet.take frame.ce).drop frame.ne) frame.ne
    (frame.oldSet.take frame.ce) 0
    { minnod := frame.ce, nod := 0, fixp := none, s := none }

/-- The first turn of a call, if it makes one. -/
def Frame.firstTurn (graph : ℕ → Nodemask) (frame : Frame) : Option Turn :=
  let pivot := frame.pivot graph
  match pivot.minnod + pivot.nod with
  | 0 => none
  | k + 1 => some { toFrame := frame, fixp := pivot.fixp, k := k, s := pivot.s }

/-- What a turn selects: its vertex, the array after the swap, and the two parts
of `newSet`. -/
structure Branch where
  sel : ℕ
  oldSet : List ℕ
  excluded : List ℕ
  candidates : List ℕ
  deriving DecidableEq

/-- The turn up to the recursive call. -/
def Turn.branch (graph : ℕ → Nodemask) (turn : Turn) : Option Branch := do
  let s ← turn.s
  if ¬(s < maxNodes ∧ turn.ne < maxNodes ∧ turn.ce < maxNodes) then
    none
  let sel ← turn.oldSet[s]?
  let border ← turn.oldSet[turn.ne]?
  let oldSet := (turn.oldSet.set s border).set turn.ne sel
  return {
    sel := sel
    oldSet := oldSet
    excluded := neighbours (graph sel) (oldSet.take turn.ne)
    candidates :=
      neighbours (graph sel) ((oldSet.take turn.ce).drop (turn.ne + 1)) }

/-- The arguments of the recursive call. -/
def Turn.inner (turn : Turn) (branch : Branch) : Frame where
  cur := turn.cur ++ [branch.sel]
  result := turn.result
  oldSet := branch.excluded ++ branch.candidates
  ne := branch.excluded.length
  ce := branch.excluded.length + branch.candidates.length

/-- The part of a turn after its vertex was pushed. -/
def Frame.visit
    (recurse : Recursion (List ℕ)) (frame : Frame) : Option (List ℕ) :=
  Clique.visit recurse frame.cur frame.result frame.oldSet frame.ne frame.ce

/-- The recursive call is made. -/
def Frame.Recurses (frame : Frame) : Prop :=
  frame.ce ≠ 0 ∧ frame.ne < frame.ce ∧
    frame.cur.length + frame.ce - frame.ne > frame.result.length

/-- The search for the vertex of the next turn. -/
def Turn.nextIndex (graph : ℕ → Nodemask) (turn : Turn) (branch : Branch) :
    Option ℕ := do
  let fixp ← turn.fixp
  nextNonNeighbour (graph fixp) (branch.oldSet.drop (turn.ne + 1)) (turn.ne + 1)

/-- The next turn. -/
def Turn.next (turn : Turn) (branch : Branch) (s : ℕ) (between : List ℕ) : Turn :=
  { turn with
    oldSet := branch.oldSet
    ne := turn.ne + 1
    result := between
    k := turn.k - 1
    s := some s }

/-- A call makes its turns. -/
theorem Frame.run_succ (graph : ℕ → Nodemask) (fuel : ℕ) (frame : Frame) :
    frame.run graph (fuel + 1) =
      match frame.firstTurn graph with
      | none => some frame.result
      | some turn => turn.run graph (extend graph fuel) := by
  simp only [Frame.run, extend, extendBy, Frame.firstTurn]
  change branches _ _ _ _ (frame.pivot graph).fixp
    ((frame.pivot graph).minnod + (frame.pivot graph).nod) _ _
    (frame.pivot graph).s _ = _
  cases (frame.pivot graph).minnod + (frame.pivot graph).nod with
  | zero => rfl
  | succ k => rfl

/-- A turn visits its branch and goes on with the next turn. -/
theorem Turn.run_eq
    (graph : ℕ → Nodemask) (recurse : Recursion (List ℕ)) (turn : Turn) :
    turn.run graph recurse =
      (turn.branch graph).bind fun branch =>
        ((turn.inner branch).visit recurse).bind fun between =>
          if turn.k = 0 then some between
          else (turn.nextIndex graph branch).bind fun s =>
            (turn.next branch s between).run graph recurse := by
  conv_lhs => rw [Turn.run, branches]
  simp only [Turn.branch, Option.bind_eq_bind, Option.bind_assoc, Option.pure_def]
  refine Option.bind_congr fun s _ => ?_
  by_cases asserted : s < maxNodes ∧ turn.ne < maxNodes ∧ turn.ce < maxNodes
  swap
  · rw [if_pos asserted, if_pos asserted]
    rfl
  rw [if_neg (not_not.mpr asserted), if_neg (not_not.mpr asserted),
    Option.bind_assoc]
  refine Option.bind_congr fun sel _ => ?_
  rw [Option.bind_assoc]
  refine Option.bind_congr fun border _ => ?_
  refine Option.bind_congr fun between _ => ?_
  cases isLast : turn.k with
  | zero => rw [if_pos rfl, if_pos rfl]
  | succ k =>
      simp only [Nat.succ_ne_zero, if_false, Turn.nextIndex, Turn.run,
        Turn.next, isLast,
        Nat.add_sub_cancel, Option.bind_eq_bind, Option.bind_assoc]
      refine Option.bind_congr fun fixp isFixp => ?_
      rw [isFixp]

/-- The recursive call of a branch. -/
theorem Frame.visit_of_recurses
    {frame : Frame} (recurses : frame.Recurses)
    (recurse : Recursion (List ℕ)) :
    frame.visit recurse =
      recurse frame.cur frame.result frame.oldSet frame.ne frame.ce := by
  obtain ⟨notLeaf, someCandidate, larger⟩ := recurses
  rw [Frame.visit, Clique.visit, if_neg notLeaf, if_pos someCandidate,
    if_pos larger]

/-- Any other branch makes none. -/
theorem Frame.visit_of_not_recurses
    {frame : Frame} (stays : ¬ frame.Recurses)
    (recurse other : Recursion (List ℕ)) :
    frame.visit recurse = frame.visit other := by
  simp only [Frame.visit, Clique.visit]
  split_ifs with isLeaf someCandidate larger
  · rfl
  · exact absurd ⟨isLeaf, someCandidate, larger⟩ stays
  · rfl
  · rfl

/-! ## Fuel -/

/-- The second call returns what the first one returns. -/
def Refines (recurse other : Recursion (List ℕ)) : Prop :=
  ∀ frame : Frame, ∀ after,
    recurse frame.cur frame.result frame.oldSet frame.ne frame.ce = some after →
      other frame.cur frame.result frame.oldSet frame.ne frame.ce = some after

variable {graph : ℕ → Nodemask} {nNodes : ℕ}
variable {recurse other : Recursion (List ℕ)}

theorem Refines.visit
    (refines : Refines recurse other) {frame : Frame} {after : List ℕ}
    (returns : frame.visit recurse = some after) :
    frame.visit other = some after := by
  by_cases recurses : frame.Recurses
  · rw [Frame.visit_of_recurses recurses] at returns ⊢
    exact refines frame after returns
  · rwa [Frame.visit_of_not_recurses recurses other recurse]

theorem Turn.run_eq_some_iff {turn : Turn} {after : List ℕ} :
    turn.run graph recurse = some after ↔
      ∃ branch between, turn.branch graph = some branch ∧
        (turn.inner branch).visit recurse = some between ∧
        ((turn.k = 0 ∧ between = after) ∨
          (turn.k ≠ 0 ∧ ∃ s, turn.nextIndex graph branch = some s ∧
            (turn.next branch s between).run graph recurse = some after)) := by
  rw [Turn.run_eq, Option.bind_eq_some_iff]
  refine exists_congr fun branch => ?_
  rw [Option.bind_eq_some_iff, ← exists_and_left]
  refine exists_congr fun between => and_congr_right fun _ =>
    and_congr_right fun _ => ?_
  by_cases isLast : turn.k = 0
  · simp [isLast]
  · simp [isLast, Option.bind_eq_some_iff]

theorem Refines.turn
    (refines : Refines recurse other) {turn : Turn} {after : List ℕ}
    (returns : turn.run graph recurse = some after) :
    turn.run graph other = some after := by
  induction count : turn.k generalizing turn with
  | zero =>
      obtain ⟨branch, between, selects, visited, ⟨isLast, isAfter⟩ | ⟨more, _⟩⟩ :=
        Turn.run_eq_some_iff.mp returns
      · exact Turn.run_eq_some_iff.mpr
          ⟨branch, between, selects, refines.visit visited,
            Or.inl ⟨isLast, isAfter⟩⟩
      · exact absurd count more
  | succ k inductionHypothesis =>
      obtain ⟨branch, between, selects, visited,
          ⟨isLast, _⟩ | ⟨more, s, found, later⟩⟩ :=
        Turn.run_eq_some_iff.mp returns
      · omega
      · have next : (turn.next branch s between).k = k := by
          simp only [Turn.next, count, Nat.add_sub_cancel]
        exact Turn.run_eq_some_iff.mpr
          ⟨branch, between, selects, refines.visit visited,
            Or.inr ⟨more, s, found, inductionHypothesis later next⟩⟩

/-- More fuel does not change what a call returns. -/
theorem extend_refines (graph : ℕ → Nodemask) (fuel : ℕ) :
    Refines (extend graph fuel) (extend graph (fuel + 1)) := by
  induction fuel with
  | zero =>
      intro frame after returns
      cases returns
  | succ fuel inductionHypothesis =>
      intro frame after returns
      change frame.run graph (fuel + 1) = some after at returns
      change frame.run graph (fuel + 1 + 1) = some after
      rw [Frame.run_succ] at returns ⊢
      cases isFirst : frame.firstTurn graph with
      | none =>
          rw [isFirst] at returns
          exact returns
      | some turn =>
          rw [isFirst] at returns
          exact inductionHypothesis.turn returns

theorem extend_refines_of_le (graph : ℕ → Nodemask) {fuel more : ℕ}
    (le : fuel ≤ more) :
    Refines (extend graph fuel) (extend graph more) := by
  induction more, le using Nat.le_induction with
  | base => exact fun _ _ returns => returns
  | succ more _ inductionHypothesis =>
      intro frame after returns
      exact extend_refines graph more frame after
        (inductionHypothesis frame after returns)

/-! ## What is reached -/

/-- A place in the search. -/
inductive Point
  | call (frame : Frame)
  | turn (turn : Turn)

/-- The calls and the turns that the search from the whole graph comes to. -/
inductive Reached (graph : ℕ → Nodemask) (nNodes : ℕ) : Point → Prop
  | start : Reached graph nNodes (.call (startFrame nNodes))
  | first {frame : Frame} {turn : Turn}
      (called : Reached graph nNodes (.call frame))
      (begins : frame.firstTurn graph = some turn) :
      Reached graph nNodes (.turn turn)
  | recurse {turn : Turn} {branch : Branch}
      (turned : Reached graph nNodes (.turn turn))
      (selects : turn.branch graph = some branch)
      (recurses : (turn.inner branch).Recurses) :
      Reached graph nNodes (.call (turn.inner branch))
  | next {turn : Turn} {branch : Branch} {s fuel : ℕ} {between : List ℕ}
      (turned : Reached graph nNodes (.turn turn))
      (selects : turn.branch graph = some branch)
      (visited : (turn.inner branch).visit (extend graph fuel) = some between)
      (more : turn.k ≠ 0)
      (found : turn.nextIndex graph branch = some s) :
      Reached graph nNodes (.turn (turn.next branch s between))

/-- The borders and the array of a call are in bounds. -/
structure Frame.InBounds (nNodes : ℕ) (frame : Frame) : Prop where
  ne_le_ce : frame.ne ≤ frame.ce
  ce_le : frame.ce ≤ nNodes
  allocated : frame.ce ≤ frame.oldSet.length
  nodup : (frame.oldSet.take frame.ce).Nodup
  vertices : ∀ vertex ∈ frame.oldSet.take frame.ce, vertex < nNodes
  cur : frame.cur.length ≤ nNodes

/-- A turn has a candidate left and selects one, its vertex has room in `cur`,
and the vertex of the next turn is found among the candidates. -/
structure Turn.InBounds (graph : ℕ → Nodemask) (nNodes : ℕ) (turn : Turn) : Prop
    extends turn.toFrame.InBounds nNodes where
  ne_lt_ce : turn.ne < turn.ce
  selected : ∃ s, turn.s = some s ∧ turn.ne ≤ s ∧ s < turn.ce
  pushed : turn.cur.length + 1 ≤ nNodes
  next : turn.k ≠ 0 → ∃ branch s, turn.branch graph = some branch ∧
    turn.nextIndex graph branch = some s ∧ turn.ne + 1 ≤ s ∧ s < turn.ce

/-- What holds of the places that are reached. -/
def Point.InBounds (graph : ℕ → Nodemask) (nNodes : ℕ) : Point → Prop
  | .call frame => frame.InBounds nNodes
  | .turn place => place.InBounds graph nNodes

/-! ## The invariant -/

/-- The array of a call holds the excluded vertices and the candidates. -/
structure FrameOk
    (graph : ℕ → Nodemask) (nNodes : ℕ) (frame : Frame)
    (excluded candidates unused : List ℕ) : Prop where
  array : frame.oldSet = excluded ++ (candidates ++ unused)
  ne : frame.ne = excluded.length
  ce : frame.ce = excluded.length + candidates.length
  call : Call graph nNodes frame.cur excluded candidates

/-- The invariant: a call has candidates unless there is no vertex at all, and a
turn is ready. -/
def Point.Ok (graph : ℕ → Nodemask) (nNodes : ℕ) : Point → Prop
  | .call frame => ∃ excluded candidates unused,
      FrameOk graph nNodes frame excluded candidates unused ∧
        (excluded ++ candidates = [] ∨ candidates ≠ [])
  | .turn place => ∃ excluded candidates unused fixp,
      FrameOk graph nNodes place.toFrame excluded candidates unused ∧
        place.fixp = some fixp ∧
        Ready (graph fixp) fixp excluded candidates (place.k + 1) place.s

variable {frame : Frame} {turn : Turn} {excluded candidates unused : List ℕ}

theorem FrameOk.inBounds
    (ok : FrameOk graph nNodes frame excluded candidates unused) :
    frame.InBounds nNodes := by
  have total := ok.call.total_length_le
  simp only [List.length_append] at total
  have isArray : frame.oldSet.take frame.ce = excluded ++ candidates := by
    rw [ok.array, ok.ce, take_array]
  refine ⟨?_, ?_, ?_, ?_, ?_, ?_⟩
  · rw [ok.ne, ok.ce]
    exact Nat.le_add_right _ _
  · rw [ok.ce]
    omega
  · rw [ok.array, ok.ce]
    simp only [List.length_append]
    omega
  · rw [isArray]
    exact (List.nodup_append.mp ok.call.nodup).2.1
  · rw [isArray]
    exact fun vertex isMember =>
      ok.call.vertices vertex (List.mem_append_right _ isMember)
  · omega

/-- What a turn that is ready does. -/
theorem FrameOk.selects
    (ok : FrameOk graph nNodes turn.toFrame excluded candidates unused)
    (small : nNodes < maxNodes) {fixp : ℕ}
    (isReady : Ready (graph fixp) fixp excluded candidates (turn.k + 1) turn.s) :
    ∃ offset vertex rest,
      turn.s = some (excluded.length + offset) ∧ offset < candidates.length ∧
      turn.branch graph = some
        { sel := vertex
          oldSet := excluded ++ (vertex :: rest ++ unused)
          excluded := neighbours (graph vertex) excluded
          candidates := neighbours (graph vertex) rest } ∧
      Call graph nNodes turn.cur excluded (vertex :: rest) ∧
      candidates.length = rest.length + 1 ∧
      nonNeighbours (graph fixp) rest = turn.k ∧ fixp ∈ excluded ++ [vertex] := by
  obtain ⟨offset, vertex, border, rest, isSelected, inRange, isAt,
      isBorder, isSwapped,
    isPerm, isCount, isPivot⟩ := isReady.selects unused
  have sameLength := isPerm.length_eq
  rw [List.length_cons] at sameLength
  have arrayLength := ok.call.length_le
  rw [List.length_append] at arrayLength
  have asserted : excluded.length + offset < maxNodes ∧
      excluded.length < maxNodes ∧
      excluded.length + (rest.length + 1) < maxNodes := by omega
  refine ⟨offset, vertex, rest, isSelected, inRange, ?_,
    ok.call.perm isPerm, sameLength,
    isCount, isPivot⟩
  have takeExcluded :
      (excluded ++ (vertex :: rest ++ unused)).take excluded.length = excluded :=
    List.take_left
  simp only [Turn.branch, isSelected, ok.array, ok.ne, ok.ce, sameLength,
    Option.bind_eq_bind, Option.bind_some, asserted, and_self,
      not_true_eq_false, if_false,
    isAt, isBorder, isSwapped, takeExcluded, candidates_swapped, Option.pure_def]

theorem frameOk_start (small : nNodes < maxNodes) :
    FrameOk graph nNodes (startFrame nNodes) [] (List.range nNodes)
      ((List.range maxNodes).drop nNodes) where
  array := array_start small
  ne := rfl
  ce := by simp [startFrame]
  call := call_start

/-- The first turn of a call. -/
theorem ok_first
    (isGraph : IsGraph graph nNodes)
    (ok : Point.Ok graph nNodes (.call frame))
    (begins : frame.firstTurn graph = some turn) :
    Point.Ok graph nNodes (.turn turn) := by
  obtain ⟨excluded, candidates, unused, frameOk, nonempty⟩ := ok
  have isPivot : frame.pivot graph = choosePivot graph candidates excluded.length
      (excluded ++ candidates) 0
      { minnod := excluded.length + candidates.length, nod := 0, fixp := none,
        s := none } := by
    rw [Frame.pivot, frameOk.array, frameOk.ne, frameOk.ce, take_array,
      List.drop_left]
  have someVertex : excluded ++ candidates ≠ [] := by
    intro isNil
    -- without a vertex the call makes no turn
    obtain ⟨rfl, rfl⟩ := List.append_eq_nil_iff.mp isNil
    simp [Frame.firstTurn, isPivot, choosePivot] at begins
  obtain ⟨fixp, isFixp, isReady⟩ := frameOk.call.ready isGraph someVertex isPivot
  simp only [Frame.firstTurn] at begins
  split at begins
  · cases begins
  · next k isCount =>
      cases begins
      rw [isCount] at isReady
      exact ⟨excluded, candidates, unused, fixp, frameOk, isFixp, isReady⟩

/-- The recursive call of a turn. -/
theorem ok_recurse
    (isGraph : IsGraph graph nNodes) (small : nNodes < maxNodes)
    (ok : Point.Ok graph nNodes (.turn turn)) {branch : Branch}
    (selects : turn.branch graph = some branch)
    (recurses : (turn.inner branch).Recurses) :
    Point.Ok graph nNodes (.call (turn.inner branch)) := by
  obtain ⟨excluded, candidates, unused, fixp, frameOk, isFixp, isReady⟩ := ok
  obtain ⟨offset, vertex, rest, _, _, isBranch, call, _⟩ :=
    frameOk.selects small isReady
  rw [isBranch] at selects
  cases selects
  refine ⟨neighbours (graph vertex) excluded,
    neighbours (graph vertex) rest, [], ?_,
    Or.inr ?_⟩
  · exact
      { array := by rw [List.append_nil]; rfl
        ne := rfl
        ce := rfl
        call := call.branch isGraph }
  · have someCandidate := recurses.2.1
    simp only [Turn.inner] at someCandidate
    exact List.length_pos_iff.mp (by omega)

/-- The next turn. -/
theorem ok_next
    (small : nNodes < maxNodes)
    (ok : Point.Ok graph nNodes (.turn turn)) {branch : Branch} {s : ℕ}
    (selects : turn.branch graph = some branch) (more : turn.k ≠ 0)
    (found : turn.nextIndex graph branch = some s) (between : List ℕ) :
    Point.Ok graph nNodes (.turn (turn.next branch s between)) := by
  obtain ⟨excluded, candidates, unused, fixp, frameOk, isFixp, isReady⟩ := ok
  obtain ⟨offset, vertex, rest, _, _, isBranch, call, sameLength,
      isCount, isPivot⟩ :=
    frameOk.selects small isReady
  rw [isBranch] at selects
  cases selects
  obtain ⟨k, isNext⟩ := Nat.exists_eq_succ_of_ne_zero more
  rw [isNext] at isCount
  obtain ⟨offset', inRest, isFound, nextReady⟩ :=
    ready_next isCount isPivot unused
  have sameIndex : s = excluded.length + 1 + offset' := by
    simp only [Turn.nextIndex, isFixp, frameOk.ne, Option.bind_eq_bind,
      Option.bind_some,
      drop_swapped, isFound] at found
    exact (Option.some.inj found).symm
  refine ⟨excluded ++ [vertex], rest, unused, fixp, ?_, isFixp, ?_⟩
  · exact
      { array := by simp [Turn.next]
        ne := by simp [Turn.next, frameOk.ne]
        ce := by
          simp only [Turn.next, frameOk.ce, List.length_append,
            List.length_singleton]
          omega
        call := call.next }
  · simp only [Turn.next, isNext, Nat.succ_sub_one]
    rw [sameIndex]
    exact nextReady

theorem ok_of_reached
    (isGraph : IsGraph graph nNodes) (small : nNodes < maxNodes) {point : Point}
    (reached : Reached graph nNodes point) :
    point.Ok graph nNodes := by
  induction reached with
  | start =>
      refine ⟨[], List.range nNodes, _, frameOk_start small, ?_⟩
      exact em _
  | first _ begins ok => exact ok_first isGraph ok begins
  | recurse _ selects recurses ok =>
      exact ok_recurse isGraph small ok selects recurses
  | next _ selects _ more found ok =>
      exact ok_next small ok selects more found _

/-! ## Bounds -/

theorem turn_inBounds
    (small : nNodes < maxNodes) (ok : Point.Ok graph nNodes (.turn turn)) :
    turn.InBounds graph nNodes := by
  obtain ⟨excluded, candidates, unused, fixp, frameOk, isFixp, isReady⟩ := ok
  obtain ⟨offset, vertex, rest, isSelected, inRange, isBranch, call,
      sameLength, isCount,
    isPivot⟩ := frameOk.selects small isReady
  have total := frameOk.call.total_length_le
  simp only [List.length_append] at total
  refine ⟨frameOk.inBounds, ?_, ⟨_, isSelected, ?_, ?_⟩, ?_, ?_⟩
  · rw [frameOk.ne, frameOk.ce]
    omega
  · rw [frameOk.ne]
    exact Nat.le_add_right _ _
  · rw [frameOk.ce]
    omega
  · omega
  · intro more
    obtain ⟨k, isNext⟩ := Nat.exists_eq_succ_of_ne_zero more
    rw [isNext] at isCount
    obtain ⟨offset', inRest, isFound, _⟩ := ready_next isCount isPivot unused
    refine ⟨_, excluded.length + 1 + offset', isBranch, ?_, ?_, ?_⟩
    · simp only [Turn.nextIndex, isFixp, frameOk.ne, Option.bind_eq_bind,
        Option.bind_some, drop_swapped]
      exact isFound
    · rw [frameOk.ne]
      omega
    · rw [frameOk.ce]
      omega

/-- Every call that is reached returns, with any fuel above the number of its
candidates. -/
theorem call_returns
    (isGraph : IsGraph graph nNodes) (small : nNodes < maxNodes)
    (ok : Point.Ok graph nNodes (.call frame)) :
    ∃ after, ∀ fuel, frame.ce - frame.ne < fuel →
      frame.run graph fuel = some after := by
  obtain ⟨excluded, candidates, unused, frameOk, isNil | someCandidate⟩ := ok
  · -- without a vertex there is no turn to make
    obtain ⟨rfl, rfl⟩ := List.append_eq_nil_iff.mp isNil
    have noTurn : frame.firstTurn graph = none := by
      simp [Frame.firstTurn, Frame.pivot, frameOk.array, frameOk.ne, frameOk.ce,
        choosePivot]
    refine ⟨frame.result, fun fuel enough => ?_⟩
    obtain ⟨less, rfl⟩ := Nat.exists_eq_succ_of_ne_zero (Nat.ne_zero_of_lt enough)
    rw [Frame.run_succ, noTurn]
  · obtain ⟨found, -, -, searched⟩ :=
      extend_reaches isGraph small candidates.length frame.cur excluded
        candidates unused frameOk.call someCandidate le_rfl
    rw [← frameOk.array, ← frameOk.ce, ← frameOk.ne] at searched
    refine ⟨best frame.result found, fun fuel enough => ?_⟩
    rw [frameOk.ne, frameOk.ce, Nat.add_sub_cancel_left] at enough
    exact extend_refines_of_le graph enough.le frame _ (searched frame.result)

/-- On every graph with at most 63 nodes, each call of `extend` and each turn of
its branch loop is in bounds, and each call returns. -/
theorem extend_in_bounds
    (isGraph : IsGraph graph nNodes) (small : nNodes < maxNodes) :
    (∀ point, Reached graph nNodes point → point.InBounds graph nNodes) ∧
      (∀ frame, Reached graph nNodes (.call frame) →
        ∃ after, ∀ fuel, frame.ce - frame.ne < fuel →
          frame.run graph fuel = some after) ∧
      (mtmFindMaxClique graph nNodes).isSome = true := by
  refine ⟨?_, ?_, ?_⟩
  · intro point reached
    have ok := ok_of_reached isGraph small reached
    cases point with
    | call frame =>
        obtain ⟨_, _, _, frameOk, _⟩ := ok
        exact frameOk.inBounds
    | turn place => exact turn_inBounds small ok
  · intro frame reached
    exact call_returns isGraph small (ok_of_reached isGraph small reached)
  · obtain ⟨search, returns⟩ :=
      call_returns isGraph small (ok_of_reached isGraph small Reached.start)
    have isSearch : searchAll graph nNodes = some search := by
      rw [searchAll, if_pos isGraph]
      exact returns maxNodes small
    rw [mtmFindMaxClique_eq_some_iff.mpr ⟨search, isSearch, rfl, rfl⟩]
    rfl

/-- The first turn on the diamond. -/
def diamondTurn : Turn where
  toFrame := startFrame 5
  fixp := some 2
  k := 1
  s := some 2

def diamondBranch : Branch where
  sel := 2
  oldSet := ((List.range maxNodes).set 2 0).set 0 2
  excluded := []
  candidates := [1, 0, 3]

theorem reached_diamondTurn : Reached diamond 5 (.turn diamondTurn) :=
  .first .start (by decide +kernel)

theorem reached_diamond :
    Reached diamond 5 (.call (diamondTurn.inner diamondBranch)) := by
  have selects : diamondTurn.branch diamond = some diamondBranch := by
    decide +kernel
  refine .recurse reached_diamondTurn selects ⟨?_, ?_, ?_⟩
  · decide
  · decide
  · decide

/-- The recursive call of the first turn, and the two turns of the first call. -/
theorem extend_in_bounds_diamond :
    (diamondTurn.inner diamondBranch).InBounds 5 ∧
      diamondTurn.InBounds diamond 5 ∧
      (∃ after, (diamondTurn.inner diamondBranch).run diamond 4 = some after) ∧
      (mtmFindMaxClique diamond 5).isSome = true := by
  obtain ⟨inBounds, returns, isSome⟩ :=
    extend_in_bounds (by decide +kernel : IsGraph diamond 5) (by decide)
  obtain ⟨after, isAfter⟩ := returns _ reached_diamond
  exact ⟨inBounds _ reached_diamond, inBounds _ reached_diamondTurn,
    ⟨after, isAfter 4 (by decide)⟩, isSome⟩

end Clique
end Multimaster
