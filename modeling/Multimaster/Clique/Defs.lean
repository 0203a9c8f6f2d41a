import Mathlib.Data.List.Basic
import Multimaster.Nodemask

/-!
# The maximum clique search of the connectivity graph

`MtmFindMaxClique` of bkb.c runs an in-place Bron–Kerbosch search.  A call of
`extend` works on an array whose cells before `ne` are the excluded vertices and
whose cells from `ne` to `ce` are the candidates; a branch swaps its vertex to
the border and moves the border over it.  A failed assertion, and a read outside
the array, give `none`.
-/

namespace Multimaster
namespace Clique

/-- `_list_to_nodemask` -/
def listToNodemask (list : List ℕ) : Nodemask :=
  list.foldl bitSet 0#64

/-! ## The pivot -/

/-- The variables of the pivot choice.  An index of -1 is `none`. -/
structure Pivot where
  minnod : ℕ
  nod : ℕ
  fixp : Option ℕ
  s : Option ℕ
  deriving Repr, DecidableEq

/-- The inner loop over the candidates, from index `j` on: the number of
non-neighbours and the index of the last one, as long as there are fewer than
`minnod`. -/
def countNonNeighbours (row : Nodemask) (minnod : ℕ) :
    List ℕ → ℕ → ℕ → Option ℕ → ℕ × Option ℕ
  | [], _, cnt, pos => (cnt, pos)
  | vertex :: rest, j, cnt, pos =>
    if cnt < minnod then
      if bitCheck row vertex then
        countNonNeighbours row minnod rest (j + 1) cnt pos
      else
        countNonNeighbours row minnod rest (j + 1) (cnt + 1) (some j)
    else
      (cnt, pos)

/-- The body of the pivot loop for the vertex `p` at index `i`. -/
def tryPivot
    (graph : ℕ → Nodemask) (candidates : List ℕ) (ne i p : ℕ)
    (pivot : Pivot) : Pivot :=
  let counted := countNonNeighbours (graph p) pivot.minnod candidates ne 0 none
  if counted.1 < pivot.minnod then
    if i < ne then
      { pivot with minnod := counted.1, fixp := some p, s := counted.2 }
    else
      { minnod := counted.1, nod := 1, fixp := some p, s := some i }
  else
    pivot

/-- The pivot loop over the cells from index `i` on. -/
def choosePivot (graph : ℕ → Nodemask) (candidates : List ℕ) (ne : ℕ) :
    List ℕ → ℕ → Pivot → Pivot
  | [], _, pivot => pivot
  | p :: rest, i, pivot =>
    if pivot.minnod = 0 then
      pivot
    else
      choosePivot graph candidates ne rest (i + 1)
        (tryPivot graph candidates ne i p pivot)

/-! ## The branches -/

/-- The arguments of a call: the clique, what is kept between the calls, the
array and its two borders. -/
abbrev Recursion (Kept : Type) :=
  List ℕ → Kept → List ℕ → ℕ → ℕ → Option Kept

/-- The comparison of a finished clique with the result. -/
def offer (result cur : List ℕ) : List ℕ :=
  if result.length < cur.length ∨
      result.length = cur.length ∧
        listToNodemask cur < listToNodemask result then
    cur
  else
    result

/-- A branch after its vertex was pushed to `cur`: a leaf, a recursive call, a
branch that is too small, or one without candidates. -/
def visit (recurse : Recursion (List ℕ)) : Recursion (List ℕ) :=
  fun cur result newSet newne newce =>
    if newce = 0 then
      some (offer result cur)
    else if newne < newce then
      if cur.length + newce - newne > result.length then
        recurse cur result newSet newne newce
      else
        some result
    else
      some result

/-- The search for the next non-neighbour of the pivot, from index `s` on. -/
def nextNonNeighbour (row : Nodemask) : List ℕ → ℕ → Option ℕ
  | [], _ => none
  | vertex :: rest, s =>
    if bitCheck row vertex then nextNonNeighbour row rest (s + 1) else some s

/-- The loops that leave only the neighbours of a vertex. -/
def neighbours (row : Nodemask) (vertices : List ℕ) : List ℕ :=
  vertices.filter fun vertex => bitCheck row vertex

/-- The loop over the branches, with `k` branches to go; `enter` is what is done
with a branch after its vertex was pushed. -/
def branches {Kept : Type}
    (enter : Recursion Kept) (graph : ℕ → Nodemask) (cur : List ℕ) (ce : ℕ)
    (fixp : Option ℕ) :
    ℕ → List ℕ → ℕ → Option ℕ → Kept → Option Kept
  | 0, _, _, _, kept => some kept
  | k + 1, oldSet, ne, s, kept => do
    let s ← s
    if ¬(s < maxNodes ∧ ne < maxNodes ∧ ce < maxNodes) then
      none
    let sel ← oldSet[s]?
    let border ← oldSet[ne]?
    let oldSet := (oldSet.set s border).set ne sel
    let excluded := neighbours (graph sel) (oldSet.take ne)
    let candidates := neighbours (graph sel) ((oldSet.take ce).drop (ne + 1))
    let kept ← enter (cur ++ [sel]) kept (excluded ++ candidates)
      excluded.length (excluded.length + candidates.length)
    if k = 0 then
      some kept
    else
      let fixp ← fixp
      let s ← nextNonNeighbour (graph fixp) (oldSet.drop (ne + 1)) (ne + 1)
      branches enter graph cur ce (some fixp) k oldSet (ne + 1) (some s) kept

/-- The pivot choice and the loop over the branches, which are entered with the
recursive call.  The recursion is bounded by the number of candidates. -/
def extendBy {Kept : Type}
    (enter : Recursion Kept → Recursion Kept) (graph : ℕ → Nodemask) :
    ℕ → Recursion Kept
  | 0, _, _, _, _, _ => none
  | fuel + 1, cur, kept, oldSet, ne, ce =>
    let pivot := choosePivot graph ((oldSet.take ce).drop ne) ne
      (oldSet.take ce) 0 { minnod := ce, nod := 0, fixp := none, s := none }
    branches (enter (extendBy enter graph fuel)) graph cur ce pivot.fixp
      (pivot.minnod + pivot.nod) oldSet ne pivot.s kept

/-- `extend`: what is kept is the result. -/
def extend (graph : ℕ → Nodemask) : ℕ → Recursion (List ℕ) :=
  extendBy visit graph

/-- The assertions on the matrix. -/
structure IsGraph (graph : ℕ → Nodemask) (nNodes : ℕ) : Prop where
  symmetric : ∀ i < nNodes, ∀ j < nNodes,
    bitCheck (graph i) j = bitCheck (graph j) i
  loops : ∀ i < nNodes, bitCheck (graph i) i = true

instance (graph : ℕ → Nodemask) (nNodes : ℕ) :
    Decidable (IsGraph graph nNodes) :=
  decidable_of_iff
    ((∀ i < nNodes, ∀ j < nNodes,
        bitCheck (graph i) j = bitCheck (graph j) i) ∧
      ∀ i < nNodes, bitCheck (graph i) i = true)
    ⟨fun both => ⟨both.1, both.2⟩,
      fun isGraph => ⟨isGraph.symmetric, isGraph.loops⟩⟩

/-- The search from the empty clique. -/
def searchAll (graph : ℕ → Nodemask) (nNodes : ℕ) : Option (List ℕ) :=
  if IsGraph graph nNodes then
    extend graph maxNodes [] [] (List.range maxNodes) 0 nNodes
  else
    none

/-- `MtmFindMaxClique`: the mask and `*clique_size`. -/
def mtmFindMaxClique
    (graph : ℕ → Nodemask) (nNodes : ℕ) : Option (Nodemask × ℕ) := do
  let result ← searchAll graph nNodes
  return (listToNodemask result, result.length)

end Clique
end Multimaster
