import Mathlib.Data.List.Basic

/-!
# Doubly linked lists

Positions with a link to the one before and a link to the one behind, as links
in a store of nodes.  A stretch of such a list lies between two positions that
need not be part of it.
-/

namespace Multimaster

variable {Pos : Type*}

/-- The positions of the list are linked in both directions, the first one back
to `before` and the last one to `after`. -/
def Linked (prev next : Pos → Pos) (after : Pos) : Pos → List Pos → Prop
  | _, [] => True
  | before, pos :: rest =>
      prev pos = before ∧ next pos = rest.headD after ∧
        Linked prev next after pos rest

/-- The last of different positions is not one of those before it. -/
theorem ne_of_mem_dropLast
    {list : List Pos} (nodup : list.Nodup) {pos last : Pos}
    (isEarlier : pos ∈ list.dropLast) (isLast : last ∈ list.getLast?) :
    pos ≠ last := by
  have whole := List.dropLast_append_getLast? last isLast
  rw [← whole] at nodup
  rintro rfl
  exact (List.nodup_append.mp nodup).2.2 pos isEarlier pos
    (List.mem_singleton.mpr rfl) rfl

/-- The first of different positions is not one of those behind it. -/
theorem ne_of_mem_tail
    {list : List Pos} (nodup : list.Nodup) {pos head : Pos}
    (isLater : pos ∈ list.tail) (isHead : head ∈ list.head?) :
    pos ≠ head := by
  cases list with
  | nil => cases isHead
  | cons first rest =>
      cases isHead
      rintro rfl
      exact (List.nodup_cons.mp nodup).1 isLater

namespace Linked

variable {prev next prev' next' : Pos → Pos}
variable {before before' after after' : Pos}

theorem headD_append (first second : List Pos) (after : Pos) :
    (first ++ second).headD after = first.headD (second.headD after) := by
  cases first <;> rfl

/-- Two stretches make one. -/
theorem append_iff (first second : List Pos) :
    Linked prev next after before (first ++ second) ↔
      Linked prev next (second.headD after) before first ∧
        Linked prev next after (first.getLastD before) second := by
  induction first generalizing before with
  | nil => simp [Linked]
  | cons pos rest inductionHypothesis =>
      rw [List.cons_append, Linked, Linked, headD_append, List.getLastD_cons,
        inductionHypothesis, and_assoc, and_assoc]

/-- A position in the middle. -/
theorem middle
    {first second : List Pos} {pos : Pos}
    (linked : Linked prev next after before (first ++ pos :: second)) :
    prev pos = first.getLastD before ∧ next pos = second.headD after := by
  obtain ⟨-, isPrev, isNext, -⟩ := (append_iff first (pos :: second)).mp linked
  exact ⟨isPrev, isNext⟩

theorem prev_head
    {list : List Pos} (linked : Linked prev next after before list) :
    ∀ pos ∈ list.head?, prev pos = before := by
  intro pos isHead
  cases list with
  | nil => cases isHead
  | cons first rest =>
      cases isHead
      exact linked.1

theorem next_last
    {list : List Pos} (linked : Linked prev next after before list) :
    ∀ pos ∈ list.getLast?, next pos = after := by
  induction list generalizing before with
  | nil =>
      intro pos isLast
      cases isLast
  | cons first rest inductionHypothesis =>
      intro pos isLast
      cases rest with
      | nil =>
          cases isLast
          exact linked.2.1
      | cons second others => exact inductionHypothesis linked.2.2 pos isLast

/-- Only the links out of a stretch may change when it is put elsewhere. -/
theorem relink
    {list : List Pos} (linked : Linked prev next after before list)
    (samePrev : ∀ pos ∈ list.tail, prev' pos = prev pos)
    (sameNext : ∀ pos ∈ list.dropLast, next' pos = next pos)
    (newPrev : ∀ pos ∈ list.head?, prev' pos = before')
    (newNext : ∀ pos ∈ list.getLast?, next' pos = after') :
    Linked prev' next' after' before' list := by
  induction list generalizing before before' with
  | nil => trivial
  | cons pos rest inductionHypothesis =>
      obtain ⟨-, isNext, linkedRest⟩ := linked
      refine ⟨newPrev pos rfl, ?_, ?_⟩
      · cases rest with
        | nil => exact newNext pos rfl
        | cons second others =>
            rw [sameNext pos List.mem_cons_self, isNext]
            rfl
      · refine inductionHypothesis linkedRest ?_ ?_ ?_ ?_
        · exact fun other isOther => samePrev other (List.mem_of_mem_tail isOther)
        · intro other isOther
          cases rest with
          | nil => cases isOther
          | cons second others =>
              exact sameNext other (List.mem_cons_of_mem _ isOther)
        · intro other isOther
          cases rest with
          | nil => cases isOther
          | cons second others =>
              cases isOther
              rw [samePrev other List.mem_cons_self]
              exact linkedRest.1
        · intro other isOther
          cases rest with
          | nil => cases isOther
          | cons second others => exact newNext other isOther

end Linked
end Multimaster
