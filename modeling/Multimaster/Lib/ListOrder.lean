import Mathlib.Data.List.Infix
import Mathlib.Data.List.Nodup

/-!
# Order of the entries of a log

`Precedes log first second` says that `first` occurs before some occurrence of
`second`.  Logs grow at their end, so the relation is stated with prefixes and
has one rule for the growth by an entry.
-/

namespace Multimaster

variable {α : Type*} {β : Type*}

/-- The first entry occurs before an occurrence of the second one. -/
def Precedes (log : List α) (first second : α) : Prop :=
  ∃ front, front ++ [second] <+: log ∧ first ∈ front

namespace Precedes

variable {log longer : List α} {first second entry : α}

@[simp] theorem not_nil : ¬ Precedes [] first second := by
  rintro ⟨front, isPrefix, _⟩
  rw [List.prefix_nil] at isPrefix
  exact List.append_ne_nil_of_right_ne_nil _ (List.cons_ne_nil _ _) isPrefix

theorem mono
    (precedes : Precedes log first second)
    (grown : log <+: longer) :
    Precedes longer first second := by
  obtain ⟨front, isPrefix, member⟩ := precedes
  exact ⟨front, isPrefix.trans grown, member⟩

/-- The order after the log has grown by an entry. -/
theorem concat :
    Precedes (log ++ [entry]) first second ↔
      Precedes log first second ∨ (second = entry ∧ first ∈ log) := by
  constructor
  · rintro ⟨front, isPrefix, member⟩
    rcases List.prefix_concat_iff.mp isPrefix with isWhole | isShorter
    · obtain ⟨sameFront, sameLast⟩ := List.append_inj' isWhole rfl
      subst sameFront
      exact Or.inr ⟨List.singleton_injective sameLast, member⟩
    · exact Or.inl ⟨front, isShorter, member⟩
  · rintro (precedes | ⟨isLast, member⟩)
    · exact precedes.mono (List.prefix_append _ _)
    · exact ⟨log, by rw [isLast], member⟩

theorem mem_left (precedes : Precedes log first second) : first ∈ log := by
  obtain ⟨front, isPrefix, member⟩ := precedes
  exact isPrefix.subset (List.mem_append_left _ member)

theorem mem_right (precedes : Precedes log first second) : second ∈ log := by
  obtain ⟨front, isPrefix, _⟩ := precedes
  exact isPrefix.subset (List.mem_append_right _ (List.mem_singleton_self _))

/-- Two entries of a log are ordered one way or the other. -/
theorem total
    (different : first ≠ second)
    (hasFirst : first ∈ log) (hasSecond : second ∈ log) :
    Precedes log first second ∨ Precedes log second first := by
  induction log using List.reverseRecOn with
  | nil => cases hasFirst
  | append_singleton log entry inductionHypothesis =>
      simp only [List.mem_append, List.mem_singleton] at hasFirst hasSecond
      rw [concat, concat]
      rcases hasFirst with inFirst | isFirst
      · rcases hasSecond with inSecond | isSecond
        · rcases inductionHypothesis inFirst inSecond with left | right
          · exact Or.inl (Or.inl left)
          · exact Or.inr (Or.inl right)
        · exact Or.inl (Or.inr ⟨isSecond, inFirst⟩)
      · rcases hasSecond with inSecond | isSecond
        · exact Or.inr (Or.inr ⟨isFirst, inSecond⟩)
        · exact absurd (isFirst.trans isSecond.symm) different

/-- In a log without repetitions the order is strict. -/
theorem asymm
    (nodup : log.Nodup)
    (left : Precedes log first second) :
    ¬ Precedes log second first := by
  induction log using List.reverseRecOn with
  | nil => exact absurd left not_nil
  | append_singleton log entry inductionHypothesis =>
      rw [← List.concat_eq_append, List.nodup_concat] at nodup
      rw [concat] at left ⊢
      rcases left with left | ⟨isLast, _⟩
      · rintro (right | ⟨isFirst, inSecond⟩)
        · exact inductionHypothesis nodup.2 left right
        · exact nodup.1 (isFirst ▸ left.mem_left)
      · rintro (right | ⟨isFirst, inSecond⟩)
        · exact nodup.1 (isLast ▸ right.mem_left)
        · exact nodup.1 (isLast ▸ inSecond)

/-- Selecting some entries of a log keeps their order. -/
theorem filterMap
    (select : α → Option β) {left right : β} :
    Precedes (log.filterMap select) left right ↔
      ∃ first second, select first = some left ∧
        select second = some right ∧ Precedes log first second := by
  induction log using List.reverseRecOn with
  | nil => simp
  | append_singleton log entry inductionHypothesis =>
      rw [List.filterMap_append]
      cases selected : select entry with
      | none =>
          have nothing : [entry].filterMap select = [] := by simp [selected]
          rw [nothing, List.append_nil, inductionHypothesis]
          constructor
          · rintro ⟨first, second, isLeft, isRight, precedes⟩
            exact ⟨first, second, isLeft, isRight,
              concat.mpr (Or.inl precedes)⟩
          · rintro ⟨first, second, isLeft, isRight, precedes⟩
            rcases concat.mp precedes with older | ⟨isLast, _⟩
            · exact ⟨first, second, isLeft, isRight, older⟩
            · rw [isLast, selected] at isRight
              cases isRight
      | some value =>
          have one : [entry].filterMap select = [value] := by
            simp [selected]
          rw [one, concat, inductionHypothesis]
          constructor
          · rintro (⟨first, second, isLeft, isRight, precedes⟩ |
              ⟨isValue, inLeft⟩)
            · exact ⟨first, second, isLeft, isRight,
                concat.mpr (Or.inl precedes)⟩
            · obtain ⟨first, inFirst, isLeft⟩ :=
                List.mem_filterMap.mp inLeft
              exact ⟨first, entry, isLeft, by rw [selected, isValue],
                concat.mpr (Or.inr ⟨rfl, inFirst⟩)⟩
          · rintro ⟨first, second, isLeft, isRight, precedes⟩
            rcases concat.mp precedes with older | ⟨isLast, inFirst⟩
            · exact Or.inl ⟨first, second, isLeft, isRight, older⟩
            · rw [isLast, selected, Option.some.injEq] at isRight
              exact Or.inr ⟨isRight.symm,
                List.mem_filterMap.mpr ⟨first, inFirst, isLeft⟩⟩

theorem filter
    (keep : α → Bool) :
    Precedes (log.filter keep) first second ↔
      keep first = true ∧ keep second = true ∧
        Precedes log first second := by
  rw [← List.filterMap_eq_filter, filterMap]
  constructor
  · rintro ⟨left, right, isFirst, isSecond, precedes⟩
    rw [Option.guard_eq_some_iff] at isFirst isSecond
    obtain ⟨sameLeft, keepLeft⟩ := isFirst
    obtain ⟨sameRight, keepRight⟩ := isSecond
    subst sameLeft sameRight
    exact ⟨keepLeft, keepRight, precedes⟩
  · rintro ⟨keepFirst, keepSecond, precedes⟩
    exact ⟨first, second, Option.guard_eq_some_iff.mpr ⟨rfl, keepFirst⟩,
      Option.guard_eq_some_iff.mpr ⟨rfl, keepSecond⟩, precedes⟩

/-- What precedes an entry stands in front of its only occurrence. -/
theorem mem_front
    {front : List α}
    (precedes : Precedes log first second)
    (isPrefix : front ++ [second] <+: log)
    (once : ∀ front, front ++ [second] <+: log → second ∉ front) :
    first ∈ front := by
  obtain ⟨other, isOther, member⟩ := precedes
  rcases List.prefix_or_prefix_of_prefix isOther isPrefix with left | right
  · rcases List.prefix_concat_iff.mp left with same | shorter
    · exact (List.append_inj_left' same rfl) ▸ member
    · exact shorter.subset (List.mem_append_left _ member)
  · rcases List.prefix_concat_iff.mp right with same | shorter
    · exact (List.append_inj_left' same rfl) ▸ member
    · exact absurd (shorter.subset (by simp)) (once other isOther)

end Precedes

/-- A log that is sorted by a key falls into what is below a bound, at it and
above it. -/
theorem eq_filter_append_of_sorted
    (key : α → ℕ) {log : List α}
    (sorted : log.Pairwise fun first second => key first ≤ key second)
    (bound : ℕ) :
    log = log.filter (fun entry => key entry < bound) ++
      (log.filter (fun entry => key entry = bound) ++
        log.filter fun entry => bound < key entry) := by
  induction log with
  | nil => rfl
  | cons entry rest inductionHypothesis =>
      obtain ⟨isFirst, restSorted⟩ := List.pairwise_cons.mp sorted
      have restEq := inductionHypothesis restSorted
      have noneBelow (atLeast : bound ≤ key entry) :
          rest.filter (fun other => key other < bound) = [] := by
        apply List.filter_eq_nil_iff.mpr
        intro other isOther
        have later := isFirst other isOther
        rw [decide_eq_true_eq]
        omega
      have noneAt (above : bound < key entry) :
          rest.filter (fun other => key other = bound) = [] := by
        apply List.filter_eq_nil_iff.mpr
        intro other isOther
        have later := isFirst other isOther
        rw [decide_eq_true_eq]
        omega
      rcases Nat.lt_trichotomy (key entry) bound with below | isAt | above
      · have notAt : ¬ key entry = bound := Nat.ne_of_lt below
        have notAbove : ¬ bound < key entry := Nat.not_lt_of_lt below
        simp only [List.filter_cons, below, notAt, notAbove, decide_true,
          decide_false, if_true, Bool.false_eq_true, if_false]
        rw [List.cons_append, ← restEq]
      · rw [noneBelow isAt.ge, List.nil_append] at restEq
        simp only [List.filter_cons, isAt, Nat.lt_irrefl, decide_true,
          decide_false, if_true, Bool.false_eq_true, if_false]
        rw [noneBelow isAt.ge, List.nil_append, List.cons_append, ← restEq]
      · have notBelow : ¬ key entry < bound := Nat.not_lt_of_lt above
        have notAt : ¬ key entry = bound := Nat.ne_of_gt above
        rw [noneBelow above.le, noneAt above, List.nil_append,
          List.nil_append] at restEq
        simp only [List.filter_cons, notBelow, notAt, above, decide_true,
          decide_false, if_true, Bool.false_eq_true, if_false]
        rw [noneBelow above.le, noneAt above, List.nil_append, List.nil_append,
          ← restEq]

/-- A log is a prefix of another one if it holds, together with an entry and in
the same order, everything that precedes the entry there. -/
theorem prefix_of_precedes
    {log reference : List α}
    (nodup : log.Nodup) (referenceNodup : reference.Nodup)
    (contained : log ⊆ reference)
    (closed : ∀ first second, Precedes reference first second →
      second ∈ log → Precedes log first second) :
    log <+: reference := by
  induction log using List.reverseRecOn with
  | nil => exact List.nil_prefix
  | append_singleton log entry inductionHypothesis =>
      rw [← List.concat_eq_append, List.nodup_concat] at nodup
      obtain ⟨isNew, logNodup⟩ := nodup
      have shorter : log <+: reference := by
        apply inductionHypothesis logNodup
        · exact fun _ member => contained (List.mem_append_left _ member)
        · intro first second precedes member
          have inWhole := closed first second precedes
            (List.mem_append_left _ member)
          rcases Precedes.concat.mp inWhole with older | ⟨isEntry, _⟩
          · exact older
          · exact absurd (isEntry ▸ member) isNew
      obtain ⟨rest, whole⟩ := shorter
      have inReference : entry ∈ reference :=
        contained (List.mem_append_right _ (List.mem_singleton_self _))
      cases rest with
      | nil =>
          rw [List.append_nil] at whole
          exact absurd (whole ▸ inReference) isNew
      | cons next rest =>
          -- the next entry of the reference must be the last one of the log
          have isNext : entry = next := by
            by_contra different
            have behind : Precedes reference next entry := by
              have inRest : entry ∈ rest := by
                rw [← whole] at inReference
                simp only [List.mem_append, List.mem_cons] at inReference
                rcases inReference with old | isNext | inRest
                · exact absurd old isNew
                · exact absurd isNext different
                · exact inRest
              obtain ⟨front, back, split⟩ := List.append_of_mem inRest
              refine ⟨log ++ next :: front, ⟨back, ?_⟩, ?_⟩
              · rw [← whole, split]
                simp
              · simp
            have inLog := closed next entry behind
              (List.mem_append_right _ (List.mem_singleton_self _))
            have isOld : next ∈ log := by
              rcases Precedes.concat.mp inLog with older | ⟨_, member⟩
              · exact absurd older.mem_right isNew
              · exact member
            rw [← whole, List.nodup_append] at referenceNodup
            exact referenceNodup.2.2 next isOld next List.mem_cons_self rfl
          exact ⟨rest, by rw [← whole, isNext]; simp⟩

end Multimaster
