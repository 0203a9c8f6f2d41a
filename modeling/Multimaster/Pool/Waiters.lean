import Multimaster.Pool.Order

/-!
# The waiters of the list of transactions

Three functions wait for a condition on an entry, on two condition variables.
`txl_remove` broadcasts only one of them, which it chooses by the new head.

Each check of a condition is made under the lock of the list, and a waiter that
finds its condition false is on the condition variable before it releases the
lock.
-/

namespace Multimaster
namespace Pool

/-- What waits. -/
inductive WaitKind
  /-- `txl_wait_sphead`. -/
  | sphead
  /-- `txl_wait_txhead`. -/
  | txhead
  /-- `txl_wait_syncpoint`. -/
  | syncpoint
  deriving DecidableEq

/-- The value of the entries it waits for. -/
def WaitKind.value : WaitKind → ℤ
  | .sphead => 2
  | .txhead => 1
  | .syncpoint => 1

/-- The condition variable it sleeps on. -/
def WaitKind.cv : WaitKind → TxlCondition
  | .sphead => .syncpointCv
  | .txhead => .transactionCv
  | .syncpoint => .transactionCv

/-- The condition, as it is checked. -/
def WaitKind.Met (txlist : Txlist) (pos : ℕ) : WaitKind → Prop
  | .sphead => (pos : ℤ) = txlist.head
  | .txhead => (pos : ℤ) = txlist.head
  | .syncpoint => canCommit txlist txlist.size pos = some true

instance (txlist : Txlist) (pos : ℕ) (kind : WaitKind) :
    Decidable (kind.Met txlist pos) :=
  match kind with
  | .sphead => inferInstanceAs (Decidable (_ = _))
  | .txhead => inferInstanceAs (Decidable (_ = _))
  | .syncpoint => inferInstanceAs (Decidable (_ = _))

/-- A process in one of the loops. -/
structure Waiter where
  kind : WaitKind
  asleep : Bool
  deriving DecidableEq

/-- The list, with the processes that wait for their entries. -/
structure Crowd where
  recorded : Recorded
  waiting : ℕ → Option Waiter

/-- What happens to the list and to the waiters. -/
inductive WaitAction
  /-- A call of `txl_store` or `txl_remove`. -/
  | call (call : ListCall)
  /-- The owner of an entry begins to wait. -/
  | wait (kind : WaitKind) (pos : ℕ)
  /-- A round of the loop. -/
  | check (pos : ℕ)
  /-- A waiter wakes up although it was not signalled. -/
  | wake (pos : ℕ)
  /-- A waiter is interrupted. -/
  | cancel (pos : ℕ)
  deriving DecidableEq

/-- The condition variable broadcast by a call. -/
def callBroadcast (recorded : Recorded) : ListCall → Option TxlCondition
  | .store _ => none
  | .remove pos => (txlRemove recorded.txlist pos).2

/-- `ConditionVariableBroadcast`, for a waiter. -/
def Waiter.receive (broadcast : Option TxlCondition) (waiter : Waiter) :
    Waiter :=
  if broadcast = some waiter.kind.cv then { waiter with asleep := false }
  else waiter

/-- An entry is removed by its owner, who does not wait then; every process
waits for its own entry. -/
def WaitEnabled (crowd : Crowd) : WaitAction → Prop
  | .call (.store value) => CallEnabled crowd.recorded (.store value)
  | .call (.remove pos) =>
      CallEnabled crowd.recorded (.remove pos) ∧ crowd.waiting pos = none
  | .wait kind pos =>
      (pos, kind.value) ∈ crowd.recorded.entries ∧ crowd.waiting pos = none
  | .check pos => ∃ kind, crowd.waiting pos = some ⟨kind, false⟩
  | .wake pos => ∃ kind, crowd.waiting pos = some ⟨kind, true⟩
  | .cancel pos => crowd.waiting pos ≠ none

/-- A round of a waiter that is awake. -/
def Waiter.check (txlist : Txlist) (pos : ℕ) (waiter : Waiter) :
    Option Waiter :=
  if waiter.kind.Met txlist pos then none
  else some { waiter with asleep := true }

/-- The state after an action. -/
def waitEffect (crowd : Crowd) : WaitAction → Crowd
  | .call call =>
      { recorded := callEffect crowd.recorded call
        waiting := fun pos => (crowd.waiting pos).map
          (Waiter.receive (callBroadcast crowd.recorded call)) }
  | .wait kind pos =>
      { crowd with
        waiting := Function.update crowd.waiting pos (some ⟨kind, false⟩) }
  | .check pos =>
      { crowd with
        waiting := Function.update crowd.waiting pos
          ((crowd.waiting pos).bind
            (Waiter.check crowd.recorded.txlist pos)) }
  | .wake pos =>
      { crowd with
        waiting := Function.update crowd.waiting pos
          ((crowd.waiting pos).map
            fun waiter => { waiter with asleep := false }) }
  | .cancel pos =>
      { crowd with waiting := Function.update crowd.waiting pos none }

/-- The list from `txl_clear` on, with nobody waiting. -/
def waitMachine (size : ℕ) : Machine Crowd WaitAction where
  init :=
    { recorded := (listMachine size).init
      waiting := fun _ => none }
  Enabled := WaitEnabled
  effect := waitEffect

/-! ## The condition of a waiter -/

/-- The entries before a position. -/
def before : List TxlEntry → ℕ → List TxlEntry
  | [], _ => []
  | entry :: rest, pos => if entry.1 = pos then [] else entry :: before rest pos

/-- What is waited for: the entry is the first one, or there is no syncpoint
before it. -/
def WaitKind.Ready (entries : List TxlEntry) (pos : ℕ) : WaitKind → Prop
  | .sphead => before entries pos = []
  | .txhead => before entries pos = []
  | .syncpoint => ∀ entry ∈ before entries pos, entry.2 ≠ 2

instance (entries : List TxlEntry) (pos : ℕ) (kind : WaitKind) :
    Decidable (kind.Ready entries pos) :=
  match kind with
  | .sphead => inferInstanceAs (Decidable (_ = _))
  | .txhead => inferInstanceAs (Decidable (_ = _))
  | .syncpoint => inferInstanceAs (Decidable (∀ entry ∈ _, _))

variable {txlist : Txlist} {entries : List TxlEntry} {pos : ℕ}

theorem eq_before_append (isStored : pos ∈ entries.map Prod.fst) :
    ∃ value second, entries = before entries pos ++ (pos, value) :: second := by
  induction entries with
  | nil => cases isStored
  | cons entry rest inductionHypothesis =>
      obtain ⟨other, value⟩ := entry
      by_cases same : other = pos
      · refine ⟨value, rest, ?_⟩
        simp [before, same]
      · have inRest : pos ∈ rest.map Prod.fst := by
          rcases List.mem_cons.mp isStored with isPos | inRest
          · exact absurd isPos.symm same
          · exact inRest
        obtain ⟨found, second, whole⟩ := inductionHypothesis inRest
        refine ⟨found, second, ?_⟩
        rw [before, if_neg same, List.cons_append, ← whole]

theorem TxlistOk.met_iff_ready
    (ok : TxlistOk txlist entries) (isStored : pos ∈ entries.map Prod.fst)
    (kind : WaitKind) :
    kind.Met txlist pos ↔ kind.Ready entries pos := by
  obtain ⟨value, second, whole⟩ := eq_before_append isStored
  have bound := ok.length_le
  have lengths := congrArg List.length whole
  rw [List.length_append, List.length_cons] at lengths
  have split := ok
  rw [whole] at split
  cases kind with
  | sphead => exact split.eq_head_iff
  | txhead => exact split.eq_head_iff
  | syncpoint =>
      simp only [WaitKind.Met, WaitKind.Ready, canCommit]
      rw [if_neg (by omega : (pos : ℤ) ≠ -1),
        split.canCommitFrom_eq (by omega)]
      simp

theorem before_append
    (isStored : pos ∈ entries.map Prod.fst) (others : List TxlEntry) :
    before (entries ++ others) pos = before entries pos := by
  induction entries with
  | nil => cases isStored
  | cons entry rest inductionHypothesis =>
      rw [List.cons_append, before, before]
      split
      · rfl
      · next different =>
          have inRest : pos ∈ rest.map Prod.fst := by
            rcases List.mem_cons.mp isStored with isPos | inRest
            · exact absurd isPos.symm different
            · exact inRest
          rw [inductionHypothesis inRest]

/-! ## The broadcast -/

theorem TxlistOk.syncpointAtHead_iff
    (ok : TxlistOk txlist entries) :
    txlist.syncpointAtHead = true ↔
      ∃ pos rest, entries = (pos, 2) :: rest := by
  cases entries with
  | nil =>
      have head : txlist.head = -1 := ok.head
      simp [Txlist.syncpointAtHead, head]
  | cons entry rest =>
      obtain ⟨first, value⟩ := entry
      have head : txlist.head = first := ok.head
      have isValue := ok.values (first, value) List.mem_cons_self
      have isPosition : (first : ℤ) ≠ -1 := by omega
      simp only at isValue
      simp [Txlist.syncpointAtHead, head, isPosition, isValue]

/-- What `txl_remove` broadcasts while there are entries left. -/
theorem txlRemove_broadcast
    {other : ℕ} (ok : TxlistOk (txlRemove txlist other).1 entries)
    (nonempty : entries ≠ []) :
    (txlRemove txlist other).2 =
      some (txlWakeupWorkers (txlRemove txlist other).1) := by
  have positive : 0 < (txlRemove txlist other).1.nelems := by
    have length := List.length_pos_of_ne_nil nonempty
    rw [ok.nelems]
    omega
  have isPosition : (other : ℤ) ≠ -1 := by omega
  simp only [txlRemove, if_neg isPosition] at positive ⊢
  rw [if_pos positive]

/-- A waiter whose condition is true sleeps on the condition variable that is
chosen by the head. -/
theorem TxlistOk.wakeup_of_ready
    (ok : TxlistOk txlist entries) {kind : WaitKind}
    (isStored : (pos, kind.value) ∈ entries)
    (ready : kind.Ready entries pos) :
    txlWakeupWorkers txlist = kind.cv := by
  obtain ⟨value, second, whole⟩ :=
    eq_before_append (List.mem_map.mpr ⟨_, isStored, rfl⟩)
  have isValue : value = kind.value := by
    have ofEntry := ok.values _ isStored
    have ofSplit := ok.values (pos, value) (by rw [whole]; simp)
    exact ofSplit.symm.trans ofEntry
  subst isValue
  unfold txlWakeupWorkers
  cases kind with
  | sphead =>
      have isFirst : before entries pos = [] := ready
      rw [isFirst] at whole
      rw [if_pos (ok.syncpointAtHead_iff.mpr ⟨pos, second, whole⟩)]
      rfl
  | txhead =>
      have isFirst : before entries pos = [] := ready
      rw [isFirst] at whole
      rw [if_neg]
      · rfl
      · rw [ok.syncpointAtHead_iff]
        rintro ⟨other, rest, atHead⟩
        rw [whole] at atHead
        simp [WaitKind.value] at atHead
  | syncpoint =>
      have noSyncpoint : ∀ entry ∈ before entries pos, entry.2 ≠ 2 := ready
      rw [if_neg]
      · rfl
      · -- a syncpoint at the head would be before the entry
        rw [ok.syncpointAtHead_iff]
        rintro ⟨other, rest, atHead⟩
        cases inFront : before entries pos with
        | nil =>
            rw [whole, inFront] at atHead
            simp [WaitKind.value] at atHead
        | cons entry others =>
            rw [whole, inFront, List.cons_append, List.cons.injEq] at atHead
            have notSyncpoint := noSyncpoint entry
              (by rw [inFront]; exact List.mem_cons_self)
            rw [atHead.1] at notSyncpoint
            exact notSyncpoint rfl

/-! ## Runs -/

/-- The invariant: a waiter waits for an entry of its kind, and a waiter that
sleeps has nothing to wake up for. -/
structure CrowdOk (crowd : Crowd) : Prop where
  recorded : RecordedOk crowd.recorded
  owned : ∀ pos waiter, crowd.waiting pos = some waiter →
    (pos, waiter.kind.value) ∈ crowd.recorded.entries
  asleep : ∀ pos kind, crowd.waiting pos = some ⟨kind, true⟩ →
    ¬ kind.Ready crowd.recorded.entries pos

variable {crowd : Crowd}

/-- The entry of a waiter stays when another one is removed. -/
theorem CrowdOk.owned_remove
    (ok : CrowdOk crowd) {other : ℕ} (notWaiting : crowd.waiting other = none)
    {waiter : Waiter} (isWaiting : crowd.waiting pos = some waiter) :
    pos ≠ other ∧ (pos, waiter.kind.value) ∈
      (callEffect crowd.recorded (.remove other)).entries := by
  have different : pos ≠ other := by
    rintro rfl
    rw [notWaiting] at isWaiting
    cases isWaiting
  refine ⟨different, List.mem_filter.mpr ⟨ok.owned pos waiter isWaiting, ?_⟩⟩
  simpa using different

/-- A removal that makes the condition of a waiter true broadcasts its condition
variable. -/
theorem CrowdOk.broadcast_of_ready
    (ok : CrowdOk crowd) {other : ℕ}
    (enabled : WaitEnabled crowd (.call (.remove other)))
    {waiter : Waiter} (isWaiting : crowd.waiting pos = some waiter)
    (ready : waiter.kind.Ready
      (callEffect crowd.recorded (.remove other)).entries pos) :
    (txlRemove crowd.recorded.txlist other).2 = some waiter.kind.cv := by
  obtain ⟨-, isStored⟩ := ok.owned_remove enabled.2 isWaiting
  have list := (ok.recorded.call enabled.1).list
  rw [txlRemove_broadcast list (List.ne_nil_of_mem isStored)]
  exact congrArg some (list.wakeup_of_ready isStored ready)

theorem receive_asleep
    {broadcast : Option TxlCondition} {found : Option Waiter} {kind : WaitKind}
    (isAsleep : found.map (Waiter.receive broadcast) = some ⟨kind, true⟩) :
    found = some ⟨kind, true⟩ ∧ broadcast ≠ some kind.cv := by
  cases found with
  | none => cases isAsleep
  | some waiter =>
      simp only [Option.map_some, Option.some.injEq] at isAsleep
      unfold Waiter.receive at isAsleep
      split at isAsleep
      · cases isAsleep
      · next notSignalled =>
          subst isAsleep
          exact ⟨rfl, notSignalled⟩

theorem receive_kind
    {broadcast : Option TxlCondition} {found : Option Waiter} {waiter : Waiter}
    (isWaiting : found.map (Waiter.receive broadcast) = some waiter) :
    ∃ old, found = some old ∧ old.kind = waiter.kind := by
  cases found with
  | none => cases isWaiting
  | some old =>
      simp only [Option.map_some, Option.some.injEq] at isWaiting
      refine ⟨old, rfl, ?_⟩
      rw [← isWaiting]
      unfold Waiter.receive
      split <;> rfl

theorem CrowdOk.call
    (ok : CrowdOk crowd) {call : ListCall}
    (enabled : WaitEnabled crowd (.call call)) :
    CrowdOk (waitEffect crowd (.call call)) := by
  cases call with
  | store value =>
      have canStore : CallEnabled crowd.recorded (.store value) := enabled
      refine ⟨ok.recorded.call canStore, ?_, ?_⟩
      · intro pos waiter isWaiting
        obtain ⟨old, wasWaiting, sameKind⟩ := receive_kind isWaiting
        rw [← sameKind]
        exact List.mem_append_left _ (ok.owned pos old wasWaiting)
      · intro pos kind isAsleep ready
        obtain ⟨wasAsleep, -⟩ := receive_asleep isAsleep
        have isStored : pos ∈ crowd.recorded.entries.map Prod.fst :=
          List.mem_map_of_mem (ok.owned pos _ wasAsleep)
        apply ok.asleep pos kind wasAsleep
        have same := before_append isStored
          [((txlStore crowd.recorded.txlist value).2, value)]
        cases kind with
        | sphead => exact same.symm.trans ready
        | txhead => exact same.symm.trans ready
        | syncpoint =>
            intro entry isBefore
            rw [← same] at isBefore
            exact ready entry isBefore
  | remove other =>
      refine ⟨ok.recorded.call enabled.1, ?_, ?_⟩
      · intro pos waiter isWaiting
        obtain ⟨old, wasWaiting, sameKind⟩ := receive_kind isWaiting
        rw [← sameKind]
        exact (ok.owned_remove enabled.2 wasWaiting).2
      · intro pos kind isAsleep ready
        obtain ⟨wasAsleep, notSignalled⟩ := receive_asleep isAsleep
        exact notSignalled (ok.broadcast_of_ready enabled wasAsleep ready)

/-- Only the waiter of one entry changes. -/
theorem CrowdOk.update
    (ok : CrowdOk crowd) {found : Option Waiter}
    (owned : ∀ waiter, found = some waiter →
      (pos, waiter.kind.value) ∈ crowd.recorded.entries)
    (asleep : ∀ kind, found = some ⟨kind, true⟩ →
      ¬ kind.Ready crowd.recorded.entries pos) :
    CrowdOk { crowd with
      waiting := Function.update crowd.waiting pos found } := by
  refine ⟨ok.recorded, ?_, ?_⟩
  · intro other waiter isWaiting
    dsimp only at isWaiting
    by_cases same : other = pos
    · subst same
      rw [Function.update_self] at isWaiting
      exact owned waiter isWaiting
    · rw [Function.update_of_ne same] at isWaiting
      exact ok.owned other waiter isWaiting
  · intro other kind isAsleep
    dsimp only at isAsleep
    by_cases same : other = pos
    · subst same
      rw [Function.update_self] at isAsleep
      exact asleep kind isAsleep
    · rw [Function.update_of_ne same] at isAsleep
      exact ok.asleep other kind isAsleep

/-- The condition of a waiter, as it is checked and as it is meant. -/
theorem CrowdOk.met_iff_ready
    (ok : CrowdOk crowd) {waiter : Waiter}
    (isWaiting : crowd.waiting pos = some waiter) :
    waiter.kind.Met crowd.recorded.txlist pos ↔
      waiter.kind.Ready crowd.recorded.entries pos :=
  ok.recorded.list.met_iff_ready
    (List.mem_map_of_mem (ok.owned pos waiter isWaiting)) waiter.kind

theorem CrowdOk.step
    (ok : CrowdOk crowd) {action : WaitAction}
    (enabled : WaitEnabled crowd action) :
    CrowdOk (waitEffect crowd action) := by
  cases action with
  | call call => exact ok.call enabled
  | wait kind pos =>
      apply ok.update
      · rintro waiter ⟨⟩
        exact enabled.1
      · rintro kind ⟨⟩
  | check pos =>
      obtain ⟨kind, isWaiting⟩ := enabled
      have owned := ok.owned pos _ isWaiting
      have meaning := ok.met_iff_ready isWaiting
      simp only [waitEffect, isWaiting, Option.bind_some, Waiter.check]
      apply ok.update
      · intro waiter isNow
        split at isNow
        · cases isNow
        · cases isNow
          exact owned
      · intro other isNow
        split at isNow
        · cases isNow
        · next notMet =>
            cases isNow
            exact fun ready => notMet (meaning.mpr ready)
  | wake pos =>
      obtain ⟨kind, isWaiting⟩ := enabled
      have owned := ok.owned pos _ isWaiting
      simp only [waitEffect, isWaiting, Option.map_some]
      apply ok.update
      · rintro waiter ⟨⟩
        exact owned
      · rintro kind ⟨⟩
  | cancel pos =>
      apply ok.update
      · rintro waiter ⟨⟩
      · rintro kind ⟨⟩

theorem crowdOk_of_reachable
    {size : ℕ} (reachable : (waitMachine size).Reachable Machine.Always crowd) :
    CrowdOk crowd := by
  refine Machine.Reachable.invariant ?_ ?_ reachable
  · refine ⟨⟨txlistOk_clear size, fun _ isEntry => by cases isEntry⟩, ?_, ?_⟩
    · rintro pos waiter ⟨⟩
    · rintro pos kind ⟨⟩
  · intro current action ok enabled _
    exact ok.step enabled

/-- In every interleaving a waiter that sleeps has a condition that is false; a
removal that makes it true broadcasts the condition variable it sleeps on; and a
round of its loop ends the wait only when the condition is true. -/
theorem no_lost_wakeup
    {size : ℕ} (reachable : (waitMachine size).Reachable Machine.Always crowd)
    {waiter : Waiter} (isWaiting : crowd.waiting pos = some waiter) :
    (waiter.asleep = true →
      ¬ waiter.kind.Ready crowd.recorded.entries pos ∧
      ∀ other, WaitEnabled crowd (.call (.remove other)) →
        waiter.kind.Ready
          (waitEffect crowd (.call (.remove other))).recorded.entries pos →
        (txlRemove crowd.recorded.txlist other).2 = some waiter.kind.cv) ∧
      (WaitEnabled crowd (.check pos) →
        (waitEffect crowd (.check pos)).waiting pos = none →
        waiter.kind.Ready crowd.recorded.entries pos) := by
  have ok := crowdOk_of_reachable reachable
  refine ⟨?_, ?_⟩
  · intro isAsleep
    have sleeps : crowd.waiting pos = some ⟨waiter.kind, true⟩ := by
      rw [isWaiting, ← isAsleep]
    refine ⟨ok.asleep pos waiter.kind sleeps, ?_⟩
    intro other enabled ready
    exact ok.broadcast_of_ready enabled isWaiting ready
  · intro _ returns
    have meaning := ok.met_iff_ready isWaiting
    simp only [waitEffect, isWaiting, Option.bind_some, Waiter.check,
      Function.update_self] at returns
    split at returns
    · next met => exact meaning.mp met
    · cases returns

/-! ## Schedules -/

instance (crowd : Crowd) (pos : ℕ) (asleep : Bool) :
    Decidable (∃ kind, crowd.waiting pos = some ⟨kind, asleep⟩) :=
  match crowd.waiting pos with
  | none => isFalse (by rintro ⟨_, ⟨⟩⟩)
  | some ⟨kind, found⟩ => decidable_of_iff (found = asleep) (by simp)

instance {size : ℕ} (crowd : Crowd) (action : WaitAction) :
    Decidable ((waitMachine size).Enabled crowd action) :=
  match action with
  | .call (.store value) =>
      inferInstanceAs (Decidable (CallEnabled crowd.recorded (.store value)))
  | .call (.remove _) => inferInstanceAs (Decidable (_ ∧ _))
  | .wait _ _ => inferInstanceAs (Decidable (_ ∧ _))
  | .check _ => inferInstanceAs (Decidable (∃ _, _ = _))
  | .wake _ => inferInstanceAs (Decidable (∃ _, _ = _))
  | .cancel _ => inferInstanceAs (Decidable (_ ≠ _))

/-- A syncpoint waits for the transaction before it, and a transaction behind it
for the syncpoint. -/
def syncpointBetween : List WaitAction :=
  [.call (.store 1), .call (.store 2), .call (.store 1), .wait .sphead 1,
    .check 1, .wait .syncpoint 2, .check 2]

theorem syncpointBetween_completes :
    ((waitMachine 3).execute Machine.Always (waitMachine 3).init
      syncpointBetween).isSome = true := by
  decide

/-- When the transaction is removed, the syncpoint is woken. -/
theorem no_lost_wakeup_syncpoint :
    let crowd := ((waitMachine 3).execute Machine.Always (waitMachine 3).init
      syncpointBetween).get syncpointBetween_completes
    crowd.waiting 1 = some ⟨.sphead, true⟩ ∧
      (txlRemove crowd.recorded.txlist (0 : ℕ)).2 = some .syncpointCv := by
  intro crowd
  have isWaiting : crowd.waiting 1 = some ⟨.sphead, true⟩ := by decide
  have enabled : WaitEnabled crowd (.call (.remove 0)) := by
    constructor
    · decide
    · decide
  have ready : WaitKind.sphead.Ready
      (waitEffect crowd (.call (.remove 0))).recorded.entries 1 := by
    decide
  refine ⟨isWaiting, ?_⟩
  exact ((no_lost_wakeup
    (Machine.reachable_of_execute syncpointBetween syncpointBetween_completes)
    isWaiting).1 rfl).2 0 enabled ready

end Pool
end Multimaster
