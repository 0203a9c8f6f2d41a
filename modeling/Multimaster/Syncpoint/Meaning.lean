import Multimaster.Syncpoint.Registered

/-!
# What a registered row means

A row that the receiver registers means what the comment of the table says, in
the WALs as far as the receiver has seen them, and every record of the node lies
on one side of it.  So whoever reads the WAL of the node finds the forwarded
syncpoint in the order of the origin.
-/

namespace Multimaster
namespace Syncpoint

variable {Node : Type} [DecidableEq Node] {me : Node} {state : Applying me}

/-! ## The records -/

omit [DecidableEq Node] in
theorem Applying.localRecord_change
    {logged : Logged} {record : WalRecord Node}
    (isRecord : state.localRecord logged = some record)
    {change : Change Node} (carries : record.change = some change) :
    ∃ job, state.jobs[logged.job]? = some job ∧ job.2 ≠ .void ∧
      change = job.1.change ∧ record.start = logged.start ∧
        record.endPtr = logged.endPtr := by
  obtain ⟨job, isJob, rfl⟩ := Option.map_eq_some_iff.mp isRecord
  simp only at carries
  split at carries
  · cases carries
  · next effective =>
      exact ⟨job, isJob, effective, (Option.some.inj carries).symm, rfl, rfl⟩

theorem sentRecord_eq_some
    {node : Node} {job : Arrival me × Outcome} {record : WalRecord Node}
    (isRecord : sentRecord node job = some record) :
    job.1.origin = node ∧ job.2 ≠ .void ∧
      record = ⟨job.1.start, job.1.endLsn, some job.1.change⟩ := by
  unfold sentRecord at isRecord
  split at isRecord
  · next sent => exact ⟨sent.1, sent.2, (Option.some.inj isRecord).symm⟩
  · cases isRecord

theorem Applying.mem_walRecords_me {record : WalRecord Node} :
    record ∈ state.walRecords me ↔
      ∃ logged ∈ state.records, state.localRecord logged = some record := by
  rw [Applying.walRecords, if_pos rfl, List.mem_filterMap]

theorem Applying.mem_walRecords_of_ne
    {node : Node} (other : node ≠ me) {record : WalRecord Node} :
    record ∈ state.walRecords node ↔
      ∃ job ∈ state.jobs, sentRecord node job = some record := by
  rw [Applying.walRecords, if_neg other, List.mem_filterMap]

/-- The transactions that left something are in the WAL of their origin. -/
theorem Applying.mem_walRecords_origin
    {job : Arrival me × Outcome} (isJob : job ∈ state.jobs)
    (effective : job.2 ≠ .void) :
    ⟨job.1.start, job.1.endLsn, some job.1.change⟩ ∈
      state.walRecords job.1.origin := by
  refine (Applying.mem_walRecords_of_ne job.1.foreign).mpr ⟨job, isJob, ?_⟩
  rw [sentRecord, if_pos ⟨rfl, effective⟩]

variable (state) in
/-- The WALs as far as the receiver has seen them. -/
def Applying.wals : Wals Node where
  records := state.walRecords
  own := by
    intro node record isRecord change carries isOwn
    by_cases isMe : node = me
    · subst isMe
      obtain ⟨logged, -, isLocal⟩ := Applying.mem_walRecords_me.mp isRecord
      obtain ⟨job, -, -, rfl, -⟩ := Applying.localRecord_change isLocal carries
      exact absurd isOwn job.1.foreign
    · obtain ⟨job, -, isSent⟩ :=
        (Applying.mem_walRecords_of_ne isMe).mp isRecord
      obtain ⟨-, -, rfl⟩ := sentRecord_eq_some isSent
      cases carries
      exact ⟨rfl, rfl⟩
  known := by
    intro node record isRecord change carries
    by_cases isMe : node = me
    · subst isMe
      obtain ⟨logged, -, isLocal⟩ := Applying.mem_walRecords_me.mp isRecord
      obtain ⟨job, isJob, effective, rfl, -⟩ :=
        Applying.localRecord_change isLocal carries
      exact ⟨_, Applying.mem_walRecords_origin (List.mem_of_getElem? isJob)
        effective, rfl⟩
    · obtain ⟨job, isJob, isSent⟩ :=
        (Applying.mem_walRecords_of_ne isMe).mp isRecord
      obtain ⟨rfl, effective, rfl⟩ := sentRecord_eq_some isSent
      cases carries
      exact ⟨_, Applying.mem_walRecords_origin isJob effective, rfl⟩

/-- Every record of the receiver with a change of the origin lies on the side of
the row on which the change lies. -/
def Row.Separates (row : Row Node) (wals : Wals Node) : Prop :=
  ∀ record ∈ wals.records row.receiver, ∀ change ∈ record.change,
    change.origin = row.origin →
    (change.endLsn ≤ row.originLsn ∧ record.endPtr ≤ row.receiverLsn) ∨
      (row.originLsn ≤ change.start ∧ row.receiverLsn ≤ record.start)

/-! ## The rows -/

variable {count : ℕ} {row : Row Node}

namespace Applying.RowOk

omit [DecidableEq Node] in
/-- A change that begins before the row is of one of the first transactions. -/
theorem lt_count
    (ok : state.RowOk count row) {index : ℕ} {job : Arrival me × Outcome}
    (isJob : state.jobs[index]? = some job) (isOrigin : job.1.origin = row.origin)
    (early : job.1.start < row.originLsn) :
    index < count := by
  by_contra late
  have behind := ok.later index (Nat.le_of_not_lt late) job isJob isOrigin
  omega

omit [DecidableEq Node] in
theorem boundary
    (ok : state.RowOk count row) {job : Arrival me × Outcome}
    (isJob : job ∈ state.jobs) (isOrigin : job.1.origin = row.origin) :
    job.1.endLsn ≤ row.originLsn ∨ row.originLsn ≤ job.1.start := by
  obtain ⟨index, isIndex⟩ := List.mem_iff_getElem?.mp isJob
  rcases Nat.lt_or_ge index count with early | late
  · exact Or.inl (ok.earlier index early job isIndex isOrigin)
  · exact Or.inr (ok.later index late job isIndex isOrigin)

theorem separates
    (ok : state.RowOk count row) : row.Separates state.wals := by
  intro record isRecord change carries isOrigin
  rw [ok.receiver] at isRecord
  obtain ⟨logged, isLogged, isLocal⟩ :=
    Applying.mem_walRecords_me.mp isRecord
  obtain ⟨job, isJob, -, rfl, sameStart, sameEnd⟩ :=
    Applying.localRecord_change isLocal carries
  rcases Nat.lt_or_ge logged.job count with early | late
  · refine Or.inl ⟨ok.earlier _ early job isJob isOrigin, ?_⟩
    rw [sameEnd]
    exact ok.separated.before logged isLogged early
  · refine Or.inr ⟨ok.later _ late job isJob isOrigin, ?_⟩
    rw [sameStart]
    exact ok.separated.behind logged isLogged late

/-- What the comment of the table says, when no worker has exited with one of the
transactions. -/
theorem meaning
    (ok : state.RowOk count row)
    (proven : ∀ index arrival, state.jobs[index]? = some (arrival, .applied) →
      ∃ record ∈ state.records, record.job = index)
    (noneLost : ∀ job ∈ state.jobs.take count, job.2 ≠ .lost) :
    row.Meaning state.wals where
  applied := by
    intro first isFirst change carries isOrigin covered
    obtain ⟨job, isJob, isSent⟩ :=
      (Applying.mem_walRecords_of_ne ok.foreign).mp isFirst
    obtain ⟨sameOrigin, effective, rfl⟩ := sentRecord_eq_some isSent
    cases carries
    obtain ⟨index, isIndex⟩ := List.mem_iff_getElem?.mp isJob
    have nonempty := job.1.nonempty
    have covered : job.1.endLsn ≤ row.originLsn := covered
    have early : index < count :=
      ok.lt_count isIndex sameOrigin (by omega)
    -- it is over, has not failed and was not lost
    have isApplied : job.2 = .applied := by
      have isOver := ok.separated.ended index early job isIndex
      have isKept := noneLost job (List.mem_iff_getElem?.mpr
        ⟨index, by rw [List.getElem?_take_of_lt early, isIndex]⟩)
      cases isOutcome : job.2 with
      | applied => rfl
      | running => exact absurd isOutcome isOver
      | void => exact absurd isOutcome effective
      | lost => exact absurd isOutcome isKept
    obtain ⟨logged, isLogged, rfl⟩ := proven index job.1
      (by rw [isIndex, ← isApplied])
    refine ⟨⟨logged.start, logged.endPtr, some job.1.change⟩, ?_, rfl,
      ok.separated.before logged isLogged early⟩
    rw [ok.receiver]
    refine Applying.mem_walRecords_me.mpr ⟨logged, isLogged, ?_⟩
    rw [Applying.localRecord, isIndex, Option.map_some, if_neg effective]
  landed := by
    intro record isRecord change carries isOrigin behind
    rcases ok.separates record isRecord change carries isOrigin with
      ⟨covered, -⟩ | ⟨-, landed⟩
    · rw [ok.receiver] at isRecord
      obtain ⟨logged, -, isLocal⟩ := Applying.mem_walRecords_me.mp isRecord
      obtain ⟨job, -, -, rfl, -⟩ :=
        Applying.localRecord_change isLocal carries
      have nonempty := job.1.nonempty
      have covered : job.1.endLsn ≤ row.originLsn := covered
      have behind : row.originLsn ≤ job.1.start := behind
      omega
    · exact landed
  boundary := by
    intro first isFirst
    obtain ⟨job, isJob, isSent⟩ :=
      (Applying.mem_walRecords_of_ne ok.foreign).mp isFirst
    obtain ⟨isOrigin, -, rfl⟩ := sentRecord_eq_some isSent
    exact ok.boundary isJob isOrigin

end Applying.RowOk

/-- In every run of a receiver and its workers, a row that the receiver has
registered means what the comment of the table says, unless a worker has exited
in the middle of a transaction before it; and it separates the records of the
node. -/
theorem registered_row_meaning
    {config : Pool.Config} {memory : Memory} {insertPtr : ℕ}
    (reachable : (applyMachine me config memory insertPtr).Reachable
      (Orderly config) state)
    (isRow : (count, row) ∈ state.rows) :
    row.Separates state.wals ∧
      ((∀ job ∈ state.jobs.take count, job.2 ≠ .lost) →
        row.Meaning state.wals) := by
  obtain ⟨entries, alive, ok⟩ := Coordinated.of_reachable reachable
  have rowOk := ok.rows _ isRow
  exact ⟨rowOk.separates, rowOk.meaning ok.proven⟩

/-! ## A schedule -/

section Schedules

variable {config : Pool.Config} {memory : Memory}

instance (task : Task Node) : Decidable task.IsSyncpoint :=
  match task with
  | .syncpoint _ _ _ => isTrue trivial
  | .idle | .transaction | .message | .logged _ _ _ | .handled =>
      isFalse not_false

instance (task : Task Node) : Decidable task.IsLogged :=
  match task with
  | .logged _ _ _ => isTrue trivial
  | .idle | .transaction | .message | .syncpoint _ _ _ | .handled =>
      isFalse not_false

instance (state : Applying me) (step : ApplyStep me) :
    Decidable (ApplyEnabled config state step) :=
  match step with
  | .deliver _ _ _ => inferInstanceAs (Decidable (_ ∧ _))
  | .retry registered =>
      inferInstanceAs (Decidable (Pool.StepEnabled config state.workshop
        (.retry registered)))
  | .pop =>
      inferInstanceAs (Decidable (Pool.StepEnabled config state.workshop .pop))
  | .sleep =>
      inferInstanceAs (Decidable (Pool.StepEnabled config state.workshop
        .sleep))
  | .write _ _ _ => inferInstanceAs (Decidable (_ ∧ _ ∧ _))
  | .finish _ _ => inferInstanceAs (Decidable (_ ∧ _))
  | .exit _ => inferInstanceAs (Decidable (_ ∈ _))
  | .begin _ => inferInstanceAs (Decidable (_ ∧ _))
  | .beginMessage _ => inferInstanceAs (Decidable (_ ∧ _))
  | .writeOwn _ _ => inferInstanceAs (Decidable ((_ ∨ _) ∧ _ ∧ _))
  | .finishOwn _ => inferInstanceAs (Decidable ((_ ∨ _) ∧ _))
  | .syncpoint _ _ _ => inferInstanceAs (Decidable (_ ∧ _ ∧ (_ → _)))
  | .log _ => inferInstanceAs (Decidable (_ ∧ _ ∧ _))
  | .register _ => inferInstanceAs (Decidable (_ ∧ _))
  | .leave => inferInstanceAs (Decidable (_ = _))
  | .advance _ => inferInstanceAs (Decidable (_ ≤ _))

instance (insertPtr : ℕ) (state : Applying me) (step : ApplyStep me) :
    Decidable ((applyMachine me config memory insertPtr).Enabled state step) :=
  inferInstanceAs (Decidable (ApplyEnabled config state step))

instance (state : Applying me) (step : ApplyStep me) :
    Decidable (InOrder state step) :=
  match step with
  | .deliver _ _ _ => inferInstanceAs (Decidable (∀ _ ∈ _, _ → _))
  | .begin _ => inferInstanceAs (Decidable (∀ _ ∈ _, _ → _))
  | .beginMessage _ => inferInstanceAs (Decidable (∀ _ ∈ _, _ → _))
  | .syncpoint _ _ _ => inferInstanceAs (Decidable (∀ _ ∈ _, _ → _))
  | .retry _ | .pop | .sleep | .write _ _ _ | .finish _ _ | .exit _
  | .writeOwn _ _ | .finishOwn _ | .log _ | .register _ | .leave
  | .advance _ => isTrue trivial

instance (state : Applying me) (step : ApplyStep me) :
    Decidable (SlotLeft config state step) :=
  match step with
  | .beginMessage _ =>
      inferInstanceAs (Decidable (Pool.LeavesSlot config state.workshop
        (.store 1)))
  | .syncpoint _ _ _ =>
      inferInstanceAs (Decidable (Pool.LeavesSlot config state.workshop
        (.store 2)))
  | .deliver _ _ _ | .begin _ | .retry _ | .pop | .sleep | .write _ _ _
  | .finish _ _ | .exit _ | .writeOwn _ _ | .finishOwn _ | .log _
  | .register _ | .leave | .advance _ => isTrue trivial

instance (state : Applying me) (step : ApplyStep me) :
    Decidable (Orderly config state step) :=
  inferInstanceAs (Decidable (_ ∧ _))

end Schedules

/-- A transaction of the other node. -/
def fromOther (start endLsn : ℕ) (nonempty : start < endLsn) :
    Arrival (0 : Fin 2) where
  origin := 1
  start := start
  endLsn := endLsn
  foreign := by decide
  nonempty := nonempty

theorem first_nonempty : 10 < 20 := by
  decide

theorem second_nonempty : 40 < 50 := by
  decide

/-- A syncpoint between two transactions that the pool applies. -/
def barrierSchedule : List (ApplyStep (0 : Fin 2)) :=
  [.deliver (fromOther 10 20 first_nonempty) (Pool.someWork 8) true, .pop,
    .syncpoint 1 30 false, .write 0 100 110, .finish 0 .applied, .log 120,
    .register 130, .leave,
    .deliver (fromOther 40 50 second_nonempty) (Pool.someWork 8) false, .pop,
    .write 0 130 140, .finish 0 .applied]

theorem barrierSchedule_completes :
    ((applyMachine (0 : Fin 2) Pool.smallConfig (fun _ => 0) 100).execute
      (Orderly Pool.smallConfig)
      (applyMachine (0 : Fin 2) Pool.smallConfig (fun _ => 0) 100).init
      barrierSchedule).isSome = true := by
  decide +kernel

theorem registered_row_meaning_barrierSchedule :
    let state := ((applyMachine (0 : Fin 2) Pool.smallConfig
      (fun _ => 0) 100).execute (Orderly Pool.smallConfig)
      (applyMachine (0 : Fin 2) Pool.smallConfig (fun _ => 0) 100).init
      barrierSchedule).get barrierSchedule_completes
    (⟨0, 1, 30, 120⟩ : Row (Fin 2)).Separates state.wals ∧
      (⟨0, 1, 30, 120⟩ : Row (Fin 2)).Meaning state.wals := by
  intro state
  have isRow : (1, (⟨0, 1, 30, 120⟩ : Row (Fin 2))) ∈ state.rows := by
    decide +kernel
  have noneLost : ∀ job ∈ state.jobs.take 1, job.2 ≠ .lost := by
    decide +kernel
  have both := registered_row_meaning
    (Machine.reachable_of_execute barrierSchedule barrierSchedule_completes)
    isRow
  exact ⟨both.1, both.2 noneLost⟩

end Syncpoint
end Multimaster
