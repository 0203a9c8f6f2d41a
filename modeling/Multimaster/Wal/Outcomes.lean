import Multimaster.Wal.Scan

/-!
# The outcomes that the scan takes

The scan takes the outcomes in its order and stops after as many as there are
transactions in the set.
-/

namespace Multimaster
namespace Wal

open Gtx

variable {Gid : Type*} [DecidableEq Gid]

/-- The answers after some outcomes. -/
def applyOutcomes
    (status : Gid → GlobalTxStatus) (outcomes : List (Gid × Bool)) :
    Gid → GlobalTxStatus :=
  outcomes.foldl (fun current outcome =>
    Function.update current outcome.1 (outcomeStatus outcome.2)) status

theorem applyOutcomes_append
    (status : Gid → GlobalTxStatus) (first second : List (Gid × Bool)) :
    applyOutcomes status (first ++ second) =
      applyOutcomes (applyOutcomes status first) second :=
  List.foldl_append

theorem lastOutcome_concat
    (gid : Gid) (outcomes : List (Gid × Bool)) (outcome : Gid × Bool) :
    lastOutcome gid (outcomes ++ [outcome]) =
      if outcome.1 = gid then some outcome.2
      else lastOutcome gid outcomes := by
  simp only [lastOutcome, List.reverse_append, List.reverse_singleton,
    List.singleton_append, List.find?_cons]
  by_cases same : outcome.1 = gid <;> simp [same]

/-- The answer for a transaction is its last outcome. -/
theorem applyOutcomes_apply
    (status : Gid → GlobalTxStatus) (outcomes : List (Gid × Bool))
    (gid : Gid) :
    applyOutcomes status outcomes gid =
      match lastOutcome gid outcomes with
      | some commit => outcomeStatus commit
      | none => status gid := by
  induction outcomes using List.reverseRecOn with
  | nil => rfl
  | append_singleton outcomes outcome inductionHypothesis =>
      rw [applyOutcomes_append, lastOutcome_concat]
      simp only [applyOutcomes, List.foldl_cons, List.foldl_nil]
      by_cases same : outcome.1 = gid
      · simp [same]
      · rw [if_neg same, Function.update_of_ne (fun isGid => same isGid.symm)]
        exact inductionHypothesis

theorem outcomeStatus_injective {first second : Bool}
    (same : outcomeStatus first = outcomeStatus second) : first = second := by
  cases first <;> cases second <;> simp [outcomeStatus] at same ⊢

/-! ## The loops take the outcomes in order -/

theorem finishes_append
    (txset : Finset Gid) (first second : List (LogRecord Gid)) :
    finishes txset (first ++ second) =
      finishes txset first ++ finishes txset second :=
  List.filterMap_append

theorem finishes_empty (records : List (LogRecord Gid)) :
    finishes ∅ records = [] := by
  simp only [finishes, List.filterMap_eq_nil_iff]
  intro record _
  cases record.content <;> simp

/-- A record adds its outcome, if it has one, and counts it. -/
theorem read_spec
    (progress : Progress Gid) (txset : Finset Gid) (record : LogRecord Gid) :
    (progress.read txset record).status =
        applyOutcomes progress.status (finishes txset [record]) ∧
      (progress.read txset record).nTrans =
        progress.nTrans - (finishes txset [record]).length := by
  unfold Progress.read finishes
  cases content : record.content with
  | other => simp [content, applyOutcomes]
  | prepare gid =>
      by_cases inSet : gid ∈ txset <;>
        simp [content, applyOutcomes, inSet]
  | finish gid commit =>
      by_cases inSet : gid ∈ txset <;>
        simp [content, applyOutcomes, inSet]

theorem finishes_singleton_length
    (txset : Finset Gid) (record : LogRecord Gid) :
    (finishes txset [record]).length ≤ 1 :=
  List.length_filterMap_le _ _

/-- The loop over a segment takes outcomes until the count is used up. -/
theorem readSegment_spec
    (txset : Finset Gid) (endLsn : ℕ) (records : List (LogRecord Gid))
    (progress : Progress Gid)
    (counted : progress.nTrans = 0 → txset = ∅) :
    (readSegment txset endLsn progress records).status =
        applyOutcomes progress.status
          ((finishes txset (readUntil endLsn records)).take
            progress.nTrans) ∧
      (readSegment txset endLsn progress records).nTrans =
        progress.nTrans -
          (finishes txset (readUntil endLsn records)).length := by
  induction records generalizing progress with
  | nil => simp [readSegment, readUntil, finishes, applyOutcomes]
  | cons record rest inductionHypothesis =>
      obtain ⟨status, count⟩ := read_spec progress txset record
      have short := finishes_singleton_length txset record
      -- one record never takes more than is left
      have whole : (finishes txset [record]).take progress.nTrans =
          finishes txset [record] := by
        apply List.take_of_length_le
        rcases Nat.eq_zero_or_pos progress.nTrans with isZero | positive
        · rw [counted isZero, finishes_empty]
          simp
        · omega
      simp only [readSegment]
      split
      · next goesOn =>
          have later := inductionHypothesis (progress.read txset record)
            (fun isZero => absurd goesOn.1 (by omega))
          rw [readUntil, if_pos goesOn.2, ← List.singleton_append,
            finishes_append, List.take_append, applyOutcomes_append, whole,
            List.length_append, ← status, later.1, later.2, count]
          exact ⟨rfl, by omega⟩
      · next stops =>
          rw [status, count]
          by_cases isLast : record.endPtr < endLsn
          · have isZero : (progress.read txset record).nTrans = 0 := by
              by_contra notZero
              exact stops ⟨Nat.pos_of_ne_zero notZero, isLast⟩
            rw [count] at isZero
            have split : readUntil endLsn (record :: rest) =
                [record] ++ readUntil endLsn rest := by
              rw [readUntil, if_pos isLast, List.singleton_append]
            rw [split, finishes_append, List.take_append,
              applyOutcomes_append, whole, isZero, List.take_zero,
              List.length_append]
            exact ⟨rfl, by omega⟩
          · rw [readUntil, if_neg isLast, whole]
            exact ⟨rfl, rfl⟩

/-- The loop over segments takes outcomes in the order of the walk until the
count is used up. -/
theorem scanSegments_spec
    {log : Log Gid} {txset : Finset Gid} {fuel : ℕ}
    {progress result : Progress Gid} {startLsn : Option ℕ} {endLsn : ℕ}
    (counted : progress.nTrans = 0 → txset = ∅)
    (returns : scanSegments log txset fuel progress startLsn endLsn =
      some result) :
    result.status = applyOutcomes progress.status
      ((finishes txset (log.walk fuel startLsn endLsn)).take
        progress.nTrans) := by
  induction fuel generalizing progress startLsn endLsn with
  | zero => cases returns
  | succ fuel inductionHypothesis =>
      cases startLsn with
      | none =>
          cases returns
          simp [Log.walk, finishes, applyOutcomes]
      | some startLsn =>
          simp only [scanSegments] at returns
          obtain ⟨status, count⟩ := readSegment_spec txset endLsn
            (log.beginRead (log.geometry.lsnBump startLsn)) progress counted
          rw [Log.walk, finishes_append, List.take_append,
            applyOutcomes_append, ← status]
          split at returns
          · next isZero =>
              cases returns
              rw [count] at isZero
              rw [isZero]
              rfl
          · next notZero =>
              rw [← count]
              exact inductionHypothesis (fun isZero => absurd isZero notZero)
                returns

/-- The answers of a scan are those before it, with outcomes applied. -/
theorem getLoggedPreparedXactState_status
    {log : Log Gid} {txset : Finset Gid} {status : Gid → GlobalTxStatus}
    {fuel : ℕ} {found : Progress Gid}
    (returns : getLoggedPreparedXactState log txset status fuel = some found) :
    ∃ outcomes, found.status = applyOutcomes status outcomes :=
  ⟨_, scanSegments_spec Finset.card_eq_zero.mp returns⟩

end Wal
end Multimaster
