import Multimaster.Wal.Outcomes
import Mathlib.Tactic.Common

/-!
# When the scan ends

The loop over segments goes backwards by jumping to the beginning of the segment
before and searching forwards from there.  Where no record begins in that
segment, because a record covers the whole of it, the search comes back to the
record the scan is at: the loop stays there unless the count of transactions is
used up.
-/

namespace Multimaster
namespace Wal

open Gtx

variable {Gid : Type*}

/-- What a WAL is like: records follow one another behind the page headers, up
to the flush pointer, and the restart point is at a record. -/
structure Log.WellFormed (log : Log Gid) : Prop where
  segSize_pos : 0 < log.geometry.segSize
  longHeader_le : log.geometry.longHeader ≤ log.geometry.segSize
  record_nonempty : ∀ record ∈ log.records, record.start < record.endPtr
  ordered : log.records.Pairwise fun first second =>
    first.endPtr ≤ second.start
  flushed : ∀ record ∈ log.records, record.endPtr ≤ log.flush
  behindPageHeader : ∀ record ∈ log.records,
    log.geometry.lsnBump record.start = record.start
  behindSegmentHeader : ∀ record ∈ log.records,
    log.segmentStart (record.start / log.geometry.segSize) ≤ record.start
  restartPoint : log.redo ≠ 0 →
    ∃ record ∈ log.records, log.geometry.lsnBump log.redo = record.start

/-- A record starts at a position. -/
def Log.Starts (log : Log Gid) (lsn : ℕ) : Prop :=
  ∃ record ∈ log.records, record.start = lsn

theorem Geometry.le_lsnBump (geometry : Geometry) (lsn : ℕ) :
    lsn ≤ geometry.lsnBump lsn := by
  unfold Geometry.lsnBump
  split
  · split <;> omega
  · exact Nat.le_refl lsn

namespace Log.WellFormed

variable {log : Log Gid}

theorem bump_of_starts
    (wellFormed : log.WellFormed) {lsn : ℕ} (starts : log.Starts lsn) :
    log.geometry.lsnBump lsn = lsn := by
  obtain ⟨record, isRecord, rfl⟩ := starts
  exact wellFormed.behindPageHeader record isRecord

theorem segmentStart_le_of_starts
    (wellFormed : log.WellFormed) {lsn : ℕ} (starts : log.Starts lsn) :
    log.segmentStart (lsn / log.geometry.segSize) ≤ lsn := by
  obtain ⟨record, isRecord, rfl⟩ := starts
  exact wellFormed.behindSegmentHeader record isRecord

theorem lt_flush_of_starts
    (wellFormed : log.WellFormed) {lsn : ℕ} (starts : log.Starts lsn) :
    lsn < log.flush := by
  obtain ⟨record, isRecord, rfl⟩ := starts
  have nonempty := wellFormed.record_nonempty record isRecord
  have flushed := wellFormed.flushed record isRecord
  omega

theorem starts_sorted (wellFormed : log.WellFormed) :
    log.records.Pairwise fun first second => first.start ≤ second.start := by
  refine wellFormed.ordered.imp_of_mem ?_
  intro first second isFirst _ follows
  have nonempty := wellFormed.record_nonempty first isFirst
  omega

/-- The search gives the first record at or after a position. -/
theorem findNextRecord_eq_some_iff
    (wellFormed : log.WellFormed) {lsn found : ℕ} :
    log.findNextRecord lsn = some found ↔
      log.Starts found ∧ lsn ≤ found ∧
        ∀ start, log.Starts start → lsn ≤ start → found ≤ start := by
  have sorted := wellFormed.starts_sorted
  unfold Log.findNextRecord Log.Starts
  generalize log.records = records at sorted ⊢
  induction records with
  | nil => simp
  | cons record rest inductionHypothesis =>
      obtain ⟨isFirst, restSorted⟩ := List.pairwise_cons.mp sorted
      by_cases behind : lsn ≤ record.start
      · rw [List.find?_cons_of_pos (by simpa using behind)]
        simp only [Option.map_some, Option.some.injEq]
        constructor
        · rintro rfl
          refine ⟨⟨record, List.mem_cons_self, rfl⟩, behind, ?_⟩
          rintro start ⟨other, isOther, rfl⟩ _
          rcases List.mem_cons.mp isOther with rfl | later
          · exact Nat.le_refl _
          · exact isFirst other later
        · rintro ⟨⟨other, isOther, rfl⟩, _, least⟩
          have atMost := least record.start
            ⟨record, List.mem_cons_self, rfl⟩ behind
          rcases List.mem_cons.mp isOther with rfl | later
          · rfl
          · exact Nat.le_antisymm (isFirst other later) atMost
      · rw [List.find?_cons_of_neg (by simpa using behind)]
        refine (inductionHypothesis restSorted).trans ?_
        constructor
        · rintro ⟨⟨other, isOther, rfl⟩, atLeast, least⟩
          refine ⟨⟨other, List.mem_cons_of_mem _ isOther, rfl⟩, atLeast, ?_⟩
          rintro start ⟨candidate, isCandidate, rfl⟩ candidateBehind
          rcases List.mem_cons.mp isCandidate with rfl | later
          · exact absurd candidateBehind behind
          · exact least _ ⟨candidate, later, rfl⟩ candidateBehind
        · rintro ⟨⟨other, isOther, rfl⟩, atLeast, least⟩
          rcases List.mem_cons.mp isOther with rfl | later
          · exact absurd atLeast behind
          · refine ⟨⟨other, later, rfl⟩, atLeast, ?_⟩
            rintro start ⟨candidate, isCandidate, rfl⟩ candidateBehind
            exact least _
              ⟨candidate, List.mem_cons_of_mem _ isCandidate, rfl⟩
              candidateBehind

theorem starts_of_findNextRecord
    (wellFormed : log.WellFormed) {lsn found : ℕ}
    (isFound : log.findNextRecord lsn = some found) : log.Starts found :=
  (wellFormed.findNextRecord_eq_some_iff.mp isFound).1

end Log.WellFormed

/-! ## Where a part of the scan begins -/

/-- The record at a position is the first one of its segment, the segment before
is to be read, and no record begins there. -/
def Log.Spanned (log : Log Gid) (lsn : ℕ) : Prop :=
  (∀ record ∈ log.records,
      record.start / log.geometry.segSize = lsn / log.geometry.segSize →
      lsn ≤ record.start) ∧
    log.geometry.twoSegments < lsn ∧
    log.removed < lsn / log.geometry.segSize - 1 ∧
    ∀ record ∈ log.records,
      record.start / log.geometry.segSize ≠ lsn / log.geometry.segSize - 1

instance (log : Log Gid) (lsn : ℕ) : Decidable (log.Spanned lsn) :=
  inferInstanceAs (Decidable (_ ∧ _))

/-- What the step to the part before can do: go to the beginning of the segment,
or, from there, to the segment before. -/
theorem Log.previous_cases
    (log : Log Gid) {lsn previous : ℕ}
    (isPrevious : log.previous lsn = some previous) :
    (log.findNextRecord
          (log.segmentStart (lsn / log.geometry.segSize)) ≠ some lsn ∧
        log.findNextRecord
          (log.segmentStart (lsn / log.geometry.segSize)) = some previous) ∨
      (log.findNextRecord
          (log.segmentStart (lsn / log.geometry.segSize)) = some lsn ∧
        log.geometry.twoSegments < lsn ∧
        log.removed < lsn / log.geometry.segSize - 1 ∧
        log.findNextRecord
          (log.segmentStart (lsn / log.geometry.segSize - 1)) =
            some previous) := by
  simp only [Log.previous] at isPrevious
  by_cases isFirst : log.findNextRecord
      (log.segmentStart (lsn / log.geometry.segSize)) = some lsn
  · rw [if_pos isFirst] at isPrevious
    split at isPrevious
    · cases isPrevious
    · next notEarly =>
        split at isPrevious
        · cases isPrevious
        · next retained =>
            exact .inr ⟨isFirst, Nat.lt_of_not_le notEarly,
              Nat.lt_of_not_le retained, isPrevious⟩
  · rw [if_neg isFirst] at isPrevious
    exact .inl ⟨isFirst, isPrevious⟩

namespace Log.WellFormed

variable {log : Log Gid}

/-- A record is behind the beginning of a segment exactly when it starts in this
segment or in a later one. -/
theorem segmentStart_le_iff
    (wellFormed : log.WellFormed) {segno lsn : ℕ} (starts : log.Starts lsn) :
    log.segmentStart segno ≤ lsn ↔ segno ≤ lsn / log.geometry.segSize := by
  rw [Nat.le_div_iff_mul_le wellFormed.segSize_pos]
  constructor
  · exact (log.geometry.le_lsnBump _).trans
  · intro later
    have inSegment := wellFormed.segmentStart_le_of_starts starts
    rcases Nat.lt_or_ge (lsn / log.geometry.segSize) (segno + 1) with
      isLast | after
    · have same : segno = lsn / log.geometry.segSize :=
        Nat.le_antisymm
          ((Nat.le_div_iff_mul_le wellFormed.segSize_pos).mpr later)
          (Nat.le_of_lt_succ isLast)
      rw [same]
      exact inSegment
    · have header := wellFormed.longHeader_le
      have nextSegment :=
        (Nat.le_div_iff_mul_le wellFormed.segSize_pos).mp after
      rw [Nat.add_mul, Nat.one_mul] at nextSegment
      unfold Log.segmentStart Geometry.lsnBump
      rw [if_pos (Nat.mul_mod_left _ _)]
      split <;> omega

/-- The search from the beginning of a segment. -/
theorem findNextRecord_segmentStart
    (wellFormed : log.WellFormed) {segno found : ℕ} :
    log.findNextRecord (log.segmentStart segno) = some found ↔
      log.Starts found ∧ segno ≤ found / log.geometry.segSize ∧
        ∀ start, log.Starts start →
          segno ≤ start / log.geometry.segSize → found ≤ start := by
  rw [wellFormed.findNextRecord_eq_some_iff]
  constructor
  · rintro ⟨starts, behind, least⟩
    refine ⟨starts, (wellFormed.segmentStart_le_iff starts).mp behind, ?_⟩
    intro start isStart later
    exact least start isStart
      ((wellFormed.segmentStart_le_iff isStart).mpr later)
  · rintro ⟨starts, later, least⟩
    refine ⟨starts, (wellFormed.segmentStart_le_iff starts).mpr later, ?_⟩
    intro start isStart behind
    exact least start isStart
      ((wellFormed.segmentStart_le_iff isStart).mp behind)

/-- The search from a record's own segment comes no further than the record. -/
theorem findNextRecord_own_segment
    (wellFormed : log.WellFormed) {lsn segno found : ℕ}
    (starts : log.Starts lsn) (atMost : segno ≤ lsn / log.geometry.segSize)
    (isFound : log.findNextRecord (log.segmentStart segno) = some found) :
    found ≤ lsn :=
  (wellFormed.findNextRecord_segmentStart.mp isFound).2.2 lsn starts atMost

theorem starts_of_previous
    (wellFormed : log.WellFormed) {lsn previous : ℕ}
    (isPrevious : log.previous lsn = some previous) :
    log.Starts previous := by
  obtain ⟨-, isFound⟩ | ⟨-, -, -, isFound⟩ := log.previous_cases isPrevious
  · exact wellFormed.starts_of_findNextRecord isFound
  · exact wellFormed.starts_of_findNextRecord isFound

/-- The scan goes backwards or stays. -/
theorem previous_le
    (wellFormed : log.WellFormed) {lsn previous : ℕ}
    (starts : log.Starts lsn) (isPrevious : log.previous lsn = some previous) :
    previous ≤ lsn := by
  obtain ⟨-, isFound⟩ | ⟨-, -, -, isFound⟩ := log.previous_cases isPrevious
  · exact wellFormed.findNextRecord_own_segment starts (Nat.le_refl _) isFound
  · exact wellFormed.findNextRecord_own_segment starts (Nat.sub_le _ _) isFound

/-- The scan stays at a record exactly when the segment before is spanned. -/
theorem previous_eq_self_iff
    (wellFormed : log.WellFormed) {lsn : ℕ} (starts : log.Starts lsn) :
    log.previous lsn = some lsn ↔ log.Spanned lsn := by
  constructor
  · intro stays
    obtain ⟨notFirst, isFound⟩ | ⟨isFirst, notEarly, retained, isFound⟩ :=
      log.previous_cases stays
    · exact absurd isFound notFirst
    · obtain ⟨-, -, least⟩ := wellFormed.findNextRecord_segmentStart.mp isFirst
      obtain ⟨-, -, leastBefore⟩ :=
        wellFormed.findNextRecord_segmentStart.mp isFound
      refine ⟨fun record isRecord same =>
          least _ ⟨record, isRecord, rfl⟩ (Nat.le_of_eq same.symm),
        notEarly, retained, ?_⟩
      intro record isRecord before
      have atMost := leastBefore _ ⟨record, isRecord, rfl⟩
        (Nat.le_of_eq before.symm)
      have segments := Nat.div_le_div_right (c := log.geometry.segSize) atMost
      omega
  · rintro ⟨isFirst, notEarly, retained, noStart⟩
    have firstOfSegment :
        log.findNextRecord
            (log.segmentStart (lsn / log.geometry.segSize)) = some lsn := by
      rw [wellFormed.findNextRecord_segmentStart]
      refine ⟨starts, Nat.le_refl _, ?_⟩
      rintro start ⟨record, isRecord, rfl⟩ later
      rcases Nat.eq_or_lt_of_le later with same | after
      · exact isFirst record isRecord same.symm
      · exact Nat.le_of_lt (Nat.lt_of_div_lt_div after)
    unfold Log.previous
    rw [if_pos firstOfSegment, if_neg (Nat.not_le_of_lt notEarly),
      if_neg (Nat.not_le_of_lt retained),
      wellFormed.findNextRecord_segmentStart]
    refine ⟨starts, Nat.sub_le _ _, ?_⟩
    rintro start ⟨record, isRecord, rfl⟩ later
    have notBefore := noStart record isRecord
    rcases Nat.lt_or_ge (lsn / log.geometry.segSize)
      (record.start / log.geometry.segSize) with after | atMost
    · exact Nat.le_of_lt (Nat.lt_of_div_lt_div after)
    · exact isFirst record isRecord (by omega)

/-- The bumped start of the scan is a record. -/
theorem starts_of_scanStart
    (wellFormed : log.WellFormed) {startLsn : ℕ}
    (isStart : log.scanStart = some startLsn) :
    log.Starts (log.geometry.lsnBump startLsn) := by
  have atRestartPoint (notZero : log.redo ≠ 0) :
      log.Starts (log.geometry.lsnBump log.redo) := by
    obtain ⟨record, isRecord, same⟩ := wellFormed.restartPoint notZero
    exact ⟨record, isRecord, same.symm⟩
  unfold Log.scanStart at isStart
  split at isStart
  · cases isStart
  · next notZero =>
      split at isStart
      · next lsn isFound =>
          split at isStart
          · cases isStart
            have starts := wellFormed.starts_of_findNextRecord isFound
            rw [wellFormed.bump_of_starts starts]
            exact starts
          · cases isStart
            exact atRestartPoint notZero
      · cases isStart
        exact atRestartPoint notZero

end Log.WellFormed

/-! ## The parts of the scan -/

/-- Where the parts of the scan begin and end, the newest first. -/
def Log.part (log : Log Gid) : ℕ → Option ℕ × ℕ
  | 0 => (log.scanStart, log.flush)
  | number + 1 =>
      match log.part number with
      | (none, endLsn) => (none, endLsn)
      | (some startLsn, _) =>
          (log.previous (log.geometry.lsnBump startLsn),
            log.geometry.lsnBump startLsn)

/-- The records in a part. -/
def Log.partRecords (log : Log Gid) : Option ℕ × ℕ → List (LogRecord Gid)
  | (none, _) => []
  | (some startLsn, endLsn) =>
      readUntil endLsn (log.beginRead (log.geometry.lsnBump startLsn))

theorem Log.part_succ
    {log : Log Gid} {number startLsn : ℕ}
    (begins : (log.part number).1 = some startLsn) :
    log.part (number + 1) =
      (log.previous (log.geometry.lsnBump startLsn),
        log.geometry.lsnBump startLsn) := by
  rw [Log.part]
  generalize log.part number = part at begins ⊢
  obtain ⟨start, endLsn⟩ := part
  cases begins
  rfl

/-- A part is followed by the one before it in the WAL. -/
theorem Log.part_succ_begins
    {log : Log Gid} {number startLsn : ℕ}
    (begins : (log.part (number + 1)).1 = some startLsn) :
    ∃ laterLsn, (log.part number).1 = some laterLsn ∧
      log.previous (log.geometry.lsnBump laterLsn) = some startLsn := by
  cases later : (log.part number).1 with
  | none =>
      rw [Log.part] at begins
      generalize log.part number = part at begins later
      obtain ⟨start, endLsn⟩ := part
      cases later
      cases begins
  | some laterLsn =>
      rw [Log.part_succ later] at begins
      exact ⟨laterLsn, rfl, begins⟩

/-- Every part begins at a record. -/
theorem Log.WellFormed.starts_of_part
    {log : Log Gid} (wellFormed : log.WellFormed) {number startLsn : ℕ}
    (begins : (log.part number).1 = some startLsn) :
    log.Starts (log.geometry.lsnBump startLsn) := by
  cases number with
  | zero => exact wellFormed.starts_of_scanStart begins
  | succ number =>
      obtain ⟨_, _, isPrevious⟩ := Log.part_succ_begins begins
      have starts := wellFormed.starts_of_previous isPrevious
      rw [wellFormed.bump_of_starts starts]
      exact starts

/-- A part begins before its end, unless the segment before is spanned and the
part is the record at its end once more. -/
theorem Log.WellFormed.part_begins_before
    {log : Log Gid} (wellFormed : log.WellFormed) {number startLsn : ℕ}
    (begins : (log.part number).1 = some startLsn) :
    log.geometry.lsnBump startLsn < (log.part number).2 ∨
      ∃ before laterLsn, number = before + 1 ∧
        (log.part before).1 = some laterLsn ∧
        log.Spanned (log.geometry.lsnBump laterLsn) := by
  cases number with
  | zero =>
      exact .inl (wellFormed.lt_flush_of_starts
        (wellFormed.starts_of_part begins))
  | succ number =>
      obtain ⟨laterLsn, later, isPrevious⟩ := Log.part_succ_begins begins
      have starts := wellFormed.starts_of_part later
      rw [wellFormed.bump_of_starts (wellFormed.starts_of_previous isPrevious),
        Log.part_succ later]
      rcases Nat.lt_or_eq_of_le (wellFormed.previous_le starts isPrevious) with
        before | same
      · exact .inl before
      · rw [same] at isPrevious
        exact .inr ⟨number, laterLsn, rfl, later,
          (wellFormed.previous_eq_self_iff starts).mp isPrevious⟩

variable [DecidableEq Gid]

/-- How many outcomes of the set are in the first parts. -/
def Log.partOutcomes (log : Log Gid) (txset : Finset Gid) : ℕ → ℕ
  | 0 => 0
  | count + 1 =>
      log.partOutcomes txset count +
        (finishes txset (log.partRecords (log.part count))).length

/-- The state of the loop over segments. -/
structure Loop (Gid : Type*) where
  progress : Progress Gid
  startLsn : Option ℕ
  endLsn : ℕ

/-- One iteration of the loop over segments; `none` when the loop is left. -/
def Loop.iterate
    (log : Log Gid) (txset : Finset Gid) (loop : Loop Gid) :
    Option (Loop Gid) :=
  match loop.startLsn with
  | none => none
  | some startLsn =>
      let start := log.geometry.lsnBump startLsn
      let read :=
        readSegment txset loop.endLsn loop.progress (log.beginRead start)
      if read.nTrans = 0 then none
      else some ⟨read, log.previous start, start⟩

/-- The state of the loop after some iterations; `none` after its end. -/
def Log.loop
    (log : Log Gid) (txset : Finset Gid) (status : Gid → GlobalTxStatus) :
    ℕ → Option (Loop Gid)
  | 0 => some
      { progress :=
          { status := status
            prepareSeen := fun _ => false
            nTrans := txset.card }
        startLsn := log.scanStart
        endLsn := log.flush }
  | count + 1 => (log.loop txset status count).bind (Loop.iterate log txset)

/-- The scan from a state of its loop. -/
def Loop.scan
    (log : Log Gid) (txset : Finset Gid) (fuel : ℕ) (loop : Loop Gid) :
    Option (Progress Gid) :=
  scanSegments log txset fuel loop.progress loop.startLsn loop.endLsn

/-- What an iteration that goes on does. -/
theorem Loop.iterate_eq_some
    {log : Log Gid} {txset : Finset Gid} {loop next : Loop Gid}
    (goesOn : loop.iterate log txset = some next) :
    ∃ startLsn, loop.startLsn = some startLsn ∧
      next.progress = readSegment txset loop.endLsn loop.progress
        (log.beginRead (log.geometry.lsnBump startLsn)) ∧
      next.progress.nTrans ≠ 0 ∧
      next.startLsn = log.previous (log.geometry.lsnBump startLsn) ∧
      next.endLsn = log.geometry.lsnBump startLsn := by
  unfold Loop.iterate at goesOn
  split at goesOn
  · cases goesOn
  · next startLsn isStart =>
      simp only at goesOn
      split at goesOn
      · cases goesOn
      · next notZero =>
          cases goesOn
          exact ⟨startLsn, isStart, rfl, notZero, rfl, rfl⟩

theorem Loop.scan_of_iterate_some
    {log : Log Gid} {txset : Finset Gid} {loop next : Loop Gid}
    (goesOn : loop.iterate log txset = some next) (fuel : ℕ) :
    loop.scan log txset (fuel + 1) = next.scan log txset fuel := by
  obtain ⟨progress, startLsn, endLsn⟩ := loop
  obtain ⟨start, isStart, sameProgress, notZero, sameStart, sameEnd⟩ :=
    Loop.iterate_eq_some goesOn
  cases isStart
  rw [sameProgress] at notZero
  unfold Loop.scan
  rw [scanSegments, sameProgress, sameStart, sameEnd]
  exact if_neg notZero

theorem Loop.scan_of_iterate_none
    {log : Log Gid} {txset : Finset Gid} {loop : Loop Gid}
    (stops : loop.iterate log txset = none) (fuel : ℕ) :
    (loop.scan log txset (fuel + 1)).isSome := by
  obtain ⟨progress, startLsn, endLsn⟩ := loop
  unfold Loop.iterate at stops
  cases startLsn with
  | none => rfl
  | some startLsn =>
      simp only at stops
      split at stops
      · next isZero =>
          unfold Loop.scan
          rw [scanSegments]
          simp only [isZero, if_true, Option.isSome_some]
      · cases stops

/-- A loop whose iteration changes nothing never ends. -/
theorem Loop.scan_eq_none_of_fixed
    {log : Log Gid} {txset : Finset Gid} {loop : Loop Gid}
    (fixed : loop.iterate log txset = some loop) (fuel : ℕ) :
    loop.scan log txset fuel = none := by
  induction fuel with
  | zero => rfl
  | succ fuel inductionHypothesis =>
      rw [Loop.scan_of_iterate_some fixed]
      exact inductionHypothesis

/-- The loop is at the part of its number and has counted the outcomes of the
parts before. -/
theorem Log.loop_spec
    {log : Log Gid} {txset : Finset Gid} {status : Gid → GlobalTxStatus}
    {count : ℕ} {loop : Loop Gid}
    (isLoop : log.loop txset status count = some loop) :
    (loop.startLsn, loop.endLsn) = log.part count ∧
      loop.progress.nTrans = txset.card - log.partOutcomes txset count ∧
      (loop.progress.nTrans = 0 → txset = ∅) := by
  induction count generalizing loop with
  | zero =>
      cases isLoop
      exact ⟨rfl, rfl, Finset.card_eq_zero.mp⟩
  | succ count inductionHypothesis =>
      rw [Log.loop, Option.bind_eq_some_iff] at isLoop
      obtain ⟨before, isBefore, goesOn⟩ := isLoop
      obtain ⟨atPart, counted, empty⟩ := inductionHypothesis isBefore
      obtain ⟨startLsn, isStart, read, notZero, start, endLsn⟩ :=
        Loop.iterate_eq_some goesOn
      have begins : (log.part count).1 = some startLsn := by
        rw [← atPart]
        exact isStart
      have records : log.partRecords (log.part count) =
          readUntil before.endLsn
            (log.beginRead (log.geometry.lsnBump startLsn)) := by
        rw [← atPart, isStart]
        rfl
      refine ⟨?_, ?_, fun isZero => absurd isZero notZero⟩
      · rw [Log.part_succ begins, start, endLsn]
      · rw [read, (readSegment_spec txset before.endLsn _ _ empty).2, counted,
          Log.partOutcomes, records]
        omega

/-- The answers in the loop are those before it, with outcomes applied. -/
theorem Log.loop_status
    {log : Log Gid} {txset : Finset Gid} {status : Gid → GlobalTxStatus}
    {count : ℕ} {loop : Loop Gid}
    (isLoop : log.loop txset status count = some loop) :
    ∃ outcomes, loop.progress.status = applyOutcomes status outcomes := by
  induction count generalizing loop with
  | zero =>
      cases isLoop
      exact ⟨[], rfl⟩
  | succ count inductionHypothesis =>
      rw [Log.loop, Option.bind_eq_some_iff] at isLoop
      obtain ⟨before, isBefore, goesOn⟩ := isLoop
      obtain ⟨earlier, isEarlier⟩ := inductionHypothesis isBefore
      obtain ⟨_, _, empty⟩ := Log.loop_spec isBefore
      obtain ⟨startLsn, _, read, _⟩ := Loop.iterate_eq_some goesOn
      have taken := (readSegment_spec txset before.endLsn
        (log.beginRead (log.geometry.lsnBump startLsn)) before.progress
        empty).1
      rw [← read, isEarlier, ← applyOutcomes_append] at taken
      exact ⟨_, taken⟩

/-- The loop goes on from a part exactly when the part exists and the outcomes
up to its end are too few. -/
theorem Log.iterate_eq_none_iff
    {log : Log Gid} {txset : Finset Gid} {status : Gid → GlobalTxStatus}
    {count : ℕ} {loop : Loop Gid}
    (isLoop : log.loop txset status count = some loop) :
    loop.iterate log txset = none ↔
      (log.part count).1 = none ∨
        txset.card ≤ log.partOutcomes txset (count + 1) := by
  obtain ⟨atPart, counted, empty⟩ := Log.loop_spec isLoop
  rw [Log.partOutcomes, ← atPart]
  cases isStart : loop.startLsn with
  | none => simp [Loop.iterate, isStart]
  | some startLsn =>
      have left := (readSegment_spec txset loop.endLsn
        (log.beginRead (log.geometry.lsnBump startLsn)) loop.progress
        empty).2
      have stops : loop.iterate log txset = none ↔
          (readSegment txset loop.endLsn loop.progress
            (log.beginRead (log.geometry.lsnBump startLsn))).nTrans = 0 := by
        simp [Loop.iterate, isStart]
      rw [stops, left, counted]
      simp only [Log.partRecords, reduceCtorEq, false_or]
      omega

/-! ## Progress -/

/-- The scan returns, and every iteration that does not stop moves the end of
the part to be read backwards. -/
def ScanEnds
    (log : Log Gid) (txset : Finset Gid) (status : Gid → GlobalTxStatus) :
    Prop :=
  (∃ fuel, (getLoggedPreparedXactState log txset status fuel).isSome) ∧
    ∀ count loop next,
      log.loop txset status count = some loop →
      loop.iterate log txset = some next →
      next.startLsn = none ∨ next.endLsn < loop.endLsn

/-- Wherever the scan comes to a record with a spanned segment before it, the
outcomes of the set up to there, with the record read once more, are as many as
the transactions of the set. -/
def Log.FoundBeforeSpanned (log : Log Gid) (txset : Finset Gid) : Prop :=
  ∀ count startLsn,
    (log.part count).1 = some startLsn →
    log.Spanned (log.geometry.lsnBump startLsn) →
    txset.card ≤ log.partOutcomes txset (count + 2)

/-- As long as the outcomes found are too few the loop reaches every part. -/
theorem Log.loop_reaches_part
    (log : Log Gid) (txset : Finset Gid) (status : Gid → GlobalTxStatus)
    (count : ℕ) {startLsn : ℕ}
    (begins : (log.part count).1 = some startLsn)
    (tooFew : log.partOutcomes txset (count + 1) < txset.card) :
    ∃ loop, log.loop txset status (count + 1) = some loop := by
  induction count generalizing startLsn with
  | zero =>
      have goesOn := (Log.iterate_eq_none_iff
        (rfl : log.loop txset status 0 = some _)).not.mpr
        (by simp [begins, tooFew])
      exact Option.ne_none_iff_exists'.mp goesOn
  | succ count inductionHypothesis =>
      obtain ⟨laterLsn, later, _⟩ := Log.part_succ_begins begins
      have fewer : log.partOutcomes txset (count + 1) < txset.card :=
        Nat.lt_of_le_of_lt (Nat.le_add_right _ _) tooFew
      obtain ⟨loop, isLoop⟩ := inductionHypothesis later fewer
      have goesOn := (Log.iterate_eq_none_iff isLoop).not.mpr
        (by simp [begins, tooFew])
      rw [Log.loop, isLoop]
      exact Option.ne_none_iff_exists'.mp goesOn

/-- A loop whose iterations all stop or move backwards returns. -/
theorem Log.scan_returns
    {log : Log Gid} {txset : Finset Gid} {status : Gid → GlobalTxStatus}
    (backwards : ∀ count loop next,
      log.loop txset status count = some loop →
      loop.iterate log txset = some next →
      next.startLsn = none ∨ next.endLsn < loop.endLsn)
    (fuel count : ℕ) {loop : Loop Gid}
    (isLoop : log.loop txset status count = some loop)
    (enough : loop.endLsn + 1 < fuel) :
    (loop.scan log txset fuel).isSome := by
  induction fuel generalizing count loop with
  | zero => omega
  | succ fuel inductionHypothesis =>
      cases isNext : loop.iterate log txset with
      | none => exact Loop.scan_of_iterate_none isNext fuel
      | some next =>
          rw [Loop.scan_of_iterate_some isNext]
          rcases backwards count loop next isLoop isNext with ended | before
          · obtain ⟨remaining, rfl⟩ : ∃ remaining, fuel = remaining + 1 :=
              ⟨fuel - 1, by omega⟩
            refine Loop.scan_of_iterate_none ?_ remaining
            rw [Loop.iterate, ended]
          · refine inductionHypothesis (count + 1) ?_ (by omega)
            rw [Log.loop, isLoop]
            exact isNext

/-- Three segments with an outcome in the first and in the last one. -/
def twoOutcomes (boundary : ℕ) (between : List (LogRecord ℕ)) (last : ℕ) :
    Log ℕ where
  geometry := .standard
  records :=
    [⟨16777256, 16777400, .finish 1 true⟩, ⟨16777400, 33554400, .other⟩,
      ⟨33554400, 33554600, .other⟩, ⟨33554600, boundary, .other⟩] ++
      between ++ [⟨last, last + 112, .finish 0 true⟩]
  flush := last + 112
  redo := 16777256
  removed := 0

/-- A record crosses into the last segment, so that every outcome is read
once. -/
def crossingLog : Log ℕ :=
  twoOutcomes 50331600 [⟨50331600, 50331704, .other⟩] 50331704

/-- The record before the last segment ends on the boundary, so that the outcome
at the beginning of the last segment is read twice. -/
def boundaryLog : Log ℕ :=
  twoOutcomes 50331648 [] 50331688

theorem crossingLog_wellFormed : crossingLog.WellFormed where
  segSize_pos := by decide
  longHeader_le := by decide
  record_nonempty := by decide
  ordered := by decide
  flushed := by decide
  behindPageHeader := by decide
  behindSegmentHeader := by decide
  restartPoint := by decide

/-- A record begins in segment 3, covers segment 4 and ends in segment 5. -/
def spanningLog : Log ℕ where
  geometry := .standard
  records :=
    [⟨50331688, 50331800, .prepare 0⟩, ⟨50331800, 83886280, .other⟩,
      ⟨83886280, 83886400, .other⟩]
  flush := 83886400
  redo := 83886280
  removed := 1

theorem spanningLog_wellFormed : spanningLog.WellFormed where
  segSize_pos := by decide
  longHeader_le := by decide
  record_nonempty := by decide
  ordered := by decide
  flushed := by decide
  behindPageHeader := by decide
  behindSegmentHeader := by decide
  restartPoint := by decide

end Wal
end Multimaster
