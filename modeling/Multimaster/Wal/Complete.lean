import Mathlib.Algebra.BigOperators.Intervals
import Multimaster.Wal.Areas

/-!
# When the scan is complete

The scan counts outcomes, not transactions.  Whether it shows the newest outcome
of a transaction depends on how many outcomes of the set lie in newer areas and
before it in its own.  Some count more than once: those of a transaction that has
several, and one that begins an area behind a record that ends at a page
boundary.
-/

namespace Multimaster
namespace Wal

open Gtx

variable {Gid : Type*} [DecidableEq Gid]

/-! ## What counts -/

/-- How often the record behind an area counts with it: once if no record ends
where it begins, because a page header lies between.  If no record begins in the
area, the scan does not get past it. -/
def Log.again
    (log : Log Gid) (txset : Finset Gid) (entry area : ℕ)
    (record : LogRecord Gid) : ℕ :=
  if log.inArea entry area = [] then
    if area < entry / log.geometry.segSize then txset.card else 0
  else if ∃ before ∈ log.records, before.endPtr = record.start then 0
  else 1

/-- The outcomes of the set that count with an area, in order. -/
def Log.areaOutcomes
    (log : Log Gid) (txset : Finset Gid) (entry area : ℕ) :
    List (Gid × Bool) :=
  if log.Reached entry area then
    finishes txset (log.inArea entry area) ++
      match log.behind entry area with
      | none => []
      | some record =>
          (List.replicate (log.again txset entry area record)
            (finishes txset [record])).flatten
  else []

/-- How many outcomes of the set count with newer areas. -/
def Log.newer
    (log : Log Gid) (txset : Finset Gid) (entry area : ℕ) : ℕ :=
  ∑ other ∈ Finset.Ioc area (entry / log.geometry.segSize + 1),
    (log.areaOutcomes txset entry other).length

/-- An outcome at an index of its area that has fewer outcomes of the set before
it, in newer areas and in its own, than the set has transactions. -/
def Log.Counts
    (log : Log Gid) (txset : Finset Gid) (area index : ℕ) (gid : Gid)
    (commit : Bool) : Prop :=
  ∃ entry ∈ log.entry,
    (log.areaOutcomes txset entry area)[index]? = some (gid, commit) ∧
      log.newer txset entry area + index < txset.card

/-- The newest outcome of every transaction counts, and the opposite one only in a
newer area or before it in the same.  Nothing counts for a transaction without an
outcome. -/
structure Log.ShowsNewest (log : Log Gid) (txset : Finset Gid) : Prop where
  newest : ∀ gid ∈ txset, ∀ commit,
    lastOutcome gid (log.outcomes txset) = some commit →
    ∃ area index, log.Counts txset area index gid commit ∧
      ∀ other place, log.Counts txset other place gid (!commit) →
        area < other ∨ (other = area ∧ place < index)
  absent : ∀ gid ∈ txset, lastOutcome gid (log.outcomes txset) = none →
    ∀ area index commit, ¬ log.Counts txset area index gid commit

/-! ## The last outcome in a list -/

theorem lastOutcome_eq_some_iff
    {gid : Gid} {commit : Bool} {outcomes : List (Gid × Bool)} :
    lastOutcome gid outcomes = some commit ↔
      ∃ index : ℕ, outcomes[index]? = some (gid, commit) ∧
        ∀ other : ℕ, outcomes[other]? = some (gid, !commit) →
          other < index := by
  induction outcomes using List.reverseRecOn with
  | nil =>
      constructor
      · intro found
        cases found
      · rintro ⟨index, isIndex, -⟩
        cases isIndex
  | append_singleton outcomes last inductionHypothesis =>
      rw [lastOutcome_concat]
      split
      · next isGid =>
          constructor
          · intro isCommit
            cases isCommit
            refine ⟨outcomes.length, ?_, ?_⟩
            · rw [List.getElem?_concat_length, ← isGid]
            · intro other isOther
              obtain ⟨early, same⟩ := List.getElem?_eq_some_iff.mp isOther
              rw [List.length_append, List.length_singleton] at early
              rcases Nat.lt_or_eq_of_le (Nat.le_of_lt_succ early) with
                before | isLast
              · exact before
              · subst isLast
                rw [List.getElem_concat_length rfl] at same
                have opposite := congrArg Prod.snd same
                cases commit : last.2 <;> simp [commit] at opposite
          · rintro ⟨index, isIndex, newest⟩
            by_contra different
            have isOpposite : last = (gid, !commit) := by
              apply Prod.ext isGid
              rw [Option.some.injEq] at different
              exact Bool.eq_not.mpr different
            have early := newest outcomes.length
              (by rw [List.getElem?_concat_length, isOpposite])
            have within := (List.getElem?_eq_some_iff.mp isIndex).1
            rw [List.length_append, List.length_singleton] at within
            omega
      · next notGid =>
          have notLast (index : ℕ) (value : Bool) :
              (outcomes ++ [last])[index]? = some (gid, value) ↔
                outcomes[index]? = some (gid, value) := by
            rcases Nat.lt_trichotomy index outcomes.length with
              early | isLast | late
            · rw [List.getElem?_append_left early]
            · subst isLast
              rw [List.getElem?_concat_length, List.getElem?_length]
              constructor
              · intro same
                cases same
                exact absurd rfl notGid
              · intro same
                cases same
            · rw [List.getElem?_eq_none (by simp; omega),
                List.getElem?_eq_none (Nat.le_of_lt late)]
          simp only [notLast]
          exact inductionHypothesis

theorem lastOutcome_eq_none_iff
    {gid : Gid} {outcomes : List (Gid × Bool)} :
    lastOutcome gid outcomes = none ↔
      ∀ (index : ℕ) (commit : Bool),
        outcomes[index]? ≠ some (gid, commit) := by
  rw [lastOutcome, Option.map_eq_none_iff, List.find?_eq_none]
  constructor
  · intro noneFound index commit isOutcome
    have isMember := List.mem_of_getElem? isOutcome
    exact noneFound _ (List.mem_reverse.mpr isMember) (by simp)
  · rintro noneAt ⟨other, commit⟩ isMember isGid
    rw [decide_eq_true_eq] at isGid
    obtain ⟨index, isIndex⟩ :=
      List.mem_iff_getElem?.mp (List.mem_reverse.mp isMember)
    exact noneAt index commit (by rw [isIndex, ← isGid])

/-! ## The outcomes of all areas -/

section Areas

variable {log : Log Gid} {txset : Finset Gid} {entry : ℕ}

/-- The outcomes of the areas below a bound, the newest area first. -/
def Log.below
    (log : Log Gid) (txset : Finset Gid) (entry : ℕ) : ℕ → List (Gid × Bool)
  | 0 => []
  | bound + 1 =>
      log.areaOutcomes txset entry bound ++ log.below txset entry bound

/-- The outcomes of the areas above one and below a bound. -/
def Log.above
    (log : Log Gid) (txset : Finset Gid) (entry area bound : ℕ) : ℕ :=
  ∑ other ∈ Finset.Ico (area + 1) bound,
    (log.areaOutcomes txset entry other).length

theorem Log.newer_eq_above (log : Log Gid) (txset : Finset Gid)
    (entry area : ℕ) :
    log.newer txset entry area =
      log.above txset entry area (entry / log.geometry.segSize + 2) := by
  unfold Log.newer Log.above
  rw [← Finset.Ico_add_one_add_one_eq_Ioc]
  rfl

theorem Log.above_succ {area bound : ℕ} (below : area < bound) :
    log.above txset entry area (bound + 1) =
      log.above txset entry area bound +
        (log.areaOutcomes txset entry bound).length :=
  Finset.sum_Ico_succ_top below _

theorem Log.above_self (area : ℕ) :
    log.above txset entry area (area + 1) = 0 := by
  rw [Log.above, Finset.Ico_self, Finset.sum_empty]

/-- What lies at a place among the areas lies at an index of one of them. -/
theorem Log.getElem?_below
    {bound place : ℕ} {outcome : Gid × Bool} :
    (log.below txset entry bound)[place]? = some outcome ↔
      ∃ area < bound, ∃ index : ℕ,
        (log.areaOutcomes txset entry area)[index]? = some outcome ∧
          place = log.above txset entry area bound + index := by
  induction bound generalizing place with
  | zero =>
      constructor
      · intro isOutcome
        cases isOutcome
      · rintro ⟨area, below, -⟩
        exact absurd below (Nat.not_lt_zero area)
  | succ bound inductionHypothesis =>
      rw [Log.below]
      constructor
      · intro isOutcome
        rcases Nat.lt_or_ge place
          (log.areaOutcomes txset entry bound).length with within | later
        · rw [List.getElem?_append_left within] at isOutcome
          refine ⟨bound, Nat.lt_succ_self _, place, isOutcome, ?_⟩
          rw [Log.above_self, Nat.zero_add]
        · rw [List.getElem?_append_right later,
            inductionHypothesis] at isOutcome
          obtain ⟨area, below, index, atIndex, isPlace⟩ := isOutcome
          refine ⟨area, Nat.lt_succ_of_lt below, index, atIndex, ?_⟩
          rw [Log.above_succ below]
          omega
      · rintro ⟨area, below, index, atIndex, rfl⟩
        rcases Nat.lt_or_eq_of_le (Nat.le_of_lt_succ below) with before | rfl
        · rw [Log.above_succ before, List.getElem?_append_right (by omega),
            inductionHypothesis]
          exact ⟨area, before, index, atIndex, by omega⟩
        · rw [Log.above_self, Nat.zero_add, List.getElem?_append_left
            (List.getElem?_eq_some_iff.mp atIndex).1]
          exact atIndex

/-- An outcome of a newer area has its place before those of older ones. -/
theorem Log.place_lt
    {area other bound index place : ℕ} (newer : area < other)
    (below : other < bound)
    (within : index < (log.areaOutcomes txset entry other).length) :
    log.above txset entry other bound + index <
      log.above txset entry area bound + place := by
  have split : log.above txset entry area bound =
      log.above txset entry area other +
        ((log.areaOutcomes txset entry other).length +
          log.above txset entry other bound) := by
    rw [Log.above, Log.above, Log.above,
      ← Finset.sum_Ico_consecutive _ (Nat.succ_le_of_lt newer)
        (Nat.le_of_lt below),
      Finset.sum_eq_sum_Ico_succ_bot below]
  omega

/-- No outcome counts with an area behind the last one. -/
theorem Log.area_lt_of_getElem?
    {area index : ℕ} {outcome : Gid × Bool}
    (isOutcome : (log.areaOutcomes txset entry area)[index]? =
      some outcome) :
    area < entry / log.geometry.segSize + 2 := by
  by_contra notBelow
  have noneHere : log.inArea entry area = [] := by
    apply List.filter_eq_nil_iff.mpr
    intro record _
    rw [decide_eq_true_eq]
    have atMost := log.area_le entry record.start
    omega
  have noneBehind : log.behind entry area = none := by
    apply List.find?_eq_none.mpr
    intro record _
    rw [decide_eq_true_eq]
    have atMost := log.area_le entry record.start
    omega
  rw [Log.areaOutcomes, noneHere, noneBehind] at isOutcome
  simp [finishes] at isOutcome

/-- What counts are the outcomes of all areas, as many as the set has
transactions. -/
theorem Log.counts_iff
    (isEntry : log.entry = some entry) {area index : ℕ} {gid : Gid}
    {commit : Bool} :
    log.Counts txset area index gid commit ↔
      (log.areaOutcomes txset entry area)[index]? = some (gid, commit) ∧
        log.newer txset entry area + index < txset.card := by
  constructor
  · rintro ⟨other, isOther, counts⟩
    rw [isEntry] at isOther
    cases isOther
    exact counts
  · exact fun counts => ⟨entry, isEntry, counts⟩

theorem Log.getElem?_take_below
    (isEntry : log.entry = some entry) {place : ℕ} {gid : Gid}
    {commit : Bool} :
    ((log.below txset entry (entry / log.geometry.segSize + 2)).take
        txset.card)[place]? = some (gid, commit) ↔
      ∃ area index, log.Counts txset area index gid commit ∧
        place = log.newer txset entry area + index := by
  simp only [Log.counts_iff isEntry, Log.newer_eq_above]
  rw [List.getElem?_take]
  constructor
  · intro isOutcome
    split at isOutcome
    · next within =>
        obtain ⟨area, -, index, atIndex, rfl⟩ :=
          Log.getElem?_below.mp isOutcome
        exact ⟨area, index, ⟨atIndex, within⟩, rfl⟩
    · cases isOutcome
  · rintro ⟨area, index, ⟨atIndex, within⟩, rfl⟩
    rw [if_pos within, Log.getElem?_below]
    exact ⟨area, Log.area_lt_of_getElem? atIndex, index, atIndex, rfl⟩

/-- The order of what counts. -/
theorem Log.Counts.place_lt_iff
    (isEntry : log.entry = some entry) {area index other place : ℕ}
    {gid : Gid} {commit opposite : Bool}
    (counts : log.Counts txset area index gid commit)
    (otherCounts : log.Counts txset other place gid opposite) :
    log.newer txset entry other + place < log.newer txset entry area + index ↔
      area < other ∨ (other = area ∧ place < index) := by
  obtain ⟨isHere, -⟩ := (Log.counts_iff isEntry).mp counts
  obtain ⟨isThere, -⟩ := (Log.counts_iff isEntry).mp otherCounts
  rw [Log.newer_eq_above, Log.newer_eq_above]
  rcases Nat.lt_trichotomy area other with newer | rfl | older
  · refine iff_of_true ?_ (Or.inl newer)
    exact Log.place_lt newer (Log.area_lt_of_getElem? isThere)
      (List.getElem?_eq_some_iff.mp isThere).1
  · rw [Nat.add_lt_add_iff_left]
    constructor
    · exact fun before => Or.inr ⟨rfl, before⟩
    · rintro (less | ⟨-, before⟩)
      · exact absurd less (Nat.lt_irrefl _)
      · exact before
  · have behind :
        log.above txset entry area (entry / log.geometry.segSize + 2) + index <
          log.above txset entry other (entry / log.geometry.segSize + 2) +
            place :=
      Log.place_lt older (Log.area_lt_of_getElem? isHere)
        (List.getElem?_eq_some_iff.mp isHere).1
    refine iff_of_false (Nat.not_lt_of_lt behind) ?_
    rintro (less | ⟨same, -⟩)
    · exact absurd less (Nat.not_lt_of_lt older)
    · omega

/-- The last outcome among what counts. -/
theorem Log.lastOutcome_take_below_eq_some_iff
    (isEntry : log.entry = some entry) {gid : Gid} {commit : Bool} :
    lastOutcome gid ((log.below txset entry
        (entry / log.geometry.segSize + 2)).take txset.card) = some commit ↔
      ∃ area index, log.Counts txset area index gid commit ∧
        ∀ other place, log.Counts txset other place gid (!commit) →
          area < other ∨ (other = area ∧ place < index) := by
  rw [lastOutcome_eq_some_iff]
  simp only [Log.getElem?_take_below isEntry]
  constructor
  · rintro ⟨_, ⟨area, index, counts, rfl⟩, newest⟩
    refine ⟨area, index, counts, ?_⟩
    intro other place otherCounts
    exact (counts.place_lt_iff isEntry otherCounts).mp
      (newest _ ⟨other, place, otherCounts, rfl⟩)
  · rintro ⟨area, index, counts, newest⟩
    refine ⟨_, ⟨area, index, counts, rfl⟩, ?_⟩
    rintro _ ⟨other, place, otherCounts, rfl⟩
    exact (counts.place_lt_iff isEntry otherCounts).mpr
      (newest other place otherCounts)

theorem Log.lastOutcome_take_below_eq_none_iff
    (isEntry : log.entry = some entry) {gid : Gid} :
    lastOutcome gid ((log.below txset entry
        (entry / log.geometry.segSize + 2)).take txset.card) = none ↔
      ∀ area index commit, ¬ log.Counts txset area index gid commit := by
  rw [lastOutcome_eq_none_iff]
  simp only [ne_eq, Log.getElem?_take_below isEntry]
  constructor
  · intro noneAt area index commit counts
    exact noneAt _ commit ⟨area, index, counts, rfl⟩
  · rintro noneCounts _ commit ⟨area, index, counts, -⟩
    exact noneCounts area index commit counts

end Areas

/-! ## The scan goes through the areas -/

section Scan

variable {log : Log Gid} {txset : Finset Gid} {entry fuel : ℕ}
variable {progress result : Progress Gid}

/-- The scan takes what is in a part, and then what comes later. -/
theorem take_walk_succ
    {startLsn endLsn : ℕ} {part rest : List (Gid × Bool)}
    (counted : progress.nTrans = 0 → txset = ∅)
    (returns : scanSegments log txset (fuel + 1) progress (some startLsn)
      endLsn = some result)
    (isPart : finishes txset (readUntil endLsn
      (log.beginRead (log.geometry.lsnBump startLsn))) = part)
    (later : ∀ next : Progress Gid, next.nTrans ≤ progress.nTrans →
      (next.nTrans = 0 → txset = ∅) →
      scanSegments log txset fuel next
        (log.previous (log.geometry.lsnBump startLsn))
        (log.geometry.lsnBump startLsn) = some result →
      (finishes txset (log.walk fuel
          (log.previous (log.geometry.lsnBump startLsn))
          (log.geometry.lsnBump startLsn))).take next.nTrans =
        rest.take next.nTrans) :
    (finishes txset (log.walk (fuel + 1) (some startLsn) endLsn)).take
        progress.nTrans =
      (part ++ rest).take progress.nTrans := by
  obtain ⟨-, count⟩ := readSegment_spec txset endLsn
    (log.beginRead (log.geometry.lsnBump startLsn)) progress counted
  rw [isPart] at count
  rw [Log.walk, finishes_append, isPart, List.take_append, List.take_append,
    List.append_cancel_left_eq, ← count]
  simp only [scanSegments] at returns
  split at returns
  · next isZero =>
      rw [isZero, List.take_zero, List.take_zero]
  · next notZero =>
      apply later _ _ (fun isZero => absurd isZero notZero) returns
      omega

/-- What is read with an area that a record begins in. -/
theorem Log.WellFormed.areaOutcomes_eq
    (wellFormed : log.WellFormed) (txset : Finset Gid)
    {area first behind : ℕ} (reached : log.Reached entry area)
    (between : log.Between entry area first behind) :
    finishes txset (readUntil behind (log.beginRead first)) =
      log.areaOutcomes txset entry area := by
  obtain ⟨⟨record, records, isArea, rfl⟩, ⟨next, others, isBehind, rfl⟩⟩ :=
    between
  have notEmpty : ¬ log.inArea entry area = [] := by
    rw [isArea]
    exact List.cons_ne_nil _ _
  rw [wellFormed.readUntil_area isArea isBehind, finishes_append,
    Log.areaOutcomes, if_pos reached, log.behind_eq_head?, isBehind,
    List.head?_cons]
  simp only [Log.again, if_neg notEmpty]
  split
  · rfl
  · rw [List.replicate_one, List.flatten_singleton]

/-- Areas that are not reached have no outcomes. -/
theorem Log.below_eq_nil
    {bound : ℕ} (unreached : ∀ area < bound, ¬ log.Reached entry area) :
    log.below txset entry bound = [] := by
  induction bound with
  | zero => rfl
  | succ bound inductionHypothesis =>
      rw [Log.below, Log.areaOutcomes,
        if_neg (unreached bound (Nat.lt_succ_self bound)), List.nil_append]
      exact inductionHypothesis fun area below =>
        unreached area (Nat.lt_succ_of_lt below)

omit [DecidableEq Gid] in
/-- A record is the first one read from its position on. -/
theorem Log.WellFormed.beginRead_start
    (wellFormed : log.WellFormed) {record : LogRecord Gid}
    (isRecord : record ∈ log.records) :
    ∃ others, log.beginRead record.start = record :: others := by
  have ordered := wellFormed.ordered
  have positive := wellFormed.record_nonempty
  obtain ⟨front, others, split⟩ := List.append_of_mem isRecord
  rw [split] at ordered positive
  refine ⟨others, ?_⟩
  rw [Log.beginRead, split, List.dropWhile_append_of_pos]
  · apply List.dropWhile_cons_of_neg
    rw [decide_eq_true_eq]
    exact Nat.lt_irrefl _
  · intro other isOther
    have before := (List.pairwise_append.mp ordered).2.2 other isOther record
      List.mem_cons_self
    have nonempty := positive other (List.mem_append_left _ isOther)
    rw [decide_eq_true_eq]
    omega

/-- A scan that stays at a record takes its outcome, if it has one, until the
count is used up. -/
theorem take_walk_spanned
    (wellFormed : log.WellFormed) {record : LogRecord Gid}
    (isRecord : record ∈ log.records)
    (stays : log.previous record.start = some record.start)
    (counted : progress.nTrans = 0 → txset = ∅)
    (atMost : progress.nTrans ≤ txset.card)
    (returns : scanSegments log txset fuel progress (some record.start)
      record.start = some result)
    (rest : List (Gid × Bool)) :
    (finishes txset (log.walk fuel (some record.start) record.start)).take
        progress.nTrans =
      ((List.replicate txset.card (finishes txset [record])).flatten ++
        rest).take progress.nTrans := by
  induction fuel generalizing progress with
  | zero => cases returns
  | succ fuel inductionHypothesis =>
      have atRecord := wellFormed.bump_of_starts ⟨record, isRecord, rfl⟩
      have positive := wellFormed.record_nonempty record isRecord
      have isPart : finishes txset (readUntil record.start (log.beginRead
          (log.geometry.lsnBump record.start))) = finishes txset [record] := by
        obtain ⟨others, begins⟩ := wellFormed.beginRead_start isRecord
        rw [atRecord, begins, readUntil, if_neg (Nat.not_lt_of_lt positive)]
      have later (next : Progress Gid)
          (fewer : next.nTrans ≤ progress.nTrans)
          (stillCounted : next.nTrans = 0 → txset = ∅)
          (goesOn : scanSegments log txset fuel next
            (log.previous (log.geometry.lsnBump record.start))
            (log.geometry.lsnBump record.start) = some result) :
          (finishes txset (log.walk fuel
              (log.previous (log.geometry.lsnBump record.start))
              (log.geometry.lsnBump record.start))).take next.nTrans =
            ((List.replicate txset.card
              (finishes txset [record])).flatten ++ rest).take next.nTrans := by
        rw [atRecord, stays] at goesOn ⊢
        exact inductionHypothesis stillCounted (fewer.trans atMost) goesOn
      rw [take_walk_succ counted returns isPart later]
      -- once more makes no difference for what is left of the count
      have short := finishes_singleton_length txset record
      cases isOutcome : finishes txset [record] with
      | nil => rfl
      | cons outcome others =>
          rw [isOutcome, List.length_cons] at short
          have isLast : others = [] :=
            List.eq_nil_of_length_eq_zero (by omega)
          rw [isLast, List.flatten_replicate_singleton, List.singleton_append,
            ← List.cons_append, ← List.replicate_succ,
            List.take_append_of_le_length, List.take_append_of_le_length,
            List.take_replicate, List.take_replicate, Nat.min_eq_left atMost,
            Nat.min_eq_left (Nat.le_succ_of_le atMost)]
          · rw [List.length_replicate]
            exact atMost
          · rw [List.length_replicate]
            exact Nat.le_succ_of_le atMost

/-- The segment before is spanned: the record behind it counts until the count is
used up. -/
theorem Log.areaOutcomes_spanned
    {area : ℕ} {record : LogRecord Gid} {records : List (LogRecord Gid)}
    (reached : log.Reached entry area)
    (early : area < entry / log.geometry.segSize)
    (empty : log.inArea entry area = [])
    (isBehind : log.allBehind entry area = record :: records) :
    log.areaOutcomes txset entry area =
      (List.replicate txset.card (finishes txset [record])).flatten := by
  rw [Log.areaOutcomes, if_pos reached, empty, log.behind_eq_head?, isBehind,
    List.head?_cons]
  simp only [Log.again, if_pos empty, if_pos early]
  rfl

/-- From the first record of a segment on the scan takes the outcomes of the areas
before. -/
theorem take_walk_previous
    (wellFormed : log.WellFormed) {lsn : ℕ} (isFirst : log.IsFirst lsn)
    (lsnAtMost : lsn ≤ entry) (counted : progress.nTrans = 0 → txset = ∅)
    (atMost : progress.nTrans ≤ txset.card)
    (returns : scanSegments log txset fuel progress (log.previous lsn) lsn =
      some result) :
    (finishes txset (log.walk fuel (log.previous lsn) lsn)).take
        progress.nTrans =
      (log.below txset entry (lsn / log.geometry.segSize)).take
        progress.nTrans := by
  induction fuel generalizing progress lsn with
  | zero => cases returns
  | succ fuel inductionHypothesis =>
      have segments := Nat.div_le_div_right (c := log.geometry.segSize)
        lsnAtMost
      rcases Log.WellFormed.previous_isFirst isFirst lsnAtMost wellFormed with
        ⟨stops, unreached⟩ | spanned |
          ⟨first, isPrevious, firstIsFirst, before, isBefore, reached, between⟩
      · rw [stops, Log.walk, Log.below_eq_nil unreached]
        rfl
      · have stays :=
          (wellFormed.previous_eq_self_iff isFirst.1).mpr spanned
        obtain ⟨-, late, retained, -⟩ := id spanned
        obtain ⟨area, isArea⟩ :
            ∃ area, area + 1 = lsn / log.geometry.segSize :=
          ⟨lsn / log.geometry.segSize - 1, by omega⟩
        obtain ⟨record, records, isBehind, rfl⟩ :=
          Log.WellFormed.allBehind_before isFirst lsnAtMost isArea wellFormed
        have isRecord : record ∈ log.allBehind entry area := by
          rw [isBehind]
          exact List.mem_cons_self
        rw [stays] at returns ⊢
        rw [take_walk_spanned wellFormed (Log.mem_allBehind.mp isRecord).1
          stays counted atMost returns (log.below txset entry area), ← isArea,
          Log.below, Log.areaOutcomes_spanned
            (Log.WellFormed.reached_before isFirst isArea late (by omega))
            (by omega)
            (Log.WellFormed.inArea_of_spanned lsnAtMost isArea spanned)
            isBehind]
      · have atFirst := wellFormed.bump_of_starts firstIsFirst.1
        rw [isPrevious] at returns ⊢
        rw [← isBefore, Log.below]
        apply take_walk_succ counted returns
        · rw [atFirst]
          exact wellFormed.areaOutcomes_eq txset reached between
        · intro next fewer stillCounted goesOn
          rw [atFirst] at goesOn ⊢
          exact inductionHypothesis firstIsFirst
            (Nat.le_of_lt (Nat.lt_of_lt_of_le before lsnAtMost)) stillCounted
            (fewer.trans atMost) goesOn

/-- The outcomes that count with the area of the entry are those in it. -/
theorem Log.areaOutcomes_last :
    log.areaOutcomes txset entry (entry / log.geometry.segSize + 1) =
      finishes txset
        (log.inArea entry (entry / log.geometry.segSize + 1)) := by
  have reached : log.Reached entry (entry / log.geometry.segSize + 1) :=
    Or.inl (Nat.le_succ _)
  rw [Log.areaOutcomes, if_pos reached, log.behind_eq_head?,
    log.allBehind_last]
  exact List.append_nil _

/-- Nothing counts with the segment of an entry that is its first record. -/
theorem Log.areaOutcomes_entry (isFirst : log.IsFirst entry) :
    log.areaOutcomes txset entry (entry / log.geometry.segSize) = [] := by
  have reached : log.Reached entry (entry / log.geometry.segSize) :=
    Or.inl (Nat.le_refl _)
  have empty := Log.WellFormed.inArea_of_entry isFirst
  rw [Log.areaOutcomes, if_pos reached, empty]
  cases log.behind entry (entry / log.geometry.segSize) with
  | none => rfl
  | some record =>
      simp only [Log.again, if_pos empty, Nat.lt_irrefl, if_false]
      rfl

/-- A scan that returns takes the outcomes of all areas, as many as the set has
transactions. -/
theorem take_walk
    (wellFormed : log.WellFormed) (isEntry : log.entry = some entry)
    (counted : progress.nTrans = 0 → txset = ∅)
    (atMost : progress.nTrans ≤ txset.card)
    (returns : scanSegments log txset fuel progress log.scanStart log.flush =
      some result) :
    (finishes txset (log.walk fuel log.scanStart log.flush)).take
        progress.nTrans =
      (log.below txset entry (entry / log.geometry.segSize + 2)).take
        progress.nTrans := by
  obtain ⟨startLsn, isStart, rfl⟩ := Option.map_eq_some_iff.mp isEntry
  have starts := wellFormed.starts_of_scanStart isStart
  rw [isStart] at returns ⊢
  cases fuel with
  | zero => cases returns
  | succ fuel =>
      rw [Log.below, Log.areaOutcomes_last]
      apply take_walk_succ counted returns
      · rw [wellFormed.readUntil_last starts]
      · intro next fewer stillCounted goesOn
        generalize log.geometry.lsnBump startLsn = entry at *
        rw [Log.below]
        rcases wellFormed.previous_entry starts with isFirst |
          ⟨first, isPrevious, isFirst, firstAtMost, inSegment, between⟩
        · rw [Log.areaOutcomes_entry isFirst, List.nil_append]
          exact take_walk_previous wellFormed isFirst (Nat.le_refl _)
            stillCounted (fewer.trans atMost) goesOn
        · have atFirst := wellFormed.bump_of_starts isFirst.1
          rw [isPrevious] at goesOn ⊢
          cases fuel with
          | zero => cases goesOn
          | succ fuel =>
              apply take_walk_succ stillCounted goesOn
              · rw [atFirst]
                exact wellFormed.areaOutcomes_eq txset
                  (Or.inl (Nat.le_refl _)) between
              · intro last fewerLast lastCounted goesOnLast
                rw [atFirst] at goesOnLast ⊢
                rw [← inSegment]
                exact take_walk_previous wellFormed isFirst firstAtMost
                  lastCounted (fewerLast.trans (fewer.trans atMost)) goesOnLast

end Scan

/-! ## Completeness -/

/-- Every transaction of the set has the outcome of its latest record up to the
flush pointer, and no other answer is changed. -/
def Complete
    (log : Log Gid) (txset : Finset Gid)
    (before after : Gid → GlobalTxStatus) : Prop :=
  ∀ gid ∈ txset,
    after gid =
      match lastOutcome gid (log.outcomes txset) with
      | some commit => outcomeStatus commit
      | none => before gid


/-- The last outcome the scan takes is the last one that counts. -/
theorem lastOutcome_taken
    {log : Log Gid} {txset : Finset Gid} {fuel : ℕ}
    {status : Gid → GlobalTxStatus} {result : Progress Gid}
    (wellFormed : log.WellFormed)
    (returns : getLoggedPreparedXactState log txset status fuel = some result)
    (gid : Gid) :
    (∀ commit, lastOutcome gid ((finishes txset
        (log.walk fuel log.scanStart log.flush)).take txset.card) =
          some commit ↔
      ∃ area index, log.Counts txset area index gid commit ∧
        ∀ other place, log.Counts txset other place gid (!commit) →
          area < other ∨ (other = area ∧ place < index)) ∧
    (lastOutcome gid ((finishes txset
        (log.walk fuel log.scanStart log.flush)).take txset.card) = none ↔
      ∀ area index commit, ¬ log.Counts txset area index gid commit) := by
  cases isEntry : log.entry with
  | none =>
      have notStarted : log.scanStart = none := Option.map_eq_none_iff.mp isEntry
      have noneCounts (area index : ℕ) (commit : Bool) :
          ¬ log.Counts txset area index gid commit := by
        rintro ⟨entry, isSome, -⟩
        rw [isEntry] at isSome
        cases isSome
      have nothing : finishes txset
          (log.walk fuel log.scanStart log.flush) = [] := by
        rw [notStarted]
        cases fuel with
        | zero => rfl
        | succ fuel => rfl
      rw [nothing, List.take_nil]
      refine ⟨fun commit => iff_of_false ?_ ?_, iff_of_true rfl noneCounts⟩
      · intro found
        cases found
      · rintro ⟨area, index, counts, -⟩
        exact noneCounts area index commit counts
  | some entry =>
      have taken : (finishes txset
            (log.walk fuel log.scanStart log.flush)).take txset.card =
          (log.below txset entry (entry / log.geometry.segSize + 2)).take
            txset.card :=
        take_walk wellFormed isEntry Finset.card_eq_zero.mp (Nat.le_refl _)
          returns
      rw [taken]
      exact ⟨fun _ => Log.lastOutcome_take_below_eq_some_iff isEntry,
        Log.lastOutcome_take_below_eq_none_iff isEntry⟩

/-- A transaction of the set has the right answer exactly when the last outcome
the scan takes of it is the newest one. -/
theorem status_eq_iff
    {log : Log Gid} {txset : Finset Gid} {fuel : ℕ}
    {status : Gid → GlobalTxStatus} {result : Progress Gid}
    (returns : getLoggedPreparedXactState log txset status fuel = some result)
    {gid : Gid} (unanswered : status gid ≠ .committed ∧ status gid ≠ .aborted)
    (newest : Option Bool) :
    (result.status gid =
        match newest with
        | some commit => outcomeStatus commit
        | none => status gid) ↔
      lastOutcome gid ((finishes txset
        (log.walk fuel log.scanStart log.flush)).take txset.card) = newest := by
  have notOutcome (commit : Bool) : status gid ≠ outcomeStatus commit := by
    cases commit with
    | false => exact unanswered.2
    | true => exact unanswered.1
  rw [scanSegments_spec Finset.card_eq_zero.mp returns, applyOutcomes_apply]
  change (match lastOutcome gid ((finishes txset
      (log.walk fuel log.scanStart log.flush)).take txset.card) with
    | some commit => outcomeStatus commit
    | none => status gid) = _ ↔ _
  cases lastOutcome gid ((finishes txset
      (log.walk fuel log.scanStart log.flush)).take txset.card) with
  | none =>
      cases newest with
      | none => exact iff_of_true rfl rfl
      | some commit =>
          refine iff_of_false (notOutcome commit) ?_
          exact fun same => by cases same
  | some taken =>
      cases newest with
      | none =>
          refine iff_of_false (Ne.symm (notOutcome taken)) ?_
          exact fun same => by cases same
      | some commit =>
          rw [Option.some.injEq]
          exact ⟨outcomeStatus_injective, congrArg outcomeStatus⟩

theorem mem_of_mem_finishes
    {txset : Finset Gid} {records : List (LogRecord Gid)}
    {outcome : Gid × Bool} (isOutcome : outcome ∈ finishes txset records) :
    outcome.1 ∈ txset := by
  obtain ⟨record, -, isFinish⟩ := List.mem_filterMap.mp isOutcome
  cases content : record.content with
  | other =>
      rw [content] at isFinish
      cases isFinish
  | prepare gid =>
      rw [content] at isFinish
      cases isFinish
  | finish gid commit =>
      rw [content] at isFinish
      dsimp only at isFinish
      split at isFinish
      · next inSet =>
          cases isFinish
          exact inSet
      · cases isFinish

section Single

variable {log : Log Gid} {txset : Finset Gid} {entry : ℕ}

theorem lastOutcome_eq_some_iff_mem
    {gid : Gid} {commit : Bool} {outcomes : List (Gid × Bool)}
    (single : (outcomes.map Prod.fst).Nodup) :
    lastOutcome gid outcomes = some commit ↔ (gid, commit) ∈ outcomes := by
  rw [lastOutcome_eq_some_iff, List.mem_iff_getElem?]
  constructor
  · rintro ⟨index, isIndex, -⟩
    exact ⟨index, isIndex⟩
  · rintro ⟨index, isIndex⟩
    refine ⟨index, isIndex, ?_⟩
    intro other isOther
    have same := List.inj_on_of_nodup_map single
      (List.mem_of_getElem? isOther) (List.mem_of_getElem? isIndex) rfl
    simp at same

theorem lastOutcome_perm
    {gid : Gid} {outcomes others : List (Gid × Bool)}
    (perm : outcomes.Perm others) (single : (outcomes.map Prod.fst).Nodup) :
    lastOutcome gid outcomes = lastOutcome gid others := by
  have otherSingle := (perm.map Prod.fst).nodup_iff.mp single
  apply Option.ext
  intro commit
  rw [lastOutcome_eq_some_iff_mem single,
    lastOutcome_eq_some_iff_mem otherSingle, perm.mem_iff]

/-- If every outcome counts with its own area only, all areas together are the
whole log. -/
theorem Log.below_perm
    {bound : ℕ} (plain : ∀ area < bound, log.areaOutcomes txset entry area =
      finishes txset (log.inArea entry area)) :
    (log.below txset entry bound).Perm (finishes txset
      (log.records.filter fun record =>
        log.area entry record.start < bound)) := by
  induction bound with
  | zero =>
      simp only [Log.below, Nat.not_lt_zero, decide_false, List.filter_false]
      exact List.Perm.refl _
  | succ bound inductionHypothesis =>
      have split : (log.inArea entry bound ++ log.records.filter fun record =>
          log.area entry record.start < bound).Perm
          (log.records.filter fun record =>
            log.area entry record.start < bound + 1) := by
        have parts := List.filter_append_perm
          (fun record => decide (log.area entry record.start = bound))
          (log.records.filter fun record =>
            log.area entry record.start < bound + 1)
        rw [List.filter_filter, List.filter_filter] at parts
        have isHere : log.inArea entry bound = log.records.filter fun record =>
            decide (log.area entry record.start = bound) &&
              decide (log.area entry record.start < bound + 1) := by
          apply List.filter_congr
          intro record _
          rw [← Bool.decide_and, decide_eq_decide]
          omega
        have isBelow : (log.records.filter fun record =>
              log.area entry record.start < bound) =
            log.records.filter fun record =>
              !decide (log.area entry record.start = bound) &&
                decide (log.area entry record.start < bound + 1) := by
          apply List.filter_congr
          intro record _
          rw [← decide_not, ← Bool.decide_and, decide_eq_decide]
          omega
        rw [isHere, isBelow]
        exact parts
      have earlier := inductionHypothesis fun area below =>
        plain area (Nat.lt_succ_of_lt below)
      rw [Log.below, plain bound (Nat.lt_succ_self bound)]
      refine (earlier.append_left _).trans ?_
      rw [← finishes_append]
      exact split.filterMap _

/-- The scan is complete if no transaction has several outcomes, all of them lie
in retained segments and each counts with its own area only. -/
theorem Log.showsNewest_of_single
    (wellFormed : log.WellFormed) (isEntry : log.entry = some entry)
    (single : ((finishes txset log.records).map Prod.fst).Nodup)
    (retained : ∀ record ∈ log.records,
      log.removed < record.start / log.geometry.segSize)
    (plain : ∀ area < entry / log.geometry.segSize + 2,
      log.areaOutcomes txset entry area =
        finishes txset (log.inArea entry area)) :
    log.ShowsNewest txset := by
  have allRetained : log.outcomes txset = finishes txset log.records := by
    rw [Log.outcomes, List.filter_eq_self.mpr]
    intro record isRecord
    rw [decide_eq_true_eq]
    exact ⟨retained record isRecord, wellFormed.flushed record isRecord⟩
  have allBelow : (log.records.filter fun record =>
      log.area entry record.start < entry / log.geometry.segSize + 2) =
        log.records := by
    apply List.filter_eq_self.mpr
    intro record _
    rw [decide_eq_true_eq]
    exact Nat.lt_succ_of_le (log.area_le entry record.start)
  have perm := Log.below_perm plain
  rw [allBelow] at perm
  -- there are no more outcomes than transactions, so that all are taken
  have enough : (log.below txset entry
      (entry / log.geometry.segSize + 2)).length ≤ txset.card := by
    rw [perm.length_eq, ← List.length_map Prod.fst,
      ← List.toFinset_card_of_nodup single]
    apply Finset.card_le_card
    intro gid isGid
    rw [List.mem_toFinset, List.mem_map] at isGid
    obtain ⟨outcome, isOutcome, rfl⟩ := isGid
    exact mem_of_mem_finishes isOutcome
  have taken (gid : Gid) : lastOutcome gid ((log.below txset entry
      (entry / log.geometry.segSize + 2)).take txset.card) =
        lastOutcome gid (log.outcomes txset) := by
    rw [List.take_of_length_le enough, allRetained]
    exact (lastOutcome_perm perm.symm single).symm
  constructor
  · intro gid _ commit isNewest
    rw [← taken] at isNewest
    exact (Log.lastOutcome_take_below_eq_some_iff isEntry).mp isNewest
  · intro gid _ isAbsent
    rw [← taken] at isAbsent
    exact (Log.lastOutcome_take_below_eq_none_iff isEntry).mp isAbsent

end Single

theorem boundaryLog_wellFormed : boundaryLog.WellFormed where
  segSize_pos := by decide
  longHeader_le := by decide
  record_nonempty := by decide
  ordered := by decide
  flushed := by decide
  behindPageHeader := by decide
  behindSegmentHeader := by decide
  restartPoint := by decide

/-- Two segments of 1 GB, with an outcome in each. -/
def gigabyteLog : Log ℕ where
  geometry := { Geometry.standard with segSize := 1073741824 }
  records :=
    [⟨1073741864, 1073742000, .finish 1 true⟩,
      ⟨1073742000, 2147483704, .other⟩,
      ⟨2147483704, 2147483816, .finish 0 true⟩]
  flush := 2147483816
  redo := 1073741864
  removed := 0

theorem gigabyteLog_wellFormed : gigabyteLog.WellFormed where
  segSize_pos := by decide
  longHeader_le := by decide
  record_nonempty := by decide
  ordered := by decide
  flushed := by decide
  behindPageHeader := by decide
  behindSegmentHeader := by decide
  restartPoint := by decide

end Wal
end Multimaster
