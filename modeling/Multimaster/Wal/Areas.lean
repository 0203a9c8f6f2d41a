import Multimaster.Lib.ListOrder
import Multimaster.Wal.Terminate

/-!
# The areas of a WAL

A WAL falls into areas: what lies behind the position where the scan begins, and
the segments before it.  The scan reads them one after the other, backwards, and
what lies in an area forwards.
-/

namespace Multimaster
namespace Wal

variable {Gid : Type*}

/-- Where the scan begins: at the first record of the newest segment or, if that
is later or there is none, at the restart point. -/
def Log.entry (log : Log Gid) : Option ℕ :=
  log.scanStart.map log.geometry.lsnBump

/-- The area of a position: its segment, or one more than that of the entry. -/
def Log.area (log : Log Gid) (entry lsn : ℕ) : ℕ :=
  if entry ≤ lsn then entry / log.geometry.segSize + 1
  else lsn / log.geometry.segSize

/-- The records that begin in an area. -/
def Log.inArea (log : Log Gid) (entry area : ℕ) : List (LogRecord Gid) :=
  log.records.filter fun record => log.area entry record.start = area

/-- The first record behind an area. -/
def Log.behind (log : Log Gid) (entry area : ℕ) : Option (LogRecord Gid) :=
  log.records.find? fun record => area < log.area entry record.start

/-- The area is not removed, and the scan does not stop before it: what lies
behind it lies behind two segments, as the code computes their size. -/
def Log.Reached (log : Log Gid) (entry area : ℕ) : Prop :=
  entry / log.geometry.segSize ≤ area ∨
    (log.removed < area ∧
      ∀ record ∈ log.records, area < record.start / log.geometry.segSize →
        log.geometry.twoSegments < record.start)

instance (log : Log Gid) (entry area : ℕ) :
    Decidable (log.Reached entry area) :=
  inferInstanceAs (Decidable (_ ∨ _))

/-! ## Positions and areas -/

section Positions

variable {log : Log Gid} {entry area lsn : ℕ}

theorem Log.area_of_lt (log : Log Gid) (before : lsn < entry) :
    log.area entry lsn = lsn / log.geometry.segSize :=
  if_neg (Nat.not_le_of_lt before)

theorem Log.area_of_le (log : Log Gid) (behind : entry ≤ lsn) :
    log.area entry lsn = entry / log.geometry.segSize + 1 :=
  if_pos behind

theorem Log.area_le (log : Log Gid) (entry lsn : ℕ) :
    log.area entry lsn ≤ entry / log.geometry.segSize + 1 := by
  rcases Nat.lt_or_ge lsn entry with before | behind
  · have early := Nat.div_le_div_right (c := log.geometry.segSize)
      (Nat.le_of_lt before)
    rw [log.area_of_lt before]
    omega
  · rw [log.area_of_le behind]

theorem Log.area_mono (log : Log Gid) (entry : ℕ) {first second : ℕ}
    (before : first ≤ second) :
    log.area entry first ≤ log.area entry second := by
  rcases Nat.lt_or_ge second entry with early | behind
  · rw [log.area_of_lt early,
      log.area_of_lt (Nat.lt_of_le_of_lt before early)]
    exact Nat.div_le_div_right before
  · rw [log.area_of_le behind]
    exact log.area_le entry first

theorem Log.mem_inArea {record : LogRecord Gid} :
    record ∈ log.inArea entry area ↔
      record ∈ log.records ∧ log.area entry record.start = area := by
  simp only [Log.inArea, List.mem_filter, decide_eq_true_eq]

/-- What lies behind an area. -/
def Log.allBehind (log : Log Gid) (entry area : ℕ) : List (LogRecord Gid) :=
  log.records.filter fun record => area < log.area entry record.start

theorem Log.mem_allBehind {record : LogRecord Gid} :
    record ∈ log.allBehind entry area ↔
      record ∈ log.records ∧ area < log.area entry record.start := by
  simp only [Log.allBehind, List.mem_filter, decide_eq_true_eq]

theorem Log.behind_eq_head? (log : Log Gid) (entry area : ℕ) :
    log.behind entry area = (log.allBehind entry area).head? :=
  List.head?_filter.symm

/-- Nothing lies behind the last area. -/
theorem Log.allBehind_last (log : Log Gid) (entry : ℕ) :
    log.allBehind entry (entry / log.geometry.segSize + 1) = [] := by
  apply List.filter_eq_nil_iff.mpr
  intro record _
  rw [decide_eq_true_eq]
  exact Nat.not_lt_of_le (log.area_le entry record.start)

end Positions

/-! ## What is read with an area -/

/-- A segment is read up to the record behind it, which is read as well if the
last record of the segment ends before it. -/
theorem readUntil_append_cons
    {records : List (LogRecord Gid)} {behind : LogRecord Gid}
    (rest : List (LogRecord Gid)) (nonempty : records ≠ [])
    (positive : ∀ record ∈ records, record.start < record.endPtr)
    (ordered : records.Pairwise fun first second =>
      first.endPtr ≤ second.start)
    (before : ∀ record ∈ records, record.endPtr ≤ behind.start)
    (behindPositive : behind.start < behind.endPtr) :
    readUntil behind.start (records ++ behind :: rest) =
      records ++ if ∃ record ∈ records, record.endPtr = behind.start then []
        else [behind] := by
  induction records with
  | nil => exact absurd rfl nonempty
  | cons record others inductionHypothesis =>
      obtain ⟨isFirst, othersOrdered⟩ := List.pairwise_cons.mp ordered
      have atMost := before record List.mem_cons_self
      rw [List.cons_append, readUntil]
      cases others with
      | nil =>
          rw [List.nil_append, readUntil,
            if_neg (Nat.not_lt_of_lt behindPositive)]
          rcases Nat.lt_or_eq_of_le atMost with gap | meets
          · have noneEnds : ¬ ∃ other ∈ [record],
                other.endPtr = behind.start := by
              rintro ⟨other, isOther, ends⟩
              rw [List.mem_singleton.mp isOther] at ends
              omega
            rw [if_pos gap, if_neg noneEnds]
            rfl
          · rw [if_neg (Nat.not_lt_of_le (Nat.le_of_eq meets.symm)),
              if_pos ⟨record, List.mem_cons_self, meets⟩]
            rfl
      | cons next others =>
          have nextPositive := positive next
            (List.mem_cons_of_mem _ List.mem_cons_self)
          have nextBefore := before next
            (List.mem_cons_of_mem _ List.mem_cons_self)
          have precedes := isFirst next List.mem_cons_self
          have early : record.endPtr < behind.start := by
            omega
          have same : (∃ other ∈ record :: next :: others,
              other.endPtr = behind.start) ↔
              ∃ other ∈ next :: others, other.endPtr = behind.start := by
            rw [List.exists_mem_cons_iff, or_iff_right]
            exact Nat.ne_of_lt early
          rw [if_pos early, inductionHypothesis (List.cons_ne_nil _ _)
            (fun other isOther =>
              positive other (List.mem_cons_of_mem _ isOther))
            othersOrdered
            (fun other isOther =>
              before other (List.mem_cons_of_mem _ isOther))]
          simp only [same]
          rfl

/-- What ends no later than a position is read up to it. -/
theorem readUntil_eq_self
    {records : List (LogRecord Gid)} {endLsn : ℕ}
    (positive : ∀ record ∈ records, record.start < record.endPtr)
    (ordered : records.Pairwise fun first second =>
      first.endPtr ≤ second.start)
    (before : ∀ record ∈ records, record.endPtr ≤ endLsn) :
    readUntil endLsn records = records := by
  induction records with
  | nil => rfl
  | cons record others inductionHypothesis =>
      obtain ⟨isFirst, othersOrdered⟩ := List.pairwise_cons.mp ordered
      rw [readUntil]
      cases others with
      | nil =>
          split
          · rfl
          · rfl
      | cons next others =>
          have nextPositive := positive next
            (List.mem_cons_of_mem _ List.mem_cons_self)
          have nextBefore := before next
            (List.mem_cons_of_mem _ List.mem_cons_self)
          have precedes := isFirst next List.mem_cons_self
          have early : record.endPtr < endLsn := by
            omega
          rw [if_pos early, inductionHypothesis
            (fun other isOther =>
              positive other (List.mem_cons_of_mem _ isOther))
            othersOrdered
            (fun other isOther =>
              before other (List.mem_cons_of_mem _ isOther))]

namespace Log.WellFormed

variable {log : Log Gid} {entry area : ℕ}

/-- The records fall into those before an area, those in it and those behind. -/
theorem records_eq (wellFormed : log.WellFormed) (entry area : ℕ) :
    log.records =
      log.records.filter (fun record =>
          log.area entry record.start < area) ++
        (log.inArea entry area ++ log.allBehind entry area) := by
  apply eq_filter_append_of_sorted fun record : LogRecord Gid =>
    log.area entry record.start
  exact wellFormed.starts_sorted.imp fun before =>
    log.area_mono entry before

/-- The records from a position on are those of its area from there on. -/
theorem beginRead_eq
    (wellFormed : log.WellFormed) {record : LogRecord Gid}
    {records : List (LogRecord Gid)}
    (isArea : log.inArea entry area = record :: records) :
    log.beginRead record.start =
      log.inArea entry area ++ log.allBehind entry area := by
  have inArea : record ∈ log.inArea entry area := by
    rw [isArea]
    exact List.mem_cons_self
  obtain ⟨-, areaEq⟩ := log.mem_inArea.mp inArea
  unfold Log.beginRead
  rw [wellFormed.records_eq entry area, List.dropWhile_append_of_pos, isArea]
  · apply List.dropWhile_cons_of_neg
    rw [decide_eq_true_eq]
    exact Nat.lt_irrefl _
  · intro other isOther
    simp only [List.mem_filter, decide_eq_true_eq] at isOther ⊢
    by_contra notBefore
    have later := log.area_mono entry (Nat.le_of_not_lt notBefore)
    omega

/-- What is in an area lies before what is behind it. -/
theorem endPtr_le_of_area
    (wellFormed : log.WellFormed) {record behind : LogRecord Gid}
    (inArea : record ∈ log.inArea entry area)
    (isBehind : behind ∈ log.allBehind entry area) :
    record.endPtr ≤ behind.start := by
  have ordered := wellFormed.ordered
  rw [wellFormed.records_eq entry area, List.pairwise_append,
    List.pairwise_append] at ordered
  exact ordered.2.1.2.2 record inArea behind isBehind

theorem inArea_ordered (wellFormed : log.WellFormed) (entry area : ℕ) :
    (log.inArea entry area).Pairwise fun first second =>
      first.endPtr ≤ second.start :=
  wellFormed.ordered.sublist List.filter_sublist

theorem allBehind_ordered (wellFormed : log.WellFormed) (entry area : ℕ) :
    (log.allBehind entry area).Pairwise fun first second =>
      first.endPtr ≤ second.start :=
  wellFormed.ordered.sublist List.filter_sublist

theorem inArea_positive (wellFormed : log.WellFormed) :
    ∀ record ∈ log.inArea entry area, record.start < record.endPtr :=
  fun record inArea =>
    wellFormed.record_nonempty record (log.mem_inArea.mp inArea).1

/-- What is read with a segment: its records, and the one behind it unless a
record ends where that begins. -/
theorem readUntil_area
    (wellFormed : log.WellFormed)
    {record behind : LogRecord Gid} {records others : List (LogRecord Gid)}
    (isArea : log.inArea entry area = record :: records)
    (isBehind : log.allBehind entry area = behind :: others) :
    readUntil behind.start (log.beginRead record.start) =
      log.inArea entry area ++
        if ∃ before ∈ log.records, before.endPtr = behind.start then []
        else [behind] := by
  have behindMem : behind ∈ log.allBehind entry area := by
    rw [isBehind]
    exact List.mem_cons_self
  obtain ⟨behindRecord, behindArea⟩ := log.mem_allBehind.mp behindMem
  have behindPositive := wellFormed.record_nonempty behind behindRecord
  have same : (∃ before ∈ log.records, before.endPtr = behind.start) ↔
      ∃ before ∈ log.inArea entry area, before.endPtr = behind.start := by
    constructor
    · rintro ⟨before, isRecord, ends⟩
      refine ⟨before, ?_, ends⟩
      have positive := wellFormed.record_nonempty before isRecord
      have recordMem : record ∈ log.inArea entry area := by
        rw [isArea]
        exact List.mem_cons_self
      obtain ⟨isFirst, firstArea⟩ := log.mem_inArea.mp recordMem
      have firstPositive := wellFormed.record_nonempty record isFirst
      have firstBefore := wellFormed.endPtr_le_of_area recordMem behindMem
      -- it is neither behind the area nor before its first record
      have inPart := isRecord
      rw [wellFormed.records_eq entry area] at inPart
      rcases List.mem_append.mp inPart with isEarly | isLate
      · have ordered := wellFormed.ordered
        rw [wellFormed.records_eq entry area, List.pairwise_append] at ordered
        have early := ordered.2.2 before isEarly record
          (List.mem_append_left _ recordMem)
        omega
      · rcases List.mem_append.mp isLate with inArea | isBehindToo
        · exact inArea
        · rw [isBehind] at isBehindToo
          have ordered := wellFormed.allBehind_ordered entry area
          rw [isBehind] at ordered
          rcases List.mem_cons.mp isBehindToo with rfl | isLater
          · omega
          · have late := (List.pairwise_cons.mp ordered).1 before isLater
            omega
    · rintro ⟨before, inArea, ends⟩
      exact ⟨before, (log.mem_inArea.mp inArea).1, ends⟩
  rw [wellFormed.beginRead_eq isArea, isBehind, readUntil_append_cons others
    (by rw [isArea]; exact List.cons_ne_nil _ _) wellFormed.inArea_positive
    (wellFormed.inArea_ordered entry area)
    (fun before inArea => wellFormed.endPtr_le_of_area inArea behindMem)
    behindPositive]
  simp only [same]

end Log.WellFormed

/-! ## From one area to the one before -/

/-- The first record of a segment begins at a position. -/
def Log.IsFirst (log : Log Gid) (lsn : ℕ) : Prop :=
  log.Starts lsn ∧
    ∀ record ∈ log.records,
      record.start / log.geometry.segSize = lsn / log.geometry.segSize →
      lsn ≤ record.start

/-- An area with a record in it, and the record behind it. -/
structure Log.Between (log : Log Gid) (entry area first behind : ℕ) :
    Prop where
  isFirst : ∃ record records,
    log.inArea entry area = record :: records ∧ record.start = first
  isBehind : ∃ record records,
    log.allBehind entry area = record :: records ∧ record.start = behind

namespace Log.WellFormed

variable {log : Log Gid} {entry area lsn : ℕ}

/-- The first of the records with a property that is kept by later ones. -/
theorem exists_cons_of_first
    (wellFormed : log.WellFormed) (isIn : LogRecord Gid → Bool)
    (starts : log.Starts lsn)
    (here : ∀ record ∈ log.records, record.start = lsn → isIn record = true)
    (least : ∀ record ∈ log.records, isIn record = true →
      lsn ≤ record.start) :
    ∃ record records, log.records.filter isIn = record :: records ∧
      record.start = lsn := by
  obtain ⟨found, isFound, isLsn⟩ := starts
  have isMember : found ∈ log.records.filter isIn :=
    List.mem_filter.mpr ⟨isFound, here found isFound isLsn⟩
  cases whole : log.records.filter isIn with
  | nil =>
      rw [whole] at isMember
      cases isMember
  | cons record records =>
      have isFirst : record ∈ log.records.filter isIn := by
        rw [whole]
        exact List.mem_cons_self
      obtain ⟨isRecord, recordIn⟩ := List.mem_filter.mp isFirst
      have atLeast := least record isRecord recordIn
      have sorted := wellFormed.starts_sorted.sublist
        (List.filter_sublist (p := isIn))
      rw [whole] at sorted isMember
      refine ⟨record, records, rfl, ?_⟩
      rcases List.mem_cons.mp isMember with rfl | isLater
      · exact isLsn
      · have later := (List.pairwise_cons.mp sorted).1 found isLater
        omega

theorem findNextRecord_of_isFirst
    (wellFormed : log.WellFormed) (isFirst : log.IsFirst lsn) :
    log.findNextRecord (log.segmentStart (lsn / log.geometry.segSize)) =
      some lsn := by
  rw [wellFormed.findNextRecord_segmentStart]
  refine ⟨isFirst.1, Nat.le_refl _, ?_⟩
  rintro start ⟨record, isRecord, rfl⟩ later
  rcases Nat.eq_or_lt_of_le later with same | after
  · exact isFirst.2 record isRecord same.symm
  · exact Nat.le_of_lt (Nat.lt_of_div_lt_div after)

/-- The search from the beginning of a segment in which a record begins stays in
the segment. -/
theorem exists_findNextRecord
    (wellFormed : log.WellFormed) {segno : ℕ} {record : LogRecord Gid}
    (isRecord : record ∈ log.records)
    (begins : record.start / log.geometry.segSize = segno) :
    ∃ first, log.findNextRecord (log.segmentStart segno) = some first ∧
      first / log.geometry.segSize = segno := by
  have reaches : log.segmentStart segno ≤ record.start := by
    rw [wellFormed.segmentStart_le_iff ⟨record, isRecord, rfl⟩]
    exact Nat.le_of_eq begins.symm
  cases found : log.findNextRecord (log.segmentStart segno) with
  | none =>
      rw [Log.findNextRecord, Option.map_eq_none_iff,
        List.find?_eq_none] at found
      exact absurd reaches (by simpa using found record isRecord)
  | some first =>
      obtain ⟨-, atLeast, least⟩ :=
        wellFormed.findNextRecord_segmentStart.mp found
      have atMost := Nat.div_le_div_right (c := log.geometry.segSize)
        (least record.start ⟨record, isRecord, rfl⟩
          (Nat.le_of_eq begins.symm))
      refine ⟨first, rfl, ?_⟩
      omega

theorem isFirst_of_findNextRecord
    (wellFormed : log.WellFormed) {segno found : ℕ}
    (isFound : log.findNextRecord (log.segmentStart segno) = some found)
    (begins : found / log.geometry.segSize = segno) : log.IsFirst found := by
  obtain ⟨starts, -, least⟩ := wellFormed.findNextRecord_segmentStart.mp isFound
  refine ⟨starts, ?_⟩
  intro record isRecord same
  exact least record.start ⟨record, isRecord, rfl⟩
    (Nat.le_of_eq (begins.symm.trans same.symm))

section First

variable (isFirst : log.IsFirst lsn) (atMost : lsn ≤ entry)
variable (isBefore : area + 1 = lsn / log.geometry.segSize)

include isFirst isBefore in
theorem le_of_isFirst {record : LogRecord Gid}
    (isRecord : record ∈ log.records)
    (behind : area < record.start / log.geometry.segSize) :
    lsn ≤ record.start := by
  rcases Nat.eq_or_lt_of_le (Nat.succ_le_of_lt behind) with same | after
  · exact isFirst.2 record isRecord (same.symm.trans isBefore)
  · apply Nat.le_of_lt (Nat.lt_of_div_lt_div (c := log.geometry.segSize) _)
    omega

include isFirst isBefore in
/-- The scan goes back from a record behind the first two segments. -/
theorem reached_before
    (late : log.geometry.twoSegments < lsn) (retained : log.removed < area) :
    log.Reached entry area := by
  refine Or.inr ⟨retained, ?_⟩
  intro record isRecord behind
  exact Nat.lt_of_lt_of_le late (le_of_isFirst isFirst isBefore isRecord behind)

include isFirst atMost isBefore in
/-- What lies behind the segment before begins with the first record. -/
theorem allBehind_before (wellFormed : log.WellFormed) :
    ∃ record records, log.allBehind entry area = record :: records ∧
      record.start = lsn := by
  apply wellFormed.exists_cons_of_first _ isFirst.1
  · intro record _ isHere
    rw [decide_eq_true_eq, isHere]
    rcases Nat.lt_or_eq_of_le atMost with early | isEntry
    · rw [log.area_of_lt early]
      omega
    · have behind := log.area_of_le (Nat.le_of_eq isEntry.symm)
      rw [isEntry] at behind isBefore ⊢
      omega
  · intro record isRecord behind
    rw [decide_eq_true_eq] at behind
    rcases Nat.lt_or_ge record.start entry with early | late
    · rw [log.area_of_lt early] at behind
      exact le_of_isFirst isFirst isBefore isRecord behind
    · exact atMost.trans late

include isFirst in
/-- What lies in a segment before the entry begins with its first record. -/
theorem inArea_of_isFirst
    (wellFormed : log.WellFormed) (before : lsn < entry) :
    ∃ record records,
      log.inArea entry (lsn / log.geometry.segSize) = record :: records ∧
        record.start = lsn := by
  apply wellFormed.exists_cons_of_first _ isFirst.1
  · intro record _ isHere
    rw [decide_eq_true_eq, isHere, log.area_of_lt before]
  · intro record isRecord inArea
    rw [decide_eq_true_eq] at inArea
    rcases Nat.lt_or_ge record.start entry with early | late
    · rw [log.area_of_lt early] at inArea
      exact isFirst.2 record isRecord inArea
    · exact Nat.le_of_lt (Nat.lt_of_lt_of_le before late)

include atMost isBefore in
/-- Nothing lies in a spanned segment. -/
theorem inArea_of_spanned (spanned : log.Spanned lsn) :
    log.inArea entry area = [] := by
  have segments := Nat.div_le_div_right (c := log.geometry.segSize) atMost
  apply List.filter_eq_nil_iff.mpr
  intro record isRecord
  rw [decide_eq_true_eq]
  intro inArea
  rcases Nat.lt_or_ge record.start entry with early | late
  · rw [log.area_of_lt early] at inArea
    refine spanned.2.2.2 record isRecord ?_
    omega
  · rw [log.area_of_le late] at inArea
    omega

include isFirst in
/-- The segment of the entry is empty if the entry is its first record. -/
theorem inArea_of_entry :
    log.inArea lsn (lsn / log.geometry.segSize) = [] := by
  apply List.filter_eq_nil_iff.mpr
  intro record isRecord
  rw [decide_eq_true_eq]
  intro inArea
  rcases Nat.lt_or_ge record.start lsn with early | late
  · rw [log.area_of_lt early] at inArea
    exact absurd (isFirst.2 record isRecord inArea) (Nat.not_le_of_lt early)
  · rw [log.area_of_le late] at inArea
    omega

include isFirst atMost in
/-- From the first record of a segment the scan stops, stays, or goes to the
segment before. -/
theorem previous_isFirst (wellFormed : log.WellFormed) :
    (log.previous lsn = none ∧
        ∀ area < lsn / log.geometry.segSize, ¬ log.Reached entry area) ∨
      log.Spanned lsn ∨
      ∃ first, log.previous lsn = some first ∧ log.IsFirst first ∧
        first < lsn ∧
        first / log.geometry.segSize + 1 = lsn / log.geometry.segSize ∧
        log.Reached entry (first / log.geometry.segSize) ∧
        log.Between entry (first / log.geometry.segSize) first lsn := by
  obtain ⟨record, isRecord, isLsn⟩ := isFirst.1
  have segments := Nat.div_le_div_right (c := log.geometry.segSize) atMost
  unfold Log.previous
  rw [if_pos (wellFormed.findNextRecord_of_isFirst isFirst)]
  split
  · next early =>
      refine Or.inl ⟨rfl, ?_⟩
      rintro area below (last | ⟨-, behind⟩)
      · omega
      · have late := behind record isRecord (by rw [isLsn]; exact below)
        omega
  · next notEarly =>
      split
      · next removed =>
          refine Or.inl ⟨rfl, ?_⟩
          rintro area below (last | ⟨retained, -⟩)
          · omega
          · omega
      · next retained =>
          have late := Nat.lt_of_not_le notEarly
          have kept := Nat.lt_of_not_le retained
          refine Or.inr ?_
          by_cases spanned : log.Spanned lsn
          · exact Or.inl spanned
          -- a record begins in the segment before
          have begins : ∃ other ∈ log.records,
              other.start / log.geometry.segSize =
                lsn / log.geometry.segSize - 1 := by
            by_contra noneBegins
            refine spanned ⟨isFirst.2, late, kept, ?_⟩
            intro other isOther same
            exact noneBegins ⟨other, isOther, same⟩
          obtain ⟨other, isOther, same⟩ := begins
          obtain ⟨first, isFound, inSegment⟩ :=
            wellFormed.exists_findNextRecord isOther same
          have firstBefore : first < lsn := by
            apply Nat.lt_of_div_lt_div (c := log.geometry.segSize)
            omega
          have isFirstBefore :=
            wellFormed.isFirst_of_findNextRecord isFound inSegment
          have isBefore : first / log.geometry.segSize + 1 =
              lsn / log.geometry.segSize := by
            omega
          refine Or.inr ⟨first, isFound, isFirstBefore, firstBefore, isBefore,
            reached_before isFirst isBefore late (by omega),
            inArea_of_isFirst isFirstBefore wellFormed
              (Nat.lt_of_lt_of_le firstBefore atMost),
            allBehind_before isFirst atMost isBefore wellFormed⟩

end First

/-- The area of the entry begins with it. -/
theorem inArea_last
    (wellFormed : log.WellFormed) (starts : log.Starts entry) :
    ∃ record records,
      log.inArea entry (entry / log.geometry.segSize + 1) =
          record :: records ∧
        record.start = entry := by
  apply wellFormed.exists_cons_of_first _ starts
  · intro record _ isHere
    rw [decide_eq_true_eq, isHere, log.area_of_le (Nat.le_refl _)]
  · intro record isRecord inArea
    rw [decide_eq_true_eq] at inArea
    by_contra notBehind
    have before := Nat.lt_of_not_le notBehind
    have early := Nat.div_le_div_right (c := log.geometry.segSize)
      (Nat.le_of_lt before)
    rw [log.area_of_lt before] at inArea
    omega

/-- What is read first is the area of the entry. -/
theorem readUntil_last
    (wellFormed : log.WellFormed) (starts : log.Starts entry) :
    readUntil log.flush (log.beginRead entry) =
      log.inArea entry (entry / log.geometry.segSize + 1) := by
  obtain ⟨record, records, isArea, rfl⟩ := wellFormed.inArea_last starts
  rw [wellFormed.beginRead_eq isArea, log.allBehind_last, List.append_nil]
  apply readUntil_eq_self wellFormed.inArea_positive
    (wellFormed.inArea_ordered _ _)
  intro other inArea
  exact wellFormed.flushed other (log.mem_inArea.mp inArea).1

/-- The entry is the first record of its segment, or the scan goes on with the
rest of the segment. -/
theorem previous_entry
    (wellFormed : log.WellFormed) (starts : log.Starts entry) :
    log.IsFirst entry ∨
      ∃ first, log.previous entry = some first ∧ log.IsFirst first ∧
        first ≤ entry ∧
        first / log.geometry.segSize = entry / log.geometry.segSize ∧
        log.Between entry (entry / log.geometry.segSize) first entry := by
  obtain ⟨record, isRecord, rfl⟩ := id starts
  obtain ⟨first, isFound, inSegment⟩ :=
    wellFormed.exists_findNextRecord isRecord rfl
  have isFirst := wellFormed.isFirst_of_findNextRecord isFound inSegment
  have atMost := isFirst.2 record isRecord inSegment.symm
  rcases Nat.lt_or_eq_of_le atMost with before | same
  · refine Or.inr ⟨first, ?_, isFirst, atMost, inSegment, ?_, ?_⟩
    · have notFirst : ¬ some first = some record.start := by
        rw [Option.some.injEq]
        exact Nat.ne_of_lt before
      unfold Log.previous
      rw [isFound, if_neg notFirst]
    · rw [← inSegment]
      exact inArea_of_isFirst isFirst wellFormed before
    · apply wellFormed.exists_cons_of_first _ starts
      · intro other _ isHere
        rw [decide_eq_true_eq, isHere, log.area_of_le (Nat.le_refl _)]
        exact Nat.lt_succ_self _
      · intro other _ behind
        rw [decide_eq_true_eq] at behind
        by_contra notBehind
        have early := Nat.lt_of_not_le notBehind
        have segments := Nat.div_le_div_right (c := log.geometry.segSize)
          (Nat.le_of_lt early)
        rw [log.area_of_lt early] at behind
        omega
  · rw [same] at isFirst
    exact Or.inl isFirst

end Log.WellFormed

end Wal
end Multimaster
