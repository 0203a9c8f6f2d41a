import Multimaster.Lib.Scanf
import Multimaster.Message.Defs

/-!
# The persistent state of a transaction

The state of a global transaction is kept with the prepared transaction as a
text, which `serialize_xstate` writes and `deserialize_xstate` reads with
`sscanf`.  `GlobalTxLoadAll` takes every text for which the reader returns zero.

`XID_FMT` is an unsigned decimal number of at most 64 bits.
-/

namespace Multimaster
namespace Gtx

open Message (State Term)
open Text

/-- `XactInfo`. -/
structure XactInfo where
  coordinator : Int32
  xid : UInt64
  genNum : UInt64
  configured : UInt64
  deriving DecidableEq

/-- The two letters of a status. -/
def statusAbbr : GlobalTxStatus → List Char
  | .invalid => ['i', 'n']
  | .preCommitted => ['p', 'c']
  | .preAborted => ['p', 'a']
  | .committed => ['c', 'm']
  | .aborted => ['a', 'b']

/-- `XStateVersion`. -/
def xstateVersion : ℤ := 1

/-- `serialize_xstate`. -/
def serializeXstate (xinfo : XactInfo) (state : State) : List Char :=
  printInt xstateVersion ++ '-' ::
    (printInt xinfo.coordinator.toInt ++ '-' ::
    (numeral 10 xinfo.xid.toNat ++ '-' ::
    (numeral 16 xinfo.genNum.toNat ++ '-' ::
    (numeral 16 xinfo.configured.toNat ++ '-' ::
    (statusAbbr state.status ++ '-' ::
    (printInt state.proposal.ballot.toInt ++ ':' ::
    (printInt state.proposal.nodeId.toInt ++ '-' ::
    (printInt state.accepted.ballot.toInt ++ ':' ::
    printInt state.accepted.nodeId.toInt))))))))

/-- The format of `deserialize_xstate`. -/
def xstateFormat : List Directive :=
  [.skipInt, .literal '-', .int, .literal '-', .unsigned 10, .literal '-',
    .unsigned 16, .literal '-', .unsigned 16, .literal '-', .word 2,
    .literal '-', .int, .literal ':', .int, .literal '-', .int, .literal ':',
    .int]

/-- The status with two letters.  The last one is assumed, and asserted, when it
is none of the others. -/
def statusOf (letters : List Char) : GlobalTxStatus :=
  if letters = ['i', 'n'] then .invalid
  else if letters = ['p', 'c'] then .preCommitted
  else if letters = ['p', 'a'] then .preAborted
  else if letters = ['c', 'm'] then .committed
  else .aborted

/-- What `deserialize_xstate` returns and leaves in its arguments. -/
structure Deserialized where
  result : ℤ
  xinfo : XactInfo
  state : State
  deriving DecidableEq

/-- The fields of `XactInfo` assigned by `sscanf`. -/
def XactInfo.assign (xinfo : XactInfo) (values : List Value) : XactInfo where
  coordinator := intAt values 0 xinfo.coordinator
  xid := unsignedAt values 1 xinfo.xid
  genNum := unsignedAt values 2 xinfo.genNum
  configured := unsignedAt values 3 xinfo.configured

/-- The terms assigned by `sscanf`. -/
def assignTerms (state : State) (values : List Value) : State where
  proposal :=
    { ballot := intAt values 5 state.proposal.ballot
      nodeId := intAt values 6 state.proposal.nodeId }
  accepted :=
    { ballot := intAt values 7 state.accepted.ballot
      nodeId := intAt values 8 state.accepted.nodeId }
  status := state.status

/-- `deserialize_xstate`, with what its arguments point to. -/
def deserializeXstate
    (rule : EofRule) (text : List Char) (xinfo : XactInfo) (state : State) :
    Deserialized :=
  let parsed := scan xstateFormat text
  let assigned := assignTerms state parsed.values
  if parsed.result rule ≠ 9 then
    { result := parsed.result rule
      xinfo := xinfo.assign parsed.values
      state := assigned }
  else
    { result := 0
      xinfo := xinfo.assign parsed.values
      state := { assigned with status := statusOf (wordAt parsed.values 4) } }

/-! ## The round trip -/

/-- The values of a transaction, as `sscanf` assigns them. -/
def xstateValues
    (xinfo : XactInfo) (proposal accepted : Term) (letters : List Char) :
    List Value :=
  [.int xinfo.coordinator, .unsigned xinfo.xid, .unsigned xinfo.genNum,
    .unsigned xinfo.configured, .word letters, .int proposal.ballot,
    .int proposal.nodeId, .int accepted.ballot, .int accepted.nodeId]

/-- All nine fields are assigned, and the letters are taken for a status. -/
theorem deserializeXstate_of_matches
    {text rest : List Char} {xinfo : XactInfo} {proposal accepted : Term}
    {letters : List Char}
    (isMatch : Matches xstateFormat text
      (xstateValues xinfo proposal accepted letters) rest)
    (rule : EofRule) (oldXinfo : XactInfo) (oldState : State) :
    deserializeXstate rule text oldXinfo oldState =
      { result := 0
        xinfo := xinfo
        state :=
          { proposal := proposal
            accepted := accepted
            status := statusOf letters } } := by
  obtain ⟨values, noFailure⟩ := isMatch.scan
  have nine : (scan xstateFormat text).result rule = 9 := by
    simp [Scan.result, Scan.isEof, noFailure, values, xstateValues]
  unfold deserializeXstate
  simp only [nine, ne_eq, not_true, if_false, values]
  rfl

theorem statusOf_statusAbbr (status : GlobalTxStatus) :
    statusOf (statusAbbr status) = status := by
  cases status <;> decide

theorem reads_statusAbbr (status : GlobalTxStatus) (rest : List Char) :
    Reads (.word 2) (statusAbbr status ++ rest) [.word (statusAbbr status)]
      rest := by
  have noSpaces : Spaces [] := fun _ isChar => by cases isChar
  have nonempty : statusAbbr status ≠ [] := by
    cases status <;> decide
  have notSpaces : ∀ char ∈ statusAbbr status, isSpace char = false := by
    cases status <;> simp [statusAbbr, isSpace]
  have two : (statusAbbr status).length = 2 := by
    cases status <;> decide
  have read : ReadsWord 2 ([] ++ (statusAbbr status ++ rest))
      (statusAbbr status) rest :=
    ReadsWord.intro noSpaces nonempty notSpaces (Nat.le_of_eq two)
      (fun shorter => by omega)
  exact Reads.word read

/-- What was written matches the format, field by field. -/
theorem matches_serializeXstate (xinfo : XactInfo) (state : State) :
    Matches xstateFormat (serializeXstate xinfo state)
      (xstateValues xinfo state.proposal state.accepted
        (statusAbbr state.status)) [] := by
  have last : Matches [.int] (printInt state.accepted.nodeId.toInt)
      [.int state.accepted.nodeId] [] := by
    have reads := reads_int state.accepted.nodeId separated_nil
    rw [List.append_nil] at reads
    exact Matches.cons reads (Matches.nil [])
  refine matches_field (reads_skipInt _ (separated_dash _)) ?_
  refine matches_field (reads_int _ (separated_dash _)) ?_
  refine matches_field
    (reads_unsigned (by decide) (by decide) _ (separated_dash _)) ?_
  refine matches_field
    (reads_unsigned (by decide) (by decide) _ (separated_dash _)) ?_
  refine matches_field
    (reads_unsigned (by decide) (by decide) _ (separated_dash _)) ?_
  refine matches_field (reads_statusAbbr _ _) ?_
  refine matches_field (reads_int _ (separated_colon _)) ?_
  refine matches_field (reads_int _ (separated_dash _)) ?_
  exact matches_field (reads_int _ (separated_colon _)) last

/-- What was serialized is deserialized, whatever was in memory before. -/
theorem deserialize_serialize_xstate
    (rule : EofRule) (xinfo oldXinfo : XactInfo) (state oldState : State) :
    deserializeXstate rule (serializeXstate xinfo state) oldXinfo oldState =
      { result := 0
        xinfo := xinfo
        state := state } := by
  rw [deserializeXstate_of_matches (matches_serializeXstate xinfo state),
    statusOf_statusAbbr]

/-! ## Texts that were not written by `serialize_xstate` -/

/-- The text names all nine fields, and these are the fields. -/
def Names (text : List Char) (xinfo : XactInfo) (state : State) : Prop :=
  ∃ rest, Matches xstateFormat text
    (xstateValues xinfo state.proposal state.accepted (statusAbbr state.status))
    rest

/-- The text begins with two numbers, the second of which is assigned. -/
def BeginsWithCoordinator (text : List Char) : Prop :=
  ∃ values rest, Matches [.skipInt, .literal '-', .int] text values rest

/-- The text ends where `sscanf` returns `EOF`: it has nothing but spaces, or, as
the GNU library has it, it ends before the second number. -/
def EndsEarly (rule : EofRule) (text : List Char) : Prop :=
  Spaces text ∨
    (rule = .beforeAssignment ∧
      ((∃ values, Matches [.skipInt] text values []) ∨
        ∃ values rest, Matches [.skipInt, .literal '-'] text values rest ∧
          Spaces rest))

/-- When the text has all nine fields, the letters are those of a status. -/
def KnownStatus (text : List Char) : Prop :=
  ∀ xinfo proposal accepted letters rest,
    Matches xstateFormat text (xstateValues xinfo proposal accepted letters)
      rest →
    ∃ status, letters = statusAbbr status

theorem sensible_xstateFormat :
    ∀ directive ∈ xstateFormat, directive.Sensible := by
  simp [xstateFormat, Directive.Sensible]

/-- The values that a match of the whole format assigns. -/
theorem exists_xstateValues
    {text rest : List Char} {values : List Value}
    (isMatch : Matches xstateFormat text values rest) :
    ∃ xinfo proposal accepted letters,
      values = xstateValues xinfo proposal accepted letters := by
  have kinds := isMatch.kinds
  match values, kinds with
  | [.int coordinator, .unsigned xid, .unsigned genNum, .unsigned configured,
      .word letters, .int proposalBallot, .int proposalNodeId,
      .int acceptedBallot, .int acceptedNodeId], _ =>
      exact ⟨⟨coordinator, xid, genNum, configured⟩,
        ⟨proposalBallot, proposalNodeId⟩, ⟨acceptedBallot, acceptedNodeId⟩,
        letters, rfl⟩

/-- The number that is skipped, and what is left behind it. -/
theorem matches_skipInt
    {text middle : List Char} {number : Number}
    (taken : takeNumber 10 text = .ok (number, middle)) :
    Matches [.skipInt] text [] middle :=
  Matches.cons (Reads.skipInt (readsNumber_of_takeNumber taken))
    (Matches.nil middle)

theorem takeNumber_of_matches
    {format : List Directive} {text rest : List Char} {values : List Value}
    (isMatch : Matches (.skipInt :: format) text values rest) :
    ∃ number middle later, takeNumber 10 text = .ok (number, middle) ∧
      Matches format middle later rest := by
  cases isMatch with
  | cons reads onward =>
      cases reads with
      | skipInt reads => exact ⟨_, _, _, reads.takeNumber, onward⟩

theorem eq_cons_of_matches_literal
    {format : List Directive} {char : Char} {text rest : List Char}
    {values : List Value}
    (isMatch : Matches (.literal char :: format) text values rest) :
    ∃ middle, text = char :: middle ∧ Matches format middle values rest := by
  cases isMatch with
  | cons reads onward =>
      cases reads with
      | literal => exact ⟨_, rfl, onward⟩

theorem eq_of_matches_nil
    {text rest : List Char} {values : List Value}
    (isMatch : Matches [] text values rest) : rest = text := by
  cases isMatch with
  | nil => rfl

/-- Where a text ends early that begins with a number. -/
theorem endsEarly_of_number
    {rule : EofRule} {text middle : List Char} {number : Number}
    (taken : takeNumber 10 text = .ok (number, middle)) :
    EndsEarly rule text ↔ rule = .beforeAssignment ∧
      (middle = [] ∨ ∃ later, middle = '-' :: later ∧ Spaces later) := by
  constructor
  · rintro (blank | ⟨isRule, ⟨values, isMatch⟩ |
      ⟨values, rest, isMatch, blank⟩⟩)
    · rw [← skipSpace_eq_nil_iff] at blank
      simp [takeNumber, blank] at taken
    · refine ⟨isRule, Or.inl ?_⟩
      obtain ⟨_, found, _, isTaken, onward⟩ := takeNumber_of_matches isMatch
      rw [taken] at isTaken
      cases isTaken
      exact (eq_of_matches_nil onward).symm
    · refine ⟨isRule, Or.inr ?_⟩
      obtain ⟨_, found, _, isTaken, onward⟩ := takeNumber_of_matches isMatch
      rw [taken] at isTaken
      cases isTaken
      obtain ⟨later, isCons, last⟩ := eq_cons_of_matches_literal onward
      rw [eq_of_matches_nil last] at blank
      exact ⟨later, isCons, blank⟩
  · rintro ⟨isRule, rfl | ⟨later, rfl, blank⟩⟩
    · exact Or.inr ⟨isRule, Or.inl ⟨_, matches_skipInt taken⟩⟩
    · refine Or.inr ⟨isRule, Or.inr ⟨[], later, ?_, blank⟩⟩
      exact Matches.cons (Reads.skipInt (readsNumber_of_takeNumber taken))
        (Matches.cons (Reads.literal '-' later) (Matches.nil later))

/-- `sscanf` returns zero or `EOF` for a text that does not begin with the
coordinator. -/
theorem scan_of_not_begins
    (rule : EofRule) {text : List Char}
    (notBegins : ¬ BeginsWithCoordinator text) :
    (scan xstateFormat text).values = [] ∧
      ((scan xstateFormat text).isEof rule = true ↔ EndsEarly rule text) := by
  cases taken : takeNumber 10 text with
  | error failure =>
      have isScan : scan xstateFormat text = ⟨[], false, some failure⟩ := by
        simp [xstateFormat, scan, Directive.take, taken]
      have noMatch : ∀ format values rest,
          ¬ Matches (.skipInt :: format) text values rest := by
        intro format values rest isMatch
        obtain ⟨_, _, _, isTaken, _⟩ := takeNumber_of_matches isMatch
        rw [taken] at isTaken
        cases isTaken
      rw [isScan]
      refine ⟨rfl, ?_⟩
      have atEnd := takeNumber_error taken
      simp only [Scan.isEof, EndsEarly, noMatch]
      simp [atEnd]
  | ok result =>
      obtain ⟨number, middle⟩ := result
      rw [endsEarly_of_number taken]
      cases middle with
      | nil =>
          have isScan : scan xstateFormat text = ⟨[], true, some .input⟩ := by
            simp [xstateFormat, scan, Directive.take, Directive.isConversion,
              taken]
          rw [isScan]
          refine ⟨rfl, ?_⟩
          cases rule <;> simp [Scan.isEof]
      | cons char later =>
          by_cases isDash : char = '-'
          · subst isDash
            cases second : takeNumber 10 later with
            | error failure =>
                have isScan : scan xstateFormat text =
                    ⟨[], true, some failure⟩ := by
                  simp [xstateFormat, scan, Directive.take,
                    Directive.isConversion, taken, second]
                rw [isScan]
                refine ⟨rfl, ?_⟩
                have atEnd := takeNumber_error second
                cases rule <;> simp [Scan.isEof, atEnd]
            | ok found =>
                obtain ⟨coordinator, rest⟩ := found
                refine absurd ⟨[.int coordinator.toInt32], rest, ?_⟩ notBegins
                exact Matches.cons
                  (Reads.skipInt (readsNumber_of_takeNumber taken))
                  (Matches.cons (Reads.literal '-' later) (Matches.cons
                    (Reads.int (readsNumber_of_takeNumber second))
                    (Matches.nil rest)))
          · have isScan : scan xstateFormat text =
                ⟨[], true, some .matching⟩ := by
              simp [xstateFormat, scan, Directive.take,
                Directive.isConversion, taken, isDash]
            rw [isScan]
            refine ⟨rfl, ?_⟩
            simp [Scan.isEof, isDash]

/-- A text that begins with the coordinator gets it assigned. -/
theorem values_ne_nil_of_begins
    {text : List Char} (begins : BeginsWithCoordinator text) :
    (scan xstateFormat text).values ≠ [] := by
  obtain ⟨values, rest, isMatch⟩ := begins
  obtain ⟨number, middle, later, first, onward⟩ := takeNumber_of_matches isMatch
  obtain ⟨behind, isCons, last⟩ := eq_cons_of_matches_literal onward
  rw [isCons] at first
  cases last with
  | cons reads _ =>
      cases reads with
      | int reads => simp [xstateFormat, scan, Directive.take, first,
          reads.takeNumber]

/-- When `deserialize_xstate` returns zero: all nine fields are there, or
nothing was assigned although the text does not end early. -/
theorem result_eq_zero_iff
    (rule : EofRule) (text : List Char) (xinfo : XactInfo) (state : State) :
    (deserializeXstate rule text xinfo state).result = 0 ↔
      (∃ found proposal accepted letters rest, Matches xstateFormat text
        (xstateValues found proposal accepted letters) rest) ∨
      (¬ BeginsWithCoordinator text ∧ ¬ EndsEarly rule text) := by
  by_cases noFailure : (scan xstateFormat text).failure = none
  · obtain ⟨rest, isMatch⟩ := matches_of_scan sensible_xstateFormat noFailure
    obtain ⟨found, proposal, accepted, letters, isValues⟩ :=
      exists_xstateValues isMatch
    rw [isValues] at isMatch
    have full := deserializeXstate_of_matches isMatch rule xinfo state
    rw [full]
    exact ⟨fun _ => Or.inl ⟨found, proposal, accepted, letters, rest, isMatch⟩,
      fun _ => rfl⟩
  · have noMatch : ¬ ∃ found proposal accepted letters rest,
        Matches xstateFormat text
          (xstateValues found proposal accepted letters) rest := by
      rintro ⟨found, proposal, accepted, letters, rest, isMatch⟩
      exact noFailure isMatch.scan.2
    have fewer : (scan xstateFormat text).values.length < 9 :=
      length_values_lt_of_failure xstateFormat.dropLast .int (by decide)
        sensible_xstateFormat noFailure
    have notNine : (scan xstateFormat text).result rule ≠ 9 := by
      unfold Scan.result
      split <;> omega
    have sameResult : (deserializeXstate rule text xinfo state).result =
        (scan xstateFormat text).result rule := by
      simp only [deserializeXstate, if_pos notNine]
    rw [sameResult]
    simp only [noMatch, false_or]
    by_cases begins : BeginsWithCoordinator text
    · have someAssigned :=
        List.length_pos_of_ne_nil (values_ne_nil_of_begins begins)
      have notZero : (scan xstateFormat text).result rule ≠ 0 := by
        unfold Scan.result
        split <;> omega
      simp [notZero, begins]
    · obtain ⟨noneAssigned, isEof⟩ := scan_of_not_begins rule begins
      rw [← isEof]
      simp [Scan.result, noneAssigned, begins]

/-! ## Loading -/

/-- `PreparedTransaction`. -/
structure PreparedTransaction where
  gid : List Char
  state3pc : List Char
  deriving DecidableEq

/-- An entry of the table after `GlobalTxLoadAll`. -/
structure LoadedTx where
  pxact : PreparedTransaction
  xinfo : XactInfo
  state : State
  prepared : Bool
  orphaned : Bool
  resolverStage : GlobalTxResolvingStage

/-- The loop of `GlobalTxLoadAll`, with what was in the memory of the new
entries. -/
def loadPxacts
    (rule : EofRule) (memory : PreparedTransaction → XactInfo × State) :
    List PreparedTransaction → List LoadedTx
  | [] => []
  | pxact :: rest =>
      let deserialized := deserializeXstate rule pxact.state3pc
        (memory pxact).1 (memory pxact).2
      if deserialized.result ≠ 0 then loadPxacts rule memory rest
      else
        { pxact := pxact
          xinfo := deserialized.xinfo
          state := deserialized.state
          prepared := true
          orphaned := true
          resolverStage := .awaitStatus } :: loadPxacts rule memory rest

/-- The condition on a text: it begins with the coordinator or ends early, and
when it has all nine fields, its status is known. -/
def Recognizable (rule : EofRule) (text : List Char) : Prop :=
  (BeginsWithCoordinator text ∨ EndsEarly rule text) ∧ KnownStatus text

/-- `deserialize_xstate` returns zero for a text only when the text names what is
then in its arguments. -/
def Trusted (rule : EofRule) (text : List Char) : Prop :=
  ∀ xinfo state, (deserializeXstate rule text xinfo state).result = 0 →
    Names text (deserializeXstate rule text xinfo state).xinfo
      (deserializeXstate rule text xinfo state).state

theorem begins_of_matches
    {text rest : List Char} {values : List Value}
    (isMatch : Matches xstateFormat text values rest) :
    BeginsWithCoordinator text := by
  by_contra notBegins
  have noneAssigned :=
    (scan_of_not_begins .beforeConversion notBegins).1
  obtain ⟨found, proposal, accepted, letters, isValues⟩ :=
    exists_xstateValues isMatch
  rw [isMatch.scan.1, isValues] at noneAssigned
  cases noneAssigned

theorem eq_of_xstateValues
    {first second : XactInfo} {firstProposal secondProposal : Term}
    {firstAccepted secondAccepted : Term} {firstLetters letters : List Char}
    (same : xstateValues first firstProposal firstAccepted firstLetters =
      xstateValues second secondProposal secondAccepted letters) :
    firstLetters = letters := by
  simp only [xstateValues, List.cons.injEq, Value.word.injEq] at same
  exact same.2.2.2.2.1

theorem trusted_iff_recognizable (rule : EofRule) (text : List Char) :
    Trusted rule text ↔ Recognizable rule text := by
  constructor
  · intro trusted
    have some := trusted ⟨0, 0, 0, 0⟩ ⟨⟨0, 0⟩, ⟨0, 0⟩, .invalid⟩
    refine ⟨?_, ?_⟩
    · by_contra notEither
      rw [not_or] at notEither
      have isZero := (result_eq_zero_iff rule text ⟨0, 0, 0, 0⟩
        ⟨⟨0, 0⟩, ⟨0, 0⟩, .invalid⟩).mpr (Or.inr notEither)
      obtain ⟨rest, isMatch⟩ := some isZero
      exact notEither.1 (begins_of_matches isMatch)
    · intro xinfo proposal accepted letters rest isMatch
      have full := deserializeXstate_of_matches isMatch rule ⟨0, 0, 0, 0⟩
        ⟨⟨0, 0⟩, ⟨0, 0⟩, .invalid⟩
      rw [full] at some
      obtain ⟨other, named⟩ := some rfl
      have same := isMatch.scan.1.symm.trans named.scan.1
      exact ⟨statusOf letters, eq_of_xstateValues same⟩
  · rintro ⟨either, known⟩ xinfo state isZero
    rcases (result_eq_zero_iff rule text xinfo state).mp isZero with
      ⟨found, proposal, accepted, letters, rest, isMatch⟩ | ⟨notBegins, notEnds⟩
    · rw [deserializeXstate_of_matches isMatch]
      obtain ⟨status, isAbbr⟩ := known _ _ _ _ _ isMatch
      refine ⟨rest, ?_⟩
      simp only
      rw [isAbbr, statusOf_statusAbbr, ← isAbbr]
      exact isMatch
    · exact absurd either (by simp [notBegins, notEnds])

/-- What is loaded comes from a text for which zero is returned. -/
theorem mem_loadPxacts
    {rule : EofRule} {memory : PreparedTransaction → XactInfo × State}
    {pxacts : List PreparedTransaction} {loaded : LoadedTx}
    (isLoaded : loaded ∈ loadPxacts rule memory pxacts) :
    loaded.pxact ∈ pxacts ∧
      ∃ xinfo state,
        (deserializeXstate rule loaded.pxact.state3pc xinfo state).result = 0 ∧
          loaded.xinfo =
            (deserializeXstate rule loaded.pxact.state3pc xinfo state).xinfo ∧
          loaded.state =
            (deserializeXstate rule loaded.pxact.state3pc xinfo state).state := by
  induction pxacts with
  | nil => cases isLoaded
  | cons pxact rest inductionHypothesis =>
      simp only [loadPxacts] at isLoaded
      split at isLoaded
      · obtain ⟨isPxact, found⟩ := inductionHypothesis isLoaded
        exact ⟨List.mem_cons_of_mem _ isPxact, found⟩
      · next isZero =>
          rcases List.mem_cons.mp isLoaded with rfl | later
          · exact ⟨List.mem_cons_self, _, _, not_not.mp isZero, rfl, rfl⟩
          · obtain ⟨isPxact, found⟩ := inductionHypothesis later
            exact ⟨List.mem_cons_of_mem _ isPxact, found⟩

/-- A transaction is loaded when zero is returned for its text. -/
theorem exists_loaded
    {rule : EofRule} (memory : PreparedTransaction → XactInfo × State)
    {pxacts : List PreparedTransaction} {pxact : PreparedTransaction}
    (isPxact : pxact ∈ pxacts)
    (isZero : (deserializeXstate rule pxact.state3pc (memory pxact).1
      (memory pxact).2).result = 0) :
    ∃ loaded ∈ loadPxacts rule memory pxacts, loaded.pxact = pxact ∧
      loaded.xinfo = (deserializeXstate rule pxact.state3pc (memory pxact).1
        (memory pxact).2).xinfo ∧
      loaded.state = (deserializeXstate rule pxact.state3pc (memory pxact).1
        (memory pxact).2).state := by
  induction pxacts with
  | nil => cases isPxact
  | cons first rest inductionHypothesis =>
      simp only [loadPxacts]
      rcases List.mem_cons.mp isPxact with rfl | later
      · rw [if_neg (not_not.mpr isZero)]
        exact ⟨_, List.mem_cons_self, rfl, rfl, rfl⟩
      · obtain ⟨loaded, isLoaded, fields⟩ := inductionHypothesis later
        split
        · exact ⟨loaded, isLoaded, fields⟩
        · exact ⟨loaded, List.mem_cons_of_mem _ isLoaded, fields⟩

/-- Zero is returned only for texts with nine fields and a known status exactly
for texts that begin with the coordinator or end early and have no unknown
status; and everything in the table after loading is named by its text exactly
when all texts are such. -/
theorem xstate_trusted_iff (rule : EofRule) :
    (∀ text, Trusted rule text ↔ Recognizable rule text) ∧
      ∀ pxacts : List PreparedTransaction,
        (∀ memory, ∀ loaded ∈ loadPxacts rule memory pxacts,
          Names loaded.pxact.state3pc loaded.xinfo loaded.state) ↔
          ∀ pxact ∈ pxacts, Recognizable rule pxact.state3pc := by
  refine ⟨trusted_iff_recognizable rule, ?_⟩
  intro pxacts
  constructor
  · intro allNamed pxact isPxact
    rw [← trusted_iff_recognizable]
    intro xinfo state isZero
    obtain ⟨loaded, isLoaded, rfl, isXinfo, isState⟩ :=
      exists_loaded (fun _ => (xinfo, state)) isPxact isZero
    have named := allNamed _ loaded isLoaded
    rwa [isXinfo, isState] at named
  · intro recognizable memory loaded isLoaded
    obtain ⟨isPxact, xinfo, state, isZero, isXinfo, isState⟩ :=
      mem_loadPxacts isLoaded
    have trusted := (trusted_iff_recognizable rule _).mpr
      (recognizable _ isPxact)
    rw [isXinfo, isState]
    exact trusted xinfo state isZero

/-- Some text without a number. -/
def noNumber : List Char := ['n', 'o', 'n', 'e']

/-- A text with an unknown status. -/
def unknownStatus : List Char :=
  ['1', '-', '1', '-', '7', '-', '1', '-', '7', '-', 'z', 'z', '-', '1', ':',
    '0', '-', '1', ':', '0']

/-- For the first text zero is returned although nothing is assigned; the second
one is taken for an aborted transaction. -/
theorem xstate_taken_for_valid :
    (∃ xinfo state,
      deserializeXstate .beforeAssignment noNumber xinfo state =
          ⟨0, xinfo, state⟩ ∧
        ¬ Names noNumber xinfo state) ∧
      ∃ xinfo state,
        (deserializeXstate .beforeAssignment unknownStatus xinfo state).result =
            0 ∧
          (deserializeXstate .beforeAssignment unknownStatus xinfo
            state).state.status = .aborted ∧
          ¬ Names unknownStatus
            (deserializeXstate .beforeAssignment unknownStatus xinfo state).xinfo
            (deserializeXstate .beforeAssignment unknownStatus xinfo
              state).state := by
  refine ⟨⟨⟨0, 0, 0, 0⟩, ⟨⟨0, 0⟩, ⟨0, 0⟩, .invalid⟩, by decide, ?_⟩,
    ⟨⟨0, 0, 0, 0⟩, ⟨⟨0, 0⟩, ⟨0, 0⟩, .invalid⟩, by decide, by decide, ?_⟩⟩
  · rintro ⟨rest, isMatch⟩
    have failure : (scan xstateFormat noNumber).failure = some .matching := by
      decide
    rw [isMatch.scan.2] at failure
    cases failure
  · rintro ⟨rest, isMatch⟩
    have letters : (scan xstateFormat unknownStatus).values[4]? =
        some (.word ['z', 'z']) := by
      decide
    rw [isMatch.scan.1] at letters
    revert letters
    decide

end Gtx
end Multimaster
