import Multimaster.Ddl.Defs

/-!
# Every change is sent once

In a transaction whose schema changes fail nowhere but together with it, each
statement that is sent goes out once, with nothing of what it does itself, and
everything outside of such statements goes out as rows.
-/

namespace Multimaster
namespace Ddl

variable {Row : Type} {process : Process}

/-! ## Errors -/

/-- The statement is executed. -/
def Call.admitted (process : Process) (call : Call) : Bool :=
  process.isLogicalReceiver ||
    match call.statement.decide process.isTransactionBlock call.isTopLevel with
    | .refuse | .undefined => false
    | .replicate | .skip | .standalone _ => true

/-- No error leaves this part of a transaction. -/
def Acts.succeeds (process : Process) : Acts Row → Bool
  | .done => true
  | .row _ rest => rest.succeeds process
  | .nextval _ _ rest => rest.succeeds process
  | .utility call inner fails rest =>
      call.admitted process && (inner.succeeds process && !fails) &&
        rest.succeeds process
  | .query _ inner fails rest =>
      (inner.succeeds process && !fails) && rest.succeeds process
  | .subtransaction _ _ rest => rest.succeeds process

namespace Result

variable {result : Result Row} {rest : Option ℕ → Result Row}

theorem andThen_ok :
    (result.andThen rest).ok =
      (result.ok && (rest result.ddlStatement).ok) := by
  unfold andThen
  split
  · next isOk => rw [isOk, Bool.true_and]
  · next failed =>
      rw [Bool.not_eq_true] at failed
      rw [failed, Bool.false_and]

/-- An error ends the transaction. -/
theorem andThen_of_failed (failed : result.ok = false) :
    result.andThen rest = result := by
  rw [andThen, failed]
  rfl

theorem finishUtility_ok : result.finishUtility.ok = result.ok := by
  unfold finishUtility
  split
  · rfl
  · rfl

theorem finishQuery_ok (address : ℕ) :
    (result.finishQuery address).ok = result.ok := by
  unfold finishQuery
  split
  · rfl
  · rfl

/-- A query at another address leaves `MtmDDLStatement` alone. -/
theorem finishQuery_of_ne
    {address : ℕ} (different : result.ddlStatement ≠ some address) :
    result.finishQuery address = result := by
  rw [finishQuery, if_neg]
  simp [different]

end Result

theorem Call.run_ok
    {call : Call} {inner : Option ℕ → Result Row} {fails succeeds : Bool}
    (same : ∀ statement, (inner statement).ok = succeeds)
    (statement : Option ℕ) :
    (call.run process inner fails statement).ok =
      (call.admitted process && (succeeds && !fails)) := by
  unfold Call.run Call.admitted
  split
  · next isReceiver =>
      rw [isReceiver, Bool.true_or, Bool.true_and, Result.failing, same]
  · next isSender =>
      rw [Bool.not_eq_true] at isSender
      rw [isSender, Bool.false_or]
      cases call.statement.decide process.isTransactionBlock
        call.isTopLevel with
      | refuse => rfl
      | undefined => rfl
      | replicate =>
          simp only [Bool.true_and]
          split
          · simp only [Result.finishUtility_ok, Result.logFirst,
              Result.failing, same]
          · simp only [Result.failing, same]
      | skip => simp only [Bool.true_and, Result.failing, same]
      | standalone label => simp only [Bool.true_and, Result.failing, same]

theorem Query.run_ok
    {query : Query} {inner : Option ℕ → Result Row} {fails succeeds : Bool}
    (same : ∀ statement, (inner statement).ok = succeeds)
    (statement : Option ℕ) :
    (query.run process inner fails statement).ok = (succeeds && !fails) := by
  unfold Query.run
  split
  · simp only [Result.finishQuery_ok, Result.startQuery, Result.failing, same]
  · simp only [Result.finishQuery_ok, Result.failing, same]

/-- Whether an error is raised does not depend on what is being sent. -/
theorem Acts.run_ok (acts : Acts Row) (statement : Option ℕ) :
    (acts.run process statement).ok = acts.succeeds process := by
  induction acts generalizing statement with
  | done => rfl
  | row written rest rest_ih => exact rest_ih statement
  | nextval seqid next rest rest_ih => exact rest_ih statement
  | utility call inner fails rest inner_ih rest_ih =>
      rw [Acts.run, Result.andThen_ok, Call.run_ok inner_ih, rest_ih]
      rfl
  | query asked inner fails rest inner_ih rest_ih =>
      rw [Acts.run, Result.andThen_ok, Query.run_ok inner_ih, rest_ih]
      rfl
  | subtransaction inner rolledBack rest inner_ih rest_ih =>
      rw [Acts.run, Result.andThen_ok, rest_ih]
      rfl

/-! ## What should be sent -/

/-- The statement is sent when it is not inside another one. -/
def Call.Replicates (process : Process) (call : Call) : Prop :=
  call.statement.decide process.isTransactionBlock call.isTopLevel = .replicate

instance (process : Process) (call : Call) :
    Decidable (call.Replicates process) :=
  inferInstanceAs (Decidable (_ = _))

/-- The text of a statement as it goes out. -/
def Call.message (call : Call) : String := call.gucCtx ++ " " ++ call.text

/-- The text of a query as it goes out. -/
def Query.message (query : Query) : String :=
  query.gucCtx ++ " " ++ query.sourceText

/-- The outermost statements as texts, and the rows outside of them. -/
def Acts.sent (process : Process) : Acts Row → List (Sent Row)
  | .done => []
  | .row written rest => .row written :: rest.sent process
  | .nextval seqid next rest =>
      (if process.monotonicSequences then [.nextval seqid next] else []) ++
        rest.sent process
  | .utility call inner _ rest =>
      (if call.Replicates process then [.ddl call.message]
        else inner.sent process) ++ rest.sent process
  | .query asked inner _ rest =>
      (if asked.remote then [.ddl asked.message]
        else inner.sent process) ++ rest.sent process
  | .subtransaction inner rolledBack rest =>
      (if inner.succeeds process && !rolledBack then inner.sent process
        else []) ++ rest.sent process

/-- All that is written, whatever statement it is inside. -/
def Acts.written (process : Process) : Acts Row → List (Sent Row)
  | .done => []
  | .row written rest => .row written :: rest.written process
  | .nextval seqid next rest =>
      (if process.monotonicSequences then [.nextval seqid next] else []) ++
        rest.written process
  | .utility _ inner _ rest => inner.written process ++ rest.written process
  | .query _ inner _ rest => inner.written process ++ rest.written process
  | .subtransaction inner rolledBack rest =>
      (if inner.succeeds process && !rolledBack then inner.written process
        else []) ++ rest.written process

/-- No query inside is at the address. -/
def Acts.Avoids (address : ℕ) : Acts Row → Prop
  | .done => True
  | .row _ rest => rest.Avoids address
  | .nextval _ _ rest => rest.Avoids address
  | .utility _ inner _ rest => inner.Avoids address ∧ rest.Avoids address
  | .query asked inner _ rest =>
      asked.address ≠ address ∧ inner.Avoids address ∧ rest.Avoids address
  | .subtransaction inner _ rest => inner.Avoids address ∧ rest.Avoids address

/-- Nothing inside a statement or a query is at its address, as both exist at the
same time. -/
def Acts.Live : Acts Row → Prop
  | .done => True
  | .row _ rest => rest.Live
  | .nextval _ _ rest => rest.Live
  | .utility call inner _ rest =>
      inner.Avoids call.address ∧ inner.Live ∧ rest.Live
  | .query asked inner _ rest =>
      inner.Avoids asked.address ∧ inner.Live ∧ rest.Live
  | .subtransaction inner _ rest => inner.Live ∧ rest.Live

/-- The statement is executed and is not sent. -/
def Call.Passes (process : Process) (call : Call) : Prop :=
  call.admitted process = true ∧ ¬call.Replicates process

instance (process : Process) (call : Call) :
    Decidable (call.Passes process) :=
  inferInstanceAs (Decidable (_ ∧ _))

/-- No sent statement fails in a subtransaction, as far as the transaction
comes. -/
def Acts.Clean (process : Process) : Acts Row → Prop
  | .done => True
  | .row _ rest => rest.Clean process
  | .nextval _ _ rest => rest.Clean process
  | .utility call inner fails rest =>
      (call.Passes process → inner.Clean process) ∧
        ((call.admitted process && (inner.succeeds process && !fails)) = true →
          rest.Clean process)
  | .query asked inner fails rest =>
      (asked.remote = false → inner.Clean process) ∧
        ((inner.succeeds process && !fails) = true → rest.Clean process)
  | .subtransaction inner _ rest =>
      inner.Clean process ∧ (inner.run process none).ddlStatement = none ∧
        rest.Clean process

/-! ## Where nothing is sent -/

/-- A row or a position of a sequence. -/
def Logged.IsPlain : Logged Row → Prop
  | .row _ => True
  | .nextval _ _ => True
  | .ddl _ => False
  | .ddlEnd => False

/-- Inside a statement the decoder leaves it out. -/
theorem decode_plain
    {log : List (Logged Row)} (plain : ∀ item ∈ log, item.IsPlain)
    (tail : List (Logged Row)) :
    decode true (log ++ tail) = decode true tail := by
  induction log with
  | nil => rfl
  | cons item rest inductionHypothesis =>
      have isPlain := plain item List.mem_cons_self
      have later := inductionHypothesis
        fun other isOther => plain other (List.mem_cons_of_mem _ isOther)
      cases item with
      | row written => exact later
      | nextval seqid next => exact later
      | ddl text => cases isPlain
      | ddlEnd => cases isPlain

/-- A statement with what it does itself is one message. -/
theorem decode_statement
    {log : List (Logged Row)} (plain : ∀ item ∈ log, item.IsPlain)
    (flag : Bool) (text : String) (tail : List (Logged Row)) :
    decode flag ((.ddl text :: log ++ [.ddlEnd]) ++ tail) =
      .ddl text :: decode false tail := by
  rw [List.append_assoc, List.cons_append, decode, decode_plain plain]
  rfl

theorem plain_append
    {first second : List (Logged Row)} (isFirst : ∀ item ∈ first, item.IsPlain)
    (isSecond : ∀ item ∈ second, item.IsPlain) :
    ∀ item ∈ first ++ second, item.IsPlain := by
  intro item isItem
  rcases List.mem_append.mp isItem with inFirst | inSecond
  · exact isFirst item inFirst
  · exact isSecond item inSecond

theorem plain_nextval (seqid next : ℕ) :
    ∀ item ∈ (mtmSeqNextvalHook process seqid next : List (Logged Row)),
      item.IsPlain := by
  intro item isItem
  unfold mtmSeqNextvalHook at isItem
  split at isItem
  · rw [List.mem_singleton.mp isItem]
    trivial
  · cases isItem

theorem decode_nextval (seqid next : ℕ) (tail : List (Logged Row)) :
    decode false (mtmSeqNextvalHook process seqid next ++ tail) =
      (if process.monotonicSequences then [.nextval seqid next] else []) ++
        decode false tail := by
  unfold mtmSeqNextvalHook
  split
  · rfl
  · rfl

/-- Outside of a statement the log is decoded to this. -/
def Result.DecodesTo (result : Result Row) (sent : List (Sent Row)) : Prop :=
  result.ok = true → ∀ tail,
    decode false (result.log ++ tail) = sent ++ decode false tail

namespace Result.DecodesTo

variable {result : Result Row} {sent later : List (Sent Row)}

theorem of_failed (failed : result.ok = false) : result.DecodesTo sent := by
  intro isOk
  rw [failed] at isOk
  cases isOk

theorem andThen
    {rest : Option ℕ → Result Row} (decoded : result.DecodesTo sent)
    (decodedRest : result.ok = true →
      (rest result.ddlStatement).DecodesTo later) :
    (result.andThen rest).DecodesTo (sent ++ later) := by
  intro bothOk tail
  rw [andThen_ok, Bool.and_eq_true] at bothOk
  obtain ⟨isOk, restOk⟩ := bothOk
  rw [Result.andThen, if_pos isOk]
  simp only [List.append_assoc]
  rw [decoded isOk, decodedRest isOk restOk]

theorem failing (decoded : result.DecodesTo sent) (fails : Bool) :
    (result.failing fails).DecodesTo sent := by
  intro isOk
  rw [Result.failing, Bool.and_eq_true] at isOk
  exact decoded isOk.1

theorem logFirst
    {logged : List (Logged Row)} (decoded : result.DecodesTo later)
    (first : ∀ tail,
      decode false (logged ++ tail) = sent ++ decode false tail) :
    (result.logFirst logged).DecodesTo (sent ++ later) := by
  intro isOk tail
  rw [Result.logFirst, List.append_assoc, first, decoded isOk,
    List.append_assoc]

theorem finishSubtransaction
    (decoded : result.DecodesTo sent) (rolledBack : Bool) :
    (result.finishSubtransaction rolledBack).DecodesTo
      (if result.ok && !rolledBack then sent else []) := by
  intro _ tail
  rw [Result.finishSubtransaction]
  split
  · next kept => exact decoded (Bool.and_eq_true _ _ ▸ kept).1 tail
  · rfl

end Result.DecodesTo

/-- A part of a transaction in which no statement is sent. -/
structure Result.Quiet
    (result : Result Row) (statement : Option ℕ) (written : List (Sent Row)) :
    Prop where
  kept : result.ddlStatement = statement
  plain : ∀ item ∈ result.log, item.IsPlain
  decoded : result.DecodesTo written

namespace Result.Quiet

variable {result : Result Row} {rest : Option ℕ → Result Row}
variable {statement : Option ℕ} {written later : List (Sent Row)}

theorem andThen
    (quiet : result.Quiet statement written)
    (quietRest : (rest statement).Quiet statement later) :
    (result.andThen rest).Quiet statement (written ++ later) := by
  have decoded : (result.andThen rest).DecodesTo (written ++ later) := by
    refine quiet.decoded.andThen fun _ => ?_
    rw [quiet.kept]
    exact quietRest.decoded
  cases isOk : result.ok with
  | true =>
      refine ⟨?_, ?_, decoded⟩
      · rw [Result.andThen, if_pos isOk, quiet.kept]
        exact quietRest.kept
      · rw [Result.andThen, if_pos isOk, quiet.kept]
        exact plain_append quiet.plain quietRest.plain
  | false =>
      rw [andThen_of_failed isOk] at decoded ⊢
      exact ⟨quiet.kept, quiet.plain, decoded⟩

theorem failing
    (quiet : result.Quiet statement written) (fails : Bool) :
    (result.failing fails).Quiet statement written where
  kept := quiet.kept
  plain := quiet.plain
  decoded := quiet.decoded.failing fails

theorem logFirst
    {logged : List (Logged Row)} {first : List (Sent Row)}
    (quiet : result.Quiet statement written)
    (plain : ∀ item ∈ logged, item.IsPlain)
    (decoded : ∀ tail,
      decode false (logged ++ tail) = first ++ decode false tail) :
    (result.logFirst logged).Quiet statement (first ++ written) where
  kept := quiet.kept
  plain := plain_append plain quiet.plain
  decoded := quiet.decoded.logFirst decoded

theorem finishSubtransaction
    (quiet : result.Quiet statement written) (rolledBack : Bool) :
    (result.finishSubtransaction rolledBack).Quiet statement
      (if result.ok && !rolledBack then written else []) := by
  refine ⟨quiet.kept, ?_, quiet.decoded.finishSubtransaction rolledBack⟩
  intro item isItem
  rw [Result.finishSubtransaction] at isItem
  split at isItem
  · exact quiet.plain item isItem
  · cases isItem

end Result.Quiet

/-- Inside a statement that is sent, and in a receiver, nothing is sent. -/
theorem Call.run_quiet
    {call : Call} {inner : Option ℕ → Result Row} {fails : Bool}
    {statement : Option ℕ} {written : List (Sent Row)}
    (off : process.isLogicalReceiver = true ∨ statement ≠ none)
    (quiet : (inner statement).Quiet statement written) :
    (call.run process inner fails statement).Quiet statement written := by
  have nothing :
      (⟨[], statement, false, false⟩ : Result Row).Quiet statement written :=
    { kept := rfl
      plain := fun item isItem => by cases isItem
      decoded := .of_failed rfl }
  unfold Call.run
  split
  · exact quiet.failing fails
  · next sender =>
      split
      · exact nothing
      · exact nothing
      · rcases off with isReceiver | inside
        · exact absurd isReceiver sender
        · rw [if_neg inside]
          exact quiet.failing fails
      · exact quiet.failing fails
      · exact quiet.failing fails

theorem Query.run_quiet
    {query : Query} {inner : Option ℕ → Result Row} {fails : Bool}
    {statement : Option ℕ} {written : List (Sent Row)}
    (off : process.isLogicalReceiver = true ∨ statement ≠ none)
    (different : statement ≠ some query.address)
    (quiet : (inner statement).Quiet statement written) :
    (query.run process inner fails statement).Quiet statement written := by
  have notSent : (!process.isLogicalReceiver && decide (statement = none) &&
      query.remote) = false := by
    rcases off with isReceiver | inside
    · rw [isReceiver]
      rfl
    · rw [decide_eq_false inside, Bool.and_false, Bool.false_and]
  have ends := quiet.failing fails
  rw [Query.run, notSent, if_neg Bool.false_ne_true,
    Result.finishQuery_of_ne (by rw [ends.kept]; exact different)]
  exact ends

/-- What happens while nothing is sent: it leaves only rows in the WAL. -/
theorem Acts.run_quiet
    (process : Process) (acts : Acts Row) {statement : Option ℕ}
    (off : process.isLogicalReceiver = true ∨ statement ≠ none)
    (avoids : ∀ address, statement = some address → acts.Avoids address) :
    (acts.run process statement).Quiet statement (acts.written process) := by
  induction acts with
  | done =>
      refine ⟨rfl, ?_, fun _ _ => rfl⟩
      intro item isItem
      cases isItem
  | row written rest rest_ih =>
      have plain : ∀ item ∈ [Logged.row written], item.IsPlain := by
        intro item isItem
        rw [List.mem_singleton.mp isItem]
        trivial
      have decoded (tail : List (Logged Row)) :
          decode false ([.row written] ++ tail) =
            [.row written] ++ decode false tail := rfl
      exact (rest_ih avoids).logFirst plain decoded
  | nextval seqid next rest rest_ih =>
      exact (rest_ih avoids).logFirst (plain_nextval seqid next)
        (decode_nextval seqid next)
  | utility call inner fails rest inner_ih rest_ih =>
      have quiet := inner_ih fun address same => (avoids address same).1
      exact (Call.run_quiet off quiet).andThen
        (rest_ih fun address same => (avoids address same).2)
  | query asked inner fails rest inner_ih rest_ih =>
      have quiet := inner_ih fun address same => (avoids address same).2.1
      have different : statement ≠ some asked.address := by
        intro same
        exact (avoids _ same).1 rfl
      exact (Query.run_quiet off different quiet).andThen
        (rest_ih fun address same => (avoids address same).2.2)
  | subtransaction inner rolledBack rest inner_ih rest_ih =>
      have quiet := inner_ih fun address same => (avoids address same).1
      have ended := quiet.finishSubtransaction rolledBack
      rw [Acts.run_ok] at ended
      exact ended.andThen
        (rest_ih fun address same => (avoids address same).2)

/-! ## Where statements are sent -/

/-- A part of a transaction at the level at which statements are sent. -/
structure Result.Settled
    (result : Result Row) (sent : List (Sent Row)) : Prop where
  free : result.ok = true → result.ddlStatement = none
  decoded : result.DecodesTo sent

namespace Result.Settled

variable {result : Result Row} {rest : Option ℕ → Result Row}
variable {sent later : List (Sent Row)}

theorem of_failed (failed : result.ok = false) : result.Settled sent := by
  refine ⟨fun isOk => ?_, .of_failed failed⟩
  rw [failed] at isOk
  cases isOk

theorem andThen
    (settled : result.Settled sent)
    (settledRest : result.ok = true → (rest none).Settled later) :
    (result.andThen rest).Settled (sent ++ later) := by
  constructor
  · intro bothOk
    rw [andThen_ok, Bool.and_eq_true] at bothOk
    obtain ⟨isOk, restOk⟩ := bothOk
    rw [settled.free isOk] at restOk
    rw [Result.andThen, if_pos isOk, settled.free isOk]
    exact (settledRest isOk).free restOk
  · refine settled.decoded.andThen fun isOk => ?_
    rw [settled.free isOk]
    exact (settledRest isOk).decoded

theorem failing (settled : result.Settled sent) (fails : Bool) :
    (result.failing fails).Settled sent := by
  refine ⟨fun isOk => ?_, settled.decoded.failing fails⟩
  rw [Result.failing, Bool.and_eq_true] at isOk
  exact settled.free isOk.1

theorem logFirst
    {logged : List (Logged Row)} (settled : result.Settled later)
    (first : ∀ tail,
      decode false (logged ++ tail) = sent ++ decode false tail) :
    (result.logFirst logged).Settled (sent ++ later) where
  free := settled.free
  decoded := settled.decoded.logFirst first

/-- A statement that is sent goes out alone. -/
theorem finishUtility
    {address : ℕ} {written : List (Sent Row)}
    (quiet : result.Quiet (some address) written) (gucCtx text : String) :
    (result.logFirst (mtmProcessDDLCommand gucCtx text)).finishUtility.Settled
      [.ddl (gucCtx ++ " " ++ text)] := by
  cases isOk : result.ok with
  | true =>
      have firstOk :
          (result.logFirst (mtmProcessDDLCommand gucCtx text)).ok = true :=
        isOk
      rw [Result.finishUtility, if_pos firstOk]
      exact ⟨fun _ => rfl, fun _ => decode_statement quiet.plain false _⟩
  | false =>
      apply of_failed
      rw [Result.finishUtility_ok]
      exact isOk

/-- So does a query. -/
theorem finishQuery
    {address : ℕ} {written : List (Sent Row)}
    (quiet : result.Quiet (some address) written) (gucCtx text : String) :
    ((result.startQuery gucCtx text).finishQuery address).Settled
      [.ddl (gucCtx ++ " " ++ text)] := by
  cases isOk : result.ok with
  | true =>
      have isLast : ((result.startQuery gucCtx text).ok &&
          decide ((result.startQuery gucCtx text).ddlStatement =
            some address)) = true := by
        rw [Bool.and_eq_true]
        exact ⟨isOk, decide_eq_true quiet.kept⟩
      rw [Result.finishQuery, if_pos isLast]
      exact ⟨fun _ => rfl, fun _ => decode_statement quiet.plain false _⟩
  | false =>
      apply of_failed
      rw [Result.finishQuery_ok]
      exact isOk

end Result.Settled

/-- A statement that is not sent only runs what stands inside it. -/
theorem Call.run_of_passes
    {call : Call} (passes : call.Passes process)
    (inner : Option ℕ → Result Row) (fails : Bool) (statement : Option ℕ) :
    call.run process inner fails statement =
      (inner statement).failing fails := by
  obtain ⟨admitted, notSent⟩ := passes
  unfold Call.run
  split
  · rfl
  · next isSender =>
      rw [Bool.not_eq_true] at isSender
      rw [Call.admitted, isSender, Bool.false_or] at admitted
      rw [Call.Replicates] at notSent
      cases decision : call.statement.decide process.isTransactionBlock
        call.isTopLevel with
      | refuse =>
          rw [decision] at admitted
          cases admitted
      | undefined =>
          rw [decision] at admitted
          cases admitted
      | replicate => exact absurd decision notSent
      | skip => rfl
      | standalone label => rfl

/-- A query that is not sent only runs what stands inside it, unless it finds
itself at the address left behind. -/
theorem Query.run_of_not_remote
    {query : Query} (notRemote : query.remote = false)
    (inner : Option ℕ → Result Row) (fails : Bool) (statement : Option ℕ) :
    query.run process inner fails statement =
      ((inner statement).failing fails).finishQuery query.address := by
  rw [Query.run, notRemote, Bool.and_false, if_neg Bool.false_ne_true]

theorem Call.run_settled
    {call : Call} {inner : Acts Row} (fails : Bool)
    (isSender : process.isLogicalReceiver = false)
    (avoids : inner.Avoids call.address)
    (settled : call.Passes process →
      (inner.run process none).Settled (inner.sent process)) :
    (call.run process (inner.run process) fails none).Settled
      (if call.Replicates process then [.ddl call.message]
        else inner.sent process) := by
  by_cases replicates : call.Replicates process
  · have isReplicated : call.statement.decide process.isTransactionBlock
        call.isTopLevel = .replicate := replicates
    have quiet := inner.run_quiet process
      (Or.inr (Option.some_ne_none call.address))
      (fun address same => by cases same; exact avoids)
    rw [if_pos replicates, Call.run, isSender, isReplicated]
    simp only [Bool.false_eq_true, if_false, if_true]
    exact Result.Settled.finishUtility (quiet.failing fails) call.gucCtx
      call.text
  · rw [if_neg replicates]
    cases admitted : call.admitted process with
    | true =>
        have passes : call.Passes process := ⟨admitted, replicates⟩
        rw [Call.run_of_passes passes]
        exact (settled passes).failing fails
    | false =>
        apply Result.Settled.of_failed
        rw [Call.run_ok inner.run_ok, admitted, Bool.false_and]

theorem Query.run_settled
    {query : Query} {inner : Acts Row} (fails : Bool)
    (isSender : process.isLogicalReceiver = false)
    (avoids : inner.Avoids query.address)
    (settled : query.remote = false →
      (inner.run process none).Settled (inner.sent process)) :
    (query.run process (inner.run process) fails none).Settled
      (if query.remote then [.ddl query.message]
        else inner.sent process) := by
  cases isRemote : query.remote with
  | true =>
      have quiet := inner.run_quiet process
        (Or.inr (Option.some_ne_none query.address))
        (fun address same => by cases same; exact avoids)
      rw [Query.run, isSender, isRemote]
      exact Result.Settled.finishQuery (quiet.failing fails) query.gucCtx
        query.sourceText
  | false =>
      have alone := (settled isRemote).failing fails
      rw [Query.run_of_not_remote isRemote, if_neg Bool.false_ne_true]
      cases isOk : ((inner.run process none).failing fails).ok with
      | true =>
          rw [Result.finishQuery_of_ne]
          · exact alone
          · rw [alone.free isOk]
            exact (Option.some_ne_none _).symm
      | false =>
          apply Result.Settled.of_failed
          rw [Result.finishQuery_ok]
          exact isOk

/-- In a clean part of a transaction everything outside of the statements that
are sent goes out as rows. -/
theorem Acts.run_settled
    (acts : Acts Row) (isSender : process.isLogicalReceiver = false)
    (live : acts.Live) (clean : acts.Clean process) :
    (acts.run process none).Settled (acts.sent process) := by
  induction acts with
  | done => exact ⟨fun _ => rfl, fun _ _ => rfl⟩
  | row written rest rest_ih =>
      have first (tail : List (Logged Row)) :
          decode false ([.row written] ++ tail) =
            [.row written] ++ decode false tail := rfl
      exact (rest_ih live clean).logFirst first
  | nextval seqid next rest rest_ih =>
      exact (rest_ih live clean).logFirst (decode_nextval seqid next)
  | utility call inner fails rest inner_ih rest_ih =>
      obtain ⟨avoids, innerLive, restLive⟩ := live
      obtain ⟨innerClean, restClean⟩ := clean
      have settled := Call.run_settled fails isSender avoids
        fun passes => inner_ih innerLive (innerClean passes)
      refine settled.andThen fun isOk => rest_ih restLive (restClean ?_)
      rwa [Call.run_ok inner.run_ok] at isOk
  | query asked inner fails rest inner_ih rest_ih =>
      obtain ⟨avoids, innerLive, restLive⟩ := live
      obtain ⟨innerClean, restClean⟩ := clean
      have settled := Query.run_settled fails isSender avoids
        fun notRemote => inner_ih innerLive (innerClean notRemote)
      refine settled.andThen fun isOk => rest_ih restLive (restClean ?_)
      rwa [Query.run_ok inner.run_ok] at isOk
  | subtransaction inner rolledBack rest inner_ih rest_ih =>
      obtain ⟨innerLive, restLive⟩ := live
      obtain ⟨innerClean, free, restClean⟩ := clean
      have ended := (inner_ih innerLive innerClean).decoded.finishSubtransaction
        rolledBack
      rw [Acts.run_ok] at ended
      have settled : ((inner.run process none).finishSubtransaction
          rolledBack).Settled _ := ⟨fun _ => free, ended⟩
      exact settled.andThen fun _ => rest_ih restLive restClean

end Ddl
end Multimaster
