import Multimaster.Ddl.Replay

/-!
# When a sent statement fails in a subtransaction

The error is caught and what the statement wrote is rolled back, and
`MtmDDLStatement` keeps pointing to it.  No statement of the rest of the
transaction is sent, and what they write goes out as rows.  The subtransaction may
stand anywhere: at the top, in another subtransaction, or in a block of a `DO`, a
`CALL` or a function that a query calls.
-/

namespace Multimaster
namespace Ddl

variable {Row : Type} {process : Process}

/-! ## One part after another -/

/-- One part of a transaction after another. -/
def Acts.append : Acts Row → Acts Row → Acts Row
  | .done, later => later
  | .row written rest, later => .row written (rest.append later)
  | .nextval seqid next rest, later => .nextval seqid next (rest.append later)
  | .utility call inner fails rest, later =>
      .utility call inner fails (rest.append later)
  | .query asked inner fails rest, later =>
      .query asked inner fails (rest.append later)
  | .subtransaction inner rolledBack rest, later =>
      .subtransaction inner rolledBack (rest.append later)

theorem Result.andThen_assoc
    (result : Result Row) (second third : Option ℕ → Result Row) :
    (result.andThen second).andThen third =
      result.andThen fun statement => (second statement).andThen third := by
  cases isOk : result.ok with
  | true =>
      cases laterOk : (second result.ddlStatement).ok with
      | true =>
          simp only [Result.andThen, isOk, laterOk, if_true,
            List.append_assoc, Bool.or_assoc]
      | false =>
          simp only [Result.andThen, isOk, laterOk, if_true,
            Bool.false_eq_true, if_false]
  | false =>
      rw [andThen_of_failed isOk, andThen_of_failed isOk,
        andThen_of_failed isOk]

theorem Result.logFirst_andThen
    (result : Result Row) (logged : List (Logged Row))
    (rest : Option ℕ → Result Row) :
    (result.logFirst logged).andThen rest =
      (result.andThen rest).logFirst logged := by
  unfold Result.andThen Result.logFirst
  split
  · simp only [List.append_assoc]
  · rfl

theorem Acts.run_append
    (first second : Acts Row) (statement : Option ℕ) :
    (first.append second).run process statement =
      (first.run process statement).andThen (second.run process) := by
  induction first generalizing statement with
  | done =>
      rw [Acts.append, Acts.run, Result.andThen, if_pos rfl]
      simp only [List.nil_append, Bool.false_or]
  | row written rest rest_ih =>
      simp only [Acts.append, Acts.run, rest_ih, Result.logFirst_andThen]
  | nextval seqid next rest rest_ih =>
      simp only [Acts.append, Acts.run, rest_ih, Result.logFirst_andThen]
  | utility call inner fails rest inner_ih rest_ih =>
      simp only [Acts.append, Acts.run, Result.andThen_assoc]
      congr 1
      funext statement
      exact rest_ih statement
  | query asked inner fails rest inner_ih rest_ih =>
      simp only [Acts.append, Acts.run, Result.andThen_assoc]
      congr 1
      funext statement
      exact rest_ih statement
  | subtransaction inner rolledBack rest inner_ih rest_ih =>
      simp only [Acts.append, Acts.run, Result.andThen_assoc]
      congr 1
      funext statement
      exact rest_ih statement

theorem Acts.live_append (first second : Acts Row) :
    (first.append second).Live ↔ first.Live ∧ second.Live := by
  induction first with
  | done => simp only [Acts.append, Acts.Live, true_and]
  | row written rest rest_ih => exact rest_ih
  | nextval seqid next rest rest_ih => exact rest_ih
  | utility call inner fails rest inner_ih rest_ih =>
      simp only [Acts.append, Acts.Live, rest_ih, and_assoc]
  | query asked inner fails rest inner_ih rest_ih =>
      simp only [Acts.append, Acts.Live, rest_ih, and_assoc]
  | subtransaction inner rolledBack rest inner_ih rest_ih =>
      simp only [Acts.append, Acts.Live, rest_ih, and_assoc]

/-! ## Where the failure stands -/

/-- A transaction with a subtransaction in which a statement fails, from the
outside in: at each level what comes before and what comes later. -/
inductive Failure (Row : Type)
  | caught (before inner : Acts Row) (rolledBack : Bool) (later : Acts Row)
  | utility (before : Acts Row) (call : Call) (inside : Failure Row)
      (fails : Bool) (later : Acts Row)
  | query (before : Acts Row) (asked : Query) (inside : Failure Row)
      (fails : Bool) (later : Acts Row)
  | subtransaction (before : Acts Row) (inside : Failure Row)
      (rolledBack : Bool) (later : Acts Row)

namespace Failure

/-- The whole transaction. -/
def acts : Failure Row → Acts Row
  | caught before inner rolledBack later =>
      before.append (.subtransaction inner rolledBack later)
  | utility before call inside fails later =>
      before.append (.utility call inside.acts fails later)
  | query before asked inside fails later =>
      before.append (.query asked inside.acts fails later)
  | subtransaction before inside rolledBack later =>
      before.append (.subtransaction inside.acts rolledBack later)

/-- What should be sent before it, and everything that is written later. -/
def sent (process : Process) : Failure Row → List (Sent Row)
  | caught before _ _ later => before.sent process ++ later.written process
  | utility before _ inside _ later =>
      before.sent process ++ (inside.sent process ++ later.written process)
  | query before _ inside _ later =>
      before.sent process ++ (inside.sent process ++ later.written process)
  | subtransaction before inside rolledBack later =>
      before.sent process ++
        ((if inside.acts.succeeds process && !rolledBack then
          inside.sent process else []) ++ later.written process)

/-- The transaction comes to the subtransaction, nothing was left behind before,
and the statement that fails in it leaves its address. -/
def IsFirst (process : Process) (address : ℕ) : Failure Row → Prop
  | caught before inner _ _ =>
      (before.Clean process ∧ before.succeeds process = true) ∧
        inner.Clean process ∧
        (inner.run process none).ddlStatement = some address
  | utility before call inside _ _ =>
      (before.Clean process ∧ before.succeeds process = true) ∧
        call.Passes process ∧ inside.IsFirst process address
  | query before asked inside _ _ =>
      (before.Clean process ∧ before.succeeds process = true) ∧
        asked.remote = false ∧ inside.IsFirst process address
  | subtransaction before inside _ _ =>
      (before.Clean process ∧ before.succeeds process = true) ∧
        inside.IsFirst process address

/-- No query around it or later is at the address. -/
def Avoids (address : ℕ) : Failure Row → Prop
  | caught _ _ _ later => later.Avoids address
  | utility _ _ inside _ later => inside.Avoids address ∧ later.Avoids address
  | query _ asked inside _ later =>
      asked.address ≠ address ∧ inside.Avoids address ∧ later.Avoids address
  | subtransaction _ inside _ later =>
      inside.Avoids address ∧ later.Avoids address

end Failure

/-! ## After the failure -/

/-- A part of a transaction that leaves the address behind. -/
structure Result.Stranded
    (result : Result Row) (address : ℕ) (sent : List (Sent Row)) : Prop where
  left : result.ddlStatement = some address
  decoded : result.DecodesTo sent

namespace Result.Stranded

variable {result : Result Row} {rest : Option ℕ → Result Row}
variable {address : ℕ} {sent later : List (Sent Row)}

/-- Later parts do not change that. -/
theorem andThen
    (stranded : result.Stranded address sent)
    (quietRest : (rest (some address)).Quiet (some address) later) :
    (result.andThen rest).Stranded address (sent ++ later) := by
  have decoded : (result.andThen rest).DecodesTo (sent ++ later) := by
    refine stranded.decoded.andThen fun _ => ?_
    rw [stranded.left]
    exact quietRest.decoded
  refine ⟨?_, decoded⟩
  cases isOk : result.ok with
  | true =>
      rw [Result.andThen, if_pos isOk, stranded.left]
      exact quietRest.kept
  | false =>
      rw [andThen_of_failed isOk]
      exact stranded.left

theorem failing (stranded : result.Stranded address sent) (fails : Bool) :
    (result.failing fails).Stranded address sent where
  left := stranded.left
  decoded := stranded.decoded.failing fails

theorem finishSubtransaction
    (stranded : result.Stranded address sent) (rolledBack : Bool) :
    (result.finishSubtransaction rolledBack).Stranded address
      (if result.ok && !rolledBack then sent else []) where
  left := stranded.left
  decoded := stranded.decoded.finishSubtransaction rolledBack

end Result.Stranded

/-- What comes before. -/
theorem Result.Settled.andThen_stranded
    {result : Result Row} {rest : Option ℕ → Result Row} {address : ℕ}
    {sent later : List (Sent Row)}
    (settled : result.Settled sent) (isOk : result.ok = true)
    (strandedRest : (rest none).Stranded address later) :
    (result.andThen rest).Stranded address (sent ++ later) := by
  constructor
  · rw [Result.andThen, if_pos isOk, settled.free isOk]
    exact strandedRest.left
  · refine settled.decoded.andThen fun _ => ?_
    rw [settled.free isOk]
    exact strandedRest.decoded

/-- The subtransaction itself leaves nothing for the decoder. -/
theorem Acts.run_caught
    {inner : Acts Row} {address : ℕ}
    (isSender : process.isLogicalReceiver = false)
    (live : inner.Live) (clean : inner.Clean process)
    (left : (inner.run process none).ddlStatement = some address)
    (rolledBack : Bool) :
    ((inner.run process none).finishSubtransaction rolledBack).Stranded
      address [] := by
  -- if nothing failed nothing would be left
  have failed : (inner.run process none).ok = false := by
    cases isOk : (inner.run process none).ok with
    | false => rfl
    | true =>
        have free := (inner.run_settled isSender live clean).free isOk
        rw [left] at free
        cases free
  refine ⟨left, ?_⟩
  have decoded : (inner.run process none).DecodesTo [] := .of_failed failed
  have ended := decoded.finishSubtransaction rolledBack
  rwa [ite_self] at ended

/-- A transaction with such a failure, from the part before it to its end. -/
theorem Failure.run_stranded
    (failure : Failure Row) {address : ℕ}
    (isSender : process.isLogicalReceiver = false)
    (live : failure.acts.Live) (first : failure.IsFirst process address)
    (avoids : failure.Avoids address) :
    (failure.acts.run process none).Stranded address
      (failure.sent process) := by
  have quiet {later : Acts Row} (laterAvoids : later.Avoids address) :
      (later.run process (some address)).Quiet (some address)
        (later.written process) :=
    later.run_quiet process (Or.inr (Option.some_ne_none address))
      fun other same => by cases same; exact laterAvoids
  have front {before : Acts Row} (beforeLive : before.Live)
      (reached : before.Clean process ∧ before.succeeds process = true) :
      (before.run process none).Settled (before.sent process) ∧
        (before.run process none).ok = true :=
    ⟨before.run_settled isSender beforeLive reached.1,
      (before.run_ok none).trans reached.2⟩
  induction failure with
  | caught before inner rolledBack later =>
      obtain ⟨beforeLive, innerLive, laterLive⟩ :=
        (Acts.live_append _ _).mp live
      obtain ⟨reached, clean, left⟩ := first
      obtain ⟨settled, isOk⟩ := front beforeLive reached
      have caught := Acts.run_caught isSender innerLive clean left rolledBack
      rw [Failure.acts, Acts.run_append]
      exact settled.andThen_stranded isOk (caught.andThen (quiet avoids))
  | utility before call inside fails later inside_ih =>
      obtain ⟨beforeLive, -, insideLive, laterLive⟩ :=
        (Acts.live_append _ _).mp live
      obtain ⟨reached, passes, insideFirst⟩ := first
      obtain ⟨insideAvoids, laterAvoids⟩ := avoids
      obtain ⟨settled, isOk⟩ := front beforeLive reached
      have stranded := inside_ih insideLive insideFirst insideAvoids
      rw [Failure.acts, Acts.run_append]
      apply settled.andThen_stranded isOk
      rw [Acts.run, Call.run_of_passes passes]
      exact (stranded.failing fails).andThen (quiet laterAvoids)
  | query before asked inside fails later inside_ih =>
      obtain ⟨beforeLive, -, insideLive, laterLive⟩ :=
        (Acts.live_append _ _).mp live
      obtain ⟨reached, notRemote, insideFirst⟩ := first
      obtain ⟨different, insideAvoids, laterAvoids⟩ := avoids
      obtain ⟨settled, isOk⟩ := front beforeLive reached
      have stranded :=
        (inside_ih insideLive insideFirst insideAvoids).failing fails
      have otherAddress : ((inside.acts.run process none).failing
          fails).ddlStatement ≠ some asked.address := by
        rw [stranded.left]
        exact fun same => different (Option.some.inj same).symm
      rw [Failure.acts, Acts.run_append]
      apply settled.andThen_stranded isOk
      rw [Acts.run, Query.run_of_not_remote notRemote,
        Result.finishQuery_of_ne otherAddress]
      exact stranded.andThen (quiet laterAvoids)
  | subtransaction before inside rolledBack later inside_ih =>
      obtain ⟨beforeLive, insideLive, laterLive⟩ :=
        (Acts.live_append _ _).mp live
      obtain ⟨reached, insideFirst⟩ := first
      obtain ⟨insideAvoids, laterAvoids⟩ := avoids
      obtain ⟨settled, isOk⟩ := front beforeLive reached
      have ended := (inside_ih insideLive insideFirst
        insideAvoids).finishSubtransaction rolledBack
      rw [Acts.run_ok] at ended
      rw [Failure.acts, Acts.run_append]
      exact settled.andThen_stranded isOk (ended.andThen (quiet laterAvoids))

/-! ## Every such transaction -/

theorem Acts.append_assoc (first second third : Acts Row) :
    (first.append second).append third =
      first.append (second.append third) := by
  induction first with
  | done => rfl
  | row written rest rest_ih => simp only [Acts.append, rest_ih]
  | nextval seqid next rest rest_ih => simp only [Acts.append, rest_ih]
  | utility call inner fails rest inner_ih rest_ih =>
      simp only [Acts.append, rest_ih]
  | query asked inner fails rest inner_ih rest_ih =>
      simp only [Acts.append, rest_ih]
  | subtransaction inner rolledBack rest inner_ih rest_ih =>
      simp only [Acts.append, rest_ih]

theorem Acts.succeeds_append (first second : Acts Row) :
    (first.append second).succeeds process =
      (first.succeeds process && second.succeeds process) := by
  induction first with
  | done => rfl
  | row written rest rest_ih => exact rest_ih
  | nextval seqid next rest rest_ih => exact rest_ih
  | utility call inner fails rest inner_ih rest_ih =>
      simp only [Acts.append, Acts.succeeds, rest_ih, Bool.and_assoc]
  | query asked inner fails rest inner_ih rest_ih =>
      simp only [Acts.append, Acts.succeeds, rest_ih, Bool.and_assoc]
  | subtransaction inner rolledBack rest inner_ih rest_ih => exact rest_ih

/-- The second part only counts if the first one ends without an error. -/
theorem Acts.clean_append
    {first second : Acts Row} (firstClean : first.Clean process)
    (secondClean : first.succeeds process = true → second.Clean process) :
    (first.append second).Clean process := by
  induction first with
  | done => exact secondClean rfl
  | row written rest rest_ih => exact rest_ih firstClean secondClean
  | nextval seqid next rest rest_ih => exact rest_ih firstClean secondClean
  | utility call inner fails rest inner_ih rest_ih =>
      refine ⟨firstClean.1, fun isOk => ?_⟩
      refine rest_ih (firstClean.2 isOk) fun restOk => secondClean ?_
      rw [Acts.succeeds, isOk, restOk, Bool.and_true]
  | query asked inner fails rest inner_ih rest_ih =>
      refine ⟨firstClean.1, fun isOk => ?_⟩
      refine rest_ih (firstClean.2 isOk) fun restOk => secondClean ?_
      rw [Acts.succeeds, isOk, restOk, Bool.and_true]
  | subtransaction inner rolledBack rest inner_ih rest_ih =>
      obtain ⟨innerClean, free, restClean⟩ := firstClean
      exact ⟨innerClean, free, rest_ih restClean secondClean⟩

/-- Something more comes before. -/
def Failure.after (first : Acts Row) : Failure Row → Failure Row
  | .caught before inner rolledBack later =>
      .caught (first.append before) inner rolledBack later
  | .utility before call inside fails later =>
      .utility (first.append before) call inside fails later
  | .query before asked inside fails later =>
      .query (first.append before) asked inside fails later
  | .subtransaction before inside rolledBack later =>
      .subtransaction (first.append before) inside rolledBack later

theorem Failure.acts_after (first : Acts Row) (failure : Failure Row) :
    (failure.after first).acts = first.append failure.acts := by
  cases failure with
  | caught => exact Acts.append_assoc _ _ _
  | utility => exact Acts.append_assoc _ _ _
  | query => exact Acts.append_assoc _ _ _
  | subtransaction => exact Acts.append_assoc _ _ _

theorem Failure.isFirst_after
    {first : Acts Row} {failure : Failure Row} {address : ℕ}
    (firstClean : first.Clean process)
    (firstOk : first.succeeds process = true)
    (isFirst : failure.IsFirst process address) :
    (failure.after first).IsFirst process address := by
  have front {before : Acts Row}
      (reached : before.Clean process ∧ before.succeeds process = true) :
      (first.append before).Clean process ∧
        (first.append before).succeeds process = true := by
    refine ⟨Acts.clean_append firstClean fun _ => reached.1, ?_⟩
    rw [Acts.succeeds_append, firstOk, reached.2, Bool.true_and]
  cases failure with
  | caught => exact ⟨front isFirst.1, isFirst.2⟩
  | utility => exact ⟨front isFirst.1, isFirst.2⟩
  | query => exact ⟨front isFirst.1, isFirst.2⟩
  | subtransaction => exact ⟨front isFirst.1, isFirst.2⟩

/-- A transaction with a first failure. -/
def Acts.Strands (process : Process) (acts : Acts Row) : Prop :=
  ∃ (failure : Failure Row) (address : ℕ),
    failure.acts = acts ∧ failure.IsFirst process address

theorem Acts.Strands.after
    {first rest : Acts Row} (strands : rest.Strands process)
    (firstClean : first.Clean process)
    (firstOk : first.succeeds process = true) :
    (first.append rest).Strands process := by
  obtain ⟨failure, address, rfl, isFirst⟩ := strands
  exact ⟨failure.after first, address, failure.acts_after first,
    failure.isFirst_after firstClean firstOk isFirst⟩

/-- A transaction is clean or has a first failure. -/
theorem Acts.strands_of_not_clean
    {acts : Acts Row} (notClean : ¬acts.Clean process) :
    acts.Strands process := by
  have start : (Acts.done : Acts Row).Clean process ∧
      (Acts.done : Acts Row).succeeds process = true := ⟨trivial, rfl⟩
  induction acts with
  | done => exact absurd trivial notClean
  | row written rest rest_ih =>
      have first : (Acts.row written .done).Clean process := trivial
      exact (rest_ih notClean).after first rfl
  | nextval seqid next rest rest_ih =>
      have first : (Acts.nextval seqid next .done : Acts Row).Clean process :=
        trivial
      exact (rest_ih notClean).after first rfl
  | utility call inner fails rest inner_ih rest_ih =>
      by_cases innerClean : call.Passes process → inner.Clean process
      · obtain ⟨isOk, restNotClean⟩ := Classical.not_imp.mp
          fun restClean => notClean ⟨innerClean, restClean⟩
        have first : (Acts.utility call inner fails .done).Clean process :=
          ⟨innerClean, fun _ => trivial⟩
        refine (rest_ih restNotClean).after first ?_
        rw [Acts.succeeds, isOk]
        rfl
      · obtain ⟨passes, innerNotClean⟩ := Classical.not_imp.mp innerClean
        obtain ⟨inside, address, rfl, isFirst⟩ := inner_ih innerNotClean
        exact ⟨.utility .done call inside fails rest, address, rfl, start,
          passes, isFirst⟩
  | query asked inner fails rest inner_ih rest_ih =>
      by_cases innerClean : asked.remote = false → inner.Clean process
      · obtain ⟨isOk, restNotClean⟩ := Classical.not_imp.mp
          fun restClean => notClean ⟨innerClean, restClean⟩
        have first : (Acts.query asked inner fails .done).Clean process :=
          ⟨innerClean, fun _ => trivial⟩
        refine (rest_ih restNotClean).after first ?_
        rw [Acts.succeeds, isOk]
        rfl
      · obtain ⟨notRemote, innerNotClean⟩ := Classical.not_imp.mp innerClean
        obtain ⟨inside, address, rfl, isFirst⟩ := inner_ih innerNotClean
        exact ⟨.query .done asked inside fails rest, address, rfl, start,
          notRemote, isFirst⟩
  | subtransaction inner rolledBack rest inner_ih rest_ih =>
      by_cases innerClean : inner.Clean process
      · cases left : (inner.run process none).ddlStatement with
        | none =>
            have first :
                (Acts.subtransaction inner rolledBack .done).Clean process :=
              ⟨innerClean, left, trivial⟩
            have restNotClean : ¬rest.Clean process :=
              fun restClean => notClean ⟨innerClean, left, restClean⟩
            exact (rest_ih restNotClean).after first rfl
        | some address =>
            exact ⟨.caught .done inner rolledBack rest, address, rfl, start,
              innerClean, left⟩
      · obtain ⟨inside, address, rfl, isFirst⟩ := inner_ih innerClean
        exact ⟨.subtransaction .done inside rolledBack rest, address, rfl,
          start, isFirst⟩

/-- A transaction in which a sent statement fails in a subtransaction, at any
depth, has a first such failure.  As long as no query comes to lie at its address,
no statement of the transaction is sent any more, and all that they write goes out
as rows. -/
theorem nothing_sent_after_failure
    {acts : Acts Row} (isSender : process.isLogicalReceiver = false)
    (live : acts.Live) (commits : (acts.transaction process).ok = true) :
    (¬acts.Clean process → acts.Strands process) ∧
      ∀ (failure : Failure Row) (address : ℕ), failure.acts = acts →
        failure.IsFirst process address → failure.Avoids address →
          decode false (acts.transaction process).log =
            failure.sent process := by
  refine ⟨Acts.strands_of_not_clean, ?_⟩
  rintro failure address rfl isFirst avoids
  have stranded := failure.run_stranded isSender live isFirst avoids
  have stream := stranded.decoded commits []
  rwa [List.append_nil, decode, List.append_nil] at stream

/-- A block of a `DO` in which the creation of a table fails, in a subtransaction,
before two tables are created. -/
def someFailure : Failure ℕ :=
  .utility (.row 3 .done) ⟨.passed .doStmt, "do $$ ... $$", "", true, 8⟩
    (.caught .done (createTableAs true .done) false
      (createTableAs false .done)) false (createTableAs false .done)

theorem nothing_sent_after_failure_someFailure :
    decode false (someFailure.acts.transaction someBackend).log =
      [.row 3, .row 1, .row 2, .row 1, .row 2] := by
  have isSender : someBackend.isLogicalReceiver = false := rfl
  have live : someFailure.acts.Live := by
    simp [someFailure, createTableAs, Failure.acts, Acts.append, Acts.Live,
      Acts.Avoids]
  have createdClean (fails : Bool) :
      (createTableAs fails .done).Clean someBackend :=
    ⟨fun passes => absurd rfl passes.2, fun _ => trivial⟩
  have isFirst : someFailure.IsFirst someBackend 16 :=
    ⟨⟨trivial, rfl⟩, by decide, ⟨trivial, rfl⟩, createdClean true, rfl⟩
  have avoids : someFailure.Avoids 16 := by
    simp [someFailure, createTableAs, Failure.Avoids, Acts.Avoids]
  have commits : (someFailure.acts.transaction someBackend).ok = true := rfl
  exact (nothing_sent_after_failure isSender live commits).2 someFailure 16 rfl
    isFirst avoids

end Ddl
end Multimaster
