import Multimaster.Status.Requests
import Mathlib.Data.List.Perm.Basic

/-!
# Answers to the requests of resolvers

Every request of phase 2a is answered once.  Requests of phase 1a go through the
hash, where a second request about the same transaction takes the place of the
first: they are all answered exactly when no two of them name one transaction
and the scan of the WAL, where it is needed, returns.
-/

namespace Multimaster
namespace Status

open Gtx
open Message (TxRequestValue)

variable {Gid : Type*}

/-! ## What is an answer -/

/-- A call of `GlobalTxAcquire` has found the transaction in this state. -/
def Surroundings.Prepared
    (around : Surroundings Gid) (state : GTxState) : Prop :=
  ∃ call, around.acquireNowait call = .gtx state ∨
    around.acquireWaiting call = some state

/-- What a request of phase 1a may be told, by its own term and generation. -/
inductive Told [DecidableEq Gid]
    (around : Surroundings Gid) (request : TxRequest Gid) : GTxState → Prop
  | promise (state : GTxState) (prepared : around.Prepared state)
      (newer : state.proposal < request.term) :
      Told around request { state with proposal := request.term }
  /-- The promise was given to another ballot. -/
  | outvoted (state : GTxState) (prepared : around.Prepared state)
      (older : request.term ≤ state.proposal) :
      Told around request GTxState.empty
  | explicit2PC (state : GTxState) (prepared : around.Prepared state)
      (explicit : around.isExplicit2PC request.gid = true) :
      Told around request GTxState.empty
  /-- The backend is at work on it, or it is not prepared. -/
  | unprepared (call : ℕ)
      (notPrepared : around.acquireNowait call = .busy ∨
        around.acquireWaiting call = none) :
      Told around request GTxState.empty
  | logged (txset : Finset Gid) (fuel : ℕ) (found : Wal.Progress Gid)
      (scanned : scanWal around txset fuel = some found)
      (final : found.status request.gid = .committed ∨
        found.status request.gid = .aborted) :
      Told around request
        { GTxState.empty with status := found.status request.gid }
  | directAbort (earlier : request.genNum < around.lastOnlineIn) :
      Told around request { GTxState.empty with status := .aborted }

/-- A response of phase 1b answers a request with the destination of its
sender. -/
structure Answers1a [DecidableEq Gid]
    (around : Surroundings Gid)
    (request : ℕ × TxRequest Gid) (reply : ℕ × TxStatusResponse Gid) :
    Prop where
  toSender : reply.1 = request.1
  nodeId : reply.2.nodeId = around.myNodeId
  gid : reply.2.gid = request.2.gid
  told : Told around request.2 reply.2.state

/-- A response of phase 2b answers a request with the destination of its
sender. -/
structure Answers2a
    (around : Surroundings Gid)
    (request : ℕ × TxRequest Gid) (reply : ℕ × Response2A Gid) : Prop where
  toSender : reply.1 = request.1
  told : ∃ call, reply.2 =
    (respond2a around request.2 (around.acquireNowait call)).2

/-- Each request has an answer of its own, and nothing else is sent. -/
def Matched {Request Reply : Type*}
    (answers : Request → Reply → Prop)
    (requests : List Request) (sent : List Reply) : Prop :=
  ∃ replies, sent.Perm replies ∧ List.Forall₂ answers requests replies

theorem Matched.length_eq {Request Reply : Type*}
    {answers : Request → Reply → Prop}
    {requests : List Request} {sent : List Reply}
    (matched : Matched answers requests sent) :
    requests.length = sent.length := by
  obtain ⟨replies, sameReplies, answered⟩ := matched
  rw [answered.length_eq, sameReplies.length_eq]

/-- A response of phase 1b, and where it goes. -/
def Effect.reply1b : Effect Gid → Option (ℕ × TxStatusResponse Gid)
  | .statusResponse destId response => some (destId, response)
  | _ => none

/-- A response of phase 2b, and where it goes. -/
def Effect.reply2b : Effect Gid → Option (ℕ × Response2A Gid)
  | .response2A destId response => some (destId, response)
  | _ => none

/-- A message of phase 1a, with the destination of its sender. -/
def request1a
    (around : Surroundings Gid) :
    ℕ × Incoming Gid → Option (ℕ × TxRequest Gid)
  | (sender, .txRequest request) =>
      if request.type = .status then some (around.destId sender, request)
      else none
  | (_, .genVoteRequest _) => none

/-- A message of phase 2a, with the destination of its sender. -/
def request2a
    (around : Surroundings Gid) :
    ℕ × Incoming Gid → Option (ℕ × TxRequest Gid)
  | (sender, .txRequest request) =>
      if request.type = .precommit ∨ request.type = .preabort then
        some (around.destId sender, request)
      else none
  | (_, .genVoteRequest _) => none

/-- Every request has exactly one answer, for its transaction and by its term,
and the answer goes to its sender. -/
structure AllAnswered [DecidableEq Gid]
    (around : Surroundings Gid) (messages : List (ℕ × Incoming Gid))
    (effects : List (Effect Gid)) : Prop where
  phase1 : Matched (Answers1a around)
    (messages.filterMap (request1a around)) (effects.filterMap Effect.reply1b)
  phase2 : Matched (Answers2a around)
    (messages.filterMap (request2a around)) (effects.filterMap Effect.reply2b)

/-- The transactions of the requests of phase 1a. -/
def statusGids
    (around : Surroundings Gid) (messages : List (ℕ × Incoming Gid)) :
    List Gid :=
  (messages.filterMap (request1a around)).map fun request => request.2.gid

/-- Some lookup for a request of phase 1a finds no transaction.  The lookups for
phase 2a come before. -/
def Surroundings.NeedsScan
    (around : Surroundings Gid) (messages : List (ℕ × Incoming Gid)) : Prop :=
  ∃ lookup < (messages.filterMap (request1a around)).length,
    around.acquireNowait
      ((messages.filterMap (request2a around)).length + lookup) = .missing

/-! ## What one request adds -/

/-- The replies among the effects that were added. -/
structure Adds
    (before after : List (Effect Gid))
    (replies1b : List (ℕ × TxStatusResponse Gid))
    (replies2b : List (ℕ × Response2A Gid)) : Prop where
  phase1 : after.filterMap Effect.reply1b =
    before.filterMap Effect.reply1b ++ replies1b
  phase2 : after.filterMap Effect.reply2b =
    before.filterMap Effect.reply2b ++ replies2b

theorem Adds.refl (effects : List (Effect Gid)) :
    Adds effects effects [] [] where
  phase1 := (List.append_nil _).symm
  phase2 := (List.append_nil _).symm

theorem Adds.trans
    {first middle last : List (Effect Gid)}
    {replies1b later1b : List (ℕ × TxStatusResponse Gid)}
    {replies2b later2b : List (ℕ × Response2A Gid)}
    (left : Adds first middle replies1b replies2b)
    (right : Adds middle last later1b later2b) :
    Adds first last (replies1b ++ later1b) (replies2b ++ later2b) where
  phase1 := by rw [right.phase1, left.phase1, List.append_assoc]
  phase2 := by rw [right.phase2, left.phase2, List.append_assoc]

/-- No effect is a reply. -/
structure Silent (effects : List (Effect Gid)) : Prop where
  phase1 : effects.filterMap Effect.reply1b = []
  phase2 : effects.filterMap Effect.reply2b = []

theorem Silent.nil : Silent ([] : List (Effect Gid)) where
  phase1 := rfl
  phase2 := rfl

theorem Silent.setState (gid : Gid) (state : GTxState) :
    Silent [Effect.setState gid state] where
  phase1 := rfl
  phase2 := rfl

theorem respond2a_silent
    (around : Surroundings Gid) (request : TxRequest Gid)
    (acquired : Acquired) :
    Silent (respond2a around request acquired).1 := by
  cases acquired with
  | gtx state =>
      rw [respond2a]
      split
      · exact Silent.setState _ _
      · exact Silent.nil
  | missing | busy => exact Silent.nil

theorem Handling.reply1a_adds
    (handling : Handling Gid) (entry : TxsetEntry Gid)
    {handled : List (Effect Gid) × TxStatusResponse Gid}
    (silent : Silent handled.1) :
    Adds handling.effects (handling.reply1a entry handled).effects
      [(entry.destId, handled.2)] [] where
  phase1 := by simp [Handling.reply1a, silent.phase1, Effect.reply1b]
  phase2 := by simp [Handling.reply1a, silent.phase2, Effect.reply2b]

/-- The request an entry is to answer. -/
def TxsetEntry.request (entry : TxsetEntry Gid) : ℕ × TxRequest Gid :=
  (entry.destId, entry.req)

/-- The response of an entry is about its request. -/
structure TxsetEntry.Names
    (around : Surroundings Gid) (entry : TxsetEntry Gid) : Prop where
  gid : entry.gid = entry.req.gid
  nodeId : entry.resp.nodeId = around.myNodeId
  respGid : entry.resp.gid = entry.req.gid

/-- An entry as the loop over the queue has made it. -/
structure TxsetEntry.Fresh
    (around : Surroundings Gid) (entry : TxsetEntry Gid) : Prop
    extends entry.Names around where
  empty : entry.resp.state = GTxState.empty

theorem TxsetEntry.Names.scan
    {around : Surroundings Gid} {entry : TxsetEntry Gid}
    (names : entry.Names around) (found : Wal.Progress Gid) :
    (entry.scan found).Names around where
  gid := names.gid
  nodeId := names.nodeId
  respGid := names.respGid

/-- What a scan makes of a new entry. -/
theorem TxsetEntry.Fresh.scan_state
    {around : Surroundings Gid} {entry : TxsetEntry Gid}
    (fresh : entry.Fresh around) (found : Wal.Progress Gid) :
    (entry.scan found).resp.state =
      { GTxState.empty with status := found.status entry.req.gid } := by
  rw [← fresh.gid, ← fresh.empty]
  rfl

theorem Handling.current_request
    (handling : Handling Gid) (entry : TxsetEntry Gid) :
    (handling.current entry).request = entry.request := by
  unfold Handling.current
  cases handling.scanned with
  | none => rfl
  | some found => rfl

/-- What the entries of the set are like. -/
structure TxsetOk
    (around : Surroundings Gid) (txset : List (TxsetEntry Gid)) : Prop where
  nodup : (txset.map TxsetEntry.gid).Nodup
  fresh : ∀ entry ∈ txset, entry.Fresh around

theorem TxsetOk.nil (around : Surroundings Gid) : TxsetOk around [] where
  nodup := List.nodup_nil
  fresh := by
    intro entry isEntry
    cases isEntry

section Batch

variable [DecidableEq Gid]

/-- An entry as `handle_1a` finds it: a scan may have given the outcome. -/
structure TxsetEntry.Ready
    (around : Surroundings Gid) (entry : TxsetEntry Gid) : Prop
    extends entry.Names around where
  state : entry.resp.state = GTxState.empty ∨
    Told around entry.req entry.resp.state

/-- What `handle_1a` does before its reply, and a response to the request. -/
structure Handled
    (around : Surroundings Gid) (request : TxRequest Gid)
    (handled : List (Effect Gid) × TxStatusResponse Gid) : Prop where
  silent : Silent handled.1
  nodeId : handled.2.nodeId = around.myNodeId
  gid : handled.2.gid = request.gid
  told : Told around request handled.2.state

/-- A response that is left as it is. -/
theorem TxsetEntry.Ready.handled
    {around : Surroundings Gid} {entry : TxsetEntry Gid}
    (ready : entry.Ready around)
    (told : Told around entry.req GTxState.empty) :
    Handled around entry.req ([], entry.resp) where
  silent := Silent.nil
  nodeId := ready.nodeId
  gid := ready.respGid
  told := by
    rcases ready.state with isEmpty | given
    · rw [isEmpty]
      exact told
    · exact given

theorem TxsetEntry.Ready.handle1aFound
    {around : Surroundings Gid} {entry : TxsetEntry Gid}
    (ready : entry.Ready around) {state : GTxState}
    (prepared : around.Prepared state) :
    Handled around entry.req
      (handle1aFound around entry.req state entry.resp) := by
  unfold Status.handle1aFound
  split
  · next explicit => exact ready.handled (.explicit2PC state prepared explicit)
  · unfold handle1aGtx
    split
    · next newer =>
        exact
          { silent := Silent.setState _ _
            nodeId := ready.nodeId
            gid := ready.respGid
            told := .promise state prepared newer }
    · next notNewer =>
        exact ready.handled (.outvoted state prepared (not_lt.mp notNewer))

/-- What the scan finds about a transaction is an outcome or nothing. -/
theorem scanWal_status
    {around : Surroundings Gid} {txset : Finset Gid} {fuel : ℕ}
    {found : Wal.Progress Gid}
    (scanned : scanWal around txset fuel = some found) (gid : Gid) :
    found.status gid = .invalid ∨
      (found.status gid = .committed ∨ found.status gid = .aborted) := by
  obtain ⟨outcomes, isFound⟩ : ∃ outcomes,
      found.status = Wal.applyOutcomes (fun _ => .invalid) outcomes := by
    unfold scanWal at scanned
    split at scanned
    · next loop isLoop =>
        cases scanned
        obtain ⟨count, -, atCount⟩ := Option.bind_eq_some_iff.mp isLoop
        exact Wal.Log.loop_status atCount
    · exact Wal.getLoggedPreparedXactState_status scanned
  rw [isFound, Wal.applyOutcomes_apply]
  cases Wal.lastOutcome gid outcomes with
  | none => exact .inl rfl
  | some commit =>
      cases commit with
      | false => exact .inr (.inr rfl)
      | true => exact .inr (.inl rfl)

/-- An entry that was scanned has no outcome, or one of the WAL. -/
theorem TxsetEntry.Fresh.ready_scan
    {around : Surroundings Gid} {entry : TxsetEntry Gid}
    (fresh : entry.Fresh around) {txset : Finset Gid} {fuel : ℕ}
    {found : Wal.Progress Gid}
    (scanned : scanWal around txset fuel = some found) :
    (entry.scan found).Ready around where
  toNames := fresh.toNames.scan found
  state := by
    rw [fresh.scan_state]
    rcases scanWal_status scanned entry.req.gid with noOutcome | final
    · rw [noOutcome]
      exact .inl rfl
    · exact .inr (.logged txset fuel found scanned final)

/-- The part of `handle_1a` after the scan answers the request. -/
theorem handle1aScanned_handled
    {around : Surroundings Gid} {entry : TxsetEntry Gid}
    (fresh : entry.Fresh around) {txset : Finset Gid} {fuel : ℕ}
    {found : Wal.Progress Gid}
    (scanned : scanWal around txset fuel = some found) (waiting : ℕ) :
    Handled around entry.req
      (handle1aScanned around (entry.scan found) waiting).1 := by
  have ready := fresh.ready_scan scanned
  have isState := fresh.scan_state found
  unfold handle1aScanned
  split
  · next final =>
      rw [isState] at final
      have told := Told.logged txset fuel found scanned final
      rw [← isState] at told
      exact
        { silent := Silent.nil
          nodeId := ready.nodeId
          gid := ready.respGid
          told := told }
  · cases acquired : around.acquireWaiting waiting with
    | some state => exact ready.handle1aFound ⟨waiting, .inr acquired⟩
    | none =>
        simp only
        split
        · next unseen =>
            exact
              { silent := Silent.nil
                nodeId := ready.nodeId
                gid := ready.respGid
                told := by
                  rw [TxStatusResponse.withStatus, isState]
                  exact .directAbort unseen.2 }
        · exact ready.handled (.unprepared waiting (.inr acquired))

/-- What a batch has found is what the scan gives. -/
def Handling.Scanned
    (handling : Handling Gid) (around : Surroundings Gid) (txset : Finset Gid)
    (fuel : ℕ) : Prop :=
  ∀ found, handling.scanned = some found →
    scanWal around txset fuel = some found

theorem Handling.Scanned.ready
    {handling : Handling Gid} {around : Surroundings Gid}
    {txset : Finset Gid} {fuel : ℕ}
    (scanned : handling.Scanned around txset fuel)
    {entry : TxsetEntry Gid} (fresh : entry.Fresh around) :
    (handling.current entry).Ready around := by
  unfold Handling.current
  cases isFound : handling.scanned with
  | none => exact { toNames := fresh.toNames, state := .inl fresh.empty }
  | some found => exact fresh.ready_scan (scanned found isFound)

/-- Requests of both phases are answered, with a lookup for each. -/
structure Serves
    (around : Surroundings Gid) (requests1a requests2a : List (ℕ × TxRequest Gid))
    (before after : Handling Gid) : Prop where
  answered : ∃ replies1b replies2b,
    Adds before.effects after.effects replies1b replies2b ∧
      List.Forall₂ (Answers1a around) requests1a replies1b ∧
      List.Forall₂ (Answers2a around) requests2a replies2b
  nowait : after.nowait =
    before.nowait + requests1a.length + requests2a.length

theorem Serves.refl (around : Surroundings Gid) (handling : Handling Gid) :
    Serves around [] [] handling handling where
  answered := ⟨[], [], Adds.refl _, .nil, .nil⟩
  nowait := rfl

theorem Serves.trans
    {around : Surroundings Gid}
    {first1a first2a later1a later2a : List (ℕ × TxRequest Gid)}
    {first middle last : Handling Gid}
    (left : Serves around first1a first2a first middle)
    (right : Serves around later1a later2a middle last) :
    Serves around (first1a ++ later1a) (first2a ++ later2a) first last where
  answered := by
    obtain ⟨replies1b, replies2b, added, answered1, answered2⟩ := left.answered
    obtain ⟨later1b, later2b, addedLater, answeredLater1, answeredLater2⟩ :=
      right.answered
    exact ⟨replies1b ++ later1b, replies2b ++ later2b, added.trans addedLater,
      List.rel_append answered1 answeredLater1,
      List.rel_append answered2 answeredLater2⟩
  nowait := by
    rw [right.nowait, left.nowait, List.length_append, List.length_append]
    omega

/-- The reply to an entry is the answer to its request. -/
theorem Handling.reply1a_serves
    {around : Surroundings Gid} {handling called : Handling Gid}
    {entry : TxsetEntry Gid} {request : ℕ × TxRequest Gid}
    {handled : List (Effect Gid) × TxStatusResponse Gid}
    (sameEffects : called.effects = handling.effects)
    (oneLookup : called.nowait = handling.nowait + 1)
    (sameRequest : entry.request = request)
    (answer : Handled around entry.req handled) :
    Serves around [request] [] handling (called.reply1a entry handled) where
  answered := by
    refine ⟨[(entry.destId, handled.2)], [], ?_, .cons ?_ .nil, .nil⟩
    · rw [← sameEffects]
      exact Handling.reply1a_adds called entry answer.silent
    · rw [← sameRequest]
      exact
        { toSender := rfl
          nodeId := answer.nodeId
          gid := answer.gid
          told := answer.told }
  nowait := oneLookup

/-- What `handle_1a` does when it returns. -/
theorem handle1a_spec
    {around : Surroundings Gid} {txset : Finset Gid} {fuel : ℕ}
    {handling next : Handling Gid} {entry : TxsetEntry Gid}
    (fresh : entry.Fresh around)
    (scanned : handling.Scanned around txset fuel)
    (returns : handle1a around txset fuel handling entry = some next) :
    Serves around [entry.request] [] handling next ∧
      next.Scanned around txset fuel ∧
      (next.scanned = none ↔ handling.scanned = none ∧
        around.acquireNowait handling.nowait ≠ .missing) := by
  have sameRequest := handling.current_request entry
  have ready := scanned.ready fresh
  simp only [handle1a] at returns
  cases acquired : around.acquireNowait handling.nowait with
  | gtx state =>
      simp only [acquired, Option.some.injEq] at returns
      subst returns
      exact ⟨Handling.reply1a_serves rfl rfl sameRequest
        (ready.handle1aFound ⟨_, .inl acquired⟩), scanned,
        by simp [Handling.reply1a]⟩
  | busy =>
      simp only [acquired, Option.some.injEq] at returns
      subst returns
      exact ⟨Handling.reply1a_serves rfl rfl sameRequest
        (ready.handled (.unprepared _ (.inl acquired))), scanned,
        by simp [Handling.reply1a]⟩
  | missing =>
      simp only [acquired, Option.bind_eq_bind, Option.bind_eq_some_iff,
        Option.some.injEq] at returns
      obtain ⟨found, isFound, rfl⟩ := returns
      have fromScan : scanWal around txset fuel = some found := by
        unfold Handling.scan at isFound
        split at isFound
        · next before =>
            cases isFound
            exact scanned _ before
        · exact isFound
      refine ⟨Handling.reply1a_serves rfl rfl rfl
        (handle1aScanned_handled fresh fromScan handling.waiting), ?_, ?_⟩
      · intro later isLater
        cases isLater
        exact fromScan
      · simp [Handling.reply1a]

/-- `handle_1a` returns unless it starts a scan that does not. -/
theorem handle1a_isSome_iff
    (around : Surroundings Gid) (txset : Finset Gid) (fuel : ℕ)
    (handling : Handling Gid) (entry : TxsetEntry Gid) :
    (handle1a around txset fuel handling entry).isSome ↔
      (around.acquireNowait handling.nowait = .missing →
        handling.scanned = none → (scanWal around txset fuel).isSome) := by
  simp only [handle1a]
  cases acquired : around.acquireNowait handling.nowait with
  | gtx state | busy => simp
  | missing =>
      cases scanned : handling.scanned with
      | some found => simp [Handling.scan, scanned]
      | none =>
          cases result : scanWal around txset fuel <;>
            simp [Handling.scan, scanned, result]

/-- The loop of `handle_1a_batch`. -/
theorem foldlM_handle1a_serves
    {around : Surroundings Gid} {txset : Finset Gid} {fuel : ℕ}
    {entries : List (TxsetEntry Gid)} {handling last : Handling Gid}
    (fresh : ∀ entry ∈ entries, entry.Fresh around)
    (scanned : handling.Scanned around txset fuel)
    (returns : entries.foldlM (handle1a around txset fuel) handling =
      some last) :
    Serves around (entries.map TxsetEntry.request) [] handling last := by
  induction entries generalizing handling with
  | nil =>
      cases returns
      exact Serves.refl around _
  | cons entry rest inductionHypothesis =>
      rw [List.foldlM_cons, Option.bind_eq_bind,
        Option.bind_eq_some_iff] at returns
      obtain ⟨next, isNext, later⟩ := returns
      obtain ⟨served, stillScanned, -⟩ :=
        handle1a_spec (fresh entry List.mem_cons_self) scanned isNext
      exact served.trans (inductionHypothesis
        (fun other isOther => fresh other (List.mem_cons_of_mem _ isOther))
        stillScanned later)

/-- The loop returns unless one of its lookups starts a scan that does not. -/
theorem foldlM_handle1a_isSome_iff
    {around : Surroundings Gid} {txset : Finset Gid} {fuel : ℕ}
    {entries : List (TxsetEntry Gid)} {handling : Handling Gid}
    (fresh : ∀ entry ∈ entries, entry.Fresh around)
    (scanned : handling.Scanned around txset fuel) :
    (entries.foldlM (handle1a around txset fuel) handling).isSome ↔
      ((∃ lookup < entries.length,
          around.acquireNowait (handling.nowait + lookup) = .missing) →
        handling.scanned = none → (scanWal around txset fuel).isSome) := by
  induction entries generalizing handling with
  | nil => simp
  | cons entry rest inductionHypothesis =>
      have first := handle1a_isSome_iff around txset fuel handling entry
      rw [List.foldlM_cons, Option.bind_eq_bind]
      cases isNext : handle1a around txset fuel handling entry with
      | none =>
          rw [isNext, Option.isSome_none, iff_false_left Bool.false_ne_true]
            at first
          rw [Option.bind_none, Option.isSome_none,
            iff_false_left Bool.false_ne_true]
          intro returns
          exact first fun missing => returns ⟨0, by simp, missing⟩
      | some next =>
          obtain ⟨served, stillScanned, scans⟩ :=
            handle1a_spec (fresh entry List.mem_cons_self) scanned isNext
          rw [isNext, Option.isSome_some, iff_true_left rfl] at first
          rw [Option.bind_some, inductionHypothesis
            (fun other isOther => fresh other (List.mem_cons_of_mem _ isOther))
            stillScanned, scans, served.nowait]
          constructor
          · rintro later ⟨lookup, inRange, missing⟩ notScanned
            by_cases now : around.acquireNowait handling.nowait = .missing
            · exact first now notScanned
            · obtain ⟨earlier, rfl⟩ : ∃ earlier, lookup = earlier + 1 := by
                cases lookup with
                | zero => exact absurd missing now
                | succ earlier => exact ⟨earlier, rfl⟩
              refine later ⟨earlier, by simpa using inRange, ?_⟩
                ⟨notScanned, now⟩
              rw [← missing]
              simp only [List.length_singleton, List.length_nil]
              congr 1
              omega
          · rintro all ⟨lookup, inRange, missing⟩ ⟨notScanned, -⟩
            refine all ⟨lookup + 1, by simpa using inRange, ?_⟩ notScanned
            rw [← missing]
            simp only [List.length_singleton, List.length_nil]
            congr 1
            omega

/-! ## The queue -/

/-- `handle_2a` sends one response, to its request. -/
theorem handle2a_serves
    (around : Surroundings Gid) (handling : Handling Gid)
    (request : TxRequest Gid) (destId : ℕ) :
    Serves around [] [(destId, request)] handling
      (handle2a around handling request destId) where
  answered := by
    refine ⟨[], [(destId,
      (respond2a around request (around.acquireNowait handling.nowait)).2)],
      ?_, .nil, .cons ⟨rfl, handling.nowait, rfl⟩ .nil⟩
    have silent :=
      respond2a_silent around request (around.acquireNowait handling.nowait)
    exact
      { phase1 := by simp [handle2a, silent.phase1, Effect.reply1b]
        phase2 := by simp [handle2a, silent.phase2, Effect.reply2b] }
  nowait := rfl

/-- A request to commit or abort is not answered. -/
theorem handleOutcome_serves
    (around : Surroundings Gid) (handling : Handling Gid)
    (request : TxRequest Gid) :
    Serves around [] [] handling (handleOutcome around handling request) where
  answered := by
    refine ⟨[], [], ?_, .nil, .nil⟩
    unfold handleOutcome
    cases around.acquireWaiting handling.waiting with
    | none => exact { phase1 := by simp, phase2 := by simp }
    | some state =>
        exact
          { phase1 := by simp [Effect.reply1b]
            phase2 := by simp [Effect.reply2b] }
  nowait := rfl

/-- One message of the queue. -/
theorem receiveRequest_serves
    (around : Surroundings Gid) (draining : Draining Gid)
    (message : ℕ × Incoming Gid) :
    Serves around [] (request2a around message).toList draining.handling
      (receiveRequest around draining message.1 message.2).handling := by
  obtain ⟨sender, request | request⟩ := message
  · cases isType : request.type with
    | status =>
        simpa [receiveRequest, request2a, isType] using
          Serves.refl around draining.handling
    | precommit | preabort =>
        simpa [receiveRequest, request2a, isType] using
          handle2a_serves around draining.handling request
            (around.destId sender)
    | commit | abort =>
        simpa [receiveRequest, request2a, isType] using
          handleOutcome_serves around draining.handling request
  · exact
      { answered := ⟨[], [],
          { phase1 := by simp [receiveRequest, Effect.reply1b]
            phase2 := by simp [receiveRequest, Effect.reply2b] },
          .nil, .nil⟩
        nowait := rfl }

/-- What one message does to the set. -/
theorem receiveRequest_txset
    (around : Surroundings Gid) (draining : Draining Gid)
    (message : ℕ × Incoming Gid) :
    (request1a around message = none ∧
      (receiveRequest around draining message.1 message.2).txset =
        draining.txset) ∨
    ∃ entry : TxsetEntry Gid,
      entry.Fresh around ∧ request1a around message = some entry.request ∧
      (receiveRequest around draining message.1 message.2).txset =
        enterTxset entry draining.txset := by
  obtain ⟨sender, request | request⟩ := message
  · cases isType : request.type with
    | status =>
        refine .inr ⟨TxsetEntry.ofRequest around sender request, ?_, ?_, ?_⟩
        · exact
            { gid := rfl
              nodeId := rfl
              respGid := rfl
              empty := rfl }
        · simp [request1a, isType, TxsetEntry.request, TxsetEntry.ofRequest]
        · simp [receiveRequest, isType]
    | precommit | preabort | commit | abort =>
        exact .inl ⟨by simp [request1a, isType],
          by simp [receiveRequest, isType]⟩
  · exact .inl ⟨rfl, rfl⟩

/-- The loop over the messages of a call. -/
def receiveAll
    (around : Surroundings Gid) (draining : Draining Gid)
    (messages : List (ℕ × Incoming Gid)) : Draining Gid :=
  messages.foldl
    (fun state message => receiveRequest around state message.1 message.2)
    draining

theorem receiveAll_cons
    (around : Surroundings Gid) (draining : Draining Gid)
    (message : ℕ × Incoming Gid) (rest : List (ℕ × Incoming Gid)) :
    receiveAll around draining (message :: rest) =
      receiveAll around
        (receiveRequest around draining message.1 message.2) rest :=
  List.foldl_cons ..

/-- The messages one call drains are the first ones of the queue. -/
theorem drain_eq_receiveAll
    (around : Surroundings Gid) (maxBatchSize : ℕ)
    (queue : List (ℕ × Incoming Gid)) (received : ℕ)
    (draining : Draining Gid) (room : received < maxBatchSize) :
    ∃ jobPending, drain around maxBatchSize received draining queue =
      { receiveAll around draining (queue.take (maxBatchSize - received)) with
        jobPending := jobPending } := by
  induction queue generalizing received draining with
  | nil => exact ⟨draining.jobPending, by simp [drain, receiveAll]⟩
  | cons message queue inductionHypothesis =>
      obtain ⟨sender, message⟩ := message
      rw [drain]
      simp only
      obtain ⟨left, isLeft⟩ : ∃ left, maxBatchSize - received = left + 1 :=
        ⟨maxBatchSize - received - 1, by omega⟩
      rw [isLeft, List.take_succ_cons, receiveAll_cons]
      split
      · next full =>
          have none : left = 0 := by omega
          subst none
          exact ⟨true, by simp [receiveAll]⟩
      · next notFull =>
          have same : left = maxBatchSize - (received + 1) := by omega
          rw [same]
          exact inductionHypothesis (received + 1) _ (by omega)

theorem receiveAll_serves
    (around : Surroundings Gid) (messages : List (ℕ × Incoming Gid))
    (draining : Draining Gid) :
    Serves around [] (messages.filterMap (request2a around))
      draining.handling
      (receiveAll around draining messages).handling := by
  induction messages generalizing draining with
  | nil => exact Serves.refl around _
  | cons message rest inductionHypothesis =>
      have served := (receiveRequest_serves around draining message).trans
        (inductionHypothesis
          (receiveRequest around draining message.1 message.2))
      rw [receiveAll_cons, List.filterMap_cons]
      cases isRequest : request2a around message with
      | none => simpa [isRequest] using served
      | some request => simpa [isRequest] using served

theorem mem_enterTxset
    {entry other : TxsetEntry Gid} {txset : List (TxsetEntry Gid)}
    (isEntry : other ∈ enterTxset entry txset) :
    other = entry ∨ (other ∈ txset) := by
  induction txset with
  | nil => exact Or.inl (List.mem_singleton.mp isEntry)
  | cons head rest inductionHypothesis =>
      rw [enterTxset] at isEntry
      split at isEntry
      · rcases List.mem_cons.mp isEntry with same | later
        · exact Or.inl same
        · exact Or.inr (List.mem_cons_of_mem _ later)
      · rcases List.mem_cons.mp isEntry with same | later
        · exact Or.inr (same ▸ List.mem_cons_self)
        · rcases inductionHypothesis later with same | old
          · exact Or.inl same
          · exact Or.inr (List.mem_cons_of_mem _ old)

/-- The transactions of the set are the one that is entered and those before. -/
theorem mem_map_gid_enterTxset
    (entry : TxsetEntry Gid) (txset : List (TxsetEntry Gid)) (gid : Gid) :
    gid ∈ (enterTxset entry txset).map TxsetEntry.gid ↔
      gid = entry.gid ∨ gid ∈ txset.map TxsetEntry.gid := by
  induction txset with
  | nil => simp [enterTxset]
  | cons head rest inductionHypothesis =>
      rw [enterTxset]
      split
      · next same =>
          simp only [List.map_cons, List.mem_cons, same]
          tauto
      · rw [List.map_cons, List.mem_cons, inductionHypothesis, List.map_cons,
          List.mem_cons]
        tauto

theorem TxsetOk.enter
    {around : Surroundings Gid} {txset : List (TxsetEntry Gid)}
    (ok : TxsetOk around txset) {entry : TxsetEntry Gid}
    (fresh : entry.Fresh around) :
    TxsetOk around (enterTxset entry txset) where
  nodup := by
    have nodup := ok.nodup
    clear ok
    induction txset with
    | nil => exact List.pairwise_singleton _ _
    | cons head rest inductionHypothesis =>
        rw [List.map_cons, List.nodup_cons] at nodup
        rw [enterTxset]
        split
        · next same =>
            rw [List.map_cons, List.nodup_cons, ← same]
            exact nodup
        · next different =>
            rw [List.map_cons, List.nodup_cons, mem_map_gid_enterTxset]
            refine ⟨?_, inductionHypothesis nodup.2⟩
            rintro (same | repeated)
            · exact different same
            · exact nodup.1 repeated
  fresh := by
    intro other isOther
    rcases mem_enterTxset isOther with rfl | old
    · exact fresh
    · exact ok.fresh other old

/-- A request about another transaction gets an entry of its own. -/
theorem enterTxset_of_new
    {entry : TxsetEntry Gid} {txset : List (TxsetEntry Gid)}
    (isNew : entry.gid ∉ txset.map TxsetEntry.gid) :
    enterTxset entry txset = txset ++ [entry] := by
  induction txset with
  | nil => rfl
  | cons head rest inductionHypothesis =>
      rw [List.map_cons, List.mem_cons, not_or] at isNew
      rw [enterTxset, if_neg (Ne.symm isNew.1), inductionHypothesis isNew.2]
      rfl

theorem receiveAll_txsetOk
    {around : Surroundings Gid} {draining : Draining Gid}
    (ok : TxsetOk around draining.txset)
    (messages : List (ℕ × Incoming Gid)) :
    TxsetOk around (receiveAll around draining messages).txset := by
  induction messages generalizing draining with
  | nil => exact ok
  | cons message rest inductionHypothesis =>
      refine inductionHypothesis ?_
      rcases receiveRequest_txset around draining message with
        ⟨-, same⟩ | ⟨entry, fresh, -, entered⟩
      · rw [same]
        exact ok
      · rw [entered]
        exact ok.enter fresh

/-- The set has the transactions that were asked about. -/
theorem mem_receiveAll_gids
    (around : Surroundings Gid) (messages : List (ℕ × Incoming Gid))
    (draining : Draining Gid) (gid : Gid) :
    gid ∈ (receiveAll around draining messages).txset.map TxsetEntry.gid ↔
      gid ∈ draining.txset.map TxsetEntry.gid ∨
        gid ∈ statusGids around messages := by
  induction messages generalizing draining with
  | nil => simp [receiveAll, statusGids]
  | cons message rest inductionHypothesis =>
      rw [receiveAll_cons, inductionHypothesis, statusGids, statusGids]
      rcases receiveRequest_txset around draining message with
        ⟨noRequest, same⟩ | ⟨entry, fresh, isRequest, entered⟩
      · rw [same, List.filterMap_cons_none noRequest]
      · rw [entered, List.filterMap_cons_some isRequest, List.map_cons,
          List.mem_cons, mem_map_gid_enterTxset, fresh.gid]
        simp only [TxsetEntry.request]
        tauto

/-- Requests about different transactions all stay in the set. -/
theorem receiveAll_of_nodup
    {around : Surroundings Gid} {messages : List (ℕ × Incoming Gid)}
    {draining : Draining Gid}
    (nodup : (draining.txset.map TxsetEntry.gid ++
      statusGids around messages).Nodup) :
    (receiveAll around draining messages).txset.map TxsetEntry.request =
      draining.txset.map TxsetEntry.request ++
        messages.filterMap (request1a around) := by
  induction messages generalizing draining with
  | nil => simp [receiveAll]
  | cons message rest inductionHypothesis =>
      rw [statusGids] at nodup
      rw [receiveAll_cons]
      rcases receiveRequest_txset around draining message with
        ⟨noRequest, same⟩ | ⟨entry, fresh, isRequest, entered⟩
      · rw [List.filterMap_cons_none noRequest] at nodup ⊢
        rw [← same] at nodup ⊢
        exact inductionHypothesis nodup
      · rw [List.filterMap_cons_some isRequest] at nodup ⊢
        have isNew : entry.gid ∉ draining.txset.map TxsetEntry.gid := by
          intro isOld
          rw [fresh.gid] at isOld
          exact (List.nodup_append.mp nodup).2.2 _ isOld _
            List.mem_cons_self rfl
        rw [enterTxset_of_new isNew] at entered
        have stillNodup : ((receiveRequest around draining message.1
            message.2).txset.map TxsetEntry.gid ++
            statusGids around rest).Nodup := by
          rw [entered, List.map_append, List.map_singleton, fresh.gid,
            List.append_assoc]
          exact nodup
        rw [inductionHypothesis stillNodup, entered, List.map_append,
          List.append_assoc]
        rfl

/-- What the loop over the queue has gathered. -/
theorem gids_receiveAll
    (around : Surroundings Gid) (jobPending : Bool)
    (messages : List (ℕ × Incoming Gid)) :
    ((receiveAll around (Draining.start jobPending) messages).txset.map
        TxsetEntry.gid).toFinset =
      (statusGids around messages).toFinset := by
  ext gid
  rw [List.mem_toFinset, mem_receiveAll_gids, List.mem_toFinset]
  simp [Draining.start]

/-- There are as many entries as requests only when the requests are about
different transactions. -/
theorem nodup_of_length_receiveAll
    {around : Surroundings Gid} {jobPending : Bool}
    {messages : List (ℕ × Incoming Gid)}
    (sameLength :
      (receiveAll around (Draining.start jobPending) messages).txset.length =
        (messages.filterMap (request1a around)).length) :
    (statusGids around messages).Nodup := by
  have ok : TxsetOk around
      (receiveAll around (Draining.start jobPending) messages).txset :=
    receiveAll_txsetOk (TxsetOk.nil around) messages
  have card := List.toFinset_card_of_nodup ok.nodup
  rw [gids_receiveAll, List.length_map, sameLength] at card
  have allDifferent :
      (statusGids around messages).toFinset.card =
        (statusGids around messages).length := by
    rw [card, statusGids, List.length_map]
  exact Multiset.coe_nodup.mp
    (Multiset.toFinset_card_eq_card_iff_nodup.mp allDifferent)

/-! ## All requests -/

/-- What a call does when it returns. -/
theorem checkStatusRequests_eq_some_iff
    {around : Surroundings Gid} {nNodes maxBackends : ℕ}
    {queue : List (ℕ × Incoming Gid)} {failed jobPending : Bool} {fuel : ℕ}
    {effects : List (Effect Gid)} :
    (∃ pending, checkStatusRequests around nNodes maxBackends queue failed
        jobPending fuel = some (effects, pending)) ↔
      ∃ handled,
        handle1aBatch around fuel
            (receiveAll around (Draining.start jobPending)
              (queue.take (maxBatchSize nNodes maxBackends))).handling
            (receiveAll around (Draining.start jobPending)
              (queue.take (maxBatchSize nNodes maxBackends))).txset =
          some handled ∧
        handled.effects = effects := by
  have room : 0 < maxBatchSize nNodes maxBackends := by
    unfold maxBatchSize
    omega
  obtain ⟨pending, drained⟩ := drain_eq_receiveAll around
    (maxBatchSize nNodes maxBackends) queue 0 (Draining.start jobPending) room
  rw [Nat.sub_zero] at drained
  simp only [checkStatusRequests, drained, Option.bind_eq_bind,
    Option.bind_eq_some_iff, Option.some.injEq, Prod.mk.injEq]
  constructor
  · rintro ⟨_, handled, returns, sameEffects, -⟩
    exact ⟨handled, returns, sameEffects⟩
  · rintro ⟨handled, returns, sameEffects⟩
    exact ⟨_, handled, returns, sameEffects, rfl⟩

section Call

variable
    (around : Surroundings Gid) (jobPending : Bool)
    (messages : List (ℕ × Incoming Gid))

/-- The entries in the order of the batch. -/
theorem fresh_order :
    ∀ entry ∈ around.order
        (receiveAll around (Draining.start jobPending) messages).txset,
      entry.Fresh around := by
  intro entry isEntry
  exact (receiveAll_txsetOk (TxsetOk.nil around) messages).fresh entry
    ((around.order_perm _).mem_iff.mp isEntry)

/-- The requests that are answered: those that are left in the set, and all of
phase 2a. -/
theorem handle1aBatch_serves
    {around : Surroundings Gid} {jobPending : Bool}
    {messages : List (ℕ × Incoming Gid)} {fuel : ℕ} {handled : Handling Gid}
    (returns : handle1aBatch around fuel
        (receiveAll around (Draining.start jobPending) messages).handling
        (receiveAll around (Draining.start jobPending) messages).txset =
      some handled) :
    Serves around
      ((around.order (receiveAll around (Draining.start jobPending)
        messages).txset).map TxsetEntry.request)
      (messages.filterMap (request2a around))
      (Draining.start jobPending : Draining Gid).handling handled := by
  have drained := receiveAll_serves around messages
    (Draining.start jobPending)
  have batch := foldlM_handle1a_serves
    (fresh_order around jobPending messages)
    (fun _ isFound => by cases isFound) returns
  have both := drained.trans
    { answered := batch.answered
      nowait := batch.nowait : Serves around _ []
        (receiveAll around (Draining.start jobPending) messages).handling
        handled }
  simpa using both

/-- The batch returns unless it needs a scan that does not. -/
theorem handle1aBatch_isSome_iff
    (sameLength :
      (receiveAll around (Draining.start jobPending) messages).txset.length =
        (messages.filterMap (request1a around)).length)
    (fuel : ℕ) :
    (handle1aBatch around fuel
        (receiveAll around (Draining.start jobPending) messages).handling
        (receiveAll around (Draining.start jobPending)
          messages).txset).isSome ↔
      (around.NeedsScan messages →
        (scanWal around (statusGids around messages).toFinset fuel).isSome) := by
  have lookups := (receiveAll_serves around messages
    (Draining.start jobPending)).nowait
  rw [handle1aBatch, foldlM_handle1a_isSome_iff
    (fresh_order around jobPending messages)
    (fun _ isFound => by cases isFound), gids_receiveAll,
    (around.order_perm _).length_eq, sameLength, lookups]
  simp [Surroundings.NeedsScan, Draining.start]

/-- When all requests are answered there is one entry for each of phase 1a. -/
theorem length_of_allAnswered
    {around : Surroundings Gid} {jobPending : Bool}
    {messages : List (ℕ × Incoming Gid)} {fuel : ℕ} {handled : Handling Gid}
    (returns : handle1aBatch around fuel
        (receiveAll around (Draining.start jobPending) messages).handling
        (receiveAll around (Draining.start jobPending) messages).txset =
      some handled)
    (answered : AllAnswered around messages handled.effects) :
    (receiveAll around (Draining.start jobPending) messages).txset.length =
      (messages.filterMap (request1a around)).length := by
  obtain ⟨replies1b, replies2b, added, answered1, -⟩ :=
    (handle1aBatch_serves returns).answered
  rw [answered.phase1.length_eq, added.phase1]
  simpa [(around.order_perm _).length_eq, Draining.start] using
    answered1.length_eq

/-- A batch with an entry for each request answers all of them. -/
theorem allAnswered_of_kept
    {around : Surroundings Gid} {jobPending : Bool}
    {messages : List (ℕ × Incoming Gid)} {fuel : ℕ} {handled : Handling Gid}
    (kept :
      (receiveAll around (Draining.start jobPending) messages).txset.map
          TxsetEntry.request =
        messages.filterMap (request1a around))
    (returns : handle1aBatch around fuel
        (receiveAll around (Draining.start jobPending) messages).handling
        (receiveAll around (Draining.start jobPending) messages).txset =
      some handled) :
    AllAnswered around messages handled.effects := by
  obtain ⟨replies1b, replies2b, added, answered1, answered2⟩ :=
    (handle1aBatch_serves returns).answered
  -- the hash gives the entries in an order of its own
  have sameRequests := (around.order_perm (receiveAll around
    (Draining.start jobPending) messages).txset).map TxsetEntry.request
  rw [kept] at sameRequests
  obtain ⟨replies, answered, sameReplies⟩ :=
    List.perm_comp_forall₂ sameRequests.symm answered1
  constructor
  · refine ⟨replies, ?_, answered⟩
    rw [added.phase1]
    exact sameReplies.symm
  · refine ⟨replies2b, ?_, answered2⟩
    rw [added.phase2]
    exact List.Perm.refl _

end Call

/-- A call of `check_status_requests` returns with all the requests it drains
answered exactly when no two requests of phase 1a are about the same transaction
and the scan returns if a lookup finds no transaction. -/
theorem status_requests_answered_iff
    (around : Surroundings Gid) (nNodes maxBackends : ℕ)
    (queue : List (ℕ × Incoming Gid)) (failed jobPending : Bool) :
    (∃ fuel effects pending,
      checkStatusRequests around nNodes maxBackends queue failed jobPending
          fuel = some (effects, pending) ∧
        AllAnswered around (queue.take (maxBatchSize nNodes maxBackends))
          effects) ↔
      (statusGids around
          (queue.take (maxBatchSize nNodes maxBackends))).Nodup ∧
        (around.NeedsScan (queue.take (maxBatchSize nNodes maxBackends)) →
          ∃ fuel, (scanWal around
            (statusGids around
              (queue.take (maxBatchSize nNodes maxBackends))).toFinset
            fuel).isSome) := by
  constructor
  · rintro ⟨fuel, effects, pending, returns, answered⟩
    obtain ⟨handled, isHandled, rfl⟩ :=
      checkStatusRequests_eq_some_iff.mp ⟨pending, returns⟩
    have sameLength := length_of_allAnswered isHandled answered
    refine ⟨nodup_of_length_receiveAll sameLength, fun needsScan => ⟨fuel, ?_⟩⟩
    exact (handle1aBatch_isSome_iff around jobPending _ sameLength fuel).mp
      (Option.isSome_of_eq_some isHandled) needsScan
  · rintro ⟨nodup, scanReturns⟩
    obtain ⟨fuel, enough⟩ : ∃ fuel,
        around.NeedsScan (queue.take (maxBatchSize nNodes maxBackends)) →
          (scanWal around
            (statusGids around
              (queue.take (maxBatchSize nNodes maxBackends))).toFinset
            fuel).isSome := by
      by_cases needsScan :
        around.NeedsScan (queue.take (maxBatchSize nNodes maxBackends))
      · obtain ⟨fuel, returns⟩ := scanReturns needsScan
        exact ⟨fuel, fun _ => returns⟩
      · exact ⟨0, fun needed => absurd needed needsScan⟩
    have kept :
        (receiveAll around (Draining.start jobPending)
            (queue.take (maxBatchSize nNodes maxBackends))).txset.map
              TxsetEntry.request =
          (queue.take (maxBatchSize nNodes maxBackends)).filterMap
            (request1a around) :=
      receiveAll_of_nodup nodup
    have sameLength := congrArg List.length kept
    rw [List.length_map] at sameLength
    obtain ⟨handled, isHandled⟩ := Option.isSome_iff_exists.mp
      ((handle1aBatch_isSome_iff around jobPending _ sameLength fuel).mpr
        enough)
    obtain ⟨pending, returns⟩ := checkStatusRequests_eq_some_iff.mpr
      ⟨handled, isHandled, rfl⟩
    exact ⟨fuel, handled.effects, pending, returns,
      allAnswered_of_kept kept isHandled⟩

end Batch

/-! ## Two resolvers at work on one transaction -/

/-- A status request about transaction seven of node one, in a first ballot of
the sender. -/
def statusRequestOf (sender : ℕ) : ℕ × Incoming ℕ :=
  (sender, .txRequest
    { type := .status
      term := { ballot := 5, nodeId := sender }
      gid := 7
      coordinator := 1
      genNum := 3 })

/-- A node that has the transaction prepared. -/
def aroundPrepared : Surroundings ℕ where
  myNodeId := 4
  destId := fun sender => sender
  isExplicit2PC := fun _ => false
  acquireNowait := fun _ => .gtx GTxState.created
  acquireWaiting := fun _ => none
  lastOnlineIn := 3
  wal := Wal.crossingLog
  readError := none
  order := id
  order_perm := fun _ => List.Perm.refl _

/-- Nodes two and three ask about the transaction: only node three gets an
answer. -/
theorem status_request_overwritten :
    ¬ ∃ fuel effects pending,
      checkStatusRequests aroundPrepared 4 100
          [statusRequestOf 2, statusRequestOf 3] false false fuel =
        some (effects, pending) ∧
      AllAnswered aroundPrepared [statusRequestOf 2, statusRequestOf 3]
        effects := by
  rintro ⟨fuel, effects, pending, returns, answered⟩
  have requests : ([statusRequestOf 2, statusRequestOf 3].filterMap
      (request1a aroundPrepared)).length = 2 := by
    decide
  have replies : (effects.filterMap Effect.reply1b).length = 1 := by
    cases returns
    rfl
  have sameLength := answered.phase1.length_eq
  rw [requests, replies] at sameLength
  cases sameLength

end Status
end Multimaster
