import Multimaster.Subscription.Defs

/-!
# Hygiene of the table of subscriptions

A backend in its main loop owns no subscription, and neither does a process that
is gone. The error handler of `MtmExplicitFinishPrepared` does not unsubscribe,
so that this holds only for the runs without an error there.
-/

namespace Multimaster
namespace Subscription

/-- In `MtmExplicitFinishPrepared`, with a subscription. -/
def Location.finishesPrepared : Location → Bool
  | .subscribed (.explicitFinishPrepared _) _ => true
  | _ => false

/-- No error or cancel in `MtmExplicitFinishPrepared` while it is subscribed. -/
def FinishesQuietly (state : State) : Action → Prop
  | .raise procno =>
    ((state.backends procno).any fun backend =>
      backend.location.finishesPrepared) = false
  | _ => True

instance (state : State) : ∀ action, Decidable (FinishesQuietly state action)
  | .raise _ => inferInstanceAs (Decidable (_ = false))
  | .start _ | .enter .. | .subscribe .. | .finish _ | .exit _ =>
    inferInstanceAs (Decidable True)

/-- The stream that is subscribed at a location. -/
def Location.stream? : Location → Option ℕ
  | .subscribed _ stream => some stream
  | _ => none

/-- The subscriptions are those of the backends that are between subscribing and
unsubscribing. -/
structure Tidy (state : State) : Prop where
  current : ∀ procno backend, state.backends procno = some backend →
    backend.locals.currStream = backend.location.stream?
  table : ∀ stream subscriber, state.dmq.subscriptions stream = some subscriber ↔
    ∃ backend, state.backends subscriber.procno = some backend ∧
      backend.locals =
        { myProcnoGen := subscriber.procnoGen, currStream := some stream }
  issued : ∀ procno backend, state.backends procno = some backend →
    backend.locals.currStream ≠ none → backend.locals.myProcnoGen ≠ 0
  bound : ∀ procno backend, state.backends procno = some backend →
    backend.locals.myProcnoGen ≤ state.dmq.procnoGens procno
  alive : ∀ procno backend, state.backends procno = some backend →
    backend.locals.myProcnoGen ≠ 0 →
    { procno := procno, procnoGen := backend.locals.myProcnoGen } ∉ state.exited
  past : ∀ subscriber ∈ state.exited,
    subscriber.procnoGen ≤ state.dmq.procnoGens subscriber.procno

namespace Tidy

variable {state : State} {procno : ℕ} {backend : Backend}

/-- The process of a slot is replaced: what is to be shown of the new one, and of
the subscriptions of its slot. -/
theorem put
    (tidy : Tidy state) {dmq : Dmq}
    (current : backend.locals.currStream = backend.location.stream?)
    (issued : backend.locals.currStream ≠ none → backend.locals.myProcnoGen ≠ 0)
    (bound : backend.locals.myProcnoGen ≤ dmq.procnoGens procno)
    (alive : backend.locals.myProcnoGen ≠ 0 →
      { procno := procno, procnoGen := backend.locals.myProcnoGen }
        ∉ state.exited)
    (grow : ∀ other, state.dmq.procnoGens other ≤ dmq.procnoGens other)
    (own : ∀ stream gen, dmq.subscriptions stream =
        some { procno := procno, procnoGen := gen } ↔
      backend.locals = { myProcnoGen := gen, currStream := some stream })
    (others : ∀ stream subscriber, subscriber.procno ≠ procno →
      (dmq.subscriptions stream = some subscriber ↔
        state.dmq.subscriptions stream = some subscriber)) :
    Tidy (state.put procno dmq backend) := by
  constructor
  case current => exact forall_update_some current tidy.current
  case issued => exact forall_update_some issued tidy.issued
  case bound =>
    refine forall_update_some bound fun other process isProcess => ?_
    exact Nat.le_trans (tidy.bound other process isProcess) (grow other)
  case alive => exact forall_update_some alive tidy.alive
  case past =>
    intro subscriber isExited
    exact Nat.le_trans (tidy.past subscriber isExited) (grow subscriber.procno)
  case table =>
    intro stream subscriber
    rw [State.put]
    dsimp only
    rcases eq_or_ne subscriber.procno procno with rfl | different
    · rw [Function.update_self, own]
      simp
    · rw [Function.update_of_ne different, others stream subscriber different]
      exact tidy.table stream subscriber

/-- The subscriptions of a slot are that of its process. -/
theorem own
    (tidy : Tidy state) (isBackend : state.backends procno = some backend)
    (stream gen : ℕ) :
    state.dmq.subscriptions stream = some { procno := procno, procnoGen := gen } ↔
      backend.locals = { myProcnoGen := gen, currStream := some stream } := by
  rw [tidy.table]
  simp [isBackend]

/-- A process without a subscription has none in the table. -/
theorem not_own
    (tidy : Tidy state) (isBackend : state.backends procno = some backend)
    (noStream : backend.locals.currStream = none) (stream gen : ℕ) :
    state.dmq.subscriptions stream ≠
      some { procno := procno, procnoGen := gen } := by
  intro isEntry
  have isLocals := (tidy.own isBackend stream gen).mp isEntry
  rw [isLocals] at noStream
  exact nomatch noStream

/-- A backend goes on with what it is subscribed to. -/
theorem move
    (tidy : Tidy state) (isBackend : state.backends procno = some backend)
    {location : Location}
    (sameStream : location.stream? = backend.location.stream?) :
    Tidy (state.put procno state.dmq { backend with location := location }) := by
  apply tidy.put
  case current =>
      exact (tidy.current procno backend isBackend).trans sameStream.symm
  case issued => exact tidy.issued procno backend isBackend
  case bound => exact tidy.bound procno backend isBackend
  case alive => exact tidy.alive procno backend isBackend
  case grow => exact fun _ => Nat.le_refl _
  case own =>
    intro stream gen
    have same := tidy.own isBackend stream gen
    exact same
  case others => exact fun _ _ _ => Iff.rfl

/-- A backend unsubscribes. -/
theorem unsubscribe
    (tidy : Tidy state) (isBackend : state.backends procno = some backend) :
    Tidy (state.unsubscribe procno backend) := by
  rw [State.unsubscribe, dmqStreamUnsubscribe]
  cases isStream : backend.locals.currStream with
  | none =>
    have noStream : backend.location.stream? = none := by
      rw [← tidy.current procno backend isBackend, isStream]
    exact tidy.move isBackend noStream.symm
  | some current =>
    have isEntry : state.dmq.subscriptions current =
        some { procno := procno, procnoGen := backend.locals.myProcnoGen } := by
      rw [tidy.own isBackend, ← isStream]
    apply tidy.put
    case current => rfl
    case issued => exact fun isSome => absurd rfl isSome
    case bound => exact tidy.bound procno backend isBackend
    case alive => exact tidy.alive procno backend isBackend
    case grow => exact fun _ => Nat.le_refl _
    case own =>
      intro stream gen
      refine iff_of_false ?_ fun same =>
        Option.some_ne_none stream (congrArg DmqLocal.currStream same).symm
      dsimp only
      rcases eq_or_ne stream current with rfl | different
      · rw [Function.update_self]
        exact (Option.some_ne_none _).symm
      · rw [Function.update_of_ne different, tidy.own isBackend]
        intro isLocals
        rw [isLocals] at isStream
        exact different (Option.some.inj isStream)
    case others =>
      intro stream subscriber otherProcess
      dsimp only
      rcases eq_or_ne stream current with rfl | different
      · rw [Function.update_self, isEntry]
        refine iff_of_false (Option.some_ne_none _).symm fun same =>
          otherProcess ?_
        rw [← Option.some.inj same]
      · rw [Function.update_of_ne different]

/-- A process starts in a free slot. -/
theorem start
    (tidy : Tidy state) (isFree : state.backends procno = none) :
    Tidy (state.perform (.start procno)) := by
  apply tidy.put
  case current => rfl
  case issued => exact fun isSome => absurd rfl isSome
  case bound => exact Nat.zero_le _
  case alive => exact fun notZero => absurd rfl notZero
  case grow => exact fun _ => Nat.le_refl _
  case own =>
    intro stream gen
    refine iff_of_false ?_ (fun same => nomatch congrArg DmqLocal.currStream same)
    rw [tidy.table]
    rintro ⟨process, isProcess, -⟩
    exact nomatch isFree.symm.trans isProcess
  case others => exact fun _ _ _ => Iff.rfl

/-- A process without a subscription is gone. -/
theorem drop
    (tidy : Tidy state) (isBackend : state.backends procno = some backend)
    (noStream : backend.locals.currStream = none) :
    Tidy { state with
      backends := Function.update state.backends procno none
      exited := { procno := procno, procnoGen := backend.locals.myProcnoGen } ::
        state.exited } := by
  constructor
  case current =>
    intro other process isProcess
    exact tidy.current other process (update_none_cases isProcess).2
  case issued =>
    intro other process isProcess
    exact tidy.issued other process (update_none_cases isProcess).2
  case bound =>
    intro other process isProcess
    exact tidy.bound other process (update_none_cases isProcess).2
  case alive =>
    intro other process isProcess notZero isExited
    obtain ⟨different, wasProcess⟩ := update_none_cases isProcess
    rcases List.mem_cons.mp isExited with same | wasExited
    · exact different (congrArg Subscriber.procno same)
    · exact tidy.alive other process wasProcess notZero wasExited
  case past =>
    intro subscriber isExited
    rcases List.mem_cons.mp isExited with rfl | wasExited
    · exact tidy.bound procno backend isBackend
    · exact tidy.past subscriber wasExited
  case table =>
    intro stream subscriber
    refine (tidy.table stream subscriber).trans ?_
    dsimp only
    rcases eq_or_ne subscriber.procno procno with same | different
    · rw [same, Function.update_self, isBackend]
      refine iff_of_false ?_ (by simp)
      rintro ⟨process, isProcess, isLocals⟩
      obtain rfl := Option.some.inj isProcess
      rw [isLocals] at noStream
      exact nomatch noStream
    · rw [Function.update_of_ne different]

/-- A process exits: its hook unsubscribes. -/
theorem exit
    (tidy : Tidy state) (isBackend : state.backends procno = some backend) :
    Tidy (state.exit procno backend) := by
  have unsubscribed := tidy.unsubscribe isBackend
  rw [State.exit]
  rw [State.unsubscribe] at unsubscribed
  cases isStream : backend.locals.currStream with
  | none =>
    have dropped := tidy.drop isBackend isStream
    simpa [dmqStreamUnsubscribe, isStream] using dropped
  | some stream =>
    have dropped := unsubscribed.drop (Function.update_self ..)
      (by simp [dmqStreamUnsubscribe, isStream])
    simpa [dmqStreamUnsubscribe, isStream, State.put] using dropped

/-- The generation of a process, issued now or before. -/
theorem issue
    (tidy : Tidy state) (isBackend : state.backends procno = some backend) :
    issuedGen state.dmq backend.locals procno ≠ 0 ∧
      issuedGen state.dmq backend.locals procno ≤
        issuedGens state.dmq backend.locals procno procno ∧
      { procno := procno,
        procnoGen := issuedGen state.dmq backend.locals procno } ∉
        state.exited ∧
      ∀ other, state.dmq.procnoGens other ≤
        issuedGens state.dmq backend.locals procno other := by
  have grow := le_issuedGens state.dmq backend.locals procno
  rw [issuedGen]
  split_ifs with isZero
  · refine ⟨Nat.succ_ne_zero _, ?_, ?_, grow⟩
    · exact Nat.le_of_eq (by rw [issuedGens, if_pos isZero, Function.update_self])
    · intro isExited
      exact absurd (tidy.past _ isExited) (Nat.not_succ_le_self _)
  · exact ⟨isZero,
      Nat.le_trans (tidy.bound procno backend isBackend) (grow procno),
      tidy.alive procno backend isBackend isZero, grow⟩

/-- A subscription that fails: only the generation was issued. -/
theorem failed
    (tidy : Tidy state) (isBackend : state.backends procno = some backend)
    (noStream : backend.location.stream? = none) :
    Tidy (state.put procno
      { state.dmq with procnoGens := issuedGens state.dmq backend.locals procno }
      { backend with locals := { backend.locals with
          myProcnoGen := issuedGen state.dmq backend.locals procno } }) := by
  obtain ⟨notZero, bound, alive, grow⟩ := tidy.issue isBackend
  have current := tidy.current procno backend isBackend
  apply tidy.put
  case current => exact current
  case issued => exact fun _ => notZero
  case bound => exact bound
  case alive => exact fun _ => alive
  case grow => exact grow
  case own =>
    intro stream gen
    have noCurrent := current.trans noStream
    refine iff_of_false (tidy.not_own isBackend noCurrent stream gen)
      fun same => ?_
    have isSome : backend.locals.currStream = some stream :=
      congrArg DmqLocal.currStream same
    exact nomatch noCurrent.symm.trans isSome
  case others => exact fun _ _ _ => Iff.rfl

/-- A subscription that succeeds. -/
theorem entered
    (tidy : Tidy state) (isBackend : state.backends procno = some backend)
    (noStream : backend.location.stream? = none) {stream : ℕ} {caller : Caller}
    (isFree : state.dmq.subscriptions stream = none) :
    Tidy (state.put procno
      { procnoGens := issuedGens state.dmq backend.locals procno
        subscriptions := Function.update state.dmq.subscriptions stream
          (some { procno := procno
                  procnoGen := issuedGen state.dmq backend.locals procno }) }
      { locals :=
          { myProcnoGen := issuedGen state.dmq backend.locals procno
            currStream := some stream }
        location := .subscribed caller stream }) := by
  obtain ⟨notZero, bound, alive, grow⟩ := tidy.issue isBackend
  have noCurrent := (tidy.current procno backend isBackend).trans noStream
  apply tidy.put
  case current => rfl
  case issued => exact fun _ => notZero
  case bound => exact bound
  case alive => exact fun _ => alive
  case grow => exact grow
  case own =>
    intro other gen
    dsimp only
    rcases eq_or_ne other stream with rfl | different
    · rw [Function.update_self]
      simp
    · rw [Function.update_of_ne different]
      refine iff_of_false (tidy.not_own isBackend noCurrent other gen)
        fun same => ?_
      exact different (Option.some.inj (congrArg DmqLocal.currStream same)).symm
  case others =>
    intro other subscriber otherProcess
    dsimp only
    rcases eq_or_ne other stream with rfl | different
    · rw [Function.update_self, isFree]
      refine iff_of_false (fun same => otherProcess ?_) nofun
      rw [← Option.some.inj same]
    · rw [Function.update_of_ne different]

/-- The error handlers, except that of a subscribed
`MtmExplicitFinishPrepared`. -/
theorem handle
    (tidy : Tidy state) (isBackend : state.backends procno = some backend)
    {caller : Caller}
    (cleans : backend.location.stream? = none ∨
      ∀ waitPeerCommits, caller ≠ .explicitFinishPrepared waitPeerCommits) :
    Tidy (state.handle procno caller backend) := by
  cases caller with
  | twoPhaseCommit => exact tidy.unsubscribe isBackend
  | explicitPrepare => exact tidy.unsubscribe isBackend
  | explicitFinishPrepared waitPeerCommits =>
    have noStream := cleans.resolve_right fun others => others waitPeerCommits rfl
    exact tidy.move isBackend noStream.symm

theorem subscribe
    (tidy : Tidy state) (isBackend : state.backends procno = some backend)
    (hasRoom : Bool) : Tidy (state.subscribe procno hasRoom backend) := by
  rw [State.subscribe]
  cases isLocation : backend.location with
  | mainLoop => exact tidy
  | subscribed caller stream => exact tidy
  | entered caller stream =>
    have noStream : backend.location.stream? = none := by rw [isLocation]; rfl
    dsimp only
    rcases dmqStreamSubscribe_cases state.dmq backend.locals procno
        stream hasRoom with
      isResult | ⟨isFree, isResult⟩
    · rw [isResult]
      have issued := tidy.failed isBackend noStream
      rw [isLocation] at issued
      exact issued.handle (Function.update_self ..) (Or.inl rfl)
    · rw [isResult]
      exact tidy.entered isBackend noStream isFree

theorem finish
    (tidy : Tidy state) (isBackend : state.backends procno = some backend) :
    Tidy (state.finish procno backend) := by
  rw [State.finish]
  cases isLocation : backend.location with
  | subscribed caller stream => exact tidy.unsubscribe isBackend
  | mainLoop =>
    have sameStream : Location.mainLoop.stream? = backend.location.stream? := by
      rw [isLocation]
    exact tidy.move isBackend sameStream
  | entered caller stream =>
    have sameStream : Location.mainLoop.stream? = backend.location.stream? := by
      rw [isLocation]
      rfl
    exact tidy.move isBackend sameStream

theorem raise
    (tidy : Tidy state) (isBackend : state.backends procno = some backend)
    (permitted : FinishesQuietly state (.raise procno)) :
    Tidy (state.raise procno backend) := by
  rw [FinishesQuietly, isBackend] at permitted
  rw [State.raise]
  cases isLocation : backend.location with
  | mainLoop => exact tidy
  | entered caller stream =>
    exact tidy.handle isBackend (Or.inl (isLocation ▸ rfl))
  | subscribed caller stream =>
    refine tidy.handle isBackend (Or.inr fun waitPeerCommits isCaller => ?_)
    rw [Option.any_some, isLocation, isCaller] at permitted
    exact nomatch permitted

theorem isNone_of_permits_start
    {location : Option Location} {procno : ℕ}
    (permitted : permits location (.start procno) = true) : location = none := by
  rcases location with _ | (_ | _ | _)
  · rfl
  all_goals exact nomatch permitted

theorem isMainLoop_of_permits_enter
    {location : Option Location} {procno stream : ℕ} {caller : Caller}
    (permitted : permits location (.enter procno caller stream) = true) :
    location = some .mainLoop := by
  rcases location with _ | (_ | _ | _)
  · exact nomatch permitted
  · rfl
  all_goals exact nomatch permitted

theorem perform
    (tidy : Tidy state) {action : Action} (enabled : machine.Enabled state action)
    (permitted : FinishesQuietly state action) : Tidy (state.perform action) := by
  cases action with
  | start procno =>
    have isFree := isNone_of_permits_start enabled
    exact tidy.start (Option.map_eq_none_iff.mp isFree)
  | enter procno caller stream =>
    rw [State.perform]
    cases isBackend : state.backends procno with
    | none => exact tidy
    | some backend =>
      have isLocation := isMainLoop_of_permits_enter enabled
      have inMainLoop : backend.location = .mainLoop := by
        simpa [Action.procno, isBackend] using isLocation
      have sameStream :
          (Location.entered caller stream).stream? =
            backend.location.stream? := by
        rw [inMainLoop]
        rfl
      exact tidy.move isBackend sameStream
  | subscribe procno hasRoom =>
    rw [State.perform]
    cases isBackend : state.backends procno with
    | none => exact tidy
    | some backend => exact tidy.subscribe isBackend hasRoom
  | finish procno =>
    rw [State.perform]
    cases isBackend : state.backends procno with
    | none => exact tidy
    | some backend => exact tidy.finish isBackend
  | raise procno =>
    rw [State.perform]
    cases isBackend : state.backends procno with
    | none => exact tidy
    | some backend => exact tidy.raise isBackend permitted
  | exit procno =>
    rw [State.perform]
    cases isBackend : state.backends procno with
    | none => exact tidy
    | some backend => exact tidy.exit isBackend

theorem init : Tidy machine.init where
  current := nofun
  table := fun _ _ => iff_of_false nofun nofun
  issued := nofun
  bound := nofun
  alive := nofun
  past := nofun

theorem reachable (reached : machine.Reachable FinishesQuietly state) :
    Tidy state := by
  refine Machine.Reachable.invariant init ?_ reached
  intro current action tidy enabled permitted
  exact tidy.perform enabled permitted

end Tidy

/-! ## Main result -/

/-- A backend in its main loop owns no subscription, a process that is gone owns
none, and so a stream is taken only as long as its owner is about its business
with it. -/
def Hygienic (state : State) : Prop :=
  (∀ procno backend, state.backends procno = some backend →
    backend.location = .mainLoop →
    ∀ stream gen, state.dmq.subscriptions stream ≠
      some { procno := procno, procnoGen := gen }) ∧
  (∀ subscriber ∈ state.exited, ∀ stream,
    state.dmq.subscriptions stream ≠ some subscriber) ∧
  ∀ stream subscriber, state.dmq.subscriptions stream = some subscriber →
    ∃ backend caller, state.backends subscriber.procno = some backend ∧
      backend.locals.myProcnoGen = subscriber.procnoGen ∧
      backend.location = .subscribed caller stream

/-- The table is hygienic in every run without an error in
`MtmExplicitFinishPrepared` between subscribing and unsubscribing. -/
theorem subscriptions_hygienic
    {state : State} (reached : machine.Reachable FinishesQuietly state) :
    Hygienic state := by
  have tidy := Tidy.reachable reached
  refine ⟨?_, ?_, ?_⟩
  · intro procno backend isBackend inMainLoop
    apply tidy.not_own isBackend
    rw [tidy.current procno backend isBackend, inMainLoop]
    rfl
  · intro subscriber isExited stream isEntry
    obtain ⟨backend, isBackend, isLocals⟩ :=
      (tidy.table stream subscriber).mp isEntry
    have notZero :=
      tidy.issued _ backend isBackend (by rw [isLocals]; exact nofun)
    have alive := tidy.alive _ backend isBackend notZero
    rw [isLocals] at alive
    exact alive isExited
  · intro stream subscriber isEntry
    obtain ⟨backend, isBackend, isLocals⟩ :=
      (tidy.table stream subscriber).mp isEntry
    have isStream := tidy.current _ backend isBackend
    rw [isLocals] at isStream
    cases isLocation : backend.location with
    | mainLoop =>
      rw [isLocation] at isStream
      exact nomatch isStream
    | entered caller other =>
      rw [isLocation] at isStream
      exact nomatch isStream
    | subscribed caller other =>
      rw [isLocation] at isStream
      obtain rfl := Option.some.inj isStream
      exact ⟨backend, caller, isBackend, by rw [isLocals], isLocation⟩

/-- A commit that fails, and a process that exits while it finishes a prepared
transaction. -/
def failAndExit : List Action :=
  [.start 0, .enter 0 .twoPhaseCommit 7, .subscribe 0 true, .raise 0,
    .enter 0 (.explicitFinishPrepared true) 5, .subscribe 0 true,
      .exit 0, .start 0]

theorem failAndExit_completes :
    (machine.execute FinishesQuietly machine.init failAndExit).isSome = true := by
  decide +kernel

theorem subscriptions_hygienic_failAndExit :
    let state := (machine.execute FinishesQuietly machine.init failAndExit).get
      failAndExit_completes
    { procno := 0, procnoGen := 1 } ∈ state.exited ∧ Hygienic state := by
  intro state
  have gone : { procno := 0, procnoGen := 1 } ∈ state.exited := by
    decide +kernel
  exact ⟨gone, subscriptions_hygienic
    (Machine.reachable_of_execute failAndExit failAndExit_completes)⟩

/-- `COMMIT PREPARED` is cancelled while it waits for its peers. -/
def cancelFinish : List Action :=
  [.start 0, .enter 0 (.explicitFinishPrepared true) 5,
    .subscribe 0 true, .raise 0]

theorem cancelFinish_completes :
    (machine.execute Machine.Always machine.init cancelFinish).isSome = true := by
  decide +kernel

/-- The backend commits another transaction and exits, and its slot is used
again. -/
def exitAfterCancel : List Action :=
  cancelFinish ++ [.enter 0 .twoPhaseCommit 7, .subscribe 0 true, .finish 0,
    .exit 0, .start 0]

theorem exitAfterCancel_completes :
    (machine.execute Machine.Always machine.init exitAfterCancel).isSome =
      true := by
  decide +kernel

/-- The cancelled backend is in its main loop with a subscription, which outlives
the process: nobody can subscribe to the stream any more. -/
theorem subscription_leaked :
    (∃ state backend, machine.Reachable Machine.Always state ∧
      state.backends 0 = some backend ∧ backend.location = .mainLoop ∧
      state.dmq.subscriptions 5 = some { procno := 0, procnoGen := 1 }) ∧
    ∃ state, machine.Reachable Machine.Always state ∧
      { procno := 0, procnoGen := 1 } ∈ state.exited ∧
      state.dmq.subscriptions 5 = some { procno := 0, procnoGen := 1 } ∧
      ∀ locals procno hasRoom,
        (dmqStreamSubscribe state.dmq locals procno 5 hasRoom).succeeded =
          false := by
  constructor
  · refine ⟨(machine.execute Machine.Always machine.init cancelFinish).get
      cancelFinish_completes,
      { locals := { myProcnoGen := 1, currStream := some 5 },
        location := .mainLoop },
      Machine.reachable_of_execute cancelFinish cancelFinish_completes, ?_, rfl,
        ?_⟩
    · decide +kernel
    · decide +kernel
  · let state := (machine.execute Machine.Always machine.init exitAfterCancel).get
      exitAfterCancel_completes
    have isEntry : state.dmq.subscriptions 5 =
        some { procno := 0, procnoGen := 1 } := by
      decide +kernel
    refine ⟨state,
      Machine.reachable_of_execute exitAfterCancel exitAfterCancel_completes,
      ?_, isEntry, ?_⟩
    · decide +kernel
    · intro locals procno hasRoom
      rw [dmqStreamSubscribe, isEntry]
      rfl

end Subscription
end Multimaster
