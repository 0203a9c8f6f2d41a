import Multimaster.Routing.Log

/-!
# Messages reach the subscriber they were routed to

The invariant of the queues, step by step, and what it says about deliveries.
-/

namespace Multimaster
namespace Routing

open Subscription

structure Invariant (state : State) : Prop where
  ids : Ids state.dmq state.processes state.nextPid state.issued
  served : Served state.slots state.receivers state.owners state.issued
  attached : Attached state.processes state.owners state.readers state.writers
    state.attachments
  logged :
    Logged state.receivers state.owners state.queues state.arrivals state.sent
    state.received state.issued

namespace Invariant

variable {state : State} {procno sender handle : ℕ} {process : Process}
variable {slot : Slot} {receiver : Receiver}

/-- Segments are made for generations that were issued. -/
theorem owner_gen
    (invariant : Invariant state) {owner : Owner}
    (isOwner : state.owners handle = some owner) :
    owner.subscriber.procnoGen ≠ 0 ∧
      owner.subscriber.procnoGen ≤
        state.dmq.procnoGens owner.subscriber.procno := by
  obtain ⟨pid, isIssued⟩ := invariant.served.owned handle owner isOwner
  exact (invariant.ids.valid _ isIssued).2

/-! ## Processes -/

theorem startProcess
    (invariant : Invariant state) (isFree : state.processes procno = none) :
    Invariant (state.perform (.startProcess procno)) where
  ids := invariant.ids.start rfl
  served := invariant.served
  attached := invariant.attached.start isFree
    (fun _ _ isOwner => (invariant.owner_gen isOwner).1) rfl fun _ => rfl
  logged := invariant.logged

theorem exitProcess
    (invariant : Invariant state)
    (isProcess : state.processes procno = some process) :
    Invariant (state.exitProcess procno process) := by
  obtain ⟨sameGens, -, fewer⟩ :=
    dmqStreamUnsubscribe_spec state.dmq process.locals
  refine ⟨invariant.ids.exit sameGens fewer, invariant.served, ?_,
    invariant.logged⟩
  apply invariant.attached.exit isProcess
  intro other second isSecond samePid
  apply invariant.ids.distinct other procno process.pid
  · rw [isSecond, Option.map_some, samePid]
  · rw [isProcess, Option.map_some]

theorem unsubscribe
    (invariant : Invariant state)
    (isProcess : state.processes procno = some process) :
    Invariant (state.unsubscribe procno process) := by
  obtain ⟨sameGens, sameGen, fewer⟩ :=
    dmqStreamUnsubscribe_spec state.dmq process.locals
  refine ⟨invariant.ids.replace isProcess rfl sameGen sameGens fewer,
    invariant.served, ?_,
    invariant.logged⟩
  apply invariant.attached.keep isProcess
  case samePid => rfl
  case sameAttached => exact fun _ _ => Iff.rfl
  case about =>
    dsimp only
    rw [sameGen]
    exact fun other handle =>
      invariant.attached.about procno process other handle isProcess
  case gens =>
    intro handle owner _ _ notSame
    dsimp only
    rwa [sameGen]

/-- A process that is about a segment has its generation already. -/
theorem subscribe
    (invariant : Invariant state)
    (isProcess : state.processes procno = some process)
    (stream : ℕ) (hasRoom : Bool) :
    Invariant (state.subscribe procno stream hasRoom process) := by
  obtain ⟨isGen, isGens, entries⟩ :=
    dmqStreamSubscribe_spec state.dmq process.locals procno stream hasRoom
  have grow : ∀ entry ∈ state.issued,
      entry ∈ issuedAfter state.dmq process procno state.issued :=
    fun _ => Ids.mem_issuedAfter
  refine ⟨invariant.ids.subscribe isProcess rfl isGen isGens entries,
    invariant.served.mono grow, ?_, invariant.logged.mono (fun _ _ => id) grow⟩
  apply invariant.attached.keep isProcess
  case samePid => rfl
  case sameAttached => exact fun _ _ => Iff.rfl
  case about =>
    intro sender handle isAbout
    obtain ⟨owner, isOwner, isSender, isSubscriber⟩ :=
      invariant.attached.about procno process sender handle isProcess isAbout
    have notZero := (invariant.owner_gen isOwner).1
    rw [isSubscriber] at notZero
    refine ⟨owner, isOwner, isSender, ?_⟩
    dsimp only
    rw [isSubscriber, isGen, issuedGen, if_neg notZero]
  case gens =>
    intro handle owner isOwner isProcno notSame
    have bound := (invariant.owner_gen isOwner).2
    dsimp only
    rw [isGen, issuedGen]
    split_ifs with isZero
    · rw [← isProcno]
      exact fun same => Nat.not_succ_le_self _ (same ▸ bound)
    · exact notSame

/-- A handle that is published for the generation of the process belongs to it. -/
theorem lookup
    (invariant : Invariant state)
    (isProcess : state.processes procno = some process)
    (isName : (state.slots slot).name = some sender)
    (notAttached : process.inhandles sender = .detached) :
    Invariant (state.lookup procno sender slot process) := by
  rw [State.lookup]
  split
  · rename_i handle isHandle
    split_ifs with isGen
    · refine ⟨invariant.ids.replace isProcess rfl rfl rfl fun _ _ =>
        id, invariant.served, ?_,
        invariant.logged⟩
      obtain ⟨receiver, isReceiver⟩ := invariant.served.live slot sender isName
      have serves := invariant.served.serves slot receiver isReceiver
      obtain ⟨owner, isOwner, isSender, isSubscriber⟩ :=
        serves.handles procno handle isHandle
      have sameSender := Option.some.inj (serves.name.symm.trans isName)
      apply invariant.attached.setInhandle isProcess
      case wasOut =>
        rw [notAttached]
        exact fun _ => nofun
      case isOut => exact fun _ => nofun
      case about =>
        intro other isFound
        obtain rfl := Inhandle.found.inj isFound
        rw [isGen] at isSubscriber
        exact ⟨owner, isOwner, isSender.trans sameSender, isSubscriber⟩
    · exact invariant
  · exact invariant

/-- A handle that was found is given up. -/
theorem detach
    (invariant : Invariant state)
    (isProcess : state.processes procno = some process)
    (isFound : process.inhandles sender = .found handle) :
    Invariant (state.setInhandle procno sender process .detached) where
  ids := invariant.ids.replace isProcess rfl rfl rfl fun _ _ => id
  served := invariant.served
  attached := by
    apply invariant.attached.setInhandle isProcess
    case wasOut =>
      rw [isFound]
      exact fun _ => nofun
    case isOut => exact fun _ => nofun
    case about => exact fun _ => nofun
  logged := invariant.logged

theorem attach
    (invariant : Invariant state)
    (isProcess : state.processes procno = some process) :
    Invariant (state.attach procno sender process) := by
  rw [State.attach]
  split
  · rename_i handle isFound
    split_ifs with isThere
    · exact
        { ids := invariant.ids.replace isProcess rfl rfl rfl fun _ _ => id
          served := invariant.served
          attached := invariant.attached.attach isProcess isFound isThere
          logged := invariant.logged }
    · exact invariant.detach isProcess isFound
  · exact invariant

theorem giveUp
    (invariant : Invariant state)
    (isProcess : state.processes procno = some process) :
    Invariant (state.giveUp procno sender process) := by
  rw [State.giveUp]
  split
  · rename_i handle isFound
    exact invariant.detach isProcess isFound
  · exact invariant

/-- The message was put into the queue for the generation of the process. -/
theorem receive
    (invariant : Invariant state)
    (isProcess : state.processes procno = some process) :
    Invariant (state.receive sender process) := by
  rw [State.receive]
  split
  · rename_i handle isAttached
    split
    · rename_i message rest isQueue
      refine ⟨invariant.ids, invariant.served, invariant.attached, ?_⟩
      apply invariant.logged.receive isQueue
      have isQueued : message ∈ state.queues handle := by
        rw [isQueue]
        exact List.mem_cons_self
      obtain ⟨owner, isOwner, -, sameSubscriber⟩ :=
        invariant.logged.routed _ (invariant.logged.mem_sent isQueued)
      obtain ⟨same, isSame, -, isSubscriber⟩ :=
        invariant.attached.about procno process sender handle isProcess
          (Or.inr isAttached)
      obtain rfl := Option.some.inj (isOwner.symm.trans isSame)
      have notZero := (invariant.owner_gen isOwner).1
      rw [isSubscriber] at notZero
      rw [← sameSubscriber, isSubscriber]
      exact invariant.ids.own procno process isProcess notZero
    · exact invariant
  · exact invariant

theorem release
    (invariant : Invariant state)
    (isProcess : state.processes procno = some process)
    (isDetached : state.Detached (some (process.inhandles sender))) :
    Invariant (state.release procno sender process) := by
  rw [State.release]
  split
  · rename_i handle isAttached
    rw [isAttached] at isDetached
    exact
      { ids := invariant.ids.replace isProcess rfl rfl rfl fun _ _ => id
        served := invariant.served
        attached := invariant.attached.release isProcess isAttached isDetached.1
        logged := invariant.logged }
  · exact invariant

/-! ## Receivers -/

theorem startReceiver
    (invariant : Invariant state) (slot : Slot) (sender : ℕ) :
    Invariant (state.startReceiver slot sender) where
  ids := invariant.ids
  served := by
    apply invariant.served.update _ (fun _ _ => id) invariant.served.owned
    constructor
    case name => rfl
    case queue => exact fun _ _ => nofun
    case handles => exact fun _ _ => nofun
    case created => exact fun _ _ => nofun
    case ready => exact fun _ _ => nofun
    case task => exact fun _ => nofun
  attached := invariant.attached
  logged := by
    apply invariant.logged.setReceiver
    intro next message isNext isMessage
    obtain rfl := Option.some.inj isNext
    exact nomatch isMessage

theorem exitReceiver (invariant : Invariant state) (slot : Slot) :
    Invariant (state.exitReceiver slot) where
  ids := invariant.ids
  served := invariant.served.exit rfl
  attached := invariant.attached
  logged := invariant.logged.setReceiver fun _ _ => nofun

theorem leave (invariant : Invariant state) (handle : ℕ) :
    Invariant (state.perform (.leave handle)) where
  ids := invariant.ids
  served := invariant.served
  attached := invariant.attached.leave handle
  logged := invariant.logged

/-- An idle receiver takes up a subscription of the table. -/
theorem serves_found
    (invariant : Invariant state)
    (isReceiver : state.receivers slot = some receiver)
    (isIdle : receiver.task = .idle) {stream : ℕ} {subscriber : Subscriber}
    (isEntry : state.dmq.subscriptions stream = some subscriber)
    (message : Option Message) :
    Serves (state.slots slot) slot { receiver with
      task := .found subscriber message }
      state.owners state.issued := by
  apply (invariant.served.serves slot receiver isReceiver).setTask
  case notCreated =>
    rw [isIdle]
    exact fun _ _ => nofun
  case begins => exact fun _ _ => nofun
  case ready => exact fun _ _ => nofun
  case isIssued =>
    intro other isOther
    obtain rfl := Option.some.inj isOther
    exact invariant.ids.subscribed stream subscriber isEntry

theorem arrive
    (invariant : Invariant state)
    (isReceiver : state.receivers slot = some receiver)
    (isIdle : receiver.task = .idle) (stream : ℕ) :
    Invariant (state.arrive slot stream receiver) := by
  rw [State.arrive]
  cases isEntry : state.dmq.subscriptions stream with
  | none =>
    exact ⟨invariant.ids, invariant.served, invariant.attached,
      invariant.logged.count slot⟩
  | some subscriber =>
    exact
      { ids := invariant.ids
        served := invariant.served.setReceiver
          (invariant.serves_found isReceiver isIdle isEntry _)
        attached := invariant.attached
        logged := invariant.logged.takeUp rfl rfl rfl rfl }

theorem request
    (invariant : Invariant state)
    (isReceiver : state.receivers slot = some receiver)
    (isIdle : receiver.task = .idle) (stream : ℕ) :
    Invariant (state.request slot stream receiver) := by
  rw [State.request]
  cases isEntry : state.dmq.subscriptions stream with
  | none => exact invariant
  | some subscriber =>
    refine ⟨invariant.ids, ?_, invariant.attached, ?_⟩
    · exact invariant.served.setReceiver
        (invariant.serves_found isReceiver isIdle isEntry _)
    · apply invariant.logged.setReceiver
      intro next message isNext isMessage
      obtain rfl := Option.some.inj isNext
      exact nomatch isMessage

/-- A receiver goes on with its message and its subscription. -/
theorem logged_goOn
    (invariant : Invariant state)
    (isReceiver : state.receivers slot = some receiver)
    {next : Receiver} (sameMessage : next.task.message? = receiver.task.message?)
    (sameSubscriber : next.task.subscriber? = receiver.task.subscriber?) :
    Logged (Function.update state.receivers slot (some next))
      state.owners state.queues
      state.arrivals state.sent state.received state.issued := by
  apply invariant.logged.setReceiver
  intro other message isOther isMessage
  obtain rfl := Option.some.inj isOther
  exact ⟨receiver, isReceiver, sameMessage.symm.trans isMessage,
    sameSubscriber.symm⟩

theorem check
    (invariant : Invariant state)
    (isReceiver : state.receivers slot = some receiver) :
    Invariant (state.check slot receiver) := by
  have serves := invariant.served.serves slot receiver isReceiver
  rw [State.check]
  cases isTask : receiver.task with
  | found subscriber message =>
    have notCreated : ∀ other second, receiver.task ≠ .created other second := by
      rw [isTask]
      exact fun _ _ => nofun
    have isIssued : ∀ other, some subscriber = some other →
        ∃ pid, (pid, other) ∈ state.issued := by
      intro other same
      exact serves.task other (by rw [isTask]; exact same)
    dsimp only
    cases isQueue : receiver.mqHandles subscriber.procno with
    | none =>
      refine ⟨invariant.ids, ?_, invariant.attached, ?_⟩
      · exact invariant.served.setReceiver
          (serves.setTask notCreated (fun _ _ => nofun)
          (fun _ _ => nofun) isIssued)
      · exact invariant.logged_goOn isReceiver (by rw [isTask]; rfl)
          (by rw [isTask]; rfl)
    | some handle =>
      dsimp only
      split_ifs with isGen
      · refine ⟨invariant.ids, ?_, invariant.attached, ?_⟩
        · apply invariant.served.setReceiver
          apply serves.setTask notCreated
          case begins => exact fun _ _ => nofun
          case ready =>
            intro other second isReady
            obtain ⟨rfl, rfl⟩ := Task.ready.inj isReady
            exact ⟨⟨handle, isQueue⟩, isGen⟩
          case isIssued => exact isIssued
        · exact invariant.logged_goOn isReceiver (by rw [isTask]; rfl)
            (by rw [isTask]; rfl)
      · refine ⟨invariant.ids, ?_, invariant.attached.leave handle, ?_⟩
        · exact invariant.served.setReceiver (serves.release isTask)
        · exact invariant.logged_goOn isReceiver (by rw [isTask]; rfl)
            (by rw [isTask]; rfl)
  | idle | released _ _ | created _ _ | ready _ _ => exact invariant

theorem create
    (invariant : Invariant state)
    (isReceiver : state.receivers slot = some receiver)
    (isFree : state.owners handle = none) :
    Invariant (state.create slot handle receiver) := by
  have serves := invariant.served.serves slot receiver isReceiver
  rw [State.create]
  cases isTask : receiver.task with
  | released subscriber message =>
    have isIssued := serves.task subscriber (by rw [isTask]; rfl)
    refine ⟨invariant.ids, ?_, ?_, ?_⟩
    · have updated := invariant.served.update (serves.create isTask isFree)
        (fun _ _ => update_of_free isFree) ?_
      · rwa [Function.update_eq_self] at updated
      · intro other owner isOwner
        obtain ⟨rfl, rfl⟩ | ⟨-, wasOwner⟩ := update_some_cases isOwner
        · exact isIssued
        · exact invariant.served.owned other owner wasOwner
    · apply invariant.attached.grow (fun _ _ => update_of_free isFree)
      intro other owner isOwner wasLeft
      have different : other ≠ handle := by
        rintro rfl
        exact nomatch isFree.symm.trans isOwner
      dsimp only
      rwa [Function.update_of_ne different]
    · have goesOn :
          Logged (Function.update state.receivers slot (some { receiver with
          mqHandles :=
            Function.update receiver.mqHandles subscriber.procno (some handle)
          task := .created subscriber message }))
            state.owners state.queues state.arrivals
          state.sent state.received state.issued :=
        invariant.logged_goOn isReceiver (by rw [isTask]; rfl)
          (by rw [isTask]; rfl)
      exact goesOn.mono (fun _ _ => update_of_free isFree) fun _ => id
  | idle | found _ _ | created _ _ | ready _ _ => exact invariant

theorem publish
    (invariant : Invariant state)
    (isReceiver : state.receivers slot = some receiver) :
    Invariant (state.publish slot receiver) := by
  have serves := invariant.served.serves slot receiver isReceiver
  rw [State.publish]
  cases isTask : receiver.task with
  | created subscriber message =>
    refine ⟨invariant.ids, ?_, invariant.attached, ?_⟩
    · exact invariant.served.update (serves.publish isTask) (fun _ _ => id)
        invariant.served.owned
    · exact invariant.logged_goOn isReceiver (by rw [isTask]; rfl)
        (by rw [isTask]; rfl)
  | idle | found _ _ | released _ _ | ready _ _ => exact invariant

/-- A good queue is one of the subscription of the message. -/
theorem send
    (invariant : Invariant state)
    (isReceiver : state.receivers slot = some receiver) :
    Invariant (state.send slot receiver) := by
  have serves := invariant.served.serves slot receiver isReceiver
  rw [State.send]
  cases isTask : receiver.task with
  | ready subscriber message? =>
    have notCreated : ∀ other second, receiver.task ≠ .created other second := by
      rw [isTask]
      exact fun _ _ => nofun
    have done :
        Invariant (state.setReceiver slot { receiver with task := .idle }) := by
      refine ⟨invariant.ids, ?_, invariant.attached, ?_⟩
      · exact invariant.served.setReceiver (serves.setTask notCreated
          (fun _ _ => nofun) (fun _ _ => nofun) fun _ => nofun)
      · apply invariant.logged.setReceiver
        intro next message isNext isMessage
        obtain rfl := Option.some.inj isNext
        exact nomatch isMessage
    dsimp only
    split
    · rename_i message handle isQueue
      split_ifs with isClosed
      · exact done
      · refine ⟨invariant.ids, done.served, invariant.attached, ?_⟩
        obtain ⟨-, isGen⟩ := serves.ready subscriber (some message) isTask
        obtain ⟨owner, isOwner, isSlot, -, isSubscriber⟩ :=
          serves.queue_published isQueue fun other second _ =>
            notCreated other second
        have isMessage : receiver.task.message? = some message := by
          rw [isTask]
          rfl
        obtain ⟨-, -, sameSubscriber, -⟩ :=
          invariant.logged.pending slot receiver message isReceiver isMessage
        rw [isTask] at sameSubscriber
        apply invariant.logged.send isReceiver isMessage rfl isOwner isSlot
        rw [isSubscriber, isGen, ← Option.some.inj sameSubscriber]
    · exact done
  | idle | found _ _ | released _ _ | created _ _ => exact invariant

/-! ## Runs -/

/-- Where nobody is in the process slot, nothing happens. -/
theorem of_process
    (invariant : Invariant state) {effect : Process → State}
    (step : ∀ process, state.processes procno = some process →
      Invariant (effect process)) :
    Invariant ((state.processes procno).elim state effect) := by
  cases isProcess : state.processes procno with
  | none => exact invariant
  | some process => exact step process isProcess

/-- Where no receiver is in the slot, nothing happens. -/
theorem of_receiver
    (invariant : Invariant state) {effect : Receiver → State}
    (step : ∀ receiver, state.receivers slot = some receiver →
      Invariant (effect receiver)) :
    Invariant ((state.receivers slot).elim state effect) := by
  cases isReceiver : state.receivers slot with
  | none => exact invariant
  | some receiver => exact step receiver isReceiver

theorem perform
    {action : Action} (invariant : Invariant state)
    (enabled : Enabled state action) :
    Invariant (state.perform action) := by
  cases action with
  | startProcess procno => exact invariant.startProcess enabled
  | startReceiver slot sender => exact invariant.startReceiver slot sender
  | exitReceiver slot => exact invariant.exitReceiver slot
  | leave handle => exact invariant.leave handle
  | exitProcess procno => exact invariant.of_process fun _ =>
      invariant.exitProcess
  | subscribe procno stream hasRoom =>
    apply invariant.of_process
    intro process isProcess
    exact invariant.subscribe isProcess stream hasRoom
  | unsubscribe procno => exact invariant.of_process fun _ =>
      invariant.unsubscribe
  | arrive slot stream =>
    apply invariant.of_receiver
    intro receiver isReceiver
    rw [Enabled, isReceiver] at enabled
    exact invariant.arrive isReceiver (Option.some.inj enabled) stream
  | request slot stream =>
    apply invariant.of_receiver
    intro receiver isReceiver
    rw [Enabled, isReceiver] at enabled
    exact invariant.request isReceiver (Option.some.inj enabled) stream
  | check slot => exact invariant.of_receiver fun _ => invariant.check
  | create slot handle =>
    apply invariant.of_receiver
    intro receiver isReceiver
    exact invariant.create isReceiver enabled
  | publish slot => exact invariant.of_receiver fun _ => invariant.publish
  | send slot => exact invariant.of_receiver fun _ => invariant.send
  | lookup procno sender slot =>
    apply invariant.of_process
    intro process isProcess
    obtain ⟨isName, notAttached⟩ := enabled
    rw [State.inhandle, isProcess] at notAttached
    exact invariant.lookup isProcess isName (Option.some.inj notAttached)
  | attach procno sender => exact invariant.of_process fun _ => invariant.attach
  | giveUp procno sender => exact invariant.of_process fun _ => invariant.giveUp
  | receive procno sender => exact invariant.of_process fun _ => invariant.receive
  | release procno sender =>
    apply invariant.of_process
    intro process isProcess
    rw [Enabled, State.inhandle, isProcess] at enabled
    exact invariant.release isProcess enabled

theorem init : Invariant machine.init where
  ids :=
    { pid := fun _ _ => nofun
      distinct := fun _ _ _ => nofun
      own := fun _ _ => nofun
      valid := fun _ => nofun
      unique := fun _ => nofun
      subscribed := fun _ _ => nofun }
  served :=
    { serves := fun _ _ => nofun
      live := fun _ _ => nofun
      owned := fun _ _ => nofun }
  attached :=
    { about := fun _ _ _ _ => nofun
      reader := fun _ _ _ _ => nofun
      process := fun _ _ => nofun
      once := fun _ => nofun
      nodup := List.nodup_nil }
  logged :=
    { order := fun _ => rfl
      routed := fun _ => nofun
      number := fun _ => nofun
      pending := fun _ _ _ => nofun
      sorted := List.Pairwise.nil
      reader := fun _ => nofun }

theorem reachable (reached : machine.Reachable Machine.Always state) :
    Invariant state := by
  apply @Machine.Reachable.invariant _ _ _ _ Invariant ?_ ?_ _ reached
  · exact init
  · intro current action invariant enabled _
    exact invariant.perform enabled

end Invariant

/-! ## Main result -/

/-- Every message is received by the process that was issued the generation of
its subscription, and by no other one, at most once; the messages of a queue are
received in the order in which they were put there, which is that of their
arrival. -/
theorem messages_reach_their_subscriber
    {state : State} (reached : machine.Reachable Machine.Always state) :
    (∀ reception ∈ state.received, ∀ pid,
      (pid, reception.message.subscriber) ∈ state.issued ↔ pid = reception.pid) ∧
    (∀ entry ∈ state.sent, ∃ owner, state.owners entry.1 = some owner ∧
      owner.subscriber = entry.2.subscriber) ∧
    (∀ handle, receivedFrom state.received handle <+: sentTo state.sent handle ∧
      (receivedFrom state.received handle).Pairwise fun first second =>
        first.number < second.number) ∧
    (state.received.map Reception.message).Nodup ∧ state.attachments.Nodup := by
  have invariant := Invariant.reachable reached
  have logged := invariant.logged
  refine ⟨?_, ?_, ?_, ?_, invariant.attached.nodup⟩
  · intro reception isReception pid
    have isReader := logged.reader reception isReception
    constructor
    · intro isIssued
      exact invariant.ids.unique _ isIssued _ isReader rfl
    · rintro rfl
      exact isReader
  · intro entry isSent
    obtain ⟨owner, isOwner, -, isSubscriber⟩ := logged.routed entry isSent
    exact ⟨owner, isOwner, isSubscriber⟩
  · intro handle
    exact ⟨logged.prefix_sentTo handle, logged.sorted_receivedFrom handle⟩
  · apply nodup_received
    · intro handle
      refine (logged.sorted_receivedFrom handle).imp ?_
      rintro first second earlier rfl
      exact Nat.lt_irrefl _ earlier
    · exact fun first isFirst second isSecond =>
        logged.received_handle isFirst isSecond

/-- Two messages are received by a process, and a third one by its successor in
the process slot. -/
def reusedSlot : List Action :=
  [.startProcess 0, .startReceiver 0 3, .subscribe 0 5 true,
    .request 0 5, .check 0,
    .create 0 100, .publish 0, .send 0, .lookup 0 3 0, .attach 0 3,
      .arrive 0 5, .check 0,
    .send 0, .arrive 0 5, .check 0, .send 0, .receive 0 3,
      .receive 0 3, .arrive 0 5,
    .check 0, .send 0, .exitProcess 0, .startProcess 0,
      .subscribe 0 5 true, .arrive 0 5,
    .check 0, .create 0 101, .publish 0, .send 0, .lookup 0 3 0, .attach 0 3,
      .receive 0 3]

theorem reusedSlot_completes :
    (machine.execute Machine.Always machine.init reusedSlot).isSome = true := by
  decide +kernel

theorem messages_reach_their_subscriber_reusedSlot :
    let state := (machine.execute Machine.Always machine.init reusedSlot).get
      reusedSlot_completes
    (state.received.map fun reception =>
      (reception.pid, reception.message.number)) =
      [(0, 0), (0, 1), (1, 3)] ∧
    ∀ reception ∈ state.received, ∀ pid,
      (pid, reception.message.subscriber) ∈ state.issued ↔
        pid = reception.pid := by
  intro state
  have receptions :
      (state.received.map fun reception =>
        (reception.pid, reception.message.number)) =
        [(0, 0), (0, 1), (1, 3)] := by
    decide +kernel
  exact ⟨receptions, (messages_reach_their_subscriber
    (Machine.reachable_of_execute reusedSlot reusedSlot_completes)).1⟩

end Routing
end Multimaster
