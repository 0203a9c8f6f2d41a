import Multimaster.Framing.Buffer

/-!
# What a dmq receiver delivers

However the bytes are cut into reads, the bytes that were not read from the
buffer and those on the wire are the frames that were not delivered.
-/

namespace Multimaster
namespace Framing

variable {answers : ℕ → Answer} {link other : Link}
variable {payload rest : List Byte}

/-- What the two readers do to the state. -/
structure Continues (link other : Link) : Prop where
  inside : other.Inside
  stage : other.stage = link.stage
  delivered : other.delivered = link.delivered
  asked : ∀ size ∈ other.asked, size ∈ link.asked ∨ 0 < size
  wire : other.wire.length ≤ link.wire.length

theorem Moved.continues (moved : Moved link other) : Continues link other where
  inside := moved.inside
  stage := moved.stage
  delivered := moved.delivered
  asked := by
    rw [moved.asked]
    exact fun size isAsked => Or.inl isAsked
  wire := by rw [moved.wire]

theorem Continues.trans {last : Link}
    (first : Continues link other) (second : Continues other last) :
    Continues link last where
  inside := second.inside
  stage := second.stage.trans first.stage
  delivered := second.delivered.trans first.delivered
  asked := by
    intro size isAsked
    rcases second.asked size isAsked with before | positive
    · exact first.asked size before
    · exact Or.inr positive
  wire := Nat.le_trans second.wire first.wire

theorem Link.Inside.continues_advance
    (inside : link.Inside) {count : ℕ}
    (enough : count ≤ link.recvBytes - link.readBytes) :
    Continues link (link.advance count) :=
  ⟨inside.advance enough, rfl, rfl, fun _ isAsked => Or.inl isAsked,
    Nat.le_refl _⟩

theorem Link.mem_asked_ask {size : ℕ} (positive : 0 < size) :
    ∀ asked ∈ (link.ask size).asked, asked ∈ link.asked ∨ 0 < asked := by
  intro asked isAsked
  rcases List.mem_append.mp isAsked with before | isNew
  · exact Or.inl before
  · rw [List.mem_singleton.mp isNew]
    exact Or.inr positive

theorem Link.Inside.continues_ask
    (inside : link.Inside) {size : ℕ} (positive : 0 < size) :
    Continues link (link.ask size) :=
  ⟨⟨inside.read_le, inside.recv_le⟩, rfl, rfl, Link.mem_asked_ask positive,
    Nat.le_refl _⟩

/-! ## A message -/

/-- The search of a message after a read. -/
theorem recheck_cases
    (inside : link.Inside)
    (content : link.unread ++ link.wire = message payload ++ rest)
    (short : Short payload) :
    ∃ other, Continues link other ∧ other.wire = link.wire ∧
      ((link.recheck = (other, .got payload) ∧
          other.unread ++ other.wire = rest) ∨
        (link.recheck = (other, .notYet) ∧
          other.unread ++ other.wire = message payload ++ rest)) := by
  unfold Link.recheck
  rcases haveFullMessage_cases inside content short with
    ⟨found, enough⟩ | ⟨-, other, notFound, moved⟩
  · rw [found]
    have behind := unread_behind_message content enough
    exact ⟨link.advance _, inside.continues_advance enough, rfl,
      Or.inl ⟨rfl, behind⟩⟩
  · rw [notFound]
    refine ⟨other, moved.continues, moved.wire, Or.inr ⟨rfl, ?_⟩⟩
    rw [moved.unread, moved.wire]
    exact content

/-- The read of a part of a message. -/
theorem readMore_cases
    (inside : link.Inside) (room : link.recvBytes < dmqRecvBuffer)
    (content : link.unread ++ link.wire = message payload ++ rest)
    (short : Short payload) (someSent : link.wire ≠ []) :
    ∃ other, Continues link other ∧
      ((link.readMore answers = (other, .got payload) ∧
          other.unread ++ other.wire = rest) ∨
        (link.readMore answers = (other, .notYet) ∧
          other.unread ++ other.wire = message payload ++ rest ∧
          (other.wire.length < link.wire.length ∨
            Blocked answers link other)) ∨
        (link.readMore answers = (other, .eof) ∧
          ∃ call, answers call = .eof)) := by
  have positive : 0 < dmqRecvBuffer - link.recvBytes := by omega
  unfold Link.readMore
  rcases secureRead_cases answers link positive someSent with
    ⟨reads, blocked⟩ | ⟨reads, isEof⟩ |
      ⟨bytes, later, wire, nonempty, fits, reads⟩
  · rw [reads]
    exact ⟨link.ask _, inside.continues_ask positive,
      Or.inr (Or.inl ⟨rfl, content, Or.inr blocked⟩)⟩
  · rw [reads]
    exact ⟨link.ask _, inside.continues_ask positive,
      Or.inr (Or.inr ⟨rfl, _, isEof⟩)⟩
  · rw [reads]
    have read_le := inside.read_le
    have someBytes := List.length_pos_of_ne_nil nonempty
    let taken : Link :=
      { link.ask (dmqRecvBuffer - link.recvBytes) with wire := later }
    have takenInside : taken.Inside := ⟨inside.read_le, inside.recv_le⟩
    have received : (taken.receive bytes).Inside := by
      constructor
      · simp only [Link.receive, taken, Link.ask]
        omega
      · simp only [Link.receive, taken, Link.ask]
        omega
    have sameContent : (taken.receive bytes).unread ++
        (taken.receive bytes).wire = message payload ++ rest := by
      rw [Link.unread_receive takenInside, List.append_assoc]
      change link.unread ++ (bytes ++ later) = _
      rw [← wire]
      exact content
    have shorter : later.length < link.wire.length := by
      rw [wire, List.length_append]
      omega
    have continues : Continues link (taken.receive bytes) :=
      ⟨received, rfl, rfl, Link.mem_asked_ask positive, Nat.le_of_lt shorter⟩
    obtain ⟨other, onward, sameWire, outcome⟩ :=
      recheck_cases received sameContent short
    refine ⟨other, continues.trans onward, ?_⟩
    rcases outcome with ⟨found, behind⟩ | ⟨notFound, same⟩
    · exact Or.inl ⟨found, behind⟩
    · refine Or.inr (Or.inl ⟨notFound, same, Or.inl ?_⟩)
      rw [sameWire]
      exact shorter

theorem Blocked.congr
    {before : Link} (moved : Moved before link)
    (blocked : Blocked answers link other) : Blocked answers before other where
  wire := blocked.wire.trans moved.wire
  later := by
    rw [← moved.asked]
    exact blocked.later
  noData := by
    rw [← moved.asked]
    exact blocked.noData

/-- `_pq_getmessage_if_avalable` gives the message, or leaves it where it is. -/
theorem getMessageIfAvailable_cases
    (answers : ℕ → Answer) (inside : link.Inside)
    (content : link.unread ++ link.wire = message payload ++ rest)
    (short : Short payload) :
    ∃ other, Continues link other ∧
      ((getMessageIfAvailable answers link = (other, .got payload) ∧
          other.unread ++ other.wire = rest) ∨
        (getMessageIfAvailable answers link = (other, .notYet) ∧
          other.unread ++ other.wire = message payload ++ rest ∧
          (other.wire.length < link.wire.length ∨
            Blocked answers link other)) ∨
        (getMessageIfAvailable answers link = (other, .eof) ∧
          ∃ call, answers call = .eof)) := by
  unfold getMessageIfAvailable
  rcases haveFullMessage_cases inside content short with
    ⟨found, enough⟩ | ⟨notEnough, moved, notFound, isMoved⟩
  · rw [found]
    have behind := unread_behind_message content enough
    exact ⟨link.advance _, inside.continues_advance enough,
      Or.inl ⟨rfl, behind⟩⟩
  · rw [notFound]
    have made := isMoved.trans isMoved.inside.makeRoom
    have few : moved.unread.length < dmqRecvBuffer := by
      rw [isMoved.unread, Link.length_unread]
      unfold Short at short
      omega
    have room := isMoved.inside.recvBytes_makeRoom few
    have sameContent : moved.makeRoom.unread ++ moved.makeRoom.wire =
        message payload ++ rest := by
      rw [made.unread, made.wire]
      exact content
    -- the rest of the message is still on the wire
    have someSent : moved.makeRoom.wire ≠ [] := by
      intro noneSent
      rw [made.wire] at noneSent
      have lengths := congrArg List.length content
      simp only [noneSent, List.append_nil, Link.length_unread,
        List.length_append, length_message] at lengths
      omega
    obtain ⟨other, onward, outcome⟩ :=
      readMore_cases made.inside room sameContent short someSent
    refine ⟨other, made.continues.trans onward, ?_⟩
    rcases outcome with found | ⟨notYet, same, progress⟩ | isEof
    · exact Or.inl found
    · refine Or.inr (Or.inl ⟨notYet, same, ?_⟩)
      rw [← made.wire]
      exact progress.imp_right (Blocked.congr made)
    · exact Or.inr (Or.inr isEof)

/-! ## A byte -/

/-- `_pq_getbyte_if_available` gives the next byte, from the buffer or from the
socket, or leaves it where it is. -/
theorem getByteIfAvailable_cases
    (answers : ℕ → Answer) {byte : Byte} (inside : link.Inside)
    (content : link.unread ++ link.wire = byte :: rest) :
    ∃ other, Continues link other ∧
      ((getByteIfAvailable answers link = (other, .got byte) ∧
          other.unread ++ other.wire = rest ∧
          (other.wire.length < link.wire.length ∨
            (other.wire = link.wire ∧ other.asked = link.asked))) ∨
        (getByteIfAvailable answers link = (other, .notYet) ∧
          other.unread ++ other.wire = byte :: rest ∧
          Blocked answers link other) ∨
        (getByteIfAvailable answers link = (other, .eof) ∧
          ∃ call, answers call = .eof)) := by
  unfold getByteIfAvailable
  by_cases some : link.readBytes < link.recvBytes
  · have enough : 1 ≤ link.recvBytes - link.readBytes := by omega
    rw [Link.unread_take 1 enough] at content
    have isByte : link.recvBuffer link.readBytes = byte ∧
        (link.advance 1).unread ++ link.wire = rest := by
      simpa [Memory.load, List.range_succ] using content
    rw [if_pos some, isByte.1]
    exact ⟨link.advance 1, inside.continues_advance enough,
      Or.inl ⟨rfl, isByte.2, Or.inr ⟨rfl, rfl⟩⟩⟩
  · have noneUnread : link.unread = [] := by
      apply List.eq_nil_of_length_eq_zero
      rw [Link.length_unread]
      omega
    rw [noneUnread, List.nil_append] at content
    have someSent : link.wire ≠ [] := by
      rw [content]
      exact List.cons_ne_nil _ _
    rw [if_neg some]
    rcases secureRead_cases answers link Nat.one_pos someSent with
      ⟨reads, blocked⟩ | ⟨reads, isEof⟩ |
        ⟨bytes, later, wire, nonempty, fits, reads⟩
    · rw [reads]
      refine ⟨link.ask 1, inside.continues_ask Nat.one_pos,
        Or.inr (Or.inl ⟨rfl, ?_, blocked⟩)⟩
      change link.unread ++ link.wire = _
      rw [noneUnread, List.nil_append, content]
    · rw [reads]
      exact ⟨link.ask 1, inside.continues_ask Nat.one_pos,
        Or.inr (Or.inr ⟨rfl, _, isEof⟩)⟩
    · rw [reads]
      have someBytes := List.length_pos_of_ne_nil nonempty
      obtain ⟨first, rfl⟩ : ∃ first, bytes = [first] :=
        List.length_eq_one_iff.mp (by omega)
      rw [wire, List.singleton_append, List.cons.injEq] at content
      have shorter : later.length < link.wire.length := by
        rw [wire]
        exact Nat.lt_succ_self _
      refine ⟨{ link.ask 1 with wire := later }, ?_, Or.inl ⟨?_, ?_, ?_⟩⟩
      · exact ⟨⟨inside.read_le, inside.recv_le⟩, rfl, rfl,
          Link.mem_asked_ask Nat.one_pos, Nat.le_of_lt shorter⟩
      · rw [← content.1]
        rfl
      · change link.unread ++ later = rest
        rw [noneUnread, List.nil_append, content.2]
      · exact Or.inl shorter

/-- Without any bytes left there is nothing to read. -/
theorem getByteIfAvailable_nil
    (answers : ℕ → Answer) (inside : link.Inside)
    (noneLeft : link.unread ++ link.wire = []) :
    Continues link (link.ask 1) ∧
      (link.ask 1).unread ++ (link.ask 1).wire = [] ∧
      (getByteIfAvailable answers link = (link.ask 1, .notYet) ∨
        (getByteIfAvailable answers link = (link.ask 1, .eof) ∧
          ∃ call, answers call = .eof)) := by
  refine ⟨inside.continues_ask Nat.one_pos, noneLeft, ?_⟩
  obtain ⟨noneUnread, noneSent⟩ := List.append_eq_nil_iff.mp noneLeft
  have length := congrArg List.length noneUnread
  rw [Link.length_unread, List.length_nil] at length
  unfold getByteIfAvailable secureRead
  rw [if_neg (by omega : ¬ link.readBytes < link.recvBytes)]
  cases answer : answers link.asked.length with
  | wouldBlock => exact Or.inl rfl
  | eof => exact Or.inr ⟨rfl, _, answer⟩
  | data limit =>
      simp only [if_pos noneSent]
      exact Or.inl trivial

/-! ## Rounds -/

/-- What is left in the buffer and on the wire, by the stage of the receiver. -/
def Expects
    (answers : ℕ → Answer) (link : Link) (remaining : List (List Byte)) : Prop :=
  match link.stage with
  | .needByte => link.unread ++ link.wire = frames remaining
  | .needMessage =>
      ∃ payload later, remaining = payload :: later ∧
        link.unread ++ link.wire = message payload ++ frames later
  | .closed => ∃ call, answers call = .eof
  | .failed => False

/-- The invariant, with the payloads that were not delivered. -/
structure LinkOk
    (answers : ℕ → Answer) (payloads : List (List Byte)) (link : Link)
    (remaining : List (List Byte)) : Prop where
  inside : link.Inside
  asked : ∀ size ∈ link.asked, 0 < size
  delivered : link.delivered ++ remaining = payloads
  content : Expects answers link remaining

/-- What is to be done: bytes to be read, and messages to be delivered. -/
def Link.work (link : Link) (remaining : List (List Byte)) : ℕ :=
  link.wire.length + remaining.length

/-- Less is to be done, or the socket had nothing, or the connection is
closed. -/
def Progress
    (answers : ℕ → Answer) (link : Link) (remaining : List (List Byte))
    (other : Link) (left : List (List Byte)) : Prop :=
  other.work left < link.work remaining ∨ Blocked answers link other ∨
    other.stage = .closed

variable {payloads remaining : List (List Byte)}

/-- The invariant behind one of the readers. -/
theorem LinkOk.continues
    (ok : LinkOk answers payloads link remaining)
    (continues : Continues link other)
    (content : Expects answers other remaining) :
    LinkOk answers payloads other remaining where
  inside := continues.inside
  asked := by
    intro size isAsked
    rcases continues.asked size isAsked with before | positive
    · exact ok.asked size before
    · exact positive
  delivered := by
    rw [continues.delivered]
    exact ok.delivered
  content := content

/-- The connection is found closed. -/
theorem LinkOk.close
    (ok : LinkOk answers payloads link remaining)
    (continues : Continues link other) (isEof : ∃ call, answers call = .eof) :
    LinkOk answers payloads { other with stage := .closed } remaining := by
  have closes : Continues { link with stage := .closed }
      { other with stage := .closed } :=
    ⟨⟨continues.inside.read_le, continues.inside.recv_le⟩, rfl,
      continues.delivered, continues.asked, continues.wire⟩
  have closed : LinkOk answers payloads { link with stage := .closed }
      remaining :=
    ⟨⟨ok.inside.read_le, ok.inside.recv_le⟩, ok.asked, ok.delivered, isEof⟩
  exact closed.continues closes isEof

/-- The second half of a round. -/
theorem LinkOk.messageStep
    (ok : LinkOk answers payloads link remaining)
    (short : ∀ payload ∈ payloads, Short payload)
    (isStage : link.stage = .needMessage) :
    ∃ left, LinkOk answers payloads (link.messageStep answers) left ∧
      (link.messageStep answers).work left ≤ link.work remaining ∧
      Progress answers link remaining (link.messageStep answers) left := by
  have expects := ok.content
  simp only [Expects, isStage] at expects
  obtain ⟨payload, later, rfl, content⟩ := expects
  have isShort : Short payload := by
    apply short
    rw [← ok.delivered]
    exact List.mem_append_right _ List.mem_cons_self
  unfold Link.messageStep
  obtain ⟨other, continues, outcome⟩ :=
    getMessageIfAvailable_cases answers ok.inside content isShort
  have noMore := continues.wire
  rcases outcome with ⟨reads, behind⟩ | ⟨reads, same, progress⟩ |
    ⟨reads, isEof⟩
  · rw [reads]
    have fewer : other.wire.length + later.length <
        link.wire.length + (payload :: later).length := by
      rw [List.length_cons]
      omega
    refine ⟨later, ⟨⟨continues.inside.read_le, continues.inside.recv_le⟩, ?_,
      ?_, behind⟩, Nat.le_of_lt fewer, Or.inl fewer⟩
    · intro size isAsked
      rcases continues.asked size isAsked with before | positive
      · exact ok.asked size before
      · exact positive
    · simp only
      rw [continues.delivered, List.append_assoc, List.singleton_append]
      exact ok.delivered
  · rw [reads]
    have isNext : other.stage = .needMessage := continues.stage.trans isStage
    refine ⟨payload :: later, ok.continues continues ?_,
      Nat.add_le_add_right noMore _, ?_⟩
    · simp only [Expects, isNext]
      exact ⟨payload, later, rfl, same⟩
    · rcases progress with shorter | blocked
      · exact Or.inl (Nat.add_lt_add_right shorter _)
      · exact Or.inr (Or.inl blocked)
  · rw [reads]
    exact ⟨payload :: later, ok.close continues isEof,
      Nat.add_le_add_right noMore _, Or.inr (Or.inr rfl)⟩

theorem frames_cons (payload : List Byte) (later : List (List Byte)) :
    frames (payload :: later) =
      copyData :: (message payload ++ frames later) :=
  List.flatMap_cons

theorem Progress.of_same
    {last : Link} {left : List (List Byte)}
    (wire : other.wire = link.wire) (asked : other.asked = link.asked)
    (progress : Progress answers other remaining last left) :
    Progress answers link remaining last left := by
  rcases progress with less | blocked | isClosed
  · refine Or.inl ?_
    simp only [Link.work] at less ⊢
    rwa [← wire]
  · refine Or.inr (Or.inl ⟨blocked.wire.trans wire, ?_, ?_⟩)
    · rw [← asked]
      exact blocked.later
    · rw [← asked]
      exact blocked.noData
  · exact Or.inr (Or.inr isClosed)

/-- A round that begins with a byte, while there are frames left. -/
theorem LinkOk.round_byte
    {payload : List Byte} {later : List (List Byte)}
    (ok : LinkOk answers payloads link (payload :: later))
    (short : ∀ payload ∈ payloads, Short payload)
    (isStage : link.stage = .needByte) :
    ∃ left, LinkOk answers payloads (link.round answers) left ∧
      (link.round answers).work left ≤ link.work (payload :: later) ∧
      Progress answers link (payload :: later) (link.round answers) left := by
  have content := ok.content
  simp only [Expects, isStage, frames_cons] at content
  simp only [Link.round, if_pos isStage, Link.byteStep]
  obtain ⟨other, continues, outcome⟩ :=
    getByteIfAvailable_cases answers ok.inside content
  have noMore := continues.wire
  rcases outcome with ⟨reads, behind, progress⟩ | ⟨reads, same, blocked⟩ |
    ⟨reads, isEof⟩
  · simp only [reads, if_true]
    have next : LinkOk answers payloads { other with stage := .needMessage }
        (payload :: later) := by
      constructor
      · exact ⟨continues.inside.read_le, continues.inside.recv_le⟩
      · intro size isAsked
        rcases continues.asked size isAsked with before | positive
        · exact ok.asked size before
        · exact positive
      · rw [← ok.delivered, ← continues.delivered]
      · exact ⟨payload, later, rfl, behind⟩
    obtain ⟨left, okLeft, less, onward⟩ := next.messageStep short rfl
    have total : other.work (payload :: later) ≤
        link.work (payload :: later) :=
      Nat.add_le_add_right noMore _
    refine ⟨left, okLeft, Nat.le_trans less total, ?_⟩
    rcases progress with shorter | ⟨wire, asked⟩
    · exact Or.inl (Nat.lt_of_le_of_lt less (Nat.add_lt_add_right shorter _))
    · have sameWire : ({ other with stage := .needMessage } : Link).wire =
          link.wire :=
        wire
      exact onward.of_same sameWire asked
  · have isNext : other.stage = .needByte := continues.stage.trans isStage
    have notMessage : other.stage ≠ .needMessage := by
      rw [isNext]
      decide
    simp only [reads, if_neg notMessage]
    refine ⟨payload :: later, ok.continues continues ?_,
      Nat.add_le_add_right noMore _, Or.inr (Or.inl blocked)⟩
    simp only [Expects, isNext, frames_cons]
    exact same
  · simp only [reads, reduceCtorEq, if_false]
    exact ⟨payload :: later, ok.close continues isEof,
      Nat.add_le_add_right noMore _, Or.inr (Or.inr rfl)⟩

/-- A round when all frames were delivered. -/
theorem LinkOk.round_idle
    (ok : LinkOk answers payloads link [])
    (isStage : link.stage = .needByte) :
    LinkOk answers payloads (link.round answers) [] ∧
      (link.round answers).work [] ≤ link.work [] := by
  have content := ok.content
  simp only [Expects, isStage] at content
  simp only [Link.round, if_pos isStage, Link.byteStep]
  obtain ⟨continues, same, outcome⟩ :=
    getByteIfAvailable_nil answers ok.inside content
  have isNext : (link.ask 1).stage = .needByte := continues.stage.trans isStage
  have notMessage : (link.ask 1).stage ≠ .needMessage := by
    rw [isNext]
    decide
  rcases outcome with reads | ⟨reads, isEof⟩
  · simp only [reads, if_neg notMessage]
    refine ⟨ok.continues continues ?_, Nat.add_le_add_right continues.wire _⟩
    simp only [Expects, isNext]
    exact same
  · simp only [reads, reduceCtorEq, if_false]
    exact ⟨ok.close continues isEof, Nat.add_le_add_right continues.wire _⟩

/-- A round keeps the invariant; and there is progress as long as there is
something to be done. -/
theorem LinkOk.round
    (ok : LinkOk answers payloads link remaining)
    (short : ∀ payload ∈ payloads, Short payload) :
    ∃ left, LinkOk answers payloads (link.round answers) left ∧
      (link.round answers).work left ≤ link.work remaining ∧
      (0 < link.work remaining →
        Progress answers link remaining (link.round answers) left) := by
  have expects := ok.content
  cases isStage : link.stage with
  | needByte =>
      cases remaining with
      | nil =>
          obtain ⟨kept, less⟩ := ok.round_idle isStage
          refine ⟨[], kept, less, ?_⟩
          intro someWork
          -- without frames there are no bytes on the wire
          simp only [Expects, isStage] at expects
          have noneSent : link.wire = [] := (List.append_eq_nil_iff.mp expects).2
          simp [Link.work, noneSent] at someWork
      | cons payload later =>
          obtain ⟨left, kept, less, progress⟩ := ok.round_byte short isStage
          exact ⟨left, kept, less, fun _ => progress⟩
  | needMessage =>
      have isRound : link.round answers = link.messageStep answers := by
        simp [Link.round, isStage]
      rw [isRound]
      obtain ⟨left, kept, less, progress⟩ := ok.messageStep short isStage
      exact ⟨left, kept, less, fun _ => progress⟩
  | closed =>
      have isRound : link.round answers = link := by
        simp [Link.round, isStage]
      rw [isRound]
      exact ⟨remaining, ok, Nat.le_refl _, fun _ => Or.inr (Or.inr isStage)⟩
  | failed =>
      simp only [Expects, isStage] at expects

/-! ## Runs -/

theorem Link.run_add (answers : ℕ → Answer) (first second : ℕ) (link : Link) :
    link.run answers (first + second) =
      (link.run answers first).run answers second := by
  induction second with
  | zero => rfl
  | succ second inductionHypothesis =>
      rw [← Nat.add_assoc, Link.run, inductionHypothesis, Link.run]

theorem LinkOk.run
    (ok : LinkOk answers payloads link remaining)
    (short : ∀ payload ∈ payloads, Short payload) (rounds : ℕ) :
    ∃ left, LinkOk answers payloads (link.run answers rounds) left ∧
      (link.run answers rounds).work left ≤ link.work remaining := by
  induction rounds with
  | zero => exact ⟨remaining, ok, Nat.le_refl _⟩
  | succ rounds inductionHypothesis =>
      obtain ⟨middle, okMiddle, lessMiddle⟩ := inductionHypothesis
      obtain ⟨left, okLeft, less, _⟩ := okMiddle.round short
      exact ⟨left, okLeft, Nat.le_trans less lessMiddle⟩

theorem LinkOk.connect
    (answers : ℕ → Answer) (recvBuffer : Memory)
    (payloads : List (List Byte)) :
    LinkOk answers payloads (connect recvBuffer (frames payloads)) payloads where
  inside := ⟨Nat.le_refl 0, Nat.zero_le _⟩
  asked := fun _ isAsked => by cases isAsked
  delivered := rfl
  content := rfl

/-- A connection that is not closed stays open. -/
theorem LinkOk.stage_ne_closed
    (ok : LinkOk answers payloads link remaining)
    (staysOpen : ∀ call, answers call ≠ .eof) : link.stage ≠ .closed := by
  intro isClosed
  have content := ok.content
  simp only [Expects, isClosed] at content
  obtain ⟨call, isEof⟩ := content
  exact staysOpen call isEof

/-- Some rounds later less is to be done: at the latest when the socket has
data. -/
theorem LinkOk.less_later
    (ok : LinkOk answers payloads link remaining)
    (short : ∀ payload ∈ payloads, Short payload)
    (staysOpen : ∀ call, answers call ≠ .eof) {call limit : ℕ}
    (isData : answers call = .data limit) (later : link.asked.length ≤ call)
    (someWork : 0 < link.work remaining) :
    ∃ rounds left, LinkOk answers payloads (link.run answers rounds) left ∧
      (link.run answers rounds).work left < link.work remaining := by
  -- by induction on the calls before the one with data
  induction bound : call - link.asked.length using Nat.strongRecOn
    generalizing link remaining with
  | ind calls inductionHypothesis =>
      obtain ⟨left, okLeft, less, progress⟩ := ok.round short
      rcases progress someWork with decreased | blocked | isClosed
      · exact ⟨1, left, okLeft, decreased⟩
      · have notYet : (link.round answers).asked.length ≤ call := by
          by_contra before
          exact blocked.noData call later (by omega) limit isData
        by_cases sameWork : (link.round answers).work left < link.work remaining
        · exact ⟨1, left, okLeft, sameWork⟩
        · have nearer : call - (link.round answers).asked.length < calls := by
            have further := blocked.later
            omega
          obtain ⟨rounds, last, okLast, lessLast⟩ := inductionHypothesis _ nearer
            okLeft notYet (by omega) rfl
          refine ⟨1 + rounds, last, ?_, ?_⟩
          · rw [Link.run_add]
            exact okLast
          · rw [Link.run_add]
            exact Nat.lt_of_lt_of_le lessLast less
      · exact absurd isClosed (okLeft.stage_ne_closed staysOpen)

/-- When the socket has data again and again, everything is delivered. -/
theorem LinkOk.all_delivered
    (ok : LinkOk answers payloads link remaining)
    (short : ∀ payload ∈ payloads, Short payload)
    (staysOpen : ∀ call, answers call ≠ .eof)
    (recurs : ∀ first, ∃ call limit, first ≤ call ∧
      answers call = .data limit) :
    ∃ rounds left, LinkOk answers payloads (link.run answers rounds) left ∧
      (link.run answers rounds).work left = 0 := by
  induction bound : link.work remaining using Nat.strongRecOn
    generalizing link remaining with
  | ind work inductionHypothesis =>
      by_cases someWork : 0 < link.work remaining
      · obtain ⟨call, limit, later, isData⟩ := recurs link.asked.length
        obtain ⟨first, left, okLeft, less⟩ :=
          ok.less_later short staysOpen isData later someWork
        obtain ⟨second, last, okLast, isDone⟩ :=
          inductionHypothesis _ (by omega) okLeft rfl
        refine ⟨first + second, last, ?_, ?_⟩
        · rw [Link.run_add]
          exact okLast
        · rw [Link.run_add]
          exact isDone
      · exact ⟨0, remaining, ok, by simp only [Link.run]; omega⟩

/-- For all payloads that are shorter than the buffer and all answers of the
socket, the receiver has delivered a first part of the payloads after every
number of rounds, its cursors are within the buffer, and it never asked for zero
bytes; and when the connection stays open and has data again and again, it has
delivered all payloads from some round on. -/
theorem receiver_delivers
    (recvBuffer : Memory) (payloads : List (List Byte))
    (short : ∀ payload ∈ payloads, Short payload) (answers : ℕ → Answer) :
    (∀ rounds,
      let link := (connect recvBuffer (frames payloads)).run answers rounds
      link.delivered <+: payloads ∧ link.stage ≠ .failed ∧
        link.readBytes ≤ link.recvBytes ∧ link.recvBytes ≤ dmqRecvBuffer ∧
        ∀ size ∈ link.asked, 0 < size) ∧
      ((∀ call, answers call ≠ .eof) →
        (∀ first, ∃ call limit, first ≤ call ∧ answers call = .data limit) →
        ∃ enough, ∀ rounds ≥ enough,
          ((connect recvBuffer (frames payloads)).run answers
            rounds).delivered = payloads) := by
  have ok := LinkOk.connect answers recvBuffer payloads
  constructor
  · intro rounds
    obtain ⟨left, okLeft, -⟩ := ok.run short rounds
    refine ⟨⟨left, okLeft.delivered⟩, ?_, okLeft.inside.read_le,
      okLeft.inside.recv_le, okLeft.asked⟩
    intro isFailed
    have content := okLeft.content
    simp only [Expects, isFailed] at content
  · intro staysOpen recurs
    obtain ⟨enough, left, okLeft, isDone⟩ :=
      ok.all_delivered short staysOpen recurs
    refine ⟨enough, ?_⟩
    intro rounds notBefore
    obtain ⟨more, rfl⟩ := Nat.exists_eq_add_of_le notBefore
    rw [Link.run_add]
    obtain ⟨last, okLast, less⟩ := okLeft.run short more
    have noneLeft : last = [] := by
      apply List.eq_nil_of_length_eq_zero
      have total := Nat.le_trans less (Nat.le_of_eq isDone)
      unfold Link.work at total
      omega
    have delivered := okLast.delivered
    rwa [noneLeft, List.append_nil] at delivered

/-- Single bytes, each after a call that would block. -/
def trickle (call : ℕ) : Answer :=
  if call % 2 = 0 then .wouldBlock else .data 0

theorem receiver_delivers_trickle :
    ∃ enough, ∀ rounds ≥ enough,
      ((connect (fun _ => 0) (frames [[1], [2, 3]])).run trickle
        rounds).delivered = [[1], [2, 3]] := by
  have short : ∀ payload ∈ ([[1], [2, 3]] : List (List Byte)),
      Short payload := by
    simp [Short, dmqRecvBuffer]
  refine (receiver_delivers (fun _ => 0) [[1], [2, 3]] short trickle).2 ?_ ?_
  · intro call
    unfold trickle
    split
    · exact Answer.noConfusion
    · exact Answer.noConfusion
  · intro first
    refine ⟨2 * first + 1, 0, by omega, ?_⟩
    rw [trickle, if_neg (by omega)]

end Framing
end Multimaster
