import Multimaster.Lib.Memory
import Mathlib.Data.Int.Basic

/-!
# The receive buffer of a dmq receiver

The receiver reads frames off a socket without blocking.  A frame is the byte
`d` and a message, which begins with its length.  The bytes of messages go
through a buffer; the byte in front of a message is read past the buffer when
the buffer is empty.
-/

namespace Multimaster
namespace Framing

/-- `DMQ_RECV_BUFFER`. -/
def dmqRecvBuffer : ℕ := 8192

/-- What `secure_read` has for a caller. -/
inductive Answer
  /-- `EAGAIN`, `EWOULDBLOCK` or `EINTR`. -/
  | wouldBlock
  /-- Up to one byte more than the limit, of those that are on the wire. -/
  | data (limit : ℕ)
  /-- The connection is closed or broken. -/
  | eof
  deriving DecidableEq

/-- `reader_state`, and how the loop ends. -/
inductive Stage
  | needByte
  | needMessage
  | closed
  /-- The type of a message is unknown. -/
  | failed
  deriving DecidableEq

/-- The state of the receiver. -/
structure Link where
  recvBuffer : Memory
  recvBytes : ℕ
  readBytes : ℕ
  stage : Stage
  /-- The bytes that were sent and not read. -/
  wire : List Byte
  /-- The sizes `secure_read` was asked for. -/
  asked : List ℕ
  /-- The messages given to `dmq_handle_message`. -/
  delivered : List (List Byte)

/-- `pg_ntoh32`, of the bytes of a word. -/
def ntoh32 (bytes : List Byte) : BitVec 32 :=
  wordOfBytes bytes.reverse

/-- The bytes in the buffer that were not read. -/
def Link.unread (link : Link) : List Byte :=
  link.recvBuffer.load link.readBytes (link.recvBytes - link.readBytes)

/-- Move what was not read to the beginning of the buffer. -/
def Link.justify (link : Link) : Link :=
  { link with
    recvBuffer := link.recvBuffer.store 0 link.unread
    recvBytes := link.recvBytes - link.readBytes
    readBytes := 0 }

/-- The length at the beginning of what was not read. -/
def Link.len (link : Link) : ℤ :=
  (ntoh32 (link.recvBuffer.load link.readBytes 4)).toInt

/-- `_pq_have_full_message`: the message, from behind its length on. -/
def haveFullMessage (link : Link) : Link × Option (List Byte) :=
  if 4 ≤ link.recvBytes - link.readBytes then
    if link.readBytes + link.len ≤ link.recvBytes then
      ({ link with readBytes := (link.readBytes + link.len).toNat },
        some (link.recvBuffer.load (link.readBytes + 4) (link.len - 4).toNat))
    else if dmqRecvBuffer ≤ link.readBytes + link.len then (link.justify, none)
    else (link, none)
  else (link, none)

/-- What a call of the reader gives. -/
inductive Outcome (Value : Type)
  | eof
  | notYet
  | got (value : Value)

/-- A call of `secure_read` is on record. -/
def Link.ask (link : Link) (size : ℕ) : Link :=
  { link with asked := link.asked ++ [size] }

/-- `secure_read` of up to `size` bytes. -/
def secureRead (answers : ℕ → Answer) (link : Link) (size : ℕ) :
    Link × Outcome (List Byte) :=
  match answers link.asked.length with
  | .wouldBlock => (link.ask size, .notYet)
  | .eof => (link.ask size, .eof)
  | .data limit =>
      if link.wire = [] then (link.ask size, .notYet)
      else
        ({ link.ask size with wire := link.wire.drop (min (limit + 1) size) },
          .got (link.wire.take (min (limit + 1) size)))

/-- The room made before a read. -/
def Link.makeRoom (link : Link) : Link :=
  if 0 < link.readBytes then
    if link.recvBytes = link.readBytes then
      { link with
        recvBytes := 0
        readBytes := 0 }
    else if dmqRecvBuffer - 1024 < link.recvBytes then link.justify
    else link
  else link

/-- The bytes that were read go behind those in the buffer. -/
def Link.receive (link : Link) (bytes : List Byte) : Link :=
  { link with
    recvBuffer := link.recvBuffer.store link.recvBytes bytes
    recvBytes := link.recvBytes + bytes.length }

/-- The search for a message after a read. -/
def Link.recheck (link : Link) : Link × Outcome (List Byte) :=
  match haveFullMessage link with
  | (link, some message) => (link, .got message)
  | (link, none) => (link, .notYet)

/-- The read of `_pq_getmessage_if_avalable`. -/
def Link.readMore (answers : ℕ → Answer) (link : Link) :
    Link × Outcome (List Byte) :=
  match secureRead answers link (dmqRecvBuffer - link.recvBytes) with
  | (link, .eof) => (link, .eof)
  | (link, .notYet) => (link, .notYet)
  | (link, .got bytes) => (link.receive bytes).recheck

/-- `_pq_getmessage_if_avalable`. -/
def getMessageIfAvailable (answers : ℕ → Answer) (link : Link) :
    Link × Outcome (List Byte) :=
  match haveFullMessage link with
  | (link, some message) => (link, .got message)
  | (link, none) => link.makeRoom.readMore answers

/-- Bytes are taken off the buffer. -/
def Link.advance (link : Link) (count : ℕ) : Link :=
  { link with readBytes := link.readBytes + count }

/-- `_pq_getbyte_if_available`. -/
def getByteIfAvailable (answers : ℕ → Answer) (link : Link) :
    Link × Outcome Byte :=
  if link.readBytes < link.recvBytes then
    (link.advance 1, .got (link.recvBuffer link.readBytes))
  else
    match secureRead answers link 1 with
    | (link, .eof) => (link, .eof)
    | (link, .notYet) => (link, .notYet)
    | (link, .got bytes) => (link, .got (bytes.headD 0))

/-- The byte `d`. -/
def copyData : Byte := 0x64

/-- The byte `c`. -/
def copyDone : Byte := 0x63

/-- The first half of a round of `dmq_receiver_loop`. -/
def Link.byteStep (answers : ℕ → Answer) (link : Link) : Link :=
  match getByteIfAvailable answers link with
  | (link, .got qtype) =>
      if qtype = copyData then { link with stage := .needMessage }
      else if qtype = copyDone then { link with stage := .closed }
      else { link with stage := .failed }
  | (link, .notYet) => link
  | (link, .eof) => { link with stage := .closed }

/-- The second half. -/
def Link.messageStep (answers : ℕ → Answer) (link : Link) : Link :=
  match getMessageIfAvailable answers link with
  | (link, .got message) =>
      { link with
        delivered := link.delivered ++ [message]
        stage := .needByte }
  | (link, .notYet) => link
  | (link, .eof) => { link with stage := .closed }

/-- A round of `dmq_receiver_loop`. -/
def Link.round (answers : ℕ → Answer) (link : Link) : Link :=
  let stepped :=
    if link.stage = .needByte then link.byteStep answers else link
  if stepped.stage = .needMessage then stepped.messageStep answers else stepped

/-- A number of rounds. -/
def Link.run (answers : ℕ → Answer) : ℕ → Link → Link
  | 0, link => link
  | rounds + 1, link => (link.run answers rounds).round answers

/-- A new connection over which these bytes come. -/
def connect (recvBuffer : Memory) (wire : List Byte) : Link where
  recvBuffer := recvBuffer
  recvBytes := 0
  readBytes := 0
  stage := .needByte
  wire := wire
  asked := []
  delivered := []

/-! ## What is sent -/

/-- The length of a message with its length word, most significant byte
first. -/
def header (payload : List Byte) : List Byte :=
  (wordBytes (BitVec.ofNat 32 (4 + payload.length))).reverse

/-- A message. -/
def message (payload : List Byte) : List Byte :=
  header payload ++ payload

/-- The frames of some payloads. -/
def frames (payloads : List (List Byte)) : List Byte :=
  payloads.flatMap fun payload => copyData :: message payload

/-- The message is shorter than the buffer. -/
def Short (payload : List Byte) : Prop :=
  4 + payload.length < dmqRecvBuffer

@[simp] theorem length_header (payload : List Byte) :
    (header payload).length = 4 := rfl

@[simp] theorem length_message (payload : List Byte) :
    (message payload).length = 4 + payload.length := by
  simp [message]

theorem ntoh32_header (payload : List Byte) :
    ntoh32 (header payload) = BitVec.ofNat 32 (4 + payload.length) := by
  rw [ntoh32, header, List.reverse_reverse, wordOfBytes_wordBytes]

/-! ## The buffer -/

/-- The cursors are within the buffer. -/
structure Link.Inside (link : Link) : Prop where
  read_le : link.readBytes ≤ link.recvBytes
  recv_le : link.recvBytes ≤ dmqRecvBuffer

/-- The same bytes, elsewhere in the buffer. -/
structure Moved (link other : Link) : Prop where
  inside : other.Inside
  unread : other.unread = link.unread
  stage : other.stage = link.stage
  wire : other.wire = link.wire
  asked : other.asked = link.asked
  delivered : other.delivered = link.delivered

variable {link : Link} {payload rest : List Byte}

@[simp] theorem Link.length_unread (link : Link) :
    link.unread.length = link.recvBytes - link.readBytes :=
  Memory.length_load ..

theorem Moved.refl (inside : link.Inside) : Moved link link :=
  ⟨inside, rfl, rfl, rfl, rfl, rfl⟩

theorem Moved.trans {other last : Link}
    (first : Moved link other) (second : Moved other last) :
    Moved link last where
  inside := second.inside
  unread := second.unread.trans first.unread
  stage := second.stage.trans first.stage
  wire := second.wire.trans first.wire
  asked := second.asked.trans first.asked
  delivered := second.delivered.trans first.delivered

theorem Link.Inside.justify (inside : link.Inside) :
    Moved link link.justify := by
  obtain ⟨read_le, recv_le⟩ := inside
  refine ⟨⟨Nat.zero_le _, ?_⟩, ?_, rfl, rfl, rfl, rfl⟩
  · simp only [Link.justify]
    omega
  · have read := link.recvBuffer.load_store_self 0 link.unread
    rw [Link.length_unread] at read
    exact read

theorem Link.Inside.makeRoom (inside : link.Inside) :
    Moved link link.makeRoom := by
  unfold Link.makeRoom
  split
  · split
    · next isRead =>
        refine ⟨⟨Nat.le_refl 0, Nat.zero_le _⟩, ?_, rfl, rfl, rfl, rfl⟩
        simp [Link.unread, isRead, Memory.load]
    · split
      · exact inside.justify
      · exact Moved.refl inside
  · exact Moved.refl inside

/-- After room was made, there is some. -/
theorem Link.Inside.recvBytes_makeRoom
    (inside : link.Inside) (short : link.unread.length < dmqRecvBuffer) :
    link.makeRoom.recvBytes < dmqRecvBuffer := by
  obtain ⟨read_le, recv_le⟩ := inside
  rw [Link.length_unread] at short
  have positive : 0 < dmqRecvBuffer := by decide
  unfold Link.makeRoom
  split
  · split
    · exact positive
    · split
      · exact short
      · omega
  · omega

/-- Bytes that were read come behind those in the buffer. -/
theorem Link.unread_receive
    (inside : link.Inside) (bytes : List Byte) :
    (link.receive bytes).unread = link.unread ++ bytes := by
  obtain ⟨read_le, -⟩ := inside
  have count : link.recvBytes + bytes.length - link.readBytes =
      link.recvBytes - link.readBytes + bytes.length := by omega
  have start : link.recvBytes =
      link.readBytes + (link.recvBytes - link.readBytes) := by omega
  simp only [Link.unread, Link.receive, count]
  nth_rewrite 1 [start]
  exact Memory.load_store_append _ _ _ _

/-- What is left behind bytes that are taken off the buffer. -/
theorem Link.unread_take
    (count : ℕ) (enough : count ≤ link.recvBytes - link.readBytes) :
    link.unread = link.recvBuffer.load link.readBytes count ++
      (link.advance count).unread := by
  have rest : link.recvBytes - link.readBytes =
      count + (link.recvBytes - (link.readBytes + count)) := by omega
  simp only [Link.unread, Link.advance]
  rw [rest, Memory.load_add]

/-- The length that is read. -/
theorem Link.len_eq
    (content : link.unread ++ link.wire = message payload ++ rest)
    (short : Short payload) (some : 4 ≤ link.recvBytes - link.readBytes) :
    link.len = (4 + payload.length : ℕ) := by
  have bytes : link.recvBuffer.load link.readBytes 4 = header payload := by
    have taken := congrArg (List.take 4) content
    rwa [Link.unread_take 4 some, message, List.append_assoc,
      List.take_left' (Memory.length_load ..), List.append_assoc,
      List.take_left' (length_header payload)] at taken
  have below : 4 + payload.length < 2 ^ 31 := by
    unfold Short dmqRecvBuffer at short
    omega
  rw [Link.len, bytes, ntoh32_header, BitVec.toInt_eq_toNat_of_lt]
  · rw [BitVec.toNat_ofNat, Nat.mod_eq_of_lt (by omega)]
  · rw [BitVec.toNat_ofNat, Nat.mod_eq_of_lt (by omega)]
    omega

/-- The reader takes a message when it has all of it, and only then. -/
theorem haveFullMessage_cases
    (inside : link.Inside)
    (content : link.unread ++ link.wire = message payload ++ rest)
    (short : Short payload) :
    (haveFullMessage link =
        (link.advance (4 + payload.length), some payload) ∧
      4 + payload.length ≤ link.recvBytes - link.readBytes) ∨
    (link.recvBytes - link.readBytes < 4 + payload.length ∧
      ∃ other, haveFullMessage link = (other, none) ∧ Moved link other) := by
  obtain ⟨read_le, recv_le⟩ := id inside
  unfold haveFullMessage
  by_cases some : 4 ≤ link.recvBytes - link.readBytes
  · have len := Link.len_eq content short some
    rw [if_pos some, len]
    by_cases full : (link.readBytes : ℤ) + (4 + payload.length : ℕ) ≤
        link.recvBytes
    · have enough : 4 + payload.length ≤ link.recvBytes - link.readBytes := by
        omega
      refine Or.inl ⟨?_, enough⟩
      have count : ((4 + payload.length : ℕ) - 4 : ℤ).toNat =
          payload.length := by omega
      have position : ((link.readBytes : ℤ) + (4 + payload.length : ℕ)).toNat =
          link.readBytes + (4 + payload.length) := by omega
      -- the bytes of the payload stand behind those of the header
      have bytes : link.recvBuffer.load (link.readBytes + 4) payload.length =
          payload := by
        rw [Link.unread_take _ enough, Memory.load_add, message] at content
        have taken := congrArg (fun bytes => (bytes.drop 4).take payload.length)
          content
        have behind : (header payload ++ (payload ++ rest)).drop 4 =
            payload ++ rest :=
          List.drop_left' (length_header payload)
        simpa [List.append_assoc, behind] using taken
      rw [if_pos full, count, position, bytes]
      rfl
    · refine Or.inr ⟨by omega, ?_⟩
      rw [if_neg full]
      split
      · exact ⟨link.justify, rfl, inside.justify⟩
      · exact ⟨link, rfl, Moved.refl inside⟩
  · rw [if_neg some]
    exact Or.inr ⟨by omega, link, rfl, Moved.refl inside⟩

/-- A message that was taken off is gone. -/
theorem unread_behind_message
    (content : link.unread ++ link.wire = message payload ++ rest)
    (enough : 4 + payload.length ≤ link.recvBytes - link.readBytes) :
    (link.advance (4 + payload.length)).unread ++ link.wire = rest := by
  rw [Link.unread_take _ enough, List.append_assoc] at content
  exact List.append_inj_right content (by simp)

/-! ## Reading from the socket -/

/-- Nothing was read from the socket. -/
structure Blocked (answers : ℕ → Answer) (link other : Link) : Prop where
  wire : other.wire = link.wire
  later : link.asked.length < other.asked.length
  noData : ∀ call, link.asked.length ≤ call → call < other.asked.length →
    ∀ limit, answers call ≠ .data limit

/-- What a call of `secure_read` can do. -/
theorem secureRead_cases
    (answers : ℕ → Answer) (link : Link) {size : ℕ} (positive : 0 < size)
    (someSent : link.wire ≠ []) :
    (secureRead answers link size = (link.ask size, .notYet) ∧
      Blocked answers link (link.ask size)) ∨
    (secureRead answers link size = (link.ask size, .eof) ∧
      answers link.asked.length = .eof) ∨
    ∃ bytes later, link.wire = bytes ++ later ∧ bytes ≠ [] ∧
      bytes.length ≤ size ∧
      secureRead answers link size =
        ({ link.ask size with wire := later }, .got bytes) := by
  unfold secureRead
  cases answer : answers link.asked.length with
  | wouldBlock =>
      refine Or.inl ⟨rfl, rfl, by simp [Link.ask], ?_⟩
      intro call notBefore before limit
      simp only [Link.ask, List.length_append, List.length_singleton] at before
      have isCall : call = link.asked.length := by omega
      rw [isCall, answer]
      exact Answer.noConfusion
  | eof => exact Or.inr (Or.inl ⟨rfl, rfl⟩)
  | data limit =>
      refine Or.inr (Or.inr ⟨link.wire.take (min (limit + 1) size),
        link.wire.drop (min (limit + 1) size), ?_, ?_, ?_, ?_⟩)
      · exact (List.take_append_drop _ _).symm
      · intro isNil
        rcases List.take_eq_nil_iff.mp isNil with isZero | noneSent
        · omega
        · exact someSent noneSent
      · rw [List.length_take]
        omega
      · simp only [if_neg someSent]

theorem Link.Inside.advance
    (inside : link.Inside) {count : ℕ}
    (enough : count ≤ link.recvBytes - link.readBytes) :
    (link.advance count).Inside := by
  obtain ⟨read_le, recv_le⟩ := inside
  refine ⟨?_, recv_le⟩
  simp only [Link.advance]
  omega

end Framing
end Multimaster
