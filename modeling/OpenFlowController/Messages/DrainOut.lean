/-
Module: Messages.DrainOut
Purpose: The draining of a message body while its bytes arrive, with what the channel remembers of
  the rest, and the bodies that are drained to the byte.
Source: ofproto/src/messages/of_cntlr_msg.c 3708-3778; ofproto/src/transport/base/channel_fsm.c
  337-363, 656-747; ofproto/src/transport/tcp/tcp_api.c 179-226
Trusted boundary: the peer does not close, and bytes are counted
-/
import OpenFlowController.Messages.ReaderSpec

namespace OpenFlowController.Messages

open Include List Library Transport

/-! ## The socket -/

/-- A socket with so many bytes to read, and how many more come before each of the next reads. -/
structure DrainSocket where
  available : Nat
  arrivals : List Nat

namespace DrainSocket

def arrive (socket : DrainSocket) : DrainSocket where
  available := socket.available + socket.arrivals.headD 0
  arrivals := socket.arrivals.tail

/-- A read of at most `len` bytes: `none` when there are none. -/
def read (socket : DrainSocket) (len : Nat) : Option Nat × DrainSocket :=
  let socket := socket.arrive
  if socket.available = 0 then (none, socket)
  else
    (some (min socket.available len),
      { socket with available := socket.available - min socket.available len })

/-- What reads of at most 256 bytes leave of `left` bytes until one of them finds nothing. -/
def give : Nat → DrainSocket → Nat → Nat × DrainSocket
  | 0, socket, left => (left, socket)
  | fuel + 1, socket, left =>
    if left = 0 then (0, socket)
    else
      match socket.read (min left 256) with
      | (none, socket) => (left, socket)
      | (some got, socket) => give fuel socket (left - got)

end DrainSocket

/-! ## The channel -/

/-- What the draining uses of a channel; `rawLength` is `msg_hdr.length` as the host reads it, and
`readFail` tells that `fsm_event` is the read-fail event.  `target` is what is to be drained,
`consumed` what was, and `stores` has, for every store to `drain_out_bytes`, what was outstanding
then and the value. -/
structure DrainChannel where
  msgState : MsgState
  drainOutBytes : Nat
  readFail : Bool
  rawLength : UInt16
  socket : DrainSocket
  target : Nat
  consumed : Nat
  stores : List (Nat × Nat)

namespace DrainChannel

def outstanding (c : DrainChannel) : Nat := c.target - c.consumed

def setDrainOutBytes (c : DrainChannel) (value : Nat) : DrainChannel :=
  { c with
    drainOutBytes := value
    stores := c.stores ++ [(c.outstanding, value)] }

/-- The state is set to wait for a new message, with nothing to drain. -/
def waitForNewMsg (c : DrainChannel) : DrainChannel :=
  setDrainOutBytes { c with msgState := .waitingForNewMsg } 0

def transportRead (c : DrainChannel) (len : Nat) : Option Nat × DrainChannel :=
  match c.socket.read len with
  | (none, socket) => (none, { c with socket })
  | (some got, socket) => (some got, { c with socket, consumed := c.consumed + got })

/-- The loop of `of_drain_out_socket_buf`; no read answers `CNTLR_CONN_NO_DATA`, so that branch is
not there. -/
def drainLoop (read : DrainChannel → Nat → Option Nat × DrainChannel) :
    Nat → DrainChannel → Nat → Bool × DrainChannel
  | 0, c, _ => (true, c)
  | fuel + 1, c, bytesToRead =>
    if bytesToRead = 0 then (true, c)
    else
      match read c (min bytesToRead 256) with
      | (none, c) => (false, c.waitForNewMsg)
      | (some got, c) =>
        let left := bytesToRead - got
        drainLoop read fuel (if left = 0 then c.waitForNewMsg else c) left

/-- `fsm_xprt_proto_channel_read_msg_from_dp` under the read-fail event. -/
def readAfterFailure (c : DrainChannel) (len : Nat) : Option Nat × DrainChannel :=
  match c.transportRead len with
  | (some got, c) => (some got, c)
  | (none, c) => (none, { c with msgState := .drainOutCompleteMsg })

/-- `fsm_xprt_proto_channel_read_error`; the length that it hands on is a `uint16_t`. -/
def fsmXprtProtoChannelReadError (c : DrainChannel) : DrainChannel :=
  if c.msgState = .drainOutCompleteMsg then
    let bytes := uint16OfUint32 c.drainOutBytes
    (drainLoop readAfterFailure bytes c bytes).2
  else
    c

/-- `fsm_xprt_proto_channel_read_msg_from_dp`. -/
def readMsgFromDp (c : DrainChannel) (len : Nat) : Option Nat × DrainChannel :=
  match c.transportRead len with
  | (some got, c) => (some got, c)
  | (none, c) =>
    let c := { c with msgState := .drainOutCompleteMsg }
    if c.readFail then (none, c)
    else
      let c := setDrainOutBytes { c with readFail := true }
        (uint32Sub c.rawLength.toNat sizeofOfpHeader)
      (none, c.fsmXprtProtoChannelReadError)

def ofDrainOutSocketBuf (c : DrainChannel) (length : Nat) : Bool × DrainChannel :=
  drainLoop readMsgFromDp length c length

end DrainChannel

/-- How a draining begins: with a length for which there is no buffer, or with a read of the body
that failed. -/
inductive DrainStart where
  | noBuffer (length : UInt16)
  | readFailed

namespace DrainChannel

/-- The length to be discarded. -/
def lengthToDrain (c : DrainChannel) : DrainStart → Nat
  | .noBuffer length => length.toNat
  | .readFailed => uint32Sub c.rawLength.toNat sizeofOfpHeader

def begin (c : DrainChannel) (start : DrainStart) : DrainChannel :=
  { c with target := c.lengthToDrain start, consumed := 0, stores := [] }

/-- The draining, up to its end. -/
def run (c : DrainChannel) (start : DrainStart) : DrainChannel :=
  match start with
  | .noBuffer length => ((c.begin start).ofDrainOutSocketBuf length.toNat).2
  | .readFailed =>
    fsmXprtProtoChannelReadError
      (setDrainOutBytes { c.begin start with msgState := .drainOutCompleteMsg, readFail := true }
        (uint32Sub c.rawLength.toNat sizeofOfpHeader))

end DrainChannel

/-! ## What should hold -/

/-- The channel does not wait for a new message before the length is drained, and no more than
that is drained; what is stored as the rest is what is outstanding. -/
structure DrainsExactly (c : DrainChannel) (start : DrainStart) : Prop where
  exact : (c.run start).msgState = .waitingForNewMsg →
    (c.run start).consumed = c.lengthToDrain start
  remembered : ∀ store ∈ (c.run start).stores, store.2 = store.1

/-! ## When it does -/

/-- The reads find the whole length; or one read finds nothing, when what is left happens to be
`msg_hdr.length - 8`, and the reads after it find the rest. -/
def DrainServed (c : DrainChannel) : DrainStart → Prop
  | .noBuffer length =>
    let given := c.socket.give length.toNat length.toNat
    given.1 = 0 ∨ c.readFail = false ∧ uint32Sub c.rawLength.toNat sizeofOfpHeader = given.1 ∧
      (given.2.give given.1 given.1).1 = 0
  | .readFailed =>
    let length := uint32Sub c.rawLength.toNat sizeofOfpHeader
    length < 2 ^ 16 ∧ (c.socket.give length length).1 = 0

namespace DrainSocket

theorem give_le (fuel : Nat) (socket : DrainSocket) (left : Nat) :
    (socket.give fuel left).1 ≤ left := by
  induction fuel generalizing socket left with
  | zero => exact Nat.le_refl _
  | succ fuel ih =>
  rw [give]
  split
  · exact Nat.zero_le _
  · split
    · exact Nat.le_refl _
    · exact (ih _ _).trans (Nat.sub_le _ _)

theorem read_some {socket later : DrainSocket} {len got : Nat} (positive : 0 < len)
    (read : socket.read len = (some got, later)) : 0 < got ∧ got ≤ len := by
  rw [DrainSocket.read] at read
  split at read
  · cases read
  · cases read
    omega

end DrainSocket

namespace DrainChannel

variable {c : DrainChannel} {left fuel : Nat}

/-- The channel after the reads up to the first that finds nothing. -/
def afterGiven (c : DrainChannel) (fuel left : Nat) : DrainChannel :=
  { c with
    socket := (c.socket.give fuel left).2
    consumed := c.consumed + (left - (c.socket.give fuel left).1) }

/-- A read with what it does when it finds nothing. -/
def readOr (fail : DrainChannel → DrainChannel) (c : DrainChannel) (len : Nat) :
    Option Nat × DrainChannel :=
  match c.transportRead len with
  | (some got, c) => (some got, c)
  | (none, c) => (none, fail c)

/-- What `fsm_xprt_proto_channel_read_msg_from_dp` does when the read finds nothing. -/
def drainRest (c : DrainChannel) : DrainChannel :=
  let c := { c with msgState := .drainOutCompleteMsg }
  if c.readFail then c
  else
    fsmXprtProtoChannelReadError
      (setDrainOutBytes { c with readFail := true } (uint32Sub c.rawLength.toNat sizeofOfpHeader))

theorem readAfterFailure_eq :
    readAfterFailure = readOr fun c => { c with msgState := .drainOutCompleteMsg } := rfl

theorem readMsgFromDp_eq : readMsgFromDp = readOr drainRest := by
  funext c len
  rw [readMsgFromDp, readOr]
  split
  · rfl
  · dsimp only [drainRest]
    split <;> rfl

theorem drainLoop_zero {read : DrainChannel → Nat → Option Nat × DrainChannel} :
    drainLoop read fuel c 0 = (true, c) := by
  cases fuel <;> rfl

/-- The loop of a drain takes what is given, and stops where nothing more is. -/
theorem drainLoop_readOr {fail : DrainChannel → DrainChannel} (enough : left ≤ fuel)
    (positive : 0 < left) :
    (drainLoop (readOr fail) fuel c left).2 =
      if (c.socket.give fuel left).1 = 0 then (c.afterGiven fuel left).waitForNewMsg
      else (fail (c.afterGiven fuel left)).waitForNewMsg := by
  induction fuel generalizing c left with
  | zero => exact absurd (Nat.lt_of_lt_of_le positive enough) (Nat.lt_irrefl _)
  | succ fuel ih =>
  have pending := Nat.ne_of_gt positive
  rw [drainLoop, if_neg pending]
  cases isRead : c.socket.read (min left 256) with
  | mk got socket =>
  cases got with
  | none =>
    have given : c.socket.give (fuel + 1) left = (left, socket) := by
      rw [DrainSocket.give, if_neg pending, isRead]
    have after : c.afterGiven (fuel + 1) left = { c with socket } := by
      rw [afterGiven, given, Nat.sub_self, Nat.add_zero]
    rw [after, given, if_neg pending]
    simp only [readOr, transportRead, isRead]
  | some got =>
  have given : c.socket.give (fuel + 1) left = socket.give fuel (left - got) := by
    rw [DrainSocket.give, if_neg pending, isRead]
  obtain ⟨least, most⟩ := DrainSocket.read_some (by omega) isRead
  have bound := DrainSocket.give_le fuel socket (left - got)
  have after : ({ c with socket, consumed := c.consumed + got } :
      DrainChannel).afterGiven fuel (left - got) = c.afterGiven (fuel + 1) left := by
    rw [afterGiven, afterGiven, given]
    dsimp only
    congr 1
    omega
  have stepped : readOr fail c (min left 256) =
      (some got, { c with socket, consumed := c.consumed + got }) := by
    simp only [readOr, transportRead, isRead]
  rw [stepped]
  dsimp only
  by_cases all : left - got = 0
  · have emptied : c.socket.give (fuel + 1) left = (0, socket) := by
      rw [given, all]
      cases fuel <;> rfl
    have whole : c.afterGiven (fuel + 1) left =
        { c with socket, consumed := c.consumed + got } := by
      rw [afterGiven, emptied]
      congr 1
      omega
    rw [if_pos all, all, drainLoop_zero, emptied, whole]
    rfl
  · rw [if_neg all, ih (by omega) (by omega), after, given]

theorem readError_eq (draining : c.msgState = .drainOutCompleteMsg)
    (positive : 0 < uint16OfUint32 c.drainOutBytes) :
    c.fsmXprtProtoChannelReadError =
      (c.afterGiven (uint16OfUint32 c.drainOutBytes)
        (uint16OfUint32 c.drainOutBytes)).waitForNewMsg := by
  rw [fsmXprtProtoChannelReadError, if_pos draining, readAfterFailure_eq]
  rw [drainLoop_readOr (Nat.le_refl _) positive]
  split <;> rfl

theorem readError_zero (draining : c.msgState = .drainOutCompleteMsg)
    (zero : uint16OfUint32 c.drainOutBytes = 0) : c.fsmXprtProtoChannelReadError = c := by
  rw [fsmXprtProtoChannelReadError, if_pos draining]
  dsimp only
  rw [zero, drainLoop_zero]

theorem ofDrainOutSocketBuf_eq (positive : 0 < left)
    (plain : (c.socket.give left left).1 = 0 ∨ c.readFail = true) :
    (c.ofDrainOutSocketBuf left).2 = (c.afterGiven left left).waitForNewMsg := by
  rw [ofDrainOutSocketBuf, readMsgFromDp_eq, drainLoop_readOr (Nat.le_refl _) positive]
  split
  case isTrue => rfl
  case isFalse short =>
  have failed : (c.afterGiven left left).readFail = true := plain.resolve_left short
  rw [drainRest]
  rw [if_pos failed]
  rfl

/-- The channel in which the first read that finds nothing drains `msg_hdr.length - 8` bytes. -/
def afterFailure (c : DrainChannel) (left : Nat) : DrainChannel :=
  setDrainOutBytes
    { c.afterGiven left left with msgState := .drainOutCompleteMsg, readFail := true }
    (uint32Sub c.rawLength.toNat sizeofOfpHeader)

theorem ofDrainOutSocketBuf_restarted (positive : 0 < left)
    (short : (c.socket.give left left).1 ≠ 0) (fresh : c.readFail = false) :
    (c.ofDrainOutSocketBuf left).2 =
      (c.afterFailure left).fsmXprtProtoChannelReadError.waitForNewMsg := by
  rw [ofDrainOutSocketBuf, readMsgFromDp_eq, drainLoop_readOr (Nat.le_refl _) positive,
    if_neg short, drainRest]
  rw [if_neg (by show (c.afterGiven left left).readFail ≠ true; rw [afterGiven, fresh]; decide)]
  rfl

theorem run_msgState (c : DrainChannel) (length : UInt16) (positive : 0 < length.toNat) :
    (c.run (.noBuffer length)).msgState = .waitingForNewMsg := by
  rw [run]
  by_cases plain : ((c.begin (.noBuffer length)).socket.give length.toNat length.toNat).1 = 0 ∨
      (c.begin (.noBuffer length)).readFail = true
  · rw [ofDrainOutSocketBuf_eq positive plain]
    rfl
  · rw [not_or] at plain
    rw [ofDrainOutSocketBuf_restarted positive plain.1 (eq_false_of_ne_true plain.2)]
    rfl

theorem mem_readError {store : Nat × Nat} (draining : c.msgState = .drainOutCompleteMsg)
    (member : store ∈ c.stores) : store ∈ c.fsmXprtProtoChannelReadError.stores := by
  rcases Nat.eq_zero_or_pos (uint16OfUint32 c.drainOutBytes) with zero | positive
  · rwa [readError_zero draining zero]
  · rw [readError_eq draining positive]
    exact mem_append_left _ member

section NoBuffer

variable {length : UInt16} {socket : DrainSocket}

/-- Without a buffer a plain drain is exact when everything was there. -/
theorem noBuffer_plain (positive : 0 < length.toNat)
    (given : c.socket.give length.toNat length.toNat = (left, socket))
    (plain : left = 0 ∨ c.readFail = true) :
    DrainsExactly c (.noBuffer length) ↔ left = 0 := by
  have ends : c.run (.noBuffer length) =
      { c.begin (.noBuffer length) with
        socket, consumed := 0 + (length.toNat - left) }.waitForNewMsg := by
    have ends := @ofDrainOutSocketBuf_eq (c.begin (.noBuffer length)) length.toNat positive
      (by rw [begin, given]; exact plain)
    rw [run, ends, afterGiven]
    dsimp only [begin]
    rw [given]
  constructor
  · intro right
    have exact := right.exact (run_msgState c length positive)
    rw [ends] at exact
    have drained : 0 + (length.toNat - left) = length.toNat := exact
    omega
  rintro rfl
  constructor
  case exact =>
    intro _
    rw [ends]
    exact Nat.zero_add _
  case remembered =>
  intro store member
  rw [ends] at member
  have last : store = (length.toNat - (0 + (length.toNat - 0)), 0) :=
    mem_singleton.mp member
  rw [last]
  omega

/-- A drain that starts again is exact when it asks for what is left and gets all of it. -/
theorem noBuffer_restarted (positive : 0 < length.toNat)
    (given : c.socket.give length.toNat length.toNat = (left, socket))
    (short : left ≠ 0) (fresh : c.readFail = false) :
    DrainsExactly c (.noBuffer length) ↔
      uint32Sub c.rawLength.toNat sizeofOfpHeader = left ∧ (socket.give left left).1 = 0 := by
  have small := length.toNat_lt
  have bound : left ≤ length.toNat := by
    have bound := DrainSocket.give_le length.toNat c.socket length.toNat
    rwa [given] at bound
  let failed : DrainChannel :=
    setDrainOutBytes
      { c.begin (.noBuffer length) with
        msgState := .drainOutCompleteMsg, readFail := true, socket,
        consumed := 0 + (length.toNat - left) }
      (uint32Sub c.rawLength.toNat sizeofOfpHeader)
  have ends : c.run (.noBuffer length) = failed.fsmXprtProtoChannelReadError.waitForNewMsg := by
    have ends := @ofDrainOutSocketBuf_restarted (c.begin (.noBuffer length)) length.toNat positive
      (by rw [begin, given]; exact short) fresh
    rw [run, ends, afterFailure, afterGiven]
    dsimp only [begin]
    rw [given]
    rfl
  by_cases same : uint32Sub c.rawLength.toNat sizeofOfpHeader = left
  · have bytes : uint16OfUint32 failed.drainOutBytes = left := by
      show uint16OfUint32 (uint32Sub c.rawLength.toNat sizeofOfpHeader) = left
      rw [same, uint16OfUint32_of_lt (by omega)]
    have again := @readError_eq failed rfl (by rw [bytes]; omega)
    rw [bytes] at again
    have consumed : (c.run (.noBuffer length)).consumed =
        0 + (length.toNat - left) + (left - (socket.give left left).1) := by
      rw [ends, again]
      rfl
    constructor
    · intro right
      have exact := right.exact (run_msgState c length positive)
      rw [consumed, lengthToDrain] at exact
      exact ⟨same, by omega⟩
    rintro ⟨-, all⟩
    constructor
    case exact =>
      intro _
      rw [consumed, lengthToDrain]
      omega
    case remembered =>
    intro store member
    rw [ends, again] at member
    have one : store ∈
        [(length.toNat - (0 + (length.toNat - left)),
          uint32Sub c.rawLength.toNat sizeofOfpHeader)] ++
        [(length.toNat - (0 + (length.toNat - left) + (left - (socket.give left left).1)), 0)] ++
        [(length.toNat - (0 + (length.toNat - left) + (left - (socket.give left left).1)),
          0)] := member
    simp only [cons_append, nil_append, mem_cons, not_mem_nil, or_false, or_self] at one
    rcases one with first | last
    · rw [first]
      omega
    · rw [last]
      omega
  · refine iff_of_false (fun right => same ?_) fun fits => same fits.1
    have stored := right.remembered
      (length.toNat - (0 + (length.toNat - left)), uint32Sub c.rawLength.toNat sizeofOfpHeader)
      (by
        rw [ends]
        exact mem_append_left _ (mem_readError rfl (mem_singleton.mpr rfl)))
    omega

end NoBuffer

/-- Without a buffer a drain is exact exactly when it is served. -/
theorem noBuffer_iff (c : DrainChannel) (length : UInt16) :
    DrainsExactly c (.noBuffer length) ↔ DrainServed c (.noBuffer length) := by
  rw [DrainServed]
  cases given : c.socket.give length.toNat length.toNat with
  | mk left socket =>
  rcases Nat.eq_zero_or_pos length.toNat with zero | positive
  · have none : c.run (.noBuffer length) = c.begin (.noBuffer length) := by
      rw [run, zero, ofDrainOutSocketBuf, drainLoop_zero]
    rw [zero] at given
    refine iff_of_true ?_ (.inl (congrArg Prod.fst given).symm)
    constructor
    case exact =>
      intro _
      rw [none]
      exact zero.symm
    case remembered =>
      rw [none]
      exact nofun
  · by_cases plain : left = 0 ∨ c.readFail = true
    · rw [noBuffer_plain positive given plain]
      constructor
      · exact .inl
      · rintro (all | ⟨fresh, -⟩)
        · exact all
        · exact plain.resolve_right (by rw [fresh]; decide)
    · rw [not_or] at plain
      have fresh := eq_false_of_ne_true plain.2
      rw [noBuffer_restarted positive given plain.1 fresh]
      constructor
      · exact fun fits => .inr ⟨fresh, fits⟩
      · exact fun fits => (fits.resolve_left plain.1).2

/-- After a failed read a drain is exact exactly when it is served. -/
theorem readFailed_iff (c : DrainChannel) :
    DrainsExactly c .readFailed ↔ DrainServed c .readFailed := by
  have raw := c.rawLength.toNat_lt
  let length := uint32Sub c.rawLength.toNat sizeofOfpHeader
  let failed : DrainChannel :=
    setDrainOutBytes
      { c.begin .readFailed with msgState := .drainOutCompleteMsg, readFail := true } length
  have ends : c.run .readFailed = failed.fsmXprtProtoChannelReadError := rfl
  have value : 8 ≤ c.rawLength.toNat ∧ length = c.rawLength.toNat - 8 ∨
      c.rawLength.toNat < 8 ∧ length = c.rawLength.toNat + 2 ^ 32 - 8 := by
    show _ ∧ uint32Sub _ 8 = _ ∨ _ ∧ uint32Sub _ 8 = _
    unfold uint32Sub
    split <;> omega
  have bytes : uint16OfUint32 failed.drainOutBytes = length % 2 ^ 16 := rfl
  show _ ↔ length < 2 ^ 16 ∧ (c.socket.give length length).1 = 0
  rcases Nat.eq_zero_or_pos (length % 2 ^ 16) with zero | positive
  · have none : length = 0 := by omega
    have nothing : c.run .readFailed = failed :=
      ends.trans (readError_zero rfl (bytes.trans zero))
    rw [none]
    refine iff_of_true ?_ ⟨by decide, rfl⟩
    constructor
    case exact =>
      intro waiting
      rw [nothing] at waiting
      cases waiting
    case remembered =>
    intro store member
    rw [nothing] at member
    have one : store = (length - 0, length) := mem_singleton.mp member
    rw [one]
    exact (Nat.sub_zero _).symm
  · have again := @readError_eq failed rfl positive
    rw [bytes] at again
    have rest := DrainSocket.give_le (length % 2 ^ 16) c.socket (length % 2 ^ 16)
    have consumed : (c.run .readFailed).consumed =
        0 + (length % 2 ^ 16 - (c.socket.give (length % 2 ^ 16) (length % 2 ^ 16)).1) := by
      rw [ends, again]
      rfl
    constructor
    · intro right
      have exact := right.exact (by rw [ends, again]; rfl)
      rw [consumed] at exact
      have whole : 0 + (length % 2 ^ 16 -
          (c.socket.give (length % 2 ^ 16) (length % 2 ^ 16)).1) = length := exact
      have small : length < 2 ^ 16 := by omega
      rw [Nat.mod_eq_of_lt small] at whole rest
      exact ⟨small, by omega⟩
    · rintro ⟨small, all⟩
      rw [Nat.mod_eq_of_lt small] at again consumed
      rw [all] at consumed
      constructor
      case exact =>
        intro _
        rw [consumed]
        exact (Nat.zero_add _).trans (Nat.sub_zero _)
      case remembered =>
      intro store member
      rw [ends, again] at member
      have one : store ∈ [(length - 0, length)] ++
          [(length - (0 + (length - (c.socket.give length length).1)), 0)] := member
      simp only [cons_append, nil_append, mem_cons, not_mem_nil, or_false] at one
      rcases one with first | last
      · rw [first]
        exact (Nat.sub_zero _).symm
      · rw [last, all]
        omega

end DrainChannel

/-- A draining is exact exactly where the socket gives what is drained. -/
theorem drainsExactly_iff (c : DrainChannel) (start : DrainStart) :
    DrainsExactly c start ↔ DrainServed c start := by
  cases start with
  | noBuffer length => exact c.noBuffer_iff length
  | readFailed => exact c.readFailed_iff

/-- Of 600 bytes for which there is no buffer, 100 have arrived. -/
def shortDrain : DrainChannel where
  msgState := .startReadingMsg
  drainOutBytes := 0
  readFail := false
  rawLength := 608
  socket := ⟨100, []⟩
  target := 0
  consumed := 0
  stores := []

/-- The channel waits for a new message with 500 bytes of the old one outstanding. -/
theorem shortDrain_not_exact : ¬ DrainsExactly shortDrain (.noBuffer 600) := by
  intro right
  exact absurd (right.exact (by decide)) (by decide)

end OpenFlowController.Messages
