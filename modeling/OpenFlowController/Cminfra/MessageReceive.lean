/-
Module: Cminfra.MessageReceive
Purpose: How a configuration message is received from a client's socket, and the streams and
  deliveries for which that gives the message, or refuses it and leaves nothing behind.
Source: cminfra/infra/transport/basic/transapi.c 427-594
Trusted boundary: a receive fails only by the connection being closed, so the two refusals of a
  negative `iRcvdBytes` are not modelled, and the arguments are not null
-/
import OpenFlowController.Library.BigEndian

namespace OpenFlowController.Cminfra

open Library List

/-- The bytes that a client still sends before it closes the connection, and how many of them lie
ready at each of the coming receives. -/
structure Delivery where
  bytes : List UInt8
  pieces : Nat → Nat

namespace Delivery

variable (socket : Delivery)

/-- What `cm_socket_recv` gets: at least one byte where there is one, and never more than the
system reads at a time. -/
def found (length : Nat) : List UInt8 :=
  socket.bytes.take (min length (min 0x7ffff000 (max 1 (socket.pieces 0))))

/-- The socket after a call with `MSG_PEEK`. -/
def peeked : Delivery := { socket with pieces := fun call => socket.pieces (call + 1) }

/-- The socket after a receive. -/
def after (length : Nat) : Delivery :=
  { socket.peeked with bytes := socket.bytes.drop (socket.found length).length }

end Delivery

/-- What `cm_tnsprt_recv_message` leaves: its status, what it wrote to the generic header, the
message buffer where it is not freed, whether it wrote outside that, and the bytes not read. -/
structure ReceiveResult where
  success : Bool
  header : List UInt8
  buffer : Option (List UInt8)
  outside : Bool
  rest : List UInt8

/-- `sizeof (struct cm_msg_generic_header)`. -/
def sizeofGenericHeader : Nat := 272

/-- The receives of the payload, of which `left` bytes are to come.  The place of a receive is
kept in `iTotRecdBytes`, which is signed. -/
def receivePayload : Nat → Delivery → Nat → List UInt8 → Bool →
    Option (List UInt8 × Bool × List UInt8)
  | 0, _, _, _, _ => none
  | fuel + 1, socket, left, buffer, outside =>
    let got := socket.found left
    let outside := outside || (got ≠ [] && 2 ^ 31 ≤ buffer.length)
    if got.length = left then some (buffer ++ got, outside, (socket.after left).bytes)
    else receivePayload fuel (socket.after left) (left - got.length) (buffer ++ got) outside

/-- `cm_tnsprt_recv_message`, for as many receives of the payload; `memory` tells whether its
buffer is allocated. -/
def cmTnsprtRecvMessage (memory : Bool) (fuel : Nat) (socket : Delivery) :
    Option ReceiveResult :=
  let failure (socket : Delivery) (header : List UInt8) : Option ReceiveResult :=
    some ⟨false, header, none, false, socket.bytes⟩
  let lengths := socket.peeked
  let lengthTwo := lengths.after 4
  let body := lengthTwo.after 4
  let uiTotalMsgLen := netNat (lengths.found 4)
  let uiGenHdrLen := netNat (lengthTwo.found 4)
  if (socket.found 4).length ≠ 4 then failure lengths []
  else if (lengths.found 4).length ≠ 4 then failure lengthTwo []
  else if (lengthTwo.found 4).length ≠ 4 then failure body []
  else if uiTotalMsgLen < (uiGenHdrLen + 4) % 2 ^ 32 then failure body []
  else if memory = false then failure body []
  else
    let uiMsgBufLen := (uiTotalMsgLen + 2 ^ 33 - (8 + uiGenHdrLen)) % 2 ^ 32
    let header := body.found uiGenHdrLen
    let payload := body.after uiGenHdrLen
    if header.length ≠ uiGenHdrLen then failure payload header
    else
      (receivePayload fuel payload uiMsgBufLen [] false).map fun (message, outside, rest) =>
        ⟨true, header, some message, outside, rest⟩

/-! ## What a receive is to do -/

namespace Delivery

variable (socket : Delivery)

/-- The first length field. -/
def totalLen : Nat := netNat (socket.bytes.take 4)

/-- The second length field. -/
def headerLen : Nat := netNat ((socket.bytes.drop 4).take 4)

/-- The length that the fields leave for the payload. -/
def payloadLen : Nat := socket.totalLen - (8 + socket.headerLen)

/-- A message comes first: its length fields, the generic header and the payload are all there. -/
structure WellFormed : Prop where
  header : socket.headerLen ≤ sizeofGenericHeader
  total : 8 + socket.headerLen ≤ socket.totalLen
  whole : socket.totalLen ≤ socket.bytes.length

/-- The message that comes first, received. -/
def message : ReceiveResult where
  success := true
  header := (socket.bytes.drop 8).take socket.headerLen
  buffer := some ((socket.bytes.drop (8 + socket.headerLen)).take socket.payloadLen)
  outside := false
  rest := socket.bytes.drop socket.totalLen

/-- The first three receives get a length field each. -/
def LengthsWhole : Prop :=
  8 ≤ socket.bytes.length ∧ ∀ call < 3, 4 ≤ socket.pieces call

/-- How many bytes the receive of the generic header gets. -/
def headerGot : Nat :=
  min (min socket.headerLen (min 0x7ffff000 (max 1 (socket.pieces 3)))) (socket.bytes.length - 8)

end Delivery

/-- The call ends, with the message where there is one and the memory for it, and else with a
failure that wrote to nothing but the generic header and keeps no buffer. -/
def ReceivesRight (memory : Bool) (socket : Delivery) : Prop :=
  ∃ fuel result, cmTnsprtRecvMessage memory fuel socket = some result ∧
    (socket.WellFormed ∧ memory → result = socket.message) ∧
    (¬ (socket.WellFormed ∧ memory) → result.success = false ∧
      result.header.length ≤ sizeofGenericHeader ∧ result.outside = false ∧ result.buffer = none)

/-- How much a number of receives gets of the bytes asked for, where there are as many. -/
def receivedBytes : (Nat → Nat) → Nat → Nat → Nat
  | _, _, 0 => 0
  | pieces, left, calls + 1 =>
    let got := min left (min 0x7ffff000 (max 1 (pieces 0)))
    got + receivedBytes (fun call => pieces (call + 1)) (left - got) calls

/-- A receive of the payload, of which `left` bytes are to come, begins where its place no longer
fits a signed word. -/
def Late (pieces : Nat → Nat) (left place : Nat) : Prop :=
  ∃ calls, receivedBytes pieces left calls < left ∧ 2 ^ 31 ≤ place + receivedBytes pieces left calls

/-- The streams and deliveries that reach no defect.  Of a message the lengths and the header
arrive in one piece each, and no receive of the payload begins late.  Anything else is refused
before its payload, with no more than a generic header received. -/
structure SoundDelivery (memory : Bool) (socket : Delivery) : Prop where
  message : socket.WellFormed ∧ memory → socket.LengthsWhole ∧
    socket.headerGot = socket.headerLen ∧
    ¬ Late (fun call => socket.pieces (call + 4)) socket.payloadLen 0
  other : ¬ (socket.WellFormed ∧ memory) → socket.LengthsWhole →
    (socket.headerLen + 4) % 2 ^ 32 ≤ socket.totalLen → memory →
      socket.headerGot < socket.headerLen ∧ socket.headerGot ≤ sizeofGenericHeader

open Delivery

variable {memory : Bool} {socket : Delivery} {fuel : Nat}

namespace Delivery

theorem length_found (length : Nat) : (socket.found length).length =
    min (min length (min 0x7ffff000 (max 1 (socket.pieces 0)))) socket.bytes.length :=
  length_take

theorem found_of_length {length : Nat} (full : (socket.found length).length = length) :
    socket.found length = socket.bytes.take length := by
  have bounds := socket.length_found length
  unfold found
  rw [show min length (min 0x7ffff000 (max 1 (socket.pieces 0))) = length by omega]

/-- The socket in front of the generic header. -/
def body (socket : Delivery) : Delivery where
  bytes := socket.bytes.drop 8
  pieces call := socket.pieces (call + 3)

end Delivery

/-- A failure before the generic header is received. -/
def refusal (rest : List UInt8) : ReceiveResult := ⟨false, [], none, false, rest⟩

theorem found_lengths (whole : socket.LengthsWhole) :
    (socket.found 4).length = 4 ∧ socket.peeked.found 4 = socket.bytes.take 4 ∧
      (socket.peeked.after 4).found 4 = (socket.bytes.drop 4).take 4 ∧
      (socket.peeked.after 4).after 4 = socket.body := by
  obtain ⟨eight, pieces⟩ := whole
  have zero := pieces 0 (by decide)
  have one := pieces 1 (by decide)
  have two := pieces 2 (by decide)
  have first : (socket.peeked.found 4).length = 4 := by
    rw [length_found]
    simp only [Delivery.peeked, Nat.reduceAdd]
    omega
  have second : ((socket.peeked.after 4).found 4).length = 4 := by
    rw [length_found, Delivery.after, first]
    simp only [Delivery.peeked, length_drop, Nat.reduceAdd]
    omega
  refine ⟨?_, found_of_length first, ?_, ?_⟩
  · rw [length_found]
    omega
  · rw [found_of_length second, Delivery.after, first]
    rfl
  · rw [Delivery.after, second, Delivery.after, first]
    simp only [Delivery.peeked, body, drop_drop]

theorem recv_lengths_short (short : ¬ socket.LengthsWhole) :
    ∃ rest, ∀ fuel, cmTnsprtRecvMessage memory fuel socket = some (refusal rest) := by
  by_cases first : (socket.found 4).length = 4
  case neg => exact ⟨_, fun _ => if_pos first⟩
  by_cases second : (socket.peeked.found 4).length = 4
  case neg => exact ⟨_, fun _ => (if_neg (not_not.mpr first)).trans (if_pos second)⟩
  by_cases third : ((socket.peeked.after 4).found 4).length = 4
  case neg =>
    exact ⟨_, fun _ => (if_neg (not_not.mpr first)).trans
      ((if_neg (not_not.mpr second)).trans (if_pos third))⟩
  refine absurd ?_ short
  rw [length_found] at first third
  rw [Delivery.after, second] at third
  rw [length_found] at second
  simp only [Delivery.peeked, length_drop, Nat.reduceAdd] at second third
  refine ⟨by omega, fun call early => ?_⟩
  interval_cases call <;> omega

theorem recv_lengths_whole (whole : socket.LengthsWhole) :
    cmTnsprtRecvMessage memory fuel socket =
      if socket.totalLen < (socket.headerLen + 4) % 2 ^ 32 ∨ memory = false then
        some (refusal (socket.bytes.drop 8))
      else
        let header := socket.body.found socket.headerLen
        let payload := socket.body.after socket.headerLen
        if header.length ≠ socket.headerLen then
          some ⟨false, header, none, false, payload.bytes⟩
        else (receivePayload fuel payload
          ((socket.totalLen + 2 ^ 33 - (8 + socket.headerLen)) % 2 ^ 32) [] false).map
            fun (message, outside, rest) => ⟨true, header, some message, outside, rest⟩ := by
  obtain ⟨first, second, third, body⟩ := found_lengths whole
  have eight := whole.1
  have four : (socket.bytes.take 4).length = 4 := length_take_of_le (by omega)
  have next : ((socket.bytes.drop 4).take 4).length = 4 := by
    rw [length_take, length_drop]
    omega
  unfold cmTnsprtRecvMessage
  simp only [first, second, third, body, four, next, ne_eq, not_true, if_false]
  rw [ite_or]
  rfl

theorem late_iff {pieces : Nat → Nat} {left place got : Nat}
    (is : got = min left (min 0x7ffff000 (max 1 (pieces 0)))) :
    Late pieces left place ↔ 0 < left ∧ 2 ^ 31 ≤ place ∨
      Late (fun call => pieces (call + 1)) (left - got) (place + got) := by
  have received (calls : Nat) : receivedBytes pieces left (calls + 1) =
      got + receivedBytes (fun call => pieces (call + 1)) (left - got) calls := by
    rw [is]
    rfl
  constructor
  · rintro ⟨calls, less, many⟩
    cases calls with
    | zero => exact .inl ⟨less, many⟩
    | succ calls =>
      rw [received] at less many
      exact .inr ⟨calls, by omega, by omega⟩
  rintro (⟨some, many⟩ | ⟨calls, less, many⟩)
  · exact ⟨0, some, many⟩
  · exact ⟨calls + 1, by rw [received]; omega, by rw [received]; omega⟩

/-- A receive of the payload that ends has taken exactly what is left. -/
theorem receivePayload_some {left : Nat} {buffer : List UInt8} {outside : Bool}
    {result : List UInt8 × Bool × List UInt8} (enough : left ≤ socket.bytes.length)
    (ended : receivePayload fuel socket left buffer outside = some result) :
    result.1 = buffer ++ socket.bytes.take left ∧ result.2.2 = socket.bytes.drop left ∧
      (result.2.1 = true ↔ outside = true ∨ Late socket.pieces left buffer.length) := by
  induction fuel generalizing socket left buffer outside with
  | zero => cases ended
  | succ fuel ih =>
  have got := socket.length_found left
  rw [min_eq_left (by omega)] at got
  have rest : (socket.after left).bytes = socket.bytes.drop (socket.found left).length := rfl
  have wrote : (socket.found left ≠ [] && decide (2 ^ 31 ≤ buffer.length)) = true ↔
      0 < left ∧ 2 ^ 31 ≤ buffer.length := by
    rw [Bool.and_eq_true, decide_eq_true_eq, decide_eq_true_eq, ← length_pos_iff]
    refine and_congr_left' ?_
    omega
  rw [late_iff got]
  rw [receivePayload] at ended
  split at ended
  case isTrue full =>
    obtain rfl := Option.some.inj ended
    have none_ : ¬ Late (fun call => socket.pieces (call + 1)) 0 (buffer.length + left) :=
      fun ⟨_, less, _⟩ => Nat.not_lt_zero _ less
    rw [rest, Bool.or_eq_true, wrote, full, Nat.sub_self, or_iff_left none_, found_of_length full]
    exact ⟨rfl, rfl, Iff.rfl⟩
  case isFalse =>
    obtain ⟨message, remaining, wroteOutside⟩ := ih (by rw [rest, length_drop]; omega) ended
    have piece : socket.found left = socket.bytes.take (socket.found left).length := by
      rw [got]
      rfl
    refine ⟨?_, ?_, ?_⟩
    · rw [message, append_assoc, rest]
      nth_rewrite 1 [piece]
      rw [← take_add]
      congr 2
      omega
    · rw [remaining, rest, drop_drop]
      congr 1
      omega
    · rw [wroteOutside, Bool.or_eq_true, wrote, or_assoc, length_append]
      exact Iff.rfl

theorem receivePayload_ends {left : Nat} {buffer : List UInt8} {outside : Bool}
    (enough : left ≤ socket.bytes.length) (fuelled : left < fuel) :
    (receivePayload fuel socket left buffer outside).isSome := by
  induction fuel generalizing socket left buffer outside with
  | zero => exact absurd fuelled (Nat.not_lt_zero _)
  | succ fuel ih =>
  rw [receivePayload]
  split
  case isTrue => rfl
  case isFalse more =>
    have got := socket.length_found left
    apply ih
    · simp only [Delivery.after, length_drop, Delivery.peeked]
      omega
    · omega

theorem right_iff_of_refused {header rest : List UInt8}
    (ran : ∀ fuel, cmTnsprtRecvMessage memory fuel socket =
      some ⟨false, header, none, false, rest⟩) :
    ReceivesRight memory socket ↔
      ¬ (socket.WellFormed ∧ memory) ∧ header.length ≤ sizeofGenericHeader := by
  constructor
  · rintro ⟨fuel, result, came, right, fails⟩
    obtain rfl := Option.some.inj ((ran fuel).symm.trans came)
    have other : ¬ (socket.WellFormed ∧ memory) := by
      intro message
      cases congrArg ReceiveResult.success (right message)
    exact ⟨other, (fails other).2.1⟩
  · rintro ⟨other, fits⟩
    exact ⟨0, _, ran 0, fun message => absurd message other, fun _ => ⟨rfl, fits, rfl, rfl⟩⟩

/-- The message is right exactly when its payload is received inside the buffer. -/
theorem message_right_iff (message : socket.WellFormed) {header : List UInt8} {payload : Delivery}
    (exact_ : header = (socket.bytes.drop 8).take socket.headerLen)
    (rest : payload.bytes = socket.bytes.drop (8 + socket.headerLen))
    (run : ∀ fuel, cmTnsprtRecvMessage true fuel socket =
      (receivePayload fuel payload socket.payloadLen [] false).map
        fun (message, outside, rest) => ⟨true, header, some message, outside, rest⟩) :
    ReceivesRight true socket ↔ ¬ Late payload.pieces socket.payloadLen 0 := by
  have ⟨_, total, complete⟩ := message
  have is : socket.payloadLen = socket.totalLen - (8 + socket.headerLen) := rfl
  have enough : socket.payloadLen ≤ payload.bytes.length := by
    rw [rest, length_drop]
    omega
  have came {fuel : Nat} {got : List UInt8 × Bool × List UInt8}
      (ended : receivePayload fuel payload socket.payloadLen [] false = some got) :
      (⟨true, header, some got.1, got.2.1, got.2.2⟩ : ReceiveResult) =
        { socket.message with outside := got.2.1 } ∧
      (got.2.1 = true ↔ Late payload.pieces socket.payloadLen 0) := by
    obtain ⟨received, unread, late⟩ := receivePayload_some enough ended
    rw [rest] at received unread
    have all : 8 + socket.headerLen + socket.payloadLen = socket.totalLen := by omega
    refine ⟨?_, late.trans (or_iff_right nofun)⟩
    rw [received, unread, drop_drop, all, exact_]
    rfl
  constructor
  · rintro ⟨fuel, result, ran, right, -⟩ late
    rw [run, Option.map_eq_some_iff] at ran
    obtain ⟨got, ended, rfl⟩ := ran
    have inside := congrArg ReceiveResult.outside (right ⟨message, rfl⟩)
    cases ((came ended).2.mpr late).symm.trans inside
  · intro onTime
    obtain ⟨got, ended⟩ := Option.isSome_iff_exists.mp
      (@receivePayload_ends _ _ _ [] false enough (Nat.lt_succ_self _))
    obtain ⟨result, late⟩ := came ended
    have inside : got.2.1 = false := eq_false_of_ne_true fun outside => onTime (late.mp outside)
    refine ⟨_, _, (run _).trans (congrArg _ ended), fun _ => ?_,
      fun other => absurd ⟨message, rfl⟩ other⟩
    exact result.trans (by rw [inside]; rfl)

/-- For every stream, delivery and memory, the call is right exactly where it reaches no
defect. -/
theorem receives_right_iff (memory : Bool) (socket : Delivery) :
    ReceivesRight memory socket ↔ SoundDelivery memory socket := by
  by_cases whole : socket.LengthsWhole
  case neg =>
    obtain ⟨rest, ran⟩ := @recv_lengths_short memory _ whole
    rw [right_iff_of_refused ran]
    exact ⟨fun ⟨other, _⟩ =>
        ⟨fun message => absurd message other, fun _ known => absurd known whole⟩,
      fun sound => ⟨fun message => whole (sound.message message).1, Nat.zero_le _⟩⟩
  have run (fuel : Nat) := @recv_lengths_whole memory _ fuel whole
  have header : (socket.body.found socket.headerLen).length = socket.headerGot := by
    rw [length_found]
    simp only [body, length_drop, Nat.zero_add, headerGot]
  have word : socket.totalLen < 256 ^ (socket.bytes.take 4).length := netNat_lt _
  rw [length_take_of_le (by have := whole.1; omega)] at word
  by_cases early : socket.totalLen < (socket.headerLen + 4) % 2 ^ 32 ∨ memory = false
  case pos =>
    simp only [if_pos early] at run
    have other : ¬ (socket.WellFormed ∧ memory) := by
      rintro ⟨⟨small, total, _⟩, rfl⟩
      have less := early.resolve_right nofun
      omega
    rw [right_iff_of_refused run]
    refine iff_of_true ⟨other, Nat.zero_le _⟩ ⟨fun message => absurd message other, ?_⟩
    rintro _ _ enough rfl
    exact absurd enough (early.resolve_right nofun).not_ge
  obtain ⟨enough, allocated⟩ := not_or.mp early
  obtain rfl := eq_true_of_ne_false allocated
  simp only [if_neg early, header] at run
  by_cases full : socket.headerGot = socket.headerLen
  case neg =>
    simp only [if_pos full] at run
    have less : socket.headerGot < socket.headerLen := by
      refine lt_of_le_of_ne ?_ full
      exact (min_le_left _ _).trans (min_le_left _ _)
    rw [right_iff_of_refused run, header]
    constructor
    · rintro ⟨other, fits⟩
      exact ⟨fun message => absurd message other, fun _ _ _ _ => ⟨less, fits⟩⟩
    · intro sound
      have other : ¬ (socket.WellFormed ∧ true) := fun message => full (sound.message message).2.1
      exact ⟨other, (sound.other other whole (not_lt.mp enough) rfl).2⟩
  simp only [full, ne_eq, not_true, if_false] at run
  by_cases message : socket.WellFormed
  case neg =>
    have other : ¬ (socket.WellFormed ∧ true) := fun known => message known.1
    refine iff_of_false ?_ fun sound => ?_
    · rintro ⟨fuel, result, came, -, fails⟩
      rw [run, Option.map_eq_some_iff] at came
      obtain ⟨_, -, rfl⟩ := came
      cases (fails other).1
    · exact absurd full (sound.other other whole (not_lt.mp enough) rfl).1.ne
  have ⟨small, total, _⟩ := message
  have left : (socket.totalLen + 2 ^ 33 - (8 + socket.headerLen)) % 2 ^ 32 = socket.payloadLen := by
    unfold payloadLen
    omega
  rw [left] at run
  have rest : (socket.body.after socket.headerLen).bytes =
      socket.bytes.drop (8 + socket.headerLen) := by
    rw [Delivery.after, header, full]
    exact drop_drop
  rw [message_right_iff message (found_of_length (header.trans full)) rest run]
  exact ⟨fun onTime => ⟨fun _ => ⟨whole, full, onTime⟩, fun other => absurd ⟨message, rfl⟩ other⟩,
    fun sound => (sound.message ⟨message, rfl⟩).2.2⟩

/-- A message without a payload, of whose first length field one byte lies ready. -/
theorem short_length_refused : ¬ ∀ (memory : Bool) (socket : Delivery),
    ReceivesRight memory socket := by
  intro all
  obtain ⟨fuel, result, ran, right, -⟩ := all true ⟨[0, 0, 0, 8, 0, 0, 0, 0], fun _ => 1⟩
  have message := right ⟨⟨by decide, by decide, by decide⟩, rfl⟩
  have refused : result.success = false := by
    cases ran
    rfl
  rw [message] at refused
  cases refused

end OpenFlowController.Cminfra
