/-
Module: Messages.AsyncSlices
Purpose: The handling of a packet-in and of a flow-removed message that is complete in its buffer,
  with the parts of it that the applications get, and the messages of which they get the fields
  of the match and the packet.
Source: ofproto/src/messages/of_cntlr_msg.c 1025-1189; ofproto/src/messages/of_async_msgapi.c
  230-345; ofproto/src/include/openflow.h 401-413, 1382-1427; include/of_msgapi.h 2086-2174
Trusted boundary: what stands behind the message in memory is arbitrary
-/
import OpenFlowController.Include.ActionFormat

namespace OpenFlowController.Messages

open Include Library

/-! ## The message and what is told of it -/

/-- What an application's callback answers; `other` is any value that no case handles. -/
inductive AsyncReturn where
  | consumed
  | passToNextApp
  | drop
  | other

structure AsyncHook where
  callBack : Nat
  answer : AsyncReturn

/-- A complete message in `msg_buf`: the bytes from `start_of_data` on, also those behind the
message, the channel's number, and `app_list` of the event at the table of the message, where
there is one. -/
structure AsyncMsg where
  byteAt : Nat → UInt8
  auxiliaryId : UInt8
  appList : Option (List AsyncHook)

namespace AsyncMsg

variable (msg : AsyncMsg)

def bytesAt (offset width : Nat) : List UInt8 :=
  (List.range width).map fun index => msg.byteAt (offset + index)

def short (offset : Nat) : UInt16 := word16 (msg.bytesAt offset 2)

def long (offset : Nat) : UInt32 := word32 (msg.bytesAt offset 4)

def quad (offset : Nat) : UInt64 := word64 (msg.bytesAt offset 8)

/-- `header.length`. -/
def length : Nat := (msg.short 2).toNat

end AsyncMsg

/-- A pointer into the message, as an offset from its start, with the length that goes with it. -/
structure MsgSlice where
  start : Nat
  length : Nat
deriving DecidableEq

structure OflPacketIn where
  bufferId : UInt32
  channelNo : UInt8
  reason : UInt8
  tableId : UInt8
  cookie : UInt64
  matchFields : MsgSlice
  packet : MsgSlice

structure OflFlowRemoved where
  cookie : UInt64
  priority : UInt16
  reason : UInt8
  tableId : UInt8
  durationSec : UInt32
  durationNsec : UInt32
  idleTimeout : UInt16
  hardTimeout : UInt16
  packetCount : UInt64
  byteCount : UInt64
  matchFields : MsgSlice

def ofpttAll : UInt8 := 0xff

def sizeofPacketIn : Nat := 32

/-- The scan of `app_list`, with the callbacks that are called. -/
def callApps {Info : Type} (info : Info) : List AsyncHook → List (AsyncHook × Info)
  | [] => []
  | hook :: rest =>
    (hook, info) ::
      match hook.answer with
      | .consumed | .drop => []
      | .passToNextApp | .other => callApps info rest

/-- `handover_pkt_in_msg_to_app` and `handover_flow_removed_event_to_app`. -/
def handoverToApp {Info : Type} (appList : Option (List AsyncHook)) (info : Info) :
    List (AsyncHook × Info) :=
  match appList with
  | none => []
  | some hooks => callApps info hooks

/-! ## Packet-in -/

section PacketIn

variable (msg : AsyncMsg)

def pktInTotalLen : UInt16 := msg.short 12

/-- `pkt_offset`: the subtraction is one of `size_t`, and its low 16 bits are kept. -/
def pktOffset : UInt16 :=
  (UInt64.ofNat msg.length - (UInt64.ofNat sizeofPacketIn + (pktInTotalLen msg).toUInt64)).toUInt16

def pktInMsg : OflPacketIn where
  bufferId := msg.long 8
  channelNo := msg.auxiliaryId
  reason := msg.byteAt 14
  tableId := msg.byteAt 15
  cookie := msg.quad 16
  matchFields := ⟨28, (msg.short 26).toNat⟩
  packet := ⟨sizeofPacketIn + (pktOffset msg).toNat, (pktInTotalLen msg).toNat⟩

/-- `of_handle_pkt_in_msg`, from the complete message on. -/
def ofHandlePktInMsg : List (AsyncHook × OflPacketIn) :=
  if msg.byteAt 15 = ofpttAll then []
  else if msg.short 24 ≠ ofpmtOxm then []
  else handoverToApp msg.appList (pktInMsg msg)

end PacketIn

/-! ## Flow-removed -/

section FlowRemoved

variable (msg : AsyncMsg)

def flowRemovedMsg : OflFlowRemoved where
  cookie := msg.quad 8
  priority := msg.short 16
  reason := msg.byteAt 18
  tableId := msg.byteAt 19
  durationSec := msg.long 20
  durationNsec := msg.long 24
  idleTimeout := msg.short 28
  hardTimeout := msg.short 30
  packetCount := msg.quad 32
  byteCount := msg.quad 40
  matchFields := ⟨52, (msg.short 50 - 4).toNat⟩

/-- `of_handle_flow_removed_event`, from the complete message on. -/
def ofHandleFlowRemovedEvent : List (AsyncHook × OflFlowRemoved) :=
  if msg.byteAt 19 = ofpttAll then []
  else handoverToApp msg.appList (flowRemovedMsg msg)

end FlowRemoved

/-! ## What should hold -/

inductive AsyncKind where
  | packetIn
  | flowRemoved

/-- Where the match of the message begins. -/
def AsyncKind.matchAt : AsyncKind → Nat
  | .packetIn => 24
  | .flowRemoved => 48

/-- The zeros between the padded match and the packet. -/
def AsyncKind.pad : AsyncKind → Nat
  | .packetIn => 2
  | .flowRemoved => 0

namespace AsyncMsg

variable (msg : AsyncMsg) (kind : AsyncKind)

/-- The `length` of the match. -/
def matchLen : Nat := (msg.short (kind.matchAt + 2)).toNat

/-- Where the padded match and the zeros after it end. -/
def matchEnd : Nat := kind.matchAt + (msg.matchLen kind + 7) / 8 * 8 + kind.pad

/-- The match has its header, and ends inside the message. -/
def MatchConsistent : Prop := 4 ≤ msg.matchLen kind ∧ msg.matchEnd kind ≤ msg.length

instance : Decidable (msg.MatchConsistent kind) := inferInstanceAs (Decidable (_ ∧ _))

/-- The OXM fields of the match. -/
def oxmSlice : MsgSlice := ⟨kind.matchAt + 4, msg.matchLen kind - 4⟩

/-- The rest of a packet-in. -/
def packetSlice : Option MsgSlice :=
  match kind with
  | .packetIn => some ⟨msg.matchEnd kind, msg.length - msg.matchEnd kind⟩
  | .flowRemoved => none

/-- The slices that the applications get. -/
def handed : List (MsgSlice × Option MsgSlice) :=
  match kind with
  | .packetIn => (ofHandlePktInMsg msg).map fun call => (call.2.matchFields, some call.2.packet)
  | .flowRemoved => (ofHandleFlowRemovedEvent msg).map fun call => (call.2.matchFields, none)

/-- The slice does not reach outside the message. -/
def Encloses (slice : MsgSlice) : Prop := slice.start + slice.length ≤ msg.length

end AsyncMsg

/-- The applications get the fields of the match and the packet of a message whose match is
consistent with its length, of another message nothing, and nothing outside the message. -/
structure SlicesRight (kind : AsyncKind) (msg : AsyncMsg) : Prop where
  exact : msg.MatchConsistent kind →
    ∀ slices ∈ msg.handed kind, slices = (msg.oxmSlice kind, msg.packetSlice kind)
  rejected : ¬ msg.MatchConsistent kind → msg.handed kind = []
  inside : ∀ slices ∈ msg.handed kind, msg.Encloses slices.1 ∧
    ∀ packet ∈ slices.2, msg.Encloses packet

/-! ## When it does -/

/-- No application gets the message: its table is not usable, its match is not of OXM fields, or
no callback is registered at its table. -/
def AsyncMsg.TurnedAway (msg : AsyncMsg) : AsyncKind → Prop
  | .packetIn => msg.byteAt 15 = ofpttAll ∨ msg.short 24 ≠ ofpmtOxm ∨ msg.appList.getD [] = []
  | .flowRemoved => msg.byteAt 19 = ofpttAll ∨ msg.appList.getD [] = []

/-- No packet-in fits that an application gets; a flow-removed fits when its match does. -/
def SlicesFit (kind : AsyncKind) (msg : AsyncMsg) : Prop :=
  msg.TurnedAway kind ∨ kind = .flowRemoved ∧ msg.MatchConsistent kind

section Calls

variable {Info : Type} {info : Info} {appList : Option (List AsyncHook)}
  {hooks : List AsyncHook} {call : AsyncHook × Info}

theorem info_of_mem_callApps (member : call ∈ callApps info hooks) : call.2 = info := by
  induction hooks with
  | nil => cases member
  | cons hook rest ih =>
  rcases List.mem_cons.mp member with first | later
  · rw [first]
  cases answered : hook.answer with
  | consumed => simp [answered] at later
  | drop => simp [answered] at later
  | passToNextApp =>
    rw [answered] at later
    exact ih later
  | other =>
    rw [answered] at later
    exact ih later

theorem info_of_mem_handover (member : call ∈ handoverToApp appList info) : call.2 = info := by
  cases appList with
  | none => cases member
  | some hooks => exact info_of_mem_callApps member

theorem handover_eq_nil_iff : handoverToApp appList info = [] ↔ appList.getD [] = [] := by
  cases appList with
  | none => exact iff_of_true rfl rfl
  | some hooks =>
  cases hooks with
  | nil => exact iff_of_true rfl rfl
  | cons hook rest => exact iff_of_false (List.cons_ne_nil _ _) (List.cons_ne_nil _ _)

end Calls

namespace AsyncMsg

variable {msg : AsyncMsg} {kind : AsyncKind} {slices : MsgSlice × Option MsgSlice}

theorem handed_eq_nil_iff : msg.handed kind = [] ↔ msg.TurnedAway kind := by
  cases kind with
  | packetIn =>
    simp only [handed, List.map_eq_nil_iff, ofHandlePktInMsg, TurnedAway]
    by_cases table : msg.byteAt 15 = ofpttAll
    · simp [table]
    · by_cases oxm : msg.short 24 = ofpmtOxm
      · simp [table, oxm, handover_eq_nil_iff]
      · simp [table, oxm]
  | flowRemoved =>
  simp only [handed, List.map_eq_nil_iff, ofHandleFlowRemovedEvent, TurnedAway]
  by_cases table : msg.byteAt 19 = ofpttAll
  · simp [table]
  · simp [table, handover_eq_nil_iff]

theorem slices_of_packetIn (member : slices ∈ msg.handed .packetIn) :
    slices = ((pktInMsg msg).matchFields, some (pktInMsg msg).packet) := by
  obtain ⟨call, called, rfl⟩ := List.mem_map.mp member
  rw [ofHandlePktInMsg] at called
  split at called
  · cases called
  · split at called
    · cases called
    · rw [info_of_mem_handover called]

theorem slices_of_flowRemoved (member : slices ∈ msg.handed .flowRemoved) :
    slices = ((flowRemovedMsg msg).matchFields, none) := by
  obtain ⟨call, called, rfl⟩ := List.mem_map.mp member
  rw [ofHandleFlowRemovedEvent] at called
  split at called
  · cases called
  · rw [info_of_mem_handover called]

theorem encloses_oxmSlice (consistent : msg.MatchConsistent kind) :
    msg.Encloses (msg.oxmSlice kind) := by
  obtain ⟨header, ends⟩ := consistent
  rw [matchEnd] at ends
  rw [Encloses, oxmSlice]
  dsimp only
  omega

theorem flowRemoved_matchFields (consistent : msg.MatchConsistent .flowRemoved) :
    (flowRemovedMsg msg).matchFields = msg.oxmSlice .flowRemoved := by
  have header : 4 ≤ (msg.short 50).toNat := consistent.1
  have taken : (msg.short 50 - 4).toNat = (msg.short 50).toNat - 4 :=
    UInt16.toNat_sub_of_le _ _ (UInt16.le_iff_toNat_le.mpr header)
  exact congrArg (MsgSlice.mk 52) taken

theorem packetIn_matchFields_ne (consistent : msg.MatchConsistent .packetIn) :
    (pktInMsg msg).matchFields ≠ msg.oxmSlice .packetIn := by
  intro same
  have header : 4 ≤ (msg.short 26).toNat := consistent.1
  have lengths : (msg.short 26).toNat = (msg.short 26).toNat - 4 :=
    congrArg MsgSlice.length same
  omega

end AsyncMsg

open AsyncMsg in
/-- The applications get the right slices exactly of the messages that they do not get at all, and
of the flow-removed messages whose match is consistent with their length. -/
theorem slices_right_iff (kind : AsyncKind) (msg : AsyncMsg) :
    SlicesRight kind msg ↔ SlicesFit kind msg := by
  constructor
  · intro right
    by_cases away : msg.TurnedAway kind
    · exact .inl away
    have given : msg.handed kind ≠ [] := fun none => away (handed_eq_nil_iff.mp none)
    have consistent : msg.MatchConsistent kind := by
      by_contra inconsistent
      exact given (right.rejected inconsistent)
    cases kind with
    | flowRemoved => exact .inr ⟨rfl, consistent⟩
    | packetIn =>
    obtain ⟨slices, member⟩ := List.exists_mem_of_ne_nil _ given
    have exact := right.exact consistent slices member
    rw [slices_of_packetIn member] at exact
    exact absurd (congrArg Prod.fst exact) (packetIn_matchFields_ne consistent)
  · rintro (away | ⟨rfl, consistent⟩)
    · have nothing : msg.handed kind = [] := handed_eq_nil_iff.mpr away
      constructor
      case exact =>
        intro _ slices member
        rw [nothing] at member
        cases member
      case rejected => exact fun _ => nothing
      case inside =>
        intro slices member
        rw [nothing] at member
        cases member
    · have taken : ∀ slices ∈ msg.handed .flowRemoved,
          slices = (msg.oxmSlice .flowRemoved, none) := by
        intro slices member
        rw [slices_of_flowRemoved member, flowRemoved_matchFields consistent]
      constructor
      case exact => exact fun _ => taken
      case rejected => exact fun inconsistent => absurd consistent inconsistent
      case inside =>
        intro slices member
        rw [taken slices member]
        exact ⟨encloses_oxmSlice consistent, nofun⟩

/-- A packet-in without OXM fields and without a frame, at one application. -/
def emptyPacketIn : AsyncMsg where
  byteAt := fun offset => [4, 10, 0, 34, 0, 0, 0, 0, 0, 0, 0, 0, 0, 0, 0, 0, 0, 0, 0, 0, 0, 0, 0, 0,
    0, 1, 0, 4].getD offset 0
  auxiliaryId := 0
  appList := some [⟨1, .consumed⟩]

/-- Its applications get four bytes of padding as fields of the match. -/
theorem emptyPacketIn_not_right : ¬ SlicesRight .packetIn emptyPacketIn := by
  intro right
  have exact := right.exact (by decide) ((pktInMsg emptyPacketIn).matchFields,
    some (pktInMsg emptyPacketIn).packet) (List.mem_singleton.mpr rfl)
  exact absurd exact (by decide)

end OpenFlowController.Messages
