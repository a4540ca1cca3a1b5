/-
Module: Transport.SecondaryClose
Purpose: The detaching and closing of a channel that is attached to a datapath whose main channel
  is another one, with the datapaths that are told to have been detached: no such channel leaves
  its datapath without the main connection.
Source: ofproto/src/transport/base/channel_fsm.c 411-497, 560-654, 901-949;
  ofproto/src/transport/base/trnsprt_channel.c 366-514; ofproto/src/dprm/dprmapi.c 6231-6242
Trusted boundary: a channel that is closed while it closes the auxiliary channels of its own
  datapath goes on with that datapath, where the source follows a pointer that was set to NULL
-/
import OpenFlowController.Transport.DpBinding

namespace OpenFlowController.Transport

/-! ## Ways to remove a channel -/

/-- A detach event, a close event, and the two one after the other, as a header read raises them
when the peer has closed. -/
inductive SecondaryRemoval where
  | detach
  | close
  | peerClosed

namespace Binding

def removeChannel (binding : Binding) (channel : Nat) (outcomes : ChannelOutcomes) :
    SecondaryRemoval → Binding
  | .detach => fsmDetachEvent binding channel outcomes
  | .close => fsmCloseEvent binding channel outcomes
  | .peerClosed => fsmCloseEvent (fsmDetachEvent binding channel outcomes) channel outcomes

/-- The datapath whose detaching `fsm_xprt_proto_channel_detach_dp` tells the applications, and
whose ports it deletes. -/
def detachHandlers (binding : Binding) (channel : Nat) : List Nat :=
  let info := binding.channels channel
  match info.fsmState with
  | .waitForHandshake | .boundToDp =>
    if info.isChnAddedToDp = true ∧ info.auxiliaryId = 0 then info.datapath.toList else []
  | .init | .closeConn => []

end Binding

/-- Those of the loop over the auxiliary channels. -/
def closeAuxHandlers (datapath : Nat) (outcomes : ChannelOutcomes) : Nat → Binding → List Nat
  | 0, _ => []
  | count + 1, binding =>
    match (binding.datapaths datapath).bind fun entry => entry.auxChannels.getLast? with
    | none => []
    | some dpChannel =>
      match dpChannel.connSafeRef with
      | none => []
      | some auxChannel =>
        if (binding.channels auxChannel).isChnAdded2HashTbl then
          let closed := xprtProtoChannelClose binding auxChannel outcomes
          binding.detachHandlers auxChannel ++
            if closed.2 then
              closeAuxHandlers datapath outcomes count
                (closed.1.modifyDatapath datapath DatapathEntry.removeTail)
            else []
        else []

/-- Those of the auxiliary channels that the closing of a channel with the auxiliary id of a main
one closes first. -/
def closeAuxHandlersOf (binding : Binding) (channel : Nat) (outcomes : ChannelOutcomes) :
    List Nat :=
  let info := binding.channels channel
  if info.auxiliaryId = 0 ∧ info.isChnAddedToDp = true then
    match info.datapath with
    | none => []
    | some datapath =>
      match binding.datapaths datapath with
      | none => []
      | some entry =>
        if entry.auxChannels = [] then []
        else closeAuxHandlers datapath outcomes entry.currNoOfAuxChanels.toNat binding
  else []

def closeHandlers (binding : Binding) (channel : Nat) (outcomes : ChannelOutcomes) : List Nat :=
  match (binding.channels channel).fsmState with
  | .waitForHandshake | .boundToDp =>
    closeAuxHandlersOf binding channel outcomes ++
      (closeAuxChannelsOf binding channel outcomes).detachHandlers channel
  | .init | .closeConn => []

/-- The datapaths that are told to be detached, in the order of the calls. -/
def Binding.removalHandlers (binding : Binding) (channel : Nat) (outcomes : ChannelOutcomes) :
    SecondaryRemoval → List Nat
  | .detach => binding.detachHandlers channel
  | .close => closeHandlers binding channel outcomes
  | .peerClosed => binding.detachHandlers channel ++
      closeHandlers (fsmDetachEvent binding channel outcomes) channel outcomes

/-! ## What should hold -/

/-- The channel is removed from the datapath and nothing else changes: not the main connection,
nor the other channels, nor are the applications told that the datapath was detached. -/
structure RemovedLocally (before after : Binding) (channel datapath : Nat)
    (handlers : List Nat) : Prop where
  removed : (after.channels channel).isChnAddedToDp = false
  others : ∀ other, other ≠ channel → after.channels other = before.channels other
  entry : ∀ entry, before.datapaths datapath = some entry →
    ∃ left, after.datapaths datapath = some left ∧
      left.isMainConnPresent = entry.isMainConnPresent ∧ left.mainChannel = entry.mainChannel ∧
        left.auxChannels =
          entry.auxChannels.filter fun dpChannel => dpChannel.connSafeRef ≠ some channel
  stillAttached : datapath ∉ handlers

/-- A channel that is attached to a datapath whose main connection is another channel. -/
structure SecondaryScene where
  binding : Binding
  channel : Nat
  datapath : Nat
  entry : DatapathEntry
  main : Nat
  stored : binding.datapaths datapath = some entry
  present : entry.isMainConnPresent = true
  registered : entry.mainChannel.connSafeRef = some main
  secondary : channel ≠ main
  added : (binding.channels channel).isChnAddedToDp = true
  attached : (binding.channels channel).datapath = some datapath

/-! ## It never does -/

/-- The main connection of the datapath is gone, or the channel is still attached to it. -/
def MainGoneOrAttached (channel datapath : Nat) (binding : Binding) : Prop :=
  (∀ entry, binding.datapaths datapath = some entry → entry.isMainConnPresent = false) ∨
    (binding.channels channel).isChnAddedToDp = true ∧
      (binding.channels channel).datapath = some datapath

namespace MainGoneOrAttached

variable {channel datapath : Nat} {binding : Binding} {outcomes : ChannelOutcomes}

theorem modifyDatapath {change : DatapathEntry → DatapathEntry} {other : Nat}
    (unset : ∀ entry, entry.isMainConnPresent = false → (change entry).isMainConnPresent = false)
    (kept : MainGoneOrAttached channel datapath binding) :
    MainGoneOrAttached channel datapath (binding.modifyDatapath other change) := by
  rcases kept with gone | attached
  · refine .inl fun entry stored => ?_
    rcases Binding.modifyDatapath_some _ _ _ stored with ⟨same, before, was, changed⟩ | ⟨-, was⟩
    · rw [← changed]
      exact unset before (gone before (same ▸ was))
    · exact gone entry was
  · exact .inr attached

theorem setChannel {other : Nat} {info : ChannelInfo}
    (added : info.isChnAddedToDp = (binding.channels other).isChnAddedToDp)
    (same : info.datapath = (binding.channels other).datapath)
    (kept : MainGoneOrAttached channel datapath binding) :
    MainGoneOrAttached channel datapath (binding.setChannel other info) := by
  rcases kept with gone | attached
  · exact .inl gone
  refine .inr ?_
  by_cases own : channel = other
  · rw [own, Binding.setChannel_same, added, same]
    exact own ▸ attached
  · rw [Binding.setChannel_other _ _ _ own]
    exact attached

/-- After a detach of another channel the main one is still attached, or gone. -/
theorem detach (other : Nat) (kept : MainGoneOrAttached channel datapath binding) :
    MainGoneOrAttached channel datapath (fsmChannelDetachDp binding other outcomes) := by
  unfold fsmChannelDetachDp
  dsimp only
  split
  · exact kept
  split
  · exact kept
  split
  case h_1 => exact kept
  case h_2 owner own =>
  by_cases same : owner = datapath
  · subst same
    refine .inl fun entry stored => ?_
    rcases Binding.modifyDatapath_some _ _ _ stored with
      ⟨-, before, -, changed⟩ | ⟨differs, -⟩
    · rw [← changed]
      rfl
    · exact absurd rfl differs
  have cleared : MainGoneOrAttached channel datapath
      (binding.modifyDatapath owner DatapathEntry.clearMain) :=
    kept.modifyDatapath fun _ _ => rfl
  rcases cleared with gone | attached
  · exact .inl gone
  refine .inr ?_
  have apart : channel ≠ other := by
    rintro rfl
    exact same (Option.some.inj (own.symm.trans attached.2))
  rw [Binding.setChannel_other _ _ _ apart]
  exact attached

theorem detachEvent (other : Nat) (kept : MainGoneOrAttached channel datapath binding) :
    MainGoneOrAttached channel datapath (fsmDetachEvent binding other outcomes) := by
  unfold fsmDetachEvent
  split
  case h_1 => exact kept.detach other
  case h_2 => exact kept.detach other
  case h_3 => exact kept
  case h_4 => exact kept

theorem xprtClose (other : Nat) (kept : MainGoneOrAttached channel datapath binding) :
    MainGoneOrAttached channel datapath (xprtProtoChannelClose binding other outcomes).1 := by
  have detached := @detachEvent _ _ _ outcomes other kept
  unfold xprtProtoChannelClose
  split
  · exact detached.setChannel rfl rfl
  · exact detached

theorem closeAux (owner count : Nat) (kept : MainGoneOrAttached channel datapath binding) :
    MainGoneOrAttached channel datapath (closeAuxChannels owner outcomes count binding) := by
  induction count generalizing binding with
  | zero => exact kept
  | succ count ih =>
  rw [closeAuxChannels]
  split
  case h_1 => exact kept
  case h_2 dpChannel _ =>
  split
  case h_1 => exact kept
  case h_2 auxChannel _ =>
  split
  · have closed := @xprtClose _ _ _ outcomes auxChannel kept
    dsimp only
    split
    · exact ih (closed.modifyDatapath fun _ unset => unset)
    · exact closed
  · exact kept

/-- After a close of another channel, too. -/
theorem closeEvent (other : Nat) (kept : MainGoneOrAttached channel datapath binding) :
    MainGoneOrAttached channel datapath (fsmCloseEvent binding other outcomes) := by
  have closed : MainGoneOrAttached channel datapath (fsmChannelClose binding other outcomes) := by
    apply xprtClose
    unfold closeAuxChannelsOf
    dsimp only
    split
    · split
      case h_1 => exact kept
      case h_2 owner _ =>
        split
        case h_1 => exact kept
        case h_2 entry _ =>
          split
          · exact kept
          · exact kept.closeAux owner _
    · exact kept
  unfold fsmCloseEvent
  split
  case h_1 => exact closed
  case h_2 => exact closed
  case h_3 => exact kept
  case h_4 => exact kept

theorem removal (other : Nat) (removal : SecondaryRemoval)
    (kept : MainGoneOrAttached channel datapath binding) :
    MainGoneOrAttached channel datapath (binding.removeChannel other outcomes removal) := by
  cases removal with
  | detach => exact kept.detachEvent other
  | close => exact kept.closeEvent other
  | peerClosed => exact (kept.detachEvent other).closeEvent other

end MainGoneOrAttached

/-- No attached channel besides the main one is removed locally: it stays attached, or the main
connection goes with it. -/
theorem secondary_never_removed_locally (scene : SecondaryScene) (outcomes : ChannelOutcomes)
    (removal : SecondaryRemoval) :
    ¬ RemovedLocally scene.binding
      (scene.binding.removeChannel scene.channel outcomes removal) scene.channel scene.datapath
      (scene.binding.removalHandlers scene.channel outcomes removal) := by
  intro removed
  have start : MainGoneOrAttached scene.channel scene.datapath scene.binding :=
    .inr ⟨scene.added, scene.attached⟩
  rcases @MainGoneOrAttached.removal _ _ _ outcomes scene.channel removal start with
    gone | ⟨added, -⟩
  · obtain ⟨left, stored, present, -⟩ := removed.entry scene.entry scene.stored
    rw [gone left stored, scene.present] at present
    cases present
  · rw [removed.removed] at added
    cases added

/-! ### An auxiliary connection that is closed -/

def everythingServed : AttachOutcomes := ⟨true, true, true⟩

/-- A datapath with its main connection, channel 0, and an auxiliary one, channel 1. -/
def mainAndAuxiliary : Binding :=
  [BindingEvent.connect, .connect, .registerDatapath,
    .featureReply 0 0 0 everythingServed ⟨fun _ => true, fun _ => true⟩,
    .featureReply 1 0 1 everythingServed ⟨fun _ => true, fun _ => true⟩].foldl bindingStep
      Binding.create

/-- Its closing takes the main connection of the datapath away. -/
theorem auxiliary_close_not_local :
    ¬ RemovedLocally mainAndAuxiliary
      (mainAndAuxiliary.removeChannel 1 ⟨fun _ => true, fun _ => true⟩ .close) 1 0
      (mainAndAuxiliary.removalHandlers 1 ⟨fun _ => true, fun _ => true⟩ .close) := by
  intro removed
  have before : mainAndAuxiliary.datapaths 0 = some ⟨true, ⟨0, some 0, some 0⟩,
      [⟨1, some 1, some 0⟩], 1⟩ := by decide
  obtain ⟨left, stored, present, -⟩ := removed.entry _ before
  cases stored
  cases present

end OpenFlowController.Transport
