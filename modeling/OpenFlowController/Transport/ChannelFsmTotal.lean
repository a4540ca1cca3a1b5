/-
Module: Transport.ChannelFsmTotal
Purpose: Which cells of the state and event table of a channel are looked up in a
  run of the controller, and that a closed channel stays closed.
Trusted boundary: none
-/
import OpenFlowController.Transport.DpChannel
import OpenFlowController.Transport.DpBinding

namespace OpenFlowController.Transport

open List

/-- The cell holds a handler. -/
def CellHandled (cell : ChannelFsmState × ChannelEvent) : Prop :=
  cntlrXprtProtoChannelFsmHandler cell.1 cell.2 ≠ none

instance (cell : ChannelFsmState × ChannelEvent) : Decidable (CellHandled cell) :=
  inferInstanceAs (Decidable (_ ≠ none))

/-! ## The invariant -/

/-- A bound channel is marked as added to its datapath; a closed one is not in the
connection table; and nobody points to a channel that was not learned. -/
structure ChannelSound (info : ChannelInfo) (holders : ChannelHolders) : Prop where
  bound : info.fsmState = .boundToDp → info.isChnAddedToDp = true
  closed : info.fsmState = .closeConn → info.isChnAdded2HashTbl = false
  unlearned : info.fsmState = .init →
    info.isChnAdded2HashTbl = false ∧ holders = ChannelHolders.nobody

/-- Every channel is sound, and the numbers from the next one on name none. -/
structure FsmInv (fsm : ChannelFsm) : Prop where
  sound : ∀ channel, ChannelSound (fsm.binding.channels channel) (fsm.holders channel)
  fresh : ∀ channel, fsm.binding.numberOfChannels ≤ channel → fsm.stateOf channel = .init

/-- What the table sees of a channel. -/
def ChannelInfo.view (info : ChannelInfo) : ChannelFsmState × Bool × Bool :=
  (info.fsmState, info.isChnAddedToDp, info.isChnAdded2HashTbl)

variable {info info' : ChannelInfo}

theorem ChannelSound.of_view {holders : ChannelHolders} (sound : ChannelSound info holders)
    (same : info'.view = info.view) : ChannelSound info' holders := by
  simp only [ChannelInfo.view, Prod.mk.injEq] at same
  obtain ⟨state, added, inTable⟩ := same
  constructor
  case bound => rw [state, added]; exact sound.bound
  case closed => rw [state, inTable]; exact sound.closed
  case unlearned => rw [state, inTable]; exact sound.unlearned

theorem ChannelInfo.state_of_view (same : info'.view = info.view) :
    info'.fsmState = info.fsmState :=
  congrArg Prod.fst same

namespace FsmInv

variable {fsm : ChannelFsm} {channel : Nat}

section

variable (inv : FsmInv fsm)

include inv

theorem learned_of_table (inTable : (fsm.binding.channels channel).isChnAdded2HashTbl = true) :
    fsm.stateOf channel ≠ .init := by
  intro unlearned
  have := ((inv.sound channel).unlearned unlearned).1
  exact Bool.false_ne_true (this.symm.trans inTable)

theorem open_of_table (inTable : (fsm.binding.channels channel).isChnAdded2HashTbl = true) :
    fsm.stateOf channel ≠ .closeConn := by
  intro closed
  exact Bool.false_ne_true (((inv.sound channel).closed closed).symm.trans inTable)

theorem learned_of_handshake (polled : (fsm.holders channel).handshake = true) :
    fsm.stateOf channel ≠ .init := by
  intro unlearned
  rw [((inv.sound channel).unlearned unlearned).2] at polled
  exact Bool.false_ne_true polled

theorem learned_of_ctrlThreadMsgs (polled : (fsm.holders channel).ctrlThreadMsgs = true) :
    fsm.stateOf channel ≠ .init := by
  intro unlearned
  rw [((inv.sound channel).unlearned unlearned).2] at polled
  exact Bool.false_ne_true polled

theorem learned_of_keepAlive (started : (fsm.holders channel).keepAlive = true) :
    fsm.stateOf channel ≠ .init := by
  intro unlearned
  rw [((inv.sound channel).unlearned unlearned).2] at started
  exact Bool.false_ne_true started

end

theorem not_bound (inv : FsmInv fsm)
    (notAdded : (fsm.binding.channels channel).isChnAddedToDp = false) :
    fsm.stateOf channel ≠ .boundToDp := by
  intro bound
  exact Bool.false_ne_true (notAdded.symm.trans ((inv.sound channel).bound bound))

theorem below (inv : FsmInv fsm) (learned : fsm.stateOf channel ≠ .init) :
    channel < fsm.binding.numberOfChannels := by
  by_contra above
  exact learned (inv.fresh channel (Nat.le_of_not_lt above))

end FsmInv

/-! ## What a step keeps -/

/-- The invariant holds afterwards, and no channel leaves the closed state or goes
back to the initial one. -/
structure Kept (before after : ChannelFsm) : Prop where
  inv : FsmInv after
  closed : ∀ channel, before.stateOf channel = .closeConn → after.stateOf channel = .closeConn
  learned : ∀ channel, before.stateOf channel ≠ .init → after.stateOf channel ≠ .init

/-- The cells that were looked up in between hold handlers. -/
def Logged (before after : ChannelFsm) : Prop :=
  ∃ cells, after.dispatched = before.dispatched ++ cells ∧ ∀ cell ∈ cells, CellHandled cell

structure Evolves (before after : ChannelFsm) : Prop where
  kept : Kept before after
  logged : Logged before after

namespace Kept

variable {before middle after : ChannelFsm}

theorem refl (inv : FsmInv before) : Kept before before :=
  ⟨inv, fun _ closed => closed, fun _ learned => learned⟩

theorem trans (first : Kept before middle) (second : Kept middle after) : Kept before after where
  inv := second.inv
  closed channel closed := second.closed channel (first.closed channel closed)
  learned channel learned := second.learned channel (first.learned channel learned)

/-- What changes no view, holder or count keeps the invariant. -/
theorem of_views (inv : FsmInv before)
    (views : ∀ channel,
      (after.binding.channels channel).view = (before.binding.channels channel).view)
    (holders : after.holders = before.holders)
    (count : after.binding.numberOfChannels = before.binding.numberOfChannels) :
    Kept before after := by
  have states : ∀ channel, after.stateOf channel = before.stateOf channel := by
    intro channel
    exact ChannelInfo.state_of_view (views channel)
  constructor
  case inv =>
    constructor
    · intro channel
      rw [holders]
      exact (inv.sound channel).of_view (views channel)
    · intro channel above
      rw [states]
      exact inv.fresh channel (count ▸ above)
  case closed =>
    intro channel closed
    rw [states]
    exact closed
  case learned =>
    intro channel learned
    rw [states]
    exact learned

/-- A change of one channel keeps the invariant. -/
theorem of_channel (inv : FsmInv before) (channel : Nat) (learned : before.stateOf channel ≠ .init)
    (others : ∀ other, other ≠ channel →
      (after.binding.channels other).view = (before.binding.channels other).view ∧
        after.holders other = before.holders other)
    (count : after.binding.numberOfChannels = before.binding.numberOfChannels)
    (sound : ChannelSound (after.binding.channels channel) (after.holders channel))
    (closed : before.stateOf channel = .closeConn → after.stateOf channel = .closeConn)
    (stays : after.stateOf channel ≠ .init) : Kept before after := by
  have states : ∀ other, other ≠ channel → after.stateOf other = before.stateOf other := by
    intro other different
    exact ChannelInfo.state_of_view (others other different).1
  constructor
  case inv =>
    constructor
    · intro other
      by_cases same : other = channel
      · rw [same]
        exact sound
      · rw [(others other same).2]
        exact (inv.sound other).of_view (others other same).1
    intro other above
    have different : other ≠ channel := by
      rintro rfl
      exact Nat.not_le_of_lt (inv.below learned) (count ▸ above)
    rw [states other different]
    exact inv.fresh other (count ▸ above)
  case closed =>
    intro other wasClosed
    by_cases same : other = channel
    · rw [same] at wasClosed ⊢
      exact closed wasClosed
    · rw [states other same]
      exact wasClosed
  case learned =>
    intro other wasLearned
    by_cases same : other = channel
    · rw [same]
      exact stays
    · rw [states other same]
      exact wasLearned

/-- A new channel keeps the invariant. -/
theorem of_new (inv : FsmInv before)
    (others : ∀ other, other ≠ before.binding.numberOfChannels →
      (after.binding.channels other).view = (before.binding.channels other).view ∧
        after.holders other = before.holders other)
    (count : after.binding.numberOfChannels = before.binding.numberOfChannels + 1)
    (sound : ChannelSound (after.binding.channels before.binding.numberOfChannels)
      (after.holders before.binding.numberOfChannels)) : Kept before after := by
  have states : ∀ other, other ≠ before.binding.numberOfChannels →
      after.stateOf other = before.stateOf other := by
    intro other different
    exact ChannelInfo.state_of_view (others other different).1
  have newBefore : before.stateOf before.binding.numberOfChannels = .init :=
    inv.fresh _ (Nat.le_refl _)
  constructor
  case inv =>
    constructor
    · intro other
      by_cases same : other = before.binding.numberOfChannels
      · rw [same]
        exact sound
      · rw [(others other same).2]
        exact (inv.sound other).of_view (others other same).1
    · intro other above
      rw [count] at above
      rw [states other (Nat.ne_of_gt above)]
      exact inv.fresh other (Nat.le_of_succ_le above)
  case closed =>
    intro other wasClosed
    by_cases same : other = before.binding.numberOfChannels
    · rw [same, newBefore] at wasClosed
      exact ChannelFsmState.noConfusion wasClosed
    · rw [states other same]
      exact wasClosed
  case learned =>
    intro other wasLearned
    by_cases same : other = before.binding.numberOfChannels
    · rw [same] at wasLearned
      exact absurd newBefore wasLearned
    · rw [states other same]
      exact wasLearned

end Kept

namespace Logged

variable {before middle after : ChannelFsm}

theorem of_eq (same : after.dispatched = before.dispatched) : Logged before after :=
  ⟨[], by rw [same, append_nil], by simp⟩

theorem trans (first : Logged before middle) (second : Logged middle after) :
    Logged before after := by
  obtain ⟨cells, grown, handled⟩ := first
  obtain ⟨cells', grown', handled'⟩ := second
  refine ⟨cells ++ cells', by rw [grown', grown, append_assoc], ?_⟩
  intro cell member
  rcases mem_append.mp member with here | there
  · exact handled cell here
  · exact handled' cell there

end Logged

namespace Evolves

variable {before middle after : ChannelFsm}

theorem refl (inv : FsmInv before) : Evolves before before :=
  ⟨Kept.refl inv, Logged.of_eq rfl⟩

theorem trans (first : Evolves before middle) (second : Evolves middle after) :
    Evolves before after :=
  ⟨first.kept.trans second.kept, first.logged.trans second.logged⟩

theorem inv (evolves : Evolves before after) : FsmInv after :=
  evolves.kept.inv

theorem learned (evolves : Evolves before after) {channel : Nat}
    (learned : before.stateOf channel ≠ .init) : after.stateOf channel ≠ .init :=
  evolves.kept.learned channel learned

theorem foldl {α : Type*} {step : ChannelFsm → α → ChannelFsm} (good : ChannelFsm → Prop)
    (steps : ∀ fsm item, FsmInv fsm → good fsm → Evolves fsm (step fsm item))
    (stable : ∀ fsm fsm', good fsm → Evolves fsm fsm' → good fsm')
    (items : List α) {fsm : ChannelFsm} (inv : FsmInv fsm) (start : good fsm) :
    Evolves fsm (items.foldl step fsm) := by
  induction items generalizing fsm with
  | nil => exact refl inv
  | cons item rest ih =>
    have stepped := steps fsm item inv start
    exact stepped.trans (ih stepped.inv (stable _ _ start stepped))

end Evolves

namespace ChannelFsm

variable {fsm : ChannelFsm} {channel : Nat}

/-! ## Look-ups -/

attribute [local simp] cntlrXprtProtoChannelFsmHandler

theorem handlerOf_ne_none (event : ChannelEvent) (learned : fsm.stateOf channel ≠ .init)
    (attached : fsm.stateOf channel = .boundToDp → event ≠ .learn) :
    fsm.handlerOf channel event ≠ none := by
  unfold handlerOf
  cases state : fsm.stateOf channel with
  | init => exact absurd state learned
  | waitForHandshake => cases event <;> simp
  | closeConn => simp
  | boundToDp =>
    have different := attached state
    cases event <;> simp at different ⊢

theorem lookUp_kept (inv : FsmInv fsm) (event : ChannelEvent) :
    Kept fsm (fsm.lookUp channel event) :=
  Kept.of_views inv (fun _ => rfl) rfl rfl

theorem lookUp_logged {event : ChannelEvent} (handled : fsm.handlerOf channel event ≠ none) :
    Logged fsm (fsm.lookUp channel event) := by
  refine ⟨[(fsm.stateOf channel, event)], rfl, ?_⟩
  intro cell member
  rw [mem_singleton.mp member]
  exact handled

theorem lookUp_evolves (inv : FsmInv fsm) {event : ChannelEvent}
    (handled : fsm.handlerOf channel event ≠ none) : Evolves fsm (fsm.lookUp channel event) :=
  ⟨lookUp_kept inv event, lookUp_logged handled⟩

theorem lookUp_learned (inv : FsmInv fsm) (learned : fsm.stateOf channel ≠ .init)
    {event : ChannelEvent} (other : event ≠ .learn) :
    Evolves fsm (fsm.lookUp channel event) :=
  lookUp_evolves inv (handlerOf_ne_none event learned fun _ => other)

/-! ## Detaching and closing -/

variable (binding : Binding)

/-- The detach handler writes to the channel only what makes it unbound. -/
theorem fsmChannelDetachDp_channels (channel : Nat) (outcomes : ChannelOutcomes) :
    ((fsmChannelDetachDp binding channel outcomes).channels channel =
        binding.channels channel ∨
      (fsmChannelDetachDp binding channel outcomes).channels channel =
        (binding.channels channel).unbound) ∧
      (∀ other, other ≠ channel →
        (fsmChannelDetachDp binding channel outcomes).channels other =
          binding.channels other) ∧
      (fsmChannelDetachDp binding channel outcomes).numberOfChannels =
        binding.numberOfChannels := by
  unfold fsmChannelDetachDp
  by_cases notAdded : (binding.channels channel).isChnAddedToDp = false
  · simp [notAdded]
  by_cases notReAdded : outcomes.epollReAdded channel = false
  · simp [notReAdded]
  simp only [if_neg notAdded, if_neg notReAdded]
  split
  · simp
  · refine ⟨.inr (Binding.setChannel_same _ _ _), ?_, rfl⟩
    intro other different
    exact Binding.setChannel_other _ _ _ different

theorem fsmXprtProtoChannelDetachDp_binding (outcomes : ChannelOutcomes) :
    (fsm.fsmXprtProtoChannelDetachDp channel outcomes).binding =
      fsmChannelDetachDp fsm.binding channel outcomes := by
  unfold fsmXprtProtoChannelDetachDp
  split <;> rfl

/-- A detach keeps the machine. -/
theorem fsmXprtProtoChannelDetachDp_kept (inv : FsmInv fsm)
    (learned : fsm.stateOf channel ≠ .init) (notClosed : fsm.stateOf channel ≠ .closeConn)
    (outcomes : ChannelOutcomes) :
    Kept fsm (fsm.fsmXprtProtoChannelDetachDp channel outcomes) := by
  obtain ⟨here, others, count⟩ := fsmChannelDetachDp_channels fsm.binding channel outcomes
  have bindingEq := @fsmXprtProtoChannelDetachDp_binding fsm channel outcomes
  have holdersOther : ∀ other, other ≠ channel →
      (fsm.fsmXprtProtoChannelDetachDp channel outcomes).holders other = fsm.holders other := by
    intro other different
    unfold fsmXprtProtoChannelDetachDp
    split
    · exact Function.update_of_ne different _ _
    · rfl
  have stays : (fsm.fsmXprtProtoChannelDetachDp channel outcomes).stateOf channel ≠ .init := by
    unfold stateOf
    rw [bindingEq]
    rcases here with same | unbound
    · rw [same]
      exact learned
    · rw [unbound]
      exact ChannelFsmState.noConfusion
  refine Kept.of_channel inv channel learned ?_ (by rw [bindingEq, count]) ?_ ?_ stays
  · intro other different
    rw [bindingEq, others other different]
    exact ⟨rfl, holdersOther other different⟩
  · constructor
    case bound =>
      rw [bindingEq]
      rcases here with same | unbound
      · rw [same]
        exact (inv.sound channel).bound
      · rw [unbound]
        exact fun bound => ChannelFsmState.noConfusion bound
    case closed =>
      rw [bindingEq]
      rcases here with same | unbound
      · rw [same]
        exact (inv.sound channel).closed
      · rw [unbound]
        exact fun closed => ChannelFsmState.noConfusion closed
    case unlearned => exact fun unlearned => absurd unlearned stays
  · exact fun closed => absurd closed notClosed

theorem fsmXprtProtoChannelDetachDp_dispatched (outcomes : ChannelOutcomes) :
    (fsm.fsmXprtProtoChannelDetachDp channel outcomes).dispatched = fsm.dispatched := by
  unfold fsmXprtProtoChannelDetachDp
  split <;> rfl

theorem dispatchDetach_evolves (inv : FsmInv fsm) (learned : fsm.stateOf channel ≠ .init)
    (outcomes : ChannelOutcomes) : Evolves fsm (fsm.dispatchDetach channel outcomes) := by
  have called : Evolves fsm (fsm.lookUp channel .dpDetach) :=
    lookUp_learned inv learned ChannelEvent.noConfusion
  unfold dispatchDetach
  split
  case h_1 found =>
    have notClosed : fsm.stateOf channel ≠ .closeConn := by
      intro closed
      simp [handlerOf, closed] at found
    exact called.trans
      ⟨fsmXprtProtoChannelDetachDp_kept called.inv learned notClosed outcomes,
        Logged.of_eq (fsmXprtProtoChannelDetachDp_dispatched outcomes)⟩
  case h_2 => exact called

theorem dispatchDetach_open (notClosed : fsm.stateOf channel ≠ .closeConn)
    (outcomes : ChannelOutcomes) :
    (fsm.dispatchDetach channel outcomes).stateOf channel ≠ .closeConn := by
  unfold dispatchDetach
  split
  · unfold stateOf
    rw [fsmXprtProtoChannelDetachDp_binding]
    rcases (fsmChannelDetachDp_channels fsm.binding channel outcomes).1 with same | unbound
    · exact fun closed => notClosed ((congrArg ChannelInfo.fsmState same).symm.trans closed)
    · exact fun closed =>
        ChannelFsmState.noConfusion ((congrArg ChannelInfo.fsmState unbound).symm.trans closed)
  · exact notClosed

attribute [local simp] ChannelInfo.closed

theorem xprtProtoChannelClose_evolves (inv : FsmInv fsm)
    (learned : fsm.stateOf channel ≠ .init) (outcomes : ChannelOutcomes) :
    Evolves fsm (fsm.xprtProtoChannelClose channel outcomes).1 := by
  have detached := dispatchDetach_evolves inv learned outcomes
  unfold xprtProtoChannelClose
  by_cases closes : outcomes.transportClosed channel = true
  · rw [if_pos closes]
    refine detached.trans ⟨?_, Logged.of_eq rfl⟩
    refine Kept.of_channel detached.inv channel (detached.learned learned) ?_ rfl ?_ ?_ ?_
    · intro other different
      exact ⟨by rw [Binding.setChannel_other _ _ _ different], rfl⟩
    · constructor
      case bound => simp
      case closed => simp
      case unlearned => simp
    · intro _
      simp [stateOf]
    · simp [stateOf]
  · rw [if_neg closes]
    exact detached

theorem modifyDatapath_evolves (inv : FsmInv fsm) (datapath : Nat)
    (change : DatapathEntry → DatapathEntry) :
    Evolves fsm { fsm with binding := fsm.binding.modifyDatapath datapath change } :=
  ⟨Kept.of_views inv (fun _ => rfl) rfl rfl, Logged.of_eq rfl⟩

theorem closeAuxChannels_evolves (datapath : Nat) (outcomes : ChannelOutcomes) (count : Nat)
    (inv : FsmInv fsm) : Evolves fsm (closeAuxChannels datapath outcomes count fsm) := by
  induction count generalizing fsm with
  | zero => exact Evolves.refl inv
  | succ count ih =>
  unfold closeAuxChannels
  split
  · exact Evolves.refl inv
  split
  · exact Evolves.refl inv
  next auxChannel _ =>
    split
    · next inTable =>
        have closed :=
          xprtProtoChannelClose_evolves inv (inv.learned_of_table inTable) outcomes
        simp only
        split
        · exact (closed.trans (modifyDatapath_evolves closed.inv _ _)).trans
            (ih (modifyDatapath_evolves closed.inv _ _).inv)
        · exact closed
    · exact Evolves.refl inv

section

variable (inv : FsmInv fsm)

include inv

theorem closeAuxChannelsOf_evolves (channel : Nat) (outcomes : ChannelOutcomes) :
    Evolves fsm (fsm.closeAuxChannelsOf channel outcomes) := by
  unfold closeAuxChannelsOf
  simp only
  split
  · split
    · exact Evolves.refl inv
    · split
      · exact Evolves.refl inv
      · split
        · exact Evolves.refl inv
        · exact closeAuxChannels_evolves _ outcomes _ inv
  · exact Evolves.refl inv

theorem fsmXprtProtoChannelClose_evolves (learned : fsm.stateOf channel ≠ .init)
    (outcomes : ChannelOutcomes) : Evolves fsm (fsm.fsmXprtProtoChannelClose channel outcomes) := by
  have auxClosed := closeAuxChannelsOf_evolves inv channel outcomes
  exact auxClosed.trans
    (xprtProtoChannelClose_evolves auxClosed.inv (auxClosed.learned learned) outcomes)

theorem dispatchClose_evolves (learned : fsm.stateOf channel ≠ .init) (outcomes : ChannelOutcomes) :
    Evolves fsm (fsm.dispatchClose channel outcomes) := by
  have called : Evolves fsm (fsm.lookUp channel .close) :=
    lookUp_learned inv learned ChannelEvent.noConfusion
  unfold dispatchClose
  split
  case h_1 => exact called.trans (fsmXprtProtoChannelClose_evolves called.inv learned outcomes)
  case h_2 => exact called

theorem detachAndClose_evolves (learned : fsm.stateOf channel ≠ .init) (outcomes : ChannelOutcomes) :
    Evolves fsm ((fsm.dispatchDetach channel outcomes).dispatchClose channel outcomes) := by
  have detached := dispatchDetach_evolves inv learned outcomes
  exact detached.trans (dispatchClose_evolves detached.inv (detached.learned learned) outcomes)

end

/-! ## Failed reads and writes -/

section

variable (inv : FsmInv fsm)

include inv

theorem dispatchReadFail_evolves (learned : fsm.stateOf channel ≠ .init) (closedInDrain : Bool)
    (outcomes : ChannelOutcomes) :
    Evolves fsm (fsm.dispatchReadFail channel closedInDrain outcomes) := by
  have called : Evolves fsm (fsm.lookUp channel .readFail) :=
    lookUp_learned inv learned ChannelEvent.noConfusion
  unfold dispatchReadFail
  split
  case h_1 =>
    cases closedInDrain with
    | true => exact called.trans (dispatchClose_evolves called.inv learned outcomes)
    | false => exact called
  case h_2 => exact called

theorem headerReadFailed_evolves (learned : fsm.stateOf channel ≠ .init)
    (peerClosed closedInDrain : Bool) (outcomes : ChannelOutcomes) :
    Evolves fsm (fsm.headerReadFailed channel peerClosed closedInDrain outcomes) := by
  cases peerClosed with
  | true => exact detachAndClose_evolves inv learned outcomes
  | false => exact dispatchReadFail_evolves inv learned closedInDrain outcomes

theorem bodyReadFailed_evolves (learned : fsm.stateOf channel ≠ .init)
    (peerClosed closedInDrain : Bool) (outcomes : ChannelOutcomes) :
    Evolves fsm (fsm.bodyReadFailed channel peerClosed closedInDrain outcomes) := by
  cases peerClosed with
  | true => exact dispatchClose_evolves inv learned outcomes
  | false => exact dispatchReadFail_evolves inv learned closedInDrain outcomes

theorem writeFailed_evolves (learned : fsm.stateOf channel ≠ .init) (peerClosed : Bool)
    (outcomes : ChannelOutcomes) : Evolves fsm (fsm.writeFailed channel peerClosed outcomes) := by
  cases peerClosed with
  | true => exact detachAndClose_evolves inv learned outcomes
  | false => exact lookUp_learned inv learned ChannelEvent.noConfusion

theorem sendFailed_evolves (channel : Nat) (peerClosed : Bool) (outcomes : ChannelOutcomes) :
    Evolves fsm (fsm.sendFailed channel peerClosed outcomes) := by
  unfold sendFailed
  split
  case isTrue inTable =>
    exact writeFailed_evolves inv (inv.learned_of_table inTable) peerClosed outcomes
  case isFalse => exact Evolves.refl inv

/-! ## Learning and attaching -/

variable (fdType : FdType)

theorem dispatchLearn_eq (outcomes : LearnOutcomes) :
    fsm.dispatchLearn fdType outcomes =
      (fsm.lookUp fsm.binding.numberOfChannels .learn).fsmXprtProtoChannelLearn
        fdType outcomes := by
  have fresh : fsm.stateOf fsm.binding.numberOfChannels = .init := inv.fresh _ (Nat.le_refl _)
  simp only [dispatchLearn, handlerOf, fresh, cntlrXprtProtoChannelFsmHandler]

theorem learnEvent_evolves : Evolves fsm (fsm.lookUp fsm.binding.numberOfChannels .learn) := by
  have fresh : fsm.stateOf fsm.binding.numberOfChannels = .init := inv.fresh _ (Nat.le_refl _)
  refine lookUp_evolves inv ?_
  simp [handlerOf, fresh]

theorem addChannel_evolves (epollAdded : Bool) :
    Evolves fsm (fsm.addChannel fdType epollAdded) := by
  refine ⟨Kept.of_new inv ?_ rfl ?_, Logged.of_eq rfl⟩
  · intro other different
    have others := Binding.setChannel_other fsm.binding fsm.binding.numberOfChannels
      { fsmState := .waitForHandshake
        auxiliaryId := 0
        isChnAddedToDp := false
        isChnAdded2HashTbl := true
        datapath := none } different
    exact ⟨congrArg ChannelInfo.view others, Function.update_of_ne different _ _⟩
  · constructor <;> simp [addChannel, fsmChannelLearn]

end

theorem addChannel_stateOf (fdType : FdType) (epollAdded : Bool) :
    (fsm.addChannel fdType epollAdded).stateOf fsm.binding.numberOfChannels =
      .waitForHandshake := by
  simp [addChannel, fsmChannelLearn, stateOf]

section

variable (inv : FsmInv fsm)

include inv

variable (fdType : FdType)

theorem fsmXprtProtoChannelLearn_evolves {outcomes : LearnOutcomes}
    (initialised : outcomes.initialised = true) :
    Evolves fsm (fsm.fsmXprtProtoChannelLearn fdType outcomes) ∧
      (fsm.fsmXprtProtoChannelLearn fdType outcomes).stateOf fsm.binding.numberOfChannels ≠
        .init := by
  have added := addChannel_evolves inv fdType outcomes.epollAdded
  have learned : (fsm.addChannel fdType outcomes.epollAdded).stateOf
      fsm.binding.numberOfChannels ≠ .init := by
    rw [addChannel_stateOf]
    exact ChannelFsmState.noConfusion
  unfold fsmXprtProtoChannelLearn
  rw [if_pos initialised]
  split
  · next peerClosed _ _ =>
      have sent := writeFailed_evolves added.inv learned peerClosed outcomes.closing
      exact ⟨added.trans sent, sent.learned learned⟩
  · exact ⟨added, learned⟩

theorem fsmXprtProtoChannelLearn_failed {outcomes : LearnOutcomes}
    (failed : outcomes.initialised = false) :
    Kept fsm (fsm.fsmXprtProtoChannelLearn fdType outcomes) ∧
      (fsm.fsmXprtProtoChannelLearn fdType outcomes).dispatched = fsm.dispatched ∧
      (fsm.fsmXprtProtoChannelLearn fdType outcomes).stateOf fsm.binding.numberOfChannels =
        .init := by
  unfold fsmXprtProtoChannelLearn
  rw [if_neg (by simp [failed])]
  have fresh : fsm.stateOf fsm.binding.numberOfChannels = .init := inv.fresh _ (Nat.le_refl _)
  refine ⟨?_, rfl, fresh⟩
  exact Kept.of_new inv (fun _ _ => ⟨rfl, rfl⟩) rfl (inv.sound _)

/-- A learned channel takes a step of the machine. -/
theorem fsmXprtProtoChannelLearnDp_evolves (waits : fsm.stateOf channel = .waitForHandshake) :
    Evolves fsm (fsm.fsmXprtProtoChannelLearnDp channel) := by
  have bindingEq : (fsm.fsmXprtProtoChannelLearnDp channel).binding =
      fsmChannelLearnDp fsm.binding channel := by
    unfold fsmXprtProtoChannelLearnDp
    split <;> rfl
  have bound : ((fsm.fsmXprtProtoChannelLearnDp channel).binding.channels channel).fsmState =
      .boundToDp := by
    rw [bindingEq]
    simp [fsmChannelLearnDp]
  have added : ((fsm.fsmXprtProtoChannelLearnDp channel).binding.channels
      channel).isChnAddedToDp = true := by
    rw [bindingEq]
    simp [fsmChannelLearnDp]
  have learned : fsm.stateOf channel ≠ .init := by
    rw [waits]
    exact ChannelFsmState.noConfusion
  constructor
  case kept =>
    refine Kept.of_channel inv channel learned ?_ (by rw [bindingEq]; rfl) ?_ ?_ ?_
    · intro other different
      constructor
      · rw [bindingEq]
        exact congrArg ChannelInfo.view (Binding.setChannel_other _ _ _ different)
      · unfold fsmXprtProtoChannelLearnDp
        split
        · rfl
        · exact Function.update_of_ne different _ _
    · constructor
      case bound => exact fun _ => added
      case closed => simp [bound]
      case unlearned => simp [bound]
    · simp [waits]
    · unfold stateOf
      rw [bound]
      exact ChannelFsmState.noConfusion
  case logged =>
    refine Logged.of_eq ?_
    unfold fsmXprtProtoChannelLearnDp
    split <;> rfl

theorem dispatchAttach_evolves (learned : fsm.stateOf channel ≠ .init)
    (notBound : fsm.stateOf channel ≠ .boundToDp) : Evolves fsm (fsm.dispatchAttach channel) := by
  have called : Evolves fsm (fsm.lookUp channel .learn) :=
    lookUp_evolves inv (handlerOf_ne_none .learn learned fun bound => absurd bound notBound)
  unfold dispatchAttach
  split
  case h_1 found =>
    have waits : fsm.stateOf channel = .waitForHandshake := by
      cases state : fsm.stateOf channel <;>
        simp [handlerOf, state] at found ⊢
    exact called.trans (fsmXprtProtoChannelLearnDp_evolves called.inv waits)
  case h_2 => exact called

theorem setHolders_evolves (learned : fsm.stateOf channel ≠ .init) (holders : ChannelHolders) :
    Evolves fsm (fsm.setHolders channel holders) := by
  refine ⟨?_, Logged.of_eq rfl⟩
  refine Kept.of_channel inv channel learned ?_ rfl ?_ (fun closed => closed) learned
  · intro other different
    exact ⟨rfl, Function.update_of_ne different _ _⟩
  · constructor
    case bound => exact (inv.sound channel).bound
    case closed => exact (inv.sound channel).closed
    case unlearned => exact fun unlearned => absurd unlearned learned

end

theorem ofAddChannelToDp_channels (channel datapath : Nat) (auxiliaryId : UInt8)
    (attach : AttachOutcomes) :
    (ofAddChannelToDp binding channel datapath auxiliaryId attach).1.channels =
        binding.channels ∧
      (ofAddChannelToDp binding channel datapath auxiliaryId attach).1.numberOfChannels =
        binding.numberOfChannels := by
  unfold ofAddChannelToDp
  simp only
  split
  · exact ⟨rfl, rfl⟩
  · split
    · exact ⟨rfl, rfl⟩
    · split <;> split <;> exact ⟨rfl, rfl⟩

theorem sends_evolve (inv : FsmInv fsm) (sends : List (Nat × Bool × ChannelOutcomes)) :
    Evolves fsm (sends.foldl (fun fsm send => fsm.sendFailed send.1 send.2.1 send.2.2) fsm) :=
  Evolves.foldl (fun _ => True)
    (fun _ send inv _ => sendFailed_evolves inv send.1 send.2.1 send.2.2)
    (fun _ _ _ _ => trivial) sends inv trivial

theorem view_setChannel (channel : Nat) (info : ChannelInfo)
    (same : info.view = (binding.channels channel).view) (other : Nat) :
    ((binding.setChannel channel info).channels other).view =
      (binding.channels other).view := by
  by_cases here : other = channel
  · rw [here, ← same]
    exact congrArg ChannelInfo.view (Binding.setChannel_same _ _ _)
  · exact congrArg ChannelInfo.view (Binding.setChannel_other _ _ _ here)

section

variable (inv : FsmInv fsm)

include inv

theorem addToDp_evolves (channel datapath : Nat) (auxiliaryId : UInt8) (attach : AttachOutcomes) :
    Evolves fsm
      { fsm with
        binding :=
          (ofAddChannelToDp (fsm.binding.storeAuxiliaryId channel auxiliaryId) channel datapath
            auxiliaryId attach).1 } := by
  obtain ⟨channels, count⟩ := ofAddChannelToDp_channels
    (fsm.binding.storeAuxiliaryId channel auxiliaryId) channel datapath auxiliaryId attach
  refine ⟨Kept.of_views inv ?_ rfl count, Logged.of_eq rfl⟩
  intro other
  rw [channels]
  exact view_setChannel fsm.binding channel
    { fsm.binding.channels channel with auxiliaryId := auxiliaryId.toUInt32 } rfl other

theorem storeDatapath_evolves (channel datapath : Nat) :
    Evolves fsm { fsm with binding := fsm.binding.storeDatapath channel datapath } :=
  ⟨Kept.of_views inv
      (view_setChannel fsm.binding channel
        { fsm.binding.channels channel with datapath := some datapath } rfl) rfl rfl,
    Logged.of_eq rfl⟩

/-- A features reply takes steps of the machine. -/
theorem ofProcessFeatureReplyMsg_evolves (learned : fsm.stateOf channel ≠ .init) (datapath : Nat)
    (auxiliaryId : UInt8) (attach : AttachOutcomes) (sends : List (Nat × Bool × ChannelOutcomes))
    (outcomes : ChannelOutcomes) :
    Evolves fsm
      (fsm.ofProcessFeatureReplyMsg channel datapath auxiliaryId attach sends outcomes) := by
  unfold ofProcessFeatureReplyMsg
  by_cases isAdded : (fsm.binding.channels channel).isChnAddedToDp = true
  · rw [if_pos isAdded]
    exact Evolves.refl inv
  rw [if_neg isAdded]
  have added := addToDp_evolves inv channel datapath auxiliaryId attach
  have stored := storeDatapath_evolves added.inv channel datapath
  have notBound := @FsmInv.not_bound _ channel stored.inv (by
    obtain ⟨channels, _⟩ := ofAddChannelToDp_channels
      (fsm.binding.storeAuxiliaryId channel auxiliaryId) channel datapath auxiliaryId attach
    simp only [Binding.storeDatapath, Binding.setChannel_same, channels]
    simpa [Binding.storeAuxiliaryId] using isAdded)
  simp only
  split
  · have attached := (added.trans stored).trans
      (dispatchAttach_evolves stored.inv (stored.learned (added.learned learned)) notBound)
    split
    · have sent := attached.trans (sends_evolve attached.inv sends)
      split
      · exact sent.trans (setHolders_evolves sent.inv (sent.learned learned) _)
      · exact sent.trans (dispatchClose_evolves sent.inv (sent.learned learned) outcomes)
    · exact attached
  · exact added.trans (dispatchClose_evolves added.inv (added.learned learned) outcomes)

/-! ## Events -/

theorem raise_evolves (learned : fsm.stateOf channel ≠ .init) (raised : Raised × ChannelOutcomes) :
    Evolves fsm (raise channel fsm raised) := by
  obtain ⟨raised, outcomes⟩ := raised
  cases raised with
  | headerReadFailed peerClosed closedInDrain =>
    exact headerReadFailed_evolves inv learned peerClosed closedInDrain outcomes
  | bodyReadFailed peerClosed closedInDrain =>
    exact bodyReadFailed_evolves inv learned peerClosed closedInDrain outcomes
  | writeFailed peerClosed => exact writeFailed_evolves inv learned peerClosed outcomes
  | sendFailed other peerClosed => exact sendFailed_evolves inv other peerClosed outcomes
  | unsupportedHello => exact lookUp_learned inv learned ChannelEvent.noConfusion
  | malformed => exact dispatchClose_evolves inv learned outcomes
  | featuresReply datapath auxiliaryId attach sends =>
    exact ofProcessFeatureReplyMsg_evolves inv learned datapath auxiliaryId attach sends outcomes

theorem dispatchRead_evolves (learned : fsm.stateOf channel ≠ .init)
    (raised : List (Raised × ChannelOutcomes)) : Evolves fsm (fsm.dispatchRead channel raised) := by
  have called : Evolves fsm (fsm.lookUp channel .read) :=
    lookUp_learned inv learned ChannelEvent.noConfusion
  unfold dispatchRead
  split
  · exact called.trans
      (Evolves.foldl (fun fsm => fsm.stateOf channel ≠ .init)
        (fun _ raised inv learned => raise_evolves inv learned raised)
        (fun _ _ learned evolves => evolves.learned learned) raised called.inv learned)
  · exact called

theorem waitForHandshake_evolves (learned : fsm.stateOf channel ≠ .init)
    (isOpen : fsm.stateOf channel ≠ .closeConn) :
    Evolves fsm
      { fsm with
        binding :=
          fsm.binding.setChannel channel
            { fsm.binding.channels channel with fsmState := .waitForHandshake } } := by
  refine ⟨?_, Logged.of_eq rfl⟩
  refine Kept.of_channel inv channel learned ?_ rfl ?_ (fun closed => absurd closed isOpen) ?_
  · intro other different
    exact ⟨congrArg ChannelInfo.view (Binding.setChannel_other _ _ _ different), rfl⟩
  · constructor <;> simp
  · simp [stateOf]

theorem dprmFreeDatapathChannels_evolves (datapath : Nat) (outcomes : ChannelOutcomes) :
    Evolves fsm (fsm.dprmFreeDatapathChannels datapath outcomes) := by
  unfold dprmFreeDatapathChannels
  split
  · exact Evolves.refl inv
  split
  · split
    · exact Evolves.refl inv
    · next channel _ =>
        split
        · next inTable =>
            have detached :=
              dispatchDetach_evolves inv (inv.learned_of_table inTable) outcomes
            have isOpen := dispatchDetach_open (inv.open_of_table inTable) outcomes
            exact detached.trans
              (waitForHandshake_evolves detached.inv
                (detached.learned (inv.learned_of_table inTable)) isOpen)
        · exact Evolves.refl inv
  · exact Evolves.refl inv

theorem dprmUnregisterDatapath_evolves (datapath : Nat) (removable : Bool)
    (outcomes : ChannelOutcomes) :
    Evolves fsm (fsm.dprmUnregisterDatapath datapath removable outcomes) := by
  have freed := dprmFreeDatapathChannels_evolves inv datapath outcomes
  unfold dprmUnregisterDatapath
  split
  · exact freed.trans ⟨Kept.of_views freed.inv (fun _ => rfl) rfl rfl, Logged.of_eq rfl⟩
  · exact Evolves.refl inv

theorem closeOfTransport_evolves (channel : Nat) (outcomes : ChannelOutcomes) :
    Evolves fsm (closeOfTransport outcomes fsm channel) := by
  unfold closeOfTransport
  split
  · next inTable => exact detachAndClose_evolves inv (inv.learned_of_table inTable) outcomes
  · exact Evolves.refl inv

variable {learn : LearnOutcomes}

theorem datagramOfNewPeer_evolves (initialised : learn.initialised = true)
    (raised : List (Raised × ChannelOutcomes)) :
    Evolves fsm
      ((fsm.dispatchLearn .shared learn).dispatchRead fsm.binding.numberOfChannels raised) := by
  have called := learnEvent_evolves inv
  obtain ⟨learned, notInit⟩ := fsmXprtProtoChannelLearn_evolves called.inv .shared initialised
  rw [dispatchLearn_eq inv]
  exact (called.trans learned).trans (dispatchRead_evolves learned.inv notInit raised)

/-- A datagram of a peer that cannot be set up leaves the machine as it was. -/
theorem datagramOfNewPeer_failed (failed : learn.initialised = false)
    (raised : List (Raised × ChannelOutcomes)) :
    Kept fsm ((fsm.dispatchLearn .shared learn).dispatchRead fsm.binding.numberOfChannels raised) ∧
      ((fsm.dispatchLearn .shared learn).dispatchRead fsm.binding.numberOfChannels
          raised).dispatched =
        fsm.dispatched ++ [(.init, .learn), (.init, .read)] := by
  have fresh : fsm.stateOf fsm.binding.numberOfChannels = .init := inv.fresh _ (Nat.le_refl _)
  have called := learnEvent_evolves inv
  have logged : (fsm.lookUp fsm.binding.numberOfChannels .learn).dispatched =
      fsm.dispatched ++ [(.init, .learn)] := by
    simp only [lookUp, fresh]
  rw [dispatchLearn_eq inv]
  obtain ⟨kept, dispatched, unlearned⟩ :=
    fsmXprtProtoChannelLearn_failed called.inv .shared failed
  generalize (fsm.lookUp fsm.binding.numberOfChannels .learn).fsmXprtProtoChannelLearn
    .shared learn = learned at kept dispatched unlearned ⊢
  have unlearned : learned.stateOf fsm.binding.numberOfChannels = .init := unlearned
  have readCell : learned.handlerOf fsm.binding.numberOfChannels .read = none := by
    unfold handlerOf
    rw [unlearned]
    rfl
  unfold dispatchRead
  simp only [readCell]
  constructor
  · exact (called.kept.trans kept).trans (lookUp_kept kept.inv .read)
  · have readLogged : (learned.lookUp fsm.binding.numberOfChannels .read).dispatched =
        learned.dispatched ++ [(.init, .read)] := by
      simp only [lookUp, unlearned]
    rw [readLogged, dispatched, logged, append_assoc, singleton_append]

end

end ChannelFsm

/-! ## Runs -/

/-- The first datagram of a peer finds room for the channel that is made for it. -/
def FsmEvent.NewPeerInitialised : FsmEvent → Prop
  | .datagramOfNewPeer learn _ => learn.initialised = true
  | _ => True

instance : DecidablePred FsmEvent.NewPeerInitialised := fun event =>
  match event with
  | .datagramOfNewPeer learn _ => inferInstanceAs (Decidable (learn.initialised = true))
  | .registerDatapath | .accept .. | .datagram .. | .handshakeReadable .. | .dpReadable ..
  | .dpHangup .. | .dpNotWritten .. | .ctrlThreadMsgNotSent .. | .keepAliveNotSent ..
  | .keepAliveNotAnswered .. | .unregisterDatapath .. | .closeTransport .. => isTrue trivial

open ChannelFsm

variable {fsm : ChannelFsm}

/-- Every event takes steps of the machine. -/
theorem fsmStep_evolves (inv : FsmInv fsm) (event : FsmEvent)
    (initialised : event.NewPeerInitialised) : Evolves fsm (fsmStep fsm event) := by
  cases event with
  | registerDatapath =>
    exact ⟨Kept.of_views inv (fun _ => rfl) rfl rfl, Logged.of_eq rfl⟩
  | accept fdType learn =>
    have called := learnEvent_evolves inv
    simp only [fsmStep, dispatchLearn_eq inv]
    cases outcome : learn.initialised with
    | true => exact called.trans (fsmXprtProtoChannelLearn_evolves called.inv fdType outcome).1
    | false =>
    obtain ⟨kept, dispatched, _⟩ :=
      fsmXprtProtoChannelLearn_failed called.inv fdType outcome
    exact called.trans ⟨kept, Logged.of_eq dispatched⟩
  | datagram channel raised =>
    simp only [fsmStep]
    split
    case isTrue inTable =>
      exact dispatchRead_evolves inv (inv.learned_of_table inTable) raised
    case isFalse => exact Evolves.refl inv
  | datagramOfNewPeer learn raised => exact datagramOfNewPeer_evolves inv initialised raised
  | handshakeReadable channel raised =>
    simp only [fsmStep]
    split
    case isTrue polled =>
      exact dispatchRead_evolves inv (inv.learned_of_handshake polled) raised
    case isFalse => exact Evolves.refl inv
  | dpReadable channel raised =>
    simp only [fsmStep]
    split
    case isTrue found =>
      exact dispatchRead_evolves inv (inv.learned_of_table found.1) raised
    case isFalse => exact Evolves.refl inv
  | dpHangup channel outcomes =>
    simp only [fsmStep]
    split
    case isTrue inTable =>
      exact dispatchClose_evolves inv (inv.learned_of_table inTable) outcomes
    case isFalse => exact Evolves.refl inv
  | dpNotWritten channel peerClosed outcomes =>
    exact sendFailed_evolves inv channel peerClosed outcomes
  | ctrlThreadMsgNotSent channel peerClosed outcomes =>
    simp only [fsmStep]
    split
    case isTrue polled =>
      exact writeFailed_evolves inv (inv.learned_of_ctrlThreadMsgs polled) peerClosed outcomes
    case isFalse => exact Evolves.refl inv
  | keepAliveNotSent channel other peerClosed outcomes =>
    simp only [fsmStep]
    split
    case isTrue => exact sendFailed_evolves inv other peerClosed outcomes
    case isFalse => exact Evolves.refl inv
  | keepAliveNotAnswered channel outcomes =>
    simp only [fsmStep]
    split
    case isTrue started =>
      exact dispatchClose_evolves inv (inv.learned_of_keepAlive started) outcomes
    case isFalse => exact Evolves.refl inv
  | unregisterDatapath datapath removable outcomes =>
    exact dprmUnregisterDatapath_evolves inv datapath removable outcomes
  | closeTransport channels outcomes =>
  exact Evolves.foldl (fun _ => True)
    (fun _ channel inv _ => closeOfTransport_evolves inv channel outcomes)
    (fun _ _ _ _ => trivial) channels inv trivial

theorem fsmStep_kept (inv : FsmInv fsm) (event : FsmEvent) : Kept fsm (fsmStep fsm event) := by
  by_cases initialised : event.NewPeerInitialised
  · exact (fsmStep_evolves inv event initialised).kept
  cases event with
  | datagramOfNewPeer learn raised =>
    have failed : learn.initialised = false := by
      simpa [FsmEvent.NewPeerInitialised] using initialised
    exact (datagramOfNewPeer_failed inv failed raised).1
  | _ => exact absurd trivial initialised

theorem fsmStep_dispatched (inv : FsmInv fsm) (event : FsmEvent) :
    ∃ cells, (fsmStep fsm event).dispatched = fsm.dispatched ++ cells := by
  by_cases initialised : event.NewPeerInitialised
  · obtain ⟨cells, grown, _⟩ := (fsmStep_evolves inv event initialised).logged
    exact ⟨cells, grown⟩
  cases event with
  | datagramOfNewPeer learn raised =>
    have failed : learn.initialised = false := by
      simpa [FsmEvent.NewPeerInitialised] using initialised
    exact ⟨_, (datagramOfNewPeer_failed inv failed raised).2⟩
  | _ => exact absurd trivial initialised

theorem create_inv : FsmInv ChannelFsm.create := by
  constructor
  · intro channel
    constructor <;> simp [ChannelFsm.create, Binding.create]
  · intro channel _
    rfl

/-- The controller after a run. -/
def fsmRun (events : List FsmEvent) : ChannelFsm :=
  events.foldl fsmStep ChannelFsm.create

theorem foldl_kept (inv : FsmInv fsm) (events : List FsmEvent) :
    Kept fsm (events.foldl fsmStep fsm) := by
  induction events generalizing fsm with
  | nil => exact Kept.refl inv
  | cons event rest ih =>
    have step := fsmStep_kept inv event
    exact step.trans (ih step.inv)

theorem foldl_dispatched (inv : FsmInv fsm) (events : List FsmEvent) :
    ∃ cells, (events.foldl fsmStep fsm).dispatched = fsm.dispatched ++ cells := by
  induction events generalizing fsm with
  | nil => exact ⟨[], (append_nil _).symm⟩
  | cons event rest ih =>
  obtain ⟨cells, grown⟩ := fsmStep_dispatched inv event
  obtain ⟨cells', grown'⟩ := ih (fsmStep_kept inv event).inv
  exact ⟨cells ++ cells', by rw [foldl_cons, grown', grown, append_assoc]⟩

theorem foldl_evolves (inv : FsmInv fsm) (events : List FsmEvent)
    (initialised : ∀ event ∈ events, event.NewPeerInitialised) :
    Evolves fsm (events.foldl fsmStep fsm) := by
  induction events generalizing fsm with
  | nil => exact Evolves.refl inv
  | cons event rest ih =>
  have step := fsmStep_evolves inv event (initialised event mem_cons_self)
  exact step.trans
    (ih step.inv fun event member =>
      initialised event (mem_cons_of_mem _ member))

/-- Every cell that a run looks up holds a handler, and a channel that was closed at
some point of it is neither bound nor waiting for a handshake at its end. -/
structure FsmTotal (events : List FsmEvent) : Prop where
  handled : ∀ cell ∈ (fsmRun events).dispatched, CellHandled cell
  closedForGood : ∀ before after channel, events = before ++ after →
    (fsmRun before).stateOf channel = .closeConn →
      (fsmRun events).stateOf channel ≠ .boundToDp ∧
        (fsmRun events).stateOf channel ≠ .waitForHandshake

theorem closed_for_good (before after : List FsmEvent) (channel : Nat)
    (closed : (fsmRun before).stateOf channel = .closeConn) :
    (fsmRun (before ++ after)).stateOf channel = .closeConn := by
  unfold fsmRun
  rw [foldl_append]
  exact (foldl_kept (foldl_kept create_inv before).inv after).closed channel closed

/-- The channel state machine is total in exactly the runs in which no channel of a
new peer fails to be initialised. -/
theorem channel_fsm_total_iff (events : List FsmEvent) :
    FsmTotal events ↔ ∀ event ∈ events, event.NewPeerInitialised := by
  constructor
  · intro total event member
    by_contra notInitialised
    obtain ⟨before, after, rfl⟩ := append_of_mem member
    have inv := (foldl_kept create_inv before).inv
    have unhandled : ((.init, .read) : ChannelFsmState × ChannelEvent) ∈
        (fsmRun (before ++ event :: after)).dispatched := by
      obtain ⟨cells, grown⟩ := foldl_dispatched (fsmStep_kept inv event).inv after
      unfold fsmRun
      rw [foldl_append, foldl_cons, grown]
      refine mem_append_left _ ?_
      cases event with
      | datagramOfNewPeer learn raised =>
        have failed : learn.initialised = false := by
          simpa [FsmEvent.NewPeerInitialised] using notInitialised
        simp only [fsmStep]
        rw [(datagramOfNewPeer_failed inv failed raised).2]
        simp
      | _ => exact absurd trivial notInitialised
    exact total.handled _ unhandled rfl
  · intro initialised
    constructor
    case handled =>
      obtain ⟨cells, grown, handled⟩ := (foldl_evolves create_inv events initialised).logged
      intro cell member
      unfold fsmRun at member
      rw [grown] at member
      exact handled cell (by simpa [ChannelFsm.create] using member)
    case closedForGood =>
      rintro before after channel rfl closed
      rw [closed_for_good before after channel closed]
      exact ⟨ChannelFsmState.noConfusion, ChannelFsmState.noConfusion⟩

/-- A datagram of a new peer when the connection table has no room. -/
theorem read_event_before_learning :
    ¬ FsmTotal
        [.datagramOfNewPeer
          { initialised := false
            epollAdded := true
            helloNotSent := none
            closing := { epollReAdded := fun _ => true, transportClosed := fun _ => true } }
          []] := by
  intro total
  exact total.handled (.init, .read) (by decide) rfl

end OpenFlowController.Transport
