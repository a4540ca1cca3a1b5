/-
Module: Transport.KeepAliveInvariant
Purpose: The running timers of the channels, and what detaching a channel, writing to
  it and starting a timer for it do to them.
Trusted boundary: none
-/
import OpenFlowController.Transport.KeepAlive

namespace OpenFlowController.Transport

open Utils Function

/-- The references to timers that a channel has. -/
def KeepAliveChannel.refs (info : KeepAliveChannel) : List TmrSaferef :=
  [info.keepaliveTimer, info.keepaliveResptimer]

namespace KeepAlive

/-! ## Running timers of a channel -/

/-- A timer of the channel is running. -/
def TimerRuns (system : KeepAlive) (ref : TmrSaferef) (channel : Nat) : Prop :=
  ∃ routine, system.timers.running ref = some { routine := routine, channel := channel }

/-- No timer runs for a channel without a datapath or one whose memory was released,
and no callback was given a released channel. -/
structure Quiet (system : KeepAlive) : Prop where
  unbound : ∀ channel, (system.channels channel).info.isChnAddedToDp = false →
    ∀ ref, ¬ system.TimerRuns ref channel
  released : ∀ channel, system.released channel = true →
    ∀ ref, ¬ system.TimerRuns ref channel
  delivered : ∀ delivery ∈ system.deliveries, delivery.released = false

/-- The detach event reaches the timers of the channel. -/
def Detaches (system : KeepAlive) (channel : Nat) : Prop :=
  let info := (system.channels channel).info
  cntlrXprtProtoChannelFsmHandler info.fsmState .dpDetach = some .detachDp ∧
    info.isChnAddedToDp = true

/-- The detach event takes the channel's datapath away. -/
def Unbinds (system : KeepAlive) (channel : Nat) (outcomes : DetachOutcomes) : Prop :=
  system.Detaches channel ∧ outcomes.epollReAdded = true

/-- A detach on the thread stops the timer at once: the channel has it in the
reference that its auxiliary id and its keep-alive state let it stop, and the thread
is the timer's own. -/
def StopsOnDetach (system : KeepAlive) (channel thread : Nat) (ref : TmrSaferef) : Prop :=
  let info := system.channels channel
  info.info.auxiliaryId = 0 ∧ ref.magic ≠ 0 ∧ ref.threadId = thread ∧
    (info.keepAliveState = keepAliveMsgSent ∧ ref = info.keepaliveResptimer ∨
      keepAliveMsgReadToSend ≤ info.keepAliveState ∧ ref = info.keepaliveTimer)

/-- A detach that takes the channel's datapath away stops all its running timers. -/
def LetsGo (system : KeepAlive) (channel thread : Nat) (outcomes : DetachOutcomes) : Prop :=
  system.Unbinds channel outcomes →
    ∀ ref, system.TimerRuns ref channel → system.StopsOnDetach channel thread ref

/-! ## What detaching does -/

/-- From `system` to `system'` the channel was detached on the thread, and nothing else
happened to channels and timers. -/
structure Detached (system system' : KeepAlive) (channel thread : Nat)
    (outcomes : DetachOutcomes) : Prop where
  others : ∀ other, other ≠ channel → system'.channels other = system.channels other
  number : system'.numberOfChannels = system.numberOfChannels
  released : system'.released = system.released
  deliveries : system'.deliveries = system.deliveries
  added : (system'.channels channel).info.isChnAddedToDp = true ↔
    (system.channels channel).info.isChnAddedToDp = true ∧ ¬ system.Unbinds channel outcomes
  datapath : (system'.channels channel).info.isChnAddedToDp = true →
    (system'.channels channel).info.datapath = (system.channels channel).info.datapath
  refs : (system'.channels channel).refs = (system.channels channel).refs
  running : ∀ ref callback, system'.timers.running ref = some callback ↔
    system.timers.running ref = some callback ∧
      ¬ (system.Detaches channel ∧ system.StopsOnDetach channel thread ref)
  nodes : Timers.NodesFrom system.timers system'.timers

variable {system system' : KeepAlive} {channel thread : Nat} {outcomes : DetachOutcomes}

theorem running_stopTmr (ref stopped : TmrSaferef) (allocated : Bool)
    (callback : KeepAliveCallback) :
    (system.stopTmr thread stopped allocated).timers.running ref = some callback ↔
      system.timers.running ref = some callback ∧
        ¬ (ref.magic ≠ 0 ∧ ref.threadId = thread ∧ ref = stopped) := by
  simp only [stopTmr, setTimers, Timers.running_timerStopTmr]
  by_cases own : stopped.magic ≠ 0 ∧ stopped.threadId = thread
  · rw [if_pos own, Timers.withoutTimer_eq_some]
    refine and_congr_right fun _ => ?_
    constructor
    case mp =>
      rintro different ⟨_, _, same⟩
      exact different same
    case mpr =>
      rintro unstopped rfl
      exact unstopped ⟨own.1, own.2, rfl⟩
  · rw [if_neg own]
    refine ⟨fun runs => ⟨runs, ?_⟩, And.left⟩
    rintro ⟨magic, onThread, rfl⟩
    exact own ⟨magic, onThread⟩

theorem running_stopTmr_ite (stops : Prop) [Decidable stops] (ref stopped : TmrSaferef)
    (allocated : Bool) (callback : KeepAliveCallback) :
    (if stops then system.stopTmr thread stopped allocated else system).timers.running ref =
        some callback ↔
      system.timers.running ref = some callback ∧
        ¬ (stops ∧ ref.magic ≠ 0 ∧ ref.threadId = thread ∧ ref = stopped) := by
  by_cases stopping : stops
  · rw [if_pos stopping, running_stopTmr]
    simp only [stopping, true_and]
  · rw [if_neg stopping]
    simp only [stopping, false_and, not_false_eq_true, and_true]

theorem running_stopKeepAliveTimers (main : (system.channels channel).info.auxiliaryId = 0)
    (ref : TmrSaferef) (callback : KeepAliveCallback) :
    (system.stopKeepAliveTimers channel thread outcomes).timers.running ref = some callback ↔
      system.timers.running ref = some callback ∧ ¬ system.StopsOnDetach channel thread ref := by
  unfold stopKeepAliveTimers StopsOnDetach
  rw [running_stopTmr_ite, running_stopTmr_ite]
  constructor
  case mp =>
    rintro ⟨⟨runs, responding⟩, keeping⟩
    refine ⟨runs, ?_⟩
    rintro ⟨_, magic, own, ⟨sent, same⟩ | ⟨ready, same⟩⟩
    · exact responding ⟨sent, magic, own, same⟩
    · exact keeping ⟨ready, magic, own, same⟩
  case mpr =>
    rintro ⟨runs, unstopped⟩
    refine ⟨⟨runs, ?_⟩, ?_⟩
    · rintro ⟨sent, magic, own, same⟩
      exact unstopped ⟨main, magic, own, .inl ⟨sent, same⟩⟩
    · rintro ⟨ready, magic, own, same⟩
      exact unstopped ⟨main, magic, own, .inr ⟨ready, same⟩⟩

theorem stopKeepAliveTimers_eq :
    system.stopKeepAliveTimers channel thread outcomes =
      system.setTimers (system.stopKeepAliveTimers channel thread outcomes).timers := by
  unfold stopKeepAliveTimers
  dsimp only
  split <;> split <;> rfl

theorem nodesFrom_stopKeepAliveTimers :
    Timers.NodesFrom system.timers (system.stopKeepAliveTimers channel thread outcomes).timers := by
  unfold stopKeepAliveTimers
  dsimp only
  split
  · split
    · exact (Timers.NodesFrom.timerStopTmr _ _).trans (Timers.NodesFrom.timerStopTmr _ _)
    · exact Timers.NodesFrom.timerStopTmr _ _
  · split
    · exact Timers.NodesFrom.timerStopTmr _ _
    · exact Timers.NodesFrom.refl

namespace Detached

theorem refl (unreached : ¬ system.Detaches channel) :
    Detached system system channel thread outcomes where
  others := fun _ _ => rfl
  number := rfl
  released := rfl
  deliveries := rfl
  added := ⟨fun bound => ⟨bound, fun unbinds => unreached unbinds.1⟩, And.left⟩
  datapath := fun _ => rfl
  refs := rfl
  running := fun _ _ => ⟨fun runs => ⟨runs, fun stops => unreached stops.1⟩, And.left⟩
  nodes := Timers.NodesFrom.refl

theorem stopped (reached : system.Detaches channel) {info : KeepAliveChannel}
    (bound : info.info.isChnAddedToDp = true ↔ outcomes.epollReAdded = false)
    (datapath : info.info.isChnAddedToDp = true →
      info.info.datapath = (system.channels channel).info.datapath)
    (refs : info.refs = (system.channels channel).refs)
    {timers : Timers KeepAliveCallback}
    (running : ∀ ref callback, timers.running ref = some callback ↔
      system.timers.running ref = some callback ∧ ¬ system.StopsOnDetach channel thread ref)
    (nodes : Timers.NodesFrom system.timers timers) :
    Detached system ((system.setTimers timers).setChannel channel info) channel thread
      outcomes where
  others := fun other different => update_of_ne different _ _
  number := rfl
  released := rfl
  deliveries := rfl
  added := by
    simp only [setChannel, update_self, bound, Unbinds, reached, reached.2, true_and,
      Bool.not_eq_true]
  datapath := by
    simpa only [setChannel, update_self] using datapath
  refs := by
    simpa only [setChannel, update_self] using refs
  running := by
    intro ref callback
    have timersOnly : ((system.setTimers timers).setChannel channel info).timers = timers := rfl
    rw [timersOnly, running ref callback]
    simp only [reached, true_and]
  nodes := nodes

end Detached

/-- The timers after `fsm_xprt_proto_channel_detach_dp`. -/
def timersDetached (system : KeepAlive) (channel thread : Nat) (outcomes : DetachOutcomes) :
    Timers KeepAliveCallback :=
  if (system.channels channel).info.auxiliaryId = 0 then
    (system.stopKeepAliveTimers channel thread outcomes).timers
  else
    system.timers

theorem running_timersDetached (ref : TmrSaferef) (callback : KeepAliveCallback) :
    (system.timersDetached channel thread outcomes).running ref = some callback ↔
      system.timers.running ref = some callback ∧ ¬ system.StopsOnDetach channel thread ref := by
  unfold timersDetached
  by_cases main : (system.channels channel).info.auxiliaryId = 0
  · rw [if_pos main]
    exact running_stopKeepAliveTimers main ref callback
  · rw [if_neg main]
    exact ⟨fun runs => ⟨runs, fun stops => main stops.1⟩, And.left⟩

theorem nodesFrom_timersDetached :
    Timers.NodesFrom system.timers (system.timersDetached channel thread outcomes) := by
  unfold timersDetached
  split
  · exact nodesFrom_stopKeepAliveTimers
  · exact Timers.NodesFrom.refl

attribute [local simp] setChannel

theorem setChannel_self : system.setChannel channel (system.channels channel) = system := by
  simp

theorem dispatchDetach_eq (reached : system.Detaches channel) :
    system.dispatchDetach channel thread outcomes =
      (system.setTimers (system.timersDetached channel thread outcomes)).setChannel channel
        (if outcomes.epollReAdded then
          { system.channels channel with info := (system.channels channel).info.unbound }
        else
          system.channels channel) := by
  have stopped :
      (if (system.channels channel).info.auxiliaryId = 0 then
        system.stopKeepAliveTimers channel thread outcomes
      else
        system) = system.setTimers (system.timersDetached channel thread outcomes) := by
    unfold timersDetached
    split
    · exact stopKeepAliveTimers_eq
    · rfl
  simp only [dispatchDetach, reached.1, fsmXprtProtoChannelDetachDp, reached.2, if_true, stopped]
  cases outcomes.epollReAdded with
  | true => rfl
  | false => exact (@setChannel_self (system.setTimers _) channel).symm

theorem dispatchDetach_unreached (unreached : ¬ system.Detaches channel) :
    system.dispatchDetach channel thread outcomes = system := by
  unfold dispatchDetach
  split
  case h_1 handler =>
    have notAdded : (system.channels channel).info.isChnAddedToDp ≠ true :=
      fun added => unreached ⟨handler, added⟩
    simp only [fsmXprtProtoChannelDetachDp, notAdded]
    rfl
  case h_2 => rfl

theorem detached_dispatchDetach :
    Detached system (system.dispatchDetach channel thread outcomes) channel thread outcomes := by
  by_cases reached : system.Detaches channel
  · rw [dispatchDetach_eq reached]
    refine Detached.stopped reached ?_ ?_ ?_ running_timersDetached nodesFrom_timersDetached
    · cases outcomes.epollReAdded with
      | true => simp [ChannelInfo.unbound]
      | false => simp [reached.2]
    · cases outcomes.epollReAdded with
      | true => simp [ChannelInfo.unbound]
      | false => exact fun _ => rfl
    · cases outcomes.epollReAdded <;> rfl
  · rw [dispatchDetach_unreached reached]
    exact Detached.refl reached

theorem dispatchDetach_kept (kept : ¬ system.Unbinds channel outcomes) :
    (system.dispatchDetach channel thread outcomes).channels channel =
      system.channels channel := by
  by_cases reached : system.Detaches channel
  · have notReAdded : outcomes.epollReAdded ≠ true := fun added => kept ⟨reached, added⟩
    rw [dispatchDetach_eq reached, if_neg notReAdded]
    simp
  · rw [dispatchDetach_unreached reached]

namespace Detached

/-- A second detach of the same channel adds nothing. -/
theorem again {system'' : KeepAlive} (first : Detached system system' channel thread outcomes)
    (kept : ¬ system.Unbinds channel outcomes → system'.channels channel = system.channels channel)
    (second : Detached system' system'' channel thread outcomes) :
    Detached system system'' channel thread outcomes := by
  have others : ∀ other, other ≠ channel → system''.channels other = system.channels other :=
    fun other different => (second.others other different).trans (first.others other different)
  by_cases unbinds : system.Unbinds channel outcomes
  · have unbound : (system'.channels channel).info.isChnAddedToDp ≠ true :=
      fun bound => (first.added.mp bound).2 unbinds
    have unreached : ¬ system'.Detaches channel := fun reached => unbound reached.2
    have unbound' : (system''.channels channel).info.isChnAddedToDp ≠ true :=
      fun bound => unbound (second.added.mp bound).1
    exact
      { others := others
        number := second.number.trans first.number
        released := second.released.trans first.released
        deliveries := second.deliveries.trans first.deliveries
        added := ⟨fun bound => absurd bound unbound', fun bound => absurd unbinds bound.2⟩
        datapath := fun bound => absurd bound unbound'
        refs := second.refs.trans first.refs
        running := by
          intro ref callback
          rw [second.running ref callback, first.running ref callback]
          exact ⟨And.left, fun runs => ⟨runs, fun stops => unreached stops.1⟩⟩
        nodes := first.nodes.trans second.nodes }
  · have same := kept unbinds
    have reaches : system'.Detaches channel ↔ system.Detaches channel := by
      unfold Detaches
      rw [same]
    have stops : ∀ ref, system'.StopsOnDetach channel thread ref ↔
        system.StopsOnDetach channel thread ref := by
      intro ref
      unfold StopsOnDetach
      rw [same]
    have unbinds' : ¬ system'.Unbinds channel outcomes := fun later =>
      unbinds ⟨reaches.mp later.1, later.2⟩
    exact
      { others := others
        number := second.number.trans first.number
        released := second.released.trans first.released
        deliveries := second.deliveries.trans first.deliveries
        added := by
          rw [second.added, same]
          simp only [unbinds, unbinds']
        datapath := by
          intro bound
          rw [second.datapath bound, same]
        refs := second.refs.trans first.refs
        running := by
          intro ref callback
          rw [second.running ref callback, first.running ref callback, reaches, stops]
          exact ⟨And.left, fun runs => ⟨runs, runs.2⟩⟩
        nodes := first.nodes.trans second.nodes }

theorem closed (detached : Detached system system' channel thread outcomes) :
    Detached system
      (system'.setChannel channel
        { system'.channels channel with info := (system'.channels channel).info.closed })
      channel thread outcomes where
  others := by
    intro other different
    rw [← detached.others other different]
    exact update_of_ne different _ _
  number := detached.number
  released := detached.released
  deliveries := detached.deliveries
  added := by
    simpa [ChannelInfo.closed] using detached.added
  datapath := by
    simpa [ChannelInfo.closed] using detached.datapath
  refs := by
    simpa [KeepAliveChannel.refs] using detached.refs
  running := detached.running
  nodes := detached.nodes

end Detached

theorem detached_dispatchClose :
    Detached system (system.dispatchClose channel thread outcomes) channel thread outcomes := by
  unfold dispatchClose
  split
  case h_1 handler =>
    unfold xprtProtoChannelClose
    split
    · exact detached_dispatchDetach.closed
    · exact detached_dispatchDetach
  case h_2 noHandler =>
    refine Detached.refl ?_
    rintro ⟨handler, _⟩
    cases state : (system.channels channel).info.fsmState with
    | init => simp [state, cntlrXprtProtoChannelFsmHandler] at handler
    | waitForHandshake => exact noHandler (by rw [state]; rfl)
    | boundToDp => exact noHandler (by rw [state]; rfl)
    | closeConn => simp [state, cntlrXprtProtoChannelFsmHandler] at handler

theorem detached_writeFailed (found : (system.channels channel).info.isChnAdded2HashTbl = true) :
    Detached system (system.writeFailed thread (some (channel, outcomes))) channel thread
      outcomes := by
  simp only [writeFailed, found, if_true]
  exact detached_dispatchDetach.again dispatchDetach_kept detached_dispatchClose

/-! ## Quiet systems -/

theorem Quiet.bound {ref : TmrSaferef} {callback : KeepAliveCallback} (quiet : system.Quiet)
    (runs : system.timers.running ref = some callback) :
    (system.channels callback.channel).info.isChnAddedToDp = true ∧
      system.released callback.channel = false := by
  constructor
  · by_contra unbound
    exact quiet.unbound callback.channel (by simpa using unbound) ref ⟨callback.routine, runs⟩
  · by_contra gone
    exact quiet.released callback.channel (by simpa using gone) ref ⟨callback.routine, runs⟩

/-- A detach is quiet exactly when it lets go of every timer. -/
theorem Detached.quiet_iff (detached : Detached system system' channel thread outcomes)
    (quiet : system.Quiet) : system'.Quiet ↔ system.LetsGo channel thread outcomes := by
  constructor
  case mp =>
    rintro quiet' unbinds ref ⟨routine, runs⟩
    by_contra unstopped
    have unbound : (system'.channels channel).info.isChnAddedToDp = false := by
      by_contra bound
      exact (detached.added.mp (by simpa using bound)).2 unbinds
    refine quiet'.unbound channel unbound ref ⟨routine, ?_⟩
    exact (detached.running _ _).mpr ⟨runs, fun stops => unstopped stops.2⟩
  case mpr =>
    intro letsGo
    exact
      { unbound := by
          rintro other unbound ref ⟨routine, runs⟩
          rcases (detached.running _ _).mp runs with ⟨ran, unstopped⟩
          by_cases same : other = channel
          · subst same
            have bound := (quiet.bound ran).1
            have unbinds : system.Unbinds other outcomes := by
              by_contra kept
              rw [detached.added.mpr ⟨bound, kept⟩] at unbound
              cases unbound
            exact unstopped ⟨unbinds.1, letsGo unbinds ref ⟨routine, ran⟩⟩
          · rw [detached.others other same] at unbound
            exact quiet.unbound other unbound ref ⟨routine, ran⟩
        released := by
          rintro other gone ref ⟨routine, runs⟩
          rw [detached.released] at gone
          exact quiet.released other gone ref ⟨routine, ((detached.running _ _).mp runs).1⟩
        delivered := by
          rw [detached.deliveries]
          exact quiet.delivered }

/-! ## Well-formed systems -/

/-- What holds of every system: only channels that were created are bound, a bound
channel has a datapath, and the running timers that a channel refers to are its
own. -/
structure Formed (system : KeepAlive) : Prop where
  fresh : ∀ channel, system.numberOfChannels ≤ channel →
    (system.channels channel).info.isChnAddedToDp = false
  datapath : ∀ channel, (system.channels channel).info.isChnAddedToDp = true →
    (system.channels channel).info.datapath ≠ none
  zeroed : system.timers.running TmrSaferef.zeroed = none
  handed : ∀ channel, ∀ ref ∈ (system.channels channel).refs, ref.magic < system.timers.nextMagic
  own : ∀ channel, ∀ ref ∈ (system.channels channel).refs, ∀ callback,
    system.timers.running ref = some callback → callback.channel = channel

/-- From `system` to `system'` no timer was started, no channel bound, unbound or
released, and no released channel given to a callback. -/
structure Calm (system system' : KeepAlive) : Prop where
  number : system'.numberOfChannels = system.numberOfChannels
  added : ∀ channel, (system'.channels channel).info.isChnAddedToDp =
    (system.channels channel).info.isChnAddedToDp
  datapath : ∀ channel, (system.channels channel).info.isChnAddedToDp = true →
    (system'.channels channel).info.datapath = (system.channels channel).info.datapath
  refs : ∀ channel, (system'.channels channel).refs = (system.channels channel).refs
  released : system'.released = system.released
  deliveries : ∀ delivery ∈ system'.deliveries,
    delivery ∈ system.deliveries ∨ delivery.released = false
  running : ∀ ref callback, system'.timers.running ref = some callback →
    system.timers.running ref = some callback
  handed : system.timers.nextMagic ≤ system'.timers.nextMagic

namespace Calm

theorem refl : Calm system system where
  number := rfl
  added := fun _ => rfl
  datapath := fun _ _ => rfl
  refs := fun _ => rfl
  released := rfl
  deliveries := fun _ => .inl
  running := fun _ _ => id
  handed := Nat.le_refl _

attribute [local simp] KeepAlive.setChannel

/-- A change of the channel's other fields changes no timer. -/
theorem setChannel {info : KeepAliveChannel}
    (added : info.info.isChnAddedToDp = (system.channels channel).info.isChnAddedToDp)
    (datapath : info.info.isChnAddedToDp = true →
      info.info.datapath = (system.channels channel).info.datapath)
    (refs : info.refs = (system.channels channel).refs) :
    Calm system (system.setChannel channel info) where
  number := rfl
  added := by
    intro other
    by_cases same : other = channel
    · subst same
      simpa using added
    · simp [same]
  datapath := by
    intro other bound
    by_cases same : other = channel
    · subst same
      simpa using datapath (added.trans bound)
    · simp [same]
  refs := by
    intro other
    by_cases same : other = channel
    · subst same
      simpa using refs
    · simp [same]
  released := rfl
  deliveries := fun _ => .inl
  running := fun _ _ => id
  handed := Nat.le_refl _

theorem setKeepAliveState (state : UInt8) : Calm system (system.setKeepAliveState channel state) :=
  setChannel rfl (fun _ => rfl) rfl

theorem trans {system'' : KeepAlive} (first : Calm system system')
    (second : Calm system' system'') : Calm system system'' where
  number := second.number.trans first.number
  added := fun other => (second.added other).trans (first.added other)
  datapath := by
    intro other bound
    rw [second.datapath other ((first.added other).trans bound), first.datapath other bound]
  refs := fun other => (second.refs other).trans (first.refs other)
  released := second.released.trans first.released
  deliveries := by
    intro delivery member
    rcases second.deliveries delivery member with before | present
    · exact first.deliveries delivery before
    · exact .inr present
  running := fun ref callback runs =>
    first.running ref callback (second.running ref callback runs)
  handed := Nat.le_trans first.handed second.handed

theorem setTimers {timers : Timers KeepAliveCallback}
    (running : ∀ ref callback, timers.running ref = some callback →
      system.timers.running ref = some callback)
    (handed : system.timers.nextMagic ≤ timers.nextMagic) :
    Calm system (system.setTimers timers) where
  number := rfl
  added := fun _ => rfl
  datapath := fun _ _ => rfl
  refs := fun _ => rfl
  released := rfl
  deliveries := fun _ => .inl
  running := running
  handed := handed

theorem quiet (calm : Calm system system') (quiet : system.Quiet) : system'.Quiet where
  unbound := by
    rintro other unbound ref ⟨routine, runs⟩
    rw [calm.added other] at unbound
    exact quiet.unbound other unbound ref ⟨routine, calm.running _ _ runs⟩
  released := by
    rintro other gone ref ⟨routine, runs⟩
    rw [calm.released] at gone
    exact quiet.released other gone ref ⟨routine, calm.running _ _ runs⟩
  delivered := by
    intro delivery member
    rcases calm.deliveries delivery member with old | present
    · exact quiet.delivered delivery old
    · exact present

/-- The system stays formed. -/
theorem formed (calm : Calm system system') (formed : system.Formed) : system'.Formed where
  fresh := by
    intro other beyond
    rw [calm.number] at beyond
    rw [calm.added]
    exact formed.fresh other beyond
  datapath := by
    intro other bound
    rw [calm.added] at bound
    rw [calm.datapath other bound]
    exact formed.datapath other bound
  zeroed := by
    by_contra runs
    rcases Option.ne_none_iff_exists'.mp runs with ⟨callback, found⟩
    have ran := calm.running _ _ found
    rw [formed.zeroed] at ran
    cases ran
  handed := by
    intro other ref member
    rw [calm.refs] at member
    exact Nat.lt_of_lt_of_le (formed.handed other ref member) calm.handed
  own := by
    intro other ref member callback runs
    rw [calm.refs] at member
    exact formed.own other ref member callback (calm.running _ _ runs)

end Calm

/-- A detach leaves the system formed. -/
theorem Detached.formed (detached : Detached system system' channel thread outcomes)
    (formed : system.Formed) : system'.Formed := by
  have bound : ∀ other, (system'.channels other).info.isChnAddedToDp = true →
      (system.channels other).info.isChnAddedToDp = true ∧
        (system'.channels other).info.datapath = (system.channels other).info.datapath := by
    intro other bound
    by_cases same : other = channel
    · subst same
      exact ⟨(detached.added.mp bound).1, detached.datapath bound⟩
    · rw [detached.others other same] at bound ⊢
      exact ⟨bound, rfl⟩
  have refs : ∀ other, (system'.channels other).refs = (system.channels other).refs := by
    intro other
    by_cases same : other = channel
    · subst same
      exact detached.refs
    · rw [detached.others other same]
  exact
    { fresh := by
        intro other beyond
        rw [detached.number] at beyond
        by_contra added
        have before := (bound other (by simpa using added)).1
        rw [formed.fresh other beyond] at before
        cases before
      datapath := by
        intro other added
        rw [(bound other added).2]
        exact formed.datapath other (bound other added).1
      zeroed := by
        by_contra runs
        rcases Option.ne_none_iff_exists'.mp runs with ⟨callback, found⟩
        have ran := ((detached.running _ _).mp found).1
        rw [formed.zeroed] at ran
        cases ran
      handed := by
        intro other ref member
        rw [refs] at member
        exact Nat.lt_of_lt_of_le (formed.handed other ref member) detached.nodes.1
      own := by
        intro other ref member callback runs
        rw [refs] at member
        exact formed.own other ref member callback ((detached.running _ _).mp runs).1 }

/-! ## Starting a timer -/

/-- From `system` to `system'` a timer of the channel was started on the thread, and
its reference stored where the channel has one. -/
structure Started (system system' : KeepAlive) (channel : Nat) (ref : TmrSaferef)
    (routine : KeepAliveRoutine) : Prop where
  fresh : ref.magic = system.timers.nextMagic
  handed : system'.timers.nextMagic = system.timers.nextMagic + 1
  running : system'.timers.running = Function.update system.timers.running ref
    (some { routine := routine, channel := channel })
  number : system'.numberOfChannels = system.numberOfChannels
  info : ∀ other, (system'.channels other).info = (system.channels other).info
  refs : ∀ other, ∀ stored ∈ (system'.channels other).refs,
    stored ∈ (system.channels other).refs ∨ other = channel ∧ stored = ref
  released : system'.released = system.released
  deliveries : system'.deliveries = system.deliveries
  nodes : Timers.NodesFrom system.timers system'.timers

/-- A timer that is started runs for its channel alone. -/
theorem started_startTimer (periodic : Bool) (routine : KeepAliveRoutine)
    {store : TmrSaferef → KeepAliveChannel → KeepAliveChannel}
    (storesInfo : ∀ ref info, (store ref info).info = info.info)
    (storesRef : ∀ ref info, ∀ stored ∈ (store ref info).refs, stored ∈ info.refs ∨ stored = ref) :
    ∃ ref, Started system (system.startTimer channel thread periodic routine store) channel ref
      routine := by
  have others : ∀ other, other ≠ channel →
      (system.startTimer channel thread periodic routine store).channels other =
        system.channels other :=
    fun other different => update_of_ne different _ _
  have own : (system.startTimer channel thread periodic routine store).channels channel =
      store { magic := system.timers.nextMagic, threadId := thread } (system.channels channel) :=
    update_self _ _ _
  refine ⟨{ magic := system.timers.nextMagic, threadId := thread }, ?_⟩
  exact
    { fresh := rfl
      handed := rfl
      running := Timers.running_timerCreateAndStart thread periodic _
      number := rfl
      info := by
        intro other
        by_cases same : other = channel
        · subst same
          rw [own, storesInfo]
        · rw [others other same]
      refs := by
        intro other stored member
        by_cases same : other = channel
        · subst same
          rw [own] at member
          exact (storesRef _ _ stored member).imp_right fun started => ⟨rfl, started⟩
        · rw [others other same] at member
          exact .inl member
      released := rfl
      deliveries := rfl
      nodes := Timers.NodesFrom.timerCreateAndStart thread periodic _ }

theorem started_keepaliveTimer :
    ∃ ref, Started system (system.startKeepaliveTimer channel thread) channel ref
      .ofTransprtSendKeepAliveMsg :=
  started_startTimer true _ (fun _ _ => rfl) (by simp [KeepAliveChannel.refs])

theorem started_keepaliveResptimer :
    ∃ ref, Started system (system.startKeepaliveResptimer channel thread) channel ref
      .ofTransprtCheckKeepaliveResponseMsg :=
  started_startTimer false _ (fun _ _ => rfl) (by simp [KeepAliveChannel.refs])

namespace Started

variable {ref : TmrSaferef} {routine : KeepAliveRoutine}

section

variable (started : Started system system' channel ref routine)

include started

theorem runs : system'.timers.running ref = some { routine := routine, channel := channel } := by
  rw [started.running, update_self]

variable {other : TmrSaferef} {callback : KeepAliveCallback}

theorem ran (runs : system'.timers.running other = some callback) :
    callback.channel = channel ∨ system.timers.running other = some callback := by
  rw [started.running] at runs
  by_cases same : other = ref
  · subst same
    rw [update_self] at runs
    cases runs
    exact .inl rfl
  · rw [update_of_ne same] at runs
    exact .inr runs

theorem runs_of_ran (ran : system.timers.running other = some callback) :
    system'.timers.running other = some callback := by
  have different : other ≠ ref := by
    rintro rfl
    rw [Timers.running_unused (Nat.le_of_eq started.fresh.symm)] at ran
    cases ran
  rw [started.running, update_of_ne different]
  exact ran

/-- A start is quiet exactly when the channel is bound and not released. -/
theorem quiet_iff :
    system'.Quiet ↔
      system.Quiet ∧ (system.channels channel).info.isChnAddedToDp = true ∧
        system.released channel = false := by
  constructor
  case mp =>
    intro quiet'
    have bound := quiet'.bound started.runs
    rw [started.info, started.released] at bound
    refine ⟨?_, bound⟩
    exact
      { unbound := by
          rintro other unbound ref' ⟨routine', runs⟩
          rw [← started.info] at unbound
          exact quiet'.unbound other unbound ref' ⟨routine', started.runs_of_ran runs⟩
        released := by
          rintro other gone ref' ⟨routine', runs⟩
          rw [← started.released] at gone
          exact quiet'.released other gone ref' ⟨routine', started.runs_of_ran runs⟩
        delivered := by
          rw [← started.deliveries]
          exact quiet'.delivered }
  case mpr =>
    rintro ⟨quiet, bound, present⟩
    exact
      { unbound := by
          rintro other unbound ref' ⟨routine', runs⟩
          rw [started.info] at unbound
          rcases started.ran runs with rfl | ran
          · rw [bound] at unbound
            cases unbound
          · exact quiet.unbound other unbound ref' ⟨routine', ran⟩
        released := by
          rintro other gone ref' ⟨routine', runs⟩
          rw [started.released] at gone
          rcases started.ran runs with rfl | ran
          · rw [present] at gone
            cases gone
          · exact quiet.released other gone ref' ⟨routine', ran⟩
        delivered := by
          rw [started.deliveries]
          exact quiet.delivered }

theorem formed (formed : system.Formed) : system'.Formed where
  fresh := by
    intro other beyond
    rw [started.number] at beyond
    rw [started.info]
    exact formed.fresh other beyond
  datapath := by
    intro other bound
    rw [started.info] at bound ⊢
    exact formed.datapath other bound
  zeroed := by
    have handed := formed.handed 0 _ (List.mem_cons_self ..)
    have different : TmrSaferef.zeroed ≠ ref := by
      intro same
      rw [← started.fresh, ← same] at handed
      exact Nat.not_lt_zero _ handed
    rw [started.running, update_of_ne different]
    exact formed.zeroed
  handed := by
    intro other stored member
    rw [started.handed]
    rcases started.refs other stored member with kept | ⟨_, rfl⟩
    · exact Nat.lt_succ_of_lt (formed.handed other stored kept)
    · rw [started.fresh]
      exact Nat.lt_succ_self _
  own := by
    intro other stored member callback runs
    rcases started.refs other stored member with kept | ⟨rfl, rfl⟩
    · have different : stored ≠ ref := by
        rintro rfl
        have handed := formed.handed other stored kept
        rw [started.fresh] at handed
        exact Nat.lt_irrefl _ handed
      rw [started.running, update_of_ne different] at runs
      exact formed.own other stored kept callback runs
    · rw [started.runs] at runs
      cases runs
      rfl

end

end Started

end KeepAlive

end OpenFlowController.Transport
