/-
Module: Transport.KeepAliveTimers
Purpose: When the keep-alive timers of a channel stop with its binding: for each
  event the condition under which it leaves no timer running for a channel that is
  unbound or released, and the runs whose events meet it.
Trusted boundary: none
-/
import OpenFlowController.Transport.KeepAliveInvariant

namespace OpenFlowController.Transport

open Library Function Utils

namespace KeepAlive

variable {system system' : KeepAlive} {channel thread : Nat} {outcomes : DetachOutcomes}

/-! ## The callbacks -/

/-- The channel that was lost, when it is found by its safe reference. -/
def foundLost (system : KeepAlive) (lost : Option LostChannel) : Option LostChannel :=
  lost.filter fun lost => (system.channels lost.1).info.isChnAdded2HashTbl

/-- The channel that a callback detaches. -/
def lostInCallback (system : KeepAlive) (callback : KeepAliveCallback)
    (outcomes : CallbackOutcomes) : Option LostChannel :=
  match callback.routine with
  | .ofTransprtSendKeepAliveMsg =>
    match outcomes.echo with
    | .notSent lost => system.foundLost lost
    | .sent _ _ => none
  | .ofTransprtCheckKeepaliveResponseMsg =>
    if (system.channels callback.channel).keepAliveFailed then
      some (callback.channel, outcomes.closing)
    else
      none

/-- A channel that is detached is let go. -/
def LetsLostGo (system : KeepAlive) (thread : Nat) (lost : Option LostChannel) : Prop :=
  ∀ found ∈ lost, system.LetsGo found.1 thread found.2

variable (lost : Option LostChannel)

theorem writeFailed_cases :
    system.foundLost lost = none ∧ system.writeFailed thread lost = system ∨
      ∃ found, system.foundLost lost = some found ∧
        Detached system (system.writeFailed thread lost) found.1 thread found.2 := by
  cases lost with
  | none => exact .inl ⟨rfl, rfl⟩
  | some lost =>
  by_cases found : (system.channels lost.1).info.isChnAdded2HashTbl = true
  · exact .inr ⟨lost, by simp [foundLost, found], detached_writeFailed found⟩
  · exact .inl ⟨by simp [foundLost, found], by simp [writeFailed, found]⟩

theorem formed_writeFailed (formed : system.Formed) (thread : Nat) (lost : Option LostChannel) :
    (system.writeFailed thread lost).Formed := by
  rcases writeFailed_cases lost with ⟨_, same⟩ | ⟨found, _, detached⟩
  · rw [same]
    exact formed
  · exact detached.formed formed

theorem quiet_writeFailed_iff (quiet : system.Quiet) (thread : Nat) (lost : Option LostChannel) :
    (system.writeFailed thread lost).Quiet ↔
      system.LetsLostGo thread (system.foundLost lost) := by
  rcases writeFailed_cases lost with ⟨nobody, same⟩ | ⟨found, foundOne, detached⟩
  · rw [same, nobody]
    refine ⟨fun _ => ?_, fun _ => quiet⟩
    rintro found ⟨⟩
  · rw [foundOne, detached.quiet_iff quiet]
    simp [LetsLostGo]

theorem nodesFrom_writeFailed :
    Timers.NodesFrom system.timers (system.writeFailed thread lost).timers := by
  rcases writeFailed_cases lost with ⟨_, same⟩ | ⟨found, _, detached⟩
  · rw [same]
    exact Timers.NodesFrom.refl
  · exact detached.nodes

/-- A callback on a bound channel that was not released: what it needs to keep the
timers quiet, and what it leaves of the nodes. -/
structure CallbackKeeps (system system' : KeepAlive) (thread : Nat)
    (lost : Option LostChannel) : Prop where
  formed : system'.Formed
  quiet : system'.Quiet ↔ system.LetsLostGo thread lost
  nodes : Timers.NodesFrom system.timers system'.timers

/-- Sending a keep-alive message is quiet when a channel lost by it lets its timers go. -/
theorem keeps_ofTransprtSendKeepAliveMsg (formed : system.Formed) (quiet : system.Quiet)
    (bound : (system.channels channel).info.isChnAddedToDp = true)
    (present : system.released channel = false) (thread : Nat) (outcomes : CallbackOutcomes) :
    CallbackKeeps system (system.ofTransprtSendKeepAliveMsg channel thread outcomes.echo) thread
      (system.lostInCallback
        { routine := .ofTransprtSendKeepAliveMsg, channel := channel } outcomes) := by
  rcases Option.ne_none_iff_exists'.mp (formed.datapath channel bound) with ⟨datapath, found⟩
  cases sending : outcomes.echo with
  | notSent lost =>
    simp only [ofTransprtSendKeepAliveMsg, found, lostInCallback, sending]
    exact
      { formed := formed_writeFailed formed thread lost
        quiet := quiet_writeFailed_iff quiet thread lost
        nodes := nodesFrom_writeFailed lost }
  | sent main timer =>
  have counted : Calm system (system.countEcho main) :=
    Calm.setChannel rfl (fun _ => rfl) rfl
  have sent : Calm system ((system.countEcho main).setKeepAliveState channel keepAliveMsgSent) :=
    counted.trans (Calm.setKeepAliveState keepAliveMsgSent)
  have nobody : system.LetsLostGo thread none := by rintro found ⟨⟩
  simp only [ofTransprtSendKeepAliveMsg, found, lostInCallback, sending]
  cases timer with
  | started =>
    have starts : ∃ ref, Started _
        (((system.countEcho main).setKeepAliveState channel
          keepAliveMsgSent).startKeepaliveResptimer channel thread) channel ref _ :=
      started_keepaliveResptimer
    rcases starts with ⟨ref, started⟩
    refine ⟨started.formed (sent.formed formed), ?_, started.nodes⟩
    refine ⟨fun _ => nobody, fun _ => started.quiet_iff.mpr ⟨sent.quiet quiet, ?_, ?_⟩⟩
    · rw [sent.added]
      exact bound
    · rw [sent.released]
      exact present
  | failed =>
    exact
      ⟨sent.formed formed, ⟨fun _ => nobody, fun _ => sent.quiet quiet⟩, Timers.NodesFrom.refl⟩
  | refused =>
  exact
    ⟨sent.formed formed, ⟨fun _ => nobody, fun _ => sent.quiet quiet⟩, Timers.NodesFrom.refl⟩

/-- So is checking for the answer. -/
theorem keeps_ofTransprtCheckKeepaliveResponseMsg (formed : system.Formed)
    (quiet : system.Quiet) (channel thread : Nat) (outcomes : CallbackOutcomes) :
    CallbackKeeps system
      (system.ofTransprtCheckKeepaliveResponseMsg channel thread outcomes.closing) thread
      (system.lostInCallback
        { routine := .ofTransprtCheckKeepaliveResponseMsg, channel := channel } outcomes) := by
  cases failed : (system.channels channel).keepAliveFailed with
  | true =>
    have detached : Detached system (system.dispatchClose channel thread outcomes.closing)
        channel thread outcomes.closing := detached_dispatchClose
    simp only [ofTransprtCheckKeepaliveResponseMsg, lostInCallback, failed, if_true]
    refine ⟨detached.formed formed, ?_, detached.nodes⟩
    rw [detached.quiet_iff quiet]
    simp [LetsLostGo]
  | false =>
  have nobody : system.LetsLostGo thread none := by rintro found ⟨⟩
  have nodes : Timers.NodesFrom system.timers (system.timers.timerStopTmr thread
      (system.channels channel).keepaliveResptimer outcomes.closing.stopAllocated).1 :=
    Timers.NodesFrom.timerStopTmr _ _
  have stopping : Calm system (system.setTimers (system.timers.timerStopTmr thread
      (system.channels channel).keepaliveResptimer outcomes.closing.stopAllocated).1) :=
    Calm.setTimers (fun _ _ => Timers.running_of_timerStopTmr) nodes.1
  simp only [ofTransprtCheckKeepaliveResponseMsg, lostInCallback, failed, Bool.false_eq_true,
    if_false]
  split
  case isTrue =>
    exact ⟨stopping.formed formed, ⟨fun _ => nobody, fun _ => stopping.quiet quiet⟩, nodes⟩
  case isFalse =>
  have checked : Calm system ((system.setTimers (system.timers.timerStopTmr thread
      (system.channels channel).keepaliveResptimer
      outcomes.closing.stopAllocated).1).setChannel channel (system.channels channel).checked) :=
    stopping.trans (Calm.setChannel rfl (fun _ => rfl) rfl)
  exact ⟨checked.formed formed, ⟨fun _ => nobody, fun _ => checked.quiet quiet⟩, nodes⟩

/-! ## A features reply -/

/-- A channel without timers is detached quietly. -/
theorem Detached.quiet_iff_of_silent
    (detached : Detached system system' channel thread outcomes) (formed : system.Formed)
    (silent : ∀ ref, ¬ system.TimerRuns ref channel) : system'.Quiet ↔ system.Quiet := by
  constructor
  case mpr =>
    intro quiet
    exact (detached.quiet_iff quiet).mpr fun _ ref runs => absurd runs (silent ref)
  case mp =>
  intro quiet'
  have runs' : ∀ ref other, system.TimerRuns ref other → system'.TimerRuns ref other := by
    rintro ref other ⟨routine, runs⟩
    refine ⟨routine, (detached.running _ _).mpr ⟨runs, ?_⟩⟩
    rintro ⟨_, _, _, _, stored⟩
    have member : ref ∈ (system.channels channel).refs := by
      rcases stored with ⟨_, rfl⟩ | ⟨_, rfl⟩
      · simp [KeepAliveChannel.refs]
      · simp [KeepAliveChannel.refs]
    have own := formed.own channel ref member _ runs
    exact silent ref ⟨routine, by rw [runs, ← own]⟩
  exact
    { unbound := by
        intro other unbound ref runs
        have different : other ≠ channel := by
          rintro rfl
          exact silent ref runs
        rw [← detached.others other different] at unbound
        exact quiet'.unbound other unbound ref (runs' ref other runs)
      released := by
        intro other gone ref runs
        rw [← detached.released] at gone
        exact quiet'.released other gone ref (runs' ref other runs)
      delivered := by
        rw [← detached.deliveries]
        exact quiet'.delivered }

theorem Detached.silent (detached : Detached system system' channel thread outcomes)
    {other : Nat} (silent : ∀ ref, ¬ system.TimerRuns ref other) :
    ∀ ref, ¬ system'.TimerRuns ref other := by
  rintro ref ⟨routine, runs⟩
  exact silent ref ⟨routine, ((detached.running _ _).mp runs).1⟩

theorem Calm.silent (calm : Calm system system') {other : Nat}
    (silent : ∀ ref, ¬ system.TimerRuns ref other) : ∀ ref, ¬ system'.TimerRuns ref other := by
  rintro ref ⟨routine, runs⟩
  exact silent ref ⟨routine, calm.running _ _ runs⟩

/-- The channel attaches when it waits for the handshake, and in no other state. -/
def attachedInfo (info : KeepAliveChannel) : KeepAliveChannel :=
  if info.info.fsmState = .waitForHandshake then
    { info with info := { info.info with isChnAddedToDp := true, fsmState := .boundToDp } }
  else
    info

variable {state : ChannelFsmState}

theorem learnDp_handler_iff :
    cntlrXprtProtoChannelFsmHandler state .learn = some .learnDp ↔
      state = .waitForHandshake := by
  cases state <;> decide

theorem detachDp_handler_iff :
    cntlrXprtProtoChannelFsmHandler state .dpDetach = some .detachDp ↔
      state = .waitForHandshake ∨ state = .boundToDp := by
  cases state <;> decide

theorem dispatchAttach_eq :
    system.dispatchAttach channel =
      system.setChannel channel (attachedInfo (system.channels channel)) := by
  unfold dispatchAttach attachedInfo
  dsimp only
  split
  case h_1 handler =>
    rw [if_pos (learnDp_handler_iff.mp handler)]
  case h_2 noHandler =>
    rw [if_neg fun waits => noHandler (learnDp_handler_iff.mpr waits), setChannel_self]

/-- The channel after `of_add_channel_to_dp` and the attach event. -/
def attached (system : KeepAlive) (channel datapath : Nat) (auxiliaryId : UInt8) : KeepAlive :=
  (system.storeReply channel auxiliaryId (some datapath)).dispatchAttach channel

/-- What attaching an unbound channel does. -/
structure Attaches (system system' : KeepAlive) (channel : Nat) : Prop where
  others : ∀ other, other ≠ channel → system'.channels other = system.channels other
  timers : system'.timers = system.timers
  number : system'.numberOfChannels = system.numberOfChannels
  released : system'.released = system.released
  deliveries : system'.deliveries = system.deliveries
  bound : (system'.channels channel).info.isChnAddedToDp = true ↔
    (system.channels channel).info.fsmState = .waitForHandshake
  state : (system.channels channel).info.fsmState = .waitForHandshake →
    (system'.channels channel).info.fsmState = .boundToDp
  inTable : (system'.channels channel).info.isChnAdded2HashTbl =
    (system.channels channel).info.isChnAdded2HashTbl
  datapath : (system'.channels channel).info.datapath ≠ none
  refs : (system'.channels channel).refs = (system.channels channel).refs

/-- An unbound channel is attached. -/
theorem attaches (unbound : (system.channels channel).info.isChnAddedToDp = false)
    (datapath : Nat) (auxiliaryId : UInt8) :
    Attaches system (system.attached channel datapath auxiliaryId) channel := by
  have own : (system.attached channel datapath auxiliaryId).channels channel =
      attachedInfo ((system.storeReply channel auxiliaryId (some datapath)).channels channel) := by
    rw [attached, dispatchAttach_eq]
    exact update_self _ _ _
  have stored : (system.storeReply channel auxiliaryId (some datapath)).channels channel =
      { system.channels channel with
        info :=
          { (system.channels channel).info with
            auxiliaryId := auxiliaryId.toUInt32
            datapath := some datapath } } := update_self _ _ _
  rw [stored] at own
  have rest : system.attached channel datapath auxiliaryId =
      (system.storeReply channel auxiliaryId (some datapath)).setChannel channel
        (attachedInfo ((system.storeReply channel auxiliaryId (some datapath)).channels channel)) :=
    dispatchAttach_eq
  by_cases waits : (system.channels channel).info.fsmState = .waitForHandshake
  · rw [attachedInfo, if_pos waits] at own
    exact
      { others := by
          intro other different
          rw [rest]
          simp [setChannel, storeReply, different]
        timers := by rw [rest]; rfl
        number := by rw [rest]; rfl
        released := by rw [rest]; rfl
        deliveries := by rw [rest]; rfl
        bound := by simp [own, waits]
        state := by simp [own]
        inTable := by simp [own]
        datapath := by simp [own]
        refs := by simp [own, KeepAliveChannel.refs] }
  · rw [attachedInfo, if_neg waits] at own
    exact
      { others := by
          intro other different
          rw [rest]
          simp [setChannel, storeReply, different]
        timers := by rw [rest]; rfl
        number := by rw [rest]; rfl
        released := by rw [rest]; rfl
        deliveries := by rw [rest]; rfl
        bound := by simp [own, waits, unbound]
        state := fun waiting => absurd waiting waits
        inTable := by simp [own]
        datapath := by simp [own]
        refs := by simp [own, KeepAliveChannel.refs] }

namespace Attaches

section

variable (attached : Attaches system system' channel)

include attached

theorem timerRuns_iff {ref : TmrSaferef} {other : Nat} :
    system'.TimerRuns ref other ↔ system.TimerRuns ref other := by
  unfold TimerRuns
  rw [attached.timers]

theorem quiet (quiet : system.Quiet)
    (unbound : (system.channels channel).info.isChnAddedToDp = false) : system'.Quiet where
  unbound := by
    intro other unbound' ref runs
    rw [attached.timerRuns_iff] at runs
    by_cases same : other = channel
    · subst same
      exact quiet.unbound other unbound ref runs
    · rw [attached.others other same] at unbound'
      exact quiet.unbound other unbound' ref runs
  released := by
    intro other gone ref runs
    rw [attached.timerRuns_iff] at runs
    rw [attached.released] at gone
    exact quiet.released other gone ref runs
  delivered := by
    rw [attached.deliveries]
    exact quiet.delivered

theorem formed (formed : system.Formed) (created : channel < system.numberOfChannels) :
    system'.Formed := by
  have refs : ∀ other, (system'.channels other).refs = (system.channels other).refs := by
    intro other
    by_cases same : other = channel
    · subst same
      exact attached.refs
    · rw [attached.others other same]
  exact
    { fresh := by
        intro other beyond
        rw [attached.number] at beyond
        have different : other ≠ channel := by
          rintro rfl
          exact absurd created (Nat.not_lt_of_le beyond)
        rw [attached.others other different]
        exact formed.fresh other beyond
      datapath := by
        intro other bound
        by_cases same : other = channel
        · subst same
          exact attached.datapath
        · rw [attached.others other same] at bound ⊢
          exact formed.datapath other bound
      zeroed := by
        rw [attached.timers]
        exact formed.zeroed
      handed := by
        intro other ref member
        rw [refs] at member
        rw [attached.timers]
        exact formed.handed other ref member
      own := by
        intro other ref member callback runs
        rw [refs] at member
        rw [attached.timers] at runs
        exact formed.own other ref member callback runs }

theorem foundLost_eq (lost : Option LostChannel) :
    system'.foundLost lost = system.foundLost lost := by
  unfold foundLost
  congr 1
  funext other
  by_cases same : other.1 = channel
  · rw [same]
    exact attached.inTable
  · rw [attached.others other.1 same]

theorem letsLostGo_iff (silent : ∀ ref, ¬ system.TimerRuns ref channel) (lost : Option LostChannel) :
    system'.LetsLostGo thread (system'.foundLost lost) ↔
      system.LetsLostGo thread (system.foundLost lost) := by
  have letsGo : ∀ other outcomes, system'.LetsGo other thread outcomes ↔
      system.LetsGo other thread outcomes := by
    intro other outcomes
    by_cases same : other = channel
    · subst same
      refine ⟨fun _ _ ref runs => absurd runs (silent ref), fun _ _ ref runs => ?_⟩
      exact absurd (attached.timerRuns_iff.mp runs) (silent ref)
    · unfold LetsGo Unbinds Detaches StopsOnDetach TimerRuns
      rw [attached.others other same, attached.timers]
  rw [attached.foundLost_eq]
  exact forall₂_congr fun lost _ => letsGo lost.1 lost.2

end

end Attaches

/-- The features reply leaves its channel bound, whatever the requests find closed. -/
def StaysBound (system : KeepAlive) (channel : Nat) (outcomes : FeatureReplyOutcomes) : Prop :=
  (system.channels channel).info.fsmState = .waitForHandshake ∧
    ∀ found ∈ system.foundLost outcomes.lost, found.1 = channel → found.2.epollReAdded = false

/-- A features reply that starts the keep-alive timer leaves its channel bound, and lets
the channels go that its requests find closed. -/
def ReplyStopsTimers (system : KeepAlive) (channel thread : Nat) (auxiliaryId : UInt8)
    (outcomes : FeatureReplyOutcomes) : Prop :=
  (system.channels channel).info.isChnAddedToDp = false → outcomes.added = true →
    auxiliaryId = 0 →
      system.LetsLostGo thread (system.foundLost outcomes.lost) ∧
        (outcomes.switchConfigured = true → outcomes.timer = .started →
          system.StaysBound channel outcomes)

theorem requested_bound_iff (attached : Attaches system system' channel) (thread : Nat)
    (outcomes : FeatureReplyOutcomes) :
    ((system'.writeFailed thread outcomes.lost).channels channel).info.isChnAddedToDp = true ↔
      system.StaysBound channel outcomes := by
  unfold StaysBound
  rw [← attached.foundLost_eq]
  rcases writeFailed_cases outcomes.lost with ⟨nobody, same⟩ | ⟨found, foundOne, detached⟩
  · rw [same, nobody, attached.bound]
    exact ⟨fun waits => ⟨waits, by rintro found ⟨⟩⟩, And.left⟩
  rw [foundOne]
  by_cases own : found.1 = channel
  · have added := detached.added
    rw [own] at added
    rw [added, attached.bound]
    refine and_congr_right fun waits => ?_
    have reached : system'.Detaches channel :=
      ⟨detachDp_handler_iff.mpr (.inr (attached.state waits)), attached.bound.mpr waits⟩
    simp [Unbinds, reached, own]
  · rw [detached.others channel (Ne.symm own), attached.bound]
    simp [own]

/-- A start of the keep-alive timer keeps the timers quiet when it fits. -/
theorem keeps_startKeepAlive (formed : system.Formed)
    (silent : ∀ ref, ¬ system.TimerRuns ref channel) (present : system.released channel = false)
    (thread : Nat) (outcomes : FeatureReplyOutcomes) :
    (system.startKeepAlive channel thread outcomes).Formed ∧
      ((system.startKeepAlive channel thread outcomes).Quiet ↔
        system.Quiet ∧ (outcomes.timer = .started →
          (system.channels channel).info.isChnAddedToDp = true)) := by
  have ready : Calm system (system.setKeepAliveState channel keepAliveMsgReadToSend) :=
    Calm.setKeepAliveState _
  have quiet_iff : (system.setKeepAliveState channel keepAliveMsgReadToSend).Quiet ↔
      system.Quiet := by
    refine ⟨fun quiet' => ?_, ready.quiet⟩
    exact
      { unbound := by
          intro other unbound
          rw [← ready.added] at unbound
          exact quiet'.unbound other unbound
        released := quiet'.released
        delivered := quiet'.delivered }
  cases timer : outcomes.timer with
  | started =>
    have starts : ∃ ref, Started _
        ((system.setKeepAliveState channel keepAliveMsgReadToSend).startKeepaliveTimer channel
          thread) channel ref _ := started_keepaliveTimer
    rcases starts with ⟨ref, started⟩
    simp only [startKeepAlive, timer]
    refine ⟨started.formed (ready.formed formed), ?_⟩
    rw [started.quiet_iff, quiet_iff, ready.added, ready.released]
    simp [present]
  | failed =>
    have detached : Detached _ ((system.setKeepAliveState channel
        keepAliveMsgReadToSend).dispatchClose channel thread outcomes.closing) channel thread
        outcomes.closing := detached_dispatchClose
    simp only [startKeepAlive, timer]
    refine ⟨detached.formed (ready.formed formed), ?_⟩
    rw [detached.quiet_iff_of_silent (ready.formed formed) (ready.silent silent), quiet_iff]
    simp
  | refused =>
  simp only [startKeepAlive, timer]
  refine ⟨ready.formed formed, ?_⟩
  rw [quiet_iff]
  simp

theorem writeFailed_silent {other : Nat} (silent : ∀ ref, ¬ system.TimerRuns ref other)
    (thread : Nat) (lost : Option LostChannel) :
    ∀ ref, ¬ (system.writeFailed thread lost).TimerRuns ref other := by
  rcases writeFailed_cases lost with ⟨_, same⟩ | ⟨found, _, detached⟩
  · rw [same]
    exact silent
  · exact detached.silent silent

theorem writeFailed_released (thread : Nat) (lost : Option LostChannel) :
    (system.writeFailed thread lost).released = system.released := by
  rcases writeFailed_cases lost with ⟨_, same⟩ | ⟨found, _, detached⟩
  · rw [same]
  · exact detached.released

/-- A features reply keeps the timers quiet exactly when it meets its condition. -/
theorem keeps_featureReply (formed : system.Formed) (quiet : system.Quiet)
    (live : system.Live channel) (datapath : Nat) (auxiliaryId : UInt8)
    (outcomes : FeatureReplyOutcomes) :
    (system.ofProcessFeatureReplyMsg channel thread datapath auxiliaryId outcomes).Formed ∧
      ((system.ofProcessFeatureReplyMsg channel thread datapath auxiliaryId outcomes).Quiet ↔
        system.ReplyStopsTimers channel thread auxiliaryId outcomes) := by
  cases unbound : (system.channels channel).info.isChnAddedToDp with
  | true => simp [ofProcessFeatureReplyMsg, ReplyStopsTimers, unbound, formed, quiet]
  | false =>
  have silent := quiet.unbound channel unbound
  cases added : outcomes.added with
  | false =>
    have stored : Calm system (system.storeReply channel auxiliaryId
        (system.channels channel).info.datapath) :=
      Calm.setChannel rfl (fun _ => rfl) rfl
    have detached : Detached _ ((system.storeReply channel auxiliaryId
        (system.channels channel).info.datapath).dispatchClose channel thread
        outcomes.closing) channel thread outcomes.closing := detached_dispatchClose
    simp only [ofProcessFeatureReplyMsg, ReplyStopsTimers, unbound, added,
      Bool.false_eq_true, if_false]
    refine ⟨detached.formed (stored.formed formed), ?_⟩
    rw [detached.quiet_iff_of_silent (stored.formed formed) (stored.silent silent)]
    simp [stored.quiet quiet]
  | true =>
  have attached := attaches unbound datapath auxiliaryId
  have formed' := attached.formed formed live.1
  have quiet' := attached.quiet quiet unbound
  have silent' : ∀ ref, ¬ (system.attached channel datapath auxiliaryId).TimerRuns ref channel :=
    fun ref runs => silent ref (attached.timerRuns_iff.mp runs)
  by_cases main : auxiliaryId = 0
  · cases main
    have requestedQuiet := (quiet_writeFailed_iff quiet' thread outcomes.lost).trans
      (attached.letsLostGo_iff silent outcomes.lost)
    have requestedFormed := formed_writeFailed formed' thread outcomes.lost
    have requestedSilent := writeFailed_silent silent' thread outcomes.lost
    have requestedBound := requested_bound_iff attached thread outcomes
    have present : ((system.attached channel datapath 0).writeFailed thread
        outcomes.lost).released channel = false := by
      rw [writeFailed_released, attached.released]
      exact live.2
    cases configured : outcomes.switchConfigured with
    | true =>
      have ending := keeps_startKeepAlive requestedFormed requestedSilent present thread outcomes
      rw [requestedQuiet, requestedBound] at ending
      simp only [ofProcessFeatureReplyMsg, ReplyStopsTimers, unbound, added, configured,
        Bool.false_eq_true, if_false, if_true, true_implies]
      exact ending
    | false =>
    have detached : Detached _ (((system.attached channel datapath
        0).writeFailed thread outcomes.lost).dispatchClose channel thread
        outcomes.closing) channel thread outcomes.closing := detached_dispatchClose
    have ending := detached.quiet_iff_of_silent requestedFormed requestedSilent
    rw [requestedQuiet] at ending
    simp only [ofProcessFeatureReplyMsg, ReplyStopsTimers, unbound, added, configured,
      Bool.false_eq_true, if_false, if_true, true_implies, false_implies, and_true]
    exact ⟨detached.formed requestedFormed, ending⟩
  · simp only [ofProcessFeatureReplyMsg, ReplyStopsTimers, unbound, added, main,
      Bool.false_eq_true, if_false, if_true]
    exact ⟨formed', by simp only [false_implies, true_implies, iff_true]; exact quiet'⟩

/-! ## Expiry -/

/-- The node is in the bucket that is due, and its callback is still to be called. -/
def Due (node : TmrNode KeepAliveCallback) : Prop :=
  node.inExpiry = true ∧ (node.periodic = true ∨ node.timerExpired = false)

/-- The callback of a timer that expires lets the channel go that it detaches.  The
timer itself runs no more while its callback is called, unless it is periodic. -/
def ExpiryStopsTimers (system : KeepAlive) (ref : TmrSaferef) (outcomes : CallbackOutcomes) :
    Prop :=
  ∀ node, system.timers.nodes ref = some node → Due node → node.timerStopped = false →
    (system.setTimers (system.timers.beforeCallback ref)).LetsLostGo ref.threadId
      (system.lostInCallback node.callback outcomes)

variable {timers : Timers KeepAliveCallback} {node : TmrNode KeepAliveCallback}

theorem running_of_beforeCallback {ref other : TmrSaferef} {callback : KeepAliveCallback}
    (found : timers.nodes ref = some node)
    (runs : (timers.beforeCallback ref).running other = some callback) :
    timers.running other = some callback := by
  rw [Timers.running_beforeCallback found] at runs
  split at runs
  · exact runs
  · exact (Timers.withoutTimer_eq_some.mp runs).1

/-- A callback is quiet when a channel lost by it lets its timers go. -/
theorem keeps_callCallback (formed : system.Formed) (quiet : system.Quiet)
    {callback : KeepAliveCallback}
    (bound : (system.channels callback.channel).info.isChnAddedToDp = true)
    (present : system.released callback.channel = false) (thread : Nat)
    (outcomes : CallbackOutcomes) :
    CallbackKeeps system (system.callCallback callback thread outcomes) thread
      (system.lostInCallback callback outcomes) := by
  have called : Calm system
      { system with
        deliveries := system.deliveries ++ [{ callback := callback, released := false }] } :=
    { Calm.refl with
      deliveries := by
        intro delivery member
        rcases List.mem_append.mp member with before | last
        · exact .inl before
        · rw [List.mem_singleton.mp last]
          exact .inr rfl }
  rcases callback with ⟨routine, channel⟩
  simp only [callCallback, present, Bool.false_eq_true, if_false]
  cases routine with
  | ofTransprtSendKeepAliveMsg =>
    have keeps := keeps_ofTransprtSendKeepAliveMsg (called.formed formed) (called.quiet quiet)
      bound present thread outcomes
    exact ⟨keeps.formed, keeps.quiet, keeps.nodes⟩
  | ofTransprtCheckKeepaliveResponseMsg =>
  have keeps := keeps_ofTransprtCheckKeepaliveResponseMsg (called.formed formed)
    (called.quiet quiet) channel thread outcomes
  exact ⟨keeps.formed, keeps.quiet, keeps.nodes⟩

theorem afterCallback_quiet_iff (running : timers.running = system.timers.running) :
    (system.setTimers timers).Quiet ↔ system.Quiet := by
  have runs : ∀ ref other, (system.setTimers timers).TimerRuns ref other ↔
      system.TimerRuns ref other := by
    intro ref other
    simp only [TimerRuns, setTimers, running]
  constructor
  case mp =>
    rintro ⟨unbound, released, delivered⟩
    exact
      ⟨fun other gone ref ran => unbound other gone ref ((runs ref other).mpr ran),
        fun other gone ref ran => released other gone ref ((runs ref other).mpr ran), delivered⟩
  case mpr =>
    rintro ⟨unbound, released, delivered⟩
    exact
      ⟨fun other gone ref ran => unbound other gone ref ((runs ref other).mp ran),
        fun other gone ref ran => released other gone ref ((runs ref other).mp ran), delivered⟩

theorem keeps_afterCallback {called : KeepAlive} {ref : TmrSaferef} (formed : called.Formed)
    (found : system.timers.nodes ref = some node)
    (nodes : Timers.NodesFrom (system.timers.beforeCallback ref) called.timers) :
    (called.setTimers (called.timers.afterCallback ref node)).Formed ∧
      ((called.setTimers (called.timers.afterCallback ref node)).Quiet ↔ called.Quiet) := by
  have running := nodes.running_afterCallback found
  have ended : Calm called (called.setTimers (called.timers.afterCallback ref node)) :=
    Calm.setTimers (by rw [running]; exact fun _ _ => id)
      (Nat.le_of_eq (Timers.NodesFrom.nextMagic_afterCallback _).symm)
  exact ⟨ended.formed formed, afterCallback_quiet_iff running⟩

/-- The expiry of a timer keeps the timers quiet exactly when it meets its
condition. -/
theorem keeps_expire (formed : system.Formed) (quiet : system.Quiet) (ref : TmrSaferef)
    (outcomes : CallbackOutcomes) :
    (system.expire ref outcomes).Formed ∧
      ((system.expire ref outcomes).Quiet ↔ system.ExpiryStopsTimers ref outcomes) := by
  unfold expire ExpiryStopsTimers
  cases found : system.timers.nodes ref with
  | none => simp [formed, quiet]
  | some node =>
  by_cases due : Due node
  · have isDue : (node.inExpiry && (node.periodic || !node.timerExpired)) = true := by
      simpa [Due] using due
    have begun : Calm system (system.setTimers (system.timers.beforeCallback ref)) :=
      Calm.setTimers (fun _ _ => running_of_beforeCallback found)
        (Nat.le_of_eq Timers.NodesFrom.nextMagic_beforeCallback.symm)
    simp only [isDue, if_true]
    cases stopped : node.timerStopped with
    | true =>
      have ended := keeps_afterCallback (begun.formed formed) found Timers.NodesFrom.refl
      refine ⟨ended.1, fun _ other same _ running => ?_, fun _ => ?_⟩
      · cases same
        rw [stopped] at running
        cases running
      · exact ended.2.mpr (begun.quiet quiet)
    | false =>
    have runs : system.timers.running ref = some node.callback := by
      rcases due with ⟨_, periodic | unexpired⟩
      · simp [Timers.running, found, TmrNode.runs, stopped, periodic]
      · simp [Timers.running, found, TmrNode.runs, stopped, unexpired]
    have bound := quiet.bound runs
    have keeps := keeps_callCallback (begun.formed formed) (begun.quiet quiet) bound.1
      bound.2 ref.threadId outcomes
    have ended := keeps_afterCallback keeps.formed found keeps.nodes
    simp only [Bool.false_eq_true, if_false]
    refine ⟨ended.1, ?_⟩
    rw [ended.2, keeps.quiet]
    constructor
    case mp =>
      intro letsGo other same _ _
      cases same
      exact letsGo
    case mpr =>
      intro stops
      exact stops node rfl due stopped
  · have notDue : (node.inExpiry && (node.periodic || !node.timerExpired)) = false := by
      simpa [Due] using due
    simp only [notDue, Bool.false_eq_true, if_false]
    refine ⟨formed, fun _ other same dueOther => ?_, fun _ => quiet⟩
    cases same
    exact absurd dueOther due

/-! ## The other events -/

/-- A new connection keeps the timers quiet. -/
theorem keeps_connect (formed : system.Formed) (quiet : system.Quiet) :
    system.connect.Formed ∧ system.connect.Quiet := by
  have others : ∀ other, other ≠ system.numberOfChannels →
      system.connect.channels other = system.channels other :=
    fun other different => update_of_ne different _ _
  have own : system.connect.channels system.numberOfChannels =
      { KeepAliveChannel.zeroed with
        info :=
          { KeepAliveChannel.zeroed.info with
            fsmState := .waitForHandshake
            isChnAdded2HashTbl := true } } := update_self _ _ _
  have added : ∀ other, (system.connect.channels other).info.isChnAddedToDp =
      (system.channels other).info.isChnAddedToDp := by
    intro other
    by_cases same : other = system.numberOfChannels
    · subst same
      rw [own, formed.fresh _ (Nat.le_refl _)]
      rfl
    · rw [others other same]
  constructor
  case left =>
    exact
      { fresh := by
          intro other beyond
          rw [added]
          exact formed.fresh other (Nat.le_of_succ_le beyond)
        datapath := by
          intro other bound
          rw [added] at bound
          have different : other ≠ system.numberOfChannels := by
            rintro rfl
            rw [formed.fresh _ (Nat.le_refl _)] at bound
            cases bound
          rw [others other different]
          exact formed.datapath other bound
        zeroed := formed.zeroed
        handed := by
          intro other ref member
          by_cases same : other = system.numberOfChannels
          · subst same
            rw [own] at member
            have zeroed : ref = TmrSaferef.zeroed := by
              simpa [KeepAliveChannel.refs, KeepAliveChannel.zeroed] using member
            rw [zeroed]
            exact Nat.lt_of_le_of_lt (Nat.zero_le _) (formed.handed 0 _ (List.mem_cons_self ..))
          · rw [others other same] at member
            exact formed.handed other ref member
        own := by
          intro other ref member callback runs
          by_cases same : other = system.numberOfChannels
          · subst same
            rw [own] at member
            have zeroed : ref = TmrSaferef.zeroed := by
              simpa [KeepAliveChannel.refs, KeepAliveChannel.zeroed] using member
            have ran : system.timers.running ref = some callback := runs
            rw [zeroed, formed.zeroed] at ran
            cases ran
          · rw [others other same] at member
            exact formed.own other ref member callback runs }
  case right =>
    exact
      { unbound := by
          intro other unbound
          rw [added] at unbound
          exact quiet.unbound other unbound
        released := quiet.released
        delivered := quiet.delivered }

theorem calm_ofProcessDpMessage : Calm system (system.ofProcessDpMessage channel) := by
  unfold ofProcessDpMessage
  dsimp only
  split
  · exact Calm.setKeepAliveState _
  · exact Calm.refl

theorem calm_cntlrEchoReplyClbkFn : Calm system (system.cntlrEchoReplyClbkFn channel) := by
  unfold cntlrEchoReplyClbkFn
  dsimp only
  split
  · exact Calm.setKeepAliveState _
  · exact Calm.refl

/-- The memory of a channel that left the connection table is released only when no
timer of it runs. -/
def ReleaseStopsTimers (system : KeepAlive) (channel : Nat) : Prop :=
  (system.channels channel).info.isChnAdded2HashTbl = false →
    ∀ ref, ¬ system.TimerRuns ref channel

/-- A release is quiet exactly when the channel's timers are stopped. -/
theorem keeps_cntlrTrnsprtConnClose (formed : system.Formed) (quiet : system.Quiet)
    (channel : Nat) :
    (system.cntlrTrnsprtConnClose channel).Formed ∧
      ((system.cntlrTrnsprtConnClose channel).Quiet ↔ system.ReleaseStopsTimers channel) := by
  unfold cntlrTrnsprtConnClose ReleaseStopsTimers
  cases inTable : (system.channels channel).info.isChnAdded2HashTbl with
  | true => simp [formed, quiet]
  | false =>
  simp only [Bool.false_eq_true, if_false, true_implies]
  refine ⟨⟨formed.fresh, formed.datapath, formed.zeroed, formed.handed, formed.own⟩, ?_⟩
  constructor
  case mp =>
    intro quiet'
    exact quiet'.released channel (update_self channel true system.released)
  case mpr =>
  intro silent
  exact
    { unbound := quiet.unbound
      released := by
        intro other gone
        by_cases same : other = channel
        · subst same
          exact silent
        · have before : system.released other = true := by
            simpa [same] using gone
          exact quiet.released other before
      delivered := quiet.delivered }

end KeepAlive

/-! ## Runs -/

/-- What an event needs in the state before it, so that no timer is left running for a
channel that loses its datapath or its memory. -/
def KeepAliveEvent.StopsTimers (system : KeepAlive) : KeepAliveEvent → Prop
  | .featureReply channel thread _ auxiliaryId outcomes =>
    system.Live channel → system.ReplyStopsTimers channel thread auxiliaryId outcomes
  | .detach channel thread outcomes | .close channel thread outcomes =>
    system.Live channel → system.LetsGo channel thread outcomes
  | .release channel => system.Live channel → system.ReleaseStopsTimers channel
  | .expires ref outcomes => system.ExpiryStopsTimers ref outcomes
  | .connect | .received _ | .echoReplied _ | .passBegins _ | .bucketDue _ _ => True

attribute [local simp] KeepAliveEvent.StopsTimers

attribute [local simp] keepAliveStep

open KeepAlive in
/-- One event keeps the timers quiet exactly when it meets its condition. -/
theorem keepAliveStep_keeps {system : KeepAlive} (formed : system.Formed) (quiet : system.Quiet)
    (event : KeepAliveEvent) :
    (keepAliveStep system event).Formed ∧
      ((keepAliveStep system event).Quiet ↔ event.StopsTimers system) := by
  have of_calm : ∀ {system' : KeepAlive}, Calm system system' →
      system'.Formed ∧ (system'.Quiet ↔ True) :=
    fun calm => ⟨calm.formed formed, iff_true_intro (calm.quiet quiet)⟩
  have of_detached : ∀ {system' : KeepAlive} {channel thread : Nat} {outcomes : DetachOutcomes},
      Detached system system' channel thread outcomes →
        system'.Formed ∧ (system'.Quiet ↔ system.LetsGo channel thread outcomes) :=
    fun detached => ⟨detached.formed formed, detached.quiet_iff quiet⟩
  cases event with
  | connect =>
    have keeps := keeps_connect formed quiet
    exact ⟨keeps.1, iff_true_intro keeps.2⟩
  | featureReply channel thread datapath auxiliaryId outcomes =>
    by_cases live : system.Live channel
    · simp only [keepAliveStep, KeepAliveEvent.StopsTimers, live, if_true, true_implies]
      exact keeps_featureReply formed quiet live datapath auxiliaryId outcomes
    · simp [live, formed, quiet]
  | received channel =>
    by_cases live : system.Live channel
    · simp only [keepAliveStep, KeepAliveEvent.StopsTimers, live, if_true]
      exact of_calm calm_ofProcessDpMessage
    · simp [live, formed, quiet]
  | echoReplied channel =>
    by_cases live : system.Live channel
    · simp only [keepAliveStep, KeepAliveEvent.StopsTimers, live, if_true]
      exact of_calm calm_cntlrEchoReplyClbkFn
    · simp [live, formed, quiet]
  | detach channel thread outcomes =>
    by_cases live : system.Live channel
    · simp only [keepAliveStep, KeepAliveEvent.StopsTimers, live, if_true, true_implies]
      exact of_detached detached_dispatchDetach
    · simp [live, formed, quiet]
  | close channel thread outcomes =>
    by_cases live : system.Live channel
    · simp only [keepAliveStep, KeepAliveEvent.StopsTimers, live, if_true, true_implies]
      exact of_detached detached_dispatchClose
    · simp [live, formed, quiet]
  | release channel =>
    by_cases live : system.Live channel
    · simp only [keepAliveStep, KeepAliveEvent.StopsTimers, live, if_true, true_implies]
      exact keeps_cntlrTrnsprtConnClose formed quiet channel
    · simp [live, formed, quiet]
  | passBegins thread =>
    exact of_calm (Calm.setTimers (fun _ _ => Timers.running_of_tmrDequeStop)
      Timers.NodesFrom.tmrDequeStop.1)
  | bucketDue thread bucket =>
    refine of_calm (Calm.setTimers ?_ (Nat.le_refl _))
    rw [Timers.running_bucketInExpiry]
    exact fun _ _ => id
  | expires ref outcomes => exact keeps_expire formed quiet ref outcomes

theorem KeepAlive.create_formed : KeepAlive.create.Formed where
  fresh := fun _ _ => rfl
  datapath := fun _ bound => by cases bound
  zeroed := rfl
  handed := by simp [KeepAlive.create, KeepAliveChannel.refs, KeepAliveChannel.zeroed,
    TmrSaferef.zeroed, Timers.init]
  own := fun _ _ _ _ runs => by cases runs

theorem KeepAlive.create_quiet : KeepAlive.create.Quiet where
  unbound := by
    rintro _ _ _ ⟨_, runs⟩
    cases runs
  released := by
    rintro _ gone
    cases gone
  delivered := by
    rintro _ ⟨⟩

/-- Along every run, the events meet their conditions exactly when after every event no
timer runs for a channel that has no datapath or no memory, and no callback was
given a released channel. -/
theorem keepAliveTimers_quiet (events : List KeepAliveEvent) :
    Along keepAliveStep (fun system event => event.StopsTimers system) KeepAlive.create events ↔
      Along keepAliveStep (fun system event => (keepAliveStep system event).Quiet)
        KeepAlive.create events := by
  have preserved : ∀ (system : KeepAlive) (event : KeepAliveEvent),
      (system.Formed ∧ system.Quiet) → event.StopsTimers system →
        (keepAliveStep system event).Formed ∧ (keepAliveStep system event).Quiet := by
    rintro system event ⟨formed, quiet⟩ stops
    have keeps := keepAliveStep_keeps formed quiet event
    exact ⟨keeps.1, keeps.2.mpr stops⟩
  have same : ∀ (system : KeepAlive) (event : KeepAliveEvent),
      (system.Formed ∧ system.Quiet) →
        (event.StopsTimers system ↔ (keepAliveStep system event).Quiet) := by
    rintro system event ⟨formed, quiet⟩
    exact (keepAliveStep_keeps formed quiet event).2.symm
  exact Along.iff_of_invariant preserved same ⟨KeepAlive.create_formed, KeepAlive.create_quiet⟩

/-- Everything that may fail succeeds. -/
def DetachOutcomes.succeed : DetachOutcomes where
  stopAllocated := true
  epollReAdded := true
  transportClosed := true

/-- A main connection whose keep-alive message is out, and which receives a message and
is closed before the response timer expires. -/
def receivedBeforeClose : List KeepAliveEvent :=
  [.connect,
    .featureReply 0 1 0 0
      { added := true
        switchConfigured := true
        lost := none
        timer := .started
        closing := .succeed },
    .passBegins 1,
    .bucketDue 1 [{ magic := 1, threadId := 1 }],
    .expires { magic := 1, threadId := 1 }
      { echo := .sent 0 .started
        closing := .succeed },
    .received 0,
    .close 0 1 .succeed]

/-- The memory of the channel is released, and the response timer expires. -/
def releasedBeforeExpiry : List KeepAliveEvent :=
  [.release 0, .passBegins 1, .bucketDue 1 [{ magic := 2, threadId := 1 }],
    .expires { magic := 2, threadId := 1 }
      { echo := .notSent none
        closing := .succeed }]

/-- The detach only stops the response timer while no message was received since the
keep-alive message: the timer runs on for the unbound channel, and is delivered once its
memory was released. -/
theorem received_before_close_keeps_resptimer :
    ((receivedBeforeClose.foldl keepAliveStep KeepAlive.create).channels 0).info.isChnAddedToDp =
        false ∧
      (receivedBeforeClose.foldl keepAliveStep KeepAlive.create).TimerRuns
        { magic := 2, threadId := 1 } 0 ∧
      ∃ delivery ∈ ((receivedBeforeClose ++ releasedBeforeExpiry).foldl keepAliveStep
          KeepAlive.create).deliveries, delivery.released = true := by
  refine ⟨by decide, ⟨.ofTransprtCheckKeepaliveResponseMsg, by decide⟩, ?_⟩
  decide

end OpenFlowController.Transport
