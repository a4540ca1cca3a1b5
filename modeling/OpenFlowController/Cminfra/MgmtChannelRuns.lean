/-
Module: Cminfra.MgmtChannelRuns
Purpose: Runs of accepts, requests, closings and timeouts: when every accepted channel is on the
  list once until it ends, and has given back its timer, session, socket and memory then.
Source: cminfra/infra/je/basic/jetrans.c 267-315, 344-667, 690-854;
  cminfra/utils/timer/basic/timer.c 76-342
Trusted boundary: none
-/
import OpenFlowController.Cminfra.MgmtChannel
import OpenFlowController.Library.Run

namespace OpenFlowController.Cminfra

open Library Function Option

namespace MgmtEngine

/-! ## What should hold -/

/-- A channel that was neither closed nor timed out is on the list once and has everything. -/
structure ChannelLive (engine : MgmtEngine) (channel : Nat) : Prop where
  listed : engine.tnsprtchannelList.count channel = 1
  socketOpen : (engine.ledger channel).socketsClosed = 0
  memoryHeld : (engine.ledger channel).memoryReleased = 0
  timerHeld : ∀ timer, (engine.channels channel).sessionTimer = some timer →
    (engine.timers timer).released = 0
  sessionHeld : ∀ session, (engine.channels channel).configSession = some session →
    engine.sessionsFreed session = 0

/-- A channel that was closed or timed out is off the list and has given everything back once. -/
structure ChannelEnded (engine : MgmtEngine) (channel : Nat) : Prop where
  unlisted : channel ∉ engine.tnsprtchannelList
  socketClosed : (engine.ledger channel).socketsClosed = 1
  memoryReleased : (engine.ledger channel).memoryReleased = 1
  timerReleased : ∀ timer, (engine.channels channel).sessionTimer = some timer →
    (engine.timers timer).active = false ∧ (engine.timers timer).released = 1
  sessionsRevoked : ∀ session ∈ (engine.ledger channel).sessions, engine.sessionsFreed session = 1

/-- Each accepted channel is live until it ends, and ended then. -/
structure LifecycleRight (engine : MgmtEngine) : Prop where
  defined : engine.undefined = false
  live : ∀ channel < engine.nextChannel, (engine.ledger channel).endings = 0 →
    engine.ChannelLive channel
  ended : ∀ channel < engine.nextChannel, (engine.ledger channel).endings ≠ 0 →
    engine.ChannelEnded channel

/-- An event leaves every channel live or ended, and a timer that fires is not that of a
released channel. -/
def StepRight (engine : MgmtEngine) (event : MgmtEvent) : Prop :=
  (engine.step event).LifecycleRight ∧
    ∀ timer outcomes, event = .timerFires timer outcomes → (engine.timers timer).active →
      (engine.ledger (engine.timers timer).parg).memoryReleased = 0

/-! ## When it does -/

/-- A request goes as far as its answer, and the channel stays open. -/
def RequestStays (session : Option Nat) (request : RequestOutcomes) : Prop :=
  messageRead request ∧ request.requestMemory ∧ request.command.isSome ∧
    (request.command = some (.session .start) → session = none →
      request.handling.resultMemory → request.handling.sessionMemory → request.copyMemory)

instance (session : Option Nat) (request : RequestOutcomes) :
    Decidable (RequestStays session request) := by
  unfold RequestStays; infer_instance

/-- No channel is closed, no timer fires, a request reaches only channels that have a timer, and
the session of a channel is not revoked behind its back. -/
def StepFits (engine : MgmtEngine) : MgmtEvent → Prop
  | .accept _ _ _ => True
  | .request fd request => ∀ channel, engine.cmjeGetTnsprtchannelFromList fd = some channel →
      RequestStays (engine.channels channel).configSession request ∧
        (engine.channels channel).sessionTimer ≠ none
  | .close fd _ => engine.cmjeGetTnsprtchannelFromList fd = none
  | .closeSession fd outcomes =>
    ∀ channel, engine.cmjeGetTnsprtchannelFromList fd = some channel →
      (engine.channels channel).configSession ≠ none →
        ¬ (outcomes.resultMemory ∧ outcomes.handled)
  | .timerFires timer _ => ¬ (engine.timers timer).active

/-! ## What the calls keep -/

/-- Between two states no timer was released and no ending forgotten. -/
structure Kept (before after : MgmtEngine) : Prop where
  nextChannel : after.nextChannel = before.nextChannel
  sessionTimer : ∀ channel,
    (after.channels channel).sessionTimer = (before.channels channel).sessionTimer
  released : ∀ timer, (after.timers timer).released = (before.timers timer).released
  endings : ∀ channel, (before.ledger channel).endings ≤ (after.ledger channel).endings
  undefined : before.undefined → after.undefined

variable {engine before after : MgmtEngine}

namespace Kept

theorem refl (engine : MgmtEngine) : Kept engine engine where
  nextChannel := rfl
  sessionTimer _ := rfl
  released _ := rfl
  endings _ := Nat.le_refl _
  undefined := id

theorem trans {last : MgmtEngine} (first : Kept before after) (second : Kept after last) :
    Kept before last where
  nextChannel := second.nextChannel.trans first.nextChannel
  sessionTimer channel := (second.sessionTimer channel).trans (first.sessionTimer channel)
  released timer := (second.released timer).trans (first.released timer)
  endings channel := Nat.le_trans (first.endings channel) (second.endings channel)
  undefined := second.undefined ∘ first.undefined

end Kept

theorem kept_fault (engine : MgmtEngine) : Kept engine engine.fault :=
  { Kept.refl engine with undefined := fun _ => rfl }

theorem kept_record (channel : Nat) {change : ChannelLedger → ChannelLedger}
    (grows : ∀ ledger : ChannelLedger, ledger.endings ≤ (change ledger).endings) :
    Kept engine (engine.record channel change) where
  nextChannel := rfl
  sessionTimer _ := rfl
  released _ := rfl
  endings other := by
    by_cases same : other = channel
    · subst same
      simpa [record] using grows _
    · simp [record, same]
  undefined := id

attribute [local simp] setTimer

theorem kept_setTimer (timer : Nat) {value : JeTimer}
    (same : value.released = (engine.timers timer).released) :
    Kept engine (engine.setTimer timer value) where
  nextChannel := rfl
  sessionTimer _ := rfl
  released other := by
    by_cases equal : other = timer
    · subst equal
      simpa using same
    · simp [equal]
  endings _ := Nat.le_refl _
  undefined := id

theorem kept_noteEnding (channel : Nat) : Kept engine (engine.noteEnding channel) :=
  kept_record channel fun _ => Nat.le_succ _

theorem kept_closeSocket (channel : Nat) : Kept engine (engine.closeSocket channel) :=
  kept_record channel fun _ => Nat.le_refl _

theorem kept_tnsprtchannelFree (channel : Nat) : Kept engine (engine.tnsprtchannelFree channel) :=
  kept_record channel fun _ => Nat.le_refl _

theorem kept_cfgsessionFree (session : Nat) : Kept engine (engine.cfgsessionFree session) :=
  { Kept.refl engine with }

attribute [local simp] setConfigSession

theorem kept_setConfigSession (channel : Nat) (session : Option Nat) :
    Kept engine (engine.setConfigSession channel session) :=
  { @kept_record engine channel
      (fun ledger => { ledger with sessions := ledger.sessions ++ session.toList })
      fun _ => Nat.le_refl _ with
    sessionTimer := by
      intro other
      by_cases same : other = channel
      · subst same
        simp
      · simp [same] }

variable (timer : Option Nat)

theorem kept_cmTimerStop : Kept engine (engine.cmTimerStop timer) := by
  cases timer with
  | none => exact kept_fault engine
  | some timer => exact kept_setTimer timer rfl

variable {channel : Nat}

theorem kept_delete (deleted : engine.cmjeDeleteTnsprtchannelFromList channel = some after) :
    Kept engine after := by
  unfold cmjeDeleteTnsprtchannelFromList at deleted
  split at deleted
  case isTrue => exact some.inj deleted ▸ { Kept.refl engine with }
  case isFalse => simp at deleted

/-- The session commands touch no session timer. -/
theorem kept_cmJeConfigSessionHandler (session : Option Nat) (command : SessionCommand)
    (outcomes : SessionOutcomes) :
    Kept engine (engine.cmJeConfigSessionHandler session command outcomes).1 := by
  unfold cmJeConfigSessionHandler
  split
  case isFalse => exact Kept.refl engine
  cases session with
  | none =>
    dsimp only
    split
    · exact { Kept.refl engine with }
    · exact Kept.refl engine
  | some session =>
  dsimp only
  split
  · exact Kept.refl engine
  simp only [stateMachine]
  split
  · dsimp only
    split
    · exact kept_cfgsessionFree session
    · exact Kept.refl engine
  · exact Kept.refl engine

theorem kept_cmjeTnsprtchannelCloseSession (session : Option Nat) (outcomes : SessionOutcomes) :
    Kept engine (engine.cmjeTnsprtchannelCloseSession session outcomes) := by
  cases session with
  | none => exact Kept.refl engine
  | some session => exact kept_cmJeConfigSessionHandler _ _ _

theorem kept_closing (channel : Nat) (session timer : Option Nat) (outcomes : SessionOutcomes) :
    Kept (engine.noteEnding channel)
      ((((engine.noteEnding channel).cmjeTnsprtchannelCloseSession session
        outcomes).setConfigSession channel none).cmTimerStop timer) :=
  ((kept_cmjeTnsprtchannelCloseSession session outcomes).trans
    (kept_setConfigSession channel none)).trans (kept_cmTimerStop timer)

variable {fd : Int} (outcomes : SessionOutcomes)

theorem kept_stopped (found : engine.cmjeGetTnsprtchannelFromList fd = some channel) :
    Kept ((((engine.noteEnding channel).cmjeTnsprtchannelCloseSession
        (engine.channels channel).configSession outcomes).setConfigSession channel
          none).cmTimerStop (engine.channels channel).sessionTimer)
      (engine.cmjeCloseRecvTnsprtchannel fd outcomes) := by
  simp only [cmjeCloseRecvTnsprtchannel, found]
  split
  case h_1 => exact Kept.refl _
  case h_2 deleted equation =>
      exact (kept_delete equation).trans
        ((kept_tnsprtchannelFree channel).trans (kept_closeSocket channel))

theorem kept_cmjeCloseRecvTnsprtchannel_noted
    (found : engine.cmjeGetTnsprtchannelFromList fd = some channel) :
    Kept (engine.noteEnding channel) (engine.cmjeCloseRecvTnsprtchannel fd outcomes) :=
  (kept_closing channel _ _ outcomes).trans (kept_stopped outcomes found)

theorem kept_cmjeCloseRecvTnsprtchannel (fd : Int) (outcomes : SessionOutcomes) :
    Kept engine (engine.cmjeCloseRecvTnsprtchannel fd outcomes) := by
  cases found : engine.cmjeGetTnsprtchannelFromList fd with
  | none => simpa only [cmjeCloseRecvTnsprtchannel, found] using Kept.refl engine
  | some channel =>
    exact (kept_noteEnding channel).trans (kept_cmjeCloseRecvTnsprtchannel_noted outcomes found)

theorem kept_serve (channel : Nat) (command : RequestCommand) (request : RequestOutcomes) :
    Kept engine (engine.serve channel command request) := by
  unfold serve
  split
  case h_1 => exact Kept.refl engine
  case h_2 => exact Kept.refl engine
  case h_3 command _ =>
      have handled := @kept_cmJeConfigSessionHandler engine
        (engine.channels channel).configSession command request.handling
      dsimp only
      split
      case h_1 session _ _ =>
          have assigned := handled.trans (kept_setConfigSession channel (some session))
          split
          · exact assigned
          · exact assigned.trans ((kept_cmjeCloseRecvTnsprtchannel _ _).trans
              (kept_cfgsessionFree _))
      case h_2 => exact handled.trans (kept_setConfigSession channel none)
      case h_3 => exact handled

/-- Behind its note a timeout touches no session timer. -/
theorem kept_cmjeTnsprtchannelTimeout_noted (channel : Nat) (outcomes : SessionOutcomes) :
    Kept (engine.noteEnding channel) (engine.cmjeTnsprtchannelTimeout channel outcomes) := by
  simp only [cmjeTnsprtchannelTimeout]
  split
  case h_1 => exact Kept.refl _
  case h_2 session _ =>
  have handled := @kept_cmJeConfigSessionHandler (engine.noteEnding channel)
    (some session) .timeout outcomes
  split
  case h_1 unhandled equation =>
      rw [equation] at handled
      exact handled
  case h_2 after result equation =>
  have handled : Kept (engine.noteEnding channel) after := by
    rw [equation] at handled
    exact handled
  have stopped := handled.trans (kept_cmTimerStop (engine.channels channel).sessionTimer)
  split
  case h_1 => exact stopped
  case h_2 deleted removed =>
      exact stopped.trans ((kept_delete removed).trans
        ((kept_closeSocket channel).trans (kept_tnsprtchannelFree channel)))

theorem not_lifecycleRight_of_noted {channel timer : Nat} (known : channel < engine.nextChannel)
    (timerOf : (engine.channels channel).sessionTimer = some timer)
    (held : (engine.timers timer).released = 0)
    (kept : Kept (engine.noteEnding channel) after) : ¬ after.LifecycleRight := by
  intro right
  have noted : 1 ≤ (after.ledger channel).endings := by
    refine Nat.le_trans ?_ (kept.endings channel)
    simp [noteEnding, record]
  have ended := right.ended channel (kept.nextChannel ▸ known) (by omega)
  have released := (ended.timerReleased timer ((kept.sessionTimer channel).trans timerOf)).2
  have same : (after.timers timer).released = 0 := (kept.released timer).trans held
  omega

/-! ## Engines whose channels are all open -/

/-- No channel ended yet.  A timer belongs to the channel in its argument and a session to one
channel, and none of them was given back. -/
structure Untouched (engine : MgmtEngine) : Prop where
  defined : engine.undefined = false
  listed : engine.tnsprtchannelList = List.range engine.nextChannel
  ledger : ∀ channel, (engine.ledger channel).endings = 0 ∧
    (engine.ledger channel).socketsClosed = 0 ∧ (engine.ledger channel).memoryReleased = 0
  released : ∀ timer, (engine.timers timer).released = 0
  timerOwned : ∀ timer < engine.nextTimer,
    (engine.timers timer).parg < engine.nextChannel ∧
      (engine.channels (engine.timers timer).parg).sessionTimer = some timer
  timerKnown : ∀ channel < engine.nextChannel, ∀ timer,
    (engine.channels channel).sessionTimer = some timer →
      timer < engine.nextTimer ∧ (engine.timers timer).parg = channel
  active : ∀ timer, (engine.timers timer).active → timer < engine.nextTimer
  sessionHeld : ∀ channel < engine.nextChannel, ∀ session,
    (engine.channels channel).configSession = some session →
      session < engine.nextSession ∧ engine.sessionsFreed session = 0
  sessionOwned : ∀ channel < engine.nextChannel, ∀ other < engine.nextChannel, ∀ session,
    (engine.channels channel).configSession = some session →
      (engine.channels other).configSession = some session → channel = other
  sessionFresh : ∀ session, engine.nextSession ≤ session → engine.sessionsFreed session = 0

theorem untouched_initial : initial.Untouched where
  defined := rfl
  listed := rfl
  ledger _ := ⟨rfl, rfl, rfl⟩
  released _ := rfl
  timerOwned _ known := absurd known (Nat.not_lt_zero _)
  timerKnown _ known := absurd known (Nat.not_lt_zero _)
  active _ active := absurd active (by simp [initial])
  sessionHeld _ known := absurd known (Nat.not_lt_zero _)
  sessionOwned _ known := absurd known (Nat.not_lt_zero _)
  sessionFresh _ _ := rfl

namespace Untouched

variable {channel : Nat}

theorem known (untouched : engine.Untouched) {fd : Int}
    (found : engine.cmjeGetTnsprtchannelFromList fd = some channel) :
    channel < engine.nextChannel := by
  have listed := List.mem_of_find?_eq_some found
  rw [untouched.listed] at listed
  exact List.mem_range.mp listed

theorem lifecycleRight (untouched : engine.Untouched) : engine.LifecycleRight where
  defined := untouched.defined
  live channel known _ :=
    { listed := by
        rw [untouched.listed]
        exact List.count_eq_one_of_mem List.nodup_range (List.mem_range.mpr known)
      socketOpen := (untouched.ledger channel).2.1
      memoryHeld := (untouched.ledger channel).2.2
      timerHeld := fun timer _ => untouched.released timer
      sessionHeld := fun session held => (untouched.sessionHeld channel known session held).2 }
  ended channel _ ended := absurd (untouched.ledger channel).1 ended

/-- A new channel at the tail keeps the invariant. -/
theorem append (untouched : engine.Untouched) (newFd : Int) (timer : Option Nat)
    (listed : after.tnsprtchannelList = engine.tnsprtchannelList ++ [engine.nextChannel])
    (channels : after.channels = update engine.channels engine.nextChannel
      { sockFd := newFd, sessionTimer := timer, configSession := none })
    (nextChannel : after.nextChannel = engine.nextChannel + 1)
    (timers : timer = none ∧ after.timers = engine.timers ∧ after.nextTimer = engine.nextTimer ∨
      timer = some engine.nextTimer ∧
        after.timers = update engine.timers engine.nextTimer
          { parg := engine.nextChannel, active := true, released := 0 } ∧
        after.nextTimer = engine.nextTimer + 1)
    (nextSession : after.nextSession = engine.nextSession)
    (sessionsFreed : after.sessionsFreed = engine.sessionsFreed)
    (ledger : after.ledger = engine.ledger) (undefined : after.undefined = engine.undefined) :
    after.Untouched := by
  have old : ∀ channel < engine.nextChannel, after.channels channel = engine.channels channel := by
    intro channel known
    rw [channels, update_of_ne (Nat.ne_of_lt known)]
  have new : after.channels engine.nextChannel =
      { sockFd := newFd, sessionTimer := timer, configSession := none } := by
    rw [channels, update_self]
  have oldTimer : ∀ other < engine.nextTimer, after.timers other = engine.timers other := by
    intro other known
    rcases timers with ⟨-, same, -⟩ | ⟨-, changed, -⟩
    · rw [same]
    · rw [changed, update_of_ne (Nat.ne_of_lt known)]
  constructor
  case defined => exact undefined.trans untouched.defined
  case listed => rw [listed, untouched.listed, nextChannel, List.range_succ]
  case ledger => exact fun channel => ledger ▸ untouched.ledger channel
  case released =>
    intro other
    rcases timers with ⟨-, same, -⟩ | ⟨-, changed, -⟩
    · exact same ▸ untouched.released other
    · rw [changed]
      by_cases equal : other = engine.nextTimer
      · simp [equal]
      · simp [equal, untouched.released other]
  case timerOwned =>
    intro other known
    have oldCase (older : other < engine.nextTimer) :
        (after.timers other).parg < after.nextChannel ∧
          (after.channels (after.timers other).parg).sessionTimer = some other := by
      obtain ⟨owner, timerOf⟩ := untouched.timerOwned other older
      rw [oldTimer other older, old _ owner, nextChannel]
      exact ⟨Nat.lt_succ_of_lt owner, timerOf⟩
    rcases timers with ⟨-, -, count⟩ | ⟨isNew, changed, count⟩
    · exact oldCase (count ▸ known)
    · rcases Nat.lt_succ_iff_lt_or_eq.mp (count ▸ known) with older | rfl
      · exact oldCase older
      · rw [changed, update_self, nextChannel]
        exact ⟨Nat.lt_succ_self _, by rw [new, isNew]⟩
  case timerKnown =>
    intro channel known other timerOf
    rcases Nat.lt_succ_iff_lt_or_eq.mp (nextChannel ▸ known) with older | rfl
    · rw [old channel older] at timerOf
      obtain ⟨given, owner⟩ := untouched.timerKnown channel older other timerOf
      rw [oldTimer other given]
      refine ⟨?_, owner⟩
      rcases timers with ⟨-, -, count⟩ | ⟨-, -, count⟩ <;> omega
    rw [new] at timerOf
    rcases timers with ⟨absent, -, -⟩ | ⟨isNew, changed, count⟩
    · simp [absent] at timerOf
    · have equal : engine.nextTimer = other := by simpa [isNew] using timerOf
      rw [count, changed, ← equal, update_self]
      exact ⟨Nat.lt_succ_self _, rfl⟩
  case active =>
    intro other active
    rcases timers with ⟨-, same, count⟩ | ⟨-, changed, count⟩
    · rw [count]
      exact untouched.active other (same ▸ active)
    rw [count]
    by_cases equal : other = engine.nextTimer
    · omega
    · rw [changed, update_of_ne equal] at active
      exact Nat.lt_succ_of_lt (untouched.active other active)
  case sessionHeld =>
    intro channel known session held
    rcases Nat.lt_succ_iff_lt_or_eq.mp (nextChannel ▸ known) with older | rfl
    · rw [old channel older] at held
      rw [nextSession, sessionsFreed]
      exact untouched.sessionHeld channel older session held
    · simp [new] at held
  case sessionOwned =>
    intro channel known other otherKnown session held otherHeld
    rcases Nat.lt_succ_iff_lt_or_eq.mp (nextChannel ▸ known) with older | rfl
    · rcases Nat.lt_succ_iff_lt_or_eq.mp (nextChannel ▸ otherKnown) with otherOlder | rfl
      · rw [old channel older] at held
        rw [old other otherOlder] at otherHeld
        exact untouched.sessionOwned channel older other otherOlder session held otherHeld
      · simp [new] at otherHeld
    · simp [new] at held
  case sessionFresh =>
    rw [nextSession, sessionsFreed]
    exact untouched.sessionFresh

section

variable (untouched : engine.Untouched)

include untouched

theorem accept (newFd : Int) (channelMemory timerMemory : Bool) :
    (engine.cmjeCreateRecvTnsprtchannel newFd channelMemory timerMemory).Untouched := by
  unfold cmjeCreateRecvTnsprtchannel
  split
  case isTrue => exact untouched
  split
  case isFalse => exact untouched
  cases timerMemory with
  | false =>
    exact untouched.append newFd none rfl rfl rfl (.inl ⟨rfl, rfl, rfl⟩) rfl rfl rfl rfl
  | true =>
  refine untouched.append newFd (some engine.nextTimer) rfl rfl rfl
    (.inr ⟨rfl, ?_, rfl⟩) rfl rfl rfl rfl
  simp [cmTimerCreate, cmTimerStart, cmjeAddTnsprtchannelToList]

/-- Restarting a timer keeps the invariant. -/
theorem restart (known : channel < engine.nextChannel) {timer : Nat}
    (timerOf : (engine.channels channel).sessionTimer = some timer) :
    (engine.cmTimerRestart (some timer)).Untouched := by
  obtain ⟨given, owner⟩ := untouched.timerKnown channel known timer timerOf
  have others : ∀ other, ((engine.cmTimerRestart (some timer)).timers other).parg =
        (engine.timers other).parg ∧
      ((engine.cmTimerRestart (some timer)).timers other).released =
        (engine.timers other).released := by
    intro other
    by_cases same : other = timer
    · subst same
      simp [cmTimerRestart, cmTimerStart]
    · simp [cmTimerRestart, cmTimerStart, same]
  exact
    { untouched with
      released := fun other => (others other).2.trans (untouched.released other)
      timerOwned := fun other older => by
        rw [(others other).1]
        exact untouched.timerOwned other older
      timerKnown := fun channel older other timerOf => by
        rw [(others other).1]
        exact untouched.timerKnown channel older other timerOf
      active := fun other active => by
        by_cases same : other = timer
        · exact same ▸ given
        · refine untouched.active other ?_
          simpa [cmTimerRestart, cmTimerStart, same] using active }

/-- A session of a channel's own keeps the invariant. -/
theorem setSession (channel nextSession : Nat) (sessionsFreed : Nat → Nat) (session : Option Nat)
    (held : ∀ other < engine.nextChannel, ∀ value,
      (if other = channel then session else (engine.channels other).configSession) =
        some value → value < nextSession ∧ sessionsFreed value = 0)
    (owned : ∀ other < engine.nextChannel, other ≠ channel → ∀ value, session = some value →
      (engine.channels other).configSession ≠ some value)
    (fresh : ∀ value, nextSession ≤ value → sessionsFreed value = 0) :
    ({ engine with nextSession := nextSession, sessionsFreed := sessionsFreed }.setConfigSession
      channel session).Untouched := by
  have sessionTimer : ∀ other,
      (({ engine with nextSession := nextSession
                      sessionsFreed := sessionsFreed }.setConfigSession
        channel session).channels other).sessionTimer =
          (engine.channels other).sessionTimer := by
    intro other
    by_cases same : other = channel
    · subst same
      simp
    · simp [same]
  have configSession : ∀ other,
      (({ engine with nextSession := nextSession
                      sessionsFreed := sessionsFreed }.setConfigSession
        channel session).channels other).configSession =
          if other = channel then session else (engine.channels other).configSession := by
    intro other
    by_cases same : other = channel
    · subst same
      simp
    · simp [same]
  constructor
  case defined => exact untouched.defined
  case listed => exact untouched.listed
  case ledger =>
    intro other
    by_cases same : other = channel
    · subst same
      simpa [record] using untouched.ledger other
    · simpa [record, same] using untouched.ledger other
  case released => exact untouched.released
  case timerOwned =>
    intro timer known
    rw [sessionTimer]
    exact untouched.timerOwned timer known
  case timerKnown =>
    intro other known timer
    rw [sessionTimer]
    exact untouched.timerKnown other known timer
  case active => exact untouched.active
  case sessionHeld =>
    intro other known value valueHeld
    rw [configSession] at valueHeld
    exact held other known value valueHeld
  case sessionOwned =>
    intro first firstKnown second secondKnown value firstHeld secondHeld
    rw [configSession] at firstHeld secondHeld
    split at firstHeld
    case isTrue firstSame =>
      split at secondHeld
      case isTrue secondSame => exact firstSame.trans secondSame.symm
      case isFalse different =>
        exact absurd secondHeld (owned second secondKnown different value firstHeld)
    case isFalse firstOther =>
      split at secondHeld
      case isTrue => exact absurd firstHeld (owned first firstKnown firstOther value secondHeld)
      case isFalse =>
        exact untouched.sessionOwned first firstKnown second secondKnown value firstHeld secondHeld
  case sessionFresh => exact fresh

theorem assign (channel : Nat) :
    ({ engine with nextSession := engine.nextSession + 1 }.setConfigSession channel
      (some engine.nextSession)).Untouched := by
  refine untouched.setSession channel (engine.nextSession + 1) engine.sessionsFreed _ ?held ?owned
    ?fresh
  case held =>
    intro other known value valueHeld
    split at valueHeld
    case isTrue =>
      obtain rfl := some.inj valueHeld
      exact ⟨Nat.lt_succ_self _, untouched.sessionFresh _ (Nat.le_refl _)⟩
    case isFalse =>
      obtain ⟨older, unfreed⟩ := untouched.sessionHeld other known value valueHeld
      exact ⟨Nat.lt_succ_of_lt older, unfreed⟩
  case owned =>
    rintro other known - value equal valueHeld
    obtain rfl := some.inj equal
    exact absurd (untouched.sessionHeld other known _ valueHeld).1 (Nat.lt_irrefl _)
  case fresh =>
    intro value newer
    exact untouched.sessionFresh value (Nat.le_of_succ_le newer)

/-- The end of a session keeps the invariant. -/
theorem finish (known : channel < engine.nextChannel) {session : Nat}
    (held : (engine.channels channel).configSession = some session)
    (freed : before = engine ∨ before = engine.cfgsessionFree session) :
    (before.setConfigSession channel none).Untouched := by
  have older := (untouched.sessionHeld channel known session held).1
  have otherHeld : ∀ other < engine.nextChannel, ∀ value,
      (if other = channel then none else (engine.channels other).configSession) = some value →
        value ≠ session ∧ value < engine.nextSession ∧ engine.sessionsFreed value = 0 := by
    intro other otherKnown value valueHeld
    split at valueHeld
    case isTrue => simp at valueHeld
    case isFalse different =>
      refine ⟨?_, untouched.sessionHeld other otherKnown value valueHeld⟩
      rintro rfl
      exact different (untouched.sessionOwned other otherKnown channel known value valueHeld held)
  rcases freed with rfl | rfl
  · exact untouched.setSession channel before.nextSession before.sessionsFreed none
      (fun other otherKnown value valueHeld => (otherHeld other otherKnown value valueHeld).2)
      (by simp) untouched.sessionFresh
  refine untouched.setSession channel engine.nextSession
    (engine.cfgsessionFree session).sessionsFreed none ?_ (by simp) ?_
  · intro other otherKnown value valueHeld
    obtain ⟨different, still, unfreed⟩ := otherHeld other otherKnown value valueHeld
    exact ⟨still, by simp [cfgsessionFree, different, unfreed]⟩
  · intro value newer
    have different : value ≠ session := by omega
    simp [cfgsessionFree, different, untouched.sessionFresh value newer]

attribute [local simp] MgmtEngine.serve

/-- A request that is served keeps the invariant. -/
theorem serve (known : channel < engine.nextChannel) {command : RequestCommand}
    {request : RequestOutcomes}
    (stays : command = .session .start → (engine.channels channel).configSession = none →
      request.handling.resultMemory → request.handling.sessionMemory → request.copyMemory) :
    (engine.serve channel command request).Untouched := by
  cases command with
  | other => exact untouched
  | session command =>
  cases command with
  | start =>
    cases held : (engine.channels channel).configSession with
    | none =>
      by_cases result : request.handling.resultMemory
      · by_cases memory : request.handling.sessionMemory
        · have copied := stays rfl held result memory
          simpa [cmJeConfigSessionHandler, held, result, memory, copied]
            using untouched.assign channel
        · simpa [cmJeConfigSessionHandler, held, result, memory] using untouched
      · simpa [cmJeConfigSessionHandler, held, result] using untouched
    | some session =>
      by_cases result : request.handling.resultMemory <;>
        simpa [cmJeConfigSessionHandler, held, result] using untouched
  | update | get =>
    cases held : (engine.channels channel).configSession with
    | none =>
      by_cases result : request.handling.resultMemory <;>
        simpa [cmJeConfigSessionHandler, held, result] using untouched
    | some session =>
    by_cases result : request.handling.resultMemory <;>
      by_cases handled : request.handling.handled <;>
        simpa [cmJeConfigSessionHandler, held, result, stateMachine, smEventOf,
          releasesSession, handled] using untouched
  | finish subCommand =>
    cases held : (engine.channels channel).configSession with
    | none =>
      by_cases result : request.handling.resultMemory <;>
        simpa [cmJeConfigSessionHandler, held, result] using untouched
    | some session =>
    by_cases result : request.handling.resultMemory
    · by_cases runs : smEventOf (.finish subCommand) ≠ .beyond ∧
          request.handling.handled
      · by_cases releases : releasesSession (smEventOf (.finish subCommand))
        · have freed := untouched.finish known held (.inr (rfl : engine.cfgsessionFree session = _))
          simpa [cmJeConfigSessionHandler, held, result, stateMachine, runs, releases] using freed
        · have kept := untouched.finish known held (.inl (rfl : engine = engine))
          simpa [cmJeConfigSessionHandler, held, result, stateMachine, runs, releases] using kept
      · simpa only [MgmtEngine.serve, cmJeConfigSessionHandler, held, result,
          stateMachine, if_neg runs, reduceCtorEq, ite_true, ite_false] using untouched
    · simpa [cmJeConfigSessionHandler, held, result] using untouched
  | timeout => exact untouched

end

end Untouched

/-! ## Steps -/

variable {request : RequestOutcomes}

theorem request_of_stays {timer : Nat}
    (found : engine.cmjeGetTnsprtchannelFromList fd = some channel)
    (stays : RequestStays (engine.channels channel).configSession request)
    (timerOf : (engine.channels channel).sessionTimer = some timer) :
    ∃ command, request.command = some command ∧
      engine.cmJeReadAndProcessConfigRequest fd request =
        (engine.cmTimerRestart (some timer)).serve channel command request := by
  obtain ⟨read, memory, commanded, -⟩ := stays
  obtain ⟨command, equation⟩ := isSome_iff_exists.mp commanded
  refine ⟨command, equation, ?_⟩
  simp only [cmJeReadAndProcessConfigRequest, found, read, if_true, memory, equation, timerOf]

variable {event : MgmtEvent}

/-- Every event that meets its condition keeps the invariant. -/
theorem untouched_step (untouched : engine.Untouched) (fits : engine.StepFits event) :
    (engine.step event).Untouched := by
  cases event with
  | accept newFd channelMemory timerMemory =>
    exact untouched.accept newFd channelMemory timerMemory
  | request fd request =>
    cases found : engine.cmjeGetTnsprtchannelFromList fd with
    | none => simpa only [step, cmJeReadAndProcessConfigRequest, found] using untouched
    | some channel =>
    have known := untouched.known found
    obtain ⟨stays, timed⟩ := fits channel found
    obtain ⟨timer, timerOf⟩ := ne_none_iff_exists'.mp timed
    obtain ⟨command, equation, served⟩ := request_of_stays found stays timerOf
    rw [step, served]
    refine (untouched.restart known timerOf).serve known fun start => ?_
    exact stays.2.2.2 (equation.trans (congrArg some start))
  | close fd outcomes =>
    have absent : engine.cmjeGetTnsprtchannelFromList fd = none := fits
    simpa only [step, cmjeCloseRecvTnsprtchannel, absent] using untouched
  | closeSession fd outcomes =>
    simp only [step]
    cases found : engine.cmjeGetTnsprtchannelFromList fd with
    | none => exact untouched
    | some channel =>
    have kept := fits channel found
    cases held : (engine.channels channel).configSession with
    | none => simpa only [held, cmjeTnsprtchannelCloseSession] using untouched
    | some session =>
    have failed := kept (by simp [held])
    by_cases result : outcomes.resultMemory
    · have unhandled : outcomes.handled = false := by simpa [result] using failed
      simpa [held, cmjeTnsprtchannelCloseSession, cmJeConfigSessionHandler, result,
        stateMachine, unhandled] using untouched
    · simpa [held, cmjeTnsprtchannelCloseSession, cmJeConfigSessionHandler, result] using untouched
  | timerFires timer outcomes =>
    have stopped : (engine.timers timer).active = false := Bool.not_eq_true _ ▸ fits
    simpa [step, timerFires, stopped] using untouched

theorem not_right_of_close {fd : Int} {channel : Nat} (untouched : engine.Untouched)
    (outcomes : SessionOutcomes)
    (found : engine.cmjeGetTnsprtchannelFromList fd = some channel)
    (kept : Kept (engine.cmjeCloseRecvTnsprtchannel fd outcomes) after) :
    ¬ after.LifecycleRight := by
  intro right
  have known := untouched.known found
  cases timerOf : (engine.channels channel).sessionTimer with
  | some timer =>
    exact not_lifecycleRight_of_noted known timerOf (untouched.released timer)
      ((kept_cmjeCloseRecvTnsprtchannel_noted outcomes found).trans kept) right
  | none =>
  have stopped := kept_stopped outcomes found
  rw [timerOf] at stopped
  have undefined := kept.undefined (stopped.undefined rfl)
  simp [right.defined] at undefined

/-- What a closing gives back: the place in the list, the socket, the block and a session that is
revoked, each once.  The timer is stopped, and only `cm_timer_delete` would release it. -/
theorem close_gives_back {fd : Int} {channel timer : Nat} (untouched : engine.Untouched)
    (outcomes : SessionOutcomes)
    (found : engine.cmjeGetTnsprtchannelFromList fd = some channel)
    (timerOf : (engine.channels channel).sessionTimer = some timer) :
    let closed := engine.cmjeCloseRecvTnsprtchannel fd outcomes
    channel ∉ closed.tnsprtchannelList ∧ (closed.ledger channel).socketsClosed = 1 ∧
      (closed.ledger channel).memoryReleased = 1 ∧
      (∀ session, (engine.channels channel).configSession = some session →
        outcomes.resultMemory → outcomes.handled → closed.sessionsFreed session = 1) ∧
      (closed.timers timer).active = false ∧ (closed.timers timer).released = 0 ∧
      ((closed.cmTimerDelete timer).timers timer).released = 1 := by
  have known := untouched.known found
  have listed : channel ∈ engine.tnsprtchannelList := List.mem_of_find?_eq_some found
  have once : channel ∉ engine.tnsprtchannelList.erase channel := by
    rw [untouched.listed]
    exact List.nodup_range.not_mem_erase
  obtain ⟨-, sockets, memory⟩ := untouched.ledger channel
  have held := untouched.released timer
  simp only [cmjeCloseRecvTnsprtchannel, found, timerOf]
  cases sessionOf : (engine.channels channel).configSession with
  | none =>
    simp [cmjeTnsprtchannelCloseSession, cmTimerStop, cmjeDeleteTnsprtchannelFromList, noteEnding,
      record, closeSocket, tnsprtchannelFree, cmTimerDelete, listed, once, sockets, memory, held]
  | some session =>
  have owned := (untouched.sessionHeld channel known session sessionOf).2
  by_cases result : outcomes.resultMemory <;> by_cases handled : outcomes.handled <;>
    simp [cmjeTnsprtchannelCloseSession, cmJeConfigSessionHandler, stateMachine, smEventOf,
      releasesSession, cfgsessionFree, cmTimerStop, cmjeDeleteTnsprtchannelFromList, noteEnding,
      record, closeSocket, tnsprtchannelFree, cmTimerDelete, listed, once, sockets, memory, held,
      result, handled, owned]

theorem sockFd_of_found (found : engine.cmjeGetTnsprtchannelFromList fd = some channel) :
    (engine.channels channel).sockFd = fd := by
  simpa using List.find?_some found

theorem get_setConfigSession (fd : Int) (channel : Nat) (session : Option Nat) :
    (engine.setConfigSession channel session).cmjeGetTnsprtchannelFromList fd =
      engine.cmjeGetTnsprtchannelFromList fd := by
  unfold cmjeGetTnsprtchannelFromList
  congr 1
  funext other
  by_cases same : other = channel
  · subst same
    simp
  · simp [same]

/-- A request that is handled right leaves its channel open, and the channel had a timer. -/
theorem stays_of_right (untouched : engine.Untouched)
    (found : engine.cmjeGetTnsprtchannelFromList fd = some channel)
    (right : (engine.cmJeReadAndProcessConfigRequest fd request).LifecycleRight) :
    RequestStays (engine.channels channel).configSession request ∧
      (engine.channels channel).sessionTimer ≠ none := by
  have known := untouched.known found
  simp only [cmJeReadAndProcessConfigRequest, found] at right
  split at right
  case isFalse => exact absurd right (not_right_of_close untouched _ found (Kept.refl _))
  case isTrue read =>
  cases timerOf : (engine.channels channel).sessionTimer with
  | none =>
    -- the restart reads the null pointer, and nothing that follows undoes it
    rw [timerOf] at right
    have undefined : ∀ last, Kept engine.fault last → ¬ last.LifecycleRight := by
      intro last kept right
      have undefined := kept.undefined rfl
      simp [right.defined] at undefined
    split at right
    · exact absurd right (undefined _ (kept_serve _ _ _))
    · exact absurd right (undefined _ (kept_cmjeCloseRecvTnsprtchannel _ _))
  | some timer =>
  rw [timerOf] at right
  have restarted := untouched.restart known timerOf
  split at right
  case h_2 => exact absurd right (not_right_of_close restarted _ found (Kept.refl _))
  case h_1 command memory equation =>
  refine ⟨⟨read, memory, by simp [equation], ?_⟩, by simp⟩
  intro start held result sessions
  by_contra uncopied
  obtain rfl : command = .session .start :=
    some.inj (equation.symm.trans start)
  have same : ((engine.cmTimerRestart (some timer)).channels channel).configSession =
      none := held
  simp only [serve, cmJeConfigSessionHandler, same, result, sessions, uncopied, and_self,
    if_true, if_false] at right
  have assigned := restarted.assign channel
  refine @not_right_of_close _ _ _ channel assigned _ ?_ (kept_cfgsessionFree _) right
  rw [get_setConfigSession]
  exact (sockFd_of_found found).symm ▸ found

/-- An event is handled right exactly when it meets its condition. -/
theorem stepRight_iff (untouched : engine.Untouched) :
    engine.StepFits event ↔ engine.StepRight event := by
  constructor
  case mp =>
    intro fits
    refine ⟨(untouched_step untouched fits).lifecycleRight, ?_⟩
    intro timer outcomes equation active
    exact (untouched.ledger _).2.2
  case mpr =>
    rintro ⟨right, -⟩
    cases event with
    | accept newFd channelMemory timerMemory => trivial
    | request fd request => exact fun channel found => stays_of_right untouched found right
    | close fd outcomes =>
      by_contra listed
      obtain ⟨channel, found⟩ := ne_none_iff_exists'.mp listed
      exact not_right_of_close untouched outcomes found (Kept.refl _) right
    | closeSession fd outcomes =>
      rintro channel found open' ⟨result, handled⟩
      obtain ⟨session, held⟩ := ne_none_iff_exists'.mp open'
      have known := untouched.known found
      simp only [step, found, held, cmjeTnsprtchannelCloseSession, cmJeConfigSessionHandler,
        result, stateMachine, smEventOf, handled, releasesSession] at right
      -- the channel still points at the session that was freed
      have live := right.live channel known (untouched.ledger channel).1
      have unfreed := live.sessionHeld session held
      simp [cfgsessionFree] at unfreed
    | timerFires timer outcomes =>
    intro active
    obtain ⟨known, timerOf⟩ := untouched.timerOwned timer (untouched.active timer active)
    simp only [step, timerFires, active, if_true] at right
    exact @not_lifecycleRight_of_noted (engine.cmTimerStop (some timer)) _ _ _ known timerOf
      (((kept_cmTimerStop (some timer)).released timer).trans (untouched.released timer))
      (kept_cmjeTnsprtchannelTimeout_noted _ _) right

/-- **The life of a management channel.**  In the runs in which no channel is closed and no
timer fires, and only in those, every accepted channel is on the list once until it ends and has
then given back its timer, its session, its socket and its memory, each once: no closing and no
timeout gives a timer back, and a timeout of a channel without a session does nothing. -/
theorem lifecycle_right_iff (events : List MgmtEvent) :
    Along step StepRight initial events ↔ Along step StepFits initial events :=
  (Along.iff_of_invariant (fun _ _ untouched fits => untouched_step untouched fits)
    (fun _ _ untouched => stepRight_iff untouched) untouched_initial).symm

/-- A management engine connects and hangs up: the socket is closed and the block released, but
the timer that was made for the channel is never given back.  And one that connects and stays
silent for ten minutes: its timer fires, and the channel stays on the list. -/
theorem closed_channel_keeps_timer :
    let outcomes : SessionOutcomes := { resultMemory := true, sessionMemory := true, handled := true }
    ¬ Along step StepRight initial [.accept 5 true true, .close 5 outcomes] ∧
      ¬ Along step StepRight initial [.accept 5 true true, .timerFires 0 outcomes] := by
  intro outcomes
  constructor
  · rintro ⟨-, ⟨right, -⟩, -⟩
    have released := ((right.ended 0 (by decide) (by decide)).timerReleased 0 (by decide)).2
    exact absurd released (by decide)
  · rintro ⟨-, ⟨right, -⟩, -⟩
    have unlisted := (right.ended 0 (by decide) (by decide)).unlisted
    exact absurd unlisted (by decide)

end MgmtEngine

end OpenFlowController.Cminfra
