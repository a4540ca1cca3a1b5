/-
Module: Cminfra.MgmtChannel
Purpose: The channels of the management engines: the list of accepted channels, their
  inactivity timers and configuration sessions, and the calls that accept a channel, read a
  request from it, close it, close its session, and handle its timeout.
Source: cminfra/infra/je/basic/jetrans.c 122-315, 344-667, 690-854;
  cminfra/infra/je/basic/jehandlr.c 106-282; cminfra/infra/je/basic/jecfgses.c 1207-1320,
  2062-2175, 2735-2791; cminfra/infra/je/basic/jemem.c;
  cminfra/utils/timer/basic/timer.c 76-342
Trusted boundary: the stats collector is not compiled in, so that no channel has a child, which
  running timer reaches zero is left to the clock, and what the sockets, the allocators, the
  parser of requests and the handlers of the session answer are outcomes
-/
import Mathlib

namespace OpenFlowController.Cminfra

/-! ## Channels, timers and sessions -/

/-- The fields of `struct cmje_tnsprtchannel_info` that outlive a request. -/
structure TnsprtChannel where
  sockFd : Int
  sessionTimer : Option Nat
  configSession : Option Nat
deriving DecidableEq

/-- A `cm_timer_t`: the channel in `parg`, whether it is on the list of running timers, and how
often it was given back to `cm_timer_free`. -/
structure JeTimer where
  parg : Nat
  active : Bool
  released : Nat
deriving DecidableEq

/-- What happened to a channel: how often it was closed or its timer fired, how often its socket
was closed and its block released, and the sessions that were its `config_session_p`. -/
structure ChannelLedger where
  endings : Nat
  socketsClosed : Nat
  memoryReleased : Nat
  sessions : List Nat
deriving DecidableEq

/-- The Judiciary Engine.  Channels, timers and sessions are numbered in the order of their
allocation. -/
structure MgmtEngine where
  /-- `cm_je_tnsprtchannel_list_g` -/
  tnsprtchannelList : List Nat
  channels : Nat → TnsprtChannel
  nextChannel : Nat
  timers : Nat → JeTimer
  nextTimer : Nat
  nextSession : Nat
  sessionsFreed : Nat → Nat
  ledger : Nat → ChannelLedger
  /-- a null pointer was used -/
  undefined : Bool

/-- The events of the state machine of a session; `beyond` is a value that is none of them. -/
inductive SessionSmEvent where
  | update
  | commit
  | revoke
  | timeout
  | get
  | beyond
deriving DecidableEq

/-- The sub-command of `CM_COMMAND_CONFIG_SESSION_END`; with neither of the two the variable
`event` is read without a value. -/
inductive SessionEndSubCommand where
  | commit
  | revoke
  | unnamed (event : SessionSmEvent)
deriving DecidableEq

/-- The commands that `cm_je_config_session_handler` knows. -/
inductive SessionCommand where
  | start
  | update
  | finish (subCommand : SessionEndSubCommand)
  | get
  | timeout
deriving DecidableEq

/-- The commands of a request: those on sessions, and those that leave the channel alone. -/
inductive RequestCommand where
  | session (command : SessionCommand)
  | other
deriving DecidableEq

/-- Whether there is memory for a result and for a session with its cache, and whether the
handler of the state machine went well. -/
structure SessionOutcomes where
  resultMemory : Bool
  sessionMemory : Bool
  handled : Bool
deriving DecidableEq

/-- `struct cm_result` of the session handler; a session that was started comes with it. -/
inductive SessionResult where
  | success (started : Option Nat)
  | failure
deriving DecidableEq

def cmMaxRequestLen : Nat := 8 * 1024

/-- What a request meets: the two reads of the socket, the allocations, what
`cm_je_prepare_config_request_from_message` makes of the bytes, and the outcomes of the
session handler, for the request and for a closing. -/
structure RequestOutcomes where
  lengthReceived : Bool
  length : Nat
  bufferMemory : Bool
  received : Bool
  requestMemory : Bool
  command : Option RequestCommand
  handling : SessionOutcomes
  copyMemory : Bool
  closing : SessionOutcomes
deriving DecidableEq

namespace MgmtEngine

/-- No channel was accepted. -/
def initial : MgmtEngine where
  tnsprtchannelList := []
  channels := fun _ => { sockFd := 0, sessionTimer := none, configSession := none }
  nextChannel := 0
  timers := fun _ => { parg := 0, active := false, released := 0 }
  nextTimer := 0
  nextSession := 0
  sessionsFreed := fun _ => 0
  ledger := fun _ => { endings := 0, socketsClosed := 0, memoryReleased := 0, sessions := [] }
  undefined := false

def fault (engine : MgmtEngine) : MgmtEngine :=
  { engine with undefined := true }

def setTimer (engine : MgmtEngine) (timer : Nat) (value : JeTimer) : MgmtEngine :=
  { engine with timers := Function.update engine.timers timer value }

def record (engine : MgmtEngine) (channel : Nat) (change : ChannelLedger → ChannelLedger) :
    MgmtEngine :=
  { engine with ledger := Function.update engine.ledger channel (change (engine.ledger channel)) }

/-- A channel is closed, or its timer fires. -/
def noteEnding (engine : MgmtEngine) (channel : Nat) : MgmtEngine :=
  engine.record channel fun ledger => { ledger with endings := ledger.endings + 1 }

/-- `cm_socket_close` on the socket of a channel. -/
def closeSocket (engine : MgmtEngine) (channel : Nat) : MgmtEngine :=
  engine.record channel fun ledger => { ledger with socketsClosed := ledger.socketsClosed + 1 }

/-- `cm_je_tnsprtchannel_free`. -/
def tnsprtchannelFree (engine : MgmtEngine) (channel : Nat) : MgmtEngine :=
  engine.record channel fun ledger => { ledger with memoryReleased := ledger.memoryReleased + 1 }

/-- `cm_je_cfgsession_free`. -/
def cfgsessionFree (engine : MgmtEngine) (session : Nat) : MgmtEngine :=
  { engine with
    sessionsFreed := Function.update engine.sessionsFreed session
      (engine.sessionsFreed session + 1) }

/-- The assignment of `config_session_p`. -/
def setConfigSession (engine : MgmtEngine) (channel : Nat) (session : Option Nat) : MgmtEngine :=
  { engine.record channel fun ledger =>
      { ledger with sessions := ledger.sessions ++ session.toList } with
    channels := Function.update engine.channels channel
      { engine.channels channel with configSession := session } }

/-! ## Timers -/

/-- `cm_timer_create`; without memory the pointer stays null. -/
def cmTimerCreate (engine : MgmtEngine) (memory : Bool) : MgmtEngine × Option Nat :=
  if memory then
    ({ engine with
        timers := Function.update engine.timers engine.nextTimer
          { parg := 0, active := false, released := 0 }
        nextTimer := engine.nextTimer + 1 },
      some engine.nextTimer)
  else (engine, none)

/-- `cm_timer_start`, which refuses a null pointer. -/
def cmTimerStart (engine : MgmtEngine) (timer : Option Nat) (parg : Nat) : MgmtEngine :=
  match timer with
  | none => engine
  | some timer => engine.setTimer timer { engine.timers timer with parg := parg, active := true }

/-- `cm_timer_stop`, which reads the type of the timer first. -/
def cmTimerStop (engine : MgmtEngine) (timer : Option Nat) : MgmtEngine :=
  match timer with
  | none => engine.fault
  | some timer => engine.setTimer timer { engine.timers timer with active := false }

/-- `cm_timer_restart`, which reads the arguments of the start from the timer. -/
def cmTimerRestart (engine : MgmtEngine) (timer : Option Nat) : MgmtEngine :=
  match timer with
  | none => engine.fault
  | some running => engine.cmTimerStart (some running) (engine.timers running).parg

/-- `cm_timer_delete`, the only caller of `cm_timer_free`.  None of the calls below uses it. -/
def cmTimerDelete (engine : MgmtEngine) (timer : Nat) : MgmtEngine :=
  let stopped := engine.cmTimerStop (some timer)
  stopped.setTimer timer
    { stopped.timers timer with released := (stopped.timers timer).released + 1 }

/-! ## The list of channels -/

def cmjeAddTnsprtchannelToList (engine : MgmtEngine) (channel : Nat) : MgmtEngine :=
  { engine with tnsprtchannelList := engine.tnsprtchannelList ++ [channel] }

/-- `cmje_delete_tnsprtchannel_from_list`; `none` when the channel is not there. -/
def cmjeDeleteTnsprtchannelFromList (engine : MgmtEngine) (channel : Nat) :
    Option MgmtEngine :=
  if channel ∈ engine.tnsprtchannelList then
    some { engine with tnsprtchannelList := engine.tnsprtchannelList.erase channel }
  else none

/-- `cmje_get_tnsprtchannel_from_list`: the first channel with the descriptor. -/
def cmjeGetTnsprtchannelFromList (engine : MgmtEngine) (fd : Int) : Option Nat :=
  engine.tnsprtchannelList.find? fun channel => (engine.channels channel).sockFd = fd

/-- `cmje_create_recv_tnsprtchannel`, for the descriptor that `cm_socket_accept` answers.  What
the calls on the timer answer is not looked at. -/
def cmjeCreateRecvTnsprtchannel (engine : MgmtEngine) (newFd : Int)
    (channelMemory timerMemory : Bool) : MgmtEngine :=
  if newFd < 0 then engine
  else if channelMemory then
    let channel := engine.nextChannel
    let (created, timer) := engine.cmTimerCreate timerMemory
    let filled : MgmtEngine :=
      { created with
        channels := Function.update created.channels channel
          { sockFd := newFd, sessionTimer := timer, configSession := none }
        nextChannel := channel + 1 }
    (filled.cmTimerStart timer channel).cmjeAddTnsprtchannelToList channel
  else engine

/-! ## Sessions -/

/-- The handlers of `cm_je_state_machine_table` that release the session when they go well. -/
def releasesSession : SessionSmEvent → Bool
  | .commit | .revoke | .timeout => true
  | _ => false

/-- A call through `cm_je_state_machine_table`. -/
def stateMachine (engine : MgmtEngine) (session : Nat) (event : SessionSmEvent)
    (handled : Bool) : MgmtEngine × SessionResult :=
  if event ≠ .beyond ∧ handled then
    (if releasesSession event then engine.cfgsessionFree session else engine, .success none)
  else (engine, .failure)

/-- The `event` that a command on an open session sets. -/
def smEventOf : SessionCommand → SessionSmEvent
  | .start => .beyond
  | .update => .update
  | .finish .commit => .commit
  | .finish .revoke => .revoke
  | .finish (.unnamed event) => event
  | .get => .get
  | .timeout => .timeout

/-- `cm_je_config_session_handler`; there is no result when there is no memory for it. -/
def cmJeConfigSessionHandler (engine : MgmtEngine) (session : Option Nat)
    (command : SessionCommand) (outcomes : SessionOutcomes) :
    MgmtEngine × Option SessionResult :=
  if outcomes.resultMemory then
    match session with
    | none =>
      if command = .start ∧ outcomes.sessionMemory then
        ({ engine with nextSession := engine.nextSession + 1 },
          some (.success (some engine.nextSession)))
      else (engine, some .failure)
    | some session =>
      if command = .start then (engine, some .failure)
      else
        let (after, result) :=
          engine.stateMachine session (smEventOf command) outcomes.handled
        (after, some result)
  else (engine, none)

/-- `cmje_tnsprtchannel_close_session`, which gets the session and not the channel. -/
def cmjeTnsprtchannelCloseSession (engine : MgmtEngine) (session : Option Nat)
    (outcomes : SessionOutcomes) : MgmtEngine :=
  match session with
  | none => engine
  | some session =>
    (engine.cmJeConfigSessionHandler (some session) (.finish .revoke) outcomes).1

/-! ## Closing -/

def cmjeCloseRecvTnsprtchannel (engine : MgmtEngine) (fd : Int) (outcomes : SessionOutcomes) :
    MgmtEngine :=
  match engine.cmjeGetTnsprtchannelFromList fd with
  | none => engine
  | some channel =>
    let session := (engine.channels channel).configSession
    let closed := (engine.noteEnding channel).cmjeTnsprtchannelCloseSession session outcomes
    let cleared := closed.setConfigSession channel none
    let stopped := cleared.cmTimerStop (engine.channels channel).sessionTimer
    match stopped.cmjeDeleteTnsprtchannelFromList channel with
    | none => stopped
    | some deleted => (deleted.tnsprtchannelFree channel).closeSocket channel

/-- `cmje_tnsprtchannel_timeout`.  Without a session it returns at once; without memory for a
result it returns after the look at the session. -/
def cmjeTnsprtchannelTimeout (engine : MgmtEngine) (channel : Nat)
    (outcomes : SessionOutcomes) : MgmtEngine :=
  let noted := engine.noteEnding channel
  match (engine.channels channel).configSession with
  | none => noted
  | some session =>
    match noted.cmJeConfigSessionHandler (some session) .timeout outcomes with
    | (unhandled, none) => unhandled
    | (handled, some _) =>
      let stopped := handled.cmTimerStop (engine.channels channel).sessionTimer
      match stopped.cmjeDeleteTnsprtchannelFromList channel with
      | none => stopped
      | some deleted => (deleted.closeSocket channel).tnsprtchannelFree channel

/-- The body of the loop in `cm_timer_node_update` for a timer that reached zero. -/
def timerFires (engine : MgmtEngine) (timer : Nat) (outcomes : SessionOutcomes) : MgmtEngine :=
  if (engine.timers timer).active then
    (engine.cmTimerStop (some timer)).cmjeTnsprtchannelTimeout (engine.timers timer).parg outcomes
  else engine

/-! ## Requests -/

/-- The request was read: its length, which is allowed, and its bytes into a buffer. -/
def messageRead (request : RequestOutcomes) : Bool :=
  request.lengthReceived && decide (request.length ≤ cmMaxRequestLen) && request.bufferMemory &&
    request.received

/-- What a command does to the channel; a request has no command for a timeout.  When there is
no memory for the copy of a session that was started, the channel is closed and
`cm_je_free_ucmresult` frees the session once more. -/
def serve (engine : MgmtEngine) (channel : Nat) (command : RequestCommand)
    (request : RequestOutcomes) : MgmtEngine :=
  match command with
  | .other | .session .timeout => engine
  | .session command =>
    let (handled, result) :=
      engine.cmJeConfigSessionHandler (engine.channels channel).configSession command
        request.handling
    match command, result with
    | .start, some (.success (some session)) =>
      let assigned := handled.setConfigSession channel (some session)
      if request.copyMemory then assigned
      else
        (assigned.cmjeCloseRecvTnsprtchannel (engine.channels channel).sockFd
          request.closing).cfgsessionFree session
    | .finish _, some (.success _) => handled.setConfigSession channel none
    | _, _ => handled

def cmJeReadAndProcessConfigRequest (engine : MgmtEngine) (fd : Int)
    (request : RequestOutcomes) : MgmtEngine :=
  match engine.cmjeGetTnsprtchannelFromList fd with
  | none => engine
  | some channel =>
    if messageRead request then
      let restarted := engine.cmTimerRestart (engine.channels channel).sessionTimer
      match request.requestMemory, request.command with
      | true, some command => restarted.serve channel command request
      | _, _ => restarted.cmjeCloseRecvTnsprtchannel fd request.closing
    else engine.cmjeCloseRecvTnsprtchannel fd request.closing

end MgmtEngine

/-! ## Events -/

/-- What happens to the engine. -/
inductive MgmtEvent where
  | accept (newFd : Int) (channelMemory timerMemory : Bool)
  | request (fd : Int) (request : RequestOutcomes)
  | close (fd : Int) (outcomes : SessionOutcomes)
  | closeSession (fd : Int) (outcomes : SessionOutcomes)
  | timerFires (timer : Nat) (outcomes : SessionOutcomes)

/-- The engine after an event. -/
def MgmtEngine.step (engine : MgmtEngine) : MgmtEvent → MgmtEngine
  | .accept newFd channelMemory timerMemory =>
    engine.cmjeCreateRecvTnsprtchannel newFd channelMemory timerMemory
  | .request fd request => engine.cmJeReadAndProcessConfigRequest fd request
  | .close fd outcomes => engine.cmjeCloseRecvTnsprtchannel fd outcomes
  | .closeSession fd outcomes =>
    match engine.cmjeGetTnsprtchannelFromList fd with
    | none => engine
    | some channel =>
      engine.cmjeTnsprtchannelCloseSession (engine.channels channel).configSession outcomes
  | .timerFires timer outcomes => engine.timerFires timer outcomes

end OpenFlowController.Cminfra
