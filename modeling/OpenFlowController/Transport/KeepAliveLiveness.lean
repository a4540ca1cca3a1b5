/-
Module: Transport.KeepAliveLiveness
Purpose: A bound channel over the periods of its keep-alive timer: when a silent switch is
  found out, and that one that answers is not given up.
Source: ofproto/src/transport/base/trnsprt_msg.c 509-591; ofproto/src/messages/of_cntlr_msg.c
  3651-3680; ofproto/src/coreapp/cntlr_app.c 1393-1429; ofproto/src/include/cntlr_transprt.h 60-62
Trusted boundary: the response timer, of 5 seconds, expires before the keep-alive timer, of 60
  seconds, does so again
-/
import OpenFlowController.Transport.KeepAlive

namespace OpenFlowController.Transport

namespace KeepAlive

/-! ## Periods -/

/-- What is received for a channel: a message with a handler, by `of_process_dp_message`, or the
callback of an echo reply. -/
inductive Receipt where
  | message
  | echoReply

/-- One period of the keep-alive timer: what is received before it expires, the echo request, and
what is received before the response timer expires, where that was started. -/
structure Period where
  before : List Receipt
  echo : EchoOutcome
  answers : List Receipt
  closing : DetachOutcomes

def receive (channel : Nat) (system : KeepAlive) : Receipt → KeepAlive
  | .message => system.ofProcessDpMessage channel
  | .echoReply => system.cntlrEchoReplyClbkFn channel

/-- A period up to the expiry of the response timer. -/
def untilCheck (system : KeepAlive) (channel thread : Nat) (period : Period) : KeepAlive :=
  period.answers.foldl (receive channel)
    ((period.before.foldl (receive channel) system).ofTransprtSendKeepAliveMsg channel thread
      period.echo)

/-- The response timer was started. -/
def EchoOutcome.awaited : EchoOutcome → Bool
  | .sent _ .started => true
  | _ => false

/-- `of_transprt_check_keepalive_response_msg` raises the CLOSE event in this period. -/
def raisesClose (system : KeepAlive) (channel thread : Nat) (period : Period) : Bool :=
  EchoOutcome.awaited period.echo &&
    ((system.untilCheck channel thread period).channels channel).keepAliveFailed

/-- A whole period. -/
def runPeriod (channel thread : Nat) (system : KeepAlive) (period : Period) : KeepAlive :=
  let checking := system.untilCheck channel thread period
  if EchoOutcome.awaited period.echo then
    checking.ofTransprtCheckKeepaliveResponseMsg channel thread period.closing
  else
    checking

/-- The CLOSE event is raised in one of the periods. -/
def closes (channel thread : Nat) : KeepAlive → List Period → Bool
  | _, [] => false
  | system, period :: periods =>
    system.raisesClose channel thread period ||
      closes channel thread (system.runPeriod channel thread period) periods

/-! ## What should hold -/

/-- For a switch that is silent from now on the CLOSE event is raised within six periods, and for
one that answers every echo request in time it is not raised. -/
structure LivenessChecked (system : KeepAlive) (channel thread : Nat) (periods : List Period) :
    Prop where
  silent : 6 ≤ periods.length → (∀ period ∈ periods, period.before = [] ∧ period.answers = []) →
    closes channel thread system (periods.take 6) = true
  answered : (∀ period ∈ periods, .message ∈ period.answers) →
    closes channel thread system periods = false

/-- The echo request of the period goes out on the channel, and the response timer starts. -/
def Period.Fits (period : Period) (channel : Nat) : Prop := period.echo = .sent channel .started

/-! ## One period -/

variable {system : KeepAlive} {channel thread : Nat} {period : Period}

@[simp]
theorem setChannel_own (info : KeepAliveChannel) :
    (system.setChannel channel info).channels channel = info := by
  simp [setChannel]

theorem respRcvd_or (state : UInt8) :
    (state ||| keepAliveMsgRespRcvd) &&& keepAliveMsgRespRcvd ≠ 0 := by
  have kept : (state ||| keepAliveMsgRespRcvd) &&& keepAliveMsgRespRcvd = keepAliveMsgRespRcvd := by
    apply UInt8.toBitVec_inj.mp
    rw [UInt8.toBitVec_and, UInt8.toBitVec_or]
    ext bit
    simp
    grind
  rw [kept]
  decide

theorem receive_channel (receipt : Receipt) :
    ∃ state, (system.receive channel receipt).channels channel =
        { system.channels channel with keepAliveState := state } ∧
      (state &&& keepAliveMsgRespRcvd ≠ 0 ∨
        state = (system.channels channel).keepAliveState ∧
          (receipt = .message → state ≠ keepAliveMsgSent)) := by
  cases receipt with
  | message =>
    unfold receive ofProcessDpMessage
    dsimp only
    split
    case isTrue waits => exact ⟨_, setChannel_own _, .inl (respRcvd_or _)⟩
    case isFalse other => exact ⟨_, rfl, .inr ⟨rfl, fun _ => other⟩⟩
  | echoReply =>
    unfold receive cntlrEchoReplyClbkFn
    dsimp only
    split
    · exact ⟨_, setChannel_own _, .inl (respRcvd_or _)⟩
    · exact ⟨_, rfl, .inr ⟨rfl, by simp⟩⟩

theorem receive_foldl (receipts : List Receipt) (system : KeepAlive) :
    ∃ state, (receipts.foldl (receive channel) system).channels channel =
        { system.channels channel with keepAliveState := state } ∧
      (state &&& keepAliveMsgRespRcvd ≠ 0 ∨
        state = (system.channels channel).keepAliveState ∧
          (.message ∈ receipts → state ≠ keepAliveMsgSent)) := by
  induction receipts generalizing system with
  | nil => exact ⟨_, rfl, .inr ⟨rfl, by simp⟩⟩
  | cons receipt receipts ih =>
  obtain ⟨state, received, change⟩ := @receive_channel system channel receipt
  obtain ⟨last, rest, restChange⟩ := ih (system.receive channel receipt)
  rw [received] at rest restChange
  exact ⟨last, rest, by grind⟩

theorem ofTransprtSendKeepAliveMsg_channel
    (bound : (system.channels channel).info.datapath ≠ none) :
    let sent := (system.ofTransprtSendKeepAliveMsg channel thread (.sent channel
      .started)).channels channel
    sent.info = (system.channels channel).info ∧ sent.keepAliveState = keepAliveMsgSent ∧
      sent.uiKeepAliveCount = (system.channels channel).uiKeepAliveCount + 1 := by
  obtain ⟨datapath, path⟩ := Option.ne_none_iff_exists'.mp bound
  simp [ofTransprtSendKeepAliveMsg, path, startKeepaliveResptimer, startTimer, setKeepAliveState,
    countEcho, setTimers]

/-- What the channel holds when its answer is checked. -/
theorem untilCheck_channel (bound : (system.channels channel).info.datapath ≠ none)
    (fits : period.Fits channel) :
    let checking := (system.untilCheck channel thread period).channels channel
    checking.info = (system.channels channel).info ∧
      checking.uiKeepAliveCount = (system.channels channel).uiKeepAliveCount + 1 ∧
      (.message ∈ period.answers → checking.keepAliveState &&& keepAliveMsgRespRcvd ≠ 0) ∧
      (period.answers = [] → checking.keepAliveState = keepAliveMsgSent) := by
  obtain ⟨before, learnt, -⟩ := @receive_foldl channel period.before system
  unfold untilCheck
  rw [fits]
  generalize period.before.foldl (receive channel) system = heard at learnt
  obtain ⟨info, state, count⟩ := @ofTransprtSendKeepAliveMsg_channel heard channel thread
    (by rwa [learnt])
  generalize heard.ofTransprtSendKeepAliveMsg channel thread (.sent channel .started) = sent
    at info state count
  obtain ⟨last, received, change⟩ := @receive_foldl channel period.answers sent
  rw [learnt] at info count
  dsimp only
  refine ⟨by rw [received]; exact info, by rw [received]; exact count, fun answer => ?_, ?_⟩
  · rw [received]
    exact change.resolve_right fun still => still.2 answer (still.1.trans state)
  · intro none
    rw [none]
    exact state

theorem runPeriod_channel (bound : (system.channels channel).info.datapath ≠ none)
    (fits : period.Fits channel) (kept : system.raisesClose channel thread period = false) :
    let after := (system.runPeriod channel thread period).channels channel
    after.info = (system.channels channel).info ∧
      (period.answers = [] →
        after.uiKeepAliveCount = (system.channels channel).uiKeepAliveCount + 1) := by
  obtain ⟨info, count, -, silent⟩ := @untilCheck_channel system channel thread period bound fits
  unfold raisesClose at kept
  unfold runPeriod ofTransprtCheckKeepaliveResponseMsg
  rw [fits] at kept ⊢
  change ((system.untilCheck channel thread period).channels channel).keepAliveFailed = false at kept
  generalize system.untilCheck channel thread period = checking at *
  dsimp only
  rw [if_pos (show EchoOutcome.awaited (.sent channel .started) = true from rfl), kept,
    if_neg Bool.false_ne_true]
  split
  · exact ⟨info, fun _ => count⟩
  · rw [setChannel_own]
    refine ⟨info, fun none => ?_⟩
    rw [KeepAliveChannel.checked, silent none]
    exact count

theorem raisesClose_silent (bound : (system.channels channel).info.datapath ≠ none)
    (fits : period.Fits channel) (silent : period.answers = []) :
    system.raisesClose channel thread period =
      decide (4 < (system.channels channel).uiKeepAliveCount + 1) := by
  obtain ⟨-, count, -, sent⟩ := @untilCheck_channel system channel thread period bound fits
  unfold raisesClose KeepAliveChannel.keepAliveFailed
  rw [fits, count, sent silent]
  rfl

/-! ## Runs of periods -/

variable {periods : List Period}

theorem closes_false (bound : (system.channels channel).info.datapath ≠ none)
    (fits : ∀ period ∈ periods, period.Fits channel)
    (silent : ∀ period ∈ periods, period.answers = [])
    (kept : closes channel thread system periods = false) :
    ∀ done < periods.length,
      ((system.channels channel).uiKeepAliveCount.toNat + 1 + done) % 2 ^ 32 ≤ 4 := by
  induction periods generalizing system with
  | nil => exact fun done less => absurd less (Nat.not_lt_zero done)
  | cons period periods ih =>
  obtain ⟨fit, fits⟩ := List.forall_mem_cons.mp fits
  obtain ⟨first, silent⟩ := List.forall_mem_cons.mp silent
  obtain ⟨low, kept⟩ := Bool.or_eq_false_iff.mp kept
  obtain ⟨info, counted⟩ := runPeriod_channel bound fit low
  rw [raisesClose_silent bound fit first, decide_eq_false_iff_not, UInt32.not_lt,
    UInt32.le_iff_toNat_le, UInt32.toNat_add] at low
  rintro (_ | done) less
  · exact low
  · have next := ih (by rwa [info]) fits silent kept done (Nat.lt_of_succ_lt_succ less)
    rw [counted first, UInt32.toNat_add] at next
    change ((_ + 1) % 2 ^ 32 + 1 + done) % 2 ^ 32 ≤ 4 at next
    omega

/-- A bound channel whose echo requests all go out is checked as it should. -/
theorem livenessChecked (bound : (system.channels channel).info.datapath ≠ none)
    (fits : ∀ period ∈ periods, period.Fits channel) :
    LivenessChecked system channel thread periods := by
  constructor
  case silent =>
    intro length silent
    by_contra kept
    have low := closes_false bound (fun _ member => fits _ (List.mem_of_mem_take member))
      (fun _ member => (silent _ (List.mem_of_mem_take member)).2) (Bool.eq_false_iff.mpr kept)
    rw [List.length_take_of_le length] at low
    -- six counts in a row are not all four at most, even where the count wraps around
    have first := low 0 (by decide)
    have last := low 5 (by decide)
    have inside := UInt32.toNat_lt (system.channels channel).uiKeepAliveCount
    omega
  case answered =>
    intro answered
    induction periods generalizing system with
    | nil => rfl
    | cons period periods ih =>
    obtain ⟨fit, fits⟩ := List.forall_mem_cons.mp fits
    obtain ⟨answer, answered⟩ := List.forall_mem_cons.mp answered
    obtain ⟨-, -, answers, -⟩ := @untilCheck_channel system channel thread period bound fit
    have kept : system.raisesClose channel thread period = false := by
      simp [raisesClose, KeepAliveChannel.keepAliveFailed, answers answer]
    rw [closes, kept, Bool.false_or]
    exact ih (by rwa [(runPeriod_channel bound fit kept).1]) fits answered

/-- A channel that has just been attached. -/
def oneBound : KeepAlive :=
  create.setChannel 0
    { KeepAliveChannel.zeroed with
      info := { KeepAliveChannel.zeroed.info with fsmState := .boundToDp, datapath := some 0 }
      keepAliveState := keepAliveMsgReadToSend }

/-- Six periods in which nothing is received. -/
def silentPeriods (echo : EchoOutcome) : List Period :=
  List.replicate 6 ⟨[], echo, [], ⟨true, true, true⟩⟩

/-- A silent switch is given up. -/
theorem livenessChecked_oneBound :
    LivenessChecked oneBound 0 1 (silentPeriods (.sent 0 .started)) :=
  livenessChecked (by simp [oneBound])
    fun _ member => by rw [List.eq_of_mem_replicate member, Period.Fits]

/-- A silent switch is never given up when no echo request can be sent. -/
theorem unsent_echo_never_closes :
    ¬ LivenessChecked oneBound 0 1 (silentPeriods (.notSent none)) := by
  intro checked
  have raised := checked.silent (by decide) fun _ member => by
    rw [List.eq_of_mem_replicate member]
    exact ⟨rfl, rfl⟩
  cases raised

end KeepAlive

end OpenFlowController.Transport
