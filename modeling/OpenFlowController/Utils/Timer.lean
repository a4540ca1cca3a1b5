/-
Module: Utils.Timer
Purpose: The timers of all threads: starting, stopping and expiring a timer, and
  the running timers, which are what stopping and expiring take away.
Source: utils/timer.c
Trusted boundary: the wheels are left out, so that any timers of a thread may be in the bucket
  that is due, and no magic number of a safe reference comes round again
-/
import Mathlib

namespace OpenFlowController.Utils

open Function

/-! ## Timer nodes -/

/-- `tmr_saferef`: the place of a node in the table of its thread.  Magic number
zero is that of a zeroed reference. -/
structure TmrSaferef where
  magic : Nat
  threadId : Nat
deriving DecidableEq

def TmrSaferef.zeroed : TmrSaferef where
  magic := 0
  threadId := 0

/-- `tmr_node`.  `callback` stands for `routine_p` with its arguments, `inExpiry` for
`in_expiry_b` of the node's bucket.  `timerStopped` stands for both
`timer_stopped_b` and `periodic_timer_stopped_b`: a periodic timer gets both, or
only the latter just before it is freed. -/
structure TmrNode (α : Type) where
  callback : α
  periodic : Bool
  inExpiry : Bool
  timerExpired : Bool
  timerStopped : Bool
deriving DecidableEq

/-- The node tables of all threads, with the stops each thread was asked for by
others.  Magic numbers below `nextMagic` were handed out. -/
structure Timers (α : Type) where
  nodes : TmrSaferef → Option (TmrNode α)
  nextMagic : Nat
  stopLists : Nat → List TmrSaferef
  handedOut : ∀ ref, nextMagic ≤ ref.magic → nodes ref = none

/-- The return values: `TIMER_SUCCESS`, `TIMER_FAILURE`, and the other errors, which
no caller looks for. -/
inductive TimerStatus where
  | success
  | failure
  | otherError
deriving DecidableEq

namespace Timers

variable {α : Type}

/-- No timers. -/
def init : Timers α where
  nodes := fun _ => none
  nextMagic := 1
  stopLists := fun _ => []
  handedOut := fun _ _ => rfl

/-- A node that is there is changed, or freed. -/
def setNode (timers : Timers α) (ref : TmrSaferef) (node : Option (TmrNode α))
    (present : timers.nodes ref ≠ none) : Timers α :=
  { timers with
    nodes := Function.update timers.nodes ref node
    handedOut := by
      intro other unused
      have different : other ≠ ref := by
        rintro rfl
        exact present (timers.handedOut other unused)
      rw [Function.update_of_ne different]
      exact timers.handedOut other unused }

/-- `timer_create_and_start` on a thread, when nothing it allocates is missing. -/
def timerCreateAndStart (timers : Timers α) (thread : Nat) (periodic : Bool) (callback : α) :
    Timers α × TmrSaferef :=
  let ref : TmrSaferef := { magic := timers.nextMagic, threadId := thread }
  ({ timers with
      nodes :=
        Function.update timers.nodes ref
          (some
            { callback := callback
              periodic := periodic
              inExpiry := false
              timerExpired := false
              timerStopped := false })
      nextMagic := timers.nextMagic + 1
      handedOut := by
        intro other unused
        have different : other ≠ ref := by
          rintro rfl
          exact absurd unused (Nat.not_succ_le_self _)
        rw [Function.update_of_ne different]
        exact timers.handedOut other (Nat.le_of_succ_le unused) }, ref)

/-- The part of `timer_stop_tmr` for a timer of the calling thread.  A node of the
bucket that is just expiring is only marked. -/
def stopOwn (timers : Timers α) (ref : TmrSaferef) : Timers α × TimerStatus :=
  match found : timers.nodes ref with
  | none => (timers, .failure)
  | some node =>
    have present : timers.nodes ref ≠ none := by simp [found]
    if node.timerExpired && !node.periodic then
      (timers, .success)
    else if node.inExpiry then
      (timers.setNode ref (some { node with timerStopped := true }) present, .success)
    else
      (timers.setNode ref none present, .success)

/-- `timer_stop_tmr` on a thread.  A timer of another thread is left to that thread,
if `mempool_get_mem_block` has a block for the request. -/
def timerStopTmr (timers : Timers α) (thread : Nat) (ref : TmrSaferef) (allocated : Bool) :
    Timers α × TimerStatus :=
  if ref.magic = 0 then
    (timers, .otherError)
  else if ref.threadId = thread then
    timers.stopOwn ref
  else if allocated then
    ({ timers with
        stopLists :=
          Function.update timers.stopLists ref.threadId (timers.stopLists ref.threadId ++ [ref]) },
      .success)
  else
    (timers, .failure)

/-! ## A pass of `timer_process_timers` -/

/-- `tmr_deque_stop`, at the start of a thread's pass. -/
def tmrDequeStop (timers : Timers α) (thread : Nat) : Timers α :=
  (timers.stopLists thread).foldl (fun timers ref => (timers.timerStopTmr thread ref true).1)
    { timers with stopLists := Function.update timers.stopLists thread [] }

/-- A bucket with these timers of the thread is due. -/
def bucketInExpiry (timers : Timers α) (thread : Nat) (bucket : List TmrSaferef) : Timers α :=
  { timers with
    nodes := fun ref =>
      if ref ∈ bucket ∧ ref.threadId = thread then
        (timers.nodes ref).map fun node => { node with inExpiry := true }
      else
        timers.nodes ref
    handedOut := by
      intro ref unused
      simp [timers.handedOut ref unused] }

/-- `timer_expired_b` is set before the callback is called. -/
def beforeCallback (timers : Timers α) (ref : TmrSaferef) : Timers α :=
  match found : timers.nodes ref with
  | none => timers
  | some node =>
    timers.setNode ref (some { node with timerExpired := true }) (by simp [found])

/-- What follows the callback of `node`: a periodic timer that was not stopped
meanwhile is put into another bucket, every other one is freed. -/
def afterCallback (timers : Timers α) (ref : TmrSaferef) (node : TmrNode α) : Timers α :=
  match found : timers.nodes ref with
  | none => timers
  | some current =>
    have present : timers.nodes ref ≠ none := by simp [found]
    if node.periodic && !current.timerStopped then
      timers.setNode ref (some { current with inExpiry := false }) present
    else
      timers.setNode ref none present

/-! ## Running timers -/

end Timers

/-- Nothing keeps the node's callback from being called again. -/
def TmrNode.runs {α : Type} (node : TmrNode α) : Bool :=
  !node.timerStopped && !(node.timerExpired && !node.periodic)

namespace Timers

variable {α : Type}

/-- The timers whose callbacks are still to be called, each with its callback. -/
def running (timers : Timers α) (ref : TmrSaferef) : Option α :=
  match timers.nodes ref with
  | none => none
  | some node => if node.runs then some node.callback else none

/-- A timer that is taken away from the running ones. -/
def withoutTimer (running : TmrSaferef → Option α) (gone : TmrSaferef) : TmrSaferef → Option α :=
  Function.update running gone none

attribute [local simp] withoutTimer

variable {running : TmrSaferef → Option α} {callback : α}

theorem withoutTimer_eq_some {gone ref : TmrSaferef} :
    withoutTimer running gone ref = some callback ↔
      running ref = some callback ∧ ref ≠ gone := by
  by_cases same : ref = gone
  · subst same
    simp
  · simp [same]

theorem withoutTimer_of_none {gone : TmrSaferef} (none : running gone = none) :
    withoutTimer running gone = running := by
  funext ref
  by_cases same : ref = gone
  · subst same
    simp [none]
  · simp [same]

variable {timers : Timers α} {ref : TmrSaferef}

theorem running_unused (unused : timers.nextMagic ≤ ref.magic) : timers.running ref = none := by
  simp [running, timers.handedOut ref unused]

variable (node : Option (TmrNode α))

@[simp]
theorem setNode_nodes (present : timers.nodes ref ≠ none) :
    (timers.setNode ref node present).nodes = update timers.nodes ref node :=
  rfl

theorem running_setNode (present : timers.nodes ref ≠ none) :
    (timers.setNode ref node present).running =
      update timers.running ref
        (node.bind fun node => if node.runs then some node.callback else none) := by
  funext other
  by_cases same : other = ref
  · subst same
    cases node with
    | none => simp [running, setNode]
    | some node => simp [running, setNode]
  · simp [running, setNode, same]

theorem running_stopOwn : (timers.stopOwn ref).1.running = withoutTimer timers.running ref := by
  unfold stopOwn
  split
  case h_1 found =>
    exact (withoutTimer_of_none (by simp [running, found])).symm
  case h_2 node found =>
  by_cases delivered : (node.timerExpired && !node.periodic) = true
  · simp only [delivered, if_true]
    exact (withoutTimer_of_none (by simp [running, found, TmrNode.runs, delivered])).symm
  · by_cases expiring : node.inExpiry = true
    · simp [delivered, expiring, running_setNode, TmrNode.runs]
    · simp [delivered, expiring, running_setNode]

variable (thread : Nat)

theorem running_timerStopTmr (allocated : Bool) :
    (timers.timerStopTmr thread ref allocated).1.running =
      if ref.magic ≠ 0 ∧ ref.threadId = thread then
        withoutTimer timers.running ref
      else
        timers.running := by
  unfold timerStopTmr
  by_cases zeroed : ref.magic = 0
  · simp [zeroed]
  by_cases own : ref.threadId = thread
  · simp [zeroed, own, running_stopOwn]
  · cases allocated with
    | true => simp [zeroed, own]; rfl
    | false => simp [zeroed, own]

theorem running_of_timerStopTmr {thread : Nat} {allocated : Bool} {stopped : TmrSaferef}
    (runs : (timers.timerStopTmr thread stopped allocated).1.running ref = some callback) :
    timers.running ref = some callback := by
  rw [running_timerStopTmr] at runs
  split at runs
  · exact (withoutTimer_eq_some.mp runs).1
  · exact runs

theorem running_of_tmrDequeStop {thread : Nat}
    (runs : (timers.tmrDequeStop thread).running ref = some callback) :
    timers.running ref = some callback := by
  have each : ∀ (stops : List TmrSaferef) (timers : Timers α),
      (stops.foldl (fun timers ref => (timers.timerStopTmr thread ref true).1) timers).running ref =
        some callback → timers.running ref = some callback := by
    intro stops
    induction stops with
    | nil =>
      intro timers runs
      exact runs
    | cons stop rest ih =>
      intro timers runs
      exact running_of_timerStopTmr (ih _ runs)
  exact each (timers.stopLists thread)
    { timers with stopLists := update timers.stopLists thread [] } runs

theorem running_timerCreateAndStart (periodic : Bool) (callback : α) :
    (timers.timerCreateAndStart thread periodic callback).1.running =
      update timers.running
        (timers.timerCreateAndStart thread periodic callback).2 (some callback) := by
  funext other
  by_cases same : other = (timers.timerCreateAndStart thread periodic callback).2
  · subst same
    simp [timerCreateAndStart, running, TmrNode.runs]
  · simp only [Function.update_of_ne same]
    simp only [timerCreateAndStart] at same ⊢
    simp [running, same]

@[simp]
theorem running_bucketInExpiry (bucket : List TmrSaferef) :
    (timers.bucketInExpiry thread bucket).running = timers.running := by
  funext other
  by_cases due : other ∈ bucket ∧ other.threadId = thread
  · cases found : timers.nodes other with
    | none => simp [running, bucketInExpiry, found]
    | some node => simp [running, bucketInExpiry, found, due, TmrNode.runs]
  · simp [running, bucketInExpiry, due]

/-- Before its callback a one-shot timer no longer runs. -/
theorem running_beforeCallback {node : TmrNode α} (found : timers.nodes ref = some node) :
    (timers.beforeCallback ref).running =
      if node.periodic then timers.running else withoutTimer timers.running ref := by
  have begun : (timers.beforeCallback ref).running =
      update timers.running ref
        (if node.runs && node.periodic then some node.callback else none) := by
    unfold beforeCallback
    split
    case h_1 absent =>
      rw [found] at absent
      cases absent
    case h_2 other foundOther =>
    rw [found] at foundOther
    cases foundOther
    rw [running_setNode]
    congr 1
    cases periodic : node.periodic with
    | true => simp [TmrNode.runs, periodic]
    | false => simp [TmrNode.runs, periodic]
  rw [begun]
  cases periodic : node.periodic with
  | true =>
    funext other
    by_cases same : other = ref
    · subst same
      simp [running, found]
    · simp [same]
  | false => simp

/-- After its callback a one-shot timer no longer runs. -/
theorem running_afterCallback (node : TmrNode α) (kept : ∀ current,
      timers.nodes ref = some current → current.periodic = node.periodic) :
    (timers.afterCallback ref node).running =
      if node.periodic then timers.running else withoutTimer timers.running ref := by
  unfold afterCallback
  split
  case h_1 absent =>
    have none : timers.running ref = none := by simp [running, absent]
    rw [withoutTimer_of_none none, ite_self]
  case h_2 current found =>
  have same := kept current found
  cases periodic : node.periodic with
  | false => simp [running_setNode]
  | true =>
  cases stopped : current.timerStopped with
  | false =>
    rw [if_pos (by rfl), running_setNode]
    funext other
    by_cases here : other = ref
    · subst here
      simp [running, found, TmrNode.runs, stopped, same]
    · simp [here]
  | true =>
  rw [if_neg (by simp), running_setNode]
  funext other
  by_cases here : other = ref
  · subst here
    simp [running, found, TmrNode.runs, stopped]
  · simp [here]

/-! ## What a callback leaves of the nodes -/

/-- Every node that was handed out in `timers` and is there in `timers'` was there in
`timers`, is as periodic as it was and runs only if it ran. -/
def NodesFrom (timers timers' : Timers α) : Prop :=
  timers.nextMagic ≤ timers'.nextMagic ∧
    ∀ ref node', ref.magic < timers.nextMagic → timers'.nodes ref = some node' →
      ∃ node, timers.nodes ref = some node ∧ node'.periodic = node.periodic ∧
        (node'.runs = true → node.runs = true)

namespace NodesFrom

theorem refl : NodesFrom timers timers :=
  ⟨Nat.le_refl _, fun _ node' _ found => ⟨node', found, rfl, id⟩⟩

theorem trans {timers' timers'' : Timers α} (first : NodesFrom timers timers')
    (second : NodesFrom timers' timers'') : NodesFrom timers timers'' := by
  refine ⟨Nat.le_trans first.1 second.1, ?_⟩
  intro ref node'' old found
  rcases second.2 ref node'' (Nat.lt_of_lt_of_le old first.1) found with
    ⟨node', found', same', runs'⟩
  rcases first.2 ref node' old found' with ⟨node, found, same, runs⟩
  exact ⟨node, found, same'.trans same, runs ∘ runs'⟩

theorem setNode {current : TmrNode α} (found : timers.nodes ref = some current)
    (node : Option (TmrNode α)) (present : timers.nodes ref ≠ none)
    (same : ∀ node', node = some node' → node'.periodic = current.periodic ∧
      (node'.runs = true → current.runs = true)) :
    NodesFrom timers (timers.setNode ref node present) := by
  refine ⟨Nat.le_refl _, ?_⟩
  intro other node' _ found'
  by_cases here : other = ref
  · subst here
    have changed : node = some node' := by simpa using found'
    exact ⟨current, found, same node' changed⟩
  · exact ⟨node', by simpa [here] using found', rfl, id⟩

theorem stopOwn : NodesFrom timers (timers.stopOwn ref).1 := by
  unfold Timers.stopOwn
  split
  case h_1 => exact refl
  case h_2 node found =>
  by_cases delivered : (node.timerExpired && !node.periodic) = true
  · simp only [delivered, if_true]
    exact refl
  by_cases expiring : node.inExpiry = true
  · rw [if_neg delivered, if_pos expiring]
    refine setNode found _ (by simp [found]) ?_
    rintro _ ⟨⟩
    exact ⟨rfl, by simp [TmrNode.runs]⟩
  · rw [if_neg delivered, if_neg expiring]
    exact setNode found none (by simp [found]) (by rintro _ ⟨⟩)

theorem timerStopTmr (thread : Nat) (allocated : Bool) :
    NodesFrom timers (timers.timerStopTmr thread ref allocated).1 := by
  unfold Timers.timerStopTmr
  by_cases zeroed : ref.magic = 0
  · simp only [zeroed, if_true]
    exact refl
  by_cases own : ref.threadId = thread
  · simp only [zeroed, own, if_true, if_false]
    exact stopOwn
  cases allocated with
  | true =>
    simp only [zeroed, own, if_true, if_false]
    exact ⟨Nat.le_refl _, fun _ node' _ found => ⟨node', found, rfl, id⟩⟩
  | false =>
    simp only [zeroed, own, if_false]
    exact refl

theorem tmrDequeStop {thread : Nat} : NodesFrom timers (timers.tmrDequeStop thread) := by
  have each : ∀ (stops : List TmrSaferef) (timers : Timers α), NodesFrom timers
      (stops.foldl (fun timers ref => (timers.timerStopTmr thread ref true).1) timers) := by
    intro stops
    induction stops with
    | nil =>
      intro timers
      exact refl
    | cons stop rest ih =>
      intro timers
      exact (timerStopTmr thread true).trans (ih _)
  exact each (timers.stopLists thread)
    { timers with stopLists := update timers.stopLists thread [] }

theorem timerCreateAndStart (thread : Nat) (periodic : Bool) (callback : α) :
    NodesFrom timers (timers.timerCreateAndStart thread periodic callback).1 := by
  refine ⟨Nat.le_succ _, ?_⟩
  intro ref node' old found
  have different : ref ≠ { magic := timers.nextMagic, threadId := thread } := by
    rintro rfl
    exact absurd old (Nat.lt_irrefl _)
  simp only [Timers.timerCreateAndStart, Function.update_of_ne different] at found
  exact ⟨node', found, rfl, id⟩

theorem nextMagic_beforeCallback : (timers.beforeCallback ref).nextMagic = timers.nextMagic := by
  unfold Timers.beforeCallback
  split <;> rfl

theorem nextMagic_afterCallback (node : TmrNode α) :
    (timers.afterCallback ref node).nextMagic = timers.nextMagic := by
  unfold Timers.afterCallback
  split
  · rfl
  · dsimp only
    split <;> rfl

theorem running_afterCallback {timers' : Timers α} {node : TmrNode α}
    (frame : NodesFrom (timers.beforeCallback ref) timers')
    (found : timers.nodes ref = some node) :
    (timers'.afterCallback ref node).running = timers'.running := by
  have begun : (timers.beforeCallback ref).nodes ref =
      some { node with timerExpired := true } := by
    unfold Timers.beforeCallback
    split
    case h_1 absent =>
      rw [found] at absent
      cases absent
    case h_2 other foundOther =>
      rw [found] at foundOther
      cases foundOther
      simp
  have old : ref.magic < (timers.beforeCallback ref).nextMagic := by
    by_contra unused
    rw [(timers.beforeCallback ref).handedOut ref (Nat.le_of_not_lt unused)] at begun
    cases begun
  have kept : ∀ current, timers'.nodes ref = some current → current.periodic = node.periodic := by
    intro current foundCurrent
    rcases frame.2 ref current old foundCurrent with ⟨other, foundOther, same, _⟩
    rw [begun] at foundOther
    cases foundOther
    exact same
  rw [Timers.running_afterCallback node kept]
  cases periodic : node.periodic with
  | true => rfl
  | false =>
  refine withoutTimer_of_none ?_
  cases foundCurrent : timers'.nodes ref with
  | none => simp [Timers.running, foundCurrent]
  | some current =>
  rcases frame.2 ref current old foundCurrent with ⟨other, foundOther, _, runs⟩
  rw [begun] at foundOther
  cases foundOther
  have stopped : current.runs ≠ true := by
    intro running
    simpa [TmrNode.runs, periodic] using runs running
  simp [Timers.running, foundCurrent, stopped]

end NodesFrom

end Timers

end OpenFlowController.Utils
