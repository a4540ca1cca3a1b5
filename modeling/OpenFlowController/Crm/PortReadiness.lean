/-
Module: Crm.PortReadiness
Purpose: Along runs of port notifications a CRM port is ready exactly when the switch has
  numbered it, and the subscribers hear of every change and of nothing else, as long as a
  port comes up only when it is not ready and goes down only with its own number; every call
  that notifies leaves the read lock taken.
Trusted boundary: none
-/
import OpenFlowController.Crm.PortStatus
import OpenFlowController.Library.Run

namespace OpenFlowController.Crm

open Library List Function Option
open Nsrm (BlockPool Name Registry)
open Utils

/-! ## What the switch reports -/

/-- The numbers last reported for the names and not deleted since.  The number 0 is no
number. -/
def recordReport (state : CrmPortSystem) (reported : Name → Option UInt32) :
    PortEvent → Name → Option UInt32
  | .crmPortStatus config block (.present _ portId) _ _ =>
    if (state.addPort config block).isSome ∧ portId ≠ 0 then
      Function.update reported config.portName (some portId)
    else reported
  | .crmPortStatus _ _ _ _ _ => reported
  | .dpPortAdded portName _ portId _ =>
    if portId ≠ 0 then Function.update reported portName (some portId) else reported
  | .dpPortDescUpdate portName _ portId _ =>
    if portId ≠ 0 then Function.update reported portName (some portId) else reported
  | .dpPortDelete portName _ portId _ =>
    if portId ≠ 0 ∧ reported portName = some portId then
      Function.update reported portName none
    else reported

/-- The system, and what was reported so far. -/
structure PortRun where
  state : CrmPortSystem
  reported : Name → Option UInt32

def PortRun.step (run : PortRun) (event : PortEvent) : PortRun where
  state := (applyPortEvent run.state event).1
  reported := recordReport run.state run.reported event

/-- The port that an event is about. -/
def PortEvent.portName : PortEvent → Name
  | .crmPortStatus config _ _ _ _ => config.portName
  | .dpPortAdded portName _ _ _ => portName
  | .dpPortDescUpdate portName _ _ _ => portName
  | .dpPortDelete portName _ _ _ => portName

/-- The number that an update of a description reports. -/
def PortEvent.updatesTo : PortEvent → Option UInt32
  | .dpPortDescUpdate _ _ portId _ => some portId
  | _ => none

/-- The port of a name. -/
def CrmPortSystem.portAt (state : CrmPortSystem) (portName : Name) : Option CrmPort :=
  (state.portNamed portName).map (fun entry => state.ports.objects entry.node)

/-- The number of a port that is ready. -/
def CrmPort.readyId (port : CrmPort) : Option UInt32 :=
  if port.portStatus = systemPortReady then some port.portId else none

/-- A CRM port is ready exactly when it has a number that is the last one reported for its
name and not deleted since. -/
structure FollowsSwitch (run : PortRun) : Prop where
  defined : run.state.undefined = false
  ready : ∀ entry ∈ run.state.ports.table.linked,
    (run.state.ports.objects entry.node).portStatus = systemPortReady ↔
      (run.state.ports.objects entry.node).portId ≠ 0 ∧
        run.reported (run.state.ports.objects entry.node).config.portName =
          some (run.state.ports.objects entry.node).portId

/-- What the subscribers are to hear when the number of a ready port changes, and when an
update reports the number that it has: the type, the old number and the new one. -/
def expectedNotification (updatesTo before after : Option UInt32) :
    Option (UInt32 × UInt32 × UInt32) :=
  match before, after with
  | none, none => none
  | none, some new => some (crmPortAdded, 0, new)
  | some old, none => some (crmPortDelete, 0, old)
  | some old, some new =>
    if old ≠ new then some (crmPortModified, old, new)
    else if updatesTo = some old then some (crmPortAdded, 0, old)
    else none

/-- The notification that an event is to give. -/
def PortRun.expected (run : PortRun) (event : PortEvent) : Option (UInt32 × UInt32 × UInt32) :=
  expectedNotification event.updatesTo ((run.state.portAt event.portName).bind CrmPort.readyId)
    (((run.step event).state.portAt event.portName).bind CrmPort.readyId)

/-- The subscribers of the expected type and those of all types are called with the data of
the port, and nobody where nothing is expected. -/
def NotifiesRight (run : PortRun) (event : PortEvent) : Prop :=
  match run.expected event with
  | none => (applyPortEvent run.state event).2 = []
  | some (notificationType, old, new) =>
    ∃ port, (run.step event).state.portAt event.portName = some port ∧
      (applyPortEvent run.state event).2 =
        (run.state.subscribers notificationType ++
            run.state.subscribers crmVnAllNotifications).map (fun subscriber =>
          { subscriber := subscriber
            notificationType := notificationType
            data := { port.notificationData with oldPortId := old, newPortId := new } })

/-- The depth of the read lock is the same after the event. -/
def LockBalanced (run : PortRun) (event : PortEvent) : Prop :=
  (run.step event).state.readDepth = run.state.readDepth

/-- When an event does what it is to do, but for the lock: a CRM port is added under a new
name and the datapath either has numbered it or does not have it, a port that comes up is not
ready, and one that goes down has the number that is reported. -/
def PortEvent.Meets (run : PortRun) : PortEvent → Prop
  | .crmPortStatus config block dprmPort _ _ =>
    (run.state.pool.get block).isSome →
      run.state.portAt config.portName = none ∧
        (dprmPort = .absent ∨ ∃ portHandle portId, dprmPort = .present portHandle portId ∧
          portId ≠ 0)
  | .dpPortAdded portName _ portId _ =>
    portId ≠ 0 → ∀ port, run.state.portAt portName = some port → port.portId = 0
  | .dpPortDescUpdate _ _ _ _ => True
  | .dpPortDelete portName _ portId _ =>
    portId ≠ 0 → ∀ port, run.state.portAt portName = some port → port.portId = portId

/-- Nobody is to hear of an event: it links no port, the datapath does not have the port, or the
report has no number or names no CRM port. -/
def PortEvent.Quiet (run : PortRun) : PortEvent → Prop
  | .crmPortStatus config block dprmPort _ _ =>
    run.state.addPort config block = none ∨ dprmPort = .absent
  | .dpPortAdded portName _ portId _ | .dpPortDescUpdate portName _ portId _
  | .dpPortDelete portName _ portId _ => portId = 0 ∨ run.state.portAt portName = none

/-- No CRM port was added yet. -/
structure NoPorts (run : PortRun) : Prop where
  linked : run.state.ports.table.linked = []
  defined : run.state.undefined = false

/-! ## The invariant -/

/-- A port is ready with the number that was reported, or not ready and without a number. -/
def CrmPort.Settled (port : CrmPort) (reported : Option UInt32) : Prop :=
  port.portStatus = systemPortNotReady ∧ port.portId = 0 ∨
    port.portStatus = systemPortReady ∧ port.portId ≠ 0 ∧ reported = some port.portId

/-- Every port is settled, and names, handles and blocks are its own. -/
structure PortsInv (run : PortRun) : Prop where
  defined : run.state.undefined = false
  unique : (run.state.ports.table.linked.map
    (fun entry => (run.state.ports.objects entry.node).config.portName)).Nodup
  handles : ∀ entry ∈ run.state.ports.table.linked,
    (run.state.ports.objects entry.node).handle = entry.noderef
  nodes : (run.state.ports.table.linked.map (·.node)).Nodup
  owned : ∀ entry ∈ run.state.ports.table.linked, entry.node ∈ run.state.pool.inUse
  settled : ∀ entry ∈ run.state.ports.table.linked,
    (run.state.ports.objects entry.node).Settled
      (run.reported (run.state.ports.objects entry.node).config.portName)

variable {port : CrmPort} {reported : Option UInt32}

theorem CrmPort.Settled.readyId (settled : port.Settled reported) :
    port.readyId = if port.portId = 0 then none else some port.portId := by
  rcases settled with ⟨status, zero⟩ | ⟨status, nonzero, -⟩
  · rw [CrmPort.readyId, status, zero, if_pos rfl]
    rfl
  · rw [CrmPort.readyId, if_pos status, if_neg nonzero]

namespace PortsInv

variable {run : PortRun} {entry : LinkedNode Nat} {portName : Name}

theorem follows (inv : PortsInv run) : FollowsSwitch run where
  defined := inv.defined
  ready := by
    intro entry member
    rcases inv.settled entry member with ⟨status, zero⟩ | ⟨status, nonzero, reported⟩
    · constructor
      · intro ready
        rw [status] at ready
        exact absurd ready (by decide)
      · exact fun number => absurd zero number.1
    · exact ⟨fun _ => ⟨nonzero, reported⟩, fun _ => status⟩

theorem portNamed_some {state : CrmPortSystem} (found : state.portNamed portName = some entry) :
    entry ∈ state.ports.table.linked ∧
      (state.ports.objects entry.node).config.portName = portName := by
  constructor
  · exact mem_of_find?_eq_some found
  · have held := find?_some found
    exact of_decide_eq_true held

theorem portNamed_eq (inv : PortsInv run) (member : entry ∈ run.state.ports.table.linked)
    (same : (run.state.ports.objects entry.node).config.portName = portName) :
    run.state.portNamed portName = some entry := by
  cases found : run.state.portNamed portName with
  | none =>
    have missed := find?_eq_none.mp found entry member
    exact absurd (decide_eq_true same) missed
  | some other =>
  obtain ⟨otherMem, otherName⟩ := portNamed_some found
  have equal : other = entry :=
    inj_on_of_nodup_map inv.unique otherMem member (otherName.trans same.symm)
  rw [equal]

theorem report (inv : PortsInv run) {reported : Name → Option UInt32}
    (same : ∀ entry ∈ run.state.ports.table.linked,
      reported (run.state.ports.objects entry.node).config.portName =
        run.reported (run.state.ports.objects entry.node).config.portName) :
    PortsInv { state := run.state, reported := reported } where
  defined := inv.defined
  unique := inv.unique
  handles := inv.handles
  nodes := inv.nodes
  owned := inv.owned
  settled := by
    intro entry member
    dsimp only
    rw [same entry member]
    exact inv.settled entry member

end PortsInv

/-! ## A port is written -/

/-- A port is written in a state, in agreement with what is reported for its name. -/
structure PortWritten (run : PortRun) (entry : LinkedNode Nat) (port : CrmPort)
    (reported : Name → Option UInt32) : Prop where
  member : entry ∈ run.state.ports.table.linked
  config : port.config = (run.state.ports.objects entry.node).config
  handle : port.handle = (run.state.ports.objects entry.node).handle
  settled : port.Settled (reported port.config.portName)
  others : ∀ name, name ≠ port.config.portName → reported name = run.reported name

namespace PortWritten

variable {run : PortRun} {entry other : LinkedNode Nat} {port : CrmPort}
  {reported : Name → Option UInt32}

theorem objects_self : (run.state.take.setPort entry.node port).ports.objects entry.node = port :=
  update_self _ _ _

theorem objects_ne (apart : other.node ≠ entry.node) :
    (run.state.take.setPort entry.node port).ports.objects other.node =
      run.state.ports.objects other.node :=
  update_of_ne apart _ _

section

variable (write : PortWritten run entry port reported)

include write

theorem portNamed_eq (portName : Name) :
    (run.state.take.setPort entry.node port).portNamed portName =
      run.state.portNamed portName := by
  have kept : port.config.portName = (run.state.ports.objects entry.node).config.portName :=
    congrArg CrmPortConfig.portName write.config
  exact @Registry.change_named _ run.state.ports (fun port => port.config.portName) entry.node
    (fun _ => port) kept portName

theorem same_config (other : LinkedNode Nat) :
    ((run.state.take.setPort entry.node port).ports.objects other.node).config =
      (run.state.ports.objects other.node).config := by
  rcases eq_or_ne other.node entry.node with same | apart
  · rw [same, objects_self]
    exact write.config
  · rw [objects_ne apart]

/-- A port set anew keeps the invariant. -/
theorem inv (inv : PortsInv run) :
    PortsInv { state := run.state.take.setPort entry.node port, reported := reported } := by
  constructor
  case defined => exact inv.defined
  case unique =>
    have names : ∀ other : LinkedNode Nat,
        ((run.state.take.setPort entry.node port).ports.objects other.node).config.portName =
          (run.state.ports.objects other.node).config.portName :=
      fun other => congrArg CrmPortConfig.portName (write.same_config other)
    simp only [names]
    exact inv.unique
  case handles =>
    intro other member
    rcases eq_or_ne other.node entry.node with same | apart
    · have equal : other = entry :=
        inj_on_of_nodup_map inv.nodes member write.member same
      rw [equal, objects_self, write.handle]
      exact inv.handles entry write.member
    · rw [objects_ne apart]
      exact inv.handles other member
  case nodes => exact inv.nodes
  case owned => exact inv.owned
  case settled =>
    intro other member
    rcases eq_or_ne other.node entry.node with same | apart
    · rw [same, objects_self]
      exact write.settled
    rw [objects_ne apart]
    have named : (run.state.ports.objects other.node).config.portName ≠
        port.config.portName := by
      intro same
      rw [write.config] at same
      apply apart
      rw [inj_on_of_nodup_map inv.unique member write.member same]
    change CrmPort.Settled _ (reported _)
    rw [write.others _ named]
    exact inv.settled other member

end

end PortWritten

/-! ## The outcome of an event -/

/-- An event keeps the ports settled, notifies as expected, and leaves the lock balanced when
nothing is expected, which is so for the quiet events. -/
structure EventOutcome (run : PortRun) (event : PortEvent) : Prop where
  inv : PortsInv (run.step event)
  right : NotifiesRight run event
  balanced : LockBalanced run event ↔ run.expected event = none
  quiet : run.expected event = none ↔ event.Quiet run

@[simp]
theorem take_release (state : CrmPortSystem) : state.take.release = state := by
  simp [CrmPortSystem.take, CrmPortSystem.release]

section Outcome

variable {run : PortRun} {event : PortEvent} {base : CrmPortSystem}

/-- An event that concerns nobody reports nothing. -/
theorem EventOutcome.of_quiet (nobody : event.Quiet run)
    (applied : applyPortEvent run.state event = (base, []))
    (inv : PortsInv { state := base, reported := recordReport run.state run.reported event })
    (depth : base.readDepth = run.state.readDepth)
    (same : (base.portAt event.portName).bind CrmPort.readyId =
      (run.state.portAt event.portName).bind CrmPort.readyId)
    (fresh : ∀ portId, (run.state.portAt event.portName).bind CrmPort.readyId = some portId →
      event.updatesTo ≠ some portId) :
    EventOutcome run event := by
  have stepped : run.step event =
      { state := base, reported := recordReport run.state run.reported event } := by
    rw [PortRun.step, applied]
  have nothing : run.expected event = none := by
    rw [PortRun.expected, stepped, same, expectedNotification.eq_def]
    cases before : (run.state.portAt event.portName).bind CrmPort.readyId with
    | none => rfl
    | some portId =>
      dsimp only
      rw [if_neg (fun apart => apart rfl), if_neg (fresh portId before)]
  constructor
  case inv =>
    rw [stepped]
    exact inv
  case right =>
    rw [NotifiesRight, nothing, applied]
  case balanced =>
    rw [LockBalanced, stepped]
    exact ⟨fun _ => nothing, fun _ => depth⟩
  case quiet => exact iff_of_true nothing nobody

/-- A change of the port is reported to every subscriber. -/
theorem EventOutcome.notifies (old new : UInt32) {entry : LinkedNode Nat} {port : CrmPort}
    {notificationType : UInt32} {data : CrmPortNotificationData} (loud : ¬ event.Quiet run)
    (inv : PortsInv { state := base, reported := run.reported })
    (write : PortWritten { state := base, reported := run.reported } entry port
      (recordReport run.state run.reported event))
    (applied : applyPortEvent run.state event =
      (base.take.setPort entry.node port).dispatch notificationType data)
    (named : port.config.portName = event.portName)
    (before : (run.state.portAt event.portName).bind CrmPort.readyId =
      (base.ports.objects entry.node).readyId)
    (depth : base.readDepth = run.state.readDepth)
    (subscribers : base.subscribers = run.state.subscribers)
    (defined : notificationType ≤ crmPortLastNotificationType)
    (expected : expectedNotification event.updatesTo (base.ports.objects entry.node).readyId
      port.readyId = some (notificationType, old, new))
    (filled : data = { port.notificationData with oldPortId := old, newPortId := new }) :
    EventOutcome run event := by
  rw [CrmPortSystem.dispatch, if_pos defined] at applied
  have stepped : run.step event =
      { state := base.take.setPort entry.node port
        reported := recordReport run.state run.reported event } := by
    rw [PortRun.step, applied]
  have found : base.portNamed event.portName = some entry := by
    refine inv.portNamed_eq write.member ?_
    rw [← named, write.config]
  have after : (base.take.setPort entry.node port).portAt event.portName = some port := by
    rw [CrmPortSystem.portAt, write.portNamed_eq, found, map_some]
    exact congrArg some (@PortWritten.objects_self { state := base, reported := run.reported }
      entry port)
  have something : run.expected event = some (notificationType, old, new) := by
    rw [PortRun.expected, stepped, before, after]
    exact expected
  constructor
  case inv =>
    rw [stepped]
    exact write.inv inv
  case right =>
    rw [NotifiesRight, something, stepped, applied]
    refine ⟨port, after, ?_⟩
    rw [← filled, ← subscribers]
    rfl
  case balanced =>
    rw [LockBalanced, stepped, something]
    constructor
    · intro balanced
      change base.readDepth + 1 = _ at balanced
      omega
    · exact nofun
  case quiet =>
    rw [something]
    exact iff_of_false nofun loud

end Outcome

/-! ## What the call does at a port -/

theorem CrmPort.Settled.notReady (settled : port.Settled reported) (zero : port.portId = 0) :
    port.portStatus = systemPortNotReady := by
  rcases settled with ⟨status, -⟩ | ⟨-, nonzero, -⟩
  · exact status
  · exact absurd zero nonzero

theorem CrmPort.Settled.isReady (settled : port.Settled reported) (nonzero : port.portId ≠ 0) :
    port.portStatus = systemPortReady ∧ reported = some port.portId := by
  rcases settled with ⟨-, zero⟩ | ⟨status, -, reported⟩
  · exact absurd zero nonzero
  · exact ⟨status, reported⟩

theorem CrmPort.readyId_ready (ready : port.portStatus = systemPortReady) :
    port.readyId = some port.portId :=
  if_pos ready

theorem CrmPort.readyId_notReady (notReady : port.portStatus = systemPortNotReady) :
    port.readyId = none := by
  rw [CrmPort.readyId, notReady]
  rfl

section Call

variable {run : PortRun} {event : PortEvent} {base : CrmPortSystem} {entry : LinkedNode Nat}
  {systemPortHandle : UInt64} {portStatus : UInt8} {portId garbage : UInt32}

theorem crmSetPortStatus_linked (member : entry ∈ base.ports.table.linked)
    (created : portStatus ≠ portStatusCreated) :
    crmSetPortStatus base entry.noderef systemPortHandle portStatus portId garbage =
      match ((base.ports.objects entry.node).upOrDown entry.noderef systemPortHandle portStatus
          portId).update portStatus portId with
      | none => (base, [])
      | some change =>
        (base.take.setPort entry.node change.port).dispatch
          (change.notificationType.getD garbage) change.data := by
  have access : base.take.ports.table.access entry.noderef = .valid (some entry.node) :=
    RefTable.access_linked member
  rw [crmSetPortStatus, if_neg created]
  simp only [access, take_release]
  rfl

theorem StatusChange.update_other (change : StatusChange)
    (other : portStatus ≠ portStatusUpdate) : change.update portStatus portId = some change :=
  if_neg other

/-- A port that comes up is reported once. -/
theorem EventOutcome.up (loud : ¬ event.Quiet run)
    (inv : PortsInv { state := base, reported := run.reported })
    (member : entry ∈ base.ports.table.linked)
    (named : (base.ports.objects entry.node).config.portName = event.portName)
    (zero : (base.ports.objects entry.node).portId = 0) (nonzero : portId ≠ 0)
    (applied : applyPortEvent run.state event =
      crmSetPortStatus base entry.noderef systemPortHandle portStatusUp portId garbage)
    (reported : recordReport run.state run.reported event =
      update run.reported event.portName (some portId))
    (before : (run.state.portAt event.portName).bind CrmPort.readyId = none)
    (depth : base.readDepth = run.state.readDepth)
    (subscribers : base.subscribers = run.state.subscribers) : EventOutcome run event := by
  have notReady := (inv.settled entry member).notReady zero
  have handle := inv.handles entry member
  rw [crmSetPortStatus_linked member (by decide), StatusChange.update_other _ (by decide),
    CrmPort.upOrDown, if_pos ⟨rfl, zero, notReady⟩] at applied
  dsimp only [getD_some] at applied
  have none := CrmPort.readyId_notReady notReady
  refine EventOutcome.notifies 0 portId loud inv ?_ applied named (before.trans none.symm) depth
    subscribers (by decide) ?_ ?_
  · constructor
    case member => exact member
    case config => rfl
    case handle => rfl
    case settled =>
      refine .inr ⟨rfl, nonzero, ?_⟩
      rw [reported, named, update_self]
    case others =>
      intro name apart
      rw [reported, update_of_ne]
      exact fun same => apart (same.trans named.symm)
  · rw [none, CrmPort.readyId_ready rfl]
    rfl
  · rw [← handle]
    rfl

/-- A port that goes down is reported once. -/
theorem EventOutcome.down (loud : ¬ event.Quiet run) (inv : PortsInv run)
    (member : entry ∈ run.state.ports.table.linked)
    (named : (run.state.ports.objects entry.node).config.portName = event.portName)
    (own : (run.state.ports.objects entry.node).portId = portId) (nonzero : portId ≠ 0)
    (applied : applyPortEvent run.state event =
      crmSetPortStatus run.state entry.noderef systemPortHandle portStatusDown portId garbage)
    (reported : run.reported event.portName = some portId →
      recordReport run.state run.reported event =
        update run.reported event.portName none)
    (before : (run.state.portAt event.portName).bind CrmPort.readyId =
      (run.state.ports.objects entry.node).readyId) : EventOutcome run event := by
  obtain ⟨ready, last⟩ := (inv.settled entry member).isReady (by rwa [own])
  rw [named, own] at last
  rw [crmSetPortStatus_linked member (by decide), StatusChange.update_other _ (by decide),
    CrmPort.upOrDown, if_neg (fun up => absurd up.1 (by decide)),
    if_pos ⟨rfl, by rwa [own], own, ready⟩] at applied
  dsimp only [getD_some] at applied
  refine EventOutcome.notifies 0 portId loud inv ?_ applied named before rfl rfl (by decide) ?_ ?_
  · constructor
    case member => exact member
    case config => rfl
    case handle => rfl
    case settled => exact .inl ⟨rfl, rfl⟩
    case others =>
      intro name apart
      rw [reported last, update_of_ne]
      exact fun same => apart (same.trans named.symm)
  · rw [CrmPort.readyId_ready ready, own, CrmPort.readyId_notReady rfl]
    rfl
  · rw [← own]
    rfl

/-- The description of a port is updated with a number. -/
theorem EventOutcome.updated (loud : ¬ event.Quiet run) (inv : PortsInv run)
    (member : entry ∈ run.state.ports.table.linked)
    (named : (run.state.ports.objects entry.node).config.portName = event.portName)
    (nonzero : portId ≠ 0) (updates : event.updatesTo = some portId)
    (applied : applyPortEvent run.state event =
      crmSetPortStatus run.state entry.noderef systemPortHandle portStatusUpdate portId garbage)
    (reported : recordReport run.state run.reported event =
      update run.reported event.portName (some portId))
    (before : (run.state.portAt event.portName).bind CrmPort.readyId =
      (run.state.ports.objects entry.node).readyId) : EventOutcome run event := by
  rw [crmSetPortStatus_linked member (by decide), CrmPort.upOrDown,
    if_neg (fun up => absurd up.1 (by decide)),
    if_neg (fun down => absurd down.1 (by decide)), StatusChange.update, if_pos rfl] at applied
  -- the port is written alike in all three branches
  have write : PortWritten run entry
      { run.state.ports.objects entry.node with
        portId := portId, portStatus := systemPortReady }
      (recordReport run.state run.reported event) := by
    constructor
    case member => exact member
    case config => rfl
    case handle => rfl
    case settled =>
      refine .inr ⟨rfl, nonzero, ?_⟩
      rw [reported, named, update_self]
    case others =>
      intro name apart
      rw [reported, update_of_ne]
      exact fun same => apart (same.trans named.symm)
  by_cases zero : (run.state.ports.objects entry.node).portId = 0
  case pos =>
    have notReady := (inv.settled entry member).notReady zero
    rw [if_pos ⟨zero, notReady, nonzero⟩] at applied
    dsimp only [getD_some] at applied
    refine EventOutcome.notifies 0 portId loud inv write applied named before rfl rfl (by decide) ?_ rfl
    rw [CrmPort.readyId_notReady notReady, CrmPort.readyId_ready rfl]
    rfl
  case neg =>
    have ready := ((inv.settled entry member).isReady zero).1
    rw [if_neg (fun added => zero added.1)] at applied
    by_cases same : (run.state.ports.objects entry.node).portId = portId
    case neg =>
      rw [if_pos ⟨zero, ready, nonzero, same⟩] at applied
      dsimp only [getD_some] at applied
      refine EventOutcome.notifies (run.state.ports.objects entry.node).portId portId loud inv
        write applied named before rfl rfl (by decide) ?_ rfl
      rw [CrmPort.readyId_ready ready, CrmPort.readyId_ready rfl]
      exact if_pos same
    case pos =>
      rw [if_neg (fun modified => modified.2.2.2 same),
        if_pos ⟨zero, ready, nonzero, same⟩] at applied
      dsimp only [getD_some] at applied
      refine EventOutcome.notifies 0 portId loud inv write applied named before rfl rfl (by decide)
        ?_ rfl
      rw [CrmPort.readyId_ready ready, CrmPort.readyId_ready rfl, same, updates]
      simp [expectedNotification]

end Call

/-! ## A port is added -/

section Add

variable {run : PortRun} {base : CrmPortSystem} {config : CrmPortConfig} {block : Option Nat}
  {noderef : MchashNoderef}

theorem portAt_none {state : CrmPortSystem} {portName : Name}
    (unknown : state.portAt portName = none) : ∀ entry ∈ state.ports.table.linked,
      (state.ports.objects entry.node).config.portName ≠ portName := by
  rw [CrmPortSystem.portAt, map_eq_none_iff] at unknown
  intro entry member same
  exact find?_eq_none.mp unknown entry member (decide_eq_true same)

/-- A port with a new name is linked, without a number. -/
structure PortLinked (run : PortRun) (config : CrmPortConfig) (base : CrmPortSystem)
    (noderef : MchashNoderef) (node : Nat) : Prop where
  inv : PortsInv { state := base, reported := run.reported }
  member : { noderef := noderef, node := node } ∈ base.ports.table.linked
  port : base.ports.objects node =
    { config := config, portId := 0, portStatus := systemPortNotReady, handle := noderef
      systemPortHandle := 0 }
  depth : base.readDepth = run.state.readDepth
  subscribers : base.subscribers = run.state.subscribers

/-- An added port is linked under a new number. -/
theorem PortLinked.of_addPort (inv : PortsInv run) (new : run.state.portAt config.portName = none)
    (added : run.state.addPort config block = some (base, noderef)) :
    ∃ node, PortLinked run config base noderef node := by
  unfold CrmPortSystem.addPort at added
  cases got : run.state.pool.get block with
  | none =>
    rw [got] at added
    cases added
  | some taken =>
  obtain ⟨pool, node⟩ := taken
  rw [got] at added
  dsimp only at added
  by_cases room : run.state.ports.table.free = []
  case pos =>
    rw [RefTable.append_full room] at added
    cases added
  case neg =>
  obtain ⟨table, linkedRef, appended, linked, -⟩ := RefTable.append_free room node
  rw [appended] at added
  cases added
  obtain ⟨unused, inUse, -⟩ := BlockPool.get_some got
  have apart : ∀ entry ∈ run.state.ports.table.linked, entry.node ≠ node := by
    rintro entry member rfl
    exact unused (inv.owned entry member)
  have names := portAt_none new
  have cases : ∀ entry ∈ table.linked, entry ∈ run.state.ports.table.linked ∨
      entry = { noderef := noderef, node := node } := by
    intro entry member
    rw [linked, mem_append, mem_singleton] at member
    exact member
  refine ⟨node, ?_, ?_, update_self _ _ _, rfl, rfl⟩
  · constructor
    case defined => exact inv.defined
    case unique =>
      dsimp only
      rw [linked, map_append, map_singleton, update_self]
      have old : run.state.ports.table.linked.map (fun entry =>
          (update run.state.ports.objects node
            { config := config, portId := 0, portStatus := systemPortNotReady
              handle := noderef, systemPortHandle := 0 } entry.node).config.portName) =
          run.state.ports.table.linked.map (fun entry =>
            (run.state.ports.objects entry.node).config.portName) := by
        apply map_congr_left
        intro entry member
        rw [update_of_ne (apart entry member)]
      rw [old]
      refine inv.unique.append (nodup_singleton _) (disjoint_singleton.mpr ?_)
      intro listed
      obtain ⟨entry, member, same⟩ := mem_map.mp listed
      exact names entry member same
    case handles =>
      intro entry member
      dsimp only
      rcases cases entry member with old | rfl
      · rw [update_of_ne (apart entry old)]
        exact inv.handles entry old
      · rw [update_self]
    case nodes =>
      rw [linked, map_append, map_singleton]
      refine inv.nodes.append (nodup_singleton _) (disjoint_singleton.mpr ?_)
      intro again
      obtain ⟨entry, member, same⟩ := mem_map.mp again
      exact apart entry member same
    case owned =>
      intro entry member
      rw [inUse]
      rcases cases entry member with old | rfl
      · exact mem_cons_of_mem _ (inv.owned entry old)
      · exact mem_cons_self
    case settled =>
      intro entry member
      dsimp only
      rcases cases entry member with old | rfl
      · rw [update_of_ne (apart entry old)]
        exact inv.settled entry old
      · rw [update_self]
        exact .inl ⟨rfl, rfl⟩
  · dsimp only
    rw [linked]
    exact mem_append_right _ mem_cons_self

end Add

/-! ## The events -/

section Events

variable {run : PortRun} {portName : Name} {portHandle : UInt64} {portId garbage : UInt32}
  {portStatus : UInt8}

theorem psmDpPortCbk_unknown (unknown : run.state.portNamed portName = none) :
    psmDpPortCbk run.state portStatus portName portHandle portId garbage = (run.state, []) := by
  rw [psmDpPortCbk, unknown]

theorem psmDpPortCbk_zero :
    psmDpPortCbk run.state portStatus portName portHandle 0 garbage = (run.state, []) := by
  unfold psmDpPortCbk
  split
  · rfl
  · exact if_neg (fun nonzero => nonzero rfl)

theorem psmDpPortCbk_known {entry : LinkedNode Nat} (inv : PortsInv run)
    (found : run.state.portNamed portName = some entry) (nonzero : portId ≠ 0) :
    psmDpPortCbk run.state portStatus portName portHandle portId garbage =
      crmSetPortStatus run.state entry.noderef portHandle portStatus portId garbage := by
  have handle := inv.handles entry (PortsInv.portNamed_some found).1
  simp only [psmDpPortCbk, found, if_pos nonzero, handle]

theorem PortsInv.readyId_ne (inv : PortsInv run) {number : UInt32}
    (ready : (run.state.portAt portName).bind CrmPort.readyId = some number) : number ≠ 0 := by
  obtain ⟨port, found, readyId⟩ := bind_eq_some_iff.mp ready
  obtain ⟨entry, named, rfl⟩ := map_eq_some_iff.mp found
  rw [(inv.settled entry (PortsInv.portNamed_some named).1).readyId] at readyId
  split at readyId
  · cases readyId
  · rename_i nonzero
    cases readyId
    exact nonzero

/-- A status of the switch is reported for the port it names. -/
theorem EventOutcome.report {event : PortEvent} {portStatus : UInt8} (inv : PortsInv run)
    (nobody : portId = 0 ∨ run.state.portAt event.portName = none → event.Quiet run)
    (applied : applyPortEvent run.state event =
      psmDpPortCbk run.state portStatus event.portName portHandle portId garbage)
    (others : ∀ name, name ≠ event.portName →
      recordReport run.state run.reported event name = run.reported name)
    (zero : portId = 0 → recordReport run.state run.reported event = run.reported)
    (updates : ∀ number, event.updatesTo = some number → number = portId)
    (right : ∀ entry, run.state.portNamed event.portName = some entry → portId ≠ 0 →
      EventOutcome run event) : EventOutcome run event := by
  cases found : run.state.portNamed event.portName with
  | none =>
    have unknown : run.state.portAt event.portName = none := by
      rw [CrmPortSystem.portAt, found, map_none]
    refine EventOutcome.of_quiet (nobody (.inr unknown))
      (applied.trans (psmDpPortCbk_unknown found)) ?_ rfl rfl ?_
    · apply inv.report
      intro entry member
      exact others _ (portAt_none unknown entry member)
    · intro number ready
      rw [unknown] at ready
      cases ready
  | some entry =>
  by_cases nonzero : portId = 0
  case neg => exact right entry found nonzero
  case pos =>
  subst nonzero
  refine EventOutcome.of_quiet (nobody (.inl rfl)) (applied.trans psmDpPortCbk_zero) ?_ rfl rfl ?_
  · rw [zero rfl]
    exact inv
  · intro number ready updated
    exact inv.readyId_ne ready (updates number updated)

theorem portAt_bind {entry : LinkedNode Nat} (found : run.state.portNamed portName = some entry) :
    (run.state.portAt portName).bind CrmPort.readyId =
      (run.state.ports.objects entry.node).readyId := by
  rw [CrmPortSystem.portAt, found, map_some, bind_some]

theorem portAt_ne_none {entry : LinkedNode Nat} (found : run.state.portNamed portName = some entry) :
    run.state.portAt portName ≠ none := by
  rw [CrmPortSystem.portAt, found]
  exact nofun

/-- Every event that meets its condition keeps the invariant and reports what it should. -/
theorem PortsInv.step (inv : PortsInv run) (event : PortEvent) (met : event.Meets run) :
    EventOutcome run event := by
  cases event with
  | dpPortAdded portName portHandle portId garbage =>
    refine @EventOutcome.report run portHandle portId garbage _ portStatusUp inv id rfl ?_ ?_
      nofun ?_
    · intro name apart
      dsimp only [recordReport]
      split
      · exact update_of_ne apart _ _
      · rfl
    · exact fun zero => if_neg (fun nonzero => nonzero zero)
    intro entry found nonzero
    obtain ⟨member, named⟩ := PortsInv.portNamed_some found
    have zero := met nonzero _ (by
      exact congrArg (Option.map _) found)
    refine EventOutcome.up (not_or.mpr ⟨nonzero, portAt_ne_none found⟩) inv member named zero nonzero
      (psmDpPortCbk_known inv found nonzero) (if_pos nonzero) ?_ rfl rfl
    refine (portAt_bind found).trans ?_
    exact CrmPort.readyId_notReady ((inv.settled entry member).notReady zero)
  | dpPortDescUpdate portName portHandle portId garbage =>
    refine @EventOutcome.report run portHandle portId garbage _ portStatusUpdate inv id rfl ?_ ?_
      ?_ ?_
    · intro name apart
      dsimp only [recordReport]
      split
      · exact update_of_ne apart _ _
      · rfl
    · exact fun zero => if_neg (fun nonzero => nonzero zero)
    · exact fun number updated => (some.inj updated).symm
    · intro entry found nonzero
      obtain ⟨member, named⟩ := PortsInv.portNamed_some found
      exact EventOutcome.updated (not_or.mpr ⟨nonzero, portAt_ne_none found⟩) inv member named
        nonzero rfl
        (psmDpPortCbk_known inv found nonzero) (if_pos nonzero) (portAt_bind found)
  | dpPortDelete portName portHandle portId garbage =>
    refine @EventOutcome.report run portHandle portId garbage _ portStatusDown inv id rfl ?_ ?_
      nofun ?_
    · intro name apart
      dsimp only [recordReport]
      split
      · exact update_of_ne apart _ _
      · rfl
    · exact fun zero => if_neg (fun deleted => deleted.1 zero)
    intro entry found nonzero
    obtain ⟨member, named⟩ := PortsInv.portNamed_some found
    have own := met nonzero _ (by
      exact congrArg (Option.map _) found)
    exact EventOutcome.down (not_or.mpr ⟨nonzero, portAt_ne_none found⟩) inv member named own nonzero
      (psmDpPortCbk_known inv found nonzero) (fun last => if_pos ⟨nonzero, last⟩)
      (portAt_bind found)
  | crmPortStatus config block dprmPort locals garbage =>
  cases added : run.state.addPort config block with
  | none =>
    have applied : applyPortEvent run.state
        (.crmPortStatus config block dprmPort locals garbage) = (run.state, []) := by
      simp only [applyPortEvent, added]
    refine EventOutcome.of_quiet (.inl added) applied ?_ rfl rfl (fun _ _ => nofun)
    have same : recordReport run.state run.reported
        (.crmPortStatus config block dprmPort locals garbage) = run.reported := by
      cases dprmPort with
      | present portHandle portId =>
        rw [recordReport, added]
        exact if_neg (fun linked => absurd linked.1 Bool.false_ne_true)
      | absent => rfl
      | lost => rfl
    rw [same]
    exact inv
  | some linked =>
  obtain ⟨base, noderef⟩ := linked
  have supplied : (run.state.pool.get block).isSome := by
    rw [isSome_iff_ne_none]
    intro exhausted
    rw [CrmPortSystem.addPort, exhausted] at added
    cases added
  obtain ⟨new, answered⟩ := met supplied
  obtain ⟨node, link⟩ := PortLinked.of_addPort inv new added
  have before : (run.state.portAt config.portName).bind CrmPort.readyId = none := by
    rw [new, bind_none]
  rcases answered with rfl | ⟨portHandle, portId, rfl, nonzero⟩
  · have applied : applyPortEvent run.state
        (.crmPortStatus config block .absent locals garbage) = (base, []) := by
      simp only [applyPortEvent, added]
      rfl
    refine EventOutcome.of_quiet (.inr rfl) applied link.inv link.depth ?_ (fun _ _ => nofun)
    have found : base.portNamed config.portName = some { noderef, node } := by
      refine link.inv.portNamed_eq link.member ?_
      exact congrArg (fun port => port.config.portName) link.port
    refine Eq.trans ?_ before.symm
    refine (@portAt_bind { state := base, reported := run.reported } _ _ found).trans ?_
    exact CrmPort.readyId_notReady (congrArg CrmPort.portStatus link.port)
  · have applied : applyPortEvent run.state
        (.crmPortStatus config block (.present portHandle portId) locals garbage) =
          crmSetPortStatus base noderef portHandle portStatusUp portId garbage := by
      have positive : 0 < portId := by
        exact Nat.pos_of_ne_zero (fun zero => nonzero (UInt32.toNat_inj.mp zero))
      simp only [applyPortEvent, added, psmCrmPortAddedNotificationsCbk,
        psmGetPortStatus, if_pos positive]
    have loud : ¬ PortEvent.Quiet run
        (.crmPortStatus config block (.present portHandle portId) locals garbage) := by
      rintro (unlinked | missing)
      · rw [added] at unlinked
        cases unlinked
      · cases missing
    refine EventOutcome.up loud link.inv link.member
      (congrArg (fun port => port.config.portName) link.port)
      (congrArg CrmPort.portId link.port) nonzero applied ?_ before link.depth
      link.subscribers
    rw [recordReport, added]
    exact if_pos ⟨rfl, nonzero⟩

end Events

/-! ## Runs -/

theorem NoPorts.inv {run : PortRun} (none : NoPorts run) : PortsInv run := by
  have empty : ∀ entry, entry ∉ run.state.ports.table.linked := by
    intro entry member
    rw [none.linked] at member
    exact absurd member not_mem_nil
  constructor
  case defined => exact none.defined
  case unique =>
    rw [none.linked]
    exact nodup_nil
  case handles => exact fun entry member => absurd member (empty entry)
  case nodes =>
    rw [none.linked]
    exact nodup_nil
  case owned => exact fun entry member => absurd member (empty entry)
  case settled => exact fun entry member => absurd member (empty entry)

/-- Along every run of events that meet the condition the CRM ports follow the switch and the
subscribers are called as expected; an event keeps the depth of the read lock exactly when
nobody is to be notified, that is, when it is quiet in the state it meets. -/
theorem port_follows_switch (start : PortRun) (none : NoPorts start) (events : List PortEvent)
    (met : Along PortRun.step (fun run event => event.Meets run) start events) :
    Along PortRun.step (fun run event => FollowsSwitch run ∧ NotifiesRight run event ∧
        (LockBalanced run event ↔ run.expected event = .none) ∧
        (run.expected event = .none ↔ event.Quiet run)) start events ∧
      FollowsSwitch (events.foldl PortRun.step start) := by
  have inv := none.inv
  clear none
  induction events generalizing start with
  | nil => exact ⟨trivial, inv.follows⟩
  | cons event rest ih =>
  have outcome := inv.step event met.1
  obtain ⟨along, final⟩ := ih _ met.2 outcome.inv
  exact ⟨⟨⟨inv.follows, outcome.right, outcome.balanced, outcome.quiet⟩, along⟩, final⟩

/-! ## A port that comes up twice -/

/-- No port, and one subscriber of each type. -/
def noPorts : PortRun where
  state :=
    { ports :=
        { table := RefTable.create ⟨64, sixtyFour_bounds⟩
          objects := fun _ =>
            { config :=
                { portName := [], crmPortType := 0, switchName := [], saferefVn := 0
                  systemBrSaferef := 0, saferefVm := 0, nwType := 0, nwParams := {} }
              portId := 0
              portStatus := systemPortNotReady
              handle := { index := 0, magic := 0 }
              systemPortHandle := 0 } }
      pool := { maxBlocks := 64, inUse := [], retired := [] }
      subscribers := fun notificationType => [notificationType.toNat]
      readDepth := 0
      undefined := false }
  reported := fun _ => none

theorem noPorts_none : NoPorts noPorts :=
  ⟨rfl, rfl⟩

/-- A port of a virtual machine is added that the datapath does not have. -/
def addUnknownPort : PortEvent :=
  .crmPortStatus
    { portName := [112], crmPortType := 0, switchName := [115], saferefVn := 1
      systemBrSaferef := 2, saferefVm := 3, nwType := vxlanType, nwParams := {} }
    (some 0) .absent { dpPortHandle := 0, portStatus := 0, portId := 0 } 9

/-- The first report of a port leaves the read lock taken; the second one changes nothing,
and subscribers are called with the type that a local happened to hold. -/
theorem port_reported_twice :
    ¬ LockBalanced (noPorts.step addUnknownPort) (.dpPortAdded [112] 7 5 9) ∧
      ¬ NotifiesRight ((noPorts.step addUnknownPort).step (.dpPortAdded [112] 7 5 9))
        (.dpPortAdded [112] 7 5 3) := by
  constructor
  · unfold LockBalanced
    decide
  intro right
  have nothing : ((noPorts.step addUnknownPort).step (.dpPortAdded [112] 7 5 9)).expected
      (.dpPortAdded [112] 7 5 3) = none := by decide
  rw [NotifiesRight, nothing] at right
  revert right
  decide

/-- A port is added, comes up, gets another number, and goes down. -/
theorem port_follows_switch_four :
    Along PortRun.step (fun run event => FollowsSwitch run ∧ NotifiesRight run event ∧
        (LockBalanced run event ↔ run.expected event = .none) ∧
        (run.expected event = .none ↔ event.Quiet run)) noPorts
        [addUnknownPort, .dpPortAdded [112] 7 5 9, .dpPortDescUpdate [112] 7 6 9,
          .dpPortDelete [112] 7 6 9] ∧
      FollowsSwitch ([addUnknownPort, .dpPortAdded [112] 7 5 9, .dpPortDescUpdate [112] 7 6 9,
        .dpPortDelete [112] 7 6 9].foldl PortRun.step noPorts) := by
  apply port_follows_switch noPorts noPorts_none
  refine ⟨fun _ => ⟨rfl, .inl rfl⟩, ?_, trivial, ?_, trivial⟩
  · rintro - port ⟨⟩
    rfl
  · rintro - port ⟨⟩
    rfl

end OpenFlowController.Crm
