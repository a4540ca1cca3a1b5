/-
Module: Crm.PortStatus
Purpose: How the ports of the cloud resource manager follow the ports of the switches: the
  status of a port that is added, the notifications of the datapath database, and the
  notifications that the subscribers of the CRM ports receive.
Source: ofproto/src/crm/crm_port_api.c 1207-1459, ofproto/src/crmiface/port_status_mgr.c
  152-333, ofproto/src/include/crm_port_api.h, include/crmapi.h
Trusted boundary: what the datapath database answers about a port and the values of locals that
  are read before they are written are inputs, and the subscribers do not call back
-/
import OpenFlowController.Nsrm.Objects

namespace OpenFlowController.Crm

open Nsrm (BlockPool Name Registry)
open Utils

/-! ## Constants of `port_status_mgr.h` and `crmapi.h` -/

def systemPortNotReady : UInt8 := 0

def systemPortReady : UInt8 := 1

def portStatusUp : UInt8 := 2

def portStatusDown : UInt8 := 3

def portStatusUpdate : UInt8 := 4

def portStatusCreated : UInt8 := 5

/-- `CRM_VN_ALL_NOTIFICATIONS`, which is also `CRM_PORT_ALL_NOTIFICATIONS`. -/
def crmVnAllNotifications : UInt32 := 0

def crmPortAdded : UInt32 := 1

def crmPortModified : UInt32 := 2

def crmPortDelete : UInt32 := 3

/-- `CRM_PORT_STATUS`, which is `CRM_PORT_LAST_NOTIFICATION_TYPE`. -/
def crmPortLastNotificationType : UInt32 := 4

def vxlanType : UInt8 := 1

def nvgreType : UInt8 := 2

/-! ## Ports and notifications -/

/-- `struct crm_vxlan_nw`, which has the members of `struct crm_nvgre_nw`. -/
structure TunnelNw where
  nid : UInt32 := 0
  servicePort : UInt16 := 0
  remoteIp : UInt32 := 0

/-- What a CRM port is configured with, of `struct crm_port`. -/
structure CrmPortConfig where
  portName : Name
  crmPortType : UInt8
  switchName : Name
  saferefVn : UInt64
  systemBrSaferef : UInt64
  saferefVm : UInt64
  nwType : UInt8
  nwParams : TunnelNw

/-- `struct crm_port`; the handle is the one that `magic` and `index` make. -/
structure CrmPort where
  config : CrmPortConfig
  portId : UInt32
  portStatus : UInt8
  handle : MchashNoderef
  systemPortHandle : UInt64

/-- What the notifications use of `struct crm_port_notification_data`. -/
structure CrmPortNotificationData where
  portName : Name := []
  crmPortType : UInt8 := 0
  crmPortStatus : UInt8 := 0
  crmPortHandle : MchashNoderef := { index := 0, magic := 0 }
  oldPortId : UInt32 := 0
  newPortId : UInt32 := 0
  crmVnHandle : UInt64 := 0
  swname : Name := []
  dpHandle : UInt64 := 0
  crmVmHandle : UInt64 := 0
  nwType : UInt8 := 0
  nwParams : TunnelNw := {}

/-- A call of a subscriber: the type and the data it is passed. -/
structure NotificationCall where
  subscriber : Nat
  notificationType : UInt32
  data : CrmPortNotificationData

/-- The CRM ports, their pool, the subscribers of each type of notification, and the depth of
the read lock of the thread. -/
structure CrmPortSystem where
  ports : Registry CrmPort
  pool : BlockPool
  subscribers : UInt32 → List Nat
  readDepth : Int
  undefined : Bool

namespace CrmPortSystem

/-- `CNTLR_RCU_READ_LOCK_TAKE`. -/
def take (state : CrmPortSystem) : CrmPortSystem :=
  { state with readDepth := state.readDepth + 1 }

/-- `CNTLR_RCU_READ_LOCK_RELEASE`. -/
def release (state : CrmPortSystem) : CrmPortSystem :=
  { state with readDepth := state.readDepth - 1 }

/-- A port is written. -/
def setPort (state : CrmPortSystem) (block : Nat) (port : CrmPort) : CrmPortSystem :=
  { state with ports := state.ports.change block (fun _ => port) }

/-- `crm_get_port_handle`, which takes the read lock and releases it. -/
def portNamed (state : CrmPortSystem) (portName : Name) : Option (LinkedNode Nat) :=
  state.ports.named (·.config.portName) portName

/-- The subscribers of the type and those of all types are called.  A type that is not one
of the port notifications leads out of the lists. -/
def dispatch (state : CrmPortSystem) (notificationType : UInt32)
    (data : CrmPortNotificationData) : CrmPortSystem × List NotificationCall :=
  if notificationType ≤ crmPortLastNotificationType then
    (state,
      (state.subscribers notificationType ++ state.subscribers crmVnAllNotifications).map
        (fun subscriber =>
          { subscriber := subscriber, notificationType := notificationType, data := data }))
  else
    ({ state with undefined := true }, [])

end CrmPortSystem

/-! ## The status of a port -/

/-- The members of the notification that are copied from the port alike in all branches. -/
def CrmPort.notificationData (port : CrmPort) : CrmPortNotificationData where
  portName := port.config.portName
  crmPortType := port.config.crmPortType
  crmPortStatus := port.portStatus
  crmPortHandle := port.handle
  newPortId := port.portId
  crmVnHandle := port.config.saferefVn
  swname := port.config.switchName
  dpHandle := port.config.systemBrSaferef
  crmVmHandle := port.config.saferefVm
  nwType := port.config.nwType
  nwParams :=
    if port.config.nwType = vxlanType ∨ port.config.nwType = nvgreType then port.config.nwParams
    else {}

/-- The port and the locals `crm_notification_type` and `crm_notification_data`; the type is
not initialised. -/
structure StatusChange where
  port : CrmPort
  notificationType : Option UInt32 := none
  data : CrmPortNotificationData := {}

/-- The `if` and `else if` over a port that comes up or goes down. -/
def CrmPort.upOrDown (port : CrmPort) (crmPortHandle : MchashNoderef)
    (systemPortHandle : UInt64) (portStatus : UInt8) (systemPortId : UInt32) : StatusChange :=
  if portStatus = portStatusUp ∧ port.portId = 0 ∧ port.portStatus = systemPortNotReady then
    let port : CrmPort :=
      { port with
        portId := systemPortId
        portStatus := systemPortReady
        systemPortHandle := systemPortHandle }
    { port := port
      notificationType := some crmPortAdded
      data := { port.notificationData with crmPortHandle := crmPortHandle } }
  else if portStatus = portStatusDown ∧ port.portId ≠ 0 ∧ port.portId = systemPortId ∧
      port.portStatus = systemPortReady then
    { port :=
        { port with portId := 0, portStatus := systemPortNotReady, systemPortHandle := 0 }
      notificationType := some crmPortDelete
      data := { port.notificationData with crmPortStatus := systemPortNotReady } }
  else
    { port := port }

/-- The second `if`, over a port whose description is updated; the call returns where there
is none. -/
def StatusChange.update (change : StatusChange) (portStatus : UInt8) (systemPortId : UInt32) :
    Option StatusChange :=
  if portStatus = portStatusUpdate then
    let written : CrmPort :=
      { change.port with portId := systemPortId, portStatus := systemPortReady }
    if change.port.portId = 0 ∧ change.port.portStatus = systemPortNotReady ∧
        systemPortId ≠ 0 then
      some
        { port := written
          notificationType := some crmPortAdded
          data := { written.notificationData with oldPortId := change.data.oldPortId } }
    else if change.port.portId ≠ 0 ∧ change.port.portStatus = systemPortReady ∧
        systemPortId ≠ 0 ∧ change.port.portId ≠ systemPortId then
      some
        { port := written
          notificationType := some crmPortModified
          data := { written.notificationData with oldPortId := change.port.portId } }
    else if change.port.portId ≠ 0 ∧ change.port.portStatus = systemPortReady ∧
        systemPortId ≠ 0 ∧ change.port.portId = systemPortId then
      some
        { port := written
          notificationType := some crmPortAdded
          data := { written.notificationData with oldPortId := change.data.oldPortId } }
    else none
  else
    some change

/-- `crm_set_port_status`; `garbage` is what the local for the type holds before it is
written.  The lock is not released behind the dispatch. -/
def crmSetPortStatus (state : CrmPortSystem) (crmPortHandle : MchashNoderef)
    (systemPortHandle : UInt64) (portStatus : UInt8) (systemPortId : UInt32)
    (garbage : UInt32) : CrmPortSystem × List NotificationCall :=
  if portStatus = portStatusCreated then (state, [])
  else
    let state := state.take
    match state.ports.table.access crmPortHandle with
    | .invalid => (state.release, [])
    | .valid none => ({ state with undefined := true }, [])
    | .fault => ({ state with undefined := true }, [])
    | .valid (some block) =>
      let change := (state.ports.objects block).upOrDown crmPortHandle systemPortHandle
        portStatus systemPortId
      match change.update portStatus systemPortId with
      | none => (state.release, [])
      | some change =>
        (state.setPort block change.port).dispatch
          (change.notificationType.getD garbage) change.data

/-! ## The notifications of the datapath database -/

/-- What the datapath database answers about the port of a name: its handle and its number;
or that there is no such port, which is then added; or a handle that leads to no port. -/
inductive DprmPort where
  | present (portHandle : UInt64) (portId : UInt32)
  | absent
  | lost

/-- The locals of the caller that `psm_get_port_status` writes. -/
structure PortStatusAnswer where
  dpPortHandle : UInt64
  portStatus : UInt8
  portId : UInt32

def psmGetPortStatus (dprmPort : DprmPort) (locals : PortStatusAnswer) : PortStatusAnswer :=
  match dprmPort with
  | .present portHandle portId =>
    if 0 < portId then
      { dpPortHandle := portHandle, portStatus := portStatusUp, portId := portId }
    else
      { dpPortHandle := portHandle, portStatus := portStatusDown, portId := 0 }
  | .lost => locals
  | .absent => { locals with portStatus := portStatusCreated, portId := 0 }

/-- What the three callbacks for the ports of a datapath have in common. -/
def psmDpPortCbk (state : CrmPortSystem) (portStatus : UInt8) (portName : Name)
    (portHandle : UInt64) (portId : UInt32) (garbage : UInt32) :
    CrmPortSystem × List NotificationCall :=
  match state.portNamed portName with
  | none => (state, [])
  | some entry =>
    if portId ≠ 0 then
      crmSetPortStatus state (state.ports.objects entry.node).handle portHandle portStatus
        portId garbage
    else (state, [])

def psmDpPortAddedNotificationsCbk (state : CrmPortSystem) (portName : Name)
    (portHandle : UInt64) (portId : UInt32) (garbage : UInt32) :
    CrmPortSystem × List NotificationCall :=
  psmDpPortCbk state portStatusUp portName portHandle portId garbage

def psmDpPortUpdateNotificationsCbk (state : CrmPortSystem) (portName : Name)
    (portHandle : UInt64) (portId : UInt32) (garbage : UInt32) :
    CrmPortSystem × List NotificationCall :=
  psmDpPortCbk state portStatusUpdate portName portHandle portId garbage

def psmDpPortDeleteNotificationsCbk (state : CrmPortSystem) (portName : Name)
    (portHandle : UInt64) (portId : UInt32) (garbage : UInt32) :
    CrmPortSystem × List NotificationCall :=
  psmDpPortCbk state portStatusDown portName portHandle portId garbage

/-- `psm_crm_port_added_notifications_cbk`, for a notification of the type it is registered
for. -/
def psmCrmPortAddedNotificationsCbk (state : CrmPortSystem) (crmPortHandle : MchashNoderef)
    (dprmPort : DprmPort) (locals : PortStatusAnswer) (garbage : UInt32) :
    CrmPortSystem × List NotificationCall :=
  let answer := psmGetPortStatus dprmPort locals
  crmSetPortStatus state crmPortHandle answer.dpPortHandle answer.portStatus answer.portId garbage

/-! ## Events -/

/-- A CRM port is added, with the block of the pool, and its status asked for; or the
datapath database reports a port of a name. -/
inductive PortEvent where
  | crmPortStatus (config : CrmPortConfig) (block : Option Nat) (dprmPort : DprmPort)
      (locals : PortStatusAnswer) (garbage : UInt32)
  | dpPortAdded (portName : Name) (portHandle : UInt64) (portId : UInt32) (garbage : UInt32)
  | dpPortDescUpdate (portName : Name) (portHandle : UInt64) (portId : UInt32)
      (garbage : UInt32)
  | dpPortDelete (portName : Name) (portHandle : UInt64) (portId : UInt32) (garbage : UInt32)

/-- The part of `crm_add_crm_nwport` and `crm_add_crm_vmport` that fills and links a port:
it is not ready. -/
def CrmPortSystem.addPort (state : CrmPortSystem) (config : CrmPortConfig)
    (block : Option Nat) : Option (CrmPortSystem × MchashNoderef) :=
  match state.pool.get block with
  | none => none
  | some (pool, block) =>
    match state.ports.table.append block with
    | (_, none) => none
    | (table, some noderef) =>
      some
        ({ state with
            ports :=
              { table := table
                objects := Function.update state.ports.objects block
                  { config := config
                    portId := 0
                    portStatus := systemPortNotReady
                    handle := noderef
                    systemPortHandle := 0 } }
            pool := pool },
          noderef)

/-- The state after an event, and the calls of the subscribers in their order. -/
def applyPortEvent (state : CrmPortSystem) : PortEvent → CrmPortSystem × List NotificationCall
  | .crmPortStatus config block dprmPort locals garbage =>
    match state.addPort config block with
    | none => (state, [])
    | some (added, crmPortHandle) =>
      psmCrmPortAddedNotificationsCbk added crmPortHandle dprmPort locals garbage
  | .dpPortAdded portName portHandle portId garbage =>
    psmDpPortAddedNotificationsCbk state portName portHandle portId garbage
  | .dpPortDescUpdate portName portHandle portId garbage =>
    psmDpPortUpdateNotificationsCbk state portName portHandle portId garbage
  | .dpPortDelete portName portHandle portId garbage =>
    psmDpPortDeleteNotificationsCbk state portName portHandle portId garbage

end OpenFlowController.Crm
