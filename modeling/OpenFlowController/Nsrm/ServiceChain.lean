/-
Module: Nsrm.ServiceChain
Purpose: The services attached to the chains and their instances: the calls that attach and
  detach services, with the table of attached services every chain keeps in the order of their
  sequence numbers, and those that register launched and de-launched instances, with the queries.
Source: ofproto/src/nsrm/nsrm_chain.c 50-75, 709-958 (nsrm_attach_nwservice_object_to_nschain_object),
  1205-1344 (nsrm_detach_nwservice_object_from_nschain_object), 1907-2228
  (nsrm_register_launched_nwservice_object_instance), 2230-2409
  (nsrm_register_delaunch_nwswervice_object_instance), 2411-2709
  (nsrm_get_first_nwservice_instance, nsrm_get_next_nwservice_instance,
  nsrm_get_exact_nwservice_instance), 2741-2764 (nsrm_get_attached_nwservice_byhandle)
Trusted boundary: the answers of the resource manager about a virtual machine and its port are
  inputs, there is memory for the names (their `calloc` is not checked), the read locks and the
  notifications are left out
-/
import OpenFlowController.Nsrm.Objects
import OpenFlowController.Nsrm.RuleTable

namespace OpenFlowController.Nsrm

open Utils

/-- `nsrm_nwservice_attach_key`. -/
structure NwserviceAttachKey where
  name : Option Name
  nschainObjectName : Option Name
  sequenceNumber : UInt16

/-- The registered services and chains, the blocks of `nsrm_nschain_nwservice_object_mempool_g`
and what is stored in them. -/
structure ServiceChains where
  nwservices : Registry NwserviceObject
  nschains : Registry NschainObject
  attached : Nat → NschainNwserviceObject
  attachedPool : BlockPool
  /-- a null pointer was followed, or an address that is no block was given to the pool -/
  undefined : Bool

namespace ServiceChains

/-- `nwservice_objects_list` of a chain. -/
def listOf (state : ServiceChains) (nschain : Nat) : ListPtr :=
  (state.nschains.objects nschain).nwserviceObjectsList

/-- The services of a chain in the order of the bucket. -/
def servicesOf (state : ServiceChains) (nschain : Nat) : List NschainNwserviceObject :=
  (state.listOf nschain).linked.map (fun entry => state.attached entry.node)

def setList (state : ServiceChains) (nschain : Nat) (list : ListPtr) : ServiceChains :=
  { state with
    nschains := state.nschains.change nschain
      (fun chain => { chain with nwserviceObjectsList := list }) }

/-- `no_of_nw_service_objects++`, and with a decrement `no_of_nw_service_objects--`. -/
def count (state : ServiceChains) (nschain : Nat) (change : UInt8 → UInt8) : ServiceChains :=
  { state with
    nschains := state.nschains.change nschain
      (fun chain => { chain with noOfNwServiceObjects := change chain.noOfNwServiceObjects }) }

/-- `attach_status = 1`. -/
def markAttached (state : ServiceChains) (nwservice : Nat) : ServiceChains :=
  { state with
    nwservices := state.nwservices.change nwservice
      (fun service => { service with attachStatus := 1 }) }

def undefine (state : ServiceChains) : ServiceChains :=
  { state with undefined := true }

/-- The scan for the node before which a service with this sequence number is inserted. -/
def nextOf (state : ServiceChains) (nschain : Nat) (sequenceNumber : UInt16) :
    Option (LinkedNode Nat) :=
  if (state.nschains.objects nschain).noOfNwServiceObjects ≠ 0 then
    (state.listOf nschain).linked.find?
      (fun entry => ¬ (state.attached entry.node).sequenceNumber < sequenceNumber)
  else
    none

end ServiceChains

open ServiceChains

/-! ## Attaching -/

/-- The second half of an attachment: the block is filled, and is appended or inserted.  A
failed insertion releases the address of the local pointer. -/
def insertAttached (state : ServiceChains) (nschain block : Nat) : ServiceChains × NsrmStatus :=
  match state.nextOf nschain (state.attached block).sequenceNumber with
  | none =>
    match (state.listOf nschain).append block with
    | (_, none) => (state, .failure)
    | (list, some _) => ((state.setList nschain list).count nschain (· + 1), .success)
  | some next =>
    match (state.listOf nschain).insertBefore next.noderef block with
    | (_, none) => (state.undefine, .nwserviceObjectAttachToNschainFail)
    | (list, some _) => ((state.setList nschain list).count nschain (· + 1), .success)

/-- The first half: the sequence number and the name are looked for in the table, and a
block is taken. -/
def attachToNschain (state : ServiceChains) (nschain : Nat) (nwservice : LinkedNode Nat)
    (name : Name) (sequenceNumber : UInt16) (supply : Supply) : ServiceChains × NsrmStatus :=
  if (state.servicesOf nschain).any
      (fun service => service.sequenceNumber = sequenceNumber ∨ service.name = name) then
    (state, .failure)
  else
    match state.attachedPool.get supply.block with
    | none => (state, .failure)
    | some (pool, block) =>
      let filled :=
        { state with
          attachedPool := pool
          attached := Function.update state.attached block
            { name := (state.nwservices.objects nwservice.node).name
              nwserviceObjectSaferef := nwservice.noderef
              sequenceNumber := sequenceNumber } }
      insertAttached (filled.markAttached nwservice.node) nschain block

/-- `nsrm_attach_nwservice_object_to_nschain_object`. -/
def attachNwserviceObjectToNschainObject (state : ServiceChains) (key : NwserviceAttachKey)
    (supply : Supply) : ServiceChains × NsrmStatus :=
  match key.name, key.nschainObjectName with
  | none, _ => (state, .errorNwserviceObjectNameInvalid)
  | some _, none => (state, .errorNschainObjectNameInvalid)
  | some name, some nschainName =>
    match state.nschains.named NschainObject.name nschainName with
    | none => (state, .errorNschainObjectNameInvalid)
    | some nschain =>
      match state.nwservices.named NwserviceObject.name name with
      | none => (state, .errorNwserviceObjectNameInvalid)
      | some nwservice =>
        match (state.listOf nschain.node).ensure nsrmMaxNschainNwserviceObjectEntries supply with
        | (list, false) => (state.setList nschain.node list, .failure)
        | (list, true) =>
          attachToNschain (state.setList nschain.node list) nschain.node nwservice
            name key.sequenceNumber supply

/-! ## Detaching -/

/-- The node is unlinked by its own reference, and the counter is lowered whatever the
macro reports. -/
def removeAttached (state : ServiceChains) (nschain : Nat) (entry : LinkedNode Nat) :
    ServiceChains × NsrmStatus :=
  match (state.listOf nschain).deleteByRef entry.noderef with
  | (list, .deleted block) =>
    let unlinked := (state.setList nschain list).count nschain (· - 1)
    ({ unlinked with attachedPool := state.attachedPool.retire block }, .success)
  | (list, .notDeleted) =>
    ((state.setList nschain list).count nschain (· - 1), .nwserviceObjectDetachFromNschainFail)
  | (_, .fault) => (state.undefine, .nwserviceObjectDetachFromNschainFail)

/-- The scan for the service in the table of the chain, which is not compared with the null
pointer first. -/
def detachFromNschain (state : ServiceChains) (nschain : Nat) (nwservice : LinkedNode Nat)
    (name : Name) : ServiceChains × NsrmStatus :=
  match state.listOf nschain with
  | .null => (state.undefine, .failure)
  | list =>
    match list.linked.find? (fun entry =>
        (state.attached entry.node).name = name ∧
          (state.attached entry.node).nwserviceObjectSaferef = nwservice.noderef) with
    | none => (state, .failure)
    | some entry => removeAttached state nschain entry

/-- `nsrm_detach_nwservice_object_from_nschain_object`. -/
def detachNwserviceObjectFromNschainObject (state : ServiceChains) (key : NwserviceAttachKey) :
    ServiceChains × NsrmStatus :=
  match key.name, key.nschainObjectName with
  | none, _ => (state, .errorNwserviceObjectNameInvalid)
  | some _, none => (state, .errorNschainObjectNameInvalid)
  | some name, some nschainName =>
    match state.nwservices.named NwserviceObject.name name with
    | none => (state, .errorNwserviceObjectNameInvalid)
    | some nwservice =>
      if (state.nwservices.objects nwservice.node).attachStatus = 0 then
        (state, .failure)
      else if (state.nwservices.objects nwservice.node).bypassAttachCount ≠ 0 then
        (state, .nwserviceUsedInBypassRule)
      else
        match state.nschains.named NschainObject.name nschainName with
        | none => (state, .errorNschainObjectNameInvalid)
        | some nschain => detachFromNschain state nschain.node nwservice name

/-! ## Runs -/

/-- A call, or the free function of a table giving back a block after the grace period. -/
inductive ChainEvent where
  | attach (key : NwserviceAttachKey) (supply : Supply)
  | detach (key : NwserviceAttachKey)
  | reclaim (block : Nat)

def applyEvent (state : ServiceChains) : ChainEvent → ServiceChains × NsrmStatus
  | .attach key supply => attachNwserviceObjectToNschainObject state key supply
  | .detach key => detachNwserviceObjectFromNschainObject state key
  | .reclaim block =>
    ({ state with attachedPool := state.attachedPool.reclaim block }, .success)

/-- The state a run reached, and the calls that led there with what they returned. -/
structure ChainRun where
  state : ServiceChains
  history : List (ChainEvent × NsrmStatus)

def ChainRun.step (run : ChainRun) (event : ChainEvent) : ChainRun where
  state := (applyEvent run.state event).1
  history := run.history ++ [(event, (applyEvent run.state event).2)]

/-! ## Instances -/

/-- `nsrm_nwservice_instance_key`. -/
structure NwserviceInstanceKey where
  nwserviceInstanceName : Option Name
  tenantName : Option Name
  nschainObjectName : Option Name
  nwserviceObjectName : Option Name
  vmName : Option Name
  vlanIdIn : UInt16
  vlanIdOut : UInt16

/-- What the launch uses of `crm_port`; `ready` tells that `port_status` is
`SYSTEM_PORT_READY`. -/
structure CrmPort where
  portName : Name
  switchName : Name
  ready : Bool

/-- What the resource manager answers: `crm_get_vm_handle`,
`rrm_get_vm_logicalswitch_side_ports` and `crm_get_port_byhandle`. -/
structure VmAnswers where
  vmHandle : Option UInt64
  portSaferef : Option UInt64
  port : Option CrmPort

structure NwserviceInstance where
  name : Name
  vmName : Name
  tenantName : Name
  nschainObjectName : Name
  nwserviceObjectName : Name
  switchName : Name
  vmSaferef : UInt64
  vlanIdIn : UInt16
  vlanIdOut : UInt16
  vmNsPortName : Name
  vmNsPortSaferef : UInt64

/-- `nsrm_nwservice_instance_record`. -/
structure NwserviceInstanceRecord where
  nwserviceInstanceName : Name
  tenantName : Name
  nschainObjectName : Name
  nwserviceObjectName : Name
  vmName : Name
  vlanIdIn : UInt16
  vlanIdOut : UInt16

/-- What a query copies of an instance. -/
def NwserviceInstance.record (nwserviceInstance : NwserviceInstance) : NwserviceInstanceRecord where
  nwserviceInstanceName := nwserviceInstance.name
  tenantName := nwserviceInstance.tenantName
  nschainObjectName := nwserviceInstance.nschainObjectName
  nwserviceObjectName := nwserviceInstance.nwserviceObjectName
  vmName := nwserviceInstance.vmName
  vlanIdIn := nwserviceInstance.vlanIdIn
  vlanIdOut := nwserviceInstance.vlanIdOut

/-- The instance that a launch writes to its block, when the port of the virtual machine is
found and ready. -/
def NwserviceInstanceKey.launched (key : NwserviceInstanceKey) (answers : VmAnswers) :
    Option NwserviceInstance := do
  let name ← key.nwserviceInstanceName
  let tenantName ← key.tenantName
  let nschainObjectName ← key.nschainObjectName
  let nwserviceObjectName ← key.nwserviceObjectName
  let vmName ← key.vmName
  let vmSaferef ← answers.vmHandle
  let vmNsPortSaferef ← answers.portSaferef
  let port ← answers.port
  if port.ready then
    some
      { name := name
        vmName := vmName
        tenantName := tenantName
        nschainObjectName := nschainObjectName
        nwserviceObjectName := nwserviceObjectName
        switchName := port.switchName
        vmSaferef := vmSaferef
        vlanIdIn := key.vlanIdIn
        vlanIdOut := key.vlanIdOut
        vmNsPortName := port.portName
        vmNsPortSaferef := vmNsPortSaferef }
  else none

/-- The chains with their attached services, the tenants of the chains, and the instances:
`instances` has the `nwservice_instance_list` and the `nwservice_instance_count` of every
block of an attached service, and the blocks of `nsrm_nwservice_instance_mempool_g`. -/
structure ServiceInstances where
  chains : ServiceChains
  tenants : Name → Bool
  tenantOf : Nat → Name
  instances : RuleTable NwserviceInstance
  /-- a null pointer was followed, an address that is no block was given to the pool, or a
  record was written behind the array of a query -/
  undefined : Bool

namespace ServiceInstances

def setInstances (state : ServiceInstances) (instances : RuleTable NwserviceInstance) :
    ServiceInstances :=
  { state with instances := instances }

def undefine (state : ServiceInstances) : ServiceInstances :=
  { state with undefined := true }

end ServiceInstances

open ServiceInstances

/-! ## The attached service -/

/-- The node of a chain's table that stores a service's handle. -/
def ServiceChains.attachedEntry (chains : ServiceChains) (nschain : Nat)
    (nwservice : MchashNoderef) : Option (LinkedNode Nat) :=
  (chains.listOf nschain).linked.find?
    (fun entry => (chains.attached entry.node).nwserviceObjectSaferef = nwservice)

/-- Where the scan of a chain for a service ends. -/
inductive AttachedScan where
  /-- there is no table, or no node in it, and the cursor is still null -/
  | faulted
  | unknownService
  | stopped (entry : LinkedNode Nat)

/-- The scan of a chain for a service.  The name is looked up inside the loop, and the cursor
of a scan that finds nothing is left at the last node. -/
def ServiceChains.scanFor (chains : ServiceChains) (nschain : Nat) (name : Name) :
    AttachedScan :=
  match (chains.listOf nschain).linked.getLast? with
  | none => .faulted
  | some last =>
    match chains.nwservices.named NwserviceObject.name name with
    | none => .unknownService
    | some nwservice =>
      .stopped ((chains.attachedEntry nschain nwservice.noderef).getD last)

/-! ## Launching -/

/-- The launch at an attached service: its table is created at the first launch, the name
is looked for, and with a port that is ready a block is taken and linked. -/
def launchAt (state : ServiceInstances) (attached : Nat) (name : Name)
    (launched : Option NwserviceInstance) (supply : Supply) : ServiceInstances × NsrmStatus :=
  match (state.instances.lists attached).ensure nsrmMaxNwserviceInstanceEntries supply with
  | (list, false) => (state.setInstances (state.instances.setList attached list), .failure)
  | (list, true) =>
    let instances := state.instances.setList attached list
    if name ∈ instances.namesOf NwserviceInstance.name attached then
      (state.setInstances instances, .failure)
    else
      match launched with
      | none => (state.setInstances instances, .failure)
      | some launched =>
        match instances.pool.get supply.block with
        | none => (state.setInstances instances, .failure)
        | some (pool, block) =>
          match (instances.fill pool block launched).linkRule attached (list.append block)
              .appended with
          | (instances, .appended) => (state.setInstances instances, .success)
          | (instances, _) =>
            ((state.setInstances instances).undefine, .nwserviceInstanceLaunchFail)

/-- `nsrm_register_launched_nwservice_object_instance`. -/
def registerLaunchedNwserviceObjectInstance (state : ServiceInstances)
    (key : NwserviceInstanceKey) (answers : VmAnswers) (supply : Supply) :
    ServiceInstances × NsrmStatus :=
  match key.nwserviceInstanceName, key.tenantName, key.nschainObjectName,
    key.nwserviceObjectName, key.vmName with
  | none, _, _, _, _ => (state, .errorNwserviceInstanceNameNull)
  | some name, some tenantName, some nschainName, some nwserviceName, some _ =>
    if state.tenants tenantName then
      match answers.vmHandle with
      | none => (state, .failure)
      | some _ =>
        match state.chains.nschains.named NschainObject.name nschainName with
        | none => (state, .errorNschainObjectNameInvalid)
        | some nschain =>
          if state.tenantOf nschain.node = tenantName then
            match state.chains.scanFor nschain.node nwserviceName with
            | .faulted => (state.undefine, .failure)
            | .unknownService => (state, .errorNwserviceObjectNameInvalid)
            | .stopped entry =>
              launchAt state entry.node name (key.launched answers) supply
          else
            (state, .failure)
    else
      (state, .failure)
  | some _, _, _, _, _ => (state, .failure)

/-! ## De-launching -/

/-- The de-launch at an attached service.  The cursor of a scan that does not find the name
is left at the last instance, which is then deleted. -/
def delaunchAt (state : ServiceInstances) (attached : Nat) (name : Name) :
    ServiceInstances × NsrmStatus :=
  if state.instances.noOfRules attached = 0 then
    (state, .failure)
  else
    match state.instances.lists attached with
    | .null => (state, .failure)
    | list =>
      match list.linked.getLast? with
      | none => (state.undefine, .failure)
      | some last =>
        let entry := (list.linked.find?
          (fun entry => (state.instances.rules entry.node).name = name)).getD last
        match list.deleteByRef entry.noderef with
        | (list, .deleted block) =>
          let instances := state.instances.setList attached list
          (state.setInstances
            { instances with
              pool := instances.pool.retire block
              noOfRules := Function.update instances.noOfRules attached
                (instances.noOfRules attached - 1) }, .success)
        | (list, .notDeleted) =>
          (state.setInstances (state.instances.setList attached list),
            .nwserviceInstanceDelaunchFail)
        | (_, .fault) => (state.undefine, .nwserviceInstanceDelaunchFail)

/-- `nsrm_register_delaunch_nwswervice_object_instance`. -/
def registerDelaunchNwserviceObjectInstance (state : ServiceInstances)
    (key : NwserviceInstanceKey) : ServiceInstances × NsrmStatus :=
  match key.nwserviceInstanceName, key.tenantName, key.nschainObjectName,
    key.nwserviceObjectName with
  | none, _, _, _ => (state, .errorNwserviceInstanceNameNull)
  | some name, some tenantName, some nschainName, some nwserviceName =>
    if state.tenants tenantName then
      match state.chains.nschains.named NschainObject.name nschainName with
      | none => (state, .errorNschainObjectNameInvalid)
      | some nschain =>
        match state.chains.listOf nschain.node with
        | .null => (state, .failure)
        | _ =>
          if state.tenantOf nschain.node = tenantName then
            match state.chains.scanFor nschain.node nwserviceName with
            | .faulted => (state.undefine, .failure)
            | .unknownService => (state, .errorNwserviceObjectNameInvalid)
            | .stopped entry => delaunchAt state entry.node name
          else
            (state, .failure)
    else
      (state, .failure)
  | some _, _, _, _ => (state, .failure)

/-! ## Queries -/

/-- The queries for the instances of a pair. -/
inductive InstanceQuery where
  | first (requested : UInt32)
  | next (relative : Name) (requested : UInt32)
  | exact (name : Name)

/-- What a query returns: its status, the records it wrote and the number it reports. -/
structure InstanceAnswer where
  status : NsrmStatus
  records : List NwserviceInstanceRecord
  returned : Option UInt32

/-- The copying loop: it stops when the number of requested records comes down to 0. -/
def copyRecords : UInt32 → List NwserviceInstance → List NwserviceInstanceRecord
  | _, [] => []
  | requested, head :: rest =>
    head.record :: if requested - 1 = 0 then [] else copyRecords (requested - 1) rest

/-- The end of the first and the next query.  Without an answer a record was written behind
the array. -/
def answerPage (requested : UInt32) (nwserviceInstances : List NwserviceInstance) :
    Option InstanceAnswer :=
  let records := copyRecords requested nwserviceInstances
  if requested.toNat < records.length then
    none
  else if requested ≠ UInt32.ofNat records.length then
    some { status := .failure, records := records, returned := none }
  else if records = [] then
    some { status := .errorNoMoreEntries, records := records, returned := none }
  else
    some { status := .success, records := records, returned := UInt32.ofNat records.length }

/-- The part of the bucket behind the relative record. -/
def afterRelative (relative : Name) : List NwserviceInstance → List NwserviceInstance
  | [] => []
  | head :: rest => if head.name = relative then rest else afterRelative relative rest

/-- The scans of `nsrm_get_first_nwservice_instance`, `nsrm_get_next_nwservice_instance` and
`nsrm_get_exact_nwservice_instance`. -/
def InstanceQuery.scan (nwserviceInstances : List NwserviceInstance) :
    InstanceQuery → Option InstanceAnswer
  | first requested => answerPage requested nwserviceInstances
  | next relative requested => answerPage requested (afterRelative relative nwserviceInstances)
  | exact name =>
    match nwserviceInstances.find? (fun nwserviceInstance => nwserviceInstance.name = name) with
    | none => some { status := .failure, records := [], returned := none }
    | some found => some { status := .success, records := [found.record], returned := none }

/-- `nsrm_get_attached_nwservice_byhandle`: the handle is the one that the table of all
services issued, and it is looked up in the table of the chain. -/
def ServiceChains.getAttachedNwserviceByhandle (chains : ServiceChains) (nschain : Nat)
    (handle : MchashNoderef) : AccessResult Nat :=
  match chains.listOf nschain with
  | .table entries => entries.access handle
  | _ => .fault

/-- A query for the instances of a service of a chain; its callers give all names. -/
def ServiceInstances.query (state : ServiceInstances) (nschainName nwserviceName : Name)
    (query : InstanceQuery) : Option InstanceAnswer :=
  match state.chains.nschains.named NschainObject.name nschainName,
    state.chains.nwservices.named NwserviceObject.name nwserviceName with
  | some nschain, some nwservice =>
    match state.chains.getAttachedNwserviceByhandle nschain.node nwservice.noderef with
    | .valid (some attached) =>
      match state.instances.lists attached with
      | .null => some { status := .failure, records := [], returned := none }
      | _ => query.scan (state.instances.rulesOf attached)
    | .valid none => none
    | .invalid => some { status := .failure, records := [], returned := none }
    | .fault => none
  | _, _ => some { status := .failure, records := [], returned := none }

/-! ## Runs -/

/-- A call, or a block given back to its pool after the grace period. -/
inductive InstanceEvent where
  | launch (key : NwserviceInstanceKey) (answers : VmAnswers) (supply : Supply)
  | delaunch (key : NwserviceInstanceKey)
  | query (nschainName nwserviceName : Name) (query : InstanceQuery)
  | reclaim (block : Nat)

def applyInstanceEvent (state : ServiceInstances) : InstanceEvent → ServiceInstances × NsrmStatus
  | .launch key answers supply => registerLaunchedNwserviceObjectInstance state key answers supply
  | .delaunch key => registerDelaunchNwserviceObjectInstance state key
  | .query nschainName nwserviceName query =>
    match state.query nschainName nwserviceName query with
    | some answer => (state, answer.status)
    | none => (state.undefine, .failure)
  | .reclaim block =>
    (state.setInstances
      { state.instances with pool := state.instances.pool.reclaim block }, .success)

/-- The state a run reached, and the calls that led there with what they returned. -/
structure InstanceRun where
  state : ServiceInstances
  history : List (InstanceEvent × NsrmStatus)

def InstanceRun.step (run : InstanceRun) (event : InstanceEvent) : InstanceRun where
  state := (applyInstanceEvent run.state event).1
  history := run.history ++ [(event, (applyInstanceEvent run.state event).2)]

end OpenFlowController.Nsrm
