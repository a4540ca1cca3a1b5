/-
Module: Nsrm.Registries
Purpose: The four global registries of network services, chains, chain sets and L2 network
  service maps: the calls that add, modify and delete an object by its name.
Source: ofproto/src/nsrm/nsrm_service.c 89-420, nsrm_chain.c 151-494, nsrm_chainset.c 86-397,
  nsrm_l2service_map.c 88-506
Trusted boundary: the answers of the resource manager about tenants and virtual networks and the
  values of locals that are read before they are written are inputs, a name fits the buffer it is
  copied to, the array of parameters has the entries that a call reads whatever
  number_of_config_params says, the tables exist, and the read locks are left out
-/
import OpenFlowController.Nsrm.Objects

namespace OpenFlowController.Nsrm

open Utils

/-! ## What the registries have in common -/

/-- What the objects of the four registries have in common; `handle` is the handle an object
stores of itself. -/
structure RegistryObject (κ : Type) where
  name : Name
  tenantName : Name
  handle : MchashNoderef
  settings : κ

/-- A global table, the objects behind the blocks it links, their pool and the hash function
that picks the bucket of a name. -/
structure NameRegistry (κ : Type) where
  registry : Registry (RegistryObject κ)
  pool : BlockPool
  hash : Name → Nat
  buckets : Nat

/-- The key of a call; both pointers may be null. -/
structure ObjectKey where
  name : Option Name
  tenantName : Option Name

/-- What a call leaves and returns, and the handles it passes to the notifications. -/
structure RegistryResult (κ : Type) where
  registry : NameRegistry κ
  status : NsrmStatus
  notified : List MchashNoderef := []
  /-- a null pointer was followed, memory outside the table was read, or an address that is
  no block was given to the pool -/
  fault : Bool := false

namespace NameRegistry

variable {κ : Type}

def objectAt (registry : NameRegistry κ) (entry : LinkedNode Nat) : RegistryObject κ :=
  registry.registry.objects entry.node

/-- The node that a name leads to. -/
def named (registry : NameRegistry κ) (name : Name) : Option (LinkedNode Nat) :=
  registry.registry.named RegistryObject.name name

/-- The bucket of a name. -/
def bucket (registry : NameRegistry κ) (name : Name) : List (LinkedNode Nat) :=
  registry.registry.table.linked.filter
    (fun entry => registry.hash (registry.objectAt entry).name = registry.hash name)

/-- The object in a block is rewritten. -/
def rewrite (registry : NameRegistry κ) (block : Nat)
    (change : RegistryObject κ → RegistryObject κ) : NameRegistry κ :=
  { registry with registry := registry.registry.change block change }

def fails (registry : NameRegistry κ) (status : NsrmStatus) : RegistryResult κ :=
  { registry := registry, status := status }

def faults (registry : NameRegistry κ) : RegistryResult κ :=
  { registry := registry, status := .failure, fault := true }

/-- The second half of an addition: a block is taken and filled, and linked.  A table
without a free entry ends with the address of the local pointer given to the pool. -/
def link (registry : NameRegistry κ) (pool : BlockPool) (block : Nat) (addFail : NsrmStatus)
    (write : MchashNoderef → RegistryObject κ) : RegistryResult κ :=
  match registry.registry.table.append block with
  | (_, none) => { registry := { registry with pool := pool }, status := addFail, fault := true }
  | (table, some noderef) =>
    { registry :=
        { registry with
          registry :=
            { table := table
              objects := Function.update registry.registry.objects block (write noderef) }
          pool := pool }
      status := .success
      notified := [(write noderef).handle] }

/-- What the four deletions have in common; `refuses` is what else keeps an object. -/
def delete (registry : NameRegistry κ) (key : ObjectKey) (invalid delFail : NsrmStatus)
    (refuses : RegistryObject κ → Option NsrmStatus) : RegistryResult κ :=
  match key.name with
  | none => registry.fails invalid
  | some name =>
    match registry.named name with
    | none => registry.fails invalid
    | some entry =>
      match registry.registry.table.access entry.noderef with
      | .fault => registry.faults
      | .valid none => registry.faults
      | .invalid => registry.fails .failure
      | .valid (some block) =>
        match key.tenantName with
        | none => registry.faults
        | some tenantName =>
          if tenantName ≠ (registry.registry.objects block).tenantName then
            registry.fails .failure
          else
            match refuses (registry.registry.objects block) with
            | some status => registry.fails status
            | none =>
              match registry.registry.table.deleteByRef entry.noderef with
              | (table, .deleted block) =>
                { registry :=
                    { registry with
                      registry := { registry.registry with table := table }
                      pool := registry.pool.retire block }
                  status := .success
                  notified :=
                    [entry.noderef, (registry.registry.objects block).handle] }
              | (_, .notDeleted) => registry.fails delFail
              | (_, .fault) => registry.faults

/-- The modification of a service and of a chain set.  The scan sets a flag and goes on, so
that the cursor ends at the last node of the bucket, and this node is rewritten. -/
def modifyLast (registry : NameRegistry κ) (key : ObjectKey) (invalid modFail : NsrmStatus)
    (write : κ → κ) : RegistryResult κ :=
  match key.name, key.tenantName with
  | some name, some tenantName =>
    match registry.named name with
    | none => registry.fails invalid
    | some _ =>
      if (registry.bucket name).any (fun entry =>
          (registry.objectAt entry).name = name ∧
            (registry.objectAt entry).tenantName = tenantName) then
        match (registry.bucket name).getLast? with
        | none => registry.faults
        | some last =>
          { registry := registry.rewrite last.node (fun object =>
              { object with
                name := name
                tenantName := tenantName
                settings := write object.settings })
            status := .success }
      else
        registry.fails modFail
  | _, _ => registry.fails .failure

end NameRegistry

/-- What an addition is answered: whether the tenant is known or could be added, the block
of the pool, and what a local held that was not initialised. -/
structure AddAnswers where
  tenantReady : Bool
  block : Option Nat
  garbage : UInt64

open NameRegistry

/-! ## Network services -/

/-- What a service has beside its names and its handle. -/
structure NwserviceSettings where
  typeE : UInt8
  adminStatusE : UInt8
  attachStatus : UInt8 := 0
  bypassAttachCount : UInt8 := 0

/-- The configuration of a service. -/
structure NwserviceConfig where
  numberOfConfigParams : Nat
  typeE : UInt8
  adminStatusE : UInt8

/-- `nsrm_add_nwservice_object`.  The bucket is scanned before the hash key is computed, and
the scan for a duplicate is left without consequence. -/
def addNwserviceObject (registry : NameRegistry NwserviceSettings) (key : ObjectKey)
    (config : NwserviceConfig) (answers : AddAnswers) : RegistryResult NwserviceSettings :=
  match key.name, key.tenantName with
  | none, _ => registry.fails .errorNwserviceObjectNameInvalid
  | some _, none => registry.faults
  | some name, some tenantName =>
    if ¬ answers.tenantReady then registry.fails .failure
    else if config.numberOfConfigParams = 0 then registry.fails .failure
    else if registry.buckets ≤ answers.garbage.toUInt32.toNat then registry.faults
    else
      match registry.pool.get answers.block with
      | none => registry.fails .failure
      | some (pool, block) =>
        registry.link pool block .nwserviceObjectAddFail (fun noderef =>
          { name := name
            tenantName := tenantName
            handle := noderef
            settings := { typeE := config.typeE, adminStatusE := config.adminStatusE } })

/-- `nsrm_del_nwservice_object`. -/
def delNwserviceObject (registry : NameRegistry NwserviceSettings) (key : ObjectKey) :
    RegistryResult NwserviceSettings :=
  registry.delete key .errorNwserviceObjectNameInvalid .nwserviceObjectDelFail (fun object =>
    if object.settings.attachStatus ≠ 0 then some .failure
    else if object.settings.bypassAttachCount ≠ 0 then some .failure
    else none)

/-- `nsrm_modify_nwservice_object`. -/
def modifyNwserviceObject (registry : NameRegistry NwserviceSettings) (key : ObjectKey)
    (config : NwserviceConfig) : RegistryResult NwserviceSettings :=
  registry.modifyLast key .errorNwserviceObjectNameInvalid .nwserviceObjectModFail
    (fun settings => { settings with typeE := config.typeE, adminStatusE := config.adminStatusE })

/-! ## Chains -/

/-- What a chain has beside its names and its handle. -/
structure NschainSettings where
  nschainType : UInt8
  loadSharingAlgorithmE : UInt8
  loadIndicationTypeE : UInt8
  highThreshold : UInt64
  lowThreshold : UInt64
  adminStatusE : UInt8
  nwserviceInstanceCount : UInt8 := 0
  nschainUsageCount : UInt8 := 0

/-- The configuration of a chain. -/
structure NschainConfig where
  numberOfConfigParams : Nat
  nschainType : UInt8
  loadSharingAlgorithmE : UInt8
  loadIndicationTypeE : UInt8
  highThreshold : UInt64
  lowThreshold : UInt64
  adminStatusE : UInt8

/-- `nsrm_add_nschain_object`.  The break at a duplicate leaves the scan only.  Without a
block the null pointer is followed, and thresholds in the wrong order leave the block
behind. -/
def addNschainObject (registry : NameRegistry NschainSettings) (key : ObjectKey)
    (config : NschainConfig) (answers : AddAnswers) : RegistryResult NschainSettings :=
  match key.name, key.tenantName with
  | none, _ => registry.fails .errorNschainObjectNameInvalid
  | some _, none => registry.faults
  | some name, some tenantName =>
    if ¬ answers.tenantReady then registry.fails .failure
    else if config.numberOfConfigParams = 0 then registry.fails .failure
    else
      match registry.pool.get answers.block with
      | none => registry.faults
      | some (pool, block) =>
        if config.highThreshold < config.lowThreshold then
          ({ registry with pool := pool } : NameRegistry NschainSettings).fails .failure
        else
          registry.link pool block .nschainObjectAddFail (fun noderef =>
            { name := name
              tenantName := tenantName
              handle := noderef
              settings :=
                { nschainType := config.nschainType
                  loadSharingAlgorithmE := config.loadSharingAlgorithmE
                  loadIndicationTypeE := config.loadIndicationTypeE
                  highThreshold := config.highThreshold
                  lowThreshold := config.lowThreshold
                  adminStatusE := config.adminStatusE } })

/-- `nsrm_del_nschain_object`. -/
def delNschainObject (registry : NameRegistry NschainSettings) (key : ObjectKey) :
    RegistryResult NschainSettings :=
  registry.delete key .errorNschainObjectNameInvalid .nschainObjectDelFail (fun object =>
    if object.settings.nwserviceInstanceCount ≠ 0 then some .failure
    else if object.settings.nschainUsageCount ≠ 0 then some .nschainUsedInSelectionRule
    else none)

/-- `nsrm_modify_nschain_object`.  The thresholds are compared when the other settings are
already written. -/
def modifyNschainObject (registry : NameRegistry NschainSettings) (key : ObjectKey)
    (config : NschainConfig) : RegistryResult NschainSettings :=
  match key.name, key.tenantName with
  | some name, some tenantName =>
    match registry.named name with
    | none => registry.fails .errorNschainObjectNameInvalid
    | some entry =>
      match registry.registry.table.access entry.noderef with
      | .fault => registry.faults
      | .valid none => registry.faults
      | .invalid => registry.fails .errorNschainObjectNameInvalid
      | .valid (some block) =>
        if tenantName ≠ (registry.registry.objects block).tenantName then
          registry.fails .failure
        else
          let written := fun object : RegistryObject NschainSettings =>
            { object with
              name := name
              tenantName := tenantName
              settings :=
                { object.settings with
                  nschainType := config.nschainType
                  loadSharingAlgorithmE := config.loadSharingAlgorithmE
                  loadIndicationTypeE := config.loadIndicationTypeE } }
          if config.highThreshold < config.lowThreshold then
            { registry := registry.rewrite block written, status := .failure }
          else
            { registry := registry.rewrite block (fun object =>
                { written object with
                  settings :=
                    { (written object).settings with
                      highThreshold := config.highThreshold
                      lowThreshold := config.lowThreshold
                      adminStatusE := config.adminStatusE } })
              status := .success }
  | _, _ => registry.fails .failure

/-! ## Chain sets -/

/-- What a chain set has beside its names and its handle. -/
structure NschainsetSettings where
  nschainsetType : UInt8
  adminStatusE : UInt8

/-- The configuration of a chain set. -/
structure NschainsetConfig where
  numberOfConfigParams : Nat
  nschainsetType : UInt8
  adminStatusE : UInt8

/-- `nsrm_add_nschainset_object`.  The handle is the index with what its variable held
before, shifted to the place of the magic number. -/
def addNschainsetObject (registry : NameRegistry NschainsetSettings) (key : ObjectKey)
    (config : NschainsetConfig) (answers : AddAnswers) : RegistryResult NschainsetSettings :=
  match key.name, key.tenantName with
  | none, _ => registry.fails .errorNschainsetObjectNameInvalid
  | some _, none => registry.faults
  | some name, some tenantName =>
    if ¬ answers.tenantReady then registry.fails .failure
    else if config.numberOfConfigParams = 0 then registry.fails .failure
    else
      match registry.pool.get answers.block with
      | none => registry.faults
      | some (pool, block) =>
        registry.link pool block .nschainsetObjectAddFail (fun noderef =>
          { name := name
            tenantName := tenantName
            handle := { index := noderef.index, magic := answers.garbage.toUInt32.toNat }
            settings :=
              { nschainsetType := config.nschainsetType
                adminStatusE := config.adminStatusE } })

/-- `nsrm_del_nschainset_object`. -/
def delNschainsetObject (registry : NameRegistry NschainsetSettings) (key : ObjectKey) :
    RegistryResult NschainsetSettings :=
  registry.delete key .errorNschainsetObjectNameInvalid .nschainsetObjectDelFail (fun _ => none)

/-- `nsrm_modify_nschainset_object`. -/
def modifyNschainsetObject (registry : NameRegistry NschainsetSettings) (key : ObjectKey)
    (config : NschainsetConfig) : RegistryResult NschainsetSettings :=
  registry.modifyLast key .errorNschainsetObjectNameInvalid .nschainsetObjectModFail
    (fun _ => { nschainsetType := config.nschainsetType, adminStatusE := config.adminStatusE })

/-! ## L2 network service maps -/

/-- What an L2 network service map has beside its names and its handle. -/
structure L2mapSettings where
  vnName : Name
  nschainsetObjectName : Name
  vnSaferef : UInt64
  nschainsetObjectSaferef : MchashNoderef
  adminStatusE : UInt8

/-- `nsrm_l2nw_service_map_key`. -/
structure L2mapKey where
  mapName : Option Name
  tenantName : Option Name
  vnName : Option Name

/-- The configuration of an L2 network service map. -/
structure L2mapConfig where
  numberOfConfigParams : Nat
  nschainsetObjectName : Option Name
  adminStatusE : UInt8

/-- Where a scan of a bucket for a name or a network ends. -/
inductive BucketScan where
  | missed
  | hit
  /-- a null name was compared -/
  | faulted
deriving DecidableEq

/-- The comparisons of an addition in one bucket: the network is compared when the names of
the maps differ. -/
def scanForDuplicate (name : Name) (vnName : Option Name) :
    List (RegistryObject L2mapSettings) → BucketScan
  | [] => .missed
  | object :: rest =>
    if object.name = name then .hit
    else
      match vnName with
      | none => .faulted
      | some vnName =>
        if object.settings.vnName = vnName then .hit else scanForDuplicate name vnName rest

/-- The scan of all buckets; a hit leaves the bucket it is in and not the others. -/
def scanBuckets (registry : NameRegistry L2mapSettings) (name : Name) (vnName : Option Name) :
    BucketScan :=
  let scans := (List.range registry.buckets).map (fun bucket =>
    scanForDuplicate name vnName
      ((registry.registry.table.linked.filter
        (fun entry => registry.hash (registry.objectAt entry).name = bucket)).map
          registry.objectAt))
  if .faulted ∈ scans then .faulted else if .hit ∈ scans then .hit else .missed

/-- What the resource manager answers about virtual networks: the handle that a name leads
to, and whether a handle leads to a network. -/
structure VnAnswers where
  handleOf : Name → Option UInt64
  exists_ : UInt64 → Bool

/-- `nsrm_add_l2nw_service_map_record`. -/
def addL2nwServiceMapRecord (nschainsets : NameRegistry NschainsetSettings)
    (registry : NameRegistry L2mapSettings) (key : L2mapKey) (config : L2mapConfig)
    (answers : AddAnswers) (vns : VnAnswers) : RegistryResult L2mapSettings :=
  match key.mapName, key.tenantName with
  | none, _ => registry.fails .errorL2nwServiceMapNameInvalid
  | some _, none => registry.faults
  | some name, some tenantName =>
    if ¬ answers.tenantReady then registry.fails .failure
    else
      match key.vnName.map vns.handleOf with
      | some none => registry.fails .failure
      | vn =>
        match config.nschainsetObjectName.map nschainsets.named with
        | some none => registry.fails .errorNschainsetObjectNameInvalid
        | nschainset =>
          if config.numberOfConfigParams = 0 then registry.fails .failure
          else
            match scanBuckets registry name key.vnName with
            | .faulted => registry.faults
            | .hit => registry.fails .errorDuplicateResource
            | .missed =>
              match registry.pool.get answers.block with
              | none => registry.faults
              | some (pool, block) =>
                registry.link pool block .l2nwServiceMapAddFail (fun noderef =>
                  { name := name
                    tenantName := tenantName
                    handle := noderef
                    settings :=
                      { vnName := key.vnName.getD []
                        nschainsetObjectName := config.nschainsetObjectName.getD []
                        vnSaferef := (vn.join).getD answers.garbage
                        nschainsetObjectSaferef :=
                          match nschainset.join with
                          | some entry => (nschainsets.objectAt entry).handle
                          | none => { index := 0, magic := 0 }
                        adminStatusE := config.adminStatusE } })

/-- `nsrm_del_l2nw_service_map_record`. -/
def delL2nwServiceMapRecord (registry : NameRegistry L2mapSettings) (key : L2mapKey)
    (vns : VnAnswers) : RegistryResult L2mapSettings :=
  registry.delete { name := key.mapName, tenantName := key.tenantName }
    .errorL2nwServiceMapNameInvalid .l2nwServiceMapDelFail (fun object =>
      if vns.exists_ object.settings.vnSaferef then none else some .failure)

/-- The comparisons of a modification in the bucket of its name; the names of the network
and of the tenant are compared where those before them are the same.  The scan goes on
behind a hit. -/
def scanForMap (name : Name) (vnName tenantName : Option Name) :
    List (RegistryObject L2mapSettings) → BucketScan
  | [] => .missed
  | object :: rest =>
    let later := scanForMap name vnName tenantName rest
    if object.name = name then
      match vnName with
      | none => .faulted
      | some vn =>
        if object.settings.vnName = vn then
          match tenantName with
          | none => .faulted
          | some tenant =>
            if object.tenantName = tenant then
              if later = .faulted then .faulted else .hit
            else later
        else later
    else later

/-- `nsrm_modify_l2nw_service_map_record`.  The last node of the bucket is rewritten, and
the chain set and the network are looked for afterwards. -/
def modifyL2nwServiceMapRecord (nschainsets : NameRegistry NschainsetSettings)
    (registry : NameRegistry L2mapSettings) (key : L2mapKey) (config : L2mapConfig)
    (vns : VnAnswers) : RegistryResult L2mapSettings :=
  match key.mapName with
  | none => registry.fails .errorL2nwServiceMapNameInvalid
  | some name =>
    if config.numberOfConfigParams = 0 then registry.fails .failure
    else
      match scanForMap name key.vnName key.tenantName
          ((registry.bucket name).map registry.objectAt) with
      | .faulted => registry.faults
      | .missed => registry.fails .errorL2nwServiceMapNameInvalid
      | .hit =>
        match (registry.bucket name).getLast?, config.nschainsetObjectName, key.vnName,
          key.tenantName with
        | some last, some nschainsetName, some vnName, some tenantName =>
          let written := registry.rewrite last.node (fun object =>
            { object with
              name := name
              tenantName := tenantName
              settings :=
                { object.settings with
                  vnName := vnName
                  nschainsetObjectName := nschainsetName
                  adminStatusE := config.adminStatusE } })
          match nschainsets.named nschainsetName with
          | none => written.fails .failure
          | some nschainset =>
            let referring := written.rewrite last.node (fun object =>
              { object with
                settings :=
                  { object.settings with
                    nschainsetObjectSaferef :=
                      (nschainsets.objectAt nschainset).handle } })
            match vns.handleOf vnName with
            | none => referring.fails .failure
            | some vnHandle =>
              { registry := referring.rewrite last.node (fun object =>
                  { object with
                    settings := { object.settings with vnSaferef := vnHandle } })
                status := .success }
        | _, _, _, _ => registry.faults

/-! ## Runs -/

/-- The four registries. -/
structure ServiceRegistries where
  nwservices : NameRegistry NwserviceSettings
  nschains : NameRegistry NschainSettings
  nschainsets : NameRegistry NschainsetSettings
  l2maps : NameRegistry L2mapSettings
  undefined : Bool

/-- A call; what other calls do to the counts of a service or a chain; or a block given back
to its pool after the grace period. -/
inductive RegistryEvent where
  | addNwservice (key : ObjectKey) (config : NwserviceConfig) (answers : AddAnswers)
  | modifyNwservice (key : ObjectKey) (config : NwserviceConfig)
  | delNwservice (key : ObjectKey)
  | addNschain (key : ObjectKey) (config : NschainConfig) (answers : AddAnswers)
  | modifyNschain (key : ObjectKey) (config : NschainConfig)
  | delNschain (key : ObjectKey)
  | addNschainset (key : ObjectKey) (config : NschainsetConfig) (answers : AddAnswers)
  | modifyNschainset (key : ObjectKey) (config : NschainsetConfig)
  | delNschainset (key : ObjectKey)
  | addL2map (key : L2mapKey) (config : L2mapConfig) (answers : AddAnswers) (vns : VnAnswers)
  | modifyL2map (key : L2mapKey) (config : L2mapConfig) (vns : VnAnswers)
  | delL2map (key : L2mapKey) (vns : VnAnswers)
  | useNwservice (block : Nat) (attachStatus bypassAttachCount : UInt8)
  | useNschain (block : Nat) (nwserviceInstanceCount nschainUsageCount : UInt8)
  | reclaimNwservice (block : Nat)
  | reclaimNschain (block : Nat)
  | reclaimNschainset (block : Nat)
  | reclaimL2map (block : Nat)

namespace ServiceRegistries

def setNwservices (state : ServiceRegistries) (result : RegistryResult NwserviceSettings) :
    ServiceRegistries :=
  { state with nwservices := result.registry, undefined := state.undefined || result.fault }

def setNschains (state : ServiceRegistries) (result : RegistryResult NschainSettings) :
    ServiceRegistries :=
  { state with nschains := result.registry, undefined := state.undefined || result.fault }

def setNschainsets (state : ServiceRegistries) (result : RegistryResult NschainsetSettings) :
    ServiceRegistries :=
  { state with nschainsets := result.registry, undefined := state.undefined || result.fault }

def setL2maps (state : ServiceRegistries) (result : RegistryResult L2mapSettings) :
    ServiceRegistries :=
  { state with l2maps := result.registry, undefined := state.undefined || result.fault }

end ServiceRegistries

open ServiceRegistries

/-- A block of a registry is given back to its pool. -/
def NameRegistry.reclaim {κ : Type} (registry : NameRegistry κ) (block : Nat) : NameRegistry κ :=
  { registry with pool := registry.pool.reclaim block }

def applyRegistryEvent (state : ServiceRegistries) : RegistryEvent → ServiceRegistries
  | .addNwservice key config answers =>
    state.setNwservices (addNwserviceObject state.nwservices key config answers)
  | .modifyNwservice key config =>
    state.setNwservices (modifyNwserviceObject state.nwservices key config)
  | .delNwservice key => state.setNwservices (delNwserviceObject state.nwservices key)
  | .addNschain key config answers =>
    state.setNschains (addNschainObject state.nschains key config answers)
  | .modifyNschain key config => state.setNschains (modifyNschainObject state.nschains key config)
  | .delNschain key => state.setNschains (delNschainObject state.nschains key)
  | .addNschainset key config answers =>
    state.setNschainsets (addNschainsetObject state.nschainsets key config answers)
  | .modifyNschainset key config =>
    state.setNschainsets (modifyNschainsetObject state.nschainsets key config)
  | .delNschainset key => state.setNschainsets (delNschainsetObject state.nschainsets key)
  | .addL2map key config answers vns =>
    state.setL2maps (addL2nwServiceMapRecord state.nschainsets state.l2maps key config answers vns)
  | .modifyL2map key config vns =>
    state.setL2maps (modifyL2nwServiceMapRecord state.nschainsets state.l2maps key config vns)
  | .delL2map key vns => state.setL2maps (delL2nwServiceMapRecord state.l2maps key vns)
  | .useNwservice block attachStatus bypassAttachCount =>
    { state with
      nwservices := state.nwservices.rewrite block (fun object =>
        { object with
          settings :=
            { object.settings with
              attachStatus := attachStatus, bypassAttachCount := bypassAttachCount } }) }
  | .useNschain block nwserviceInstanceCount nschainUsageCount =>
    { state with
      nschains := state.nschains.rewrite block (fun object =>
        { object with
          settings :=
            { object.settings with
              nwserviceInstanceCount := nwserviceInstanceCount
              nschainUsageCount := nschainUsageCount } }) }
  | .reclaimNwservice block => { state with nwservices := state.nwservices.reclaim block }
  | .reclaimNschain block => { state with nschains := state.nschains.reclaim block }
  | .reclaimNschainset block => { state with nschainsets := state.nschainsets.reclaim block }
  | .reclaimL2map block => { state with l2maps := state.l2maps.reclaim block }

end OpenFlowController.Nsrm
