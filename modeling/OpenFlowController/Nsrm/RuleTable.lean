/-
Module: Nsrm.RuleTable
Purpose: The ordered tables of rules, the selection rules of the chain sets and the bypass
  rules of the chains, and the calls that add and delete a rule of either kind.
Source: ofproto/src/nsrm/nsrm_srule.c 115-632 (nsrm_add_nschain_selection_rule_to_nschainset,
  nsrm_del_nschain_selection_rule_from_nschainset), nsrm_brule.c 161-640
  (nsrm_add_nwservice_bypass_rule_to_nschain_object,
  nsrm_del_nwservice_bypass_rule_from_nschain_object)
Trusted boundary: the names of a rule fit the buffers of NSRM_MAX_NAME_LENGTH bytes that they are
  copied to and these are there (their `calloc` is not checked); the read locks, the notifications
  and the match fields that no call compares are left out
-/
import OpenFlowController.Nsrm.Objects

namespace OpenFlowController.Nsrm

open Utils

/-- `location_e`. -/
inductive Location where
  | first
  | last
  | before
  | after
deriving DecidableEq

/-- The rules of one kind: what is stored in the blocks of their pool, and for every owner
the table of its rules and `no_of_rules`. -/
structure RuleTable (ρ : Type) where
  rules : Nat → ρ
  pool : BlockPool
  lists : Nat → ListPtr
  noOfRules : Nat → UInt8

/-- What became of a rule whose block was filled. -/
inductive Placement where
  | appended
  | insertedBefore
  | insertedAfter
  /-- the scan did not come to the relative rule -/
  | noRelative
  /-- the table had no free entry; the address of the local pointer is released -/
  | unlinked

/-- How far an addition came. -/
inductive Addition where
  /-- `mchash_table_create` failed -/
  | notCreated
  | duplicate
  | noBlock
  /-- a null name was copied into the rule -/
  | faulted
  /-- a range of addresses or ports ends before it starts -/
  | invalid
  | filled (placement : Placement)

/-- How far a deletion came. -/
inductive Deletion where
  /-- the pointer to the table is null -/
  | faulted
  | notFound
  | refused
  | notDeleted
  | removed (block : Nat)

namespace RuleTable

variable {ρ : Type} (nameOf : ρ → Name)

/-- What is stored in the blocks of an owner's list. -/
def rulesOf (table : RuleTable ρ) (owner : Nat) : List ρ :=
  (table.lists owner).linked.map (fun entry => table.rules entry.node)

/-- The names of an owner's rules in the order of the bucket. -/
def namesOf (table : RuleTable ρ) (owner : Nat) : List Name :=
  (table.lists owner).linked.map (fun entry => nameOf (table.rules entry.node))

variable {nameOf}

def setList (table : RuleTable ρ) (owner : Nat) (list : ListPtr) : RuleTable ρ :=
  { table with lists := Function.update table.lists owner list }

/-- `no_of_rules++`. -/
def count (table : RuleTable ρ) (owner : Nat) : RuleTable ρ :=
  { table with
    noOfRules := Function.update table.noOfRules owner (table.noOfRules owner + 1) }

/-- A block filled with a rule. -/
def fill (table : RuleTable ρ) (pool : BlockPool) (block : Nat) (rule : ρ) : RuleTable ρ :=
  { table with pool := pool, rules := Function.update table.rules block rule }

variable (nameOf)

/-- The scan for the rule next to which a rule is inserted: the first of all for `FIRST`,
and otherwise the one with the relative name. -/
def anchorOf (table : RuleTable ρ) (owner : Nat) (location : Location) (relative : Name) :
    Option (LinkedNode Nat) :=
  (table.lists owner).linked.find?
    (fun entry => nameOf (table.rules entry.node) = relative ∨ location = .first)

variable {nameOf}

/-- The rule is linked and counted, when the table has a free entry. -/
def linkRule (table : RuleTable ρ) (owner : Nat) (linked : ListPtr × Option MchashNoderef)
    (placement : Placement) : RuleTable ρ × Placement :=
  match linked with
  | (_, none) => (table, .unlinked)
  | (list, some _) => ((table.setList owner list).count owner, placement)

variable (nameOf)

/-- Where a filled rule goes: to the tail when no relative rule is named, when
`no_of_rules` is 0, or for `LAST`; otherwise next to the rule the scan stops at. -/
def placeRule (table : RuleTable ρ) (owner block : Nat) (location : Location)
    (relative : Option Name) : RuleTable ρ × Placement :=
  match relative with
  | none => table.linkRule owner ((table.lists owner).append block) .appended
  | some relative =>
    if table.noOfRules owner = 0 ∨ location = .last then
      table.linkRule owner ((table.lists owner).append block) .appended
    else
      match table.anchorOf nameOf owner location relative with
      | none => (table, .noRelative)
      | some anchor =>
        match location with
        | .after =>
          table.linkRule owner ((table.lists owner).insertAfter anchor.noderef block) .insertedAfter
        | _ =>
          table.linkRule owner ((table.lists owner).insertBefore anchor.noderef block)
            .insertedBefore

/-- An addition to a table that is there: the name is looked for, a block is taken and
filled, and the ranges are compared before the rule is linked. -/
def addToList (table : RuleTable ρ) (owner : Nat) (name : Name) (rule : Option ρ)
    (valid : Bool) (location : Location) (relative : Option Name) (block : Option Nat) :
    RuleTable ρ × Addition :=
  if name ∈ table.namesOf nameOf owner then
    (table, .duplicate)
  else
    match table.pool.get block, rule with
    | none, _ => (table, .noBlock)
    | some (pool, _), none => ({ table with pool := pool }, .faulted)
    | some (pool, block), some rule =>
      if valid then
        let placed := (table.fill pool block rule).placeRule nameOf owner block location relative
        (placed.1, .filled placed.2)
      else
        (table.fill pool block rule, .invalid)

/-- What the two additions have in common. -/
def add (table : RuleTable ρ) (size : TableSize) (owner : Nat) (name : Name)
    (rule : Option ρ) (valid : Bool) (location : Location) (relative : Option Name)
    (supply : Supply) : RuleTable ρ × Addition :=
  match (table.lists owner).ensure size supply with
  | (list, false) => (table.setList owner list, .notCreated)
  | (list, true) =>
    (table.setList owner list).addToList nameOf owner name rule valid location relative supply.block

/-- What the two deletions have in common.  `no_of_rules` stays as it is. -/
def remove (table : RuleTable ρ) (owner : Nat) (name : Name) (refuses : ρ → Bool) :
    RuleTable ρ × Deletion :=
  match table.lists owner with
  | .null => (table, .faulted)
  | list =>
    match list.linked.find? (fun entry => nameOf (table.rules entry.node) = name) with
    | none => (table, .notFound)
    | some entry =>
      if refuses (table.rules entry.node) then
        (table, .refused)
      else
        match list.deleteByRef entry.noderef with
        | (list, .deleted block) =>
          ({ table.setList owner list with pool := table.pool.retire block }, .removed block)
        | (list, .notDeleted) => (table.setList owner list, .notDeleted)
        | (_, .fault) => (table, .faulted)

end RuleTable

/-! ## Rules -/

structure NsrmIp where
  ipObjectType : UInt8
  ipaddrStart : UInt32
  ipaddrEnd : UInt32

structure NsrmPort where
  portObjectType : UInt8
  portStart : UInt16
  portEnd : UInt16

/-- The address a rule gets: a single one (type 1) ends where it starts. -/
def NsrmIp.ofConfig (config : NsrmIp) : NsrmIp :=
  if config.ipObjectType = 1 then { config with ipaddrEnd := config.ipaddrStart } else config

/-- The port a rule gets where a single one (type 1) ends where it starts. -/
def NsrmPort.ofConfig (config : NsrmPort) : NsrmPort :=
  if config.portObjectType = 1 then { config with portEnd := config.portStart } else config

/-- The ranges of a rule. -/
structure RuleRanges where
  sip : NsrmIp
  dip : NsrmIp
  sp : NsrmPort
  dp : NsrmPort

/-- No range ends before it starts. -/
def RuleRanges.valid (ranges : RuleRanges) : Bool :=
  ranges.sip.ipaddrStart ≤ ranges.sip.ipaddrEnd ∧ ranges.dip.ipaddrStart ≤ ranges.dip.ipaddrEnd ∧
    ranges.sp.portStart ≤ ranges.sp.portEnd ∧ ranges.dp.portStart ≤ ranges.dp.portEnd

/-- The ranges of a selection rule; the source port keeps the end of the configuration
whatever its type is. -/
def RuleRanges.ofSelection (config : RuleRanges) : RuleRanges where
  sip := config.sip.ofConfig
  dip := config.dip.ofConfig
  sp := config.sp
  dp := config.dp.ofConfig

/-- The ranges of a bypass rule; the type of the destination port is read from the rule,
where it was not written. -/
def RuleRanges.ofBypass (config : RuleRanges) : RuleRanges where
  sip := config.sip.ofConfig
  dip := config.dip.ofConfig
  sp := config.sp.ofConfig
  dp := { config.dp with portObjectType := 0 }

/-- `nsrm_nschain_selection_rule`. -/
structure SelectionRule where
  name : Name
  nschainObjectName : Name
  nschainObjectSaferef : MchashNoderef
  nschainsetObjectSaferef : MchashNoderef
  ranges : RuleRanges
  location : Location
  relativeName : Option Name

/-- `nsrm_nwservice_bypass_rule`. -/
structure BypassRule where
  name : Name
  nschainObjectSaferef : MchashNoderef
  ranges : RuleRanges
  location : Location
  relativeName : Option Name
  noOfNwserviceObjects : UInt8 := 0

/-- `nsrm_nschain_selection_rule_key` and `nsrm_nwservice_bypass_rule_key`; `ownerName` is
`nschainset_object_name_p` or `nschain_object_name_p`. -/
structure RuleKey where
  name : Option Name
  ownerName : Option Name
  tenantName : Option Name
  location : Location

/-- What the calls read of the configuration; a bypass rule names no chain to select. -/
structure RuleConfig where
  ranges : RuleRanges
  nschainObjectName : Option Name
  relativeName : Option Name

/-- The registered tenants, chain sets and chains, and the rules of both kinds.  The table
and the counter of an owner's rules are found in `selection` and `bypass`. -/
structure RuleSystem where
  tenants : Name → Bool
  nschainsets : Registry NschainsetObject
  nschains : Registry NschainObject
  selection : RuleTable SelectionRule
  bypass : RuleTable BypassRule
  /-- a null pointer was followed, or an address that is no block was given to the pool -/
  undefined : Bool

namespace RuleSystem

def undefine (state : RuleSystem) : RuleSystem :=
  { state with undefined := true }

/-- `nschain_usage_count++`, and with a decrement `nschain_usage_count--`. -/
def countUse (state : RuleSystem) (nschain : Nat) (change : UInt8 → UInt8) : RuleSystem :=
  { state with
    nschains := state.nschains.change nschain
      (fun chain => { chain with nschainUsageCount := change chain.nschainUsageCount }) }

end RuleSystem

open RuleSystem

/-! ## Selection rules -/

/-- How the addition of a selection rule ends.  The chain counts its use when the rule is
appended or inserted after another one, and not when it is inserted before one. -/
def finishSelection (state : RuleSystem) (nschain : Option (LinkedNode Nat)) :
    Addition → RuleSystem × NsrmStatus
  | .notCreated => (state, .failure)
  | .duplicate => (state, .failure)
  | .noBlock => (state, .failure)
  | .invalid => (state, .failure)
  | .faulted => (state.undefine, .failure)
  | .filled .noRelative => (state, .failure)
  | .filled .unlinked => (state.undefine, .selectionRuleAddFail)
  | .filled .insertedBefore => (state, .success)
  | .filled .appended | .filled .insertedAfter =>
    match nschain with
    | some nschain => (state.countUse nschain.node (· + 1), .success)
    | none => (state.undefine, .success)

/-- The rule that is written to the block, when the configuration names a chain. -/
def selectionRuleOf (nschainset : LinkedNode Nat) (nschain : Option (LinkedNode Nat))
    (name : Name) (location : Location) (config : RuleConfig) : Option SelectionRule :=
  match config.nschainObjectName, nschain with
  | some nschainName, some nschain =>
    some
      { name := name
        nschainObjectName := nschainName
        nschainObjectSaferef := nschain.noderef
        nschainsetObjectSaferef := nschainset.noderef
        ranges := config.ranges.ofSelection
        location := location
        relativeName := config.relativeName }
  | _, _ => none

/-- `nsrm_add_nschain_selection_rule_to_nschainset` behind its checks. -/
def addSelectionRule (state : RuleSystem) (nschainset : LinkedNode Nat)
    (nschain : Option (LinkedNode Nat)) (name : Name) (location : Location)
    (config : RuleConfig) (supply : Supply) : RuleSystem × NsrmStatus :=
  let rule := selectionRuleOf nschainset nschain name location config
  let added := state.selection.add SelectionRule.name nsrmMaxSelectionRuleEntries nschainset.node
    name rule config.ranges.ofSelection.valid location config.relativeName supply
  finishSelection { state with selection := added.1 } nschain added.2

/-- `nsrm_add_nschain_selection_rule_to_nschainset`. -/
def addNschainSelectionRuleToNschainset (state : RuleSystem) (key : RuleKey)
    (config : RuleConfig) (supply : Supply) : RuleSystem × NsrmStatus :=
  match key.name, key.ownerName, key.tenantName with
  | none, _, _ => (state, .errorNwserviceObjectNameInvalid)
  | some _, none, _ => (state, .errorNschainsetObjectNameInvalid)
  | some _, some _, none => (state, .failure)
  | some name, some nschainsetName, some tenantName =>
    if state.tenants tenantName then
      match state.nschainsets.named NschainsetObject.name nschainsetName with
      | none => (state, .errorNschainsetObjectNameInvalid)
      | some nschainset =>
        match config.nschainObjectName with
        | none => addSelectionRule state nschainset none name key.location config supply
        | some nschainName =>
          match state.nschains.named NschainObject.name nschainName with
          | none => (state, .errorNschainObjectNameInvalid)
          | some nschain =>
            addSelectionRule state nschainset (some nschain) name key.location config supply
    else
      (state, .failure)

/-- How the deletion of a selection rule ends; `nschain` is what the chain name of the rule
leads to. -/
def finishSelectionDeletion (state : RuleSystem) (nschainOf : SelectionRule → Option (LinkedNode Nat)) :
    Deletion → RuleSystem × NsrmStatus
  | .faulted => (state.undefine, .selectionRuleDelFail)
  | .notFound => (state, .errorInvalidSelectionRuleName)
  | .refused => (state, .errorNschainObjectNameInvalid)
  | .notDeleted => (state, .selectionRuleDelFail)
  | .removed block =>
    match nschainOf (state.selection.rules block) with
    | some nschain => (state.countUse nschain.node (· - 1), .success)
    | none => (state.undefine, .success)

/-- `nsrm_del_nschain_selection_rule_from_nschainset`.  A null name of the chain set is
followed by the hash function. -/
def delNschainSelectionRuleFromNschainset (state : RuleSystem) (key : RuleKey) :
    RuleSystem × NsrmStatus :=
  match key.name, key.ownerName with
  | none, _ => (state, .errorInvalidSelectionRuleName)
  | some _, none => (state.undefine, .errorNschainsetObjectNameInvalid)
  | some name, some nschainsetName =>
    match state.nschainsets.named NschainsetObject.name nschainsetName with
    | none => (state, .errorNschainsetObjectNameInvalid)
    | some nschainset =>
      let nschainOf := fun rule : SelectionRule =>
        state.nschains.named NschainObject.name rule.nschainObjectName
      let removed := state.selection.remove SelectionRule.name nschainset.node name
        (fun rule => (nschainOf rule).isNone)
      finishSelectionDeletion { state with selection := removed.1 } nschainOf removed.2

/-! ## Bypass rules -/

/-- How the addition of a bypass rule ends. -/
def finishBypass (state : RuleSystem) : Addition → RuleSystem × NsrmStatus
  | .notCreated => (state, .failure)
  | .duplicate => (state, .failure)
  | .noBlock => (state, .failure)
  | .invalid => (state, .failure)
  | .faulted => (state.undefine, .failure)
  | .filled .noRelative => (state, .failure)
  | .filled .unlinked => (state.undefine, .bypassRuleAddFail)
  | .filled .insertedBefore => (state, .success)
  | .filled .appended => (state, .success)
  | .filled .insertedAfter => (state, .success)

/-- `nsrm_add_nwservice_bypass_rule_to_nschain_object`. -/
def addNwserviceBypassRuleToNschainObject (state : RuleSystem) (key : RuleKey)
    (config : RuleConfig) (supply : Supply) : RuleSystem × NsrmStatus :=
  match key.name, key.ownerName, key.tenantName with
  | none, _, _ => (state, .errorInvalidBypassRuleName)
  | some _, none, _ => (state, .errorNschainObjectNameInvalid)
  | some _, some _, none => (state, .failure)
  | some name, some nschainName, some tenantName =>
    if state.tenants tenantName then
      match state.nschains.named NschainObject.name nschainName with
      | none => (state, .errorNschainObjectNameInvalid)
      | some nschain =>
        let ranges := config.ranges.ofBypass
        let added := state.bypass.add BypassRule.name nsrmMaxBypassRuleEntries nschain.node name
          (some
            { name := name
              nschainObjectSaferef := nschain.noderef
              ranges := ranges
              location := key.location
              relativeName := config.relativeName })
          ranges.valid key.location config.relativeName supply
        finishBypass { state with bypass := added.1 } added.2
    else
      (state, .failure)

/-- How the deletion of a bypass rule ends. -/
def finishBypassDeletion (state : RuleSystem) : Deletion → RuleSystem × NsrmStatus
  | .faulted => (state.undefine, .bypassRuleDelFail)
  | .notFound => (state, .errorInvalidBypassRuleName)
  | .refused => (state, .failure)
  | .notDeleted => (state, .bypassRuleDelFail)
  | .removed _ => (state, .success)

/-- `nsrm_del_nwservice_bypass_rule_from_nschain_object`. -/
def delNwserviceBypassRuleFromNschainObject (state : RuleSystem) (key : RuleKey) :
    RuleSystem × NsrmStatus :=
  match key.name, key.ownerName with
  | none, _ => (state, .errorInvalidBypassRuleName)
  | some _, none => (state.undefine, .errorNschainObjectNameInvalid)
  | some name, some nschainName =>
    match state.nschains.named NschainObject.name nschainName with
    | none => (state, .errorNschainObjectNameInvalid)
    | some nschain =>
      let removed := state.bypass.remove BypassRule.name nschain.node name
        (fun rule => rule.noOfNwserviceObjects ≠ 0)
      finishBypassDeletion { state with bypass := removed.1 } removed.2

/-! ## Runs -/

/-- A call, or a block given back to its pool after the grace period. -/
inductive RuleEvent where
  | addSelection (key : RuleKey) (config : RuleConfig) (supply : Supply)
  | delSelection (key : RuleKey)
  | addBypass (key : RuleKey) (config : RuleConfig) (supply : Supply)
  | delBypass (key : RuleKey)
  | reclaimSelection (block : Nat)
  | reclaimBypass (block : Nat)

def applyRuleEvent (state : RuleSystem) : RuleEvent → RuleSystem × NsrmStatus
  | .addSelection key config supply => addNschainSelectionRuleToNschainset state key config supply
  | .delSelection key => delNschainSelectionRuleFromNschainset state key
  | .addBypass key config supply => addNwserviceBypassRuleToNschainObject state key config supply
  | .delBypass key => delNwserviceBypassRuleFromNschainObject state key
  | .reclaimSelection block =>
    ({ state with
        selection := { state.selection with pool := state.selection.pool.reclaim block } },
      .success)
  | .reclaimBypass block =>
    ({ state with bypass := { state.bypass with pool := state.bypass.pool.reclaim block } },
      .success)

/-- The state a run reached, and the calls that led there with what they returned. -/
structure RuleRun where
  state : RuleSystem
  history : List (RuleEvent × NsrmStatus)

def RuleRun.step (run : RuleRun) (event : RuleEvent) : RuleRun where
  state := (applyRuleEvent run.state event).1
  history := run.history ++ [(event, (applyRuleEvent run.state event).2)]

end OpenFlowController.Nsrm
