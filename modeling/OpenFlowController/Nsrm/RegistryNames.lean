/-
Module: Nsrm.RegistryNames
Purpose: Along runs of additions, modifications and deletions the names in each of the four
  registries are unique, a call changes the object of its name only, and the handles that are
  stored and passed on lead to their objects, as long as no call comes to one of the slips of
  its scan.
Trusted boundary: none
-/
import OpenFlowController.Library.KeyedList
import OpenFlowController.Library.Run
import OpenFlowController.Nsrm.Registries

namespace OpenFlowController.Nsrm

open Library Utils NameRegistry

/-! ## What the names lead to -/

namespace NameRegistry

variable {κ : Type}

/-- The objects that are linked. -/
def live (registry : NameRegistry κ) : List (RegistryObject κ) :=
  registry.registry.table.linked.map registry.objectAt

/-- The object that a name leads to. -/
def lookup (registry : NameRegistry κ) (name : Name) : Option (RegistryObject κ) :=
  (registry.named name).map registry.objectAt

/-- A handle leads to an object of a name. -/
def Resolves (registry : NameRegistry κ) (handle : MchashNoderef) (name : Name) : Prop :=
  ∃ block, registry.registry.table.access handle = .valid (some block) ∧
    (registry.registry.objects block).name = name

end NameRegistry

/-- Live names are unique, and the handle stored in an object leads to it. -/
structure NamesRight {κ : Type} (registry : NameRegistry κ) : Prop where
  unique : (registry.live.map RegistryObject.name).Nodup
  resolves : ∀ entry ∈ registry.registry.table.linked,
    registry.registry.table.access (registry.objectAt entry).handle = .valid (some entry.node)

/-- What a call is for. -/
inductive RegistryCall where
  | add
  | modify
  | delete

/-- What a call addressed to a name is to do.  The handles of an addition lead to its object
afterwards, those of a deletion before. -/
structure CallRight {κ : Type} (before : NameRegistry κ) (call : RegistryCall)
    (name : Option Name) (result : RegistryResult κ) : Prop where
  defined : result.fault = false
  others : ∀ other, name ≠ some other → result.registry.lookup other = before.lookup other
  existing : call = .add → ∀ live, name = some live → before.lookup live ≠ none →
    result.status ≠ .success ∧ result.registry = before
  missing : call ≠ .add → (∀ live, name = some live → before.lookup live = none) →
    result.status ≠ .success ∧ result.registry = before
  effect : result.status = .success →
    ∃ live, name = some live ∧ ((result.registry.lookup live).isSome ↔ call ≠ .delete)
  notified : ∀ handle ∈ result.notified, ∃ live, name = some live ∧
    match call with
    | .add => result.registry.Resolves handle live
    | _ => before.Resolves handle live

/-- The names and handles of the four registries are right. -/
structure RegistriesRight (state : ServiceRegistries) : Prop where
  defined : state.undefined = false
  nwservices : NamesRight state.nwservices
  nschains : NamesRight state.nschains
  nschainsets : NamesRight state.nschainsets
  l2maps : NamesRight state.l2maps

/-- A network that is mapped already is not mapped again. -/
def MappedOnce (before : NameRegistry L2mapSettings) (key : L2mapKey)
    (result : RegistryResult L2mapSettings) : Prop :=
  ∀ vnName, key.vnName = some vnName →
    (∃ object ∈ before.live, object.settings.vnName = vnName) →
    result.status ≠ .success ∧ result.registry = before

/-- What each call is to do. -/
def RegistryEvent.Right (state : ServiceRegistries) : RegistryEvent → Prop
  | .addNwservice key config answers =>
    CallRight state.nwservices .add key.name
      (addNwserviceObject state.nwservices key config answers)
  | .modifyNwservice key config =>
    CallRight state.nwservices .modify key.name (modifyNwserviceObject state.nwservices key config)
  | .delNwservice key =>
    CallRight state.nwservices .delete key.name (delNwserviceObject state.nwservices key)
  | .addNschain key config answers =>
    CallRight state.nschains .add key.name (addNschainObject state.nschains key config answers)
  | .modifyNschain key config =>
    CallRight state.nschains .modify key.name (modifyNschainObject state.nschains key config)
  | .delNschain key =>
    CallRight state.nschains .delete key.name (delNschainObject state.nschains key)
  | .addNschainset key config answers =>
    CallRight state.nschainsets .add key.name
      (addNschainsetObject state.nschainsets key config answers)
  | .modifyNschainset key config =>
    CallRight state.nschainsets .modify key.name
      (modifyNschainsetObject state.nschainsets key config)
  | .delNschainset key =>
    CallRight state.nschainsets .delete key.name (delNschainsetObject state.nschainsets key)
  | .addL2map key config answers vns =>
    let result := addL2nwServiceMapRecord state.nschainsets state.l2maps key config answers vns
    CallRight state.l2maps .add key.mapName result ∧ MappedOnce state.l2maps key result
  | .modifyL2map key config vns =>
    CallRight state.l2maps .modify key.mapName
      (modifyL2nwServiceMapRecord state.nschainsets state.l2maps key config vns)
  | .delL2map key vns =>
    CallRight state.l2maps .delete key.mapName (delL2nwServiceMapRecord state.l2maps key vns)
  | _ => True

/-! ## When the calls do it -/

namespace NameRegistry

variable {κ : Type}

/-- A pool hands out a block for a name that is new. -/
def Opens (registry : NameRegistry κ) (name : Name) (answers : AddAnswers) : Prop :=
  (registry.pool.get answers.block).isSome → registry.lookup name = none

/-- The object of a name is the last of its bucket. -/
def LastOfBucket (registry : NameRegistry κ) (name : Name) : Prop :=
  (registry.bucket name).getLast? = registry.named name

/-- A deletion of a live object names a tenant. -/
def DeletesWithTenant (registry : NameRegistry κ) (key : ObjectKey) : Prop :=
  ∀ name, key.name = some name → registry.lookup name ≠ none → key.tenantName.isSome

/-- A modification of a live object with its own tenant finds it last in its bucket. -/
def ModifiesLast (registry : NameRegistry κ) (key : ObjectKey) : Prop :=
  ∀ name object, key.name = some name → registry.lookup name = some object →
    key.tenantName = some object.tenantName → registry.LastOfBucket name

/-- An addition that comes to its second half finds a block, and the name is new. -/
def AddsNew (registry : NameRegistry κ) (key : ObjectKey) (configured : Nat)
    (answers : AddAnswers) : Prop :=
  ∀ name, key.name = some name → key.tenantName.isSome ∧
    (answers.tenantReady → configured ≠ 0 →
      (registry.pool.get answers.block).isSome ∧ registry.lookup name = none)

end NameRegistry

/-- The scan of an addition compares no null name: a network is given, or the first map of
every bucket has the name of the addition. -/
def ComparesNoNull (registry : NameRegistry L2mapSettings) (key : L2mapKey) (name : Name) : Prop :=
  key.vnName.isSome ∨ ∀ bucket object,
    (registry.live.filter (fun object => registry.hash object.name = bucket)).head? =
      some object → object.name = name

/-- When a call does what it is for. -/
def RegistryEvent.Meets (state : ServiceRegistries) : RegistryEvent → Prop
  | .addNwservice key config answers =>
    ∀ name, key.name = some name → key.tenantName.isSome ∧
      (answers.tenantReady → config.numberOfConfigParams ≠ 0 →
        answers.garbage.toUInt32.toNat < state.nwservices.buckets ∧
          state.nwservices.Opens name answers)
  | .modifyNwservice key _ => state.nwservices.ModifiesLast key
  | .delNwservice key => state.nwservices.DeletesWithTenant key
  | .addNschain key config answers =>
    state.nschains.AddsNew key config.numberOfConfigParams answers
  | .delNschain key => state.nschains.DeletesWithTenant key
  | .addNschainset key config answers =>
    state.nschainsets.AddsNew key config.numberOfConfigParams answers ∧
      (key.name.isSome → answers.tenantReady → config.numberOfConfigParams ≠ 0 →
        answers.garbage.toUInt32.toNat = state.nschainsets.registry.table.magicNo)
  | .modifyNschainset key _ => state.nschainsets.ModifiesLast key
  | .delNschainset key => state.nschainsets.DeletesWithTenant key
  | .addL2map key config answers vns =>
    ∀ name, key.mapName = some name → key.tenantName.isSome ∧
      (answers.tenantReady → config.numberOfConfigParams ≠ 0 →
        (∀ vnName, key.vnName = some vnName → (vns.handleOf vnName).isSome) →
        (∀ nschainset, config.nschainsetObjectName = some nschainset →
          state.nschainsets.lookup nschainset ≠ none) →
        ComparesNoNull state.l2maps key name ∧
          ((∀ object ∈ state.l2maps.live,
              object.name ≠ name ∧ key.vnName ≠ some object.settings.vnName) →
            (state.l2maps.pool.get answers.block).isSome))
  | .modifyL2map key config _ =>
    ∀ name object, key.mapName = some name → config.numberOfConfigParams ≠ 0 →
      state.l2maps.lookup name = some object → key.vnName.isSome ∧
        (key.vnName = some object.settings.vnName → key.tenantName.isSome ∧
          (key.tenantName = some object.tenantName →
            config.nschainsetObjectName.isSome ∧ state.l2maps.LastOfBucket name))
  | .delL2map key _ =>
    state.l2maps.DeletesWithTenant { name := key.mapName, tenantName := key.tenantName }
  | _ => True

/-- An empty registry as it is created: a table and a pool of as many entries, and a hash
function into the buckets. -/
structure NameRegistry.Fresh {κ : Type} (registry : NameRegistry κ) (size : TableSize) :
    Prop where
  table : registry.registry.table = RefTable.create size
  pool : registry.pool = { maxBlocks := size.1, inUse := [], retired := [] }
  buckets : registry.buckets = size.1 / 5 + 1
  hashed : ∀ name, registry.hash name < registry.buckets

/-- Beside unique names: an object stores the reference it is linked under, a block is linked
once and belongs to the pool, and the table has an entry for every block. -/
structure RegistryInv {κ : Type} (registry : NameRegistry κ) : Prop where
  unique : (registry.live.map RegistryObject.name).Nodup
  handles : ∀ entry ∈ registry.registry.table.linked,
    (registry.objectAt entry).handle = entry.noderef
  nodes : (registry.registry.table.linked.map (·.node)).Nodup
  owned : ∀ entry ∈ registry.registry.table.linked, entry.node ∈ registry.pool.inUse
  kept : ∀ entry ∈ registry.registry.table.linked, entry.node ∉ registry.pool.retired
  pool : registry.pool.Sound
  sizes : registry.pool.maxBlocks ≤
    registry.registry.table.free.length + registry.registry.table.linked.length
  hashed : ∀ name, registry.hash name < registry.buckets

section Lookup

variable {κ : Type} {registry : NameRegistry κ} {name : Name} {entry : LinkedNode Nat}

theorem lookup_eq_view : registry.lookup = KeyedList.view RegistryObject.name id registry.live := by
  funext name
  rw [KeyedList.view, KeyedList.lookup, live, List.find?_map, Option.map_id]
  rfl

theorem lookup_eq_none :
    registry.lookup name = none ↔ name ∉ registry.live.map RegistryObject.name := by
  rw [lookup, Option.map_eq_none_iff, named, Registry.named, List.find?_eq_none, live,
    List.map_map, List.mem_map]
  constructor
  · rintro absent ⟨entry, member, same⟩
    exact absent entry member (decide_eq_true same)
  · intro absent entry member same
    exact absent ⟨entry, member, of_decide_eq_true same⟩

theorem named_some (found : registry.named name = some entry) :
    entry ∈ registry.registry.table.linked ∧ (registry.objectAt entry).name = name := by
  constructor
  · exact List.mem_of_find?_eq_some found
  · have held := List.find?_some found
    exact of_decide_eq_true held

theorem lookup_of_named (found : registry.named name = some entry) :
    registry.lookup name = some (registry.objectAt entry) := by
  rw [lookup, found, Option.map_some]

theorem lookup_none_of_named (missed : registry.named name = none) :
    registry.lookup name = none := by
  rw [lookup, missed, Option.map_none]

theorem RegistryInv.named_eq (inv : RegistryInv registry)
    (member : entry ∈ registry.registry.table.linked)
    (same : (registry.objectAt entry).name = name) : registry.named name = some entry := by
  cases found : registry.named name with
  | none =>
    have missed := List.find?_eq_none.mp found entry member
    exact absurd (decide_eq_true same) missed
  | some other =>
  obtain ⟨otherMem, otherName⟩ := named_some found
  have names := inv.unique
  rw [live, List.map_map] at names
  have equal : other = entry :=
    List.inj_on_of_nodup_map names otherMem member (otherName.trans same.symm)
  rw [equal]

theorem RegistryInv.names (inv : RegistryInv registry) : NamesRight registry where
  unique := inv.unique
  resolves entry member := by
    rw [inv.handles entry member]
    exact RefTable.access_linked member

end Lookup

/-! ## Calls that change nothing -/

section Unchanged

variable {κ : Type} {registry : NameRegistry κ} {call : RegistryCall} {name : Option Name}
  {status : NsrmStatus}

theorem CallRight.fails (failed : status ≠ .success) :
    CallRight registry call name (registry.fails status) where
  defined := rfl
  others _ _ := rfl
  existing _ _ _ _ := ⟨failed, rfl⟩
  missing _ _ := ⟨failed, rfl⟩
  effect done := absurd done failed
  notified _ member := absurd member List.not_mem_nil

theorem RegistryInv.fails (inv : RegistryInv registry) (failed : status ≠ .success) :
    CallRight registry call name (registry.fails status) ∧
      RegistryInv (registry.fails status).registry :=
  ⟨.fails failed, inv⟩

end Unchanged

/-! ## A block is taken and linked -/

section Link

variable {κ : Type} {registry : NameRegistry κ} {choice : Option Nat} {pool : BlockPool}
  {block : Nat}

theorem RegistryInv.take (inv : RegistryInv registry)
    (got : registry.pool.get choice = some (pool, block)) :
    RegistryInv { registry with pool := pool } := by
  obtain ⟨-, inUse, retired⟩ := BlockPool.get_some got
  obtain ⟨-, blocks⟩ := BlockPool.get_room got
  constructor
  case unique => exact inv.unique
  case handles => exact inv.handles
  case nodes => exact inv.nodes
  case owned =>
    intro entry member
    rw [inUse]
    exact List.mem_cons_of_mem _ (inv.owned entry member)
  case kept =>
    intro entry member
    rw [retired]
    exact inv.kept entry member
  case pool => exact inv.pool.get got
  case sizes =>
    rw [blocks]
    exact inv.sizes
  case hashed => exact inv.hashed

theorem RegistryInv.room (inv : RegistryInv registry)
    (got : registry.pool.get choice = some (pool, block)) :
    registry.registry.table.free ≠ [] := by
  intro full
  have blocks := (BlockPool.get_room got).1
  have within : (registry.registry.table.linked.map (·.node)).length ≤
      registry.pool.inUse.length := by
    apply (List.subperm_of_subset inv.nodes _).length_le
    intro node member
    obtain ⟨entry, entryMem, rfl⟩ := List.mem_map.mp member
    exact inv.owned entry entryMem
  have sizes := inv.sizes
  rw [full, List.length_nil] at sizes
  rw [List.length_map] at within
  omega

end Link

/-- A registry with an object in a new block of a table. -/
def NameRegistry.withObject {κ : Type} (registry : NameRegistry κ) (pool : BlockPool)
    (block : Nat) (table : RefTable Nat) (object : RegistryObject κ) : NameRegistry κ :=
  { registry with
    registry :=
      { table := table, objects := Function.update registry.registry.objects block object }
    pool := pool }

/-- An object with a new name is linked at the end of its table, and stores the reference it
is linked under. -/
structure ObjectLinked {κ : Type} (registry : NameRegistry κ) (pool : BlockPool) (block : Nat)
    (table : RefTable Nat) (noderef : MchashNoderef) (object : RegistryObject κ) : Prop where
  got : ∃ choice, registry.pool.get choice = some (pool, block)
  linked : table.linked =
    registry.registry.table.linked ++ [{ noderef := noderef, node := block }]
  sizes : table.free.length + table.linked.length =
    registry.registry.table.free.length + registry.registry.table.linked.length
  stores : object.handle = noderef
  fresh : registry.lookup object.name = none

namespace ObjectLinked

variable {κ : Type} {registry : NameRegistry κ} {pool : BlockPool} {block : Nat}
  {table : RefTable Nat} {noderef : MchashNoderef} {object : RegistryObject κ}
  {entry : LinkedNode Nat}

theorem unlinked (link : ObjectLinked registry pool block table noderef object)
    (inv : RegistryInv registry) (member : entry ∈ registry.registry.table.linked) :
    entry.node ≠ block := by
  obtain ⟨choice, got⟩ := link.got
  rintro rfl
  exact (BlockPool.get_some got).1 (inv.owned entry member)

theorem objectAt_old (link : ObjectLinked registry pool block table noderef object)
    (inv : RegistryInv registry) (member : entry ∈ registry.registry.table.linked) :
    (registry.withObject pool block table object).objectAt entry = registry.objectAt entry :=
  Function.update_of_ne (link.unlinked inv member) _ _

theorem objectAt_new :
    (registry.withObject pool block table object).objectAt
      { noderef := noderef, node := block } = object :=
  Function.update_self _ _ _

section

variable (link : ObjectLinked registry pool block table noderef object)

include link

theorem live_eq (inv : RegistryInv registry) :
    (registry.withObject pool block table object).live = registry.live ++ [object] := by
  have old : ∀ entry ∈ registry.registry.table.linked,
      (registry.withObject pool block table object).objectAt entry = registry.objectAt entry :=
    fun entry member => link.objectAt_old inv member
  change table.linked.map _ = _
  rw [link.linked, List.map_append, List.map_singleton, objectAt_new, NameRegistry.live,
    List.map_congr_left old]

theorem lookup_eq (inv : RegistryInv registry) :
    (registry.withObject pool block table object).lookup =
      Function.update registry.lookup object.name (some object) := by
  have absent := lookup_eq_none.mp link.fresh
  rw [lookup_eq_view, link.live_eq inv, KeyedList.view_append absent, ← lookup_eq_view]
  rfl

theorem member : { noderef := noderef, node := block } ∈ table.linked := by
  rw [link.linked]
  exact List.mem_append_right _ List.mem_cons_self

theorem old_or_new (member : entry ∈ table.linked) :
    entry ∈ registry.registry.table.linked ∨ entry = { noderef := noderef, node := block } := by
  rw [link.linked, List.mem_append, List.mem_singleton] at member
  exact member

/-- A new object keeps the invariant. -/
theorem inv (inv : RegistryInv registry) :
    RegistryInv (registry.withObject pool block table object) := by
  obtain ⟨choice, got⟩ := link.got
  obtain ⟨unused, inUse, retired⟩ := BlockPool.get_some got
  have taken := inv.take got
  constructor
  case unique =>
    rw [link.live_eq inv, List.map_append, List.map_singleton]
    exact inv.unique.append (List.nodup_singleton _)
      (List.disjoint_singleton.mpr (lookup_eq_none.mp link.fresh))
  case handles =>
    intro entry member
    rcases link.old_or_new member with before | rfl
    · rw [link.objectAt_old inv before]
      exact inv.handles entry before
    · rw [objectAt_new]
      exact link.stores
  case nodes =>
    change (table.linked.map _).Nodup
    rw [link.linked, List.map_append, List.map_singleton]
    refine inv.nodes.append (List.nodup_singleton _) (List.disjoint_singleton.mpr ?_)
    intro again
    obtain ⟨entry, member, same⟩ := List.mem_map.mp again
    exact link.unlinked inv member same
  case owned =>
    intro entry member
    rcases link.old_or_new member with before | rfl
    · exact taken.owned entry before
    · change block ∈ pool.inUse
      rw [inUse]
      exact List.mem_cons_self
  case kept =>
    intro entry member
    rcases link.old_or_new member with before | rfl
    · exact taken.kept entry before
    · change block ∉ pool.retired
      rw [retired]
      exact fun pending => unused (inv.pool.pending block pending)
  case pool => exact taken.pool
  case sizes =>
    change pool.maxBlocks ≤ table.free.length + table.linked.length
    rw [link.sizes]
    exact taken.sizes
  case hashed => exact inv.hashed

/-- The addition is right. -/
theorem right (inv : RegistryInv registry) :
    CallRight registry .add (some object.name)
      { registry := registry.withObject pool block table object
        status := .success
        notified := [object.handle] } := by
  constructor
  case defined => rfl
  case others =>
    intro other apart
    rw [link.lookup_eq inv, Function.update_of_ne]
    rintro rfl
    exact apart rfl
  case existing =>
    rintro - other ⟨⟩ existing
    exact absurd link.fresh existing
  case missing => exact fun other => absurd rfl other
  case effect =>
    intro _
    refine ⟨object.name, rfl, ?_⟩
    rw [link.lookup_eq inv, Function.update_self]
    simp
  case notified =>
    intro handle passed
    rw [List.mem_singleton] at passed
    subst passed
    refine ⟨object.name, rfl, block, ?_, congrArg RegistryObject.name (@objectAt_new _ registry
      pool block table noderef object)⟩
    rw [link.stores]
    exact RefTable.access_linked link.member

end

end ObjectLinked

theorem RegistryInv.link {κ : Type} {registry : NameRegistry κ} (inv : RegistryInv registry)
    {choice : Option Nat} {pool : BlockPool} {block : Nat}
    (got : registry.pool.get choice = some (pool, block)) {addFail : NsrmStatus} {name : Name}
    {write : MchashNoderef → RegistryObject κ}
    (bears : ∀ noderef, (write noderef).name = name)
    (handled : ∀ noderef, noderef.magic = registry.registry.table.magicNo →
      (write noderef).handle = noderef)
    (fresh : registry.lookup name = none) :
    CallRight registry .add (some name) (registry.link pool block addFail write) ∧
      RegistryInv (registry.link pool block addFail write).registry := by
  obtain ⟨table, noderef, appended, linked, -⟩ := RefTable.append_free (inv.room got) block
  have sizes := registry.registry.table.append_sizes block
  rw [appended] at sizes
  rw [← bears noderef] at fresh ⊢
  have link : ObjectLinked registry pool block table noderef (write noderef) :=
    ⟨⟨choice, got⟩, linked, sizes, handled noderef (RefTable.append_magic appended), fresh⟩
  simp only [NameRegistry.link, appended]
  exact ⟨link.right inv, link.inv inv⟩

/-! ## An object is unlinked -/

/-- A registry after the node of a block left its table. -/
def NameRegistry.withoutBlock {κ : Type} (registry : NameRegistry κ) (block : Nat)
    (table : RefTable Nat) : NameRegistry κ :=
  { registry with
    registry := { registry.registry with table := table }
    pool := registry.pool.retire block }

/-- A node of a table is unlinked. -/
structure ObjectUnlinked {κ : Type} (registry : NameRegistry κ) (entry : LinkedNode Nat)
    (table : RefTable Nat) (front back : List (LinkedNode Nat)) : Prop where
  before : registry.registry.table.linked = front ++ entry :: back
  after : table.linked = front ++ back
  sizes : table.free.length + table.linked.length =
    registry.registry.table.free.length + registry.registry.table.linked.length

namespace ObjectUnlinked

variable {κ : Type} {registry : NameRegistry κ} {table : RefTable Nat}
  {entry other : LinkedNode Nat} {front back : List (LinkedNode Nat)}

section

variable (cut : ObjectUnlinked registry entry table front back)

include cut

theorem live_before :
    registry.live = front.map registry.objectAt ++
      registry.objectAt entry :: back.map registry.objectAt := by
  rw [NameRegistry.live, cut.before, List.map_append, List.map_cons]

theorem live_after :
    (registry.withoutBlock entry.node table).live =
      front.map registry.objectAt ++ back.map registry.objectAt := by
  change table.linked.map registry.objectAt = _
  rw [cut.after, List.map_append]

theorem lookup_eq (inv : RegistryInv registry) :
    (registry.withoutBlock entry.node table).lookup =
      Function.update registry.lookup (registry.objectAt entry).name none := by
  have unique := inv.unique
  rw [cut.live_before] at unique
  rw [lookup_eq_view, lookup_eq_view, cut.live_after, cut.live_before,
    KeyedList.view_without unique]

theorem member : entry ∈ registry.registry.table.linked := by
  rw [cut.before]
  exact List.mem_append_right _ List.mem_cons_self

theorem old (member : other ∈ table.linked) : other ∈ registry.registry.table.linked := by
  rw [cut.after, List.mem_append] at member
  rw [cut.before, List.mem_append, List.mem_cons]
  exact member.imp_right Or.inr

theorem node_ne (inv : RegistryInv registry) (member : other ∈ table.linked) :
    other.node ≠ entry.node := by
  have nodes := inv.nodes
  rw [cut.before, List.map_append, List.map_cons] at nodes
  rw [cut.after] at member
  intro same
  have absent := (List.nodup_cons.mp (List.nodup_middle.mp nodes)).1
  rw [← List.map_append, ← same] at absent
  exact absent (List.mem_map_of_mem member)

/-- An object taken away keeps the invariant. -/
theorem inv (inv : RegistryInv registry) :
    RegistryInv (registry.withoutBlock entry.node table) := by
  constructor
  case unique =>
    have unique := inv.unique
    rw [cut.live_before] at unique
    rw [cut.live_after]
    exact unique.sublist ((List.sublist_cons_self _ _).append_left _ |>.map _)
  case handles => exact fun other member => inv.handles other (cut.old member)
  case nodes =>
    have nodes := inv.nodes
    rw [cut.before] at nodes
    change (table.linked.map _).Nodup
    rw [cut.after]
    exact nodes.sublist ((List.sublist_cons_self _ _).append_left _ |>.map _)
  case owned => exact fun other member => inv.owned other (cut.old member)
  case kept =>
    intro other member again
    rcases List.mem_cons.mp again with same | pending
    · exact cut.node_ne inv member same
    · exact inv.kept other (cut.old member) pending
  case pool => exact inv.pool.retire (inv.owned entry cut.member) (inv.kept entry cut.member)
  case sizes =>
    change registry.pool.maxBlocks ≤ table.free.length + table.linked.length
    rw [cut.sizes]
    exact inv.sizes
  case hashed => exact inv.hashed

/-- The deletion is right. -/
theorem right (inv : RegistryInv registry) :
    CallRight registry .delete (some (registry.objectAt entry).name)
      { registry := registry.withoutBlock entry.node table
        status := .success
        notified := [entry.noderef, (registry.objectAt entry).handle] } := by
  have found : registry.named (registry.objectAt entry).name = some entry :=
    inv.named_eq cut.member rfl
  constructor
  case defined => rfl
  case others =>
    intro other apart
    rw [cut.lookup_eq inv, Function.update_of_ne]
    rintro rfl
    exact apart rfl
  case existing => exact nofun
  case missing =>
    intro _ missing
    have existing := missing _ rfl
    rw [lookup_of_named found] at existing
    cases existing
  case effect =>
    intro _
    refine ⟨_, rfl, ?_⟩
    rw [cut.lookup_eq inv, Function.update_self]
    simp
  case notified =>
    intro handle passed
    rw [inv.handles entry cut.member, List.mem_pair, or_self] at passed
    subst passed
    exact ⟨_, rfl, entry.node, RefTable.access_linked cut.member, rfl⟩

end

end ObjectUnlinked

theorem ObjectUnlinked.deleteByRef {κ : Type} (registry : NameRegistry κ)
    {entry : LinkedNode Nat} (member : entry ∈ registry.registry.table.linked) :
    ∃ table front back,
      registry.registry.table.deleteByRef entry.noderef = (table, .deleted entry.node) ∧
      ObjectUnlinked registry entry table front back := by
  obtain ⟨table, deleted, linked, -⟩ := RefTable.deleteByRef_linked member
  have sizes := registry.registry.table.deleteByRef_sizes entry.noderef
  rw [deleted] at sizes
  obtain ⟨front, back, -, cut, erased⟩ := List.exists_erase_eq member
  exact ⟨table, front, back, deleted, cut, linked.trans erased, sizes⟩

/-- A deletion keeps the registry, and is right. -/
theorem RegistryInv.delete {κ : Type} {registry : NameRegistry κ} (inv : RegistryInv registry)
    {key : ObjectKey} {invalid delFail : NsrmStatus}
    {refuses : RegistryObject κ → Option NsrmStatus} (invalidFails : invalid ≠ .success)
    (refusesFails : ∀ object status, refuses object = some status → status ≠ .success)
    (tenant : registry.DeletesWithTenant key) :
    CallRight registry .delete key.name (registry.delete key invalid delFail refuses) ∧
      RegistryInv (registry.delete key invalid delFail refuses).registry := by
  unfold NameRegistry.delete
  cases given : key.name with
  | none => exact inv.fails invalidFails
  | some name =>
  dsimp only
  cases found : registry.named name with
  | none => exact inv.fails invalidFails
  | some entry =>
  obtain ⟨member, bears⟩ := named_some found
  have live : registry.lookup name ≠ none := by
    rw [lookup_of_named found]
    exact Option.some_ne_none _
  obtain ⟨tenantName, named⟩ := Option.isSome_iff_exists.mp (tenant name given live)
  simp only [RefTable.access_linked member, named]
  split
  · exact inv.fails nofun
  cases refused : refuses (registry.registry.objects entry.node) with
  | some status => exact inv.fails (refusesFails _ status refused)
  | none =>
  obtain ⟨table, front, back, deleted, cut⟩ :=
    ObjectUnlinked.deleteByRef registry member
  simp only [deleted]
  rw [← bears]
  exact ⟨cut.right inv, cut.inv inv⟩

/-! ## An object is rewritten -/

section Rewrite

variable {κ : Type} {registry : NameRegistry κ} {block : Nat} {entry : LinkedNode Nat}
  {change change' : RegistryObject κ → RegistryObject κ} {name : Name}

/-- A change keeps the name and the handle of the object in a block. -/
structure KeepsIdentity (registry : NameRegistry κ) (block : Nat)
    (change : RegistryObject κ → RegistryObject κ) : Prop where
  name : (change (registry.registry.objects block)).name = (registry.registry.objects block).name
  handle : (change (registry.registry.objects block)).handle =
    (registry.registry.objects block).handle

theorem objectAt_rewrite_ne (apart : entry.node ≠ block) :
    (registry.rewrite block change).objectAt entry = registry.objectAt entry :=
  Function.update_of_ne apart _ _

theorem objectAt_rewrite_self :
    (registry.rewrite entry.node change).objectAt entry = change (registry.objectAt entry) :=
  Function.update_self _ _ _

theorem rewrite_rewrite :
    (registry.rewrite block change).rewrite block change' =
      registry.rewrite block (change' ∘ change) := by
  simp [NameRegistry.rewrite, Registry.change]

theorem KeepsIdentity.same (keeps : KeepsIdentity registry block change) (entry : LinkedNode Nat) :
    ((registry.rewrite block change).objectAt entry).name = (registry.objectAt entry).name ∧
      ((registry.rewrite block change).objectAt entry).handle =
        (registry.objectAt entry).handle := by
  rcases eq_or_ne entry.node block with rfl | apart
  · rw [objectAt_rewrite_self]
    exact ⟨keeps.name, keeps.handle⟩
  · rw [objectAt_rewrite_ne apart]
    exact ⟨rfl, rfl⟩

theorem KeepsIdentity.named_eq (keeps : KeepsIdentity registry block change) (name : Name) :
    (registry.rewrite block change).named name = registry.named name :=
  Registry.change_named keeps.name name

theorem RegistryInv.rewrite (inv : RegistryInv registry)
    (keeps : KeepsIdentity registry block change) :
    RegistryInv (registry.rewrite block change) := by
  constructor
  case unique =>
    have names := inv.unique
    have same : RegistryObject.name ∘ (registry.rewrite block change).objectAt =
        RegistryObject.name ∘ registry.objectAt :=
      funext fun entry => (keeps.same entry).1
    rw [live, List.map_map] at names ⊢
    rw [same]
    exact names
  case handles =>
    intro entry member
    rw [(keeps.same entry).2]
    exact inv.handles entry member
  case nodes => exact inv.nodes
  case owned => exact inv.owned
  case kept => exact inv.kept
  case pool => exact inv.pool
  case sizes => exact inv.sizes
  case hashed => exact inv.hashed

/-- A change of the settings keeps the registry, and is right. -/
theorem RegistryInv.modify (inv : RegistryInv registry) (found : registry.named name = some entry)
    (keeps : KeepsIdentity registry entry.node change) (status : NsrmStatus) :
    CallRight registry .modify (some name)
        { registry := registry.rewrite entry.node change, status := status } ∧
      RegistryInv (registry.rewrite entry.node change) := by
  refine ⟨?_, inv.rewrite keeps⟩
  obtain ⟨member, bears⟩ := named_some found
  constructor
  case defined => rfl
  case others =>
    intro other apart
    change ((registry.rewrite entry.node change).named other).map _ = _
    rw [keeps.named_eq, lookup]
    cases there : registry.named other with
    | none => rfl
    | some entry' =>
    obtain ⟨member', bears'⟩ := named_some there
    rw [Option.map_some, Option.map_some, objectAt_rewrite_ne]
    intro same
    have equal : entry' = entry := List.inj_on_of_nodup_map inv.nodes member' member same
    rw [equal, bears] at bears'
    exact apart (congrArg some bears')
  case existing => exact nofun
  case missing =>
    intro _ missing
    have existing := missing _ rfl
    rw [lookup_of_named found] at existing
    cases existing
  case effect =>
    intro _
    refine ⟨name, rfl, ?_⟩
    change (((registry.rewrite entry.node change).named name).map _).isSome ↔ _
    rw [keeps.named_eq, found]
    simp
  case notified => exact fun _ passed => absurd passed List.not_mem_nil

/-- So does a change of the last parameter alone. -/
theorem RegistryInv.modifyLast (inv : RegistryInv registry) {key : ObjectKey}
    {invalid modFail : NsrmStatus} {write : κ → κ} (invalidFails : invalid ≠ .success)
    (modFails : modFail ≠ .success) (last : registry.ModifiesLast key) :
    CallRight registry .modify key.name (registry.modifyLast key invalid modFail write) ∧
      RegistryInv (registry.modifyLast key invalid modFail write).registry := by
  unfold NameRegistry.modifyLast
  split
  case h_2 => exact inv.fails nofun
  case h_1 name tenantName given tenant =>
  rw [given]
  cases found : registry.named name with
  | none => exact inv.fails invalidFails
  | some entry =>
  dsimp only
  split
  case isFalse => exact inv.fails modFails
  case isTrue matched =>
  obtain ⟨hit, hitMem, same⟩ := List.any_eq_true.mp matched
  obtain ⟨sameName, sameTenant⟩ := of_decide_eq_true same
  have hitEq : registry.named name = some hit :=
    inv.named_eq (List.mem_of_mem_filter hitMem) sameName
  rw [found, Option.some.injEq] at hitEq
  subst hitEq
  have lastIs := last name _ given (lookup_of_named found) (by rw [tenant, sameTenant])
  rw [LastOfBucket, found] at lastIs
  simp only [lastIs]
  exact inv.modify found ⟨(named_some found).2.symm, rfl⟩ _

end Rewrite

/-! ## The calls -/

/-- What a call and the registry after it are to be. -/
def Kept {κ : Type} (before : NameRegistry κ) (call : RegistryCall) (name : Option Name)
    (result : RegistryResult κ) : Prop :=
  CallRight before call name result ∧ RegistryInv result.registry

section Services

variable {registry : NameRegistry NwserviceSettings} {key : ObjectKey}

/-- Adding a service that meets its condition is right. -/
theorem addNwserviceObject_kept (inv : RegistryInv registry) {config : NwserviceConfig}
    {answers : AddAnswers}
    (met : ∀ name, key.name = some name → key.tenantName.isSome ∧
      (answers.tenantReady → config.numberOfConfigParams ≠ 0 →
        answers.garbage.toUInt32.toNat < registry.buckets ∧ registry.Opens name answers)) :
    Kept registry .add key.name (addNwserviceObject registry key config answers) := by
  unfold addNwserviceObject
  split
  case h_1 => exact inv.fails nofun
  case h_2 name given tenant =>
    have missing := (met name given).1
    rw [tenant] at missing
    cases missing
  case h_3 name tenantName given tenant =>
    rw [given]
    split
    · exact inv.fails nofun
    rename_i ready
    split
    · exact inv.fails nofun
    rename_i configured
    obtain ⟨within, opens⟩ := (met name given).2 (not_not.mp ready) configured
    rw [if_neg (Nat.not_le.mpr within)]
    cases got : registry.pool.get answers.block with
    | none => exact inv.fails nofun
    | some taken =>
      rw [Opens, got] at opens
      exact inv.link got (fun _ => rfl) (fun _ _ => rfl) (opens rfl)

theorem modifyNwserviceObject_kept (inv : RegistryInv registry) {config : NwserviceConfig}
    (met : registry.ModifiesLast key) :
    Kept registry .modify key.name (modifyNwserviceObject registry key config) :=
  inv.modifyLast nofun nofun met

theorem delNwserviceObject_kept (inv : RegistryInv registry)
    (met : registry.DeletesWithTenant key) :
    Kept registry .delete key.name (delNwserviceObject registry key) := by
  refine inv.delete (by nofun) ?_ met
  intro object status refused
  split at refused
  · cases refused
    exact nofun
  · split at refused
    · cases refused
      exact nofun
    · cases refused

end Services

section Chains

variable {registry : NameRegistry NschainSettings} {key : ObjectKey} {config : NschainConfig}

/-- Adding a chain that meets its condition is right. -/
theorem addNschainObject_kept (inv : RegistryInv registry) {answers : AddAnswers}
    (met : registry.AddsNew key config.numberOfConfigParams answers) :
    Kept registry .add key.name (addNschainObject registry key config answers) := by
  unfold addNschainObject
  split
  case h_1 => exact inv.fails nofun
  case h_2 name given tenant =>
    have missing := (met name given).1
    rw [tenant] at missing
    cases missing
  case h_3 name tenantName given tenant =>
    rw [given]
    split
    · exact inv.fails nofun
    rename_i ready
    split
    · exact inv.fails nofun
    rename_i configured
    obtain ⟨supplied, new⟩ := (met name given).2 (not_not.mp ready) configured
    cases got : registry.pool.get answers.block with
    | none =>
      rw [got] at supplied
      cases supplied
    | some taken =>
    dsimp only
    split
    · -- the block stays behind, and the name was new
      refine ⟨?_, inv.take got⟩
      constructor
      case defined => rfl
      case others => exact fun _ _ => rfl
      case existing =>
        rintro - live ⟨⟩ existing
        exact absurd new existing
      case missing => exact fun other => absurd rfl other
      case effect => exact nofun
      case notified => exact fun _ passed => absurd passed List.not_mem_nil
    · exact inv.link got (fun _ => rfl) (fun _ _ => rfl) new

theorem modifyNschainObject_kept (inv : RegistryInv registry) :
    Kept registry .modify key.name (modifyNschainObject registry key config) := by
  unfold modifyNschainObject
  split
  case h_2 => exact inv.fails nofun
  case h_1 name tenantName given tenant =>
  rw [given]
  cases found : registry.named name with
  | none => exact inv.fails nofun
  | some entry =>
  obtain ⟨member, bears⟩ := named_some found
  simp only [RefTable.access_linked member]
  split
  · exact inv.fails nofun
  · split
    · exact inv.modify found ⟨bears.symm, rfl⟩ _
    · exact inv.modify found ⟨bears.symm, rfl⟩ _

theorem delNschainObject_kept (inv : RegistryInv registry) (met : registry.DeletesWithTenant key) :
    Kept registry .delete key.name (delNschainObject registry key) := by
  refine inv.delete (by nofun) ?_ met
  intro object status refused
  split at refused
  · cases refused
    exact nofun
  · split at refused
    · cases refused
      exact nofun
    · cases refused

end Chains

section ChainSets

variable {registry : NameRegistry NschainsetSettings} {key : ObjectKey}
  {config : NschainsetConfig}

/-- Adding a chain set that meets its condition is right. -/
theorem addNschainsetObject_kept (inv : RegistryInv registry) {answers : AddAnswers}
    (met : registry.AddsNew key config.numberOfConfigParams answers)
    (magic : key.name.isSome → answers.tenantReady → config.numberOfConfigParams ≠ 0 →
      answers.garbage.toUInt32.toNat = registry.registry.table.magicNo) :
    Kept registry .add key.name (addNschainsetObject registry key config answers) := by
  unfold addNschainsetObject
  split
  case h_1 => exact inv.fails nofun
  case h_2 name given tenant =>
    have missing := (met name given).1
    rw [tenant] at missing
    cases missing
  case h_3 name tenantName given tenant =>
    rw [given] at magic ⊢
    split
    · exact inv.fails nofun
    rename_i ready
    split
    · exact inv.fails nofun
    rename_i configured
    obtain ⟨supplied, new⟩ := (met name given).2 (not_not.mp ready) configured
    have same := magic rfl (not_not.mp ready) configured
    cases got : registry.pool.get answers.block with
    | none =>
      rw [got] at supplied
      cases supplied
    | some taken =>
      exact inv.link got (fun _ => rfl)
        (fun noderef next => MchashNoderef.ext rfl (same.trans next.symm)) new

theorem modifyNschainsetObject_kept (inv : RegistryInv registry) (met : registry.ModifiesLast key) :
    Kept registry .modify key.name (modifyNschainsetObject registry key config) :=
  inv.modifyLast nofun nofun met

theorem delNschainsetObject_kept (inv : RegistryInv registry)
    (met : registry.DeletesWithTenant key) :
    Kept registry .delete key.name (delNschainsetObject registry key) :=
  inv.delete nofun (fun _ _ refused => by cases refused) met

end ChainSets

section Scans

variable {registry : NameRegistry L2mapSettings} {key : L2mapKey} {name : Name}
  {vnName tenantName : Option Name} {objects : List (RegistryObject L2mapSettings)}

/-- The scan faults only without a network name. -/
theorem scanForDuplicate_faulted (faulted : scanForDuplicate name vnName objects = .faulted) :
    vnName = none ∧ ∃ object, objects.head? = some object ∧ object.name ≠ name := by
  cases vnName with
  | none =>
    cases objects with
    | nil => cases faulted
    | cons object rest =>
    rw [scanForDuplicate] at faulted
    split at faulted
    · cases faulted
    · rename_i apart
      exact ⟨rfl, object, rfl, apart⟩
  | some vnName =>
  induction objects with
  | nil => cases faulted
  | cons object rest ih =>
  rw [scanForDuplicate] at faulted
  split at faulted
  · cases faulted
  · split at faulted
    · cases faulted
    · exact absurd (ih faulted).1 (Option.some_ne_none vnName)

theorem scanForDuplicate_missed (missed : scanForDuplicate name vnName objects = .missed) :
    ∀ object ∈ objects, object.name ≠ name ∧ vnName ≠ some object.settings.vnName := by
  induction objects with
  | nil => exact fun _ member => absurd member List.not_mem_nil
  | cons object rest ih =>
  cases vnName with
  | none =>
    rw [scanForDuplicate] at missed
    split at missed <;> cases missed
  | some vn =>
  rw [scanForDuplicate] at missed
  split at missed
  · cases missed
  rename_i apart
  split at missed
  · cases missed
  rename_i unmapped
  intro other member
  rcases List.mem_cons.mp member with rfl | later
  · exact ⟨apart, fun same => unmapped (Option.some.inj same).symm⟩
  · exact ih missed other later

theorem bucket_objects (bucket : Nat) :
    (registry.registry.table.linked.filter
        (fun entry => registry.hash (registry.objectAt entry).name = bucket)).map
          registry.objectAt =
      registry.live.filter (fun object => registry.hash object.name = bucket) := by
  rw [live, List.filter_map]
  rfl

theorem scanBuckets_faulted (faulted : scanBuckets registry name key.vnName = .faulted) :
    ¬ ComparesNoNull registry key name := by
  unfold scanBuckets at faulted
  dsimp only at faulted
  split at faulted
  case isTrue there =>
    obtain ⟨bucket, -, scanned⟩ := List.mem_map.mp there
    rw [bucket_objects] at scanned
    obtain ⟨noNetwork, object, first, apart⟩ := scanForDuplicate_faulted scanned
    rintro (network | named)
    · rw [noNetwork] at network
      cases network
    · exact apart (named bucket object first)
  case isFalse =>
    split at faulted <;> cases faulted

/-- A scan that misses has met neither name. -/
theorem scanBuckets_missed (inv : RegistryInv registry)
    (missed : scanBuckets registry name vnName = .missed) :
    ∀ object ∈ registry.live, object.name ≠ name ∧ vnName ≠ some object.settings.vnName := by
  unfold scanBuckets at missed
  dsimp only at missed
  split at missed
  case isTrue => cases missed
  case isFalse unfaulted =>
  split at missed
  case isTrue => cases missed
  case isFalse unhit =>
  intro object member
  have within := List.mem_range.mpr (inv.hashed object.name)
  have scanned := @List.mem_map_of_mem _ _ _ _ (fun bucket => scanForDuplicate name vnName
    ((registry.registry.table.linked.filter
      (fun entry => registry.hash (registry.objectAt entry).name = bucket)).map
        registry.objectAt)) within
  cases result : scanForDuplicate name vnName
    ((registry.registry.table.linked.filter
      (fun entry => registry.hash (registry.objectAt entry).name =
        registry.hash object.name)).map registry.objectAt) with
  | hit =>
    rw [result] at scanned
    exact absurd scanned unhit
  | faulted =>
    rw [result] at scanned
    exact absurd scanned unfaulted
  | missed =>
  apply scanForDuplicate_missed result
  rw [bucket_objects, List.mem_filter]
  exact ⟨member, decide_eq_true rfl⟩

variable {object : RegistryObject L2mapSettings}

theorem scanForMap_cons_ne (apart : object.name ≠ name) :
    scanForMap name vnName tenantName (object :: objects) =
      scanForMap name vnName tenantName objects := by
  simp only [scanForMap, if_neg apart]

theorem scanForMap_missed (absent : name ∉ objects.map RegistryObject.name) :
    scanForMap name vnName tenantName objects = .missed := by
  induction objects with
  | nil => rfl
  | cons object rest ih =>
  rw [List.map_cons, List.mem_cons, not_or] at absent
  rw [scanForMap_cons_ne (Ne.symm absent.1)]
  exact ih absent.2

theorem scanForMap_skip {rest : List (RegistryObject L2mapSettings)}
    (absent : name ∉ objects.map RegistryObject.name) :
    scanForMap name vnName tenantName (objects ++ rest) =
      scanForMap name vnName tenantName rest := by
  induction objects with
  | nil => rfl
  | cons object others ih =>
  rw [List.map_cons, List.mem_cons, not_or] at absent
  rw [List.cons_append, scanForMap_cons_ne (Ne.symm absent.1)]
  exact ih absent.2

theorem scanForMap_singleton (bears : object.name = name) (vn : Name) :
    scanForMap name (some vn) tenantName [object] =
      if object.settings.vnName = vn then
        match tenantName with
        | none => .faulted
        | some tenant => if object.tenantName = tenant then .hit else .missed
      else .missed := by
  rw [scanForMap.eq_def]
  dsimp only
  rw [if_pos bears]
  rfl

end Scans

section L2maps

variable {registry : NameRegistry L2mapSettings} {nschainsets : NameRegistry NschainsetSettings}
  {key : L2mapKey} {config : L2mapConfig} {vns : VnAnswers}

theorem RegistryInv.failsMapped (inv : RegistryInv registry) {status : NsrmStatus}
    {name : Option Name} (failed : status ≠ .success) :
    Kept registry .add name (registry.fails status) ∧
      MappedOnce registry key (registry.fails status) :=
  ⟨inv.fails failed, fun _ _ _ => ⟨failed, rfl⟩⟩

/-- Adding a map that meets its condition is right. -/
theorem addL2nwServiceMapRecord_kept (inv : RegistryInv registry) {answers : AddAnswers}
    (met : ∀ name, key.mapName = some name → key.tenantName.isSome ∧
      (answers.tenantReady → config.numberOfConfigParams ≠ 0 →
        (∀ vnName, key.vnName = some vnName → (vns.handleOf vnName).isSome) →
        (∀ nschainset, config.nschainsetObjectName = some nschainset →
          nschainsets.lookup nschainset ≠ none) →
        ComparesNoNull registry key name ∧
          ((∀ object ∈ registry.live,
              object.name ≠ name ∧ key.vnName ≠ some object.settings.vnName) →
            (registry.pool.get answers.block).isSome))) :
    Kept registry .add key.mapName
        (addL2nwServiceMapRecord nschainsets registry key config answers vns) ∧
      MappedOnce registry key
        (addL2nwServiceMapRecord nschainsets registry key config answers vns) := by
  unfold addL2nwServiceMapRecord
  split
  case h_1 => exact inv.failsMapped nofun
  case h_2 name given tenant =>
    have missing := (met name given).1
    rw [tenant] at missing
    cases missing
  case h_3 name tenantName given tenant =>
    rw [given]
    have rest := (met name given).2
    split
    case isTrue => exact inv.failsMapped nofun
    case isFalse ready =>
    split
    case h_1 => exact inv.failsMapped nofun
    case h_2 networkKnown =>
    split
    case h_1 => exact inv.failsMapped nofun
    case h_2 nschainsetKnown =>
    split
    case isTrue => exact inv.failsMapped nofun
    case isFalse configured =>
    obtain ⟨compares, supplied⟩ := rest (not_not.mp ready) configured
      (by
        intro vnName named
        rw [Option.isSome_iff_ne_none]
        intro unknown
        exact networkKnown (by rw [named, Option.map_some, unknown]))
      (by
        intro nschainset named unknown
        rw [NameRegistry.lookup, Option.map_eq_none_iff] at unknown
        exact nschainsetKnown (by rw [named, Option.map_some, unknown]))
    split
    case h_1 scanned => exact absurd compares (scanBuckets_faulted scanned)
    case h_2 => exact inv.failsMapped nofun
    case h_3 scanned =>
      have missed := scanBuckets_missed inv scanned
      have new : registry.lookup name = none := by
        rw [lookup_eq_none]
        intro listed
        obtain ⟨object, member, same⟩ := List.mem_map.mp listed
        exact (missed object member).1 same
      cases got : registry.pool.get answers.block with
      | none =>
        have found := supplied missed
        rw [got] at found
        cases found
      | some taken =>
      constructor
      · exact inv.link got (fun _ => rfl) (fun _ _ => rfl) new
      · rintro vnName named ⟨object, member, mapped⟩
        rw [← mapped] at named
        exact absurd named (missed object member).2

/-- A map is found in the bucket of its name. -/
theorem scanForMap_bucket (inv : RegistryInv registry) {name : Name} {entry : LinkedNode Nat}
    (found : registry.named name = some entry) :
    scanForMap name key.vnName key.tenantName ((registry.bucket name).map registry.objectAt) =
      scanForMap name key.vnName key.tenantName [registry.objectAt entry] := by
  obtain ⟨member, bears⟩ := named_some found
  have inBucket : entry ∈ registry.bucket name := by
    rw [NameRegistry.bucket, List.mem_filter, bears]
    exact ⟨member, decide_eq_true rfl⟩
  obtain ⟨front, back, cut⟩ := List.append_of_mem inBucket
  have names : ((registry.bucket name).map (RegistryObject.name ∘ registry.objectAt)).Nodup := by
    have unique := inv.unique
    rw [live, List.map_map] at unique
    exact unique.sublist (List.filter_sublist.map _)
  rw [cut, List.map_append, List.map_cons] at names
  have absent := (List.nodup_cons.mp (List.nodup_middle.mp names)).1
  rw [Function.comp_apply, bears, List.mem_append, not_or] at absent
  have other : ∀ entries : List (LinkedNode Nat),
      (entries.map registry.objectAt).map RegistryObject.name =
        entries.map (RegistryObject.name ∘ registry.objectAt) :=
    fun entries => List.map_map
  have behind : name ∉ (back.map registry.objectAt).map RegistryObject.name := by
    rw [other]
    exact absent.2
  have before : name ∉ (front.map registry.objectAt).map RegistryObject.name := by
    rw [other]
    exact absent.1
  rw [cut, List.map_append, scanForMap_skip before, List.map_cons]
  simp only [scanForMap, scanForMap_missed behind]
  rfl

/-- Changing a map that meets its condition is right. -/
theorem modifyL2nwServiceMapRecord_kept (inv : RegistryInv registry)
    (met : ∀ name object, key.mapName = some name → config.numberOfConfigParams ≠ 0 →
      registry.lookup name = some object → key.vnName.isSome ∧
        (key.vnName = some object.settings.vnName → key.tenantName.isSome ∧
          (key.tenantName = some object.tenantName →
            config.nschainsetObjectName.isSome ∧ registry.LastOfBucket name))) :
    Kept registry .modify key.mapName
      (modifyL2nwServiceMapRecord nschainsets registry key config vns) := by
  unfold modifyL2nwServiceMapRecord
  cases given : key.mapName with
  | none => exact inv.fails nofun
  | some name =>
  dsimp only
  split
  case isTrue => exact inv.fails nofun
  case isFalse configured =>
  cases found : registry.named name with
  | none =>
    have absent : name ∉ ((registry.bucket name).map registry.objectAt).map
        RegistryObject.name := by
      have unknown := lookup_eq_none.mp (lookup_none_of_named found)
      intro listed
      obtain ⟨object, objectMem, same⟩ := List.mem_map.mp listed
      obtain ⟨entry, member, rfl⟩ := List.mem_map.mp objectMem
      apply unknown
      exact List.mem_map.mpr ⟨_, List.mem_map_of_mem (List.mem_of_mem_filter member), same⟩
    rw [scanForMap_missed absent]
    exact inv.fails nofun
  | some entry =>
  obtain ⟨member, bears⟩ := named_some found
  obtain ⟨network, same⟩ := met name _ given configured (lookup_of_named found)
  obtain ⟨vnName, network⟩ := Option.isSome_iff_exists.mp network
  rw [scanForMap_bucket inv found]
  simp only [network, scanForMap_singleton bears]
  by_cases own : (registry.objectAt entry).settings.vnName = vnName
  case neg =>
    simp only [if_neg own]
    exact inv.fails nofun
  case pos =>
  obtain ⟨tenant, last⟩ := same (by rw [network, own])
  obtain ⟨tenantName, tenant⟩ := Option.isSome_iff_exists.mp tenant
  simp only [if_pos own, tenant]
  by_cases ownTenant : (registry.objectAt entry).tenantName = tenantName
  case neg =>
    simp only [if_neg ownTenant]
    exact inv.fails nofun
  case pos =>
  obtain ⟨named, lastIs⟩ := last (by rw [tenant, ownTenant])
  obtain ⟨nschainsetName, named⟩ := Option.isSome_iff_exists.mp named
  rw [LastOfBucket, found] at lastIs
  simp only [if_pos ownTenant, lastIs, named]
  -- the object is written step by step, and keeps its name in each
  cases nschainsets.named nschainsetName with
  | none => exact inv.modify found ⟨bears.symm, rfl⟩ _
  | some nschainset =>
  simp only [rewrite_rewrite]
  cases vns.handleOf vnName with
  | none => exact inv.modify found ⟨bears.symm, rfl⟩ _
  | some vnHandle => exact inv.modify found ⟨bears.symm, rfl⟩ _

theorem delL2nwServiceMapRecord_kept (inv : RegistryInv registry)
    (met : registry.DeletesWithTenant { name := key.mapName, tenantName := key.tenantName }) :
    Kept registry .delete key.mapName (delL2nwServiceMapRecord registry key vns) := by
  refine inv.delete (by nofun) ?_ met
  intro object status refused
  split at refused
  · cases refused
  · cases refused
    exact nofun

end L2maps

/-! ## Runs -/

theorem RegistryInv.reclaim {κ : Type} {registry : NameRegistry κ} (inv : RegistryInv registry)
    (block : Nat) : RegistryInv (registry.reclaim block) := by
  constructor
  case unique => exact inv.unique
  case handles => exact inv.handles
  case nodes => exact inv.nodes
  case owned =>
    intro entry member
    exact BlockPool.mem_reclaim_inUse (inv.owned entry member) (inv.kept entry member)
  case kept =>
    intro entry member
    exact BlockPool.reclaim_retired (inv.kept entry member)
  case pool => exact inv.pool.reclaim block
  case sizes =>
    have blocks : (registry.pool.reclaim block).maxBlocks = registry.pool.maxBlocks := by
      unfold BlockPool.reclaim
      split <;> rfl
    change (registry.pool.reclaim block).maxBlocks ≤ _
    rw [blocks]
    exact inv.sizes
  case hashed => exact inv.hashed

/-- A fresh registry has the invariant. -/
theorem NameRegistry.Fresh.inv {κ : Type} {registry : NameRegistry κ} {size : TableSize}
    (fresh : registry.Fresh size) : RegistryInv registry := by
  have linked : registry.registry.table.linked = [] := by
    rw [fresh.table]
    rfl
  have none : ∀ entry, entry ∉ registry.registry.table.linked := by
    intro entry member
    rw [linked] at member
    exact absurd member List.not_mem_nil
  constructor
  case unique =>
    rw [live, linked]
    exact List.nodup_nil
  case handles => exact fun entry member => absurd member (none entry)
  case nodes =>
    rw [linked]
    exact List.nodup_nil
  case owned => exact fun entry member => absurd member (none entry)
  case kept => exact fun entry member => absurd member (none entry)
  case pool =>
    rw [fresh.pool]
    exact ⟨fun _ member => absurd member List.not_mem_nil, List.nodup_nil⟩
  case sizes =>
    rw [fresh.pool, fresh.table]
    simp [RefTable.create]
  case hashed => exact fresh.hashed

/-- The four registries are well formed. -/
structure RegistriesInv (state : ServiceRegistries) : Prop where
  defined : state.undefined = false
  nwservices : RegistryInv state.nwservices
  nschains : RegistryInv state.nschains
  nschainsets : RegistryInv state.nschainsets
  l2maps : RegistryInv state.l2maps

namespace RegistriesInv

variable {state : ServiceRegistries} {call : RegistryCall} {name : Option Name}

section

variable (inv : RegistriesInv state)

include inv

theorem right : RegistriesRight state :=
  ⟨inv.defined, inv.nwservices.names, inv.nschains.names, inv.nschainsets.names, inv.l2maps.names⟩

theorem still {κ : Type} {registry : NameRegistry κ} {result : RegistryResult κ}
    (kept : Kept registry call name result) : (state.undefined || result.fault) = false := by
  rw [inv.defined, kept.1.defined, Bool.or_false]

theorem setNwservices {result : RegistryResult NwserviceSettings}
    (kept : Kept state.nwservices call name result) : RegistriesInv (state.setNwservices result) :=
  ⟨inv.still kept, kept.2, inv.nschains, inv.nschainsets, inv.l2maps⟩

theorem setNschains {result : RegistryResult NschainSettings}
    (kept : Kept state.nschains call name result) : RegistriesInv (state.setNschains result) :=
  ⟨inv.still kept, inv.nwservices, kept.2, inv.nschainsets, inv.l2maps⟩

theorem setNschainsets {result : RegistryResult NschainsetSettings}
    (kept : Kept state.nschainsets call name result) :
    RegistriesInv (state.setNschainsets result) :=
  ⟨inv.still kept, inv.nwservices, inv.nschains, kept.2, inv.l2maps⟩

theorem setL2maps {result : RegistryResult L2mapSettings}
    (kept : Kept state.l2maps call name result) : RegistriesInv (state.setL2maps result) :=
  ⟨inv.still kept, inv.nwservices, inv.nschains, inv.nschainsets, kept.2⟩

/-- An event that meets its condition is right and keeps the registries. -/
theorem step (event : RegistryEvent) (met : event.Meets state) :
    event.Right state ∧ RegistriesInv (applyRegistryEvent state event) := by
  cases event with
  | addNwservice key config answers =>
    have kept := addNwserviceObject_kept inv.nwservices met
    exact ⟨kept.1, inv.setNwservices kept⟩
  | modifyNwservice key config =>
    have kept := @modifyNwserviceObject_kept _ _ inv.nwservices config met
    exact ⟨kept.1, inv.setNwservices kept⟩
  | delNwservice key =>
    have kept := delNwserviceObject_kept inv.nwservices met
    exact ⟨kept.1, inv.setNwservices kept⟩
  | addNschain key config answers =>
    have kept := addNschainObject_kept inv.nschains met
    exact ⟨kept.1, inv.setNschains kept⟩
  | modifyNschain key config =>
    have kept := @modifyNschainObject_kept _ key config inv.nschains
    exact ⟨kept.1, inv.setNschains kept⟩
  | delNschain key =>
    have kept := delNschainObject_kept inv.nschains met
    exact ⟨kept.1, inv.setNschains kept⟩
  | addNschainset key config answers =>
    have kept := addNschainsetObject_kept inv.nschainsets met.1 met.2
    exact ⟨kept.1, inv.setNschainsets kept⟩
  | modifyNschainset key config =>
    have kept := @modifyNschainsetObject_kept _ _ config inv.nschainsets met
    exact ⟨kept.1, inv.setNschainsets kept⟩
  | delNschainset key =>
    have kept := delNschainsetObject_kept inv.nschainsets met
    exact ⟨kept.1, inv.setNschainsets kept⟩
  | addL2map key config answers vns =>
    obtain ⟨kept, once⟩ := addL2nwServiceMapRecord_kept inv.l2maps met
    exact ⟨⟨kept.1, once⟩, inv.setL2maps kept⟩
  | modifyL2map key config vns =>
    have kept := @modifyL2nwServiceMapRecord_kept _ state.nschainsets _ _ vns inv.l2maps met
    exact ⟨kept.1, inv.setL2maps kept⟩
  | delL2map key vns =>
    have kept := @delL2nwServiceMapRecord_kept _ _ vns inv.l2maps met
    exact ⟨kept.1, inv.setL2maps kept⟩
  | useNwservice block attachStatus bypassAttachCount =>
    exact ⟨trivial, inv.defined, inv.nwservices.rewrite ⟨rfl, rfl⟩, inv.nschains,
      inv.nschainsets, inv.l2maps⟩
  | useNschain block nwserviceInstanceCount nschainUsageCount =>
    exact ⟨trivial, inv.defined, inv.nwservices, inv.nschains.rewrite ⟨rfl, rfl⟩,
      inv.nschainsets, inv.l2maps⟩
  | reclaimNwservice block =>
    exact ⟨trivial, inv.defined, inv.nwservices.reclaim block, inv.nschains, inv.nschainsets,
      inv.l2maps⟩
  | reclaimNschain block =>
    exact ⟨trivial, inv.defined, inv.nwservices, inv.nschains.reclaim block, inv.nschainsets,
      inv.l2maps⟩
  | reclaimNschainset block =>
    exact ⟨trivial, inv.defined, inv.nwservices, inv.nschains, inv.nschainsets.reclaim block,
      inv.l2maps⟩
  | reclaimL2map block =>
    exact ⟨trivial, inv.defined, inv.nwservices, inv.nschains, inv.nschainsets,
      inv.l2maps.reclaim block⟩

end

end RegistriesInv

end OpenFlowController.Nsrm
