/-
Module: Nsrm.RuleTableOrder
Purpose: What adding and deleting a rule does to the ordered list of names of its owner,
  for the rules of either kind: a refinement of insertions and deletions in a list.
Trusted boundary: none
-/
import OpenFlowController.Library.PlacedList
import OpenFlowController.Nsrm.Objects
import OpenFlowController.Nsrm.RuleTable

namespace OpenFlowController.Nsrm

open Library List Function Utils

/-! ## The abstract list -/

/-- What a call asks of the list of one owner. -/
inductive ListCall where
  | add (name : Name) (place : Option (Place Name))
  | delete (name : Name)

/-- The list after a call, when the call has an effect on it. -/
def ListCall.apply (names : List Name) : ListCall → Option (List Name)
  | add name place => place.bind (fun place => place.insert name names)
  | delete name => if name ∈ names then some (names.erase name) else none

/-- The place a location and a relative name stand for. -/
def placeOf : Location → Option Name → Option (Place Name)
  | .first, _ => some .first
  | .last, _ => some .last
  | .before, some relative => some (.before relative)
  | .after, some relative => some (.after relative)
  | _, none => none

/-! ## The invariant of a table -/

variable {ρ : Type} {nameOf : ρ → Name}

/-- The lists have distinct names and link blocks of their own that are in use, and there
are as many blocks as a list has entries. -/
structure TableInv (nameOf : ρ → Name) (size : TableSize) (table : RuleTable ρ) : Prop where
  pool : table.pool.Sound
  blocks : table.pool.maxBlocks = size.1
  sizes : ∀ owner entries, table.lists owner = .table entries →
    entries.free.length + entries.linked.length = size.1
  distinct : ∀ owner, (table.namesOf nameOf owner).Nodup
  owned : ∀ owner, ∀ entry ∈ (table.lists owner).linked,
    entry.node ∈ table.pool.inUse ∧ entry.node ∉ table.pool.retired
  apart : ∀ first second, ∀ entry ∈ (table.lists first).linked,
    ∀ other ∈ (table.lists second).linked, entry.node = other.node → first = second ∧ entry = other

/-- The same names in every list, the same counters and the same blocks. -/
structure SameRules (nameOf : ρ → Name) (table after : RuleTable ρ) : Prop where
  names : ∀ owner, after.namesOf nameOf owner = table.namesOf nameOf owner
  counters : ∀ owner, after.noOfRules owner = table.noOfRules owner
  pool : after.pool = table.pool

theorem SameRules.rfl (table : RuleTable ρ) : SameRules nameOf table table :=
  ⟨fun _ => Eq.refl _, fun _ => Eq.refl _, Eq.refl _⟩

/-- The effect of a call on the list of its owner, and on no other; `counted` is what it
does to the counter. -/
structure Effect (nameOf : ρ → Name) (table after : RuleTable ρ) (owner : Nat)
    (call : ListCall) (counted : UInt8 → UInt8) : Prop where
  names : call.apply (table.namesOf nameOf owner) = some (after.namesOf nameOf owner)
  counter : after.noOfRules owner = counted (table.noOfRules owner)
  otherNames : ∀ other, other ≠ owner → after.namesOf nameOf other = table.namesOf nameOf other
  otherCounters : ∀ other, other ≠ owner → after.noOfRules other = table.noOfRules other

/-- An addition comes to the place its location stands for: `FIRST` names a relative rule
exactly when there is a rule, and `BEFORE` and `AFTER` name one that is there. -/
def Placeable (nameOf : ρ → Name) (table : RuleTable ρ) (owner : Nat) (location : Location)
    (relative : Option Name) : Prop :=
  match location, relative with
  | .last, _ => True
  | .first, none => table.namesOf nameOf owner = []
  | .first, some _ => table.noOfRules owner = 0 ↔ table.namesOf nameOf owner = []
  | .before, some relative | .after, some relative =>
    table.noOfRules owner ≠ 0 ∧ relative ∈ table.namesOf nameOf owner
  | .before, none | .after, none => False

instance (table : RuleTable ρ) (owner : Nat) (location : Location) (relative : Option Name) :
    Decidable (Placeable nameOf table owner location relative) := by
  unfold Placeable
  split <;> infer_instance

namespace RuleTable

variable {table : RuleTable ρ} {owner : Nat} {list : ListPtr}

theorem lists_setList_self : (table.setList owner list).lists owner = list := by
  simp [setList]

variable {other : Nat}

theorem lists_setList_ne (apart : other ≠ owner) :
    (table.setList owner list).lists other = table.lists other := by
  simp [setList, apart]

theorem setList_lists : table.setList owner (table.lists owner) = table := by
  simp [setList]

variable {after : RuleTable ρ}

theorem rulesOf_congr (linked : (after.lists other).linked = (table.lists other).linked)
    (rules : ∀ entry ∈ (table.lists other).linked,
      after.rules entry.node = table.rules entry.node) :
    after.rulesOf other = table.rulesOf other := by
  rw [rulesOf, rulesOf, linked]
  exact map_congr_left rules

theorem namesOf_eq_map (nameOf : ρ → Name) (table : RuleTable ρ) (owner : Nat) :
    table.namesOf nameOf owner = (table.rulesOf owner).map nameOf :=
  (map_map ..).symm

theorem namesOf_congr (linked : (after.lists other).linked = (table.lists other).linked)
    (rules : ∀ entry ∈ (table.lists other).linked,
      after.rules entry.node = table.rules entry.node) :
    after.namesOf nameOf other = table.namesOf nameOf other := by
  rw [namesOf_eq_map, namesOf_eq_map, rulesOf_congr linked rules]

end RuleTable

namespace TableInv

open RuleTable

variable {size : TableSize} {table : RuleTable ρ} {owner : Nat}

theorem blockLists (inv : TableInv nameOf size table) : BlockLists table.lists table.pool size.1 :=
  ⟨inv.pool, inv.sizes, inv.owned, inv.apart⟩

theorem nodes_nodup (inv : TableInv nameOf size table) (owner : Nat) :
    ((table.lists owner).linked.map (·.node)).Nodup := by
  have linked : (table.lists owner).linked.Nodup := by
    cases table.lists owner with
    | null => exact nodup_nil
    | zeroed => exact nodup_nil
    | table entries => exact RefTable.linked_nodup
  apply linked.map_on
  intro entry entryMem other otherMem same
  exact (inv.apart owner owner entry entryMem other otherMem same).2

theorem room (inv : TableInv nameOf size table) {entries : RefTable Nat}
    (list : table.lists owner = .table entries)
    (blocks : table.pool.inUse.length < table.pool.maxBlocks) : entries.free ≠ [] := by
  have nodup := inv.nodes_nodup owner
  have within : (table.lists owner).linked.map (·.node) ⊆ table.pool.inUse := by
    intro block member
    obtain ⟨entry, entryMem, rfl⟩ := mem_map.mp member
    exact (inv.owned owner entry entryMem).1
  have fewer := (nodup.subperm within).length_le
  have sizes := inv.sizes owner entries list
  rw [length_map, list] at fewer
  change entries.linked.length ≤ _ at fewer
  rw [inv.blocks] at blocks
  intro full
  rw [full, length_nil] at sizes
  omega

theorem relist (inv : TableInv nameOf size table) {list : ListPtr}
    (before : (table.lists owner).linked = []) (after : list.linked = [])
    (sizes : ∀ entries, list = .table entries →
      entries.free.length + entries.linked.length = size.1) :
    TableInv nameOf size (table.setList owner list) ∧
      SameRules nameOf table (table.setList owner list) := by
  have lists := inv.blockLists.relist before after sizes
  have names : ∀ other, (table.setList owner list).namesOf nameOf other =
      table.namesOf nameOf other :=
    fun other => namesOf_congr (BlockLists.linked_relist before after other) (fun _ _ => rfl)
  constructor
  · constructor
    case pool => exact inv.pool
    case blocks => exact inv.blocks
    case sizes => exact lists.sizes
    case distinct =>
      intro other
      rw [names]
      exact inv.distinct other
    case owned => exact lists.owned
    case apart => exact lists.apart
  · exact ⟨names, fun _ => rfl, rfl⟩

end TableInv

/-! ## Adding a rule -/

/-- The table after a block was filled with a rule and linked in the list of an owner. -/
def RuleTable.withRule (table : RuleTable ρ) (pool : BlockPool) (block : Nat) (rule : ρ)
    (owner : Nat) (list : ListPtr) : RuleTable ρ :=
  ((table.fill pool block rule).setList owner list).count owner

/-- A rule was linked between two parts of the list of its owner. -/
structure RuleLinked (nameOf : ρ → Name) (table : RuleTable ρ) (owner block : Nat) (rule : ρ)
    (pool : BlockPool) (entries after : RefTable Nat) (before behind : List (LinkedNode Nat))
    (noderef : MchashNoderef) : Prop where
  list : table.lists owner = .table entries
  cut : entries.linked = before ++ behind
  linked : after.linked = before ++ { noderef := noderef, node := block } :: behind
  sizes : after.free.length + after.linked.length = entries.free.length + entries.linked.length
  taken : ∃ choice, table.pool.get choice = some (pool, block)
  absent : nameOf rule ∉ table.namesOf nameOf owner

namespace RuleLinked

open RuleTable

variable {size : TableSize} {table : RuleTable ρ} {owner block : Nat} {rule : ρ}
  {pool : BlockPool} {entries after : RefTable Nat} {before behind : List (LinkedNode Nat)}
  {noderef : MchashNoderef}

theorem lists_self (table : RuleTable ρ) :
    (table.withRule pool block rule owner (.table after)).lists owner = .table after :=
  update_self _ _ _

theorem lists_ne (table : RuleTable ρ) {other : Nat} (apart : other ≠ owner) :
    (table.withRule pool block rule owner (.table after)).lists other = table.lists other :=
  update_of_ne apart _ _

theorem rules_old (inv : TableInv nameOf size table) (unused : block ∉ table.pool.inUse)
    {other : Nat} {entry : LinkedNode Nat} (member : entry ∈ (table.lists other).linked) :
    (table.withRule pool block rule owner (.table after)).rules entry.node =
      table.rules entry.node := by
  apply update_of_ne
  rintro rfl
  exact unused (inv.owned other entry member).1

theorem rulesOf_ne (inv : TableInv nameOf size table) (unused : block ∉ table.pool.inUse)
    {other : Nat} (apart : other ≠ owner) :
    (table.withRule pool block rule owner (.table after)).rulesOf other = table.rulesOf other := by
  apply rulesOf_congr
  case linked => rw [lists_ne table apart]
  case rules => exact fun entry member => rules_old inv unused member

theorem names_ne (inv : TableInv nameOf size table) (unused : block ∉ table.pool.inUse)
    {other : Nat} (apart : other ≠ owner) :
    (table.withRule pool block rule owner (.table after)).namesOf nameOf other =
      table.namesOf nameOf other := by
  rw [namesOf_eq_map, namesOf_eq_map, rulesOf_ne inv unused apart]

variable (link : RuleLinked nameOf table owner block rule pool entries after before behind noderef)

include link

theorem unused : block ∉ table.pool.inUse :=
  have ⟨_, got⟩ := link.taken
  (BlockPool.get_some got).1

theorem rules_cut (inv : TableInv nameOf size table) :
    table.rulesOf owner =
        before.map (fun entry => table.rules entry.node) ++
          behind.map (fun entry => table.rules entry.node) ∧
      (table.withRule pool block rule owner (.table after)).rulesOf owner =
        before.map (fun entry => table.rules entry.node) ++
          rule :: behind.map (fun entry => table.rules entry.node) := by
  rw [rulesOf, rulesOf, lists_self]
  exact inv.blockLists.map_link link.list link.cut link.linked link.unused table.rules rule

theorem names_cut (inv : TableInv nameOf size table) :
    table.namesOf nameOf owner =
        before.map (fun entry => nameOf (table.rules entry.node)) ++
          behind.map (fun entry => nameOf (table.rules entry.node)) ∧
      (table.withRule pool block rule owner (.table after)).namesOf nameOf owner =
        before.map (fun entry => nameOf (table.rules entry.node)) ++
          nameOf rule :: behind.map (fun entry => nameOf (table.rules entry.node)) := by
  obtain ⟨old, new⟩ := link.rules_cut inv
  constructor
  · rw [namesOf_eq_map, old, map_append, map_map, map_map]
    rfl
  · rw [namesOf_eq_map, new, map_append, map_cons, map_map, map_map]
    rfl

theorem names_perm (inv : TableInv nameOf size table) :
    ((table.withRule pool block rule owner (.table after)).namesOf nameOf owner).Perm
      (nameOf rule :: table.namesOf nameOf owner) := by
  obtain ⟨old, new⟩ := link.names_cut inv
  rw [old, new]
  exact perm_middle

theorem inv (inv : TableInv nameOf size table) :
    TableInv nameOf size (table.withRule pool block rule owner (.table after)) := by
  obtain ⟨choice, got⟩ := link.taken
  obtain ⟨unused, inUse, retired⟩ := BlockPool.get_some got
  have lists := inv.blockLists.link link.list link.cut link.linked link.sizes unused inUse retired
    (inv.pool.get got)
  constructor
  case pool => exact lists.sound
  case blocks => exact (BlockPool.get_room got).2.trans inv.blocks
  case sizes => exact lists.sizes
  case distinct =>
    intro other
    rcases eq_or_ne other owner with rfl | apart
    · exact (link.names_perm inv).nodup_iff.mpr (nodup_cons.mpr ⟨link.absent, inv.distinct other⟩)
    · rw [names_ne inv unused apart]
      exact inv.distinct other
  case owned => exact lists.owned
  case apart => exact lists.apart

theorem effect (inv : TableInv nameOf size table) {place : Option (Place Name)}
    (placed : place.bind (fun place => place.insert (nameOf rule) (table.namesOf nameOf owner)) =
      some (before.map (fun entry => nameOf (table.rules entry.node)) ++
        nameOf rule :: behind.map (fun entry => nameOf (table.rules entry.node)))) :
    Effect nameOf table (table.withRule pool block rule owner (.table after)) owner
      (.add (nameOf rule) place) (· + 1) where
  names := by
    rw [(link.names_cut inv).2]
    exact placed
  counter := update_self _ _ _
  otherNames := fun _ apart => names_ne inv link.unused apart
  otherCounters := fun _ apart => update_of_ne apart _ _

end RuleLinked

namespace TableInv

open RuleTable

variable {size : TableSize} {table : RuleTable ρ} {owner block : Nat} {rule : ρ}
  {pool : BlockPool} {entries : RefTable Nat}

theorem linkRule_spec (inv : TableInv nameOf size table) (list : table.lists owner = .table entries)
    {choice : Option Nat} (got : table.pool.get choice = some (pool, block))
    (absent : nameOf rule ∉ table.namesOf nameOf owner)
    {before behind : List (LinkedNode Nat)} (cut : entries.linked = before ++ behind)
    {result : ListPtr × Option MchashNoderef}
    (inserted : ListPtr.Inserted entries before behind block result) {place : Option (Place Name)}
    (placed : place.bind (fun place => place.insert (nameOf rule) (table.namesOf nameOf owner)) =
      some (before.map (fun entry => nameOf (table.rules entry.node)) ++
        nameOf rule :: behind.map (fun entry => nameOf (table.rules entry.node))))
    (placement : Placement) :
    ∃ after, (table.fill pool block rule).linkRule owner result placement = (after, placement) ∧
      TableInv nameOf size after ∧
      Effect nameOf table after owner (.add (nameOf rule) place) (· + 1) := by
  obtain ⟨after, noderef, rfl, linked, sizes⟩ := inserted
  have link : RuleLinked nameOf table owner block rule pool entries after before behind noderef :=
    ⟨list, cut, linked, sizes, ⟨choice, got⟩, absent⟩
  exact ⟨table.withRule pool block rule owner (.table after), rfl, link.inv inv,
    link.effect inv placed⟩

/-- A rule that gets a block goes to the place its location stands for. -/
theorem placeRule_spec (inv : TableInv nameOf size table)
    (list : table.lists owner = .table entries)
    {choice : Option Nat} (got : table.pool.get choice = some (pool, block))
    (absent : nameOf rule ∉ table.namesOf nameOf owner) {location : Location}
    {relative : Option Name} (placeable : Placeable nameOf table owner location relative) :
    ∃ after placement,
      (table.fill pool block rule).placeRule nameOf owner block location relative =
        (after, placement) ∧
      placement ≠ .noRelative ∧ placement ≠ .unlinked ∧
      TableInv nameOf size after ∧
      Effect nameOf table after owner (.add (nameOf rule) (placeOf location relative)) (· + 1) := by
  have room := inv.room list (BlockPool.get_room got).1
  have filledList : (table.fill pool block rule).lists owner = .table entries := list
  have names : table.namesOf nameOf owner =
      entries.linked.map (fun entry => nameOf (table.rules entry.node)) := by
    rw [namesOf, list]
    rfl
  have unused := (BlockPool.get_some got).1
  have old : ∀ entry ∈ entries.linked,
      (table.fill pool block rule).rules entry.node = table.rules entry.node := by
    intro entry member
    apply update_of_ne
    rintro rfl
    exact unused (inv.owned owner entry (by rw [list]; exact member)).1
  -- the rule goes to the tail
  have atTail : ∀ place : Option (Place Name),
      place.bind (fun place => place.insert (nameOf rule) (table.namesOf nameOf owner)) =
        some (table.namesOf nameOf owner ++ [nameOf rule]) →
      ∃ after placement,
        (table.fill pool block rule).linkRule owner ((ListPtr.table entries).append block)
          .appended = (after, placement) ∧
        placement ≠ .noRelative ∧ placement ≠ .unlinked ∧
        TableInv nameOf size after ∧
        Effect nameOf table after owner (.add (nameOf rule) place) (· + 1) := by
    intro place placed
    obtain ⟨after, linked, afterInv, effect⟩ :=
      inv.linkRule_spec list got absent (append_nil _).symm (ListPtr.append_inserted room)
        (by rw [placed, names]; rfl) .appended
    exact ⟨after, .appended, linked, by simp, by simp, afterInv, effect⟩
  cases relative with
  | none =>
    simp only [placeRule, filledList]
    cases location with
    | first =>
      apply atTail
      have empty : table.namesOf nameOf owner = [] := placeable
      simp [placeOf, Place.insert, empty]
    | last => exact atTail _ rfl
    | before => exact absurd placeable id
    | after => exact absurd placeable id
  | some relative =>
  simp only [placeRule, filledList]
  by_cases tail : table.noOfRules owner = 0 ∨ location = .last
  case pos =>
    rw [if_pos (show (table.fill pool block rule).noOfRules owner = 0 ∨ _ from tail)]
    apply atTail
    cases location with
    | first =>
      have empty := placeable.mp (tail.resolve_right (by simp))
      simp [placeOf, Place.insert, empty]
    | last => rfl
    | before => exact absurd (tail.resolve_right (by simp)) placeable.1
    | after => exact absurd (tail.resolve_right (by simp)) placeable.1
  case neg =>
    rw [if_neg (show ¬ ((table.fill pool block rule).noOfRules owner = 0 ∨ _) from tail)]
    obtain ⟨counted, inside⟩ := not_or.mp tail
    have scan : (table.fill pool block rule).anchorOf nameOf owner location relative =
        entries.linked.find? (fun entry =>
          nameOf (table.rules entry.node) = relative ∨ location = .first) := by
      rw [anchorOf, filledList]
      apply find?_congr
      intro entry member
      rw [old entry member]
    rw [scan]
    -- the scan stops at the rule with the relative name
    have found : relative ∈ table.namesOf nameOf owner → location ≠ .first →
        ∃ anchor before behind,
          entries.linked.find? (fun entry =>
            nameOf (table.rules entry.node) = relative ∨ location = .first) = some anchor ∧
          entries.linked = before ++ anchor :: behind ∧
          nameOf (table.rules anchor.node) = relative ∧
          relative ∉ before.map (fun entry => nameOf (table.rules entry.node)) := by
      intro member notFirst
      rw [names] at member
      obtain ⟨entry, entryMem, named⟩ := mem_map.mp member
      cases stops : entries.linked.find? (fun entry =>
          nameOf (table.rules entry.node) = relative ∨ location = .first) with
      | none =>
        have passed := find?_eq_none.mp stops entry entryMem
        exact absurd (decide_eq_true (.inl named)) passed
      | some anchor =>
      obtain ⟨holds, before, behind, cut, passed⟩ :=
        find?_eq_some_iff_append.mp stops
      refine ⟨anchor, before, behind, rfl, cut,
        (of_decide_eq_true holds).resolve_right notFirst, ?_⟩
      intro earlier
      obtain ⟨other, otherMem, same⟩ := mem_map.mp earlier
      have refused := passed other otherMem
      simp [same] at refused
    cases location with
    | last => exact absurd rfl inside
    | first =>
      have some : table.namesOf nameOf owner ≠ [] :=
        fun empty => counted (placeable.mpr empty)
      cases linked : entries.linked with
      | nil =>
        rw [names, linked] at some
        exact absurd rfl some
      | cons anchor behind =>
      have stops : (anchor :: behind).find? (fun entry =>
          nameOf (table.rules entry.node) = relative ∨ Location.first = .first) =
          Option.some anchor := by simp
      have cut : entries.linked = [] ++ anchor :: behind := linked
      obtain ⟨after, done, afterInv, effect⟩ :=
        @linkRule_spec _ _ _ _ _ _ _ _ _ inv list _ got absent _ _ cut _
          (ListPtr.insertBefore_inserted room cut) (placeOf .first (Option.some relative))
          (by rw [names, linked]; rfl) .insertedBefore
      refine ⟨after, .insertedBefore, ?_, by simp, by simp, afterInv, effect⟩
      rw [stops]
      exact done
    | before =>
      obtain ⟨anchor, before, behind, stops, cut, named, fresh⟩ := found placeable.2 (by simp)
      obtain ⟨after, done, afterInv, effect⟩ :=
        @linkRule_spec _ _ _ _ _ _ _ _ _ inv list _ got absent _ _ cut _
          (ListPtr.insertBefore_inserted room cut) (placeOf .before (some relative))
          (by
            rw [names, cut, map_append, map_cons, named]
            exact Place.insert_before_cut fresh) .insertedBefore
      refine ⟨after, .insertedBefore, ?_, by simp, by simp, afterInv, effect⟩
      simp only [stops]
      exact done
    | after =>
    obtain ⟨anchor, before, behind, stops, cut, named, fresh⟩ := found placeable.2 (by simp)
    have shifted : entries.linked = (before ++ [anchor]) ++ behind := by
      rw [cut, append_assoc, singleton_append]
    obtain ⟨after, done, afterInv, effect⟩ :=
      @linkRule_spec _ _ _ _ _ _ _ _ _ inv list _ got absent _ _ shifted _
        (ListPtr.insertAfter_inserted room cut) (placeOf .after (some relative))
        (by
          rw [names, cut, map_append, map_append, map_cons, named,
            map_singleton, named, append_assoc]
          exact Place.insert_after_cut fresh) .insertedAfter
    refine ⟨after, .insertedAfter, ?_, by simp, by simp, afterInv, effect⟩
    simp only [stops]
    exact done

end TableInv

/-- An addition that comes to take a block: the name is new, there is a block, and the table
exists or is created. -/
def TakesBlock (nameOf : ρ → Name) (table : RuleTable ρ) (owner : Nat) (name : Name)
    (supply : Supply) : Prop :=
  name ∉ table.namesOf nameOf owner ∧ (table.pool.get supply.block).isSome ∧
    (table.lists owner = .null → supply.created)

/-- When an addition that takes a block links the rule in its place: the table was not left
behind by a failed creation, the rule has all its names and its ranges are in order. -/
structure AddsRight (nameOf : ρ → Name) (table : RuleTable ρ) (owner : Nat) (rule : Option ρ)
    (valid : Bool) (location : Location) (relative : Option Name) : Prop where
  list : table.lists owner ≠ .zeroed
  rule : rule.isSome
  ranges : valid
  place : Placeable nameOf table owner location relative

/-- The additions that end before a block is taken. -/
def Addition.Early (addition : Addition) : Prop :=
  addition = .notCreated ∨ addition = .duplicate ∨ addition = .noBlock

/-- The placements that link the rule. -/
def Placement.Links (placement : Placement) : Prop :=
  placement ≠ .noRelative ∧ placement ≠ .unlinked

namespace TableInv

open RuleTable

variable {size : TableSize} {table : RuleTable ρ} {owner : Nat} {name : Name} {rule : Option ρ}
  {valid : Bool} {location : Location} {relative : Option Name}

theorem addToList_spec (inv : TableInv nameOf size table) {block : Option Nat}
    (bears : ∀ filled, rule = some filled → nameOf filled = name)
    (right : name ∉ table.namesOf nameOf owner → (table.pool.get block).isSome →
      (∃ entries, table.lists owner = .table entries) ∧ rule.isSome ∧ valid ∧
        Placeable nameOf table owner location relative) :
    ∃ after addition,
      table.addToList nameOf owner name rule valid location relative block = (after, addition) ∧
      TableInv nameOf size after ∧
      ((addition.Early ∧ after = table) ∨
        ∃ placement, addition = .filled placement ∧ placement.Links ∧ rule.isSome ∧
          Effect nameOf table after owner (.add name (placeOf location relative)) (· + 1)) := by
  unfold addToList
  split
  · exact ⟨table, .duplicate, rfl, inv, .inl ⟨.inr (.inl rfl), rfl⟩⟩
  rename_i absent
  cases got : table.pool.get block with
  | none => exact ⟨table, .noBlock, rfl, inv, .inl ⟨.inr (.inr rfl), rfl⟩⟩
  | some taken =>
  obtain ⟨pool, number⟩ := taken
  obtain ⟨⟨entries, list⟩, given, ranges, place⟩ :=
    right absent (by rw [got]; rfl)
  obtain ⟨filled, rfl⟩ := Option.isSome_iff_exists.mp given
  obtain rfl := bears filled rfl
  obtain ⟨after, placement, placed, found, linked, afterInv, effect⟩ :=
    @placeRule_spec _ _ _ _ _ number filled pool entries inv list block got absent _ _ place
  refine ⟨after, .filled placement, ?_, afterInv,
    .inr ⟨placement, rfl, ⟨found, linked⟩, rfl, effect⟩⟩
  simp only [ranges, if_true, placed]

/-- An addition keeps the invariant; it ends early and changes nothing, or it has the effect
of its location. -/
theorem add_spec (inv : TableInv nameOf size table) {supply : Supply}
    (bears : ∀ filled, rule = some filled → nameOf filled = name)
    (right : TakesBlock nameOf table owner name supply →
      AddsRight nameOf table owner rule valid location relative) :
    ∃ after addition,
      table.add nameOf size owner name rule valid location relative supply = (after, addition) ∧
      TableInv nameOf size after ∧
      ((addition.Early ∧ SameRules nameOf table after) ∨
        ∃ placement, addition = .filled placement ∧ placement.Links ∧ rule.isSome ∧
          Effect nameOf table after owner (.add name (placeOf location relative)) (· + 1)) := by
  -- the addition to the table, once it is there
  have onTable : ∀ list, TableInv nameOf size (table.setList owner list) →
      SameRules nameOf table (table.setList owner list) →
      (name ∉ table.namesOf nameOf owner → (table.pool.get supply.block).isSome →
        (∃ entries, list = .table entries) ∧ rule.isSome ∧ valid ∧
          Placeable nameOf table owner location relative) →
      ∃ after addition,
        (table.setList owner list).addToList nameOf owner name rule valid location relative
          supply.block = (after, addition) ∧
        TableInv nameOf size after ∧
        ((addition.Early ∧ SameRules nameOf table after) ∨
          ∃ placement, addition = .filled placement ∧ placement.Links ∧ rule.isSome ∧
            Effect nameOf table after owner (.add name (placeOf location relative)) (· + 1)) := by
    intro list listInv same usable
    have placeable : Placeable nameOf table owner location relative →
        Placeable nameOf (table.setList owner list) owner location relative := by
      unfold Placeable
      simp only [same.names]
      exact id
    obtain ⟨after, addition, added, afterInv, outcome⟩ :=
      @addToList_spec _ _ _ _ owner name rule valid location relative listInv supply.block bears (by
        intro absent taken
        rw [same.names] at absent
        obtain ⟨usableList, given, ranges, place⟩ := usable absent taken
        rw [lists_setList_self]
        exact ⟨usableList, given, ranges, placeable place⟩)
    refine ⟨after, addition, added, afterInv, ?_⟩
    rcases outcome with ⟨early, rfl⟩ | ⟨placement, filled, links, given, effect⟩
    · exact .inl ⟨early, same⟩
    refine .inr ⟨placement, filled, links, given, ?_⟩
    constructor
    case names =>
      rw [← same.names]
      exact effect.names
    case counter => exact effect.counter
    case otherNames =>
      intro other apart
      rw [effect.otherNames other apart, same.names]
    case otherCounters => exact effect.otherCounters
  unfold add
  cases list : table.lists owner with
  | null =>
    have empty : (table.lists owner).linked = [] := by
      rw [list]
      rfl
    cases created : supply.created with
    | true =>
      simp only [ListPtr.ensure, created, if_true]
      obtain ⟨listInv, same⟩ :=
        @relist _ _ _ _ owner inv (.table (RefTable.create size)) empty rfl (by
          intro entries equal
          cases equal
          simp [RefTable.create])
      refine onTable _ listInv same (fun absent taken => ⟨⟨_, rfl⟩, ?_⟩)
      have adds := right ⟨absent, taken, fun _ => created⟩
      exact ⟨adds.rule, adds.ranges, adds.place⟩
    | false =>
    simp only [ListPtr.ensure, created]
    obtain ⟨listInv, same⟩ :=
      @relist _ _ _ _ owner inv (if supply.allocated then .zeroed else .null) empty
        (by split <;> rfl) (by
          intro entries equal
          split at equal <;> cases equal)
    exact ⟨_, .notCreated, rfl, listInv, .inl ⟨.inl rfl, same⟩⟩
  | zeroed =>
    have empty : (table.lists owner).linked = [] := by
      rw [list]
      rfl
    obtain ⟨listInv, same⟩ := @relist _ _ _ _ owner inv .zeroed empty rfl nofun
    refine onTable _ listInv same (fun absent taken => ?_)
    have adds := right ⟨absent, taken, by rw [list]; exact nofun⟩
    exact absurd list adds.list
  | table entries =>
  simp only [ListPtr.ensure]
  have kept : table.setList owner (.table entries) = table := by
    rw [← list]
    exact setList_lists
  have onState := onTable (.table entries)
  rw [kept] at onState ⊢
  refine onState inv (SameRules.rfl table) (fun absent taken => ⟨⟨_, rfl⟩, ?_⟩)
  have adds := right ⟨absent, taken, by rw [list]; exact nofun⟩
  exact ⟨adds.rule, adds.ranges, adds.place⟩

end TableInv

/-! ## Deleting a rule -/

/-- A rule was unlinked from the list of its owner. -/
structure RuleUnlinked (table : RuleTable ρ) (owner : Nat) (entries after : RefTable Nat)
    (before : List (LinkedNode Nat)) (entry : LinkedNode Nat)
    (behind : List (LinkedNode Nat)) : Prop where
  list : table.lists owner = .table entries
  cut : entries.linked = before ++ entry :: behind
  linked : after.linked = before ++ behind
  sizes : after.free.length + after.linked.length = entries.free.length + entries.linked.length

/-- The table after a node was unlinked and handed to the free function. -/
def RuleTable.withoutRule (table : RuleTable ρ) (owner : Nat) (list : ListPtr) (block : Nat) :
    RuleTable ρ :=
  { table.setList owner list with pool := table.pool.retire block }

namespace RuleUnlinked

open RuleTable

variable {size : TableSize} {table : RuleTable ρ} {owner : Nat} {entries after : RefTable Nat}
  {before behind : List (LinkedNode Nat)} {entry : LinkedNode Nat}

theorem lists_self (table : RuleTable ρ) :
    (table.withoutRule owner (.table after) entry.node).lists owner = .table after :=
  update_self _ _ _

theorem lists_ne (table : RuleTable ρ) {other : Nat} (apart : other ≠ owner) :
    (table.withoutRule owner (.table after) entry.node).lists other = table.lists other :=
  update_of_ne apart _ _

theorem rulesOf_ne (table : RuleTable ρ) {other : Nat} (apart : other ≠ owner) :
    (table.withoutRule owner (.table after) entry.node).rulesOf other = table.rulesOf other := by
  apply rulesOf_congr
  case linked => rw [lists_ne table apart]
  case rules => exact fun _ _ => rfl

theorem names_ne (table : RuleTable ρ) {other : Nat} (apart : other ≠ owner) :
    (table.withoutRule owner (.table after) entry.node).namesOf nameOf other =
      table.namesOf nameOf other := by
  rw [namesOf_eq_map, namesOf_eq_map, rulesOf_ne table apart]

variable (unlink : RuleUnlinked table owner entries after before entry behind)

include unlink

theorem rules_cut :
    table.rulesOf owner =
        before.map (fun entry => table.rules entry.node) ++
          table.rules entry.node :: behind.map (fun entry => table.rules entry.node) ∧
      (table.withoutRule owner (.table after) entry.node).rulesOf owner =
        before.map (fun entry => table.rules entry.node) ++
          behind.map (fun entry => table.rules entry.node) := by
  constructor
  · rw [rulesOf, unlink.list]
    change entries.linked.map _ = _
    rw [unlink.cut, map_append, map_cons]
  · rw [rulesOf, lists_self]
    change after.linked.map _ = _
    rw [unlink.linked, map_append]
    rfl

theorem names_cut (nameOf : ρ → Name) :
    table.namesOf nameOf owner =
        before.map (fun entry => nameOf (table.rules entry.node)) ++
          nameOf (table.rules entry.node) ::
            behind.map (fun entry => nameOf (table.rules entry.node)) ∧
      (table.withoutRule owner (.table after) entry.node).namesOf nameOf owner =
        before.map (fun entry => nameOf (table.rules entry.node)) ++
          behind.map (fun entry => nameOf (table.rules entry.node)) := by
  obtain ⟨old, new⟩ := unlink.rules_cut
  constructor
  · rw [namesOf_eq_map, old, map_append, map_cons, map_map, map_map]
    rfl
  · rw [namesOf_eq_map, new, map_append, map_map, map_map]
    rfl

theorem names_erase (inv : TableInv nameOf size table) :
    (table.withoutRule owner (.table after) entry.node).namesOf nameOf owner =
      (table.namesOf nameOf owner).erase (nameOf (table.rules entry.node)) := by
  obtain ⟨old, new⟩ := unlink.names_cut nameOf
  have distinct := inv.distinct owner
  rw [old] at distinct
  have fresh := (nodup_cons.mp (nodup_middle.mp distinct)).1
  rw [old, new, erase_append_right _ (fun early => fresh (mem_append_left _ early)),
    erase_cons_head]

theorem inv (inv : TableInv nameOf size table) :
    TableInv nameOf size (table.withoutRule owner (.table after) entry.node) := by
  have lists := inv.blockLists.unlink unlink.list unlink.cut unlink.linked unlink.sizes
  constructor
  case pool => exact lists.sound
  case blocks => exact inv.blocks
  case sizes => exact lists.sizes
  case distinct =>
    intro other
    rcases eq_or_ne other owner with rfl | apart
    · rw [unlink.names_erase inv]
      exact (inv.distinct other).erase _
    · rw [names_ne table apart]
      exact inv.distinct other
  case owned => exact lists.owned
  case apart => exact lists.apart

end RuleUnlinked

namespace TableInv

open RuleTable

variable {size : TableSize} {table : RuleTable ρ} {owner : Nat} {name : Name}

/-- A deletion in a table keeps the invariant; it finds no rule or refuses and changes
nothing, or it takes the rule of that name out of the list. -/
theorem remove_spec (inv : TableInv nameOf size table) (present : table.lists owner ≠ .null)
    (refuses : ρ → Bool) :
    ∃ after deletion, table.remove nameOf owner name refuses = (after, deletion) ∧
      TableInv nameOf size after ∧
      ((deletion = .notFound ∧ name ∉ table.namesOf nameOf owner ∧ after = table) ∨
        (deletion = .refused ∧ after = table) ∨
        ∃ block, deletion = .removed block ∧ refuses (after.rules block) = false ∧
          Effect nameOf table after owner (.delete name) id) := by
  cases found : (table.lists owner).linked.find?
      (fun entry => nameOf (table.rules entry.node) = name) with
  | none =>
    refine ⟨table, .notFound, by simp only [remove, found], inv, .inl ⟨rfl, ?_, rfl⟩⟩
    intro listed
    obtain ⟨entry, member, same⟩ := mem_map.mp listed
    exact absurd (decide_eq_true same) (find?_eq_none.mp found entry member)
  | some entry =>
  have member := mem_of_find?_eq_some found
  have named : nameOf (table.rules entry.node) = name := by
    have held := find?_some found
    exact of_decide_eq_true held
  cases refused : refuses (table.rules entry.node) with
  | true =>
    refine ⟨table, .refused, ?_, inv, .inr (.inl ⟨rfl, rfl⟩)⟩
    simp only [remove, found, refused, if_true]
  | false =>
  obtain ⟨entries, final, before, behind, list, deleted, cut, rest, sizes⟩ :=
    ListPtr.deleteByRef_cut member
  have unlink : RuleUnlinked table owner entries final before entry behind :=
    ⟨list, cut, rest, sizes⟩
  refine ⟨table.withoutRule owner (.table final) entry.node, .removed entry.node, ?_,
    unlink.inv inv, .inr (.inr ⟨entry.node, rfl, refused, ?_⟩)⟩
  · simp only [remove, found, refused, deleted]
    rfl
  have listed : name ∈ table.namesOf nameOf owner := by
    rw [(unlink.names_cut nameOf).1, named]
    exact mem_append_right _ mem_cons_self
  constructor
  case names =>
    rw [unlink.names_erase inv, named]
    exact if_pos listed
  case counter => rfl
  case otherNames => exact fun other apart => RuleUnlinked.names_ne table apart
  case otherCounters => exact fun _ _ => rfl

theorem reclaim (inv : TableInv nameOf size table) (block : Nat) :
    TableInv nameOf size { table with pool := table.pool.reclaim block } where
  pool := inv.pool.reclaim block
  blocks := by
    have most : (table.pool.reclaim block).maxBlocks = table.pool.maxBlocks := by
      unfold BlockPool.reclaim
      split <;> rfl
    exact most.trans inv.blocks
  sizes := inv.sizes
  distinct := inv.distinct
  owned := (inv.blockLists.reclaim block).owned
  apart := inv.apart

/-- Empty lists have the invariant. -/
theorem empty (blocks : table.pool.maxBlocks = size.1) (pool : table.pool.retired = [])
    (lists : ∀ owner, table.lists owner = .null) : TableInv nameOf size table := by
  have linked : ∀ owner, (table.lists owner).linked = [] := by
    intro owner
    rw [lists]
    rfl
  constructor
  case pool =>
    constructor
    case pending =>
      rw [pool]
      exact nofun
    case once =>
      rw [pool]
      exact nodup_nil
  case blocks => exact blocks
  case sizes =>
    intro owner entries held
    rw [lists] at held
    cases held
  case distinct =>
    intro owner
    rw [namesOf, linked]
    exact nodup_nil
  case owned =>
    intro owner entry member
    rw [linked] at member
    cases member
  case apart =>
    intro first second entry member
    rw [linked] at member
    cases member

theorem names_length (inv : TableInv nameOf size table) (owner : Nat) :
    (table.namesOf nameOf owner).length ≤ size.1 := by
  rw [namesOf, length_map]
  cases list : table.lists owner with
  | null => exact Nat.zero_le _
  | zeroed => exact Nat.zero_le _
  | table entries =>
    rw [← inv.sizes owner entries list]
    exact Nat.le_add_left _ _

end TableInv

end OpenFlowController.Nsrm
