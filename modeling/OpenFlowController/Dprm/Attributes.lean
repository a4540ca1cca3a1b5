/-
Module: Dprm.Attributes
Purpose: The attributes of a switch, domain, datapath or port: a list of names, each with a list
  of values, and the counter that unregistering looks at.  The list is the finite map of the pairs
  that were added and not deleted in exactly the runs without the operations that count a value
  as a name, leave a name without a value, or do not delete what they are asked to.
Source: ofproto/src/dprm/dprmapi.c, ofproto/src/include/dprmldef.h,
  ofproto/src/include/cntlr_list.h, src/include/dprm.h
Trusted boundary: an intrusive list is the list of its entries, call_rcu takes over the list node
  it is given, and the pool of names hands out at most max_blocks blocks
-/
import OpenFlowController.Library.MachineInt
import OpenFlowController.Library.MultiMap
import OpenFlowController.Library.Run

namespace OpenFlowController.Dprm

open Library

/-- A string that fits with its terminator into the 16 bytes of
`dprm_attribute_name_value_pair`. -/
structure AttributeString where
  chars : List UInt8
  terminated : chars.length < 16
deriving DecidableEq

/-- What attributes are added to. -/
inductive ResourceKind where
  | switch
  | domain
  | datapath
  | port
deriving DecidableEq

/-- A `dprm_resource_attribute_entry`: its name and the `value` strings of its
`attribute_value_list`. -/
abbrev AttributeEntry : Type := AttributeString × List AttributeString

/-- `DPRM_SUCCESS`, `DPRM_ERROR_DUPLICATE_RESOURCE` and `DPRM_ERROR_NO_MEM`. -/
inductive AddResult where
  | success
  | duplicateResource
  | noMem
deriving DecidableEq

/-! ## The list of names -/

/-- The loop of `dprm_add_attribute`; `none` when no entry has the name. -/
def addValue (name value : AttributeString) (valueBlock : Bool) :
    List AttributeEntry → Option (List AttributeEntry × AddResult)
  | [] => none
  | entry :: rest =>
    if entry.1 = name then
      if value ∈ entry.2 then
        some (entry :: rest, .duplicateResource)
      else if valueBlock then
        some ((entry.1, entry.2 ++ [value]) :: rest, .success)
      else
        some (entry :: rest, .noMem)
    else
      (addValue name value valueBlock rest).map fun added => (entry :: added.1, added.2)

/-- `dprm_add_attribute`: the name is in the list before its value has a block. -/
def dprmAddAttribute (entries : List AttributeEntry) (name value : AttributeString)
    (nameBlock valueBlock : Bool) : List AttributeEntry × AddResult :=
  match addValue name value valueBlock entries with
  | some added => added
  | none =>
    if nameBlock then
      if valueBlock then
        (entries ++ [(name, [value])], .success)
      else
        (entries ++ [(name, [])], .noMem)
    else
      (entries, .noMem)

/-- What a deletion leaves: the list, the number of list nodes that were given to
`call_rcu`, and whether the name was among them. -/
structure Deletion where
  entries : List AttributeEntry
  nodes : Nat
  nameRemoved : Bool

def Deletion.cons (entry : AttributeEntry) (deletion : Deletion) : Deletion :=
  { deletion with entries := entry :: deletion.entries }

/-- The loops of `dprm_delete_attribute_from_*`; `none` when the pair is not found. -/
def deleteAttribute (name value : AttributeString) : List AttributeEntry → Option Deletion
  | [] => none
  | entry :: rest =>
    if entry.1 = name ∧ value ∈ entry.2 then
      if entry.2.erase value = [] then
        some { entries := rest, nodes := 2, nameRemoved := true }
      else
        some
          { entries := (entry.1, entry.2.erase value) :: rest
            nodes := 1
            nameRemoved := false }
    else
      (deleteAttribute name value rest).map (Deletion.cons entry)

/-- The loops of `dprm_delete_all_attribute_values_from_datapath`.  The inner loop goes
on with the link of the value it has just given to `call_rcu`: when that was cleared
the loop ends, and otherwise it leads out of the list, which is `none`. -/
def deleteAllAttributeValues (name : AttributeString) (linkCleared : Bool) :
    List AttributeEntry → Option Deletion
  | [] => some { entries := [], nodes := 0, nameRemoved := false }
  | entry :: rest =>
    if entry.1 = name then
      match entry.2 with
      | [] => some { entries := rest, nodes := 1, nameRemoved := true }
      | _ :: values =>
        if linkCleared then
          if values = [] then
            some { entries := rest, nodes := 2, nameRemoved := true }
          else
            (deleteAllAttributeValues name linkCleared rest).map fun deletion =>
              { deletion.cons (entry.1, values) with nodes := deletion.nodes + 1 }
        else
          none
    else
      (deleteAllAttributeValues name linkCleared rest).map (Deletion.cons entry)

/-! ## The resource -/

/-- A registered resource, with the pairs that were added and not deleted.
`maxBlocks` is that of the pool of names and `toRelease` counts the entries that
wait for their release after a grace period. -/
structure AttributeStore where
  kind : ResourceKind
  attributes : List AttributeEntry
  numberOfAttributes : Nat
  maxBlocks : UInt32
  toRelease : Nat
  undefined : Bool
  added : Finset (AttributeString × AttributeString)

/-- The resource when it is registered. -/
def AttributeStore.registered (kind : ResourceKind) (maxBlocks : UInt32) : AttributeStore where
  kind := kind
  attributes := []
  numberOfAttributes := 0
  maxBlocks := maxBlocks
  toRelease := 0
  undefined := false
  added := ∅

/-- The operations, with what the pools and the memory answer.  `strayMatch` tells
that the bytes a switch compares with the name happen to be equal to it. -/
inductive AttributeOp where
  | add (name value : AttributeString) (nameBlock valueBlock : Bool)
  | delete (name value : AttributeString) (strayMatch : Bool)
  | deleteAllValues (name : AttributeString) (linkCleared : Bool)
  | gracePeriod

namespace AttributeStore

/-- The pool of names has a block, if `nameBlock` says so and it was not emptied. -/
def nameBlockLeft (store : AttributeStore) (nameBlock : Bool) : Bool :=
  nameBlock && decide (store.attributes.length < store.maxBlocks.toNat)

/-- `dprm_add_attribute_to_*`. -/
def addAttribute (store : AttributeStore) (name value : AttributeString)
    (nameBlock valueBlock : Bool) : AttributeStore :=
  let answer := dprmAddAttribute store.attributes name value (store.nameBlockLeft nameBlock)
    valueBlock
  if answer.2 = .success then
    { store with
      attributes := answer.1
      numberOfAttributes := uint32Succ store.numberOfAttributes
      added := insert (name, value) store.added }
  else
    { store with attributes := answer.1 }

/-- The nodes were removed, and the counter follows the name. -/
def remove (store : AttributeStore) (deletion : Deletion) : AttributeStore :=
  { store with
    attributes := deletion.entries
    numberOfAttributes :=
      if deletion.nameRemoved then uint32Pred store.numberOfAttributes
      else store.numberOfAttributes
    toRelease := store.toRelease + deletion.nodes }

/-- `dprm_delete_attribute_from_*`.  For a switch both loops are given the offset of a
link in a node and not that of the node in the entry, and compare other bytes. -/
def deleteOne (store : AttributeStore) (name value : AttributeString) (strayMatch : Bool) :
    AttributeStore :=
  let asked := { store with added := store.added.erase (name, value) }
  match store.kind with
  | .switch => if strayMatch then { asked with undefined := true } else asked
  | .domain | .datapath | .port =>
    match deleteAttribute name value store.attributes with
    | none => asked
    | some deletion => asked.remove deletion

/-- `dprm_delete_all_attribute_values_from_datapath`, which the other resources lack. -/
def deleteAll (store : AttributeStore) (name : AttributeString) (linkCleared : Bool) :
    AttributeStore :=
  match store.kind with
  | .switch | .domain | .port => store
  | .datapath =>
    let asked := { store with added := store.added.filter fun pair => pair.1 ≠ name }
    match deleteAllAttributeValues name linkCleared store.attributes with
    | none => { asked with undefined := true }
    | some deletion => asked.remove deletion

/-- `dprm_attributes_free_attribute_entry_rcu` and the function of the values: both
release a block that starts 8 bytes before the node, inside of the entry. -/
def release (store : AttributeStore) : AttributeStore :=
  if store.toRelease = 0 then store else { store with undefined := true }

/-- The check of the attributes in `dprm_unregister_*` and in
`dprm_delete_port_from_datapath`. -/
def mayUnregister (store : AttributeStore) : Bool :=
  decide (store.numberOfAttributes = 0)

end AttributeStore

/-- One operation; nothing is said about a resource whose memory was damaged. -/
def attributeStep (store : AttributeStore) (op : AttributeOp) : AttributeStore :=
  if store.undefined then
    store
  else
    match op with
    | .add name value nameBlock valueBlock => store.addAttribute name value nameBlock valueBlock
    | .delete name value strayMatch => store.deleteOne name value strayMatch
    | .deleteAllValues name linkCleared => store.deleteAll name linkCleared
    | .gracePeriod => store.release

open List Option Library.MultiMap

/-! ## What the loops do -/

section Loops

variable {entries : List AttributeEntry} {name value : AttributeString}

/-- A value joins the entry of its name, if there is one. -/
theorem addValue_spec (entries : List AttributeEntry) (name value : AttributeString)
    (valueBlock : Bool) :
    ((∀ entry ∈ entries, entry.1 ≠ name) ∧ addValue name value valueBlock entries = none) ∨
      ∃ front values back, entries = front ++ (name, values) :: back ∧
        addValue name value valueBlock entries =
          some
            (if value ∈ values then (entries, .duplicateResource)
              else if valueBlock then
                (front ++ (name, values ++ [value]) :: back, .success)
              else (entries, .noMem)) := by
  induction entries with
  | nil =>
    left
    exact ⟨by simp, rfl⟩
  | cons entry rest ih =>
  by_cases same : entry.1 = name
  · right
    refine ⟨[], entry.2, rest, by simp [← same], ?_⟩
    simp only [addValue, if_pos same]
    rcases entry with ⟨key, values⟩
    cases same
    split
    · rfl
    · split <;> rfl
  rcases ih with ⟨absent, notFound⟩ | ⟨front, values, back, parts, found⟩
  · left
    constructor
    · intro other member
      rcases mem_cons.mp member with here | later
      · rw [here]
        exact same
      · exact absent other later
    · simp only [addValue, if_neg same, notFound, map_none]
  right
  refine ⟨entry :: front, values, back, by rw [parts, cons_append], ?_⟩
  simp only [addValue, if_neg same, found, map_some]
  split
  · rfl
  · split <;> rfl

/-- A value leaves the entry that holds it, if one does. -/
theorem deleteAttribute_spec (entries : List AttributeEntry) (name value : AttributeString) :
    (¬ Holds entries name value ∧ deleteAttribute name value entries = none) ∨
      ∃ front values back, entries = front ++ (name, values) :: back ∧ value ∈ values ∧
        deleteAttribute name value entries =
          some
            (if values.erase value = [] then
                { entries := front ++ back, nodes := 2, nameRemoved := true }
              else
                { entries := front ++ (name, values.erase value) :: back
                  nodes := 1
                  nameRemoved := false }) := by
  induction entries with
  | nil =>
    left
    exact ⟨not_holds_nil name value, rfl⟩
  | cons entry rest ih =>
  by_cases here : entry.1 = name ∧ value ∈ entry.2
  · right
    refine ⟨[], entry.2, rest, by simp [← here.1], here.2, ?_⟩
    simp only [deleteAttribute, if_pos here]
    rcases entry with ⟨key, values⟩
    obtain ⟨same, _⟩ := here
    cases same
    split <;> rfl
  rcases ih with ⟨absent, notFound⟩ | ⟨front, values, back, parts, member, found⟩
  · left
    constructor
    · rw [holds_cons_iff]
      rintro (⟨same, holds⟩ | later)
      · exact here ⟨same.symm, holds⟩
      · exact absent later
    · simp only [deleteAttribute, if_neg here, notFound, map_none]
  · right
    refine ⟨entry :: front, values, back, by rw [parts, cons_append], member, ?_⟩
    simp only [deleteAttribute, if_neg here, found, map_some]
    split <;> rfl

variable (linkCleared : Bool)

theorem deleteAllAttributeValues_absent (absent : ∀ entry ∈ entries, entry.1 ≠ name) :
    deleteAllAttributeValues name linkCleared entries =
      some { entries := entries, nodes := 0, nameRemoved := false } := by
  induction entries with
  | nil => rfl
  | cons entry rest ih =>
  have later := ih fun other member =>
    absent other (mem_cons_of_mem entry member)
  simp only [deleteAllAttributeValues, if_neg (absent entry mem_cons_self), later, map_some]
  rfl

theorem deleteAllAttributeValues_append {front : List AttributeEntry}
    (absent : ∀ entry ∈ front, entry.1 ≠ name) (back : List AttributeEntry) :
    deleteAllAttributeValues name linkCleared (front ++ back) =
      (deleteAllAttributeValues name linkCleared back).map fun deletion =>
        { deletion with entries := front ++ deletion.entries } := by
  induction front with
  | nil => simp
  | cons entry rest ih =>
  have later := ih fun other member =>
    absent other (mem_cons_of_mem entry member)
  simp only [cons_append, deleteAllAttributeValues,
    if_neg (absent entry mem_cons_self), later, Option.map_map]
  rfl

end Loops

/-! ## The finite map -/

/-- The list is the finite map of the pairs that were added and not deleted, the
counter counts its names, and when nothing is left the resource may be
unregistered. -/
structure AttributesConsistent (store : AttributeStore) : Prop where
  defined : store.undefined = false
  proper : Proper store.attributes
  exact : ∀ name value, Holds store.attributes name value ↔ (name, value) ∈ store.added
  counted : store.numberOfAttributes = store.attributes.length
  unregisters : store.added = ∅ → store.mayUnregister = true

/-- The list is consistent and not longer than the pool of names. -/
structure AttributesInv (store : AttributeStore) : Prop where
  consistent : AttributesConsistent store
  fits : store.attributes.length ≤ store.maxBlocks.toNat

variable {store : AttributeStore}

/-- A store whose entries are the pairs added is consistent. -/
theorem AttributesConsistent.of_map (defined : store.undefined = false)
    (proper : Proper store.attributes)
    (exact : ∀ name value, Holds store.attributes name value ↔ (name, value) ∈ store.added)
    (counted : store.numberOfAttributes = store.attributes.length) :
    AttributesConsistent store where
  defined := defined
  proper := proper
  exact := exact
  counted := counted
  unregisters empty := by
    have none : store.attributes = [] := by
      cases parts : store.attributes with
      | nil => rfl
      | cons entry rest =>
      obtain ⟨name, values⟩ := entry
      cases values with
      | nil =>
        have member : (name, []) ∈ store.attributes := by
          rw [parts]
          exact mem_cons_self
        exact absurd rfl (proper.filled _ member)
      | cons value others =>
      have holds : Holds store.attributes name value :=
        ⟨value :: others, by rw [parts]; exact mem_cons_self, mem_cons_self⟩
      rw [exact, empty] at holds
      exact absurd holds (Finset.notMem_empty _)
    simp [AttributeStore.mayUnregister, counted, none]

/-- The operation keeps the list a finite map: it adds no second value to a name, finds
a value block for every new name, deletes nothing that is present from a switch and no
name with several values at once, and no removed entry is released. -/
def KeepsAttributes (store : AttributeStore) (op : AttributeOp) : Prop :=
  match op with
  | .add name value nameBlock valueBlock =>
    (∀ entry ∈ store.attributes, entry.1 = name → value ∈ entry.2 ∨ valueBlock = false) ∧
      ((∀ entry ∈ store.attributes, entry.1 ≠ name) →
        store.nameBlockLeft nameBlock = true → valueBlock = true)
  | .delete name value strayMatch =>
    store.kind = .switch →
      strayMatch = false ∧ ∀ entry ∈ store.attributes, entry.1 = name → value ∉ entry.2
  | .deleteAllValues name linkCleared =>
    store.kind = .datapath →
      ∀ entry ∈ store.attributes, entry.1 = name →
        entry.2.length = 1 ∧ linkCleared = true
  | .gracePeriod => store.toRelease = 0

instance (store : AttributeStore) : DecidablePred (KeepsAttributes store) := fun op =>
  match op with
  | .add .. => inferInstanceAs (Decidable (_ ∧ _))
  | .delete .. => inferInstanceAs (Decidable (_ → _))
  | .deleteAllValues .. => inferInstanceAs (Decidable (_ → _))
  | .gracePeriod => inferInstanceAs (Decidable (_ = _))

/-- What one operation does to the invariant. -/
def StepExact (store : AttributeStore) (keeps : Prop) : Prop :=
  (AttributesConsistent store ↔ keeps) ∧ (AttributesConsistent store → AttributesInv store)

theorem StepExact.of_inv {keeps : Prop} (inv : AttributesInv store) (met : keeps) :
    StepExact store keeps :=
  ⟨iff_of_true inv.consistent met, fun _ => inv⟩

theorem StepExact.of_not {keeps : Prop} (broken : ¬ AttributesConsistent store) (notMet : ¬ keeps) :
    StepExact store keeps :=
  ⟨iff_of_false broken notMet, fun consistent => absurd consistent broken⟩

section Steps

variable {store : AttributeStore} {values : List AttributeString}

theorem values_of_proper {front back : List AttributeEntry} {name : AttributeString}
    (proper : Proper (front ++ (name, values) :: back)) {entry : AttributeEntry}
    (member : entry ∈ front ++ (name, values) :: back) (same : entry.1 = name) :
    entry.2 = values := by
  obtain ⟨absentFront, absentBack⟩ := proper.apart
  rcases mem_append.mp member with inFront | inBack
  · exact absurd same (absentFront entry inFront)
  · rcases mem_cons.mp inBack with here | later
    · rw [here]
    · exact absurd same (absentBack entry later)

theorem uint32Succ_ne (count : Nat) : uint32Succ count ≠ count := by
  unfold uint32Succ
  split <;> omega

attribute [local simp] AttributeStore.addAttribute

attribute [local simp] dprmAddAttribute

/-- A value under a new name starts an entry of its own. -/
theorem addAttribute_exact_of_absent (inv : AttributesInv store) {name value : AttributeString}
    {nameBlock valueBlock : Bool} (absent : ∀ entry ∈ store.attributes, entry.1 ≠ name)
    (notFound : addValue name value valueBlock store.attributes = none) :
    StepExact (store.addAttribute name value nameBlock valueBlock)
      (KeepsAttributes store (.add name value nameBlock valueBlock)) := by
  have noEntry : ∀ entry ∈ store.attributes, entry.1 = name →
      value ∈ entry.2 ∨ valueBlock = false :=
    fun entry member same => absurd same (absent entry member)
  cases left : store.nameBlockLeft nameBlock with
  | false =>
    have same : store.addAttribute name value nameBlock valueBlock = store := by
      simp [notFound, left]
    rw [same]
    exact StepExact.of_inv inv
      ⟨noEntry, fun _ available => absurd (left.symm.trans available) Bool.false_ne_true⟩
  | true =>
  cases valueBlock with
  | false =>
    refine StepExact.of_not ?_ ?_
    · intro consistent
      have stored : (name, []) ∈ (store.addAttribute name value nameBlock false).attributes := by
        simp [notFound, left]
      exact consistent.proper.filled _ stored rfl
    · intro keeps
      exact absurd (keeps.2 absent left) Bool.false_ne_true
  | true =>
  have added : store.addAttribute name value nameBlock true =
      { store with
        attributes := store.attributes ++ [(name, [value])]
        numberOfAttributes := uint32Succ store.numberOfAttributes
        added := insert (name, value) store.added } := by
    simp [notFound, left]
  have room : store.attributes.length < store.maxBlocks.toNat := by
    simpa [AttributeStore.nameBlockLeft] using (Bool.and_eq_true_iff.mp left).2
  have small : store.maxBlocks.toNat < 2 ^ 32 := store.maxBlocks.toNat_lt
  rw [added]
  refine StepExact.of_inv ⟨AttributesConsistent.of_map inv.consistent.defined ?_ ?_ ?_, ?_⟩
    ⟨noEntry, fun _ _ => rfl⟩
  · exact inv.consistent.proper.append absent (cons_ne_nil _ _) (nodup_singleton _)
  · intro other value'
    have before := inv.consistent.exact other value'
    simp only [holds_append_iff, holds_cons_iff, Finset.mem_insert, Prod.mk.injEq, before,
      mem_singleton, not_holds_nil, or_false]
    exact Or.comm
  · have counted := inv.consistent.counted
    simp only [counted, length_append, length_singleton]
    exact uint32Succ_of_lt (by omega)
  · simp only [length_append, length_singleton]
    omega

/-- The name is there. -/
theorem addAttribute_exact_of_present (inv : AttributesInv store)
    {name value : AttributeString} {nameBlock valueBlock : Bool}
    {front back : List AttributeEntry} {values : List AttributeString}
    (parts : store.attributes = front ++ (name, values) :: back)
    (found : addValue name value valueBlock store.attributes =
      some
        (if value ∈ values then (store.attributes, .duplicateResource)
          else if valueBlock then (front ++ (name, values ++ [value]) :: back, .success)
          else (store.attributes, .noMem))) :
    StepExact (store.addAttribute name value nameBlock valueBlock)
      (KeepsAttributes store (.add name value nameBlock valueBlock)) := by
  have member : (name, values) ∈ store.attributes := by
    rw [parts]
    exact mem_append_right _ mem_cons_self
  have proper := inv.consistent.proper
  rw [parts] at proper
  have only : ∀ entry ∈ store.attributes, entry.1 = name → entry.2 = values := by
    rw [parts]
    exact fun entry => values_of_proper proper
  have present : ¬ ∀ entry ∈ store.attributes, entry.1 ≠ name :=
    fun absent => absent _ member rfl
  by_cases duplicate : value ∈ values
  · have same : store.addAttribute name value nameBlock valueBlock = store := by
      simp [found, duplicate]
    rw [same]
    refine StepExact.of_inv inv ⟨?_, fun absent => absurd absent present⟩
    intro entry inList named
    rw [only entry inList named]
    exact .inl duplicate
  cases valueBlock with
  | false =>
    have same : store.addAttribute name value nameBlock false = store := by
      simp [found, duplicate]
    rw [same]
    exact StepExact.of_inv inv ⟨fun _ _ _ => .inr rfl, fun absent => absurd absent present⟩
  | true =>
  have added : store.addAttribute name value nameBlock true =
      { store with
        attributes := front ++ (name, values ++ [value]) :: back
        numberOfAttributes := uint32Succ store.numberOfAttributes
        added := insert (name, value) store.added } := by
    simp [found, duplicate]
  rw [added]
  refine StepExact.of_not ?_ ?_
  · intro consistent
    have counted := consistent.counted
    have before := inv.consistent.counted
    rw [parts] at before
    simp only [length_append, length_cons] at counted before
    rw [← before] at counted
    exact uint32Succ_ne _ counted
  · intro keeps
    rcases keeps.1 _ member rfl with inValues | noBlock
    · exact duplicate inValues
    · exact absurd noBlock.symm Bool.false_ne_true

theorem addAttribute_exact (inv : AttributesInv store) (name value : AttributeString)
    (nameBlock valueBlock : Bool) :
    StepExact (store.addAttribute name value nameBlock valueBlock)
      (KeepsAttributes store (.add name value nameBlock valueBlock)) := by
  rcases addValue_spec store.attributes name value valueBlock with ⟨absent, notFound⟩ |
      ⟨front, values, back, parts, found⟩
  · exact addAttribute_exact_of_absent inv absent notFound
  · exact addAttribute_exact_of_present inv parts found

/-! ## Deleting -/

/-- The pair is forgotten. -/
def AttributeStore.forget (store : AttributeStore) (name value : AttributeString) :
    AttributeStore :=
  { store with added := store.added.erase (name, value) }

theorem forget_inv (inv : AttributesInv store) {name value : AttributeString}
    (absent : ¬ Holds store.attributes name value) : AttributesInv (store.forget name value) := by
  have notAdded : (name, value) ∉ store.added :=
    fun member => absent ((inv.consistent.exact name value).mpr member)
  have same : store.forget name value = store := by
    unfold AttributeStore.forget
    rw [Finset.erase_eq_of_notMem notAdded]
  rw [same]
  exact inv

theorem removeName_inv (inv : AttributesInv store) {name : AttributeString}
    {front back : List AttributeEntry} {values : List AttributeString}
    (parts : store.attributes = front ++ (name, values) :: back) (nodes : Nat)
    {added : Finset (AttributeString × AttributeString)}
    (left : ∀ other value, (other, value) ∈ added ↔ other ≠ name ∧ (other, value) ∈ store.added) :
    AttributesInv
      ({ store with added := added }.remove
        { entries := front ++ back, nodes := nodes, nameRemoved := true }) := by
  have proper := inv.consistent.proper
  have exact := inv.consistent.exact
  have counted := inv.consistent.counted
  have fits := inv.fits
  rw [parts] at proper exact counted fits
  refine ⟨AttributesConsistent.of_map inv.consistent.defined proper.remove ?_ ?_, ?_⟩
  · intro other value
    change Holds (front ++ back) other value ↔ (other, value) ∈ added
    rw [holds_remove proper, exact, left]
  · have positive : 0 < store.numberOfAttributes := by
      rw [counted, length_append, length_cons]
      omega
    have pred := uint32Pred_of_pos positive
    simp only [AttributeStore.remove, length_append, length_cons, if_true]
      at counted ⊢
    omega
  · simp only [AttributeStore.remove, length_append, length_cons] at fits ⊢
    omega

theorem eq_of_erase_eq_nil {value value' : AttributeString} (emptied : values.erase value = [])
    (member : value' ∈ values) : value' = value := by
  by_contra different
  have left := (mem_erase_of_ne different).mpr member
  rw [emptied] at left
  exact not_mem_nil left

/-- Deleting a value that is held keeps the invariant. -/
theorem deleteFound_inv (inv : AttributesInv store) {name value : AttributeString}
    {front back : List AttributeEntry} {values : List AttributeString}
    (parts : store.attributes = front ++ (name, values) :: back) :
    AttributesInv
      ((store.forget name value).remove
        (if values.erase value = [] then
            { entries := front ++ back, nodes := 2, nameRemoved := true }
          else
            { entries := front ++ (name, values.erase value) :: back
              nodes := 1
              nameRemoved := false })) := by
  have proper := inv.consistent.proper
  have exact := inv.consistent.exact
  rw [parts] at proper exact
  split
  · next emptied =>
      refine removeName_inv inv parts 2 ?_
      intro other value'
      rw [Finset.mem_erase]
      constructor
      · rintro ⟨different, added⟩
        refine ⟨?_, added⟩
        rintro rfl
        have inValues := (proper.holds_iff value').mp ((exact other value').mpr added)
        exact different (by rw [eq_of_erase_eq_nil emptied inValues])
      · rintro ⟨different, added⟩
        exact ⟨fun same => different (congrArg Prod.fst same), added⟩
  · next filled =>
      have distinct : values.Nodup :=
        proper.distinct (name, values) (mem_append_right _ mem_cons_self)
      have counted := inv.consistent.counted
      have fits := inv.fits
      rw [parts] at counted fits
      refine ⟨AttributesConsistent.of_map inv.consistent.defined
        (proper.replace filled (distinct.erase value)) ?_ ?_, ?_⟩
      · intro other value'
        change Holds (front ++ (name, values.erase value) :: back) other value' ↔
          (other, value') ∈ store.added.erase (name, value)
        rw [holds_replace proper, distinct.mem_erase_iff, Finset.mem_erase, exact]
        constructor
        · rintro (⟨rfl, different, inValues⟩ | ⟨different, added⟩)
          · exact ⟨fun same => different (congrArg Prod.snd same),
              (exact other value').mp ((proper.holds_iff value').mpr inValues)⟩
          · exact ⟨fun same => different (congrArg Prod.fst same), added⟩
        rintro ⟨different, added⟩
        by_cases same : other = name
        · subst same
          refine .inl ⟨rfl, fun sameValue => different (by rw [sameValue]), ?_⟩
          exact (proper.holds_iff value').mp ((exact other value').mpr added)
        · exact .inr ⟨same, added⟩
      · simpa [AttributeStore.remove, AttributeStore.forget] using counted
      · simpa [AttributeStore.remove, AttributeStore.forget] using fits

/-- Deleting one value leaves the store consistent exactly under its condition. -/
theorem deleteOne_exact (inv : AttributesInv store) (name value : AttributeString)
    (strayMatch : Bool) :
    StepExact (store.deleteOne name value strayMatch)
      (KeepsAttributes store (.delete name value strayMatch)) := by
  have absentIff : (∀ entry ∈ store.attributes, entry.1 = name → value ∉ entry.2) ↔
      ¬ Holds store.attributes name value := by
    constructor
    · rintro absent ⟨values, member, holds⟩
      exact absent _ member rfl holds
    · rintro absent ⟨key, values⟩ member rfl holds
      exact absent ⟨values, member, holds⟩
  by_cases isSwitch : store.kind = .switch
  · cases strayMatch with
    | true =>
      refine StepExact.of_not ?_ ?_
      · intro consistent
        have defined := consistent.defined
        simp [AttributeStore.deleteOne, isSwitch] at defined
      · intro keeps
        exact absurd (keeps isSwitch).1.symm Bool.false_ne_true
    | false =>
      have asked : store.deleteOne name value false = store.forget name value := by
        simp [AttributeStore.deleteOne, isSwitch, AttributeStore.forget]
      rw [asked]
      by_cases absent : Holds store.attributes name value
      · refine StepExact.of_not ?_ ?_
        · intro consistent
          have kept := (consistent.exact name value).mp absent
          exact Finset.notMem_erase _ _ kept
        · intro keeps
          exact absentIff.mp (keeps isSwitch).2 absent
      · exact StepExact.of_inv (forget_inv inv absent) fun _ => ⟨rfl, absentIff.mpr absent⟩
  · have met : KeepsAttributes store (.delete name value strayMatch) :=
      fun switched => absurd switched isSwitch
    have asked : store.deleteOne name value strayMatch =
        match deleteAttribute name value store.attributes with
        | none => store.forget name value
        | some deletion => (store.forget name value).remove deletion := by
      unfold AttributeStore.deleteOne AttributeStore.forget
      cases kind : store.kind with
      | switch => exact absurd kind isSwitch
      | domain => rfl
      | datapath => rfl
      | port => rfl
    rw [asked]
    rcases deleteAttribute_spec store.attributes name value with ⟨absent, notFound⟩ |
        ⟨front, values, back, parts, _, found⟩
    · rw [notFound]
      exact StepExact.of_inv (forget_inv inv absent) met
    · rw [found]
      exact StepExact.of_inv (deleteFound_inv inv parts) met

/-! ## Deleting all values of a name -/

/-- All pairs of the name are forgotten. -/
def AttributeStore.forgetName (store : AttributeStore) (name : AttributeString) :
    AttributeStore :=
  { store with added := store.added.filter fun pair => pair.1 ≠ name }

theorem deleteAll_of_datapath (datapath : store.kind = .datapath) (name : AttributeString)
    (linkCleared : Bool) :
    store.deleteAll name linkCleared =
      match deleteAllAttributeValues name linkCleared store.attributes with
      | none => { store.forgetName name with undefined := true }
      | some deletion => (store.forgetName name).remove deletion := by
  unfold AttributeStore.deleteAll AttributeStore.forgetName
  cases kind : store.kind with
  | datapath => rfl
  | switch => exact ResourceKind.noConfusion (kind.symm.trans datapath)
  | domain => exact ResourceKind.noConfusion (kind.symm.trans datapath)
  | port => exact ResourceKind.noConfusion (kind.symm.trans datapath)

theorem deleteAll_absent_inv (inv : AttributesInv store) (datapath : store.kind = .datapath)
    {name : AttributeString} (absent : ∀ entry ∈ store.attributes, entry.1 ≠ name)
    (linkCleared : Bool) : AttributesInv (store.deleteAll name linkCleared) := by
  have same : store.forgetName name = store := by
    have kept : (store.added.filter fun pair => pair.1 ≠ name) = store.added := by
      refine Finset.filter_true_of_mem ?_
      rintro ⟨other, value⟩ added rfl
      exact not_holds_of_absent absent value ((inv.consistent.exact other value).mpr added)
    unfold AttributeStore.forgetName
    rw [kept]
  rw [deleteAll_of_datapath datapath, deleteAllAttributeValues_absent linkCleared absent, same]
  exact inv

/-- So does deleting all values. -/
theorem deleteAll_exact (inv : AttributesInv store) (name : AttributeString) (linkCleared : Bool) :
    StepExact (store.deleteAll name linkCleared)
      (KeepsAttributes store (.deleteAllValues name linkCleared)) := by
  by_cases datapath : store.kind = .datapath
  · by_cases absent : ∀ entry ∈ store.attributes, entry.1 ≠ name
    · refine StepExact.of_inv (deleteAll_absent_inv inv datapath absent linkCleared) ?_
      exact fun _ entry member same => absurd same (absent entry member)
    · push Not at absent
      obtain ⟨⟨key, values⟩, member, rfl⟩ := absent
      obtain ⟨front, back, parts⟩ := append_of_mem member
      have proper := inv.consistent.proper
      rw [parts] at proper
      obtain ⟨absentFront, absentBack⟩ := proper.apart
      have only : ∀ entry ∈ store.attributes, entry.1 = key → entry.2 = values := by
        rw [parts]
        exact fun entry => values_of_proper proper
      have answer : deleteAllAttributeValues key linkCleared store.attributes =
          (deleteAllAttributeValues key linkCleared ((key, values) :: back)).map
            fun deletion => { deletion with entries := front ++ deletion.entries } := by
        rw [parts]
        exact deleteAllAttributeValues_append linkCleared absentFront _
      have deleted := deleteAll_of_datapath datapath key linkCleared
      rw [answer] at deleted
      rw [deleted]
      cases values with
      | nil =>
        exact absurd rfl (inv.consistent.proper.filled _ member)
      | cons value others =>
      cases linkCleared with
      | false =>
        refine StepExact.of_not ?_ ?_
        · intro consistent
          have defined := consistent.defined
          simp [deleteAllAttributeValues] at defined
        · intro keeps
          exact absurd (keeps datapath _ member rfl).2 Bool.false_ne_true
      | true =>
      by_cases single : others = []
      · subst single
        simp only [deleteAllAttributeValues, if_true, map_some]
        refine StepExact.of_inv (removeName_inv inv parts 2 ?_) ?_
        · intro other value'
          simp [and_comm]
        · intro _ entry inList named
          rw [only entry inList named]
          exact ⟨rfl, rfl⟩
      refine StepExact.of_not ?_ ?_
      · intro consistent
        have exact := consistent.exact
        simp only [deleteAllAttributeValues, if_true, if_neg single,
          deleteAllAttributeValues_absent true absentBack, map_some] at exact
        obtain ⟨other, inOthers⟩ := exists_mem_of_ne_nil others single
        have stays := (exact key other).mp ⟨others, mem_append_right _ mem_cons_self, inOthers⟩
        exact (Finset.mem_filter.mp stays).2 rfl
      · intro keeps
        have short := (keeps datapath _ member rfl).1
        exact single (length_eq_zero_iff.mp (by simpa using short))
  · have same : store.deleteAll name linkCleared = store := by
      unfold AttributeStore.deleteAll
      cases kind : store.kind with
      | datapath => exact absurd kind datapath
      | switch => rfl
      | domain => rfl
      | port => rfl
    rw [same]
    exact StepExact.of_inv inv fun isDatapath => absurd isDatapath datapath

/-! ## Runs -/

theorem attributeStep_inv (inv : AttributesInv store) (op : AttributeOp) :
    StepExact (attributeStep store op) (KeepsAttributes store op) := by
  unfold attributeStep
  rw [if_neg (by simp [inv.consistent.defined])]
  cases op with
  | add name value nameBlock valueBlock =>
    exact addAttribute_exact inv name value nameBlock valueBlock
  | delete name value strayMatch => exact deleteOne_exact inv name value strayMatch
  | deleteAllValues name linkCleared => exact deleteAll_exact inv name linkCleared
  | gracePeriod =>
  by_cases idle : store.toRelease = 0
  · have same : store.release = store := if_pos idle
    rw [same]
    exact StepExact.of_inv inv idle
  · refine StepExact.of_not ?_ idle
    intro consistent
    have defined := consistent.defined
    simp [AttributeStore.release, idle] at defined

end Steps

theorem registered_inv (kind : ResourceKind) (maxBlocks : UInt32) :
    AttributesInv (AttributeStore.registered kind maxBlocks) :=
  ⟨AttributesConsistent.of_map rfl proper_nil
      (fun name value => iff_of_false (not_holds_nil name value) (Finset.notMem_empty _)) rfl,
    Nat.zero_le _⟩

/-- In every run of operations on a resource of any kind, its list stays the finite map
of the pairs added and not deleted, and its counter the number of names, exactly as long
as every operation keeps it so. -/
theorem attributes_consistent_iff (kind : ResourceKind) (maxBlocks : UInt32)
    (ops : List AttributeOp) :
    Along attributeStep (fun store op => AttributesConsistent (attributeStep store op))
        (AttributeStore.registered kind maxBlocks) ops ↔
      Along attributeStep KeepsAttributes (AttributeStore.registered kind maxBlocks) ops :=
  Along.iff_of_invariant (fun _ op inv => (attributeStep_inv inv op).2)
    (fun _ op inv => (attributeStep_inv inv op).1) (registered_inv kind maxBlocks)

/-- A domain is given a second value for one name: the counter says two names. -/
theorem second_value_counted_as_name :
    ¬ Along attributeStep (fun store op => AttributesConsistent (attributeStep store op))
        (AttributeStore.registered .domain 100)
        [.add ⟨[110, 97, 109, 101], by decide⟩ ⟨[49], by decide⟩ true true,
          .add ⟨[110, 97, 109, 101], by decide⟩ ⟨[50], by decide⟩ true true] := by
  rintro ⟨_, consistent, _⟩
  exact absurd consistent.counted (by decide)

end OpenFlowController.Dprm
