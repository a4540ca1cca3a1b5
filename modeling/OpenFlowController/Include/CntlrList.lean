/-
Module: Include.CntlrList
Purpose: The macros over intrusive lists: append, insertion between two nodes, scan, removal and
  the two loops that may remove, with the links and the count that each of them writes, and runs
  of them all against a sequence of nodes.
Source: ofproto/src/include/cntlr_list.h; ofproto/src/transport/base/trnsprt_api.c
Trusted boundary: nodes are numbered, the memory of their links is a function, the locks of the
  lists are taken as given, the memory of a node that was handed on may hold anything, and a null
  node has a null link field
-/
import OpenFlowController.Library.LinkedChain
import OpenFlowController.Library.MachineInt
import OpenFlowController.Library.Run

namespace OpenFlowController.Include

open Library List Function

/-- `of_list_t`, whose nodes are known by their numbers. -/
structure OfList where
  head : Option Nat
  tail : Option Nat
  count : Nat

/-- The `pNext` field of every node. -/
abbrev PNext := Nat → Option Nat

def ofListInit : OfList :=
  { head := none, tail := none, count := 0 }

/-- `OF_APPEND_NODE_TO_LIST`: `none` when it writes through a null `tail`. -/
def ofAppendNodeToList (list : OfList) (node : Nat) (pNext : PNext) : Option (OfList × PNext) :=
  match list.head, list.tail with
  | none, _ =>
    some ({ head := some node, tail := some node, count := uint32Succ list.count }, pNext)
  | some head, some tail =>
    some
      ({ head := some head, tail := some node, count := uint32Succ list.count },
        Function.update pNext tail (some node))
  | some _, none => none

/-- `OF_LIST_INSERT_NODE`, which leaves the count as it is. -/
def ofListInsertNode (list : OfList) (prevNode : Option Nat) (node : Nat)
    (nextNode : Option Nat) (pNext : PNext) : OfList × PNext :=
  let pNext :=
    match prevNode with
    | none => pNext
    | some prevNode => Function.update pNext prevNode (some node)
  ({ list with
      head := if prevNode = none then some node else list.head
      tail := if nextNode = none then some node else list.tail },
    match nextNode with
    | none => pNext
    | some nextNode => Function.update pNext node (some nextNode))

/-- `OF_LIST_SCAN`: the nodes that the loop meets from a pointer on, in a memory of so
many nodes. -/
def ofListScan (pNext : PNext) : Nat → Option Nat → List Nat
  | 0, _ => []
  | _ + 1, none => []
  | fuel + 1, some node => node :: ofListScan pNext fuel (pNext node)

/-- The list goes through these nodes. -/
structure OfList.Links (list : OfList) (pNext : PNext) (nodes : List Nat) : Prop where
  chain : Seg pNext list.head nodes none
  tail : list.tail = nodes.getLast?
  nodup : nodes.Nodup

namespace OfList.Links

variable {list : OfList} {pNext pNext' : PNext} {nodes : List Nat}

theorem init (pNext : PNext) : ofListInit.Links pNext [] :=
  ⟨rfl, rfl, nodup_nil⟩

section

variable (links : list.Links pNext nodes)

include links

theorem frame (agree : ∀ node ∈ nodes, pNext' node = pNext node) : list.Links pNext' nodes :=
  ⟨links.chain.congr agree, links.tail, links.nodup⟩

theorem scan {fuel : Nat} (enough : nodes.length ≤ fuel) :
    ofListScan pNext fuel list.head = nodes := by
  have chain := links.chain
  generalize list.head = start at chain
  clear links
  induction nodes generalizing start fuel with
  | nil =>
    subst chain
    cases fuel <;> rfl
  | cons node rest ih =>
  rcases chain with ⟨rfl, restChain⟩
  cases fuel with
  | zero => cases enough
  | succ fuel =>
    unfold ofListScan
    rw [ih (Nat.le_of_succ_le_succ enough) _ restChain]

theorem unique {nodes' : List Nat} (links' : list.Links pNext nodes') : nodes = nodes' :=
  links.chain.unique links'.chain

end

end OfList.Links

section Insertion

variable {list : OfList} {pNext : PNext} {nodes before after : List Nat} {node : Nat}

private theorem getLast?_cons_eq (first : Nat) (rest : List Nat) :
    (first :: rest).getLast? = some (rest.getLastD first) := by
  rw [getLast?_cons, getLastD_eq_getLast?]

/-- A new node is linked at the tail. -/
theorem ofAppendNodeToList_links (links : list.Links pNext nodes) (fresh : node ∉ nodes)
    (unlinked : pNext node = none) :
    ∃ later pNext', ofAppendNodeToList list node pNext = some (later, pNext') ∧
      later.Links pNext' (nodes ++ [node]) ∧ later.count = uint32Succ list.count ∧
      ∀ other, other ∉ nodes → pNext' other = pNext other := by
  rcases links with ⟨chain, tail, nodup⟩
  rcases list with ⟨head, last, count⟩
  have whole : (nodes ++ [node]).Nodup := by
    rw [nodup_append]
    refine ⟨nodup, nodup_singleton node, ?_⟩
    rintro other member _ added rfl
    exact fresh (mem_singleton.mp added ▸ member)
  cases nodes with
  | nil =>
    subst chain
    refine ⟨_, _, rfl, ⟨⟨rfl, unlinked⟩, rfl, whole⟩, rfl, ?_⟩
    intro other _
    rfl
  | cons first rest =>
  rcases chain with ⟨rfl, restChain⟩
  rw [getLast?_cons_eq] at tail
  subst tail
  have lastMem : rest.getLastD first ∈ first :: rest := getLastD_mem_cons
  have apart : node ≠ rest.getLastD first := by
    rintro rfl
    exact fresh lastMem
  refine ⟨_, _, rfl, ⟨⟨rfl, ?_⟩, ?_, whole⟩, rfl, ?_⟩
  · have behind : Seg pNext (pNext first) (rest ++ []) none := by
      rw [append_nil]
      exact restChain
    refine Seg.splice nodup behind ⟨rfl, ?_⟩
    rw [update_of_ne apart]
    exact unlinked
  · rw [cons_append, getLast?_cons_eq, getLastD_concat]
  · intro other outside
    apply update_of_ne
    rintro rfl
    exact outside lastMem

/-- A node inserted before another is linked there; the count stays. -/
theorem ofListInsertNode_links {nextNode : Nat}
    (links : list.Links pNext (before ++ nextNode :: after))
    (fresh : node ∉ before ++ nextNode :: after) :
    ∃ later pNext',
      ofListInsertNode list before.getLast? node (some nextNode) pNext = (later, pNext') ∧
      later.Links pNext' (before ++ node :: nextNode :: after) ∧
      later.count = list.count ∧
      ∀ other, other ∉ node :: before → pNext' other = pNext other := by
  rcases links with ⟨chain, tail, nodup⟩
  have whole : (before ++ node :: nextNode :: after).Nodup :=
    nodup_middle.mpr (nodup_cons.mpr ⟨fresh, nodup⟩)
  have lastKept : list.tail = (before ++ node :: nextNode :: after).getLast? := by
    rw [tail, getLast?_append, getLast?_append, getLast?_cons_cons]
  cases before with
  | nil =>
    rcases chain with ⟨_, afterChain⟩
    refine ⟨_, _, rfl, ⟨⟨rfl, ?_⟩, lastKept, whole⟩, rfl, ?_⟩
    · refine ⟨update_self .., ?_⟩
      have apart : nextNode ≠ node := by
        rintro rfl
        exact fresh (by simp)
      dsimp only
      rw [update_of_ne apart]
      refine afterChain.congr fun other member => update_of_ne ?_ _ _
      rintro rfl
      exact fresh (by simp [member])
    · intro other outside
      apply update_of_ne
      rintro rfl
      exact outside (by simp)
  | cons first rest =>
  rcases chain with ⟨headEq, restChain⟩
  have lastMem : rest.getLastD first ∈ first :: rest := getLastD_mem_cons
  have apart : node ≠ rest.getLastD first := by
    rintro rfl
    exact fresh (mem_append_left _ lastMem)
  have inserted := Seg.insert nodup fresh restChain (Seg.next_getLastD restChain)
  have target := (Seg.next_getLastD restChain).1
  rw [target] at inserted
  rw [update_comm apart] at inserted
  rw [getLast?_cons_eq]
  refine ⟨_, _, rfl, ⟨⟨?_, inserted⟩, lastKept, whole⟩, rfl, ?_⟩
  · exact headEq
  intro other outside
  dsimp only
  rw [update_of_ne, update_of_ne]
  · rintro rfl
    exact outside (mem_cons_of_mem _ lastMem)
  · rintro rfl
    exact outside (by simp)

end Insertion

/-- `OF_REMOVE_NODE_FROM_LIST` up to the call of `free_func_cbk`: `none` when it writes
through a null predecessor. -/
def ofRemoveNodeFromList (list : OfList) (node : Nat) (prevNode : Option Nat)
    (pNext : PNext) : Option (OfList × PNext) :=
  let unlinked :=
    if list.count = 1 then
      some ({ list with head := none, tail := none }, pNext)
    else
      let bypassed :=
        if list.head = some node then
          some ({ list with head := pNext node }, pNext)
        else
          prevNode.map fun prev => (list, Function.update pNext prev (pNext node))
      bypassed.map fun (list, pNext) =>
        (if list.tail = some node then { list with tail := prevNode } else list, pNext)
  unlinked.map fun (list, pNext) => ({ list with count := uint32Pred list.count }, pNext)

/-- A list with the memory of its nodes, the nodes that were handed to `free_func_cbk` or
to `of_mem_free`, and what the last `OF_LIST_DYN_SCAN` did: the nodes that its body saw, and
whether the loop came to its end. -/
structure ListMemory where
  list : OfList
  pNext : PNext
  handed : List Nat
  visited : List Nat
  ended : Bool
  crashed : Bool

namespace ListMemory

def init : ListMemory where
  list := ofListInit
  pNext := fun _ => none
  handed := []
  visited := []
  ended := true
  crashed := false

/-- A node is handed on, and its memory then holds `junk`. -/
def handOn (memory : ListMemory) (node : Nat) (junk : PNext) : ListMemory :=
  { memory with
    handed := memory.handed ++ [node]
    pNext := Function.update memory.pNext node (junk node) }

/-- A node comes from `calloc` or from a pool, with whatever its link field holds. -/
def take (memory : ListMemory) (node : Nat) (link : Option Nat) : ListMemory :=
  { memory with pNext := Function.update memory.pNext node link }

def append (memory : ListMemory) (node : Nat) : ListMemory :=
  match ofAppendNodeToList memory.list node memory.pNext with
  | some (list, pNext) => { memory with list := list, pNext := pNext }
  | none => { memory with crashed := true }

def insert (memory : ListMemory) (prevNode : Option Nat) (node : Nat)
    (nextNode : Option Nat) : ListMemory :=
  let (list, pNext) := ofListInsertNode memory.list prevNode node nextNode memory.pNext
  { memory with list := list, pNext := pNext }

/-- `OF_REMOVE_NODE_FROM_LIST`; `freeFuncCbk` tells whether the list has a callback. -/
def remove (freeFuncCbk : Bool) (memory : ListMemory) (node : Nat) (prevNode : Option Nat)
    (junk : PNext) : ListMemory :=
  match ofRemoveNodeFromList memory.list node prevNode memory.pNext with
  | some (list, pNext) =>
    let removed := { memory with list := list, pNext := pNext }
    if freeFuncCbk then removed.handOn node junk else removed
  | none => { memory with crashed := true }

/-- The third expression of the loop `OF_LIST_REMOVE_HEAD_AND_SCAN`, which hands the first
node to the callback of the list or else to `of_mem_free`. -/
def removeHead (memory : ListMemory) (node : Nat) (junk : PNext) : ListMemory :=
  { memory with
    list :=
      { head := memory.pNext node
        tail := if memory.list.tail = some node then none else memory.list.tail
        count := uint32Pred memory.list.count } }.handOn node junk

/-- So many rounds of `OF_LIST_REMOVE_HEAD_AND_SCAN`, whose body may break. -/
def removeHeadAndScan (junk : PNext) : Nat → ListMemory → ListMemory
  | 0, memory => memory
  | rounds + 1, memory =>
    match memory.list.head with
    | none => memory
    | some node => removeHeadAndScan junk rounds (memory.removeHead node junk)

/-- So many rounds of `OF_LIST_DYN_SCAN` from `node` on, with a body that removes some nodes
and keeps the last other one as `prevNode`. -/
def dynScanFrom (freeFuncCbk : Bool) (removes : Nat → Bool) (junk : PNext) :
    Nat → ListMemory → Option Nat → Option Nat → Option Nat → ListMemory
  | _, memory, none, _, _ => { memory with ended := true }
  | 0, memory, some _, _, _ => { memory with ended := false }
  | rounds + 1, memory, some node, tmp, prevNode =>
    let seen := { memory with visited := memory.visited ++ [node] }
    let after := if removes node then seen.remove freeFuncCbk node prevNode junk else seen
    dynScanFrom freeFuncCbk removes junk rounds after tmp (tmp.bind after.pNext)
      (if removes node then prevNode else some node)

/-- `OF_LIST_DYN_SCAN`.  The first `tmp` is read `offset` whole nodes behind the first node:
where `offset` is not zero, that is some `stray` memory. -/
def dynScan (freeFuncCbk : Bool) (offset : Nat) (stray : Option Nat) (removes : Nat → Bool)
    (junk : PNext) (rounds : Nat) (memory : ListMemory) : ListMemory :=
  let tmp := memory.list.head.bind fun node => if offset = 0 then memory.pNext node else stray
  dynScanFrom freeFuncCbk removes junk rounds { memory with visited := [] } memory.list.head tmp
    none

end ListMemory

/-! ## Runs -/

/-- One use of a macro, with what the memory of its nodes holds before and after. -/
inductive ListCall where
  | append (node : Nat) (link : Option Nat)
  | insert (prevNode : Option Nat) (node : Nat) (nextNode link : Option Nat)
  | remove (node : Nat) (prevNode : Option Nat) (junk : PNext)
  | removeHeads (rounds : Nat) (junk : PNext)
  | dynScan (stray : Option Nat) (removes : Nat → Bool) (junk : PNext) (rounds : Nat)

def ListMemory.step (freeFuncCbk : Bool) (offset : Nat) (memory : ListMemory) :
    ListCall → ListMemory
  | .append node link => (memory.take node link).append node
  | .insert prevNode node nextNode link => (memory.take node link).insert prevNode node nextNode
  | .remove node prevNode junk => memory.remove freeFuncCbk node prevNode junk
  | .removeHeads rounds junk => memory.removeHeadAndScan junk rounds
  | .dynScan stray removes junk rounds =>
    memory.dynScan freeFuncCbk offset stray removes junk rounds

/-- What a list is for: a sequence of nodes, those that were removed, and the last scan. -/
structure ListContents where
  nodes : List Nat
  handed : List Nat
  visited : List Nat
  ended : Bool

namespace ListContents

def init : ListContents where
  nodes := []
  handed := []
  visited := []
  ended := true

def step (contents : ListContents) : ListCall → ListContents
  | .append node _ => { contents with nodes := contents.nodes ++ [node] }
  | .insert none node _ _ => { contents with nodes := node :: contents.nodes }
  | .insert (some prevNode) node _ _ =>
    { contents with
      nodes := contents.nodes.flatMap fun other =>
        if other = prevNode then [other, node] else [other] }
  | .remove node _ _ =>
    { contents with
      nodes := contents.nodes.erase node
      handed := contents.handed ++ [node] }
  | .removeHeads rounds _ =>
    { contents with
      nodes := contents.nodes.drop rounds
      handed := contents.handed ++ contents.nodes.take rounds }
  | .dynScan _ removes _ rounds =>
    let visited := contents.nodes.take rounds
    { nodes := visited.filter (!removes ·) ++ contents.nodes.drop rounds
      handed := contents.handed ++ visited.filter removes
      visited := visited
      ended := contents.nodes.length ≤ rounds }

end ListContents

/-- The macro is called as its users call it: for a node that is not in the list, between two
neighbours, or with the node in front of the one that goes. -/
def ListCall.Proper (contents : ListContents) : ListCall → Prop
  | .append node _ => node ∉ contents.nodes
  | .insert prevNode node nextNode _ =>
    node ∉ contents.nodes ∧
      ∃ before after,
        contents.nodes = before ++ after ∧ prevNode = before.getLast? ∧ nextNode = after.head?
  | .remove node prevNode _ =>
    ∃ before after, contents.nodes = before ++ node :: after ∧ prevNode = before.getLast?
  | .removeHeads .. => True
  | .dynScan .. => True

/-- The call does not reach a defect: nothing is inserted between nodes, an appended node has a
null link and the count has room for it, a list from which nodes are removed one by one has a
callback, and a list with nodes is scanned at offset zero. -/
def ListCall.Handled (freeFuncCbk : Bool) (offset : Nat) (contents : ListContents) : ListCall → Prop
  | .append _ link => link = none ∧ contents.nodes.length + 1 < 2 ^ 32
  | .insert .. => False
  | .remove .. => freeFuncCbk = true
  | .removeHeads .. => True
  | .dynScan _ removes _ rounds =>
    (contents.nodes ≠ [] → offset = 0) ∧
      (freeFuncCbk = true ∨ ∀ node ∈ contents.nodes.take rounds, removes node = false)

/-- The list shows the sequence: it is well formed, its count is right, each removed node was
handed on once, and the last scan saw what it should. -/
structure ListMemory.Shows (memory : ListMemory) (contents : ListContents) : Prop where
  links : memory.list.Links memory.pNext contents.nodes
  count : memory.list.count = contents.nodes.length
  handed : memory.handed = contents.handed
  visited : memory.visited = contents.visited
  ended : memory.ended = contents.ended
  running : memory.crashed = false

namespace OfList.Links

variable {list : OfList} {pNext : PNext} {before after : List Nat} {node : Nat}

theorem next_eq (links : list.Links pNext (before ++ node :: after)) :
    pNext node = after.head? := by
  obtain ⟨middle, -, chain⟩ := Seg.append_iff.mp links.chain
  simpa using chain.2.start_eq

theorem next_head (links : list.Links pNext (before ++ after)) :
    after.head?.bind pNext = after.tail.head? := by
  cases after with
  | nil => rfl
  | cons node after => exact links.next_eq

theorem uncons (links : list.Links pNext (node :: after)) (count : Nat) :
    OfList.Links
      { head := pNext node, tail := if list.tail = some node then none else list.tail,
        count := count } pNext after where
  chain := links.chain.2
  tail := by
    rw [links.tail]
    cases after with
    | nil => simp
    | cons next rest =>
    have apart : (next :: rest).getLast? ≠ some node := fun same =>
      (nodup_cons.mp links.nodup).1 (mem_of_getLast? same)
    rw [getLast?_cons_cons, if_neg apart]
  nodup := links.nodup.of_cons

/-- A removed node leaves the others linked. -/
theorem remove (links : list.Links pNext (before ++ node :: after))
    (count : list.count = (before ++ node :: after).length) :
    ∃ later pNext',
      ofRemoveNodeFromList list node before.getLast? pNext = some (later, pNext') ∧
        later.Links pNext' (before ++ after) ∧ later.count = (before ++ after).length := by
  cases before with
  | nil =>
    have counted := uint32Pred_of_pos (x := list.count) (by simp [count])
    refine ⟨_, _, ?_, links.uncons (uint32Pred list.count), by simp at count ⊢; omega⟩
    unfold ofRemoveNodeFromList
    split
    case isTrue single =>
      have alone : after = [] := by simpa [single] using count.symm
      subst alone
      simp [links.tail, @next_eq _ _ [] _ _ links]
    case isFalse =>
      simp only [links.chain.1, if_true, Option.map_some]
      split <;> rfl
  | cons first rest =>
  obtain ⟨headEq, chain⟩ := links.chain
  have apart : first ≠ node := by
    rintro rfl
    exact (nodup_cons.mp links.nodup).1 (by simp)
  have behind : Seg pNext (pNext node) after none := by
    obtain ⟨middle, -, cellSeg⟩ := Seg.append_iff.mp links.chain
    exact cellSeg.2
  have counted := uint32Pred_of_pos (x := list.count) (by simp [count])
  refine
    ⟨{ head := some first, tail := (first :: rest ++ after).getLast?,
        count := uint32Pred list.count },
      update pNext (rest.getLastD first) (pNext node), ?_,
      ⟨⟨rfl, Seg.erase links.nodup chain behind⟩, rfl,
        links.nodup.sublist ((sublist_cons_self node after).append_left _)⟩,
      by simp at count ⊢; omega⟩
  have several : list.count ≠ 1 := by simp [count]
  have notHead : list.head ≠ some node := by simpa [headEq] using apart
  have last : (first :: rest).getLast? = some (rest.getLastD first) := by
    rw [getLast?_cons, getLastD_eq_getLast?]
  simp only [ofRemoveNodeFromList, several, if_false, notHead, last, Option.map_some]
  congr 2
  cases after with
  | nil =>
    have kept : list.tail = some node := by rw [links.tail, getLast?_append]; rfl
    simp [kept, headEq, last]
  | cons next more =>
  have ends (front : List Nat) : (front ++ next :: more).getLast? = (next :: more).getLast? := by
    rw [getLast?_append, getLast?_cons]
    rfl
  have kept : list.tail = (next :: more).getLast? := by
    rw [links.tail, getLast?_append, getLast?_cons_cons, ← getLast?_append, ends]
  have inner : (next :: more).getLast? ≠ some node := fun same =>
    (nodup_cons.mp (nodup_append.mp links.nodup).2.1).1 (mem_of_getLast? same)
  rw [kept, if_neg inner, headEq, ends, ← kept]

end OfList.Links

/-! ## Each macro -/

namespace ListMemory

variable {memory : ListMemory} {contents : ListContents} {freeFuncCbk : Bool}

theorem Shows.handOn (shows : memory.Shows contents) {node : Nat} (outside : node ∉ contents.nodes)
    (junk : PNext) :
    (memory.handOn node junk).Shows { contents with handed := contents.handed ++ [node] } where
  links := shows.links.frame fun _ member =>
    update_of_ne (ne_of_mem_of_not_mem member outside) _ _
  count := shows.count
  handed := congrArg (· ++ [node]) shows.handed
  visited := shows.visited
  ended := shows.ended
  running := shows.running

theorem Shows.append (shows : memory.Shows contents) {node : Nat} (fresh : node ∉ contents.nodes)
    (room : contents.nodes.length + 1 < 2 ^ 32) :
    ((memory.take node none).append node).Shows
      { contents with nodes := contents.nodes ++ [node] } := by
  have taken : memory.list.Links (memory.take node none).pNext contents.nodes :=
    shows.links.frame fun other member => update_of_ne (ne_of_mem_of_not_mem member fresh) _ _
  obtain ⟨later, pNext', ran, links, count, -⟩ :=
    ofAppendNodeToList_links taken fresh (update_self ..)
  rw [shows.count, uint32Succ_of_lt room] at count
  have appended : (memory.take node none).append node =
      { memory.take node none with list := later, pNext := pNext' } := by
    rw [ListMemory.append, show (memory.take node none).list = memory.list from rfl, ran]
  rw [appended]
  exact ⟨links, by simpa using count, shows.handed, shows.visited, shows.ended, shows.running⟩

theorem Shows.remove (shows : memory.Shows contents) {before after : List Nat} {node : Nat}
    (nodes : contents.nodes = before ++ node :: after) (junk : PNext) :
    (memory.remove true node before.getLast? junk).Shows
      { contents with nodes := before ++ after, handed := contents.handed ++ [node] } := by
  have listed := shows.links
  rw [nodes] at listed
  obtain ⟨later, pNext', ran, links, count⟩ := listed.remove (by rw [shows.count, nodes])
  have outside : node ∉ before ++ after :=
    (nodup_cons.mp (nodup_middle.mp listed.nodup)).1
  have unlinked : ({ memory with list := later, pNext := pNext' } : ListMemory).Shows
      { contents with nodes := before ++ after } :=
    ⟨links, count, shows.handed, shows.visited, shows.ended, shows.running⟩
  rw [ListMemory.remove, ran]
  exact unlinked.handOn outside junk

theorem Shows.removeHead (shows : memory.Shows contents) {after : List Nat} {node : Nat}
    (nodes : contents.nodes = node :: after) (junk : PNext) :
    (memory.removeHead node junk).Shows
      { contents with nodes := after, handed := contents.handed ++ [node] } := by
  have listed := shows.links
  have count := shows.count
  rw [nodes] at listed count
  have counted : uint32Pred memory.list.count = after.length := by
    have := uint32Pred_of_pos (x := memory.list.count) (by simp [count])
    rw [List.length_cons] at count
    omega
  have unlinked :
      ({ memory with
        list :=
          { head := memory.pNext node
            tail := if memory.list.tail = some node then none else memory.list.tail
            count := uint32Pred memory.list.count } } : ListMemory).Shows
        { contents with nodes := after } :=
    ⟨listed.uncons _, counted, shows.handed, shows.visited, shows.ended, shows.running⟩
  exact unlinked.handOn (nodup_cons.mp listed.nodup).1 junk

theorem Shows.removeHeadAndScan (shows : memory.Shows contents) (junk : PNext) (rounds : Nat) :
    (memory.removeHeadAndScan junk rounds).Shows (contents.step (.removeHeads rounds junk)) := by
  induction rounds generalizing memory contents with
  | zero => simpa [ListContents.step, ListMemory.removeHeadAndScan] using shows
  | succ rounds ih =>
  have chain := shows.links.chain
  rw [ListMemory.removeHeadAndScan]
  cases nodes : contents.nodes with
  | nil =>
    rw [nodes, Seg.nil_iff] at chain
    rw [chain]
    have unchanged : contents.step (.removeHeads (rounds + 1) junk) = contents := by
      simp [ListContents.step, nodes]
      rw [← nodes]
    rwa [unchanged]
  | cons node after =>
  rw [nodes] at chain
  rw [chain.1]
  have next := ih (shows.removeHead nodes junk)
  simpa [ListContents.step, nodes] using next

theorem Shows.finish (shows : memory.Shows contents) (ended : Bool) :
    ({ memory with ended := ended } : ListMemory).Shows { contents with ended := ended } :=
  ⟨shows.links, shows.count, shows.handed, shows.visited, rfl, shows.running⟩

theorem dynScanFrom_none (removes : Nat → Bool) (junk : PNext) (rounds : Nat)
    (tmp prevNode : Option Nat) :
    memory.dynScanFrom freeFuncCbk removes junk rounds none tmp prevNode =
      { memory with ended := true } := by
  cases rounds <;> rfl

/-- The dynamic scan takes the nodes it removes, while a callback defers their release. -/
theorem Shows.dynScanFrom (shows : memory.Shows contents) {removes : Nat → Bool} {junk : PNext}
    {rounds : Nat} {kept rest : List Nat} (nodes : contents.nodes = kept ++ rest)
    (handles : freeFuncCbk = true ∨ ∀ node ∈ rest.take rounds, removes node = false) :
    (memory.dynScanFrom freeFuncCbk removes junk rounds rest.head? rest.tail.head?
        kept.getLast?).Shows
      { nodes := kept ++ ((rest.take rounds).filter (!removes ·) ++ rest.drop rounds)
        handed := contents.handed ++ (rest.take rounds).filter removes
        visited := contents.visited ++ rest.take rounds
        ended := rest.length ≤ rounds } := by
  induction rounds generalizing memory contents kept rest with
  | zero =>
    cases rest with
    | nil => simpa [nodes, dynScanFrom_none] using shows.finish true
    | cons node more => simpa [nodes, ListMemory.dynScanFrom] using shows.finish false
  | succ rounds ih =>
  cases rest with
  | nil => simpa [nodes, dynScanFrom_none] using shows.finish true
  | cons node more =>
  have seen : ({ memory with visited := memory.visited ++ [node] } : ListMemory).Shows
      { contents with visited := contents.visited ++ [node] } :=
    ⟨shows.links, shows.count, shows.handed, congrArg (· ++ [node]) shows.visited,
      shows.ended, shows.running⟩
  have later : freeFuncCbk = true ∨ ∀ other ∈ more.take rounds, removes other = false :=
    handles.imp_right fun kept other member => kept other (by simp [member])
  rw [head?_cons, tail_cons, ListMemory.dynScanFrom]
  cases goes : removes node with
  | false =>
    have nodes' : contents.nodes = (kept ++ [node]) ++ more := by simp [nodes]
    have listed := seen.links
    rw [nodes'] at listed
    have next := ih seen nodes' later
    rw [getLast?_concat, ← listed.next_head] at next
    simpa [goes] using next
  | true =>
  have cbk : freeFuncCbk = true :=
    handles.resolve_right fun kept => by simp [kept node (by simp)] at goes
  subst cbk
  have removed := seen.remove nodes junk
  have next := ih removed rfl later
  rw [← removed.links.next_head] at next
  simpa [goes] using next

/-- A proper call that is handled keeps the list shown. -/
theorem Shows.step (shows : memory.Shows contents) {offset : Nat} {call : ListCall}
    (proper : call.Proper contents) (handled : call.Handled freeFuncCbk offset contents) :
    (memory.step freeFuncCbk offset call).Shows (contents.step call) := by
  cases call with
  | append node link =>
    obtain ⟨rfl, room⟩ := handled
    exact shows.append proper room
  | insert prevNode node nextNode link => exact handled.elim
  | remove node prevNode junk =>
    obtain ⟨before, after, nodes, rfl⟩ := proper
    obtain rfl : freeFuncCbk = true := handled
    have nodup := shows.links.nodup
    rw [nodes] at nodup
    have apart : node ∉ before := fun member =>
      (nodup_append.mp nodup).2.2 _ member _ mem_cons_self rfl
    have erased : contents.nodes.erase node = before ++ after := by
      rw [nodes, erase_append_right _ apart, erase_cons_head]
    simp only [ListContents.step, erased]
    exact shows.remove nodes junk
  | removeHeads rounds junk => exact shows.removeHeadAndScan junk rounds
  | dynScan stray removes junk rounds =>
  have started : ({ memory with visited := [] } : ListMemory).Shows
      { contents with visited := [] } :=
    ⟨shows.links, shows.count, shows.handed, rfl, shows.ended, shows.running⟩
  have scanned := @Shows.dynScanFrom _ _ _ started removes junk rounds [] _ rfl handled.2
  have head : memory.list.head = contents.nodes.head? := by
    simpa using shows.links.chain.start_eq
  have tmp :
      (memory.list.head.bind fun node => if offset = 0 then memory.pNext node else stray) =
        contents.nodes.tail.head? := by
    cases nodes : contents.nodes with
    | nil => simp [head, nodes]
    | cons node more =>
    have listed := shows.links
    have next := @OfList.Links.next_head _ _ [] _ listed
    simpa [head, nodes, handled.1 (by simp [nodes])] using next
  rw [ListMemory.step, ListMemory.dynScan, tmp, head]
  simpa [ListContents.step] using scanned

end ListMemory

/-! ## Every run -/

/-- A list and its sequence take one call together. -/
def listStep (freeFuncCbk : Bool) (offset : Nat) (state : ListMemory × ListContents)
    (call : ListCall) : ListMemory × ListContents :=
  (state.1.step freeFuncCbk offset call, state.2.step call)

/-- Proper calls that do not reach a defect. -/
def SoundCall (freeFuncCbk : Bool) (offset : Nat) (state : ListMemory × ListContents)
    (call : ListCall) : Prop :=
  call.Proper state.2 ∧ call.Handled freeFuncCbk offset state.2

/-- In every run of proper calls that reach no defect, the list shows the sequence. -/
theorem list_macros_show_sequence (freeFuncCbk : Bool) (offset : Nat) (calls : List ListCall)
    (sound : Along (listStep freeFuncCbk offset) (SoundCall freeFuncCbk offset)
      (ListMemory.init, ListContents.init) calls) :
    (calls.foldl (listStep freeFuncCbk offset) (ListMemory.init, ListContents.init)).1.Shows
      (calls.foldl (listStep freeFuncCbk offset) (ListMemory.init, ListContents.init)).2 := by
  have start : (ListMemory.init, ListContents.init).1.Shows
      (ListMemory.init, ListContents.init).2 :=
    ⟨OfList.Links.init _, rfl, rfl, rfl, rfl, rfl⟩
  exact
    @Along.invariant _ _ _ _ (fun state => state.1.Shows state.2)
      (fun _ _ shows sound => shows.step sound.1 sound.2) _ _ start sound

attribute [local simp] ListContents.init

/-- Two nodes are appended, a scan takes the first one out, and the head goes. -/
theorem list_macros_show_sequence_two :
    ∃ calls : List ListCall, calls.length = 4 ∧
      (calls.foldl (listStep true 0) (ListMemory.init, ListContents.init)).1.Shows
        (calls.foldl (listStep true 0) (ListMemory.init, ListContents.init)).2 :=
  ⟨[.append 1 none, .append 2 none, .dynScan none (· = 1) (fun _ => some 7) 3,
      .removeHeads 2 fun _ => some 7], rfl,
    list_macros_show_sequence true 0 _
      ⟨⟨by simp [ListCall.Proper], rfl, by decide⟩,
        ⟨by simp [ListCall.Proper, listStep, ListContents.step], rfl, by decide⟩,
        ⟨trivial, fun _ => rfl, .inl rfl⟩, ⟨trivial, trivial⟩, trivial⟩⟩

/-- A node that is inserted in front of another one is not counted. -/
theorem inserted_node_not_counted :
    ¬ ∀ calls : List ListCall,
      Along (listStep true 0) (fun state call => call.Proper state.2)
        (ListMemory.init, ListContents.init) calls →
      (calls.foldl (listStep true 0) (ListMemory.init, ListContents.init)).1.Shows
        (calls.foldl (listStep true 0) (ListMemory.init, ListContents.init)).2 := by
  intro all
  have shows := all [.append 1 none, .insert none 2 (some 1) none]
    ⟨by simp [ListCall.Proper], ⟨by simp [listStep, ListContents.step], [], [1], rfl, rfl, rfl⟩,
      trivial⟩
  exact absurd shows.count (by decide)

end OpenFlowController.Include
