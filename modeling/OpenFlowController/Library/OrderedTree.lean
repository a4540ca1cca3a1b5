/-
Module: Library.OrderedTree
Purpose: Trees whose nodes know their parent and the list of their kids: siblings, the mirror
  image, the two orders of a subtree, and when a function that steps from node to node runs
  through a subtree in the first of them.
Trusted boundary: none
-/
import OpenFlowController.Library.Enumeration

namespace OpenFlowController.Library

open List

variable {ν : Type*}

/-! ## Trees -/

/-- A tree by its pointers.  Kids are lower and parents less deep, so that neither way has a
cycle; nothing is said of a node that is not among the kids of its parent. -/
structure OrderedTree (ν : Type*) where
  kids : ν → List ν
  parent : ν → Option ν
  height : ν → Nat
  depth : ν → Nat
  kids_nodup : ∀ node, (kids node).Nodup
  parent_of_mem : ∀ {node kid}, kid ∈ kids node → parent kid = some node
  height_lt : ∀ {node kid}, kid ∈ kids node → height kid < height node
  depth_lt : ∀ {node above}, parent node = some above → depth above < depth node

/-- What follows an element of a list. -/
def following [DecidableEq ν] (node : ν) : List ν → Option ν
  | [] => none
  | first :: rest => if first = node then rest.head? else following node rest

theorem following_append [DecidableEq ν] {node : ν} {before rest : List ν}
    (nodup : (before ++ node :: rest).Nodup) :
    following node (before ++ node :: rest) = rest.head? := by
  induction before with
  | nil => simp [following]
  | cons first before ih =>
  have different : first ≠ node := by
    rintro rfl
    exact (nodup_cons.mp nodup).1 (by simp)
  rw [cons_append, following, if_neg different]
  exact ih (nodup_cons.mp nodup).2

theorem following_mem [DecidableEq ν] {node next : ν} {list : List ν}
    (found : following node list = some next) : next ∈ list := by
  induction list with
  | nil => simp [following] at found
  | cons first rest ih =>
  rw [following] at found
  split at found
  · exact mem_cons_of_mem _ (mem_of_mem_head? found)
  · exact mem_cons_of_mem _ (ih found)

theorem following_ne [DecidableEq ν] {node next : ν} {list : List ν} (nodup : list.Nodup)
    (found : following node list = some next) : next ≠ node := by
  induction list with
  | nil => simp [following] at found
  | cons first rest ih =>
  obtain ⟨fresh, nodup⟩ := nodup_cons.mp nodup
  rw [following] at found
  split at found
  case isTrue same =>
    rintro rfl
    exact fresh (same ▸ mem_of_mem_head? found)
  case isFalse => exact ih nodup found

namespace OrderedTree

/-- The tree with every list of kids reversed. -/
def mirror (tree : OrderedTree ν) : OrderedTree ν :=
  { tree with
    kids := fun node => (tree.kids node).reverse
    kids_nodup := fun node => List.nodup_reverse.mpr (tree.kids_nodup node)
    parent_of_mem := fun mem => tree.parent_of_mem (List.mem_reverse.mp mem)
    height_lt := fun mem => tree.height_lt (List.mem_reverse.mp mem) }

/-- The sibling after a node. -/
def nextSibling [DecidableEq ν] (tree : OrderedTree ν) (node : ν) : Option ν :=
  (tree.parent node).bind fun above => following node (tree.kids above)

/-- A node and what is below it, a node before its kids. -/
def preorder (tree : OrderedTree ν) (node : ν) : List ν :=
  node :: (tree.kids node).attach.flatMap fun kid => preorder tree kid.1
termination_by tree.height node
decreasing_by exact tree.height_lt kid.2

/-- A node and what is below it, a node after its kids. -/
def postorder (tree : OrderedTree ν) (node : ν) : List ν :=
  ((tree.kids node).attach.flatMap fun kid => postorder tree kid.1) ++ [node]
termination_by tree.height node
decreasing_by exact tree.height_lt kid.2

variable (tree : OrderedTree ν)

theorem preorder_eq (node : ν) :
    tree.preorder node = node :: (tree.kids node).flatMap tree.preorder := by
  rw [preorder]
  simp

theorem postorder_eq (node : ν) :
    tree.postorder node = (tree.kids node).flatMap tree.postorder ++ [node] := by
  rw [postorder]
  simp

theorem head?_flatMap_preorder (nodes : List ν) :
    (nodes.flatMap tree.preorder).head? = nodes.head? := by
  cases nodes with
  | nil => rfl
  | cons node rest => simp [preorder_eq tree node]

/-- A node that kids lead to from another one. -/
inductive Below (head : ν) : ν → Prop where
  | kid {node : ν} : node ∈ tree.kids head → Below head node
  | down {node kid : ν} : Below head node → kid ∈ tree.kids node → Below head kid

variable {tree} in
theorem Below.height_lt {head node : ν} (below : tree.Below head node) :
    tree.height node < tree.height head := by
  induction below with
  | kid mem => exact tree.height_lt mem
  | down _ mem ih => exact Nat.lt_trans (tree.height_lt mem) ih

variable {tree} in
theorem Below.ne {head node : ν} (below : tree.Below head node) : node ≠ head := by
  rintro rfl
  exact Nat.lt_irrefl _ below.height_lt

theorem preorder_forall {P : ν → Prop}
    (down : ∀ node kid, P node → kid ∈ tree.kids node → P kid) {node : ν} (holds : P node) :
    ∀ other ∈ tree.preorder node, P other := by
  induction height : tree.height node using Nat.strongRecOn generalizing node with
  | ind bound ih =>
  intro other mem
  rw [preorder_eq, mem_cons, mem_flatMap] at mem
  rcases mem with rfl | ⟨kid, kidOf, mem⟩
  · exact holds
  · exact ih _ (height ▸ tree.height_lt kidOf) (down node kid holds kidOf) rfl other mem

theorem postorder_forall {P : ν → Prop}
    (down : ∀ node kid, P node → kid ∈ tree.kids node → P kid) {node : ν} (holds : P node) :
    ∀ other ∈ tree.postorder node, P other := by
  induction height : tree.height node using Nat.strongRecOn generalizing node with
  | ind bound ih =>
  intro other mem
  rw [postorder_eq, mem_append, mem_flatMap, mem_singleton] at mem
  rcases mem with ⟨kid, kidOf, mem⟩ | rfl
  · exact ih _ (height ▸ tree.height_lt kidOf) (down node kid holds kidOf) rfl other mem
  · exact holds

variable {tree} in
theorem Below.nextSibling [DecidableEq ν] {head node beside : ν} (below : tree.Below head node)
    (next : tree.nextSibling node = some beside) : tree.Below head beside := by
  cases below with
  | kid mem =>
    rw [OrderedTree.nextSibling, tree.parent_of_mem mem] at next
    exact .kid (following_mem next)
  | down below mem =>
    rw [OrderedTree.nextSibling, tree.parent_of_mem mem] at next
    exact .down below (following_mem next)

end OrderedTree

/-! ## Running through a subtree -/

/-- From each node of a list `next` goes to the one after it, and from the last of them to
`last`. -/
def Steps (next : ν → Option ν) (last : Option ν) : List ν → Prop
  | [] => True
  | node :: rest => next node = (rest.head?).or last ∧ Steps next last rest

theorem steps_append {next : ν → Option ν} {last : Option ν} {front back : List ν} :
    Steps next last (front ++ back) ↔
      Steps next ((back.head?).or last) front ∧ Steps next last back := by
  induction front with
  | nil => simp [Steps]
  | cons node rest ih =>
    rw [cons_append, Steps, Steps, ih, head?_append, and_assoc, Option.or_assoc]

namespace OrderedTree

/-- `next` goes to the first kid of a node.  From a leaf below the head it goes where `finish`
does: to the sibling after it, else where it goes from the parent; below the head itself it goes
to `last`. -/
structure RunsThrough [DecidableEq ν] (tree : OrderedTree ν) (next finish : ν → Option ν)
    (head : ν) (last : Option ν) : Prop where
  down : ∀ node first rest, tree.kids node = first :: rest → next node = some first
  leaf : ∀ node, tree.Below head node → tree.kids node = [] → next node = finish node
  sibling : ∀ node beside, tree.Below head node → tree.nextSibling node = some beside →
    finish node = some beside
  up : ∀ node above, tree.Below head node → tree.nextSibling node = none →
    tree.parent node = some above →
      finish node = if above = head then last else finish above

namespace RunsThrough

variable [DecidableEq ν] {tree : OrderedTree ν} {next finish : ν → Option ν} {head : ν}
  {last : Option ν}

/-- Where a run goes once it has been through all kids of a node. -/
def leave (finish : ν → Option ν) (head : ν) (last : Option ν) (node : ν) : Option ν :=
  if node = head then last else finish node

/-- The steps below a node visit the trees of its children in turn. -/
theorem steps_kids (runs : tree.RunsThrough next finish head last) (bound : Nat) :
    ∀ node, tree.height node ≤ bound → node = head ∨ tree.Below head node →
      ∀ before kids, tree.kids node = before ++ kids →
        Steps next (leave finish head last node) (kids.flatMap tree.preorder) := by
  induction bound with
  | zero =>
    intro node low _ before kids split
    cases kids with
    | nil => trivial
    | cons kid rest =>
      have kidOf : kid ∈ tree.kids node := by simp [split]
      exact absurd (tree.height_lt kidOf) (by omega)
  | succ bound ih =>
  intro node low within before kids
  induction kids generalizing before with
  | nil => exact fun _ => trivial
  | cons kid rest restHypothesis =>
  intro split
  have kidOf : kid ∈ tree.kids node := by simp [split]
  have lower := tree.height_lt kidOf
  have below : tree.Below head kid := by
    rcases within with rfl | below
    · exact .kid kidOf
    · exact .down below kidOf
  have parent := tree.parent_of_mem kidOf
  have nodup := split ▸ tree.kids_nodup node
  have beside : tree.nextSibling kid = rest.head? := by
    rw [nextSibling, parent, Option.bind_some, split, following_append nodup]
  have finished : finish kid = rest.head?.or (leave finish head last node) := by
    cases rest with
    | nil => exact runs.up kid node below beside parent
    | cons sibling more => exact runs.sibling kid sibling below beside
  have restSteps := restHypothesis (before ++ [kid]) (by simp [split])
  rw [flatMap_cons, steps_append, head?_flatMap_preorder, ← finished]
  refine ⟨?_, restSteps⟩
  -- the kid itself, and then its own kids
  have kidsSteps := ih kid (by omega) (.inr below) [] (tree.kids kid) rfl
  rw [leave, if_neg below.ne] at kidsSteps
  rw [preorder_eq, Steps, head?_flatMap_preorder]
  refine ⟨?_, kidsSteps⟩
  cases kidsOf : tree.kids kid with
  | nil => exact runs.leaf kid below kidsOf
  | cons first others => exact runs.down kid first others kidsOf

theorem steps (runs : tree.RunsThrough next finish head last) (kids : tree.kids head ≠ []) :
    Steps next last (tree.preorder head) := by
  obtain ⟨first, rest, kidsOf⟩ := exists_cons_of_ne_nil kids
  have kidsSteps := runs.steps_kids _ head (Nat.le_refl _) (.inl rfl) [] _ rfl
  rw [leave, if_pos rfl] at kidsSteps
  rw [preorder_eq, Steps, head?_flatMap_preorder, kidsOf]
  exact ⟨runs.down head first rest kidsOf, kidsOf ▸ kidsSteps⟩

end RunsThrough

end OrderedTree

/-! ## Steps behind calls -/

section Calls

variable {κ ε : Type*} {nextCall : κ → Reply κ ν ε} {key : ν → κ} {code : ε}

/-- The reply to a call that comes to a node, or to the end. -/
def answer (key : ν → κ) (code : ε) : Option ν → Reply κ ν ε
  | some node => .found (key node) node
  | none => .ended code

theorem enumerates_cons {reply : Reply κ ν ε} {entry : κ × ν} {rest : List (κ × ν)}
    (calls : Enumerates nextCall reply (entry :: rest) code) :
    reply = .found entry.1 entry.2 ∧ Enumerates nextCall (nextCall entry.1) rest code := by
  cases calls with
  | found calls => exact ⟨rfl, calls⟩

/-- The calls enumerate a list exactly when the steps go through it. -/
theorem enumerates_iff_steps {step : ν → Option ν} {list : List ν}
    (agrees : ∀ node ∈ list, nextCall (key node) = answer key code (step node))
    (start : Option ν) :
    Enumerates nextCall (answer key code start) (list.map fun node => (key node, node)) code ↔
      start = list.head? ∧ Steps step none list := by
  induction list generalizing start with
  | nil =>
    constructor
    case mp =>
      intro calls
      cases start with
      | none => exact ⟨rfl, trivial⟩
      | some node => cases calls
    case mpr =>
      rintro ⟨rfl, -⟩
      exact .ended code
  | cons node rest ih =>
  have restIff := ih (fun other mem => agrees other (mem_cons_of_mem _ mem)) (step node)
  rw [← agrees node mem_cons_self] at restIff
  constructor
  case mp =>
    intro calls
    obtain ⟨first, calls⟩ := enumerates_cons calls
    obtain ⟨next, steps⟩ := restIff.mp calls
    cases start with
    | none => simp [answer] at first
    | some other =>
      have same : other = node := by simpa [answer] using (Reply.found.inj first).2
      exact ⟨by rw [same]; rfl, by rw [next, Option.or_none], steps⟩
  case mpr =>
    rintro ⟨rfl, next, steps⟩
    rw [Option.or_none] at next
    exact .found (restIff.mpr ⟨next, steps⟩)

end Calls

end OpenFlowController.Library
