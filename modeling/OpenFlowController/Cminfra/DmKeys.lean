/-
Module: Cminfra.DmKeys
Purpose: What it means that keys are equal, attribute by attribute, which instance they then
  select, and when the searches by keys and by path select that one.
Trusted boundary: none beyond the modules of the model
-/
import OpenFlowController.Cminfra.DmInstance
import OpenFlowController.Library.Scan

namespace OpenFlowController.Cminfra

open Library

/-! ## Equal keys -/

/-- What a value says: integers are numbers of their full width, all else is text. -/
inductive KeyMeaning where
  | number (value : UInt32)
  | number64 (value : Int)
  | unsigned64 (value : UInt64)
  | text (value : CString)
deriving DecidableEq

/-- The meaning of the value of a pair. -/
def NvPair.meaning (pair : NvPair) : KeyMeaning :=
  match pair.valueType with
  | .int | .uint => .number (ofAtoi pair.value)
  | .int64 => .number64 (strtol pair.value)
  | .uint64 => .unsigned64 (charTo64bitNum pair.value)
  | _ => .text pair.value

/-- Values of one type with one meaning. -/
def sameValue (a b : NvPair) : Bool :=
  a.valueType = b.valueType ∧ a.meaning = b.meaning

/-- The same attribute with the same value. -/
def samePair (a b : NvPair) : Bool :=
  a.name = b.name ∧ sameValue a b

/-- Two arrays that give every attribute the same value. -/
def sameKeys (a b : List NvPair) : Bool :=
  a.length = b.length ∧ (∀ p ∈ a, ∃ q ∈ b, samePair p q = true) ∧
    ∀ q ∈ b, ∃ p ∈ a, samePair p q = true

variable {a b : NvPair}

theorem samePair_iff :
    samePair a b = true ↔
      a.name = b.name ∧ a.valueType = b.valueType ∧ a.meaning = b.meaning := by
  simp [samePair, sameValue]

theorem samePair_symm (same : samePair a b = true) : samePair b a = true := by
  obtain ⟨names, types, meanings⟩ := samePair_iff.mp same
  exact samePair_iff.mpr ⟨names.symm, types.symm, meanings.symm⟩

theorem samePair_trans {c : NvPair} (first : samePair a b = true) (second : samePair b c = true) :
    samePair a c = true := by
  obtain ⟨names, types, meanings⟩ := samePair_iff.mp first
  obtain ⟨names', types', meanings'⟩ := samePair_iff.mp second
  exact samePair_iff.mpr ⟨names.trans names', types.trans types', meanings.trans meanings'⟩

theorem sameKeys_iff {a b : List NvPair} :
    sameKeys a b = true ↔
      a.length = b.length ∧ (∀ p ∈ a, ∃ q ∈ b, samePair p q = true) ∧
        ∀ q ∈ b, ∃ p ∈ a, samePair p q = true := by
  simp [sameKeys]

theorem sameKeys_symm {a b : List NvPair} (same : sameKeys a b = true) : sameKeys b a = true := by
  obtain ⟨lengths, forth, back⟩ := sameKeys_iff.mp same
  refine sameKeys_iff.mpr ⟨lengths.symm, fun p within => ?_, fun q within => ?_⟩
  · obtain ⟨q, there, equal⟩ := back p within
    exact ⟨q, there, samePair_symm equal⟩
  · obtain ⟨p, there, equal⟩ := forth q within
    exact ⟨p, there, samePair_symm equal⟩

theorem sameKeys_trans {a b c : List NvPair} (first : sameKeys a b = true)
    (second : sameKeys b c = true) : sameKeys a c = true := by
  obtain ⟨lengths, forth, back⟩ := sameKeys_iff.mp first
  obtain ⟨lengths', forth', back'⟩ := sameKeys_iff.mp second
  refine sameKeys_iff.mpr ⟨lengths.trans lengths', fun p within => ?_, fun r within => ?_⟩
  · obtain ⟨q, there, same⟩ := forth p within
    obtain ⟨r, there', same'⟩ := forth' q there
    exact ⟨r, there', samePair_trans same same'⟩
  · obtain ⟨q, there, same⟩ := back' r within
    obtain ⟨p, there', same'⟩ := back q there
    exact ⟨p, there', samePair_trans same' same⟩

theorem keyValueMatches_of_same (same : samePair a b = true) : keyValueMatches a b = true := by
  obtain ⟨-, types, meanings⟩ := samePair_iff.mp same
  rw [NvPair.meaning, NvPair.meaning, ← types] at meanings
  rw [keyValueMatches, ← types]
  cases kind : a.valueType with
  | int64 =>
    rw [kind] at meanings
    simp [ofAtoi, KeyMeaning.number64.inj meanings]
  | uint64 =>
    rw [kind] at meanings
    simp [KeyMeaning.unsigned64.inj meanings]
  | _ =>
    rw [kind] at meanings
    simpa using meanings

namespace Dm

theorem keyArrayMatches_of_all {given stored : List NvPair}
    (all : ∀ p ∈ given, ∃ q ∈ stored, samePair p q = true) :
    keyArrayMatches (given.map some) stored = some true := by
  induction given with
  | nil => rfl
  | cons pair rest ih =>
  obtain ⟨other, within, same⟩ := all pair List.mem_cons_self
  have matched : stored.any (keyValueMatches pair) = true :=
    List.any_eq_true.mpr ⟨other, within, keyValueMatches_of_same same⟩
  rw [List.map_cons, keyArrayMatches, if_pos matched]
  exact ih fun p later => all p (List.mem_cons_of_mem _ later)

/-! ## The instance that keys select -/

/-- The instance at an address has the given keys. -/
def hasKeys (dm : Dm) (keys : List NvPair) (address : Nat) : Bool :=
  ((dm.instances address).map fun found => sameKeys keys found.map.keyNvPairs).getD false

/-- The instance of a table with the given keys. -/
def selected (dm : Dm) (inode : Nat) (keys : List NvPair) : Option Nat :=
  (dm.tableInstances inode).find? (dm.hasKeys keys)

/-- What the look-up makes of one instance. -/
def lookUpTest (dm : Dm) (given : List (Option NvPair)) (address : Nat) : Option Bool :=
  match dm.instances address with
  | none => some false
  | some found =>
    if found.map.keyNvPairs.length = given.length then
      keyArrayMatches given found.map.keyNvPairs
    else some false

theorem scanInstances_eq_scan (dm : Dm) (given : List (Option NvPair)) (addresses : List Nat) :
    dm.scanInstances given addresses = scan (dm.lookUpTest given) addresses := by
  induction addresses with
  | nil => rfl
  | cons address rest ih =>
  rw [scanInstances, scan, lookUpTest]
  cases dm.instances address with
  | none => exact ih
  | some found =>
  dsimp only
  split
  · cases keyArrayMatches given found.map.keyNvPairs with
    | none => rfl
    | some met =>
      cases met with
      | true => rfl
      | false => exact ih
  · exact ih

variable {dm : Dm} {keys : List NvPair}

theorem lookUpTest_of_hasKeys {address : Nat} (has : dm.hasKeys keys address = true) :
    dm.lookUpTest (keys.map some) address = some true := by
  rw [hasKeys] at has
  rw [lookUpTest]
  cases there : dm.instances address with
  | none =>
    rw [there] at has
    exact absurd has nofun
  | some found =>
  rw [there] at has
  obtain ⟨lengths, forth, -⟩ := sameKeys_iff.mp has
  dsimp only
  rw [if_pos (by rw [List.length_map, lengths])]
  exact keyArrayMatches_of_all forth

/-- No instance with other keys, before the one that has the given keys, passes the
comparison of the look-up. -/
def LookUpFits (dm : Dm) (inode : Nat) (keys : List NvPair) : Prop :=
  ∀ address ∈ (dm.tableInstances inode).takeWhile (fun address => !dm.hasKeys keys address),
    dm.lookUpTest (keys.map some) address = some false

variable {inode : Nat}

theorem lookUp_eq_selected_iff :
    dm.getInstanceUsingKeyArray inode (keys.map some) = some (dm.selected inode keys) ↔
      dm.LookUpFits inode keys := by
  rw [getInstanceUsingKeyArray, scanInstances_eq_scan, selected, scan_eq_find?_iff, LookUpFits]
  constructor
  · exact And.left
  · intro fits
    exact ⟨fits, fun address found => lookUpTest_of_hasKeys (List.find?_some found)⟩

/-! ## Paths by equal keys -/

/-- The text of a token that is one closed key. -/
def closedKey (token : PathToken) : Option CString :=
  let key := token.text.drop 1
  if '{' ∈ key then none
  else if '}' ∉ key then none
  else if '}' ∈ (key.dropWhile (· ≠ '}')).drop 1 then none
  else some (key.takeWhile (· ≠ '}'))

/-- What a closed key at an internal node is parsed into. -/
def parseKey (dm : Dm) (inode : Nat) (key : CString) : KeyParse :=
  getKeyArrayFromNamepathToken key (dm.keyChildren (((dm.inodes inode).map Inode.dmNode).getD 0))

/-- The selection by a key token, with equal keys. -/
def selectByKeys (dm : Dm) (inode : Nat) (token : PathToken) : KeyStep :=
  if token.isKey then
    match closedKey token with
    | none => .stop
    | some key =>
      match dm.parseKey inode key with
      | .fault => .fault
      | .failed _ => .select none
      | .parsed pairs => .select (dm.selected inode pairs)
  else .select (dm.getInstanceUsingId inode (ofAtoi token.text))

/-- The selection by a key array that was parsed as far as it is given finds what equal keys
select. -/
def ParseFits (dm : Dm) (inode : Nat) (key : CString) : KeyParse → Prop
  | .fault => False
  | .failed filled =>
    ∀ address ∈ dm.tableInstances inode,
      dm.lookUpTest (filled.map some ++ List.replicate (keyCount key - filled.length) none)
        address = some false
  | .parsed pairs => dm.LookUpFits inode pairs

/-- A token selects by equal keys. -/
def TokenFits (dm : Dm) (inode : Nat) (token : PathToken) : Prop :=
  token.isKey = true → ∀ key, closedKey token = some key →
    dm.ParseFits inode key (dm.parseKey inode key)

variable {token : PathToken}

theorem selectByToken_closed {key : CString} (isKey : token.isKey = true)
    (closed : closedKey token = some key) :
    dm.selectByToken inode token =
      match givenOf (keyCount key) (dm.parseKey inode key) with
      | none => .fault
      | some given =>
        match dm.getInstanceUsingKeyArray inode given with
        | none => .fault
        | some selected => .select selected := by
  rw [selectByToken, if_pos isKey]
  rw [closedKey] at closed
  split at closed
  · exact absurd closed nofun
  split at closed
  · exact absurd closed nofun
  split at closed
  · exact absurd closed nofun
  · rename_i opens closes ends
    rw [if_neg opens, if_neg closes, if_neg ends, Option.some.inj closed]
    rfl

theorem selectByToken_stop (isKey : token.isKey = true) (malformed : closedKey token = none) :
    dm.selectByToken inode token = .stop := by
  rw [selectByToken, if_pos isKey]
  rw [closedKey] at malformed
  split at malformed
  · rw [if_pos ‹_›]
  split at malformed
  · rw [if_neg ‹_›, if_pos ‹_›]
  · split at malformed
    · rename_i opens closes ends
      rw [if_neg opens, if_neg closes, if_pos ends]
    · exact absurd malformed nofun

/-- A token that fits its table selects the instance its keys name. -/
theorem selectByToken_byKeys (fits : dm.TokenFits inode token) :
    dm.selectByToken inode token = dm.selectByKeys inode token := by
  rw [selectByKeys]
  by_cases isKey : token.isKey = true
  · rw [if_pos isKey]
    cases closed : closedKey token with
    | none => exact selectByToken_stop isKey closed
    | some key =>
    rw [selectByToken_closed isKey closed]
    have parseFits := fits isKey key closed
    cases parsed : dm.parseKey inode key with
    | fault =>
      rw [parsed] at parseFits
      exact parseFits.elim
    | failed filled =>
      rw [parsed] at parseFits
      have none' : dm.getInstanceUsingKeyArray inode
          (filled.map some ++ List.replicate (keyCount key - filled.length) none) =
            some none := by
        rw [getInstanceUsingKeyArray, scanInstances_eq_scan]
        exact scan_none_iff.mpr parseFits
      simp only [parsed, givenOf, none']
    | parsed pairs =>
      rw [parsed] at parseFits
      simp only [parsed, givenOf, lookUp_eq_selected_iff.mpr parseFits]
  · rw [if_neg isKey, selectByToken, if_neg isKey]

theorem selectByKeys_fault (fits : dm.TokenFits inode token) :
    dm.selectByKeys inode token ≠ .fault := by
  rw [selectByKeys]
  by_cases isKey : token.isKey = true
  · rw [if_pos isKey]
    cases closed : closedKey token with
    | none => exact nofun
    | some key =>
    have parseFits := fits isKey key closed
    dsimp only
    cases parsed : dm.parseKey inode key with
    | fault =>
      rw [parsed] at parseFits
      exact parseFits.elim
    | failed filled => exact nofun
    | parsed pairs => exact nofun
  · rw [if_neg isKey]
    exact nofun

/-- The walk of `cmi_dm_get_inode_by_name_path` with equal keys. -/
def walkByKeys (memory : InodeMemory) : Nat → Dm → Nat → Parent → Bool → List PathToken →
    Option (Dm × Option Nat)
  | _, dm, current, _, _, [] => some (dm, some current)
  | created, dm, current, owner, prevTokenIsTable, token :: rest =>
    if prevTokenIsTable then
      match dm.selectByKeys current token with
      | .fault => none
      | .stop => some (dm, some current)
      | .select none => some (dm, none)
      | .select (some address) =>
        walkByKeys memory created dm current (.inst address) false rest
    else
      match dm.getChildInodeByName owner token.text with
      | some child =>
        walkByKeys memory created dm child (.inode child) (dm.inodeIsTable child) rest
      | none =>
        if memory.create created then
          match dm.getDmNodeFromInstancePath true token.upTo with
          | none => some (dm, none)
          | some node =>
            walkByKeys memory (created + 1) (dm.createInode owner node) dm.nextAddress
              (.inode dm.nextAddress) (dm.isTable node) rest
        else some (dm, none)

/-- Every key token on the way selects by equal keys, and, unless the walk may create them,
every node on the way is there. -/
def WalkFits (memory : InodeMemory) (mayCreate : Bool) :
    Nat → Dm → Nat → Parent → Bool → List PathToken → Prop
  | _, _, _, _, _, [] => True
  | created, dm, current, owner, prevTokenIsTable, token :: rest =>
    if prevTokenIsTable then
      dm.TokenFits current token ∧
        ∀ address, dm.selectByKeys current token = .select (some address) →
          WalkFits memory mayCreate created dm current (.inst address) false rest
    else
      match dm.getChildInodeByName owner token.text with
      | some child =>
        WalkFits memory mayCreate created dm child (.inode child) (dm.inodeIsTable child) rest
      | none =>
        memory.create created = true →
          ∀ node, dm.getDmNodeFromInstancePath true token.upTo = some node →
            mayCreate = true ∧
              WalkFits memory mayCreate (created + 1) (dm.createInode owner node)
                dm.nextAddress (.inode dm.nextAddress) (dm.isTable node) rest

variable {memory : InodeMemory} {mayCreate : Bool}

/-- A walk that fits does not fault and goes as equal keys say; it leaves the tree as it is
unless it may create nodes. -/
theorem walkInodes_byKeys {created current : Nat} {owner : Parent} {prevTokenIsTable : Bool}
    {tokens : List PathToken}
    (fits : WalkFits memory mayCreate created dm current owner prevTokenIsTable tokens) :
    walkInodes memory created dm current owner prevTokenIsTable tokens =
        walkByKeys memory created dm current owner prevTokenIsTable tokens ∧
      walkInodes memory created dm current owner prevTokenIsTable tokens ≠ none ∧
      (mayCreate = false →
        ∃ found, walkInodes memory created dm current owner prevTokenIsTable tokens =
          some (dm, found)) := by
  induction tokens generalizing created dm current owner prevTokenIsTable with
  | nil => exact ⟨rfl, nofun, fun _ => ⟨some current, rfl⟩⟩
  | cons token rest ih =>
  rw [WalkFits] at fits
  rw [walkInodes, walkByKeys]
  split at fits
  case isTrue isTable =>
    rw [if_pos isTable, if_pos isTable]
    obtain ⟨tokenFits, later⟩ := fits
    rw [selectByToken_byKeys tokenFits]
    cases chosen : dm.selectByKeys current token with
    | fault => exact absurd chosen (selectByKeys_fault tokenFits)
    | stop => exact ⟨rfl, nofun, fun _ => ⟨some current, rfl⟩⟩
    | select address =>
    cases address with
    | none => exact ⟨rfl, nofun, fun _ => ⟨none, rfl⟩⟩
    | some address => exact ih (later address chosen)
  case isFalse noTable =>
    rw [if_neg noTable, if_neg noTable]
    cases child : dm.getChildInodeByName owner token.text with
    | some child =>
      rw [child] at fits
      exact ih fits
    | none =>
    rw [child] at fits
    by_cases creates : memory.create created = true
    · rw [if_pos creates, if_pos creates]
      cases template : dm.getDmNodeFromInstancePath true token.upTo with
      | none => exact ⟨rfl, nofun, fun _ => ⟨none, rfl⟩⟩
      | some node =>
      obtain ⟨may, later⟩ := fits creates node template
      obtain ⟨byKeys, defined, -⟩ := ih later
      refine ⟨byKeys, defined, fun mayNot => ?_⟩
      rw [may] at mayNot
      exact absurd mayNot nofun
    · rw [if_neg creates, if_neg creates]
      exact ⟨rfl, nofun, fun _ => ⟨none, rfl⟩⟩

/-- `cmi_dm_get_inode_by_name_path` with equal keys. -/
def inodeByKeys (dm : Dm) (memory : InodeMemory) (path : CString) : Option (Dm × Option Nat) :=
  if path = [] then some (dm, none)
  else if memory.start = false then some (dm, none)
  else
    match dm.getDmNodeFromInstancePath true path with
    | none => some (dm, none)
    | some _ =>
      walkByKeys memory 0 dm dm.instTree (.inode dm.instTree) false (pathTokens path)

/-- The search for an internal node goes as equal keys say. -/
def SearchFits (dm : Dm) (memory : InodeMemory) (mayCreate : Bool) (path : CString) : Prop :=
  path ≠ [] → memory.start = true → dm.getDmNodeFromInstancePath true path ≠ none →
    WalkFits memory mayCreate 0 dm dm.instTree (.inode dm.instTree) false (pathTokens path)

theorem getInodeByNamePath_byKeys {path : CString} (fits : dm.SearchFits memory mayCreate path) :
    dm.getInodeByNamePath memory path = dm.inodeByKeys memory path ∧
      dm.getInodeByNamePath memory path ≠ none ∧
      (mayCreate = false → ∃ found, dm.getInodeByNamePath memory path = some (dm, found)) := by
  rw [getInodeByNamePath, inodeByKeys]
  by_cases empty : path = []
  · rw [if_pos empty, if_pos empty]
    exact ⟨rfl, nofun, fun _ => ⟨none, rfl⟩⟩
  rw [if_neg empty, if_neg empty]
  by_cases out : memory.start = false
  · rw [if_pos out, if_pos out]
    exact ⟨rfl, nofun, fun _ => ⟨none, rfl⟩⟩
  rw [if_neg out, if_neg out]
  cases template : dm.getDmNodeFromInstancePath true path with
  | none => exact ⟨rfl, nofun, fun _ => ⟨none, rfl⟩⟩
  | some node =>
    exact walkInodes_byKeys (fits empty (by simpa using out) (by rw [template]; exact nofun))

end Dm

end OpenFlowController.Cminfra
