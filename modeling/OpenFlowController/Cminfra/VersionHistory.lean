/-
Module: Cminfra.VersionHistory
Purpose: The history of configuration versions: a version for every committed session, the older
  half dropped when there are too many, the commands of a version, and the versions between two.
Source: cminfra/infra/je/basic/jever.c 55-405, 509-524; cminfra/infra/je/basic/jecfgses.c
  8211-8234
Trusted boundary: a command has its path, and copies of versions find memory
-/
import Mathlib
import OpenFlowController.Library.Run

namespace OpenFlowController.Cminfra

open Library

def cmMaxConsolidateVersion : Nat := 100

/-- `struct cm_vh_version`. -/
structure CmVhVersion (κ : Type) where
  version : Nat
  commandList : List κ

/-- `cm_vh_version_list_g`, newest first, with the version counters.  `added` are the commands
that were added to each version with success, `base` is the version the list started after. -/
structure VersionHistory (κ : Type) where
  versionList : List (CmVhVersion κ)
  runTimeVersion : Nat
  saveVersion : Nat
  cnsltdVersion : Nat
  added : Nat → List κ
  base : Nat

namespace VersionHistory

variable {κ : Type}

/-- `cm_vh_config_verion_init`. -/
def init : VersionHistory κ where
  versionList := []
  runTimeVersion := 0
  saveVersion := 0
  cnsltdVersion := 0
  added := fun _ => []
  base := 0

/-- The loop that deletes the last version so many times. -/
def deleteOlder : Nat → List (CmVhVersion κ) → List (CmVhVersion κ)
  | 0, list => list
  | count + 1, list => deleteOlder count list.dropLast

/-- `cm_vh_consolidate_config_versions`. -/
def consolidateConfigVersions (list : List (CmVhVersion κ)) : List (CmVhVersion κ) :=
  if list.length ≠ cmMaxConsolidateVersion then
    list
  else if list.length % 2 = 0 then
    deleteOlder (list.length / 2) list
  else
    deleteOlder (list.length / 2 + 1) list

/-- `cm_vh_create_new_config_version`. -/
def createNewConfigVersion (history : VersionHistory κ) (memory : Bool) : VersionHistory κ :=
  let version := history.runTimeVersion
  let versionNew := (version + 1) % 2 ^ 64
  let history :=
    if cmMaxConsolidateVersion / 2 ≤ (version + 2 ^ 64 - history.cnsltdVersion) % 2 ^ 64 then
      { history with
        versionList := consolidateConfigVersions history.versionList
        cnsltdVersion := version }
    else
      history
  if memory then
    { history with
      versionList := { version := versionNew, commandList := [] } :: history.versionList
      runTimeVersion := versionNew }
  else
    history

/-- The scan of `cm_vh_add_command_to_config_version`. -/
def appendCommand (version : Nat) (command : κ) :
    List (CmVhVersion κ) → Option (List (CmVhVersion κ))
  | [] => none
  | held :: rest =>
    if held.version = version then
      some ({ held with commandList := held.commandList ++ [command] } :: rest)
    else
      (appendCommand version command rest).map (held :: ·)

/-- `cm_vh_add_command_to_config_version`, and whether it succeeds. -/
def addCommandToConfigVersion (history : VersionHistory κ) (version : Nat) (command : κ)
    (memory : Bool) : VersionHistory κ × Bool :=
  if history.runTimeVersion < version then
    (history, false)
  else if memory = false then
    (history, false)
  else
    match appendCommand version command history.versionList with
    | none => (history, false)
    | some list =>
      ({ history with
          versionList := list
          added := Function.update history.added version (history.added version ++ [command]) },
        true)

/-- `vh_is_version_available`. -/
def isVersionAvailable (history : VersionHistory κ) (version : Nat) : Bool :=
  history.versionList.any fun held => held.version = version

/-- The scan for the first version, with the versions before it in the list, nearest first. -/
def scanStart (version : Nat) (newer : List (CmVhVersion κ)) :
    List (CmVhVersion κ) → Option (CmVhVersion κ × List (CmVhVersion κ))
  | [] => none
  | held :: older =>
    if held.version = version then some (held, newer) else scanStart version (held :: newer) older

/-- The loop along `CM_DLLQ_PREV`, which stays where it is at a version past the last one. -/
def copyNewer (endVersion count : Nat) :
    Nat → List (CmVhVersion κ) → List (CmVhVersion κ) → Option (List (CmVhVersion κ))
  | 0, _, _ => none
  | _ + 1, [], copied => some copied
  | fuel + 1, held :: newer, copied =>
    if held.version ≤ endVersion then
      if count = copied.length + 1 then
        some (copied ++ [held])
      else
        copyNewer endVersion count fuel newer (copied ++ [held])
    else if count = copied.length then
      some copied
    else
      copyNewer endVersion count fuel (held :: newer) copied

/-- `cm_vh_get_delta_version_history_t`: the copied versions, or `none` when it fails. -/
def getDeltaVersionHistory (history : VersionHistory κ) (fromVersion endVersion : Nat) :
    Option (List (CmVhVersion κ)) :=
  if endVersion < fromVersion then none
  else if history.runTimeVersion < fromVersion ∨ history.runTimeVersion < endVersion then none
  else if history.isVersionAvailable fromVersion = false then none
  else if history.isVersionAvailable endVersion = false then none
  else
    let count := (endVersion - fromVersion + 1) % 2 ^ 32
    match scanStart fromVersion [] history.versionList with
    | none => some []
    | some (start, newer) =>
      if count = 1 then some [start]
      else copyNewer endVersion count (newer.length + 1) newer [start]

/-! ## Runs -/

/-- `notify` is a load or save that completed, with the version it tells. -/
inductive Event (κ : Type) where
  | create (memory : Bool)
  | addCommand (version : Nat) (command : κ) (memory : Bool)
  | notify (version : Nat)

def step (history : VersionHistory κ) : Event κ → VersionHistory κ
  | .create memory => history.createNewConfigVersion memory
  | .addCommand version command memory =>
    (history.addCommandToConfigVersion version command memory).1
  | .notify version =>
    { history with
      saveVersion := version
      runTimeVersion := version
      base := if history.versionList = [] then version else history.base }

/-- What is saved is the running version.  Another one is loaded only into an empty history, and
then it is due for a consolidation: else the halving waits for a count that never comes.  The
number of a new version does not come round to 0. -/
def Event.Fits (history : VersionHistory κ) : Event κ → Prop
  | .create _ => history.runTimeVersion + 1 < 2 ^ 64
  | .notify version =>
    version = history.runTimeVersion ∨
      history.versionList = [] ∧ history.cnsltdVersion + 50 ≤ version ∧ version < 2 ^ 64
  | .addCommand .. => True

/-- The versions that are held, oldest first. -/
def versions (history : VersionHistory κ) : List Nat :=
  history.versionList.reverse.map (·.version)

/-- The newest versions are held, as many as the last consolidation left and came since. -/
structure Inv (history : VersionHistory κ) : Prop where
  versions : history.versions = List.range'
    (history.runTimeVersion + 1 - history.versionList.length) history.versionList.length
  count : history.versionList.length = 0 ∧ history.base = history.runTimeVersion ∧
      history.cnsltdVersion + 50 ≤ history.runTimeVersion ∧ history.runTimeVersion < 2 ^ 64 ∨
    (history.cnsltdVersion ≤ history.runTimeVersion ∧
        history.runTimeVersion ≤ history.cnsltdVersion + 50) ∧
      (history.base = history.cnsltdVersion ∧
          history.versionList.length + history.base = history.runTimeVersion ∨
        history.base + 50 ≤ history.cnsltdVersion ∧
          history.versionList.length + history.cnsltdVersion = 50 + history.runTimeVersion)
  commands : ∀ held ∈ history.versionList, held.commandList = history.added held.version
  unborn : ∀ version, version ≤ history.base ∨ history.runTimeVersion < version →
    history.added version = []

theorem deleteOlder_eq (count : Nat) (list : List (CmVhVersion κ)) :
    deleteOlder count list = list.take (list.length - count) := by
  induction count generalizing list with
  | zero => simp [deleteOlder]
  | succ count ih =>
    rw [deleteOlder, ih, List.dropLast_eq_take, List.take_take, List.length_take]
    congr 1
    omega

/-- The version of this number gets the command. -/
def CmVhVersion.receive (version : Nat) (command : κ) (held : CmVhVersion κ) : CmVhVersion κ :=
  if held.version = version then
    { held with commandList := held.commandList ++ [command] }
  else
    held

theorem receive_version (version : Nat) (command : κ) (held : CmVhVersion κ) :
    (CmVhVersion.receive version command held).version = held.version := by
  unfold CmVhVersion.receive
  split <;> rfl

theorem appendCommand_eq {version : Nat} {command : κ} {list : List (CmVhVersion κ)}
    (once : (list.map (·.version)).Nodup) :
    appendCommand version command list =
      if version ∈ list.map (·.version) then some (list.map (CmVhVersion.receive version command))
      else none := by
  induction list with
  | nil => rfl
  | cons first rest ih =>
    obtain ⟨absent, restOnce⟩ := List.nodup_cons.mp once
    have absent : first.version ∉ rest.map (·.version) := absent
    by_cases here : first.version = version
    · have kept : rest.map (CmVhVersion.receive version command) = rest := by
        apply (List.map_congr_left fun held member => ?_).trans (List.map_id _)
        have other : held.version ≠ version := by
          intro same
          rw [here, ← same] at absent
          exact absent (List.mem_map_of_mem member)
        simp [CmVhVersion.receive, other]
      simp [appendCommand, CmVhVersion.receive, here, kept]
    · have other : version ≠ first.version := fun same => here same.symm
      rw [appendCommand, if_neg here, ih restOnce]
      by_cases later : version ∈ rest.map (·.version)
      · simp [later, CmVhVersion.receive, here]
      · simp [later, other]

namespace Inv

theorem init : Inv (.init : VersionHistory κ) where
  versions := rfl
  count := .inr ⟨⟨Nat.le_refl _, Nat.zero_le _⟩, .inl ⟨rfl, rfl⟩⟩
  commands := nofun
  unborn := fun _ _ => rfl

variable {history : VersionHistory κ} (inv : Inv history)

include inv

theorem length_le : history.versionList.length ≤ cmMaxConsolidateVersion := by
  have count := inv.count
  unfold cmMaxConsolidateVersion
  omega

theorem length_le_version : history.versionList.length + history.base ≤ history.runTimeVersion := by
  have count := inv.count
  omega

theorem once : (history.versionList.map (·.version)).Nodup := by
  have ascending : history.versions.Nodup := by
    rw [inv.versions]
    exact List.nodup_range'
  rwa [VersionHistory.versions, List.map_reverse, List.nodup_reverse] at ascending

theorem held_version {version : Nat} (held : version ∈ history.versionList.map (·.version)) :
    history.base < version ∧ version ≤ history.runTimeVersion := by
  have fits := inv.length_le_version
  rw [← List.mem_reverse, ← List.map_reverse, ← VersionHistory.versions, inv.versions,
    List.mem_range'_1] at held
  omega

/-- A command added to a version keeps the invariant. -/
theorem addCommand (version : Nat) (command : κ) (memory : Bool) :
    Inv (history.addCommandToConfigVersion version command memory).1 := by
  unfold addCommandToConfigVersion
  split
  · exact inv
  · split
    · exact inv
    · rw [appendCommand_eq inv.once]
      split
      · exact inv
      · rename_i list appended
        split at appended
        · rename_i there
          rw [← Option.some.inj appended]
          constructor
          case versions =>
            have same : (history.versionList.map (CmVhVersion.receive version command)).reverse.map
                (·.version) = history.versions := by
              simp [VersionHistory.versions, receive_version]
            simpa [VersionHistory.versions, same] using inv.versions
          case count => simpa using inv.count
          case commands =>
            intro held member
            obtain ⟨before, there, rfl⟩ := List.mem_map.mp member
            have commands := inv.commands before there
            by_cases here : before.version = version
            · rw [here] at commands
              simp [CmVhVersion.receive, here, commands]
            · simp [CmVhVersion.receive, here, commands]
          case unborn =>
            intro outside apart
            have other : outside ≠ version := by
              have inside := inv.held_version there
              simp only at apart
              omega
            simpa [other] using inv.unborn outside apart
        · cases appended

/-- The fiftieth version consolidates the older ones and keeps the invariant. -/
theorem consolidate
    (full : 50 ≤ history.runTimeVersion - history.cnsltdVersion) :
    Inv
      { history with
        versionList := consolidateConfigVersions history.versionList
        cnsltdVersion := history.runTimeVersion } := by
  have count := inv.count
  by_cases many : history.versionList.length = 100
  · have halved : consolidateConfigVersions history.versionList =
        history.versionList.take 50 := by
      simp [consolidateConfigVersions, cmMaxConsolidateVersion, many, deleteOlder_eq]
    rw [halved]
    constructor
    case versions =>
      have versions := inv.versions
      have least : history.runTimeVersion + 1 - 100 + 1 * 50 =
          history.runTimeVersion + 1 - 50 := by omega
      rw [VersionHistory.versions, many] at versions
      simp only [VersionHistory.versions, List.reverse_take, many, List.map_drop, versions,
        List.drop_range', List.length_take, least]
      rfl
    case count =>
      simp only [List.length_take, many]
      omega
    case commands =>
      intro held member
      exact inv.commands held (List.mem_of_mem_take member)
    case unborn => exact inv.unborn
  · have kept : consolidateConfigVersions history.versionList = history.versionList :=
      if_pos many
    rw [kept]
    exact { inv with
      count := by simp only; omega
      versions := inv.versions }

/-- A version before the fiftieth keeps the invariant. -/
theorem prepend (room : history.runTimeVersion - history.cnsltdVersion < 50) :
    Inv
      { history with
        versionList :=
          { version := history.runTimeVersion + 1, commandList := [] } :: history.versionList
        runTimeVersion := history.runTimeVersion + 1 } := by
  have count := inv.count
  have fits := inv.length_le_version
  constructor
  case versions =>
    have versions := inv.versions
    have same : history.runTimeVersion + 1 + 1 - (history.versionList.length + 1) =
        history.runTimeVersion + 1 - history.versionList.length := by omega
    have last : history.runTimeVersion + 1 - history.versionList.length +
        1 * history.versionList.length = history.runTimeVersion + 1 := by omega
    rw [VersionHistory.versions] at versions
    simp only [VersionHistory.versions, List.reverse_cons, List.map_append, List.length_cons, same,
      List.range'_concat, versions, last]
    rfl
  case count =>
    simp only [List.length_cons]
    omega
  case commands =>
    intro held member
    rcases List.mem_cons.mp member with new | old
    · rw [new]
      exact (inv.unborn _ (.inr (Nat.lt_succ_self _))).symm
    · exact inv.commands held old
  case unborn => exact fun version apart => inv.unborn version (apart.imp_right Nat.lt_of_succ_lt)

/-- A version whose number is not the last of all keeps the invariant. -/
theorem create (memory : Bool) (below : history.runTimeVersion + 1 < 2 ^ 64) :
    Inv (history.createNewConfigVersion memory) := by
  have count := inv.count
  have since : (history.runTimeVersion + 2 ^ 64 - history.cnsltdVersion) % 2 ^ 64 =
      history.runTimeVersion - history.cnsltdVersion := by omega
  unfold createNewConfigVersion
  dsimp only
  rw [since, Nat.mod_eq_of_lt below]
  by_cases full : cmMaxConsolidateVersion / 2 ≤ history.runTimeVersion - history.cnsltdVersion
  · have consolidated := inv.consolidate full
    rw [if_pos full]
    cases memory with
    | true => exact consolidated.prepend (by simp)
    | false => exact consolidated
  · rw [if_neg full]
    cases memory with
    | true => exact inv.prepend (Nat.lt_of_not_le full)
    | false => exact inv

/-- Every event that fits keeps the invariant. -/
theorem step {event : Event κ} (fits : event.Fits history) : Inv (history.step event) := by
  cases event with
  | create memory => exact inv.create memory fits
  | addCommand version command memory => exact inv.addCommand version command memory
  | notify version =>
    by_cases none : history.versionList = []
    · have started : history.base = history.runTimeVersion := by
        have count := inv.count
        simp only [none, List.length_nil] at count
        omega
      constructor
      case versions => simp [VersionHistory.versions, VersionHistory.step, none]
      case count =>
        have count := inv.count
        simp only [VersionHistory.step, none, List.length_nil, if_true, true_and] at count ⊢
        rcases fits with same | ⟨_, due, small⟩
        · omega
        · exact .inl ⟨due, small⟩
      case commands => simp [VersionHistory.step, none]
      case unborn => exact fun version _ => inv.unborn version (by omega)
    · rcases fits with rfl | ⟨empty, _⟩
      · constructor
        case versions => exact inv.versions
        case count => simpa [VersionHistory.step, none] using inv.count
        case commands => exact inv.commands
        case unborn => simpa [VersionHistory.step, none] using inv.unborn
      · exact absurd empty none

end Inv

theorem inv_run {events : List (Event κ)}
    (fits : Along step (fun history event => event.Fits history) .init events) :
    Inv (events.foldl step .init) :=
  Along.invariant (fun _ _ inv fits => inv.step fits) Inv.init fits

/-- In every run whose loads, saves and new numbers fit, the history holds the newest versions since it
started, at least 50 and at most 100 when there are that many, each with just the commands added
to it in their order. -/
theorem newest_versions_held (events : List (Event κ))
    (fits : Along step (fun history event => event.Fits history) .init events) :
    let history := events.foldl step .init
    history.versions = List.range'
        (history.runTimeVersion + 1 - history.versionList.length) history.versionList.length ∧
      min 50 (history.runTimeVersion - history.base) ≤ history.versionList.length ∧
      history.versionList.length ≤
        min cmMaxConsolidateVersion (history.runTimeVersion - history.base) ∧
      ∀ held ∈ history.versionList, held.commandList = history.added held.version := by
  intro history
  have inv : Inv history := inv_run fits
  have count := inv.count
  refine ⟨inv.versions, by omega, ?_, inv.commands⟩
  exact Nat.le_min.mpr ⟨inv.length_le, Nat.le_sub_of_add_le inv.length_le_version⟩

/-- Three versions, with a command and a save behind the second. -/
def savedRun : List (Event Nat) :=
  [.create true, .create true, .addCommand 2 7 true, .notify 2, .create true]

theorem savedRun_fits :
    Along step (fun history event => event.Fits history) .init savedRun := by
  refine ⟨?_, ?_, trivial, .inl rfl, ?_, trivial⟩
  · show 0 + 1 < 2 ^ 64
    decide
  · show 1 + 1 < 2 ^ 64
    decide
  · show 2 + 1 < 2 ^ 64
    decide

theorem newest_versions_held_saved :
    let history := savedRun.foldl step .init
    history.versions = List.range'
        (history.runTimeVersion + 1 - history.versionList.length) history.versionList.length ∧
      min 50 (history.runTimeVersion - history.base) ≤ history.versionList.length ∧
      history.versionList.length ≤
        min cmMaxConsolidateVersion (history.runTimeVersion - history.base) ∧
      ∀ held ∈ history.versionList, held.commandList = history.added held.version :=
  newest_versions_held savedRun savedRun_fits

/-! ## The versions between two -/

theorem scanStart_eq {start : CmVhVersion κ} {front back newer : List (CmVhVersion κ)}
    (apart : ∀ held ∈ front, held.version ≠ start.version) :
    scanStart start.version newer (front ++ start :: back) =
      some (start, front.reverse ++ newer) := by
  induction front generalizing newer with
  | nil => simp [scanStart]
  | cons held rest ih =>
    obtain ⟨other, apart⟩ := List.forall_mem_cons.mp apart
    simp [scanStart, other, ih apart]

theorem copyNewer_eq {endVersion start left fuel : Nat} {newer copied : List (CmVhVersion κ)}
    (ascending : newer.map (·.version) = List.range' start newer.length) (positive : 0 < left)
    (there : left ≤ newer.length) (last : start + left = endVersion + 1) (enough : left ≤ fuel) :
    copyNewer endVersion (copied.length + left) fuel newer copied =
      some (copied ++ newer.take left) := by
  induction newer generalizing copied start left fuel with
  | nil => exact absurd there (Nat.not_le_of_lt positive)
  | cons held rest ih =>
    have some_ := Nat.lt_of_lt_of_le positive enough
    obtain ⟨fuel, rfl⟩ := Nat.exists_eq_succ_of_ne_zero (Nat.ne_of_gt some_)
    obtain ⟨left, rfl⟩ := Nat.exists_eq_succ_of_ne_zero (Nat.ne_of_gt positive)
    rw [List.map_cons, List.length_cons, List.range'_succ] at ascending
    obtain ⟨here, later⟩ := List.cons.inj ascending
    have reached : held.version ≤ endVersion := by omega
    rw [copyNewer, if_pos reached]
    by_cases done : left = 0
    · simp [done]
    · have more : copied.length + (left + 1) ≠ copied.length + 1 := by omega
      have count : copied.length + (left + 1) = (copied ++ [held]).length + left := by
        simp only [List.length_append, List.length_singleton]
        omega
      rw [if_neg more, count, ih later (Nat.pos_of_ne_zero done) (Nat.le_of_succ_le_succ there)
        (by omega) (Nat.le_of_succ_le_succ enough)]
      simp

theorem isVersionAvailable_iff {history : VersionHistory κ} {version : Nat} :
    history.isVersionAvailable version = true ↔ version ∈ history.versions := by
  simp [isVersionAvailable, versions]

/-- The list around a version that is held. -/
theorem Inv.splits {history : VersionHistory κ} (inv : Inv history) {version : Nat}
    (held : version ∈ history.versions) :
    ∃ (newer : List (CmVhVersion κ)) (found : CmVhVersion κ) (older : List (CmVhVersion κ)),
      history.versionList = newer.reverse ++ found :: older ∧ found.version = version ∧
      newer.map (·.version) = List.range' (version + 1) (history.runTimeVersion - version) := by
  have fits := inv.length_le_version
  have versions := inv.versions
  rw [versions, List.mem_range'_1] at held
  generalize oldest : history.runTimeVersion + 1 - history.versionList.length = start
    at held versions
  obtain ⟨before, rfl⟩ := Nat.exists_eq_add_of_le held.1
  obtain ⟨after, many⟩ := Nat.exists_eq_add_of_lt (Nat.lt_of_add_lt_add_left held.2)
  have parted : List.range' start history.versionList.length =
      List.range' start before ++ (start + before) :: List.range' (start + before + 1) after := by
    rw [many, Nat.add_assoc, ← List.range'_append_1, List.range'_succ]
  rw [parted, VersionHistory.versions] at versions
  obtain ⟨older, rest, parts, _, rest'⟩ := List.map_eq_append_iff.mp versions
  obtain ⟨found, newer, rfl, number, newerVersions⟩ := List.map_eq_cons_iff.mp rest'
  have left : after = history.runTimeVersion - (start + before) := by omega
  refine ⟨newer, found, older.reverse, ?_, number, ?_⟩
  · rw [← List.reverse_reverse history.versionList, parts]
    simp
  · rw [newerVersions, left]

/-- Two held versions in order have exactly the versions between them as their delta. -/
theorem Inv.delta {history : VersionHistory κ} (inv : Inv history) {fromVersion endVersion : Nat}
    (ordered : fromVersion ≤ endVersion) (first : fromVersion ∈ history.versions)
    (last : endVersion ∈ history.versions) :
    ∃ result, history.getDeltaVersionHistory fromVersion endVersion = some result ∧
      result.map (·.version) = List.range' fromVersion (endVersion + 1 - fromVersion) ∧
      ∀ held ∈ result, held ∈ history.versionList := by
  have available := isVersionAvailable_iff.mpr first
  have available' := isVersionAvailable_iff.mpr last
  have short : history.versionList.length ≤ 100 := inv.length_le
  have fits := inv.length_le_version
  obtain ⟨newer, found, older, list, foundVersion, newerVersions⟩ := inv.splits first
  rw [inv.versions, List.mem_range'_1] at first last
  obtain ⟨more, rfl⟩ := Nat.exists_eq_add_of_le ordered
  have newerLength : newer.length = history.runTimeVersion - fromVersion := by
    simpa using congrArg List.length newerVersions
  rw [← newerLength] at newerVersions
  have apart : ∀ other ∈ newer.reverse, other.version ≠ found.version := by
    intro other member
    have number := List.mem_map_of_mem (f := (·.version)) (List.mem_reverse.mp member)
    rw [newerVersions, List.mem_range'_1] at number
    rw [foundVersion]
    omega
  have scanned : scanStart found.version [] history.versionList = some (found, newer) := by
    rw [list, scanStart_eq apart, List.reverse_reverse, List.append_nil]
  rw [foundVersion] at scanned
  have count : (fromVersion + more - fromVersion + 1) % 2 ^ 32 = more + 1 := by omega
  have asked : ¬ (history.runTimeVersion < fromVersion ∨
      history.runTimeVersion < fromVersion + more) := by omega
  have within : ∀ other ∈ found :: newer.take more, other ∈ history.versionList := by
    intro other member
    rw [list]
    rcases List.mem_cons.mp member with here | later
    · simp [here]
    · simp [List.mem_of_mem_take later]
  refine ⟨found :: newer.take more, ?_, ?_, within⟩
  · simp only [getDeltaVersionHistory, if_neg (Nat.not_lt_of_le ordered), if_neg asked, available,
      available', scanned, count]
    by_cases alone : more = 0
    · simp [alone]
    · have copied : copyNewer (fromVersion + more) ([found].length + more) (newer.length + 1)
          newer [found] = some ([found] ++ newer.take more) :=
        copyNewer_eq newerVersions (Nat.pos_of_ne_zero alone) (by omega) (by omega) (by omega)
      rw [List.length_singleton, Nat.add_comm 1 more] at copied
      simp [alone, copied]
  · have size : fromVersion + more + 1 - fromVersion = more + 1 := by omega
    rw [size, List.map_cons, foundVersion, List.map_take, newerVersions, List.range'_succ,
      List.take_range'_of_length_ge (by omega)]

/-- In such a run the versions between two are copied exactly where both are held and in order:
each version from the first to the last, oldest first, with its commands. -/
theorem version_delta_exact (events : List (Event κ))
    (fits : Along step (fun history event => event.Fits history) .init events)
    (fromVersion endVersion : Nat) :
    let history := events.foldl step .init
    let asked := fromVersion ≤ endVersion ∧ fromVersion ∈ history.versions ∧
      endVersion ∈ history.versions
    (asked → ∃ result, history.getDeltaVersionHistory fromVersion endVersion = some result ∧
      result.map (·.version) = List.range' fromVersion (endVersion + 1 - fromVersion) ∧
      ∀ held ∈ result, held.commandList = history.added held.version) ∧
    (¬ asked → history.getDeltaVersionHistory fromVersion endVersion = none) := by
  intro history asked
  have inv : Inv history := inv_run fits
  constructor
  · rintro ⟨ordered, first, last⟩
    obtain ⟨result, copied, numbered, held⟩ := inv.delta ordered first last
    exact ⟨result, copied, numbered, fun version member => inv.commands version (held version member)⟩
  · intro missing
    unfold getDeltaVersionHistory
    split
    · rfl
    split
    · rfl
    split
    · rfl
    split
    · rfl
    · rename_i ordered _ first last
      simp only [Bool.not_eq_false, isVersionAvailable_iff] at first last
      exact absurd ⟨Nat.le_of_not_lt ordered, first, last⟩ missing

theorem version_delta_exact_saved :
    let history := savedRun.foldl step .init
    let asked := 1 ≤ 3 ∧ 1 ∈ history.versions ∧ 3 ∈ history.versions
    (asked → ∃ result, history.getDeltaVersionHistory 1 3 = some result ∧
      result.map (·.version) = List.range' 1 (3 + 1 - 1) ∧
      ∀ held ∈ result, held.commandList = history.added held.version) ∧
    (¬ asked → history.getDeltaVersionHistory 1 3 = none) :=
  version_delta_exact savedRun savedRun_fits 1 3

end VersionHistory

end OpenFlowController.Cminfra
