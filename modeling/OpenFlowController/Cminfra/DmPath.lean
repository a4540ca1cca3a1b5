/-
Module: Cminfra.DmPath
Purpose: Data-model paths as strings: the tokens that a path is read as, the path without
  its keys, the names and values that a key token holds, and which names the tokenizer reads
  back from a path that joins them with dots.
Source: cminfra/infra/dm/basic/dmparse.c 46-118 (cmi_dm_get_path_token); dminst.c 2133-2166
  (cmi_dm_remove_keys_from_path); dmtree.c 4087-4118, 4474-4490, 5255-5485
  (cmi_dm_get_key_array_from_namepathToken); lxos/basic/cmoswrp.c 285-293, 507-525 (of_atoi,
  of_atol, char_To64bitNum); include/infra/dm/dmgdef.h 62, 301-314
Trusted boundary: a string is the list of its characters, a read through a null pointer or past a
  string is a fault, tokens fit the buffers of the callers, allocations whose failure is not
  checked succeed
-/
import OpenFlowController.Library.Run

namespace OpenFlowController.Cminfra

/-- A C string, without its NUL. -/
abbrev CString := List Char

/-! ## Tokens -/

/-- The loop of `cmi_dm_get_path_token` after the first character: `instStart` says that
the token is a key, `instEnd` that the key was closed.  The result is the token and what
follows it. -/
def scanToken (instStart : Bool) : Bool → CString → CString × CString
  | _, [] => ([], [])
  | instEnd, c :: rest =>
    if c = '.' ∧ (instStart = false ∨ instEnd = true) then ([], rest)
    else if c = '{' then ([], c :: rest)
    else
      let scanned := scanToken instStart (instEnd || (instStart && c = '}')) rest
      (c :: scanned.1, scanned.2)

/-- `cmi_dm_get_path_token` on what is left of the path; the path is parsed completely where
nothing follows the token. -/
def getPathToken : CString → CString × CString
  | [] => ([], [])
  | c :: rest =>
    if c = '.' then ([], rest)
    else
      let scanned := scanToken (c = '{') false rest
      (c :: scanned.1, scanned.2)

/-- A token of a path, and the path up to the index that the tokenizer leaves. -/
structure PathToken where
  text : CString
  upTo : CString
deriving DecidableEq

/-- A token that starts with `{`. -/
def PathToken.isKey (token : PathToken) : Bool :=
  token.text.head? = some '{'

/-- The tokens of `rest`, which ends `path`, until the path is parsed completely. -/
def tokensFrom (path : CString) : Nat → CString → List PathToken
  | 0, _ => []
  | fuel + 1, rest =>
    let scanned := getPathToken rest
    let token : PathToken :=
      { text := scanned.1, upTo := path.take (path.length - scanned.2.length) }
    if scanned.2 = [] then [token] else token :: tokensFrom path fuel scanned.2

/-- Every caller takes tokens until the path is parsed completely. -/
def pathTokens (path : CString) : List PathToken :=
  tokensFrom path (path.length + 1) path

theorem scanToken_length_le (instStart instEnd : Bool) (rest : CString) :
    (scanToken instStart instEnd rest).2.length ≤ rest.length := by
  induction rest generalizing instEnd with
  | nil => simp [scanToken]
  | cons c rest ih =>
  rw [scanToken]
  split
  · simp
  · split
    · simp
    · exact Nat.le_succ_of_le (ih _)

theorem getPathToken_length_lt {rest : CString} (some' : rest ≠ []) :
    (getPathToken rest).2.length < rest.length := by
  cases rest with
  | nil => exact absurd rfl some'
  | cons c rest =>
  rw [getPathToken]
  split
  · simp
  · exact Nat.lt_succ_of_le (scanToken_length_le _ _ rest)

theorem tokensFrom_fuel {path rest : CString} {fuel more : Nat} (enough : rest.length < fuel)
    (enough' : rest.length < more) : tokensFrom path fuel rest = tokensFrom path more rest := by
  refine Library.fuel_enough List.length (fun {fuel more rest} ih => ?_) enough enough'
  rw [tokensFrom, tokensFrom]
  by_cases complete : (getPathToken rest).2 = []
  · simp [complete]
  have nonempty : rest ≠ [] := by
    rintro rfl
    exact complete rfl
  rw [ih _ (getPathToken_length_lt nonempty)]

/-! ## The path without its keys -/

/-- The loop of `cmi_dm_remove_keys_from_path`. -/
def removeKeys : Bool → CString → CString
  | _, [] => []
  | skip, c :: rest =>
    if c = '{' then removeKeys true rest
    else if c = '}' then removeKeys false rest
    else if skip then removeKeys skip rest
    else c :: removeKeys skip rest

/-- `cmi_dm_remove_keys_from_path` for the whole string. -/
def removeKeysFromPath (path : CString) : CString :=
  removeKeys false path

/-! ## Names and values of keys -/

/-- `CM_DATA_TYPE_*`. -/
inductive DataType where
  | unknown
  | string
  | int
  | uint
  | boolean
  | datetime
  | base64
  | ipaddr
  | ipv6addr
  | excludingXmlstrings
  | stringSpecialChars
  | stringPassword
  | int64
  | uint64
deriving DecidableEq

/-- `struct cm_nv_pair` with its name and value allocated; `calloc` leaves a pair that is
not filled, which is `none` where pairs are optional. -/
structure NvPair where
  name : CString
  valueType : DataType
  value : CString
deriving DecidableEq

def cmDmMaxKeyInstances : Nat := 5

/-- One pair after another is cut by `of_strtok` at `=`, then to the next comma, and the
character at the length of the name is set back to `=`.  The result is the name, the value
and what the buffer holds then; with nothing but `=` the name is a null pointer. -/
def strtokPair (segment : CString) : Option (CString × Option CString × CString) :=
  let skipped := segment.takeWhile (· = '=')
  let body := segment.dropWhile (· = '=')
  if body = [] then none
  else
    let name := body.takeWhile (· ≠ '=')
    let found := decide ('=' ∈ body)
    let value := (((body.dropWhile (· ≠ '=')).drop 1).dropWhile (· = ',')).takeWhile (· ≠ ',')
    let cut := if found then skipped ++ name else segment
    let restored :=
      if skipped = [] then (if found then segment else segment ++ ['='])
      else cut.set name.length '='
    some (name, if value = [] then none else some value, restored)

/-- What the scan for one key child finds. -/
inductive KeyScan where
  | fault
  | missing (segments : List CString)
  | found (value : CString) (segments : List CString)
deriving DecidableEq

/-- The scan over the segments for the child `name`. -/
def scanSegments (name : CString) : List CString → KeyScan
  | [] => .missing []
  | segment :: rest =>
    match strtokPair segment with
    | none => .fault
    | some (keyName, value, restored) =>
      if name = keyName then
        match value with
        | none => .fault
        | some value => .found value (restored :: rest)
      else
        match scanSegments name rest with
        | .fault => .fault
        | .missing rest' => .missing (restored :: rest')
        | .found value rest' => .found value (restored :: rest')

/-- What a parse of a key token leaves in the array of pairs. -/
inductive KeyParse where
  | fault
  | failed (filled : List NvPair)
  | parsed (pairs : List NvPair)
deriving DecidableEq

/-- The scan over the key children where the token holds several keys. -/
def fillKeys : List (CString × DataType) → List CString → List NvPair → KeyParse
  | [], _, filled => .parsed filled
  | (name, dataType) :: rest, segments, filled =>
    match scanSegments name segments with
    | .fault => .fault
    | .missing _ => .failed filled
    | .found value segments' =>
      fillKeys rest segments' (filled ++ [{ name, valueType := dataType, value }])

/-- The commas of a token before its first `}`, and one. -/
def tokenKeyCount (token : CString) : Nat :=
  ((token.takeWhile (· ≠ '}')).filter (· = ',')).length + 1

/-- The text of a token from which the opening brace, or a comma, is dropped. -/
def dropOpening : CString → CString
  | [] => []
  | c :: rest => if c = '{' ∨ c = ',' then rest else c :: rest

/-- The segments into which a token of several keys is copied. -/
def keySegments : Nat → CString → List CString
  | 0, _ => []
  | count + 1, text =>
    let body := dropOpening text
    let segment := body.takeWhile (fun c => c ≠ ',' ∧ c ≠ '}')
    segment :: keySegments count (body.drop segment.length)

/-- `cmi_dm_get_key_array_from_namepathToken`; `keyChildren` are the names and types of the
key children of the table, none where the node is no table.  A single key needs no name. -/
def getKeyArrayFromNamepathToken (token : CString) (keyChildren : List (CString × DataType)) :
    KeyParse :=
  let count := tokenKeyCount token
  if token.takeWhile (· ≠ '}') = [] then .failed []
  else if keyChildren.length ≠ count then .failed []
  else if count = 1 then
    let text := if token.head? = some '{' then token.drop 1 else token
    let value := text.takeWhile (· ≠ '}')
    if value = [] then .failed []
    else .parsed (keyChildren.map fun child =>
      { name := child.1, valueType := child.2, value })
  else if cmDmMaxKeyInstances < count then .fault
  else fillKeys keyChildren (keySegments count token) []

/-! ## Comparing values -/

/-- The decimal digits that `strtol` reads. -/
def digitsValue : Nat → CString → Nat
  | value, [] => value
  | value, c :: rest => if c.isDigit then digitsValue (value * 10 + (c.toNat - 48)) rest else value

def isSpace (c : Char) : Bool :=
  c = ' ' ∨ (9 ≤ c.toNat ∧ c.toNat ≤ 13)

/-- `strtol` with base 10 on a 64-bit `long`. -/
def strtol (text : CString) : Int :=
  let body := text.dropWhile isSpace
  let negative := body.head? = some '-'
  let digits := if body.head? = some '-' ∨ body.head? = some '+' then body.drop 1 else body
  let value : Int := digitsValue 0 digits
  if negative then max (-value) (-9223372036854775808) else min value 9223372036854775807

/-- `of_atoi` and `of_atol`, stored in a 32-bit variable. -/
def ofAtoi (text : CString) : UInt32 :=
  UInt32.ofInt (strtol text)

/-- `num_value`; `OF_FAILURE` is all ones. -/
def numValue (c : Char) : UInt64 :=
  if '0' ≤ c ∧ c ≤ '9' then (c.toNat - 48).toUInt64
  else if 'a' ≤ c ∧ c ≤ 'f' then (c.toNat - 87).toUInt64
  else if 'A' ≤ c ∧ c ≤ 'F' then (c.toNat - 55).toUInt64
  else 0xFFFFFFFFFFFFFFFF

def charTo64bitNum (text : CString) : UInt64 :=
  text.foldl (fun res c => (res <<< 4) ||| numValue c) 0

/-- How `cmi_dm_get_instance_using_keyArray` compares a given pair with one of an
instance. -/
def keyValueMatches (given stored : NvPair) : Bool :=
  if given.valueType = .int ∧ stored.valueType = .int then
    ofAtoi given.value = ofAtoi stored.value
  else if given.valueType = .uint ∧ stored.valueType = .uint then
    ofAtoi given.value = ofAtoi stored.value
  else if given.valueType = .int64 ∧ stored.valueType = .int64 then
    ofAtoi given.value = ofAtoi stored.value
  else if given.valueType = .uint64 ∧ stored.valueType = .uint64 then
    (charTo64bitNum given.value).toUInt32 = (charTo64bitNum stored.value).toUInt32
  else given.value = stored.value

example : (pathTokens "a.b{ip=1.2}.c".toList).map PathToken.text =
    ["a".toList, "b".toList, "{ip=1.2}".toList, "c".toList] := by
  decide

example : getKeyArrayFromNamepathToken "{x=1,y=2}".toList
    [("y".toList, .uint), ("x".toList, .string)] =
      .parsed [⟨"y".toList, .uint, "2".toList⟩, ⟨"x".toList, .string, "1".toList⟩] := by
  decide

open List

/-- The names of a path, with dots between them. -/
def joinDots : List CString → CString
  | [] => []
  | [name] => name
  | name :: rest => name ++ '.' :: joinDots rest

/-- The strings that the tokenizer cuts a path into. -/
def tokenTexts (path : CString) : List CString :=
  (pathTokens path).map PathToken.text

/-- A name that the tokenizer reads as one token where a dot follows, or, if it is the last one,
the end of the path.  A name that opens a brace may hold dots until it closes it. -/
def TokenName (last : Bool) : CString → Prop
  | [] => last = false
  | c :: rest => c ≠ '.' ∧ '{' ∉ rest ∧
      if c = '{' then '.' ∉ rest.dropWhile (· ≠ '}') ∧ (last = true ∨ '}' ∈ rest)
      else '.' ∉ rest

/-- Names that are read back from their path. -/
def TokenNames : List CString → Prop
  | [] => True
  | [name] => TokenName true name
  | name :: rest => TokenName false name ∧ TokenNames rest

/-! ## The tokens one by one -/

theorem tokensFrom_texts (path path' : CString) (fuel : Nat) (rest : CString) :
    (tokensFrom path fuel rest).map PathToken.text =
      (tokensFrom path' fuel rest).map PathToken.text := by
  induction fuel generalizing rest with
  | zero => rfl
  | succ fuel ih =>
  rw [tokensFrom, tokensFrom]
  split
  · rfl
  · rw [map_cons, map_cons, ih]

variable (path : CString)

theorem tokenTexts_eq :
    tokenTexts path = (getPathToken path).1 ::
      if (getPathToken path).2 = [] then [] else tokenTexts (getPathToken path).2 := by
  rw [tokenTexts, pathTokens, tokensFrom]
  by_cases complete : (getPathToken path).2 = []
  · simp [complete]
  have nonempty : path ≠ [] := by
    rintro rfl
    exact complete rfl
  simp only [complete, if_false, map_cons]
  rw [tokensFrom_texts path (getPathToken path).2,
    tokensFrom_fuel (getPathToken_length_lt nonempty) (Nat.lt_succ_self _)]
  rfl

/-- The path where a token ends: at its end, behind a dot, or before a brace. -/
inductive CutAt : CString → CString → Prop where
  | complete : CutAt [] []
  | dot (rest : CString) : CutAt ('.' :: rest) rest
  | brace (rest : CString) : CutAt ('{' :: rest) ('{' :: rest)

theorem CutAt.head {c : Char} {stop rest : CString} (cut : CutAt (c :: stop) rest) :
    c = '.' ∨ c = '{' := by
  cases cut with
  | dot => exact .inl rfl
  | brace => exact .inr rfl

/-- The scan without an open key stops at a dot, a brace or the end. -/
theorem scanToken_closed {instStart instEnd : Bool} (closed : instStart = false ∨ instEnd = true)
    (path : CString) : ∃ stop, path = (scanToken instStart instEnd path).1 ++ stop ∧
      CutAt stop (scanToken instStart instEnd path).2 ∧
      '{' ∉ (scanToken instStart instEnd path).1 ∧
      '.' ∉ (scanToken instStart instEnd path).1 := by
  induction path generalizing instEnd with
  | nil => exact ⟨[], rfl, .complete, not_mem_nil, not_mem_nil⟩
  | cons c rest ih =>
  rw [scanToken]
  by_cases dot : c = '.'
  · subst dot
    rw [if_pos ⟨rfl, closed⟩]
    exact ⟨_, rfl, .dot rest, not_mem_nil, not_mem_nil⟩
  rw [if_neg fun ends => dot ends.1]
  by_cases brace : c = '{'
  · subst brace
    exact ⟨_, rfl, .brace rest, not_mem_nil, not_mem_nil⟩
  rw [if_neg brace]
  have still : instStart = false ∨ (instEnd || (instStart && c = '}')) = true := by
    rcases closed with start | ended
    · exact .inl start
    · exact .inr (by simp [ended])
  obtain ⟨stop, path, cut, noBrace, noDot⟩ := ih still
  refine ⟨stop, congrArg (c :: ·) path, cut, ?_, ?_⟩
  · simpa [Ne.symm brace] using noBrace
  · simpa [Ne.symm dot] using noDot

/-- The scan of an instance may cross dots inside its keys only. -/
theorem scanToken_open : ∃ stop, path = (scanToken true false path).1 ++ stop ∧
    CutAt stop (scanToken true false path).2 ∧ '{' ∉ (scanToken true false path).1 ∧
    '.' ∉ (scanToken true false path).1.dropWhile (· ≠ '}') ∧
    (stop.head? = some '.' → '}' ∈ (scanToken true false path).1) := by
  induction path with
  | nil => exact ⟨[], rfl, .complete, not_mem_nil, not_mem_nil, nofun⟩
  | cons c rest ih =>
  rw [scanToken, if_neg (by simp)]
  by_cases brace : c = '{'
  · subst brace
    exact ⟨_, rfl, .brace rest, not_mem_nil, not_mem_nil, by simp⟩
  rw [if_neg brace]
  by_cases closes : c = '}'
  · subst closes
    obtain ⟨stop, path, cut, noBrace, noDot⟩ :=
      @scanToken_closed true true (.inr rfl) rest
    refine ⟨stop, congrArg ('}' :: ·) path, cut, ?_, ?_, by simp⟩
    · simpa using noBrace
    · simpa using noDot
  obtain ⟨stop, path, cut, noBrace, noDot, closed⟩ := ih
  simp only [closes, decide_false, Bool.and_false, Bool.or_false]
  refine ⟨stop, congrArg (c :: ·) path, cut, ?_, ?_, ?_⟩
  · simpa [Ne.symm brace] using noBrace
  · simpa [closes] using noDot
  · intro dot
    exact List.mem_cons_of_mem c (closed dot)

/-- A token is a name of the path that ends where the path is cut. -/
theorem getPathToken_cut : ∃ stop, path = (getPathToken path).1 ++ stop ∧
    CutAt stop (getPathToken path).2 ∧
    ((getPathToken path).1 = [] ∨
      TokenName (decide (stop.head? ≠ some '.')) (getPathToken path).1) := by
  cases path with
  | nil => exact ⟨[], rfl, .complete, .inl rfl⟩
  | cons c rest =>
  rw [getPathToken]
  by_cases dot : c = '.'
  · subst dot
    exact ⟨_, rfl, .dot rest, .inl rfl⟩
  rw [if_neg dot]
  by_cases brace : c = '{'
  · subst brace
    obtain ⟨stop, path, cut, noBrace, noDot, closed⟩ := scanToken_open rest
    refine ⟨stop, congrArg ('{' :: ·) path, cut, .inr ⟨dot, noBrace, ?_⟩⟩
    refine ⟨noDot, ?_⟩
    by_cases ends : stop.head? = some '.'
    · exact .inr (closed ends)
    · exact .inl (decide_eq_true ends)
  obtain ⟨stop, path, cut, noBrace, noDot⟩ :=
    @scanToken_closed (decide (c = '{')) false (.inl (decide_eq_false brace)) rest
  refine ⟨stop, congrArg (c :: ·) path, cut, .inr ⟨dot, noBrace, ?_⟩⟩
  rw [if_neg brace]
  exact noDot

/-! ## Names and tokens -/

/-- What follows a name in a path: the end, or a dot and the rest. -/
def afterName : Option CString → CString
  | none => []
  | some rest => '.' :: rest

theorem scanToken_name_closed {instStart instEnd : Bool}
    (closed : instStart = false ∨ instEnd = true) {name : CString} (noBrace : '{' ∉ name)
    (noDot : '.' ∉ name) (tail : Option CString) :
    scanToken instStart instEnd (name ++ afterName tail) = (name, tail.getD []) := by
  induction name generalizing instEnd with
  | nil =>
    cases tail with
    | none => rfl
    | some rest => simp [afterName, scanToken, closed]
  | cons c name ih =>
  obtain ⟨otherBrace, noBrace⟩ := List.ne_and_not_mem_of_not_mem_cons noBrace
  obtain ⟨otherDot, noDot⟩ := List.ne_and_not_mem_of_not_mem_cons noDot
  have still : instStart = false ∨ (instEnd || (instStart && c = '}')) = true := by
    rcases closed with start | ended
    · exact .inl start
    · exact .inr (by simp [ended])
  rw [cons_append, scanToken, if_neg fun ends => otherDot ends.1.symm,
    if_neg otherBrace.symm, ih still noBrace noDot]

variable {name : CString}

theorem scanToken_name_open (noBrace : '{' ∉ name) (noDot : '.' ∉ name.dropWhile (· ≠ '}'))
    {tail : Option CString} (closes : tail = none ∨ '}' ∈ name) :
    scanToken true false (name ++ afterName tail) = (name, tail.getD []) := by
  induction name with
  | nil =>
    obtain rfl : tail = none := closes.resolve_right not_mem_nil
    rfl
  | cons c name ih =>
  obtain ⟨otherBrace, noBraceBehind⟩ := List.ne_and_not_mem_of_not_mem_cons noBrace
  rw [List.cons_append, scanToken, if_neg (by simp), if_neg otherBrace.symm]
  by_cases here : c = '}'
  · subst here
    have noDot : '.' ∉ name := by simpa using noDot
    have scanned := @scanToken_name_closed true true (.inr rfl) name noBraceBehind noDot tail
    simp [scanned]
  · have noDot : '.' ∉ name.dropWhile (· ≠ '}') := by simpa [here] using noDot
    have closes : tail = none ∨ '}' ∈ name := by simpa [Ne.symm here] using closes
    simp only [here, decide_false, Bool.and_false, Bool.or_false]
    rw [ih noBraceBehind noDot closes]

variable {tail : Option CString}

theorem getPathToken_name (token : TokenName tail.isNone name) :
    getPathToken (name ++ afterName tail) = (name, tail.getD []) := by
  cases name with
  | nil =>
    obtain ⟨rest, rfl⟩ : ∃ rest, tail = some rest := by
      cases tail with
      | none => exact absurd token nofun
      | some rest => exact ⟨rest, rfl⟩
    rfl
  | cons c name =>
  obtain ⟨notDot, noBrace, token⟩ := token
  rw [cons_append, getPathToken, if_neg notDot]
  by_cases brace : c = '{'
  · subst brace
    obtain ⟨noDot, closes⟩ := (if_pos rfl : _ = _) ▸ token
    have closes : tail = none ∨ '}' ∈ name :=
      closes.imp_left fun last => Option.isNone_iff_eq_none.mp last
    rw [decide_eq_true rfl, scanToken_name_open noBrace noDot closes]
  · rw [if_neg brace] at token
    rw [decide_eq_false brace, scanToken_name_closed (.inl rfl) noBrace token]

theorem tokenName_of_getPathToken (nonempty : name ++ afterName tail ≠ [])
    (read : (getPathToken (name ++ afterName tail)).1 = name) :
    TokenName tail.isNone name ∧ (getPathToken (name ++ afterName tail)).2 = tail.getD [] := by
  have token : TokenName tail.isNone name := by
    obtain ⟨stop, path, -, shape⟩ := getPathToken_cut (name ++ afterName tail)
    rw [read] at path shape
    obtain rfl : afterName tail = stop := append_cancel_left path
    cases tail with
    | none =>
      rcases shape with rfl | token
      · exact absurd rfl nonempty
      · simpa [afterName] using token
    | some rest =>
    rcases shape with rfl | token
    · rfl
    · simpa [afterName] using token
  exact ⟨token, congrArg Prod.snd (getPathToken_name token)⟩

/-- The names behind the first one. -/
def restNames : List CString → Option CString
  | [] => none
  | name :: rest => some (joinDots (name :: rest))

theorem joinDots_cons (name : CString) (rest : List CString) :
    joinDots (name :: rest) = name ++ afterName (restNames rest) := by
  cases rest with
  | nil => exact (append_nil name).symm
  | cons next rest => rfl

theorem tokenNames_cons_iff (name : CString) (rest : List CString) :
    TokenNames (name :: rest) ↔ TokenName (restNames rest).isNone name ∧ TokenNames rest := by
  cases rest with
  | nil => simp [TokenNames, restNames]
  | cons next rest => rfl

theorem joinDots_ne_nil {rest : List CString} (tokens : TokenNames (name :: rest)) :
    joinDots (name :: rest) ≠ [] := by
  rw [joinDots_cons]
  intro empty
  obtain ⟨rfl, ended⟩ := append_eq_nil_iff.mp empty
  cases rest with
  | nil => exact absurd tokens nofun
  | cons next rest => exact absurd ended nofun

theorem tokenTexts_joinDots {name : CString} {rest : List CString}
    (tokens : TokenNames (name :: rest)) :
    tokenTexts (joinDots (name :: rest)) = name :: rest := by
  induction rest generalizing name with
  | nil =>
    have read := getPathToken_name ((tokenNames_cons_iff name []).mp tokens).1
    rw [joinDots_cons, tokenTexts_eq, read]
    rfl
  | cons next rest ih =>
  obtain ⟨token, tokens⟩ := (tokenNames_cons_iff name _).mp tokens
  rw [joinDots_cons, tokenTexts_eq, getPathToken_name token]
  have more : (restNames (next :: rest)).getD [] = joinDots (next :: rest) := rfl
  rw [more, if_neg (joinDots_ne_nil tokens), ih tokens]

theorem tokenNames_of_tokenTexts {names : List CString} (nonempty : joinDots names ≠ [])
    (read : tokenTexts (joinDots names) = names) : TokenNames names := by
  induction names with
  | nil => trivial
  | cons name rest ih =>
  rw [joinDots_cons] at nonempty read
  rw [tokenTexts_eq] at read
  obtain ⟨first, others⟩ := List.cons.inj read
  obtain ⟨token, left⟩ := tokenName_of_getPathToken nonempty first
  refine (tokenNames_cons_iff name rest).mpr ⟨token, ?_⟩
  cases rest with
  | nil => trivial
  | cons next rest =>
  rw [left] at others
  change (if joinDots (next :: rest) = [] then [] else
    tokenTexts (joinDots (next :: rest))) = next :: rest at others
  by_cases empty : joinDots (next :: rest) = []
  · rw [if_pos empty] at others
    exact absurd others nofun
  · rw [if_neg empty] at others
    exact ih empty others

/-- A path gives back the names it was joined from exactly where each of them is one token. -/
theorem path_read_back_iff {names : List CString} (nonempty : joinDots names ≠ []) :
    tokenTexts (joinDots names) = names ↔ TokenNames names := by
  constructor
  · exact tokenNames_of_tokenTexts nonempty
  · intro tokens
    cases names with
    | nil => exact absurd rfl nonempty
    | cons name rest => exact tokenTexts_joinDots tokens

theorem path_read_back_iff_key :
    tokenTexts (joinDots ["port".toList, "{1.2(a)}".toList, "name".toList]) =
        ["port".toList, "{1.2(a)}".toList, "name".toList] ↔
      TokenNames ["port".toList, "{1.2(a)}".toList, "name".toList] :=
  path_read_back_iff (by simp [joinDots])

/-! ## A plain name in front -/

/-- A name without dots and braces. -/
def PlainName (name : CString) : Prop :=
  name ≠ [] ∧ '.' ∉ name ∧ '{' ∉ name

theorem PlainName.token (plain : PlainName name) (last : Bool) : TokenName last name := by
  obtain ⟨nonempty, noDot, noBrace⟩ := plain
  cases name with
  | nil => exact absurd rfl nonempty
  | cons c rest =>
  obtain ⟨notDot, noDot⟩ := ne_and_not_mem_of_not_mem_cons noDot
  obtain ⟨notBrace, noBrace⟩ := ne_and_not_mem_of_not_mem_cons noBrace
  exact ⟨notDot.symm, noBrace, by rwa [if_neg notBrace.symm]⟩

variable {plain : CString}

end OpenFlowController.Cminfra
