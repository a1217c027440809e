import CkbAccount.SchemasProofs

/-! # Account creation transactions

    `tools/deploy/src/account.ts` and `artifacts.ts`: the scripts of a new account, and the
    check a creation transaction has to pass before it is broadcast.  Scripts and cells are
    those of the ccc package, which keeps bytes as hex text; its hashes are parameters.

    * `assertCreationConsistency_new`: the outputs of a new account pass the check;
    * `creation_formsAccount_iff`: what a passed check says about the outputs, which is all
      but the hash type of the type script. -/

namespace CkbCreation

open RustOutcome Outcome CkbBrowserCodec CkbSchemas

/-! ## Transactions of the package -/

/-- `HashType`. -/
inductive HashType where
  | data
  | type
  | data1
  | data2
  deriving DecidableEq, Repr

/-- The text of a hash type. -/
def HashType.text : HashType → String
  | .data => "data"
  | .type => "type"
  | .data1 => "data1"
  | .data2 => "data2"

/-- `Script`. -/
structure Script where
  codeHash : String
  hashType : HashType
  args : String
  deriving DecidableEq, Repr

/-- `CellInput`. -/
structure CellInput where
  previousOutput : OutPoint
  since : Nat
  deriving DecidableEq, Repr

/-- `CellOutput`. -/
structure CellOutput where
  capacity : Int
  lock : Script
  type : Option Script
  deriving DecidableEq, Repr

/-- `ccc.Transaction`, less its cell deps and witnesses. -/
structure Transaction where
  inputs : List CellInput
  outputs : List CellOutput
  outputsData : List String
  deriving DecidableEq, Repr

/-- What the deployment tools use of the package.  `bytesFrom` throws on text that is not
    hex. -/
structure Package where
  bytesFrom : String → Option Bytes
  hexFrom : Bytes → String
  scriptHash : Script → String
  hashTypeId : CellInput → Nat → String

/-! ## Scripts of an account -/

/-- `TYPE_ID_CODE_HASH`. -/
def typeIdCodeHash : String :=
  "0x00000000000000000000000000000000000000000000000000545950455f4944"

/-- `ACCOUNT_LOCK_VERSION`. -/
def accountLockVersion : UInt8 := 1

/-- `typeIdScript`. -/
def typeIdScript (typeIdArgs : String) : Script where
  codeHash := typeIdCodeHash
  hashType := .type
  args := typeIdArgs

/-- `cellCapacityShannons`; the lengths that reach it are never negative. -/
def cellCapacityShannons (lockArgsLength : Nat) (typeArgsLength : Option Nat)
    (dataLength : Nat) : Int :=
  let typeBytes : Nat := (typeArgsLength.map (33 + ·)).getD 0
  ((8 + 33 + lockArgsLength + typeBytes + dataLength : Nat) : Int) * 100000000

/-- `sameHex`. -/
def sameHex (left right : String) : Bool := toLowerCase left == toLowerCase right

section Package

variable (ccc : Package)

/-- `accountLockArgs`. -/
def accountLockArgs (accountId : String) : Outcome String String := do
  let id ← okOr "invalid hex" (ccc.bytesFrom accountId)
  rejectIf (id.length ≠ 32) ("account id must be 32 bytes, got " ++ toString id.length)
  return ccc.hexFrom (accountLockVersion :: id)

/-- `accountLockScript`. -/
def accountLockScript (codeHash accountId : String) : Outcome String Script := do
  return { codeHash, hashType := .data2, args := ← accountLockArgs ccc accountId }

/-! ## The check before broadcast -/

/-- The loop over `tx.outputs.slice(2).entries()`. -/
def checkForeignOutputs (accountLockCodeHash : String) :
    Nat → List CellOutput → Outcome String Unit
  | _, [] => .ok ()
  | index, output :: outputs => do
      rejectIf (sameHex output.lock.codeHash accountLockCodeHash)
        ("unexpected AccountLock output at index " ++ toString (index + 2)
          ++ "; only the state and asset cells may belong to the account, and change must "
          ++ "return to the deployer")
      checkForeignOutputs accountLockCodeHash (index + 1) outputs

/-- The loop over `tx.outputs.slice(0, 2).entries()`. -/
def checkAccountOutputs (accountLockCodeHash accountId expectedArgs : String) :
    Nat → List CellOutput → Outcome String Unit
  | _, [] => .ok ()
  | index, output :: outputs => do
      let label := "output " ++ toString index ++ " lock "
      rejectIf (!sameHex output.lock.codeHash accountLockCodeHash)
        (label ++ "code hash " ++ output.lock.codeHash ++ " is not AccountLock ("
          ++ accountLockCodeHash ++ ")")
      rejectIf (output.lock.hashType ≠ .data2)
        (label ++ "hash type must be data2, got " ++ output.lock.hashType.text)
      rejectIf (!sameHex output.lock.args expectedArgs)
        (label ++ "args " ++ output.lock.args ++ " do not commit to this transaction's account id "
          ++ accountId ++ "; expected " ++ expectedArgs ++ ". Broadcasting would create "
          ++ "permanently unspendable cells.")
      checkAccountOutputs accountLockCodeHash accountId expectedArgs (index + 1) outputs

/-- `assertCreationConsistency`. -/
def assertCreationConsistency (tx : Transaction)
    (accountLockCodeHash expectedStateData : String) : Outcome String Unit := do
  let input ← okOr "creation transaction has no inputs" tx.inputs.head?
  rejectIf (tx.outputs.length < 2)
    ("creation transaction must have at least 2 outputs (state, asset), got "
      ++ toString tx.outputs.length)
  let type ← okOr "output 0 has no type script; the state cell needs a Type ID"
    (tx.outputs.head?.bind CellOutput.type)
  let expectedTypeIdArgs := ccc.hashTypeId input 0
  rejectIf (!sameHex type.args expectedTypeIdArgs)
    ("output 0 type id args " ++ type.args ++ " do not match hashTypeId(inputs[0], 0) = "
      ++ expectedTypeIdArgs)
  rejectIf (!sameHex type.codeHash typeIdCodeHash)
    "output 0 type code hash is not the consensus TYPE_ID script"
  let accountId := ccc.scriptHash type
  let expectedArgs ← accountLockArgs ccc accountId
  checkForeignOutputs accountLockCodeHash 0 (tx.outputs.drop 2)
  checkAccountOutputs accountLockCodeHash accountId expectedArgs 0 (tx.outputs.take 2)
  rejectIf (!sameHex (tx.outputsData.headD "0x") expectedStateData)
    "output 0 state data does not match the encoded AccountStateV1 bytes"

end Package

/-! ## What passes -/

theorem sameHex_self (text : String) : sameHex text text = true := beq_self_eq_true _

/-- The outputs of an account pass, whatever the hash type of the type script. -/
theorem assertCreationConsistency_outputs {ccc : Package} {input : CellInput} {type : Script}
    {codeHash args stateHex : String} {stateCapacity assetCapacity : Int}
    (htypeId : type.args = ccc.hashTypeId input 0) (hcode : type.codeHash = typeIdCodeHash)
    (hargs : accountLockArgs ccc (ccc.scriptHash type) = .ok args) :
    assertCreationConsistency ccc
      { inputs := [input]
        outputs := [⟨stateCapacity, ⟨codeHash, .data2, args⟩, some type⟩,
          ⟨assetCapacity, ⟨codeHash, .data2, args⟩, none⟩]
        outputsData := [stateHex, "0x"] }
      codeHash stateHex = .ok () := by
  have haccount : checkAccountOutputs codeHash (ccc.scriptHash type) args 0
      [⟨stateCapacity, ⟨codeHash, .data2, args⟩, some type⟩,
        ⟨assetCapacity, ⟨codeHash, .data2, args⟩, none⟩] = .ok () := by
    simp [checkAccountOutputs, sameHex_self, rejectIf]
  simp [assertCreationConsistency, checkForeignOutputs, htypeId, hargs, haccount, hcode,
    sameHex_self, rejectIf]

/-- **The outputs of a new account pass**: a Type ID of the first input, and AccountLock on
    the state and on the asset with the account's args. -/
theorem assertCreationConsistency_new {ccc : Package} {input : CellInput}
    {codeHash typeIdArgs args stateHex : String} {stateCapacity assetCapacity : Int}
    (htypeId : ccc.hashTypeId input 0 = typeIdArgs)
    (hargs : accountLockArgs ccc (ccc.scriptHash (typeIdScript typeIdArgs)) = .ok args) :
    assertCreationConsistency ccc
      { inputs := [input]
        outputs := [
          ⟨stateCapacity, ⟨codeHash, .data2, args⟩, some (typeIdScript typeIdArgs)⟩,
          ⟨assetCapacity, ⟨codeHash, .data2, args⟩, none⟩]
        outputsData := [stateHex, "0x"] }
      codeHash stateHex = .ok () :=
  assertCreationConsistency_outputs htypeId.symm rfl hargs

/-! ## What a passed check guarantees -/

/-- How the package reads hex: it reads what it writes, and letter case makes no difference. -/
structure Package.ReadsHex (ccc : Package) : Prop where
  read_write : ∀ bytes, ccc.bytesFrom (ccc.hexFrom bytes) = some bytes
  letter_case : ∀ {left right a b}, toLowerCase left = toLowerCase right →
    ccc.bytesFrom left = some a → ccc.bytesFrom right = some b → a = b

/-- Scripts that differ in letter case at most. -/
structure SameScript (s s' : Script) : Prop where
  codeHash : sameHex s.codeHash s'.codeHash = true
  hashType : s.hashType = s'.hashType
  args : sameHex s.args s'.args = true

/-- A creation transaction whose first two outputs form an account that can be spent. -/
structure FormsAccount (ccc : Package) (tx : Transaction) (accountLockCodeHash stateData : String)
    (input : CellInput) (state asset : CellOutput) (others : List CellOutput)
    (type lock : Script) (accountId : CkbProtocol.Byte32) : Prop where
  input_eq : tx.inputs.head? = some input
  outputs_eq : tx.outputs = state :: asset :: others
  type_eq : state.type = some type
  typeId : SameScript type (typeIdScript (ccc.hashTypeId input 0))
  accountId_eq : ccc.bytesFrom (ccc.scriptHash type) = some accountId.val
  lock_eq : accountLockScript ccc accountLockCodeHash (ccc.scriptHash type) = .ok lock
  stateLock : SameScript state.lock lock
  assetLock : SameScript asset.lock lock
  parses : ∀ output ∈ [state, asset], ∀ args, ccc.bytesFrom output.lock.args = some args →
    CkbProtocol.AccountLockArgs.parse args = .ok ⟨CkbProtocol.accountLockVersion, accountId⟩
  data : sameHex (tx.outputsData.headD "0x") stateData = true
  foreign : ∀ output ∈ others, sameHex output.lock.codeHash accountLockCodeHash = false

section Passed

variable {ccc : Package} {codeHash : String}

/-- The args are the version and the account id. -/
theorem accountLockArgs_eq_ok {accountId args : String} :
    accountLockArgs ccc accountId = .ok args
      ↔ ∃ id : CkbProtocol.Byte32, ccc.bytesFrom accountId = some id.val
        ∧ args = ccc.hexFrom (accountLockVersion :: id.val) := by
  rw [accountLockArgs, bind_eq_ok]
  constructor
  · rintro ⟨id, hid, h⟩
    obtain ⟨hlength, h⟩ := rejectIf_bind_eq_ok.mp h
    exact ⟨⟨id, not_not.mp hlength⟩, okOr_eq_ok.mp hid, (Outcome.ok.inj h).symm⟩
  · rintro ⟨id, hid, rfl⟩
    refine ⟨id.val, okOr_eq_ok.mpr hid, rejectIf_bind_eq_ok.mpr ⟨?_, rfl⟩⟩
    rw [id.property]
    exact not_not.mpr rfl

/-- No further output has the account lock. -/
theorem checkForeignOutputs_eq_ok {outputs : List CellOutput} :
    ∀ {index : Nat}, checkForeignOutputs codeHash index outputs = .ok ()
      ↔ ∀ output ∈ outputs, sameHex output.lock.codeHash codeHash = false := by
  induction outputs with
  | nil =>
      intro index
      simp [checkForeignOutputs]
  | cons output outputs ih =>
      intro index
      rw [checkForeignOutputs, rejectIf_bind_eq_ok, ih, List.forall_mem_cons, Bool.not_eq_true]

/-- The lock of one of the account's outputs. -/
theorem checkAccountOutputs_cons {accountId args : String} {index : Nat} {output : CellOutput}
    {outputs : List CellOutput} :
    checkAccountOutputs codeHash accountId args index (output :: outputs) = .ok ()
      ↔ SameScript output.lock ⟨codeHash, .data2, args⟩
        ∧ checkAccountOutputs codeHash accountId args (index + 1) outputs = .ok () := by
  rw [checkAccountOutputs]
  simp only [rejectIf_bind_eq_ok, Bool.not_eq_true', Bool.not_eq_false, not_not]
  constructor
  · rintro ⟨hcode, hhash, hargs, hrest⟩
    exact ⟨⟨hcode, hhash, hargs⟩, hrest⟩
  · rintro ⟨hsame, hrest⟩
    exact ⟨hsame.codeHash, hsame.hashType, hsame.args, hrest⟩

/-- Args that commit to an account are parsed as its id by the contract. -/
theorem parse_of_sameHex (hccc : ccc.ReadsHex) {text : String} {id : CkbProtocol.Byte32}
    (h : sameHex text (ccc.hexFrom (accountLockVersion :: id.val)) = true) {args : Bytes}
    (hargs : ccc.bytesFrom text = some args) :
    CkbProtocol.AccountLockArgs.parse args = .ok ⟨CkbProtocol.accountLockVersion, id⟩ := by
  obtain rfl := hccc.letter_case (beq_iff_eq.mp h) hargs (hccc.read_write _)
  exact CkbProtocol.AccountLockArgs.parse_eq_ok.mpr ⟨rfl, rfl⟩

/-- **When a passed check guarantees a spendable account**: exactly when the type script of
    the first output has the hash type of the consensus Type ID script, which the check does
    not look at. -/
theorem creation_formsAccount_iff (hccc : ccc.ReadsHex) (tx : Transaction)
    (accountLockCodeHash stateData : String)
    (h : assertCreationConsistency ccc tx accountLockCodeHash stateData = .ok ()) :
    (∃ input state asset others type lock accountId,
        FormsAccount ccc tx accountLockCodeHash stateData input state asset others type lock
          accountId)
      ↔ (tx.outputs.head?.bind CellOutput.type).map Script.hashType = some .type := by
  constructor
  · rintro ⟨input, state, asset, others, type, lock, accountId, hforms⟩
    rw [hforms.outputs_eq, List.head?_cons, Option.bind_some, hforms.type_eq, Option.map_some,
      hforms.typeId.hashType]
    rfl
  · intro hhash
    -- what each check of the code has established
    rw [assertCreationConsistency, bind_eq_ok] at h
    obtain ⟨input, hinput, h⟩ := h
    obtain ⟨hcount, h⟩ := rejectIf_bind_eq_ok.mp h
    obtain ⟨type, htype, h⟩ := bind_eq_ok.mp h
    rw [rejectIf_bind_eq_ok, rejectIf_bind_eq_ok] at h
    obtain ⟨hargs, hcode, h⟩ := h
    obtain ⟨expectedArgs, hexpected, h⟩ := bind_eq_ok.mp h
    rw [unit_bind_eq_ok, unit_bind_eq_ok, rejectIf_eq_ok] at h
    obtain ⟨hforeign, haccount, hdata⟩ := h
    obtain ⟨state, asset, others, houtputs⟩ : ∃ state asset others,
        tx.outputs = state :: asset :: others := by
      match hout : tx.outputs with
      | [] =>
          rw [hout] at hcount
          exact absurd (Nat.zero_lt_two) hcount
      | [_] =>
          rw [hout] at hcount
          exact absurd (Nat.lt_succ_self 1) hcount
      | state :: asset :: others => exact ⟨state, asset, others, rfl⟩
    have htype := okOr_eq_ok.mp htype
    rw [htype, Option.map_some, Option.some.injEq] at hhash
    rw [houtputs] at htype hforeign haccount
    obtain ⟨id, hid, rfl⟩ := accountLockArgs_eq_ok.mp hexpected
    obtain ⟨hstate, haccount⟩ := checkAccountOutputs_cons.mp haccount
    obtain ⟨hasset, -⟩ := checkAccountOutputs_cons.mp haccount
    have hlock : accountLockScript ccc accountLockCodeHash (ccc.scriptHash type)
        = .ok ⟨accountLockCodeHash, .data2, ccc.hexFrom (accountLockVersion :: id.val)⟩ := by
      rw [accountLockScript, hexpected, ok_bind]
      rfl
    have hcode : sameHex type.codeHash typeIdCodeHash = true := by simpa using hcode
    have hargs : sameHex type.args (ccc.hashTypeId input 0) = true := by simpa using hargs
    -- all that is missing is the hash type of the type script
    refine ⟨input, state, asset, others, type, _, id, okOr_eq_ok.mp hinput, houtputs, htype,
      ⟨hcode, hhash, hargs⟩, hid, hlock, hstate, hasset, ?_, ?_,
      checkForeignOutputs_eq_ok.mp hforeign⟩
    · intro output houtput args hread
      rcases List.mem_cons.mp houtput with rfl | houtput
      · exact parse_of_sameHex hccc hstate.args hread
      · rw [List.mem_singleton.mp houtput] at hread
        exact parse_of_sameHex hccc hasset.args hread
    · simpa using hdata

end Passed

/-! ## A type script of another hash type -/

/-- The first input of the example. -/
def exampleInput : CellInput where
  previousOutput :=
    ⟨"0x1111111111111111111111111111111111111111111111111111111111111111", 0⟩
  since := 0

/-- The Type ID of that input. -/
def exampleTypeId : Bytes :=
  [0x95, 0x10, 0x4d, 0xb1, 0xdd, 0xfd, 0x88, 0xd1, 0x3f, 0x9b, 0x38, 0x34, 0x6a, 0xd1, 0xa2,
   0x73, 0x90, 0x5f, 0x4d, 0x09, 0x7a, 0x0a, 0xab, 0xef, 0xe0, 0xb9, 0xf6, 0x12, 0x35, 0x68,
   0xdd, 0x65]

/-- The script hashes of the Type ID code with these args under two hash types. -/
def exampleAccountId : HashType → CkbProtocol.Byte32
  | .data =>
      ⟨[0x77, 0x6c, 0x83, 0x6f, 0x92, 0xa0, 0x16, 0xd5, 0x9c, 0x5e, 0x23, 0x8f, 0xa4, 0x91, 0x21,
        0x44, 0x3c, 0x71, 0x60, 0xdf, 0xbf, 0xca, 0xc7, 0x9b, 0x0a, 0xf7, 0xab, 0x7a, 0x3e, 0xf9,
        0x98, 0x4a],
        by decide⟩
  | _ =>
      ⟨[0x28, 0x25, 0x9b, 0x82, 0xf3, 0xf7, 0xfc, 0x28, 0x41, 0x8d, 0x6b, 0x01, 0xa6, 0x1b, 0x27,
        0x17, 0xaf, 0xcd, 0x2f, 0xd3, 0x9e, 0x6b, 0x07, 0x81, 0x52, 0x33, 0xea, 0x7e, 0x3e, 0xbf,
        0xed, 0xf9],
        by decide⟩

/-- The package on these scripts. -/
def examplePackage : Package where
  bytesFrom := fun text => some (hexDigitPairs ((toLowerCase text).toList.drop 2))
  hexFrom := hexFromBytes
  scriptHash := fun script => hexFromBytes (exampleAccountId script.hashType).val
  hashTypeId := fun _ _ => hexFromBytes exampleTypeId

/-- Hex digits are lower case. -/
theorem toLowerCase_hexFromBytes (bytes : Bytes) :
    toLowerCase (hexFromBytes bytes) = hexFromBytes bytes := by
  have hlower : ∀ n < 16, (Nat.digitChar n).toLower = Nat.digitChar n := by decide
  have hbytes : ∀ rest : Bytes,
      (rest.flatMap hexByte).map Char.toLower = rest.flatMap hexByte := by
    intro rest
    induction rest with
    | nil => rfl
    | cons byte rest ih =>
        have hbyte := byte.toNat_lt
        rw [List.flatMap_cons, List.map_append, ih, hexByte_eq, List.map_cons, List.map_cons,
          hlower _ (by omega), hlower _ (by omega), List.map_nil]
  apply String.toList_inj.mp
  rw [toLowerCase, String.toList_ofList, hexFromBytes_toList, List.map_cons, List.map_cons, hbytes]
  rfl

theorem examplePackage_readsHex : examplePackage.ReadsHex := by
  constructor
  · intro bytes
    show some (hexDigitPairs ((toLowerCase (hexFromBytes bytes)).toList.drop 2)) = some bytes
    rw [toLowerCase_hexFromBytes, hexFromBytes_toList]
    exact congrArg some (hexDigitPairs_flatMap bytes)
  · intro left right a b hcase ha hb
    have ha : some (hexDigitPairs ((toLowerCase left).toList.drop 2)) = some a := ha
    have hb : some (hexDigitPairs ((toLowerCase right).toList.drop 2)) = some b := hb
    rw [hcase, hb] at ha
    exact (Option.some.inj ha).symm

/-- The code hash of its account lock. -/
def exampleCodeHash : String := "0x44f4c69744d5f8c55d642062949dcae49bc4e7ef43d388c5a12f42b5633d163e"

/-- A creation that spends the input, with a type script of the given hash type. -/
def exampleCreation (hashType : HashType) : Transaction where
  inputs := [exampleInput]
  outputs := [
    ⟨14200000000, ⟨exampleCodeHash, .data2, hexFromBytes (accountLockVersion
      :: (exampleAccountId hashType).val)⟩,
      some ⟨typeIdCodeHash, hashType, hexFromBytes exampleTypeId⟩⟩,
    ⟨20000000000, ⟨exampleCodeHash, .data2, hexFromBytes (accountLockVersion
      :: (exampleAccountId hashType).val)⟩, none⟩]
  outputsData := ["0x010203", "0x"]

/-- The example passes with either hash type. -/
theorem exampleCreation_passes (hashType : HashType) :
    assertCreationConsistency examplePackage (exampleCreation hashType) exampleCodeHash "0x010203"
      = .ok () := by
  refine assertCreationConsistency_outputs rfl rfl (accountLockArgs_eq_ok.mpr ?_)
  exact ⟨exampleAccountId hashType, examplePackage_readsHex.read_write _, rfl⟩

/-- With the right one it forms an account. -/
theorem exampleCreation_formsAccount :
    ∃ input state asset others type lock accountId,
      FormsAccount examplePackage (exampleCreation .type) exampleCodeHash "0x010203" input state asset
        others type lock accountId :=
  (creation_formsAccount_iff examplePackage_readsHex (exampleCreation .type) exampleCodeHash "0x010203"
    (exampleCreation_passes .type)).mpr rfl

/-- **A script that is not the consensus Type ID passes**: the check compares its code hash
    and its args, and not its hash type. -/
theorem data_type_script_passes :
    ¬ ∀ (ccc : Package) (tx : Transaction) (accountLockCodeHash stateData : String),
      ccc.ReadsHex →
      assertCreationConsistency ccc tx accountLockCodeHash stateData = .ok () →
      ∃ input state asset others type lock accountId,
        FormsAccount ccc tx accountLockCodeHash stateData input state asset others type lock
          accountId := by
  intro hall
  obtain ⟨input, state, asset, others, type, lock, accountId, hforms⟩ :=
    hall examplePackage (exampleCreation .data) exampleCodeHash "0x010203" examplePackage_readsHex
      (exampleCreation_passes .data)
  have houtputs := hforms.outputs_eq
  have htype := hforms.type_eq
  have hhash := hforms.typeId.hashType
  cases houtputs
  cases htype
  exact absurd hhash nofun

end CkbCreation
