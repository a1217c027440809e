import CkbAccount.BootstrapProofs
import CkbAccount.StatePolicyProofs

/-! # The account the browser spends from

    `demo/src/shared/manifests.ts` and the first half of `demo/src/client/chain.ts`: the
    manifests are checked against each other, the two cells of the account are looked up, and
    the state is read at fixed offsets.

    * `validateAccount_eq_ok`: the account id, the lock args and the Type ID of a verified
      account belong together;
    * `parseAccountState_eq_ok`: the fixed offsets accept one layout, with a free sequence and
      a free key id;
    * `validState_spendState`: `validate_state` accepts that layout;
    * `discoverAccountCells_eq_ok`: the two cells that are returned. -/

namespace CkbSpend

open RustOutcome Outcome LittleEndian CkbProtocol CkbStatePolicy CkbBrowserCodec CkbSchemas
open CkbStateWire (StateHeader AuthenticatorEntry entriesLayout)
open CkbCreation (HashType Script CellInput CellOutput typeIdScript)
open CkbBootstrap (testnetAccountManifest)

/-! ## Values of the package -/

/-- `DepType`. -/
inductive DepType where
  | code
  | depGroup
  deriving DecidableEq, Repr

/-- `CellDep`. -/
structure CellDep where
  outPoint : OutPoint
  depType : DepType
  deriving DecidableEq, Repr

/-- `ccc.Cell`. -/
structure Cell where
  outPoint : OutPoint
  cellOutput : CellOutput
  outputData : String
  deriving DecidableEq, Repr

/-- `ccc.Transaction`, less its version and header deps, which the demo never sets. -/
structure Transaction where
  cellDeps : List CellDep
  inputs : List CellInput
  outputs : List CellOutput
  outputsData : List String
  witnesses : List String
  deriving DecidableEq, Repr

/-- What the browser uses of the package.  Reading hex text, hashing a transaction, estimating
    its fee and decoding an address may throw. -/
structure Package where
  codec : Ccc
  bytesFrom : String → Option Bytes
  scriptHash : Script → String
  transactionHash : Transaction → Option String
  estimateFee : Transaction → Int → Option Int
  occupiedSize : CellOutput → Nat
  addressScript : String → String → Option Script

/-- `SpendClient`: a view of the chain.  A search ends where it throws. -/
structure SpendClient where
  addressPrefix : String
  getCellLive : OutPoint → Outcome JsError (Option Cell)
  findCellsByLock : Script → List (Outcome JsError Cell)

/-! ## Manifests -/

/-- `VerifiedDeployment`. -/
structure VerifiedDeployment where
  manifest : DeploymentManifest
  accountLockCode : Script
  verifierP256Code : Script
  accountLockDep : CellDep
  verifierP256Dep : CellDep
  deriving DecidableEq, Repr

/-- `VerifiedAccount`. -/
structure VerifiedAccount where
  manifest : AccountManifest
  deployment : VerifiedDeployment
  accountLock : Script
  stateType : Script
  stateDep : CellDep
  deriving DecidableEq, Repr

/-- `invalidManifest`. -/
def invalidManifest (label : String) : JsError := .typeError (label ++ " manifest is invalid")

/-- The code an artifact holds. -/
def artifactCode (artifact : Artifact) : Script where
  codeHash := artifact.dataHash
  hashType := .data2
  args := "0x"

/-- The dep that makes an artifact available. -/
def artifactDep (artifact : Artifact) : CellDep where
  outPoint := { txHash := artifact.txHash, index := artifact.index }
  depType := .code

/-- `validateDeployment`. -/
def validateDeployment (value : Json) : Outcome JsError VerifiedDeployment := do
  let manifest ← okOr (invalidManifest "Deployment") (deploymentManifestSchema value)
  return {
    manifest := manifest
    accountLockCode := artifactCode manifest.accountLock
    verifierP256Code := artifactCode manifest.verifierP256
    accountLockDep := artifactDep manifest.accountLock
    verifierP256Dep := artifactDep manifest.verifierP256 }

/-- `validateAccount`. -/
def validateAccount (ccc : Package) (value : Json) (deployment : VerifiedDeployment) :
    Outcome JsError VerifiedAccount := do
  let manifest ← okOr (invalidManifest "Account") (accountManifestSchema value)
  rejectIf (manifest.accountLock.codeHash ≠ deployment.accountLockCode.codeHash)
    (.typeError "Account manifest does not match the verified deployment")
  rejectIf (manifest.stateOutPoint.index ≠ 0 ∨ manifest.assetOutPoint.index ≠ 1
      ∨ manifest.stateOutPoint.txHash ≠ manifest.assetOutPoint.txHash)
    (.typeError "Account manifest has invalid bootstrap outpoints")
  let accountLock : Script := {
    codeHash := manifest.accountLock.codeHash
    hashType := .data2
    args := manifest.accountLock.args }
  let expectedArgs := "0x01" ++ String.ofList (sliceFrom 2 manifest.accountId)
  rejectIf (accountLock.args ≠ expectedArgs)
    (.typeError "AccountLock args do not bind the account ID")
  let stateType := typeIdScript manifest.typeIdArgs
  rejectIf (ccc.scriptHash stateType ≠ manifest.accountId)
    (.typeError "Type ID script hash does not match the account ID")
  return {
    manifest := manifest
    deployment := deployment
    accountLock := accountLock
    stateType := stateType
    stateDep := { outPoint := manifest.stateOutPoint, depType := .code } }

/-! ## The state at fixed offsets -/

/-- `STATE_HEADER_BYTES`. -/
def stateHeaderBytes : Nat := 32

/-- `STATE_ENTRY_BYTES_WITHOUT_VARIABLE_DATA`. -/
def stateEntryBytesWithoutVariableData : Nat := 48

/-- `STATE_MAGIC`, encoded: four bytes decode to this text exactly when they are its code. -/
def stateMagic : Bytes := "CKAS".toUTF8.data.toList

/-- `EXPECTED_RP_ID_HASH`. -/
def expectedRpIdHash : String :=
  "49960de5880e8c687434170f6476605b8fe4aeb9a28632c7995cf3ba831d9763"

/-- `EXPECTED_ORIGIN_HASH`. -/
def expectedOriginHash : String :=
  "4e90ec8f9d9b8d5bd3877ac003797738ff48419fcf8f97821a875ea4671955b6"

/-- `expectedAux`. -/
def expectedAux : String := "01" ++ expectedRpIdHash ++ expectedOriginHash

/-- `DataView` reads of a width: past the end they throw. -/
def getUint (width : Nat) (data : Bytes) (offset : Nat) : Outcome JsError Nat := do
  rejectIf (data.length < offset + width)
    (.rangeError "Offset is outside the bounds of the DataView")
  return leValue ((data.drop offset).take width)

/-- `view.getUint16(offset, true)`. -/
def getUint16 (data : Bytes) (offset : Nat) : Outcome JsError Nat := getUint 2 data offset

/-- `view.getBigUint64(offset, true)`. -/
def getBigUint64 (data : Bytes) (offset : Nat) : Outcome JsError Nat := getUint 8 data offset

/-- What `parseAccountState` returns. -/
structure ParsedState where
  sequence : Nat
  keyId : Bytes
  deriving DecidableEq, Repr

/-- `parseAccountState`. -/
def parseAccountState (dataHex : String) (account : VerifiedAccount) :
    Outcome JsError ParsedState := do
  let data ← bytesFromHex dataHex
  rejectIf (data.length ≠ account.manifest.stateBytes ∨ data.length < stateHeaderBytes)
    (.typeError "Live account state data length does not match the manifest")
  rejectIf (data.take 4 ≠ stateMagic ∨ data[4]? ≠ some 1)
    (.typeError "Live account state data has an unsupported header")
  rejectIf (data[5]? ≠ some 1
      ∨ (← getUint16 data 6) ≠ stateHeaderBytes
      ∨ (← getUint16 data 16) ≠ 1
      ∨ (← getUint16 data 18) ≠ 1
      ∨ (← getUint16 data 20) ≠ 1
      ∨ data[22]? ≠ some 1
      ∨ data[23]? ≠ some 0
      ∨ (← getBigUint64 data 24) ≠ 0)
    (.typeError "Live account state data does not match the supported account profile")
  let entryLength ← getUint16 data 32
  let keyIdLength ← getUint16 data 76
  let auxLength ← getUint16 data 78
  rejectIf (entryLength ≠ data.length - stateHeaderBytes
      ∨ entryLength ≠ stateEntryBytesWithoutVariableData + keyIdLength + auxLength
      ∨ (← getUint16 data 34) ≠ 0
      ∨ (← getUint16 data 36) ≠ 1
      ∨ (← getUint16 data 38) ≠ 7
      ∨ (← getUint16 data 40) ≠ 1
      ∨ data[42]? ≠ some 0
      ∨ data[43]? ≠ some 1
      ∨ keyIdLength ≠ 32
      ∨ auxLength ≠ 65)
    (.typeError "Live account state authenticator is not the supported P-256 profile")
  let verifierCodeHash := hexFromBytes ((data.drop 44).take 32)
  rejectIf (verifierCodeHash ≠ account.deployment.verifierP256Code.codeHash)
    (.typeError "Live account state verifier does not match the deployment")
  let keyIdStart := 80
  let auxStart := keyIdStart + keyIdLength
  rejectIf (sliceFrom 2 (hexFromBytes (data.drop auxStart)) ≠ expectedAux.toList)
    (.typeError "Live account state data has an unexpected WebAuthn binding")
  return {
    sequence := ← getBigUint64 data 8
    keyId := (data.drop keyIdStart).take keyIdLength }

/-! ## The cells of the account -/

/-- `sameOutPoint`. -/
def sameOutPoint (cell : Cell) (value : OutPoint) : Bool := cell.outPoint = value

/-- `verifyStateCell`. -/
def verifyStateCell (state : Cell) (account : VerifiedAccount) : Outcome JsError ParsedState := do
  rejectIf (!sameOutPoint state account.manifest.stateOutPoint)
    (.typeError "Live state outpoint does not match the account manifest")
  rejectIf (state.cellOutput.lock ≠ account.accountLock)
    (.typeError "Live state lock does not match AccountLock")
  rejectIf (state.cellOutput.type ≠ some account.stateType)
    (.typeError "Live state Type ID script does not match the account")
  parseAccountState state.outputData account

/-- The loop of `discoverAccountCells` over the cells of the lock. -/
def scanAssets (account : VerifiedAccount) :
    List (Outcome JsError Cell) → List Cell → Outcome JsError (List Cell)
  | [], assets => .ok assets
  | next :: rest, assets => do
      let cell ← next
      rejectIf (cell.cellOutput.lock ≠ account.accountLock)
        (.typeError "Indexer returned a cell with a foreign lock")
      if sameOutPoint cell account.manifest.stateOutPoint then do
        let _ ← verifyStateCell cell account
        scanAssets account rest assets
      else do
        rejectIf cell.cellOutput.type.isSome
          (.typeError "AccountLock scan returned a typed asset candidate")
        rejectIf (cell.outputData ≠ "0x") (.typeError "AccountLock asset candidate contains data")
        if (assets ++ [cell]).length > 1 then .ok (assets ++ [cell])
        else scanAssets account rest (assets ++ [cell])

/-- `assets[0]`, if it is the only one. -/
def soleAsset : List Cell → Option Cell
  | [asset] => some asset
  | _ => none

/-- `discoverAccountCells`: the state and the live asset. -/
def discoverAccountCells (client : SpendClient) (account : VerifiedAccount) :
    Outcome JsError (Cell × Cell) := do
  let state ← okOr (.typeError "Account state cell is spent or unavailable")
    (← client.getCellLive account.manifest.stateOutPoint)
  let _ ← verifyStateCell state account
  let assets ← scanAssets account (client.findCellsByLock account.accountLock) []
  let asset ← okOr (.typeError "Expected exactly one AccountLock asset cell") (soleAsset assets)
  rejectIf (!sameOutPoint asset account.manifest.assetOutPoint)
    (.typeError "Live asset outpoint does not match the account manifest")
  let changed := JsError.typeError "AccountLock asset cell is spent or changed"
  let liveAsset ← okOr changed (← client.getCellLive account.manifest.assetOutPoint)
  rejectIf (!sameOutPoint liveAsset account.manifest.assetOutPoint
      ∨ liveAsset.cellOutput.lock ≠ account.accountLock
      ∨ liveAsset.cellOutput.type.isSome
      ∨ liveAsset.outputData ≠ "0x"
      ∨ liveAsset.cellOutput.capacity ≠ asset.cellOutput.capacity) changed
  return (state, liveAsset)

/-! ## What the offsets read -/

/-- A read inside the buffer is the number there. -/
theorem getUint_eq_ok {width offset n : Nat} {data : Bytes} :
    getUint width data offset = .ok n
      ↔ offset + width ≤ data.length ∧ n = leValue ((data.drop offset).take width) := by
  rw [getUint, rejectIf_bind_eq_ok, Nat.not_lt, pure_eq, Outcome.ok.injEq, eq_comm]

section Rest

variable {data rest : Bytes} {offset : Nat}

/-- A number of two bytes, in front of the rest of the data. -/
theorem drop_of_getUint16 {n : Nat} (h : getUint16 data offset = .ok n)
    (hrest : data.drop (offset + 2) = rest) :
    data.drop offset = u16Le (UInt16.ofNat n) ++ rest := by
  obtain ⟨hle, rfl⟩ := getUint_eq_ok.mp h
  have hlen : ((data.drop offset).take 2).length = 2 := by
    rw [List.length_take, List.length_drop]
    omega
  rw [← u16FromLe, u16Le_u16FromLe hlen, ← hrest, ← List.drop_drop, List.take_append_drop]

/-- A number of eight bytes, in front of the rest of the data. -/
theorem drop_of_getBigUint64 {n : Nat} (h : getBigUint64 data offset = .ok n)
    (hrest : data.drop (offset + 8) = rest) :
    data.drop offset = u64Le (UInt64.ofNat n) ++ rest := by
  obtain ⟨hle, rfl⟩ := getUint_eq_ok.mp h
  have hlen : ((data.drop offset).take 8).length = 8 := by
    rw [List.length_take, List.length_drop]
    omega
  rw [← u64FromLe, u64Le_u64FromLe hlen, ← hrest, ← List.drop_drop, List.take_append_drop]

theorem drop_of_getElem? {byte : UInt8} (h : data[offset]? = some byte)
    (hrest : data.drop (offset + 1) = rest) : data.drop offset = byte :: rest := by
  obtain ⟨hlt, rfl⟩ := List.getElem?_eq_some_iff.mp h
  rw [← hrest]
  exact List.drop_eq_getElem_cons hlt

/-- A field that is only cut out. -/
theorem drop_of_take (offset width : Nat) (hrest : data.drop (offset + width) = rest) :
    data.drop offset = (data.drop offset).take width ++ rest := by
  rw [← hrest, ← List.drop_drop, List.take_append_drop]

end Rest

/-- A number of eight bytes fits 64 bits. -/
theorem toNat_of_getBigUint64 {offset n : Nat} {data : Bytes}
    (h : getBigUint64 data offset = .ok n) : (UInt64.ofNat n).toNat = n := by
  obtain ⟨hle, rfl⟩ := getUint_eq_ok.mp h
  have hlt := leValue_lt ((data.drop offset).take 8)
  rw [List.length_take, List.length_drop, Nat.min_eq_left (by omega)] at hlt
  exact UInt64.toNat_ofNat_of_lt' hlt

/-- Everything `parseAccountState` checks of the bytes. -/
structure Offsets (data : Bytes) (sequence : Nat) : Prop where
  size : data.length = 177
  magic : data.take 4 = stateMagic
  version : data[4]? = some 1
  flags : data[5]? = some 1
  headerLength : getUint16 data 6 = .ok stateHeaderBytes
  sequence : getBigUint64 data 8 = .ok sequence
  spendThreshold : getUint16 data 16 = .ok 1
  rotateThreshold : getUint16 data 18 = .ok 1
  recoveryThreshold : getUint16 data 20 = .ok 1
  count : data[22]? = some 1
  reserved : data[23]? = some 0
  since : getBigUint64 data 24 = .ok 0
  entryLength : getUint16 data 32 = .ok (stateEntryBytesWithoutVariableData + 32 + 65)
  slot : getUint16 data 34 = .ok 0
  algorithm : getUint16 data 36 = .ok 1
  capabilities : getUint16 data 38 = .ok 7
  weight : getUint16 data 40 = .ok 1
  hashType : data[42]? = some 0
  abi : data[43]? = some 1
  keyIdLength : getUint16 data 76 = .ok 32
  auxLength : getUint16 data 78 = .ok 65
  aux : CkbSchemas.sliceFrom 2 (hexFromBytes (data.drop 112)) = expectedAux.toList

/-- The checks, one after the other. -/
theorem offsets_of_parseAccountState {dataHex : String} {account : VerifiedAccount}
    {parsed : ParsedState} (h : parseAccountState dataHex account = .ok parsed) :
    ∃ data, bytesFromHex dataHex = .ok data ∧ Offsets data parsed.sequence
      ∧ hexFromBytes ((data.drop 44).take 32) = account.deployment.verifierP256Code.codeHash
      ∧ parsed.keyId = (data.drop 80).take 32 := by
  rw [parseAccountState] at h
  obtain ⟨data, hdata, h⟩ := bind_eq_ok.mp h
  obtain ⟨hsize, h⟩ := rejectIf_bind_eq_ok.mp h
  obtain ⟨hmagic, h⟩ := rejectIf_bind_eq_ok.mp h
  -- the header
  obtain ⟨len, hlen, h⟩ := bind_eq_ok.mp h
  obtain ⟨spend, hspend, h⟩ := bind_eq_ok.mp h
  obtain ⟨rotate, hrotate, h⟩ := bind_eq_ok.mp h
  obtain ⟨recovery, hrecovery, h⟩ := bind_eq_ok.mp h
  obtain ⟨since, hsince, h⟩ := bind_eq_ok.mp h
  obtain ⟨hheader, h⟩ := rejectIf_bind_eq_ok.mp h
  -- the entry
  obtain ⟨entryLength, hentryLength, h⟩ := bind_eq_ok.mp h
  obtain ⟨keyIdLength, hkeyIdLength, h⟩ := bind_eq_ok.mp h
  obtain ⟨auxLength, hauxLength, h⟩ := bind_eq_ok.mp h
  obtain ⟨slot, hslot, h⟩ := bind_eq_ok.mp h
  obtain ⟨algorithm, halgorithm, h⟩ := bind_eq_ok.mp h
  obtain ⟨capabilities, hcapabilities, h⟩ := bind_eq_ok.mp h
  obtain ⟨weight, hweight, h⟩ := bind_eq_ok.mp h
  obtain ⟨hentry, h⟩ := rejectIf_bind_eq_ok.mp h
  obtain ⟨hverifier, h⟩ := rejectIf_bind_eq_ok.mp h
  obtain ⟨haux, h⟩ := rejectIf_bind_eq_ok.mp h
  obtain ⟨sequence, hsequence, h⟩ := bind_eq_ok.mp h
  cases h
  simp only [not_or, not_not] at hsize hmagic hheader hentry hverifier haux
  obtain ⟨hmagic, hversion⟩ := hmagic
  obtain ⟨hflags, rfl, rfl, rfl, rfl, hcount, hreserved, rfl⟩ := hheader
  obtain ⟨htotal, rfl, rfl, rfl, rfl, rfl, hhashType, habi, rfl, rfl⟩ := hentry
  have htotal : data.length = 177 := by
    rw [stateEntryBytesWithoutVariableData, stateHeaderBytes] at htotal
    omega
  exact ⟨data, hdata, ⟨htotal, hmagic, hversion, hflags, hlen, hsequence, hspend, hrotate,
    hrecovery, hcount, hreserved, hsince, hentryLength, hslot, halgorithm, hcapabilities, hweight,
    hhashType, habi, hkeyIdLength, hauxLength, haux⟩, hverifier, rfl⟩

/-! ## The one layout -/

/-- `expectedAux` in bytes. -/
@[irreducible] def webauthnBinding : Bytes := hexDigitPairs expectedAux.toList

/-- The header of an account the demo supports. -/
def spendHeader (sequence : UInt64) : StateHeader where
  flags := 1
  sequence := sequence
  spendThreshold := 1
  rotateThreshold := 1
  recoveryThreshold := 1
  authenticatorCount := 1
  recoverySince := 0

/-- Its one authenticator. -/
def spendEntry (verifier keyId : Byte32) : AuthenticatorEntry where
  slot := 0
  algorithmId := algP256Webauthn
  capabilities := capSpend ||| capRotate ||| capRecovery
  weight := 1
  verifierHashType := 0
  verifierAbi := verifierAbiV1
  verifierCodeHash := verifier
  keyId := keyId.val
  aux := webauthnBinding

/-- The bytes of that state. -/
def spendState (sequence : UInt64) (verifier keyId : Byte32) : Bytes :=
  (spendHeader sequence).layout ++ entriesLayout [spendEntry verifier keyId]

/-- The binding is the text of the source. -/
theorem webauthnBinding_eq : webauthnBinding = hexDigitPairs expectedAux.toList := by
  unfold webauthnBinding
  rfl

/-- The version, the hash of the relying party and the hash of the origin. -/
theorem expectedAux_toList :
    expectedAux.toList
      = (1 :: ((byte32 0x49960de5880e8c687434170f6476605b8fe4aeb9a28632c7995cf3ba831d9763).val
        ++ (byte32 0x4e90ec8f9d9b8d5bd3877ac003797738ff48419fcf8f97821a875ea4671955b6).val)).flatMap
          hexByte := by
  decide +kernel

/-- A version, then two hashes. -/
theorem webauthnBinding_bytes :
    webauthnBinding
      = 1 :: ((byte32 0x49960de5880e8c687434170f6476605b8fe4aeb9a28632c7995cf3ba831d9763).val
        ++ (byte32 0x4e90ec8f9d9b8d5bd3877ac003797738ff48419fcf8f97821a875ea4671955b6).val) := by
  rw [webauthnBinding_eq, expectedAux_toList, hexDigitPairs_flatMap]

theorem webauthnBinding_length : webauthnBinding.length = 65 := by
  rw [webauthnBinding_bytes, List.length_cons, List.length_append, (byte32 _).property,
    (byte32 _).property]

/-- The digits behind the marker decide the bytes. -/
theorem eq_webauthnBinding {aux : Bytes}
    (h : sliceFrom 2 (hexFromBytes aux) = expectedAux.toList) : aux = webauthnBinding := by
  rw [CkbSchemas.sliceFrom, hexFromBytes_toList] at h
  calc aux = hexDigitPairs (aux.flatMap hexByte) := (hexDigitPairs_flatMap aux).symm
    _ = hexDigitPairs expectedAux.toList := congrArg hexDigitPairs h
    _ = webauthnBinding := webauthnBinding_eq.symm

/-- The layout, field by field. -/
theorem spendState_eq (sequence : UInt64) (verifier keyId : Byte32) :
    spendState sequence verifier keyId
      = stateMagic ++ 1 :: 1 :: (u16Le (UInt16.ofNat stateHeaderBytes) ++ (u64Le sequence
        ++ (u16Le (UInt16.ofNat 1) ++ (u16Le (UInt16.ofNat 1) ++ (u16Le (UInt16.ofNat 1)
        ++ 1 :: 0 :: (u64Le (UInt64.ofNat 0)
        ++ (u16Le (UInt16.ofNat (stateEntryBytesWithoutVariableData + 32 + 65))
        ++ (u16Le (UInt16.ofNat 0) ++ (u16Le (UInt16.ofNat 1) ++ (u16Le (UInt16.ofNat 7)
        ++ (u16Le (UInt16.ofNat 1) ++ 0 :: 1 :: (verifier.val ++ (u16Le (UInt16.ofNat 32)
        ++ (u16Le (UInt16.ofNat 65) ++ (keyId.val ++ webauthnBinding))))))))))))))) := by
  rw [spendState, StateHeader.layout, entriesLayout, List.flatMap_cons, List.flatMap_nil,
    List.append_nil, AuthenticatorEntry.layout]
  simp only [spendHeader, spendEntry, keyId.property, webauthnBinding_length, List.append_assoc,
    List.cons_append]
  rfl

/-- A spend state has 177 bytes. -/
theorem spendState_length (sequence : UInt64) (verifier keyId : Byte32) :
    (spendState sequence verifier keyId).length = 177 := by
  have hkey : (spendEntry verifier keyId).keyId.length = 32 := keyId.property
  have haux : (spendEntry verifier keyId).aux.length = 65 := webauthnBinding_length
  rw [spendState, List.length_append, StateHeader.layout_length, entriesLayout, List.flatMap_cons,
    List.flatMap_nil, List.append_nil, AuthenticatorEntry.layout_length, hkey, haux]

/-- **`validate_state` accepts what the browser accepts.** -/
theorem validState_spendState (sequence : UInt64) (verifier keyId : Byte32) :
    ValidState (spendState sequence verifier keyId) (spendHeader sequence)
      [spendEntry verifier keyId] := by
  -- a spend state has one entry, the passkey of the page
  have hone : ∀ {p : AuthenticatorEntry → Prop}, p (spendEntry verifier keyId) →
      ∀ e ∈ [spendEntry verifier keyId], p e := by
    intro p hp e he
    rw [List.mem_singleton.mp he]
    exact hp
  have haux : (spendEntry verifier keyId).aux.length = 65 := webauthnBinding_length
  have hkey : (spendEntry verifier keyId).keyId.length = 32 := keyId.property
  have hweight : ∀ capability : UInt16,
      (capSpend ||| capRotate ||| capRecovery) &&& capability ≠ 0 →
      1 ≤ capWeight capability [spendEntry verifier keyId] := by
    intro capability hholds
    have hholds : holds (spendEntry verifier keyId) capability = true := decide_eq_true hholds
    rw [capWeight_cons, if_pos hholds, capWeight_nil]
    exact Nat.le_refl 1
  have hheader : (spendHeader sequence).WellFormed :=
    ⟨show (1 : UInt8) &&& ~~~stateFlagsKnownMask = 0 by decide, show (1 : UInt8) ≠ 0 by decide,
      show (1 : UInt8).toNat ≤ authenticatorMaxCount by decide⟩
  refine ⟨rfl, ?_, hheader, rfl,
    hone ⟨?_, show (1 : UInt16) ≠ 0 by decide,
      show (capSpend ||| capRotate ||| capRecovery) &&& ~~~capKnownMask = 0 by decide,
      show (0 : UInt8) ≤ 1 by decide, rfl⟩,
    hone ⟨rfl, hkey, ?_⟩, List.pairwise_singleton .., ?_⟩
  · rw [spendState_length]
    decide
  · rw [hkey, haux]
    decide
  · intro hnil
    rw [hnil] at haux
    cases haux
  · exact {
      spend_pos := Nat.one_pos
      spend_le := hweight capSpend (by decide)
      rotate_pos := Nat.one_pos
      rotate_le := hweight capRotate (by decide)
      recovery_on := fun _ => ⟨Nat.one_pos, hweight capRecovery (by decide)⟩
      recovery_off := fun hoff => absurd hoff
        (show ¬ decide ((1 : UInt8) &&& stateFlagRecoveryEnabled ≠ 0) = false by decide) }

/-- The checks leave one layout. -/
theorem Offsets.data_eq {data : Bytes} {sequence : Nat} (h : Offsets data sequence)
    {verifier keyId : Byte32} (hverifier : (data.drop 44).take 32 = verifier.val)
    (hkeyId : (data.drop 80).take 32 = keyId.val) :
    data = spendState (UInt64.ofNat sequence) verifier keyId := by
  -- from the last field to the first
  have h80 := drop_of_take 80 32 (eq_webauthnBinding h.aux)
  rw [hkeyId] at h80
  have h44 := drop_of_take 44 32
    (drop_of_getUint16 h.keyIdLength (drop_of_getUint16 h.auxLength h80))
  rw [hverifier] at h44
  have h32 := drop_of_getUint16 h.entryLength (drop_of_getUint16 h.slot
    (drop_of_getUint16 h.algorithm (drop_of_getUint16 h.capabilities
    (drop_of_getUint16 h.weight (drop_of_getElem? h.hashType (drop_of_getElem? h.abi h44))))))
  have h4 := drop_of_getElem? h.version (drop_of_getElem? h.flags
    (drop_of_getUint16 h.headerLength (drop_of_getBigUint64 h.sequence
    (drop_of_getUint16 h.spendThreshold (drop_of_getUint16 h.rotateThreshold
    (drop_of_getUint16 h.recoveryThreshold (drop_of_getElem? h.count
    (drop_of_getElem? h.reserved (drop_of_getBigUint64 h.since h32)))))))))
  rw [spendState_eq]
  calc data = data.take 4 ++ data.drop 4 := (List.take_append_drop 4 data).symm
    _ = _ := by rw [h.magic, h4]

/-- **What the fixed offsets accept**: the bytes of a supported account, whatever its sequence
    and its key, behind the deployed verifier. -/
theorem parseAccountState_eq_ok {dataHex : String} {account : VerifiedAccount}
    {parsed : ParsedState} (h : parseAccountState dataHex account = .ok parsed) :
    ∃ (sequence : UInt64) (verifier keyId : Byte32),
      bytesFromHex dataHex = .ok (spendState sequence verifier keyId)
        ∧ account.deployment.verifierP256Code.codeHash = hexFromBytes verifier.val
        ∧ parsed = { sequence := sequence.toNat, keyId := keyId.val } := by
  obtain ⟨data, hdata, hoffsets, hverifier, hparsed⟩ := offsets_of_parseAccountState h
  have hwidth : ∀ offset, offset + 32 ≤ 177 → ((data.drop offset).take 32).length = 32 := by
    intro offset hle
    rw [List.length_take, List.length_drop, hoffsets.size]
    omega
  refine ⟨UInt64.ofNat parsed.sequence, ⟨_, hwidth 44 (by decide)⟩, ⟨_, hwidth 80 (by decide)⟩, ?_,
    hverifier.symm, ?_⟩
  · rw [← hoffsets.data_eq rfl rfl]
    exact hdata
  · rw [toNat_of_getBigUint64 hoffsets.sequence]
    show parsed = ⟨parsed.sequence, (data.drop 80).take 32⟩
    rw [← hparsed]

/-! ## The layout at the offsets -/

section Written

variable {data field rest : Bytes} {offset : Nat}

/-- The rest of the data behind a field. -/
theorem drop_behind (width : Nat) (h : data.drop offset = field ++ rest)
    (hwidth : field.length = width) : data.drop (offset + width) = rest := by
  rw [← List.drop_drop, h, ← hwidth, List.drop_left]

/-- The rest of the data behind a byte. -/
theorem drop_behind_byte {byte : UInt8} (h : data.drop offset = byte :: rest) :
    data.drop (offset + 1) = rest := by
  rw [← List.drop_drop, h, List.drop_succ_cons, List.drop_zero]

theorem getUint16_of_drop {n : Nat} (h : data.drop offset = u16Le (UInt16.ofNat n) ++ rest)
    (hn : n < 2 ^ 16) : getUint16 data offset = .ok n := by
  have hlen := congrArg List.length h
  rw [List.length_drop, List.length_append, u16Le_length] at hlen
  refine getUint_eq_ok.mpr ⟨by omega, ?_⟩
  rw [h, List.take_left' (u16Le_length _), leValue_u16Le_ofNat hn]

theorem getBigUint64_of_drop {n : UInt64} (h : data.drop offset = u64Le n ++ rest) :
    getBigUint64 data offset = .ok n.toNat := by
  have hlen := congrArg List.length h
  rw [List.length_drop, List.length_append, u64Le_length] at hlen
  refine getUint_eq_ok.mpr ⟨by omega, ?_⟩
  rw [h, List.take_left' (u64Le_length _), ← u64FromLe_toNat (u64Le_length n), u64FromLe_u64Le]

theorem getElem?_of_drop {byte : UInt8} (h : data.drop offset = byte :: rest) :
    data[offset]? = some byte := by
  rw [← Nat.add_zero offset, ← List.getElem?_drop, h]
  rfl

end Written

/-- **The offsets find their fields** in the layout of a supported account. -/
theorem offsets_spendState (sequence : UInt64) (verifier keyId : Byte32) :
    Offsets (spendState sequence verifier keyId) sequence.toNat
      ∧ ((spendState sequence verifier keyId).drop 44).take 32 = verifier.val
      ∧ ((spendState sequence verifier keyId).drop 80).take 32 = keyId.val := by
  have hlen := spendState_length sequence verifier keyId
  have h0 := spendState_eq sequence verifier keyId
  generalize spendState sequence verifier keyId = data at hlen h0 ⊢
  rw [← List.drop_zero (l := data)] at h0
  -- from the first field to the last
  have h4 := drop_behind 4 h0 rfl
  have h5 := drop_behind_byte h4
  have h6 := drop_behind_byte h5
  have h8 := drop_behind 2 h6 (u16Le_length _)
  have h16 := drop_behind 8 h8 (u64Le_length _)
  have h18 := drop_behind 2 h16 (u16Le_length _)
  have h20 := drop_behind 2 h18 (u16Le_length _)
  have h22 := drop_behind 2 h20 (u16Le_length _)
  have h23 := drop_behind_byte h22
  have h24 := drop_behind_byte h23
  have h32 := drop_behind 8 h24 (u64Le_length _)
  have h34 := drop_behind 2 h32 (u16Le_length _)
  have h36 := drop_behind 2 h34 (u16Le_length _)
  have h38 := drop_behind 2 h36 (u16Le_length _)
  have h40 := drop_behind 2 h38 (u16Le_length _)
  have h42 := drop_behind 2 h40 (u16Le_length _)
  have h43 := drop_behind_byte h42
  have h44 := drop_behind_byte h43
  have h76 := drop_behind 32 h44 verifier.property
  have h78 := drop_behind 2 h76 (u16Le_length _)
  have h80 := drop_behind 2 h78 (u16Le_length _)
  have h112 := drop_behind 32 h80 keyId.property
  refine ⟨⟨hlen, ?_, getElem?_of_drop h4, getElem?_of_drop h5, getUint16_of_drop h6 (by decide),
    getBigUint64_of_drop h8, getUint16_of_drop h16 (by decide), getUint16_of_drop h18 (by decide),
    getUint16_of_drop h20 (by decide), getElem?_of_drop h22, getElem?_of_drop h23,
    getBigUint64_of_drop h24, getUint16_of_drop h32 (by decide), getUint16_of_drop h34 (by decide),
    getUint16_of_drop h36 (by decide), getUint16_of_drop h38 (by decide),
    getUint16_of_drop h40 (by decide), getElem?_of_drop h42, getElem?_of_drop h43,
    getUint16_of_drop h76 (by decide), getUint16_of_drop h78 (by decide), ?_⟩, ?_, ?_⟩
  · rw [List.drop_zero] at h0
    rw [h0]
    rfl
  · rw [h112, CkbSchemas.sliceFrom, hexFromBytes_toList, webauthnBinding_bytes, expectedAux_toList]
    rfl
  · rw [h44]
    exact List.take_left' verifier.property
  · rw [h80]
    exact List.take_left' keyId.property

/-- **The fixed offsets accept every supported account**, and read its sequence and key. -/
theorem parseAccountState_spendState {account : VerifiedAccount} {sequence : UInt64}
    {verifier keyId : Byte32} (hbytes : account.manifest.stateBytes = 177)
    (hverifier : account.deployment.verifierP256Code.codeHash = hexFromBytes verifier.val) :
    parseAccountState (hexFromBytes (spendState sequence verifier keyId)) account
      = .ok { sequence := sequence.toNat, keyId := keyId.val } := by
  obtain ⟨h, hverifierAt, hkeyAt⟩ := offsets_spendState sequence verifier keyId
  have hne : spendState sequence verifier keyId ≠ [] := by
    intro hnil
    have hsize := h.size
    rw [hnil] at hsize
    cases hsize
  rw [parseAccountState, bytesFromHex_hexFromBytes hne, ok_bind]
  -- only the offsets matter from here on, not the bytes around them
  generalize spendState sequence verifier keyId = data at h hverifierAt hkeyAt ⊢
  have hheader : stateHeaderBytes = 32 := rfl
  have hentry : stateEntryBytesWithoutVariableData = 48 := rfl
  have hsize := h.size
  rw [rejectIf_neg (by omega), ok_bind,
    rejectIf_neg (by rw [h.magic, h.version]; simp only [ne_eq, not_true, or_self, not_false_iff]),
    ok_bind, h.headerLength, ok_bind, h.spendThreshold, ok_bind, h.rotateThreshold, ok_bind,
    h.recoveryThreshold, ok_bind, h.since, ok_bind,
    rejectIf_neg (by
      rw [h.flags, h.count, h.reserved]
      simp only [ne_eq, not_true, or_self, not_false_iff]), ok_bind,
    h.entryLength, ok_bind, h.keyIdLength, ok_bind, h.auxLength, ok_bind, h.slot, ok_bind,
    h.algorithm, ok_bind, h.capabilities, ok_bind, h.weight, ok_bind,
    rejectIf_neg (by
      rw [h.hashType, h.abi, hsize, hheader, hentry]
      decide), ok_bind]
  refine rejectIf_bind_eq_ok.mpr ⟨?_, rejectIf_bind_eq_ok.mpr ⟨?_, ?_⟩⟩
  · rw [hverifierAt, hverifier]
    exact fun hdiffers => hdiffers rfl
  · exact fun hdiffers => hdiffers h.aux
  · rw [h.sequence, ok_bind, hkeyAt]
    rfl

/-! ## A verified account -/

theorem check_of_text {check : String → Bool} {v : Json} {t : String}
    (h : v.text check = some t) : check t = true := by
  cases v with
  | string text =>
      rw [Json.text] at h
      split at h
      · rename_i hcheck
        cases h
        exact hcheck
      · cases h
  | _ => cases h

/-- The text of a hash is the text of 32 bytes. -/
theorem byte32_of_isHash32 {text : String} (h : isHash32 text = true) :
    ∃ hash : Byte32, text = hexFromBytes hash.val := by
  have hmatches : matchesHex (hexFromBytes []) (2 * 32) text = true := h
  obtain ⟨bytes, hlen, rfl⟩ := hex_of_matches hmatches
  exact ⟨⟨bytes, hlen⟩, rfl⟩

/-- Bytes behind a lead have the pattern of that lead. -/
theorem matchesHex_hexFromBytes (lead bytes : Bytes) :
    matchesHex (hexFromBytes lead) (2 * bytes.length) (hexFromBytes (lead ++ bytes)) = true := by
  have htext : (hexFromBytes (lead ++ bytes)).toList
      = (hexFromBytes lead).toList ++ bytes.flatMap hexByte := by
    rw [hexFromBytes_toList, hexFromBytes_toList, List.flatMap_append]
    rfl
  simp only [matchesHex, htext, ← String.length_toList, List.take_left, List.drop_left,
    flatMap_hexByte_length, all_flatMap_hexByte, beq_self_eq_true, Bool.and_self]

/-- The text of 32 bytes is the text of a hash. -/
theorem isHash32_hexFromBytes (hash : Byte32) : isHash32 (hexFromBytes hash.val) = true := by
  have h := matchesHex_hexFromBytes [] hash.val
  rw [hash.property] at h
  exact h

theorem isAccountLockArgs_hexFromBytes (accountId : Byte32) :
    isAccountLockArgs (hexFromBytes (accountLockVersion :: accountId.val)) = true := by
  have hlead : hexFromBytes [accountLockVersion] = "0x01" := by decide +kernel
  have h := matchesHex_hexFromBytes [accountLockVersion] accountId.val
  rw [hlead, accountId.property] at h
  exact h

theorem isPublicKey_hexFromBytes {key : Bytes} (h : key.length = 64) :
    isPublicKey (hexFromBytes (4 :: key)) = true := by
  have hlead : hexFromBytes [4] = "0x04" := by decide +kernel
  have hmatches := matchesHex_hexFromBytes [4] key
  rw [hlead, h] at hmatches
  exact hmatches

/-- The account id of a manifest is a hash. -/
theorem accountManifestSchema_accountId {v : Json} {manifest : AccountManifest}
    (h : accountManifestSchema v = some manifest) : isHash32 manifest.accountId = true := by
  simp only [accountManifestSchema, Option.bind_eq_bind, Option.bind_eq_some_iff] at h
  obtain ⟨_, -, _, -, _, -, _, -, _, -, _, -, accountId, hid, _, -, _, -, _, -, _, -, _, -, _, -, _,
    -, _, -, _, -, _, -, _, -, h⟩ := h
  cases h
  exact check_of_text hid

/-- The text of the lock args is the text of the account id behind a version byte. -/
theorem lockArgs_text (accountId : Bytes) :
    "0x01" ++ String.ofList (CkbSchemas.sliceFrom 2 (hexFromBytes accountId))
      = hexFromBytes (accountLockVersion :: accountId) := by
  have hversion : hexByte accountLockVersion = ['0', '1'] := by decide
  apply String.toList_inj.mp
  simp only [String.toList_append, String.toList_ofList, CkbSchemas.sliceFrom, hexFromBytes_toList,
    List.flatMap_cons, hversion]
  rfl

/-- What binds a verified account together. -/
structure Bound (ccc : Package) (account : VerifiedAccount) (accountId : Byte32) : Prop where
  manifestId : account.manifest.accountId = hexFromBytes accountId.val
  lockArgs : account.accountLock.args = hexFromBytes (accountLockVersion :: accountId.val)
  stateType : ccc.scriptHash account.stateType = hexFromBytes accountId.val
  stateDep : account.stateDep = { outPoint := account.manifest.stateOutPoint, depType := .code }

/-- **A verified account names one account id** in its manifest, its lock args and its Type ID. -/
theorem validateAccount_eq_ok {ccc : Package} {value : Json} {deployment : VerifiedDeployment}
    {account : VerifiedAccount} (h : validateAccount ccc value deployment = .ok account) :
    ∃ accountId, Bound ccc account accountId := by
  rw [validateAccount] at h
  obtain ⟨manifest, hmanifest, h⟩ := bind_eq_ok.mp h
  obtain ⟨-, h⟩ := rejectIf_bind_eq_ok.mp h
  obtain ⟨-, h⟩ := rejectIf_bind_eq_ok.mp h
  obtain ⟨hargs, h⟩ := rejectIf_bind_eq_ok.mp h
  obtain ⟨hhash, h⟩ := rejectIf_bind_eq_ok.mp h
  cases h
  obtain ⟨accountId, hid⟩ :=
    byte32_of_isHash32 (accountManifestSchema_accountId (okOr_eq_ok.mp hmanifest))
  refine ⟨accountId, hid, ?_, (not_not.mp hhash).trans hid, rfl⟩
  rw [not_not.mp hargs, hid, lockArgs_text]

/-! ## The account a bootstrap run recorded -/

theorem text_of_check {check : String → Bool} {t : String} (h : check t = true) :
    (Json.string t).text check = some t := by
  rw [Json.text, if_pos h]

/-- **The file of a new account passes the schema.** -/
theorem accountManifestSchema_testnetAccountManifest
    {accountId codeHash args typeIdArgs txHash : String} {stateBytes : Nat}
    (hid : isHash32 accountId = true) (hcode : isHash32 codeHash = true)
    (hargs : isAccountLockArgs args = true) (htype : isHash32 typeIdArgs = true)
    (htx : isHash32 txHash = true) (hpos : 0 < stateBytes) (hsafe : stateBytes ≤ maxSafeInteger)
    (hbinds : CkbSchemas.sliceFrom 4 args = CkbSchemas.sliceFrom 2 accountId) :
    accountManifestSchema
        (testnetAccountManifest accountId codeHash args typeIdArgs txHash stateBytes)
      = some {
        accountId := accountId
        accountLock := { codeHash := codeHash, args := args }
        typeIdArgs := typeIdArgs
        stateOutPoint := { txHash := txHash, index := 0 }
        assetOutPoint := { txHash := txHash, index := 1 }
        stateBytes := stateBytes } := by
  have hbytes : (Json.number stateBytes).positive = some stateBytes := by
    simp [Json.positive, Json.nonnegative, hpos, hsafe, Option.filter]
  have hzero : (Json.number 0).nonnegative = some 0 := by decide
  have hone : (Json.number 1).nonnegative = some 1 := by decide
  simp [accountManifestSchema, testnetAccountManifest, Json.member, Json.isStrict, List.lookup_cons,
    Json.isOne, Json.isText, lockSchema, outPointSchema, text_of_check, hid, hcode, hargs, htype,
    htx, hbytes, hbinds, hzero, hone]

/-- The account behind such a file. -/
def testnetAccount (deployment : VerifiedDeployment)
    (accountId codeHash typeIdArgs txHash : Byte32) (stateBytes : Nat) : VerifiedAccount where
  manifest := {
    accountId := hexFromBytes accountId.val
    accountLock := {
      codeHash := hexFromBytes codeHash.val
      args := hexFromBytes (accountLockVersion :: accountId.val) }
    typeIdArgs := hexFromBytes typeIdArgs.val
    stateOutPoint := { txHash := hexFromBytes txHash.val, index := 0 }
    assetOutPoint := { txHash := hexFromBytes txHash.val, index := 1 }
    stateBytes := stateBytes }
  deployment := deployment
  accountLock := {
    codeHash := hexFromBytes codeHash.val
    hashType := .data2
    args := hexFromBytes (accountLockVersion :: accountId.val) }
  stateType := typeIdScript (hexFromBytes typeIdArgs.val)
  stateDep := {
    outPoint := { txHash := hexFromBytes txHash.val, index := 0 }
    depType := .code }

/-- **The browser accepts the file of a new account**, if its Type ID hashes to the account id
    and its lock is the deployed one. -/
theorem validateAccount_testnetAccountManifest {ccc : Package} {deployment : VerifiedDeployment}
    {accountId codeHash typeIdArgs txHash : Byte32} {stateBytes : Nat} (hpos : 0 < stateBytes)
    (hsafe : stateBytes ≤ maxSafeInteger)
    (hcode : deployment.accountLockCode.codeHash = hexFromBytes codeHash.val)
    (hhash : ccc.scriptHash (typeIdScript (hexFromBytes typeIdArgs.val))
      = hexFromBytes accountId.val) :
    validateAccount ccc (testnetAccountManifest (hexFromBytes accountId.val)
        (hexFromBytes codeHash.val) (hexFromBytes (accountLockVersion :: accountId.val))
        (hexFromBytes typeIdArgs.val) (hexFromBytes txHash.val) stateBytes) deployment
      = .ok (testnetAccount deployment accountId codeHash typeIdArgs txHash stateBytes) := by
  have hbinds : CkbSchemas.sliceFrom 4 (hexFromBytes (accountLockVersion :: accountId.val))
      = CkbSchemas.sliceFrom 2 (hexFromBytes accountId.val) := by
    rw [CkbSchemas.sliceFrom, CkbSchemas.sliceFrom, hexFromBytes_toList, hexFromBytes_toList,
      List.flatMap_cons, hexByte_eq]
    rfl
  have hschema := accountManifestSchema_testnetAccountManifest (isHash32_hexFromBytes accountId)
    (isHash32_hexFromBytes codeHash) (isAccountLockArgs_hexFromBytes accountId)
    (isHash32_hexFromBytes typeIdArgs) (isHash32_hexFromBytes txHash) hpos hsafe hbinds
  rw [validateAccount, hschema, okOr_some, ok_bind]
  refine rejectIf_bind_eq_ok.mpr ⟨?_, rejectIf_bind_eq_ok.mpr ⟨?_, rejectIf_bind_eq_ok.mpr ⟨?_,
    rejectIf_bind_eq_ok.mpr ⟨?_, rfl⟩⟩⟩⟩
  · exact fun hdiffers => hdiffers hcode.symm
  · rintro (hindex | hindex | htxHash)
    · exact hindex rfl
    · exact hindex rfl
    · exact htxHash rfl
  · exact fun hdiffers => hdiffers (lockArgs_text accountId.val).symm
  · exact fun hdiffers => hdiffers hhash

/-! ## The two cells -/

/-- What is known of the cells `discoverAccountCells` returns. -/
structure Discovered (client : SpendClient) (account : VerifiedAccount) (state asset : Cell) :
    Prop where
  stateLive : client.getCellLive account.manifest.stateOutPoint = .ok (some state)
  stateType : state.cellOutput.type = some account.stateType
  assetLive : client.getCellLive account.manifest.assetOutPoint = .ok (some asset)
  assetOutPoint : asset.outPoint = account.manifest.assetOutPoint
  assetLock : asset.cellOutput.lock = account.accountLock
  assetType : asset.cellOutput.type = none

/-- A verified state cell has the type of the account. -/
theorem verifyStateCell_type {state : Cell} {account : VerifiedAccount} {parsed : ParsedState}
    (h : verifyStateCell state account = .ok parsed) :
    state.cellOutput.type = some account.stateType := by
  rw [verifyStateCell] at h
  obtain ⟨-, h⟩ := rejectIf_bind_eq_ok.mp h
  obtain ⟨-, h⟩ := rejectIf_bind_eq_ok.mp h
  exact not_not.mp (rejectIf_bind_eq_ok.mp h).1

/-- **The cells are live in the view**, under the account's lock and Type ID. -/
theorem discoverAccountCells_eq_ok {client : SpendClient} {account : VerifiedAccount}
    {state asset : Cell} (h : discoverAccountCells client account = .ok (state, asset)) :
    Discovered client account state asset := by
  rw [discoverAccountCells] at h
  obtain ⟨live, hlive, h⟩ := bind_eq_ok.mp h
  obtain ⟨cell, hstate, h⟩ := bind_eq_ok.mp h
  obtain ⟨parsed, hverified, h⟩ := bind_eq_ok.mp h
  obtain ⟨assets, -, h⟩ := bind_eq_ok.mp h
  obtain ⟨found, -, h⟩ := bind_eq_ok.mp h
  obtain ⟨-, h⟩ := rejectIf_bind_eq_ok.mp h
  obtain ⟨liveAsset, hliveAsset, h⟩ := bind_eq_ok.mp h
  obtain ⟨cell', hasset, h⟩ := bind_eq_ok.mp h
  obtain ⟨hsame, h⟩ := rejectIf_bind_eq_ok.mp h
  cases h
  rw [okOr_eq_ok] at hstate hasset
  simp only [not_or, not_not, Bool.not_eq_true', Bool.not_eq_false, Bool.not_eq_true] at hsame
  obtain ⟨houtPoint, hlock, htype, -, -⟩ := hsame
  exact {
    stateLive := hstate ▸ hlive
    stateType := verifyStateCell_type hverified
    assetLive := hasset ▸ hliveAsset
    assetOutPoint := of_decide_eq_true houtPoint
    assetLock := hlock
    assetType := Option.isNone_iff_eq_none.mp (Option.isSome_eq_false_iff.mp htype) }

end CkbSpend
