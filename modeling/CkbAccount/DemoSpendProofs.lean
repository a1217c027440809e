import CkbAccount.Base64Proofs
import CkbAccount.SpendStateProofs

/-! # Preparing and finalizing a spend

    The second half of `demo/src/client/chain.ts`.  `prepareSpend` builds the transaction
    around a placeholder witness of maximal size and computes the digest to be signed;
    `finalizeSpend` puts the signed assertion in the place of the placeholder.

    * `sealProof_eq_ok`: the witness that carries one proof;
    * `maximumWitness_eq`: the placeholder;
    * `groupSighash_of_sealed`, `authorizationDigest_of_spend`: the digest leaves the proof out;
    * `prepareSpend_eq_ok`: what a prepared spend was made from;
    * `finalizeSpend_eq_ok`: what a finalized transaction differs in. -/

namespace CkbSpend

open RustOutcome Outcome LittleEndian CkbProtocol CkbBrowserCodec CkbSchemas CkbHostCodec
open CkbHostDigest CkbSighash CkbWitnessWire Molecule
open CkbCreation (Script CellInput CellOutput)
open CkbBrowserCodec (authorizationDigest groupSighash encodeP256Proof)

/-! ## Constants -/

/-- `MAX_AUTHENTICATOR_DATA_BYTES`. -/
def maxAuthenticatorDataBytes : Nat := 1024

/-- `MAX_CLIENT_DATA_BYTES`. -/
def maxClientDataBytes : Nat := 2048

/-- `MAX_DER_SIGNATURE_BYTES`. -/
def maxDerSignatureBytes : Nat := 72

/-- `MIN_AUTHENTICATOR_DATA_BYTES`. -/
def minAuthenticatorDataBytes : Nat := 37

/-- `SHANNONS_PER_CKB`. -/
def shannonsPerCkb : Int := 100000000

/-- `TRANSFER_CAPACITY`. -/
def transferCapacity : Int := 100 * shannonsPerCkb

/-- `FEE_RATE`. -/
def feeRate : Int := 1000

/-- `TextEncoder.encode`. -/
def textEncode (text : String) : Bytes := text.toUTF8.data.toList

/-! ## Prepared spends -/

/-- The dependencies that a spend must have. -/
inductive DependencyName where
  | accountLock
  | verifierP256
  | accountState
  deriving DecidableEq, Repr

/-- `SpendReview`. -/
structure SpendReview where
  inputCapacityShannons : String
  transferCapacityShannons : String
  changeCapacityShannons : String
  feeShannons : String
  funderAddress : String
  inputOutPoint : OutPoint
  dependencies : List (DependencyName × OutPoint)
  deriving DecidableEq, Repr

/-- `PreparedSpend`. -/
structure PreparedSpend where
  transaction : Transaction
  authorizationDigest : Bytes
  review : SpendReview
  maxWitnessBytes : Nat
  sequence : Nat
  credentialId : String
  publicKey : String
  accountId : String
  stateData : String
  deriving DecidableEq, Repr

/-- The transaction, with the capacity of its second output. -/
def spendTransaction (account : VerifiedAccount) (asset : Cell) (funderLock : Script)
    (change : Int) (placeholder : Bytes) : Transaction where
  cellDeps := [account.deployment.accountLockDep, account.deployment.verifierP256Dep,
    account.stateDep]
  inputs := [{ previousOutput := asset.outPoint, since := 0 }]
  outputs := [
    { capacity := transferCapacity, lock := funderLock, type := none },
    { capacity := change, lock := account.accountLock, type := none }]
  outputsData := ["0x", "0x"]
  witnesses := [hexFromBytes placeholder]

/-- The review of a spend. -/
def spendReview (account : VerifiedAccount) (asset : Cell) (funderAddress : String)
    (change fee : Int) : SpendReview where
  inputCapacityShannons := toString asset.cellOutput.capacity
  transferCapacityShannons := toString transferCapacity
  changeCapacityShannons := toString change
  feeShannons := toString fee
  funderAddress := funderAddress
  inputOutPoint := asset.outPoint
  dependencies := [
    (.accountLock, account.deployment.accountLockDep.outPoint),
    (.verifierP256, account.deployment.verifierP256Dep.outPoint),
    (.accountState, account.stateDep.outPoint)]

section Browser

-- `datetime` is the check of `z.string().datetime()`, `parseJson` decodes UTF-8 and parses
variable (ccc : Package) (datetime : String → Bool) (parseJson : Bytes → Option Json)

/-- `packAccountWitness`. -/
def packAccountWitness (witness : Bytes) : Outcome JsError Bytes :=
  okOr .library (ccc.codec.toBytes { lock := some witness, inputType := none, outputType := none })

/-- `packAccountWitness(encodeAccountWitness(OP_SPEND, sequence, [{ slot: 0, bytes: proof }]))`. -/
def sealProof (sequence : Nat) (proof : Bytes) : Outcome JsError Bytes := do
  packAccountWitness ccc
    (← encodeAccountWitness ccc.codec.engine 1 sequence [{ slot := 0, bytes := proof }])

/-- `maximumWitness`. -/
def maximumWitness (publicKey : Bytes) (sequence : Nat) : Outcome JsError Bytes := do
  let proof ← encodeP256Proof ccc.codec.engine {
    publicKey := publicKey
    origin := textEncode clientOrigin
    authenticatorData := List.replicate maxAuthenticatorDataBytes 0
    clientDataJson := List.replicate maxClientDataBytes 0
    signature := 0x30 :: UInt8.ofNat (maxDerSignatureBytes - 2)
      :: List.replicate (maxDerSignatureBytes - 2) 0 }
  sealProof ccc sequence proof

/-- `ensureOccupiedCapacity`. -/
def ensureOccupiedCapacity (label : String) (output : CellOutput) : Outcome JsError Unit :=
  rejectIf (output.capacity < ccc.occupiedSize output * shannonsPerCkb)
    (.rangeError (label ++ " output is below occupied capacity"))

/-- `prepareSpend`. -/
def prepareSpend (client : SpendClient) (account : VerifiedAccount) (funderAddress : String)
    (passkeyValue : Json) : Outcome JsError PreparedSpend := do
  let passkey ← okOr .library (passkeyRecordSchema datetime passkeyValue)
  let publicKey ← bytesFromHex passkey.publicKey
  rejectIf (hexFromBytes (ccc.codec.hashCkb publicKey) ≠ passkey.keyId)
    (.typeError "Stored passkey key ID does not match its public key")
  let (state, asset) ← discoverAccountCells client account
  let parsedState ← parseAccountState state.outputData account
  rejectIf (hexFromBytes parsedState.keyId ≠ passkey.keyId)
    (.typeError "Passkey does not match the live account state")
  let funderLock ← okOr .library (ccc.addressScript client.addressPrefix funderAddress)
  let inputCapacity := asset.cellOutput.capacity
  rejectIf (inputCapacity ≤ transferCapacity)
    (.rangeError "AccountLock asset cannot cover the fixed transfer and fee")
  let placeholder ← maximumWitness ccc publicKey parsedState.sequence
  let draft := spendTransaction account asset funderLock (inputCapacity - transferCapacity)
    placeholder
  let fee ← okOr .library (ccc.estimateFee draft feeRate)
  let change := inputCapacity - transferCapacity - fee
  rejectIf (change ≤ 0) (.rangeError "AccountLock asset cannot cover the fixed transfer and fee")
  let transaction := spendTransaction account asset funderLock change placeholder
  ensureOccupiedCapacity ccc "Transfer"
    { capacity := transferCapacity, lock := funderLock, type := none }
  ensureOccupiedCapacity ccc "Change"
    { capacity := change, lock := account.accountLock, type := none }
  let txHash ← okOr .library ((ccc.transactionHash transaction).bind ccc.bytesFrom)
  let firstWitness ← okOr .library (transaction.witnesses.head?.bind ccc.bytesFrom)
  let canonicalGroupSighash ← groupSighash ccc.codec txHash [firstWitness] []
  let digest ← authorizationDigest ccc.codec {
    operation := 1
    accountId := ← bytesFromHex account.manifest.accountId
    sequence := parsedState.sequence
    state := ← bytesFromHex state.outputData
    groupSighash := canonicalGroupSighash }
  return {
    transaction := transaction
    authorizationDigest := digest
    review := spendReview account asset funderAddress change fee
    maxWitnessBytes := placeholder.length
    sequence := parsedState.sequence
    credentialId := passkey.credentialId
    publicKey := passkey.publicKey
    accountId := account.manifest.accountId
    stateData := state.outputData }

/-! ## Assertions -/

/-- `AssertionMaterial`. -/
structure AssertionMaterial where
  credentialId : String
  authenticatorData : Bytes
  clientDataJson : Bytes
  signature : Bytes
  deriving DecidableEq, Repr

/-- The alphabet of `btoa`. -/
def btoaCharacter (n : Nat) : Char :=
  if n < 26 then Char.ofNat (0x41 + n)
  else if n < 52 then Char.ofNat (0x61 + (n - 26))
  else if n < 62 then Char.ofNat (0x30 + (n - 52))
  else if n = 62 then '+'
  else '/'

/-- `btoa`: padded to full groups of four characters. -/
def btoa (bytes : Bytes) : List Char :=
  (Base64.sextets (bytes.flatMap Base64.bits)).map btoaCharacter
    ++ List.replicate ((3 - bytes.length % 3) % 3) '='

/-- `base64url`. -/
def base64url (bytes : Bytes) : String :=
  let replaced := (btoa bytes).map fun c => if c = '+' then '-' else if c = '/' then '_' else c
  String.ofList (replaced.reverse.dropWhile (· = '=')).reverse

/-- `typeof value === "object" && value !== null`. -/
def isObject : Json → Bool
  | .object _ => true
  | .array _ => true
  | _ => false

/-- `validateClientData`. -/
def validateClientData (prepared : PreparedSpend) (bytes : Bytes) : Outcome JsError Unit := do
  let value ← okOr (.typeError "Assertion client data is not valid UTF-8 JSON") (parseJson bytes)
  rejectIf (!isObject value) (.typeError "Assertion client data is malformed")
  let is := fun name expected => (value.member name).any (Json.isText expected)
  rejectIf (!is "type" "webauthn.get"
      ∨ !is "challenge" (base64url prepared.authorizationDigest)
      ∨ !is "origin" clientOrigin
      ∨ !(value.member "crossOrigin").all fun v => v matches .bool false)
    (.typeError "Assertion client data does not authorize this transaction")

/-- `validateDerSignature`. -/
def validateDerSignature (signature : Bytes) : Outcome JsError Unit :=
  rejectIf (signature.length < 8 ∨ signature.length > maxDerSignatureBytes
      ∨ signature[0]? ≠ some 0x30
      ∨ signature[1]?.map UInt8.toNat ≠ some (signature.length - 2))
    (.typeError "Assertion signature is not bounded P-256 DER")

/-- `finalizeSpend`. -/
def finalizeSpend (prepared : PreparedSpend) (passkeyValue : Json)
    (assertion : AssertionMaterial) : Outcome JsError Transaction := do
  let passkey ← okOr .library (passkeyRecordSchema datetime passkeyValue)
  rejectIf (assertion.credentialId ≠ prepared.credentialId
      ∨ passkey.credentialId ≠ prepared.credentialId
      ∨ passkey.publicKey ≠ prepared.publicKey)
    (.typeError "Assertion credential does not match the prepared spend")
  rejectIf (assertion.authenticatorData.length < minAuthenticatorDataBytes
      ∨ assertion.authenticatorData.length > maxAuthenticatorDataBytes)
    (.rangeError "Assertion authenticator data is outside supported bounds")
  rejectIf (assertion.clientDataJson.length = 0
      ∨ assertion.clientDataJson.length > maxClientDataBytes)
    (.rangeError "Assertion client data is outside supported bounds")
  validateDerSignature assertion.signature
  validateClientData parseJson prepared assertion.clientDataJson
  let proof ← encodeP256Proof ccc.codec.engine {
    publicKey := ← bytesFromHex passkey.publicKey
    origin := textEncode clientOrigin
    authenticatorData := assertion.authenticatorData
    clientDataJson := assertion.clientDataJson
    signature := assertion.signature }
  let witness ← sealProof ccc prepared.sequence proof
  rejectIf (witness.length > prepared.maxWitnessBytes)
    (.rangeError "Assertion witness exceeds the prepared fee reservation")
  let finalized := { prepared.transaction with
    witnesses := prepared.transaction.witnesses.set 0 (hexFromBytes witness) }
  rejectIf ((← okOr .library (ccc.transactionHash finalized))
      ≠ (← okOr .library (ccc.transactionHash prepared.transaction)))
    (.typeError "Finalizing the witness changed raw transaction fields")
  return finalized

end Browser

/-! ## The witness of one proof -/

variable {ccc : Package} {ckbHash : Bytes → Byte32}

/-- The proof of slot 0. -/
def slotProof (proof : Bytes) : SlotProof where
  slot := 0
  proof := proof

/-- The `WitnessArgs` that carry it. -/
def proofArgs (sequence : UInt64) (proof : Bytes) : WitnessArgs where
  lock := some (witnessLayout opSpend sequence [slotProof proof])
  inputType := none
  outputType := none

/-- The length of the witness. -/
theorem proofArgs_length (sequence : UInt64) (proof : Bytes) :
    (proofArgs sequence proof).asBytes.length
      = 20 + (witnessLayout opSpend sequence [slotProof proof]).length := by
  rw [WitnessArgs.asBytes, table_three_length]
  show 16 + ((fixvec _).length + (0 + 0)) = _
  rw [fixvec_length]
  omega

theorem slotWitness_length (sequence : UInt64) (proof : Bytes) :
    (witnessLayout opSpend sequence [slotProof proof]).length = 24 + proof.length := by
  rw [witnessLayout, List.length_append, AccountWitnessHeader.layout_length, List.flatMap_cons,
    List.flatMap_nil, List.append_nil, SlotProof.layout_length]
  show 16 + (8 + proof.length) = _
  omega

/-- What the browser encodes, the host's encoder encodes. -/
theorem encodeAccountWitness_spend (hccc : ccc.codec.Follows ckbHash) {sequence : UInt64}
    {proof lock : Bytes}
    (h : encodeAccountWitness ccc.codec.engine 1 sequence.toNat [{ slot := 0, bytes := proof }]
      = .ok lock) :
    EncodableWitness opSpend [slotProof proof]
      ∧ lock = witnessLayout opSpend sequence [slotProof proof] :=
  encodeWitness_eq_ok.mp
    ((encodeAccountWitness_iff hccc.ample opSpend sequence [slotProof proof] lock).mp h)

/-- An encodable lock field is no longer than the protocol allows. -/
theorem witnessLayout_length_le (sequence : UInt64) {proof : Bytes}
    (h : EncodableWitness opSpend [slotProof proof]) :
    (witnessLayout opSpend sequence [slotProof proof]).length ≤ accountWitnessMaxLockLen := by
  rw [witnessLayout, List.length_append, AccountWitnessHeader.layout_length]
  exact h.size

/-- **The witness that carries one proof.** -/
theorem sealProof_eq_ok (hccc : ccc.codec.Follows ckbHash) {sequence : UInt64}
    {proof witness : Bytes} (h : sealProof ccc sequence.toNat proof = .ok witness) :
    EncodableWitness opSpend [slotProof proof] ∧ witness = (proofArgs sequence proof).asBytes := by
  rw [sealProof] at h
  obtain ⟨lock, hlock, h⟩ := bind_eq_ok.mp h
  obtain ⟨hencodable, rfl⟩ := encodeAccountWitness_spend hccc hlock
  have hle := witnessLayout_length_le sequence hencodable
  have hwrites := hccc.writes (proofArgs sequence proof) (by
    rw [proofArgs_length]
    unfold accountWitnessMaxLockLen at hle
    omega)
  rw [packAccountWitness, okOr_eq_ok] at h
  exact ⟨hencodable, Option.some.inj (h.symm.trans hwrites)⟩

/-- A proof of this size is encoded. -/
theorem encodable_slotProof {proof : Bytes} (hne : proof ≠ []) (hle : proof.length ≤ 65536) :
    EncodableWitness opSpend [slotProof proof] := by
  refine ⟨.inl rfl, Nat.le_of_ble_eq_true rfl, ?_, List.pairwise_singleton .., ?_⟩
  · intro p hp
    rw [List.mem_singleton.mp hp]
    exact hne
  · have hlen : (slotProof proof).proof.length = proof.length := rfl
    rw [List.flatMap_cons, List.flatMap_nil, List.append_nil, SlotProof.layout_length, hlen]
    unfold accountWitnessMaxLockLen
    omega

/-- The other direction of `sealProof_eq_ok`. -/
theorem sealProof_of_encodable (hccc : ccc.codec.Follows ckbHash) (sequence : UInt64)
    {proof : Bytes} (h : EncodableWitness opSpend [slotProof proof]) :
    sealProof ccc sequence.toNat proof = .ok (proofArgs sequence proof).asBytes := by
  have hlock : encodeAccountWitness ccc.codec.engine 1 sequence.toNat
      [{ slot := 0, bytes := proof }] = .ok (witnessLayout opSpend sequence [slotProof proof]) :=
    (encodeAccountWitness_iff hccc.ample opSpend sequence [slotProof proof] _).mpr
      (encodeWitness_eq_ok.mpr ⟨h, rfl⟩)
  have hle := witnessLayout_length_le sequence h
  have hwrites := hccc.writes (proofArgs sequence proof) (by
    rw [proofArgs_length]
    unfold accountWitnessMaxLockLen at hle
    omega)
  rw [sealProof, hlock, ok_bind, packAccountWitness]
  exact okOr_eq_ok.mpr hwrites

/-- The assertion the placeholder is made of. -/
def maximumAssertion (publicKey : Bytes) : CkbProofWire.PasskeyProof where
  publicKey := publicKey
  origin := textEncode clientOrigin
  authenticatorData := List.replicate maxAuthenticatorDataBytes 0
  clientDataJson := List.replicate maxClientDataBytes 0
  signature := 0x30 :: UInt8.ofNat (maxDerSignatureBytes - 2)
    :: List.replicate (maxDerSignatureBytes - 2) 0

theorem textEncode_clientOrigin_length : (textEncode clientOrigin).length = 21 := by
  decide +kernel

/-- The largest assertion is a proof. -/
theorem maximumAssertion_wellFormed {publicKey : Bytes} (hlen : publicKey.length = 65) :
    (maximumAssertion publicKey).WellFormed := by
  have horigin : (maximumAssertion publicKey).origin.length = 21 := textEncode_clientOrigin_length
  have hdata : (maximumAssertion publicKey).authenticatorData.length = 1024 :=
    List.length_replicate
  have hclient : (maximumAssertion publicKey).clientDataJson.length = 2048 := List.length_replicate
  have hsignature : (maximumAssertion publicKey).signature.length = 72 := by
    show (List.replicate (maxDerSignatureBytes - 2) (0 : UInt8)).length + 1 + 1 = 72
    rw [List.length_replicate]
    rfl
  constructor <;> first | exact hlen | omega

/-- The length of the bytes of an assertion. -/
theorem layout_length {p : CkbProofWire.PasskeyProof} (h : p.publicKey.length = 65) :
    p.layout.length = 72 + p.origin.length + p.authenticatorData.length
      + p.clientDataJson.length + p.signature.length := by
  simp only [CkbProofWire.PasskeyProof.layout, CkbProofWire.sized, List.length_append,
    List.length_cons, u16Le_length]
  omega

/-- It has 3237 bytes. -/
theorem maximumAssertion_length {publicKey : Bytes} (hlen : publicKey.length = 65) :
    (maximumAssertion publicKey).layout.length = 3237 := by
  rw [layout_length hlen]
  show 72 + (textEncode clientOrigin).length + (List.replicate 1024 (0 : UInt8)).length
    + (List.replicate 2048 (0 : UInt8)).length
    + ((List.replicate 70 (0 : UInt8)).length + 1 + 1) = 3237
  simp only [textEncode_clientOrigin_length, List.length_replicate]

/-- It fits a witness. -/
theorem maximumAssertion_encodable {publicKey : Bytes} (hlen : publicKey.length = 65) :
    EncodableWitness opSpend [slotProof (maximumAssertion publicKey).layout] := by
  have hlayout := maximumAssertion_length hlen
  refine encodable_slotProof ?_ (by omega)
  intro hnil
  rw [hnil] at hlayout
  cases hlayout

/-- **The placeholder**: the witness of an assertion of maximal size. -/
theorem maximumWitness_eq (hccc : ccc.codec.Follows ckbHash) {publicKey : Bytes}
    (hlen : publicKey.length = 65) (hhead : publicKey.head? = some 4) (sequence : UInt64) :
    maximumWitness ccc publicKey sequence.toNat
      = .ok (proofArgs sequence (maximumAssertion publicKey).layout).asBytes := by
  have hproof : encodeP256Proof ccc.codec.engine {
      publicKey := publicKey
      origin := textEncode clientOrigin
      authenticatorData := List.replicate maxAuthenticatorDataBytes 0
      clientDataJson := List.replicate maxClientDataBytes 0
      signature := 0x30 :: UInt8.ofNat (maxDerSignatureBytes - 2)
        :: List.replicate (maxDerSignatureBytes - 2) 0 }
      = .ok (maximumAssertion publicKey).layout :=
    (CkbBrowserCodec.encodeP256Proof_iff hccc.ample _ _).mpr
      ((encodeP256Proof_eq_ok (p := maximumAssertion publicKey)).mpr
        ⟨maximumAssertion_wellFormed hlen, hhead, rfl⟩)
  rw [maximumWitness, hproof, ok_bind]
  exact sealProof_of_encodable hccc sequence (maximumAssertion_encodable hlen)

/-! ## The digest -/

/-- **The group sighash leaves the proof out**: it depends on the transaction hash only. -/
theorem groupSighash_of_sealed (hccc : ccc.codec.Follows ckbHash) (txHash : Byte32)
    {sequence : UInt64} {proof : Bytes} (hencodable : EncodableWitness opSpend [slotProof proof]) :
    groupSighash ccc.codec txHash.val [(proofArgs sequence proof).asBytes] []
      = .ok (ckbHash (streamOf txHash [] [] [] [])).val := by
  have hle := witnessLayout_length_le sequence hencodable
  unfold accountWitnessMaxLockLen at hle
  have hargs : (proofArgs sequence proof).asBytes.length < 2 ^ 32 := by
    rw [proofArgs_length]
    omega
  have hrebuild : (rebuild (proofArgs sequence proof)).length < 2 ^ 32 := by
    have := rebuild_length_le (proofArgs sequence proof)
    rw [proofArgs_length] at this
    omega
  have hread : WitnessArgs.fromSlice (proofArgs sequence proof).asBytes
      = some (proofArgs sequence proof) := WitnessArgs.fromSlice_eq_some.mpr ⟨rfl, hargs⟩
  have hmax : ∀ w ∈ rebuild (proofArgs sequence proof) :: ([] ++ []), w.length < 2 ^ 64 := by
    intro w hw
    rcases List.mem_cons.mp hw with rfl | hw
    · exact Nat.lt_trans hrebuild (by decide)
    · cases hw
  -- the host streams the witness with its lock emptied
  have hhost : CkbHostDigest.groupSighash ckbHash txHash [(proofArgs sequence proof).asBytes] []
      = .ok (ckbHash (streamOf txHash [] [] [] [])) := by
    rw [groupSighash_eq hread hmax]
    rfl
  -- the stream is short, so the engine takes it in one message
  have htaken : ccc.codec.engine.TakesMessage (streamOf txHash [] [] [] []) [] [] := by
    refine ⟨Nat.le_trans (by decide) hccc.ample.arguments,
      Nat.le_trans ?_ hccc.ample.byteLength⟩
    rw [streamOf, List.length_append, txHash.property]
    decide +kernel
  exact (groupSighash_iff hccc txHash (proofArgs sequence proof) [] [] _ hargs hrebuild).mpr
    ⟨htaken, _, hhost, rfl⟩

/-- Whatever the browser hashes has the width of a transaction hash. -/
theorem groupSighash_sealed (hccc : ccc.codec.Follows ckbHash) {sequence : UInt64}
    {proof txHash sighash : Bytes} (hencodable : EncodableWitness opSpend [slotProof proof])
    (h : groupSighash ccc.codec txHash [(proofArgs sequence proof).asBytes] [] = .ok sighash) :
    ∃ hash : Byte32, txHash = hash.val
      ∧ sighash = (ckbHash (streamOf hash [] [] [] [])).val := by
  have hlen : txHash.length = 32 := by
    rw [CkbBrowserCodec.groupSighash] at h
    obtain ⟨hrequired, -⟩ := unit_bind_eq_ok.mp h
    exact not_not.mp (rejectIf_eq_ok.mp hrequired)
  exact ⟨⟨txHash, hlen⟩, rfl,
    Outcome.ok.inj (h.symm.trans (groupSighash_of_sealed hccc ⟨txHash, hlen⟩ hencodable))⟩

/-- The digest the browser asks to be signed is the contract's. -/
theorem authorizationDigest_of_spend (hccc : ccc.codec.Follows ckbHash)
    (accountId sighash : Byte32) (sequence : UInt64) (state : Bytes) :
    authorizationDigest ccc.codec {
        operation := 1
        accountId := accountId.val
        sequence := sequence.toNat
        state := state
        groupSighash := sighash.val }
      = .ok (CkbSighash.authorizationDigest ckbHash opSpend accountId sequence state sighash).val :=
  (authorizationDigest_iff hccc opSpend accountId sequence state sighash _).mpr ⟨_, rfl, rfl⟩

/-- The digest of a spend is the one of the host. -/
theorem authorizationDigest_spend (hccc : ccc.codec.Follows ckbHash) {accountId sighash : Byte32}
    {sequence : UInt64} {state digest : Bytes}
    (h : authorizationDigest ccc.codec {
        operation := 1
        accountId := accountId.val
        sequence := sequence.toNat
        state := state
        groupSighash := sighash.val } = .ok digest) :
    digest = (CkbSighash.authorizationDigest ckbHash opSpend accountId sequence state
      sighash).val :=
  Outcome.ok.inj (h.symm.trans (authorizationDigest_of_spend hccc accountId sighash sequence state))

/-! ## What the two functions return -/

/-- What a prepared spend was made from. -/
structure SpendFrom (ccc : Package) (ckbHash : Bytes → Byte32) (client : SpendClient)
    (account : VerifiedAccount) (p : PreparedSpend) (accountId txHash verifier : Byte32)
    (publicKey : Bytes) (sequence : UInt64) : Prop where
  cells : ∃ state asset funderLock change placeholder draft fee,
    Discovered client account state asset
      ∧ p.stateData = state.outputData
      ∧ p.transaction = spendTransaction account asset funderLock change placeholder
      ∧ p.maxWitnessBytes = placeholder.length
      ∧ draft.witnesses = [hexFromBytes placeholder]
      ∧ ccc.estimateFee draft feeRate = some fee
      ∧ p.review.feeShannons = toString fee
  keyBytes : bytesFromHex p.publicKey = .ok publicKey
  stateBytes : bytesFromHex p.stateData = .ok (spendState sequence verifier (ckbHash publicKey))
  verifierHash : account.deployment.verifierP256Code.codeHash = hexFromBytes verifier.val
  sequenceOf : p.sequence = sequence.toNat
  hashed : (ccc.transactionHash p.transaction).bind ccc.bytesFrom = some txHash.val
  digest : p.authorizationDigest = (CkbSighash.authorizationDigest ckbHash opSpend accountId
    sequence (spendState sequence verifier (ckbHash publicKey))
    (ckbHash (streamOf txHash [] [] [] []))).val

/-- **What `prepareSpend` returns**: a transaction around the placeholder, and the contract's
    digest of it. -/
theorem prepareSpend_eq_ok (hccc : ccc.codec.Follows ckbHash)
    (hhex : ∀ bytes, ccc.bytesFrom (hexFromBytes bytes) = some bytes)
    {datetime : String → Bool} {client : SpendClient} {account : VerifiedAccount}
    {funderAddress : String} {passkeyValue : Json} {p : PreparedSpend} {accountId : Byte32}
    (hid : account.manifest.accountId = hexFromBytes accountId.val)
    (h : prepareSpend ccc datetime client account funderAddress passkeyValue = .ok p) :
    ∃ txHash verifier publicKey sequence,
      SpendFrom ccc ckbHash client account p accountId txHash verifier publicKey sequence := by
  rw [prepareSpend] at h
  obtain ⟨passkey, -, h⟩ := bind_eq_ok.mp h
  obtain ⟨publicKey, hpublicKey, h⟩ := bind_eq_ok.mp h
  obtain ⟨hkeyId, h⟩ := rejectIf_bind_eq_ok.mp h
  obtain ⟨⟨state, asset⟩, hcells, h⟩ := bind_eq_ok.mp h
  obtain ⟨parsed, hparsed, h⟩ := bind_eq_ok.mp h
  obtain ⟨hsameKey, h⟩ := rejectIf_bind_eq_ok.mp h
  obtain ⟨funderLock, -, h⟩ := bind_eq_ok.mp h
  obtain ⟨-, h⟩ := rejectIf_bind_eq_ok.mp h
  obtain ⟨placeholder, hplaceholder, h⟩ := bind_eq_ok.mp h
  obtain ⟨fee, hfee, h⟩ := bind_eq_ok.mp h
  obtain ⟨-, h⟩ := rejectIf_bind_eq_ok.mp h
  obtain ⟨-, h⟩ := unit_bind_eq_ok.mp h
  obtain ⟨-, h⟩ := unit_bind_eq_ok.mp h
  obtain ⟨txHash, htxHash, h⟩ := bind_eq_ok.mp h
  obtain ⟨firstWitness, hfirst, h⟩ := bind_eq_ok.mp h
  obtain ⟨sighash, hsighash, h⟩ := bind_eq_ok.mp h
  obtain ⟨id, hidBytes, h⟩ := bind_eq_ok.mp h
  obtain ⟨stateBytes, hstateBytes, h⟩ := bind_eq_ok.mp h
  obtain ⟨digest, hdigest, h⟩ := bind_eq_ok.mp h
  cases h
  -- the live state is that of the passkey
  obtain ⟨sequence, verifier, keyId, hstate, hverifier, rfl⟩ := parseAccountState_eq_ok hparsed
  have hkey : keyId = ckbHash publicKey := by
    apply Subtype.ext
    rw [← hccc.hash]
    exact hexFromBytes_injective ((not_not.mp hsameKey).trans (not_not.mp hkeyId).symm)
  subst hkey
  -- the digest does not see the placeholder
  rw [maximumWitness] at hplaceholder
  obtain ⟨proof, -, hseal⟩ := bind_eq_ok.mp hplaceholder
  obtain ⟨hencodable, rfl⟩ := sealProof_eq_ok hccc hseal
  have hfirst : firstWitness = (proofArgs sequence proof).asBytes :=
    Option.some.inj ((okOr_eq_ok.mp hfirst).symm.trans (hhex _))
  rw [hfirst] at hsighash
  obtain ⟨hash, rfl, rfl⟩ := groupSighash_sealed hccc hencodable hsighash
  cases Outcome.ok.inj (hstateBytes.symm.trans hstate)
  have hidBytes : id = accountId.val := by
    rw [hid] at hidBytes
    exact (hexFromBytes_injective (bytesFromHex_eq_ok.mp hidBytes).2).symm
  rw [hidBytes] at hdigest
  exact ⟨hash, verifier, publicKey, sequence, {
    cells := ⟨state, asset, funderLock, _, _, _, fee, discoverAccountCells_eq_ok hcells, rfl, rfl,
      rfl, rfl, okOr_eq_ok.mp hfee, rfl⟩
    keyBytes := hpublicKey
    stateBytes := hstate
    verifierHash := hverifier
    sequenceOf := rfl
    hashed := okOr_eq_ok.mp htxHash
    digest := authorizationDigest_spend hccc hdigest }⟩

/-- The assertion as the encoder takes it. -/
def assertionInput (publicKey : Bytes) (assertion : AssertionMaterial) : P256ProofInput where
  publicKey := publicKey
  origin := textEncode clientOrigin
  authenticatorData := assertion.authenticatorData
  clientDataJson := assertion.clientDataJson
  signature := assertion.signature

/-- What a finalized transaction was made from. -/
structure FinalizedFrom (ccc : Package) (p : PreparedSpend) (assertion : AssertionMaterial)
    (t : Transaction) (publicKey proof witness : Bytes) : Prop where
  keyBytes : bytesFromHex p.publicKey = .ok publicKey
  data_le : assertion.authenticatorData.length ≤ maxAuthenticatorDataBytes
  client_le : assertion.clientDataJson.length ≤ maxClientDataBytes
  signature_le : assertion.signature.length ≤ maxDerSignatureBytes
  encoded : encodeP256Proof ccc.codec.engine (assertionInput publicKey assertion) = .ok proof
  sealedProof : sealProof ccc p.sequence proof = .ok witness
  fits : witness.length ≤ p.maxWitnessBytes
  transaction : t = { p.transaction with
    witnesses := p.transaction.witnesses.set 0 (hexFromBytes witness) }
  sameHash : ccc.transactionHash t = ccc.transactionHash p.transaction

/-- **What `finalizeSpend` returns**: the prepared transaction with another first witness. -/
theorem finalizeSpend_eq_ok {datetime : String → Bool} {parseJson : Bytes → Option Json}
    {p : PreparedSpend} {passkeyValue : Json} {assertion : AssertionMaterial} {t : Transaction}
    (h : finalizeSpend ccc datetime parseJson p passkeyValue assertion = .ok t) :
    ∃ publicKey proof witness, FinalizedFrom ccc p assertion t publicKey proof witness := by
  rw [finalizeSpend] at h
  obtain ⟨passkey, -, h⟩ := bind_eq_ok.mp h
  obtain ⟨hcredential, h⟩ := rejectIf_bind_eq_ok.mp h
  obtain ⟨hdata, h⟩ := rejectIf_bind_eq_ok.mp h
  obtain ⟨hclient, h⟩ := rejectIf_bind_eq_ok.mp h
  obtain ⟨hsignature, h⟩ := unit_bind_eq_ok.mp h
  obtain ⟨-, h⟩ := unit_bind_eq_ok.mp h
  obtain ⟨publicKey, hpublicKey, h⟩ := bind_eq_ok.mp h
  obtain ⟨proof, hproof, h⟩ := bind_eq_ok.mp h
  obtain ⟨witness, hwitness, h⟩ := bind_eq_ok.mp h
  obtain ⟨hfits, h⟩ := rejectIf_bind_eq_ok.mp h
  obtain ⟨hash, hhash, h⟩ := bind_eq_ok.mp h
  obtain ⟨hash', hhash', h⟩ := bind_eq_ok.mp h
  obtain ⟨hsame, h⟩ := rejectIf_bind_eq_ok.mp h
  cases h
  -- from here on the checks are read as facts about lengths and hashes
  rw [validateDerSignature, rejectIf_eq_ok] at hsignature
  rw [okOr_eq_ok] at hhash hhash'
  simp only [not_or, not_not, Nat.not_lt] at hcredential hdata hclient hsignature hfits hsame
  rw [hcredential.2.2] at hpublicKey
  exact ⟨publicKey, proof, witness, {
    keyBytes := hpublicKey
    data_le := hdata.2
    client_le := hclient.2
    signature_le := hsignature.2.1
    encoded := hproof
    sealedProof := hwitness
    fits := hfits
    transaction := rfl
    sameHash := by rw [hhash, hhash', hsame] }⟩

end CkbSpend
