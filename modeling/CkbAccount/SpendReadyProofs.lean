import CkbAccount.DemoSpendProofs

/-! # When a spend goes through

    The other direction of `prepareSpend_eq_ok` and `finalizeSpend_eq_ok`: what `prepareSpend`
    and `finalizeSpend` need to return.

    * `discoverAccountCells_of_shown`: a view in which the cells are found;
    * `prepareSpend_of_spendable`: the cells, the record and the capacities of a spend that is
      prepared;
    * `Admissible.fits`: no assertion within the bounds outgrows the placeholder;
    * `finalizeSpend_of_admissible`: the assertions that are sealed into the transaction. -/

namespace CkbSpend

open RustOutcome Outcome LittleEndian CkbProtocol CkbBrowserCodec CkbSchemas CkbHostCodec
open CkbHostDigest CkbSighash CkbWitnessWire Molecule
open CkbCreation (Script CellInput CellOutput)
open CkbBrowserCodec (authorizationDigest groupSighash encodeP256Proof)

variable {ccc : Package} {ckbHash : Bytes → Byte32}

/-! ## The cells -/

section Cells

variable {client : SpendClient} {account : VerifiedAccount} {state asset : Cell}
  {parsed : ParsedState}

/-- The state cell of an account. -/
structure IsState (account : VerifiedAccount) (state : Cell) (parsed : ParsedState) : Prop where
  outPoint : state.outPoint = account.manifest.stateOutPoint
  lock : state.cellOutput.lock = account.accountLock
  type : state.cellOutput.type = some account.stateType
  data : parseAccountState state.outputData account = .ok parsed

/-- Its asset cell. -/
structure IsAsset (account : VerifiedAccount) (asset : Cell) : Prop where
  outPoint : asset.outPoint = account.manifest.assetOutPoint
  lock : asset.cellOutput.lock = account.accountLock
  type : asset.cellOutput.type = none
  data : asset.outputData = "0x"

theorem verifyStateCell_eq_ok :
    verifyStateCell state account = .ok parsed ↔ IsState account state parsed := by
  rw [verifyStateCell, rejectIf_bind_eq_ok, rejectIf_bind_eq_ok, rejectIf_bind_eq_ok, sameOutPoint]
  simp only [Bool.not_eq_true', decide_eq_false_iff_not, not_not]
  exact ⟨fun h => ⟨h.1, h.2.1, h.2.2.1, h.2.2.2⟩,
    fun h => ⟨h.outPoint, h.lock, h.type, h.data⟩⟩

/-- The search passes over the state cell. -/
theorem scanAssets_state (h : IsState account state parsed) (rest : List (Outcome JsError Cell))
    (assets : List Cell) :
    scanAssets account (.ok state :: rest) assets = scanAssets account rest assets := by
  have hsame : sameOutPoint state account.manifest.stateOutPoint = true :=
    decide_eq_true h.outPoint
  rw [scanAssets, ok_bind, rejectIf_neg (fun hne => hne h.lock), ok_bind, if_pos hsame,
    verifyStateCell_eq_ok.mpr h, ok_bind]

/-- The search keeps the asset cell. -/
theorem scanAssets_asset (h : IsAsset account asset)
    (hindex : account.manifest.assetOutPoint ≠ account.manifest.stateOutPoint)
    (rest : List (Outcome JsError Cell)) :
    scanAssets account (.ok asset :: rest) [] = scanAssets account rest [asset] := by
  have hother : ¬ sameOutPoint asset account.manifest.stateOutPoint = true := by
    rw [sameOutPoint, h.outPoint]
    exact fun hsame => hindex (of_decide_eq_true hsame)
  rw [scanAssets, ok_bind, rejectIf_neg (fun hne => hne h.lock), ok_bind, if_neg hother, h.type,
    rejectIf_neg (by decide), ok_bind, rejectIf_neg (fun hne => hne h.data), ok_bind]
  exact if_neg (Nat.lt_irrefl 1)

/-- **The cells of an account are found** when the view shows them and nothing else under the
    account's lock. -/
theorem discoverAccountCells_of_shown (hstate : IsState account state parsed)
    (hasset : IsAsset account asset)
    (hindex : account.manifest.assetOutPoint ≠ account.manifest.stateOutPoint)
    (hstateLive : client.getCellLive account.manifest.stateOutPoint = .ok (some state))
    (hassetLive : client.getCellLive account.manifest.assetOutPoint = .ok (some asset))
    (hfound : client.findCellsByLock account.accountLock = [.ok state, .ok asset]) :
    discoverAccountCells client account = .ok (state, asset) := by
  have hscan : scanAssets account (client.findCellsByLock account.accountLock) [] = .ok [asset] := by
    rw [hfound, scanAssets_state hstate, scanAssets_asset hasset hindex, scanAssets]
  rw [discoverAccountCells, hstateLive, ok_bind, okOr_some, ok_bind,
    verifyStateCell_eq_ok.mpr hstate, ok_bind, hscan, ok_bind, soleAsset, okOr_some, ok_bind]
  refine rejectIf_bind_eq_ok.mpr ⟨?_, ?_⟩
  · simp only [sameOutPoint, hasset.outPoint, decide_true, Bool.not_true, Bool.false_eq_true,
      not_false_iff]
  · rw [hassetLive, ok_bind, okOr_some, ok_bind]
    refine rejectIf_bind_eq_ok.mpr ⟨?_, rfl⟩
    simp only [sameOutPoint, hasset.outPoint, hasset.lock, hasset.type, hasset.data, decide_true,
      Bool.not_true, Option.isSome_none, Bool.false_eq_true, ne_eq, not_true, or_self,
      not_false_iff]

end Cells

/-! ## Preparing -/

/-- The placeholder for a key. -/
def placeholderOf (sequence : UInt64) (publicKey : Bytes) : Bytes :=
  (proofArgs sequence (maximumAssertion publicKey).layout).asBytes

/-- The prepared spend of an account with one key. -/
def preparedSpend (ckbHash : Bytes → Byte32) (account : VerifiedAccount) (record : PasskeyRecord)
    (asset : Cell) (funderAddress : String) (funderLock : Script) (fee : Int)
    (accountId txHash verifier : Byte32) (publicKey : Bytes) (sequence : UInt64) :
    PreparedSpend where
  transaction := spendTransaction account asset funderLock
    (asset.cellOutput.capacity - transferCapacity - fee) (placeholderOf sequence publicKey)
  authorizationDigest := (CkbSighash.authorizationDigest ckbHash opSpend accountId sequence
    (spendState sequence verifier (ckbHash publicKey))
    (ckbHash (streamOf txHash [] [] [] []))).val
  review := spendReview account asset funderAddress
    (asset.cellOutput.capacity - transferCapacity - fee) fee
  maxWitnessBytes := (placeholderOf sequence publicKey).length
  sequence := sequence.toNat
  credentialId := record.credentialId
  publicKey := record.publicKey
  accountId := account.manifest.accountId
  stateData := hexFromBytes (spendState sequence verifier (ckbHash publicKey))

/-- What `prepareSpend` needs. -/
structure Spendable (ccc : Package) (ckbHash : Bytes → Byte32) (datetime : String → Bool)
    (client : SpendClient) (account : VerifiedAccount) (funderAddress : String)
    (passkeyValue : Json) (record : PasskeyRecord) (state asset : Cell) (funderLock : Script)
    (fee : Int) (accountId txHash verifier : Byte32) (publicKey : Bytes) (sequence : UInt64) :
    Prop where
  passkey : passkeyRecordSchema datetime passkeyValue = some record
  keyText : record.publicKey = hexFromBytes publicKey
  keyId : record.keyId = hexFromBytes (ckbHash publicKey).val
  cells : discoverAccountCells client account = .ok (state, asset)
  stateData : state.outputData = hexFromBytes (spendState sequence verifier (ckbHash publicKey))
  funder : ccc.addressScript client.addressPrefix funderAddress = some funderLock
  capacity : transferCapacity < asset.cellOutput.capacity
  estimated : ccc.estimateFee (spendTransaction account asset funderLock
    (asset.cellOutput.capacity - transferCapacity) (placeholderOf sequence publicKey)) feeRate
    = some fee
  change : 0 < asset.cellOutput.capacity - transferCapacity - fee
  transferFits : ccc.occupiedSize { capacity := transferCapacity, lock := funderLock, type := none }
    * shannonsPerCkb ≤ transferCapacity
  changeFits : ccc.occupiedSize {
      capacity := asset.cellOutput.capacity - transferCapacity - fee
      lock := account.accountLock
      type := none } * shannonsPerCkb ≤ asset.cellOutput.capacity - transferCapacity - fee
  hashed : (ccc.transactionHash (spendTransaction account asset funderLock
    (asset.cellOutput.capacity - transferCapacity - fee)
    (placeholderOf sequence publicKey))).bind ccc.bytesFrom = some txHash.val

/-- A key that passes the schema. -/
theorem passkeyRecordSchema_publicKey {datetime : String → Bool} {v : Json}
    {record : PasskeyRecord} (h : passkeyRecordSchema datetime v = some record) :
    isPublicKey record.publicKey = true := by
  simp only [passkeyRecordSchema, Option.bind_eq_bind, Option.bind_eq_some_iff] at h
  obtain ⟨_, -, _, -, _, -, _, -, credentialId, -, _, -, publicKey, hkey, _, -, _, -, _, -, _, -, _,
    -, _, -, _, -, _, -, h⟩ := h
  cases h
  exact check_of_text hkey

/-- The public key of a record is an uncompressed point. -/
theorem publicKey_of_record {datetime : String → Bool} {v : Json} {record : PasskeyRecord}
    (h : passkeyRecordSchema datetime v = some record) :
    ∃ point : Bytes, point.length = 64 ∧ record.publicKey = hexFromBytes (4 :: point) := by
  have hlead : hexFromBytes [4] = "0x04" := by decide +kernel
  have hmatches : matchesHex (hexFromBytes [4]) (2 * 64) record.publicKey = true := by
    rw [hlead]
    exact passkeyRecordSchema_publicKey h
  exact hex_of_matches hmatches

/-- **A spend that can be prepared is prepared.** -/
theorem prepareSpend_of_spendable (hccc : ccc.codec.Follows ckbHash)
    (hhex : ∀ bytes, ccc.bytesFrom (hexFromBytes bytes) = some bytes)
    {datetime : String → Bool} {client : SpendClient} {account : VerifiedAccount}
    {funderAddress : String} {passkeyValue : Json} {record : PasskeyRecord} {state asset : Cell}
    {funderLock : Script} {fee : Int} {accountId txHash verifier : Byte32} {publicKey : Bytes}
    {sequence : UInt64} (hid : account.manifest.accountId = hexFromBytes accountId.val)
    (hbytes : account.manifest.stateBytes = 177)
    (hverifier : account.deployment.verifierP256Code.codeHash = hexFromBytes verifier.val)
    (h : Spendable ccc ckbHash datetime client account funderAddress passkeyValue record state
      asset funderLock fee accountId txHash verifier publicKey sequence) :
    prepareSpend ccc datetime client account funderAddress passkeyValue
      = .ok (preparedSpend ckbHash account record asset funderAddress funderLock fee accountId txHash
          verifier publicKey sequence) := by
  obtain ⟨point, hpoint, hpublicKey⟩ := publicKey_of_record h.passkey
  obtain rfl : publicKey = 4 :: point := hexFromBytes_injective (h.keyText.symm.trans hpublicKey)
  have hlen : (4 :: point).length = 65 := congrArg Nat.succ hpoint
  have hne : spendState sequence verifier (ckbHash (4 :: point)) ≠ [] := by
    intro hnil
    have hsize := spendState_length sequence verifier (ckbHash (4 :: point))
    rw [hnil] at hsize
    cases hsize
  have hparsed : parseAccountState state.outputData account
      = .ok { sequence := sequence.toNat, keyId := (ckbHash (4 :: point)).val } := by
    rw [h.stateData]
    exact parseAccountState_spendState hbytes hverifier
  -- the placeholder is sealed as the assertion will be, so its sighash is that of the finalized one
  have hplaceholder : maximumWitness ccc (4 :: point) sequence.toNat
      = .ok (placeholderOf sequence (4 :: point)) := maximumWitness_eq hccc hlen rfl sequence
  have hsighash : groupSighash ccc.codec txHash.val [placeholderOf sequence (4 :: point)] []
      = .ok (ckbHash (streamOf txHash [] [] [] [])).val :=
    groupSighash_of_sealed hccc txHash (maximumAssertion_encodable hlen)
  have hkeyBytes : bytesFromHex record.publicKey = .ok (4 :: point) := by
    rw [h.keyText]
    exact bytesFromHex_hexFromBytes (List.cons_ne_nil _ _)
  have hidBytes : bytesFromHex account.manifest.accountId = .ok accountId.val := by
    rw [hid]
    refine bytesFromHex_hexFromBytes fun hnil => ?_
    have hsize := accountId.property
    rw [hnil] at hsize
    cases hsize
  have hstateBytes : bytesFromHex state.outputData
      = .ok (spendState sequence verifier (ckbHash (4 :: point))) := by
    rw [h.stateData]
    exact bytesFromHex_hexFromBytes hne
  have hkeyId : ¬ hexFromBytes (ccc.codec.hashCkb (4 :: point)) ≠ record.keyId := by
    rw [hccc.hash, h.keyId]
    exact fun hdiffers => hdiffers rfl
  have hsameKey : ¬ hexFromBytes (ckbHash (4 :: point)).val ≠ record.keyId := by
    rw [h.keyId]
    exact fun hdiffers => hdiffers rfl
  -- the steps of `prepareSpend`, each with the fact that lets it pass
  rw [prepareSpend]
  refine bind_eq_ok.mpr ⟨record, okOr_eq_ok.mpr h.passkey, ?_⟩
  refine bind_eq_ok.mpr ⟨_, hkeyBytes, rejectIf_bind_eq_ok.mpr ⟨hkeyId, ?_⟩⟩
  refine bind_eq_ok.mpr ⟨(state, asset), h.cells, ?_⟩
  refine bind_eq_ok.mpr ⟨_, hparsed, rejectIf_bind_eq_ok.mpr ⟨hsameKey, ?_⟩⟩
  refine bind_eq_ok.mpr ⟨funderLock, okOr_eq_ok.mpr h.funder, ?_⟩
  refine rejectIf_bind_eq_ok.mpr ⟨Int.not_le.mpr h.capacity, ?_⟩
  refine bind_eq_ok.mpr ⟨_, hplaceholder, bind_eq_ok.mpr ⟨fee, okOr_eq_ok.mpr h.estimated, ?_⟩⟩
  refine rejectIf_bind_eq_ok.mpr ⟨Int.not_le.mpr h.change, ?_⟩
  refine unit_bind_eq_ok.mpr ⟨rejectIf_eq_ok.mpr (Int.not_lt.mpr h.transferFits), ?_⟩
  refine unit_bind_eq_ok.mpr ⟨rejectIf_eq_ok.mpr (Int.not_lt.mpr h.changeFits), ?_⟩
  refine bind_eq_ok.mpr ⟨_, okOr_eq_ok.mpr h.hashed, bind_eq_ok.mpr ⟨_, okOr_eq_ok.mpr (hhex _), ?_⟩⟩
  refine bind_eq_ok.mpr ⟨_, hsighash, bind_eq_ok.mpr ⟨_, hidBytes, ?_⟩⟩
  refine bind_eq_ok.mpr ⟨_, hstateBytes, bind_eq_ok.mpr
    ⟨_, authorizationDigest_of_spend hccc accountId _ sequence _, ?_⟩⟩
  rw [preparedSpend, ← h.stateData]
  rfl

/-! ## Finalizing -/

/-- What `finalizeSpend` asks of an assertion. -/
structure Admissible (parseJson : Bytes → Option Json) (p : PreparedSpend)
    (assertion : AssertionMaterial) : Prop where
  credential : assertion.credentialId = p.credentialId
  data_ge : minAuthenticatorDataBytes ≤ assertion.authenticatorData.length
  data_le : assertion.authenticatorData.length ≤ maxAuthenticatorDataBytes
  client_ne : assertion.clientDataJson ≠ []
  client_le : assertion.clientDataJson.length ≤ maxClientDataBytes
  signature : validateDerSignature assertion.signature = .ok ()
  clientData : validateClientData parseJson p assertion.clientDataJson = .ok ()

theorem signature_le_of_validateDerSignature {signature : Bytes}
    (h : validateDerSignature signature = .ok ()) :
    8 ≤ signature.length ∧ signature.length ≤ maxDerSignatureBytes := by
  rw [validateDerSignature, rejectIf_eq_ok] at h
  simp only [not_or, Nat.not_lt] at h
  exact ⟨h.1, h.2.1⟩

/-- The assertion as the verifier reads it. -/
def passkeyProof (publicKey : Bytes) (assertion : AssertionMaterial) :
    CkbProofWire.PasskeyProof where
  publicKey := publicKey
  origin := textEncode clientOrigin
  authenticatorData := assertion.authenticatorData
  clientDataJson := assertion.clientDataJson
  signature := assertion.signature

/-- **An admissible assertion fits the placeholder.** -/
theorem Admissible.fits {parseJson : Bytes → Option Json} {p : PreparedSpend}
    {assertion : AssertionMaterial} (h : Admissible parseJson p assertion) {publicKey : Bytes}
    (hlen : publicKey.length = 65) (sequence : UInt64) :
    (passkeyProof publicKey assertion).WellFormed
      ∧ (passkeyProof publicKey assertion).layout.length ≤ 3237
      ∧ (proofArgs sequence (passkeyProof publicKey assertion).layout).asBytes.length
        ≤ (placeholderOf sequence publicKey).length := by
  obtain ⟨hsignature, hsignatureLe⟩ := signature_le_of_validateDerSignature h.signature
  have hdata := h.data_ge
  have hdataLe := h.data_le
  have hclient := List.length_pos_iff.mpr h.client_ne
  have hclientLe := h.client_le
  unfold minAuthenticatorDataBytes at hdata
  unfold maxAuthenticatorDataBytes at hdataLe
  unfold maxClientDataBytes at hclientLe
  unfold maxDerSignatureBytes at hsignatureLe
  have horigin := textEncode_clientOrigin_length
  have hle : (passkeyProof publicKey assertion).layout.length ≤ 3237 := by
    rw [layout_length hlen]
    show 72 + (textEncode clientOrigin).length + assertion.authenticatorData.length
      + assertion.clientDataJson.length + assertion.signature.length ≤ 3237
    omega
  refine ⟨?_, hle, ?_⟩
  · constructor <;> simp only [passkeyProof] <;> omega
  · rw [placeholderOf, proofArgs_length, proofArgs_length, slotWitness_length, slotWitness_length,
      maximumAssertion_length hlen]
    omega

/-- **An admissible assertion is sealed into the transaction.** -/
theorem finalizeSpend_of_admissible (hccc : ccc.codec.Follows ckbHash) {datetime : String → Bool}
    {parseJson : Bytes → Option Json} {p : PreparedSpend} {passkeyValue : Json}
    {record : PasskeyRecord} {assertion : AssertionMaterial} {publicKey : Bytes}
    {sequence : UInt64} {hash : String}
    (hrecord : passkeyRecordSchema datetime passkeyValue = some record)
    (hcredential : record.credentialId = p.credentialId)
    (hkey : record.publicKey = p.publicKey) (hpublicKey : p.publicKey = hexFromBytes publicKey)
    (hsequence : p.sequence = sequence.toNat)
    (hmax : p.maxWitnessBytes = (placeholderOf sequence publicKey).length)
    (hprepared : ccc.transactionHash p.transaction = some hash)
    (hfinalized : ccc.transactionHash { p.transaction with
      witnesses := p.transaction.witnesses.set 0
        (hexFromBytes (proofArgs sequence (passkeyProof publicKey assertion).layout).asBytes) }
      = some hash)
    (h : Admissible parseJson p assertion) :
    finalizeSpend ccc datetime parseJson p passkeyValue assertion
      = .ok { p.transaction with
        witnesses := p.transaction.witnesses.set 0
          (hexFromBytes (proofArgs sequence (passkeyProof publicKey assertion).layout).asBytes) } := by
  obtain ⟨point, hpoint, hrecordKey⟩ := publicKey_of_record hrecord
  obtain rfl : publicKey = 4 :: point :=
    hexFromBytes_injective (hpublicKey.symm.trans (hkey.symm.trans hrecordKey))
  have hlen : (4 :: point).length = 65 := congrArg Nat.succ hpoint
  obtain ⟨hwf, hle, hfits⟩ := h.fits hlen sequence
  have hkeyBytes : bytesFromHex record.publicKey = .ok (4 :: point) := by
    rw [hrecordKey]
    exact bytesFromHex_hexFromBytes (List.cons_ne_nil _ _)
  -- the proof is encoded and sealed into a witness
  have hproof : encodeP256Proof ccc.codec.engine (assertionInput (4 :: point) assertion)
      = .ok (passkeyProof (4 :: point) assertion).layout :=
    (CkbBrowserCodec.encodeP256Proof_iff hccc.ample _ _).mpr
      ((encodeP256Proof_eq_ok (p := passkeyProof (4 :: point) assertion)).mpr ⟨hwf, rfl, rfl⟩)
  have hseal : sealProof ccc p.sequence (passkeyProof (4 :: point) assertion).layout
      = .ok (proofArgs sequence (passkeyProof (4 :: point) assertion).layout).asBytes := by
    rw [hsequence]
    refine sealProof_of_encodable hccc sequence (encodable_slotProof ?_ (by omega))
    exact List.append_ne_nil_of_left_ne_nil (List.cons_ne_nil _ _) _
  -- the steps of `finalizeSpend`, each with the fact that lets it pass
  rw [finalizeSpend]
  refine bind_eq_ok.mpr ⟨record, okOr_eq_ok.mpr hrecord, rejectIf_bind_eq_ok.mpr ⟨?_, ?_⟩⟩
  · rintro (hne | hne | hne)
    · exact hne h.credential
    · exact hne hcredential
    · exact hne hkey
  refine rejectIf_bind_eq_ok.mpr ⟨?_, rejectIf_bind_eq_ok.mpr ⟨?_, ?_⟩⟩
  · exact not_or.mpr ⟨Nat.not_lt.mpr h.data_ge, Nat.not_lt.mpr h.data_le⟩
  · exact not_or.mpr ⟨fun hzero => h.client_ne (List.eq_nil_of_length_eq_zero hzero),
      Nat.not_lt.mpr h.client_le⟩
  refine unit_bind_eq_ok.mpr ⟨h.signature, unit_bind_eq_ok.mpr ⟨h.clientData, ?_⟩⟩
  refine bind_eq_ok.mpr ⟨_, hkeyBytes, bind_eq_ok.mpr ⟨_, hproof, bind_eq_ok.mpr ⟨_, hseal, ?_⟩⟩⟩
  refine rejectIf_bind_eq_ok.mpr ⟨?_, ?_⟩
  · rw [hmax]
    exact Nat.not_lt.mpr hfits
  refine bind_eq_ok.mpr ⟨hash, okOr_eq_ok.mpr hfinalized, bind_eq_ok.mpr ⟨hash,
    okOr_eq_ok.mpr hprepared, rejectIf_bind_eq_ok.mpr ⟨fun hne => hne rfl, rfl⟩⟩⟩

end CkbSpend
