import CkbAccount.SpendRunProofs

/-! # Exactly which spends the browser makes

    `SpendReadyProofs` says when the two functions of `demo/src/client/chain.ts` succeed.  Here
    are the converses.

    * `parseAccountState_iff_validateState`: the fixed offsets of the browser against the parser
      of the protocol crate;
    * `spendable_of_prepareSpend`: what a prepared spend says about the account;
    * `finalizeSpend_settles`: which assertions are sealed, and how the others are refused;
    * `reviewed_spend_conserves`: what is reviewed is what the transaction does. -/

namespace CkbSpend

open RustOutcome Outcome LittleEndian CkbProtocol CkbBrowserCodec CkbSchemas CkbHostCodec
open CkbHostDigest CkbSighash CkbWitnessWire CkbStatePolicy CkbHostState
open RecordLoop (collect)
open CkbStateWire (StateHeader AuthenticatorEntry parseAuthenticators)
open CkbCreation (Script CellInput CellOutput)
open CkbBrowserCodec (authorizationDigest groupSighash encodeP256Proof)

/-! ## Two parsers of one format -/

/-- The account profile of the demo, in the terms of the protocol crate. -/
structure Profile (header : StateHeader) (e : AuthenticatorEntry) : Prop where
  flags : header.flags = 1
  spendThreshold : header.spendThreshold = 1
  rotateThreshold : header.rotateThreshold = 1
  recoveryThreshold : header.recoveryThreshold = 1
  recoverySince : header.recoverySince = 0
  slot : e.slot = 0
  algorithmId : e.algorithmId = algP256Webauthn
  capabilities : e.capabilities = capSpend ||| capRotate ||| capRecovery
  weight : e.weight = 1
  verifierHashType : e.verifierHashType = 0
  aux : e.aux = webauthnBinding

theorem profile_spend (sequence : UInt64) (verifier keyId : Byte32) :
    Profile (spendHeader sequence) (spendEntry verifier keyId) :=
  ⟨rfl, rfl, rfl, rfl, rfl, rfl, rfl, rfl, rfl, rfl, rfl⟩

/-- A state of that profile is one of the states the browser knows. -/
theorem Profile.eq_spendState {state : Bytes} {header : StateHeader} {e : AuthenticatorEntry}
    (h : Profile header e) (hv : ValidState state header [e]) :
    ∃ keyId : Byte32, keyId.val = e.keyId
      ∧ state = spendState header.sequence e.verifierCodeHash keyId := by
  have hmem := List.mem_singleton_self e
  refine ⟨⟨e.keyId, (hv.supported e hmem).keyId⟩, rfl, ?_⟩
  have hcount : header.authenticatorCount = 1 := UInt8.toNat_inj.mp hv.count.symm
  have hheader : header = spendHeader header.sequence := by
    obtain ⟨flags, sequence, spend, rotate, recovery, count, since⟩ := header
    obtain ⟨rfl, rfl, rfl, rfl, rfl, -⟩ := h
    cases hcount
    rfl
  have hentry : e = spendEntry e.verifierCodeHash ⟨e.keyId, (hv.supported e hmem).keyId⟩ := by
    have habi := (hv.wellFormed e hmem).abi
    have hkeyId := (hv.supported e hmem).keyId
    obtain ⟨slot, algorithmId, capabilities, weight, hashType, abi, codeHash, keyId, aux⟩ := e
    obtain ⟨-, -, -, -, -, rfl, rfl, rfl, rfl, rfl, rfl⟩ := h
    cases habi
    rfl
  rw [spendState, ← hheader, ← hentry]
  exact hv.bytes

/-- **The browser's fixed offsets accept what the protocol parser accepts**, restricted to the
    demo's profile, to the size in the manifest and to the deployed verifier; and they read the
    same sequence and the same key. -/
theorem parseAccountState_iff_validateState (dataHex : String) (account : VerifiedAccount)
    (parsed : ParsedState) :
    parseAccountState dataHex account = .ok parsed
      ↔ ∃ state header summary e, dataHex = hexFromBytes state
        ∧ state.length = account.manifest.stateBytes
        ∧ validateState state = .ok (header, summary)
        ∧ parseAuthenticators collect state header [] = .ok [e]
        ∧ Profile header e
        ∧ hexFromBytes e.verifierCodeHash.val = account.deployment.verifierP256Code.codeHash
        ∧ parsed = { sequence := header.sequence.toNat, keyId := e.keyId } := by
  constructor
  · intro h
    obtain ⟨sequence, verifier, keyId, hbytes, hverifier, rfl⟩ := parseAccountState_eq_ok h
    have hv := validState_spendState sequence verifier keyId
    rw [parseAccountState, hbytes, ok_bind] at h
    obtain ⟨hsize, -⟩ := rejectIf_bind_eq_ok.mp h
    exact ⟨_, _, _, _, (bytesFromHex_eq_ok.mp hbytes).2, not_not.mp (not_or.mp hsize).1,
      validateState_eq_ok.mpr ⟨_, hv, rfl⟩, hv.collect_eq, profile_spend sequence verifier keyId,
      hverifier.symm, rfl⟩
  · rintro ⟨state, header, summary, e, rfl, hsize, hvalid, hentries, hprofile, hverifier, rfl⟩
    obtain ⟨es, hv, -⟩ := validateState_eq_ok.mp hvalid
    rw [hv.collect_eq] at hentries
    cases hentries
    obtain ⟨keyId, hkeyId, rfl⟩ := hprofile.eq_spendState hv
    rw [spendState_length] at hsize
    rw [parseAccountState_spendState hsize.symm hverifier.symm, hkeyId]

/-! ## What a prepared spend says -/

section Prepared

variable {ccc : Package} {ckbHash : Bytes → Byte32} {datetime : String → Bool}
  {client : SpendClient} {account : VerifiedAccount} {funderAddress : String}
  {passkeyValue : Json} {p : PreparedSpend}

/-- **The converse of `prepareSpend_of_spendable`.** -/
theorem spendable_of_prepareSpend (hccc : ccc.codec.Follows ckbHash)
    (hhex : ∀ bytes, ccc.bytesFrom (hexFromBytes bytes) = some bytes) {accountId : Byte32}
    (hid : account.manifest.accountId = hexFromBytes accountId.val)
    (h : prepareSpend ccc datetime client account funderAddress passkeyValue = .ok p) :
    ∃ record state asset funderLock fee txHash verifier publicKey sequence,
      account.manifest.stateBytes = 177
        ∧ account.deployment.verifierP256Code.codeHash = hexFromBytes verifier.val
        ∧ Spendable ccc ckbHash datetime client account funderAddress passkeyValue record state
          asset funderLock fee accountId txHash verifier publicKey sequence
        ∧ p = preparedSpend ckbHash account record asset funderAddress funderLock fee accountId
          txHash verifier publicKey sequence := by
  obtain ⟨txHash, verifier, publicKey, sequence, hfrom⟩ := prepareSpend_eq_ok hccc hhex hid h
  have hprepared := h
  rw [prepareSpend] at h
  obtain ⟨record, hrecord, h⟩ := bind_eq_ok.mp h
  obtain ⟨key, hkey, h⟩ := bind_eq_ok.mp h
  obtain ⟨hkeyId, h⟩ := rejectIf_bind_eq_ok.mp h
  obtain ⟨⟨state, asset⟩, hcells, h⟩ := bind_eq_ok.mp h
  obtain ⟨parsed, hparsed, h⟩ := bind_eq_ok.mp h
  obtain ⟨-, h⟩ := rejectIf_bind_eq_ok.mp h
  obtain ⟨funderLock, hfunder, h⟩ := bind_eq_ok.mp h
  obtain ⟨hcapacity, h⟩ := rejectIf_bind_eq_ok.mp h
  obtain ⟨placeholder, hplaceholder, h⟩ := bind_eq_ok.mp h
  obtain ⟨fee, hfee, h⟩ := bind_eq_ok.mp h
  obtain ⟨hchange, h⟩ := rejectIf_bind_eq_ok.mp h
  obtain ⟨htransferFits, h⟩ := unit_bind_eq_ok.mp h
  obtain ⟨hchangeFits, h⟩ := unit_bind_eq_ok.mp h
  obtain ⟨hash, hhash, h⟩ := bind_eq_ok.mp h
  obtain ⟨firstWitness, -, h⟩ := bind_eq_ok.mp h
  obtain ⟨sighash, -, h⟩ := bind_eq_ok.mp h
  obtain ⟨id, -, h⟩ := bind_eq_ok.mp h
  obtain ⟨stateBytes, -, h⟩ := bind_eq_ok.mp h
  obtain ⟨digest, -, h⟩ := bind_eq_ok.mp h
  cases h
  cases Outcome.ok.inj (hkey.symm.trans hfrom.keyBytes)
  -- the placeholder is the one for this key
  obtain ⟨point, hpoint, hpublicKey⟩ := publicKey_of_record (okOr_eq_ok.mp hrecord)
  have hkeyText : record.publicKey = hexFromBytes publicKey := (bytesFromHex_eq_ok.mp hkey).2
  obtain rfl : publicKey = 4 :: point := hexFromBytes_injective (hkeyText.symm.trans hpublicKey)
  have hlen : (4 :: point).length = 65 := congrArg Nat.succ hpoint
  have hsequence : parsed.sequence = sequence.toNat := hfrom.sequenceOf
  rw [hsequence, maximumWitness_eq hccc hlen rfl sequence] at hplaceholder
  cases hplaceholder
  have hstateBytes : account.manifest.stateBytes = 177 := by
    obtain ⟨data, _, _, _, hdata, hsize, -⟩ :=
      (parseAccountState_iff_validateState _ _ _).mp hparsed
    obtain ⟨-, htext⟩ := bytesFromHex_eq_ok.mp hfrom.stateBytes
    rw [← hsize, hexFromBytes_injective (hdata.symm.trans htext), spendState_length]
  have hspendable : Spendable ccc ckbHash datetime client account funderAddress passkeyValue record
      state asset funderLock fee accountId txHash verifier (4 :: point) sequence := {
    passkey := okOr_eq_ok.mp hrecord
    keyText := hkeyText
    keyId := by
      rw [← hccc.hash]
      exact (not_not.mp hkeyId).symm
    cells := hcells
    stateData := (bytesFromHex_eq_ok.mp hfrom.stateBytes).2
    funder := okOr_eq_ok.mp hfunder
    capacity := Int.not_le.mp hcapacity
    estimated := okOr_eq_ok.mp hfee
    change := Int.not_le.mp hchange
    transferFits := Int.not_lt.mp (rejectIf_eq_ok.mp htransferFits)
    changeFits := Int.not_lt.mp (rejectIf_eq_ok.mp hchangeFits)
    hashed := hfrom.hashed }
  refine ⟨record, state, asset, funderLock, fee, txHash, verifier, 4 :: point, sequence,
    hstateBytes, hfrom.verifierHash, hspendable, ?_⟩
  have hagain := prepareSpend_of_spendable hccc hhex hid hstateBytes hfrom.verifierHash hspendable
  exact Outcome.ok.inj (hprepared.symm.trans hagain)

end Prepared

/-! ## Which assertions are sealed -/

/-- The record of the passkey that a spend was prepared for. -/
def Holder (datetime : String → Bool) (passkeyValue : Json) (p : PreparedSpend) : Prop :=
  ∃ record, passkeyRecordSchema datetime passkeyValue = some record
    ∧ record.credentialId = p.credentialId ∧ record.publicKey = p.publicKey

/-- A prepared transaction with an assertion in the place of the placeholder. -/
def sealedTransaction (p : PreparedSpend) (sequence : UInt64) (publicKey : Bytes)
    (assertion : AssertionMaterial) : Transaction :=
  { p.transaction with
    witnesses := [hexFromBytes
      (proofArgs sequence (passkeyProof publicKey assertion).layout).asBytes] }

/-- How `finalizeSpend` refuses an assertion. -/
def refusals : List JsError := [
  .library,
  .typeError "Assertion credential does not match the prepared spend",
  .rangeError "Assertion authenticator data is outside supported bounds",
  .rangeError "Assertion client data is outside supported bounds",
  .typeError "Assertion signature is not bounded P-256 DER",
  .typeError "Assertion client data is not valid UTF-8 JSON",
  .typeError "Assertion client data is malformed",
  .typeError "Assertion client data does not authorize this transaction"]

section Finalized

variable {ccc : Package} {datetime : String → Bool} {parseJson : Bytes → Option Json}
  {p : PreparedSpend} {passkeyValue : Json} {assertion : AssertionMaterial}

/-- The first checks of `finalizeSpend`. -/
theorem admissible_of_finalizeSpend {t : Transaction}
    (h : finalizeSpend ccc datetime parseJson p passkeyValue assertion = .ok t) :
    Holder datetime passkeyValue p ∧ Admissible parseJson p assertion := by
  rw [finalizeSpend] at h
  obtain ⟨record, hrecord, h⟩ := bind_eq_ok.mp h
  obtain ⟨hcredential, h⟩ := rejectIf_bind_eq_ok.mp h
  obtain ⟨hdata, h⟩ := rejectIf_bind_eq_ok.mp h
  obtain ⟨hclient, h⟩ := rejectIf_bind_eq_ok.mp h
  obtain ⟨hsignature, h⟩ := unit_bind_eq_ok.mp h
  obtain ⟨hclientData, -⟩ := unit_bind_eq_ok.mp h
  simp only [not_or, not_not, Nat.not_lt] at hcredential hdata hclient
  refine ⟨⟨record, okOr_eq_ok.mp hrecord, hcredential.2.1, hcredential.2.2⟩, hcredential.1, hdata.1,
    hdata.2, fun hnil => hclient.1 ?_, hclient.2, hsignature, hclientData⟩
  rw [hnil, List.length_nil]

/-- **Whatever is refused is refused by one of the first checks.** -/
theorem finalizeSpend_ne_err {e : JsError} (he : e ∉ refusals)
    (hbad : ¬ (Holder datetime passkeyValue p ∧ Admissible parseJson p assertion)) :
    finalizeSpend ccc datetime parseJson p passkeyValue assertion ≠ .err e := by
  have hne : ∀ e' ∈ refusals, e' ≠ e := by
    rintro e' hmem rfl
    exact he hmem
  rw [finalizeSpend]
  refine bind_ne_err (okOr_ne_err (hne _ (by decide))) fun record hrecord => ?_
  refine bind_ne_err (rejectIf_ne_err (hne _ (by decide))) fun _ hcredential => ?_
  refine bind_ne_err (rejectIf_ne_err (hne _ (by decide))) fun _ hdata => ?_
  refine bind_ne_err (rejectIf_ne_err (hne _ (by decide))) fun _ hclient => ?_
  refine bind_ne_err (rejectIf_ne_err (hne _ (by decide))) fun _ hsignature => ?_
  refine bind_ne_err ?_ fun _ hclientData => ?_
  · rw [validateClientData]
    refine bind_ne_err (okOr_ne_err (hne _ (by decide))) fun value _ => ?_
    refine bind_ne_err (rejectIf_ne_err (hne _ (by decide))) fun _ _ => ?_
    exact rejectIf_ne_err (hne _ (by decide))
  · rw [rejectIf_eq_ok] at hcredential hdata hclient
    simp only [not_or, not_not, Nat.not_lt] at hcredential hdata hclient
    refine absurd ⟨⟨record, okOr_eq_ok.mp hrecord, hcredential.2.1, hcredential.2.2⟩,
      hcredential.1, hdata.1, hdata.2, fun hnil => hclient.1 ?_, hclient.2, hsignature,
      hclientData⟩ hbad
    rw [hnil, List.length_nil]

end Finalized

/-- **Which assertions a prepared spend is finalized with.**  For a spend that `prepareSpend`
    returned, `finalizeSpend` seals exactly the admissible assertions of the passkey it was
    prepared for, into the transaction that was prepared.  Any other is refused by one of the
    first checks: the room reserved for the witness always suffices, and the raw fields of the
    transaction never change. -/
theorem finalizeSpend_settles (ccc : Package) (ckbHash : Bytes → Byte32)
    (hccc : ccc.Follows ckbHash)
    (hraw : ∀ (t : Transaction) (witnesses : List String),
      ccc.transactionHash { t with witnesses := witnesses } = ccc.transactionHash t)
    (datetime : String → Bool) (parseJson : Bytes → Option Json) (accountValue : Json)
    (deployment : VerifiedDeployment) (account : VerifiedAccount)
    (haccount : validateAccount ccc accountValue deployment = .ok account)
    (client : SpendClient) (funderAddress : String) (passkey passkey' : Json)
    (p : PreparedSpend)
    (hprepare : prepareSpend ccc datetime client account funderAddress passkey = .ok p)
    (assertion : AssertionMaterial) :
    (∃ publicKey sequence, bytesFromHex p.publicKey = .ok publicKey
      ∧ p.sequence = sequence.toNat
      ∧ ∀ t, finalizeSpend ccc datetime parseJson p passkey' assertion = .ok t
        ↔ Holder datetime passkey' p ∧ Admissible parseJson p assertion
          ∧ t = sealedTransaction p sequence publicKey assertion)
    ∧ ∀ e, finalizeSpend ccc datetime parseJson p passkey' assertion = .err e → e ∈ refusals := by
  obtain ⟨accountId, hbound⟩ := validateAccount_eq_ok haccount
  obtain ⟨record, state, asset, funderLock, fee, txHash, verifier, publicKey, sequence, -, -,
    hspendable, hp⟩ := spendable_of_prepareSpend hccc.codec hccc.hex hbound.manifestId hprepare
  have hkeyText : p.publicKey = hexFromBytes publicKey := by
    rw [hp]
    exact hspendable.keyText
  have hne : publicKey ≠ [] := by
    obtain ⟨point, -, hpublicKey⟩ := publicKey_of_record hspendable.passkey
    rw [hexFromBytes_injective (hspendable.keyText.symm.trans hpublicKey)]
    exact List.cons_ne_nil _ _
  have hwitnesses : p.transaction.witnesses = [hexFromBytes (placeholderOf sequence publicKey)] := by
    rw [hp]
    rfl
  obtain ⟨hash, hhash, -⟩ := Option.bind_eq_some_iff.mp hspendable.hashed
  have hprepared : ccc.transactionHash p.transaction = some hash := by
    rw [hp]
    exact hhash
  -- the assertions that are sealed
  have hseals : Holder datetime passkey' p ∧ Admissible parseJson p assertion →
      finalizeSpend ccc datetime parseJson p passkey' assertion
        = .ok (sealedTransaction p sequence publicKey assertion) := by
    rintro ⟨⟨record', hrecord, hcredential, hkey⟩, hadmissible⟩
    have hok := finalizeSpend_of_admissible hccc.codec hrecord hcredential hkey hkeyText
      (by rw [hp]; rfl) (by rw [hp]; rfl) hprepared ((hraw _ _).trans hprepared) hadmissible
    rw [hok, hwitnesses]
    rfl
  refine ⟨⟨publicKey, sequence, ?_, by rw [hp]; rfl, fun t => ⟨fun hok => ?_, ?_⟩⟩, fun e herr => ?_⟩
  · rw [hkeyText]
    exact bytesFromHex_hexFromBytes hne
  · obtain ⟨hholder, hadmissible⟩ := admissible_of_finalizeSpend hok
    rw [hseals ⟨hholder, hadmissible⟩] at hok
    exact ⟨hholder, hadmissible, (Outcome.ok.inj hok).symm⟩
  · rintro ⟨hholder, hadmissible, rfl⟩
    exact hseals ⟨hholder, hadmissible⟩
  · by_contra hother
    refine finalizeSpend_ne_err hother (fun hgood => ?_) herr
    rw [hseals hgood] at herr
    cases herr

/-- The test fixture is finalized with its assertion, and with no other passkey's record. -/
theorem fixture_settles :
    finalizeSpend (fixturePackage fixtureHash) fixtureDatetime fixtureParseJson fixturePrepared
        fixturePasskey fixtureAssertion = .ok fixtureFinalized
      ∧ ∀ e, finalizeSpend (fixturePackage fixtureHash) fixtureDatetime fixtureParseJson
        fixturePrepared .null fixtureAssertion = .err e → e ∈ refusals :=
  ⟨fixture_finalized,
    (finalizeSpend_settles (fixturePackage fixtureHash) fixtureHash
      (fixturePackage_follows fixtureHash) (fun _ _ => rfl) fixtureDatetime fixtureParseJson
      fixtureManifest fixtureDeployment fixtureAccount fixture_account fixtureClient
      fixtureFunderAddress fixturePasskey .null fixturePrepared fixture_prepared
      fixtureAssertion).2⟩

/-! ## What is reviewed -/

/-- Fees by size: so many shannons for a thousand bytes, rounded up.  The capacity of an output
    has a fixed width, and a witness counts with its length. -/
structure FeeBySize (ccc : Package) (size : Transaction → Nat) : Prop where
  fee : ∀ t, ccc.estimateFee t feeRate = some ((size t * feeRate + 999) / 1000)
  capacity : ∀ account asset funderLock change change' witness,
    size (spendTransaction account asset funderLock change witness)
      = size (spendTransaction account asset funderLock change' witness)
  witness : ∀ account asset funderLock change witness witness',
    witness.length ≤ witness'.length →
    size (spendTransaction account asset funderLock change witness)
      ≤ size (spendTransaction account asset funderLock change witness')

/-- **What is reviewed is what is spent.**  A finalized transaction spends the live asset of the
    account and nothing else, pays the fixed transfer to the funder's lock and the rest to the
    account's own lock, and leaves exactly the reviewed fee, which covers the size of the
    transaction; every output holds what it occupies. -/
theorem reviewed_spend_conserves (ccc : Package) (ckbHash : Bytes → Byte32)
    (hccc : ccc.Follows ckbHash) (datetime : String → Bool) (parseJson : Bytes → Option Json)
    (accountValue : Json) (deployment : VerifiedDeployment) (account : VerifiedAccount)
    (haccount : validateAccount ccc accountValue deployment = .ok account)
    (client : SpendClient) (funderAddress : String) (passkey passkey' : Json)
    (p : PreparedSpend)
    (hprepare : prepareSpend ccc datetime client account funderAddress passkey = .ok p)
    (assertion : AssertionMaterial) (t : Transaction)
    (hfinalize : finalizeSpend ccc datetime parseJson p passkey' assertion = .ok t) :
    ∃ asset funderLock change fee,
      client.getCellLive account.manifest.assetOutPoint = .ok (some asset)
      ∧ asset.cellOutput.lock = account.accountLock
      ∧ ccc.addressScript client.addressPrefix funderAddress = some funderLock
      ∧ t.inputs = [{ previousOutput := account.manifest.assetOutPoint, since := 0 }]
      ∧ t.outputs = [
        { capacity := transferCapacity, lock := funderLock, type := none },
        { capacity := change, lock := account.accountLock, type := none }]
      ∧ asset.cellOutput.capacity = transferCapacity + change + fee ∧ 0 < change
      ∧ p.review = spendReview account asset funderAddress change fee
      ∧ (∀ o ∈ t.outputs, ccc.occupiedSize o * shannonsPerCkb ≤ o.capacity)
      ∧ ∀ size, FeeBySize ccc size → (size t * feeRate + 999) / 1000 ≤ fee := by
  obtain ⟨accountId, hbound⟩ := validateAccount_eq_ok haccount
  obtain ⟨record, state, asset, funderLock, fee, txHash, verifier, publicKey, sequence, -, -,
    hspendable, rfl⟩ := spendable_of_prepareSpend hccc.codec hccc.hex hbound.manifestId hprepare
  obtain ⟨key, proof, witness, hfinal⟩ := finalizeSpend_eq_ok hfinalize
  have hcells := discoverAccountCells_eq_ok hspendable.cells
  have ht : t = spendTransaction account asset funderLock
      (asset.cellOutput.capacity - transferCapacity - fee) witness :=
    hfinal.eq_spendTransaction rfl
  have hfits : witness.length ≤ (placeholderOf sequence publicKey).length := hfinal.fits
  refine ⟨asset, funderLock, asset.cellOutput.capacity - transferCapacity - fee, fee,
    hcells.assetLive, hcells.assetLock, hspendable.funder, ?_, ?_, by omega, hspendable.change, rfl,
    ?_, ?_⟩
  · rw [ht, ← hcells.assetOutPoint]
    rfl
  · rw [ht]
    rfl
  · intro o ho
    rw [ht] at ho
    rcases List.mem_cons.mp ho with rfl | ho
    · exact hspendable.transferFits
    · rw [List.mem_singleton.mp ho]
      exact hspendable.changeFits
  · intro size hsize
    -- the fee was estimated on a draft whose witness is no shorter
    have hdraft := hsize.fee (spendTransaction account asset funderLock
      (asset.cellOutput.capacity - transferCapacity) (placeholderOf sequence publicKey))
    rw [hspendable.estimated] at hdraft
    have hle : size t ≤ size (spendTransaction account asset funderLock
        (asset.cellOutput.capacity - transferCapacity) (placeholderOf sequence publicKey)) := by
      rw [ht, hsize.capacity _ _ _ _ (asset.cellOutput.capacity - transferCapacity)]
      exact hsize.witness _ _ _ _ _ _ hfits
    have hrate : feeRate = 1000 := rfl
    rw [Option.some.inj hdraft, hrate]
    omega

/-- What the test fixture reviews. -/
theorem fixture_conserves :
    ∃ asset change fee, fixtureFinalized.outputs = [
        { capacity := transferCapacity, lock := fixtureFunder, type := none },
        { capacity := change, lock := fixtureAccount.accountLock, type := none }]
      ∧ asset.cellOutput.capacity = transferCapacity + change + fee
      ∧ fixturePrepared.review
        = spendReview fixtureAccount asset fixtureFunderAddress change fee := by
  obtain ⟨asset, funderLock, change, fee, -, -, hfunder, -, houtputs, hsum, -, hreview, -⟩ :=
    reviewed_spend_conserves (fixturePackage fixtureHash) fixtureHash
      (fixturePackage_follows fixtureHash) fixtureDatetime fixtureParseJson fixtureManifest
      fixtureDeployment fixtureAccount fixture_account fixtureClient fixtureFunderAddress
      fixturePasskey fixturePasskey fixturePrepared fixture_prepared fixtureAssertion
      fixtureFinalized fixture_finalized
  obtain rfl : fixtureFunder = funderLock := by
    have hknown : (fixturePackage fixtureHash).addressScript fixtureClient.addressPrefix
        fixtureFunderAddress = some fixtureFunder := by
      show (if fixtureFunderAddress = fixtureFunderAddress then _ else none) = _
      exact if_pos rfl
    exact Option.some.inj (hknown.symm.trans hfunder)
  exact ⟨asset, change, fee, houtputs, hsum, hreview⟩

end CkbSpend
