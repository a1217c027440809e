import CkbAccount.AuthorizationProofs
import CkbAccount.VerifierProofs

/-! # From the state's keys to the signatures

    AccountLock counts a slot when a child process exits 0.  With the bundled verifiers
    as children that verdict reaches all the way down: the request carries the state
    entry's own algorithm, key id and aux data, the child reads exactly that request,
    and its checks tie a public key and a signature inside the proof to the entry and to
    the authorization digest. -/

namespace CkbEndToEnd

open RustOutcome Outcome LittleEndian Molecule CkbProtocol CkbStateWire CkbStatePolicy
open CkbTransaction CkbWitnessWire CkbRequestWire CkbSighash CkbAccountLock CkbAuthorization
open CkbClientData CkbProofWire CkbVerifier
open JsonText (quoted colon comma openBrace closeBrace)

/-! ## Slots bound to their keys -/

/-- The cell dep runs the program: a child that returns exits with what it returns, and
    one that panics does not exit 0. -/
def Runs (vm : Vm) (dep : Nat) (program : Bytes → Outcome Exit Int8) : Prop :=
  ∀ sent, match program sent with
    | .ok code => vm.exit dep sent = .ok code
    | _ => vm.exit dep sent ≠ .ok 0

/-- The proof holds a public key with the entry's key id and a signature that the scheme
    accepts under it, on the digest itself. -/
structure SignedBy (ckbHash : Bytes → Byte32) (scheme : Scheme) (algorithm : UInt16)
    (aux : Bytes) (digest : Byte32) (auth : AuthenticatorEntry) (proof : Bytes)
    (publicKey signature : Bytes) : Prop where
  inside : proof = PublicKeyProof.layout { publicKey := publicKey, signature := signature }
  keyId : (ckbHash publicKey).val = auth.keyId
  algorithmId : auth.algorithmId = algorithm
  auxData : auth.aux = aux
  accepted : scheme.Accepts publicKey digest.val signature

/-- The proof holds a passkey assertion for the entry's relying party and origin, made
    with user presence and user verification over client data for the digest, and signed
    under a public key with the entry's key id. -/
structure AssertedBy (ckbHash : Bytes → Byte32) (prims : Primitives) (digest : Byte32)
    (auth : AuthenticatorEntry) (proof : Bytes) (assertion : PasskeyProof) : Prop where
  inside : proof = assertion.layout
  keyId : (ckbHash assertion.publicKey).val = auth.keyId
  algorithmId : auth.algorithmId = algP256Webauthn
  auxVersion : auth.aux.head? = some profileV1
  auxLength : auth.aux.length = 65
  relyingParty : assertion.authenticatorData.take 32 = (auth.aux.drop 1).take 32
  flags : ∃ flags, assertion.authenticatorData[32]? = some flags
    ∧ flags &&& 0x01 = 0x01 ∧ flags &&& 0x04 = 0x04
  clientData : validateClientData assertion.clientDataJson (base64urlDigest digest)
    assertion.origin = .ok ()
  origin : (prims.sha256 assertion.origin).val = (auth.aux.drop 33).take 32
  accepted : prims.p256.Accepts assertion.publicKey
    (prims.sha256 (assertion.authenticatorData
      ++ (prims.sha256 assertion.clientDataJson).val)).val assertion.signature

/-- What a counted slot of a program proves. -/
def Bound (ckbHash : Bytes → Byte32) (prims : Primitives) (digest : Byte32)
    (auth : AuthenticatorEntry) (proof : Bytes) : Program → Prop
  | .p256 => ∃ assertion, AssertedBy ckbHash prims digest auth proof assertion
  | .mldsa65 => ∃ publicKey signature, SignedBy ckbHash prims.mldsa65 algMldsa65 [profileV1]
      digest auth proof publicKey signature
  | .slhdsa => ∃ publicKey signature, SignedBy ckbHash prims.slhdsa algSlhdsa
      [profileV1, slhDsaSha2128s] digest auth proof publicKey signature

variable {ckbHash : Bytes → Byte32} {prims : Primitives}

theorem Runs.valid {vm : Vm} {dep : Nat} {program : Bytes → Outcome Exit Int8} {sent : Bytes}
    (h : Runs vm dep program) (hexit : vm.exit dep sent = .ok 0) :
    program sent = .ok exitValid := by
  have hsent := h sent
  cases hprogram : program sent with
  | ok code =>
      rw [hprogram] at hsent
      have hcode : Except.ok code = (Except.ok 0 : Except SysError Int8) :=
        hsent.symm.trans hexit
      rw [Except.ok.inj hcode]
      rfl
  | err e =>
      rw [hprogram] at hsent
      exact absurd hexit hsent
  | abort =>
      rw [hprogram] at hsent
      exact absurd hexit hsent

/-- A layout is the layout of one well-formed request. -/
theorem request_unique {r q : VerifierRequest} (hr : r.WellFormed) (hq : q.WellFormed)
    (h : r.layout = q.layout) : r = q :=
  Outcome.ok.inj ((VerifierRequest.parse_eq_ok.mpr ⟨rfl, hr⟩).symm.trans
    (VerifierRequest.parse_eq_ok.mpr ⟨h, hq⟩))

/-- Both flag bits are set. -/
theorem flags_split {flags : UInt8} (h : flags &&& 0x05 = 0x05) :
    flags &&& 0x01 = 0x01 ∧ flags &&& 0x04 = 0x04 := by
  constructor
  · calc flags &&& 0x01 = (flags &&& 0x05) &&& 0x01 := by rw [UInt8.and_assoc]; rfl
      _ = 0x01 := by rw [h]; rfl
  · calc flags &&& 0x04 = (flags &&& 0x05) &&& 0x04 := by rw [UInt8.and_assoc]; rfl
      _ = 0x04 := by rw [h]; rfl

/-- An adapter's verdict on the request for an entry binds the entry. -/
theorem signedBy_of_verify {scheme : Scheme} {algorithm : UInt16} {aux : Bytes}
    {auth : AuthenticatorEntry} {operation : UInt8} {digest : Byte32} {proof : Bytes}
    {r : VerifierRequest} (hr : RequestFor auth operation digest proof r) (hwf : r.WellFormed)
    (h : verifyAdapter ckbHash scheme algorithm aux r.layout = .ok ()) :
    ∃ publicKey signature,
      SignedBy ckbHash scheme algorithm aux digest auth proof publicKey signature := by
  obtain ⟨q, p, hbytes, hq, halg, -, haux, hproof, -, hkey, haccepts⟩ := verifyAdapter_eq_ok.mp h
  obtain rfl := request_unique hwf hq hbytes
  refine ⟨p.publicKey, p.signature, hr.proof.symm.trans hproof, ?_, hr.algorithmId.symm.trans halg,
    hr.aux.symm.trans haux, ?_⟩
  · rw [hkey, hr.keyId]
  · rw [← hr.digest]
    exact haccepts

/-- The P-256 program's verdict on the request for an entry binds the entry. -/
theorem assertedBy_of_verify {auth : AuthenticatorEntry} {operation : UInt8} {digest : Byte32}
    {proof : Bytes} {r : VerifierRequest} (hr : RequestFor auth operation digest proof r)
    (hwf : r.WellFormed) (h : verifyP256 ckbHash prims r.layout = .ok ()) :
    ∃ assertion, AssertedBy ckbHash prims digest auth proof assertion := by
  obtain ⟨q, p, hbytes, hq, halg, -, hlen, hhead, hproof, -, hp⟩ := verifyP256_eq_ok h
  obtain rfl := request_unique hwf hq hbytes
  obtain ⟨flags, hflags, hset⟩ := hp.flags
  have hclient := hp.clientData
  have hparty := hp.relyingParty
  have horigin := hp.origin
  rw [hr.aux] at hlen hhead hparty horigin
  rw [hr.digest] at hclient
  refine ⟨p, hr.proof.symm.trans hproof, ?_, hr.algorithmId.symm.trans halg, hhead, hlen, hparty,
    ⟨flags, hflags, flags_split hset⟩, hclient, horigin, hp.signature⟩
  rw [hp.keyId, hr.keyId]

/-- A slot of the witness that counts for the operation. -/
def CountedSlot (ckbHash : Bytes → Byte32) (env : Env) (v : RunView) (auth : AuthenticatorEntry)
    (proof : Bytes) : Prop :=
  slotProofOf (auth, proof) ∈ v.proofs ∧ ∃ capability,
    capabilityForOperation v.operation = .ok capability
      ∧ Counted ckbHash env v capability auth proof

/-- **A child that runs a bundled verifier and exits 0 on the request for an entry binds
    the entry.** -/
theorem bound_of_runs {vm : Vm} {dep : Nat} {auth : AuthenticatorEntry} {operation : UInt8}
    {digest : Byte32} {proof request : Bytes} {program : Program} {child : Child}
    (hruns : Runs vm dep (programEntry ckbHash prims program child))
    (hencode : encodeRequest auth operation digest proof = .ok request)
    (hexit : vm.exit dep request = .ok 0) : Bound ckbHash prims digest auth proof program := by
  obtain ⟨r, hr, hwf, rfl⟩ := encodeRequest_eq_ok.mp hencode
  have hverify := programEntry_eq_valid (hruns.valid hexit)
  cases program with
  | p256 => exact assertedBy_of_verify hr hwf hverify
  | mldsa65 => exact signedBy_of_verify hr hwf hverify
  | slhdsa => exact signedBy_of_verify hr hwf hverify

/-- **End-to-end authorization.**  When `run` accepts and the verifier dep of every slot
    counted for the account's own state is one of the bundled programs, distinct counted
    slots of the current state reach the operation's threshold, and every counted slot is
    bound: its proof holds a key with the entry's key id and a signature over the
    authorization digest under the profile the entry names. -/
theorem counted_slots_signed (ckbHash : Bytes → Byte32) (prims : Primitives) (env : Env)
    (h : run ckbHash env = .ok ())
    (hbundled : ∀ v auth proof dep, Viewed ckbHash env v → Placed ckbHash env v →
      CountedSlot ckbHash env v auth proof →
      env.tx.cellDeps.findIdxs (isVerifier ckbHash auth) = [dep] →
      ∃ program child, Runs env.vm dep (programEntry ckbHash prims program child)) :
    ∃ v threshold counted, Viewed ckbHash env v ∧ Placed ckbHash env v
      ∧ thresholdFor v.header v.operation = .ok threshold
      ∧ (counted.map (fun c : AuthenticatorEntry × Bytes => c.1.slot)).Nodup
      ∧ (∀ c ∈ counted, CountedSlot ckbHash env v c.1 c.2)
      ∧ threshold.toNat ≤ countedWeight counted
      ∧ ∀ auth proof, CountedSlot ckbHash env v auth proof →
        ∃ program, Bound ckbHash prims (v.digest ckbHash) auth proof program := by
  obtain ⟨v, capability, threshold, hview, hplaced, hcap, hthr, counted, hnodup, heach, hle⟩ :=
    meetsPolicy_of_run h
  refine ⟨v, threshold, counted, hview, hplaced, hthr, hnodup, ?_, hle, ?_⟩
  · intro c hc
    exact ⟨(heach c hc).1, capability, hcap, (heach c hc).2⟩
  · intro auth proof hslot
    obtain ⟨_, capability', _, hcounted⟩ := id hslot
    obtain ⟨dep, request, hdep, hencode, hexit⟩ := hcounted.verified
    obtain ⟨program, child, hruns⟩ := hbundled v auth proof dep hview hplaced hslot hdep
    exact ⟨program, bound_of_runs hruns hencode hexit⟩

/-! ## A sample passkey

    A P-256 key that may spend and rotate, and an asset spent with an assertion it signed.
    Hashes, key and signature are real ones. -/

/-- `https://a.io`. -/
def passkeyOrigin : Bytes :=
  [0x68, 0x74, 0x74, 0x70, 0x73, 0x3a, 0x2f, 0x2f, 0x61, 0x2e, 0x69, 0x6f]

/-- The hash of the origin. -/
def passkeyOriginHash : Byte32 :=
  byte32 0x12eb96481d0bcbf14efc7380237454555b4c9d90bcecf40cc2fc999e6f8c9148

/-- The hash of the relying party. -/
def passkeyPartyHash : Byte32 :=
  byte32 0x0df92fb080b9111416f49b4b42d0be1a049c404792b0973acd46d7b5aba423ff

/-- The public key, uncompressed. -/
def passkeyPublicKey : Bytes :=
  4 :: ((byte32 0x10e42464ccc0e2688eca945c879299f75de761d8862be5c981229ff2931d3dc0).val
    ++ (byte32 0x8a37214bf49104e02fb7e82e2ff0aaa8996fedaada785cd386829b52042262e1).val)

/-- The hash of the public key. -/
def passkeyKeyId : Byte32 :=
  byte32 0xfc45765d8a38e9eead25207e7f3f0f79df4d41603e3a4a8b25192ec20810a915

/-- The passkey as an authenticator that spends and rotates. -/
def passkeyEntry : AuthenticatorEntry where
  slot := 1
  algorithmId := algP256Webauthn
  capabilities := capSpend ||| capRotate
  weight := 1
  verifierHashType := 0
  verifierAbi := verifierAbiV1
  verifierCodeHash := verifierHash
  keyId := passkeyKeyId.val
  aux := profileV1 :: (passkeyPartyHash.val ++ passkeyOriginHash.val)

/-- The state with that authenticator alone. -/
def passkeyState : Bytes := soleHeader.layout ++ entriesLayout [passkeyEntry]

/-- The hash of the transaction. -/
def passkeyTxHash : Byte32 := filled32 0x66

/-- The group sighash of the spend. -/
def passkeySighash : Byte32 :=
  byte32 0x0d5d5962364bb8eab61ac9083ec8a428515cbdf1416c92a150fcf83ba8e6b2ae

/-- The hash of the state. -/
def passkeyStateHash : Byte32 :=
  byte32 0xdd697fb11b483e90055f8186e9556df7c78333096847900da2b107249ac7b8f0

/-- The digest that the passkey signs. -/
def passkeyDigest : Byte32 :=
  byte32 0xb7b4e19d410b6cc2431424a564cc08620d7b42234774353db6be42b892386f5f

/-- A hash with the values above. -/
def passkeyHash : Bytes → Byte32 :=
  tabulated [
    (sampleType.asBytes, sampleId),
    (sampleLock.asBytes,
      byte32 0x6ec408027965bd208a9e6ce57842739371c45207098e0bfa3f0251a74672b834),
    (verifierProgram, verifierHash),
    (passkeyPublicKey, passkeyKeyId),
    (passkeyState, passkeyStateHash),
    (streamOf passkeyTxHash [] [] [] [], passkeySighash),
    (digestMessage opSpend sampleId 0 passkeyStateHash passkeySighash, passkeyDigest)]

/-- The client data a browser makes for the digest. -/
def passkeyClientData : Bytes :=
  openBrace :: (quoted keyType ++ colon :: (quoted webauthnGet
    ++ comma :: (quoted keyChallenge ++ colon :: (quoted (base64urlDigest passkeyDigest)
    ++ comma :: (quoted keyOrigin ++ colon :: (quoted passkeyOrigin ++ [closeBrace]))))))

/-- The relying party, the flags UP and UV, and a counter. -/
def passkeyAuthenticatorData : Bytes := passkeyPartyHash.val ++ [0x05, 0, 0, 0, 1]

/-- The SHA-256 of the client data. -/
def passkeyClientHash : Byte32 :=
  byte32 0xd82180d4df8b61293ec30e80bbb562facd00656c74e7b4781a812d960de673d5

/-- The SHA-256 of what the passkey signs. -/
def passkeySigned : Byte32 :=
  byte32 0x33cf0a92e324cc018ce99ee02616d82250b36d8527ad21e02e9a038e21449b01

/-- The signature, in DER. -/
def passkeySignature : Bytes :=
  [0x30, 0x44, 0x02, 0x20]
    ++ (byte32 0x11e8fb17f6885b4f49f73db0b754039f3f8e92f777c9d4fd81a972a90493ca68).val
    ++ [0x02, 0x20]
    ++ (byte32 0x68006d6791c911d648a75f61c665286fddbf5ec73196b51473bca3b842847f22).val

/-- The proof with that signature. -/
def passkeyAssertion : PasskeyProof where
  publicKey := passkeyPublicKey
  origin := passkeyOrigin
  authenticatorData := passkeyAuthenticatorData
  clientDataJson := passkeyClientData
  signature := passkeySignature

/-- A scheme whose check is known for one key, one message and one signature. -/
def knownScheme (publicKey message signature : Bytes) : Scheme where
  Key := Bytes
  Signature := Bytes
  decodeKey b := if b = publicKey then some b else none
  decodeSignature b := if b = signature then some b else none
  verify _ m _ := m = message

/-- Primitives that know this key, message and signature. -/
def passkeyPrims : Primitives where
  sha256 := tabulated [
    (passkeyOrigin, passkeyOriginHash),
    (passkeyClientData, passkeyClientHash),
    (passkeyAuthenticatorData ++ passkeyClientHash.val, passkeySigned)]
  p256 := knownScheme passkeyPublicKey passkeySigned.val passkeySignature
  sec1Point := fun key => key
  toDer := fun signature => signature
  mldsa65 := knownScheme [] [] []
  slhdsa := knownScheme [] [] []

/-- A child with one inherited pipe that hands out at most 64 bytes a read. -/
def pipeChild : Child where
  inheritedFds := [2]
  grant _ _ := 64
  atEnd := .ok ()
  close _ := .ok ()

/-- How a child ends: a panic exits with -1. -/
def exitOf : Outcome Exit Int8 → Except SysError Int8
  | .ok code => .ok code
  | _ => .ok (-1)

/-- A machine on which every dep runs the P-256 program. -/
def passkeyVm : Vm where
  pipe := .ok (2, 3)
  spawn _ := .ok 1
  close _ := .ok ()
  accepts _ _ chunk := .ok chunk.length
  exit _ sent := exitOf (programEntry passkeyHash passkeyPrims .p256 pipeChild sent)

/-- The spend with that proof. -/
def passkeyEnv : Env where
  script := sampleLock
  tx := {
    hash := passkeyTxHash
    inputs := [{ cell := assetCell, since := 0 }]
    outputs := []
    cellDeps := [{ lock := sampleLock, typeScript := some sampleType, data := passkeyState },
      verifierCell]
    witnesses := [table [fixvec ((AccountWitnessHeader.mk opSpend 1 0).layout
      ++ (SlotProof.mk 1 passkeyAssertion.layout).layout), [], []]] }
  vm := passkeyVm

theorem passkeyVm_runs (dep : Nat) :
    Runs passkeyVm dep (programEntry passkeyHash passkeyPrims .p256 pipeChild) := by
  intro sent
  have hexit : passkeyVm.exit dep sent
      = exitOf (programEntry passkeyHash passkeyPrims .p256 pipeChild sent) := rfl
  rw [hexit]
  cases programEntry passkeyHash passkeyPrims .p256 pipeChild sent with
  | ok code => rfl
  | err e => exact fun h => absurd (Except.ok.inj h) (by decide)
  | abort => exact fun h => absurd (Except.ok.inj h) (by decide)

/-- The passkey spend is accepted, and its slots are bound to their keys. -/
theorem passkeyEnv_signed :
    run passkeyHash passkeyEnv = .ok ()
      ∧ ∃ v, Viewed passkeyHash passkeyEnv v
        ∧ ∀ auth proof, CountedSlot passkeyHash passkeyEnv v auth proof →
          ∃ program, Bound passkeyHash passkeyPrims (v.digest passkeyHash) auth proof program := by
  have hrun : run passkeyHash passkeyEnv = .ok () := by decide +kernel
  obtain ⟨v, -, -, hview, -, -, -, -, -, hbound⟩ := counted_slots_signed passkeyHash passkeyPrims
    passkeyEnv hrun fun _ _ _ dep _ _ _ _ => ⟨.p256, pipeChild, passkeyVm_runs dep⟩
  exact ⟨hrun, v, hview, hbound⟩

end CkbEndToEnd
