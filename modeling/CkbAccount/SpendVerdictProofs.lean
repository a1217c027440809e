import CkbAccount.EndToEndProofs
import CkbAccount.NoPanicProofs
import CkbAccount.SpendRunProofs
import CkbAccount.TransportProofs

/-! # The verdict on a finalized spend

    `prepared_spend_reaches_verifier` ends where the child starts.  Here the child is the P-256
    program, on a machine that does what it is asked, and the run ends.

    * `spawnVerifier_of_obliging`: the whole request goes through, and the exit code decides;
    * `readRequest_of_layout`: the program reads it back;
    * `verifyP256_layout_iff`: what the program asks of the assertion;
    * `finalized_spend_accepted_iff`: AccountLock accepts the transaction of `finalizeSpend`
      exactly when the assertion is authentic for the digest of `prepareSpend`. -/

namespace CkbSpend

open RustOutcome Outcome LittleEndian CkbProtocol CkbWitnessWire CkbRequestWire CkbProofWire
open CkbAccountLock CkbVerifier CkbHostCodec CkbSchemas CkbEndToEnd
open CkbTransaction (Env Vm)
open CkbClientData (base64urlDigest Exit exitValid)

/-! ## The parent's side -/

/-- A machine that does what it is asked: it opens pipes, starts children, closes descriptors,
    and its pipes take something of whatever is written to them. -/
structure Obliging (vm : Vm) : Prop where
  pipe : ∃ fds, vm.pipe = .ok fds
  spawn : ∀ dep, ∃ pid, vm.spawn dep = .ok pid
  close : ∀ fd, vm.close fd = .ok ()
  accepts : ∀ dep sent chunk, chunk ≠ [] → ∃ n, 0 < n ∧ vm.accepts dep sent chunk = .ok n

/-- **The write loop ends**, with everything sent. -/
theorem writeLoop_of_obliging {vm : Vm} (h : Obliging vm) {dep : Nat} {request : Bytes}
    (hlt : request.length < usizeSize) :
    ∀ (fuel offset : Nat) (sent : Bytes), offset ≤ request.length →
      request.length - offset < fuel → sent = request.take offset →
      writeLoop vm dep request fuel offset sent = .ok request := by
  intro fuel
  induction fuel with
  | zero =>
      intro offset sent _ hfuel _
      exact absurd hfuel (Nat.not_lt_zero _)
  | succ fuel ih =>
      intro offset sent hle hfuel hsent
      rw [writeLoop]
      by_cases hmore : offset < request.length
      · have hchunk : (slice request offset request.length : Outcome ProtocolError Bytes)
            = .ok (request.drop offset) :=
          slice_eq_ok.mpr ⟨⟨hle, Nat.le_refl _⟩,
            (List.take_of_length_le (by rw [List.length_drop])).symm⟩
        have hne : request.drop offset ≠ [] := by
          intro hnil
          have hlen := congrArg List.length hnil
          rw [List.length_drop, List.length_nil] at hlen
          omega
        -- the machine takes at least one byte, so each round makes progress
        obtain ⟨n, hpos, haccepts⟩ := h.accepts dep sent (request.drop offset) hne
        have hwrite : Vm.write vm dep sent (request.drop offset)
            = .ok (min n (request.drop offset).length, sent ++ (request.drop offset).take n) := by
          rw [Vm.write, haccepts]
        have hlen : (request.drop offset).length = request.length - offset := List.length_drop
        rw [if_pos hmore, hchunk, ok_bind, hwrite]
        show (rejectIf (min n (request.drop offset).length = 0) _ >>= _) = _
        rw [rejectIf_neg (by omega), ok_bind, checkedAdd_of_lt (by omega), okOr_some, ok_bind]
        refine ih _ _ (by omega) (by omega) ?_
        rw [hsent, List.take_add, ← List.take_eq_take_min]
      · have hall : offset = request.length := by omega
        rw [if_neg hmore, hsent, hall, List.take_length]

/-- **The whole request goes through**, and the exit code of the child decides. -/
theorem spawnVerifier_of_obliging {vm : Vm} (h : Obliging vm) {index : Nat} {request : Bytes}
    (hlt : request.length < usizeSize) {code : Int8} (hexit : vm.exit index request = .ok code) :
    spawnVerifier vm index request = .ok (decide (code = 0)) := by
  obtain ⟨⟨readFd, writeFd⟩, hpipe⟩ := h.pipe
  obtain ⟨pid, hspawn⟩ := h.spawn index
  have hsent : writeLoop vm index request (request.length + 1) 0 [] = .ok request :=
    writeLoop_of_obliging h hlt _ _ _ (Nat.zero_le _) (by omega) rfl
  rw [spawnVerifier, hpipe]
  show (sysOr _ (vm.spawn index) >>= _) = _
  rw [hspawn]
  show (closeRead vm readFd >>= _) = _
  rw [closeRead, h.close]
  show (writeLoop vm index request (request.length + 1) 0 [] >>= _) = _
  rw [hsent, ok_bind, h.close]
  show (sysOr _ (vm.exit index request) >>= _) = _
  rw [hexit]
  rfl

/-! ## The child's side -/

/-- A child that inherits one pipe, and can close it. -/
structure Attentive (child : Child) : Prop where
  fd : ∃ fd, child.inheritedFds = [fd]
  atEnd : child.atEnd = .ok () ∨ child.atEnd = .error .otherEndClosed
  close : ∀ fd, child.close fd = .ok ()

/-- Behind the last byte there is the end. -/
theorem readEnd_of_attentive {child : Child} (h : Attentive child) :
    readEnd child [] = .ok () := by
  rcases h.atEnd with hend | hend
  · rw [readEnd, Child.read, if_pos rfl, hend]
  · rw [readEnd, Child.read, if_pos rfl, hend]

/-- **The program reads the request back.** -/
theorem readRequest_of_layout {child : Child} (h : Attentive child) {r : VerifierRequest}
    (hwf : r.WellFormed) : readRequest child r.layout = .ok r.layout := by
  obtain ⟨fd, hfd⟩ := h.fd
  obtain ⟨haux, hproof⟩ := CkbTransport.lengths_of_layout hwf
  have hauxLe : r.aux.length ≤ 4096 := hwf.aux_le
  have hproofLe : r.proof.length ≤ 65536 := hwf.proof_le
  have hlen := r.layout_length
  have husize : (2 : Nat) ^ 32 ≤ usizeSize := by decide
  -- the header
  have hheader : readExact child verifierRequestHeaderLen (verifierRequestHeaderLen + 1) [] r.layout
      = .ok (r.layout.take 96, r.layout.drop 96) := by
    rw [readExact_eq (by decide) _ _ _ (Nat.zero_le _) (by decide), if_pos]
    · rfl
    · show 96 ≤ 0 + r.layout.length
      omega
  have hheaderLen : (r.layout.take 96).length = 96 := by
    rw [List.length_take]
    omega
  have hfield : ∀ offset, offset + 4 ≤ 96 →
      ((r.layout.take 96).drop offset).take 4 = (r.layout.drop offset).take 4 := by
    intro offset hle
    rw [List.drop_take, List.take_take, Nat.min_eq_left (by omega)]
  have hauxField : headerLength (r.layout.take 96) 80 84 = .ok r.aux.length := by
    rw [CkbTransport.headerLength_of_length 80 (by omega), hfield 80 (by decide)]
    exact congrArg Outcome.ok haux
  have hproofField : headerLength (r.layout.take 96) 84 88 = .ok r.proof.length := by
    rw [CkbTransport.headerLength_of_length 84 (by omega), hfield 84 (by decide)]
    exact congrArg Outcome.ok hproof
  -- the body
  have htotal : ((checkedAdd verifierRequestHeaderLen r.aux.length).bind
      (fun v => checkedAdd v r.proof.length)).filter (fun v => v ≤ verifierMaxRequestLen)
      = some (96 + r.aux.length + r.proof.length) :=
    requestTotal_eq_some.mpr ⟨rfl, by unfold verifierMaxRequestLen; omega⟩
  have hbody : readExact child (r.aux.length + r.proof.length)
      (r.aux.length + r.proof.length + 1) [] (r.layout.drop 96) = .ok (r.layout.drop 96, []) := by
    have hrest : (r.layout.drop 96).length = r.aux.length + r.proof.length := by
      rw [List.length_drop]
      omega
    rw [readExact_eq (by omega) _ _ _ (Nat.zero_le _) (by simp), if_pos (by simp [hrest])]
    simp only [List.length_nil, Nat.sub_zero, List.nil_append, ← hrest, List.take_length,
      List.drop_length]
  have hsub : 96 + r.aux.length + r.proof.length - verifierRequestHeaderLen
      = r.aux.length + r.proof.length := by
    show 96 + r.aux.length + r.proof.length - 96 = _
    omega
  unfold readRequest
  simp only [hfd, hheader, mapErr_ok, ok_bind, hauxField, hproofField, htotal, okOr_some, hsub,
    hbody, readEnd_of_attentive h, h.close, List.take_append_drop]
  rfl

/-! ## The check of the assertion -/

/-- SHA-256 of the relying party. -/
def relyingPartyHash : Byte32 :=
  byte32 0x49960de5880e8c687434170f6476605b8fe4aeb9a28632c7995cf3ba831d9763

/-- SHA-256 of the client's origin. -/
def originHash : Byte32 :=
  byte32 0x4e90ec8f9d9b8d5bd3877ac003797738ff48419fcf8f97821a875ea4671955b6

/-- An assertion that the holder of a key made for a digest, in the client's origin, with the
    user present and verified; its key and its signature are encoded canonically. -/
structure Authentic (prims : Primitives) (digest : Byte32) (publicKey : Bytes)
    (assertion : AssertionMaterial) : Prop where
  relyingParty : assertion.authenticatorData.take 32 = relyingPartyHash.val
  flags : ∃ flags, assertion.authenticatorData[32]? = some flags ∧ flags &&& 0x05 = 0x05
  clientData : CkbClientData.validateClientData assertion.clientDataJson (base64urlDigest digest)
    (textEncode clientOrigin) = .ok ()
  signature : ∃ key sig, prims.p256.decodeKey publicKey = some key
    ∧ prims.sec1Point key = publicKey
    ∧ prims.p256.decodeSignature assertion.signature = some sig
    ∧ prims.toDer sig = assertion.signature
    ∧ prims.p256.verify key (prims.sha256 (assertion.authenticatorData
      ++ (prims.sha256 assertion.clientDataJson).val)).val sig = true

section Verdict

variable {ckbHash : Bytes → Byte32} {prims : Primitives} {publicKey : Bytes}
  {assertion : AssertionMaterial} {r : VerifierRequest}

/-- The fields of the binding. -/
theorem webauthnBinding_fields :
    webauthnBinding[0]? = some profileV1
      ∧ (slice webauthnBinding 1 33 : Outcome Exit Bytes) = .ok relyingPartyHash.val
      ∧ (slice webauthnBinding 33 65 : Outcome Exit Bytes) = .ok originHash.val := by
  rw [webauthnBinding_bytes]
  decide

/-- The signature check. -/
theorem checkPasskeySignature_iff (hhead : publicKey[0]? = some 4) :
    checkPasskeySignature prims (passkeyProof publicKey assertion) = .ok ()
      ↔ ∃ key sig, prims.p256.decodeKey publicKey = some key
        ∧ prims.sec1Point key = publicKey
        ∧ prims.p256.decodeSignature assertion.signature = some sig
        ∧ prims.toDer sig = assertion.signature
        ∧ prims.p256.verify key (prims.sha256 (assertion.authenticatorData
          ++ (prims.sha256 assertion.clientDataJson).val)).val sig = true := by
  have hbyte : (byteAt publicKey 0 : Outcome Exit UInt8) = .ok 4 := byteAt_eq_ok.mpr hhead
  rw [checkPasskeySignature]
  show (byteAt publicKey 0 >>= _) = _ ↔ _
  rw [hbyte, ok_bind, rejectIf_neg (fun hne => hne rfl), ok_bind]
  simp only [bind_eq_ok, okOr_eq_ok, rejectIf_eq_ok, not_not]
  constructor
  · rintro ⟨key, hkey, -, hpoint, sig, hsig, -, hder, hverify⟩
    exact ⟨key, sig, hkey, hpoint, hsig, hder, hverify⟩
  · rintro ⟨key, sig, hkey, hpoint, hsig, hder, hverify⟩
    exact ⟨key, hkey, (), hpoint, sig, hsig, (), hder, hverify⟩

/-- The checks before it. -/
theorem checkPasskey_iff (haux : r.aux = webauthnBinding) (hkey : ckbHash publicKey = r.keyId)
    (hsha : prims.sha256 (textEncode clientOrigin) = originHash)
    (hdata : 37 ≤ assertion.authenticatorData.length) :
    checkPasskey ckbHash prims r (passkeyProof publicKey assertion) = .ok ()
      ↔ assertion.authenticatorData.take 32 = relyingPartyHash.val
        ∧ (∃ flags, assertion.authenticatorData[32]? = some flags ∧ flags &&& 0x05 = 0x05)
        ∧ CkbClientData.validateClientData assertion.clientDataJson
          (base64urlDigest r.authorizationDigest) (textEncode clientOrigin) = .ok () := by
  obtain ⟨-, hparty, horigin⟩ := webauthnBinding_fields
  have hfront : (slice assertion.authenticatorData 0 32 : Outcome Exit Bytes)
      = .ok (assertion.authenticatorData.take 32) :=
    slice_eq_ok.mpr ⟨⟨by decide, by omega⟩, rfl⟩
  rw [checkPasskey, haux]
  show (rejectIf (ckbHash publicKey ≠ r.keyId) _ >>= _) = _ ↔ _
  rw [rejectIf_neg (fun hne => hne hkey), ok_bind, horigin, ok_bind]
  show (rejectIf ((prims.sha256 (textEncode clientOrigin)).val ≠ originHash.val) _ >>= _) = _ ↔ _
  rw [hsha, rejectIf_neg (fun hne => hne rfl), ok_bind]
  show (slice assertion.authenticatorData 0 32 >>= _) = _ ↔ _
  rw [hfront, ok_bind, hparty, ok_bind, rejectIf_bind_eq_ok, not_not]
  show _ ∧ (byteAt assertion.authenticatorData 32 >>= _) = _ ↔ _
  simp only [bind_eq_ok, byteAt_eq_ok, rejectIf_eq_ok, not_not]
  constructor
  · rintro ⟨hrp, flags, hflags, -, hset, hclient⟩
    exact ⟨hrp, ⟨flags, hflags, hset⟩, hclient⟩
  · rintro ⟨hrp, ⟨flags, hflags, hset⟩, hclient⟩
    exact ⟨hrp, flags, hflags, (), hset, hclient⟩

/-- **What the P-256 program asks of the assertion.** -/
theorem verifyP256_layout_iff (hwf : r.WellFormed) (halg : r.algorithmId = algP256Webauthn)
    (hprofile : r.verifierProfile = profileV1) (haux : r.aux = webauthnBinding)
    (hproof : r.proof = (passkeyProof publicKey assertion).layout)
    (hpwf : (passkeyProof publicKey assertion).WellFormed) (hkey : ckbHash publicKey = r.keyId)
    (hhead : publicKey[0]? = some 4)
    (hsha : prims.sha256 (textEncode clientOrigin) = originHash) :
    verifyP256 ckbHash prims r.layout = .ok ()
      ↔ Authentic prims r.authorizationDigest publicKey assertion := by
  have hversion : (byteAt r.aux 0 : Outcome Exit UInt8) = .ok profileV1 := by
    rw [haux]
    exact byteAt_eq_ok.mpr webauthnBinding_fields.1
  have hlen : r.aux.length = 65 := by rw [haux, webauthnBinding_length]
  rw [verifyP256, VerifierRequest.parse_eq_ok.mpr ⟨rfl, hwf⟩, mapErr_ok, ok_bind,
    rejectIf_neg (fun hne => hne halg), ok_bind, rejectIf_neg (fun hne => hne hprofile), ok_bind,
    rejectIf_neg (fun hne => hne hlen), ok_bind, hversion, ok_bind,
    rejectIf_neg (fun hne => hne rfl), ok_bind, parseProof_eq_ok.mpr ⟨hproof, hpwf⟩, ok_bind,
    unit_bind_eq_ok, checkPasskey_iff haux hkey hsha hpwf.data_ge, checkPasskeySignature_iff hhead]
  exact ⟨fun h => ⟨h.1.1, h.1.2.1, h.1.2.2, h.2⟩,
    fun h => ⟨⟨h.relyingParty, h.flags, h.clientData⟩, h.signature⟩⟩

end Verdict

/-! ## The run -/

/-- The exit code of the program on a request it can read. -/
theorem programEntry_of_layout (ckbHash : Bytes → Byte32) (prims : Primitives) {child : Child}
    (h : Attentive child) {r : VerifierRequest} (hwf : r.WellFormed) :
    ∃ code, CkbVerifier.programEntry ckbHash prims .p256 child r.layout = .ok code
      ∧ (code = 0 ↔ verifyP256 ckbHash prims r.layout = .ok ()) := by
  have hverify : Program.p256.verify ckbHash prims r.layout = verifyP256 ckbHash prims r.layout := rfl
  simp only [CkbVerifier.programEntry, readRequest_of_layout h hwf, ok_bind, hverify]
  cases hverdict : verifyP256 ckbHash prims r.layout with
  | ok u => exact ⟨exitValid, rfl, fun _ => rfl, fun _ => rfl⟩
  | err e =>
      refine ⟨e.code, rfl, fun hzero => absurd hzero e.code_ne_valid, fun hok => ?_⟩
      cases hok
  | abort => exact absurd hverdict (CkbNoPanic.verifyP256_ne_abort ckbHash prims r.layout)

/-- **The demo's spend is accepted exactly when its assertion is authentic.**  Take the spend of
    `prepared_spend_reaches_verifier`, on a machine that does what it is asked and whose second
    dep runs the P-256 program.  AccountLock accepts the finalized transaction if the assertion
    was made by the holder of the passkey for the digest that `prepareSpend` computed, and only
    then; otherwise it exits with the threshold error and no other. -/
theorem finalized_spend_accepted_iff (ccc : Package) (ckbHash : Bytes → Byte32)
    (hccc : ccc.Follows ckbHash) (datetime : String → Bool) (parseJson : Bytes → Option Json)
    (accountValue : Json) (deployment : VerifiedDeployment) (account : VerifiedAccount)
    (haccount : validateAccount ccc accountValue deployment = .ok account)
    (client : SpendClient) (funderAddress : String) (passkey passkey' : Json)
    (p : PreparedSpend)
    (hprepare : prepareSpend ccc datetime client account funderAddress passkey = .ok p)
    (assertion : AssertionMaterial) (t : Transaction)
    (hfinalize : finalizeSpend ccc datetime parseJson p passkey' assertion = .ok t)
    (env : Env) (hresolves : Resolves ccc client account.accountLock t env)
    (hdeps : UniqueDeps ckbHash account env) (prims : Primitives)
    (hsha : prims.sha256 (textEncode clientOrigin) = originHash) (hvm : Obliging env.vm)
    (child : Child) (hchild : Attentive child)
    (hruns : Runs env.vm 1 (CkbVerifier.programEntry ckbHash prims .p256 child)) :
    ∃ digest publicKey, digest.val = p.authorizationDigest
      ∧ bytesFromHex p.publicKey = .ok publicKey
      ∧ (Authentic prims digest publicKey assertion → run ckbHash env = .ok ())
      ∧ (¬ Authentic prims digest publicKey assertion →
        run ckbHash env = .err .thresholdUnsatisfied) := by
  obtain ⟨accountId, verifier, publicKey, sequence, proof, request, r, hfrom, hfinal, henc, hspends,
    hrequest⟩ := spends_of_finalized hccc haccount hprepare hfinalize hresolves hdeps
  obtain ⟨hproof, hpwf⟩ := parseProof_eq_ok.mp (hfinal.parseProof hccc.codec.ample).1
  have hhead : publicKey[0]? = some 4 := by
    have hhost : CkbHostCodec.encodeP256Proof publicKey (textEncode clientOrigin)
        assertion.authenticatorData assertion.clientDataJson assertion.signature = .ok proof :=
      (CkbBrowserCodec.encodeP256Proof_iff hccc.codec.ample _ _).mp hfinal.encoded
    rw [← List.head?_eq_getElem?]
    exact ((encodeP256Proof_eq_ok (p := passkeyProof publicKey assertion)).mp hhost).2.1
  -- what the request says
  have hr := hrequest.requestFor
  have hprofile : r.verifierProfile = profileV1 := by
    have hfirst : webauthnBinding.head? = some r.verifierProfile := hr.profile
    rw [List.head?_eq_getElem?, webauthnBinding_fields.1] at hfirst
    exact (Option.some.inj hfirst).symm
  have hiff : verifyP256 ckbHash prims r.layout = .ok ()
      ↔ Authentic prims r.authorizationDigest publicKey assertion :=
    verifyP256_layout_iff hrequest.wellFormed hr.algorithmId hprofile hr.aux
      (hr.proof.trans hproof) hpwf (Subtype.ext hr.keyId).symm hhead hsha
  rw [hr.digest] at hiff
  -- what becomes of the child
  obtain ⟨code, hcode, hzero⟩ := programEntry_of_layout ckbHash prims hchild hrequest.wellFormed
  have hexit : env.vm.exit 1 request = .ok code := by
    have hrun := hruns request
    rw [hrequest.layout, hcode] at hrun
    rw [hrequest.layout]
    exact hrun
  have hlt : request.length < usizeSize := by
    rw [hrequest.layout]
    have haux : r.aux.length ≤ 4096 := hrequest.wellFormed.aux_le
    have hproofLe : r.proof.length ≤ 65536 := hrequest.wellFormed.proof_le
    have husize : (2 : Nat) ^ 32 ≤ usizeSize := by decide
    rw [VerifierRequest.layout_length]
    omega
  have hrun := run_of_spends henc hspends hrequest.encoded
  rw [spawnVerifier_of_obliging hvm hlt hexit, ok_bind] at hrun
  refine ⟨_, publicKey, hfrom.digest.symm, hfrom.keyBytes, fun hauthentic => ?_, fun hforged => ?_⟩
  · rw [hrun, decide_eq_true (hzero.mpr (hiff.mpr hauthentic))]
    rfl
  · rw [hrun, decide_eq_false fun h => hforged (hiff.mp (hzero.mp h))]
    rfl

/-- The SHA-256 of the client data. -/
def fixtureClientHash : Byte32 :=
  byte32 0x920a28718582246f2be7f0c946c0373a3519134d69fa99bf1360548e795210f1

/-- The SHA-256 of what the passkey signs. -/
def fixtureSigned : Byte32 :=
  byte32 0x868fe7f3c610de1cd3d54727d32d0a69804b40c94ef95b5571d996956819791b

/-- SHA-256 and P-256 on the strings of the test fixture, whose private key is one. -/
def fixturePrims : Primitives where
  sha256 := CkbTransaction.tabulated [
    (textEncode clientOrigin, originHash),
    (fixtureClientData, fixtureClientHash),
    (fixtureAssertion.authenticatorData ++ fixtureClientHash.val, fixtureSigned)]
  p256 := knownScheme fixtureKey fixtureSigned.val fixtureAssertion.signature
  sec1Point := fun key => key
  toDer := fun signature => signature
  mldsa65 := knownScheme [] [] []
  slhdsa := knownScheme [] [] []

/-- A machine on which every dep runs the P-256 program. -/
def fixtureVerifierVm : Vm where
  pipe := .ok (2, 3)
  spawn _ := .ok 1
  close _ := .ok ()
  accepts _ _ _ := .ok 64
  exit _ sent :=
    exitOf (CkbVerifier.programEntry fixtureHash fixturePrims .p256 pipeChild sent)

theorem fixtureVerifierVm_obliging : Obliging fixtureVerifierVm :=
  ⟨⟨_, rfl⟩, fun _ => ⟨_, rfl⟩, fun _ => rfl, fun _ _ _ _ => ⟨64, by decide, rfl⟩⟩

theorem fixtureVerifierVm_runs :
    Runs fixtureVerifierVm 1
      (CkbVerifier.programEntry fixtureHash fixturePrims .p256 pipeChild) := by
  intro sent
  have hexit : fixtureVerifierVm.exit 1 sent
      = exitOf (CkbVerifier.programEntry fixtureHash fixturePrims .p256 pipeChild sent) := rfl
  rw [hexit]
  cases CkbVerifier.programEntry fixtureHash fixturePrims .p256 pipeChild sent with
  | ok code => rfl
  | err e => exact fun h => absurd (Except.ok.inj h) (by decide)
  | abort => exact fun h => absurd (Except.ok.inj h) (by decide)

theorem fixture_authentic : Authentic fixturePrims fixtureDigest fixtureKey fixtureAssertion := by
  have hkey : (knownScheme fixtureKey fixtureSigned.val fixtureAssertion.signature).decodeKey
      fixtureKey = some fixtureKey := by
    simp only [knownScheme, if_true]
  have hsignature : (knownScheme fixtureKey fixtureSigned.val
      fixtureAssertion.signature).decodeSignature fixtureAssertion.signature
        = some fixtureAssertion.signature := by
    simp only [knownScheme, if_true]
  refine ⟨by decide, ⟨5, by decide, by decide⟩, by decide +kernel, fixtureKey,
    fixtureAssertion.signature, hkey, rfl, hsignature, rfl, ?_⟩
  decide +kernel

/-- **AccountLock accepts the test fixture.** -/
theorem fixture_accepted :
    finalizeSpend (fixturePackage fixtureHash) fixtureDatetime fixtureParseJson fixturePrepared
        fixturePasskey fixtureAssertion = .ok fixtureFinalized
      ∧ Resolves (fixturePackage fixtureHash) fixtureClient fixtureAccount.accountLock
        fixtureFinalized (fixtureEnv fixtureVerifierVm)
      ∧ run fixtureHash (fixtureEnv fixtureVerifierVm) = .ok () := by
  obtain ⟨digest, publicKey, hdigest, hkey, haccepts, -⟩ :=
    finalized_spend_accepted_iff (fixturePackage fixtureHash) fixtureHash
      (fixturePackage_follows fixtureHash) fixtureDatetime fixtureParseJson fixtureManifest
      fixtureDeployment fixtureAccount fixture_account fixtureClient fixtureFunderAddress
      fixturePasskey fixturePasskey fixturePrepared fixture_prepared fixtureAssertion
      fixtureFinalized fixture_finalized (fixtureEnv fixtureVerifierVm)
      (fixture_resolves fixtureVerifierVm) (fixture_uniqueDeps fixtureVerifierVm) fixturePrims
      (by decide +kernel) fixtureVerifierVm_obliging pipeChild
      ⟨⟨2, rfl⟩, .inl rfl, fun _ => rfl⟩ fixtureVerifierVm_runs
  obtain rfl : digest = fixtureDigest := Subtype.ext (hdigest.trans fixture_digest)
  obtain rfl : publicKey = fixtureKey :=
    Outcome.ok.inj (hkey.symm.trans (bytesFromHex_hexFromBytes (List.cons_ne_nil _ _)))
  exact ⟨fixture_finalized, fixture_resolves fixtureVerifierVm, haccepts fixture_authentic⟩

end CkbSpend
