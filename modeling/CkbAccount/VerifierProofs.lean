import CkbAccount.ProofWireProofs
import CkbAccount.RequestWireProofs
import CkbAccount.TransactionProofs

/-! # The bundled verifiers

    The three verifier programs under `contracts/`: `verifier-p256`,
    `verifier-mldsa-adapter` and `verifier-slhdsa-adapter`.  All of them read one
    request from an inherited pipe and turn a verdict into an exit code.

    * `readExact_eq`, `readRequest_eq_ok`: however the machine cuts the pipe into reads,
      the program works on exactly the bytes that were sent;
    * `verifyAdapter_eq_ok`, `verifyP256_eq_ok`: what a verdict of "valid" means.

    SHA-256, the decoders of keys and signatures and the signature checks themselves are
    parameters (`Primitives`). -/

namespace CkbVerifier

open RustOutcome Outcome LittleEndian CkbProtocol CkbClientData CkbProofWire CkbRequestWire
open CkbTransaction

/-! ## Reading the request -/

/-- What the machine answers to a verifier process: its inherited descriptors, how many
    bytes a read hands out, what a read reports at the end of the closed pipe, and how
    `close` goes. -/
structure Child where
  inheritedFds : List UInt64
  grant : Bytes → Nat → Nat
  atEnd : Except SysError Unit
  close : UInt64 → Except SysError Unit

/-- The `read` call: a nonempty front of the pending bytes, and what is then pending;
    at the end nothing, or an error. -/
def Child.read (child : Child) (pending : Bytes) (buffer : Nat) :
    Except SysError (Bytes × Bytes) :=
  if pending = [] then
    match child.atEnd with
    | .ok () => .ok ([], [])
    | .error e => .error e
  else
    let n := min (max 1 (child.grant pending buffer)) (min buffer pending.length)
    .ok (pending.take n, pending.drop n)

/-- `read_exact`, with what it read and what is still pending. -/
def readExact (child : Child) (len : Nat) : Nat → Bytes → Bytes → Outcome Unit (Bytes × Bytes)
  | 0, _, _ => .abort
  | fuel + 1, output, pending =>
      if output.length < len then
        match child.read pending (len - output.length) with
        | .error _ => .err ()
        | .ok (chunk, pending) => do
            rejectIf (chunk = []) ()
            let _ ← okOr () (checkedAdd output.length chunk.length)
            readExact child len fuel (output ++ chunk) pending
      else .ok (output, pending)

/-- `if !matches!(read(fd, &mut extra), Ok(0) | Err(OtherEndClosed))`. -/
def readEnd (child : Child) (pending : Bytes) : Outcome Exit Unit :=
  match child.read pending 1 with
  | .ok ([], _) => .ok ()
  | .error .otherEndClosed => .ok ()
  | _ => .err .malformedRequest

/-- A 32-bit length of the request header. -/
def headerLength (header : Bytes) (lo hi : Nat) : Outcome Exit Nat := do
  return (u32FromLe (← toByteArr 4 .malformedRequest (← slice header lo hi)).val).toNat

/-- `read_request`, on a pipe that the given bytes were sent through. -/
def readRequest (child : Child) (sent : Bytes) : Outcome Exit Bytes :=
  match child.inheritedFds with
  | [fd] => do
      let (header, pending) ← (readExact child verifierRequestHeaderLen
        (verifierRequestHeaderLen + 1) [] sent).mapErr (fun _ => Exit.malformedRequest)
      let auxLen ← headerLength header 80 84
      let proofLen ← headerLength header 84 88
      let total ← okOr .malformedRequest
        (((checkedAdd verifierRequestHeaderLen auxLen).bind
          (fun v => checkedAdd v proofLen)).filter (fun v => v ≤ verifierMaxRequestLen))
      let (body, pending) ← (readExact child (total - verifierRequestHeaderLen)
        (total - verifierRequestHeaderLen + 1) [] pending).mapErr
        (fun _ => Exit.malformedRequest)
      readEnd child pending
      match child.close fd with
      | .ok () => return header ++ body
      | .error _ => .err .internalError
  | _ => .err .malformedRequest

/-- A read of pending bytes returns some of them, and no more than asked for. -/
theorem Child.read_of_pending (child : Child) {pending : Bytes} {buffer : Nat}
    (hpending : pending ≠ []) (hbuffer : 0 < buffer) :
    ∃ n, 0 < n ∧ n ≤ buffer ∧ n ≤ pending.length
      ∧ child.read pending buffer = .ok (pending.take n, pending.drop n) := by
  have hpos := List.length_pos_iff.mpr hpending
  refine ⟨min (max 1 (child.grant pending buffer)) (min buffer pending.length), ?_, ?_, ?_, ?_⟩
  · omega
  · omega
  · omega
  · rw [Child.read, if_neg hpending]

/-- **Exact reads do not depend on how the pipe is cut**: they return the front of the
    pending bytes when there is enough of it, and fail otherwise. -/
theorem readExact_eq {child : Child} {len : Nat} (hlen : len < usizeSize) :
    ∀ (fuel : Nat) (output pending : Bytes), output.length ≤ len →
      len - output.length < fuel →
      readExact child len fuel output pending
        = if len ≤ output.length + pending.length then
            .ok (output ++ pending.take (len - output.length),
              pending.drop (len - output.length))
          else .err () := by
  intro fuel
  induction fuel with
  | zero => intro output pending _ h; omega
  | succ fuel ih =>
      intro output pending hle hfuel
      rw [readExact]
      by_cases hlt : output.length < len
      · rw [if_pos hlt]
        -- an empty pipe ends the loop early, with the error of the last read
        by_cases hpending : pending = []
        · rw [Child.read, if_pos hpending, if_neg (by rw [hpending, List.length_nil]; omega)]
          cases child.atEnd with
          | ok _ => rfl
          | error e => rfl
        · -- one read brings between one byte and all that is missing
          obtain ⟨n, hpos, hn, hnp, hread⟩ := child.read_of_pending hpending
            (show 0 < len - output.length by omega)
          have hchunk : (pending.take n).length = n := by
            rw [List.length_take]
            omega
          have hne : ¬ pending.take n = [] := by
            rw [← List.length_eq_zero_iff]
            omega
          simp only [hread]
          rw [rejectIf_neg hne, ok_bind, checkedAdd_of_lt (by omega), okOr_some, ok_bind,
            ih _ _ (by rw [List.length_append]; omega) (by rw [List.length_append]; omega),
            List.length_append, hchunk, List.length_drop,
            show output.length + n + (pending.length - n) = output.length + pending.length by omega,
            List.append_assoc, List.drop_drop,
            show len - output.length = n + (len - (output.length + n)) by omega, List.take_add]
      · have heq : output.length = len := by omega
        rw [if_neg hlt, if_pos (by omega), heq, Nat.sub_self, List.take_zero, List.drop_zero,
          List.append_nil]

theorem readExact_eq_ok {child : Child} {len : Nat} (hlen : len < usizeSize)
    {pending out rest : Bytes} (h : readExact child len (len + 1) [] pending = .ok (out, rest)) :
    pending = out ++ rest := by
  rw [readExact_eq hlen _ _ _ (Nat.zero_le _) (by simp)] at h
  split at h
  · cases h
    simp only [List.length_nil, Nat.sub_zero, List.nil_append, List.take_append_drop]
  · cases h

/-- The last read sees the end only at the end. -/
theorem readEnd_eq_ok {child : Child} {pending : Bytes} (h : readEnd child pending = .ok ()) :
    pending = [] := by
  by_contra hne
  obtain ⟨n, hpos, -, hn, hread⟩ := child.read_of_pending hne Nat.one_pos
  obtain ⟨byte, rest, rfl⟩ := List.exists_cons_of_ne_nil hne
  obtain ⟨m, rfl⟩ : ∃ m, n = m + 1 := ⟨n - 1, by omega⟩
  unfold readEnd at h
  rw [hread, List.take_succ_cons] at h
  cases h

/-- **The program works on exactly what was sent.** -/
theorem readRequest_eq_ok {child : Child} {sent request : Bytes}
    (h : readRequest child sent = .ok request) : request = sent := by
  unfold readRequest at h
  -- exactly one inherited descriptor is served; none and several are errors
  match hfds : child.inheritedFds with
  | [] =>
      rw [hfds] at h
      cases h
  | _ :: _ :: _ =>
      rw [hfds] at h
      cases h
  | [fd] =>
      rw [hfds] at h
      obtain ⟨⟨header, rest⟩, hheader, h⟩ := bind_eq_ok.mp h
      obtain ⟨auxLen, -, h⟩ := bind_eq_ok.mp h
      obtain ⟨proofLen, -, h⟩ := bind_eq_ok.mp h
      obtain ⟨total, htotal, h⟩ := bind_eq_ok.mp h
      obtain ⟨⟨body, rest'⟩, hbody, h⟩ := bind_eq_ok.mp h
      obtain ⟨hend, hlast⟩ := unit_bind_eq_ok.mp h
      obtain ⟨rfl, hmax⟩ := requestTotal_eq_some.mp (okOr_eq_ok.mp htotal)
      have hsmall : 96 + auxLen + proofLen - verifierRequestHeaderLen < usizeSize := by
        unfold verifierMaxRequestLen at hmax
        unfold usizeSize
        omega
      have hsent := readExact_eq_ok (by decide) (mapErr_eq_ok.mp hheader)
      have hrest := readExact_eq_ok hsmall (mapErr_eq_ok.mp hbody)
      -- header, body and the checked end of the pipe make up what was sent
      rw [hsent, hrest, readEnd_eq_ok hend, List.append_nil]
      cases hclose : child.close fd with
      | ok _ =>
          rw [hclose] at hlast
          exact (Outcome.ok.inj hlast).symm
      | error e =>
          rw [hclose] at hlast
          cases hlast

/-! ## The verdicts -/

/-- A signature scheme: decoders for keys and signatures, and the check. -/
structure Scheme where
  Key : Type
  Signature : Type
  decodeKey : Bytes → Option Key
  decodeSignature : Bytes → Option Signature
  verify : Key → Bytes → Signature → Bool

/-- The scheme accepts an encoded signature on a message under an encoded key. -/
def Scheme.Accepts (scheme : Scheme) (publicKey message signature : Bytes) : Prop :=
  ∃ key sig, scheme.decodeKey publicKey = some key
    ∧ scheme.decodeSignature signature = some sig ∧ scheme.verify key message sig = true

/-- The primitives the programs link: SHA-256, P-256 over DER with its two encoders,
    ML-DSA-65 and SLH-DSA-SHA2-128s. -/
structure Primitives where
  sha256 : Bytes → Byte32
  p256 : Scheme
  sec1Point : p256.Key → Bytes
  toDer : p256.Signature → Bytes
  mldsa65 : Scheme
  slhdsa : Scheme

section Verify

variable (ckbHash : Bytes → Byte32) (prims : Primitives)

/-- `verify` of the two adapters, which differ in the algorithm, the aux data and the
    scheme. -/
def verifyAdapter (scheme : Scheme) (algorithm : UInt16) (aux : Bytes) (bytes : Bytes) :
    Outcome Exit Unit := do
  let request ← (VerifierRequest.parse bytes).mapErr (fun _ => Exit.malformedRequest)
  rejectIf (request.algorithmId ≠ algorithm) .unsupportedAlgorithm
  rejectIf (request.verifierProfile ≠ profileV1) .unsupportedProfile
  rejectIf (request.aux ≠ aux) .auxMismatch
  let proof ← (parsePublicKeyProof request.proof).mapErr (fun _ => Exit.malformedProof)
  rejectIf (ckbHash proof.publicKey ≠ request.keyId) .keyIdMismatch
  let key ← okOr .malformedKey (scheme.decodeKey proof.publicKey)
  let signature ← okOr .malformedProof (scheme.decodeSignature proof.signature)
  rejectIf (¬ scheme.verify key request.authorizationDigest.val signature) .invalidProof

/-- `verify` of `contracts/verifier-mldsa-adapter`. -/
def verifyMldsa : Bytes → Outcome Exit Unit :=
  verifyAdapter ckbHash prims.mldsa65 algMldsa65 [profileV1]

/-- `verify` of `contracts/verifier-slhdsa-adapter`. -/
def verifySlhdsa : Bytes → Outcome Exit Unit :=
  verifyAdapter ckbHash prims.slhdsa algSlhdsa [profileV1, slhDsaSha2128s]

/-- The checks of the P-256 `verify` on a parsed proof, up to the signature. -/
def checkPasskey (request : VerifierRequest) (proof : PasskeyProof) : Outcome Exit Unit := do
  rejectIf (ckbHash proof.publicKey ≠ request.keyId) .keyIdMismatch
  rejectIf ((prims.sha256 proof.origin).val ≠ (← slice request.aux 33 65)) .auxMismatch
  rejectIf ((← slice proof.authenticatorData 0 32) ≠ (← slice request.aux 1 33)) .auxMismatch
  rejectIf ((← byteAt proof.authenticatorData 32) &&& 0x05 ≠ 0x05) .auxMismatch
  validateClientData proof.clientDataJson (base64urlDigest request.authorizationDigest)
    proof.origin

/-- The signature check of the P-256 `verify`: keys and signatures must be encoded
    canonically. -/
def checkPasskeySignature (proof : PasskeyProof) : Outcome Exit Unit := do
  rejectIf ((← byteAt proof.publicKey 0) ≠ 4) .malformedKey
  let key ← okOr .malformedKey (prims.p256.decodeKey proof.publicKey)
  rejectIf (prims.sec1Point key ≠ proof.publicKey) .malformedKey
  let signature ← okOr .malformedProof (prims.p256.decodeSignature proof.signature)
  rejectIf (prims.toDer signature ≠ proof.signature) .malformedProof
  let clientHash := prims.sha256 proof.clientDataJson
  let signed := prims.sha256 (proof.authenticatorData ++ clientHash.val)
  rejectIf (¬ prims.p256.verify key signed.val signature) .invalidProof

/-- `verify` of `contracts/verifier-p256`. -/
def verifyP256 (bytes : Bytes) : Outcome Exit Unit := do
  let request ← (VerifierRequest.parse bytes).mapErr (fun _ => Exit.malformedRequest)
  rejectIf (request.algorithmId ≠ algP256Webauthn) .unsupportedAlgorithm
  rejectIf (request.verifierProfile ≠ profileV1) .unsupportedProfile
  rejectIf (request.aux.length ≠ 65) .auxMismatch
  rejectIf ((← byteAt request.aux 0) ≠ profileV1) .auxMismatch
  let proof ← parseProof request.proof
  checkPasskey ckbHash prims request proof
  checkPasskeySignature prims proof

/-- The three programs. -/
inductive Program where
  | p256
  | mldsa65
  | slhdsa
  deriving DecidableEq, Repr

/-- `main` of each program, on the bytes it was sent. -/
def Program.verify : Program → Bytes → Outcome Exit Unit
  | .p256 => verifyP256 ckbHash prims
  | .mldsa65 => verifyMldsa ckbHash prims
  | .slhdsa => verifySlhdsa ckbHash prims

/-- `program_entry`. -/
def programEntry (program : Program) (child : Child) (sent : Bytes) : Outcome Exit Int8 :=
  match readRequest child sent >>= program.verify ckbHash prims with
  | .ok () => .ok exitValid
  | .err e => .ok e.code
  | .abort => .abort

end Verify

variable {ckbHash : Bytes → Byte32} {prims : Primitives}

/-- **A program exits 0 only on bytes its `verify` accepts.** -/
theorem programEntry_eq_valid {program : Program} {child : Child} {sent : Bytes}
    (h : programEntry ckbHash prims program child sent = .ok exitValid) :
    program.verify ckbHash prims sent = .ok () := by
  unfold programEntry at h
  cases hverdict : readRequest child sent >>= program.verify ckbHash prims with
  | ok u =>
      obtain ⟨request, hread, hverify⟩ := bind_eq_ok.mp hverdict
      rw [readRequest_eq_ok hread] at hverify
      exact hverify
  | err e =>
      rw [hverdict] at h
      exact absurd (Outcome.ok.inj h) e.code_ne_valid
  | abort =>
      rw [hverdict] at h
      cases h

/-- **What a valid verdict of an adapter means.** -/
theorem verifyAdapter_eq_ok {scheme : Scheme} {algorithm : UInt16} {aux bytes : Bytes} :
    verifyAdapter ckbHash scheme algorithm aux bytes = .ok ()
      ↔ ∃ (request : VerifierRequest) (proof : PublicKeyProof),
        bytes = request.layout ∧ request.WellFormed
        ∧ request.algorithmId = algorithm ∧ request.verifierProfile = profileV1
        ∧ request.aux = aux ∧ request.proof = proof.layout ∧ proof.WellFormed
        ∧ ckbHash proof.publicKey = request.keyId
        ∧ scheme.Accepts proof.publicKey request.authorizationDigest.val proof.signature := by
  unfold verifyAdapter Scheme.Accepts
  simp only [bind_eq_ok, mapErr_eq_ok, rejectIf_eq_ok, okOr_eq_ok, VerifierRequest.parse_eq_ok,
    parsePublicKeyProof_eq_ok, not_not]
  constructor
  · rintro ⟨request, ⟨hbytes, hwf⟩, -, halg, -, hprofile, -, haux, proof, ⟨hproof, hpwf⟩, -, hkey,
      key, hdecode, signature, hsig, hverify⟩
    exact ⟨request, proof, hbytes, hwf, halg, hprofile, haux, hproof, hpwf, hkey, key, signature,
      hdecode, hsig, hverify⟩
  · rintro ⟨request, proof, hbytes, hwf, halg, hprofile, haux, hproof, hpwf, hkey, key, signature,
      hdecode, hsig, hverify⟩
    exact ⟨request, ⟨hbytes, hwf⟩, (), halg, (), hprofile, (), haux, proof, ⟨hproof, hpwf⟩, (),
      hkey, key, hdecode, signature, hsig, hverify⟩

/-- What the P-256 program checks of a request and its proof: the key is the one the
    state names, the assertion is for the relying party and the origin of the aux data
    with user presence and verification, its client data is for the digest, and the
    signature covers both. -/
structure PasskeyAccepted (ckbHash : Bytes → Byte32) (prims : Primitives)
    (request : VerifierRequest) (proof : PasskeyProof) : Prop where
  keyId : ckbHash proof.publicKey = request.keyId
  origin : (prims.sha256 proof.origin).val = (request.aux.drop 33).take 32
  relyingParty : proof.authenticatorData.take 32 = (request.aux.drop 1).take 32
  flags : ∃ flags, proof.authenticatorData[32]? = some flags ∧ flags &&& 0x05 = 0x05
  clientData : validateClientData proof.clientDataJson
    (base64urlDigest request.authorizationDigest) proof.origin = .ok ()
  signature : prims.p256.Accepts proof.publicKey
    (prims.sha256 (proof.authenticatorData ++ (prims.sha256 proof.clientDataJson).val)).val
    proof.signature

/-- **What a valid verdict of the P-256 program means.** -/
theorem verifyP256_eq_ok {bytes : Bytes} (h : verifyP256 ckbHash prims bytes = .ok ()) :
    ∃ (request : VerifierRequest) (proof : PasskeyProof),
      bytes = request.layout ∧ request.WellFormed
      ∧ request.algorithmId = algP256Webauthn ∧ request.verifierProfile = profileV1
      ∧ request.aux.length = 65 ∧ request.aux.head? = some profileV1
      ∧ request.proof = proof.layout ∧ proof.WellFormed
      ∧ PasskeyAccepted ckbHash prims request proof := by
  unfold verifyP256 at h
  obtain ⟨request, hrequest, h⟩ := bind_eq_ok.mp h
  obtain ⟨halg, h⟩ := rejectIf_bind_eq_ok.mp h
  obtain ⟨hprofile, h⟩ := rejectIf_bind_eq_ok.mp h
  obtain ⟨haux, h⟩ := rejectIf_bind_eq_ok.mp h
  obtain ⟨version, hversion, h⟩ := bind_eq_ok.mp h
  obtain ⟨hv1, h⟩ := rejectIf_bind_eq_ok.mp h
  obtain ⟨proof, hproof, h⟩ := bind_eq_ok.mp h
  obtain ⟨hpasskey, hsignature⟩ := unit_bind_eq_ok.mp h
  obtain ⟨hbytes, hwf⟩ := VerifierRequest.parse_eq_ok.mp (mapErr_eq_ok.mp hrequest)
  obtain ⟨hlayout, hpwf⟩ := parseProof_eq_ok.mp hproof
  -- the checks of the passkey, in the order the verifier makes them
  unfold checkPasskey at hpasskey
  obtain ⟨hkey, hpasskey⟩ := rejectIf_bind_eq_ok.mp hpasskey
  obtain ⟨originHash, horiginHash, hpasskey⟩ := bind_eq_ok.mp hpasskey
  obtain ⟨horigin, hpasskey⟩ := rejectIf_bind_eq_ok.mp hpasskey
  obtain ⟨found, hfound, hpasskey⟩ := bind_eq_ok.mp hpasskey
  obtain ⟨expected, hexpected, hpasskey⟩ := bind_eq_ok.mp hpasskey
  obtain ⟨hparty, hpasskey⟩ := rejectIf_bind_eq_ok.mp hpasskey
  obtain ⟨flags, hflags, hpasskey⟩ := bind_eq_ok.mp hpasskey
  obtain ⟨hset, hclient⟩ := rejectIf_bind_eq_ok.mp hpasskey
  -- then the key, the signature and the curve
  unfold checkPasskeySignature at hsignature
  obtain ⟨tag, -, hsignature⟩ := bind_eq_ok.mp hsignature
  obtain ⟨-, hsignature⟩ := rejectIf_bind_eq_ok.mp hsignature
  obtain ⟨key, hdecode, hsignature⟩ := bind_eq_ok.mp hsignature
  obtain ⟨-, hsignature⟩ := rejectIf_bind_eq_ok.mp hsignature
  obtain ⟨sig, hsig, hsignature⟩ := bind_eq_ok.mp hsignature
  obtain ⟨-, hverify⟩ := rejectIf_bind_eq_ok.mp hsignature
  obtain ⟨-, rfl⟩ := slice_eq_ok.mp horiginHash
  obtain ⟨-, rfl⟩ := slice_eq_ok.mp hfound
  obtain ⟨-, rfl⟩ := slice_eq_ok.mp hexpected
  refine ⟨request, proof, hbytes, hwf, not_not.mp halg, not_not.mp hprofile, not_not.mp haux, ?_,
    hlayout, hpwf, ⟨not_not.mp hkey, not_not.mp horigin, not_not.mp hparty,
      ⟨flags, byteAt_eq_ok.mp hflags, not_not.mp hset⟩, hclient,
      ⟨key, sig, okOr_eq_ok.mp hdecode, okOr_eq_ok.mp hsig, ?_⟩⟩⟩
  · rw [List.head?_eq_getElem?, byteAt_eq_ok.mp hversion, not_not.mp hv1]
  · exact not_not.mp (rejectIf_eq_ok.mp hverify)

end CkbVerifier
