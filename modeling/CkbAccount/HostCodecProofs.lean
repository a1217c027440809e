import CkbAccount.HostStateProofs
import CkbAccount.ProofWireProofs
import CkbAccount.RequestWireProofs
import CkbAccount.WitnessWireProofs

/-! # The host's request, witness and proof encoders

    `encode_verifier_request`, `encode_witness`, `encode_p256_proof` and
    `encode_public_key_proof` of `crates/host/src/lib.rs`.  They write a layout field by
    field, and all but the third end with the consensus parser on their own output, so each
    is the inverse of that parser:

    * `encodeVerifierRequest_eq_ok`: the encoder returns `d` exactly when
      `VerifierRequest::parse` returns the arguments on `d`; AccountLock's own encoder
      agrees with it on every entry a state can hold (`verifierRequest_bijective`);
    * `encodeWitness_eq_ok`: the same for witnesses, whose parser is a loop
      (`accountWitness_canonical`);
    * `encodeP256Proof_eq_ok`, `encodePublicKeyProof_eq_ok`: the payloads that the verifiers
      parse, and with them `proof_payloads_roundtrip`. -/

namespace CkbHostCodec

open RustOutcome Outcome LittleEndian RecordLoop CkbProtocol CkbStateWire CkbRequestWire
open CkbWitnessWire CkbHostState CkbProofWire

/-- `u32_len`. -/
def u32Len (value : Nat) : Outcome ProtocolError UInt32 :=
  if value < 2 ^ 32 then .ok (UInt32.ofNat value) else .err .lengthOverflow

theorem u32Len_of_lt {value : Nat} (h : value < 2 ^ 32) :
    u32Len value = .ok (UInt32.ofNat value) := if_pos h

theorem u32Len_eq_ok {value : Nat} {n : UInt32} :
    u32Len value = .ok n ↔ value < 2 ^ 32 ∧ UInt32.ofNat value = n := ite_eq_ok

/-! ## Requests -/

/-- `encode_verifier_request`. -/
def encodeVerifierRequest (algorithmId slot : UInt16) (operation verifierProfile : UInt8)
    (authorizationDigest keyId : Byte32) (aux proof : Bytes) : Outcome ProtocolError Bytes := do
  let _ ← capabilityForOperation operation
  rejectIf (aux.length > verifierMaxAuxLen ∨ proof.length > verifierMaxProofLen) .invalidRequest
  let total ← okOr .lengthOverflow
    ((checkedAdd verifierRequestHeaderLen aux.length).bind (fun v => checkedAdd v proof.length))
  rejectIf (total > verifierMaxRequestLen) .invalidRequest
  let out := verifierMagic
  let out := out ++ [verifierAbiV1]
  let out := out ++ [0]
  let out := out ++ u16Le (UInt16.ofNat verifierRequestHeaderLen)
  let out := out ++ u16Le algorithmId
  let out := out ++ u16Le slot
  let out := out ++ [operation]
  let out := out ++ [verifierProfile]
  let out := out ++ [0, 0]
  let out := out ++ authorizationDigest.val
  let out := out ++ keyId.val
  let out := out ++ u32Le (← u32Len aux.length)
  let out := out ++ u32Le (← u32Len proof.length)
  let out := out ++ [0, 0, 0, 0, 0, 0, 0, 0]
  let out := out ++ aux
  let out := out ++ proof
  let _ ← VerifierRequest.parse out
  return out

/-- The encoder applied to the fields of a request. -/
def encodeFields (r : VerifierRequest) : Outcome ProtocolError Bytes :=
  encodeVerifierRequest r.algorithmId r.slot r.operation r.verifierProfile
    r.authorizationDigest r.keyId r.aux r.proof

/-- What the encoder returns: the layout of its arguments, inside the limits. -/
theorem encodeFields_eq_ok {r : VerifierRequest} {d : Bytes} :
    encodeFields r = .ok d ↔ d = r.layout ∧ r.WellFormed := by
  -- inside the limits every checked length is exact and the output is the layout
  have hsmall : r.WellFormed → encodeFields r = (do
      let _ ← VerifierRequest.parse r.layout
      return r.layout) := by
    intro hwf
    obtain ⟨capability, hcap⟩ := (capabilityForOperation_eq_ok_iff _).mpr hwf.operation
    have ha : r.aux.length ≤ 4096 := hwf.aux_le
    have hp : r.proof.length ≤ 65536 := hwf.proof_le
    have hsum : (checkedAdd verifierRequestHeaderLen r.aux.length).bind
        (fun v => checkedAdd v r.proof.length) = some (96 + r.aux.length + r.proof.length) := by
      have hu : usizeSize = 2 ^ 64 := rfl
      have hh : verifierRequestHeaderLen = 96 := rfl
      rw [checkedAdd_of_lt (by omega), Option.bind_some, checkedAdd_of_lt (by omega), hh]
    have hfit : ¬ 96 + r.aux.length + r.proof.length > verifierMaxRequestLen := by
      rw [show verifierMaxRequestLen = 69728 from rfl]
      omega
    rw [encodeFields, encodeVerifierRequest, hcap, ok_bind,
      rejectIf_neg (not_or.mpr ⟨Nat.not_lt_of_le hwf.aux_le, Nat.not_lt_of_le hwf.proof_le⟩),
      ok_bind, hsum, okOr_some, ok_bind, rejectIf_neg hfit, ok_bind,
      u32Len_of_lt (by omega), ok_bind, u32Len_of_lt (by omega), ok_bind]
    simp only [VerifierRequest.layout, reservedTail, verifierRequestHeaderLen, List.append_assoc,
      List.cons_append, List.nil_append]
    rfl
  constructor
  · intro h
    have hwf : r.WellFormed := by
      rw [encodeFields, encodeVerifierRequest, capabilityForOperation_bind_eq_ok,
        rejectIf_bind_eq_ok, not_or] at h
      obtain ⟨hop, ⟨ha, hp⟩, -⟩ := h
      exact ⟨hop, Nat.le_of_not_lt ha, Nat.le_of_not_lt hp⟩
    rw [hsmall hwf, bind_eq_ok] at h
    obtain ⟨q, -, h⟩ := h
    cases h
    exact ⟨rfl, hwf⟩
  · rintro ⟨rfl, hwf⟩
    rw [hsmall hwf, VerifierRequest.parse_eq_ok.mpr ⟨rfl, hwf⟩]
    rfl

/-- **The parser and the host encoder are inverse**: `d` parses to `r` exactly when the
    fields of `r` encode to `d`. -/
theorem encodeVerifierRequest_eq_ok {r : VerifierRequest} {d : Bytes} :
    encodeFields r = .ok d ↔ VerifierRequest.parse d = .ok r := by
  rw [encodeFields_eq_ok, VerifierRequest.parse_eq_ok]

/-- The request AccountLock means for an entry, as arguments of the host encoder. -/
def requestOf (auth : AuthenticatorEntry) (hkey : auth.keyId.length = 32)
    (haux : auth.aux ≠ []) (operation : UInt8) (digest : Byte32) (proof : Bytes) :
    VerifierRequest where
  algorithmId := auth.algorithmId
  slot := auth.slot
  operation := operation
  verifierProfile := auth.aux.head haux
  authorizationDigest := digest
  keyId := ⟨auth.keyId, hkey⟩
  aux := auth.aux
  proof := proof

theorem requestFor_iff {auth : AuthenticatorEntry} (hkey : auth.keyId.length = 32)
    (haux : auth.aux ≠ []) {operation : UInt8} {digest : Byte32} {proof : Bytes}
    {r : VerifierRequest} :
    RequestFor auth operation digest proof r
      ↔ r = requestOf auth hkey haux operation digest proof := by
  constructor
  · rintro ⟨halg, hslot, hop, hprofile, hdigest, hkeyId, hauxEq, hproof⟩
    cases r
    simp only [requestOf, VerifierRequest.mk.injEq]
    refine ⟨halg, hslot, hop, ?_, hdigest, Subtype.ext hkeyId, hauxEq, hproof⟩
    rw [List.head?_eq_some_head haux] at hprofile
    exact (Option.some.inj hprofile).symm
  · rintro rfl
    exact ⟨rfl, rfl, rfl, List.head?_eq_some_head haux, rfl, rfl, rfl, rfl⟩

/-- **VerifierRequestV1 is a bijective format with agreeing encoders.**  A byte string
    parses exactly when the host encoder produces it, from the parsed fields and from no
    other arguments; and AccountLock's encoder is the host's with the first aux byte as
    the profile. -/
theorem verifierRequest_bijective :
    (∀ d : Bytes, (∃ r, VerifierRequest.parse d = .ok r)
      ↔ ∃ (algorithmId slot : UInt16) (operation profile : UInt8) (digest keyId : Byte32)
          (aux proof : Bytes),
          encodeVerifierRequest algorithmId slot operation profile digest keyId aux proof = .ok d)
    ∧ (∀ (d : Bytes) (algorithmId slot : UInt16) (operation profile : UInt8)
        (digest keyId : Byte32) (aux proof : Bytes),
        encodeVerifierRequest algorithmId slot operation profile digest keyId aux proof = .ok d
          ↔ VerifierRequest.parse d
            = .ok ⟨algorithmId, slot, operation, profile, digest, keyId, aux, proof⟩)
    ∧ (∀ (auth : AuthenticatorEntry) (hkey : auth.keyId.length = 32) (haux : auth.aux ≠ [])
        (operation : UInt8) (digest : Byte32) (proof out : Bytes),
        encodeRequest auth operation digest proof = .ok out
          ↔ encodeVerifierRequest auth.algorithmId auth.slot operation (auth.aux.head haux)
              digest ⟨auth.keyId, hkey⟩ auth.aux proof = .ok out) := by
  refine ⟨?_, ?_, ?_⟩
  · intro d
    constructor
    · rintro ⟨r, hr⟩
      exact ⟨_, _, _, _, _, _, _, _, encodeVerifierRequest_eq_ok.mpr hr⟩
    · rintro ⟨algorithmId, slot, operation, profile, digest, keyId, aux, proof, h⟩
      exact ⟨⟨algorithmId, slot, operation, profile, digest, keyId, aux, proof⟩,
        encodeVerifierRequest_eq_ok.mp h⟩
  · intro d algorithmId slot operation profile digest keyId aux proof
    exact encodeVerifierRequest_eq_ok
      (r := ⟨algorithmId, slot, operation, profile, digest, keyId, aux, proof⟩)
  · intro auth hkey haux operation digest proof out
    -- the chain writes the same fields as the host, key id and profile included
    have hfields : encodeVerifierRequest auth.algorithmId auth.slot operation
        (auth.aux.head haux) digest ⟨auth.keyId, hkey⟩ auth.aux proof = .ok out
        ↔ out = (requestOf auth hkey haux operation digest proof).layout
          ∧ (requestOf auth hkey haux operation digest proof).WellFormed :=
      encodeFields_eq_ok (r := requestOf auth hkey haux operation digest proof)
    rw [encodeRequest_eq_ok, hfields]
    constructor
    · rintro ⟨r, hr, hwf, rfl⟩
      rw [requestFor_iff hkey haux] at hr
      subst hr
      exact ⟨rfl, hwf⟩
    · rintro ⟨rfl, hwf⟩
      exact ⟨_, (requestFor_iff hkey haux).mpr rfl, hwf, rfl⟩

/-- The two encoders on the sole entry of a state with one byte of aux data. -/
theorem soleEntry_encoders_agree :
    ∃ (hkey : (soleEntry 1).keyId.length = 32) (haux : (soleEntry 1).aux ≠ []) (out : Bytes),
      encodeRequest (soleEntry 1) opSpend (filled32 7) [5] = .ok out
        ∧ encodeVerifierRequest (soleEntry 1).algorithmId (soleEntry 1).slot opSpend
            ((soleEntry 1).aux.head haux) (filled32 7) ⟨(soleEntry 1).keyId, hkey⟩
            (soleEntry 1).aux [5] = .ok out := by
  obtain ⟨out, hout⟩ : ∃ out, encodeRequest (soleEntry 1) opSpend (filled32 7) [5] = .ok out := by
    have hs : CkbStatePolicy.Supported (soleEntry 1) := ⟨by decide, by decide, by decide⟩
    exact (encodeRequest_of_supported hs).mpr ⟨by decide, by decide, by decide⟩
  exact ⟨by decide, by decide, out, hout,
    (verifierRequest_bijective.2.2 _ (by decide) (by decide) _ _ _ _).mp hout⟩

/-! ## Witnesses -/

/-- The body of the `for proof in proofs` loop.  A `Proof { slot, bytes }` of the host is
    the pair `parse_proofs` hands to its callback. -/
def pushProof (out : Bytes) (p : SlotProof) : Outcome ProtocolError Bytes := do
  rejectIf (p.proof.isEmpty) .invalidWitness
  let out := out ++ u16Le p.slot
  let out := out ++ [0, 0]
  let out := out ++ u32Le (← u32Len p.proof.length)
  return out ++ p.proof

/-- The loop over the proofs of `encode_witness`. -/
def pushProofs : List SlotProof → Bytes → Outcome ProtocolError Bytes
  | [], out => .ok out
  | p :: rest, out => pushProof out p >>= pushProofs rest

/-- `encode_witness`. -/
def encodeWitness (operation : UInt8) (stateSequence : UInt64) (proofs : List SlotProof) :
    Outcome ProtocolError Bytes := do
  let _ ← capabilityForOperation operation
  rejectIf (¬ proofs.length < 256) .invalidWitness
  let count := UInt8.ofNat proofs.length
  rejectIf (proofs.length > authenticatorMaxCount) .invalidWitness
  let out := accountWitnessMagic
  let out := out ++ [accountWitnessVersion]
  let out := out ++ [operation]
  let out := out ++ [count]
  let out := out ++ [0]
  let out := out ++ u64Le stateSequence
  let out ← pushProofs proofs out
  let header ← parseWitnessHeader out
  let _ ← parseProofs (fun _ _ => .ok ()) out header ()
  return out

theorem pushProof_eq_ok {out out' : Bytes} {p : SlotProof} :
    pushProof out p = .ok out' ↔ p.WellFormed ∧ out' = out ++ p.layout := by
  rw [pushProof, rejectIf_bind_eq_ok, bind_eq_ok]
  simp only [u32Len_eq_ok, pure_eq, Outcome.ok.injEq, List.isEmpty_iff, SlotProof.layout]
  constructor
  · rintro ⟨hne, n, ⟨hlt, rfl⟩, rfl⟩
    refine ⟨⟨hne, hlt⟩, ?_⟩
    simp only [List.append_assoc, List.cons_append, List.nil_append]
  · rintro ⟨⟨hne, hlt⟩, rfl⟩
    refine ⟨hne, _, ⟨hlt, rfl⟩, ?_⟩
    simp only [List.append_assoc, List.cons_append, List.nil_append]

/-- The loop writes the concatenated layouts, and fails on the first proof that has
    none. -/
theorem pushProofs_eq_ok :
    ∀ {ps : List SlotProof} {out out' : Bytes},
      pushProofs ps out = .ok out'
        ↔ (∀ p ∈ ps, p.WellFormed) ∧ out' = out ++ ps.flatMap SlotProof.layout := by
  intro ps
  induction ps with
  | nil =>
      intro out out'
      rw [pushProofs, Outcome.ok.injEq, List.flatMap_nil, List.append_nil]
      constructor
      · rintro rfl
        exact ⟨fun p hp => absurd hp List.not_mem_nil, rfl⟩
      · exact fun h => h.2.symm
  | cons p ps ih =>
      intro out out'
      rw [pushProofs, bind_eq_ok, List.forall_mem_cons, List.flatMap_cons]
      constructor
      · rintro ⟨mid, hmid, hrest⟩
        obtain ⟨hp, rfl⟩ := pushProof_eq_ok.mp hmid
        obtain ⟨hps, rfl⟩ := ih.mp hrest
        exact ⟨⟨hp, hps⟩, List.append_assoc ..⟩
      · rintro ⟨⟨hp, hps⟩, rfl⟩
        exact ⟨_, pushProof_eq_ok.mpr ⟨hp, rfl⟩, ih.mpr ⟨hps, (List.append_assoc ..).symm⟩⟩

/-- The header `encode_witness` writes. -/
def witnessHeader (operation : UInt8) (stateSequence : UInt64) (proofs : List SlotProof) :
    AccountWitnessHeader where
  operation := operation
  proofCount := UInt8.ofNat proofs.length
  stateSequence := stateSequence

/-- The whole lock field. -/
def witnessLayout (operation : UInt8) (stateSequence : UInt64) (proofs : List SlotProof) :
    Bytes :=
  (witnessHeader operation stateSequence proofs).layout ++ proofs.flatMap SlotProof.layout

/-- What the encoder and both parsers demand of a proof list. -/
structure EncodableWitness (operation : UInt8) (proofs : List SlotProof) : Prop where
  operation : IsOperation operation
  count : proofs.length ≤ 16
  nonempty : ∀ p ∈ proofs, p.proof ≠ []
  increasing : (proofs.map SlotProof.slot).Pairwise (· < ·)
  size : 16 + (proofs.flatMap SlotProof.layout).length ≤ accountWitnessMaxLockLen

/-- A proof takes no more room than the whole list. -/
theorem EncodableWitness.wellFormed {operation : UInt8} {proofs : List SlotProof}
    (h : EncodableWitness operation proofs) : ∀ p ∈ proofs, p.WellFormed := by
  intro p hp
  refine ⟨h.nonempty p hp, ?_⟩
  have hsize : 16 + (proofs.flatMap SlotProof.layout).length ≤ 131072 := h.size
  obtain ⟨s, t, rfl⟩ := List.append_of_mem hp
  rw [List.flatMap_append, List.flatMap_cons] at hsize
  simp only [List.length_append, SlotProof.layout_length] at hsize
  omega

theorem EncodableWitness.body_lt {operation : UInt8} {proofs : List SlotProof}
    (h : EncodableWitness operation proofs) :
    16 + (proofs.flatMap SlotProof.layout).length < usizeSize :=
  Nat.lt_of_le_of_lt h.size (by decide)

theorem EncodableWitness.count_toNat {operation : UInt8} {proofs : List SlotProof}
    (h : EncodableWitness operation proofs) (stateSequence : UInt64) :
    (witnessHeader operation stateSequence proofs).proofCount.toNat = proofs.length := by
  have hcount := h.count
  exact UInt8.toNat_ofNat_of_lt' (by rw [show UInt8.size = 256 from rfl]; omega)

/-- On the layout of an encodable witness the loop visits exactly the proofs. -/
theorem EncodableWitness.parseProofs_eq {operation : UInt8} {proofs : List SlotProof}
    (h : EncodableWitness operation proofs) (stateSequence : UInt64) {σ : Type}
    (f : σ → SlotProof → Outcome ProtocolError σ) (s : σ) :
    parseProofs f (witnessLayout operation stateSequence proofs)
      (witnessHeader operation stateSequence proofs) s = visit f proofs s := by
  have hoff : accountWitnessHeaderLen
      = (witnessHeader operation stateSequence proofs).layout.length :=
    (AccountWitnessHeader.layout_length _).symm
  rw [parseProofs, hoff, h.count_toNat stateSequence, witnessLayout]
  refine readProof_reads.scan_of_records s _ ?_
    ⟨rfl, h.wellFormed, (increasingFrom_none _).mpr h.increasing⟩
  rw [AccountWitnessHeader.layout_length]
  exact h.body_lt

/-- Both parsers on the layout of an encodable witness, for any callback. -/
theorem EncodableWitness.parses {operation : UInt8} {proofs : List SlotProof}
    (h : EncodableWitness operation proofs) (stateSequence : UInt64) :
    parseWitnessHeader (witnessLayout operation stateSequence proofs)
        = .ok (witnessHeader operation stateSequence proofs)
      ∧ ∀ {σ : Type} {f : σ → SlotProof → Outcome ProtocolError σ} {s s' : σ},
        visit f proofs s = .ok s' →
        parseProofs f (witnessLayout operation stateSequence proofs)
          (witnessHeader operation stateSequence proofs) s = .ok s' := by
  constructor
  · refine parseWitnessHeader_eq_ok.mpr ⟨⟨_, rfl⟩, h.operation, ?_⟩
    rw [witnessLayout, List.length_append, AccountWitnessHeader.layout_length]
    exact h.size
  · intro σ f s s' hvisit
    rw [h.parseProofs_eq stateSequence]
    exact hvisit

/-- A callback that keeps nothing accepts every list. -/
theorem visit_ignore {ρ ε : Type} :
    ∀ rs : List ρ, visit (fun (_ : Unit) (_ : ρ) => (.ok () : Outcome ε Unit)) rs () = .ok () := by
  intro rs
  induction rs with
  | nil => rfl
  | cons r rs ih =>
      rw [visit, ok_bind]
      exact ih

/-- The fixed part of the output is the header layout. -/
theorem encodeWitness_eq (operation : UInt8) (stateSequence : UInt64)
    (proofs : List SlotProof) :
    encodeWitness operation stateSequence proofs = (do
      let _ ← capabilityForOperation operation
      rejectIf (¬ proofs.length < 256) .invalidWitness
      rejectIf (proofs.length > authenticatorMaxCount) .invalidWitness
      let out ← pushProofs proofs (witnessHeader operation stateSequence proofs).layout
      let header ← parseWitnessHeader out
      let _ ← parseProofs (fun _ _ => .ok ()) out header ()
      return out) := by
  have hwrite : (witnessHeader operation stateSequence proofs).layout
      = accountWitnessMagic ++ [accountWitnessVersion] ++ [operation]
        ++ [UInt8.ofNat proofs.length] ++ [0] ++ u64Le stateSequence := by
    simp only [AccountWitnessHeader.layout, witnessHeader, List.append_assoc, List.cons_append,
      List.nil_append]
  rw [hwrite]
  rfl

/-- **What `encode_witness` returns**: the layout of its arguments, when they are
    encodable. -/
theorem encodeWitness_eq_ok {operation : UInt8} {stateSequence : UInt64}
    {proofs : List SlotProof} {out : Bytes} :
    encodeWitness operation stateSequence proofs = .ok out
      ↔ EncodableWitness operation proofs
        ∧ out = witnessLayout operation stateSequence proofs := by
  rw [encodeWitness_eq, capabilityForOperation_bind_eq_ok, rejectIf_bind_eq_ok,
    rejectIf_bind_eq_ok, bind_eq_ok]
  constructor
  · rintro ⟨hop, -, hcount, body, hbody, h⟩
    obtain ⟨hwf, rfl⟩ := pushProofs_eq_ok.mp hbody
    obtain ⟨header, hheader, h⟩ := bind_eq_ok.mp h
    obtain ⟨u, hproofs, h⟩ := bind_eq_ok.mp h
    cases h
    obtain ⟨⟨rest, hrest⟩, -, hsize⟩ := parseWitnessHeader_eq_ok.mp hheader
    rw [List.length_append, AccountWitnessHeader.layout_length] at hsize
    obtain ⟨rfl, -⟩ := AccountWitnessHeader.layout_append_inj hrest
    -- the re-parse read some list of proofs back; it is the one written
    obtain ⟨ps, hps, -, -⟩ := (parseProofs_eq_ok (Nat.lt_of_le_of_lt hsize (by decide))).mp hproofs
    have hsame : proofs = ps :=
      SlotProof.layout_prefixFree.flatMap_inj
        (fun p h => absurd (congrArg List.length h) (by rw [SlotProof.layout_length]; simp))
        (fun p hp => (hwf p hp).size) (fun p hp => (hps.wellFormed p hp).size) hps.bytes
    subst hsame
    exact ⟨⟨hop, Nat.le_of_not_lt hcount, fun p hp => (hwf p hp).nonempty,
      (increasingFrom_none _).mp hps.increasing, hsize⟩, rfl⟩
  · rintro ⟨h, rfl⟩
    obtain ⟨hheader, hproofs⟩ := h.parses stateSequence
    have hcount := h.count
    refine ⟨h.operation, by omega, Nat.not_lt_of_le h.count, _,
      pushProofs_eq_ok.mpr ⟨h.wellFormed, rfl⟩, ?_⟩
    rw [show (witnessHeader operation stateSequence proofs).layout
      ++ proofs.flatMap SlotProof.layout = witnessLayout operation stateSequence proofs from rfl,
      hheader, ok_bind, hproofs (visit_ignore proofs)]
    rfl

/-- What both parsers read with at most 16 proofs is encodable, and the bytes are its
    layout. -/
theorem encodable_of_parses {lock : Bytes} {header : AccountWitnessHeader}
    {proofs : List SlotProof} (hcount : proofs.length ≤ 16)
    (hheader : parseWitnessHeader lock = .ok header)
    (hproofs : parseProofs collect lock header [] = .ok proofs) :
    EncodableWitness header.operation proofs
      ∧ lock = witnessLayout header.operation header.stateSequence proofs := by
  obtain ⟨⟨body, rfl⟩, hop, hsize⟩ := parseWitnessHeader_eq_ok.mp hheader
  rw [List.length_append, AccountWitnessHeader.layout_length] at hsize
  obtain ⟨ps, hps, hlen, hvisit⟩ :=
    (parseProofs_eq_ok (Nat.lt_of_le_of_lt hsize (by decide))).mp hproofs
  rw [visit_collect, List.nil_append, Outcome.ok.injEq] at hvisit
  subst hvisit
  have hbody := hps.bytes
  subst hbody
  have hhead : witnessHeader header.operation header.stateSequence ps = header := by
    cases header
    simp only [witnessHeader, AccountWitnessHeader.mk.injEq, true_and, and_true]
    rw [hlen, UInt8.ofNat_toNat]
  refine ⟨⟨hop, hcount, fun p hp => (hps.wellFormed p hp).nonempty,
    (increasingFrom_none _).mp hps.increasing, hsize⟩, ?_⟩
  rw [witnessLayout, hhead]

/-- **AccountWitnessV1 is a canonical format.**  The encoder succeeds on exactly the
    proof lists the format can carry, and it returns `lock` exactly when the two parsers
    return its arguments on `lock`: what is encoded is read back, and what is read with
    at most 16 proofs is re-encoded to the same bytes. -/
theorem accountWitness_canonical (operation : UInt8) (stateSequence : UInt64)
    (proofs : List SlotProof) :
    ((∃ lock, encodeWitness operation stateSequence proofs = .ok lock)
      ↔ (operation = 1 ∨ operation = 2 ∨ operation = 3) ∧ proofs.length ≤ 16
        ∧ (∀ p ∈ proofs, p.proof ≠ []) ∧ (proofs.map SlotProof.slot).Pairwise (· < ·)
        ∧ 16 + (proofs.map (fun p => 8 + p.proof.length)).sum ≤ 131072)
    ∧ ∀ lock : Bytes, encodeWitness operation stateSequence proofs = .ok lock
      ↔ proofs.length ≤ 16
        ∧ ∃ header, parseWitnessHeader lock = .ok header ∧ header.operation = operation
          ∧ header.stateSequence = stateSequence
          ∧ parseProofs collect lock header [] = .ok proofs := by
  -- the bound on the size is the length of the proofs laid out
  have hsum : (proofs.flatMap SlotProof.layout).length
      = (proofs.map (fun p => 8 + p.proof.length)).sum := by
    rw [List.length_flatMap]
    congr 1
    exact List.map_congr_left fun p _ => SlotProof.layout_length p
  constructor
  · rw [← hsum]
    constructor
    · rintro ⟨lock, h⟩
      obtain ⟨⟨hop, hcount, hne, hinc, hsize⟩, -⟩ := encodeWitness_eq_ok.mp h
      exact ⟨hop, hcount, hne, hinc, hsize⟩
    · rintro ⟨hop, hcount, hne, hinc, hsize⟩
      exact ⟨_, encodeWitness_eq_ok.mpr ⟨⟨hop, hcount, hne, hinc, hsize⟩, rfl⟩⟩
  · intro lock
    rw [encodeWitness_eq_ok]
    constructor
    · rintro ⟨h, rfl⟩
      obtain ⟨hheader, hproofs⟩ := h.parses stateSequence
      refine ⟨h.count, _, hheader, rfl, rfl, hproofs ?_⟩
      rw [visit_collect, List.nil_append]
    · rintro ⟨hcount, header, hheader, rfl, rfl, hproofs⟩
      exact encodable_of_parses hcount hheader hproofs

/-! ## Passkey proofs -/

/-- `encode_p256_proof`. -/
def encodeP256Proof (publicKey origin authenticatorData clientDataJson signature : Bytes) :
    Outcome ProtocolError Bytes := do
  rejectIf (publicKey.length ≠ 65 ∨ publicKey.head? ≠ some 4 ∨ origin.isEmpty
    ∨ origin.length > 255 ∨ authenticatorData.length < 37 ∨ clientDataJson.isEmpty
    ∨ signature.isEmpty) .invalidProof
  let out := publicKey
  let out := out ++ [UInt8.ofNat origin.length]
  let out := out ++ origin
  let out := out ++ u16Le (← u16Len authenticatorData.length)
  let out := out ++ authenticatorData
  let out := out ++ u16Le (← u16Len clientDataJson.length)
  let out := out ++ clientDataJson
  let out := out ++ u16Le (← u16Len signature.length)
  return out ++ signature

theorem u16Len_bind_eq_ok {α : Type} {value : Nat} {f : UInt16 → Outcome ProtocolError α} {a : α} :
    (u16Len value >>= f) = .ok a ↔ value < 2 ^ 16 ∧ f (UInt16.ofNat value) = .ok a := by
  by_cases h : value < 2 ^ 16
  · rw [u16Len_of_lt h, ok_bind]
    exact ⟨fun hf => ⟨h, hf⟩, fun hf => hf.2⟩
  · rw [u16Len, if_neg h, err_bind]
    exact ⟨fun hf => (nomatch hf), fun hf => absurd hf.1 h⟩

/-- **What `encode_p256_proof` returns**: the layout of a proof that `parse_proof` reads,
    for an uncompressed key. -/
theorem encodeP256Proof_eq_ok {p : PasskeyProof} {out : Bytes} :
    encodeP256Proof p.publicKey p.origin p.authenticatorData p.clientDataJson p.signature = .ok out
      ↔ p.WellFormed ∧ p.publicKey.head? = some 4 ∧ out = p.layout := by
  unfold encodeP256Proof
  simp only [rejectIf_bind_eq_ok, u16Len_bind_eq_ok, not_or, not_not, List.isEmpty_iff,
    ← List.length_pos_iff, Nat.not_lt, pure_eq, Outcome.ok.injEq]
  have hlayout : p.publicKey ++ [UInt8.ofNat p.origin.length] ++ p.origin
      ++ u16Le (UInt16.ofNat p.authenticatorData.length) ++ p.authenticatorData
      ++ u16Le (UInt16.ofNat p.clientDataJson.length) ++ p.clientDataJson
      ++ u16Le (UInt16.ofNat p.signature.length) ++ p.signature = p.layout := by
    simp only [PasskeyProof.layout, sized, List.append_assoc, List.cons_append, List.nil_append]
  rw [hlayout]
  constructor
  · rintro ⟨⟨hkey, hhead, horigin, horiginLe, hdata, hclient, hsig⟩, hdataLt, hclientLt, hsigLt,
      rfl⟩
    exact ⟨⟨hkey, horigin, by omega, hdata, hdataLt, hclient, hclientLt, hsig, hsigLt⟩, hhead,
      rfl⟩
  · rintro ⟨⟨hkey, horigin, horiginLt, hdata, hdataLt, hclient, hclientLt, hsig, hsigLt⟩, hhead,
      rfl⟩
    exact ⟨⟨hkey, hhead, horigin, by omega, hdata, hclient, hsig⟩, hdataLt, hclientLt, hsigLt,
      rfl⟩

/-! ## Public key proofs -/

/-- `encode_public_key_proof`. -/
def encodePublicKeyProof (publicKey signature : Bytes) : Outcome ProtocolError Bytes := do
  rejectIf (publicKey.isEmpty ∨ signature.isEmpty) .invalidProof
  -- the capacity of the vector is a sum with overflow checks
  let _ ← addUsize (← addUsize 5 publicKey.length) signature.length
  let out := [1]
  let out := out ++ u16Le (← u16Len publicKey.length)
  let out := out ++ u16Le (← u16Len signature.length)
  let out := out ++ publicKey
  let out := out ++ signature
  let _ ← parsePublicKeyProof out
  return out

/-- **What `encode_public_key_proof` returns**: the layout of a proof that
    `parse_public_key_proof` reads. -/
theorem encodePublicKeyProof_eq_ok {p : PublicKeyProof} {out : Bytes} :
    encodePublicKeyProof p.publicKey p.signature = .ok out ↔ p.WellFormed ∧ out = p.layout := by
  have hlayout : [1] ++ u16Le (UInt16.ofNat p.publicKey.length)
      ++ u16Le (UInt16.ofNat p.signature.length) ++ p.publicKey ++ p.signature = p.layout := by
    simp only [PublicKeyProof.layout, List.append_assoc, List.cons_append, List.nil_append]
  unfold encodePublicKeyProof
  constructor
  · intro h
    obtain ⟨hne, h⟩ := rejectIf_bind_eq_ok.mp h
    obtain ⟨_, -, h⟩ := bind_eq_ok.mp h
    obtain ⟨_, -, h⟩ := bind_eq_ok.mp h
    obtain ⟨hkeyLt, h⟩ := u16Len_bind_eq_ok.mp h
    obtain ⟨hsigLt, h⟩ := u16Len_bind_eq_ok.mp h
    dsimp only at h
    rw [hlayout] at h
    obtain ⟨_, -, h⟩ := bind_eq_ok.mp h
    simp only [not_or, List.isEmpty_iff, ← List.length_pos_iff] at hne
    cases h
    exact ⟨⟨hne.1, hkeyLt, hne.2, hsigLt⟩, rfl⟩
  · rintro ⟨hwf, rfl⟩
    have hkeyLt := hwf.key_lt
    have hsigLt := hwf.signature_lt
    have hne : ¬ (p.publicKey.isEmpty = true ∨ p.signature.isEmpty = true) := by
      simp only [not_or, List.isEmpty_iff, ← List.length_pos_iff]
      exact ⟨hwf.key_pos, hwf.signature_pos⟩
    -- the encoder parses its own output, which a well-formed proof passes
    have hparse : parsePublicKeyProof p.layout = .ok p := parsePublicKeyProof_eq_ok.mpr ⟨rfl, hwf⟩
    rw [rejectIf_neg hne, ok_bind, addUsize_of_lt (by unfold usizeSize; omega), ok_bind,
      addUsize_of_lt (by unfold usizeSize; omega), ok_bind]
    dsimp only
    rw [u16Len_of_lt hkeyLt, ok_bind, u16Len_of_lt hsigLt, ok_bind, hlayout, hparse, ok_bind]
    rfl

/-! ## Both payload formats -/

/-- The parsers accept one encoding of each payload, and nothing behind it. -/
def Canonical {α ε : Type} (parse : Bytes → Outcome ε α) : Prop :=
  (∀ b b' p, parse b = .ok p → parse b' = .ok p → b = b')
    ∧ ∀ b t p q, parse b = .ok p → parse (b ++ t) = .ok q → t = []

/-- A parser that inverts a layout which tells where it ends. -/
theorem canonical_of_layout {α ε : Type} {parse : Bytes → Outcome ε α} {layout : α → Bytes}
    {wf : α → Prop} (hparse : ∀ {b p}, parse b = .ok p ↔ b = layout p ∧ wf p)
    (hfree : PrefixFree layout wf) : Canonical parse := by
  constructor
  · intro b b' p hb hb'
    rw [(hparse.mp hb).1, (hparse.mp hb').1]
  · intro b t p q hb hbt
    obtain ⟨rfl, hp⟩ := hparse.mp hb
    obtain ⟨heq, hq⟩ := hparse.mp hbt
    rw [← List.append_nil (layout q)] at heq
    exact (hfree p q t [] hp hq heq).2

/-- **Proof payloads survive the way from the host to the verifiers.**  Each encoder returns
    `b` exactly when the parser returns the encoder's arguments on `b` (for passkey proofs,
    on a `b` that starts with the byte of an uncompressed key), and neither format has two
    encodings of a payload or room for trailing bytes. -/
theorem proof_payloads_roundtrip :
    (∀ (publicKey origin authenticatorData clientDataJson signature b : Bytes),
      encodeP256Proof publicKey origin authenticatorData clientDataJson signature = .ok b
        ↔ parseProof b
            = .ok ⟨publicKey, origin, authenticatorData, clientDataJson, signature⟩
          ∧ b.head? = some 4)
    ∧ (∀ (publicKey signature b : Bytes),
      encodePublicKeyProof publicKey signature = .ok b
        ↔ parsePublicKeyProof b = .ok ⟨publicKey, signature⟩)
    ∧ Canonical parseProof ∧ Canonical parsePublicKeyProof := by
  refine ⟨?_, ?_, canonical_of_layout parseProof_eq_ok PasskeyProof.layout_prefixFree,
    canonical_of_layout parsePublicKeyProof_eq_ok PublicKeyProof.layout_prefixFree⟩
  · intro publicKey origin authenticatorData clientDataJson signature b
    let p : PasskeyProof := ⟨publicKey, origin, authenticatorData, clientDataJson, signature⟩
    -- the first byte of the payload is the first byte of the key
    have hhead : p.WellFormed → p.layout.head? = publicKey.head? := by
      intro hwf
      obtain ⟨first, rest, hkey, -⟩ := exists_head publicKey (by rw [hwf.key]; decide)
      rw [PasskeyProof.layout, show p.publicKey = first :: rest from hkey, hkey]
      rfl
    rw [parseProof_eq_ok, show encodeP256Proof publicKey origin authenticatorData clientDataJson
      signature = .ok b ↔ _ from encodeP256Proof_eq_ok (p := p)]
    constructor
    · rintro ⟨hwf, hfirst, rfl⟩
      exact ⟨⟨rfl, hwf⟩, (hhead hwf).trans hfirst⟩
    · rintro ⟨⟨rfl, hwf⟩, hfirst⟩
      exact ⟨hwf, (hhead hwf).symm.trans hfirst, rfl⟩
  · intro publicKey signature b
    rw [parsePublicKeyProof_eq_ok, show encodePublicKeyProof publicKey signature = .ok b ↔ _ from
      encodePublicKeyProof_eq_ok (p := ⟨publicKey, signature⟩)]
    exact and_comm

end CkbHostCodec
