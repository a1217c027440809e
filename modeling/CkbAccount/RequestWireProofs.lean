import CkbAccount.StatePolicyProofs

/-! # VerifierRequestV1 on the wire

    `VerifierRequest::parse` of `crates/protocol/src/wire.rs` and AccountLock's own
    encoder `encode_request`.  As for states, the parser is described by the layout
    it inverts (`VerifierRequest.parse_eq_ok`); the encoder re-parses its output,
    so its success set follows (`encodeRequest_eq_ok`).

    The two sides of the protocol bound the aux data differently: a state entry may
    hold as much as fits a 16 KiB state, a request at most 4096 bytes.  The last
    section says exactly which states that leaves operable. -/

namespace CkbRequestWire

open RustOutcome Outcome LittleEndian RecordLoop CkbProtocol CkbStateWire CkbStatePolicy

/-! ## Parsing -/

/-- `VerifierRequest`. -/
structure VerifierRequest where
  algorithmId : UInt16
  slot : UInt16
  operation : UInt8
  verifierProfile : UInt8
  authorizationDigest : Byte32
  keyId : Byte32
  aux : Bytes
  proof : Bytes
  deriving DecidableEq, Repr

/-- `VerifierRequest::parse`. -/
def VerifierRequest.parse (data : Bytes) : Outcome ProtocolError VerifierRequest := do
  rejectIf (data.length < verifierRequestHeaderLen ∨ data.length > verifierMaxRequestLen)
    .invalidRequest
  rejectIf ((← slice data 0 4) ≠ verifierMagic) .invalidRequest
  rejectIf ((← byteAt data 4) ≠ verifierAbiV1) .unsupportedVersion
  rejectIf ((← byteAt data 5) ≠ 0
    ∨ (← leU16 (← slice data 6 8)).toNat ≠ verifierRequestHeaderLen) .invalidRequest
  let algorithmId ← leU16 (← slice data 8 10)
  let slot ← leU16 (← slice data 10 12)
  let operation ← byteAt data 12
  let _ ← capabilityForOperation operation
  rejectIf ((← byteAt data 14) ≠ 0 ∨ (← byteAt data 15) ≠ 0
    ∨ (← slice data 88 96).any (fun byte => byte ≠ 0)) .invalidRequest
  let auxLen := (← (leU32 (← slice data 80 84)).mapErr
    (fun _ => ProtocolError.invalidRequest)).toNat
  let proofLen := (← (leU32 (← slice data 84 88)).mapErr
    (fun _ => ProtocolError.invalidRequest)).toNat
  rejectIf (auxLen > verifierMaxAuxLen ∨ proofLen > verifierMaxProofLen) .invalidRequest
  let auxEnd ← okOr .lengthOverflow (checkedAdd verifierRequestHeaderLen auxLen)
  let total ← okOr .lengthOverflow (checkedAdd auxEnd proofLen)
  rejectIf (total ≠ data.length) .invalidRequest
  return {
    algorithmId := algorithmId
    slot := slot
    operation := operation
    verifierProfile := ← byteAt data 13
    authorizationDigest := ← toByteArr 32 .invalidRequest (← slice data 16 48)
    keyId := ← toByteArr 32 .invalidRequest (← slice data 48 80)
    aux := ← slice data verifierRequestHeaderLen auxEnd
    proof := ← slice data auxEnd total }

/-- The eight reserved bytes at the end of the header. -/
def reservedTail : Bytes := [0, 0, 0, 0, 0, 0, 0, 0]

/-- The bytes of a request. -/
def VerifierRequest.layout (r : VerifierRequest) : Bytes :=
  verifierMagic ++ (verifierAbiV1 :: 0 :: (u16Le 96 ++ (u16Le r.algorithmId ++ (u16Le r.slot
    ++ (r.operation :: r.verifierProfile :: 0 :: 0 :: (r.authorizationDigest.val
    ++ (r.keyId.val ++ (u32Le (UInt32.ofNat r.aux.length)
    ++ (u32Le (UInt32.ofNat r.proof.length) ++ (reservedTail ++ (r.aux ++ r.proof)))))))))))

/-- What the parser demands of the values it returns. -/
structure VerifierRequest.WellFormed (r : VerifierRequest) : Prop where
  operation : IsOperation r.operation
  aux_le : r.aux.length ≤ verifierMaxAuxLen
  proof_le : r.proof.length ≤ verifierMaxProofLen

@[simp] theorem VerifierRequest.layout_length (r : VerifierRequest) :
    r.layout.length = 96 + r.aux.length + r.proof.length := by
  simp only [VerifierRequest.layout, verifierMagic, reservedTail, List.length_append,
    List.length_cons, List.length_nil, u16Le_length, u32Le_length,
    r.authorizationDigest.property, r.keyId.property]
  omega

/-- The parser on a string cut at the field boundaries. -/
theorem VerifierRequest.parse_cut {magic len alg slot digest keyId auxLen proofLen tail : Bytes}
    (hmagic : magic.length = 4) (hlen : len.length = 2) (halg : alg.length = 2)
    (hslot : slot.length = 2) (hdigest : digest.length = 32) (hkeyId : keyId.length = 32)
    (haux : auxLen.length = 4) (hproof : proofLen.length = 4) (htail : tail.length = 8)
    (abi flags operation profile r0 r1 : UInt8) (body : Bytes) :
    VerifierRequest.parse (magic ++ (abi :: flags :: (len ++ (alg ++ (slot ++ (operation
      :: profile :: r0 :: r1 :: (digest ++ (keyId ++ (auxLen ++ (proofLen ++ (tail
      ++ body)))))))))))
      = (do
        rejectIf (96 + body.length > verifierMaxRequestLen) .invalidRequest
        rejectIf (magic ≠ verifierMagic) .invalidRequest
        rejectIf (abi ≠ verifierAbiV1) .unsupportedVersion
        rejectIf (flags ≠ 0 ∨ (u16FromLe len).toNat ≠ verifierRequestHeaderLen) .invalidRequest
        let _ ← capabilityForOperation operation
        rejectIf (r0 ≠ 0 ∨ r1 ≠ 0 ∨ tail.any (fun byte => byte ≠ 0)) .invalidRequest
        rejectIf (leValue auxLen > verifierMaxAuxLen
          ∨ leValue proofLen > verifierMaxProofLen) .invalidRequest
        rejectIf (96 + leValue auxLen + leValue proofLen ≠ 96 + body.length) .invalidRequest
        return {
          algorithmId := u16FromLe alg
          slot := u16FromLe slot
          operation := operation
          verifierProfile := profile
          authorizationDigest := ⟨digest, hdigest⟩
          keyId := ⟨keyId, hkeyId⟩
          aux := body.take (leValue auxLen)
          proof := (body.drop (leValue auxLen)).take (leValue proofLen) }) := by
  unfold VerifierRequest.parse
  have hshort : ∀ n, ¬ (96 + n < verifierRequestHeaderLen) := by
    intro n
    unfold verifierRequestHeaderLen
    omega
  have ha : leValue auxLen < 2 ^ 32 := by
    have := leValue_lt auxLen
    rwa [haux] at this
  have hp : leValue proofLen < 2 ^ 32 := by
    have := leValue_lt proofLen
    rwa [hproof] at this
  have htotal : (magic ++ (abi :: flags :: (len ++ (alg ++ (slot ++ (operation
      :: profile :: r0 :: r1 :: (digest ++ (keyId ++ (auxLen ++ (proofLen ++ (tail
      ++ body))))))))))).length = 96 + body.length := by
    simp only [List.length_append, List.length_cons, hmagic, hlen, halg, hslot, hdigest, hkeyId,
      haux, hproof, htail]
    omega
  have hauxEnd : checkedAdd verifierRequestHeaderLen (leValue auxLen)
      = some (96 + leValue auxLen) :=
    checkedAdd_of_lt (by unfold usizeSize verifierRequestHeaderLen; omega)
  have htot : checkedAdd (96 + leValue auxLen) (leValue proofLen)
      = some (96 + leValue auxLen + leValue proofLen) :=
    checkedAdd_of_lt (by unfold usizeSize; omega)
  -- the 96 bytes of the header stand before the body
  obtain ⟨fixed, hfixed, hfixedLen⟩ : ∃ fixed, magic ++ (abi :: flags :: (len ++ (alg ++ (slot
      ++ (operation :: profile :: r0 :: r1 :: (digest ++ (keyId ++ (auxLen ++ (proofLen ++ (tail
      ++ body)))))))))) = fixed ++ body ∧ fixed.length = 96 := by
    refine ⟨magic ++ (abi :: flags :: (len ++ (alg ++ (slot ++ (operation :: profile :: r0
      :: r1 :: (digest ++ (keyId ++ (auxLen ++ (proofLen ++ tail))))))))), ?_, ?_⟩
    · simp only [List.append_assoc, List.cons_append]
    · simp only [List.length_append, List.length_cons, hmagic, hlen, halg, hslot, hdigest,
        hkeyId, haux, hproof, htail]
  have hd : toByteArr 32 ProtocolError.invalidRequest digest = .ok ⟨digest, hdigest⟩ := by
    rw [toByteArr, dif_pos hdigest]
  have hk : toByteArr 32 ProtocolError.invalidRequest keyId = .ok ⟨keyId, hkeyId⟩ := by
    rw [toByteArr, dif_pos hkeyId]
  rw [htotal]
  -- the two windows are cut only where the lengths add up
  by_cases hsum : 96 + leValue auxLen + leValue proofLen = 96 + body.length
  · have hauxSlice : (slice (magic ++ (abi :: flags :: (len ++ (alg ++ (slot ++ (operation
        :: profile :: r0 :: r1 :: (digest ++ (keyId ++ (auxLen ++ (proofLen ++ (tail
        ++ body))))))))))) verifierRequestHeaderLen (96 + leValue auxLen)
        : Outcome ProtocolError Bytes) = .ok (body.take (leValue auxLen)) := by
      rw [hfixed, slice_window fixed body (k := 0) (n := leValue auxLen)
        (by unfold verifierRequestHeaderLen; omega)
        (by unfold verifierRequestHeaderLen; omega) (by omega), List.drop_zero]
    have hproofSlice : (slice (magic ++ (abi :: flags :: (len ++ (alg ++ (slot ++ (operation
        :: profile :: r0 :: r1 :: (digest ++ (keyId ++ (auxLen ++ (proofLen ++ (tail
        ++ body))))))))))) (96 + leValue auxLen) (96 + leValue auxLen + leValue proofLen)
        : Outcome ProtocolError Bytes)
        = .ok ((body.drop (leValue auxLen)).take (leValue proofLen)) := by
      rw [hfixed, slice_window fixed body (k := leValue auxLen) (n := leValue proofLen)
        (by omega) (by omega) (by omega)]
    simp (disch := omega) only [slice_append_left, slice_append_right, slice_cons_succ,
      slice_all, byteAt_append_right, byteAt_cons_zero, byteAt_cons_succ, leU16_of_length,
      leU32_of_length, u32FromLe_toNat, mapErr_ok, hmagic, hlen, halg, hslot, hdigest, hkeyId,
      haux, hproof, Nat.reduceSub, ok_bind, hshort, false_or, hauxEnd, okOr_some, htot,
      hauxSlice, hproofSlice, hd, hk]
  · simp (disch := omega) only [slice_append_left, slice_append_right, slice_cons_succ,
      slice_all, byteAt_append_right, byteAt_cons_zero, byteAt_cons_succ, leU16_of_length,
      leU32_of_length, u32FromLe_toNat, mapErr_ok, hmagic, hlen, halg, hslot, hdigest, hkeyId,
      haux, hproof, Nat.reduceSub, ok_bind, hshort, false_or, hauxEnd, okOr_some, htot,
      rejectIf_pos hsum, err_bind]

/-- The parser on the layout of any request whose lengths fit their fields. -/
theorem VerifierRequest.parse_layout {r q : VerifierRequest} (haux : r.aux.length < 2 ^ 32)
    (hproof : r.proof.length < 2 ^ 32) :
    VerifierRequest.parse r.layout = .ok q ↔ q = r ∧ r.WellFormed := by
  unfold VerifierRequest.layout
  rw [VerifierRequest.parse_cut rfl (u16Le_length _) (u16Le_length _) (u16Le_length _)
    r.authorizationDigest.property r.keyId.property (u32Le_length _) (u32Le_length _) rfl,
    leValue_u32Le_ofNat haux, leValue_u32Le_ofNat hproof]
  simp only [rejectIf_bind_eq_ok, capabilityForOperation_bind_eq_ok, not_not, not_or, pure_eq,
    Outcome.ok.injEq, u16FromLe_u16Le, List.take_left', List.drop_left', List.take_length,
    List.length_append]
  constructor
  · rintro ⟨-, -, -, -, hop, -, ⟨ha, hp⟩, -, rfl⟩
    exact ⟨rfl, hop, Nat.le_of_not_lt ha, Nat.le_of_not_lt hp⟩
  · rintro ⟨rfl, ⟨hop, ha, hp⟩⟩
    refine ⟨?_, trivial, trivial, ⟨trivial, rfl⟩, hop,
      ⟨trivial, trivial, by decide⟩, ⟨Nat.not_lt_of_le ha, Nat.not_lt_of_le hp⟩, by omega, rfl⟩
    unfold verifierMaxAuxLen at ha
    unfold verifierMaxProofLen at hp
    unfold verifierMaxRequestLen
    omega

/-- **The request parser inverts the request layout.**  The length limits of the two
    variable parts add up to the limit on the whole request. -/
theorem VerifierRequest.parse_eq_ok {data : Bytes} {r : VerifierRequest} :
    VerifierRequest.parse data = .ok r ↔ data = r.layout ∧ r.WellFormed := by
  constructor
  · intro hp
    have hlong : 96 ≤ data.length := by
      unfold VerifierRequest.parse at hp
      rw [rejectIf_bind_eq_ok] at hp
      have := hp.1
      unfold verifierRequestHeaderLen at this
      omega
    -- cut the request at its fields
    obtain ⟨magic, d, rfl, hmagic, _⟩ := exists_front data 4 (by omega)
    obtain ⟨abi, d, rfl, _⟩ := exists_head d (by omega)
    obtain ⟨flags, d, rfl, _⟩ := exists_head d (by omega)
    obtain ⟨len, d, rfl, hlen, _⟩ := exists_front d 2 (by omega)
    obtain ⟨alg, d, rfl, halg, _⟩ := exists_front d 2 (by omega)
    obtain ⟨slot, d, rfl, hslot, _⟩ := exists_front d 2 (by omega)
    obtain ⟨operation, d, rfl, _⟩ := exists_head d (by omega)
    obtain ⟨profile, d, rfl, _⟩ := exists_head d (by omega)
    obtain ⟨r0, d, rfl, _⟩ := exists_head d (by omega)
    obtain ⟨r1, d, rfl, _⟩ := exists_head d (by omega)
    obtain ⟨digest, d, rfl, hdigest, _⟩ := exists_front d 32 (by omega)
    obtain ⟨keyId, d, rfl, hkeyId, _⟩ := exists_front d 32 (by omega)
    obtain ⟨auxLen, d, rfl, haux, _⟩ := exists_front d 4 (by omega)
    obtain ⟨proofLen, d, rfl, hproof, _⟩ := exists_front d 4 (by omega)
    obtain ⟨tail, body, rfl, htail, _⟩ := exists_front d 8 (by omega)
    rw [VerifierRequest.parse_cut hmagic hlen halg hslot hdigest hkeyId haux hproof htail] at hp
    simp only [rejectIf_bind_eq_ok, capabilityForOperation_bind_eq_ok, not_not, not_or, pure_eq,
      Outcome.ok.injEq] at hp
    obtain ⟨-, rfl, rfl, ⟨rfl, hhl⟩, hop, ⟨rfl, rfl, htz⟩, ⟨hauxMax, hproofMax⟩, hsum, rfl⟩ := hp
    -- the fields with one admissible value are those of the layout
    have hlen96 : len = u16Le 96 := by
      rw [← u16Le_u16FromLe hlen]
      congr 1
      exact UInt16.toNat_inj.mp hhl
    have htail0 : tail = reservedTail := by
      rw [show reservedTail = List.replicate 8 0 from rfl, List.eq_replicate_iff]
      refine ⟨htail, ?_⟩
      intro b hb
      by_contra hne
      exact htz (List.any_eq_true.mpr ⟨b, hb, decide_eq_true hne⟩)
    -- and the two lengths are those of what they announce
    have hauxData : (body.take (leValue auxLen)).length = leValue auxLen := by
      rw [List.length_take]
      omega
    have hproofData : ((body.drop (leValue auxLen)).take (leValue proofLen)).length
        = leValue proofLen := by
      rw [List.length_take, List.length_drop]
      omega
    have hbody : body.take (leValue auxLen)
        ++ (body.drop (leValue auxLen)).take (leValue proofLen) = body := by
      rw [List.take_of_length_le (i := leValue proofLen) (by rw [List.length_drop]; omega),
        List.take_append_drop]
    refine ⟨?_, ⟨hop, ?_, ?_⟩⟩
    · simp only [VerifierRequest.layout, hauxData, hproofData]
      rw [show UInt32.ofNat (leValue auxLen) = u32FromLe auxLen from rfl,
        show UInt32.ofNat (leValue proofLen) = u32FromLe proofLen from rfl]
      simp only [u32Le_u32FromLe haux, u32Le_u32FromLe hproof, u16Le_u16FromLe halg,
        u16Le_u16FromLe hslot, hlen96, htail0, hbody]
    · show (body.take (leValue auxLen)).length ≤ verifierMaxAuxLen
      rw [hauxData]
      exact Nat.le_of_not_lt hauxMax
    · show ((body.drop (leValue auxLen)).take (leValue proofLen)).length ≤ verifierMaxProofLen
      rw [hproofData]
      exact Nat.le_of_not_lt hproofMax
  · rintro ⟨rfl, hwf⟩
    have ha := hwf.aux_le
    have hp := hwf.proof_le
    unfold verifierMaxAuxLen at ha
    unfold verifierMaxProofLen at hp
    exact (VerifierRequest.parse_layout (by omega) (by omega)).mpr ⟨rfl, hwf⟩

/-! ## AccountLock's encoder -/

/-- `encode_request` of `contracts/account-lock/src/main.rs`. -/
def encodeRequest (auth : AuthenticatorEntry) (operation : UInt8) (digest : Byte32)
    (proof : Bytes) : Outcome ProtocolError Bytes := do
  rejectIf (auth.keyId.length ≠ 32 ∨ auth.aux.isEmpty ∨ proof.length > verifierMaxProofLen)
    .invalidRequest
  let _ ← okOr .lengthOverflow
    (((checkedAdd verifierRequestHeaderLen auth.aux.length).bind
      (fun v => checkedAdd v proof.length)).filter (fun v => v ≤ verifierMaxRequestLen))
  let output := verifierMagic ++ [verifierAbiV1, 0]
    ++ u16Le (UInt16.ofNat verifierRequestHeaderLen) ++ u16Le auth.algorithmId
    ++ u16Le auth.slot ++ [operation, ← byteAt auth.aux 0, 0, 0] ++ digest.val ++ auth.keyId
    ++ u32Le (UInt32.ofNat auth.aux.length) ++ u32Le (UInt32.ofNat proof.length)
    ++ [0, 0, 0, 0, 0, 0, 0, 0] ++ auth.aux ++ proof
  let _ ← VerifierRequest.parse output
  return output

/-- The request AccountLock means to send for an authenticator: the entry's own
    algorithm, slot, key id and aux data, the first aux byte as profile. -/
structure RequestFor (auth : AuthenticatorEntry) (operation : UInt8) (digest : Byte32)
    (proof : Bytes) (r : VerifierRequest) : Prop where
  algorithmId : r.algorithmId = auth.algorithmId
  slot : r.slot = auth.slot
  operation : r.operation = operation
  profile : auth.aux.head? = some r.verifierProfile
  digest : r.authorizationDigest = digest
  keyId : r.keyId.val = auth.keyId
  aux : r.aux = auth.aux
  proof : r.proof = proof

/-- The encoder's output is the layout of the request it means. -/
theorem RequestFor.layout_eq {auth : AuthenticatorEntry} {operation : UInt8} {digest : Byte32}
    {proof : Bytes} {r : VerifierRequest} (h : RequestFor auth operation digest proof r) :
    r.layout = verifierMagic ++ [verifierAbiV1, 0]
      ++ u16Le (UInt16.ofNat verifierRequestHeaderLen) ++ u16Le auth.algorithmId
      ++ u16Le auth.slot ++ [operation, r.verifierProfile, 0, 0] ++ digest.val ++ auth.keyId
      ++ u32Le (UInt32.ofNat auth.aux.length) ++ u32Le (UInt32.ofNat proof.length)
      ++ [0, 0, 0, 0, 0, 0, 0, 0] ++ auth.aux ++ proof := by
  rw [VerifierRequest.layout, h.algorithmId, h.slot, h.operation, h.digest, h.keyId, h.aux,
    h.proof]
  simp only [reservedTail, verifierRequestHeaderLen, List.append_assoc, List.cons_append,
    List.nil_append]
  rfl

/-- An entry with a 32-byte key id and some aux data has a request to send. -/
theorem RequestFor.exists_of {auth : AuthenticatorEntry} (hkey : auth.keyId.length = 32)
    (haux : auth.aux ≠ []) (operation : UInt8) (digest : Byte32) (proof : Bytes) :
    ∃ r, RequestFor auth operation digest proof r := by
  obtain ⟨profile, rest, hcons⟩ := List.exists_cons_of_ne_nil haux
  refine ⟨⟨auth.algorithmId, auth.slot, operation, profile, digest, ⟨auth.keyId, hkey⟩,
    auth.aux, proof⟩, ⟨rfl, rfl, rfl, ?_, rfl, rfl, rfl, rfl⟩⟩
  rw [hcons]
  rfl

/-- The first aux byte is the profile of the meant request. -/
theorem RequestFor.byteAt_aux {auth : AuthenticatorEntry} {operation : UInt8} {digest : Byte32}
    {proof : Bytes} {r : VerifierRequest} (h : RequestFor auth operation digest proof r) :
    (byteAt auth.aux 0 : Outcome ProtocolError UInt8) = .ok r.verifierProfile := by
  have hp := h.profile
  cases haux : auth.aux with
  | nil =>
      rw [haux] at hp
      cases hp
  | cons x rest =>
      rw [haux] at hp
      cases hp
      rfl

/-- The length computation of the encoder. -/
theorem requestTotal_eq_some {aux proof total : Nat} :
    (((checkedAdd verifierRequestHeaderLen aux).bind (fun v => checkedAdd v proof)).filter
      (fun v => v ≤ verifierMaxRequestLen)) = some total
      ↔ total = 96 + aux + proof ∧ 96 + aux + proof ≤ verifierMaxRequestLen := by
  simp only [Option.filter_eq_some_iff, Option.bind_eq_some_iff, checkedAdd_eq_some,
    verifierRequestHeaderLen, verifierMaxRequestLen, usizeSize]
  constructor
  · rintro ⟨⟨v, ⟨rfl, -⟩, rfl, -⟩, hle⟩
    exact ⟨rfl, of_decide_eq_true hle⟩
  · rintro ⟨rfl, hle⟩
    exact ⟨⟨96 + aux, ⟨rfl, by omega⟩, rfl, by omega⟩, decide_eq_true hle⟩

/-- **What the encoder sends**: exactly the layout of the meant request, whenever
    that request passes the parser's own limits. -/
theorem encodeRequest_eq_ok {auth : AuthenticatorEntry} {operation : UInt8} {digest : Byte32}
    {proof out : Bytes} :
    encodeRequest auth operation digest proof = .ok out
      ↔ ∃ r, RequestFor auth operation digest proof r ∧ r.WellFormed ∧ out = r.layout := by
  constructor
  · intro h
    unfold encodeRequest at h
    obtain ⟨hbad, h⟩ := rejectIf_bind_eq_ok.mp h
    obtain ⟨hkey, haux, -⟩ : auth.keyId.length = 32 ∧ ¬ auth.aux.isEmpty = true
        ∧ ¬ proof.length > verifierMaxProofLen := by
      simpa only [not_or, not_not] using hbad
    obtain ⟨r, hr⟩ := RequestFor.exists_of hkey
      (fun hc => haux (List.isEmpty_iff.mpr hc)) operation digest proof
    obtain ⟨total, htotal, h⟩ := bind_eq_ok.mp h
    obtain ⟨-, hle⟩ := requestTotal_eq_some.mp (okOr_eq_ok.mp htotal)
    unfold verifierMaxRequestLen at hle
    rw [hr.byteAt_aux, ok_bind, ← hr.layout_eq, bind_eq_ok] at h
    obtain ⟨q, hq, h⟩ := h
    cases h
    obtain ⟨-, hwf⟩ := (VerifierRequest.parse_layout (by rw [hr.aux]; omega)
      (by rw [hr.proof]; omega)).mp hq
    exact ⟨r, hr, hwf, rfl⟩
  · rintro ⟨r, hr, hwf, rfl⟩
    have ha := hwf.aux_le
    have hp := hwf.proof_le
    rw [hr.aux] at ha
    rw [hr.proof] at hp
    have hkey : auth.keyId.length = 32 := by
      rw [← hr.keyId]
      exact r.keyId.property
    have haux : ¬ auth.aux.isEmpty = true := by
      intro hc
      have hprofile := hr.profile
      rw [List.isEmpty_iff.mp hc] at hprofile
      cases hprofile
    unfold encodeRequest
    rw [rejectIf_neg (by simp only [not_or, not_not]; exact ⟨hkey, haux, by omega⟩), ok_bind,
      requestTotal_eq_some.mpr ⟨rfl, ?_⟩, okOr_some, ok_bind, hr.byteAt_aux, ok_bind,
      ← hr.layout_eq]
    · show (VerifierRequest.parse r.layout >>= fun _ => .ok r.layout) = .ok r.layout
      rw [VerifierRequest.parse_eq_ok.mpr ⟨rfl, hwf⟩, ok_bind]
    · unfold verifierMaxAuxLen at ha
      unfold verifierMaxProofLen at hp
      unfold verifierMaxRequestLen
      omega

/-- For an entry of a valid state the only limits left are those of the request. -/
theorem encodeRequest_of_supported {auth : AuthenticatorEntry} (hs : Supported auth)
    {operation : UInt8} {digest : Byte32} {proof : Bytes} :
    (∃ out, encodeRequest auth operation digest proof = .ok out)
      ↔ IsOperation operation ∧ auth.aux.length ≤ verifierMaxAuxLen
        ∧ proof.length ≤ verifierMaxProofLen := by
  constructor
  · rintro ⟨out, h⟩
    obtain ⟨r, hr, hwf, -⟩ := encodeRequest_eq_ok.mp h
    rw [← hr.operation, ← hr.aux, ← hr.proof]
    exact ⟨hwf.operation, hwf.aux_le, hwf.proof_le⟩
  · rintro ⟨hop, haux, hproof⟩
    obtain ⟨r, hr⟩ := RequestFor.exists_of hs.keyId hs.aux operation digest proof
    rw [← hr.operation] at hop
    rw [← hr.aux] at haux
    rw [← hr.proof] at hproof
    exact ⟨r.layout, encodeRequest_eq_ok.mpr ⟨r, hr, ⟨hop, haux, hproof⟩, rfl⟩⟩

/-! ## Operable entries -/

/-- Every request for an operation the entry may take part in can be encoded. -/
def Operable (auth : AuthenticatorEntry) : Prop :=
  ∀ operation capability, capabilityForOperation operation = .ok capability →
    holds auth capability = true → ∀ (digest : Byte32) (proof : Bytes), 1 ≤ proof.length →
      proof.length ≤ verifierMaxProofLen →
      ∃ request, encodeRequest auth operation digest proof = .ok request

/-- The entry holds a capability of some operation. -/
def HoldsOperation (auth : AuthenticatorEntry) : Prop :=
  holds auth capSpend = true ∨ holds auth capRotate = true ∨ holds auth capRecovery = true

instance (auth : AuthenticatorEntry) : Decidable (HoldsOperation auth) :=
  inferInstanceAs (Decidable (_ ∨ _ ∨ _))

/-- Holding an operation's capability is holding one of the three. -/
theorem holdsOperation_iff (auth : AuthenticatorEntry) :
    HoldsOperation auth ↔ ∃ operation capability,
      capabilityForOperation operation = .ok capability ∧ holds auth capability = true := by
  constructor
  · rintro (h | h | h)
    · exact ⟨opSpend, capSpend, rfl, h⟩
    · exact ⟨opRotate, capRotate, rfl, h⟩
    · exact ⟨opRecovery, capRecovery, rfl, h⟩
  · rintro ⟨operation, capability, hcap, h⟩
    rcases (capabilityForOperation_eq_ok_iff _).mp ⟨_, hcap⟩ with rfl | rfl | rfl
    · cases hcap
      exact Or.inl h
    · cases hcap
      exact Or.inr (Or.inl h)
    · cases hcap
      exact Or.inr (Or.inr h)

/-- **A supported entry is operable exactly when its aux data fits a request**, or
    when it holds no operation's capability at all. -/
theorem operable_iff {auth : AuthenticatorEntry} (hs : Supported auth) :
    Operable auth ↔ (HoldsOperation auth → auth.aux.length ≤ verifierMaxAuxLen) := by
  constructor
  · intro hop hholds
    obtain ⟨operation, capability, hcap, hh⟩ := (holdsOperation_iff auth).mp hholds
    have := hop operation capability hcap hh (filled32 0) [0] (Nat.le_refl 1)
      (by decide)
    exact ((encodeRequest_of_supported hs).mp this).2.1
  · intro haux operation capability hcap hh digest proof _ hproof
    exact (encodeRequest_of_supported hs).mpr
      ⟨(capabilityForOperation_eq_ok_iff _).mp ⟨_, hcap⟩,
        haux ((holdsOperation_iff auth).mpr ⟨operation, capability, hcap, hh⟩), hproof⟩

/-- **Which validated states are operable**: those whose entries with an operation's
    capability keep their aux data within the request limit.  `validate_state` does
    not check it. -/
theorem validState_operable_iff (state : Bytes) (header : StateHeader)
    (summary : StateSummary) (es : List AuthenticatorEntry)
    (hvalid : validateState state = .ok (header, summary))
    (hes : parseAuthenticators collect state header [] = .ok es) :
    (∀ auth ∈ es, Operable auth)
      ↔ ∀ auth ∈ es, HoldsOperation auth → auth.aux.length ≤ verifierMaxAuxLen := by
  obtain ⟨es', hv, -⟩ := validateState_eq_ok.mp hvalid
  have hsame : es' = es := by
    rw [hv.collect_eq] at hes
    exact Outcome.ok.inj hes
  subst hsame
  constructor
  · intro h auth hmem
    exact (operable_iff (hv.supported auth hmem)).mp (h auth hmem)
  · intro h auth hmem
    exact (operable_iff (hv.supported auth hmem)).mpr (h auth hmem)

/-- One ML-DSA key holding both mandatory capabilities, with `n` bytes of aux data. -/
def soleEntry (n : Nat) : AuthenticatorEntry where
  slot := 1
  algorithmId := algMldsa65
  capabilities := capSpend ||| capRotate
  weight := 1
  verifierHashType := 0
  verifierAbi := verifierAbiV1
  verifierCodeHash := filled32 2
  keyId := List.replicate 32 3
  aux := List.replicate n 1

/-- A single-key account: both thresholds 1, no recovery. -/
def soleHeader : StateHeader where
  flags := 0
  sequence := 0
  spendThreshold := 1
  rotateThreshold := 1
  recoveryThreshold := 0
  authenticatorCount := 1
  recoverySince := 0

/-- The state of that one entry. -/
def soleState (n : Nat) : Bytes := soleHeader.layout ++ entriesLayout [soleEntry n]

/-- Whatever fits a cell is valid. -/
theorem soleState_valid {n : Nat} (hpos : 0 < n) (hmax : 112 + n ≤ accountStateMaxLen) :
    ValidState (soleState n) soleHeader [soleEntry n] := by
  unfold accountStateMaxLen at hmax
  -- a state of one entry: what holds of that entry holds of all
  have hone : ∀ {p : AuthenticatorEntry → Prop}, p (soleEntry n) →
      ∀ e ∈ [soleEntry n], p e := by
    intro p hp e he
    rw [List.mem_singleton.mp he]
    exact hp
  have hlen : (soleEntry n).aux.length = n := List.length_replicate
  have hkey : (soleEntry n).keyId.length = 32 := rfl
  have hweight : ∀ capability, holds (soleEntry n) capability = true →
      1 ≤ capWeight capability [soleEntry n] := by
    intro capability hh
    rw [capWeight_cons, if_pos hh]
    exact Nat.le_refl 1
  refine ⟨rfl, ?_, ⟨by decide, by decide, by decide⟩, rfl, hone ⟨?_, ?_, ?_, ?_, rfl⟩,
    hone ⟨rfl, rfl, ?_⟩, List.pairwise_singleton .., ⟨by decide, hweight _ ?_, by decide,
    hweight _ ?_, fun h => absurd h (by decide), fun _ => ⟨rfl, rfl⟩⟩⟩
  · rw [soleState, List.length_append, StateHeader.layout_length, entriesLayout,
      List.flatMap_cons, List.flatMap_nil, List.append_nil, AuthenticatorEntry.layout_length,
      hlen, hkey]
    unfold accountStateMaxLen
    omega
  · rw [hlen, hkey]
    omega
  · show (1 : UInt16) ≠ 0
    decide
  · show (capSpend ||| capRotate) &&& ~~~capKnownMask = 0
    decide
  · show (0 : UInt8) ≤ 1
    decide
  · intro h
    rw [h] at hlen
    simp only [List.length_nil] at hlen
    omega
  · show decide ((capSpend ||| capRotate) &&& capSpend ≠ 0) = true
    decide
  · show decide ((capSpend ||| capRotate) &&& capRotate ≠ 0) = true
    decide

/-- The condition at a state with one byte of aux data: it holds, and so does operability. -/
theorem soleState_one_operable :
    validateState (soleState 1) = .ok (soleHeader, summaryOf [soleEntry 1])
      ∧ ((∀ auth ∈ [soleEntry 1], Operable auth)
        ↔ ∀ auth ∈ [soleEntry 1], HoldsOperation auth → auth.aux.length ≤ verifierMaxAuxLen)
      ∧ ∀ auth ∈ [soleEntry 1], HoldsOperation auth → auth.aux.length ≤ verifierMaxAuxLen := by
  have hv : ValidState (soleState 1) soleHeader [soleEntry 1] :=
    soleState_valid (by decide) (by decide)
  have hvalid := validateState_eq_ok.mpr ⟨_, hv, rfl⟩
  exact ⟨hvalid, validState_operable_iff _ _ _ _ hvalid hv.collect_eq, by decide⟩

/-- **A validated state no request can use**: one byte of aux data past the request
    limit, well inside the state limit. -/
theorem soleState_4097_inoperable :
    validateState (soleState 4097) = .ok (soleHeader, summaryOf [soleEntry 4097])
      ∧ parseAuthenticators collect (soleState 4097) soleHeader [] = .ok [soleEntry 4097]
      ∧ capabilityForOperation opSpend = .ok capSpend
      ∧ holds (soleEntry 4097) capSpend = true
      ∧ ∀ (digest : Byte32) (proof : Bytes),
          ¬ ∃ request, encodeRequest (soleEntry 4097) opSpend digest proof = .ok request := by
  have hv : ValidState (soleState 4097) soleHeader [soleEntry 4097] :=
    soleState_valid (by decide) (by decide)
  refine ⟨validateState_eq_ok.mpr ⟨_, hv, rfl⟩, hv.collect_eq, rfl, by decide, ?_⟩
  intro digest proof h
  have haux := ((encodeRequest_of_supported (hv.supported _ (List.mem_singleton.mpr rfl))).mp h).2.1
  have hlen : (soleEntry 4097).aux.length = 4097 := List.length_replicate
  rw [hlen] at haux
  exact absurd haux (by decide)

end CkbRequestWire
