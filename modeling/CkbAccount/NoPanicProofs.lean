import CkbAccount.StatePolicyProofs
import CkbAccount.VerifierProofs
import CkbAccount.WitnessTableProofs
import CkbAccount.WitnessWireProofs

/-! # No input makes a parser panic

    Rust panics on an index or a slice outside its bounds and, in these builds, on an
    addition that overflows; the model calls that `abort`, and also a loop that outruns its
    fuel.  One lemma for each parser of `crates/protocol/src/wire.rs` and of the two
    contracts says that it never aborts: every access stands behind a length check.

    * the wire parsers, for any callback that does not itself abort and any header, not only
      one that was read from the same bytes;
    * the Molecule readers of AccountLock;
    * `verify` of the P-256 verifier with its indices into `aux`, the authenticator data and
      the public key;
    * `parsers_never_panic` collects them. -/

namespace CkbNoPanic

open RustOutcome Outcome LittleEndian RecordLoop CkbProtocol CkbStateWire CkbStatePolicy
open CkbWitnessWire CkbWitnessTable CkbRequestWire CkbClientData CkbProofWire CkbVerifier

/-! ## Integer readers -/

theorem leU16_ne_abort {b : Bytes} : leU16 b ≠ .abort := by
  refine rejectIf_bind_ne_abort fun hlen => ?_
  have hlen : b.length = 2 := not_not.mp hlen
  exact bind_ne_abort (byteAt_ne_abort (by omega)) fun _ _ =>
    bind_ne_abort (byteAt_ne_abort (by omega)) fun _ _ => by simp

theorem leU32_ne_abort {b : Bytes} : leU32 b ≠ .abort := by
  by_cases hlen : b.length = 4
  · rw [leU32_of_length hlen]
    simp
  · rw [leU32, rejectIf_pos hlen, err_bind]
    simp

theorem leU64_ne_abort {b : Bytes} : leU64 b ≠ .abort := by
  by_cases hlen : b.length = 8
  · rw [leU64_of_length hlen]
    simp
  · rw [leU64, rejectIf_pos hlen, err_bind]
    simp

theorem leUsize_ne_abort {b : Bytes} : leUsize b ≠ .abort :=
  bind_ne_abort toByteArr_ne_abort fun _ _ => by simp

theorem checkedEnd_ne_abort {offset len total : Nat} : checkedEnd offset len total ≠ .abort :=
  okOr_ne_abort

theorem capabilityForOperation_ne_abort {operation : UInt8} :
    capabilityForOperation operation ≠ .abort := by
  unfold capabilityForOperation
  split
  · simp
  · split
    · simp
    · split <;> simp

/-! ## Fields at fixed offsets -/

section Fields

variable {α : Type} {data : Bytes} {lo hi off : Nat}

/-- A 16-bit field of a string that is long enough. -/
theorem u16Field_ne_abort {f : UInt16 → Outcome ProtocolError α} (hle : lo ≤ hi)
    (hlen : hi ≤ data.length) (hf : ∀ n, f n ≠ .abort) :
    (slice data lo hi >>= fun b => leU16 b >>= f) ≠ .abort :=
  bind_ne_abort (slice_ne_abort hle hlen) fun _ _ => bind_ne_abort leU16_ne_abort fun n _ => hf n

/-- Reading a field of eight bytes inside the buffer. -/
theorem u64Field_ne_abort {f : UInt64 → Outcome ProtocolError α} (hle : lo ≤ hi)
    (hlen : hi ≤ data.length) (hf : ∀ n, f n ≠ .abort) :
    (slice data lo hi >>= fun b => leU64 b >>= f) ≠ .abort :=
  bind_ne_abort (slice_ne_abort hle hlen) fun _ _ => bind_ne_abort leU64_ne_abort fun n _ => hf n

/-- The same behind an offset, once the window of the whole record has been checked. -/
theorem u16At_ne_abort {f : UInt16 → Outcome ProtocolError α} (hle : lo ≤ hi)
    (hlen : off + hi ≤ data.length) (hlt : off + hi < usizeSize) (hf : ∀ n, f n ≠ .abort) :
    (sliceFrom data off lo hi >>= fun b => leU16 b >>= f) ≠ .abort :=
  bind_ne_abort (sliceFrom_ne_abort hle hlen hlt) fun _ _ =>
    bind_ne_abort leU16_ne_abort fun n _ => hf n

end Fields

/-! ## The state -/

/-- The length check comes before every field. -/
theorem stateHeader_parse_ne_abort (data : Bytes) : StateHeader.parse data ≠ .abort := by
  rw [StateHeader.parse]
  refine rejectIf_bind_ne_abort fun hlen => ?_
  have hlong : 32 ≤ data.length := by
    rw [show accountStateHeaderLen = 32 from rfl] at hlen
    omega
  refine bind_ne_abort (slice_ne_abort (by omega) (by omega)) fun _ _ => ?_
  refine rejectIf_bind_ne_abort fun _ => ?_
  refine bind_ne_abort (byteAt_ne_abort (by omega)) fun _ _ => rejectIf_bind_ne_abort fun _ => ?_
  refine bind_ne_abort (byteAt_ne_abort (by omega)) fun _ _ => rejectIf_bind_ne_abort fun _ => ?_
  refine u16Field_ne_abort (by omega) (by omega) fun _ => rejectIf_bind_ne_abort fun _ => ?_
  refine bind_ne_abort (byteAt_ne_abort (by omega)) fun _ _ => rejectIf_bind_ne_abort fun _ => ?_
  refine bind_ne_abort (byteAt_ne_abort (by omega)) fun _ _ => rejectIf_bind_ne_abort fun _ => ?_
  -- the fields of the result
  refine bind_ne_abort (byteAt_ne_abort (by omega)) fun _ _ => ?_
  refine u64Field_ne_abort (by omega) (by omega) fun _ => ?_
  refine u16Field_ne_abort (by omega) (by omega) fun _ => ?_
  refine u16Field_ne_abort (by omega) (by omega) fun _ => ?_
  refine u16Field_ne_abort (by omega) (by omega) fun _ => ?_
  exact u64Field_ne_abort (by omega) (by omega) fun _ => by simp

/-- The entry reader: 48 bytes are there before the fixed part is read, and the whole entry
    before the key id and the aux data are. -/
theorem readEntry_ne_abort (state : Bytes) (off : Nat) (prev : Option UInt16) :
    readEntry state off prev ≠ .abort := by
  rw [readEntry, parseEntry]
  simp only [Outcome.bind_assoc, pure_eq, ok_bind]
  refine bind_ne_abort (mapErr_ne_abort checkedEnd_ne_abort) fun _ hfixed => ?_
  obtain ⟨-, hlt, hlen⟩ := checkedEnd_eq_ok.mp (mapErr_eq_ok.mp hfixed)
  refine u16At_ne_abort (by omega) (by omega) (by omega) fun entryLen => ?_
  refine u16At_ne_abort (by omega) (by omega) (by omega) fun _ => ?_
  refine u16At_ne_abort (by omega) (by omega) (by omega) fun _ => ?_
  refine u16At_ne_abort (by omega) (by omega) (by omega) fun _ => ?_
  refine u16At_ne_abort (by omega) (by omega) (by omega) fun _ => ?_
  refine bind_ne_abort (byteFrom_ne_abort (by omega) (by omega)) fun _ _ => ?_
  refine bind_ne_abort (byteFrom_ne_abort (by omega) (by omega)) fun _ _ => ?_
  refine bind_ne_abort (sliceFrom_ne_abort (by omega) (by omega) (by omega)) fun _ _ => ?_
  refine bind_ne_abort toByteArr_ne_abort fun _ _ => ?_
  refine u16At_ne_abort (by omega) (by omega) (by omega) fun keyLen => ?_
  refine u16At_ne_abort (by omega) (by omega) (by omega) fun auxLen => ?_
  refine bind_ne_abort okOr_ne_abort fun size hsize => rejectIf_bind_ne_abort fun hentry => ?_
  refine bind_ne_abort (mapErr_ne_abort checkedEnd_ne_abort) fun _ hwhole => ?_
  obtain ⟨-, hwholeLt, hwholeLen⟩ := checkedEnd_eq_ok.mp (mapErr_eq_ok.mp hwhole)
  -- the entry is as long as its parts
  have hparts : entryLen.toNat = 48 + keyLen.toNat + auxLen.toNat := by
    obtain ⟨sum, hsum, hrest⟩ := Option.bind_eq_some_iff.mp (okOr_eq_ok.mp hsize)
    rw [not_not.mp hentry, (checkedAdd_eq_some.mp hrest).1, (checkedAdd_eq_some.mp hsum).1]
  refine bind_ne_abort checkIncreasing_ne_abort fun _ _ => ?_
  refine rejectIf_bind_ne_abort fun _ => rejectIf_bind_ne_abort fun _ => ?_
  rw [addUsize_of_lt hlt, ok_bind, addUsize_of_lt (by omega), ok_bind]
  refine bind_ne_abort (slice_ne_abort (by omega) (by omega)) fun _ _ => ?_
  rw [addUsize_of_lt (by omega), ok_bind]
  exact bind_ne_abort (slice_ne_abort (by omega) (by omega)) fun _ _ => by simp

/-- `parse_authenticators`, with any header. -/
theorem parseAuthenticators_ne_abort {σ : Type}
    {f : σ → AuthenticatorEntry → Outcome ProtocolError σ} (hf : ∀ s e, f s e ≠ .abort)
    (state : Bytes) (header : StateHeader) (init : σ) :
    parseAuthenticators f state header init ≠ .abort :=
  scan_ne_abort (readEntry_ne_abort state) hf

theorem addWeight_ne_abort {e : AuthenticatorEntry} {capability : UInt16} {acc : UInt32} :
    addWeight e capability acc ≠ .abort := by
  unfold addWeight
  split
  · exact okOr_ne_abort
  · simp

theorem validateEntry_ne_abort (summary : StateSummary) (entry : AuthenticatorEntry) :
    validateEntry summary entry ≠ .abort :=
  rejectIf_bind_ne_abort fun _ => rejectIf_bind_ne_abort fun _ =>
    bind_ne_abort addWeight_ne_abort fun _ _ => bind_ne_abort addWeight_ne_abort fun _ _ =>
    bind_ne_abort addWeight_ne_abort fun _ _ => by simp

/-- The entries are read inside the ranges that were checked. -/
theorem validateState_ne_abort (state : Bytes) : validateState state ≠ .abort := by
  rw [validateState]
  refine bind_ne_abort (stateHeader_parse_ne_abort state) fun header _ => ?_
  refine bind_ne_abort (parseAuthenticators_ne_abort validateEntry_ne_abort state header _)
    fun _ _ => rejectIf_bind_ne_abort fun _ => ?_
  -- one of the two last checks, by the recovery flag
  split
  · exact rejectIf_bind_ne_abort fun _ => by simp
  · exact rejectIf_bind_ne_abort fun _ => by simp

/-! ## The witness and the request -/

theorem parseWitnessHeader_ne_abort (data : Bytes) : parseWitnessHeader data ≠ .abort := by
  rw [parseWitnessHeader]
  refine rejectIf_bind_ne_abort fun hlen => ?_
  have hlong : 16 ≤ data.length := by
    rw [show accountWitnessHeaderLen = 16 from rfl] at hlen
    omega
  refine bind_ne_abort (slice_ne_abort (by omega) (by omega)) fun _ _ => ?_
  refine bind_ne_abort (byteAt_ne_abort (by omega)) fun _ _ => ?_
  refine bind_ne_abort (byteAt_ne_abort (by omega)) fun _ _ => rejectIf_bind_ne_abort fun _ => ?_
  refine bind_ne_abort (byteAt_ne_abort (by omega)) fun _ _ => rejectIf_bind_ne_abort fun _ => ?_
  refine bind_ne_abort (byteAt_ne_abort (by omega)) fun _ _ => ?_
  refine bind_ne_abort (byteAt_ne_abort (by omega)) fun _ _ => ?_
  refine bind_ne_abort (slice_ne_abort (by omega) (by omega)) fun _ _ => ?_
  exact bind_ne_abort (mapErr_ne_abort leU64_ne_abort) fun _ _ => by simp

/-- A proof is sliced after its end is checked. -/
theorem readProof_ne_abort (data : Bytes) (off : Nat) (prev : Option UInt16) :
    readProof data off prev ≠ .abort := by
  rw [readProof]
  refine bind_ne_abort (mapErr_ne_abort checkedEnd_ne_abort) fun _ hfixed => ?_
  obtain ⟨-, hlt, hlen⟩ := checkedEnd_eq_ok.mp (mapErr_eq_ok.mp hfixed)
  refine bind_ne_abort (sliceFrom_ne_abort (by omega) (by omega) (by omega)) fun _ _ => ?_
  refine bind_ne_abort (mapErr_ne_abort leU16_ne_abort) fun _ _ => ?_
  refine bind_ne_abort (byteFrom_ne_abort (by omega) (by omega)) fun _ _ => ?_
  refine bind_ne_abort (byteFrom_ne_abort (by omega) (by omega)) fun _ _ => ?_
  refine rejectIf_bind_ne_abort fun _ => ?_
  refine bind_ne_abort (sliceFrom_ne_abort (by omega) (by omega) (by omega)) fun _ _ => ?_
  refine bind_ne_abort leU32_ne_abort fun len _ => ?_
  refine bind_ne_abort okOr_ne_abort fun payload hpayload => ?_
  refine bind_ne_abort (mapErr_ne_abort checkedEnd_ne_abort) fun stop hstop => ?_
  obtain ⟨rfl, -, hstopLen⟩ := checkedEnd_eq_ok.mp (mapErr_eq_ok.mp hstop)
  refine rejectIf_bind_ne_abort fun _ => bind_ne_abort checkIncreasing_ne_abort fun _ _ => ?_
  exact bind_ne_abort (slice_ne_abort (by omega) hstopLen) fun _ _ => by simp

/-- `parse_proofs`, with any header. -/
theorem parseProofs_ne_abort {σ : Type} {f : σ → SlotProof → Outcome ProtocolError σ}
    (hf : ∀ s p, f s p ≠ .abort) (data : Bytes) (header : AccountWitnessHeader) (init : σ) :
    parseProofs f data header init ≠ .abort :=
  scan_ne_abort (readProof_ne_abort data) hf

/-- The lengths of the two payloads are checked against the whole first. -/
theorem verifierRequest_parse_ne_abort (data : Bytes) : VerifierRequest.parse data ≠ .abort := by
  rw [VerifierRequest.parse]
  refine rejectIf_bind_ne_abort fun hlen => ?_
  have hlong : 96 ≤ data.length := by
    rw [show verifierRequestHeaderLen = 96 from rfl] at hlen
    omega
  refine bind_ne_abort (slice_ne_abort (by omega) (by omega)) fun _ _ => ?_
  refine rejectIf_bind_ne_abort fun _ => ?_
  refine bind_ne_abort (byteAt_ne_abort (by omega)) fun _ _ => rejectIf_bind_ne_abort fun _ => ?_
  refine bind_ne_abort (byteAt_ne_abort (by omega)) fun _ _ => ?_
  refine u16Field_ne_abort (by omega) (by omega) fun _ => rejectIf_bind_ne_abort fun _ => ?_
  refine u16Field_ne_abort (by omega) (by omega) fun _ => ?_
  refine u16Field_ne_abort (by omega) (by omega) fun _ => ?_
  refine bind_ne_abort (byteAt_ne_abort (by omega)) fun _ _ => ?_
  refine bind_ne_abort capabilityForOperation_ne_abort fun _ _ => ?_
  refine bind_ne_abort (byteAt_ne_abort (by omega)) fun _ _ => ?_
  refine bind_ne_abort (byteAt_ne_abort (by omega)) fun _ _ => ?_
  refine bind_ne_abort (slice_ne_abort (by omega) (by omega)) fun _ _ => ?_
  refine rejectIf_bind_ne_abort fun _ => ?_
  refine bind_ne_abort (slice_ne_abort (by omega) (by omega)) fun _ _ => ?_
  refine bind_ne_abort (mapErr_ne_abort leU32_ne_abort) fun auxLen _ => ?_
  refine bind_ne_abort (slice_ne_abort (by omega) (by omega)) fun _ _ => ?_
  refine bind_ne_abort (mapErr_ne_abort leU32_ne_abort) fun proofLen _ => ?_
  refine rejectIf_bind_ne_abort fun _ => ?_
  -- the two ends are sums of the lengths, and the second is the length of the data
  refine bind_ne_abort okOr_ne_abort fun auxEnd hauxEnd => ?_
  refine bind_ne_abort okOr_ne_abort fun total htotal => rejectIf_bind_ne_abort fun hexact => ?_
  have hauxEnd := (checkedAdd_eq_some.mp (okOr_eq_ok.mp hauxEnd)).1
  have htotal := (checkedAdd_eq_some.mp (okOr_eq_ok.mp htotal)).1
  have hexact : total = data.length := not_not.mp hexact
  refine bind_ne_abort (byteAt_ne_abort (by omega)) fun _ _ => ?_
  refine bind_ne_abort (slice_ne_abort (by omega) (by omega)) fun _ _ => ?_
  refine bind_ne_abort toByteArr_ne_abort fun _ _ => ?_
  refine bind_ne_abort (slice_ne_abort (by omega) (by omega)) fun _ _ => ?_
  refine bind_ne_abort toByteArr_ne_abort fun _ _ => ?_
  refine bind_ne_abort (slice_ne_abort (by omega) (by omega)) fun _ _ => ?_
  exact bind_ne_abort (slice_ne_abort (by omega) (by omega)) fun _ _ => by simp

theorem parsePublicKeyProof_ne_abort (data : Bytes) : parsePublicKeyProof data ≠ .abort := by
  rw [parsePublicKeyProof]
  refine rejectIf_bind_ne_abort fun hlen => ?_
  refine bind_ne_abort (byteAt_ne_abort (by omega)) fun _ _ => rejectIf_bind_ne_abort fun _ => ?_
  refine u16Field_ne_abort (by omega) (by omega) fun keyLen => ?_
  refine u16Field_ne_abort (by omega) (by omega) fun sigLen => rejectIf_bind_ne_abort fun _ => ?_
  refine bind_ne_abort okOr_ne_abort fun keyEnd hkeyEnd => ?_
  refine bind_ne_abort okOr_ne_abort fun total htotal => rejectIf_bind_ne_abort fun hexact => ?_
  have hkeyEnd := (checkedAdd_eq_some.mp (okOr_eq_ok.mp hkeyEnd)).1
  have htotal := (checkedAdd_eq_some.mp (okOr_eq_ok.mp htotal)).1
  have hexact : total = data.length := not_not.mp hexact
  refine bind_ne_abort (slice_ne_abort (by omega) (by omega)) fun _ _ => ?_
  exact bind_ne_abort (slice_ne_abort (by omega) (by omega)) fun _ _ => by simp

/-! ## Molecule tables -/

/-- The offsets are checked before the fields are sliced. -/
theorem table3Fields_ne_abort (data : Bytes) : table3Fields data ≠ .abort := by
  rw [table3Fields]
  refine rejectIf_bind_ne_abort fun hlen => ?_
  refine bind_ne_abort (slice_ne_abort (by omega) (by omega)) fun _ _ => ?_
  refine bind_ne_abort leUsize_ne_abort fun _ _ => rejectIf_bind_ne_abort fun _ => ?_
  refine bind_ne_abort (slice_ne_abort (by omega) (by omega)) fun _ _ => ?_
  refine bind_ne_abort leUsize_ne_abort fun first _ => ?_
  refine bind_ne_abort (slice_ne_abort (by omega) (by omega)) fun _ _ => ?_
  refine bind_ne_abort leUsize_ne_abort fun second _ => ?_
  refine bind_ne_abort (slice_ne_abort (by omega) (by omega)) fun _ _ => ?_
  refine bind_ne_abort leUsize_ne_abort fun third _ => rejectIf_bind_ne_abort fun hordered => ?_
  refine bind_ne_abort (slice_ne_abort (by omega) (by omega)) fun _ _ => ?_
  refine bind_ne_abort (slice_ne_abort (by omega) (by omega)) fun _ _ => ?_
  exact bind_ne_abort (slice_ne_abort (by omega) (Nat.le_refl _)) fun _ _ => by simp

theorem moleculeBytes_ne_abort (field : Bytes) : moleculeBytes field ≠ .abort := by
  rw [moleculeBytes]
  refine rejectIf_bind_ne_abort fun hlen => ?_
  refine bind_ne_abort (slice_ne_abort (by omega) (by omega)) fun _ _ => ?_
  refine bind_ne_abort leUsize_ne_abort fun _ _ => rejectIf_bind_ne_abort fun _ => ?_
  exact slice_ne_abort (by omega) (Nat.le_refl _)

theorem witnessLock_ne_abort (witness : Bytes) : witnessLock witness ≠ .abort :=
  bind_ne_abort (table3Fields_ne_abort witness) fun _ _ => rejectIf_bind_ne_abort fun _ =>
    moleculeBytes_ne_abort _

theorem canonicalWitness_ne_abort (witness : Bytes) : canonicalWitness witness ≠ .abort :=
  bind_ne_abort (table3Fields_ne_abort witness) fun _ _ => bind_ne_abort okOr_ne_abort fun _ _ =>
    bind_ne_abort okOr_ne_abort fun _ _ => by simp

theorem scriptArgs_ne_abort (script : Bytes) : scriptArgs script ≠ .abort :=
  bind_ne_abort (mapErr_ne_abort (table3Fields_ne_abort script)) fun _ _ =>
    mapErr_ne_abort (moleculeBytes_ne_abort _)

/-! ## The P-256 verifier -/

theorem take_ne_abort {data : Bytes} {offset len : Nat} : take data offset len ≠ .abort :=
  bind_ne_abort okOr_ne_abort fun _ _ => bind_ne_abort okOr_ne_abort fun _ _ => by simp

/-- `take` returns as many bytes as asked for. -/
theorem take_length {data value : Bytes} {offset len stop : Nat}
    (h : take data offset len = .ok (value, stop)) : value.length = len := by
  obtain ⟨_, hstop, h⟩ := bind_eq_ok.mp h
  obtain ⟨_, hvalue, h⟩ := bind_eq_ok.mp h
  cases h
  have hstop := (checkedAdd_eq_some.mp (okOr_eq_ok.mp hstop)).1
  have hvalue := okOr_eq_ok.mp hvalue
  rw [getRange] at hvalue
  split at hvalue
  · cases hvalue
    rw [List.length_take, List.length_drop]
    omega
  · cases hvalue

theorem takeU16_ne_abort {data : Bytes} {offset : Nat} : takeU16 data offset ≠ .abort := by
  refine bind_ne_abort take_ne_abort fun r hr => ?_
  have hlen : r.1.length = 2 := take_length hr
  refine bind_ne_abort (byteAt_ne_abort (by omega)) fun _ _ => ?_
  exact bind_ne_abort (byteAt_ne_abort (by omega)) fun _ _ => by simp

/-- `take` checks each field before it slices. -/
theorem parseProof_ne_abort (data : Bytes) : parseProof data ≠ .abort := by
  rw [parseProof]
  refine bind_ne_abort take_ne_abort fun _ _ => ?_
  refine bind_ne_abort take_ne_abort fun _ _ => bind_ne_abort okOr_ne_abort fun _ _ => ?_
  refine bind_ne_abort take_ne_abort fun _ _ => ?_
  refine bind_ne_abort takeU16_ne_abort fun _ _ => bind_ne_abort take_ne_abort fun _ _ => ?_
  refine bind_ne_abort takeU16_ne_abort fun _ _ => bind_ne_abort take_ne_abort fun _ _ => ?_
  refine bind_ne_abort takeU16_ne_abort fun _ _ => bind_ne_abort take_ne_abort fun _ _ => ?_
  exact rejectIf_bind_ne_abort fun _ => by simp

/-- The scanner from any offset, also one past the end. -/
theorem skipWhile_ne_abort (p : UInt8 → Bool) (json : Slice) (offset : Nat) :
    skipWhile p json.val (json.val.length + 1) offset ≠ .abort := by
  rw [skipWhile_eq json.property _ _ (by omega)]
  simp

theorem skipPrimitive_ne_abort (json : Slice) (offset : Nat) :
    skipPrimitive json.val offset ≠ .abort :=
  bind_ne_abort (skipWhile_ne_abort primitive json offset) fun _ _ =>
    rejectIf_bind_ne_abort fun _ => by simp

theorem jsonString_ne_abort (json : Slice) (offset : Nat) :
    jsonString json.val offset ≠ .abort :=
  (jsonString_scans json.property).total

/-- Everything `verify` reads by index is there: 65 bytes of aux data, at least 37 of
    authenticator data, 65 of public key. -/
theorem verifyP256_ne_abort (ckbHash : Bytes → Byte32) (prims : Primitives) (bytes : Bytes) :
    verifyP256 ckbHash prims bytes ≠ .abort := by
  rw [verifyP256]
  refine bind_ne_abort (mapErr_ne_abort (verifierRequest_parse_ne_abort bytes)) fun request _ => ?_
  refine rejectIf_bind_ne_abort fun _ => rejectIf_bind_ne_abort fun _ => ?_
  refine rejectIf_bind_ne_abort fun haux => ?_
  have haux : request.aux.length = 65 := not_not.mp haux
  refine bind_ne_abort (byteAt_ne_abort (by omega)) fun _ _ => rejectIf_bind_ne_abort fun _ => ?_
  refine bind_ne_abort (parseProof_ne_abort request.proof) fun proof hproof => ?_
  -- the parsed proof has the lengths that every later slice needs
  obtain ⟨-, hwf⟩ := parseProof_eq_ok.mp hproof
  have hkey := hwf.key
  have hdata := hwf.data_ge
  have hclient : proof.clientDataJson.length < usizeSize := by
    have := hwf.client_lt
    unfold usizeSize
    omega
  have hcheck : checkPasskey ckbHash prims request proof ≠ .abort := by
    rw [checkPasskey]
    refine rejectIf_bind_ne_abort fun _ => ?_
    refine bind_ne_abort (slice_ne_abort (by omega) (by omega)) fun _ _ => ?_
    refine rejectIf_bind_ne_abort fun _ => ?_
    refine bind_ne_abort (slice_ne_abort (by omega) (by omega)) fun _ _ => ?_
    refine bind_ne_abort (slice_ne_abort (by omega) (by omega)) fun _ _ => ?_
    refine rejectIf_bind_ne_abort fun _ => ?_
    refine bind_ne_abort (byteAt_ne_abort (by omega)) fun _ _ => ?_
    exact rejectIf_bind_ne_abort fun _ => validateClientData_ne_abort hclient
  have hsignature : checkPasskeySignature prims proof ≠ .abort := by
    rw [checkPasskeySignature]
    refine bind_ne_abort (byteAt_ne_abort (by omega)) fun _ _ => rejectIf_bind_ne_abort fun _ => ?_
    refine bind_ne_abort okOr_ne_abort fun _ _ => rejectIf_bind_ne_abort fun _ => ?_
    refine bind_ne_abort okOr_ne_abort fun _ _ => rejectIf_bind_ne_abort fun _ => ?_
    exact rejectIf_ne_abort
  exact bind_ne_abort hcheck fun _ _ => hsignature

/-! ## All of them -/

/-- **No input makes a consensus parser panic or loop.**  The callbacks of the two loops
    may do anything but abort; the scanner works on Rust slices, whose length is a `usize`,
    from any offset. -/
theorem parsers_never_panic :
    (∀ data, StateHeader.parse data ≠ .abort)
    ∧ (∀ state, validateState state ≠ .abort)
    ∧ (∀ (σ : Type) (f : σ → AuthenticatorEntry → Outcome ProtocolError σ),
      (∀ s e, f s e ≠ .abort) → ∀ state header init,
        parseAuthenticators f state header init ≠ .abort)
    ∧ (∀ (σ : Type) (f : σ → SlotProof → Outcome ProtocolError σ),
      (∀ s p, f s p ≠ .abort) → ∀ data header init, parseProofs f data header init ≠ .abort)
    ∧ (∀ data, parseWitnessHeader data ≠ .abort)
    ∧ (∀ data, VerifierRequest.parse data ≠ .abort)
    ∧ (∀ data, parsePublicKeyProof data ≠ .abort)
    ∧ (∀ data, table3Fields data ≠ .abort)
    ∧ (∀ field, moleculeBytes field ≠ .abort)
    ∧ (∀ witness, witnessLock witness ≠ .abort)
    ∧ (∀ witness, canonicalWitness witness ≠ .abort)
    ∧ (∀ script, scriptArgs script ≠ .abort)
    ∧ (∀ data, parseProof data ≠ .abort)
    ∧ (∀ (json : Slice) offset, jsonString json.val offset ≠ .abort)
    ∧ (∀ (json : Slice) offset, skipPrimitive json.val offset ≠ .abort)
    ∧ (∀ (json : Slice) challenge origin,
      validateClientData json.val challenge origin ≠ .abort)
    ∧ (∀ ckbHash prims bytes, verifyP256 ckbHash prims bytes ≠ .abort) :=
  ⟨stateHeader_parse_ne_abort, validateState_ne_abort,
    fun _ _ hf => parseAuthenticators_ne_abort hf, fun _ _ hf => parseProofs_ne_abort hf,
    parseWitnessHeader_ne_abort, verifierRequest_parse_ne_abort, parsePublicKeyProof_ne_abort,
    table3Fields_ne_abort, moleculeBytes_ne_abort, witnessLock_ne_abort,
    canonicalWitness_ne_abort, scriptArgs_ne_abort, parseProof_ne_abort, jsonString_ne_abort,
    skipPrimitive_ne_abort, fun json _ _ => validateClientData_ne_abort json.property,
    verifyP256_ne_abort⟩

end CkbNoPanic
