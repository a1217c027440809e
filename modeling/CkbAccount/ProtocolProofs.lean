import CkbAccount.LittleEndianProofs

/-! # Protocol constants, errors and the shared readers

    The constants of `crates/protocol/src/constants.rs`, the error codes of
    `error.rs`, and the small helpers every wire parser of `wire.rs` starts from:
    fixed-width integer readers, `checked_end`, the algorithm and operation tables,
    and the lock args parser. -/

namespace CkbProtocol

open RustOutcome Outcome LittleEndian

/-! ## Constants -/

/-- `Byte32`. -/
abbrev Byte32 := ByteArr 32

/-- A hash from its hexadecimal reading. -/
def byte32 (n : Nat) : Byte32 :=
  ⟨(leBytes 32 n).reverse, by rw [List.length_reverse, leBytes_length]⟩

/-- A hash of equal bytes. -/
def filled32 (byte : UInt8) : Byte32 := ⟨List.replicate 32 byte, List.length_replicate⟩

/-- The first byte of the lock args. -/
def accountLockVersion : UInt8 := 0x01
/-- The version, then the account id. -/
def accountLockArgsLen : Nat := 33

/-- `b"CKAS"`. -/
def accountStateMagic : Bytes := [0x43, 0x4b, 0x41, 0x53]
/-- The version of the state. -/
def accountStateVersion : UInt8 := 0x01
/-- The length of the state header, which the header itself repeats. -/
def accountStateHeaderLen : Nat := 32
/-- The longest state. -/
def accountStateMaxLen : Nat := 16384
/-- The most authenticators of a state, and the most proofs of a witness. -/
def authenticatorMaxCount : Nat := 16

/-- `b"CKAW"`. -/
def accountWitnessMagic : Bytes := [0x43, 0x4b, 0x41, 0x57]
/-- The version of the witness. -/
def accountWitnessVersion : UInt8 := 0x01
/-- The length of the witness header. -/
def accountWitnessHeaderLen : Nat := 16
/-- The longest lock field of a witness. -/
def accountWitnessMaxLockLen : Nat := 131072

/-- `b"CKVR"`. -/
def verifierMagic : Bytes := [0x43, 0x4b, 0x56, 0x52]
/-- The version of the requests to a verifier. -/
def verifierAbiV1 : UInt8 := 0x01
/-- The length of the fixed part of a request. -/
def verifierRequestHeaderLen : Nat := 96
/-- The longest aux of a request. -/
def verifierMaxAuxLen : Nat := 4096
/-- The longest proof of a request. -/
def verifierMaxProofLen : Nat := 65536
/-- The longest request: the fixed part, the longest aux and the longest proof. -/
def verifierMaxRequestLen : Nat := 69728

/-- `b"CKB_ACCOUNT_LOCK_V1"`. -/
def authDomain : Bytes :=
  [0x43, 0x4b, 0x42, 0x5f, 0x41, 0x43, 0x43, 0x4f, 0x55, 0x4e, 0x54, 0x5f, 0x4c, 0x4f,
   0x43, 0x4b, 0x5f, 0x56, 0x31]

/-- Moves the assets; the state is a cell dependency. -/
def opSpend : UInt8 := 0x01
/-- Replaces the state by its successor. -/
def opRotate : UInt8 := 0x02
/-- Replaces the state after the recovery time. -/
def opRecovery : UInt8 := 0x03

/-- May sign a spend. -/
def capSpend : UInt16 := 0x0001
/-- May sign a rotation. -/
def capRotate : UInt16 := 0x0002
/-- May sign a recovery. -/
def capRecovery : UInt16 := 0x0004
/-- Reserved for sessions. -/
def capSessionIssue : UInt16 := 0x0008
/-- The capabilities an authenticator may have. -/
def capKnownMask : UInt16 := capSpend ||| capRotate ||| capRecovery ||| capSessionIssue

/-- The account can be recovered. -/
def stateFlagRecoveryEnabled : UInt8 := 0x01
/-- Reserved for sessions. -/
def stateFlagSessionEnabled : UInt8 := 0x02
/-- The flags a state may have. -/
def stateFlagsKnownMask : UInt8 := stateFlagRecoveryEnabled ||| stateFlagSessionEnabled

/-- A passkey on P-256. -/
def algP256Webauthn : UInt16 := 0x0001
/-- ML-DSA-44, which no bundled verifier checks. -/
def algMldsa44 : UInt16 := 0x0101
/-- ML-DSA-65. -/
def algMldsa65 : UInt16 := 0x0102
/-- ML-DSA-87, which no bundled verifier checks. -/
def algMldsa87 : UInt16 := 0x0103
/-- SLH-DSA. -/
def algSlhdsa : UInt16 := 0x0201

/-- The profile of the passkey and the ML-DSA verifiers. -/
def profileV1 : UInt8 := 0x01
/-- The profile of the SLH-DSA verifier. -/
def slhDsaSha2128s : UInt8 := 0x01

/-- The error codes of `error.rs`. -/
inductive ProtocolError where
  | invalidArgs
  | invalidState
  | invalidWitness
  | stateNotFound
  | duplicateState
  | stateConsumedOnSpend
  | invalidTransition
  | invalidSequence
  | thresholdUnsatisfied
  | invalidCapability
  | invalidVerifierRef
  | verifierFailure
  | unsupportedVersion
  | unsupportedAlgorithm
  | recoveryLocked
  | invalidRequest
  | invalidProof
  | invalidOperation
  | unsatisfiableThreshold
  | lengthOverflow
  deriving DecidableEq, Repr

/-- `#[repr(i8)]`: the discriminants a failing script exits with. -/
def ProtocolError.code : ProtocolError → Nat
  | .invalidArgs => 20
  | .invalidState => 21
  | .invalidWitness => 22
  | .stateNotFound => 23
  | .duplicateState => 24
  | .stateConsumedOnSpend => 25
  | .invalidTransition => 26
  | .invalidSequence => 27
  | .thresholdUnsatisfied => 28
  | .invalidCapability => 29
  | .invalidVerifierRef => 30
  | .verifierFailure => 31
  | .unsupportedVersion => 32
  | .unsupportedAlgorithm => 33
  | .recoveryLocked => 34
  | .invalidRequest => 35
  | .invalidProof => 36
  | .invalidOperation => 37
  | .unsatisfiableThreshold => 38
  | .lengthOverflow => 39

/-! ## Integer readers -/

/-- `le_u16` of `wire.rs`. -/
def leU16 (b : Bytes) : Outcome ProtocolError UInt16 := do
  rejectIf (b.length ≠ 2) .invalidState
  let b0 ← byteAt b 0
  let b1 ← byteAt b 1
  return u16FromLe [b0, b1]

/-- `le_u32` of `wire.rs`. -/
def leU32 (b : Bytes) : Outcome ProtocolError UInt32 := do
  rejectIf (b.length ≠ 4) .invalidWitness
  let b0 ← byteAt b 0
  let b1 ← byteAt b 1
  let b2 ← byteAt b 2
  let b3 ← byteAt b 3
  return u32FromLe [b0, b1, b2, b3]

/-- `le_u64` of `wire.rs`. -/
def leU64 (b : Bytes) : Outcome ProtocolError UInt64 := do
  rejectIf (b.length ≠ 8) .invalidState
  let b0 ← byteAt b 0
  let b1 ← byteAt b 1
  let b2 ← byteAt b 2
  let b3 ← byteAt b 3
  let b4 ← byteAt b 4
  let b5 ← byteAt b 5
  let b6 ← byteAt b 6
  let b7 ← byteAt b 7
  return u64FromLe [b0, b1, b2, b3, b4, b5, b6, b7]

/-- A reader given as many bytes as it needs succeeds. -/
theorem leU16_of_length {b : Bytes} (h : b.length = 2) : leU16 b = .ok (u16FromLe b) := by
  match b, h with
  | [_, _], _ => rfl

theorem leU32_of_length {b : Bytes} (h : b.length = 4) : leU32 b = .ok (u32FromLe b) := by
  match b, h with
  | [_, _, _, _], _ => rfl

theorem leU64_of_length {b : Bytes} (h : b.length = 8) : leU64 b = .ok (u64FromLe b) := by
  match b, h with
  | [_, _, _, _, _, _, _, _], _ => rfl

/-- The 16-bit reader fails with `InvalidState` only. -/
theorem leU16_ne_err {b : Bytes} {e : ProtocolError} (h : .invalidState ≠ e) :
    leU16 b ≠ .err e :=
  bind_ne_err (rejectIf_ne_err h) fun _ _ => bind_ne_err byteAt_ne_err fun _ _ =>
    bind_ne_err byteAt_ne_err fun _ _ => by simp

theorem leU64_ne_err {b : Bytes} {e : ProtocolError} (h : .invalidState ≠ e) :
    leU64 b ≠ .err e := by
  intro herr
  by_cases hlen : b.length = 8
  · rw [leU64_of_length hlen] at herr
    cases herr
  · rw [leU64, rejectIf_pos hlen, err_bind] at herr
    cases herr
    exact h rfl

/-- `checked_end`: the end of a window of `len` bytes at `offset`. -/
def checkedEnd (offset len total : Nat) : Outcome ProtocolError Nat :=
  okOr .lengthOverflow ((checkedAdd offset len).filter (fun stop => stop ≤ total))

/-- **`checked_end` is the end of a range inside the buffer.** -/
theorem checkedEnd_eq_ok {offset len total stop : Nat} :
    checkedEnd offset len total = .ok stop
      ↔ stop = offset + len ∧ offset + len < usizeSize ∧ offset + len ≤ total := by
  rw [checkedEnd, okOr_eq_ok, Option.filter_eq_some_iff, checkedAdd_eq_some]
  constructor
  · rintro ⟨⟨rfl, hlt⟩, hle⟩
    exact ⟨rfl, hlt, of_decide_eq_true hle⟩
  · rintro ⟨rfl, hlt, hle⟩
    exact ⟨⟨rfl, hlt⟩, decide_eq_true hle⟩

theorem checkedEnd_of_le {offset len total : Nat} (h : offset + len ≤ total)
    (ht : total < usizeSize) : checkedEnd offset len total = .ok (offset + len) :=
  checkedEnd_eq_ok.mpr ⟨rfl, by omega, h⟩

theorem checkedEnd_of_gt {offset len total : Nat} (h : total < offset + len) :
    checkedEnd offset len total = .err .lengthOverflow := by
  have hnone : (checkedAdd offset len).filter (fun stop => stop ≤ total) = none := by
    rw [Option.filter_eq_none_iff]
    intro stop hstop
    rw [checkedAdd_eq_some] at hstop
    simp only [decide_eq_true_eq]
    omega
  rw [checkedEnd, hnone, okOr_none]

/-! ## Tables -/

/-- `is_supported_algorithm`. -/
def isSupportedAlgorithm (algorithmId : UInt16) : Bool :=
  algorithmId = algP256Webauthn ∨ algorithmId = algMldsa44 ∨ algorithmId = algMldsa65
    ∨ algorithmId = algMldsa87 ∨ algorithmId = algSlhdsa

/-- `capability_for_operation`. -/
def capabilityForOperation (operation : UInt8) : Outcome ProtocolError UInt16 :=
  if operation = opSpend then .ok capSpend
  else if operation = opRotate then .ok capRotate
  else if operation = opRecovery then .ok capRecovery
  else .err .invalidOperation

/-- The three operation bytes. -/
def IsOperation (operation : UInt8) : Prop :=
  operation = opSpend ∨ operation = opRotate ∨ operation = opRecovery

instance (operation : UInt8) : Decidable (IsOperation operation) :=
  inferInstanceAs (Decidable (_ ∨ _ ∨ _))

/-- The operations with a capability are the three named ones. -/
theorem capabilityForOperation_eq_ok_iff (operation : UInt8) :
    (∃ capability, capabilityForOperation operation = .ok capability)
      ↔ IsOperation operation := by
  unfold capabilityForOperation IsOperation
  split
  · simp [*]
  · split
    · simp [*]
    · split
      · simp [*]
      · simp [*]

/-- The table used as a check, its result thrown away. -/
theorem capabilityForOperation_bind_eq_ok {β : Type} {operation : UInt8}
    {x : Outcome ProtocolError β} {r : β} :
    (capabilityForOperation operation >>= fun _ => x) = .ok r
      ↔ IsOperation operation ∧ x = .ok r := by
  rw [bind_eq_ok, ← capabilityForOperation_eq_ok_iff]
  exact ⟨fun ⟨c, hc, hx⟩ => ⟨⟨c, hc⟩, hx⟩, fun ⟨⟨c, hc⟩, hx⟩ => ⟨c, hc, hx⟩⟩

/-- An unknown operation has no capability. -/
theorem capabilityForOperation_of_not {operation : UInt8} (h : ¬ IsOperation operation) :
    capabilityForOperation operation = .err .invalidOperation := by
  unfold IsOperation at h
  unfold capabilityForOperation
  rw [if_neg (fun hc => h (Or.inl hc)), if_neg (fun hc => h (Or.inr (Or.inl hc))),
    if_neg (fun hc => h (Or.inr (Or.inr hc)))]

/-! ## Lock args -/

/-- `AccountLockArgs`. -/
structure AccountLockArgs where
  version : UInt8
  accountId : Byte32
  deriving DecidableEq, Repr

/-- `AccountLockArgs::parse`. -/
def AccountLockArgs.parse (data : Bytes) : Outcome ProtocolError AccountLockArgs := do
  rejectIf (data.length ≠ accountLockArgsLen) .invalidArgs
  rejectIf ((← byteAt data 0) ≠ accountLockVersion) .unsupportedVersion
  let accountId ← toByteArr 32 .invalidArgs (← slice data 1 33)
  return { version := ← byteAt data 0, accountId := accountId }

/-- **Lock args are exactly `0x01 || account_id`.** -/
theorem AccountLockArgs.parse_eq_ok {data : Bytes} {args : AccountLockArgs} :
    AccountLockArgs.parse data = .ok args
      ↔ data = accountLockVersion :: args.accountId.val ∧ args.version = accountLockVersion := by
  constructor
  · intro h
    unfold AccountLockArgs.parse at h
    rw [rejectIf_bind_eq_ok] at h
    obtain ⟨hlen, h⟩ := h
    have hlen : data.length = 33 := not_not.mp hlen
    obtain ⟨v, rest, rfl, _⟩ := exists_head data (by omega)
    have hrest : rest.length = 32 := by simpa using hlen
    rw [byteAt_cons_zero, ok_bind, rejectIf_bind_eq_ok, slice_cons_succ v rest (by omega),
      slice_all rest hrest, ok_bind, bind_eq_ok] at h
    obtain ⟨hv, id, hid, h⟩ := h
    cases h
    rw [toByteArr_eq_ok] at hid
    exact ⟨by rw [not_not.mp hv, hid], not_not.mp hv⟩
  · rintro ⟨rfl, hv⟩
    obtain ⟨version, id⟩ := args
    cases hv
    unfold AccountLockArgs.parse
    rw [rejectIf_neg (by simp [id.property, accountLockArgsLen]), ok_bind, byteAt_cons_zero,
      ok_bind, rejectIf_neg (by simp), ok_bind, slice_cons_succ _ _ (by omega),
      slice_all _ id.property, ok_bind, toByteArr_val]
    rfl

end CkbProtocol
