import CkbAccount.HostCodecProofs
import CkbAccount.HostDigestProofs

/-! # The browser codec

    `demo/src/shared/bytes.ts` and `demo/src/shared/protocol.ts`: the four functions the
    browser shares with the Rust host, written a second time in TypeScript.  Rust gets
    some of its checks by parsing its own output; the browser makes them up front.

    * `bytesConcat_eq_ok`, `u16le_eq_ok`, `u32le_eq_ok`, `u64le_eq_ok`: the byte helpers;
    * `encodeP256Proof_iff`, `encodeAccountWitness_iff`, `authorizationDigest_iff`,
      `groupSighash_iff`: each function against its Rust counterpart;
    * `browser_codec_eq_host`: the four together.  They agree on everything but the
      witnesses of a hashed message, which the browser passes as arguments of one call and
      copies into one array. -/

namespace CkbBrowserCodec

open RustOutcome Outcome LittleEndian Molecule RecordLoop CkbProtocol CkbTransaction
open CkbWitnessWire CkbProofWire CkbHostCodec CkbSighash CkbHostDigest

/-! ## Bytes -/

/-- What the code throws; `library` stands for an exception of the ccc package. -/
inductive JsError where
  | typeError (message : String)
  | rangeError (message : String)
  | library
  deriving DecidableEq, Repr

/-- `Number.MAX_SAFE_INTEGER`. -/
def maxSafeInteger : Nat := 2 ^ 53 - 1

/-- The limits of a JavaScript engine, which the language leaves to it: how many arguments
    one call can be given, and how many bytes one `Uint8Array` can hold.  The length of an
    array is a safe integer in any engine. -/
structure Engine where
  maxArguments : Nat
  maxByteLength : Nat
  byteLength_safe : maxByteLength ≤ maxSafeInteger

/-- The engine takes small calls and small arrays, as all engines do. -/
structure Engine.Ample (engine : Engine) : Prop where
  arguments : 64 ≤ engine.maxArguments
  byteLength : 2 ^ 20 ≤ engine.maxByteLength

/-- The engine can take these arrays as arguments and hold their concatenation. -/
def Engine.Takes (engine : Engine) (parts : List Bytes) : Prop :=
  parts.length ≤ engine.maxArguments ∧ parts.flatten.length ≤ engine.maxByteLength

/-- An ample engine takes a few short arrays. -/
theorem Engine.Ample.takes {engine : Engine} (h : engine.Ample) {parts : List Bytes}
    (hcount : parts.length ≤ 64) (hlength : parts.flatten.length ≤ 2 ^ 20) :
    engine.Takes parts :=
  ⟨Nat.le_trans hcount h.arguments, Nat.le_trans hlength h.byteLength⟩

/-- The first loop of `bytesConcat`: the running length. -/
def addLengths : List Bytes → Nat → Outcome JsError Nat
  | [], length => .ok length
  | part :: parts, length => do
      rejectIf (length + part.length > maxSafeInteger) (.rangeError "byte length")
      addLengths parts (length + part.length)

/-- `bytesConcat`, the call with its arguments included: `...parts` throws when there are too
    many of them, `new Uint8Array(length)` when the engine cannot allocate the array. -/
def bytesConcat (engine : Engine) (parts : List Bytes) : Outcome JsError Bytes := do
  rejectIf (parts.length > engine.maxArguments) (.rangeError "Maximum call stack size exceeded")
  let length ← addLengths parts 0
  rejectIf (length > engine.maxByteLength) (.rangeError "Array buffer allocation failed")
  return parts.flatten

/-- `u16le`. -/
def u16le (value : Int) : Outcome JsError Bytes := do
  rejectIf (value < 0 ∨ value > 0xffff) (.rangeError "u16")
  return [UInt8.ofNat (value.toNat &&& 0xff), UInt8.ofNat (value.toNat >>> 8)]

/-- `u32le`, through `DataView.setUint32`. -/
def u32le (value : Int) : Outcome JsError Bytes := do
  rejectIf (value < 0 ∨ value > 0xffffffff) (.rangeError "u32")
  return u32Le (UInt32.ofNat value.toNat)

/-- `u64le`, through `DataView.setBigUint64`. -/
def u64le (value : Int) : Outcome JsError Bytes := do
  rejectIf (value < 0 ∨ value > 0xffffffffffffffff) (.rangeError "u64")
  return u64Le (UInt64.ofNat value.toNat)

/-- The lengths are added while they are safe integers. -/
theorem addLengths_eq_ok :
    ∀ {parts : List Bytes} {length total : Nat}, length ≤ maxSafeInteger →
      (addLengths parts length = .ok total
        ↔ length + parts.flatten.length ≤ maxSafeInteger
          ∧ total = length + parts.flatten.length) := by
  intro parts
  induction parts with
  | nil =>
      intro length total hlength
      rw [addLengths, Outcome.ok.injEq, List.flatten_nil, List.length_nil, Nat.add_zero]
      exact ⟨fun h => ⟨hlength, h.symm⟩, fun h => h.2.symm⟩
  | cons part parts ih =>
      intro length total hlength
      rw [addLengths, rejectIf_bind_eq_ok, Nat.not_lt, List.flatten_cons, List.length_append,
        ← Nat.add_assoc]
      constructor
      · rintro ⟨hle, h⟩
        exact (ih hle).mp h
      · rintro ⟨hle, htotal⟩
        have hpart : length + part.length ≤ maxSafeInteger := by omega
        exact ⟨hpart, (ih hpart).mpr ⟨hle, htotal⟩⟩

/-- **Concatenation succeeds exactly when the engine takes the parts.**  The explicit guard
    on the length adds nothing: an array's length is always safe. -/
theorem bytesConcat_eq_ok {engine : Engine} {parts : List Bytes} {out : Bytes} :
    bytesConcat engine parts = .ok out ↔ engine.Takes parts ∧ out = parts.flatten := by
  rw [bytesConcat, rejectIf_bind_eq_ok, Nat.not_lt, bind_eq_ok]
  simp only [addLengths_eq_ok (Nat.zero_le _), Nat.zero_add, rejectIf_bind_eq_ok, Nat.not_lt,
    pure_eq, Outcome.ok.injEq]
  constructor
  · rintro ⟨hcount, total, ⟨-, rfl⟩, hlength, rfl⟩
    exact ⟨⟨hcount, hlength⟩, rfl⟩
  · rintro ⟨⟨hcount, hlength⟩, rfl⟩
    exact ⟨hcount, _, ⟨Nat.le_trans hlength engine.byteLength_safe, rfl⟩, hlength, rfl⟩

/-- Too many parts make the call itself throw. -/
theorem bytesConcat_of_many {engine : Engine} {parts : List Bytes}
    (h : engine.maxArguments < parts.length) :
    bytesConcat engine parts = .err (.rangeError "Maximum call stack size exceeded") := by
  rw [bytesConcat, rejectIf_pos h]
  rfl

/-- On a length or a slot the helpers are the fixed-width codecs. -/
theorem u16le_eq_ok {n : Nat} {out : Bytes} :
    u16le (n : Int) = .ok out ↔ n < 2 ^ 16 ∧ out = u16Le (UInt16.ofNat n) := by
  rw [u16le, rejectIf_bind_eq_ok, pure_eq, Outcome.ok.injEq, Int.toNat_natCast]
  have hlow : UInt8.ofNat (n &&& 0xff) = UInt8.ofNat n := by
    apply UInt8.toNat_inj.mp
    rw [UInt8.toNat_ofNat', UInt8.toNat_ofNat', show (0xff : Nat) = 2 ^ 8 - 1 from rfl,
      Nat.and_two_pow_sub_one_eq_mod, Nat.mod_mod]
  have hbytes : n < 2 ^ 16 → u16Le (UInt16.ofNat n)
      = [UInt8.ofNat (n &&& 0xff), UInt8.ofNat (n >>> 8)] := by
    intro hlt
    rw [u16Le, UInt16.toNat_ofNat', Nat.mod_eq_of_lt hlt, hlow, Nat.shiftRight_eq_div_pow]
    rfl
  constructor
  · rintro ⟨hrange, rfl⟩
    have hlt : n < 2 ^ 16 := by omega
    exact ⟨hlt, (hbytes hlt).symm⟩
  · rintro ⟨hlt, rfl⟩
    exact ⟨by omega, (hbytes hlt).symm⟩

theorem u16le_bind_eq_ok {α : Type} {n : Nat} {f : Bytes → Outcome JsError α} {a : α} :
    (u16le (n : Int) >>= f) = .ok a ↔ n < 2 ^ 16 ∧ f (u16Le (UInt16.ofNat n)) = .ok a := by
  rw [bind_eq_ok]
  simp only [u16le_eq_ok]
  exact ⟨fun ⟨_, ⟨hlt, hb⟩, hf⟩ => ⟨hlt, hb ▸ hf⟩, fun ⟨hlt, hf⟩ => ⟨_, ⟨hlt, rfl⟩, hf⟩⟩

/-- `u32le` writes four bytes of a number that fits. -/
theorem u32le_eq_ok {n : Nat} {out : Bytes} :
    u32le (n : Int) = .ok out ↔ n < 2 ^ 32 ∧ out = u32Le (UInt32.ofNat n) := by
  rw [u32le, rejectIf_bind_eq_ok, pure_eq, Outcome.ok.injEq, Int.toNat_natCast]
  constructor
  · rintro ⟨hrange, rfl⟩
    exact ⟨by omega, rfl⟩
  · rintro ⟨hlt, rfl⟩
    exact ⟨by omega, rfl⟩

/-- `u64le` writes eight bytes of a number that fits. -/
theorem u64le_eq_ok {n : Nat} {out : Bytes} :
    u64le (n : Int) = .ok out ↔ n < 2 ^ 64 ∧ out = u64Le (UInt64.ofNat n) := by
  rw [u64le, rejectIf_bind_eq_ok, pure_eq, Outcome.ok.injEq, Int.toNat_natCast]
  constructor
  · rintro ⟨hrange, rfl⟩
    exact ⟨by omega, rfl⟩
  · rintro ⟨hlt, rfl⟩
    exact ⟨by omega, rfl⟩

/-! ## The four functions -/

/-- `P256ProofInput`. -/
structure P256ProofInput where
  publicKey : Bytes
  origin : Bytes
  authenticatorData : Bytes
  clientDataJson : Bytes
  signature : Bytes
  deriving DecidableEq, Repr

/-- `encodeP256Proof`. -/
def encodeP256Proof (engine : Engine) (input : P256ProofInput) : Outcome JsError Bytes := do
  rejectIf (input.publicKey.length ≠ 65 ∨ input.publicKey.head? ≠ some 4)
    (.typeError "P-256 public key must be uncompressed SEC1")
  rejectIf (input.origin.length = 0 ∨ input.origin.length > 0xff) (.rangeError "origin length")
  rejectIf (input.authenticatorData.length < 37) (.rangeError "authenticator data length")
  rejectIf (input.clientDataJson.length = 0 ∨ input.signature.length = 0)
    (.rangeError "empty P-256 proof field")
  bytesConcat engine [
    input.publicKey,
    [UInt8.ofNat input.origin.length],
    input.origin,
    ← u16le input.authenticatorData.length,
    input.authenticatorData,
    ← u16le input.clientDataJson.length,
    input.clientDataJson,
    ← u16le input.signature.length,
    input.signature]

/-- `requireOperation`. -/
def requireOperation (operation : Int) : Outcome JsError Unit :=
  rejectIf (operation ≠ 1 ∧ operation ≠ 2 ∧ operation ≠ 3) (.rangeError "operation")

/-- `requireLength`. -/
def requireLength (bytes : Bytes) (length : Nat) (label : String) : Outcome JsError Unit :=
  rejectIf (bytes.length ≠ length) (.rangeError label)

/-- An entry of `proofs`. -/
structure Proof where
  slot : Int
  bytes : Bytes
  deriving DecidableEq, Repr

/-- The bytes of one proof. -/
def encodeProof (engine : Engine) (proof : Proof) : Outcome JsError Bytes := do
  bytesConcat engine [← u16le proof.slot, [0, 0], ← u32le proof.bytes.length, proof.bytes]

/-- The `for (const proof of proofs)` loop. -/
def encodeProofs (engine : Engine) :
    List Proof → Int → List Bytes → Outcome JsError (List Bytes)
  | [], _, encodedProofs => .ok encodedProofs
  | proof :: proofs, previousSlot, encodedProofs => do
      rejectIf (proof.slot < 0 ∨ proof.slot > 0xffff) (.rangeError "proof slot")
      rejectIf (proof.slot ≤ previousSlot) (.typeError "proof slots must be unique and ascending")
      rejectIf (proof.bytes.length = 0) (.rangeError "empty proof")
      encodeProofs engine proofs proof.slot (encodedProofs ++ [← encodeProof engine proof])

/-- `encodeAccountWitness`. -/
def encodeAccountWitness (engine : Engine) (operation sequence : Int) (proofs : List Proof) :
    Outcome JsError Bytes := do
  requireOperation operation
  rejectIf (proofs.length > authenticatorMaxCount) (.rangeError "proof count")
  let encodedProofs ← encodeProofs engine proofs (-1) []
  let encoded ← bytesConcat engine ([
    accountWitnessMagic,
    [accountWitnessVersion, UInt8.ofNat operation.toNat, UInt8.ofNat proofs.length, 0],
    ← u64le sequence] ++ encodedProofs)
  rejectIf (encoded.length > accountWitnessMaxLockLen) (.rangeError "AccountWitnessV1 length")
  return encoded

/-- What the code runs on: the engine, and what it uses of the ccc package, which is the
    chain's hash and the codec of `WitnessArgs`, which may throw. -/
structure Ccc where
  engine : Engine
  hashCkb : Bytes → Bytes
  fromBytes : Bytes → Option WitnessArgs
  toBytes : WitnessArgs → Option Bytes

section Package

variable (ccc : Ccc)

/-- `lengthPrefixed`. -/
def lengthPrefixed (engine : Engine) (witness : Bytes) : Outcome JsError Bytes := do
  bytesConcat engine [← u64le witness.length, witness]

/-- `witnesses.map(lengthPrefixed)`. -/
def lengthPrefixedAll (engine : Engine) : List Bytes → Outcome JsError (List Bytes)
  | [] => .ok []
  | witness :: witnesses => do
      return (← lengthPrefixed engine witness) :: (← lengthPrefixedAll engine witnesses)

/-- `groupSighash`. -/
def groupSighash (txHash : Bytes) (groupWitnesses extraWitnesses : List Bytes) :
    Outcome JsError Bytes := do
  requireLength txHash 32 "transaction hash"
  let firstBytes ← okOr (.rangeError "missing group witness") groupWitnesses.head?
  let first ← okOr .library (ccc.fromBytes firstBytes)
  let canonical ← okOr .library (ccc.toBytes {
    lock := some []
    inputType := first.inputType
    outputType := first.outputType })
  let message ← bytesConcat ccc.engine ([txHash, ← lengthPrefixed ccc.engine canonical]
    ++ (← lengthPrefixedAll ccc.engine groupWitnesses.tail)
    ++ (← lengthPrefixedAll ccc.engine extraWitnesses))
  return ccc.hashCkb message

/-- The input of `authorizationDigest`. -/
structure AuthorizationInput where
  operation : Int
  accountId : Bytes
  sequence : Int
  state : Bytes
  groupSighash : Bytes

/-- `authorizationDigest`. -/
def authorizationDigest (input : AuthorizationInput) : Outcome JsError Bytes := do
  requireOperation input.operation
  requireLength input.accountId 32 "account ID"
  requireLength input.groupSighash 32 "group sighash"
  let message ← bytesConcat ccc.engine [
    authDomain,
    [UInt8.ofNat input.operation.toNat],
    input.accountId,
    ← u64le input.sequence,
    ccc.hashCkb input.state,
    input.groupSighash]
  return ccc.hashCkb message

end Package

/-- The engine is ample, and the package does what it is documented to do: its hash is the
    chain's hash, and its `WitnessArgs` codec is Molecule's, on values whose size Molecule
    can write. -/
structure Ccc.Follows (ccc : Ccc) (ckbHash : Bytes → Byte32) : Prop where
  ample : ccc.engine.Ample
  hash : ∀ data, ccc.hashCkb data = (ckbHash data).val
  reads : ∀ args : WitnessArgs, args.asBytes.length < 2 ^ 32 →
    ccc.fromBytes args.asBytes = some args
  writes : ∀ args : WitnessArgs, args.asBytes.length < 2 ^ 32 →
    ccc.toBytes args = some args.asBytes

/-! ## Proofs and witnesses -/

/-- **Passkey proofs**: the browser writes what the host writes. -/
theorem encodeP256Proof_iff {engine : Engine} (hengine : engine.Ample) (input : P256ProofInput)
    (out : Bytes) :
    encodeP256Proof engine input = .ok out
      ↔ CkbHostCodec.encodeP256Proof input.publicKey input.origin input.authenticatorData
          input.clientDataJson input.signature = .ok out := by
  obtain ⟨publicKey, origin, authenticatorData, clientDataJson, signature⟩ := input
  let p : PasskeyProof := ⟨publicKey, origin, authenticatorData, clientDataJson, signature⟩
  have hhost : CkbHostCodec.encodeP256Proof publicKey origin authenticatorData clientDataJson
      signature = .ok out ↔ p.WellFormed ∧ publicKey.head? = some 4 ∧ out = p.layout :=
    encodeP256Proof_eq_ok (p := p)
  have hflat : [publicKey, [UInt8.ofNat origin.length], origin,
      u16Le (UInt16.ofNat authenticatorData.length), authenticatorData,
      u16Le (UInt16.ofNat clientDataJson.length), clientDataJson,
      u16Le (UInt16.ofNat signature.length), signature].flatten = p.layout := by
    simp only [p, PasskeyProof.layout, sized, List.flatten_cons, List.flatten_nil, List.append_nil,
      List.append_assoc, List.cons_append, List.nil_append]
  -- the length fields bound a well-formed proof, so the engine takes the message
  have hsmall : p.WellFormed → p.layout.length ≤ 2 ^ 20 := by
    rintro ⟨_, _, _, _, _, _, _, _, _⟩
    simp only [PasskeyProof.layout, sized, List.length_append, List.length_cons, u16Le_length]
    omega
  rw [hhost, encodeP256Proof]
  simp only [rejectIf_bind_eq_ok, not_or, not_not, Nat.not_lt, u16le_bind_eq_ok,
    bytesConcat_eq_ok, hflat]
  constructor
  · rintro ⟨⟨hkey, hhead⟩, ⟨horigin, horiginLe⟩, hdata, ⟨hclient, hsig⟩, hdataLt, hclientLt, hsigLt,
      -, rfl⟩
    exact ⟨⟨hkey, Nat.pos_of_ne_zero horigin, Nat.lt_succ_of_le horiginLe, hdata, hdataLt,
      Nat.pos_of_ne_zero hclient, hclientLt, Nat.pos_of_ne_zero hsig, hsigLt⟩, hhead, rfl⟩
  · rintro ⟨hwf, hhead, rfl⟩
    exact ⟨⟨hwf.key, hhead⟩, ⟨Nat.ne_of_gt hwf.origin_pos, Nat.le_of_lt_succ hwf.origin_lt⟩,
      hwf.data_ge, ⟨Nat.ne_of_gt hwf.client_pos, Nat.ne_of_gt hwf.signature_pos⟩, hwf.data_lt,
      hwf.client_lt, hwf.signature_lt,
      hengine.takes (Nat.le_of_ble_eq_true rfl) (by rw [hflat]; exact hsmall hwf), rfl⟩

/-- A proof as the browser holds it. -/
def jsProof (p : SlotProof) : Proof where
  slot := p.slot.toNat
  bytes := p.proof

/-- **One proof** is written when its length fits four bytes and the engine can hold it. -/
theorem encodeProof_eq_ok {engine : Engine} (hengine : engine.Ample) {p : SlotProof}
    {out : Bytes} :
    encodeProof engine (jsProof p) = .ok out
      ↔ p.proof.length < 2 ^ 32 ∧ p.layout.length ≤ engine.maxByteLength ∧ out = p.layout := by
  rw [encodeProof, bind_eq_ok]
  have hflat : [u16Le p.slot, [0, 0], u32Le (UInt32.ofNat p.proof.length), p.proof].flatten
      = p.layout := by
    simp only [SlotProof.layout, List.flatten_cons, List.flatten_nil, List.append_nil,
      List.cons_append, List.nil_append]
  have hslot : ∀ b, u16le (jsProof p).slot = .ok b ↔ b = u16Le p.slot := by
    intro b
    rw [jsProof, u16le_eq_ok, UInt16.ofNat_toNat]
    exact ⟨fun h => h.2, fun h => ⟨p.slot.toNat_lt, h⟩⟩
  constructor
  · rintro ⟨slot, hs, h⟩
    obtain ⟨length, hlength, h⟩ := bind_eq_ok.mp h
    obtain ⟨hlt, rfl⟩ := u32le_eq_ok.mp hlength
    cases (hslot slot).mp hs
    obtain ⟨⟨-, hheld⟩, rfl⟩ := bytesConcat_eq_ok.mp h
    exact ⟨hlt, hflat ▸ hheld, hflat⟩
  · rintro ⟨hlt, hheld, rfl⟩
    refine ⟨_, (hslot _).mpr rfl, ?_⟩
    rw [show u32le ((jsProof p).bytes.length : Int) = _ from u32le_eq_ok.mpr ⟨hlt, rfl⟩, ok_bind,
      bytesConcat_eq_ok]
    exact ⟨⟨Nat.le_trans (Nat.le_of_ble_eq_true rfl) hengine.arguments, hflat.symm ▸ hheld⟩,
      hflat.symm⟩

/-- The slot before the loop's current proof; -1 before the first. -/
def previousSlot : Option UInt16 → Int
  | none => -1
  | some slot => slot.toNat

theorem not_le_previousSlot {prev : Option UInt16} {slot : UInt16} :
    ¬ (slot.toNat : Int) ≤ previousSlot prev ↔ Increases prev slot := by
  cases prev with
  | none =>
      have : ¬ (slot.toNat : Int) ≤ -1 := by omega
      exact ⟨fun _ p hp => (nomatch hp), fun _ => this⟩
  | some p =>
      simp only [previousSlot, Increases, Option.some.injEq, forall_eq', UInt16.lt_iff_toNat_lt]
      omega

/-- **The loop over the proofs** writes their layouts, if their slots increase. -/
theorem encodeProofs_eq_ok {engine : Engine} (hengine : engine.Ample) :
    ∀ {proofs : List SlotProof} {prev : Option UInt16} {encoded out : List Bytes},
      encodeProofs engine (proofs.map jsProof) (previousSlot prev) encoded = .ok out
        ↔ (∀ p ∈ proofs, p.WellFormed ∧ p.layout.length ≤ engine.maxByteLength)
          ∧ IncreasingFrom prev (proofs.map SlotProof.slot)
          ∧ out = encoded ++ proofs.map SlotProof.layout := by
  intro proofs
  induction proofs with
  | nil =>
      intro prev encoded out
      rw [List.map_nil, encodeProofs, Outcome.ok.injEq, show List.map SlotProof.layout [] = [] from rfl,
        List.append_nil]
      exact ⟨fun h => ⟨fun _ hp => absurd hp List.not_mem_nil, trivial, h.symm⟩,
        fun h => h.2.2.symm⟩
  | cons p proofs ih =>
      intro prev encoded out
      -- the slot comes from sixteen bits, so the range check cannot fail
      have hslot : ¬ ((jsProof p).slot < 0 ∨ (jsProof p).slot > 0xffff) := by
        have := p.slot.toNat_lt
        show ¬ ((p.slot.toNat : Int) < 0 ∨ (p.slot.toNat : Int) > 0xffff)
        omega
      have hempty : ¬ (jsProof p).bytes.length = 0 ↔ p.proof ≠ [] :=
        not_congr List.length_eq_zero_iff
      rw [List.map_cons, encodeProofs, rejectIf_bind_eq_ok, rejectIf_bind_eq_ok,
        rejectIf_bind_eq_ok, bind_eq_ok, hempty,
        show (jsProof p).slot = (p.slot.toNat : Int) from rfl, not_le_previousSlot,
        show (p.slot.toNat : Int) = previousSlot (some p.slot) from rfl]
      simp only [ih, encodeProof_eq_ok hengine, List.forall_mem_cons, List.map_cons, IncreasingFrom]
      constructor
      · rintro ⟨-, hinc, hne, bytes, ⟨hlt, hheld, rfl⟩, hwf, hrest, rfl⟩
        exact ⟨⟨⟨⟨hne, hlt⟩, hheld⟩, hwf⟩, ⟨hinc, hrest⟩, by rw [List.append_assoc]; rfl⟩
      · rintro ⟨⟨⟨⟨hne, hlt⟩, hheld⟩, hwf⟩, ⟨hinc, hrest⟩, rfl⟩
        exact ⟨hslot, hinc, hne, _, ⟨hlt, hheld, rfl⟩, hwf, hrest, by rw [List.append_assoc]; rfl⟩

/-- Both sides know the same operations. -/
theorem requireOperation_eq_ok {operation : UInt8} {u : Unit} :
    requireOperation (operation.toNat : Int) = .ok u ↔ IsOperation operation := by
  rw [requireOperation, rejectIf_eq_ok]
  simp only [IsOperation, opSpend, opRotate, opRecovery, ← UInt8.toNat_inj]
  show ¬ ((operation.toNat : Int) ≠ 1 ∧ (operation.toNat : Int) ≠ 2 ∧ (operation.toNat : Int) ≠ 3)
    ↔ operation.toNat = 1 ∨ operation.toNat = 2 ∨ operation.toNat = 3
  omega

/-- A proof of a witness is no longer than the witness. -/
theorem layout_length_le {p : SlotProof} {proofs : List SlotProof} (h : p ∈ proofs) :
    p.layout.length ≤ (proofs.flatMap SlotProof.layout).length := by
  obtain ⟨s, t, rfl⟩ := List.append_of_mem h
  rw [List.flatMap_append, List.flatMap_cons, List.length_append, List.length_append]
  omega

/-- **Account witnesses**: the browser checks up front what the host finds by parsing. -/
theorem encodeAccountWitness_iff {engine : Engine} (hengine : engine.Ample) (operation : UInt8)
    (sequence : UInt64) (proofs : List SlotProof) (out : Bytes) :
    encodeAccountWitness engine operation.toNat sequence.toNat (proofs.map jsProof) = .ok out
      ↔ encodeWitness operation sequence proofs = .ok out := by
  have hflat : ([accountWitnessMagic,
      [accountWitnessVersion, UInt8.ofNat ((operation.toNat : Int).toNat),
        UInt8.ofNat (proofs.map jsProof).length, 0],
      u64Le (UInt64.ofNat sequence.toNat)] ++ proofs.map SlotProof.layout).flatten
      = witnessLayout operation sequence proofs := by
    rw [Int.toNat_natCast, UInt8.ofNat_toNat, UInt64.ofNat_toNat, List.length_map]
    simp only [witnessLayout, witnessHeader, AccountWitnessHeader.layout, List.flatMap,
      List.flatten_cons, List.append_assoc, List.cons_append, List.nil_append]
  have hsize : (witnessLayout operation sequence proofs).length
      = 16 + (proofs.flatMap SlotProof.layout).length := by
    rw [witnessLayout, List.length_append, AccountWitnessHeader.layout_length]
  have hsequence : u64le (sequence.toNat : Int) = .ok (u64Le (UInt64.ofNat sequence.toNat)) :=
    u64le_eq_ok.mpr ⟨sequence.toNat_lt, rfl⟩
  rw [encodeWitness_eq_ok, encodeAccountWitness, unit_bind_eq_ok, requireOperation_eq_ok,
    rejectIf_bind_eq_ok, bind_eq_ok, show (-1 : Int) = previousSlot none from rfl]
  simp only [encodeProofs_eq_ok hengine, hsequence, ok_bind, List.nil_append, increasingFrom_none]
  constructor
  · rintro ⟨hop, hcount, encoded, ⟨hwf, hinc, rfl⟩, h⟩
    obtain ⟨bytes, hbytes, h⟩ := bind_eq_ok.mp h
    obtain ⟨-, rfl⟩ := bytesConcat_eq_ok.mp hbytes
    rw [hflat, rejectIf_bind_eq_ok, Nat.not_lt, hsize] at h
    rw [List.length_map, Nat.not_lt] at hcount
    exact ⟨⟨hop, hcount, fun p hp => (hwf p hp).1.nonempty, hinc, h.1⟩, (Outcome.ok.inj h.2).symm⟩
  · rintro ⟨henc, rfl⟩
    have hlen : (witnessLayout operation sequence proofs).length ≤ accountWitnessMaxLockLen := by
      rw [hsize]
      exact henc.size
    have hsmall : (witnessLayout operation sequence proofs).length ≤ 2 ^ 20 :=
      Nat.le_trans hlen (by decide)
    -- each proof is part of the witness, so the engine can hold it too
    have hheld : ∀ p ∈ proofs, p.WellFormed ∧ p.layout.length ≤ engine.maxByteLength := by
      intro p hp
      have hle := layout_length_le hp
      have hroom := hengine.byteLength
      exact ⟨henc.wellFormed p hp, by omega⟩
    have hcount : ¬ (proofs.map jsProof).length > authenticatorMaxCount := by
      rw [List.length_map]
      exact Nat.not_lt_of_le henc.count
    refine ⟨henc.operation, hcount, _, ⟨hheld, henc.increasing, rfl⟩, ?_⟩
    rw [bind_eq_ok]
    have hparts : 3 + proofs.length ≤ 64 := by
      have hmax : authenticatorMaxCount = 16 := rfl
      have := henc.count
      omega
    refine ⟨_, bytesConcat_eq_ok.mpr ⟨hengine.takes ?_ (by rw [hflat]; exact hsmall),
      hflat.symm⟩, ?_⟩
    · rw [List.length_append, List.length_map, List.length_map]
      exact hparts
    rw [rejectIf_neg (Nat.not_lt_of_le hlen)]
    rfl

/-! ## Digests -/

/-- **Authorization digests**: the message has a fixed length, so only the operation
    can make the functions fail. -/
theorem authorizationDigest_iff {ccc : Ccc} {ckbHash : Bytes → Byte32}
    (hccc : ccc.Follows ckbHash) (operation : UInt8) (accountId : Byte32) (sequence : UInt64)
    (state : Bytes) (sighash : Byte32) (out : Bytes) :
    authorizationDigest ccc {
        operation := operation.toNat
        accountId := accountId.val
        sequence := sequence.toNat
        state := state
        groupSighash := sighash.val } = .ok out
      ↔ ∃ digest, CkbHostDigest.authorizationDigest ckbHash operation accountId sequence state
          sighash = .ok digest ∧ digest.val = out := by
  -- a sequence of the host fits the eight bytes the browser checks for
  have hsequence : u64le (sequence.toNat : Int) = .ok (u64Le sequence) := by
    rw [u64le_eq_ok, UInt64.ofNat_toNat]
    exact ⟨sequence.toNat_lt, rfl⟩
  have hflat : [authDomain, [UInt8.ofNat ((operation.toNat : Int).toNat)], accountId.val,
      u64Le sequence, ccc.hashCkb state, sighash.val].flatten
      = digestMessage operation accountId sequence (ckbHash state) sighash := by
    rw [hccc.hash, Int.toNat_natCast, UInt8.ofNat_toNat]
    simp only [digestMessage, List.flatten_cons, List.flatten_nil, List.append_nil,
      List.append_assoc]
  -- the preimage has a fixed length, far below what an engine must take
  have hsmall : (digestMessage operation accountId sequence (ckbHash state) sighash).length
      ≤ 2 ^ 20 := by
    simp only [digestMessage, List.length_append, List.length_singleton, u64Le_length,
      accountId.property, (ckbHash state).property, sighash.property]
    decide
  have hmessage : bytesConcat ccc.engine [authDomain, [UInt8.ofNat ((operation.toNat : Int).toNat)],
      accountId.val, u64Le sequence, ccc.hashCkb state, sighash.val]
      = .ok (digestMessage operation accountId sequence (ckbHash state) sighash) :=
    bytesConcat_eq_ok.mpr ⟨hccc.ample.takes (Nat.le_of_ble_eq_true rfl)
      (by rw [hflat]; exact hsmall), hflat.symm⟩
  rw [authorizationDigest, unit_bind_eq_ok, requireOperation_eq_ok, requireLength,
    rejectIf_neg (not_not.mpr accountId.property), ok_bind, requireLength,
    rejectIf_neg (not_not.mpr sighash.property), ok_bind, hsequence, ok_bind, hmessage, ok_bind,
    hccc.hash, pure_eq, Outcome.ok.injEq]
  simp only [CkbHostDigest.authorizationDigest, capabilityForOperation_bind_eq_ok]
  constructor
  · rintro ⟨hop, rfl⟩
    exact ⟨_, ⟨hop, rfl⟩, rfl⟩
  · rintro ⟨digest, ⟨hop, hdigest⟩, rfl⟩
    cases hdigest
    exact ⟨hop, rfl⟩

/-- **One frame** is written when the engine can hold it. -/
theorem lengthPrefixed_eq_ok {engine : Engine} (hengine : engine.Ample) {witness out : Bytes} :
    lengthPrefixed engine witness = .ok out
      ↔ (frame witness).length ≤ engine.maxByteLength ∧ out = frame witness := by
  have hflat : [u64Le (UInt64.ofNat witness.length), witness].flatten = frame witness := by
    simp only [frame, List.flatten_cons, List.flatten_nil, List.append_nil]
  have hbound : (frame witness).length ≤ engine.maxByteLength → witness.length < 2 ^ 64 := by
    intro hheld
    have hsafe := engine.byteLength_safe
    rw [frame, List.length_append] at hheld
    unfold maxSafeInteger at hsafe
    omega
  rw [lengthPrefixed, bind_eq_ok]
  simp only [u64le_eq_ok, bytesConcat_eq_ok]
  constructor
  · rintro ⟨length, ⟨-, rfl⟩, ⟨-, hheld⟩, rfl⟩
    rw [hflat] at hheld ⊢
    exact ⟨hheld, rfl⟩
  · rintro ⟨hheld, rfl⟩
    exact ⟨_, ⟨hbound hheld, rfl⟩,
      ⟨Nat.le_trans (Nat.le_of_ble_eq_true rfl) hengine.arguments, by rw [hflat]; exact hheld⟩,
      hflat.symm⟩

theorem lengthPrefixedAll_eq_ok {engine : Engine} (hengine : engine.Ample) :
    ∀ {witnesses out : List Bytes}, lengthPrefixedAll engine witnesses = .ok out
      ↔ (∀ w ∈ witnesses, (frame w).length ≤ engine.maxByteLength)
        ∧ out = witnesses.map frame := by
  intro witnesses
  induction witnesses with
  | nil =>
      intro out
      rw [lengthPrefixedAll, Outcome.ok.injEq, List.map_nil]
      exact ⟨fun h => ⟨fun _ hw => absurd hw List.not_mem_nil, h.symm⟩, fun h => h.2.symm⟩
  | cons w witnesses ih =>
      intro out
      rw [lengthPrefixedAll, bind_eq_ok, List.forall_mem_cons, List.map_cons]
      simp only [lengthPrefixed_eq_ok hengine, bind_eq_ok, ih, pure_eq, Outcome.ok.injEq]
      constructor
      · rintro ⟨first, ⟨hfirst, rfl⟩, rest, ⟨hrest, rfl⟩, rfl⟩
        exact ⟨⟨hfirst, hrest⟩, rfl⟩
      · rintro ⟨⟨hfirst, hrest⟩, rfl⟩
        exact ⟨_, ⟨hfirst, rfl⟩, _, ⟨hrest, rfl⟩, rfl⟩

/-- A frame is no longer than the message it is part of. -/
theorem frame_length_le {ws : List Bytes} {w : Bytes} (h : w ∈ ws) :
    (frame w).length ≤ (ws.flatMap frame).length := by
  obtain ⟨s, t, rfl⟩ := List.append_of_mem h
  rw [List.flatMap_append, List.flatMap_cons, List.length_append, List.length_append]
  omega

/-- The engine can take a sighash message: the hash and the framed witnesses as arguments of
    one call, and the whole message in one array. -/
def Engine.TakesMessage (engine : Engine) (message : Bytes) (rest extra : List Bytes) : Prop :=
  2 + rest.length + extra.length ≤ engine.maxArguments ∧ message.length ≤ engine.maxByteLength

/-- **Group sighashes**: where the host streams its message, the browser builds it, so the
    engine must be able to take it. -/
theorem groupSighash_iff {ccc : Ccc} {ckbHash : Bytes → Byte32} (hccc : ccc.Follows ckbHash)
    (txHash : Byte32) (args : WitnessArgs) (rest extra : List Bytes) (out : Bytes)
    (hargs : args.asBytes.length < 2 ^ 32) (hrebuild : (rebuild args).length < 2 ^ 32) :
    groupSighash ccc txHash.val (args.asBytes :: rest) extra = .ok out
      ↔ ccc.engine.TakesMessage
          (streamOf txHash (optBytes args.inputType) (optBytes args.outputType) rest extra)
          rest extra
        ∧ ∃ sighash, CkbHostDigest.groupSighash ckbHash txHash (args.asBytes :: rest) extra
            = .ok sighash ∧ sighash.val = out := by
  have hstream : streamOf txHash (optBytes args.inputType) (optBytes args.outputType) rest extra
      = txHash.val ++ (rebuild args :: (rest ++ extra)).flatMap frame := rfl
  have hflat : ([txHash.val, frame (rebuild args)] ++ rest.map frame ++ extra.map frame).flatten
      = streamOf txHash (optBytes args.inputType) (optBytes args.outputType) rest extra := by
    rw [hstream, List.flatMap_cons, List.flatMap_append]
    simp only [List.flatMap, List.flatten_append, List.flatten_cons, List.flatten_nil,
      List.append_nil, List.append_assoc]
  have hparts : ([txHash.val, frame (rebuild args)] ++ rest.map frame ++ extra.map frame).length
      = 2 + rest.length + extra.length := by
    rw [List.length_append, List.length_append, List.length_map, List.length_map]
    rfl
  -- every frame is part of the message, so an engine that holds it holds them
  have hframes : (streamOf txHash (optBytes args.inputType) (optBytes args.outputType) rest
      extra).length ≤ ccc.engine.maxByteLength →
      ∀ w ∈ rebuild args :: (rest ++ extra), (frame w).length ≤ ccc.engine.maxByteLength := by
    intro hheld w hw
    have := frame_length_le hw
    rw [hstream, List.length_append] at hheld
    omega
  have hhost : (streamOf txHash (optBytes args.inputType) (optBytes args.outputType) rest
      extra).length ≤ ccc.engine.maxByteLength →
      CkbHostDigest.groupSighash ckbHash txHash (args.asBytes :: rest) extra
        = .ok (ckbHash (streamOf txHash (optBytes args.inputType) (optBytes args.outputType) rest
          extra)) := by
    intro hheld
    refine groupSighash_eq (WitnessArgs.fromSlice_eq_some.mpr ⟨rfl, hargs⟩) ?_
    intro w hw
    have := hframes hheld w hw
    have hsafe := ccc.engine.byteLength_safe
    rw [frame, List.length_append] at this
    unfold maxSafeInteger at hsafe
    omega
  rw [groupSighash, requireLength, rejectIf_neg (not_not.mpr txHash.property), ok_bind,
    List.head?_cons, okOr_some, ok_bind, hccc.reads args hargs, okOr_some, ok_bind,
    show ccc.toBytes { lock := some [], inputType := args.inputType, outputType := args.outputType }
      = some (rebuild args) from hccc.writes _ hrebuild, okOr_some, ok_bind, List.tail_cons]
  constructor
  · intro h
    obtain ⟨first, hfirst, h⟩ := bind_eq_ok.mp h
    obtain ⟨rest', hrest, h⟩ := bind_eq_ok.mp h
    obtain ⟨extra', hextra, h⟩ := bind_eq_ok.mp h
    obtain ⟨message, hmessage, h⟩ := bind_eq_ok.mp h
    obtain ⟨-, rfl⟩ := (lengthPrefixed_eq_ok hccc.ample).mp hfirst
    obtain ⟨-, rfl⟩ := (lengthPrefixedAll_eq_ok hccc.ample).mp hrest
    obtain ⟨-, rfl⟩ := (lengthPrefixedAll_eq_ok hccc.ample).mp hextra
    obtain ⟨⟨hcount, hheld⟩, rfl⟩ := bytesConcat_eq_ok.mp hmessage
    rw [hparts] at hcount
    rw [hflat] at hheld h
    cases h
    exact ⟨⟨hcount, hheld⟩, _, hhost hheld, (hccc.hash _).symm⟩
  · rintro ⟨⟨hcount, hheld⟩, sighash, hsighash, rfl⟩
    rw [hhost hheld] at hsighash
    cases hsighash
    have hall := hframes hheld
    rw [(lengthPrefixed_eq_ok hccc.ample).mpr ⟨hall _ (List.mem_cons_self ..), rfl⟩, ok_bind,
      (lengthPrefixedAll_eq_ok hccc.ample).mpr ⟨fun w hw => hall w (List.mem_cons_of_mem _
        (List.mem_append_left _ hw)), rfl⟩, ok_bind,
      (lengthPrefixedAll_eq_ok hccc.ample).mpr ⟨fun w hw => hall w (List.mem_cons_of_mem _
        (List.mem_append_right _ hw)), rfl⟩, ok_bind,
      bytesConcat_eq_ok.mpr ⟨⟨by rw [hparts]; exact hcount, by rw [hflat]; exact hheld⟩, rfl⟩,
      ok_bind, hflat, hccc.hash]
    rfl

/-! ## The whole codec -/

/-- The first witness, if there is one, is a canonical `WitnessArgs` and stays one when
    its lock is emptied. -/
def CanonicalFirst (groupWitnesses : List Bytes) : Prop :=
  ∀ first, groupWitnesses.head? = some first → ∃ args : WitnessArgs, first = args.asBytes
    ∧ args.asBytes.length < 2 ^ 32 ∧ (rebuild args).length < 2 ^ 32

/-- The message whose hash is the group sighash. -/
def sighashMessage (txHash : Byte32) (groupWitnesses extraWitnesses : List Bytes) : Bytes :=
  match groupWitnesses with
  | [] => []
  | first :: rest =>
      match WitnessArgs.fromSlice first with
      | none => []
      | some args => streamOf txHash (optBytes args.inputType) (optBytes args.outputType) rest
          extraWitnesses

/-- **The browser codec is the host codec.**  With an ample engine and a ccc package that
    hashes like the chain and follows Molecule, each TypeScript function returns `out`
    exactly when its Rust counterpart does, for all byte arrays and all integers of the Rust
    argument types: the proof encoder, the witness encoder, the authorization digest and, for
    canonical first witnesses and messages that the engine can take, the group sighash. -/
theorem browser_codec_eq_host (ccc : Ccc) (ckbHash : Bytes → Byte32)
    (hccc : ccc.Follows ckbHash) :
    (∀ (input : P256ProofInput) (out : Bytes), encodeP256Proof ccc.engine input = .ok out
      ↔ CkbHostCodec.encodeP256Proof input.publicKey input.origin input.authenticatorData
          input.clientDataJson input.signature = .ok out)
    ∧ (∀ (operation : UInt8) (sequence : UInt64) (proofs : List SlotProof) (out : Bytes),
      encodeAccountWitness ccc.engine operation.toNat sequence.toNat (proofs.map jsProof)
          = .ok out
        ↔ encodeWitness operation sequence proofs = .ok out)
    ∧ (∀ (operation : UInt8) (accountId : Byte32) (sequence : UInt64) (state : Bytes)
        (sighash : Byte32) (out : Bytes),
      authorizationDigest ccc {
          operation := operation.toNat
          accountId := accountId.val
          sequence := sequence.toNat
          state := state
          groupSighash := sighash.val } = .ok out
        ↔ ∃ digest, CkbHostDigest.authorizationDigest ckbHash operation accountId sequence state
            sighash = .ok digest ∧ digest.val = out)
    ∧ (∀ (txHash : Byte32) (groupWitnesses extraWitnesses : List Bytes) (out : Bytes),
      CanonicalFirst groupWitnesses →
      (groupSighash ccc txHash.val groupWitnesses extraWitnesses = .ok out
        ↔ ccc.engine.TakesMessage (sighashMessage txHash groupWitnesses extraWitnesses)
            groupWitnesses.tail extraWitnesses
          ∧ ∃ sighash, CkbHostDigest.groupSighash ckbHash txHash groupWitnesses extraWitnesses
              = .ok sighash ∧ sighash.val = out)) := by
  refine ⟨encodeP256Proof_iff hccc.ample, encodeAccountWitness_iff hccc.ample,
    authorizationDigest_iff hccc, ?_⟩
  intro txHash groupWitnesses extraWitnesses out hfirst
  cases groupWitnesses with
  | nil =>
      -- no group witness: both refuse before they hash
      rw [groupSighash, requireLength, rejectIf_neg (not_not.mpr txHash.property), ok_bind,
        CkbHostDigest.groupSighash]
      constructor
      · intro h
        cases h
      · rintro ⟨-, sighash, h, -⟩
        cases h
  | cons first rest =>
      obtain ⟨args, rfl, hargs, hrebuild⟩ := hfirst first rfl
      -- the canonical first witness parses back to its own fields
      have hmessage : sighashMessage txHash (args.asBytes :: rest) extraWitnesses
          = streamOf txHash (optBytes args.inputType) (optBytes args.outputType) rest
            extraWitnesses := by
        rw [sighashMessage, WitnessArgs.fromSlice_eq_some.mpr ⟨rfl, hargs⟩]
      rw [hmessage]
      exact groupSighash_iff hccc txHash args rest extraWitnesses out hargs hrebuild

/-- An engine with limits like those of Node: somewhat more than a hundred thousand
    arguments in one call, and a few gigabytes in one array. -/
def nodeEngine : Engine where
  maxArguments := 2 ^ 17
  maxByteLength := 2 ^ 32
  byteLength_safe := by decide

/-- The engine takes every message that the limits of the protocol allow. -/
theorem nodeEngine_ample : nodeEngine.Ample := ⟨by decide, by decide⟩

/-- A package that follows a hash and Molecule. -/
def referenceCcc (ckbHash : Bytes → Byte32) : Ccc where
  engine := nodeEngine
  hashCkb data := (ckbHash data).val
  fromBytes := WitnessArgs.fromSlice
  toBytes args := some args.asBytes

theorem referenceCcc_follows (ckbHash : Bytes → Byte32) :
    (referenceCcc ckbHash).Follows ckbHash :=
  ⟨nodeEngine_ample, fun _ => rfl, fun _ h => WitnessArgs.fromSlice_eq_some.mpr ⟨rfl, h⟩,
    fun _ _ => rfl⟩

/-- The first witness of the signed sample. -/
def signedArgs : WitnessArgs where
  lock := some [1]
  inputType := none
  outputType := some [5]

/-- The fixture is canonical. -/
theorem signedArgs_canonical (rest : List Bytes) :
    CanonicalFirst (signedArgs.asBytes :: rest) := by
  intro first hfirst
  cases hfirst
  exact ⟨signedArgs, rfl, by decide, by decide⟩

/-- On the signed sample the browser computes the host's sighash. -/
theorem signedArgs_browser_eq_host :
    (referenceCcc signedHash).Follows signedHash
      ∧ CkbHostDigest.groupSighash signedHash (filled32 0x22) [signedArgs.asBytes] [[9]]
        = .ok signedSighash
      ∧ groupSighash (referenceCcc signedHash) (filled32 0x22).val [signedArgs.asBytes] [[9]]
        = .ok signedSighash.val := by
  have hfollows := referenceCcc_follows signedHash
  obtain ⟨-, -, -, hsighash⟩ := browser_codec_eq_host (referenceCcc signedHash) signedHash hfollows
  have hhost : CkbHostDigest.groupSighash signedHash (filled32 0x22) [signedArgs.asBytes] [[9]]
      = .ok signedSighash := by
    decide +kernel
  exact ⟨hfollows, hhost, (hsighash _ _ _ _ (signedArgs_canonical [])).mpr
    ⟨⟨by decide +kernel, by decide +kernel⟩, signedSighash, hhost, rfl⟩⟩

/-- 262144 empty witnesses. -/
def manyWitnesses : List Bytes := List.replicate (2 ^ 18) []

/-- **More witnesses than one call takes.**  Behind 2^18 empty extra witnesses the host
    returns a sighash, and the browser throws. -/
theorem manyWitnesses_browser_throws :
    CanonicalFirst [signedArgs.asBytes]
      ∧ (∃ sighash, CkbHostDigest.groupSighash signedHash (filled32 0x22) [signedArgs.asBytes]
          manyWitnesses = .ok sighash)
      ∧ groupSighash (referenceCcc signedHash) (filled32 0x22).val [signedArgs.asBytes]
          manyWitnesses = .err (.rangeError "Maximum call stack size exceeded") := by
  have hempty : ∀ w ∈ manyWitnesses, w = [] := fun w hw => List.eq_of_mem_replicate hw
  have hargs : WitnessArgs.fromSlice signedArgs.asBytes = some signedArgs := by decide +kernel
  refine ⟨signedArgs_canonical [], ⟨_, groupSighash_eq hargs ?_⟩, ?_⟩
  · intro w hw
    rcases List.mem_cons.mp hw with rfl | hw
    · decide
    · rw [hempty w hw]
      decide
  · have hfirst : lengthPrefixed nodeEngine (rebuild signedArgs) = .ok (frame (rebuild signedArgs)) :=
      (lengthPrefixed_eq_ok nodeEngine_ample).mpr ⟨by decide, rfl⟩
    have hextra : lengthPrefixedAll nodeEngine manyWitnesses = .ok (manyWitnesses.map frame) := by
      refine (lengthPrefixedAll_eq_ok nodeEngine_ample).mpr ⟨fun w hw => ?_, rfl⟩
      rw [hempty w hw]
      decide
    -- each witness is one argument, and there are more than the engine takes
    have hmany : nodeEngine.maxArguments
        < ([(filled32 0x22).val, frame (rebuild signedArgs)] ++ [] ++ manyWitnesses.map frame).length
        := by
      rw [List.length_append, List.length_map, manyWitnesses, List.length_replicate]
      decide
    rw [groupSighash, requireLength, rejectIf_neg (not_not.mpr (filled32 0x22).property), ok_bind,
      List.head?_cons, okOr_some, ok_bind,
      show (referenceCcc signedHash).fromBytes signedArgs.asBytes = some signedArgs from hargs,
      okOr_some, ok_bind,
      show (referenceCcc signedHash).toBytes _ = some (rebuild signedArgs) from rfl, okOr_some,
      ok_bind, show (referenceCcc signedHash).engine = nodeEngine from rfl, hfirst, ok_bind,
      List.tail_cons, lengthPrefixedAll, ok_bind, hextra, ok_bind, bytesConcat_of_many hmany,
      err_bind]

end CkbBrowserCodec
