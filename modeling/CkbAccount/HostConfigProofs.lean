import CkbAccount.AccountLockProofs
import CkbAccount.HostStateProofs
import CkbAccount.StepRunProofs
import CkbAccount.VerifierProofs

/-! # The bootstrap configuration

    `crates/host/src/config.rs` turns a configuration file into the first state of an
    account.  The state cannot be edited afterwards, so its checks are meant to fail closed:
    a configuration that encodes should be one whose authenticators the bundled verifiers
    will serve.

    * `verify_eq` splits a verifier into the checks that do not look at the proof
      and those that do;
    * `served_iff`: a supported entry passes the first half exactly when its aux data has
      the form its verifier expects;
    * `config_served_iff`: what that leaves to the author of a configuration. -/

namespace CkbHostConfig

open RustOutcome Outcome LittleEndian RecordLoop CkbProtocol CkbStateWire CkbStatePolicy
open CkbHostState CkbRequestWire CkbVerifier CkbClientData

/-! ## Hexadecimal strings -/

/-- The bytes of a Rust `&str`. -/
def utf8 (s : String) : Bytes := s.toUTF8.data.toList

/-- `hex::FromHexError`. -/
inductive FromHexError where
  | invalidHexCharacter (c : UInt8) (index : Nat)
  | oddLength
  deriving DecidableEq, Repr

/-- The `Display` of `hex::FromHexError`. -/
def FromHexError.text : FromHexError → String
  | .invalidHexCharacter c index =>
      "Invalid character '" ++ String.singleton (Char.ofNat c.toNat) ++ "' at position "
        ++ toString index
  | .oddLength => "Odd number of digits"

/-- `val` of the crate `hex`: a digit of either case, or its character and position. -/
def hexVal (c : UInt8) (index : Nat) : Outcome FromHexError UInt8 :=
  if 0x41 ≤ c ∧ c ≤ 0x46 then .ok (c - 0x41 + 10)
  else if 0x61 ≤ c ∧ c ≤ 0x66 then .ok (c - 0x61 + 10)
  else if 0x30 ≤ c ∧ c ≤ 0x39 then .ok (c - 0x30)
  else .err (.invalidHexCharacter c index)

/-- The loop of `hex::decode`: two digits for each byte, from position `index` on. -/
def hexPairs : Nat → Bytes → Outcome FromHexError Bytes
  | index, hi :: lo :: rest => do
      let h ← hexVal hi index
      let l ← hexVal lo (index + 1)
      let bytes ← hexPairs (index + 2) rest
      return (h <<< 4 ||| l) :: bytes
  | _, _ => .ok []

/-- `hex::decode`, as the crate documents it: an odd number of digits is refused first, then
    the first character that is none. -/
def hexDecode (data : Bytes) : Outcome FromHexError Bytes := do
  rejectIf (data.length % 2 ≠ 0) .oddLength
  hexPairs 0 data

/-! ## The configuration -/

/-- `ConfigError`. -/
inductive ConfigError where
  | invalid (message : String)
  | protocol (e : ProtocolError)
  deriving DecidableEq, Repr

/-- `value.strip_prefix("0x").unwrap_or(value)`. -/
def strip0x (value : Bytes) : Bytes :=
  if value.take 2 = [0x30, 0x78] then value.drop 2 else value

/-- `parse_hex`. -/
def parseHex (field value : String) : Outcome ConfigError Bytes :=
  (hexDecode (strip0x (utf8 value))).mapErr fun error =>
    .invalid ("invalid hex in " ++ field ++ ": " ++ error.text)

/-- `parse_hash`. -/
def parseHash (field value : String) : Outcome ConfigError Byte32 := do
  let bytes ← parseHex field value
  toByteArr 32 (.invalid (field ++ " must be exactly 32 bytes")) bytes

/-- `AuthenticatorConfig`. -/
structure AuthenticatorConfig where
  slot : UInt16
  algorithmId : UInt16
  capabilities : UInt16
  weight : UInt16
  verifierHashType : UInt8
  verifierAbi : UInt8
  verifierCodeHash : String
  keyId : String
  aux : String
  deriving DecidableEq, Repr

/-- `AccountStateConfig`. -/
structure AccountStateConfig where
  flags : UInt8
  sequence : UInt64
  spendThreshold : UInt16
  rotateThreshold : UInt16
  recoveryThreshold : UInt16
  recoverySince : UInt64
  authenticators : List AuthenticatorConfig
  deriving DecidableEq, Repr

/-- `{:#x}` with zeros up to a number of digits. -/
def hexText (digits n : Nat) : String :=
  let text := Nat.toDigits 16 n
  "0x" ++ String.ofList (List.replicate (digits - text.length) '0' ++ text)

/-- `AuthenticatorConfig::to_authenticator`. -/
def AuthenticatorConfig.toAuthenticator (c : AuthenticatorConfig) :
    Outcome ConfigError Authenticator := do
  let label := "slot " ++ toString c.slot.toNat ++ ": "
  rejectIf (c.verifierAbi ≠ verifierAbiV1)
    (.invalid (label ++ "verifier_abi must be " ++ hexText 2 verifierAbiV1.toNat
      ++ " for ABI v1, got " ++ hexText 2 c.verifierAbi.toNat))
  rejectIf (c.verifierHashType > 1)
    (.invalid (label ++ "verifier_hash_type must be 0 (data) or 1 (type)"))
  rejectIf (c.capabilities &&& ~~~capKnownMask ≠ 0)
    (.invalid (label ++ "capabilities " ++ hexText 4 c.capabilities.toNat
      ++ " set bits outside the known mask " ++ hexText 4 capKnownMask.toNat))
  rejectIf (c.weight = 0) (.invalid (label ++ "weight 0 can never contribute to a threshold"))
  let aux ← parseHex "aux" c.aux
  rejectIf (aux.isEmpty) (.invalid (label ++ "aux must not be empty"))
  rejectIf (c.algorithmId = algP256Webauthn ∧ aux.length ≠ 65)
    (.invalid (label ++ "P-256 aux must be exactly 65 bytes (profile || rp_id_hash || "
      ++ "origin_hash), got " ++ toString aux.length))
  return {
    slot := c.slot
    algorithmId := c.algorithmId
    capabilities := c.capabilities
    weight := c.weight
    verifierHashType := c.verifierHashType
    verifierAbi := c.verifierAbi
    verifierCodeHash := ← parseHash "verifier_code_hash" c.verifierCodeHash
    keyId := ← parseHash "key_id" c.keyId
    aux := aux }

/-- `.iter().map(to_authenticator).collect::<Result<Vec<_>, _>>()`. -/
def toAuthenticators : List AuthenticatorConfig → Outcome ConfigError (List Authenticator)
  | [] => .ok []
  | c :: cs => do
      let auth ← c.toAuthenticator
      let auths ← toAuthenticators cs
      return auth :: auths

/-- The loop over `authenticators.windows(2)`. -/
def checkWindows : List Authenticator → Outcome ConfigError Unit
  | a :: b :: rest => do
      rejectIf (b.slot ≤ a.slot)
        (.invalid ("authenticator slots must be strictly increasing, got "
          ++ toString b.slot.toNat ++ " after " ++ toString a.slot.toNat))
      checkWindows (b :: rest)
  | _ => .ok ()

/-- `available_weight`.  It is asked about at most 16 weights of 16 bits each, whose sum a
    `u32` holds. -/
def availableWeight (auths : List Authenticator) (capability : UInt16) : Nat :=
  ((auths.filter (fun auth => auth.capabilities &&& capability ≠ 0)).map
    (·.weight.toNat)).sum

/-- `require_satisfiable`. -/
def requireSatisfiable (label : String) (threshold : UInt16) (auths : List Authenticator)
    (capability : UInt16) : Outcome ConfigError Unit := do
  rejectIf (threshold = 0)
    (.invalid (label ++ " threshold must be at least 1; a zero threshold authorizes with no "
      ++ "proof"))
  let available := availableWeight auths capability
  rejectIf (available < threshold.toNat)
    (.invalid (label ++ " threshold " ++ toString threshold.toNat
      ++ " exceeds the total weight " ++ toString available
      ++ " of authenticators holding the " ++ label
      ++ " capability; the account would be permanently unusable for that operation"))

/-- `AccountStateConfig::encode`. -/
def AccountStateConfig.encode (c : AccountStateConfig) : Outcome ConfigError Bytes := do
  rejectIf (c.sequence ≠ 0)
    (.invalid ("initial state sequence must be 0, got " ++ toString c.sequence.toNat))
  rejectIf (c.flags &&& ~~~stateFlagsKnownMask ≠ 0)
    (.invalid ("flags " ++ hexText 2 c.flags.toNat ++ " set bits outside the known mask "
      ++ hexText 2 stateFlagsKnownMask.toNat))
  rejectIf (c.authenticators.isEmpty) (.invalid "at least one authenticator is required")
  rejectIf (c.authenticators.length > authenticatorMaxCount)
    (.invalid ("at most " ++ toString authenticatorMaxCount ++ " authenticators are allowed, got "
      ++ toString c.authenticators.length))
  let authenticators ← toAuthenticators c.authenticators
  checkWindows authenticators
  requireSatisfiable "spend" c.spendThreshold authenticators capSpend
  requireSatisfiable "rotate" c.rotateThreshold authenticators capRotate
  (if c.flags &&& stateFlagRecoveryEnabled ≠ 0 then
    requireSatisfiable "recovery" c.recoveryThreshold authenticators capRecovery
  else .ok ())
  let state : AccountState := {
    flags := c.flags
    sequence := c.sequence
    spendThreshold := c.spendThreshold
    rotateThreshold := c.rotateThreshold
    recoveryThreshold := c.recoveryThreshold
    recoverySince := c.recoverySince
    authenticators := authenticators }
  let encoded ← (encodeState state).mapErr .protocol
  let _ ← (validateState encoded).mapErr ConfigError.protocol
  return encoded

/-! ## What a configuration encodes to -/

theorem toAuthenticators_eq_ok :
    ∀ {cs : List AuthenticatorConfig} {auths : List Authenticator},
      toAuthenticators cs = .ok auths →
      List.Forall₂ (fun c auth => AuthenticatorConfig.toAuthenticator c = .ok auth) cs auths := by
  intro cs
  induction cs with
  | nil =>
      intro auths h
      cases h
      exact .nil
  | cons c cs ih =>
      intro auths h
      rw [toAuthenticators] at h
      obtain ⟨auth, hauth, h⟩ := bind_eq_ok.mp h
      obtain ⟨rest, hrest, h⟩ := bind_eq_ok.mp h
      cases h
      exact .cons hauth (ih hrest)

/-- What one configured authenticator becomes. -/
theorem toAuthenticator_eq_ok {c : AuthenticatorConfig} {auth : Authenticator}
    (h : c.toAuthenticator = .ok auth) :
    parseHex "aux" c.aux = .ok auth.aux ∧ auth.algorithmId = c.algorithmId
      ∧ (c.algorithmId = algP256Webauthn → auth.aux.length = 65) := by
  rw [AuthenticatorConfig.toAuthenticator] at h
  obtain ⟨-, h⟩ := rejectIf_bind_eq_ok.mp h
  obtain ⟨-, h⟩ := rejectIf_bind_eq_ok.mp h
  obtain ⟨-, h⟩ := rejectIf_bind_eq_ok.mp h
  obtain ⟨-, h⟩ := rejectIf_bind_eq_ok.mp h
  obtain ⟨aux, haux, h⟩ := bind_eq_ok.mp h
  obtain ⟨-, h⟩ := rejectIf_bind_eq_ok.mp h
  obtain ⟨hlen, h⟩ := rejectIf_bind_eq_ok.mp h
  obtain ⟨hash, -, h⟩ := bind_eq_ok.mp h
  obtain ⟨keyId, -, h⟩ := bind_eq_ok.mp h
  cases h
  refine ⟨haux, rfl, fun halg => ?_⟩
  by_contra hne
  exact hlen ⟨halg, hne⟩

/-- A configuration that encodes is the state of its authenticators, in order. -/
theorem encode_eq_ok {c : AccountStateConfig} {b : Bytes} (h : c.encode = .ok b) :
    ∃ auths,
      List.Forall₂ (fun a auth => AuthenticatorConfig.toAuthenticator a = .ok auth)
        c.authenticators auths
      ∧ ∃ header, ValidState b header (auths.map Authenticator.entry) := by
  rw [AccountStateConfig.encode] at h
  obtain ⟨-, h⟩ := rejectIf_bind_eq_ok.mp h
  obtain ⟨-, h⟩ := rejectIf_bind_eq_ok.mp h
  obtain ⟨-, h⟩ := rejectIf_bind_eq_ok.mp h
  obtain ⟨-, h⟩ := rejectIf_bind_eq_ok.mp h
  obtain ⟨auths, hauths, h⟩ := bind_eq_ok.mp h
  obtain ⟨-, h⟩ := unit_bind_eq_ok.mp h
  obtain ⟨-, h⟩ := unit_bind_eq_ok.mp h
  obtain ⟨-, h⟩ := unit_bind_eq_ok.mp h
  obtain ⟨-, h⟩ := unit_bind_eq_ok.mp h
  obtain ⟨encoded, hencoded, h⟩ := bind_eq_ok.mp h
  obtain ⟨summary, -, h⟩ := bind_eq_ok.mp h
  cases h
  rw [mapErr_eq_ok, encodeState_eq_ok_iff_decodeState, decodeState_eq_ok] at hencoded
  exact ⟨auths, toAuthenticators_eq_ok hauths, _, hencoded⟩

/-! ## The two halves of a verifier -/

/-- The algorithm a bundled verifier serves. -/
def algorithm : Program → UInt16
  | .p256 => algP256Webauthn
  | .mldsa65 => algMldsa65
  | .slhdsa => algSlhdsa

/-- The aux data a bundled verifier expects: profile and two hashes, the profile, or the
    profile and the parameter set. -/
def AuxForm : Program → Bytes → Prop
  | .p256, aux => aux.length = 65 ∧ aux.head? = some profileV1
  | .mldsa65, aux => aux = [profileV1]
  | .slhdsa, aux => aux = [profileV1, slhDsaSha2128s]

instance (program : Program) (aux : Bytes) : Decidable (AuxForm program aux) :=
  match program with
  | .p256 => inferInstanceAs (Decidable (_ ∧ _))
  | .mldsa65 => inferInstanceAs (Decidable (_ = _))
  | .slhdsa => inferInstanceAs (Decidable (_ = _))

/-- The checks of an adapter that come before it looks at the proof. -/
def fixedChecksAdapter (algorithm : UInt16) (aux bytes : Bytes) :
    Outcome Exit VerifierRequest := do
  let request ← (VerifierRequest.parse bytes).mapErr (fun _ => Exit.malformedRequest)
  rejectIf (request.algorithmId ≠ algorithm) .unsupportedAlgorithm
  rejectIf (request.verifierProfile ≠ profileV1) .unsupportedProfile
  rejectIf (request.aux ≠ aux) .auxMismatch
  return request

/-- The checks that do not depend on the proof. -/
def fixedChecks : Program → Bytes → Outcome Exit VerifierRequest
  | .p256, bytes => do
      let request ← (VerifierRequest.parse bytes).mapErr (fun _ => Exit.malformedRequest)
      rejectIf (request.algorithmId ≠ algP256Webauthn) .unsupportedAlgorithm
      rejectIf (request.verifierProfile ≠ profileV1) .unsupportedProfile
      rejectIf (request.aux.length ≠ 65) .auxMismatch
      rejectIf ((← byteAt request.aux 0) ≠ profileV1) .auxMismatch
      return request
  | .mldsa65, bytes => fixedChecksAdapter algMldsa65 [profileV1] bytes
  | .slhdsa, bytes => fixedChecksAdapter algSlhdsa [profileV1, slhDsaSha2128s] bytes

section Verify

variable (ckbHash : Bytes → Byte32) (prims : Primitives)

/-- The checks of an adapter on the proof. -/
def proofChecksAdapter (scheme : Scheme) (request : VerifierRequest) : Outcome Exit Unit := do
  let proof ← (CkbProofWire.parsePublicKeyProof request.proof).mapErr
    (fun _ => Exit.malformedProof)
  rejectIf (ckbHash proof.publicKey ≠ request.keyId) .keyIdMismatch
  let key ← okOr .malformedKey (scheme.decodeKey proof.publicKey)
  let signature ← okOr .malformedProof (scheme.decodeSignature proof.signature)
  rejectIf (¬ scheme.verify key request.authorizationDigest.val signature) .invalidProof

/-- The checks on the proof. -/
def proofChecks : Program → VerifierRequest → Outcome Exit Unit
  | .p256, request => do
      let proof ← CkbProofWire.parseProof request.proof
      checkPasskey ckbHash prims request proof
      checkPasskeySignature prims proof
  | .mldsa65, request => proofChecksAdapter ckbHash prims.mldsa65 request
  | .slhdsa, request => proofChecksAdapter ckbHash prims.slhdsa request

end Verify

/-- **A verifier is its two halves**, one after the other. -/
theorem verify_eq (ckbHash : Bytes → Byte32) (prims : Primitives) (program : Program)
    (bytes : Bytes) :
    program.verify ckbHash prims bytes
      = fixedChecks program bytes >>= proofChecks ckbHash prims program := by
  cases program with
  | p256 =>
      simp only [Program.verify, verifyP256, fixedChecks, Outcome.bind_assoc, pure_eq, ok_bind]
      rfl
  | mldsa65 =>
      simp only [Program.verify, verifyMldsa, verifyAdapter, fixedChecks, fixedChecksAdapter,
        Outcome.bind_assoc, pure_eq, ok_bind]
      rfl
  | slhdsa =>
      simp only [Program.verify, verifySlhdsa, verifyAdapter, fixedChecks, fixedChecksAdapter,
        Outcome.bind_assoc, pure_eq, ok_bind]
      rfl

theorem fixedChecksAdapter_eq_ok {algorithm : UInt16} {aux bytes : Bytes}
    {request : VerifierRequest} :
    fixedChecksAdapter algorithm aux bytes = .ok request
      ↔ VerifierRequest.parse bytes = .ok request ∧ request.algorithmId = algorithm
        ∧ request.verifierProfile = profileV1 ∧ request.aux = aux := by
  rw [fixedChecksAdapter, bind_eq_ok]
  simp only [mapErr_eq_ok, rejectIf_bind_eq_ok, not_not, pure_eq, Outcome.ok.injEq]
  constructor
  · rintro ⟨r, hparse, halg, hprofile, haux, rfl⟩
    exact ⟨hparse, halg, hprofile, haux⟩
  · rintro ⟨hparse, halg, hprofile, haux⟩
    exact ⟨request, hparse, halg, hprofile, haux, rfl⟩

/-- What the first half lets through. -/
theorem fixedChecks_eq_ok {program : Program} {bytes : Bytes} {request : VerifierRequest} :
    fixedChecks program bytes = .ok request
      ↔ VerifierRequest.parse bytes = .ok request ∧ request.algorithmId = algorithm program
        ∧ request.verifierProfile = profileV1 ∧ AuxForm program request.aux := by
  cases program with
  -- the two adapters share their checks; the passkey verifier has its own
  | mldsa65 => exact fixedChecksAdapter_eq_ok
  | slhdsa => exact fixedChecksAdapter_eq_ok
  | p256 =>
      rw [fixedChecks]
      constructor
      · intro h
        obtain ⟨r, hparse, h⟩ := bind_eq_ok.mp h
        obtain ⟨halg, h⟩ := rejectIf_bind_eq_ok.mp h
        obtain ⟨hprofile, h⟩ := rejectIf_bind_eq_ok.mp h
        obtain ⟨hlen, h⟩ := rejectIf_bind_eq_ok.mp h
        obtain ⟨byte, hbyte, h⟩ := bind_eq_ok.mp h
        obtain ⟨hfirst, h⟩ := rejectIf_bind_eq_ok.mp h
        cases h
        rw [byteAt_eq_ok, ← List.head?_eq_getElem?, not_not.mp hfirst] at hbyte
        exact ⟨mapErr_eq_ok.mp hparse, not_not.mp halg, not_not.mp hprofile,
          not_not.mp hlen, hbyte⟩
      · rintro ⟨hparse, halg, hprofile, hlen, hfirst⟩
        have halg : request.algorithmId = algP256Webauthn := halg
        rw [List.head?_eq_getElem?] at hfirst
        have hbyte : (byteAt request.aux 0 : Outcome Exit UInt8) = .ok profileV1 :=
          byteAt_eq_ok.mpr hfirst
        rw [hparse, mapErr_ok, ok_bind, rejectIf_neg (not_not.mpr halg), ok_bind,
          rejectIf_neg (not_not.mpr hprofile), ok_bind, rejectIf_neg (not_not.mpr hlen),
          ok_bind, hbyte, ok_bind, rejectIf_neg (not_not.mpr rfl)]
        rfl

/-- Aux data of the expected form starts with the profile and is short. -/
theorem AuxForm.bounds {program : Program} {aux : Bytes} (h : AuxForm program aux) :
    aux.head? = some profileV1 ∧ aux.length ≤ verifierMaxAuxLen := by
  cases program with
  | p256 =>
      refine ⟨h.2, ?_⟩
      rw [h.1]
      decide
  | mldsa65 =>
      cases h
      exact ⟨rfl, by decide⟩
  | slhdsa =>
      cases h
      exact ⟨rfl, by decide⟩

/-! ## Entries the bundled verifiers serve -/

/-- Every request AccountLock builds for the entry, whatever the operation, digest and
    proof, passes the proof-independent checks of the verifier for its algorithm. -/
def Served (e : AuthenticatorEntry) : Prop :=
  ∀ program, algorithm program = e.algorithmId →
    ∀ (operation : UInt8) (digest : Byte32) (proof : Bytes), IsOperation operation →
      proof.length ≤ verifierMaxProofLen →
      ∃ bytes request, encodeRequest e operation digest proof = .ok bytes
        ∧ fixedChecks program bytes = .ok request

/-- An entry with aux data of the right form is served by its verifier. -/
theorem fixedChecks_of_auxForm {e : AuthenticatorEntry} (hs : Supported e) {program : Program}
    (halg : algorithm program = e.algorithmId) (haux : AuxForm program e.aux)
    {operation : UInt8} (digest : Byte32) {proof : Bytes} (hop : IsOperation operation)
    (hproof : proof.length ≤ verifierMaxProofLen) :
    ∃ bytes request, encodeRequest e operation digest proof = .ok bytes
      ∧ RequestFor e operation digest proof request ∧ fixedChecks program bytes = .ok request := by
  obtain ⟨hhead, hlen⟩ := haux.bounds
  obtain ⟨bytes, hbytes⟩ : ∃ bytes, encodeRequest e operation digest proof = .ok bytes :=
    (encodeRequest_of_supported hs).mpr ⟨hop, hlen, hproof⟩
  obtain ⟨request, hfor, hwf, hlayout⟩ := encodeRequest_eq_ok.mp hbytes
  refine ⟨bytes, request, hbytes, hfor, fixedChecks_eq_ok.mpr ⟨?_, ?_, ?_, ?_⟩⟩
  · exact VerifierRequest.parse_eq_ok.mpr ⟨hlayout, hwf⟩
  · rw [hfor.algorithmId, halg]
  · have hprofile := hfor.profile
    rw [hhead] at hprofile
    exact (Option.some.inj hprofile).symm
  · rw [hfor.aux]
    exact haux

/-- What a passed request says about its entry. -/
theorem auxForm_of_fixedChecks {e : AuthenticatorEntry} {program : Program} {operation : UInt8}
    {digest : Byte32} {proof bytes : Bytes} {request : VerifierRequest}
    (hbytes : encodeRequest e operation digest proof = .ok bytes)
    (hchecks : fixedChecks program bytes = .ok request) :
    e.algorithmId = algorithm program ∧ AuxForm program e.aux := by
  obtain ⟨r, hfor, hwf, hlayout⟩ := encodeRequest_eq_ok.mp hbytes
  obtain ⟨hparse, halg, -, hform⟩ := fixedChecks_eq_ok.mp hchecks
  -- the parsed request is the one that was encoded
  rw [VerifierRequest.parse_eq_ok.mpr ⟨hlayout, hwf⟩] at hparse
  cases hparse
  rw [← hfor.algorithmId, ← hfor.aux]
  exact ⟨halg, hform⟩

/-- **A supported entry is served exactly when its aux data has the form its verifier
    expects.** -/
theorem served_iff {e : AuthenticatorEntry} (hs : Supported e) :
    Served e ↔ ∀ program, algorithm program = e.algorithmId → AuxForm program e.aux := by
  constructor
  · intro h program halg
    obtain ⟨bytes, request, hbytes, hchecks⟩ :=
      h program halg opSpend (filled32 0) [] (by decide) (by decide)
    exact (auxForm_of_fixedChecks hbytes hchecks).2
  · intro h program halg operation digest proof hop hproof
    obtain ⟨bytes, request, hbytes, -, hchecks⟩ :=
      fixedChecks_of_auxForm hs halg (h program halg) digest hop hproof
    exact ⟨bytes, request, hbytes, hchecks⟩

/-! ## What is left to the configuration -/

/-- The entries AccountLock reads off a state. -/
def InState (b : Bytes) (e : AuthenticatorEntry) : Prop :=
  ∃ header summary entries, validateState b = .ok (header, summary)
    ∧ parseAuthenticators collect b header [] = .ok entries ∧ e ∈ entries

theorem inState_iff {b : Bytes} {header : StateHeader} {es : List AuthenticatorEntry}
    (hv : ValidState b header es) {e : AuthenticatorEntry} : InState b e ↔ e ∈ es := by
  constructor
  · rintro ⟨header', summary, entries, hvalid, hentries, he⟩
    obtain ⟨es', hv', -⟩ := validateState_eq_ok.mp hvalid
    obtain ⟨rfl, rfl⟩ := hv.unique hv'
    rw [hv.collect_eq] at hentries
    cases hentries
    exact he
  · intro he
    exact ⟨header, _, es, validateState_eq_ok.mpr ⟨es, hv, rfl⟩, hv.collect_eq, he⟩

/-- The form of the aux data that `to_authenticator` leaves unchecked. -/
def AuthenticatorConfig.BundledAux (c : AuthenticatorConfig) : Prop :=
  ∀ aux, parseHex "aux" c.aux = .ok aux →
    (c.algorithmId = algP256Webauthn → aux.head? = some profileV1)
    ∧ (c.algorithmId = algMldsa65 → aux = [profileV1])
    ∧ (c.algorithmId = algSlhdsa → aux = [profileV1, slhDsaSha2128s])

theorem bundledAux_iff {c : AuthenticatorConfig} {auth : Authenticator}
    (h : c.toAuthenticator = .ok auth) :
    c.BundledAux
      ↔ ∀ program, algorithm program = auth.algorithmId → AuxForm program auth.aux := by
  obtain ⟨haux, halg, hlen⟩ := toAuthenticator_eq_ok h
  constructor
  · intro hb program hprogram
    obtain ⟨hp256, hmldsa, hslhdsa⟩ := hb auth.aux haux
    rw [halg] at hprogram
    cases program with
    | p256 => exact ⟨hlen hprogram.symm, hp256 hprogram.symm⟩
    | mldsa65 => exact hmldsa hprogram.symm
    | slhdsa => exact hslhdsa hprogram.symm
  · intro hforms aux hparse
    rw [haux] at hparse
    cases hparse
    refine ⟨fun hp => ?_, fun hm => ?_, fun hs => ?_⟩
    · exact (hforms .p256 (hp.symm.trans halg.symm)).2
    · exact hforms .mldsa65 (hm.symm.trans halg.symm)
    · exact hforms .slhdsa (hs.symm.trans halg.symm)

/-- The entries of an encoded configuration, one for each configured authenticator. -/
theorem served_entries_iff {c : AccountStateConfig} {b : Bytes} (h : c.encode = .ok b) :
    (∀ e, InState b e → Served e) ↔ ∀ a ∈ c.authenticators, a.BundledAux := by
  obtain ⟨auths, hauths, header, hv⟩ := encode_eq_ok h
  constructor
  · intro hserved a ha
    obtain ⟨auth, hauth, hto⟩ := StepRun.exists_mem_of_forall₂ hauths a ha
    have he : auth.entry ∈ auths.map Authenticator.entry := List.mem_map.mpr ⟨auth, hauth, rfl⟩
    have hs := hserved _ ((inState_iff hv).mpr he)
    exact (bundledAux_iff hto).mpr ((served_iff (hv.supported _ he)).mp hs)
  · intro hb e he
    rw [inState_iff hv] at he
    obtain ⟨auth, hauth, rfl⟩ := List.mem_map.mp he
    obtain ⟨a, ha, hto⟩ := StepRun.exists_mem_of_forall₂ hauths.flip auth hauth
    exact (served_iff (hv.supported _ he)).mpr ((bundledAux_iff hto).mp (hb a ha))

/-- The threshold of an operation the state allows is within the weight that can sign
    for it. -/
theorem threshold_le {b : Bytes} {header : StateHeader} {es : List AuthenticatorEntry}
    (hv : ValidState b header es) {operation : UInt8} {capability threshold : UInt16}
    (hcap : capabilityForOperation operation = .ok capability)
    (hthr : CkbAccountLock.thresholdFor header operation = .ok threshold)
    (hrec : operation = opRecovery → recoveryEnabled header = true) :
    threshold.toNat ≤ capWeight capability es := by
  rcases (capabilityForOperation_eq_ok_iff operation).mp ⟨_, hcap⟩ with rfl | rfl | rfl
  · cases hcap
    cases hthr
    exact hv.policy.spend_le
  · cases hcap
    cases hthr
    exact hv.policy.rotate_le
  · cases hcap
    cases hthr
    exact (hv.policy.recovery_on (hrec rfl)).2

/-- Whether a bundled verifier is for the algorithm of the entry. -/
def bundled (e : AuthenticatorEntry) : Bool :=
  [Program.p256, .mldsa65, .slhdsa].any fun program => algorithm program == e.algorithmId

/-- The weight of a capability is that of two kinds of holders together. -/
theorem capWeight_filter (capability : UInt16) (kind : AuthenticatorEntry → Bool)
    (es : List AuthenticatorEntry) :
    capWeight capability es
      = capWeight capability (es.filter kind) + capWeight capability (es.filter (! kind ·)) := by
  induction es with
  | nil => rfl
  | cons e es ih =>
      rw [capWeight_cons, ih]
      cases hkind : kind e with
      | true =>
          rw [List.filter_cons_of_pos hkind, List.filter_cons_of_neg (by simp [hkind]),
            capWeight_cons, Nat.add_assoc]
      | false =>
          rw [List.filter_cons_of_neg (by simp [hkind]), List.filter_cons_of_pos (by simp [hkind]),
            capWeight_cons, Nat.add_left_comm]

/-- **When a configuration fails closed.**  Every authenticator of an encoded
    configuration is served by its bundled verifier exactly when the aux data that
    `to_authenticator` leaves unchecked has the form that verifier expects.  Then every holder
    whose verifier is bundled has a proof that is accepted, as soon as the checks on the proof
    can be satisfied; and the threshold is within the weight of these holders and of those
    whose verifier is not bundled. -/
theorem config_served_iff (c : AccountStateConfig) (b : Bytes) (h : c.encode = .ok b) :
    ((∀ e, InState b e → Served e) ↔ ∀ a ∈ c.authenticators, a.BundledAux)
    ∧ ((∀ a ∈ c.authenticators, a.BundledAux) →
      ∀ (ckbHash : Bytes → Byte32) (prims : Primitives) (header : StateHeader)
        (summary : StateSummary) (entries : List AuthenticatorEntry) (operation : UInt8)
        (capability threshold : UInt16) (digest : Byte32),
        validateState b = .ok (header, summary) →
        parseAuthenticators collect b header [] = .ok entries →
        capabilityForOperation operation = .ok capability →
        CkbAccountLock.thresholdFor header operation = .ok threshold →
        (operation = opRecovery → recoveryEnabled header = true) →
        (∀ e ∈ entries.filter bundled, holds e capability = true →
          ∃ program proof, algorithm program = e.algorithmId
            ∧ proof.length ≤ verifierMaxProofLen
            ∧ ∀ request, RequestFor e operation digest proof request →
              proofChecks ckbHash prims program request = .ok ()) →
        threshold.toNat ≤ capWeight capability entries
        ∧ capWeight capability entries = capWeight capability (entries.filter bundled)
            + capWeight capability (entries.filter (! bundled ·))
        ∧ ∀ e ∈ entries.filter bundled, holds e capability = true →
          ∃ program proof bytes, encodeRequest e operation digest proof = .ok bytes
            ∧ Program.verify ckbHash prims program bytes = .ok ()) := by
  refine ⟨served_entries_iff h, ?_⟩
  intro hb ckbHash prims header summary entries operation capability threshold digest hvalid
    hentries hcap hthr hrec hsigners
  obtain ⟨es, hv, -⟩ := validateState_eq_ok.mp hvalid
  rw [hv.collect_eq] at hentries
  cases hentries
  refine ⟨threshold_le hv hcap hthr hrec, capWeight_filter capability bundled _, ?_⟩
  intro e hbundled hholds
  -- the holder signs with its own program, whose fixed checks the state passed
  obtain ⟨program, proof, halg, hproof, hchecks⟩ := hsigners e hbundled hholds
  have he := List.mem_of_mem_filter hbundled
  have hs := hv.supported e he
  have hserved := (served_entries_iff h).mpr hb e ((inState_iff hv).mpr he)
  obtain ⟨bytes, request, hbytes, hfor, hfixed⟩ := fixedChecks_of_auxForm hs halg
    ((served_iff hs).mp hserved program halg) digest
    ((capabilityForOperation_eq_ok_iff operation).mp ⟨_, hcap⟩) hproof
  refine ⟨program, proof, bytes, hbytes, ?_⟩
  rw [verify_eq, hfixed, ok_bind]
  exact hchecks request hfor

/-- A configuration with one ML-DSA-65 key and the given aux data. -/
def soleConfig (aux : String) : AccountStateConfig where
  flags := 0
  sequence := 0
  spendThreshold := 1
  rotateThreshold := 1
  recoveryThreshold := 0
  recoverySince := 0
  authenticators := [{
    slot := 0
    algorithmId := algMldsa65
    capabilities := capSpend ||| capRotate
    weight := 1
    verifierHashType := 1
    verifierAbi := verifierAbiV1
    verifierCodeHash := "0x2222222222222222222222222222222222222222222222222222222222222222"
    keyId := "0x3333333333333333333333333333333333333333333333333333333333333333"
    aux := aux }]

/-- The authenticator of such a configuration. -/
def soleAuthenticator (aux : Bytes) : Authenticator where
  slot := 0
  algorithmId := algMldsa65
  capabilities := capSpend ||| capRotate
  weight := 1
  verifierHashType := 1
  verifierAbi := verifierAbiV1
  verifierCodeHash := filled32 0x22
  keyId := filled32 0x33
  aux := aux

/-- The state such a configuration encodes to. -/
def soleConfigState (aux : Bytes) : AccountState where
  flags := 0
  sequence := 0
  spendThreshold := 1
  rotateThreshold := 1
  recoveryThreshold := 0
  recoverySince := 0
  authenticators := [soleAuthenticator aux]

/-- With the profile byte as aux data the key is served. -/
theorem soleConfig_01_served :
    ∃ b, (soleConfig "0x01").encode = .ok b ∧ ∀ e, InState b e → Served e := by
  have henc : (soleConfig "0x01").encode
      = .ok ((soleConfigState [1]).header.layout ++ entriesLayout (soleConfigState [1]).entries) := by
    decide +kernel
  have hb : ∀ a ∈ (soleConfig "0x01").authenticators, a.BundledAux := by
    intro a ha aux haux
    rw [List.mem_singleton.mp ha] at haux ⊢
    have hparse : parseHex "aux" "0x01" = .ok [1] := by decide +kernel
    rw [show parseHex "aux" "0x01" = .ok aux from haux] at hparse
    cases hparse
    exact ⟨fun _ => rfl, fun _ => rfl, fun h => absurd h (by decide)⟩
  exact ⟨_, henc, (config_served_iff _ _ henc).1.mpr hb⟩

/-- **A configuration that encodes and locks its account for good**: the aux byte is not
    the profile the ML-DSA verifier knows, so no proof for the only key is ever accepted,
    by any of the three verifiers. -/
theorem soleConfig_02_locked :
    ∃ b, (soleConfig "0x02").encode = .ok b
      ∧ ¬ (∀ e, InState b e → Served e)
      ∧ ∀ e, InState b e → ∀ (ckbHash : Bytes → Byte32) (prims : Primitives)
          (program : Program) (operation : UInt8) (digest : Byte32) (proof bytes : Bytes),
          encodeRequest e operation digest proof = .ok bytes →
          program.verify ckbHash prims bytes ≠ .ok () := by
  -- the encoder accepts the configuration, as it never looks at the aux
  have henc : (soleConfig "0x02").encode
      = .ok ((soleConfigState [2]).header.layout ++ entriesLayout (soleConfigState [2]).entries) := by
    decide +kernel
  have hstate : encodeState (soleConfigState [2])
      = .ok ((soleConfigState [2]).header.layout ++ entriesLayout (soleConfigState [2]).entries) := by
    decide +kernel
  have hv := decodeState_eq_ok.mp (encodeState_eq_ok_iff_decodeState.mp hstate)
  have hsole : (soleAuthenticator [2]).entry ∈ (soleConfigState [2]).entries :=
    List.mem_singleton.mpr rfl
  refine ⟨_, henc, ?_, ?_⟩
  · intro hserved
    have hforms := (served_iff (hv.supported _ hsole)).mp
      (hserved _ ((inState_iff hv).mpr hsole))
    exact absurd (hforms .mldsa65 rfl) (by decide)
  · intro e he ckbHash prims program operation digest proof bytes hbytes hok
    rw [inState_iff hv] at he
    cases List.mem_singleton.mp he
    rw [verify_eq] at hok
    obtain ⟨request, hchecks, -⟩ := bind_eq_ok.mp hok
    obtain ⟨halg, hform⟩ := auxForm_of_fixedChecks hbytes hchecks
    -- one program takes the algorithm, and that one refuses the aux
    cases program with
    | p256 => exact absurd halg (by decide)
    | mldsa65 => exact absurd hform (by decide)
    | slhdsa => exact absurd halg (by decide)

end CkbHostConfig
