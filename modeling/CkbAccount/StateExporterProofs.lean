import CkbAccount.DemoServiceProofs
import CkbAccount.FaultRunProofs
import CkbAccount.HostConfigProofs
import CkbAccount.SpendVerdictProofs

/-! # From a passkey to the state of its account

    `demo/src/server/state-exporter.ts` writes an account configuration to a temporary
    directory, has the host crate encode it, and reads the bytes back.  Three programs meet
    here: the server writes the configuration, `crates/host/examples/export_account_state.rs`
    reads and encodes it, and the browser will read the result at fixed offsets.

    * `AccountStateConfig.deserialize`: what serde reads;
    * `exportAccountState`: the code of the server, over calls that may fail;
    * `deserialize_accountConfiguration`, `encode_passkeyConfig`: the host encodes the server's
      configuration to the bytes that the browser knows;
    * `exportAccountState_exports`: whichever calls fail, nothing else is returned and nothing
      is left behind;
    * `exportAccountState_guarded`: what is asked of the machine, whatever it answers. -/

namespace CkbStateExporter

open RustOutcome Outcome Process FaultRun CkbProtocol CkbBrowserCodec CkbSchemas CkbHostConfig
open CkbDemoService CkbHostState CkbStatePolicy
open CkbSpend (textEncode webauthnBinding spendState)
open CkbSpend (relyingPartyHash originHash)

/-! ## The calls -/

/-- A path, from the root on. -/
abbrev Path := List String

/-- The options of `spawn`. -/
structure SpawnProcessOptions where
  cwd : String
  env : List (String × String)

/-- The calls of `createExporterDeps`; children are started without a shell. -/
inductive Op where
  | mkdtemp (template : Path)
  | chmod (path : Path) (mode : Nat)
  | writeFile (path : Path) (data : String) (mode : Nat) (flag : String)
  | spawnProcess (command : String) (args : List String) (options : SpawnProcessOptions)
  | readFile (path : Path)
  | removeDir (path : Path)

/-- Of a finished process only its exit code is looked at. -/
def Op.Result : Op → Type
  | .mkdtemp _ => String
  | .spawnProcess _ _ _ => Int
  | .readFile _ => Bytes
  | _ => Unit

/-- Code with the variables `σ`. -/
abbrev Task (σ α : Type) := Code (Fallible Op.Result Unit) σ Thrown α

/-- A call; what it fails with is no `ApiError`. -/
def perform {σ : Type} (op : Op) : Task σ op.Result := Code.call (fun _ => Thrown.other) op

/-! ## The code -/

/-- What the code uses of `node:path` and `node:os`: the path behind a text, the text of a
    path, and the directory for temporary files. -/
structure Platform where
  resolve : String → Path
  text : Path → String
  tmpdir : String

/-- What `exportAccountState` is given, and the functions of other packages that it uses. -/
structure ExporterDeps where
  platform : Platform
  ccc : Ccc
  sha256 : Bytes → Byte32
  stringify : Json → String
  repoRoot : String
  deployment : Json
  processEnv : List (String × String)

/-- `TEMP_DIRECTORY_PREFIX`. -/
def tempDirectoryPrefix : String := "ckb-passkey-state-"

/-- The characters outside ASCII that JavaScript capitalizes to ASCII letters: dotless i, long
    s, sharp s and the ligatures. -/
def asciiCapitals : List (Char × List Char) := [
  ('\u0131', ['I']), ('\u017f', ['S']), ('\u00df', ['S', 'S']),
  ('\ufb00', ['F', 'F']), ('\ufb01', ['F', 'I']), ('\ufb02', ['F', 'L']),
  ('\ufb03', ['F', 'F', 'I']), ('\ufb04', ['F', 'F', 'L']),
  ('\ufb05', ['S', 'T']), ('\ufb06', ['S', 'T'])]

/-- `toUpperCase`, as far as a comparison with ASCII text can see: the capitals of any other
    character outside ASCII have a character outside ASCII, as it has itself. -/
def toUpperCase (text : String) : String :=
  String.ofList (text.toList.flatMap fun c => (asciiCapitals.lookup c).getD [c.toUpper])

/-- `sanitizedEnvironment`. -/
def sanitizedEnvironment (env : List (String × String)) : List (String × String) :=
  env.filter fun entry => toUpperCase entry.1 ≠ "CKB_PRIVKEY"

section Code

variable (deps : ExporterDeps)

/-- `sha256Hex`. -/
def sha256Hex (value : String) : String :=
  String.ofList ((deps.sha256 (textEncode value)).val.flatMap hexByte)

/-- `accountConfiguration`. -/
def accountConfiguration (request : BootstrapRequest) (deployment : DeploymentManifest) :
    Outcome JsError Json := do
  let keyId := hexFromBytes (deps.ccc.hashCkb (← bytesFromHex request.publicKey))
  let aux := "0x01" ++ sha256Hex deps rpId ++ sha256Hex deps clientOrigin
  return .object [
    ("flags", .number 1),
    ("sequence", .number 0),
    ("spend_threshold", .number 1),
    ("rotate_threshold", .number 1),
    ("recovery_threshold", .number 1),
    ("recovery_since", .number 0),
    ("authenticators", .array [.object [
      ("slot", .number 0),
      ("algorithm_id", .number 1),
      ("capabilities", .number 7),
      ("weight", .number 1),
      ("verifier_hash_type", .number 0),
      ("verifier_abi", .number 1),
      ("verifier_code_hash", .string deployment.verifierP256.dataHash),
      ("key_id", .string keyId),
      ("aux", .string aux)]])]

/-- `throw new ApiError("BOOTSTRAP_FAILED", 500, "Account state export failed")`. -/
def exportFailed : Thrown := apiError .bootstrapFailed 500 "Account state export failed"

/-- `safeTemporaryDirectory`. -/
def safeTemporaryDirectory (path : String) : Except Thrown Path :=
  let resolved := deps.platform.resolve path
  let basename := resolved.getLast?.getD ""
  if resolved.dropLast ≠ deps.platform.resolve deps.platform.tmpdir
      ∨ !tempDirectoryPrefix.toList.isPrefixOf basename.toList then .error exportFailed
  else .ok resolved

/-- `makeTempDir`. -/
def makeTempDir {σ : Type} : Task σ String := do
  let directory : String ←
    perform (.mkdtemp (deps.platform.resolve deps.platform.tmpdir ++ [tempDirectoryPrefix]))
  perform (.chmod (deps.platform.resolve directory) 0o700)
  return directory

/-- The arguments that make cargo run the example. -/
def cargoArgs (configPath outputPath : Path) : List String :=
  ["run", "-q", "-p", "ckb-account-host", "--example", "export_account_state", "--",
    deps.platform.text configPath, deps.platform.text outputPath]

/-- The `try` block of `exportAccountState`; its variable is `directory`. -/
def exportInto (request : BootstrapRequest) (deployment : DeploymentManifest) :
    Task (Option Path) Bytes := do
  let made ← makeTempDir deps
  let directory ← Code.of (safeTemporaryDirectory deps made)
  Code.assign fun _ => some directory
  let configPath := directory ++ ["account.json"]
  let outputPath := directory ++ ["state.bin"]
  let config ← Code.of <| match accountConfiguration deps request deployment with
    | .ok config => .ok config
    | _ => .error Thrown.other
  perform (.writeFile configPath (deps.stringify config ++ "\n") 0o600 "wx")
  let exitCode : Int ← perform (.spawnProcess "cargo" (cargoArgs deps configPath outputPath)
    { cwd := deps.repoRoot, env := sanitizedEnvironment deps.processEnv })
  Code.when (exitCode ≠ 0) (Code.throw exportFailed)
  let output : Bytes ← perform (.readFile outputPath)
  Code.when (output.length = 0) (Code.throw exportFailed)
  return output

/-- The `finally` block. -/
def removeDirectory : Task (Option Path) Unit := do
  match ← Code.locals with
  | some directory => perform (.removeDir directory)
  | none => pure ()

/-- `exportAccountState`. -/
def exportAccountState (requestValue : Json) : Task Unit Bytes := do
  let request ← Code.of <| match bootstrapRequestSchema requestValue with
    | some request => .ok request
    | none => .error (apiError .invalidRequest 400 "Invalid account bootstrap request")
  let deployment ← Code.of <| match deploymentManifestSchema deps.deployment with
    | some deployment => .ok deployment
    | none => .error (apiError .deploymentInvalid 500 "Testnet deployment is invalid")
  Code.scope none <| Code.tryFinally
    (Code.tryCatch (exportInto deps request deployment) fun error =>
      Code.throw (rethrowApi exportFailed error))
    removeDirectory

end Code

/-! ## The example of the host crate -/

/-- The fields of a struct with derived `Deserialize`, as serde documents it, in the order of its
    declaration: an object has each of them once, and may have others; an array has just them. -/
def structFields (names : List String) : Json → Option (List Json)
  | .object members => names.mapM fun name =>
      match members.filter fun m => m.1 == name with
      | [m] => some m.2
      | _ => none
  | .array items => if items.length = names.length then some items else none
  | _ => none

/-- An unsigned integer below a bound. -/
def unsigned (bound : Nat) : Json → Option Nat
  | .number n => if 0 ≤ n ∧ n < bound then some n.toNat else none
  | _ => none

/-- `u8`. -/
def u8 (v : Json) : Option UInt8 := (unsigned (2 ^ 8) v).map UInt8.ofNat

/-- `u16`. -/
def u16 (v : Json) : Option UInt16 := (unsigned (2 ^ 16) v).map UInt16.ofNat

/-- `u64`. -/
def u64 (v : Json) : Option UInt64 := (unsigned (2 ^ 64) v).map UInt64.ofNat

/-- `impl Deserialize for AuthenticatorConfig`. -/
def AuthenticatorConfig.deserialize (v : Json) : Option AuthenticatorConfig := do
  match ← structFields ["slot", "algorithm_id", "capabilities", "weight", "verifier_hash_type",
    "verifier_abi", "verifier_code_hash", "key_id", "aux"] v with
  | [slot, algorithmId, capabilities, weight, hashType, abi, codeHash, keyId, aux] =>
      return {
        slot := ← u16 slot
        algorithmId := ← u16 algorithmId
        capabilities := ← u16 capabilities
        weight := ← u16 weight
        verifierHashType := ← u8 hashType
        verifierAbi := ← u8 abi
        verifierCodeHash := ← codeHash.text fun _ => true
        keyId := ← keyId.text fun _ => true
        aux := ← aux.text fun _ => true }
  | _ => none

/-- `impl Deserialize for AccountStateConfig`. -/
def AccountStateConfig.deserialize (v : Json) : Option AccountStateConfig := do
  match ← structFields ["flags", "sequence", "spend_threshold", "rotate_threshold",
    "recovery_threshold", "recovery_since", "authenticators"] v with
  | [flags, sequence, spend, rotate, recovery, since, .array authenticators] =>
      return {
        flags := ← u8 flags
        sequence := ← u64 sequence
        spendThreshold := ← u16 spend
        rotateThreshold := ← u16 rotate
        recoveryThreshold := ← u16 recovery
        recoverySince := ← u64 since
        authenticators := ← authenticators.mapM AuthenticatorConfig.deserialize }
  | _ => none

/-- What is at a path. -/
inductive Entry where
  | directory
  | file (content : Bytes)

/-- The files and directories that the exporter can see. -/
abbrev Disk := Path → Option Entry

namespace Disk

/-- A path with something new at it. -/
def put (disk : Disk) (path : Path) (entry : Entry) : Disk :=
  fun q => if q = path then some entry else disk q

/-- `rm(path, { recursive: true, force: true })`. -/
def remove (disk : Disk) (path : Path) : Disk :=
  fun q => if path <+: q then none else disk q

/-- `readFile`. -/
def readFile (disk : Disk) (path : Path) : Except Unit Bytes :=
  match disk path with
  | some (.file content) => .ok content
  | _ => .error ()

/-- `writeFile` with the flag `wx`: the file must be new, and its directory must be there. -/
def writeNew (disk : Disk) (path : Path) (content : Bytes) : Except Unit Disk :=
  match disk path, disk path.dropLast with
  | none, some .directory => .ok (disk.put path (.file content))
  | _, _ => .error ()

/-- `fs::write`: the file is created or overwritten. -/
def write (disk : Disk) (path : Path) (content : Bytes) : Except Unit Disk :=
  match disk path, disk path.dropLast with
  | some .directory, _ => .error ()
  | _, some .directory => .ok (disk.put path (.file content))
  | _, _ => .error ()

end Disk

/-- The `main` of `export_account_state.rs`, on its arguments: its exit code, and the disk when it
    exits.  `fromStr` is `fs::read_to_string` and `serde_json::from_str` on the content of a
    file. -/
def exportAccountStateExample (fromStr : Bytes → Option Json) (resolve : String → Path)
    (args : List String) (disk : Disk) : Int × Disk :=
  match args with
  | configPath :: outputPath :: _ =>
      match disk.readFile (resolve configPath) with
      | .ok source =>
          match (fromStr source).bind AccountStateConfig.deserialize with
          | some config =>
              match config.encode with
              | .ok encoded =>
                  match disk.write (resolve outputPath) encoded with
                  | .ok written => (0, written)
                  | .error _ => (1, disk)
              | .err _ => (1, disk)
              | .abort => (101, disk)
          | none => (1, disk)
      | .error _ => (1, disk)
  | _ => (2, disk)

/-! ## The machine -/

/-- The machine behind the calls: the directory that `mkdtemp` makes, and what a child does. -/
structure Machine where
  mkdtemp : Disk → String
  spawn : String → List String → SpawnProcessOptions → Disk → Int × Disk

/-- What the calls do.  Where `refuses` is set every call but `chmod` and `removeDir` may be
    refused. -/
def exporterEnv (platform : Platform) (machine : Machine) (refuses : Bool) :
    FaultRun.Env (Fallible Op.Result Unit) Disk where
  respond
    | .mkdtemp _, disk =>
        (.ok (machine.mkdtemp disk), disk.put (platform.resolve (machine.mkdtemp disk)) .directory)
    | .chmod _ _, disk => (.ok (), disk)
    | .writeFile path data _ _, disk =>
        match disk.writeNew path (textEncode data) with
        | .ok written => (.ok (), written)
        | .error _ => (.error (), disk)
    | .spawnProcess command args options, disk =>
        let out := machine.spawn command args options disk
        (.ok out.1, out.2)
    | .readFile path, disk => (disk.readFile path, disk)
    | .removeDir path, disk => (.ok (), disk.remove path)
  refusal
    | .chmod _ _ => none
    | .removeDir _ => none
    | _ => if refuses then some (.error ()) else none

/-! ## Hex text on the other side -/

/-- The bytes of plain text. -/
theorem utf8_ofList {cs : List Char} (h : ∀ c ∈ cs, c.toNat < 128) :
    utf8 (String.ofList cs) = cs.map fun c => UInt8.ofNat c.toNat := by
  show cs.utf8Encode.data.toList = _
  induction cs with
  | nil => rfl
  | cons c cs ih =>
      have hsize : c.utf8Size = 1 := by
        have hc := h c List.mem_cons_self
        rw [Char.utf8Size_eq_one_iff, UInt32.le_iff_toNat_le]
        show c.toNat ≤ 127
        omega
      rw [List.utf8Encode_cons, List.utf8Encode_singleton, String.utf8EncodeChar_eq_singleton hsize,
        ByteArray.data_append, Array.toList_append, ih fun d hd => h d (List.mem_cons_of_mem _ hd)]
      rfl
/-- A digit, as the host reads it. -/
theorem hexVal_digitChar {n : Nat} (h : n < 16) (index : Nat) :
    hexVal (UInt8.ofNat (Nat.digitChar n).toNat) index = .ok (UInt8.ofNat n) := by
  have hall : ∀ n < 16, (UInt8.ofNat (Nat.digitChar n).toNat ≤ 0x39
      ∧ 0x30 ≤ UInt8.ofNat (Nat.digitChar n).toNat
      ∧ UInt8.ofNat (Nat.digitChar n).toNat - 0x30 = UInt8.ofNat n)
    ∨ (0x61 ≤ UInt8.ofNat (Nat.digitChar n).toNat ∧ UInt8.ofNat (Nat.digitChar n).toNat ≤ 0x66
      ∧ UInt8.ofNat (Nat.digitChar n).toNat - 0x61 + 10 = UInt8.ofNat n) := by decide
  rcases hall n h with ⟨h1, h2, h3⟩ | ⟨h1, h2, h3⟩
  · rw [hexVal, if_neg, if_neg, if_pos ⟨h2, h1⟩, h3]
    · exact fun hc => absurd (UInt8.le_trans hc.1 h1) (by decide)
    · exact fun hc => absurd (UInt8.le_trans hc.1 h1) (by decide)
  · rw [hexVal, if_neg, if_pos ⟨h1, h2⟩, h3]
    exact fun hc => absurd (UInt8.le_trans h1 hc.2) (by decide)

/-- The digits of bytes, as the host reads them. -/
theorem hexPairs_flatMap (bytes : Bytes) (index : Nat) :
    hexPairs index ((bytes.flatMap hexByte).map fun c => UInt8.ofNat c.toNat) = .ok bytes := by
  induction bytes generalizing index with
  | nil => rfl
  | cons byte bytes ih =>
      have hbyte := byte.toNat_lt
      have hjoin : ∀ b : UInt8, UInt8.ofNat (b.toNat / 16) <<< 4 ||| UInt8.ofNat (b.toNat % 16) = b := by
        have hall : ∀ n < 256, UInt8.ofNat (n / 16) <<< 4 ||| UInt8.ofNat (n % 16) = UInt8.ofNat n := by
          decide +kernel
        intro b
        rw [hall b.toNat b.toNat_lt, UInt8.ofNat_toNat]
      rw [List.flatMap_cons, hexByte_eq]
      simp only [List.cons_append, List.nil_append, List.map_cons, hexPairs]
      rw [hexVal_digitChar (by omega), ok_bind, hexVal_digitChar (by omega), ok_bind, ih, ok_bind, hjoin]
      rfl

/-- **The host reads the hex text of the demo.** -/
theorem parseHex_hexFromBytes (field : String) (bytes : Bytes) :
    parseHex field (hexFromBytes bytes) = .ok bytes := by
  have htext : hexFromBytes bytes = String.ofList ('0' :: 'x' :: bytes.flatMap hexByte) := by
    rw [← hexFromBytes_toList, String.ofList_toList]
  have hascii : ∀ c ∈ '0' :: 'x' :: bytes.flatMap hexByte, c.toNat < 128 := by
    intro c hc
    rcases List.mem_cons.mp hc with rfl | hc
    · decide
    · rcases List.mem_cons.mp hc with rfl | hc
      · decide
      · have hdigit := List.all_eq_true.mp (all_flatMap_hexByte bytes) c hc
        simp only [isHexDigit, Bool.or_eq_true, Bool.and_eq_true, decide_eq_true_eq] at hdigit
        omega
  have hstrip : strip0x (utf8 (hexFromBytes bytes))
      = (bytes.flatMap hexByte).map fun c => UInt8.ofNat c.toNat := by
    rw [htext, utf8_ofList hascii]
    rfl
  have heven : ¬ ((bytes.flatMap hexByte).map fun c => UInt8.ofNat c.toNat).length % 2 ≠ 0 := by
    rw [List.length_map, flatMap_hexByte_length]
    omega
  rw [parseHex, hstrip, hexDecode, rejectIf_neg heven, ok_bind, hexPairs_flatMap]
  rfl

theorem parseHash_hexFromBytes (field : String) (hash : Byte32) :
    parseHash field (hexFromBytes hash.val) = .ok hash := by
  rw [parseHash, parseHex_hexFromBytes, ok_bind]
  exact dif_pos hash.property

/-! ## The configuration of a passkey -/

/-- The configuration of an account with one passkey. -/
def passkeyConfig (verifier keyId : Byte32) : AccountStateConfig where
  flags := 1
  sequence := 0
  spendThreshold := 1
  rotateThreshold := 1
  recoveryThreshold := 1
  recoverySince := 0
  authenticators := [{
    slot := 0
    algorithmId := 1
    capabilities := 7
    weight := 1
    verifierHashType := 0
    verifierAbi := 1
    verifierCodeHash := hexFromBytes verifier.val
    keyId := hexFromBytes keyId.val
    aux := hexFromBytes webauthnBinding }]

/-- The authenticator in it. -/
def passkeyAuthenticator (verifier keyId : Byte32) : Authenticator where
  slot := 0
  algorithmId := 1
  capabilities := 7
  weight := 1
  verifierHashType := 0
  verifierAbi := 1
  verifierCodeHash := verifier
  keyId := keyId
  aux := webauthnBinding

theorem toAuthenticator_passkey (verifier keyId : Byte32) :
    toAuthenticators (passkeyConfig verifier keyId).authenticators
      = .ok [passkeyAuthenticator verifier keyId] := by
  have hne : ¬ webauthnBinding.isEmpty = true := by
    intro hnil
    have hlen := CkbSpend.webauthnBinding_length
    rw [List.isEmpty_iff.mp hnil] at hlen
    cases hlen
  rw [passkeyConfig, toAuthenticators, AuthenticatorConfig.toAuthenticator]
  rw [rejectIf_neg (show ¬ (1 : UInt8) ≠ verifierAbiV1 by decide), ok_bind,
    rejectIf_neg (show ¬ (0 : UInt8) > 1 by decide), ok_bind,
    rejectIf_neg (show ¬ (7 : UInt16) &&& ~~~capKnownMask ≠ 0 by decide), ok_bind,
    rejectIf_neg (show ¬ (1 : UInt16) = 0 by decide), ok_bind,
    parseHex_hexFromBytes, ok_bind, rejectIf_neg hne, ok_bind,
    rejectIf_neg (by rw [CkbSpend.webauthnBinding_length]; simp), ok_bind, parseHash_hexFromBytes,
    ok_bind, parseHash_hexFromBytes, ok_bind]
  rfl

/-- **The host encodes it to the state the browser knows.** -/
theorem encode_passkeyConfig (verifier keyId : Byte32) :
    (passkeyConfig verifier keyId).encode = .ok (spendState 0 verifier keyId) := by
  have hv := CkbSpend.validState_spendState 0 verifier keyId
  have hweight : ∀ capability, (7 : UInt16) &&& capability ≠ 0 →
    availableWeight [passkeyAuthenticator verifier keyId] capability = 1 := by
    intro capability hholds
    have hkeep : [passkeyAuthenticator verifier keyId].filter
        (fun auth => auth.capabilities &&& capability ≠ 0) = [passkeyAuthenticator verifier keyId] :=
      List.filter_eq_self.mpr fun a ha => by
        rw [List.mem_singleton.mp ha]
        exact decide_eq_true hholds
    rw [availableWeight, hkeep]
    rfl
  -- one authenticator of weight one meets a threshold of one, for each capability
  have hsat : ∀ label capability, (7 : UInt16) &&& capability ≠ 0 →
      requireSatisfiable label 1 [passkeyAuthenticator verifier keyId] capability = .ok () := by
    intro label capability hholds
    rw [requireSatisfiable, rejectIf_neg (by decide), ok_bind, hweight capability hholds]
    exact rejectIf_neg (by decide) _
  -- the encoder is the inverse of the decoder on a valid state
  have hencoded : encodeState {
      flags := 1
      sequence := 0
      spendThreshold := 1
      rotateThreshold := 1
      recoveryThreshold := 1
      recoverySince := 0
      authenticators := [passkeyAuthenticator verifier keyId] }
      = .ok (spendState 0 verifier keyId) :=
    encodeState_eq_ok_iff_decodeState.mpr (decodeState_eq_ok.mpr hv)
  have hrecovers : (passkeyConfig verifier keyId).flags &&& stateFlagRecoveryEnabled ≠ 0 := by
    show (1 : UInt8) &&& stateFlagRecoveryEnabled ≠ 0
    decide
  rw [AccountStateConfig.encode, toAuthenticator_passkey]
  refine rejectIf_bind_eq_ok.mpr ⟨fun hne => hne rfl, rejectIf_bind_eq_ok.mpr ⟨?_, ?_⟩⟩
  · show ¬ (1 : UInt8) &&& ~~~stateFlagsKnownMask ≠ 0
    decide
  refine rejectIf_bind_eq_ok.mpr ⟨Bool.false_ne_true, rejectIf_bind_eq_ok.mpr ⟨?_, ?_⟩⟩
  · show ¬ 1 > authenticatorMaxCount
    decide
  -- then the three thresholds, and last the check of the encoded state
  refine bind_eq_ok.mpr ⟨_, rfl, unit_bind_eq_ok.mpr ⟨rfl, ?_⟩⟩
  refine unit_bind_eq_ok.mpr ⟨hsat _ _ (by decide), unit_bind_eq_ok.mpr ⟨hsat _ _ (by decide), ?_⟩⟩
  refine unit_bind_eq_ok.mpr ⟨(if_pos hrecovers).trans (hsat _ _ (by decide)), ?_⟩
  refine bind_eq_ok.mpr ⟨_, mapErr_eq_ok.mpr hencoded, ?_⟩
  exact bind_eq_ok.mpr ⟨_, mapErr_eq_ok.mpr (validateState_eq_ok.mpr ⟨_, hv, rfl⟩), rfl⟩

/-- The binding, as the server writes it. -/
theorem aux_text {deps : ExporterDeps}
    (hparty : deps.sha256 (textEncode rpId) = relyingPartyHash)
    (horigin : deps.sha256 (textEncode clientOrigin) = originHash) :
    "0x01" ++ sha256Hex deps rpId ++ sha256Hex deps clientOrigin = hexFromBytes webauthnBinding := by
  have hversion : hexByte 1 = ['0', '1'] := by decide
  apply String.toList_inj.mp
  simp only [sha256Hex, hparty, horigin, String.toList_append, String.toList_ofList,
    hexFromBytes_toList, CkbSpend.webauthnBinding_bytes, List.flatMap_cons, List.flatMap_append,
    hversion]
  rfl

/-- **The server's configuration is read as the one of this passkey.** -/
theorem deserialize_accountConfiguration {deps : ExporterDeps} {ckbHash : Bytes → Byte32}
    (hccc : deps.ccc.Follows ckbHash)
    (hparty : deps.sha256 (textEncode rpId) = relyingPartyHash)
    (horigin : deps.sha256 (textEncode clientOrigin) = originHash) {request : BootstrapRequest}
    {deployment : DeploymentManifest} {publicKey : Bytes} {verifier : Byte32}
    (hkey : bytesFromHex request.publicKey = .ok publicKey)
    (hverifier : deployment.verifierP256.dataHash = hexFromBytes verifier.val) :
    ∃ config, accountConfiguration deps request deployment = .ok config
      ∧ AccountStateConfig.deserialize config
        = some (passkeyConfig verifier (ckbHash publicKey)) := by
  refine ⟨_, bind_eq_ok.mpr ⟨publicKey, hkey, rfl⟩, ?_⟩
  rw [passkeyConfig, hccc.hash, hverifier, aux_text hparty horigin]
  generalize hexFromBytes verifier.val = codeHash
  generalize hexFromBytes (ckbHash publicKey).val = keyId
  generalize hexFromBytes webauthnBinding = aux
  rfl

/-! ## A run -/

/-- The directory that `mkdtemp` makes. -/
def madeDirectory (deps : ExporterDeps) (machine : Machine) (disk : Disk) : Path :=
  deps.platform.resolve (machine.mkdtemp disk)

/-- Away from the temporary directory, and from what cargo builds, nothing has changed. -/
def Beside (directory : Path) (build : Path → Prop) (disk s : Disk) : Prop :=
  ∀ q, ¬ directory <+: q → ¬ build q → s q = disk q

/-- The child that the code starts for a directory. -/
def exporterChild (deps : ExporterDeps) (machine : Machine) (directory : Path) (s : Disk) :
    Int × Disk :=
  machine.spawn "cargo"
    (cargoArgs deps (directory ++ ["account.json"]) (directory ++ ["state.bin"]))
    { cwd := deps.repoRoot, env := sanitizedEnvironment deps.processEnv } s

/-- The example on the two paths in a directory. -/
def exampleIn (deps : ExporterDeps) (fromStr : Bytes → Option Json) (directory : Path) (s : Disk) :
    Int × Disk :=
  exportAccountStateExample fromStr deps.platform.resolve
    [deps.platform.text (directory ++ ["account.json"]),
      deps.platform.text (directory ++ ["state.bin"])] s

/-- A machine that does what the calls are for: `mkdtemp` makes a directory of its own, texts
    lead back to their paths, and cargo runs the example.  Cargo may also write what it builds,
    at the paths `build`, which are not in the temporary directory. -/
structure Machine.Serves (machine : Machine) (deps : ExporterDeps) (fromStr : Bytes → Option Json)
    (build : Path → Prop) (disk : Disk) : Prop where
  parent : (madeDirectory deps machine disk).dropLast
    = deps.platform.resolve deps.platform.tmpdir
  named : ∃ name suffix, (madeDirectory deps machine disk).getLast? = some name
    ∧ name.toList = tempDirectoryPrefix.toList ++ suffix
  fresh : ∀ q, madeDirectory deps machine disk <+: q → disk q = none
  apart : ∀ q, madeDirectory deps machine disk <+: q → ¬ build q
  paths : ∀ name ∈ ["account.json", "state.bin"],
    deps.platform.resolve (deps.platform.text
        (madeDirectory deps machine disk ++ [name]))
      = madeDirectory deps machine disk ++ [name]
  exits : ∀ s, Beside (madeDirectory deps machine disk) build disk s →
    (exporterChild deps machine (madeDirectory deps machine disk) s).1
      = (exampleIn deps fromStr (madeDirectory deps machine disk) s).1
  writes : ∀ s, Beside (madeDirectory deps machine disk) build disk s → ∀ q, ¬ build q →
    (exporterChild deps machine (madeDirectory deps machine disk) s).2 q
      = (exampleIn deps fromStr (madeDirectory deps machine disk) s).2 q

section Run

variable {deps : ExporterDeps} {machine : Machine} {refuses : Bool} {disk : Disk}

/-- A call that is not refused is answered. -/
theorem answer_cases (platform : Platform) (machine : Machine) (refuses fails : Bool) (op : Op)
    (s : Disk) :
    (exporterEnv platform machine refuses).answer fails op s
        = (exporterEnv platform machine refuses).respond op s
      ∨ refuses = true
        ∧ (exporterEnv platform machine refuses).answer fails op s = (.error (), s) := by
  cases fails with
  | false => exact .inl rfl
  | true =>
      cases refuses with
      | false => cases op <;> exact .inl rfl
      | true =>
          cases op with
          | chmod path mode => exact .inl rfl
          | removeDir path => exact .inl rfl
          | mkdtemp template => exact .inr ⟨rfl, rfl⟩
          | writeFile path data mode flag => exact .inr ⟨rfl, rfl⟩
          | spawnProcess command args options => exact .inr ⟨rfl, rfl⟩
          | readFile path => exact .inr ⟨rfl, rfl⟩

/-- The rule for calls: what the answer establishes, and what holds if there is none. -/
theorem meets_perform {σ : Type} {op : Op} {P E : σ → Disk → Prop}
    {Q : op.Result → σ → Disk → Prop}
    (hdone : ∀ l s, P l s → ∃ a s',
      (exporterEnv deps.platform machine refuses).respond op s = (.ok a, s') ∧ Q a l s')
    (hrefused : refuses = true → ∀ l s, P l s → E l s) :
    Code.Meets (exporterEnv deps.platform machine refuses) P (perform op) Q E := by
  refine Code.Meets.call fun l s h fails => ?_
  rcases answer_cases deps.platform machine refuses fails op s with
    hanswer | ⟨hrefuses, hanswer⟩
  · obtain ⟨a, s', hrespond, hQ⟩ := hdone l s h
    rw [hanswer, hrespond]
    exact hQ
  · rw [hanswer]
    exact hrefused hrefuses l s h

/-- The rule for `chmod` and `removeDir`, which are never refused. -/
theorem meets_certain {σ : Type} {op : Op} {P E : σ → Disk → Prop}
    {Q : op.Result → σ → Disk → Prop}
    (hcertain : ∀ fails s, (exporterEnv deps.platform machine refuses).answer fails op s
      = (exporterEnv deps.platform machine refuses).respond op s)
    (hdone : ∀ l s, P l s → ∃ a s',
      (exporterEnv deps.platform machine refuses).respond op s = (.ok a, s') ∧ Q a l s') :
    Code.Meets (exporterEnv deps.platform machine refuses) P (perform op) Q E := by
  refine Code.Meets.call fun l s h fails => ?_
  obtain ⟨a, s', hrespond, hQ⟩ := hdone l s h
  rw [hcertain, hrespond]
  exact hQ

theorem Beside.put {directory path : Path} {build : Path → Prop} {s : Disk}
    (h : Beside directory build disk s) (hbelow : directory <+: path) (entry : Entry) :
    Beside directory build disk (s.put path entry) := by
  intro q hq hbuild
  have hne : q ≠ path := fun heq => hq (heq ▸ hbelow)
  rw [Disk.put, if_neg hne]
  exact h q hq hbuild

/-- **Removing the directory brings the disk back**, up to what was built. -/
theorem Beside.remove {directory : Path} {build : Path → Prop} {s : Disk}
    (h : Beside directory build disk s) (hfresh : ∀ q, directory <+: q → disk q = none) :
    ∀ q, ¬ build q → s.remove directory q = disk q := by
  intro q hbuild
  by_cases hq : directory <+: q
  · rw [Disk.remove, if_pos hq, hfresh q hq]
  · rw [Disk.remove, if_neg hq, h q hq hbuild]

/-- The directory that `mkdtemp` makes passes the check of its name. -/
theorem safeTemporaryDirectory_eq_ok {fromStr : Bytes → Option Json} {build : Path → Prop}
    (h : machine.Serves deps fromStr build disk) :
    safeTemporaryDirectory deps (machine.mkdtemp disk)
      = .ok (madeDirectory deps machine disk) := by
  obtain ⟨name, suffix, hlast, hname⟩ := h.named
  rw [safeTemporaryDirectory]
  refine if_neg (not_or.mpr ⟨fun hne => hne h.parent, ?_⟩)
  have hlead : tempDirectoryPrefix.toList.isPrefixOf (tempDirectoryPrefix.toList ++ suffix) = true :=
    List.isPrefixOf_iff_prefix.mpr (List.prefix_append _ suffix)
  have hbasename : (deps.platform.resolve (machine.mkdtemp disk)).getLast?.getD "" = name := by
    rw [show (deps.platform.resolve (machine.mkdtemp disk)).getLast? = some name from hlast]
    rfl
  rw [hbasename, hname, hlead]
  exact Bool.false_ne_true

/-- The disk after the configuration has been written. -/
def configured (deps : ExporterDeps) (machine : Machine) (config : Json) (disk : Disk) : Disk :=
  let directory := madeDirectory deps machine disk
  (disk.put directory .directory).put (directory ++ ["account.json"])
    (.file (textEncode (deps.stringify config ++ "\n")))

/-- **The example writes the state next to the configuration.** -/
theorem example_exports {fromStr : Bytes → Option Json} {build : Path → Prop}
    (h : machine.Serves deps fromStr build disk) {config : Json} {verifier keyId : Byte32}
    (hread : fromStr (textEncode (deps.stringify config ++ "\n")) = some config)
    (hconfig : AccountStateConfig.deserialize config = some (passkeyConfig verifier keyId)) :
    let directory := madeDirectory deps machine disk
    exampleIn deps fromStr directory (configured deps machine config disk)
      = (0, (configured deps machine config disk).put (directory ++ ["state.bin"])
        (.file (spendState 0 verifier keyId))) := by
  intro directory
  have hconfigPath : deps.platform.resolve (deps.platform.text (directory ++ ["account.json"]))
      = directory ++ ["account.json"] := h.paths _ (by decide)
  have houtputPath : deps.platform.resolve (deps.platform.text (directory ++ ["state.bin"]))
      = directory ++ ["state.bin"] := h.paths _ (by decide)
  have hsource : (configured deps machine config disk).readFile (directory ++ ["account.json"])
      = .ok (textEncode (deps.stringify config ++ "\n")) := by
    simp only [Disk.readFile, configured, Disk.put, directory, if_true]
  have hwritten : (configured deps machine config disk).write (directory ++ ["state.bin"])
        (spendState 0 verifier keyId)
      = .ok ((configured deps machine config disk).put (directory ++ ["state.bin"])
        (.file (spendState 0 verifier keyId))) := by
    have hvacant : configured deps machine config disk (directory ++ ["state.bin"]) = none := by
      simp [configured, Disk.put, directory, h.fresh _ (List.prefix_append _ _)]
    have hparent : configured deps machine config disk (directory ++ ["state.bin"]).dropLast
        = some .directory := by
      simp [configured, Disk.put, directory]
    simp only [Disk.write, hvacant, hparent]
  simp only [exampleIn, exportAccountStateExample, hconfigPath, houtputPath, hsource, hread,
    Option.bind_some, hconfig, encode_passkeyConfig, hwritten]

/-- Where the `try` block may have stopped. -/
def Stopped (deps : ExporterDeps) (machine : Machine) (build : Path → Prop) (disk : Disk)
    (l : Option Path) (s : Disk) : Prop :=
  (l = none ∧ s = disk)
    ∨ (l = some (madeDirectory deps machine disk)
      ∧ Beside (madeDirectory deps machine disk) build disk s)

/-- The directory has been made, and the variable does not hold it yet. -/
def Made (deps : ExporterDeps) (machine : Machine) (disk : Disk) (l : Option Path) (s : Disk) :
    Prop :=
  l = none ∧ s = disk.put (madeDirectory deps machine disk) .directory

/-- The child has left the state in the directory. -/
def Exported (deps : ExporterDeps) (machine : Machine) (build : Path → Prop) (disk : Disk)
    (state : Bytes) (l : Option Path) (s : Disk) : Prop :=
  l = some (madeDirectory deps machine disk)
    ∧ Beside (madeDirectory deps machine disk) build disk s
    ∧ s (madeDirectory deps machine disk ++ ["state.bin"]) = some (.file state)

section Calls

variable {fromStr : Bytes → Option Json} {build : Path → Prop}

/-- The new directory is all that is new. -/
theorem made_beside : Beside (madeDirectory deps machine disk) build disk
    (disk.put (madeDirectory deps machine disk) .directory) :=
  Beside.put (fun _ _ _ => rfl) (List.prefix_refl _) _

theorem configured_beside (config : Json) : Beside (madeDirectory deps machine disk) build disk
    (configured deps machine config disk) :=
  made_beside.put (List.prefix_append _ _) _

/-- **The directory**: it is made and named, or the call was refused. -/
theorem meets_makeTempDir :
    Code.Meets (exporterEnv deps.platform machine refuses) (fun l s => l = none ∧ s = disk)
      (makeTempDir deps)
      (fun made l s => Made deps machine disk l s ∧ made = machine.mkdtemp disk)
      (fun l s => refuses = true ∧ Stopped deps machine build disk l s) := by
  refine Code.Meets.bind (R := fun made l s => Made deps machine disk l s
    ∧ made = machine.mkdtemp disk) (meets_perform ?_ ?_) fun made => ?_
  · rintro l s ⟨rfl, rfl⟩
    exact ⟨_, _, rfl, ⟨rfl, rfl⟩, rfl⟩
  · intro hrefuses l s hstart
    exact ⟨hrefuses, .inl hstart⟩
  · refine Code.Meets.bind (R := fun _ l s => Made deps machine disk l s
      ∧ made = machine.mkdtemp disk) (meets_certain (fun fails s => by cases fails <;> rfl)
        fun l s hl => ⟨(), s, rfl, hl⟩) fun _ => Code.Meets.pure fun _ _ hl => hl

/-- **The configuration** is written to a new file in the directory. -/
theorem meets_writeConfig (h : machine.Serves deps fromStr build disk) (config : Json) :
    Code.Meets (exporterEnv deps.platform machine refuses)
      (fun l s => l = some (madeDirectory deps machine disk)
        ∧ s = disk.put (madeDirectory deps machine disk) .directory)
      (perform (.writeFile (madeDirectory deps machine disk ++ ["account.json"])
        (deps.stringify config ++ "\n") 0o600 "wx"))
      (fun _ l s => l = some (madeDirectory deps machine disk)
        ∧ s = configured deps machine config disk)
      (fun l s => refuses = true ∧ Stopped deps machine build disk l s) := by
  refine meets_perform ?_ ?_
  · rintro l s ⟨rfl, rfl⟩
    refine ⟨(), _, ?_, rfl, rfl⟩
    have hvacant : disk.put (madeDirectory deps machine disk) .directory
        (madeDirectory deps machine disk ++ ["account.json"]) = none := by
      simp [Disk.put, h.fresh _ (List.prefix_append _ _)]
    have hparent : disk.put (madeDirectory deps machine disk) .directory
        (madeDirectory deps machine disk ++ ["account.json"]).dropLast
          = some .directory := by
      simp [Disk.put]
    simp only [exporterEnv, Disk.writeNew, hvacant, hparent]
    rfl
  · rintro hrefuses l s ⟨rfl, rfl⟩
    exact ⟨hrefuses, .inr ⟨rfl, made_beside⟩⟩

/-- **The child** exits with 0 and leaves the state, if the configuration is the passkey's. -/
theorem meets_spawnExporter (h : machine.Serves deps fromStr build disk) {config : Json}
    {verifier keyId : Byte32}
    (hread : fromStr (textEncode (deps.stringify config ++ "\n")) = some config)
    (hconfig : AccountStateConfig.deserialize config = some (passkeyConfig verifier keyId)) :
    Code.Meets (exporterEnv deps.platform machine refuses)
      (fun l s => l = some (madeDirectory deps machine disk)
        ∧ s = configured deps machine config disk)
      (perform (.spawnProcess "cargo"
        (cargoArgs deps (madeDirectory deps machine disk ++ ["account.json"])
          (madeDirectory deps machine disk ++ ["state.bin"]))
        { cwd := deps.repoRoot, env := sanitizedEnvironment deps.processEnv }))
      (fun (exitCode : Int) l s =>
        Exported deps machine build disk (spendState 0 verifier keyId) l s ∧ exitCode = 0)
      (fun l s => refuses = true ∧ Stopped deps machine build disk l s) := by
  have hbeside : Beside (madeDirectory deps machine disk) build disk
      (configured deps machine config disk) := configured_beside config
  -- the exporter was run on the same configuration in `Serves`
  have hexample := example_exports h hread hconfig
  have hexit := h.exits _ hbeside
  have hleft := h.writes _ hbeside
  rw [hexample] at hexit hleft
  refine meets_perform ?_ ?_
  · rintro l s ⟨rfl, rfl⟩
    refine ⟨(0 : Int), _, Prod.ext (congrArg Except.ok hexit) rfl, ⟨rfl, ?_, ?_⟩, rfl⟩
    · intro q hq hbuild
      refine (hleft q hbuild).trans ?_
      exact (hbeside.put (List.prefix_append _ _) _) q hq hbuild
    · -- the state lies in the private directory, where the build writes nothing
      refine (hleft _ (h.apart _ (List.prefix_append _ _))).trans ?_
      simp only [Disk.put, if_true]
  · rintro hrefuses l s ⟨rfl, rfl⟩
    exact ⟨hrefuses, .inr ⟨rfl, hbeside⟩⟩

/-- **The state** is read back. -/
theorem meets_readState (state : Bytes) :
    Code.Meets (exporterEnv deps.platform machine refuses)
      (Exported deps machine build disk state)
      (perform (.readFile (madeDirectory deps machine disk ++ ["state.bin"])))
      (fun (output : Bytes) l s => Stopped deps machine build disk l s ∧ output = state)
      (fun l s => refuses = true ∧ Stopped deps machine build disk l s) := by
  refine meets_perform ?_ ?_
  · rintro l s ⟨rfl, hbeside, hfile⟩
    refine ⟨state, s, ?_, .inr ⟨rfl, hbeside⟩, rfl⟩
    simp only [exporterEnv, Disk.readFile, hfile]
    rfl
  · rintro hrefuses l s ⟨rfl, hbeside, -⟩
    exact ⟨hrefuses, .inr ⟨rfl, hbeside⟩⟩

/-- **The `try` block**: it returns the state of the passkey, or a call was refused; and the
    variable holds the directory from the moment there is one. -/
theorem meets_exportInto (h : machine.Serves deps fromStr build disk)
    {request : BootstrapRequest} {deployment : DeploymentManifest} {config : Json}
    {verifier keyId : Byte32}
    (hwritten : accountConfiguration deps request deployment = .ok config)
    (hread : fromStr (textEncode (deps.stringify config ++ "\n")) = some config)
    (hconfig : AccountStateConfig.deserialize config = some (passkeyConfig verifier keyId)) :
    Code.Meets (exporterEnv deps.platform machine refuses)
      (fun l s => l = none ∧ s = disk)
      (exportInto deps request deployment)
      (fun bytes l s => bytes = spendState 0 verifier keyId ∧ Stopped deps machine build disk l s)
      (fun l s => refuses = true ∧ Stopped deps machine build disk l s) := by
  rw [exportInto]
  refine Code.Meets.bind meets_makeTempDir fun made => Code.Meets.of_fact fun hname => ?_
  subst hname
  refine Code.Meets.bind (R := fun directory l s => Made deps machine disk l s
    ∧ directory = madeDirectory deps machine disk) ?_ fun directory =>
      Code.Meets.of_fact fun hdirectory => ?_
  · rw [safeTemporaryDirectory_eq_ok h]
    exact fun l s hl => ⟨hl, rfl⟩
  subst hdirectory
  refine Code.Meets.bind (R := fun _ l s =>
    l = some (madeDirectory deps machine disk)
      ∧ s = disk.put (madeDirectory deps machine disk) .directory)
    (Code.Meets.assign fun l s hl => ⟨rfl, hl.2⟩) fun _ => ?_
  -- the configuration is computed, not asked for
  refine Code.Meets.bind (R := fun value l s =>
    (l = some (madeDirectory deps machine disk)
      ∧ s = disk.put (madeDirectory deps machine disk) .directory)
      ∧ value = config) ?_ fun value => Code.Meets.of_fact fun hvalue => ?_
  · rw [hwritten]
    exact fun l s hl => ⟨hl, rfl⟩
  subst hvalue
  refine Code.Meets.bind (meets_writeConfig h value) fun _ => ?_
  refine Code.Meets.bind (meets_spawnExporter h hread hconfig) fun exitCode =>
    Code.Meets.of_fact fun hexit => ?_
  subst hexit
  refine Code.Meets.bind
    (R := fun _ => Exported deps machine build disk (spendState 0 verifier keyId))
    (Code.Meets.when (fun hne => absurd rfl hne) fun _ _ _ hl => hl) fun _ => ?_
  refine Code.Meets.bind (meets_readState _) fun output => Code.Meets.of_fact fun houtput => ?_
  subst houtput
  refine Code.Meets.bind (R := fun _ l s => Stopped deps machine build disk l s)
    (Code.Meets.when (fun hempty => ?_) fun _ _ _ hl => hl) fun _ =>
      Code.Meets.pure fun l s hl => ⟨rfl, hl⟩
  -- a state is never empty
  rw [CkbSpend.spendState_length] at hempty
  cases hempty

/-- The `finally` block takes away what there is. -/
theorem meets_removeDirectory (h : machine.Serves deps fromStr build disk) {F : Prop}
    {E : Option Path → Disk → Prop} :
    Code.Meets (exporterEnv deps.platform machine refuses)
      (fun l s => F ∧ Stopped deps machine build disk l s) removeDirectory
      (fun _ _ s => F ∧ ∀ q, ¬ build q → s q = disk q) E := by
  refine Code.Meets.bind (R := fun directory l s => F ∧ Stopped deps machine build disk l s
    ∧ directory = l) (Code.Meets.locals fun l s hl => ⟨hl.1, hl.2, rfl⟩) fun directory => ?_
  cases directory with
  | none =>
      refine Code.Meets.pure fun l s hl => ⟨hl.1, ?_⟩
      rcases hl.2.1 with ⟨-, hs⟩ | ⟨hsome, -⟩
      · exact fun q _ => congrFun hs q
      · cases hsome.symm.trans hl.2.2.symm
  | some directory =>
      refine meets_certain (fun fails s => by cases fails <;> rfl) fun l s hl => ?_
      refine ⟨(), _, rfl, hl.1, ?_⟩
      rcases hl.2.1 with ⟨hnone, -⟩ | ⟨hsome, hbeside⟩
      · cases hnone.symm.trans hl.2.2.symm
      · cases hl.2.2.trans hsome
        exact hbeside.remove h.fresh

end Calls

end Run

/-- The public key of a request is an uncompressed point. -/
theorem publicKey_of_request {v : Json} {request : BootstrapRequest}
    (h : bootstrapRequestSchema v = some request) :
    ∃ point : Bytes, point.length = 64 ∧ request.publicKey = hexFromBytes (4 :: point) := by
  simp only [bootstrapRequestSchema, Option.bind_eq_bind, Option.bind_eq_some_iff] at h
  obtain ⟨_, -, _, -, publicKey, hkey, _, -, _, -, h⟩ := h
  cases h
  have hlead : hexFromBytes [4] = "0x04" := by decide +kernel
  have hmatches : matchesHex (hexFromBytes [4]) (2 * 64) publicKey = true := by
    rw [hlead]
    exact CkbSpend.check_of_text hkey
  exact hex_of_matches hmatches

theorem artifactSchema_dataHash {name : String} {v : Json} {artifact : Artifact}
    (h : artifactSchema name v = some artifact) : isHash32 artifact.dataHash = true := by
  simp only [artifactSchema, Option.bind_eq_bind, Option.bind_eq_some_iff] at h
  obtain ⟨_, -, _, -, _, -, _, -, dataHash, hhash, _, -, _, -, _, -, _, -, _, -, _, -, _, -, _, -, h⟩ :=
    h
  cases h
  exact CkbSpend.check_of_text hhash

/-- The verifier of a deployment is named by its hash. -/
theorem verifier_of_deployment {v : Json} {deployment : DeploymentManifest}
    (h : deploymentManifestSchema v = some deployment) :
    ∃ verifier : Byte32, deployment.verifierP256.dataHash = hexFromBytes verifier.val := by
  simp only [deploymentManifestSchema, Option.bind_eq_bind, Option.bind_eq_some_iff] at h
  obtain ⟨_, -, _, -, _, -, _, -, _, -, _, -, _, -, _, -, _, -, _, -, _, -, _, -, _, -, _, -, _, -,
    artifact, hartifact, h⟩ := h
  cases h
  exact CkbSpend.byte32_of_isHash32 (artifactSchema_dataHash hartifact)

/-- **What an export leaves and returns.**  A valid request is exported on a machine that serves
    it, where any call but `chmod` and `removeDir` may be refused, any number of times.  The disk
    is as it was before, whatever happened, except for what cargo built.  What is returned is the
    state of one account with this passkey behind the deployed verifier, which the browser reads
    at its fixed offsets and AccountLock accepts as valid; and it is returned if no call is
    refused. -/
theorem exportAccountState_exports (deps : ExporterDeps) (ckbHash : Bytes → Byte32)
    (hccc : deps.ccc.Follows ckbHash)
    (hparty : deps.sha256 (textEncode rpId) = relyingPartyHash)
    (horigin : deps.sha256 (textEncode clientOrigin) = originHash)
    (fromStr : Bytes → Option Json) (requestValue : Json) (request : BootstrapRequest)
    (hrequest : bootstrapRequestSchema requestValue = some request)
    (deployment : DeploymentManifest)
    (hdeployment : deploymentManifestSchema deps.deployment = some deployment)
    (hread : ∀ config, accountConfiguration deps request deployment = .ok config →
      fromStr (textEncode (deps.stringify config ++ "\n")) = some config)
    (machine : Machine) (build : Path → Prop) (disk : Disk)
    (hserves : machine.Serves deps fromStr build disk) :
    ∃ publicKey verifier, bytesFromHex request.publicKey = .ok publicKey
      ∧ deployment.verifierP256.dataHash = hexFromBytes verifier.val
      ∧ (∃ header summary,
        validateState (spendState 0 verifier (ckbHash publicKey)) = .ok (header, summary))
      ∧ (∀ account, account.deployment.verifierP256Code.codeHash = hexFromBytes verifier.val →
        account.manifest.stateBytes = (spendState 0 verifier (ckbHash publicKey)).length →
        CkbSpend.parseAccountState (hexFromBytes (spendState 0 verifier (ckbHash publicKey))) account
          = .ok { sequence := 0, keyId := (ckbHash publicKey).val })
      ∧ ∀ refuses fails,
        let out := run (exporterEnv deps.platform machine refuses) fails 0 disk
          (exportAccountState deps requestValue ())
        (∀ q, ¬ build q → out.2 q = disk q)
          ∧ (∀ bytes, out.1.1 = .ok bytes → bytes = spendState 0 verifier (ckbHash publicKey))
          ∧ (refuses = false → out.1.1 = .ok (spendState 0 verifier (ckbHash publicKey))) := by
  obtain ⟨point, -, hkeyText⟩ := publicKey_of_request hrequest
  obtain ⟨verifier, hverifier⟩ := verifier_of_deployment hdeployment
  have hkey : bytesFromHex request.publicKey = .ok (4 :: point) := by
    rw [hkeyText]
    exact bytesFromHex_hexFromBytes (List.cons_ne_nil _ _)
  -- the tool reads the configuration as the one with this key and this verifier
  obtain ⟨config, hwritten, hconfig⟩ :=
    deserialize_accountConfiguration hccc hparty horigin hkey hverifier
  have hv := CkbSpend.validState_spendState 0 verifier (ckbHash (4 :: point))
  refine ⟨4 :: point, verifier, hkey, hverifier, ⟨_, _, validateState_eq_ok.mpr ⟨_, hv, rfl⟩⟩, ?_, ?_⟩
  · intro account hcode hsize
    rw [CkbSpend.spendState_length] at hsize
    exact CkbSpend.parseAccountState_spendState hsize hcode
  intro refuses fails out
  have hmeets : Code.Meets (exporterEnv deps.platform machine refuses) (fun _ s => s = disk)
      (exportAccountState deps requestValue)
      (fun bytes _ s => bytes = spendState 0 verifier (ckbHash (4 :: point))
        ∧ ∀ q, ¬ build q → s q = disk q)
      (fun _ s => refuses = true ∧ ∀ q, ¬ build q → s q = disk q) := by
    rw [exportAccountState, hrequest, hdeployment]
    -- both schemas pass, and nothing is touched before the directory is made
    refine Code.Meets.bind (R := fun value _ s => s = disk ∧ value = request)
      (fun l s hs => ⟨hs, rfl⟩) fun value => Code.Meets.of_fact fun hvalue => ?_
    subst hvalue
    refine Code.Meets.bind (R := fun value _ s => s = disk ∧ value = deployment)
      (fun l s hs => ⟨hs, rfl⟩) fun value' => Code.Meets.of_fact fun hvalue => ?_
    subst hvalue
    refine Code.Meets.scope fun l => ?_
    -- whatever `exportInto` leaves behind is under the directory that `finally` removes
    refine Code.Meets.tryFinally
      (R := fun bytes l s => bytes = spendState 0 verifier (ckbHash (4 :: point))
        ∧ Stopped deps machine build disk l s)
      (T := fun l s => refuses = true ∧ Stopped deps machine build disk l s) ?_ (fun bytes => ?_) ?_
    · refine Code.Meets.tryCatch (meets_exportInto hserves hwritten (hread config hwritten) hconfig)
        fun error => Code.Meets.throw fun _ _ hl => hl
    · exact meets_removeDirectory hserves
    · exact meets_removeDirectory hserves
  have hend : Ends (fun bytes _ s => bytes = spendState 0 verifier (ckbHash (4 :: point))
      ∧ ∀ q, ¬ build q → s q = disk q)
      (fun _ s => refuses = true ∧ ∀ q, ¬ build q → s q = disk q) out.1 out.2 :=
    Ensures.run fails (hmeets () disk rfl)
  obtain ⟨⟨result, locals⟩, left⟩ := out
  cases result with
  | ok bytes =>
      obtain ⟨rfl, hdisk⟩ := hend
      exact ⟨hdisk, fun _ h => (Except.ok.inj h).symm, fun _ => rfl⟩
  | error error =>
      obtain ⟨hrefuses, hdisk⟩ := hend
      refine ⟨hdisk, fun _ h => ?_, fun hnever => ?_⟩
      · cases h
      · rw [hrefuses] at hnever
        cases hnever

/-- The path behind a text without dots. -/
def sampleResolve (text : String) : Path :=
  ((text.toList.splitOn '/').filter (· ≠ [])).map String.ofList

/-- A platform with plain paths. -/
def samplePlatform : Platform where
  resolve := sampleResolve
  text path := String.ofList (path.flatMap fun name => '/' :: name.toList)
  tmpdir := "/tmp"

/-- `JSON.stringify(config, null, 2)` for the sample key. -/
def sampleText : String :=
  "\x7b\n"
    ++ "  \"flags\": 1,\n"
    ++ "  \"sequence\": 0,\n"
    ++ "  \"spend_threshold\": 1,\n"
    ++ "  \"rotate_threshold\": 1,\n"
    ++ "  \"recovery_threshold\": 1,\n"
    ++ "  \"recovery_since\": 0,\n"
    ++ "  \"authenticators\": [\n"
    ++ "    \x7b\n"
    ++ "      \"slot\": 0,\n"
    ++ "      \"algorithm_id\": 1,\n"
    ++ "      \"capabilities\": 7,\n"
    ++ "      \"weight\": 1,\n"
    ++ "      \"verifier_hash_type\": 0,\n"
    ++ "      \"verifier_abi\": 1,\n"
    ++ "      \"verifier_code_hash\": \"0x1111111111111111111111111111111111111111111111111111111111111111\",\n"
    ++ "      \"key_id\": \"0xd7ef93190b2298d3def2e6ecba04747ae5ca7ec7eb1a76e2138a588580440d64\",\n"
    ++ "      \"aux\": \"0x0149960de5880e8c687434170f6476605b8fe4aeb9a28632c7995cf3ba831d9763"
    ++ "4e90ec8f9d9b8d5bd3877ac003797738ff48419fcf8f97821a875ea4671955b6\"\n"
    ++ "    \x7d\n"
    ++ "  ]\n"
    ++ "\x7d"

/-- The CKB hash of the sample key. -/
def sampleKeyHash : Bytes → Byte32 :=
  CkbTransaction.tabulated [(4 :: List.replicate 64 0x11,
    byte32 0xd7ef93190b2298d3def2e6ecba04747ae5ca7ec7eb1a76e2138a588580440d64)]

/-- The dependencies with that platform and the hashes of one passkey. -/
def sampleDeps : ExporterDeps where
  platform := samplePlatform
  ccc := referenceCcc sampleKeyHash
  sha256 := CkbTransaction.tabulated [
    (textEncode rpId, relyingPartyHash), (textEncode clientOrigin, originHash)]
  stringify _ := sampleText
  repoRoot := "/srv/demo"
  deployment := sampleDeployment
  processEnv := [("PATH", "/usr/bin"), ("Ckb_PrivKey", "0x01"), ("ckb_pr\u0131vkey", "0x01")]

/-- Of these variables a child gets the path. -/
example : sanitizedEnvironment sampleDeps.processEnv = [("PATH", "/usr/bin")] := by decide +kernel

/-- What serde reads in that text. -/
def sampleFromStr (source : Bytes) : Option Json :=
  if source = textEncode (sampleText ++ "\n") then
    match accountConfiguration sampleDeps ⟨digits "0x04" 128, "AQIDBA"⟩ sampleService.deployment with
    | .ok config => some config
    | _ => none
  else none

/-- A machine on which cargo also leaves a program of its own. -/
def sampleMachine : Machine where
  mkdtemp _ := "/tmp/ckb-passkey-state-Xa91bC"
  spawn _ args _ disk :=
    let out := exportAccountStateExample sampleFromStr sampleResolve (args.drop 7) disk
    (out.1, out.2.put ["srv", "demo", "target", "export_account_state"] (.file [0x7f]))

/-- Where cargo builds. -/
def sampleBuild (path : Path) : Prop := ["srv", "demo", "target"] <+: path

/-- A disk with nothing but the directory for temporary files. -/
def sampleDisk : Disk := fun path => if path = ["tmp"] then some .directory else none

theorem sampleMachine_serves :
    sampleMachine.Serves sampleDeps sampleFromStr sampleBuild sampleDisk := by
  have hmade : madeDirectory sampleDeps sampleMachine sampleDisk
      = ["tmp", "ckb-passkey-state-Xa91bC"] := by decide +kernel
  refine ⟨?_, ?_, ?_, ?_, ?_, fun _ _ => rfl, fun s _ q hq => ?_⟩
  · rw [hmade]
    decide +kernel
  · rw [hmade]
    exact ⟨_, "Xa91bC".toList, rfl, by decide +kernel⟩
  · rw [hmade]
    rintro q ⟨rest, rfl⟩
    exact if_neg fun h => by cases h
  · rw [hmade]
    rintro q ⟨rest, rfl⟩ ⟨rest', h⟩
    exact absurd (List.cons.inj h).1 (by decide)
  · rw [hmade]
    decide +kernel
  · have hne : q ≠ ["srv", "demo", "target", "export_account_state"] := by
      rintro rfl
      exact hq ⟨["export_account_state"], rfl⟩
    exact if_neg hne

/-- **The sample passkey is exported**, and a refused call leaves nothing in the directory for
    temporary files. -/
theorem samplePasskey_exports :
    (∃ publicKey verifier, bytesFromHex (digits "0x04" 128) = .ok publicKey
      ∧ (run (exporterEnv sampleDeps.platform sampleMachine false) (fun _ => false) 0 sampleDisk
          (exportAccountState sampleDeps sampleRequest ())).1.1
        = .ok (spendState 0 verifier (sampleKeyHash publicKey)))
    ∧ ∀ q, ["tmp"] <+: q →
      (run (exporterEnv sampleDeps.platform sampleMachine true) (fun n => n == 3) 0 sampleDisk
        (exportAccountState sampleDeps sampleRequest ())).2 q = sampleDisk q := by
  have hrequest : bootstrapRequestSchema sampleRequest
      = some ⟨digits "0x04" 128, "AQIDBA"⟩ := by decide +kernel
  have hdeployment : deploymentManifestSchema sampleDeployment
      = some sampleService.deployment := by decide +kernel
  have hread : ∀ config, accountConfiguration sampleDeps ⟨digits "0x04" 128, "AQIDBA"⟩
      sampleService.deployment = .ok config →
        sampleFromStr (textEncode (sampleText ++ "\n")) = some config := by
    intro config hconfig
    rw [sampleFromStr, if_pos rfl, hconfig]
  obtain ⟨publicKey, verifier, hkey, -, -, -, hruns⟩ :=
    exportAccountState_exports sampleDeps sampleKeyHash (referenceCcc_follows sampleKeyHash)
      (by decide +kernel) (by decide +kernel) sampleFromStr sampleRequest _ hrequest _ hdeployment hread
      sampleMachine sampleBuild sampleDisk sampleMachine_serves
  obtain ⟨-, -, hexported⟩ := hruns false fun _ => false
  obtain ⟨hclean, -⟩ := hruns true fun n => n == 3
  refine ⟨⟨publicKey, verifier, hkey, hexported rfl⟩, fun q hq => hclean q ?_⟩
  rintro ⟨rest, rfl⟩
  obtain ⟨rest', h⟩ := hq
  exact absurd (List.cons.inj h).1 (by decide)

/-! ## What is asked of any machine -/

/-- A directory that `safeTemporaryDirectory` lets pass. -/
def Temporary (deps : ExporterDeps) (directory : Path) : Prop :=
  directory.dropLast = deps.platform.resolve deps.platform.tmpdir
    ∧ tempDirectoryPrefix.toList.isPrefixOf (directory.getLast?.getD "").toList = true

/-- The call that makes the directory. -/
def makeDirectory (deps : ExporterDeps) : Op :=
  .mkdtemp (deps.platform.resolve deps.platform.tmpdir ++ [tempDirectoryPrefix])

/-- The call that closes it to others. -/
def protectDirectory (deps : ExporterDeps) (made : String) : Op :=
  .chmod (deps.platform.resolve made) 0o700

/-- What may be asked between the making of a directory and its removal: a new file in it that
    only its owner may read; a child that is told of two files in it and gets every variable but
    those with the name of the key, in whatever case; and the state in it. -/
def Guarded (deps : ExporterDeps) (directory : Path) : Op → Prop
  | .writeFile path _ mode flag =>
      path = directory ++ ["account.json"] ∧ mode = 0o600 ∧ flag = "wx"
  | .spawnProcess command args options => command = "cargo"
      ∧ args = cargoArgs deps (directory ++ ["account.json"]) (directory ++ ["state.bin"])
      ∧ options.cwd = deps.repoRoot
      ∧ ∀ entry, entry ∈ options.env
          ↔ entry ∈ deps.processEnv ∧ toUpperCase entry.1 ≠ "CKB_PRIVKEY"
  | .readFile path => path = directory ++ ["state.bin"]
  | _ => False

/-- The call of cargo. -/
def Op.isSpawn : Op → Bool
  | .spawnProcess _ _ _ => true
  | _ => false

/-- A machine that answers as it likes, where the state is the list of calls so far. -/
def anyMachine (answers : (op : Op) → List Op → Fallible Op.Result Unit op) :
    FaultRun.Env (Fallible Op.Result Unit) (List Op) where
  respond op log := (answers op log, log ++ [op])
  refusal _ := none

section AnyMachine

variable (deps : ExporterDeps) (requestValue : Json)
  (answers : (op : Op) → List Op → Fallible Op.Result Unit op)

/-- `mkdtemp` was answered with this text. -/
def Obtained (made : String) : Prop := answers (makeDirectory deps) [] = .ok made

/-- The two calls with which every export begins. -/
def opening (made : String) : List Op := [makeDirectory deps, protectDirectory deps made]

/-- **How the calls of an export go.**  An invalid request or deployment asks for nothing.  If
    `mkdtemp` fails there is no directory.  If `chmod` fails, or the answer of `mkdtemp` is not a
    directory that the code would use, nothing else is asked, and what `mkdtemp` made stays.
    Otherwise there is one directory, every call is on it, and the last one removes it. -/
inductive Closed : List Op → Prop where
  | invalid (h : bootstrapRequestSchema requestValue = none
      ∨ deploymentManifestSchema deps.deployment = none) : Closed []
  | noDirectory (h : ∀ made, ¬ Obtained deps answers made) : Closed [makeDirectory deps]
  | unusable (made : String) (hmade : Obtained deps answers made)
      (h : answers (protectDirectory deps made) [makeDirectory deps] = .error ()
        ∨ ¬ Temporary deps (deps.platform.resolve made)) : Closed (opening deps made)
  | removed (made : String) (work : List Op) (hmade : Obtained deps answers made)
      (htemporary : Temporary deps (deps.platform.resolve made))
      (hguarded : ∀ op ∈ work, Guarded deps (deps.platform.resolve made) op)
      (hspawned : work.countP Op.isSpawn ≤ 1) :
      Closed (opening deps made ++ work ++ [.removeDir (deps.platform.resolve made)])

/-- The calls so far, when the variable holds the directory: all of them on it, with at most
    `spawns` children. -/
structure Working (spawns : Nat) (made : String) (l : Option Path) (log : List Op) : Prop where
  variable_eq : l = some (deps.platform.resolve made)
  obtained : Obtained deps answers made
  temporary : Temporary deps (deps.platform.resolve made)
  calls : ∃ work, log = opening deps made ++ work
    ∧ (∀ op ∈ work, Guarded deps (deps.platform.resolve made) op)
    ∧ work.countP Op.isSpawn ≤ spawns

/-- Where the `try` block may have stopped, on any machine. -/
def Paused (l : Option Path) (log : List Op) : Prop :=
  (l = none ∧ Closed deps requestValue answers log) ∨ ∃ made, Working deps answers 1 made l log

end AnyMachine

section AnyMachine

variable {deps : ExporterDeps} {requestValue : Json}
  {answers : (op : Op) → List Op → Fallible Op.Result Unit op}

/-- One more call. -/
theorem Working.call {spawns spawns' : Nat} {made : String} {l : Option Path} {log : List Op}
    {op : Op} (h : Working deps answers spawns made l log)
    (hop : Guarded deps (deps.platform.resolve made) op)
    (hcount : spawns + op.isSpawn.toNat ≤ spawns') :
    Working deps answers spawns' made l (log ++ [op]) := by
  obtain ⟨work, rfl, hguarded, hspawned⟩ := h.calls
  refine ⟨h.variable_eq, h.obtained, h.temporary, work ++ [op], List.append_assoc .., ?_, ?_⟩
  · intro op' hmem
    rcases List.mem_append.mp hmem with hmem | hmem
    · exact hguarded op' hmem
    · rw [List.mem_singleton.mp hmem]
      exact hop
  · rw [List.countP_append, List.countP_singleton]
    cases hspawn : op.isSpawn with
    | true =>
        rw [hspawn, Bool.toNat_true] at hcount
        rw [if_pos rfl]
        omega
    | false =>
        rw [hspawn, Bool.toNat_false] at hcount
        rw [if_neg Bool.false_ne_true]
        omega

theorem Working.paused {spawns : Nat} {made : String} {l : Option Path} {log : List Op}
    (h : Working deps answers spawns made l log) (hle : spawns ≤ 1) :
    Paused deps requestValue answers l log := by
  obtain ⟨work, hlog, hguarded, hspawned⟩ := h.calls
  exact .inr ⟨made, h.variable_eq, h.obtained, h.temporary, work, hlog, hguarded,
    Nat.le_trans hspawned hle⟩

/-- The rule for calls. -/
theorem meets_anyMachine {σ : Type} {op : Op} {P : σ → List Op → Prop} {E : σ → List Op → Prop}
    {Q : op.Result → σ → List Op → Prop}
    (hdone : ∀ a l log, P l log → answers op log = .ok a → Q a l (log ++ [op]))
    (hthrown : ∀ e l log, P l log → answers op log = .error e → E l (log ++ [op])) :
    Code.Meets (anyMachine answers) P (perform op) Q E := by
  refine Code.Meets.call fun l log h fails => ?_
  have hanswer : (anyMachine answers).answer fails op log = (answers op log, log ++ [op]) := by
    cases fails <;> rfl
  rw [hanswer]
  cases hop : answers op log with
  | ok a => exact hdone a l log h hop
  | error e => exact hthrown e l log h hop

/-- The rule for a call on the directory. -/
theorem meets_guarded {op : Op} {made : String} {spawns spawns' : Nat}
    (hop : Guarded deps (deps.platform.resolve made) op)
    (hcount : spawns + op.isSpawn.toNat ≤ spawns') (hle : spawns' ≤ 1) :
    Code.Meets (anyMachine answers) (Working deps answers spawns made) (perform op)
      (fun _ => Working deps answers spawns' made) (Paused deps requestValue answers) :=
  meets_anyMachine (fun _ _ _ h _ => h.call hop hcount)
    fun _ _ _ h _ => (h.call hop hcount).paused hle

/-- **The making of the directory**, whatever it is answered. -/
theorem meets_makeTempDir_anyMachine :
    Code.Meets (anyMachine answers) (fun l log => l = none ∧ log = []) (makeTempDir deps)
      (fun made l log => (l = none ∧ log = opening deps made) ∧ Obtained deps answers made)
      (Paused deps requestValue answers) := by
  refine Code.Meets.bind (R := fun made l log => (l = none ∧ log = [makeDirectory deps])
    ∧ Obtained deps answers made) (meets_anyMachine ?_ ?_) fun made =>
      Code.Meets.of_fact fun hmade => ?_
  · rintro made l log ⟨rfl, rfl⟩ hmade
    exact ⟨⟨rfl, rfl⟩, hmade⟩
  · rintro e l log ⟨rfl, rfl⟩ herror
    refine .inl ⟨rfl, .noDirectory fun made hmade => ?_⟩
    cases hmade.symm.trans herror
  refine Code.Meets.bind (R := fun _ l log => (l = none ∧ log = opening deps made)
    ∧ Obtained deps answers made) (meets_anyMachine ?_ ?_) fun _ =>
      Code.Meets.pure fun _ _ hl => hl
  · rintro _ l log ⟨rfl, rfl⟩ -
    exact ⟨⟨rfl, rfl⟩, hmade⟩
  · rintro e l log ⟨rfl, rfl⟩ herror
    exact .inl ⟨rfl, .unusable made hmade (.inl herror)⟩

/-- What the check of the name lets pass. -/
theorem temporary_of_safe {made : String} {directory : Path}
    (h : safeTemporaryDirectory deps made = .ok directory) :
    directory = deps.platform.resolve made ∧ Temporary deps (deps.platform.resolve made) := by
  rw [safeTemporaryDirectory] at h
  split at h
  · cases h
  · rename_i hchecked
    cases h
    obtain ⟨hparent, hname⟩ := not_or.mp hchecked
    refine ⟨rfl, not_not.mp hparent, ?_⟩
    simpa using hname

theorem not_temporary_of_error {made : String} {e : Thrown}
    (h : safeTemporaryDirectory deps made = .error e) :
    ¬ Temporary deps (deps.platform.resolve made) := by
  rintro ⟨hparent, hname⟩
  rw [safeTemporaryDirectory] at h
  split at h
  · rename_i hchecked
    rcases hchecked with hne | hlead
    · exact hne hparent
    · simp only [hname, Bool.not_true, Bool.false_eq_true] at hlead
  · cases h

/-- **The `try` block**, whatever it is answered. -/
theorem meets_exportInto_anyMachine (request : BootstrapRequest) (deployment : DeploymentManifest) :
    Code.Meets (anyMachine answers) (fun l log => l = none ∧ log = [])
      (exportInto deps request deployment) (fun _ => Paused deps requestValue answers)
      (Paused deps requestValue answers) := by
  rw [exportInto]
  refine Code.Meets.bind meets_makeTempDir_anyMachine fun made =>
    Code.Meets.of_fact fun hmade => ?_
  refine Code.Meets.bind (R := fun directory l log => (l = none ∧ log = opening deps made)
    ∧ directory = deps.platform.resolve made ∧ Temporary deps (deps.platform.resolve made))
    ?_ fun directory => Code.Meets.of_fact fun hsafe => ?_
  · cases hchecked : safeTemporaryDirectory deps made with
    | ok directory => exact fun l log hl => ⟨hl, temporary_of_safe hchecked⟩
    | error e =>
        rintro l log ⟨rfl, rfl⟩
        exact .inl ⟨rfl, .unusable made hmade (.inr (not_temporary_of_error hchecked))⟩
  obtain ⟨rfl, htemporary⟩ := hsafe
  refine Code.Meets.bind (R := fun _ => Working deps answers 0 made)
    (Code.Meets.assign fun l log hl => ⟨rfl, hmade, htemporary, [], ?_,
      fun _ h => absurd h List.not_mem_nil, Nat.le_refl 0⟩) fun _ => ?_
  · rw [List.append_nil]
    exact hl.2
  refine Code.Meets.bind (R := fun _ => Working deps answers 0 made)
    (Code.Meets.of (fun _ _ _ _ hl => hl) fun l log hl => hl.paused (Nat.zero_le 1))
    fun config => ?_
  -- the three calls on it
  refine Code.Meets.bind (meets_guarded ⟨rfl, rfl, rfl⟩ (Nat.le_refl 0) (Nat.zero_le 1))
    fun _ => ?_
  refine Code.Meets.bind (meets_guarded ⟨rfl, rfl, rfl, fun entry => ?_⟩ (Nat.le_refl 1)
    (Nat.le_refl 1)) fun exitCode => ?_
  · rw [sanitizedEnvironment, List.mem_filter, decide_eq_true_iff]
  refine Code.Meets.bind (R := fun _ => Working deps answers 1 made)
    (Code.Meets.when (fun _ => Code.Meets.throw fun _ _ hl => hl.paused (Nat.le_refl 1))
      fun _ _ _ hl => hl) fun _ => ?_
  refine Code.Meets.bind (meets_guarded rfl (Nat.le_refl 1) (Nat.le_refl 1)) fun output => ?_
  refine Code.Meets.bind (R := fun _ => Working deps answers 1 made)
    (Code.Meets.when (fun _ => Code.Meets.throw fun _ _ hl => hl.paused (Nat.le_refl 1))
      fun _ _ _ hl => hl) fun _ => ?_
  exact Code.Meets.pure fun _ _ hl => hl.paused (Nat.le_refl 1)

/-- **The `finally` block** removes the directory, if the variable holds one. -/
theorem meets_removeDirectory_anyMachine :
    Code.Meets (anyMachine answers) (Paused deps requestValue answers) removeDirectory
      (fun _ _ => Closed deps requestValue answers)
      (fun _ => Closed deps requestValue answers) := by
  refine Code.Meets.bind (R := fun directory l log => Paused deps requestValue answers l log
    ∧ directory = l) (Code.Meets.locals fun l log hl => ⟨hl, rfl⟩) fun directory => ?_
  cases directory with
  | none =>
      refine Code.Meets.pure fun l log hl => ?_
      rcases hl.1 with ⟨-, hclosed⟩ | ⟨made, hworking⟩
      · exact hclosed
      · cases hl.2.trans hworking.variable_eq
  | some directory =>
      have hclosed : ∀ l log, Paused deps requestValue answers l log → some directory = l →
          Closed deps requestValue answers (log ++ [.removeDir directory]) := by
        rintro l log (⟨hnone, -⟩ | ⟨made, hworking⟩) hl
        · cases hl.trans hnone
        · cases hl.trans hworking.variable_eq
          obtain ⟨work, rfl, hguarded, hspawned⟩ := hworking.calls
          exact .removed made work hworking.obtained hworking.temporary hguarded hspawned
      exact meets_anyMachine (fun _ l log hl _ => hclosed l log hl.1 hl.2)
        fun _ l log hl _ => hclosed l log hl.1 hl.2

end AnyMachine

/-- **What an export asks for, whatever it is answered.**  There is at most one directory, the
    one that `mkdtemp` made right below the directory for temporary files; files are only
    written and read in it; at most one child is started, on the files in it, and it does not
    see the funder's key; and the last call removes that very directory, however the export
    ended.  No removal is asked for only when the code did not come to hold a directory. -/
theorem exportAccountState_guarded (deps : ExporterDeps) (requestValue : Json)
    (answers : (op : Op) → List Op → Fallible Op.Result Unit op) (fails : Nat → Bool) :
    Closed deps requestValue answers
      (run (anyMachine answers) fails 0 [] (exportAccountState deps requestValue ())).2 := by
  have hmeets : Code.Meets (anyMachine answers) (fun _ log => log = [])
      (exportAccountState deps requestValue) (fun _ _ => Closed deps requestValue answers)
      (fun _ => Closed deps requestValue answers) := by
    rw [exportAccountState]
    -- the two checks come before any operation
    refine Code.Meets.bind (R := fun _ _ log => log = []) ?_ fun request => ?_
    · cases hrequest : bootstrapRequestSchema requestValue with
      | some request => exact fun _ _ hl => hl
      | none =>
          rintro l log rfl
          exact .invalid (.inl hrequest)
    refine Code.Meets.bind (R := fun _ _ log => log = []) ?_ fun deployment => ?_
    · cases hdeployment : deploymentManifestSchema deps.deployment with
      | some deployment => exact fun _ _ hl => hl
      | none =>
          rintro l log rfl
          exact .invalid (.inr hdeployment)
    refine Code.Meets.scope fun l => ?_
    -- whatever happens inside, the directory is removed on the way out
    refine Code.Meets.tryFinally (R := fun _ => Paused deps requestValue answers)
      (T := Paused deps requestValue answers) ?_
      (fun _ => meets_removeDirectory_anyMachine) meets_removeDirectory_anyMachine
    exact Code.Meets.tryCatch (meets_exportInto_anyMachine request deployment) fun error =>
      Code.Meets.throw fun _ _ hl => hl
  have hend : Ends (fun _ _ => Closed deps requestValue answers)
      (fun _ => Closed deps requestValue answers)
      (run (anyMachine answers) fails 0 [] (exportAccountState deps requestValue ())).1
      (run (anyMachine answers) fails 0 [] (exportAccountState deps requestValue ())).2 :=
    Ensures.run fails (hmeets () [] rfl)
  revert hend
  generalize run (anyMachine answers) fails 0 [] (exportAccountState deps requestValue ()) = out
  obtain ⟨⟨result, locals⟩, log⟩ := out
  cases result with
  | ok bytes => exact fun hend => hend
  | error error => exact fun hend => hend

end CkbStateExporter
