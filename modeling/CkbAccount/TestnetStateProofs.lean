import CkbAccount.FaultRunProofs
import CkbAccount.FileTreeProofs
import CkbAccount.SchemasProofs

/-! # The state of a testnet run on disk

    `demo/test/support/real-testnet-state.ts`: the documents of a run, the checks before they
    are archived, and `archiveRealTestnetState`, which moves the active directory and the
    account manifest through a staging directory into a new archive, and moves them back when
    something fails on the way.

    * `answer_cases`: a call to the file system is refused, fails by itself, or has its effect;
    * `meets_perform`, `meets_cleanup`: the rules for the calls of the code and of its handlers;
    * `meets_pathExists` and the lemmas after it: reading changes nothing, and what is read of
      the manifest is so. -/

namespace CkbArchive

open Process FaultRun FileTree CkbSchemas

/-! ## Documents -/

/-- What documents are read and written with: `JSON.parse`, `JSON.stringify` with an indent of
    two, the checks of `z.string().datetime()` and of the same with an offset, and the name of a
    temporary file, its process id and random part. -/
structure Runtime where
  parse : String → Option Json
  stringify : Json → String
  datetime : String → Bool
  datetimeOffset : String → Bool
  unique : String

/-- A character of `[A-Za-z0-9+/]`. -/
def isBase64Digit (c : Char) : Bool :=
  ('A' ≤ c && c ≤ 'Z') || ('a' ≤ c && c ≤ 'z') || ('0' ≤ c && c ≤ '9') || c == '+' || c == '/'

/-- `BASE64`: groups of four, the last one padded. -/
def isBase64Groups : List Char → Bool
  | [] => true
  | [a, b, '=', '='] => isBase64Digit a && isBase64Digit b
  | [a, b, c, '='] => isBase64Digit a && isBase64Digit b && isBase64Digit c
  | a :: b :: c :: d :: rest =>
      isBase64Digit a && isBase64Digit b && isBase64Digit c && isBase64Digit d
        && isBase64Groups rest
  | _ => false

/-- Base64 text, in whole groups. -/
def isBase64 (text : String) : Bool := isBase64Groups text.toList

/-- What a character of either alphabet stands for. -/
def base64Value (c : Char) : Option Nat :=
  if 'A' ≤ c ∧ c ≤ 'Z' then some (c.toNat - 65)
  else if 'a' ≤ c ∧ c ≤ 'z' then some (c.toNat - 71)
  else if '0' ≤ c ∧ c ≤ '9' then some (c.toNat + 4)
  else if c = '+' ∨ c = '-' then some 62
  else if c = '/' ∨ c = '_' then some 63
  else none

/-- Groups of eight bits; what is left over is dropped. -/
def octets : List Bool → List (List Bool)
  | a :: b :: c :: d :: e :: f :: g :: h :: rest => [a, b, c, d, e, f, g, h] :: octets rest
  | _ => []

/-- `Buffer.from(text, "base64")`, and the same for `"base64url"`. -/
def bufferFrom (text : String) : List (List Bool) :=
  octets ((text.toList.filterMap base64Value).flatMap fun n =>
    [5, 4, 3, 2, 1, 0].map n.testBit)

/-- `.optional()`. -/
def Json.optionally (v : Json) (name : String) (check : Json → Bool) : Bool :=
  (v.member name).all check

/-- `z.boolean()`, where only the acceptance matters. -/
def Json.isBoolean : Json → Bool
  | .bool _ => true
  | _ => false

/-- `CdpCredentialSchema`; of the credential only its id is read. -/
def cdpCredentialSchema (v : Json) : Option String := do
  guard (v.isStrict ["credentialId", "isResidentCredential", "rpId", "privateKey", "userHandle",
    "signCount", "largeBlob", "backupEligibility", "backupState", "userName", "userDisplayName"])
  let credentialId ← (← v.member "credentialId").text isBase64
  guard (← v.member "isResidentCredential").isTrue
  guard ((← v.member "rpId").isText "localhost")
  let _ ← (← v.member "privateKey").text fun t => t != "" && isBase64 t
  guard (Json.optionally v "userHandle" fun h => (h.text isBase64).isSome)
  let _ ← (← v.member "signCount").nonnegative
  guard (Json.optionally v "largeBlob" fun b => (b.text isBase64).isSome)
  guard (Json.optionally v "backupEligibility" Json.isBoolean)
  guard (Json.optionally v "backupState" Json.isBoolean)
  guard (Json.optionally v "userName" fun n => (n.text fun _ => true).isSome)
  guard (Json.optionally v "userDisplayName" fun n => (n.text fun _ => true).isSome)
  return credentialId

/-- `credentialMatchesPasskey`. -/
def credentialMatchesPasskey (credentialId : String) (passkey : PasskeyRecord) : Bool :=
  bufferFrom credentialId == bufferFrom passkey.credentialId

/-- `RecoveryDocument`, without its literals. -/
structure RecoveryDocument where
  passkey : PasskeyRecord
  credential : String
  createdAt : String

/-- `z.tuple([CdpCredentialSchema])`. -/
def credentialsSchema : Json → Option String
  | .array [v] => cdpCredentialSchema v
  | _ => none

/-- `RecoveryDocumentSchema`. -/
def recoveryDocumentSchema (rt : Runtime) (v : Json) : Option RecoveryDocument := do
  guard (v.isStrict ["schemaVersion", "network", "origin", "rpId", "passkey", "credentials",
    "createdAt"])
  guard (← v.member "schemaVersion").isOne
  guard ((← v.member "network").isText "testnet")
  guard ((← v.member "origin").isText "http://localhost:5173")
  guard ((← v.member "rpId").isText "localhost")
  let passkey ← passkeyRecordSchema rt.datetime (← v.member "passkey")
  let credential ← credentialsSchema (← v.member "credentials")
  let createdAt ← (← v.member "createdAt").text rt.datetimeOffset
  guard (credentialMatchesPasskey credential passkey)
  return { passkey, credential, createdAt }

/-- `stage` of a run document. -/
inductive Stage where
  | registered
  | accountCommitted
  | spendSubmitted
  | spendCommitted
  deriving DecidableEq, Repr

/-- The `z.enum` of the stages. -/
def stageSchema (v : Json) : Option Stage := do
  match ← v.text fun _ => true with
  | "registered" => some .registered
  | "account_committed" => some .accountCommitted
  | "spend_submitted" => some .spendSubmitted
  | "spend_committed" => some .spendCommitted
  | _ => none

/-- `RunDocument`, without its literal. -/
structure RunDocument where
  stage : Stage
  accountId : Option String
  accountCreationHash : Option String
  spendHash : Option String
  lastReconciledAt : String
  deriving DecidableEq, Repr

/-- `z.string().regex(HASH32).optional()`. -/
def optionalHash (v : Json) (name : String) : Option (Option String) :=
  match v.member name with
  | none => some none
  | some hash => (hash.text isHash32).map some

/-- `RunDocumentSchema`. -/
def runDocumentSchema (rt : Runtime) (v : Json) : Option RunDocument := do
  guard (v.isStrict ["schemaVersion", "stage", "accountId", "accountCreationHash", "spendHash",
    "lastReconciledAt"])
  guard (← v.member "schemaVersion").isOne
  let stage ← stageSchema (← v.member "stage")
  let accountId ← optionalHash v "accountId"
  let accountCreationHash ← optionalHash v "accountCreationHash"
  let spendHash ← optionalHash v "spendHash"
  let lastReconciledAt ← (← v.member "lastReconciledAt").text rt.datetimeOffset
  guard (stage = .registered ∨ (accountId.isSome ∧ accountCreationHash.isSome))
  guard (¬ (stage = .spendSubmitted ∨ stage = .spendCommitted) ∨ spendHash.isSome)
  return { stage, accountId, accountCreationHash, spendHash, lastReconciledAt }

/-- `reason` of an archive summary. -/
inductive Reason where
  | explicitArchive
  | orphanedAccount
  deriving DecidableEq, Repr

/-- The text of a reason. -/
def Reason.text : Reason → String
  | .explicitArchive => "explicit_archive"
  | .orphanedAccount => "orphaned_account"

/-- `ArchiveSummarySchema`, without its literal. -/
structure ArchiveSummary where
  archivedAt : String
  accountId : Option String
  accountCreationHash : Option String
  credentialAvailable : Bool
  reason : Reason
  deriving DecidableEq, Repr

/-- A text or `null`. -/
def nullable (text : Option String) : Json := (text.map Json.string).getD .null

/-- The summary as an object. -/
def ArchiveSummary.value (summary : ArchiveSummary) : Json :=
  .object [("schemaVersion", .number 1), ("archivedAt", .string summary.archivedAt),
    ("accountId", nullable summary.accountId),
    ("accountCreationHash", nullable summary.accountCreationHash),
    ("credentialAvailable", .bool summary.credentialAvailable),
    ("reason", .string summary.reason.text)]

/-- `z.string().regex(HASH32).nullable()`. -/
def nullableHash : Json → Option (Option String)
  | .null => some none
  | v => (v.text isHash32).map some

/-- `z.boolean()`. -/
def booleanSchema : Json → Option Bool
  | .bool b => some b
  | _ => none

/-- The `z.enum` of the reasons. -/
def reasonSchema (v : Json) : Option Reason := do
  match ← v.text fun _ => true with
  | "explicit_archive" => some .explicitArchive
  | "orphaned_account" => some .orphanedAccount
  | _ => none

/-- `ArchiveSummarySchema`. -/
def archiveSummarySchema (rt : Runtime) (v : Json) : Option ArchiveSummary := do
  guard (v.isStrict ["schemaVersion", "archivedAt", "accountId", "accountCreationHash",
    "credentialAvailable", "reason"])
  guard (← v.member "schemaVersion").isOne
  let archivedAt ← (← v.member "archivedAt").text rt.datetimeOffset
  let accountId ← nullableHash (← v.member "accountId")
  let accountCreationHash ← nullableHash (← v.member "accountCreationHash")
  let credentialAvailable ← booleanSchema (← v.member "credentialAvailable")
  let reason ← reasonSchema (← v.member "reason")
  return { archivedAt, accountId, accountCreationHash, credentialAvailable, reason }

/-! ## What may be archived -/

/-- What an archive can throw. -/
inductive ArchiveError where
  /-- An error of the file system. -/
  | fs (error : FsError)
  | message (text : String)
  /-- An error of `JSON.parse`, of a schema, or of a date that is none. -/
  | invalid
  | aggregate (errors : List ArchiveError) (text : String)

/-- What the files on disk amount to. -/
inductive DiskState where
  | fresh
  | registered
  | recoverableAccount
  | orphanedAccount
  deriving DecidableEq, Repr

/-- `classifyPresence`. -/
def classifyPresence (manifestExists recoveryExists : Bool) : DiskState :=
  if manifestExists then if recoveryExists then .recoverableAccount else .orphanedAccount
  else if recoveryExists then .registered else .fresh

/-- What `loadDiskState` returns. -/
structure Disk where
  kind : DiskState
  recovery : Option RecoveryDocument

/-- `inconsistentArchiveState`. -/
def inconsistentArchiveState {α : Type} (reason : String) : Except ArchiveError α :=
  .error (.message ("Inconsistent archive state: " ++ reason))

/-- The part of `validateArchiveState` without an account manifest. -/
def validateWithoutManifest (disk : Disk) (run : Option RunDocument) :
    Except ArchiveError Unit :=
  if disk.recovery.isSome
      ∧ (run.any fun r => r.stage = .registered ∧ r.accountId = none
        ∧ r.accountCreationHash = none ∧ r.spendHash = none) then .ok ()
  else if disk.kind = .fresh ∧ run = none then
    .error (.message "No active testnet state to archive")
  else inconsistentArchiveState "account-stage run requires an account manifest"

/-- The part of `validateArchiveState` with an account manifest. -/
def validateWithManifest (disk : Disk) (manifest : AccountManifest) :
    Option RunDocument → Except ArchiveError Unit
  | none =>
      if disk.recovery.isNone then .ok ()
      else inconsistentArchiveState
        "account manifest, recovery, and run must be archived together"
  | some run =>
      if run.stage = .registered then
        inconsistentArchiveState "registered run cannot have an account manifest"
      else if run.accountId ≠ some manifest.accountId then
        inconsistentArchiveState "run account ID does not match account manifest"
      else if run.accountCreationHash ≠ some manifest.stateOutPoint.txHash then
        inconsistentArchiveState "run account creation hash does not match account manifest"
      else .ok ()

/-- `validateArchiveState`. -/
def validateArchiveState (disk : Disk) (run : Option RunDocument)
    (manifest : Option AccountManifest) : Except ArchiveError Unit :=
  if classifyPresence manifest.isSome disk.recovery.isSome ≠ disk.kind then
    inconsistentArchiveState "manifest changed while loading"
  else
    match manifest with
    | none => validateWithoutManifest disk run
    | some m => validateWithManifest disk m run

/-! ## Calls to the file system -/

/-- The operations, with the mode of what they create first.  A handle is named by the path it
    was opened for. -/
inductive FileOp where
  | lstat (p : Path)
  | readFile (p : Path)
  | mkdir (mode : Nat) (p : Path)
  /-- `mkdir` with `recursive`. -/
  | mkdirs (mode : Nat) (p : Path)
  | chmod (mode : Nat) (p : Path)
  /-- `open` with `"wx"`. -/
  | create (mode : Nat) (p : Path)
  | writeFile (text : String) (p : Path)
  /-- `open` of a directory. -/
  | openDirectory (p : Path)
  | sync (p : Path)
  | close (p : Path)
  | rename (src dst : Path)
  | unlink (p : Path)
  | rmdir (p : Path)
  /-- `beforeFinalDirectoryReservation`. -/
  | beforeReservation (archiveDir : Path)

/-- What an operation answers when it succeeds. -/
def FileOp.Res : FileOp → Type
  | .lstat _ => Kind
  | .readFile _ => String
  | _ => Unit

/-- What an operation returns, and the disk after it. -/
def FileOp.act (hook : Path → Tree → Tree) :
    (op : FileOp) → Tree → Except FsError (op.Res × Tree)
  | .lstat p, t => (t.lstat p).map (·, t)
  | .readFile p, t => (t.readFile p).map (·, t)
  | .mkdir mode p, t => (t.mkdir mode p).map ((), ·)
  | .mkdirs mode p, t => (t.mkdirs mode p).map ((), ·)
  | .chmod mode p, t => (t.chmod mode p).map ((), ·)
  | .create mode p, t => (t.create mode p).map ((), ·)
  | .writeFile text p, t => (t.write text p).map ((), ·)
  | .openDirectory p, t => (t.lstat p).map fun _ => ((), t)
  | .sync _, t => .ok ((), t)
  | .close _, t => .ok ((), t)
  | .rename src dst, t => (t.rename src dst).map ((), ·)
  | .unlink p, t => (t.unlink p).map ((), ·)
  | .rmdir p, t => (t.rmdir p).map ((), ·)
  | .beforeReservation archiveDir, t => .ok ((), hook archiveDir t)

/-- The disk, and every disk there was before. -/
structure History where
  disk : Tree
  past : List Tree

/-- One more state of the disk. -/
def History.push (h : History) (t : Tree) : History := ⟨t, h.disk :: h.past⟩

/-- A call of the code; what a handler does to clean up is not made to fail. -/
structure Call where
  op : FileOp
  cleanup : Bool

/-- A call that fails leaves the disk as it was. -/
def fileEnv (hook : Path → Tree → Tree) :
    Env (Fallible (fun call : Call => call.op.Res) FsError) History where
  respond call h :=
    match call.op.act hook h.disk with
    | .ok (r, t) => (.ok r, h.push t)
    | .error e => (.error e, h)
  refusal call := if call.cleanup then none else some (.error .failed)

/-- A step of the archive: file operations, the locals, a value or an error. -/
abbrev Task (σ α : Type) : Type :=
  Code (Fallible (fun call : Call => call.op.Res) FsError) σ ArchiveError α

section Program

variable {σ α : Type}

/-- An operation whose failure is thrown. -/
def perform (op : FileOp) : Task σ op.Res := Code.call ArchiveError.fs (⟨op, false⟩ : Call)

/-- An operation of the cleanup. -/
def cleanup (op : FileOp) : Task σ op.Res := Code.call ArchiveError.fs (⟨op, true⟩ : Call)

/-- `c.catch(() => undefined)`. -/
def ignored (c : Task σ α) : Task σ Unit := do
  let _ ← Code.caught c
  return ()

/-- A path in a message. -/
def pathText (p : Path) : String := "/" ++ String.intercalate "/" p

/-- `exists`. -/
def pathExists (p : Path) : Task σ Bool :=
  Code.tryCatch (do let _ ← perform (.lstat p); return true) fun
    | .fs .enoent => return false
    | e => Code.throw e

/-- `if (await exists(path)) { c }`. -/
def whenExists (p : Path) (c : Task σ Unit) : Task σ Unit := do
  let found ← pathExists p
  Code.when found c

/-- `rejectSymlink`. -/
def rejectSymlink (p : Path) : Task σ Unit := do
  let info : Kind ← perform (.lstat p)
  Code.when (info = Kind.link)
    (Code.throw (.message ("Refusing symbolic link at " ++ pathText p)))

/-- A file or directory that only its owner may use. -/
def isPrivateFile : Kind → Bool
  | .file mode _ => mode &&& 0o077 == 0
  | _ => false

/-- A directory that nobody else can enter. -/
def isPrivateDirectory : Kind → Bool
  | .directory mode => mode &&& 0o077 == 0
  | _ => false

/-- `requirePrivateFile`. -/
def requirePrivateFile (p : Path) : Task σ Unit := do
  rejectSymlink p
  let info : Kind ← perform (.lstat p)
  Code.when (!isPrivateFile info)
    (Code.throw (.message ("Managed file has unsafe permissions at " ++ pathText p)))

/-- `requirePrivateDirectory`. -/
def requirePrivateDirectory (p : Path) : Task σ Unit := do
  rejectSymlink p
  let info : Kind ← perform (.lstat p)
  Code.when (!isPrivateDirectory info)
    (Code.throw (.message ("State directory has unsafe permissions at " ++ pathText p)))

/-- `RealTestnetPaths`. -/
structure RealTestnetPaths where
  rootDir : Path
  activeDir : Path
  recoveryPath : Path
  runPath : Path
  archivesDir : Path
  manifestPath : Path

/-- `createRealTestnetPaths`, without the profile directory. -/
def createRealTestnetPaths (repoRoot : Path) : RealTestnetPaths :=
  let rootDir := repoRoot ++ ["demo", ".local", "real-testnet"]
  let activeDir := rootDir ++ ["active"]
  { rootDir, activeDir
    recoveryPath := activeDir ++ ["recovery.json"]
    runPath := activeDir ++ ["run.json"]
    archivesDir := rootDir ++ ["archives"]
    manifestPath := repoRoot ++ ["deploy", "testnet-account.json"] }

/-- `validatePrivateStateDirectoriesForRead`. -/
def validatePrivateStateDirectoriesForRead (paths : RealTestnetPaths) : Task σ Unit := do
  whenExists paths.rootDir (requirePrivateDirectory paths.rootDir)
  whenExists paths.activeDir (requirePrivateDirectory paths.activeDir)

/-- What a schema makes of a text. -/
def parsed (rt : Runtime) (schema : Json → Option α) (text : String) : Task σ α :=
  Code.of (((rt.parse text).bind schema).elim (.error .invalid) .ok)

/-- `readPrivateJson`. -/
def readPrivateJson (rt : Runtime) (p : Path) (schema : Json → Option α) :
    Task σ (Option α) := do
  if ← pathExists p then
    requirePrivateFile p
    let text ← perform (.readFile p)
    let value ← parsed rt schema text
    return some value
  else
    return none

/-- `loadOptionalAccountManifest`. -/
def loadOptionalAccountManifest (rt : Runtime) (p : Path) : Task σ (Option AccountManifest) := do
  if ← pathExists p then
    rejectSymlink p
    let text ← perform (.readFile p)
    let value ← parsed rt accountManifestSchema text
    return some value
  else
    return none

/-- `loadRecovery`. -/
def loadRecovery (rt : Runtime) (paths : RealTestnetPaths) :
    Task σ (Option RecoveryDocument) := do
  validatePrivateStateDirectoriesForRead paths
  readPrivateJson rt paths.recoveryPath (recoveryDocumentSchema rt)

/-- `loadRun`. -/
def loadRun (rt : Runtime) (paths : RealTestnetPaths) : Task σ (Option RunDocument) := do
  validatePrivateStateDirectoriesForRead paths
  readPrivateJson rt paths.runPath (runDocumentSchema rt)

/-- `loadDiskState`. -/
def loadDiskState (rt : Runtime) (paths : RealTestnetPaths) : Task σ Disk := do
  let recovery ← Code.tryCatch (loadRecovery rt paths) fun _ =>
    Code.throw (.message "Unable to load recovery state")
  let manifestExists ← pathExists paths.manifestPath
  return { kind := classifyPresence manifestExists recovery.isSome, recovery }

/-! ## Writing a document -/

/-- A path with a longer last name. -/
def extended (p : Path) (suffix : String) : Path := p.dropLast ++ [p.getLastD "" ++ suffix]

/-- The variables of `writePrivateJson`: whether its handle is open, and whether the temporary
    file was created. -/
structure WriteLocals where
  handle : Bool
  temporaryCreated : Bool

/-- `try { await directory.sync(); } finally { await directory.close(); }`. -/
def syncDirectory (dir : Path) : Task σ Unit := do
  perform (.openDirectory dir)
  Code.tryCatch (perform (.sync dir)) fun e => do
    perform (.close dir)
    Code.throw e
  perform (.close dir)

/-- The file is written beside its place, and put there when it is complete. -/
def replaceFile (rt : Runtime) (schema : Json → Option α) (p temporary : Path) (text : String) :
    Task WriteLocals α := do
  perform (.create 0o600 temporary)
  Code.assign fun _ => { handle := true, temporaryCreated := true }
  perform (.writeFile text temporary)
  perform (.sync temporary)
  perform (.close temporary)
  Code.assign fun l => { l with handle := false }
  perform (.rename temporary p)
  perform (.chmod 0o600 p)
  syncDirectory p.dropLast
  let text ← perform (.readFile p)
  parsed rt schema text

/-- The handler of `writePrivateJson`. -/
def discardTemporary (temporary : Path) (e : ArchiveError) : Task WriteLocals α := do
  let l ← Code.locals
  Code.when l.handle (ignored (cleanup (.close temporary)))
  Code.when l.temporaryCreated (ignored (cleanup (.unlink temporary)))
  Code.throw e

/-- `writePrivateJson`. -/
def writePrivateJson (rt : Runtime) (schema : Json → Option α) (encode : α → Json) (p : Path)
    (value : α) : Task σ α := do
  let verified ← Code.of ((schema (encode value)).elim (.error .invalid) .ok)
  whenExists p (requirePrivateFile p)
  let temporary := extended p ("." ++ rt.unique ++ ".tmp")
  let text := rt.stringify (encode verified) ++ "\n"
  Code.scope { handle := false, temporaryCreated := false }
    (Code.tryCatch (replaceFile rt schema p temporary text) (discardTemporary temporary))

/-! ## Archiving -/

/-- Where an item that has been moved is. -/
inductive Location where
  | staging
  | archive
  deriving DecidableEq, Repr

/-- The variables of `archiveRealTestnetState` that its handler reads. -/
structure Locals where
  activeLocation : Option Location
  manifestLocation : Option Location
  summaryLocation : Option Location
  reservedArchive : Bool
  deriving DecidableEq, Repr

/-- The locals as they are declared. -/
def Locals.initial : Locals := ⟨none, none, none, false⟩

/-- The two directories of a call. -/
structure Site where
  staging : Path
  archiveDir : Path

/-- The name of the active directory in an archive. -/
def activeName : String := "active"
/-- The name of the manifest in an archive. -/
def manifestName : String := "testnet-account.json"
/-- The name of the summary in an archive. -/
def summaryName : String := "summary.json"

variable (rt : Runtime) (paths : RealTestnetPaths) (site : Site)

/-- The first moves: both into the staging directory. -/
def stageState (manifest : Option AccountManifest) : Task Locals Unit := do
  whenExists paths.activeDir do
    perform (.rename paths.activeDir (site.staging ++ [activeName]))
    Code.assign fun l => { l with activeLocation := some .staging }
  Code.when manifest.isSome do
    perform (.rename paths.manifestPath (site.staging ++ [manifestName]))
    Code.assign fun l => { l with manifestLocation := some .staging }

/-- The archive directory is made here, or it is not this call's. -/
def reserveArchive : Task Locals Unit :=
  Code.tryCatch (do
    perform (.mkdir 0o700 site.archiveDir)
    Code.assign fun l => { l with reservedArchive := true }
    perform (.chmod 0o700 site.archiveDir)) fun
      | .fs .eexist =>
          Code.throw (.message ("Archive already exists at " ++ pathText site.archiveDir))
      | e => Code.throw e

/-- The second moves: all three into the archive. -/
def settleArchive : Task Locals Unit := do
  let l ← Code.locals
  Code.when (l.activeLocation = some .staging) do
    perform (.rename (site.staging ++ [activeName]) (site.archiveDir ++ [activeName]))
    Code.assign fun l => { l with activeLocation := some .archive }
  let l ← Code.locals
  Code.when (l.manifestLocation = some .staging) do
    perform (.rename (site.staging ++ [manifestName]) (site.archiveDir ++ [manifestName]))
    Code.assign fun l => { l with manifestLocation := some .archive }
  perform (.rename (site.staging ++ [summaryName]) (site.archiveDir ++ [summaryName]))
  Code.assign fun l => { l with summaryLocation := some .archive }

/-- The summary of a call at `now`. -/
def archiveSummary (now : String) (disk : Disk) (run : Option RunDocument)
    (manifest : Option AccountManifest) : ArchiveSummary where
  archivedAt := now
  accountId := (manifest.map (·.accountId)).or (run.bind (·.accountId))
  accountCreationHash :=
    (manifest.map (·.stateOutPoint.txHash)).or (run.bind (·.accountCreationHash))
  credentialAvailable := disk.recovery.isSome
  reason := if disk.kind = .orphanedAccount then .orphanedAccount else .explicitArchive

/-- The body of the `try`.  `hooked` says whether the caller gave a hook. -/
def moveToArchive (hooked : Bool) (manifest : Option AccountManifest) (summary : ArchiveSummary) :
    Task Locals (Path × ArchiveSummary) := do
  stageState paths site manifest
  let summary ← Code.of ((archiveSummarySchema rt summary.value).elim (.error .invalid) .ok)
  let _ ← writePrivateJson rt (archiveSummarySchema rt) ArchiveSummary.value
    (site.staging ++ [summaryName]) summary
  Code.assign fun l => { l with summaryLocation := some .staging }
  Code.when hooked (perform (.beforeReservation site.archiveDir))
  reserveArchive site
  settleArchive site
  perform (.rmdir site.staging)
  return (site.archiveDir, summary)

/-- The directory of a location. -/
def Site.directory : Location → Path
  | .staging => site.staging
  | .archive => site.archiveDir

/-- What was moved goes back to where it was; the errors there were. -/
def moveBack (location : Option Location) (name : String) (original : Path) :
    Task Locals (List ArchiveError) :=
  match location with
  | none => return []
  | some l => Code.caught (cleanup (.rename (site.directory l ++ [name]) original))

/-- The archive directory goes if it was made here; the errors there were. -/
def releaseArchive (reserved : Bool) : Task Locals (List ArchiveError) :=
  if reserved then Code.caught (cleanup (.rmdir site.archiveDir)) else pure []

/-- The handler of the `catch`. -/
def rollback (e : ArchiveError) : Task Locals (Path × ArchiveSummary) := do
  let l ← Code.locals
  let manifestErrors ← moveBack site l.manifestLocation manifestName paths.manifestPath
  let activeErrors ← moveBack site l.activeLocation activeName paths.activeDir
  Code.when (l.summaryLocation = some .staging)
    (ignored (cleanup (.unlink (site.staging ++ [summaryName]))))
  Code.when (l.summaryLocation = some .archive)
    (ignored (cleanup (.unlink (site.archiveDir ++ [summaryName]))))
  let stagingErrors ← Code.caught (cleanup (.rmdir site.staging))
  let archiveErrors ← releaseArchive site l.reservedArchive
  let rollbackErrors := manifestErrors ++ activeErrors ++ stagingErrors ++ archiveErrors
  if rollbackErrors.isEmpty then Code.throw e
  else Code.throw (.aggregate (e :: rollbackErrors) "Archive failed and rollback was incomplete")

/-- `now.toISOString().replaceAll(":", "-")`. -/
def stampOf (now : String) : String :=
  String.ofList (now.toList.map fun c => if c = ':' then '-' else c)

/-- `manifest?.account_id.slice(2, 10) ?? "pre-account"`. -/
def suffixOf (manifest : Option AccountManifest) : String :=
  (manifest.map fun m => String.ofList ((m.accountId.toList.drop 2).take 8)).getD "pre-account"

/-- The directories of a call at `now`. -/
def siteOf (now : String) (manifest : Option AccountManifest) : Site :=
  let archiveDir := paths.archivesDir ++ [stampOf now ++ "-" ++ suffixOf manifest]
  { archiveDir, staging := extended archiveDir ".staging" }

/-- A directory that is made if it is not there, and is no link. -/
def preparePrivateDirectory (p : Path) : Task σ Unit := do
  perform (.mkdirs 0o700 p)
  rejectSymlink p
  perform (.chmod 0o700 p)

/-- `archiveRealTestnetState`; `now` is what `toISOString` returns, and `none` for a date that
    is none. -/
def archiveRealTestnetState (now : Option String) (hooked : Bool) :
    Task Locals (Path × ArchiveSummary) := do
  let disk ← loadDiskState rt paths
  let run ← loadRun rt paths
  let manifest ← loadOptionalAccountManifest rt paths.manifestPath
  Code.of (validateArchiveState disk run manifest)
  preparePrivateDirectory paths.rootDir
  preparePrivateDirectory paths.archivesDir
  let now ← Code.of (now.elim (.error .invalid) .ok)
  let site := siteOf paths now manifest
  whenExists site.staging
    (Code.throw (.message ("Archive already exists at " ++ pathText site.archiveDir)))
  perform (.mkdir 0o700 site.staging)
  Code.tryCatch
    (moveToArchive rt paths site hooked manifest (archiveSummary now disk run manifest))
    (rollback paths site)

end Program

/-! ## Rules for calls -/

section Rules

variable {σ α : Type} {hook : Path → Tree → Tree} {P : σ → History → Prop}

/-- **What a call can do**: be refused, fail by itself, or have its effect. -/
theorem answer_cases (hook : Path → Tree → Tree) (call : Call) (h : History) (fails : Bool) :
    (call.cleanup = false ∧ (fileEnv hook).answer fails call h = (Except.error .failed, h))
      ∨ (∃ e, call.op.act hook h.disk = .error e
        ∧ (fileEnv hook).answer fails call h = (Except.error e, h))
      ∨ ∃ r t, call.op.act hook h.disk = .ok (r, t)
        ∧ (fileEnv hook).answer fails call h = (Except.ok r, h.push t) := by
  have hrespond : (∃ e, call.op.act hook h.disk = .error e
        ∧ (fileEnv hook).respond call h = (Except.error e, h))
      ∨ ∃ r t, call.op.act hook h.disk = .ok (r, t)
        ∧ (fileEnv hook).respond call h = (Except.ok r, h.push t) := by
    cases hact : call.op.act hook h.disk with
    | error e =>
        refine .inl ⟨e, rfl, ?_⟩
        simp only [fileEnv, hact]
        rfl
    | ok out =>
        refine .inr ⟨out.1, out.2, rfl, ?_⟩
        simp only [fileEnv, hact]
        rfl
  obtain ⟨op, cleanup⟩ := call
  cases fails with
  | false => exact .inr hrespond
  | true =>
      cases cleanup with
      | false => exact .inl ⟨rfl, rfl⟩
      | true => exact .inr hrespond

/-- An operation throws where it was made, or it has its effect. -/
theorem meets_perform {op : FileOp} {Q : op.Res → σ → History → Prop} {E : σ → History → Prop}
    (herr : ∀ l h, P l h → E l h)
    (hok : ∀ l h r t, P l h → op.act hook h.disk = .ok (r, t) → Q r l (h.push t)) :
    Code.Meets (fileEnv hook) P (perform op) Q E := by
  refine Code.Meets.call fun l h hP fails => ?_
  obtain ⟨-, heq⟩ | ⟨e, -, heq⟩ | ⟨r, t, hact, heq⟩ := answer_cases hook ⟨op, false⟩ h fails
  · rw [heq]
    exact herr l h hP
  · rw [heq]
    exact herr l h hP
  · rw [heq]
    exact hok l h r t hP hact

/-- A cleanup throws only where the operation fails by itself. -/
theorem meets_cleanup {op : FileOp} {Q : op.Res → σ → History → Prop} {E : σ → History → Prop}
    (herr : ∀ l h e, P l h → op.act hook h.disk = .error e → E l h)
    (hok : ∀ l h r t, P l h → op.act hook h.disk = .ok (r, t) → Q r l (h.push t)) :
    Code.Meets (fileEnv hook) P (cleanup op) Q E := by
  refine Code.Meets.call fun l h hP fails => ?_
  obtain ⟨hfalse, -⟩ | ⟨e, hact, heq⟩ | ⟨r, t, hact, heq⟩ := answer_cases hook ⟨op, true⟩ h fails
  · exact absurd hfalse nofun
  · rw [heq]
    exact herr l h e hP hact
  · rw [heq]
    exact hok l h r t hP hact

theorem map_eq_ok {x : Except FsError α} {β : Type} {f : α → β} {b : β}
    (h : x.map f = .ok b) : ∃ a, x = .ok a ∧ f a = b := by
  cases x with
  | error e => exact absurd h nofun
  | ok a => exact ⟨a, rfl, Except.ok.inj h⟩

/-- An operation that returns nothing but the changed disk. -/
theorem ok_of_map {x : Except FsError Tree} {out : Unit × Tree} (h : x.map ((), ·) = .ok out) :
    x = .ok out.2 := by
  obtain ⟨t, ht, rfl⟩ := map_eq_ok h
  exact ht

/-- The rule for an operation by what it does to the tree. -/
theorem meets_effect {op : FileOp} {Q : op.Res → σ → History → Prop} {E : σ → History → Prop}
    {x : Tree → Except FsError Tree} (hop : ∀ t out, op.act hook t = .ok out → x t = .ok out.2)
    (herr : ∀ l h, P l h → E l h)
    (hok : ∀ l h r t, P l h → x h.disk = .ok t → Q r l (h.push t)) :
    Code.Meets (fileEnv hook) P (perform op) Q E :=
  meets_perform herr fun l h r t hP hact => hok l h r t hP (hop h.disk (r, t) hact)

/-! ## Reading -/

/-- The assertion survives that the disk is looked at. -/
def Lasting (P : σ → History → Prop) : Prop := ∀ l h, P l h → P l (h.push h.disk)

/-- A look finds something there, and changes nothing. -/
theorem meets_lstat (hP : Lasting P) (p : Path) :
    Code.Meets (fileEnv hook) P (perform (.lstat p))
      (fun _ l h => P l h ∧ (h.disk.node p).isSome) P := by
  refine meets_perform (fun _ _ h => h) fun l h r t hPh hact => ?_
  obtain ⟨kind, hstat, heq⟩ := map_eq_ok hact
  obtain ⟨rfl, rfl⟩ := Prod.mk.inj heq
  obtain ⟨n, hn, -⟩ := Tree.lstat_eq_ok hstat
  exact ⟨hP l h hPh, hn ▸ rfl⟩

/-- Reading changes nothing. -/
theorem meets_readFile (hP : Lasting P) (p : Path) :
    Code.Meets (fileEnv hook) P (perform (.readFile p)) (fun _ => P) P := by
  refine meets_perform (fun _ _ h => h) fun l h r t hPh hact => ?_
  obtain ⟨text, -, heq⟩ := map_eq_ok hact
  obtain ⟨rfl, rfl⟩ := Prod.mk.inj heq
  exact hP l h hPh

/-- What `exists` says is so. -/
theorem meets_pathExists (hP : Lasting P) (p : Path) :
    Code.Meets (fileEnv hook) P (pathExists p)
      (fun b l h => P l h ∧ (b = true → (h.disk.node p).isSome)
        ∧ (b = false → h.disk.node p = none)) P := by
  intro l h hPh fails
  obtain ⟨-, heq⟩ | ⟨e, hact, heq⟩ | ⟨r, t, hact, heq⟩ :=
    answer_cases hook ⟨.lstat p, false⟩ h fails
  · rw [heq]
    exact hPh
  · -- where `lstat` fails with `ENOENT`, it is the tree that says so
    rw [heq]
    have hnone : h.disk.node p = none := by
      cases hstat : h.disk.lstat p with
      | error e' => exact Tree.lstat_eq_error hstat
      | ok kind =>
          rw [FileOp.act, hstat] at hact
          exact absurd hact nofun
    cases e with
    | enoent => exact ⟨hPh, nofun, fun _ => hnone⟩
    | _ => exact hPh
  · rw [heq]
    obtain ⟨kind, hstat, heq⟩ := map_eq_ok hact
    obtain ⟨rfl, rfl⟩ := Prod.mk.inj heq
    obtain ⟨n, hn, -⟩ := Tree.lstat_eq_ok hstat
    exact ⟨hP l h hPh, fun _ => hn ▸ rfl, nofun⟩

/-- An operation that only looks. -/
theorem meets_look (hP : Lasting P) {op : FileOp}
    (hlook : ∀ t r t', op.act hook t = .ok (r, t') → t' = t) :
    Code.Meets (fileEnv hook) P (perform op) (fun _ => P) P := by
  refine meets_perform (fun _ _ h => h) fun l h r t hPh hact => ?_
  rw [hlook h.disk r t hact]
  exact hP l h hPh

theorem meets_rejectSymlink (hP : Lasting P) (p : Path) :
    Code.Meets (fileEnv hook) P (rejectSymlink p) (fun _ => P) P := by
  refine Code.Meets.bind (meets_lstat hP p) fun info => ?_
  exact Code.Meets.when (fun _ => Code.Meets.throw fun _ _ h => h.1) fun _ _ _ h => h.1

theorem meets_requirePrivateFile (hP : Lasting P) (p : Path) :
    Code.Meets (fileEnv hook) P (requirePrivateFile p) (fun _ => P) P := by
  refine Code.Meets.bind (meets_rejectSymlink hP p) fun _ => ?_
  refine Code.Meets.bind (meets_lstat hP p) fun info => ?_
  exact Code.Meets.when (fun _ => Code.Meets.throw fun _ _ h => h.1) fun _ _ _ h => h.1

theorem meets_requirePrivateDirectory (hP : Lasting P) (p : Path) :
    Code.Meets (fileEnv hook) P (requirePrivateDirectory p) (fun _ => P) P := by
  refine Code.Meets.bind (meets_rejectSymlink hP p) fun _ => ?_
  refine Code.Meets.bind (meets_lstat hP p) fun info => ?_
  exact Code.Meets.when (fun _ => Code.Meets.throw fun _ _ h => h.1) fun _ _ _ h => h.1

/-- The rule of `if (await exists(path))`. -/
theorem meets_whenExists (hP : Lasting P) (p : Path) {c : Task σ Unit}
    {Q : Unit → σ → History → Prop}
    (hc : Code.Meets (fileEnv hook) (fun l h => P l h ∧ (h.disk.node p).isSome) c Q P)
    (hskip : ∀ l h, P l h → h.disk.node p = none → Q () l h) :
    Code.Meets (fileEnv hook) P (whenExists p c) Q P := by
  refine Code.Meets.bind (meets_pathExists hP p) fun b => ?_
  refine Code.Meets.when (fun hb => ?_) fun hb l h hPh => ?_
  · exact hc.weaken (fun _ _ h => ⟨h.1, h.2.1 hb⟩) (fun _ _ _ h => h) fun _ _ h => h
  · exact hskip l h hPh.1 (hPh.2.2 (Bool.not_eq_true b ▸ hb))

theorem meets_requireIfExists (hP : Lasting P) (p : Path) {c : Task σ Unit}
    (hc : Code.Meets (fileEnv hook) P c (fun _ => P) P) :
    Code.Meets (fileEnv hook) P (whenExists p c) (fun _ => P) P :=
  meets_whenExists hP p (hc.weaken (fun _ _ h => h.1) (fun _ _ _ h => h) fun _ _ h => h)
    fun _ _ h _ => h

theorem meets_validatePrivateStateDirectoriesForRead (hP : Lasting P) (paths : RealTestnetPaths) :
    Code.Meets (fileEnv hook) P (validatePrivateStateDirectoriesForRead paths)
      (fun _ => P) P :=
  Code.Meets.bind (meets_requireIfExists hP _ (meets_requirePrivateDirectory hP _)) fun _ =>
    meets_requireIfExists hP _ (meets_requirePrivateDirectory hP _)

theorem meets_parsed (rt : Runtime) (schema : Json → Option α) (text : String) :
    Code.Meets (fileEnv hook) P (parsed rt schema text) (fun _ => P) P :=
  Code.Meets.of (fun _ _ _ _ h => h) fun _ _ h => h

/-- Reading a private document changes nothing. -/
theorem meets_readPrivateJson (hP : Lasting P) (rt : Runtime) (p : Path)
    (schema : Json → Option α) :
    Code.Meets (fileEnv hook) P (readPrivateJson rt p schema) (fun _ => P) P := by
  refine Code.Meets.bind (meets_pathExists hP p) fun b => ?_
  refine Code.Meets.weaken (Code.Meets.ite (fun _ => ?_) fun _ => ?_) (fun _ _ h => h.1)
    (fun _ _ _ h => h) fun _ _ h => h
  · refine Code.Meets.bind (meets_requirePrivateFile hP p) fun _ => ?_
    refine Code.Meets.bind (meets_readFile hP p) fun text => ?_
    exact Code.Meets.bind (meets_parsed rt schema text) fun _ => Code.Meets.pure fun _ _ h => h
  · exact Code.Meets.pure fun _ _ h => h

/-- **A manifest is loaded exactly if there is one.** -/
theorem meets_loadOptionalAccountManifest (hP : Lasting P) (rt : Runtime) (p : Path) :
    Code.Meets (fileEnv hook) P (loadOptionalAccountManifest rt p)
      (fun m l h => P l h ∧ (m.isSome = true → (h.disk.node p).isSome)
        ∧ (m.isSome = false → h.disk.node p = none)) P := by
  refine Code.Meets.bind (meets_pathExists hP p) fun b => ?_
  refine Code.Meets.ite (fun hb => ?_) fun hb => ?_
  · -- what is at the path stays there while it is read
    have hlasting : Lasting fun l h => P l h ∧ (h.disk.node p).isSome :=
      fun l h hPh => ⟨hP l h hPh.1, hPh.2⟩
    have hread : Code.Meets (fileEnv hook) (fun l h => P l h ∧ (h.disk.node p).isSome)
        (do
          rejectSymlink p
          let text ← perform (.readFile p)
          let value ← parsed rt accountManifestSchema text
          return some value : Task σ (Option AccountManifest))
        (fun m l h => (P l h ∧ (h.disk.node p).isSome) ∧ m.isSome)
        (fun l h => P l h ∧ (h.disk.node p).isSome) := by
      refine Code.Meets.bind (meets_rejectSymlink hlasting p) fun _ => ?_
      refine Code.Meets.bind (meets_readFile hlasting p) fun text => ?_
      refine Code.Meets.bind (meets_parsed rt accountManifestSchema text) fun _ => ?_
      exact Code.Meets.pure fun _ _ h => ⟨h, rfl⟩
    refine hread.weaken (fun _ _ h => ⟨h.1, h.2.1 hb⟩) (fun m l h hend => ?_) fun _ _ h => h.1
    exact ⟨hend.1.1, fun _ => hend.1.2, fun hm => absurd (hm.symm.trans hend.2) nofun⟩
  · exact Code.Meets.pure fun _ _ h => ⟨h.1, nofun, fun _ => h.2.2 (Bool.not_eq_true b ▸ hb)⟩

theorem meets_loadRecovery (hP : Lasting P) (rt : Runtime) (paths : RealTestnetPaths) :
    Code.Meets (fileEnv hook) P (loadRecovery rt paths) (fun _ => P) P :=
  Code.Meets.bind (meets_validatePrivateStateDirectoriesForRead hP paths) fun _ =>
    meets_readPrivateJson hP rt _ _

theorem meets_loadRun (hP : Lasting P) (rt : Runtime) (paths : RealTestnetPaths) :
    Code.Meets (fileEnv hook) P (loadRun rt paths) (fun _ => P) P :=
  Code.Meets.bind (meets_validatePrivateStateDirectoriesForRead hP paths) fun _ =>
    meets_readPrivateJson hP rt _ _

/-- **Loading the state changes nothing on the disk.** -/
theorem meets_loadDiskState (hP : Lasting P) (rt : Runtime) (paths : RealTestnetPaths) :
    Code.Meets (fileEnv hook) P (loadDiskState rt paths) (fun _ => P) P := by
  refine Code.Meets.bind (R := fun _ => P) ?_ fun recovery => ?_
  · exact Code.Meets.tryCatch (meets_loadRecovery hP rt paths) fun _ =>
      Code.Meets.throw fun _ _ h => h
  · refine Code.Meets.bind (meets_pathExists hP _) fun b => ?_
    exact Code.Meets.pure fun _ _ h => h.1

end Rules

end CkbArchive
