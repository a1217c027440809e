import CkbAccount.SpendStateProofs

/-! # Values on the wire

    What has passed a schema of `demo/src/shared/schemas.ts` is sent on as JSON, and passes the
    same schema at the other end.  A parsed value is an object with the members of the shape in
    their order, so each of the types has one JSON form.

    * `toJson` for manifests, requests, records, statuses, errors and receipts;
    * `Valid`: the checks of a schema, as a property of the value;
    * `…_valid` and `…_toJson`: a schema returns valid values, and reads them back. -/

namespace CkbSchemas

open RustOutcome Outcome CkbBrowserCodec
open CkbSpend (check_of_text text_of_check)

/-! ## Numbers -/

/-- A safe natural number passes `z.number().int().nonnegative()`. -/
theorem nonnegative_number {n : Nat} (h : n ≤ maxSafeInteger) :
    (Json.number n).nonnegative = some n := by
  rw [Json.nonnegative, if_pos ⟨Int.natCast_nonneg n, Int.ofNat_le.mpr h⟩, Int.toNat_natCast]

/-- Nothing beyond the safe integers passes it. -/
theorem le_of_nonnegative {v : Json} {n : Nat} (h : v.nonnegative = some n) :
    n ≤ maxSafeInteger := by
  cases v with
  | number m =>
      rw [Json.nonnegative] at h
      split at h
      · rename_i hbounds
        cases h
        omega
      · cases h
  | _ => cases h

/-- A positive safe number passes `z.number().int().positive()`. -/
theorem positive_number {n : Nat} (hpos : 0 < n) (h : n ≤ maxSafeInteger) :
    (Json.number n).positive = some n := by
  rw [Json.positive, nonnegative_number h]
  simp only [Option.filter, hpos, decide_true, if_true]

/-- Nothing but positive safe numbers passes it. -/
theorem bounds_of_positive {v : Json} {n : Nat} (h : v.positive = some n) :
    0 < n ∧ n ≤ maxSafeInteger := by
  obtain ⟨hnonnegative, hpos⟩ := Option.filter_eq_some_iff.mp h
  exact ⟨of_decide_eq_true hpos, le_of_nonnegative hnonnegative⟩

/-- What a `guard` lets through. -/
theorem of_guard {p : Prop} [Decidable p] {u : Unit} (h : (guard p : Option Unit) = some u) : p := by
  by_contra hp
  rw [guard, if_neg hp] at h
  cases h

/-- The first digit of a positive number. -/
theorem head?_toDigits {n : Nat} (h : 0 < n) :
    ∃ c, (Nat.toDigits 10 n).head? = some c ∧ c ≠ '0' := by
  induction n using Nat.strongRecOn with
  | ind n ih =>
      by_cases hlt : n < 10
      · refine ⟨n.digitChar, by rw [Nat.toDigits_of_lt_base hlt]; rfl, ?_⟩
        have hdigits : ∀ m : Fin 10, m ≠ 0 → (m : Nat).digitChar ≠ '0' := by decide
        exact hdigits ⟨n, hlt⟩ fun hzero => Nat.ne_of_gt h (congrArg Fin.val hzero)
      · obtain ⟨c, hc, hne⟩ := ih (n / 10) (by omega) (by omega)
        refine ⟨c, ?_, hne⟩
        rw [Nat.toDigits_of_base_le (by decide) (Nat.le_of_not_lt hlt), List.head?_append, hc]
        rfl

/-- A number as `toString` writes it passes the check of decimal texts. -/
theorem isDecimal_toString (n : Nat) : isDecimal (toString n) = true := by
  rcases Nat.eq_zero_or_pos n with rfl | hpos
  · decide
  · obtain ⟨c, hc, hne⟩ := head?_toDigits hpos
    have htext : (toString n).toList = Nat.toDigits 10 n := String.toList_ofList
    have hdigits : (Nat.toDigits 10 n).all (fun c => '0' ≤ c && c ≤ '9') = true := by
      rw [List.all_eq_true]
      intro c hmem
      have hdigit := Nat.isDigit_of_mem_toDigits (by decide) (by decide) hmem
      simpa [Char.isDigit, Char.le_def] using hdigit
    rw [isDecimal, htext, hdigits, hc]
    simp [hne]

/-! ## Account manifests -/

/-- The checks of `OutPointSchema`. -/
structure OutPoint.Valid (o : OutPoint) : Prop where
  txHash : isHash32 o.txHash = true
  index : o.index ≤ maxSafeInteger

/-- An out point, with the members in the order of the shape. -/
def OutPoint.toJson (o : OutPoint) : Json :=
  .object [("tx_hash", .string o.txHash), ("index", .number o.index)]

/-- `OutPointSchema` returns valid out points. -/
theorem outPointSchema_valid {v : Json} {o : OutPoint} (h : outPointSchema v = some o) :
    o.Valid := by
  simp only [outPointSchema, Option.bind_eq_bind, Option.bind_eq_some_iff] at h
  obtain ⟨_, -, _, -, txHash, htxHash, _, -, index, hindex, h⟩ := h
  cases h
  exact ⟨check_of_text htxHash, le_of_nonnegative hindex⟩

/-- It reads them back. -/
theorem outPointSchema_toJson {o : OutPoint} (h : o.Valid) : outPointSchema o.toJson = some o := by
  simp [outPointSchema, OutPoint.toJson, Json.isStrict, Json.member, List.lookup_cons,
    text_of_check, h.txHash, nonnegative_number h.index]

/-- The checks of `account_lock` in `AccountManifestSchema`. -/
structure LockEntry.Valid (l : LockEntry) : Prop where
  codeHash : isHash32 l.codeHash = true
  args : isAccountLockArgs l.args = true

/-- The lock entry, with the literal of its hash type. -/
def LockEntry.toJson (l : LockEntry) : Json :=
  .object [("code_hash", .string l.codeHash), ("hash_type", .string "data2"),
    ("args", .string l.args)]

/-- The schema of the lock returns valid locks. -/
theorem lockSchema_valid {v : Json} {l : LockEntry} (h : lockSchema v = some l) : l.Valid := by
  simp only [lockSchema, Option.bind_eq_bind, Option.bind_eq_some_iff] at h
  obtain ⟨_, -, _, -, codeHash, hcodeHash, _, -, _, -, _, -, args, hargs, h⟩ := h
  cases h
  exact ⟨check_of_text hcodeHash, check_of_text hargs⟩

/-- It reads them back. -/
theorem lockSchema_toJson {l : LockEntry} (h : l.Valid) : lockSchema l.toJson = some l := by
  simp [lockSchema, LockEntry.toJson, Json.isStrict, Json.member, List.lookup_cons, text_of_check,
    Json.isText, h.codeHash, h.args]

/-- The checks of `AccountManifestSchema`; `binds` is its refinement, that the args of the lock
    end in the account id. -/
structure AccountManifest.Valid (m : AccountManifest) : Prop where
  accountId : isHash32 m.accountId = true
  accountLock : m.accountLock.Valid
  typeIdArgs : isHash32 m.typeIdArgs = true
  stateOutPoint : m.stateOutPoint.Valid
  assetOutPoint : m.assetOutPoint.Valid
  stateBytes_pos : 0 < m.stateBytes
  stateBytes_le : m.stateBytes ≤ maxSafeInteger
  binds : sliceFrom 4 m.accountLock.args = sliceFrom 2 m.accountId

/-- The account manifest, with its literals. -/
def AccountManifest.toJson (m : AccountManifest) : Json :=
  .object [
    ("schema_version", .number 1),
    ("network", .string "testnet"),
    ("account_id", .string m.accountId),
    ("account_lock", m.accountLock.toJson),
    ("type_id_args", .string m.typeIdArgs),
    ("state_out_point", m.stateOutPoint.toJson),
    ("asset_out_point", m.assetOutPoint.toJson),
    ("state_bytes", .number m.stateBytes)]

/-- **`AccountManifestSchema` returns valid manifests.** -/
theorem accountManifestSchema_valid {v : Json} {m : AccountManifest}
    (h : accountManifestSchema v = some m) : m.Valid := by
  simp only [accountManifestSchema, Option.bind_eq_bind, Option.bind_eq_some_iff] at h
  obtain ⟨_, -, _, -, _, -, _, -, _, -, _, -, accountId, hid, _, -, lock, hlock, _, -, typeIdArgs,
    htype, _, -, state, hstate, _, -, asset, hasset, _, -, stateBytes, hbytes, _, hbinds, h⟩ := h
  cases h
  obtain ⟨hpos, hle⟩ := bounds_of_positive hbytes
  refine ⟨check_of_text hid, lockSchema_valid hlock, check_of_text htype,
    outPointSchema_valid hstate, outPointSchema_valid hasset, hpos, hle, ?_⟩
  exact of_guard hbinds

/-- **A valid manifest passes its schema again**, unchanged. -/
theorem accountManifestSchema_toJson {m : AccountManifest} (h : m.Valid) :
    accountManifestSchema m.toJson = some m := by
  simp [accountManifestSchema, AccountManifest.toJson, Json.isStrict, Json.member,
    List.lookup_cons, text_of_check, Json.isText, Json.isOne, h.accountId, h.typeIdArgs,
    lockSchema_toJson h.accountLock, outPointSchema_toJson h.stateOutPoint,
    outPointSchema_toJson h.assetOutPoint, positive_number h.stateBytes_pos h.stateBytes_le,
    h.binds]

/-! ## Deployment manifests -/

/-- The checks of `DeploymentArtifactSchema`. -/
structure Artifact.Valid (a : Artifact) : Prop where
  dataHash : isHash32 a.dataHash = true
  txHash : isHash32 a.txHash = true
  index : a.index ≤ maxSafeInteger
  capacityShannons : isDecimal a.capacityShannons = true

/-- The record of a code cell under its name. -/
def Artifact.toJson (name : String) (a : Artifact) : Json :=
  .object [
    ("name", .string name),
    ("dataHash", .string a.dataHash),
    ("hashType", .string "data2"),
    ("txHash", .string a.txHash),
    ("index", .number a.index),
    ("capacityShannons", .string a.capacityShannons)]

/-- The record passes the schema of its own name. -/
theorem artifactSchema_toJson {a : Artifact} (name : String) (h : a.Valid) :
    artifactSchema name (a.toJson name) = some a := by
  simp [artifactSchema, Artifact.toJson, Json.isStrict, Json.member, List.lookup_cons,
    text_of_check, Json.isText, h.dataHash, h.txHash, nonnegative_number h.index,
    h.capacityShannons]

/-- The checks of `DeploymentManifestSchema`: those of its two artifacts. -/
structure DeploymentManifest.Valid (d : DeploymentManifest) : Prop where
  accountLock : d.accountLock.Valid
  verifierP256 : d.verifierP256.Valid

/-- The deployment manifest, with its literals and without a note. -/
def DeploymentManifest.toJson (d : DeploymentManifest) : Json :=
  .object [
    ("schema_version", .number 1),
    ("network", .string "testnet"),
    ("published", .bool true),
    ("hash_type", .string "data2"),
    ("artifacts", .object [
      ("account_lock", d.accountLock.toJson "account_lock"),
      ("verifier_p256", d.verifierP256.toJson "verifier_p256")])]

/-- A valid deployment passes its schema. -/
theorem deploymentManifestSchema_toJson {d : DeploymentManifest} (h : d.Valid) :
    deploymentManifestSchema d.toJson = some d := by
  simp [deploymentManifestSchema, DeploymentManifest.toJson, Json.isStrict, Json.member,
    List.lookup_cons, text_of_check, Json.isText, Json.isOne, Json.isTrue, isNote,
    artifactSchema_toJson _ h.accountLock, artifactSchema_toJson _ h.verifierP256]

/-! ## Requests and records -/

/-- The checks of `BootstrapRequestSchema`. -/
structure BootstrapRequest.Valid (r : BootstrapRequest) : Prop where
  publicKey : isPublicKey r.publicKey = true
  credentialId : isBase64url r.credentialId = true

/-- The body of a bootstrap request. -/
def BootstrapRequest.toJson (r : BootstrapRequest) : Json :=
  .object [("publicKey", .string r.publicKey), ("credentialId", .string r.credentialId)]

/-- A valid request passes its schema at the server. -/
theorem bootstrapRequestSchema_toJson {r : BootstrapRequest} (h : r.Valid) :
    bootstrapRequestSchema r.toJson = some r := by
  simp [bootstrapRequestSchema, BootstrapRequest.toJson, Json.isStrict, Json.member,
    List.lookup_cons, text_of_check, h.publicKey, h.credentialId]

/-- The checks of `PasskeyRecordSchema`, for a given `z.iso.datetime()`. -/
structure PasskeyRecord.Valid (datetime : String → Bool) (r : PasskeyRecord) : Prop where
  credentialId : isBase64url r.credentialId = true
  publicKey : isPublicKey r.publicKey = true
  keyId : isHash32 r.keyId = true
  createdAt : datetime r.createdAt = true

/-- The record as the browser stores it. -/
def PasskeyRecord.toJson (r : PasskeyRecord) : Json :=
  .object [
    ("schemaVersion", .number 1),
    ("credentialId", .string r.credentialId),
    ("publicKey", .string r.publicKey),
    ("keyId", .string r.keyId),
    ("rpId", .string rpId),
    ("origin", .string clientOrigin),
    ("createdAt", .string r.createdAt)]

/-- `PasskeyRecordSchema` returns valid records. -/
theorem passkeyRecordSchema_valid {datetime : String → Bool} {v : Json} {r : PasskeyRecord}
    (h : passkeyRecordSchema datetime v = some r) : r.Valid datetime := by
  simp only [passkeyRecordSchema, Option.bind_eq_bind, Option.bind_eq_some_iff] at h
  obtain ⟨_, -, _, -, _, -, _, -, credentialId, hcredential, _, -, publicKey, hkey, _, -, keyId,
    hkeyId, _, -, _, -, _, -, _, -, _, -, createdAt, hcreated, h⟩ := h
  cases h
  exact ⟨check_of_text hcredential, check_of_text hkey, check_of_text hkeyId,
    check_of_text hcreated⟩

/-- **A stored record is read back as it was.** -/
theorem passkeyRecordSchema_toJson {datetime : String → Bool} {r : PasskeyRecord}
    (h : r.Valid datetime) : passkeyRecordSchema datetime r.toJson = some r := by
  simp [passkeyRecordSchema, PasskeyRecord.toJson, Json.isStrict, Json.member, List.lookup_cons,
    text_of_check, Json.isText, Json.isOne, h.credentialId, h.publicKey, h.keyId, h.createdAt]

end CkbSchemas
