import CkbAccount.BrowserCodecProofs

/-! # Hex text and manifest schemas

    `demo/src/shared/bytes.ts` and `demo/src/shared/schemas.ts`: hashes and cell data are
    passed around as lowercase hex text, and every value that comes from a file or from the
    network goes through a schema before it is used.

    * `bytesFromHex_eq_ok`: the decoder accepts exactly what `hexFromBytes` writes, but for
      the empty byte string;
    * `hex_of_matches`: text of one of the fixed-width patterns is the text of bytes of that
      width. -/

namespace CkbSchemas

open RustOutcome Outcome CkbBrowserCodec

/-! ## Hex text -/

/-- `padStart`. -/
def padStart (width : Nat) (pad : Char) (text : List Char) : List Char :=
  List.replicate (width - text.length) pad ++ text

/-- `byte.toString(16).padStart(2, "0")`. -/
def hexByte (byte : UInt8) : List Char := padStart 2 '0' (Nat.toDigits 16 byte.toNat)

/-- `hexFromBytes`. -/
def hexFromBytes (bytes : Bytes) : String :=
  bytes.foldl (fun value byte => value ++ String.ofList (hexByte byte)) "0x"

/-- `[0-9a-f]`. -/
def isHexDigit (c : Char) : Bool :=
  (0x30 ≤ c.toNat && c.toNat ≤ 0x39) || (0x61 ≤ c.toNat && c.toNat ≤ 0x66)

/-- The value of a digit, as `Number.parseInt(_, 16)` reads it. -/
def digitValue (c : Char) : Nat := if c.toNat ≤ 0x39 then c.toNat - 0x30 else c.toNat - 0x57

/-- The loop of `bytesFromHex`: two digits for each byte. -/
def hexDigitPairs : List Char → Bytes
  | hi :: lo :: rest => UInt8.ofNat (digitValue hi * 16 + digitValue lo) :: hexDigitPairs rest
  | _ => []

/-- `/^0x(?:[0-9a-f]{2})+$/`. -/
def isHexText (text : List Char) : Bool :=
  text.take 2 == ['0', 'x'] && text.drop 2 != [] && (text.drop 2).length % 2 == 0
    && (text.drop 2).all isHexDigit

/-- `bytesFromHex`. -/
def bytesFromHex (hex : String) : Outcome JsError Bytes := do
  rejectIf (!isHexText hex.toList) (.typeError "expected canonical lowercase 0x hex")
  return hexDigitPairs (hex.toList.drop 2)

/-- `toLowerCase`, on the letters that hex text is made of. -/
def toLowerCase (text : String) : String := String.ofList (text.toList.map Char.toLower)

/-- The two digits of a byte. -/
theorem hexByte_eq (byte : UInt8) :
    hexByte byte = [Nat.digitChar (byte.toNat / 16), Nat.digitChar (byte.toNat % 16)] := by
  have hall : ∀ n < 256, padStart 2 '0' (Nat.toDigits 16 n)
      = [Nat.digitChar (n / 16), Nat.digitChar (n % 16)] := by decide +kernel
  exact hall byte.toNat byte.toNat_lt

/-- A digit is the character of its value. -/
theorem digitChar_digitValue {c : Char} (h : isHexDigit c = true) :
    digitValue c < 16 ∧ Nat.digitChar (digitValue c) = c := by
  have hchar : ∀ n < 128, isHexDigit (Char.ofNat n) = true →
      digitValue (Char.ofNat n) < 16
        ∧ Nat.digitChar (digitValue (Char.ofNat n)) = Char.ofNat n := by decide
  have hlt : c.toNat < 128 := by
    simp only [isHexDigit, Bool.or_eq_true, Bool.and_eq_true, decide_eq_true_eq] at h
    omega
  have hc : Char.ofNat c.toNat = c := Char.ofNat_toNat c
  rw [← hc] at h ⊢
  exact hchar c.toNat hlt h

/-- The character of a value below sixteen is a digit with that value. -/
theorem digitValue_digitChar {n : Nat} (h : n < 16) :
    isHexDigit (Nat.digitChar n) = true ∧ digitValue (Nat.digitChar n) = n := by
  have hall : ∀ n < 16, isHexDigit (Nat.digitChar n) = true ∧ digitValue (Nat.digitChar n) = n := by
    decide
  exact hall n h

/-- The digits behind the marker. -/
theorem hexFromBytes_toList (bytes : Bytes) :
    (hexFromBytes bytes).toList = '0' :: 'x' :: bytes.flatMap hexByte := by
  -- the fold appends two digits for each byte to whatever has been written
  have hfold : ∀ (rest : Bytes) (value : String),
      (rest.foldl (fun value byte => value ++ String.ofList (hexByte byte)) value).toList
        = value.toList ++ rest.flatMap hexByte := by
    intro rest
    induction rest with
    | nil =>
        intro value
        rw [List.foldl_nil, List.flatMap_nil, List.append_nil]
    | cons byte rest ih =>
        intro value
        rw [List.foldl_cons, ih, String.toList_append, String.toList_ofList, List.flatMap_cons,
          List.append_assoc]
  exact hfold bytes "0x"

theorem flatMap_hexByte_length (bytes : Bytes) :
    (bytes.flatMap hexByte).length = 2 * bytes.length := by
  induction bytes with
  | nil => rfl
  | cons byte bytes ih =>
      rw [List.flatMap_cons, List.length_append, ih, hexByte_eq, List.length_cons]
      simp only [List.length_cons, List.length_nil]
      omega

theorem all_flatMap_hexByte (bytes : Bytes) : (bytes.flatMap hexByte).all isHexDigit = true := by
  induction bytes with
  | nil => rfl
  | cons byte bytes ih =>
      have hbyte := byte.toNat_lt
      rw [List.flatMap_cons, List.all_append, ih, hexByte_eq]
      simp only [List.all_cons, List.all_nil, Bool.and_true, Bool.and_eq_true]
      exact ⟨(digitValue_digitChar (by omega)).1, (digitValue_digitChar (by omega)).1⟩

/-- Reading the digits of bytes gives the bytes back. -/
theorem hexDigitPairs_flatMap (bytes : Bytes) : hexDigitPairs (bytes.flatMap hexByte) = bytes := by
  induction bytes with
  | nil => rfl
  | cons byte bytes ih =>
      have hbyte := byte.toNat_lt
      rw [List.flatMap_cons, hexByte_eq]
      simp only [List.cons_append, List.nil_append, hexDigitPairs, ih]
      rw [(digitValue_digitChar (by omega)).2, (digitValue_digitChar (by omega)).2,
        Nat.div_add_mod', UInt8.ofNat_toNat]

/-- Pairs of digits are the digits of the bytes read from them. -/
theorem flatMap_hexDigitPairs :
    ∀ {text : List Char}, text.length % 2 = 0 → text.all isHexDigit = true →
      (hexDigitPairs text).flatMap hexByte = text
  | [], _, _ => rfl
  | [_], hlen, _ => absurd hlen (by simp)
  | hi :: lo :: rest, hlen, hall => by
      simp only [List.all_cons, Bool.and_eq_true] at hall
      obtain ⟨hhi, hlo, hrest⟩ := hall
      obtain ⟨hhiLt, hhiChar⟩ := digitChar_digitValue hhi
      obtain ⟨hloLt, hloChar⟩ := digitChar_digitValue hlo
      have hvalue : (UInt8.ofNat (digitValue hi * 16 + digitValue lo)).toNat
          = digitValue hi * 16 + digitValue lo := by
        rw [UInt8.toNat_ofNat']
        omega
      have hdiv : (digitValue hi * 16 + digitValue lo) / 16 = digitValue hi := by omega
      have hmod : (digitValue hi * 16 + digitValue lo) % 16 = digitValue lo := by omega
      have htail : rest.length % 2 = 0 := by
        simp only [List.length_cons] at hlen
        omega
      rw [hexDigitPairs, List.flatMap_cons, hexByte_eq, hvalue, hdiv, hmod, hhiChar, hloChar,
        flatMap_hexDigitPairs htail hrest]
      rfl

theorem hexFromBytes_injective {a b : Bytes} (h : hexFromBytes a = hexFromBytes b) : a = b := by
  have hlist := congrArg String.toList h
  rw [hexFromBytes_toList, hexFromBytes_toList] at hlist
  have hdigits := (List.cons.inj (List.cons.inj hlist).2).2
  rw [← hexDigitPairs_flatMap a, ← hexDigitPairs_flatMap b, hdigits]

/-- **The decoder inverts the encoder**: it accepts the text of nonempty byte strings and
    nothing else. -/
theorem bytesFromHex_eq_ok {hex : String} {bytes : Bytes} :
    bytesFromHex hex = .ok bytes ↔ bytes ≠ [] ∧ hex = hexFromBytes bytes := by
  rw [bytesFromHex, rejectIf_bind_eq_ok, pure_eq, Outcome.ok.injEq]
  simp only [Bool.not_eq_true', Bool.not_eq_false, isHexText, Bool.and_eq_true, beq_iff_eq,
    bne_iff_ne, ne_eq]
  constructor
  · rintro ⟨⟨⟨⟨hmark, hne⟩, heven⟩, hall⟩, rfl⟩
    have hdigits := flatMap_hexDigitPairs heven hall
    refine ⟨fun hnil => hne ?_, ?_⟩
    · rw [← hdigits, hnil, List.flatMap_nil]
    · apply String.toList_inj.mp
      rw [hexFromBytes_toList, hdigits]
      calc hex.toList = hex.toList.take 2 ++ hex.toList.drop 2 := (List.take_append_drop ..).symm
        _ = '0' :: 'x' :: hex.toList.drop 2 := by rw [hmark]; rfl
  · rintro ⟨hne, rfl⟩
    simp only [hexFromBytes_toList, List.take_succ_cons, List.take_zero, List.drop_succ_cons,
      List.drop_zero]
    refine ⟨⟨⟨⟨trivial, fun hnil => ?_⟩, ?_⟩, all_flatMap_hexByte bytes⟩, hexDigitPairs_flatMap bytes⟩
    · have hlen := flatMap_hexByte_length bytes
      rw [hnil, List.length_nil] at hlen
      exact hne (List.eq_nil_of_length_eq_zero (by omega))
    · rw [flatMap_hexByte_length]
      omega

theorem bytesFromHex_hexFromBytes {bytes : Bytes} (h : bytes ≠ []) :
    bytesFromHex (hexFromBytes bytes) = .ok bytes :=
  bytesFromHex_eq_ok.mpr ⟨h, rfl⟩

/-! ## Fixed-width patterns -/

/-- `^lead[0-9a-f]{digits}$`. -/
def matchesHex (lead : String) (digits : Nat) (text : String) : Bool :=
  text.toList.take lead.length == lead.toList
    && (text.toList.drop lead.length).length == digits
    && (text.toList.drop lead.length).all isHexDigit

/-- `Hash32Schema`. -/
def isHash32 (text : String) : Bool := matchesHex "0x" 64 text

/-- `PublicKeySchema`. -/
def isPublicKey (text : String) : Bool := matchesHex "0x04" 128 text

/-- `AccountLockArgsSchema`. -/
def isAccountLockArgs (text : String) : Bool := matchesHex "0x01" 64 text

/-- `/^(0|[1-9][0-9]*)$/`. -/
def isDecimal (text : String) : Bool :=
  text == "0" || (text.toList.all (fun c => '0' ≤ c && c ≤ '9')
    && text.toList.head?.any (fun c => c != '0'))

/-- `/^[A-Za-z0-9_-]+$/`. -/
def isBase64url (text : String) : Bool :=
  text != "" && text.toList.all fun c =>
    ('A' ≤ c && c ≤ 'Z') || ('a' ≤ c && c ≤ 'z') || ('0' ≤ c && c ≤ '9') || c == '_' || c == '-'

/-- **Text of a fixed-width pattern is the text of bytes of that width**, and the bytes
    start with those of the lead. -/
theorem hex_of_matches {lead : Bytes} {width : Nat} {text : String}
    (h : matchesHex (hexFromBytes lead) (2 * width) text = true) :
    ∃ bytes : Bytes, bytes.length = width ∧ text = hexFromBytes (lead ++ bytes) := by
  simp only [matchesHex, Bool.and_eq_true, beq_iff_eq] at h
  obtain ⟨⟨hlead, hlen⟩, hall⟩ := h
  have hdigits := flatMap_hexDigitPairs (by rw [hlen]; omega) hall
  refine ⟨hexDigitPairs (text.toList.drop (hexFromBytes lead).length), ?_, ?_⟩
  · have hcount := congrArg List.length hdigits
    rw [flatMap_hexByte_length, hlen] at hcount
    omega
  · apply String.toList_inj.mp
    rw [hexFromBytes_toList, List.flatMap_append, hdigits]
    calc text.toList
        = text.toList.take (hexFromBytes lead).length
            ++ text.toList.drop (hexFromBytes lead).length := (List.take_append_drop ..).symm
      _ = (hexFromBytes lead).toList ++ text.toList.drop (hexFromBytes lead).length := by
          rw [hlead]
      _ = _ := by
          rw [hexFromBytes_toList]
          rfl

/-! ## Values of unknown shape

    The schemas are built with the package `zod`.  The few combinators that they use are written
    out below as its documentation has them. -/

/-- What `JSON.parse` returns.  Of a number that is not whole only that matters. -/
inductive Json where
  | null
  | bool (b : Bool)
  | number (n : Int)
  | fraction
  | string (text : String)
  | array (items : List Json)
  | object (members : List (String × Json))

namespace Json

/-- A member of an object; anything else has none. -/
def member (name : String) : Json → Option Json
  | .object members => members.lookup name
  | _ => none

/-- `z.object(shape).strict()`: an object with no member outside the shape.  A member
    `__proto__`, which `JSON.parse` can make, is passed over unseen. -/
def isStrict (shape : List String) : Json → Bool
  | .object members => members.all fun m => m.1 == "__proto__" || shape.contains m.1
  | _ => false

/-- `z.string()` with a check. -/
def text (check : String → Bool) : Json → Option String
  | .string t => if check t then some t else none
  | _ => none

/-- `z.number().int().nonnegative()`. -/
def nonnegative : Json → Option Nat
  | .number n => if 0 ≤ n ∧ n ≤ maxSafeInteger then some n.toNat else none
  | _ => none

/-- `z.number().int().positive()`. -/
def positive (v : Json) : Option Nat := v.nonnegative.filter (0 < ·)

/-- `z.literal(1)`. -/
def isOne : Json → Bool
  | .number n => n == 1
  | _ => false

/-- `z.literal(true)`. -/
def isTrue : Json → Bool
  | .bool b => b
  | _ => false

/-- `z.literal(text)`. -/
def isText (expected : String) (v : Json) : Bool := (v.text (· == expected)).isSome

end Json

/-! ## Schemas -/

/-- `OutPointSchema`. -/
structure OutPoint where
  txHash : String
  index : Nat
  deriving DecidableEq, Repr

/-- `OutPointSchema`. -/
def outPointSchema (v : Json) : Option OutPoint := do
  guard (v.isStrict ["tx_hash", "index"])
  let txHash ← (← v.member "tx_hash").text isHash32
  let index ← (← v.member "index").nonnegative
  return { txHash, index }

/-- The lock of `AccountManifestSchema`; its hash type is always `data2`. -/
structure LockEntry where
  codeHash : String
  args : String
  deriving DecidableEq, Repr

/-- The lock of `AccountManifestSchema`. -/
def lockSchema (v : Json) : Option LockEntry := do
  guard (v.isStrict ["code_hash", "hash_type", "args"])
  let codeHash ← (← v.member "code_hash").text isHash32
  guard ((← v.member "hash_type").isText "data2")
  let args ← (← v.member "args").text isAccountLockArgs
  return { codeHash, args }

/-- `AccountManifest`, without its literals. -/
structure AccountManifest where
  accountId : String
  accountLock : LockEntry
  typeIdArgs : String
  stateOutPoint : OutPoint
  assetOutPoint : OutPoint
  stateBytes : Nat
  deriving DecidableEq, Repr

/-- `text.slice(start)`. -/
def sliceFrom (start : Nat) (text : String) : List Char := text.toList.drop start

/-- `AccountManifestSchema`. -/
def accountManifestSchema (v : Json) : Option AccountManifest := do
  guard (v.isStrict ["schema_version", "network", "account_id", "account_lock", "type_id_args",
    "state_out_point", "asset_out_point", "state_bytes"])
  guard (← v.member "schema_version").isOne
  guard ((← v.member "network").isText "testnet")
  let accountId ← (← v.member "account_id").text isHash32
  let accountLock ← lockSchema (← v.member "account_lock")
  let typeIdArgs ← (← v.member "type_id_args").text isHash32
  let stateOutPoint ← outPointSchema (← v.member "state_out_point")
  let assetOutPoint ← outPointSchema (← v.member "asset_out_point")
  let stateBytes ← (← v.member "state_bytes").positive
  guard (sliceFrom 4 accountLock.args = sliceFrom 2 accountId)
  return { accountId, accountLock, typeIdArgs, stateOutPoint, assetOutPoint, stateBytes }

/-- `DeploymentArtifactSchema`, without its literals. -/
structure Artifact where
  dataHash : String
  txHash : String
  index : Nat
  capacityShannons : String
  deriving DecidableEq, Repr

/-- `DeploymentArtifactSchema`, for the artifact of this name. -/
def artifactSchema (name : String) (v : Json) : Option Artifact := do
  guard (v.isStrict ["name", "dataHash", "hashType", "txHash", "index", "capacityShannons"])
  guard ((← v.member "name").isText name)
  let dataHash ← (← v.member "dataHash").text isHash32
  guard ((← v.member "hashType").isText "data2")
  let txHash ← (← v.member "txHash").text isHash32
  let index ← (← v.member "index").nonnegative
  let capacityShannons ← (← v.member "capacityShannons").text isDecimal
  return { dataHash, txHash, index, capacityShannons }

/-- `DeploymentManifest`, without its literals and its note. -/
structure DeploymentManifest where
  accountLock : Artifact
  verifierP256 : Artifact
  deriving DecidableEq, Repr

/-- The length of a string in UTF-16 units. -/
def utf16Length (text : String) : Nat :=
  (text.toList.map fun c => if c.toNat < 0x10000 then 1 else 2).sum

/-- `z.string().max(500).optional()`. -/
def isNote (v : Option Json) : Bool :=
  v.all fun note => (note.text fun t => utf16Length t ≤ 500).isSome

/-- `DeploymentManifestSchema`. -/
def deploymentManifestSchema (v : Json) : Option DeploymentManifest := do
  guard (v.isStrict ["schema_version", "network", "published", "hash_type", "note", "artifacts"])
  guard (← v.member "schema_version").isOne
  guard ((← v.member "network").isText "testnet")
  guard (← v.member "published").isTrue
  guard ((← v.member "hash_type").isText "data2")
  guard (isNote (v.member "note"))
  let artifacts ← v.member "artifacts"
  guard (artifacts.isStrict ["account_lock", "verifier_p256"])
  let accountLock ← artifactSchema "account_lock" (← artifacts.member "account_lock")
  let verifierP256 ← artifactSchema "verifier_p256" (← artifacts.member "verifier_p256")
  return { accountLock, verifierP256 }

/-- `BootstrapRequest`. -/
structure BootstrapRequest where
  publicKey : String
  credentialId : String
  deriving DecidableEq, Repr

/-- `BootstrapRequestSchema`. -/
def bootstrapRequestSchema (v : Json) : Option BootstrapRequest := do
  guard (v.isStrict ["publicKey", "credentialId"])
  let publicKey ← (← v.member "publicKey").text isPublicKey
  let credentialId ← (← v.member "credentialId").text isBase64url
  return { publicKey, credentialId }

/-- `RP_ID`. -/
def rpId : String := "localhost"

/-- `CLIENT_ORIGIN`. -/
def clientOrigin : String := "http://localhost:5173"

/-- `PasskeyRecord`, without its literals. -/
structure PasskeyRecord where
  credentialId : String
  publicKey : String
  keyId : String
  createdAt : String
  deriving DecidableEq, Repr

/-- `PasskeyRecordSchema`; `datetime` is the check of `z.string().datetime()`. -/
def passkeyRecordSchema (datetime : String → Bool) (v : Json) : Option PasskeyRecord := do
  guard (v.isStrict ["schemaVersion", "credentialId", "publicKey", "keyId", "rpId", "origin",
    "createdAt"])
  guard (← v.member "schemaVersion").isOne
  let credentialId ← (← v.member "credentialId").text isBase64url
  let publicKey ← (← v.member "publicKey").text isPublicKey
  let keyId ← (← v.member "keyId").text isHash32
  guard ((← v.member "rpId").isText rpId)
  guard ((← v.member "origin").isText clientOrigin)
  let createdAt ← (← v.member "createdAt").text datetime
  return { credentialId, publicKey, keyId, createdAt }

end CkbSchemas
