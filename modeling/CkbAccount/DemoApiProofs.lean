import CkbAccount.DemoServiceProofs
import CkbAccount.WizardProofs

/-! # The local API

    `demo/src/server/http.ts` puts the service of the demo on a port of this machine, and
    `demo/src/client/api.ts` calls it through the proxy of `demo/vite.config.ts`.

    * `demoStatusSchema`, `apiErrorBodySchema`: the schemas that only this path has;
    * `handleRequest` and `createHttpServer`: the server;
    * `requestJson` and `createDemoApi`: the client;
    * `readBody_eq`: a body is read up to its limit, however it is cut;
    * `server_guards`: which requests reach the service;
    * `client_receives`: what the client gets is what the service gave. -/

namespace CkbDemoApi

open RustOutcome Outcome CkbBrowserCodec CkbSchemas
open CkbSpend (textEncode text_of_check check_of_text)
open CkbWizard (DemoStatus DemoApiErrorCode)
open CkbDemoService (ApiErrorCode ApiError Thrown apiError rethrowApi digits sampleManifest)

/-! ## Schemas -/

/-- `z.boolean()`. -/
def boolean : Json → Option Bool
  | .bool b => some b
  | _ => none

/-- `schema.nullable()`. -/
def nullable {α : Type} (schema : Json → Option α) : Json → Option (Option α)
  | .null => some none
  | v => (schema v).map some

/-- `z.string().min(1).max(200)`. -/
def isFunderAddress (text : String) : Bool := 1 ≤ utf16Length text && utf16Length text ≤ 200

/-- `DemoStatusSchema`. -/
def demoStatusSchema (v : Json) : Option DemoStatus := do
  guard (v.isStrict ["schemaVersion", "network", "origin", "rpId", "deploymentVerified",
    "deployment", "funderAddress", "funderBalanceShannons", "account"])
  guard (← v.member "schemaVersion").isOne
  guard ((← v.member "network").isText "testnet")
  guard ((← v.member "origin").isText clientOrigin)
  guard ((← v.member "rpId").isText rpId)
  let deploymentVerified ← boolean (← v.member "deploymentVerified")
  let deployment ← deploymentManifestSchema (← v.member "deployment")
  let funderAddress ← (← v.member "funderAddress").text isFunderAddress
  let funderBalanceShannons ← (← v.member "funderBalanceShannons").text isDecimal
  let account ← nullable accountManifestSchema (← v.member "account")
  return { deploymentVerified, deployment, funderAddress, funderBalanceShannons, account }

/-- `null`, or the JSON of a manifest. -/
def accountJson : Option AccountManifest → Json
  | none => .null
  | some account => account.toJson

/-- The body of a status. -/
def statusJson (status : DemoStatus) : Json :=
  .object [
    ("schemaVersion", .number 1),
    ("network", .string "testnet"),
    ("origin", .string clientOrigin),
    ("rpId", .string rpId),
    ("deploymentVerified", .bool status.deploymentVerified),
    ("deployment", status.deployment.toJson),
    ("funderAddress", .string status.funderAddress),
    ("funderBalanceShannons", .string status.funderBalanceShannons),
    ("account", accountJson status.account)]

/-- A status that passes its schema. -/
structure StatusValid (status : DemoStatus) : Prop where
  deployment : status.deployment.Valid
  funderAddress : isFunderAddress status.funderAddress = true
  funderBalance : isDecimal status.funderBalanceShannons = true
  account : ∀ a ∈ status.account, a.Valid

theorem nullable_accountJson {account : Option AccountManifest} (h : ∀ a ∈ account, a.Valid) :
    nullable accountManifestSchema (accountJson account) = some account := by
  cases account with
  | none => rfl
  | some a =>
      have hschema := accountManifestSchema_toJson (h a rfl)
      rw [accountJson]
      rw [AccountManifest.toJson] at hschema ⊢
      rw [nullable.eq_2 _ _ (by intro hnull; cases hnull), hschema]
      rfl

/-- A status is read back. -/
theorem demoStatusSchema_statusJson {status : DemoStatus} (h : StatusValid status) :
    demoStatusSchema (statusJson status) = some status := by
  simp [demoStatusSchema, statusJson, Json.isStrict, Json.member, List.lookup_cons, text_of_check,
    Json.isText, Json.isOne, boolean, deploymentManifestSchema_toJson h.deployment,
    h.funderAddress, h.funderBalance, nullable_accountJson h.account]

/-- The names of the codes. -/
def codeText : DemoApiErrorCode → String
  | .badOrigin => "BAD_ORIGIN"
  | .invalidRequest => "INVALID_REQUEST"
  | .keyUnavailable => "KEY_UNAVAILABLE"
  | .deploymentInvalid => "DEPLOYMENT_INVALID"
  | .accountNotCreated => "ACCOUNT_NOT_CREATED"
  | .accountMismatch => "ACCOUNT_MISMATCH"
  | .insufficientBalance => "INSUFFICIENT_BALANCE"
  | .bootstrapFailed => "BOOTSTRAP_FAILED"
  | .confirmationTimeout => "CONFIRMATION_TIMEOUT"
  | .internalError => "INTERNAL_ERROR"
  | .apiUnavailable => "API_UNAVAILABLE"
  | .invalidResponse => "INVALID_RESPONSE"

/-- The codes of `ApiErrorBodySchema`. -/
def wireCodes : List DemoApiErrorCode :=
  [.badOrigin, .invalidRequest, .keyUnavailable, .deploymentInvalid, .accountNotCreated,
    .accountMismatch, .insufficientBalance, .bootstrapFailed, .confirmationTimeout, .internalError]

/-- `ApiErrorBody`, without its wrapper. -/
structure ErrorBody where
  code : DemoApiErrorCode
  message : String
  deriving DecidableEq, Repr

/-- `z.enum([...])`. -/
def codeSchema : Json → Option DemoApiErrorCode
  | .string text => wireCodes.find? fun code => codeText code = text
  | _ => none

/-- `ApiErrorBodySchema`. -/
def apiErrorBodySchema (v : Json) : Option ErrorBody := do
  guard (v.isStrict ["error"])
  let error ← v.member "error"
  guard (error.isStrict ["code", "message"])
  let code ← codeSchema (← error.member "code")
  let message ← (← error.member "message").text fun t => utf16Length t ≤ 240
  return { code, message }

/-- The body of an error. -/
def errorJson (body : ErrorBody) : Json :=
  .object [("error", .object [("code", .string (codeText body.code)),
    ("message", .string body.message)])]

/-- A code of the wire is read back. -/
theorem codeSchema_codeText {code : DemoApiErrorCode} (h : code ∈ wireCodes) :
    codeSchema (.string (codeText code)) = some code := by
  cases code with
  | apiUnavailable => simp [wireCodes] at h
  | invalidResponse => simp [wireCodes] at h
  | _ => rfl

/-- An error is read back. -/
theorem apiErrorBodySchema_errorJson {body : ErrorBody} (hcode : body.code ∈ wireCodes)
    (hmessage : utf16Length body.message ≤ 240) :
    apiErrorBodySchema (errorJson body) = some body := by
  simp [apiErrorBodySchema, errorJson, Json.isStrict, Json.member, List.lookup_cons, text_of_check,
    codeSchema_codeText hcode, hmessage]

/-! ## Errors -/

/-- A code of the server among the codes of the wire. -/
def wireCode : ApiErrorCode → DemoApiErrorCode
  | .invalidRequest => .invalidRequest
  | .deploymentInvalid => .deploymentInvalid
  | .accountMismatch => .accountMismatch
  | .insufficientBalance => .insufficientBalance
  | .bootstrapFailed => .bootstrapFailed
  | .confirmationTimeout => .confirmationTimeout

/-- `toSafeErrorBody`. -/
def toSafeErrorBody : Thrown → ErrorBody
  | .api e => { code := wireCode e.code, message := e.safeMessage }
  | _ => { code := .internalError, message := "Unexpected local server error" }

/-- The status of the `catch` of `createHttpServer`. -/
def errorStatus : Thrown → Nat
  | .api e => e.status
  | _ => 500

/-- Every code that is written can be read. -/
theorem wireCode_mem (code : ApiErrorCode) : wireCode code ∈ wireCodes := by
  cases code <;> decide

/-! ## The server -/

/-- `REQUIRED_HOST`. -/
def requiredHost : String := "127.0.0.1:8790"

/-- `BODY_LIMIT`. -/
def bodyLimit : Nat := 16 * 1024

/-- `DemoService`, as the promises of its methods settle. -/
structure DemoService where
  status : Outcome Thrown DemoStatus
  account : Outcome Thrown (Option AccountManifest)
  bootstrap : BootstrapRequest → Outcome Thrown AccountManifest

/-- A method of the service is called. -/
inductive ServiceCall where
  | status
  | account
  | bootstrap (request : BootstrapRequest)
  deriving DecidableEq, Repr

/-- A request.  The body comes in chunks, and `broken` is a connection that is lost behind
    them. -/
structure IncomingMessage where
  method : String
  url : Option String
  host : Option String
  origin : Option String
  contentType : Option String
  contentLength : Option Nat
  chunks : List Bytes
  broken : Bool

/-- What the server writes: the status, its headers and the body. -/
structure ServerResponse where
  statusCode : Nat
  contentType : String
  vary : String
  cacheControl : String
  contentTypeOptions : String
  contentSecurityPolicy : String
  accessControlAllowOrigin : Option String
  allow : Option String
  body : String
  deriving DecidableEq, Repr

/-- White space of `String.prototype.trim`. -/
def isBlank (c : Char) : Bool :=
  (0x9 ≤ c.toNat && c.toNat ≤ 0xd) || c.toNat == 0x20 || c.toNat == 0xa0 || c.toNat == 0x1680
    || (0x2000 ≤ c.toNat && c.toNat ≤ 0x200a) || c.toNat == 0x2028 || c.toNat == 0x2029
    || c.toNat == 0x202f || c.toNat == 0x205f || c.toNat == 0x3000 || c.toNat == 0xfeff

/-- `(contentType ?? "").split(";", 1)[0].trim()`. -/
def mediaType (contentType : Option String) : List Char :=
  let first := ((contentType.getD "").toList.takeWhile (· ≠ ';')).dropWhile isBlank
  (first.reverse.dropWhile isBlank).reverse

/-- `readBody`, with what has come so far. -/
def readChunks (broken : Bool) : List Bytes → Nat → List Bytes → Outcome Thrown Bytes
  | [], _, chunks => if broken then .err .other else .ok chunks.flatten
  | chunk :: rest, length, chunks =>
      if length + chunk.length > bodyLimit then
        .err (apiError .invalidRequest 413 "Request body is too large")
      else readChunks broken rest (length + chunk.length) (chunks ++ [chunk])

/-- `readBody`. -/
def readBody (request : IncomingMessage) : Outcome Thrown Bytes :=
  readChunks request.broken request.chunks 0 []

/-- What the two sides depend on: `new URL(..).pathname`, and JSON. -/
structure Platform where
  pathname : String → Option String
  stringify : Json → String
  parseBody : Bytes → Option Json
  parseText : String → Option Json

section Code

variable (platform : Platform)

/-- `setJsonHeaders` and `sendJson`. -/
def sendJson (status : Nat) (value : Json) (allowOrigin : Bool) : ServerResponse where
  statusCode := status
  contentType := "application/json; charset=utf-8"
  vary := "Origin"
  cacheControl := "no-store"
  contentTypeOptions := "nosniff"
  contentSecurityPolicy := "default-src 'none'; frame-ancestors 'none'"
  accessControlAllowOrigin := if allowOrigin then some clientOrigin else none
  allow := none
  body := platform.stringify value ++ "\n"

/-- `methodNotAllowed`. -/
def methodNotAllowed (allowed : String) : ServerResponse :=
  { sendJson platform 405 (errorJson ⟨.invalidRequest, "Method not allowed"⟩) true with
    allow := some allowed }

/-- The body of a bootstrap request, as `handleRequest` reads it. -/
def readBootstrap (request : IncomingMessage) : Outcome Thrown BootstrapRequest := do
  rejectIf (mediaType request.contentType ≠ "application/json".toList)
    (apiError .invalidRequest 415 "Content-Type must be application/json")
  rejectIf (request.contentLength.getD 0 > bodyLimit)
    (apiError .invalidRequest 413 "Request body is too large")
  let value ← mapErr (rethrowApi (apiError .invalidRequest 400 "Request body must be valid JSON"))
    (readBody request >>= fun bytes => okOr .other (platform.parseBody bytes))
  okOr (apiError .invalidRequest 400 "Invalid account bootstrap request")
    (bootstrapRequestSchema value)

/-- `handleRequest`: the calls it makes, and its response or what it throws. -/
def handleRequest (service : DemoService) (request : IncomingMessage) :
    List ServiceCall × Outcome Thrown ServerResponse :=
  if request.host ≠ some requiredHost ∨ request.origin ≠ some clientOrigin then
    ([], .ok (sendJson platform 403
      (errorJson ⟨.badOrigin, "Request must come from the local demo"⟩) false))
  else match platform.pathname (request.url.getD "/") with
    | none => ([], .err .other)
    | some path =>
        if path = "/api/status" then
          if request.method ≠ "GET" then ([], .ok (methodNotAllowed platform "GET"))
          else ([.status], do
            let value ← service.status
            return sendJson platform 200 (statusJson value) true)
        else if path = "/api/account" then
          if request.method ≠ "GET" then ([], .ok (methodNotAllowed platform "GET"))
          else ([.account], do
            let value ← service.account
            return sendJson platform 200 (accountJson value) true)
        else if path = "/api/account/bootstrap" then
          if request.method ≠ "POST" then ([], .ok (methodNotAllowed platform "POST"))
          else match readBootstrap platform request with
            | .ok parsed => ([.bootstrap parsed], do
                let value ← service.bootstrap parsed
                return sendJson platform 200 value.toJson true)
            | .err e => ([], .err e)
            | .abort => ([], .abort)
        else ([], .ok (sendJson platform 404 (errorJson ⟨.invalidRequest, "Route not found"⟩) true))

/-- The response to what was thrown. -/
def sendError (e : Thrown) : ServerResponse :=
  sendJson platform (errorStatus e) (errorJson (toSafeErrorBody e)) true

/-- The `catch` of `createHttpServer`. -/
def respond : Outcome Thrown ServerResponse → ServerResponse
  | .ok response => response
  | .err e => sendError platform e
  | .abort => sendError platform .other

/-- `createHttpServer`: the calls and the response. -/
def createHttpServer (service : DemoService) (request : IncomingMessage) :
    List ServiceCall × ServerResponse :=
  let handled := handleRequest platform service request
  (handled.1, respond platform handled.2)

/-! ## The client -/

/-- `DemoApiError`. -/
structure DemoApiError where
  code : DemoApiErrorCode
  message : String
  status : Option Nat
  deriving DecidableEq, Repr

/-- What is handed to `fetch`. -/
structure FetchRequest where
  path : String
  method : String
  contentType : Option String
  body : Option String

/-- A response, as `fetch` returns it. -/
structure Response where
  status : Nat
  contentType : Option String
  text : String

/-- `invalidResponse`. -/
def invalidResponse : DemoApiError where
  code := .invalidResponse
  message := "Local API returned an invalid response"
  status := none

/-- `requestJson`; a `fetcher` that rejects returns none. -/
def requestJson {α : Type} (fetcher : FetchRequest → Option Response) (request : FetchRequest)
    (schema : Json → Option α) : Except DemoApiError α :=
  match fetcher request with
  | none => .error ⟨.apiUnavailable, "Local API is unavailable", none⟩
  | some response =>
      if response.contentType ≠ some "application/json; charset=utf-8" then .error invalidResponse
      else match platform.parseText response.text with
        | none => .error invalidResponse
        | some value =>
            if response.status < 200 ∨ 299 < response.status then
              match apiErrorBodySchema value with
              | none => .error invalidResponse
              | some body => .error ⟨body.code, body.message, some response.status⟩
            else match schema value with
              | none => .error invalidResponse
              | some result => .ok result

/-- `status` of `createDemoApi`. -/
def apiStatus (fetcher : FetchRequest → Option Response) : Except DemoApiError DemoStatus :=
  requestJson platform fetcher ⟨"/api/status", "GET", none, none⟩ demoStatusSchema

/-- `account` of `createDemoApi`. -/
def apiAccount (fetcher : FetchRequest → Option Response) :
    Except DemoApiError (Option AccountManifest) :=
  requestJson platform fetcher ⟨"/api/account", "GET", none, none⟩
    (nullable accountManifestSchema)

/-- The request that `bootstrap` of `createDemoApi` sends. -/
def bootstrapFetch (request : BootstrapRequest) : FetchRequest where
  path := "/api/account/bootstrap"
  method := "POST"
  contentType := some "application/json"
  body := some (platform.stringify request.toJson)

/-- `bootstrap` of `createDemoApi`. -/
def apiBootstrap (fetcher : FetchRequest → Option Response) (requestValue : Json) :
    Except DemoApiError AccountManifest :=
  match bootstrapRequestSchema requestValue with
  | none => .error ⟨.invalidRequest, "Invalid account bootstrap request", none⟩
  | some request => requestJson platform fetcher (bootstrapFetch platform request)
      accountManifestSchema

/-! ## The way between them -/

/-- The request as it comes out of the proxy, its body cut into chunks. -/
def proxied (cut : Bytes → List Bytes) (request : FetchRequest) : IncomingMessage where
  method := request.method
  url := some request.path
  host := some requiredHost
  origin := some clientOrigin
  contentType := request.contentType
  contentLength := request.body.map fun text => (textEncode text).length
  chunks := (request.body.map fun text => cut (textEncode text)).getD []
  broken := false

/-- A `fetch` that reaches the server. -/
def fetchLocal (service : DemoService) (cut : Bytes → List Bytes) (request : FetchRequest) :
    Option Response :=
  let response := (createHttpServer platform service (proxied cut request)).2
  some {
    status := response.statusCode
    contentType := some response.contentType
    text := response.body }

/-- The calls that a `fetch` leads to. -/
def callsOf (service : DemoService) (cut : Bytes → List Bytes) (request : FetchRequest) :
    List ServiceCall :=
  (createHttpServer platform service (proxied cut request)).1

end Code

/-! ## Bodies -/

/-- The loop of `readBody`, from what it has read so far. -/
theorem readChunks_eq (broken : Bool) (chunks : List Bytes) :
    ∀ read : List Bytes, read.flatten.length ≤ bodyLimit →
      readChunks broken chunks read.flatten.length read
        = if (read ++ chunks).flatten.length ≤ bodyLimit then
            if broken then .err .other else .ok (read ++ chunks).flatten
          else .err (apiError .invalidRequest 413 "Request body is too large") := by
  -- what has been read stays within the limit, and its length is the counter
  induction chunks with
  | nil =>
      intro read hread
      rw [List.append_nil, if_pos hread, readChunks]
  | cons chunk rest ih =>
      intro read hread
      have hlength : read.flatten.length + chunk.length = (read ++ [chunk]).flatten.length := by
        simp
      have hsplit : read ++ chunk :: rest = (read ++ [chunk]) ++ rest := by simp
      rw [readChunks, hlength, hsplit]
      by_cases hfits : (read ++ [chunk]).flatten.length ≤ bodyLimit
      · rw [if_neg (Nat.not_lt.mpr hfits)]
        exact ih (read ++ [chunk]) hfits
      · have hlong : ¬ ((read ++ [chunk]) ++ rest).flatten.length ≤ bodyLimit := by
          rw [List.flatten_append, List.length_append]
          omega
        rw [if_pos (Nat.lt_of_not_le hfits), if_neg hlong]

/-- **A body is read up to its limit**, however it is cut into chunks. -/
theorem readBody_eq (request : IncomingMessage) :
    readBody request
      = if request.chunks.flatten.length ≤ bodyLimit then
          if request.broken then .err .other else .ok request.chunks.flatten
        else .err (apiError .invalidRequest 413 "Request body is too large") :=
  readChunks_eq request.broken request.chunks [] (Nat.zero_le _)

/-- What a request must be to reach `service.bootstrap`. -/
theorem readBootstrap_eq_ok {platform : Platform} {request : IncomingMessage}
    {r : BootstrapRequest} (h : readBootstrap platform request = .ok r) :
    mediaType request.contentType = "application/json".toList
      ∧ request.chunks.flatten.length ≤ bodyLimit ∧ request.broken = false
      ∧ ∃ v, platform.parseBody request.chunks.flatten = some v
        ∧ bootstrapRequestSchema v = some r := by
  obtain ⟨hmedia, h⟩ := rejectIf_bind_eq_ok.mp h
  obtain ⟨-, h⟩ := rejectIf_bind_eq_ok.mp h
  obtain ⟨v, hvalue, h⟩ := bind_eq_ok.mp h
  obtain ⟨bytes, hread, hparse⟩ := bind_eq_ok.mp (mapErr_eq_ok.mp hvalue)
  rw [readBody_eq] at hread
  split at hread
  · rename_i hfits
    split at hread
    · cases hread
    · rename_i hbroken
      cases hread
      exact ⟨not_not.mp hmedia, hfits, by simpa using hbroken, v, okOr_eq_ok.mp hparse,
        okOr_eq_ok.mp h⟩
  · cases hread

/-- A request that fits reaches `service.bootstrap` as it was sent. -/
theorem readBootstrap_proxied {platform : Platform} {cut : Bytes → List Bytes}
    (hcut : ∀ bytes, (cut bytes).flatten = bytes) {r : BootstrapRequest} (hr : r.Valid)
    (hbody : platform.parseBody (textEncode (platform.stringify r.toJson)) = some r.toJson) :
    readBootstrap platform (proxied cut (bootstrapFetch platform r))
      = if (textEncode (platform.stringify r.toJson)).length ≤ bodyLimit then .ok r
        else .err (apiError .invalidRequest 413 "Request body is too large") := by
  have hmedia : mediaType (proxied cut (bootstrapFetch platform r)).contentType
      = "application/json".toList :=
    (by decide : mediaType (some "application/json") = "application/json".toList)
  have hchunks : (proxied cut (bootstrapFetch platform r)).chunks.flatten
      = textEncode (platform.stringify r.toJson) := hcut _
  by_cases hfits : (textEncode (platform.stringify r.toJson)).length ≤ bodyLimit
  · rw [if_pos hfits]
    refine rejectIf_bind_eq_ok.mpr ⟨not_not.mpr hmedia, rejectIf_bind_eq_ok.mpr
      ⟨Nat.not_lt.mpr hfits, bind_eq_ok.mpr
        ⟨r.toJson, ?_, okOr_eq_ok.mpr (bootstrapRequestSchema_toJson hr)⟩⟩⟩
    refine mapErr_eq_ok.mpr (bind_eq_ok.mpr ⟨_, ?_, okOr_eq_ok.mpr hbody⟩)
    rw [readBody_eq, hchunks, if_pos hfits]
    rfl
  · have hlong : (proxied cut (bootstrapFetch platform r)).contentLength.getD 0 > bodyLimit :=
      Nat.lt_of_not_le hfits
    rw [if_neg hfits, readBootstrap, rejectIf_neg (not_not.mpr hmedia), ok_bind,
      rejectIf_pos hlong]
    rfl

/-! ## Which requests reach the service -/

/-- A request of the local demo. -/
def IsLocal (request : IncomingMessage) : Prop :=
  request.host = some requiredHost ∧ request.origin = some clientOrigin

/-- What a request must be for a call of the service. -/
def Permits (platform : Platform) (request : IncomingMessage) : ServiceCall → Prop
  | .status => request.method = "GET"
      ∧ platform.pathname (request.url.getD "/") = some "/api/status"
  | .account => request.method = "GET"
      ∧ platform.pathname (request.url.getD "/") = some "/api/account"
  | .bootstrap r => request.method = "POST"
      ∧ platform.pathname (request.url.getD "/") = some "/api/account/bootstrap"
      ∧ mediaType request.contentType = "application/json".toList
      ∧ request.chunks.flatten.length ≤ bodyLimit ∧ request.broken = false
      ∧ ∃ v, platform.parseBody request.chunks.flatten = some v
        ∧ bootstrapRequestSchema v = some r

/-- What a response always carries. -/
structure Sealed (platform : Platform) (response : ServerResponse) : Prop where
  contentType : response.contentType = "application/json; charset=utf-8"
  cacheControl : response.cacheControl = "no-store"
  vary : response.vary = "Origin"
  contentTypeOptions : response.contentTypeOptions = "nosniff"
  contentSecurityPolicy :
    response.contentSecurityPolicy = "default-src 'none'; frame-ancestors 'none'"
  body : ∃ v, response.body = platform.stringify v ++ "\n"

/-- What the server writes is whole. -/
theorem sealed_sendJson (platform : Platform) (status : Nat) (v : Json) (allowOrigin : Bool) :
    Sealed platform (sendJson platform status v allowOrigin) :=
  ⟨rfl, rfl, rfl, rfl, rfl, v, rfl⟩

/-- What holds of the calls and the end of `handleRequest`. -/
structure Handled (platform : Platform) (request : IncomingMessage) (calls : List ServiceCall)
    (response : ServerResponse) : Prop where
  one : calls.length ≤ 1
  permitted : ∀ call ∈ calls, IsLocal request ∧ Permits platform request call
  sealed : Sealed platform response
  origin : response.accessControlAllowOrigin = some clientOrigin ↔ IsLocal request

variable {platform : Platform} {service : DemoService} {request : IncomingMessage}

/-- A response that makes no call. -/
theorem handled_none (hlocal : IsLocal request) (status : Nat) (v : Json) :
    Handled platform request [] (sendJson platform status v true) :=
  ⟨Nat.zero_le 1, fun _ hcall => (List.not_mem_nil hcall).elim,
    sealed_sendJson platform status v true, fun _ => hlocal, fun _ => rfl⟩

theorem handled_notAllowed (hlocal : IsLocal request) (allowed : String) :
    Handled platform request [] (methodNotAllowed platform allowed) :=
  ⟨Nat.zero_le 1, fun _ hcall => (List.not_mem_nil hcall).elim, ⟨rfl, rfl, rfl, rfl, rfl, _, rfl⟩,
    fun _ => hlocal, fun _ => rfl⟩

/-- A response to a call that a request permits. -/
theorem handled_call (hlocal : IsLocal request) {call : ServiceCall}
    (hpermits : Permits platform request call) (status : Nat) (v : Json) :
    Handled platform request [call] (sendJson platform status v true) := by
  refine ⟨Nat.le_refl 1, ?_, sealed_sendJson platform status v true, fun _ => hlocal, fun _ => rfl⟩
  intro other hother
  rw [List.mem_singleton.mp hother]
  exact ⟨hlocal, hpermits⟩

/-- The status of what a method of the service ends with. -/
def answerStatus {α : Type} : Outcome Thrown α → Nat
  | .ok _ => 200
  | .err e => errorStatus e
  | .abort => 500

/-- The JSON of what a method of the service ends with. -/
def answerJson {α : Type} (toJson : α → Json) : Outcome Thrown α → Json
  | .ok value => toJson value
  | .err e => errorJson (toSafeErrorBody e)
  | .abort => errorJson (toSafeErrorBody .other)

/-- A call is answered with its value, or with its error. -/
theorem respond_call {α : Type} (result : Outcome Thrown α) (toJson : α → Json) :
    respond platform (do
        let value ← result
        return sendJson platform 200 (toJson value) true)
      = sendJson platform (answerStatus result) (answerJson toJson result) true := by
  cases result with
  | ok value => rfl
  | err e => rfl
  | abort => rfl

/-- A route of the GET method. -/
theorem handled_get {α : Type} (hlocal : IsLocal request) {call : ServiceCall}
    (hpermits : request.method = "GET" → Permits platform request call)
    (result : Outcome Thrown α) (toJson : α → Json)
    {handled : List ServiceCall × Outcome Thrown ServerResponse}
    (hhandled : handled
      = if request.method ≠ "GET" then ([], .ok (methodNotAllowed platform "GET"))
        else ([call], do
          let value ← result
          return sendJson platform 200 (toJson value) true)) :
    Handled platform request handled.1 (respond platform handled.2) := by
  by_cases hmethod : request.method = "GET"
  · rw [hhandled, if_neg (not_not.mpr hmethod), respond_call]
    exact handled_call hlocal (hpermits hmethod) _ _
  · rw [hhandled, if_pos hmethod]
    exact handled_notAllowed hlocal "GET"

/-- **What the server lets through.**  Whatever the service does and whatever comes over the port,
    one request makes at most one call, and only a request of the local demo with the method and
    the path of that call does; a bootstrap call has a JSON body within the limit that passes its
    schema, and hands on what the schema returned.  Every response is JSON that is not stored,
    and only a request of the local demo is answered with a header that lets a page read it. -/
theorem server_guards (platform : Platform) (service : DemoService) (request : IncomingMessage) :
    Handled platform request (createHttpServer platform service request).1
      (createHttpServer platform service request).2 := by
  rw [createHttpServer]
  by_cases hlocal : IsLocal request
  · have hopen : ¬ (request.host ≠ some requiredHost ∨ request.origin ≠ some clientOrigin) := by
      rw [not_or, not_not, not_not]
      exact hlocal
    rw [handleRequest, if_neg hopen]
    cases hpath : platform.pathname (request.url.getD "/") with
    | none => exact handled_none hlocal _ _
    | some path =>
        -- one route after the other, as the code compares the path
        dsimp only
        by_cases hstatus : path = "/api/status"
        · have hpermits : request.method = "GET" → Permits platform request .status :=
            fun hmethod => ⟨hmethod, hstatus ▸ hpath⟩
          rw [if_pos hstatus]
          exact handled_get hlocal hpermits service.status statusJson rfl
        rw [if_neg hstatus]
        by_cases haccount : path = "/api/account"
        · have hpermits : request.method = "GET" → Permits platform request .account :=
            fun hmethod => ⟨hmethod, haccount ▸ hpath⟩
          rw [if_pos haccount]
          exact handled_get hlocal hpermits service.account accountJson rfl
        rw [if_neg haccount]
        by_cases hbootstrap : path = "/api/account/bootstrap"
        · rw [if_pos hbootstrap]
          by_cases hmethod : request.method = "POST"
          · rw [if_neg (not_not.mpr hmethod)]
            cases hread : readBootstrap platform request with
            | ok parsed =>
                have hpermits : Permits platform request (.bootstrap parsed) :=
                  ⟨hmethod, hbootstrap ▸ hpath, readBootstrap_eq_ok hread⟩
                dsimp only
                rw [respond_call]
                exact handled_call hlocal hpermits _ _
            | err e => exact handled_none hlocal _ _
            | abort => exact handled_none hlocal _ _
          · rw [if_pos hmethod]
            exact handled_notAllowed hlocal "POST"
        · rw [if_neg hbootstrap]
          exact handled_none hlocal _ _
  · have hclosed : request.host ≠ some requiredHost ∨ request.origin ≠ some clientOrigin :=
      not_and_or.mp hlocal
    rw [handleRequest, if_pos hclosed]
    refine ⟨Nat.zero_le 1, fun _ hcall => (List.not_mem_nil hcall).elim,
      sealed_sendJson platform _ _ false, fun horigin => ?_, fun h => (hlocal h).elim⟩
    cases horigin

/-! ## What the client receives -/

/-- An error that the client can read: an `ApiError` has an error status and a short message. -/
def ProperError : Thrown → Prop
  | .api e => 400 ≤ e.status ∧ e.status ≤ 599 ∧ utf16Length e.safeMessage ≤ 240
  | _ => True

/-- What a method of the service ends with, in a form that the client can read. -/
structure Proper {α : Type} (valid : α → Prop) (result : Outcome Thrown α) : Prop where
  value : ∀ a, result = .ok a → valid a
  error : ∀ e, result = .err e → ProperError e

/-- What the client makes of it. -/
def received {α : Type} : Outcome Thrown α → Except DemoApiError α
  | .ok value => .ok value
  | .err (.api e) => .error ⟨wireCode e.code, e.safeMessage, some e.status⟩
  | _ => .error ⟨.internalError, "Unexpected local server error", some 500⟩

/-- `JSON` and the wire carry this value. -/
def Carries (platform : Platform) (v : Json) : Prop :=
  platform.parseText (platform.stringify v ++ "\n") = some v

/-- An error response becomes the error that was thrown. -/
theorem requestJson_error {α : Type} {fetcher : FetchRequest → Option Response}
    {fetch : FetchRequest} {schema : Json → Option α} {e : Thrown} (he : ProperError e)
    (hfetch : fetcher fetch = some ⟨errorStatus e, some "application/json; charset=utf-8",
      platform.stringify (errorJson (toSafeErrorBody e)) ++ "\n"⟩)
    (hcarries : Carries platform (errorJson (toSafeErrorBody e))) :
    requestJson platform fetcher fetch schema = received (.err e) := by
  have hproper : (toSafeErrorBody e).code ∈ wireCodes
      ∧ utf16Length (toSafeErrorBody e).message ≤ 240 := by
    cases e with
    | api e => exact ⟨wireCode_mem e.code, he.2.2⟩
    | waitTransactionTimeout => decide
    | other => decide
  have hstatus : errorStatus e < 200 ∨ 299 < errorStatus e := by
    cases e with
    | api e => exact .inr (Nat.lt_of_lt_of_le (by decide) he.1)
    | waitTransactionTimeout => decide
    | other => decide
  rw [Carries] at hcarries
  simp only [requestJson, hfetch, ne_eq, not_true_eq_false, if_false, hcarries, if_pos hstatus,
    apiErrorBodySchema_errorJson hproper.1 hproper.2]
  cases e with
  | api e => rfl
  | waitTransactionTimeout => rfl
  | other => rfl

/-- **A call over the wire**: the client receives what the service ended with. -/
theorem requestJson_answer {α : Type} {fetcher : FetchRequest → Option Response}
    {fetch : FetchRequest} {schema : Json → Option α} {toJson : α → Json} {valid : α → Prop}
    (hschema : ∀ a, valid a → schema (toJson a) = some a) {result : Outcome Thrown α}
    (hresult : Proper valid result)
    (hfetch : fetcher fetch = some ⟨answerStatus result, some "application/json; charset=utf-8",
      platform.stringify (answerJson toJson result) ++ "\n"⟩)
    (hcarries : Carries platform (answerJson toJson result)) :
    requestJson platform fetcher fetch schema = received result := by
  cases result with
  | ok value =>
      rw [Carries] at hcarries
      have hstatus : ¬ (answerStatus (.ok value : Outcome Thrown α) < 200
          ∨ 299 < answerStatus (.ok value : Outcome Thrown α)) := by
        rw [answerStatus]
        decide
      simp only [requestJson, hfetch, ne_eq, not_true_eq_false, if_false, hcarries, if_neg hstatus]
      rw [answerJson, hschema value (hresult.value value rfl)]
      rfl
  | err e => exact requestJson_error (hresult.error e rfl) hfetch hcarries
  | abort =>
      have hother : ProperError .other := trivial
      exact requestJson_error hother hfetch hcarries

/-- The paths of the API. -/
def apiPaths : List String := ["/api/status", "/api/account", "/api/account/bootstrap"]

section Link

variable {cut : Bytes → List Bytes} (hpaths : ∀ path ∈ apiPaths, platform.pathname path = some path)

/-- A request of the proxy is one of the local demo. -/
theorem open_proxied (fetch : FetchRequest) :
    ¬ ((proxied cut fetch).host ≠ some requiredHost
      ∨ (proxied cut fetch).origin ≠ some clientOrigin) := by
  rw [not_or, not_not, not_not]
  exact ⟨rfl, rfl⟩

include hpaths

/-- **The status comes from one call.** -/
theorem handleRequest_status (service : DemoService) :
    handleRequest platform service (proxied cut ⟨"/api/status", "GET", none, none⟩)
      = ([.status], do
        let value ← service.status
        return sendJson platform 200 (statusJson value) true) := by
  have hpath : platform.pathname
      ((proxied cut ⟨"/api/status", "GET", none, none⟩).url.getD "/") = some "/api/status" :=
    hpaths "/api/status" (by decide)
  rw [handleRequest, if_neg (open_proxied _), hpath]
  rfl

/-- **So does the account.** -/
theorem handleRequest_account (service : DemoService) :
    handleRequest platform service (proxied cut ⟨"/api/account", "GET", none, none⟩)
      = ([.account], do
        let value ← service.account
        return sendJson platform 200 (accountJson value) true) := by
  have hpath : platform.pathname
      ((proxied cut ⟨"/api/account", "GET", none, none⟩).url.getD "/") = some "/api/account" :=
    hpaths "/api/account" (by decide)
  rw [handleRequest, if_neg (open_proxied _), hpath]
  rfl

/-- **A body within the limit reaches the service, a longer one is refused.** -/
theorem handleRequest_bootstrap (service : DemoService)
    (hcut : ∀ bytes, (cut bytes).flatten = bytes) {r : BootstrapRequest} (hr : r.Valid)
    (hbody : platform.parseBody (textEncode (platform.stringify r.toJson)) = some r.toJson) :
    handleRequest platform service (proxied cut (bootstrapFetch platform r))
      = if (textEncode (platform.stringify r.toJson)).length ≤ bodyLimit then
          ([.bootstrap r], do
            let value ← service.bootstrap r
            return sendJson platform 200 value.toJson true)
        else ([], .err (apiError .invalidRequest 413 "Request body is too large")) := by
  have hpath : platform.pathname ((proxied cut (bootstrapFetch platform r)).url.getD "/")
      = some "/api/account/bootstrap" := hpaths "/api/account/bootstrap" (by decide)
  have hread := readBootstrap_proxied hcut hr hbody
  rw [handleRequest, if_neg (open_proxied _), hpath]
  by_cases hfits : (textEncode (platform.stringify r.toJson)).length ≤ bodyLimit
  · rw [if_pos hfits] at hread ⊢
    simp only [hread]
    rfl
  · rw [if_neg hfits] at hread ⊢
    simp only [hread]
    rfl

/-- A bootstrap request that fits comes back as the service answered it. -/
theorem apiBootstrap_answer (service : DemoService) (hcut : ∀ bytes, (cut bytes).flatten = bytes)
    {r : BootstrapRequest} (hr : r.Valid)
    (hbody : platform.parseBody (textEncode (platform.stringify r.toJson)) = some r.toJson)
    (hfits : (textEncode (platform.stringify r.toJson)).length ≤ bodyLimit)
    (hproper : Proper AccountManifest.Valid (service.bootstrap r))
    (hcarries : Carries platform (answerJson AccountManifest.toJson (service.bootstrap r))) :
    apiBootstrap platform (fetchLocal platform service cut) r.toJson
      = received (service.bootstrap r) := by
  rw [apiBootstrap, bootstrapRequestSchema_toJson hr]
  refine requestJson_answer (fun a ha => accountManifestSchema_toJson ha) hproper ?_ hcarries
  rw [fetchLocal, createHttpServer, handleRequest_bootstrap hpaths service hcut hr hbody,
    if_pos hfits, respond_call]
  rfl

end Link

/-! ## A service with one account -/

mutual

/-- `JSON.stringify`, for texts that need no escapes. -/
def plainText : Json → String
  | .null => "null"
  | .bool b => toString b
  | .number n => toString n
  | .fraction => "0.5"
  | .string text => "\"" ++ text ++ "\""
  | .array items => "[" ++ itemsText items ++ "]"
  | .object members => "\x7b" ++ membersText members ++ "\x7d"

/-- The items of an array, with commas between them. -/
def itemsText : List Json → String
  | [] => ""
  | [item] => plainText item
  | item :: items => plainText item ++ "," ++ itemsText items

/-- The members of an object, with commas between them. -/
def membersText : List (String × Json) → String
  | [] => ""
  | [(name, value)] => "\"" ++ name ++ "\":" ++ plainText value
  | (name, value) :: members =>
      "\"" ++ name ++ "\":" ++ plainText value ++ "," ++ membersText members

end

/-- A request that its schema accepts. -/
def sampleRequest : BootstrapRequest := ⟨digits "0x04" 128, "AQIDBA"⟩

/-- A request whose credential id is too long for the server. -/
def longRequest : BootstrapRequest :=
  ⟨digits "0x04" 128, String.ofList (List.replicate 20000 'A')⟩

/-- A service that has created an account, and whose code cells are gone. -/
def sampleService : DemoService where
  status := .err (apiError .deploymentInvalid 500
    "Published testnet code cells could not be verified")
  account := .ok none
  bootstrap _ := .ok sampleManifest

/-- The values that these calls send. -/
def sampleValues : List Json :=
  [answerJson statusJson sampleService.status, answerJson accountJson sampleService.account,
    answerJson AccountManifest.toJson (sampleService.bootstrap sampleRequest),
    sampleRequest.toJson, errorJson ⟨.invalidRequest, "Request body is too large"⟩,
    longRequest.toJson]

/-- A platform that writes plain text and reads the sample values back. -/
def samplePlatform : Platform where
  pathname url := if url ∈ apiPaths then some url else none
  stringify := plainText
  parseBody body := sampleValues.find? fun v => textEncode (plainText v) = body
  parseText text := sampleValues.find? fun v => plainText v ++ "\n" = text

theorem sampleManifest_valid : sampleManifest.Valid := by
  refine ⟨?_, ⟨?_, ?_⟩, ?_, ⟨?_, ?_⟩, ⟨?_, ?_⟩, ?_, ?_, ?_⟩ <;> decide +kernel

/-- A value is found if no earlier one has its text. -/
theorem find_sample {α : Type} [DecidableEq α] (text : Json → α) {before after : List Json}
    {v : Json} (hvalues : sampleValues = before ++ v :: after)
    (hbefore : ∀ w ∈ before, text w ≠ text v) :
    sampleValues.find? (fun w => text w = text v) = some v := by
  refine List.find?_eq_some_iff_append.mpr ⟨decide_eq_true rfl, before, after, hvalues, ?_⟩
  intro w hw
  rw [decide_eq_false (hbefore w hw)]
  rfl

theorem samplePlatform_carries {before after : List Json} {v : Json}
    (hvalues : sampleValues = before ++ v :: after)
    (hbefore : ∀ w ∈ before, plainText w ++ "\n" ≠ plainText v ++ "\n") :
    Carries samplePlatform v :=
  find_sample (plainText · ++ "\n") hvalues hbefore

theorem samplePlatform_parseBody {before after : List Json} {v : Json}
    (hvalues : sampleValues = before ++ v :: after)
    (hbefore : ∀ w ∈ before, textEncode (plainText w) ≠ textEncode (plainText v)) :
    samplePlatform.parseBody (textEncode (samplePlatform.stringify v)) = some v :=
  find_sample (fun w => textEncode (plainText w)) hvalues hbefore

/-- Letters are base64url text. -/
theorem isBase64url_letters {n : Nat} (h : 0 < n) :
    isBase64url (String.ofList (List.replicate n 'A')) = true := by
  have hne : String.ofList (List.replicate n 'A') ≠ "" := by
    intro hempty
    have hlength := congrArg (List.length ∘ String.toList) hempty
    simp only [Function.comp_apply, String.toList_ofList, List.length_replicate] at hlength
    exact absurd hlength (Nat.pos_iff_ne_zero.mp h)
  rw [isBase64url, bne_iff_ne.mpr hne, String.toList_ofList, List.all_replicate,
    if_neg (Nat.pos_iff_ne_zero.mp h)]
  decide

theorem longRequest_valid : longRequest.Valid :=
  ⟨by decide +kernel, isBase64url_letters (by decide)⟩

/-- As many bytes as letters. -/
theorem utf8ByteSize_letters (n : Nat) :
    (String.ofList (List.replicate n 'A')).utf8ByteSize = n := by
  induction n with
  | zero => rfl
  | succ n ih =>
      rw [List.replicate_succ, ← List.singleton_append, String.ofList_append,
        String.utf8ByteSize_append, ih]
      exact Nat.add_comm 1 n

/-- A body is as long as the credential id in it, at least. -/
theorem body_letters (publicKey : String) (n : Nat) :
    n ≤ (textEncode (plainText
      (BootstrapRequest.toJson ⟨publicKey, String.ofList (List.replicate n 'A')⟩))).length := by
  have hbytes (text : String) : (textEncode text).length = text.utf8ByteSize := rfl
  simp only [hbytes, BootstrapRequest.toJson, plainText, membersText, String.utf8ByteSize_append,
    utf8ByteSize_letters]
  omega

/-- The body of the long request does not fit. -/
theorem longRequest_body : bodyLimit < (textEncode (plainText longRequest.toJson)).length :=
  Nat.lt_of_lt_of_le (by decide) (body_letters (digits "0x04" 128) 20000)

/-- The other values of the sample do. -/
theorem sampleValues_fit :
    ∀ w ∈ sampleValues.take 5, (textEncode (plainText w)).length ≤ bodyLimit := by decide +kernel

/-! ## From the client to the service and back -/

/-- **What the client receives is what the service gave.**  Through the proxy, the server and
    JSON, each call of the client makes the one call of the service it stands for, and ends as
    that does: with the same value, with the code, message and status of its `ApiError`, or with
    `INTERNAL_ERROR` for any other error.  A bootstrap request that is too long for the server
    does not reach the service. -/
theorem client_receives (platform : Platform) (service : DemoService) (cut : Bytes → List Bytes)
    (hcut : ∀ bytes, (cut bytes).flatten = bytes)
    (hpaths : ∀ path ∈ apiPaths, platform.pathname path = some path) :
    (Proper StatusValid service.status →
        Carries platform (answerJson statusJson service.status) →
        apiStatus platform (fetchLocal platform service cut) = received service.status
          ∧ callsOf platform service cut ⟨"/api/status", "GET", none, none⟩ = [.status])
      ∧ (Proper (fun account => ∀ a ∈ account, a.Valid) service.account →
        Carries platform (answerJson accountJson service.account) →
        apiAccount platform (fetchLocal platform service cut) = received service.account
          ∧ callsOf platform service cut ⟨"/api/account", "GET", none, none⟩ = [.account])
      ∧ ∀ r : BootstrapRequest, r.Valid →
        platform.parseBody (textEncode (platform.stringify r.toJson)) = some r.toJson →
        ((textEncode (platform.stringify r.toJson)).length ≤ bodyLimit →
          Proper AccountManifest.Valid (service.bootstrap r) →
          Carries platform (answerJson AccountManifest.toJson (service.bootstrap r)) →
          apiBootstrap platform (fetchLocal platform service cut) r.toJson
              = received (service.bootstrap r)
            ∧ callsOf platform service cut (bootstrapFetch platform r) = [.bootstrap r])
        ∧ (bodyLimit < (textEncode (platform.stringify r.toJson)).length →
          Carries platform (errorJson ⟨.invalidRequest, "Request body is too large"⟩) →
          apiBootstrap platform (fetchLocal platform service cut) r.toJson
              = .error ⟨.invalidRequest, "Request body is too large", some 413⟩
            ∧ callsOf platform service cut (bootstrapFetch platform r) = []) := by
  refine ⟨fun hproper hcarries => ⟨?_, ?_⟩, fun hproper hcarries => ⟨?_, ?_⟩,
    fun r hr hbody => ⟨fun hfits hproper hcarries => ⟨?_, ?_⟩, fun hlong hcarries => ⟨?_, ?_⟩⟩⟩
  · refine requestJson_answer (fun a ha => demoStatusSchema_statusJson ha) hproper ?_ hcarries
    rw [fetchLocal, createHttpServer, handleRequest_status hpaths, respond_call]
    rfl
  · rw [callsOf, createHttpServer, handleRequest_status hpaths]
  · refine requestJson_answer (fun a ha => nullable_accountJson ha) hproper ?_ hcarries
    rw [fetchLocal, createHttpServer, handleRequest_account hpaths, respond_call]
    rfl
  · rw [callsOf, createHttpServer, handleRequest_account hpaths]
  · exact apiBootstrap_answer hpaths service hcut hr hbody hfits hproper hcarries
  · rw [callsOf, createHttpServer, handleRequest_bootstrap hpaths service hcut hr hbody,
      if_pos hfits]
  · have herror : ProperError (apiError .invalidRequest 413 "Request body is too large") :=
      ⟨by decide, by decide, by decide⟩
    -- a body over the limit is answered before the service is called
    rw [apiBootstrap, bootstrapRequestSchema_toJson hr]
    refine requestJson_error herror ?_ hcarries
    rw [fetchLocal, createHttpServer, handleRequest_bootstrap hpaths service hcut hr hbody,
      if_neg (Nat.not_le.mpr hlong)]
    rfl
  · rw [callsOf, createHttpServer, handleRequest_bootstrap hpaths service hcut hr hbody,
      if_neg (Nat.not_le.mpr hlong)]

/-- **The sample client**: an error, an answer, a request and its answer, and a request that
    is too long. -/
theorem sample_receives :
    ∃ cut : Bytes → List Bytes, (∀ bytes, (cut bytes).flatten = bytes)
      ∧ apiStatus samplePlatform (fetchLocal samplePlatform sampleService cut)
          = .error ⟨.deploymentInvalid, "Published testnet code cells could not be verified",
              some 500⟩
      ∧ apiAccount samplePlatform (fetchLocal samplePlatform sampleService cut) = .ok none
      ∧ apiBootstrap samplePlatform (fetchLocal samplePlatform sampleService cut)
          sampleRequest.toJson = .ok sampleManifest
      ∧ apiBootstrap samplePlatform (fetchLocal samplePlatform sampleService cut)
          longRequest.toJson = .error ⟨.invalidRequest, "Request body is too large", some 413⟩
      ∧ callsOf samplePlatform sampleService cut (bootstrapFetch samplePlatform longRequest)
          = [] := by
  have hcut : ∀ bytes : Bytes, [bytes.take 100, bytes.drop 100].flatten = bytes := by
    intro bytes
    simp
  have hpaths : ∀ path ∈ apiPaths, samplePlatform.pathname path = some path :=
    fun path hpath => if_pos hpath
  have hreceives := client_receives samplePlatform sampleService _ hcut hpaths
  have hrequest : sampleRequest.Valid := by
    refine ⟨?_, ?_⟩ <;> decide +kernel
  have hfourth : sampleValues = sampleValues.take 3 ++ sampleRequest.toJson :: sampleValues.drop 4 :=
    rfl
  have hbody : samplePlatform.parseBody
      (textEncode (samplePlatform.stringify sampleRequest.toJson)) = some sampleRequest.toJson :=
    samplePlatform_parseBody hfourth (by decide +kernel)
  -- the long body is told from the others by its length
  have hlast : sampleValues = sampleValues.take 5 ++ longRequest.toJson :: [] := rfl
  have hlong : samplePlatform.parseBody
      (textEncode (samplePlatform.stringify longRequest.toJson)) = some longRequest.toJson := by
    refine samplePlatform_parseBody hlast fun w hw heq => ?_
    have hfits := sampleValues_fit w hw
    rw [heq] at hfits
    exact absurd longRequest_body (Nat.not_lt.mpr hfits)
  have hfifth : sampleValues = sampleValues.take 4
      ++ errorJson ⟨.invalidRequest, "Request body is too large"⟩ :: sampleValues.drop 5 := rfl
  have hrefused := (hreceives.2.2 longRequest longRequest_valid hlong).2 longRequest_body
    (samplePlatform_carries hfifth (by decide +kernel))
  refine ⟨_, hcut, (hreceives.1 ?_ ?_).1, (hreceives.2.1 ?_ ?_).1,
    ((hreceives.2.2 sampleRequest hrequest hbody).1 ?_ ?_ ?_).1, hrefused⟩
  · refine ⟨fun a ha => (by cases ha), ?_⟩
    rintro e ⟨⟩
    exact ⟨by decide, by decide, by decide +kernel⟩
  · have hfirst : sampleValues = [] ++ answerJson statusJson sampleService.status
        :: sampleValues.drop 1 := rfl
    exact samplePlatform_carries hfirst fun _ hw => absurd hw List.not_mem_nil
  · refine ⟨?_, fun e he => (by cases he)⟩
    rintro a ⟨⟩ m hm
    cases hm
  · have hsecond : sampleValues = sampleValues.take 1
        ++ answerJson accountJson sampleService.account :: sampleValues.drop 2 := rfl
    exact samplePlatform_carries hsecond (by decide +kernel)
  · decide +kernel
  · refine ⟨?_, fun e he => (by cases he)⟩
    rintro a ⟨⟩
    exact sampleManifest_valid
  · have hthird : sampleValues = sampleValues.take 2
        ++ answerJson AccountManifest.toJson (sampleService.bootstrap sampleRequest)
          :: sampleValues.drop 3 := rfl
    exact samplePlatform_carries hthird (by decide +kernel)

end CkbDemoApi
