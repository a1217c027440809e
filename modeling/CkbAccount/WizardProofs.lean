import CkbAccount.DemoSpendProofs
import CkbAccount.WireValuesProofs

/-! # The pages of the demo

    `demo/src/client/App.tsx` and the components it shows.  What is on the screen follows from
    three things: what the server reported, the passkey that is stored, and the receipt of a
    spend.

    * `reconcile` and `withReceipt`: which page is shown;
    * `submitSpend` and `confirmSpend`: the end of `demo/src/client/chain.ts`;
    * `Page`: the state of the application, the component on the screen, and the promises that
      have not settled;
    * `click` and `settle`: what the buttons and the settled promises do to a page;
    * `Step`: buttons are pressed and promises settle in any order.

    A page lives until it is loaded again.  The updates of one event are on the screen before the
    next one. -/

namespace CkbWizard

open RustOutcome Outcome CkbBrowserCodec CkbSchemas CkbSpend
open CkbCreation (Script CellOutput)

/-! ## Statuses and receipts -/

/-- `DemoStatus`, without its literals. -/
structure DemoStatus where
  deploymentVerified : Bool
  deployment : DeploymentManifest
  funderAddress : String
  funderBalanceShannons : String
  account : Option AccountManifest
  deriving DecidableEq, Repr

/-- `status` of a receipt. -/
inductive ReceiptStatus where
  | submitted
  | committed
  | confirmationTimeout
  deriving DecidableEq, Repr

/-- `TransactionReceipt`. -/
structure TransactionReceipt where
  status : ReceiptStatus
  txHash : String
  explorerUrl : String
  remainingCapacityShannons : String
  deriving DecidableEq, Repr

/-- `EXPLORER_URL`. -/
def explorerUrl : String := "https://pudge.explorer.nervos.org/transaction/"

/-- The receipt schemas on values of the type; `url` is the check of `z.string().url()`. -/
def receiptSchema (url : String → Bool) (r : TransactionReceipt) : Option TransactionReceipt :=
  if isHash32 r.txHash && url r.explorerUrl && isDecimal r.remainingCapacityShannons then some r
  else none

/-! ## Which page is shown -/

/-- `WizardState`.  A page that asks for a passkey has none and no account, and so on. -/
inductive WizardState where
  | loading
  | needsPasskey (status : DemoStatus)
  | needsAccount (status : DemoStatus) (passkey : PasskeyRecord)
  | readyToSpend (status : DemoStatus) (account : AccountManifest) (passkey : PasskeyRecord)
  | submitted (status : DemoStatus) (receipt : TransactionReceipt)
  | committed (status : DemoStatus) (receipt : TransactionReceipt)
  | blocked (status : Option DemoStatus) (heading message : String)
  deriving DecidableEq, Repr

/-- What `passkeyCapabilityProblem` looks at. -/
structure Browser where
  isSecureContext : Bool
  hasPublicKeyCredential : Bool
  exportsPublicKey : Bool
  deriving DecidableEq, Repr

/-- `passkeyCapabilityProblem`. -/
def passkeyCapabilityProblem (browser : Browser) : Option String :=
  if !browser.isSecureContext then
    some "Passkeys need a secure localhost context and Chromium with WebAuthn support."
  else if !browser.hasPublicKeyCredential then
    some "This browser does not provide the PublicKeyCredential API required by the demo."
  else if !browser.exportsPublicKey then
    some "Chromium cannot export the passkey public key required by this AccountLock demo."
  else none

section Pages

variable (ccc : Package) (url : String → Bool) (browser : Browser)

/-- The `try` block of `reconcile`. -/
def validateReported (status : DemoStatus) (account : Option AccountManifest) :
    Outcome JsError Unit := do
  let deployment ← validateDeployment status.deployment.toJson
  match status.account with
  | some reported => let _ ← validateAccount ccc reported.toJson deployment
  | none => pure ()
  match account with
  | some reported => let _ ← validateAccount ccc reported.toJson deployment
  | none => pure ()

/-- `reconcile`. -/
def reconcile (status : DemoStatus) (account : Option AccountManifest)
    (passkey : Option PasskeyRecord) : WizardState :=
  if !status.deploymentVerified then
    .blocked (some status) "Local setup is blocked"
      "The published AccountLock deployment has not been verified."
  else if validateReported ccc status account ≠ .ok () then
    .blocked (some status) "Local setup is blocked"
      "The server returned account data that does not match the verified deployment."
  else if status.account ≠ account then
    .blocked (some status) "Account access is blocked"
      ("The server account state changed between checks. Restart the local demo and inspect the "
        ++ "account manifest before continuing.")
  else match passkeyCapabilityProblem browser, account, passkey with
    | some message, _, _ => .blocked (some status) "Passkeys are unavailable" message
    | none, some _, none => .blocked (some status) "Account access is blocked"
        ("An account exists on testnet, but local passkey metadata is missing. Use the browser "
          ++ "profile that created this account; do not create a replacement.")
    | none, none, none => .needsPasskey status
    | none, none, some passkey => .needsAccount status passkey
    | none, some account, some passkey => .readyToSpend status account passkey

/-- `withReceipt`. -/
def withReceipt (state : WizardState) (receiptValue : Option TransactionReceipt) : WizardState :=
  match receiptValue, state with
  | none, state => state
  | some _, .loading => .loading
  | some _, .blocked status heading message => .blocked status heading message
  | some value, .readyToSpend status _ _ =>
      match receiptSchema url value with
      | none => .blocked (some status) "Receipt cannot be reconciled"
          "The stored transaction receipt is malformed."
      | some receipt =>
          if receipt.status = .committed then .committed status receipt
          else .submitted status receipt
  | some _, .needsPasskey status | some _, .needsAccount status _
  | some _, .submitted status _ | some _, .committed status _ =>
      .blocked (some status) "Receipt cannot be reconciled"
        "The transaction receipt does not match the current local account state."

end Pages

/-! ## The end of a spend -/

section Chain

variable (url : String → Bool)

/-- The check of `submitSpend` before it hands a transaction to its client. -/
def submittable (transaction : Transaction) : Bool :=
  transaction.outputs.length == 2 && transaction.outputsData.length == 2

/-- The receipt of a transaction, before the schema. -/
def receiptOf (transaction : Transaction) (txHash : String) : TransactionReceipt where
  status := .submitted
  txHash := txHash
  explorerUrl := explorerUrl ++ txHash
  remainingCapacityShannons := toString ((transaction.outputs[1]?.map (·.capacity)).getD 0)

/-- `submitSpend`, with the answer of `client.sendTransaction`. -/
def submitSpend (transaction : Transaction) (answer : Outcome JsError String) :
    Outcome JsError TransactionReceipt := do
  rejectIf (!submittable transaction)
    (.typeError "Spend transaction has an unexpected output shape")
  let txHash ← answer
  okOr .library (receiptSchema url (receiptOf transaction txHash))

/-- What `client.waitTransaction` ends with: a response or none, the error of the client that
    names a timeout, or any other. -/
inductive Wait where
  | response
  | noResponse
  | timeout
  | failed (e : JsError)

/-- `confirmSpend`, with the answers of its two calls. -/
def confirmSpend (submittedValue : TransactionReceipt) (wait : Wait)
    (live : Outcome JsError (Option Cell)) : Outcome JsError TransactionReceipt := do
  let submitted ← okOr .library (receiptSchema url submittedValue)
  match wait with
  | .noResponse => .err (.typeError "Committed transaction response is unavailable")
  | .failed e => .err e
  | .timeout => okOr .library (receiptSchema url { submitted with status := .confirmationTimeout })
  | .response =>
      let change ← live
      rejectIf (!change.any fun cell => cell.cellOutput.type.isNone && cell.outputData == "0x"
          && toString cell.cellOutput.capacity == submitted.remainingCapacityShannons)
        (.typeError "Committed AccountLock change could not be verified")
      okOr .library (receiptSchema url { submitted with status := .committed })

end Chain

/-! ## Components -/

/-- The state of `PasskeyStep`. -/
inductive PasskeyStepState where
  | ready
  | pending
  | cancelled
  | success (record : PasskeyRecord)
  | blocked (message : String)
  deriving DecidableEq, Repr

/-- The state of `BootstrapStep`. -/
inductive BootstrapStepState where
  | ready
  | pending
  | success (account : AccountManifest)
  | error (message : String) (blocking : Bool)
  deriving DecidableEq, Repr

/-- `SpendState` of `SpendStep`. -/
inductive SpendState where
  | preparing
  | ready (prepared : PreparedSpend) (notice : Option String)
  | authorizing (prepared : PreparedSpend)
  | submitting (prepared : PreparedSpend)
  | submitted (prepared : PreparedSpend)
  | blocked (message : String) (prepared : Option PreparedSpend)
  deriving DecidableEq, Repr

/-- The component on the screen: its props, its state and its lock.  A `card` has no buttons, and
    `crashed` is the empty screen after a render that threw. -/
inductive View where
  | card
  | crashed
  | passkeyStep (state : PasskeyStepState) (actionLock : Bool)
  | bootstrapStep (status : DemoStatus) (passkey : PasskeyRecord) (state : BootstrapStepState)
      (actionLock : Bool)
  | spendStep (account : VerifiedAccount) (funderAddress : String) (passkey : PasskeyRecord)
      (state : SpendState) (actionLock : Bool) (effect : Nat)
  | receipt (receipt : TransactionReceipt) (checking : Bool) (error : Option String)
      (checkLock : Bool)
  deriving DecidableEq, Repr

/-- `DemoApiErrorCode`. -/
inductive DemoApiErrorCode where
  | badOrigin
  | invalidRequest
  | keyUnavailable
  | deploymentInvalid
  | accountNotCreated
  | accountMismatch
  | insufficientBalance
  | bootstrapFailed
  | confirmationTimeout
  | internalError
  | apiUnavailable
  | invalidResponse
  deriving DecidableEq, Repr

/-- What a call of the local API rejects with: a `DemoApiError`, or anything else. -/
inductive ApiFailure where
  | demoApi (code : DemoApiErrorCode) (message : String)
  | other
  deriving DecidableEq, Repr

/-- `safeBootstrapError`: the message, and whether it blocks. -/
def safeBootstrapError : ApiFailure → String × Bool
  | .other =>
      ("The account request outcome is unknown. Restart the local demo to reconcile account "
        ++ "state before taking another action.", true)
  | .demoApi .insufficientBalance _ =>
      ("The local funder does not have enough CKB for the account cells and transaction fee. "
        ++ "Fund it, then try again.", false)
  | .demoApi .bootstrapFailed _ =>
      ("Account creation may have failed before or after submission. Restart the local demo and "
        ++ "inspect account state before taking another action.", true)
  | .demoApi .accountMismatch _ =>
      ("The existing account does not match this passkey. Use the browser profile that created "
        ++ "it and inspect the account manifest.", true)
  | .demoApi .confirmationTimeout _ =>
      ("Account creation may have been submitted, but commitment was not confirmed. Restart the "
        ++ "local demo to reconcile the account before taking another action.", true)
  | .demoApi .deploymentInvalid _ | .demoApi .keyUnavailable _ | .demoApi .invalidResponse _ =>
      ("The local account setup is incompatible or incomplete. Inspect the deployment and "
        ++ "localhost service before continuing.", true)
  | .demoApi .apiUnavailable _ =>
      ("The account request outcome is unknown. Restart the local demo to reconcile account "
        ++ "state before taking another action.", true)
  | .demoApi _ _ =>
      ("The account request outcome could not be verified. Restart the local demo and inspect "
        ++ "account state before continuing.", true)

/-! ## Promises -/

/-- What an asynchronous function waits for, with what it has closed over: the component it
    belongs to and the state its callback was rendered with (`seen`). -/
inductive Task where
  | load (passkey : Option PasskeyRecord)
  | registration (mount : Nat) (seen : WizardState)
  | bootstrap (mount : Nat) (status : DemoStatus) (passkey : PasskeyRecord) (seen : WizardState)
  | refresh (passkey : PasskeyRecord)
  | preparation (mount effect : Nat) (account : VerifiedAccount) (funderAddress : String)
      (passkey : PasskeyRecord)
  | assertion (mount : Nat) (prepared : PreparedSpend) (reviewedRawHash reviewedDigest : String)
      (passkey : PasskeyRecord) (seen : WizardState)
  | submission (mount : Nat) (prepared : PreparedSpend) (transaction : Transaction)
      (seen : WizardState)
  | confirmation (mount : Nat) (prepared : PreparedSpend) (submitted : TransactionReceipt)
      (seen : WizardState)
  | check (mount : Nat) (submitted : TransactionReceipt) (seen : WizardState)
  | recheck (passkey : PasskeyRecord)
  deriving DecidableEq, Repr

/-- What `requestAssertion` rejects with: a `PasskeyCancelledError`, or another error. -/
inductive Refusal where
  | cancelled
  | threw (e : JsError)

/-- What `register` rejects with. -/
inductive RegistrationFailure where
  | cancelled
  | protocol
  | other

/-- What `api.status()` and `api.account()` together end with. -/
abbrev Reported := Except ApiFailure (DemoStatus × Option AccountManifest)

/-- What a task can be answered with.  A registration brings its candidate and whether the storage
    takes it; a preparation the chain it sees; a confirmation what its two calls return. -/
abbrev Task.Answer : Task → Type
  | .load _ | .refresh _ | .recheck _ => Reported
  | .registration _ _ => Except RegistrationFailure (Json × Bool)
  | .bootstrap _ _ _ _ => Except ApiFailure AccountManifest
  | .preparation _ _ _ _ _ => SpendClient
  | .assertion _ _ _ _ _ _ => Except Refusal AssertionMaterial
  | .submission _ _ _ _ => Outcome JsError String
  | .confirmation _ _ _ _ | .check _ _ _ => Wait × Outcome JsError (Option Cell)

/-! ## The application -/

/-- The application.  `mount` numbers the components that were put on the screen.  The code reads
    neither `sent`, the transactions that were handed to the node, nor `changes`, the cells a
    confirmation was shown, with the hash it asked for. -/
structure Page where
  state : WizardState
  internalReceipt : Option TransactionReceipt
  postCommitError : Option String
  reconciledCommit : Option String
  storage : Option String
  view : View
  mount : Nat
  tasks : List Task
  sent : List Transaction
  changes : List (String × Cell)

/-- What the pages depend on. -/
structure Setting where
  ccc : Package
  datetime : String → Bool
  url : String → Bool
  browser : Browser
  parseText : String → Option Json
  stringify : Json → String
  parseClientData : Bytes → Option Json

/-- The error a call throws, if it does. -/
def attempt {α : Type} : Outcome JsError α → Except JsError α
  | .ok a => .ok a
  | .err e => .error e
  | .abort => .error .library

section Application

variable (env : Setting)

/-- `loadPasskeyRecord`, with the storage it leaves. -/
def loadPasskeyRecord (storage : Option String) : Option PasskeyRecord × Option String :=
  match storage with
  | none => (none, none)
  | some serialized =>
      match (env.parseText serialized).bind (passkeyRecordSchema env.datetime) with
      | some record => (some record, some serialized)
      | none => (none, none)

/-- `savePasskeyRecord`; `writable` is whether `setItem` succeeds. -/
def savePasskeyRecord (record : PasskeyRecord) (writable : Bool) : Option String :=
  match passkeyRecordSchema env.datetime record.toJson with
  | some verified => if writable then some (env.stringify verified.toJson) else none
  | none => none

/-- The page when the scripts of the application have run: its first effect is waiting. -/
def Page.start (storage : Option String) : Page where
  state := .loading
  internalReceipt := none
  postCommitError := none
  reconciledCommit := none
  storage := (loadPasskeyRecord env storage).2
  view := .card
  mount := 0
  tasks := [.load (loadPasskeyRecord env storage).1]
  sent := []
  changes := []

/-- The `account` prop of `SpendStep`. -/
def verifiedAccount (status : DemoStatus) (account : AccountManifest) :
    Outcome JsError VerifiedAccount := do
  let deployment ← validateDeployment status.deployment.toJson
  validateAccount env.ccc account.toJson deployment

/-- A component that was not on the screen gets a new number. -/
def Page.mounting (view : View) (page : Page) : Page :=
  { page with view := view, mount := page.mount + 1 }

/-- The effect of `SpendStep`, which runs when it is mounted and whenever the application renders
    it again, since its `account` is then a new object. -/
def Page.preparing (account : VerifiedAccount) (funderAddress : String) (passkey : PasskeyRecord)
    (actionLock : Bool) (effect : Nat) (page : Page) : Page :=
  { page with
    view := .spendStep account funderAddress passkey .preparing actionLock effect
    tasks := page.tasks ++ [.preparation page.mount effect account funderAddress passkey] }

/-- What `App` renders. -/
def render (page : Page) : Page :=
  match withReceipt env.url page.state page.internalReceipt, page.view with
  | .loading, _ | .blocked _ _ _, _ => { page with view := .card }
  | .needsPasskey _, .passkeyStep _ _ => page
  | .needsPasskey _, _ => page.mounting (.passkeyStep .ready false)
  | .needsAccount status passkey, .bootstrapStep _ _ state actionLock =>
      { page with view := .bootstrapStep status passkey state actionLock }
  | .needsAccount status passkey, _ => page.mounting (.bootstrapStep status passkey .ready false)
  | .readyToSpend status account passkey, view =>
      match verifiedAccount env status account, view with
      | .ok verified, .spendStep _ _ _ _ actionLock effect =>
          page.preparing verified status.funderAddress passkey actionLock (effect + 1)
      | .ok verified, _ =>
          (page.mounting .card).preparing verified status.funderAddress passkey false 0
      | _, _ => { page with view := .crashed }
  | .submitted _ receipt, .receipt _ checking error checkLock
  | .committed _ receipt, .receipt _ checking error checkLock =>
      { page with view := .receipt receipt checking error checkLock }
  | .submitted _ receipt, _ | .committed _ receipt, _ =>
      page.mounting (.receipt receipt false none false)

/-- `setState` of the application. -/
def Page.setState (state : WizardState) (page : Page) : Page :=
  render env { page with state := state }

/-- The first effect of `App` and `handleAccountCreated`, when they have their answers. -/
def Page.reported (passkey : Option PasskeyRecord) (answer : Reported) (page : Page) : Page :=
  match answer with
  | .ok (status, account) =>
      page.setState env (reconcile env.ccc env.browser status account passkey)
  | .error (.demoApi _ message) =>
      page.setState env (.blocked none "Local setup is blocked" message)
  | .error .other =>
      page.setState env (.blocked none "Local setup is blocked" "Local API is unavailable")

/-- `handlePasskeyCreated`. -/
def handlePasskeyCreated (seen : WizardState) (passkey : PasskeyRecord) (page : Page) : Page :=
  match seen with
  | .needsPasskey status =>
      page.setState env (reconcile env.ccc env.browser status none (some passkey))
  | _ => page

/-- `handleAccountCreated`. -/
def handleAccountCreated (seen : WizardState) (page : Page) : Page :=
  match seen with
  | .needsAccount _ passkey => { page with tasks := page.tasks ++ [.refresh passkey] }
  | _ => page

/-- `handleSpendReceipt`. -/
def handleSpendReceipt (seen : WizardState) (receiptValue : TransactionReceipt) (page : Page) :
    Page :=
  match receiptSchema env.url receiptValue with
  | none => page.setState env
      (.blocked none "Receipt cannot be reconciled" "The transaction receipt is malformed.")
  | some nextReceipt =>
      let page := { page with internalReceipt := some nextReceipt }
      match seen with
      | .readyToSpend _ _ passkey =>
          if nextReceipt.status ≠ .committed
              ∨ page.reconciledCommit = some nextReceipt.txHash then
            render env page
          else
            render env { page with
              reconciledCommit := some nextReceipt.txHash
              postCommitError := none
              tasks := page.tasks ++ [.recheck passkey] }
      | _ => render env page

/-- `handleSpendReceipt`, when its calls are answered. -/
def Page.rechecked (passkey : PasskeyRecord) (answer : Reported) (page : Page) : Page :=
  match answer with
  | .ok (status, account) =>
      match reconcile env.ccc env.browser status account (some passkey) with
      | .blocked _ _ message => render env { page with postCommitError := some message }
      | reconciled => page.setState env reconciled
  | .error _ => render env { page with
      postCommitError := some ("The committed transaction is preserved, but authoritative "
        ++ "account state could not be refreshed.") }

/-! ## Creating a passkey -/

/-- The end of `createPasskey`: the state of its component, if that is still mounted, and its
    lock. -/
def Page.endRegistration (mount : Nat) (state : PasskeyStepState) (page : Page) : Page :=
  match page.view with
  | .passkeyStep _ _ =>
      if page.mount = mount then { page with view := .passkeyStep state false } else page
  | _ => page

/-- `createPasskey`, up to its `await`. -/
def createPasskey (page : Page) : Page :=
  match page.view with
  | .passkeyStep (.blocked _) _ | .passkeyStep (.success _) _ | .passkeyStep _ true => page
  | .passkeyStep _ false =>
      if (passkeyCapabilityProblem env.browser).isSome then page
      else { page with
        view := .passkeyStep .pending true
        tasks := page.tasks ++ [.registration page.mount page.state] }
  | _ => page

/-- `createPasskey`, behind its `await`. -/
def registered (mount : Nat) (seen : WizardState)
    (answer : Except RegistrationFailure (Json × Bool)) (page : Page) : Page :=
  match answer with
  | .error .cancelled => page.endRegistration mount .cancelled
  | .error .protocol => page.endRegistration mount
      (.blocked ("The browser returned an incompatible passkey response. Use current Chromium on "
        ++ "secure localhost."))
  | .error .other => page.endRegistration mount
      (.blocked "The passkey public metadata could not be validated or saved.")
  | .ok (candidate, writable) =>
      match passkeyRecordSchema env.datetime candidate with
      | none => page.endRegistration mount
          (.blocked "The browser did not return valid public metadata for this passkey.")
      | some record =>
          match savePasskeyRecord env record writable with
          | none => page.endRegistration mount
              (.blocked "The passkey public metadata could not be validated or saved.")
          | some text => handlePasskeyCreated env seen record
              ({ page with storage := some text }.endRegistration mount (.success record))

/-! ## Creating an account -/

/-- The end of `createAccount`. -/
def Page.endBootstrap (mount : Nat) (state : BootstrapStepState) (page : Page) : Page :=
  match page.view with
  | .bootstrapStep status passkey _ _ =>
      if page.mount = mount then { page with view := .bootstrapStep status passkey state false }
      else page
  | _ => page

/-- `createAccount`, up to its `await`. -/
def createAccount (page : Page) : Page :=
  match page.view with
  | .bootstrapStep _ _ (.error _ true) _ | .bootstrapStep _ _ (.success _) _
  | .bootstrapStep _ _ _ true => page
  | .bootstrapStep status passkey _ false =>
      { page with
        view := .bootstrapStep status passkey .pending true
        tasks := page.tasks ++ [.bootstrap page.mount status passkey page.state] }
  | _ => page

/-- `createAccount`, behind its `await`. -/
def bootstrapped (mount : Nat) (status : DemoStatus) (seen : WizardState)
    (answer : Except ApiFailure AccountManifest) (page : Page) : Page :=
  let failed (e : ApiFailure) : Page :=
    page.endBootstrap mount (.error (safeBootstrapError e).1 (safeBootstrapError e).2)
  match answer with
  | .error e => failed e
  | .ok candidate =>
      match verifiedAccount env status candidate with
      | .ok account => handleAccountCreated seen (page.endBootstrap mount (.success account.manifest))
      | _ => failed .other

/-! ## Spending -/

/-- `setState` of a `SpendStep`, if it is still mounted. -/
def Page.setSpend (mount : Nat) (state : SpendState) (page : Page) : Page :=
  match page.view with
  | .spendStep account funderAddress passkey _ actionLock effect =>
      if page.mount = mount then
        { page with view := .spendStep account funderAddress passkey state actionLock effect }
      else page
  | _ => page

/-- The `finally` of `authorize`. -/
def Page.releaseSpend (mount : Nat) (page : Page) : Page :=
  match page.view with
  | .spendStep account funderAddress passkey state _ effect =>
      if page.mount = mount then
        { page with view := .spendStep account funderAddress passkey state false effect }
      else page
  | _ => page

/-- The effect of `SpendStep`, when its preparation has ended; that of an earlier effect is
    dropped. -/
def Page.prepared (mount effect : Nat) (result : Outcome JsError PreparedSpend) (page : Page) :
    Page :=
  match page.view with
  | .spendStep _ _ _ _ _ current =>
      if current = effect then
        page.setSpend mount (match attempt result with
          | .ok prepared => .ready prepared none
          | .error _ => .blocked ("The live AccountState and AccountLock asset cells could not be "
              ++ "verified for this spend.") none)
      else page
  | _ => page

/-- `/credential/i.test`. -/
def mentionsCredential (message : String) : Bool :=
  message.toLower.toList.tails.any fun tail => "credential".toList.isPrefixOf tail

/-- The `catch` of `authorize`, for an error that is not a cancellation. -/
def spendFailure (prepared : PreparedSpend) (e : JsError) : SpendState :=
  match e with
  | .typeError message =>
      if mentionsCredential message then
        .blocked ("The returned credential did not match the reviewed spend. Nothing was "
          ++ "submitted.") (some prepared)
      else outcomeUnknown
  | _ => outcomeUnknown
where
  outcomeUnknown : SpendState :=
    .blocked ("The spend outcome could not be completed safely. Reconcile the transaction and "
      ++ "live cells before trying again.") (some prepared)

/-- `catch` and `finally` of `authorize`. -/
def Page.failSpend (mount : Nat) (state : SpendState) (page : Page) : Page :=
  (page.setSpend mount state).releaseSpend mount

/-- `authorize`, up to its first `await`.  A hash that cannot be taken leaves the lock. -/
def authorize (page : Page) : Page :=
  match page.view with
  | .spendStep account funderAddress passkey (.ready prepared notice) false effect =>
      match env.ccc.transactionHash prepared.transaction with
      | none => { page with
          view := .spendStep account funderAddress passkey (.ready prepared notice) true effect }
      | some reviewedRawHash => { page with
          view := .spendStep account funderAddress passkey (.authorizing prepared) true effect
          tasks := page.tasks ++ [.assertion page.mount prepared reviewedRawHash
            (hexFromBytes prepared.authorizationDigest) passkey page.state] }
  | _ => page

/-- `authorize`, behind the assertion and up to the answer of the node. -/
def asserted (mount : Nat) (prepared : PreparedSpend) (reviewedRawHash reviewedDigest : String)
    (passkey : PasskeyRecord) (seen : WizardState) (answer : Except Refusal AssertionMaterial)
    (page : Page) : Page :=
  match answer with
  | .error .cancelled => page.failSpend mount (.ready prepared
      (some "Passkey authorization was cancelled. The reviewed transaction is unchanged."))
  | .error (.threw e) => page.failSpend mount (spendFailure prepared e)
  | .ok assertion =>
      match env.ccc.transactionHash prepared.transaction with
      | none => page.failSpend mount (spendFailure prepared .library)
      | some rawHash =>
          if rawHash ≠ reviewedRawHash
              ∨ hexFromBytes prepared.authorizationDigest ≠ reviewedDigest then
            page.failSpend mount (.blocked ("The transaction changed while passkey authorization "
              ++ "was open. Nothing was submitted.") (some prepared))
          else
            match attempt (finalizeSpend env.ccc env.datetime env.parseClientData prepared
                passkey.toJson assertion) with
            | .error e => page.failSpend mount (spendFailure prepared e)
            | .ok finalized =>
                let page := page.setSpend mount (.submitting prepared)
                if submittable finalized then
                  { page with
                    tasks := page.tasks ++ [.submission mount prepared finalized seen]
                    sent := page.sent ++ [finalized] }
                else page.failSpend mount (spendFailure prepared
                  (.typeError "Spend transaction has an unexpected output shape"))

/-- `authorize`, behind the answer of the node and up to the confirmation. -/
def submitted (mount : Nat) (prepared : PreparedSpend) (transaction : Transaction)
    (seen : WizardState) (answer : Outcome JsError String) (page : Page) : Page :=
  match attempt (submitSpend env.url transaction answer) with
  | .error e => page.failSpend mount (spendFailure prepared e)
  | .ok receipt =>
      let page := handleSpendReceipt env seen receipt (page.setSpend mount (.submitted prepared))
      { page with tasks := page.tasks ++ [.confirmation mount prepared receipt seen] }

/-- The cell that a confirmation was shown. -/
def Page.observe (submitted : TransactionReceipt) (wait : Wait)
    (live : Outcome JsError (Option Cell)) (page : Page) : Page :=
  match wait, live with
  | .response, .ok (some cell) => { page with changes := page.changes ++ [(submitted.txHash, cell)] }
  | _, _ => page

/-- The end of `authorize`. -/
def confirmed (mount : Nat) (prepared : PreparedSpend) (submitted : TransactionReceipt)
    (seen : WizardState) (wait : Wait) (live : Outcome JsError (Option Cell)) (page : Page) :
    Page :=
  let page := page.observe submitted wait live
  match attempt (confirmSpend env.url submitted wait live) with
  | .error e => page.failSpend mount (spendFailure prepared e)
  | .ok receipt => (handleSpendReceipt env seen receipt page).releaseSpend mount

/-! ## Receipts -/

/-- `checkAgain`, up to its `await`.  A receipt with another link has no button. -/
def checkAgain (page : Page) : Page :=
  match page.view with
  | .receipt receiptValue _ _ false =>
      match receiptSchema env.url receiptValue with
      | none => page
      | some receipt =>
          if receipt.explorerUrl ≠ explorerUrl ++ receipt.txHash ∨ receipt.status = .committed then
            page
          else { page with
            view := .receipt receiptValue true none true
            tasks := page.tasks
              ++ [.check page.mount { receipt with status := .submitted } page.state] }
  | _ => page

/-- The end of `checkAgain`: an error, if there is one, and the `finally`. -/
def Page.endCheck (mount : Nat) (failure : Option String) (page : Page) : Page :=
  match page.view with
  | .receipt receiptValue _ error _ =>
      if page.mount = mount then
        { page with view := .receipt receiptValue false (failure <|> error) false }
      else page
  | _ => page

/-- `checkAgain`, behind its `await`. -/
def checked (mount : Nat) (submitted : TransactionReceipt) (seen : WizardState) (wait : Wait)
    (live : Outcome JsError (Option Cell)) (page : Page) : Page :=
  let page := page.observe submitted wait live
  match attempt (confirmSpend env.url submitted wait live) with
  | .error _ => page.endCheck mount
      (some "The existing transaction could not be checked. No new transaction was sent.")
  | .ok receipt => (handleSpendReceipt env seen receipt page).endCheck mount none

/-! ## Events -/

/-- The buttons of the pages. -/
inductive Button where
  | createPasskey
  | createAccount
  | authorize
  | checkAgain
  deriving DecidableEq, Repr

/-- A button is pressed.  Where it is not shown, nothing happens. -/
def click (page : Page) : Button → Page
  | .createPasskey => createPasskey env page
  | .createAccount => createAccount page
  | .authorize => authorize env page
  | .checkAgain => checkAgain env page

/-- A promise settles. -/
def settle (page : Page) : (task : Task) → task.Answer → Page
  | .load passkey, answer => page.reported env passkey answer
  | .registration mount seen, answer => registered env mount seen answer page
  | .bootstrap mount status _ seen, answer => bootstrapped env mount status seen answer page
  | .refresh passkey, answer => page.reported env (some passkey) answer
  | .preparation mount effect account funderAddress passkey, client =>
      page.prepared mount effect
        (prepareSpend env.ccc env.datetime client account funderAddress passkey.toJson)
  | .assertion mount prepared rawHash digest passkey seen, answer =>
      asserted env mount prepared rawHash digest passkey seen answer page
  | .submission mount prepared transaction seen, answer =>
      submitted env mount prepared transaction seen answer page
  | .confirmation mount prepared receipt seen, answer =>
      confirmed env mount prepared receipt seen answer.1 answer.2 page
  | .check mount receipt seen, answer => checked env mount receipt seen answer.1 answer.2 page
  | .recheck passkey, answer => page.rechecked env passkey answer

/-- One event. -/
inductive Event where
  | clicked (button : Button)
  | settled (task : Task) (answer : task.Answer)

/-- A button is pressed, or any of the promises settles. -/
inductive Step : Page → Event → Page → Prop
  | click (page : Page) (button : Button) : Step page (.clicked button) (click env page button)
  | settle {page : Page} {before after : List Task} {task : Task}
      (htasks : page.tasks = before ++ task :: after) (answer : task.Answer) :
      Step page (.settled task answer)
        (settle env { page with tasks := before ++ after } task answer)

end Application

end CkbWizard
