import CkbAccount.ProcessProofs
import CkbAccount.SchemasProofs
import CkbAccount.StepRunProofs

/-! # The account creation service

    `demo/src/server/service.ts`: a server that creates one account for whoever asks, and
    shares a creation that is under way with callers that ask for the same key.  Every
    `await` is a point where other callers get their turn.

    * The code: `bootstrapOnce` and `verifyDeployment` as processes that call their
      dependencies, and `Service.bootstrap` as the part that runs without a pause.
    * The system: any number of callers, with every dependency answering when it likes and
      failing when it likes.
    * `Inv`: at most the creation in the slot is running, its key is the key of every
      caller it was handed to, and once a manifest is recorded it asks for no other account.
      `Inv.step` and then `bootstrap_agreement` for whole runs.
    * `Serving.creates`: when no dependency fails, a creation goes through. -/

namespace CkbDemoService

open RustOutcome Outcome Process StepRun CkbBrowserCodec CkbSchemas

/-! ## Errors -/

/-- `ApiErrorCode`. -/
inductive ApiErrorCode where
  | invalidRequest
  | deploymentInvalid
  | accountMismatch
  | insufficientBalance
  | bootstrapFailed
  | confirmationTimeout
  deriving DecidableEq, Repr

/-- `ApiError`. -/
structure ApiError where
  code : ApiErrorCode
  status : Nat
  safeMessage : String
  deriving DecidableEq, Repr

/-- What a promise rejects with: an `ApiError`, an `Error` by the name
    `ErrorClientWaitTransactionTimeout`, or anything else. -/
inductive Thrown where
  | api (e : ApiError)
  | waitTransactionTimeout
  | other
  deriving DecidableEq, Repr

/-- `throw new ApiError(code, status, message)`. -/
def apiError (code : ApiErrorCode) (status : Nat) (message : String) : Thrown :=
  .api ⟨code, status, message⟩

/-- `if (error instanceof ApiError) throw error; throw e`. -/
def rethrowApi (e : Thrown) : Thrown → Thrown
  | .api error => .api error
  | _ => e

/-! ## Dependencies -/

/-- The awaits of the code.  `verification` is the promise of a deployment check that may
    be shared; the others are the dependencies. -/
inductive Op where
  | verification (promise : Nat)
  | getDeploymentCell (outPoint : OutPoint)
  | exportState (request : BootstrapRequest)
  | readAccountManifest
  | getStateCell (outPoint : OutPoint)
  | funderBalanceShannons
  | bootstrap (stateData : Bytes)

/-- What a promise is fulfilled with.  A live cell is its `outputData`. -/
def Op.Result : Op → Type
  | .verification _ => Unit
  | .getDeploymentCell _ => Option String
  | .exportState _ => Bytes
  | .readAccountManifest => Json
  | .getStateCell _ => Option String
  | .funderBalanceShannons => Int
  | .bootstrap _ => Json

/-- What a call answers: its result, or what was thrown. -/
abbrev Op.Answer (op : Op) : Type := Fallible Op.Result Thrown op

/-- `async` code of the service. -/
abbrev Async (α : Type) := Prog (Fallible Op.Result Thrown) Thrown α

/-- A call that is awaited. -/
abbrev await (op : Op) : Async op.Result := performOk op

/-! ## The code -/

/-- `SHANNONS_PER_CKB`. -/
def shannonsPerCkb : Int := 100000000

/-- `INITIAL_ASSET`. -/
def initialAsset : Int := 200 * shannonsPerCkb

/-- `BOOTSTRAP_FEE_RESERVE`. -/
def bootstrapFeeReserve : Int := shannonsPerCkb

/-- `accountStateCapacity`. -/
def accountStateCapacity (stateLength : Nat) : Int :=
  (8 + (32 + 1 + 33) + (32 + 1 + 32) + (stateLength : Int)) * shannonsPerCkb

/-- `parseAccount`. -/
def parseAccount (value : Json) (deployment : DeploymentManifest) :
    Outcome Thrown (Option AccountManifest) :=
  let mismatch := apiError .accountMismatch 409
    "Recorded account does not match this testnet deployment"
  match value with
  | .null => .ok none
  | value => do
      let parsed ← okOr mismatch (accountManifestSchema value)
      rejectIf (parsed.accountLock.codeHash ≠ deployment.accountLock.dataHash) mismatch
      return some parsed

section Code

variable (hashCkb : String → Option String) (deployment : DeploymentManifest)

/-- The loop of `verifyDeployment` over `Object.values(deployment.artifacts)`. -/
def verifyArtifacts : List Artifact → Async Unit
  | [] => pure ()
  | artifact :: artifacts => do
      let unverified := apiError .deploymentInvalid 500
        "Published testnet code cells could not be verified"
      let cell ← await (.getDeploymentCell ⟨artifact.txHash, artifact.index⟩)
      let outputData ← Prog.of (okOr unverified cell)
      let dataHash ← Prog.of (okOr .other (hashCkb outputData))
      Prog.of (rejectIf (dataHash ≠ artifact.dataHash) unverified)
      verifyArtifacts artifacts

/-- `account`. -/
def account : Async (Option AccountManifest) := do
  let value ← await .readAccountManifest
  Prog.of (parseAccount value deployment)

/-- The first half of `bootstrapOnce`, on a recorded account. -/
def existingAccount (existing : AccountManifest) (stateData : Bytes) : Async AccountManifest := do
  let live : Option String ← await (.getStateCell existing.stateOutPoint)
  Prog.of (rejectIf
    (live = none ∨ existing.stateBytes ≠ stateData.length
      ∨ live.map toLowerCase ≠ some (hexFromBytes stateData))
    (apiError .accountMismatch 409 "Existing account does not match this passkey"))
  return existing

/-- The second half of `bootstrapOnce`, on none. -/
def createAccount (stateData : Bytes) : Async AccountManifest := do
  let required := accountStateCapacity stateData.length + initialAsset + bootstrapFeeReserve
  let balance : Int ← await .funderBalanceShannons
  Prog.of (rejectIf (balance < required)
    (apiError .insufficientBalance 409
      "Backend funder balance is insufficient for account creation"))
  Prog.mapErr
    (fun
      | .waitTransactionTimeout => apiError .confirmationTimeout 504
          "Account transaction was submitted but confirmation timed out"
      | error => rethrowApi (apiError .bootstrapFailed 500 "Account creation failed") error)
    (do
      let created ← await (.bootstrap stateData)
      let parsed ← Prog.of (parseAccount created deployment)
      Prog.of (okOr (apiError .bootstrapFailed 500 "Account creation returned no manifest")
        parsed))

/-- `bootstrapOnce`, with the promise that `verifyDeployment()` returned. -/
def bootstrapOnce (verification : Nat) (request : BootstrapRequest) : Async AccountManifest := do
  await (.verification verification)
  let stateData ← Prog.mapErr
    (rethrowApi (apiError .bootstrapFailed 500 "Account state export failed"))
    (await (.exportState request))
  match ← account deployment with
  | some existing => existingAccount existing stateData
  | none => createAccount deployment stateData

end Code

/-! ## The service -/

/-- A promise: its code is running, its `finally` callback has run, or it has settled. -/
inductive Promise (α : Type) where
  | running (code : Async α)
  | released (result : Outcome Thrown α)
  | settled (result : Outcome Thrown α)

/-- What `bootstrap(request)` returned. -/
inductive Reply where
  | rejected (e : Thrown)
  | promise (id : Nat)

/-- A request that was made, and how it was answered. -/
structure Call where
  request : Json
  reply : Reply

/-- The variables of the service, the promises it has made, the calls it has had, and the
    recorded account manifest, `null` when there is none. -/
structure Service where
  hashCkb : String → Option String
  deployment : DeploymentManifest
  deploymentVerification : Option Nat
  active : Option (String × Nat)
  verifications : Nat → Option (Promise Unit)
  creations : Nat → Option (Promise AccountManifest)
  calls : List Call
  manifest : Json

/-- `createDemoService`. -/
def createDemoService (hashCkb : String → Option String) (deployment manifest : Json) :
    Outcome Thrown Service := do
  let deployment ← okOr (apiError .deploymentInvalid 500 "Testnet deployment is invalid")
    (deploymentManifestSchema deployment)
  return {
    hashCkb
    deployment
    deploymentVerification := none
    active := none
    verifications := fun _ => none
    creations := fun _ => none
    calls := []
    manifest }

namespace Service

/-- `verifyDeployment`, where `fresh` names the promise it makes if there is none. -/
def verifyDeployment (s : Service) (fresh : Nat) : Service × Nat :=
  match s.deploymentVerification with
  | some verification => (s, verification)
  | none =>
      let code := verifyArtifacts s.hashCkb [s.deployment.accountLock, s.deployment.verifierP256]
      ({ s with
          deploymentVerification := some fresh
          verifications := Function.update s.verifications fresh (some (.running code)) },
        fresh)

/-- The service with one more call answered. -/
def reply (s : Service) (request : Json) (reply : Reply) : Service :=
  { s with calls := s.calls ++ [⟨request, reply⟩] }

/-- The end of `bootstrap`, with the slot empty: a creation of its own. -/
def startCreation (s : Service) (requestValue : Json) (request : BootstrapRequest)
    (id fresh : Nat) : Service :=
  let verified := s.verifyDeployment fresh
  let code := bootstrapOnce s.deployment verified.2 request
  { verified.1.reply requestValue (.promise id) with
    creations := Function.update s.creations id (some (.running code))
    active := some (request.publicKey, id) }

/-- `bootstrap`, up to its return; `id` and `fresh` name the promises it may make. -/
def bootstrap (s : Service) (requestValue : Json) (id fresh : Nat) : Service :=
  match bootstrapRequestSchema requestValue with
  | none => s.reply requestValue
      (.rejected (apiError .invalidRequest 400 "Invalid account bootstrap request"))
  | some request =>
      match s.active with
      | some (publicKey, promise) =>
          if publicKey ≠ request.publicKey then
            s.reply requestValue (.rejected (apiError .accountMismatch 409
              "A different account creation is already in progress"))
          else s.reply requestValue (.promise promise)
      | none => s.startCreation requestValue request id fresh

/-- The `finally` callback: the slot is cleared if it still holds this promise. -/
def release (s : Service) (id : Nat) (result : Outcome Thrown AccountManifest) : Service :=
  { s with
    creations := Function.update s.creations id (some (.released result))
    active := if s.active.map Prod.snd = some id then none else s.active }

/-- The `catch` callback of `verifyDeployment`, and what the shared promise settles as. -/
def settleVerification (s : Service) (id : Nat) (result : Outcome Thrown Unit) : Service :=
  let settled := result.mapErr (rethrowApi (apiError .deploymentInvalid 500
    "Published testnet code cells could not be verified"))
  { s with
    verifications := Function.update s.verifications id (some (.settled settled))
    deploymentVerification := if result = .ok () then s.deploymentVerification else none }

end Service

/-! ## The system -/

/-- What the dependencies stand for: the state of a public key, and the data of a cell. -/
structure World where
  exported : String → Bytes
  cellData : OutPoint → Bytes

/-- The answers of dependencies that do what they are for.  Each of them may fail. -/
def World.Honest (world : World) : (op : Op) → op.Answer → Prop
  | .exportState request, .ok stateData => stateData = world.exported request.publicKey
  | .getStateCell outPoint, .ok (some outputData) =>
      toLowerCase outputData = hexFromBytes (world.cellData outPoint)
  | .bootstrap stateData, .ok created =>
      created ≠ .null ∧ ∀ m, accountManifestSchema created = some m →
        world.cellData m.stateOutPoint = stateData
  | _, _ => True

/-- The answers that depend on the moment: a shared check must have settled, and the
    recorded manifest is the one that is recorded now. -/
def Service.Current (s : Service) : (op : Op) → op.Answer → Prop
  | .verification id, r => s.verifications id = some (.settled (ofExcept r))
  | .readAccountManifest, .ok value => value = s.manifest
  | _, _ => True

/-- What happens in a step. -/
inductive Event where
  | called (request : Json)
  | status
  | cellAnswered (verification : Nat)
  | verified (verification : Nat)
  | answered (id : Nat)
  | created (id : Nat)
  | released (id : Nat)
  | settled (id : Nat)

/-- An account was created. -/
def Event.isCreated : Event → Bool
  | .created _ => true
  | _ => false

/-- The system with its callers.  `created` is a `deps.bootstrap` that succeeds, which
    records the manifest; one that fails is `answered` and records nothing. -/
inductive Step (world : World) : Service → Event → Service → Prop
  | called {s : Service} (request : Json) (id fresh : Nat) (hid : s.creations id = none)
      (hfresh : s.verifications fresh = none) :
      Step world s (.called request) (s.bootstrap request id fresh)
  | status {s : Service} (fresh : Nat) (hfresh : s.verifications fresh = none) :
      Step world s .status (s.verifyDeployment fresh).1
  | cellAnswered {s : Service} {id : Nat} {op : Op} {k : op.Answer → Async Unit}
      (hcode : s.verifications id = some (.running (.call op k))) (r : op.Answer) :
      Step world s (.cellAnswered id)
        { s with verifications := Function.update s.verifications id (some (.running (k r))) }
  | verified {s : Service} {id : Nat} {result : Outcome Thrown Unit}
      (hcode : s.verifications id = some (.running (.ret result))) :
      Step world s (.verified id) (s.settleVerification id result)
  | answered {s : Service} {id : Nat} {op : Op} {k : op.Answer → Async AccountManifest}
      (hcode : s.creations id = some (.running (.call op k))) (r : op.Answer)
      (hfailed : ∀ stateData, op = .bootstrap stateData → ∃ e, r = .error e)
      (hhonest : world.Honest op r) (hcurrent : s.Current op r) :
      Step world s (.answered id)
        { s with creations := Function.update s.creations id (some (.running (k r))) }
  | created {s : Service} {id : Nat} {stateData : Bytes}
      {k : (Op.bootstrap stateData).Answer → Async AccountManifest}
      (hcode : s.creations id = some (.running (.call (.bootstrap stateData) k)))
      (manifest : Json) (hhonest : world.Honest (.bootstrap stateData) (.ok manifest)) :
      Step world s (.created id)
        { s with
          creations := Function.update s.creations id (some (.running (k (.ok manifest))))
          manifest := manifest }
  | released {s : Service} {id : Nat} {result : Outcome Thrown AccountManifest}
      (hcode : s.creations id = some (.running (.ret result))) :
      Step world s (.released id) (s.release id result)
  | settled {s : Service} {id : Nat} {result : Outcome Thrown AccountManifest}
      (hcode : s.creations id = some (.released result)) :
      Step world s (.settled id)
        { s with creations := Function.update s.creations id (some (.settled result)) }

/-- A `deps.bootstrap` call is in flight. -/
def Service.InFlight (s : Service) (id : Nat) : Prop :=
  ∃ stateData k, s.creations id = some (.running (.call (.bootstrap stateData) k))

/-- What a call has come to: it was turned away, or its promise has settled. -/
def Service.Settles (s : Service) (c : Call) (result : Outcome Thrown AccountManifest) : Prop :=
  match c.reply with
  | .rejected e => result = .err e
  | .promise id => s.creations id = some (.settled result)

/-! ## One creation -/

/-- The state cell of a manifest holds the state of a public key. -/
def World.Serves (world : World) (publicKey : String) (m : AccountManifest) : Prop :=
  world.cellData m.stateOutPoint = world.exported publicKey

/-- `deps.bootstrap` is the call to count. -/
def bootstrapCost : Op → Nat
  | .bootstrap _ => 1
  | _ => 0

/-- The answers while a manifest is recorded. -/
def Recorded : (op : Op) → op.Answer → Prop
  | .readAccountManifest, .ok value => value ≠ .null
  | _, _ => True

/-- A recorded manifest is never read as none. -/
theorem parseAccount_ne_none {value : Json} {deployment : DeploymentManifest}
    {r : Option AccountManifest} (h : parseAccount value deployment = .ok r)
    (hvalue : value ≠ .null) : r ≠ none := by
  unfold parseAccount at h
  split at h
  · exact absurd rfl hvalue
  · obtain ⟨parsed, -, h⟩ := bind_eq_ok.mp h
    obtain ⟨-, h⟩ := rejectIf_bind_eq_ok.mp h
    rw [pure_eq, Outcome.ok.injEq] at h
    exact h ▸ Option.some_ne_none parsed

theorem parseAccount_eq_some {value : Json} {deployment : DeploymentManifest}
    {m : AccountManifest} (h : parseAccount value deployment = .ok (some m)) :
    accountManifestSchema value = some m := by
  unfold parseAccount at h
  split at h
  · exact absurd (Outcome.ok.inj h) (Option.some_ne_none m).symm
  · obtain ⟨parsed, hparsed, h⟩ := bind_eq_ok.mp h
    obtain ⟨-, h⟩ := rejectIf_bind_eq_ok.mp h
    rw [pure_eq, Outcome.ok.injEq, Option.some.injEq] at h
    exact h ▸ okOr_eq_ok.mp hparsed

/-- A recorded account is returned only when its live state cell holds the state asked
    for. -/
theorem existingAccount_serves (world : World) {existing : AccountManifest} {publicKey : String}
    {stateData : Bytes} (hstate : stateData = world.exported publicKey) :
    (existingAccount existing stateData).Returns (fun _ => True) world.Honest
      (world.Serves publicKey) := by
  refine Prog.Returns.bind
    (P := fun live : Option String => ∀ text, live = some text →
      toLowerCase text = hexFromBytes (world.cellData existing.stateOutPoint))
    (returns_performOk (Op.getStateCell _) trivial ?_) fun live hlive => ?_
  · rintro live hlive text rfl
    exact hlive
  · refine Prog.Returns.bind
      (P := fun _ => live.map toLowerCase = some (hexFromBytes stateData))
      (Prog.returns_of fun _ hok => ?_) fun _ hhex => Prog.returns_pure ?_
    · have hchecked := rejectIf_eq_ok.mp hok
      exact not_not.mp (not_or.mp (not_or.mp hchecked).2).2
    · obtain ⟨text, htext, hlower⟩ := Option.map_eq_some_iff.mp hhex
      have hbytes := hexFromBytes_injective ((hlive text htext).symm.trans hlower)
      exact hbytes.trans hstate

/-- A created account is returned as the dependency made it. -/
theorem createAccount_serves (world : World) {deployment : DeploymentManifest}
    {publicKey : String} {stateData : Bytes} (hstate : stateData = world.exported publicKey) :
    (createAccount deployment stateData).Returns (fun _ => True) world.Honest
      (world.Serves publicKey) := by
  refine Prog.Returns.bind (P := fun _ => True)
    (returns_performOk Op.funderBalanceShannons trivial fun _ _ => trivial) fun balance _ => ?_
  refine Prog.Returns.bind (P := fun _ => True) (Prog.returns_of fun _ _ => trivial)
    fun _ _ => ?_
  refine Prog.Returns.mapErr _ ?_
  refine Prog.Returns.bind
    (P := fun created : Json => ∀ m, accountManifestSchema created = some m →
      world.cellData m.stateOutPoint = stateData)
    (returns_performOk (Op.bootstrap stateData) trivial fun _ hcreated => hcreated.2)
    fun created hcreated => ?_
  refine Prog.Returns.bind (P := fun parsed => parseAccount created deployment = .ok parsed)
    (Prog.returns_of fun _ hparsed => hparsed) fun parsed hparsed => ?_
  refine Prog.returns_of fun m hm => ?_
  rw [okOr_eq_ok] at hm
  subst hm
  exact (hcreated m (parseAccount_eq_some hparsed)).trans hstate

/-- **A creation that returns serves its own key**, whatever the dependencies answer. -/
theorem bootstrapOnce_serves (world : World) (deployment : DeploymentManifest)
    (verification : Nat) (request : BootstrapRequest) :
    (bootstrapOnce deployment verification request).Returns (fun _ => True) world.Honest
      (world.Serves request.publicKey) := by
  refine Prog.Returns.bind (P := fun _ => True)
    (returns_performOk (Op.verification verification) trivial fun _ _ => trivial) fun _ _ => ?_
  refine Prog.Returns.bind (P := fun stateData => stateData = world.exported request.publicKey)
    (Prog.Returns.mapErr _ (returns_performOk (Op.exportState request) trivial fun _ hstate => hstate))
    fun stateData hstate => ?_
  refine Prog.Returns.bind (P := fun _ => True) ?_ fun existing _ => ?_
  · exact Prog.Returns.bind (P := fun _ => True)
      (returns_performOk Op.readAccountManifest trivial fun _ _ => trivial)
      fun _ _ => Prog.returns_of fun _ _ => trivial
  · cases existing with
    | some existing => exact existingAccount_serves world hstate
    | none => exact createAccount_serves world hstate

/-- **Once a manifest is recorded a creation asks for no other account.** -/
theorem bootstrapOnce_recorded (deployment : DeploymentManifest) (verification : Nat)
    (request : BootstrapRequest) :
    (bootstrapOnce deployment verification request).Returns (bootstrapCost · = 0) Recorded
      fun _ => True := by
  refine Prog.Returns.bind (P := fun _ => True)
    (returns_performOk (Op.verification verification) rfl fun _ _ => trivial) fun _ _ => ?_
  refine Prog.Returns.bind (P := fun _ => True)
    (Prog.Returns.mapErr _ (returns_performOk (Op.exportState request) rfl fun _ _ => trivial))
    fun stateData _ => ?_
  refine Prog.Returns.bind (P := fun existing => existing ≠ none) ?_ fun existing hsome => ?_
  · exact Prog.Returns.bind (P := fun value : Json => value ≠ .null)
      (returns_performOk Op.readAccountManifest rfl fun _ hvalue => hvalue)
      fun _ hvalue => Prog.returns_of fun _ hparsed => parseAccount_ne_none hparsed hvalue
  · cases existing with
    | some existing =>
        exact Prog.Returns.bind (P := fun _ => True)
          (returns_performOk (Op.getStateCell existing.stateOutPoint) rfl fun _ _ => trivial)
          fun _ _ => Prog.Returns.bind (P := fun _ => True) (Prog.returns_of fun _ _ => trivial)
            fun _ _ => Prog.returns_pure trivial
    | none => exact absurd rfl hsome

/-- **A creation asks for an account at most once.** -/
theorem bootstrapOnce_within (deployment : DeploymentManifest) (verification : Nat)
    (request : BootstrapRequest) :
    (bootstrapOnce deployment verification request).Within bootstrapCost 1 := by
  refine Prog.Within.bind_free (within_performOk (Op.verification verification) (Nat.le_refl 0))
    fun _ => ?_
  refine Prog.Within.bind_free
    (Prog.Within.mapErr _ (within_performOk (Op.exportState request) (Nat.le_refl 0)))
    fun stateData => ?_
  refine Prog.Within.bind_free ?_ fun existing => ?_
  · exact Prog.Within.bind_free (within_performOk Op.readAccountManifest (Nat.le_refl 0))
      fun _ => Prog.within_of
  · cases existing with
    | some existing =>
        exact Prog.Within.bind_free
          (within_performOk (Op.getStateCell existing.stateOutPoint) (Nat.zero_le _)) fun _ =>
          Prog.Within.bind_free Prog.within_of fun _ => trivial
    | none =>
        refine Prog.Within.bind_free (within_performOk Op.funderBalanceShannons (Nat.zero_le _))
          fun _ => ?_
        refine Prog.Within.bind_free Prog.within_of fun _ => ?_
        refine Prog.Within.mapErr _ ?_
        exact Prog.Within.bind (n := 0) (within_performOk (Op.bootstrap stateData) (Nat.le_refl 1))
          fun _ => Prog.Within.bind_free Prog.within_of fun _ => Prog.within_of

/-! ## The invariant -/

/-- A promise that is fulfilled, if at all, with a manifest that serves a key. -/
def Promise.Yields (world : World) (publicKey : String) : Promise AccountManifest → Prop
  | .running code => code.Returns (fun _ => True) world.Honest (world.Serves publicKey)
  | .released result => ∀ m, result = .ok m → world.Serves publicKey m
  | .settled result => ∀ m, result = .ok m → world.Serves publicKey m

/-- **What every run of the service keeps.** -/
structure Inv (world : World) (s : Service) : Prop where
  /-- The slot holds a creation that is running, under the key that it serves. -/
  holder : ∀ {publicKey : String} {id : Nat}, s.active = some (publicKey, id) →
    ∃ code, s.creations id = some (.running code)
      ∧ (Promise.running code).Yields world publicKey
  /-- No other creation is running. -/
  only : ∀ {id : Nat} {code : Async AccountManifest},
    s.creations id = some (.running code) → ∃ publicKey, s.active = some (publicKey, id)
  once : ∀ {id : Nat} {code : Async AccountManifest},
    s.creations id = some (.running code) → code.Within bootstrapCost 1
  recorded : s.manifest ≠ .null → ∀ {id : Nat} {code : Async AccountManifest},
    s.creations id = some (.running code) →
      code.Returns (bootstrapCost · = 0) Recorded fun _ => True
  /-- A caller that was given a promise was given one that serves its key. -/
  served : ∀ c ∈ s.calls, ∀ id, c.reply = .promise id →
    ∃ request promise, bootstrapRequestSchema c.request = some request
      ∧ s.creations id = some promise ∧ promise.Yields world request.publicKey
  /-- A failed check is not kept. -/
  verification : ∀ v e, s.deploymentVerification = some v →
    s.verifications v ≠ some (.settled (.err e))

variable {world : World} {s : Service}

/-- Two running creations are the same. -/
theorem Inv.running_unique (h : Inv world s) {i j : Nat} {c c' : Async AccountManifest}
    (hi : s.creations i = some (.running c)) (hj : s.creations j = some (.running c')) :
    i = j := by
  obtain ⟨_, hslot⟩ := h.only hi
  obtain ⟨_, hslot'⟩ := h.only hj
  rw [hslot, Option.some.injEq, Prod.mk.injEq] at hslot'
  exact hslot'.2

/-- A promise that stays in the slot's reach keeps serving its callers. -/
theorem Inv.served_update (h : Inv world s) {id : Nat} {before after : Promise AccountManifest}
    (hbefore : s.creations id = some before)
    (hyields : ∀ publicKey, before.Yields world publicKey → after.Yields world publicKey) :
    ∀ c ∈ s.calls, ∀ i, c.reply = .promise i →
      ∃ request promise, bootstrapRequestSchema c.request = some request
        ∧ Function.update s.creations id (some after) i = some promise
        ∧ promise.Yields world request.publicKey := by
  intro c hc i hi
  obtain ⟨request, promise, hrequest, hpromise, hserves⟩ := h.served c hc i hi
  by_cases hid : i = id
  · subst hid
    rw [hbefore, Option.some.injEq] at hpromise
    subst hpromise
    exact ⟨request, after, hrequest, Function.update_self .., hyields _ hserves⟩
  · exact ⟨request, promise, hrequest, by rwa [Function.update_of_ne hid], hserves⟩

/-- **An answer**: the creation in the slot goes on. -/
theorem Inv.answer (h : Inv world s) {id : Nat} {op : Op} {k : op.Answer → Async AccountManifest}
    {r : op.Answer} {manifest : Json} (hcode : s.creations id = some (.running (.call op k)))
    (hhonest : world.Honest op r)
    (hrecorded : manifest ≠ .null →
      (k r).Returns (bootstrapCost · = 0) Recorded fun _ => True) :
    Inv world
      { s with
        creations := Function.update s.creations id (some (.running (k r)))
        manifest := manifest } := by
  -- whatever runs afterwards is this creation
  have hsole : ∀ {i : Nat} {code : Async AccountManifest},
      Function.update s.creations id (some (.running (k r))) i = some (.running code) →
        i = id ∧ code = k r := by
    intro i code hi
    by_cases hid : i = id
    · subst hid
      rw [Function.update_self, Option.some.injEq, Promise.running.injEq] at hi
      exact ⟨rfl, hi.symm⟩
    · rw [Function.update_of_ne hid] at hi
      exact absurd (h.running_unique hi hcode) hid
  refine ⟨?_, ?_, ?_, ?_, ?_, h.verification⟩
  · intro publicKey i hslot
    obtain ⟨code, hrun, hyields⟩ := h.holder hslot
    obtain rfl := h.running_unique hrun hcode
    obtain rfl := Promise.running.inj (Option.some.inj (hrun.symm.trans hcode))
    exact ⟨k r, Function.update_self .., hyields.2 r hhonest⟩
  · intro i code hi
    obtain ⟨rfl, -⟩ := hsole hi
    exact h.only hcode
  · intro i code hi
    obtain ⟨rfl, rfl⟩ := hsole hi
    exact ((h.once hcode).2 r).mono (Nat.sub_le ..)
  · intro hne i code hi
    obtain ⟨rfl, rfl⟩ := hsole hi
    exact hrecorded hne
  · exact h.served_update hcode fun publicKey hyields => hyields.2 r hhonest

/-- An answer that is current respects the record. -/
theorem recorded_of_current {op : Op} {r : op.Answer} (hcurrent : s.Current op r)
    (hne : s.manifest ≠ .null) : Recorded op r := by
  cases op with
  | readAccountManifest =>
      cases r with
      | ok value =>
          intro hnull
          exact hne ((show value = s.manifest from hcurrent).symm.trans hnull)
      | error e => trivial
  | verification _ => trivial
  | getDeploymentCell _ => trivial
  | exportState _ => trivial
  | getStateCell _ => trivial
  | funderBalanceShannons => trivial
  | bootstrap _ => trivial

/-- The end of a creation empties the slot. -/
theorem Inv.release (h : Inv world s) {id : Nat} {result : Outcome Thrown AccountManifest}
    (hcode : s.creations id = some (.running (.ret result))) :
    Inv world (s.release id result) := by
  obtain ⟨publicKey, hslot⟩ := h.only hcode
  have hempty : (s.release id result).active = none := by
    rw [Service.release, hslot]
    exact if_pos rfl
  have hnone : ∀ {i : Nat} {code : Async AccountManifest},
      (s.release id result).creations i ≠ some (.running code) := by
    intro i code hi
    by_cases hid : i = id
    · subst hid
      exact nomatch (Function.update_self .. : Function.update s.creations i _ i = _).symm.trans hi
    · have hbefore := (Function.update_of_ne hid (some (Promise.released result)) s.creations).symm
      exact hid (h.running_unique (hbefore.trans hi) hcode)
  refine ⟨?_, fun hi => absurd hi hnone, fun hi => absurd hi hnone,
    fun _ _ _ hi => absurd hi hnone, ?_, h.verification⟩
  · intro publicKey i hi
    rw [hempty] at hi
    exact nomatch hi
  · exact h.served_update hcode fun publicKey hyields => hyields

/-- A promise settles after it has left the slot. -/
theorem Inv.settle (h : Inv world s) {id : Nat} {result : Outcome Thrown AccountManifest}
    (hcode : s.creations id = some (.released result)) :
    Inv world
      { s with creations := Function.update s.creations id (some (.settled result)) } := by
  have hrunning : ∀ {i : Nat} {code : Async AccountManifest},
      Function.update s.creations id (some (.settled result)) i = some (.running code) →
        s.creations i = some (.running code) := by
    intro i code hi
    by_cases hid : i = id
    · subst hid
      rw [Function.update_self] at hi
      exact nomatch hi
    · rwa [Function.update_of_ne hid] at hi
  refine ⟨?_, fun hi => h.only (hrunning hi), fun hi => h.once (hrunning hi),
    fun hne _ _ hi => h.recorded hne (hrunning hi), ?_, h.verification⟩
  · intro publicKey i hslot
    obtain ⟨code, hrun, hyields⟩ := h.holder hslot
    have hid : i ≠ id := by
      rintro rfl
      rw [hcode] at hrun
      exact nomatch hrun
    exact ⟨code, (Function.update_of_ne hid ..).trans hrun, hyields⟩
  · exact h.served_update hcode fun publicKey hyields => hyields

/-! ## Steps and runs -/

theorem inv_createDemoService {hashCkb : String → Option String} {deployment manifest : Json}
    (h : createDemoService hashCkb deployment manifest = .ok s) : Inv world s := by
  obtain ⟨parsed, -, h⟩ := bind_eq_ok.mp h
  rw [pure_eq, Outcome.ok.injEq] at h
  subst h
  exact ⟨fun hslot => (nomatch hslot), fun hi => (nomatch hi), fun hi => (nomatch hi),
    fun _ _ _ hi => (nomatch hi), fun c hc => absurd hc List.not_mem_nil,
    fun _ _ hv => (nomatch hv)⟩

/-- `verifyDeployment` changes only the check that is shared. -/
theorem Inv.verifyDeployment (h : Inv world s) (fresh : Nat) :
    Inv world (s.verifyDeployment fresh).1 := by
  unfold Service.verifyDeployment
  split
  · exact h
  · refine { h with verification := ?_ }
    rintro v e ⟨⟩
    exact fun hv => nomatch (Function.update_self .. :
      Function.update s.verifications fresh _ fresh = _).symm.trans hv

theorem verifyDeployment_frame (s : Service) (fresh : Nat) :
    (s.verifyDeployment fresh).1.creations = s.creations
      ∧ (s.verifyDeployment fresh).1.calls = s.calls
      ∧ (s.verifyDeployment fresh).1.manifest = s.manifest := by
  unfold Service.verifyDeployment
  split <;> exact ⟨rfl, rfl, rfl⟩

/-- A reply is recorded; a promise must serve the caller. -/
theorem Inv.reply (h : Inv world s) {request : Json} {reply : Reply}
    (hreply : ∀ id, reply = .promise id → ∃ parsed promise,
      bootstrapRequestSchema request = some parsed
        ∧ s.creations id = some promise ∧ promise.Yields world parsed.publicKey) :
    Inv world (s.reply request reply) := by
  refine { h with served := ?_ }
  intro c hc id hid
  rcases List.mem_append.mp hc with hc | hc
  · exact h.served c hc id hid
  · rw [List.mem_singleton.mp hc] at hid ⊢
    exact hreply id hid

/-- A creation of its own, when none is running. -/
theorem Inv.startCreation (h : Inv world s) {requestValue : Json} {request : BootstrapRequest}
    {id : Nat} (hrequest : bootstrapRequestSchema requestValue = some request)
    (hslot : s.active = none) (hid : s.creations id = none) (fresh : Nat) :
    Inv world (s.startCreation requestValue request id fresh) := by
  obtain ⟨hcreations, hcalls, hmanifest⟩ := verifyDeployment_frame s fresh
  let code := bootstrapOnce s.deployment (s.verifyDeployment fresh).2 request
  have hstarted : (s.startCreation requestValue request id fresh).creations id
      = some (.running code) := Function.update_self ..
  -- the slot was empty, so the new creation is the only one running
  have hsole : ∀ {i : Nat} {c : Async AccountManifest},
      (s.startCreation requestValue request id fresh).creations i = some (.running c) →
        i = id ∧ c = code := by
    intro i c hi
    by_cases hne : i = id
    · subst hne
      exact ⟨rfl, Promise.running.inj (Option.some.inj (hi.symm.trans hstarted))⟩
    · have hbefore := (Function.update_of_ne hne (some (Promise.running code)) s.creations).symm
      obtain ⟨_, hactive⟩ := h.only (hbefore.trans hi)
      rw [hslot] at hactive
      exact nomatch hactive
  have hyields : (Promise.running code).Yields world request.publicKey :=
    bootstrapOnce_serves world _ _ request
  refine ⟨?_, ?_, ?_, ?_, ?_, (h.verifyDeployment fresh).verification⟩
  · rintro publicKey i ⟨⟩
    exact ⟨code, hstarted, hyields⟩
  · intro i c hi
    obtain ⟨rfl, -⟩ := hsole hi
    exact ⟨_, rfl⟩
  · intro i c hi
    obtain ⟨-, rfl⟩ := hsole hi
    exact bootstrapOnce_within _ _ request
  · intro _ i c hi
    obtain ⟨-, rfl⟩ := hsole hi
    exact bootstrapOnce_recorded _ _ request
  · intro c hc i hi
    rcases List.mem_append.mp hc with hc | hc
    · rw [hcalls] at hc
      obtain ⟨parsed, promise, hparsed, hpromise, hserves⟩ := h.served c hc i hi
      -- an earlier call awaits an earlier promise, not the fresh one
      have hne : i ≠ id := by
        rintro rfl
        rw [hid] at hpromise
        exact nomatch hpromise
      exact ⟨parsed, promise, hparsed, (Function.update_of_ne hne ..).trans hpromise, hserves⟩
    · rw [List.mem_singleton.mp hc] at hi ⊢
      obtain rfl := Reply.promise.inj hi
      exact ⟨request, _, hrequest, hstarted, hyields⟩

theorem Inv.bootstrap (h : Inv world s) (requestValue : Json) {id : Nat}
    (hid : s.creations id = none) (fresh : Nat) :
    Inv world (s.bootstrap requestValue id fresh) := by
  unfold Service.bootstrap
  split
  · exact h.reply fun _ hreply => nomatch hreply
  · rename_i request hrequest
    split
    · rename_i publicKey promise hslot
      split
      · exact h.reply fun _ hreply => nomatch hreply
      · rename_i hkey
        refine h.reply fun i hreply => ?_
        obtain rfl := Reply.promise.inj hreply
        obtain ⟨code, hcode, hyields⟩ := h.holder hslot
        exact ⟨request, _, hrequest, hcode, not_not.mp hkey ▸ hyields⟩
    · rename_i hslot
      exact h.startCreation hrequest hslot hid fresh

/-- A check that fails is dropped before anyone sees it fail. -/
theorem Inv.settleVerification (h : Inv world s) (id : Nat) (result : Outcome Thrown Unit) :
    Inv world (s.settleVerification id result) := by
  refine { h with verification := ?_ }
  intro v e hv hsettled
  by_cases hok : result = .ok ()
  · subst hok
    by_cases hid : v = id
    · subst hid
      exact nomatch (Function.update_self .. :
        Function.update s.verifications v _ v = _).symm.trans hsettled
    · exact h.verification v e hv ((Function.update_of_ne hid ..).symm.trans hsettled)
  · exact nomatch (if_neg hok : ite _ _ none = none).symm.trans hv

/-- **Every step keeps the invariant.** -/
theorem Inv.step {event : Event} {s' : Service} (h : Inv world s)
    (hstep : Step world s event s') : Inv world s' := by
  cases hstep with
  | called request id fresh hid hfresh => exact h.bootstrap request hid fresh
  | status fresh hfresh => exact h.verifyDeployment fresh
  | @cellAnswered id op k hcode r =>
      refine { h with verification := ?_ }
      intro v e hv hsettled
      by_cases hid : v = id
      · subst hid
        exact nomatch (Function.update_self .. :
          Function.update s.verifications v _ v = _).symm.trans hsettled
      · exact h.verification v e hv ((Function.update_of_ne hid ..).symm.trans hsettled)
  | verified hcode => exact h.settleVerification _ _
  | answered hcode r hfailed hhonest hcurrent =>
      refine h.answer hcode hhonest fun hne => ?_
      exact (h.recorded hne hcode).2 r (recorded_of_current hcurrent hne)
  | created hcode manifest hhonest =>
      -- the one call that was allowed has been made
      exact h.answer hcode hhonest fun _ =>
        Proc.Within.along ((h.once hcode).2 (.ok manifest)) fun _ _ _ => trivial
  | released hcode => exact h.release hcode
  | settled hcode => exact h.settle hcode

/-- A manifest that is recorded stays recorded, and a creation records one. -/
theorem Step.manifest_ne_null {event : Event} {s' : Service} (hstep : Step world s event s')
    (h : s.manifest ≠ .null ∨ event.isCreated = true) : s'.manifest ≠ .null := by
  cases hstep with
  | called request id fresh hid hfresh =>
      have hkeep : (s.bootstrap request id fresh).manifest = s.manifest := by
        unfold Service.bootstrap
        split
        · rfl
        · split
          · split <;> rfl
          · exact (verifyDeployment_frame s fresh).2.2
      rw [hkeep]
      exact h.resolve_right Bool.false_ne_true
  | status fresh hfresh =>
      rw [(verifyDeployment_frame s fresh).2.2]
      exact h.resolve_right Bool.false_ne_true
  | cellAnswered hcode r => exact h.resolve_right Bool.false_ne_true
  | verified hcode => exact h.resolve_right Bool.false_ne_true
  | answered hcode r hfailed hhonest hcurrent => exact h.resolve_right Bool.false_ne_true
  | created hcode manifest hhonest => exact hhonest.1
  | released hcode => exact h.resolve_right Bool.false_ne_true
  | settled hcode => exact h.resolve_right Bool.false_ne_true

/-- The check a creation waits for is the one that is shared. -/
theorem verifyDeployment_shared (s : Service) (fresh : Nat) :
    (s.verifyDeployment fresh).1.deploymentVerification
      = some (s.verifyDeployment fresh).2 := by
  unfold Service.verifyDeployment
  split
  · assumption
  · rfl

/-- **Bootstrap agreement.**  For any callers, any order of their steps and any failures of
    the dependencies: at most one account is being asked for at a time, and none once one
    has been created; a call that is fulfilled got a manifest whose state cell holds the
    state of its own key; and a call that is rejected does not hold the slot, which is
    empty, so that the next request starts a creation of its own behind a check that has
    not failed, or belongs to a creation that is still running. -/
theorem bootstrap_agreement (world : World) (hashCkb : String → Option String)
    (deployment manifest : Json) (s₀ s : Service) (history : List (Service × Event))
    (hcreate : createDemoService hashCkb deployment manifest = .ok s₀)
    (hrun : Run (Step world) s₀ history s) :
    (∀ i j, s.InFlight i → s.InFlight j → i = j)
      ∧ ((∃ e ∈ history, e.2.isCreated = true) → ∀ id, ¬ s.InFlight id)
      ∧ (∀ c ∈ s.calls, ∀ m, s.Settles c (.ok m) →
          ∃ request, bootstrapRequestSchema c.request = some request
            ∧ world.cellData m.stateOutPoint = world.exported request.publicKey)
      ∧ ∀ c ∈ s.calls, ∀ e, s.Settles c (.err e) →
          (∀ publicKey id, s.active = some (publicKey, id) →
            c.reply ≠ .promise id ∧ ∃ code, s.creations id = some (.running code))
          ∧ (s.active = none → ∀ requestValue request id fresh,
            bootstrapRequestSchema requestValue = some request → s.creations id = none →
            s.verifications fresh = none →
              ∃ v, (s.bootstrap requestValue id fresh).creations id
                    = some (.running (bootstrapOnce s.deployment v request))
                ∧ ∀ e, (s.bootstrap requestValue id fresh).verifications v
                    ≠ some (.settled (.err e))) := by
  have hinv : Inv world s :=
    hrun.invariant (inv_createDemoService hcreate) fun _ _ _ h hstep => h.step hstep
  refine ⟨?_, ?_, ?_, ?_⟩
  · rintro i j ⟨_, _, hi⟩ ⟨_, _, hj⟩
    exact hinv.running_unique hi hj
  · rintro hcreated id ⟨stateData, k, hcode⟩
    have hne := hrun.established (fun _ _ _ hstep => hstep.manifest_ne_null) hcreated
    -- past the record no second creation is paid for, yet this one would be
    have hfree : bootstrapCost (.bootstrap stateData) = 0 := (hinv.recorded hne hcode).1
    exact absurd hfree Nat.one_ne_zero
  · intro c hc m hsettles
    unfold Service.Settles at hsettles
    split at hsettles
    · exact nomatch hsettles
    · rename_i id hreply
      obtain ⟨request, promise, hrequest, hpromise, hyields⟩ := hinv.served c hc id hreply
      obtain rfl := Option.some.inj (hpromise.symm.trans hsettles)
      exact ⟨request, hrequest, hyields m rfl⟩
  · intro c hc e hsettles
    refine ⟨fun publicKey id hslot => ?_,
      fun hslot requestValue request id fresh hrequest hid _ => ?_⟩
    · -- a call that has failed is settled, the creation in the slot still runs
      obtain ⟨code, hcode, -⟩ := hinv.holder hslot
      refine ⟨fun hreply => ?_, code, hcode⟩
      rw [Service.Settles, hreply] at hsettles
      exact nomatch hcode.symm.trans hsettles
    · -- with the slot free the next call starts a creation of its own
      have hnext : s.bootstrap requestValue id fresh
          = s.startCreation requestValue request id fresh := by
        rw [Service.bootstrap, hrequest, hslot]
      refine ⟨(s.verifyDeployment fresh).2, ?_, fun e => ?_⟩
      · rw [hnext]
        exact Function.update_self ..
      · refine (hinv.bootstrap requestValue hid fresh).verification _ e ?_
        rw [hnext]
        exact verifyDeployment_shared s fresh

/-! ## A run in which no dependency fails -/

/-- A relation on services that has every step in which no dependency fails. -/
structure Serving (world : World) (step : Service → Event → Service → Prop) : Prop where
  silent : ∀ {s s' : Service} {event : Event}, Step world s event s' →
    (∀ id, event ≠ .cellAnswered id) → (∀ id, event ≠ .answered id) → step s event s'
  cellAnswered : ∀ {s : Service} {id : Nat} {op : Op} {k : op.Answer → Async Unit},
    s.verifications id = some (.running (.call op k)) → ∀ value : op.Result,
      step s (.cellAnswered id) { s with
        verifications := Function.update s.verifications id (some (.running (k (.ok value)))) }
  answered : ∀ {s : Service} {id : Nat} {op : Op} {k : op.Answer → Async AccountManifest},
    s.creations id = some (.running (.call op k)) → ∀ value : op.Result,
      (∀ stateData, op ≠ .bootstrap stateData) → world.Honest op (.ok value) →
      s.Current op (.ok value) →
      step s (.answered id) { s with
        creations := Function.update s.creations id (some (.running (k (.ok value)))) }

/-- The steps of the system are such a relation. -/
theorem serving_step (world : World) : Serving world (Step world) where
  silent hstep _ _ := hstep
  cellAnswered hcode value := .cellAnswered hcode (.ok value)
  answered hcode value hop hhonest hcurrent :=
    .answered hcode (.ok value) (fun stateData heq => absurd heq (hop stateData)) hhonest hcurrent

/-- The fetch of a code cell that is the one published. -/
theorem verifyArtifacts_found (artifact : Artifact) (artifacts : List Artifact) :
    ∃ k : (Op.getDeploymentCell ⟨artifact.txHash, artifact.index⟩).Answer → Async Unit,
      verifyArtifacts some (artifact :: artifacts) = .call (.getDeploymentCell _) k
        ∧ k (Except.ok (some artifact.dataHash)) = verifyArtifacts some artifacts := by
  refine ⟨_, rfl, ?_⟩
  show Prog.resume _ (rejectIf (artifact.dataHash ≠ artifact.dataHash) _) = _
  rw [rejectIf_neg (not_not.mpr rfl)]
  rfl

/-- The calls of a creation, when nothing goes wrong. -/
theorem bootstrapOnce_calls {deployment : DeploymentManifest} (verification : Nat)
    (request : BootstrapRequest) {stateData : Bytes} {balance : Int} {created : Json}
    {m : AccountManifest}
    (hbalance : ¬ balance < accountStateCapacity stateData.length + initialAsset
      + bootstrapFeeReserve)
    (hparsed : parseAccount created deployment = .ok (some m)) :
    ∃ k₁ k₂ k₃ k₄ k₅,
      bootstrapOnce deployment verification request = .call (.verification verification) k₁
        ∧ k₁ (Except.ok ()) = .call (.exportState request) k₂
        ∧ k₂ (Except.ok stateData) = .call .readAccountManifest k₃
        ∧ k₃ (Except.ok Json.null) = .call .funderBalanceShannons k₄
        ∧ k₄ (Except.ok balance) = .call (.bootstrap stateData) k₅
        ∧ k₅ (Except.ok created) = .ret (.ok m) := by
  refine ⟨_, _, _, _, ?k, rfl, rfl, rfl, rfl, ?_, ?_⟩
  rotate_left
  · show Prog.resume _ (rejectIf (balance < _) _) = _
    rw [rejectIf_neg hbalance]
    rfl
  · show Proc.bind (Prog.resume _ (parseAccount created deployment)) _ = _
    rw [hparsed]
    rfl

/-- A promise of a check, or of a creation, moves. -/
def Service.setVerification (s : Service) (id : Nat) (promise : Promise Unit) : Service :=
  { s with verifications := Function.update s.verifications id (some promise) }

/-- The service with this promise of a creation. -/
def Service.setCreation (s : Service) (id : Nat) (promise : Promise AccountManifest) : Service :=
  { s with creations := Function.update s.creations id (some promise) }

/-- With an account recorded, and the slot cleared if it holds the promise that did so. -/
def Service.afterCreation (s : Service) (id : Nat) (created : Json) : Service :=
  { s with
    active := if s.active.map Prod.snd = some id then none else s.active
    manifest := created }

theorem setVerification_eq_self {s : Service} {id : Nat} {promise : Promise Unit}
    (h : s.verifications id = some promise) : s.setVerification id promise = s := by
  rw [Service.setVerification, ← h, Function.update_eq_self]

theorem setCreation_eq_self {s : Service} {id : Nat} {promise : Promise AccountManifest}
    (h : s.creations id = some promise) : s.setCreation id promise = s := by
  rw [Service.setCreation, ← h, Function.update_eq_self]

theorem setVerification_setVerification (s : Service) (id : Nat) (promise promise' : Promise Unit) :
    (s.setVerification id promise).setVerification id promise' = s.setVerification id promise' := by
  unfold Service.setVerification
  rw [Function.update_idem]

theorem setCreation_setCreation (s : Service) (id : Nat)
    (promise promise' : Promise AccountManifest) :
    (s.setCreation id promise).setCreation id promise' = s.setCreation id promise' := by
  unfold Service.setCreation
  rw [Function.update_idem]

section Serving

variable {world : World} {step : Service → Event → Service → Prop} (h : Serving world step)
include h

/-- A cell is fetched. -/
theorem Serving.fetch (s : Service) (id : Nat) {op : Op} {k : op.Answer → Async Unit}
    (value : op.Result) :
    step (s.setVerification id (.running (.call op k))) (.cellAnswered id)
      (s.setVerification id (.running (k (.ok value)))) := by
  have hcode : (s.setVerification id (.running (.call op k))).verifications id
      = some (.running (.call op k)) := Function.update_self ..
  have hstep : step _ (.cellAnswered id) (Service.setVerification _ id (.running (k (.ok value)))) :=
    h.cellAnswered hcode value
  rwa [setVerification_setVerification] at hstep

/-- A call of a creation is answered. -/
theorem Serving.answer (s : Service) (id : Nat) (op : Op) (k : op.Answer → Async AccountManifest)
    (value : op.Result) (hop : ∀ stateData, op ≠ .bootstrap stateData)
    (hhonest : world.Honest op (.ok value))
    (hcurrent : (s.setCreation id (.running (.call op k))).Current op (.ok value)) :
    step (s.setCreation id (.running (.call op k))) (.answered id)
      (s.setCreation id (.running (k (.ok value)))) := by
  have hcode : (s.setCreation id (.running (.call op k))).creations id
      = some (.running (.call op k)) := Function.update_self ..
  have hstep : step _ (.answered id) (Service.setCreation _ id (.running (k (.ok value)))) :=
    h.answered hcode value hop hhonest hcurrent
  rwa [setCreation_setCreation] at hstep

/-- A check that finds both cells as they were published succeeds. -/
theorem Serving.verifies {s : Service} {id : Nat} {artifact artifact' : Artifact}
    (hcode : s.verifications id = some (.running (verifyArtifacts some [artifact, artifact']))) :
    ∃ history, Run step s history (s.setVerification id (.settled (.ok ()))) := by
  obtain ⟨k, hk, hnext⟩ := verifyArtifacts_found artifact [artifact']
  obtain ⟨k', hk', hlast⟩ := verifyArtifacts_found artifact' []
  have hstart := setVerification_eq_self hcode
  have hfirst := h.fetch s id (k := k) (some artifact.dataHash)
  have hsecond := h.fetch s id (k := k') (some artifact'.dataHash)
  rw [← hk, hstart, hnext, hk'] at hfirst
  rw [hlast] at hsecond
  have hreturned : (s.setVerification id (.running (verifyArtifacts some []))).verifications id
      = some (.running (.ret (.ok ()))) := Function.update_self ..
  have hsettled : step _ (.verified id) (Service.setVerification _ id (.settled (.ok ()))) :=
    h.silent (.verified hreturned) (fun _ hevent => by cases hevent)
      (fun _ hevent => by cases hevent)
  rw [setVerification_setVerification] at hsettled
  exact ⟨_, .snoc (.snoc (.snoc .nil hfirst) hsecond) hsettled⟩

/-- **The way of a creation is open**: with the check of the code cells behind it, no account
    recorded and enough balance, it asks for an account and settles with it. -/
theorem Serving.creates {s : Service} {id verification : Nat} {request : BootstrapRequest}
    {balance : Int} {created : Json} {m : AccountManifest}
    (hcode : s.creations id = some (.running (bootstrapOnce s.deployment verification request)))
    (hverified : s.verifications verification = some (.settled (.ok ())))
    (hmanifest : s.manifest = .null)
    (hbalance : ¬ balance < accountStateCapacity (world.exported request.publicKey).length
      + initialAsset + bootstrapFeeReserve)
    (hhonest : world.Honest (.bootstrap (world.exported request.publicKey)) (.ok created))
    (hparsed : parseAccount created s.deployment = .ok (some m)) :
    ∃ history, Run step s history ((s.afterCreation id created).setCreation id (.settled (.ok m)))
      ∧ ∃ e ∈ history, e.2.isCreated = true := by
  obtain ⟨k₁, k₂, k₃, k₄, k₅, hk₁, hk₂, hk₃, hk₄, hk₅, hlast⟩ :=
    bootstrapOnce_calls verification request hbalance hparsed
  have hstart := setCreation_eq_self hcode
  have hone := h.answer s id (.verification verification) k₁ () nofun trivial hverified
  have htwo := h.answer s id (.exportState request) k₂ (world.exported request.publicKey) nofun rfl
    trivial
  have hthree := h.answer s id .readAccountManifest k₃ Json.null nofun trivial hmanifest.symm
  have hfour := h.answer s id .funderBalanceShannons k₄ balance nofun trivial trivial
  rw [← hk₁, hstart, hk₂] at hone
  rw [hk₃] at htwo
  rw [hk₄] at hthree
  rw [hk₅] at hfour
  -- the account is made and recorded, and the slot is cleared
  have hasks : (s.setCreation id (.running (.call _ k₅))).creations id
      = some (.running (.call _ k₅)) := Function.update_self ..
  have hcreated : step _ (.created id) (Service.setCreation
      (Service.setCreation { s with manifest := created } id (.running (.call _ k₅))) id
        (.running (k₅ (.ok created)))) :=
    h.silent (.created hasks created hhonest) nofun nofun
  rw [hlast, setCreation_setCreation] at hcreated
  have hreturned : (Service.setCreation { s with manifest := created } id
      (.running (.ret (.ok m)))).creations id = some (.running (.ret (.ok m))) :=
    Function.update_self ..
  have hreleased : step _ (.released id) (Service.setCreation (Service.setCreation
      (s.afterCreation id created) id (.running (.ret (.ok m)))) id (.released (.ok m))) :=
    h.silent (.released hreturned) nofun nofun
  rw [setCreation_setCreation] at hreleased
  have hdone : (Service.setCreation
      (s.afterCreation id created) id (.released (.ok m))).creations id = some (.released (.ok m)) :=
    Function.update_self ..
  have hsettled : step _ (.settled id) (Service.setCreation (Service.setCreation
      (s.afterCreation id created) id (.released (.ok m))) id (.settled (.ok m))) :=
    h.silent (.settled hdone) nofun nofun
  rw [setCreation_setCreation] at hsettled
  have hasked : Run step s _ (s.setCreation id (.running (.call _ k₅))) :=
    .snoc (.snoc (.snoc (.snoc .nil hone) htwo) hthree) hfour
  exact ⟨_, ((hasked.snoc hcreated).snoc hreleased).snoc hsettled, (_, .created id),
    List.mem_append_left _ (List.mem_append_left _ (List.mem_append_right _
      (List.mem_singleton.mpr rfl))), rfl⟩

end Serving

/-! ## Two callers -/

/-- Hex text of one digit. -/
def digits (lead : String) (n : Nat) : String := lead ++ String.ofList (List.replicate n '1')

/-- An artifact of the sample deployment. -/
def sampleArtifact (name : String) : Json :=
  .object [("name", .string name), ("dataHash", .string (digits "0x" 64)),
    ("hashType", .string "data2"), ("txHash", .string (digits "0x" 64)), ("index", .number 0),
    ("capacityShannons", .string "3350900000000")]

/-- A deployment that its schema accepts. -/
def sampleDeployment : Json :=
  .object [("schema_version", .number 1), ("network", .string "testnet"), ("published", .bool true),
    ("hash_type", .string "data2"),
    ("artifacts", .object [("account_lock", sampleArtifact "account_lock"),
      ("verifier_p256", sampleArtifact "verifier_p256")])]

/-- A request that its schema accepts. -/
def sampleRequest : Json :=
  .object [("publicKey", .string (digits "0x04" 128)), ("credentialId", .string "AQIDBA")]

/-- What `deps.bootstrap` returns. -/
def sampleCreated : Json :=
  let outPoint (index : Int) := Json.object [("tx_hash", .string (digits "0x" 64)),
    ("index", .number index)]
  .object [("schema_version", .number 1), ("network", .string "testnet"),
    ("account_id", .string (digits "0x" 64)),
    ("account_lock", .object [("code_hash", .string (digits "0x" 64)),
      ("hash_type", .string "data2"), ("args", .string (digits "0x01" 64))]),
    ("type_id_args", .string (digits "0x" 64)), ("state_out_point", outPoint 0),
    ("asset_out_point", outPoint 1), ("state_bytes", .number 3)]

/-- The manifest of the account that is created. -/
def sampleManifest : AccountManifest where
  accountId := digits "0x" 64
  accountLock := ⟨digits "0x" 64, digits "0x01" 64⟩
  typeIdArgs := digits "0x" 64
  stateOutPoint := ⟨digits "0x" 64, 0⟩
  assetOutPoint := ⟨digits "0x" 64, 1⟩
  stateBytes := 3

/-- The service on the sample deployment, with no account recorded. -/
def sampleService : Service where
  hashCkb := some
  deployment :=
    let artifact := ⟨digits "0x" 64, digits "0x" 64, 0, "3350900000000"⟩
    ⟨artifact, artifact⟩
  deploymentVerification := none
  active := none
  verifications := fun _ => none
  creations := fun _ => none
  calls := []
  manifest := .null

/-- Every key is exported to the same state, which is on the chain. -/
def sampleWorld : World where
  exported := fun _ => [1, 2, 3]
  cellData := fun _ => [1, 2, 3]

/-- The service when two callers have asked for one key, and a third for nothing. -/
def sampleCalled : Service where
  hashCkb := some
  deployment := sampleService.deployment
  deploymentVerification := some 0
  active := some (digits "0x04" 128, 0)
  verifications := Function.update (fun _ => none) 0 (some (.running (verifyArtifacts some
    [sampleService.deployment.accountLock, sampleService.deployment.verifierP256])))
  creations := Function.update (fun _ => none) 0 (some (.running (bootstrapOnce
    sampleService.deployment 0 ⟨digits "0x04" 128, "AQIDBA"⟩)))
  calls := [⟨sampleRequest, .promise 0⟩, ⟨sampleRequest, .promise 0⟩,
    ⟨.null, .rejected (apiError .invalidRequest 400 "Invalid account bootstrap request")⟩]
  manifest := .null

theorem createDemoService_sample :
    createDemoService some sampleDeployment .null = .ok sampleService := by
  have hparsed : deploymentManifestSchema sampleDeployment = some sampleService.deployment := by
    decide +kernel
  rw [createDemoService, hparsed]
  rfl

/-- The first call starts a creation, the second shares it, and the third is turned away. -/
theorem sample_calls {step : Service → Event → Service → Prop} (h : Serving sampleWorld step) :
    ∃ history, Run step sampleService history sampleCalled := by
  have hrequest : bootstrapRequestSchema sampleRequest
      = some ⟨digits "0x04" 128, "AQIDBA"⟩ := by decide +kernel
  have hfirst := h.silent (.called (s := sampleService) sampleRequest 0 0 rfl rfl) nofun nofun
  have hstarted : sampleService.bootstrap sampleRequest 0 0
      = { sampleCalled with calls := [⟨sampleRequest, .promise 0⟩] } := by
    rw [Service.bootstrap, hrequest]
    rfl
  rw [hstarted] at hfirst
  have hsecond := h.silent (.called (s := { sampleCalled with calls := [⟨sampleRequest, .promise 0⟩] })
    sampleRequest 1 1 rfl rfl) nofun nofun
  have hshared : Service.bootstrap { sampleCalled with calls := [⟨sampleRequest, .promise 0⟩] }
      sampleRequest 1 1 = { sampleCalled with
        calls := [⟨sampleRequest, .promise 0⟩, ⟨sampleRequest, .promise 0⟩] } := by
    rw [Service.bootstrap, hrequest]
    exact if_neg (not_not.mpr rfl)
  rw [hshared] at hsecond
  have hthird := h.silent (.called (s := { sampleCalled with
    calls := [⟨sampleRequest, .promise 0⟩, ⟨sampleRequest, .promise 0⟩] }) .null 1 1 rfl rfl)
    nofun nofun
  exact ⟨_, ((Run.nil.snoc hfirst).snoc hsecond).snoc hthird⟩

/-- And the creation goes through. -/
theorem sample_creates {step : Service → Event → Service → Prop} (h : Serving sampleWorld step) :
    ∃ history s, Run step sampleService history s ∧ (∃ e ∈ history, e.2.isCreated = true)
      ∧ s.calls = sampleCalled.calls ∧ s.creations 0 = some (.settled (.ok sampleManifest))
      ∧ s.active = none ∧ s.creations 1 = none ∧ s.verifications 1 = none := by
  have hcreated : accountManifestSchema sampleCreated = some sampleManifest := by decide +kernel
  have hcode : sampleManifest.accountLock.codeHash
      = sampleService.deployment.accountLock.dataHash := rfl
  have hparsed : parseAccount sampleCreated sampleService.deployment = .ok (some sampleManifest) := by
    rw [show parseAccount sampleCreated sampleService.deployment
      = (okOr _ (accountManifestSchema sampleCreated) >>= _) from rfl, hcreated, okOr_some, ok_bind,
      rejectIf_neg (not_not.mpr hcode)]
    rfl
  have hhonest : sampleWorld.Honest (.bootstrap [1, 2, 3]) (.ok sampleCreated) :=
    ⟨fun hnull => (by cases hnull), fun _ _ => rfl⟩
  obtain ⟨calls, hcalled⟩ := sample_calls h
  obtain ⟨checks, hverified⟩ := @Serving.verifies _ _ h sampleCalled 0 _ _ rfl
  obtain ⟨rest, hsettled, e, he, hevent⟩ := @Serving.creates _ _ h
    (sampleCalled.setVerification 0 (.settled (.ok ()))) 0 0 ⟨digits "0x04" 128, "AQIDBA"⟩
    100000000000 _ _ rfl rfl rfl (by decide) hhonest hparsed
  exact ⟨_, _, (hcalled.trans hverified).trans hsettled,
    ⟨e, List.mem_append_right _ he, hevent⟩, rfl, rfl, rfl, rfl, rfl⟩

/-- **Two callers for one key**: both get the one account that is created, and a request that is
    none is turned away without touching the slot. -/
theorem sampleService_agreement :
    ∃ history s, Run (Step sampleWorld) sampleService history s
      ∧ (∃ e ∈ history, e.2.isCreated = true) ∧ (∀ id, ¬ s.InFlight id)
      ∧ s.calls = sampleCalled.calls
      ∧ s.Settles ⟨sampleRequest, .promise 0⟩ (.ok sampleManifest)
      ∧ sampleWorld.cellData sampleManifest.stateOutPoint = sampleWorld.exported (digits "0x04" 128)
      ∧ ∃ v, (s.bootstrap sampleRequest 1 1).creations 1
          = some (.running (bootstrapOnce s.deployment v ⟨digits "0x04" 128, "AQIDBA"⟩)) := by
  have hrequest : bootstrapRequestSchema sampleRequest
      = some ⟨digits "0x04" 128, "AQIDBA"⟩ := by decide +kernel
  obtain ⟨history, s, hrun, hcreated, hcalls, hsettled, hslot, hcreations, hverifications⟩ :=
    sample_creates (serving_step sampleWorld)
  obtain ⟨-, hquiet, hfulfilled, hrejected⟩ := bootstrap_agreement sampleWorld some sampleDeployment
    .null sampleService s history createDemoService_sample hrun
  have hshared : ⟨sampleRequest, .promise 0⟩ ∈ s.calls := by
    rw [hcalls]
    exact List.mem_cons_self
  have hturned : ⟨.null, .rejected (apiError .invalidRequest 400
      "Invalid account bootstrap request")⟩ ∈ s.calls := by
    rw [hcalls]
    exact List.mem_cons_of_mem _ (List.mem_cons_of_mem _ (List.mem_singleton.mpr rfl))
  obtain ⟨request, hparsed, hserves⟩ := hfulfilled _ hshared sampleManifest hsettled
  cases hparsed.symm.trans hrequest
  obtain ⟨v, hnext, -⟩ := (hrejected _ hturned _ rfl).2 hslot sampleRequest _ 1 1 hrequest hcreations
    hverifications
  exact ⟨history, s, hrun, hcreated, hquiet hcreated, hcalls, hsettled, hserves, v, hnext⟩

end CkbDemoService
