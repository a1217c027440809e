import CkbAccount.DemoApiProofs

/-! # The client of the account service

    `client_receives` says what the client of the local API gets from any service.  Here the
    service is that of `demo/src/server/service.ts`, with its callers and its dependencies.

    * `bootstrapOnce_ends`, `verifyArtifacts_ends`: on every path the code ends with a manifest of
      the deployment, or with an error that a client can read;
    * `Answering`: the same for every promise the service has made and every call it turned away;
    * `Answering.step`, and `client_of_run` for whole runs: what the client is told. -/

namespace CkbDemoClient

open RustOutcome Outcome Process StepRun CkbBrowserCodec CkbSchemas
open CkbSpend (textEncode)
open CkbDemoApi (ProperError Proper received Carries Platform DemoService apiBootstrap fetchLocal
  answerJson apiPaths bodyLimit apiBootstrap_answer)
open CkbDemoService (Op Async await Thrown apiError rethrowApi parseAccount parseAccount_eq_some
  verifyArtifacts account existingAccount createAccount bootstrapOnce Promise Reply Service
  createDemoService inv_createDemoService Inv World Event Step Call Serving sampleManifest
  sample_creates createDemoService_sample)

/-! ## The code -/

/-- Answers of dependencies whose own `ApiError`s a client can read. -/
def ProperAnswer (op : Op) (r : op.Answer) : Prop := ∀ e, r = Except.error e → ProperError e

/-- A manifest of this deployment. -/
structure OfDeployment (deployment : DeploymentManifest) (m : AccountManifest) : Prop where
  valid : m.Valid
  codeHash : m.accountLock.codeHash = deployment.accountLock.dataHash

/-- Code that ends with a value in `Q`, or with an error that a client can read. -/
abbrev Answers {α : Type} (Q : α → Prop) (code : Async α) : Prop :=
  code.Ends (fun _ => True) ProperAnswer ProperError Q

/-- An error of the service itself. -/
theorem properError_api {e : CkbDemoService.ApiError} (hstatus : 400 ≤ e.status ∧ e.status ≤ 599)
    (hmessage : utf16Length e.safeMessage ≤ 240) : ProperError (.api e) :=
  ⟨hstatus.1, hstatus.2, hmessage⟩

/-- An error that is passed on, or relabelled, stays proper. -/
theorem properError_rethrowApi {e : Thrown} (he : ProperError e) :
    ∀ thrown, ProperError thrown → ProperError (rethrowApi e thrown) := by
  intro thrown hthrown
  cases thrown with
  | api error => exact hthrown
  | waitTransactionTimeout => exact he
  | other => exact he

/-- Every call of a dependency. -/
theorem ends_await (op : Op) : Answers (fun _ => True) (await op) :=
  ends_performOk op trivial (fun _ _ => trivial) fun e he => he e rfl

theorem ends_okOr {α : Type} {e : Thrown} (he : ProperError e) (o : Option α) :
    Answers (fun a => o = some a) (Prog.of (okOr e o)) := by
  refine Prog.ends_of (fun a ha => okOr_eq_ok.mp ha) fun e' he' => ?_
  cases o with
  | none =>
      cases he'
      exact he
  | some a => cases he'

theorem ends_rejectIf {bad : Prop} [Decidable bad] {e : Thrown} (he : ProperError e) :
    Answers (fun _ => ¬ bad) (Prog.of (rejectIf bad e)) := by
  refine Prog.ends_of (fun _ hok => rejectIf_eq_ok.mp hok) fun e' he' => ?_
  by_cases hbad : bad
  · rw [rejectIf_pos hbad] at he'
    cases he'
    exact he
  · rw [rejectIf_neg hbad] at he'
    cases he'

/-- A manifest that is parsed is of the deployment. -/
theorem parseAccount_proper (value : Json) (deployment : DeploymentManifest) :
    Proper (fun account => ∀ m ∈ account, OfDeployment deployment m)
      (parseAccount value deployment) := by
  have hmismatch : ProperError (apiError .accountMismatch 409
      "Recorded account does not match this testnet deployment") :=
    properError_api (by decide) (by decide)
  unfold parseAccount
  split
  · refine ⟨?_, fun e he => (by cases he)⟩
    rintro account ⟨⟩ m hm
    cases hm
  · dsimp only
    cases hparsed : accountManifestSchema value with
    | none =>
        refine ⟨fun account haccount => (by cases haccount), ?_⟩
        rintro e ⟨⟩
        exact hmismatch
    | some parsed =>
        by_cases hcode : parsed.accountLock.codeHash = deployment.accountLock.dataHash
        · rw [okOr_some, ok_bind, rejectIf_neg (not_not.mpr hcode)]
          refine ⟨?_, fun e he => (by cases he)⟩
          rintro account ⟨⟩ m hm
          cases hm
          exact ⟨accountManifestSchema_valid hparsed, hcode⟩
        · rw [okOr_some, ok_bind, rejectIf_pos hcode]
          refine ⟨fun account haccount => (by cases haccount), ?_⟩
          rintro e ⟨⟩
          exact hmismatch

/-- Verifying the artifacts fails properly. -/
theorem verifyArtifacts_ends (hashCkb : String → Option String) (artifacts : List Artifact) :
    Answers (fun _ => True) (verifyArtifacts hashCkb artifacts) := by
  have hunverified : ProperError (apiError .deploymentInvalid 500
      "Published testnet code cells could not be verified") :=
    properError_api (by decide) (by decide)
  have hother : ProperError .other := trivial
  induction artifacts with
  | nil => exact Prog.ends_pure trivial
  | cons artifact artifacts ih =>
      rw [verifyArtifacts]
      refine (ends_await _).bind fun cell _ => ?_
      refine (ends_okOr hunverified cell).bind fun outputData _ => ?_
      refine (ends_okOr hother _).bind fun dataHash _ => ?_
      exact (ends_rejectIf hunverified).bind fun _ _ => ih

/-- `account`. -/
theorem account_ends (deployment : DeploymentManifest) :
    Answers (fun account => ∀ m ∈ account, OfDeployment deployment m) (account deployment) := by
  refine (ends_await _).bind fun value _ => ?_
  have hproper := parseAccount_proper value deployment
  exact Prog.ends_of hproper.value hproper.error

/-- An existing account is answered as it is. -/
theorem existingAccount_ends {deployment : DeploymentManifest} {existing : AccountManifest}
    (hexisting : OfDeployment deployment existing) (stateData : Bytes) :
    Answers (OfDeployment deployment) (existingAccount existing stateData) := by
  have hforeign : ProperError (apiError .accountMismatch 409
      "Existing account does not match this passkey") :=
    properError_api (by decide) (by decide)
  refine Prog.Ends.bind (P := fun _ : Option String => True)
    (ends_await (.getStateCell _)) fun live _ => ?_
  exact (ends_rejectIf hforeign).bind fun _ _ => Prog.ends_pure hexisting

/-- A created account is of the deployment. -/
theorem createAccount_ends (deployment : DeploymentManifest) (stateData : Bytes) :
    Answers (OfDeployment deployment) (createAccount deployment stateData) := by
  have hbalance : ProperError (apiError .insufficientBalance 409
      "Backend funder balance is insufficient for account creation") :=
    properError_api (by decide) (by decide)
  have htimeout : ProperError (apiError .confirmationTimeout 504
      "Account transaction was submitted but confirmation timed out") :=
    properError_api (by decide) (by decide)
  have hfailed : ProperError (apiError .bootstrapFailed 500 "Account creation failed") :=
    properError_api (by decide) (by decide)
  have hnone : ProperError (apiError .bootstrapFailed 500
      "Account creation returned no manifest") := properError_api (by decide) (by decide)
  refine Prog.Ends.bind (P := fun _ : Int => True) (ends_await .funderBalanceShannons)
    fun balance _ => ?_
  refine (ends_rejectIf hbalance).bind fun _ _ => ?_
  refine Prog.Ends.mapErr (E := ProperError) ?_ ?_
  -- the three branches of the `catch`
  · intro thrown hthrown
    cases thrown with
    | api error => exact hthrown
    | waitTransactionTimeout => exact htimeout
    | other => exact hfailed
  · refine (ends_await _).bind fun created _ => ?_
    have hproper := parseAccount_proper created deployment
    refine (Prog.ends_of hproper.value hproper.error).bind fun parsed hparsed => ?_
    have hok := ends_okOr hnone parsed
    exact Prog.ends_of (fun m hm => hparsed m (hok.1 m hm)) hok.2

/-- **A creation ends with a manifest of the deployment, or with an error that a client can
    read.** -/
theorem bootstrapOnce_ends (deployment : DeploymentManifest) (verification : Nat)
    (request : BootstrapRequest) :
    Answers (OfDeployment deployment) (bootstrapOnce deployment verification request) := by
  have hexport : ProperError (apiError .bootstrapFailed 500 "Account state export failed") :=
    properError_api (by decide) (by decide)
  refine (ends_await _).bind fun _ _ => ?_
  refine (Prog.Ends.mapErr (properError_rethrowApi hexport) (ends_await _)).bind
    fun stateData _ => ?_
  refine (account_ends deployment).bind fun existing hexisting => ?_
  cases existing with
  | some existing =>
      -- what is recorded was checked against the deployment when it was read
      exact existingAccount_ends (hexisting existing rfl) stateData
  | none => exact createAccount_ends deployment stateData

/-! ## The promises of the service -/

/-- A promise that ends so. -/
def PromiseAnswers {α : Type} (Q : α → Prop) : Promise α → Prop
  | .running code => Answers Q code
  | .released result => Proper Q result
  | .settled result => Proper Q result

/-- **What a client can read of the service**: all its promises end well or properly, and so do
    the calls it turned away. -/
structure Answering (deployment : DeploymentManifest) (s : Service) : Prop where
  same : s.deployment = deployment
  creations : ∀ {id : Nat} {promise : Promise AccountManifest},
    s.creations id = some promise → PromiseAnswers (OfDeployment deployment) promise
  verifications : ∀ {id : Nat} {promise : Promise Unit},
    s.verifications id = some promise → PromiseAnswers (fun _ => True) promise
  replies : ∀ c ∈ s.calls, ∀ e, c.reply = .rejected e → ProperError e

/-- The steps in which a dependency throws no `ApiError` but a proper one. -/
def ProperStep (world : World) (s : Service) (event : Event) (s' : Service) : Prop :=
  Step world s event s'
    ∧ (∀ id op k, event = .cellAnswered id → s.verifications id = some (.running (.call op k)) →
        ∃ r, ProperAnswer op r ∧ s'.verifications id = some (.running (k r)))
    ∧ ∀ id op k, event = .answered id → s.creations id = some (.running (.call op k)) →
        (∀ promise, op ≠ .verification promise) →
        ∃ r, ProperAnswer op r ∧ s'.creations id = some (.running (k r))

section Steps

variable {world : World} {s s' : Service} {event : Event}

/-- A step in which nothing is answered. -/
theorem ProperStep.of_silent (hstep : Step world s event s')
    (hchecked : ∀ id, event ≠ .cellAnswered id) (hanswered : ∀ id, event ≠ .answered id) :
    ProperStep world s event s' :=
  ⟨hstep, fun id _ _ h => absurd h (hchecked id), fun id _ _ h => absurd h (hanswered id)⟩

theorem ProperStep.cellAnswered {id : Nat} {op : Op} {k : op.Answer → Async Unit}
    (hcode : s.verifications id = some (.running (.call op k))) {r : op.Answer}
    (hr : ProperAnswer op r) :
    ProperStep world s (.cellAnswered id)
      { s with verifications := Function.update s.verifications id (some (.running (k r))) } := by
  refine ⟨.cellAnswered hcode r, ?_, fun _ _ _ h => by cases h⟩
  rintro _ op' k' ⟨⟩ hcode'
  cases hcode.symm.trans hcode'
  exact ⟨r, hr, Function.update_self ..⟩

theorem ProperStep.answered {id : Nat} {op : Op} {k : op.Answer → Async AccountManifest}
    (hcode : s.creations id = some (.running (.call op k))) {r : op.Answer}
    (hfailed : ∀ stateData, op = .bootstrap stateData → ∃ e, r = .error e)
    (hhonest : world.Honest op r) (hcurrent : s.Current op r) (hr : ProperAnswer op r) :
    ProperStep world s (.answered id)
      { s with creations := Function.update s.creations id (some (.running (k r))) } := by
  refine ⟨.answered hcode r hfailed hhonest hcurrent, fun _ _ _ h => (by cases h), ?_⟩
  rintro _ op' k' ⟨⟩ hcode' -
  cases hcode.symm.trans hcode'
  exact ⟨r, hr, Function.update_self ..⟩

end Steps

theorem answers_update {α : Type} {Q : α → Prop} {promises : Nat → Option (Promise α)}
    (h : ∀ {id promise}, promises id = some promise → PromiseAnswers Q promise) {id : Nat}
    {promise : Promise α} (hpromise : PromiseAnswers Q promise) {i : Nat} {other : Promise α}
    (hi : Function.update promises id (some promise) i = some other) : PromiseAnswers Q other := by
  by_cases hid : i = id
  · rw [hid, Function.update_self, Option.some.injEq] at hi
    exact hi ▸ hpromise
  · rw [Function.update_of_ne hid] at hi
    exact h hi

variable {deployment : DeploymentManifest} {s : Service}

/-- The shared check. -/
theorem Answering.verifyDeployment (h : Answering deployment s) (fresh : Nat) :
    Answering deployment (s.verifyDeployment fresh).1 := by
  unfold Service.verifyDeployment
  split
  · exact h
  · have hcode : PromiseAnswers (fun _ => True) (.running (verifyArtifacts s.hashCkb
        [s.deployment.accountLock, s.deployment.verifierP256])) := verifyArtifacts_ends _ _
    exact { h with verifications := answers_update h.verifications hcode }

/-- One more reply. -/
theorem Answering.reply (h : Answering deployment s) (requestValue : Json) {reply : Reply}
    (hreply : ∀ e, reply = .rejected e → ProperError e) :
    Answering deployment (s.reply requestValue reply) := by
  refine { h with replies := ?_ }
  intro c hc e he
  rcases List.mem_append.mp hc with hc | hc
  · exact h.replies c hc e he
  · rw [List.mem_singleton.mp hc] at he
    exact hreply e he

/-- A call of `bootstrap`: turned away, or given a promise. -/
theorem Answering.bootstrap (h : Answering deployment s) (requestValue : Json) (id fresh : Nat) :
    Answering deployment (s.bootstrap requestValue id fresh) := by
  have hinvalid : ProperError (apiError .invalidRequest 400 "Invalid account bootstrap request") :=
    properError_api (by decide) (by decide)
  have hbusy : ProperError (apiError .accountMismatch 409
      "A different account creation is already in progress") :=
    properError_api (by decide) (by decide)
  unfold Service.bootstrap
  split
  · refine h.reply requestValue ?_
    rintro e ⟨⟩
    exact hinvalid
  · rename_i request hrequest
    split
    · split
      · refine h.reply requestValue ?_
        rintro e ⟨⟩
        exact hbusy
      · refine h.reply requestValue ?_
        rintro e ⟨⟩
    · -- a creation of its own, behind the shared check
      have hverified := h.verifyDeployment fresh
      have hcode : PromiseAnswers (OfDeployment deployment)
          (.running (bootstrapOnce s.deployment (s.verifyDeployment fresh).2 request)) := by
        rw [h.same]
        exact bootstrapOnce_ends deployment _ request
      have hreplied : Answering deployment
          ((s.verifyDeployment fresh).1.reply requestValue (.promise id)) := by
        refine hverified.reply requestValue ?_
        rintro e ⟨⟩
      exact { hreplied with creations := answers_update h.creations hcode }

/-- **Every step keeps it.** -/
theorem Answering.step {world : World} {event : Event} {s' : Service} (h : Answering deployment s)
    (hstep : ProperStep world s event s') : Answering deployment s' := by
  obtain ⟨hstep, hchecked, hanswered⟩ := hstep
  cases hstep with
  | called request id fresh hid hfresh => exact h.bootstrap request id fresh
  | status fresh hfresh => exact h.verifyDeployment fresh
  | @cellAnswered id op k hcode r =>
      -- the code goes on as it would with a proper answer
      obtain ⟨r', hr', hnext⟩ := hchecked id op k rfl hcode
      have hk : k r = k r' := by
        have hself := (Function.update_self id (some (Promise.running (k r))) s.verifications).symm
        exact Promise.running.inj (Option.some.inj (hself.trans hnext))
      have hcall : Answers (fun _ => True) (.call op k) := h.verifications hcode
      have hrest : PromiseAnswers (fun _ => True) (.running (k r)) := hk ▸ hcall.2 r' hr'
      exact { h with verifications := answers_update h.verifications hrest }
  | @verified id result hcode =>
      have hret : Answers (fun _ => True) (.ret result) := h.verifications hcode
      have hunverified : ProperError (apiError .deploymentInvalid 500
          "Published testnet code cells could not be verified") :=
        properError_api (by decide) (by decide)
      have hsettled : PromiseAnswers (fun _ => True) (.settled (result.mapErr (rethrowApi
          (apiError .deploymentInvalid 500
            "Published testnet code cells could not be verified")))) := by
        refine ⟨fun _ _ => trivial, fun e he => ?_⟩
        cases result with
        | ok a => cases he
        | err e' =>
            cases he
            exact properError_rethrowApi hunverified e' (hret.2 e' rfl)
        | abort => cases he
      exact { h with verifications := answers_update h.verifications hsettled }
  | @answered id op k hcode r hfailed hhonest hcurrent =>
      have hcall : Answers (OfDeployment deployment) (.call op k) := h.creations hcode
      have hrest : PromiseAnswers (OfDeployment deployment) (.running (k r)) := by
        by_cases hop : ∃ promise, op = .verification promise
        · -- the shared check has settled, and what it settled as is proper
          obtain ⟨promise, rfl⟩ := hop
          have hproper : Proper (fun _ => True) (ofExcept r) := h.verifications hcurrent
          refine hcall.2 r fun e he => hproper.error e ?_
          rw [he]
          rfl
        · obtain ⟨r', hr', hnext⟩ := hanswered id op k rfl hcode fun promise heq =>
            hop ⟨promise, heq⟩
          have hself := (Function.update_self id (some (Promise.running (k r))) s.creations).symm
          have hk : k r = k r' := Promise.running.inj (Option.some.inj (hself.trans hnext))
          exact hk ▸ hcall.2 r' hr'
      exact { h with creations := answers_update h.creations hrest }
  | @created id stateData k hcode manifest hhonest =>
      have hcall : Answers (OfDeployment deployment) (.call (.bootstrap stateData) k) :=
        h.creations hcode
      have hrest : PromiseAnswers (OfDeployment deployment) (.running (k (.ok manifest))) :=
        hcall.2 (.ok manifest) fun e he => by cases he
      exact { h with creations := answers_update h.creations hrest }
  | @released id result hcode =>
      have hret : Answers (OfDeployment deployment) (.ret result) := h.creations hcode
      have hresult : PromiseAnswers (OfDeployment deployment) (.released result) :=
        ⟨hret.1, hret.2⟩
      exact { h with creations := answers_update h.creations hresult }
  | @settled id result hcode =>
      have hreleased : PromiseAnswers (OfDeployment deployment) (.released result) :=
        h.creations hcode
      have hresult : PromiseAnswers (OfDeployment deployment) (.settled result) := hreleased
      exact { h with creations := answers_update h.creations hresult }

/-- A new service has answered nothing. -/
theorem answering_createDemoService {hashCkb : String → Option String} {value manifest : Json}
    (h : createDemoService hashCkb value manifest = .ok s) : Answering s.deployment s := by
  obtain ⟨parsed, -, h⟩ := bind_eq_ok.mp h
  rw [pure_eq, Outcome.ok.injEq] at h
  subst h
  exact ⟨rfl, fun hi => (by cases hi), fun hi => (by cases hi),
    fun c hc => absurd hc List.not_mem_nil⟩

/-- What a call has come to is proper. -/
theorem Answering.settles (h : Answering deployment s) {c : Call} (hc : c ∈ s.calls)
    {result : Outcome Thrown AccountManifest} (hsettles : s.Settles c result) :
    Proper (OfDeployment deployment) result := by
  unfold Service.Settles at hsettles
  split at hsettles
  · rename_i e hreply
    subst hsettles
    refine ⟨fun m hm => (by cases hm), ?_⟩
    rintro e' ⟨⟩
    exact h.replies c hc e hreply
  · exact h.creations hsettles

/-! ## Runs -/

/-- A manifest that is received was answered. -/
theorem received_eq_ok {result : Outcome Thrown AccountManifest} {m : AccountManifest}
    (h : received result = .ok m) : result = .ok m := by
  cases result with
  | ok value =>
      cases h
      rfl
  | err e => cases e <;> cases h
  | abort => cases h

/-- A call that is fulfilled got a manifest that serves the key of its request. -/
theorem serves_of_settles {world : World} (hinv : Inv world s) {c : Call} (hc : c ∈ s.calls)
    {r : BootstrapRequest} (hr : bootstrapRequestSchema c.request = some r) {m : AccountManifest}
    (hsettles : s.Settles c (.ok m)) : world.Serves r.publicKey m := by
  unfold Service.Settles at hsettles
  split at hsettles
  · cases hsettles
  · rename_i id hreply
    obtain ⟨request, promise, hrequest, hpromise, hyields⟩ := hinv.served c hc id hreply
    obtain rfl := Option.some.inj (hpromise.symm.trans hsettles)
    obtain rfl := Option.some.inj (hrequest.symm.trans hr)
    exact hyields m rfl

/-- **What the client of the service is told.**  For any callers, any order of their steps and any
    failures of the dependencies: when a call of `bootstrap` has come to its end and the server
    answers with it, the client ends as the call did.  An account it is given passes its schema, is
    locked by the code of the deployment the service was started with, and its state cell holds the
    state of the key that was asked for. -/
theorem client_of_run (world : World) (hashCkb : String → Option String) (value manifest : Json)
    (s₀ s : Service) (history : List (Service × Event))
    (hcreate : createDemoService hashCkb value manifest = .ok s₀)
    (hrun : Run (ProperStep world) s₀ history s) (platform : Platform) (cut : Bytes → List Bytes)
    (hcut : ∀ bytes, (cut bytes).flatten = bytes)
    (hpaths : ∀ path ∈ apiPaths, platform.pathname path = some path) (service : DemoService)
    (c : Call) (hc : c ∈ s.calls) (r : BootstrapRequest) (hr : r.Valid)
    (hrequest : c.request = r.toJson) (result : Outcome Thrown AccountManifest)
    (hsettles : s.Settles c result) (hservice : service.bootstrap r = result)
    (hbody : platform.parseBody (textEncode (platform.stringify r.toJson)) = some r.toJson)
    (hfits : (textEncode (platform.stringify r.toJson)).length ≤ bodyLimit)
    (hcarries : Carries platform (answerJson AccountManifest.toJson result)) :
    apiBootstrap platform (fetchLocal platform service cut) r.toJson = received result
      ∧ ∀ m, apiBootstrap platform (fetchLocal platform service cut) r.toJson = .ok m →
          OfDeployment s₀.deployment m ∧ world.Serves r.publicKey m := by
  have hanswering : Answering s₀.deployment s :=
    hrun.invariant (answering_createDemoService hcreate) fun _ _ _ h hstep => h.step hstep
  have hinv : Inv world s :=
    hrun.invariant (inv_createDemoService hcreate) fun _ _ _ h hstep => h.step hstep.1
  -- what a settled call answers satisfies the schema the client checks
  have hproper := hanswering.settles hc hsettles
  subst hservice
  have hvalid : Proper AccountManifest.Valid (service.bootstrap r) :=
    ⟨fun m hm => (hproper.value m hm).valid, hproper.error⟩
  have hclient := apiBootstrap_answer hpaths service hcut hr hbody hfits hvalid hcarries
  refine ⟨hclient, fun m hm => ?_⟩
  have hok : service.bootstrap r = .ok m := received_eq_ok (hclient.symm.trans hm)
  have hparsed : bootstrapRequestSchema c.request = some r := by
    rw [hrequest]
    exact bootstrapRequestSchema_toJson hr
  exact ⟨hproper.value m hok, serves_of_settles hinv hc hparsed (hok ▸ hsettles)⟩

/-- The steps in which no dependency fails are proper. -/
theorem serving_properStep (world : World) : Serving world (ProperStep world) where
  silent hstep hchecked hanswered := .of_silent hstep hchecked hanswered
  cellAnswered hcode value := .cellAnswered hcode fun e he => by cases he
  answered hcode value hop hhonest hcurrent :=
    .answered hcode (fun stateData heq => absurd heq (hop stateData)) hhonest hcurrent
      fun e he => by cases he

/-- **A caller whose account is created**: the client is given it. -/
theorem sampleService_told :
    ∃ history s, Run (ProperStep CkbDemoService.sampleWorld) CkbDemoService.sampleService history s
      ∧ (∃ e ∈ history, e.2.isCreated = true)
      ∧ s.Settles ⟨CkbDemoApi.sampleRequest.toJson, .promise 0⟩ (.ok sampleManifest)
      ∧ apiBootstrap CkbDemoApi.samplePlatform
          (fetchLocal CkbDemoApi.samplePlatform CkbDemoApi.sampleService fun bytes => [bytes])
          CkbDemoApi.sampleRequest.toJson = .ok sampleManifest
      ∧ OfDeployment CkbDemoService.sampleService.deployment sampleManifest
      ∧ CkbDemoService.sampleWorld.Serves CkbDemoApi.sampleRequest.publicKey sampleManifest := by
  obtain ⟨history, s, hrun, hcreated, hcalls, hsettled, -⟩ :=
    sample_creates (serving_properStep CkbDemoService.sampleWorld)
  have hcall : ⟨CkbDemoApi.sampleRequest.toJson, .promise 0⟩ ∈ s.calls := by
    rw [hcalls]
    exact List.mem_cons_self
  have hvalid : CkbDemoApi.sampleRequest.Valid := by
    refine ⟨?_, ?_⟩ <;> decide +kernel
  have hbody : CkbDemoApi.sampleValues = CkbDemoApi.sampleValues.take 3
      ++ CkbDemoApi.sampleRequest.toJson :: CkbDemoApi.sampleValues.drop 4 := rfl
  have hanswer : CkbDemoApi.sampleValues = CkbDemoApi.sampleValues.take 2
      ++ answerJson AccountManifest.toJson (.ok sampleManifest)
        :: CkbDemoApi.sampleValues.drop 3 := rfl
  obtain ⟨htold, hgiven⟩ := client_of_run CkbDemoService.sampleWorld some
    CkbDemoService.sampleDeployment .null _ s history createDemoService_sample hrun
    CkbDemoApi.samplePlatform (fun bytes => [bytes]) (fun _ => List.flatten_singleton)
    (fun path hpath => if_pos hpath) CkbDemoApi.sampleService
    ⟨CkbDemoApi.sampleRequest.toJson, .promise 0⟩ hcall CkbDemoApi.sampleRequest hvalid rfl
    (.ok sampleManifest) hsettled rfl
    (CkbDemoApi.samplePlatform_parseBody hbody (by decide +kernel)) (by decide +kernel)
    (CkbDemoApi.samplePlatform_carries hanswer (by decide +kernel))
  exact ⟨history, s, hrun, hcreated, hsettled, htold, hgiven sampleManifest htold⟩

end CkbDemoClient
