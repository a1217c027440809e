import CkbAccount.WizardHistoryProofs
import CkbAccount.SpendRunProofs

/-! # Every order of clicks and answers

    What holds in every page that can be reached, whatever is pressed and in whatever order the
    promises settle, and one order in which a spend is committed.

    * `spend_completes`: the way through;
    * `page_fails_closed`: which component is on the screen;
    * `spend_sent_once`: what is sent, and what a receipt says;
    * `bootstrap_not_repeated`: when an account is asked for again. -/

namespace CkbWizard

open RustOutcome Outcome StepRun CkbBrowserCodec CkbSchemas CkbSpend

variable {env : Setting} {storage : Option String}

/-! ## The way through -/

/-- The only promise of a page settles. -/
theorem step_only {page page' : Page} {task : Task} (htasks : page.tasks = [task])
    (answer : task.Answer) (h : settle env { page with tasks := [] } task answer = page') :
    Step env page (.settled task answer) page' := by
  rw [← h]
  exact @Step.settle env page [] [] task htasks answer

/-- What `prepareSpend` returns has a hash and two outputs. -/
theorem prepareSpend_shape {ccc : Package} {datetime : String → Bool} {client : SpendClient}
    {verified : VerifiedAccount} {funderAddress : String} {passkey : Json} {p : PreparedSpend}
    (h : prepareSpend ccc datetime client verified funderAddress passkey = .ok p) :
    (∃ rawHash, ccc.transactionHash p.transaction = some rawHash) ∧ submittable p.transaction = true
      ∧ ∃ change : Nat, p.transaction.outputs[1]?.map (·.capacity) = some (change : Int) := by
  rw [prepareSpend] at h
  obtain ⟨_, -, h⟩ := bind_eq_ok.mp h
  obtain ⟨_, -, h⟩ := bind_eq_ok.mp h
  obtain ⟨-, h⟩ := rejectIf_bind_eq_ok.mp h
  obtain ⟨⟨state, asset⟩, -, h⟩ := bind_eq_ok.mp h
  obtain ⟨_, -, h⟩ := bind_eq_ok.mp h
  obtain ⟨-, h⟩ := rejectIf_bind_eq_ok.mp h
  obtain ⟨_, -, h⟩ := bind_eq_ok.mp h
  obtain ⟨-, h⟩ := rejectIf_bind_eq_ok.mp h
  obtain ⟨_, -, h⟩ := bind_eq_ok.mp h
  obtain ⟨fee, -, h⟩ := bind_eq_ok.mp h
  obtain ⟨hchange, h⟩ := rejectIf_bind_eq_ok.mp h
  obtain ⟨-, h⟩ := unit_bind_eq_ok.mp h
  obtain ⟨-, h⟩ := unit_bind_eq_ok.mp h
  obtain ⟨_, hhash, h⟩ := bind_eq_ok.mp h
  obtain ⟨_, -, h⟩ := bind_eq_ok.mp h
  obtain ⟨_, -, h⟩ := bind_eq_ok.mp h
  obtain ⟨_, -, h⟩ := bind_eq_ok.mp h
  obtain ⟨_, -, h⟩ := bind_eq_ok.mp h
  obtain ⟨_, -, h⟩ := bind_eq_ok.mp h
  cases h
  obtain ⟨rawHash, hrawHash, -⟩ := Option.bind_eq_some_iff.mp (okOr_eq_ok.mp hhash)
  refine ⟨⟨rawHash, hrawHash⟩, rfl,
    (asset.cellOutput.capacity - transferCapacity - fee).toNat, congrArg some ?_⟩
  -- the change was checked against the least capacity of its cell
  have hpos : 0 ≤ asset.cellOutput.capacity - transferCapacity - fee := by omega
  exact (Int.toNat_of_nonneg hpos).symm

section Way

variable {status : DemoStatus} {account : AccountManifest} {passkey : PasskeyRecord}
  {verified : VerifiedAccount} {prepared : PreparedSpend} {t : Transaction} {txHash : String}

/-- The page with `SpendStep` on it. -/
abbrev Page.spend (status : DemoStatus) (account : AccountManifest) (passkey : PasskeyRecord)
    (verified : VerifiedAccount) (storage : Option String) (state : SpendState)
    (actionLock : Bool) (tasks : List Task) (sent : List Transaction) : Page :=
  .before (.readyToSpend status account passkey)
    (.spendStep verified status.funderAddress passkey state actionLock 0) 1 tasks storage sent

/-- The load finds the account and shows the spend. -/
theorem step_loaded (h : Checked env status (some account))
    (hverified : verifiedAccount env status account = .ok verified) :
    Step env (.before .loading .card 0 [.load (some passkey)] storage [])
      (.settled (.load (some passkey)) (.ok (status, some account)))
      (.spend status account passkey verified storage .preparing false
        [.preparation 1 0 verified status.funderAddress passkey] []) := by
  refine step_only rfl _ ?_
  have hready : reconcile env.ccc env.browser status (some account) (some passkey)
      = .readyToSpend status account passkey := by
    rw [reconcile.eq_def, if_neg (by simp [h.deploymentVerified]), if_neg (not_not.mpr h.reported),
      if_neg (not_not.mpr h.same), h.capable]
  simp only [settle, Page.reported, hready, Page.setState, render, withReceipt, hverified]
  rfl

/-- The preparation ends with the spend under review. -/
theorem step_prepared {client : SpendClient}
    (hprepare : prepareSpend env.ccc env.datetime client verified status.funderAddress
      passkey.toJson = .ok prepared) :
    Step env (.spend status account passkey verified storage .preparing false
        [.preparation 1 0 verified status.funderAddress passkey] [])
      (.settled (.preparation 1 0 verified status.funderAddress passkey) client)
      (.spend status account passkey verified storage (.ready prepared none) false [] []) := by
  refine step_only rfl _ ?_
  simp only [settle, Page.prepared, hprepare, attempt, if_true, Page.setSpend]

/-- The button asks for an assertion. -/
theorem step_authorize {rawHash : String}
    (hhash : env.ccc.transactionHash prepared.transaction = some rawHash) :
    Step env (.spend status account passkey verified storage (.ready prepared none) false [] [])
      (.clicked .authorize)
      (.spend status account passkey verified storage (.authorizing prepared) true
        [.assertion 1 prepared rawHash (hexFromBytes prepared.authorizationDigest) passkey
          (.readyToSpend status account passkey)] []) := by
  have hclick := @Step.click env
    (.spend status account passkey verified storage (.ready prepared none) false [] []) .authorize
  simp only [click, authorize, hhash] at hclick
  exact hclick

/-- The assertion finalizes the spend, which is sent. -/
theorem step_asserted {rawHash : String} {assertion : AssertionMaterial}
    (hhash : env.ccc.transactionHash prepared.transaction = some rawHash)
    (hfinalize : finalizeSpend env.ccc env.datetime env.parseClientData prepared passkey.toJson
      assertion = .ok t) (ht : submittable t = true) :
    Step env (.spend status account passkey verified storage (.authorizing prepared) true
        [.assertion 1 prepared rawHash (hexFromBytes prepared.authorizationDigest) passkey
          (.readyToSpend status account passkey)] [])
      (.settled (.assertion 1 prepared rawHash (hexFromBytes prepared.authorizationDigest) passkey
        (.readyToSpend status account passkey)) (.ok assertion))
      (.spend status account passkey verified storage (.submitting prepared) true
        [.submission 1 prepared t (.readyToSpend status account passkey)] [t]) := by
  refine step_only rfl _ ?_
  simp only [settle, asserted, hhash, ne_eq, not_true_eq_false, or_self, if_false, hfinalize,
    attempt, Page.setSpend, if_true, ht]
  rfl

/-- The page with a receipt on it. -/
def Page.receipted (status : DemoStatus) (account : AccountManifest) (passkey : PasskeyRecord)
    (storage : Option String) (r : TransactionReceipt) (reconciledCommit : Option String)
    (tasks : List Task) (t : Transaction) (changes : List (String × Cell)) : Page where
  state := .readyToSpend status account passkey
  internalReceipt := some r
  postCommitError := none
  reconciledCommit := reconciledCommit
  storage := storage
  view := .receipt r false none false
  mount := 2
  tasks := tasks
  sent := [t]
  changes := changes

/-- The answer of the node brings the receipt. -/
theorem step_submitted (ht : submittable t = true) (hreadable : Readable env (receiptOf t txHash)) :
    Step env (.spend status account passkey verified storage (.submitting prepared) true
        [.submission 1 prepared t (.readyToSpend status account passkey)] [t])
      (.settled (.submission 1 prepared t (.readyToSpend status account passkey)) (.ok txHash))
      (.receipted status account passkey storage (receiptOf t txHash) none
        [.confirmation 1 prepared (receiptOf t txHash) (.readyToSpend status account passkey)] t
        []) := by
  refine step_only rfl _ ?_
  have hschema : receiptSchema env.url (receiptOf t txHash) = some (receiptOf t txHash) := hreadable
  have hsubmit : submitSpend env.url t (.ok txHash) = .ok (receiptOf t txHash) := by
    rw [submitSpend, ht]
    exact congrArg (okOr JsError.library) hschema
  have hstatus : (receiptOf t txHash).status ≠ .committed := by
    intro h
    cases h
  simp only [settle, submitted, hsubmit, attempt, Page.setSpend, if_true, handleSpendReceipt,
    hschema, if_pos (Or.inl hstatus), render, withReceipt, if_neg hstatus]
  rfl

/-- The confirmation commits it. -/
theorem step_confirmed {r : TransactionReceipt} {cell : Cell} (hreadable : Readable env r)
    (hcell : IsChange r cell) :
    Step env (.receipted status account passkey storage r none
        [.confirmation 1 prepared r (.readyToSpend status account passkey)] t [])
      (.settled (.confirmation 1 prepared r (.readyToSpend status account passkey))
        (.response, .ok (some cell)))
      (.receipted status account passkey storage { r with status := .committed } (some r.txHash)
        [.recheck passkey] t [(r.txHash, cell)]) := by
  refine step_only rfl _ ?_
  have hschema : receiptSchema env.url r = some r := hreadable
  have hcommitted : receiptSchema env.url { r with status := .committed }
      = some { r with status := .committed } :=
    hreadable.sameSpend ((SameSpend.refl r).withStatus .committed)
  have hconfirm : confirmSpend env.url r .response (.ok (some cell))
      = .ok { r with status := .committed } := by
    rw [confirmSpend, hschema, okOr_some, ok_bind, ok_bind]
    refine rejectIf_bind_eq_ok.mpr ⟨?_, by rw [hcommitted]; rfl⟩
    simpa [hcell.type, hcell.outputData] using hcell.capacity
  simp only [settle, confirmed, Page.receipted, Page.observe, hconfirm, attempt,
    handleSpendReceipt, hcommitted, render, withReceipt]
  rfl

/-- The events of a spend without detours. -/
def wayThrough (status : DemoStatus) (account : AccountManifest) (passkey : PasskeyRecord)
    (verified : VerifiedAccount) (client : SpendClient) (prepared : PreparedSpend)
    (rawHash : String) (assertion : AssertionMaterial) (t : Transaction) (txHash : String)
    (cell : Cell) : List Event :=
  let seen := WizardState.readyToSpend status account passkey
  [.settled (.load (some passkey)) (.ok (status, some account)),
    .settled (.preparation 1 0 verified status.funderAddress passkey) client,
    .clicked .authorize,
    .settled (.assertion 1 prepared rawHash (hexFromBytes prepared.authorizationDigest) passkey
      seen) (.ok assertion),
    .settled (.submission 1 prepared t seen) (.ok txHash),
    .settled (.confirmation 1 prepared (receiptOf t txHash) seen) (.response, .ok (some cell))]

/-- The receipt of a finalized spend passes its schema under any hash with a link. -/
theorem readable_receiptOf {ccc : Package} {client : SpendClient} {funderAddress : String}
    {passkeyValue : Json} {assertion : AssertionMaterial}
    (hprepare : prepareSpend ccc env.datetime client verified funderAddress passkeyValue
      = .ok prepared)
    (hfinalize : finalizeSpend ccc env.datetime env.parseClientData prepared passkeyValue assertion
      = .ok t)
    (htxHash : isHash32 txHash = true) (hurl : env.url (explorerUrl ++ txHash) = true) :
    submittable t = true ∧ Readable env (receiptOf t txHash) := by
  obtain ⟨-, hshape, change, hchange⟩ := prepareSpend_shape hprepare
  obtain ⟨_, _, _, hfinal⟩ := finalizeSpend_eq_ok hfinalize
  have houtputs : t.outputs = prepared.transaction.outputs
      ∧ t.outputsData = prepared.transaction.outputsData := by
    rw [hfinal.transaction]
    exact ⟨rfl, rfl⟩
  rw [submittable, ← houtputs.1, ← houtputs.2] at hshape
  refine ⟨hshape, if_pos ?_⟩
  rw [receiptOf, houtputs.1, hchange, Option.getD_some]
  simp only [htxHash, hurl, Bool.true_and]
  exact isDecimal_toString change

/-- The way to the transaction that is sent. -/
theorem run_sent {client : SpendClient} {assertion : AssertionMaterial} {rawHash : String}
    (hstored : (loadPasskeyRecord env storage).1 = some passkey)
    (hchecked : Checked env status (some account))
    (hverified : verifiedAccount env status account = .ok verified)
    (hprepare : prepareSpend env.ccc env.datetime client verified status.funderAddress
      passkey.toJson = .ok prepared)
    (hhash : env.ccc.transactionHash prepared.transaction = some rawHash)
    (hfinalize : finalizeSpend env.ccc env.datetime env.parseClientData prepared passkey.toJson
      assertion = .ok t) (ht : submittable t = true) (txHash : String) (cell : Cell) :
    ∃ history, Run (Step env) (Page.start env storage) history
        (.spend status account passkey verified (loadPasskeyRecord env storage).2
          (.submitting prepared) true
          [.submission 1 prepared t (.readyToSpend status account passkey)] [t])
      ∧ history.map Prod.snd = (wayThrough status account passkey verified client prepared rawHash
        assertion t txHash cell).take 4 := by
  have hloaded : Step env (Page.start env storage)
      (.settled (.load (some passkey)) (.ok (status, some account)))
      (.spend status account passkey verified (loadPasskeyRecord env storage).2 .preparing false
        [.preparation 1 0 verified status.funderAddress passkey] []) := by
    rw [Page.start, hstored]
    exact step_loaded hchecked hverified
  have hreviewed := (Run.nil.snoc hloaded).snoc (step_prepared hprepare)
  exact ⟨_, (hreviewed.snoc (step_authorize hhash)).snoc (step_asserted hhash hfinalize ht), rfl⟩

end Way

/-! ## The page of the test fixture -/

@[irreducible] def fixtureStored : String :=
  "\x7b\"schemaVersion\":1,\"credentialId\":\"AQIDBA\",\"publicKey\":\"" ++ fixtureRecord.publicKey
    ++ "\",\"keyId\":\"" ++ fixtureRecord.keyId ++ "\",\"rpId\":\"localhost\",\"origin\":\""
    ++ clientOrigin ++ "\",\"createdAt\":\"2026-08-24T00:00:00.000Z\"\x7d"

/-- Chromium on localhost, with the package, the JSON and the link of the test fixture. -/
def fixtureSetting : Setting where
  ccc := fixturePackage fixtureHash
  datetime := fixtureDatetime
  url text := text = explorerUrl ++ hexFromBytes fixtureTxHash.val
  browser := { isSecureContext := true, hasPublicKeyCredential := true, exportsPublicKey := true }
  parseText text := if text = fixtureStored then some fixturePasskey else none
  stringify _ := fixtureStored
  parseClientData := fixtureParseJson

/-- The status of the demo, with or without the account. -/
def fixtureStatus (account : Option AccountManifest) : DemoStatus where
  deploymentVerified := true
  deployment := fixtureDeployment.manifest
  funderAddress := fixtureFunderAddress
  funderBalanceShannons := "100000000000"
  account := account

/-- The deployment is valid. -/
theorem fixture_deployment :
    validateDeployment fixtureDeployment.manifest.toJson = .ok fixtureDeployment := by
  have hvalid : fixtureDeployment.manifest.Valid :=
    ⟨⟨isHash32_hexFromBytes _, isHash32_hexFromBytes _, Nat.zero_le _, by decide +kernel⟩,
      ⟨isHash32_hexFromBytes _, isHash32_hexFromBytes _, Nat.zero_le _, by decide +kernel⟩⟩
  rw [validateDeployment, deploymentManifestSchema_toJson hvalid, okOr_some, ok_bind]
  rfl

/-- The account is valid. -/
theorem fixture_verifiedAccount (account : Option AccountManifest) :
    verifiedAccount fixtureSetting (fixtureStatus account) fixtureAccount.manifest
      = .ok fixtureAccount :=
  bind_eq_ok.mpr ⟨fixtureDeployment, fixture_deployment, fixture_account⟩

/-- The page agrees with the status. -/
theorem fixture_checked {account : Option AccountManifest}
    (h : account = none ∨ account = some fixtureAccount.manifest) :
    Checked fixtureSetting (fixtureStatus account) account := by
  refine ⟨rfl, ?_, rfl, rfl⟩
  refine bind_eq_ok.mpr ⟨fixtureDeployment, fixture_deployment, ?_⟩
  rcases h with rfl | rfl
  · rfl
  · exact bind_eq_ok.mpr ⟨fixtureAccount, fixture_account,
      bind_eq_ok.mpr ⟨fixtureAccount, fixture_account, rfl⟩⟩

/-- The passkey is read back from storage. -/
theorem fixture_stored :
    (loadPasskeyRecord fixtureSetting (some fixtureStored)).1 = some fixtureRecord := by
  have hparse : fixtureSetting.parseText fixtureStored = some fixturePasskey := if_pos rfl
  have hrecord : passkeyRecordSchema fixtureSetting.datetime fixturePasskey
      = some fixtureRecord := fixture_record
  simp only [loadPasskeyRecord, hparse, Option.bind_some, hrecord]

theorem fixture_url :
    fixtureSetting.url (explorerUrl ++ hexFromBytes fixtureTxHash.val) = true := by
  simp only [fixtureSetting, decide_true]

theorem fixtureRecord_toJson : fixtureRecord.toJson = fixturePasskey := rfl

/-- The change cell of the spend, live. -/
def fixtureChange : Cell where
  outPoint := { txHash := hexFromBytes fixtureTxHash.val, index := 1 }
  cellOutput := { capacity := 9999996253, lock := fixtureAccount.accountLock, type := none }
  outputData := "0x"

/-- The change cell is the one of the receipt. -/
theorem fixture_change :
    IsChange (receiptOf fixtureFinalized (hexFromBytes fixtureTxHash.val)) fixtureChange :=
  ⟨rfl, rfl, rfl⟩

/-- The page of the fixture sends its spend. -/
theorem fixture_run :
    ∃ history page, Run (Step fixtureSetting) (Page.start fixtureSetting (some fixtureStored)) history
        page
      ∧ page.sent = [fixtureFinalized] ∧ ∃ state lock, page.view
        = .spendStep fixtureAccount fixtureFunderAddress fixtureRecord state lock 0 := by
  obtain ⟨history, hrun, -⟩ := @run_sent fixtureSetting (some fixtureStored) _ _ _ _ _ _ _ _ _
    fixture_stored (fixture_checked (.inr rfl)) (fixture_verifiedAccount _)
    (by rw [fixtureRecord_toJson]; exact fixture_prepared) rfl
    (by rw [fixtureRecord_toJson]; exact fixture_finalized) rfl "" fixtureChange
  exact ⟨history, _, hrun, rfl, _, _, rfl⟩

/-- And it commits it. -/
theorem fixture_committed :
    ∃ history page, Run (Step fixtureSetting) (Page.start fixtureSetting (some fixtureStored)) history
        page
      ∧ page.sent = [fixtureFinalized]
      ∧ page.internalReceipt = some { receiptOf fixtureFinalized (hexFromBytes fixtureTxHash.val)
          with status := .committed } := by
  have hprepare : prepareSpend fixtureSetting.ccc fixtureSetting.datetime fixtureClient fixtureAccount
      fixtureFunderAddress fixtureRecord.toJson = .ok fixturePrepared := by
    rw [fixtureRecord_toJson]
    exact fixture_prepared
  have hfinalize : finalizeSpend fixtureSetting.ccc fixtureSetting.datetime
      fixtureSetting.parseClientData fixturePrepared fixtureRecord.toJson fixtureAssertion
        = .ok fixtureFinalized := by
    rw [fixtureRecord_toJson]
    exact fixture_finalized
  obtain ⟨ht, hreadable⟩ := readable_receiptOf hprepare hfinalize
    (isHash32_hexFromBytes fixtureTxHash) fixture_url
  obtain ⟨history, hrun, -⟩ := @run_sent fixtureSetting (some fixtureStored) _ _ _ _ _ _ _ _ _
    fixture_stored (fixture_checked (.inr rfl)) (fixture_verifiedAccount _) hprepare rfl hfinalize ht
    "" fixtureChange
  exact ⟨_, _, (hrun.snoc (step_submitted ht hreadable)).snoc
    (step_confirmed hreadable fixture_change), rfl, rfl⟩

/-! ## What is reached -/

/-- **The way through is open.**  With a stored passkey and a server that reports a checked
    account, one press of the button leads to a committed receipt, if the cells are there, the
    passkey answers, the node takes the transaction and the change goes live. -/
theorem spend_completes (env : Setting) (storage : Option String) (passkey : PasskeyRecord)
    (hstored : (loadPasskeyRecord env storage).1 = some passkey)
    (status : DemoStatus) (account : AccountManifest) (hchecked : Checked env status (some account))
    (verified : VerifiedAccount) (hverified : verifiedAccount env status account = .ok verified)
    (client : SpendClient) (prepared : PreparedSpend)
    (hprepare : prepareSpend env.ccc env.datetime client verified status.funderAddress
      passkey.toJson = .ok prepared)
    (assertion : AssertionMaterial) (t : Transaction)
    (hfinalize : finalizeSpend env.ccc env.datetime env.parseClientData prepared passkey.toJson
      assertion = .ok t)
    (txHash : String) (htxHash : isHash32 txHash = true)
    (hurl : env.url (explorerUrl ++ txHash) = true)
    (cell : Cell) (hcell : IsChange (receiptOf t txHash) cell) :
    ∃ rawHash history page, Run (Step env) (Page.start env storage) history page
      ∧ history.map Prod.snd = wayThrough status account passkey verified client prepared rawHash
        assertion t txHash cell
      ∧ page.sent = [t]
      ∧ page.internalReceipt = some { receiptOf t txHash with status := .committed }
      ∧ page.view = .receipt { receiptOf t txHash with status := .committed } false none false
      ∧ ∃ status', withReceipt env.url page.state page.internalReceipt
        = .committed status' { receiptOf t txHash with status := .committed } := by
  obtain ⟨⟨rawHash, hhash⟩, -, -⟩ := prepareSpend_shape hprepare
  obtain ⟨ht, hreadable⟩ := readable_receiptOf hprepare hfinalize htxHash hurl
  have hcommitted : receiptSchema env.url { receiptOf t txHash with status := .committed }
      = some { receiptOf t txHash with status := .committed } :=
    hreadable.sameSpend ((SameSpend.refl _).withStatus .committed)
  -- four events bring the page to the broadcast
  obtain ⟨history, hsent, hevents⟩ := run_sent hstored hchecked hverified hprepare hhash hfinalize
    ht txHash cell
  -- the answer of the node and the confirmation complete it
  have hcommit := (hsent.snoc (step_submitted ht hreadable)).snoc (step_confirmed hreadable hcell)
  refine ⟨rawHash, _, _, hcommit, ?_, rfl, rfl, rfl, status, ?_⟩
  · rw [List.map_append, List.map_append, hevents]
    rfl
  · simp only [Page.receipted, withReceipt, hcommitted, if_true]

/-- **The spend of the fixture is committed.** -/
theorem fixture_completes :
    ∃ rawHash history page,
      Run (Step fixtureSetting) (Page.start fixtureSetting (some fixtureStored)) history page
      ∧ history.map Prod.snd = wayThrough (fixtureStatus (some fixtureAccount.manifest))
        fixtureAccount.manifest fixtureRecord fixtureAccount fixtureClient fixturePrepared rawHash
        fixtureAssertion fixtureFinalized (hexFromBytes fixtureTxHash.val) fixtureChange
      ∧ page.sent = [fixtureFinalized]
      ∧ page.view = .receipt { receiptOf fixtureFinalized (hexFromBytes fixtureTxHash.val) with
          status := .committed } false none false := by
  obtain ⟨rawHash, history, page, hrun, hevents, hsent, -, hview, -⟩ := spend_completes fixtureSetting
    (some fixtureStored) fixtureRecord fixture_stored
    (fixtureStatus (some fixtureAccount.manifest)) fixtureAccount.manifest
    (fixture_checked (.inr rfl)) fixtureAccount (fixture_verifiedAccount _) fixtureClient
    fixturePrepared (by rw [fixtureRecord_toJson]; exact fixture_prepared) fixtureAssertion
    fixtureFinalized (by rw [fixtureRecord_toJson]; exact fixture_finalized)
    (hexFromBytes fixtureTxHash.val) (isHash32_hexFromBytes fixtureTxHash) fixture_url
    fixtureChange fixture_change
  exact ⟨rawHash, history, page, hrun, hevents, hsent, hview⟩

/-! ## What is on the screen -/

/-- **The pages fail closed.**  Whatever is pressed and in whatever order the promises settle, the
    account of a page is never refused while it is rendered, and a component is on the screen only
    where the server has reported what it needs: a verified deployment, no account before one is
    created, and to spend an account that both endpoints report and the deployment vouches for,
    with the passkey this browser keeps.  A receipt on the screen is the one the page holds, under
    the link of its transaction. -/
theorem page_fails_closed (env : Setting) (storage : Option String)
    {history : List (Page × Event)} {page : Page}
    (hrun : Run (Step env) (Page.start env storage) history page) :
    page.view ≠ .crashed
      ∧ (∀ state lock, page.view = .passkeyStep state lock →
        ∃ status, page.state = .needsPasskey status ∧ Checked env status none)
      ∧ (∀ status passkey state lock, page.view = .bootstrapStep status passkey state lock →
        page.state = .needsAccount status passkey ∧ Checked env status none
          ∧ Held env page.storage passkey)
      ∧ (∀ verified funderAddress passkey state lock effect,
        page.view = .spendStep verified funderAddress passkey state lock effect →
        ∃ status account, page.state = .readyToSpend status account passkey
          ∧ Checked env status (some account) ∧ verifiedAccount env status account = .ok verified
          ∧ funderAddress = status.funderAddress ∧ Held env page.storage passkey
          ∧ page.internalReceipt = none)
      ∧ (∀ receipt checking error lock, page.view = .receipt receipt checking error lock →
        page.internalReceipt = some receipt ∧ Readable env receipt
          ∧ receipt.explorerUrl = explorerUrl ++ receipt.txHash) := by
  refine ⟨?_, ?_, ?_, ?_, ?_⟩
  · -- no phase shows a crashed page, late receipts included
    intro hview
    cases phase_of_run hrun with
    | later h =>
        cases h with
        | spending _ _ _ _ => cases hview
        | receipted _ h => exact (h.view_late hview rfl).elim
    | _ => cases hview
  · intro state lock hview
    cases phase_of_run hrun with
    | passkey h => exact ⟨_, rfl, h⟩
    | registering h => exact ⟨_, rfl, h⟩
    | later h =>
        cases h with
        | spending _ _ _ _ => cases hview
        | receipted _ h => exact (h.view_late hview rfl).elim
    | _ => cases hview
  · intro status passkey state lock hview
    cases phase_of_run hrun with
    | account h hpasskey =>
        cases hview
        exact ⟨rfl, h, hpasskey⟩
    | bootstrapping h hpasskey =>
        cases hview
        exact ⟨rfl, h, hpasskey⟩
    | refreshing h hpasskey =>
        cases hview
        exact ⟨rfl, h, hpasskey⟩
    | later h =>
        cases h with
        | spending _ _ _ _ => cases hview
        | receipted _ h => exact (h.view_late hview rfl).elim
    | _ => cases hview
  · intro verified funderAddress passkey state lock effect hview
    cases phase_of_run hrun with
    | later h =>
        cases h with
        | spending h hpasskey hverified _ =>
            cases hview
            exact ⟨_, _, rfl, h, hverified, rfl, hpasskey, rfl⟩
        | receipted _ h => exact (h.view_late hview rfl).elim
    | _ => cases hview
  · intro receipt checking error lock hview
    cases phase_of_run hrun with
    | later h =>
        cases h with
        | spending _ _ _ _ => cases hview
        | receipted hr₀ h =>
            -- the view holds the page's own receipt, or is still a card
            obtain ⟨r, hr, hsame, hshown | ⟨_, _, _, hshown⟩, -⟩ := h.receipt
            · rw [hshown] at hview
              cases hview
            · rw [hshown] at hview
              cases hview
              obtain ⟨txHash, rfl⟩ := hr₀
              refine ⟨hr, h.readable.sameSpend hsame, ?_⟩
              rw [hsame]
              rfl
    | _ => cases hview

/-- The JSON object of the fixture reads its record again. -/
theorem fixture_roundTrips : RoundTrips fixtureSetting fixtureRecord := by
  have hparse : fixtureSetting.parseText fixtureStored = some fixturePasskey := if_pos rfl
  rw [RoundTrips, fixtureRecord_toJson]
  exact hparse

/-- **The page of the fixture shows its account**, for a passkey that the storage loads again. -/
theorem fixture_fails_closed :
    ∃ history page, Run (Step fixtureSetting) (Page.start fixtureSetting (some fixtureStored))
        history page
      ∧ ∃ status account, page.state = .readyToSpend status account fixtureRecord
        ∧ Checked fixtureSetting status (some account)
        ∧ verifiedAccount fixtureSetting status account = .ok fixtureAccount
        ∧ (loadPasskeyRecord fixtureSetting page.storage).1 = some fixtureRecord := by
  obtain ⟨history, page, hrun, -, state, lock, hview⟩ := fixture_run
  obtain ⟨-, -, -, hspend, -⟩ := page_fails_closed fixtureSetting (some fixtureStored) hrun
  obtain ⟨status, account, hstate, hchecked, hverified, -, hheld, -⟩ := hspend _ _ _ _ _ _ hview
  exact ⟨history, page, hrun, status, account, hstate, hchecked, hverified,
    hheld.stored fixture_roundTrips⟩

/-! ## What is sent -/

/-- What a page has sent is one transaction at most, and its receipt is for that. -/
theorem Phase.sends {page : Page} (h : Phase env page) :
    page.sent.length ≤ 1
      ∧ ∀ r, page.internalReceipt = some r → ∃ t txHash, page.sent = [t]
        ∧ SameSpend r (receiptOf t txHash)
        ∧ (r.status = .committed → ∃ cell, (txHash, cell) ∈ page.changes ∧ IsChange r cell) := by
  cases h with
  | later h =>
      cases h with
      | @receipted r₀ t _ hr₀ h =>
          rw [h.sent]
          refine ⟨Nat.le_refl _, fun r hr => ?_⟩
          obtain ⟨r', hr', hsame, -, hcommitted⟩ := h.receipt
          cases hr.symm.trans hr'
          obtain ⟨txHash, rfl⟩ := hr₀
          refine ⟨t, txHash, rfl, hsame, fun hstatus => ?_⟩
          obtain ⟨cell, hmem, hchange⟩ := hcommitted hstatus
          refine ⟨cell, hmem, hchange.type, hchange.outputData, ?_⟩
          rw [hsame]
          exact hchange.capacity
      | spending _ _ _ hspend =>
          refine ⟨?_, fun _ hr => by cases hr⟩
          cases hspend with
          | submitting => exact Nat.le_refl _
          | blocked hone => exact hone
          | _ => exact Nat.zero_le 1
  | _ => exact ⟨Nat.zero_le 1, fun _ hr => by cases hr⟩

/-- What was sent is kept by every event. -/
theorem sent_kept {page page' : Page} {event : Event} (h : Phase env page)
    (hstep : Step env page event page') {t : Transaction} (ht : page.sent = [t]) :
    page'.sent = [t] := by
  have hlength := (phase_of_step h hstep).sends.1
  have hmem : t ∈ page'.sent := mem_sent_of_step hstep (by rw [ht]; exact List.mem_singleton_self t)
  obtain ⟨t', ht'⟩ := List.length_eq_one_iff.mp
    (Nat.le_antisymm hlength (List.length_pos_of_mem hmem))
  rw [ht'] at hmem ⊢
  rw [List.mem_singleton.mp hmem]

/-- **A page sends at most one transaction.**  Whatever is pressed and in whatever order the
    promises settle, it is finalized from the spend that was prepared for the account and the
    passkey of the page that sent it, an account that page had checked.  Every receipt is for it:
    under the hash the node answered its submission with, with the capacity of its change, and
    committed only when a confirmation of that hash was shown the change live.  Once it is sent,
    nothing else is; once it has a receipt, every later receipt is for the same spend. -/
theorem spend_sent_once (env : Setting) (storage : Option String)
    {history : List (Page × Event)} {page : Page}
    (hrun : Run (Step env) (Page.start env storage) history page) :
    page.sent.length ≤ 1 ∧ (∀ t ∈ page.sent, SentIn env history t)
      ∧ (∀ r, page.internalReceipt = some r → ∃ t txHash, page.sent = [t]
        ∧ AnsweredIn history t txHash ∧ SameSpend r (receiptOf t txHash)
        ∧ (r.status = .committed → ∃ cell, DisplayedIn history txHash cell ∧ IsChange r cell))
      ∧ ∀ later page', Run (Step env) page later page' →
        (page.sent ≠ [] → page'.sent = page.sent)
          ∧ ∀ r, page.internalReceipt = some r →
            ∃ r', page'.internalReceipt = some r' ∧ SameSpend r' r := by
  have hphase := phase_of_run hrun
  obtain ⟨hone, hreceipt⟩ := hphase.sends
  refine ⟨hone, fun t ht => sentIn_of_run hrun ht, ?_,
    fun later page' hlater => ⟨fun hne => ?_, fun r hr => ?_⟩⟩
  · intro r hr
    obtain ⟨t, txHash, hsent, hsame, hcommitted⟩ := hreceipt r hr
    have ht : t ∈ page.sent := by rw [hsent]; exact List.mem_singleton_self t
    refine ⟨t, txHash, hsent, answeredIn_of_run hrun ht hr hsame, hsame, fun hstatus => ?_⟩
    obtain ⟨cell, hmem, hchange⟩ := hcommitted hstatus
    exact ⟨cell, displayedIn_of_run hrun hmem, hchange⟩
  · obtain ⟨t, ht⟩ := List.length_eq_one_iff.mp (Nat.le_antisymm hone (List.length_pos_iff.mpr hne))
    -- once there is a transaction, no later step adds another
    have hkept : Phase env page' ∧ page'.sent = [t] :=
      hlater.invariant (P := fun p => Phase env p ∧ p.sent = [t]) ⟨hphase, ht⟩
        fun _ _ _ h hstep => ⟨phase_of_step h.1 hstep, sent_kept h.1 hstep h.2⟩
    rw [hkept.2, ht]
  · cases hphase with
    | later h =>
      cases h with
      | spending _ _ _ _ => cases hr
      | @receipted r₀ t _ _ h =>
        -- from the first receipt on the page stays on the receipt of that spend
        have hkept : Receipted env r₀ t page' :=
          hlater.invariant h fun _ _ _ h hstep => h.step hstep
        obtain ⟨r', hr', hsame', -⟩ := hkept.receipt
        obtain ⟨r'', hr'', hsame, -⟩ := h.receipt
        cases hr.symm.trans hr''
        exact ⟨r', hr', hsame'.trans hsame.symm⟩
    | _ => cases hr

/-- **The page of the fixture sends its spend once**, and its receipt has the hash of the node. -/
theorem fixture_sent_once :
    ∃ history page, Run (Step fixtureSetting) (Page.start fixtureSetting (some fixtureStored))
        history page
      ∧ page.sent = [fixtureFinalized] ∧ SentIn fixtureSetting history fixtureFinalized
      ∧ AnsweredIn history fixtureFinalized (hexFromBytes fixtureTxHash.val)
      ∧ (∃ cell, DisplayedIn history (hexFromBytes fixtureTxHash.val) cell)
      ∧ ∀ later page', Run (Step fixtureSetting) page later page' →
        page'.sent = [fixtureFinalized] := by
  obtain ⟨history, page, hrun, hsent, hreceipt⟩ := fixture_committed
  obtain ⟨-, hsentIn, hreceipts, hlater⟩ :=
    spend_sent_once fixtureSetting (some fixtureStored) hrun
  obtain ⟨t, txHash, ht, hanswered, hsame, hcommitted⟩ := hreceipts _ hreceipt
  cases List.cons.inj (hsent.symm.trans ht) |>.1
  have hhash : hexFromBytes fixtureTxHash.val = txHash := congrArg TransactionReceipt.txHash hsame
  subst hhash
  obtain ⟨cell, hdisplayed, -⟩ := hcommitted rfl
  refine ⟨history, page, hrun, hsent,
    hsentIn _ (by rw [hsent]; exact List.mem_singleton_self _), hanswered, ⟨cell, hdisplayed⟩,
    fun later page' hrun' => ?_⟩
  rw [(hlater later page' hrun').1 (by rw [hsent]; exact List.cons_ne_nil _ _), hsent]

/-! ## When an account is asked for -/

/-- An account request whose end is not known to have left nothing behind. -/
def Event.settlesAccount : Event → Bool
  | .settled (.bootstrap _ _ _ _) (.error (.demoApi .insufficientBalance _)) => false
  | .settled (.bootstrap _ _ _ _) _ => true
  | _ => false

/-- The task asks for an account. -/
def Task.isBootstrap : Task → Bool
  | .bootstrap _ _ _ _ => true
  | _ => false

/-- `BootstrapStep` has ended: it shows an account, or an error that blocks. -/
def BootstrapStepState.ended : BootstrapStepState → Bool
  | .success _ | .error _ true => true
  | _ => false

/-- The pages that do not ask for an account again. -/
inductive Past (env : Setting) : Page → Prop
  | blocked {mount : Nat} {storage : Option String} {status : Option DemoStatus}
      {heading message : String} :
      Past env (.before (.blocked status heading message) .card mount [] storage [])
  | ended {mount : Nat} {storage : Option String} {status : DemoStatus} {passkey : PasskeyRecord}
      {state : BootstrapStepState} (hended : state.ended = true) :
      Past env (.before (.needsAccount status passkey) (.bootstrapStep status passkey state false)
        mount [] storage [])
  | refreshing {mount : Nat} {storage : Option String} {status : DemoStatus}
      {passkey : PasskeyRecord} {account : AccountManifest} (hpasskey : Held env storage passkey) :
      Past env (.before (.needsAccount status passkey)
        (.bootstrapStep status passkey (.success account) false) mount [.refresh passkey] storage [])
  | later {page : Page} (h : Later env page) : Past env page

/-- Only `INSUFFICIENT_BALANCE` lets an account be asked for again. -/
theorem safeBootstrapError_blocking {e : ApiFailure}
    (he : ∀ message, e ≠ .demoApi .insufficientBalance message) :
    (safeBootstrapError e).2 = true := by
  cases e with
  | other => rfl
  | demoApi code message =>
      cases code with
      | insufficientBalance => exact absurd rfl (he message)
      | _ => rfl

/-- With a passkey, a reconciled state does not ask for one. -/
theorem reconcile_some_ne (status status' : DemoStatus) (account : Option AccountManifest)
    (passkey : PasskeyRecord) :
    reconcile env.ccc env.browser status account (some passkey) ≠ .needsPasskey status' := by
  rw [reconcile.eq_def]
  split
  · intro h
    cases h
  · split
    · intro h
      cases h
    · split
      · intro h
        cases h
      · cases passkeyCapabilityProblem env.browser with
        | some message =>
            intro h
            cases h
        | none =>
            cases account with
            | none =>
                intro h
                cases h
            | some account =>
                intro h
                cases h

theorem Past.reported {mount : Nat} {status : DemoStatus} {passkey : PasskeyRecord}
    {account : AccountManifest} (hpasskey : Held env storage passkey) (answer : Reported) :
    Past env ((Page.before (.needsAccount status passkey)
      (.bootstrapStep status passkey (.success account) false) mount [] storage []).reported env
        (some passkey) answer) := by
  cases answer with
  | error e =>
      cases e with
      | demoApi code message => exact .blocked
      | other => exact .blocked
  | ok answer =>
      obtain ⟨status', account'⟩ := answer
      have hvalid : ∀ p ∈ some passkey, Held env storage p := by
        rintro p ⟨⟩
        exact hpasskey
      have hcases := reconcile_cases status' account' hvalid
      -- a stored passkey never sends the page back to the passkey step
      have hne : ∀ s, reconcile env.ccc env.browser status' account' (some passkey)
          ≠ .needsPasskey s := fun s => reconcile_some_ne status' s account' passkey
      simp only [Page.reported]
      generalize reconcile env.ccc env.browser status' account' (some passkey) = state
        at hcases hne ⊢
      rcases hcases with ⟨heading, message, rfl⟩ | hagreed
      · exact .blocked
      · cases hagreed with
        | needsPasskey _ => exact absurd rfl (hne _)
        | needsAccount _ _ => exact .ended rfl
        | readyToSpend h hpasskey =>
            obtain ⟨verified, hverified⟩ := h.verified
            simp only [Page.setState, render, withReceipt, hverified]
            exact .later (.spending h hpasskey hverified .preparing)

/-- **No step goes back before the account.** -/
theorem Past.step {page page' : Page} {event : Event} (h : Past env page)
    (hstep : Step env page event page') : Past env page' := by
  cases h with
  | blocked =>
      cases hstep with
      | click button => cases button <;> exact .blocked
      | settle htasks answer => exact (nil_split htasks).elim
  | @ended _ _ _ _ state hended =>
      cases hstep with
      | settle htasks answer => exact (nil_split htasks).elim
      | click button =>
          cases button with
          | createAccount =>
              cases state with
              | success account => exact .ended rfl
              | error message blocking =>
                  cases blocking with
                  | true => exact .ended rfl
                  | false => cases hended
              | _ => cases hended
          | _ => exact .ended hended
  | refreshing hpasskey =>
      cases hstep with
      | click button => cases button <;> exact .refreshing hpasskey
      | settle htasks answer =>
          obtain ⟨rfl, rfl, rfl⟩ := singleton_split htasks
          exact Past.reported hpasskey answer
  | later h => exact .later (h.step hstep)

/-- A request whose end is not a clean refusal ends the asking. -/
theorem past_of_settlesAccount {page page' : Page} {event : Event} (h : Phase env page)
    (hstep : Step env page event page') (hevent : event.settlesAccount = true) :
    Past env page' := by
  cases h with
  | later h => exact .later (h.step hstep)
  | @bootstrapping mount storage status passkey h hpasskey =>
      cases hstep with
      | click button => cases hevent
      | settle htasks answer =>
          obtain ⟨rfl, rfl, rfl⟩ := singleton_split htasks
          cases answer with
          | error e =>
              -- the error is not the one of a wait that ran out, so it is final
              have hblocking : (safeBootstrapError e).2 = true := by
                refine safeBootstrapError_blocking fun message he => ?_
                rw [he] at hevent
                cases hevent
              simp only [settle, bootstrapped, Page.endBootstrap, if_true, hblocking]
              exact .ended rfl
          | ok candidate =>
              -- the answer is an account, which the page checks before it goes on
              cases hverified : verifiedAccount env status candidate with
              | ok account =>
                  simp only [settle, bootstrapped, hverified, Page.endBootstrap, if_true,
                    handleAccountCreated]
                  exact .refreshing hpasskey
              | err e =>
                  simp only [settle, bootstrapped, hverified, Page.endBootstrap, if_true]
                  exact .ended rfl
              | abort =>
                  simp only [settle, bootstrapped, hverified, Page.endBootstrap, if_true]
                  exact .ended rfl
  | blocked =>
      cases hstep with
      | click button => cases hevent
      | settle htasks answer => exact (nil_split htasks).elim
  | passkey _ =>
      cases hstep with
      | click button => cases hevent
      | settle htasks answer => exact (nil_split htasks).elim
  | account _ _ =>
      cases hstep with
      | click button => cases hevent
      | settle htasks answer => exact (nil_split htasks).elim
  | _ =>
      cases hstep with
      | click button => cases hevent
      | settle htasks answer =>
          obtain ⟨rfl, rfl, rfl⟩ := singleton_split htasks
          cases hevent

/-- A page past its account asks for none. -/
theorem Past.asks_none {page : Page} (h : Past env page) :
    (∀ task ∈ page.tasks, task.isBootstrap = false) ∧ createAccount page = page := by
  cases h with
  | blocked => exact ⟨fun _ ht => (List.not_mem_nil ht).elim, rfl⟩
  | @ended _ _ _ _ state hended =>
      refine ⟨fun _ ht => (List.not_mem_nil ht).elim, ?_⟩
      cases state with
      | success account => rfl
      | error message blocking =>
          cases blocking with
          | true => rfl
          | false => cases hended
      | _ => cases hended
  -- the account exists by now and only its reports are asked for again
  | refreshing _ =>
      refine ⟨fun task ht => ?_, rfl⟩
      rw [List.mem_singleton.mp ht]
      rfl
  | later h =>
      cases h with
      | spending _ _ _ hspend =>
          refine ⟨fun task ht => ?_, rfl⟩
          cases hspend with
          | ready => cases ht
          | blocked _ => cases ht
          | _ =>
              rw [List.mem_singleton.mp ht]
              rfl
      | receipted _ h =>
          refine ⟨fun task ht => ?_, ?_⟩
          · cases h.tasks task ht with
            | _ => rfl
          · obtain ⟨_, -, -, hshown | ⟨_, _, _, hshown⟩, -⟩ := h.receipt
            · simp only [createAccount, hshown]
            · simp only [createAccount, hshown]

/-- **An account is asked for again only after a clean refusal.**  At most one request is in
    flight; and once one ended otherwise than with `INSUFFICIENT_BALANCE`, be it with an account,
    an unknown outcome or an account that does not verify, the page never makes another. -/
theorem bootstrap_not_repeated (env : Setting) (storage : Option String)
    {history : List (Page × Event)} {page : Page}
    (hrun : Run (Step env) (Page.start env storage) history page) :
    page.tasks.countP Task.isBootstrap ≤ 1
      ∧ ((∃ e ∈ history, e.2.settlesAccount = true) →
        (∀ task ∈ page.tasks, task.isBootstrap = false) ∧ createAccount page = page) := by
  constructor
  · cases phase_of_run hrun with
    | later h =>
        have hnone := (Past.later h).asks_none.1
        rw [List.countP_eq_zero.mpr fun task ht => by simp [hnone task ht]]
        exact Nat.zero_le 1
    | _ =>
        refine Nat.le_trans List.countP_le_length ?_
        simp only [List.length_cons, List.length_nil]
        omega
  · intro hsettled
    have hrestricted := hrun.restrict (phase_start env storage)
      fun _ _ _ h hstep => phase_of_step h hstep
    refine (hrestricted.established (P := Past env) ?_ hsettled).asks_none
    rintro s a s' ⟨hphase, hstep⟩ (hpast | hevent)
    · exact hpast.step hstep
    · exact past_of_settlesAccount hphase hstep hevent

/-- The page of the fixture, when the server knows no account and the request for one fails. -/
theorem fixture_refused :
    ∃ history page, Run (Step fixtureSetting) (Page.start fixtureSetting (some fixtureStored))
        history page
      ∧ ∃ e ∈ history, e.2.settlesAccount = true := by
  have hchecked := fixture_checked (.inl rfl)
  have hasked : Step fixtureSetting (Page.start fixtureSetting (some fixtureStored))
      (.settled (.load (some fixtureRecord)) (.ok (fixtureStatus none, none)))
      (.before (.needsAccount (fixtureStatus none) fixtureRecord)
        (.bootstrapStep (fixtureStatus none) fixtureRecord .ready false) 1 []
        (loadPasskeyRecord fixtureSetting (some fixtureStored)).2 []) := by
    rw [Page.start, fixture_stored]
    refine step_only rfl _ ?_
    simp only [settle, Page.reported, hchecked.reconcile_new, Page.setState, render, withReceipt]
    rfl
  have hclicked := (Run.nil.snoc hasked).snoc (.click _ .createAccount)
  have hfailed := hclicked.snoc (.settle (rfl : _ = [] ++ Task.bootstrap 1 (fixtureStatus none)
    fixtureRecord (.needsAccount (fixtureStatus none) fixtureRecord) :: [])
    (Except.error (.demoApi .bootstrapFailed "Account bootstrap failed")))
  exact ⟨_, _, hfailed, _, List.mem_append_right _ (List.mem_singleton_self _), rfl⟩

/-- **The page of the fixture asks for its account once.** -/
theorem fixture_not_repeated :
    ∃ history page, Run (Step fixtureSetting) (Page.start fixtureSetting (some fixtureStored))
        history page
      ∧ (∃ e ∈ history, e.2.settlesAccount = true) ∧ createAccount page = page := by
  obtain ⟨history, page, hrun, hsettled⟩ := fixture_refused
  obtain ⟨-, hnone⟩ := bootstrap_not_repeated fixtureSetting (some fixtureStored) hrun
  exact ⟨history, page, hrun, hsettled, (hnone hsettled).2⟩

end CkbWizard
