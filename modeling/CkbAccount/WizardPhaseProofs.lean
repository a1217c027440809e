import CkbAccount.WizardProofs
import CkbAccount.StepRunProofs

/-! # The stages of a page

    The pages of the demo run promises whose callbacks have closed over an earlier state, and a
    component can be gone when its promise settles.  One invariant says for each stage what is on
    the screen and what can still settle; every event keeps it.

    * `Checked` and `Agreed`: what `reconcile` has made sure of;
    * `Phase`, `Later` and `Receipted`: the invariant, up to a spend, during it and behind its
      receipt;
    * `handleSpendReceipt_shows`: what a receipt does to a page;
    * `phase_of_step` and `phase_of_run`: clicks and answers in any order. -/

namespace CkbWizard

open RustOutcome Outcome StepRun CkbBrowserCodec CkbSchemas CkbSpend

variable {env : Setting} {storage : Option String}

/-! ## What a reconciled state has passed -/

/-- The checks of `reconcile` before it looks at what there is. -/
structure Checked (env : Setting) (status : DemoStatus) (account : Option AccountManifest) :
    Prop where
  deploymentVerified : status.deploymentVerified = true
  reported : validateReported env.ccc status account = .ok ()
  same : status.account = account
  capable : passkeyCapabilityProblem env.browser = none

/-- The JSON object of the browser reads this record again in the text it makes of it. -/
def RoundTrips (env : Setting) (passkey : PasskeyRecord) : Prop :=
  env.parseText (env.stringify passkey.toJson) = some passkey.toJson

/-- The passkey of this browser: a record that passes its schema, and that the storage keeps. -/
structure Held (env : Setting) (storage : Option String) (passkey : PasskeyRecord) : Prop where
  valid : passkey.Valid env.datetime
  stored : RoundTrips env passkey → (loadPasskeyRecord env storage).1 = some passkey

/-- The states in which the page goes on. -/
inductive Agreed (env : Setting) (storage : Option String) : WizardState → Prop
  | needsPasskey {status : DemoStatus} (h : Checked env status none) :
      Agreed env storage (.needsPasskey status)
  | needsAccount {status : DemoStatus} {passkey : PasskeyRecord} (h : Checked env status none)
      (hpasskey : Held env storage passkey) : Agreed env storage (.needsAccount status passkey)
  | readyToSpend {status : DemoStatus} {account : AccountManifest} {passkey : PasskeyRecord}
      (h : Checked env status (some account)) (hpasskey : Held env storage passkey) :
      Agreed env storage (.readyToSpend status account passkey)

/-- **A reconciled state is blocked, or it has passed every check.** -/
theorem reconcile_cases (status : DemoStatus) (account : Option AccountManifest)
    {passkey : Option PasskeyRecord} (hpasskey : ∀ p ∈ passkey, Held env storage p) :
    (∃ heading message,
        reconcile env.ccc env.browser status account passkey = .blocked (some status) heading message)
      ∨ Agreed env storage (reconcile env.ccc env.browser status account passkey) := by
  rw [reconcile.eq_def]
  -- the checks in the order of the source; each failure blocks with its own text
  by_cases hverified : status.deploymentVerified = true
  · rw [if_neg (by simp [hverified])]
    by_cases hreported : validateReported env.ccc status account = .ok ()
    · rw [if_neg (not_not.mpr hreported)]
      by_cases hsame : status.account = account
      · rw [if_neg (not_not.mpr hsame)]
        cases hcapable : passkeyCapabilityProblem env.browser with
        | some message => exact .inl ⟨_, _, rfl⟩
        | none =>
            -- all four checks passed, the stored passkey alone decides the step
            have hchecked : Checked env status account := ⟨hverified, hreported, hsame, hcapable⟩
            cases account with
            | none =>
                cases passkey with
                | none => exact .inr (.needsPasskey hchecked)
                | some p => exact .inr (.needsAccount hchecked (hpasskey p rfl))
            | some a =>
                cases passkey with
                | none => exact .inl ⟨_, _, rfl⟩
                | some p => exact .inr (.readyToSpend hchecked (hpasskey p rfl))
      · rw [if_pos hsame]
        exact .inl ⟨_, _, rfl⟩
    · rw [if_pos hreported]
      exact .inl ⟨_, _, rfl⟩
  · rw [if_pos (by simpa using hverified)]
    exact .inl ⟨_, _, rfl⟩

/-- A page without an account goes on with a new passkey. -/
theorem Checked.reconcile_new {status : DemoStatus} (h : Checked env status none)
    (passkey : PasskeyRecord) :
    reconcile env.ccc env.browser status none (some passkey) = .needsAccount status passkey := by
  rw [reconcile.eq_def, if_neg (by simp [h.deploymentVerified]), if_neg (not_not.mpr h.reported),
    if_neg (not_not.mpr h.same), h.capable]

/-- The account of a reconciled state has the prop of `SpendStep`. -/
theorem Checked.verified {status : DemoStatus} {account : AccountManifest}
    (h : Checked env status (some account)) : ∃ a, verifiedAccount env status account = .ok a := by
  obtain ⟨deployment, hdeployment, hreported⟩ := bind_eq_ok.mp h.reported
  rw [h.same] at hreported
  obtain ⟨a, haccount, -⟩ := bind_eq_ok.mp hreported
  exact ⟨a, bind_eq_ok.mpr ⟨deployment, hdeployment, haccount⟩⟩

/-! ## Receipts -/

/-- The two receipts are for one transaction. -/
def SameSpend (r r₀ : TransactionReceipt) : Prop := r = { r₀ with status := r.status }

theorem SameSpend.refl (r : TransactionReceipt) : SameSpend r r := rfl

/-- Another status is still the same spend. -/
theorem SameSpend.withStatus {r r₀ : TransactionReceipt} (h : SameSpend r r₀)
    (status : ReceiptStatus) : SameSpend { r with status := status } r₀ := by
  rw [SameSpend] at h ⊢
  rw [h]

theorem SameSpend.symm {r r₀ : TransactionReceipt} (h : SameSpend r r₀) : SameSpend r₀ r := by
  rw [SameSpend] at h ⊢
  rw [h]

theorem SameSpend.trans {r r₁ r₂ : TransactionReceipt} (h : SameSpend r r₁)
    (h' : SameSpend r₁ r₂) : SameSpend r r₂ := by
  rw [SameSpend] at h h' ⊢
  rw [h, h']

/-- A receipt that passes its schema. -/
def Readable (env : Setting) (r : TransactionReceipt) : Prop := receiptSchema env.url r = some r

/-- What the schema returns is the receipt, and it is returned again. -/
theorem readable_of_receiptSchema {r r' : TransactionReceipt}
    (h : receiptSchema env.url r = some r') : r' = r ∧ Readable env r := by
  have hr := h
  rw [receiptSchema] at h
  split at h
  · cases h
    exact ⟨rfl, hr⟩
  · cases h

/-- The schema looks at nothing that changes. -/
theorem Readable.sameSpend {r r₀ : TransactionReceipt} (h : Readable env r₀)
    (hsame : SameSpend r r₀) : Readable env r := by
  rw [Readable, receiptSchema] at h ⊢
  rw [hsame]
  split at h
  · rename_i hchecks
    rw [if_pos hchecks]
  · cases h

theorem attempt_eq_ok {α : Type} {x : Outcome JsError α} {a : α} :
    attempt x = .ok a ↔ x = .ok a := by
  cases x with
  | ok b => simp [attempt]
  | err e => simp [attempt]
  | abort => simp [attempt]

/-- **`submitSpend` returns the receipt of its transaction**, under the hash the node answered. -/
theorem submitSpend_eq_ok {t : Transaction} {answer : Outcome JsError String}
    {r : TransactionReceipt} (h : submitSpend env.url t answer = .ok r) :
    ∃ txHash, answer = .ok txHash ∧ r = receiptOf t txHash ∧ Readable env r := by
  obtain ⟨-, h⟩ := rejectIf_bind_eq_ok.mp h
  obtain ⟨txHash, hanswer, h⟩ := bind_eq_ok.mp h
  obtain ⟨hr, hreadable⟩ := readable_of_receiptSchema (okOr_eq_ok.mp h)
  rw [← hr] at hreadable
  exact ⟨txHash, hanswer, hr, hreadable⟩

/-- The live cell that a receipt promises. -/
structure IsChange (r : TransactionReceipt) (cell : Cell) : Prop where
  type : cell.cellOutput.type = none
  outputData : cell.outputData = "0x"
  capacity : toString cell.cellOutput.capacity = r.remainingCapacityShannons

/-- **`confirmSpend` returns its receipt with another status**: a committed one only for a live
    change cell. -/
theorem confirmSpend_eq_ok {r r' : TransactionReceipt} {wait : Wait}
    {live : Outcome JsError (Option Cell)} (h : confirmSpend env.url r wait live = .ok r') :
    SameSpend r' r ∧ (r'.status = .committed →
      wait = .response ∧ ∃ cell, live = .ok (some cell) ∧ IsChange r cell) := by
  obtain ⟨submitted, hsubmitted, hwait⟩ := bind_eq_ok.mp h
  obtain ⟨rfl, -⟩ := readable_of_receiptSchema (okOr_eq_ok.mp hsubmitted)
  cases wait with
  | noResponse => cases hwait
  | failed e => cases hwait
  | timeout =>
      obtain ⟨rfl, -⟩ := readable_of_receiptSchema (okOr_eq_ok.mp hwait)
      exact ⟨rfl, fun hstatus => by cases hstatus⟩
  | response =>
      obtain ⟨change, hlive, hrest⟩ := bind_eq_ok.mp hwait
      obtain ⟨hchange, hreceipt⟩ := rejectIf_bind_eq_ok.mp hrest
      obtain ⟨rfl, -⟩ := readable_of_receiptSchema (okOr_eq_ok.mp hreceipt)
      refine ⟨rfl, fun _ => ⟨rfl, ?_⟩⟩
      cases change with
      | none => simp at hchange
      | some cell =>
          simp only [Option.any_some, Bool.not_eq_eq_eq_not, Bool.not_true, Bool.not_eq_false,
            Bool.and_eq_true, Option.isNone_iff_eq_none, beq_iff_eq] at hchange
          exact ⟨cell, hlive, hchange.1.1, hchange.1.2, hchange.2⟩

/-! ## The invariant -/

/-- What `SpendStep` shows, its lock, what can settle, and what was sent. -/
inductive Spending (seen : WizardState) (verified : VerifiedAccount) (funderAddress : String)
    (passkey : PasskeyRecord) (mount effect : Nat) :
    SpendState → Bool → List Task → List Transaction → Prop
  | preparing : Spending seen verified funderAddress passkey mount effect .preparing false
      [.preparation mount effect verified funderAddress passkey] []
  | ready {prepared : PreparedSpend} {notice : Option String} {lock : Bool} :
      Spending seen verified funderAddress passkey mount effect (.ready prepared notice) lock [] []
  | authorizing {prepared : PreparedSpend} {rawHash digest : String} :
      Spending seen verified funderAddress passkey mount effect (.authorizing prepared) true
        [.assertion mount prepared rawHash digest passkey seen] []
  | submitting {prepared : PreparedSpend} {t : Transaction} :
      Spending seen verified funderAddress passkey mount effect (.submitting prepared) true
        [.submission mount prepared t seen] [t]
  | blocked {message : String} {prepared : Option PreparedSpend} {sent : List Transaction}
      (hone : sent.length ≤ 1) :
      Spending seen verified funderAddress passkey mount effect (.blocked message prepared)
        false [] sent

/-- What can settle once there is a receipt. -/
inductive Late (env : Setting) (storage : Option String) (r₀ : TransactionReceipt) : Task → Prop
  | confirmation {mount : Nat} {prepared : PreparedSpend} {r : TransactionReceipt}
      {seen : WizardState} (hr : SameSpend r r₀) (hseen : Agreed env storage seen) :
      Late env storage r₀ (.confirmation mount prepared r seen)
  | check {mount : Nat} {r : TransactionReceipt} {seen : WizardState} (hr : SameSpend r r₀)
      (hseen : Agreed env storage seen) : Late env storage r₀ (.check mount r seen)
  | recheck {passkey : PasskeyRecord} (hpasskey : Held env storage passkey) :
      Late env storage r₀ (.recheck passkey)

/-- A receipt is on the screen, or a card that says why it is not. -/
def Shows (r : TransactionReceipt) (view : View) : Prop :=
  view = .card ∨ ∃ checking error checkLock, view = .receipt r checking error checkLock

/-- What can be on the screen with a receipt. -/
def View.late : View → Bool
  | .card | .receipt _ _ _ _ => true
  | _ => false

/-- The page after `t` was sent and its receipt `r₀` came back. -/
structure Receipted (env : Setting) (r₀ : TransactionReceipt) (t : Transaction) (page : Page) :
    Prop where
  readable : Readable env r₀
  agreed : Agreed env page.storage page.state
  receipt : ∃ r, page.internalReceipt = some r ∧ SameSpend r r₀ ∧ Shows r page.view
    ∧ (r.status = .committed → ∃ cell, (r₀.txHash, cell) ∈ page.changes ∧ IsChange r₀ cell)
  tasks : ∀ task ∈ page.tasks, Late env page.storage r₀ task
  sent : page.sent = [t]

/-- A page without a receipt. -/
abbrev Page.before (state : WizardState) (view : View) (mount : Nat) (tasks : List Task)
    (storage : Option String) (sent : List Transaction) : Page where
  state := state
  internalReceipt := none
  postCommitError := none
  reconciledCommit := none
  storage := storage
  view := view
  mount := mount
  tasks := tasks
  sent := sent
  changes := []

/-- The pages of a spend, before and after its receipt. -/
inductive Later (env : Setting) : Page → Prop
  | spending {mount effect : Nat} {storage : Option String} {status : DemoStatus}
      {account : AccountManifest} {passkey : PasskeyRecord} {verified : VerifiedAccount}
      {state : SpendState} {lock : Bool} {tasks : List Task} {sent : List Transaction}
      (h : Checked env status (some account)) (hpasskey : Held env storage passkey)
      (hverified : verifiedAccount env status account = .ok verified)
      (hspend : Spending (.readyToSpend status account passkey) verified status.funderAddress
        passkey mount effect state lock tasks sent) :
      Later env (.before (.readyToSpend status account passkey)
        (.spendStep verified status.funderAddress passkey state lock effect) mount tasks storage
        sent)
  | receipted {r₀ : TransactionReceipt} {t : Transaction} {page : Page}
      (hr₀ : ∃ txHash, r₀ = receiptOf t txHash) (h : Receipted env r₀ t page) : Later env page

/-- The stages of a page, with what is on the screen and what can settle. -/
inductive Phase (env : Setting) : Page → Prop
  | loading {mount : Nat} {storage : Option String} {passkey : Option PasskeyRecord}
      (hpasskey : ∀ p ∈ passkey, Held env storage p) :
      Phase env (.before .loading .card mount [.load passkey] storage [])
  | blocked {mount : Nat} {storage : Option String} {status : Option DemoStatus}
      {heading message : String} :
      Phase env (.before (.blocked status heading message) .card mount [] storage [])
  | passkey {mount : Nat} {storage : Option String} {status : DemoStatus}
      {state : PasskeyStepState} (h : Checked env status none) :
      Phase env (.before (.needsPasskey status) (.passkeyStep state false) mount [] storage [])
  | registering {mount : Nat} {storage : Option String} {status : DemoStatus}
      (h : Checked env status none) :
      Phase env (.before (.needsPasskey status) (.passkeyStep .pending true) mount
        [.registration mount (.needsPasskey status)] storage [])
  | account {mount : Nat} {storage : Option String} {status : DemoStatus}
      {passkey : PasskeyRecord} {state : BootstrapStepState} (h : Checked env status none)
      (hpasskey : Held env storage passkey) :
      Phase env (.before (.needsAccount status passkey) (.bootstrapStep status passkey state false)
        mount [] storage [])
  | bootstrapping {mount : Nat} {storage : Option String} {status : DemoStatus}
      {passkey : PasskeyRecord} (h : Checked env status none)
      (hpasskey : Held env storage passkey) :
      Phase env (.before (.needsAccount status passkey)
        (.bootstrapStep status passkey .pending true) mount
        [.bootstrap mount status passkey (.needsAccount status passkey)] storage [])
  | refreshing {mount : Nat} {storage : Option String} {status : DemoStatus}
      {passkey : PasskeyRecord} {account : AccountManifest} (h : Checked env status none)
      (hpasskey : Held env storage passkey) :
      Phase env (.before (.needsAccount status passkey)
        (.bootstrapStep status passkey (.success account) false) mount [.refresh passkey] storage [])
  | later {page : Page} (h : Later env page) : Phase env page

/-! ## Rendering -/

/-- What is loaded passes its schema, and stays loaded. -/
theorem held_of_loadPasskeyRecord {p : PasskeyRecord}
    (h : p ∈ (loadPasskeyRecord env storage).1) :
    Held env (loadPasskeyRecord env storage).2 p := by
  cases storage with
  | none => cases h
  | some serialized =>
      cases hrecord : (env.parseText serialized).bind (passkeyRecordSchema env.datetime) with
      | none =>
          simp only [loadPasskeyRecord, hrecord] at h
          cases h
      | some record =>
          have hload : loadPasskeyRecord env (some serialized)
              = (some record, some serialized) := by simp only [loadPasskeyRecord, hrecord]
          rw [hload] at h ⊢
          cases h
          obtain ⟨v, -, hv⟩ := Option.bind_eq_some_iff.mp hrecord
          exact ⟨passkeyRecordSchema_valid hv, fun _ => by rw [hload]⟩

/-- What is saved can be loaded. -/
theorem held_of_savePasskeyRecord {record : PasskeyRecord} {writable : Bool} {text : String}
    (hrecord : record.Valid env.datetime)
    (h : savePasskeyRecord env record writable = some text) : Held env (some text) record := by
  refine ⟨hrecord, fun hjson => ?_⟩
  rw [savePasskeyRecord, passkeyRecordSchema_toJson hrecord] at h
  cases writable with
  | false => cases h
  | true =>
      cases h
      rw [RoundTrips] at hjson
      simp only [loadPasskeyRecord, hjson, Option.bind_some, passkeyRecordSchema_toJson hrecord]

/-- The page starts in a phase. -/
theorem phase_start (env : Setting) (storage : Option String) :
    Phase env (Page.start env storage) :=
  .loading fun _ h => held_of_loadPasskeyRecord h

/-- A page before its spend shows what a reconciled state asks for. -/
theorem phase_setState {state : WizardState} {view : View}
    (hstate : (∃ status heading message, state = .blocked status heading message)
      ∨ Agreed env storage state)
    (hview : view = .card ∨ ∃ status passkey shown, view = .bootstrapStep status passkey shown false)
    (old : WizardState) (mount : Nat) :
    Phase env ((Page.before old view mount [] storage []).setState env state) := by
  rcases hstate with ⟨status, heading, message, rfl⟩ | hagreed
  · exact .blocked
  · cases hagreed with
    | needsPasskey h =>
        rcases hview with rfl | ⟨_, _, _, rfl⟩
        · exact .passkey h
        · exact .passkey h
    | needsAccount h hpasskey =>
        rcases hview with rfl | ⟨_, _, _, rfl⟩
        · exact .account h hpasskey
        · exact .account h hpasskey
    | readyToSpend h hpasskey =>
        obtain ⟨verified, hverified⟩ := h.verified
        rcases hview with rfl | ⟨_, _, _, rfl⟩
        · simp only [Page.setState, render, withReceipt, hverified]
          exact .later (.spending h hpasskey hverified .preparing)
        · simp only [Page.setState, render, withReceipt, hverified]
          exact .later (.spending h hpasskey hverified .preparing)

/-- With a receipt, a page shows that receipt or a card. -/
theorem render_receipt {page : Page} {r : TransactionReceipt}
    (hreceipt : page.internalReceipt = some r) (hr : Readable env r)
    (hagreed : Agreed env storage page.state) :
    ∃ view mount, render env page = { page with view := view, mount := mount } ∧ Shows r view := by
  -- a receipt on the page is shown as it stands, or the page is blocked
  have hshown : (∃ status heading message,
      withReceipt env.url page.state page.internalReceipt = .blocked status heading message)
      ∨ (∃ status, withReceipt env.url page.state page.internalReceipt = .committed status r)
      ∨ ∃ status, withReceipt env.url page.state page.internalReceipt = .submitted status r := by
    rw [hreceipt]
    revert hagreed
    generalize page.state = state
    rintro (_ | _ | _)
    · exact .inl ⟨_, _, _, rfl⟩
    · exact .inl ⟨_, _, _, rfl⟩
    · rw [Readable] at hr
      simp only [withReceipt, hr]
      by_cases hstatus : r.status = .committed
      · exact .inr (.inl ⟨_, if_pos hstatus⟩)
      · exact .inr (.inr ⟨_, if_neg hstatus⟩)
  rw [render]
  rcases hshown with ⟨status, heading, message, hshown⟩ | ⟨status, hshown⟩ | ⟨status, hshown⟩
  · rw [hshown]
    exact ⟨.card, page.mount, rfl, .inl rfl⟩
  · rw [hshown]
    cases hview : page.view with
    -- a receipt already on screen keeps its place; any other view is replaced
    | receipt _ checking error checkLock =>
        exact ⟨.receipt r checking error checkLock, page.mount, rfl, .inr ⟨_, _, _, rfl⟩⟩
    | _ => exact ⟨.receipt r false none false, page.mount + 1, rfl, .inr ⟨_, _, _, rfl⟩⟩
  · rw [hshown]
    cases hview : page.view with
    | receipt _ checking error checkLock =>
        exact ⟨.receipt r checking error checkLock, page.mount, rfl, .inr ⟨_, _, _, rfl⟩⟩
    | _ => exact ⟨.receipt r false none false, page.mount + 1, rfl, .inr ⟨_, _, _, rfl⟩⟩

/-- **`handleSpendReceipt` shows its receipt**, and at most asks the server again. -/
theorem handleSpendReceipt_shows {page : Page} {seen : WizardState} {r : TransactionReceipt}
    (hagreed : Agreed env storage page.state) (hseen : Agreed env storage seen) (hr : Readable env r)
    (r₀ : TransactionReceipt) :
    ∃ view mount postCommitError reconciledCommit tasks,
      handleSpendReceipt env seen r page = { page with
        internalReceipt := some r, view := view, mount := mount
        postCommitError := postCommitError, reconciledCommit := reconciledCommit
        tasks := page.tasks ++ tasks }
      ∧ Shows r view ∧ ∀ task ∈ tasks, Late env storage r₀ task := by
  -- without an account to recheck the receipt is rendered and no task starts
  have hplain : ∃ view mount postCommitError reconciledCommit tasks,
      render env { page with internalReceipt := some r } = { page with
        internalReceipt := some r, view := view, mount := mount
        postCommitError := postCommitError, reconciledCommit := reconciledCommit
        tasks := page.tasks ++ tasks }
      ∧ Shows r view ∧ ∀ task ∈ tasks, Late env storage r₀ task := by
    obtain ⟨view, mount, hrender, hshows⟩ :=
      @render_receipt env storage { page with internalReceipt := some r } r rfl hr hagreed
    exact ⟨view, mount, page.postCommitError, page.reconciledCommit, [],
      by rw [hrender, List.append_nil], hshows, fun _ h => by cases h⟩
  have hschema : receiptSchema env.url r = some r := hr
  cases hseen with
  | needsPasskey _ =>
      simp only [handleSpendReceipt, hschema]
      exact hplain
  | needsAccount _ _ =>
      simp only [handleSpendReceipt, hschema]
      exact hplain
  | @readyToSpend _ _ passkey _ hpasskey =>
      simp only [handleSpendReceipt, hschema]
      split
      · exact hplain
      · -- the first commit of this receipt also starts the recheck of the account
        obtain ⟨view, mount, hrender, hshows⟩ := @render_receipt env storage { page with
            internalReceipt := some r
            reconciledCommit := some r.txHash
            postCommitError := none
            tasks := page.tasks ++ [.recheck passkey] } r rfl hr hagreed
        refine ⟨view, mount, none, some r.txHash, [.recheck passkey], hrender, hshows, ?_⟩
        intro task htask
        rw [List.mem_singleton.mp htask]
        exact .recheck hpasskey

/-! ## After a receipt -/

/-- A confirmation adds at most what it was shown. -/
theorem observe_eq (page : Page) (r : TransactionReceipt) (wait : Wait)
    (live : Outcome JsError (Option Cell)) :
    ∃ shown, page.observe r wait live = { page with changes := page.changes ++ shown }
      ∧ ∀ cell, wait = .response → live = .ok (some cell) → (r.txHash, cell) ∈ shown := by
  rw [Page.observe.eq_def]
  split
  · rename_i cell
    refine ⟨[(r.txHash, cell)], rfl, ?_⟩
    intro cell' _ hlive
    cases hlive
    exact List.mem_singleton_self _
  · rename_i hother
    refine ⟨[], by rw [List.append_nil], ?_⟩
    intro cell hwait hlive
    exact (hother cell hwait hlive).elim

namespace Receipted

variable {r₀ : TransactionReceipt} {t : Transaction} {page : Page}

/-- No component that leads up to a spend is on the screen. -/
theorem view_late (h : Receipted env r₀ t page) {view : View} (hview : page.view = view)
    (hlate : view.late = false) : False := by
  obtain ⟨r, -, -, hshown | ⟨_, _, _, hshown⟩, -⟩ := h.receipt
  · rw [← hview, hshown] at hlate
    cases hlate
  · rw [← hview, hshown] at hlate
    cases hlate

/-- The component that sent the spend is gone, so that its states go nowhere. -/
theorem releaseSpend (h : Receipted env r₀ t page) (mount : Nat) :
    Receipted env r₀ t (page.releaseSpend mount) := by
  obtain ⟨_, -, -, hview | ⟨_, _, _, hview⟩, -⟩ := h.receipt
  · simpa only [Page.releaseSpend, hview] using h
  · simpa only [Page.releaseSpend, hview] using h

/-- A failure of a spend that was sent keeps its receipt. -/
theorem failSpend (h : Receipted env r₀ t page) (mount : Nat) (state : SpendState) :
    Receipted env r₀ t (page.failSpend mount state) := by
  obtain ⟨_, -, -, hview | ⟨_, _, _, hview⟩, -⟩ := h.receipt
  · simpa only [Page.failSpend, Page.setSpend, hview] using h.releaseSpend mount
  · simpa only [Page.failSpend, Page.setSpend, hview] using h.releaseSpend mount

/-- Looking at the chain keeps the receipt. -/
theorem observe (h : Receipted env r₀ t page) (r : TransactionReceipt) (wait : Wait)
    (live : Outcome JsError (Option Cell)) : Receipted env r₀ t (page.observe r wait live) := by
  obtain ⟨shown, heq, -⟩ := observe_eq page r wait live
  rw [heq]
  obtain ⟨r, hr, hsame, hshows, hcommitted⟩ := h.receipt
  refine ⟨h.readable, h.agreed, ⟨r, hr, hsame, hshows, ?_⟩, h.tasks, h.sent⟩
  intro hstatus
  obtain ⟨cell, hmem, hchange⟩ := hcommitted hstatus
  exact ⟨cell, List.mem_append_left _ hmem, hchange⟩

/-- A new receipt for the same spend is shown in place of the one before. -/
theorem handleSpendReceipt (h : Receipted env r₀ t page) {seen : WizardState}
    {r : TransactionReceipt} (hseen : Agreed env page.storage seen) (hsame : SameSpend r r₀)
    (hcommitted : r.status = .committed →
      ∃ cell, (r₀.txHash, cell) ∈ page.changes ∧ IsChange r₀ cell) :
    Receipted env r₀ t (handleSpendReceipt env seen r page) := by
  obtain ⟨view, mount, postCommitError, reconciledCommit, tasks, heq, hshows, htasks⟩ :=
    handleSpendReceipt_shows h.agreed hseen (h.readable.sameSpend hsame) r₀
  rw [heq]
  refine ⟨h.readable, h.agreed, ⟨r, rfl, hsame, hshows, hcommitted⟩, ?_, h.sent⟩
  intro task htask
  rcases List.mem_append.mp htask with htask | htask
  · exact h.tasks task htask
  · exact htasks task htask

/-- What a confirmation returns is a receipt for the same spend; where it is committed, the
    change was seen live. -/
theorem confirm (h : Receipted env r₀ t page) {seen : WizardState} {r r' : TransactionReceipt}
    {wait : Wait} {live : Outcome JsError (Option Cell)} (hseen : Agreed env page.storage seen)
    (hsame : SameSpend r r₀) (hconfirm : confirmSpend env.url r wait live = .ok r') :
    Receipted env r₀ t
      (CkbWizard.handleSpendReceipt env seen r' (page.observe r wait live)) := by
  obtain ⟨hr', hcommitted⟩ := confirmSpend_eq_ok hconfirm
  have hsame' : SameSpend r' r₀ := by
    rw [SameSpend] at hr' hsame ⊢
    rw [hr', hsame]
  have hstorage : (page.observe r wait live).storage = page.storage := by
    obtain ⟨shown, heq, -⟩ := observe_eq page r wait live
    rw [heq]
  rw [← hstorage] at hseen
  refine (h.observe r wait live).handleSpendReceipt hseen hsame' ?_
  intro hstatus
  obtain ⟨hwait, cell, hlive, hchange⟩ := hcommitted hstatus
  obtain ⟨shown, heq, hshown⟩ := observe_eq page r wait live
  have hmem := hshown cell hwait hlive
  rw [hsame] at hmem hchange
  rw [heq]
  exact ⟨cell, List.mem_append_right _ hmem, hchange.type, hchange.outputData, hchange.capacity⟩

/-- So does the end of a check. -/
theorem endCheck (h : Receipted env r₀ t page) (mount : Nat) (failure : Option String) :
    Receipted env r₀ t (page.endCheck mount failure) := by
  obtain ⟨r, hr, hsame, hshows, hcommitted⟩ := h.receipt
  rcases hshows with hview | ⟨checking, error, checkLock, hview⟩
  · simp only [Page.endCheck, hview]
    exact h
  · simp only [Page.endCheck, hview]
    split
    · exact ⟨h.readable, h.agreed, ⟨r, hr, hsame, .inr ⟨_, _, _, rfl⟩, hcommitted⟩, h.tasks, h.sent⟩
    · exact h

/-- So does rendering. -/
theorem rendered (h : Receipted env r₀ t page) : Receipted env r₀ t (render env page) := by
  obtain ⟨r, hr, hsame, -, hcommitted⟩ := h.receipt
  obtain ⟨view, mount, heq, hshows⟩ :=
    render_receipt hr (h.readable.sameSpend hsame) h.agreed
  rw [heq]
  exact ⟨h.readable, h.agreed, ⟨r, hr, hsame, hshows, hcommitted⟩, h.tasks, h.sent⟩

/-- A state that the server reports again replaces the one before, if it is not blocked. -/
theorem rechecked (h : Receipted env r₀ t page) {passkey : PasskeyRecord}
    (hpasskey : Held env page.storage passkey) (answer : Reported) :
    Receipted env r₀ t (page.rechecked env passkey answer) := by
  have hkept (message : String) :
      Receipted env r₀ t (render env { page with postCommitError := some message }) :=
    rendered ⟨h.readable, h.agreed, h.receipt, h.tasks, h.sent⟩
  cases answer with
  | error e => exact hkept _
  | ok reported =>
      obtain ⟨status, account⟩ := reported
      have hvalid : ∀ p ∈ some passkey, Held env page.storage p := by
        rintro p ⟨⟩
        exact hpasskey
      have hcases := reconcile_cases status account hvalid
      simp only [Page.rechecked]
      generalize reconcile env.ccc env.browser status account (some passkey) = state at hcases ⊢
      rcases hcases with ⟨heading, message, rfl⟩ | hagreed
      · exact hkept message
      · have hstate : Receipted env r₀ t (page.setState env state) :=
          rendered ⟨h.readable, hagreed, h.receipt, h.tasks, h.sent⟩
        cases hagreed with
        | needsPasskey _ => exact hstate
        | needsAccount _ _ => exact hstate
        | readyToSpend _ _ => exact hstate

/-- **No button but that of the receipt does anything.** -/
theorem click (h : Receipted env r₀ t page) (button : Button) :
    Receipted env r₀ t (click env page button) := by
  obtain ⟨r, hr, hsame, hshows, hcommitted⟩ := h.receipt
  have hsame' := hsame.withStatus .submitted
  cases button with
  | createPasskey =>
      rcases hshows with hview | ⟨_, _, _, hview⟩
      · -- the button of another step: the page on a receipt ignores it
        simpa only [CkbWizard.click, CkbWizard.createPasskey, hview] using h
      · simpa only [CkbWizard.click, CkbWizard.createPasskey, hview] using h
  | createAccount =>
      rcases hshows with hview | ⟨_, _, _, hview⟩
      · simpa only [CkbWizard.click, CkbWizard.createAccount, hview] using h
      · simpa only [CkbWizard.click, CkbWizard.createAccount, hview] using h
  | authorize =>
      rcases hshows with hview | ⟨_, _, _, hview⟩
      · simpa only [CkbWizard.click, CkbWizard.authorize, hview] using h
      · simpa only [CkbWizard.click, CkbWizard.authorize, hview] using h
  | checkAgain =>
      rcases hshows with hview | ⟨checking, error, checkLock, hview⟩
      · simpa only [CkbWizard.click, CkbWizard.checkAgain, hview] using h
      · cases checkLock with
        -- a check is already running and the button is locked
        | true => simpa only [CkbWizard.click, CkbWizard.checkAgain, hview] using h
        | false =>
            have hschema : receiptSchema env.url r = some r := h.readable.sameSpend hsame
            simp only [CkbWizard.click, CkbWizard.checkAgain, hview, hschema]
            split
            · exact h
            · refine ⟨h.readable, h.agreed, ⟨r, hr, hsame, .inr ⟨_, _, _, rfl⟩, hcommitted⟩, ?_,
                h.sent⟩
              intro task htask
              rcases List.mem_append.mp htask with htask | htask
              · exact h.tasks task htask
              · rw [List.mem_singleton.mp htask]
                exact .check hsame' h.agreed

/-- **What can still settle keeps the receipt.** -/
theorem settle (h : Receipted env r₀ t page) {before after : List Task} {task : Task}
    (htasks : page.tasks = before ++ task :: after) (answer : task.Answer) :
    Receipted env r₀ t (settle env { page with tasks := before ++ after } task answer) := by
  have hlate : Late env page.storage r₀ task := h.tasks task (by simp [htasks])
  have hrest : Receipted env r₀ t { page with tasks := before ++ after } := by
    refine ⟨h.readable, h.agreed, h.receipt, ?_, h.sent⟩
    intro other hother
    refine h.tasks other ?_
    rw [htasks, List.mem_append, List.mem_cons]
    rcases List.mem_append.mp hother with hother | hother
    · exact .inl hother
    · exact .inr (.inr hother)
  cases hlate with
  | @confirmation mount prepared r seen hr hseen =>
      obtain ⟨wait, live⟩ := answer
      simp only [CkbWizard.settle, confirmed]
      cases hconfirm : attempt (confirmSpend env.url r wait live) with
      | error e => exact (hrest.observe r wait live).failSpend _ _
      | ok r' => exact (hrest.confirm hseen hr (attempt_eq_ok.mp hconfirm)).releaseSpend _
  | @check mount r seen hr hseen =>
      obtain ⟨wait, live⟩ := answer
      simp only [CkbWizard.settle, checked]
      cases hconfirm : attempt (confirmSpend env.url r wait live) with
      | error e => exact (hrest.observe r wait live).endCheck _ _
      | ok r' => exact (hrest.confirm hseen hr (attempt_eq_ok.mp hconfirm)).endCheck _ _
  | recheck hpasskey => exact hrest.rechecked hpasskey answer

/-- **Once there is a receipt, every event keeps its spend.** -/
theorem step (h : Receipted env r₀ t page) {event : Event} {page' : Page}
    (hstep : Step env page event page') : Receipted env r₀ t page' := by
  cases hstep with
  | click button => exact h.click button
  | settle htasks answer => exact h.settle htasks answer

end Receipted

/-! ## Every event -/

/-- The button of the passkey step. -/
theorem phase_createPasskey {mount : Nat} {status : DemoStatus}
    (state : PasskeyStepState) (h : Checked env status none) :
    Phase env (createPasskey env
      (.before (.needsPasskey status) (.passkeyStep state false) mount [] storage [])) := by
  have hregistering : Phase env (.before (.needsPasskey status) (.passkeyStep .pending true) mount
      [.registration mount (.needsPasskey status)] storage []) := .registering h
  cases state with
  | success record => exact .passkey h
  | blocked message => exact .passkey h
  | ready => simpa [createPasskey, h.capable] using hregistering
  | pending => simpa [createPasskey, h.capable] using hregistering
  | cancelled => simpa [createPasskey, h.capable] using hregistering

/-- The button of the account step. -/
theorem phase_createAccount {mount : Nat} {status : DemoStatus}
    {passkey : PasskeyRecord} (state : BootstrapStepState) (h : Checked env status none)
    (hpasskey : Held env storage passkey) :
    Phase env (createAccount (.before (.needsAccount status passkey)
      (.bootstrapStep status passkey state false) mount [] storage [])) := by
  cases state with
  | success account => exact .account h hpasskey
  | ready => exact .bootstrapping h hpasskey
  | pending => exact .bootstrapping h hpasskey
  | error message blocking =>
      cases blocking with
      | true => exact .account h hpasskey
      | false => exact .bootstrapping h hpasskey

/-- **Only a spend under review is authorized.** -/
theorem later_authorize {mount effect : Nat} {status : DemoStatus}
    {account : AccountManifest} {passkey : PasskeyRecord} {verified : VerifiedAccount}
    {state : SpendState} {lock : Bool} {tasks : List Task} {sent : List Transaction}
    (h : Checked env status (some account)) (hpasskey : Held env storage passkey)
    (hverified : verifiedAccount env status account = .ok verified)
    (hspend : Spending (.readyToSpend status account passkey) verified status.funderAddress
      passkey mount effect state lock tasks sent) :
    Later env (authorize env (.before (.readyToSpend status account passkey)
      (.spendStep verified status.funderAddress passkey state lock effect) mount tasks storage
      sent)) := by
  cases hspend with
  | preparing => exact .spending h hpasskey hverified .preparing
  | authorizing => exact .spending h hpasskey hverified .authorizing
  | submitting => exact .spending h hpasskey hverified .submitting
  | blocked hone => exact .spending h hpasskey hverified (.blocked hone)
  | @ready prepared _ _ =>
      cases lock with
      | true => exact .spending h hpasskey hverified .ready
      | false =>
          cases hhash : env.ccc.transactionHash prepared.transaction with
          | none =>
              simp only [authorize, hhash]
              exact .spending h hpasskey hverified .ready
          | some rawHash =>
              simp only [authorize, hhash]
              exact .spending h hpasskey hverified .authorizing

/-- A button after the account exists. -/
theorem Later.click {page : Page} (h : Later env page) (button : Button) :
    Later env (click env page button) := by
  cases h with
  | spending h hpasskey hverified hspend =>
      cases button with
      | authorize => exact later_authorize h hpasskey hverified hspend
      | _ => exact .spending h hpasskey hverified hspend
  | receipted hr₀ h => exact .receipted hr₀ (h.click button)

/-- **Every button keeps the phase.** -/
theorem phase_click {page : Page} (h : Phase env page) (button : Button) :
    Phase env (click env page button) := by
  cases h with
  | loading hpasskey => cases button <;> exact .loading hpasskey
  | blocked => cases button <;> exact .blocked
  | @passkey _ _ _ state h =>
      cases button with
      | createPasskey => exact phase_createPasskey state h
      | _ => exact .passkey h
  | registering h => cases button <;> exact .registering h
  | @account _ _ _ _ state h hpasskey =>
      cases button with
      | createAccount => exact phase_createAccount state h hpasskey
      | _ => exact .account h hpasskey
  | bootstrapping h hpasskey => cases button <;> exact .bootstrapping h hpasskey
  | refreshing h hpasskey => cases button <;> exact .refreshing h hpasskey
  | later h => exact .later (h.click button)

/-- A report of the server leads to the page it allows. -/
theorem phase_reported {passkey : Option PasskeyRecord} {view : View}
    (hpasskey : ∀ p ∈ passkey, Held env storage p)
    (hview : view = .card ∨ ∃ status passkey shown, view = .bootstrapStep status passkey shown false)
    (old : WizardState) (mount : Nat) (answer : Reported) :
    Phase env ((Page.before old view mount [] storage []).reported env passkey answer) := by
  cases answer with
  | error e =>
      cases e with
      | demoApi code message => exact phase_setState (.inl ⟨_, _, _, rfl⟩) hview old mount
      | other => exact phase_setState (.inl ⟨_, _, _, rfl⟩) hview old mount
  | ok reported =>
      obtain ⟨status, account⟩ := reported
      refine phase_setState ?_ hview old mount
      rcases reconcile_cases status account hpasskey with ⟨heading, message, hblocked⟩ | hagreed
      · exact .inl ⟨_, _, _, hblocked⟩
      · exact .inr hagreed

/-- A registration ends with a record that leads on, or leaves its page. -/
theorem phase_registered {mount : Nat} {status : DemoStatus}
    (h : Checked env status none) (answer : Except RegistrationFailure (Json × Bool)) :
    Phase env (registered env mount (.needsPasskey status) answer
      (.before (.needsPasskey status) (.passkeyStep .pending true) mount [] storage [])) := by
  have hend (state : PasskeyStepState) : Phase env (Page.endRegistration mount state
      (.before (.needsPasskey status) (.passkeyStep .pending true) mount [] storage [])) := by
    simp only [Page.endRegistration, if_true]
    exact .passkey h
  cases answer with
  | error e => cases e <;> exact hend _
  | ok response =>
      obtain ⟨candidate, writable⟩ := response
      cases hrecord : passkeyRecordSchema env.datetime candidate with
      | none =>
          simp only [registered, hrecord]
          exact hend _
      | some record =>
          cases hsaved : savePasskeyRecord env record writable with
          | none =>
              simp only [registered, hrecord, hsaved]
              exact hend _
          | some text =>
              simp only [registered, hrecord, hsaved, Page.endRegistration, if_true,
                handlePasskeyCreated, h.reconcile_new, Page.setState, render, withReceipt]
              exact .account h
                (held_of_savePasskeyRecord (passkeyRecordSchema_valid hrecord) hsaved)

/-- An account request ends with a new report, or leaves its page. -/
theorem phase_bootstrapped {mount : Nat} {status : DemoStatus}
    {passkey : PasskeyRecord} (h : Checked env status none) (hpasskey : Held env storage passkey)
    (answer : Except ApiFailure AccountManifest) :
    Phase env (bootstrapped env mount status (.needsAccount status passkey) answer
      (.before (.needsAccount status passkey) (.bootstrapStep status passkey .pending true) mount
        [] storage [])) := by
  have hfailed (e : ApiFailure) : Phase env (Page.endBootstrap mount
      (.error (safeBootstrapError e).1 (safeBootstrapError e).2)
      (.before (.needsAccount status passkey) (.bootstrapStep status passkey .pending true) mount
        [] storage [])) := by
    simp only [Page.endBootstrap, if_true]
    exact .account h hpasskey
  cases answer with
  | error e => exact hfailed e
  | ok candidate =>
      cases hverified : verifiedAccount env status candidate with
      | ok account =>
          simp only [bootstrapped, hverified, Page.endBootstrap, if_true, handleAccountCreated]
          exact .refreshing h hpasskey
      | err e =>
          simp only [bootstrapped, hverified]
          exact hfailed .other
      | abort =>
          simp only [bootstrapped, hverified]
          exact hfailed .other

section Spend

variable {mount effect : Nat} {status : DemoStatus}
  {account : AccountManifest} {passkey : PasskeyRecord} {verified : VerifiedAccount}

/-- The end of a preparation. -/
theorem later_prepared (h : Checked env status (some account))
    (hpasskey : Held env storage passkey)
    (hverified : verifiedAccount env status account = .ok verified) (client : SpendClient) :
    Later env (Page.prepared mount effect
      (prepareSpend env.ccc env.datetime client verified status.funderAddress passkey.toJson)
      (.before (.readyToSpend status account passkey)
        (.spendStep verified status.funderAddress passkey .preparing false effect) mount [] storage
        [])) := by
  cases hprepared : attempt (prepareSpend env.ccc env.datetime client verified
      status.funderAddress passkey.toJson) with
  | error e =>
      simp only [Page.prepared, hprepared, if_true, Page.setSpend]
      exact .spending h hpasskey hverified (.blocked (Nat.zero_le 1))
  | ok prepared =>
      simp only [Page.prepared, hprepared, if_true, Page.setSpend]
      exact .spending h hpasskey hverified .ready

/-- A spend that failed is blocked, and keeps what was sent. -/
theorem later_failSpend (h : Checked env status (some account))
    (hpasskey : Held env storage passkey)
    (hverified : verifiedAccount env status account = .ok verified) {sent : List Transaction}
    (hone : sent.length ≤ 1) (shown : SpendState)
    (message : String) (prepared : Option PreparedSpend) :
    Later env (Page.failSpend mount (.blocked message prepared)
      (.before (.readyToSpend status account passkey)
        (.spendStep verified status.funderAddress passkey shown true effect) mount [] storage
        sent)) := by
  simp only [Page.failSpend, Page.setSpend, Page.releaseSpend, if_true]
  exact .spending h hpasskey hverified (.blocked hone)

/-- A failure blocks the step, with a text. -/
theorem spendFailure_blocked (prepared : PreparedSpend) (e : JsError) :
    ∃ message, spendFailure prepared e = .blocked message (some prepared) := by
  cases e with
  | typeError message =>
      simp only [spendFailure]
      split
      · exact ⟨_, rfl⟩
      · exact ⟨_, rfl⟩
  | rangeError message => exact ⟨_, rfl⟩
  | library => exact ⟨_, rfl⟩

/-- **An assertion sends at most one transaction.** -/
theorem later_asserted (h : Checked env status (some account))
    (hpasskey : Held env storage passkey)
    (hverified : verifiedAccount env status account = .ok verified) (prepared : PreparedSpend)
    (reviewedRawHash reviewedDigest : String) (answer : Except Refusal AssertionMaterial) :
    Later env (asserted env mount prepared reviewedRawHash reviewedDigest passkey
      (.readyToSpend status account passkey) answer
      (.before (.readyToSpend status account passkey)
        (.spendStep verified status.funderAddress passkey (.authorizing prepared) true effect)
        mount [] storage [])) := by
  have hnone : ([] : List Transaction).length ≤ 1 := Nat.zero_le 1
  -- each refusal below ends in the same blocked step
  have hfail (shown : SpendState) (e : JsError) : Later env (Page.failSpend mount
      (spendFailure prepared e) (.before (.readyToSpend status account passkey)
        (.spendStep verified status.funderAddress passkey shown true effect) mount [] storage
        [])) := by
    obtain ⟨message, hblocked⟩ := spendFailure_blocked prepared e
    rw [hblocked]
    exact later_failSpend h hpasskey hverified hnone shown message _
  rw [asserted.eq_def]
  cases answer with
  | error e =>
      cases e with
      | cancelled =>
          simp only [Page.failSpend, Page.setSpend, Page.releaseSpend, if_true]
          exact .spending h hpasskey hverified .ready
      | threw e => exact hfail _ e
  | ok assertion =>
      cases hhash : env.ccc.transactionHash prepared.transaction with
      | none => exact hfail _ .library
      | some rawHash =>
          by_cases hchanged : rawHash ≠ reviewedRawHash
              ∨ hexFromBytes prepared.authorizationDigest ≠ reviewedDigest
          · simp only [if_pos hchanged]
            exact later_failSpend h hpasskey hverified hnone _ _ _
          · simp only [if_neg hchanged]
            cases hfinalized : attempt (finalizeSpend env.ccc env.datetime env.parseClientData
                prepared passkey.toJson assertion) with
            | error e => exact hfail _ e
            | ok finalized =>
                simp only [Page.setSpend, if_true]
                split
                · -- the only branch that leaves the approval with a transaction in flight
                  exact .spending h hpasskey hverified .submitting
                · exact hfail _ _

/-- **The answer of the node leads to the receipt of what was sent**, or to a blocked page. -/
theorem later_submitted (h : Checked env status (some account))
    (hpasskey : Held env storage passkey)
    (hverified : verifiedAccount env status account = .ok verified) (t : Transaction)
    (prepared : PreparedSpend) (answer : Outcome JsError String) :
    Later env (submitted env mount prepared t (.readyToSpend status account passkey) answer
      (.before (.readyToSpend status account passkey)
        (.spendStep verified status.funderAddress passkey (.submitting prepared) true effect)
        mount [] storage [t])) := by
  have hagreed : Agreed env storage (.readyToSpend status account passkey) := .readyToSpend h hpasskey
  cases hreceipt : attempt (submitSpend env.url t answer) with
  | error e =>
      simp only [submitted, hreceipt]
      obtain ⟨message, hblocked⟩ := spendFailure_blocked prepared e
      rw [hblocked]
      exact later_failSpend h hpasskey hverified (Nat.le_refl [t].length) _ message _
  | ok r₀ =>
      -- the node answered with a hash: from here on the page shows its receipt
      obtain ⟨txHash, -, hr₀, hreadable⟩ := submitSpend_eq_ok (attempt_eq_ok.mp hreceipt)
      simp only [submitted, hreceipt, Page.setSpend, if_true]
      refine .receipted ⟨txHash, hr₀⟩ ?_
      obtain ⟨view, mount, postCommitError, reconciledCommit, tasks, heq, hshows, htasks⟩ :=
        @handleSpendReceipt_shows env storage (.before (.readyToSpend status account passkey)
          (.spendStep verified status.funderAddress passkey (.submitted prepared) true effect)
          mount [] storage [t]) _ r₀ hagreed hagreed hreadable r₀
      rw [heq]
      refine ⟨hreadable, hagreed, ⟨r₀, rfl, .refl r₀, hshows, ?_⟩, ?_, rfl⟩
      · intro hstatus
        rw [hr₀] at hstatus
        cases hstatus
      · intro task htask
        rcases List.mem_append.mp htask with htask | htask
        · exact htasks task htask
        · rw [List.mem_singleton.mp htask]
          exact .confirmation (.refl r₀) hagreed

end Spend

theorem singleton_split {x task : Task} {before after : List Task}
    (h : [x] = before ++ task :: after) : before = [] ∧ task = x ∧ after = [] := by
  cases before with
  | nil =>
      cases h
      exact ⟨rfl, rfl, rfl⟩
  | cons head tail =>
      have hlength := congrArg List.length h
      simp only [List.length_append, List.length_cons, List.length_nil] at hlength
      omega

theorem nil_split {task : Task} {before after : List Task}
    (h : [] = before ++ task :: after) : False := by
  cases before with
  | nil => cases h
  | cons head tail => cases h

/-- A promise after the account exists. -/
theorem Later.settle {page : Page} (h : Later env page) {before after : List Task} {task : Task}
    (htasks : page.tasks = before ++ task :: after) (answer : task.Answer) :
    Later env (settle env { page with tasks := before ++ after } task answer) := by
  cases h with
  | spending h hpasskey hverified hspend =>
      cases hspend with
      | preparing =>
          obtain ⟨rfl, rfl, rfl⟩ := singleton_split htasks
          exact later_prepared h hpasskey hverified answer
      | ready => exact (nil_split htasks).elim
      | authorizing =>
          obtain ⟨rfl, rfl, rfl⟩ := singleton_split htasks
          exact later_asserted h hpasskey hverified _ _ _ answer
      | submitting =>
          obtain ⟨rfl, rfl, rfl⟩ := singleton_split htasks
          exact later_submitted h hpasskey hverified _ _ answer
      | blocked _ => exact (nil_split htasks).elim
  | receipted hr₀ h => exact .receipted hr₀ (h.settle htasks answer)

/-- **A spend stays a spend**: no event leads back. -/
theorem Later.step {page page' : Page} {event : Event} (h : Later env page)
    (hstep : Step env page event page') : Later env page' := by
  cases hstep with
  | click button => exact h.click button
  | settle htasks answer => exact h.settle htasks answer

/-- **Every promise keeps the phase.** -/
theorem phase_settle {page : Page} (h : Phase env page) {before after : List Task} {task : Task}
    (htasks : page.tasks = before ++ task :: after) (answer : task.Answer) :
    Phase env (settle env { page with tasks := before ++ after } task answer) := by
  cases h with
  | loading hpasskey =>
      obtain ⟨rfl, rfl, rfl⟩ := singleton_split htasks
      exact phase_reported hpasskey (.inl rfl) _ _ answer
  | blocked => exact (nil_split htasks).elim
  | passkey _ => exact (nil_split htasks).elim
  | registering h =>
      obtain ⟨rfl, rfl, rfl⟩ := singleton_split htasks
      exact phase_registered h answer
  | account _ _ => exact (nil_split htasks).elim
  | bootstrapping h hpasskey =>
      obtain ⟨rfl, rfl, rfl⟩ := singleton_split htasks
      exact phase_bootstrapped h hpasskey answer
  | refreshing h hpasskey =>
      obtain ⟨rfl, rfl, rfl⟩ := singleton_split htasks
      refine phase_reported ?_ (.inr ⟨_, _, _, rfl⟩) _ _ answer
      rintro p ⟨⟩
      exact hpasskey
  | later h => exact .later (h.settle htasks answer)

/-- **Every event keeps the invariant.** -/
theorem phase_of_step {page page' : Page} {event : Event} (h : Phase env page)
    (hstep : Step env page event page') : Phase env page' := by
  cases hstep with
  | click button => exact phase_click h button
  | settle htasks answer => exact phase_settle h htasks answer

/-- **Every page that can be reached is in one of the phases.** -/
theorem phase_of_run {history : List (Page × Event)} {page : Page}
    (hrun : Run (Step env) (Page.start env storage) history page) : Phase env page :=
  hrun.invariant (phase_start env storage) fun _ _ _ h hstep => phase_of_step h hstep

end CkbWizard
