import CkbAccount.WizardPhaseProofs

/-! # Where a spend comes from

    What a page has sent, and what its receipt says, is traced to the events that brought it
    about: the chain the spend was prepared from, the assertion that made the transaction of it,
    the hash the node answered, the cell a confirmation was shown.

    * `settle_log`, `click_reviewing`: which events leave what is traced as it was;
    * `Phase.spending`, `Phase.confirming`: the page on which such a promise settles;
    * `log_of_step`: what one step adds to what was sent and shown;
    * `SentIn`, `AnsweredIn`, `DisplayedIn`: the events of a history;
    * `sentIn_of_run`, `answeredIn_of_run`, `displayedIn_of_run`: every run has them. -/

namespace CkbWizard

open RustOutcome Outcome StepRun CkbBrowserCodec CkbSchemas CkbSpend

variable {env : Setting} {storage : Option String}

/-! ## What a page remembers of a spend -/

/-- The receipt that a page holds, what it has sent and what its confirmations were shown. -/
def Page.log (page : Page) :
    Option TransactionReceipt × List Transaction × List (String × Cell) :=
  (page.internalReceipt, page.sent, page.changes)

/-- The promises whose ends leave nothing there. -/
def Task.silent : Task → Bool
  | .assertion _ _ _ _ _ _ | .submission _ _ _ _ | .confirmation _ _ _ _ | .check _ _ _ => false
  | _ => true

/-- Rendering is not remembered. -/
theorem render_log (page : Page) : (render env page).log = page.log := by
  rw [render.eq_def]
  split
  all_goals first | rfl | split
  all_goals rfl

/-- A readable receipt is remembered, and nothing else. -/
theorem handleSpendReceipt_log {r : TransactionReceipt} (hr : Readable env r)
    (seen : WizardState) (page : Page) :
    (handleSpendReceipt env seen r page).log = (some r, page.sent, page.changes) := by
  rw [Readable] at hr
  rw [handleSpendReceipt.eq_def]
  simp only [hr]
  split
  · split
    · exact render_log _
    · exact render_log _
  · exact render_log _

/-- Any receipt leaves what was sent and shown. -/
theorem handleSpendReceipt_log_snd (seen : WizardState) (r : TransactionReceipt) (page : Page) :
    (handleSpendReceipt env seen r page).log.2 = page.log.2 := by
  cases hr : receiptSchema env.url r with
  | none =>
      simp only [handleSpendReceipt, hr]
      exact congrArg Prod.snd (render_log _)
  | some r' => rw [handleSpendReceipt_log (readable_of_receiptSchema hr).2]; rfl

/-- Nor is the state of a step. -/
theorem setSpend_log (mount : Nat) (state : SpendState) (page : Page) :
    (page.setSpend mount state).log = page.log := by
  rw [Page.setSpend.eq_def]
  split
  · split
    · rfl
    · rfl
  · rfl

theorem releaseSpend_log (mount : Nat) (page : Page) :
    (page.releaseSpend mount).log = page.log := by
  rw [Page.releaseSpend.eq_def]
  split
  · split
    · rfl
    · rfl
  · rfl

theorem failSpend_log (mount : Nat) (state : SpendState) (page : Page) :
    (page.failSpend mount state).log = page.log :=
  (releaseSpend_log mount _).trans (setSpend_log mount state page)

theorem endCheck_log (mount : Nat) (failure : Option String) (page : Page) :
    (page.endCheck mount failure).log = page.log := by
  rw [Page.endCheck.eq_def]
  split
  · split
    · rfl
    · rfl
  · rfl

/-- Nor is a report of the account. -/
theorem reported_log (passkey : Option PasskeyRecord) (answer : Reported) (page : Page) :
    (page.reported env passkey answer).log = page.log := by
  rw [Page.reported.eq_def]
  split
  · exact render_log _
  · exact render_log _
  · exact render_log _

theorem rechecked_log (passkey : PasskeyRecord) (answer : Reported) (page : Page) :
    (page.rechecked env passkey answer).log = page.log := by
  rw [Page.rechecked.eq_def]
  split
  · split
    · exact render_log _
    · exact render_log _
  · exact render_log _

theorem endRegistration_log (mount : Nat) (state : PasskeyStepState) (page : Page) :
    (page.endRegistration mount state).log = page.log := by
  rw [Page.endRegistration.eq_def]
  split
  · split
    · rfl
    · rfl
  · rfl

/-- Nor is a registration. -/
theorem registered_log (mount : Nat) (seen : WizardState)
    (answer : Except RegistrationFailure (Json × Bool)) (page : Page) :
    (registered env mount seen answer page).log = page.log := by
  rw [registered.eq_def]
  split
  · exact endRegistration_log _ _ _
  · exact endRegistration_log _ _ _
  · exact endRegistration_log _ _ _
  · split
    · exact endRegistration_log _ _ _
    · split
      · exact endRegistration_log _ _ _
      · rename_i text _
        have hend (record : PasskeyRecord) :
            ({ page with storage := some text }.endRegistration mount (.success record)).log
              = page.log := endRegistration_log _ _ _
        rw [handlePasskeyCreated.eq_def]
        split
        · exact (render_log _).trans (hend _)
        · exact hend _

theorem endBootstrap_log (mount : Nat) (state : BootstrapStepState) (page : Page) :
    (page.endBootstrap mount state).log = page.log := by
  rw [Page.endBootstrap.eq_def]
  split
  · split
    · rfl
    · rfl
  · rfl

/-- Nor is a bootstrap. -/
theorem bootstrapped_log (mount : Nat) (status : DemoStatus) (seen : WizardState)
    (answer : Except ApiFailure AccountManifest) (page : Page) :
    (bootstrapped env mount status seen answer page).log = page.log := by
  rw [bootstrapped.eq_def]
  dsimp only
  split
  · exact endBootstrap_log _ _ _
  · split
    · rw [handleAccountCreated.eq_def]
      split
      · exact endBootstrap_log mount _ page
      · exact endBootstrap_log _ _ _
    · exact endBootstrap_log _ _ _

/-- Nor is a preparation. -/
theorem prepared_log (mount effect : Nat) (result : Outcome JsError PreparedSpend) (page : Page) :
    (page.prepared mount effect result).log = page.log := by
  rw [Page.prepared.eq_def]
  split
  · split
    · exact setSpend_log _ _ _
    · rfl
  · rfl

/-- **An assertion leaves everything as it was, or sends the spend finalized with it.** -/
theorem asserted_log (mount : Nat) (prepared : PreparedSpend) (rawHash digest : String)
    (passkey : PasskeyRecord) (seen : WizardState) (answer : Except Refusal AssertionMaterial)
    (page : Page) :
    (asserted env mount prepared rawHash digest passkey seen answer page).log = page.log
      ∨ ∃ assertion t, answer = .ok assertion
        ∧ finalizeSpend env.ccc env.datetime env.parseClientData prepared passkey.toJson assertion
          = .ok t
        ∧ (asserted env mount prepared rawHash digest passkey seen answer page).log
          = (page.internalReceipt, page.sent ++ [t], page.changes) := by
  rw [asserted.eq_def]
  cases answer with
  | error e =>
      cases e with
      | cancelled => exact .inl (failSpend_log _ _ _)
      | threw e => exact .inl (failSpend_log _ _ _)
  | ok assertion =>
      cases hhash : env.ccc.transactionHash prepared.transaction with
      | none => exact .inl (failSpend_log _ _ _)
      | some hash =>
          -- the page rechecks what the user reviewed before it finalizes
          by_cases hchanged : hash ≠ rawHash ∨ hexFromBytes prepared.authorizationDigest ≠ digest
          · simp only [if_pos hchanged]
            exact .inl (failSpend_log _ _ _)
          · simp only [if_neg hchanged]
            cases hfinalized : attempt (finalizeSpend env.ccc env.datetime env.parseClientData
                prepared passkey.toJson assertion) with
            | error e => exact .inl (failSpend_log _ _ _)
            | ok t =>
                have hset := setSpend_log mount (.submitting prepared) page
                simp only [Page.log, Prod.mk.injEq] at hset
                dsimp only
                split
                · -- the branch that broadcasts: the finalized transaction joins the history
                  refine .inr ⟨assertion, t, rfl, attempt_eq_ok.mp hfinalized, ?_⟩
                  simp only [Page.log, hset.1, hset.2.1, hset.2.2]
                · exact .inl ((failSpend_log _ _ _).trans (setSpend_log _ _ _))

/-- **The answer of the node leaves everything as it was, or is the hash of the receipt.** -/
theorem submitted_log (mount : Nat) (prepared : PreparedSpend) (t : Transaction)
    (seen : WizardState) (answer : Outcome JsError String) (page : Page) :
    (submitted env mount prepared t seen answer page).log = page.log
      ∨ ∃ txHash, answer = .ok txHash
        ∧ (submitted env mount prepared t seen answer page).log
          = (some (receiptOf t txHash), page.sent, page.changes) := by
  rw [submitted.eq_def]
  cases hreceipt : attempt (submitSpend env.url t answer) with
  | error e => exact .inl (failSpend_log _ _ _)
  | ok r =>
      obtain ⟨txHash, hanswer, rfl, hr⟩ := submitSpend_eq_ok (attempt_eq_ok.mp hreceipt)
      have hset := setSpend_log mount (.submitted prepared) page
      simp only [Page.log, Prod.mk.injEq] at hset
      refine .inr ⟨txHash, hanswer, (handleSpendReceipt_log hr seen _).trans ?_⟩
      rw [hset.2.1, hset.2.2]

/-- A live cell that a confirmation is shown is remembered under the hash it asked for. -/
theorem observe_log_snd (r : TransactionReceipt) (wait : Wait)
    (live : Outcome JsError (Option Cell)) (page : Page) :
    (page.observe r wait live).log.2 = page.log.2
      ∨ ∃ cell, wait = .response ∧ live = .ok (some cell)
        ∧ (page.observe r wait live).log.2 = (page.sent, page.changes ++ [(r.txHash, cell)]) := by
  rw [Page.observe.eq_def]
  split
  · rename_i cell
    exact .inr ⟨cell, rfl, rfl, rfl⟩
  · exact .inl rfl

/-- A confirmation sends nothing, and adds to the changes only what it was shown. -/
theorem confirmed_log_snd (mount : Nat) (prepared : PreparedSpend) (r : TransactionReceipt)
    (seen : WizardState) (wait : Wait) (live : Outcome JsError (Option Cell)) (page : Page) :
    (confirmed env mount prepared r seen wait live page).log.2
      = (page.observe r wait live).log.2 := by
  rw [confirmed.eq_def]
  dsimp only
  split
  · exact congrArg Prod.snd (failSpend_log _ _ _)
  · exact (congrArg Prod.snd (releaseSpend_log _ _)).trans (handleSpendReceipt_log_snd _ _ _)

/-- A check sends nothing either. -/
theorem checked_log_snd (mount : Nat) (r : TransactionReceipt) (seen : WizardState) (wait : Wait)
    (live : Outcome JsError (Option Cell)) (page : Page) :
    (checked env mount r seen wait live page).log.2 = (page.observe r wait live).log.2 := by
  rw [checked.eq_def]
  dsimp only
  split
  · exact congrArg Prod.snd (endCheck_log _ _ _)
  · exact (congrArg Prod.snd (endCheck_log _ _ _)).trans (handleSpendReceipt_log_snd _ _ _)

/-- **No button is remembered.** -/
theorem click_log (page : Page) (button : Button) : (click env page button).log = page.log := by
  cases button with
  | createPasskey =>
      rw [click, createPasskey.eq_def]
      split
      all_goals first | rfl | split
      all_goals rfl
  | createAccount =>
      rw [click, createAccount.eq_def]
      split
      all_goals rfl
  | authorize =>
      rw [click, authorize.eq_def]
      split
      · split
        · rfl
        · rfl
      · rfl
  | checkAgain =>
      rw [click, checkAgain.eq_def]
      split
      · split
        · rfl
        · split
          · rfl
          · rfl
      · rfl

/-- **No other promise is remembered.** -/
theorem settle_log {task : Task} (h : task.silent = true) (answer : task.Answer) (page : Page) :
    (settle env page task answer).log = page.log := by
  cases task with
  | load passkey => exact reported_log _ _ _
  | refresh passkey => exact reported_log _ _ _
  | recheck passkey => exact rechecked_log _ _ _
  | registration mount seen => exact registered_log _ _ _ _
  | bootstrap mount status passkey seen => exact bootstrapped_log _ _ _ _ _
  | preparation mount effect account funderAddress passkey => exact prepared_log _ _ _ _
  | submission _ _ _ _ => cases h
  | assertion _ _ _ _ _ _ => cases h
  | confirmation _ _ _ _ => cases h
  | check _ _ _ => cases h

/-! ## What is under review -/

/-- The spend that `SpendStep` asks to be authorized, with the props it was prepared from. -/
def View.reviewing : View → Option (VerifiedAccount × String × PasskeyRecord × PreparedSpend)
  | .spendStep account funderAddress passkey (.ready prepared _) _ _
  | .spendStep account funderAddress passkey (.authorizing prepared) _ _ =>
      some (account, funderAddress, passkey, prepared)
  | _ => none

/-- What is rendered again is prepared again. -/
theorem render_reviewing (page : Page) : (render env page).view.reviewing = none := by
  rw [render.eq_def]
  split
  all_goals try rfl
  · rename_i hview
    rw [hview]
    rfl
  · split
    all_goals rfl

theorem handleSpendReceipt_reviewing (seen : WizardState) (r : TransactionReceipt) (page : Page) :
    (handleSpendReceipt env seen r page).view.reviewing = none := by
  rw [handleSpendReceipt.eq_def]
  split
  · exact render_reviewing _
  · dsimp only
    split
    · split
      · exact render_reviewing _
      · exact render_reviewing _
    · exact render_reviewing _

section Kept

variable {x : VerifiedAccount × String × PasskeyRecord × PreparedSpend} {page : Page}

/-- **No button puts a spend under review.** -/
theorem click_reviewing {button : Button}
    (h : (click env page button).view.reviewing = some x) : page.view.reviewing = some x := by
  cases button with
  | createPasskey =>
      rw [click, createPasskey.eq_def] at h
      split at h
      · exact h
      · exact h
      · exact h
      · split at h
        · exact h
        · cases h
      · exact h
  | createAccount =>
      rw [click, createAccount.eq_def] at h
      split at h
      · exact h
      · exact h
      · exact h
      · cases h
      · exact h
  | authorize =>
      rw [click, authorize.eq_def] at h
      split at h
      · rename_i hview
        rw [hview]
        split at h
        · exact h
        · exact h
      · exact h
  | checkAgain =>
      -- a receipt under review is no spend under review
      rw [click, checkAgain.eq_def] at h
      split at h
      · split at h
        · exact h
        · split at h
          · exact h
          · cases h
      · exact h

theorem endRegistration_reviewing {mount : Nat} {state : PasskeyStepState}
    (h : (page.endRegistration mount state).view.reviewing = some x) :
    page.view.reviewing = some x := by
  rw [Page.endRegistration.eq_def] at h
  split at h
  · split at h
    · cases h
    · exact h
  · exact h

theorem endBootstrap_reviewing {mount : Nat} {state : BootstrapStepState}
    (h : (page.endBootstrap mount state).view.reviewing = some x) :
    page.view.reviewing = some x := by
  rw [Page.endBootstrap.eq_def] at h
  split at h
  · split at h
    · cases h
    · exact h
  · exact h

/-- A state without a review can only end one. -/
theorem setSpend_reviewing {mount : Nat} {state : SpendState}
    (hstate : ∀ account funderAddress passkey lock effect,
      (View.spendStep account funderAddress passkey state lock effect).reviewing = none)
    (h : (page.setSpend mount state).view.reviewing = some x) : page.view.reviewing = some x := by
  rw [Page.setSpend.eq_def] at h
  split at h
  · split at h
    · rw [hstate] at h
      cases h
    · exact h
  · exact h

/-- Releasing the lock puts nothing under review. -/
theorem releaseSpend_reviewing {mount : Nat}
    (h : (page.releaseSpend mount).view.reviewing = some x) : page.view.reviewing = some x := by
  rw [Page.releaseSpend.eq_def] at h
  split at h
  · rename_i state _ _ hview
    rw [hview]
    split at h
    · cases state with
      | ready prepared notice => exact h
      | authorizing prepared => exact h
      | _ => cases h
    · rw [hview] at h
      exact h
  · exact h

/-- A failure puts nothing under review. -/
theorem spendFailure_reviewing {mount : Nat} {prepared : PreparedSpend} {e : JsError}
    (h : (page.failSpend mount (spendFailure prepared e)).view.reviewing = some x) :
    page.view.reviewing = some x := by
  obtain ⟨message, hblocked⟩ := spendFailure_blocked prepared e
  rw [hblocked] at h
  exact setSpend_reviewing (fun _ _ _ _ _ => rfl) (releaseSpend_reviewing h)

theorem endCheck_reviewing {mount : Nat} {failure : Option String}
    (h : (page.endCheck mount failure).view.reviewing = some x) : page.view.reviewing = some x := by
  rw [Page.endCheck.eq_def] at h
  split at h
  · split at h
    · cases h
    · exact h
  · exact h

/-- Remembering a cell changes nothing on the screen. -/
theorem observe_view (r : TransactionReceipt) (wait : Wait) (live : Outcome JsError (Option Cell))
    (page : Page) : (page.observe r wait live).view = page.view := by
  obtain ⟨shown, heq, -⟩ := observe_eq page r wait live
  rw [heq]

/-- **An assertion leaves its spend under review, or ends the review.** -/
theorem asserted_reviewing {mount : Nat} {prepared : PreparedSpend} {rawHash digest : String}
    {passkey : PasskeyRecord} {seen : WizardState} {answer : Except Refusal AssertionMaterial}
    {verified : VerifiedAccount} {funderAddress : String} {lock : Bool} {effect : Nat}
    (hview : page.view = .spendStep verified funderAddress passkey (.authorizing prepared) lock effect)
    (h : (asserted env mount prepared rawHash digest passkey seen answer page).view.reviewing
      = some x) : page.view.reviewing = some x := by
  -- back at the review: the old details are shown again, nothing new is
  have hready (notice : Option String)
      (h : (page.failSpend mount (.ready prepared notice)).view.reviewing = some x) :
      page.view.reviewing = some x := by
    have hset := releaseSpend_reviewing h
    simp only [Page.setSpend, hview] at hset
    rw [hview]
    split at hset
    · exact hset
    · rw [hview] at hset
      exact hset
  rw [asserted.eq_def] at h
  cases answer with
  | error e =>
      cases e with
      | cancelled => exact hready _ h
      | threw e => exact spendFailure_reviewing h
  | ok assertion =>
      cases hhash : env.ccc.transactionHash prepared.transaction with
      | none =>
          simp only [hhash] at h
          exact spendFailure_reviewing h
      | some hash =>
          simp only [hhash] at h
          split at h
          · exact setSpend_reviewing (fun _ _ _ _ _ => rfl) (releaseSpend_reviewing h)
          · split at h
            · exact spendFailure_reviewing h
            · split at h
              · exact setSpend_reviewing (fun _ _ _ _ _ => rfl) h
              · exact setSpend_reviewing (fun _ _ _ _ _ => rfl) (spendFailure_reviewing h)

/-- The promises that neither prepare a spend nor have it asserted. -/
def Task.aside : Task → Bool
  | .preparation _ _ _ _ _ | .assertion _ _ _ _ _ _ => false
  | _ => true

/-- **Only the end of a preparation puts a spend under review.** -/
theorem settle_reviewing {task : Task} (htask : task.aside = true) {answer : task.Answer}
    (h : (settle env page task answer).view.reviewing = some x) : page.view.reviewing = some x := by
  -- every page that such a task leads to is rendered anew, or keeps what it shows
  have hnone (q : Page) (h : (render env q).view.reviewing = some x) :
      page.view.reviewing = some x := by
    rw [render_reviewing] at h
    cases h
  have hreported (passkey : Option PasskeyRecord) (answer : Reported)
      (h : (page.reported env passkey answer).view.reviewing = some x) :
      page.view.reviewing = some x := by
    rw [Page.reported.eq_def] at h
    split at h
    all_goals exact hnone _ h
  have hreceipt (seen : WizardState) (r : TransactionReceipt) (q : Page)
      (h : (handleSpendReceipt env seen r q).view.reviewing = some x) :
      page.view.reviewing = some x := by
    rw [handleSpendReceipt_reviewing] at h
    cases h
  -- one case for each promise but the two that the spend step waits for
  cases task with
  | load passkey => exact hreported _ _ h
  | refresh passkey => exact hreported _ _ h
  | recheck passkey =>
      rw [settle, Page.rechecked.eq_def] at h
      split at h
      · split at h
        · exact hnone _ h
        · exact hnone _ h
      · exact hnone _ h
  | registration mount seen =>
      rw [settle, registered.eq_def] at h
      split at h
      · exact endRegistration_reviewing h
      · exact endRegistration_reviewing h
      · exact endRegistration_reviewing h
      · split at h
        · exact endRegistration_reviewing h
        · split at h
          · exact endRegistration_reviewing h
          · rw [handlePasskeyCreated.eq_def] at h
            split at h
            · exact hnone _ h
            · have hend := endRegistration_reviewing h
              exact hend
  | bootstrap mount status passkey seen =>
      rw [settle, bootstrapped.eq_def] at h
      dsimp only at h
      split at h
      · exact endBootstrap_reviewing h
      · split at h
        · rw [handleAccountCreated.eq_def] at h
          split at h
          · have hend := endBootstrap_reviewing h
            exact hend
          · exact endBootstrap_reviewing h
        · exact endBootstrap_reviewing h
  | submission mount prepared t seen =>
      rw [settle, submitted.eq_def] at h
      split at h
      · exact spendFailure_reviewing h
      · exact hreceipt _ _ _ h
  | confirmation mount prepared r seen =>
      rw [settle, confirmed.eq_def] at h
      dsimp only at h
      split at h
      · have hview := spendFailure_reviewing h
        rw [observe_view] at hview
        exact hview
      · exact hreceipt _ _ _ (releaseSpend_reviewing h)
  | check mount r seen =>
      rw [settle, checked.eq_def] at h
      dsimp only at h
      split at h
      · have hview := endCheck_reviewing h
        rw [observe_view] at hview
        exact hview
      · exact hreceipt _ _ _ (endCheck_reviewing h)
  | preparation _ _ _ _ _ => cases htask
  | assertion _ _ _ _ _ _ => cases htask

end Kept

/-! ## The page on which a promise settles -/

/-- The promises of `SpendStep` before there is a receipt. -/
def Task.spends : Task → Bool
  | .preparation _ _ _ _ _ | .assertion _ _ _ _ _ _ | .submission _ _ _ _ => true
  | _ => false

/-- The promises behind a receipt. -/
def Task.confirms : Task → Bool
  | .confirmation _ _ _ _ | .check _ _ _ => true
  | _ => false

/-- **Such a promise settles on the page it was made by**, and is the only one. -/
theorem Phase.spending {page : Page} {task : Task} (h : Phase env page) (hmem : task ∈ page.tasks)
    (htask : task.spends = true) :
    ∃ status account passkey verified state lock mount effect storage sent,
      page = .before (.readyToSpend status account passkey)
        (.spendStep verified status.funderAddress passkey state lock effect) mount [task] storage
        sent
      ∧ Checked env status (some account) ∧ Held env storage passkey
      ∧ verifiedAccount env status account = .ok verified
      ∧ Spending (.readyToSpend status account passkey) verified status.funderAddress passkey mount
          effect state lock [task] sent := by
  cases h with
  | later h =>
      cases h with
      | receipted _ h => cases h.tasks task hmem <;> cases htask
      | @spending _ _ _ _ _ _ _ _ _ tasks _ h hpasskey hverified hspend =>
          have hone : tasks = [task] := by
            cases hspend with
            | ready => cases hmem
            | blocked _ => cases hmem
            | _ => rw [List.mem_singleton.mp hmem]
          subst hone
          exact ⟨_, _, _, _, _, _, _, _, _, _, rfl, h, hpasskey, hverified, hspend⟩
  | blocked => cases hmem
  | passkey _ => cases hmem
  | account _ _ => cases hmem
  | _ =>
      rw [List.mem_singleton.mp hmem] at htask
      cases htask

/-- A confirmation settles on a page with a receipt. -/
theorem Phase.confirming {page : Page} {task : Task} (h : Phase env page) (hmem : task ∈ page.tasks)
    (htask : task.confirms = true) : ∃ r₀ t, Receipted env r₀ t page := by
  cases h with
  | later h =>
      cases h with
      | receipted _ h => exact ⟨_, _, h⟩
      | spending h hpasskey hverified hspend =>
          cases hspend with
          | ready => cases hmem
          | blocked _ => cases hmem
          | _ =>
              rw [List.mem_singleton.mp hmem] at htask
              cases htask
  | blocked => cases hmem
  | passkey _ => cases hmem
  | account _ _ => cases hmem
  | _ =>
      rw [List.mem_singleton.mp hmem] at htask
      cases htask

/-! ## The events of a spend -/

/-- A preparation ended with this spend, for these props. -/
inductive Prepares (env : Setting) (verified : VerifiedAccount) (funderAddress : String)
    (passkey : PasskeyRecord) (prepared : PreparedSpend) : Event → Prop
  | preparation {mount effect : Nat} {client : SpendClient}
      (h : prepareSpend env.ccc env.datetime client verified funderAddress passkey.toJson
        = .ok prepared) :
      Prepares env verified funderAddress passkey prepared
        (.settled (.preparation mount effect verified funderAddress passkey) client)

/-- The page that sends: an account that it has checked and the passkey of this browser, with the
    spend that it had authorized. -/
structure Sender (env : Setting) (page : Page) (status : DemoStatus) (account : AccountManifest)
    (passkey : PasskeyRecord) (verified : VerifiedAccount) (prepared : PreparedSpend) : Prop where
  state : page.state = .readyToSpend status account passkey
  view : ∃ lock effect, page.view
    = .spendStep verified status.funderAddress passkey (.authorizing prepared) lock effect
  checked : Checked env status (some account)
  held : Held env page.storage passkey
  verified_eq : verifiedAccount env status account = .ok verified
  sent : page.sent = []

/-- An assertion came that finalized the spend to `t`. -/
inductive Finalizes (env : Setting) (t : Transaction) (passkey : PasskeyRecord)
    (prepared : PreparedSpend) : Event → Prop
  | assertion {mount : Nat} {rawHash digest : String} {seen : WizardState}
      {assertion : AssertionMaterial}
      (h : finalizeSpend env.ccc env.datetime env.parseClientData prepared passkey.toJson assertion
        = .ok t) :
      Finalizes env t passkey prepared
        (.settled (.assertion mount prepared rawHash digest passkey seen) (.ok assertion))

/-- The node answered the submission of `t` with this hash. -/
inductive Answers (t : Transaction) (txHash : String) : Event → Prop
  | submission {mount : Nat} {prepared : PreparedSpend} {seen : WizardState} :
      Answers t txHash (.settled (.submission mount prepared t seen) (.ok txHash))

/-- A confirmation of this hash was shown this live cell. -/
inductive Displays (txHash : String) (cell : Cell) : Event → Prop
  | confirmation {mount : Nat} {prepared : PreparedSpend} {r : TransactionReceipt}
      {seen : WizardState} (h : r.txHash = txHash) :
      Displays txHash cell
        (.settled (.confirmation mount prepared r seen) (.response, .ok (some cell)))
  | check {mount : Nat} {r : TransactionReceipt} {seen : WizardState} (h : r.txHash = txHash) :
      Displays txHash cell (.settled (.check mount r seen) (.response, .ok (some cell)))

section Steps

variable {page page' : Page} {event : Event}

/-- **A spend comes under review by its preparation.** -/
theorem reviewing_of_step {verified : VerifiedAccount} {funderAddress : String}
    {passkey : PasskeyRecord} {prepared : PreparedSpend} (h : Phase env page)
    (hstep : Step env page event page')
    (hview : page'.view.reviewing = some (verified, funderAddress, passkey, prepared)) :
    page.view.reviewing = some (verified, funderAddress, passkey, prepared)
      ∨ Prepares env verified funderAddress passkey prepared event := by
  cases hstep with
  | click button => exact .inl (click_reviewing hview)
  | @settle before after task htasks answer =>
      have hmem : task ∈ page.tasks := by simp [htasks]
      obtain ⟨rest, hrest⟩ : ∃ rest : Page, rest = { page with tasks := before ++ after } := ⟨_, rfl⟩
      have hsame : rest.view = page.view := by rw [hrest]
      rw [← hrest] at hview
      cases task with
      | preparation mount effect account funder record =>
          obtain ⟨status, manifest, record', verified', state, lock, mount', effect', storage, sent,
            rfl, -, -, -, hspend⟩ := h.spending hmem rfl
          cases hspend
          rw [hrest] at hview
          cases hprepared : attempt (prepareSpend env.ccc env.datetime answer account
              status.funderAddress record.toJson) with
          | error e =>
              -- a refused preparation shows no review
              simp only [settle, Page.prepared, hprepared, if_true, Page.setSpend] at hview
              cases hview
          | ok p =>
              simp only [settle, Page.prepared, hprepared, if_true, Page.setSpend] at hview
              cases hview
              -- the review on screen is the one this preparation built
              exact .inr (.preparation (attempt_eq_ok.mp hprepared))
      | assertion mount p rawHash digest record seen =>
          obtain ⟨status, manifest, record', verified', state, lock, mount', effect', storage, sent,
            rfl, -, -, -, hspend⟩ := h.spending hmem rfl
          cases hspend
          rw [← hsame]
          exact .inl (asserted_reviewing hsame hview)
      | _ =>
          rw [← hsame]
          exact .inl (settle_reviewing rfl hview)

/-- **What one step adds to what was sent and shown**: nothing, the transaction finalized with an
    assertion, or the live cell that a confirmation was shown. -/
theorem log_of_step (hstep : Step env page event page') :
    page'.log.2 = page.log.2
      ∨ (∃ passkey prepared t, Finalizes env t passkey prepared event
        ∧ page'.log.2 = (page.sent ++ [t], page.changes))
      ∨ ∃ txHash cell, Displays txHash cell event
        ∧ page'.log.2 = (page.sent, page.changes ++ [(txHash, cell)]) := by
  cases hstep with
  | click button => exact .inl (congrArg Prod.snd (click_log _ _))
  | @settle before after task htasks answer =>
      cases task with
      | assertion mount prepared rawHash digest passkey seen =>
          rcases @asserted_log env mount prepared rawHash digest passkey seen answer
              { page with tasks := before ++ after } with hlog | ⟨assertion, t, rfl, hfinal, hlog⟩
          · exact .inl (congrArg Prod.snd hlog)
          · exact .inr (.inl ⟨passkey, prepared, t, .assertion hfinal, congrArg Prod.snd hlog⟩)
      | submission mount prepared t seen =>
          -- the answer of the node brings a receipt, and adds to neither list
          rcases @submitted_log env mount prepared t seen answer { page with tasks := before ++ after }
            with hlog | ⟨_, -, hlog⟩
          · exact .inl (congrArg Prod.snd hlog)
          · exact .inl (congrArg (fun log => log.2) hlog)
      | confirmation mount prepared r seen =>
          obtain ⟨wait, live⟩ := answer
          have hlog := @confirmed_log_snd env mount prepared r seen wait live
            { page with tasks := before ++ after }
          rcases observe_log_snd r wait live { page with tasks := before ++ after } with
            hshown | ⟨cell, rfl, rfl, hshown⟩
          · exact .inl (hlog.trans hshown)
          · exact .inr (.inr ⟨r.txHash, cell, .confirmation rfl, hlog.trans hshown⟩)
      | check mount r seen =>
          obtain ⟨wait, live⟩ := answer
          have hlog := @checked_log_snd env mount r seen wait live
            { page with tasks := before ++ after }
          rcases observe_log_snd r wait live { page with tasks := before ++ after } with
            hshown | ⟨cell, rfl, rfl, hshown⟩
          · exact .inl (hlog.trans hshown)
          · exact .inr (.inr ⟨r.txHash, cell, .check rfl, hlog.trans hshown⟩)
      | _ => exact .inl (congrArg Prod.snd (settle_log rfl answer _))

/-- **What is sent is finalized from the spend under review**, for the account and the passkey of
    the page. -/
theorem sent_of_step {t : Transaction} (h : Phase env page) (hstep : Step env page event page')
    (ht : t ∈ page'.sent) :
    t ∈ page.sent ∨ ∃ status account passkey verified prepared,
      Sender env page status account passkey verified prepared
        ∧ Finalizes env t passkey prepared event := by
  have hkept (hlog : page'.log.2.1 = page.log.2.1) : t ∈ page.sent := by
    have hsent : page'.sent = page.sent := hlog
    rw [← hsent]
    exact ht
  rcases log_of_step hstep with hlog | ⟨passkey, prepared, t', hfinal, hlog⟩ | ⟨_, _, -, hlog⟩
  · exact .inl (hkept (congrArg (fun log => log.1) hlog))
  · have hsent : page'.sent = page.sent ++ [t'] := congrArg (fun log => log.1) hlog
    rw [hsent] at ht
    rcases List.mem_append.mp ht with ht | ht
    · exact .inl ht
    · cases List.mem_singleton.mp ht
      cases hfinal with
      | @assertion mount rawHash digest seen assertion hfinalized =>
          cases hstep with
          | settle htasks _ =>
              have hmem : .assertion mount prepared rawHash digest passkey seen ∈ page.tasks := by
                simp [htasks]
              -- the phase says whose approval the pending assertion is
              obtain ⟨status, account, passkey', verified, state, lock, mount', effect, storage, sent,
                rfl, hchecked, hheld, hverified, hspend⟩ := h.spending hmem rfl
              cases hspend
              exact .inr ⟨status, account, passkey, verified, prepared,
                ⟨rfl, ⟨_, _, rfl⟩, hchecked, hheld, hverified, rfl⟩, .assertion hfinalized⟩
  · exact .inl (hkept (congrArg (fun log => log.1) hlog))

/-- What was sent stays sent. -/
theorem mem_sent_of_step {t : Transaction} (hstep : Step env page event page')
    (ht : t ∈ page.sent) : t ∈ page'.sent := by
  rcases log_of_step hstep with hlog | ⟨_, _, t', -, hlog⟩ | ⟨_, _, -, hlog⟩
  · exact (congrArg (fun log => t ∈ log.1) hlog).mpr ht
  · exact (congrArg (fun log => t ∈ log.1) hlog).mpr (List.mem_append_left [t'] ht)
  · exact (congrArg (fun log => t ∈ log.1) hlog).mpr ht

/-- **A receipt comes with the hash that the node answered.** -/
theorem receipt_of_step {t : Transaction} {txHash : String} (h : Phase env page)
    (hstep : Step env page event page')
    (hreceipt : t ∈ page'.sent
      ∧ ∃ r, page'.internalReceipt = some r ∧ SameSpend r (receiptOf t txHash)) :
    (t ∈ page.sent ∧ ∃ r, page.internalReceipt = some r ∧ SameSpend r (receiptOf t txHash))
      ∨ Answers t txHash event := by
  have hkept (hlog : page'.log = page.log) :
      t ∈ page.sent ∧ ∃ r, page.internalReceipt = some r ∧ SameSpend r (receiptOf t txHash) := by
    simp only [Page.log, Prod.mk.injEq] at hlog
    rw [← hlog.1, ← hlog.2.1]
    exact hreceipt
  obtain ⟨ht, r, hr, hsame⟩ := hreceipt
  cases hstep with
  | click button => exact .inl (hkept (click_log _ _))
  | @settle before after task htasks answer =>
      have hmem : task ∈ page.tasks := by simp [htasks]
      have hconfirm (r₀ : TransactionReceipt) (t₀ : Transaction) (h : Receipted env r₀ t₀ page) :
          t ∈ page.sent ∧ ∃ r, page.internalReceipt = some r
            ∧ SameSpend r (receiptOf t txHash) := by
        have h' := h.settle htasks answer
        obtain ⟨r₁, hr₁, hsame₁, -⟩ := h.receipt
        obtain ⟨r₂, hr₂, hsame₂, -⟩ := h'.receipt
        cases hr.symm.trans hr₂
        refine ⟨?_, r₁, hr₁, hsame₁.trans (hsame₂.symm.trans hsame)⟩
        rw [h.sent]
        rw [h'.sent] at ht
        exact ht
      cases task with
      | assertion mount prepared rawHash digest passkey seen =>
          obtain ⟨status, account, passkey', verified, state, lock, mount', effect, storage, sent,
            rfl, -, -, -, hspend⟩ := h.spending hmem rfl
          cases hspend
          -- a page that sends has no receipt yet, and none after it
          rcases @asserted_log env mount prepared rawHash digest passkey
              (.readyToSpend status account passkey) answer _ with hlog | ⟨_, _, -, -, hlog⟩
          · cases hr.symm.trans (congrArg (fun log => log.1) hlog)
          · cases hr.symm.trans (congrArg (fun log => log.1) hlog)
      | submission mount prepared t' seen =>
          obtain ⟨status, account, passkey', verified, state, lock, mount', effect, storage, sent,
            rfl, -, -, -, hspend⟩ := h.spending hmem rfl
          cases hspend
          rcases @submitted_log env mount prepared t' (.readyToSpend status account passkey') answer _
            with hlog | ⟨txHash', rfl, hlog⟩
          · cases hr.symm.trans (congrArg (fun log => log.1) hlog)
          · have hsent : t ∈ [t'] := (congrArg (fun log => t ∈ log.2.1) hlog).mp ht
            cases List.mem_singleton.mp hsent
            cases hr.symm.trans (congrArg (fun log => log.1) hlog)
            have hhash : txHash' = txHash := congrArg TransactionReceipt.txHash hsame
            subst hhash
            exact .inr .submission
      | confirmation mount prepared r seen =>
          obtain ⟨r₀, t₀, hreceipted⟩ := h.confirming hmem rfl
          exact .inl (hconfirm r₀ t₀ hreceipted)
      | check mount r seen =>
          obtain ⟨r₀, t₀, hreceipted⟩ := h.confirming hmem rfl
          exact .inl (hconfirm r₀ t₀ hreceipted)
      | _ => exact .inl (hkept (settle_log rfl answer _))

/-- **A cell is remembered when a confirmation is shown it.** -/
theorem changes_of_step {txHash : String} {cell : Cell} (hstep : Step env page event page')
    (hmem : (txHash, cell) ∈ page'.changes) :
    (txHash, cell) ∈ page.changes ∨ Displays txHash cell event := by
  rcases log_of_step hstep with hlog | ⟨_, _, _, -, hlog⟩ | ⟨txHash', cell', hdisplays, hlog⟩
  · exact .inl ((congrArg (fun log => (txHash, cell) ∈ log.2) hlog).mp hmem)
  · exact .inl ((congrArg (fun log => (txHash, cell) ∈ log.2) hlog).mp hmem)
  · rcases List.mem_append.mp ((congrArg (fun log => (txHash, cell) ∈ log.2) hlog).mp hmem) with
      hmem | hmem
    · exact .inl hmem
    · cases List.mem_singleton.mp hmem
      exact .inr hdisplays

end Steps

/-! ## Whole runs -/

/-- `t` was sent by a page of the history with an account it had checked and its own passkey: it
    was finalized from the spend that an earlier event had prepared for them. -/
def SentIn (env : Setting) (history : List (Page × Event)) (t : Transaction) : Prop :=
  ∃ before page event after status account passkey verified prepared,
    history = before ++ (page, event) :: after
      ∧ Sender env page status account passkey verified prepared
      ∧ Finalizes env t passkey prepared event
      ∧ ∃ e ∈ before, Prepares env verified status.funderAddress passkey prepared e.2

/-- The node answered the submission of `t` with this hash. -/
def AnsweredIn (history : List (Page × Event)) (t : Transaction) (txHash : String) : Prop :=
  ∃ e ∈ history, Answers t txHash e.2

/-- A confirmation of this hash was shown this live cell. -/
def DisplayedIn (history : List (Page × Event)) (txHash : String) (cell : Cell) : Prop :=
  ∃ e ∈ history, Displays txHash cell e.2

section Runs

variable {history : List (Page × Event)} {page : Page}

/-- **Whatever is sent was prepared, authorized and finalized** on the page that sent it. -/
theorem sentIn_of_run (hrun : Run (Step env) (Page.start env storage) history page)
    {t : Transaction} (ht : t ∈ page.sent) : SentIn env history t := by
  have hphases := hrun.restrict (phase_start env storage) fun _ _ _ h hstep => phase_of_step h hstep
  obtain ⟨before, ⟨p, event⟩, after, hhistory, hbefore, status, account, passkey, verified, prepared,
    hsender, hfinalizes⟩ := hphases.traced (P := fun p => t ∈ p.sent) List.not_mem_nil
      (fun _ _ _ hstep ht => sent_of_step hstep.1 hstep.2 ht) ht
  obtain ⟨lock, effect, hview⟩ := hsender.view
  have hreviewing : p.view.reviewing
      = some (verified, status.funderAddress, passkey, prepared) := by rw [hview]; rfl
  -- what the page had authorized was put under review by an earlier event
  obtain ⟨first, e, rest, rfl, -, hprepares⟩ := hbefore.traced
    (P := fun p => p.view.reviewing = some (verified, status.funderAddress, passkey, prepared))
    (fun h => by cases h) (fun _ _ _ hstep h => reviewing_of_step hstep.1 hstep.2 h) hreviewing
  exact ⟨_, p, event, after, status, account, passkey, verified, prepared, hhistory, hsender,
    hfinalizes, e, List.mem_append_right _ List.mem_cons_self, hprepares⟩

/-- **A receipt has the hash that the node answered** for what was sent. -/
theorem answeredIn_of_run (hrun : Run (Step env) (Page.start env storage) history page)
    {t : Transaction} (ht : t ∈ page.sent) {r : TransactionReceipt} {txHash : String}
    (hr : page.internalReceipt = some r) (hsame : SameSpend r (receiptOf t txHash)) :
    AnsweredIn history t txHash := by
  have hphases := hrun.restrict (phase_start env storage) fun _ _ _ h hstep => phase_of_step h hstep
  obtain ⟨before, e, after, rfl, -, hanswers⟩ := hphases.traced
    (P := fun p => t ∈ p.sent ∧ ∃ r, p.internalReceipt = some r
      ∧ SameSpend r (receiptOf t txHash))
    (fun h => absurd h.1 List.not_mem_nil)
    (fun _ _ _ hstep h => receipt_of_step hstep.1 hstep.2 h) ⟨ht, r, hr, hsame⟩
  exact ⟨e, List.mem_append_right _ List.mem_cons_self, hanswers⟩

/-- **A cell is remembered because a confirmation was shown it.** -/
theorem displayedIn_of_run (hrun : Run (Step env) (Page.start env storage) history page)
    {txHash : String} {cell : Cell} (hmem : (txHash, cell) ∈ page.changes) :
    DisplayedIn history txHash cell := by
  obtain ⟨before, e, after, rfl, -, hdisplays⟩ := hrun.traced
    (P := fun p => (txHash, cell) ∈ p.changes) List.not_mem_nil
    (fun _ _ _ hstep h => changes_of_step hstep h) hmem
  exact ⟨e, List.mem_append_right _ List.mem_cons_self, hdisplays⟩

end Runs

end CkbWizard
