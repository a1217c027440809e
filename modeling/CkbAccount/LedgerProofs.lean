import CkbAccount.AuthorizationProofs
import CkbAccount.StepRunProofs

/-! # The life of an account on the ledger

    Two levels of one design.

    * The account machine: an account is its current policy.  A transaction leaves it
      alone, spends under it, or replaces it by a valid policy with the next sequence,
      and what it authorizes is decided by the policy BEFORE the step.
    * The ledger: live cells, transactions that consume and create them, and
      AccountLock deciding every group of the account's lock.

    `LedgerStep.simulates` connects them: as long as state outputs keep the account's
    lock, every ledger step is a step of the account machine.  The lifecycle theorem is
    then a statement about runs of the machine. -/

namespace CkbLedger

open RustOutcome Outcome RecordLoop StepRun CkbProtocol CkbStateWire CkbStatePolicy
open CkbTransaction CkbAccountLock CkbAuthorization

/-! ## The account machine -/

/-- The state of a live account: bytes with the policy they encode. -/
structure LiveState where
  data : Bytes
  header : StateHeader
  entries : List AuthenticatorEntry
  valid : ValidState data header entries

/-- What a transaction does to an account. -/
inductive AccountEvent where
  | untouched
  | spent
  | replaced (operation : UInt8)
  deriving DecidableEq, Repr

/-- The state cell was replaced. -/
def AccountEvent.isReplaced : AccountEvent → Bool
  | .replaced _ => true
  | _ => false

section Machine

variable {α : Type} (authorized : LiveState → UInt8 → α → Prop)

/-- One step of the account machine, for any notion of what a policy authorizes. -/
inductive AccountStep : LiveState → AccountEvent × α → LiveState → Prop
  | untouched {s : LiveState} {a : α} : AccountStep s (.untouched, a) s
  | spent {s : LiveState} {a : α} (auth : authorized s opSpend a) : AccountStep s (.spent, a) s
  | replaced {s s' : LiveState} {operation : UInt8} {a : α}
      (operation_ok : operation = opRotate ∨ operation = opRecovery)
      (auth : authorized s operation a)
      (enabled : operation = opRecovery → recoveryEnabled s.header = true)
      (sequence : s'.header.sequence.toNat = s.header.sequence.toNat + 1) :
      AccountStep s (.replaced operation, a) s'

variable {authorized}

/-- The sequence counts the replacements. -/
theorem AccountStep.sequence_eq {s s' : LiveState} {e : AccountEvent × α}
    (h : AccountStep authorized s e s') :
    s'.header.sequence.toNat
      = s.header.sequence.toNat + if e.1.isReplaced then 1 else 0 := by
  cases h with
  | untouched => rfl
  | spent _ => rfl
  | replaced _ _ _ hsequence => exact hsequence

/-- What an event of a run says about the state it happened in. -/
def Justified (authorized : LiveState → UInt8 → α → Prop) (s : LiveState)
    (e : AccountEvent × α) : Prop :=
  (e.1.isReplaced = true → ∃ operation, (operation = opRotate ∨ operation = opRecovery)
      ∧ authorized s operation e.2
      ∧ (operation = opRecovery → recoveryEnabled s.header = true))
    ∧ (e.1 = .spent → authorized s opSpend e.2)

theorem AccountStep.justified {s s' : LiveState} {e : AccountEvent × α}
    (h : AccountStep authorized s e s') : Justified authorized s e := by
  cases h with
  | untouched => exact ⟨fun hr => (nomatch hr), fun hs => (nomatch hs)⟩
  | spent hauth => exact ⟨fun hr => (nomatch hr), fun _ => hauth⟩
  | replaced hop hauth henabled _ =>
      exact ⟨fun _ => ⟨_, hop, hauth, henabled⟩, fun hs => (nomatch hs)⟩

/-- **Runs of the account machine**: the sequence has counted the replacements, and
    every event was authorized by the state it happened in. -/
theorem accountRun_counts {s₀ s : LiveState} {trace : List (LiveState × (AccountEvent × α))}
    (h : Run (AccountStep authorized) s₀ trace s) :
    s.header.sequence.toNat
        = s₀.header.sequence.toNat + trace.countP (fun e => e.2.1.isReplaced)
      ∧ ∀ e ∈ trace, Justified authorized e.1 e.2 :=
  ⟨h.counted (f := fun s => s.header.sequence.toNat) (p := fun e => e.1.isReplaced)
      (fun _ _ _ => AccountStep.sequence_eq),
    h.each (fun _ _ _ => AccountStep.justified)⟩

end Machine

/-! ## The ledger -/

/-- Where a cell was made. -/
structure OutPoint where
  txHash : Byte32
  index : Nat
  deriving DecidableEq, Repr

/-- The live cells. -/
abbrev Ledger := OutPoint → Option Cell

/-- A transaction with the out points it names, what they resolved to, and the
    virtual machine's answers to its scripts. -/
structure Commit where
  previous : List OutPoint
  deps : List OutPoint
  tx : Transaction
  vm : Vm

/-- An AccountLock script with the account it is for. -/
structure Account where
  lock : Script
  id : Byte32
  args : lock.args = accountLockVersion :: id.val

/-- The environment of the account's lock group. -/
def Commit.env (c : Commit) (account : Account) : Env where
  script := account.lock
  tx := c.tx
  vm := c.vm

/-- Consume the inputs and create the outputs. -/
def Ledger.apply (L : Ledger) (c : Commit) : Ledger := fun p =>
  if p.txHash = c.tx.hash then c.tx.outputs[p.index]?
  else if p ∈ c.previous then none
  else L p

/-- The transaction consumes a state cell of the account. -/
def consumesState (ckbHash : Bytes → Byte32) (account : Account) (c : Commit) : Bool :=
  c.tx.inputs.any (fun input => isState ckbHash account.id input.cell)

/-- The transaction spends a cell under the account's lock. -/
def spendsLock (account : Account) (c : Commit) : Bool :=
  c.tx.inputs.any (fun input => input.cell.lock = account.lock)

/-- One committed transaction.  Consensus: inputs and deps are live, a transaction
    hash is new, and a Type ID that is live is not created again unless it is
    consumed.  The account: AccountLock accepts its group, and state outputs keep
    its lock. -/
structure LedgerStep (ckbHash : Bytes → Byte32) (account : Account) (L : Ledger) (c : Commit)
    (L' : Ledger) : Prop where
  inputs_live : List.Forall₂ (fun p (input : Input) => L p = some input.cell)
    c.previous c.tx.inputs
  deps_live : List.Forall₂ (fun p cell => L p = some cell) c.deps c.tx.cellDeps
  fresh : ∀ p : OutPoint, p.txHash = c.tx.hash → L p = none
  typeId : consumesState ckbHash account c = false →
    (∃ p cell, L p = some cell ∧ isState ckbHash account.id cell = true) →
    ∀ output ∈ c.tx.outputs, isState ckbHash account.id output = false
  accepted : spendsLock account c = true → run ckbHash (c.env account) = .ok ()
  keepsLock : ∀ output ∈ c.tx.outputs, isState ckbHash account.id output = true →
    output.lock = account.lock
  next : L' = L.apply c

/-- `p` is the only live cell that carries the account's type hash. -/
structure SoleState (ckbHash : Bytes → Byte32) (account : Account) (L : Ledger) (p : OutPoint)
    (cell : Cell) : Prop where
  live : L p = some cell
  state : isState ckbHash account.id cell = true
  only : ∀ q other, L q = some other → isState ckbHash account.id other = true → q = p

/-- The ledger holds the account in state `s`, under the account's lock. -/
def Holds (ckbHash : Bytes → Byte32) (account : Account) (L : Ledger) (s : LiveState) : Prop :=
  ∃ p cell, SoleState ckbHash account L p cell ∧ cell.lock = account.lock ∧ cell.data = s.data

/-- The account's policy in state `s` authorized an operation of the transaction:
    the run read exactly this state, and distinct slots of it that hold the
    operation's capability reached its threshold for the operation. -/
structure Authorized (ckbHash : Bytes → Byte32) (account : Account) (s : LiveState)
    (operation : UInt8) (c : Commit) : Prop where
  proof : ∃ v capability threshold, Viewed ckbHash (c.env account) v
    ∧ v.accountId = account.id ∧ v.operation = operation
    ∧ v.current = s.data ∧ v.header = s.header ∧ v.entries = s.entries
    ∧ capabilityForOperation operation = .ok capability
    ∧ thresholdFor s.header operation = .ok threshold
    ∧ MeetsPolicy ckbHash (c.env account) v capability threshold

section Simulation

variable {ckbHash : Bytes → Byte32} {account : Account} {L L' : Ledger} {c : Commit}
  {s : LiveState} {p : OutPoint} {cell : Cell}

/-- A live state cell is the sole one. -/
theorem SoleState.eq_of_live (h : SoleState ckbHash account L p cell) {q : OutPoint}
    {other : Cell} (hlive : L q = some other)
    (hstate : isState ckbHash account.id other = true) : q = p ∧ other = cell := by
  have hq := h.only q other hlive hstate
  rw [hq, h.live] at hlive
  exact ⟨hq, (Option.some.inj hlive).symm⟩

/-- The out point of an input. -/
theorem LedgerStep.previous_of_input (h : LedgerStep ckbHash account L c L') {input : Input}
    (hmem : input ∈ c.tx.inputs) : ∃ q ∈ c.previous, L q = some input.cell :=
  exists_mem_of_forall₂ h.inputs_live.flip input hmem

theorem consumesState_eq_false :
    consumesState ckbHash account c = false
      ↔ ∀ input ∈ c.tx.inputs, isState ckbHash account.id input.cell = false := by
  rw [consumesState, List.any_eq_false]
  simp only [Bool.not_eq_true]

/-- A transaction without a state input leaves the account as it is. -/
theorem LedgerStep.holds_of_kept (h : LedgerStep ckbHash account L c L')
    (hs : Holds ckbHash account L s) (hkept : consumesState ckbHash account c = false) :
    Holds ckbHash account L' s := by
  obtain ⟨p, cell, hsole, hlock, hdata⟩ := hs
  have hnone := h.typeId hkept ⟨p, cell, hsole.live, hsole.state⟩
  have hnew : p.txHash ≠ c.tx.hash := by
    intro heq
    have hlive := hsole.live
    rw [h.fresh p heq] at hlive
    cases hlive
  have hprevious : p ∉ c.previous := by
    intro hmem
    obtain ⟨input, hinput, hlive⟩ := exists_mem_of_forall₂ h.inputs_live p hmem
    rw [hsole.live] at hlive
    cases hlive
    have hstate := hsole.state
    rw [consumesState_eq_false.mp hkept input hinput] at hstate
    cases hstate
  refine ⟨p, cell, ⟨?_, hsole.state, ?_⟩, hlock, hdata⟩
  · rw [h.next, Ledger.apply, if_neg hnew, if_neg hprevious]
    exact hsole.live
  · intro q other hlive hstate
    rw [h.next, Ledger.apply] at hlive
    split at hlive
    · rw [hnone other (List.mem_of_getElem? hlive)] at hstate
      cases hstate
    · split at hlive
      · cases hlive
      · exact hsole.only q other hlive hstate

/-- A transaction that consumes the state and creates one state output moves the
    account to that output. -/
theorem LedgerStep.holds_of_replaced (h : LedgerStep ckbHash account L c L')
    (hs : Holds ckbHash account L s) {index : Nat} {input : Input} {output : Cell}
    (hin : FromInput ckbHash (c.env account) account.id index input output)
    {s' : LiveState} (hdata : output.data = s'.data) : Holds ckbHash account L' s' := by
  obtain ⟨p, cell, hsole, -, -⟩ := hs
  obtain ⟨o, ho, houtput⟩ := hin.output_unique
  obtain ⟨⟨out, hout, hstate⟩, honly⟩ := findIdxs_eq_singleton ho
  cases Option.some.inj (houtput.symm.trans hout)
  obtain ⟨⟨icell, hicell, histate⟩, -⟩ := findIdxs_eq_singleton hin.input_unique
  rw [List.getElem?_map, hin.input_at] at hicell
  cases hicell
  -- the consumed state is the sole one
  obtain ⟨q, hq, hqlive⟩ := h.previous_of_input (List.mem_of_getElem? hin.input_at)
  obtain ⟨rfl, -⟩ := hsole.eq_of_live hqlive histate
  have hmem : output ∈ c.tx.outputs := List.mem_of_getElem? houtput
  refine ⟨⟨c.tx.hash, o⟩, output, ⟨?_, hstate, ?_⟩, h.keepsLock output hmem hstate, hdata⟩
  · rw [h.next, Ledger.apply, if_pos rfl]
    exact houtput
  · intro r other hlive hother
    rw [h.next, Ledger.apply] at hlive
    split at hlive
    · rename_i hhash
      have hindex := honly r.index other hlive hother
      cases r
      rw [OutPoint.mk.injEq]
      exact ⟨hhash, hindex⟩
    · split at hlive
      · cases hlive
      · rename_i hr
        exact absurd ((hsole.only r other hlive hother) ▸ hq) hr

/-- A run that read the live state authorizes with the live state's policy. -/
theorem authorized_of_run {v : RunView} {capability threshold : UInt16}
    (hview : Viewed ckbHash (c.env account) v) (hid : v.accountId = account.id)
    (hcurrent : v.current = s.data)
    (hcap : capabilityForOperation v.operation = .ok capability)
    (hthr : thresholdFor v.header v.operation = .ok threshold)
    (hmeets : MeetsPolicy ckbHash (c.env account) v capability threshold) :
    v.header = s.header ∧ Authorized ckbHash account s v.operation c := by
  obtain ⟨summary, hvalid⟩ := hview.valid
  obtain ⟨es, hv, -⟩ := validateState_eq_ok.mp hvalid
  have hentries : es = v.entries := Outcome.ok.inj (hv.collect_eq.symm.trans hview.entries)
  subst hentries
  rw [hcurrent] at hv
  obtain ⟨hheader, hes⟩ := hv.unique s.valid
  rw [hheader] at hthr
  exact ⟨hheader, v, capability, threshold, hview, hid, rfl, hcurrent, hheader, hes, hcap, hthr,
    hmeets⟩

/-- How a ledger step and an account event describe one transaction. -/
def Describes (ckbHash : Bytes → Byte32) (account : Account) (e : Ledger × Commit)
    (t : LiveState × (AccountEvent × Commit)) : Prop :=
  t.2.2 = e.2 ∧ Holds ckbHash account e.1 t.1
    ∧ t.2.1.isReplaced = consumesState ckbHash account e.2
    ∧ (t.2.1 = .untouched → spendsLock account e.2 = false)

/-- A state input is locked by the account, so consuming it runs AccountLock. -/
theorem LedgerStep.spendsLock_of_consumes (h : LedgerStep ckbHash account L c L')
    (hs : Holds ckbHash account L s) (hconsumes : consumesState ckbHash account c = true) :
    spendsLock account c = true := by
  obtain ⟨p, cell, hsole, hlock, -⟩ := hs
  obtain ⟨input, hmem, hstate⟩ := List.any_eq_true.mp hconsumes
  obtain ⟨q, -, hlive⟩ := h.previous_of_input hmem
  obtain ⟨-, hcell⟩ := hsole.eq_of_live hlive hstate
  refine List.any_eq_true.mpr ⟨input, hmem, ?_⟩
  rw [hcell]
  exact decide_eq_true hlock

/-- **Every ledger step is a step of the account machine.** -/
theorem LedgerStep.simulates (h : LedgerStep ckbHash account L c L')
    (hs : Holds ckbHash account L s) :
    ∃ e s', AccountStep (Authorized ckbHash account) s e s' ∧ Holds ckbHash account L' s'
      ∧ Describes ckbHash account (L, c) (s, e) := by
  -- a commit that spends no cell under the lock leaves the state cell alone
  cases hspends : spendsLock account c with
  | false =>
      have hkept : consumesState ckbHash account c = false := by
        by_contra hne
        rw [h.spendsLock_of_consumes hs (Bool.eq_true_of_not_eq_false hne)] at hspends
        cases hspends
      exact ⟨(.untouched, c), s, .untouched, h.holds_of_kept hs hkept, rfl, hs, hkept.symm,
        fun _ => hspends⟩
  | true =>
      obtain ⟨v, capability, threshold, hview, hplaced, hcap, hthr, hmeets⟩ :=
        meetsPolicy_of_run (h.accepted hspends)
      have hid : v.accountId = account.id :=
        Subtype.ext (List.cons.inj (hview.args.symm.trans account.args)).2
      obtain ⟨p, cell, hsole, hlock, hdata⟩ := id hs
      by_cases hop : v.operation = opSpend
      · -- the state is read from a dep, which is live, so it is the sole one
        obtain ⟨hno, i, dep, hdep, hdepAt, hdepData⟩ := hplaced.spend hop
        rw [hid] at hno hdep
        obtain ⟨⟨dep', hdepAt', hdepState⟩, -⟩ := findIdxs_eq_singleton hdep
        cases Option.some.inj (hdepAt.symm.trans hdepAt')
        obtain ⟨q, -, hlive⟩ := exists_mem_of_forall₂ h.deps_live.flip dep
          (List.mem_of_getElem? hdepAt)
        obtain ⟨-, rfl⟩ := hsole.eq_of_live hlive hdepState
        have hkept := consumesState_eq_false.mpr hno
        obtain ⟨-, hauth⟩ := authorized_of_run hview hid (hdepData.symm.trans hdata) hcap hthr
          hmeets
        rw [hop] at hauth
        exact ⟨(.spent, c), s, .spent hauth, h.holds_of_kept hs hkept, rfl, hs, hkept.symm,
          fun he => (nomatch he)⟩
      · -- the state cell is an input, and the one output of its type takes its place
        obtain ⟨index, input, output, next, hin, hcurrent, ⟨⟨summary, hnext⟩, hsequence⟩,
          hrecovery⟩ := hplaced.transition hop
        rw [hid] at hin
        obtain ⟨⟨icell, hicell, histate⟩, -⟩ := findIdxs_eq_singleton hin.input_unique
        rw [List.getElem?_map, hin.input_at] at hicell
        cases hicell
        have hmem := List.mem_of_getElem? hin.input_at
        obtain ⟨q, -, hlive⟩ := h.previous_of_input hmem
        obtain ⟨-, hcell⟩ := hsole.eq_of_live hlive histate
        have hread : v.current = s.data := by
          rw [← hcurrent, hcell, hdata]
        obtain ⟨hheader, hauth⟩ := authorized_of_run hview hid hread hcap hthr hmeets
        obtain ⟨es, hv, -⟩ := validateState_eq_ok.mp hnext
        have hoperation : v.operation = opRotate ∨ v.operation = opRecovery :=
          (isOperation_of_viewed hview).resolve_left hop
        refine ⟨(.replaced v.operation, c), ⟨output.data, next, es, hv⟩,
          .replaced hoperation hauth (fun hr => hheader ▸ (hrecovery hr).1) ?_,
          h.holds_of_replaced hs hin rfl, rfl, hs, ?_, fun he => (nomatch he)⟩
        · rw [hsequence, hheader]
        · exact (List.any_eq_true.mpr ⟨input, hmem, histate⟩).symm

end Simulation

/-! ## The lifecycle -/

/-- **The account lifecycle.**  Start from a ledger whose only state cell of the account
    is valid and under the account's lock.  After any run, exactly one live cell carries
    the account's type hash; it is under the same lock and valid, its thresholds are
    positive and reachable, and its sequence has counted the transactions that consumed
    the state.  Each of those was a rotation or a recovery authorized by the state it
    consumed, and every other transaction that spent a cell of the account was a spend
    authorized by the state that was live. -/
theorem account_lifecycle (ckbHash : Bytes → Byte32) (account : Account) (L₀ L : Ledger)
    (history : List (Ledger × Commit)) (p₀ : OutPoint) (cell₀ : Cell) (header₀ : StateHeader)
    (summary₀ : StateSummary) (hsole : SoleState ckbHash account L₀ p₀ cell₀)
    (hlock : cell₀.lock = account.lock)
    (hvalid : validateState cell₀.data = .ok (header₀, summary₀))
    (hrun : Run (LedgerStep ckbHash account) L₀ history L) :
    (∃ p cell header summary entries,
      SoleState ckbHash account L p cell
      ∧ cell.lock = account.lock
      ∧ validateState cell.data = .ok (header, summary)
      ∧ parseAuthenticators collect cell.data header [] = .ok entries
      ∧ Policy header entries
      ∧ header.sequence.toNat = header₀.sequence.toNat
        + history.countP (fun e => consumesState ckbHash account e.2))
    ∧ ∀ e ∈ history,
      (consumesState ckbHash account e.2 = true →
        ∃ s operation, Holds ckbHash account e.1 s
          ∧ (∃ input ∈ e.2.tx.inputs, isState ckbHash account.id input.cell = true
            ∧ input.cell.data = s.data)
          ∧ (operation = opRotate ∨ operation = opRecovery)
          ∧ Authorized ckbHash account s operation e.2
          ∧ (operation = opRecovery → recoveryEnabled s.header = true))
      ∧ (consumesState ckbHash account e.2 = false → spendsLock account e.2 = true →
        ∃ s, Holds ckbHash account e.1 s ∧ Authorized ckbHash account s opSpend e.2) := by
  obtain ⟨es, hv, -⟩ := validateState_eq_ok.mp hvalid
  have hstart : Holds ckbHash account L₀ ⟨cell₀.data, header₀, es, hv⟩ :=
    ⟨p₀, cell₀, hsole, hlock, rfl⟩
  -- the run of the ledger is a run of the account, entry by entry
  obtain ⟨s, trace, htrace, ⟨p, cell, hsole', hlock', hdata⟩, hmatch⟩ :=
    hrun.simulate (fun _ _ _ _ hs hstep => hstep.simulates hs) hstart
  obtain ⟨hsequence, hjustified⟩ := accountRun_counts htrace
  refine ⟨⟨p, cell, s.header, summaryOf s.entries, s.entries, hsole', hlock', ?_, ?_,
    s.valid.policy, ?_⟩, ?_⟩
  · rw [hdata]
    exact validateState_eq_ok.mpr ⟨s.entries, s.valid, rfl⟩
  · rw [hdata]
    exact s.valid.collect_eq
  · rw [hsequence, countP_eq_of_forall₂ (fun e t (h : Describes ckbHash account e t) =>
      h.2.2.1.symm) hmatch]
  · intro e he
    obtain ⟨t, ht, hcommit, hholds, hreplaced, huntouched⟩ := exists_mem_of_forall₂ hmatch e he
    obtain ⟨hreplace, hspend⟩ := hjustified t ht
    rw [hcommit] at hreplace hspend
    -- every input of a commit was live before it
    have hlive := hrun.each (Q := fun L c => ∀ input ∈ c.tx.inputs, ∃ q, L q = some input.cell)
      (fun _ _ _ hstep input hmem =>
        (hstep.previous_of_input hmem).imp (fun _ hq => hq.2)) e he
    refine ⟨fun hconsumes => ?_, fun hkept hspends => ⟨t.1, hholds, hspend ?_⟩⟩
    · obtain ⟨operation, hop, hauth, henabled⟩ := hreplace (hreplaced.trans hconsumes)
      refine ⟨t.1, operation, hholds, ?_, hop, hauth, henabled⟩
      obtain ⟨input, hmem, hstate⟩ := List.any_eq_true.mp hconsumes
      obtain ⟨q, hq⟩ := hlive input hmem
      obtain ⟨_, _, hsoleE, -, hdataE⟩ := hholds
      obtain ⟨-, hcell⟩ := hsoleE.eq_of_live hq hstate
      exact ⟨input, hmem, hstate, by rw [hcell, hdataE]⟩
    · -- neither untouched nor a replacement
      rw [hkept] at hreplaced
      cases hevent : t.2.1 with
      | untouched =>
          rw [huntouched hevent] at hspends
          cases hspends
      | spent => rfl
      | replaced operation =>
          rw [hevent] at hreplaced
          cases hreplaced

/-! ## At the sample account -/

/-- The account of the sample. -/
def sampleAccount : Account where
  lock := sampleLock
  id := sampleId
  args := rfl

/-- The transaction that made its first cells. -/
def genesisHash : Byte32 := filled32 0x55

/-- The account's state, two of its assets and the verifier, from one transaction. -/
def sampleLedger : Ledger := fun p =>
  if p.txHash = genesisHash then
    [sampleCell 0 sampleLock, assetCell, assetCell, verifierCell][p.index]?
  else none

/-- The spend is committed. -/
def spendCommit : Commit where
  previous := [⟨genesisHash, 1⟩]
  deps := [⟨genesisHash, 0⟩, ⟨genesisHash, 3⟩]
  tx := spendEnv.tx
  vm := fixtureVm

/-- The rotation is committed. -/
def rotateCommit : Commit where
  previous := [⟨genesisHash, 0⟩, ⟨genesisHash, 2⟩]
  deps := [⟨genesisHash, 3⟩]
  tx := (rotateEnv sampleLock).tx
  vm := fixtureVm

theorem sampleLedger_sole :
    SoleState sampleHash sampleAccount sampleLedger ⟨genesisHash, 0⟩ (sampleCell 0 sampleLock) := by
  refine ⟨by decide +kernel, by decide +kernel, ?_⟩
  intro q other hlive hstate
  obtain ⟨hash, index⟩ := q
  unfold sampleLedger at hlive
  split at hlive
  · rename_i hhash
    have hhash : hash = genesisHash := hhash
    subst hhash
    match index with
    | 0 => rfl
    | 1 | 2 | 3 =>
        cases hlive
        exact absurd hstate (by decide +kernel)
  · cases hlive

theorem spendCommit_step :
    LedgerStep sampleHash sampleAccount sampleLedger spendCommit
      (sampleLedger.apply spendCommit) := by
  refine ⟨.cons (by decide +kernel) .nil,
    .cons (by decide +kernel) (.cons (by decide +kernel) .nil), ?_,
    fun _ _ output hmem => absurd hmem List.not_mem_nil, fun _ => by decide +kernel,
    fun output hmem => absurd hmem List.not_mem_nil, rfl⟩
  intro p hp
  exact if_neg (by rw [hp]; decide)

theorem rotateCommit_step :
    LedgerStep sampleHash sampleAccount (sampleLedger.apply spendCommit) rotateCommit
      ((sampleLedger.apply spendCommit).apply rotateCommit) := by
  refine ⟨.cons (by decide +kernel) (.cons (by decide +kernel) .nil),
    .cons (by decide +kernel) .nil, ?_, fun hkept => absurd hkept (by decide +kernel),
    fun _ => by decide +kernel, ?_, rfl⟩
  · intro p hp
    have hold : sampleLedger p = none := if_neg (by rw [hp]; decide)
    rw [Ledger.apply, hold, if_neg (by rw [hp]; decide)]
    exact ite_self none
  · intro output hmem _
    rw [List.mem_singleton.mp hmem]
    rfl

/-- A spend and a rotation: the account is live once, and its sequence went from 0
    to 1. -/
theorem sampleLedger_lifecycle :
    ∃ p cell header summary,
      SoleState sampleHash sampleAccount
        ((sampleLedger.apply spendCommit).apply rotateCommit) p cell
      ∧ validateState cell.data = .ok (header, summary)
      ∧ header.sequence.toNat = 1 := by
  have hrun : Run (LedgerStep sampleHash sampleAccount) sampleLedger
      [(sampleLedger, spendCommit), (sampleLedger.apply spendCommit, rotateCommit)]
      ((sampleLedger.apply spendCommit).apply rotateCommit) :=
    .snoc (.snoc .nil spendCommit_step) rotateCommit_step
  obtain ⟨⟨p, cell, header, summary, -, hsole, -, hvalid, -, -, hsequence⟩, -⟩ :=
    account_lifecycle sampleHash sampleAccount sampleLedger _ _ ⟨genesisHash, 0⟩
      (sampleCell 0 sampleLock) (sampleHeader 0) (summaryOf sampleEntries) sampleLedger_sole rfl
      (by decide +kernel) hrun
  exact ⟨p, cell, header, summary, hsole, hvalid, hsequence.trans (by decide +kernel)⟩

end CkbLedger
