import CkbAccount.CreationProofs
import CkbAccount.ProcessProofs
import CkbAccount.StepRunProofs

/-! # Creating the account of a repository

    `tools/deploy/src/bootstrap-lib.ts`: a run reads `deploy/testnet-account.json`, broadcasts
    a creation transaction if there is no such file, waits for it, and writes the file.  The
    deploy tool and the demo server both start runs, in processes of their own, and a
    process may stop anywhere.

    * `bootstrapAccount` and `writeJsonAtomicFile` as processes that call the file system,
      the signer and the client;
    * `World`: the file and any number of runs against it;
    * `one_account`: as long as no run passes its existence check beside another run or
      after an unrecorded broadcast, one transaction is handed over and one manifest
      written at most.  The check and the write are steps of their own, so without that
      condition there can be two of each. -/

namespace CkbBootstrap

open RustOutcome Outcome Process StepRun CkbBrowserCodec CkbSchemas CkbCreation

/-! ## Calls -/

/-- The two files a run reads. -/
inductive Path where
  | account
  | deployment
  deriving DecidableEq, Repr

/-- What a run asks of its surroundings.  Handing a transaction to the signer and waiting
    for the answer are two calls: the process may stop between them. -/
inductive Op where
  | readJson (path : Path)
  | completeInputs (tx : Transaction)
  | completeFee (tx : Transaction) (feeRate : Int)
  | sendTransaction (tx : Transaction)
  | sentTransaction
  | waitTransaction (txHash : String) (confirmations timeout : Nat)
  | openTemporary
  | writeTemporary (value : Json)
  | fsync
  | close
  | rename (value : Json)
  | unlink

/-- What a call answers when it succeeds. -/
def Op.Result : Op → Type
  | .readJson _ => Json
  | .completeInputs _ => Transaction
  | .completeFee _ _ => Transaction
  | .sentTransaction => String
  | _ => Unit

/-- Every call may fail with a message. -/
abbrev Op.Answer (op : Op) : Type := Fallible Op.Result String op

/-- A promise of the tool: calls, then a value or the text of an error. -/
abbrev Async (α : Type) := Prog (Fallible Op.Result String) String α

/-- A call that is awaited. -/
abbrev await (op : Op) : Async op.Result := performOk op

/-! ## The code -/

/-- `BOOTSTRAP_FEE_RATE`. -/
def bootstrapFeeRate : Int := 1200

/-- `SHANNONS_PER_CKB`. -/
def shannonsPerCkb : Int := 100000000

/-- `PLACEHOLDER_32`. -/
def placeholder32 : String := "0x" ++ String.ofList (List.replicate 64 '0')

/-- `BootstrapOptions`. -/
structure BootstrapOptions where
  stateData : Bytes
  assetCapacityCkb : Int

/-- `accountLockCodeHash`. -/
def accountLockCodeHash (manifest : Json) : Outcome String String :=
  match manifest with
  | .object _ | .array _ => do
      let accountLock := (manifest.member "artifacts").bind (Json.member "account_lock")
      let dataHash := (accountLock.bind (Json.member "dataHash")).bind (Json.text isHash32)
      let matched :=
        (manifest.member "schema_version").any Json.isOne
          && (manifest.member "network").any (Json.isText "testnet")
          && (manifest.member "published").any Json.isTrue
          && (manifest.member "hash_type").any (Json.isText "data2")
          && (accountLock.bind (Json.member "hashType")).any (Json.isText "data2")
      okOr "testnet deployment manifest has no verified data2 AccountLock"
        (if matched then dataHash else none)
  | _ => .err "testnet deployment manifest is missing"

/-- `validateOptions`. -/
def validateOptions (options : BootstrapOptions) : Outcome String (Int × Int) := do
  rejectIf (options.stateData.length = 0) "AccountStateV1 state data is required"
  rejectIf (options.assetCapacityCkb ≤ 0)
    "asset capacity must be a positive whole number of CKB"
  let stateCapacity := cellCapacityShannons 33 (some 32) options.stateData.length
  let assetCapacity := options.assetCapacityCkb * shannonsPerCkb
  let minimumAsset := cellCapacityShannons 33 none 0
  rejectIf (assetCapacity < minimumAsset)
    ("asset capacity is below the " ++ toString minimumAsset
      ++ " shannon AccountLock cell minimum")
  return (stateCapacity, assetCapacity)

/-- The `catch` block of `writeJsonAtomicFile`: a failing `unlinkSync` is ignored. -/
def cleanUp (opened : Bool) (error : String) : Async Unit := do
  if opened then await .close
  let _ ← perform .unlink
  Prog.of (.err error)

/-- One statement of the `try` block. -/
def attempt (opened : Bool) (op : Op) : Async Unit :=
  perform op >>= fun
    | .ok _ => pure ()
    | .error error => cleanUp opened error

/-- `writeJsonAtomicFile`. -/
def writeJsonAtomicFile (value : Json) : Async Unit := do
  attempt false .openTemporary
  attempt true (.writeTemporary value)
  attempt true .fsync
  attempt true .close
  attempt false (.rename value)

/-- `TestnetAccountManifest`. -/
def testnetAccountManifest (accountId codeHash args typeIdArgs txHash : String)
    (stateBytes : Nat) : Json :=
  let outPoint (index : Int) := Json.object [("tx_hash", .string txHash), ("index", .number index)]
  .object [
    ("schema_version", .number 1),
    ("network", .string "testnet"),
    ("account_id", .string accountId),
    ("account_lock", .object [
      ("code_hash", .string codeHash), ("hash_type", .string "data2"), ("args", .string args)]),
    ("type_id_args", .string typeIdArgs),
    ("state_out_point", outPoint 0),
    ("asset_out_point", outPoint 1),
    ("state_bytes", .number stateBytes)]

section Code

variable (ccc : Package)

/-- `ccc.Transaction.from`, with the placeholder scripts. -/
def placeholderTransaction (codeHash stateHex : String) (stateCapacity assetCapacity : Int) :
    Outcome String Transaction := do
  let lock ← accountLockScript ccc codeHash placeholder32
  return {
    inputs := []
    outputs := [⟨stateCapacity, lock, some (typeIdScript placeholder32)⟩, ⟨assetCapacity, lock, none⟩]
    outputsData := [stateHex, "0x"] }

/-- The account's scripts, once the first input is known. -/
def bindScripts (codeHash accountId typeIdArgs : String) (tx : Transaction) :
    Outcome String Transaction := do
  let state ← okOr "Cannot set properties of undefined" tx.outputs[0]?
  let lock ← accountLockScript ccc codeHash accountId
  let asset ← okOr "Cannot set properties of undefined" tx.outputs[1]?
  return { tx with
    outputs := { state with type := some (typeIdScript typeIdArgs), lock }
      :: { asset with lock } :: tx.outputs.drop 2 }

/-- The end of `bootstrapAccount`: broadcast, wait, record. -/
def broadcast (codeHash accountId typeIdArgs : String) (tx : Transaction) (stateBytes : Nat) :
    Async Json := do
  await (.sendTransaction tx)
  let txHash : String ← await .sentTransaction
  await (.waitTransaction txHash 0 300000)
  let output ← Prog.of (okOr "Cannot read properties of undefined" tx.outputs.head?)
  let manifest := testnetAccountManifest accountId codeHash output.lock.args typeIdArgs txHash
    stateBytes
  writeJsonAtomicFile manifest
  return manifest

/-- `bootstrapAccount` with its fee paid: the last check, and the broadcast. -/
def finish (codeHash accountId typeIdArgs stateHex : String) (stateBytes : Nat)
    (tx : Transaction) : Async Json := do
  Prog.of (assertCreationConsistency ccc tx codeHash stateHex)
  broadcast codeHash accountId typeIdArgs tx stateBytes

/-- `bootstrapAccount` with its inputs collected: the account's identity, and the fee. -/
def complete (codeHash stateHex : String) (stateBytes : Nat) (tx : Transaction) :
    Async Json := do
  let input ← Prog.of (okOr "input collection returned no cells" tx.inputs.head?)
  let typeIdArgs := ccc.hashTypeId input 0
  let accountId := ccc.scriptHash (typeIdScript typeIdArgs)
  let tx ← Prog.of (bindScripts ccc codeHash accountId typeIdArgs tx)
  let tx : Transaction ← await (.completeFee tx bootstrapFeeRate)
  finish ccc codeHash accountId typeIdArgs stateHex stateBytes tx

/-- `bootstrapAccount` behind its existence check. -/
def create (options : BootstrapOptions) (stateCapacity assetCapacity : Int) : Async Json := do
  let deployment : Json ← await (.readJson .deployment)
  let codeHash ← Prog.of (accountLockCodeHash deployment)
  let stateHex := ccc.hexFrom options.stateData
  let tx ← Prog.of (placeholderTransaction ccc codeHash stateHex stateCapacity assetCapacity)
  let tx : Transaction ← await (.completeInputs tx)
  complete ccc codeHash stateHex options.stateData.length tx

/-- `bootstrapAccount`. -/
def bootstrapAccount (options : BootstrapOptions) : Async Json := do
  let (stateCapacity, assetCapacity) ← Prog.of (validateOptions options)
  match ← await (.readJson .account) with
  | .null => create ccc options stateCapacity assetCapacity
  | _ => Prog.of (.err "deploy/testnet-account.json already exists; refusing to replace it")

end Code

/-! ## Runs against one repository -/

/-- The two files, the code that is left of every run, and two logs: the transactions
    handed to the signer, and the manifests that were put in place. -/
structure World where
  account : Json
  deployment : Json
  runs : Nat → Option (Async Json)
  sent : List Transaction
  written : List Json

namespace World

/-- Before any run; the account manifest may or may not be there. -/
structure Fresh (w : World) : Prop where
  runs : ∀ id, w.runs id = none
  sent : w.sent = []
  written : w.written = []

/-- A file that can be read is read as it is now. -/
def Current (w : World) : (op : Op) → op.Answer → Prop
  | .readJson .account, .ok value => value = w.account
  | .readJson .deployment, .ok value => value = w.deployment
  | _, _ => True

/-- What a call does to the world.  A transaction is out of hand once it is handed over,
    whatever becomes of it; `renameSync` replaces what is there, or fails. -/
def effect (w : World) : (op : Op) → op.Answer → World
  | .sendTransaction tx, _ => { w with sent := w.sent ++ [tx] }
  | .rename value, .ok _ => { w with account := value, written := w.written ++ [value] }
  | _, _ => w

/-- The world with this code left of one run. -/
def setRun (w : World) (id : Nat) (code : Async Json) : World :=
  { w with runs := Function.update w.runs id (some code) }

theorem setRun_self (w : World) (id : Nat) (code : Async Json) :
    (w.setRun id code).runs id = some code := Function.update_self ..

theorem setRun_setRun (w : World) (id : Nat) (code code' : Async Json) :
    (w.setRun id code).setRun id code' = w.setRun id code' := by
  unfold setRun
  rw [Function.update_idem]

theorem setRun_eq_self {w : World} {id : Nat} {code : Async Json} (h : w.runs id = some code) :
    w.setRun id code = w := by
  unfold setRun
  rw [← h, Function.update_eq_self]

/-- An effect does not touch the runs. -/
theorem effect_setRun (w : World) (id : Nat) (code : Async Json) (op : Op) (r : op.Answer) :
    (w.setRun id code).effect op r = (w.effect op r).setRun id code := by
  unfold effect
  split <;> rfl

theorem setRun_of_ne (w : World) {id i : Nat} (hne : i ≠ id) (code : Async Json) :
    (w.setRun id code).runs i = w.runs i := Function.update_of_ne hne ..

end World

/-- What can happen: a run begins, its call is answered, or it is stopped. -/
inductive Event where
  | begun (id : Nat)
  | answered (id : Nat)
  | stopped (id : Nat)

/-- One step: a run begins, a call of a run is answered, or its process stops. -/
inductive Step (ccc : Package) : World → Event → World → Prop
  | begun {w : World} (id : Nat) (options : BootstrapOptions) (hid : w.runs id = none) :
      Step ccc w (.begun id) (w.setRun id (bootstrapAccount ccc options))
  | answered {w : World} {id : Nat} {op : Op} {k : op.Answer → Async Json}
      (hcode : w.runs id = some (.call op k)) (r : op.Answer) (hcurrent : w.Current op r) :
      Step ccc w (.answered id) ((w.effect op r).setRun id (k r))
  | stopped {w : World} {id : Nat} {code : Async Json} (hcode : w.runs id = some code) :
      Step ccc w (.stopped id) (w.setRun id (.ret .abort))

/-- At most one creation transaction, and no manifest in place of another. -/
def OneAccount (w₀ w : World) : Prop :=
  w.sent.length ≤ 1 ∧ w.written.length ≤ 1 ∧ (w₀.account ≠ .null → w.written = [])

/-- A run has passed its existence check and has not ended. -/
def World.InProgress (w : World) (id : Nat) : Prop :=
  ∃ op k, w.runs id = some (.call op k) ∧ op ≠ .readJson .account

/-- The condition on a step: a run makes its existence check, while there is no manifest,
    only if no other run is in progress and no transaction has been handed over yet. -/
def Undisturbed (w : World) (event : Event) : Prop :=
  ∀ id k, event = .answered id → w.runs id = some (.call (.readJson .account) k) →
    w.account = .null → w.sent = [] ∧ ∀ other, ¬ w.InProgress other

/-- The steps that meet the condition. -/
def UndisturbedStep (ccc : Package) (w : World) (event : Event) (w' : World) : Prop :=
  Step ccc w event w' ∧ Undisturbed w event

/-! ## One run -/

/-- A weight for handing over a transaction and one for putting a manifest in place. -/
def cost (send write : Nat) : Op → Nat
  | .sendTransaction _ => send
  | .rename _ => write
  | _ => 0

/-- Behind the check: no second check, and what is put in place is a manifest. -/
def BehindCheck : Op → Prop
  | .readJson .account => False
  | .rename value => value ≠ .null
  | _ => True

/-- Code behind the check, with what it may still do. -/
structure Checked (sends writes : Nat) (code : Async Json) : Prop where
  behind : code.Returns BehindCheck (fun _ _ => True) fun _ => True
  sends : code.Within (cost 1 0) sends
  writes : code.Within (cost 0 1) writes

/-- Code that has ended does nothing. -/
theorem checked_ret {sends writes : Nat} {result : Outcome String Json} :
    Checked sends writes (.ret result) :=
  ⟨fun _ _ => trivial, trivial, trivial⟩

section Budget

variable {send write : Nat}

theorem within_attempt (opened : Bool) {op : Op} {n : Nat} (h : cost send write op ≤ n) :
    (attempt opened op).Within (cost send write) n := by
  refine Prog.Within.bind (n := 0) (within_perform h) fun r => ?_
  cases r with
  | ok _ => exact Prog.within_of
  | error error =>
      have hrest : (perform .unlink >>= fun _ => Prog.of (.err error) : Async Unit).Within
          (cost send write) 0 :=
        Prog.Within.bind_free (within_perform (Nat.le_refl 0)) fun _ => Prog.within_of
      cases opened with
      | false => exact hrest
      | true =>
          exact Prog.Within.bind_free (within_performOk Op.close (Nat.le_refl 0)) fun _ => hrest

/-- The manifest is renamed once. -/
theorem within_writeJsonAtomicFile (value : Json) :
    (writeJsonAtomicFile value).Within (cost send write) write := by
  refine Prog.Within.bind_free (within_attempt false (Nat.le_refl 0)) fun _ => ?_
  refine Prog.Within.bind_free (within_attempt true (Nat.le_refl 0)) fun _ => ?_
  refine Prog.Within.bind_free (within_attempt true (Nat.le_refl 0)) fun _ => ?_
  refine Prog.Within.bind_free (within_attempt true (Nat.le_refl 0)) fun _ => ?_
  exact within_attempt false (Nat.le_refl write)

/-- A run sends once and renames once. -/
theorem within_broadcast (codeHash accountId typeIdArgs : String) (tx : Transaction)
    (stateBytes : Nat) :
    (broadcast codeHash accountId typeIdArgs tx stateBytes).Within (cost send write)
      (send + write) := by
  refine Prog.Within.bind (within_performOk (Op.sendTransaction tx) (Nat.le_refl send)) fun _ => ?_
  refine Prog.Within.bind_free (within_performOk Op.sentTransaction (Nat.le_refl 0)) fun txHash => ?_
  refine Prog.Within.bind_free (within_performOk (Op.waitTransaction txHash 0 300000) (Nat.le_refl 0))
    fun _ => ?_
  refine Prog.Within.bind_free Prog.within_of fun output => ?_
  exact Prog.Within.bind (n := 0) (within_writeJsonAtomicFile _) fun _ => Prog.within_of

/-- **What one run may do**: hand over once, and put in place once. -/
theorem within_create (ccc : Package) (options : BootstrapOptions)
    (stateCapacity assetCapacity : Int) :
    (create ccc options stateCapacity assetCapacity).Within (cost send write)
      (send + write) := by
  refine Prog.Within.bind_free (within_performOk (Op.readJson .deployment) (Nat.le_refl 0))
    fun deployment => ?_
  refine Prog.Within.bind_free Prog.within_of fun codeHash => ?_
  refine Prog.Within.bind_free Prog.within_of fun tx => ?_
  refine Prog.Within.bind_free (within_performOk (Op.completeInputs tx) (Nat.le_refl 0)) fun tx => ?_
  refine Prog.Within.bind_free Prog.within_of fun input => ?_
  refine Prog.Within.bind_free Prog.within_of fun tx => ?_
  refine Prog.Within.bind_free (within_performOk (Op.completeFee tx bootstrapFeeRate) (Nat.le_refl 0))
    fun tx => ?_
  exact Prog.Within.bind_free Prog.within_of fun _ => within_broadcast ..

end Budget

section Behind

variable {adm : (op : Op) → op.Answer → Prop}

/-- A cleanup reads nothing. -/
theorem attempt_behind (opened : Bool) {op : Op} (h : BehindCheck op) :
    (attempt opened op).Returns BehindCheck adm fun _ => True := by
  refine Prog.Returns.bind (P := fun _ => True) (returns_perform h fun _ _ => trivial)
    fun r _ => ?_
  cases r with
  | ok _ => exact Prog.returns_pure trivial
  | error error =>
      have hrest : (perform .unlink >>= fun _ => Prog.of (.err error) : Async Unit).Returns
          BehindCheck adm fun _ => True :=
        Prog.Returns.bind (P := fun _ => True) (returns_perform trivial fun _ _ => trivial)
          fun _ _ => Prog.returns_of fun _ _ => trivial
      cases opened with
      | false => exact hrest
      | true =>
          exact Prog.Returns.bind (P := fun _ => True)
            (returns_performOk Op.close trivial fun _ _ => trivial) fun _ _ => hrest

theorem writeJsonAtomicFile_behind {value : Json} (h : value ≠ .null) :
    (writeJsonAtomicFile value).Returns BehindCheck adm fun _ => True :=
  Prog.Returns.bind (P := fun _ => True) (attempt_behind false trivial) fun _ _ =>
  Prog.Returns.bind (P := fun _ => True) (attempt_behind true trivial) fun _ _ =>
  Prog.Returns.bind (P := fun _ => True) (attempt_behind true trivial) fun _ _ =>
  Prog.Returns.bind (P := fun _ => True) (attempt_behind true trivial) fun _ _ =>
  attempt_behind false h

/-- An awaited call and what follows it. -/
theorem await_behind (op : Op) {f : op.Result → Async Json} (hop : BehindCheck op)
    (hf : ∀ a, (f a).Returns BehindCheck adm fun _ => True) :
    (await op >>= f).Returns BehindCheck adm fun _ => True :=
  Prog.Returns.bind (P := fun _ => True) (returns_performOk op hop fun _ _ => trivial)
    fun a _ => hf a

theorem of_behind {α : Type} {x : Outcome String α} {f : α → Async Json}
    (hf : ∀ a, (f a).Returns BehindCheck adm fun _ => True) :
    (Prog.of x >>= f).Returns BehindCheck adm fun _ => True :=
  Prog.Returns.bind (P := fun _ => True) (Prog.returns_of fun _ _ => trivial) fun a _ => hf a

/-- **A run reads the manifest only at its beginning.** -/
theorem create_behind (ccc : Package) (options : BootstrapOptions)
    (stateCapacity assetCapacity : Int) :
    (create ccc options stateCapacity assetCapacity).Returns BehindCheck adm fun _ => True := by
  refine await_behind (.readJson .deployment) trivial fun deployment => ?_
  refine of_behind fun codeHash => of_behind fun tx => ?_
  refine await_behind (.completeInputs tx) trivial fun tx => ?_
  refine of_behind fun input => of_behind fun tx => ?_
  refine await_behind (.completeFee tx bootstrapFeeRate) trivial fun tx => ?_
  refine of_behind fun _ => ?_
  refine await_behind (.sendTransaction tx) trivial fun _ => ?_
  refine await_behind .sentTransaction trivial fun txHash => ?_
  refine await_behind (.waitTransaction txHash 0 300000) trivial fun _ => ?_
  refine of_behind fun output => ?_
  exact Prog.Returns.bind (P := fun _ => True)
    (writeJsonAtomicFile_behind fun hnull => nomatch hnull) fun _ _ => Prog.returns_pure trivial

end Behind

/-- A run that is about to make its check: anything but an absent file ends it. -/
structure Unchecked (k : (Op.readJson .account).Answer → Async Json) : Prop where
  ends : ∀ r, r = Except.ok Json.null ∨ ∃ result, k r = .ret result
  creates : Checked 1 1 (k (Except.ok Json.null))

/-- **How a run starts**: it throws at once, or its first call is the check. -/
theorem bootstrapAccount_cases (ccc : Package) (options : BootstrapOptions) :
    (∃ result, bootstrapAccount ccc options = .ret result)
      ∨ ∃ k, bootstrapAccount ccc options = .call (.readJson .account) k ∧ Unchecked k := by
  cases hvalid : validateOptions options with
  | ok capacities =>
      obtain ⟨stateCapacity, assetCapacity⟩ := capacities
      refine .inr ⟨_, by rw [bootstrapAccount, hvalid]; rfl, ?_, ?_⟩
      · intro r
        cases r with
        | error error => exact .inr ⟨_, rfl⟩
        | ok value =>
            cases value with
            | null => exact .inl rfl
            | bool b => exact .inr ⟨_, rfl⟩
            | number n => exact .inr ⟨_, rfl⟩
            | fraction => exact .inr ⟨_, rfl⟩
            | string text => exact .inr ⟨_, rfl⟩
            | array items => exact .inr ⟨_, rfl⟩
            | object members => exact .inr ⟨_, rfl⟩
      · exact ⟨create_behind ccc options _ _, within_create ccc options _ _,
          within_create ccc options _ _⟩
  | err error => exact .inl ⟨_, by rw [bootstrapAccount, hvalid]; rfl⟩
  | abort => exact .inl ⟨_, by rw [bootstrapAccount, hvalid]; rfl⟩

/-! ## The invariant -/

variable {w₀ w : World}

theorem World.effect_runs (w : World) (op : Op) (r : op.Answer) :
    (w.effect op r).runs = w.runs := by
  unfold World.effect
  split <;> rfl

/-- Handed over is what was handed over. -/
theorem World.effect_sent (w : World) (op : Op) (r : op.Answer) :
    (w.effect op r).sent.length = w.sent.length + cost 1 0 op := by
  cases op with
  | sendTransaction tx => exact List.length_append
  | rename value =>
      cases r with
      | ok _ => rfl
      | error _ => rfl
  | _ => rfl

/-- A call writes at most what it costs. -/
theorem World.effect_written (w : World) (op : Op) (r : op.Answer) :
    (w.effect op r).written.length ≤ w.written.length + cost 0 1 op := by
  cases op with
  | rename value =>
      cases r with
      | ok _ => exact Nat.le_of_eq List.length_append
      | error _ => exact Nat.le_succ _
  | _ => exact Nat.le_refl _

/-- The file changes only when a manifest is put in place. -/
theorem World.effect_account (w : World) {op : Op} (r : op.Answer) (hop : BehindCheck op) :
    (w.effect op r).account ≠ .null
      ∨ (w.effect op r).account = w.account ∧ (w.effect op r).written = w.written := by
  cases op with
  | rename value =>
      cases r with
      | ok _ => exact .inl hop
      | error _ => exact .inr ⟨rfl, rfl⟩
  | _ => exact .inr ⟨rfl, rfl⟩

/-- **What the runs of a world keep**, counted from its beginning. -/
structure Inv (w₀ w : World) : Prop where
  /-- Every run is before its check, or behind it with what is left of the two budgets. -/
  runs : ∀ {id : Nat} {code : Async Json}, w.runs id = some code →
    (∃ k, code = .call (.readJson .account) k ∧ Unchecked k)
      ∨ Checked (1 - w.sent.length) (1 - w.written.length) code
  sole : ∀ {i j : Nat}, w.InProgress i → w.InProgress j → i = j
  sent_le : w.sent.length ≤ 1
  written_le : w.written.length ≤ 1
  recorded : w.written ≠ [] → w.account ≠ .null
  kept : w₀.account ≠ .null → w.account ≠ .null ∧ w.written = [] ∧ ∀ id, ¬ w.InProgress id

/-- A fresh world keeps the invariant. -/
theorem inv_of_fresh (h : w.Fresh) : Inv w w where
  runs := fun hcode => (nomatch (h.runs _).symm.trans hcode)
  sole := fun ⟨_, _, hcode, _⟩ => (nomatch (h.runs _).symm.trans hcode)
  sent_le := by
    rw [h.sent]
    exact Nat.zero_le 1
  written_le := by
    rw [h.written]
    exact Nat.zero_le 1
  recorded := fun hne => absurd h.written hne
  kept := fun hne => ⟨hne, h.written, fun _ ⟨_, _, hcode, _⟩ =>
    (nomatch (h.runs _).symm.trans hcode)⟩

/-- A run that is not the one that moved. -/
theorem World.InProgress.of_setRun {id i : Nat} {code : Async Json}
    (h : (w.setRun id code).InProgress i) (hne : i ≠ id) : w.InProgress i := by
  obtain ⟨op, k, hcode, hop⟩ := h
  exact ⟨op, k, (w.setRun_of_ne hne code).symm.trans hcode, hop⟩

/-- A run at its beginning or its end is not in progress. -/
theorem not_inProgress_setRun {id : Nat} {code : Async Json}
    (h : (∃ result, code = .ret result) ∨ ∃ k, code = .call (.readJson .account) k) :
    ¬ (w.setRun id code).InProgress id := by
  rintro ⟨op, k, hcode, hop⟩
  have hsame : code = .call op k :=
    Option.some.inj ((w.setRun_self id code).symm.trans hcode)
  obtain ⟨result, rfl⟩ | ⟨k', rfl⟩ := h
  · exact nomatch hsame
  · injection hsame with hread
    exact hop hread.symm

/-- **A run that is not behind its check moves nothing**: it begins, it ends, or its
    process stops. -/
theorem Inv.setRun (h : Inv w₀ w) {id : Nat} {code : Async Json}
    (hidle : (∃ result, code = .ret result)
      ∨ ∃ k, code = .call (.readJson .account) k ∧ Unchecked k) :
    Inv w₀ (w.setRun id code) := by
  have hnot : ¬ (w.setRun id code).InProgress id :=
    not_inProgress_setRun (hidle.imp_right fun ⟨k, hk, _⟩ => ⟨k, hk⟩)
  have hold : ∀ {i : Nat}, (w.setRun id code).InProgress i → w.InProgress i := by
    intro i hi
    refine hi.of_setRun ?_
    rintro rfl
    exact hnot hi
  refine ⟨?_, fun hi hj => h.sole (hold hi) (hold hj), h.sent_le, h.written_le, h.recorded, ?_⟩
  · intro i c hi
    by_cases hid : i = id
    · subst hid
      obtain rfl := Option.some.inj ((World.setRun_self ..).symm.trans hi)
      obtain ⟨result, rfl⟩ | hunchecked := hidle
      · exact .inr checked_ret
      · exact .inl hunchecked
    · exact h.runs ((World.setRun_of_ne _ hid _).symm.trans hi)
  · intro hne
    obtain ⟨haccount, hwritten, hnone⟩ := h.kept hne
    exact ⟨haccount, hwritten, fun i hi => hnone i (hold hi)⟩

/-- **The check finds nothing**: with no other run in progress and nothing handed over, the
    run gets the two budgets. -/
theorem Inv.check (h : Inv w₀ w) {id : Nat} {code : Async Json} (hchecked : Checked 1 1 code)
    (habsent : w.account = .null) (hsent : w.sent = []) (halone : ∀ other, ¬ w.InProgress other) :
    Inv w₀ (w.setRun id code) := by
  have hwritten : w.written = [] := by
    by_contra hne
    exact h.recorded hne habsent
  have honly : ∀ {i : Nat}, (w.setRun id code).InProgress i → i = id := by
    intro i hi
    by_contra hne
    exact halone i (hi.of_setRun hne)
  refine ⟨?_, fun hi hj => (honly hi).trans (honly hj).symm, h.sent_le, h.written_le,
    h.recorded, fun hne => absurd habsent (h.kept hne).1⟩
  intro i c hi
  by_cases hid : i = id
  · subst hid
    obtain rfl := Option.some.inj ((World.setRun_self ..).symm.trans hi)
    right
    show Checked (1 - w.sent.length) (1 - w.written.length) code
    rw [hsent, hwritten]
    exact hchecked
  · exact h.runs ((World.setRun_of_ne _ hid _).symm.trans hi)

/-- **A call behind the check** is paid for out of the budgets. -/
theorem Inv.proceed (h : Inv w₀ w) {id : Nat} {op : Op} {k : op.Answer → Async Json}
    (hcode : w.runs id = some (.call op k))
    (hchecked : Checked (1 - w.sent.length) (1 - w.written.length) (.call op k))
    (r : op.Answer) : Inv w₀ ((w.effect op r).setRun id (k r)) := by
  have hop : BehindCheck op := hchecked.behind.1
  have hprogress : w.InProgress id := by
    refine ⟨op, k, hcode, ?_⟩
    rintro rfl
    exact hop
  have hsend : cost 1 0 op ≤ 1 - w.sent.length := hchecked.sends.1
  have hwrite : cost 0 1 op ≤ 1 - w.written.length := hchecked.writes.1
  have hsentEq := w.effect_sent op r
  have hwrittenLe := w.effect_written op r
  have hsentLe := h.sent_le
  have hwrittenOld := h.written_le
  have honly : ∀ {i : Nat}, ((w.effect op r).setRun id (k r)).InProgress i → i = id := by
    intro i hi
    by_contra hne
    obtain ⟨op', k', hcode', hop'⟩ := hi.of_setRun hne
    rw [w.effect_runs op r] at hcode'
    exact hne (h.sole ⟨op', k', hcode', hop'⟩ hprogress)
  refine ⟨?_, fun hi hj => (honly hi).trans (honly hj).symm, ?_, ?_, ?_,
    fun hne => absurd hprogress ((h.kept hne).2.2 id)⟩
  · intro i c hi
    by_cases hid : i = id
    · subst hid
      obtain rfl := Option.some.inj ((World.setRun_self ..).symm.trans hi)
      refine .inr ⟨hchecked.behind.2 r trivial, ?_, ?_⟩
      · refine Proc.Within.mono (hchecked.sends.2 r) ?_
        show _ ≤ 1 - (w.effect op r).sent.length
        omega
      · refine Proc.Within.mono (hchecked.writes.2 r) ?_
        show _ ≤ 1 - (w.effect op r).written.length
        omega
    · have hbefore : w.runs i = some c := by
        rw [← w.effect_runs op r]
        exact (World.setRun_of_ne _ hid _).symm.trans hi
      -- another run behind its check would be in progress beside this one
      obtain hunchecked | hother := h.runs hbefore
      · exact .inl hunchecked
      · cases c with
        | ret result => exact .inr checked_ret
        | call op' k' =>
            refine absurd (h.sole ⟨op', k', hbefore, ?_⟩ hprogress) hid
            rintro rfl
            exact hother.behind.1
  · show (w.effect op r).sent.length ≤ 1
    omega
  · show (w.effect op r).written.length ≤ 1
    omega
  · intro hne
    obtain haccount | ⟨haccount, hwritten⟩ := w.effect_account r hop
    · exact haccount
    · show (w.effect op r).account ≠ .null
      rw [haccount]
      exact h.recorded (hwritten ▸ hne)

/-- **Every undisturbed step keeps the invariant.** -/
theorem Inv.step {ccc : Package} {event : Event} {w' : World} (h : Inv w₀ w)
    (hstep : Step ccc w event w') (hcond : Undisturbed w event) : Inv w₀ w' := by
  cases hstep with
  | begun id options hid => exact h.setRun (bootstrapAccount_cases ccc options)
  | stopped hcode => exact h.setRun (.inl ⟨_, rfl⟩)
  | @answered id op k hcode r hcurrent =>
      obtain ⟨k', hk', hunchecked⟩ | hchecked := h.runs hcode
      · injection hk' with hop hk
        subst hop
        obtain rfl := eq_of_heq hk
        obtain rfl | hended := hunchecked.ends r
        · have habsent : w.account = .null := hcurrent.symm
          obtain ⟨hsent, halone⟩ := hcond id k rfl hcode habsent
          exact h.check hunchecked.creates habsent hsent halone
        · exact h.setRun (.inl hended)
      · exact h.proceed hcode hchecked r

/-- **One account per repository.**  In every interleaving of runs, with calls that fail and
    processes that stop anywhere, in which no run makes its existence check, while there is
    no manifest, beside another run in progress or after a broadcast: at most one creation
    transaction is handed over, and no manifest is put in place of another. -/
theorem one_account (ccc : Package) (w₀ w : World) (history : List (World × Event))
    (hfresh : w₀.Fresh) (hrun : Run (UndisturbedStep ccc) w₀ history w) :
    OneAccount w₀ w := by
  have hinv : Inv w₀ w :=
    hrun.invariant (inv_of_fresh hfresh) fun _ _ _ h hstep => h.step hstep.1 hstep.2
  exact ⟨hinv.sent_le, hinv.written_le, fun hne => (hinv.kept hne).2.1⟩

/-! ## Two accounts -/

/-- The calls of a run up to the broadcast, when nothing goes wrong. -/
theorem create_calls {ccc : Package} (options : BootstrapOptions)
    {stateCapacity assetCapacity : Int} {deployment : Json} {codeHash : String} {tx : Transaction}
    (hhash : accountLockCodeHash deployment = .ok codeHash)
    (htx : placeholderTransaction ccc codeHash (ccc.hexFrom options.stateData) stateCapacity
      assetCapacity = .ok tx) :
    ∃ k k', create ccc options stateCapacity assetCapacity = .call (.readJson .deployment) k
      ∧ k (Except.ok deployment) = .call (.completeInputs tx) k'
      ∧ ∀ tx', k' (Except.ok tx')
          = complete ccc codeHash (ccc.hexFrom options.stateData) options.stateData.length tx' := by
  refine ⟨_, fun r => Prog.resume (complete ccc codeHash (ccc.hexFrom options.stateData)
    options.stateData.length) (ofExcept r), rfl, ?_, fun _ => rfl⟩
  show Prog.resume _ (accountLockCodeHash deployment) = _
  rw [hhash]
  show Prog.resume _ (placeholderTransaction ccc codeHash _ stateCapacity assetCapacity) = _
  rw [htx]
  exact performOk_bind ..

/-- The two calls that complete a creation. -/
theorem complete_calls {ccc : Package} {codeHash accountId typeIdArgs : String} (stateHex : String)
    (stateBytes : Nat) {input : CellInput} {rest : List CellInput} {tx tx' : Transaction}
    (hinputs : tx.inputs = input :: rest) (htypeId : ccc.hashTypeId input 0 = typeIdArgs)
    (hid : ccc.scriptHash (typeIdScript typeIdArgs) = accountId)
    (htx : bindScripts ccc codeHash accountId typeIdArgs tx = .ok tx') :
    ∃ k, complete ccc codeHash stateHex stateBytes tx = .call (.completeFee tx' bootstrapFeeRate) k
      ∧ ∀ tx'', k (Except.ok tx'')
          = finish ccc codeHash accountId typeIdArgs stateHex stateBytes tx'' := by
  subst htypeId hid
  refine ⟨fun r => Prog.resume (finish ccc codeHash _ _ stateHex stateBytes) (ofExcept r), ?_,
    fun _ => rfl⟩
  rw [complete, hinputs]
  show Prog.resume _ (bindScripts ccc codeHash _ _ tx) = _
  rw [htx]
  exact performOk_bind ..

/-- Two input cells, with the Type ID args and the account id that follow from each. -/
def sampleInput (second : Bool) : CellInput where
  previousOutput :=
    ⟨"0x1111111111111111111111111111111111111111111111111111111111111111", second.toNat⟩
  since := 0

/-- The type id args of the two creations. -/
def sampleTypeIdArgs : Bool → String
  | false => "0x95104db1ddfd88d13f9b38346ad1a273905f4d097a0aabefe0b9f6123568dd65"
  | true => "0x45d0ccb8d96da425ce73e1f2daa91d46e8d9dabc11293897eabad9f31a513cbd"

/-- The account ids of the two creations. -/
def sampleAccountId : Bool → String
  | false => "0x28259b82f3f7fc28418d6b01a61b2717afcd2fd39e6b07815233ea7e3ebfedf9"
  | true => "0x18a04a0f0b26c35b876abbfe295c2b1a30f72ef638e5f9d27824998eed75c337"

/-- The package on these cells. -/
def samplePackage : Package where
  bytesFrom := fun text => some (hexDigitPairs (text.toList.drop 2))
  hexFrom := hexFromBytes
  scriptHash := fun script => sampleAccountId (script.args == sampleTypeIdArgs true)
  hashTypeId := fun input _ => sampleTypeIdArgs (input.previousOutput.index == 1)

/-- The options of both runs. -/
def sampleOptions : BootstrapOptions where
  stateData := [1, 2, 3]
  assetCapacityCkb := 200

/-- The code hash of the account lock. -/
def sampleCodeHash : String := "0x44f4c69744d5f8c55d642062949dcae49bc4e7ef43d388c5a12f42b5633d163e"

/-- A deployment manifest with that lock. -/
def sampleDeployment : Json :=
  .object [("schema_version", .number 1), ("network", .string "testnet"), ("published", .bool true),
    ("hash_type", .string "data2"),
    ("artifacts", .object [("account_lock",
      .object [("dataHash", .string sampleCodeHash), ("hashType", .string "data2")])])]

/-- A repository with a deployment and no account. -/
def sampleWorld : World where
  account := .null
  deployment := sampleDeployment
  runs := fun _ => none
  sent := []
  written := []

/-- The lock of an account. -/
def sampleLock (accountId : String) : Script where
  codeHash := sampleCodeHash
  hashType := .data2
  args := "0x01" ++ String.ofList (accountId.toList.drop 2)

/-- A transaction with the outputs of an account. -/
def sampleTransaction (accountId typeIdArgs : String) (inputs : List CellInput) : Transaction where
  inputs := inputs
  outputs := [
    ⟨14200000000, sampleLock accountId, some (typeIdScript typeIdArgs)⟩,
    ⟨20000000000, sampleLock accountId, none⟩]
  outputsData := ["0x010203", "0x"]

/-- The creation that spends one of the cells. -/
def sampleCreation (second : Bool) : Transaction :=
  sampleTransaction (sampleAccountId second) (sampleTypeIdArgs second) [sampleInput second]

/-- What is left of a run that has handed over its creation. -/
def sampleSent (second : Bool) : Async Json := do
  let txHash : String ← await .sentTransaction
  await (.waitTransaction txHash 0 300000)
  let output ← Prog.of (okOr "Cannot read properties of undefined"
    (sampleCreation second).outputs.head?)
  let manifest := testnetAccountManifest (sampleAccountId second) sampleCodeHash output.lock.args
    (sampleTypeIdArgs second) txHash 3
  writeJsonAtomicFile manifest
  return manifest

/-- The hash that the node answers. -/
def sampleTxHash : String := "0x2222222222222222222222222222222222222222222222222222222222222222"

/-- The account manifest of a creation. -/
def sampleManifest (second : Bool) : Json :=
  testnetAccountManifest (sampleAccountId second) sampleCodeHash
    (sampleLock (sampleAccountId second)).args (sampleTypeIdArgs second) sampleTxHash 3

/-- Some run leads from one world to the other. -/
def Reaches (step : World → Event → World → Prop) (w w' : World) : Prop :=
  ∃ history, Run step w history w'

/-- Reaching composes. -/
theorem Reaches.trans {step : World → Event → World → Prop} {w w' w'' : World}
    (h : Reaches step w w') (h' : Reaches step w' w'') : Reaches step w w'' := by
  obtain ⟨history, hrun⟩ := h
  obtain ⟨history', hrun'⟩ := h'
  exact ⟨_, hrun.trans hrun'⟩

/-- The answer to a call of a run that is not its check. -/
theorem reaches_answer {ccc : Package} (w : World) (id : Nat) {code : Async Json} (op : Op)
    {k : op.Answer → Async Json} (hcode : code = .call op k) (r : op.Answer)
    (hop : op ≠ .readJson .account) (hcurrent : w.Current op r) :
    Reaches (UndisturbedStep ccc) (w.setRun id code) ((w.effect op r).setRun id (k r)) := by
  subst hcode
  have hself := w.setRun_self id (.call op k)
  have hafter : ((w.setRun id (.call op k)).effect op r).setRun id (k r)
      = (w.effect op r).setRun id (k r) :=
    (congrArg (World.setRun · id (k r)) (w.effect_setRun id (.call op k) op r)).trans
      (World.setRun_setRun ..)
  have hstep : Step ccc (w.setRun id (.call op k)) (.answered id) _ := .answered hself r hcurrent
  refine ⟨_, .snoc .nil ⟨hafter ▸ hstep, ?_⟩⟩
  rintro _ k' ⟨⟩ hcheck
  have hsame := Option.some.inj (hself.symm.trans hcheck)
  injection hsame with hread
  exact absurd hread hop

/-- The sample options pass, so a run of them starts with its check. -/
theorem sample_bootstrapAccount :
    ∃ k : (Op.readJson .account).Answer → Async Json,
      bootstrapAccount samplePackage sampleOptions = .call (.readJson .account) k
        ∧ k (Except.ok Json.null)
          = create samplePackage sampleOptions 14200000000 20000000000 := by
  have hvalid : validateOptions sampleOptions = .ok (14200000000, 20000000000) := by
    decide +kernel
  exact ⟨_, by rw [bootstrapAccount, hvalid]; rfl, rfl⟩

/-- A run of the sample begins, and finds no account. -/
theorem sample_begins {w : World} {id : Nat} (hid : w.runs id = none)
    (habsent : w.account = .null) :
    ∃ k, Step samplePackage w (.begun id) (w.setRun id (.call (.readJson .account) k))
      ∧ Step samplePackage (w.setRun id (.call (.readJson .account) k)) (.answered id)
          (w.setRun id (create samplePackage sampleOptions 14200000000 20000000000)) := by
  obtain ⟨k, hcode, hcreate⟩ := sample_bootstrapAccount
  have hafter := World.setRun_setRun w id (.call (.readJson .account) k) (k (Except.ok Json.null))
  have hchecked : Step samplePackage (w.setRun id (.call (.readJson .account) k)) (.answered id) _ :=
    @Step.answered _ _ id (.readJson .account) k (w.setRun_self id _) (Except.ok Json.null)
      habsent.symm
  exact ⟨k, hcode ▸ .begun id sampleOptions hid, hcreate ▸ hafter ▸ hchecked⟩

/-- A run can begin at any time. -/
theorem sample_begins_anyway {w : World} (id : Nat) (hid : w.runs id = none)
    (habsent : w.account = .null) :
    Reaches (Step samplePackage) w
      (w.setRun id (create samplePackage sampleOptions 14200000000 20000000000)) := by
  obtain ⟨k, hbegun, hchecked⟩ := sample_begins hid habsent
  exact ⟨_, .snoc (.snoc .nil hbegun) hchecked⟩

/-- It may begin while nothing has been handed over and no other run is in progress. -/
theorem sample_begins_alone {w : World} (id : Nat) (hid : w.runs id = none)
    (hsent : w.sent = []) (halone : ∀ other, ¬ w.InProgress other)
    (habsent : w.account = .null) :
    Reaches (UndisturbedStep samplePackage) w
      (w.setRun id (create samplePackage sampleOptions 14200000000 20000000000)) := by
  obtain ⟨k, hbegun, hchecked⟩ := sample_begins hid habsent
  refine ⟨_, .snoc (.snoc .nil ⟨hbegun, fun _ _ hevent => (nomatch hevent)⟩) ⟨hchecked, ?_⟩⟩
  intro _ _ _ _ _
  refine ⟨hsent, fun other hother => ?_⟩
  by_cases hother' : other = id
  · subst hother'
    exact not_inProgress_setRun (.inr ⟨k, rfl⟩) hother
  · exact halone other (hother.of_setRun hother')

/-- The deployment manifest cannot be read, and the run is over. -/
theorem sample_fails (w : World) (id : Nat) :
    Reaches (UndisturbedStep samplePackage)
      (w.setRun id (create samplePackage sampleOptions 14200000000 20000000000))
      (w.setRun id (.ret (.err "deploy/testnet-deployments.json cannot be read"))) :=
  reaches_answer w id (.readJson .deployment) rfl
    (Except.error "deploy/testnet-deployments.json cannot be read") (fun h => by cases h) trivial

/-- Behind its check it hands over the creation that spends the cell it was given. -/
theorem sample_sends (second : Bool) (w : World) (id : Nat)
    (hdeployment : w.deployment = sampleDeployment) :
    Reaches (UndisturbedStep samplePackage)
      (w.setRun id (create samplePackage sampleOptions 14200000000 20000000000))
      ({ w with sent := w.sent ++ [sampleCreation second] }.setRun id (sampleSent second)) := by
  have hhash : accountLockCodeHash sampleDeployment = .ok sampleCodeHash := by decide +kernel
  have hplaceholder : placeholderTransaction samplePackage sampleCodeHash
      (samplePackage.hexFrom sampleOptions.stateData) 14200000000 20000000000
        = .ok (sampleTransaction placeholder32 placeholder32 []) := by decide +kernel
  -- the account id is the hash of the type id script, for either input
  have hid : samplePackage.scriptHash (typeIdScript (sampleTypeIdArgs second))
      = sampleAccountId second := by
    cases second
    · decide +kernel
    · decide +kernel
  have hargs : accountLockArgs samplePackage (sampleAccountId second)
      = .ok (sampleLock (sampleAccountId second)).args := by
    cases second
    · decide +kernel
    · decide +kernel
  have htypeId : samplePackage.hashTypeId (sampleInput second) 0 = sampleTypeIdArgs second := by
    cases second <;> rfl
  have hscripts : bindScripts samplePackage sampleCodeHash (sampleAccountId second)
      (sampleTypeIdArgs second) (sampleTransaction placeholder32 placeholder32 [sampleInput second])
        = .ok (sampleCreation second) := by
    rw [bindScripts, accountLockScript, hargs]
    rfl
  have hdata : samplePackage.hexFrom [1, 2, 3] = "0x010203" := by decide +kernel
  have hconsistent : assertCreationConsistency samplePackage (sampleCreation second)
      sampleCodeHash (samplePackage.hexFrom [1, 2, 3]) = .ok () := by
    rw [hdata]
    exact assertCreationConsistency_new htypeId (hid ▸ hargs)
  have hsend : finish samplePackage sampleCodeHash (sampleAccountId second)
      (sampleTypeIdArgs second) (samplePackage.hexFrom [1, 2, 3]) 3 (sampleCreation second)
        = .call (.sendTransaction (sampleCreation second))
            fun r => Prog.resume (fun _ => sampleSent second) (ofExcept r) := by
    rw [finish, hconsistent]
    rfl
  -- the run answers the four calls of a creation one after the other
  obtain ⟨k, k', hcreate, hread, hinputs⟩ := create_calls sampleOptions hhash hplaceholder
  obtain ⟨k'', hfee, hpaid⟩ := complete_calls (samplePackage.hexFrom [1, 2, 3]) 3 rfl htypeId hid
    hscripts
  refine (reaches_answer w id _ hcreate (Except.ok sampleDeployment)
    (fun h => by cases h) hdeployment.symm).trans ?_
  refine (reaches_answer w id _ hread
    (Except.ok (sampleTransaction placeholder32 placeholder32 [sampleInput second]))
    (fun h => by cases h) trivial).trans ?_
  refine (reaches_answer w id _ ((hinputs _).trans hfee) (Except.ok (sampleCreation second))
    (fun h => by cases h) trivial).trans ?_
  exact reaches_answer w id _ ((hpaid _).trans hsend) (Except.ok ())
    (fun h => by cases h) trivial

/-- The wait runs out, and the run is over. -/
theorem sample_times_out (second : Bool) (w : World) (id : Nat) :
    Reaches (UndisturbedStep samplePackage) (w.setRun id (sampleSent second))
      (w.setRun id (.ret (.err "ErrorClientWaitTransactionTimeout"))) := by
  refine (reaches_answer w id .sentTransaction rfl (Except.ok sampleTxHash) nofun trivial).trans ?_
  exact reaches_answer w id (.waitTransaction sampleTxHash 0 300000) rfl
    (Except.error "ErrorClientWaitTransactionTimeout") nofun trivial

/-- The wait succeeds, and the manifest is put in place. -/
theorem sample_writes (second : Bool) {w : World} (id : Nat)
    (hcode : w.runs id = some (sampleSent second)) :
    Reaches (UndisturbedStep samplePackage) w
      ({ w with
          account := sampleManifest second
          written := w.written ++ [sampleManifest second] }.setRun id
        (.ret (.ok (sampleManifest second)))) := by
  nth_rewrite 1 [← World.setRun_eq_self hcode]
  refine (reaches_answer w id .sentTransaction rfl (Except.ok sampleTxHash) nofun trivial).trans ?_
  refine (reaches_answer w id (.waitTransaction sampleTxHash 0 300000) rfl (Except.ok ()) nofun
    trivial).trans ?_
  refine (reaches_answer w id .openTemporary rfl (Except.ok ()) nofun trivial).trans ?_
  refine (reaches_answer w id (.writeTemporary (sampleManifest second)) rfl (Except.ok ()) nofun
    trivial).trans ?_
  refine (reaches_answer w id .fsync rfl (Except.ok ()) nofun trivial).trans ?_
  refine (reaches_answer w id .close rfl (Except.ok ()) nofun trivial).trans ?_
  exact reaches_answer w id (.rename (sampleManifest second)) rfl (Except.ok ()) nofun trivial

theorem Reaches.anyway {ccc : Package} {w w' : World} (h : Reaches (UndisturbedStep ccc) w w') :
    Reaches (Step ccc) w w' := by
  obtain ⟨history, hrun⟩ := h
  exact ⟨history, hrun.imp fun _ _ _ hstep => hstep.1⟩

/-- Nothing has happened in it. -/
theorem sampleWorld_fresh : sampleWorld.Fresh := ⟨fun _ => rfl, rfl, rfl⟩

/-- Two runs, one after the other: the first fails behind its check, before it hands anything
    over, and the second hands over one transaction and writes one manifest. -/
theorem sampleWorld_one_account :
    ∃ history w, Run (UndisturbedStep samplePackage) sampleWorld history w
      ∧ w.runs 0 = some (.ret (.err "deploy/testnet-deployments.json cannot be read"))
      ∧ w.runs 1 = some (.ret (.ok (sampleManifest false)))
      ∧ w.sent = [sampleCreation false] ∧ w.written = [sampleManifest false]
      ∧ OneAccount sampleWorld w := by
  have hnone : ∀ other, ¬ sampleWorld.InProgress other := by
    rintro other ⟨op, k, hcode, -⟩
    exact nomatch (sampleWorld_fresh.runs other).symm.trans hcode
  have hfailed := (sample_begins_alone 0 rfl rfl hnone rfl).trans (sample_fails sampleWorld 0)
  have hover : ∀ other, ¬ (sampleWorld.setRun 0
      (.ret (.err "deploy/testnet-deployments.json cannot be read"))).InProgress other := by
    intro other hother
    by_cases hid : other = 0
    · subst hid
      exact not_inProgress_setRun (.inl ⟨_, rfl⟩) hother
    · exact hnone other (hother.of_setRun hid)
  have hsent := (hfailed.trans (sample_begins_alone 1 rfl rfl hover rfl)).trans
    (sample_sends false _ 1 rfl)
  obtain ⟨history, hrun⟩ := hsent.trans (sample_writes false 1 (World.setRun_self ..))
  exact ⟨history, _, hrun, rfl, rfl, rfl, rfl,
    one_account samplePackage _ _ _ sampleWorld_fresh hrun⟩

/-- **Two accounts.**  A second run after the first one's wait ran out hands over a second
    creation; and a run that passes its check while another waits for its transaction hands
    over a second one too and replaces the other's manifest. -/
theorem sampleWorld_two_accounts :
    sampleWorld.Fresh
      ∧ (∃ history w, Run (Step samplePackage) sampleWorld history w
          ∧ w.sent = [sampleCreation false, sampleCreation true] ∧ w.account = .null
          ∧ ¬ OneAccount sampleWorld w)
      ∧ ∃ history w, Run (Step samplePackage) sampleWorld history w
          ∧ w.sent = [sampleCreation false, sampleCreation true]
          ∧ w.written = [sampleManifest true, sampleManifest false]
          ∧ w.account = sampleManifest false ∧ ¬ OneAccount sampleWorld w := by
  have hfirst := (sample_begins_anyway (w := sampleWorld) 0 rfl rfl).trans
    (sample_sends false sampleWorld 0 rfl).anyway
  refine ⟨sampleWorld_fresh, ?_, ?_⟩
  · have hover := hfirst.trans (sample_times_out false _ 0).anyway
    have hagain := hover.trans (sample_begins_anyway 1 rfl rfl)
    obtain ⟨history, hrun⟩ := hagain.trans (sample_sends true _ 1 rfl).anyway
    exact ⟨history, _, hrun, rfl, rfl, fun h => absurd h.1 (by decide)⟩
  · -- the first run is still waiting when the second makes its check
    have hsecond := (hfirst.trans (sample_begins_anyway 1 rfl rfl)).trans
      (sample_sends true _ 1 rfl).anyway
    have hwritten := hsecond.trans (sample_writes true 1 (World.setRun_self ..)).anyway
    obtain ⟨history, hrun⟩ := hwritten.trans (sample_writes false 0 rfl).anyway
    exact ⟨history, _, hrun, rfl, rfl, rfl, fun h => absurd h.1 (by decide)⟩

end CkbBootstrap
