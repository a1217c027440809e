import CkbAccount.RequestWireProofs
import CkbAccount.SighashProofs
import CkbAccount.WitnessWireProofs

/-! # AccountLock

    `resolve_state`, `validate_transition`, `find_authenticator`,
    `resolve_verifier`, `spawn_verifier` and `run` of
    `contracts/account-lock/src/main.rs`, each with one lemma that says what its
    success means:

    * `resolveState_eq_ok`: where the current state and its successor come from;
    * `validateTransition_eq_ok`: what a successor must satisfy;
    * `findAuthenticator_eq_ok`, `resolveVerifier_eq_ok`: unique entries and deps;
    * `spawnVerifier_eq_true`: the child was sent exactly the request and exited 0. -/

namespace CkbAccountLock

open RustOutcome Outcome LittleEndian RecordLoop CkbProtocol CkbStateWire CkbStatePolicy
open CkbTransaction CkbLoad CkbWitnessTable CkbWitnessWire CkbRequestWire CkbSighash

/-! ## The contract -/

/-- `ResolvedState`. -/
structure ResolvedState where
  current : Bytes
  successor : Option Bytes
  stateInput : Option Nat
  deriving DecidableEq, Repr

/-- `if indices.len() != 1 { return Err(..) }`, with the error for none and for several. -/
def sole (missing several : ProtocolError) : List Nat → Outcome ProtocolError Nat
  | [] => .err missing
  | [index] => .ok index
  | _ :: _ :: _ => .err several

/-- `u64::checked_add(1)`. -/
def checkedSucc (sequence : UInt64) : Option UInt64 :=
  if sequence.toNat + 1 < 2 ^ 64 then some (sequence + 1) else none

/-- `map_err(|_| e)` on a system call. -/
def sysOr {α : Type} (e : ProtocolError) : Except SysError α → Outcome ProtocolError α
  | .ok a => .ok a
  | .error _ => .err e

section Contract

variable (ckbHash : Bytes → Byte32) (env : Env)

/-- The `OP_SPEND` arm of `resolve_state`. -/
def resolveSpend (inputs : List Nat) (accountId : Byte32) :
    Outcome ProtocolError ResolvedState := do
  rejectIf (¬ inputs.isEmpty) .stateConsumedOnSpend
  let deps ← matchingTypeIndices ckbHash env .cellDep accountId
  let dep ← sole .stateNotFound .duplicateState deps
  return {
    current := ← loadCellData ckbHash env dep .cellDep
    successor := none
    stateInput := none }

/-- The `OP_ROTATE | OP_RECOVERY` arm of `resolve_state`. -/
def resolveTransition (inputs : List Nat) (accountId : Byte32) :
    Outcome ProtocolError ResolvedState := do
  let input ← sole .stateNotFound .duplicateState inputs
  let outputs ← matchingTypeIndices ckbHash env .output accountId
  let output ← sole .invalidTransition .invalidTransition outputs
  let inputType ← okOr .invalidTransition (← loadTypeScript ckbHash env input .input)
  let outputType ← okOr .invalidTransition (← loadTypeScript ckbHash env output .output)
  rejectIf (inputType ≠ outputType) .invalidTransition
  return {
    current := ← loadCellData ckbHash env input .input
    successor := some (← loadCellData ckbHash env output .output)
    stateInput := some input }

/-- `resolve_state`. -/
def resolveState (operation : UInt8) (accountId : Byte32) :
    Outcome ProtocolError ResolvedState :=
  matchingTypeIndices ckbHash env .input accountId >>= fun inputs =>
    if operation = opSpend then resolveSpend ckbHash env inputs accountId
    else if operation = opRotate ∨ operation = opRecovery then
      resolveTransition ckbHash env inputs accountId
    else .err .invalidOperation

/-- The `OP_RECOVERY` checks of `validate_transition`: a raw comparison of the since
    fields. -/
def checkRecovery (resolved : ResolvedState) (currentHeader : StateHeader) :
    Outcome ProtocolError Unit := do
  rejectIf (¬ recoveryEnabled currentHeader) .invalidCapability
  let index ← okOr .invalidTransition resolved.stateInput
  let since ← sysOr .recoveryLocked (sysLoadInputSince env 8 index)
  rejectIf (u64FromLe since < currentHeader.recoverySince) .recoveryLocked

/-- `validate_transition`. -/
def validateTransition (operation : UInt8) (resolved : ResolvedState)
    (currentHeader : StateHeader) : Outcome ProtocolError Unit :=
  if operation = opSpend then .ok ()
  else do
    let successor ← okOr .invalidTransition resolved.successor
    let (next, _) ← validateState successor
    let expected ← okOr .invalidSequence (checkedSucc currentHeader.sequence)
    rejectIf (next.sequence ≠ expected) .invalidSequence
    if operation = opRecovery then checkRecovery env resolved currentHeader else .ok ()

/-- The callback of `find_authenticator`. -/
def keepSlot (slot : UInt16) (found : Option AuthenticatorEntry) (entry : AuthenticatorEntry) :
    Outcome ProtocolError (Option AuthenticatorEntry) :=
  .ok (if entry.slot = slot then some entry else found)

/-- `find_authenticator`. -/
def findAuthenticator (state : Bytes) (header : StateHeader) (slot : UInt16) :
    Outcome ProtocolError AuthenticatorEntry := do
  let found ← parseAuthenticators (keepSlot slot) state header none
  okOr .invalidWitness found

/-- The hash a verifier is referenced by. -/
def verifierField (auth : AuthenticatorEntry) : CellField :=
  if auth.verifierHashType = 0 then .dataHash else .typeHash

/-- One pass of the loop of `resolve_verifier`. -/
def matchVerifier (auth : AuthenticatorEntry) (index : Nat) (found : Option Nat) :
    Outcome ProtocolError (Flow (Option Nat)) :=
  match sysLoadCellByField ckbHash env 32 index .cellDep (verifierField auth) with
  | .ok hash =>
      if hash.length = 32 ∧ hash = auth.verifierCodeHash.val then
        if found.isSome then .err .invalidVerifierRef else .ok (.next (some index))
      else .ok (.next found)
  | .error .itemMissing => .ok (.next found)
  | .error .indexOutOfBound => .ok (.done found)
  | .error _ => .err .invalidVerifierRef

/-- `resolve_verifier`. -/
def resolveVerifier (auth : AuthenticatorEntry) : Outcome ProtocolError Nat := do
  let found ← forFrom (matchVerifier ckbHash env auth) (env.tx.cellDeps.length + 1) 0 none
  okOr .invalidVerifierRef found

end Contract

/-! ## Spawning a verifier -/

/-- The `write` call: what it reports, and what the child's pipe then holds. -/
def Vm.write (vm : Vm) (dep : Nat) (sent chunk : Bytes) : Except SysError (Nat × Bytes) :=
  match vm.accepts dep sent chunk with
  | .ok n => .ok (min n chunk.length, sent ++ chunk.take n)
  | .error e => .error e

/-- The `while offset < request.len()` loop; the result is what went through the
    pipe.  Every pass writes at least one byte, so `request.len() + 1` passes do. -/
def writeLoop (vm : Vm) (dep : Nat) (request : Bytes) :
    Nat → Nat → Bytes → Outcome ProtocolError Bytes
  | 0, _, _ => .abort
  | fuel + 1, offset, sent =>
      if offset < request.length then do
        let chunk ← slice request offset request.length
        let (written, sent) ← sysOr .verifierFailure (Vm.write vm dep sent chunk)
        rejectIf (written = 0) .verifierFailure
        let offset ← okOr .lengthOverflow (checkedAdd offset written)
        writeLoop vm dep request fuel offset sent
      else .ok sent

/-- `close(read_fd)`: the descriptor may already belong to the child. -/
def closeRead (vm : Vm) (fd : UInt64) : Outcome ProtocolError Unit :=
  match vm.close fd with
  | .ok () => .ok ()
  | .error .invalidFd => .ok ()
  | .error _ => .err .verifierFailure

/-- `spawn_verifier`. -/
def spawnVerifier (vm : Vm) (index : Nat) (request : Bytes) : Outcome ProtocolError Bool := do
  let (readFd, writeFd) ← sysOr .verifierFailure vm.pipe
  let _ ← sysOr .verifierFailure (vm.spawn index)
  closeRead vm readFd
  let sent ← writeLoop vm index request (request.length + 1) 0 []
  sysOr .verifierFailure (vm.close writeFd)
  let code ← sysOr .verifierFailure (vm.exit index sent)
  return code = 0

/-! ## `run` -/

/-- The threshold an operation is held to. -/
def thresholdFor (header : StateHeader) (operation : UInt8) : Outcome ProtocolError UInt16 :=
  if operation = opSpend then .ok header.spendThreshold
  else if operation = opRotate then .ok header.rotateThreshold
  else if operation = opRecovery then .ok header.recoveryThreshold
  else .err .invalidOperation

section Run

variable (ckbHash : Bytes → Byte32) (env : Env)

/-- The callback `run` gives to `parse_proofs`; the captured state is the weight. -/
def checkProof (current : Bytes) (header : StateHeader) (operation : UInt8)
    (capability : UInt16) (digest : Byte32) (weight : UInt32) (p : SlotProof) :
    Outcome ProtocolError UInt32 := do
  let auth ← findAuthenticator current header p.slot
  rejectIf (¬ holds auth capability) .invalidCapability
  let verifierIndex ← resolveVerifier ckbHash env auth
  let request ← encodeRequest auth operation digest p.proof
  let valid ← spawnVerifier env.vm verifierIndex request
  if valid then okOr .lengthOverflow (checkedAddU32 weight auth.weight.toUInt32)
  else .ok weight

/-- `run`. -/
def run : Outcome ProtocolError Unit := do
  let script ← loadCurrentScript env
  let lockArgs ← AccountLockArgs.parse (← scriptArgs script)
  let firstWitness ← loadWitness ckbHash env 0 .groupInput
  let lock ← witnessLock firstWitness
  let witnessHeader ← parseWitnessHeader lock
  rejectIf (witnessHeader.proofCount.toNat > authenticatorMaxCount) .invalidWitness
  let resolved ← resolveState ckbHash env witnessHeader.operation lockArgs.accountId
  let (stateHeader, _) ← validateState resolved.current
  rejectIf (witnessHeader.stateSequence ≠ stateHeader.sequence) .invalidSequence
  validateTransition env witnessHeader.operation resolved stateHeader
  let sighash ← canonicalGroupSighash ckbHash env
  let digest := authorizationDigest ckbHash witnessHeader.operation lockArgs.accountId
    stateHeader.sequence resolved.current sighash
  let capability ← capabilityForOperation witnessHeader.operation
  let threshold ← thresholdFor stateHeader witnessHeader.operation
  let weight ← parseProofs (checkProof ckbHash env resolved.current stateHeader
    witnessHeader.operation capability digest) lock witnessHeader 0
  rejectIf (weight < threshold.toUInt32) .thresholdUnsatisfied

/-- `program_entry`. -/
def programEntry : Outcome ProtocolError Int8 :=
  match run ckbHash env with
  | .ok () => .ok 0
  | .err e => .ok (Int8.ofNat e.code)
  | .abort => .abort

end Run

variable {ckbHash : Bytes → Byte32} {env : Env}

/-- **The script exits 0 exactly when `run` succeeds**: no error has the code 0. -/
theorem programEntry_eq_zero : programEntry ckbHash env = .ok 0 ↔ run ckbHash env = .ok () := by
  unfold programEntry
  cases run ckbHash env with
  | ok u => simp
  | err e => cases e <;> decide
  | abort => simp

/-! ## Where the state comes from -/

/-- The cell carries the account's type hash. -/
def isState (ckbHash : Bytes → Byte32) (accountId : Byte32) (cell : Cell) : Bool :=
  cell.typeHash ckbHash = some accountId

/-- The state is read from a dep: no input carries it, exactly one dep does. -/
structure FromDep (ckbHash : Bytes → Byte32) (env : Env) (accountId : Byte32) (current : Bytes) :
    Prop where
  noInput : ∀ input ∈ env.tx.inputs, isState ckbHash accountId input.cell = false
  dep : ∃ i cell, env.tx.cellDeps.findIdxs (isState ckbHash accountId) = [i]
    ∧ env.tx.cellDeps[i]? = some cell ∧ cell.data = current

/-- The state is consumed and replaced: exactly one input and exactly one output carry
    it, under byte-identical type scripts. -/
structure FromInput (ckbHash : Bytes → Byte32) (env : Env) (accountId : Byte32)
    (index : Nat) (input : Input) (output : Cell) : Prop where
  input_unique : (env.tx.inputs.map Input.cell).findIdxs (isState ckbHash accountId) = [index]
  input_at : env.tx.inputs[index]? = some input
  output_unique : ∃ o, env.tx.outputs.findIdxs (isState ckbHash accountId) = [o]
    ∧ env.tx.outputs[o]? = some output
  sameType : ∃ s t, input.cell.typeScript = some s ∧ output.typeScript = some t
    ∧ s.asBytes = t.asBytes

theorem sole_eq_ok {missing several : ProtocolError} {indices : List Nat} {i : Nat} :
    sole missing several indices = .ok i ↔ indices = [i] := by
  match indices with
  | [] => simp [sole]
  | [j] => simp [sole]
  | j :: k :: rest => simp [sole]

theorem resolveSpend_eq_ok {inputs : List Nat} {accountId : Byte32} {r : ResolvedState}
    (hinputs : inputs = (env.tx.inputs.map Input.cell).findIdxs (isState ckbHash accountId))
    (h : resolveSpend ckbHash env inputs accountId = .ok r) :
    FromDep ckbHash env accountId r.current := by
  unfold resolveSpend at h
  obtain ⟨hempty, h⟩ := rejectIf_bind_eq_ok.mp h
  rw [matchingTypeIndices_eq, ok_bind] at h
  obtain ⟨dep, hdep, h⟩ := bind_eq_ok.mp h
  obtain ⟨data, hdata, h⟩ := bind_eq_ok.mp h
  cases h
  obtain ⟨cell, hcell, hcurrent, -⟩ := loadCellData_eq_ok.mp hdata
  refine ⟨?_, dep, cell, sole_eq_ok.mp hdep, hcell, hcurrent⟩
  have hnil : (env.tx.inputs.map Input.cell).findIdxs (isState ckbHash accountId) = [] := by
    rw [← hinputs]
    exact List.isEmpty_iff.mp (not_not.mp hempty)
  intro input hmem
  exact List.findIdxs_eq_nil_iff.mp hnil _ (List.mem_map_of_mem hmem)

theorem resolveTransition_eq_ok {inputs : List Nat} {accountId : Byte32} {r : ResolvedState}
    (hinputs : inputs = (env.tx.inputs.map Input.cell).findIdxs (isState ckbHash accountId))
    (h : resolveTransition ckbHash env inputs accountId = .ok r) :
    ∃ index input output, FromInput ckbHash env accountId index input output
      ∧ r = { current := input.cell.data, successor := some output.data,
              stateInput := some index } := by
  unfold resolveTransition at h
  obtain ⟨index, hindex, h⟩ := bind_eq_ok.mp h
  rw [matchingTypeIndices_eq, ok_bind] at h
  obtain ⟨o, ho, h⟩ := bind_eq_ok.mp h
  obtain ⟨inputScript, hinputScript, h⟩ := bind_eq_ok.mp h
  obtain ⟨inputType, hinputType, h⟩ := bind_eq_ok.mp h
  obtain ⟨outputScript, houtputScript, h⟩ := bind_eq_ok.mp h
  obtain ⟨outputType, houtputType, h⟩ := bind_eq_ok.mp h
  obtain ⟨hsame, h⟩ := rejectIf_bind_eq_ok.mp h
  obtain ⟨current, hcurrent, h⟩ := bind_eq_ok.mp h
  obtain ⟨successor, hsuccessor, h⟩ := bind_eq_ok.mp h
  cases h
  rw [okOr_eq_ok] at hinputType houtputType
  subst hinputType houtputType
  -- both loads of an index read the same cell, script and data
  obtain ⟨icell, s, hicell, hs, hsbytes, -⟩ := loadTypeScript_eq_some.mp hinputScript
  obtain ⟨ocell, t, hocell, ht, htbytes, -⟩ := loadTypeScript_eq_some.mp houtputScript
  obtain ⟨icell', hicell', hidata, -⟩ := loadCellData_eq_ok.mp hcurrent
  obtain ⟨ocell', hocell', hodata, -⟩ := loadCellData_eq_ok.mp hsuccessor
  cases Option.some.inj (hicell.symm.trans hicell')
  cases Option.some.inj (hocell.symm.trans hocell')
  have hin : (env.tx.inputs.map Input.cell)[index]? = some icell := hicell
  rw [List.getElem?_map] at hin
  obtain ⟨input, hinput, rfl⟩ := Option.map_eq_some_iff.mp hin
  refine ⟨index, input, ocell, ⟨?_, hinput, ⟨o, sole_eq_ok.mp ho, hocell⟩, s, t, hs, ht, ?_⟩, ?_⟩
  · rw [← hinputs]
    exact sole_eq_ok.mp hindex
  · rw [hsbytes, htbytes]
    exact not_not.mp hsame
  · rw [hidata, hodata]

/-- **Where `resolve_state` takes the state from.** -/
theorem resolveState_eq_ok {operation : UInt8} {accountId : Byte32} {r : ResolvedState}
    (h : resolveState ckbHash env operation accountId = .ok r) :
    (operation = opSpend ∧ FromDep ckbHash env accountId r.current)
    ∨ ((operation = opRotate ∨ operation = opRecovery)
      ∧ ∃ index input output, FromInput ckbHash env accountId index input output
        ∧ r = { current := input.cell.data, successor := some output.data,
                stateInput := some index }) := by
  unfold resolveState at h
  rw [matchingTypeIndices_eq, ok_bind] at h
  by_cases hspend : operation = opSpend
  · rw [if_pos hspend] at h
    exact Or.inl ⟨hspend, resolveSpend_eq_ok rfl h⟩
  · rw [if_neg hspend] at h
    by_cases htrans : operation = opRotate ∨ operation = opRecovery
    · rw [if_pos htrans] at h
      exact Or.inr ⟨htrans, resolveTransition_eq_ok rfl h⟩
    · rw [if_neg htrans] at h
      cases h

/-! ## What a successor must satisfy -/

theorem checkedSucc_eq_some {sequence next : UInt64} :
    checkedSucc sequence = some next ↔ next.toNat = sequence.toNat + 1 := by
  unfold checkedSucc
  split
  · rename_i h
    rw [Option.some.injEq, ← UInt64.toNat_inj, UInt64.toNat_add,
      show (1 : UInt64).toNat = 1 from rfl, Nat.mod_eq_of_lt h]
    exact eq_comm
  · rename_i h
    have := next.toNat_lt
    constructor
    · intro hc
      cases hc
    · intro hc
      omega

/-- The `since` of the state input, as the recovery check reads it. -/
theorem checkRecovery_eq_ok {resolved : ResolvedState} {header : StateHeader} {u : Unit} :
    checkRecovery env resolved header = .ok u
      ↔ recoveryEnabled header = true ∧ ∃ index input, resolved.stateInput = some index
        ∧ env.tx.inputs[index]? = some input ∧ header.recoverySince ≤ input.since := by
  unfold checkRecovery
  constructor
  · intro h
    obtain ⟨hen, h⟩ := rejectIf_bind_eq_ok.mp h
    obtain ⟨index, hindex, h⟩ := bind_eq_ok.mp h
    obtain ⟨since, hsince, h⟩ := bind_eq_ok.mp h
    rw [okOr_eq_ok] at hindex
    unfold sysLoadInputSince at hsince
    cases hinput : env.tx.inputs[index]? with
    | none =>
        rw [hinput] at hsince
        cases hsince
    | some input =>
        rw [hinput] at hsince
        simp only [store_of_le (Nat.le_of_eq (u64Le_length _))] at hsince
        cases hsince
        rw [rejectIf_eq_ok, u64FromLe_u64Le, UInt64.not_lt] at h
        exact ⟨not_not.mp hen, index, input, hindex, hinput, h⟩
  · rintro ⟨hen, index, input, hindex, hinput, hle⟩
    rw [rejectIf_neg (not_not.mpr hen), ok_bind, hindex, okOr_some, ok_bind, sysLoadInputSince,
      hinput]
    simp only [store_of_le (Nat.le_of_eq (u64Le_length _)), sysOr, ok_bind, u64FromLe_u64Le]
    exact rejectIf_neg (UInt64.not_lt.mpr hle) _

/-- The successor is valid and carries the next sequence. -/
def Succeeds (header : StateHeader) (successor : Bytes) (next : StateHeader) : Prop :=
  (∃ summary, validateState successor = .ok (next, summary))
    ∧ next.sequence.toNat = header.sequence.toNat + 1

/-- **What `validate_transition` demands** of a rotation or a recovery. -/
theorem validateTransition_eq_ok {operation : UInt8} {resolved : ResolvedState}
    {header : StateHeader} {u : Unit} (hop : operation ≠ opSpend) :
    validateTransition env operation resolved header = .ok u
      ↔ (∃ successor next, resolved.successor = some successor
          ∧ Succeeds header successor next)
        ∧ (operation = opRecovery → checkRecovery env resolved header = .ok ()) := by
  unfold validateTransition
  rw [if_neg hop]
  have hbranch : (if operation = opRecovery then checkRecovery env resolved header
      else Outcome.ok ()) = .ok u
      ↔ (operation = opRecovery → checkRecovery env resolved header = .ok ()) := by
    split
    · rename_i hrec
      exact ⟨fun h _ => h, fun h => h hrec⟩
    · rename_i hrec
      exact ⟨fun _ hc => absurd hc hrec, fun _ => rfl⟩
  constructor
  · intro h
    obtain ⟨successor, hsuccessor, h⟩ := bind_eq_ok.mp h
    obtain ⟨⟨next, summary⟩, hvalid, h⟩ := bind_eq_ok.mp h
    obtain ⟨expected, hexpected, h⟩ := bind_eq_ok.mp h
    obtain ⟨hseq, h⟩ := rejectIf_bind_eq_ok.mp h
    rw [okOr_eq_ok] at hsuccessor hexpected
    -- the successor carries the next sequence number, so the sum did not wrap
    rw [← not_not.mp hseq, checkedSucc_eq_some] at hexpected
    exact ⟨⟨successor, next, hsuccessor, ⟨summary, hvalid⟩, hexpected⟩, hbranch.mp h⟩
  · rintro ⟨⟨successor, next, hsuccessor, ⟨summary, hvalid⟩, hseq⟩, hrec⟩
    rw [hsuccessor, okOr_some, ok_bind, hvalid, ok_bind]
    simp only [checkedSucc_eq_some.mpr hseq, okOr_some, ok_bind]
    rw [rejectIf_neg (not_not.mpr rfl), ok_bind]
    exact hbranch.mpr hrec

/-! ## One proof -/

/-- The callback of `find_authenticator` ends with an entry of the slot, if any. -/
theorem visit_keepSlot {slot : UInt16} {es : List AuthenticatorEntry}
    {found : Option AuthenticatorEntry} (h : visit (keepSlot slot) es none = .ok found) :
    ∀ auth, found = some auth → auth ∈ es ∧ auth.slot = slot := by
  have hrun := visit_induction
    (P := fun seen found => ∀ auth, found = some auth → auth ∈ seen ∧ auth.slot = slot)
    (f := keepSlot slot) ?_ es [] (s := none) (fun _ hc => nomatch hc) h
  · rw [List.nil_append] at hrun
    exact hrun
  · intro seen found entry found' ih hstep auth hauth
    cases hstep
    by_cases hslot : entry.slot = slot
    · rw [if_pos hslot] at hauth
      cases hauth
      exact ⟨List.mem_append_right _ (List.mem_singleton.mpr rfl), hslot⟩
    · rw [if_neg hslot] at hauth
      obtain ⟨hmem, hs⟩ := ih auth hauth
      exact ⟨List.mem_append_left _ hmem, hs⟩

/-- **`find_authenticator` returns the entry of the slot.** -/
theorem findAuthenticator_eq_ok {state : Bytes} {header : StateHeader}
    {es : List AuthenticatorEntry} (hv : ValidState state header es) {slot : UInt16}
    {auth : AuthenticatorEntry} (h : findAuthenticator state header slot = .ok auth) :
    auth ∈ es ∧ auth.slot = slot := by
  unfold findAuthenticator at h
  rw [hv.parseAuthenticators_eq] at h
  obtain ⟨found, hfound, h⟩ := bind_eq_ok.mp h
  exact visit_keepSlot hfound auth (okOr_eq_ok.mp h)

/-- The cell is the verifier an authenticator refers to. -/
def isVerifier (ckbHash : Bytes → Byte32) (auth : AuthenticatorEntry) (cell : Cell) : Bool :=
  if auth.verifierHashType = 0 then cell.dataHash ckbHash = auth.verifierCodeHash
  else cell.typeHash ckbHash = some auth.verifierCodeHash

/-- One pass of the verifier loop at a dep that exists. -/
theorem matchVerifier_of_some {auth : AuthenticatorEntry} {index : Nat} {found : Option Nat}
    {cell : Cell} (h : env.tx.cellDeps[index]? = some cell) :
    matchVerifier ckbHash env auth index found
      = (if isVerifier ckbHash auth cell then
          (if found.isSome then .err .invalidVerifierRef else .ok (some index))
        else .ok found) >>= fun found' => .ok (.next found') := by
  have hcell : (env.cells ckbHash .cellDep)[index]? = some cell := h
  have hval : ∀ hash : Byte32, (hash.val.length = 32 ∧ hash.val = auth.verifierCodeHash.val)
      ↔ hash = auth.verifierCodeHash :=
    fun hash => ⟨fun hc => Subtype.ext hc.2, fun hc => ⟨hash.property, by rw [hc]⟩⟩
  unfold matchVerifier sysLoadCellByField
  simp only [hcell]
  by_cases htype : auth.verifierHashType = 0
  · simp only [verifierField, isVerifier, if_pos htype,
      store_of_le (Nat.le_of_eq (cell.dataHash ckbHash).property), hval, decide_eq_true_eq]
    split
    · split <;> rfl
    · rfl
  · simp only [verifierField, isVerifier, if_neg htype]
    cases hhash : cell.typeHash ckbHash with
    | none => simp
    | some hash =>
        simp only [store_of_le (Nat.le_of_eq hash.property), hval, Option.some.injEq,
          decide_eq_true_eq]
        split
        · split <;> rfl
        · rfl

theorem matchVerifier_of_none {auth : AuthenticatorEntry} {index : Nat} {found : Option Nat}
    (h : env.tx.cellDeps[index]? = none) :
    matchVerifier ckbHash env auth index found = .ok (.done found) := by
  have hcell : (env.cells ckbHash .cellDep)[index]? = none := h
  unfold matchVerifier sysLoadCellByField
  simp only [hcell]

/-- **`resolve_verifier` succeeds exactly on a unique dep.** -/
theorem resolveVerifier_eq_ok {auth : AuthenticatorEntry} {i : Nat} :
    resolveVerifier ckbHash env auth = .ok i
      ↔ env.tx.cellDeps.findIdxs (isVerifier ckbHash auth) = [i] := by
  unfold resolveVerifier
  rw [forFrom_eq_foldIdx (fun index (cell : Cell) (found : Option Nat) =>
      if isVerifier ckbHash auth cell then
        (if found.isSome then .err .invalidVerifierRef else .ok (some index))
      else .ok found) env.tx.cellDeps _ 0 none (Nat.lt_succ_self _)]
  · rw [bind_eq_ok]
    simp only [okOr_eq_ok]
    have hfold := foldIdx_unique (isVerifier ckbHash auth) ProtocolError.invalidVerifierRef
      (fun index (cell : Cell) (found : Option Nat) =>
        if isVerifier ckbHash auth cell then
          (if found.isSome then .err .invalidVerifierRef else .ok (some index))
        else .ok found)
      (fun i x found hx => by simp [hx]) (fun i x hx => by simp [hx])
      (fun i x j hx => by simp [hx]) env.tx.cellDeps 0 none i
    constructor
    · rintro ⟨found, hrun, rfl⟩
      exact hfold.mp hrun
    · intro h
      exact ⟨some i, hfold.mpr h, rfl⟩
  · intro k cell found hcell
    rw [Nat.zero_add]
    exact matchVerifier_of_some hcell
  · intro found
    rw [Nat.zero_add]
    exact matchVerifier_of_none (List.getElem?_eq_none (Nat.le_refl _))

/-- **The write loop sends the request and nothing else**: after `offset` bytes the
    pipe has taken exactly the first `offset` bytes. -/
theorem writeLoop_eq_ok {vm : Vm} {dep : Nat} {request : Bytes} :
    ∀ (fuel offset : Nat) (sent out : Bytes), offset ≤ request.length →
      sent = request.take offset → writeLoop vm dep request fuel offset sent = .ok out →
      out = request := by
  intro fuel
  induction fuel with
  | zero => intro offset sent out _ _ h; cases h
  | succ fuel ih =>
      intro offset sent out hle hsent h
      rw [writeLoop] at h
      by_cases hlt : offset < request.length
      · rw [if_pos hlt] at h
        obtain ⟨chunk, hchunk, h⟩ := bind_eq_ok.mp h
        obtain ⟨-, rfl⟩ := slice_eq_ok.mp hchunk
        rw [List.take_of_length_le (by rw [List.length_drop])] at h
        obtain ⟨⟨written, sent'⟩, hwrite, h⟩ := bind_eq_ok.mp h
        obtain ⟨hpos, h⟩ := rejectIf_bind_eq_ok.mp h
        obtain ⟨offset', hoffset', h⟩ := bind_eq_ok.mp h
        obtain ⟨rfl, -⟩ := checkedAdd_eq_some.mp (okOr_eq_ok.mp hoffset')
        unfold Vm.write at hwrite
        cases haccept : vm.accepts dep sent (request.drop offset) with
        | error e =>
            rw [haccept] at hwrite
            cases hwrite
        | ok n =>
            rw [haccept] at hwrite
            cases hwrite
            -- what has been sent is the request up to the new offset
            refine ih _ _ out ?_ ?_ h
            · rw [List.length_drop]
              omega
            · rw [hsent, List.length_drop, List.take_add]
              congr 1
              rw [← List.length_drop, List.take_eq_take_min]
      · rw [if_neg hlt] at h
        cases h
        rw [hsent, List.take_of_length_le (by omega)]

/-- **A counted child exited 0 on exactly the request.** -/
theorem spawnVerifier_eq_true {vm : Vm} {index : Nat} {request : Bytes}
    (h : spawnVerifier vm index request = .ok true) : vm.exit index request = .ok 0 := by
  unfold spawnVerifier at h
  obtain ⟨⟨readFd, writeFd⟩, -, h⟩ := bind_eq_ok.mp h
  obtain ⟨pid, -, h⟩ := bind_eq_ok.mp h
  obtain ⟨-, -, h⟩ := bind_eq_ok.mp h
  obtain ⟨sent, hsent, h⟩ := bind_eq_ok.mp h
  obtain ⟨-, -, h⟩ := bind_eq_ok.mp h
  obtain ⟨code, hcode, h⟩ := bind_eq_ok.mp h
  have hzero : code = 0 := of_decide_eq_true (Outcome.ok.inj h)
  subst hzero
  rw [writeLoop_eq_ok _ 0 [] sent (Nat.zero_le _) rfl hsent] at hcode
  cases hexit : vm.exit index request with
  | error e =>
      rw [hexit] at hcode
      cases hcode
  | ok c =>
      rw [hexit] at hcode
      cases hcode
      rfl

/-! ## The whole run -/

/-- What a run of AccountLock reads off the transaction: the account, the witness
    with its proofs, the current state, and the sighash. -/
structure RunView where
  accountId : Byte32
  lock : Bytes
  witness : AccountWitnessHeader
  proofs : List SlotProof
  current : Bytes
  header : StateHeader
  entries : List AuthenticatorEntry
  sighash : Byte32
  deriving DecidableEq, Repr

namespace RunView

/-- The operation that the witness asks for. -/
def operation (v : RunView) : UInt8 := v.witness.operation

/-- The digest the proofs are made over. -/
def digest (ckbHash : Bytes → Byte32) (v : RunView) : Byte32 :=
  authorizationDigest ckbHash v.operation v.accountId v.header.sequence v.current v.sighash

end RunView

/-- The view is the one the contract computes, state placement aside. -/
structure Viewed (ckbHash : Bytes → Byte32) (env : Env) (v : RunView) : Prop where
  args : env.script.args = accountLockVersion :: v.accountId.val
  lock : ∃ w, env.witnessAt ckbHash 0 .groupInput = some w ∧ witnessLock w = .ok v.lock
  witness : parseWitnessHeader v.lock = .ok v.witness
  proofs : parseProofs collect v.lock v.witness [] = .ok v.proofs
  valid : ∃ summary, validateState v.current = .ok (v.header, summary)
  entries : parseAuthenticators collect v.current v.header [] = .ok v.entries
  sequence : v.witness.stateSequence = v.header.sequence
  sighash : canonicalGroupSighash ckbHash env = .ok v.sighash

/-- The state is where the operation wants it, and a replaced state has a successor. -/
structure Placed (ckbHash : Bytes → Byte32) (env : Env) (v : RunView) : Prop where
  spend : v.operation = opSpend → FromDep ckbHash env v.accountId v.current
  transition : v.operation ≠ opSpend → ∃ index input output next,
    FromInput ckbHash env v.accountId index input output ∧ input.cell.data = v.current
      ∧ Succeeds v.header output.data next
      ∧ (v.operation = opRecovery →
        recoveryEnabled v.header = true ∧ v.header.recoverySince ≤ input.since)

/-- A proof that counts: its slot is that of one entry of the current state, which
    holds the capability and whose verifier, a unique dep, exited 0 on the request. -/
structure Counted (ckbHash : Bytes → Byte32) (env : Env) (v : RunView) (capability : UInt16)
    (auth : AuthenticatorEntry) (proof : Bytes) : Prop where
  mem : auth ∈ v.entries
  unique : ∀ other ∈ v.entries, other.slot = auth.slot → other = auth
  capable : holds auth capability = true
  verified : ∃ dep request, env.tx.cellDeps.findIdxs (isVerifier ckbHash auth) = [dep]
    ∧ encodeRequest auth v.operation (v.digest ckbHash) proof = .ok request
    ∧ env.vm.exit dep request = .ok 0

/-- The slot and proof of a counted entry, as the witness has them. -/
def slotProofOf (c : AuthenticatorEntry × Bytes) : SlotProof :=
  { slot := c.1.slot, proof := c.2 }

/-- The total weight of the counted entries. -/
def countedWeight (counted : List (AuthenticatorEntry × Bytes)) : Nat :=
  (counted.map (fun c => c.1.weight.toNat)).sum

/-- The proofs that count come from the witness, in order, and reach a weight. -/
structure Tally (ckbHash : Bytes → Byte32) (env : Env) (v : RunView) (capability : UInt16)
    (seen : List SlotProof) (weight : Nat) (counted : List (AuthenticatorEntry × Bytes)) :
    Prop where
  fromWitness : (counted.map slotProofOf).Sublist seen
  each : ∀ c ∈ counted, Counted ckbHash env v capability c.1 c.2
  total : countedWeight counted = weight

/-- One call of the callback keeps a tally. -/
theorem Tally.step {v : RunView} (hv : ValidState v.current v.header v.entries)
    {capability : UInt16} {seen : List SlotProof} {weight weight' : UInt32}
    {counted : List (AuthenticatorEntry × Bytes)} {p : SlotProof}
    (ht : Tally ckbHash env v capability seen weight.toNat counted)
    (h : checkProof ckbHash env v.current v.header v.operation capability (v.digest ckbHash)
      weight p = .ok weight') :
    ∃ counted', Tally ckbHash env v capability (seen ++ [p]) weight'.toNat counted' := by
  unfold checkProof at h
  obtain ⟨auth, hauth, h⟩ := bind_eq_ok.mp h
  obtain ⟨hcap, h⟩ := rejectIf_bind_eq_ok.mp h
  obtain ⟨dep, hdep, h⟩ := bind_eq_ok.mp h
  obtain ⟨request, hrequest, h⟩ := bind_eq_ok.mp h
  obtain ⟨valid, hvalid, h⟩ := bind_eq_ok.mp h
  obtain ⟨hmem, hslot⟩ := findAuthenticator_eq_ok hv hauth
  cases valid with
  | false =>
      -- a verifier that says no leaves the weight and the counted slots as they are
      cases h
      exact ⟨counted, ht.fromWitness.trans (List.sublist_append_left seen [p]), ht.each,
        ht.total⟩
  | true =>
      rw [if_pos rfl, okOr_eq_ok, checkedAddU32_eq_some, UInt16.toNat_toUInt32] at h
      refine ⟨counted ++ [(auth, p.proof)], ?_, ?_, ?_⟩
      · -- the proofs counted so far stay a sublist of the witness, in its order
        have hlast : slotProofOf (auth, p.proof) = p := by
          rw [slotProofOf, hslot]
        rw [List.map_append, List.map_singleton, hlast]
        exact ht.fromWitness.append (List.Sublist.refl [p])
      · intro c hc
        rcases List.mem_append.mp hc with hc | hc
        · exact ht.each c hc
        · rw [List.mem_singleton.mp hc]
          exact ⟨hmem, fun other ho hs => hv.eq_of_slot_eq ho hmem hs, not_not.mp hcap, dep,
            request, resolveVerifier_eq_ok.mp hdep, hrequest, spawnVerifier_eq_true hvalid⟩
      · rw [h, ← ht.total, countedWeight, countedWeight, List.map_append, List.sum_append]
        simp

/-- **What an accepting run establishes.** -/
theorem run_eq_ok (h : run ckbHash env = .ok ()) :
    ∃ v capability threshold counted, Viewed ckbHash env v ∧ Placed ckbHash env v
      ∧ capabilityForOperation v.operation = .ok capability
      ∧ thresholdFor v.header v.operation = .ok threshold
      ∧ (v.proofs.map SlotProof.slot).Nodup
      ∧ Tally ckbHash env v capability v.proofs (countedWeight counted) counted
      ∧ threshold.toNat ≤ countedWeight counted := by
  unfold run at h
  obtain ⟨script, hscript, h⟩ := bind_eq_ok.mp h
  obtain ⟨args, hargs, h⟩ := bind_eq_ok.mp h
  obtain ⟨lockArgs, hlockArgs, h⟩ := bind_eq_ok.mp h
  obtain ⟨first, hfirst, h⟩ := bind_eq_ok.mp h
  obtain ⟨lock, hlock, h⟩ := bind_eq_ok.mp h
  obtain ⟨witness, hwitness, h⟩ := bind_eq_ok.mp h
  obtain ⟨-, h⟩ := rejectIf_bind_eq_ok.mp h
  obtain ⟨resolved, hresolved, h⟩ := bind_eq_ok.mp h
  obtain ⟨⟨header, summary⟩, hvalid, h⟩ := bind_eq_ok.mp h
  obtain ⟨hsequence, h⟩ := rejectIf_bind_eq_ok.mp h
  obtain ⟨htransition, h⟩ := unit_bind_eq_ok.mp h
  obtain ⟨sighash, hsighash, h⟩ := bind_eq_ok.mp h
  obtain ⟨capability, hcapability, h⟩ := bind_eq_ok.mp h
  obtain ⟨threshold, hthreshold, h⟩ := bind_eq_ok.mp h
  obtain ⟨weight, hweight, h⟩ := bind_eq_ok.mp h
  obtain ⟨es, hv, -⟩ := validateState_eq_ok.mp hvalid
  obtain ⟨proofs, hproofs, hnodup, -, hvisit⟩ := parseProofs_visit hwitness hweight
  have hscriptArgs : env.script.args = args := by
    obtain ⟨rfl, hsize⟩ := loadCurrentScript_eq_ok.mp hscript
    obtain ⟨codeHash, hashType, hbytes, -⟩ := scriptArgs_eq_ok.mp hargs
    have hlen := hsize
    rw [hbytes, Molecule.table_three_length] at hlen
    unfold maxScript at hlen
    exact (Molecule.fixvec_inj (Molecule.table_three_inj (by omega) hbytes.symm).2.2).symm
  obtain ⟨hargsEq, -⟩ := AccountLockArgs.parse_eq_ok.mp hlockArgs
  let v : RunView := ⟨lockArgs.accountId, lock, witness, proofs, resolved.current, header, es,
    sighash⟩
  have hviewed : Viewed ckbHash env v :=
    ⟨hscriptArgs.trans hargsEq, ⟨first, (loadWitness_eq_ok.mp hfirst).1, hlock⟩, hwitness,
      hproofs, ⟨summary, hvalid⟩, hv.collect_eq, not_not.mp hsequence, hsighash⟩
  have hplaced : Placed ckbHash env v := by
    rcases resolveState_eq_ok hresolved with ⟨hop, hdep⟩ | ⟨hop, index, input, output, hin, hr⟩
    · exact ⟨fun _ => hdep, fun hne => absurd hop hne⟩
    · subst hr
      refine ⟨fun hspend => ?_, fun hne => ?_⟩
      · have hspend : witness.operation = opSpend := hspend
        rcases hop with hop | hop <;> rw [hop] at hspend <;> exact absurd hspend (by decide)
      · obtain ⟨⟨successor, next, hsucc, hnext⟩, hrec⟩ :=
          (validateTransition_eq_ok hne).mp htransition
        cases hsucc
        refine ⟨index, input, output, next, hin, rfl, hnext, fun hop => ?_⟩
        obtain ⟨hen, i, inp, hi, hinp, hle⟩ := checkRecovery_eq_ok.mp (hrec hop)
        cases hi
        rw [hin.input_at] at hinp
        cases hinp
        exact ⟨hen, hle⟩
  -- the callback's weight is a tally of the proofs seen so far
  have htally := visit_induction
    (P := fun seen weight => ∃ counted, Tally ckbHash env v capability seen
      (UInt32.toNat weight) counted)
    (f := checkProof ckbHash env resolved.current header witness.operation capability
      (authorizationDigest ckbHash witness.operation lockArgs.accountId header.sequence
        resolved.current sighash))
    (fun seen w p w' ⟨counted, ht⟩ hstep => ht.step hv hstep) proofs []
    ⟨[], List.Sublist.refl [], fun _ hc => absurd hc List.not_mem_nil, rfl⟩ hvisit
  rw [List.nil_append] at htally
  obtain ⟨counted, ht⟩ := htally
  refine ⟨v, capability, threshold, counted, hviewed, hplaced, hcapability, hthreshold, hnodup,
    ⟨ht.fromWitness, ht.each, rfl⟩, ?_⟩
  rw [rejectIf_eq_ok, UInt32.not_lt, UInt32.le_iff_toNat_le, UInt16.toNat_toUInt32] at h
  rw [ht.total]
  exact h

end CkbAccountLock
