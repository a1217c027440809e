import CkbAccount.MergeProofs
import CkbAccount.SpendReadyProofs

/-! # The demo's spend on the chain

    A transaction of the browser is hex text and out points; AccountLock sees bytes and cells.
    Here the two meet: the chain resolves the transaction through the cells the client showed.

    * `spends_of_resolves`: what AccountLock finds in the finalized transaction;
    * `prepare_of_spends`: every check before the proof loop passes, and the digest there is
      the one the browser had signed;
    * `run_of_spends`: the loop starts one child, and its answer decides;
    * `prepared_spend_reaches_verifier`: the whole way from the account to the verifier. -/

namespace CkbSpend

open RustOutcome Outcome LittleEndian Molecule RecordLoop CkbProtocol CkbStatePolicy CkbLoad
open CkbWitnessTable CkbWitnessWire CkbRequestWire CkbProofWire CkbSighash CkbAccountLock
open CkbHostCodec CkbHostDigest CkbMerge CkbSchemas
open CkbStateWire (StateHeader AuthenticatorEntry)
open CkbTransaction (Env Input)
open CkbCreation (HashType Script CellOutput)
open CkbBrowserCodec (JsError)

/-! ## Resolving a transaction -/

/-- The byte of a hash type. -/
def hashTypeByte : HashType → UInt8
  | .data => 0
  | .type => 1
  | .data1 => 2
  | .data2 => 4

/-- The chain's script behind a script of the package. -/
structure ChainScript (ccc : Package) (s : Script) (c : CkbTransaction.Script) : Prop where
  codeHash : ccc.bytesFrom s.codeHash = some c.codeHash.val
  hashType : c.hashType = hashTypeByte s.hashType
  args : ccc.bytesFrom s.args = some c.args

/-- The chain's cell behind an output and its data. -/
structure ChainCell (ccc : Package) (output : CellOutput) (data : String)
    (c : CkbTransaction.Cell) : Prop where
  lock : ChainScript ccc output.lock c.lock
  type : Option.Rel (ChainScript ccc) output.type c.typeScript
  data : ccc.bytesFrom data = some c.data

/-- The cell an out point stands for is the one the client shows as live there. -/
def ShownAt (ccc : Package) (client : SpendClient) (outPoint : OutPoint)
    (c : CkbTransaction.Cell) : Prop :=
  ∃ cell, client.getCellLive outPoint = .ok (some cell)
    ∧ ChainCell ccc cell.cellOutput cell.outputData c

/-- A run of AccountLock over a transaction of the package: `env` holds the transaction, its
    inputs and deps resolved through the client's view. -/
structure Resolves (ccc : Package) (client : SpendClient) (lock : Script) (t : Transaction)
    (env : Env) : Prop where
  script : ChainScript ccc lock env.script
  hash : (ccc.transactionHash t).bind ccc.bytesFrom = some env.tx.hash.val
  inputs : List.Forall₂ (fun i (c : Input) => ShownAt ccc client i.previousOutput c.cell
    ∧ c.since = UInt64.ofNat i.since) t.inputs env.tx.inputs
  outputs : List.Forall₂ (fun o c => ChainCell ccc o.1 o.2 c) (t.outputs.zip t.outputsData)
    env.tx.outputs
  cellDeps : List.Forall₂ (fun d c => d.depType = .code ∧ ShownAt ccc client d.outPoint c)
    t.cellDeps env.tx.cellDeps
  witnesses : List.Forall₂ (fun w b => ccc.bytesFrom w = some b) t.witnesses env.tx.witnesses

/-- The package does what it is documented to do: its codec is Molecule's, it reads hex text,
    and the hash of a script is the chain's hash of the serialized script. -/
structure Package.Follows (ccc : Package) (ckbHash : Bytes → Byte32) : Prop where
  codec : ccc.codec.Follows ckbHash
  hex : ∀ bytes, ccc.bytesFrom (hexFromBytes bytes) = some bytes
  scripts : ∀ s c, ChainScript ccc s c → ccc.scriptHash s = hexFromBytes (ckbHash c.asBytes).val

/-- The state dep is the only dep with the account's type hash, and the verifier dep is the
    only one with the verifier's data hash. -/
structure UniqueDeps (ckbHash : Bytes → Byte32) (account : VerifiedAccount) (env : Env) :
    Prop where
  state : ∀ i c hash, env.tx.cellDeps[i]? = some c → c.typeHash ckbHash = some hash →
    hexFromBytes hash.val = account.manifest.accountId → i = 2
  verifier : ∀ i c, env.tx.cellDeps[i]? = some c →
    (hexFromBytes (c.dataHash ckbHash).val = account.deployment.verifierP256Code.codeHash ↔ i = 1)

/-- A script of the package stands for one script of the chain. -/
theorem ChainScript.unique {ccc : Package} {s : Script} {c c' : CkbTransaction.Script}
    (h : ChainScript ccc s c) (h' : ChainScript ccc s c') : c = c' := by
  obtain ⟨codeHash, hashType, args⟩ := c
  obtain ⟨codeHash', hashType', args'⟩ := c'
  have hcode := Option.some.inj (h.codeHash.symm.trans h'.codeHash)
  have hargs := Option.some.inj (h.args.symm.trans h'.args)
  have htype : hashType = hashType' := h.hashType.trans h'.hashType.symm
  rw [show codeHash = codeHash' from Subtype.ext hcode, htype, show args = args' from hargs]

/-! ## What AccountLock finds -/

/-- A transaction that spends one cell of an account under one witness. -/
structure Spends (ckbHash : Bytes → Byte32) (env : Env) (accountId verifier : Byte32)
    (state witness : Bytes) : Prop where
  args : env.script.args = accountLockVersion :: accountId.val
  input : ∃ input, env.tx.inputs = [input] ∧ input.cell.lock = env.script
    ∧ input.cell.typeScript = none
  witnesses : env.tx.witnesses = [witness]
  stateAt : env.tx.cellDeps.findIdxs (isState ckbHash accountId) = [2]
  stateData : ∃ cell, env.tx.cellDeps[2]? = some cell ∧ cell.data = state
  verifierAt : env.tx.cellDeps.findIdxs (fun c => c.dataHash ckbHash = verifier) = [1]

section Found

variable {ckbHash : Bytes → Byte32} {env : Env} {accountId verifier : Byte32}
  {state witness : Bytes}

/-- The one input is the whole script group. -/
theorem Spends.group (h : Spends ckbHash env accountId verifier state witness) :
    env.group ckbHash = [0] := by
  obtain ⟨input, hinputs, hlock, -⟩ := h.input
  rw [Env.group, hinputs]
  have hsame : input.cell.lockHash ckbHash = ckbHash env.script.asBytes := by
    rw [CkbTransaction.Cell.lockHash, hlock]
  simp [hsame]

/-- The first witness of the group is the one with the assertion, -/
theorem Spends.witnessAt (h : Spends ckbHash env accountId verifier state witness) :
    env.witnessAt ckbHash 0 .groupInput = some witness := by
  rw [witnessAt_first, h.group, h.witnesses]
  rfl

/-- there is no other in the group, -/
theorem Spends.restWitnesses (h : Spends ckbHash env accountId verifier state witness) :
    restWitnesses ckbHash env = [] := by
  rw [CkbSighash.restWitnesses, h.group]
  rfl

/-- and none beyond the inputs. -/
theorem Spends.extraWitnesses (h : Spends ckbHash env accountId verifier state witness) :
    extraWitnesses env = [] := by
  obtain ⟨input, hinputs, -, -⟩ := h.input
  rw [CkbSighash.extraWitnesses, h.witnesses, hinputs]
  rfl

/-- The state comes from the third dep. -/
theorem Spends.resolveState (h : Spends ckbHash env accountId verifier state witness)
    (hsize : state.length ≤ maxCellData) :
    resolveState ckbHash env opSpend accountId
      = .ok { current := state, successor := none, stateInput := none } := by
  obtain ⟨input, hinputs, -, htype⟩ := h.input
  obtain ⟨cell, hcell, hdata⟩ := h.stateData
  have hnone : (env.cells ckbHash .input).findIdxs
      (fun c => c.typeHash ckbHash = some accountId) = [] := by
    have hhash : input.cell.typeHash ckbHash = none := by
      rw [CkbTransaction.Cell.typeHash, htype]
      rfl
    rw [CkbTransaction.Env.cells, hinputs]
    simp [hhash]
  have hstate : (env.cells ckbHash .cellDep).findIdxs
      (fun c => c.typeHash ckbHash = some accountId) = [2] := h.stateAt
  have hload : loadCellData ckbHash env 2 .cellDep = .ok state :=
    loadCellData_eq_ok.mpr ⟨cell, hcell, hdata, hsize⟩
  rw [CkbAccountLock.resolveState, matchingTypeIndices_eq, ok_bind, if_pos rfl, hnone, resolveSpend,
    rejectIf_neg (fun hne => hne rfl), ok_bind, matchingTypeIndices_eq, ok_bind, hstate]
  show (loadCellData ckbHash env 2 .cellDep >>= _) = _
  rw [hload]
  rfl

/-- **The sighash of the finalized transaction** is the one over the placeholder: the lock
    field is left out of it. -/
theorem Spends.canonicalGroupSighash {sequence : UInt64} {proof : Bytes}
    (h : Spends ckbHash env accountId verifier state (proofArgs sequence proof).asBytes)
    (hfits : (proofArgs sequence proof).asBytes.length ≤ maxWitness) :
    canonicalGroupSighash ckbHash env = .ok (ckbHash (streamOf env.tx.hash [] [] [] [])) := by
  have hparts : StreamParts ckbHash env
      (fixvec (witnessLayout opSpend sequence [slotProof proof])) [] [] := by
    refine ⟨h.witnessAt, hfits, ?_, ?_⟩
    · rw [h.restWitnesses]
      exact fun w hw => absurd hw List.not_mem_nil
    · rw [h.extraWitnesses]
      exact fun w hw => absurd hw List.not_mem_nil
  rw [CkbSighash.canonicalGroupSighash, sighashStream_eq_ok.mpr ⟨_, _, _, hparts, rfl⟩, ok_bind,
    h.restWitnesses, h.extraWitnesses]
  rfl

end Found

/-! ## The run -/

/-- What `run` has when it enters its proof loop. -/
def spendPrepared (ckbHash : Bytes → Byte32) (accountId txHash verifier keyId : Byte32)
    (sequence : UInt64) (proof : Bytes) : Prepared where
  lock := witnessLayout opSpend sequence [slotProof proof]
  witness := witnessHeader opSpend sequence [slotProof proof]
  current := spendState sequence verifier keyId
  header := spendHeader sequence
  digest := CkbSighash.authorizationDigest ckbHash opSpend accountId sequence
    (spendState sequence verifier keyId) (ckbHash (streamOf txHash [] [] [] []))
  capability := capSpend
  threshold := 1

section Run

variable {ckbHash : Bytes → Byte32} {env : Env} {accountId verifier keyId : Byte32}
  {sequence : UInt64} {proof : Bytes}

/-- **Every check before the proof loop passes.** -/
theorem prepare_of_spends (henc : EncodableWitness opSpend [slotProof proof])
    (h : Spends ckbHash env accountId verifier (spendState sequence verifier keyId)
      (proofArgs sequence proof).asBytes) :
    prepare ckbHash env
      = .ok (spendPrepared ckbHash accountId env.tx.hash verifier keyId sequence proof) := by
  have hvalid := validState_spendState sequence verifier keyId
  -- an encodable witness is within the load buffer, its table header included
  have hfits : (proofArgs sequence proof).asBytes.length ≤ maxWitness := by
    have hle := witnessLayout_length_le sequence henc
    have hlen := proofArgs_length sequence proof
    have hmax : maxWitness = accountWitnessMaxLockLen + 1024 := rfl
    omega
  have hscript : env.script.asBytes.length ≤ maxScript := by
    rw [CkbTransaction.Script.asBytes, table_three_length, env.script.codeHash.property,
      fixvec_length, h.args]
    simp only [List.length_cons, List.length_nil, accountId.property]
    decide
  refine prepare_eq_ok.mpr ⟨⟨accountLockVersion, accountId⟩, (proofArgs sequence proof).asBytes,
    ⟨spendState sequence verifier keyId, none, none⟩, ckbHash (streamOf env.tx.hash [] [] [] []), ?_⟩
  exact {
    args := ⟨_, _, loadCurrentScript_eq_ok.mpr ⟨rfl, hscript⟩,
      scriptArgs_eq_ok.mpr ⟨_, _, rfl, Nat.lt_of_le_of_lt hscript (by decide)⟩,
      AccountLockArgs.parse_eq_ok.mpr ⟨h.args, rfl⟩⟩
    loaded := loadWitness_eq_ok.mpr ⟨h.witnessAt, hfits⟩
    lock := witnessLock_witnessArgs hfits
    witness := (henc.parses sequence).1
    count := show (1 : UInt8).toNat ≤ authenticatorMaxCount by decide
    state := h.resolveState hvalid.size
    current := rfl
    valid := ⟨_, validateState_eq_ok.mpr ⟨_, hvalid, rfl⟩⟩
    sequence := rfl
    transition := rfl
    hashed := h.canonicalGroupSighash hfits
    digest := rfl
    capability := rfl
    threshold := rfl }

/-- The authenticator is found at slot 0, and is the only one. -/
theorem findAuthenticator_spendState :
    findAuthenticator (spendState sequence verifier keyId) (spendHeader sequence) 0
      = .ok (spendEntry verifier keyId) := by
  rw [findAuthenticator, (validState_spendState sequence verifier keyId).parseAuthenticators_eq]
  rfl

/-- The verifier is the second dep. -/
theorem Spends.resolveVerifier {state witness : Bytes}
    (h : Spends ckbHash env accountId verifier state witness) :
    resolveVerifier ckbHash env (spendEntry verifier keyId) = .ok 1 :=
  resolveVerifier_eq_ok.mpr h.verifierAt

/-- **The loop starts one child**, and writes nothing else down. -/
theorem runLoop_of_spends (henc : EncodableWitness opSpend [slotProof proof])
    (h : Spends ckbHash env accountId verifier (spendState sequence verifier keyId)
      (proofArgs sequence proof).asBytes) {request : Bytes}
    (hrequest : encodeRequest (spendEntry verifier keyId) opSpend
      (spendPrepared ckbHash accountId env.tx.hash verifier keyId sequence proof).digest proof
        = .ok request) :
    runLoop ckbHash env (spendPrepared ckbHash accountId env.tx.hash verifier keyId sequence proof)
      = spawnVerifier env.vm 1 request >>= fun valid =>
        .ok ⟨if valid then 1 else 0, [⟨0, 1, request, 1, valid⟩]⟩ := by
  let p := spendPrepared ckbHash accountId env.tx.hash verifier keyId sequence proof
  have hholds : ¬ ¬ holds (spendEntry verifier keyId) capSpend = true :=
    not_not.mpr (show decide ((capSpend ||| capRotate ||| capRecovery) &&& capSpend ≠ 0) = true by
      decide)
  have hspawn : spawnFor ckbHash env p (slotProof proof)
      = spawnVerifier env.vm 1 request >>= fun valid => .ok ⟨0, 1, request, 1, valid⟩ := by
    rw [spawnFor]
    show (findAuthenticator (spendState sequence verifier keyId) (spendHeader sequence) 0 >>= _) = _
    rw [findAuthenticator_spendState, ok_bind]
    show (rejectIf (¬ holds (spendEntry verifier keyId) capSpend = true) _ >>= _) = _
    rw [rejectIf_neg hholds, ok_bind, h.resolveVerifier, ok_bind]
    show (encodeRequest (spendEntry verifier keyId) opSpend p.digest proof >>= _) = _
    rw [hrequest, ok_bind]
    rfl
  have hloop : runLoop ckbHash env p = spawnNext ckbHash env p ⟨0, []⟩ (slotProof proof) := by
    show parseProofs _ (witnessLayout opSpend sequence [slotProof proof])
      (witnessHeader opSpend sequence [slotProof proof]) _ = _
    rw [henc.parseProofs_eq sequence, visit]
    show (spawnNext ckbHash env p ⟨0, []⟩ (slotProof proof) >>= Outcome.ok) = _
    exact Outcome.bind_ok _
  rw [hloop, spawnNext, hspawn]
  -- what happened to the child
  cases spawnVerifier env.vm 1 request with
  | ok valid =>
      cases valid with
      | true => rfl
      | false => rfl
  | err e => rfl
  | abort => rfl

/-- **The answer of the child decides.** -/
theorem run_of_spends (henc : EncodableWitness opSpend [slotProof proof])
    (h : Spends ckbHash env accountId verifier (spendState sequence verifier keyId)
      (proofArgs sequence proof).asBytes) {request : Bytes}
    (hrequest : encodeRequest (spendEntry verifier keyId) opSpend
      (spendPrepared ckbHash accountId env.tx.hash verifier keyId sequence proof).digest proof
        = .ok request) :
    run ckbHash env = spawnVerifier env.vm 1 request >>= fun valid =>
      if valid then .ok () else .err .thresholdUnsatisfied := by
  rw [run_eq_runLoop, prepare_of_spends henc h, ok_bind, runLoop_of_spends henc h hrequest]
  cases spawnVerifier env.vm 1 request with
  | ok valid =>
      cases valid with
      | true => rfl
      | false => rfl
  | err e => rfl
  | abort => rfl

end Run

/-! ## From the browser to the chain -/

section Browser

variable {ccc : Package} {ckbHash : Bytes → Byte32} {client : SpendClient}
  {account : VerifiedAccount} {env : Env} {accountId verifier : Byte32}

/-- The cell behind an out point whose live cell is known. -/
theorem ShownAt.chainCell {outPoint : OutPoint} {cell : Cell} {c : CkbTransaction.Cell}
    (h : ShownAt ccc client outPoint c) (hlive : client.getCellLive outPoint = .ok (some cell)) :
    ChainCell ccc cell.cellOutput cell.outputData c := by
  obtain ⟨shown, hshown, hcell⟩ := h
  cases Outcome.ok.inj (hlive.symm.trans hshown)
  exact hcell

/-- **What AccountLock finds** in a transaction of the browser. -/
theorem spends_of_resolves (hccc : ccc.Follows ckbHash) (hbound : Bound ccc account accountId)
    {state asset : Cell} (hcells : Discovered client account state asset) {stateBytes : Bytes}
    (hstate : bytesFromHex state.outputData = .ok stateBytes)
    (hverifier : account.deployment.verifierP256Code.codeHash = hexFromBytes verifier.val)
    {funderLock : Script} {change : Int} {witness : Bytes}
    (hresolves : Resolves ccc client account.accountLock
      (spendTransaction account asset funderLock change witness) env)
    (hdeps : UniqueDeps ckbHash account env) :
    Spends ckbHash env accountId verifier stateBytes witness := by
  obtain ⟨input, inputs, ⟨hinput, -⟩, hinputs, hinputsEq⟩ :=
    List.forall₂_cons_left_iff.mp hresolves.inputs
  cases List.forall₂_nil_left_iff.mp hinputs
  obtain ⟨c₀, deps₁, -, hdeps₁, hdepsEq⟩ := List.forall₂_cons_left_iff.mp hresolves.cellDeps
  obtain ⟨c₁, deps₂, -, hdeps₂, rfl⟩ := List.forall₂_cons_left_iff.mp hdeps₁
  obtain ⟨c₂, deps₃, ⟨-, hshown⟩, hdeps₃, rfl⟩ := List.forall₂_cons_left_iff.mp hdeps₂
  cases List.forall₂_nil_left_iff.mp hdeps₃
  obtain ⟨w, ws, hw, hws, hwitnessesEq⟩ := List.forall₂_cons_left_iff.mp hresolves.witnesses
  cases List.forall₂_nil_left_iff.mp hws
  -- the input is the live asset
  have hinput : ShownAt ccc client account.manifest.assetOutPoint input.cell := by
    rw [← hcells.assetOutPoint]
    exact hinput
  have hassetCell := hinput.chainCell hcells.assetLive
  have hlock : input.cell.lock = env.script := by
    have hscript := hassetCell.lock
    rw [hcells.assetLock] at hscript
    exact hscript.unique hresolves.script
  have htype : input.cell.typeScript = none := by
    have hrel := hassetCell.type
    rw [hcells.assetType] at hrel
    cases htypeScript : input.cell.typeScript with
    | none => rfl
    | some script =>
        rw [htypeScript] at hrel
        cases hrel
  -- the third dep is the live state
  rw [hbound.stateDep] at hshown
  have hstateCell := hshown.chainCell hcells.stateLive
  have hstateHash : isState ckbHash accountId c₂ = true := by
    have hrel := hstateCell.type
    rw [hcells.stateType] at hrel
    cases htypeScript : c₂.typeScript with
    | none =>
        rw [htypeScript] at hrel
        cases hrel
    | some script =>
        rw [htypeScript] at hrel
        cases hrel with
        | some hscript =>
            have hhash := (hccc.scripts _ _ hscript).symm.trans hbound.stateType
            rw [isState, CkbTransaction.Cell.typeHash, htypeScript]
            exact decide_eq_true (congrArg some (Subtype.ext (hexFromBytes_injective hhash)))
  have hdata : c₂.data = stateBytes := by
    have hread := hstateCell.data
    rw [(bytesFromHex_eq_ok.mp hstate).2, hccc.hex] at hread
    exact (Option.some.inj hread).symm
  -- and no other dep is
  have hother : ∀ i c, i ≠ 2 → env.tx.cellDeps[i]? = some c → isState ckbHash accountId c = false := by
    intro i c hi hc
    rw [isState, decide_eq_false_iff_not]
    exact fun hhash => hi (hdeps.state i c accountId hc hhash hbound.manifestId.symm)
  have hisVerifier : ∀ i c, env.tx.cellDeps[i]? = some c →
      (c.dataHash ckbHash = verifier ↔ i = 1) := by
    intro i c hc
    rw [← hdeps.verifier i c hc, hverifier]
    exact ⟨fun heq => by rw [heq], fun heq => Subtype.ext (hexFromBytes_injective heq)⟩
  rw [hdepsEq] at hother hisVerifier
  exact {
    args := by
      have hargs := hresolves.script.args
      rw [hbound.lockArgs, hccc.hex] at hargs
      exact (Option.some.inj hargs).symm
    input := ⟨input, hinputsEq, hlock, htype⟩
    witnesses := by
      rw [hwitnessesEq, Option.some.inj (hw.symm.trans (hccc.hex witness))]
    stateAt := by
      rw [hdepsEq]
      simp [hother 0 c₀ (by decide) rfl, hother 1 c₁ (by decide) rfl, hstateHash]
    stateData := ⟨c₂, by rw [hdepsEq]; rfl, hdata⟩
    verifierAt := by
      rw [hdepsEq]
      simp [hisVerifier 0 c₀ rfl, hisVerifier 1 c₁ rfl, hisVerifier 2 c₂ rfl] }

/-- The finalized transaction has the shape of the prepared one. -/
theorem FinalizedFrom.eq_spendTransaction {p : PreparedSpend} {assertion : AssertionMaterial}
    {t : Transaction} {publicKey proof witness : Bytes} {asset : Cell} {funderLock : Script}
    {change : Int} {placeholder : Bytes}
    (h : FinalizedFrom ccc p assertion t publicKey proof witness)
    (hp : p.transaction = spendTransaction account asset funderLock change placeholder) :
    t = spendTransaction account asset funderLock change witness := by
  rw [h.transaction, hp]
  rfl

/-- The proof is the layout of the assertion. -/
theorem FinalizedFrom.parseProof {p : PreparedSpend} {assertion : AssertionMaterial}
    {t : Transaction} {publicKey proof witness : Bytes}
    (h : FinalizedFrom ccc p assertion t publicKey proof witness)
    (hengine : ccc.codec.engine.Ample) :
    parseProof proof = .ok ⟨publicKey, textEncode clientOrigin, assertion.authenticatorData,
        assertion.clientDataJson, assertion.signature⟩
      ∧ proof.length ≤ verifierMaxProofLen := by
  let read : PasskeyProof := ⟨publicKey, textEncode clientOrigin, assertion.authenticatorData,
    assertion.clientDataJson, assertion.signature⟩
  have hhost : encodeP256Proof read.publicKey read.origin read.authenticatorData
      read.clientDataJson read.signature = .ok proof :=
    (CkbBrowserCodec.encodeP256Proof_iff hengine _ _).mp h.encoded
  obtain ⟨hwf, -, rfl⟩ := encodeP256Proof_eq_ok.mp hhost
  refine ⟨parseProof_eq_ok.mpr ⟨rfl, hwf⟩, ?_⟩
  have hkey := hwf.key
  have horigin := hwf.origin_lt
  have hdata : read.authenticatorData.length ≤ 1024 := h.data_le
  have hclient : read.clientDataJson.length ≤ 2048 := h.client_le
  have hsignature : read.signature.length ≤ 72 := h.signature_le
  have hmax : verifierMaxProofLen = 65536 := rfl
  simp only [PasskeyProof.layout, sized, List.length_append, List.length_cons, u16Le_length]
  omega

end Browser

/-- The request that the finalized transaction makes AccountLock send. -/
structure Requested (ckbHash : Bytes → Byte32) (env : Env) (accountId verifier : Byte32)
    (publicKey : Bytes) (sequence : UInt64) (proof request : Bytes) (r : VerifierRequest) :
    Prop where
  encoded : encodeRequest (spendEntry verifier (ckbHash publicKey)) opSpend
    (spendPrepared ckbHash accountId env.tx.hash verifier (ckbHash publicKey) sequence
      proof).digest proof = .ok request
  layout : request = r.layout
  wellFormed : r.WellFormed
  requestFor : RequestFor (spendEntry verifier (ckbHash publicKey)) opSpend
    (spendPrepared ckbHash accountId env.tx.hash verifier (ckbHash publicKey) sequence
      proof).digest proof r

/-- **What the two functions leave on the chain**, and the request that follows from it. -/
theorem spends_of_finalized {ccc : Package} {ckbHash : Bytes → Byte32}
    (hccc : ccc.Follows ckbHash) {datetime : String → Bool} {parseJson : Bytes → Option Json}
    {accountValue : Json} {deployment : VerifiedDeployment} {account : VerifiedAccount}
    (haccount : validateAccount ccc accountValue deployment = .ok account)
    {client : SpendClient} {funderAddress : String} {passkey passkey' : Json} {p : PreparedSpend}
    (hprepare : prepareSpend ccc datetime client account funderAddress passkey = .ok p)
    {assertion : AssertionMaterial} {t : Transaction}
    (hfinalize : finalizeSpend ccc datetime parseJson p passkey' assertion = .ok t)
    {env : Env} (hresolves : Resolves ccc client account.accountLock t env)
    (hdeps : UniqueDeps ckbHash account env) :
    ∃ accountId verifier publicKey sequence proof request r,
      SpendFrom ccc ckbHash client account p accountId env.tx.hash verifier publicKey sequence
        ∧ FinalizedFrom ccc p assertion t publicKey proof (proofArgs sequence proof).asBytes
        ∧ EncodableWitness opSpend [slotProof proof]
        ∧ Spends ckbHash env accountId verifier
          (spendState sequence verifier (ckbHash publicKey)) (proofArgs sequence proof).asBytes
        ∧ Requested ckbHash env accountId verifier publicKey sequence proof request r := by
  obtain ⟨accountId, hbound⟩ := validateAccount_eq_ok haccount
  obtain ⟨txHash, verifier, publicKey, sequence, hfrom⟩ :=
    prepareSpend_eq_ok hccc.codec hccc.hex hbound.manifestId hprepare
  obtain ⟨state, asset, funderLock, change, placeholder, draft, fee, hcells, hstateData, htx, -⟩ :=
    hfrom.cells
  obtain ⟨key, proof, witness, hfinal⟩ := finalizeSpend_eq_ok hfinalize
  cases Outcome.ok.inj (hfinal.keyBytes.symm.trans hfrom.keyBytes)
  have ht := hfinal.eq_spendTransaction htx
  have hseal := hfinal.sealedProof
  rw [hfrom.sequenceOf] at hseal
  obtain ⟨henc, rfl⟩ := sealProof_eq_ok hccc.codec hseal
  -- the chain
  obtain rfl : txHash = env.tx.hash := by
    have hboth := hresolves.hash
    rw [hfinal.sameHash, hfrom.hashed] at hboth
    exact Subtype.ext (Option.some.inj hboth)
  have hstate := hfrom.stateBytes
  rw [hstateData] at hstate
  rw [ht] at hresolves
  have hspends := spends_of_resolves hccc hbound hcells hstate hfrom.verifierHash hresolves hdeps
  -- the request
  have hvalid := validState_spendState sequence verifier (ckbHash publicKey)
  have hencodes : ∃ request, encodeRequest (spendEntry verifier (ckbHash publicKey)) opSpend
      (spendPrepared ckbHash accountId env.tx.hash verifier (ckbHash publicKey) sequence
        proof).digest proof = .ok request :=
    (encodeRequest_of_supported (hvalid.supported _ (List.mem_singleton.mpr rfl))).mpr
      ⟨.inl rfl, Nat.le_trans (Nat.le_of_eq webauthnBinding_length) (by decide),
        (hfinal.parseProof hccc.codec.ample).2⟩
  obtain ⟨request, hrequest⟩ := hencodes
  obtain ⟨r, hr, hwf, hlayout⟩ := encodeRequest_eq_ok.mp hrequest
  exact ⟨accountId, verifier, publicKey, sequence, proof, request, r, hfrom, hfinal, henc, hspends,
    ⟨hrequest, hlayout, hwf, hr⟩⟩

/-- **The demo's prepared spend reaches the verifier it was signed for.**  Take a package that
    follows Molecule, a verified account, a view of the chain on which `prepareSpend` returns
    `p`, and an assertion on which `finalizeSpend` returns `t`; let the chain resolve `t` through
    that view, with one state dep and one verifier dep.  Then `t` has the hash of the prepared
    transaction and a witness no longer than the placeholder the fee was estimated with; the
    state the browser read is valid on the chain, with its sequence, its one key at slot 0 and
    the spend threshold 1; and AccountLock passes every check before the verifier, writes down
    exactly one child, and exits as that child decides.  Its request carries the digest that was
    signed, the hash of the public key, and a proof that reads back as that key, the client
    origin and the three parts of the assertion. -/
theorem prepared_spend_reaches_verifier (ccc : Package) (ckbHash : Bytes → Byte32)
    (hccc : ccc.Follows ckbHash) (datetime : String → Bool) (parseJson : Bytes → Option Json)
    (accountValue : Json) (deployment : VerifiedDeployment) (account : VerifiedAccount)
    (haccount : validateAccount ccc accountValue deployment = .ok account)
    (client : SpendClient) (funderAddress : String) (passkey passkey' : Json)
    (p : PreparedSpend)
    (hprepare : prepareSpend ccc datetime client account funderAddress passkey = .ok p)
    (assertion : AssertionMaterial) (t : Transaction)
    (hfinalize : finalizeSpend ccc datetime parseJson p passkey' assertion = .ok t)
    (env : Env) (hresolves : Resolves ccc client account.accountLock t env)
    (hdeps : UniqueDeps ckbHash account env) :
    ccc.transactionHash t = ccc.transactionHash p.transaction
    ∧ (∃ witness placeholder draft fee, t.witnesses = [hexFromBytes witness]
      ∧ p.transaction.witnesses = [hexFromBytes placeholder]
      ∧ draft.witnesses = [hexFromBytes placeholder]
      ∧ ccc.estimateFee draft feeRate = some fee ∧ p.review.feeShannons = toString fee
      ∧ witness.length ≤ placeholder.length)
    ∧ ∃ publicKey state entry prepared request r,
      bytesFromHex p.publicKey = .ok publicKey ∧ bytesFromHex p.stateData = .ok state
      ∧ (∃ summary, validateState state = .ok (prepared.header, summary))
      ∧ prepared.header.sequence.toNat = p.sequence ∧ prepared.header.spendThreshold = 1
      ∧ CkbStateWire.parseAuthenticators collect state prepared.header [] = .ok [entry]
      ∧ entry.slot = 0 ∧ entry.keyId = (ckbHash publicKey).val
      ∧ prepare ckbHash env = .ok prepared ∧ prepared.current = state
      ∧ prepared.digest.val = p.authorizationDigest
      ∧ (runLoop ckbHash env prepared = spawnVerifier env.vm 1 request >>= fun valid =>
          .ok ⟨if valid then 1 else 0, [⟨0, 1, request, 1, valid⟩]⟩)
      ∧ (run ckbHash env = spawnVerifier env.vm 1 request >>= fun valid =>
          if valid then .ok () else .err .thresholdUnsatisfied)
      ∧ VerifierRequest.parse request = .ok r
      ∧ r.authorizationDigest.val = p.authorizationDigest ∧ r.keyId = ckbHash publicKey
      ∧ parseProof r.proof = .ok ⟨publicKey, textEncode clientOrigin, assertion.authenticatorData,
          assertion.clientDataJson, assertion.signature⟩ := by
  obtain ⟨accountId, verifier, publicKey, sequence, proof, request, r, hfrom, hfinal, henc, hspends,
    hrequest⟩ := spends_of_finalized hccc haccount hprepare hfinalize hresolves hdeps
  -- what `prepareSpend` built and reviewed, field by field
  obtain ⟨state, asset, funderLock, change, placeholder, draft, fee, -, -, htx, hmax, hdraft, hfee,
    hreview⟩ := hfrom.cells
  have hvalid := validState_spendState sequence verifier (ckbHash publicKey)
  -- the witness is no longer than the placeholder the fee was estimated for
  have hfits := hfinal.fits
  rw [hmax] at hfits
  refine ⟨hfinal.sameHash, ⟨_, placeholder, draft, fee, ?_, ?_, hdraft, hfee, hreview, hfits⟩,
    publicKey, spendState sequence verifier (ckbHash publicKey),
    spendEntry verifier (ckbHash publicKey),
    spendPrepared ckbHash accountId env.tx.hash verifier (ckbHash publicKey) sequence proof,
    request, r, hfrom.keyBytes, hfrom.stateBytes,
    ⟨_, validateState_eq_ok.mpr ⟨_, hvalid, rfl⟩⟩, hfrom.sequenceOf.symm, rfl, hvalid.collect_eq,
    rfl, rfl, prepare_of_spends henc hspends, rfl, hfrom.digest.symm,
    runLoop_of_spends henc hspends hrequest.encoded, run_of_spends henc hspends hrequest.encoded,
    VerifierRequest.parse_eq_ok.mpr ⟨hrequest.layout, hrequest.wellFormed⟩, ?_,
    Subtype.ext hrequest.requestFor.keyId, ?_⟩
  · rw [hfinal.eq_spendTransaction htx]
    rfl
  · rw [htx]
    rfl
  · rw [hrequest.requestFor.digest]
    exact hfrom.digest.symm
  · rw [hrequest.requestFor.proof]
    exact (hfinal.parseProof hccc.codec.ample).1

/-! ## A run -/

/-- Hex text, as the package reads it. -/
def readHex (text : String) : Option Bytes :=
  if text.toList.take 2 = ['0', 'x'] then some (hexDigitPairs (text.toList.drop 2)) else none

/-- Hex text of bytes is read as these bytes. -/
theorem readHex_hexFromBytes (bytes : Bytes) : readHex (hexFromBytes bytes) = some bytes := by
  rw [readHex, hexFromBytes_toList]
  exact (if_pos rfl).trans (congrArg some (hexDigitPairs_flatMap bytes))

/-- The chain's script behind a script of the package. -/
def readScript (s : Script) : Option CkbTransaction.Script := do
  let codeHash ← readHex s.codeHash
  let args ← readHex s.args
  if h : codeHash.length = 32 then
    some { codeHash := ⟨codeHash, h⟩, hashType := hashTypeByte s.hashType, args := args }
  else none

/-- `Script.occupiedSize`. -/
def scriptSize (s : Script) : Nat := 33 + ((readHex s.args).getD []).length

/-- The hash of the transaction, before and after its witness. -/
def fixtureTxHash : Byte32 :=
  byte32 0x0e82e5b995251dd82a5c6cf191fbf55e732f440ab542fc3c222cfd13cb00f66f

/-- The address the spend pays to. -/
def fixtureFunderAddress : String :=
  "ckt1qzda0cr08m85hc8jlnfp3zer7xulejywt49kt2rr0vthywaa50xwsqvcantfhvtwtyzgd4ssn0gjnjhkkl9q9lswhlggn"

/-- The script behind that address. -/
def fixtureFunder : Script where
  codeHash := "0x9bd7e06f3ecf4be0f2fcd2188b23f1b9fcc88e5d4b65a8637b17723bbda3cce8"
  hashType := .type
  args := "0x98ecd69bb16e590486d6109bd129caf6b7ca02fe"

/-- The package, with the hash, the fee and the address of one transaction. -/
def fixturePackage (ckbHash : Bytes → Byte32) : Package where
  codec := CkbBrowserCodec.referenceCcc ckbHash
  bytesFrom := readHex
  scriptHash s := ((readScript s).map fun c => hexFromBytes (ckbHash c.asBytes).val).getD ""
  transactionHash _ := some (hexFromBytes fixtureTxHash.val)
  estimateFee _ _ := some 3747
  occupiedSize output := 8 + scriptSize output.lock + (output.type.map scriptSize).getD 0
  addressScript _ address := if address = fixtureFunderAddress then some fixtureFunder else none

/-- The package of the fixture does what it is documented to do. -/
theorem fixturePackage_follows (ckbHash : Bytes → Byte32) :
    (fixturePackage ckbHash).Follows ckbHash := by
  refine ⟨CkbBrowserCodec.referenceCcc_follows ckbHash, readHex_hexFromBytes, ?_⟩
  intro s c h
  have hread : readScript s = some c := by
    rw [readScript, show readHex s.codeHash = some c.codeHash.val from h.codeHash,
      show readHex s.args = some c.args from h.args]
    show (if _ : c.codeHash.val.length = 32 then _ else none) = _
    rw [dif_pos c.codeHash.property, ← h.hashType]
  show ((readScript s).map _).getD "" = _
  rw [hread]
  rfl

/-! The test fixture: a published deployment, a new account with a balance of 200 CKB, and the
    passkey it was made for. -/

/-- The code of the verifier: the first bytes of an ELF file. -/
def fixtureVerifier : Bytes := [0x7f, 0x45, 0x4c, 0x46]

/-- The code of AccountLock, told from the verifier by one more byte. -/
def fixtureLockProgram : Bytes := [0x7f, 0x45, 0x4c, 0x46, 1]

/-- The data hash of the verifier. -/
def fixtureVerifierHash : Byte32 :=
  byte32 0xcdc37742694a36ea623c77c8744f50b2fb8e583b0831872f4d6a7a4e4200acb6

/-- The data hash of AccountLock. -/
def fixtureLockHash : Byte32 :=
  byte32 0x0bc58a65cf64391915dacbdb5209e6a0fc96efe9a6eab329874250ada5dd718b

/-- The public key of the passkey: the base point of P-256. -/
def fixtureKey : Bytes :=
  4 :: ((byte32 0x6b17d1f2e12c4247f8bce6e563a440f277037d812deb33a0f4a13945d898c296).val
    ++ (byte32 0x4fe342e2fe1a7f9b8ee7eb4a7c0f9e162bce33576b315ececbb6406837bf51f5).val)

/-- Its hash, which the state holds. -/
def fixtureKeyId : Byte32 :=
  byte32 0x924617c0c1ca9afcaee0d49ae6ad8b282836c33b9e976d26c7f8b2abb5401893

/-- The account id: the hash of the type script of the state cell. -/
def fixtureId : Byte32 :=
  byte32 0x1c750c0786bc8646d418eddac78a33d0f9be2f24046a1681bd2562feeeb1a7bb

/-- The hash of the state. -/
def fixtureStateHash : Byte32 :=
  byte32 0xacdde7974ffbb4af27cf0eb38c4bbedecda65e8f7b951e301a0654438e2865c5

/-- The hash of the signing stream. -/
def fixtureSighash : Byte32 :=
  byte32 0x2c6073c7635b895cee09d883106c6672060df555582e69db35abfa8767eae9ae

/-- The authorization digest, which the passkey signs. -/
def fixtureDigest : Byte32 :=
  byte32 0x8bd4cbdcd1ed5e031982b0ea2b1f25774eddbb26dd125fe60753d6f3e5e25fef

/-- The type script of the state cell. -/
def fixtureStateType : CkbTransaction.Script where
  codeHash := byte32 0x545950455f4944
  hashType := 1
  args := List.replicate 32 0x44

/-- The lock of the account. -/
def fixtureLock : CkbTransaction.Script where
  codeHash := fixtureLockHash
  hashType := 4
  args := accountLockVersion :: fixtureId.val

/-- The state of the account, with the binding in bytes. -/
@[irreducible] def fixtureState : Bytes :=
  (spendHeader 0).layout ++ CkbStateWire.entriesLayout [
    { spendEntry fixtureVerifierHash fixtureKeyId with
      aux := 1 :: ((byte32 0x49960de5880e8c687434170f6476605b8fe4aeb9a28632c7995cf3ba831d9763).val
        ++ (byte32 0x4e90ec8f9d9b8d5bd3877ac003797738ff48419fcf8f97821a875ea4671955b6).val) }]

/-- It is the state of the key for the published verifier. -/
theorem fixtureState_eq : fixtureState = spendState 0 fixtureVerifierHash fixtureKeyId := by
  rw [spendState, spendEntry, webauthnBinding_bytes]
  unfold fixtureState
  rfl

/-- The CKB hash on the strings this spend hashes. -/
def fixtureHash : Bytes → Byte32 :=
  CkbTransaction.tabulated [
    (fixtureVerifier, fixtureVerifierHash),
    (fixtureLockProgram, fixtureLockHash),
    (fixtureKey, fixtureKeyId),
    (fixtureStateType.asBytes, fixtureId),
    (fixtureLock.asBytes,
      byte32 0x3b6700f02e6fbd8dc5af76484c1abf5b9bb34be77aba44535b13cf1e48508dfc),
    (fixtureState, fixtureStateHash),
    (streamOf fixtureTxHash [] [] [] [], fixtureSighash),
    (digestMessage opSpend fixtureId 0 fixtureStateHash fixtureSighash, fixtureDigest)]

/-- Hex text of equal bytes. -/
def filledHex (byte : UInt8) : String := hexFromBytes (filled32 byte).val

/-- A published code cell. -/
def fixtureArtifact (hash : Byte32) (byte : UInt8) (capacity : String) : Artifact where
  dataHash := hexFromBytes hash.val
  txHash := filledHex byte
  index := 0
  capacityShannons := capacity

/-- What `validateDeployment` returns for the published deployment. -/
def fixtureDeployment : VerifiedDeployment :=
  let accountLock := fixtureArtifact fixtureLockHash 0x11 "3350900000000"
  let verifierP256 := fixtureArtifact fixtureVerifierHash 0x22 "6218100000000"
  { manifest := { accountLock, verifierP256 }
    accountLockCode := artifactCode accountLock
    verifierP256Code := artifactCode verifierP256
    accountLockDep := artifactDep accountLock
    verifierP256Dep := artifactDep verifierP256 }

/-- The account manifest, as it is read from its file. -/
def fixtureManifest : Json :=
  CkbBootstrap.testnetAccountManifest (hexFromBytes fixtureId.val)
    (hexFromBytes fixtureLockHash.val) (hexFromBytes fixtureLock.args) (filledHex 0x44)
    (filledHex 0x33) 177

/-- What `validateAccount` returns for it. -/
def fixtureAccount : VerifiedAccount :=
  testnetAccount fixtureDeployment fixtureId fixtureLockHash (filled32 0x44) (filled32 0x33) 177

/-- A live code cell. -/
def fixtureCodeCell (byte : UInt8) (program : Bytes) : Cell where
  outPoint := { txHash := filledHex byte, index := 0 }
  cellOutput := { capacity := 3350900000000, lock := fixtureFunder, type := none }
  outputData := hexFromBytes program

/-- The state cell of the account. -/
def fixtureStateCell : Cell where
  outPoint := fixtureAccount.manifest.stateOutPoint
  cellOutput := {
    capacity := 177 * shannonsPerCkb
    lock := fixtureAccount.accountLock
    type := some fixtureAccount.stateType }
  outputData := hexFromBytes fixtureState

/-- The asset cell of the account, with a balance of 200 CKB. -/
def fixtureAsset : Cell where
  outPoint := fixtureAccount.manifest.assetOutPoint
  cellOutput := {
    capacity := 200 * shannonsPerCkb
    lock := fixtureAccount.accountLock
    type := none }
  outputData := "0x"

/-- A view of the two cells of the account and of the two code cells. -/
def fixtureClient : SpendClient where
  addressPrefix := "ckt"
  getCellLive outPoint :=
    .ok ([fixtureStateCell, fixtureAsset, fixtureCodeCell 0x11 fixtureLockProgram,
      fixtureCodeCell 0x22 fixtureVerifier].find? fun cell => cell.outPoint = outPoint)
  findCellsByLock _ := [.ok fixtureStateCell, .ok fixtureAsset]

/-- The passkey, as the browser keeps it. -/
def fixtureRecord : PasskeyRecord where
  credentialId := "AQIDBA"
  publicKey := hexFromBytes fixtureKey
  keyId := hexFromBytes fixtureKeyId.val
  createdAt := "2026-08-24T00:00:00.000Z"

/-- And as it is stored. -/
def fixturePasskey : Json :=
  .object [("schemaVersion", .number 1), ("credentialId", .string fixtureRecord.credentialId),
    ("publicKey", .string fixtureRecord.publicKey), ("keyId", .string fixtureRecord.keyId),
    ("rpId", .string rpId), ("origin", .string clientOrigin),
    ("createdAt", .string fixtureRecord.createdAt)]

/-- `z.iso.datetime()`, on the one time of the fixture. -/
def fixtureDatetime (text : String) : Bool := text = fixtureRecord.createdAt

/-- The digest, in base64url. -/
def fixtureChallenge : String := "i9TL3NHtXgMZgrDqKx8ld07duybdEl_mB1PW8-XiX-8"

/-- The client data a browser makes for that challenge. -/
def fixtureClientData : Bytes :=
  textEncode ("\x7b\"type\":\"webauthn.get\",\"challenge\":\"" ++ fixtureChallenge
    ++ "\",\"origin\":\"http://localhost:5173\",\"crossOrigin\":false\x7d")

/-- `JSON.parse` on these client data. -/
def fixtureParseJson (bytes : Bytes) : Option Json :=
  if bytes = fixtureClientData then
    some (.object [("type", .string "webauthn.get"), ("challenge", .string fixtureChallenge),
      ("origin", .string "http://localhost:5173"), ("crossOrigin", .bool false)])
  else none

/-- The assertion: authenticator data with the flags UP and UV, and a DER signature. -/
def fixtureAssertion : AssertionMaterial where
  credentialId := "AQIDBA"
  authenticatorData :=
    (byte32 0x49960de5880e8c687434170f6476605b8fe4aeb9a28632c7995cf3ba831d9763).val
      ++ [0x05, 0, 0, 0, 1]
  clientDataJson := fixtureClientData
  signature := [0x30, 0x44, 0x02, 0x20]
    ++ (byte32 0x26efcebd0ee9e34a669187e18b3a9122b2f733945b649cc9f9f921e9f9dad812).val
    ++ [0x02, 0x20]
    ++ (byte32 0x2985be84754af1c7afc8b4da41f50ada7eade6ad93a469bece1382b8aaa73846).val

/-- The script of the funder, on the chain. -/
def fixtureFunderScript : CkbTransaction.Script where
  codeHash := byte32 0x9bd7e06f3ecf4be0f2fcd2188b23f1b9fcc88e5d4b65a8637b17723bbda3cce8
  hashType := 1
  args := (leBytes 20 0x98ecd69bb16e590486d6109bd129caf6b7ca02fe).reverse

/-- The three scripts of the fixture, in the package and on the chain. -/
theorem fixture_scripts :
    ChainScript (fixturePackage fixtureHash) fixtureAccount.accountLock fixtureLock
      ∧ ChainScript (fixturePackage fixtureHash) fixtureAccount.stateType fixtureStateType
      ∧ ChainScript (fixturePackage fixtureHash) fixtureFunder fixtureFunderScript := by
  have htype : readHex CkbCreation.typeIdCodeHash = some fixtureStateType.codeHash.val
      ∧ readHex fixtureFunder.codeHash = some fixtureFunderScript.codeHash.val
      ∧ readHex fixtureFunder.args = some fixtureFunderScript.args := by
    decide +kernel
  exact ⟨⟨readHex_hexFromBytes fixtureLockHash.val, rfl, readHex_hexFromBytes fixtureLock.args⟩,
    ⟨htype.1, rfl, readHex_hexFromBytes (filled32 0x44).val⟩, ⟨htype.2.1, rfl, htype.2.2⟩⟩

/-- The hashes on the way to the digest. -/
theorem fixture_hashes :
    fixtureHash fixtureKey = fixtureKeyId
      ∧ CkbSighash.authorizationDigest fixtureHash opSpend fixtureId 0 fixtureState
        (fixtureHash (streamOf fixtureTxHash [] [] [] [])) = fixtureDigest
      ∧ fixtureHash fixtureVerifier = fixtureVerifierHash
      ∧ fixtureHash fixtureLockProgram = fixtureLockHash
      ∧ fixtureHash fixtureState = fixtureStateHash
      ∧ fixtureHash fixtureStateType.asBytes = fixtureId := by
  decide +kernel

/-- The account passes its check. -/
theorem fixture_account :
    validateAccount (fixturePackage fixtureHash) fixtureManifest fixtureDeployment
      = .ok fixtureAccount := by
  have hhash := (fixturePackage_follows fixtureHash).scripts _ _ fixture_scripts.2.1
  rw [fixture_hashes.2.2.2.2.2] at hhash
  exact validateAccount_testnetAccountManifest (by decide) (by decide) rfl hhash

/-- The stored passkey passes its schema. -/
theorem fixture_record :
    passkeyRecordSchema fixtureDatetime fixturePasskey = some fixtureRecord := by
  have hcredential : isBase64url fixtureRecord.credentialId = true := by decide +kernel
  have hkey : isPublicKey fixtureRecord.publicKey = true := isPublicKey_hexFromBytes (by decide)
  have hkeyId : isHash32 fixtureRecord.keyId = true := isHash32_hexFromBytes fixtureKeyId
  have hcreated : fixtureDatetime fixtureRecord.createdAt = true := decide_eq_true rfl
  simp [passkeyRecordSchema, fixturePasskey, Json.member, Json.isStrict, List.lookup_cons, Json.isOne,
    Json.isText, text_of_check, hcredential, hkey, hkeyId, hcreated]

/-- State and asset are two cells. -/
theorem fixture_outPoints :
    fixtureAccount.manifest.assetOutPoint ≠ fixtureAccount.manifest.stateOutPoint :=
  fun h => absurd (congrArg OutPoint.index h) (by decide)

/-- What the view shows at the four out points. -/
theorem fixture_live :
    fixtureClient.getCellLive fixtureStateCell.outPoint = .ok (some fixtureStateCell)
      ∧ fixtureClient.getCellLive fixtureAsset.outPoint = .ok (some fixtureAsset)
      ∧ fixtureClient.getCellLive (fixtureCodeCell 0x11 fixtureLockProgram).outPoint
        = .ok (some (fixtureCodeCell 0x11 fixtureLockProgram))
      ∧ fixtureClient.getCellLive (fixtureCodeCell 0x22 fixtureVerifier).outPoint
        = .ok (some (fixtureCodeCell 0x22 fixtureVerifier)) := by
  have hindex : fixtureStateCell.outPoint ≠ fixtureAsset.outPoint :=
    fun h => absurd (congrArg OutPoint.index h) (by decide)
  have hbyte : ∀ byte byte' : UInt8, byte ≠ byte' → ∀ index index' : Nat,
      OutPoint.mk (filledHex byte) index ≠ ⟨filledHex byte', index'⟩ := by
    intro byte byte' hne index index' h
    have hbytes := hexFromBytes_injective (congrArg OutPoint.txHash h)
    exact hne (List.cons.inj hbytes).1
  have hlock : fixtureStateCell.outPoint ≠ (fixtureCodeCell 0x11 fixtureLockProgram).outPoint :=
    hbyte 0x33 0x11 (by decide) 0 0
  have hlock' : fixtureAsset.outPoint ≠ (fixtureCodeCell 0x11 fixtureLockProgram).outPoint :=
    hbyte 0x33 0x11 (by decide) 1 0
  have hverifier : fixtureStateCell.outPoint ≠ (fixtureCodeCell 0x22 fixtureVerifier).outPoint :=
    hbyte 0x33 0x22 (by decide) 0 0
  have hverifier' : fixtureAsset.outPoint ≠ (fixtureCodeCell 0x22 fixtureVerifier).outPoint :=
    hbyte 0x33 0x22 (by decide) 1 0
  have hcode : (fixtureCodeCell 0x11 fixtureLockProgram).outPoint
      ≠ (fixtureCodeCell 0x22 fixtureVerifier).outPoint := hbyte 0x11 0x22 (by decide) 0 0
  simp only [fixtureClient, List.find?_cons, decide_true, decide_eq_false hindex,
    decide_eq_false hlock, decide_eq_false hlock', decide_eq_false hverifier,
    decide_eq_false hverifier', decide_eq_false hcode, and_self]

/-- Both are found. -/
theorem fixture_cells :
    discoverAccountCells fixtureClient fixtureAccount = .ok (fixtureStateCell, fixtureAsset) := by
  have hparsed : parseAccountState fixtureStateCell.outputData fixtureAccount
      = .ok { sequence := (0 : UInt64).toNat, keyId := fixtureKeyId.val } := by
    have hverifier : fixtureAccount.deployment.verifierP256Code.codeHash
        = hexFromBytes fixtureVerifierHash.val := by
      simp only [fixtureAccount, testnetAccount, fixtureDeployment, artifactCode, fixtureArtifact]
    have hbytes : fixtureAccount.manifest.stateBytes = 177 := by
      simp only [fixtureAccount, testnetAccount]
    simp only [fixtureStateCell, fixtureState_eq]
    exact parseAccountState_spendState hbytes hverifier
  have hstate : IsState fixtureAccount fixtureStateCell
      { sequence := (0 : UInt64).toNat, keyId := fixtureKeyId.val } :=
    ⟨rfl, rfl, rfl, hparsed⟩
  have hasset : IsAsset fixtureAccount fixtureAsset := ⟨rfl, rfl, rfl, rfl⟩
  refine discoverAccountCells_of_shown hstate hasset fixture_outPoints ?_ ?_ rfl
  · exact fixture_live.1
  · exact fixture_live.2.1

/-- The prepared spend. -/
def fixturePrepared : PreparedSpend :=
  preparedSpend fixtureHash fixtureAccount fixtureRecord fixtureAsset fixtureFunderAddress
    fixtureFunder 3747 fixtureId fixtureTxHash fixtureVerifierHash fixtureKey 0

/-- `prepareSpend` returns it. -/
theorem fixture_prepared :
    prepareSpend (fixturePackage fixtureHash) fixtureDatetime fixtureClient fixtureAccount
      fixtureFunderAddress fixturePasskey = .ok fixturePrepared := by
  have hfollows := fixturePackage_follows fixtureHash
  have hverifier : fixtureAccount.deployment.verifierP256Code.codeHash
      = hexFromBytes fixtureVerifierHash.val := by
    simp only [fixtureAccount, testnetAccount, fixtureDeployment, artifactCode, fixtureArtifact]
  have hargs : readHex fixtureAccount.accountLock.args
      = some (accountLockVersion :: fixtureId.val) := readHex_hexFromBytes _
  have hfunderArgs : (readHex fixtureFunder.args).map List.length = some 20 := by decide +kernel
  have hstate : fixtureStateCell.outputData
      = hexFromBytes (spendState 0 fixtureVerifierHash (fixtureHash fixtureKey)) := by
    simp only [fixtureStateCell, fixtureState_eq, fixture_hashes.1]
  -- the two sizes and the hash are computed below, the rest is given
  refine prepareSpend_of_spendable hfollows.codec hfollows.hex rfl rfl hverifier {
    passkey := fixture_record
    keyText := rfl
    keyId := by rw [fixture_hashes.1]; rfl
    cells := fixture_cells
    stateData := hstate
    funder := by simp only [fixturePackage, if_true]
    capacity := by decide
    estimated := rfl
    change := by decide
    transferFits := ?_
    changeFits := ?_
    hashed := ?_ }
  · have hsize : scriptSize fixtureFunder = 53 := by
      rw [scriptSize]
      decide +kernel
    show ((8 + scriptSize fixtureFunder + 0 : Nat) : Int) * shannonsPerCkb ≤ transferCapacity
    rw [hsize]
    decide
  · have hsize : scriptSize fixtureAccount.accountLock = 66 := by
      rw [scriptSize, hargs, Option.getD_some, List.length_cons, fixtureId.property]
    show ((8 + scriptSize fixtureAccount.accountLock + 0 : Nat) : Int) * shannonsPerCkb ≤ _
    rw [hsize]
    decide
  · exact readHex_hexFromBytes fixtureTxHash.val

/-- The witness that carries the assertion. -/
@[irreducible] def fixtureWitness : Bytes :=
  (proofArgs 0 (passkeyProof fixtureKey fixtureAssertion).layout).asBytes

/-- The finalized transaction. -/
def fixtureFinalized : Transaction :=
  spendTransaction fixtureAccount fixtureAsset fixtureFunder
    (fixtureAsset.cellOutput.capacity - transferCapacity - 3747) fixtureWitness

/-- Its digest is the one the lock will compute. -/
theorem fixture_digest : fixturePrepared.authorizationDigest = fixtureDigest.val := by
  have hstate : spendState 0 fixtureVerifierHash (fixtureHash fixtureKey) = fixtureState := by
    rw [fixture_hashes.1, fixtureState_eq]
  simp only [fixturePrepared, preparedSpend, hstate, fixture_hashes.2.1]

/-- The assertion is one that `finalizeSpend` takes. -/
theorem fixture_admissible : Admissible fixtureParseJson fixturePrepared fixtureAssertion := by
  have hchallenge : base64url fixtureDigest.val = fixtureChallenge := by decide +kernel
  have hparsed : fixtureParseJson fixtureAssertion.clientDataJson = some (.object [
      ("type", .string "webauthn.get"), ("challenge", .string fixtureChallenge),
      ("origin", .string "http://localhost:5173"), ("crossOrigin", .bool false)]) := if_pos rfl
  have hsize : fixtureAssertion.clientDataJson.length = 134 := by decide +kernel
  refine ⟨rfl, by decide, by decide, ?_, ?_, by decide, ?_⟩
  · intro hnil
    rw [hnil] at hsize
    cases hsize
  · rw [hsize]
    decide
  · rw [validateClientData, hparsed, okOr_some, ok_bind, rejectIf_neg (by decide), ok_bind,
      fixture_digest, hchallenge]
    refine rejectIf_eq_ok.mpr ?_
    simp [Json.member, List.lookup_cons, Json.isText, Json.text, clientOrigin]

/-- `finalizeSpend` returns the finalized transaction. -/
theorem fixture_finalized :
    finalizeSpend (fixturePackage fixtureHash) fixtureDatetime fixtureParseJson fixturePrepared
      fixturePasskey fixtureAssertion = .ok fixtureFinalized := by
  rw [fixtureFinalized, fixtureWitness]
  exact finalizeSpend_of_admissible (fixturePackage_follows fixtureHash).codec fixture_record rfl rfl
    rfl rfl rfl rfl rfl fixture_admissible

/-- The transaction as the chain resolves it. -/
def fixtureEnv (vm : CkbTransaction.Vm) : Env where
  script := fixtureLock
  tx := {
    hash := fixtureTxHash
    inputs := [{ cell := ⟨fixtureLock, none, []⟩, since := 0 }]
    outputs := [⟨fixtureFunderScript, none, []⟩, ⟨fixtureLock, none, []⟩]
    cellDeps := [
      ⟨fixtureFunderScript, none, fixtureLockProgram⟩,
      ⟨fixtureFunderScript, none, fixtureVerifier⟩,
      ⟨fixtureLock, some fixtureStateType, fixtureState⟩]
    witnesses := [fixtureWitness] }
  vm := vm

/-- The view of the client resolves the finalized transaction to it. -/
theorem fixture_resolves (vm : CkbTransaction.Vm) :
    Resolves (fixturePackage fixtureHash) fixtureClient fixtureAccount.accountLock fixtureFinalized
      (fixtureEnv vm) := by
  obtain ⟨hlock, htype, hfunder⟩ := fixture_scripts
  obtain ⟨hstate, hasset, hlockCode, hverifierCode⟩ := fixture_live
  have hempty : readHex "0x" = some [] := readHex_hexFromBytes []
  have hdata : readHex fixtureStateCell.outputData = some fixtureState := by
    simp only [fixtureStateCell]
    exact readHex_hexFromBytes fixtureState
  refine ⟨hlock, readHex_hexFromBytes fixtureTxHash.val, ?_, ?_, ?_, ?_⟩
  · exact .cons ⟨⟨fixtureAsset, hasset, hlock, .none, hempty⟩, rfl⟩ .nil
  · exact .cons ⟨hfunder, .none, hempty⟩ (.cons ⟨hlock, .none, hempty⟩ .nil)
  · exact .cons ⟨rfl, _, hlockCode, hfunder, .none, readHex_hexFromBytes fixtureLockProgram⟩
      (.cons ⟨rfl, _, hverifierCode, hfunder, .none, readHex_hexFromBytes fixtureVerifier⟩
      (.cons ⟨rfl, _, hstate, hlock, .some htype, hdata⟩ .nil))
  · simp only [fixtureFinalized, spendTransaction, fixtureEnv]
    exact .cons (readHex_hexFromBytes fixtureWitness) .nil

/-- The data hash of a cell that holds data. -/
theorem dataHash_mk {ckbHash : Bytes → Byte32} {lock : CkbTransaction.Script}
    {typeScript : Option CkbTransaction.Script} {data : Bytes} (h : data ≠ []) :
    CkbTransaction.Cell.dataHash ckbHash ⟨lock, typeScript, data⟩ = ckbHash data :=
  if_neg h

/-- One dep holds the state and one the verifier. -/
theorem fixture_uniqueDeps (vm : CkbTransaction.Vm) :
    UniqueDeps fixtureHash fixtureAccount (fixtureEnv vm) := by
  obtain ⟨-, -, hverifier, hlock, hstate, -⟩ := fixture_hashes
  have hdiffers : fixtureLockHash ≠ fixtureVerifierHash ∧ fixtureStateHash ≠ fixtureVerifierHash := by
    decide
  have hlockNe : fixtureLockProgram ≠ [] := List.cons_ne_nil _ _
  have hverifierNe : fixtureVerifier ≠ [] := List.cons_ne_nil _ _
  have hstateNe : fixtureState ≠ [] := by decide +kernel
  have hcode : fixtureAccount.deployment.verifierP256Code.codeHash
      = hexFromBytes fixtureVerifierHash.val := by
    simp only [fixtureAccount, testnetAccount, fixtureDeployment, artifactCode, fixtureArtifact]
  have hother : ∀ {i : Nat} {hash : Byte32}, hash ≠ fixtureVerifierHash → i ≠ 1 →
      (hexFromBytes hash.val = hexFromBytes fixtureVerifierHash.val ↔ i = 1) := by
    intro i hash hhash hi
    exact ⟨fun h => absurd (Subtype.ext (hexFromBytes_injective h)) hhash, fun h => absurd h hi⟩
  refine ⟨?_, ?_⟩
  · -- the two code cells have no type script
    intro i c hash hc hhash _
    rcases i with _ | _ | _ | i
    · cases hc
      cases hhash
    · cases hc
      cases hhash
    · rfl
    · cases hc
  · intro i c hc
    rw [hcode]
    rcases i with _ | _ | _ | i
    · cases hc
      rw [dataHash_mk hlockNe, hlock]
      exact hother hdiffers.1 (by decide)
    · cases hc
      rw [dataHash_mk hverifierNe, hverifier]
      exact ⟨fun _ => rfl, fun _ => rfl⟩
    · cases hc
      rw [dataHash_mk hstateNe, hstate]
      exact hother hdiffers.2 (by decide)
    · cases hc

/-- A machine with an obliging verifier. -/
def fixtureVm : CkbTransaction.Vm where
  pipe := .ok (2, 3)
  spawn _ := .ok 1
  close _ := .ok ()
  accepts _ _ chunk := .ok chunk.length
  exit _ _ := .ok 0

/-- **The test fixture reaches the verifier.** -/
theorem fixture_reaches_verifier :
    prepareSpend (fixturePackage fixtureHash) fixtureDatetime fixtureClient fixtureAccount
        fixtureFunderAddress fixturePasskey = .ok fixturePrepared
      ∧ finalizeSpend (fixturePackage fixtureHash) fixtureDatetime fixtureParseJson fixturePrepared
        fixturePasskey fixtureAssertion = .ok fixtureFinalized
      ∧ ∃ prepared request r, prepare fixtureHash (fixtureEnv fixtureVm) = .ok prepared
        ∧ (runLoop fixtureHash (fixtureEnv fixtureVm) prepared
          = spawnVerifier fixtureVm 1 request >>= fun valid =>
            .ok ⟨if valid then 1 else 0, [⟨0, 1, request, 1, valid⟩]⟩)
        ∧ (run fixtureHash (fixtureEnv fixtureVm)
          = spawnVerifier fixtureVm 1 request >>= fun valid =>
            if valid then .ok () else .err .thresholdUnsatisfied)
        ∧ VerifierRequest.parse request = .ok r
        ∧ r.authorizationDigest.val = fixturePrepared.authorizationDigest := by
  obtain ⟨-, -, _, _, _, prepared, request, r, -, -, -, -, -, -, -, -, hprepare, -, -, hloop, hrun,
    hparse, hdigest, -⟩ :=
    prepared_spend_reaches_verifier (fixturePackage fixtureHash) fixtureHash
      (fixturePackage_follows fixtureHash) fixtureDatetime fixtureParseJson fixtureManifest
      fixtureDeployment fixtureAccount fixture_account fixtureClient fixtureFunderAddress
      fixturePasskey fixturePasskey fixturePrepared fixture_prepared fixtureAssertion
      fixtureFinalized fixture_finalized (fixtureEnv fixtureVm) (fixture_resolves fixtureVm)
      (fixture_uniqueDeps fixtureVm)
  exact ⟨fixture_prepared, fixture_finalized, prepared, request, r, hprepare, hloop, hrun, hparse,
    hdigest⟩

end CkbSpend
