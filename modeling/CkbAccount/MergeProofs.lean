import CkbAccount.AuthorizationProofs
import CkbAccount.HostCodecProofs

/-! # Merging separately collected proofs

    Signers of one transaction make their proofs apart from each other and put them
    into one witness.  `run` is cut here into what happens before its proof loop
    (`prepare`) and the loop with the children it starts written down (`runLoop`), so
    that three runs over one transaction can be compared:

    * `run_eq_runLoop`: nothing but the threshold comparison comes after the loop;
    * `visit_spawn_eq_ok`: the loop starts one child for each proof and adds up the
      weights of those that succeed;
    * `prepare_withWitness`: nothing before the loop depends on the proofs;
    * `proofs_merge`: the run over both proof lists. -/

namespace CkbMerge

open RustOutcome Outcome LittleEndian Molecule RecordLoop CkbProtocol CkbStateWire
open CkbStatePolicy CkbTransaction CkbLoad CkbWitnessTable CkbWitnessWire CkbRequestWire
open CkbSighash CkbAccountLock CkbHostCodec CkbAuthorization

/-! ## The run with its children -/

/-- What `run` has computed when it enters its proof loop. -/
structure Prepared where
  lock : Bytes
  witness : AccountWitnessHeader
  current : Bytes
  header : StateHeader
  digest : Byte32
  capability : UInt16
  threshold : UInt16
  deriving DecidableEq, Repr

/-- A child `run` started: for which slot, from which dep, with which request, the
    weight it stands for, and whether it exited 0. -/
structure Spawned where
  slot : UInt16
  dep : Nat
  request : Bytes
  weight : UInt16
  valid : Bool
  deriving DecidableEq, Repr

/-- The proof loop at its end. -/
structure Loop where
  weight : UInt32
  spawned : List Spawned
  deriving DecidableEq, Repr

section Run

variable (ckbHash : Bytes → Byte32) (env : Env)

/-- `run`, up to its proof loop. -/
def prepare : Outcome ProtocolError Prepared := do
  let script ← loadCurrentScript env
  let lockArgs ← AccountLockArgs.parse (← scriptArgs script)
  let firstWitness ← loadWitness ckbHash env 0 .groupInput
  let lock ← witnessLock firstWitness
  let witnessHeader ← parseWitnessHeader lock
  rejectIf (witnessHeader.proofCount.toNat > authenticatorMaxCount) .invalidWitness
  let resolved ← resolveState ckbHash env witnessHeader.operation lockArgs.accountId
  let (stateHeader, _) ← validateState resolved.current
  rejectIf (witnessHeader.stateSequence ≠ stateHeader.sequence) .invalidSequence
  validateTransition env witnessHeader.operation resolved stateHeader
  let sighash ← canonicalGroupSighash ckbHash env
  let capability ← capabilityForOperation witnessHeader.operation
  let threshold ← thresholdFor stateHeader witnessHeader.operation
  return {
    lock := lock
    witness := witnessHeader
    current := resolved.current
    header := stateHeader
    digest := authorizationDigest ckbHash witnessHeader.operation lockArgs.accountId
      stateHeader.sequence resolved.current sighash
    capability := capability
    threshold := threshold }

/-- The child for one proof. -/
def spawnFor (p : Prepared) (proof : SlotProof) : Outcome ProtocolError Spawned := do
  let auth ← findAuthenticator p.current p.header proof.slot
  rejectIf (¬ holds auth p.capability) .invalidCapability
  let verifierIndex ← resolveVerifier ckbHash env auth
  let request ← encodeRequest auth p.witness.operation p.digest proof.proof
  let valid ← spawnVerifier env.vm verifierIndex request
  return {
    slot := proof.slot
    dep := verifierIndex
    request := request
    weight := auth.weight
    valid := valid }

/-- `if valid { weight = weight.checked_add(auth.weight)? }`. -/
def countChild (weight : UInt32) (child : Spawned) : Outcome ProtocolError UInt32 :=
  if child.valid then okOr .lengthOverflow (checkedAddU32 weight child.weight.toUInt32)
  else .ok weight

/-- One pass of the proof loop, which also writes the child down. -/
def spawnNext (p : Prepared) (loop : Loop) (proof : SlotProof) : Outcome ProtocolError Loop := do
  let child ← spawnFor ckbHash env p proof
  let weight ← countChild loop.weight child
  return { weight := weight, spawned := loop.spawned ++ [child] }

/-- The proof loop. -/
def runLoop (p : Prepared) : Outcome ProtocolError Loop :=
  parseProofs (spawnNext ckbHash env p) p.lock p.witness { weight := 0, spawned := [] }

end Run

variable {ckbHash : Bytes → Byte32} {env : Env}

/-- A pass of the loop is the callback of `run`. -/
theorem spawnNext_weight (p : Prepared) (loop : Loop) (proof : SlotProof) :
    (spawnNext ckbHash env p loop proof >>= fun loop' => .ok loop'.weight)
      = checkProof ckbHash env p.current p.header p.witness.operation p.capability p.digest
        loop.weight proof := by
  unfold spawnNext spawnFor countChild checkProof
  simp only [Outcome.bind_assoc, pure_eq, ok_bind, Outcome.bind_ok]

/-- **`run` is the loop and the threshold comparison.** -/
theorem run_eq_runLoop :
    run ckbHash env = prepare ckbHash env >>= fun p => runLoop ckbHash env p >>= fun loop =>
      rejectIf (loop.weight < p.threshold.toUInt32) .thresholdUnsatisfied := by
  have hloop : ∀ (p : Prepared), parseProofs (checkProof ckbHash env p.current p.header
      p.witness.operation p.capability p.digest) p.lock p.witness 0
      = runLoop ckbHash env p >>= fun loop => .ok loop.weight := by
    intro p
    rw [runLoop, parseProofs, parseProofs, scan_map (spawnNext_weight p)]
  unfold run prepare
  simp only [Outcome.bind_assoc]
  -- the two sides make the same calls up to the loop
  refine bind_congr fun script => bind_congr fun args => bind_congr fun lockArgs =>
    bind_congr fun first => bind_congr fun lock => bind_congr fun witness =>
    bind_congr fun _ => bind_congr fun resolved => bind_congr fun state => ?_
  obtain ⟨header, summary⟩ := state
  simp only
  refine bind_congr fun _ => bind_congr fun _ => bind_congr fun sighash =>
    bind_congr fun capability => bind_congr fun threshold => ?_
  let p : Prepared := ⟨lock, witness, resolved.current, header, authorizationDigest ckbHash
    witness.operation lockArgs.accountId header.sequence resolved.current sighash, capability,
    threshold⟩
  have hp := hloop p
  rw [pure_eq, ok_bind]
  show (parseProofs (checkProof ckbHash env p.current p.header p.witness.operation p.capability
    p.digest) p.lock p.witness 0 >>= _) = _
  rw [hp, Outcome.bind_assoc]
  rfl

/-! ## Before the loop -/

/-- What `run` read on its way to the proof loop. -/
structure PreparedFrom (ckbHash : Bytes → Byte32) (env : Env) (p : Prepared)
    (lockArgs : AccountLockArgs) (first : Bytes) (resolved : ResolvedState) (sighash : Byte32) :
    Prop where
  args : ∃ script args, loadCurrentScript env = .ok script ∧ scriptArgs script = .ok args
    ∧ AccountLockArgs.parse args = .ok lockArgs
  loaded : loadWitness ckbHash env 0 .groupInput = .ok first
  lock : witnessLock first = .ok p.lock
  witness : parseWitnessHeader p.lock = .ok p.witness
  count : p.witness.proofCount.toNat ≤ authenticatorMaxCount
  state : resolveState ckbHash env p.witness.operation lockArgs.accountId = .ok resolved
  current : resolved.current = p.current
  valid : ∃ summary, validateState p.current = .ok (p.header, summary)
  sequence : p.witness.stateSequence = p.header.sequence
  transition : validateTransition env p.witness.operation resolved p.header = .ok ()
  hashed : canonicalGroupSighash ckbHash env = .ok sighash
  digest : p.digest = authorizationDigest ckbHash p.witness.operation lockArgs.accountId
    p.header.sequence p.current sighash
  capability : capabilityForOperation p.witness.operation = .ok p.capability
  threshold : thresholdFor p.header p.witness.operation = .ok p.threshold

/-- **When `run` reaches its proof loop**, and with what. -/
theorem prepare_eq_ok {p : Prepared} :
    prepare ckbHash env = .ok p
      ↔ ∃ lockArgs first resolved sighash,
        PreparedFrom ckbHash env p lockArgs first resolved sighash := by
  unfold prepare
  constructor
  · intro h
    -- peel the checks off in the order of the source
    obtain ⟨script, hscript, h⟩ := bind_eq_ok.mp h
    obtain ⟨args, hargs, h⟩ := bind_eq_ok.mp h
    obtain ⟨lockArgs, hlockArgs, h⟩ := bind_eq_ok.mp h
    obtain ⟨first, hfirst, h⟩ := bind_eq_ok.mp h
    obtain ⟨lock, hlock, h⟩ := bind_eq_ok.mp h
    obtain ⟨witness, hwitness, h⟩ := bind_eq_ok.mp h
    obtain ⟨hcount, h⟩ := rejectIf_bind_eq_ok.mp h
    obtain ⟨resolved, hresolved, h⟩ := bind_eq_ok.mp h
    obtain ⟨⟨header, summary⟩, hvalid, h⟩ := bind_eq_ok.mp h
    obtain ⟨hsequence, h⟩ := rejectIf_bind_eq_ok.mp h
    obtain ⟨htransition, h⟩ := unit_bind_eq_ok.mp h
    obtain ⟨sighash, hsighash, h⟩ := bind_eq_ok.mp h
    obtain ⟨capability, hcapability, h⟩ := bind_eq_ok.mp h
    obtain ⟨threshold, hthreshold, h⟩ := bind_eq_ok.mp h
    cases h
    exact ⟨lockArgs, first, resolved, sighash, ⟨script, args, hscript, hargs, hlockArgs⟩, hfirst,
      hlock, hwitness, Nat.le_of_not_lt hcount, hresolved, rfl, ⟨summary, hvalid⟩,
      not_not.mp hsequence, htransition, hsighash, rfl, hcapability, hthreshold⟩
  · rintro ⟨lockArgs, first, resolved, sighash, hp⟩
    obtain ⟨script, args, hscript, hargs, hlockArgs⟩ := hp.args
    obtain ⟨summary, hvalid⟩ := hp.valid
    rw [hscript, ok_bind, hargs, ok_bind, hlockArgs, ok_bind, hp.loaded, ok_bind, hp.lock, ok_bind,
      hp.witness, ok_bind, rejectIf_neg (Nat.not_lt_of_le hp.count), ok_bind, hp.state, ok_bind,
      hp.current, hvalid, ok_bind]
    simp only
    rw [rejectIf_neg (not_not.mpr hp.sequence), ok_bind, hp.transition, ok_bind, hp.hashed,
      ok_bind, hp.capability, ok_bind, hp.threshold, ok_bind, ← hp.digest]
    rfl

/-! ## The loop -/

/-- The weight a child adds. -/
def Spawned.counts (child : Spawned) : Nat := if child.valid then child.weight.toNat else 0

/-- The weight of the children that exited 0. -/
def verifiedWeight (spawned : List Spawned) : Nat := (spawned.map Spawned.counts).sum

/-- A child adds its weight if it verified. -/
theorem countChild_eq_ok {weight weight' : UInt32} {child : Spawned} :
    countChild weight child = .ok weight' ↔ weight'.toNat = weight.toNat + child.counts := by
  unfold countChild Spawned.counts
  split
  · rw [okOr_eq_ok, checkedAddU32_eq_some, UInt16.toNat_toUInt32]
  · rw [Outcome.ok.injEq, Nat.add_zero, UInt32.toNat_inj]
    exact eq_comm

/-- One round of the loop: one child, its weight and its place in the log. -/
theorem spawnNext_eq_ok {p : Prepared} {proof : SlotProof} {loop loop' : Loop} :
    spawnNext ckbHash env p loop proof = .ok loop'
      ↔ ∃ child, spawnFor ckbHash env p proof = .ok child
        ∧ loop'.weight.toNat = loop.weight.toNat + child.counts
        ∧ loop'.spawned = loop.spawned ++ [child] := by
  unfold spawnNext
  constructor
  · intro h
    obtain ⟨child, hchild, h⟩ := bind_eq_ok.mp h
    obtain ⟨weight, hweight, h⟩ := bind_eq_ok.mp h
    cases h
    exact ⟨child, hchild, countChild_eq_ok.mp hweight, rfl⟩
  · rintro ⟨child, hchild, hweight, hspawned⟩
    rw [hchild, ok_bind, countChild_eq_ok.mpr hweight, ok_bind, ← hspawned]
    rfl

/-- **What the proof loop does**: it starts one child for each proof, in order, and its
    weight grows by that of the children that exited 0.  No pass depends on another. -/
theorem visit_spawn_eq_ok {p : Prepared} :
    ∀ {proofs : List SlotProof} {loop loop' : Loop},
      visit (spawnNext ckbHash env p) proofs loop = .ok loop'
        ↔ ∃ children, List.Forall₂ (fun q c => spawnFor ckbHash env p q = .ok c) proofs children
          ∧ loop'.weight.toNat = loop.weight.toNat + verifiedWeight children
          ∧ loop'.spawned = loop.spawned ++ children := by
  intro proofs
  induction proofs with
  | nil =>
      intro loop loop'
      rw [visit, Outcome.ok.injEq]
      constructor
      · rintro rfl
        exact ⟨[], .nil, rfl, (List.append_nil _).symm⟩
      · rintro ⟨children, hchildren, hweight, hspawned⟩
        cases hchildren
        rw [List.append_nil] at hspawned
        cases loop
        cases loop'
        simp only [Loop.mk.injEq]
        exact ⟨UInt32.toNat_inj.mp hweight.symm, hspawned.symm⟩
  | cons q proofs ih =>
      intro loop loop'
      rw [visit, bind_eq_ok]
      simp only [ih, spawnNext_eq_ok]
      constructor
      · rintro ⟨mid, ⟨child, hchild, hweight, hspawned⟩, children, hchildren, hweight', hspawned'⟩
        refine ⟨child :: children, .cons hchild hchildren, ?_, ?_⟩
        · rw [hweight', hweight, Nat.add_assoc]
          rfl
        · rw [hspawned', hspawned, List.append_assoc]
          rfl
      · rintro ⟨children, hchildren, hweight, hspawned⟩
        cases hchildren with
        | cons hchild hrest =>
            rename_i child children
            have hsum : verifiedWeight (child :: children)
                = child.counts + verifiedWeight children := rfl
            have hlt := loop'.weight.toNat_lt
            -- the weight between the two passes is no larger than the last one
            have hmid : (UInt32.ofNat (loop.weight.toNat + child.counts)).toNat
                = loop.weight.toNat + child.counts :=
              UInt32.toNat_ofNat_of_lt' (by rw [show UInt32.size = 2 ^ 32 from rfl]; omega)
            refine ⟨⟨UInt32.ofNat (loop.weight.toNat + child.counts), loop.spawned ++ [child]⟩,
              ⟨child, hchild, hmid, rfl⟩, children, hrest, ?_, ?_⟩
            · rw [hmid, hweight, hsum, Nat.add_assoc]
            · rw [hspawned, List.append_assoc]
              rfl

/-! ## One transaction, several witnesses -/

/-- The transaction with another witness at the first input of the group. -/
def withWitness (ckbHash : Bytes → Byte32) (env : Env) (witness : Bytes) : Env :=
  { env with tx := { env.tx with
      witnesses := match env.group ckbHash with
        | [] => env.tx.witnesses
        | first :: _ => env.tx.witnesses.set first witness } }

/-- The later members of the group stand at other positions than the first. -/
theorem group_tail_ne {first : Nat} {rest : List Nat} (h : env.group ckbHash = first :: rest) :
    ∀ i ∈ rest, first ≠ i := by
  intro i hi
  have hsorted : (env.group ckbHash).Pairwise (· < ·) := List.pairwise_findIdxs
  rw [h, List.pairwise_cons] at hsorted
  exact Nat.ne_of_lt (hsorted.1 i hi)

theorem group_withWitness (witness : Bytes) :
    (withWitness ckbHash env witness).group ckbHash = env.group ckbHash := rfl

/-- Only the first witness of the group changes. -/
theorem restWitnesses_withWitness (witness : Bytes) :
    restWitnesses ckbHash (withWitness ckbHash env witness) = restWitnesses ckbHash env := by
  unfold restWitnesses
  rw [group_withWitness]
  congr 1
  apply List.map_congr_left
  intro i hi
  unfold withWitness
  split
  · rfl
  · rename_i first rest hcons
    rw [hcons] at hi
    exact List.getElem?_set_ne (group_tail_ne hcons i hi)

theorem extraWitnesses_withWitness (ckbHash : Bytes → Byte32) (witness : Bytes) :
    extraWitnesses (withWitness ckbHash env witness) = extraWitnesses env := by
  unfold extraWitnesses withWitness
  simp only
  split
  · rfl
  · rename_i first rest hcons
    have hmem : first ∈ env.group ckbHash := by
      rw [hcons]
      exact List.mem_cons_self ..
    have hlt := Env.lt_of_mem_group hmem
    exact List.drop_set_of_lt hlt

/-- Script, cells and inputs are those of the transaction. -/
theorem loadCurrentScript_withWitness (witness : Bytes) :
    loadCurrentScript (withWitness ckbHash env witness) = loadCurrentScript env := rfl

/-- The state is found without the witness. -/
theorem resolveState_withWitness (witness : Bytes) (operation : UInt8) (accountId : Byte32) :
    resolveState ckbHash (withWitness ckbHash env witness) operation accountId
      = resolveState ckbHash env operation accountId := rfl

theorem validateTransition_withWitness (witness : Bytes) (operation : UInt8)
    (resolved : ResolvedState) (header : StateHeader) :
    validateTransition (withWitness ckbHash env witness) operation resolved header
      = validateTransition env operation resolved header := rfl

/-- The witness of the group's first input, through the positions of the group. -/
theorem witnessAt_first :
    env.witnessAt ckbHash 0 .groupInput
      = (env.group ckbHash)[0]?.bind fun i => env.tx.witnesses[i]? := rfl

/-- If the changed transaction has a witness there, it is the new one; and then every
    other choice is found just the same. -/
theorem witnessAt_withWitness {w found : Bytes} (w' : Bytes)
    (h : (withWitness ckbHash env w).witnessAt ckbHash 0 .groupInput = some found) :
    found = w ∧ (withWitness ckbHash env w').witnessAt ckbHash 0 .groupInput = some w' := by
  rw [witnessAt_first, group_withWitness] at h ⊢
  unfold withWitness at h ⊢
  split at h
  · rename_i hnil
    rw [hnil] at h
    cases h
  · rename_i first rest hcons
    rw [hcons] at h ⊢
    simp only [List.getElem?_cons_zero, Option.bind_some, List.getElem?_set_self'] at h ⊢
    cases hold : env.tx.witnesses[first]? with
    | none =>
        rw [hold] at h
        cases h
    | some old =>
        rw [hold] at h
        cases h
        exact ⟨rfl, rfl⟩

/-- **The sighash leaves out the lock field** of the first witness. -/
theorem canonicalGroupSighash_withWitness {lock inputType outputType : Bytes}
    {sighash : Byte32} (lock' : Bytes)
    (h : canonicalGroupSighash ckbHash
      (withWitness ckbHash env (table [lock, inputType, outputType])) = .ok sighash)
    (hfits : (table [lock', inputType, outputType]).length ≤ maxWitness) :
    canonicalGroupSighash ckbHash
      (withWitness ckbHash env (table [lock', inputType, outputType])) = .ok sighash := by
  obtain ⟨stream, hstream, h⟩ := bind_eq_ok.mp h
  cases h
  obtain ⟨a, b, c, hparts, rfl⟩ := sighashStream_eq_ok.mp hstream
  obtain ⟨hsame, hfirst⟩ := witnessAt_withWitness (table [lock', inputType, outputType])
    hparts.first
  have hsize := hparts.first_le
  rw [table_three_length] at hsize
  unfold maxWitness accountWitnessMaxLockLen at hsize
  obtain ⟨-, rfl, rfl⟩ := table_three_inj (by omega) hsame
  have hparts' : StreamParts ckbHash (withWitness ckbHash env (table [lock', b, c])) lock' b c := by
    refine ⟨hfirst, hfits, ?_, ?_⟩
    · rw [restWitnesses_withWitness, ← restWitnesses_withWitness (table [lock, b, c])]
      exact hparts.rest_le
    · rw [extraWitnesses_withWitness ckbHash,
        ← extraWitnesses_withWitness ckbHash (table [lock, b, c])]
      exact hparts.extra_le
  rw [canonicalGroupSighash, sighashStream_eq_ok.mpr ⟨lock', b, c, hparts', rfl⟩, ok_bind,
    restWitnesses_withWitness, restWitnesses_withWitness,
    extraWitnesses_withWitness ckbHash,
    extraWitnesses_withWitness ckbHash]
  rfl

/-- A witness with the given lock field. -/
def witnessArgs (lock inputType outputType : Bytes) : Bytes :=
  table [fixvec lock, inputType, outputType]

theorem witnessLock_witnessArgs {lock inputType outputType : Bytes}
    (h : (witnessArgs lock inputType outputType).length ≤ maxWitness) :
    witnessLock (witnessArgs lock inputType outputType) = .ok lock :=
  witnessLock_eq_ok.mpr ⟨inputType, outputType, rfl, Nat.lt_of_le_of_lt h (by decide)⟩

/-- The lock field `run` works on is the one of the witness, which fits its buffer. -/
theorem prepare_lock {lock inputType outputType : Bytes} {p : Prepared}
    (h : prepare ckbHash (withWitness ckbHash env (witnessArgs lock inputType outputType))
      = .ok p) :
    p.lock = lock ∧ parseWitnessHeader lock = .ok p.witness
      ∧ p.witness.proofCount.toNat ≤ authenticatorMaxCount
      ∧ (witnessArgs lock inputType outputType).length ≤ maxWitness := by
  obtain ⟨lockArgs, first, resolved, sighash, hp⟩ := prepare_eq_ok.mp h
  obtain ⟨hat, hfits⟩ := loadWitness_eq_ok.mp hp.loaded
  obtain ⟨rfl, -⟩ := witnessAt_withWitness [] hat
  have hlock := hp.lock
  rw [witnessLock_witnessArgs hfits] at hlock
  cases hlock
  exact ⟨rfl, hp.witness, hp.count, hfits⟩

/-- **Nothing before the loop depends on the proofs**: with another lock field of the
    same operation and sequence, `run` enters its loop with the same state, digest,
    capability and threshold. -/
theorem prepare_withWitness {lock lock' inputType outputType : Bytes} {p : Prepared}
    {header : AccountWitnessHeader}
    (h : prepare ckbHash (withWitness ckbHash env (witnessArgs lock inputType outputType))
      = .ok p)
    (hheader : parseWitnessHeader lock' = .ok header)
    (hop : header.operation = p.witness.operation)
    (hseq : header.stateSequence = p.witness.stateSequence)
    (hcount : header.proofCount.toNat ≤ authenticatorMaxCount)
    (hfits : (witnessArgs lock' inputType outputType).length ≤ maxWitness) :
    prepare ckbHash (withWitness ckbHash env (witnessArgs lock' inputType outputType))
        = .ok { p with lock := lock', witness := header } := by
  obtain ⟨lockArgs, first, resolved, sighash, hp⟩ := prepare_eq_ok.mp h
  refine prepare_eq_ok.mpr ⟨lockArgs, witnessArgs lock' inputType outputType, resolved, sighash,
    ?_⟩
  -- only the lock field changes; each check reads it nowhere or sees the same values
  exact {
    args := by
      rw [loadCurrentScript_withWitness]
      exact hp.args
    loaded := loadWitness_eq_ok.mpr
      ⟨(witnessAt_withWitness _ (loadWitness_eq_ok.mp hp.loaded).1).2, hfits⟩
    lock := witnessLock_witnessArgs hfits
    witness := hheader
    count := hcount
    state := by
      rw [resolveState_withWitness, hop]
      exact hp.state
    current := hp.current
    valid := hp.valid
    sequence := hseq.trans hp.sequence
    transition := by
      rw [validateTransition_withWitness, hop]
      exact hp.transition
    hashed := canonicalGroupSighash_withWitness (fixvec lock') hp.hashed hfits
    digest := by
      rw [hop]
      exact hp.digest
    capability := by
      rw [hop]
      exact hp.capability
    threshold := by
      rw [hop]
      exact hp.threshold }

/-! ## Merging -/

/-- The lock field carries an operation, a sequence and a list of proofs. -/
def Carries (lock : Bytes) (operation : UInt8) (sequence : UInt64) (proofs : List SlotProof) :
    Prop :=
  ∃ header, parseWitnessHeader lock = .ok header ∧ header.operation = operation
    ∧ header.stateSequence = sequence ∧ parseProofs collect lock header [] = .ok proofs

/-- The slot-sorted union of two proof lists. -/
def mergeProofs (proofsA proofsB : List SlotProof) : List SlotProof :=
  sortBySlot SlotProof.slot (proofsA ++ proofsB)

/-- The lock field of the merged witness. -/
def mergedLock (operation : UInt8) (sequence : UInt64) (proofsA proofsB : List SlotProof) : Bytes :=
  witnessLayout operation sequence (mergeProofs proofsA proofsB)

/-- The transaction with a lock field and two fixed other fields in its first witness. -/
def withLock (ckbHash : Bytes → Byte32) (env : Env) (inputType outputType lock : Bytes) : Env :=
  withWitness ckbHash env (witnessArgs lock inputType outputType)

/-- The children of a loop over a lock field, one for each of its proofs. -/
theorem runLoop_eq_ok {p : Prepared} {loop : Loop} {operation : UInt8} {sequence : UInt64}
    {proofs : List SlotProof} (hcarries : Carries p.lock operation sequence proofs)
    (hheader : parseWitnessHeader p.lock = .ok p.witness)
    (h : runLoop ckbHash env p = .ok loop) :
    p.witness.operation = operation ∧ p.witness.stateSequence = sequence
      ∧ List.Forall₂ (fun q c => spawnFor ckbHash env p q = .ok c) proofs loop.spawned
      ∧ loop.weight.toNat = verifiedWeight loop.spawned := by
  obtain ⟨header, hheader', hop, hseq, hproofs⟩ := hcarries
  cases Outcome.ok.inj (hheader.symm.trans hheader')
  obtain ⟨ps, hps, -, -, hvisit⟩ := parseProofs_visit hheader h
  cases Outcome.ok.inj (hproofs.symm.trans hps)
  obtain ⟨children, hchildren, hweight, hspawned⟩ := visit_spawn_eq_ok.mp hvisit
  rw [show loop.spawned = children from hspawned]
  exact ⟨hop, hseq, hchildren, hweight.trans (Nat.zero_add _)⟩

/-- The child for a proof depends on the transaction without the witness, and on what
    was computed before the loop. -/
theorem spawnFor_withWitness (ckbHash : Bytes → Byte32) (env : Env) (w w' lock : Bytes)
    {p : Prepared} {header : AccountWitnessHeader}
    (hop : header.operation = p.witness.operation) (q : SlotProof) :
    spawnFor ckbHash (withWitness ckbHash env w') { p with lock := lock, witness := header } q
      = spawnFor ckbHash (withWitness ckbHash env w) p q := by
  unfold spawnFor
  simp only [hop]
  rfl

/-- The child for a proof carries its slot. -/
theorem spawnFor_slot {p : Prepared} {q : SlotProof} {child : Spawned}
    (h : spawnFor ckbHash env p q = .ok child) : q.slot = child.slot := by
  unfold spawnFor at h
  obtain ⟨auth, -, h⟩ := bind_eq_ok.mp h
  obtain ⟨-, h⟩ := rejectIf_bind_eq_ok.mp h
  obtain ⟨dep, -, h⟩ := bind_eq_ok.mp h
  obtain ⟨request, -, h⟩ := bind_eq_ok.mp h
  obtain ⟨valid, -, h⟩ := bind_eq_ok.mp h
  cases h
  rfl

theorem verifiedWeight_append (xs ys : List Spawned) :
    verifiedWeight (xs ++ ys) = verifiedWeight xs + verifiedWeight ys := by
  rw [verifiedWeight, List.map_append, List.sum_append]
  rfl

/-- The weight does not depend on the order. -/
theorem verifiedWeight_sort (xs : List Spawned) :
    verifiedWeight (sortBySlot Spawned.slot xs) = verifiedWeight xs :=
  ((sortBySlot_perm Spawned.slot xs).map Spawned.counts).sum_nat

theorem verifiedWeight_le (xs : List Spawned) : verifiedWeight xs ≤ 65535 * xs.length := by
  induction xs with
  | nil => exact Nat.le_refl 0
  | cons child xs ih =>
      have hsum : verifiedWeight (child :: xs) = child.counts + verifiedWeight xs := rfl
      have hchild : child.counts ≤ 65535 := by
        have := child.weight.toNat_lt
        unfold Spawned.counts
        split
        · omega
        · omega
      rw [hsum, List.length_cons]
      omega

/-- Two encodable lists with disjoint slots have an encodable union, if it is short. -/
theorem mergeProofs_encodable {operation : UInt8} {proofsA proofsB : List SlotProof}
    (hA : EncodableWitness operation proofsA) (hB : EncodableWitness operation proofsB)
    (hdisjoint : ∀ p ∈ proofsA, ∀ q ∈ proofsB, p.slot ≠ q.slot)
    (hcount : proofsA.length + proofsB.length ≤ 16)
    (hsize : 16 + ((mergeProofs proofsA proofsB).flatMap SlotProof.layout).length
      ≤ accountWitnessMaxLockLen) :
    EncodableWitness operation (mergeProofs proofsA proofsB) := by
  have hperm : (mergeProofs proofsA proofsB).Perm (proofsA ++ proofsB) := sortBySlot_perm ..
  refine ⟨hA.operation, ?_, ?_, ?_, hsize⟩
  · rw [hperm.length_eq, List.length_append]
    exact hcount
  · intro p hp
    rcases List.mem_append.mp (hperm.mem_iff.mp hp) with hp | hp
    · exact hA.nonempty p hp
    · exact hB.nonempty p hp
  · apply sortBySlot_increasing
    rw [List.map_append, List.nodup_append]
    refine ⟨nodup_of_increasing hA.increasing, nodup_of_increasing hB.increasing, ?_⟩
    intro s hs t ht
    obtain ⟨p, hp, rfl⟩ := List.mem_map.mp hs
    obtain ⟨q, hq, rfl⟩ := List.mem_map.mp ht
    exact hdisjoint p hp q hq

/-- **More weight against the same threshold is accepted too.** -/
theorem run_of_heavier {e e' : Env} {p p' : Prepared} {loop loop' : Loop}
    (hprep : prepare ckbHash e = .ok p) (hloop : runLoop ckbHash e p = .ok loop)
    (hprep' : prepare ckbHash e' = .ok p') (hloop' : runLoop ckbHash e' p' = .ok loop')
    (hthreshold : p'.threshold = p.threshold)
    (hle : loop.weight.toNat ≤ loop'.weight.toNat) (h : run ckbHash e = .ok ()) :
    run ckbHash e' = .ok () := by
  rw [run_eq_runLoop, hprep, ok_bind, hloop, ok_bind, rejectIf_eq_ok, UInt32.not_lt,
    UInt32.le_iff_toNat_le] at h
  rw [run_eq_runLoop, hprep', ok_bind, hloop', ok_bind, rejectIf_eq_ok, UInt32.not_lt,
    UInt32.le_iff_toNat_le, hthreshold]
  exact Nat.le_trans h hle

/-- **Separately collected proofs can be merged.**  Take two witnesses for the first
    input of the group that differ in their lock field only, with the same operation and
    sequence and disjoint slots, and let `run` process the proofs of both.  If the
    slot-sorted union has at most 16 proofs, fits the lock size limit, and the witness
    that carries it fits the witness buffer, then `run` on that witness computes the same
    authorization digest, starts the same children on the same requests in slot order,
    and verifies the sum of the two weights; what was accepted stays accepted. -/
theorem proofs_merge (ckbHash : Bytes → Byte32) (env : Env)
    (inputType outputType lockA lockB : Bytes) (operation : UInt8) (sequence : UInt64)
    (proofsA proofsB : List SlotProof) (a b : Prepared) (loopA loopB : Loop)
    (hA : Carries lockA operation sequence proofsA)
    (hB : Carries lockB operation sequence proofsB)
    (hprepA : prepare ckbHash (withLock ckbHash env inputType outputType lockA) = .ok a)
    (hloopA : runLoop ckbHash (withLock ckbHash env inputType outputType lockA) a = .ok loopA)
    (hprepB : prepare ckbHash (withLock ckbHash env inputType outputType lockB) = .ok b)
    (hloopB : runLoop ckbHash (withLock ckbHash env inputType outputType lockB) b = .ok loopB)
    (hdisjoint : ∀ p ∈ proofsA, ∀ q ∈ proofsB, p.slot ≠ q.slot)
    (hcount : proofsA.length + proofsB.length ≤ 16)
    (hsize : (mergedLock operation sequence proofsA proofsB).length ≤ accountWitnessMaxLockLen)
    (hfits : (witnessArgs (mergedLock operation sequence proofsA proofsB) inputType
      outputType).length ≤ maxWitness) :
    ∃ c loopC,
      prepare ckbHash (withLock ckbHash env inputType outputType
          (mergedLock operation sequence proofsA proofsB)) = .ok c
      ∧ runLoop ckbHash (withLock ckbHash env inputType outputType
          (mergedLock operation sequence proofsA proofsB)) c = .ok loopC
      ∧ c.digest = a.digest ∧ c.digest = b.digest
      ∧ loopC.spawned = sortBySlot Spawned.slot (loopA.spawned ++ loopB.spawned)
      ∧ loopC.weight.toNat = loopA.weight.toNat + loopB.weight.toNat
      ∧ (run ckbHash (withLock ckbHash env inputType outputType lockA) = .ok () →
        run ckbHash (withLock ckbHash env inputType outputType
          (mergedLock operation sequence proofsA proofsB)) = .ok ()) := by
  obtain ⟨rfl, hheaderA, -, -⟩ := prepare_lock hprepA
  obtain ⟨rfl, hheaderB, hcountB, hfitsB⟩ := prepare_lock hprepB
  obtain ⟨hopA, hseqA, hchildrenA, hweightA⟩ := runLoop_eq_ok hA hheaderA hloopA
  obtain ⟨hopB, hseqB, hchildrenB, hweightB⟩ := runLoop_eq_ok hB hheaderB hloopB
  -- the two runs enter their loops alike
  have hsame := prepare_withWitness hprepA hheaderB (hopB.trans hopA.symm)
    (hseqB.trans hseqA.symm) hcountB hfitsB
  have hb : b = { a with lock := b.lock, witness := b.witness } :=
    Outcome.ok.inj (hprepB.symm.trans hsame)
  have henc : EncodableWitness operation (mergeProofs proofsA proofsB) := by
    obtain ⟨headerA, hpA, rfl, -, hproofsA⟩ := hA
    obtain ⟨headerB, hpB, hop, -, hproofsB⟩ := hB
    have hencB := (encodable_of_parses (by omega) hpB hproofsB).1
    rw [hop] at hencB
    refine mergeProofs_encodable (encodable_of_parses (by omega) hpA hproofsA).1 hencB hdisjoint
      hcount ?_
    rw [mergedLock, witnessLayout, List.length_append, AccountWitnessHeader.layout_length] at hsize
    exact hsize
  obtain ⟨hheaderC, hloopC⟩ := henc.parses sequence
  have hprepC := prepare_withWitness hprepA hheaderC hopA.symm hseqA.symm
    (by rw [henc.count_toNat sequence]; exact henc.count) hfits
  -- every child of the merged loop is one of the two runs' children
  have hchildren : List.Forall₂ (fun q c => spawnFor ckbHash
      (withLock ckbHash env inputType outputType (mergedLock operation sequence proofsA proofsB))
      { a with
        lock := mergedLock operation sequence proofsA proofsB
        witness := witnessHeader operation sequence (mergeProofs proofsA proofsB) } q = .ok c)
      (mergeProofs proofsA proofsB)
      (sortBySlot Spawned.slot (loopA.spawned ++ loopB.spawned)) := by
    refine forall₂_sortBySlot (fun q c h => spawnFor_slot h) (List.rel_append ?_ ?_)
    · refine hchildrenA.imp fun q c h => ?_
      exact (spawnFor_withWitness ckbHash env _ _ _ hopA.symm q).trans h
    · refine hchildrenB.imp fun q c h => ?_
      have hchild := spawnFor_withWitness ckbHash env (witnessArgs a.lock inputType outputType)
        (witnessArgs b.lock inputType outputType) b.lock (hopB.trans hopA.symm) q
      rw [← hb] at hchild
      exact (spawnFor_withWitness ckbHash env _ _ _ hopA.symm q).trans (hchild.symm.trans h)
  have hsum : verifiedWeight (sortBySlot Spawned.slot (loopA.spawned ++ loopB.spawned))
      = loopA.weight.toNat + loopB.weight.toNat := by
    rw [verifiedWeight_sort, verifiedWeight_append, hweightA, hweightB]
  have hlt : loopA.weight.toNat + loopB.weight.toNat < 2 ^ 32 := by
    have hleA := verifiedWeight_le loopA.spawned
    have hleB := verifiedWeight_le loopB.spawned
    rw [← hchildrenA.length_eq] at hleA
    rw [← hchildrenB.length_eq] at hleB
    omega
  have hweightC : (UInt32.ofNat (loopA.weight.toNat + loopB.weight.toNat)).toNat
      = loopA.weight.toNat + loopB.weight.toNat := UInt32.toNat_ofNat_of_lt' hlt
  have hvisit : visit (spawnNext ckbHash _ _) (mergeProofs proofsA proofsB) ⟨0, []⟩
      = .ok ⟨UInt32.ofNat (loopA.weight.toNat + loopB.weight.toNat), _⟩ :=
    visit_spawn_eq_ok.mpr ⟨_, hchildren, by rw [hsum, hweightC]; exact (Nat.zero_add _).symm,
      rfl⟩
  have hrunC := hloopC hvisit
  refine ⟨_, _, hprepC, hrunC, rfl, ?_, rfl, hweightC, ?_⟩
  · rw [hb]
  · refine run_of_heavier hprepA hloopA hprepC hrunC rfl ?_
    rw [hweightC]
    exact Nat.le_add_right _ _

/-! ## Two signers

    An account with two keys of weight 1 behind the fixture verifier; either may
    spend.  The second field of the witness is free, so that it can be made as large
    as the witness buffer allows. -/

/-- A state with two authenticators of full capability. -/
def pairState : Bytes :=
  (sampleHeader 0).layout ++ entriesLayout [
    sampleEntry 0 (capSpend ||| capRotate ||| capRecovery),
    sampleEntry 1 (capSpend ||| capRotate ||| capRecovery)]

/-- Spending an asset of the account; the witness is still to come. -/
def pairEnv (hash : Byte32) : Env where
  script := sampleLock
  tx := {
    hash := hash
    inputs := [{ cell := assetCell, since := 0 }]
    outputs := []
    cellDeps := [{ lock := sampleLock, typeScript := some sampleType, data := pairState },
      verifierCell]
    witnesses := [[]] }
  vm := fixtureVm

/-- A small and a large spend. -/
def smallHash : Byte32 := filled32 0x22

/-- The transaction hash of the spend with a large field. -/
def largeHash : Byte32 := filled32 0x55

/-- An `input_type` of 132,035 zero bytes. -/
@[irreducible] def bulk : Bytes := fixvec (List.replicate 132035 0)

/-- The group sighash of that spend. -/
def bulkSighash : Byte32 :=
  byte32 0xe7ab4be7063ab502ed851e2434e7e1ff0f6d746c64ff3edb99dab0c582f71ee1

/-- The hash of the state. -/
def pairStateHash : Byte32 :=
  byte32 0xd804716518b21f4456e10f95c6104d29adb8b80ba302e17f7d489703e58fa480

/-- The digest of the small spend. -/
def pairDigest : Byte32 :=
  byte32 0xdc164ab7581e87d7008e980d25f82dc4f09d39d488014e8c9e1aef5771eca24a

/-- The digest of the spend with the large field. -/
def bulkDigest : Byte32 :=
  byte32 0xd9bfc9f0c07973cd29b82ebc36faa5b47f2a6a61bac52af982d48be90edd2fda

/-- The CKB hash on the strings these spends hash. -/
def pairHash (data : Bytes) : Byte32 :=
  if data = streamOf largeHash bulk [] [] [] then bulkSighash
  else tabulated [
    (sampleType.asBytes, sampleId),
    (sampleLock.asBytes,
      byte32 0x6ec408027965bd208a9e6ce57842739371c45207098e0bfa3f0251a74672b834),
    (verifierProgram, verifierHash),
    (pairState, pairStateHash),
    (streamOf smallHash [] [] [] [], spendSighash),
    (digestMessage opSpend sampleId 0 pairStateHash spendSighash, pairDigest),
    (digestMessage opSpend sampleId 0 pairStateHash bulkSighash, bulkDigest)] data

/-- The proofs of the two signers: one is valid, one is not. -/
def firstProofs : List SlotProof := [{ slot := 1, proof := fixtureProof }]

/-- The proof of the other authenticator. -/
def secondProofs : List SlotProof := [{ slot := 0, proof := [0] }]

/-- The lock field with these proofs. -/
def pairLock (proofs : List SlotProof) : Bytes := witnessLayout opSpend 0 proofs

/-- What `run` has when it enters its loop over such a lock field. -/
def pairPrepared (digest : Byte32) (proofs : List SlotProof) : Prepared where
  lock := pairLock proofs
  witness := witnessHeader opSpend 0 proofs
  current := pairState
  header := sampleHeader 0
  digest := digest
  capability := capSpend
  threshold := 1

/-- What the code computes on the sample before it looks at a witness. -/
theorem pairEnv_loads :
    (pairEnv smallHash).group pairHash = [0]
      ∧ loadCurrentScript (pairEnv smallHash) = .ok sampleLock.asBytes
      ∧ scriptArgs sampleLock.asBytes = .ok sampleLock.args
      ∧ AccountLockArgs.parse sampleLock.args = .ok ⟨accountLockVersion, sampleId⟩
      ∧ resolveState pairHash (pairEnv smallHash) opSpend sampleId = .ok ⟨pairState, none, none⟩
      ∧ validateState pairState = .ok (sampleHeader 0, ⟨2, 2, 2⟩) := by
  decide +kernel

theorem pairEnv_group (hash : Byte32) : (pairEnv hash).group pairHash = [0] :=
  pairEnv_loads.1

theorem pairEnv_witnessAt (hash : Byte32) (witness : Bytes) :
    (withWitness pairHash (pairEnv hash) witness).witnessAt pairHash 0 .groupInput
      = some witness := by
  rw [witnessAt_first, group_withWitness, pairEnv_group, withWitness, pairEnv_group]
  rfl

/-- The second field is hashed whatever its size. -/
theorem pairEnv_sighash {hash : Byte32} {field lock : Bytes}
    (hfits : (witnessArgs lock field []).length ≤ maxWitness) :
    canonicalGroupSighash pairHash (withLock pairHash (pairEnv hash) field [] lock)
      = .ok (pairHash (streamOf hash field [] [] [])) := by
  have hrest : restWitnesses pairHash (withLock pairHash (pairEnv hash) field [] lock) = [] := by
    rw [withLock, restWitnesses_withWitness, restWitnesses, pairEnv_group]
    rfl
  have hextra : extraWitnesses (withLock pairHash (pairEnv hash) field [] lock) = [] := by
    rw [withLock, extraWitnesses_withWitness]
    rfl
  have hparts : StreamParts pairHash (withLock pairHash (pairEnv hash) field [] lock) (fixvec lock)
      field [] := by
    refine ⟨pairEnv_witnessAt _ _, hfits, ?_, ?_⟩
    · rw [hrest]
      exact fun _ hw => absurd hw List.not_mem_nil
    · rw [hextra]
      exact fun _ hw => absurd hw List.not_mem_nil
  rw [canonicalGroupSighash, sighashStream_eq_ok.mpr ⟨_, _, _, hparts, rfl⟩, ok_bind, hrest,
    hextra]
  rfl

theorem pairEnv_args (hash : Byte32) :
    ∃ script args, loadCurrentScript (pairEnv hash) = .ok script ∧ scriptArgs script = .ok args
      ∧ AccountLockArgs.parse args = .ok ⟨accountLockVersion, sampleId⟩ := by
  obtain ⟨-, hscript, hargs, hparse, -⟩ := pairEnv_loads
  exact ⟨_, _, hscript, hargs, hparse⟩

theorem pairEnv_state (hash : Byte32) :
    resolveState pairHash (pairEnv hash) opSpend sampleId = .ok ⟨pairState, none, none⟩ :=
  pairEnv_loads.2.2.2.2.1

theorem pairDigest_eq :
    authorizationDigest pairHash opSpend sampleId 0 pairState
        (pairHash (streamOf smallHash [] [] [] [])) = pairDigest
      ∧ authorizationDigest pairHash opSpend sampleId 0 pairState bulkSighash = bulkDigest := by
  decide +kernel

theorem bulkDigest_eq :
    authorizationDigest pairHash opSpend sampleId 0 pairState
      (pairHash (streamOf largeHash bulk [] [] [])) = bulkDigest := by
  have hsighash : pairHash (streamOf largeHash bulk [] [] []) = bulkSighash := if_pos rfl
  rw [hsighash]
  exact pairDigest_eq.2

/-- **The spend of the pair is prepared with either lock field.** -/
theorem pairEnv_prepare {hash digest : Byte32} {field : Bytes} {proofs : List SlotProof}
    (hdigest : authorizationDigest pairHash opSpend sampleId 0 pairState
      (pairHash (streamOf hash field [] [] [])) = digest)
    (h : EncodableWitness opSpend proofs)
    (hfits : (witnessArgs (pairLock proofs) field []).length ≤ maxWitness) :
    prepare pairHash (withLock pairHash (pairEnv hash) field [] (pairLock proofs))
      = .ok (pairPrepared digest proofs) := by
  refine prepare_eq_ok.mpr ⟨⟨accountLockVersion, sampleId⟩, witnessArgs (pairLock proofs) field [],
    ⟨pairState, none, none⟩, pairHash (streamOf hash field [] [] []), ?_⟩
  exact {
    -- the fixture of two slots: each field is read off the environment
    args := by
      rw [withLock, loadCurrentScript_withWitness]
      exact pairEnv_args hash
    loaded := loadWitness_eq_ok.mpr ⟨pairEnv_witnessAt _ _, hfits⟩
    lock := witnessLock_witnessArgs hfits
    witness := (h.parses 0).1
    count := by
      rw [show (pairPrepared digest proofs).witness.proofCount.toNat = _ from h.count_toNat 0]
      exact h.count
    state := by
      rw [withLock, resolveState_withWitness]
      exact pairEnv_state hash
    current := rfl
    valid := ⟨⟨2, 2, 2⟩, pairEnv_loads.2.2.2.2.2⟩
    sequence := rfl
    transition := rfl
    hashed := pairEnv_sighash hfits
    digest := hdigest.symm
    capability := rfl
    threshold := rfl }

/-- The loop reads the transaction and not the witness bytes. -/
theorem runLoop_withLock {inputType outputType lock : Bytes} (p : Prepared) :
    runLoop ckbHash (withLock ckbHash env inputType outputType lock) p = runLoop ckbHash env p :=
  rfl

/-- The weight of each signer's loop, for either digest. -/
theorem pairEnv_weights :
    ∀ digest ∈ [pairDigest, bulkDigest],
      (runLoop pairHash (pairEnv smallHash) (pairPrepared digest firstProofs) >>= fun loop =>
          .ok loop.weight) = .ok 1
        ∧ (runLoop pairHash (pairEnv smallHash) (pairPrepared digest secondProofs) >>= fun loop =>
          .ok loop.weight) = .ok 0 := by
  decide +kernel

/-- One of the two proofs verifies, the other does not. -/
theorem pairEnv_loops (hash : Byte32) {digest : Byte32} (h : digest ∈ [pairDigest, bulkDigest]) :
    ∃ loopA loopB,
      runLoop pairHash (pairEnv hash) (pairPrepared digest firstProofs) = .ok loopA
        ∧ loopA.weight = 1
        ∧ runLoop pairHash (pairEnv hash) (pairPrepared digest secondProofs) = .ok loopB
        ∧ loopB.weight = 0 := by
  obtain ⟨hfirst, hsecond⟩ := pairEnv_weights digest h
  obtain ⟨loopA, hloopA, hweightA⟩ := bind_eq_ok.mp hfirst
  obtain ⟨loopB, hloopB, hweightB⟩ := bind_eq_ok.mp hsecond
  exact ⟨loopA, loopB, hloopA, Outcome.ok.inj hweightA, hloopB, Outcome.ok.inj hweightB⟩

/-- The lengths of the three lock fields. -/
theorem pairLock_lengths :
    (firstProofs.flatMap SlotProof.layout).length = 21
      ∧ (secondProofs.flatMap SlotProof.layout).length = 9
      ∧ (pairLock firstProofs).length = 37 ∧ (pairLock secondProofs).length = 25
      ∧ (mergedLock opSpend 0 firstProofs secondProofs).length = 46 := by
  decide +kernel

theorem firstProofs_encodable : EncodableWitness opSpend firstProofs :=
  ⟨by decide, by decide, by decide, by decide, by rw [pairLock_lengths.1]; decide⟩

theorem secondProofs_encodable : EncodableWitness opSpend secondProofs :=
  ⟨by decide, by decide, by decide, by decide, by rw [pairLock_lengths.2.1]; decide⟩

theorem carries_pairLock {proofs : List SlotProof} (h : EncodableWitness opSpend proofs) :
    Carries (pairLock proofs) opSpend 0 proofs :=
  ⟨witnessHeader opSpend 0 proofs, (h.parses 0).1, rfl, rfl,
    (h.parses 0).2 ((visit_collect proofs []).trans (congrArg Outcome.ok (List.nil_append proofs)))⟩

theorem fieldArgs_length (lock field : Bytes) :
    (witnessArgs lock field []).length = 20 + lock.length + field.length := by
  rw [witnessArgs, table_three_length, fixvec_length, List.length_nil]
  omega

theorem bulk_length : bulk.length = 132039 := by
  rw [bulk, fixvec_length, List.length_replicate]

/-- The two lists have no slot in common. -/
theorem pairProofs_disjoint : ∀ p ∈ firstProofs, ∀ q ∈ secondProofs, p.slot ≠ q.slot := by
  decide

/-- The two signers of the sample spend merge their proofs. -/
theorem pairEnv_merges :
    ∃ c loopC,
      prepare pairHash (withLock pairHash (pairEnv smallHash) [] []
          (mergedLock opSpend 0 firstProofs secondProofs)) = .ok c
      ∧ runLoop pairHash (withLock pairHash (pairEnv smallHash) [] []
          (mergedLock opSpend 0 firstProofs secondProofs)) c = .ok loopC
      ∧ c.digest = pairDigest ∧ loopC.weight.toNat = 1
      ∧ run pairHash (withLock pairHash (pairEnv smallHash) [] []
          (mergedLock opSpend 0 firstProofs secondProofs)) = .ok () := by
  obtain ⟨loopA, loopB, hloopA, hweightA, hloopB, hweightB⟩ :=
    pairEnv_loops smallHash (List.mem_cons_self ..)
  obtain ⟨-, -, hlenA, hlenB, hlenC⟩ := pairLock_lengths
  have hmax : maxWitness = 132096 := rfl
  have hprepA := pairEnv_prepare pairDigest_eq.1 firstProofs_encodable
    (by rw [fieldArgs_length, List.length_nil]; omega)
  have hprepB := pairEnv_prepare pairDigest_eq.1 secondProofs_encodable
    (by rw [fieldArgs_length, List.length_nil]; omega)
  obtain ⟨c, loopC, hprep, hloop, hdigest, -, -, hweight, hrun⟩ := proofs_merge pairHash
    (pairEnv smallHash) [] [] (pairLock firstProofs) (pairLock secondProofs) opSpend 0 firstProofs
    secondProofs (pairPrepared pairDigest firstProofs) (pairPrepared pairDigest secondProofs) loopA
    loopB (carries_pairLock firstProofs_encodable) (carries_pairLock secondProofs_encodable) hprepA
    ((runLoop_withLock _).trans hloopA) hprepB ((runLoop_withLock _).trans hloopB)
    pairProofs_disjoint (by decide) (by rw [hlenC]; decide)
    (by rw [fieldArgs_length, List.length_nil]; omega)
  -- either witness alone already meets the threshold of one
  have haccepted : run pairHash (withLock pairHash (pairEnv smallHash) [] [] (pairLock firstProofs))
      = .ok () := by
    rw [run_eq_runLoop, hprepA, ok_bind, runLoop_withLock, hloopA, ok_bind, hweightA]
    rfl
  refine ⟨c, loopC, hprep, hloop, hdigest, ?_, hrun haccepted⟩
  rw [hweight, hweightA, hweightB]
  rfl

/-- A first witness too large for its buffer is rejected. -/
theorem run_of_oversized {script args witness : Bytes} {lockArgs : AccountLockArgs}
    (hscript : loadCurrentScript env = .ok script) (hargs : scriptArgs script = .ok args)
    (hlockArgs : AccountLockArgs.parse args = .ok lockArgs)
    (hwitness : env.witnessAt ckbHash 0 .groupInput = some witness)
    (hsize : maxWitness < witness.length) : run ckbHash env = .err .invalidWitness := by
  rw [run, hscript, ok_bind, hargs, ok_bind, hlockArgs, ok_bind, loadWitness_some hwitness,
    if_neg (Nat.not_le_of_lt hsize), err_bind]

/-- **The lock size limit is not the only one.**  With a large second field both signers'
    witnesses fit the witness buffer, and the first is accepted; the merged lock field is 46
    bytes long, and the merged witness is rejected for its size. -/
theorem pairEnv_bulk_rejected :
    Carries (pairLock firstProofs) opSpend 0 firstProofs
      ∧ Carries (pairLock secondProofs) opSpend 0 secondProofs
      ∧ (∃ a loopA,
        prepare pairHash (withLock pairHash (pairEnv largeHash) bulk [] (pairLock firstProofs)) = .ok a
        ∧ runLoop pairHash (withLock pairHash (pairEnv largeHash) bulk [] (pairLock firstProofs)) a
          = .ok loopA)
      ∧ (∃ b loopB,
        prepare pairHash (withLock pairHash (pairEnv largeHash) bulk [] (pairLock secondProofs)) = .ok b
        ∧ runLoop pairHash (withLock pairHash (pairEnv largeHash) bulk [] (pairLock secondProofs)) b
          = .ok loopB)
      ∧ (∀ p ∈ firstProofs, ∀ q ∈ secondProofs, p.slot ≠ q.slot)
      ∧ firstProofs.length + secondProofs.length ≤ 16
      ∧ (mergedLock opSpend 0 firstProofs secondProofs).length ≤ accountWitnessMaxLockLen
      ∧ run pairHash (withLock pairHash (pairEnv largeHash) bulk [] (pairLock firstProofs)) = .ok ()
      ∧ run pairHash (withLock pairHash (pairEnv largeHash) bulk []
          (mergedLock opSpend 0 firstProofs secondProofs)) = .err .invalidWitness := by
  obtain ⟨-, -, hlenA, hlenB, hlenC⟩ := pairLock_lengths
  have hmax : maxWitness = 132096 := rfl
  have hprepA := pairEnv_prepare bulkDigest_eq firstProofs_encodable
    (by rw [fieldArgs_length, bulk_length]; omega)
  have hprepB := pairEnv_prepare bulkDigest_eq secondProofs_encodable
    (by rw [fieldArgs_length, bulk_length]; omega)
  obtain ⟨loopA, loopB, hloopA, hweightA, hloopB, -⟩ :=
    pairEnv_loops largeHash (List.mem_cons_of_mem _ (List.mem_cons_self ..))
  refine ⟨carries_pairLock firstProofs_encodable, carries_pairLock secondProofs_encodable,
    ⟨_, loopA, hprepA, (runLoop_withLock _).trans hloopA⟩,
    ⟨_, loopB, hprepB, (runLoop_withLock _).trans hloopB⟩, pairProofs_disjoint, by decide, ?_, ?_,
    ?_⟩
  · rw [hlenC]
    decide
  · rw [run_eq_runLoop, hprepA, ok_bind, runLoop_withLock, hloopA, ok_bind, hweightA]
    rfl
  · obtain ⟨script, args, hscript, hargs, hparse⟩ := pairEnv_args largeHash
    -- both proof lists together push the witness over the load buffer
    refine run_of_oversized hscript hargs hparse (pairEnv_witnessAt _ _) ?_
    rw [fieldArgs_length, bulk_length]
    omega

end CkbMerge
