import CkbAccount.SighashProofs

/-! # The host's digest

    `group_sighash` and `authorization_digest` of `crates/host/src/lib.rs`.  The host
    parses the first witness with the Molecule library and rebuilds it; the contract
    slices offsets by hand.  Both write the same canonical witness, so both hash the
    same stream. -/

namespace CkbHostDigest

open RustOutcome Outcome LittleEndian Molecule CkbProtocol CkbTransaction CkbLoad
open CkbWitnessTable CkbSighash

/-! ## `packed::WitnessArgs` -/

/-- `WitnessArgs`. -/
structure WitnessArgs where
  lock : Option Bytes
  inputType : Option Bytes
  outputType : Option Bytes
  deriving DecidableEq, Repr

/-- `WitnessArgs::as_bytes`. -/
def WitnessArgs.asBytes (args : WitnessArgs) : Bytes :=
  table [optBytes args.lock, optBytes args.inputType, optBytes args.outputType]

/-- `WitnessArgs::from_slice`. -/
def WitnessArgs.fromSlice (data : Bytes) : Option WitnessArgs := do
  let (lock, inputType, outputType) ← fields3? data
  return {
    lock := ← optBytes? lock
    inputType := ← optBytes? inputType
    outputType := ← optBytes? outputType }

/-- **`from_slice` accepts exactly what `as_bytes` writes.** -/
theorem WitnessArgs.fromSlice_eq_some {data : Bytes} {args : WitnessArgs} :
    WitnessArgs.fromSlice data = some args ↔ data = args.asBytes ∧ data.length < 2 ^ 32 := by
  unfold WitnessArgs.fromSlice
  constructor
  · intro h
    obtain ⟨⟨a, b, c⟩, htable, hfields⟩ := Option.bind_eq_some_iff.mp h
    obtain ⟨rfl, hlt⟩ := fields3?_eq_some.mp htable
    have hlen := hlt
    rw [table_three_length] at hlen
    replace hfields : (optBytes? a).bind (fun lock => (optBytes? b).bind (fun inputType =>
        (optBytes? c).bind (fun outputType => some ⟨lock, inputType, outputType⟩)))
        = some args := hfields
    obtain ⟨lock, hlock, hfields⟩ := Option.bind_eq_some_iff.mp hfields
    obtain ⟨inputType, hin, hfields⟩ := Option.bind_eq_some_iff.mp hfields
    obtain ⟨outputType, hout, hfields⟩ := Option.bind_eq_some_iff.mp hfields
    cases hfields
    -- each field is shorter than the table, so its own header holds its length
    rw [optBytes?_eq_some (by omega)] at hlock hin hout
    refine ⟨?_, hlt⟩
    rw [WitnessArgs.asBytes, hlock, hin, hout]
  · rintro ⟨rfl, hlt⟩
    have hlen := hlt
    rw [WitnessArgs.asBytes, table_three_length] at hlen
    have hfields : fields3? args.asBytes = some (optBytes args.lock, optBytes args.inputType,
        optBytes args.outputType) := fields3?_eq_some.mpr ⟨rfl, hlt⟩
    rw [hfields]
    simp only [Option.bind_eq_bind, Option.bind_some,
      (optBytes?_eq_some (show (optBytes args.lock).length < 2 ^ 32 by omega)).mpr rfl,
      (optBytes?_eq_some (show (optBytes args.inputType).length < 2 ^ 32 by omega)).mpr rfl,
      (optBytes?_eq_some (show (optBytes args.outputType).length < 2 ^ 32 by omega)).mpr rfl]
    rfl

/-! ## `group_sighash` -/

/-- `update_witness`. -/
def updateWitness (hasher witness : Bytes) : Outcome ProtocolError Bytes :=
  if witness.length < 2 ^ 64 then
    .ok (hasher ++ u64Le (UInt64.ofNat witness.length) ++ witness)
  else .err .lengthOverflow

/-- `for witness in witnesses { update_witness(..)? }`. -/
def updateWitnesses : List Bytes → Bytes → Outcome ProtocolError Bytes
  | [], hasher => .ok hasher
  | witness :: rest, hasher => updateWitness hasher witness >>= updateWitnesses rest

/-- The canonical first witness: the parsed one with a present, empty lock. -/
def rebuild (args : WitnessArgs) : Bytes := ({ args with lock := some [] } : WitnessArgs).asBytes

/-- `group_sighash`. -/
def groupSighash (ckbHash : Bytes → Byte32) (txHash : Byte32)
    (groupWitnesses extraWitnesses : List Bytes) : Outcome ProtocolError Byte32 := do
  let first ← okOr .invalidWitness groupWitnesses.head?
  let args ← okOr .invalidWitness (WitnessArgs.fromSlice first)
  let hasher ← updateWitness txHash.val (rebuild args)
  let hasher ← updateWitnesses groupWitnesses.tail hasher
  let hasher ← updateWitnesses extraWitnesses hasher
  return ckbHash hasher

/-- `authorization_digest` of the host: it checks the operation first. -/
def authorizationDigest (ckbHash : Bytes → Byte32) (operation : UInt8) (accountId : Byte32)
    (sequence : UInt64) (stateData : Bytes) (groupSighash : Byte32) :
    Outcome ProtocolError Byte32 := do
  let _ ← capabilityForOperation operation
  return ckbHash (authDomain ++ [operation] ++ accountId.val ++ u64Le sequence
    ++ (ckbHash stateData).val ++ groupSighash.val)

/-- A witness is hashed behind its length. -/
theorem updateWitness_of_lt {hasher witness : Bytes} (h : witness.length < 2 ^ 64) :
    updateWitness hasher witness = .ok (hasher ++ frame witness) := by
  rw [updateWitness, if_pos h, frame, List.append_assoc]

theorem updateWitnesses_of_lt :
    ∀ (ws : List Bytes) (hasher : Bytes), (∀ w ∈ ws, w.length < 2 ^ 64) →
      updateWitnesses ws hasher = .ok (hasher ++ ws.flatMap frame) := by
  intro ws
  induction ws with
  | nil => intro hasher _; rw [updateWitnesses, List.flatMap_nil, List.append_nil]
  | cons w ws ih =>
      intro hasher h
      rw [updateWitnesses, updateWitness_of_lt (h w (List.mem_cons_self ..)), ok_bind,
        ih _ (fun v hv => h v (List.mem_cons_of_mem _ hv)), List.flatMap_cons,
        List.append_assoc]

/-- Replacing the lock field by an empty vector never makes a witness longer than
    four more bytes. -/
theorem rebuild_length_le (args : WitnessArgs) :
    (rebuild args).length ≤ args.asBytes.length + 4 := by
  unfold rebuild WitnessArgs.asBytes
  rw [table_three_length, table_three_length]
  show 16 + ((fixvec []).length + ((optBytes args.inputType).length
    + (optBytes args.outputType).length)) ≤ _
  rw [fixvec_length, List.length_nil]
  omega

/-- **The host hashes the contract's stream**, whenever the lengths fit 64 bits. -/
theorem groupSighash_eq {ckbHash : Bytes → Byte32} {txHash : Byte32} {first : Bytes}
    {rest extra : List Bytes} {args : WitnessArgs}
    (hargs : WitnessArgs.fromSlice first = some args)
    (hmax : ∀ w ∈ rebuild args :: (rest ++ extra), w.length < 2 ^ 64) :
    groupSighash ckbHash txHash (first :: rest) extra
      = .ok (ckbHash (streamOf txHash (optBytes args.inputType) (optBytes args.outputType)
          rest extra)) := by
  unfold groupSighash
  rw [List.head?_cons, okOr_some, ok_bind, hargs, okOr_some, ok_bind,
    updateWitness_of_lt (hmax _ (List.mem_cons_self ..)), ok_bind, List.tail_cons,
    updateWitnesses_of_lt rest, ok_bind, updateWitnesses_of_lt extra, ok_bind]
  · show Outcome.ok (ckbHash _) = _
    congr 2
    unfold streamOf
    rw [List.flatMap_cons, List.flatMap_append]
    simp only [List.append_assoc]
    rfl
  · intro w hw
    exact hmax w (List.mem_cons_of_mem _ (List.mem_append_right _ hw))
  · intro w hw
    exact hmax w (List.mem_cons_of_mem _ (List.mem_append_left _ hw))

/-! ## Host and chain agree -/

/-- The group witnesses up to the first missing one. -/
def groupWitnesses (ckbHash : Bytes → Byte32) (env : Env) : List Bytes :=
  present ((env.group ckbHash).map (fun i => env.tx.witnesses[i]?))

/-- The first witness of the group, and the rest. -/
theorem groupWitnesses_eq_cons {ckbHash : Bytes → Byte32} {env : Env} {first : Bytes}
    {rest : List Bytes} (h : groupWitnesses ckbHash env = first :: rest) :
    env.witnessAt ckbHash 0 .groupInput = some first ∧ restWitnesses ckbHash env = rest := by
  unfold groupWitnesses at h
  unfold Env.witnessAt restWitnesses
  cases hgroup : env.group ckbHash with
  | nil =>
      rw [hgroup] at h
      cases h
  | cons i is =>
      rw [hgroup, List.map_cons] at h
      cases hw : env.tx.witnesses[i]? with
      | none =>
          rw [hw] at h
          cases h
      | some w =>
          rw [hw] at h
          obtain ⟨rfl, hrest⟩ := List.cons.inj h
          exact ⟨hw, hrest⟩

/-- **Host and chain compute the same digest.**  For a transaction whose group
    witnesses are `first :: rest` and whose witnesses past the inputs are `extra`,
    none longer than the contract's limit: the contract's canonical witness is the
    host's rebuild, both sighashes succeed with the same value, and so do the
    digests, for every operation; on any other byte the host refuses. -/
theorem host_digest_eq_chain (ckbHash : Bytes → Byte32) (env : Env) (first : Bytes)
    (rest extra : List Bytes) (args : WitnessArgs)
    (hgroup : groupWitnesses ckbHash env = first :: rest) (hextra : extraWitnesses env = extra)
    (hargs : WitnessArgs.fromSlice first = some args)
    (hmax : ∀ w ∈ first :: (rest ++ extra), w.length ≤ maxWitness) :
    canonicalWitness first = .ok (rebuild args)
    ∧ ∃ sighash, groupSighash ckbHash env.tx.hash (first :: rest) extra = .ok sighash
      ∧ canonicalGroupSighash ckbHash env = .ok sighash
      ∧ ∀ (operation : UInt8) (accountId : Byte32) (sequence : UInt64) (state : Bytes),
        authorizationDigest ckbHash operation accountId sequence state sighash
          = if IsOperation operation then
              .ok (CkbSighash.authorizationDigest ckbHash operation accountId sequence state
                sighash)
            else .err .invalidOperation := by
  obtain ⟨hfirst, hrest⟩ := groupWitnesses_eq_cons hgroup
  obtain ⟨hbytes, hlt⟩ := WitnessArgs.fromSlice_eq_some.mp hargs
  -- emptying the lock field adds at most its own header to the first witness
  have hframes : ∀ w ∈ rebuild args :: (rest ++ extra), w.length < 2 ^ 64 := by
    have hbound : maxWitness + 4 < 2 ^ 64 := by decide
    have hfirstLe := hmax first (List.mem_cons_self ..)
    have hrebuild := rebuild_length_le args
    rw [hbytes] at hfirstLe
    intro w hw
    rcases List.mem_cons.mp hw with rfl | hw
    · omega
    · have := hmax w (List.mem_cons_of_mem _ hw)
      omega
  refine ⟨canonicalWitness_eq_ok.mpr ⟨_, _, _, hbytes, hlt, rfl⟩, _,
    groupSighash_eq hargs hframes, ?_, ?_⟩
  · -- the chain streams the same parts, each within what one load can hold
    have hparts : StreamParts ckbHash env (optBytes args.lock) (optBytes args.inputType)
        (optBytes args.outputType) := by
      have hle := hmax first (List.mem_cons_self ..)
      rw [hbytes] at hfirst hle
      refine ⟨hfirst, hle, ?_, ?_⟩
      · rw [hrest]
        exact fun w hw => hmax w (List.mem_cons_of_mem _ (List.mem_append_left _ hw))
      · rw [hextra]
        exact fun w hw => hmax w (List.mem_cons_of_mem _ (List.mem_append_right _ hw))
    rw [canonicalGroupSighash, sighashStream_eq_ok.mpr ⟨_, _, _, hparts, rfl⟩, ok_bind, hrest,
      hextra]
    rfl
  · intro operation accountId sequence state
    unfold authorizationDigest
    -- both hash the same bytes; the host alone refuses an unknown operation
    by_cases hop : IsOperation operation
    · obtain ⟨capability, hcap⟩ := (capabilityForOperation_eq_ok_iff operation).mpr hop
      rw [if_pos hop, hcap, ok_bind]
      rfl
    · rw [if_neg hop, capabilityForOperation_of_not hop, err_bind]

/-- A witness with an absent input type and a present output type. -/
theorem signedEnv_host_eq_chain :
    canonicalWitness (table [fixvec [1], [], fixvec [5]])
        = .ok (rebuild { lock := some [1], inputType := none, outputType := some [5] })
      ∧ ∃ sighash, groupSighash signedHash (signedEnv [1]).tx.hash
          [table [fixvec [1], [], fixvec [5]]] [[9]] = .ok sighash
        ∧ canonicalGroupSighash signedHash (signedEnv [1]) = .ok sighash := by
  obtain ⟨hcanonical, sighash, hhost, hchain, -⟩ := host_digest_eq_chain signedHash
    (signedEnv [1]) (table [fixvec [1], [], fixvec [5]]) [] [[9]]
    { lock := some [1], inputType := none, outputType := some [5] } (by decide +kernel) rfl
    (by decide +kernel) (by decide +kernel)
  exact ⟨hcanonical, sighash, hhost, hchain⟩

end CkbHostDigest
