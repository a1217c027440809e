import Mathlib.Data.Set.Function
import CkbAccount.LoadProofs
import CkbAccount.RecordLoopProofs
import CkbAccount.WitnessTableProofs

/-! # The group sighash and the authorization digest

    `canonical_group_sighash` feeds a hasher with the transaction hash, the first
    group witness with an emptied lock, the other group witnesses up to the first
    missing one, and every witness past the inputs, each behind its 64-bit length.
    The hasher is its input stream here, so that "what was hashed" is a value:

    * `sighashStream_eq_ok` writes the stream out;
    * the frames carry no count and no separator, but they are prefix-free, and a
      missing group witness excludes extra ones, so the stream determines every
      part (`stream_eq_iff`);
    * `authorizationDigest` wraps the hash of the stream with the operation, the
      account, the sequence and the state. -/

namespace CkbSighash

open RustOutcome Outcome LittleEndian Molecule RecordLoop CkbProtocol CkbTransaction CkbLoad
open CkbWitnessTable

/-! ## The stream -/

/-- A witness as the hasher sees it: its length in 64 bits, then itself. -/
def frame (witness : Bytes) : Bytes := u64Le (UInt64.ofNat witness.length) ++ witness

/-- `hash_witness`: the hasher is the bytes it was given. -/
def hashWitness (hasher witness : Bytes) : Outcome ProtocolError Bytes :=
  if witness.length < 2 ^ 64 then .ok (hasher ++ frame witness) else .err .lengthOverflow

section Stream

variable (ckbHash : Bytes → Byte32) (env : Env)

/-- One pass of the loop of `input_count`. -/
def countInput (index : Nat) (_ : Nat) : Outcome ProtocolError (Flow Nat) :=
  match sysLoadInputSince env 8 index with
  | .ok _ => .ok (.next index)
  | .error .indexOutOfBound => .ok (.done index)
  | .error _ => .err .invalidWitness

/-- `input_count`. -/
def inputCount : Outcome ProtocolError Nat :=
  forFrom (countInput env) (env.tx.inputs.length + 1) 0 0

/-- One pass of the two witness loops of `canonical_group_sighash`: probe with one
    byte, load, hash. -/
def hashNext (source : Source) (index : Nat) (hasher : Bytes) :
    Outcome ProtocolError (Flow Bytes) :=
  match sysLoadWitness ckbHash env 1 index source with
  | .error .indexOutOfBound => .ok (.done hasher)
  | .ok _ | .error (.lengthNotEnough _) => do
      let witness ← loadWitness ckbHash env index source
      return .next (← hashWitness hasher witness)
  | .error _ => .err .invalidWitness

/-- The transaction hash, loaded into a 32-byte array. -/
def loadTxHash : Outcome ProtocolError Byte32 :=
  match sysLoadTxHash env 32 with
  | .ok hash => toByteArr 32 .invalidWitness hash
  | .error _ => .err .invalidWitness

/-- What `canonical_group_sighash` feeds its hasher. -/
def sighashStream : Outcome ProtocolError Bytes := do
  let first ← loadWitness ckbHash env 0 .groupInput
  let canonical ← canonicalWitness first
  let txHash ← loadTxHash env
  let hasher ← hashWitness txHash.val canonical
  let hasher ← forFrom (hashNext ckbHash env .groupInput) ((env.group ckbHash).length + 1) 1
    hasher
  let inputs ← inputCount env
  forFrom (hashNext ckbHash env .input) (env.tx.witnesses.length + 1) inputs hasher

/-- `canonical_group_sighash`. -/
def canonicalGroupSighash : Outcome ProtocolError Byte32 := do
  return ckbHash (← sighashStream ckbHash env)

end Stream

/-! ## The witnesses the loops visit -/

/-- The items of a list up to the first missing one. -/
def present {α : Type} : List (Option α) → List α
  | some x :: rest => x :: present rest
  | _ => []

/-- What is present stands at its own index. -/
theorem getElem?_of_present {α : Type} :
    ∀ (os : List (Option α)) (k : Nat) (x : α),
      (present os)[k]? = some x → os[k]? = some (some x) := by
  intro os
  induction os with
  | nil => intro k x h; cases h
  | cons o rest ih =>
      intro k x h
      cases o with
      | none => cases h
      | some y =>
          cases k with
          | zero => exact congrArg some h
          | succ k => exact ih k x h

/-- The list stops at its end or at a missing item. -/
theorem getElem?_present_length {α : Type} :
    ∀ os : List (Option α), os[(present os).length]?.join = none := by
  intro os
  induction os with
  | nil => rfl
  | cons o rest ih =>
      cases o with
      | none => rfl
      | some x => exact ih

theorem present_length_le {α : Type} (os : List (Option α)) :
    (present os).length ≤ os.length := by
  induction os with
  | nil => exact Nat.le_refl 0
  | cons o rest ih =>
      cases o with
      | none => exact Nat.zero_le _
      | some x => exact Nat.succ_le_succ ih

section Visited

variable (ckbHash : Bytes → Byte32) (env : Env)

/-- The group witnesses after the first, up to the first missing one. -/
def restWitnesses : List Bytes :=
  present (((env.group ckbHash).drop 1).map (fun i => env.tx.witnesses[i]?))

/-- The witnesses past the inputs. -/
def extraWitnesses : List Bytes := env.tx.witnesses.drop env.tx.inputs.length

/-- The input type and output type fields of the first group witness. -/
def firstFields : Outcome ProtocolError (Bytes × Bytes) := do
  let first ← loadWitness ckbHash env 0 .groupInput
  let (_, inputType, outputType) ← table3Fields first
  return (inputType, outputType)

end Visited

variable {ckbHash : Bytes → Byte32} {env : Env}

theorem loadTxHash_eq : loadTxHash env = .ok env.tx.hash := by
  rw [loadTxHash, sysLoadTxHash, store_of_le (Nat.le_of_eq env.tx.hash.property)]
  exact toByteArr_val _ _

theorem inputCount_eq : inputCount env = .ok env.tx.inputs.length := by
  unfold inputCount
  have hstep : ∀ (n : Nat) (fuel index s : Nat), n < fuel →
      index + n = env.tx.inputs.length →
      forFrom (countInput env) fuel index s = .ok env.tx.inputs.length := by
    -- by induction on the inputs left
    intro n
    induction n with
    | zero =>
        intro fuel index s hfuel hindex
        obtain ⟨fuel, rfl⟩ : ∃ m, fuel = m + 1 := ⟨fuel - 1, by omega⟩
        rw [forFrom, countInput, sysLoadInputSince, List.getElem?_eq_none (by omega)]
        show Outcome.ok index = _
        rw [← hindex, Nat.add_zero]
    | succ n ih =>
        intro fuel index s hfuel hindex
        obtain ⟨fuel, rfl⟩ : ∃ m, fuel = m + 1 := ⟨fuel - 1, by omega⟩
        rw [forFrom, countInput, sysLoadInputSince,
          List.getElem?_eq_getElem (show index < env.tx.inputs.length by omega)]
        simp only [store_of_le (Nat.le_of_eq (u64Le_length _)), ok_bind]
        exact ih fuel (index + 1) index (by omega) (by omega)
  exact hstep env.tx.inputs.length _ 0 0 (by omega) (by omega)

/-- A witness that is there is hashed, if it can be loaded. -/
theorem hashNext_of_some {source : Source} {index : Nat} {hasher witness : Bytes}
    (h : env.witnessAt ckbHash index source = some witness) :
    hashNext ckbHash env source index hasher
      = (if witness.length ≤ maxWitness then .ok (hasher ++ frame witness)
          else .err .invalidWitness) >>= fun hasher' => .ok (.next hasher') := by
  have hload := loadWitness_some h
  have hnext : hashNext ckbHash env source index hasher
      = (do
        let witness ← loadWitness ckbHash env index source
        return .next (← hashWitness hasher witness)) := by
    unfold hashNext sysLoadWitness
    simp only [h]
    by_cases hone : witness.length ≤ 1
    · simp only [store_of_le hone]
    · simp only [store_of_gt (Nat.lt_of_not_le hone)]
  rw [hnext, hload]
  by_cases hfit : witness.length ≤ maxWitness
  · have hlt : witness.length < 2 ^ 64 := by
      unfold maxWitness accountWitnessMaxLockLen at hfit
      omega
    simp only [if_pos hfit, ok_bind, hashWitness, if_pos hlt, pure_eq]
  · simp only [if_neg hfit, err_bind]

/-- The first index without a witness ends the loop. -/
theorem hashNext_of_none {source : Source} {index : Nat} {hasher : Bytes}
    (h : env.witnessAt ckbHash index source = none) :
    hashNext ckbHash env source index hasher = .ok (.done hasher) := by
  unfold hashNext sysLoadWitness
  simp only [h]

/-- A fold that hashes a list of witnesses succeeds when they all fit. -/
theorem foldIdx_hash :
    ∀ (ws : List Bytes) (i : Nat) (hasher out : Bytes),
      foldIdx (fun _ (w : Bytes) (h : Bytes) =>
        (if w.length ≤ maxWitness then .ok (h ++ frame w) else .err ProtocolError.invalidWitness))
        i ws hasher = .ok out
        ↔ (∀ w ∈ ws, w.length ≤ maxWitness) ∧ out = hasher ++ ws.flatMap frame := by
  intro ws
  induction ws with
  | nil =>
      intro i hasher out
      rw [foldIdx, Outcome.ok.injEq, List.flatMap_nil, List.append_nil]
      exact ⟨fun h => ⟨fun _ hw => absurd hw List.not_mem_nil, h.symm⟩, fun h => h.2.symm⟩
  | cons w ws ih =>
      intro i hasher out
      rw [foldIdx, bind_eq_ok]
      simp only [ite_eq_ok, ih, List.forall_mem_cons, List.flatMap_cons]
      constructor
      · rintro ⟨h, ⟨hw, rfl⟩, hws, rfl⟩
        exact ⟨⟨hw, hws⟩, List.append_assoc ..⟩
      · rintro ⟨⟨hw, hws⟩, rfl⟩
        exact ⟨hasher ++ frame w, ⟨hw, rfl⟩, hws, (List.append_assoc ..).symm⟩

/-- A witness loop over a source whose items from `index` on are `ws`. -/
theorem hashLoop_eq_ok {source : Source} {ws : List Bytes} {fuel index : Nat}
    {hasher out : Bytes} (hfuel : ws.length < fuel)
    (hitems : ∀ k w, ws[k]? = some w → env.witnessAt ckbHash (index + k) source = some w)
    (hend : env.witnessAt ckbHash (index + ws.length) source = none) :
    forFrom (hashNext ckbHash env source) fuel index hasher = .ok out
      ↔ (∀ w ∈ ws, w.length ≤ maxWitness) ∧ out = hasher ++ ws.flatMap frame := by
  rw [forFrom_eq_foldIdx (fun _ (w : Bytes) (h : Bytes) =>
      (if w.length ≤ maxWitness then .ok (h ++ frame w)
        else .err ProtocolError.invalidWitness)) ws fuel index hasher hfuel, foldIdx_hash]
  · intro k w h hw
    exact hashNext_of_some (hitems k w hw)
  · intro h
    exact hashNext_of_none hend

/-- **The group loop hashes the other witnesses of the group.** -/
theorem groupLoop_eq_ok {hasher out : Bytes} :
    forFrom (hashNext ckbHash env .groupInput) ((env.group ckbHash).length + 1) 1 hasher
        = .ok out
      ↔ (∀ w ∈ restWitnesses ckbHash env, w.length ≤ maxWitness)
        ∧ out = hasher ++ (restWitnesses ckbHash env).flatMap frame := by
  have hat : ∀ k, env.witnessAt ckbHash (1 + k) .groupInput
      = ((((env.group ckbHash).drop 1).map (fun i => env.tx.witnesses[i]?))[k]?).join := by
    intro k
    rw [List.getElem?_map, List.getElem?_drop]
    show (env.group ckbHash)[1 + k]?.bind (fun i => env.tx.witnesses[i]?) = _
    cases (env.group ckbHash)[1 + k]? <;> rfl
  refine hashLoop_eq_ok ?_ ?_ ?_
  · have hle := present_length_le
      (((env.group ckbHash).drop 1).map (fun i => env.tx.witnesses[i]?))
    rw [List.length_map, List.length_drop] at hle
    unfold restWitnesses
    omega
  · intro k w hw
    rw [hat, getElem?_of_present _ k w hw]
    rfl
  · rw [hat]
    exact getElem?_present_length _

/-- **The second loop hashes the witnesses behind the inputs.** -/
theorem extraLoop_eq_ok {hasher out : Bytes} :
    forFrom (hashNext ckbHash env .input) (env.tx.witnesses.length + 1) env.tx.inputs.length
        hasher = .ok out
      ↔ (∀ w ∈ extraWitnesses env, w.length ≤ maxWitness)
        ∧ out = hasher ++ (extraWitnesses env).flatMap frame := by
  refine hashLoop_eq_ok ?_ ?_ ?_
  · unfold extraWitnesses
    rw [List.length_drop]
    omega
  · intro k w hw
    unfold extraWitnesses at hw
    rw [List.getElem?_drop] at hw
    exact hw
  · unfold extraWitnesses
    show env.tx.witnesses[_]? = none
    rw [List.getElem?_eq_none]
    rw [List.length_drop]
    omega

/-- Everything the stream is made of. -/
structure StreamParts (ckbHash : Bytes → Byte32) (env : Env) (lock inputType outputType : Bytes) :
    Prop where
  first : env.witnessAt ckbHash 0 .groupInput = some (table [lock, inputType, outputType])
  first_le : (table [lock, inputType, outputType]).length ≤ maxWitness
  rest_le : ∀ w ∈ restWitnesses ckbHash env, w.length ≤ maxWitness
  extra_le : ∀ w ∈ extraWitnesses env, w.length ≤ maxWitness

/-- The bytes the hasher is given. -/
def streamOf (txHash : Byte32) (inputType outputType : Bytes) (rest extra : List Bytes) : Bytes :=
  txHash.val ++ (table [fixvec [], inputType, outputType] :: (rest ++ extra)).flatMap frame

/-- **The stream, written out**: it exists exactly when the first group witness is a
    three-field table and every witness in it fits its buffer. -/
theorem sighashStream_eq_ok {stream : Bytes} :
    sighashStream ckbHash env = .ok stream
      ↔ ∃ lock inputType outputType, StreamParts ckbHash env lock inputType outputType
        ∧ stream = streamOf env.tx.hash inputType outputType (restWitnesses ckbHash env)
            (extraWitnesses env) := by
  -- emptying the lock only shortens the first witness
  have hshort : ∀ a b c : Bytes, (table [a, b, c]).length ≤ maxWitness →
      (table [fixvec [], b, c]).length < 2 ^ 64 := by
    intro a b c h
    rw [table_three_length] at h ⊢
    rw [fixvec_length, List.length_nil]
    unfold maxWitness accountWitnessMaxLockLen at h
    omega
  have hout : ∀ (b c : Bytes), env.tx.hash.val ++ frame (table [fixvec [], b, c])
      ++ (restWitnesses ckbHash env).flatMap frame ++ (extraWitnesses env).flatMap frame
      = streamOf env.tx.hash b c (restWitnesses ckbHash env) (extraWitnesses env) := by
    intro b c
    rw [streamOf, List.flatMap_cons, List.flatMap_append]
    simp only [List.append_assoc]
  unfold sighashStream
  constructor
  · intro h
    -- first witness, its canonical form, the hash, then the two loops
    obtain ⟨first, hfirst, h⟩ := bind_eq_ok.mp h
    obtain ⟨canonical, hcanonical, h⟩ := bind_eq_ok.mp h
    rw [loadWitness_eq_ok] at hfirst
    obtain ⟨a, b, c, rfl, -, rfl⟩ := canonicalWitness_eq_ok.mp hcanonical
    rw [loadTxHash_eq, ok_bind, hashWitness, if_pos (hshort a b c hfirst.2), ok_bind] at h
    obtain ⟨hasher, hgroup, h⟩ := bind_eq_ok.mp h
    rw [inputCount_eq, ok_bind] at h
    obtain ⟨hrest, rfl⟩ := groupLoop_eq_ok.mp hgroup
    obtain ⟨hextra, rfl⟩ := extraLoop_eq_ok.mp h
    exact ⟨a, b, c, ⟨hfirst.1, hfirst.2, hrest, hextra⟩, hout b c⟩
  · rintro ⟨a, b, c, hparts, rfl⟩
    have hlt : (table [a, b, c]).length < 2 ^ 32 := by
      have := hparts.first_le
      unfold maxWitness accountWitnessMaxLockLen at this
      omega
    rw [loadWitness_eq_ok.mpr ⟨hparts.first, hparts.first_le⟩, ok_bind,
      canonicalWitness_eq_ok.mpr ⟨a, b, c, rfl, hlt, rfl⟩, ok_bind, loadTxHash_eq, ok_bind,
      hashWitness,
      if_pos (hshort a b c hparts.first_le), ok_bind,
      groupLoop_eq_ok.mpr ⟨hparts.rest_le, rfl⟩, ok_bind, inputCount_eq, ok_bind,
      extraLoop_eq_ok.mpr ⟨hparts.extra_le, rfl⟩, hout]

/-! ## The stream determines its parts -/

/-- Frames are prefix-free: the length comes first. -/
theorem frame_prefixFree : PrefixFree frame (fun w => w.length < 2 ^ 64) := by
  intro a b x y ha hb h
  unfold frame at h
  rw [List.append_assoc, List.append_assoc] at h
  obtain ⟨hlen, h⟩ := List.append_inj h (by rw [u64Le_length, u64Le_length])
  have hsize : a.length = b.length := by
    have := congrArg UInt64.toNat (u64Le_inj hlen)
    rwa [UInt64.toNat_ofNat_of_lt' ha, UInt64.toNat_ofNat_of_lt' hb] at this
  exact List.append_inj h hsize

theorem frame_ne_nil (w : Bytes) : frame w ≠ [] := by
  intro h
  have := congrArg List.length h
  rw [frame, List.length_append, u64Le_length, List.length_nil] at this
  omega

/-- A missing group witness leaves nothing past the inputs: positions of the group
    are positions of inputs. -/
theorem extraWitnesses_of_missing
    (h : (restWitnesses ckbHash env).length < ((env.group ckbHash).drop 1).length) :
    extraWitnesses env = [] := by
  have hjoin : ((((env.group ckbHash).drop 1).map (fun i => env.tx.witnesses[i]?))[
      (restWitnesses ckbHash env).length]?).join = none := getElem?_present_length _
  rw [List.getElem?_map, List.getElem?_eq_getElem h] at hjoin
  have hmissing : env.tx.witnesses[((env.group ckbHash).drop 1)[
      (restWitnesses ckbHash env).length]]? = none := hjoin
  have hlt := Env.lt_of_mem_group (List.mem_of_mem_drop (List.getElem_mem h))
  rw [List.getElem?_eq_none_iff] at hmissing
  unfold extraWitnesses
  exact List.drop_eq_nil_of_le (by omega)

theorem restWitnesses_length_le :
    (restWitnesses ckbHash env).length ≤ ((env.group ckbHash).drop 1).length := by
  have := present_length_le
    (((env.group ckbHash).drop 1).map (fun i => env.tx.witnesses[i]?))
  rwa [List.length_map] at this

/-- Two concatenations whose first halves have at most `n` items, and all `n` if
    anything follows, split in one way. -/
theorem append_split {α : Type} {n : Nat} {r₁ x₁ r₂ x₂ : List α} (h₁ : r₁.length ≤ n)
    (h₂ : r₂.length ≤ n) (hx₁ : r₁.length < n → x₁ = []) (hx₂ : r₂.length < n → x₂ = [])
    (h : r₁ ++ x₁ = r₂ ++ x₂) : r₁ = r₂ ∧ x₁ = x₂ := by
  have hlen := congrArg List.length h
  rw [List.length_append, List.length_append] at hlen
  rcases Nat.lt_trichotomy r₁.length r₂.length with hlt | heq | hgt
  · have hnil := hx₁ (by omega)
    rw [hnil, List.length_nil] at hlen
    omega
  · exact List.append_inj h heq
  · have hnil := hx₂ (by omega)
    rw [hnil, List.length_nil] at hlen
    omega

/-- The signed parts of two transactions agree. -/
structure SameSigned (ckbHash : Bytes → Byte32) (e₁ e₂ : Env) : Prop where
  txHash : e₁.tx.hash = e₂.tx.hash
  fields : firstFields ckbHash e₁ = firstFields ckbHash e₂
  rest : restWitnesses ckbHash e₁ = restWitnesses ckbHash e₂
  extra : extraWitnesses e₁ = extraWitnesses e₂

/-- The first witness gives the two fields that are signed. -/
theorem StreamParts.firstFields_eq {lock inputType outputType : Bytes}
    (h : StreamParts ckbHash env lock inputType outputType) :
    firstFields ckbHash env = .ok (inputType, outputType) := by
  have hle := h.first_le
  unfold maxWitness accountWitnessMaxLockLen at hle
  rw [firstFields, loadWitness_eq_ok.mpr ⟨h.first, h.first_le⟩, ok_bind,
    table3Fields_eq_ok.mpr ⟨rfl, by omega⟩, ok_bind]
  rfl

/-- Every framed witness is short enough for its length field. -/
theorem StreamParts.frames_lt {lock inputType outputType : Bytes}
    (h : StreamParts ckbHash env lock inputType outputType) :
    ∀ w ∈ table [fixvec [], inputType, outputType]
        :: (restWitnesses ckbHash env ++ extraWitnesses env), w.length < 2 ^ 64 := by
  have hmax : maxWitness < 2 ^ 63 := by decide
  have hfirst := h.first_le
  rw [table_three_length] at hfirst
  intro w hw
  rcases List.mem_cons.mp hw with rfl | hw
  · rw [table_three_length, fixvec_length, List.length_nil]
    omega
  · rcases List.mem_append.mp hw with hw | hw
    · have := h.rest_le w hw
      omega
    · have := h.extra_le w hw
      omega

/-- **The stream determines its parts**, for two groups at the same positions. -/
theorem stream_eq_iff {e₁ e₂ : Env} {s₁ s₂ : Bytes} (hgroup : e₁.group ckbHash = e₂.group ckbHash)
    (h₁ : sighashStream ckbHash e₁ = .ok s₁) (h₂ : sighashStream ckbHash e₂ = .ok s₂) :
    s₁ = s₂ ↔ SameSigned ckbHash e₁ e₂ := by
  obtain ⟨lock₁, in₁, out₁, hp₁, rfl⟩ := sighashStream_eq_ok.mp h₁
  obtain ⟨lock₂, in₂, out₂, hp₂, rfl⟩ := sighashStream_eq_ok.mp h₂
  constructor
  · intro h
    unfold streamOf at h
    obtain ⟨hhash, h⟩ := List.append_inj h
      (by rw [e₁.tx.hash.property, e₂.tx.hash.property])
    have hlist := frame_prefixFree.flatMap_inj frame_ne_nil hp₁.frames_lt hp₂.frames_lt h
    obtain ⟨htable, htail⟩ := List.cons.inj hlist
    have hsize := hp₁.first_le
    rw [table_three_length] at hsize
    unfold maxWitness accountWitnessMaxLockLen at hsize
    obtain ⟨-, hin, hout⟩ := table_three_inj
      (by rw [fixvec_length, List.length_nil]; omega) htable
    obtain ⟨hrest, hextra⟩ := append_split restWitnesses_length_le
      (by rw [hgroup]; exact restWitnesses_length_le) extraWitnesses_of_missing
      (by rw [hgroup]; exact extraWitnesses_of_missing) htail
    refine ⟨Subtype.ext hhash, ?_, hrest, hextra⟩
    rw [hp₁.firstFields_eq, hp₂.firstFields_eq, hin, hout]
  · rintro ⟨hhash, hfields, hrest, hextra⟩
    rw [hp₁.firstFields_eq, hp₂.firstFields_eq] at hfields
    cases hfields
    rw [hhash, hrest, hextra]

/-! ## The authorization digest -/

/-- The message of `authorization_digest`. -/
def digestMessage (operation : UInt8) (accountId : Byte32) (sequence : UInt64)
    (stateHash groupSighash : Byte32) : Bytes :=
  authDomain ++ [operation] ++ accountId.val ++ u64Le sequence ++ stateHash.val
    ++ groupSighash.val

/-- `authorization_digest`. -/
def authorizationDigest (ckbHash : Bytes → Byte32) (operation : UInt8) (accountId : Byte32)
    (sequence : UInt64) (state : Bytes) (groupSighash : Byte32) : Byte32 :=
  ckbHash (digestMessage operation accountId sequence (ckbHash state) groupSighash)

/-- The message has fixed-width fields, so it determines them. -/
theorem digestMessage_inj {op₁ op₂ : UInt8} {id₁ id₂ st₁ st₂ sig₁ sig₂ : Byte32}
    {seq₁ seq₂ : UInt64}
    (h : digestMessage op₁ id₁ seq₁ st₁ sig₁ = digestMessage op₂ id₂ seq₂ st₂ sig₂) :
    op₁ = op₂ ∧ id₁ = id₂ ∧ seq₁ = seq₂ ∧ st₁ = st₂ ∧ sig₁ = sig₂ := by
  unfold digestMessage at h
  simp only [List.append_assoc, List.singleton_append] at h
  obtain ⟨-, h⟩ := List.append_inj h rfl
  obtain ⟨hop, h⟩ := List.cons.inj h
  obtain ⟨hid, h⟩ := List.append_inj h (by rw [id₁.property, id₂.property])
  obtain ⟨hseq, h⟩ := List.append_inj h (by rw [u64Le_length, u64Le_length])
  obtain ⟨hst, hsig⟩ := List.append_inj h (by rw [st₁.property, st₂.property])
  exact ⟨hop, Subtype.ext hid, u64Le_inj hseq, Subtype.ext hst, Subtype.ext hsig⟩

/-- The strings one computation of the digest hashes, given its sighash stream. -/
def hashedBy (ckbHash : Bytes → Byte32) (operation : UInt8) (accountId : Byte32)
    (sequence : UInt64) (state stream : Bytes) : Set Bytes :=
  {digestMessage operation accountId sequence (ckbHash state) (ckbHash stream), state, stream}

/-- **What the authorization digest covers.**  For two groups at the same positions
    the streams are equal exactly when the transaction hashes, the input type and
    output type fields of the first witness, the other group witnesses and the extra
    witnesses are; the lock field of the first witness is not among them.  Where the
    hash does not collide on the strings hashed, equal digests come from equal
    operations, accounts, sequences, states and signed parts. -/
theorem authorizationDigest_coverage (ckbHash : Bytes → Byte32) (e₁ e₂ : Env) (s₁ s₂ : Bytes)
    (hgroup : e₁.group ckbHash = e₂.group ckbHash)
    (h₁ : sighashStream ckbHash e₁ = .ok s₁) (h₂ : sighashStream ckbHash e₂ = .ok s₂) :
    (s₁ = s₂ ↔ SameSigned ckbHash e₁ e₂)
    ∧ (∀ lock₁ lock₂ inputType outputType,
        e₁.witnessAt ckbHash 0 .groupInput = some (table [lock₁, inputType, outputType]) →
        e₂.witnessAt ckbHash 0 .groupInput = some (table [lock₂, inputType, outputType]) →
        e₁.tx.hash = e₂.tx.hash → restWitnesses ckbHash e₁ = restWitnesses ckbHash e₂ →
        extraWitnesses e₁ = extraWitnesses e₂ → s₁ = s₂)
    ∧ (∀ (op₁ op₂ : UInt8) (id₁ id₂ : Byte32) (seq₁ seq₂ : UInt64) (state₁ state₂ : Bytes),
        Set.InjOn ckbHash (hashedBy ckbHash op₁ id₁ seq₁ state₁ s₁
          ∪ hashedBy ckbHash op₂ id₂ seq₂ state₂ s₂) →
        authorizationDigest ckbHash op₁ id₁ seq₁ state₁ (ckbHash s₁)
          = authorizationDigest ckbHash op₂ id₂ seq₂ state₂ (ckbHash s₂) →
        op₁ = op₂ ∧ id₁ = id₂ ∧ seq₁ = seq₂ ∧ state₁ = state₂ ∧ SameSigned ckbHash e₁ e₂) := by
  have hstream := stream_eq_iff hgroup h₁ h₂
  refine ⟨hstream, ?_, ?_⟩
  · intro lock₁ lock₂ inputType outputType hw₁ hw₂ hhash hrest hextra
    obtain ⟨a₁, in₁, out₁, hp₁, rfl⟩ := sighashStream_eq_ok.mp h₁
    obtain ⟨a₂, in₂, out₂, hp₂, rfl⟩ := sighashStream_eq_ok.mp h₂
    have hsize₁ := hp₁.first_le
    have hsize₂ := hp₂.first_le
    rw [table_three_length] at hsize₁ hsize₂
    unfold maxWitness accountWitnessMaxLockLen at hsize₁ hsize₂
    obtain ⟨-, rfl, rfl⟩ := table_three_inj (by omega)
      (Option.some.inj (hp₁.first.symm.trans hw₁))
    obtain ⟨-, rfl, rfl⟩ := table_three_inj (by omega)
      (Option.some.inj (hp₂.first.symm.trans hw₂))
    rw [hhash, hrest, hextra]
  · intro op₁ op₂ id₁ id₂ seq₁ seq₂ state₁ state₂ hinj hdigest
    unfold authorizationDigest at hdigest
    -- equal digests mean equal messages, as the hash is injective on what it saw
    have hmessage := hinj (Or.inl (Or.inl rfl)) (Or.inr (Or.inl rfl)) hdigest
    obtain ⟨hop, hid, hseq, hstate, hsighash⟩ := digestMessage_inj hmessage
    refine ⟨hop, hid, hseq, ?_, hstream.mp ?_⟩
    · exact hinj (Or.inl (Or.inr (Or.inl rfl))) (Or.inr (Or.inr (Or.inl rfl))) hstate
    · exact hinj (Or.inl (Or.inr (Or.inr rfl))) (Or.inr (Or.inr (Or.inr rfl))) hsighash

/-- A lock without args, and a transaction that spends one cell of it with the given
    bytes in the lock field of its witness; the output type is present, and one
    witness follows the inputs. -/
def plainLock : Script where
  codeHash := filled32 0x11
  hashType := 4
  args := []

/-- A spend whose witness has this lock field. -/
def signedEnv (lock : Bytes) : Env where
  script := plainLock
  tx := {
    hash := filled32 0x22
    inputs := [{ cell := { lock := plainLock, typeScript := none, data := [] }, since := 0 }]
    outputs := []
    cellDeps := []
    witnesses := [table [fixvec lock, [], fixvec [5]], [9]] }
  vm := {
    pipe := .error .maxFdsCreated
    spawn := fun _ => .error .maxVmsSpawned
    close := fun _ => .error .invalidFd
    accepts := fun _ _ _ => .error .otherEndClosed
    exit := fun _ _ => .error .waitFailure }

/-- What is hashed of it. -/
def signedStream : Bytes := streamOf (filled32 0x22) [] (fixvec [5]) [] [[9]]

/-- The hash of that. -/
def signedSighash : Byte32 :=
  byte32 0xbdee2d30fb37e3f5e2126486ec491a7ce0f36bb79f628b7a511987a9b806d45d

/-- The hash of the state. -/
def signedStateHash : Byte32 :=
  byte32 0xd83bc404a35ee0c4c2055d5ac13a5c323aae494a876ebc31ad7592dad29e85bd

/-- The CKB hash on what a spend of account `7..7` at sequence 0 and state `2a` hashes. -/
def signedHash : Bytes → Byte32 :=
  tabulated [
    (plainLock.asBytes,
      byte32 0xa21e94b746d38061564787cc8cfd6d960b8b9a3d2071912365e70630c0c2fcec),
    (signedStream, signedSighash),
    ([0x2a], signedStateHash),
    (digestMessage opSpend (filled32 7) 0 signedStateHash signedSighash,
      byte32 0xabdc09995996cce1e9f70e8e097582e26278efbb31c438049c372e68a23a4fda)]

theorem signedHash_injOn :
    Set.InjOn signedHash (hashedBy signedHash opSpend (filled32 7) 0 [0x2a]
        signedStream
      ∪ hashedBy signedHash opSpend (filled32 7) 0 [0x2a] signedStream) := by
  rw [Set.union_self]
  rintro a (rfl | rfl | rfl) b (rfl | rfl | rfl) h
  all_goals first
    | rfl
    | exact absurd h (by decide +kernel)

/-- Two transactions that differ in the lock field alone have one stream and one
    digest. -/
theorem signedEnv_coverage :
    signedEnv [1] ≠ signedEnv [2]
      ∧ sighashStream signedHash (signedEnv [1]) = .ok signedStream
      ∧ sighashStream signedHash (signedEnv [2]) = .ok signedStream
      ∧ SameSigned signedHash (signedEnv [1]) (signedEnv [2]) := by
  have h₁ : sighashStream signedHash (signedEnv [1]) = .ok signedStream := by decide +kernel
  have h₂ : sighashStream signedHash (signedEnv [2]) = .ok signedStream := by decide +kernel
  have hgroup : (signedEnv [1]).group signedHash = (signedEnv [2]).group signedHash := by
    decide +kernel
  obtain ⟨-, -, hdigest⟩ := authorizationDigest_coverage signedHash (signedEnv [1]) (signedEnv [2])
    signedStream signedStream hgroup h₁ h₂
  refine ⟨?_, h₁, h₂, (hdigest opSpend opSpend _ _ 0 0 [0x2a] [0x2a] signedHash_injOn
    rfl).2.2.2.2⟩
  intro h
  exact absurd (congrArg (fun e => e.tx.witnesses) h) (by decide)

end CkbSighash
