import CkbAccount.TransactionProofs

/-! # Loading transaction data

    The loaders at the top of `contracts/account-lock/src/main.rs`.  Each tries a
    small buffer first and retries with the reported length, up to a cap; the
    lemmas say that this reads the item when it is no longer than the cap and fails
    otherwise, so nothing later needs to know about buffers.

    `matching_type_indices` walks a source until `IndexOutOfBound`; it returns
    exactly the positions of the cells with the given type hash. -/

namespace CkbLoad

open RustOutcome Outcome Molecule CkbProtocol CkbTransaction

/-- The buffer for the data of a cell. -/
def maxCellData : Nat := accountStateMaxLen
/-- The buffer for a witness. -/
def maxWitness : Nat := accountWitnessMaxLockLen + 1024
/-- The buffer for a type script. -/
def maxTypeScript : Nat := 512
/-- The buffer for the running script. -/
def maxScript : Nat := 512

/-! ## Bounded loads -/

/-- `load_bounded`: `loader` is given the size of its buffer. -/
def loadBounded (cap : Nat) (loader : Nat → Except SysError Bytes) :
    Outcome ProtocolError Bytes :=
  match loader 256 with
  | .ok initial => .ok initial
  | .error (.lengthNotEnough actual) =>
      if actual ≤ cap then
        match loader actual with
        | .ok output => if output.length ≠ actual then .err .invalidState else .ok output
        | .error _ => .err .invalidState
      else .err .invalidState
  | .error _ => .err .invalidState

/-- Loading an item that is there: it must fit the cap. -/
theorem loadBounded_store (cap : Nat) (hcap : 256 ≤ cap) (data : Bytes) :
    loadBounded cap (fun buffer => store buffer data)
      = if data.length ≤ cap then .ok data else .err .invalidState := by
  unfold loadBounded
  by_cases hsmall : data.length ≤ 256
  · simp only [store_of_le hsmall, if_pos (show data.length ≤ cap by omega)]
  · simp only [store_of_gt (show 256 < data.length by omega)]
    by_cases hfit : data.length ≤ cap
    · simp only [if_pos hfit, store_of_le (Nat.le_refl data.length), ne_eq, not_true_eq_false,
        if_false]
    · simp only [if_neg hfit]

/-- Loading an item that is not there. -/
theorem loadBounded_error {cap : Nat} {e : SysError} (he : ∀ n, e ≠ .lengthNotEnough n) :
    loadBounded cap (fun _ => .error e) = .err .invalidState := by
  unfold loadBounded
  cases e with
  | lengthNotEnough n => exact absurd rfl (he n)
  | _ => rfl

section Loaders

variable (ckbHash : Bytes → Byte32) (env : Env)

/-- `load_cell_data`. -/
def loadCellData (index : Nat) (source : Source) : Outcome ProtocolError Bytes :=
  loadBounded maxCellData (fun buffer => sysLoadCellData ckbHash env buffer index source)

/-- `load_witness`. -/
def loadWitness (index : Nat) (source : Source) : Outcome ProtocolError Bytes :=
  (loadBounded maxWitness (fun buffer => sysLoadWitness ckbHash env buffer index source)).mapErr
    (fun _ => ProtocolError.invalidWitness)

/-- `load_current_script`. -/
def loadCurrentScript : Outcome ProtocolError Bytes :=
  (loadBounded maxScript (fun buffer => sysLoadScript env buffer)).mapErr
    (fun _ => ProtocolError.invalidArgs)

/-- `load_type_script`. -/
def loadTypeScript (index : Nat) (source : Source) :
    Outcome ProtocolError (Option Bytes) :=
  match loadBounded maxTypeScript
      (fun buffer => sysLoadCellByField ckbHash env buffer index source .type) with
  | .ok script => .ok (some script)
  | .abort => .abort
  | .err _ =>
      match sysLoadCellByField ckbHash env 1 index source .type with
      | .error .itemMissing => .ok none
      | _ => .err .invalidState

/-- `cell_type_hash`: a 32-byte buffer. -/
def cellTypeHash (index : Nat) (source : Source) : Except SysError (Option Byte32) :=
  match sysLoadCellByField ckbHash env 32 index source .typeHash with
  | .ok hash => if h : hash.length = 32 then .ok (some ⟨hash, h⟩) else .error .encoding
  | .error .itemMissing => .ok none
  | .error e => .error e

/-- One pass of the loop of `matching_type_indices`. -/
def matchIndex (source : Source) (accountId : Byte32) (index : Nat) (found : List Nat) :
    Outcome ProtocolError (Flow (List Nat)) :=
  match cellTypeHash ckbHash env index source with
  | .ok (some hash) => .ok (.next (if hash = accountId then found ++ [index] else found))
  | .ok none => .ok (.next found)
  | .error .indexOutOfBound => .ok (.done found)
  | .error _ => .err .invalidState

/-- `matching_type_indices`.  The source is finite, so the loop breaks at the latest
    one past its end. -/
def matchingTypeIndices (source : Source) (accountId : Byte32) :
    Outcome ProtocolError (List Nat) :=
  forFrom (matchIndex ckbHash env source accountId) ((env.cells ckbHash source).length + 1) 0 []

end Loaders

/-! ## What the loaders return -/

variable {ckbHash : Bytes → Byte32} {env : Env}

/-- **The data of a cell that fits the buffer.** -/
theorem loadCellData_eq_ok {index : Nat} {source : Source} {data : Bytes} :
    loadCellData ckbHash env index source = .ok data
      ↔ ∃ cell, (env.cells ckbHash source)[index]? = some cell ∧ cell.data = data
        ∧ data.length ≤ maxCellData := by
  unfold loadCellData sysLoadCellData
  cases hcell : (env.cells ckbHash source)[index]? with
  | none =>
      simp only [loadBounded_error (e := .indexOutOfBound) (fun n hn => nomatch hn)]
      constructor
      · intro h
        cases h
      · rintro ⟨cell, h, -⟩
        cases h
  | some cell =>
      simp only [loadBounded_store maxCellData (by decide), ite_eq_ok]
      constructor
      · rintro ⟨hfit, rfl⟩
        exact ⟨cell, rfl, rfl, hfit⟩
      · rintro ⟨cell', h, rfl, hfit⟩
        cases h
        exact ⟨hfit, rfl⟩

/-- A witness that is there loads when it fits. -/
theorem loadWitness_some {index : Nat} {source : Source} {witness : Bytes}
    (h : env.witnessAt ckbHash index source = some witness) :
    loadWitness ckbHash env index source
      = if witness.length ≤ maxWitness then .ok witness else .err .invalidWitness := by
  unfold loadWitness sysLoadWitness
  simp only [h, loadBounded_store maxWitness (by decide)]
  split
  · rfl
  · rfl

/-- **A witness that fits the buffer.** -/
theorem loadWitness_eq_ok {index : Nat} {source : Source} {witness : Bytes} :
    loadWitness ckbHash env index source = .ok witness
      ↔ env.witnessAt ckbHash index source = some witness ∧ witness.length ≤ maxWitness := by
  cases hw : env.witnessAt ckbHash index source with
  | none =>
      unfold loadWitness sysLoadWitness
      simp only [hw, loadBounded_error (e := .indexOutOfBound) (fun n hn => nomatch hn),
        mapErr_err]
      constructor
      · intro h
        cases h
      · rintro ⟨h, -⟩
        cases h
  | some w =>
      rw [loadWitness_some hw, ite_eq_ok]
      constructor
      · rintro ⟨hfit, rfl⟩
        exact ⟨rfl, hfit⟩
      · rintro ⟨h, hfit⟩
        cases h
        exact ⟨hfit, rfl⟩

/-- The running script, if it fits. -/
theorem loadCurrentScript_eq_ok {script : Bytes} :
    loadCurrentScript env = .ok script
      ↔ env.script.asBytes = script ∧ script.length ≤ maxScript := by
  unfold loadCurrentScript sysLoadScript
  rw [mapErr_eq_ok, loadBounded_store maxScript (by decide), ite_eq_ok]
  constructor
  · rintro ⟨hfit, rfl⟩
    exact ⟨rfl, hfit⟩
  · rintro ⟨rfl, hfit⟩
    exact ⟨hfit, rfl⟩

/-- **The type script of a cell, if it has one that fits.** -/
theorem loadTypeScript_eq_some {index : Nat} {source : Source} {script : Bytes} :
    loadTypeScript ckbHash env index source = .ok (some script)
      ↔ ∃ cell s, (env.cells ckbHash source)[index]? = some cell ∧ cell.typeScript = some s
        ∧ s.asBytes = script ∧ script.length ≤ maxTypeScript := by
  unfold loadTypeScript sysLoadCellByField
  cases hcell : (env.cells ckbHash source)[index]? with
  | none =>
      -- past the last cell the syscall fails, which is never a script
      simp only [loadBounded_error (e := .indexOutOfBound) (fun n hn => nomatch hn)]
      constructor
      · intro h
        cases h
      · rintro ⟨cell, s, h, -⟩
        cases h
  | some cell =>
      cases htype : cell.typeScript with
      | none =>
          -- a cell without a type script answers that the field is missing
          simp only [htype, loadBounded_error (e := .itemMissing) (fun n hn => nomatch hn)]
          constructor
          · intro h
            cases h
          · rintro ⟨cell', s, h, hs, -⟩
            cases h
            rw [htype] at hs
            cases hs
      | some s =>
          simp only [htype, loadBounded_store maxTypeScript (by decide)]
          constructor
          · intro h
            split at h
            · rename_i hload
              cases h
              obtain ⟨hfit, rfl⟩ := ite_eq_ok.mp hload
              exact ⟨cell, s, rfl, htype, rfl, hfit⟩
            · cases h
            · split at h
              · cases h
              · cases h
          · rintro ⟨cell', s', h, hs, rfl, hfit⟩
            cases h
            rw [htype] at hs
            cases hs
            rw [if_pos hfit]

/-- What `cell_type_hash` answers at an index of the source. -/
theorem cellTypeHash_of_some {index : Nat} {source : Source} {cell : Cell}
    (h : (env.cells ckbHash source)[index]? = some cell) :
    cellTypeHash ckbHash env index source = .ok (cell.typeHash ckbHash) := by
  unfold cellTypeHash sysLoadCellByField
  simp only [h]
  cases htype : cell.typeHash ckbHash with
  | none => rfl
  | some hash =>
      simp only [store_of_le (Nat.le_of_eq hash.property), hash.property, dif_pos]

theorem cellTypeHash_of_none {index : Nat} {source : Source}
    (h : (env.cells ckbHash source)[index]? = none) :
    cellTypeHash ckbHash env index source = .error .indexOutOfBound := by
  unfold cellTypeHash sysLoadCellByField
  simp only [h]

/-- **`matching_type_indices` is exact**: the positions of the cells with the type
    hash, in order, and never an error. -/
theorem matchingTypeIndices_eq (source : Source) (accountId : Byte32) :
    matchingTypeIndices ckbHash env source accountId
      = .ok ((env.cells ckbHash source).findIdxs
          (fun cell => cell.typeHash ckbHash = some accountId)) := by
  unfold matchingTypeIndices
  rw [forFrom_eq_foldIdx (fun i (cell : Cell) found =>
      .ok (if cell.typeHash ckbHash = some accountId then found ++ [i] else found))
      (env.cells ckbHash source) _ 0 [] (Nat.lt_succ_self _),
    foldIdx_push (p := fun cell => cell.typeHash ckbHash = some accountId)]
  · rw [List.nil_append]
  · intro i cell found
    simp only [decide_eq_true_eq]
  · intro k cell found hcell
    rw [Nat.zero_add, ok_bind, matchIndex, cellTypeHash_of_some hcell]
    cases htype : cell.typeHash ckbHash with
    | none => rfl
    | some hash => simp only [Option.some.injEq]
  · intro found
    rw [Nat.zero_add, matchIndex, cellTypeHash_of_none (List.getElem?_eq_none (Nat.le_refl _))]

end CkbLoad
