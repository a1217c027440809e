import CkbAccount.MoleculeProofs
import CkbAccount.ProtocolProofs

/-! # What a lock script sees of a transaction

    A resolved CKB transaction and the system calls AccountLock makes on it.  A call
    copies into a buffer: the whole item when it fits, `LengthNotEnough` with the
    item's length when it does not, `IndexOutOfBound` past the end of a list and
    `ItemMissing` for an absent type script.

    The chain's hash (Blake2b-256 with the CKB personalisation) is a parameter
    `ckbHash` throughout. -/

namespace CkbTransaction

open RustOutcome Outcome LittleEndian Molecule CkbProtocol

/-- A hash function known on finitely many strings. -/
def tabulated (rows : List (Bytes × Byte32)) (data : Bytes) : Byte32 :=
  ((rows.find? (fun row => row.1 = data)).map Prod.snd).getD (byte32 0)

/-! ## Cells and transactions -/

/-- A script, as a cell names it. -/
structure Script where
  codeHash : Byte32
  hashType : UInt8
  args : Bytes
  deriving DecidableEq, Repr

/-- `packed::Script`, serialized. -/
def Script.asBytes (s : Script) : Bytes :=
  table [s.codeHash.val, [s.hashType], fixvec s.args]

/-- A cell, as far as a script can read it here. -/
structure Cell where
  lock : Script
  typeScript : Option Script
  data : Bytes
  deriving DecidableEq, Repr

/-- An input with the cell it consumes. -/
structure Input where
  cell : Cell
  since : UInt64
  deriving DecidableEq, Repr

/-- A transaction with its inputs and cell deps resolved. -/
structure Transaction where
  hash : Byte32
  inputs : List Input
  outputs : List Cell
  cellDeps : List Cell
  witnesses : List Bytes
  deriving DecidableEq, Repr

/-- `CellOutput::calc_data_hash`: empty data hashes to zeros. -/
def Cell.dataHash (ckbHash : Bytes → Byte32) (cell : Cell) : Byte32 :=
  if cell.data = [] then filled32 0 else ckbHash cell.data

/-- The hash of the type script, if there is one. -/
def Cell.typeHash (ckbHash : Bytes → Byte32) (cell : Cell) : Option Byte32 :=
  cell.typeScript.map (fun s => ckbHash s.asBytes)

/-- The hash of the lock script. -/
def Cell.lockHash (ckbHash : Bytes → Byte32) (cell : Cell) : Byte32 :=
  ckbHash cell.lock.asBytes

/-! ## The running script -/

/-- The errors of a syscall. -/
inductive SysError where
  | indexOutOfBound
  | itemMissing
  | lengthNotEnough (actual : Nat)
  | encoding
  | waitFailure
  | invalidFd
  | otherEndClosed
  | maxVmsSpawned
  | maxFdsCreated
  | unknown (code : UInt64)
  deriving DecidableEq, Repr

/-- The virtual machine's answers to the process calls.  A child is started from a
    cell dep and reads one pipe: `accepts dep sent chunk` is how much of `chunk` the
    pipe takes after `sent` went through, `exit dep sent` how the child ends once
    the pipe is closed. -/
structure Vm where
  pipe : Except SysError (UInt64 × UInt64)
  spawn : Nat → Except SysError UInt64
  close : UInt64 → Except SysError Unit
  accepts : Nat → Bytes → Bytes → Except SysError Nat
  exit : Nat → Bytes → Except SysError Int8

/-- Everything a run of a lock script depends on. -/
structure Env where
  script : Script
  tx : Transaction
  vm : Vm

/-- Where a syscall looks. -/
inductive Source where
  | input
  | output
  | cellDep
  | groupInput
  deriving DecidableEq, Repr

/-- The field of a cell that a syscall loads. -/
inductive CellField where
  | type
  | typeHash
  | dataHash
  deriving DecidableEq, Repr

section Syscalls

variable (ckbHash : Bytes → Byte32) (env : Env)

/-- The script group: the positions of the inputs whose lock hash is that of the
    running script. -/
def Env.group : List Nat :=
  env.tx.inputs.findIdxs (fun i => i.cell.lockHash ckbHash = ckbHash env.script.asBytes)

/-- The cells of a source, in index order. -/
def Env.cells : Source → List Cell
  | .input => env.tx.inputs.map Input.cell
  | .output => env.tx.outputs
  | .cellDep => env.tx.cellDeps
  | .groupInput => (env.group ckbHash).filterMap (fun i => env.tx.inputs[i]?.map Input.cell)

/-- The witness at an index of a source. -/
def Env.witnessAt (index : Nat) : Source → Option Bytes
  | .input => env.tx.witnesses[index]?
  | .output => env.tx.witnesses[index]?
  | .cellDep => none
  | .groupInput => (env.group ckbHash)[index]?.bind (fun i => env.tx.witnesses[i]?)

/-- Copy an item into a buffer of the given size. -/
def store (buffer : Nat) (data : Bytes) : Except SysError Bytes :=
  if data.length ≤ buffer then .ok data else .error (.lengthNotEnough data.length)

/-- `load_script`. -/
def sysLoadScript (buffer : Nat) : Except SysError Bytes := store buffer env.script.asBytes

/-- `load_tx_hash`. -/
def sysLoadTxHash (buffer : Nat) : Except SysError Bytes := store buffer env.tx.hash.val

/-- `load_witness`. -/
def sysLoadWitness (buffer index : Nat) (source : Source) : Except SysError Bytes :=
  match env.witnessAt ckbHash index source with
  | some witness => store buffer witness
  | none => .error .indexOutOfBound

/-- `load_cell_data`. -/
def sysLoadCellData (buffer index : Nat) (source : Source) : Except SysError Bytes :=
  match (env.cells ckbHash source)[index]? with
  | some cell => store buffer cell.data
  | none => .error .indexOutOfBound

/-- `load_cell_by_field`. -/
def sysLoadCellByField (buffer index : Nat) (source : Source) (field : CellField) :
    Except SysError Bytes :=
  match (env.cells ckbHash source)[index]? with
  | none => .error .indexOutOfBound
  | some cell =>
      match field with
      | .type =>
          match cell.typeScript with
          | some s => store buffer s.asBytes
          | none => .error .itemMissing
      | .typeHash =>
          match cell.typeHash ckbHash with
          | some hash => store buffer hash.val
          | none => .error .itemMissing
      | .dataHash => store buffer (cell.dataHash ckbHash).val

/-- `load_input_by_field` with `InputField::Since` and `Source::Input`. -/
def sysLoadInputSince (buffer index : Nat) : Except SysError Bytes :=
  match env.tx.inputs[index]? with
  | some i => store buffer (u64Le i.since)
  | none => .error .indexOutOfBound

end Syscalls

theorem store_of_le {buffer : Nat} {data : Bytes} (h : data.length ≤ buffer) :
    store buffer data = .ok data := if_pos h

theorem store_of_gt {buffer : Nat} {data : Bytes} (h : buffer < data.length) :
    store buffer data = .error (.lengthNotEnough data.length) :=
  if_neg (Nat.not_le_of_lt h)

/-- Positions of the group are positions of inputs. -/
theorem Env.lt_of_mem_group {ckbHash : Bytes → Byte32} {env : Env} {i : Nat}
    (h : i ∈ env.group ckbHash) : i < env.tx.inputs.length :=
  (List.mem_findIdxs_iff_exists_getElem_pos.mp h).1

end CkbTransaction
