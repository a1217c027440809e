import CkbAccount.MoleculeProofs
import CkbAccount.ProtocolProofs

/-! # Hand-written Molecule slicing

    AccountLock does not link the Molecule library: `table3_fields`,
    `molecule_bytes`, `witness_lock`, `canonical_witness` and `script_args` of
    `contracts/account-lock/src/main.rs` slice the offsets themselves.  The lemmas
    say that they accept exactly the canonical encodings:

    * `table3Fields_eq_ok`: exactly the three-field tables;
    * `moleculeBytes_eq_ok`: exactly the byte vectors;
    * `canonicalWitness_eq_ok`: the output is the table with an empty lock. -/

namespace CkbWitnessTable

open RustOutcome Outcome LittleEndian Molecule CkbProtocol

/-- `le_u32` of `main.rs`, as a `usize`. -/
def leUsize (b : Bytes) : Outcome ProtocolError Nat := do
  let value ← toByteArr 4 .invalidWitness b
  return (u32FromLe value.val).toNat

theorem leUsize_of_length {b : Bytes} (h : b.length = 4) : leUsize b = .ok (leValue b) := by
  rw [leUsize, toByteArr, dif_pos h, ok_bind]
  show Outcome.ok (u32FromLe b).toNat = .ok (leValue b)
  rw [u32FromLe_toNat h]

/-- `table3_fields`. -/
def table3Fields (data : Bytes) : Outcome ProtocolError (Bytes × Bytes × Bytes) := do
  rejectIf (data.length < 16) .invalidWitness
  rejectIf ((← leUsize (← slice data 0 4)) ≠ data.length) .invalidWitness
  let first ← leUsize (← slice data 4 8)
  let second ← leUsize (← slice data 8 12)
  let third ← leUsize (← slice data 12 16)
  rejectIf (first ≠ 16 ∨ first > second ∨ second > third ∨ third > data.length) .invalidWitness
  return (← slice data first second, ← slice data second third,
    ← slice data third data.length)

/-- `molecule_bytes`. -/
def moleculeBytes (field : Bytes) : Outcome ProtocolError Bytes := do
  rejectIf (field.length < 4) .invalidWitness
  let length ← leUsize (← slice field 0 4)
  rejectIf (length ≠ field.length - 4) .invalidWitness
  slice field 4 field.length

/-- `witness_lock`. -/
def witnessLock (witness : Bytes) : Outcome ProtocolError Bytes := do
  let (lock, _, _) ← table3Fields witness
  rejectIf (lock.isEmpty) .invalidWitness
  moleculeBytes lock

/-- `canonical_witness`. -/
def canonicalWitness (witness : Bytes) : Outcome ProtocolError Bytes := do
  let (_, inputType, outputType) ← table3Fields witness
  let total ← okOr .lengthOverflow
    ((checkedAdd 20 inputType.length).bind (fun value => checkedAdd value outputType.length))
  let second := 20
  let third ← okOr .lengthOverflow (checkedAdd second inputType.length)
  return u32Le (UInt32.ofNat total) ++ u32Le 16 ++ u32Le (UInt32.ofNat second)
    ++ u32Le (UInt32.ofNat third) ++ u32Le 0 ++ inputType ++ outputType

/-- `script_args`. -/
def scriptArgs (script : Bytes) : Outcome ProtocolError Bytes := do
  let (_, _, args) ← (table3Fields script).mapErr (fun _ => ProtocolError.invalidArgs)
  (moleculeBytes args).mapErr (fun _ => ProtocolError.invalidArgs)

/-! ## Tables -/

/-- The four header words of a string, and what `table3_fields` makes of them. -/
theorem table3Fields_cut {total first second third : Bytes} (htotal : total.length = 4)
    (hfirst : first.length = 4) (hsecond : second.length = 4) (hthird : third.length = 4)
    (body : Bytes) :
    table3Fields (total ++ (first ++ (second ++ (third ++ body))))
      = (do
        rejectIf (leValue total ≠ 16 + body.length) .invalidWitness
        rejectIf (leValue first ≠ 16 ∨ leValue first > leValue second
          ∨ leValue second > leValue third ∨ leValue third > 16 + body.length) .invalidWitness
        return (body.take (leValue second - 16),
          (body.drop (leValue second - 16)).take (leValue third - leValue second),
          body.drop (leValue third - 16))) := by
  unfold table3Fields
  have hlen : (total ++ (first ++ (second ++ (third ++ body)))).length = 16 + body.length := by
    simp only [List.length_append, htotal, hfirst, hsecond, hthird]
    omega
  rw [hlen, rejectIf_neg (by omega), ok_bind]
  simp (disch := omega) only [slice_append_left, slice_append_right, slice_all, htotal, hfirst,
    hsecond, Nat.reduceSub, ok_bind, leUsize_of_length]
  -- the slices are only in bounds when the four offsets are in order
  by_cases hbad : leValue first ≠ 16 ∨ leValue first > leValue second
      ∨ leValue second > leValue third ∨ leValue third > 16 + body.length
  · simp only [rejectIf_pos hbad, err_bind]
  · simp only [rejectIf_neg hbad, ok_bind]
    simp only [not_or, not_not, Nat.not_lt] at hbad
    obtain ⟨h16, h12, h23, h3⟩ := hbad
    obtain ⟨fixed, hfixed, hfixedLen⟩ : ∃ fixed, total ++ (first ++ (second ++ (third ++ body)))
        = fixed ++ body ∧ fixed.length = 16 := by
      refine ⟨total ++ (first ++ (second ++ third)), ?_, ?_⟩
      · simp only [List.append_assoc]
      · simp only [List.length_append, htotal, hfirst, hsecond, hthird]
    -- the last field runs to the end of the buffer
    have hlast : body.drop (leValue third - 16)
        = (body.drop (leValue third - 16)).take (16 + body.length - leValue third) := by
      rw [List.take_of_length_le (by rw [List.length_drop]; omega)]
    rw [hfixed, slice_window fixed body (k := 0) (n := leValue second - 16) (by omega)
        (by omega) (by omega), ok_bind,
      slice_window fixed body (k := leValue second - 16) (n := leValue third - leValue second)
        (by omega) (by omega) (by omega), ok_bind,
      slice_window fixed body (k := leValue third - 16) (n := 16 + body.length - leValue third)
        (by omega) (by omega) (by omega), ok_bind, ← hlast, List.drop_zero]

/-- **`table3_fields` accepts exactly the three-field tables.** -/
theorem table3Fields_eq_ok {data a b c : Bytes} :
    table3Fields data = .ok (a, b, c) ↔ data = table [a, b, c] ∧ data.length < 2 ^ 32 := by
  constructor
  · intro h
    have hlong : 16 ≤ data.length := by
      unfold table3Fields at h
      have := (rejectIf_bind_eq_ok.mp h).1
      omega
    -- the four header words, then the conditions on them as numbers
    obtain ⟨total, d, rfl, htotal, _⟩ := exists_front data 4 (by omega)
    obtain ⟨first, d, rfl, hfirst, _⟩ := exists_front d 4 (by omega)
    obtain ⟨second, d, rfl, hsecond, _⟩ := exists_front d 4 (by omega)
    obtain ⟨third, body, rfl, hthird, _⟩ := exists_front d 4 (by omega)
    rw [table3Fields_cut htotal hfirst hsecond hthird] at h
    simp only [rejectIf_bind_eq_ok, not_or, not_not, Nat.not_lt, pure_eq, Outcome.ok.injEq,
      Prod.mk.injEq] at h
    obtain ⟨hsize, ⟨h16, h12, h23, h3⟩, rfl, rfl, rfl⟩ := h
    refine ⟨eq_table_three htotal hfirst hsecond hthird hsize h16 (by omega) h23 h3, ?_⟩
    have hlt := leValue_lt total
    rw [htotal] at hlt
    simp only [List.length_append, htotal, hfirst, hsecond, hthird]
    omega
  · rintro ⟨rfl, hlt⟩
    rw [table_three_length] at hlt
    rw [table_three, table3Fields_cut (number_length _) (number_length _) (number_length _)
      (number_length _), leValue_number (by omega), leValue_number (by omega),
      leValue_number (by omega), leValue_number (by omega)]
    simp only [rejectIf_bind_eq_ok, not_or, not_not, List.length_append]
    refine ⟨trivial, ⟨trivial, by omega, by omega, by omega⟩, ?_⟩
    rw [Nat.add_sub_cancel_left, Nat.add_sub_cancel_left, List.take_left' rfl,
      List.drop_left' rfl, List.take_left' rfl,
      show 16 + a.length + b.length - 16 = (a ++ b).length by rw [List.length_append]; omega,
      ← List.append_assoc, List.drop_left' rfl]
    rfl

/-! ## Byte vectors -/

/-- **`molecule_bytes` accepts exactly the byte vectors.** -/
theorem moleculeBytes_eq_ok {field b : Bytes} :
    moleculeBytes field = .ok b ↔ field = fixvec b ∧ b.length < 2 ^ 32 := by
  have hcut : ∀ len body : Bytes, len.length = 4 → (moleculeBytes (len ++ body) = .ok b
      ↔ leValue len = body.length ∧ body = b) := by
    intro len body hlen
    unfold moleculeBytes
    have htotal : (len ++ body).length = 4 + body.length := by
      rw [List.length_append, hlen]
    rw [htotal, rejectIf_neg (by omega), ok_bind, slice_front len body hlen, ok_bind,
      leUsize_of_length hlen, ok_bind, rejectIf_bind_eq_ok,
      slice_append_right len body (by omega) (by omega), hlen, Nat.sub_self,
      Nat.add_sub_cancel_left, slice_zero_length, not_not, Outcome.ok.injEq]
  constructor
  · intro h
    have hlong : 4 ≤ field.length := by
      unfold moleculeBytes at h
      have := (rejectIf_bind_eq_ok.mp h).1
      omega
    obtain ⟨len, body, rfl, hlen, _⟩ := exists_front field 4 hlong
    obtain ⟨hsize, rfl⟩ := (hcut len body hlen).mp h
    have hlt := leValue_lt len
    rw [hlen] at hlt
    rw [fixvec, ← hsize, number_leValue hlen]
    exact ⟨rfl, hlt⟩
  · rintro ⟨rfl, hlt⟩
    exact (hcut _ _ (number_length _)).mpr ⟨leValue_number hlt, rfl⟩

/-- The witness carries a present lock field: a table whose first field is a vector. -/
theorem witnessLock_eq_ok {witness lock : Bytes} :
    witnessLock witness = .ok lock
      ↔ ∃ inputType outputType, witness = table [fixvec lock, inputType, outputType]
        ∧ witness.length < 2 ^ 32 := by
  unfold witnessLock
  constructor
  · intro h
    obtain ⟨⟨a, b, c⟩, htable, h⟩ := bind_eq_ok.mp h
    obtain ⟨hw, hlt⟩ := table3Fields_eq_ok.mp htable
    obtain ⟨-, h⟩ := rejectIf_bind_eq_ok.mp h
    obtain ⟨rfl, -⟩ := moleculeBytes_eq_ok.mp h
    exact ⟨b, c, hw, hlt⟩
  · rintro ⟨b, c, rfl, hlt⟩
    have hlock : lock.length < 2 ^ 32 := by
      rw [table_three_length, fixvec_length] at hlt
      omega
    rw [table3Fields_eq_ok.mpr ⟨rfl, hlt⟩, ok_bind]
    show (rejectIf ((fixvec lock).isEmpty = true) ProtocolError.invalidWitness
      >>= fun _ => moleculeBytes (fixvec lock)) = .ok lock
    rw [rejectIf_neg, ok_bind, moleculeBytes_eq_ok.mpr ⟨rfl, hlock⟩]
    intro hempty
    have := congrArg List.length (List.isEmpty_iff.mp hempty)
    rw [fixvec_length, List.length_nil] at this
    omega

/-- **`canonical_witness` replaces the lock field by an empty vector** and keeps the
    other two fields. -/
theorem canonicalWitness_eq_ok {witness out : Bytes} :
    canonicalWitness witness = .ok out
      ↔ ∃ lock inputType outputType, witness = table [lock, inputType, outputType]
        ∧ witness.length < 2 ^ 32 ∧ out = table [fixvec [], inputType, outputType] := by
  -- on a table the result is the table with its lock field emptied
  have hcut : ∀ a b c : Bytes, (table [a, b, c]).length < 2 ^ 32 →
      canonicalWitness (table [a, b, c]) = .ok (table [fixvec [], b, c]) := by
    intro a b c hlt
    unfold canonicalWitness
    rw [table3Fields_eq_ok.mpr ⟨rfl, hlt⟩, ok_bind]
    rw [table_three_length] at hlt
    have htotal : checkedAdd (20 + b.length) c.length = some (20 + b.length + c.length) :=
      checkedAdd_of_lt (by unfold usizeSize; omega)
    have hthird : checkedAdd 20 b.length = some (20 + b.length) :=
      checkedAdd_of_lt (by unfold usizeSize; omega)
    simp only [hthird, Option.bind_some, htotal, okOr_some, ok_bind, pure_eq]
    rw [table_three, fixvec_length, List.length_nil,
      show 16 + (4 + 0 + (b.length + c.length)) = 20 + b.length + c.length by omega]
    simp only [List.append_assoc]
    rfl
  constructor
  · intro h
    have h' := h
    unfold canonicalWitness at h'
    obtain ⟨⟨a, b, c⟩, htable, -⟩ := bind_eq_ok.mp h'
    obtain ⟨rfl, hlt⟩ := table3Fields_eq_ok.mp htable
    rw [hcut a b c hlt] at h
    cases h
    exact ⟨a, b, c, rfl, hlt, rfl⟩
  · rintro ⟨a, b, c, rfl, hlt, rfl⟩
    exact hcut a b c hlt

/-- `script_args` reads the third field of a script. -/
theorem scriptArgs_eq_ok {script args : Bytes} :
    scriptArgs script = .ok args
      ↔ ∃ codeHash hashType, script = table [codeHash, hashType, fixvec args]
        ∧ script.length < 2 ^ 32 := by
  unfold scriptArgs
  constructor
  · intro h
    obtain ⟨⟨a, b, c⟩, htable, h⟩ := bind_eq_ok.mp h
    obtain ⟨hs, hlt⟩ := table3Fields_eq_ok.mp (mapErr_eq_ok.mp htable)
    obtain ⟨rfl, -⟩ := moleculeBytes_eq_ok.mp (mapErr_eq_ok.mp h)
    exact ⟨a, b, hs, hlt⟩
  · rintro ⟨a, b, rfl, hlt⟩
    have hargs : args.length < 2 ^ 32 := by
      rw [table_three_length, fixvec_length] at hlt
      omega
    rw [table3Fields_eq_ok.mpr ⟨rfl, hlt⟩, mapErr_ok, ok_bind]
    show (moleculeBytes (fixvec args)).mapErr (fun _ => ProtocolError.invalidArgs) = .ok args
    rw [moleculeBytes_eq_ok.mpr ⟨rfl, hargs⟩, mapErr_ok]

end CkbWitnessTable
