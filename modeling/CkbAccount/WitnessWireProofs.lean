import CkbAccount.StateWireProofs

/-! # AccountWitnessV1 on the wire

    `parse_witness_header` and `parse_proofs` of `crates/protocol/src/wire.rs`.  The
    lock field of a witness is a 16-byte header and a sequence of proofs in
    strictly increasing slot order; both readers are described by the layouts they
    invert, and the proof loop is another instance of the record loop. -/

namespace CkbWitnessWire

open RustOutcome Outcome LittleEndian RecordLoop CkbProtocol

/-! ## The header -/

/-- `AccountWitnessHeader`. -/
structure AccountWitnessHeader where
  operation : UInt8
  proofCount : UInt8
  stateSequence : UInt64
  deriving DecidableEq, Repr

/-- `parse_witness_header`. -/
def parseWitnessHeader (data : Bytes) : Outcome ProtocolError AccountWitnessHeader := do
  rejectIf (data.length < accountWitnessHeaderLen ∨ data.length > accountWitnessMaxLockLen)
    .invalidWitness
  rejectIf ((← slice data 0 4) ≠ accountWitnessMagic
    ∨ (← byteAt data 4) ≠ accountWitnessVersion ∨ (← byteAt data 7) ≠ 0) .invalidWitness
  rejectIf (¬ IsOperation (← byteAt data 5)) .invalidWitness
  return {
    operation := ← byteAt data 5
    proofCount := ← byteAt data 6
    stateSequence := ← (leU64 (← slice data 8 16)).mapErr
      (fun _ => ProtocolError.invalidWitness) }

/-- The 16 header bytes of a header value. -/
def AccountWitnessHeader.layout (h : AccountWitnessHeader) : Bytes :=
  accountWitnessMagic ++ (accountWitnessVersion :: h.operation :: h.proofCount :: 0
    :: u64Le h.stateSequence)

@[simp] theorem AccountWitnessHeader.layout_length (h : AccountWitnessHeader) :
    h.layout.length = 16 := by
  simp [AccountWitnessHeader.layout, accountWitnessMagic]

/-- A header is determined by its 16 bytes, whatever follows them. -/
theorem AccountWitnessHeader.layout_append_inj {h h' : AccountWitnessHeader} {x y : Bytes}
    (heq : h.layout ++ x = h'.layout ++ y) : h = h' ∧ x = y := by
  obtain ⟨heq, hxy⟩ := List.append_inj heq
    (by rw [AccountWitnessHeader.layout_length, AccountWitnessHeader.layout_length])
  refine ⟨?_, hxy⟩
  unfold AccountWitnessHeader.layout at heq
  obtain ⟨-, heq⟩ := List.append_inj heq rfl
  obtain ⟨hop, heq⟩ := List.cons.inj (List.cons.inj heq).2
  obtain ⟨hcount, heq⟩ := List.cons.inj heq
  cases h
  cases h'
  simp only [AccountWitnessHeader.mk.injEq]
  exact ⟨hop, hcount, u64Le_inj (List.cons.inj heq).2⟩

/-- The parser on a string cut at the field boundaries. -/
theorem parseWitnessHeader_cut {magic seq : Bytes} (hmagic : magic.length = 4)
    (hseq : seq.length = 8) (version operation count reserved : UInt8) (body : Bytes) :
    parseWitnessHeader (magic ++ (version :: operation :: count :: reserved :: (seq ++ body)))
      = (do
        rejectIf (16 + body.length > accountWitnessMaxLockLen) .invalidWitness
        rejectIf (magic ≠ accountWitnessMagic ∨ version ≠ accountWitnessVersion
          ∨ reserved ≠ 0) .invalidWitness
        rejectIf (¬ IsOperation operation) .invalidWitness
        return {
          operation := operation
          proofCount := count
          stateSequence := u64FromLe seq }) := by
  unfold parseWitnessHeader
  have hshort : ∀ n, ¬ (16 + n < accountWitnessHeaderLen) := by
    intro n
    unfold accountWitnessHeaderLen
    omega
  have htotal : (magic ++ (version :: operation :: count :: reserved :: (seq ++ body))).length
      = 16 + body.length := by
    simp only [List.length_append, List.length_cons, hmagic, hseq]
    omega
  rw [htotal]
  simp (disch := omega) only [slice_append_left, slice_append_right, slice_cons_succ, slice_all,
    byteAt_append_right, byteAt_cons_zero, byteAt_cons_succ, leU64_of_length, mapErr_ok,
    hmagic, Nat.reduceSub, ok_bind, hshort, false_or]

/-- **The witness header parser inverts the header layout.** -/
theorem parseWitnessHeader_eq_ok {data : Bytes} {h : AccountWitnessHeader} :
    parseWitnessHeader data = .ok h
      ↔ (∃ body, data = h.layout ++ body) ∧ IsOperation h.operation
        ∧ data.length ≤ accountWitnessMaxLockLen := by
  constructor
  · intro hp
    have hlong : 16 ≤ data.length := by
      unfold parseWitnessHeader at hp
      rw [rejectIf_bind_eq_ok] at hp
      have := hp.1
      unfold accountWitnessHeaderLen at this
      omega
    -- cut the sixteen bytes into the fields of the layout, in order
    obtain ⟨magic, d, rfl, hmagic, _⟩ := exists_front data 4 (by omega)
    obtain ⟨version, d, rfl, _⟩ := exists_head d (by omega)
    obtain ⟨operation, d, rfl, _⟩ := exists_head d (by omega)
    obtain ⟨count, d, rfl, _⟩ := exists_head d (by omega)
    obtain ⟨reserved, d, rfl, _⟩ := exists_head d (by omega)
    obtain ⟨seq, body, rfl, hseq, _⟩ := exists_front d 8 (by omega)
    rw [parseWitnessHeader_cut hmagic hseq] at hp
    simp only [rejectIf_bind_eq_ok, not_not, not_or, pure_eq, Outcome.ok.injEq] at hp
    obtain ⟨hmax, ⟨rfl, rfl, rfl⟩, hop, rfl⟩ := hp
    refine ⟨⟨body, ?_⟩, hop, ?_⟩
    · simp only [AccountWitnessHeader.layout, u64Le_u64FromLe hseq, List.append_assoc,
        List.cons_append]
    · simp only [List.length_append, List.length_cons, hmagic, hseq]
      omega
  · rintro ⟨⟨body, rfl⟩, hop, hmax⟩
    rw [List.length_append, AccountWitnessHeader.layout_length] at hmax
    simp only [AccountWitnessHeader.layout, List.append_assoc, List.cons_append]
    rw [parseWitnessHeader_cut rfl (u64Le_length _)]
    simp only [rejectIf_bind_eq_ok, not_not, not_or, pure_eq, u64FromLe_u64Le]
    exact ⟨Nat.not_lt_of_le hmax, ⟨trivial, trivial, trivial⟩, hop, trivial⟩

/-! ## Proofs -/

/-- What the callback of `parse_proofs` is given: a slot and its proof. -/
structure SlotProof where
  slot : UInt16
  proof : Bytes
  deriving DecidableEq, Repr

/-- One pass of the loop of `parse_proofs` up to the callback: the proof at `off` and
    the offset past it. -/
def readProof (data : Bytes) (off : Nat) (prev : Option UInt16) :
    Outcome ProtocolError (SlotProof × Nat) := do
  let _ ← (checkedEnd off 8 data.length).mapErr (fun _ => ProtocolError.invalidWitness)
  let slot ← (leU16 (← sliceFrom data off 0 2)).mapErr (fun _ => ProtocolError.invalidWitness)
  rejectIf ((← byteFrom data off 2) ≠ 0 ∨ (← byteFrom data off 3) ≠ 0) .invalidWitness
  let len := (← leU32 (← sliceFrom data off 4 8)).toNat
  let payload ← okOr .invalidWitness (checkedAdd off 8)
  let stop ← (checkedEnd payload len data.length).mapErr
    (fun _ => ProtocolError.invalidWitness)
  rejectIf (len = 0) .invalidWitness
  checkIncreasing prev slot .invalidWitness
  return ({ slot := slot, proof := ← slice data payload stop }, stop)

/-- `parse_proofs`, for a callback `f` with captured state `σ`. -/
def parseProofs {σ : Type} (f : σ → SlotProof → Outcome ProtocolError σ) (data : Bytes)
    (header : AccountWitnessHeader) (init : σ) : Outcome ProtocolError σ :=
  scan SlotProof.slot f readProof .invalidWitness data header.proofCount.toNat
    accountWitnessHeaderLen init

/-- The bytes of a proof: slot, two reserved bytes, length, payload. -/
def SlotProof.layout (p : SlotProof) : Bytes :=
  u16Le p.slot ++ (0 :: 0 :: (u32Le (UInt32.ofNat p.proof.length) ++ p.proof))

/-- What the proof reader demands. -/
structure SlotProof.WellFormed (p : SlotProof) : Prop where
  nonempty : p.proof ≠ []
  size : p.proof.length < 2 ^ 32

@[simp] theorem SlotProof.layout_length (p : SlotProof) :
    p.layout.length = 8 + p.proof.length := by
  simp only [SlotProof.layout, List.length_append, List.length_cons, u16Le_length, u32Le_length]
  omega

/-- **Proof layouts are prefix-free**: slot and length stand at fixed places. -/
theorem SlotProof.layout_prefixFree :
    PrefixFree SlotProof.layout (fun p => p.proof.length < 2 ^ 32) := by
  intro p q x y hp hq heq
  unfold SlotProof.layout at heq
  simp only [List.append_assoc, List.cons_append] at heq
  obtain ⟨hslot, heq⟩ := List.append_inj heq (by simp)
  obtain ⟨hlen, heq⟩ := List.append_inj (List.cons.inj (List.cons.inj heq).2).2 (by simp)
  have hlen : p.proof.length = q.proof.length := by
    rw [← leValue_u32Le_ofNat hp, hlen, leValue_u32Le_ofNat hq]
  obtain ⟨hproof, hxy⟩ := List.append_inj heq hlen
  refine ⟨?_, hxy⟩
  cases p
  cases q
  simp only [SlotProof.mk.injEq]
  exact ⟨u16Le_inj hslot, hproof⟩

/-- A proof cut at the field boundaries. -/
theorem readProof_cut {slot len : Bytes} (hslot : slot.length = 2) (hlen : len.length = 4)
    (r0 r1 : UInt8) (pre body : Bytes) (prev : Option UInt16)
    (hmax : pre.length + (8 + body.length) < usizeSize) :
    readProof (pre ++ (slot ++ (r0 :: r1 :: (len ++ body)))) pre.length prev
      = (do
        rejectIf (r0 ≠ 0 ∨ r1 ≠ 0) .invalidWitness
        rejectIf (body.length < leValue len) .invalidWitness
        rejectIf (leValue len = 0) .invalidWitness
        checkIncreasing prev (u16FromLe slot) .invalidWitness
        return ({ slot := u16FromLe slot, proof := body.take (leValue len) },
          pre.length + 8 + leValue len)) := by
  unfold readProof
  have htotal : (pre ++ (slot ++ (r0 :: r1 :: (len ++ body)))).length
      = pre.length + (8 + body.length) := by
    simp only [List.length_append, List.length_cons, hslot, hlen]
    omega
  rw [htotal, checkedEnd_of_le (by omega) hmax]
  simp (disch := omega) only [mapErr_ok, ok_bind, sliceFrom_append, byteFrom_append,
    slice_append_left, slice_append_right, slice_cons_succ, slice_all, byteAt_append_right,
    byteAt_cons_zero, byteAt_cons_succ, leU16_of_length, leU32_of_length, u32FromLe_toNat,
    hslot, Nat.reduceSub]
  rw [checkedAdd_of_lt (by omega), okOr_some, ok_bind]
  -- the payload is only sliced when it fits into what is left
  by_cases hfit : leValue len ≤ body.length
  · obtain ⟨fixed, hfixed, hfixedLen⟩ : ∃ fixed, pre ++ (slot ++ (r0 :: r1 :: (len ++ body)))
        = fixed ++ body ∧ fixed.length = pre.length + 8 := by
      refine ⟨pre ++ (slot ++ (r0 :: r1 :: len)), ?_, ?_⟩
      · simp only [List.append_assoc, List.cons_append]
      · simp only [List.length_append, List.length_cons, hslot, hlen]
    have hproof := slice_window (ε := ProtocolError) fixed body (i := pre.length + 8)
      (k := 0) (n := leValue len) (by omega) rfl (by omega)
    rw [checkedEnd_of_le (by omega) hmax, mapErr_ok, ok_bind,
      rejectIf_neg (Nat.not_lt_of_le hfit), ok_bind, hfixed]
    simp only [hproof, ok_bind, List.drop_zero]
  · rw [rejectIf_pos (Nat.lt_of_not_le hfit), err_bind, checkedEnd_of_gt (by omega),
      mapErr_err, err_bind]

/-- **The proof reader inverts the proof layout**, at any offset. -/
theorem readProof_reads :
    Reads readProof SlotProof.slot SlotProof.layout SlotProof.WellFormed := by
  constructor
  intro pre rest prev p next hmax
  constructor
  · intro h
    have hlong : 8 ≤ rest.length := by
      unfold readProof at h
      obtain ⟨stop, hstop, -⟩ := bind_eq_ok.mp h
      rw [mapErr_eq_ok, checkedEnd_eq_ok, List.length_append] at hstop
      omega
    -- cut the rest at the fields of a proof
    obtain ⟨slot, d, rfl, hslot, _⟩ := exists_front rest 2 (by omega)
    obtain ⟨r0, d, rfl, _⟩ := exists_head d (by omega)
    obtain ⟨r1, d, rfl, _⟩ := exists_head d (by omega)
    obtain ⟨len, body, rfl, hlen, _⟩ := exists_front d 4 (by omega)
    rw [readProof_cut hslot hlen r0 r1 pre body prev (by omega)] at h
    simp only [rejectIf_bind_eq_ok, checkIncreasing_bind_eq_ok, not_not, not_or, pure_eq,
      Outcome.ok.injEq, Prod.mk.injEq] at h
    obtain ⟨⟨rfl, rfl⟩, hfit, hpos, hinc, rfl, rfl⟩ := h
    have hsize : leValue len < 2 ^ 32 := by
      have := leValue_lt len
      rwa [hlen] at this
    have hproof : (body.take (leValue len)).length = leValue len := by
      rw [List.length_take]
      omega
    refine ⟨⟨body.drop (leValue len), ?_⟩, ⟨?_, ?_⟩, hinc, ?_⟩
    · simp only [SlotProof.layout, hproof]
      rw [show UInt32.ofNat (leValue len) = u32FromLe len from rfl]
      simp only [u16Le_u16FromLe hslot, u32Le_u32FromLe hlen, List.append_assoc,
        List.cons_append, List.take_append_drop]
    · intro hnil
      have hnil : body.take (leValue len) = [] := hnil
      rw [hnil] at hproof
      exact hpos hproof.symm
    · show (body.take (leValue len)).length < 2 ^ 32
      rw [hproof]
      exact hsize
    · simp only [SlotProof.layout_length, hproof]
      omega
  · rintro ⟨⟨post, rfl⟩, ⟨hne, hsize⟩, hinc, rfl⟩
    have hpos : p.proof.length ≠ 0 := fun hc => hne (List.length_eq_zero_iff.mp hc)
    rw [List.length_append, SlotProof.layout_length] at hmax
    simp only [SlotProof.layout_length]
    simp only [SlotProof.layout, List.append_assoc, List.cons_append]
    rw [readProof_cut (u16Le_length _) (u32Le_length _) 0 0 pre (p.proof ++ post) prev
      (by simp only [List.length_append]; omega), leValue_u32Le_ofNat hsize]
    simp only [rejectIf_bind_eq_ok, checkIncreasing_bind_eq_ok, not_not, not_or, pure_eq,
      Outcome.ok.injEq, u16FromLe_u16Le, List.take_left', Prod.mk.injEq, List.length_append]
    exact ⟨⟨trivial, trivial⟩, by omega, hpos, hinc, trivial, by omega⟩

/-- **What `parse_proofs` accepts** behind a parsed header: the layouts of as many
    proofs as announced, in increasing slot order, and nothing after them. -/
theorem parseProofs_eq_ok {σ : Type} {f : σ → SlotProof → Outcome ProtocolError σ}
    {header : AccountWitnessHeader} {body : Bytes} {s s' : σ}
    (hmax : 16 + body.length < usizeSize) :
    parseProofs f (header.layout ++ body) header s = .ok s'
      ↔ ∃ ps, RecordsFrom SlotProof.slot SlotProof.layout SlotProof.WellFormed none body ps
        ∧ ps.length = header.proofCount.toNat ∧ visit f ps s = .ok s' := by
  have hoff : accountWitnessHeaderLen = header.layout.length := header.layout_length.symm
  rw [parseProofs, hoff]
  exact readProof_reads.scan_eq_ok (by rw [header.layout_length]; exact hmax)

/-- The loop on a lock field that parses: one list of proofs serves every callback. -/
theorem parseProofs_visit {lock : Bytes} {header : AccountWitnessHeader}
    (hlock : parseWitnessHeader lock = .ok header) {σ : Type}
    {f : σ → SlotProof → Outcome ProtocolError σ} {s s' : σ}
    (h : parseProofs f lock header s = .ok s') :
    ∃ ps, parseProofs collect lock header [] = .ok ps ∧ (ps.map SlotProof.slot).Nodup
      ∧ ps.length = header.proofCount.toNat ∧ visit f ps s = .ok s' := by
  obtain ⟨⟨body, rfl⟩, -, hsize⟩ := parseWitnessHeader_eq_ok.mp hlock
  have hmax : 16 + body.length < usizeSize := by
    rw [List.length_append, AccountWitnessHeader.layout_length] at hsize
    unfold accountWitnessMaxLockLen at hsize
    unfold usizeSize
    omega
  obtain ⟨ps, hps, hcount, hvisit⟩ := (parseProofs_eq_ok hmax).mp h
  refine ⟨ps, (parseProofs_eq_ok hmax).mpr ⟨ps, hps, hcount, ?_⟩, ?_, hcount, hvisit⟩
  · rw [visit_collect, List.nil_append]
  · exact nodup_of_increasing ((increasingFrom_none _).mp hps.increasing)

end CkbWitnessWire
