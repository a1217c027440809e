import CkbAccount.ProtocolProofs
import CkbAccount.RecordLoopProofs

/-! # AccountStateV1 on the wire

    `StateHeader::parse` and `parse_authenticators` of `crates/protocol/src/wire.rs`,
    and what they accept.  A parser is described once, by the byte layout it
    inverts:

    * `StateHeader.layout` and `AuthenticatorEntry.layout` write a header and an
      entry;
    * `StateHeader.parse_eq_ok` and `parseEntry_eq_ok` say that the two readers
      succeed exactly on those layouts;
    * `parseAuthenticators_eq_ok` lifts the second to the whole loop, for any
      callback, as a fold over the entries. -/

namespace CkbStateWire

open RustOutcome Outcome LittleEndian RecordLoop CkbProtocol

/-! ## The header -/

/-- The fields of a state header. -/
structure StateHeader where
  flags : UInt8
  sequence : UInt64
  spendThreshold : UInt16
  rotateThreshold : UInt16
  recoveryThreshold : UInt16
  authenticatorCount : UInt8
  recoverySince : UInt64
  deriving DecidableEq, Repr

/-- `StateHeader::parse`. -/
def StateHeader.parse (data : Bytes) : Outcome ProtocolError StateHeader := do
  rejectIf (data.length < accountStateHeaderLen ∨ data.length > accountStateMaxLen)
    .invalidState
  rejectIf ((← slice data 0 4) ≠ accountStateMagic) .invalidState
  rejectIf ((← byteAt data 4) ≠ accountStateVersion) .unsupportedVersion
  rejectIf ((← byteAt data 5) &&& ~~~stateFlagsKnownMask ≠ 0) .invalidState
  rejectIf ((← leU16 (← slice data 6 8)).toNat ≠ accountStateHeaderLen) .invalidState
  rejectIf ((← byteAt data 23) ≠ 0) .invalidState
  let count ← byteAt data 22
  rejectIf (count = 0 ∨ count.toNat > authenticatorMaxCount) .invalidState
  return {
    flags := ← byteAt data 5
    sequence := ← leU64 (← slice data 8 16)
    spendThreshold := ← leU16 (← slice data 16 18)
    rotateThreshold := ← leU16 (← slice data 18 20)
    recoveryThreshold := ← leU16 (← slice data 20 22)
    authenticatorCount := count
    recoverySince := ← leU64 (← slice data 24 32) }

/-- The 32 header bytes of a header value. -/
def StateHeader.layout (h : StateHeader) : Bytes :=
  accountStateMagic ++ (accountStateVersion :: h.flags :: (u16Le 32 ++ (u64Le h.sequence
    ++ (u16Le h.spendThreshold ++ (u16Le h.rotateThreshold ++ (u16Le h.recoveryThreshold
    ++ (h.authenticatorCount :: 0 :: u64Le h.recoverySince)))))))

/-- What the header parser demands of the values it returns. -/
structure StateHeader.WellFormed (h : StateHeader) : Prop where
  flags : h.flags &&& ~~~stateFlagsKnownMask = 0
  count_pos : h.authenticatorCount ≠ 0
  count_le : h.authenticatorCount.toNat ≤ authenticatorMaxCount

@[simp] theorem StateHeader.layout_length (h : StateHeader) : h.layout.length = 32 := by
  simp [StateHeader.layout, accountStateMagic]

/-- A header is determined by its 32 bytes. -/
theorem StateHeader.layout_inj {h h' : StateHeader} (heq : h.layout = h'.layout) :
    h = h' := by
  unfold StateHeader.layout at heq
  obtain ⟨-, heq⟩ := List.append_inj heq rfl
  obtain ⟨hflags, heq⟩ := List.cons.inj (List.cons.inj heq).2
  obtain ⟨-, heq⟩ := List.append_inj heq rfl
  obtain ⟨hseq, heq⟩ := List.append_inj heq (by simp)
  obtain ⟨hspend, heq⟩ := List.append_inj heq (by simp)
  obtain ⟨hrotate, heq⟩ := List.append_inj heq (by simp)
  obtain ⟨hrecovery, heq⟩ := List.append_inj heq (by simp)
  obtain ⟨hcount, heq⟩ := List.cons.inj heq
  have hsince := (List.cons.inj heq).2
  cases h
  cases h'
  simp only [StateHeader.mk.injEq]
  exact ⟨hflags, u64Le_inj hseq, u16Le_inj hspend, u16Le_inj hrotate, u16Le_inj hrecovery,
    hcount, u64Le_inj hsince⟩

/-- The parser on a string cut at the field boundaries. -/
theorem StateHeader.parse_cut {magic len seq spend rotate recovery since : Bytes}
    (hmagic : magic.length = 4) (hlen : len.length = 2) (hseq : seq.length = 8)
    (hspend : spend.length = 2) (hrotate : rotate.length = 2)
    (hrecovery : recovery.length = 2) (hsince : since.length = 8)
    (version flags count reserved : UInt8) (body : Bytes) :
    StateHeader.parse (magic ++ (version :: flags :: (len ++ (seq ++ (spend ++ (rotate
      ++ (recovery ++ (count :: reserved :: (since ++ body)))))))))
      = (do
        rejectIf (32 + body.length > accountStateMaxLen) .invalidState
        rejectIf (magic ≠ accountStateMagic) .invalidState
        rejectIf (version ≠ accountStateVersion) .unsupportedVersion
        rejectIf (flags &&& ~~~stateFlagsKnownMask ≠ 0) .invalidState
        rejectIf ((u16FromLe len).toNat ≠ accountStateHeaderLen) .invalidState
        rejectIf (reserved ≠ 0) .invalidState
        rejectIf (count = 0 ∨ count.toNat > authenticatorMaxCount) .invalidState
        return {
          flags := flags
          sequence := u64FromLe seq
          spendThreshold := u16FromLe spend
          rotateThreshold := u16FromLe rotate
          recoveryThreshold := u16FromLe recovery
          authenticatorCount := count
          recoverySince := u64FromLe since }) := by
  unfold StateHeader.parse
  -- the first check repeats the bound that the cut already gives
  have hshort : ∀ n, ¬ (32 + n < accountStateHeaderLen) := by
    intro n
    unfold accountStateHeaderLen
    omega
  have htotal : (magic ++ (version :: flags :: (len ++ (seq ++ (spend ++ (rotate
      ++ (recovery ++ (count :: reserved :: (since ++ body))))))))).length
      = 32 + body.length := by
    simp only [List.length_append, List.length_cons, hmagic, hlen, hseq, hspend, hrotate,
      hrecovery, hsince]
    omega
  rw [htotal]
  simp (disch := omega) only [slice_append_left, slice_append_right, slice_cons_succ, slice_all,
    byteAt_append_right, byteAt_cons_zero, byteAt_cons_succ, leU16_of_length, leU64_of_length,
    hmagic, hlen, hseq, hspend, hrotate, hrecovery, Nat.reduceSub, ok_bind, hshort,
    false_or]

/-- **The header parser inverts the header layout**: it returns `h` exactly on
    strings that start with the 32 bytes of a well-formed `h` and fit a cell. -/
theorem StateHeader.parse_eq_ok {data : Bytes} {h : StateHeader} :
    StateHeader.parse data = .ok h
      ↔ (∃ body, data = h.layout ++ body) ∧ h.WellFormed
        ∧ data.length ≤ accountStateMaxLen := by
  constructor
  · intro hp
    have hlong : 32 ≤ data.length := by
      unfold StateHeader.parse at hp
      rw [rejectIf_bind_eq_ok] at hp
      have := hp.1
      unfold accountStateHeaderLen at this
      omega
    -- cut the 32 bytes into the fields of the layout, in order
    obtain ⟨magic, d, rfl, hmagic, _⟩ := exists_front data 4 (by omega)
    obtain ⟨version, d, rfl, _⟩ := exists_head d (by omega)
    obtain ⟨flags, d, rfl, _⟩ := exists_head d (by omega)
    obtain ⟨len, d, rfl, hlen, _⟩ := exists_front d 2 (by omega)
    obtain ⟨seq, d, rfl, hseq, _⟩ := exists_front d 8 (by omega)
    obtain ⟨spend, d, rfl, hspend, _⟩ := exists_front d 2 (by omega)
    obtain ⟨rotate, d, rfl, hrotate, _⟩ := exists_front d 2 (by omega)
    obtain ⟨recovery, d, rfl, hrecovery, _⟩ := exists_front d 2 (by omega)
    obtain ⟨count, d, rfl, _⟩ := exists_head d (by omega)
    obtain ⟨reserved, d, rfl, _⟩ := exists_head d (by omega)
    obtain ⟨since, body, rfl, hsince, _⟩ := exists_front d 8 (by omega)
    rw [StateHeader.parse_cut hmagic hlen hseq hspend hrotate hrecovery hsince] at hp
    simp only [rejectIf_bind_eq_ok, not_not, not_or, pure_eq, Outcome.ok.injEq] at hp
    obtain ⟨hmax, rfl, rfl, hflags, hhl, rfl, ⟨hc0, hc16⟩, rfl⟩ := hp
    -- the length field is checked as a number; the layout writes its bytes
    have hlen32 : len = u16Le 32 := by
      rw [← u16Le_u16FromLe hlen]
      congr 1
      exact UInt16.toNat_inj.mp hhl
    refine ⟨⟨body, ?_⟩, ⟨hflags, hc0, Nat.le_of_not_lt hc16⟩, ?_⟩
    · simp only [StateHeader.layout, hlen32, u64Le_u64FromLe hseq, u16Le_u16FromLe hspend,
        u16Le_u16FromLe hrotate, u16Le_u16FromLe hrecovery, u64Le_u64FromLe hsince,
        List.append_assoc, List.cons_append]
    · simp only [List.length_append, List.length_cons, hmagic, hlen, hseq, hspend, hrotate,
        hrecovery, hsince]
      omega
  · rintro ⟨⟨body, rfl⟩, ⟨hflags, hc0, hc16⟩, hmax⟩
    rw [List.length_append, StateHeader.layout_length] at hmax
    simp only [StateHeader.layout, List.append_assoc, List.cons_append]
    rw [StateHeader.parse_cut rfl (u16Le_length _) (u64Le_length _) (u16Le_length _)
      (u16Le_length _) (u16Le_length _) (u64Le_length _)]
    simp only [rejectIf_bind_eq_ok, not_not, not_or, pure_eq, u64FromLe_u64Le,
      u16FromLe_u16Le]
    exact ⟨Nat.not_lt_of_le hmax, trivial, trivial, hflags, rfl, trivial,
      ⟨hc0, Nat.not_lt_of_le hc16⟩, trivial⟩

theorem StateHeader.parse_ne_lengthOverflow (data : Bytes) :
    StateHeader.parse data ≠ .err .lengthOverflow := by
  have hnum : ∀ (lo hi : Nat) (f : UInt16 → Outcome ProtocolError StateHeader),
      (∀ n, f n ≠ .err .lengthOverflow) →
      (slice data lo hi >>= fun b => leU16 b >>= f) ≠ .err .lengthOverflow :=
    fun lo hi f hf => bind_ne_err slice_ne_err fun _ _ =>
      bind_ne_err (leU16_ne_err (by decide)) fun n _ => hf n
  have hwide : ∀ (lo hi : Nat) (f : UInt64 → Outcome ProtocolError StateHeader),
      (∀ n, f n ≠ .err .lengthOverflow) →
      (slice data lo hi >>= fun b => leU64 b >>= f) ≠ .err .lengthOverflow :=
    fun lo hi f hf => bind_ne_err slice_ne_err fun _ _ =>
      bind_ne_err (leU64_ne_err (by decide)) fun n _ => hf n
  rw [StateHeader.parse]
  refine bind_ne_err (rejectIf_ne_err (by decide)) fun _ _ => ?_
  -- magic, version and flags
  refine bind_ne_err slice_ne_err fun _ _ => bind_ne_err (rejectIf_ne_err (by decide)) fun _ _ => ?_
  refine bind_ne_err byteAt_ne_err fun _ _ => bind_ne_err (rejectIf_ne_err (by decide)) fun _ _ => ?_
  refine bind_ne_err byteAt_ne_err fun _ _ => bind_ne_err (rejectIf_ne_err (by decide)) fun _ _ => ?_
  -- header length, reserved byte and count
  refine hnum _ _ _ fun _ => bind_ne_err (rejectIf_ne_err (by decide)) fun _ _ => ?_
  refine bind_ne_err byteAt_ne_err fun _ _ => bind_ne_err (rejectIf_ne_err (by decide)) fun _ _ => ?_
  refine bind_ne_err byteAt_ne_err fun _ _ => bind_ne_err (rejectIf_ne_err (by decide)) fun _ _ => ?_
  refine bind_ne_err byteAt_ne_err fun _ _ => hwide _ _ _ fun _ => ?_
  refine hnum _ _ _ fun _ => hnum _ _ _ fun _ => hnum _ _ _ fun _ => ?_
  exact hwide _ _ _ fun _ => by simp

/-! ## Authenticator entries -/

/-- One entry of a state. -/
structure AuthenticatorEntry where
  slot : UInt16
  algorithmId : UInt16
  capabilities : UInt16
  weight : UInt16
  verifierHashType : UInt8
  verifierAbi : UInt8
  verifierCodeHash : Byte32
  keyId : Bytes
  aux : Bytes
  deriving DecidableEq, Repr

/-- One pass of the loop of `parse_authenticators` up to the callback: the entry at
    `off` and its length. -/
def parseEntry (state : Bytes) (off : Nat) (prevSlot : Option UInt16) :
    Outcome ProtocolError (AuthenticatorEntry × Nat) := do
  let _ ← (checkedEnd off 48 state.length).mapErr (fun _ => ProtocolError.invalidState)
  let entryLen := (← leU16 (← sliceFrom state off 0 2)).toNat
  let slot ← leU16 (← sliceFrom state off 2 4)
  let algorithmId ← leU16 (← sliceFrom state off 4 6)
  let capabilities ← leU16 (← sliceFrom state off 6 8)
  let weight ← leU16 (← sliceFrom state off 8 10)
  let verifierHashType ← byteFrom state off 10
  let verifierAbi ← byteFrom state off 11
  let verifierCodeHash ← toByteArr 32 .invalidState (← sliceFrom state off 12 44)
  let keyLen := (← leU16 (← sliceFrom state off 44 46)).toNat
  let auxLen := (← leU16 (← sliceFrom state off 46 48)).toNat
  rejectIf (entryLen ≠ (← okOr .invalidState
    ((checkedAdd 48 keyLen).bind (fun v => checkedAdd v auxLen)))) .invalidState
  let _ ← (checkedEnd off entryLen state.length).mapErr (fun _ => ProtocolError.invalidState)
  checkIncreasing prevSlot slot .invalidState
  rejectIf (weight = 0 ∨ capabilities &&& ~~~capKnownMask ≠ 0) .invalidState
  rejectIf (verifierHashType > 1 ∨ verifierAbi ≠ verifierAbiV1) .invalidVerifierRef
  let keyStart ← addUsize off 48
  let auxStart ← addUsize keyStart keyLen
  let entry : AuthenticatorEntry := {
    slot := slot
    algorithmId := algorithmId
    capabilities := capabilities
    weight := weight
    verifierHashType := verifierHashType
    verifierAbi := verifierAbi
    verifierCodeHash := verifierCodeHash
    keyId := ← slice state keyStart auxStart
    aux := ← slice state auxStart (← addUsize off entryLen) }
  return (entry, entryLen)

/-- The bytes of an entry: 48 fixed ones, then the key id and the aux data. -/
def AuthenticatorEntry.layout (e : AuthenticatorEntry) : Bytes :=
  u16Le (UInt16.ofNat (48 + e.keyId.length + e.aux.length)) ++ (u16Le e.slot
    ++ (u16Le e.algorithmId ++ (u16Le e.capabilities ++ (u16Le e.weight
    ++ (e.verifierHashType :: e.verifierAbi :: (e.verifierCodeHash.val
    ++ (u16Le (UInt16.ofNat e.keyId.length) ++ (u16Le (UInt16.ofNat e.aux.length)
    ++ (e.keyId ++ e.aux)))))))))

/-- What the entry parser demands of an entry, whatever comes before it. -/
structure AuthenticatorEntry.WellFormed (e : AuthenticatorEntry) : Prop where
  size : 48 + e.keyId.length + e.aux.length < 2 ^ 16
  weight_pos : e.weight ≠ 0
  capabilities : e.capabilities &&& ~~~capKnownMask = 0
  hashType : e.verifierHashType ≤ 1
  abi : e.verifierAbi = verifierAbiV1

@[simp] theorem AuthenticatorEntry.layout_length (e : AuthenticatorEntry) :
    e.layout.length = 48 + e.keyId.length + e.aux.length := by
  simp only [AuthenticatorEntry.layout, List.length_append, List.length_cons, u16Le_length,
    e.verifierCodeHash.property]
  omega

/-- **Entry layouts are prefix-free**: the length field at the front tells where an
    entry ends. -/
theorem AuthenticatorEntry.layout_prefixFree :
    PrefixFree AuthenticatorEntry.layout
      (fun e => 48 + e.keyId.length + e.aux.length < 2 ^ 16) := by
  intro e e' x y he he' heq
  -- the leading length field fixes where each entry ends
  have hsize : 48 + e.keyId.length + e.aux.length = 48 + e'.keyId.length + e'.aux.length := by
    unfold AuthenticatorEntry.layout at heq
    simp only [List.append_assoc] at heq
    have hlen := (List.append_inj heq (by simp)).1
    rw [← leValue_u16Le_ofNat he, hlen, leValue_u16Le_ofNat he']
  obtain ⟨heq, hxy⟩ := List.append_inj heq
    (by rw [AuthenticatorEntry.layout_length, AuthenticatorEntry.layout_length, hsize])
  refine ⟨?_, hxy⟩
  unfold AuthenticatorEntry.layout at heq
  obtain ⟨-, heq⟩ := List.append_inj heq (by simp)
  obtain ⟨hslot, heq⟩ := List.append_inj heq (by simp)
  obtain ⟨halg, heq⟩ := List.append_inj heq (by simp)
  obtain ⟨hcap, heq⟩ := List.append_inj heq (by simp)
  obtain ⟨hweight, heq⟩ := List.append_inj heq (by simp)
  obtain ⟨htype, heq⟩ := List.cons.inj heq
  obtain ⟨habi, heq⟩ := List.cons.inj heq
  obtain ⟨hhash, heq⟩ := List.append_inj heq
    (by rw [e.verifierCodeHash.property, e'.verifierCodeHash.property])
  obtain ⟨hkeyLen, heq⟩ := List.append_inj heq (by simp)
  obtain ⟨-, heq⟩ := List.append_inj heq (by simp)
  -- the key length splits the variable tail into key id and aux
  have hkeyLen : e.keyId.length = e'.keyId.length := by
    rw [← leValue_u16Le_ofNat (n := e.keyId.length) (by omega), hkeyLen,
      leValue_u16Le_ofNat (by omega)]
  obtain ⟨hkey, haux⟩ := List.append_inj heq hkeyLen
  cases e
  cases e'
  simp only [AuthenticatorEntry.mk.injEq]
  exact ⟨u16Le_inj hslot, u16Le_inj halg, u16Le_inj hcap, u16Le_inj hweight, htype, habi,
    Subtype.ext hhash, hkey, haux⟩

/-- The fixed part of an entry, cut at the field boundaries. -/
theorem parseEntry_cut {len slot alg cap weight hash keyLen auxLen : Bytes}
    (hlen : len.length = 2) (hslot : slot.length = 2) (halg : alg.length = 2)
    (hcap : cap.length = 2) (hweight : weight.length = 2) (hhash : hash.length = 32)
    (hkey : keyLen.length = 2) (haux : auxLen.length = 2) (hashType abi : UInt8)
    (pre body : Bytes) (prev : Option UInt16)
    (hmax : pre.length + (48 + body.length) < usizeSize) :
    parseEntry (pre ++ (len ++ (slot ++ (alg ++ (cap ++ (weight ++ (hashType :: abi :: (hash
      ++ (keyLen ++ (auxLen ++ body)))))))))) pre.length prev
      = (do
        rejectIf (leValue len ≠ 48 + leValue keyLen + leValue auxLen) .invalidState
        rejectIf (48 + body.length < leValue len) .invalidState
        checkIncreasing prev (u16FromLe slot) .invalidState
        rejectIf (u16FromLe weight = 0 ∨ u16FromLe cap &&& ~~~capKnownMask ≠ 0) .invalidState
        rejectIf (hashType > 1 ∨ abi ≠ verifierAbiV1) .invalidVerifierRef
        return ({
          slot := u16FromLe slot
          algorithmId := u16FromLe alg
          capabilities := u16FromLe cap
          weight := u16FromLe weight
          verifierHashType := hashType
          verifierAbi := abi
          verifierCodeHash := ⟨hash, hhash⟩
          keyId := body.take (leValue keyLen)
          aux := (body.drop (leValue keyLen)).take (leValue auxLen) }, leValue len)) := by
  unfold parseEntry
  have htotal : (pre ++ (len ++ (slot ++ (alg ++ (cap ++ (weight ++ (hashType :: abi :: (hash
      ++ (keyLen ++ (auxLen ++ body)))))))))).length = pre.length + (48 + body.length) := by
    simp only [List.length_append, List.length_cons, hlen, hslot, halg, hcap, hweight, hhash,
      hkey, haux]
    omega
  rw [htotal, checkedEnd_of_le (by omega) hmax]
  simp (disch := omega) only [mapErr_ok, ok_bind, sliceFrom_append, byteFrom_append,
    slice_append_left, slice_append_right, slice_cons_succ, slice_all, byteAt_append_right,
    byteAt_cons_zero, byteAt_cons_succ, leU16_of_length, hlen, hslot, halg, hcap, hweight,
    hhash, hkey, Nat.reduceSub, u16FromLe_toNat]
  have hk : leValue keyLen < 2 ^ 16 := by
    have := leValue_lt keyLen
    rwa [hkey] at this
  have ha : leValue auxLen < 2 ^ 16 := by
    have := leValue_lt auxLen
    rwa [haux] at this
  have hsum : (checkedAdd 48 (leValue keyLen)).bind (fun v => checkedAdd v (leValue auxLen))
      = some (48 + leValue keyLen + leValue auxLen) := by
    rw [checkedAdd_of_lt (by unfold usizeSize; omega), Option.bind_some,
      checkedAdd_of_lt (by unfold usizeSize; omega)]
  rw [toByteArr, dif_pos hhash, ok_bind, hsum, okOr_some, ok_bind]
  by_cases hl : leValue len = 48 + leValue keyLen + leValue auxLen
  · rw [rejectIf_neg (not_not.mpr hl), ok_bind, ok_bind]
    by_cases hfit : leValue len ≤ 48 + body.length
    · -- the entry fits: both windows lie inside `body`
      obtain ⟨fixed, hfixed, hfixedLen⟩ : ∃ fixed, pre ++ (len ++ (slot ++ (alg ++ (cap
          ++ (weight ++ (hashType :: abi :: (hash ++ (keyLen ++ (auxLen ++ body)))))))))
          = fixed ++ body ∧ fixed.length = pre.length + 48 := by
        refine ⟨pre ++ (len ++ (slot ++ (alg ++ (cap ++ (weight ++ (hashType :: abi :: (hash
          ++ (keyLen ++ auxLen)))))))), ?_, ?_⟩
        · simp only [List.append_assoc, List.cons_append]
        · simp only [List.length_append, List.length_cons, hlen, hslot, halg, hcap, hweight,
            hhash, hkey, haux]
      have hkeyId := slice_window (ε := ProtocolError) fixed body (i := pre.length + 48)
        (k := 0) (n := leValue keyLen) (by omega) rfl (by omega)
      have hauxData := slice_window (ε := ProtocolError) fixed body
        (i := pre.length + 48 + leValue keyLen) (j := pre.length + leValue len)
        (k := leValue keyLen) (n := leValue auxLen) (by omega) (by omega) (by omega)
      rw [checkedEnd_of_le (by omega) hmax, mapErr_ok, ok_bind,
        rejectIf_neg (Nat.not_lt_of_le hfit), ok_bind, addUsize_of_lt (by omega), ok_bind,
        addUsize_of_lt (by omega), ok_bind, addUsize_of_lt (by omega), hfixed]
      simp only [hkeyId, hauxData, ok_bind, List.drop_zero]
    · rw [rejectIf_pos (Nat.lt_of_not_le hfit), err_bind, checkedEnd_of_gt (by omega),
        mapErr_err, err_bind]
  · rw [rejectIf_pos hl, err_bind, err_bind]

/-- **The entry parser inverts the entry layout**, at any offset. -/
theorem parseEntry_eq_ok {pre rest : Bytes} {prev : Option UInt16} {e : AuthenticatorEntry}
    {n : Nat} (hmax : pre.length + rest.length < usizeSize) :
    parseEntry (pre ++ rest) pre.length prev = .ok (e, n)
      ↔ (∃ post, rest = e.layout ++ post) ∧ e.WellFormed ∧ Increases prev e.slot
        ∧ n = e.layout.length := by
  constructor
  · intro hp
    have hlong : 48 ≤ rest.length := by
      unfold parseEntry at hp
      rw [bind_eq_ok] at hp
      obtain ⟨stop, hstop, -⟩ := hp
      rw [mapErr_eq_ok, checkedEnd_eq_ok, List.length_append] at hstop
      omega
    -- cut the rest at the fields of an entry
    obtain ⟨len, d, rfl, hlen, _⟩ := exists_front rest 2 (by omega)
    obtain ⟨slot, d, rfl, hslot, _⟩ := exists_front d 2 (by omega)
    obtain ⟨alg, d, rfl, halg, _⟩ := exists_front d 2 (by omega)
    obtain ⟨cap, d, rfl, hcap, _⟩ := exists_front d 2 (by omega)
    obtain ⟨weight, d, rfl, hweight, _⟩ := exists_front d 2 (by omega)
    obtain ⟨hashType, d, rfl, _⟩ := exists_head d (by omega)
    obtain ⟨abi, d, rfl, _⟩ := exists_head d (by omega)
    obtain ⟨hash, d, rfl, hhash, _⟩ := exists_front d 32 (by omega)
    obtain ⟨keyLen, d, rfl, hkey, _⟩ := exists_front d 2 (by omega)
    obtain ⟨auxLen, body, rfl, haux, _⟩ := exists_front d 2 (by omega)
    rw [parseEntry_cut hlen hslot halg hcap hweight hhash hkey haux hashType abi pre body prev
      (by omega)] at hp
    simp only [rejectIf_bind_eq_ok, checkIncreasing_bind_eq_ok, not_not, not_or, pure_eq,
      Outcome.ok.injEq, Prod.mk.injEq] at hp
    obtain ⟨hsum, hfit, hinc, ⟨hw, hcaps⟩, ⟨htype, habi⟩, rfl, rfl⟩ := hp
    have hsize : leValue len < 2 ^ 16 := by
      have := leValue_lt len
      rwa [hlen] at this
    have hkeyId : (body.take (leValue keyLen)).length = leValue keyLen := by
      rw [List.length_take]
      omega
    have hauxData : ((body.drop (leValue keyLen)).take (leValue auxLen)).length
        = leValue auxLen := by
      rw [List.length_take, List.length_drop]
      omega
    -- what is left behind key id and aux data belongs to the next entry
    have hbody : body = body.take (leValue keyLen)
        ++ ((body.drop (leValue keyLen)).take (leValue auxLen)
        ++ (body.drop (leValue keyLen)).drop (leValue auxLen)) := by
      rw [List.take_append_drop, List.take_append_drop]
    refine ⟨⟨(body.drop (leValue keyLen)).drop (leValue auxLen), ?_⟩,
      ⟨?_, hw, hcaps, UInt8.not_lt.mp htype, habi⟩, hinc, ?_⟩
    · simp only [AuthenticatorEntry.layout, hkeyId, hauxData, ← hsum]
      rw [show UInt16.ofNat (leValue len) = u16FromLe len from rfl,
        show UInt16.ofNat (leValue keyLen) = u16FromLe keyLen from rfl,
        show UInt16.ofNat (leValue auxLen) = u16FromLe auxLen from rfl]
      simp only [u16Le_u16FromLe hlen, u16Le_u16FromLe hslot, u16Le_u16FromLe halg,
        u16Le_u16FromLe hcap, u16Le_u16FromLe hweight, u16Le_u16FromLe hkey,
        u16Le_u16FromLe haux, List.append_assoc, List.cons_append]
      rw [← hbody]
    · simp only [hkeyId, hauxData, ← hsum]
      exact hsize
    · simp only [AuthenticatorEntry.layout_length, hkeyId, hauxData, hsum]
  · rintro ⟨⟨post, rfl⟩, ⟨hsize, hw, hcaps, htype, habi⟩, hinc, rfl⟩
    have hk : e.keyId.length < 2 ^ 16 := by omega
    have ha : e.aux.length < 2 ^ 16 := by omega
    rw [List.length_append, AuthenticatorEntry.layout_length] at hmax
    simp only [AuthenticatorEntry.layout_length]
    simp only [AuthenticatorEntry.layout, List.append_assoc, List.cons_append]
    rw [parseEntry_cut (u16Le_length _) (u16Le_length _) (u16Le_length _) (u16Le_length _)
      (u16Le_length _) e.verifierCodeHash.property (u16Le_length _) (u16Le_length _) _ _ pre
      (e.keyId ++ (e.aux ++ post)) prev (by simp only [List.length_append]; omega)]
    simp only [leValue_u16Le_ofNat hsize, leValue_u16Le_ofNat hk, leValue_u16Le_ofNat ha,
      u16FromLe_u16Le, List.take_left', List.drop_left']
    rw [rejectIf_neg (not_not.mpr rfl), ok_bind,
      rejectIf_neg (by simp only [List.length_append]; omega), ok_bind,
      (checkIncreasing_eq_ok (u := ())).mpr hinc, ok_bind,
      rejectIf_neg (not_or.mpr ⟨hw, not_not.mpr hcaps⟩), ok_bind,
      rejectIf_neg (not_or.mpr ⟨UInt8.not_lt.mpr htype, not_not.mpr habi⟩), ok_bind]
    rfl

/-! ## The entry loop -/

/-- The entry at `off` and the offset past it.  `off += entry_len` comes after the
    callback in the source; behind `checked_end` it cannot overflow. -/
def readEntry (state : Bytes) (off : Nat) (prevSlot : Option UInt16) :
    Outcome ProtocolError (AuthenticatorEntry × Nat) := do
  let (entry, entryLen) ← parseEntry state off prevSlot
  return (entry, ← addUsize off entryLen)

/-- `parse_authenticators`, for a callback `f` with captured state `σ`. -/
def parseAuthenticators {σ : Type} (f : σ → AuthenticatorEntry → Outcome ProtocolError σ)
    (state : Bytes) (header : StateHeader) (init : σ) : Outcome ProtocolError σ :=
  scan AuthenticatorEntry.slot f readEntry .invalidState state header.authenticatorCount.toNat
    accountStateHeaderLen init

/-- The reader has errors of its own for every check: the `LengthOverflow` of
    `checked_end` is relabelled both times. -/
theorem readEntry_ne_lengthOverflow (state : Bytes) (off : Nat) (prev : Option UInt16) :
    readEntry state off prev ≠ .err .lengthOverflow := by
  have hend : ∀ len, (checkedEnd off len state.length).mapErr
      (fun _ => ProtocolError.invalidState) ≠ .err .lengthOverflow := by
    intro len h
    cases hc : checkedEnd off len state.length <;> rw [hc] at h <;> cases h
  have hnum : ∀ (lo hi : Nat) (f : UInt16 → Outcome ProtocolError (AuthenticatorEntry × Nat)),
      (∀ n, f n ≠ .err .lengthOverflow) →
      (sliceFrom state off lo hi >>= fun b => leU16 b >>= f) ≠ .err .lengthOverflow :=
    fun lo hi f hf => bind_ne_err sliceFrom_ne_err fun _ _ =>
      bind_ne_err (leU16_ne_err (by decide)) fun n _ => hf n
  rw [readEntry]
  refine bind_ne_err ?_ fun _ _ => bind_ne_err addUsize_ne_err fun _ _ => by simp
  rw [parseEntry]
  -- the fixed part: five integers, two bytes, the code hash, two lengths
  refine bind_ne_err (hend 48) fun _ _ => ?_
  refine hnum _ _ _ fun _ => hnum _ _ _ fun _ => hnum _ _ _ fun _ => ?_
  refine hnum _ _ _ fun _ => hnum _ _ _ fun _ => ?_
  refine bind_ne_err byteFrom_ne_err fun _ _ => bind_ne_err byteFrom_ne_err fun _ _ => ?_
  refine bind_ne_err sliceFrom_ne_err fun _ _ =>
    bind_ne_err (toByteArr_ne_err (by decide)) fun _ _ => ?_
  refine hnum _ _ _ fun _ => hnum _ _ _ fun _ => ?_
  -- the checks, each with its own error
  refine bind_ne_err (okOr_ne_err (by decide)) fun _ _ => ?_
  refine bind_ne_err (rejectIf_ne_err (by decide)) fun _ _ => bind_ne_err (hend _) fun _ _ => ?_
  refine bind_ne_err (checkIncreasing_ne_err (by decide)) fun _ _ => ?_
  refine bind_ne_err (rejectIf_ne_err (by decide)) fun _ _ =>
    bind_ne_err (rejectIf_ne_err (by decide)) fun _ _ => ?_
  -- the two windows past it
  refine bind_ne_err addUsize_ne_err fun _ _ => bind_ne_err addUsize_ne_err fun _ _ => ?_
  refine bind_ne_err slice_ne_err fun _ _ => bind_ne_err addUsize_ne_err fun _ _ => ?_
  exact bind_ne_err slice_ne_err fun _ _ => by simp

/-- The entry reader inverts the entry layout. -/
theorem readEntry_reads :
    Reads readEntry AuthenticatorEntry.slot AuthenticatorEntry.layout
      AuthenticatorEntry.WellFormed := by
  constructor
  intro pre rest prev e next hmax
  unfold readEntry
  constructor
  · intro h
    obtain ⟨⟨entry, n⟩, hentry, h⟩ := bind_eq_ok.mp h
    obtain ⟨⟨post, rfl⟩, hwf, hinc, rfl⟩ := (parseEntry_eq_ok hmax).mp hentry
    rw [List.length_append] at hmax
    simp only [addUsize_of_lt (show pre.length + entry.layout.length < usizeSize by omega),
      ok_bind] at h
    cases h
    exact ⟨⟨post, rfl⟩, hwf, hinc, rfl⟩
  · rintro ⟨⟨post, rfl⟩, hwf, hinc, rfl⟩
    rw [(parseEntry_eq_ok hmax).mpr ⟨⟨post, rfl⟩, hwf, hinc, rfl⟩, ok_bind]
    rw [List.length_append] at hmax
    simp only [addUsize_of_lt (show pre.length + e.layout.length < usizeSize by omega), ok_bind,
      pure_eq]

/-- The concatenated layouts of a list of entries. -/
def entriesLayout (es : List AuthenticatorEntry) : Bytes :=
  es.flatMap AuthenticatorEntry.layout

/-- The entries a state body consists of. -/
abbrev EntriesFrom (prev : Option UInt16) (body : Bytes) (es : List AuthenticatorEntry) :
    Prop :=
  RecordsFrom AuthenticatorEntry.slot AuthenticatorEntry.layout AuthenticatorEntry.WellFormed
    prev body es

/-- **`parse_authenticators` is a fold over the entries** of a state that holds
    them, for any callback. -/
theorem parseAuthenticators_of_entries {σ : Type}
    {f : σ → AuthenticatorEntry → Outcome ProtocolError σ} {head : Bytes}
    {header : StateHeader} {es : List AuthenticatorEntry} (s : σ) (hhead : head.length = 32)
    (hmax : 32 + (entriesLayout es).length < usizeSize)
    (hes : EntriesFrom none (entriesLayout es) es)
    (hcount : es.length = header.authenticatorCount.toNat) :
    parseAuthenticators f (head ++ entriesLayout es) header s = visit f es s := by
  have hoff : accountStateHeaderLen = head.length := hhead.symm
  rw [parseAuthenticators, hoff, ← hcount]
  exact readEntry_reads.scan_of_records s .invalidState (by rw [hhead]; exact hmax) hes

/-- **What `parse_authenticators` accepts** on a string cut after the header. -/
theorem parseAuthenticators_eq_ok {σ : Type}
    {f : σ → AuthenticatorEntry → Outcome ProtocolError σ} {head body : Bytes}
    {header : StateHeader} {s s' : σ} (hhead : head.length = 32)
    (hmax : 32 + body.length < usizeSize) :
    parseAuthenticators f (head ++ body) header s = .ok s'
      ↔ ∃ es, EntriesFrom none body es ∧ es.length = header.authenticatorCount.toNat
        ∧ visit f es s = .ok s' := by
  have hoff : accountStateHeaderLen = head.length := hhead.symm
  rw [parseAuthenticators, hoff]
  exact readEntry_reads.scan_eq_ok (by rw [hhead]; exact hmax)

end CkbStateWire
