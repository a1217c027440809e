import CkbAccount.StatePolicyProofs

/-! # The host's state encoder

    `encode_state` of `crates/host/src/lib.rs` writes the header and the entries
    and then validates its own output.  Its success set is exactly the valid
    layouts (`encodeState_eq_ok`), and `decodeState`, the state read off the parsed
    header and entries, is its inverse on every byte string `validate_state`
    accepts: the format has one encoding per state. -/

namespace CkbHostState

open RustOutcome Outcome LittleEndian RecordLoop CkbProtocol CkbStateWire CkbStatePolicy

/-- `Authenticator`. -/
structure Authenticator where
  slot : UInt16
  algorithmId : UInt16
  capabilities : UInt16
  weight : UInt16
  verifierHashType : UInt8
  verifierAbi : UInt8
  verifierCodeHash : Byte32
  keyId : Byte32
  aux : Bytes
  deriving DecidableEq, Repr

/-- `AccountState`. -/
structure AccountState where
  flags : UInt8
  sequence : UInt64
  spendThreshold : UInt16
  rotateThreshold : UInt16
  recoveryThreshold : UInt16
  recoverySince : UInt64
  authenticators : List Authenticator
  deriving DecidableEq, Repr

/-- `u16_len`. -/
def u16Len (value : Nat) : Outcome ProtocolError UInt16 :=
  if value < 2 ^ 16 then .ok (UInt16.ofNat value) else .err .lengthOverflow

/-- `48 + key_id.len() + aux.len()`, checked. -/
def entryLen (auth : Authenticator) : Outcome ProtocolError Nat :=
  okOr .lengthOverflow
    ((checkedAdd 48 auth.keyId.val.length).bind (fun v => checkedAdd v auth.aux.length))

/-- The `try_fold` that sums the capacity. -/
def addCapacity : List Authenticator → Nat → Outcome ProtocolError Nat
  | [], sum => .ok sum
  | auth :: rest, sum => do
      let sum' ← okOr .lengthOverflow
        (((checkedAdd sum 48).bind (fun v => checkedAdd v auth.keyId.val.length)).bind
          (fun v => checkedAdd v auth.aux.length))
      addCapacity rest sum'

/-- The body of the `for auth in &state.authenticators` loop. -/
def pushEntry (out : Bytes) (auth : Authenticator) : Outcome ProtocolError Bytes := do
  let len ← u16Len (← entryLen auth)
  let out := out ++ u16Le len
  let out := out ++ u16Le auth.slot
  let out := out ++ u16Le auth.algorithmId
  let out := out ++ u16Le auth.capabilities
  let out := out ++ u16Le auth.weight
  let out := out ++ [auth.verifierHashType]
  let out := out ++ [auth.verifierAbi]
  let out := out ++ auth.verifierCodeHash.val
  let out := out ++ u16Le (← u16Len auth.keyId.val.length)
  let out := out ++ u16Le (← u16Len auth.aux.length)
  return out ++ auth.keyId.val ++ auth.aux

/-- The loop over the authenticators of `encode_state`. -/
def pushEntries : List Authenticator → Bytes → Outcome ProtocolError Bytes
  | [], out => .ok out
  | auth :: rest, out => pushEntry out auth >>= pushEntries rest

/-- `encode_state`. -/
def encodeState (state : AccountState) : Outcome ProtocolError Bytes := do
  rejectIf (¬ state.authenticators.length < 256) .invalidState
  let count := UInt8.ofNat state.authenticators.length
  let capacity ← okOr .lengthOverflow
    (checkedAdd accountStateHeaderLen (← addCapacity state.authenticators 0))
  rejectIf (capacity > accountStateMaxLen) .invalidState
  let out := accountStateMagic
  let out := out ++ [accountStateVersion]
  let out := out ++ [state.flags]
  let out := out ++ u16Le (UInt16.ofNat accountStateHeaderLen)
  let out := out ++ u64Le state.sequence
  let out := out ++ u16Le state.spendThreshold
  let out := out ++ u16Le state.rotateThreshold
  let out := out ++ u16Le state.recoveryThreshold
  let out := out ++ [count]
  let out := out ++ [0]
  let out := out ++ u64Le state.recoverySince
  let out ← pushEntries state.authenticators out
  let _ ← validateState out
  return out

/-! ## What the encoder writes -/

/-- The wire entry of a host authenticator. -/
def Authenticator.entry (auth : Authenticator) : AuthenticatorEntry where
  slot := auth.slot
  algorithmId := auth.algorithmId
  capabilities := auth.capabilities
  weight := auth.weight
  verifierHashType := auth.verifierHashType
  verifierAbi := auth.verifierAbi
  verifierCodeHash := auth.verifierCodeHash
  keyId := auth.keyId.val
  aux := auth.aux

/-- The header fields of a host state. -/
def AccountState.header (state : AccountState) : StateHeader where
  flags := state.flags
  sequence := state.sequence
  spendThreshold := state.spendThreshold
  rotateThreshold := state.rotateThreshold
  recoveryThreshold := state.recoveryThreshold
  authenticatorCount := UInt8.ofNat state.authenticators.length
  recoverySince := state.recoverySince

/-- The entries of a host state, in order. -/
def AccountState.entries (state : AccountState) : List AuthenticatorEntry :=
  state.authenticators.map Authenticator.entry

theorem entry_layout_length (auth : Authenticator) :
    auth.entry.layout.length = 80 + auth.aux.length := by
  have h : auth.keyId.val.length = 32 := auth.keyId.property
  rw [AuthenticatorEntry.layout_length]
  show 48 + auth.keyId.val.length + auth.aux.length = 80 + auth.aux.length
  omega

/-- The bytes the entries of a host state take up. -/
def totalLen (auths : List Authenticator) : Nat :=
  (entriesLayout (auths.map Authenticator.entry)).length

theorem totalLen_cons (auth : Authenticator) (rest : List Authenticator) :
    totalLen (auth :: rest) = 80 + auth.aux.length + totalLen rest := by
  show (auth.entry.layout ++ entriesLayout (rest.map Authenticator.entry)).length = _
  rw [List.length_append, entry_layout_length]
  rfl

/-- The capacity is the sum, if it fits. -/
theorem addCapacity_of_lt :
    ∀ (auths : List Authenticator) (sum : Nat), sum + totalLen auths < usizeSize →
      addCapacity auths sum = .ok (sum + totalLen auths) := by
  intro auths
  induction auths with
  | nil => intro sum _; rfl
  | cons auth rest ih =>
      intro sum h
      have hkey : auth.keyId.val.length = 32 := auth.keyId.property
      rw [totalLen_cons] at h ⊢
      rw [addCapacity, checkedAdd_of_lt (by omega), Option.bind_some,
        checkedAdd_of_lt (by omega), Option.bind_some, checkedAdd_of_lt (by omega), okOr_some,
        ok_bind, ih _ (by omega), hkey]
      congr 1
      omega

theorem addCapacity_ok :
    ∀ (auths : List Authenticator) (sum c : Nat), addCapacity auths sum = .ok c →
      c = sum + totalLen auths := by
  intro auths
  induction auths with
  | nil => intro sum c h; cases h; rfl
  | cons auth rest ih =>
      intro sum c h
      have hkey : auth.keyId.val.length = 32 := auth.keyId.property
      rw [addCapacity, bind_eq_ok] at h
      obtain ⟨sum', hsum', h⟩ := h
      rw [okOr_eq_ok, Option.bind_eq_some_iff] at hsum'
      obtain ⟨v, hv, hsum'⟩ := hsum'
      rw [Option.bind_eq_some_iff] at hv
      obtain ⟨w, hw, hv⟩ := hv
      rw [checkedAdd_eq_some] at hw hv hsum'
      rw [ih sum' c h, totalLen_cons]
      omega

theorem u16Len_of_lt {value : Nat} (h : value < 2 ^ 16) :
    u16Len value = .ok (UInt16.ofNat value) := if_pos h

/-- One entry is written as its layout. -/
theorem pushEntry_of_lt (out : Bytes) (auth : Authenticator)
    (h : 80 + auth.aux.length < 2 ^ 16) :
    pushEntry out auth = .ok (out ++ auth.entry.layout) := by
  have hkey : auth.keyId.val.length = 32 := auth.keyId.property
  have hlen : entryLen auth = .ok (48 + 32 + auth.aux.length) := by
    rw [entryLen, hkey, checkedAdd_of_lt (by unfold usizeSize; omega), Option.bind_some,
      checkedAdd_of_lt (by unfold usizeSize; omega), okOr_some]
  rw [pushEntry, hlen, ok_bind, u16Len_of_lt (by omega), ok_bind,
    u16Len_of_lt (by rw [hkey]; omega), ok_bind, u16Len_of_lt (by omega), ok_bind]
  simp only [pure_eq, AuthenticatorEntry.layout, Authenticator.entry, hkey, List.append_assoc,
    List.cons_append, List.nil_append]

/-- The loop writes the concatenated layouts. -/
theorem pushEntries_of_lt :
    ∀ (auths : List Authenticator) (out : Bytes),
      (∀ auth ∈ auths, 80 + auth.aux.length < 2 ^ 16) →
      pushEntries auths out
        = .ok (out ++ entriesLayout (auths.map Authenticator.entry)) := by
  intro auths
  induction auths with
  | nil =>
      intro out _
      rw [pushEntries, List.map_nil, entriesLayout, List.flatMap_nil, List.append_nil]
  | cons auth rest ih =>
      intro out h
      rw [pushEntries, pushEntry_of_lt out auth (h auth (List.mem_cons_self ..)), ok_bind,
        ih _ (fun a ha => h a (List.mem_cons_of_mem _ ha)), List.append_assoc]
      rfl

/-- Every single entry is shorter than all of them. -/
theorem le_totalLen {auth : Authenticator} :
    ∀ {auths : List Authenticator}, auth ∈ auths →
      80 + auth.aux.length ≤ totalLen auths := by
  intro auths
  induction auths with
  | nil => intro h; exact nomatch h
  | cons a rest ih =>
      intro h
      rw [totalLen_cons]
      rcases List.mem_cons.mp h with rfl | h
      · omega
      · have := ih h
        omega

/-- Entries are at least 80 bytes, so a state that fits has few of them. -/
theorem length_le_totalLen :
    ∀ auths : List Authenticator, 80 * auths.length ≤ totalLen auths := by
  intro auths
  induction auths with
  | nil => exact Nat.zero_le _
  | cons a rest ih =>
      rw [totalLen_cons, List.length_cons]
      omega

/-- **What `encode_state` returns**: the layout of its argument, when that layout
    validates. -/
theorem encodeState_eq_ok {state : AccountState} {b : Bytes} :
    encodeState state = .ok b
      ↔ b = state.header.layout ++ entriesLayout state.entries
        ∧ ∃ r, validateState b = .ok r := by
  have hmax : accountStateMaxLen < usizeSize := by decide
  -- inside the size limit every checked step of the encoder succeeds
  have hsmall : accountStateHeaderLen + totalLen state.authenticators ≤ accountStateMaxLen →
      encodeState state = (do
        let _ ← validateState (state.header.layout ++ entriesLayout state.entries)
        return state.header.layout ++ entriesLayout state.entries) := by
    intro hfit
    have hfit' : 32 + totalLen state.authenticators ≤ 16384 := hfit
    have hcount : state.authenticators.length < 256 := by
      have := length_le_totalLen state.authenticators
      omega
    have hentries : ∀ auth ∈ state.authenticators, 80 + auth.aux.length < 2 ^ 16 := by
      intro auth hauth
      have := le_totalLen hauth
      omega
    have hcap : addCapacity state.authenticators 0
        = .ok (totalLen state.authenticators) := by
      rw [addCapacity_of_lt _ _ (by omega), Nat.zero_add]
    rw [encodeState, rejectIf_neg (not_not.mpr hcount), ok_bind, hcap, ok_bind,
      checkedAdd_of_lt (by omega), okOr_some, ok_bind,
      rejectIf_neg (Nat.not_lt.mpr hfit), ok_bind]
    simp only [pushEntries_of_lt _ _ hentries, ok_bind, StateHeader.layout,
      AccountState.header, AccountState.entries, accountStateHeaderLen, List.append_assoc,
      List.cons_append, List.nil_append]
    rfl
  constructor
  · intro h
    have hfit : accountStateHeaderLen + totalLen state.authenticators
        ≤ accountStateMaxLen := by
      unfold encodeState at h
      obtain ⟨-, h⟩ := rejectIf_bind_eq_ok.mp h
      obtain ⟨c, hc, h⟩ := bind_eq_ok.mp h
      obtain ⟨capacity, hcap, h⟩ := bind_eq_ok.mp h
      obtain ⟨hle, -⟩ := rejectIf_bind_eq_ok.mp h
      rw [okOr_eq_ok, checkedAdd_eq_some] at hcap
      have := addCapacity_ok _ _ _ hc
      omega
    rw [hsmall hfit, bind_eq_ok] at h
    obtain ⟨r, hr, h⟩ := h
    cases h
    exact ⟨rfl, r, hr⟩
  · rintro ⟨rfl, ⟨header, summary⟩, hr⟩
    have hfit : accountStateHeaderLen + totalLen state.authenticators
        ≤ accountStateMaxLen := by
      obtain ⟨es, hv, -⟩ := validateState_eq_ok.mp hr
      have hsize := hv.size
      rw [List.length_append, StateHeader.layout_length] at hsize
      exact hsize
    rw [hsmall hfit, hr]
    rfl

/-! ## Reading a state back -/

/-- The host authenticator of a wire entry whose key id is 32 bytes long. -/
def authenticatorOf (e : AuthenticatorEntry) : Outcome ProtocolError Authenticator := do
  let keyId ← toByteArr 32 .invalidState e.keyId
  return {
    slot := e.slot
    algorithmId := e.algorithmId
    capabilities := e.capabilities
    weight := e.weight
    verifierHashType := e.verifierHashType
    verifierAbi := e.verifierAbi
    verifierCodeHash := e.verifierCodeHash
    keyId := keyId
    aux := e.aux }

/-- The loop over the entries of `decode_state`. -/
def authenticatorsOf : List AuthenticatorEntry → Outcome ProtocolError (List Authenticator)
  | [] => .ok []
  | e :: es => do
      let auth ← authenticatorOf e
      let rest ← authenticatorsOf es
      return auth :: rest

/-- The state assembled from the header and the entries the consensus parsers
    return on a byte string `validate_state` accepts. -/
def decodeState (b : Bytes) : Outcome ProtocolError AccountState := do
  let (header, _) ← validateState b
  let entries ← parseAuthenticators collect b header []
  let authenticators ← authenticatorsOf entries
  return {
    flags := header.flags
    sequence := header.sequence
    spendThreshold := header.spendThreshold
    rotateThreshold := header.rotateThreshold
    recoveryThreshold := header.recoveryThreshold
    recoverySince := header.recoverySince
    authenticators := authenticators }

/-- An authenticator is its entry. -/
theorem authenticatorOf_eq_ok {e : AuthenticatorEntry} {auth : Authenticator} :
    authenticatorOf e = .ok auth ↔ e = auth.entry := by
  unfold authenticatorOf
  rw [bind_eq_ok]
  simp only [toByteArr_eq_ok, pure_eq, Outcome.ok.injEq]
  constructor
  · rintro ⟨keyId, hkey, rfl⟩
    cases e
    cases hkey
    rfl
  · rintro rfl
    exact ⟨auth.keyId, rfl, rfl⟩

/-- **So is a list of them.** -/
theorem authenticatorsOf_eq_ok :
    ∀ {es : List AuthenticatorEntry} {auths : List Authenticator},
      authenticatorsOf es = .ok auths ↔ es = auths.map Authenticator.entry := by
  intro es
  induction es with
  | nil =>
      intro auths
      rw [authenticatorsOf, Outcome.ok.injEq]
      constructor
      · rintro rfl
        rfl
      · intro h
        exact (List.map_eq_nil_iff.mp h.symm).symm
  | cons e es ih =>
      intro auths
      rw [authenticatorsOf, bind_eq_ok]
      simp only [bind_eq_ok, authenticatorOf_eq_ok, ih, pure_eq, Outcome.ok.injEq]
      constructor
      · rintro ⟨auth, rfl, rest, rfl, rfl⟩
        rfl
      · intro h
        obtain ⟨auth, rest, rfl, he, hes⟩ := List.map_eq_cons_iff.mp h.symm
        exact ⟨auth, he.symm, rest, hes.symm, rfl⟩

/-- Supported entries carry 32-byte key ids, so they are host authenticators. -/
theorem exists_authenticators {es : List AuthenticatorEntry}
    (h : ∀ e ∈ es, Supported e) :
    ∃ auths : List Authenticator, es = auths.map Authenticator.entry := by
  induction es with
  | nil => exact ⟨[], rfl⟩
  | cons e es ih =>
      obtain ⟨rest, hrest⟩ := ih (fun a ha => h a (List.mem_cons_of_mem _ ha))
      have hkey := (h e (List.mem_cons_self ..)).keyId
      refine ⟨{ e with keyId := ⟨e.keyId, hkey⟩ } :: rest, ?_⟩
      rw [List.map_cons, hrest]
      rfl

/-- **Decoding is the inverse of the layout.** -/
theorem decodeState_eq_ok {b : Bytes} {state : AccountState} :
    decodeState b = .ok state ↔ ValidState b state.header state.entries := by
  constructor
  · intro h
    obtain ⟨⟨header, summary⟩, hvalid, h⟩ := bind_eq_ok.mp h
    obtain ⟨es, hv, -⟩ := validateState_eq_ok.mp hvalid
    obtain ⟨entries, hentries, h⟩ := bind_eq_ok.mp h
    rw [hv.collect_eq] at hentries
    cases hentries
    obtain ⟨auths, hauths, h⟩ := bind_eq_ok.mp h
    rw [authenticatorsOf_eq_ok] at hauths
    cases h
    subst hauths
    -- the count is not stored apart: it is the number of authenticators
    have hheader : AccountState.header ⟨header.flags, header.sequence, header.spendThreshold,
        header.rotateThreshold, header.recoveryThreshold, header.recoverySince, auths⟩
        = header := by
      have hcount : UInt8.ofNat auths.length = header.authenticatorCount := by
        rw [← List.length_map (f := Authenticator.entry), hv.count, UInt8.ofNat_toNat]
      cases header
      simp only [AccountState.header] at hcount ⊢
      rw [hcount]
    rw [hheader]
    exact hv
  · intro hv
    have hvalid : validateState b = .ok (state.header, summaryOf state.entries) :=
      validateState_eq_ok.mpr ⟨_, hv, rfl⟩
    have hauths : authenticatorsOf state.entries = .ok state.authenticators :=
      authenticatorsOf_eq_ok.mpr rfl
    rw [decodeState, hvalid, ok_bind]
    simp only [hv.collect_eq, ok_bind, hauths]
    rfl

/-- A layout that validates is read back as what it was written from. -/
theorem validState_of_layout {state : AccountState} {header : StateHeader}
    {es : List AuthenticatorEntry}
    (hv : ValidState (state.header.layout ++ entriesLayout state.entries) header es) :
    ValidState (state.header.layout ++ entriesLayout state.entries) state.header
      state.entries := by
  have hsize := hv.size
  rw [List.length_append, StateHeader.layout_length] at hsize
  have htotal : totalLen state.authenticators ≤ 16352 := by
    have : 32 + totalLen state.authenticators ≤ 16384 := hsize
    omega
  obtain ⟨hlayout, hrest⟩ := List.append_inj hv.bytes
    (by rw [StateHeader.layout_length, StateHeader.layout_length])
  have hheader := StateHeader.layout_inj hlayout
  subst hheader
  have hsmall : ∀ e ∈ state.entries, 48 + e.keyId.length + e.aux.length < 2 ^ 16 := by
    intro e he
    obtain ⟨auth, hauth, rfl⟩ := List.mem_map.mp he
    have := le_totalLen hauth
    rw [← AuthenticatorEntry.layout_length, entry_layout_length]
    omega
  have hcount : state.entries.length = es.length := by
    have := length_le_totalLen state.authenticators
    rw [hv.count, AccountState.entries, List.length_map]
    exact (UInt8.toNat_ofNat_of_lt' (by unfold UInt8.size; omega)).symm
  have heq : entriesLayout state.entries ++ [] = entriesLayout es ++ [] := by rw [hrest]
  obtain ⟨hes, -⟩ := AuthenticatorEntry.layout_prefixFree.flatMap_append_inj hsmall hv.sizes
    hcount heq
  rw [hes] at hv ⊢
  exact hv

/-- Encoding and decoding are inverse relations. -/
theorem encodeState_eq_ok_iff_decodeState {state : AccountState} {b : Bytes} :
    encodeState state = .ok b ↔ decodeState b = .ok state := by
  rw [encodeState_eq_ok, decodeState_eq_ok]
  constructor
  · rintro ⟨rfl, ⟨header, summary⟩, hvalid⟩
    obtain ⟨es, hv, -⟩ := validateState_eq_ok.mp hvalid
    exact validState_of_layout hv
  · intro hv
    exact ⟨hv.bytes, _, validateState_eq_ok.mpr ⟨_, hv, rfl⟩⟩

/-- Every accepted byte string decodes. -/
theorem decodeState_of_validateState {b : Bytes} {r : StateHeader × StateSummary}
    (h : validateState b = .ok r) : ∃ state, decodeState b = .ok state := by
  obtain ⟨header, summary⟩ := r
  obtain ⟨es, hv, -⟩ := validateState_eq_ok.mp h
  obtain ⟨auths, rfl⟩ := exists_authenticators hv.supported
  refine ⟨⟨header.flags, header.sequence, header.spendThreshold, header.rotateThreshold,
    header.recoveryThreshold, header.recoverySince, auths⟩, ?_⟩
  rw [decodeState, h, ok_bind]
  simp only [hv.collect_eq, ok_bind, authenticatorsOf_eq_ok.mpr rfl]
  rfl

/-- **AccountStateV1 is a canonical format.**  What the host encodes, the consensus
    parsers return field for field and entry by entry; what `validate_state`
    accepts, the host re-encodes to the same bytes; hence decoding is injective and
    no accepted string can be extended. -/
theorem accountState_canonical :
    (∀ (state : AccountState) (b : Bytes), encodeState state = .ok b →
      StateHeader.parse b = .ok state.header
      ∧ state.header.authenticatorCount.toNat = state.authenticators.length
      ∧ ∀ (σ : Type) (f : σ → AuthenticatorEntry → Outcome ProtocolError σ) (s : σ),
          parseAuthenticators f b state.header s = visit f state.entries s)
    ∧ (∀ (b : Bytes) (r : StateHeader × StateSummary), validateState b = .ok r →
      ∃ state, decodeState b = .ok state ∧ encodeState state = .ok b)
    ∧ (∀ (b b' : Bytes) (state : AccountState),
      decodeState b = .ok state → decodeState b' = .ok state → b = b')
    ∧ (∀ (b t : Bytes) (r r' : StateHeader × StateSummary),
      validateState b = .ok r → validateState (b ++ t) = .ok r' → t = []) := by
  refine ⟨?_, ?_, ?_, ?_⟩
  · intro state b h
    rw [encodeState_eq_ok_iff_decodeState, decodeState_eq_ok] at h
    refine ⟨h.parse, ?_, fun σ f s => h.parseAuthenticators_eq f s⟩
    rw [← h.count]
    exact List.length_map ..
  · intro b r h
    obtain ⟨state, hstate⟩ := decodeState_of_validateState h
    exact ⟨state, hstate, encodeState_eq_ok_iff_decodeState.mpr hstate⟩
  · intro b b' state h h'
    rw [decodeState_eq_ok] at h h'
    rw [h.bytes, h'.bytes]
  · intro b t r r' h h'
    obtain ⟨es, hv, -⟩ := validateState_eq_ok.mp h
    obtain ⟨es', hv', -⟩ := validateState_eq_ok.mp h'
    exact (hv.append_unique hv').2.2

/-- A single-key account as the host builds it. -/
def soleAccount : AccountState where
  flags := 0
  sequence := 9
  spendThreshold := 1
  rotateThreshold := 1
  recoveryThreshold := 0
  recoverySince := 0
  authenticators := [{
    slot := 1
    algorithmId := algMldsa65
    capabilities := capSpend ||| capRotate
    weight := 1
    verifierHashType := 0
    verifierAbi := verifierAbiV1
    verifierCodeHash := filled32 2
    keyId := filled32 3
    aux := [1] }]

/-- The format at a concrete account: 113 bytes, read back and re-encoded. -/
theorem soleAccount_canonical :
    ∃ b, encodeState soleAccount = .ok b ∧ b.length = 113
      ∧ StateHeader.parse b = .ok soleAccount.header
      ∧ ∃ state, decodeState b = .ok state ∧ encodeState state = .ok b := by
  have henc : encodeState soleAccount
      = .ok (soleAccount.header.layout ++ entriesLayout soleAccount.entries) := by
    decide +kernel
  have hread := (accountState_canonical.1 _ _ henc).1
  obtain ⟨r, hr⟩ : ∃ r, validateState (soleAccount.header.layout
      ++ entriesLayout soleAccount.entries) = .ok r := by
    obtain hv := decodeState_eq_ok.mp (encodeState_eq_ok_iff_decodeState.mp henc)
    exact ⟨_, validateState_eq_ok.mpr ⟨_, hv, rfl⟩⟩
  exact ⟨_, henc, by decide +kernel, hread, accountState_canonical.2.1 _ r hr⟩

end CkbHostState
