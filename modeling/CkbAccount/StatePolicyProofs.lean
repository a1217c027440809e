import CkbAccount.StateWireProofs

/-! # The policy `validate_state` enforces

    `validate_state` runs the entry loop with a callback that sums three
    capability weights in `u32`, then compares them with the thresholds.  Three
    steps take it to a statement about natural numbers:

    * `visit_validateEntry`: on at most 16 entries the checked sums never
      overflow, so the callback returns the exact weights (`capWeight`);
    * `ValidState`: the accepted layouts, with the policy written out;
    * `validateState_eq_ok`: `validate_state` accepts exactly those.

    `validateState_decides_documented` then says the same against the rules as the
    specification lists them (`DocumentedState`). -/

namespace CkbStatePolicy

open RustOutcome Outcome LittleEndian RecordLoop CkbProtocol CkbStateWire

/-! ## Capability weights -/

/-- `capabilities & capability != 0`. -/
def holds (e : AuthenticatorEntry) (capability : UInt16) : Bool :=
  e.capabilities &&& capability ≠ 0

/-- The exact total weight of the entries that hold a capability. -/
def capWeight (capability : UInt16) (es : List AuthenticatorEntry) : Nat :=
  ((es.filter (holds · capability)).map (·.weight.toNat)).sum

@[simp] theorem capWeight_nil (capability : UInt16) : capWeight capability [] = 0 := rfl

/-- The weight of one more entry. -/
theorem capWeight_cons (capability : UInt16) (e : AuthenticatorEntry)
    (es : List AuthenticatorEntry) :
    capWeight capability (e :: es)
      = (if holds e capability then e.weight.toNat else 0) + capWeight capability es := by
  unfold capWeight
  rw [List.filter_cons]
  by_cases h : holds e capability
  · rw [if_pos h, if_pos h, List.map_cons, List.sum_cons]
  · rw [if_neg h, if_neg h, Nat.zero_add]

/-- Weights are 16-bit, so a total is bounded by the number of entries. -/
theorem capWeight_le (capability : UInt16) (es : List AuthenticatorEntry) :
    capWeight capability es ≤ es.length * 65535 := by
  induction es with
  | nil => exact Nat.zero_le _
  | cons e es ih =>
      have hw : e.weight.toNat < 2 ^ 16 := e.weight.toNat_lt
      rw [capWeight_cons, List.length_cons, Nat.succ_mul]
      split <;> omega

/-- `u32::checked_add`. -/
def checkedAddU32 (a b : UInt32) : Option UInt32 :=
  if a.toNat + b.toNat < 2 ^ 32 then some (a + b) else none

/-- `checked_add` is the sum. -/
theorem checkedAddU32_eq_some {a b c : UInt32} :
    checkedAddU32 a b = some c ↔ c.toNat = a.toNat + b.toNat := by
  unfold checkedAddU32
  split
  · rename_i h
    rw [Option.some.injEq, ← UInt32.toNat_inj, UInt32.toNat_add, Nat.mod_eq_of_lt h]
    exact eq_comm
  · rename_i h
    have := c.toNat_lt
    constructor
    · intro hc
      cases hc
    · intro hc
      omega

/-- `StateSummary`: the weight that each capability can bring together. -/
structure StateSummary where
  spendWeight : UInt32
  rotateWeight : UInt32
  recoveryWeight : UInt32
  deriving DecidableEq, Repr

/-- `if entry.capabilities & capability != 0 { acc = acc.checked_add(weight)? }`. -/
def addWeight (e : AuthenticatorEntry) (capability : UInt16) (acc : UInt32) :
    Outcome ProtocolError UInt32 :=
  if holds e capability then
    okOr .lengthOverflow (checkedAddU32 acc e.weight.toUInt32)
  else .ok acc

/-- The callback of `validate_state`. -/
def validateEntry (summary : StateSummary) (entry : AuthenticatorEntry) :
    Outcome ProtocolError StateSummary := do
  rejectIf (¬ isSupportedAlgorithm entry.algorithmId) .unsupportedAlgorithm
  rejectIf (entry.keyId.length ≠ 32 ∨ entry.aux.isEmpty) .invalidState
  let spendWeight ← addWeight entry capSpend summary.spendWeight
  let rotateWeight ← addWeight entry capRotate summary.rotateWeight
  let recoveryWeight ← addWeight entry capRecovery summary.recoveryWeight
  return {
    spendWeight := spendWeight
    rotateWeight := rotateWeight
    recoveryWeight := recoveryWeight }

/-- The checks of the callback that do not depend on the running sums. -/
structure Supported (e : AuthenticatorEntry) : Prop where
  algorithm : isSupportedAlgorithm e.algorithmId = true
  keyId : e.keyId.length = 32
  aux : e.aux ≠ []

/-- A checked sum that succeeds is the exact one. -/
theorem addWeight_eq_ok {e : AuthenticatorEntry} {capability : UInt16} {acc acc' : UInt32} :
    addWeight e capability acc = .ok acc'
      ↔ acc'.toNat = acc.toNat + (if holds e capability then e.weight.toNat else 0) := by
  unfold addWeight
  by_cases hh : holds e capability
  · rw [if_pos hh, if_pos hh, okOr_eq_ok, checkedAddU32_eq_some, UInt16.toNat_toUInt32]
  · rw [if_neg hh, if_neg hh, Nat.add_zero, UInt32.toNat_inj, Outcome.ok.injEq]
    exact eq_comm

/-- `s'` is `s` plus the exact weights of `es`. -/
structure Sums (s s' : StateSummary) (es : List AuthenticatorEntry) : Prop where
  spend : s'.spendWeight.toNat = s.spendWeight.toNat + capWeight capSpend es
  rotate : s'.rotateWeight.toNat = s.rotateWeight.toNat + capWeight capRotate es
  recovery : s'.recoveryWeight.toNat = s.recoveryWeight.toNat + capWeight capRecovery es

/-- **An entry is supported and adds its weight.** -/
theorem validateEntry_eq_ok {s s' : StateSummary} {e : AuthenticatorEntry} :
    validateEntry s e = .ok s' ↔ Supported e ∧ Sums s s' [e] := by
  unfold validateEntry
  rw [rejectIf_bind_eq_ok, rejectIf_bind_eq_ok]
  simp only [bind_eq_ok, addWeight_eq_ok, not_not, not_or, pure_eq, Outcome.ok.injEq]
  constructor
  · rintro ⟨halg, ⟨hkey, haux⟩, a, ha, b, hb, c, hc, rfl⟩
    refine ⟨⟨halg, hkey, fun h => haux (by rw [h]; rfl)⟩, ⟨?_, ?_, ?_⟩⟩
    · rw [capWeight_cons, capWeight_nil, Nat.add_zero, ha]
    · rw [capWeight_cons, capWeight_nil, Nat.add_zero, hb]
    · rw [capWeight_cons, capWeight_nil, Nat.add_zero, hc]
  · rintro ⟨⟨halg, hkey, haux⟩, ⟨ha, hb, hc⟩⟩
    rw [capWeight_cons, capWeight_nil, Nat.add_zero] at ha hb hc
    exact ⟨halg, ⟨hkey, fun h => haux (List.isEmpty_iff.mp h)⟩, _, ha, _, hb, _, hc, rfl⟩

/-- Weights of a longer list split off the first entry. -/
theorem capWeight_cons_split (capability : UInt16) (e : AuthenticatorEntry)
    (es : List AuthenticatorEntry) :
    capWeight capability (e :: es) = capWeight capability [e] + capWeight capability es := by
  rw [capWeight_cons, capWeight_cons, capWeight_nil, Nat.add_zero]

/-- **The callback sums exactly**: the fold succeeds with `s'` exactly when every
    entry is supported and `s'` holds the natural-number totals.  The partial sums
    are bounded by the final one, so no step in between can overflow. -/
theorem visit_validateEntry :
    ∀ (es : List AuthenticatorEntry) (s s' : StateSummary),
      visit validateEntry es s = .ok s' ↔ (∀ e ∈ es, Supported e) ∧ Sums s s' es := by
  intro es
  induction es with
  | nil =>
      intro s s'
      rw [visit, Outcome.ok.injEq]
      constructor
      · rintro rfl
        exact ⟨fun _ he => absurd he List.not_mem_nil, ⟨rfl, rfl, rfl⟩⟩
      · rintro ⟨-, h1, h2, h3⟩
        cases s
        cases s'
        rw [StateSummary.mk.injEq, ← UInt32.toNat_inj, ← UInt32.toNat_inj, ← UInt32.toNat_inj]
        exact ⟨h1.symm, h2.symm, h3.symm⟩
  | cons e es ih =>
      intro s s'
      rw [visit, bind_eq_ok]
      constructor
      · rintro ⟨t, ht, hrest⟩
        rw [validateEntry_eq_ok] at ht
        obtain ⟨hsup, hsum⟩ := ht
        rw [ih t s'] at hrest
        obtain ⟨hall, h1, h2, h3⟩ := hrest
        refine ⟨?_, ?_, ?_, ?_⟩
        · intro e' he'
          rcases List.mem_cons.mp he' with rfl | he'
          · exact hsup
          · exact hall e' he'
        · rw [h1, hsum.spend, capWeight_cons_split _ e es, Nat.add_assoc]
        · rw [h2, hsum.rotate, capWeight_cons_split _ e es, Nat.add_assoc]
        · rw [h3, hsum.recovery, capWeight_cons_split _ e es, Nat.add_assoc]
      · rintro ⟨hall, h1, h2, h3⟩
        rw [capWeight_cons_split] at h1 h2 h3
        have b1 := s'.spendWeight.toNat_lt
        have b2 := s'.rotateWeight.toNat_lt
        have b3 := s'.recoveryWeight.toNat_lt
        -- no sum wraps on the way, since the last one does not
        have hsum : Sums s ⟨UInt32.ofNat (s.spendWeight.toNat + capWeight capSpend [e]),
            UInt32.ofNat (s.rotateWeight.toNat + capWeight capRotate [e]),
            UInt32.ofNat (s.recoveryWeight.toNat + capWeight capRecovery [e])⟩ [e] := by
          refine ⟨?_, ?_, ?_⟩
          · exact UInt32.toNat_ofNat_of_lt' (by unfold UInt32.size; omega)
          · exact UInt32.toNat_ofNat_of_lt' (by unfold UInt32.size; omega)
          · exact UInt32.toNat_ofNat_of_lt' (by unfold UInt32.size; omega)
        refine ⟨_, validateEntry_eq_ok.mpr ⟨hall e (List.mem_cons_self ..), hsum⟩, ?_⟩
        rw [ih _ s']
        refine ⟨fun e' he' => hall e' (List.mem_cons_of_mem _ he'), ?_, ?_, ?_⟩
        · rw [h1, hsum.spend, Nat.add_assoc]
        · rw [h2, hsum.rotate, Nat.add_assoc]
        · rw [h3, hsum.recovery, Nat.add_assoc]

/-! ## `validate_state` -/

/-- The sums `validate_state` starts from. -/
def StateSummary.zero : StateSummary :=
  { spendWeight := 0, rotateWeight := 0, recoveryWeight := 0 }

/-- `header.flags & STATE_FLAG_RECOVERY_ENABLED != 0`. -/
def recoveryEnabled (header : StateHeader) : Bool :=
  header.flags &&& stateFlagRecoveryEnabled ≠ 0

/-- `validate_state`. -/
def validateState (state : Bytes) : Outcome ProtocolError (StateHeader × StateSummary) := do
  let header ← StateHeader.parse state
  let summary ← parseAuthenticators validateEntry state header StateSummary.zero
  rejectIf (header.spendThreshold = 0 ∨ header.rotateThreshold = 0
    ∨ header.spendThreshold.toUInt32 > summary.spendWeight
    ∨ header.rotateThreshold.toUInt32 > summary.rotateWeight) .unsatisfiableThreshold
  (if recoveryEnabled header then
    rejectIf (header.recoveryThreshold = 0
      ∨ header.recoveryThreshold.toUInt32 > summary.recoveryWeight) .unsatisfiableThreshold
  else
    rejectIf (header.recoveryThreshold ≠ 0 ∨ header.recoverySince ≠ 0) .invalidState)
  return (header, summary)

/-- The exact capability weights of a list of entries, as the summary holds them. -/
def summaryOf (es : List AuthenticatorEntry) : StateSummary where
  spendWeight := UInt32.ofNat (capWeight capSpend es)
  rotateWeight := UInt32.ofNat (capWeight capRotate es)
  recoveryWeight := UInt32.ofNat (capWeight capRecovery es)

/-- The thresholds of a policy over its entries: spend and rotate are always
    positive and reachable; recovery is so when enabled and blank when not. -/
structure Policy (header : StateHeader) (es : List AuthenticatorEntry) : Prop where
  spend_pos : 0 < header.spendThreshold.toNat
  spend_le : header.spendThreshold.toNat ≤ capWeight capSpend es
  rotate_pos : 0 < header.rotateThreshold.toNat
  rotate_le : header.rotateThreshold.toNat ≤ capWeight capRotate es
  recovery_on : recoveryEnabled header = true →
    0 < header.recoveryThreshold.toNat
      ∧ header.recoveryThreshold.toNat ≤ capWeight capRecovery es
  recovery_off : recoveryEnabled header = false →
    header.recoveryThreshold = 0 ∧ header.recoverySince = 0

/-- The layouts `validate_state` accepts. -/
structure ValidState (state : Bytes) (header : StateHeader) (es : List AuthenticatorEntry) :
    Prop where
  bytes : state = header.layout ++ entriesLayout es
  size : state.length ≤ accountStateMaxLen
  headerOk : header.WellFormed
  count : es.length = header.authenticatorCount.toNat
  wellFormed : ∀ e ∈ es, e.WellFormed
  supported : ∀ e ∈ es, Supported e
  increasing : (es.map AuthenticatorEntry.slot).Pairwise (· < ·)
  policy : Policy header es

/-- A list short enough for a state has exact 32-bit sums. -/
theorem sums_zero_iff {es : List AuthenticatorEntry} (hlen : es.length ≤ 16)
    {s : StateSummary} : Sums StateSummary.zero s es ↔ s = summaryOf es := by
  have bound : ∀ c, capWeight c es < 2 ^ 32 := by
    intro c
    have := capWeight_le c es
    omega
  have exact : ∀ c, (UInt32.ofNat (capWeight c es)).toNat = capWeight c es :=
    fun c => UInt32.toNat_ofNat_of_lt' (bound c)
  constructor
  · rintro ⟨h1, h2, h3⟩
    cases s
    rw [summaryOf, StateSummary.mk.injEq, ← UInt32.toNat_inj, ← UInt32.toNat_inj,
      ← UInt32.toNat_inj, exact, exact, exact]
    have hz : (0 : UInt32).toNat = 0 := rfl
    simp only [StateSummary.zero, hz, Nat.zero_add] at h1 h2 h3
    exact ⟨h1, h2, h3⟩
  · rintro rfl
    refine ⟨?_, ?_, ?_⟩
    · show (UInt32.ofNat _).toNat = 0 + _
      rw [exact, Nat.zero_add]
    · show (UInt32.ofNat _).toNat = 0 + _
      rw [exact, Nat.zero_add]
    · show (UInt32.ofNat _).toNat = 0 + _
      rw [exact, Nat.zero_add]

/-- The threshold checks of `validate_state` on exact sums. -/
theorem thresholds_iff {header : StateHeader} {es : List AuthenticatorEntry}
    (hlen : es.length ≤ 16) :
    ((¬ (header.spendThreshold = 0 ∨ header.rotateThreshold = 0
        ∨ header.spendThreshold.toUInt32 > (summaryOf es).spendWeight
        ∨ header.rotateThreshold.toUInt32 > (summaryOf es).rotateWeight))
      ∧ (recoveryEnabled header = true → ¬ (header.recoveryThreshold = 0
        ∨ header.recoveryThreshold.toUInt32 > (summaryOf es).recoveryWeight))
      ∧ (recoveryEnabled header = false → ¬ (header.recoveryThreshold ≠ 0
        ∨ header.recoverySince ≠ 0)))
      ↔ Policy header es := by
  -- sixteen weights of sixteen bits never wrap a sum of thirty-two
  have exact : ∀ c, (UInt32.ofNat (capWeight c es)).toNat = capWeight c es := by
    intro c
    have := capWeight_le c es
    exact UInt32.toNat_ofNat_of_lt' (by unfold UInt32.size; omega)
  have hpos : ∀ t : UInt16, t ≠ 0 ↔ 0 < t.toNat := by
    intro t
    rw [Nat.pos_iff_ne_zero, ne_eq, ne_eq, ← UInt16.toNat_inj]
    rfl
  have hle : ∀ (t : UInt16) (c : UInt16),
      ¬ t.toUInt32 > UInt32.ofNat (capWeight c es) ↔ t.toNat ≤ capWeight c es := by
    intro t c
    rw [gt_iff_lt, UInt32.lt_iff_toNat_lt, UInt16.toNat_toUInt32, exact, Nat.not_lt]
  simp only [summaryOf, not_or, hle, not_not]
  constructor
  · rintro ⟨⟨h1, h2, h3, h4⟩, h5, h6⟩
    exact ⟨(hpos _).mp h1, h3, (hpos _).mp h2, h4,
      fun h => ⟨(hpos _).mp (h5 h).1, (h5 h).2⟩, h6⟩
  · rintro ⟨h1, h2, h3, h4, h5, h6⟩
    exact ⟨⟨(hpos _).mpr h1, (hpos _).mpr h3, h2, h4⟩,
      fun h => ⟨(hpos _).mpr (h5 h).1, (h5 h).2⟩, h6⟩

/-- **`validate_state` accepts exactly the layouts of valid policies**, and returns
    their header with the exact capability weights. -/
theorem validateState_eq_ok {state : Bytes} {header : StateHeader} {summary : StateSummary} :
    validateState state = .ok (header, summary)
      ↔ ∃ es, ValidState state header es ∧ summary = summaryOf es := by
  -- the last check is one of two, by the recovery flag
  have hbranch : ∀ sm : StateSummary,
      (if recoveryEnabled header then
        rejectIf (header.recoveryThreshold = 0
          ∨ header.recoveryThreshold.toUInt32 > sm.recoveryWeight)
          ProtocolError.unsatisfiableThreshold
      else
        rejectIf (header.recoveryThreshold ≠ 0 ∨ header.recoverySince ≠ 0)
          ProtocolError.invalidState) = .ok ()
      ↔ (recoveryEnabled header = true → ¬ (header.recoveryThreshold = 0
          ∨ header.recoveryThreshold.toUInt32 > sm.recoveryWeight))
        ∧ (recoveryEnabled header = false → ¬ (header.recoveryThreshold ≠ 0
          ∨ header.recoverySince ≠ 0)) := by
    intro sm
    cases hr : recoveryEnabled header with
    | true => simp
    | false => simp
  have hchecks : validateState state = .ok (header, summary)
      ↔ StateHeader.parse state = .ok header
        ∧ parseAuthenticators validateEntry state header StateSummary.zero = .ok summary
        ∧ ¬ (header.spendThreshold = 0 ∨ header.rotateThreshold = 0
          ∨ header.spendThreshold.toUInt32 > summary.spendWeight
          ∨ header.rotateThreshold.toUInt32 > summary.rotateWeight)
        ∧ (recoveryEnabled header = true → ¬ (header.recoveryThreshold = 0
          ∨ header.recoveryThreshold.toUInt32 > summary.recoveryWeight))
        ∧ (recoveryEnabled header = false → ¬ (header.recoveryThreshold ≠ 0
          ∨ header.recoverySince ≠ 0)) := by
    unfold validateState
    constructor
    · intro h
      obtain ⟨hd, hparse, h⟩ := bind_eq_ok.mp h
      obtain ⟨sm, hentries, h⟩ := bind_eq_ok.mp h
      obtain ⟨hthr, h⟩ := rejectIf_bind_eq_ok.mp h
      obtain ⟨hrec, h⟩ := unit_bind_eq_ok.mp h
      cases h
      exact ⟨hparse, hentries, hthr, (hbranch _).mp hrec⟩
    · rintro ⟨hparse, hentries, hthr, hrec⟩
      rw [hparse, ok_bind, hentries, ok_bind, rejectIf_neg hthr, ok_bind,
        (hbranch summary).mpr hrec]
      rfl
  rw [hchecks]
  constructor
  · rintro ⟨hparse, hentries, hthr⟩
    obtain ⟨⟨body, rfl⟩, hwf, hsize⟩ := StateHeader.parse_eq_ok.mp hparse
    have hmax : 32 + body.length < usizeSize := by
      rw [List.length_append, StateHeader.layout_length] at hsize
      unfold accountStateMaxLen at hsize
      unfold usizeSize
      omega
    rw [parseAuthenticators_eq_ok header.layout_length hmax] at hentries
    obtain ⟨es, hes, hcount, hvisit⟩ := hentries
    have hshort : es.length ≤ 16 := by
      rw [hcount]
      exact hwf.count_le
    obtain ⟨hsup, hsums⟩ := (visit_validateEntry es _ _).mp hvisit
    have hsum : summary = summaryOf es := (sums_zero_iff hshort).mp hsums
    subst hsum
    exact ⟨es, ⟨by rw [hes.bytes]; rfl, hsize, hwf, hcount, hes.wellFormed, hsup,
      (increasingFrom_none _).mp hes.increasing, (thresholds_iff hshort).mp hthr⟩, rfl⟩
  · rintro ⟨es, hv, rfl⟩
    have hshort : es.length ≤ 16 := by
      rw [hv.count]
      exact hv.headerOk.count_le
    have hsize := hv.size
    have hmax : 32 + (entriesLayout es).length < usizeSize := by
      rw [hv.bytes, List.length_append, StateHeader.layout_length] at hsize
      unfold accountStateMaxLen at hsize
      unfold usizeSize
      omega
    refine ⟨?_, ?_, (thresholds_iff hshort).mpr hv.policy⟩
    · exact StateHeader.parse_eq_ok.mpr ⟨⟨_, hv.bytes⟩, hv.headerOk, hv.size⟩
    · rw [hv.bytes, parseAuthenticators_eq_ok header.layout_length hmax]
      refine ⟨es, ⟨rfl, hv.wellFormed, (increasingFrom_none _).mpr hv.increasing⟩, hv.count, ?_⟩
      exact (visit_validateEntry es _ _).mpr ⟨hv.supported, (sums_zero_iff hshort).mpr rfl⟩

/-! ## No overflow -/

/-- Room for `n` more weights in each of the three sums. -/
def Room (n : Nat) (s : StateSummary) : Prop :=
  s.spendWeight.toNat + n * 65535 < 2 ^ 32 ∧ s.rotateWeight.toNat + n * 65535 < 2 ^ 32
    ∧ s.recoveryWeight.toNat + n * 65535 < 2 ^ 32

/-- With room for one more weight the checked addition succeeds. -/
theorem addWeight_of_room (e : AuthenticatorEntry) (capability : UInt16) {acc : UInt32}
    (h : acc.toNat + 65535 < 2 ^ 32) : ∃ acc', addWeight e capability acc = .ok acc' := by
  have hw : e.weight.toNat < 2 ^ 16 := e.weight.toNat_lt
  refine ⟨UInt32.ofNat (acc.toNat + (if holds e capability then e.weight.toNat else 0)), ?_⟩
  rw [addWeight_eq_ok]
  refine UInt32.toNat_ofNat_of_lt' ?_
  rw [show UInt32.size = 2 ^ 32 from rfl]
  split <;> omega

theorem validateEntry_ne_lengthOverflow {n : Nat} {s : StateSummary} {e : AuthenticatorEntry}
    (h : Room (n + 1) s) : validateEntry s e ≠ .err .lengthOverflow := by
  obtain ⟨h1, h2, h3⟩ := h
  obtain ⟨a, ha⟩ := addWeight_of_room e capSpend
    (show s.spendWeight.toNat + 65535 < 2 ^ 32 by omega)
  obtain ⟨b, hb⟩ := addWeight_of_room e capRotate
    (show s.rotateWeight.toNat + 65535 < 2 ^ 32 by omega)
  obtain ⟨c, hc⟩ := addWeight_of_room e capRecovery
    (show s.recoveryWeight.toNat + 65535 < 2 ^ 32 by omega)
  rw [validateEntry, ha, ok_bind, hb, ok_bind, hc, ok_bind]
  exact bind_ne_err (rejectIf_ne_err (by decide)) fun _ _ =>
    bind_ne_err (rejectIf_ne_err (by decide)) fun _ _ => by simp

/-- One call uses up the room of one weight. -/
theorem room_of_validateEntry {n : Nat} {s s' : StateSummary} {e : AuthenticatorEntry}
    (h : Room (n + 1) s) (hs' : validateEntry s e = .ok s') : Room n s' := by
  obtain ⟨h1, h2, h3⟩ := h
  obtain ⟨-, hspend, hrotate, hrecovery⟩ := validateEntry_eq_ok.mp hs'
  have b1 := capWeight_le capSpend [e]
  have b2 := capWeight_le capRotate [e]
  have b3 := capWeight_le capRecovery [e]
  rw [List.length_singleton] at b1 b2 b3
  refine ⟨?_, ?_, ?_⟩ <;> omega

/-- **The overflow branches of the summation are dead code**: whatever the bytes, at
    most 16 weights of 16 bits each are added, so `validate_state` never returns the
    error those branches return. -/
theorem validateState_ne_lengthOverflow (state : Bytes) :
    validateState state ≠ .err .lengthOverflow := by
  rw [validateState]
  refine bind_ne_err (StateHeader.parse_ne_lengthOverflow state) fun header hparse => ?_
  have hcount : header.authenticatorCount.toNat ≤ 16 :=
    (StateHeader.parse_eq_ok.mp hparse).2.1.count_le
  have hroom : Room header.authenticatorCount.toNat StateSummary.zero := by
    have hz : (0 : UInt32).toNat = 0 := rfl
    refine ⟨?_, ?_, ?_⟩ <;> simp only [StateSummary.zero, hz] <;> omega
  refine bind_ne_err ?_ fun summary _ => ?_
  · rw [parseAuthenticators, scan]
    refine bind_ne_err ?_ fun _ _ => bind_ne_err (rejectIf_ne_err (by decide)) fun _ _ => by simp
    exact records_ne_err (readEntry_ne_lengthOverflow state)
      (fun n s r h => validateEntry_ne_lengthOverflow h)
      (fun n s r s' h hs' => room_of_validateEntry h hs') _ _ _ _ hroom
  · refine bind_ne_err (rejectIf_ne_err (by decide)) fun _ _ => bind_ne_err ?_ fun _ _ => by simp
    split
    · exact rejectIf_ne_err (by decide)
    · exact rejectIf_ne_err (by decide)

/-! ## The documented policy -/

/-- The policy as the specification words it: `state` is the AccountStateV1 layout of
    the values in `header` and of the authenticators `es`, and these meet every rule. -/
structure DocumentedState (state : Bytes) (header : StateHeader)
    (es : List AuthenticatorEntry) : Prop where
  size : state.length ≤ 16384
  layout : state = header.layout ++ es.flatMap AuthenticatorEntry.layout
  count : header.authenticatorCount.toNat = es.length
  knownFlags : header.flags &&& ~~~(stateFlagRecoveryEnabled ||| stateFlagSessionEnabled) = 0
  atLeastOne : 1 ≤ es.length
  atMost16 : es.length ≤ 16
  slots : (es.map (·.slot)).Pairwise (· < ·)
  weights : ∀ e ∈ es, 1 ≤ e.weight.toNat
  knownCapabilities : ∀ e ∈ es,
    e.capabilities &&& ~~~(capSpend ||| capRotate ||| capRecovery ||| capSessionIssue) = 0
  hashTypes : ∀ e ∈ es, e.verifierHashType = 0 ∨ e.verifierHashType = 1
  abi : ∀ e ∈ es, e.verifierAbi = 1
  algorithms : ∀ e ∈ es, isSupportedAlgorithm e.algorithmId = true
  keyIds : ∀ e ∈ es, e.keyId.length = 32
  auxData : ∀ e ∈ es, e.aux ≠ []
  spend : 0 < header.spendThreshold.toNat
    ∧ header.spendThreshold.toNat ≤ capWeight capSpend es
  rotate : 0 < header.rotateThreshold.toNat
    ∧ header.rotateThreshold.toNat ≤ capWeight capRotate es
  recovery : (header.flags &&& stateFlagRecoveryEnabled ≠ 0
      ∧ 0 < header.recoveryThreshold.toNat
      ∧ header.recoveryThreshold.toNat ≤ capWeight capRecovery es)
    ∨ (header.flags &&& stateFlagRecoveryEnabled = 0
      ∧ header.recoveryThreshold = 0 ∧ header.recoverySince = 0)

/-- An entry of a list takes no more room than the whole list. -/
theorem layout_length_le_of_mem {es : List AuthenticatorEntry} {e : AuthenticatorEntry}
    (he : e ∈ es) : e.layout.length ≤ (entriesLayout es).length := by
  obtain ⟨s, t, rfl⟩ := List.append_of_mem he
  rw [entriesLayout, List.flatMap_append, List.flatMap_cons]
  simp only [List.length_append]
  omega

theorem hashType_le_one_iff (t : UInt8) : t ≤ 1 ↔ t = 0 ∨ t = 1 := by
  rw [UInt8.le_iff_toNat_le, ← UInt8.toNat_inj, ← UInt8.toNat_inj]
  show t.toNat ≤ 1 ↔ t.toNat = 0 ∨ t.toNat = 1
  omega

/-- The parsers' conditions and the documented ones are the same: a state that fits its
    cell has no entry too long for its own length fields. -/
theorem validState_iff_documented {state : Bytes} {header : StateHeader}
    {es : List AuthenticatorEntry} :
    ValidState state header es ↔ DocumentedState state header es := by
  -- the documentation asks for a weight of one at least, the code for a nonzero one
  have hpos : ∀ w : UInt16, w ≠ 0 ↔ 1 ≤ w.toNat := by
    intro w
    rw [Nat.succ_le_iff, Nat.pos_iff_ne_zero, ne_eq, ne_eq, ← UInt16.toNat_inj]
    rfl
  have hflag : recoveryEnabled header = true ↔ header.flags &&& stateFlagRecoveryEnabled ≠ 0 :=
    decide_eq_true_iff
  constructor
  · intro hv
    have hone : 1 ≤ es.length := by
      rw [hv.count]
      have hne := hv.headerOk.count_pos
      rw [ne_eq, ← UInt8.toNat_inj] at hne
      exact Nat.pos_of_ne_zero hne
    have h16 : es.length ≤ 16 := by
      rw [hv.count]
      exact hv.headerOk.count_le
    refine ⟨hv.size, hv.bytes, hv.count.symm, hv.headerOk.flags, hone, h16, hv.increasing,
      fun e he => (hpos _).mp (hv.wellFormed e he).weight_pos,
      fun e he => (hv.wellFormed e he).capabilities,
      fun e he => (hashType_le_one_iff _).mp (hv.wellFormed e he).hashType,
      fun e he => (hv.wellFormed e he).abi, fun e he => (hv.supported e he).algorithm,
      fun e he => (hv.supported e he).keyId, fun e he => (hv.supported e he).aux,
      ⟨hv.policy.spend_pos, hv.policy.spend_le⟩, ⟨hv.policy.rotate_pos, hv.policy.rotate_le⟩, ?_⟩
    cases hr : recoveryEnabled header with
    | true => exact Or.inl ⟨hflag.mp hr, hv.policy.recovery_on hr⟩
    | false =>
        refine Or.inr ⟨?_, hv.policy.recovery_off hr⟩
        by_contra hne
        rw [hflag.mpr hne] at hr
        cases hr
  · intro hd
    -- entries of a documented state are short, since the state is
    have hsize : ∀ e ∈ es, 48 + e.keyId.length + e.aux.length < 2 ^ 16 := by
      intro e he
      have hle := layout_length_le_of_mem he
      have htotal := hd.size
      rw [hd.layout, List.length_append] at htotal
      rw [AuthenticatorEntry.layout_length, entriesLayout] at hle
      omega
    refine ⟨hd.layout, hd.size, ⟨hd.knownFlags, ?_, ?_⟩, hd.count.symm, ?_, ?_, hd.slots, ?_⟩
    · intro hz
      have hcount := hd.count
      rw [hz] at hcount
      have := hd.atLeastOne
      rw [← hcount] at this
      exact absurd this (by decide)
    · rw [hd.count]
      exact hd.atMost16
    · intro e he
      exact ⟨hsize e he, (hpos _).mpr (hd.weights e he), hd.knownCapabilities e he,
        (hashType_le_one_iff _).mpr (hd.hashTypes e he), hd.abi e he⟩
    · intro e he
      exact ⟨hd.algorithms e he, hd.keyIds e he, hd.auxData e he⟩
    · refine ⟨hd.spend.1, hd.spend.2, hd.rotate.1, hd.rotate.2, ?_, ?_⟩
      · intro hr
        rcases hd.recovery with ⟨-, hthr⟩ | ⟨hoff, -⟩
        · exact hthr
        · exact absurd hoff (hflag.mp hr)
      · intro hr
        rcases hd.recovery with ⟨hon, -⟩ | ⟨-, hblank⟩
        · rw [hflag.mpr hon] at hr
          cases hr
        · exact hblank

/-- **`validate_state` decides exactly the documented policy**, for every byte string:
    it accepts the layouts of documented states and nothing else, the weights it
    returns are the natural-number sums, and the overflow branches are never taken. -/
theorem validateState_decides_documented (state : Bytes) :
    ((∃ header summary, validateState state = .ok (header, summary))
        ↔ ∃ header es, DocumentedState state header es)
      ∧ (∀ header summary, validateState state = .ok (header, summary)
        ↔ ∃ es, DocumentedState state header es
          ∧ summary.spendWeight.toNat = capWeight capSpend es
          ∧ summary.rotateWeight.toNat = capWeight capRotate es
          ∧ summary.recoveryWeight.toNat = capWeight capRecovery es)
      ∧ validateState state ≠ .err .lengthOverflow := by
  -- the decision and the sums together; the other parts follow
  have hok : ∀ header summary, validateState state = .ok (header, summary)
      ↔ ∃ es, DocumentedState state header es
        ∧ summary.spendWeight.toNat = capWeight capSpend es
        ∧ summary.rotateWeight.toNat = capWeight capRotate es
        ∧ summary.recoveryWeight.toNat = capWeight capRecovery es := by
    intro header summary
    rw [validateState_eq_ok]
    constructor
    · rintro ⟨es, hv, hsum⟩
      have hd := validState_iff_documented.mp hv
      obtain ⟨h1, h2, h3⟩ := (sums_zero_iff hd.atMost16).mpr hsum
      have hz : (0 : UInt32).toNat = 0 := rfl
      simp only [StateSummary.zero, hz, Nat.zero_add] at h1 h2 h3
      exact ⟨es, hd, h1, h2, h3⟩
    · rintro ⟨es, hd, h1, h2, h3⟩
      refine ⟨es, validState_iff_documented.mpr hd, (sums_zero_iff hd.atMost16).mp ⟨?_, ?_, ?_⟩⟩
      · exact h1.trans (Nat.zero_add _).symm
      · exact h2.trans (Nat.zero_add _).symm
      · exact h3.trans (Nat.zero_add _).symm
  refine ⟨⟨?_, ?_⟩, hok, validateState_ne_lengthOverflow state⟩
  · rintro ⟨header, summary, h⟩
    obtain ⟨es, hd, -⟩ := (hok header summary).mp h
    exact ⟨header, es, hd⟩
  · rintro ⟨header, es, hd⟩
    exact ⟨header, summaryOf es,
      validateState_eq_ok.mpr ⟨es, validState_iff_documented.mpr hd, rfl⟩⟩

/-! ## The entries of a valid state -/

namespace ValidState

variable {state : Bytes} {header : StateHeader} {es es' : List AuthenticatorEntry}

theorem body_lt (hv : ValidState state header es) :
    32 + (entriesLayout es).length < usizeSize := by
  have hsize := hv.size
  rw [hv.bytes, List.length_append, StateHeader.layout_length] at hsize
  unfold accountStateMaxLen at hsize
  unfold usizeSize
  omega

theorem entriesFrom (hv : ValidState state header es) :
    EntriesFrom none (entriesLayout es) es :=
  ⟨rfl, hv.wellFormed, (increasingFrom_none _).mpr hv.increasing⟩

theorem parse (hv : ValidState state header es) : StateHeader.parse state = .ok header :=
  StateHeader.parse_eq_ok.mpr ⟨⟨_, hv.bytes⟩, hv.headerOk, hv.size⟩

/-- The entries take up less than 64 KiB each. -/
theorem sizes (hv : ValidState state header es) :
    ∀ e ∈ es, 48 + e.keyId.length + e.aux.length < 2 ^ 16 :=
  fun e he => (hv.wellFormed e he).size

/-- **A valid state is read in one way only**, and no valid state extends another:
    nothing may follow the last entry. -/
theorem append_unique {header' : StateHeader} {t : Bytes} (hv : ValidState state header es)
    (hv' : ValidState (state ++ t) header' es') : header = header' ∧ es = es' ∧ t = [] := by
  have hbytes := hv'.bytes
  rw [hv.bytes, List.append_assoc] at hbytes
  obtain ⟨hlayout, hrest⟩ := List.append_inj hbytes
    (by rw [StateHeader.layout_length, StateHeader.layout_length])
  have hheader := StateHeader.layout_inj hlayout
  subst hheader
  rw [← List.append_nil (entriesLayout es')] at hrest
  obtain ⟨hes, ht⟩ := AuthenticatorEntry.layout_prefixFree.flatMap_append_inj hv.sizes hv'.sizes
    (by rw [hv.count, hv'.count]) hrest
  exact ⟨rfl, hes, ht⟩

/-- **A state has one reading.** -/
theorem unique {header' : StateHeader} (hv : ValidState state header es)
    (hv' : ValidState state header' es') : header = header' ∧ es = es' := by
  rw [← List.append_nil state] at hv'
  obtain ⟨hheader, hes, -⟩ := hv.append_unique hv'
  exact ⟨hheader, hes⟩

/-- **On a valid state the loop visits exactly the entries**, whatever the callback. -/
theorem parseAuthenticators_eq (hv : ValidState state header es) {σ : Type}
    (f : σ → AuthenticatorEntry → Outcome ProtocolError σ) (s : σ) :
    parseAuthenticators f state header s = visit f es s := by
  rw [hv.bytes]
  exact parseAuthenticators_of_entries s header.layout_length hv.body_lt hv.entriesFrom hv.count

/-- Its entries are collected. -/
theorem collect_eq (hv : ValidState state header es) :
    parseAuthenticators collect state header [] = .ok es := by
  rw [hv.parseAuthenticators_eq, visit_collect, List.nil_append]

/-- Slots of a valid state are pairwise distinct. -/
theorem slots_nodup (hv : ValidState state header es) :
    (es.map AuthenticatorEntry.slot).Nodup :=
  nodup_of_increasing hv.increasing

/-- An entry is determined by its slot. -/
theorem eq_of_slot_eq (hv : ValidState state header es) {a b : AuthenticatorEntry}
    (ha : a ∈ es) (hb : b ∈ es) (h : a.slot = b.slot) : a = b :=
  List.inj_on_of_nodup_map hv.slots_nodup ha hb h

end ValidState

end CkbStatePolicy
