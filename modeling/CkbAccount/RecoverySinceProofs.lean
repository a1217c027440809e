import CkbAccount.AuthorizationProofs

/-! # The recovery delay

    `validate_transition` compares the `since` of the state input with the state's
    `recovery_since` as raw 64-bit numbers.  `since` is a tagged encoding (a relative
    flag, a metric, a value), so the raw order is not the order of maturity.  This
    file states the consensus rule for `since` and says for exactly which encodings an
    accepted recovery cannot mature before the configured block. -/

namespace CkbRecoverySince

open RustOutcome Outcome CkbProtocol CkbStateWire CkbStatePolicy CkbTransaction
open CkbAccountLock CkbAuthorization

/-! ## The consensus rule -/

/-- Bit 63: counted from the block of the consumed cell. -/
def isRelative (since : UInt64) : Prop := 2 ^ 63 ≤ since.toNat

instance (since : UInt64) : Decidable (isRelative since) :=
  inferInstanceAs (Decidable (_ ≤ _))

/-- Bits 62 and 61: 0 for block numbers, 1 for epochs, 2 for timestamps. -/
def metric (since : UInt64) : Nat := since.toNat / 2 ^ 61 % 4

/-- The low 56 bits. -/
def value (since : UInt64) : Nat := since.toNat % 2 ^ 56

/-- The encodings consensus admits: metric 3 is unused and bits 60 to 56 are zero. -/
def WellFormed (since : UInt64) : Prop :=
  metric since ≠ 3 ∧ since.toNat / 2 ^ 56 % 32 = 0

instance (since : UInt64) : Decidable (WellFormed since) :=
  inferInstanceAs (Decidable (_ ∧ _))

/-- Whether a `since` is satisfied at height `h`, for a cell committed at height `c`.
    Epochs and timestamps follow the chain's `calendar`. -/
def Satisfied (calendar : UInt64 → Nat → Nat → Prop) (since : UInt64) (c h : Nat) : Prop :=
  WellFormed since
    ∧ (metric since = 0 → if isRelative since then c + value since ≤ h else value since ≤ h)
    ∧ (metric since ≠ 0 → calendar since c h)

/-- The encodings that mature no earlier than block `r`: those consensus rejects,
    absolute block numbers, relative block numbers that reach `r`, and epochs or
    timestamps the calendar does not let through below `r`. -/
def NeverEarly (calendar : UInt64 → Nat → Nat → Prop) (r : Nat) (since : UInt64) (c : Nat) :
    Prop :=
  ¬ WellFormed since
    ∨ (metric since = 0 ∧ ¬ isRelative since)
    ∨ (metric since = 0 ∧ isRelative since ∧ r ≤ c + value since)
    ∨ (metric since ≠ 0 ∧ ∀ h, calendar since c h → r ≤ h)

/-- A well-formed absolute block number is its own encoding. -/
theorem value_of_absolute {since : UInt64} (hwf : WellFormed since) (hmetric : metric since = 0)
    (habs : ¬ isRelative since) : value since = since.toNat := by
  unfold WellFormed at hwf
  unfold metric at hmetric
  unfold isRelative at habs
  unfold value
  omega

/-! ## The check -/

/-- What acceptance of a recovery says about the `since` of the state input. -/
theorem recoverySince_le_of_accepted {env : Env} {resolved : ResolvedState}
    {header : StateHeader} {index : Nat} {input : Input}
    (hindex : resolved.stateInput = some index) (hinput : env.tx.inputs[index]? = some input)
    (h : validateTransition env opRecovery resolved header = .ok ()) :
    header.recoverySince.toNat ≤ input.since.toNat := by
  obtain ⟨-, hrec⟩ := (validateTransition_eq_ok (by decide)).mp h
  obtain ⟨-, i, inp, hi, hinp, hle⟩ := checkRecovery_eq_ok.mp (hrec rfl)
  rw [hindex] at hi
  cases hi
  rw [hinput] at hinp
  cases hinp
  exact UInt64.le_iff_toNat_le.mp hle

/-- **When an accepted recovery cannot be premature.**  For a state whose delay is a
    plain block number and an accepted state input, every height at which consensus
    lets the input through is at least the delay exactly when the encoding never
    matures early. -/
theorem recovery_not_premature_iff (calendar : UInt64 → Nat → Nat → Prop) (env : Env)
    (resolved : ResolvedState) (header : StateHeader) (index : Nat) (input : Input) (c : Nat)
    (hindex : resolved.stateInput = some index) (hinput : env.tx.inputs[index]? = some input)
    (haccept : validateTransition env opRecovery resolved header = .ok ()) :
    (∀ h, Satisfied calendar input.since c h → header.recoverySince.toNat ≤ h)
      ↔ NeverEarly calendar header.recoverySince.toNat input.since c := by
  have hle := recoverySince_le_of_accepted hindex hinput haccept
  unfold NeverEarly
  constructor
  · intro hall
    by_cases hwf : WellFormed input.since
    · -- each metric has its own disjunct; a malformed value is never satisfied
      right
      by_cases hmetric : metric input.since = 0
      · by_cases hrel : isRelative input.since
        · refine Or.inr (Or.inl ⟨hmetric, hrel, hall _ ⟨hwf, fun _ => ?_, ?_⟩⟩)
          · rw [if_pos hrel]
          · exact fun hne => absurd hmetric hne
        · exact Or.inl ⟨hmetric, hrel⟩
      · refine Or.inr (Or.inr ⟨hmetric, fun h hcal => hall h ⟨hwf, ?_, fun _ => hcal⟩⟩)
        exact fun heq => absurd heq hmetric
    · exact Or.inl hwf
  · rintro hcases h ⟨hwf, hblocks, hother⟩
    rcases hcases with hbad | ⟨hmetric, habs⟩ | ⟨hmetric, hrel, hreach⟩ | ⟨hmetric, hcal⟩
    · exact absurd hwf hbad
    · -- an absolute block number is compared as a raw value, which is right here
      have hreached := hblocks hmetric
      rw [if_neg habs, value_of_absolute hwf hmetric habs] at hreached
      exact Nat.le_trans hle hreached
    · have hreached := hblocks hmetric
      rw [if_pos hrel] at hreached
      exact Nat.le_trans hreach hreached
    · exact hcal h (hother hmetric)

/-! ## At the sample account -/

/-- What `resolve_state` returns on the sample recovery. -/
def recoverResolved : ResolvedState where
  current := sampleState 0
  successor := some (sampleState 1)
  stateInput := some 0

/-- An absolute block number is safe: block 100 is not reached before block 100. -/
theorem recoverEnv_absolute_not_premature :
    validateTransition (recoverEnv 100) opRecovery recoverResolved (sampleHeader 0) = .ok ()
      ∧ ∀ h, Satisfied (fun _ _ _ => True) 100 7 h → 100 ≤ h := by
  have haccept : validateTransition (recoverEnv 100) opRecovery recoverResolved (sampleHeader 0)
      = .ok () := by decide +kernel
  exact ⟨haccept, (recovery_not_premature_iff (fun _ _ _ => True) (recoverEnv 100)
    recoverResolved (sampleHeader 0) 0 { cell := sampleCell 0 sampleLock, since := 100 } 7
    rfl rfl haccept).mpr (Or.inr (Or.inl (by decide)))⟩

/-- **A premature recovery**: "zero blocks after the cell" encodes as `2^63`, which is
    raw-greater than block 100.  A state cell committed at block 10 can be recovered
    in block 10. -/
theorem recoverEnv_premature :
    run sampleHash (recoverEnv 0x8000000000000000) = .ok ()
      ∧ validateTransition (recoverEnv 0x8000000000000000) opRecovery recoverResolved
        (sampleHeader 0) = .ok ()
      ∧ (sampleHeader 0).recoverySince.toNat = 100
      ∧ Satisfied (fun _ _ _ => True) 0x8000000000000000 10 10
      ∧ ¬ (100 ≤ 10) := by
  refine ⟨by decide +kernel, by decide +kernel, rfl,
    ⟨by decide, fun _ => ?_, fun h => absurd h (by decide)⟩, by decide⟩
  rw [if_pos (by decide)]
  decide

end CkbRecoverySince
