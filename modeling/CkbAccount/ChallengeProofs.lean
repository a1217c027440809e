import CkbAccount.Base64Proofs
import CkbAccount.ClientGrammarProofs

/-! # What a signed client data authorizes

    The challenge member holds the base64url text of the digest that was to be signed.

    * `base64urlDigest_eq`: `base64url_digest` is the encoding of RFC 4648 without padding;
    * `clientData_binds`: one client data passes with one digest and one origin only. -/

namespace CkbChallenge

open RustOutcome CkbProtocol CkbClientData CkbClientGrammar

/-! ## The shifts and masks of `base64url_digest` -/

theorem triple_toNat (a b c : UInt8) :
    (triple a b c).toNat = a.toNat * 65536 + b.toNat * 256 + c.toNat := by
  have ha := a.toNat_lt
  have hb := b.toNat_lt
  have hc := c.toNat_lt
  have hhigh : a.toNat * 65536 ||| b.toNat * 256 = a.toNat * 65536 + b.toNat * 256 := by
    have hshift : a.toNat <<< 16 = a.toNat * 65536 := by
      rw [Nat.shiftLeft_eq]
    have hlt : b.toNat * 256 < 2 ^ 16 := by omega
    rw [← hshift]
    exact (Nat.shiftLeft_add_eq_or_of_lt hlt _).symm
  have hlow : (a.toNat * 65536 + b.toNat * 256) ||| c.toNat
      = a.toNat * 65536 + b.toNat * 256 + c.toNat := by
    have hshift : (a.toNat * 256 + b.toNat) <<< 8 = a.toNat * 65536 + b.toNat * 256 := by
      rw [Nat.shiftLeft_eq]
      omega
    rw [← hshift]
    exact (Nat.shiftLeft_add_eq_or_of_lt hc _).symm
  have ha16 : a.toNat <<< 16 % 2 ^ 32 = a.toNat * 65536 := by
    rw [Nat.shiftLeft_eq]
    omega
  have hb8 : b.toNat <<< 8 % 2 ^ 32 = b.toNat * 256 := by
    rw [Nat.shiftLeft_eq]
    omega
  rw [triple, UInt32.toNat_or, UInt32.toNat_or, UInt32.toNat_shiftLeft, UInt32.toNat_shiftLeft,
    UInt8.toNat_toUInt32, UInt8.toNat_toUInt32, UInt8.toNat_toUInt32]
  show (a.toNat <<< 16 % 2 ^ 32 ||| b.toNat <<< 8 % 2 ^ 32) ||| c.toNat = _
  rw [ha16, hb8, hhigh, hlow]

/-- The table is the alphabet. -/
theorem table_eq : ∀ n : Fin 64, base64urlTable.getD n.val 0 = Base64.character n.val := by
  decide +kernel

/-- A group of six bits of the three bytes. -/
theorem sextet_eq {shift : UInt32} (hshift : shift < 32) (value : UInt32) :
    sextet value shift = Base64.character (value.toNat / 2 ^ shift.toNat % 64) := by
  have hgroup : ((value >>> shift) &&& 63).toNat = value.toNat / 2 ^ shift.toNat % 64 := by
    rw [UInt32.toNat_and, UInt32.toNat_shiftRight,
      Nat.mod_eq_of_lt (show shift.toNat < 32 from hshift), Nat.shiftRight_eq_div_pow]
    exact Nat.and_two_pow_sub_one_eq_mod _ 6
  have hlt : value.toNat / 2 ^ shift.toNat % 64 < 64 := Nat.mod_lt _ (by decide)
  rw [sextet, hgroup]
  exact table_eq ⟨_, hlt⟩

/-- The four groups of three bytes. -/
theorem sextets_eq (a b c : UInt8) :
    sextet (triple a b c) 18 = Base64.character (a.toNat / 4)
      ∧ sextet (triple a b c) 12 = Base64.character (a.toNat % 4 * 16 + b.toNat / 16)
      ∧ sextet (triple a b c) 6 = Base64.character (b.toNat % 16 * 4 + c.toNat / 64)
      ∧ sextet (triple a b c) 0 = Base64.character (c.toNat % 64) := by
  have ha := a.toNat_lt
  have hb := b.toNat_lt
  have hc := c.toNat_lt
  rw [sextet_eq (by decide), sextet_eq (by decide), sextet_eq (by decide), sextet_eq (by decide),
    triple_toNat]
  refine ⟨congrArg _ ?_, congrArg _ ?_, congrArg _ ?_, congrArg _ ?_⟩
  · show _ / 2 ^ 18 % 64 = _
    omega
  · show _ / 2 ^ 12 % 64 = _
    omega
  · show _ / 2 ^ 6 % 64 = _
    omega
  · show _ / 2 ^ 0 % 64 = _
    omega

/-- **The loop of `base64url_digest`** is the encoding, where its tail of two bytes is the
    right one. -/
theorem base64urlLoop_eq : ∀ input : Bytes, input.length % 3 ≠ 1 →
    base64urlLoop input = Base64.encodeUrl input
  | [], _ => rfl
  | [_], h => absurd rfl h
  | [a, b], _ => by
      obtain ⟨h₁, h₂, h₃, -⟩ := sextets_eq a b 0
      rw [base64urlLoop, Base64.encodeUrl_pair, h₁, h₂, h₃]
      rfl
  | a :: b :: c :: rest, h => by
      obtain ⟨h₁, h₂, h₃, h₄⟩ := sextets_eq a b c
      have hrest : rest.length % 3 ≠ 1 := by
        simp only [List.length_cons] at h
        omega
      rw [base64urlLoop, Base64.encodeUrl_triple, h₁, h₂, h₃, h₄, base64urlLoop_eq rest hrest]

/-- **The challenge is the base64url text of the digest.** -/
theorem base64urlDigest_eq (input : Byte32) :
    base64urlDigest input = Base64.encodeUrl input.val :=
  base64urlLoop_eq input.val (by rw [input.property]; decide)

/-! ## One digest, one origin -/

/-- A key that occurs once has one value. -/
theorem occursOnce_unique {ms : List Member} {key value value' : Bytes}
    (h : OccursOnce ms key value) (h' : OccursOnce ms key value') : value = value' := by
  have heq := h.symm.trans h'
  cases heq
  rfl

/-- **A signed client data authorizes one digest and one origin**: the challenge is the
    base64url text of the digest without padding, and a text accepted for two digests and
    two origins was accepted for one of each. -/
theorem clientData_binds :
    (∀ digest : Byte32, base64urlDigest digest = Base64.encodeUrl digest.val)
      ∧ ∀ (json : Slice) (digest digest' : Byte32) (origin origin' : Bytes),
          validateClientData json.val (base64urlDigest digest) origin = .ok () →
          validateClientData json.val (base64urlDigest digest') origin' = .ok () →
          digest = digest' ∧ origin = origin' := by
  refine ⟨base64urlDigest_eq, ?_⟩
  intro json digest digest' origin origin' h h'
  obtain ⟨ms, comma?, htext⟩ := objectText_of_ok json.property h
  have hchecked := (validateClientData_of_text json.property htext).mp h
  have hchecked' := (validateClientData_of_text json.property htext).mp h'
  have hchallenge := occursOnce_unique hchecked.challenge hchecked'.challenge
  rw [base64urlDigest_eq, base64urlDigest_eq] at hchallenge
  have hlength : digest.val.length = digest'.val.length := by
    rw [digest.property, digest'.property]
  exact ⟨Subtype.ext (Base64.encodeUrl_injective _ _ hlength hchallenge),
    occursOnce_unique hchecked.origin hchecked'.origin⟩

/-- The client data for the digest of zeros and the origin `o`. -/
def zeroClientData : Slice :=
  ⟨[0x7b, 0x22, 0x74, 0x79, 0x70, 0x65, 0x22, 0x3a, 0x22, 0x77, 0x65, 0x62, 0x61, 0x75, 0x74,
   0x68, 0x6e, 0x2e, 0x67, 0x65, 0x74, 0x22, 0x2c, 0x22, 0x63, 0x68, 0x61, 0x6c, 0x6c, 0x65,
   0x6e, 0x67, 0x65, 0x22, 0x3a, 0x22, 0x41, 0x41, 0x41, 0x41, 0x41, 0x41, 0x41, 0x41, 0x41,
   0x41, 0x41, 0x41, 0x41, 0x41, 0x41, 0x41, 0x41, 0x41, 0x41, 0x41, 0x41, 0x41, 0x41, 0x41,
   0x41, 0x41, 0x41, 0x41, 0x41, 0x41, 0x41, 0x41, 0x41, 0x41, 0x41, 0x41, 0x41, 0x41, 0x41,
   0x41, 0x41, 0x41, 0x41, 0x22, 0x2c, 0x22, 0x6f, 0x72, 0x69, 0x67, 0x69, 0x6e, 0x22, 0x3a,
   0x22, 0x6f, 0x22, 0x7d], by decide⟩

theorem clientData_binds_zero :
    validateClientData zeroClientData.val (base64urlDigest (filled32 0)) [0x6f] = .ok ()
      ∧ ∀ digest origin,
          validateClientData zeroClientData.val (base64urlDigest digest) origin = .ok () →
          filled32 0 = digest ∧ [0x6f] = origin := by
  have hzero : validateClientData zeroClientData.val (base64urlDigest (filled32 0)) [0x6f]
      = .ok () := by decide +kernel
  exact ⟨hzero, fun digest origin h => clientData_binds.2 _ _ _ _ _ hzero h⟩

end CkbChallenge
