import CkbAccount.RustOutcomeProofs

/-! # Base64url without padding

    The encoding of RFC 4648, section 5, from its text: the bits of the input, the high bit
    of a byte first, in groups of six; zero bits fill up the last group; each group is a
    character of the URL-safe alphabet.

    * `encodeUrl_triple`, `encodeUrl_pair`, `encodeUrl_single`: what three, two and one bytes
      become;
    * `encodeUrl_injective`: no two inputs of one length have one encoding. -/

namespace Base64

open RustOutcome

/-! ## The encoding -/

/-- The bits of a byte, the high one first. -/
def bits (byte : UInt8) : List Bool :=
  [7, 6, 5, 4, 3, 2, 1, 0].map byte.toNat.testBit

/-- The number that bits stand for. -/
def value (bits : List Bool) : Nat := bits.foldl (fun n bit => 2 * n + bit.toNat) 0

/-- Groups of six bits, the last one filled up with zero bits. -/
def sextets : List Bool → List Nat
  | a :: b :: c :: d :: e :: f :: rest => value [a, b, c, d, e, f] :: sextets rest
  | [] => []
  | short => [value (short ++ List.replicate (6 - short.length) false)]

/-- The alphabet: `A` to `Z`, `a` to `z`, `0` to `9`, `-`, `_`. -/
def character (n : Nat) : UInt8 :=
  if n < 26 then UInt8.ofNat (0x41 + n)
  else if n < 52 then UInt8.ofNat (0x61 + (n - 26))
  else if n < 62 then UInt8.ofNat (0x30 + (n - 52))
  else if n = 62 then 0x2d else 0x5f

/-- Base64url without padding. -/
def encodeUrl (input : Bytes) : Bytes := (sextets (input.flatMap bits)).map character

/-! ## Groups of bytes -/

/-- The ends of a byte that a group can take. -/
theorem value_ends : ∀ n : Fin 256,
    value ([7, 6, 5, 4, 3, 2].map n.val.testBit) = n.val / 4
      ∧ value ([1, 0].map n.val.testBit) = n.val % 4
      ∧ value ([7, 6, 5, 4].map n.val.testBit) = n.val / 16
      ∧ value ([3, 2, 1, 0].map n.val.testBit) = n.val % 16
      ∧ value ([7, 6].map n.val.testBit) = n.val / 64
      ∧ value ([5, 4, 3, 2, 1, 0].map n.val.testBit) = n.val % 64 := by
  decide +kernel

theorem value_append (high low : List Bool) :
    value (high ++ low) = value high * 2 ^ low.length + value low := by
  have hfold : ∀ (low : List Bool) (n : Nat),
      low.foldl (fun n bit => 2 * n + bit.toNat) n = n * 2 ^ low.length + value low := by
    intro low
    induction low with
    | nil =>
        intro n
        simp [value]
    | cons bit low ih =>
        intro n
        rw [value, List.foldl_cons, List.foldl_cons, ih, ih (2 * 0 + bit.toNat), List.length_cons,
          Nat.pow_succ, Nat.mul_zero, Nat.zero_add, Nat.add_mul, Nat.add_assoc,
          Nat.mul_comm (2 ^ low.length) 2, Nat.mul_comm 2 n, Nat.mul_assoc]
  rw [value, List.foldl_append, hfold]
  rfl

theorem value_high (a : UInt8) : value ([7, 6, 5, 4, 3, 2].map a.toNat.testBit) = a.toNat / 4 :=
  (value_ends ⟨a.toNat, a.toNat_lt⟩).1

/-- The group between the first and the second byte. -/
theorem value_second (a b : UInt8) :
    value ([1, 0].map a.toNat.testBit ++ [7, 6, 5, 4].map b.toNat.testBit)
      = a.toNat % 4 * 16 + b.toNat / 16 := by
  obtain ⟨-, ha, -⟩ := value_ends ⟨a.toNat, a.toNat_lt⟩
  obtain ⟨-, -, hb, -⟩ := value_ends ⟨b.toNat, b.toNat_lt⟩
  rw [value_append, ha, hb]
  rfl

/-- The group between the second and the third byte. -/
theorem value_third (b c : UInt8) :
    value ([3, 2, 1, 0].map b.toNat.testBit ++ [7, 6].map c.toNat.testBit)
      = b.toNat % 16 * 4 + c.toNat / 64 := by
  obtain ⟨-, -, -, hb, -⟩ := value_ends ⟨b.toNat, b.toNat_lt⟩
  obtain ⟨-, -, -, -, hc, -⟩ := value_ends ⟨c.toNat, c.toNat_lt⟩
  rw [value_append, hb, hc]
  rfl

theorem value_low (c : UInt8) : value ([5, 4, 3, 2, 1, 0].map c.toNat.testBit) = c.toNat % 64 :=
  (value_ends ⟨c.toNat, c.toNat_lt⟩).2.2.2.2.2

/-- **Three bytes are four characters.** -/
theorem encodeUrl_triple (a b c : UInt8) (rest : Bytes) :
    encodeUrl (a :: b :: c :: rest)
      = character (a.toNat / 4) :: character (a.toNat % 4 * 16 + b.toNat / 16)
        :: character (b.toNat % 16 * 4 + c.toNat / 64) :: character (c.toNat % 64)
        :: encodeUrl rest := by
  rw [← value_high, ← value_second, ← value_third, ← value_low]
  rfl

/-- Two bytes at the end of an input are three characters: the zero bits are those of a
    third byte zero. -/
theorem encodeUrl_pair (a b : UInt8) :
    encodeUrl [a, b]
      = [character (a.toNat / 4), character (a.toNat % 4 * 16 + b.toNat / 16),
          character (b.toNat % 16 * 4)] := by
  have hlast := value_third b 0
  rw [← value_high, ← value_second, ← Nat.add_zero (b.toNat % 16 * 4)]
  exact congrArg (fun n => [_, _, character n]) hlast

/-- One byte at the end of an input is two characters. -/
theorem encodeUrl_single (a : UInt8) :
    encodeUrl [a] = [character (a.toNat / 4), character (a.toNat % 4 * 16)] := by
  have hlast := value_second a 0
  rw [← value_high, ← Nat.add_zero (a.toNat % 4 * 16)]
  exact congrArg (fun n => [_, character n]) hlast

/-! ## No two inputs have one encoding -/

/-- No character stands for two values. -/
theorem character_injective : ∀ m n : Fin 64, character m.val = character n.val → m = n := by
  decide +kernel

theorem eq_of_character {m n : Nat} (hm : m < 64) (hn : n < 64) (h : character m = character n) :
    m = n :=
  congrArg Fin.val (character_injective ⟨m, hm⟩ ⟨n, hn⟩ h)

/-- **Inputs of one length have different encodings.** -/
theorem encodeUrl_injective :
    ∀ x y : Bytes, x.length = y.length → encodeUrl x = encodeUrl y → x = y
  | [], [], _, _ => rfl
  | [a], [a'], _, h => by
      rw [encodeUrl_single, encodeUrl_single, List.cons.injEq, List.cons.injEq] at h
      have ha := a.toNat_lt
      have ha' := a'.toNat_lt
      -- two characters carry the eight bits of one byte
      have h₁ := eq_of_character (by omega) (by omega) h.1
      have h₂ := eq_of_character (by omega) (by omega) h.2.1
      rw [UInt8.toNat_inj.mp (show a.toNat = a'.toNat by omega)]
  | [a, b], [a', b'], _, h => by
      rw [encodeUrl_pair, encodeUrl_pair, List.cons.injEq, List.cons.injEq, List.cons.injEq] at h
      have ha := a.toNat_lt
      have ha' := a'.toNat_lt
      have hb := b.toNat_lt
      have hb' := b'.toNat_lt
      have h₁ := eq_of_character (by omega) (by omega) h.1
      have h₂ := eq_of_character (by omega) (by omega) h.2.1
      have h₃ := eq_of_character (by omega) (by omega) h.2.2.1
      rw [UInt8.toNat_inj.mp (show a.toNat = a'.toNat by omega),
        UInt8.toNat_inj.mp (show b.toNat = b'.toNat by omega)]
  | a :: b :: c :: x, a' :: b' :: c' :: y, hlen, h => by
      rw [encodeUrl_triple, encodeUrl_triple, List.cons.injEq, List.cons.injEq, List.cons.injEq,
        List.cons.injEq] at h
      have ha := a.toNat_lt
      have ha' := a'.toNat_lt
      have hb := b.toNat_lt
      have hb' := b'.toNat_lt
      have hc := c.toNat_lt
      have hc' := c'.toNat_lt
      -- four characters carry the bits of three bytes, the rest by recursion
      have h₁ := eq_of_character (by omega) (by omega) h.1
      have h₂ := eq_of_character (by omega) (by omega) h.2.1
      have h₃ := eq_of_character (by omega) (by omega) h.2.2.1
      have h₄ := eq_of_character (by omega) (by omega) h.2.2.2.1
      rw [UInt8.toNat_inj.mp (show a.toNat = a'.toNat by omega),
        UInt8.toNat_inj.mp (show b.toNat = b'.toNat by omega),
        UInt8.toNat_inj.mp (show c.toNat = c'.toNat by omega),
        encodeUrl_injective x y (by simpa using hlen) h.2.2.2.2]

end Base64
