import CkbAccount.LittleEndianProofs

/-! # Molecule serialization

    The part of the Molecule format the chain's own types are written in:

    * `fixvec`: a vector of bytes, its 32-bit length in front;
    * `table`: the total size, the field offsets, the fields back to back;
    * an absent optional field is an empty field.

    A table of three fields is determined by its bytes (`table_three_inj`), and any
    string with consistent size and offsets is one (`eq_table_three`): the header
    never says more than the field lengths do. -/

namespace Molecule

open RustOutcome Outcome LittleEndian

/-- A 32-bit little-endian number, as Molecule writes sizes and offsets. -/
def number (n : Nat) : Bytes := u32Le (UInt32.ofNat n)

@[simp] theorem number_length (n : Nat) : (number n).length = 4 := u32Le_length _

/-- A number that fits is read back. -/
theorem leValue_number {n : Nat} (h : n < 2 ^ 32) : leValue (number n) = n :=
  leValue_u32Le_ofNat h

theorem number_inj {n m : Nat} (hn : n < 2 ^ 32) (hm : m < 2 ^ 32)
    (h : number n = number m) : n = m := by
  rw [← leValue_number hn, h, leValue_number hm]

/-- The number a four-byte string stands for writes that string. -/
theorem number_leValue {b : Bytes} (h : b.length = 4) : number (leValue b) = b :=
  u32Le_u32FromLe h

/-- A dynamic vector of bytes. -/
def fixvec (b : Bytes) : Bytes := number b.length ++ b

@[simp] theorem fixvec_length (b : Bytes) : (fixvec b).length = 4 + b.length := by
  rw [fixvec, List.length_append, number_length]

/-- A byte vector determines its bytes. -/
theorem fixvec_inj {a b : Bytes} (h : fixvec a = fixvec b) : a = b :=
  (List.append_inj h (by rw [number_length, number_length])).2

/-- An optional field: absent is empty. -/
def optBytes : Option Bytes → Bytes
  | none => []
  | some b => fixvec b

/-- An optional field determines its bytes. -/
theorem optBytes_inj {a b : Option Bytes} (h : optBytes a = optBytes b) : a = b := by
  have hne : ∀ c : Bytes, fixvec c ≠ [] := by
    intro c hc
    have := congrArg List.length hc
    rw [fixvec_length, List.length_nil] at this
    omega
  cases a with
  | none =>
      cases b with
      | none => rfl
      | some b => exact absurd h.symm (hne b)
  | some a =>
      cases b with
      | none => exact absurd h (hne a)
      | some b => rw [fixvec_inj h]

/-! ## Tables -/

/-- The offsets of the fields, the first one at `start`. -/
def offsets : Nat → List Bytes → Bytes
  | _, [] => []
  | start, field :: fields => number start ++ offsets (start + field.length) fields

/-- The size of a table's header. -/
def headerSize (fields : List Bytes) : Nat := 4 + 4 * fields.length

/-- A table: total size, offsets, fields. -/
def table (fields : List Bytes) : Bytes :=
  number (headerSize fields + fields.flatten.length)
    ++ (offsets (headerSize fields) fields ++ fields.flatten)

/-- A table of three fields, written out. -/
theorem table_three (a b c : Bytes) :
    table [a, b, c] = number (16 + (a.length + (b.length + c.length))) ++ (number 16
      ++ (number (16 + a.length) ++ (number (16 + a.length + b.length) ++ (a ++ (b ++ c))))) := by
  simp only [table, headerSize, offsets, List.flatten_cons, List.flatten_nil, List.length_append,
    List.append_nil, List.length_cons, List.length_nil, List.append_assoc]

@[simp] theorem table_three_length (a b c : Bytes) :
    (table [a, b, c]).length = 16 + (a.length + (b.length + c.length)) := by
  rw [table_three]
  simp only [List.length_append, number_length]
  omega

/-- **Three-field tables are canonical**: the fields are determined by the bytes. -/
theorem table_three_inj {a b c a' b' c' : Bytes}
    (hlen : 16 + (a.length + (b.length + c.length)) < 2 ^ 32)
    (h : table [a, b, c] = table [a', b', c']) : a = a' ∧ b = b' ∧ c = c' := by
  have hsize := congrArg List.length h
  rw [table_three_length, table_three_length] at hsize
  rw [table_three, table_three] at h
  obtain ⟨-, h⟩ := List.append_inj h (by simp)
  obtain ⟨-, h⟩ := List.append_inj h (by simp)
  obtain ⟨ha, h⟩ := List.append_inj h (by simp)
  obtain ⟨hb, h⟩ := List.append_inj h (by simp)
  have ha := number_inj (by omega) (by omega) ha
  have hb := number_inj (by omega) (by omega) hb
  obtain ⟨hfirst, h⟩ := List.append_inj h (by omega)
  obtain ⟨hsecond, hthird⟩ := List.append_inj h (by omega)
  exact ⟨hfirst, hsecond, hthird⟩

/-- **Cutting a string at its own offsets**: consistent total and offsets make it a
    table. -/
theorem eq_table_three {total first second third body : Bytes} (htotal : total.length = 4)
    (hfirst : first.length = 4) (hsecond : second.length = 4) (hthird : third.length = 4)
    (hsize : leValue total = 16 + body.length) (h16 : leValue first = 16)
    (h12 : 16 ≤ leValue second) (h23 : leValue second ≤ leValue third)
    (h3 : leValue third ≤ 16 + body.length) :
    total ++ (first ++ (second ++ (third ++ body)))
      = table [body.take (leValue second - 16),
          (body.drop (leValue second - 16)).take (leValue third - leValue second),
          body.drop (leValue third - 16)] := by
  have ha : (body.take (leValue second - 16)).length = leValue second - 16 := by
    rw [List.length_take]
    omega
  have hb : ((body.drop (leValue second - 16)).take (leValue third - leValue second)).length
      = leValue third - leValue second := by
    rw [List.length_take, List.length_drop]
    omega
  have hc : (body.drop (leValue third - 16)).length = 16 + body.length - leValue third := by
    rw [List.length_drop]
    omega
  -- the second field ends where the third begins
  have hrest : (body.drop (leValue second - 16)).take (leValue third - leValue second)
      ++ body.drop (leValue third - 16) = body.drop (leValue second - 16) := by
    rw [show body.drop (leValue third - 16)
        = (body.drop (leValue second - 16)).drop (leValue third - leValue second) by
      rw [List.drop_drop]
      congr 1
      omega, List.take_append_drop]
  rw [table_three, ha, hb, hc, hrest, List.take_append_drop,
    show 16 + (leValue second - 16 + (leValue third - leValue second
      + (16 + body.length - leValue third))) = leValue total by omega,
    show 16 + (leValue second - 16) = leValue second by omega,
    show leValue second + (leValue third - leValue second) = leValue third by omega,
    number_leValue htotal, number_leValue hsecond, number_leValue hthird,
    show (number 16 : Bytes) = number (leValue first) by rw [h16], number_leValue hfirst]

/-! ## Reading

    `from_slice` verifies before it hands out a view: sizes, offsets and field
    count must be exact, so that what is accepted is what `build` writes. -/

/-- The `k`-th header word. -/
def word (data : Bytes) (k : Nat) : Nat := leValue ((data.drop (4 * k)).take 4)

/-- The fields of a table of three. -/
def fields3? (data : Bytes) : Option (Bytes × Bytes × Bytes) :=
  if 16 ≤ data.length ∧ word data 0 = data.length ∧ word data 1 = 16 ∧ 16 ≤ word data 2
      ∧ word data 2 ≤ word data 3 ∧ word data 3 ≤ data.length then
    some ((data.drop 16).take (word data 2 - 16),
      ((data.drop 16).drop (word data 2 - 16)).take (word data 3 - word data 2),
      (data.drop 16).drop (word data 3 - 16))
  else none

/-- The contents of an optional byte vector. -/
def optBytes? (field : Bytes) : Option (Option Bytes) :=
  if field = [] then some none
  else if 4 ≤ field.length ∧ word field 0 = field.length - 4 then some (some (field.drop 4))
  else none

/-- The header words of a string cut behind them. -/
theorem words_cut {w0 w1 w2 w3 : Bytes} (body : Bytes) (h0 : w0.length = 4)
    (h1 : w1.length = 4) (h2 : w2.length = 4) (h3 : w3.length = 4) :
    word (w0 ++ (w1 ++ (w2 ++ (w3 ++ body)))) 0 = leValue w0
      ∧ word (w0 ++ (w1 ++ (w2 ++ (w3 ++ body)))) 1 = leValue w1
      ∧ word (w0 ++ (w1 ++ (w2 ++ (w3 ++ body)))) 2 = leValue w2
      ∧ word (w0 ++ (w1 ++ (w2 ++ (w3 ++ body)))) 3 = leValue w3
      ∧ (w0 ++ (w1 ++ (w2 ++ (w3 ++ body)))).drop 16 = body
      ∧ (w0 ++ (w1 ++ (w2 ++ (w3 ++ body)))).length = 16 + body.length := by
  refine ⟨?_, ?_, ?_, ?_, ?_, ?_⟩
  case refine_6 =>
    simp only [List.length_append, h0, h1, h2, h3]
    omega
  all_goals
    match w0, h0, w1, h1, w2, h2, w3, h3 with
    | [_, _, _, _], _, [_, _, _, _], _, [_, _, _, _], _, [_, _, _, _], _ => rfl

/-- **`fields3?` accepts exactly the three-field tables.** -/
theorem fields3?_eq_some {data a b c : Bytes} :
    fields3? data = some (a, b, c) ↔ data = table [a, b, c] ∧ data.length < 2 ^ 32 := by
  constructor
  · intro h
    rw [fields3?, Option.ite_none_right_eq_some] at h
    obtain ⟨⟨hlong, h0, h1, h12, h23, h3⟩, h⟩ := h
    -- the four header words, then the conditions on them as numbers
    obtain ⟨w0, d, rfl, l0, _⟩ := exists_front data 4 (by omega)
    obtain ⟨w1, d, rfl, l1, _⟩ := exists_front d 4 (by omega)
    obtain ⟨w2, d, rfl, l2, _⟩ := exists_front d 4 (by omega)
    obtain ⟨w3, body, rfl, l3, _⟩ := exists_front d 4 (by omega)
    obtain ⟨e0, e1, e2, e3, edrop, elen⟩ := words_cut body l0 l1 l2 l3
    rw [e0, elen] at h0
    rw [e1] at h1
    rw [e2] at h12
    rw [e2, e3] at h23
    rw [e3, elen] at h3
    rw [e2, e3, edrop] at h
    simp only [Option.some.injEq, Prod.mk.injEq] at h
    obtain ⟨rfl, rfl, rfl⟩ := h
    refine ⟨?_, ?_⟩
    · exact eq_table_three l0 l1 l2 l3 h0 h1 h12 h23 h3
    · have hlt := leValue_lt w0
      rw [l0] at hlt
      rw [elen]
      omega
  · rintro ⟨rfl, hlt⟩
    rw [table_three_length] at hlt
    have hbody : (a ++ (b ++ c)).length = a.length + (b.length + c.length) := by
      simp only [List.length_append]
    obtain ⟨e0, e1, e2, e3, edrop, elen⟩ := words_cut (a ++ (b ++ c))
      (number_length (16 + (a.length + (b.length + c.length)))) (number_length 16)
      (number_length (16 + a.length)) (number_length (16 + a.length + b.length))
    rw [leValue_number (by omega)] at e0 e1 e2 e3
    rw [fields3?, table_three, e0, e1, e2, e3, edrop, elen, hbody, if_pos (by omega),
      Nat.add_sub_cancel_left, List.take_left' rfl, List.drop_left' rfl,
      Nat.add_sub_cancel_left, List.take_left' rfl,
      show 16 + a.length + b.length - 16 = (a ++ b).length by rw [List.length_append]; omega,
      ← List.append_assoc, List.drop_left' rfl]

/-- Optional byte vectors are read back. -/
theorem optBytes?_eq_some {field : Bytes} {o : Option Bytes} (hlt : field.length < 2 ^ 32) :
    optBytes? field = some o ↔ field = optBytes o := by
  unfold optBytes?
  by_cases hnil : field = []
  · subst hnil
    rw [if_pos rfl, Option.some.injEq]
    constructor
    · rintro rfl
      rfl
    · intro h
      exact optBytes_inj h
  · rw [if_neg hnil, Option.ite_none_right_eq_some]
    constructor
    · rintro ⟨⟨hlong, hsize⟩, h⟩
      cases h
      obtain ⟨len, body, rfl, hlen, _⟩ := exists_front field 4 hlong
      -- the length word counts the payload alone
      have hword : word (len ++ body) 0 = leValue len := by
        rw [word, Nat.mul_zero, List.drop_zero, List.take_left' hlen]
      rw [hword, List.length_append, hlen, Nat.add_sub_cancel_left] at hsize
      rw [List.drop_left' hlen, optBytes, fixvec, ← hsize, number_leValue hlen]
    · intro h
      cases o with
      | none => exact absurd h hnil
      | some b =>
          subst h
          rw [optBytes, fixvec_length] at hlt
          rw [optBytes, fixvec_length, fixvec, word, Nat.mul_zero, List.drop_zero,
            List.take_left' (number_length _), List.drop_left' (number_length _),
            leValue_number (by omega)]
          exact ⟨⟨by omega, by omega⟩, rfl⟩

end Molecule
