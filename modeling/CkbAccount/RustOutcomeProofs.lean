import Mathlib.Algebra.Order.Ring.Nat
import Mathlib.Data.List.Nodup
import Mathlib.Tactic.Common

/-! # Outcomes of checked Rust code

    A Rust function compiled with overflow checks and `panic = "abort"` has three
    ways to end: it returns `Ok`, it returns `Err`, or it aborts.  `Outcome` keeps
    the three apart, so that a failing slice index is never mistaken for an
    ordinary error:

    * the monad (`?` is `>>=`) with its inversion lemma `bind_eq_ok`;
    * the early return `if bad { return Err(e) }` as `rejectIf`;
    * the partial operations `slice`, `byteAt` and the checked ones `checkedAdd`;
    * `for index in start..` with an explicit break, `forFrom`, and the rule that
      turns such a loop over a finite list into a fold.

    Nothing here knows about any particular program. -/

namespace RustOutcome

/-- How a Rust function ends. -/
inductive Outcome (ε α : Type) where
  | ok (a : α)
  | err (e : ε)
  | abort
  deriving DecidableEq, Repr

variable {ε ε' α β σ : Type}

namespace Outcome

/-- The `?` operator: only `ok` goes on. -/
def bind : Outcome ε α → (α → Outcome ε β) → Outcome ε β
  | .ok a, f => f a
  | .err e, _ => .err e
  | .abort, _ => .abort

instance : Monad (Outcome ε) where
  pure := .ok
  bind := bind

/-- `map_err`: relabel the error, keep everything else. -/
def mapErr (f : ε → ε') : Outcome ε α → Outcome ε' α
  | .ok a => .ok a
  | .err e => .err (f e)
  | .abort => .abort

/-- `ok_or`: the absent option is the given error. -/
def okOr (e : ε) : Option α → Outcome ε α
  | some a => .ok a
  | none => .err e

/-- A result that is returned as it is. -/
def ofExcept : Except ε α → Outcome ε α
  | .ok a => .ok a
  | .error e => .err e

/-- `map_err(|_| e)` on a call that reports errors of its own. -/
def orErr (e : ε) : Except ε' α → Outcome ε α
  | .ok a => .ok a
  | .error _ => .err e

@[simp] theorem pure_eq (a : α) : (pure a : Outcome ε α) = .ok a := rfl

@[simp] theorem ok_bind (a : α) (f : α → Outcome ε β) :
    (Outcome.ok a >>= f) = f a := rfl

@[simp] theorem err_bind (e : ε) (f : α → Outcome ε β) :
    (Outcome.err e >>= f) = .err e := rfl

@[simp] theorem abort_bind (f : α → Outcome ε β) :
    ((Outcome.abort : Outcome ε α) >>= f) = .abort := rfl

@[simp] theorem mapErr_ok (f : ε → ε') (a : α) :
    mapErr f (.ok a : Outcome ε α) = .ok a := rfl

@[simp] theorem mapErr_err (f : ε → ε') (e : ε) :
    mapErr f (.err e : Outcome ε α) = .err (f e) := rfl

@[simp] theorem okOr_some (e : ε) (a : α) : okOr e (some a) = .ok a := rfl

@[simp] theorem okOr_none (e : ε) : okOr e (none : Option α) = .err e := rfl

/-- **Inversion of `?`**: a sequence succeeds exactly when both halves do. -/
theorem bind_eq_ok {x : Outcome ε α} {f : α → Outcome ε β} {r : β} :
    (x >>= f) = .ok r ↔ ∃ a, x = .ok a ∧ f a = .ok r := by
  cases x with
  | ok a => simp
  | err e => simp
  | abort => simp

/-- A check followed by a continuation. -/
theorem unit_bind_eq_ok {x : Outcome ε Unit} {f : Unit → Outcome ε β} {r : β} :
    (x >>= f) = .ok r ↔ x = .ok () ∧ f () = .ok r := by
  cases x with
  | ok a => simp
  | err e => simp
  | abort => simp

/-- `map_err` keeps a value. -/
theorem mapErr_eq_ok {f : ε → ε'} {x : Outcome ε α} {a : α} :
    mapErr f x = .ok a ↔ x = .ok a := by
  cases x <;> simp [mapErr]

/-- `ok_or` keeps a value. -/
theorem okOr_eq_ok {e : ε} {o : Option α} {a : α} :
    okOr e o = .ok a ↔ o = some a := by
  cases o <;> simp [okOr]

theorem ofExcept_eq_ok {r : Except ε α} {a : α} : ofExcept r = .ok a ↔ r = .ok a := by
  cases r <;> simp [ofExcept]

theorem orErr_eq_ok {e : ε} {r : Except ε' α} {a : α} :
    orErr e r = .ok a ↔ r = .ok a := by
  cases r <;> simp [orErr]

theorem okOr_ne_err {e e' : ε} {o : Option α} (h : e ≠ e') : okOr e o ≠ .err e' := by
  cases o with
  | none => simpa using h
  | some a => simp

/-- A sequence aborts only where one of its halves does. -/
theorem bind_ne_abort {x : Outcome ε α} {f : α → Outcome ε β} (hx : x ≠ .abort)
    (hf : ∀ a, x = .ok a → f a ≠ .abort) : (x >>= f) ≠ .abort := by
  cases x with
  | ok a => exact hf a rfl
  | err e => simp
  | abort => exact absurd rfl hx

theorem mapErr_ne_abort {f : ε → ε'} {x : Outcome ε α} (h : x ≠ .abort) :
    mapErr f x ≠ .abort := by
  cases x with
  | ok a => simp
  | err e => simp
  | abort => exact absurd rfl h

theorem okOr_ne_abort {e : ε} {o : Option α} : okOr e o ≠ .abort := by
  cases o <;> simp

/-- A sequence fails with an error only where one of its halves does. -/
theorem bind_ne_err {bad : ε} {x : Outcome ε α} {f : α → Outcome ε β} (hx : x ≠ .err bad)
    (hf : ∀ a, x = .ok a → f a ≠ .err bad) : (x >>= f) ≠ .err bad := by
  cases x with
  | ok a => exact hf a rfl
  | err e => exact fun h => hx (by rw [err_bind] at h; cases h; rfl)
  | abort => simp

/-- `?` associates. -/
theorem bind_ok (x : Outcome ε α) : (x >>= fun a => .ok a) = x := by
  cases x <;> rfl

/-- `?` is associative. -/
theorem bind_assoc {γ : Type} (x : Outcome ε α) (f : α → Outcome ε β)
    (g : β → Outcome ε γ) :
    ((x >>= f) >>= g) = (x >>= fun a => f a >>= g) := by
  cases x <;> rfl

end Outcome

open Outcome

/-! ## Early returns -/

/-- `if bad { return Err(e) }`. -/
def rejectIf (bad : Prop) [Decidable bad] (e : ε) : Outcome ε Unit :=
  if bad then .err e else .ok ()

/-- A check that fails ends the function. -/
theorem rejectIf_pos {bad : Prop} [Decidable bad] (h : bad) (e : ε) :
    rejectIf bad e = .err e := if_pos h

/-- A check that passes lets it go on. -/
theorem rejectIf_neg {bad : Prop} [Decidable bad] (h : ¬ bad) (e : ε) :
    rejectIf bad e = .ok () := if_neg h

@[simp] theorem rejectIf_eq_ok {bad : Prop} [Decidable bad] {e : ε} {u : Unit} :
    rejectIf bad e = .ok u ↔ ¬ bad := by
  by_cases h : bad
  · rw [rejectIf_pos h]; simp [h]
  · rw [rejectIf_neg h]; simp [h]

theorem rejectIf_ne_abort {bad : Prop} [Decidable bad] {e : ε} :
    rejectIf bad e ≠ .abort := by
  by_cases h : bad
  · rw [rejectIf_pos h]; simp
  · rw [rejectIf_neg h]; simp

/-- What comes after an early return may rely on the check. -/
theorem rejectIf_bind_ne_abort {bad : Prop} [Decidable bad] {e : ε} {f : Unit → Outcome ε β}
    (h : ¬ bad → f () ≠ .abort) : (rejectIf bad e >>= f) ≠ .abort :=
  bind_ne_abort rejectIf_ne_abort fun _ hok => h (rejectIf_eq_ok.mp hok)

theorem rejectIf_ne_err {bad : Prop} [Decidable bad] {e e' : ε} (h : e ≠ e') :
    rejectIf bad e ≠ .err e' := by
  by_cases hb : bad
  · rw [rejectIf_pos hb]; simpa using h
  · rw [rejectIf_neg hb]; simp

/-- A guarded continuation succeeds exactly when the guard lets it run. -/
theorem rejectIf_bind_eq_ok {bad : Prop} [Decidable bad] {e : ε}
    {f : Unit → Outcome ε β} {r : β} :
    (rejectIf bad e >>= f) = .ok r ↔ ¬ bad ∧ f () = .ok r := by
  rw [unit_bind_eq_ok, rejectIf_eq_ok]

/-- A value guarded by a test. -/
theorem ite_eq_ok {good : Prop} [Decidable good] {a b : α} {e : ε} :
    (if good then .ok a else .err e : Outcome ε α) = .ok b ↔ good ∧ a = b := by
  split
  · rename_i h
    simp [h]
  · rename_i h
    simp [h]

/-! ## Byte strings -/

/-- A byte string, as `Vec<u8>` and `&[u8]` hold it. -/
abbrev Bytes := List UInt8

/-- A Rust array `[u8; n]`: its length is part of the type. -/
abbrev ByteArr (n : Nat) := { b : Bytes // b.length = n }

/-- `slice.try_into()` at a fixed width. -/
def toByteArr (n : Nat) (e : ε) (b : Bytes) : Outcome ε (ByteArr n) :=
  if h : b.length = n then .ok ⟨b, h⟩ else .err e

@[simp] theorem toByteArr_val {n : Nat} (e : ε) (a : ByteArr n) :
    toByteArr n e a.val = .ok a := by
  rw [toByteArr, dif_pos a.property]

/-- `try_into` succeeds on the right length. -/
theorem toByteArr_eq_ok {n : Nat} {e : ε} {b : Bytes} {a : ByteArr n} :
    toByteArr n e b = .ok a ↔ b = a.val := by
  constructor
  · intro h
    rw [toByteArr] at h
    split at h
    · cases h; rfl
    · cases h
  · intro h
    rw [h, toByteArr_val]

theorem toByteArr_ne_err {n : Nat} {e e' : ε} {b : Bytes} (h : e ≠ e') :
    toByteArr n e b ≠ .err e' := by
  rw [toByteArr]
  split
  · simp
  · simpa using h

/-- `&data[lo..hi]`: aborts outside `lo ≤ hi ≤ len`. -/
def slice (data : Bytes) (lo hi : Nat) : Outcome ε Bytes :=
  if lo ≤ hi ∧ hi ≤ data.length then .ok ((data.drop lo).take (hi - lo)) else .abort

/-- `data[i]`: aborts past the end. -/
def byteAt (data : Bytes) (i : Nat) : Outcome ε UInt8 :=
  match data[i]? with
  | some b => .ok b
  | none => .abort

/-- Slicing the whole string. -/
theorem slice_zero_length (data : Bytes) :
    (slice data 0 data.length : Outcome ε Bytes) = .ok data := by
  simp [slice]

/-- A slice that ends inside the first half of a concatenation stays there. -/
theorem slice_append_left (a b : Bytes) {lo hi : Nat} (h : hi ≤ a.length) :
    (slice (a ++ b) lo hi : Outcome ε Bytes) = slice a lo hi := by
  unfold slice
  by_cases hlo : lo ≤ hi
  · rw [if_pos ⟨hlo, by simp; omega⟩, if_pos ⟨hlo, h⟩,
      List.drop_append_of_le_length (by omega),
      List.take_append_of_le_length (by simp; omega)]
  · rw [if_neg (fun hc => hlo hc.1), if_neg (fun hc => hlo hc.1)]

/-- A slice that starts past the first half is a slice of the second. -/
theorem slice_append_right (a b : Bytes) {lo hi : Nat} (h : a.length ≤ lo)
    (hle : lo ≤ hi) :
    (slice (a ++ b) lo hi : Outcome ε Bytes)
      = slice b (lo - a.length) (hi - a.length) := by
  unfold slice
  have hdrop : (a ++ b).drop lo = b.drop (lo - a.length) := by
    rw [List.drop_append, List.drop_eq_nil_of_le h, List.nil_append]
  have hsub : hi - a.length - (lo - a.length) = hi - lo := by omega
  by_cases hhi : hi ≤ (a ++ b).length
  · have hb : hi - a.length ≤ b.length := by
      rw [List.length_append] at hhi
      omega
    rw [if_pos ⟨hle, hhi⟩, if_pos ⟨by omega, hb⟩, hdrop, hsub]
  · have hb : ¬ hi - a.length ≤ b.length := by
      intro hc
      apply hhi
      rw [List.length_append]
      omega
    rw [if_neg (fun hc => hhi hc.2), if_neg (fun hc => hb hc.2)]

/-- A slice that starts past the head is a slice of the tail. -/
theorem slice_cons_succ (x : UInt8) (b : Bytes) {lo hi : Nat} (hle : lo ≤ hi) :
    (slice (x :: b) (lo + 1) (hi + 1) : Outcome ε Bytes) = slice b lo hi :=
  slice_append_right [x] b (Nat.le_add_left 1 lo) (Nat.succ_le_succ hle)

/-- The window of known width at the front of a concatenation. -/
theorem slice_front (a b : Bytes) {n : Nat} (h : a.length = n) :
    (slice (a ++ b) 0 n : Outcome ε Bytes) = .ok a := by
  rw [slice_append_left a b (by omega), ← h, slice_zero_length]

/-- The window that is everything. -/
theorem slice_all (a : Bytes) {n : Nat} (h : a.length = n) :
    (slice a 0 n : Outcome ε Bytes) = .ok a := by
  rw [← h, slice_zero_length]

/-- A window inside the second half of a concatenation. -/
theorem slice_window (a b : Bytes) {i j k n : Nat} (hi : i = a.length + k)
    (hj : j = i + n) (h : k + n ≤ b.length) :
    (slice (a ++ b) i j : Outcome ε Bytes) = .ok ((b.drop k).take n) := by
  rw [slice_append_right a b (by omega) (by omega), slice, if_pos (by omega)]
  congr 2
  · omega
  · congr 1
    omega

/-- A successful slice reports its bounds and its contents. -/
theorem slice_eq_ok {data r : Bytes} {lo hi : Nat} :
    (slice data lo hi : Outcome ε Bytes) = .ok r
      ↔ (lo ≤ hi ∧ hi ≤ data.length) ∧ r = (data.drop lo).take (hi - lo) := by
  unfold slice
  split
  · rename_i h
    simp [h, eq_comm]
  · rename_i h
    simp [h]

/-- A failing index aborts: it never turns into an error value. -/
theorem slice_ne_err {data : Bytes} {lo hi : Nat} {e : ε} :
    (slice data lo hi : Outcome ε Bytes) ≠ .err e := by
  rw [slice]
  split <;> simp

/-- A range inside the buffer is no panic. -/
theorem slice_ne_abort {data : Bytes} {lo hi : Nat} (hle : lo ≤ hi) (hlen : hi ≤ data.length) :
    (slice data lo hi : Outcome ε Bytes) ≠ .abort := by
  rw [slice, if_pos ⟨hle, hlen⟩]
  simp

/-- An index inside the buffer is no panic. -/
theorem byteAt_ne_abort {data : Bytes} {i : Nat} (h : i < data.length) :
    (byteAt data i : Outcome ε UInt8) ≠ .abort := by
  rw [byteAt, List.getElem?_eq_getElem h]
  simp

theorem toByteArr_ne_abort {n : Nat} {e : ε} {b : Bytes} : toByteArr n e b ≠ .abort := by
  rw [toByteArr]
  split <;> simp

theorem byteAt_ne_err {data : Bytes} {i : Nat} {e : ε} :
    (byteAt data i : Outcome ε UInt8) ≠ .err e := by
  rw [byteAt]
  split <;> simp

/-- An index reads the byte that is there. -/
theorem byteAt_eq_ok {data : Bytes} {i : Nat} {byte : UInt8} :
    (byteAt data i : Outcome ε UInt8) = .ok byte ↔ data[i]? = some byte := by
  unfold byteAt
  cases data[i]? with
  | none => simp
  | some b => simp

@[simp] theorem byteAt_cons_zero (x : UInt8) (xs : Bytes) :
    (byteAt (x :: xs) 0 : Outcome ε UInt8) = .ok x := rfl

@[simp] theorem byteAt_cons_succ (x : UInt8) (xs : Bytes) (i : Nat) :
    (byteAt (x :: xs) (i + 1) : Outcome ε UInt8) = byteAt xs i := rfl

theorem byteAt_append_right (a b : Bytes) {i : Nat} (h : a.length ≤ i) :
    (byteAt (a ++ b) i : Outcome ε UInt8) = byteAt b (i - a.length) := by
  unfold byteAt
  rw [List.getElem?_append_right h]

/-- Cutting a known number of bytes off the front. -/
theorem exists_front (data : Bytes) (n : Nat) (h : n ≤ data.length) :
    ∃ a b, data = a ++ b ∧ a.length = n ∧ b.length + n = data.length := by
  refine ⟨data.take n, data.drop n, (List.take_append_drop n data).symm, ?_, ?_⟩
  · rw [List.length_take]
    omega
  · rw [List.length_drop]
    omega

/-- Cutting a single byte off the front. -/
theorem exists_head (data : Bytes) (h : 1 ≤ data.length) :
    ∃ x b, data = x :: b ∧ b.length + 1 = data.length := by
  cases data with
  | nil => exact absurd h (by simp)
  | cons x b => exact ⟨x, b, rfl, rfl⟩

/-! ## Checked arithmetic -/

/-- The number of values of a 64-bit `usize`. -/
def usizeSize : Nat := 2 ^ 64

/-- A Rust slice of bytes: its length is a `usize`. -/
abbrev Slice := { b : Bytes // b.length < usizeSize }

/-- `usize::checked_add`. -/
def checkedAdd (a b : Nat) : Option Nat :=
  if a + b < usizeSize then some (a + b) else none

/-- `checked_add` is the sum, if it fits. -/
theorem checkedAdd_eq_some {a b c : Nat} :
    checkedAdd a b = some c ↔ c = a + b ∧ a + b < usizeSize := by
  unfold checkedAdd
  split
  · rename_i h
    simp [h, eq_comm]
  · rename_i h
    simp [h]

theorem checkedAdd_of_lt {a b : Nat} (h : a + b < usizeSize) :
    checkedAdd a b = some (a + b) := if_pos h

/-- `a + b` on `usize` with overflow checks on. -/
def addUsize (a b : Nat) : Outcome ε Nat :=
  match checkedAdd a b with
  | some c => .ok c
  | none => .abort

/-- A sum that fits is no panic. -/
theorem addUsize_of_lt {a b : Nat} (h : a + b < usizeSize) :
    (addUsize a b : Outcome ε Nat) = .ok (a + b) := by
  rw [addUsize, checkedAdd_of_lt h]

theorem addUsize_ne_err {a b : Nat} {e : ε} : (addUsize a b : Outcome ε Nat) ≠ .err e := by
  rw [addUsize]
  split <;> simp

/-- `&data[off + lo..off + hi]`, with the two additions checked. -/
def sliceFrom (data : Bytes) (off lo hi : Nat) : Outcome ε Bytes := do
  slice data (← addUsize off lo) (← addUsize off hi)

/-- `data[off + i]`, with the addition checked. -/
def byteFrom (data : Bytes) (off i : Nat) : Outcome ε UInt8 := do
  byteAt data (← addUsize off i)

/-- Reading at an offset that is the length of a prefix reads past the prefix. -/
theorem sliceFrom_append (a b : Bytes) {off lo hi : Nat} (h : a.length = off)
    (hle : lo ≤ hi) (hlt : off + hi < usizeSize) :
    (sliceFrom (a ++ b) off lo hi : Outcome ε Bytes) = slice b lo hi := by
  rw [sliceFrom, addUsize_of_lt (by omega), ok_bind, addUsize_of_lt hlt, ok_bind,
    slice_append_right a b (by omega) (by omega)]
  congr 1 <;> omega

theorem byteFrom_append (a b : Bytes) {off i : Nat} (h : a.length = off)
    (hlt : off + i < usizeSize) :
    (byteFrom (a ++ b) off i : Outcome ε UInt8) = byteAt b i := by
  rw [byteFrom, addUsize_of_lt hlt, ok_bind, byteAt_append_right a b (by omega)]
  congr 1
  omega

/-- A window behind an offset, once the bytes up to its end are known to be there. -/
theorem sliceFrom_ne_abort {data : Bytes} {off lo hi : Nat} (hle : lo ≤ hi)
    (hlen : off + hi ≤ data.length) (hlt : off + hi < usizeSize) :
    (sliceFrom data off lo hi : Outcome ε Bytes) ≠ .abort := by
  rw [sliceFrom, addUsize_of_lt (by omega), ok_bind, addUsize_of_lt hlt, ok_bind]
  exact slice_ne_abort (by omega) hlen

theorem byteFrom_ne_abort {data : Bytes} {off i : Nat} (hlen : off + i < data.length)
    (hlt : off + i < usizeSize) : (byteFrom data off i : Outcome ε UInt8) ≠ .abort := by
  rw [byteFrom, addUsize_of_lt hlt, ok_bind]
  exact byteAt_ne_abort hlen

theorem sliceFrom_ne_err {data : Bytes} {off lo hi : Nat} {e : ε} :
    (sliceFrom data off lo hi : Outcome ε Bytes) ≠ .err e :=
  bind_ne_err addUsize_ne_err fun _ _ => bind_ne_err addUsize_ne_err fun _ _ => slice_ne_err

theorem byteFrom_ne_err {data : Bytes} {off i : Nat} {e : ε} :
    (byteFrom data off i : Outcome ε UInt8) ≠ .err e :=
  bind_ne_err addUsize_ne_err fun _ _ => byteAt_ne_err

/-! ## Index loops -/

/-- One pass of a loop body: go round again, or `break`. -/
inductive Flow (σ : Type) where
  | next (s : σ)
  | done (s : σ)

/-- `for index in start.. { body }`.  The fuel bounds the passes; a loop that uses
    it up has run into the end of `usize` and aborts. -/
def forFrom (body : Nat → σ → Outcome ε (Flow σ)) : Nat → Nat → σ → Outcome ε σ
  | 0, _, _ => .abort
  | fuel + 1, index, s =>
      body index s >>= fun flow =>
        match flow with
        | .next s' => forFrom body fuel (index + 1) s'
        | .done s' => .ok s'

/-- Fold a fallible step over a list, counting positions from `i`. -/
def foldIdx (step : Nat → α → σ → Outcome ε σ) : Nat → List α → σ → Outcome ε σ
  | _, [], s => .ok s
  | i, x :: xs, s => step i x s >>= foldIdx step (i + 1) xs

/-- **The index loop is a fold**: a body that consumes the element at its index
    and breaks at the first missing one visits exactly the list. -/
theorem forFrom_eq_foldIdx {body : Nat → σ → Outcome ε (Flow σ)}
    (step : Nat → α → σ → Outcome ε σ) :
    ∀ (xs : List α) (fuel index : Nat) (s : σ), xs.length < fuel →
      (∀ k x t, xs[k]? = some x →
        body (index + k) t = step (index + k) x t >>= fun t' => .ok (.next t')) →
      (∀ t, body (index + xs.length) t = .ok (.done t)) →
      forFrom body fuel index s = foldIdx step index xs s := by
  intro xs
  induction xs with
  | nil =>
      intro fuel index s hfuel _ hdone
      obtain ⟨fuel, rfl⟩ : ∃ n, fuel = n + 1 := ⟨fuel - 1, by simp at hfuel; omega⟩
      -- no element is left, so the body at this index is the one that stops
      have hbody : body index s = .ok (.done s) := hdone s
      rw [forFrom, hbody]
      rfl
  | cons x xs ih =>
      intro fuel index s hfuel hnext hdone
      rw [List.length_cons] at hfuel
      obtain ⟨fuel, rfl⟩ : ∃ n, fuel = n + 1 := ⟨fuel - 1, by omega⟩
      have hbody := hnext 0 x s rfl
      rw [Nat.add_zero] at hbody
      rw [forFrom, hbody, foldIdx, Outcome.bind_assoc]
      cases step index x s with
      | err e => rfl
      | abort => rfl
      | ok s' =>
          -- the rest starts one index further, with what this step returned
          refine ih fuel (index + 1) s' (by omega) ?_ ?_
          · intro k y t hy
            have := hnext (k + 1) y t hy
            rw [show index + (k + 1) = index + 1 + k by omega] at this
            exact this
          · intro t
            have := hdone t
            rw [List.length_cons,
              show index + (xs.length + 1) = index + 1 + xs.length by omega] at this
            exact this

/-- Pushing the indices that pass a test collects exactly those indices. -/
theorem foldIdx_push {p : α → Bool} {step : Nat → α → List Nat → Outcome ε (List Nat)}
    (h : ∀ i x acc, step i x acc = .ok (if p x then acc ++ [i] else acc)) :
    ∀ (xs : List α) (i : Nat) (acc : List Nat),
      foldIdx step i xs acc = .ok (acc ++ xs.findIdxs p i) := by
  intro xs
  induction xs with
  | nil => intro i acc; rw [foldIdx, List.findIdxs_nil, List.append_nil]
  | cons x xs ih =>
      intro i acc
      rw [foldIdx, h, ok_bind, ih, List.findIdxs_cons]
      by_cases hp : p x
      · rw [if_pos hp, if_pos hp, List.append_assoc]
        rfl
      · rw [if_neg hp, if_neg hp]

/-- Keeping the only index that passes a test, and failing on a second one. -/
theorem foldIdx_unique (p : α → Bool) (dup : ε)
    (step : Nat → α → Option Nat → Outcome ε (Option Nat))
    (hmiss : ∀ i x found, p x = false → step i x found = .ok found)
    (hfirst : ∀ i x, p x = true → step i x none = .ok (some i))
    (hagain : ∀ i x j, p x = true → step i x (some j) = .err dup) :
    ∀ (xs : List α) (i : Nat) (found : Option Nat) (j : Nat),
      foldIdx step i xs found = .ok (some j) ↔ found.toList ++ xs.findIdxs p i = [j] := by
  intro xs
  induction xs with
  | nil =>
      intro i found j
      rw [foldIdx, List.findIdxs_nil, List.append_nil]
      cases found <;> simp
  | cons x xs ih =>
      intro i found j
      rw [foldIdx, List.findIdxs_cons]
      cases hp : p x with
      | false =>
          rw [hmiss i x found hp, ok_bind, ih]
          rfl
      | true =>
          cases found with
          | none =>
              rw [hfirst i x hp, ok_bind, ih]
              rfl
          | some k =>
              rw [hagain i x k hp, err_bind]
              simp

/-- A unique index: the element is there, and no other passes the test. -/
theorem findIdxs_eq_singleton {p : α → Bool} {xs : List α} {i : Nat}
    (h : xs.findIdxs p = [i]) :
    (∃ x, xs[i]? = some x ∧ p x = true)
      ∧ ∀ j x, xs[j]? = some x → p x = true → j = i := by
  constructor
  · have hi : i ∈ xs.findIdxs p := by rw [h]; exact List.mem_singleton.mpr rfl
    obtain ⟨hlt, hp⟩ := List.mem_findIdxs_iff_exists_getElem_pos.mp hi
    exact ⟨xs[i], List.getElem?_eq_getElem hlt, hp⟩
  · intro j x hx hp
    obtain ⟨hlt, rfl⟩ := List.getElem?_eq_some_iff.mp hx
    have hj : j ∈ xs.findIdxs p := List.mem_findIdxs_iff_exists_getElem_pos.mpr ⟨hlt, hp⟩
    rw [h] at hj
    exact List.mem_singleton.mp hj

end RustOutcome
