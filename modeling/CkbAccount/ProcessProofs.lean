import CkbAccount.RustOutcomeProofs

/-! # Processes that call their environment

    A process is a tree of calls: it either has returned, or it makes one call and goes on
    with the answer.  Nothing is said about what the answers are; an environment that runs
    several processes chooses them.  `Prog` is the same with the early returns of fallible
    code, so that a function that makes system calls reads as it is written:

    * `Proc.bind` runs one process after another;
    * `>>=` on `Prog` is the `?` operator, `Prog.of` is code that makes no call, and
      `performOk` a call that may fail;
    * `Proc.Along`: on every path that the answers leave open, only certain calls are made
      and the end is as stated; `Prog.Returns` is the same for what fallible code returns,
      and `Prog.Ends` for what it ends with, errors included, each with one rule for every
      way to build a program;
    * `Proc.Within`: the calls of a path cost no more than a budget.

    Nothing here knows about any particular program. -/

namespace Process

open RustOutcome Outcome

variable {Op : Type} {Ans : Op → Type} {α β γ ε ε' : Type}

/-- A process over the calls `Op`, whose answers are `Ans`. -/
inductive Proc (Ans : Op → Type) (α : Type) : Type where
  | ret (a : α)
  | call (op : Op) (k : Ans op → Proc Ans α)

/-- One process, and then another. -/
def Proc.bind : Proc Ans α → (α → Proc Ans β) → Proc Ans β
  | .ret a, f => f a
  | .call op k, f => .call op fun r => (k r).bind f

/-- A process that ends as fallible code does. -/
def Prog (Ans : Op → Type) (ε α : Type) : Type := Proc Ans (Outcome ε α)

/-- What follows a `?`. -/
def Prog.resume (f : α → Prog Ans ε β) : Outcome ε α → Prog Ans ε β
  | .ok a => f a
  | .err e => Proc.ret (.err e)
  | .abort => Proc.ret .abort

instance : Monad (Prog Ans ε) where
  pure a := Proc.ret (.ok a)
  bind p f := Proc.bind p (Prog.resume f)

/-- Code that makes no call. -/
def Prog.of (x : Outcome ε α) : Prog Ans ε α := Proc.ret x

/-- One call, and its answer. -/
def perform (op : Op) : Prog Ans ε (Ans op) := Proc.call op fun r => .ret (.ok r)

/-- `map_err` on the result of a process. -/
def Prog.mapErr (f : ε → ε') (p : Prog Ans ε α) : Prog Ans ε' α :=
  Proc.bind p fun r => .ret (r.mapErr f)

/-- Answers of calls that may fail. -/
def Fallible (Res : Op → Type) (ε : Type) (op : Op) : Type := Except ε (Res op)

/-- A call that may fail, and `?`. -/
def performOk {Res : Op → Type} (op : Op) : Prog (Fallible Res ε) ε (Res op) :=
  perform op >>= fun r => Prog.of (ofExcept r)

/-- Composition resumes with the value, and stops at an error. -/
theorem Prog.bind_def (p : Prog Ans ε α) (f : α → Prog Ans ε β) :
    (p >>= f) = Proc.bind p (Prog.resume f) := rfl

/-- A call comes first, then the rest on its answer. -/
theorem performOk_bind {Res : Op → Type} (op : Op) (f : Res op → Prog (Fallible Res ε) ε β) :
    (performOk op >>= f) = Proc.call op fun r => Prog.resume f (ofExcept r) := rfl

/-- Early returns compose with later ones. -/
theorem Prog.of_bind (x : Outcome ε α) (f : α → Prog Ans ε β) :
    (Prog.of x >>= f) = Prog.resume f x := rfl

/-! ## What holds on every path -/

section Along

variable (may : Op → Prop) (adm : (op : Op) → Ans op → Prop)

/-- On every path with answers in `adm` a process makes only calls in `may`, and it ends
    in `Q`. -/
def Proc.Along (Q : α → Prop) : Proc Ans α → Prop
  | .ret a => Q a
  | .call op k => may op ∧ ∀ r, adm op r → (k r).Along Q

/-- What fallible code returns, on every path. -/
def Prog.Returns (Q : α → Prop) (p : Prog Ans ε α) : Prop :=
  Proc.Along may adm (fun r => ∀ a, r = .ok a → Q a) p

variable {may adm}

/-- **One after another**: what the first establishes the second may use. -/
theorem Proc.Along.bind {P : α → Prop} {Q : β → Prop} {p : Proc Ans α} {f : α → Proc Ans β}
    (hp : p.Along may adm P) (hf : ∀ a, P a → (f a).Along may adm Q) :
    (p.bind f).Along may adm Q := by
  induction p with
  | ret a => exact hf a hp
  | call op k ih => exact ⟨hp.1, fun r hr => ih r (hp.2 r hr)⟩

/-- **The rule of composition** for what is returned. -/
theorem Prog.Returns.bind {P : α → Prop} {Q : β → Prop} {p : Prog Ans ε α}
    {f : α → Prog Ans ε β} (hp : p.Returns may adm P) (hf : ∀ a, P a → (f a).Returns may adm Q) :
    (p >>= f).Returns may adm Q := by
  refine Proc.Along.bind hp fun r hr => ?_
  cases r with
  | ok a => exact hf a (hr a rfl)
  | err e => exact fun b hb => nomatch hb
  | abort => exact fun b hb => nomatch hb

theorem Prog.returns_of {Q : α → Prop} {x : Outcome ε α} (h : ∀ a, x = .ok a → Q a) :
    (Prog.of x : Prog Ans ε α).Returns may adm Q := h

theorem Prog.returns_pure {Q : α → Prop} {a : α} (h : Q a) :
    (pure a : Prog Ans ε α).Returns may adm Q := by
  rintro b ⟨⟩
  exact h

/-- The rule of a call. -/
theorem returns_perform {op : Op} {Q : Ans op → Prop} (hmay : may op) (h : ∀ r, adm op r → Q r) :
    (perform op : Prog Ans ε (Ans op)).Returns may adm Q := by
  refine ⟨hmay, fun r hr => ?_⟩
  rintro b ⟨⟩
  exact h r hr

/-- Relabelling errors changes nothing that is returned. -/
theorem Prog.Returns.mapErr {Q : α → Prop} {p : Prog Ans ε α} (g : ε → ε')
    (hp : p.Returns may adm Q) : (p.mapErr g).Returns may adm Q := by
  refine Proc.Along.bind hp fun r hr a ha => ?_
  exact hr a (mapErr_eq_ok.mp ha)

/-- The rule of a call that can fail. -/
theorem returns_performOk {Res : Op → Type} {adm : (op : Op) → Fallible Res ε op → Prop} (op : Op)
    {Q : Res op → Prop} (hmay : may op) (h : ∀ a, adm op (Except.ok a) → Q a) :
    (performOk op : Prog (Fallible Res ε) ε (Res op)).Returns may adm Q := by
  refine Prog.Returns.bind (P := adm op) (returns_perform hmay fun _ hr => hr) fun r hr => ?_
  refine Prog.returns_of fun a ha => ?_
  have hok : r = Except.ok a := ofExcept_eq_ok.mp ha
  exact h a (hok ▸ hr)

/-- What fallible code ends with on every path: values in `Q`, errors in `E`. -/
def Prog.Ends (may : Op → Prop) (adm : (op : Op) → Ans op → Prop) (E : ε → Prop) (Q : α → Prop)
    (p : Prog Ans ε α) : Prop :=
  Proc.Along may adm (fun r => (∀ a, r = .ok a → Q a) ∧ ∀ e, r = .err e → E e) p

/-- **The rule of composition** for both outcomes. -/
theorem Prog.Ends.bind {E : ε → Prop} {P : α → Prop} {Q : β → Prop} {p : Prog Ans ε α}
    {f : α → Prog Ans ε β} (hp : p.Ends may adm E P) (hf : ∀ a, P a → (f a).Ends may adm E Q) :
    (p >>= f).Ends may adm E Q := by
  refine Proc.Along.bind hp fun r hr => ?_
  cases r with
  | ok a => exact hf a (hr.1 a rfl)
  | err e =>
      refine ⟨fun b hb => (by cases hb), fun e' he' => ?_⟩
      cases he'
      exact hr.2 e rfl
  | abort => exact ⟨fun b hb => (by cases hb), fun e he => (by cases he)⟩

theorem Prog.ends_of {E : ε → Prop} {Q : α → Prop} {x : Outcome ε α} (hQ : ∀ a, x = .ok a → Q a)
    (hE : ∀ e, x = .err e → E e) : (Prog.of x : Prog Ans ε α).Ends may adm E Q := ⟨hQ, hE⟩

theorem Prog.ends_pure {E : ε → Prop} {Q : α → Prop} {a : α} (h : Q a) :
    (pure a : Prog Ans ε α).Ends may adm E Q := by
  refine ⟨?_, fun e he => (by cases he)⟩
  rintro b ⟨⟩
  exact h

/-- Relabelled errors are those that the labels allow. -/
theorem Prog.Ends.mapErr {E : ε → Prop} {E' : ε' → Prop} {Q : α → Prop} {p : Prog Ans ε α}
    {g : ε → ε'} (hg : ∀ e, E e → E' (g e)) (hp : p.Ends may adm E Q) :
    (p.mapErr g).Ends may adm E' Q := by
  refine Proc.Along.bind hp fun r hr => ⟨fun a ha => hr.1 a (mapErr_eq_ok.mp ha), fun e he => ?_⟩
  cases r with
  | ok a => cases he
  | err e' =>
      cases he
      exact hg e' (hr.2 e' rfl)
  | abort => cases he

/-- The rule of a call that can fail, for both outcomes. -/
theorem ends_performOk {Res : Op → Type} {adm : (op : Op) → Fallible Res ε op → Prop} {E : ε → Prop}
    (op : Op) {Q : Res op → Prop} (hmay : may op) (hQ : ∀ a, adm op (Except.ok a) → Q a)
    (hE : ∀ e, adm op (Except.error e) → E e) :
    (performOk op : Prog (Fallible Res ε) ε (Res op)).Ends may adm E Q := by
  refine ⟨hmay, fun r hr => ?_⟩
  cases r with
  | ok a =>
      refine ⟨fun b hb => ?_, fun e he => (by cases he)⟩
      cases hb
      exact hQ a hr
  | error e =>
      refine ⟨fun b hb => (by cases hb), fun e' he' => ?_⟩
      cases he'
      exact hE e hr

end Along

/-! ## What the calls of a path cost -/

section Within

variable (cost : Op → Nat)

/-- On no path do the calls cost more than `n`. -/
def Proc.Within : Proc Ans α → Nat → Prop
  | .ret _, _ => True
  | .call op k, n => cost op ≤ n ∧ ∀ r, (k r).Within (n - cost op)

/-- At most `n` paid calls, whatever is answered. -/
def Prog.Within (p : Prog Ans ε α) (n : Nat) : Prop := Proc.Within cost p n

variable {cost}

/-- A bound can be raised. -/
theorem Proc.Within.mono {p : Proc Ans α} {m n : Nat} (h : p.Within cost m) (hle : m ≤ n) :
    p.Within cost n := by
  induction p generalizing m n with
  | ret a => trivial
  | call op k ih =>
      exact ⟨Nat.le_trans h.1 hle, fun r => ih r (h.2 r) (Nat.sub_le_sub_right hle _)⟩

/-- **Budgets add up.** -/
theorem Proc.Within.bind {p : Proc Ans α} {f : α → Proc Ans β} {m n : Nat}
    (hp : p.Within cost m) (hf : ∀ a, (f a).Within cost n) :
    (p.bind f).Within cost (m + n) := by
  induction p generalizing m with
  | ret a => exact (hf a).mono (Nat.le_add_left ..)
  | call op k ih =>
      refine ⟨Nat.le_trans hp.1 (Nat.le_add_right ..), fun r => ?_⟩
      have hrest := ih r (hp.2 r)
      rwa [← Nat.sub_add_comm hp.1] at hrest

/-- **Bounds add up.** -/
theorem Prog.Within.bind {p : Prog Ans ε α} {f : α → Prog Ans ε β} {m n : Nat}
    (hp : p.Within cost m) (hf : ∀ a, (f a).Within cost n) : (p >>= f).Within cost (m + n) := by
  refine Proc.Within.bind hp fun r => ?_
  cases r with
  | ok a => exact hf a
  | err e => trivial
  | abort => trivial

/-- The rule for `?` behind a part that costs nothing. -/
theorem Prog.Within.bind_free {p : Prog Ans ε α} {f : α → Prog Ans ε β} {n : Nat}
    (hp : p.Within cost 0) (hf : ∀ a, (f a).Within cost n) : (p >>= f).Within cost n := by
  have hsum := hp.bind hf
  rwa [Nat.zero_add] at hsum

theorem Prog.Within.mapErr {p : Prog Ans ε α} {n : Nat} (g : ε → ε') (hp : p.Within cost n) :
    (p.mapErr g).Within cost n :=
  Proc.Within.bind (n := 0) hp fun _ => trivial

theorem Prog.within_of {x : Outcome ε α} {n : Nat} :
    (Prog.of x : Prog Ans ε α).Within cost n := trivial

/-- A call costs what it costs. -/
theorem within_perform {op : Op} {n : Nat} (h : cost op ≤ n) :
    (perform op : Prog Ans ε (Ans op)).Within cost n :=
  ⟨h, fun _ => trivial⟩

theorem within_performOk {Res : Op → Type} (op : Op) {n : Nat} (h : cost op ≤ n) :
    (performOk op : Prog (Fallible Res ε) ε (Res op)).Within cost n :=
  Prog.Within.bind (n := 0) (within_perform h) fun _ => Prog.within_of

/-- Without a budget only free calls are made. -/
theorem Proc.Within.along {adm : (op : Op) → Ans op → Prop} {Q : α → Prop} {p : Proc Ans α}
    (h : p.Within cost 0) (hQ : ∀ a, Q a) : p.Along (fun op => cost op = 0) adm Q := by
  induction p with
  | ret a => exact hQ a
  | call op k ih =>
      refine ⟨Nat.le_zero.mp h.1, fun r _ => ih r ?_⟩
      have hrest := h.2 r
      rwa [Nat.zero_sub] at hrest

end Within

end Process
