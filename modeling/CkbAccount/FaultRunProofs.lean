import CkbAccount.ProcessProofs

/-! # Code that may be refused a call

    Imperative code with local variables and exceptions, over calls that change a state.  A
    call can fail without effect, at any point and as often as its environment likes, unless
    it is one that the environment never refuses.

    * `run` executes a process, for a given choice of the calls that fail;
    * `Ensures`: however calls fail, a process ends as stated; `Ensures.run` is what it says
      about executions;
    * `Code` is a process with local variables that keep their values when it throws, so that
      a handler sees how far the code had come;
    * `Code.Meets`: a precondition, a postcondition, and what holds when the code throws, with
      one rule for each way to build code.

    Nothing here knows about any particular program. -/

namespace FaultRun

open Process

variable {Op : Type} {Ans : Op → Type} {S σ τ α β ε : Type}

/-! ## Runs -/

/-- What calls do to the state and what they answer, and the answer of a call that fails:
    there is none for a call that is never refused. -/
structure Env (Ans : Op → Type) (S : Type) where
  respond : (op : Op) → S → Ans op × S
  refusal : (op : Op) → Option (Ans op)

variable (env : Env Ans S)

/-- One call, refused or not. -/
def Env.answer (fails : Bool) (op : Op) (s : S) : Ans op × S :=
  match fails, env.refusal op with
  | true, some r => (r, s)
  | _, _ => env.respond op s

/-- The execution in which the `n`-th call is refused if `fails n`. -/
def run (fails : Nat → Bool) : Nat → S → Proc Ans α → α × S
  | _, s, .ret a => (a, s)
  | n, s, .call op k =>
      match env.answer (fails n) op s with
      | (r, s') => run fails (n + 1) s' (k r)

/-- Whichever calls are refused, the process ends in `Q`. -/
def Ensures (Q : α → S → Prop) : Proc Ans α → S → Prop
  | .ret a, s => Q a s
  | .call op k, s =>
      ∀ fails, Ensures Q (k (env.answer fails op s).1) (env.answer fails op s).2

variable {env}

/-- **What is ensured holds at the end of every execution.** -/
theorem Ensures.run {Q : α → S → Prop} {p : Proc Ans α} (fails : Nat → Bool) :
    ∀ {n s}, Ensures env Q p s → Q (run env fails n s p).1 (run env fails n s p).2 := by
  induction p with
  | ret a => exact fun h => h
  | call op k ih =>
      intro n s h
      exact ih _ (h (fails n))

/-- **The rule of composition**, whatever fails. -/
theorem Ensures.bind {P : α → S → Prop} {Q : β → S → Prop} {p : Proc Ans α}
    {f : α → Proc Ans β} (hf : ∀ a s, P a s → Ensures env Q (f a) s) :
    ∀ {s}, Ensures env P p s → Ensures env Q (p.bind f) s := by
  induction p with
  | ret a =>
      intro s h
      exact hf a s h
  | call op k ih =>
      intro s h fails
      exact ih _ (h fails)

/-! ## Code -/

/-- Code with local variables `σ`: it ends with a value or an exception, and with the values
    of the variables by then. -/
def Code (Ans : Op → Type) (σ ε α : Type) : Type := σ → Proc Ans (Except ε α × σ)

namespace Code

/-- What runs after code that returned; an exception passes by. -/
def resume (f : α → Code Ans σ ε β) : Except ε α × σ → Proc Ans (Except ε β × σ)
  | (.ok a, l) => f a l
  | (.error e, l) => .ret (.error e, l)

instance : Monad (Code Ans σ ε) where
  pure a := fun l => .ret (.ok a, l)
  bind c f := fun l => (c l).bind (resume f)

/-- `throw`. -/
def throw (e : ε) : Code Ans σ ε α := fun l => .ret (.error e, l)

/-- What runs after code that threw; a value passes by. -/
def handle (handler : ε → Code Ans σ ε α) : Except ε α × σ → Proc Ans (Except ε α × σ)
  | (.ok a, l) => .ret (.ok a, l)
  | (.error e, l) => handler e l

/-- `try { c } catch (e) { handler e }`. -/
def tryCatch (c : Code Ans σ ε α) (handler : ε → Code Ans σ ε α) : Code Ans σ ε α :=
  fun l => (c l).bind (handle handler)

/-- `try { c } finally { f }`: an exception of `f` takes the place of the outcome of `c`. -/
def tryFinally (c : Code Ans σ ε α) (f : Code Ans σ ε Unit) : Code Ans σ ε α :=
  tryCatch c (fun e => f >>= fun _ => throw e) >>= fun a => f >>= fun _ => pure a

/-- The values of the variables. -/
def locals : Code Ans σ ε σ := fun l => .ret (.ok l, l)

/-- An assignment to the variables. -/
def assign (f : σ → σ) : Code Ans σ ε Unit := fun l => .ret (.ok (), f l)

/-- The body of a function with variables of its own. -/
def scope (init : τ) (c : Code Ans τ ε α) : Code Ans σ ε α :=
  fun l => (c init).bind fun out => .ret (out.1, l)

/-- A computation without calls. -/
def of (x : Except ε α) : Code Ans σ ε α := fun l => .ret (x, l)

/-- A call that may fail, with its error as an exception. -/
def call {Res : Op → Type} {δ : Type} (wrap : δ → ε) (op : Op) :
    Code (Fallible Res δ) σ ε (Res op) :=
  fun l => .call op fun r => .ret (Except.mapError wrap r, l)

/-- `if (b) { c }`. -/
def when (b : Prop) [Decidable b] (c : Code Ans σ ε Unit) : Code Ans σ ε Unit :=
  if b then c else pure ()

/-- `c.catch((error) => errors.push(error))`: the errors there were. -/
def caught (c : Code Ans σ ε α) : Code Ans σ ε (List ε) :=
  tryCatch (c >>= fun _ => pure []) fun e => pure [e]

end Code

/-! ## Rules -/

/-- The end of code: a value in `Q`, or an exception in `E`. -/
def Ends (Q : α → σ → S → Prop) (E : σ → S → Prop) : Except ε α × σ → S → Prop
  | (.ok a, l), s => Q a l s
  | (.error _, l), s => E l s

variable (env) in
/-- From `P` the code returns in `Q` or throws in `E`, whichever calls are refused. -/
def Code.Meets (P : σ → S → Prop) (c : Code Ans σ ε α) (Q : α → σ → S → Prop)
    (E : σ → S → Prop) : Prop :=
  ∀ l s, P l s → Ensures env (Ends Q E) (c l) s

namespace Code.Meets

variable {P P' : σ → S → Prop} {Q Q' : α → σ → S → Prop} {E E' : σ → S → Prop}
  {c : Code Ans σ ε α}

theorem pure {a : α} (h : ∀ l s, P l s → Q a l s) :
    Meets env P (Pure.pure a : Code Ans σ ε α) Q E := h

theorem throw {e : ε} (h : ∀ l s, P l s → E l s) :
    Meets env P (Code.throw e : Code Ans σ ε α) Q E := h

theorem of {x : Except ε α} (hok : ∀ a, x = .ok a → ∀ l s, P l s → Q a l s)
    (herr : ∀ l s, P l s → E l s) : Meets env P (Code.of x : Code Ans σ ε α) Q E := by
  intro l s h
  cases x with
  | ok a => exact hok a rfl l s h
  | error e => exact herr l s h

theorem locals {Q : σ → σ → S → Prop} (h : ∀ l s, P l s → Q l l s) :
    Meets env P (Code.locals : Code Ans σ ε σ) Q E := h

theorem assign {Q : Unit → σ → S → Prop} {f : σ → σ} (h : ∀ l s, P l s → Q () (f l) s) :
    Meets env P (Code.assign f : Code Ans σ ε Unit) Q E := h

/-- **One statement after another.** -/
theorem bind {Q : β → σ → S → Prop} {R : α → σ → S → Prop} {f : α → Code Ans σ ε β}
    (hc : Meets env P c R E) (hf : ∀ a, Meets env (R a) (f a) Q E) :
    Meets env P (c >>= f) Q E := by
  intro l s h
  refine Ensures.bind ?_ (hc l s h)
  rintro ⟨r, l'⟩ s' hr
  cases r with
  | ok a => exact hf a l' s' hr
  | error e => exact hr

/-- **A handler starts where the code threw**, with the variables as they were then. -/
theorem tryCatch {R : σ → S → Prop} {handler : ε → Code Ans σ ε α} (hc : Meets env P c Q R)
    (hh : ∀ e, Meets env R (handler e) Q E) : Meets env P (c.tryCatch handler) Q E := by
  intro l s h
  refine Ensures.bind ?_ (hc l s h)
  rintro ⟨r, l'⟩ s' hr
  cases r with
  | ok a => exact hr
  | error e => exact hh e l' s' hr

/-- **The cleanup runs however the code ends.** -/
theorem tryFinally {R : α → σ → S → Prop} {T : σ → S → Prop} {f : Code Ans σ ε Unit}
    (hc : Meets env P c R T) (hok : ∀ a, Meets env (R a) f (fun _ => Q a) E)
    (herr : Meets env T f (fun _ => E) E) : Meets env P (c.tryFinally f) Q E := by
  refine bind (R := R) (tryCatch hc fun e => ?_) fun a => ?_
  · exact bind herr fun _ => throw fun _ _ h => h
  · exact bind (hok a) fun _ => pure fun _ _ h => h

/-- The rule of consequence. -/
theorem weaken (hc : Meets env P c Q E) (hP : ∀ l s, P' l s → P l s)
    (hQ : ∀ a l s, Q a l s → Q' a l s) (hE : ∀ l s, E l s → E' l s) :
    Meets env P' c Q' E' := by
  intro l s h
  have hend := hc l s (hP l s h)
  have hbind : (c l).bind Proc.ret = c l := by
    induction c l with
    | ret a => rfl
    | call op k ih => exact congrArg (Proc.call op) (funext ih)
  rw [← hbind]
  refine Ensures.bind ?_ hend
  rintro ⟨r, l'⟩ s' hr
  cases r with
  | ok a => exact hQ a l' s' hr
  | error e => exact hE l' s' hr

/-- **The variables of a function are its own**: those of the caller stay as they are. -/
theorem scope {init : τ} {d : Code Ans τ ε α}
    (h : ∀ l, Meets env (fun m s => m = init ∧ P l s) d (fun a _ s => Q a l s)
      (fun _ s => E l s)) :
    Meets env P (Code.scope init d : Code Ans σ ε α) Q E := by
  intro l s hP
  refine Ensures.bind ?_ (h l init s ⟨rfl, hP⟩)
  rintro ⟨r, m⟩ s' hr
  cases r with
  | ok a => exact hr
  | error e => exact hr

/-- **The rule of a call**, which may fail. -/
theorem call {Res : Op → Type} {δ : Type} {wrap : δ → ε} {op : Op}
    {env : Env (Fallible Res δ) S} {Q : Res op → σ → S → Prop}
    (h : ∀ l s, P l s → ∀ fails, Ends Q E ((env.answer fails op s).1, l) (env.answer fails op s).2) :
    Meets env P (Code.call wrap op : Code (Fallible Res δ) σ ε (Res op)) Q E := by
  intro l s hP fails
  have hend := h l s hP fails
  revert hend
  generalize env.answer fails op s = out
  obtain ⟨r, s'⟩ := out
  cases r with
  | ok a => exact fun hend => hend
  | error e => exact fun hend => hend

/-- What is kept whether code returns or throws is kept by `caught`. -/
theorem caught (hc : Meets env P c (fun _ => E) E) :
    Meets env P c.caught (fun _ => E) E' := by
  refine tryCatch (R := E) ?_ fun e => pure fun _ _ h => h
  exact bind hc fun _ => pure fun _ _ h => h

/-- The rule of a case distinction. -/
theorem ite {b : Prop} [Decidable b] {d : Code Ans σ ε α} (hc : b → Meets env P c Q E)
    (hd : ¬ b → Meets env P d Q E) : Meets env P (if b then c else d) Q E := by
  by_cases hb : b
  · rw [if_pos hb]
    exact hc hb
  · rw [if_neg hb]
    exact hd hb

/-- What does not depend on the state may be used at once. -/
theorem of_fact {F : Prop} (h : F → Meets env P c Q E) :
    Meets env (fun l s => P l s ∧ F) c Q E :=
  fun l s hP => h hP.2 l s hP.1

/-- A statement that is skipped if a condition fails. -/
theorem when {b : Prop} [Decidable b] {c : Code Ans σ ε Unit} {Q : Unit → σ → S → Prop}
    (hc : b → Meets env P c Q E) (hskip : ¬ b → ∀ l s, P l s → Q () l s) :
    Meets env P (Code.when b c) Q E :=
  ite hc fun hb => pure (hskip hb)

end Code.Meets

end FaultRun
