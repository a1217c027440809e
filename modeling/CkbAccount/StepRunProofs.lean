import Mathlib.Data.List.Forall2

/-! # Runs of a labelled step relation

    A run is a finite list of steps from a start state.  Its history keeps every
    step together with the state it was taken in, so that a property of a step can
    talk about the state before it.  The rules:

    * `Run.invariant`: what every step keeps holds at the end;
    * `Run.each`: what every step establishes holds all along the history;
    * `Run.established`: what some labels establish and every step keeps holds after them;
    * `Run.traced`: what holds at the end, and not at the start, is traced to a step of the
      history;
    * `Run.counted`: a measure that grows by one on some labels counts them;
    * `Run.simulate`: a step-wise simulation extends to runs, and relates the two
      histories entry by entry;
    * `Run.trans` and `Run.imp`: runs compose, and a run of a smaller relation is a run;
    * `Run.restrict`: an invariant holds before every step of a run;
    * `countP_eq_of_forall₂`: related histories count alike. -/

namespace StepRun

universe u v w x

variable {σ : Type u} {α : Type v} {τ : Type w} {β : Type x}

/-- `Run step s₀ history s`: from `s₀` the steps of `history` lead to `s`. -/
inductive Run (step : σ → α → σ → Prop) (s₀ : σ) : List (σ × α) → σ → Prop
  | nil : Run step s₀ [] s₀
  | snoc {history : List (σ × α)} {s s' : σ} {a : α} (run : Run step s₀ history s)
      (last : step s a s') : Run step s₀ (history ++ [(s, a)]) s'

namespace Run

variable {step : σ → α → σ → Prop} {s₀ s : σ} {history : List (σ × α)}

/-- **Invariants.**  What holds at the start and is kept by every step holds at the end. -/
theorem invariant {P : σ → Prop} (hrun : Run step s₀ history s) (hstart : P s₀)
    (hstep : ∀ s a s', P s → step s a s' → P s') : P s := by
  induction hrun with
  | nil => exact hstart
  | snoc _ last ih => exact hstep _ _ _ ih last

/-- **What every step establishes holds along the whole history.** -/
theorem each {Q : σ → α → Prop} (hstep : ∀ s a s', step s a s' → Q s a)
    (hrun : Run step s₀ history s) : ∀ e ∈ history, Q e.1 e.2 := by
  induction hrun with
  | nil => intro e he; cases he
  | snoc _ last ih =>
      intro e he
      rcases List.mem_append.mp he with he | he
      · exact ih e he
      · rw [List.mem_singleton.mp he]
        exact hstep _ _ _ last

/-- **What some labels establish and every step keeps holds once one of them occurred.** -/
theorem established {P : σ → Prop} {p : α → Bool}
    (hstep : ∀ s a s', step s a s' → P s ∨ p a = true → P s')
    (hrun : Run step s₀ history s) (h : ∃ e ∈ history, p e.2 = true) : P s := by
  induction hrun with
  | nil =>
      obtain ⟨e, he, -⟩ := h
      cases he
  | snoc _ last ih =>
      obtain ⟨e, he, hp⟩ := h
      rcases List.mem_append.mp he with he | he
      · exact hstep _ _ _ last (.inl (ih ⟨e, he, hp⟩))
      · rw [List.mem_singleton.mp he] at hp
        exact hstep _ _ _ last (.inr hp)

/-- **What holds at the end and not at the start was brought about by a step of the history**,
    and a run leads up to that step. -/
theorem traced {P : σ → Prop} {E : σ → α → Prop} (hstart : ¬ P s₀)
    (hstep : ∀ s a s', step s a s' → P s' → P s ∨ E s a)
    (hrun : Run step s₀ history s) (h : P s) :
    ∃ before e after, history = before ++ e :: after ∧ Run step s₀ before e.1 ∧ E e.1 e.2 := by
  induction hrun with
  | nil => exact absurd h hstart
  | snoc run last ih =>
      rcases hstep _ _ _ last h with hbefore | hhere
      · obtain ⟨before, e, after, rfl, hrun, he⟩ := ih hbefore
        exact ⟨before, e, _, List.append_assoc .., hrun, he⟩
      · exact ⟨_, _, [], rfl, run, hhere⟩

/-- **Counting.**  A measure that a step raises by one exactly on the labels `p`
    has been raised as often as `p` occurs. -/
theorem counted {f : σ → Nat} {p : α → Bool}
    (hstep : ∀ s a s', step s a s' → f s' = f s + if p a then 1 else 0)
    (hrun : Run step s₀ history s) :
    f s = f s₀ + history.countP (fun e => p e.2) := by
  induction hrun with
  | nil => rfl
  | snoc _ last ih =>
      rw [hstep _ _ _ last, ih, List.countP_append, List.countP_singleton, Nat.add_assoc]

/-- **Simulation.**  When every step from related states is matched by a step of the
    other system, every run is matched by a run, entry by entry. -/
theorem simulate {step' : τ → β → τ → Prop} {R : σ → τ → Prop} {M : σ × α → τ × β → Prop}
    {t₀ : τ}
    (hstep : ∀ s t a s', R s t → step s a s' →
      ∃ b t', step' t b t' ∧ R s' t' ∧ M (s, a) (t, b))
    (hstart : R s₀ t₀) (hrun : Run step s₀ history s) :
    ∃ t trace, Run step' t₀ trace t ∧ R s t ∧ List.Forall₂ M history trace := by
  induction hrun with
  | nil => exact ⟨t₀, [], .nil, hstart, .nil⟩
  | snoc _ last ih =>
      obtain ⟨t, trace, htrace, hrel, hmatch⟩ := ih
      obtain ⟨b, t', hb, hrel', hentry⟩ := hstep _ t _ _ hrel last
      exact ⟨t', trace ++ [(t, b)], .snoc htrace hb, hrel',
        List.rel_append hmatch (.cons hentry .nil)⟩

/-- Runs compose. -/
theorem trans {s' : σ} {history' : List (σ × α)} (hrun : Run step s₀ history s)
    (hrun' : Run step s history' s') : Run step s₀ (history ++ history') s' := by
  induction hrun' with
  | nil =>
      rw [List.append_nil]
      exact hrun
  | snoc _ last ih =>
      rw [← List.append_assoc]
      exact .snoc ih last

/-- **An invariant holds before every step**, so that the steps of a run may assume it. -/
theorem restrict {P : σ → Prop} (hrun : Run step s₀ history s) (hstart : P s₀)
    (hstep : ∀ s a s', P s → step s a s' → P s') :
    Run (fun s a s' => P s ∧ step s a s') s₀ history s := by
  induction hrun with
  | nil => exact .nil
  | snoc run last ih => exact .snoc ih ⟨run.invariant hstart hstep, last⟩

theorem imp {step' : σ → α → σ → Prop} (hstep : ∀ s a s', step s a s' → step' s a s')
    (hrun : Run step s₀ history s) : Run step' s₀ history s := by
  induction hrun with
  | nil => exact .nil
  | snoc _ last ih => exact .snoc ih (hstep _ _ _ last)

end Run

/-- Related lists count related predicates alike. -/
theorem countP_eq_of_forall₂ {M : σ → τ → Prop} {p : σ → Bool} {q : τ → Bool}
    (hpq : ∀ a b, M a b → p a = q b) {as : List σ} {bs : List τ}
    (h : List.Forall₂ M as bs) : as.countP p = bs.countP q := by
  induction h with
  | nil => rfl
  | cons hab _ ih => rw [List.countP_cons, List.countP_cons, hpq _ _ hab, ih]

/-- An entry of a list has a related entry on the other side. -/
theorem exists_mem_of_forall₂ {M : σ → τ → Prop} {as : List σ} {bs : List τ}
    (h : List.Forall₂ M as bs) : ∀ a ∈ as, ∃ b ∈ bs, M a b := by
  induction h with
  | nil => intro a ha; cases ha
  | cons hab _ ih =>
      intro a ha
      rcases List.mem_cons.mp ha with rfl | ha
      · exact ⟨_, List.mem_cons_self .., hab⟩
      · obtain ⟨b, hb, hm⟩ := ih a ha
        exact ⟨b, List.mem_cons_of_mem _ hb, hm⟩

end StepRun
