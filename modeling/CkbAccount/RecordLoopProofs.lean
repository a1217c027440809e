import Mathlib.Data.List.Sort
import CkbAccount.RustOutcomeProofs

/-! # Loops over self-delimiting records

    A parser that walks a buffer record by record, hands each record to a callback
    and insists that the records end exactly at the end of the buffer.  Records
    carry a slot, and slots must increase strictly.

    The loop is described once for any record format: a format is a layout
    together with a reader that inverts it at every offset (`Reads`).  Then

    * `scan_of_records`: on a buffer that is a sequence of layouts, the loop is the
      callback's own fold (`visit`);
    * `scan_eq_ok`: the loop accepts nothing else. -/

namespace RecordLoop

open RustOutcome Outcome

variable {ε ρ σ : Type}

/-! ## Increasing slots -/

/-- `if let Some(p) = prev { if slot <= p { return Err(e) } }`. -/
def checkIncreasing (prev : Option UInt16) (slot : UInt16) (e : ε) : Outcome ε Unit :=
  match prev with
  | some p => rejectIf (slot ≤ p) e
  | none => .ok ()

/-- The slot comes after the previous one, if there is a previous one. -/
def Increases (prev : Option UInt16) (slot : UInt16) : Prop :=
  ∀ p, prev = some p → p < slot

/-- A slot is larger than the one before. -/
theorem checkIncreasing_eq_ok {prev : Option UInt16} {slot : UInt16} {e : ε} {u : Unit} :
    checkIncreasing prev slot e = .ok u ↔ Increases prev slot := by
  cases prev with
  | none => simp [checkIncreasing, Increases]
  | some p => simp [checkIncreasing, Increases]

theorem checkIncreasing_bind_eq_ok {β : Type} {prev : Option UInt16} {slot : UInt16} {e : ε}
    {f : Unit → Outcome ε β} {r : β} :
    (checkIncreasing prev slot e >>= f) = .ok r ↔ Increases prev slot ∧ f () = .ok r := by
  rw [unit_bind_eq_ok, checkIncreasing_eq_ok]

theorem checkIncreasing_ne_err {prev : Option UInt16} {slot : UInt16} {e e' : ε}
    (h : e ≠ e') : checkIncreasing prev slot e ≠ .err e' := by
  cases prev with
  | none => simp [checkIncreasing]
  | some p => exact rejectIf_ne_err h

/-- Slots that increase strictly, the first one past `prev`. -/
def IncreasingFrom : Option UInt16 → List UInt16 → Prop
  | _, [] => True
  | prev, slot :: slots => Increases prev slot ∧ IncreasingFrom (some slot) slots

/-- The running comparison is the pairwise one. -/
theorem increasingFrom_iff :
    ∀ (slots : List UInt16) (prev : Option UInt16),
      IncreasingFrom prev slots
        ↔ (∀ slot ∈ slots, Increases prev slot) ∧ slots.Pairwise (· < ·) := by
  intro slots
  induction slots with
  | nil => intro prev; simp [IncreasingFrom]
  | cons slot slots ih =>
      intro prev
      rw [IncreasingFrom, ih, List.pairwise_cons]
      constructor
      · rintro ⟨hprev, hall, hpw⟩
        have hlt : ∀ t ∈ slots, slot < t := fun t ht => hall t ht slot rfl
        refine ⟨?_, hlt, hpw⟩
        intro t ht
        rcases List.mem_cons.mp ht with rfl | ht
        · exact hprev
        · intro p hp
          exact UInt16.lt_trans (hprev p hp) (hlt t ht)
      · rintro ⟨hall, hlt, hpw⟩
        refine ⟨hall slot (List.mem_cons_self ..), ?_, hpw⟩
        intro t ht p hp
        cases hp
        exact hlt t ht

/-- Increasing from nothing is increasing. -/
theorem increasingFrom_none (slots : List UInt16) :
    IncreasingFrom none slots ↔ slots.Pairwise (· < ·) := by
  rw [increasingFrom_iff]
  constructor
  · exact fun h => h.2
  · exact fun h => ⟨fun _ _ p hp => (nomatch hp), h⟩

/-- Strictly increasing slots are pairwise distinct. -/
theorem nodup_of_increasing {slots : List UInt16} (h : slots.Pairwise (· < ·)) :
    slots.Nodup := by
  refine List.Pairwise.imp ?_ h
  intro a b hlt heq
  subst heq
  exact UInt16.lt_irrefl _ hlt

/-! ## Self-delimiting layouts -/

/-- A layout tells where it ends: two records that start the same string are equal,
    and so is what follows them. -/
def PrefixFree (layout : ρ → Bytes) (wf : ρ → Prop) : Prop :=
  ∀ a b x y, wf a → wf b → layout a ++ x = layout b ++ y → a = b ∧ x = y

/-- Sequences of one length are determined by their concatenated layouts, even when
    something follows. -/
theorem PrefixFree.flatMap_append_inj {layout : ρ → Bytes} {wf : ρ → Prop}
    (h : PrefixFree layout wf) :
    ∀ {rs ts : List ρ} {x y : Bytes}, (∀ r ∈ rs, wf r) → (∀ t ∈ ts, wf t) →
      rs.length = ts.length → rs.flatMap layout ++ x = ts.flatMap layout ++ y →
      rs = ts ∧ x = y := by
  intro rs
  induction rs with
  | nil =>
      intro ts x y _ _ hlen heq
      have hnil : ts = [] := List.length_eq_zero_iff.mp hlen.symm
      subst hnil
      exact ⟨rfl, heq⟩
  | cons r rs ih =>
      intro ts x y hrs hts hlen heq
      obtain ⟨t, ts, rfl⟩ := List.exists_cons_of_length_eq_add_one hlen.symm
      rw [List.flatMap_cons, List.flatMap_cons, List.append_assoc, List.append_assoc] at heq
      obtain ⟨rfl, hrest⟩ := h r t _ _ (hrs r (List.mem_cons_self ..))
        (hts t (List.mem_cons_self ..)) heq
      obtain ⟨rfl, hxy⟩ := ih (fun a ha => hrs a (List.mem_cons_of_mem _ ha))
        (fun a ha => hts a (List.mem_cons_of_mem _ ha)) (Nat.succ.inj hlen) hrest
      exact ⟨rfl, hxy⟩

/-- Without anything after them, not even the number of records needs to be known. -/
theorem PrefixFree.flatMap_inj {layout : ρ → Bytes} {wf : ρ → Prop}
    (h : PrefixFree layout wf) (hne : ∀ r, layout r ≠ []) :
    ∀ {rs ts : List ρ}, (∀ r ∈ rs, wf r) → (∀ t ∈ ts, wf t) →
      rs.flatMap layout = ts.flatMap layout → rs = ts := by
  intro rs
  induction rs with
  | nil =>
      intro ts _ _ heq
      cases ts with
      | nil => rfl
      | cons t ts =>
          rw [List.flatMap_nil, List.flatMap_cons] at heq
          exact absurd (List.append_eq_nil_iff.mp heq.symm).1 (hne t)
  | cons r rs ih =>
      intro ts hrs hts heq
      cases ts with
      | nil =>
          rw [List.flatMap_nil, List.flatMap_cons] at heq
          exact absurd (List.append_eq_nil_iff.mp heq).1 (hne r)
      | cons t ts =>
          rw [List.flatMap_cons, List.flatMap_cons] at heq
          obtain ⟨rfl, hrest⟩ := h r t _ _ (hrs r (List.mem_cons_self ..))
            (hts t (List.mem_cons_self ..)) heq
          rw [ih (fun a ha => hrs a (List.mem_cons_of_mem _ ha))
            (fun a ha => hts a (List.mem_cons_of_mem _ ha)) hrest]

/-! ## The loop -/

section Loop

variable (slot : ρ → UInt16) (f : σ → ρ → Outcome ε σ)

/-- `for _ in 0..count`: read the record at `off`, call back, move on.  The callback
    `f` threads its captured state. -/
def records (read : Nat → Option UInt16 → Outcome ε (ρ × Nat)) :
    Nat → Nat → Option UInt16 → σ → Outcome ε (Nat × σ)
  | 0, off, _, s => .ok (off, s)
  | n + 1, off, prev, s => do
      let (r, next) ← read off prev
      let s' ← f s r
      records read n next (some (slot r)) s'

/-- The whole parser: `count` records from `off`, and then the end of the data. -/
def scan (read : Bytes → Nat → Option UInt16 → Outcome ε (ρ × Nat)) (trailing : ε)
    (data : Bytes) (count off : Nat) (init : σ) : Outcome ε σ := do
  let (off, s) ← records slot f (read data) count off none init
  rejectIf (off ≠ data.length) trailing
  return s

/-- The callback applied to the records in order. -/
def visit : List ρ → σ → Outcome ε σ
  | [], s => .ok s
  | r :: rs, s => f s r >>= visit rs

end Loop

/-- A loop aborts only where its reader or its callback does. -/
theorem records_ne_abort {slot : ρ → UInt16} {f : σ → ρ → Outcome ε σ}
    {read : Nat → Option UInt16 → Outcome ε (ρ × Nat)} (hread : ∀ off prev, read off prev ≠ .abort)
    (hf : ∀ s r, f s r ≠ .abort) :
    ∀ (n off : Nat) (prev : Option UInt16) (s : σ), records slot f read n off prev s ≠ .abort := by
  intro n
  induction n with
  | zero =>
      intro off prev s
      simp [records]
  | succ n ih =>
      intro off prev s
      rw [records]
      exact bind_ne_abort (hread off prev) fun _ _ => bind_ne_abort (hf s _) fun _ _ => ih _ _ _

/-- A loop panics only where its body does. -/
theorem scan_ne_abort {slot : ρ → UInt16} {f : σ → ρ → Outcome ε σ}
    {read : Bytes → Nat → Option UInt16 → Outcome ε (ρ × Nat)} {trailing : ε} {data : Bytes}
    {count off : Nat} {init : σ} (hread : ∀ off prev, read data off prev ≠ .abort)
    (hf : ∀ s r, f s r ≠ .abort) :
    scan slot f read trailing data count off init ≠ .abort := by
  rw [scan]
  exact bind_ne_abort (records_ne_abort hread hf _ _ _ _) fun _ _ =>
    rejectIf_bind_ne_abort fun _ => by simp

theorem checkIncreasing_ne_abort {prev : Option UInt16} {slot : UInt16} {e : ε} :
    checkIncreasing prev slot e ≠ .abort := by
  cases prev with
  | none => simp [checkIncreasing]
  | some p => exact rejectIf_ne_abort

/-- A reader inverts a layout: at the end of any prefix it succeeds exactly on the
    layouts of well-formed records past the previous slot. -/
structure Reads (read : Bytes → Nat → Option UInt16 → Outcome ε (ρ × Nat))
    (slot : ρ → UInt16) (layout : ρ → Bytes) (wf : ρ → Prop) : Prop where
  iff : ∀ {pre rest : Bytes} {prev : Option UInt16} {r : ρ} {next : Nat},
    pre.length + rest.length < usizeSize →
    (read (pre ++ rest) pre.length prev = .ok (r, next)
      ↔ (∃ post, rest = layout r ++ post) ∧ wf r ∧ Increases prev (slot r)
        ∧ next = pre.length + (layout r).length)

/-- The records a body consists of: their layouts, back to back, in strictly
    increasing slot order. -/
structure RecordsFrom (slot : ρ → UInt16) (layout : ρ → Bytes) (wf : ρ → Prop)
    (prev : Option UInt16) (body : Bytes) (rs : List ρ) : Prop where
  bytes : body = rs.flatMap layout
  wellFormed : ∀ r ∈ rs, wf r
  increasing : IncreasingFrom prev (rs.map slot)

section Format

variable {read : Bytes → Nat → Option UInt16 → Outcome ε (ρ × Nat)} {slot : ρ → UInt16}
  {layout : ρ → Bytes} {wf : ρ → Prop} {f : σ → ρ → Outcome ε σ}

/-- On a string that holds the records, the loop is the callback's own fold. -/
theorem Reads.records_of (h : Reads read slot layout wf) :
    ∀ (rs : List ρ) (pre post : Bytes) (prev : Option UInt16) (s : σ),
      pre.length + (rs.flatMap layout ++ post).length < usizeSize →
      RecordsFrom slot layout wf prev (rs.flatMap layout) rs →
      records slot f (read (pre ++ (rs.flatMap layout ++ post))) rs.length pre.length prev s
        = visit f rs s >>= fun s' => .ok (pre.length + (rs.flatMap layout).length, s') := by
  intro rs
  induction rs with
  | nil => intro pre post prev s _ _; rfl
  | cons r rs ih =>
      intro pre post prev s hmax hrs
      have hsplit : (r :: rs).flatMap layout ++ post
          = layout r ++ (rs.flatMap layout ++ post) := by
        rw [List.flatMap_cons, List.append_assoc]
      have hlen : ((r :: rs).flatMap layout).length
          = (layout r).length + (rs.flatMap layout).length := by
        rw [List.flatMap_cons, List.length_append]
      rw [hsplit] at hmax ⊢
      -- the next record stands at the offset, so one read takes exactly its bytes
      have hread : read (pre ++ (layout r ++ (rs.flatMap layout ++ post))) pre.length prev
          = .ok (r, pre.length + (layout r).length) := by
        rw [h.iff hmax]
        exact ⟨⟨_, rfl⟩, hrs.wellFormed r (List.mem_cons_self ..), hrs.increasing.1, rfl⟩
      rw [List.length_append] at hmax
      rw [List.length_cons, records, hread, ok_bind, visit]
      cases hf : f s r with
      | err e => simp only [hf, err_bind]
      | abort => simp only [hf, abort_bind]
      | ok s₁ =>
          simp only [hf, ok_bind]
          -- the record just read joins the prefix before the induction hypothesis applies
          rw [← List.append_assoc, ← List.length_append,
            ih (pre ++ layout r) post _ s₁ (by rw [List.length_append]; omega)
              ⟨rfl, fun e he => hrs.wellFormed e (List.mem_cons_of_mem _ he),
                hrs.increasing.2⟩,
            hlen, List.length_append, Nat.add_assoc]

/-- What the loop accepts: a body of records, and nothing else. -/
theorem Reads.records_eq_ok (h : Reads read slot layout wf) {n : Nat} {pre rest : Bytes}
    {prev : Option UInt16} {s : σ} {off : Nat} {s' : σ}
    (hmax : pre.length + rest.length < usizeSize) :
    records slot f (read (pre ++ rest)) n pre.length prev s = .ok (off, s')
      ↔ ∃ rs post, rest = rs.flatMap layout ++ post
        ∧ RecordsFrom slot layout wf prev (rs.flatMap layout) rs ∧ rs.length = n
        ∧ visit f rs s = .ok s' ∧ off = pre.length + (rs.flatMap layout).length := by
  constructor
  · -- by induction on the passes; each one peels the layout of one record
    induction n generalizing pre rest prev s with
    | zero =>
        intro hloop
        cases hloop
        exact ⟨[], rest, rfl, ⟨rfl, fun _ he => absurd he List.not_mem_nil, trivial⟩, rfl, rfl, rfl⟩
    | succ n ih =>
        intro hloop
        rw [records, bind_eq_ok] at hloop
        obtain ⟨⟨r, next⟩, hread, hloop⟩ := hloop
        rw [h.iff hmax] at hread
        obtain ⟨⟨post, rfl⟩, hwf, hinc, rfl⟩ := hread
        rw [List.length_append] at hmax
        simp only [bind_eq_ok] at hloop
        obtain ⟨s₁, hf, hloop⟩ := hloop
        rw [← List.append_assoc, ← List.length_append] at hloop
        obtain ⟨rs, post', rfl, hrs, hlen, hvisit, hoff⟩ := ih
          (by rw [List.length_append]; omega) hloop
        refine ⟨r :: rs, post', ?_, ⟨rfl, ?_, hinc, hrs.increasing⟩, ?_, ?_, ?_⟩
        · rw [List.flatMap_cons, List.append_assoc]
        · intro e he
          rcases List.mem_cons.mp he with rfl | he
          · exact hwf
          · exact hrs.wellFormed e he
        · rw [List.length_cons, hlen]
        · rw [visit, hf, ok_bind, hvisit]
        · rw [hoff, List.flatMap_cons, List.length_append, List.length_append, Nat.add_assoc]
  · rintro ⟨rs, post, rfl, hrs, rfl, hvisit, rfl⟩
    rw [h.records_of rs pre post prev s hmax hrs, hvisit]
    rfl

/-- **The parser is a fold over the records** of a buffer that holds them, for any
    callback. -/
theorem Reads.scan_of_records (h : Reads read slot layout wf) {head : Bytes} {rs : List ρ}
    (s : σ) (trailing : ε) (hmax : head.length + (rs.flatMap layout).length < usizeSize)
    (hrs : RecordsFrom slot layout wf none (rs.flatMap layout) rs) :
    scan slot f read trailing (head ++ rs.flatMap layout) rs.length head.length s
      = visit f rs s := by
  have hloop := h.records_of (f := f) rs head [] none s (by rw [List.append_nil]; omega) hrs
  rw [List.append_nil] at hloop
  rw [scan, hloop, Outcome.bind_assoc]
  cases visit f rs s with
  | err e => rfl
  | abort => rfl
  | ok s' =>
      simp only [ok_bind]
      rw [rejectIf_neg (by rw [List.length_append]; exact not_not.mpr rfl)]
      rfl

/-- **What the parser accepts** on a buffer cut after its header. -/
theorem Reads.scan_eq_ok (h : Reads read slot layout wf) {head body : Bytes} {n : Nat}
    {s s' : σ} {trailing : ε} (hmax : head.length + body.length < usizeSize) :
    scan slot f read trailing (head ++ body) n head.length s = .ok s'
      ↔ ∃ rs, RecordsFrom slot layout wf none body rs ∧ rs.length = n
        ∧ visit f rs s = .ok s' := by
  constructor
  · intro hscan
    rw [scan, bind_eq_ok] at hscan
    obtain ⟨⟨off, t⟩, hloop, hscan⟩ := hscan
    rw [h.records_eq_ok hmax] at hloop
    obtain ⟨rs, post, rfl, hrs, hlen, hvisit, rfl⟩ := hloop
    simp only [rejectIf_bind_eq_ok, not_not, pure_eq, Outcome.ok.injEq] at hscan
    obtain ⟨hend, rfl⟩ := hscan
    have hpost : post = [] := by
      rw [List.length_append, List.length_append] at hend
      exact List.length_eq_zero_iff.mp (by omega)
    subst hpost
    rw [List.append_nil]
    exact ⟨rs, hrs, hlen, hvisit⟩
  · rintro ⟨rs, hrs, rfl, hvisit⟩
    have hbody := hrs.bytes
    subst hbody
    rw [h.scan_of_records s trailing hmax hrs, hvisit]

end Format

/-- **Rule for errors that cannot happen**: an error that the reader never raises, and
    the callback not while `P` holds of the passes left, never ends the loop. -/
theorem records_ne_err {slot : ρ → UInt16} {f : σ → ρ → Outcome ε σ}
    {read : Nat → Option UInt16 → Outcome ε (ρ × Nat)} {bad : ε} {P : Nat → σ → Prop}
    (hread : ∀ off prev, read off prev ≠ .err bad)
    (hcall : ∀ n s r, P (n + 1) s → f s r ≠ .err bad)
    (hkeep : ∀ n s r s', P (n + 1) s → f s r = .ok s' → P n s') :
    ∀ (n off : Nat) (prev : Option UInt16) (s : σ), P n s →
      records slot f read n off prev s ≠ .err bad := by
  intro n
  induction n with
  | zero =>
      intro off prev s _ h
      cases h
  | succ n ih =>
      intro off prev s hP
      rw [records]
      refine bind_ne_err (hread off prev) ?_
      rintro ⟨r, next⟩ -
      refine bind_ne_err (hcall n s r hP) ?_
      intro s' hs'
      exact ih next _ s' (hkeep n s r s' hP hs')

/-! ## Callbacks -/

/-- The callback that keeps every record it is given. -/
def collect (seen : List ρ) (r : ρ) : Outcome ε (List ρ) := .ok (seen ++ [r])

/-- Collecting keeps all records. -/
theorem visit_collect :
    ∀ rs seen : List ρ, visit (collect (ε := ε)) rs seen = .ok (seen ++ rs) := by
  intro rs
  induction rs with
  | nil => intro seen; rw [visit, List.append_nil]
  | cons r rs ih =>
      intro seen
      rw [visit, collect, ok_bind, ih, List.append_assoc]
      rfl

/-- **Rule for callbacks**: what every successful call preserves, with the records
    seen so far, holds of the final state. -/
theorem visit_induction {f : σ → ρ → Outcome ε σ} {P : List ρ → σ → Prop}
    (step : ∀ seen s r s', P seen s → f s r = .ok s' → P (seen ++ [r]) s') :
    ∀ (rs seen : List ρ) {s s' : σ}, P seen s → visit f rs s = .ok s' → P (seen ++ rs) s' := by
  intro rs
  induction rs with
  | nil =>
      intro seen s s' hP h
      cases h
      rw [List.append_nil]
      exact hP
  | cons r rs ih =>
      intro seen s s' hP h
      rw [visit, bind_eq_ok] at h
      obtain ⟨t, ht, h⟩ := h
      have := ih (seen ++ [r]) (step seen s r t hP ht) h
      rw [List.append_assoc] at this
      exact this

/-- A callback that carries more: when every call of `f` is a call of `g` under a
    projection of the state, so is the whole loop. -/
theorem records_map {τ : Type} {slot : ρ → UInt16} {f : σ → ρ → Outcome ε σ}
    {g : τ → ρ → Outcome ε τ} {π : σ → τ}
    (h : ∀ s r, (f s r >>= fun s' => .ok (π s')) = g (π s) r)
    (read : Nat → Option UInt16 → Outcome ε (ρ × Nat)) :
    ∀ (n off : Nat) (prev : Option UInt16) (s : σ),
      (records slot f read n off prev s >>= fun o => .ok (o.1, π o.2))
        = records slot g read n off prev (π s) := by
  intro n
  induction n with
  | zero => intro off prev s; rfl
  | succ n ih =>
      intro off prev s
      rw [records, records, Outcome.bind_assoc]
      congr 1
      funext rn
      obtain ⟨r, next⟩ := rn
      show ((f s r >>= records slot f read n next (some (slot r))) >>= _)
        = g (π s) r >>= records slot g read n next (some (slot r))
      rw [← h, Outcome.bind_assoc, Outcome.bind_assoc]
      congr 1
      funext s'
      rw [ok_bind]
      exact ih next (some (slot r)) s'

/-- A loop with less to carry. -/
theorem scan_map {τ : Type} {slot : ρ → UInt16} {f : σ → ρ → Outcome ε σ}
    {g : τ → ρ → Outcome ε τ} {π : σ → τ}
    (h : ∀ s r, (f s r >>= fun s' => .ok (π s')) = g (π s) r)
    (read : Bytes → Nat → Option UInt16 → Outcome ε (ρ × Nat)) (trailing : ε) (data : Bytes)
    (count off : Nat) (s : σ) :
    (scan slot f read trailing data count off s >>= fun s' => .ok (π s'))
      = scan slot g read trailing data count off (π s) := by
  rw [scan, scan, ← records_map h, Outcome.bind_assoc, Outcome.bind_assoc]
  congr 1
  funext o
  rw [Outcome.bind_assoc, ok_bind]
  congr 1

/-! ## Sorting by slot -/

/-- The records in slot order. -/
def sortBySlot (slot : ρ → UInt16) (rs : List ρ) : List ρ :=
  rs.insertionSort (fun r t => slot r ≤ slot t)

theorem sortBySlot_perm (slot : ρ → UInt16) (rs : List ρ) : (sortBySlot slot rs).Perm rs :=
  List.perm_insertionSort _ rs

/-- Distinct slots come out strictly increasing. -/
theorem sortBySlot_increasing {slot : ρ → UInt16} {rs : List ρ} (h : (rs.map slot).Nodup) :
    ((sortBySlot slot rs).map slot).Pairwise (· < ·) := by
  have hnodup : ((sortBySlot slot rs).map slot).Nodup :=
    ((sortBySlot_perm slot rs).map slot).nodup_iff.mpr h
  have hle : ((sortBySlot slot rs).map slot).Pairwise (· ≤ ·) := by
    rw [List.pairwise_map]
    have : Std.Total (fun r t : ρ => slot r ≤ slot t) := ⟨fun r t => UInt16.le_total _ _⟩
    have : IsTrans ρ (fun r t : ρ => slot r ≤ slot t) := ⟨fun r t u => UInt16.le_trans⟩
    exact List.pairwise_insertionSort _ rs
  refine (List.pairwise_and_iff.mpr ⟨hle, hnodup⟩).imp ?_
  rintro a b ⟨hab, hne⟩
  exact UInt16.lt_of_le_of_ne hab hne

/-- Sorting two lists whose items correspond, slot by slot, keeps the correspondence. -/
theorem forall₂_sortBySlot {τ : Type} {slot : ρ → UInt16} {slot' : τ → UInt16}
    {R : ρ → τ → Prop} (hslot : ∀ r t, R r t → slot r = slot' t) {rs : List ρ} {ts : List τ}
    (h : List.Forall₂ R rs ts) : List.Forall₂ R (sortBySlot slot rs) (sortBySlot slot' ts) := by
  have hinsert : ∀ {r : ρ} {t : τ} {rs : List ρ} {ts : List τ}, R r t → List.Forall₂ R rs ts →
      List.Forall₂ R (rs.orderedInsert (fun a b => slot a ≤ slot b) r)
        (ts.orderedInsert (fun a b => slot' a ≤ slot' b) t) := by
    intro r t rs ts hrt hrs
    induction hrs with
    | nil => exact .cons hrt .nil
    | cons hab hrest ih =>
        rw [List.orderedInsert, List.orderedInsert, hslot _ _ hrt, hslot _ _ hab]
        split
        · exact .cons hrt (.cons hab hrest)
        · exact .cons hab ih
  induction h with
  | nil => exact .nil
  | cons hab _ ih => exact hinsert hab ih

end RecordLoop
