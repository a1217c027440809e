import CkbAccount.ProcessProofs
import CkbAccount.StepRunProofs

/-! # Two processes and a pipe

    A pipe is a queue of bytes with a write end and a read end.  A write takes any
    nonempty front of what it is given, or fails when an end is closed; a read returns any
    nonempty front of what is queued; once the queue is empty and the write end closed, a
    read reports the end.  A writer and a reader take their steps in any order.

    * `Delivers`: what a reader does on a stream that is sent and then closed, however it
      is cut into reads;
    * `interleaved_delivers`: in every interleaving a reader that has returned did what it
      would do on the stream sent, and it saw an end only if the write end is closed. -/

namespace Pipe

open RustOutcome Process StepRun

variable {ε α β : Type}

/-! ## Calls -/

/-- What a reader asks for: at most `buffer` bytes, or that its end is closed. -/
inductive ReadOp where
  | read (buffer : Nat)
  | close

/-- What a writer asks for: that a chunk is sent, or that its end is closed. -/
inductive WriteOp where
  | write (chunk : Bytes)
  | close

/-- A read answers with bytes. -/
def ReadOp.Answer (ε : Type) : ReadOp → Type
  | .read _ => Except ε Bytes
  | .close => Except ε Unit

/-- A write answers with the number of bytes taken. -/
def WriteOp.Answer (ε : Type) : WriteOp → Type
  | .write _ => Except ε Nat
  | .close => Except ε Unit

/-- A process that reads. -/
abbrev Reader (ε α : Type) := Proc (ReadOp.Answer ε) α
/-- A process that writes. -/
abbrev Writer (ε β : Type) := Proc (WriteOp.Answer ε) β

section Calls

variable {ι : Type}

/-- One read, with its answer. -/
def read (buffer : Nat) : Prog (ReadOp.Answer ε) ι (Except ε Bytes) :=
  perform (ReadOp.read buffer)

/-- `close` on the read end. -/
def closeRead : Prog (ReadOp.Answer ε) ι (Except ε Unit) := perform ReadOp.close

/-- One write, which may take less than the chunk. -/
def write (chunk : Bytes) : Prog (WriteOp.Answer ε) ι (Except ε Nat) :=
  perform (WriteOp.write chunk)

/-- `close` on the write end. -/
def closeWrite : Prog (WriteOp.Answer ε) ι (Except ε Unit) := perform WriteOp.close

end Calls

/-- What a read answers at the end: no bytes, or an error. -/
def AtEnd (r : Except ε Bytes) : Prop := r = .ok [] ∨ ∃ e, r = .error e

/-! ## A reader on a stream -/

/-- `Delivers p t rest seen a`: on the stream `t`, cut in some way, `p` returns `a` with
    `rest` unread; `seen` tells whether it was told of the end. -/
inductive Delivers : Reader ε α → Bytes → Bytes → Bool → α → Prop
  | ret (a : α) (t : Bytes) : Delivers (.ret a) t t false a
  | some {n : Nat} {k : Except ε Bytes → Reader ε α} {chunk t rest : Bytes} {seen : Bool}
      {a : α} (hne : chunk ≠ []) (hle : chunk.length ≤ n)
      (next : Delivers (k (.ok chunk)) t rest seen a) :
      Delivers (.call (.read n) k) (chunk ++ t) rest seen a
  | eof {n : Nat} {k : Except ε Bytes → Reader ε α} {r : Except ε Bytes} {rest : Bytes}
      {seen : Bool} {a : α} (hend : AtEnd r) (next : Delivers (k r) [] rest seen a) :
      Delivers (.call (.read n) k) [] rest true a
  | close {k : Except ε Unit → Reader ε α} {r : Except ε Unit} {t rest : Bytes} {seen : Bool}
      {a : α} (next : Delivers (k r) t rest seen a) :
      Delivers (.call .close k) t rest seen a

/-- **Reading in two stages**: the second stage reads what the first left. -/
theorem delivers_bind_iff {p : Reader ε α} {f : α → Reader ε β} :
    ∀ {t rest : Bytes} {seen : Bool} {b : β},
      Delivers (p.bind f) t rest seen b
        ↔ ∃ a mid seen₁ seen₂, Delivers p t mid seen₁ a ∧ Delivers (f a) mid rest seen₂ b
          ∧ seen = (seen₁ || seen₂) := by
  induction p with
  | ret a =>
      intro t rest seen b
      constructor
      · intro h
        -- nothing was read yet, so all the input is left to `f`
        exact ⟨a, t, false, seen, .ret a t, h, (Bool.false_or seen).symm⟩
      · rintro ⟨a', mid, seen₁, seen₂, hp, hf, rfl⟩
        cases hp
        rw [Bool.false_or]
        exact hf
  -- the first call belongs to `p`; the induction splits what follows it
  | call op k ih =>
      intro t rest seen b
      constructor
      · intro h
        cases h with
        | some hne hle next =>
            obtain ⟨a, mid, seen₁, seen₂, hp, hf, rfl⟩ := (ih _).mp next
            exact ⟨a, mid, seen₁, seen₂, .some hne hle hp, hf, rfl⟩
        | eof hend next =>
            obtain ⟨a, mid, seen₁, seen₂, hp, hf, rfl⟩ := (ih _).mp next
            exact ⟨a, mid, true, seen₂, .eof hend hp, hf, (Bool.true_or seen₂).symm⟩
        | close next =>
            obtain ⟨a, mid, seen₁, seen₂, hp, hf, rfl⟩ := (ih _).mp next
            exact ⟨a, mid, seen₁, seen₂, .close hp, hf, rfl⟩
      · rintro ⟨a, mid, seen₁, seen₂, hp, hf, rfl⟩
        cases hp with
        | some hne hle next => exact .some hne hle ((ih _).mpr ⟨a, mid, _, _, next, hf, rfl⟩)
        | eof hend next =>
            rw [Bool.true_or]
            exact .eof hend ((ih _).mpr ⟨a, mid, _, _, next, hf, rfl⟩)
        | close next => exact .close ((ih _).mpr ⟨a, mid, _, _, next, hf, rfl⟩)

/-- **The `?` of a reader**: the whole succeeds when both stages do. -/
theorem delivers_bind_ok {ι : Type} {p : Prog (ReadOp.Answer ε) ι α}
    {f : α → Prog (ReadOp.Answer ε) ι β} {t rest : Bytes} {seen : Bool} {b : β} :
    Delivers (p >>= f : Prog (ReadOp.Answer ε) ι β) t rest seen (.ok b)
      ↔ ∃ a mid seen₁ seen₂, Delivers p t mid seen₁ (.ok a)
        ∧ Delivers (f a) mid rest seen₂ (.ok b) ∧ seen = (seen₁ || seen₂) := by
  rw [Prog.bind_def]
  constructor
  · intro h
    obtain ⟨r, mid, seen₁, seen₂, hp, hf, rfl⟩ := delivers_bind_iff.mp h
    cases r with
    | ok a => exact ⟨a, mid, seen₁, seen₂, hp, hf, rfl⟩
    | err e => cases hf
    | abort => cases hf
  · rintro ⟨a, mid, seen₁, seen₂, hp, hf, rfl⟩
    exact delivers_bind_iff.mpr ⟨.ok a, mid, seen₁, seen₂, hp, hf, rfl⟩

/-- A reader that has returned reads nothing. -/
theorem delivers_ret_iff {a b : α} {t rest : Bytes} {seen : Bool} :
    Delivers (.ret a : Reader ε α) t rest seen b ↔ b = a ∧ rest = t ∧ seen = false := by
  constructor
  · intro h
    cases h
    exact ⟨rfl, rfl, rfl⟩
  · rintro ⟨rfl, rfl, rfl⟩
    exact .ret b rest

/-- Nor does code that returns. -/
theorem delivers_pure {ι : Type} {a b : α} {t rest : Bytes} {seen : Bool} :
    Delivers (pure a : Prog (ReadOp.Answer ε) ι α) t rest seen (.ok b)
      ↔ a = b ∧ rest = t ∧ seen = false := by
  constructor
  · intro h
    obtain ⟨hb, hrest, hseen⟩ := delivers_ret_iff.mp h
    exact ⟨(Outcome.ok.inj hb).symm, hrest, hseen⟩
  · rintro ⟨rfl, rfl, rfl⟩
    exact .ret (Outcome.ok a) rest

/-- Code that makes no call reads nothing. -/
theorem delivers_of {ι : Type} {x : Outcome ι α} {t rest : Bytes} {seen : Bool} {a : α} :
    Delivers (Prog.of x : Prog (ReadOp.Answer ε) ι α) t rest seen (.ok a)
      ↔ x = .ok a ∧ rest = t ∧ seen = false := by
  constructor
  · intro h
    obtain ⟨hx, hrest, hseen⟩ := delivers_ret_iff.mp h
    exact ⟨hx.symm, hrest, hseen⟩
  · rintro ⟨rfl, rfl, rfl⟩
    exact .ret (Outcome.ok a) rest

/-- A check in front of a reader. -/
theorem delivers_of_bind {ι : Type} {x : Outcome ι α} {f : α → Prog (ReadOp.Answer ε) ι β}
    {t rest : Bytes} {seen : Bool} {b : β} :
    Delivers (Prog.of x >>= f : Prog (ReadOp.Answer ε) ι β) t rest seen (.ok b)
      ↔ ∃ a, x = .ok a ∧ Delivers (f a) t rest seen (.ok b) := by
  rw [delivers_bind_ok]
  constructor
  · rintro ⟨a, mid, seen₁, seen₂, hof, hf, rfl⟩
    obtain ⟨hx, rfl, rfl⟩ := delivers_of.mp hof
    exact ⟨a, hx, hf⟩
  · rintro ⟨a, hx, hf⟩
    exact ⟨a, t, false, seen, delivers_of.mpr ⟨hx, rfl, rfl⟩, hf, (Bool.false_or seen).symm⟩

/-- One read: some bytes, or word of the end. -/
theorem delivers_read {ι : Type} {n : Nat} {t rest : Bytes} {seen : Bool}
    {r : Except ε Bytes} :
    Delivers (read n : Prog (ReadOp.Answer ε) ι (Except ε Bytes)) t rest seen (Outcome.ok r)
      ↔ (∃ chunk, chunk ≠ [] ∧ chunk.length ≤ n ∧ t = chunk ++ rest ∧ r = .ok chunk
          ∧ seen = false)
        ∨ (t = [] ∧ rest = [] ∧ AtEnd r ∧ seen = true) := by
  constructor
  · intro h
    cases h with
    | some hne hle next =>
        obtain ⟨hr, rfl, rfl⟩ := delivers_ret_iff.mp next
        exact Or.inl ⟨_, hne, hle, rfl, Outcome.ok.inj hr, rfl⟩
    | eof hend next =>
        obtain ⟨hr, rfl, rfl⟩ := delivers_ret_iff.mp next
        cases hr
        exact Or.inr ⟨rfl, rfl, hend, rfl⟩
  · rintro (⟨chunk, hne, hle, rfl, rfl, rfl⟩ | ⟨rfl, rfl, hend, rfl⟩)
    · exact .some hne hle (.ret (Outcome.ok (Except.ok chunk)) rest)
    · exact .eof hend (.ret (Outcome.ok r) [])

/-- Closing reads nothing. -/
theorem delivers_close {ι : Type} {t rest : Bytes} {seen : Bool} {r : Except ε Unit} :
    Delivers (closeRead : Prog (ReadOp.Answer ε) ι (Except ε Unit)) t rest seen (Outcome.ok r)
      ↔ rest = t ∧ seen = false := by
  constructor
  · intro h
    cases h with
    | close next => exact (delivers_ret_iff.mp next).2
  · rintro ⟨rfl, rfl⟩
    exact .close (.ret (Outcome.ok r) rest)

/-- A relabelled error leaves successes alone. -/
theorem delivers_mapErr_ok {ι ι' : Type} {g : ι → ι'} {p : Prog (ReadOp.Answer ε) ι α}
    {t rest : Bytes} {seen : Bool} {a : α} :
    Delivers (p.mapErr g) t rest seen (.ok a) ↔ Delivers p t rest seen (.ok a) := by
  constructor
  · intro h
    obtain ⟨r, mid, seen₁, seen₂, hp, hf, rfl⟩ := delivers_bind_iff.mp h
    obtain ⟨hr, rfl, rfl⟩ := delivers_ret_iff.mp hf
    rw [Outcome.mapErr_eq_ok.mp hr.symm] at hp
    rw [Bool.or_false]
    exact hp
  · intro hp
    exact delivers_bind_iff.mpr
      ⟨.ok a, rest, seen, false, hp, .ret _ _, (Bool.or_false seen).symm⟩

/-! ## Both processes -/

/-- A writer and a reader on one pipe.  `sent` records what went into the queue. -/
structure System (ε α β : Type) where
  writer : Writer ε β
  reader : Reader ε α
  queue : Bytes
  sent : Bytes
  writerOpen : Bool
  readerOpen : Bool

/-- Whose turn it is. -/
inductive Actor where
  | writer
  | reader

/-- Before the first step. -/
def start (w : Writer ε β) (p : Reader ε α) : System ε α β where
  writer := w
  reader := p
  queue := []
  sent := []
  writerOpen := true
  readerOpen := true

/-- What one party can do.  A process that returns gives up its end of the pipe; the
    writer is the root process, and nothing runs after it has returned. -/
inductive Step : System ε α β → Actor → System ε α β → Prop
  | write {s : System ε α β} {chunk : Bytes} {k : Except ε Nat → Writer ε β} {n : Nat}
      (hcall : s.writer = .call (.write chunk) k) (hw : s.writerOpen = true)
      (hr : s.readerOpen = true) (hpos : 0 < n) (hle : n ≤ chunk.length) :
      Step s .writer { s with
        writer := k (.ok n)
        queue := s.queue ++ chunk.take n
        sent := s.sent ++ chunk.take n }
  | writeFails {s : System ε α β} {chunk : Bytes} {k : Except ε Nat → Writer ε β} {e : ε}
      (hcall : s.writer = .call (.write chunk) k)
      (hclosed : s.writerOpen = false ∨ s.readerOpen = false) :
      Step s .writer { s with writer := k (.error e) }
  | closeWriter {s : System ε α β} {k : Except ε Unit → Writer ε β}
      (hcall : s.writer = .call .close k) :
      Step s .writer { s with writer := k (.ok ()), writerOpen := false }
  | closeWriterFails {s : System ε α β} {k : Except ε Unit → Writer ε β} {e : ε}
      (hcall : s.writer = .call .close k) :
      Step s .writer { s with writer := k (.error e) }
  | read {s : System ε α β} {n : Nat} {k : Except ε Bytes → Reader ε α} {chunk rest : Bytes}
      (hcall : s.reader = .call (.read n) k) (hr : s.readerOpen = true)
      (hqueue : s.queue = chunk ++ rest) (hne : chunk ≠ []) (hle : chunk.length ≤ n) :
      Step s .reader { s with reader := k (.ok chunk), queue := rest }
  | readEnd {s : System ε α β} {n : Nat} {k : Except ε Bytes → Reader ε α}
      {r : Except ε Bytes} (hcall : s.reader = .call (.read n) k) (hr : s.readerOpen = true)
      (hqueue : s.queue = []) (hw : s.writerOpen = false) (hend : AtEnd r) :
      Step s .reader { s with reader := k r }
  | closeReader {s : System ε α β} {k : Except ε Unit → Reader ε α}
      (hcall : s.reader = .call .close k) :
      Step s .reader { s with reader := k (.ok ()), readerOpen := false }
  | closeReaderFails {s : System ε α β} {k : Except ε Unit → Reader ε α} {e : ε}
      (hcall : s.reader = .call .close k) :
      Step s .reader { s with reader := k (.error e) }
  | exitReader {s : System ε α β} {a : α} (hret : s.reader = .ret a) :
      Step s .reader { s with readerOpen := false }

/-- The invariant of a reader that started as `p`: the bytes sent are those it has read,
    followed by the queue, and whatever it would still do on a stream, `p` would do on that
    stream with the bytes read in front of it. -/
def Reading (p : Reader ε α) (s : System ε α β) : Prop :=
  ∃ consumed seen, s.sent = consumed ++ s.queue
    ∧ (seen = true → s.queue = [] ∧ s.writerOpen = false)
    ∧ ∀ t rest seen' a, (seen = true → t = []) → Delivers s.reader t rest seen' a →
      Delivers p (consumed ++ t) rest (seen || seen') a

/-- Before the first step nothing is read. -/
theorem reading_start (w : Writer ε β) (p : Reader ε α) : Reading p (start w p) := by
  refine ⟨[], false, rfl, ?_, ?_⟩
  · intro h
    cases h
  · intro t rest seen' a _ h
    rw [Bool.false_or]
    exact h

/-- **One step keeps the invariant**: only the reader moves the boundary between what is
    read and what is queued, and once it has seen the end nothing is written any more. -/
theorem Reading.step {p : Reader ε α} {s s' : System ε α β} {actor : Actor}
    (h : Reading p s) (hstep : Step s actor s') : Reading p s' := by
  obtain ⟨consumed, seen, hsent, hseen, hwould⟩ := h
  cases hstep with
  | write hcall hw hr hpos hle =>
      refine ⟨consumed, seen, ?_, ?_, hwould⟩
      · show s.sent ++ _ = consumed ++ (s.queue ++ _)
        rw [hsent, List.append_assoc]
      · -- no write is taken once the end was seen
        intro hs
        rw [(hseen hs).2] at hw
        cases hw
  | writeFails hcall hclosed => exact ⟨consumed, seen, hsent, hseen, hwould⟩
  | closeWriter hcall =>
      exact ⟨consumed, seen, hsent, fun hs => ⟨(hseen hs).1, rfl⟩, hwould⟩
  | closeWriterFails hcall => exact ⟨consumed, seen, hsent, hseen, hwould⟩
  | @read n k chunk rest hcall hr hqueue hne hle =>
      -- bytes are queued, so the reader has not been told of the end
      have hnot : seen = false := by
        cases seen with
        | false => rfl
        | true =>
            have hnil := (hseen rfl).1
            rw [hqueue] at hnil
            exact absurd (List.append_eq_nil_iff.mp hnil).1 hne
      subst hnot
      refine ⟨consumed ++ chunk, false, ?_, nofun, ?_⟩
      · rw [hsent, hqueue, List.append_assoc]
      · intro t rest' seen' a ht hnext
        rw [List.append_assoc]
        refine hwould _ _ _ _ nofun ?_
        rw [hcall]
        exact .some hne hle hnext
  | @readEnd n k r hcall hr hqueue hw hend =>
      -- from here on only the empty stream is left to talk about
      refine ⟨consumed, true, hsent, fun _ => ⟨hqueue, hw⟩, ?_⟩
      intro t rest' seen' a ht hnext
      have hnil := ht rfl
      subst hnil
      have hcall' : Delivers s.reader [] rest' true a := by
        rw [hcall]
        exact .eof hend hnext
      have := hwould [] rest' true a (fun _ => rfl) hcall'
      rw [Bool.or_true] at this
      rw [Bool.true_or]
      exact this
  | @closeReader k hcall =>
      refine ⟨consumed, seen, hsent, hseen, ?_⟩
      intro t rest' seen' a ht hnext
      refine hwould t rest' seen' a ht ?_
      rw [hcall]
      exact .close hnext
  | @closeReaderFails k e hcall =>
      refine ⟨consumed, seen, hsent, hseen, ?_⟩
      intro t rest' seen' a ht hnext
      refine hwould t rest' seen' a ht ?_
      rw [hcall]
      exact .close hnext
  | exitReader hret => exact ⟨consumed, seen, hsent, hseen, hwould⟩

/-- **Interleavings do not matter to the reader.**  When the reader has returned, it did
    what it would do on the stream sent so far, with the queue unread; if it was told of
    the end, the write end is closed and nothing is queued. -/
theorem interleaved_delivers {w : Writer ε β} {p : Reader ε α}
    {history : List (System ε α β × Actor)} {s : System ε α β} {a : α}
    (hrun : Run Step (start w p) history s) (hret : s.reader = .ret a) :
    ∃ seen, Delivers p s.sent s.queue seen a
      ∧ (seen = true → s.queue = [] ∧ s.writerOpen = false) := by
  obtain ⟨consumed, seen, hsent, hseen, hwould⟩ :=
    hrun.invariant (reading_start w p) (fun _ _ _ h hstep => h.step hstep)
  refine ⟨seen, ?_, hseen⟩
  have := hwould s.queue s.queue false a (fun hs => (hseen hs).1)
    (by rw [hret]; exact .ret a s.queue)
  rw [Bool.or_false] at this
  rw [hsent]
  exact this

end Pipe
