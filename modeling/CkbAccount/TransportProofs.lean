import CkbAccount.PipeProofs
import CkbAccount.VerifierProofs

/-! # The pipe between AccountLock and a verifier

    The write loop of `spawn_verifier` and the `read_request` that the three verifiers
    share, as two processes on one pipe.  The machine may cut writes and reads as it likes
    and run the two in any order.

    * `Writing`: what the parent has sent at any point of any run;
    * `readRequest_delivers`: the streams `read_request` accepts;
    * `verifier_transport`: a verifier that has a request has exactly the parent's, and the
      parent is done. -/

namespace CkbTransport

open RustOutcome Outcome LittleEndian Process Pipe StepRun CkbProtocol CkbTransaction
open CkbClientData CkbRequestWire

/-! ## The two processes -/

/-- The `while offset < request.len()` loop of `spawn_verifier` and the `close` after it.
    Every pass writes at least one byte, so `request.len() + 1` passes do. -/
def writeLoop (request : Bytes) :
    Nat → Nat → Prog (WriteOp.Answer SysError) ProtocolError Unit
  | 0, _ => Proc.ret .abort
  | fuel + 1, offset =>
      if offset < request.length then do
        let chunk ← Prog.of (slice request offset request.length)
        let written ← Prog.of (orErr .verifierFailure (← write chunk))
        Prog.of (rejectIf (written = 0) .verifierFailure)
        let offset ← Prog.of (okOr .lengthOverflow (checkedAdd offset written))
        writeLoop request fuel offset
      else do
        Prog.of (orErr .verifierFailure (← closeWrite))

/-- The parent from the first write on. -/
def sendRequest (request : Bytes) : Prog (WriteOp.Answer SysError) ProtocolError Unit :=
  writeLoop request (request.length + 1) 0

/-- `read_exact`, with what it has read so far. -/
def readExact (len : Nat) : Nat → Bytes → Prog (ReadOp.Answer SysError) Unit Bytes
  | 0, _ => Proc.ret .abort
  | fuel + 1, output =>
      if output.length < len then do
        let chunk ← Prog.of (orErr () (← read (len - output.length)))
        Prog.of (rejectIf (chunk = []) ())
        let _ ← Prog.of (okOr () (checkedAdd output.length chunk.length))
        readExact len fuel (output ++ chunk)
      else return output

/-- `if !matches!(read(fd, &mut extra), Ok(0) | Err(OtherEndClosed))`. -/
def readEnd : Prog (ReadOp.Answer SysError) Exit Unit := do
  match ← read 1 with
  | .ok [] => return ()
  | .error .otherEndClosed => return ()
  | _ => Prog.of (.err .malformedRequest)

/-- `read_request`. -/
def readRequest (inheritedFds : List UInt64) : Prog (ReadOp.Answer SysError) Exit Bytes :=
  match inheritedFds with
  | [_] => do
      let header ← (readExact verifierRequestHeaderLen (verifierRequestHeaderLen + 1) []).mapErr
        (fun _ => Exit.malformedRequest)
      let auxLen ← Prog.of (CkbVerifier.headerLength header 80 84)
      let proofLen ← Prog.of (CkbVerifier.headerLength header 84 88)
      let total ← Prog.of (okOr .malformedRequest
        (((checkedAdd verifierRequestHeaderLen auxLen).bind
          (fun v => checkedAdd v proofLen)).filter (fun v => v ≤ verifierMaxRequestLen)))
      let body ← (readExact (total - verifierRequestHeaderLen)
        (total - verifierRequestHeaderLen + 1) []).mapErr (fun _ => Exit.malformedRequest)
      readEnd
      Prog.of (orErr .internalError (← closeRead))
      return header ++ body
  | _ => Prog.of (.err .malformedRequest)

/-! ## The parent -/

/-- The rest of a pass of the write loop, after the `write`. -/
def afterWrite (request : Bytes) (fuel offset : Nat) (r : Except SysError Nat) :
    Prog (WriteOp.Answer SysError) ProtocolError Unit := do
  let written ← Prog.of (orErr .verifierFailure r)
  Prog.of (rejectIf (written = 0) .verifierFailure)
  let offset ← Prog.of (okOr .lengthOverflow (checkedAdd offset written))
  writeLoop request fuel offset

theorem writeLoop_of_lt {request : Bytes} {offset : Nat} (h : offset < request.length)
    (fuel : Nat) :
    writeLoop request (fuel + 1) offset
      = Proc.call (WriteOp.write (request.drop offset)) (afterWrite request fuel offset) := by
  have hslice : (slice request offset request.length : Outcome ProtocolError Bytes)
      = .ok (request.drop offset) := by
    rw [slice, if_pos ⟨Nat.le_of_lt h, Nat.le_refl _⟩,
      List.take_of_length_le (by rw [List.length_drop])]
  rw [writeLoop, if_pos h, hslice]
  rfl

theorem writeLoop_of_ge {request : Bytes} {offset : Nat} (h : ¬ offset < request.length)
    (fuel : Nat) :
    writeLoop request (fuel + 1) offset
      = Proc.call WriteOp.close
        (fun r => Prog.of (orErr ProtocolError.verifierFailure r)) := by
  rw [writeLoop, if_neg h]
  rfl

theorem afterWrite_ok {request : Bytes} {fuel offset n : Nat} (hpos : 0 < n)
    (hlt : offset + n < usizeSize) :
    afterWrite request fuel offset (.ok n) = writeLoop request fuel (offset + n) := by
  have hcheck : rejectIf (n = 0) ProtocolError.verifierFailure = .ok () :=
    rejectIf_neg (by omega) _
  have hadd : okOr ProtocolError.lengthOverflow (checkedAdd offset n) = .ok (offset + n) := by
    rw [checkedAdd_of_lt hlt, okOr_some]
  rw [afterWrite, orErr, Prog.of_bind, Prog.resume, hcheck, Prog.of_bind, Prog.resume, hadd,
    Prog.of_bind, Prog.resume]

/-- **What the parent has done at any point**: it is in the loop with a front of the
    request sent and its end open, or it has sent everything and closed its end, or it has
    given up with its end open. -/
inductive Writing {α : Type} (request : Bytes)
    (s : System SysError α (Outcome ProtocolError Unit)) : Prop
  | loop (fuel offset : Nat) (hwriter : s.writer = writeLoop request fuel offset)
      (hle : offset ≤ request.length) (hfuel : request.length - offset < fuel)
      (hsent : s.sent = request.take offset) (hopen : s.writerOpen = true)
  | done (hwriter : s.writer = .ret (.ok ())) (hsent : s.sent = request)
  | failed (e : ProtocolError) (hwriter : s.writer = .ret (.err e)) (hopen : s.writerOpen = true)

theorem writing_start {α : Type} (request : Bytes) (p : Reader SysError α) :
    Writing request (start (sendRequest request) p) :=
  .loop (request.length + 1) 0 rfl (Nat.zero_le _) (by omega) List.take_zero.symm rfl

/-- **What the parent waits for**: the next write, or the close after the last one. -/
theorem Writing.of_call {α : Type} {request : Bytes}
    {s : System SysError α (Outcome ProtocolError Unit)} (h : Writing request s) {op : WriteOp}
    {k : WriteOp.Answer SysError op → Pipe.Writer SysError (Outcome ProtocolError Unit)}
    (hcall : s.writer = .call op k) :
    s.writerOpen = true
      ∧ ((∃ fuel offset, offset < request.length ∧ request.length - offset ≤ fuel
          ∧ s.sent = request.take offset
          ∧ Proc.call op k
            = Proc.call (WriteOp.write (request.drop offset)) (afterWrite request fuel offset))
        ∨ (s.sent = request
          ∧ Proc.call op k = Proc.call WriteOp.close
            (fun r => Prog.of (orErr ProtocolError.verifierFailure r)))) := by
  cases h with
  | loop fuel offset hwriter hle hfuel hsent hopen =>
      obtain ⟨fuel, rfl⟩ : ∃ m, fuel = m + 1 := ⟨fuel - 1, by omega⟩
      rw [hcall] at hwriter
      refine ⟨hopen, ?_⟩
      by_cases hlt : offset < request.length
      · rw [writeLoop_of_lt hlt] at hwriter
        exact Or.inl ⟨fuel, offset, hlt, by omega, hsent, hwriter⟩
      · rw [writeLoop_of_ge hlt] at hwriter
        refine Or.inr ⟨?_, hwriter⟩
        rw [hsent, List.take_of_length_le (by omega)]
  | done hwriter hsent =>
      rw [hcall] at hwriter
      cases hwriter
  | failed e hwriter hopen =>
      rw [hcall] at hwriter
      cases hwriter

/-- **One step keeps the parent's invariant.**  The reader's steps do not touch it. -/
theorem Writing.step {α : Type} {request : Bytes} (hmax : request.length < usizeSize)
    {s s' : System SysError α (Outcome ProtocolError Unit)} {actor : Actor}
    (h : Writing request s) (hstep : Step s actor s') : Writing request s' := by
  -- a step of the reader leaves writer, stream and write end alone
  have hframe : s'.writer = s.writer → s'.sent = s.sent → s'.writerOpen = s.writerOpen →
      Writing request s' := by
    intro hw hs ho
    cases h with
    | loop fuel offset hwriter hle hfuel hsent hopen =>
        exact .loop fuel offset (hw.trans hwriter) hle hfuel (hs.trans hsent) (ho.trans hopen)
    | done hwriter hsent => exact .done (hw.trans hwriter) (hs.trans hsent)
    | failed e hwriter hopen => exact .failed e (hw.trans hwriter) (ho.trans hopen)
  cases hstep with
  | read => exact hframe rfl rfl rfl
  | readEnd => exact hframe rfl rfl rfl
  | closeReader => exact hframe rfl rfl rfl
  | closeReaderFails => exact hframe rfl rfl rfl
  | exitReader => exact hframe rfl rfl rfl
  | @write chunk k n hcall hwo hro hpos hn =>
      obtain ⟨hopen, ⟨fuel, offset, hlt, hfuel, hsent, heq⟩ | ⟨-, heq⟩⟩ := h.of_call hcall
      · cases heq
        rw [List.length_drop] at hn
        refine .loop fuel (offset + n) (afterWrite_ok hpos (by omega)) (by omega) (by omega)
          ?_ hopen
        show s.sent ++ (request.drop offset).take n = request.take (offset + n)
        rw [hsent, List.take_add]
      · cases heq
  | @writeFails chunk k e hcall hclosed =>
      obtain ⟨hopen, ⟨fuel, offset, -, -, -, heq⟩ | ⟨-, heq⟩⟩ := h.of_call hcall
      · cases heq
        exact .failed .verifierFailure rfl hopen
      · cases heq
  | @closeWriter k hcall =>
      obtain ⟨-, ⟨fuel, offset, -, -, -, heq⟩ | ⟨hsent, heq⟩⟩ := h.of_call hcall
      · cases heq
      · cases heq
        exact .done rfl hsent
  | @closeWriterFails k e hcall =>
      obtain ⟨hopen, ⟨fuel, offset, -, -, -, heq⟩ | ⟨-, heq⟩⟩ := h.of_call hcall
      · cases heq
      · cases heq
        exact .failed .verifierFailure rfl hopen

/-! ## The child -/

/-- **Exact reads**: a successful one took the missing bytes off the stream and was not
    told of the end. -/
theorem readExact_delivers {len : Nat} :
    ∀ {fuel : Nat} {output t rest out : Bytes} {seen : Bool}, output.length ≤ len →
      Delivers (readExact len fuel output) t rest seen (.ok out) →
      seen = false ∧ out.length = len ∧ ∃ got, t = got ++ rest ∧ out = output ++ got := by
  intro fuel
  induction fuel with
  | zero =>
      intro output t rest out seen _ h
      cases h
  | succ fuel ih =>
      intro output t rest out seen hle h
      rw [readExact] at h
      by_cases hlt : output.length < len
      · rw [if_pos hlt, delivers_bind_ok] at h
        obtain ⟨r, mid, seen₁, seen₂, hread, h₁, rfl⟩ := h
        obtain ⟨chunk, hr, h₂⟩ := delivers_of_bind.mp h₁
        obtain ⟨u, hne, h₃⟩ := delivers_of_bind.mp h₂
        obtain ⟨sum, -, h₄⟩ := delivers_of_bind.mp h₃
        rw [orErr_eq_ok] at hr
        rw [rejectIf_eq_ok] at hne
        subst hr
        rcases delivers_read.mp hread with ⟨chunk', -, hn, rfl, hc, rfl⟩ | ⟨-, -, hend, -⟩
        · cases hc
          obtain ⟨hseen, hlen, got, rfl, rfl⟩ := ih (by rw [List.length_append]; omega) h₄
          refine ⟨by rw [hseen]; rfl, hlen, chunk ++ got, ?_, ?_⟩
          · rw [List.append_assoc]
          · rw [List.append_assoc]
        · -- the end is an empty read or an error, and both were ruled out
          rcases hend with hend | ⟨e, hend⟩
          · cases hend
            exact absurd rfl hne
          · cases hend
      · rw [if_neg hlt] at h
        obtain ⟨rfl, rfl, rfl⟩ := delivers_pure.mp h
        exact ⟨rfl, by omega, [], rfl, (List.append_nil _).symm⟩

/-- The probe for trailing bytes passes only at the end. -/
theorem readEnd_delivers {t rest : Bytes} {seen : Bool}
    (h : Delivers readEnd t rest seen (.ok ())) : t = [] ∧ rest = [] ∧ seen = true := by
  rw [readEnd, delivers_bind_ok] at h
  obtain ⟨r, mid, seen₁, seen₂, hread, h, rfl⟩ := h
  rcases delivers_read.mp hread with ⟨chunk, hne, -, rfl, rfl, rfl⟩ | ⟨rfl, rfl, hend, rfl⟩
  · obtain ⟨byte, tail, rfl⟩ := List.exists_cons_of_ne_nil hne
    cases h
  · rw [Bool.true_or]
    refine ⟨rfl, ?_, rfl⟩
    rcases hend with rfl | ⟨e, rfl⟩
    · exact (delivers_pure.mp h).2.1
    · cases e with
      | otherEndClosed => exact (delivers_pure.mp h).2.1
      | _ => cases h

/-- The two lengths in a header. -/
def auxLength (t : Bytes) : Nat := (u32FromLe ((t.drop 80).take 4)).toNat

/-- The length of the proof that a header states. -/
def proofLength (t : Bytes) : Nat := (u32FromLe ((t.drop 84).take 4)).toNat

/-- The streams that hold exactly one request frame. -/
structure Framed (t : Bytes) : Prop where
  header : 96 ≤ t.length
  total : t.length = 96 + auxLength t + proofLength t
  limit : t.length ≤ verifierMaxRequestLen

theorem headerLength_eq_ok {header : Bytes} {lo n : Nat}
    (h : CkbVerifier.headerLength header lo (lo + 4) = .ok n) :
    n = (u32FromLe ((header.drop lo).take 4)).toNat := by
  rw [CkbVerifier.headerLength] at h
  obtain ⟨window, hslice, h⟩ := bind_eq_ok.mp h
  obtain ⟨-, rfl⟩ := slice_eq_ok.mp hslice
  obtain ⟨arr, harr, h⟩ := bind_eq_ok.mp h
  cases h
  rw [← toByteArr_eq_ok.mp harr, show lo + 4 - lo = 4 by omega]

/-- **What `read_request` accepts**: a stream that is one frame, all of it, and only after
    word of the end. -/
theorem readRequest_delivers {fds : List UInt64} {t rest b : Bytes} {seen : Bool}
    (h : Delivers (readRequest fds) t rest seen (.ok b)) :
    b = t ∧ rest = [] ∧ seen = true ∧ Framed t := by
  match fds with
  | [] => cases h
  | _ :: _ :: _ => cases h
  | [fd] =>
      rw [readRequest, delivers_bind_ok] at h
      obtain ⟨header, mid, seen₁, seen₂, hheader, h₁, rfl⟩ := h
      obtain ⟨auxLen, haux, h₂⟩ := delivers_of_bind.mp h₁
      obtain ⟨proofLen, hproof, h₃⟩ := delivers_of_bind.mp h₂
      obtain ⟨total, htotal, h₄⟩ := delivers_of_bind.mp h₃
      obtain ⟨body, mid₂, seen₃, seen₄, hbody, h₅, rfl⟩ := delivers_bind_ok.mp h₄
      obtain ⟨u, mid₃, seen₅, seen₆, hend, h₆, rfl⟩ := delivers_bind_ok.mp h₅
      obtain ⟨r, mid₄, seen₇, seen₈, hclose, h₇, rfl⟩ := delivers_bind_ok.mp h₆
      obtain ⟨v, -, h₈⟩ := delivers_of_bind.mp h₇
      obtain ⟨rfl, rfl, rfl⟩ := delivers_pure.mp h₈
      obtain ⟨rfl, rfl⟩ := delivers_close.mp hclose
      -- the frame is the header, the body and nothing else
      obtain ⟨rfl, hheaderLen, got, rfl, hgot⟩ :=
        readExact_delivers (Nat.zero_le _) (delivers_mapErr_ok.mp hheader)
      obtain ⟨rfl, hbodyLen, got', rfl, hgot'⟩ :=
        readExact_delivers (Nat.zero_le _) (delivers_mapErr_ok.mp hbody)
      obtain ⟨rfl, rfl, rfl⟩ := readEnd_delivers hend
      rw [List.nil_append] at hgot hgot'
      subst hgot
      subst hgot'
      have hheaderLen : header.length = 96 := hheaderLen
      obtain ⟨rfl, hmax⟩ := requestTotal_eq_some.mp (okOr_eq_ok.mp htotal)
      have hbodyLen : body.length = auxLen + proofLen := by
        rw [hbodyLen, show verifierRequestHeaderLen = 96 from rfl]
        omega
      have hfront : ∀ lo, lo + 4 ≤ 96 →
          ((header ++ body).drop lo).take 4 = (header.drop lo).take 4 := by
        intro lo hlo
        rw [List.drop_append_of_le_length (by omega),
          List.take_append_of_le_length (by rw [List.length_drop]; omega)]
      have hauxLen : auxLength (header ++ body) = auxLen := by
        rw [auxLength, hfront 80 (by decide), headerLength_eq_ok haux]
      have hproofLen : proofLength (header ++ body) = proofLen := by
        rw [proofLength, hfront 84 (by decide), headerLength_eq_ok hproof]
      rw [List.append_nil]
      refine ⟨rfl, rfl, rfl, ⟨?_, ?_, ?_⟩⟩
      · rw [List.length_append]
        omega
      · rw [hauxLen, hproofLen, List.length_append]
        omega
      · rw [List.length_append]
        omega

/-! ## Both -/

/-- Whatever the writer, a child that returns `Ok` has read all of a framed stream, and the
    write end is closed. -/
theorem readRequest_of_run {β : Type} {w : Pipe.Writer SysError β} {fds : List UInt64}
    {history : List (System SysError (Outcome Exit Bytes) β × Actor)}
    {s : System SysError (Outcome Exit Bytes) β} {b : Bytes}
    (hrun : Run Step (start w (readRequest fds)) history s) (hret : s.reader = .ret (.ok b)) :
    b = s.sent ∧ s.writerOpen = false ∧ Framed s.sent := by
  obtain ⟨seen, hdelivers, hseen⟩ := interleaved_delivers hrun hret
  obtain ⟨hb, -, rfl, hframed⟩ := readRequest_delivers hdelivers
  exact ⟨hb, (hseen rfl).2, hframed⟩

/-- The lengths in the header of a request are those of its parts. -/
theorem lengths_of_layout {q : VerifierRequest} (hwf : q.WellFormed) :
    auxLength q.layout = q.aux.length ∧ proofLength q.layout = q.proof.length := by
  have ha : q.aux.length ≤ 4096 := hwf.aux_le
  have hp : q.proof.length ≤ 65536 := hwf.proof_le
  obtain ⟨front, hfront, hlayout⟩ : ∃ front : Bytes, front.length = 80
      ∧ q.layout = front ++ (u32Le (UInt32.ofNat q.aux.length)
        ++ (u32Le (UInt32.ofNat q.proof.length) ++ (reservedTail ++ (q.aux ++ q.proof)))) := by
    refine ⟨verifierMagic ++ (verifierAbiV1 :: 0 :: (u16Le 96 ++ (u16Le q.algorithmId
      ++ (u16Le q.slot ++ (q.operation :: q.verifierProfile :: 0 :: 0
      :: (q.authorizationDigest.val ++ q.keyId.val)))))), ?_, ?_⟩
    · simp only [verifierMagic, List.length_append, List.length_cons, List.length_nil,
        u16Le_length, q.authorizationDigest.property, q.keyId.property]
    · simp only [VerifierRequest.layout, List.append_assoc, List.cons_append]
  have hnat : ∀ n, n < 2 ^ 32 → (u32FromLe (u32Le (UInt32.ofNat n))).toNat = n := by
    intro n hn
    rw [u32FromLe_u32Le]
    exact UInt32.toNat_ofNat_of_lt' hn
  constructor
  · rw [auxLength, hlayout, List.drop_left' hfront, List.take_left' (u32Le_length _),
      hnat _ (by omega)]
  · rw [proofLength, hlayout, ← List.drop_drop (i := 4) (j := 80), List.drop_left' hfront,
      List.drop_left' (u32Le_length _), List.take_left' (u32Le_length _), hnat _ (by omega)]

/-- A request is one frame, with a body. -/
theorem framed_of_encodeRequest {auth : CkbStateWire.AuthenticatorEntry} {operation : UInt8}
    {digest : Byte32} {proof r : Bytes} (h : encodeRequest auth operation digest proof = .ok r) :
    Framed r ∧ 96 < r.length := by
  obtain ⟨q, hq, hwf, rfl⟩ := encodeRequest_eq_ok.mp h
  obtain ⟨haux, hproof⟩ := lengths_of_layout hwf
  have ha : q.aux.length ≤ 4096 := hwf.aux_le
  have hp : q.proof.length ≤ 65536 := hwf.proof_le
  have hne : q.aux ≠ [] := by
    intro hnil
    have hprofile := hq.profile
    rw [← hq.aux, hnil] at hprofile
    cases hprofile
  have hpos := List.length_pos_iff.mpr hne
  rw [VerifierRequest.layout_length]
  refine ⟨⟨?_, ?_, ?_⟩, by omega⟩
  · rw [VerifierRequest.layout_length]
    omega
  · rw [VerifierRequest.layout_length, haux, hproof]
  · rw [VerifierRequest.layout_length, show verifierMaxRequestLen = 69728 from rfl]
    omega

/-- The rest of a pass of `read_exact`, after the `read`. -/
def afterRead (len fuel : Nat) (output : Bytes) (r : Except SysError Bytes) :
    Prog (ReadOp.Answer SysError) Unit Bytes := do
  let chunk ← Prog.of (orErr () r)
  Prog.of (rejectIf (chunk = []) ())
  let _ ← Prog.of (okOr () (checkedAdd output.length chunk.length))
  readExact len fuel (output ++ chunk)

theorem readExact_of_lt {len : Nat} {output : Bytes} (h : output.length < len) (fuel : Nat) :
    readExact len (fuel + 1) output
      = Proc.call (ReadOp.read (len - output.length)) (afterRead len fuel output) := by
  rw [readExact, if_pos h]
  rfl

/-- A read that fills the buffer ends the loop. -/
theorem afterRead_full {len fuel : Nat} {chunk : Bytes} (hpos : 0 < len)
    (hlen : chunk.length = len) (hmax : len < usizeSize) :
    afterRead len (fuel + 1) [] (.ok chunk) = Proc.ret (.ok chunk) := by
  have hne : rejectIf (chunk = []) () = .ok () := by
    refine rejectIf_neg ?_ _
    rw [← List.length_eq_zero_iff]
    omega
  have hsum : okOr () (checkedAdd ([] : Bytes).length chunk.length) = .ok chunk.length := by
    rw [List.length_nil, checkedAdd_of_lt (by omega), okOr_some, Nat.zero_add]
  have hdone : readExact len (fuel + 1) chunk = pure chunk := by
    rw [readExact, if_neg (by omega)]
  rw [afterRead, orErr, Prog.of_bind, Prog.resume, hne, Prog.of_bind, Prog.resume, hsum,
    Prog.of_bind, Prog.resume, List.nil_append, hdone]
  rfl

/-- `read_request` past the header. -/
def readBody (header : Bytes) : Prog (ReadOp.Answer SysError) Exit Bytes := do
  let auxLen ← Prog.of (CkbVerifier.headerLength header 80 84)
  let proofLen ← Prog.of (CkbVerifier.headerLength header 84 88)
  let total ← Prog.of (okOr .malformedRequest
    (((checkedAdd verifierRequestHeaderLen auxLen).bind
      (fun v => checkedAdd v proofLen)).filter (fun v => v ≤ verifierMaxRequestLen)))
  let body ← (readExact (total - verifierRequestHeaderLen)
    (total - verifierRequestHeaderLen + 1) []).mapErr (fun _ => Exit.malformedRequest)
  readEnd
  Prog.of (orErr .internalError (← closeRead))
  return header ++ body

/-- `read_request` past the body. -/
def readTail (header body : Bytes) : Prog (ReadOp.Answer SysError) Exit Bytes := do
  readEnd
  Prog.of (orErr .internalError (← closeRead))
  return header ++ body

theorem headerLength_of_length {t : Bytes} (lo : Nat) (h : lo + 4 ≤ t.length) :
    CkbVerifier.headerLength t lo (lo + 4)
      = .ok (u32FromLe ((t.drop lo).take 4)).toNat := by
  have hslice : (slice t lo (lo + 4) : Outcome Exit Bytes) = .ok ((t.drop lo).take 4) := by
    rw [slice, if_pos ⟨by omega, h⟩, show lo + 4 - lo = 4 by omega]
  have hlen : ((t.drop lo).take 4).length = 4 := by
    rw [List.length_take, List.length_drop]
    omega
  rw [CkbVerifier.headerLength, hslice, ok_bind, toByteArr, dif_pos hlen]
  rfl

/-- Behind a header that announces `n` more bytes, `read_request` asks for them. -/
theorem readBody_eq {header : Bytes} {n : Nat} (hlen : header.length = 96)
    (hn : auxLength header + proofLength header = n) (hpos : 0 < n)
    (hmax : 96 + n ≤ verifierMaxRequestLen) :
    readBody header = ((readExact n (n + 1) []).mapErr (fun _ => Exit.malformedRequest)
      >>= readTail header) := by
  have haux := headerLength_of_length (t := header) 80 (by omega)
  have hproof := headerLength_of_length (t := header) 84 (by omega)
  have htotal : ((checkedAdd verifierRequestHeaderLen (auxLength header)).bind
      (fun v => checkedAdd v (proofLength header))).filter
        (fun v => v ≤ verifierMaxRequestLen) = some (96 + n) :=
    requestTotal_eq_some.mpr ⟨by omega, by omega⟩
  rw [readBody, haux, Prog.of_bind, Prog.resume, hproof, Prog.of_bind, Prog.resume,
    show (u32FromLe ((header.drop 80).take 4)).toNat = auxLength header from rfl,
    show (u32FromLe ((header.drop 84).take 4)).toNat = proofLength header from rfl,
    htotal, okOr_some, Prog.of_bind, Prog.resume, show verifierRequestHeaderLen = 96 from rfl,
    show 96 + n - 96 = n by omega]
  rfl

/-- A stage that reads `len` bytes waits for them, and goes on once they are there. -/
theorem readExact_bind (len : Nat) (hpos : 0 < len) (hmax : len < usizeSize)
    (f : Bytes → Prog (ReadOp.Answer SysError) Exit Bytes) :
    ∃ k : Except SysError Bytes → Reader SysError (Outcome Exit Bytes),
      ((readExact len (len + 1) []).mapErr (fun _ => Exit.malformedRequest) >>= f)
        = Proc.call (ReadOp.read len) k
      ∧ ∀ chunk : Bytes, chunk.length = len → k (.ok chunk) = f chunk := by
  obtain ⟨fuel, rfl⟩ : ∃ m, len = m + 1 := ⟨len - 1, by omega⟩
  refine ⟨fun r => Proc.bind (Prog.mapErr (fun _ => Exit.malformedRequest)
    (afterRead (fuel + 1) (fuel + 1) [] r)) (Prog.resume f), ?_, ?_⟩
  · rw [readExact_of_lt (show ([] : Bytes).length < fuel + 1 from hpos)]
    rfl
  · intro chunk hchunk
    show Proc.bind (Prog.mapErr (fun _ => Exit.malformedRequest)
      (afterRead (fuel + 1) (fuel + 1) [] (.ok chunk))) (Prog.resume f) = f chunk
    rw [afterRead_full hpos hchunk hmax]
    rfl

/-- **Every request can get through**: the schedule that writes it in one piece and reads
    it in two lets the child return it. -/
theorem transport_completes {r : Bytes} (hframed : Framed r) (hbody : 96 < r.length)
    (fd : UInt64) :
    ∃ history s, Run Step (start (sendRequest r) (readRequest [fd])) history s
      ∧ s.reader = .ret (.ok r) ∧ s.writer = .ret (.ok ()) := by
  have hmax : r.length < usizeSize := Nat.lt_of_le_of_lt hframed.limit (by decide)
  obtain ⟨m, hm⟩ : ∃ m, r.length = m + 1 := ⟨r.length - 1, by omega⟩
  -- the parent writes everything and closes
  have hwrite : sendRequest r
      = Proc.call (WriteOp.write r) (afterWrite r r.length 0) :=
    writeLoop_of_lt (by omega) r.length
  have hclose : afterWrite r r.length 0 (.ok r.length)
      = Proc.call WriteOp.close (fun x => Prog.of (orErr ProtocolError.verifierFailure x)) := by
    have hge := writeLoop_of_ge (Nat.lt_irrefl r.length) m
    rw [← hm] at hge
    rw [afterWrite_ok (by omega) (by omega), Nat.zero_add, hge]
  have run₀ : Run Step (start (sendRequest r) (readRequest [fd])) [] _ := .nil
  have run₁ := run₀.snoc
    (.write hwrite rfl rfl (show 0 < r.length by omega) (Nat.le_refl _))
  have run₂ := run₁.snoc (.closeWriter hclose)
  -- the child reads the header, then what the header announces
  have hheaderLen : (r.take 96).length = 96 := by
    rw [List.length_take]
    omega
  have hwindow : ∀ lo, lo + 4 ≤ 96 →
      ((r.take 96).drop lo).take 4 = (r.drop lo).take 4 := by
    intro lo hlo
    rw [List.drop_take, List.take_take, Nat.min_eq_left (by omega)]
  have hannounced : auxLength (r.take 96) + proofLength (r.take 96) = r.length - 96 := by
    have haux : auxLength (r.take 96) = auxLength r := by
      rw [auxLength, hwindow 80 (by decide)]
      rfl
    have hproof : proofLength (r.take 96) = proofLength r := by
      rw [proofLength, hwindow 84 (by decide)]
      rfl
    have := hframed.total
    omega
  have hlimit := hframed.limit
  obtain ⟨k₁, hcall₁, hk₁⟩ := readExact_bind 96 (by decide) (by decide) readBody
  have hread : readRequest [fd] = Proc.call (ReadOp.read 96) k₁ := hcall₁
  have hqueue : [] ++ r.take r.length = r.take 96 ++ r.drop 96 := by
    rw [List.take_length, List.take_append_drop]
    rfl
  have hne : r.take 96 ≠ [] := by
    rw [ne_eq, ← List.length_eq_zero_iff, hheaderLen]
    decide
  have run₃ := run₂.snoc (.read hread rfl hqueue hne (Nat.le_of_eq hheaderLen))
  obtain ⟨k₂, hcall₂, hk₂⟩ := readExact_bind (r.length - 96) (by omega) (by omega)
    (readTail (r.take 96))
  have hread₂ : k₁ (.ok (r.take 96)) = Proc.call (ReadOp.read (r.length - 96)) k₂ := by
    rw [hk₁ _ hheaderLen, readBody_eq hheaderLen hannounced (by omega) (by omega), hcall₂]
  have hrestLen : (r.drop 96).length = r.length - 96 := List.length_drop
  have hne₂ : r.drop 96 ≠ [] := by
    rw [ne_eq, ← List.length_eq_zero_iff, hrestLen]
    omega
  have run₄ := run₃.snoc (.read hread₂ rfl (List.append_nil _).symm hne₂ (Nat.le_of_eq hrestLen))
  -- the probe finds the end, and the child closes its side
  have htail := hk₂ _ hrestLen
  have run₅ := run₄.snoc (.readEnd (r := .ok []) htail rfl rfl rfl (Or.inl rfl))
  have run₆ := run₅.snoc (.closeReader rfl)
  refine ⟨_, _, run₆, ?_, rfl⟩
  show Proc.ret (Outcome.ok (r.take 96 ++ r.drop 96)) = _
  rw [List.take_append_drop]

/-! ## A child the machine schedules -/

/-- An exact read of a scheduled child is an exact read of the process. -/
theorem readExact_refines {child : CkbVerifier.Child} {len : Nat} :
    ∀ {fuel : Nat} {output pending out rest : Bytes},
      CkbVerifier.readExact child len fuel output pending = .ok (out, rest) →
      Delivers (readExact len fuel output) pending rest false (.ok out) := by
  intro fuel
  induction fuel with
  | zero =>
      intro output pending out rest h
      cases h
  | succ fuel ih =>
      intro output pending out rest h
      rw [CkbVerifier.readExact] at h
      rw [readExact]
      by_cases hlt : output.length < len
      · rw [if_pos hlt] at h ⊢
        by_cases hpending : pending = []
        · -- at the end the read brings nothing, and the loop gives up
          rw [CkbVerifier.Child.read, if_pos hpending] at h
          cases hend : child.atEnd with
          | ok u =>
              rw [hend] at h
              cases h
          | error e =>
              rw [hend] at h
              cases h
        · obtain ⟨n, hpos, hn, hnp, hread⟩ := child.read_of_pending hpending
            (show 0 < len - output.length by omega)
          have hchunk : (pending.take n).length = n := by
            rw [List.length_take]
            omega
          simp only [hread] at h
          obtain ⟨hne, h⟩ := rejectIf_bind_eq_ok.mp h
          obtain ⟨sum, hsum, h⟩ := bind_eq_ok.mp h
          have hfirst : Delivers (ε := SysError) (Pipe.read (ι := Unit) (len - output.length))
              pending (pending.drop n) false (Outcome.ok (.ok (pending.take n))) :=
            delivers_read.mpr (Or.inl ⟨pending.take n, hne, by omega,
              (List.take_append_drop n pending).symm, rfl, rfl⟩)
          refine delivers_bind_ok.mpr ⟨_, _, false, false, hfirst, ?_, rfl⟩
          refine delivers_of_bind.mpr ⟨_, rfl, delivers_of_bind.mpr ⟨(), ?_, ?_⟩⟩
          · exact rejectIf_neg hne _
          · exact delivers_of_bind.mpr ⟨sum, hsum, ih h⟩
      · rw [if_neg hlt] at h ⊢
        cases h
        exact delivers_pure.mpr ⟨rfl, rfl, rfl⟩

/-- **A scheduled child is one of the schedules**: what it accepts, the process accepts on
    the stream it was sent, so that stream is one frame. -/
theorem readRequest_refines {child : CkbVerifier.Child} {sent b : Bytes}
    (h : CkbVerifier.readRequest child sent = .ok b) :
    Delivers (readRequest child.inheritedFds) sent [] true (.ok b) ∧ Framed sent := by
  suffices hdel : ∃ rest seen, Delivers (readRequest child.inheritedFds) sent rest seen (.ok b) by
    obtain ⟨rest, seen, hdel⟩ := hdel
    obtain ⟨-, rfl, rfl, hframed⟩ := readRequest_delivers hdel
    exact ⟨hdel, hframed⟩
  rw [CkbVerifier.readRequest] at h
  match hfds : child.inheritedFds with
  | [] =>
      rw [hfds] at h
      cases h
  | _ :: _ :: _ =>
      rw [hfds] at h
      cases h
  | [fd] =>
      rw [hfds] at h
      obtain ⟨⟨header, pending⟩, hheader, h⟩ := bind_eq_ok.mp h
      obtain ⟨auxLen, haux, h⟩ := bind_eq_ok.mp h
      obtain ⟨proofLen, hproof, h⟩ := bind_eq_ok.mp h
      obtain ⟨total, htotal, h⟩ := bind_eq_ok.mp h
      obtain ⟨⟨body, pending'⟩, hbody, h⟩ := bind_eq_ok.mp h
      obtain ⟨hend, hlast⟩ := unit_bind_eq_ok.mp h
      have hnil := CkbVerifier.readEnd_eq_ok hend
      subst hnil
      have hfirst := readExact_refines (mapErr_eq_ok.mp hheader)
      have hsecond := readExact_refines (mapErr_eq_ok.mp hbody)
      have hclose : child.close fd = .ok () ∧ header ++ body = b := by
        cases hc : child.close fd with
        | ok u =>
            rw [hc] at hlast
            exact ⟨rfl, Outcome.ok.inj hlast⟩
        | error e =>
            rw [hc] at hlast
            cases hlast
      obtain ⟨hc, rfl⟩ := hclose
      -- the probe was answered with the end, in one of the two accepted ways
      have hprobe : Delivers readEnd [] [] true (.ok ()) := by
        rw [CkbVerifier.readEnd, CkbVerifier.Child.read, if_pos rfl] at hend
        cases hat : child.atEnd with
        | ok u =>
            exact .eof (Or.inl rfl) (.ret (Outcome.ok ()) [])
        | error e =>
            rw [hat] at hend
            cases e with
            | otherEndClosed => exact .eof (Or.inr ⟨.otherEndClosed, rfl⟩) (.ret (Outcome.ok ()) [])
            | _ => cases hend
      refine ⟨[], true, ?_⟩
      refine delivers_bind_ok.mpr ⟨header, pending, false, true, delivers_mapErr_ok.mpr hfirst, ?_,
        rfl⟩
      refine delivers_of_bind.mpr ⟨auxLen, haux, delivers_of_bind.mpr ⟨proofLen, hproof, ?_⟩⟩
      refine delivers_of_bind.mpr ⟨total, htotal, ?_⟩
      refine delivers_bind_ok.mpr ⟨body, [], false, true, delivers_mapErr_ok.mpr hsecond, ?_, rfl⟩
      refine delivers_bind_ok.mpr ⟨(), [], true, false, hprobe, ?_, rfl⟩
      refine delivers_bind_ok.mpr ⟨.ok (), [], false, false, delivers_close.mpr ⟨rfl, rfl⟩, ?_, rfl⟩
      exact delivers_of_bind.mpr ⟨(), rfl, delivers_pure.mpr ⟨rfl, rfl, rfl⟩⟩

/-! ## The transport -/

/-- **The transport delivers exactly one request.**  However writes and reads are cut and
    interleaved, a child that returns `Ok` returns the parent's request, and by then the
    parent has written all of it and closed its end.  Under any writer at all, `Ok` means
    that the stream sent and closed is one frame with nothing missing and nothing after.  A
    child whose reads are fixed beforehand, as a whole run of AccountLock has it, is one of
    these readers. -/
theorem verifier_transport :
    (∀ (auth : CkbStateWire.AuthenticatorEntry) (operation : UInt8) (digest : Byte32)
        (proof r : Bytes), encodeRequest auth operation digest proof = .ok r →
      ∀ (fds : List UInt64)
        (history : List (System SysError (Outcome Exit Bytes) (Outcome ProtocolError Unit)
          × Actor))
        (s : System SysError (Outcome Exit Bytes) (Outcome ProtocolError Unit)) (b : Bytes),
        Run Step (start (sendRequest r) (readRequest fds)) history s →
        s.reader = .ret (.ok b) →
        b = r ∧ s.writer = .ret (.ok ()) ∧ s.writerOpen = false)
    ∧ (∀ (β : Type) (w : Pipe.Writer SysError β) (fds : List UInt64)
        (history : List (System SysError (Outcome Exit Bytes) β × Actor))
        (s : System SysError (Outcome Exit Bytes) β) (b : Bytes),
        Run Step (start w (readRequest fds)) history s → s.reader = .ret (.ok b) →
        b = s.sent ∧ s.writerOpen = false
          ∧ 96 ≤ s.sent.length
          ∧ s.sent.length = 96 + auxLength s.sent + proofLength s.sent
          ∧ s.sent.length ≤ verifierMaxRequestLen)
    ∧ ∀ (child : CkbVerifier.Child) (sent b : Bytes),
        CkbVerifier.readRequest child sent = .ok b →
        Delivers (readRequest child.inheritedFds) sent [] true (.ok b) ∧ Framed sent := by
  refine ⟨?_, ?_, fun child sent b h => readRequest_refines h⟩
  · intro auth operation digest proof r hr fds history s b hrun hret
    obtain ⟨hb, hclosed, -⟩ := readRequest_of_run hrun hret
    have hmax : r.length < usizeSize :=
      Nat.lt_of_le_of_lt (framed_of_encodeRequest hr).1.limit (by decide)
    have hwriting := hrun.invariant (writing_start r (readRequest fds))
      (fun _ _ _ h hstep => Writing.step hmax h hstep)
    -- the reader saw the end of the pipe, so the writer has closed its side
    cases hwriting with
    | loop fuel offset hwriter hle hfuel hsent hopen =>
        rw [hclosed] at hopen
        cases hopen
    | done hwriter hsent => exact ⟨hb.trans hsent, hwriter, hclosed⟩
    | failed e hwriter hopen =>
        rw [hclosed] at hopen
        cases hopen
  · intro β w fds history s b hrun hret
    obtain ⟨hb, hclosed, hframed⟩ := readRequest_of_run hrun hret
    exact ⟨hb, hclosed, hframed.header, hframed.total, hframed.limit⟩

/-- The transport of a 98-byte request, over the schedule that gets it through. -/
theorem soleRequest_transport :
    ∃ r history, ∃ s : System SysError (Outcome Exit Bytes) (Outcome ProtocolError Unit),
      encodeRequest (soleEntry 1) opSpend (filled32 7) [5] = .ok r
        ∧ Run Step (start (sendRequest r) (readRequest [3])) history s
        ∧ s.reader = .ret (.ok r) ∧ s.writer = .ret (.ok ()) ∧ s.writerOpen = false
        ∧ s.sent.length = 96 + auxLength s.sent + proofLength s.sent := by
  have hs : CkbStatePolicy.Supported (soleEntry 1) := ⟨by decide, by decide, by decide⟩
  obtain ⟨r, hr⟩ : ∃ r, encodeRequest (soleEntry 1) opSpend (filled32 7) [5] = .ok r :=
    (encodeRequest_of_supported hs).mpr ⟨by decide, by decide, by decide⟩
  obtain ⟨hframed, hbody⟩ := framed_of_encodeRequest hr
  obtain ⟨history, s, hrun, hreader, -⟩ := transport_completes hframed hbody 3
  obtain ⟨-, hwriter, hclosed⟩ :=
    verifier_transport.1 _ _ _ _ r hr [3] history s r hrun hreader
  obtain ⟨-, -, -, htotal, -⟩ := verifier_transport.2.1 _ _ [3] history s r hrun hreader
  exact ⟨r, history, s, hr, hrun, hreader, hwriter, hclosed, htotal⟩

end CkbTransport
