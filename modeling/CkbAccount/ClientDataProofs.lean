import CkbAccount.JsonTextProofs
import CkbAccount.ProtocolProofs

/-! # Client data of a passkey assertion

    The hand-written JSON scanner of `contracts/verifier-p256/src/main.rs`:
    `whitespace`, `skip_ws`, `json_string`, `skip_primitive`, `validate_client_data`,
    and `base64url_digest`, whose text the challenge member must equal.

    The scanner moves an offset through the text.  Its loops are described by the part
    of the rest they pass over (`skipWhile_eq`, `stringLoop_eq`); with that
    `validateClientData_ne_abort` says that every text gets a verdict: no index is out
    of range and no loop outruns the text. -/

namespace CkbClientData

open RustOutcome Outcome CkbProtocol
open JsonText (quote backslash colon comma openBrace closeBrace)

/-! ## Exit codes -/

/-- The failures of the verifier programs (`mod exit`). -/
inductive Exit where
  | invalidProof
  | malformedRequest
  | unsupportedAlgorithm
  | unsupportedProfile
  | keyIdMismatch
  | malformedKey
  | malformedProof
  | digestBindingFailure
  | auxMismatch
  | internalError
  deriving DecidableEq, Repr

/-- The code that the verifier exits with. -/
def Exit.code : Exit → Int8
  | .invalidProof => 1
  | .malformedRequest => 2
  | .unsupportedAlgorithm => 3
  | .unsupportedProfile => 4
  | .keyIdMismatch => 5
  | .malformedKey => 6
  | .malformedProof => 7
  | .digestBindingFailure => 8
  | .auxMismatch => 9
  | .internalError => 10

/-- `exit::VALID`. -/
def exitValid : Int8 := 0

/-- No failure looks like success. -/
theorem Exit.code_ne_valid (e : Exit) : e.code ≠ exitValid := by
  cases e <;> decide

/-! ## The scanner -/

/-- `whitespace`: space, LF, CR, TAB. -/
def whitespace (byte : UInt8) : Bool :=
  byte = 0x20 ∨ byte = 0x0a ∨ byte = 0x0d ∨ byte = 0x09

/-- `while json.get(offset) satisfies p { offset += 1 }`. -/
def skipWhile (p : UInt8 → Bool) (json : Bytes) : Nat → Nat → Outcome Exit Nat
  | 0, _ => .abort
  | fuel + 1, offset =>
      match json[offset]? with
      | some byte =>
          if p byte then addUsize offset 1 >>= skipWhile p json fuel else .ok offset
      | none => .ok offset

/-- `skip_ws`. -/
def skipWs (json : Bytes) (offset : Nat) : Outcome Exit Nat :=
  skipWhile whitespace json (json.length + 1) offset

/-- The bytes of a primitive: up to a comma, a closing brace or white space. -/
def primitive (byte : UInt8) : Bool :=
  ¬ (byte = comma ∨ byte = closeBrace ∨ whitespace byte)

/-- `skip_primitive`. -/
def skipPrimitive (json : Bytes) (offset : Nat) : Outcome Exit Nat := do
  let stop ← skipWhile primitive json (json.length + 1) offset
  rejectIf (stop = offset) .digestBindingFailure
  return stop

/-- The loop of `json_string`, with the value it returns and the offset after it. -/
def stringLoop (json : Bytes) (start : Nat) : Nat → Nat → Outcome Exit (Bytes × Nat)
  | 0, _ => .abort
  | fuel + 1, offset =>
      match json[offset]? with
      | some byte =>
          if byte = quote then do
            let value ← slice json start offset
            return (value, ← addUsize offset 1)
          else if byte = backslash ∨ byte < 0x20 then .err .digestBindingFailure
          else addUsize offset 1 >>= stringLoop json start fuel
      | none => .err .digestBindingFailure

/-- `json_string`. -/
def jsonString (json : Bytes) (offset : Nat) : Outcome Exit (Bytes × Nat) := do
  rejectIf (json[offset]? ≠ some quote) .digestBindingFailure
  let start ← addUsize offset 1
  stringLoop json start (json.length + 1) start

/-! ## `validate_client_data` -/

/-- `b"type"`. -/
def keyType : Bytes := [0x74, 0x79, 0x70, 0x65]

/-- `b"challenge"`. -/
def keyChallenge : Bytes := [0x63, 0x68, 0x61, 0x6c, 0x6c, 0x65, 0x6e, 0x67, 0x65]

/-- `b"origin"`. -/
def keyOrigin : Bytes := [0x6f, 0x72, 0x69, 0x67, 0x69, 0x6e]

/-- `b"webauthn.get"`. -/
def webauthnGet : Bytes :=
  [0x77, 0x65, 0x62, 0x61, 0x75, 0x74, 0x68, 0x6e, 0x2e, 0x67, 0x65, 0x74]

/-- The flags `found_type`, `found_challenge`, `found_origin`. -/
@[ext] structure Found where
  type : Bool
  challenge : Bool
  origin : Bool
  deriving DecidableEq, Repr

section ClientData

variable (json challenge origin : Bytes)

/-- The value of a checked member: not seen before, and as expected. -/
def checkMember (key value : Bytes) (found : Found) : Outcome Exit Found :=
  if key = keyType then do
    rejectIf (found.type ∨ value ≠ webauthnGet) .digestBindingFailure
    return { found with type := true }
  else if key = keyChallenge then do
    rejectIf (found.challenge ∨ value ≠ challenge) .digestBindingFailure
    return { found with challenge := true }
  else do
    rejectIf (found.origin ∨ value ≠ origin) .digestBindingFailure
    return { found with origin := true }

/-- The value of a member: checked, another string, or a primitive. -/
def memberValue (key : Bytes) (offset : Nat) (found : Found) : Outcome Exit (Nat × Found) :=
  if key = keyType ∨ key = keyChallenge ∨ key = keyOrigin then do
    let (value, offset) ← jsonString json offset
    return (offset, ← checkMember challenge origin key value found)
  else if json[offset]? = some quote then do
    let (_, offset) ← jsonString json offset
    return (offset, found)
  else do
    return (← skipPrimitive json offset, found)

/-- After a member: a comma is passed, a closing brace is left to the next pass. -/
def memberEnd (offset : Nat) (found : Found) : Outcome Exit (Flow (Nat × Found)) :=
  if json[offset]? = some comma then do return .next (← addUsize offset 1, found)
  else if json[offset]? = some closeBrace then .ok (.next (offset, found))
  else .err .digestBindingFailure

/-- A member after the white space before it. -/
def member (offset : Nat) (found : Found) : Outcome Exit (Flow (Nat × Found)) := do
  let (key, offset) ← jsonString json offset
  let offset ← skipWs json offset
  rejectIf (json[offset]? ≠ some colon) .digestBindingFailure
  let offset ← addUsize offset 1
  let offset ← skipWs json offset
  let (offset, found) ← memberValue json challenge origin key offset found
  let offset ← skipWs json offset
  memberEnd json offset found

/-- One pass of the loop. -/
def clientPass (offset : Nat) (found : Found) : Outcome Exit (Flow (Nat × Found)) := do
  let offset ← skipWs json offset
  if json[offset]? = some closeBrace then return .done (← addUsize offset 1, found)
  else member json challenge origin offset found

/-- The loop: it ends at the closing brace, which every pass comes closer to. -/
def clientLoop : Nat → Nat → Found → Outcome Exit (Nat × Found)
  | 0, _, _ => .abort
  | fuel + 1, offset, found =>
      clientPass json challenge origin offset found >>= fun
        | .next (offset, found) => clientLoop fuel offset found
        | .done result => .ok result

/-- `validate_client_data`. -/
def validateClientData : Outcome Exit Unit := do
  let offset ← skipWs json 0
  rejectIf (json[offset]? ≠ some openBrace) .digestBindingFailure
  let offset ← addUsize offset 1
  let (offset, found) ← clientLoop json challenge origin (json.length + 1) offset
    { type := false, challenge := false, origin := false }
  let offset ← skipWs json offset
  rejectIf (offset ≠ json.length ∨ ¬ found.type ∨ ¬ found.challenge ∨ ¬ found.origin)
    .digestBindingFailure

end ClientData

/-! ## `base64url_digest` -/

/-- `b"ABCDEFGHIJKLMNOPQRSTUVWXYZabcdefghijklmnopqrstuvwxyz0123456789-_"`. -/
def base64urlTable : Bytes :=
  [0x41, 0x42, 0x43, 0x44, 0x45, 0x46, 0x47, 0x48, 0x49, 0x4a, 0x4b, 0x4c, 0x4d, 0x4e, 0x4f, 0x50,
   0x51, 0x52, 0x53, 0x54, 0x55, 0x56, 0x57, 0x58, 0x59, 0x5a, 0x61, 0x62, 0x63, 0x64, 0x65, 0x66,
   0x67, 0x68, 0x69, 0x6a, 0x6b, 0x6c, 0x6d, 0x6e, 0x6f, 0x70, 0x71, 0x72, 0x73, 0x74, 0x75, 0x76,
   0x77, 0x78, 0x79, 0x7a, 0x30, 0x31, 0x32, 0x33, 0x34, 0x35, 0x36, 0x37, 0x38, 0x39, 0x2d, 0x5f]

/-- `TABLE[((value >> shift) & 63) as usize]`: six bits never leave the table. -/
def sextet (value shift : UInt32) : UInt8 :=
  base64urlTable.getD ((value >>> shift) &&& 63).toNat 0

/-- `(a << 16) | (b << 8) | c`. -/
def triple (a b c : UInt8) : UInt32 :=
  (a.toUInt32 <<< 16) ||| (b.toUInt32 <<< 8) ||| c.toUInt32

/-- The loop over three bytes at a time, and the two bytes left at its end. -/
def base64urlLoop : Bytes → Bytes
  | a :: b :: c :: rest =>
      sextet (triple a b c) 18 :: sextet (triple a b c) 12 :: sextet (triple a b c) 6
        :: sextet (triple a b c) 0 :: base64urlLoop rest
  | [a, b] => [sextet (triple a b 0) 18, sextet (triple a b 0) 12, sextet (triple a b 0) 6]
  | _ => []

/-- `base64url_digest`. -/
def base64urlDigest (input : Byte32) : Bytes := base64urlLoop input.val

/-! ## What the loops pass over -/

section Scanning

variable {json : Bytes}

/-- **The skipping loop** stops after the longest stretch of matching bytes. -/
theorem skipWhile_eq {p : UInt8 → Bool} (hlen : json.length < usizeSize) :
    ∀ fuel offset, json.length - offset < fuel →
      skipWhile p json fuel offset = .ok (offset + ((json.drop offset).takeWhile p).length) := by
  intro fuel
  induction fuel with
  | zero => intro offset h; omega
  | succ fuel ih =>
      intro offset hfuel
      rw [skipWhile]
      by_cases hlt : offset < json.length
      · rw [List.getElem?_eq_getElem hlt, List.drop_eq_getElem_cons hlt, List.takeWhile_cons]
        by_cases hp : p json[offset]
        · simp only [if_pos hp]
          rw [addUsize_of_lt (by omega), ok_bind, ih (offset + 1) (by omega), List.length_cons]
          congr 1
          omega
        · simp only [if_neg hp]
          rfl
      · rw [List.getElem?_eq_none (by omega), List.drop_eq_nil_of_le (by omega)]
        rfl

/-- The bytes a string may hold: no quote, no backslash, no control character. -/
def plain (byte : UInt8) : Bool := ¬ (byte = quote ∨ byte = backslash ∨ byte < 0x20)

/-- **The string loop** stops at the first byte that is not plain, which must be the
    closing quote. -/
theorem stringLoop_eq {start : Nat} (hlen : json.length < usizeSize) :
    ∀ fuel offset, json.length - offset < fuel → start ≤ offset →
      stringLoop json start fuel offset
        = if json[offset + ((json.drop offset).takeWhile plain).length]? = some quote then
            .ok ((json.drop start).take
                (offset + ((json.drop offset).takeWhile plain).length - start),
              offset + ((json.drop offset).takeWhile plain).length + 1)
          else .err .digestBindingFailure := by
  intro fuel
  induction fuel with
  | zero => intro offset h; omega
  | succ fuel ih =>
      intro offset hfuel hstart
      rw [stringLoop]
      by_cases hlt : offset < json.length
      · rw [List.getElem?_eq_getElem hlt, List.drop_eq_getElem_cons hlt, List.takeWhile_cons]
        -- a plain byte moves the loop on; any other byte decides it
        by_cases hplain : plain json[offset]
        · have hne : ¬ (json[offset] = quote ∨ json[offset] = backslash ∨ json[offset] < 0x20) :=
            of_decide_eq_true hplain
          rw [not_or] at hne
          simp only [if_neg hne.1, if_neg hne.2, if_pos hplain]
          rw [addUsize_of_lt (by omega), ok_bind, ih (offset + 1) (by omega) (by omega),
            List.length_cons, show offset + (((json.drop (offset + 1)).takeWhile plain).length + 1)
              = offset + 1 + ((json.drop (offset + 1)).takeWhile plain).length by omega]
        · simp only [if_neg hplain, List.length_nil, Nat.add_zero, List.getElem?_eq_getElem hlt,
            Option.some.injEq]
          by_cases hquote : json[offset] = quote
          · rw [if_pos hquote, if_pos hquote, slice_eq_ok.mpr ⟨⟨hstart, by omega⟩, rfl⟩, ok_bind,
              addUsize_of_lt (by omega), ok_bind]
            rfl
          · rw [if_neg hquote, if_neg hquote, if_pos]
            -- neither plain nor a quote: a backslash or a control byte, both refused
            by_contra hno
            exact hplain (decide_eq_true (not_or.mpr ⟨hquote, hno⟩))
      · rw [List.getElem?_eq_none (by omega), List.drop_eq_nil_of_le (by omega),
          List.takeWhile_nil, List.length_nil, Nat.add_zero,
          List.getElem?_eq_none (show json.length ≤ offset by omega), if_neg (by simp)]

/-! ## Every text gets a verdict -/

/-- A part of the scanner that does not abort, and leaves the offset between `low` and
    the end of the text. -/
structure Scans {α : Type} (json : Bytes) (low : Nat) (pos : α → Nat) (x : Outcome Exit α) :
    Prop where
  total : x ≠ .abort
  low_le : ∀ a, x = .ok a → low ≤ pos a
  le_length : ∀ a, x = .ok a → pos a ≤ json.length

variable {α β : Type} {low : Nat} {pos : α → Nat}

theorem Scans.ok {a : α} (hlow : low ≤ pos a) (hlen : pos a ≤ json.length) :
    Scans json low pos (.ok a) :=
  ⟨nofun, fun _ h => Outcome.ok.inj h ▸ hlow, fun _ h => Outcome.ok.inj h ▸ hlen⟩

theorem Scans.err {e : Exit} : Scans json low pos (.err e) := ⟨nofun, nofun, nofun⟩

/-- One part after another: the second starts where the first stopped. -/
theorem Scans.bind {pos' : β → Nat} {x : Outcome Exit α} {f : α → Outcome Exit β}
    (hx : Scans json low pos x)
    (hf : ∀ a, low ≤ pos a → pos a ≤ json.length → Scans json (pos a) pos' (f a)) :
    Scans json low pos' (x >>= f) := by
  refine ⟨bind_ne_abort hx.total fun a ha => (hf a (hx.low_le a ha) (hx.le_length a ha)).total,
    ?_, ?_⟩
  · intro b hb
    obtain ⟨a, ha, hb⟩ := bind_eq_ok.mp hb
    have hlow := hx.low_le a ha
    exact Nat.le_trans hlow ((hf a hlow (hx.le_length a ha)).low_le b hb)
  · intro b hb
    obtain ⟨a, ha, hb⟩ := bind_eq_ok.mp hb
    exact (hf a (hx.low_le a ha) (hx.le_length a ha)).le_length b hb

/-- A part that does not touch the offset. -/
theorem Scans.keep {x : Outcome Exit β} {f : β → Outcome Exit α} (hx : x ≠ .abort)
    (hf : ∀ b, x = .ok b → Scans json low pos (f b)) : Scans json low pos (x >>= f) := by
  cases x with
  | ok b => exact hf b rfl
  | err e => exact Scans.err
  | abort => exact absurd rfl hx

theorem Scans.guard {bad : Prop} [Decidable bad] {e : Exit} {f : Unit → Outcome Exit α}
    (hf : ¬ bad → Scans json low pos (f ())) : Scans json low pos (rejectIf bad e >>= f) :=
  Scans.keep rejectIf_ne_abort fun _ h => hf (rejectIf_eq_ok.mp h)

theorem Scans.mono {low' : Nat} {x : Outcome Exit α} (h : Scans json low' pos x)
    (hle : low ≤ low') : Scans json low pos x :=
  ⟨h.total, fun a ha => Nat.le_trans hle (h.low_le a ha), h.le_length⟩

/-- Passing a byte that is there. -/
theorem Scans.step {offset : Nat} {byte : UInt8} (hlen : json.length < usizeSize)
    (h : json[offset]? = some byte) :
    Scans json (offset + 1) (fun n => n) (addUsize offset 1) := by
  have hlt := (List.getElem?_eq_some_iff.mp h).1
  rw [addUsize_of_lt (by omega)]
  exact Scans.ok (Nat.le_refl _) hlt

/-- A skip ends inside the buffer. -/
theorem skipWhile_scans {p : UInt8 → Bool} {offset : Nat} (hlen : json.length < usizeSize)
    (hoffset : offset ≤ json.length) :
    Scans json offset (fun n => n) (skipWhile p json (json.length + 1) offset) := by
  rw [skipWhile_eq hlen _ _ (by omega)]
  have hle := (List.takeWhile_sublist (l := json.drop offset) p).length_le
  rw [List.length_drop] at hle
  exact Scans.ok (Nat.le_add_right ..) (by omega)

theorem skipPrimitive_scans {offset : Nat} (hlen : json.length < usizeSize)
    (hoffset : offset ≤ json.length) :
    Scans json offset (fun n => n) (skipPrimitive json offset) :=
  (skipWhile_scans hlen hoffset).bind fun _ _ hstop => Scans.guard fun _ =>
    Scans.ok (Nat.le_refl _) hstop

/-- A string takes up its opening quote at least. -/
theorem jsonString_scans {offset : Nat} (hlen : json.length < usizeSize) :
    Scans json (offset + 1) Prod.snd (jsonString json offset) := by
  refine Scans.guard fun hquote => (Scans.step hlen (not_not.mp hquote)).bind fun start _ _ => ?_
  rw [stringLoop_eq hlen _ _ (by omega) (Nat.le_refl _)]
  split
  · rename_i hclose
    have hlt := (List.getElem?_eq_some_iff.mp hclose).1
    exact Scans.ok (show start ≤ start + _ + 1 by omega) hlt
  · exact Scans.err

variable {challenge origin : Bytes}

theorem checkMember_ne_abort {key value : Bytes} {found : Found} :
    checkMember challenge origin key value found ≠ .abort := by
  unfold checkMember
  split
  · exact bind_ne_abort rejectIf_ne_abort nofun
  · split
    · exact bind_ne_abort rejectIf_ne_abort nofun
    · exact bind_ne_abort rejectIf_ne_abort nofun

/-- So does a value. -/
theorem memberValue_scans {key : Bytes} {offset : Nat} {found : Found}
    (hlen : json.length < usizeSize) (hoffset : offset ≤ json.length) :
    Scans json offset Prod.fst (memberValue json challenge origin key offset found) := by
  have hstring : Scans json offset Prod.snd (jsonString json offset) :=
    (jsonString_scans hlen).mono (Nat.le_succ offset)
  unfold memberValue
  split
  · exact hstring.bind fun _ _ hstop => Scans.keep checkMember_ne_abort fun _ _ =>
      Scans.ok (Nat.le_refl _) hstop
  · split
    · exact hstring.bind fun _ _ hstop => Scans.ok (Nat.le_refl _) hstop
    · exact (skipPrimitive_scans hlen hoffset).bind fun _ _ hstop =>
        Scans.ok (Nat.le_refl _) hstop

/-- Where a pass of the loop leaves the offset. -/
def flowOffset : Flow (Nat × Found) → Nat
  | .next s => s.1
  | .done s => s.1

/-- So does a separator. -/
theorem memberEnd_scans {offset : Nat} {found : Found} (hlen : json.length < usizeSize)
    (hoffset : offset ≤ json.length) :
    Scans json offset flowOffset (memberEnd json offset found) := by
  unfold memberEnd
  split
  · rename_i hcomma
    exact ((Scans.step hlen hcomma).mono (Nat.le_succ offset)).bind fun _ _ hstop =>
      Scans.ok (Nat.le_refl _) hstop
  · split
    · exact Scans.ok (Nat.le_refl _) hoffset
    · exact Scans.err

/-- **A member ends at least one byte further on.** -/
theorem member_scans {offset : Nat} {found : Found} (hlen : json.length < usizeSize) :
    Scans json (offset + 1) flowOffset (member json challenge origin offset found) := by
  refine (jsonString_scans hlen).bind fun ⟨key, o₁⟩ _ h₁ => ?_
  refine (skipWhile_scans hlen h₁).bind fun o₂ _ h₂ => ?_
  refine Scans.guard fun hcolon => ?_
  refine ((Scans.step hlen (not_not.mp hcolon)).mono (Nat.le_succ o₂)).bind fun o₃ _ h₃ => ?_
  refine (skipWhile_scans hlen h₃).bind fun o₄ _ h₄ => ?_
  refine (memberValue_scans hlen h₄).bind fun ⟨o₅, found'⟩ _ h₅ => ?_
  exact (skipWhile_scans hlen h₅).bind fun o₆ _ h₆ => memberEnd_scans hlen h₆

/-- **Every pass of the loop moves on.** -/
theorem clientPass_scans {offset : Nat} (found : Found) (hlen : json.length < usizeSize)
    (hoffset : offset ≤ json.length) :
    Scans json (offset + 1) flowOffset (clientPass json challenge origin offset found) := by
  have hws := skipWhile_scans (p := whitespace) hlen hoffset
  obtain ⟨start, hstart⟩ : ∃ start, skipWs json offset = .ok start :=
    ⟨_, skipWhile_eq hlen _ _ (by omega)⟩
  have hle : offset + 1 ≤ start + 1 := Nat.succ_le_succ (hws.low_le start hstart)
  rw [clientPass, hstart, ok_bind]
  split
  · rename_i hclose
    exact ((Scans.step hlen hclose).mono hle).bind fun _ _ hstop =>
      Scans.ok (Nat.le_refl _) hstop
  · exact (member_scans hlen).mono hle

/-- **The loop ends**: every pass moves on, so the fuel outlasts the text. -/
theorem clientLoop_scans (hlen : json.length < usizeSize) :
    ∀ fuel offset found, offset ≤ json.length → json.length - offset < fuel →
      Scans json offset Prod.fst (clientLoop json challenge origin fuel offset found) := by
  intro fuel
  induction fuel with
  | zero => intro offset found _ h; omega
  | succ fuel ih =>
      intro offset found hoffset hfuel
      refine Scans.mono ((clientPass_scans found hlen hoffset).bind fun flow hlow hstop => ?_)
        (Nat.le_succ offset)
      match flow with
      | .next (offset', found') =>
          have hlow : offset + 1 ≤ offset' := hlow
          exact ih offset' found' hstop (by omega)
      | .done result => exact Scans.ok (Nat.le_refl _) hstop

/-- **Every text gets a verdict**: on a slice of any length `validate_client_data`
    neither panics nor runs on. -/
theorem validateClientData_ne_abort (hlen : json.length < usizeSize) :
    validateClientData json challenge origin ≠ .abort := by
  have hscan : Scans json 0 (fun _ => json.length)
      (validateClientData json challenge origin) := by
    refine (skipWhile_scans hlen (Nat.zero_le _)).bind fun start _ _ => ?_
    refine Scans.guard fun hopen => ?_
    refine ((Scans.step hlen (not_not.mp hopen)).mono (Nat.le_succ start)).bind
      fun first _ hfirst => ?_
    refine (clientLoop_scans hlen _ _ _ hfirst (by omega)).bind fun ⟨stop, found⟩ _ hstop => ?_
    exact (skipWhile_scans hlen hstop).bind fun _ _ hlast =>
      ⟨rejectIf_ne_abort, fun _ _ => hlast, fun _ _ => Nat.le_refl _⟩
  exact hscan.total

end Scanning

end CkbClientData
