import CkbAccount.JsonTextProofs
import CkbAccount.ProofWireProofs

/-! # The grammar of accepted client data

    What `validate_client_data` accepts, as a grammar: an object of members whose values are
    strings without escapes or runs of bytes up to a comma, a closing brace or white space.

    * `ObjectText`: the grammar, with the members it reads and whether a comma stands
      before the closing brace;
    * `clientPass_eq_ok`, `clientLoop_eq_ok`: one pass of the loop reads one member, the loop
      reads the members;
    * `validateClientData_eq_ok`: the code accepts exactly the objects in which each of the
      three checked keys occurs once with the expected string. -/

namespace CkbClientGrammar

open RustOutcome Outcome CkbProtocol CkbClientData CkbProofWire
open JsonText (quote backslash colon comma openBrace closeBrace)

/-! ## The grammar -/

/-- Runs of white space. -/
def Ws (text : Bytes) : Prop := ∀ byte ∈ text, whitespace byte = true

/-- What may stand between the quotes of a string. -/
def PlainText (text : Bytes) : Prop := ∀ byte ∈ text, plain byte = true

/-- A nonempty run of bytes other than comma, closing brace and white space, that does not
    start with a quote. -/
structure Run (text : Bytes) : Prop where
  ne_nil : text ≠ []
  bytes : ∀ byte ∈ text, primitive byte = true
  start : text.head? ≠ some quote

/-- A value as the parser tells them apart: a string, or a run of other bytes. -/
inductive Value where
  | string (text : Bytes)
  | primitive (text : Bytes)
  deriving DecidableEq, Repr

/-- The bytes of a value. -/
def Value.text : Value → Bytes
  | .string text => quote :: (text ++ [quote])
  | .primitive text => text

/-- The parser reads the value to its end. -/
def Value.WellFormed : Value → Prop
  | .string text => PlainText text
  | .primitive text => Run text

/-- A member of the object. -/
structure Member where
  key : Bytes
  value : Value
  deriving DecidableEq, Repr

/-- `ws string ws ':' ws (string or primitive) ws`. -/
inductive MemberText : Member → Bytes → Prop where
  | mk {key : Bytes} {value : Value} {w₁ w₂ w₃ w₄ : Bytes} : Ws w₁ → PlainText key → Ws w₂ →
      Ws w₃ → value.WellFormed → Ws w₄ →
      MemberText ⟨key, value⟩
        (w₁ ++ (quote :: (key ++ (quote :: (w₂ ++ (colon :: (w₃ ++ (value.text ++ w₄))))))))

/-- Zero or more members, each followed by a comma, but that the comma after the last one
    is optional.  The flag says whether it is there. -/
inductive MembersText : List Member → Bool → Bytes → Prop where
  | nil : MembersText [] false []
  | last {m : Member} {t : Bytes} : MemberText m t → MembersText [m] false t
  | trailing {m : Member} {t : Bytes} : MemberText m t → MembersText [m] true (t ++ [comma])
  | cons {m m' : Member} {ms : List Member} {comma? : Bool} {t rest : Bytes} : MemberText m t →
      MembersText (m' :: ms) comma? rest →
      MembersText (m :: m' :: ms) comma? (t ++ comma :: rest)

/-- `ws '{' members ws '}' ws`. -/
def ObjectText (ms : List Member) (comma? : Bool) (text : Bytes) : Prop :=
  ∃ w body w₁ w₂, Ws w ∧ MembersText ms comma? body ∧ Ws w₁ ∧ Ws w₂
    ∧ text = w ++ (openBrace :: (body ++ (w₁ ++ (closeBrace :: w₂))))

/-- A key occurs exactly once, with a string for its value. -/
def OccursOnce (ms : List Member) (key value : Bytes) : Prop :=
  ms.filter (fun m => m.key = key) = [⟨key, .string value⟩]

/-- The three checked keys occur once each, with the expected strings. -/
structure Checked (ms : List Member) (challenge origin : Bytes) : Prop where
  type : OccursOnce ms keyType webauthnGet
  challenge : OccursOnce ms keyChallenge challenge
  origin : OccursOnce ms keyOrigin origin

/-! ## Runs of bytes -/

/-- A byte that cannot be part of a run, or no byte. -/
def StopsAt (p : UInt8 → Bool) (text : Bytes) : Prop :=
  ∀ byte, text.head? = some byte → p byte = false

/-- A run is taken whole, and no more. -/
theorem takeWhile_of_run {p : UInt8 → Bool} {run rest : Bytes}
    (hrun : ∀ byte ∈ run, p byte = true) (hstop : StopsAt p rest) :
    (run ++ rest).takeWhile p = run := by
  rw [List.takeWhile_append_of_pos hrun]
  cases rest with
  | nil => rw [List.takeWhile_nil, List.append_nil]
  | cons byte rest =>
      rw [List.takeWhile_cons, hstop byte rfl, if_neg (by decide), List.append_nil]

/-- **Longest runs are unique**: where a run of bytes of one kind ends at a byte of another
    kind, or at the end, two ways to cut it off are the same. -/
theorem run_unique {p : UInt8 → Bool} {a b x y : Bytes} (ha : ∀ byte ∈ a, p byte = true)
    (hb : ∀ byte ∈ b, p byte = true) (hx : StopsAt p x) (hy : StopsAt p y)
    (h : a ++ x = b ++ y) : a = b ∧ x = y := by
  have hcut := congrArg (List.takeWhile p) h
  rw [takeWhile_of_run ha hx, takeWhile_of_run hb hy] at hcut
  subst hcut
  exact ⟨rfl, List.append_cancel_left h⟩

theorem stopsAt_cons {p : UInt8 → Bool} {byte : UInt8} (text : Bytes) (h : p byte = false) :
    StopsAt p (byte :: text) := by
  intro b hb
  cases hb
  exact h

/-- Behind white space comes what stops a run of primitive bytes, if that follows it. -/
theorem stopsAt_ws {w rest : Bytes} (hw : Ws w) (hrest : StopsAt primitive rest) :
    StopsAt primitive (w ++ rest) := by
  cases w with
  | nil => exact hrest
  | cons byte w =>
      refine stopsAt_cons _ ?_
      have hws := hw byte (List.mem_cons_self ..)
      simp only [primitive, hws, or_true, not_true_eq_false, decide_false]

theorem whitespace_of_primitive {byte : UInt8} (h : primitive byte = true) :
    whitespace byte = false := by
  have hno := of_decide_eq_true h
  rw [not_or, not_or] at hno
  exact Bool.eq_false_iff.mpr hno.2.2

/-- A value does not start with white space. -/
theorem Value.WellFormed.stopsAt_ws {value : Value} (h : value.WellFormed) (rest : Bytes) :
    StopsAt whitespace (value.text ++ rest) := by
  cases value with
  | string text => exact stopsAt_cons _ (by decide)
  | primitive text =>
      cases htext : text with
      | nil => exact absurd htext h.ne_nil
      | cons byte text' =>
          have hprimitive := h.bytes byte (htext ▸ List.mem_cons_self ..)
          exact stopsAt_cons _ (whitespace_of_primitive hprimitive)

/-- Every text starts with a longest run. -/
theorem exists_run (p : UInt8 → Bool) (text : Bytes) :
    ∃ run rest, text = run ++ rest ∧ (∀ byte ∈ run, p byte = true) ∧ StopsAt p rest := by
  induction text with
  | nil => exact ⟨[], [], rfl, nofun, nofun⟩
  | cons byte text ih =>
      cases hbyte : p byte with
      | false => exact ⟨[], byte :: text, rfl, nofun, stopsAt_cons text hbyte⟩
      | true =>
          obtain ⟨run, rest, rfl, hrun, hstop⟩ := ih
          exact ⟨byte :: run, rest, rfl, List.forall_mem_cons.mpr ⟨hbyte, hrun⟩, hstop⟩

/-- More white space behind a member is still part of it. -/
theorem MemberText.append_ws {m : Member} {t w : Bytes} (h : MemberText m t) (hw : Ws w) :
    MemberText m (t ++ w) := by
  cases h with
  | @mk key value w₁ w₂ w₃ w₄ h₁ hkey h₂ h₃ hvalue h₄ =>
      have hws : Ws (w₄ ++ w) := by
        intro byte hb
        rcases List.mem_append.mp hb with hb | hb
        · exact h₄ byte hb
        · exact hw byte hb
      have hmk := MemberText.mk h₁ hkey h₂ h₃ hvalue hws
      simpa only [List.append_assoc, List.cons_append] using hmk

/-! ## What the parts of the scanner read -/

section Reading

variable {json : Bytes} {offset : Nat}

/-- The byte at the offset is the first of the text there. -/
theorem at_head {text : Bytes} (hat : At json offset text) : json[offset]? = text.head? := by
  rw [← hat.drop, List.head?_drop]

/-- Passing one byte. -/
theorem at_step {byte : UInt8} {rest : Bytes} (hlen : json.length < usizeSize)
    (hat : At json offset (byte :: rest)) :
    (addUsize offset 1 : Outcome Exit Nat) = .ok (offset + 1) ∧ At json (offset + 1) rest := by
  have hsplit : At json offset ([byte] ++ rest) := hat
  have hnext : At json (offset + 1) rest := hsplit.next
  have hle := hnext.le
  exact ⟨addUsize_of_lt (by omega), hnext⟩

/-- **A skip passes a run and stops behind it.** -/
theorem skipWhile_of_run {p : UInt8 → Bool} {run rest : Bytes} (hlen : json.length < usizeSize)
    (hat : At json offset (run ++ rest)) (hrun : ∀ byte ∈ run, p byte = true)
    (hstop : StopsAt p rest) :
    skipWhile p json (json.length + 1) offset = .ok (offset + run.length) := by
  rw [skipWhile_eq hlen _ _ (by omega), hat.drop, takeWhile_of_run hrun hstop]

/-- The same for whitespace. -/
theorem skipWs_of_run {w rest : Bytes} (hlen : json.length < usizeSize)
    (hat : At json offset (w ++ rest)) (hw : Ws w) (hstop : StopsAt whitespace rest) :
    skipWs json offset = .ok (offset + w.length) :=
  skipWhile_of_run hlen hat hw hstop

/-- A string in front of the scanner is read whole. -/
theorem jsonString_of_text {value rest : Bytes} (hlen : json.length < usizeSize)
    (hat : At json offset (quote :: (value ++ quote :: rest))) (hvalue : PlainText value) :
    jsonString json offset = .ok (value, offset + 1 + value.length + 1)
      ∧ At json (offset + 1 + value.length + 1) rest := by
  obtain ⟨hadd, hat₁⟩ := at_step hlen hat
  have hat₂ := hat₁.next
  obtain ⟨-, hat₃⟩ := at_step hlen hat₂
  have htake : (value ++ quote :: rest).takeWhile plain = value :=
    takeWhile_of_run hvalue (stopsAt_cons rest (by decide))
  refine ⟨?_, hat₃⟩
  rw [jsonString, rejectIf_neg (by rw [at_head hat]; exact not_not.mpr rfl), ok_bind, hadd, ok_bind,
    stringLoop_eq hlen _ _ (by omega) (Nat.le_refl _), hat₁.drop, htake,
    if_pos (by rw [at_head hat₂]; rfl), Nat.add_sub_cancel_left, List.take_left']
  rfl

/-- What the scanner read as a string stood in front of it. -/
theorem jsonString_eq_ok {text value : Bytes} {stop : Nat} (hlen : json.length < usizeSize)
    (hat : At json offset text) (h : jsonString json offset = .ok (value, stop)) :
    ∃ rest, text = quote :: (value ++ quote :: rest) ∧ PlainText value ∧ At json stop rest := by
  obtain ⟨hquote, h⟩ := rejectIf_bind_eq_ok.mp h
  rw [not_not, at_head hat] at hquote
  cases text with
  | nil => exact absurd hquote nofun
  | cons byte text =>
      obtain rfl : byte = quote := Option.some.inj hquote
      obtain ⟨hadd, hat₁⟩ := at_step hlen hat
      obtain ⟨run, rest, rfl, hrun, hstop⟩ := exists_run plain text
      rw [hadd, ok_bind, stringLoop_eq hlen _ _ (by omega) (Nat.le_refl _), hat₁.drop] at h
      rw [takeWhile_of_run hrun hstop, Nat.add_sub_cancel_left, List.take_left' rfl,
        at_head hat₁.next] at h
      split at h
      · rename_i hclose
        cases rest with
        | nil => exact absurd hclose nofun
        | cons byte rest =>
            obtain rfl : byte = quote := Option.some.inj hclose
            cases h
            exact ⟨rest, rfl, hrun, (at_step hlen hat₁.next).2⟩
      · exact absurd h nofun

/-- What does not open with a quote is no string. -/
theorem jsonString_of_head {text : Bytes} (hat : At json offset text)
    (h : text.head? ≠ some quote) : jsonString json offset = .err .digestBindingFailure := by
  rw [jsonString, at_head hat, rejectIf_pos h, err_bind]

end Reading

/-! ## Members -/

/-- The keys whose values are compared. -/
def IsChecked (key : Bytes) : Prop := key = keyType ∨ key = keyChallenge ∨ key = keyOrigin

instance (key : Bytes) : Decidable (IsChecked key) :=
  inferInstanceAs (Decidable (_ ∨ _ ∨ _))

section Members

variable (challenge origin : Bytes)

/-- What the loop does with a member: a primitive cannot be the value of a checked key. -/
def checkValue (m : Member) (found : Found) : Outcome Exit Found :=
  if IsChecked m.key then
    match m.value with
    | .string value => checkMember challenge origin m.key value found
    | .primitive _ => .err .digestBindingFailure
  else .ok found

/-- The checks of the members, in their order. -/
def checkValues : List Member → Found → Outcome Exit Found
  | [], found => .ok found
  | m :: ms, found => checkValue challenge origin m found >>= checkValues ms

variable {challenge origin} {json : Bytes} {offset : Nat} {found : Found}

/-- The value of a checked name is read as a string. -/
theorem memberValue_of_checked {key : Bytes} (hkey : IsChecked key) :
    memberValue json challenge origin key offset found = do
      let (value, stop) ← jsonString json offset
      return (stop, ← checkMember challenge origin key value found) :=
  if_pos hkey

/-- Any other value is passed over. -/
theorem memberValue_of_not_checked {key : Bytes} (hkey : ¬ IsChecked key) :
    memberValue json challenge origin key offset found
      = if json[offset]? = some quote then do
          let (_, stop) ← jsonString json offset
          return (stop, found)
        else do
          return (← skipPrimitive json offset, found) :=
  if_neg hkey

/-- The value of a member in front of the scanner. -/
theorem memberValue_of_text {m : Member} {rest : Bytes} (hlen : json.length < usizeSize)
    (hat : At json offset (m.value.text ++ rest)) (hvalue : m.value.WellFormed)
    (hstop : StopsAt primitive rest) :
    memberValue json challenge origin m.key offset found
      = checkValue challenge origin m found >>= fun found =>
          .ok (offset + m.value.text.length, found) := by
  obtain ⟨key, value⟩ := m
  cases value with
  | string value =>
      have hat' : At json offset (quote :: (value ++ quote :: rest)) := by
        simpa only [Value.text, List.cons_append, List.append_assoc, List.nil_append] using hat
      obtain ⟨hread, -⟩ := jsonString_of_text hlen hat' hvalue
      have hoffset : offset + 1 + value.length + 1 = offset + (Value.string value).text.length := by
        simp only [Value.text, List.length_cons, List.length_append, List.length_nil]
        omega
      have hquote : json[offset]? = some quote := at_head hat'
      rw [hoffset] at hread
      by_cases hkey : IsChecked key
      · rw [memberValue_of_checked hkey, checkValue, if_pos hkey, hread]
        rfl
      · rw [memberValue_of_not_checked hkey, checkValue, if_neg hkey, if_pos hquote, hread]
        rfl
  | primitive text =>
      have hhead : (text ++ rest).head? ≠ some quote := by
        cases htext : text with
        | nil => exact absurd htext hvalue.ne_nil
        | cons byte text' =>
            have hstart := hvalue.start
            rw [htext] at hstart
            exact hstart
      have hquote : json[offset]? ≠ some quote := at_head hat ▸ hhead
      by_cases hkey : IsChecked key
      · -- a checked key asks for a string, so a primitive value is refused
        rw [memberValue_of_checked hkey, checkValue, if_pos hkey, jsonString_of_head hat hhead]
        rfl
      · have hpos : 0 < text.length := List.length_pos_iff.mpr hvalue.ne_nil
        -- a primitive run is never empty, so the parser has moved on
        have hmoved : ¬ offset + text.length = offset := by omega
        have hskip : skipWhile primitive json (json.length + 1) offset
            = .ok (offset + text.length) := skipWhile_of_run hlen hat hvalue.bytes hstop
        rw [memberValue_of_not_checked hkey, checkValue, if_neg hkey, if_neg hquote, skipPrimitive,
          hskip, ok_bind, rejectIf_neg hmoved]
        rfl

/-- What the scanner read as a value stood in front of it. -/
theorem memberValue_eq_ok {text key : Bytes} {stop : Nat} {found' : Found}
    (hlen : json.length < usizeSize) (hat : At json offset text)
    (h : memberValue json challenge origin key offset found = .ok (stop, found')) :
    ∃ value rest, text = Value.text value ++ rest ∧ value.WellFormed ∧ At json stop rest
      ∧ checkValue challenge origin ⟨key, value⟩ found = .ok found' := by
  -- whatever `jsonString` read is a string of the grammar at this place
  have hstring : ∀ value, jsonString json offset = .ok (value, stop) →
      ∃ rest, text = (Value.string value).text ++ rest ∧ PlainText value ∧ At json stop rest := by
    intro value hread
    obtain ⟨rest, rfl, hplain, hrest⟩ := jsonString_eq_ok hlen hat hread
    refine ⟨rest, ?_, hplain, hrest⟩
    simp only [Value.text, List.cons_append, List.append_assoc, List.nil_append]
  by_cases hkey : IsChecked key
  · rw [memberValue_of_checked hkey] at h
    obtain ⟨⟨value, stop'⟩, hread, h⟩ := bind_eq_ok.mp h
    obtain ⟨found₁, hcheck, h⟩ := bind_eq_ok.mp h
    cases h
    obtain ⟨rest, htext, hplain, hrest⟩ := hstring value hread
    refine ⟨.string value, rest, htext, hplain, hrest, ?_⟩
    rw [checkValue, if_pos hkey]
    exact hcheck
  · have hcheck : ∀ value, checkValue challenge origin ⟨key, value⟩ found = .ok found :=
      fun value => if_neg hkey
    rw [memberValue_of_not_checked hkey] at h
    by_cases hquote : json[offset]? = some quote
    · rw [if_pos hquote] at h
      obtain ⟨⟨value, stop'⟩, hread, h⟩ := bind_eq_ok.mp h
      cases h
      obtain ⟨rest, htext, hplain, hrest⟩ := hstring value hread
      exact ⟨.string value, rest, htext, hplain, hrest, hcheck _⟩
    · rw [if_neg hquote] at h
      obtain ⟨stop', hskip, h⟩ := bind_eq_ok.mp h
      cases h
      obtain ⟨run, rest, rfl, hrun, hstop⟩ := exists_run primitive text
      rw [skipPrimitive, skipWhile_of_run hlen hat hrun hstop, ok_bind] at hskip
      obtain ⟨hne, hskip⟩ := rejectIf_bind_eq_ok.mp hskip
      cases hskip
      -- the run does not open with a quote, as the string branch was not taken
      rw [at_head hat] at hquote
      have hrunne : run ≠ [] := by
        rintro rfl
        exact hne rfl
      refine ⟨.primitive run, rest, rfl, ⟨hrunne, hrun, ?_⟩, hat.next, hcheck _⟩
      rwa [List.head?_append_of_ne_nil _ hrunne] at hquote

/-- What is left after the separator behind a member: a comma is passed, a closing brace is
    not. -/
def afterSeparator (separator : UInt8) (rest : Bytes) : Bytes :=
  if separator = comma then rest else separator :: rest

theorem stopsAt_ws_separator {separator : UInt8} (rest : Bytes)
    (hsep : separator = comma ∨ separator = closeBrace) :
    StopsAt whitespace (separator :: rest) := by
  refine stopsAt_cons rest ?_
  rcases hsep with rfl | rfl <;> decide

theorem stopsAt_primitive_separator {separator : UInt8} (rest : Bytes)
    (hsep : separator = comma ∨ separator = closeBrace) :
    StopsAt primitive (separator :: rest) := by
  refine stopsAt_cons rest ?_
  rcases hsep with rfl | rfl <;> decide

/-- A separator leads to the next member or ends the object. -/
theorem memberEnd_of_text {separator : UInt8} {rest : Bytes} (hlen : json.length < usizeSize)
    (hat : At json offset (separator :: rest))
    (hsep : separator = comma ∨ separator = closeBrace) :
    ∃ stop, (∀ found, memberEnd json offset found = .ok (.next (stop, found)))
      ∧ At json stop (afterSeparator separator rest) := by
  have hhead : json[offset]? = some separator := at_head hat
  rcases hsep with rfl | rfl
  · obtain ⟨hadd, hnext⟩ := at_step hlen hat
    refine ⟨offset + 1, ?_, hnext⟩
    intro found
    rw [memberEnd, if_pos hhead, hadd]
    rfl
  · refine ⟨offset, ?_, hat⟩
    intro found
    rw [memberEnd, hhead, if_neg (by decide), if_pos rfl]

/-- **One pass reads one member**: what the loop does on a member in front of it is to check
    its value and to pass it with the comma behind it. -/
theorem clientPass_of_member {m : Member} {t rest : Bytes} {separator : UInt8}
    (hlen : json.length < usizeSize) (hmember : MemberText m t)
    (hsep : separator = comma ∨ separator = closeBrace)
    (hat : At json offset (t ++ separator :: rest)) :
    ∃ stop, At json stop (afterSeparator separator rest)
      ∧ ∀ found, clientPass json challenge origin offset found
        = checkValue challenge origin m found >>= fun found => .ok (.next (stop, found)) := by
  cases hmember with
  | @mk key value w₁ w₂ w₃ w₄ h₁ hkey h₂ h₃ hvalue h₄ =>
      simp only [List.append_assoc, List.cons_append] at hat
      -- walk along the member: name, colon, value and the space between them
      have hat₁ := hat.next
      obtain ⟨hkeyread, hat₂⟩ := jsonString_of_text hlen hat₁ hkey
      have hat₃ := hat₂.next
      obtain ⟨hadd, hat₄⟩ := at_step hlen hat₃
      have hat₅ := hat₄.next
      have hat₆ := hat₅.next
      have hat₇ := hat₆.next
      have hstop := stopsAt_ws h₄ (stopsAt_primitive_separator rest hsep)
      have hvaluehead := hvalue.stopsAt_ws (w₄ ++ separator :: rest)
      have hcolon : json[offset + w₁.length + 1 + key.length + 1 + w₂.length]? = some colon :=
        at_head hat₃
      obtain ⟨stop, hend, hat₈⟩ := memberEnd_of_text hlen hat₇ hsep
      refine ⟨stop, hat₈, ?_⟩
      intro found
      rw [clientPass, skipWs_of_run hlen hat h₁ (stopsAt_cons _ (by decide)), ok_bind,
        at_head hat₁, if_neg (by simp [quote, closeBrace]), member, hkeyread, ok_bind]
      simp only
      rw [skipWs_of_run hlen hat₂ h₂ (stopsAt_cons _ (by decide)), ok_bind,
        rejectIf_neg (not_not.mpr hcolon), ok_bind, hadd, ok_bind,
        skipWs_of_run hlen hat₄ h₃ hvaluehead, ok_bind,
        memberValue_of_text (m := ⟨key, value⟩) hlen hat₅ hvalue hstop, bind_assoc]
      congr 1
      funext found'
      rw [ok_bind]
      simp only
      rw [skipWs_of_run hlen hat₆ h₄ (stopsAt_ws_separator rest hsep), ok_bind, hend]

/-- Nothing else does. -/
theorem memberEnd_eq_ok {text : Bytes} {flow : Flow (Nat × Found)}
    (hlen : json.length < usizeSize) (hat : At json offset text)
    (h : memberEnd json offset found = .ok flow) :
    ∃ separator rest stop, text = separator :: rest
      ∧ (separator = comma ∨ separator = closeBrace) ∧ flow = .next (stop, found)
      ∧ At json stop (afterSeparator separator rest) := by
  have hsep : ∃ separator rest, text = separator :: rest
      ∧ (separator = comma ∨ separator = closeBrace) := by
    rw [memberEnd, at_head hat] at h
    cases text with
    | nil => exact absurd h nofun
    | cons byte text =>
        refine ⟨byte, text, rfl, ?_⟩
        by_contra hno
        rw [not_or] at hno
        rw [List.head?_cons, if_neg (fun he => hno.1 (Option.some.inj he)),
          if_neg (fun he => hno.2 (Option.some.inj he))] at h
        exact absurd h nofun
  obtain ⟨separator, rest, rfl, hsep⟩ := hsep
  obtain ⟨stop, hend, hstop⟩ := memberEnd_of_text hlen hat hsep
  rw [hend found] at h
  exact ⟨separator, rest, stop, rfl, hsep, (Outcome.ok.inj h).symm, hstop⟩

/-- What a pass read was the end of the object or a member. -/
theorem clientPass_eq_ok {text : Bytes} {flow : Flow (Nat × Found)}
    (hlen : json.length < usizeSize) (hat : At json offset text)
    (h : clientPass json challenge origin offset found = .ok flow) :
    (∃ w rest stop, text = w ++ closeBrace :: rest ∧ Ws w ∧ flow = .done (stop, found)
        ∧ At json stop rest)
      ∨ ∃ m t separator rest stop found', text = t ++ separator :: rest ∧ MemberText m t
        ∧ (separator = comma ∨ separator = closeBrace) ∧ flow = .next (stop, found')
        ∧ At json stop (afterSeparator separator rest)
        ∧ checkValue challenge origin m found = .ok found' := by
  obtain ⟨w₁, text₁, rfl, h₁, hstop₁⟩ := exists_run whitespace text
  rw [clientPass, skipWs_of_run hlen hat h₁ hstop₁, ok_bind, at_head hat.next] at h
  by_cases hclose : text₁.head? = some closeBrace
  · left
    -- the closing brace ends the loop, with or without a comma before it
    obtain ⟨rest, rfl⟩ := List.head?_eq_some_iff.mp hclose
    obtain ⟨hadd, hrest⟩ := at_step hlen hat.next
    rw [if_pos hclose, hadd] at h
    exact ⟨w₁, rest, _, rfl, h₁, (Outcome.ok.inj h).symm, hrest⟩
  · right
    rw [if_neg hclose, member] at h
    -- otherwise the pass reads one whole member and its separator
    obtain ⟨⟨key, o₁⟩, hread, h⟩ := bind_eq_ok.mp h
    obtain ⟨text₂, rfl, hkey, hat₁⟩ := jsonString_eq_ok hlen hat.next hread
    obtain ⟨w₂, text₃, rfl, h₂, hstop₂⟩ := exists_run whitespace text₂
    simp only at h
    rw [skipWs_of_run hlen hat₁ h₂ hstop₂, ok_bind, at_head hat₁.next] at h
    obtain ⟨hcolon, hread'⟩ := rejectIf_bind_eq_ok.mp h
    obtain ⟨text₄, rfl⟩ := List.head?_eq_some_iff.mp (not_not.mp hcolon)
    obtain ⟨hadd, hat₂⟩ := at_step hlen hat₁.next
    obtain ⟨w₃, text₅, rfl, h₃, hstop₃⟩ := exists_run whitespace text₄
    rw [hadd, ok_bind, skipWs_of_run hlen hat₂ h₃ hstop₃, ok_bind] at hread'
    obtain ⟨⟨o₂, found'⟩, hvalueread, hend⟩ := bind_eq_ok.mp hread'
    obtain ⟨value, text₆, rfl, hvalue, hat₃, hcheck⟩ := memberValue_eq_ok hlen hat₂.next hvalueread
    obtain ⟨w₄, text₇, rfl, h₄, hstop₄⟩ := exists_run whitespace text₆
    simp only at hend
    rw [skipWs_of_run hlen hat₃ h₄ hstop₄, ok_bind] at hend
    obtain ⟨separator, rest, stop, rfl, hsep, rfl, hstop⟩ := memberEnd_eq_ok hlen hat₃.next hend
    refine ⟨⟨key, value⟩, _, separator, rest, stop, found', ?_, .mk h₁ hkey h₂ h₃ hvalue h₄, hsep,
      rfl, hstop, hcheck⟩
    simp only [List.append_assoc, List.cons_append]

/-! ## The loop -/

/-- At the closing brace the loop ends. -/
theorem clientLoop_of_close {fuel : Nat} {w rest : Bytes} (hlen : json.length < usizeSize)
    (hw : Ws w) (hat : At json offset (w ++ closeBrace :: rest)) :
    ∃ stop, At json stop rest
      ∧ ∀ found, clientLoop json challenge origin (fuel + 1) offset found = .ok (stop, found) := by
  obtain ⟨hadd, hrest⟩ := at_step hlen hat.next
  refine ⟨_, hrest, ?_⟩
  intro found
  have hclose : json[offset + w.length]? = some closeBrace := at_head hat.next
  rw [clientLoop, clientPass, skipWs_of_run hlen hat hw (stopsAt_cons _ (by decide)), ok_bind,
    if_pos hclose, hadd]
  rfl

/-- A member in front of the loop is one pass. -/
theorem clientLoop_of_member {fuel : Nat} {m : Member} {t rest : Bytes} {separator : UInt8}
    (hlen : json.length < usizeSize) (hmember : MemberText m t)
    (hsep : separator = comma ∨ separator = closeBrace)
    (hat : At json offset (t ++ separator :: rest)) :
    ∃ stop, At json stop (afterSeparator separator rest)
      ∧ ∀ found, clientLoop json challenge origin (fuel + 1) offset found
        = checkValue challenge origin m found >>= clientLoop json challenge origin fuel stop := by
  obtain ⟨stop, hstop, hpass⟩ := clientPass_of_member hlen hmember hsep hat
  refine ⟨stop, hstop, ?_⟩
  intro found
  rw [clientLoop, hpass, bind_assoc]
  rfl

/-- **The loop reads the members**: on members in front of it, it checks them one after the
    other and ends behind the closing brace. -/
theorem clientLoop_of_text (hlen : json.length < usizeSize) {ms : List Member} {comma? : Bool}
    {body w rest : Bytes} (hmembers : MembersText ms comma? body) (hw : Ws w) :
    ∀ fuel offset, At json offset (body ++ (w ++ closeBrace :: rest)) → ms.length < fuel →
      ∃ stop, At json stop rest ∧ ∀ found, clientLoop json challenge origin fuel offset found
        = checkValues challenge origin ms found >>= fun found => .ok (stop, found) := by
  induction hmembers with
  | nil =>
      intro fuel offset hat hfuel
      obtain ⟨fuel, rfl⟩ : ∃ f, fuel = f + 1 := ⟨fuel - 1, by omega⟩
      exact clientLoop_of_close hlen hw hat
  | @last m t hmember =>
      intro fuel offset hat hfuel
      obtain ⟨fuel, rfl⟩ : ∃ f, fuel = f + 1 + 1 := ⟨fuel - 2, by
        rw [List.length_singleton] at hfuel
        omega⟩
      -- the brace ends the pass, and is found again by the next one
      rw [← List.append_assoc] at hat
      obtain ⟨stop, hstop, hloop⟩ :=
        clientLoop_of_member hlen (hmember.append_ws hw) (.inr rfl) hat
      obtain ⟨stop', hrest, hclose⟩ := clientLoop_of_close (w := []) hlen nofun hstop
      refine ⟨stop', hrest, ?_⟩
      intro found
      rw [hloop, checkValues, bind_assoc]
      congr 1
      funext found'
      exact hclose found'
  | @trailing m t hmember =>
      intro fuel offset hat hfuel
      obtain ⟨fuel, rfl⟩ : ∃ f, fuel = f + 1 + 1 := ⟨fuel - 2, by
        rw [List.length_singleton] at hfuel
        omega⟩
      rw [List.append_assoc] at hat
      obtain ⟨stop, hstop, hloop⟩ := clientLoop_of_member hlen hmember (.inl rfl) hat
      obtain ⟨stop', hrest, hclose⟩ := clientLoop_of_close hlen hw hstop
      refine ⟨stop', hrest, ?_⟩
      intro found
      rw [hloop, checkValues, bind_assoc]
      congr 1
      funext found'
      exact hclose found'
  | @cons m m' ms comma? t body hmember _ ih =>
      intro fuel offset hat hfuel
      obtain ⟨fuel, rfl⟩ : ∃ f, fuel = f + 1 := ⟨fuel - 1, by omega⟩
      rw [List.append_assoc] at hat
      obtain ⟨stop, hstop, hloop⟩ := clientLoop_of_member hlen hmember (.inl rfl) hat
      obtain ⟨stop', hrest, hms⟩ := ih fuel stop hstop (Nat.lt_of_succ_lt_succ hfuel)
      refine ⟨stop', hrest, ?_⟩
      intro found
      rw [hloop, checkValues, bind_assoc]
      congr 1
      funext found'
      exact hms found'

/-- What the loop read were members and the closing brace. -/
theorem clientLoop_eq_ok (hlen : json.length < usizeSize) :
    ∀ fuel offset text found stop found', At json offset text →
      clientLoop json challenge origin fuel offset found = .ok (stop, found') →
      ∃ ms comma? body w rest, MembersText ms comma? body ∧ Ws w
        ∧ text = body ++ (w ++ closeBrace :: rest) ∧ At json stop rest
        ∧ checkValues challenge origin ms found = .ok found' := by
  intro fuel
  induction fuel with
  | zero =>
      intro offset text found stop found' _ h
      exact absurd h nofun
  | succ fuel ih =>
      intro offset text found stop found' hat h
      rw [clientLoop] at h
      obtain ⟨flow, hpass, h⟩ := bind_eq_ok.mp h
      -- the pass ended the loop at a brace, or read a member
      obtain ⟨w, rest, stop', rfl, hw, rfl, hrest⟩
        | ⟨m, t, separator, rest, stop', found₁, rfl, hmember, hsep, rfl, hstop, hcheck⟩ :=
        clientPass_eq_ok hlen hat hpass
      · cases h
        exact ⟨[], false, [], w, rest, .nil, hw, rfl, hrest, rfl⟩
      · have hcons : ∀ {ms}, checkValues challenge origin ms found₁ = .ok found' →
            checkValues challenge origin (m :: ms) found = .ok found' := by
          intro ms hms
          rw [checkValues, hcheck, ok_bind, hms]
        obtain ⟨ms, comma?, body, w, rest', hms, hw, htext, hrest, hchecks⟩ :=
          ih stop' _ found₁ stop found' hstop h
        -- behind the member stands a comma or the closing brace
        rcases hsep with rfl | rfl
        · have htext : rest = body ++ (w ++ closeBrace :: rest') := htext
          subst htext
          cases ms with
          | nil =>
              cases hms
              refine ⟨[m], true, t ++ [comma], w, rest', .trailing hmember, hw, ?_, hrest,
                hcons hchecks⟩
              simp only [List.append_assoc, List.cons_append, List.nil_append]
          | cons m' ms =>
              refine ⟨m :: m' :: ms, comma?, t ++ comma :: body, w, rest', .cons hmember hms, hw, ?_,
                hrest, hcons hchecks⟩
              simp only [List.append_assoc, List.cons_append]
        · -- the next pass is at the closing brace, where no member starts
          cases fuel with
          | zero => exact absurd h nofun
          | succ fuel =>
              have hnil : Ws [] := nofun
              have hbrace : At json stop' ([] ++ closeBrace :: rest) := hstop
              obtain ⟨stop₁, hrest₁, hclose⟩ : ∃ stop, At json stop rest ∧ ∀ found,
                  clientLoop json challenge origin (fuel + 1) stop' found = .ok (stop, found) :=
                clientLoop_of_close hlen hnil hbrace
              have h : clientLoop json challenge origin (fuel + 1) stop' found₁
                  = .ok (stop, found') := h
              rw [hclose] at h
              cases h
              exact ⟨[m], false, t, [], rest, .last hmember, nofun, rfl, hrest₁, hcons rfl⟩

/-! ## What the checks add up to -/

theorem MembersText.length_le {ms : List Member} {comma? : Bool} {body : Bytes}
    (h : MembersText ms comma? body) : ms.length ≤ body.length := by
  have hpos : ∀ {m t}, MemberText m t → 0 < t.length := by
    intro m t hmember
    cases hmember with
    | mk => simp only [List.length_append, List.length_cons]; omega
  induction h with
  | nil => exact Nat.le_refl _
  | last hmember => exact hpos hmember
  | trailing hmember =>
      rw [List.length_append]
      exact Nat.le_add_left ..
  | cons hmember _ ih =>
      simp only [List.length_append, List.length_cons] at ih ⊢
      omega

/-- What a stretch of members does to the flag of a key: without the key it stays, and the
    key may occur once, with the expected string, if the flag was down. -/
def Raises (key value : Bytes) (ms : List Member) (before after : Bool) : Prop :=
  (ms.filter (fun m => m.key = key) = [] ∧ after = before)
    ∨ (OccursOnce ms key value ∧ before = false ∧ after = true)

/-- A member of another name raises no flag. -/
theorem raises_of_key_ne {m : Member} {key value : Bytes} {before after : Bool}
    (h : m.key ≠ key) : Raises key value [m] before after ↔ after = before := by
  simp [Raises, OccursOnce, h]

/-- A member of the name raises it, once. -/
theorem raises_of_key_eq {m : Member} {key value : Bytes} {before after : Bool}
    (h : m.key = key) :
    Raises key value [m] before after
      ↔ m.value = .string value ∧ before = false ∧ after = true := by
  obtain ⟨key', v⟩ := m
  obtain rfl : key' = key := h
  simp [Raises, OccursOnce]

/-- Flags are passed on from member to member. -/
theorem raises_cons {m : Member} {ms : List Member} {key value : Bytes} {before after : Bool} :
    Raises key value (m :: ms) before after
      ↔ ∃ b, Raises key value [m] before b ∧ Raises key value ms b after := by
  by_cases hkey : m.key = key
  · -- the flag is up behind this member, so no other may follow
    simp only [raises_of_key_eq hkey]
    obtain ⟨key', v⟩ := m
    obtain rfl : key' = key := hkey
    simp only [Raises, OccursOnce, List.filter_cons, decide_true, if_true, List.cons_ne_nil,
      false_and, false_or, List.cons.injEq, Member.mk.injEq, true_and]
    constructor
    · rintro ⟨⟨rfl, hnil⟩, rfl, rfl⟩
      exact ⟨true, ⟨rfl, rfl, rfl⟩, .inl ⟨hnil, rfl⟩⟩
    · rintro ⟨b, ⟨rfl, rfl, rfl⟩, ⟨hnil, rfl⟩ | ⟨-, hfalse, -⟩⟩
      · exact ⟨⟨rfl, hnil⟩, rfl, rfl⟩
      · exact absurd hfalse nofun
  · simp only [raises_of_key_ne hkey, exists_eq_left]
    simp only [Raises, OccursOnce, List.filter_cons, hkey, decide_false]
    rfl

theorem raised_eq_ok {flag : Bool} {value expected : Bytes} {raised found : Found} :
    (do rejectIf (flag ∨ value ≠ expected) Exit.digestBindingFailure; return raised) = .ok found
      ↔ value = expected ∧ flag = false ∧ found = raised := by
  rw [rejectIf_bind_eq_ok, pure_eq, Outcome.ok.injEq, not_or, not_not, Bool.not_eq_true]
  constructor
  · rintro ⟨⟨hflag, hvalue⟩, rfl⟩
    exact ⟨hvalue, hflag, rfl⟩
  · rintro ⟨hvalue, hflag, rfl⟩
    exact ⟨⟨hflag, hvalue⟩, rfl⟩

/-- **One member, three flags.** -/
theorem checkValue_eq_ok {m : Member} {found found' : Found} :
    checkValue challenge origin m found = .ok found'
      ↔ Raises keyType webauthnGet [m] found.type found'.type
        ∧ Raises keyChallenge challenge [m] found.challenge found'.challenge
        ∧ Raises keyOrigin origin [m] found.origin found'.origin := by
  obtain ⟨key, value⟩ := m
  rw [checkValue]
  by_cases ht : key = keyType
  · -- the three checked names are distinct, so at most one flag is raised
    have hc : key ≠ keyChallenge := by rw [ht]; decide
    have ho : key ≠ keyOrigin := by rw [ht]; decide
    rw [if_pos (.inl ht), raises_of_key_eq ht, raises_of_key_ne hc, raises_of_key_ne ho]
    cases value with
    | primitive text => simp
    | string text =>
        show checkMember challenge origin key text found = .ok found' ↔ _
        rw [checkMember, if_pos ht, raised_eq_ok, Found.ext_iff]
        simp [and_assoc]
  by_cases hc : key = keyChallenge
  · have ho : key ≠ keyOrigin := by rw [hc]; decide
    rw [if_pos (.inr (.inl hc)), raises_of_key_ne ht, raises_of_key_eq hc, raises_of_key_ne ho]
    cases value with
    | primitive text => simp
    | string text =>
        show checkMember challenge origin key text found = .ok found' ↔ _
        rw [checkMember, if_neg ht, if_pos hc, raised_eq_ok, Found.ext_iff]
        simp
        tauto
  by_cases ho : key = keyOrigin
  · rw [if_pos (.inr (.inr ho)), raises_of_key_ne ht, raises_of_key_ne hc, raises_of_key_eq ho]
    cases value with
    | primitive text => simp
    | string text =>
        show checkMember challenge origin key text found = .ok found' ↔ _
        rw [checkMember, if_neg ht, if_neg hc, raised_eq_ok, Found.ext_iff]
        simp
        tauto
  · have hkey : ¬ IsChecked key := by
      rw [IsChecked, not_or, not_or]
      exact ⟨ht, hc, ho⟩
    rw [if_neg hkey, raises_of_key_ne ht, raises_of_key_ne hc, raises_of_key_ne ho,
      Outcome.ok.injEq, eq_comm, Found.ext_iff]

/-- **The checks of the members raise each flag once.** -/
theorem checkValues_eq_ok {ms : List Member} :
    ∀ {found found' : Found}, checkValues challenge origin ms found = .ok found'
      ↔ Raises keyType webauthnGet ms found.type found'.type
        ∧ Raises keyChallenge challenge ms found.challenge found'.challenge
        ∧ Raises keyOrigin origin ms found.origin found'.origin := by
  induction ms with
  | nil =>
      intro found found'
      rw [checkValues, Outcome.ok.injEq, eq_comm, Found.ext_iff]
      simp [Raises, OccursOnce]
  | cons m ms ih =>
      intro found found'
      rw [checkValues, bind_eq_ok, raises_cons, raises_cons, raises_cons]
      constructor
      · rintro ⟨found₁, hm, hms⟩
        obtain ⟨ht, hc, ho⟩ := checkValue_eq_ok.mp hm
        obtain ⟨ht', hc', ho'⟩ := ih.mp hms
        exact ⟨⟨_, ht, ht'⟩, ⟨_, hc, hc'⟩, ⟨_, ho, ho'⟩⟩
      · rintro ⟨⟨t, ht, ht'⟩, ⟨c, hc, hc'⟩, ⟨o, ho, ho'⟩⟩
        exact ⟨⟨t, c, o⟩, checkValue_eq_ok.mpr ⟨ht, hc, ho⟩, ih.mpr ⟨ht', hc', ho'⟩⟩

/-- A flag that goes up saw its key once, as expected. -/
theorem raises_up {ms : List Member} {key value : Bytes} :
    Raises key value ms false true ↔ OccursOnce ms key value := by
  simp [Raises]

/-- **All three flags go up exactly when each checked key occurs once, as expected.** -/
theorem checkValues_eq_found {ms : List Member} :
    checkValues challenge origin ms ⟨false, false, false⟩ = .ok ⟨true, true, true⟩
      ↔ Checked ms challenge origin := by
  rw [checkValues_eq_ok, raises_up, raises_up, raises_up]
  exact ⟨fun ⟨ht, hc, ho⟩ => ⟨ht, hc, ho⟩, fun h => ⟨h.type, h.challenge, h.origin⟩⟩

/-! ## The whole text -/

/-- The end of `validate_client_data`: nothing is left but white space, and the flags are up. -/
theorem verdict_eq_ok {found : Found} {rest : Bytes} (hlen : json.length < usizeSize)
    (hat : At json offset rest) :
    (do let stop ← skipWs json offset
        rejectIf (stop ≠ json.length ∨ ¬ found.type ∨ ¬ found.challenge ∨ ¬ found.origin)
          Exit.digestBindingFailure) = .ok ()
      ↔ Ws rest ∧ found = ⟨true, true, true⟩ := by
  obtain ⟨w, rest', rfl, hw, hstop⟩ := exists_run whitespace rest
  have hnext := hat.next
  have hlength : json.length = offset + w.length + rest'.length := by
    have hle := hnext.le
    rw [← hnext.drop, List.length_drop]
    omega
  -- only trailing whitespace lets the parser reach the end of the text
  have hws : Ws (w ++ rest') ↔ rest' = [] := by
    constructor
    · intro hall
      cases rest' with
      | nil => rfl
      | cons byte rest' =>
          have hbyte := hall byte (List.mem_append_right _ (List.mem_cons_self ..))
          rw [hstop byte rfl] at hbyte
          exact absurd hbyte nofun
    · rintro rfl
      rw [List.append_nil]
      exact hw
  rw [skipWs_of_run hlen hat hw hstop, ok_bind, rejectIf_eq_ok, hws, Found.ext_iff,
    ← List.length_eq_zero_iff]
  simp only [not_or, not_not, hlength]
  constructor
  · rintro ⟨hzero, hflags⟩
    exact ⟨by omega, hflags⟩
  · rintro ⟨hzero, hflags⟩
    exact ⟨by omega, hflags⟩

/-- **On an object of the grammar** the code accepts exactly when each checked key occurs once
    with the expected string. -/
theorem validateClientData_of_text {ms : List Member} {comma? : Bool}
    (hlen : json.length < usizeSize) (htext : ObjectText ms comma? json) :
    validateClientData json challenge origin = .ok () ↔ Checked ms challenge origin := by
  obtain ⟨w, body, w₁, w₂, hw, hms, h₁, h₂, hjson⟩ := htext
  have hat : At json 0 (w ++ openBrace :: (body ++ (w₁ ++ closeBrace :: w₂))) :=
    ⟨Nat.zero_le _, hjson⟩
  have hopen : json[0 + w.length]? = some openBrace := at_head hat.next
  obtain ⟨hadd, hat₁⟩ := at_step hlen hat.next
  have hfuel : ms.length < json.length + 1 := by
    have hle := hms.length_le
    have hlength := congrArg List.length hjson
    simp only [List.length_append, List.length_cons] at hlength
    omega
  obtain ⟨stop, hrest, hloop⟩ : ∃ stop, At json stop w₂ ∧ ∀ found,
      clientLoop json challenge origin (json.length + 1) (0 + w.length + 1) found
        = checkValues challenge origin ms found >>= fun found => .ok (stop, found) :=
    clientLoop_of_text hlen hms h₁ _ _ hat₁ hfuel
  rw [validateClientData, skipWs_of_run hlen hat hw (stopsAt_cons _ (by decide)), ok_bind,
    rejectIf_neg (not_not.mpr hopen), ok_bind, hadd, ok_bind, hloop, bind_assoc, bind_eq_ok,
    ← checkValues_eq_found]
  constructor
  · rintro ⟨found, hfound, hverdict⟩
    obtain ⟨-, rfl⟩ := (verdict_eq_ok hlen hrest).mp hverdict
    exact hfound
  · intro hfound
    exact ⟨_, hfound, (verdict_eq_ok hlen hrest).mpr ⟨h₂, rfl⟩⟩

/-- **What the code accepts is an object of the grammar.** -/
theorem objectText_of_ok (hlen : json.length < usizeSize)
    (h : validateClientData json challenge origin = .ok ()) :
    ∃ ms comma?, ObjectText ms comma? json := by
  obtain ⟨w, text, hjson, hw, hstop⟩ := exists_run whitespace json
  have hat : At json 0 (w ++ text) := ⟨Nat.zero_le _, hjson⟩
  rw [validateClientData, skipWs_of_run hlen hat hw hstop, ok_bind, at_head hat.next] at h
  obtain ⟨hopen, hread⟩ := rejectIf_bind_eq_ok.mp h
  obtain ⟨text', rfl⟩ := List.head?_eq_some_iff.mp (not_not.mp hopen)
  obtain ⟨hadd, hat₁⟩ := at_step hlen hat.next
  rw [hadd, ok_bind] at hread
  obtain ⟨⟨stop, found⟩, hloop, hverdict⟩ := bind_eq_ok.mp hread
  obtain ⟨ms, comma?, body, w₁, w₂, hms, h₁, rfl, hrest, -⟩ :=
    clientLoop_eq_ok hlen _ _ _ _ _ _ hat₁ hloop
  exact ⟨ms, comma?, w, body, w₁, w₂, hw, hms, h₁, ((verdict_eq_ok hlen hrest).mp hverdict).1,
    hjson⟩

/-- **The code accepts exactly its grammar.** -/
theorem validateClientData_eq_ok (hlen : json.length < usizeSize) :
    validateClientData json challenge origin = .ok ()
      ↔ ∃ ms comma?, ObjectText ms comma? json ∧ Checked ms challenge origin := by
  constructor
  · intro h
    obtain ⟨ms, comma?, htext⟩ := objectText_of_ok hlen h
    exact ⟨ms, comma?, htext, (validateClientData_of_text hlen htext).mp h⟩
  · rintro ⟨ms, comma?, htext, hchecked⟩
    exact (validateClientData_of_text hlen htext).mpr hchecked

end Members

/-! ## Flat JSON objects -/

section Flat

open JsonText (Json Chars Number Text Document)

/-- A value that is neither an array nor an object. -/
def IsFlat : Json → Prop
  | .array _ => False
  | .object _ => False
  | _ => True

/-- The scanner's reading of a flat value. -/
def valueOf : Json → Value
  | .null => .primitive JsonText.nullText
  | .bool true => .primitive JsonText.trueText
  | .bool false => .primitive JsonText.falseText
  | .number t => .primitive t
  | .string t => .string t
  | .array _ => .primitive []
  | .object _ => .primitive []

/-- The member that a JSON member is read as. -/
def memberOf (m : Bytes × Json) : Member := ⟨m.1, valueOf m.2⟩

theorem primitive_of_isScalarByte {byte : UInt8} (h : JsonText.isScalarByte byte = true) :
    primitive byte = true ∧ byte ≠ quote := by
  have hne : ∀ b, JsonText.isScalarByte b = false → byte ≠ b := by
    rintro b hb rfl
    rw [hb] at h
    exact absurd h nofun
  refine ⟨decide_eq_true ?_, hne quote (by decide)⟩
  rw [not_or, not_or]
  refine ⟨hne comma (by decide), hne closeBrace (by decide), ?_⟩
  intro hws
  rcases of_decide_eq_true hws with rfl | rfl | rfl | rfl
  · exact hne 0x20 (by decide) rfl
  · exact hne 0x0a (by decide) rfl
  · exact hne 0x0d (by decide) rfl
  · exact hne 0x09 (by decide) rfl

/-- A scalar is a run. -/
theorem run_of_scalar {t : Bytes} (h : JsonText.Scalar t) : Run t := by
  refine ⟨h.ne_nil, fun byte hb => (primitive_of_isScalarByte (h.isScalarByte byte hb)).1, ?_⟩
  intro hhead
  have hmem : quote ∈ t := List.mem_of_mem_head? hhead
  exact (primitive_of_isScalarByte (h.isScalarByte quote hmem)).2 rfl

/-- Characters without an escape are plain. -/
theorem plainText_of_chars {t : Bytes} (h : Chars t) (hescape : backslash ∉ t) :
    PlainText t := by
  induction h with
  | nil => exact nofun
  | @unescaped byte text hquote hbackslash hcontrol _ ih =>
      rw [List.mem_cons, not_or] at hescape
      refine List.forall_mem_cons.mpr ⟨decide_eq_true ?_, ih hescape.2⟩
      rw [not_or, not_or]
      exact ⟨hquote, hbackslash, UInt8.not_lt.mpr hcontrol⟩
  | escape => exact absurd (List.mem_cons_self ..) hescape
  | unicode => exact absurd (List.mem_cons_self ..) hescape

/-- What the grammar of JSON and that of the scanner have in common. -/
def Agrees (text : Bytes) : JsonText.Part → Prop
  | .value v => IsFlat v → (valueOf v).WellFormed ∧ (valueOf v).text = text
  | .items _ => True
  | .member m => IsFlat m.2 → MemberText (memberOf m) text
  | .members ms => (∀ m ∈ ms, IsFlat m.2) →
      ∃ m' ms', ms.map memberOf = m' :: ms' ∧ MembersText (m' :: ms') false text

/-- **Flat JSON without escapes is in the grammar.** -/
theorem agrees_of_text {part : JsonText.Part} {text : Bytes} (h : Text part text) :
    backslash ∉ text → Agrees text part := by
  induction h with
  | null => exact fun _ _ => ⟨run_of_scalar (.inr (.inl rfl)), rfl⟩
  | true => exact fun _ _ => ⟨run_of_scalar (.inr (.inr (.inl rfl))), rfl⟩
  | false => exact fun _ _ => ⟨run_of_scalar (.inr (.inr (.inr rfl))), rfl⟩
  | number hnumber => exact fun _ _ => ⟨run_of_scalar (.inl hnumber), rfl⟩
  | @string t hchars =>
      intro hescape _
      have hescape' : backslash ∉ t := by
        intro hmem
        exact hescape (List.mem_cons_of_mem _ (List.mem_append_left _ hmem))
      -- without escapes a decoded string is its own text
      show PlainText (JsonText.decode t) ∧ quote :: (JsonText.decode t ++ [quote]) = _
      rw [JsonText.decode_of_unescaped hescape']
      exact ⟨plainText_of_chars hchars hescape', rfl⟩
  | emptyArray => exact fun _ hflat => absurd hflat id
  | array => exact fun _ hflat => absurd hflat id
  | emptyObject => exact fun _ hflat => absurd hflat id
  | object => exact fun _ hflat => absurd hflat id
  -- an array has no flat reading; its items are not looked at
  | oneItem => exact fun _ => trivial
  | moreItems => exact fun _ => trivial
  | @member v w name w₁ w₂ t w₃ hw hname h₁ h₂ _ h₃ ih =>
      intro hescape hflat
      simp only [List.mem_append, List.mem_cons, not_or] at hescape
      obtain ⟨-, -, hname', -, -, -, -, ht, -⟩ := hescape
      obtain ⟨hvalue, htext⟩ := ih ht hflat
      rw [memberOf, JsonText.decode_of_unescaped hname', ← htext]
      exact .mk hw (plainText_of_chars hname hname') h₁ h₂ hvalue h₃
  | oneMember _ ih =>
      intro hescape hflat
      exact ⟨_, _, rfl, .last (ih hescape (hflat _ (List.mem_singleton_self _)))⟩
  | @moreMembers m ms t rest _ _ ihm ihms =>
      intro hescape hflat
      simp only [List.mem_append, List.mem_cons, not_or] at hescape
      obtain ⟨hflatm, hflatms⟩ := List.forall_mem_cons.mp hflat
      obtain ⟨m', ms', hmap, hms⟩ := ihms hescape.2.2 hflatms
      refine ⟨memberOf m, m' :: ms', ?_, .cons (ihm hescape.1 hflatm) hms⟩
      rw [List.map_cons, hmap]

/-- An object has exactly one member of a name, and its value is a string. -/
def OnlyMember (ms : List (Bytes × Json)) (name value : Bytes) : Prop :=
  ms.filter (fun m => m.1 = name) = [(name, .string value)]

/-- The three members of an assertion, once each. -/
structure Asserts (ms : List (Bytes × Json)) (challenge origin : Bytes) : Prop where
  type : OnlyMember ms keyType webauthnGet
  challenge : OnlyMember ms keyChallenge challenge
  origin : OnlyMember ms keyOrigin origin

/-- The only member of a name occurs once. -/
theorem OnlyMember.occursOnce {ms : List (Bytes × Json)} {name value : Bytes}
    (h : OnlyMember ms name value) : OccursOnce (ms.map memberOf) name value := by
  rw [OccursOnce, List.filter_map]
  exact congrArg (List.map memberOf) h

/-- Flat JSON objects without escapes, as browsers write them. -/
theorem objectText_of_document {ms : List (Bytes × Json)} {json : Bytes}
    (h : Document (.object ms) json) (hescape : backslash ∉ json)
    (hflat : ∀ m ∈ ms, IsFlat m.2) : ObjectText (ms.map memberOf) false json := by
  obtain ⟨w, t, w', hw, ht, hw', rfl⟩ := h
  cases ht with
  | @emptyObject w₁ h₁ =>
      refine ⟨w, [], w₁, w', hw, .nil, h₁, hw', ?_⟩
      simp only [List.cons_append, List.append_assoc, List.nil_append]
  | @object _ t ht =>
      simp only [List.mem_append, List.mem_cons, not_or] at hescape
      obtain ⟨m', ms', hmap, hms⟩ := agrees_of_text ht hescape.2.1.2.1 hflat
      rw [hmap]
      refine ⟨w, t, [], w', hw, hms, nofun, hw', ?_⟩
      simp only [List.cons_append, List.append_assoc, List.nil_append]

/-- **`validate_client_data` accepts exactly its grammar**: every text gets a verdict, the
    accepted ones are the objects in which the three checked keys occur once each with the
    expected strings, and among these are all flat JSON objects without escapes that have
    the three members, in any order and with any white space. -/
theorem validateClientData_accepts_grammar (json : Slice) (challenge origin : Bytes) :
    validateClientData json.val challenge origin ≠ .abort
      ∧ (validateClientData json.val challenge origin = .ok ()
          ↔ ∃ ms comma?, ObjectText ms comma? json.val ∧ Checked ms challenge origin)
      ∧ ∀ ms, Document (.object ms) json.val → backslash ∉ json.val →
          (∀ m ∈ ms, IsFlat m.2) → Asserts ms challenge origin →
          validateClientData json.val challenge origin = .ok () := by
  refine ⟨validateClientData_ne_abort json.property, validateClientData_eq_ok json.property, ?_⟩
  intro ms hdocument hescape hflat hasserts
  have htext := objectText_of_document hdocument hescape hflat
  exact (validateClientData_of_text json.property htext).mpr
    ⟨hasserts.type.occursOnce, hasserts.challenge.occursOnce, hasserts.origin.occursOnce⟩

end Flat

end CkbClientGrammar
