import CkbAccount.ClientGrammarProofs

/-! # Accepted client data and JSON

    The grammar of `validate_client_data` against that of JSON.  The two part ways at a comma
    before the closing brace, and at a skipped run that is no JSON value.

    * `document_of_strict`: without these an accepted text is a JSON object;
    * `strict_of_document`: with one of them it is not, as long as no skipped run starts like
      an array or an object. -/

namespace CkbClientJson

open RustOutcome CkbProtocol CkbClientData CkbClientGrammar
open JsonText (Json Chars Text Document quote backslash colon comma openBrace closeBrace)

/-! ## Strict texts are JSON -/

/-- A string, or a run that is a JSON value. -/
def IsJsonValue : Value → Prop
  | .string _ => True
  | .primitive t => ∃ v, Text (.value v) t

/-- An object of the grammar without a comma before its closing brace, whose skipped runs
    are JSON values. -/
def Strict (json : Bytes) : Prop :=
  ∃ ms, ObjectText ms false json ∧ ∀ m ∈ ms, IsJsonValue m.value

theorem chars_of_plainText {t : Bytes} (h : PlainText t) : Chars t := by
  induction t with
  | nil => exact .nil
  | cons byte t ih =>
      obtain ⟨hbyte, ht⟩ := List.forall_mem_cons.mp h
      have hplain := of_decide_eq_true hbyte
      rw [not_or, not_or] at hplain
      exact .unescaped hplain.1 hplain.2.1 (UInt8.not_lt.mp hplain.2.2) (ih ht)

theorem exists_value {value : Value} (hvalue : value.WellFormed) (hjson : IsJsonValue value) :
    ∃ v, Text (.value v) value.text := by
  cases value with
  | string t => exact ⟨_, .string (chars_of_plainText hvalue)⟩
  | primitive t => exact hjson

theorem exists_member {m : Member} {t : Bytes} (h : MemberText m t)
    (hjson : IsJsonValue m.value) : ∃ p, Text (.member p) t := by
  cases h with
  | mk h₁ hkey h₂ h₃ hvalue h₄ =>
      obtain ⟨v, hv⟩ := exists_value hvalue hjson
      exact ⟨_, .member h₁ (chars_of_plainText hkey) h₂ h₃ hv h₄⟩

/-- The members of a strict object, with white space behind them, are members of JSON. -/
theorem exists_members {ms : List Member} {comma? : Bool} {body w : Bytes}
    (h : MembersText ms comma? body) (hw : Ws w) :
    comma? = false → ms ≠ [] → (∀ m ∈ ms, IsJsonValue m.value) →
      ∃ ps, Text (.members ps) (body ++ w) := by
  induction h with
  | nil => exact fun _ hne _ => absurd rfl hne
  | last hmember =>
      intro _ _ hjson
      obtain ⟨p, hp⟩ := exists_member (hmember.append_ws hw) (hjson _ (List.mem_singleton_self _))
      exact ⟨[p], .oneMember hp⟩
  | trailing => exact fun hfalse => absurd hfalse nofun
  | cons hmember _ ih =>
      intro hfalse _ hjson
      obtain ⟨hm, hms⟩ := List.forall_mem_cons.mp hjson
      obtain ⟨p, hp⟩ := exists_member hmember hm
      obtain ⟨ps, hps⟩ := ih hfalse (List.cons_ne_nil _ _) hms
      refine ⟨p :: ps, ?_⟩
      rw [List.append_assoc, List.cons_append]
      exact .moreMembers hp hps

/-- **Strict texts are JSON objects.** -/
theorem document_of_strict {json : Bytes} (h : Strict json) :
    ∃ ps, Document (.object ps) json := by
  obtain ⟨ms, ⟨w, body, w₁, w₂, hw, hms, h₁, h₂, rfl⟩, hjson⟩ := h
  cases ms with
  | nil =>
      cases hms
      refine ⟨[], w, _, w₂, hw, .emptyObject h₁, h₂, ?_⟩
      simp only [List.cons_append, List.append_assoc, List.nil_append]
  | cons m ms =>
      obtain ⟨ps, hps⟩ := exists_members hms h₁ rfl (List.cons_ne_nil _ _) hjson
      refine ⟨ps, w, _, w₂, hw, .object hps, h₂, ?_⟩
      simp only [List.cons_append, List.append_assoc, List.nil_append]

/-! ## Two readings of one text -/

/-- A value that does not start like an array or an object. -/
def StartsFlat : Value → Prop
  | .string _ => True
  | .primitive t => t.head? ≠ some JsonText.openBracket ∧ t.head? ≠ some openBrace

theorem not_plainText_cons {byte : UInt8} {key rest y : Bytes} (hkey : PlainText key)
    (hplain : plain byte = false) (hquote : byte ≠ quote) : byte :: rest ≠ key ++ quote :: y := by
  intro h
  cases key with
  | nil => exact hquote (List.cons.inj h).1
  | cons byte' key =>
      have hbyte := hkey byte' (List.mem_cons_self ..)
      rw [← (List.cons.inj h).1, hplain] at hbyte
      exact absurd hbyte nofun

/-- Strings of JSON end where strings without escapes end. -/
theorem chars_unique {name key x y : Bytes} (hname : Chars name) (hkey : PlainText key)
    (h : name ++ quote :: x = key ++ quote :: y) : name = key ∧ x = y := by
  induction hname generalizing key with
  | nil =>
      cases key with
      | nil => exact ⟨rfl, (List.cons.inj h).2⟩
      | cons byte key =>
          have hbyte := hkey byte (List.mem_cons_self ..)
          rw [← (List.cons.inj h).1] at hbyte
          exact absurd hbyte (by decide)
  | unescaped hquote _ _ _ ih =>
      cases key with
      | nil => exact absurd (List.cons.inj h).1 hquote
      | cons byte' key =>
          obtain ⟨rfl, hrest⟩ := List.cons.inj h
          obtain ⟨rfl, hxy⟩ := ih (fun b hb => hkey b (List.mem_cons_of_mem _ hb)) hrest
          exact ⟨rfl, hxy⟩
  | escape => exact absurd h (not_plainText_cons hkey (by decide) (by decide))
  | unicode => exact absurd h (not_plainText_cons hkey (by decide) (by decide))

/-- Two strings in front of the same rest. -/
theorem strings_aligned {name key x y : Bytes} (hname : Chars name) (hkey : PlainText key)
    (h : quote :: (name ++ quote :: x) = quote :: (key ++ quote :: y)) : name = key ∧ x = y :=
  chars_unique hname hkey (List.cons.inj h).2

theorem ws_aligned {w w' x y : Bytes} (hw : Ws w) (hw' : Ws w') (hx : StopsAt whitespace x)
    (hy : StopsAt whitespace y) (h : w ++ x = w' ++ y) : x = y :=
  (run_unique hw hw' hx hy h).2

/-- A number or a literal is skipped as it is. -/
theorem scalar_aligned {t x y : Bytes} {value : Value} (ht : JsonText.Scalar t)
    (hvalue : value.WellFormed) (hx : StopsAt primitive x) (hy : StopsAt primitive y)
    (h : t ++ x = value.text ++ y) : value.text = t ∧ x = y := by
  have hrun := run_of_scalar ht
  cases value with
  | string text =>
      have hhead := congrArg List.head? h
      rw [List.head?_append_of_ne_nil _ hrun.ne_nil] at hhead
      exact absurd hhead hrun.start
  | primitive text =>
      obtain ⟨rfl, hxy⟩ := run_unique hrun.bytes hvalue.bytes hx hy h
      exact ⟨rfl, hxy⟩

/-- A value that starts flat is not read as an array or an object. -/
theorem bracket_not_aligned {byte : UInt8} {t y : Bytes} {value : Value}
    (hbyte : byte = JsonText.openBracket ∨ byte = openBrace) (hvalue : value.WellFormed)
    (hflat : StartsFlat value) : byte :: t ≠ value.text ++ y := by
  intro h
  have hhead := (congrArg List.head? h).symm
  cases value with
  | string text =>
      rcases hbyte with rfl | rfl
      · exact absurd hhead (by simp [Value.text, quote, JsonText.openBracket])
      · exact absurd hhead (by simp [Value.text, quote, openBrace])
  | primitive text =>
      rw [Value.text, List.head?_append_of_ne_nil _ hvalue.ne_nil] at hhead
      rcases hbyte with rfl | rfl
      · exact hflat.1 hhead
      · exact hflat.2 hhead

/-- **A JSON value against a value of the grammar** that starts flat. -/
theorem values_aligned {v : Json} {t x y : Bytes} {value : Value} (ht : Text (.value v) t)
    (hvalue : value.WellFormed) (hflat : StartsFlat value) (hx : StopsAt primitive x)
    (hy : StopsAt primitive y) (h : t ++ x = value.text ++ y) :
    IsJsonValue value ∧ x = y := by
  have hscalar : ∀ {t v}, Text (.value v) t → JsonText.Scalar t → t ++ x = value.text ++ y →
      IsJsonValue value ∧ x = y := by
    intro t v ht hscalar h
    obtain ⟨htext, hxy⟩ := scalar_aligned hscalar hvalue hx hy h
    refine ⟨?_, hxy⟩
    cases value with
    | string text => trivial
    | primitive text =>
        obtain rfl : text = t := htext
        exact ⟨v, ht⟩
  cases ht with
  | null => exact hscalar .null (.inr (.inl rfl)) h
  | true => exact hscalar .true (.inr (.inr (.inl rfl))) h
  | false => exact hscalar .false (.inr (.inr (.inr rfl))) h
  | number hnumber => exact hscalar (.number hnumber) (.inl hnumber) h
  | @string text hchars =>
      cases value with
      | string text' =>
          simp only [Value.text, List.cons_append, List.append_assoc, List.nil_append] at h
          -- both texts are one string, so the closing quotes stand together
          exact ⟨trivial, (strings_aligned hchars hvalue h).2⟩
      | primitive run =>
          -- a primitive run never opens with a quote
          have hhead := (congrArg List.head? h).symm
          rw [Value.text, List.head?_append_of_ne_nil _ hvalue.ne_nil] at hhead
          exact absurd hhead hvalue.start
  | emptyArray => exact absurd h (bracket_not_aligned (.inl rfl) hvalue hflat)
  | array => exact absurd h (bracket_not_aligned (.inl rfl) hvalue hflat)
  | emptyObject => exact absurd h (bracket_not_aligned (.inr rfl) hvalue hflat)
  | object => exact absurd h (bracket_not_aligned (.inr rfl) hvalue hflat)

/-- A JSON value does not start with white space. -/
theorem value_stopsAt_ws {v : Json} {t : Bytes} (ht : Text (.value v) t) (x : Bytes) :
    StopsAt whitespace (t ++ x) := by
  have hscalar : ∀ {t}, JsonText.Scalar t → StopsAt whitespace (t ++ x) := by
    intro t h
    have hrun : Value.WellFormed (.primitive t) := run_of_scalar h
    exact hrun.stopsAt_ws x
  cases ht with
  | null => exact hscalar (.inr (.inl rfl))
  | true => exact hscalar (.inr (.inr (.inl rfl)))
  | false => exact hscalar (.inr (.inr (.inr rfl)))
  | number hnumber => exact hscalar (.inl hnumber)
  | string => exact stopsAt_cons _ (by decide)
  | emptyArray => exact stopsAt_cons _ (by decide)
  | array => exact stopsAt_cons _ (by decide)
  | emptyObject => exact stopsAt_cons _ (by decide)
  | object => exact stopsAt_cons _ (by decide)

/-- **A JSON member against a member of the grammar**: the separators behind them and what
    follows are the same. -/
theorem members_step {p : Bytes × Json} {m : Member} {t t' x y : Bytes} {sep sep' : UInt8}
    (ht : Text (.member p) t) (ht' : MemberText m t') (hflat : StartsFlat m.value)
    (hsep : sep = comma ∨ sep = closeBrace) (hsep' : sep' = comma ∨ sep' = closeBrace)
    (h : t ++ sep :: x = t' ++ sep' :: y) : IsJsonValue m.value ∧ sep = sep' ∧ x = y := by
  cases ht with
  | @member v w name w₁ w₂ tv w₃ hw hname hw₁ hw₂ htv hw₃ =>
  cases ht' with
  | @mk key value u u₁ u₂ u₃ hu hkey hu₁ hu₂ hvalue hu₃ =>
      simp only [List.append_assoc, List.cons_append] at h
      have h₁ := ws_aligned hw hu (stopsAt_cons _ (by decide)) (stopsAt_cons _ (by decide)) h
      obtain ⟨-, h₂⟩ := strings_aligned hname hkey h₁
      have h₃ := ws_aligned hw₁ hu₁ (stopsAt_cons _ (by decide)) (stopsAt_cons _ (by decide)) h₂
      have h₄ := ws_aligned hw₂ hu₂ (value_stopsAt_ws htv _) (hvalue.stopsAt_ws _)
        (List.cons.inj h₃).2
      obtain ⟨hjson, h₅⟩ := values_aligned htv hvalue hflat
        (stopsAt_ws hw₃ (stopsAt_primitive_separator x hsep))
        (stopsAt_ws hu₃ (stopsAt_primitive_separator y hsep')) h₄
      have h₆ := ws_aligned hw₃ hu₃ (stopsAt_ws_separator x hsep) (stopsAt_ws_separator y hsep') h₅
      exact ⟨hjson, List.cons.inj h₆⟩

/-- The members of an object start with a quote. -/
theorem members_start {ps : List (Bytes × Json)} {t : Bytes} (ht : Text (.members ps) t) :
    ∃ w rest, Ws w ∧ t = w ++ quote :: rest := by
  have hmember : ∀ {p t}, Text (.member p) t → ∃ w rest, Ws w ∧ t = w ++ quote :: rest := by
    intro p t h
    cases h with
    | member hw => exact ⟨_, _, hw, rfl⟩
  cases ht with
  | oneMember h => exact hmember h
  | @moreMembers p ps t rest h =>
      obtain ⟨w, rest', hw, rfl⟩ := hmember h
      refine ⟨w, rest' ++ comma :: rest, hw, ?_⟩
      rw [List.append_assoc, List.cons_append]

/-- White space and a closing brace are no members. -/
theorem members_ne_close {ps : List (Bytes × Json)} {t w x y : Bytes}
    (ht : Text (.members ps) t) (hw : Ws w) : t ++ x ≠ w ++ closeBrace :: y := by
  intro h
  obtain ⟨u, rest, hu, rfl⟩ := members_start ht
  rw [List.append_assoc, List.cons_append] at h
  have haligned := ws_aligned hu hw (stopsAt_cons _ (by decide)) (stopsAt_cons _ (by decide)) h
  exact absurd (List.cons.inj haligned).1 (by decide)

/-- **The members of a JSON object against members of the grammar.** -/
theorem members_aligned {ms : List Member} {comma? : Bool} {body w y : Bytes}
    (h : MembersText ms comma? body) (hw : Ws w) :
    (∀ m ∈ ms, StartsFlat m.value) → ∀ {ps t x}, Text (.members ps) t →
      t ++ closeBrace :: x = body ++ (w ++ closeBrace :: y) →
      comma? = false ∧ ∀ m ∈ ms, IsJsonValue m.value := by
  induction h with
  | nil =>
      intro _ ps t x ht heq
      -- no member at all: the document has no room for its first name
      exact absurd heq (members_ne_close ht hw)
  | @last m t' hmember =>
      intro hflat ps t x ht heq
      have hm := hflat m (List.mem_singleton_self m)
      rw [← List.append_assoc] at heq
      cases ht with
      | oneMember hp =>
          obtain ⟨hjson, -, -⟩ :=
            members_step hp (hmember.append_ws hw) hm (.inr rfl) (.inr rfl) heq
          exact ⟨rfl, List.forall_mem_singleton.mpr hjson⟩
      | moreMembers hp _ =>
          rw [List.append_assoc, List.cons_append] at heq
          obtain ⟨-, hsep, -⟩ :=
            members_step hp (hmember.append_ws hw) hm (.inl rfl) (.inr rfl) heq
          -- one text ends its members with the brace where the other still has a comma
          exact absurd hsep (by decide)
  | @trailing m t' hmember =>
      intro hflat ps t x ht heq
      have hm := hflat m (List.mem_singleton_self m)
      rw [List.append_assoc, List.cons_append, List.nil_append] at heq
      cases ht with
      | oneMember hp =>
          obtain ⟨-, hsep, -⟩ := members_step hp hmember hm (.inr rfl) (.inl rfl) heq
          exact absurd hsep (by decide)
      | moreMembers hp hps =>
          rw [List.append_assoc, List.cons_append] at heq
          obtain ⟨-, -, hrest⟩ := members_step hp hmember hm (.inl rfl) (.inl rfl) heq
          -- after the trailing comma the document would need one more member
          exact absurd hrest (members_ne_close hps hw)
  | @cons m m' ms comma? t' body hmember _ ih =>
      intro hflat ps t x ht heq
      obtain ⟨hm, hms⟩ := List.forall_mem_cons.mp hflat
      rw [List.append_assoc, List.cons_append] at heq
      cases ht with
      | oneMember hp =>
          obtain ⟨-, hsep, -⟩ := members_step hp hmember hm (.inr rfl) (.inl rfl) heq
          exact absurd hsep (by decide)
      | moreMembers hp hps =>
          rw [List.append_assoc, List.cons_append] at heq
          obtain ⟨hjson, -, hrest⟩ := members_step hp hmember hm (.inl rfl) (.inl rfl) heq
          obtain ⟨hcomma, hjsons⟩ := ih hms hps hrest
          -- the first members end together, the rest by the induction hypothesis
          exact ⟨hcomma, List.forall_mem_cons.mpr ⟨hjson, hjsons⟩⟩

/-- A text of the grammar none of whose skipped runs starts like an array or an object. -/
def Flat (json : Bytes) : Prop :=
  ∃ ms comma?, ObjectText ms comma? json ∧ ∀ m ∈ ms, StartsFlat m.value

/-- An object of the grammar is empty, or a member starts it. -/
theorem membersText_start {ms : List Member} {comma? : Bool} {body : Bytes}
    (h : MembersText ms comma? body) :
    (ms = [] ∧ comma? = false) ∨ ∃ w rest, Ws w ∧ body = w ++ quote :: rest := by
  have hmember : ∀ {m t}, MemberText m t → ∃ w rest, Ws w ∧ t = w ++ quote :: rest := by
    intro m t h
    cases h with
    | mk hw => exact ⟨_, _, hw, rfl⟩
  cases h with
  | nil => exact .inl ⟨rfl, rfl⟩
  | last h => exact .inr (hmember h)
  | trailing h =>
      obtain ⟨w, rest, hw, rfl⟩ := hmember h
      exact .inr ⟨w, _, hw, List.append_assoc ..⟩
  | cons h _ =>
      obtain ⟨w, rest, hw, rfl⟩ := hmember h
      exact .inr ⟨w, _, hw, List.append_assoc ..⟩

theorem object_aligned {ms : List Member} {comma? : Bool} {json : Bytes}
    {ps : List (Bytes × Json)} (htext : ObjectText ms comma? json)
    (hflat : ∀ m ∈ ms, StartsFlat m.value) (hdocument : Document (.object ps) json) :
    comma? = false ∧ ∀ m ∈ ms, IsJsonValue m.value := by
  obtain ⟨w, body, w₁, w₂, hw, hms, h₁, h₂, rfl⟩ := htext
  obtain ⟨u, t, u', hu, ht, hu', heq⟩ := hdocument
  cases ht with
  | @emptyObject v hv =>
      rw [List.cons_append, List.append_assoc] at heq
      have hopen := ws_aligned hw hu (stopsAt_cons _ (by decide)) (stopsAt_cons _ (by decide)) heq
      have hbody := (List.cons.inj hopen).2
      obtain ⟨rfl, rfl⟩ | ⟨w', rest, hw', rfl⟩ := membersText_start hms
      · exact ⟨rfl, nofun⟩
      · rw [List.append_assoc] at hbody
        have hclose := ws_aligned hw' hv (stopsAt_cons _ (by decide)) (stopsAt_cons _ (by decide))
          hbody
        exact absurd (List.cons.inj hclose).1 (by decide)
  | @object _ t ht =>
      rw [List.cons_append, List.append_assoc] at heq
      have hopen := ws_aligned hw hu (stopsAt_cons _ (by decide)) (stopsAt_cons _ (by decide)) heq
      exact members_aligned hms h₁ hflat ht (List.cons.inj hopen).2.symm

/-- **Flat JSON objects are strict.** -/
theorem strict_of_document {json : Bytes} (hflat : Flat json) {ps : List (Bytes × Json)}
    (h : Document (.object ps) json) : Strict json := by
  obtain ⟨ms, comma?, htext, hms⟩ := hflat
  obtain ⟨rfl, hjson⟩ := object_aligned htext hms h
  exact ⟨ms, htext, hjson⟩

/-! ## Accepted texts -/

/-- **When accepted client data is JSON**: an accepted text without a comma before the closing
    brace, each of whose skipped runs is a JSON value, is the text of a JSON object; and no
    other accepted text is, as long as no skipped run starts like an array or an object. -/
theorem accepted_isJson_iff_strict (json : Slice) (challenge origin : Bytes)
    (h : validateClientData json.val challenge origin = .ok ()) :
    (∃ ms comma?, ObjectText ms comma? json.val ∧ Checked ms challenge origin)
      ∧ (Strict json.val → ∃ ps, Document (.object ps) json.val)
      ∧ (Flat json.val → ((∃ ps, Document (.object ps) json.val) ↔ Strict json.val)) := by
  refine ⟨(validateClientData_eq_ok json.property).mp h, document_of_strict, ?_⟩
  intro hflat
  constructor
  · rintro ⟨ps, hdocument⟩
    exact strict_of_document hflat hdocument
  · exact document_of_strict

/-- Forty-three times `A`: the challenge of the digest of zeros. -/
def zeroChallenge : Bytes := List.replicate 43 0x41

/-- The three members of an assertion, one after the other. -/
def assertionMembers : Bytes :=
  quote :: (keyType ++ (quote :: (colon :: (quote :: (webauthnGet ++ (quote :: (comma
    :: (quote :: (keyChallenge ++ (quote :: (colon :: (quote :: (zeroChallenge ++ (quote :: (comma
    :: (quote :: (keyOrigin ++ [quote, colon, quote, 0x6f, quote])))))))))))))))))

/-- The object of these members. -/
def assertionText : Slice := ⟨openBrace :: (assertionMembers ++ [closeBrace]), by decide⟩

/-- The same with a comma before the closing brace. -/
def trailingCommaText : Slice := ⟨openBrace :: (assertionMembers ++ [comma, closeBrace]), by decide⟩

/-- A member of two strings without white space. -/
theorem memberText_string {key text : Bytes} (hkey : PlainText key) (htext : PlainText text) :
    MemberText ⟨key, .string text⟩
      (quote :: (key ++ (quote :: (colon :: (quote :: (text ++ [quote])))))) := by
  have hmk : MemberText ⟨key, .string text⟩
      ([] ++ (quote :: (key ++ (quote :: ([] ++ (colon :: ([] ++ ((Value.string text).text
        ++ [])))))))) := .mk nofun hkey nofun nofun htext nofun
  simpa only [Value.text, List.nil_append, List.append_nil] using hmk

theorem plainText_of_all {text : Bytes} (h : text.all plain = true) : PlainText text :=
  List.all_eq_true.mp h

/-- How the scanner reads the three members, with and without the comma. -/
theorem assertion_reading :
    ObjectText [⟨keyType, .string webauthnGet⟩, ⟨keyChallenge, .string zeroChallenge⟩,
        ⟨keyOrigin, .string [0x6f]⟩] false assertionText.val
      ∧ ObjectText [⟨keyType, .string webauthnGet⟩, ⟨keyChallenge, .string zeroChallenge⟩,
        ⟨keyOrigin, .string [0x6f]⟩] true trailingCommaText.val := by
  have htype : MemberText ⟨keyType, .string webauthnGet⟩ _ :=
    memberText_string (plainText_of_all (by decide)) (plainText_of_all (by decide))
  have hchallenge : MemberText ⟨keyChallenge, .string zeroChallenge⟩ _ :=
    memberText_string (plainText_of_all (by decide)) (plainText_of_all (by decide))
  have horigin : MemberText ⟨keyOrigin, .string [0x6f]⟩ _ :=
    memberText_string (plainText_of_all (by decide)) (plainText_of_all (by decide))
  exact ⟨⟨[], _, [], [], nofun, .cons htype (.cons hchallenge (.last horigin)), nofun, nofun, rfl⟩,
    ⟨[], _, [], [], nofun, .cons htype (.cons hchallenge (.trailing horigin)), nofun, nofun, rfl⟩⟩

theorem assertion_isJson :
    validateClientData assertionText.val zeroChallenge [0x6f] = .ok ()
      ∧ ∃ ps, Document (.object ps) assertionText.val := by
  have hok : validateClientData assertionText.val zeroChallenge [0x6f] = .ok () := by
    decide +kernel
  have hstrict : Strict assertionText.val := by
    refine ⟨_, assertion_reading.1, ?_⟩
    simp [IsJsonValue]
  exact ⟨hok, (accepted_isJson_iff_strict assertionText zeroChallenge [0x6f] hok).2.1 hstrict⟩

/-- **Accepted client data need not be JSON**: a comma before the closing brace passes. -/
theorem accepted_trailing_comma :
    ¬ ∀ (json : Slice) (challenge origin : Bytes),
      validateClientData json.val challenge origin = .ok () →
      ∃ ps, Document (.object ps) json.val := by
  intro hall
  obtain ⟨ps, hdocument⟩ := hall trailingCommaText zeroChallenge [0x6f] (by decide +kernel)
  have hflat : ∀ m ∈ [Member.mk keyType (.string webauthnGet),
      ⟨keyChallenge, .string zeroChallenge⟩, ⟨keyOrigin, .string [0x6f]⟩],
      StartsFlat m.value := by
    simp [StartsFlat]
  exact absurd (object_aligned assertion_reading.2 hflat hdocument).1 nofun

end CkbClientJson
