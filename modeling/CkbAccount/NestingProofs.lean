import CkbAccount.ClientJsonProofs

/-! # Nested values under the scanner

    `validate_client_data` skips a value up to the next comma, closing brace or white space,
    whatever it is inside of.  On a JSON text with nested values the scanner drifts: it takes
    members of nested objects for members of the client data.  Which ones is said by a byte
    automaton with the scanner's phases.

    * `scans_of_objectText`: an accepted text takes the automaton to its end, past the checked
      members that the scanner read;
    * `reads_of_text`: on the text of a JSON value the automaton passes the members of nested
      objects that are not the first of their object;
    * `accepted_iff_no_late_member`: so client data is read as JSON reads it exactly when no
      nested object has a checked name behind its first member. -/

namespace CkbNesting

open RustOutcome CkbProtocol CkbClientData CkbClientGrammar CkbClientJson
open JsonText (Json Chars Text Document quote backslash colon comma openBrace closeBrace quoted)

/-! ## The phases of the scanner -/

/-- Where the parser is: what it has read of a member, if anything. -/
inductive Phase where
  | start
  | key
  | inKey (acc : Bytes)
  | colon (key : Bytes)
  | value (key : Bytes)
  | inString (key acc : Bytes)
  | inPrimitive
  | after
  | finished
  deriving DecidableEq

/-- What a byte does: a checked key wants a string. -/
inductive Step : Phase → UInt8 → Phase → Prop where
  | startWs {byte : UInt8} : whitespace byte = true → Step .start byte .start
  | startOpen : Step .start openBrace .key
  | keyWs {byte : UInt8} : whitespace byte = true → Step .key byte .key
  | keyQuote : Step .key quote (.inKey [])
  | keyClose : Step .key closeBrace .finished
  | inKeyByte {acc : Bytes} {byte : UInt8} : plain byte = true →
      Step (.inKey acc) byte (.inKey (acc ++ [byte]))
  | inKeyQuote {acc : Bytes} : Step (.inKey acc) quote (.colon acc)
  | colonWs {key : Bytes} {byte : UInt8} : whitespace byte = true →
      Step (.colon key) byte (.colon key)
  | colonColon {key : Bytes} : Step (.colon key) colon (.value key)
  | valueWs {key : Bytes} {byte : UInt8} : whitespace byte = true →
      Step (.value key) byte (.value key)
  | valueQuote {key : Bytes} : Step (.value key) quote (.inString key [])
  | valueByte {key : Bytes} {byte : UInt8} : primitive byte = true → byte ≠ quote →
      ¬ IsChecked key → Step (.value key) byte .inPrimitive
  | inStringByte {key acc : Bytes} {byte : UInt8} : plain byte = true →
      Step (.inString key acc) byte (.inString key (acc ++ [byte]))
  | inStringQuote {key acc : Bytes} : Step (.inString key acc) quote .after
  | inPrimitiveByte {byte : UInt8} : primitive byte = true → Step .inPrimitive byte .inPrimitive
  | inPrimitiveWs {byte : UInt8} : whitespace byte = true → Step .inPrimitive byte .after
  | inPrimitiveComma : Step .inPrimitive comma .key
  | inPrimitiveClose : Step .inPrimitive closeBrace .finished
  | afterWs {byte : UInt8} : whitespace byte = true → Step .after byte .after
  | afterComma : Step .after comma .key
  | afterClose : Step .after closeBrace .finished
  | finishedWs {byte : UInt8} : whitespace byte = true → Step .finished byte .finished

/-- The checked member that a closing quote completes. -/
def note : Phase → UInt8 → List (Bytes × Json)
  | .inString key acc, byte => if byte = quote ∧ IsChecked key then [(key, .string acc)] else []
  | _, _ => []

/-- A text takes the automaton from one phase to another, past some checked members. -/
inductive Scans : Phase → Bytes → Phase → List (Bytes × Json) → Prop where
  | nil {p : Phase} : Scans p [] p []
  | cons {p p' q : Phase} {byte : UInt8} {text : Bytes} {seen : List (Bytes × Json)} :
      Step p byte p' → Scans p' text q seen →
      Scans p (byte :: text) q (note p byte ++ seen)

/-- A scan of one more byte. -/
theorem scans_cons {p q : Phase} {byte : UInt8} {text : Bytes} {seen : List (Bytes × Json)} :
    Scans p (byte :: text) q seen
      ↔ ∃ p' seen', Step p byte p' ∧ Scans p' text q seen'
        ∧ seen = note p byte ++ seen' := by
  constructor
  · intro h
    cases h with
    | cons hstep hrest => exact ⟨_, _, hstep, hrest, rfl⟩
  · rintro ⟨p', seen', hstep, hrest, rfl⟩
    exact .cons hstep hrest

/-- **Scans compose.** -/
theorem scans_append {a b : Bytes} : ∀ {p q : Phase} {seen : List (Bytes × Json)},
    Scans p (a ++ b) q seen
      ↔ ∃ r s₁ s₂, Scans p a r s₁ ∧ Scans r b q s₂ ∧ seen = s₁ ++ s₂ := by
  induction a with
  | nil =>
      intro p q seen
      constructor
      · intro h
        exact ⟨p, [], seen, .nil, h, rfl⟩
      · rintro ⟨r, s₁, s₂, h₁, h₂, rfl⟩
        cases h₁
        exact h₂
  | cons byte a ih =>
      intro p q seen
      rw [List.cons_append, scans_cons]
      constructor
      · rintro ⟨p', seen', hstep, hrest, rfl⟩
        obtain ⟨r, s₁, s₂, h₁, h₂, rfl⟩ := ih.mp hrest
        exact ⟨r, _, s₂, .cons hstep h₁, h₂, (List.append_assoc ..).symm⟩
      · rintro ⟨r, s₁, s₂, h₁, h₂, rfl⟩
        obtain ⟨p', seen', hstep, hrest, rfl⟩ := scans_cons.mp h₁
        exact ⟨p', _, hstep, ih.mpr ⟨r, seen', s₂, hrest, h₂, rfl⟩, List.append_assoc ..⟩

/-- **What every byte of a text preserves, the text preserves.** -/
theorem scans_keep {P : Phase → Prop} {Q : UInt8 → Prop}
    (hkeep : ∀ p byte p', P p → Q byte → Step p byte p' → P p' ∧ note p byte = [])
    {p q : Phase} {text : Bytes} {seen : List (Bytes × Json)} (h : Scans p text q seen) :
    P p → (∀ byte ∈ text, Q byte) → P q ∧ seen = [] := by
  induction h with
  | nil => exact fun hp _ => ⟨hp, rfl⟩
  | @cons p p' q byte text seen hstep _ ih =>
      intro hp hall
      obtain ⟨hbyte, htext⟩ := List.forall_mem_cons.mp hall
      obtain ⟨hp', hnote⟩ := hkeep p byte p' hp hbyte hstep
      obtain ⟨hq, rfl⟩ := ih hp' htext
      exact ⟨hq, by rw [hnote, List.append_nil]⟩

/-! ## Members of nested objects -/

mutual

/-- The members of objects inside a value, but for the first member of each object. -/
def late : Json → List (Bytes × Json)
  | .array items => lateItems items
  | .object [] => []
  | .object ((_, v) :: ms) => late v ++ lateTail ms
  | _ => []

/-- `late` over the items of an array. -/
def lateItems : List Json → List (Bytes × Json)
  | [] => []
  | v :: vs => late v ++ lateItems vs

/-- The members behind the first, with what is late inside them. -/
def lateTail : List (Bytes × Json) → List (Bytes × Json)
  | [] => []
  | (name, v) :: ms => (name, v) :: (late v ++ lateTail ms)

end

theorem late_object_cons (m : Bytes × Json) (ms : List (Bytes × Json)) :
    late (.object (m :: ms)) = late m.2 ++ lateTail ms := by
  rw [late.eq_def]

theorem lateTail_cons (m : Bytes × Json) (ms : List (Bytes × Json)) :
    lateTail (m :: ms) = m :: (late m.2 ++ lateTail ms) := by
  rw [lateTail.eq_def]

/-! ## Phases in which no checked member is being read -/

/-- A text that starts like no checked key. -/
def Foreign (text : Bytes) : Prop :=
  ∃ byte rest, text = byte :: rest ∧ byte ≠ 0x74 ∧ byte ≠ 0x63 ∧ byte ≠ 0x6f

/-- No checked name is foreign. -/
theorem Foreign.not_checked {text : Bytes} (h : Foreign text) : ¬ IsChecked text := by
  obtain ⟨byte, rest, rfl, ht, hc, ho⟩ := h
  rintro (hkey | hkey | hkey)
  · exact ht (List.cons.inj hkey).1
  · exact hc (List.cons.inj hkey).1
  · exact ho (List.cons.inj hkey).1

/-- What starts foreign stays foreign. -/
theorem Foreign.append {text : Bytes} (h : Foreign text) (more : Bytes) :
    Foreign (text ++ more) := by
  obtain ⟨byte, rest, rfl, hbyte⟩ := h
  exact ⟨byte, rest ++ more, rfl, hbyte⟩

theorem foreign_singleton {byte : UInt8} (h : byte ≠ 0x74 ∧ byte ≠ 0x63 ∧ byte ≠ 0x6f) :
    Foreign [byte] :=
  ⟨byte, [], rfl, h⟩

/-- No checked member is being read, and none can start but at a quote in phase `key`. -/
def Blind : Phase → Prop
  | .start => False
  | .inKey acc => Foreign acc
  | .colon key => ¬ IsChecked key
  | .value key => ¬ IsChecked key
  | .inString key _ => ¬ IsChecked key
  | _ => True

/-- **A blind phase stays blind**, but at a quote in phase `key`. -/
theorem step_blind {p p' : Phase} {byte : UInt8} (h : Step p byte p') (hp : Blind p)
    (hquote : byte ≠ quote ∨ p ≠ .key) : Blind p' ∧ note p byte = [] := by
  cases h with
  | startWs => exact absurd hp id
  | startOpen => exact absurd hp id
  | keyWs => exact ⟨trivial, rfl⟩
  | keyQuote => exact absurd hquote (by simp)
  | keyClose => exact ⟨trivial, rfl⟩
  | inKeyByte => exact ⟨hp.append _, rfl⟩
  | inKeyQuote => exact ⟨hp.not_checked, rfl⟩
  | colonWs => exact ⟨hp, rfl⟩
  | colonColon => exact ⟨hp, rfl⟩
  | valueWs => exact ⟨hp, rfl⟩
  | valueQuote => exact ⟨hp, rfl⟩
  | valueByte => exact ⟨trivial, rfl⟩
  | inStringByte => exact ⟨hp, if_neg fun hand => hp hand.2⟩
  | inStringQuote => exact ⟨trivial, if_neg fun hand => hp hand.2⟩
  | inPrimitiveByte => exact ⟨trivial, rfl⟩
  | inPrimitiveWs => exact ⟨trivial, rfl⟩
  | inPrimitiveComma => exact ⟨trivial, rfl⟩
  | inPrimitiveClose => exact ⟨trivial, rfl⟩
  | afterWs => exact ⟨trivial, rfl⟩
  | afterComma => exact ⟨trivial, rfl⟩
  | afterClose => exact ⟨trivial, rfl⟩
  | finishedWs => exact ⟨trivial, rfl⟩

/-- Phase `key` comes from a comma, or from phase `key` by white space. -/
theorem step_ne_key {p p' : Phase} {byte : UInt8} (h : Step p byte p') (hp : Blind p)
    (hcomma : byte ≠ comma) (hkey : p ≠ .key ∨ whitespace byte = false) : p' ≠ .key := by
  rintro rfl
  cases h with
  | startOpen => exact hp
  | keyWs hws =>
      rcases hkey with hkey | hkey
      · exact hkey rfl
      · rw [hws] at hkey
        exact absurd hkey nofun
  | inPrimitiveComma => exact hcomma rfl
  | afterComma => exact hcomma rfl

/-- Behind a value: blind, or in a key that a quote has just opened, or behind a key. -/
def Quiet (p : Phase) : Prop := Blind p ∨ p = .inKey [] ∨ ∃ key, p = .colon key

/-- Before a name that a comma precedes: at a key, or inside a text that the scanner takes
    for a string. -/
inductive Open : Phase → Prop where
  | key : Open .key
  | inKey {acc : Bytes} : Foreign acc → Open (.inKey acc)
  | inString {key acc : Bytes} : ¬ IsChecked key → Open (.inString key acc)

theorem Open.blind {p : Phase} (h : Open p) : Blind p := by
  cases h with
  | key => trivial
  | inKey h => exact h
  | inString h => exact h

theorem foreign_of_whitespace {byte : UInt8} (h : whitespace byte = true) : Foreign [byte] := by
  refine foreign_singleton ?_
  rcases of_decide_eq_true h with rfl | rfl | rfl | rfl <;> decide

theorem ne_quote_of_whitespace {byte : UInt8} (h : whitespace byte = true) : byte ≠ quote := by
  rintro rfl
  exact absurd h (by decide)

theorem ne_comma_of_whitespace {byte : UInt8} (h : whitespace byte = true) : byte ≠ comma := by
  rintro rfl
  exact absurd h (by decide)

/-- The bytes that may follow a value and the white space behind it. -/
def IsStop (byte : UInt8) : Prop :=
  byte = comma ∨ byte = closeBrace ∨ byte = JsonText.closeBracket

theorem foreign_of_isStop {byte : UInt8} (h : IsStop byte) : Foreign [byte] := by
  refine foreign_singleton ?_
  rcases h with rfl | rfl | rfl <;> decide

theorem ne_quote_of_isStop {byte : UInt8} (h : IsStop byte) : byte ≠ quote := by
  rcases h with rfl | rfl | rfl <;> decide

/-- Behind a value only white space keeps a key that was read. -/
theorem step_quiet {p p' : Phase} {byte : UInt8} (h : Step p byte p') (hp : Quiet p)
    (hbyte : whitespace byte = true ∨ IsStop byte) :
    Quiet p' ∧ note p byte = [] ∧ (IsStop byte → Blind p') := by
  have hquote : byte ≠ quote := hbyte.elim ne_quote_of_whitespace ne_quote_of_isStop
  have hforeign : Foreign [byte] := hbyte.elim foreign_of_whitespace foreign_of_isStop
  rcases hp with hp | rfl | ⟨key, rfl⟩
  · obtain ⟨hp', hnote⟩ := step_blind h hp (.inl hquote)
    exact ⟨.inl hp', hnote, fun _ => hp'⟩
  · cases h with
    | inKeyByte => exact ⟨.inl hforeign, rfl, fun _ => hforeign⟩
    | inKeyQuote => exact absurd rfl hquote
  · cases h with
    | colonWs hws =>
        refine ⟨.inr (.inr ⟨key, rfl⟩), rfl, ?_⟩
        rintro (rfl | rfl | rfl) <;> exact absurd hws (by decide)
    | colonColon =>
        rcases hbyte with hws | hstop | hstop | hstop
        · exact absurd hws (by decide)
        · exact absurd hstop (by decide)
        · exact absurd hstop (by decide)
        · exact absurd hstop (by decide)

/-- **Behind a value, a comma** opens the next name. -/
theorem step_comma {p p' : Phase} {byte : UInt8} (h : Step p byte p') (hp : Quiet p)
    (hbyte : byte = comma) : Open p' := by
  have hforeign : Foreign [byte] := foreign_of_isStop (.inl hbyte)
  have hws : whitespace byte ≠ true := by rw [hbyte]; decide
  have hprimitive : primitive byte ≠ true := by rw [hbyte]; decide
  cases h with
  | inPrimitiveComma | afterComma => exact .key
  | inKeyByte =>
      rcases hp with hp | hp | ⟨key, hp⟩
      · exact .inKey (Foreign.append hp _)
      · cases hp
        exact .inKey hforeign
      · exact absurd hp nofun
  | inStringByte =>
      rcases hp with hp | hp | ⟨key, hp⟩
      · exact .inString hp
      · exact absurd hp nofun
      · exact absurd hp nofun
  | startWs h | keyWs h | colonWs h | valueWs h | inPrimitiveWs h | afterWs h | finishedWs h =>
      exact absurd h hws
  | valueByte h | inPrimitiveByte h => exact absurd h hprimitive
  | startOpen | keyQuote | keyClose | inKeyQuote | colonColon | valueQuote | inStringQuote
  | inPrimitiveClose | afterClose => exact absurd hbyte (by decide)

/-- White space keeps a name waiting. -/
theorem step_open_ws {p p' : Phase} {byte : UInt8} (h : Step p byte p') (hp : Open p)
    (hws : whitespace byte = true) : Open p' ∧ note p byte = [] := by
  have hquote : byte ≠ quote := ne_quote_of_whitespace hws
  refine ⟨?_, (step_blind h hp.blind (.inl hquote)).2⟩
  cases hp with
  | key =>
      cases h with
      | keyWs => exact .key
      | keyQuote => exact absurd rfl hquote
      | keyClose => exact absurd hws (by decide)
  | inKey hacc =>
      cases h with
      | inKeyByte => exact .inKey (hacc.append _)
      | inKeyQuote => exact absurd rfl hquote
  | inString hkey =>
      cases h with
      | inStringByte => exact .inString hkey
      | inStringQuote => exact absurd rfl hquote

/-! ## Runs of white space, names and strings -/

section Runs

variable {p q : Phase} {seen : List (Bytes × Json)}

/-- Whitespace shows the blind nothing. -/
theorem scans_ws_blind {w : Bytes} (h : Scans p w q seen) (hw : Ws w)
    (hp : Blind p ∧ p ≠ .key) : (Blind q ∧ q ≠ .key) ∧ seen = [] := by
  refine scans_keep (P := fun p => Blind p ∧ p ≠ .key) ?_ h hp hw
  intro p byte p' hp hws hstep
  obtain ⟨hp', hnote⟩ := step_blind hstep hp.1 (.inr hp.2)
  exact ⟨⟨hp', step_ne_key hstep hp.1 (ne_comma_of_whitespace hws) (.inl hp.2)⟩, hnote⟩

/-- Whitespace notes nothing. -/
theorem scans_ws_quiet {w : Bytes} (h : Scans p w q seen) (hw : Ws w) (hp : Quiet p) :
    Quiet q ∧ seen = [] := by
  refine scans_keep (P := Quiet) ?_ h hp hw
  intro p byte p' hp hws hstep
  obtain ⟨hp', hnote, -⟩ := step_quiet hstep hp (.inl hws)
  exact ⟨hp', hnote⟩

/-- Whitespace keeps an open phase open. -/
theorem scans_ws_open {w : Bytes} (h : Scans p w q seen) (hw : Ws w) (hp : Open p) :
    Open q ∧ seen = [] :=
  scans_keep (P := Open) (fun _ _ _ hp hws hstep => step_open_ws hstep hp hws) h hp hw

/-- Bytes other than quotes keep a phase blind. -/
theorem scans_blind {text : Bytes} (h : Scans p text q seen) (htext : ∀ byte ∈ text, byte ≠ quote)
    (hp : Blind p) : Blind q ∧ seen = [] :=
  scans_keep (P := Blind) (fun _ _ _ hp hne hstep => step_blind hstep hp (.inl hne)) h hp htext

/-- A backslash can only be skipped. -/
theorem step_backslash {p' : Phase} {byte : UInt8} (h : Step p byte p') (hbyte : byte = backslash) :
    p' = .inPrimitive ∧ note p byte = [] := by
  have hws : whitespace byte ≠ true := by rw [hbyte]; decide
  have hplain : plain byte ≠ true := by rw [hbyte]; decide
  cases h with
  | valueByte | inPrimitiveByte => exact ⟨rfl, rfl⟩
  | startWs h | keyWs h | colonWs h | valueWs h | inPrimitiveWs h | afterWs h | finishedWs h =>
      exact absurd h hws
  | inKeyByte h | inStringByte h => exact absurd h hplain
  | startOpen | keyQuote | keyClose | inKeyQuote | colonColon | valueQuote | inStringQuote
  | inPrimitiveComma | inPrimitiveClose | afterComma | afterClose =>
      exact absurd hbyte (by decide)

theorem ne_quote_of_isHexDigit {byte : UInt8} (h : JsonText.isHexDigit byte = true) :
    byte ≠ quote := by
  rintro rfl
  exact absurd h (by decide)

/-- The text of a string, escapes included, keeps a phase blind. -/
theorem scans_chars {text : Bytes} (htext : Chars text) :
    ∀ {p seen}, Scans p text q seen → Blind p → Blind q ∧ seen = [] := by
  induction htext with
  | nil =>
      intro p seen h hp
      cases h
      exact ⟨hp, rfl⟩
  | unescaped hquote _ _ _ ih =>
      intro p seen h hp
      obtain ⟨p₁, seen₁, hstep, hrest, rfl⟩ := scans_cons.mp h
      obtain ⟨hp₁, hnote⟩ := step_blind hstep hp (.inl hquote)
      obtain ⟨hq, rfl⟩ := ih hrest hp₁
      exact ⟨hq, by rw [hnote, List.append_nil]⟩
  | escape _ _ ih =>
      intro p seen h hp
      obtain ⟨p₁, seen₁, hstep, hrest, rfl⟩ := scans_cons.mp h
      -- an escape takes the next byte with it, whatever it is
      obtain ⟨rfl, hnote⟩ := step_backslash hstep rfl
      obtain ⟨p₂, seen₂, hstep₂, hrest₂, rfl⟩ := scans_cons.mp hrest
      obtain ⟨hp₂, hnote₂⟩ := step_blind hstep₂ trivial (.inr nofun)
      obtain ⟨hq, rfl⟩ := ih hrest₂ hp₂
      exact ⟨hq, by rw [hnote, List.append_nil]⟩
  | @unicode a b c d text ha hb hc hd _ ih =>
      intro p seen h hp
      obtain ⟨p₁, seen₁, hstep, hrest, rfl⟩ := scans_cons.mp h
      obtain ⟨rfl, hnote⟩ := step_backslash hstep rfl
      obtain ⟨r, s₁, s₂, hhead, htail, rfl⟩ := scans_append (a := [0x75, a, b, c, d]).mp hrest
      -- the four hex digits hide no quote
      obtain ⟨hr, rfl⟩ := scans_blind hhead (by
        intro byte hb'
        simp only [List.mem_cons, List.not_mem_nil, or_false] at hb'
        rcases hb' with rfl | rfl | rfl | rfl | rfl
        · decide
        · exact ne_quote_of_isHexDigit ha
        · exact ne_quote_of_isHexDigit hb
        · exact ne_quote_of_isHexDigit hc
        · exact ne_quote_of_isHexDigit hd) trivial
      obtain ⟨hq, rfl⟩ := ih htail hr
      exact ⟨hq, by rw [hnote, List.append_nil, List.append_nil]⟩

/-- Phases that collect the bytes of a string. -/
def Collects (f : Bytes → Phase) : Prop :=
  ∀ {acc byte p'}, Step (f acc) byte p' → byte ≠ quote →
    byte ≠ backslash ∧ p' = f (acc ++ [byte]) ∧ note (f acc) byte = []

theorem ne_backslash_of_plain {byte : UInt8} (h : plain byte = true) : byte ≠ backslash := by
  rintro rfl
  exact absurd h (by decide)

/-- A name is collected byte by byte. -/
theorem collects_inKey : Collects .inKey := by
  intro acc byte p' h hquote
  cases h with
  | inKeyByte hplain => exact ⟨ne_backslash_of_plain hplain, rfl, rfl⟩
  | inKeyQuote => exact absurd rfl hquote

/-- So is a string. -/
theorem collects_inString (key : Bytes) : Collects (.inString key) := by
  intro acc byte p' h hquote
  cases h with
  | inStringByte hplain =>
      exact ⟨ne_backslash_of_plain hplain, rfl, if_neg fun hand => hquote hand.1⟩
  | inStringQuote => exact absurd rfl hquote

/-- **What is collected is the text between the quotes**, without escapes. -/
theorem scans_collects {f : Bytes → Phase} (hf : Collects f) {text : Bytes} (htext : Chars text) :
    ∀ {acc seen}, Scans (f acc) text q seen →
      q = f (acc ++ text) ∧ seen = [] ∧ backslash ∉ text := by
  induction htext with
  | nil =>
      intro acc seen h
      cases h
      exact ⟨by rw [List.append_nil], rfl, List.not_mem_nil⟩
  | @unescaped byte text hquote _ _ _ ih =>
      intro acc seen h
      obtain ⟨p₁, seen₁, hstep, hrest, rfl⟩ := scans_cons.mp h
      obtain ⟨hbackslash, rfl, hnote⟩ := hf hstep hquote
      obtain ⟨rfl, rfl, hnot⟩ := ih hrest
      refine ⟨?_, by rw [hnote, List.append_nil], ?_⟩
      · rw [List.append_assoc, List.singleton_append]
      · rw [List.mem_cons, not_or]
        exact ⟨Ne.symm hbackslash, hnot⟩
  | escape =>
      intro acc seen h
      obtain ⟨p₁, seen₁, hstep, -, -⟩ := scans_cons.mp h
      exact absurd rfl (hf hstep (by decide)).1
  | unicode =>
      intro acc seen h
      obtain ⟨p₁, seen₁, hstep, -, -⟩ := scans_cons.mp h
      exact absurd rfl (hf hstep (by decide)).1

end Runs

/-! ## The text of a JSON value -/

/-- The members with a checked name. -/
def kept (ms : List (Bytes × Json)) : List (Bytes × Json) :=
  ms.filter (fun m => IsChecked m.1)

theorem kept_append (a b : List (Bytes × Json)) : kept (a ++ b) = kept a ++ kept b :=
  List.filter_append ..

/-- A member of another name is not kept. -/
theorem kept_cons_of_not {m : Bytes × Json} (h : ¬ IsChecked m.1) (ms : List (Bytes × Json)) :
    kept (m :: ms) = kept ms :=
  List.filter_cons_of_neg (by simpa using h)

/-- What the automaton passes on the text of a part of a JSON value. -/
def Reads (text : Bytes) : JsonText.Part → Prop
  | .value v => ∀ p q seen, Scans p text q seen →
      (Blind p → Quiet q ∧ seen = kept (late v))
        ∧ ∀ key, p = .value key → Quiet q ∧ seen = kept ((key, v) :: late v)
  | .items vs => ∀ p q seen, Scans p text q seen → Blind p →
      Quiet q ∧ seen = kept (lateItems vs)
  | .member m => ∀ p q seen, Scans p text q seen →
      (Blind p ∧ p ≠ .key → Quiet q ∧ seen = kept (late m.2))
        ∧ (Open p → Quiet q ∧ seen = kept (m :: late m.2))
  | .members ms => ∀ p q seen, Scans p text q seen →
      (Blind p ∧ p ≠ .key → Quiet q ∧ seen = kept (late (.object ms)))
        ∧ (Open p → Quiet q ∧ seen = kept (lateTail ms))

/-- What does not start like a string is no value of a checked key. -/
theorem reads_of_blind {v : Json} {byte : UInt8} {text : Bytes} (hws : whitespace byte = false)
    (hquote : byte ≠ quote)
    (h : ∀ p q seen, Scans p (byte :: text) q seen → Blind p →
      Quiet q ∧ seen = kept (late v)) :
    Reads (byte :: text) (.value v) := by
  intro p q seen hscan
  refine ⟨h p q seen hscan, ?_⟩
  rintro key rfl
  have hkey : ¬ IsChecked key := by
    obtain ⟨p₁, seen₁, hstep, -, -⟩ := scans_cons.mp hscan
    cases hstep with
    | valueWs h =>
        rw [h] at hws
        exact absurd hws nofun
    | valueQuote => exact absurd rfl hquote
    | valueByte _ _ hkey => exact hkey
  rw [kept_cons_of_not hkey]
  exact h _ q seen hscan hkey

/-- A scalar shows no member. -/
theorem reads_scalar {v : Json} {t : Bytes} (hlate : late v = []) (ht : JsonText.Scalar t) :
    Reads t (.value v) := by
  have hbyte : ∀ byte ∈ t, whitespace byte = false ∧ byte ≠ quote := by
    intro byte hb
    obtain ⟨hprimitive, hquote⟩ := primitive_of_isScalarByte (ht.isScalarByte byte hb)
    exact ⟨whitespace_of_primitive hprimitive, hquote⟩
  cases t with
  | nil => exact absurd rfl ht.ne_nil
  | cons byte t =>
      obtain ⟨hws, hquote⟩ := hbyte byte (List.mem_cons_self ..)
      refine reads_of_blind hws hquote ?_
      intro p q seen hscan hp
      obtain ⟨hq, rfl⟩ := scans_blind hscan (fun b hb => (hbyte b hb).2) hp
      rw [hlate]
      exact ⟨.inl hq, rfl⟩

/-- A quote opens a name. -/
theorem step_key_quote {p' : Phase} (h : Step .key quote p') : p' = .inKey [] := by
  generalize hbyte : quote = byte at h
  cases h with
  | keyWs hws =>
      rw [← hbyte] at hws
      exact absurd hws (by decide)
  | keyQuote => rfl
  | keyClose => exact absurd hbyte (by decide)

/-- A quote closes it. -/
theorem step_inKey_quote {acc : Bytes} {p' : Phase} (h : Step (.inKey acc) quote p') :
    p' = .colon acc := by
  generalize hbyte : quote = byte at h
  cases h with
  | inKeyByte hplain =>
      rw [← hbyte] at hplain
      exact absurd hplain (by decide)
  | inKeyQuote => rfl

/-- A quote opens a string. -/
theorem step_value_quote {key : Bytes} {p' : Phase} (h : Step (.value key) quote p') :
    p' = .inString key [] := by
  generalize hbyte : quote = byte at h
  cases h with
  | valueWs hws =>
      rw [← hbyte] at hws
      exact absurd hws (by decide)
  | valueQuote => rfl
  | valueByte _ hquote => exact absurd hbyte.symm hquote

/-- A quote closes it. -/
theorem step_inString_quote {key acc : Bytes} {p' : Phase}
    (h : Step (.inString key acc) quote p') : p' = .after := by
  generalize hbyte : quote = byte at h
  cases h with
  | inStringByte hplain =>
      rw [← hbyte] at hplain
      exact absurd hplain (by decide)
  | inStringQuote => rfl

/-- A quote behind a text that was read blind. -/
theorem step_quote {p p' : Phase} (h : Step p quote p') (hp : Blind p) :
    (Blind p' ∨ p' = .inKey []) ∧ note p quote = [] := by
  by_cases hkey : p = .key
  · subst hkey
    exact ⟨.inr (step_key_quote h), rfl⟩
  · obtain ⟨hp', hnote⟩ := step_blind h hp (.inr hkey)
    exact ⟨.inl hp', hnote⟩

/-- **Strings**: read blind; or taken for a key, if they follow a comma in an array; or the
    value of a key. -/
theorem reads_string {t : Bytes} (ht : Chars t) :
    Reads (quote :: (t ++ [quote])) (.value (.string (JsonText.decode t))) := by
  intro p q seen hscan
  obtain ⟨p₁, seen₁, hopen, hrest, rfl⟩ := scans_cons.mp hscan
  obtain ⟨p₂, s₁, s₂, htext, hlast, rfl⟩ := scans_append.mp hrest
  obtain ⟨p₃, s₃, hclose, hnil, rfl⟩ := scans_cons.mp hlast
  cases hnil
  constructor
  · intro hp
    by_cases hkey : p = .key
    · subst hkey
      obtain rfl := step_key_quote hopen
      obtain ⟨rfl, rfl, -⟩ := scans_collects collects_inKey ht htext
      obtain rfl := step_inKey_quote hclose
      exact ⟨.inr (.inr ⟨_, rfl⟩), rfl⟩
    · obtain ⟨hp₁, hnote⟩ := step_blind hopen hp (.inr hkey)
      obtain ⟨hp₂, rfl⟩ := scans_chars ht htext hp₁
      obtain ⟨hq, hnote₂⟩ := step_quote hclose hp₂
      rw [hnote, hnote₂]
      exact ⟨hq.imp_right .inl, rfl⟩
  · rintro key rfl
    obtain rfl := step_value_quote hopen
    obtain ⟨rfl, rfl, hescape⟩ := scans_collects (collects_inString key) ht htext
    obtain rfl := step_inString_quote hclose
    rw [JsonText.decode_of_unescaped hescape]
    refine ⟨.inl trivial, ?_⟩
    by_cases hkey : IsChecked key
    · simp [note, kept, late, hkey]
    · simp [note, kept, late, hkey]

/-- **Arrays and objects**: what stands between the brackets is read blind. -/
theorem reads_brackets {v : Json} {first last : UInt8} {t : Bytes}
    (hfirst : first = JsonText.openBracket ∨ first = openBrace) (hlast : IsStop last)
    (h : ∀ p q seen, Scans p t q seen → Blind p ∧ p ≠ .key →
      Quiet q ∧ seen = kept (late v)) :
    Reads (first :: (t ++ [last])) (.value v) := by
  have hws : whitespace first = false := by rcases hfirst with rfl | rfl <;> decide
  have hquote : first ≠ quote := by rcases hfirst with rfl | rfl <;> decide
  have hcomma : first ≠ comma := by rcases hfirst with rfl | rfl <;> decide
  refine reads_of_blind hws hquote ?_
  intro p q seen hscan hp
  obtain ⟨p₁, seen₁, hopen, hrest, rfl⟩ := scans_cons.mp hscan
  obtain ⟨p₂, s₁, s₂, htext, hend, rfl⟩ := scans_append.mp hrest
  obtain ⟨p₃, s₃, hclose, hnil, rfl⟩ := scans_cons.mp hend
  cases hnil
  obtain ⟨hp₁, hnote⟩ := step_blind hopen hp (.inl hquote)
  obtain ⟨hp₂, rfl⟩ := h p₁ p₂ s₁ htext ⟨hp₁, step_ne_key hopen hp hcomma (.inr hws)⟩
  obtain ⟨hq, hnote₂, -⟩ := step_quiet hclose hp₂ (.inr hlast)
  exact ⟨hq, by rw [hnote, hnote₂, List.append_nil, List.append_nil]; rfl⟩

/-! ## Members -/

section Members

variable {p q : Phase} {seen : List (Bytes × Json)} {v : Json} {name w₁ w₂ t w₃ : Bytes}

/-- The colon of a member that is read blind. -/
theorem step_colon {p' : Phase} (h : Step p colon p') (hp : Blind p ∨ p = .inKey []) :
    (Blind p' ∧ p' ≠ .key) ∧ note p colon = [] := by
  rcases hp with hp | rfl
  · obtain ⟨hp', hnote⟩ := step_blind h hp (.inl (by decide))
    exact ⟨⟨hp', step_ne_key h hp (by decide) (.inr (by decide))⟩, hnote⟩
  · generalize hbyte : colon = byte at h
    cases h with
    | inKeyByte =>
        have hforeign : Foreign [byte] := foreign_singleton (by rw [← hbyte]; decide)
        exact ⟨⟨hforeign, nofun⟩, rfl⟩
    | inKeyQuote => exact absurd hbyte (by decide)

/-- White space behind a name that was read blind. -/
theorem scans_ws_name {w : Bytes} (h : Scans p w q seen) (hw : Ws w)
    (hp : Blind p ∨ p = .inKey []) : (Blind q ∨ q = .inKey []) ∧ seen = [] := by
  refine scans_keep (P := fun p => Blind p ∨ p = .inKey []) ?_ h hp hw
  intro p byte p' hp hws hstep
  rcases hp with hp | rfl
  · obtain ⟨hp', hnote⟩ := step_blind hstep hp (.inl (ne_quote_of_whitespace hws))
    exact ⟨.inl hp', hnote⟩
  · cases hstep with
    | inKeyByte => exact ⟨.inl (foreign_of_whitespace hws), rfl⟩
    | inKeyQuote => exact absurd hws (by decide)

/-- **A member whose name is read blind** is not noticed, its value is read. -/
theorem reads_blindName (hname : Chars name) (h₁ : Ws w₁) (h₂ : Ws w₂)
    (ht : Reads t (.value v)) (h₃ : Ws w₃)
    (hscan : Scans p (name ++ (quote :: (w₁ ++ (colon :: (w₂ ++ (t ++ w₃)))))) q seen)
    (hp : Blind p) : Quiet q ∧ seen = kept (late v) := by
  obtain ⟨p₁, s₁, r₁, hscan₁, hrest₁, rfl⟩ := scans_append.mp hscan
  obtain ⟨p₂, r₂, hquote, hrest₂, rfl⟩ := scans_cons.mp hrest₁
  obtain ⟨p₃, s₃, r₃, hscan₃, hrest₃, rfl⟩ := scans_append.mp hrest₂
  obtain ⟨p₄, r₄, hcolon, hrest₄, rfl⟩ := scans_cons.mp hrest₃
  obtain ⟨p₅, s₅, r₅, hscan₅, hrest₅, rfl⟩ := scans_append.mp hrest₄
  obtain ⟨p₆, s₆, r₆, hscan₆, hscan₇, rfl⟩ := scans_append.mp hrest₅
  obtain ⟨hp₁, rfl⟩ := scans_chars hname hscan₁ hp
  obtain ⟨hp₂, hnote₂⟩ := step_quote hquote hp₁
  obtain ⟨hp₃, rfl⟩ := scans_ws_name hscan₃ h₁ hp₂
  obtain ⟨hp₄, hnote₄⟩ := step_colon hcolon hp₃
  obtain ⟨hp₅, rfl⟩ := scans_ws_blind hscan₅ h₂ hp₄
  obtain ⟨hp₆, rfl⟩ := (ht p₅ p₆ s₆ hscan₆).1 hp₅.1
  obtain ⟨hq, rfl⟩ := scans_ws_quiet hscan₇ h₃ hp₆
  exact ⟨hq, by rw [hnote₂, hnote₄, List.append_nil]; rfl⟩

theorem scans_ws_colon {key w : Bytes} (h : Scans (.colon key) w q seen) (hw : Ws w) :
    q = .colon key ∧ seen = [] := by
  refine scans_keep (P := fun p => p = .colon key) ?_ h rfl hw
  rintro p byte p' rfl hws hstep
  cases hstep with
  | colonWs => exact ⟨rfl, rfl⟩
  | colonColon => exact absurd hws (by decide)

theorem scans_ws_value {key w : Bytes} (h : Scans (.value key) w q seen) (hw : Ws w) :
    q = .value key ∧ seen = [] := by
  refine scans_keep (P := fun p => p = .value key) ?_ h rfl hw
  rintro p byte p' rfl hws hstep
  cases hstep with
  | valueWs => exact ⟨rfl, rfl⟩
  | valueQuote => exact absurd hws (by decide)
  | valueByte hprimitive =>
      rw [whitespace_of_primitive hprimitive] at hws
      exact absurd hws nofun

/-- The colon leads to the value. -/
theorem step_colon_colon {key : Bytes} {p' : Phase} (h : Step (.colon key) colon p') :
    p' = .value key := by
  generalize hbyte : colon = byte at h
  cases h with
  | colonWs hws =>
      rw [← hbyte] at hws
      exact absurd hws (by decide)
  | colonColon => rfl

/-- **A member whose name is read as a key.** -/
theorem reads_key (hname : Chars name) (h₁ : Ws w₁) (h₂ : Ws w₂)
    (ht : Reads t (.value v)) (h₃ : Ws w₃)
    (hscan : Scans (.inKey []) (name ++ (quote :: (w₁ ++ (colon :: (w₂ ++ (t ++ w₃)))))) q seen) :
    Quiet q ∧ seen = kept ((JsonText.decode name, v) :: late v) := by
  obtain ⟨p₁, s₁, r₁, hscan₁, hrest₁, rfl⟩ := scans_append.mp hscan
  obtain ⟨p₂, r₂, hquote, hrest₂, rfl⟩ := scans_cons.mp hrest₁
  obtain ⟨p₃, s₃, r₃, hscan₃, hrest₃, rfl⟩ := scans_append.mp hrest₂
  obtain ⟨p₄, r₄, hcolon, hrest₄, rfl⟩ := scans_cons.mp hrest₃
  obtain ⟨p₅, s₅, r₅, hscan₅, hrest₅, rfl⟩ := scans_append.mp hrest₄
  obtain ⟨p₆, s₆, r₆, hscan₆, hscan₇, rfl⟩ := scans_append.mp hrest₅
  obtain ⟨rfl, rfl, hescape⟩ := scans_collects collects_inKey hname hscan₁
  obtain rfl := step_inKey_quote hquote
  obtain ⟨rfl, rfl⟩ := scans_ws_colon hscan₃ h₁
  obtain rfl := step_colon_colon hcolon
  obtain ⟨rfl, rfl⟩ := scans_ws_value hscan₅ h₂
  obtain ⟨hp₆, rfl⟩ := (ht _ p₆ s₆ hscan₆).2 _ rfl
  obtain ⟨hq, rfl⟩ := scans_ws_quiet hscan₇ h₃ hp₆
  rw [JsonText.decode_of_unescaped hescape]
  exact ⟨hq, by simp [note]⟩

/-- A name that starts behind a string the scanner has just closed starts like no checked
    key. -/
theorem foreign_of_closed {r : Phase} {text : Bytes} (hname : Chars name)
    (hscan : Scans r (name ++ quote :: text) q seen)
    (hr : (∃ key, r = .colon key) ∨ r = .after) : Foreign (JsonText.decode name) := by
  -- outside a string neither a quote nor a backslash can stand here
  have hstep : ∀ {byte p'}, Step r byte p' →
      byte ≠ quote ∧ byte ≠ backslash ∧ Foreign [byte] := by
    intro byte p' h
    rcases hr with ⟨key, rfl⟩ | rfl
    · cases h with
      | colonWs hws =>
          refine ⟨ne_quote_of_whitespace hws, ?_, foreign_of_whitespace hws⟩
          rintro rfl
          exact absurd hws (by decide)
      | colonColon => exact ⟨by decide, by decide, foreign_singleton (by decide)⟩
    · cases h with
      | afterWs hws =>
          refine ⟨ne_quote_of_whitespace hws, ?_, foreign_of_whitespace hws⟩
          rintro rfl
          exact absurd hws (by decide)
      | afterComma => exact ⟨by decide, by decide, foreign_singleton (by decide)⟩
      | afterClose => exact ⟨by decide, by decide, foreign_singleton (by decide)⟩
  cases hname with
  | nil =>
      obtain ⟨p₁, r₁, h, -, -⟩ := scans_cons.mp hscan
      exact absurd rfl (hstep h).1
  | @unescaped byte name =>
      obtain ⟨p₁, r₁, h, -, -⟩ := scans_cons.mp hscan
      obtain ⟨-, hbackslash, hforeign⟩ := hstep h
      rw [JsonText.decode_cons name hbackslash]
      exact hforeign.append _
  | escape =>
      obtain ⟨p₁, r₁, h, -, -⟩ := scans_cons.mp hscan
      exact absurd rfl (hstep h).2.1
  | unicode =>
      obtain ⟨p₁, r₁, h, -, -⟩ := scans_cons.mp hscan
      exact absurd rfl (hstep h).2.1

/-- **Members**: the first of a nested object is read blind, one behind a comma is read as a
    key or its name is none of the checked ones. -/
theorem reads_member {w : Bytes} (hw : Ws w) (hname : Chars name) (h₁ : Ws w₁) (h₂ : Ws w₂)
    (ht : Reads t (.value v)) (h₃ : Ws w₃) :
    Reads (w ++ (quote :: (name ++ (quote :: (w₁ ++ (colon :: (w₂ ++ (t ++ w₃))))))))
      (.member (JsonText.decode name, v)) := by
  intro p q seen hscan
  obtain ⟨p₀, s₀, r₀, hscan₀, hrest₀, rfl⟩ := scans_append.mp hscan
  obtain ⟨p₁, r₁, hquote, hrest, rfl⟩ := scans_cons.mp hrest₀
  constructor
  · rintro hp
    obtain ⟨hp₀, rfl⟩ := scans_ws_blind hscan₀ hw hp
    obtain ⟨hp₁, hnote⟩ := step_blind hquote hp₀.1 (.inr hp₀.2)
    obtain ⟨hq, rfl⟩ := reads_blindName hname h₁ h₂ ht h₃ hrest hp₁
    exact ⟨hq, by rw [hnote]; rfl⟩
  · intro hp
    obtain ⟨hp₀, rfl⟩ := scans_ws_open hscan₀ hw hp
    -- a quote at a key starts the name; elsewhere it ends what the scanner took for a string
    have hclosed : (∃ key, p₁ = .colon key) ∨ p₁ = .after → p₀ ≠ .key →
        Quiet q ∧ [] ++ (note p₀ quote ++ r₁) = kept ((JsonText.decode name, v) :: late v) := by
      intro hr hkey
      obtain ⟨hp₁, hnote⟩ := step_blind hquote hp₀.blind (.inr hkey)
      obtain ⟨hq, rfl⟩ := reads_blindName hname h₁ h₂ ht h₃ hrest hp₁
      rw [kept_cons_of_not (foreign_of_closed hname hrest hr).not_checked, hnote]
      exact ⟨hq, rfl⟩
    cases hp₀ with
    | key =>
        obtain rfl := step_key_quote hquote
        exact reads_key hname h₁ h₂ ht h₃ hrest
    | inKey => exact hclosed (.inl ⟨_, step_inKey_quote hquote⟩) nofun
    | inString => exact hclosed (.inr (step_inString_quote hquote)) nofun

end Members

/-- An item of an array, with the white space around it. -/
theorem reads_item {v : Json} {w t w' : Bytes} (hw : Ws w) (ht : Reads t (.value v))
    (hw' : Ws w') {p q : Phase} {seen : List (Bytes × Json)}
    (hscan : Scans p (w ++ (t ++ w')) q seen) (hp : Blind p) :
    Quiet q ∧ seen = kept (late v) := by
  obtain ⟨p₁, s₁, r₁, hscan₁, hrest, rfl⟩ := scans_append.mp hscan
  obtain ⟨p₂, s₂, s₃, hscan₂, hscan₃, rfl⟩ := scans_append.mp hrest
  obtain ⟨hp₁, rfl⟩ := scans_blind hscan₁ (fun b hb => ne_quote_of_whitespace (hw b hb)) hp
  obtain ⟨hp₂, rfl⟩ := (ht p₁ p₂ s₂ hscan₂).1 hp₁
  obtain ⟨hq, rfl⟩ := scans_ws_quiet hscan₃ hw' hp₂
  exact ⟨hq, by rw [List.append_nil]; rfl⟩

/-- **The text of a JSON value under the automaton.** -/
theorem reads_of_text {part : JsonText.Part} {text : Bytes} (h : Text part text) :
    Reads text part := by
  induction h with
  | null => exact reads_scalar rfl (.inr (.inl rfl))
  | true => exact reads_scalar rfl (.inr (.inr (.inl rfl)))
  | false => exact reads_scalar rfl (.inr (.inr (.inr rfl)))
  | number hnumber => exact reads_scalar rfl (.inl hnumber)
  | string hchars => exact reads_string hchars
  | emptyArray hw =>
      refine reads_brackets (.inl rfl) (.inr (.inr rfl)) ?_
      intro p q seen hscan hp
      obtain ⟨hq, rfl⟩ := scans_ws_blind hscan hw hp
      exact ⟨.inl hq.1, rfl⟩
  | array _ ih =>
      exact reads_brackets (.inl rfl) (.inr (.inr rfl)) fun p q seen hscan hp =>
        ih p q seen hscan hp.1
  | emptyObject hw =>
      refine reads_brackets (.inr rfl) (.inr (.inl rfl)) ?_
      intro p q seen hscan hp
      obtain ⟨hq, rfl⟩ := scans_ws_blind hscan hw hp
      exact ⟨.inl hq.1, rfl⟩
  | object _ ih =>
      exact reads_brackets (.inr rfl) (.inr (.inl rfl)) fun p q seen hscan hp =>
        (ih p q seen hscan).1 hp
  | oneItem hw _ hw' ih =>
      intro p q seen hscan hp
      rw [lateItems, lateItems, List.append_nil]
      exact reads_item hw ih hw' hscan hp
  | @moreItems v vs w t w' rest hw _ hw' _ ih ihs =>
      intro p q seen hscan hp
      -- the comma is read in a quiet state and leaves one behind
      have hsplit : w ++ (t ++ (w' ++ comma :: rest)) = (w ++ (t ++ w')) ++ comma :: rest := by
        simp only [List.append_assoc]
      obtain ⟨p₁, s₁, r₁, hscan₁, hrest, rfl⟩ := scans_append.mp (hsplit ▸ hscan)
      obtain ⟨p₂, s₂, hcomma, hscan₂, rfl⟩ := scans_cons.mp hrest
      obtain ⟨hp₁, rfl⟩ := reads_item hw ih hw' hscan₁ hp
      obtain ⟨-, hnote, hp₂⟩ := step_quiet hcomma hp₁ (.inr (.inl rfl))
      obtain ⟨hq, rfl⟩ := ihs p₂ q s₂ hscan₂ (hp₂ (.inl rfl))
      rw [lateItems, kept_append, hnote]
      exact ⟨hq, rfl⟩
  | member hw hname h₁ h₂ _ h₃ ih => exact reads_member hw hname h₁ h₂ ih h₃
  | @oneMember m t _ ih =>
      intro p q seen hscan
      obtain ⟨hblind, hopen⟩ := ih p q seen hscan
      rw [late_object_cons, lateTail_cons, lateTail, List.append_nil]
      exact ⟨hblind, hopen⟩
  | @moreMembers m ms t rest _ _ ih ihs =>
      intro p q seen hscan
      obtain ⟨p₁, s₁, r₁, hscan₁, hrest, rfl⟩ := scans_append.mp hscan
      obtain ⟨p₂, s₂, hcomma, hscan₂, rfl⟩ := scans_cons.mp hrest
      obtain ⟨hblind, hopen⟩ := ih p p₁ s₁ hscan₁
      -- behind the comma the scanner is where a further member starts
      have htail : Quiet p₁ → Quiet q ∧ note p₁ JsonText.comma ++ s₂ = kept (lateTail ms) := by
        intro hp₁
        obtain ⟨-, hnote, -⟩ := step_quiet hcomma hp₁ (.inr (.inl rfl))
        obtain ⟨hq, rfl⟩ := (ihs p₂ q s₂ hscan₂).2 (step_comma hcomma hp₁ rfl)
        exact ⟨hq, by rw [hnote]; rfl⟩
      rw [late_object_cons, lateTail_cons]
      constructor
      · intro hp
        obtain ⟨hp₁, rfl⟩ := hblind hp
        obtain ⟨hq, hs₂⟩ := htail hp₁
        rw [kept_append, ← hs₂]
        exact ⟨hq, rfl⟩
      · intro hp
        obtain ⟨hp₁, rfl⟩ := hopen hp
        obtain ⟨hq, hs₂⟩ := htail hp₁
        rw [← List.cons_append, kept_append, ← hs₂]
        exact ⟨hq, rfl⟩

/-! ## The text of a document -/

/-- Before the opening brace there is white space only. -/
theorem scans_start {byte : UInt8} {text : Bytes} {q : Phase} {seen : List (Bytes × Json)}
    (h : Scans .start (byte :: text) q seen) (hws : whitespace byte = false) :
    byte = openBrace ∧ Scans .key text q seen := by
  obtain ⟨p', seen', hstep, hrest, rfl⟩ := scans_cons.mp h
  cases hstep with
  | startWs h =>
      rw [h] at hws
      exact absurd hws nofun
  | startOpen => exact ⟨rfl, hrest⟩

/-- The rest of an object that is read from its opening brace on. -/
theorem scans_braces {t w : Bytes} {q : Phase} {seen ms : List (Bytes × Json)} (hw : Ws w)
    (ht : ∀ q seen, Scans .key t q seen → Quiet q ∧ seen = kept ms)
    (hscan : Scans .key (t ++ [closeBrace] ++ w) q seen) : seen = kept ms := by
  rw [List.append_assoc] at hscan
  obtain ⟨p₁, s₁, r₁, hscan₁, hrest, rfl⟩ := scans_append.mp hscan
  obtain ⟨p₂, s₂, hclose, hscan₂, rfl⟩ := scans_cons.mp hrest
  obtain ⟨hp₁, rfl⟩ := ht p₁ s₁ hscan₁
  obtain ⟨hp₂, hnote, -⟩ := step_quiet hclose hp₁ (.inr (.inr (.inl rfl)))
  obtain ⟨-, rfl⟩ := scans_ws_quiet hscan₂ hw hp₂
  rw [hnote, List.append_nil, List.append_nil]

/-- **A document under the automaton**: it is an object, and the members passed are its own
    and the late ones inside them. -/
theorem scans_document {v : Json} {json : Bytes} {q : Phase} {seen : List (Bytes × Json)}
    (hdocument : Document v json) (h : Scans .start json q seen) :
    ∃ ms, v = .object ms ∧ seen = kept (lateTail ms) := by
  obtain ⟨w, t, w', hw, ht, hw', rfl⟩ := hdocument
  obtain ⟨p₁, s₁, s₂, hscan₁, hscan, rfl⟩ := scans_append.mp h
  obtain ⟨rfl, rfl⟩ := scans_keep (P := fun p => p = .start) (by
    rintro p byte p' rfl hws hstep
    cases hstep with
    | startWs => exact ⟨rfl, rfl⟩
    | startOpen => exact absurd hws (by decide)) hscan₁ rfl hw
  -- a scalar document has no opening brace, so the scan cannot leave the start
  have hscalar : JsonText.Scalar t → ∃ ms, v = .object ms ∧ [] ++ s₂ = kept (lateTail ms) := by
    intro hscalar
    cases t with
    | nil => exact absurd rfl hscalar.ne_nil
    | cons byte t =>
        have hbyte := hscalar.isScalarByte byte (List.mem_cons_self ..)
        have hws := whitespace_of_primitive (primitive_of_isScalarByte hbyte).1
        obtain ⟨rfl, -⟩ := scans_start hscan hws
        exact absurd hbyte (by decide)
  cases ht with
  | null => exact hscalar (.inr (.inl rfl))
  | true => exact hscalar (.inr (.inr (.inl rfl)))
  | false => exact hscalar (.inr (.inr (.inr rfl)))
  | number hnumber => exact hscalar (.inl hnumber)
  | string => exact absurd (scans_start hscan (by decide)).1 (by decide)
  | emptyArray => exact absurd (scans_start hscan (by decide)).1 (by decide)
  | array => exact absurd (scans_start hscan (by decide)).1 (by decide)
  | emptyObject hw₁ =>
      refine ⟨[], rfl, scans_braces hw' ?_ (scans_start hscan (by decide)).2⟩
      intro q seen hscan
      obtain ⟨hq, rfl⟩ := scans_ws_open hscan hw₁ .key
      exact ⟨.inl hq.blind, rfl⟩
  | @object ms _ hms =>
      refine ⟨ms, rfl, scans_braces hw' ?_ (scans_start hscan (by decide)).2⟩
      intro q seen hscan
      -- the members are read from the key phase on
      exact (reads_of_text hms _ q seen hscan).2 .key

/-! ## Accepted texts under the automaton -/

/-- What a member of the grammar adds to the members passed. -/
def noted (m : Member) : List (Bytes × Json) :=
  match m.value with
  | .string text => if IsChecked m.key then [(m.key, .string text)] else []
  | .primitive _ => []

/-- Behind a member: `after`, or still in a primitive. -/
def Ended (p : Phase) : Prop := p = .after ∨ p = .inPrimitive

/-- A run of bytes that keep a phase. -/
theorem scans_of_run {P : UInt8 → Prop} {p : Phase} {text : Bytes}
    (hstep : ∀ byte, P byte → Step p byte p ∧ note p byte = []) (h : ∀ byte ∈ text, P byte) :
    Scans p text p [] := by
  induction text with
  | nil => exact .nil
  | cons byte text ih =>
      obtain ⟨hbyte, htext⟩ := List.forall_mem_cons.mp h
      obtain ⟨hstep', hnote⟩ := hstep byte hbyte
      have hcons := Scans.cons hstep' (ih htext)
      rwa [hnote, List.append_nil] at hcons

theorem scans_ws {p : Phase} {w : Bytes} (hw : Ws w)
    (hstep : ∀ byte, whitespace byte = true → Step p byte p) (hnote : ∀ byte, note p byte = []) :
    Scans p w p [] :=
  scans_of_run (fun byte hws => ⟨hstep byte hws, hnote byte⟩) hw

theorem Scans.append {p r q : Phase} {a b : Bytes} {s₁ s₂ : List (Bytes × Json)}
    (h₁ : Scans p a r s₁) (h₂ : Scans r b q s₂) : Scans p (a ++ b) q (s₁ ++ s₂) :=
  scans_append.mpr ⟨r, s₁, s₂, h₁, h₂, rfl⟩

/-- The bytes of a string are collected. -/
theorem scans_of_collected {f : Bytes → Phase} {text : Bytes}
    (hf : ∀ acc byte, plain byte = true →
      Step (f acc) byte (f (acc ++ [byte])) ∧ note (f acc) byte = []) (h : PlainText text) :
    ∀ acc, Scans (f acc) text (f (acc ++ text)) [] := by
  induction text with
  | nil =>
      intro acc
      rw [List.append_nil]
      exact .nil
  | cons byte text ih =>
      intro acc
      obtain ⟨hbyte, htext⟩ := List.forall_mem_cons.mp h
      obtain ⟨hstep, hnote⟩ := hf acc byte hbyte
      have hcons := Scans.cons hstep (ih htext (acc ++ [byte]))
      rwa [hnote, List.append_nil, List.append_assoc, List.singleton_append] at hcons

/-- The value of a member, from the phase behind its colon. -/
theorem scans_of_value {m : Member} (hvalue : m.value.WellFormed)
    (hchecked : IsChecked m.key → ∃ text, m.value = .string text) :
    ∃ p, Ended p ∧ Scans (.value m.key) m.value.text p (noted m) := by
  obtain ⟨key, value⟩ := m
  cases value with
  | string text =>
      refine ⟨.after, .inl rfl, ?_⟩
      -- inside the string each plain byte joins the collected text
      have hcollected := scans_of_collected (f := .inString key) (fun acc byte hplain =>
        ⟨.inStringByte hplain, if_neg fun hand => by
          rw [hand.1] at hplain
          exact absurd hplain (by decide)⟩) hvalue []
      have hend : Scans (.inString key ([] ++ text)) [quote] .after
          (noted ⟨key, .string text⟩) := by
        have hstep : Scans (.inString key ([] ++ text)) [quote] .after _ :=
          .cons .inStringQuote .nil
        simpa [note, noted] using hstep
      exact .cons .valueQuote (hcollected.append hend)
  | primitive text =>
      -- a checked member holds a string, so this key is free
      have hkey : ¬ IsChecked key := by
        intro hkey
        obtain ⟨text', htext⟩ := hchecked hkey
        exact absurd htext nofun
      cases htext : text with
      | nil => exact absurd htext hvalue.ne_nil
      | cons byte rest =>
          subst htext
          obtain ⟨hbyte, hrest⟩ := List.forall_mem_cons.mp hvalue.bytes
          have hquote : byte ≠ quote := fun h => hvalue.start (congrArg some h)
          have hrun : Scans .inPrimitive rest .inPrimitive [] :=
            scans_of_run (fun _ h => ⟨.inPrimitiveByte h, rfl⟩) hrest
          exact ⟨.inPrimitive, .inr rfl, .cons (.valueByte hbyte hquote hkey) hrun⟩

/-- Whitespace after a value changes nothing. -/
theorem Ended.ws {p : Phase} {w : Bytes} (hp : Ended p) (hw : Ws w) :
    ∃ p', Ended p' ∧ Scans p w p' [] := by
  cases w with
  | nil => exact ⟨p, hp, .nil⟩
  | cons byte w =>
      obtain ⟨hbyte, hrest⟩ := List.forall_mem_cons.mp hw
      have hafter : Scans .after w .after [] := scans_ws hrest (fun _ h => .afterWs h) fun _ => rfl
      refine ⟨.after, .inl rfl, ?_⟩
      rcases hp with rfl | rfl
      · exact .cons (.afterWs hbyte) hafter
      · exact .cons (.inPrimitiveWs hbyte) hafter

/-- A member of the grammar, from phase `key`. -/
theorem scans_of_member {m : Member} {t : Bytes} (h : MemberText m t)
    (hchecked : IsChecked m.key → ∃ text, m.value = .string text) :
    ∃ p, Ended p ∧ Scans .key t p (noted m) := by
  cases h with
  | @mk key value w₁ w₂ w₃ w₄ h₁ hkey h₂ h₃ hvalue h₄ =>
      obtain ⟨p, hp, hscan⟩ := scans_of_value (m := ⟨key, value⟩) hvalue hchecked
      obtain ⟨p', hp', hws⟩ := hp.ws h₄
      have hname := scans_of_collected (f := .inKey)
        (fun acc byte hplain => ⟨.inKeyByte hplain, rfl⟩) hkey []
      have htail := hscan.append hws
      rw [List.append_nil] at htail
      have hvalue' := (scans_ws h₃ (fun _ h => .valueWs h) fun _ => rfl).append htail
      have hcolon : Scans (.colon key) _ p' _ :=
        (scans_ws h₂ (fun _ h => .colonWs h) fun _ => rfl).append (.cons .colonColon hvalue')
      have hquoted := hname.append (.cons .inKeyQuote hcolon)
      have hmember := (scans_ws h₁ (fun _ h => .keyWs h) fun _ => rfl).append
        (.cons .keyQuote hquoted)
      exact ⟨p', hp', hmember⟩

/-- The members of the grammar, from phase `key`. -/
theorem scans_of_members {ms : List Member} {comma? : Bool} {body : Bytes}
    (h : MembersText ms comma? body) :
    (∀ m ∈ ms, IsChecked m.key → ∃ text, m.value = .string text) →
      ∃ p, (p = .key ∨ Ended p) ∧ Scans .key body p (ms.flatMap noted) := by
  -- after a value the comma brings the scanner back to a key
  have hcomma : ∀ {p}, Ended p → Step p comma .key ∧ note p comma = [] := by
    rintro p (rfl | rfl)
    · exact ⟨.afterComma, rfl⟩
    · exact ⟨.inPrimitiveComma, rfl⟩
  induction h with
  | nil => exact fun _ => ⟨.key, .inl rfl, .nil⟩
  | @last m t hmember =>
      intro hchecked
      obtain ⟨p, hp, hscan⟩ := scans_of_member hmember (hchecked m (List.mem_singleton_self m))
      rw [List.flatMap_singleton]
      exact ⟨p, .inr hp, hscan⟩
  | @trailing m t hmember =>
      intro hchecked
      obtain ⟨p, hp, hscan⟩ := scans_of_member hmember (hchecked m (List.mem_singleton_self m))
      have hall := hscan.append (.cons (hcomma hp).1 .nil)
      rw [(hcomma hp).2, List.append_nil, List.append_nil] at hall
      rw [List.flatMap_singleton]
      exact ⟨.key, .inl rfl, hall⟩
  | @cons m m' ms comma? t body hmember _ ih =>
      intro hchecked
      obtain ⟨hm, hms⟩ := List.forall_mem_cons.mp hchecked
      obtain ⟨p, hp, hscan⟩ := scans_of_member hmember hm
      obtain ⟨q, hq, hrest⟩ := ih hms
      have hall := hscan.append (.cons (hcomma hp).1 hrest)
      rw [(hcomma hp).2, List.nil_append] at hall
      rw [List.flatMap_cons]
      exact ⟨q, hq, hall⟩

/-- **An accepted text takes the automaton to its end.** -/
theorem scans_of_objectText {ms : List Member} {comma? : Bool} {json : Bytes}
    (h : ObjectText ms comma? json)
    (hchecked : ∀ m ∈ ms, IsChecked m.key → ∃ text, m.value = .string text) :
    Scans .start json .finished (ms.flatMap noted) := by
  obtain ⟨w, body, w₁, w₂, hw, hms, h₁, h₂, rfl⟩ := h
  obtain ⟨p, hp, hbody⟩ := scans_of_members hms hchecked
  have hclose : ∃ p', Scans p w₁ p' [] ∧ Step p' closeBrace .finished
      ∧ note p' closeBrace = [] := by
    rcases hp with rfl | hp
    · exact ⟨.key, scans_ws h₁ (fun _ h => .keyWs h) fun _ => rfl, .keyClose, rfl⟩
    · obtain ⟨p', hp', hws⟩ := hp.ws h₁
      rcases hp' with rfl | rfl
      · exact ⟨_, hws, .afterClose, rfl⟩
      · exact ⟨_, hws, .inPrimitiveClose, rfl⟩
  obtain ⟨p', hws, hstep, hnote⟩ := hclose
  have hend : Scans .finished w₂ .finished [] := scans_ws h₂ (fun _ h => .finishedWs h) fun _ => rfl
  have htail := hbody.append (hws.append (.cons hstep hend))
  rw [hnote, List.append_nil, List.append_nil, List.append_nil] at htail
  exact (scans_ws hw (fun _ h => .startWs h) fun _ => rfl).append (.cons .startOpen htail)

/-! ## Counting members -/

/-- A checked member has a string. -/
theorem mem_checked {ms : List Member} {challenge origin : Bytes}
    (h : Checked ms challenge origin) {m : Member} (hm : m ∈ ms) (hkey : IsChecked m.key) :
    ∃ text, m.value = .string text := by
  have honce : ∀ {key value}, OccursOnce ms key value → m.key = key →
      ∃ text, m.value = .string text := by
    intro key value honce hkey
    have hmem : m ∈ ms.filter (fun m => m.key = key) :=
      List.mem_filter.mpr ⟨hm, decide_eq_true hkey⟩
    rw [honce, List.mem_singleton] at hmem
    rw [hmem]
    exact ⟨value, rfl⟩
  rcases hkey with hkey | hkey | hkey
  · exact honce h.type hkey
  · exact honce h.challenge hkey
  · exact honce h.origin hkey

/-- The members of one name among those that were passed. -/
theorem filter_noted (ms : List Member) (key : Bytes) :
    (ms.flatMap noted).filter (fun m => m.1 = key)
      = (ms.filter (fun m => m.key = key)).flatMap noted := by
  have hone : ∀ m : Member, (noted m).filter (fun p => p.1 = key)
      = if m.key = key then noted m else [] := by
    rintro ⟨k, value⟩
    cases value with
    | primitive text => simp [noted]
    | string text =>
        by_cases hchecked : IsChecked k
        · by_cases hkey : k = key
          · simp [noted, hkey]
          · simp [noted, hchecked, hkey]
        · simp [noted, hchecked]
  induction ms with
  | nil => rfl
  | cons m ms ih =>
      rw [List.flatMap_cons, List.filter_append, hone, ih, List.filter_cons]
      by_cases hkey : m.key = key
      · rw [if_pos hkey, if_pos (decide_eq_true hkey), List.flatMap_cons]
      · rw [if_neg hkey, if_neg (by simpa using hkey), List.nil_append]

/-- A member that occurs once is noted once. -/
theorem filter_noted_once {ms : List Member} {key value : Bytes} (hkey : IsChecked key)
    (h : OccursOnce ms key value) :
    (ms.flatMap noted).filter (fun m => m.1 = key) = [(key, .string value)] := by
  rw [filter_noted, h, List.flatMap_singleton]
  exact if_pos hkey

theorem filter_kept {key : Bytes} (hkey : IsChecked key) (ms : List (Bytes × Json)) :
    (kept ms).filter (fun m => m.1 = key) = ms.filter (fun m => m.1 = key) := by
  rw [kept, List.filter_filter]
  refine List.filter_congr ?_
  intro m _
  by_cases hm : m.1 = key
  · simp [hm, hkey]
  · simp [hm]

/-- The members, but for the first of each object, of the objects nested in a value. -/
def nestedLate : Json → List (Bytes × Json)
  | .object ms => ms.flatMap (fun m => late m.2)
  | v => late v

/-- What is read late is all members of the object, and those nested in it. -/
theorem lateTail_perm (ms : List (Bytes × Json)) :
    (lateTail ms).Perm (ms ++ nestedLate (.object ms)) := by
  induction ms with
  | nil =>
      rw [lateTail]
      exact .refl _
  | cons m ms ih =>
      rw [lateTail_cons, List.cons_append]
      refine .cons m ?_
      have hmove : (late m.2 ++ (ms ++ nestedLate (.object ms))).Perm
          (ms ++ (late m.2 ++ nestedLate (.object ms))) := by
        rw [← List.append_assoc, ← List.append_assoc]
        exact List.perm_append_comm.append_right _
      exact (ih.append_left _).trans hmove

/-- One name: the object has its member alone exactly when no late member has it. -/
theorem onlyMember_iff {ms : List (Bytes × Json)} {key value : Bytes}
    (h : (lateTail ms).filter (fun m => m.1 = key) = [(key, .string value)]) :
    OnlyMember ms key value ↔ ∀ m ∈ nestedLate (.object ms), m.1 ≠ key := by
  have hperm := (lateTail_perm ms).filter (fun m => m.1 = key)
  rw [h, List.filter_append] at hperm
  have hnil : (nestedLate (.object ms)).filter (fun m => m.1 = key) = []
      ↔ ∀ m ∈ nestedLate (.object ms), m.1 ≠ key := by
    rw [List.filter_eq_nil_iff]
    exact forall₂_congr fun m _ => by rw [decide_eq_true_iff]
  rw [← hnil, OnlyMember]
  constructor
  · intro honly
    have hlength := hperm.length_eq
    rw [honly, List.length_append, List.length_singleton] at hlength
    exact List.length_eq_zero_iff.mp (by omega)
  · intro hnone
    rw [hnone, List.append_nil] at hperm
    exact List.perm_singleton.mp hperm.symm

/-- **When client data is read as JSON reads it**: an accepted JSON text is an object with the
    three members, once each and with the expected strings, exactly when no object nested in
    it has one of the three names behind its first member. -/
theorem accepted_iff_no_late_member (json : Slice) (v : Json) (challenge origin : Bytes)
    (hdocument : Document v json.val)
    (h : validateClientData json.val challenge origin = .ok ()) :
    (∃ ms, v = .object ms ∧ Asserts ms challenge origin)
      ↔ ∀ m ∈ nestedLate v, ¬ IsChecked m.1 := by
  obtain ⟨ms, comma?, htext, hchecked⟩ := (validateClientData_eq_ok json.property).mp h
  have hscan := scans_of_objectText htext fun m hm => mem_checked hchecked hm
  obtain ⟨ps, rfl, hseen⟩ := scans_document hdocument hscan
  have honce : ∀ {key value}, IsChecked key → OccursOnce ms key value →
      (OnlyMember ps key value ↔ ∀ m ∈ nestedLate (.object ps), m.1 ≠ key) := by
    intro key value hkey honce
    refine onlyMember_iff ?_
    rw [← filter_kept hkey, ← hseen]
    exact filter_noted_once hkey honce
  have htype := honce (.inl rfl) hchecked.type
  have hchallenge := honce (.inr (.inl rfl)) hchecked.challenge
  have horigin := honce (.inr (.inr rfl)) hchecked.origin
  constructor
  · rintro ⟨ps', heq, hasserts⟩ m hm
    cases heq
    rintro (hkey | hkey | hkey)
    · exact htype.mp hasserts.type m hm hkey
    · exact hchallenge.mp hasserts.challenge m hm hkey
    · exact horigin.mp hasserts.origin m hm hkey
  · intro hnone
    exact ⟨ps, rfl, htype.mpr fun m hm hkey => hnone m hm (.inl hkey),
      hchallenge.mpr fun m hm hkey => hnone m hm (.inr (.inl hkey)),
      horigin.mpr fun m hm hkey => hnone m hm (.inr (.inr hkey))⟩

/-! ## A text on which the scanner drifts

    `{"x":{"y":1,"type":"webauthn.get","challenge":"...","origin":"o","z":["a ,"]},":1":2}` -/

/-- The three members of the assertion stand behind the first member of a nested object. -/
def driftNested : List (Bytes × Json) :=
  [([0x79], .number [0x31]), (keyType, .string webauthnGet), (keyChallenge, .string zeroChallenge),
    (keyOrigin, .string [0x6f]), ([0x7a], .array [.string [0x61, 0x20, 0x2c]])]

/-- The members of the drifting document. -/
def driftMembers : List (Bytes × Json) :=
  [([0x78], .object driftNested), ([0x3a, 0x31], .number [0x32])]

/-- A document whose nested members are read as members of its own. -/
def driftText : Slice :=
  ⟨openBrace :: (quoted [0x78] ++ colon :: openBrace :: (quoted [0x79] ++ colon :: 0x31 :: comma
    :: (assertionMembers ++ comma :: (quoted [0x7a] ++ colon :: JsonText.openBracket
    :: (quoted [0x61, 0x20, 0x2c] ++ JsonText.closeBracket :: closeBrace :: comma
    :: (quoted [0x3a, 0x31] ++ [colon, 0x32, closeBrace])))))),
    by decide +kernel⟩

/-- A string without escapes. -/
theorem text_string {t : Bytes} (h : t.all plain = true) :
    Text (.value (.string t)) (quoted t) := by
  have hplain := plainText_of_all h
  have hescape : backslash ∉ t := fun hmem => ne_backslash_of_plain (hplain _ hmem) rfl
  have htext := Text.string (chars_of_plainText hplain)
  rwa [JsonText.decode_of_unescaped hescape] at htext

/-- A member without white space. -/
theorem text_member {name t : Bytes} {v : Json} (hname : name.all plain = true)
    (ht : Text (.value v) t) : Text (.member (name, v)) (quoted name ++ colon :: t) := by
  have hplain := plainText_of_all hname
  have hescape : backslash ∉ name := fun hmem => ne_backslash_of_plain (hplain _ hmem) rfl
  have hmember : Text (.member (JsonText.decode name, v))
      ([] ++ (quote :: (name ++ (quote :: ([] ++ (colon :: ([] ++ (t ++ [])))))))) :=
    .member nofun (chars_of_plainText hplain) nofun nofun ht nofun
  rw [JsonText.decode_of_unescaped hescape, List.append_nil] at hmember
  simp only [quoted, List.cons_append, List.append_assoc]
  exact hmember

theorem text_digit {digit : UInt8} (h : JsonText.isDigit digit = true) (hzero : digit ≠ 0x30) :
    Text (.value (.number [digit])) [digit] := by
  have hint : JsonText.IntText [digit] := by
    refine .inr ⟨⟨List.cons_ne_nil _ _, List.forall_mem_singleton.mpr h⟩, ?_⟩
    intro hhead
    exact hzero (Option.some.inj hhead)
  exact .number ⟨[], [digit], [], [], rfl, .inl rfl, hint, .inl rfl, .inl rfl⟩

/-- The text is a document. -/
theorem drift_document : Document (.object driftMembers) driftText.val := by
  have hitem : Text (.items [.string [0x61, 0x20, 0x2c]])
      ([] ++ (quoted [0x61, 0x20, 0x2c] ++ [])) :=
    .oneItem nofun (text_string (by decide)) nofun
  have hz : Text (.value (.array [.string [0x61, 0x20, 0x2c]])) _ := .array hitem
  have hnested : Text (.members driftNested) _ :=
    .moreMembers (text_member (by decide) (text_digit (by decide) (by decide)))
      (.moreMembers (text_member (by decide) (text_string (by decide)))
        (.moreMembers (text_member (by decide) (text_string (by decide)))
          (.moreMembers (text_member (by decide) (text_string (by decide)))
            (.oneMember (text_member (by decide) hz)))))
  have hmembers : Text (.members driftMembers) _ :=
    .moreMembers (text_member (by decide) (.object hnested))
      (.oneMember (text_member (by decide) (text_digit (by decide) (by decide))))
  exact ⟨[], _, [], nofun, .object hmembers, nofun, by decide⟩

/-- The verifier accepts it. -/
theorem drift_accepted : validateClientData driftText.val zeroChallenge [0x6f] = .ok () := by
  decide +kernel

theorem drift_has_late_member :
    Document (.object driftMembers) driftText.val
      ∧ validateClientData driftText.val zeroChallenge [0x6f] = .ok ()
      ∧ ¬ ∃ ms, Json.object driftMembers = .object ms ∧ Asserts ms zeroChallenge [0x6f] := by
  refine ⟨drift_document, drift_accepted, ?_⟩
  rw [accepted_iff_no_late_member driftText (.object driftMembers) zeroChallenge [0x6f]
    drift_document drift_accepted]
  intro hnone
  refine hnone (keyType, .string webauthnGet) ?_ (.inl rfl)
  simp [nestedLate, driftMembers, driftNested, late, lateTail, lateItems]

/-- **The scanner takes nested members for its own**: an accepted JSON text whose object has
    no member `type`, `challenge` or `origin`. -/
theorem nested_members_accepted :
    ¬ ∀ (json : Slice) (v : Json) (challenge origin : Bytes), challenge.length = 43 →
      Document v json.val → validateClientData json.val challenge origin = .ok () →
      ∃ ms, v = .object ms ∧ Asserts ms challenge origin := by
  intro hall
  obtain ⟨ms, hms, hasserts⟩ := hall driftText (.object driftMembers) zeroChallenge [0x6f]
    (by decide) drift_document drift_accepted
  cases hms
  have hnone : driftMembers.filter (fun m => m.1 = keyType) = [] := by
    simp [driftMembers, keyType]
  exact absurd (hnone.symm.trans hasserts.type) nofun

end CkbNesting
