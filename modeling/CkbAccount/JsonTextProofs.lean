import CkbAccount.RustOutcomeProofs

/-! # JSON texts

    The grammar of RFC 8259 over bytes, and the value a text stands for.

    * `Chars`, `Number`, `Ws`: the tokens; `decode` turns the text between the quotes of a
      string into the string it stands for;
    * `Text`: the derivations of values, items and members, as one family, so that a proof
      about nested texts is one induction;
    * `Document`: a value with the white space around it.

    That the bytes are UTF-8 is no part of the grammar here: a byte from 0x80 on may stand
    anywhere in a string. -/

namespace JsonText

open RustOutcome

/-! ## Characters -/

/-- `quotation-mark`. -/
def quote : UInt8 := 0x22
/-- `escape`. -/
def backslash : UInt8 := 0x5c
/-- `name-separator`. -/
def colon : UInt8 := 0x3a
/-- `value-separator`. -/
def comma : UInt8 := 0x2c
/-- `begin-object`. -/
def openBrace : UInt8 := 0x7b
/-- `end-object`. -/
def closeBrace : UInt8 := 0x7d
/-- `begin-array`. -/
def openBracket : UInt8 := 0x5b
/-- `end-array`. -/
def closeBracket : UInt8 := 0x5d

/-- A text between quotes. -/
def quoted (text : Bytes) : Bytes := quote :: (text ++ [quote])

/-- `ws = *( %x20 / %x09 / %x0A / %x0D )`. -/
def isWs (byte : UInt8) : Bool := byte = 0x20 ∨ byte = 0x0a ∨ byte = 0x0d ∨ byte = 0x09

/-- A text of white space, which may be empty. -/
def Ws (text : Bytes) : Prop := ∀ byte ∈ text, isWs byte = true

/-- `DIGIT`. -/
def isDigit (byte : UInt8) : Bool := 0x30 ≤ byte && byte ≤ 0x39

/-- `HEXDIG`, in either case. -/
def isHexDigit (byte : UInt8) : Bool :=
  isDigit byte || (0x41 ≤ byte && byte ≤ 0x46) || (0x61 ≤ byte && byte ≤ 0x66)

/-- The characters behind a backslash, other than `u`. -/
def isEscape (byte : UInt8) : Bool :=
  byte ∈ [quote, backslash, 0x2f, 0x62, 0x66, 0x6e, 0x72, 0x74]

/-- `*char`: what stands between the quotes of a string. -/
inductive Chars : Bytes → Prop where
  | nil : Chars []
  | unescaped {byte : UInt8} {text : Bytes} : byte ≠ quote → byte ≠ backslash → 0x20 ≤ byte →
      Chars text → Chars (byte :: text)
  | escape {byte : UInt8} {text : Bytes} : isEscape byte = true →
      Chars text → Chars (backslash :: byte :: text)
  | unicode {a b c d : UInt8} {text : Bytes} : isHexDigit a = true → isHexDigit b = true →
      isHexDigit c = true → isHexDigit d = true →
      Chars text → Chars (backslash :: 0x75 :: a :: b :: c :: d :: text)

/-! ## What a string stands for -/

/-- A byte of UTF-8, or a UTF-16 unit that was written as `\uXXXX`. -/
inductive Unit16 where
  | byte (b : UInt8)
  | unit (code : Nat)

/-- Where the reader of a string stands: outside an escape, behind a backslash, or inside
    the digits of `\uXXXX`. -/
inductive Escape where
  | none
  | begun
  | digits (missing value : Nat)

/-- The value of a hexadecimal digit. -/
def hexValue (byte : UInt8) : Nat :=
  if byte ≤ 0x39 then byte.toNat - 0x30
  else if byte ≤ 0x46 then byte.toNat - 0x37 else byte.toNat - 0x57

/-- The character of a two-character escape. -/
def escaped (byte : UInt8) : UInt8 :=
  if byte = 0x62 then 0x08 else if byte = 0x66 then 0x0c else if byte = 0x6e then 0x0a
  else if byte = 0x72 then 0x0d else if byte = 0x74 then 0x09 else byte

/-- The units of a string, read from left to right: an escape is one unit, and any other byte
    stands for itself. -/
def units : Escape → Bytes → List Unit16
  | _, [] => []
  | .none, byte :: text =>
      if byte = backslash then units .begun text else .byte byte :: units .none text
  | .begun, byte :: text =>
      if byte = 0x75 then units (.digits 4 0) text
      else .byte (escaped byte) :: units .none text
  | .digits missing value, byte :: text =>
      let value := 16 * value + hexValue byte
      if missing ≤ 1 then .unit value :: units .none text
      else units (.digits (missing - 1) value) text

/-- The UTF-8 form of a code point. -/
def utf8 (code : Nat) : Bytes :=
  if code < 0x80 then [UInt8.ofNat code]
  else if code < 0x800 then
    [UInt8.ofNat (0xc0 + code / 64), UInt8.ofNat (0x80 + code % 64)]
  else if code < 0x10000 then
    [UInt8.ofNat (0xe0 + code / 4096), UInt8.ofNat (0x80 + code / 64 % 64),
      UInt8.ofNat (0x80 + code % 64)]
  else
    [UInt8.ofNat (0xf0 + code / 262144), UInt8.ofNat (0x80 + code / 4096 % 64),
      UInt8.ofNat (0x80 + code / 64 % 64), UInt8.ofNat (0x80 + code % 64)]

/-- The first half of a surrogate pair. -/
def isHigh (code : Nat) : Bool := 0xd800 ≤ code && code < 0xdc00

/-- The second half of a surrogate pair. -/
def isLow (code : Nat) : Bool := 0xdc00 ≤ code && code < 0xe000

/-- Two units of a surrogate pair are one character; a unit that is not part of a pair
    stands for itself. -/
def joined : Option Nat → List Unit16 → Bytes
  | none, [] => []
  | some high, [] => utf8 high
  | none, .byte byte :: rest => byte :: joined none rest
  | some high, .byte byte :: rest => utf8 high ++ byte :: joined none rest
  | none, .unit code :: rest =>
      if isHigh code then joined (some code) rest else utf8 code ++ joined none rest
  | some high, .unit code :: rest =>
      if isLow code then
        utf8 (0x10000 + (high - 0xd800) * 1024 + (code - 0xdc00)) ++ joined none rest
      else if isHigh code then utf8 high ++ joined (some code) rest
      else utf8 high ++ (utf8 code ++ joined none rest)

/-- The string, in UTF-8, that the text between two quotes stands for. -/
def decode (text : Bytes) : Bytes := joined none (units .none text)

/-- A byte outside an escape stands for itself. -/
theorem decode_cons {byte : UInt8} (text : Bytes) (h : byte ≠ backslash) :
    decode (byte :: text) = byte :: decode text := by
  rw [decode, units, if_neg h, joined]
  rfl

/-- Without escapes a text stands for itself. -/
theorem decode_of_unescaped :
    ∀ {text : Bytes}, backslash ∉ text → decode text = text := by
  intro text
  induction text with
  | nil => exact fun _ => rfl
  | cons byte text ih =>
      intro h
      rw [List.mem_cons, not_or] at h
      rw [decode_cons text (Ne.symm h.1), ih h.2]

/-! ## Numbers and literals -/

/-- `1*DIGIT`. -/
def Digits (text : Bytes) : Prop := text ≠ [] ∧ ∀ byte ∈ text, isDigit byte = true

/-- `int = zero / ( digit1-9 *DIGIT )`. -/
def IntText (text : Bytes) : Prop :=
  text = [0x30] ∨ (Digits text ∧ text.head? ≠ some 0x30)

/-- `frac = decimal-point 1*DIGIT`, if there. -/
def FracText (text : Bytes) : Prop := text = [] ∨ ∃ digits, text = 0x2e :: digits ∧ Digits digits

/-- `exp = e [ minus / plus ] 1*DIGIT`, if there. -/
def ExpText (text : Bytes) : Prop :=
  text = [] ∨ ∃ e sign digits, text = e :: (sign ++ digits) ∧ (e = 0x65 ∨ e = 0x45)
    ∧ (sign = [] ∨ sign = [0x2d] ∨ sign = [0x2b]) ∧ Digits digits

/-- `number = [ minus ] int [ frac ] [ exp ]`. -/
structure Number (text : Bytes) : Prop where
  parts : ∃ sign int frac exp, text = sign ++ (int ++ (frac ++ exp))
    ∧ (sign = [] ∨ sign = [0x2d]) ∧ IntText int ∧ FracText frac ∧ ExpText exp

/-- `null`. -/
def nullText : Bytes := [0x6e, 0x75, 0x6c, 0x6c]
/-- `true`. -/
def trueText : Bytes := [0x74, 0x72, 0x75, 0x65]
/-- `false`. -/
def falseText : Bytes := [0x66, 0x61, 0x6c, 0x73, 0x65]

/-- The bytes of numbers and literals: digits, signs, the point and some letters. -/
def isScalarByte (byte : UInt8) : Bool :=
  isDigit byte || byte ∈ [0x2b, 0x2d, 0x2e, 0x45, 0x61, 0x65, 0x66, 0x6c, 0x6e, 0x72, 0x73,
    0x74, 0x75]

/-- A number or a literal. -/
def Scalar (text : Bytes) : Prop :=
  Number text ∨ text = nullText ∨ text = trueText ∨ text = falseText

/-- Digits are among the bytes of a number. -/
theorem isScalarByte_of_isDigit {byte : UInt8} (h : isDigit byte = true) :
    isScalarByte byte = true := by
  rw [isScalarByte, h, Bool.true_or]

/-- So are the bytes of a row of digits, -/
theorem Digits.isScalarByte {text : Bytes} (h : Digits text) :
    ∀ byte ∈ text, isScalarByte byte = true :=
  fun byte hb => isScalarByte_of_isDigit (h.2 byte hb)

/-- and those of a whole number, with its sign, point and exponent. -/
theorem Number.isScalarByte {text : Bytes} (h : Number text) :
    ∀ byte ∈ text, isScalarByte byte = true := by
  obtain ⟨sign, int, frac, exp, rfl, hsign, hint, hfrac, hexp⟩ := h.parts
  intro byte hb
  -- the byte is in one of the four parts
  rcases List.mem_append.mp hb with hb | hb
  · rcases hsign with rfl | rfl
    · exact absurd hb List.not_mem_nil
    · rw [List.mem_singleton.mp hb]
      decide
  rcases List.mem_append.mp hb with hb | hb
  · rcases hint with rfl | ⟨hint, -⟩
    · rw [List.mem_singleton.mp hb]
      decide
    · exact hint.isScalarByte byte hb
  rcases List.mem_append.mp hb with hb | hb
  · rcases hfrac with rfl | ⟨digits, rfl, hdigits⟩
    · exact absurd hb List.not_mem_nil
    · rcases List.mem_cons.mp hb with rfl | hb
      · decide
      · exact hdigits.isScalarByte byte hb
  · rcases hexp with rfl | ⟨e, sgn, digits, rfl, he, hsgn, hdigits⟩
    · exact absurd hb List.not_mem_nil
    · rcases List.mem_cons.mp hb with rfl | hb
      · rcases he with rfl | rfl <;> decide
      · rcases List.mem_append.mp hb with hb | hb
        · rcases hsgn with rfl | rfl | rfl
          · exact absurd hb List.not_mem_nil
          · rw [List.mem_singleton.mp hb]
            decide
          · rw [List.mem_singleton.mp hb]
            decide
        · exact hdigits.isScalarByte byte hb

/-- A number has a digit. -/
theorem Number.ne_nil {text : Bytes} (h : Number text) : text ≠ [] := by
  obtain ⟨sign, int, frac, exp, rfl, -, hint, -, -⟩ := h.parts
  have hne : int ≠ [] := by
    rcases hint with rfl | ⟨hint, -⟩
    · exact List.cons_ne_nil _ _
    · exact hint.1
  intro hnil
  exact hne (List.append_eq_nil_iff.mp (List.append_eq_nil_iff.mp hnil).2).1

/-- A number or a literal holds no byte that ends it. -/
theorem Scalar.isScalarByte {text : Bytes} (h : Scalar text) :
    ∀ byte ∈ text, isScalarByte byte = true := by
  rcases h with h | rfl | rfl | rfl
  · exact h.isScalarByte
  · exact List.all_eq_true.mp (by decide)
  · exact List.all_eq_true.mp (by decide)
  · exact List.all_eq_true.mp (by decide)

/-- A scalar is not empty. -/
theorem Scalar.ne_nil {text : Bytes} (h : Scalar text) : text ≠ [] := by
  rcases h with h | rfl | rfl | rfl
  · exact h.ne_nil
  · decide
  · decide
  · decide

/-! ## Values -/

/-- A JSON value.  A number is kept as it is written, and a string as its UTF-8 bytes; the
    members of an object keep their order, and a name may stand there twice. -/
inductive Json where
  | null
  | bool (b : Bool)
  | number (text : Bytes)
  | string (text : Bytes)
  | array (items : List Json)
  | object (members : List (Bytes × Json))

/-- What a derivation is about. -/
inductive Part where
  | value (v : Json)
  | items (vs : List Json)
  | member (m : Bytes × Json)
  | members (ms : List (Bytes × Json))

/-- The grammar: the text of a value, of the items of an array, of a member with the white
    space around it, of the members of an object. -/
inductive Text : Part → Bytes → Prop where
  | null : Text (.value .null) nullText
  | true : Text (.value (.bool .true)) trueText
  | false : Text (.value (.bool .false)) falseText
  | number {t : Bytes} : Number t → Text (.value (.number t)) t
  | string {t : Bytes} : Chars t → Text (.value (.string (decode t))) (quote :: (t ++ [quote]))
  | emptyArray {w : Bytes} : Ws w →
      Text (.value (.array [])) (openBracket :: (w ++ [closeBracket]))
  | array {vs : List Json} {t : Bytes} : Text (.items vs) t →
      Text (.value (.array vs)) (openBracket :: (t ++ [closeBracket]))
  | emptyObject {w : Bytes} : Ws w →
      Text (.value (.object [])) (openBrace :: (w ++ [closeBrace]))
  | object {ms : List (Bytes × Json)} {t : Bytes} : Text (.members ms) t →
      Text (.value (.object ms)) (openBrace :: (t ++ [closeBrace]))
  | oneItem {v : Json} {w t w' : Bytes} : Ws w → Text (.value v) t → Ws w' →
      Text (.items [v]) (w ++ (t ++ w'))
  | moreItems {v : Json} {vs : List Json} {w t w' rest : Bytes} : Ws w → Text (.value v) t →
      Ws w' → Text (.items vs) rest →
      Text (.items (v :: vs)) (w ++ (t ++ (w' ++ comma :: rest)))
  | member {v : Json} {w name w₁ w₂ t w₃ : Bytes} : Ws w → Chars name → Ws w₁ → Ws w₂ →
      Text (.value v) t → Ws w₃ →
      Text (.member (decode name, v))
        (w ++ (quote :: (name ++ (quote :: (w₁ ++ (colon :: (w₂ ++ (t ++ w₃))))))))
  | oneMember {m : Bytes × Json} {t : Bytes} : Text (.member m) t → Text (.members [m]) t
  | moreMembers {m : Bytes × Json} {ms : List (Bytes × Json)} {t rest : Bytes} :
      Text (.member m) t → Text (.members ms) rest →
      Text (.members (m :: ms)) (t ++ comma :: rest)

/-- `JSON-text = ws value ws`. -/
def Document (v : Json) (text : Bytes) : Prop :=
  ∃ w t w', Ws w ∧ Text (.value v) t ∧ Ws w' ∧ text = w ++ (t ++ w')

end JsonText
