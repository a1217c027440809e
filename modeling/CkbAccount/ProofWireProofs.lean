import CkbAccount.ClientDataProofs
import CkbAccount.RecordLoopProofs

/-! # Proof payloads

    What a proof slot carries for the bundled verifiers: a public key with a signature
    for the ML-DSA and SLH-DSA adapters (`parse_public_key_proof` of
    `crates/protocol/src/wire.rs`), a passkey assertion for P-256 (`parse_proof` of
    `contracts/verifier-p256/src/main.rs`).  Both parsers accept exactly the layouts of
    well-formed payloads, and no layout is the front of another. -/

namespace CkbProofWire

open RustOutcome Outcome LittleEndian RecordLoop CkbProtocol CkbClientData

/-! ## Public key and signature -/

/-- `PublicKeyProof`. -/
structure PublicKeyProof where
  publicKey : Bytes
  signature : Bytes
  deriving DecidableEq, Repr

/-- `parse_public_key_proof`. -/
def parsePublicKeyProof (data : Bytes) : Outcome ProtocolError PublicKeyProof := do
  rejectIf (data.length < 5) .invalidProof
  rejectIf ((← byteAt data 0) ≠ 1) .invalidProof
  let publicKeyLen := (← leU16 (← slice data 1 3)).toNat
  let signatureLen := (← leU16 (← slice data 3 5)).toNat
  rejectIf (publicKeyLen = 0 ∨ signatureLen = 0) .invalidProof
  let keyEnd ← okOr .lengthOverflow (checkedAdd 5 publicKeyLen)
  let total ← okOr .lengthOverflow (checkedAdd keyEnd signatureLen)
  rejectIf (total ≠ data.length) .invalidProof
  return {
    publicKey := ← slice data 5 keyEnd
    signature := ← slice data keyEnd total }

/-- The bytes of a public key proof. -/
def PublicKeyProof.layout (p : PublicKeyProof) : Bytes :=
  1 :: (u16Le (UInt16.ofNat p.publicKey.length) ++ (u16Le (UInt16.ofNat p.signature.length)
    ++ (p.publicKey ++ p.signature)))

/-- Both payloads are there, and their lengths fit the two length fields. -/
structure PublicKeyProof.WellFormed (p : PublicKeyProof) : Prop where
  key_pos : 0 < p.publicKey.length
  key_lt : p.publicKey.length < 2 ^ 16
  signature_pos : 0 < p.signature.length
  signature_lt : p.signature.length < 2 ^ 16

/-- The parser on a string cut at the field boundaries. -/
theorem parsePublicKeyProof_cut {keyLen sigLen : Bytes} (hkey : keyLen.length = 2)
    (hsig : sigLen.length = 2) (version : UInt8) (body : Bytes) :
    parsePublicKeyProof (version :: (keyLen ++ (sigLen ++ body)))
      = (do
        rejectIf (version ≠ 1) .invalidProof
        rejectIf (leValue keyLen = 0 ∨ leValue sigLen = 0) .invalidProof
        rejectIf (5 + leValue keyLen + leValue sigLen ≠ 5 + body.length) .invalidProof
        return {
          publicKey := body.take (leValue keyLen)
          signature := (body.drop (leValue keyLen)).take (leValue sigLen) }) := by
  unfold parsePublicKeyProof
  have hk : leValue keyLen < 2 ^ 16 := by
    have := leValue_lt keyLen
    rwa [hkey] at this
  have hs : leValue sigLen < 2 ^ 16 := by
    have := leValue_lt sigLen
    rwa [hsig] at this
  have htotal : (version :: (keyLen ++ (sigLen ++ body))).length = 5 + body.length := by
    simp only [List.length_cons, List.length_append, hkey, hsig]
    omega
  have hkeyEnd : checkedAdd 5 (leValue keyLen) = some (5 + leValue keyLen) :=
    checkedAdd_of_lt (by unfold usizeSize; omega)
  have hsum : checkedAdd (5 + leValue keyLen) (leValue sigLen)
      = some (5 + leValue keyLen + leValue sigLen) :=
    checkedAdd_of_lt (by unfold usizeSize; omega)
  have hfront : version :: (keyLen ++ (sigLen ++ body))
      = (version :: (keyLen ++ sigLen)) ++ body := by
    simp only [List.cons_append, List.append_assoc]
  have hfrontLen : (version :: (keyLen ++ sigLen)).length = 5 := by
    simp only [List.length_cons, List.length_append, hkey, hsig]
  rw [htotal, rejectIf_neg (show ¬ 5 + body.length < 5 by omega), ok_bind]
  -- the slices only stay inside the buffer when the lengths add up
  by_cases heq : 5 + leValue keyLen + leValue sigLen = 5 + body.length
  · have hpk : (slice (version :: (keyLen ++ (sigLen ++ body))) 5 (5 + leValue keyLen)
        : Outcome ProtocolError Bytes) = .ok (body.take (leValue keyLen)) := by
      rw [hfront, slice_window _ body (k := 0) (n := leValue keyLen) (by omega) (by omega)
        (by omega), List.drop_zero]
    have hsg : (slice (version :: (keyLen ++ (sigLen ++ body))) (5 + leValue keyLen)
        (5 + leValue keyLen + leValue sigLen) : Outcome ProtocolError Bytes)
        = .ok ((body.drop (leValue keyLen)).take (leValue sigLen)) := by
      rw [hfront, slice_window _ body (k := leValue keyLen) (n := leValue sigLen) (by omega)
        (by omega) (by omega)]
    simp (disch := omega) only [byteAt_cons_zero, slice_cons_succ, slice_append_left,
      slice_append_right, slice_all, leU16_of_length, u16FromLe_toNat, hkey, Nat.reduceSub,
      ok_bind, hkeyEnd, okOr_some, hsum, hpk, hsg]
  · simp (disch := omega) only [byteAt_cons_zero, slice_cons_succ, slice_append_left,
      slice_append_right, slice_all, leU16_of_length, u16FromLe_toNat, hkey, Nat.reduceSub,
      ok_bind, hkeyEnd, okOr_some, hsum, rejectIf_pos heq, err_bind]

/-- **The parser inverts the layout.** -/
theorem parsePublicKeyProof_eq_ok {data : Bytes} {p : PublicKeyProof} :
    parsePublicKeyProof data = .ok p ↔ data = p.layout ∧ p.WellFormed := by
  constructor
  · intro h
    have hlong : 5 ≤ data.length := by
      unfold parsePublicKeyProof at h
      exact Nat.le_of_not_lt (rejectIf_bind_eq_ok.mp h).1
    -- cut the fixed front into its fields, then read the checks off the cut text
    obtain ⟨version, d, rfl, _⟩ := exists_head data (by omega)
    obtain ⟨keyLen, d, rfl, hkey, _⟩ := exists_front d 2 (by omega)
    obtain ⟨sigLen, body, rfl, hsig, _⟩ := exists_front d 2 (by omega)
    rw [parsePublicKeyProof_cut hkey hsig] at h
    simp only [rejectIf_bind_eq_ok, not_not, not_or, pure_eq, Outcome.ok.injEq] at h
    obtain ⟨rfl, ⟨hkpos, hspos⟩, hsum, rfl⟩ := h
    have hk := leValue_lt keyLen
    have hs := leValue_lt sigLen
    rw [hkey] at hk
    rw [hsig] at hs
    have hkeyData : (body.take (leValue keyLen)).length = leValue keyLen := by
      rw [List.length_take]
      omega
    have hsigData : ((body.drop (leValue keyLen)).take (leValue sigLen)).length
        = leValue sigLen := by
      rw [List.length_take, List.length_drop]
      omega
    -- the sum check leaves nothing behind the two payloads
    have hbody : body.take (leValue keyLen)
        ++ (body.drop (leValue keyLen)).take (leValue sigLen) = body := by
      rw [List.take_of_length_le (i := leValue sigLen) (by rw [List.length_drop]; omega),
        List.take_append_drop]
    refine ⟨?_, ⟨?_, ?_, ?_, ?_⟩⟩
    · simp only [PublicKeyProof.layout, hkeyData, hsigData]
      rw [show UInt16.ofNat (leValue keyLen) = u16FromLe keyLen from rfl,
        show UInt16.ofNat (leValue sigLen) = u16FromLe sigLen from rfl]
      simp only [u16Le_u16FromLe hkey, u16Le_u16FromLe hsig, hbody]
    · show 0 < (body.take (leValue keyLen)).length
      omega
    · show (body.take (leValue keyLen)).length < _
      omega
    · show 0 < ((body.drop (leValue keyLen)).take (leValue sigLen)).length
      omega
    · show ((body.drop (leValue keyLen)).take (leValue sigLen)).length < _
      omega
  · rintro ⟨rfl, hkpos, hklt, hspos, hslt⟩
    rw [PublicKeyProof.layout, parsePublicKeyProof_cut (u16Le_length _) (u16Le_length _),
      leValue_u16Le_ofNat hklt, leValue_u16Le_ofNat hslt]
    simp only [rejectIf_bind_eq_ok, not_not, not_or, pure_eq, List.take_left',
      List.drop_left', List.take_length, List.length_append]
    exact ⟨trivial, ⟨by omega, by omega⟩, by omega, trivial⟩

/-! ## Passkey assertions -/

/-- The proof of a passkey, with its fields in the order of the wire. -/
structure PasskeyProof where
  publicKey : Bytes
  origin : Bytes
  authenticatorData : Bytes
  clientDataJson : Bytes
  signature : Bytes
  deriving DecidableEq, Repr

/-- `data.get(lo..hi)`. -/
def getRange (data : Bytes) (lo hi : Nat) : Option Bytes :=
  if lo ≤ hi ∧ hi ≤ data.length then some ((data.drop lo).take (hi - lo)) else none

/-- `take`: the next `len` bytes, and the offset after them. -/
def take (data : Bytes) (offset len : Nat) : Outcome Exit (Bytes × Nat) := do
  let stop ← okOr .malformedProof (checkedAdd offset len)
  let value ← okOr .malformedProof (getRange data offset stop)
  return (value, stop)

/-- `take_u16`. -/
def takeU16 (data : Bytes) (offset : Nat) : Outcome Exit (Nat × Nat) := do
  let (bytes, offset) ← take data offset 2
  return ((u16FromLe [← byteAt bytes 0, ← byteAt bytes 1]).toNat, offset)

/-- `parse_proof`. -/
def parseProof (data : Bytes) : Outcome Exit PasskeyProof := do
  let (publicKey, offset) ← take data 0 65
  let (one, offset) ← take data offset 1
  let originLen ← okOr .malformedProof one.head?
  let (origin, offset) ← take data offset originLen.toNat
  let (authenticatorLen, offset) ← takeU16 data offset
  let (authenticatorData, offset) ← take data offset authenticatorLen
  let (clientLen, offset) ← takeU16 data offset
  let (clientDataJson, offset) ← take data offset clientLen
  let (signatureLen, offset) ← takeU16 data offset
  let (signature, offset) ← take data offset signatureLen
  rejectIf (offset ≠ data.length ∨ origin.isEmpty ∨ authenticatorData.length < 37
    ∨ clientDataJson.isEmpty ∨ signature.isEmpty) .malformedProof
  return {
    publicKey := publicKey
    origin := origin
    authenticatorData := authenticatorData
    clientDataJson := clientDataJson
    signature := signature }

/-- A two-byte length, then the bytes. -/
def sized (b : Bytes) : Bytes := u16Le (UInt16.ofNat b.length) ++ b

/-- The bytes of a passkey assertion. -/
def PasskeyProof.layout (p : PasskeyProof) : Bytes :=
  p.publicKey ++ (UInt8.ofNat p.origin.length :: (p.origin ++ (sized p.authenticatorData
    ++ (sized p.clientDataJson ++ sized p.signature))))

/-- Each field fits its length field, and is as long as the verifier needs it. -/
structure PasskeyProof.WellFormed (p : PasskeyProof) : Prop where
  key : p.publicKey.length = 65
  origin_pos : 0 < p.origin.length
  origin_lt : p.origin.length < 2 ^ 8
  data_ge : 37 ≤ p.authenticatorData.length
  data_lt : p.authenticatorData.length < 2 ^ 16
  client_pos : 0 < p.clientDataJson.length
  client_lt : p.clientDataJson.length < 2 ^ 16
  signature_pos : 0 < p.signature.length
  signature_lt : p.signature.length < 2 ^ 16

section Cursor

variable {data rest : Bytes} {offset stop : Nat}

/-- The reader has `rest` in front of it. -/
structure At (data : Bytes) (offset : Nat) (rest : Bytes) : Prop where
  le : offset ≤ data.length
  drop : data.drop offset = rest

/-- **One read**: it succeeds on a long enough rest, and moves past what it returns. -/
theorem take_eq_ok (hat : At data offset rest) {len : Nat} {value : Bytes} :
    take data offset len = .ok (value, stop)
      ↔ ∃ rest', rest = value ++ rest' ∧ value.length = len ∧ stop = offset + len
        ∧ offset + len < usizeSize ∧ At data stop rest' := by
  have hlength : data.length = offset + rest.length := by
    have hle := hat.le
    rw [← hat.drop, List.length_drop]
    omega
  unfold take
  simp only [bind_eq_ok, okOr_eq_ok, checkedAdd_eq_some, getRange, pure_eq, Outcome.ok.injEq,
    Prod.mk.injEq, Option.ite_none_right_eq_some, Option.some.injEq]
  constructor
  · rintro ⟨stop', ⟨rfl, hlt⟩, value', ⟨⟨-, hle⟩, rfl⟩, rfl, rfl⟩
    rw [hat.drop, Nat.add_sub_cancel_left]
    refine ⟨rest.drop len, (List.take_append_drop ..).symm, ?_, rfl, hlt, hle, ?_⟩
    · rw [List.length_take]
      omega
    · rw [← List.drop_drop, hat.drop]
  · rintro ⟨rest', rfl, rfl, rfl, hlt, hat'⟩
    refine ⟨_, ⟨rfl, hlt⟩, _, ⟨⟨Nat.le_add_right .., hat'.le⟩, rfl⟩, ?_, rfl⟩
    rw [hat.drop, Nat.add_sub_cancel_left, List.take_left']
    rfl

/-- Reading a two-byte length. -/
theorem takeU16_eq_ok (hat : At data offset rest) {n : Nat} :
    takeU16 data offset = .ok (n, stop)
      ↔ ∃ rest', n < 2 ^ 16 ∧ rest = u16Le (UInt16.ofNat n) ++ rest' ∧ stop = offset + 2
        ∧ offset + 2 < usizeSize ∧ At data stop rest' := by
  unfold takeU16
  rw [bind_eq_ok]
  constructor
  · rintro ⟨⟨bytes, stop'⟩, htake, h⟩
    obtain ⟨rest', hrest, hlen, hstop, hlt, hat'⟩ := (take_eq_ok hat).mp htake
    match bytes, hlen with
    | [a, b], _ =>
        cases h
        refine ⟨rest', (u16FromLe [a, b]).toNat_lt, ?_, hstop, hlt, hat'⟩
        rw [UInt16.ofNat_toNat, u16Le_u16FromLe rfl]
        exact hrest
  · rintro ⟨rest', hn, hrest, hstop, hlt, hat'⟩
    refine ⟨(u16Le (UInt16.ofNat n), stop), (take_eq_ok hat).mpr
      ⟨rest', hrest, u16Le_length _, hstop, hlt, hat'⟩, ?_⟩
    obtain ⟨a, b, hab⟩ := List.length_eq_two.mp (u16Le_length (UInt16.ofNat n))
    have hvalue : (u16FromLe [a, b]).toNat = n := by
      rw [← hab, u16FromLe_u16Le, UInt16.toNat_ofNat_of_lt' hn]
    rw [hab, ← hvalue]
    rfl

/-- What follows the bytes in front of the reader. -/
theorem At.next {value rest' : Bytes} (hat : At data offset (value ++ rest')) :
    At data (offset + value.length) rest' := by
  have hle := hat.le
  have hlength := congrArg List.length hat.drop
  rw [List.length_drop, List.length_append] at hlength
  refine ⟨by omega, ?_⟩
  rw [← List.drop_drop, hat.drop, List.drop_left']
  rfl

/-- `take` reads the bytes at the offset. -/
theorem At.take {value rest' : Bytes} (hat : At data offset (value ++ rest'))
    (hdata : data.length < usizeSize) :
    take data offset value.length = .ok (value, offset + value.length) := by
  have hle := hat.next.le
  exact (take_eq_ok hat).mpr ⟨rest', rfl, rfl, rfl, by omega, hat.next⟩

/-- `take_u16` reads the length in front of a field. -/
theorem At.takeU16 {value rest' : Bytes} (hat : At data offset (sized value ++ rest'))
    (hvalue : value.length < 2 ^ 16) (hdata : data.length < usizeSize) :
    takeU16 data offset = .ok (value.length, offset + 2) ∧ At data (offset + 2) (value ++ rest') := by
  rw [sized, List.append_assoc] at hat
  have hnext := hat.next
  rw [u16Le_length] at hnext
  have hle := hnext.le
  exact ⟨(takeU16_eq_ok hat).mpr ⟨_, hvalue, rfl, rfl, by omega, hnext⟩, hnext⟩

end Cursor

/-- **The parser inverts the layout.** -/
theorem parseProof_eq_ok {data : Bytes} {p : PasskeyProof} :
    parseProof data = .ok p ↔ data = p.layout ∧ p.WellFormed := by
  constructor
  · intro h
    unfold parseProof at h
    obtain ⟨⟨publicKey, o₁⟩, hkey, h⟩ := bind_eq_ok.mp h
    obtain ⟨⟨one, o₂⟩, hone, h⟩ := bind_eq_ok.mp h
    obtain ⟨originLen, horiginLen, h⟩ := bind_eq_ok.mp h
    obtain ⟨⟨origin, o₃⟩, horigin, h⟩ := bind_eq_ok.mp h
    obtain ⟨⟨dataLen, o₄⟩, hdataLen, h⟩ := bind_eq_ok.mp h
    obtain ⟨⟨authData, o₅⟩, hauthData, h⟩ := bind_eq_ok.mp h
    obtain ⟨⟨clientLen, o₆⟩, hclientLen, h⟩ := bind_eq_ok.mp h
    obtain ⟨⟨client, o₇⟩, hclient, h⟩ := bind_eq_ok.mp h
    obtain ⟨⟨sigLen, o₈⟩, hsigLen, h⟩ := bind_eq_ok.mp h
    obtain ⟨⟨signature, o₉⟩, hsignature, h⟩ := bind_eq_ok.mp h
    obtain ⟨hbad, h⟩ := rejectIf_bind_eq_ok.mp h
    cases h
    simp only [not_or, not_not, List.isEmpty_iff] at hbad
    obtain ⟨hend, hneOrigin, hlong, hneClient, hneSig⟩ := hbad
    have hstart : At data 0 data := ⟨Nat.zero_le _, rfl⟩
    obtain ⟨r₁, hr₁, hlen₁, -, -, hat₁⟩ := (take_eq_ok hstart).mp hkey
    obtain ⟨r₂, rfl, hlen₂, -, -, hat₂⟩ := (take_eq_ok hat₁).mp hone
    obtain ⟨r₃, rfl, hlen₃, -, -, hat₃⟩ := (take_eq_ok hat₂).mp horigin
    obtain ⟨r₄, hlt₄, rfl, -, -, hat₄⟩ := (takeU16_eq_ok hat₃).mp hdataLen
    obtain ⟨r₅, rfl, hlen₅, -, -, hat₅⟩ := (take_eq_ok hat₄).mp hauthData
    obtain ⟨r₆, hlt₆, rfl, -, -, hat₆⟩ := (takeU16_eq_ok hat₅).mp hclientLen
    obtain ⟨r₇, rfl, hlen₇, -, -, hat₇⟩ := (take_eq_ok hat₆).mp hclient
    obtain ⟨r₈, hlt₈, rfl, -, -, hat₈⟩ := (takeU16_eq_ok hat₇).mp hsigLen
    obtain ⟨r₉, rfl, hlen₉, -, -, hat₉⟩ := (take_eq_ok hat₈).mp hsignature
    have hnil : r₉ = [] := by
      rw [← hat₉.drop, hend, List.drop_length]
    have horiginByte : one = [UInt8.ofNat origin.length] := by
      match one, hlen₂ with
      | [n], _ =>
          cases okOr_eq_ok.mp horiginLen
          rw [hlen₃, UInt8.ofNat_toNat]
    subst hnil horiginByte hlen₅ hlen₇ hlen₉
    refine ⟨?_, ⟨hlen₁, ?_, ?_, Nat.le_of_not_lt hlong, hlt₄, ?_, hlt₆, ?_, hlt₈⟩⟩
    · rw [hr₁]
      simp only [PasskeyProof.layout, sized, List.append_assoc, List.append_nil,
        List.singleton_append]
    · exact List.length_pos_iff.mpr hneOrigin
    · show origin.length < 2 ^ 8
      rw [hlen₃]
      exact originLen.toNat_lt
    · exact List.length_pos_iff.mpr hneClient
    · exact List.length_pos_iff.mpr hneSig
  · rintro ⟨hlayout, hwf⟩
    have hdata : data.length < usizeSize := by
      obtain ⟨_, _, _, _, _, _, _, _, _⟩ := hwf
      rw [hlayout, PasskeyProof.layout]
      simp only [sized, List.length_append, List.length_cons, u16Le_length, usizeSize]
      omega
    have hat₀ : At data 0 (p.publicKey ++ ([UInt8.ofNat p.origin.length] ++ (p.origin
        ++ (sized p.authenticatorData ++ (sized p.clientDataJson ++ (sized p.signature ++ [])))))) :=
      ⟨Nat.zero_le _, by rw [List.append_nil]; exact hlayout⟩
    have horiginLen : (UInt8.ofNat p.origin.length).toNat = p.origin.length :=
      UInt8.toNat_ofNat_of_lt' hwf.origin_lt
    have hkey : take data 0 65 = .ok (p.publicKey, 0 + p.publicKey.length) := by
      rw [← hwf.key]
      exact hat₀.take hdata
    have hone : take data (0 + p.publicKey.length) 1
        = .ok ([UInt8.ofNat p.origin.length], 0 + p.publicKey.length + 1) := hat₀.next.take hdata
    have hat₂ : At data (0 + p.publicKey.length + 1) _ := hat₀.next.next
    have horigin := hat₂.take hdata
    obtain ⟨hdataLen, hat₃⟩ := hat₂.next.takeU16 hwf.data_lt hdata
    have hauthData := hat₃.take hdata
    obtain ⟨hclientLen, hat₄⟩ := hat₃.next.takeU16 hwf.client_lt hdata
    have hclient := hat₄.take hdata
    obtain ⟨hsigLen, hat₅⟩ := hat₄.next.takeU16 hwf.signature_lt hdata
    have hsignature := hat₅.take hdata
    -- nothing is left at the end
    have hend := Nat.le_antisymm hat₅.next.le (List.drop_eq_nil_iff.mp hat₅.next.drop)
    unfold parseProof
    simp only [hkey, hone, ok_bind, List.head?_cons, okOr_some, horiginLen, horigin, hdataLen,
      hauthData, hclientLen, hclient, hsigLen, hsignature]
    rw [rejectIf_neg, ok_bind]
    · rfl
    · simp only [not_or, not_not, List.isEmpty_iff, ← List.length_pos_iff]
      exact ⟨hend, hwf.origin_pos, Nat.not_lt_of_le hwf.data_ge, hwf.client_pos,
        hwf.signature_pos⟩

/-! ## Where a payload ends -/

/-- Lengths in two bytes tell fields of different lengths apart. -/
theorem length_eq_of_u16Le {a b : Bytes} (ha : a.length < 2 ^ 16) (hb : b.length < 2 ^ 16)
    (h : u16Le (UInt16.ofNat a.length) = u16Le (UInt16.ofNat b.length)) :
    a.length = b.length := by
  rw [← leValue_u16Le_ofNat ha, h, leValue_u16Le_ofNat hb]

theorem PublicKeyProof.layout_prefixFree :
    PrefixFree PublicKeyProof.layout PublicKeyProof.WellFormed := by
  intro p q x y hp hq heq
  simp only [PublicKeyProof.layout, List.cons_append, List.append_assoc] at heq
  obtain ⟨hkeyLen, heq⟩ := List.append_inj (List.cons.inj heq).2 (by simp)
  obtain ⟨hsigLen, heq⟩ := List.append_inj heq (by simp)
  obtain ⟨hkey, heq⟩ := List.append_inj heq (length_eq_of_u16Le hp.key_lt hq.key_lt hkeyLen)
  obtain ⟨hsig, hxy⟩ := List.append_inj heq
    (length_eq_of_u16Le hp.signature_lt hq.signature_lt hsigLen)
  cases p
  cases q
  simp only [PublicKeyProof.mk.injEq]
  exact ⟨⟨hkey, hsig⟩, hxy⟩

theorem sized_prefixFree : PrefixFree sized (fun b => b.length < 2 ^ 16) := by
  intro a b x y ha hb heq
  simp only [sized, List.append_assoc] at heq
  obtain ⟨hlen, heq⟩ := List.append_inj heq (by simp)
  exact List.append_inj heq (length_eq_of_u16Le ha hb hlen)

theorem PasskeyProof.layout_prefixFree :
    PrefixFree PasskeyProof.layout PasskeyProof.WellFormed := by
  intro p q x y hp hq heq
  simp only [PasskeyProof.layout, List.cons_append, List.append_assoc] at heq
  obtain ⟨hkey, heq⟩ := List.append_inj heq (by rw [hp.key, hq.key])
  obtain ⟨horiginLen, heq⟩ := List.cons.inj heq
  have hlength : p.origin.length = q.origin.length := by
    have h := congrArg UInt8.toNat horiginLen
    rwa [UInt8.toNat_ofNat_of_lt' hp.origin_lt, UInt8.toNat_ofNat_of_lt' hq.origin_lt] at h
  obtain ⟨horigin, heq⟩ := List.append_inj heq hlength
  obtain ⟨hdata, heq⟩ := sized_prefixFree _ _ _ _ hp.data_lt hq.data_lt heq
  obtain ⟨hclient, heq⟩ := sized_prefixFree _ _ _ _ hp.client_lt hq.client_lt heq
  obtain ⟨hsig, hxy⟩ := sized_prefixFree _ _ _ _ hp.signature_lt hq.signature_lt heq
  cases p
  cases q
  simp only [PasskeyProof.mk.injEq]
  exact ⟨⟨hkey, horigin, hdata, hclient, hsig⟩, hxy⟩

end CkbProofWire
