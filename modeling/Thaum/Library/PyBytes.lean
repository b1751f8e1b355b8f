import Thaum.Library.PyText

/-!
# Bytes: UTF-8 and base64

`encode("utf-8")` and `decode("utf-8")` are those of the language; the decoder is strict.

`base64.urlsafe_b64decode` is lenient. It skips every ASCII character outside the alphabet,
reads `+` and `/` beside `-` and `_`, and looks at padding only to see where to stop: two
sextets or three and enough padding end the input, whatever follows.
-/

namespace PyBytes

open PyText

/-- A Python `bytes`. -/
abbrev Bytes := List UInt8

/-- `text.encode("utf-8")`. -/
def encodeUtf8 (text : Text) : Bytes := text.flatMap String.utf8EncodeChar

/-- `bytes.decode("utf-8")`, `none` where it raises. -/
def decodeUtf8 (bytes : Bytes) : Option Text := bytes.toByteArray.utf8Decode?.map Array.toList

/-- An ASCII character. -/
def isAscii (c : Char) : Bool := decide (c.toNat < 128)

/-- The sextet of a character of the alphabet, or of its URL-safe variant. -/
def sextet (c : Char) : Option Nat :=
  if c.isUpper then some (c.toNat - 65)
  else if c.isLower then some (c.toNat - 71)
  else if c.isDigit then some (c.toNat + 4)
  else if c = '+' ∨ c = '-' then some 62
  else if c = '/' ∨ c = '_' then some 63
  else none

/-- The URL-safe character of a sextet. -/
def letter (n : Nat) : Char :=
  if n < 26 then Char.ofNat (n + 65)
  else if n < 52 then Char.ofNat (n + 71)
  else if n < 62 then Char.ofNat (n - 4)
  else if n = 62 then '-'
  else '_'

/-- `base64.urlsafe_b64encode`, as text. -/
def urlsafeB64encode : Bytes → Text
  | [] => []
  | [a] => [letter (a.toNat / 4), letter (a.toNat % 4 * 16), '=', '=']
  | [a, b] =>
    [letter (a.toNat / 4), letter (a.toNat % 4 * 16 + b.toNat / 16),
      letter (b.toNat % 16 * 4), '=']
  | a :: b :: c :: rest =>
    letter (a.toNat / 4) :: letter (a.toNat % 4 * 16 + b.toNat / 16) ::
      letter (b.toNat % 16 * 4 + c.toNat / 64) :: letter (c.toNat % 64) ::
        urlsafeB64encode rest

/-- `binascii.a2b_base64` from within a quad: how many of its sextets have been read, the
bits of them that are not yet in a byte, and the padding seen since. -/
def a2bBase64 (quadPos leftchar pads : Nat) : Text → Option Bytes
  | [] => if quadPos = 0 then some [] else none
  | c :: rest =>
    if c = '=' then
      if quadPos < 2 then a2bBase64 quadPos leftchar pads rest
      else if quadPos + (pads + 1) ≥ 4 then some []
      else a2bBase64 quadPos leftchar (pads + 1) rest
    else
      match sextet c, quadPos with
      | none, _ => a2bBase64 quadPos leftchar pads rest
      | some s, 0 => a2bBase64 1 s 0 rest
      | some s, 1 =>
        (a2bBase64 2 (s % 16) 0 rest).map (UInt8.ofNat (leftchar * 4 + s / 16) :: ·)
      | some s, 2 =>
        (a2bBase64 3 (s % 4) 0 rest).map (UInt8.ofNat (leftchar * 16 + s / 4) :: ·)
      | some s, _ => (a2bBase64 0 0 0 rest).map (UInt8.ofNat (leftchar * 64 + s) :: ·)

/-- `base64.urlsafe_b64decode`, `none` where it raises. -/
def urlsafeB64decode (s : Text) : Option Bytes :=
  if s.all isAscii = true then a2bBase64 0 0 0 s else none

/-- `"=" * (-len(s) % 4)`. -/
def padding (s : Text) : Text := List.replicate ((4 - s.length % 4) % 4) '='

/-- `urlsafe_b64encode(…).rstrip("=")`. -/
def b64urlNopad (bytes : Bytes) : Text := (urlsafeB64encode bytes).rdropWhile (· == '=')

section Utf8

variable {text : Text} {bytes : Bytes}

/-- A text is read back from its bytes. -/
theorem decodeUtf8_encodeUtf8 (text : Text) : decodeUtf8 (encodeUtf8 text) = some text := by
  have decoded := List.utf8Decode?_utf8Encode (l := text)
  change (encodeUtf8 text).toByteArray.utf8Decode? = some text.toArray at decoded
  rw [decodeUtf8, decoded, Option.map_some, List.toList_toArray]

/-- Different texts have different bytes, as each is read back from its own. -/
theorem encodeUtf8_inj {other : Text} (same : encodeUtf8 text = encodeUtf8 other) :
    text = other := by
  have decoded := decodeUtf8_encodeUtf8 text
  rw [same, decodeUtf8_encodeUtf8] at decoded
  exact (Option.some.inj decoded).symm

/-- The character in front is decoded, and then the rest. The induction of the codec goes character
by character through it. -/
theorem decodeUtf8_append (c : Char) (bytes : Bytes) :
    decodeUtf8 (encodeUtf8 [c] ++ bytes) = (decodeUtf8 bytes).map (c :: ·) := by
  have decoded := ByteArray.utf8Decode?_utf8Encode_singleton_append (c := c)
    (l := bytes.toByteArray)
  have joined : [c].utf8Encode ++ bytes.toByteArray = (encodeUtf8 [c] ++ bytes).toByteArray :=
    (List.toByteArray_append ..).symm
  rw [joined] at decoded
  rw [decodeUtf8, decoded, decodeUtf8, Option.map_map, Option.map_map]
  congr 1
  funext chars
  simp

end Utf8

section Base64

/-- A sextet is read back from its character. -/
theorem sextet_letter {n : Nat} (small : n < 64) : sextet (letter n) = some n := by
  have each : ∀ n < 64, sextet (letter n) = some n := by decide
  exact each n small

/-- The character of a sextet is an ASCII character that is neither padding nor a blank. -/
theorem letter_plain {n : Nat} (small : n < 64) :
    letter n ≠ '=' ∧ isAscii (letter n) = true ∧ isSpace (letter n) = false := by
  have each : ∀ n < 64,
      letter n ≠ '=' ∧ isAscii (letter n) = true ∧ isSpace (letter n) = false := by decide
  exact each n small

variable {n leftchar pads : Nat} {rest : Text}

/-- The first sextet of a quad is kept until the second one comes. -/
theorem a2bBase64_first (small : n < 64) :
    a2bBase64 0 leftchar pads (letter n :: rest) = a2bBase64 1 n 0 rest := by
  simp only [a2bBase64, if_neg (letter_plain small).1, sextet_letter small]

/-- The second sextet of a quad completes its first byte, and four of its bits are kept. -/
theorem a2bBase64_second (small : n < 64) :
    a2bBase64 1 leftchar pads (letter n :: rest) =
      (a2bBase64 2 (n % 16) 0 rest).map (UInt8.ofNat (leftchar * 4 + n / 16) :: ·) := by
  simp only [a2bBase64, if_neg (letter_plain small).1, sextet_letter small]

/-- The third sextet of a quad completes its second byte, and two of its bits are kept. -/
theorem a2bBase64_third (small : n < 64) :
    a2bBase64 2 leftchar pads (letter n :: rest) =
      (a2bBase64 3 (n % 4) 0 rest).map (UInt8.ofNat (leftchar * 16 + n / 4) :: ·) := by
  simp only [a2bBase64, if_neg (letter_plain small).1, sextet_letter small]

/-- The last sextet of a quad completes its third byte, and the next quad starts afresh. -/
theorem a2bBase64_fourth (small : n < 64) :
    a2bBase64 3 leftchar pads (letter n :: rest) =
      (a2bBase64 0 0 0 rest).map (UInt8.ofNat (leftchar * 64 + n) :: ·) := by
  simp only [a2bBase64, if_neg (letter_plain small).1, sextet_letter small]

/-- The bits of a byte, put together again, are the byte. -/
theorem ofNat_bits {a : UInt8} {bits : Nat} (same : bits = a.toNat) : UInt8.ofNat bits = a := by
  rw [same, UInt8.ofNat_toNat]

/-- Bytes are read back from their characters. The induction takes three bytes at a time, and
padding completes a quad with fewer. -/
theorem a2bBase64_encode (bytes : Bytes) :
    a2bBase64 0 leftchar pads (urlsafeB64encode bytes) = some bytes := by
  induction bytes using urlsafeB64encode.induct generalizing leftchar pads with
  | case1 => rfl
  | case2 a =>
    have bound := a.toNat_lt
    rw [urlsafeB64encode, a2bBase64_first (by omega), a2bBase64_second (by omega)]
    have stops : a2bBase64 2 (a.toNat % 4 * 16 % 16) 0 ['=', '='] = some [] := rfl
    rw [stops, ofNat_bits (a := a) (by omega)]
    rfl
  | case3 a b =>
    have bound := a.toNat_lt
    have bound' := b.toNat_lt
    rw [urlsafeB64encode, a2bBase64_first (by omega), a2bBase64_second (by omega),
      a2bBase64_third (by omega)]
    have stops : a2bBase64 3 (b.toNat % 16 * 4 % 4) 0 ['='] = some [] := rfl
    rw [stops, ofNat_bits (a := a) (by omega), ofNat_bits (a := b) (by omega)]
    rfl
  | case4 a b c rest inductionHypothesis =>
    have bound := a.toNat_lt
    have bound' := b.toNat_lt
    have bound'' := c.toNat_lt
    rw [urlsafeB64encode, a2bBase64_first (by omega), a2bBase64_second (by omega),
      a2bBase64_third (by omega), a2bBase64_fourth (by omega), inductionHypothesis,
      ofNat_bits (a := a) (by omega), ofNat_bits (a := b) (by omega),
      ofNat_bits (a := c) (by omega)]
    rfl

/-- The characters in front of the padding are none of it, and it completes the last quad. How much
padding there is depends on their number only. -/
theorem urlsafeB64encode_split (bytes : Bytes) :
    ∃ front, urlsafeB64encode bytes = front ++ padding front ∧
      ∀ c ∈ front, c ≠ '=' ∧ isAscii c = true ∧ isSpace c = false := by
  induction bytes using urlsafeB64encode.induct with
  | case1 => exact ⟨[], rfl, by simp⟩
  | case2 a =>
    have bound := a.toNat_lt
    refine ⟨[letter (a.toNat / 4), letter (a.toNat % 4 * 16)], rfl, ?_⟩
    have first : a.toNat / 4 < 64 := by omega
    have second : a.toNat % 4 * 16 < 64 := by omega
    simpa using ⟨letter_plain first, letter_plain second⟩
  | case3 a b =>
    have bound := a.toNat_lt
    have bound' := b.toNat_lt
    refine ⟨[letter (a.toNat / 4), letter (a.toNat % 4 * 16 + b.toNat / 16),
      letter (b.toNat % 16 * 4)], rfl, ?_⟩
    have first : a.toNat / 4 < 64 := by omega
    have second : a.toNat % 4 * 16 + b.toNat / 16 < 64 := by omega
    have third : b.toNat % 16 * 4 < 64 := by omega
    simpa using ⟨letter_plain first, letter_plain second, letter_plain third⟩
  | case4 a b c rest inductionHypothesis =>
    obtain ⟨front, isSplit, plain⟩ := inductionHypothesis
    have bound := a.toNat_lt
    have bound' := b.toNat_lt
    have bound'' := c.toNat_lt
    refine ⟨letter (a.toNat / 4) :: letter (a.toNat % 4 * 16 + b.toNat / 16) ::
      letter (b.toNat % 16 * 4 + c.toNat / 64) :: letter (c.toNat % 64) :: front, ?_, ?_⟩
    · rw [urlsafeB64encode, isSplit, padding, padding]
      have sameLength : (4 - (front.length + 4) % 4) % 4 = (4 - front.length % 4) % 4 := by omega
      simp [sameLength]
    · have first : a.toNat / 4 < 64 := by omega
      have second : a.toNat % 4 * 16 + b.toNat / 16 < 64 := by omega
      have third : b.toNat % 16 * 4 + c.toNat / 64 < 64 := by omega
      have fourth : c.toNat % 64 < 64 := by omega
      intro d listed
      simp only [List.mem_cons] at listed
      rcases listed with rfl | rfl | rfl | rfl | listed
      · exact letter_plain first
      · exact letter_plain second
      · exact letter_plain third
      · exact letter_plain fourth
      · exact plain d listed

/-- What is left without the padding, and that the padding can be put back from its length alone, as
the decoders of the tokens do. -/
theorem b64urlNopad_split (bytes : Bytes) :
    urlsafeB64encode bytes = b64urlNopad bytes ++ padding (b64urlNopad bytes) ∧
      ∀ c ∈ b64urlNopad bytes, c ≠ '=' ∧ isAscii c = true ∧ isSpace c = false := by
  obtain ⟨front, isSplit, plain⟩ := urlsafeB64encode_split bytes
  have stripped : b64urlNopad bytes = front := by
    have padded : ∀ c ∈ (padding front).reverse, (c == '=') = true := by
      intro c listed
      rw [List.mem_reverse, padding] at listed
      simp [List.eq_of_mem_replicate listed]
    rw [b64urlNopad, isSplit, List.rdropWhile, List.reverse_append,
      List.dropWhile_append_of_pos padded]
    change front.rdropWhile _ = front
    rw [List.rdropWhile_eq_self_iff]
    intro nonempty
    simpa using (plain _ (List.getLast_mem nonempty)).1
  rw [stripped]
  exact ⟨isSplit, plain⟩

/-- Decoding gives back the bytes once the padding is put back. -/
theorem urlsafeB64decode_nopad (bytes : Bytes) :
    urlsafeB64decode (b64urlNopad bytes ++ padding (b64urlNopad bytes)) = some bytes := by
  obtain ⟨isSplit, plain⟩ := b64urlNopad_split bytes
  have ascii : (b64urlNopad bytes ++ padding (b64urlNopad bytes)).all isAscii = true := by
    rw [List.all_append, Bool.and_eq_true, List.all_eq_true, List.all_eq_true]
    constructor
    · intro c listed
      exact (plain c listed).2.1
    · intro c listed
      rw [padding] at listed
      rw [List.eq_of_mem_replicate listed]
      rfl
  rw [urlsafeB64decode, if_pos ascii, ← isSplit]
  exact a2bBase64_encode bytes

end Base64

end PyBytes
