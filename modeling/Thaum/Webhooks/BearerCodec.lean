import Thaum.Library.PyBytes
import Thaum.Library.PyNumbers

/-!
# Webhook bearer tokens and their canonical form

A bearer token is a JSON object with `exp`, `iat`, `key` and `warn`. It is compared in its
canonical form, with the numbers as integers, the names in order and no blanks. A header
holds it in base64url without padding, or as it is, with `Bearer` in front or without; the
decoder tries base64 first, which skips foreign characters, and then the text itself.
-/

namespace Thaum.Webhooks

open PyText PyBytes JsonText PyNumbers

/-- What the functions below raise. Errors of base64 and of UTF-8 are kinds of `ValueError`. -/
inductive BearerError where
  | jsonDecodeError | valueError | typeError | overflowError | recursionError
deriving DecidableEq

/-- What an error of the decoder is here. -/
def BearerError.ofLoad : LoadError → BearerError
  | .decodeError => .jsonDecodeError
  | .tooManyDigits => .valueError
  | .tooDeep => .recursionError

/-- What an error of a number's conversion is here. -/
def BearerError.ofNumber : NumberError → BearerError
  | .typeError => .typeError
  | .valueError => .valueError
  | .overflowError => .overflowError

/-- How deep the decoder of the interpreter can nest, and its text of floats, lists and
dictionaries. -/
structure Interpreter where
  nesting : Nat
  nests : 0 < nesting
  rendering : Value → PyStr

/-- A decoded JSON object. -/
abbrev Fields := List (PyStr × Value)

/-- `d[name]`. -/
def field (name : String) (d : Fields) : Option Value := lookup (ofText name.toList) d

/-- `int(value)`. -/
def bearerInt (given : Value) : Except BearerError Int := (pyInt given).mapError .ofNumber

/-- The expiry time, or none. -/
def bearerExp : Value → Except BearerError (Option Int)
  | .null => .ok none
  | given => (bearerInt given).map some

/-- `json.dumps` of a number. -/
def bearerDigits (n : Int) : Except BearerError Text :=
  (dumpsInt n).elim (.error .valueError) .ok

/-- The record as it is dumped, its names in order. -/
def recordText (exp iat : Text) (key : PyStr) (warn : Text) : Text :=
  dumpsObj []
    [(ofText "exp".toList, exp), (ofText "iat".toList, iat), (ofText "key".toList, dumpsStr key),
      (ofText "warn".toList, warn)]

/-- `json.dumps` of the record, encoded. -/
def dumpRecord (exp : Option Int) (iat : Int) (key : PyStr) (warn : Int) :
    Except BearerError Bytes := do
  let expText ← exp.elim (.ok "null".toList) bearerDigits
  let iatText ← bearerDigits iat
  let warnText ← bearerDigits warn
  pure (encodeUtf8 (recordText expText iatText key warnText))

variable (python : Interpreter)

/-- `canonical_alert_bearer_bytes`. -/
def canonicalAlertBearerBytes (d : Fields) : Except BearerError Bytes :=
  match field "iat" d, field "exp" d, field "warn" d, field "key" d with
  | some givenIat, some givenExp, some givenWarn, some givenKey => do
    let iat ← bearerInt givenIat
    let exp ← bearerExp givenExp
    let warn ← bearerInt givenWarn
    let key ← (pyStr python.rendering givenKey).mapError .ofNumber
    if key = [] then .error .valueError else dumpRecord exp iat key warn
  | _, _, _, _ => .error .valueError

/-- `_strip_bearer_prefix`. -/
def stripBearerPrefix (headerValue : Text) : Text :=
  let v := strip headerValue
  if startsWith (lower v) "bearer ".toList then strip (v.drop 7) else v

/-- `json.loads(text)`. -/
def bearerLoads (text : Text) : Except BearerError Value :=
  (loads python.nesting text).mapError .ofLoad

/-- The first attempt of `_try_decode_bearer_blob`. -/
def decodeBase64 (blob : Text) : Except BearerError Value :=
  match (urlsafeB64decode (blob ++ padding blob)).bind decodeUtf8 with
  | none => .error .valueError
  | some text => bearerLoads python text

/-- The errors after which the text itself is decoded. -/
def BearerError.isCaught : BearerError → Bool
  | .jsonDecodeError | .valueError | .typeError => true
  | .overflowError | .recursionError => false

/-- The value of a blob: what base64 makes of it, or else what it says itself. -/
def decodeBlob (blob : Text) : Except BearerError Value :=
  match decodeBase64 python blob with
  | .ok obj => .ok obj
  | .error raised => if raised.isCaught then bearerLoads python blob else .error raised

/-- `_try_decode_bearer_blob`. -/
def tryDecodeBearerBlob (given : Text) : Except BearerError (Fields × Bytes) := do
  let blob := strip given
  match ← decodeBlob python blob with
  | .obj d => (canonicalAlertBearerBytes python d).map fun canonical => (d, canonical)
  | _ => .error .valueError

/-- `parse_incoming_bearer_payload`. -/
def parseIncomingBearerPayload (headerValue : Text) : Except BearerError (Fields × Bytes) :=
  tryDecodeBearerBlob python (stripBearerPrefix headerValue)

/-- `normalize_expected_secret_to_canonical_bytes`. -/
def normalizeExpectedSecretToCanonicalBytes (expectedSecret : Text) : Except BearerError Bytes :=
  let raw := strip expectedSecret
  if raw = [] then .error .valueError
  else
    match bearerLoads python raw with
    | .error .jsonDecodeError => .ok (encodeUtf8 raw)
    | .error raised => .error raised
    | .ok (.obj d) => canonicalAlertBearerBytes python d
    | .ok _ => .error .valueError

/-- What `generate_webhook_bearer_token` prints: the record, and the header line. -/
def generateWebhookBearerToken (iat : Int) (expireDays : Option Int) (warnDays : Int)
    (tokenBytes : Bytes) : Except BearerError (Text × Text) := do
  let exp := expireDays.elim Value.null fun days => .int (iat + days * 86400)
  let payload : Fields :=
    [(ofText "exp".toList, exp), (ofText "iat".toList, .int iat),
      (ofText "key".toList, .str (ofText (b64urlNopad tokenBytes))),
      (ofText "warn".toList, .int warnDays)]
  let canonical ← canonicalAlertBearerBytes python payload
  match decodeUtf8 canonical with
  | none => .error .valueError
  | some printed =>
    pure (printed, "Authorization: Bearer ".toList ++ b64urlNopad canonical)

section Canonical

variable {python : Interpreter} {d : Fields} {c : Bytes} {expText iatText warnText : Text}
  {key : PyStr}

/-- A sequence that raises nothing has raised nothing in either of its parts. -/
theorem bearerBind_ok {α β : Type} {first : Except BearerError α} {next : α → Except BearerError β}
    {result : β} (isOk : first >>= next = .ok result) :
    ∃ a, first = .ok a ∧ next a = .ok result := by
  cases first with
  | error raised => exact nomatch isOk
  | ok a => exact ⟨a, rfl, isOk⟩

/-- A number is dumped where it has no more digits than the interpreter allows. -/
theorem bearerDigits_iff {n : Int} {text : Text} :
    bearerDigits n = .ok text ↔ dumpsInt n = some text := by
  rw [bearerDigits]
  cases written : dumpsInt n with
  | none => exact ⟨fun isOk => (nomatch isOk), fun isSome => (nomatch isSome)⟩
  | some digits =>
    constructor
    · intro isOk
      exact congrArg some (Except.ok.inj isOk)
    · intro isSome
      exact congrArg Except.ok (Option.some.inj isSome)

/-- The text of an expiry time. -/
def expDigits (exp : Option Int) : Option Text := exp.elim (some "null".toList) dumpsInt

/-- An expiry time is dumped as `null` or as its digits. -/
theorem expDigits_iff {exp : Option Int} :
    exp.elim (.ok "null".toList) bearerDigits = .ok expText ↔ expDigits exp = some expText := by
  cases exp with
  | none =>
    constructor
    · intro isOk
      exact congrArg some (Except.ok.inj isOk)
    · intro isSome
      exact congrArg Except.ok (Option.some.inj isSome)
  | some n => exact bearerDigits_iff

/-- The record is dumped where each of its numbers is, and its text is made of theirs. -/
theorem dumpRecord_iff {exp : Option Int} {iat warn : Int} :
    dumpRecord exp iat key warn = .ok c ↔
      ∃ expText iatText warnText, expDigits exp = some expText ∧ dumpsInt iat = some iatText ∧
        dumpsInt warn = some warnText ∧
          c = encodeUtf8 (recordText expText iatText key warnText) := by
  constructor
  · intro isDumped
    obtain ⟨expText, isExp, isDumped⟩ := bearerBind_ok isDumped
    obtain ⟨iatText, isIat, isDumped⟩ := bearerBind_ok isDumped
    obtain ⟨warnText, isWarn, isDumped⟩ := bearerBind_ok isDumped
    exact ⟨expText, iatText, warnText, expDigits_iff.mp isExp, bearerDigits_iff.mp isIat,
      bearerDigits_iff.mp isWarn, (Except.ok.inj isDumped).symm⟩
  · rintro ⟨expText, iatText, warnText, isExp, isIat, isWarn, rfl⟩
    rw [dumpRecord, expDigits_iff.mpr isExp, bearerDigits_iff.mpr isIat,
      bearerDigits_iff.mpr isWarn]
    rfl

/-- The record of a dictionary: its numbers as integers, and its key as a string. -/
structure HasRecord (d : Fields) (c : Bytes) (exp : Option Int) (iat : Int) (key : PyStr)
    (warn : Int) : Prop where
  isExp : ∃ given, field "exp" d = some given ∧ bearerExp given = .ok exp
  isWarn : ∃ given, field "warn" d = some given ∧ bearerInt given = .ok warn
  nonempty : key ≠ []
  isDumped : dumpRecord exp iat key warn = .ok c

/-- The canonical form is the text of a record, whatever object it is made of. -/
theorem canonical_record (isCanonical : canonicalAlertBearerBytes python d = .ok c) :
    ∃ exp iat key warn, HasRecord d c exp iat key warn := by
  rw [canonicalAlertBearerBytes] at isCanonical
  split at isCanonical
  · rename_i givenIat givenExp givenWarn givenKey _ hasExp hasWarn _
    obtain ⟨iat, _, isCanonical⟩ := bearerBind_ok isCanonical
    obtain ⟨exp, isExp, isCanonical⟩ := bearerBind_ok isCanonical
    obtain ⟨warn, isWarn, isCanonical⟩ := bearerBind_ok isCanonical
    obtain ⟨key, _, isCanonical⟩ := bearerBind_ok isCanonical
    split at isCanonical
    · exact nomatch isCanonical
    · rename_i nonempty
      exact ⟨exp, iat, key, warn, ⟨givenExp, hasExp, isExp⟩, ⟨givenWarn, hasWarn, isWarn⟩,
        nonempty, isCanonical⟩
  · exact nomatch isCanonical

/-- The fields that are read from the text of a record. -/
def readFields (exp : Option Int) (iat : Int) (key : PyStr) (warn : Int) : Fields :=
  [(ofText "exp".toList, exp.elim .null .int), (ofText "iat".toList, .int iat),
    (ofText "key".toList, .str (joinSurrogates (units key))), (ofText "warn".toList, .int warn)]

variable {exp : Option Int} {iat warn : Int}

/-- The text of an expiry time is read back as null or as the integer. -/
theorem written_exp {depth : Nat} (isExp : expDigits exp = some expText) :
    Written (scanValue depth) expText (exp.elim .null .int) := by
  cases exp with
  | none =>
    cases isExp
    exact written_null
  | some n => exact written_int isExp

/-- The text of a record is read as its fields, in the order of their names. -/
theorem bearerLoads_record (isExp : expDigits exp = some expText)
    (isIat : dumpsInt iat = some iatText) (isWarn : dumpsInt warn = some warnText) :
    bearerLoads python (recordText expText iatText key warnText) =
      .ok (.obj (readFields exp iat key warn)) := by
  obtain ⟨depth, isDepth⟩ : ∃ depth, python.nesting = depth + 1 :=
    ⟨python.nesting - 1, by have := python.nests; omega⟩
  have read := loads_obj [] depth (by simp)
    [(ofText "exp".toList, expText, exp.elim .null .int),
      (ofText "iat".toList, iatText, .int iat),
      (ofText "key".toList, dumpsStr key, .str (joinSurrogates (units key))),
      (ofText "warn".toList, warnText, .int warn)]
    (List.cons_ne_nil _ _)
    (by
      simp only [List.forall_mem_cons]
      exact ⟨written_exp isExp, written_int isIat, written_str key, written_int isWarn,
        by simp⟩)
  rw [bearerLoads, isDepth]
  exact congrArg (Except.mapError BearerError.ofLoad) read

/-- Joining surrogates leaves no string empty that was not. -/
theorem joinSurrogates_ne_nil {us : List CodePoint} (some : us ≠ []) : joinSurrogates us ≠ [] := by
  rw [joinSurrogates.eq_def]
  split
  · split
    · exact List.cons_ne_nil _ _
    · exact List.cons_ne_nil _ _
  · exact some

/-- So a key that is not empty is read as one that is not. -/
theorem readKey_ne_nil (nonempty : key ≠ []) : joinSurrogates (units key) ≠ [] := by
  apply joinSurrogates_ne_nil
  cases key with
  | nil => exact absurd rfl nonempty
  | cons p key =>
    rw [units, List.flatMap_cons, unitsOf]
    split
    · exact List.cons_ne_nil _ _
    · exact List.cons_ne_nil _ _

/-- The canonical form of what is read is the canonical form again: integers stay integers, and the
key is escaped the same way. -/
theorem canonical_readFields (nonempty : key ≠ [])
    (isDumped : dumpRecord exp iat key warn = .ok c) :
    canonicalAlertBearerBytes python (readFields exp iat key warn) = .ok c := by
  have expRead : bearerExp (exp.elim .null .int) = .ok exp := by
    cases exp with
    | none => rfl
    | some n => rfl
  have sameRecord : dumpRecord exp iat (joinSurrogates (units key)) warn = .ok c := by
    obtain ⟨expText, iatText, warnText, isExp, isIat, isWarn, isText⟩ :=
      dumpRecord_iff.mp isDumped
    refine dumpRecord_iff.mpr ⟨expText, iatText, warnText, isExp, isIat, isWarn, ?_⟩
    rw [isText, recordText, recordText, dumpsStr_read]
  have hasIat : field "iat" (readFields exp iat key warn) = some (.int iat) := rfl
  have hasExp : field "exp" (readFields exp iat key warn) = some (exp.elim .null .int) := rfl
  have hasWarn : field "warn" (readFields exp iat key warn) = some (.int warn) := rfl
  have hasKey : field "key" (readFields exp iat key warn) =
      some (.str (joinSurrogates (units key))) := rfl
  rw [canonicalAlertBearerBytes, hasIat, hasExp, hasWarn, hasKey]
  dsimp only
  rw [expRead]
  change (if joinSurrogates (units key) = [] then Except.error BearerError.valueError
    else dumpRecord exp iat (joinSurrogates (units key)) warn) = _
  rw [if_neg (readKey_ne_nil nonempty), sameRecord]

end Canonical

section Forms

variable {python : Interpreter} {text form spelled : Text} {bytes c : Bytes}

/-- Two ASCII bytes in front are decoded as their characters. -/
theorem decodeUtf8_ascii (bytes : Bytes) :
    decodeUtf8 (0x7b :: 0x1a :: bytes) =
      (decodeUtf8 bytes).map fun text => '{' :: '\x1a' :: text := by
  have first := decodeUtf8_append '{' (0x1a :: bytes)
  have second := decodeUtf8_append '\x1a' bytes
  change decodeUtf8 (0x7b :: 0x1a :: bytes) = _ at first
  change decodeUtf8 (0x1a :: bytes) = _ at second
  rw [first, second, Option.map_map]
  rfl

/-- The letters of `exp`, read as sextets, are a brace and a control character. The decoder skips
the other characters in front. -/
theorem decode_exp (more : Text) :
    (urlsafeB64decode ("\x7b\"exp\":".toList ++ more)).elim True fun bytes =>
      ∃ rest, bytes = 0x7b :: 0x1a :: rest := by
  rw [urlsafeB64decode]
  split
  · have read : a2bBase64 0 0 0 ("\x7b\"exp\":".toList ++ more) =
        (a2bBase64 3 1 0 more).map fun rest => 0x7b :: 0x1a :: rest := by
      change ((a2bBase64 3 1 0 more).map _).map _ = _
      rw [Option.map_map]
      rfl
    rw [read]
    cases a2bBase64 3 1 0 more with
    | none => trivial
    | some rest => exact ⟨rest, rfl⟩
  · trivial

/-- No JSON text starts with a brace and a control character. -/
theorem bearerLoads_control (text : Text) :
    bearerLoads python ('{' :: '\x1a' :: text) = .error .jsonDecodeError := by
  obtain ⟨depth, isDepth⟩ : ∃ depth, python.nesting = depth + 1 :=
    ⟨python.nesting - 1, by have := python.nests; omega⟩
  rw [bearerLoads, isDepth]
  rfl

/-- A text that starts like a record is nothing that base64 captures: it is refused there with an
error that is caught, and decoded as it is. -/
theorem decodeBase64_record (more : Text) :
    ∃ raised, decodeBase64 python ("\x7b\"exp\":".toList ++ more) = .error raised ∧
      raised.isCaught = true := by
  have captured := decode_exp (more ++ padding ("\x7b\"exp\":".toList ++ more))
  rw [← List.append_assoc] at captured
  rw [decodeBase64]
  cases decoded : urlsafeB64decode
      ("\x7b\"exp\":".toList ++ more ++ padding ("\x7b\"exp\":".toList ++ more)) with
  | none => exact ⟨.valueError, rfl, rfl⟩
  | some bytes =>
    rw [decoded] at captured
    obtain ⟨rest, rfl⟩ := captured
    rw [Option.bind_some, decodeUtf8_ascii]
    cases decodeUtf8 rest with
    | none => exact ⟨.valueError, rfl, rfl⟩
    | some text => exact ⟨.jsonDecodeError, bearerLoads_control text, rfl⟩

/-- A header value that the prefix is not stripped from. -/
structure PlainForm (form : Text) : Prop where
  trimmed : Trimmed form
  nonempty : form ≠ []
  unprefixed : startsWith (lower form) "bearer ".toList = false

/-- Nothing is stripped from such a value. -/
theorem stripBearerPrefix_plain (plain : PlainForm form) : stripBearerPrefix form = form := by
  have kept : strip form = form := plain.trimmed
  rw [stripBearerPrefix, kept]
  rw [plain.unprefixed, if_neg Bool.false_ne_true]

/-- `Bearer` and a blank in front are stripped, in any case of the letters. -/
theorem stripBearerPrefix_prefixed (plain : PlainForm form)
    (isPrefix : SpelledAs "bearer ".toList spelled) :
    stripBearerPrefix (spelled ++ form) = form := by
  have lowered : lower spelled = "bearer ".toList := lower_spelled isPrefix (by decide)
  have long : spelled.length = 7 := by
    have same := congrArg List.length isPrefix
    simpa using same
  have kept : strip (spelled ++ form) = spelled ++ form := by
    apply trimmed_of_ends
    · intro c isFirst
      cases spelled with
      | nil => exact absurd long (by decide)
      | cons d spelled =>
        have same : d = c := by simpa using isFirst
        have letter : d.toLower = 'b' := (List.cons.inj isPrefix).1
        rw [← same, ← isSpace_toLower, letter]
        rfl
    · intro c isLast
      rw [List.getLast?_append_of_ne_nil _ plain.nonempty] at isLast
      have back := (strip_ends form).2
      rw [show strip form = form from plain.trimmed] at back
      exact back c isLast
  have starts : startsWith (lower (spelled ++ form)) "bearer ".toList = true := by
    rw [lower, List.flatMap_append, ← lower, lowered, startsWith, List.isPrefixOf_iff_prefix]
    exact List.prefix_append _ _
  rw [stripBearerPrefix, kept]
  rw [starts, if_pos rfl, List.drop_append_of_le_length (by omega), ← long, List.drop_length,
    List.nil_append]
  exact plain.trimmed

/-- A text without blanks starts with no prefix. -/
theorem plainForm_solid (nonempty : form ≠ []) (solid : ∀ c ∈ form, isSpace c = false) :
    PlainForm form := by
  constructor
  · apply trimmed_of_ends
    · intro c isFirst
      exact solid c (List.mem_of_mem_head? isFirst)
    · intro c isLast
      exact solid c (List.mem_of_mem_getLast? isLast)
  · exact nonempty
  · rw [Bool.eq_false_iff]
    intro starts
    rw [startsWith, List.isPrefixOf_iff_prefix] at starts
    have blank : ' ' ∈ lower form := starts.subset (by decide)
    obtain ⟨c, listed, lowered⟩ := List.mem_flatMap.mp blank
    have visible := ((lowerChar_blank c).2 (solid c listed)).2 ' ' lowered
    exact absurd visible (by decide)

/-- Bytes that are some have a letter. -/
theorem b64urlNopad_ne_nil (some : bytes ≠ []) : b64urlNopad bytes ≠ [] := by
  intro nothing
  have read := urlsafeB64decode_nopad bytes
  rw [nothing] at read
  exact some (Option.some.inj read).symm

/-- The letters of base64 have no blank, so nothing is stripped from them. -/
theorem plainForm_base64 (some : bytes ≠ []) : PlainForm (b64urlNopad bytes) :=
  plainForm_solid (b64urlNopad_ne_nil some) fun c listed =>
    ((b64urlNopad_split bytes).2 c listed).2.2

variable {expText iatText warnText : Text} {key : PyStr}

/-- The text of a record starts with the name `exp` and ends with a brace. -/
theorem recordText_starts :
    ∃ more, recordText expText iatText key warnText = "\x7b\"exp\":".toList ++ more ∧
      more.getLast? = some '}' := by
  refine ⟨_, rfl, ?_⟩
  exact List.getLast?_concat

/-- Nor is anything stripped from the text of a record. -/
theorem plainForm_record : PlainForm (recordText expText iatText key warnText) := by
  obtain ⟨more, isText, ends⟩ := @recordText_starts expText iatText warnText key
  rw [isText]
  constructor
  · apply trimmed_of_ends
    · intro c isFirst
      cases isFirst
      rfl
    · intro c isLast
      rw [List.getLast?_append, ends] at isLast
      cases isLast
      rfl
  · exact List.cons_ne_nil _ _
  · rfl

end Forms

section Agreement

variable {python : Interpreter} {d : Fields} {c : Bytes} {blob : Text} {obj : Fields}

/-- What a header value is parsed to, once its blob is decoded. -/
theorem parse_decoded {headerValue : Text} (stripped : stripBearerPrefix headerValue = blob)
    (plain : PlainForm blob) (decoded : decodeBlob python blob = .ok (.obj obj))
    (isCanonical : canonicalAlertBearerBytes python obj = .ok c) :
    parseIncomingBearerPayload python headerValue = .ok (obj, c) := by
  have kept : strip blob = blob := plain.trimmed
  rw [parseIncomingBearerPayload, stripped, tryDecodeBearerBlob, kept]
  rw [decoded]
  change (canonicalAlertBearerBytes python obj).map _ = _
  rw [isCanonical]
  rfl

/-- The header value is one of the canonical form: in base64 or as it is, with the prefix in
any case of its letters or without it. -/
def Presents (c : Bytes) (printed headerValue : Text) : Prop :=
  ∃ spelled form, headerValue = spelled ++ form ∧
    (spelled = [] ∨ SpelledAs "bearer ".toList spelled) ∧
      (form = b64urlNopad c ∨ form = printed)

/-- Every reading of a canonical form has that canonical form. -/
structure CodecAgrees (python : Interpreter) (c : Bytes) (printed : Text) : Prop where
  isPrinted : decodeUtf8 c = some printed
  incoming : ∀ headerValue, Presents c printed headerValue →
    ∃ parsed, parseIncomingBearerPayload python headerValue = .ok (parsed, c)
  expected : normalizeExpectedSecretToCanonicalBytes python printed = .ok c
  uncaptured : ∃ raised, decodeBase64 python printed = .error raised ∧ raised.isCaught = true

variable {exp : Option Int} {iat warn : Int} {key : PyStr} {expText iatText warnText : Text}

/-- The text of a record as it is decoded: base64 does not capture it. -/
theorem decodeBlob_record (isExp : expDigits exp = some expText)
    (isIat : dumpsInt iat = some iatText) (isWarn : dumpsInt warn = some warnText) :
    (∃ raised, decodeBase64 python (recordText expText iatText key warnText) = .error raised ∧
      raised.isCaught = true) ∧
    decodeBlob python (recordText expText iatText key warnText) =
      .ok (.obj (readFields exp iat key warn)) := by
  have uncaptured : ∃ raised,
      decodeBase64 python (recordText expText iatText key warnText) = .error raised ∧
        raised.isCaught = true := by
    obtain ⟨more, isMore, _⟩ := @recordText_starts expText iatText warnText key
    rw [isMore]
    exact decodeBase64_record more
  refine ⟨uncaptured, ?_⟩
  obtain ⟨raised, isRaised, isCaught⟩ := uncaptured
  rw [decodeBlob, isRaised]
  dsimp only
  rw [if_pos isCaught, bearerLoads_record isExp isIat isWarn]

/-- Every form of a record is parsed to its fields, in base64 or as it is, with the prefix or
without. -/
theorem parse_record (nonempty : key ≠ []) (isExp : expDigits exp = some expText)
    (isIat : dumpsInt iat = some iatText) (isWarn : dumpsInt warn = some warnText)
    {headerValue : Text}
    (presents : Presents (encodeUtf8 (recordText expText iatText key warnText))
      (recordText expText iatText key warnText) headerValue) :
    parseIncomingBearerPayload python headerValue =
      .ok (readFields exp iat key warn,
        encodeUtf8 (recordText expText iatText key warnText)) := by
  have isDumped : dumpRecord exp iat key warn =
      .ok (encodeUtf8 (recordText expText iatText key warnText)) :=
    dumpRecord_iff.mpr ⟨expText, iatText, warnText, isExp, isIat, isWarn, rfl⟩
  have plainText : PlainForm (recordText expText iatText key warnText) := plainForm_record
  have someBytes : encodeUtf8 (recordText expText iatText key warnText) ≠ [] := by
    intro nothing
    exact plainText.nonempty (encodeUtf8_inj nothing)
  have decodedBase64 : decodeBlob python
      (b64urlNopad (encodeUtf8 (recordText expText iatText key warnText))) =
        .ok (.obj (readFields exp iat key warn)) := by
    rw [decodeBlob, decodeBase64, urlsafeB64decode_nopad, Option.bind_some,
      decodeUtf8_encodeUtf8]
    dsimp only
    rw [bearerLoads_record isExp isIat isWarn]
  obtain ⟨spelled, form, rfl, isPrefix, isForm⟩ := presents
  have read : PlainForm form ∧
      decodeBlob python form = .ok (.obj (readFields exp iat key warn)) := by
    rcases isForm with rfl | rfl
    · exact ⟨plainForm_base64 someBytes, decodedBase64⟩
    · exact ⟨plainText, (decodeBlob_record isExp isIat isWarn).2⟩
  have stripped : stripBearerPrefix (spelled ++ form) = form := by
    rcases isPrefix with rfl | isPrefix
    · exact stripBearerPrefix_plain read.1
    · exact stripBearerPrefix_prefixed read.1 isPrefix
  exact parse_decoded stripped read.1 read.2 (canonical_readFields nonempty isDumped)

/-- The text of a record is taken in its canonical form from the configuration. -/
theorem normalize_record (nonempty : key ≠ []) (isExp : expDigits exp = some expText)
    (isIat : dumpsInt iat = some iatText) (isWarn : dumpsInt warn = some warnText) :
    normalizeExpectedSecretToCanonicalBytes python (recordText expText iatText key warnText) =
      .ok (encodeUtf8 (recordText expText iatText key warnText)) := by
  have plainText : PlainForm (recordText expText iatText key warnText) := plainForm_record
  have kept : strip (recordText expText iatText key warnText) =
      recordText expText iatText key warnText := plainText.trimmed
  rw [normalizeExpectedSecretToCanonicalBytes, kept, if_neg plainText.nonempty,
    bearerLoads_record isExp isIat isWarn]
  exact canonical_readFields nonempty
    (dumpRecord_iff.mpr ⟨expText, iatText, warnText, isExp, isIat, isWarn, rfl⟩)

/-- The canonical form of any record is read back from each of its forms. -/
theorem canonical_agrees (isCanonical : canonicalAlertBearerBytes python d = .ok c) :
    ∃ printed, CodecAgrees python c printed := by
  obtain ⟨exp, iat, key, warn, record⟩ := canonical_record isCanonical
  obtain ⟨expText, iatText, warnText, isExp, isIat, isWarn, rfl⟩ :=
    dumpRecord_iff.mp record.isDumped
  refine ⟨recordText expText iatText key warnText, decodeUtf8_encodeUtf8 _, ?_,
    normalize_record record.nonempty isExp isIat isWarn,
    (decodeBlob_record isExp isIat isWarn).1⟩
  intro headerValue presents
  exact ⟨_, parse_record record.nonempty isExp isIat isWarn presents⟩

/-- The generator prints the canonical form of its record, and a header with it. -/
theorem generated_canonical {iat : Int} {expireDays : Option Int} {warnDays : Int}
    {tokenBytes : Bytes} {printed line : Text}
    (isGenerated : generateWebhookBearerToken python iat expireDays warnDays tokenBytes =
      .ok (printed, line)) :
    ∃ d c, canonicalAlertBearerBytes python d = .ok c ∧ decodeUtf8 c = some printed ∧
      line = "Authorization: Bearer ".toList ++ b64urlNopad c := by
  obtain ⟨c, isCanonical, isGenerated⟩ := bearerBind_ok isGenerated
  refine ⟨_, c, isCanonical, ?_⟩
  split at isGenerated
  · exact nomatch isGenerated
  · rename_i text isText
    cases isGenerated
    exact ⟨isText, rfl⟩

variable (python) in
/-- The canonical form of any record is read back from each of its forms, from a header and from the
configuration, and base64 does not capture its text; the generator prints such a form and such a
header.

Proof: a canonical form is the text of a record. Each of its forms is stripped of the prefix and
decoded to that text, base64 having been ruled out where it is presented as it is, and the text is
read as the fields whose canonical form it is. What the generator prints is such a text. -/
theorem codec_agrees :
    (∀ d c, canonicalAlertBearerBytes python d = .ok c → ∃ printed, CodecAgrees python c printed) ∧
    ∀ iat expireDays warnDays tokenBytes printed line,
      generateWebhookBearerToken python iat expireDays warnDays tokenBytes = .ok (printed, line) →
      ∃ c, CodecAgrees python c printed ∧
        line = "Authorization: Bearer ".toList ++ b64urlNopad c := by
  constructor
  · intro d c isCanonical
    exact canonical_agrees isCanonical
  · intro iat expireDays warnDays tokenBytes printed line isGenerated
    obtain ⟨d, c, isCanonical, isText, isLine⟩ := generated_canonical isGenerated
    obtain ⟨text, agrees⟩ := canonical_agrees isCanonical
    have same : text = printed := Option.some.inj (agrees.isPrinted.symm.trans isText)
    exact ⟨c, same ▸ agrees, isLine⟩

end Agreement

section Example

/-- An interpreter that nests a thousand deep. -/
def examplePython : Interpreter where
  nesting := 1000
  nests := by decide
  rendering _ := []

/-- A record whose numbers are not all integers, and whose key is not ASCII. -/
def exampleRecord : Fields :=
  [(ofText "key".toList, .str (ofText "é\"".toList)), (ofText "exp".toList, .null),
    (ofText "iat".toList, .float (.finite 30)), (ofText "warn".toList, .int 30)]

/-- The text of its record, with integers and with the key escaped. -/
def exampleCanonical : Text :=
  "\x7b\"exp\":null,\"iat\":30,\"key\":\"\\u00e9\\\"\",\"warn\":30\x7d".toList

/-- It is read back from each of its forms, although the record it was made of has a float in it. -/
theorem example_codec_agrees :
    ∃ printed, CodecAgrees examplePython (encodeUtf8 exampleCanonical) printed :=
  (codec_agrees examplePython).1 exampleRecord _ rfl

end Example

end Thaum.Webhooks
