import Thaum.Admin.GeneratedConfig
import Thaum.Admin.PowershellClient
import Thaum.Webhooks.BearerDecision

/-!
# Tokens from the generators

Two scripts issue bearer tokens, one in Python and one in PowerShell. Each takes the days
until the token expires, or `never`, and the days of warning, draws a key, and prints the
record of the token and the header line that presents it. What is printed goes into the
setting of an alert plugin, and the line to the sender of the status webhooks.

A plugin decides on a presented token by what it was made of and by its expiry time, however
the token is presented and whichever script issued either one.
-/

namespace Thaum.Webhooks

open PyText PyBytes JsonText PyNumbers

/-- `_parse_expire`, `none` where it raises. -/
def parseExpire (value : Text) : Option (Option Int) :=
  let v := lower (strip value)
  if v = "never".toList then some none
  else (intOfStr (ofText v)).bind fun n => if n < 0 then none else some (some n)

variable (python : Interpreter)

/-- `main` of the Python script with its options, `none` where it prints nothing. -/
def generatorMain (expire warnDays : Text) (iat : Int) (tokenBytes : Bytes) :
    Option (Text × Text) := do
  let days ← parseExpire expire
  let warn ← intOfStr (ofText warnDays)
  (generateWebhookBearerToken python iat days warn tokenBytes).toOption

namespace Powershell

open AdminLogLevel.Powershell (trim sameLetters toInt)

/-- What the script has from .NET: `ToLowerInvariant`, `[int]::TryParse` and the text of a
double with an integer in it. -/
structure DotNet where
  toLowerInvariant : Text → Text
  tryParse : Text → Option Int
  doubleText : Int → Text

/-- An `[int]` has 32 bits, and a double of less than 16 digits is written out. -/
structure DotNet.Documented (net : DotNet) : Prop where
  tryParse : ∀ s n, net.tryParse s = some n → toInt n = some n
  doubleText : ∀ n, n.natAbs < 10 ^ 15 → net.doubleText n = intText n

/-- The characters of `[Convert]::ToBase64String`. -/
def standardLetter (c : Char) : Char := if c = '-' then '+' else if c = '_' then '/' else c

/-- `[Convert]::ToBase64String`. -/
def toBase64String (bytes : Bytes) : Text := (urlsafeB64encode bytes).map standardLetter

/-- `Replace` of a character by another. -/
def replace (old new : Char) (s : Text) : Text := s.map fun c => if c = old then new else c

/-- `B64Url-NoPad`. -/
def b64UrlNoPad (bytes : Bytes) : Text :=
  replace '/' '_' (replace '+' '-' ((toBase64String bytes).rdropWhile (· == '=')))

variable (net : DotNet)

/-- `Parse-ExpireDays`, `none` where it throws. -/
def parseExpireDays (value : Text) : Option (Option Int) :=
  let v := net.toLowerInvariant (trim value)
  if sameLetters v "never".toList then some none
  else (net.tryParse v).bind fun n => if n < 0 then none else some (some n)

/-- The text of `$iat + ($expDays * 86400)`. A product or a sum that has no 32 bits is a
double. -/
def expJson (iat expDays : Int) : Text :=
  match (toInt (expDays * 86400)).bind fun product => toInt (iat + product) with
  | some exp => intText exp
  | none => net.doubleText (iat + expDays * 86400)

/-- What the script writes, `none` where it throws. -/
def scriptOutput (expire : Text) (warnDays epoch : Int) (keyBytes : Bytes) :
    Option (Text × Text) := do
  let warnDays ← toInt warnDays
  let iat ← toInt epoch
  let expDays ← parseExpireDays net expire
  let canonical :=
    "\x7b\"exp\":".toList ++ expDays.elim "null".toList (expJson net iat) ++
      ",\"iat\":".toList ++ intText iat ++ ",\"key\":\"".toList ++ b64UrlNoPad keyBytes ++
      "\",\"warn\":".toList ++ intText warnDays ++ "\x7d".toList
  some (canonical, "Authorization: Bearer ".toList ++ b64UrlNoPad (encodeUtf8 canonical))

end Powershell

/-- What a token is made of. -/
structure Draw where
  exp : Option Int
  iat : Int
  warn : Int
  tokenBytes : Bytes
deriving DecidableEq

/-- The expiry time of a token for some days. -/
def expiry (iat : Int) (days : Option Int) : Option Int := days.map fun days => iat + days * 86400

/-- A script printed the token and the header line. -/
inductive Issued (net : Powershell.DotNet) : Draw → Text → Text → Prop where
  | byPython {expire warnDays printed line : Text} {days : Option Int} {warn iat : Int}
      {tokenBytes : Bytes} (sixteen : tokenBytes.length = 16)
      (isDays : parseExpire expire = some days) (isWarn : intOfStr (ofText warnDays) = some warn)
      (prints : generatorMain python expire warnDays iat tokenBytes = some (printed, line)) :
      Issued net ⟨expiry iat days, iat, warn, tokenBytes⟩ printed line
  | byPowershell {expire printed line : Text} {days : Option Int} {warn iat : Int}
      {tokenBytes : Bytes} (sixteen : tokenBytes.length = 16)
      (isDays : Powershell.parseExpireDays net expire = some days)
      (writes : Powershell.scriptOutput net expire warn iat tokenBytes = some (printed, line)) :
      Issued net ⟨expiry iat days, iat, warn, tokenBytes⟩ printed line

/-- The token has no expiry time, or the clock is not past it. -/
def Draw.Lasts (draw : Draw) (now : Rat) : Prop := ∀ n ∈ draw.exp, now ≤ n

instance (draw : Draw) (now : Rat) : Decidable (draw.Lasts now) :=
  inferInstanceAs (Decidable (∀ n ∈ draw.exp, now ≤ n))

/-- The token expires in a year that dates have, and its days of warning are a float. -/
structure Draw.Datable (draw : Draw) : Prop where
  isDate : ∀ n ∈ draw.exp, firstSecond ≤ n ∧ (n : Rat) < endSecond
  days : draw.warn.natAbs ≤ 2 ^ 53

/-- `_validate_static_webhook_bearer`: no secret leaves the webhook open. -/
def validateStaticWebhookBearer (authorizationHeaderValue : Option Text)
    (configuredSecret : Text) (now nowLater : Rat) : Except DecisionError Bool :=
  if configuredSecret = [] then .ok true
  else validateWebhookBearer python authorizationHeaderValue configuredSecret now nowLater

/-- The two tokens as a plugin and a sender have them: the header line presents the sent one,
and however it is presented, the plugin takes it exactly where it was made of the same things
as the configured one and lasts. Tokens made of the same things are the same texts. -/
structure DecidedByDraw (configured sent : Draw) (secret secretLine printed line : Text) :
    Prop where
  presented : ∃ value, line = "Authorization: ".toList ++ value ∧
    Presents (encodeUtf8 printed) printed value
  decided : ∀ value now nowLater, Presents (encodeUtf8 printed) printed value →
    validateStaticWebhookBearer python (some value) secret now nowLater =
      .ok (decide (sent = configured ∧ configured.Lasts now))
  sameText : sent = configured → printed = secret ∧ line = secretLine

section Letters

open AdminLogLevel (idChar idChar_small urlsafeB64encode_ids)

variable {c : Char} {s : Text}

/-- A character of a key stands for itself in a JSON text. -/
theorem escape_id (isId : idChar c = true) :
    (unitsOf (ofChar c)).flatMap escapeUnit = [c] := by
  have each : ∀ n < 128, idChar (Char.ofNat n) = true →
      (unitsOf (ofChar (Char.ofNat n))).flatMap escapeUnit = [Char.ofNat n] := by
    decide
  have small := idChar_small isId
  rw [← Char.ofNat_toNat c] at isId ⊢
  exact each c.toNat small isId

/-- So a key is dumped between quotes as it is. -/
theorem dumpsStr_ids (ids : ∀ c ∈ s, idChar c = true) :
    dumpsStr (ofText s) = '"' :: s ++ ['"'] := by
  have escaped : (units (ofText s)).flatMap escapeUnit = s := by
    induction s with
    | nil => rfl
    | cons c s inductionHypothesis =>
      obtain ⟨first, others⟩ := List.forall_mem_cons.mp ids
      rw [ofText, List.map_cons, units, List.flatMap_cons, List.flatMap_append, escape_id first]
      exact congrArg (c :: ·) (inductionHypothesis others)
  rw [dumpsStr, escaped]

/-- The letters of base64url are such characters. -/
theorem b64urlNopad_ids (bytes : Bytes) : ∀ c ∈ b64urlNopad bytes, idChar c = true := by
  intro c listed
  have unpadded := ((b64urlNopad_split bytes).2 c listed).1
  have encoded : c ∈ urlsafeB64encode bytes := (List.rdropWhile_prefix _ _).subset listed
  exact (urlsafeB64encode_ids bytes c encoded).resolve_right unpadded

/-- Bytes are their letters, so keys of different bytes differ. -/
theorem b64urlNopad_inj {bytes others : Bytes} (same : b64urlNopad bytes = b64urlNopad others) :
    bytes = others := by
  have read := urlsafeB64decode_nopad bytes
  rw [same, urlsafeB64decode_nopad] at read
  exact (Option.some.inj read).symm

namespace Powershell

/-- The letters of .NET are made those of Python by the two replacements. -/
theorem replaced_letter (isId : idChar c = true) :
    (if (if standardLetter c = '+' then '-' else standardLetter c) = '/' then '_'
      else if standardLetter c = '+' then '-' else standardLetter c) = c := by
  have each : ∀ n < 128, idChar (Char.ofNat n) = true →
      (if (if standardLetter (Char.ofNat n) = '+' then '-' else standardLetter (Char.ofNat n)) =
        '/' then '_'
        else if standardLetter (Char.ofNat n) = '+' then '-'
        else standardLetter (Char.ofNat n)) = Char.ofNat n := by
    decide
  have small := idChar_small isId
  rw [← Char.ofNat_toNat c] at isId ⊢
  exact each c.toNat small isId

/-- The padding is the same character in both alphabets. -/
theorem standardLetter_pad (c : Char) : (standardLetter c == '=') = (c == '=') := by
  rw [standardLetter]
  split
  · rename_i isDash
    rw [isDash]
    rfl
  · split
    · rename_i isLine
      rw [isLine]
      rfl
    · rfl

/-- Both scripts write bytes with the same letters. -/
theorem b64UrlNoPad_eq (bytes : Bytes) : b64UrlNoPad bytes = b64urlNopad bytes := by
  have unpadded : (toBase64String bytes).rdropWhile (· == '=') =
      (b64urlNopad bytes).map standardLetter := by
    have samePads : ((· == '=') ∘ standardLetter) = (· == '=') := funext standardLetter_pad
    rw [toBase64String, b64urlNopad, List.rdropWhile, List.rdropWhile, ← List.map_reverse,
      List.dropWhile_map, samePads, List.map_reverse]
  rw [b64UrlNoPad, unpadded, replace, replace, List.map_map, List.map_map]
  refine (List.map_congr_left fun c listed => ?_).trans (List.map_id _)
  exact replaced_letter (b64urlNopad_ids bytes c listed)

end Powershell

end Letters

/-- The printed texts are those of the record. -/
structure Draw.Printed (draw : Draw) (printed line : Text) : Prop where
  keyed : draw.tokenBytes ≠ []
  isRecord : ∃ expText iatText warnText, expDigits draw.exp = some expText ∧
    dumpsInt draw.iat = some iatText ∧ dumpsInt draw.warn = some warnText ∧
    printed = recordText expText iatText (ofText (b64urlNopad draw.tokenBytes)) warnText
  isLine : line = "Authorization: Bearer ".toList ++ b64urlNopad (encodeUtf8 printed)

section Scripts

variable {python : Interpreter} {net : Powershell.DotNet} {exp : Option Int} {iat warn : Int}
  {key : Text} {c tokenBytes : Bytes} {expText iatText warnText printed line expire : Text}
  {days : Option Int}

/-- The record of a key as a text, with the key as it is. -/
theorem recordText_ids (ids : ∀ c ∈ key, AdminLogLevel.idChar c = true) :
    recordText expText iatText (ofText key) warnText =
      "\x7b\"exp\":".toList ++ expText ++ ",\"iat\":".toList ++ iatText ++
        ",\"key\":\"".toList ++ key ++ "\",\"warn\":".toList ++ warnText ++ "\x7d".toList := by
  have names : dumpsStr (ofText "exp".toList) = "\"exp\"".toList ∧
      dumpsStr (ofText "iat".toList) = "\"iat\"".toList ∧
      dumpsStr (ofText "key".toList) = "\"key\"".toList ∧
      dumpsStr (ofText "warn".toList) = "\"warn\"".toList := by
    decide
  obtain ⟨isExp, isIat, isKey, isWarn⟩ := names
  simp only [recordText, dumpsObj, List.map_cons, List.map_nil, dumpsMember, isExp, isIat, isKey,
    isWarn, dumpsStr_ids ids]
  simp [joinItems]

/-- The payload of the Python script is dumped as it is. -/
theorem canonical_payload
    (isCanonical :
      canonicalAlertBearerBytes python (readFields exp iat (ofText key) warn) = .ok c) :
    key ≠ [] ∧ dumpRecord exp iat (ofText key) warn = .ok c := by
  have expRead : bearerExp (exp.elim .null .int) = .ok exp := by
    cases exp with
    | none => rfl
    | some n => rfl
  have hasIat : field "iat" (readFields exp iat (ofText key) warn) = some (.int iat) := rfl
  have hasExp : field "exp" (readFields exp iat (ofText key) warn) =
      some (exp.elim .null .int) := rfl
  have hasWarn : field "warn" (readFields exp iat (ofText key) warn) = some (.int warn) := rfl
  have hasKey : field "key" (readFields exp iat (ofText key) warn) = some (.str (ofText key)) := by
    have read : field "key" (readFields exp iat (ofText key) warn) =
        some (.str (joinSurrogates (units (ofText key)))) := rfl
    rwa [joinSurrogates_text] at read
  rw [canonicalAlertBearerBytes, hasIat, hasExp, hasWarn, hasKey] at isCanonical
  dsimp only at isCanonical
  rw [expRead] at isCanonical
  change (if ofText key = [] then Except.error BearerError.valueError
    else dumpRecord exp iat (ofText key) warn) = _ at isCanonical
  split at isCanonical
  · cases isCanonical
  · rename_i keyed
    refine ⟨?_, isCanonical⟩
    rintro rfl
    exact keyed rfl

/-- What the Python script prints is the record of its draw. -/
theorem python_printed
    (isGenerated : generateWebhookBearerToken python iat days warn tokenBytes =
      .ok (printed, line)) :
    Draw.Printed ⟨expiry iat days, iat, warn, tokenBytes⟩ printed line := by
  obtain ⟨c, isCanonical, isGenerated⟩ := bearerBind_ok isGenerated
  have payload :
      [(ofText "exp".toList, days.elim Value.null fun days => .int (iat + days * 86400)),
        (ofText "iat".toList, .int iat),
        (ofText "key".toList, .str (ofText (b64urlNopad tokenBytes))),
        (ofText "warn".toList, .int warn)] =
      readFields (expiry iat days) iat (ofText (b64urlNopad tokenBytes)) warn := by
    rw [readFields, joinSurrogates_text]
    cases days with
    | none => rfl
    | some days => rfl
  rw [payload] at isCanonical
  obtain ⟨keyed, isDumped⟩ := canonical_payload isCanonical
  obtain ⟨expText, iatText, warnText, isExp, isIat, isWarn, rfl⟩ := dumpRecord_iff.mp isDumped
  rw [decodeUtf8_encodeUtf8] at isGenerated
  cases isGenerated
  refine ⟨?_, ⟨expText, iatText, warnText, isExp, isIat, isWarn, rfl⟩, rfl⟩
  intro nothing
  apply keyed
  change tokenBytes = [] at nothing
  rw [nothing]
  rfl

/-- An integer of less than 16 digits is dumped with them. -/
theorem intText_short {n : Int} (short : n.natAbs < 10 ^ 15) : dumpsInt n = some (intText n) :=
  dumpsInt_short (Nat.lt_of_lt_of_le short (Nat.pow_le_pow_right (by decide) (by decide)))

namespace Powershell

open AdminLogLevel.Powershell (toInt)

/-- A value that is cast to `[int]` is in its range and stays what it is. -/
theorem toInt_some {n m : Int} (isInt : toInt n = some m) :
    m = n ∧ -2147483648 ≤ n ∧ n ≤ 2147483647 := by
  rw [toInt] at isInt
  split at isInt
  · rename_i fits
    exact ⟨(Option.some.inj isInt).symm, fits⟩
  · cases isInt

/-- The days of a token are few enough for 32 bits, and not negative. -/
theorem parseExpireDays_bound (documented : net.Documented)
    (isDays : parseExpireDays net expire = some days) :
    ∀ n ∈ days, 0 ≤ n ∧ n ≤ 2147483647 := by
  unfold parseExpireDays at isDays
  dsimp only at isDays
  split at isDays
  · cases isDays
    exact fun n impossible => nomatch impossible
  · obtain ⟨n, parsed, isDays⟩ := Option.bind_eq_some_iff.mp isDays
    split at isDays
    · cases isDays
    · rename_i unsigned
      cases isDays
      rintro m isDays
      cases isDays
      have fits := toInt_some (documented.tryParse _ _ parsed)
      omega

/-- The script writes an expiry time with its digits, as an integer or as a double: the largest has
less than 16 of them. -/
theorem expJson_digits (documented : net.Documented) {iat expDays : Int}
    (fits : -2147483648 ≤ iat ∧ iat ≤ 2147483647) (bound : 0 ≤ expDays ∧ expDays ≤ 2147483647) :
    dumpsInt (iat + expDays * 86400) = some (expJson net iat expDays) := by
  have short : (iat + expDays * 86400).natAbs < 10 ^ 15 := by omega
  rw [intText_short short, expJson]
  split
  · rename_i exp isInt
    obtain ⟨product, isProduct, isSum⟩ := Option.bind_eq_some_iff.mp isInt
    rw [(toInt_some isSum).1, (toInt_some isProduct).1]
  · rw [documented.doubleText _ short]

/-- What the PowerShell script writes is the record of its draw. -/
theorem script_printed (documented : net.Documented) (sixteen : tokenBytes.length = 16)
    (isDays : parseExpireDays net expire = some days)
    (writes : scriptOutput net expire warn iat tokenBytes = some (printed, line)) :
    Draw.Printed ⟨expiry iat days, iat, warn, tokenBytes⟩ printed line := by
  obtain ⟨warnDays, isWarn, afterWarn⟩ := Option.bind_eq_some_iff.mp writes
  obtain ⟨epoch, isIat, afterIat⟩ := Option.bind_eq_some_iff.mp afterWarn
  obtain ⟨expDays, isDays', written⟩ := Option.bind_eq_some_iff.mp afterIat
  cases isDays.symm.trans isDays'
  obtain ⟨rfl, warnFits⟩ := toInt_some isWarn
  obtain ⟨rfl, iatFits⟩ := toInt_some isIat
  have bound := parseExpireDays_bound documented isDays
  have isExp : expDigits (expiry epoch days) =
      some (days.elim "null".toList (expJson net epoch)) := by
    cases days with
    | none => rfl
    | some n => exact expJson_digits documented iatFits (bound n rfl)
  have iatShort : epoch.natAbs < 10 ^ 15 := by omega
  have warnShort : warnDays.natAbs < 10 ^ 15 := by omega
  simp only [b64UrlNoPad_eq] at written
  cases written
  refine ⟨?_, ⟨_, _, _, isExp, intText_short iatShort, intText_short warnShort, ?_⟩, rfl⟩
  · intro nothing
    change tokenBytes = [] at nothing
    rw [nothing] at sixteen
    cases sixteen
  · exact (recordText_ids (b64urlNopad_ids tokenBytes)).symm

end Powershell

/-- Whichever script issued a token, its texts are those of the record. -/
theorem Issued.texts (documented : net.Documented) {draw : Draw}
    (issued : Issued python net draw printed line) : draw.Printed printed line := by
  cases issued with
  | byPython sixteen isDays isWarn prints =>
    obtain ⟨days', isDays', afterDays⟩ := Option.bind_eq_some_iff.mp prints
    obtain ⟨warn', isWarn', generated⟩ := Option.bind_eq_some_iff.mp afterDays
    cases isDays.symm.trans isDays'
    cases isWarn.symm.trans isWarn'
    apply @python_printed python
    revert generated
    cases generateWebhookBearerToken python _ _ _ _ with
    | error raised => exact fun impossible => nomatch impossible
    | ok texts => exact fun isOk => congrArg Except.ok (Option.some.inj isOk)
  | byPowershell sixteen isDays writes =>
    exact Powershell.script_printed documented sixteen isDays writes

end Scripts

section Decision

variable {python : Interpreter} {net : Powershell.DotNet} {draw other configured sent : Draw}
  {text printed line secret secretLine value : Text} {now nowLater : Rat}

/-- A text is the characters of its string. -/
theorem ofText_inj {s t : Text} (same : ofText s = ofText t) : s = t := by
  have read := toText?_ofText s
  rw [same, toText?_ofText] at read
  exact (Option.some.inj read).symm

/-- A text is printed for one draw: the decoder reads the numbers and the key off it. -/
theorem Draw.Printed.unique (python : Interpreter) (texts : draw.Printed text line)
    (others : other.Printed text secretLine) : draw = other := by
  obtain ⟨expText, iatText, warnText, isExp, isIat, isWarn, isText⟩ := texts.isRecord
  obtain ⟨expText', iatText', warnText', isExp', isIat', isWarn', isText'⟩ := others.isRecord
  have loaded := @bearerLoads_record python _ _ _ (ofText (b64urlNopad draw.tokenBytes)) _ _ _
    isExp isIat isWarn
  rw [← isText, isText', bearerLoads_record isExp' isIat' isWarn'] at loaded
  have fields := Value.obj.inj (Except.ok.inj loaded)
  have sameExp : draw.exp = other.exp :=
    records_unique python ⟨_, _, _, dumpRecord_iff.mpr ⟨_, _, _, isExp, isIat, isWarn, rfl⟩⟩
      ⟨_, _, _, dumpRecord_iff.mpr ⟨_, _, _, isExp', isIat', isWarn',
        congrArg encodeUtf8 (isText.symm.trans isText')⟩⟩
  have sameIat : some (Value.int other.iat) = some (Value.int draw.iat) :=
    congrArg (field "iat") fields
  have sameWarn : some (Value.int other.warn) = some (Value.int draw.warn) :=
    congrArg (field "warn") fields
  have sameKey : some (Value.str (joinSurrogates (units (ofText (b64urlNopad other.tokenBytes)))))
      = some (Value.str (joinSurrogates (units (ofText (b64urlNopad draw.tokenBytes))))) :=
    congrArg (field "key") fields
  rw [joinSurrogates_text, joinSurrogates_text] at sameKey
  have sameBytes := b64urlNopad_inj (ofText_inj (Value.str.inj (Option.some.inj sameKey)))
  cases draw
  cases other
  rw [Draw.mk.injEq]
  exact ⟨sameExp, (Value.int.inj (Option.some.inj sameIat)).symm,
    (Value.int.inj (Option.some.inj sameWarn)).symm, sameBytes.symm⟩

/-- One draw is printed as one text, by either script. -/
theorem Draw.Printed.sameText (texts : draw.Printed printed line)
    (others : draw.Printed secret secretLine) : printed = secret ∧ line = secretLine := by
  obtain ⟨expText, iatText, warnText, isExp, isIat, isWarn, rfl⟩ := texts.isRecord
  obtain ⟨expText', iatText', warnText', isExp', isIat', isWarn', rfl⟩ := others.isRecord
  cases isExp.symm.trans isExp'
  cases isIat.symm.trans isIat'
  cases isWarn.symm.trans isWarn'
  exact ⟨rfl, texts.isLine.trans others.isLine.symm⟩

/-- The expiry time of a record is decided with the clock. -/
theorem decideExpiry_record (datable : draw.Datable) (key : PyStr) :
    decideExpiry (readFields draw.exp draw.iat key draw.warn) now nowLater =
      .ok (decide (draw.Lasts now)) := by
  cases isExp : draw.exp with
  | none =>
    have lasts : draw.Lasts now := by
      rw [Draw.Lasts, isExp]
      exact fun n impossible => nomatch impossible
    rw [decide_eq_true lasts]
    rfl
  | some n =>
    have lasts : draw.Lasts now ↔ now ≤ n := by
      rw [Draw.Lasts, isExp]
      exact ⟨fun each => each n rfl, fun inTime m isSome => Option.some.inj isSome ▸ inTime⟩
    have hasWarn : ∃ given,
        field "warn" (readFields (some n) draw.iat key draw.warn) = some given ∧
          pyInt given = .ok draw.warn := ⟨.int draw.warn, rfl, rfl⟩
    have decides : ∃ admitted,
        decideExpiry (readFields (some n) draw.iat key draw.warn) now nowLater = .ok admitted ∧
          (admitted = true ↔ now ≤ n) :=
      (decideExpiry_iff rfl (by simp) hasWarn).mpr
        (tractable_date (datable.isDate n isExp) datable.days)
    obtain ⟨admitted, decided, right⟩ := decides
    rw [decided]
    apply congrArg Except.ok
    rw [Bool.eq_iff_iff, decide_eq_true_eq, lasts]
    exact right

/-- A printed text is parsed to the fields of its record, however it is presented, and is taken as
it is from the configuration. -/
theorem Draw.Printed.read (python : Interpreter) (texts : draw.Printed printed line) :
    ∃ key, (∀ value, Presents (encodeUtf8 printed) printed value →
      parseIncomingBearerPayload python value =
        .ok (readFields draw.exp draw.iat key draw.warn, encodeUtf8 printed)) ∧
      normalizeExpectedSecretToCanonicalBytes python printed = .ok (encodeUtf8 printed) := by
  have keyed : ofText (b64urlNopad draw.tokenBytes) ≠ [] := by
    intro nothing
    exact b64urlNopad_ne_nil texts.keyed (List.map_eq_nil_iff.mp nothing)
  obtain ⟨expText, iatText, warnText, isExp, isIat, isWarn, rfl⟩ := texts.isRecord
  exact ⟨_, fun value presents => parse_record keyed isExp isIat isWarn presents,
    normalize_record keyed isExp isIat isWarn⟩

/-- A presented token is decided by what it was made of. -/
theorem decided_by_draw (datable : configured.Datable)
    (isSecret : configured.Printed secret secretLine) (texts : sent.Printed printed line)
    (presents : Presents (encodeUtf8 printed) printed value) :
    validateStaticWebhookBearer python (some value) secret now nowLater =
      .ok (decide (sent = configured ∧ configured.Lasts now)) := by
  obtain ⟨key, parsed, _⟩ := texts.read python
  obtain ⟨_, _, expected⟩ := isSecret.read python
  have isParsed := parsed value presents
  have secured : secret ≠ [] := by
    obtain ⟨_, _, _, _, _, _, rfl⟩ := isSecret.isRecord
    exact plainForm_record.nonempty
  have present : value ≠ [] := by
    rintro rfl
    obtain ⟨raised, isRaised⟩ := @parse_nil python
    rw [isRaised] at isParsed
    cases isParsed
  rw [validateStaticWebhookBearer, if_neg secured]
  cases value with
  | nil => exact absurd rfl present
  | cons first others =>
    rw [validateWebhookBearer, isParsed]
    · dsimp only
      rw [expected]
      dsimp only
      by_cases same : sent = configured
      · subst same
        rw [if_pos (congrArg encodeUtf8 (texts.sameText isSecret).1), decideExpiry_record datable]
        simp
      · have otherText : encodeUtf8 printed ≠ encodeUtf8 secret := by
          intro sameBytes
          cases encodeUtf8_inj sameBytes
          exact same (texts.unique python isSecret)
        rw [if_neg otherText]
        simp [same]
    · exact present

/-- A plugin decides on the tokens of the generators by what they were made of: it takes a presented
one exactly where it is made of the same expiry time, time of issue, days of warning and key as the
configured one, and lasts.

Proof: whichever script issued a token, its texts are those of the record it was made of, and the
decoder reads that record off every way to present it. Two records have the same text exactly where
they were made of the same things, and of the configured one the expiry time is compared with the
clock, since a datable one goes through the conversions unchanged. -/
theorem issued_tokens_decided (documented : net.Documented) (datable : configured.Datable)
    (isConfigured : Issued python net configured secret secretLine)
    (isSent : Issued python net sent printed line) :
    DecidedByDraw python configured sent secret secretLine printed line := by
  have isSecret := isConfigured.texts documented
  have texts := isSent.texts documented
  constructor
  · refine ⟨"Bearer ".toList ++ b64urlNopad (encodeUtf8 printed), texts.isLine, ?_⟩
    exact ⟨"Bearer ".toList, _, rfl, Or.inr (by decide), Or.inl rfl⟩
  · intro value now nowLater presents
    exact decided_by_draw datable isSecret texts presents
  · rintro rfl
    exact texts.sameText isSecret

end Decision

section Example

namespace Powershell

/-- A .NET that lowers ASCII letters and reads the integers that Python reads. -/
def exampleNet : DotNet where
  toLowerInvariant s := s.map Char.toLower
  tryParse s := (intOfStr (ofText s)).bind AdminLogLevel.Powershell.toInt
  doubleText := intText

/-- It has 32 bits and writes doubles out, as documented. -/
theorem exampleNet_documented : exampleNet.Documented where
  tryParse := by
    intro s n parsed
    obtain ⟨m, _, isInt⟩ := Option.bind_eq_some_iff.mp parsed
    rw [(toInt_some isInt).1]
    rwa [(toInt_some isInt).1] at isInt
  doubleText := fun _ _ => rfl

end Powershell

/-- Sixteen equal bytes. -/
def exampleBytes (b : UInt8) : Bytes := List.replicate 16 b

/-- A token for half a year from late 2023. -/
def exampleDraw (b : UInt8) : Draw := ⟨some 1715552000, 1700000000, 30, exampleBytes b⟩

/-- The record of that token. -/
def examplePrinted (b : UInt8) : Text :=
  recordText "1715552000".toList "1700000000".toList (ofText (b64urlNopad (exampleBytes b)))
    "30".toList

/-- The header line of that token. -/
def exampleLine (b : UInt8) : Text :=
  "Authorization: Bearer ".toList ++ b64urlNopad (encodeUtf8 (examplePrinted b))

/-- The Python script prints it, in half a year of days. -/
theorem example_by_python :
    Issued examplePython Powershell.exampleNet (exampleDraw 1) (examplePrinted 1)
      (exampleLine 1) := by
  have sixteen : (exampleBytes 1).length = 16 := List.length_replicate
  have isDays : parseExpire " 180 ".toList = some (some 180) := by decide
  have isWarn : intOfStr (ofText "30".toList) = some 30 := by decide
  have prints : generatorMain examplePython " 180 ".toList "30".toList 1700000000
      (exampleBytes 1) = some (examplePrinted 1, exampleLine 1) := by decide +kernel
  exact Issued.byPython sixteen isDays isWarn prints

/-- The PowerShell script writes it as well, and one with another key. -/
theorem example_by_powershell (b : UInt8) (isOne : b = 1 ∨ b = 2) :
    Issued examplePython Powershell.exampleNet (exampleDraw b) (examplePrinted b)
      (exampleLine b) := by
  have sixteen : (exampleBytes b).length = 16 := List.length_replicate
  have isDays : Powershell.parseExpireDays Powershell.exampleNet "180".toList =
      some (some 180) := by decide
  have writes : Powershell.scriptOutput Powershell.exampleNet "180".toList 30 1700000000
      (exampleBytes b) = some (examplePrinted b, exampleLine b) := by
    rcases isOne with rfl | rfl
    · decide +kernel
    · decide +kernel
  exact Issued.byPowershell sixteen isDays writes

/-- It expires in 2024. -/
theorem exampleDraw_datable (b : UInt8) : (exampleDraw b).Datable where
  isDate := by
    rintro n isExp
    cases isExp
    rw [firstSecond, endSecond]
    norm_num
  days := (by decide : (30 : Int).natAbs ≤ 2 ^ 53)

/-- The token of one script is taken where the other one's is configured, until it expires, and a
token with another key is not. -/
theorem example_tokens_decided :
    DecidedByDraw examplePython (exampleDraw 1) (exampleDraw 1) (examplePrinted 1)
        (exampleLine 1) (examplePrinted 1) (exampleLine 1) ∧
      DecidedByDraw examplePython (exampleDraw 1) (exampleDraw 2) (examplePrinted 1)
        (exampleLine 1) (examplePrinted 2) (exampleLine 2) ∧
      (exampleDraw 1).Lasts 1715552000 ∧ ¬ (exampleDraw 1).Lasts 1715552001 ∧
      exampleDraw 2 ≠ exampleDraw 1 :=
  ⟨issued_tokens_decided Powershell.exampleNet_documented (exampleDraw_datable 1)
      example_by_python (example_by_powershell 1 (Or.inl rfl)),
    issued_tokens_decided Powershell.exampleNet_documented (exampleDraw_datable 1)
      example_by_python (example_by_powershell 2 (Or.inr rfl)),
    by decide +kernel, by decide +kernel, by decide⟩

end Example

end Thaum.Webhooks
