import Thaum.Webhooks.BearerCodec

/-!
# Which bearer tokens are admitted

`validate_webhook_bearer` compares the canonical form of the presented token with that of
the configured one, and then looks at the expiry time of the presented token, which it makes
a float. Within the warning window of a token that has not expired it makes a date of that
float for the log. None of these conversions stands in a `try` block.

Clock readings are in seconds. What the warning writes to the database and to the log has no
part in the decision.
-/

namespace Thaum.Webhooks

open PyText PyBytes JsonText PyNumbers

/-- What a call raises: an error of a number's conversion, or one of `datetime`. -/
inductive DecisionError where
  | ofNumber : NumberError → DecisionError
  | datetimeError : DecisionError
deriving DecidableEq

/-- The first second of the year 1. -/
def firstSecond : Rat := -62135596800

/-- The first second after the year 9999. -/
def endSecond : Rat := 253402300800

/-- `datetime.fromtimestamp(exp_t, tz=timezone.utc)` raises nothing. -/
def isTimestamp : PyJson.Float → Bool
  | .finite q => decide (firstSecond ≤ q ∧ q < endSecond)
  | .infinity _ | .nan => false

/-- The conversion of `_maybe_log_rotation_warning`. -/
def maybeLogRotationWarning (expT : PyJson.Float) : Except DecisionError Unit :=
  if isTimestamp expT then .ok () else .error .datetimeError

/-- `exp_t - warn_days * 86400.0`, with the days as a float. -/
def warnBefore (expT days : PyJson.Float) : PyJson.Float :=
  PyFloat.minus expT (PyFloat.scale days 86400)

/-- The warning of a token that has not expired. -/
def warnOfExpiry (expT : PyJson.Float) (warnDays : Int) (nowLater : Rat) :
    Except DecisionError Unit :=
  if 0 < warnDays then do
    let days ← (pyFloat (.int warnDays)).mapError .ofNumber
    if PyFloat.isAtMost (warnBefore expT days) nowLater then maybeLogRotationWarning expT
    else .ok ()
  else .ok ()

/-- The part of `validate_webhook_bearer` that follows the comparison, with the readings of
the clock for the expiry and for the warning. -/
def decideExpiry (parsed : Fields) (now nowLater : Rat) : Except DecisionError Bool :=
  match field "exp" parsed with
  | none | some .null => .ok true
  | some exp => do
    let expT ← (pyFloat exp).mapError .ofNumber
    if PyFloat.isBelow expT now then .ok false
    else
      let warnDays ← (pyInt ((field "warn" parsed).getD (.int 0))).mapError .ofNumber
      warnOfExpiry expT warnDays nowLater
      .ok true

/-- `validate_webhook_bearer`. -/
def validateWebhookBearer (python : Interpreter) (authorizationHeaderValue : Option Text)
    (expectedSecretText : Text) (now nowLater : Rat) : Except DecisionError Bool :=
  match authorizationHeaderValue with
  | none | some [] => .ok false
  | some headerValue =>
    match parseIncomingBearerPayload python headerValue with
    | .error _ => .ok false
    | .ok (parsed, incoming) =>
      match normalizeExpectedSecretToCanonicalBytes python expectedSecretText with
      | .error _ => .ok false
      | .ok expected => if incoming = expected then decideExpiry parsed now nowLater else .ok false

/-- The canonical form records this expiry time. -/
def Records (c : Bytes) (exp : Option Int) : Prop :=
  ∃ iat key warn, dumpRecord exp iat key warn = .ok c

/-- The presented token is the configured one, which is a JSON object, and is still valid. -/
def Admissible (python : Interpreter) (authorizationHeaderValue : Option Text)
    (expectedSecretText : Text) (now : Rat) : Prop :=
  ∃ d c headerValue parsed exp,
    bearerLoads python (strip expectedSecretText) = .ok (.obj d) ∧
    canonicalAlertBearerBytes python d = .ok c ∧
    authorizationHeaderValue = some headerValue ∧
    parseIncomingBearerPayload python headerValue = .ok (parsed, c) ∧
    Records c exp ∧ ∀ n, exp = some n → now ≤ n

/-- The call returns a truth value, and it is `True` exactly of what is admissible. -/
def DecidesRightly (python : Interpreter) (authorizationHeaderValue : Option Text)
    (expectedSecretText : Text) (now nowLater : Rat) : Prop :=
  ∃ admitted,
    validateWebhookBearer python authorizationHeaderValue expectedSecretText now nowLater =
      .ok admitted ∧
    (admitted = true ↔ Admissible python authorizationHeaderValue expectedSecretText now)

/-- An expiry time, as it was given and as an integer, that the conversions leave alone: it
is a float, and the clock stands on one side of both. Where the token has not expired and its
days of warning are some, they are a float, and within them the expiry time is a date. -/
structure Tractable (exp : Value) (n : Int) (warn : Int) (now nowLater : Rat) : Prop where
  isFloat : ∃ expT, pyFloat exp = .ok expT
  sameSide : ∀ expT, pyFloat exp = .ok expT → (PyFloat.isBelow expT now = true ↔ n < now)
  isDays : ∀ expT, pyFloat exp = .ok expT → PyFloat.isBelow expT now = false → 0 < warn →
    ∃ days, PyFloat.ofInt warn = some days ∧
      (PyFloat.isAtMost (warnBefore expT days) nowLater = true → isTimestamp expT = true)

/-- A presented token that is the configured one has no expiry time, or a tractable one. -/
def TractableToken (python : Interpreter) (authorizationHeaderValue : Option Text)
    (expectedSecretText : Text) (now nowLater : Rat) : Prop :=
  ∀ headerValue parsed c exp n warn,
    authorizationHeaderValue = some headerValue →
    parseIncomingBearerPayload python headerValue = .ok (parsed, c) →
    normalizeExpectedSecretToCanonicalBytes python expectedSecretText = .ok c →
    field "exp" parsed = some exp → bearerExp exp = .ok (some n) →
    (∃ given, field "warn" parsed = some given ∧ pyInt given = .ok warn) →
    Tractable exp n warn now nowLater

section Expiry

variable {parsed : Fields} {exp : Value} {n warn : Int} {now nowLater : Rat}
  {expT : PyJson.Float}

/-- The warning raises nothing: its days are a float, and what it logs is a date. -/
theorem warnOfExpiry_iff : warnOfExpiry expT warn nowLater = .ok () ↔
    (0 < warn → ∃ days, PyFloat.ofInt warn = some days ∧
      (PyFloat.isAtMost (warnBefore expT days) nowLater = true → isTimestamp expT = true)) := by
  rw [warnOfExpiry]
  split
  · rename_i some
    rw [pyFloat]
    cases isDays : PyFloat.ofInt warn with
    | none =>
      constructor
      · intro isOk
        exact nomatch isOk
      · intro claimed
        obtain ⟨_, impossible, _⟩ := claimed some
        exact nomatch impossible
    | some days =>
      change (if PyFloat.isAtMost (warnBefore expT days) nowLater = true then
        maybeLogRotationWarning expT else .ok ()) = _ ↔ _
      rw [maybeLogRotationWarning]
      split
      · rename_i inWindow
        split
        · rename_i isDate
          exact ⟨fun _ _ => ⟨days, rfl, fun _ => isDate⟩, fun _ => rfl⟩
        · rename_i noDate
          constructor
          · intro isOk
            exact nomatch isOk
          · intro claimed
            obtain ⟨_, same, isDate⟩ := claimed some
            cases same
            exact absurd (isDate inWindow) noDate
      · rename_i early
        exact ⟨fun _ _ => ⟨days, rfl, fun inWindow => absurd inWindow early⟩, fun _ => rfl⟩
  · rename_i none
    exact ⟨fun _ some => absurd some none, fun _ => rfl⟩

/-- The decision about an expiry time that is not null, in the order of the code: the conversion,
the comparison with the clock, and then the warning. -/
theorem decideExpiry_given (hasExp : field "exp" parsed = some exp) (present : exp ≠ .null)
    (isWarn : ∃ given, field "warn" parsed = some given ∧ pyInt given = .ok warn) :
    decideExpiry parsed now nowLater = ((pyFloat exp).mapError .ofNumber).bind fun expT =>
      if PyFloat.isBelow expT now then .ok false
      else (warnOfExpiry expT warn nowLater).bind fun _ => .ok true := by
  obtain ⟨given, hasWarn, isInt⟩ := isWarn
  have isDays : pyInt ((field "warn" parsed).getD (.int 0)) = .ok warn := by
    rw [hasWarn]
    exact isInt
  rw [decideExpiry.eq_def]
  split
  · rename_i missing
    rw [hasExp] at missing
    exact nomatch missing
  · rename_i isNull
    rw [hasExp] at isNull
    exact absurd (Option.some.inj isNull) present
  · rename_i isExp
    rw [hasExp] at isExp
    cases isExp
    rw [isDays]
    rfl

/-- The decision is right exactly where the conversions leave the expiry time alone. -/
theorem decideExpiry_iff (hasExp : field "exp" parsed = some exp) (present : exp ≠ .null)
    (isWarn : ∃ given, field "warn" parsed = some given ∧ pyInt given = .ok warn) :
    (∃ admitted, decideExpiry parsed now nowLater = .ok admitted ∧
      (admitted = true ↔ now ≤ n)) ↔ Tractable exp n warn now nowLater := by
  rw [decideExpiry_given hasExp present isWarn]
  cases isFloat : pyFloat exp with
  | error raised =>
    constructor
    · rintro ⟨admitted, isOk, _⟩
      exact nomatch isOk
    · rintro ⟨⟨expT, impossible⟩, _, _⟩
      rw [isFloat] at impossible
      exact nomatch impossible
  | ok expT =>
    change (∃ admitted, (if PyFloat.isBelow expT now = true then Except.ok false
      else (warnOfExpiry expT warn nowLater).bind fun _ => .ok true) = .ok admitted ∧ _) ↔ _
    split
    · rename_i expired
      constructor
      · rintro ⟨admitted, isOk, right⟩
        cases isOk
        refine ⟨⟨expT, isFloat⟩, ?_, ?_⟩
        · intro other isOther
          cases isFloat.symm.trans isOther
          have late : ¬now ≤ n := fun inTime => Bool.false_ne_true (right.mpr inTime)
          exact ⟨fun _ => Rat.not_le.mp late, fun _ => expired⟩
        · intro other isOther valid
          cases isFloat.symm.trans isOther
          rw [expired] at valid
          exact nomatch valid
      · intro tractable
        have late := (tractable.sameSide expT isFloat).mp expired
        refine ⟨false, rfl, ?_⟩
        exact ⟨fun impossible => (nomatch impossible),
          fun inTime => absurd inTime (Rat.not_le.mpr late)⟩
    · rename_i valid
      have valid' : PyFloat.isBelow expT now = false := Bool.eq_false_iff.mpr valid
      constructor
      · rintro ⟨admitted, isOk, right⟩
        cases warned : warnOfExpiry expT warn nowLater with
        | error raised =>
          rw [warned] at isOk
          exact nomatch isOk
        | ok nothing =>
          rw [warned] at isOk
          cases isOk
          have inTime : now ≤ n := right.mp rfl
          refine ⟨⟨expT, isFloat⟩, ?_, ?_⟩
          · intro other isOther
            cases isFloat.symm.trans isOther
            exact ⟨fun expired => absurd expired valid,
              fun late => absurd inTime (Rat.not_le.mpr late)⟩
          · intro other isOther _
            cases isFloat.symm.trans isOther
            exact warnOfExpiry_iff.mp warned
      · intro tractable
        have warned := warnOfExpiry_iff.mpr (tractable.isDays expT isFloat valid')
        have inTime : now ≤ n := by
          apply Rat.not_lt.mp
          intro late
          exact valid ((tractable.sameSide expT isFloat).mpr late)
        rw [warned]
        exact ⟨true, rfl, fun _ => inTime, fun _ => rfl⟩

end Expiry

section Tokens

variable {python : Interpreter} {parsed : Fields} {c : Bytes} {secret text : Text}
  {exp other : Option Int}

/-- What is parsed has its canonical form. -/
theorem parsed_canonical {headerValue : Text}
    (isParsed : parseIncomingBearerPayload python headerValue = .ok (parsed, c)) :
    canonicalAlertBearerBytes python parsed = .ok c := by
  obtain ⟨obj, _, isParsed⟩ := bearerBind_ok isParsed
  split at isParsed
  · rename_i d _
    cases isCanonical : canonicalAlertBearerBytes python d with
    | error raised =>
      rw [isCanonical] at isParsed
      exact nomatch isParsed
    | ok bytes =>
      rw [isCanonical] at isParsed
      cases isParsed
      exact isCanonical
  · exact nomatch isParsed

/-- An empty text is no JSON. -/
theorem bearerLoads_nil : bearerLoads python [] = .error .jsonDecodeError := by
  obtain ⟨depth, isDepth⟩ : ∃ depth, python.nesting = depth + 1 :=
    ⟨python.nesting - 1, by have := python.nests; omega⟩
  rw [bearerLoads, isDepth]
  rfl

/-- An empty header holds no token. -/
theorem parse_nil : ∃ raised, parseIncomingBearerPayload python [] = .error raised := by
  refine ⟨.jsonDecodeError, ?_⟩
  have decoded : decodeBase64 python [] = .error .jsonDecodeError := bearerLoads_nil
  have again : decodeBlob python [] = .error .jsonDecodeError := by
    rw [decodeBlob, decoded]
    exact bearerLoads_nil
  have stripped : strip (stripBearerPrefix []) = [] := rfl
  rw [parseIncomingBearerPayload, tryDecodeBearerBlob, stripped, again]
  rfl

variable (python) in
/-- A canonical form is the text of its record, which is read as an object. -/
theorem record_loads {iat : Int} {key : PyStr} {warn : Int}
    (isDumped : dumpRecord exp iat key warn = .ok c) :
    ∃ text, c = encodeUtf8 text ∧
      bearerLoads python text = .ok (.obj (readFields exp iat key warn)) := by
  obtain ⟨expText, iatText, warnText, isExp, isIat, isWarn, isText⟩ := dumpRecord_iff.mp isDumped
  exact ⟨_, isText, bearerLoads_record isExp isIat isWarn⟩

/-- A canonical form records one expiry time: any interpreter reads it. -/
theorem records_unique (reader : Interpreter) (recorded : Records c exp)
    (also : Records c other) : exp = other := by
  obtain ⟨iat, key, warn, isDumped⟩ := recorded
  obtain ⟨iat', key', warn', isDumped'⟩ := also
  obtain ⟨text, isText, loaded⟩ := record_loads reader isDumped
  obtain ⟨text', isText', loaded'⟩ := record_loads reader isDumped'
  have same : text = text' := encodeUtf8_inj (isText.symm.trans isText')
  rw [same, loaded'] at loaded
  have fields := congrArg (field "exp") (Value.obj.inj (Except.ok.inj loaded))
  change some (other.elim Value.null .int) = some (exp.elim Value.null .int) at fields
  cases exp with
  | none =>
    cases other with
    | none => rfl
    | some n => exact nomatch fields
  | some m =>
    cases other with
    | none => exact nomatch fields
    | some n =>
      cases fields
      rfl

/-- A secret that is a JSON object is taken in its canonical form. -/
theorem normalize_object {d : Fields} (loaded : bearerLoads python (strip secret) = .ok (.obj d)) :
    normalizeExpectedSecretToCanonicalBytes python secret =
      canonicalAlertBearerBytes python d := by
  have present : strip secret ≠ [] := by
    intro nothing
    rw [nothing, bearerLoads_nil] at loaded
    exact nomatch loaded
  rw [normalizeExpectedSecretToCanonicalBytes, if_neg present, loaded]

/-- A secret with the canonical form of a record is a JSON object, as a text that is taken as it
stands is no record. -/
theorem expected_object (recorded : Records c exp)
    (isExpected : normalizeExpectedSecretToCanonicalBytes python secret = .ok c) :
    ∃ d, bearerLoads python (strip secret) = .ok (.obj d) ∧
      canonicalAlertBearerBytes python d = .ok c := by
  obtain ⟨iat, key, warn, isDumped⟩ := recorded
  obtain ⟨text, isText, loaded⟩ := record_loads python isDumped
  rw [normalizeExpectedSecretToCanonicalBytes] at isExpected
  split at isExpected
  · cases isExpected
  · split at isExpected
    · rename_i unread
      have same : strip secret = text := encodeUtf8_inj ((Except.ok.inj isExpected).trans isText)
      rw [same, loaded] at unread
      cases unread
    · cases isExpected
    · rename_i d isObject
      exact ⟨d, isObject, isExpected⟩
    · cases isExpected

end Tokens

section Decision

variable {python : Interpreter} {headerValue secret : Text} {now nowLater : Rat} {parsed : Fields}
  {c : Bytes}

/-- The header holds no token, or another one than the secret. -/
def Unmatched (python : Interpreter) (authorization : Option Text) (secret : Text) : Prop :=
  ∀ headerValue parsed c, authorization = some headerValue →
    parseIncomingBearerPayload python headerValue = .ok (parsed, c) →
    normalizeExpectedSecretToCanonicalBytes python secret ≠ .ok c

/-- What is not decoded, or is not the configured token, is turned away without an exception. -/
theorem validate_unmatched {authorization : Option Text}
    (unmatched : Unmatched python authorization secret) :
    validateWebhookBearer python authorization secret now nowLater = .ok false := by
  rw [validateWebhookBearer.eq_def]
  split
  · rfl
  · rfl
  · rename_i header' _
    split
    · rfl
    · rename_i parsed incoming isParsed
      split
      · rfl
      · rename_i expected isExpected
        apply if_neg
        intro same
        exact unmatched header' parsed incoming rfl isParsed (same ▸ isExpected)

variable (now nowLater) in
/-- Turning it away is right, and there is no expiry time to convert. -/
theorem unmatched_rightly {authorization : Option Text}
    (unmatched : Unmatched python authorization secret) :
    DecidesRightly python authorization secret now nowLater ∧
      TractableToken python authorization secret now nowLater := by
  constructor
  · refine ⟨false, validate_unmatched unmatched, fun impossible => (nomatch impossible), ?_⟩
    rintro ⟨d, c, headerValue, parsed, _, loaded, isCanonical, isHeader, isParsed, _, _⟩
    have isExpected := (normalize_object loaded).trans isCanonical
    exact absurd isExpected (unmatched headerValue parsed c isHeader isParsed)
  · intro headerValue parsed c exp n warn isHeader isParsed isExpected
    exact absurd isExpected (unmatched headerValue parsed c isHeader isParsed)

/-- A number that is converted for the record is converted in the decision too. -/
theorem bearerInt_ok {given : Value} {n : Int} (isInt : bearerInt given = .ok n) :
    pyInt given = .ok n := by
  rw [bearerInt] at isInt
  cases read : pyInt given with
  | error raised =>
    rw [read] at isInt
    exact nomatch isInt
  | ok m =>
    rw [read] at isInt
    cases isInt
    rfl

/-- An expiry time is none exactly where it is given as null. -/
theorem bearerExp_ok {given : Value} {exp : Option Int} (isExp : bearerExp given = .ok exp) :
    (given = .null ∧ exp = none) ∨ (given ≠ .null ∧ ∃ n, exp = some n) := by
  rw [bearerExp.eq_def] at isExp
  split at isExp
  · cases isExp
    exact Or.inl ⟨rfl, rfl⟩
  · rename_i present
    right
    refine ⟨present, ?_⟩
    cases isInt : bearerInt given with
    | error raised =>
      rw [isInt] at isExp
      exact nomatch isExp
    | ok n =>
      rw [isInt] at isExp
      cases isExp
      exact ⟨n, rfl⟩

/-- Of the configured token the decision is about its expiry time. -/
theorem matched_rightly (present : headerValue ≠ [])
    (isParsed : parseIncomingBearerPayload python headerValue = .ok (parsed, c))
    (isExpected : normalizeExpectedSecretToCanonicalBytes python secret = .ok c) :
    DecidesRightly python (some headerValue) secret now nowLater ↔
      TractableToken python (some headerValue) secret now nowLater := by
  obtain ⟨exp, iat, key, warn, record⟩ := canonical_record (parsed_canonical isParsed)
  have recorded : Records c exp := ⟨iat, key, warn, record.isDumped⟩
  obtain ⟨d, loaded, isCanonical⟩ := expected_object recorded isExpected
  have decides : validateWebhookBearer python (some headerValue) secret now nowLater =
      decideExpiry parsed now nowLater := by
    cases headerValue with
    | nil => exact absurd rfl present
    | cons first others =>
      rw [validateWebhookBearer, isParsed]
      · dsimp only
        rw [isExpected]
        dsimp only
        rw [if_pos rfl]
      · exact present
  have admissible : Admissible python (some headerValue) secret now ↔
      ∀ n, exp = some n → now ≤ n := by
    constructor
    · rintro ⟨d', c', headerValue', parsed', exp', loaded', isCanonical', isHeader, isParsed',
        recorded', valid⟩
      cases isHeader
      cases isParsed.symm.trans isParsed'
      rw [records_unique python recorded recorded']
      exact valid
    · intro valid
      exact ⟨d, c, headerValue, parsed, exp, loaded, isCanonical, rfl, isParsed, recorded, valid⟩
  rw [DecidesRightly, decides, admissible]
  obtain ⟨given, hasExp, isExp⟩ := record.isExp
  rcases bearerExp_ok isExp with ⟨rfl, rfl⟩ | ⟨some, n, rfl⟩
  · have admitted : decideExpiry parsed now nowLater = .ok true := by
      rw [decideExpiry, hasExp]
    constructor
    · intro _ header' parsed' c' exp' n' warn' isHeader isParsed' _ hasExp' isExp' _
      cases isHeader
      cases isParsed.symm.trans isParsed'
      cases hasExp.symm.trans hasExp'
      cases isExp'
    · intro _
      exact ⟨true, admitted, fun _ _ impossible => (nomatch impossible), fun _ => rfl⟩
  · obtain ⟨givenWarn, hasWarn, isWarn⟩ := record.isWarn
    have isDays : ∃ given, field "warn" parsed = .some given ∧ pyInt given = .ok warn :=
      ⟨givenWarn, hasWarn, bearerInt_ok isWarn⟩
    have valid : (∀ m, Option.some n = .some m → now ≤ m) ↔ now ≤ n := by
      constructor
      · intro claimed
        exact claimed n rfl
      · intro inTime m same
        cases same
        exact inTime
    rw [valid, decideExpiry_iff hasExp some isDays]
    constructor
    · intro tractable header' parsed' c' exp' n' warn' isHeader isParsed' _ hasExp' isExp' isDays'
      cases isHeader
      cases isParsed.symm.trans isParsed'
      cases hasExp.symm.trans hasExp'
      cases isExp.symm.trans isExp'
      obtain ⟨given', hasWarn', isWarn'⟩ := isDays'
      cases hasWarn.symm.trans hasWarn'
      cases (bearerInt_ok isWarn).symm.trans isWarn'
      exact tractable
    · intro tractable
      exact tractable headerValue parsed c given n warn rfl isParsed isExpected hasExp isExp isDays

/-- A call returns a truth value, and the right one, exactly where the token's expiry time is
tractable; and a secret that is not JSON admits no header.

Proof: a header that holds no token or another one is turned away, which is right, and no expiry
time is converted for it. Of the configured token the decision is about its expiry time, and it is
right exactly where the conversions leave that alone. A secret that is not JSON is the canonical
form of no record, so no header matches it. -/
theorem decision_iff (python : Interpreter) (authorization : Option Text) (secret : Text)
    (now nowLater : Rat) :
    (DecidesRightly python authorization secret now nowLater ↔
      TractableToken python authorization secret now nowLater) ∧
    (bearerLoads python (strip secret) = .error .jsonDecodeError →
      validateWebhookBearer python authorization secret now nowLater = .ok false) := by
  constructor
  · by_cases unmatched : Unmatched python authorization secret
    · obtain ⟨rightly, tractable⟩ := unmatched_rightly now nowLater unmatched
      exact ⟨fun _ => tractable, fun _ => rightly⟩
    · simp only [Unmatched, not_forall, ne_eq, Decidable.not_not] at unmatched
      obtain ⟨headerValue, parsed, c, rfl, isParsed, isExpected⟩ := unmatched
      apply matched_rightly _ isParsed isExpected
      rintro rfl
      obtain ⟨raised, isRaised⟩ := @parse_nil python
      rw [isRaised] at isParsed
      exact nomatch isParsed
  · intro unread
    apply validate_unmatched
    intro headerValue parsed c _ isParsed isExpected
    obtain ⟨exp, iat, key, warn, record⟩ := canonical_record (parsed_canonical isParsed)
    obtain ⟨d, loaded, _⟩ := expected_object ⟨iat, key, warn, record.isDumped⟩ isExpected
    rw [unread] at loaded
    exact nomatch loaded

end Decision

section Example

variable {exp : Option Int} {iat warn : Int} {key : PyStr} {expText iatText warnText : Text}
  {now nowLater : Rat}

/-- An integer that is a date is left alone, with days that are a float: it is one itself,
exactly. -/
theorem tractable_date {n : Int} (isDate : firstSecond ≤ n ∧ (n : Rat) < endSecond)
    (days : warn.natAbs ≤ 2 ^ 53) : Tractable (.int n) n warn now nowLater := by
  have bounds : -62135596800 ≤ n ∧ n < 253402300800 := by
    rw [firstSecond, endSecond] at isDate
    exact_mod_cast isDate
  have exact : PyFloat.ofInt n = some (.finite n) := PyFloat.ofInt_exact (by omega)
  have isFloat : pyFloat (.int n) = .ok (.finite n) := by
    rw [pyFloat, exact]
    rfl
  constructor
  · exact ⟨_, isFloat⟩
  · intro expT isExp
    cases isFloat.symm.trans isExp
    exact decide_eq_true_iff
  · intro expT isExp _ _
    cases isFloat.symm.trans isExp
    exact ⟨_, PyFloat.ofInt_exact days, fun _ => decide_eq_true isDate⟩

variable (python : Interpreter)

/-- A record presented as it is printed is parsed to its fields. -/
theorem record_parsed (nonempty : key ≠ []) (isExp : expDigits exp = some expText)
    (isIat : dumpsInt iat = some iatText) (isWarn : dumpsInt warn = some warnText) :
    parseIncomingBearerPayload python (recordText expText iatText key warnText) =
      .ok (readFields exp iat key warn,
        encodeUtf8 (recordText expText iatText key warnText)) :=
  parse_record nonempty isExp isIat isWarn ⟨[], _, rfl, Or.inl rfl, Or.inr rfl⟩

/-- A record that is presented as it is configured is decided by its expiry time. -/
theorem record_rightly (nonempty : key ≠ []) (isExp : expDigits exp = some expText)
    (isIat : dumpsInt iat = some iatText) (isWarn : dumpsInt warn = some warnText) :
    DecidesRightly python (some (recordText expText iatText key warnText))
        (recordText expText iatText key warnText) now nowLater ↔
      TractableToken python (some (recordText expText iatText key warnText))
        (recordText expText iatText key warnText) now nowLater := by
  have plain : PlainForm (recordText expText iatText key warnText) := plainForm_record
  exact matched_rightly plain.nonempty (record_parsed python nonempty isExp isIat isWarn)
    (normalize_record nonempty isExp isIat isWarn)

/-- Of such a record the expiry time is the one it was made with. -/
theorem record_tractable (nonempty : key ≠ []) (isExp : expDigits exp = some expText)
    (isIat : dumpsInt iat = some iatText) (isWarn : dumpsInt warn = some warnText) :
    TractableToken python (some (recordText expText iatText key warnText))
        (recordText expText iatText key warnText) now nowLater ↔
      ∀ n, exp = some n → Tractable (.int n) n warn now nowLater := by
  have isParsed := record_parsed python nonempty isExp isIat isWarn
  constructor
  · intro tractable n isSome
    cases isSome
    exact tractable _ _ _ _ _ _ rfl isParsed (normalize_record nonempty isExp isIat isWarn) rfl
      rfl ⟨_, rfl, rfl⟩
  · intro tractable header' parsed' c' exp' n' warn' isHeader isParsed' _ hasExp' isExp' isDays'
    cases isHeader
    cases isParsed.symm.trans isParsed'
    change some (exp.elim Value.null .int) = some exp' at hasExp'
    cases hasExp'
    obtain ⟨given', hasWarn', isWarn'⟩ := isDays'
    change some (Value.int warn) = some given' at hasWarn'
    cases hasWarn'
    cases isWarn'
    cases exp with
    | none => exact nomatch isExp'
    | some m =>
      cases isExp'
      exact tractable _ rfl

/-- An integer with few enough digits is dumped. -/
theorem dumpsInt_short {n : Int} (short : n.natAbs < 10 ^ maxStrDigits) :
    dumpsInt n = some (intText n) := by
  rw [dumpsInt, if_pos]
  rw [Nat.length_toDigits_le_iff (by decide) (by decide)]
  exact short

/-- An integer that is no float is not tractable, as `float` raises on it. -/
theorem overflow_intractable {n : Int} (overflow : PyFloat.ofInt n = none) :
    ¬Tractable (.int n) n warn now nowLater := by
  rintro ⟨⟨expT, isFloat⟩, _, _⟩
  rw [pyFloat, overflow] at isFloat
  exact nomatch isFloat

/-- An expiry time too far off for a float. -/
def hugeExpiry : Int := 2 ^ 1024

/-- A record that expires then. -/
def hugeToken : Text :=
  recordText (intText hugeExpiry) "0".toList (ofText "k".toList) "0".toList

/-- Zero is dumped as its digit. -/
theorem dumpsInt_zero : dumpsInt 0 = some "0".toList := rfl

/-- The token is the configured one and has not expired, and the call raises `OverflowError`. -/
theorem huge_expiry_raises : ¬DecidesRightly examplePython (some hugeToken) hugeToken 0 0 := by
  have short : hugeExpiry.natAbs < 10 ^ maxStrDigits := by decide +kernel
  have written : expDigits (some hugeExpiry) = some (intText hugeExpiry) := by
    rw [expDigits, Option.elim_some]
    exact dumpsInt_short short
  have overflow : PyFloat.ofInt hugeExpiry = none := by decide +kernel
  have nonempty : ofText "k".toList ≠ [] := List.cons_ne_nil _ _
  intro rightly
  rw [hugeToken, record_rightly examplePython nonempty written dumpsInt_zero dumpsInt_zero,
    record_tractable examplePython nonempty written dumpsInt_zero dumpsInt_zero] at rightly
  exact overflow_intractable overflow (rightly hugeExpiry rfl)

/-- A record that expires in 2027, with thirty days of warning. -/
def plainToken : Text :=
  recordText (intText 1800000000) "0".toList (ofText "k".toList) "30".toList

/-- It is decided rightly at all times, within its warning window as well. -/
theorem plain_token_decided :
    DecidesRightly examplePython (some plainToken) plainToken 1799000000 1799000000 := by
  apply (decision_iff examplePython (some plainToken) plainToken 1799000000 1799000000).1.mpr
  have written : expDigits (some 1800000000) = some (intText 1800000000) := rfl
  have days : dumpsInt 30 = some "30".toList := rfl
  have nonempty : ofText "k".toList ≠ [] := List.cons_ne_nil _ _
  rw [plainToken, record_tractable examplePython nonempty written dumpsInt_zero days]
  intro n isSome
  cases isSome
  apply tractable_date
  · rw [firstSecond, endSecond]
    norm_num
  · decide

end Example

end Thaum.Webhooks
