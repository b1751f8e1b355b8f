import Thaum.Admin.LogLevel
import Thaum.Library.PyBytes
import Thaum.Library.JsonText
import Thaum.Library.PyDatetime

/-!
# The request of the log-level client

`thaum_log_override` builds a signed request on its own: it normalises the level, joins the
lines to be signed, and writes the time as an ISO text, the level as JSON and the signature in
base64. The endpoint takes all of them apart again.

The client and the endpoint agree: what the client builds for an endpoint's route and key is
accepted at every time within the skew, and it sets the level that was named. Where HMAC is
injective in the message, the signature is good for that route, time, nonce and level alone.

Only the expiry of the nonce spoils a request after its checks: with a skew that goes past the
last year of `datetime` the endpoint raises, and no level is set.
-/

namespace Thaum.AdminLogLevel

open PyText PyDatetime JsonText
open PyJson (Json)
open PyBytes (urlsafeB64decode b64urlNopad padding decodeUtf8)

/-- HMAC-SHA256, which makes a digest of every message. -/
structure Mac where
  digest : (key message : Bytes) → Bytes
  nonempty : ∀ key message, digest key message ≠ []

/-- The endpoint's library, with what `fromisoformat` makes of the forms of time that the
client does not write. -/
def pythonHost (mac : Mac) (otherIso : Text → IsoTime) : Host where
  urlsafeB64decode := urlsafeB64decode
  hmacSha256 := mac.digest
  otherIso := otherIso

/-- `_ROUTE_ID_RE` of a text without a newline at its end. -/
def routeIdWellFormed (routeId : Text) : Bool :=
  decide (8 ≤ routeId.length ∧ routeId.length ≤ 128) &&
    routeId.all fun c => c.isAlphanum || c == '_' || c == '-'

/-- `admin_log_routes_enabled`. -/
def adminLogRoutesEnabled (host : Host) (server : ServerConfig) : Bool :=
  let routeId := strip server.admin.routeId
  !routeId.isEmpty && routeIdWellFormed routeId && (adminHmacSecretBytes host server).isSome

namespace Client

/-- The scheme of a signature. -/
def adminScheme : Text := "thaum-log-level-v1".toList

/-- `_b64u_decode`, `none` where it raises. -/
def b64uDecode (s : Text) : Option Bytes := urlsafeB64decode (s ++ padding s)

/-- `_normalize_loglevel`. -/
def normalizeLoglevel (raw : Text) : Text :=
  let n := upper (strip raw)
  if n = "DEFAULT".toList then "DEFAULT".toList else n

/-- `_canonical`. -/
def canonical (routeId : Text) (epoch : Int) (nonceHex level : Text) : Bytes :=
  PyBytes.encodeUtf8 (['\n'].intercalate
    [adminScheme, "POST".toList, '/' :: routeId ++ "/log-level".toList,
      (toString epoch).toList, nonceHex, "loglevel=".toList ++ level, "v=1".toList, []])

/-- `_extract_route_from_post_url`, of the path of the URL; `none` where it raises. -/
def extractRouteFromPostUrl (path : Text) : Option Text :=
  match ((path.splitOn '/').filter fun part => !part.isEmpty).reverse with
  | last :: route :: _ => if last = "log-level".toList then some route else none
  | _ => none

/-- The sixteen random bytes of a nonce. -/
abbrev TokenBytes := { bytes : Bytes // bytes.length = 16 }

/-- The text of `secrets.token_hex`. -/
def tokenHex (random : TokenBytes) : Text :=
  random.val.flatMap fun byte => [hexDigit (byte.toNat / 16), hexDigit (byte.toNat % 16)]

/-- `_NONCE_RE.match`, which allows a newline at the end. -/
def nonceMatches (nonce : Text) : Bool :=
  nonceWellFormed nonce || (nonce.getLast? == some '\n' && nonceWellFormed nonce.dropLast)

/-- What `_build_request` raises: the error of a key that does not decode or has the wrong
length, of a nonce that does not match, and of a time that `datetime` does not have. -/
inductive BuildError where
  | undecodableKey | keyLength | nonceGeneration | timeOutOfRange
deriving DecidableEq

/-- The headers, and the level of the body. -/
structure SignedRequest where
  timestamp : Text
  nonce : Text
  signature : Text
  loglevel : Text
deriving DecidableEq

/-- `_build_request`, with the bytes its nonce is drawn from and the second of its clock. -/
def buildRequest (mac : Mac) (routeId secretB64u loglevelRaw : Text) (random : TokenBytes)
    (epoch : Int) : Except BuildError SignedRequest :=
  match b64uDecode (strip secretB64u) with
  | none => .error .undecodableKey
  | some key =>
    if key.length ≠ 32 then .error .keyLength
    else
      let nonce := tokenHex random
      if !nonceMatches nonce then .error .nonceGeneration
      else match utcText epoch with
        | none => .error .timeOutOfRange
        | some text =>
          let message := canonical routeId epoch nonce (normalizeLoglevel loglevelRaw)
          .ok
            { timestamp := text ++ ['Z']
              nonce
              signature := "HS256.".toList ++ b64urlNopad (mac.digest key message)
              loglevel := loglevelRaw }

/-- `json.dumps(body).encode("utf-8")`, as `main` sends it. -/
def postData (request : SignedRequest) : Bytes :=
  PyBytes.encodeUtf8 (dumpsObj [' ']
    [(ofText "loglevel".toList, dumpsStr (ofText request.loglevel)),
      (ofText "v".toList, "1".toList)])

end Client

/-- `request.get_json(force=True, silent=True)` of a body in UTF-8 without lone surrogates. -/
def getJson (depth : Nat) (data : Bytes) : Option Json :=
  (decodeUtf8 data).bind fun text => (loads depth text).toOption.bind toJson?

/-- The client's request as it comes to the endpoint. -/
def received (depth : Nat) (request : Client.SignedRequest) : Request where
  timestamp := request.timestamp
  nonce := request.nonce
  signature := request.signature
  body := getJson depth (Client.postData request)

/-- The names of the levels that can be set, and `DEFAULT`. -/
def levelNames : List Text := "DEFAULT".toList :: LogLevel.members.map Prod.fst

/-- A name in any letter case, with blanks around it. -/
def Spells (name raw : Text) : Prop := upper (strip raw) = upper name

instance (name raw : Text) : Decidable (Spells name raw) :=
  inferInstanceAs (Decidable (upper (strip raw) = upper name))

/-- The clock of the endpoint is within the skew of a signed second. -/
def WithinSkew (server : ServerConfig) (now : Nat) (epoch : Int) : Prop :=
  ((((now / 1000000 : Nat) : Int) - epoch).natAbs : Int) ≤ server.admin.clockSkewSeconds

instance (server : ServerConfig) (now : Nat) (epoch : Int) :
    Decidable (WithinSkew server now epoch) :=
  inferInstanceAs (Decidable ((_ : Int) ≤ _))

/-- A POST was answered and has set a level, in its row and in the process. -/
structure HasSet (name : Text) (post : Post) (log : WorkerLog)
    (outcome : Reply × Database × WorkerLog) : Prop where
  answered : outcome.1 = .ok
  row : outcome.2.1.state = some
    { logLevel := if name = "DEFAULT".toList then none else some name, updatedAt := post.nowDt }
  root : outcome.2.2.rootLevel =
    ((LogLevel.members.lookup name).map LogLevel.value).getD log.configuredRootLevel

section Levels

variable {name raw : Text}

/-- The names are those the endpoint allows. -/
theorem allowed_iff (name : Text) : allowedLoglevelName name = true ↔ upper name ∈ levelNames := by
  simp only [allowedLoglevelName, levelNames, Bool.or_eq_true, beq_iff_eq, List.mem_cons]
  apply or_congr Iff.rfl
  constructor
  · intro member
    obtain ⟨level, found⟩ := Option.isSome_iff_exists.mp member
    obtain ⟨front, back, parts, _⟩ := List.lookup_eq_some_iff.mp found
    rw [parts]
    simp
  · intro listed
    rw [List.lookup_isSome_iff]
    obtain ⟨entry, isMember, isName⟩ := List.mem_map.mp listed
    exact ⟨entry, isMember, beq_iff_eq.mpr isName.symm⟩

/-- The names consist of capital letters, whose lower case has them for its upper case again. -/
theorem levelNames_capitals : ∀ name ∈ levelNames, ∀ c ∈ name,
    c.isLower = false ∧ upperChar c = [c] ∧ upperChar c.toLower = [c] := by
  decide

/-- Each of the names is one that the endpoint allows. -/
theorem levelNames_allowed (listed : name ∈ levelNames) : allowedLoglevelName name = true := by
  have each : ∀ name ∈ levelNames, allowedLoglevelName name = true := by decide
  exact each name listed

/-- The client normalises a level as the endpoint does. -/
theorem normalizeLoglevel_token (raw : Text) :
    Client.normalizeLoglevel raw = normalizeLoglevelToken raw := by
  simp only [Client.normalizeLoglevel, normalizeLoglevelToken]
  split
  next isDefault => exact isDefault.symm
  next => rfl

/-- The number of a name is that of its level, and `DEFAULT` has none. -/
theorem level_of_name (listed : name ∈ levelNames) :
    (if name = "DEFAULT".toList then none else some name).bind parseLevelName =
      (LogLevel.members.lookup name).map LogLevel.value := by
  have each : ∀ name ∈ levelNames,
      (if name = "DEFAULT".toList then none else some name).bind parseLevelName =
        (LogLevel.members.lookup name).map LogLevel.value := by
    decide
  exact each name listed

/-- A character that is no blank stays when it is in a text of capitals. A newline would therefore
still be there after a level is normalised. -/
theorem newline_upper {s : Text} (listed : '\n' ∈ s) : '\n' ∈ upper s := by
  rw [upper, List.mem_flatMap]
  exact ⟨'\n', listed, by decide⟩

/-- A level the endpoint allows stands on one line, so it cannot add a line to what is signed. -/
theorem allowed_line (allowed : allowedLoglevelName name = true) : '\n' ∉ name := by
  have oneLine : ∀ name ∈ levelNames, '\n' ∉ name := by decide
  intro listed
  exact oneLine _ ((allowed_iff name).mp allowed) (newline_upper listed)

end Levels

section Nonces

variable {nonce : Text}

/-- A hexadecimal digit stays as it is where a header is read. -/
theorem hex_plain {c : Char} (hex : (c.isDigit || decide ('a' ≤ c ∧ c ≤ 'f')) = true) :
    isSpace c = false ∧ c.toLower = c ∧ c.toNat < 128 ∧ c ≠ '\n' := by
  have each : ∀ n < 128,
      ((Char.ofNat n).isDigit || decide ('a' ≤ Char.ofNat n ∧ Char.ofNat n ≤ 'f')) = true →
        isSpace (Char.ofNat n) = false ∧ (Char.ofNat n).toLower = Char.ofNat n ∧
          (Char.ofNat n).toNat < 128 ∧ Char.ofNat n ≠ '\n' := by
    decide
  have small : c.toNat < 128 := by
    rcases Bool.or_eq_true_iff.mp hex with digit | letter
    · have most : c.toNat ≤ 57 := (Bool.and_eq_true_iff.mp digit).2 |> of_decide_eq_true
      omega
    · have most : c.toNat ≤ 102 := (of_decide_eq_true letter).2
      omega
  have same : Char.ofNat c.toNat = c := Char.ofNat_toNat c
  rw [← same] at hex ⊢
  exact each c.toNat small hex

/-- A well-formed nonce has thirty-two hexadecimal digits and nothing else. -/
theorem nonce_chars (wellFormed : nonceWellFormed nonce = true) :
    nonce.length = 32 ∧ ∀ c ∈ nonce, (c.isDigit || decide ('a' ≤ c ∧ c ≤ 'f')) = true := by
  rw [nonceWellFormed, Bool.and_eq_true, beq_iff_eq, List.all_eq_true] at wellFormed
  exact wellFormed

/-- A nonce is read from its header as it was sent. -/
theorem nonce_header (wellFormed : nonceWellFormed nonce = true) : lower (strip nonce) = nonce := by
  obtain ⟨_, hex⟩ := nonce_chars wellFormed
  have trimmed : Trimmed nonce := by
    apply trimmed_of_ends
    · intro c first
      exact (hex_plain (hex c (List.mem_of_mem_head? first))).1
    · intro c last
      exact (hex_plain (hex c (List.mem_of_mem_getLast? last))).1
  have spelled : SpelledAs nonce nonce := by
    have kept : nonce.map Char.toLower = nonce.map id :=
      List.map_congr_left fun c listed => (hex_plain (hex c listed)).2.1
    rw [SpelledAs, kept, List.map_id]
  rw [trimmed]
  exact lower_spelled spelled fun c listed => (hex_plain (hex c listed)).2.2.1

/-- The nonce that is drawn is well formed: two small digits for each of sixteen bytes. -/
theorem tokenHex_wellFormed (random : Client.TokenBytes) :
    nonceWellFormed (Client.tokenHex random) = true := by
  obtain ⟨bytes, sixteen⟩ := random
  have digit : ∀ n < 16,
      ((hexDigit n).isDigit || decide ('a' ≤ hexDigit n ∧ hexDigit n ≤ 'f')) = true := by
    decide
  rw [nonceWellFormed, Bool.and_eq_true, beq_iff_eq, List.all_eq_true]
  constructor
  · simp [Client.tokenHex, List.length_flatMap, sixteen]
  · intro c listed
    obtain ⟨byte, _, inByte⟩ := List.mem_flatMap.mp listed
    have bound := byte.toNat_lt
    rcases List.mem_cons.mp inByte with rfl | second
    · exact digit _ (by omega)
    · rw [List.mem_singleton.mp second]
      exact digit _ (by omega)

end Nonces

section Message

variable {routeId routeId' nonce nonce' level level' : Text} {epoch epoch' : Int}

/-- The client signs the bytes that the endpoint verifies. Each has its own code for the message,
and the two agree by computation. -/
theorem canonical_eq (routeId : Text) (epoch : Int) (nonce level : Text) :
    Client.canonical routeId epoch nonce level =
      encodeUtf8 (buildCanonicalMessage routeId epoch nonce level) := rfl

/-- No part of a signed message has a newline. -/
structure OneLine (routeId nonce level : Text) : Prop where
  routeId : '\n' ∉ routeId
  nonce : '\n' ∉ nonce
  level : '\n' ∉ level

/-- What is signed tells the route, the time, the nonce and the level. The parts stand on lines of
their own, and none of them has a newline in it. -/
theorem buildCanonicalMessage_inj (lines : OneLine routeId nonce level)
    (lines' : OneLine routeId' nonce' level')
    (same : buildCanonicalMessage routeId epoch nonce level =
      buildCanonicalMessage routeId' epoch' nonce' level') :
    routeId = routeId' ∧ epoch = epoch' ∧ nonce = nonce' ∧ level = level' := by
  have noNewline (n : Int) : '\n' ∉ (toString n).toList := by
    intro listed
    rw [toString_intText] at listed
    rcases mem_intText listed with digit | sign
    · exact absurd digit (by decide)
    · exact absurd sign (by decide)
  have split {routeId nonce level : Text} (epoch : Int) (lines : OneLine routeId nonce level) :
      (buildCanonicalMessage routeId epoch nonce level).splitOn '\n' =
        [adminScheme, "POST".toList, '/' :: routeId ++ "/log-level".toList,
          (toString epoch).toList, nonce, "loglevel=".toList ++ level, "v=1".toList, []] := by
    apply List.splitOn_intercalate
    · simp only [List.forall_mem_cons]
      have constants : '\n' ∉ adminScheme ∧ '\n' ∉ "POST".toList ∧ '\n' ∉ "/log-level".toList ∧
          '\n' ∉ "loglevel=".toList ∧ '\n' ∉ "v=1".toList ∧ '\n' ≠ '/' := by
        decide
      obtain ⟨scheme, post, suffix, label, version, slash⟩ := constants
      refine ⟨scheme, post, ?_, noNewline epoch, lines.nonce, ?_, version, by simp⟩
      · simp only [List.mem_append, List.mem_cons, not_or]
        exact ⟨⟨slash, lines.routeId⟩, suffix⟩
      · simp only [List.mem_append, not_or]
        exact ⟨label, lines.level⟩
    · exact List.cons_ne_nil _ _
  have lists := congrArg (List.splitOn '\n') same
  rw [split epoch lines, split epoch' lines'] at lists
  simp only [List.cons_eq_cons, List.append_cancel_left_eq, List.cons_append, true_and, and_true,
    List.append_cancel_right_eq] at lists
  obtain ⟨route, time, sameNonce, sameLevel⟩ := lists
  rw [toString_intText, toString_intText] at time
  exact ⟨route, intText_inj time, sameNonce, sameLevel⟩

end Message

section Reading

variable {mac : Mac} {otherIso : Text → IsoTime} {epoch : Int} {text key : Text}

/-- The client finds the route in the path of the URL that the endpoint is reached at. -/
theorem extractRoute_path (front : Text) {routeId : Text} (routed : routeId ≠ [])
    (onePart : '/' ∉ routeId) : Client.extractRouteFromPostUrl
      (front ++ '/' :: (routeId ++ "/log-level".toList)) = some routeId := by
  have last : "log-level".toList.splitOn '/' = ["log-level".toList] :=
    List.splitOn_eq_singleton (by decide)
  have parts : (front ++ '/' :: (routeId ++ "/log-level".toList)).splitOn '/' =
      front.splitOn '/' ++ [routeId, "log-level".toList] := by
    change (front ++ '/' :: (routeId ++ '/' :: "log-level".toList)).splitOn '/' = _
    rw [List.splitOn_append_cons_self, List.splitOn_append_cons_self,
      List.splitOn_eq_singleton onePart, last]
    rfl
  have named : (!"log-level".toList.isEmpty) = true := by decide
  have nonempty : (!routeId.isEmpty) = true := by simpa using routed
  rw [Client.extractRouteFromPostUrl, parts, List.filter_append]
  simp only [List.filter_cons, nonempty, named, if_true, List.filter_nil, List.reverse_append,
    List.reverse_cons, List.reverse_nil, List.nil_append, List.cons_append]

/-- The endpoint reads the client's text of a second as that second, with the `Z` in place of the
offset of UTC. -/
theorem parseIso_utcText {host : Host} (written : utcText epoch = some text) :
    parseIsoUtcEpochSeconds host (text ++ ['Z']) = .epoch epoch := by
  obtain ⟨c, more, parts, digit⟩ := utcText_digit written
  have trimmed : strip (text ++ ['Z']) = text ++ ['Z'] := by
    apply trimmed_of_ends
    · intro d first
      rw [parts] at first
      obtain rfl := Option.some.inj first
      exact (hex_plain (by rw [digit, Bool.true_or])).1
    · intro d last
      rw [List.getLast?_concat] at last
      obtain rfl := Option.some.inj last
      decide
  simp only [parseIsoUtcEpochSeconds, trimmed]
  rw [if_pos List.getLast?_concat, List.dropLast_concat]
  rw [Host.isoEpochSeconds, offsetSecond_utcText written]
  exact if_pos (utcText_inCalendar written)

/-- The endpoint compares the digest of its message with the one that was signed. The base64 text
between the two gives the digest back. -/
theorem verifySignature_iff {key message digest : Bytes} (made : digest ≠ []) :
    verifySignature (pythonHost mac otherIso) key message
        ("HS256.".toList ++ b64urlNopad digest) = true ↔
      mac.digest key message = digest := by
  obtain ⟨_, plain⟩ := PyBytes.b64urlNopad_split digest
  have decoded := PyBytes.urlsafeB64decode_nopad digest
  have trimmed : strip (b64urlNopad digest) = b64urlNopad digest := by
    apply trimmed_of_ends
    · intro c first
      exact (plain c (List.mem_of_mem_head? first)).2.2
    · intro c last
      exact (plain c (List.mem_of_mem_getLast? last)).2.2
  have nonempty : b64urlNopad digest ≠ [] := by
    intro empty
    rw [empty] at decoded
    exact made (Option.some.inj decoded).symm
  have scheme : startsWith ("HS256.".toList ++ b64urlNopad digest) "HS256.".toList = true := by
    rw [startsWith, List.isPrefixOf_iff_prefix]
    exact List.prefix_append _ _
  have encoded : ("HS256.".toList ++ b64urlNopad digest).drop 6 = b64urlNopad digest :=
    List.drop_left' (by decide)
  have opened : (pythonHost mac otherIso).urlsafeB64decode
      (b64urlNopad digest ++ b64Padding (b64urlNopad digest)) = some digest := decoded
  simp only [verifySignature, scheme, encoded, trimmed, nonempty, opened, Bool.not_true,
    Bool.false_eq_true, if_false]
  exact beq_iff_eq

/-- The signature is trimmed as it is sent, so the header changes nothing of it. -/
theorem strip_signature (digest : Bytes) :
    strip ("HS256.".toList ++ b64urlNopad digest) = "HS256.".toList ++ b64urlNopad digest := by
  apply trimmed_of_ends
  · intro c first
    obtain rfl := Option.some.inj first
    decide
  · intro c last
    have listed := List.mem_of_mem_getLast? last
    rcases List.mem_append.mp listed with scheme | encoded
    · have solid : ∀ c ∈ "HS256.".toList, isSpace c = false := by decide
      exact solid c scheme
    · exact ((PyBytes.b64urlNopad_split digest).2 c encoded).2.2

/-- The members of the client's body. -/
def bodyFields (raw : Text) : List (Text × Json) :=
  [("v".toList, .int 1), ("loglevel".toList, .str raw)]

/-- The members that the endpoint looks for in the client's body. -/
theorem bodyFields_get (raw : Text) : PyJson.get "v".toList (bodyFields raw) = .int 1 ∧
    PyJson.get "loglevel".toList (bodyFields raw) = .str raw := by
  have same : ("v".toList == "v".toList) = true := beq_self_eq_true _
  have same' : ("loglevel".toList == "loglevel".toList) = true := beq_self_eq_true _
  have other : ("loglevel".toList == "v".toList) = false := by decide
  simp only [PyJson.get, bodyFields, List.lookup_cons, same, same', other, Option.getD_some,
    and_self]

/-- The endpoint reads the client's body as the level that was named, however it is escaped in
JSON. -/
theorem getJson_postData (depth : Nat) (request : Client.SignedRequest) :
    getJson (depth + 1) (Client.postData request) =
      some (.obj (bodyFields request.loglevel)) := by
  have blanks : ∀ c ∈ [' '], isBlank c = true := by decide
  have one : Written (scanValue depth) "1".toList (.int 1) := written_int (by decide)
  have level : Written (scanValue depth) (dumpsStr (ofText request.loglevel)) _ :=
    written_str (ofText request.loglevel)
  have read := loads_obj [' '] depth blanks
    [(ofText "loglevel".toList, dumpsStr (ofText request.loglevel),
        .str (joinSurrogates (units (ofText request.loglevel)))),
      (ofText "v".toList, "1".toList, .int 1)] (List.cons_ne_nil _ _)
    (by simp only [List.forall_mem_cons]; exact ⟨level, one, by simp⟩)
  simp only [List.map_cons, List.map_nil, joinSurrogates_text] at read
  rw [getJson, Client.postData, PyBytes.decodeUtf8_encodeUtf8, Option.bind_some, read]
  simp only [Except.toOption, Option.bind_some, toJson?, toFields?, toField?, toText?_ofText,
    Option.map_some]
  rfl

/-- The received request has the client's body as its payload. -/
theorem received_fields (depth : Nat) (request : Client.SignedRequest) :
    (received (depth + 1) request).body.bind Json.fields? =
      some (bodyFields request.loglevel) := by
  have sent : (received (depth + 1) request).body = some (.obj (bodyFields request.loglevel)) :=
    getJson_postData depth request
  rw [sent]
  rfl

end Reading

section Agreement

variable {mac : Mac} {otherIso : Text → IsoTime} {server : ServerConfig} {key : Bytes}
  {routeId secret name raw : Text} {random : Client.TokenBytes} {epoch : Int}
  {request : Client.SignedRequest}

/-- What the client builds, from its key and the text of its time, and when it builds a request at
all: the key decodes to 32 bytes, and `datetime` has the second. -/
theorem buildRequest_ok_iff :
    Client.buildRequest mac routeId secret raw random epoch = .ok request ↔
    ∃ key text, Client.b64uDecode (strip secret) = some key ∧ key.length = 32 ∧
      utcText epoch = some text ∧
      request =
        { timestamp := text ++ ['Z']
          nonce := Client.tokenHex random
          signature := "HS256.".toList ++ b64urlNopad (mac.digest key (encodeUtf8
            (buildCanonicalMessage routeId epoch (Client.tokenHex random)
              (normalizeLoglevelToken raw))))
          loglevel := raw } := by
  have matches' : Client.nonceMatches (Client.tokenHex random) = true := by
    rw [Client.nonceMatches, tokenHex_wellFormed random, Bool.true_or]
  simp only [Client.buildRequest, matches', normalizeLoglevel_token, canonical_eq]
  cases decoded : Client.b64uDecode (strip secret) with
  | none => simp
  | some key =>
    by_cases length : key.length = 32
    · cases written : utcText epoch with
      | none => simp [length]
      | some text => simp [length, eq_comm]
    · simp [length]

/-- The client builds a request for every key of 32 bytes and every second of `datetime`. -/
theorem buildRequest_total (decoded : Client.b64uDecode (strip secret) = some key)
    (length : key.length = 32) (inRange : utcText epoch ≠ none) :
    ∃ request, Client.buildRequest mac routeId secret raw random epoch = .ok request := by
  obtain ⟨text, written⟩ := Option.ne_none_iff_exists'.mp inRange
  exact ⟨_, buildRequest_ok_iff.mpr ⟨key, text, decoded, length, written, rfl⟩⟩

/-- An endpoint whose routes are enabled has a route of one line and a key. -/
theorem enabled_route {host : Host} (enabled : adminLogRoutesEnabled host server = true) :
    strip server.admin.routeId ≠ [] ∧ '\n' ∉ strip server.admin.routeId ∧
      ∃ key, adminHmacSecretBytes host server = some key := by
  simp only [adminLogRoutesEnabled, routeIdWellFormed, Bool.and_eq_true, Bool.not_eq_true',
    List.isEmpty_eq_false_iff, List.all_eq_true] at enabled
  obtain ⟨⟨nonempty, _, chars⟩, isKey⟩ := enabled
  refine ⟨nonempty, ?_, Option.isSome_iff_exists.mp isKey⟩
  intro listed
  exact absurd (chars _ listed) (by decide)

/-- The key of an endpoint depends on its variable and its setting only. -/
theorem adminHmacSecretBytes_congr (host : Host) {server' : ServerConfig}
    (sameVariable : server.secretVariable = server'.secretVariable)
    (sameSecret : server.admin.hmacSecretB64url = server'.admin.hmacSecretB64url) :
    adminHmacSecretBytes host server = adminHmacSecretBytes host server' := by
  simp only [adminHmacSecretBytes, sameVariable, sameSecret]

/-- An endpoint with a key and a route reads the client's headers: the second, the nonce and the
signature as they were built. -/
theorem readHeaders_client
    (isKey : adminHmacSecretBytes (pythonHost mac otherIso) server = some key)
    (routed : strip server.admin.routeId ≠ []) {text : Text} (written : utcText epoch = some text)
    (digest : Bytes) (body : Option Json) :
    readHeaders (pythonHost mac otherIso) server
        { timestamp := text ++ ['Z'], nonce := Client.tokenHex random
          signature := "HS256.".toList ++ b64urlNopad digest, body } =
      .ok
        { key, routeId := strip server.admin.routeId, nonce := Client.tokenHex random
          signature := "HS256.".toList ++ b64urlNopad digest, epoch } := by
  have wellFormed := tokenHex_wellFormed random
  have hasNonce : Client.tokenHex random ≠ [] := by
    intro empty
    have length := (nonce_chars wellFormed).1
    rw [empty] at length
    cases length
  have hasTime : text ++ ['Z'] ≠ [] := List.append_ne_nil_of_right_ne_nil _ (List.cons_ne_nil _ _)
  have signed : "HS256.".toList ++ b64urlNopad digest ≠ [] := List.cons_ne_nil _ _
  simp only [readHeaders, isKey, routed, nonce_header wellFormed, strip_signature digest, hasTime,
    hasNonce, signed, wellFormed, parseIso_utcText written, or_self, if_false, Bool.not_true,
    Bool.false_eq_true]

/-- A body passes with a level that is allowed and signed. The level is compared after it was
normalised, as the client signs it. -/
theorem readBody_ok_iff {host : Host} {headers : Headers} {body : Option Json} {level : Text} :
    readBody host headers body = .ok level ↔
      ∃ payload raw, body.bind Json.fields? = some payload ∧
        (PyJson.get "v".toList payload).equalsInt 1 = true ∧
        PyJson.get "loglevel".toList payload = .str raw ∧ level = normalizeLoglevelToken raw ∧
        allowedLoglevelName level = true ∧
        verifySignature host headers.key (encodeUtf8
          (buildCanonicalMessage headers.routeId headers.epoch headers.nonce level))
          headers.signature = true := by
  rw [readBody]
  cases fields : body.bind Json.fields? with
  | none => simp
  | some payload =>
    simp only [Option.some.injEq, exists_and_left, exists_eq_left']
    by_cases version : (PyJson.get "v".toList payload).equalsInt 1 = true
    · simp only [version, Bool.not_true, Bool.false_eq_true, if_false, true_and]
      cases named : PyJson.get "loglevel".toList payload with
      | str raw =>
        simp only [Json.str.injEq, exists_eq_left']
        by_cases allowed : allowedLoglevelName (normalizeLoglevelToken raw) = true
        · simp only [allowed, Bool.not_true, Bool.false_eq_true, if_false]
          constructor
          · intro passed
            split at passed
            next verified =>
              obtain rfl := Except.ok.inj passed
              exact ⟨rfl, allowed, verified⟩
            next => cases passed
          · rintro ⟨rfl, _, verified⟩
            rw [if_pos verified]
        · simp only [allowed, Bool.not_false, if_true, reduceCtorEq, false_iff, not_and]
          rintro rfl passed
          exact absurd passed allowed
      | _ => simp only [reduceCtorEq, false_and, exists_false]
    · simp only [version, Bool.not_false, if_true, reduceCtorEq, false_and]

/-- What the client builds for an endpoint passes its checks within the skew. The headers are read
first and the body with them. -/
theorem checkPost_client
    (isKey : adminHmacSecretBytes (pythonHost mac otherIso) server = some key)
    (routed : strip server.admin.routeId ≠ [])
    (sameKey : Client.b64uDecode (strip secret) = some key)
    (allowed : allowedLoglevelName name = true) (spelled : Spells name raw)
    (built : Client.buildRequest mac (strip server.admin.routeId) secret raw random epoch =
      .ok request) (depth : Nat) {now : Nat} (within : WithinSkew server now epoch) :
    checkPost (pythonHost mac otherIso) server (received (depth + 1) request) now =
      .ok { nonce := Client.tokenHex random, epoch, level := upper name } := by
  obtain ⟨_, text, decoded, _, written, rfl⟩ := buildRequest_ok_iff.mp built
  obtain rfl := Option.some.inj (sameKey.symm.trans decoded)
  have isLevel : normalizeLoglevelToken raw = upper name := spelled
  apply checkPost_ok_iff.mpr
  refine ⟨_, readHeaders_client isKey routed written _ _, decide_eq_true within, ?_, rfl, rfl⟩
  obtain ⟨version, named⟩ := bodyFields_get raw
  apply readBody_ok_iff.mpr
  refine ⟨bodyFields raw, raw, received_fields depth _, ?_, named, isLevel.symm,
    levelNames_allowed ((allowed_iff name).mp allowed), ?_⟩
  · rw [version]
    rfl
  · rw [isLevel]
    exact (verifySignature_iff (mac.nonempty _ _)).mpr rfl

/-- A checked POST sets its level exactly when it commits and its nonce has an expiry. -/
theorem hasSet_iff {host : Host} {post : Post} {db : Database} {log : WorkerLog} {nonce : Text}
    (checked : checkPost host server post.request post.now = .ok { nonce, epoch, level := name })
    (listed : name ∈ levelNames) (fresh : ∀ row ∈ purge post.nowDt db.nonces, row.nonce ≠ nonce) :
    HasSet name post log (handleAdminLogLevelPost host server post db log) ↔
      post.commits = true ∧ (post.expiresNow : Int) +
        (server.admin.clockSkewSeconds + 120) * 1000000 ≤ datetimeMax := by
  constructor
  · intro hasSet
    obtain ⟨_, _, _, expiry, committed, _⟩ := handlePost_ok_iff.mp hasSet.answered
    obtain ⟨isExpiry, inRange⟩ := nonceExpiry_eq_some.mp expiry
    exact ⟨committed, isExpiry ▸ inRange⟩
  · rintro ⟨committed, inRange⟩
    have expiry := nonceExpiry_eq_some.mpr ⟨rfl, inRange⟩
    have unreplayed := KeyedRows.get_none_iff.mpr fresh
    constructor
    · exact handlePost_ok_iff.mpr ⟨_, _, checked, expiry, committed, fresh⟩
    · simp only [handleAdminLogLevelPost, checked, expiry, committed, unreplayed, Bool.not_true,
        Bool.false_eq_true, if_false]
    · simp only [handleAdminLogLevelPost, checked, expiry, committed, unreplayed, Bool.not_true,
        Bool.false_eq_true, if_false, level_of_name listed]
      rfl

/-- Headers that were read name the endpoint's key and route, a well-formed nonce and the signature
that was sent. -/
theorem readHeaders_ok {host : Host} {headers : Headers} {request : Request}
    (read : readHeaders host server request = .ok headers) :
    adminHmacSecretBytes host server = some headers.key ∧
      headers.routeId = strip server.admin.routeId ∧ nonceWellFormed headers.nonce = true ∧
      headers.signature = strip request.signature := by
  simp only [readHeaders] at read
  split at read
  · cases read
  next key isKey =>
    split at read
    · cases read
    · split at read
      · cases read
      · split at read
        · cases read
        next wellFormed =>
          split at read
          · cases read
          · cases read
          · obtain rfl := Except.ok.inj read
            simp only [Bool.not_eq_true', Bool.not_eq_false] at wellFormed
            exact ⟨isKey, rfl, wellFormed, rfl⟩

/-- A well-formed nonce stands on one line. -/
theorem nonce_line {nonce : Text} (wellFormed : nonceWellFormed nonce = true) : '\n' ∉ nonce := by
  intro listed
  exact (hex_plain ((nonce_chars wellFormed).2 _ listed)).2.2.2 rfl

/-- A request that passes with the signature of a message is for that message, if different messages
have different digests under the key. -/
theorem signature_message {other : Request} {now : Nat} {signed : Signed} {message : Text}
    (isKey : adminHmacSecretBytes (pythonHost mac otherIso) server = some key)
    (sent : other.signature =
      "HS256.".toList ++ b64urlNopad (mac.digest key (encodeUtf8 message)))
    (injective : ∀ m m', mac.digest key m = mac.digest key m' → m = m')
    (passed : checkPost (pythonHost mac otherIso) server other now = .ok signed) :
    buildCanonicalMessage (strip server.admin.routeId) signed.epoch signed.nonce signed.level =
        message ∧
      nonceWellFormed signed.nonce = true ∧ allowedLoglevelName signed.level = true := by
  obtain ⟨headers, headersRead, _, bodyRead, isNonce, isEpoch⟩ := checkPost_ok_iff.mp passed
  obtain ⟨isKey', route, wellFormed, signature⟩ := readHeaders_ok headersRead
  obtain ⟨_, _, _, _, _, _, allowed, verified⟩ := readBody_ok_iff.mp bodyRead
  obtain rfl := Option.some.inj (isKey.symm.trans isKey')
  rw [signature, sent, strip_signature, verifySignature_iff (mac.nonempty _ _)] at verified
  rw [← route, isEpoch, isNonce]
  exact ⟨PyBytes.encodeUtf8_inj (injective _ _ verified), wellFormed, allowed⟩

/-- The client and the endpoint agree on every level that is allowed, however it is spelled, every
nonce that is drawn and every second: within the skew the request passes with that level, and a
request with a fresh nonce sets it exactly when the transaction commits and the expiry of the nonce
stays within the years of `datetime`. Where HMAC is injective in the message, no endpoint with the
key takes the signature for another route, time, nonce or level.

Proof: the checks follow what the client built, header by header and then the body. A request that
has passed them fails only at its nonce, its expiry or its commit. A signature that passes is the
digest of the message that the endpoint puts together, so this message is the one that was signed,
and its lines are those of the client. -/
theorem client_agrees (mac : Mac) (otherIso : Text → IsoTime) {server : ServerConfig}
    (enabled : adminLogRoutesEnabled (pythonHost mac otherIso) server = true)
    {secret name raw : Text}
    (sameKey : Client.b64uDecode (strip secret) =
      adminHmacSecretBytes (pythonHost mac otherIso) server)
    (allowed : allowedLoglevelName name = true) (spelled : Spells name raw)
    {random : Client.TokenBytes} {epoch : Int} {request : Client.SignedRequest}
    (built : Client.buildRequest mac (strip server.admin.routeId) secret raw random epoch =
      .ok request) (depth : Nat) :
    (∀ now, WithinSkew server now epoch →
      checkPost (pythonHost mac otherIso) server (received (depth + 1) request) now =
        .ok { nonce := Client.tokenHex random, epoch, level := upper name }) ∧
    (∀ post db log, post.request = received (depth + 1) request →
      WithinSkew server post.now epoch →
      (∀ row ∈ purge post.nowDt db.nonces, row.nonce ≠ Client.tokenHex random) →
      (HasSet (upper name) post log
          (handleAdminLogLevelPost (pythonHost mac otherIso) server post db log) ↔
        post.commits = true ∧ (post.expiresNow : Int) +
          (server.admin.clockSkewSeconds + 120) * 1000000 ≤ datetimeMax)) ∧
    ((∀ key m m', mac.digest key m = mac.digest key m' → m = m') →
      ∀ server' other now signed,
        adminLogRoutesEnabled (pythonHost mac otherIso) server' = true →
        adminHmacSecretBytes (pythonHost mac otherIso) server' =
          adminHmacSecretBytes (pythonHost mac otherIso) server →
        other.signature = request.signature →
        checkPost (pythonHost mac otherIso) server' other now = .ok signed →
        strip server'.admin.routeId = strip server.admin.routeId ∧
          signed = { nonce := Client.tokenHex random, epoch, level := upper name }) := by
  obtain ⟨routed, routeLine, key, isKey⟩ := enabled_route enabled
  have listed := (allowed_iff name).mp allowed
  have checked {now : Nat} (within : WithinSkew server now epoch) :=
    checkPost_client isKey routed (sameKey.trans isKey) allowed spelled built depth within
  refine ⟨fun now => checked, ?_, ?_⟩
  · intro post db log sent within fresh
    have checkedPost := checked within
    rw [← sent] at checkedPost
    exact hasSet_iff checkedPost listed fresh
  · intro injective server' other now signed enabled' key' sent passed
    obtain ⟨_, text, decoded, _, written, rfl⟩ := buildRequest_ok_iff.mp built
    obtain rfl := Option.some.inj ((sameKey.trans isKey).symm.trans decoded)
    obtain ⟨_, routeLine', _⟩ := enabled_route enabled'
    obtain ⟨message, wellFormed, allowed'⟩ :=
      signature_message (key'.trans isKey) sent (injective key) passed
    have isLevel : normalizeLoglevelToken raw = upper name := spelled
    rw [isLevel] at message
    obtain ⟨route, time, nonce, level⟩ := buildCanonicalMessage_inj
      ⟨routeLine', nonce_line wellFormed, allowed_line allowed'⟩
      ⟨routeLine, nonce_line (tokenHex_wellFormed random),
        allowed_line (levelNames_allowed listed)⟩ message
    refine ⟨route, ?_⟩
    rw [← time, ← nonce, ← level]

end Agreement

section Example

/-- A MAC for the examples. -/
def exampleMac : Mac := ⟨fun _ message => 0 :: message, fun _ message => List.cons_ne_nil 0 message⟩

/-- The library of the endpoint in the examples. -/
def exampleHost : Host := pythonHost exampleMac fun _ => .valueError

/-- The endpoint of a route and a key of zeros. -/
def zeroServer (skew : Int) : ServerConfig where
  admin :=
    { routeId := "operator".toList
      hmacSecretB64url := some (List.replicate 43 'A')
      clockSkewSeconds := skew }
  secretVariable := []

/-- A nonce of zeros. -/
def zeroRandom : Client.TokenBytes := ⟨List.replicate 16 0, List.length_replicate⟩

/-- What the client builds for the first second of the epoch. -/
def zeroRequest : Client.SignedRequest where
  timestamp := "1970-01-01T00:00:00Z".toList
  nonce := List.replicate 32 '0'
  signature := "HS256.".toList ++ b64urlNopad (exampleMac.digest (List.replicate 32 0) (encodeUtf8
    (buildCanonicalMessage "operator".toList 0 (List.replicate 32 '0') "DEBUG".toList)))
  loglevel := " Debug\t".toList

/-- That request, posted in the first second of the epoch. -/
def zeroPost : Post where
  worker := 0
  request := received 1 zeroRequest
  now := 0
  expiresNow := 0
  nowDt := 0
  commits := true

/-- The secret of the example is a key of 32 zero bytes. -/
theorem zeroSecret_key :
    Client.b64uDecode (strip (List.replicate 43 'A')) = some (List.replicate 32 0) := by
  decide +kernel

/-- The client builds the request of the example for it, whatever the skew is. -/
theorem zeroRequest_built (skew : Int) :
    Client.buildRequest exampleMac (strip (zeroServer skew).admin.routeId)
      (List.replicate 43 'A') " Debug\t".toList zeroRandom 0 = .ok zeroRequest := by
  have route : strip (zeroServer skew).admin.routeId = "operator".toList := by
    have trimmed : strip "operator".toList = "operator".toList := by decide
    exact trimmed
  have written : utcText 0 = some "1970-01-01T00:00:00".toList := by decide +kernel
  apply buildRequest_ok_iff.mpr
  refine ⟨_, _, zeroSecret_key, List.length_replicate, written, ?_⟩
  have level : normalizeLoglevelToken " Debug\t".toList = "DEBUG".toList := by decide
  have nonce : Client.tokenHex zeroRandom = List.replicate 32 '0' := by decide
  rw [route, level, nonce]
  rfl

/-- The routes of the example are enabled with either skew. -/
theorem zeroServer_enabled : adminLogRoutesEnabled exampleHost (zeroServer 300) = true ∧
    adminLogRoutesEnabled exampleHost (zeroServer (10 ^ 12)) = true := by
  decide +kernel

/-- The endpoint of the example has that key. -/
theorem zeroServer_key (skew : Int) :
    adminHmacSecretBytes exampleHost (zeroServer skew) = some (List.replicate 32 0) := by
  have isKey : adminHmacSecretBytes exampleHost (zeroServer 0) = some (List.replicate 32 0) := by
    decide +kernel
  rw [← isKey]
  exact adminHmacSecretBytes_congr exampleHost rfl rfl

theorem spelled_debug : Spells "debug".toList " Debug\t".toList := by decide

theorem allowed_debug : allowedLoglevelName "debug".toList = true := by decide

/-- With a skew of `10 ^ 12` seconds the expiry of the nonce is past every year: the request is
built, is within the skew and has a fresh nonce, and the endpoint raises. -/
theorem long_skew_sets_nothing :
    adminLogRoutesEnabled exampleHost (zeroServer (10 ^ 12)) = true ∧
      Client.b64uDecode (strip (List.replicate 43 'A')) =
        adminHmacSecretBytes exampleHost (zeroServer (10 ^ 12)) ∧
      allowedLoglevelName "debug".toList = true ∧ Spells "debug".toList " Debug\t".toList ∧
      Client.buildRequest exampleMac (strip (zeroServer (10 ^ 12)).admin.routeId)
        (List.replicate 43 'A') " Debug\t".toList zeroRandom 0 = .ok zeroRequest ∧
      WithinSkew (zeroServer (10 ^ 12)) zeroPost.now 0 ∧ zeroPost.commits = true ∧
      (handleAdminLogLevelPost exampleHost (zeroServer (10 ^ 12)) zeroPost ⟨[], none⟩
        ⟨30, 30, none⟩).1 = .failed .raisedOverflowError := by
  have within : WithinSkew (zeroServer (10 ^ 12)) zeroPost.now 0 := by decide
  have checked : checkPost exampleHost (zeroServer (10 ^ 12)) zeroPost.request zeroPost.now = _ :=
    checkPost_client (zeroServer_key _) (by decide) zeroSecret_key allowed_debug spelled_debug
      (zeroRequest_built _) 0 within
  have expiry : nonceExpiry (zeroServer (10 ^ 12)) zeroPost.expiresNow = none := by decide
  refine ⟨zeroServer_enabled.2, zeroSecret_key.trans (zeroServer_key _).symm, allowed_debug,
    spelled_debug, zeroRequest_built _, within, rfl, ?_⟩
  simp only [handleAdminLogLevelPost, checked, expiry]

/-- With a skew of five minutes the request sets its level, and its signature serves no other. -/
theorem example_client_agrees :
    HasSet "DEBUG".toList zeroPost ⟨30, 30, none⟩
        (handleAdminLogLevelPost exampleHost (zeroServer 300) zeroPost ⟨[], none⟩ ⟨30, 30, none⟩) ∧
      ∀ other now signed, other.signature = zeroRequest.signature →
        checkPost exampleHost (zeroServer 300) other now = .ok signed →
        signed.level = "DEBUG".toList := by
  obtain ⟨_, sets, unique⟩ := client_agrees exampleMac (fun _ => .valueError) zeroServer_enabled.1
    (zeroSecret_key.trans (zeroServer_key 300).symm) allowed_debug spelled_debug
    (zeroRequest_built 300) 0
  constructor
  · exact (sets zeroPost ⟨[], none⟩ ⟨30, 30, none⟩ rfl (by decide) (by decide)).mpr
      ⟨rfl, by decide⟩
  · intro other now signed sent passed
    have injective (key m m' : Bytes) (same : exampleMac.digest key m = exampleMac.digest key m') :
        m = m' := (List.cons.inj same).2
    rw [(unique injective _ other now signed zeroServer_enabled.1 rfl sent passed).2]
    decide

end Example

end Thaum.AdminLogLevel
