import Thaum.Library.ExpiringRows
import Thaum.Library.KeyedRows
import Thaum.Library.PyDatetime
import Thaum.Library.PyJson

/-!
# The signed log-level endpoint

`POST /{route_id}/log-level` changes the root log level of the deployment. A
request carries a timestamp, a nonce and a signature over both; the handler
checks them, records the nonce and writes the singleton level row in one
transaction, and then applies the level in its own process. Expired nonces are
removed by every POST and by a leader task.

Clock readings count microseconds since the epoch, signed timestamps whole
seconds. The handler reads the clock three times: for the timestamp check, for
the expiry of the nonce and for the purge. HMAC and base64 decoding belong to
the Python library and are passed in; nothing below assumes anything about them.
So is what the ISO parser makes of the forms of time that the clients do not
write: a date, a time of day in seconds and an offset are read here.
-/

namespace Thaum.AdminLogLevel

open PyText PyJson PyDatetime

abbrev Bytes := List UInt8

/-- The levels of `LogLevel`. -/
inductive LogLevel where
  | spam | debug | verbose | info | notice | warning | error | critical
deriving DecidableEq

/-- `LogLevel.__members__`. -/
def LogLevel.members : List (Text × LogLevel) :=
  [("SPAM".toList, .spam), ("DEBUG".toList, .debug), ("VERBOSE".toList, .verbose),
    ("INFO".toList, .info), ("NOTICE".toList, .notice), ("WARNING".toList, .warning),
    ("ERROR".toList, .error), ("CRITICAL".toList, .critical)]

/-- The number of a level. -/
def LogLevel.value : LogLevel → Nat
  | .spam => 5
  | .debug => 10
  | .verbose => 15
  | .info => 20
  | .notice => 25
  | .warning => 30
  | .error => 40
  | .critical => 50

/-- The integer attributes of the `logging` module that are not `LogLevel` names. -/
def loggingConstants : List (Text × Nat) :=
  [("WARN".toList, 30), ("FATAL".toList, 50), ("NOTSET".toList, 0)]

/-- `log_setup.parse_level_name`. -/
def parseLevelName (name : Text) : Option Nat :=
  let key := upper (strip name)
  if key = [] ∨ key = "DEFAULT".toList then none
  else match LogLevel.members.lookup key with
    | some level => some level.value
    | none => loggingConstants.lookup key

/-- What `datetime.fromisoformat(..).astimezone(utc).timestamp()` does with a text. -/
inductive IsoTime where
  | epoch : Int → IsoTime
  | valueError : IsoTime
  | overflowError : IsoTime
deriving DecidableEq

/-- The library functions the handler calls. -/
structure Host where
  /-- `base64.urlsafe_b64decode`, `none` where it raises. -/
  urlsafeB64decode : Text → Option Bytes
  hmacSha256 : (key message : Bytes) → Bytes
  /-- The epoch second of an ISO text of another form than `offsetSecond` reads, naive times
  read as UTC. -/
  otherIso : Text → IsoTime

/-- `fromisoformat` and `astimezone(timezone.utc)` of a text. A time with an offset can lie
outside the calendar in UTC, where the conversion overflows. -/
def Host.isoEpochSeconds (host : Host) (s : Text) : IsoTime :=
  match offsetSecond s with
  | some epoch =>
    if 0 ≤ epoch + secondsBeforeEpoch ∧ epoch + secondsBeforeEpoch < secondsOfAll then
      .epoch epoch
    else .overflowError
  | none => host.otherIso s

/-- `ServerAdminConfig`, as far as the endpoint reads it. -/
structure ServerAdminConfig where
  routeId : Text
  hmacSecretB64url : Option Text
  clockSkewSeconds : Int

/-- `ServerConfig`, with the value of the environment variable of the secret. -/
structure ServerConfig where
  admin : ServerAdminConfig
  /-- `THAUM_LOG_ADMIN_HMAC_SECRET_B64U`, empty when unset. -/
  secretVariable : Text

/-- `"=" * (-len(s) % 4)`. -/
def b64Padding (s : Text) : Text := List.replicate ((4 - s.length % 4) % 4) '='

/-- `admin_hmac_secret_bytes`. -/
def adminHmacSecretBytes (host : Host) (server : ServerConfig) : Option Bytes :=
  let fromEnvironment := strip server.secretVariable
  let raw :=
    if fromEnvironment = [] then strip (server.admin.hmacSecretB64url.getD []) else fromEnvironment
  if raw = [] then none
  else match host.urlsafeB64decode (raw ++ b64Padding raw) with
    | none => none
    | some key => if key.length = 32 then some key else none

/-- `_parse_iso_utc_epoch_seconds`. -/
def parseIsoUtcEpochSeconds (host : Host) (tsHeader : Text) : IsoTime :=
  let s := strip tsHeader
  host.isoEpochSeconds
    (if s.getLast? = some 'Z' then s.dropLast ++ "+00:00".toList else s)

/-- `normalize_loglevel_token`. -/
def normalizeLoglevelToken (raw : Text) : Text := upper (strip raw)

/-- `_NONCE_RE`: thirty-two lower-case hexadecimal digits. -/
def nonceWellFormed (nonce : Text) : Bool :=
  nonce.length == 32 && nonce.all fun c => c.isDigit || decide ('a' ≤ c ∧ c ≤ 'f')

/-- The scheme of a signature. -/
def adminScheme : Text := "thaum-log-level-v1".toList

/-- `build_canonical_message`, before its UTF-8 encoding. -/
def buildCanonicalMessage (routeId : Text) (epochSeconds : Int) (nonceHex loglevel : Text) : Text :=
  ['\n'].intercalate
    [adminScheme, "POST".toList, '/' :: routeId ++ "/log-level".toList,
      (toString epochSeconds).toList, nonceHex, "loglevel=".toList ++ loglevel, "v=1".toList, []]

def encodeUtf8 (text : Text) : Bytes := text.flatMap String.utf8EncodeChar

/-- `verify_signature`. -/
def verifySignature (host : Host) (key message : Bytes) (sigHeader : Text) : Bool :=
  if !startsWith sigHeader "HS256.".toList then false
  else
    let encoded := strip (sigHeader.drop 6)
    if encoded = [] then false
    else match host.urlsafeB64decode (encoded ++ b64Padding encoded) with
      | none => false
      | some expected => host.hmacSha256 key message == expected

/-- `_allowed_loglevel_name`. -/
def allowedLoglevelName (name : Text) : Bool :=
  let u := upper name
  u == "DEFAULT".toList || (LogLevel.members.lookup u).isSome

/-- The header values, blank when absent, and the decoded body, `none` when it is
not JSON. -/
structure Request where
  timestamp : Text
  nonce : Text
  signature : Text
  body : Option Json

/-- How a request fails: an error response, or the exception nothing catches. -/
inductive Failure where
  | error : (status : Nat) → (message : Text) → Failure
  | raisedOverflowError : Failure
deriving DecidableEq

namespace Failure

/-- A route that is not enabled. -/
def notFound : Failure := .error 404 "not found".toList
/-- A request that is not authenticated. -/
def unauthorized : Failure := .error 401 "unauthorized".toList
/-- A body that is not what is asked for. -/
def badRequest : Failure := .error 400 "bad request".toList
def expectedObject : Failure := .error 400 "expected JSON object".toList
/-- A transaction that failed. -/
def internalError : Failure := .error 500 "internal error".toList

end Failure

/-- How a call of the handler ends; `ok` is the 200 response. -/
inductive Reply where
  | ok : Reply
  | failed : Failure → Reply
deriving DecidableEq

/-- What the header checks establish before the clock is looked at. -/
structure Headers where
  key : Bytes
  routeId : Text
  nonce : Text
  signature : Text
  epoch : Int
deriving DecidableEq

/-- The checks of `handle_admin_log_level_post` up to the parsed timestamp. -/
def readHeaders (host : Host) (server : ServerConfig) (request : Request) :
    Except Failure Headers :=
  let routeId := strip server.admin.routeId
  match adminHmacSecretBytes host server with
  | none => .error .notFound
  | some key =>
    if routeId = [] then .error .notFound
    else
      let nonce := lower (strip request.nonce)
      let signature := strip request.signature
      if request.timestamp = [] ∨ nonce = [] ∨ signature = [] then .error .unauthorized
      else if !nonceWellFormed nonce then .error .unauthorized
      else match parseIsoUtcEpochSeconds host request.timestamp with
        | .valueError => .error .unauthorized
        | .overflowError => .error .raisedOverflowError
        | .epoch epoch => .ok { key, routeId, nonce, signature, epoch }

/-- The checks after the timestamp window: body, level name and signature. The
result is the canonical level name. -/
def readBody (host : Host) (headers : Headers) (body : Option Json) : Except Failure Text :=
  match body.bind Json.fields? with
  | none => .error .expectedObject
  | some payload =>
    if !(get "v".toList payload).equalsInt 1 then .error .badRequest
    else match get "loglevel".toList payload with
      | .str raw =>
        let level := normalizeLoglevelToken raw
        if !allowedLoglevelName level then .error .badRequest
        else
          let message := buildCanonicalMessage headers.routeId headers.epoch headers.nonce level
          if verifySignature host headers.key (encodeUtf8 message) headers.signature then .ok level
          else .error .unauthorized
      | _ => .error .badRequest

/-- `abs(now - req_epoch) <= skew` on the whole second of the clock reading. -/
def timestampAccepted (server : ServerConfig) (now : Nat) (epoch : Int) : Bool :=
  decide ((((now / 1000000 : Nat) : Int) - epoch).natAbs ≤ server.admin.clockSkewSeconds)

/-- A request that passed every check made before the database is touched. -/
structure Signed where
  nonce : Text
  epoch : Int
  level : Text
deriving DecidableEq

/-- The checks before the transaction. -/
def checkPost (host : Host) (server : ServerConfig) (request : Request) (now : Nat) :
    Except Failure Signed :=
  match readHeaders host server request with
  | .error failure => .error failure
  | .ok headers =>
    if !timestampAccepted server now headers.epoch then .error .unauthorized
    else match readBody host headers request.body with
      | .error failure => .error failure
      | .ok level => .ok { nonce := headers.nonce, epoch := headers.epoch, level }

/-- `datetime.max` in microseconds since the epoch. -/
def datetimeMax : Int := 253402300799999999

/-- `datetime.now(utc) + timedelta(seconds=skew + 120)`, `none` where it overflows. -/
def nonceExpiry (server : ServerConfig) (now : Nat) : Option Int :=
  let expires := (now : Int) + (server.admin.clockSkewSeconds + 120) * 1000000
  if expires ≤ datetimeMax then some expires else none

/-- The expiry of a nonce is two minutes behind the skew, and there is one only within the years of
`datetime`. -/
theorem nonceExpiry_eq_some {server : ServerConfig} {now : Nat} {expiresAt : Int} :
    nonceExpiry server now = some expiresAt ↔
      expiresAt = (now : Int) + (server.admin.clockSkewSeconds + 120) * 1000000 ∧
        expiresAt ≤ datetimeMax := by
  simp only [nonceExpiry]
  split
  · simp only [Option.some.injEq]
    omega
  · simp only [reduceCtorEq, false_iff]
    omega

/-- A row of the nonces. -/
structure AdminLogNonce where
  nonce : Text
  expiresAt : Int
deriving DecidableEq

/-- The row of the level. -/
structure AdminLogLevelState where
  logLevel : Option Text
  updatedAt : Nat
deriving DecidableEq

/-- The two tables of the endpoint; the level row is a singleton. -/
structure Database where
  nonces : List AdminLogNonce
  state : Option AdminLogLevelState

/-- `delete(AdminLogNonce).where(expires_at < now)`. -/
def purge (now : Nat) (nonces : List AdminLogNonce) : List AdminLogNonce :=
  ExpiringRows.purge AdminLogNonce.expiresAt now nonces

/-- The log level globals of one process. -/
structure WorkerLog where
  configuredRootLevel : Nat
  rootLevel : Nat
  lastDbLogState : Option (Option Text × Nat)

/-- `set_runtime_root_log_level`. -/
def setRuntimeRootLogLevel (level : Option Nat) (log : WorkerLog) : WorkerLog :=
  { log with rootLevel := level.getD log.configuredRootLevel }

/-- `mark_db_log_state_applied`. -/
def markDbLogStateApplied (level : Option Text) (updatedAt : Nat) (log : WorkerLog) : WorkerLog :=
  { log with lastDbLogState := some (level, updatedAt) }

/-- One POST: the process that handles it, the request, the clock readings for the
timestamp check, the nonce expiry and the purge, and whether the database
carries the transaction out. -/
structure Post where
  worker : Nat
  request : Request
  now : Nat
  expiresNow : Nat
  nowDt : Nat
  commits : Bool

/-- `handle_admin_log_level_post`. A replayed nonce still commits the purge. -/
def handleAdminLogLevelPost (host : Host) (server : ServerConfig) (post : Post)
    (db : Database) (log : WorkerLog) : Reply × Database × WorkerLog :=
  match checkPost host server post.request post.now with
  | .error failure => (.failed failure, db, log)
  | .ok signed =>
    match nonceExpiry server post.expiresNow with
    | none => (.failed .raisedOverflowError, db, log)
    | some expiresAt =>
      let dbLevel := if signed.level = "DEFAULT".toList then none else some signed.level
      let nonces := purge post.nowDt db.nonces
      if !post.commits then (.failed .internalError, db, log)
      else match KeyedRows.get AdminLogNonce.nonce signed.nonce nonces with
        | some _ => (.failed .unauthorized, { db with nonces }, log)
        | none =>
          (.ok,
            { nonces := nonces ++ [{ nonce := signed.nonce, expiresAt }]
              state := some { logLevel := dbLevel, updatedAt := post.nowDt } },
            markDbLogStateApplied dbLevel post.nowDt
              (setRuntimeRootLogLevel (dbLevel.bind parseLevelName) log))

variable {host : Host} {server : ServerConfig} {request : Request} {signed : Signed} {now : Nat}

/-- What the checks establish: the headers, the window and the signed body. What a checked request
is taken for is read off these parts. -/
theorem checkPost_ok_iff : checkPost host server request now = .ok signed ↔
    ∃ headers, readHeaders host server request = .ok headers ∧
      timestampAccepted server now headers.epoch = true ∧
      readBody host headers request.body = .ok signed.level ∧
      signed.nonce = headers.nonce ∧ signed.epoch = headers.epoch := by
  unfold checkPost
  cases headersRead : readHeaders host server request with
  | error failure => simp
  | ok headers =>
    by_cases inWindow : timestampAccepted server now headers.epoch = true
    · cases bodyRead : readBody host headers request.body with
      | error failure => simp [inWindow, bodyRead]
      | ok level =>
        simp only [inWindow, bodyRead, Bool.not_true, Bool.false_eq_true, if_false, Except.ok.injEq]
        constructor
        · rintro rfl
          exact ⟨headers, rfl, inWindow, bodyRead, rfl, rfl⟩
        · rintro ⟨_, rfl, _, level, nonce, epoch⟩
          rw [bodyRead, Except.ok.injEq] at level
          rw [level, ← nonce, ← epoch]
    · simp [inWindow]

/-- Whole seconds within the skew of the signed time, on either side. -/
theorem timestampAccepted_iff {epoch : Int} : timestampAccepted server now epoch = true ↔
    epoch - server.admin.clockSkewSeconds ≤ ((now / 1000000 : Nat) : Int) ∧
      ((now / 1000000 : Nat) : Int) ≤ epoch + server.admin.clockSkewSeconds := by
  simp only [timestampAccepted, decide_eq_true_eq]
  omega

/-- A request that passes is within the window of its signed time. -/
theorem checkPost_window (checked : checkPost host server request now = .ok signed) :
    timestampAccepted server now signed.epoch = true := by
  obtain ⟨headers, _, inWindow, _, _, epoch⟩ := checkPost_ok_iff.mp checked
  exact epoch ▸ inWindow

/-- The clock enters the checks through the timestamp window only, so a request that passes at one
time passes at every time within its window. -/
theorem checkPost_at {later : Nat} (checked : checkPost host server request now = .ok signed)
    (inWindow : timestampAccepted server later signed.epoch = true) :
    checkPost host server request later = .ok signed := by
  obtain ⟨headers, headersRead, _, bodyRead, nonce, epoch⟩ := checkPost_ok_iff.mp checked
  exact checkPost_ok_iff.mpr ⟨headers, headersRead, epoch ▸ inWindow, bodyRead, nonce, epoch⟩

/-- A request is signed for one time, nonce and level, whenever it is checked. -/
theorem checkPost_unique {later : Nat} {again : Signed}
    (checked : checkPost host server request now = .ok signed)
    (recheck : checkPost host server request later = .ok again) : again = signed := by
  have inWindow := checkPost_window recheck
  obtain ⟨headers, headersRead, _, bodyRead, nonce, epoch⟩ := checkPost_ok_iff.mp recheck
  obtain ⟨_, sameHeaders, _, sameBody, nonceBefore, epochBefore⟩ := checkPost_ok_iff.mp checked
  obtain rfl := Except.ok.inj (headersRead.symm.trans sameHeaders)
  have level := Except.ok.inj (bodyRead.symm.trans sameBody)
  cases again
  cases signed
  simp_all

variable {post : Post} {db : Database} {log : WorkerLog}

/-- A 200 reply means checked, committed, and recorded under a nonce no live row holds. Nothing else
leads to one. -/
theorem handlePost_ok_iff : (handleAdminLogLevelPost host server post db log).1 = .ok ↔
    ∃ signed expiresAt, checkPost host server post.request post.now = .ok signed ∧
      nonceExpiry server post.expiresNow = some expiresAt ∧ post.commits = true ∧
      ∀ row ∈ purge post.nowDt db.nonces, row.nonce ≠ signed.nonce := by
  simp only [← KeyedRows.get_none_iff]
  unfold handleAdminLogLevelPost
  cases checked : checkPost host server post.request post.now with
  | error failure => simp
  | ok signed =>
    cases expiry : nonceExpiry server post.expiresNow with
    | none => simp
    | some expiresAt =>
      cases committed : post.commits with
      | false => simp
      | true =>
        cases replayed : KeyedRows.get AdminLogNonce.nonce signed.nonce
            (purge post.nowDt db.nonces) with
        | some row =>
          simp only [replayed, Except.ok.injEq, Option.some.injEq, Bool.not_true,
            Bool.false_eq_true, if_false, reduceCtorEq, exists_eq_left', exists_and_left, true_and]
        | none =>
          simp only [replayed, Except.ok.injEq, Option.some.injEq, Bool.not_true,
            Bool.false_eq_true, if_false, exists_eq_left', exists_and_left, and_self]

/-- A POST leaves the nonces alone, purges them, or purges them and adds its own. So no POST takes a
nonce away before it has expired. -/
theorem handlePost_nonces :
    (handleAdminLogLevelPost host server post db log).2.1.nonces = db.nonces ∨
      ∃ added, (handleAdminLogLevelPost host server post db log).2.1.nonces =
        purge post.nowDt db.nonces ++ added := by
  unfold handleAdminLogLevelPost
  split
  · exact Or.inl rfl
  · split
    · exact Or.inl rfl
    · dsimp only
      split
      · exact Or.inl rfl
      · split
        · exact Or.inr ⟨[], (List.append_nil _).symm⟩
        · exact Or.inr ⟨_, rfl⟩

/-- An answered POST leaves the row of its nonce behind, with its expiry. -/
theorem handlePost_records {expiresAt : Int}
    (answered : (handleAdminLogLevelPost host server post db log).1 = .ok)
    (checked : checkPost host server post.request post.now = .ok signed)
    (expiry : nonceExpiry server post.expiresNow = some expiresAt) :
    (handleAdminLogLevelPost host server post db log).2.1.nonces =
      purge post.nowDt db.nonces ++ [{ nonce := signed.nonce, expiresAt }] := by
  obtain ⟨_, _, checkedAlso, _, committed, fresh⟩ := handlePost_ok_iff.mp answered
  obtain rfl := Except.ok.inj (checked.symm.trans checkedAlso)
  have unreplayed := KeyedRows.get_none_iff.mpr fresh
  simp only [handleAdminLogLevelPost, checked, expiry, committed, unreplayed, Bool.not_true,
    Bool.false_eq_true, if_false]

end Thaum.AdminLogLevel
