import Thaum.Admin.ClientRequest

/-!
# The answers of the log-level endpoint

The handler answers what it refuses and what the database refuses. It catches the
`ValueError` of a timestamp that it cannot read, and every error of the database; a body
that is not JSON is read as nothing.

Three errors pass through it. A timestamp next to the ends of the calendar overflows where
it is converted to UTC, a body that nests too deep ends in a `RecursionError`, and the
expiry of the nonce overflows past the last year of `datetime`. None of the three leaves
a trace in the tables or in the logging of the process.

A body is bytes here, and how its reading ends is worked out for the JSON texts in UTF-8.
What the decoder makes of other encodings and of lone surrogates is left open.
-/

namespace Thaum.AdminLogLevel

open PyText JsonText
open PyJson (Json)
open PyBytes (decodeUtf8)

/-- How `request.get_json(force=True, silent=True)` ends: with what the body decodes to,
`none` where it is not JSON, or with the error of a body that nests too deep. -/
inductive Decoded where
  | value : Option Json → Decoded
  | recursionError : Decoded

/-- How it ends at a body in UTF-8, to a decoder that goes down so many levels. It is not
worked out for the texts that show another encoding, by a NUL or a byte order mark, nor for
those with a lone surrogate. -/
def decodedUtf8 (depth : Nat) (data : Bytes) : Option Decoded :=
  (decodeUtf8 data).bind fun text =>
    if Char.ofNat 0 ∈ text ∨ text.head? = some (Char.ofNat 0xfeff) then none
    else match loads depth text with
      | .error .tooDeep => some .recursionError
      | .error _ => some (.value none)
      | .ok value => (toJson? value).map fun json => .value (some json)

/-- The body of a request and how its reading ends. -/
structure Body where
  data : Bytes
  /-- How far down the decoder goes. -/
  depth : Nat
  decoded : Decoded
  reads : ∀ known, decodedUtf8 depth data = some known → decoded = known

/-- The body nests deeper than the decoder goes. -/
def Body.TooDeep (body : Body) : Prop := body.decoded = .recursionError

/-- What the handler goes on with, `none` where the body is not JSON. -/
def Body.json (body : Body) : Option Json :=
  match body.decoded with
  | .value json => json
  | .recursionError => none

instance (body : Body) : Decidable body.TooDeep :=
  match decoded : body.decoded with
  | .value _ => isFalse fun deep => nomatch decoded.symm.trans deep
  | .recursionError => isTrue decoded

/-- The POST with what its body decodes to. -/
def Post.withBody (post : Post) (body : Body) : Post :=
  { post with request := { post.request with body := body.json } }

/-- The exceptions that nothing catches. -/
inductive Raised where
  | overflowError | recursionError
deriving DecidableEq

variable (host : Host) (server : ServerConfig)

/-- The handler gets past the headers and the window, to the body. -/
def readsBody (request : Request) (now : Nat) : Bool :=
  match readHeaders host server request with
  | .ok headers => timestampAccepted server now headers.epoch
  | .error _ => false

/-- `handle_admin_log_level_post` with how it ends. The body is read after the headers and
the window are checked, and a body that nests too deep ends the call there. -/
def answerPost (body : Body) (post : Post) (db : Database) (log : WorkerLog) :
    Except Raised Reply × Database × WorkerLog :=
  if readsBody host server post.request post.now && decide body.TooDeep then
    (.error .recursionError, db, log)
  else
    let handled := handleAdminLogLevelPost host server (post.withBody body) db log
    if handled.1 = .failed .raisedOverflowError then (.error .overflowError, handled.2)
    else (.ok handled.1, handled.2)

/-- The signature of the request is one of its route, time, nonce and level. -/
def RightlySigned (request : Request) : Prop :=
  ∃ headers level, readHeaders host server request = .ok headers ∧
    readBody host headers request.body = .ok level ∧
    verifySignature host headers.key
      (encodeUtf8 (buildCanonicalMessage headers.routeId headers.epoch headers.nonce level))
      headers.signature = true

/-- The request is answered; unless it is answered 200 the level row and the logging of the
process stay as they are, and unless it is rightly signed the nonces do. -/
structure AnsweredSafely (body : Body) (post : Post) (db : Database) (log : WorkerLog) :
    Prop where
  answered : ∃ reply, (answerPost host server body post db log).1 = .ok reply
  untouched : (answerPost host server body post db log).1 ≠ .ok .ok →
    (answerPost host server body post db log).2.1.state = db.state ∧
      (answerPost host server body post db log).2.2 = log
  unspent : ¬ RightlySigned host server (post.withBody body).request →
    (answerPost host server body post db log).2.1.nonces = db.nonces

/-- The endpoint has a key and a route, the nonce is well formed, there is a signature, and
the timestamp overflows. -/
def TimeOverflows (request : Request) : Prop :=
  (adminHmacSecretBytes host server).isSome = true ∧ strip server.admin.routeId ≠ [] ∧
    request.timestamp ≠ [] ∧ strip request.signature ≠ [] ∧
    nonceWellFormed (lower (strip request.nonce)) = true ∧
    parseIsoUtcEpochSeconds host request.timestamp = .overflowError

/-- The request passes every check, and the expiry of its nonce overflows. -/
def ExpiryOverflows (post : Post) : Prop :=
  (∃ signed, checkPost host server post.request post.now = .ok signed) ∧
    nonceExpiry server post.expiresNow = none

variable {host server} {request : Request} {post : Post} {db : Database} {log : WorkerLog}
  {body : Body}

/-- The headers raise exactly at a timestamp that overflows. Every other error of theirs is caught
and answered. -/
theorem readHeaders_raises :
    readHeaders host server request = .error .raisedOverflowError ↔
      TimeOverflows host server request := by
  unfold readHeaders TimeOverflows
  cases isKey : adminHmacSecretBytes host server with
  | none => simp [Failure.notFound]
  | some key =>
    by_cases unrouted : strip server.admin.routeId = []
    · simp [unrouted, Failure.notFound]
    · by_cases blank : request.timestamp = [] ∨ lower (strip request.nonce) = [] ∨
        strip request.signature = []
      · have incomplete : ¬ (request.timestamp ≠ [] ∧ strip request.signature ≠ [] ∧
            nonceWellFormed (lower (strip request.nonce)) = true) := by
          rintro ⟨timed, signed, wellFormed⟩
          rcases blank with untimed | unnumbered | unsigned
          · exact timed untimed
          · rw [unnumbered] at wellFormed
            exact absurd wellFormed (by decide)
          · exact signed unsigned
        simp only [unrouted, blank, if_true, if_false, Failure.unauthorized]
        refine iff_of_false (by simp) ?_
        rintro ⟨-, -, timed, signed, wellFormed, -⟩
        exact incomplete ⟨timed, signed, wellFormed⟩
      · simp only [unrouted, blank, if_false]
        rw [not_or, not_or] at blank
        cases wellFormed : nonceWellFormed (lower (strip request.nonce)) with
        | false => simp [Failure.unauthorized]
        | true =>
          cases parsed : parseIsoUtcEpochSeconds host request.timestamp with
          | epoch epoch => simp
          | valueError => simp [Failure.unauthorized]
          | overflowError => simp [unrouted, blank]

/-- The checks of a decoded body raise nothing, whatever the body is. -/
theorem readBody_answers {headers : Headers} {body : Option Json} :
    readBody host headers body ≠ .error .raisedOverflowError := by
  unfold readBody
  split
  · simp [Failure.expectedObject]
  · split
    · simp [Failure.badRequest]
    · split
      · dsimp only
        split
        · simp [Failure.badRequest]
        · split
          · simp
          · simp [Failure.unauthorized]
      · simp [Failure.badRequest]

/-- The checks raise exactly at a timestamp that overflows, as they read the headers first. -/
theorem checkPost_raises {now : Nat} :
    checkPost host server request now = .error .raisedOverflowError ↔
      TimeOverflows host server request := by
  rw [← readHeaders_raises]
  unfold checkPost
  cases headersRead : readHeaders host server request with
  | error failure => simp
  | ok headers =>
    refine iff_of_false ?_ (by simp)
    dsimp only
    split
    · simp [Failure.unauthorized]
    · cases bodyRead : readBody host headers request.body with
      | error failure =>
        dsimp only
        intro raised
        obtain rfl := Except.error.inj raised
        exact readBody_answers bodyRead
      | ok level => simp

/-- The handler raises at a timestamp that overflows, and where the expiry does. The first comes of
the headers, the second after all checks have been passed. -/
theorem handlePost_raises :
    (handleAdminLogLevelPost host server post db log).1 = .failed .raisedOverflowError ↔
      TimeOverflows host server post.request ∨ ExpiryOverflows host server post := by
  rw [ExpiryOverflows, ← checkPost_raises]
  unfold handleAdminLogLevelPost
  cases checked : checkPost host server post.request post.now with
  | error failure => simp
  | ok signed =>
    cases expiry : nonceExpiry server post.expiresNow with
    | none => simp
    | some expiresAt =>
      refine iff_of_false ?_ (by simp)
      dsimp only
      split
      · simp [Failure.internalError]
      · split
        · simp [Failure.unauthorized]
        · simp

/-- Unless it is answered 200 a POST leaves the level row and the logging alone; it may have purged
nonces by then. -/
theorem handlePost_untouched
    (refused : (handleAdminLogLevelPost host server post db log).1 ≠ .ok) :
    (handleAdminLogLevelPost host server post db log).2.1.state = db.state ∧
      (handleAdminLogLevelPost host server post db log).2.2 = log := by
  unfold handleAdminLogLevelPost at refused ⊢
  cases checked : checkPost host server post.request post.now with
  | error failure => exact ⟨rfl, rfl⟩
  | ok signed =>
    rw [checked] at refused
    cases expiry : nonceExpiry server post.expiresNow with
    | none => exact ⟨rfl, rfl⟩
    | some expiresAt =>
      rw [expiry] at refused
      dsimp only at refused ⊢
      split at refused
      · rename_i failed
        rw [if_pos failed]
        exact ⟨rfl, rfl⟩
      · rename_i committed
        rw [if_neg committed]
        cases replayed : KeyedRows.get AdminLogNonce.nonce signed.nonce
            (purge post.nowDt db.nonces) with
        | some row => exact ⟨rfl, rfl⟩
        | none =>
          rw [replayed] at refused
          exact absurd rfl refused

/-- A body that passes was signed under its own headers, as the signature is the last of the
checks. -/
theorem readBody_signed {headers : Headers} {body : Option Json} {level : Text}
    (read : readBody host headers body = .ok level) :
    verifySignature host headers.key
      (encodeUtf8 (buildCanonicalMessage headers.routeId headers.epoch headers.nonce level))
      headers.signature = true := by
  unfold readBody at read
  split at read
  · cases read
  · split at read
    · cases read
    · split at read
      · dsimp only at read
        split at read
        · cases read
        · split at read
          · rename_i verified
            obtain rfl := Except.ok.inj read
            exact verified
          · cases read
      · cases read

/-- A request that is not rightly signed leaves the nonces alone: the purge stands behind the
checks. -/
theorem handlePost_unspent (wrong : ¬ RightlySigned host server post.request) :
    (handleAdminLogLevelPost host server post db log).2.1.nonces = db.nonces := by
  unfold handleAdminLogLevelPost
  cases checked : checkPost host server post.request post.now with
  | error failure => rfl
  | ok signed =>
    obtain ⟨headers, headersRead, _, bodyRead, _, _⟩ := checkPost_ok_iff.mp checked
    exact absurd ⟨headers, signed.level, headersRead, bodyRead, readBody_signed bodyRead⟩ wrong

/-- A POST is answered, and changes nothing unless it is accepted, exactly where neither its
timestamp nor the expiry of its nonce overflows and a body that is read does not nest too
deep.

Proof: a body that is read and nests too deep raises. Otherwise the answer is the handler's,
which raises exactly at the two overflows and leaves alone what it refuses. -/
theorem answered_safely_iff (host : Host) (server : ServerConfig) (body : Body) (post : Post)
    (db : Database) (log : WorkerLog) :
    AnsweredSafely host server body post db log ↔
      ¬ TimeOverflows host server post.request ∧
        ¬ ExpiryOverflows host server (post.withBody body) ∧
        ¬ (readsBody host server post.request post.now = true ∧ body.TooDeep) := by
  by_cases recursion : (readsBody host server post.request post.now &&
      decide body.TooDeep) = true
  · have deep := Bool.and_eq_true_iff.mp recursion
    rw [decide_eq_true_iff] at deep
    refine iff_of_false ?_ fun condition => condition.2.2 deep
    rintro ⟨⟨reply, answered⟩, -, -⟩
    rw [answerPost, if_pos recursion] at answered
    cases answered
  · have shallow : ¬ (readsBody host server post.request post.now = true ∧ body.TooDeep) :=
      fun deep => recursion (Bool.and_eq_true_iff.mpr ⟨deep.1, decide_eq_true deep.2⟩)
    have untouched := @handlePost_untouched host server (post.withBody body) db log
    have unspent := @handlePost_unspent host server (post.withBody body) db log
    by_cases raised : (handleAdminLogLevelPost host server (post.withBody body) db log).1 =
        .failed .raisedOverflowError
    · have overflows := handlePost_raises.mp raised
      refine iff_of_false ?_ ?_
      · rintro ⟨⟨reply, answered⟩, -, -⟩
        rw [answerPost, if_neg recursion] at answered
        dsimp only at answered
        rw [if_pos raised] at answered
        cases answered
      · rintro ⟨noTime, noExpiry, -⟩
        exact overflows.elim noTime noExpiry
    · have contained := not_or.mp fun overflows => raised (handlePost_raises.mpr overflows)
      refine iff_of_true ?_ ⟨contained.1, contained.2, shallow⟩
      have same : answerPost host server body post db log =
          (.ok (handleAdminLogLevelPost host server (post.withBody body) db log).1,
            (handleAdminLogLevelPost host server (post.withBody body) db log).2) := by
        rw [answerPost, if_neg recursion]
        exact if_neg raised
      constructor
      · rw [same]
        exact ⟨_, rfl⟩
      · rw [same]
        intro refused
        exact untouched fun accepted => refused (congrArg Except.ok accepted)
      · rw [same]
        exact unspent

section Example

/-- The first midnight of the calendar, an hour east of Greenwich. -/
def beforeTime : Text := "0001-01-01T00:00:00+01:00".toList

/-- A request without a body. -/
def emptyBody : Body where
  data := []
  depth := 1000
  decoded := .value none
  reads := by
    intro known read
    have nothing : decodedUtf8 1000 [] = some (.value none) := rfl
    exact Option.some.inj (nothing.symm.trans read)

/-- A request with a nonce and a signature that anybody can make up. -/
def overflowingPost : Post where
  worker := 0
  request := { timestamp := beforeTime, nonce := List.replicate 32 '0', signature := ['x']
               body := none }
  now := 0
  expiresNow := 0
  nowDt := 0
  commits := true

/-- Nobody answers it, although neither a key nor a signature was needed to make it up. -/
theorem overflowing_time_unanswered :
    (answerPost exampleHost (zeroServer 300) emptyBody overflowingPost ⟨[], none⟩
        ⟨30, 30, none⟩).1 = .error .overflowError ∧
      ¬ AnsweredSafely exampleHost (zeroServer 300) emptyBody overflowingPost ⟨[], none⟩
        ⟨30, 30, none⟩ := by
  have raised : (answerPost exampleHost (zeroServer 300) emptyBody overflowingPost ⟨[], none⟩
      ⟨30, 30, none⟩).1 = .error .overflowError := by decide +kernel
  refine ⟨raised, ?_⟩
  rintro ⟨⟨reply, answered⟩, -, -⟩
  rw [raised] at answered
  cases answered

end Example

end Thaum.AdminLogLevel
