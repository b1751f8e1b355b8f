import Thaum.Library.GuardedRuns
import Thaum.Admin.LogLevel

/-!
# Replay protection over runs

POSTs on any workers and the leader's nonce purge act on one database in the
order of their clock readings. A handler may take up to `delay` microseconds
from its timestamp check to its transaction; the results hold for every bound.

A request is accepted at any second up to `epoch + skew`, while its nonce is kept
for `skew + 120` seconds from its arrival. The two meet only when the signed time
is at most two minutes ahead of the server: such a request is answered 200 at
most once in any run, and every other answered request can be replayed once its
nonce has been purged.
-/

namespace Thaum.AdminReplay

open PyText PyJson AdminLogLevel GuardedRuns ExpiringRows

/-- The shared database, the processes and the time of the last transaction. -/
structure Deployment where
  db : Database
  workers : Nat → WorkerLog
  clock : Nat

/-- What acts on the nonces. -/
inductive Event where
  | post : Post → Event
  | purgeAdminNonces : (now : Nat) → Event

/-- One event; `purge_admin_nonces` is the leader task of that name. -/
def step (host : Host) (server : ServerConfig) (state : Deployment) : Event → Deployment
  | .post post =>
    let handled := handleAdminLogLevelPost host server post state.db (state.workers post.worker)
    { db := handled.2.1
      workers := fun worker => if worker = post.worker then handled.2.2 else state.workers worker
      clock := post.nowDt }
  | .purgeAdminNonces now =>
    { state with db := { state.db with nonces := purge now state.db.nonces }, clock := now }

/-- Clock readings do not go back, and a handler is done within the delay. -/
def InOrder (delay : Nat) (state : Deployment) : Event → Prop
  | .post post => state.clock ≤ post.nowDt ∧ post.now ≤ post.expiresNow ∧
      post.expiresNow ≤ post.nowDt ∧ post.nowDt ≤ post.now + delay
  | .purgeAdminNonces now => state.clock ≤ now

/-- The last instant at which a transaction for the signed time can run. -/
def lastAcceptance (server : ServerConfig) (delay : Nat) (epoch : Int) : Int :=
  (epoch + server.admin.clockSkewSeconds) * 1000000 + 999999 + delay

/-- The signed time of a request that passes the checks is ahead of the server's
clock by no more than the two minutes the nonce outlives the window. -/
def Covered (host : Host) (server : ServerConfig) (delay : Nat) : Event → Prop
  | .post post => ∀ signed, checkPost host server post.request post.now = .ok signed →
      signed.epoch * 1000000 + 999999 + delay ≤ post.expiresNow + 120 * 1000000
  | .purgeAdminNonces _ => True

/-- The event is a POST of the request that is answered 200. -/
def Answered (host : Host) (server : ServerConfig) (request : Request) (state : Deployment) :
    Event → Prop
  | .post post => post.request = request ∧
      (handleAdminLogLevelPost host server post state.db (state.workers post.worker)).1 = .ok
  | .purgeAdminNonces _ => False

/-- The nonce of a signed request is spent until the request can no longer pass. -/
def Spent (server : ServerConfig) (delay : Nat) (signed : Signed) (state : Deployment) : Prop :=
  SpentUntil AdminLogNonce.nonce AdminLogNonce.expiresAt signed.nonce
    (lastAcceptance server delay signed.epoch) state.clock state.db.nonces

variable {host : Host} {server : ServerConfig} {delay : Nat} {state : Deployment} {event : Event}
  {signed : Signed} {post : Post} {request : Request}

/-- Every event leaves the nonces alone, or purges them at its reading and adds. This is all that
the run lemmas need to know of the handler. -/
theorem step_nonces (host : Host) (server : ServerConfig) (ordered : InOrder delay state event) :
    state.clock ≤ (step host server state event).clock ∧
      ((step host server state event).db.nonces = state.db.nonces ∨
        ∃ added, (step host server state event).db.nonces =
          purge (step host server state event).clock state.db.nonces ++ added) := by
  cases event with
  | post post => exact ⟨ordered.1, handlePost_nonces⟩
  | purgeAdminNonces now => exact ⟨ordered, Or.inr ⟨[], (List.append_nil _).symm⟩⟩

/-- A spent nonce stays spent: a later purge deletes it only after its deadline. -/
theorem spent_step (spent : Spent server delay signed state)
    (ordered : InOrder delay state event) :
    Spent server delay signed (step host server state event) := by
  obtain ⟨later, untouched | ⟨added, purged⟩⟩ := step_nonces host server ordered
  · rw [Spent, untouched]
    exact spentUntil_later spent (by exact_mod_cast later)
  · rw [Spent, purged]
    exact spentUntil_append (spentUntil_purge spent (by exact_mod_cast later))

/-- An accepted timestamp lies in the window, read on the handler's last reading, which may be later
than the one that was checked by the delay. -/
theorem within_last_acceptance
    (checked : checkPost host server post.request post.now = .ok signed)
    (quick : post.nowDt ≤ post.now + delay) :
    (post.nowDt : Int) ≤ lastAcceptance server delay signed.epoch := by
  have inWindow := timestampAccepted_iff.mp (checkPost_window checked)
  simp only [lastAcceptance]
  omega

/-- The row an answered POST leaves, and the state it is left in. -/
theorem answered_records (answered : Answered host server request state (.post post))
    (checked : checkPost host server post.request post.now = .ok signed) :
    (step host server state (.post post)).db.nonces =
      purge post.nowDt state.db.nonces ++
        [{ nonce := signed.nonce
           expiresAt := post.expiresNow + (server.admin.clockSkewSeconds + 120) * 1000000 }] := by
  obtain ⟨_, expiresAt, _, expiry, _⟩ := handlePost_ok_iff.mp answered.2
  rw [← (nonceExpiry_eq_some.mp expiry).1]
  exact handlePost_records answered.2 checked expiry

/-- Answering a covered request spends its nonce: the row it leaves is kept until the request can no
longer pass. -/
theorem covered_spends (answered : Answered host server request state (.post post))
    (checked : checkPost host server post.request post.now = .ok signed)
    (covered : Covered host server delay (.post post)) :
    Spent server delay signed (step host server state (.post post)) := by
  have margin := covered signed checked
  have stored : _ ∈ (step host server state (.post post)).db.nonces :=
    answered_records answered checked ▸ List.mem_append_right _ List.mem_cons_self
  apply spentUntil_of_mem stored
  simp only [lastAcceptance]
  omega

/-- While its nonce is spent, a request is not answered 200. The purge of the handler leaves the
row, and the handler finds it. -/
theorem spent_blocks {earlier : Nat} (spent : Spent server delay signed state)
    (checked : checkPost host server request earlier = .ok signed)
    (ordered : InOrder delay state event) : ¬ Answered host server request state event := by
  intro answered
  cases event with
  | purgeAdminNonces now => exact answered
  | post post =>
    obtain ⟨rfl, replied⟩ := answered
    obtain ⟨again, _, recheck, _, _, fresh⟩ := handlePost_ok_iff.mp replied
    obtain ⟨later, _, _, quick⟩ := ordered
    obtain rfl := checkPost_unique checked recheck
    obtain ⟨row, stored, keyed⟩ := found_of_spentUntil spent (by exact_mod_cast later)
      (within_last_acceptance recheck quick)
    exact fresh row stored keyed

/-- The POST at the last instant of a request's window, after the longest delay. -/
def lastReplay (server : ServerConfig) (delay : Nat) (post : Post) (signed : Signed) : Post :=
  let now := (signed.epoch + server.admin.clockSkewSeconds).toNat * 1000000 + 999999
  { post with now, expiresNow := now, nowDt := now + delay, commits := true }

/-- An answered request that is not covered can be replayed at the end of its window. Its row has
expired there, and the purge of the replay itself takes it away. -/
theorem uncovered_replayed (ordered : InOrder delay state (.post post))
    (answered : Answered host server request state (.post post))
    (checked : checkPost host server post.request post.now = .ok signed)
    (uncovered : ¬ Covered host server delay (.post post))
    (representable : lastAcceptance server delay signed.epoch +
      (server.admin.clockSkewSeconds + 120) * 1000000 ≤ datetimeMax) :
    InOrder delay (step host server state (.post post))
        (.post (lastReplay server delay post signed)) ∧
      Answered host server request (step host server state (.post post))
        (.post (lastReplay server delay post signed)) := by
  obtain ⟨_, _, _, quick⟩ := ordered
  have early : (post.nowDt : Int) ≤ lastAcceptance server delay signed.epoch :=
    within_last_acceptance checked quick
  have inWindow := timestampAccepted_iff.mp (checkPost_window checked)
  have positive : ((signed.epoch + server.admin.clockSkewSeconds).toNat : Int) =
      signed.epoch + server.admin.clockSkewSeconds := Int.toNat_of_nonneg (by omega)
  have beyond : (post.expiresNow : Int) + 120 * 1000000 <
      signed.epoch * 1000000 + 999999 + delay := by
    by_contra within
    apply uncovered
    intro again recheck
    rw [checkPost_unique checked recheck]
    omega
  simp only [lastAcceptance] at early representable
  refine ⟨⟨?_, le_rfl, Nat.le_add_right _ _, le_rfl⟩, answered.1, handlePost_ok_iff.mpr ?_⟩
  · simp only [step, lastReplay]
    omega
  · have again : timestampAccepted server (lastReplay server delay post signed).now signed.epoch
        = true := by
      apply timestampAccepted_iff.mpr
      simp only [lastReplay]
      omega
    have expiry : nonceExpiry server (lastReplay server delay post signed).expiresNow =
        some ((lastReplay server delay post signed).expiresNow +
          (server.admin.clockSkewSeconds + 120) * 1000000) := by
      refine nonceExpiry_eq_some.mpr ⟨rfl, ?_⟩
      simp only [lastReplay]
      omega
    refine ⟨signed, _, checkPost_at checked again, expiry, rfl, ?_⟩
    intro row kept
    obtain ⟨stored, live⟩ := mem_purge.mp kept
    rw [answered_records answered checked, List.mem_append, List.mem_singleton] at stored
    rcases stored with old | rfl
    · obtain ⟨_, _, recheck, _, _, fresh⟩ := handlePost_ok_iff.mp answered.2
      rw [← checkPost_unique checked recheck]
      exact fresh row old
    · simp only [lastReplay] at live
      omega

/-- In every ordered run of covered events each signed request is answered 200 at most once. A
request answered although it is not covered can be answered again as soon as its nonce has expired.

Proof: an answer spends the nonce, events keep it spent, and a spent nonce blocks, so that
`accepted_once` applies. Of a request that is not covered the replay is given, at the last instant
of its window. -/
theorem signed_request_answered_once (host : Host) (server : ServerConfig) (delay : Nat) :
    (∀ state events request,
      Guarded (step host server)
        (fun state event => InOrder delay state event ∧ Covered host server delay event)
        state events →
      AcceptedOnce (step host server) (Answered host server request) state events) ∧
    (∀ state post signed, InOrder delay state (.post post) →
      checkPost host server post.request post.now = .ok signed →
      Answered host server post.request state (.post post) →
      ¬ Covered host server delay (.post post) →
      lastAcceptance server delay signed.epoch +
        (server.admin.clockSkewSeconds + 120) * 1000000 ≤ datetimeMax →
      ∃ replay, replay.request = post.request ∧
        InOrder delay (step host server state (.post post)) (.post replay) ∧
        Answered host server post.request (step host server state (.post post))
          (.post replay)) := by
  constructor
  · intro state events request met
    refine accepted_once (fun spent state =>
      (∃ earlier, checkPost host server request earlier = .ok spent) ∧
        Spent server delay spent state) ?_ ?_ ?_ state events met
    · rintro state event ⟨_, covered⟩ answered
      cases event with
      | purgeAdminNonces now => exact answered.elim
      | post post =>
        obtain ⟨signed, _, checked, _⟩ := handlePost_ok_iff.mp answered.2
        exact ⟨signed, ⟨post.now, answered.1 ▸ checked⟩,
          covered_spends answered checked covered⟩
    · rintro spent state event ⟨passes, stored⟩ ⟨ordered, _⟩
      exact ⟨passes, spent_step stored ordered⟩
    · rintro spent state event ⟨⟨_, checked⟩, stored⟩ ⟨ordered, _⟩
      exact spent_blocks stored checked ordered
  · intro state post signed ordered checked answered uncovered representable
    exact ⟨lastReplay server delay post signed, rfl,
      uncovered_replayed ordered answered checked uncovered representable⟩

section Vector

/-- The documented test vector: the zero key, its route and its signed message. -/
def vectorKey : Bytes := List.replicate 32 0

/-- The signature of the vector. -/
def vectorMac : Bytes :=
  [202, 244, 49, 56, 193, 91, 174, 1, 54, 123, 203, 170, 72, 112, 9, 114,
    220, 80, 52, 41, 74, 189, 212, 61, 169, 142, 182, 36, 158, 134, 168, 246]

/-- The nonce of the vector. -/
def vectorNonce : Text := List.replicate 32 'a'

def vectorSignature : Text := "yvQxOMFbrgE2e8uqSHAJctxQNClKvdQ9qY62JJ6GqPY".toList

def vectorMessage : Bytes :=
  encodeUtf8 ("thaum-log-level-v1\nPOST\n/testrouteid001/log-level\n1700000000\n".toList ++
    vectorNonce ++ "\nloglevel=DEBUG\nv=1\n".toList)

/-- The library functions on the values of the vector. -/
def vectorHost : Host where
  urlsafeB64decode text :=
    if text = List.replicate 43 'A' ++ ['='] then some vectorKey
    else if text = vectorSignature ++ ['='] then some vectorMac
    else none
  hmacSha256 key message := if key = vectorKey ∧ message = vectorMessage then vectorMac else []
  otherIso _ := .valueError

/-- The default skew of 300 seconds. -/
def vectorServer : ServerConfig where
  admin :=
    { routeId := "testrouteid001".toList
      hmacSecretB64url := some (List.replicate 43 'A')
      clockSkewSeconds := 300 }
  secretVariable := []

def vectorRequest : Request where
  timestamp := "2023-11-14T22:13:20Z".toList
  nonce := vectorNonce
  signature := "HS256.".toList ++ vectorSignature
  body := some (.obj [("loglevel".toList, .str "DEBUG".toList), ("v".toList, .int 1)])

/-- A POST of the vector handled within one microsecond at the given second. -/
def vectorPost (second : Nat) : Post :=
  let now := second * 1000000
  { worker := 0, request := vectorRequest, now, expiresNow := now, nowDt := now, commits := true }

/-- No row, and the time before the vector. -/
def vectorStart : Deployment where
  db := { nonces := [], state := none }
  workers _ := { configuredRootLevel := 20, rootLevel := 20, lastDbLogState := none }
  clock := 0

/-- Within five minutes of its time the request of the vector passes the checks. -/
theorem vector_checked (now : Nat)
    (inWindow : timestampAccepted vectorServer now 1700000000 = true) :
    checkPost vectorHost vectorServer vectorRequest now =
      .ok { nonce := vectorNonce, epoch := 1700000000, level := "DEBUG".toList } :=
  checkPost_ok_iff.mpr
    ⟨{ key := vectorKey, routeId := "testrouteid001".toList, nonce := vectorNonce
       signature := "HS256.".toList ++ vectorSignature, epoch := 1700000000 },
      by decide +kernel, inWindow, by decide +kernel, rfl, rfl⟩

/-- Posted at the start of its window and at the end, the vector is answered twice. -/
theorem early_request_answered_twice :
    0 ≤ vectorServer.admin.clockSkewSeconds ∧
      Guarded (step vectorHost vectorServer) (InOrder 0) vectorStart
        [.post (vectorPost 1699999700), .post (vectorPost 1700000300)] ∧
      ¬ AcceptedOnce (step vectorHost vectorServer)
        (Answered vectorHost vectorServer vectorRequest) vectorStart
        [.post (vectorPost 1699999700), .post (vectorPost 1700000300)] := by
  refine ⟨by decide, by simp [InOrder, vectorPost, vectorStart, step, Guarded], ?_⟩
  intro once
  exact once [] _ [] _ [] rfl ⟨rfl, by decide +kernel⟩ ⟨rfl, by decide +kernel⟩

/-- The vector is covered from two minutes before its time on. -/
theorem vector_covered (second : Nat) (late : 1699999881 ≤ second) :
    Covered vectorHost vectorServer 0 (.post (vectorPost second)) := by
  intro signed checked
  have inWindow : timestampAccepted vectorServer 1700000000000000 1700000000 = true := by decide
  rw [checkPost_unique (vector_checked _ inWindow) checked]
  simp only [vectorPost]
  omega

/-- Posted at its own time, the vector is answered once, also after a purge. Posted
at the start of its window, it can be answered again. -/
theorem vector_answered_once :
    AcceptedOnce (step vectorHost vectorServer)
      (Answered vectorHost vectorServer vectorRequest) vectorStart
      [.post (vectorPost 1700000000), .purgeAdminNonces 1700000010000000,
        .post (vectorPost 1700000300)] ∧
    ∃ replay, replay.request = vectorRequest ∧
      InOrder 0 (step vectorHost vectorServer vectorStart (.post (vectorPost 1699999700)))
        (.post replay) ∧
      Answered vectorHost vectorServer vectorRequest
        (step vectorHost vectorServer vectorStart (.post (vectorPost 1699999700)))
        (.post replay) := by
  constructor
  · apply (signed_request_answered_once vectorHost vectorServer 0).1 vectorStart _ _
    exact ⟨⟨by simp [InOrder, vectorPost, vectorStart], vector_covered _ (by omega)⟩,
      ⟨by simp [InOrder, vectorPost, step], trivial⟩,
      ⟨by simp [InOrder, vectorPost, step], vector_covered _ (by omega)⟩, trivial⟩
  · have checked := vector_checked (1699999700 * 1000000) (by decide)
    refine (signed_request_answered_once vectorHost vectorServer 0).2 vectorStart
      (vectorPost 1699999700) _ ⟨Nat.zero_le _, le_rfl, le_rfl, le_rfl⟩ checked
      ⟨rfl, by decide +kernel⟩ ?_ (by decide)
    intro covered
    have margin := covered _ checked
    simp [vectorPost] at margin

end Vector

end Thaum.AdminReplay
