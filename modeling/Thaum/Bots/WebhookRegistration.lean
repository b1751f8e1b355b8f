import Thaum.Library.KeyedRows
import Thaum.Library.PyJson
import Thaum.Library.PyUrl
import Thaum.Settings.Secrets

/-!
# Registration of a bot's webhooks

`register_bot_webhook` lists the webhooks of the account, deletes those whose target is the
endpoint of the bot, and creates two new ones. The listing and every delete and create may
raise, and one that raises may have taken effect. While webhooks are pruned, the first error
ends the pruning with a warning; an error of a create is raised again. The probe of the
leader looks after the two webhooks and registers them again where one is amiss.
-/

namespace Thaum.Bots

open PyText PyUrl KeyedRows Settings

/-- A webhook of the Webex account. -/
structure WebexWebhook where
  id : Nat
  name : Text
  targetUrl : Option Text
  resource : Text
  event : Text
  secret : Option Text
deriving DecidableEq

/-- The webhooks of an account. Ids are given out in turn. -/
structure WebexAccount where
  hooks : List WebexWebhook
  issued : Nat
  keyed : Distinct WebexWebhook.id hooks
  known : ∀ hook ∈ hooks, hook.id < issued

namespace WebexAccount

/-- `webhooks.delete(id)`. -/
def delete (account : WebexAccount) (id : Nat) : WebexAccount where
  hooks := account.hooks.filter fun hook => hook.id != id
  issued := account.issued
  keyed := account.keyed.sublist (List.filter_sublist.map _)
  known hook listed := account.known hook (List.mem_of_mem_filter listed)

/-- `webhooks.create(…)`; the id of the webhook that is given is not looked at. -/
def create (account : WebexAccount) (hook : WebexWebhook) : WebexAccount where
  hooks := account.hooks ++ [{ hook with id := account.issued }]
  issued := account.issued + 1
  keyed := by
    apply distinct_append account.keyed
    rw [get_none_iff]
    intro other listed
    exact Nat.ne_of_lt (account.known other listed)
  known := by
    intro other listed
    rcases List.mem_append.mp listed with old | new
    · exact Nat.lt_succ_of_lt (account.known other old)
    · rw [List.mem_singleton.mp new]
      exact Nat.lt_succ_self account.issued

end WebexAccount

/-- How a request ends; one that raises may have taken effect. -/
inductive Request where
  | succeeds : Request
  | raises : (applied : Bool) → Request
deriving DecidableEq

/-- The request has taken effect. -/
def Request.applied : Request → Bool
  | .succeeds => true
  | .raises applied => applied

/-- The order in which an account's webhooks are listed. -/
structure Listing where
  order : List WebexWebhook → List WebexWebhook
  whole : ∀ hooks, (order hooks).Perm hooks

/-- What the calls of one registration come to: `listing` is `none` where `list` raises, and
`secret` is `none` where reading the secret raises. -/
structure RegisterCall where
  listing : Option Listing
  deletes : Nat → Request
  secret : Option (Option Text)
  createsMessages : Request
  createsActions : Request

/-- What the registration reads of a bot, and which network locations `urlsplit` accepts. -/
structure WebexBot where
  endpoint : Option Text
  handle : Text
  botKey : Option Text
  probeInterval : PyJson.Float
  netlocAllowed : Text → Bool

/-- The account, and what the bot remembers. -/
structure Registration where
  account : WebexAccount
  webhookIds : Option (Nat × Nat)
  lastProbe : Option Rat

/-- How a registration ends. -/
inductive RegisterEnd where
  | returned | raised
deriving DecidableEq

namespace WebexBot

variable (bot : WebexBot)

/-- `(self.endpoint or "").strip()`. -/
def target : Text := strip (bot.endpoint.getD [])

/-- `_normalize_target_url`. -/
def normalizeTargetUrl (url : Text) : Text := rstripSlash url

/-- `_normalize_target_url_for_prune`, `none` where it raises. -/
def normalizeTargetUrlForPrune (url : Text) : Option Text :=
  let normalized := normalizeTargetUrl url
  (urlsplit bot.netlocAllowed normalized).map fun parts =>
    if parts.netloc = [] then normalized
    else urlunsplit parts.netloc parts.path parts.query

/-- The webhook's target is the endpoint with this normal form; `none` where that raises. -/
def hookMatches (nt : Text) (hook : WebexWebhook) : Option Bool :=
  match hook.targetUrl with
  | none => some false
  | some url =>
    if url = [] then some false
    else (bot.normalizeTargetUrlForPrune url).map fun normalized => decide (normalized = nt)

/-- The loop over the listed webhooks, up to the first error. -/
def prune (call : RegisterCall) (nt : Text) : List WebexWebhook → WebexAccount → WebexAccount
  | [], account => account
  | hook :: hooks, account =>
    match bot.hookMatches nt hook with
    | none => account
    | some false => prune call nt hooks account
    | some true =>
      match call.deletes hook.id with
      | .succeeds => prune call nt hooks (account.delete hook.id)
      | .raises applied => if applied then account.delete hook.id else account

/-- The account after the pruning. -/
def pruned (call : RegisterCall) (nt : Text) (account : WebexAccount) : WebexAccount :=
  match call.listing with
  | none => account
  | some listing => bot.prune call nt (listing.order account.hooks) account

/-- The name of a webhook starts with it. -/
def namePrefix : Text :=
  let prefixText := "Thaum ".toList ++ bot.handle
  match bot.botKey with
  | none | some [] => prefixText
  | some botKey => prefixText ++ " [".toList ++ botKey ++ "]".toList

/-- A webhook that is created. -/
def webhook (secret : Option Text) (resource : Text) (id : Nat) : WebexWebhook where
  id := id
  name := bot.namePrefix ++ ' ' :: resource
  targetUrl := some bot.target
  resource := resource
  event := "created".toList
  secret := secret

/-- The two requests that create webhooks. -/
def createBoth (call : RegisterCall) (secret : Option Text) (state : Registration)
    (account : WebexAccount) : Registration × RegisterEnd :=
  let withMessages := account.create (bot.webhook secret "messages".toList 0)
  let withActions := withMessages.create (bot.webhook secret "attachmentActions".toList 0)
  match call.createsMessages with
  | .raises applied =>
    ({ state with account := if applied then withMessages else account }, .raised)
  | .succeeds =>
    match call.createsActions with
    | .raises applied =>
      ({ state with account := if applied then withActions else withMessages }, .raised)
    | .succeeds =>
      ({ state with
          account := withActions
          webhookIds := some (account.issued, withMessages.issued) }, .returned)

/-- `register_bot_webhook`. -/
def registerBotWebhook (call : RegisterCall) (state : Registration) :
    Registration × RegisterEnd :=
  if bot.target = [] then (state, .returned)
  else
    match bot.normalizeTargetUrlForPrune bot.target with
    | none => (state, .raised)
    | some nt =>
      let account := bot.pruned call nt state.account
      match call.secret with
      | none => ({ state with account := account }, .raised)
      | some secret => bot.createBoth call secret state account

/-- What a probe of the leader meets: the clock, what fetching a webhook by its id comes to,
the status of each, and a registration that it may lead to. -/
structure Visit where
  now : Rat
  fetchRaises : Nat → Bool
  status : Nat → Option Text
  call : RegisterCall

/-- `_elapsed < _interval` does not hold. -/
def probeDue (visit : Visit) (state : Registration) : Bool :=
  match state.lastProbe, bot.probeInterval with
  | none, _ => true
  | some last, .finite seconds => decide (seconds ≤ visit.now - last)
  | some _, .infinity negative => negative
  | some _, .nan => true

/-- The webhook is found, has the endpoint as its target, and is active. -/
def healthy (visit : Visit) (account : WebexAccount) (id : Nat) : Bool :=
  !visit.fetchRaises id &&
    match get WebexWebhook.id id account.hooks with
    | none => false
    | some hook =>
      hook.targetUrl.all (fun url =>
        decide (url = [] ∨ normalizeTargetUrl url = normalizeTargetUrl bot.target)) &&
        (visit.status id).all fun status => decide (lower status = "active".toList)

/-- `_leader_maintenance_tick` with `_probe_webhook_status`. -/
def probeWebhookStatus (visit : Visit) (state : Registration) : Registration × RegisterEnd :=
  if bot.target = [] then (state, .returned)
  else if bot.probeDue visit state then
    let probed := { state with lastProbe := some visit.now }
    match state.webhookIds with
    | none => bot.registerBotWebhook visit.call probed
    | some (first, second) =>
      if bot.healthy visit state.account first && bot.healthy visit state.account second then
        (probed, .returned)
      else bot.registerBotWebhook visit.call { probed with webhookIds := none }
  else (state, .returned)

/-- A call of `register_bot_webhook` by itself, or a tick of the leader. -/
inductive Occasion where
  | register : RegisterCall → Occasion
  | tick : Visit → Occasion

/-- What an occasion makes of the account and of what the bot remembers. -/
def occur (state : Registration) : Occasion → Registration
  | .register call => (bot.registerBotWebhook call state).1
  | .tick visit => (bot.probeWebhookStatus visit state).1

/-- Occasions one after the other. -/
def run (occasions : List Occasion) (state : Registration) : Registration :=
  occasions.foldl bot.occur state

/-- The pruning ends at this webhook: its target cannot be split, or its delete raises. -/
def Interrupts (call : RegisterCall) (nt : Text) (hook : WebexWebhook) : Prop :=
  bot.hookMatches nt hook = none ∨
    bot.hookMatches nt hook = some true ∧ call.deletes hook.id ≠ .succeeds

/-- The pruning reaches a webhook of the list, and its delete takes effect. -/
def Deletes (call : RegisterCall) (nt : Text) (listed : List WebexWebhook)
    (hook : WebexWebhook) : Prop :=
  ∃ front back, listed = front ++ hook :: back ∧
    (∀ earlier ∈ front, ¬bot.Interrupts call nt earlier) ∧
      bot.hookMatches nt hook = some true ∧ (call.deletes hook.id).applied = true

/-- The pruning deletes a webhook of the account. -/
def Prunes (call : RegisterCall) (nt : Text) (hooks : List WebexWebhook)
    (hook : WebexWebhook) : Prop :=
  ∃ listing, call.listing = some listing ∧ bot.Deletes call nt (listing.order hooks) hook

variable {bot} {call : RegisterCall} {nt : Text} {hook : WebexWebhook}
  {account : WebexAccount} {state : Registration}

/-- Deleting takes away the webhook of the id and no other. -/
theorem mem_delete {id : Nat} :
    hook ∈ (account.delete id).hooks ↔ hook ∈ account.hooks ∧ hook.id ≠ id := by
  simp [WebexAccount.delete]

/-- Creating adds one webhook, under the next id. -/
theorem mem_create {made : WebexWebhook} :
    hook ∈ (account.create made).hooks ↔
      hook ∈ account.hooks ∨ hook = { made with id := account.issued } := by
  simp [WebexAccount.create]

/-- The pruning of an empty list deletes nothing. -/
theorem not_deletes_nil : ¬bot.Deletes call nt [] hook := by
  rintro ⟨front, back, isSplit, _⟩
  exact absurd isSplit (by simp)

/-- The first of the listed webhooks is deleted, or the pruning goes on behind it. It goes on unless
the first one interrupts it. -/
theorem deletes_cons {first : WebexWebhook} {listed : List WebexWebhook} :
    bot.Deletes call nt (first :: listed) hook ↔
      (hook = first ∧ bot.hookMatches nt first = some true ∧
        (call.deletes first.id).applied = true) ∨
      (¬bot.Interrupts call nt first ∧ bot.Deletes call nt listed hook) := by
  constructor
  · rintro ⟨front, back, isSplit, undisturbed, matched, applied⟩
    cases front with
    | nil =>
      obtain ⟨same, _⟩ := List.cons.inj isSplit
      exact Or.inl ⟨same.symm, same ▸ matched, same ▸ applied⟩
    | cons head front =>
      obtain ⟨same, rest⟩ := List.cons.inj isSplit
      refine Or.inr ⟨same ▸ undisturbed head List.mem_cons_self, front, back, rest, ?_, matched,
        applied⟩
      intro earlier inFront
      exact undisturbed earlier (List.mem_cons_of_mem head inFront)
  · rintro (⟨rfl, matched, applied⟩ | ⟨goesOn, front, back, rfl, undisturbed, matched, applied⟩)
    · exact ⟨[], listed, rfl, by simp, matched, applied⟩
    · refine ⟨first :: front, back, rfl, ?_, matched, applied⟩
      intro earlier inFront
      rcases List.mem_cons.mp inFront with rfl | inFront
      · exact goesOn
      · exact undisturbed earlier inFront

/-- The loop deletes what it reaches and matches, and nothing else. The induction is on the listed
webhooks, whose ids are distinct. -/
theorem mem_prune {listed : List WebexWebhook} (stored : ∀ hook ∈ listed, hook ∈ account.hooks)
    (keyed : Distinct WebexWebhook.id listed) :
    hook ∈ (bot.prune call nt listed account).hooks ↔
      hook ∈ account.hooks ∧ ¬bot.Deletes call nt listed hook := by
  induction listed generalizing account with
  | nil =>
    rw [prune]
    simp [not_deletes_nil]
  | cons first listed inductionHypothesis =>
    obtain ⟨fresh, keyed⟩ := List.nodup_cons.mp keyed
    have firstStored := stored first List.mem_cons_self
    have stored (other : WebexWebhook) (member : other ∈ listed) : other ∈ account.hooks :=
      stored other (List.mem_cons_of_mem first member)
    have kept : hook ∈ account.hooks ∧ hook.id ≠ first.id ↔
        hook ∈ account.hooks ∧ hook ≠ first := by
      constructor
      · rintro ⟨member, different⟩
        exact ⟨member, fun same => different (congrArg WebexWebhook.id same)⟩
      · rintro ⟨member, different⟩
        exact ⟨member, fun same => different (eq_of_key account.keyed member firstStored same)⟩
    rw [prune, deletes_cons]
    cases matched : bot.hookMatches nt first with
    | none =>
      have interrupts : bot.Interrupts call nt first := Or.inl matched
      simp [interrupts]
    | some isMatch =>
      cases isMatch with
      | false =>
        have goesOn : ¬bot.Interrupts call nt first := by simp [Interrupts, matched]
        simp [goesOn, inductionHypothesis stored keyed]
      | true =>
        cases outcome : call.deletes first.id with
        | succeeds =>
          have goesOn : ¬bot.Interrupts call nt first := by simp [Interrupts, outcome, matched]
          have storedStill (other : WebexWebhook) (member : other ∈ listed) :
              other ∈ (account.delete first.id).hooks := by
            rw [mem_delete]
            refine ⟨stored other member, fun same => fresh ?_⟩
            exact List.mem_map.mpr ⟨other, member, same⟩
          dsimp only
          rw [inductionHypothesis storedStill keyed, mem_delete, kept]
          simp [goesOn, Request.applied, and_assoc]
        | raises applied =>
          have interrupts : bot.Interrupts call nt first := by
            right
            simp [matched, outcome]
          cases applied with
          | false => simp [interrupts, Request.applied]
          | true =>
            dsimp only
            rw [if_pos rfl, mem_delete, kept]
            simp [interrupts, Request.applied]

/-- The pruning deletes what it prunes; where the listing raises that is nothing. -/
theorem mem_pruned :
    hook ∈ (bot.pruned call nt account).hooks ↔
      hook ∈ account.hooks ∧ ¬bot.Prunes call nt account.hooks hook := by
  rw [pruned]
  cases listed : call.listing with
  | none =>
    have nothing : ¬bot.Prunes call nt account.hooks hook := by
      rintro ⟨listing, isListed, _⟩
      rw [listed] at isListed
      exact nomatch isListed
    simp [nothing]
  | some listing =>
    have whole := listing.whole account.hooks
    have iff : bot.Prunes call nt account.hooks hook ↔
        bot.Deletes call nt (listing.order account.hooks) hook := by
      simp [Prunes, listed]
    rw [iff]
    apply mem_prune
    · intro other member
      exact whole.subset member
    · exact (whole.map _).nodup_iff.mpr account.keyed

/-- Pruning gives out no ids. -/
theorem pruned_issued : (bot.pruned call nt account).issued = account.issued := by
  have looped (listed : List WebexWebhook) :
      (bot.prune call nt listed account).issued = account.issued := by
    induction listed generalizing account with
    | nil => rfl
    | cons first listed inductionHypothesis =>
      rw [prune]
      split
      · rfl
      · exact inductionHypothesis
      · split
        · exact inductionHypothesis
        · split
          · rfl
          · rfl
  rw [pruned]
  split
  · rfl
  · exact looped _

/-- Targets with one normal form have the same network location, path and query, as these can be
read off a URL that was put together of them. -/
theorem normalForm_parts {url own : Text} (read : bot.normalizeTargetUrlForPrune url = some nt)
    (ownRead : bot.normalizeTargetUrlForPrune own = some nt) :
    ∃ parts ownParts, urlsplit bot.netlocAllowed (normalizeTargetUrl url) = some parts ∧
      urlsplit bot.netlocAllowed (normalizeTargetUrl own) = some ownParts ∧
        parts.netloc = ownParts.netloc ∧ parts.path = ownParts.path ∧
          parts.query = ownParts.query := by
  obtain ⟨parts, isSplit, form⟩ := Option.map_eq_some_iff.mp read
  obtain ⟨ownParts, ownSplit, ownForm⟩ := Option.map_eq_some_iff.mp ownRead
  refine ⟨parts, ownParts, isSplit, ownSplit, ?_⟩
  have same := form.trans ownForm.symm
  by_cases located : parts.netloc = []
  · rw [if_pos located] at same
    by_cases ownLocated : ownParts.netloc = []
    · rw [if_pos ownLocated] at same
      rw [same, ownSplit] at isSplit
      cases isSplit
      exact ⟨rfl, rfl, rfl⟩
    · rw [if_neg ownLocated] at same
      rw [same] at isSplit
      have again := urlsplit_urlunsplit (urlsplit_located ownSplit ownLocated) isSplit
      exact absurd (again.symm.trans located) ownLocated
  · rw [if_neg located] at same
    by_cases ownLocated : ownParts.netloc = []
    · rw [if_pos ownLocated] at same
      rw [← same] at ownSplit
      have again := urlsplit_urlunsplit (urlsplit_located isSplit located) ownSplit
      exact absurd (again.symm.trans ownLocated) located
    · rw [if_neg ownLocated] at same
      exact urlunsplit_inj (urlsplit_located isSplit located)
        (urlsplit_located ownSplit ownLocated) same

variable (bot) in
/-- Slashes at the end apart, the webhook's target has the network location, the path and the
query of the endpoint. -/
def SameEndpoint (hook : WebexWebhook) : Prop :=
  ∃ url parts own, hook.targetUrl = some url ∧
    urlsplit bot.netlocAllowed (normalizeTargetUrl url) = some parts ∧
    urlsplit bot.netlocAllowed (normalizeTargetUrl bot.target) = some own ∧
    parts.netloc = own.netloc ∧ parts.path = own.path ∧ parts.query = own.query

/-- A webhook that matches has the endpoint as its target, slashes at the end apart. -/
theorem sameEndpoint_of_match (ownRead : bot.normalizeTargetUrlForPrune bot.target = some nt)
    (matched : bot.hookMatches nt hook = some true) : bot.SameEndpoint hook := by
  rw [hookMatches] at matched
  split at matched
  · exact nomatch matched
  · rename_i url isTarget
    split at matched
    · exact nomatch matched
    · obtain ⟨normalized, read, same⟩ := Option.map_eq_some_iff.mp matched
      rw [of_decide_eq_true same] at read
      obtain ⟨parts, own, isSplit, ownSplit, agree⟩ := normalForm_parts read ownRead
      exact ⟨url, parts, own, isTarget, isSplit, ownSplit, agree⟩

/-- What pruning takes away has the endpoint as its target, so a webhook with another target is
kept. -/
theorem pruned_kept (ownRead : bot.normalizeTargetUrlForPrune bot.target = some nt)
    (stored : hook ∈ account.hooks) (apart : ¬bot.SameEndpoint hook) :
    hook ∈ (bot.pruned call nt account).hooks := by
  refine mem_pruned.mpr ⟨stored, ?_⟩
  rintro ⟨listing, _, front, back, _, _, matched, _⟩
  exact apart (sameEndpoint_of_match ownRead matched)

/-- Creating webhooks takes none away. -/
theorem createBoth_kept {secret : Option Text} (stored : hook ∈ account.hooks) :
    hook ∈ (bot.createBoth call secret state account).1.account.hooks := by
  rw [createBoth]
  split
  · split
    · exact mem_create.mpr (Or.inl stored)
    · exact stored
  · split
    · split
      · exact mem_create.mpr (Or.inl (mem_create.mpr (Or.inl stored)))
      · exact mem_create.mpr (Or.inl stored)
    · exact mem_create.mpr (Or.inl (mem_create.mpr (Or.inl stored)))

/-- A registration deletes no webhook with another endpoint, however it ends. -/
theorem register_kept (stored : hook ∈ state.account.hooks) (apart : ¬bot.SameEndpoint hook) :
    hook ∈ (bot.registerBotWebhook call state).1.account.hooks := by
  rw [registerBotWebhook]
  split
  · exact stored
  · split
    · exact stored
    · rename_i nt ownRead
      have kept : hook ∈ (bot.pruned call nt state.account).hooks :=
        pruned_kept ownRead stored apart
      dsimp only
      split
      · exact kept
      · exact createBoth_kept kept

/-- Neither does any occasion: a visit of the leader does no more than register. -/
theorem occur_kept {occasion : Occasion} (stored : hook ∈ state.account.hooks)
    (apart : ¬bot.SameEndpoint hook) : hook ∈ (bot.occur state occasion).account.hooks := by
  cases occasion with
  | register call => exact register_kept stored apart
  | tick visit =>
    rw [occur, probeWebhookStatus]
    split
    · exact stored
    · split
      · dsimp only
        split
        · exact register_kept stored apart
        · split
          · exact stored
          · exact register_kept stored apart
      · exact stored

/-- Nor does any number of them. -/
theorem run_kept {occasions : List Occasion} (stored : hook ∈ state.account.hooks)
    (apart : ¬bot.SameEndpoint hook) : hook ∈ (bot.run occasions state).account.hooks := by
  induction occasions generalizing state with
  | nil => exact stored
  | cons occasion occasions inductionHypothesis =>
    exact inductionHypothesis (occur_kept stored apart)

variable (bot call) in
/-- After a registration the webhooks with the endpoint as their target are some that were
there before, and two new ones, which the bot remembers. -/
def LeavesMatching (state after : Registration) (left : Text → WebexWebhook → Prop) : Prop :=
  ∃ nt secret first second, bot.normalizeTargetUrlForPrune bot.target = some nt ∧
    call.secret = some secret ∧ after.webhookIds = some (first, second) ∧ first ≠ second ∧
    (∀ hook ∈ state.account.hooks, hook.id ≠ first ∧ hook.id ≠ second) ∧
    ∀ hook, (hook ∈ after.account.hooks ∧ bot.hookMatches nt hook = some true) ↔
      (hook ∈ state.account.hooks ∧ bot.hookMatches nt hook = some true ∧ left nt hook) ∨
      hook = bot.webhook secret "messages".toList first ∨
      hook = bot.webhook secret "attachmentActions".toList second

/-- A webhook that is created has the endpoint as its target, since the endpoint's own normal form
is what it is compared with. -/
theorem webhook_matches {secret : Option Text} {resource : Text} {id : Nat}
    (configured : bot.target ≠ [])
    (ownRead : bot.normalizeTargetUrlForPrune bot.target = some nt) :
    bot.hookMatches nt (bot.webhook secret resource id) = some true := by
  rw [hookMatches, webhook]
  dsimp only
  rw [if_neg configured, ownRead]
  simp

/-- A registration that returned has left what the pruning left, and its own two webhooks, under ids
that are new. -/
theorem register_returned {after : Registration} (configured : bot.target ≠ [])
    (returned : bot.registerBotWebhook call state = (after, .returned)) :
    bot.LeavesMatching call state after fun nt hook =>
      ¬bot.Prunes call nt state.account.hooks hook := by
  rw [registerBotWebhook, if_neg configured] at returned
  split at returned
  · exact nomatch (Prod.mk.inj returned).2
  · rename_i nt ownRead
    dsimp only at returned
    split at returned
    · exact nomatch (Prod.mk.inj returned).2
    · rename_i secret isSecret
      rw [createBoth] at returned
      split at returned
      · exact nomatch (Prod.mk.inj returned).2
      · split at returned
        · exact nomatch (Prod.mk.inj returned).2
        · obtain ⟨rfl, _⟩ := Prod.mk.inj returned
          refine ⟨nt, secret, _, _, ownRead, isSecret, rfl, ?_, ?_, ?_⟩
          · exact Nat.ne_of_lt (Nat.lt_succ_self _)
          · intro hook stored
            have old := state.account.known hook stored
            have issued : (bot.pruned call nt state.account).issued = state.account.issued :=
              pruned_issued
            dsimp only [WebexAccount.create]
            omega
          · intro hook
            have created (resource : Text) (id : Nat) :
                bot.hookMatches nt (bot.webhook secret resource id) = some true :=
              webhook_matches configured ownRead
            dsimp only
            rw [mem_create, mem_create, mem_pruned]
            constructor
            · rintro ⟨(⟨stored, unpruned⟩ | isMessages) | isActions, matched⟩
              · exact Or.inl ⟨stored, matched, unpruned⟩
              · exact Or.inr (Or.inl isMessages)
              · exact Or.inr (Or.inr isActions)
            · rintro (⟨stored, matched, unpruned⟩ | isMessages | isActions)
              · exact ⟨Or.inl (Or.inl ⟨stored, unpruned⟩), matched⟩
              · exact ⟨Or.inl (Or.inr isMessages), isMessages ▸ created _ _⟩
              · exact ⟨Or.inr isActions, isActions ▸ created _ _⟩

variable (bot call) in
/-- The listing and every delete succeed, and every target can be split. -/
def Undisturbed (state : Registration) (nt : Text) : Prop :=
  call.listing.isSome = true ∧ ∀ hook ∈ state.account.hooks, ¬bot.Interrupts call nt hook

/-- A pruning that nothing disturbs takes away every webhook that matches. -/
theorem prunes_all (undisturbed : bot.Undisturbed call state nt)
    (stored : hook ∈ state.account.hooks) (matched : bot.hookMatches nt hook = some true) :
    bot.Prunes call nt state.account.hooks hook := by
  obtain ⟨isListed, goesOn⟩ := undisturbed
  obtain ⟨listing, isListing⟩ := Option.isSome_iff_exists.mp isListed
  have whole := listing.whole state.account.hooks
  obtain ⟨front, back, isSplit⟩ := List.append_of_mem (whole.symm.subset stored)
  have succeeds : call.deletes hook.id = .succeeds := by
    by_contra fails
    exact goesOn hook stored (Or.inr ⟨matched, fails⟩)
  refine ⟨listing, isListing, front, back, isSplit, ?_, matched, by rw [succeeds]; rfl⟩
  intro earlier inFront
  apply goesOn
  apply whole.subset
  rw [isSplit]
  exact List.mem_append_left _ inFront

variable (bot call) in
/-- What one registration does to the account. -/
structure Reconciles (state : Registration) : Prop where
  blank : bot.target = [] → bot.registerBotWebhook call state = (state, .returned)
  returned : ∀ after, bot.target ≠ [] → bot.registerBotWebhook call state = (after, .returned) →
    bot.LeavesMatching call state after fun nt hook =>
      ¬bot.Prunes call nt state.account.hooks hook
  undisturbed : ∀ after nt, bot.target ≠ [] →
    bot.registerBotWebhook call state = (after, .returned) →
    bot.normalizeTargetUrlForPrune bot.target = some nt → bot.Undisturbed call state nt →
    bot.LeavesMatching call state after fun _ _ => False
  apart : ∀ hook ∈ state.account.hooks,
    hook ∉ (bot.registerBotWebhook call state).1.account.hooks → bot.SameEndpoint hook

variable (bot) in
/-- In every state the webhooks that match after a registration that returned are the two it created
and those that pruning left, which are none unless an error ended it; and over any number of calls
no webhook with another network location, path or query is deleted.

Proof: the second part is the frame of the occasions, over the run. For the first part a
registration is followed through its pruning and its two requests, from whatever state the run has
come to. -/
theorem registration_reconciles (occasions : List Occasion) (start : Registration) :
    (∀ hook ∈ start.account.hooks, ¬bot.SameEndpoint hook →
      hook ∈ (bot.run occasions start).account.hooks) ∧
    ∀ call, bot.Reconciles call (bot.run occasions start) := by
  constructor
  · intro hook stored apart
    exact run_kept stored apart
  · intro call
    generalize bot.run occasions start = state
    constructor
    · intro unset
      rw [registerBotWebhook, if_pos unset]
    · intro after configured returned
      exact register_returned configured returned
    · intro after nt configured returned ownRead undisturbed
      obtain ⟨nt', secret, first, second, ownRead', isSecret, ids, apart, fresh, iff⟩ :=
        register_returned configured returned
      have sameForm : nt' = nt := Option.some.inj (ownRead'.symm.trans ownRead)
      subst sameForm
      refine ⟨nt', secret, first, second, ownRead, isSecret, ids, apart, fresh, ?_⟩
      intro hook
      rw [iff hook]
      constructor
      · rintro (⟨stored, matched, unpruned⟩ | created)
        · exact absurd (prunes_all undisturbed stored matched) unpruned
        · exact Or.inr created
      · rintro (⟨_, _, impossible⟩ | created)
        · exact absurd impossible id
        · exact Or.inr created
    · intro hook stored gone
      by_contra apart
      exact gone (register_kept stored apart)

end WebexBot

section Example

/-- A bot, and a webhook of its endpoint's `http` variant and one of another endpoint. -/
def exampleBot : WebexBot where
  endpoint := some "https://h/bot".toList
  handle := "T".toList
  botKey := some "b".toList
  probeInterval := .finite 60
  netlocAllowed _ := true

/-- A webhook of the endpoint, with `http`. -/
def staleHook : WebexWebhook :=
  { exampleBot.webhook none "messages".toList 0 with targetUrl := some "http://h/bot/".toList }

/-- A webhook of another endpoint. -/
def otherHook : WebexWebhook :=
  { exampleBot.webhook none "messages".toList 1 with targetUrl := some "https://h/other".toList }

/-- The account with these two. -/
def exampleStart : Registration where
  account :=
    { hooks := [staleHook, otherHook]
      issued := 2
      keyed := by
        rw [Distinct]
        decide
      known := by decide }
  webhookIds := none
  lastProbe := none

/-- Every request succeeds but the deletes, which end as is given. -/
def exampleCall (deletes : Request) : RegisterCall where
  listing := some ⟨id, fun hooks => List.Perm.refl hooks⟩
  deletes _ := deletes
  secret := some none
  createsMessages := .succeeds
  createsActions := .succeeds

/-- Where a delete raises, the registration returns and the webhook is still there: the error ends
the pruning and is only logged. -/
theorem failed_delete_leaves_hook :
    ¬∀ (bot : WebexBot) (call : RegisterCall) (before after : Registration) (nt : Text),
      bot.target ≠ [] → bot.registerBotWebhook call before = (after, .returned) →
      bot.normalizeTargetUrlForPrune bot.target = some nt →
      ∀ hook ∈ after.account.hooks, bot.hookMatches nt hook = some true →
        hook.id ∈ (after.webhookIds.map fun ids => [ids.1, ids.2]).getD [] := by
  intro claimed
  have left := claimed exampleBot (exampleCall (.raises false)) exampleStart _
    "//h/bot".toList (by decide) rfl (by decide) staleHook (by decide) (by decide)
  exact absurd left (by decide)

/-- Where every delete succeeds, only the created ones are left with the endpoint. -/
theorem example_reconciles :
    otherHook ∈ (exampleBot.run [.register (exampleCall .succeeds)] exampleStart).account.hooks ∧
    exampleBot.LeavesMatching (exampleCall .succeeds) exampleStart
      (exampleBot.registerBotWebhook (exampleCall .succeeds) exampleStart).1
      fun _ _ => False := by
  have nothing := WebexBot.registration_reconciles exampleBot [] exampleStart
  have once := WebexBot.registration_reconciles exampleBot
    [.register (exampleCall .succeeds)] exampleStart
  constructor
  · apply once.1 otherHook (by decide)
    rintro ⟨url, parts, own, isUrl, isSplit, ownSplit, _, samePath, _⟩
    cases isUrl
    cases isSplit
    cases ownSplit
    exact absurd samePath (by decide)
  · apply (nothing.2 (exampleCall .succeeds)).undisturbed _ "//h/bot".toList (by decide) rfl
      (by decide)
    refine ⟨rfl, ?_⟩
    intro hook stored
    change hook ∈ [staleHook, otherHook] at stored
    have either : hook = staleHook ∨ hook = otherHook := by simpa using stored
    rintro (unread | ⟨_, fails⟩)
    · rcases either with rfl | rfl
      · exact absurd unread (by decide)
      · exact absurd unread (by decide)
    · exact fails rfl

end Example

end Thaum.Bots
