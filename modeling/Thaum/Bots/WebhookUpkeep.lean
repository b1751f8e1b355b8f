import Mathlib.Logic.Function.Basic
import Thaum.Bots.WebhookRegistration
import Thaum.Library.GuardedRuns

/-!
# Upkeep of a bot's webhooks

Every worker runs the bot, and whichever is the leader visits its webhooks on each tick.
What a worker remembers of them is its own, so after leadership has moved it may name
webhooks that another worker has replaced. Webhooks are also deleted and changed by hand
and by other clients of the account.

A visit that is due and meets a working API leaves a worker with two webhooks of the right
resources at the endpoint, whatever happened before it.
-/

namespace Thaum.Bots

open PyText KeyedRows GuardedRuns

/-- What others do to the webhooks of the account. The resource and the event of a webhook
cannot be changed. -/
inductive Outside where
  | deletes : (id : Nat) → Outside
  | creates : WebexWebhook → Outside
  | changes : (id : Nat) → (name : Text) → (targetUrl secret : Option Text) → Outside

/-- `webhooks.update(…)`. -/
def WebexAccount.change (account : WebexAccount) (id : Nat) (name : Text)
    (targetUrl secret : Option Text) : WebexAccount where
  hooks := account.hooks.map fun hook =>
    if hook.id = id then { hook with name, targetUrl, secret } else hook
  issued := account.issued
  keyed := by
    have ids : (fun hook : WebexWebhook => (if hook.id = id then
        { hook with name, targetUrl, secret } else hook).id) = WebexWebhook.id := by
      funext hook
      split
      · rfl
      · rfl
    have keyed := account.keyed
    rw [Distinct] at keyed ⊢
    rwa [List.map_map, Function.comp_def, ids]
  known := by
    rw [List.forall_mem_map]
    intro hook listed
    split
    · exact account.known hook listed
    · exact account.known hook listed

/-- What others do to the account. -/
def WebexAccount.disturb (account : WebexAccount) : Outside → WebexAccount
  | .deletes id => account.delete id
  | .creates hook => account.create hook
  | .changes id name targetUrl secret => account.change id name targetUrl secret

/-- What a worker remembers of the webhooks. -/
structure Memory where
  webhookIds : Option (Nat × Nat)
  lastProbe : Option Rat

/-- The account, and the memory of every worker. -/
structure Fleet (ι : Type) where
  account : WebexAccount
  memory : ι → Memory

/-- What happens to the fleet. -/
inductive FleetEvent (ι : Type) where
  | occasion : (worker : ι) → WebexBot.Occasion → FleetEvent ι
  | restarts : (worker : ι) → FleetEvent ι
  | outside : Outside → FleetEvent ι

section Fleets

variable {ι : Type} [DecidableEq ι]

/-- The fleet as a worker sees it. -/
def Fleet.view (fleet : Fleet ι) (worker : ι) : Registration where
  account := fleet.account
  webhookIds := (fleet.memory worker).webhookIds
  lastProbe := (fleet.memory worker).lastProbe

/-- The worker's view is put back into the fleet. -/
def Fleet.put (fleet : Fleet ι) (worker : ι) (state : Registration) : Fleet ι where
  account := state.account
  memory := Function.update fleet.memory worker ⟨state.webhookIds, state.lastProbe⟩

/-- One event; a worker that restarts has forgotten its webhooks. -/
def fleetStep (bot : WebexBot) (fleet : Fleet ι) : FleetEvent ι → Fleet ι
  | .occasion worker occasion => fleet.put worker (bot.occur (fleet.view worker) occasion)
  | .restarts worker =>
    { fleet with memory := Function.update fleet.memory worker ⟨none, none⟩ }
  | .outside change => { fleet with account := fleet.account.disturb change }

/-- The workers of an account before any of them has a webhook. -/
def Fleet.start (account : WebexAccount) : Fleet ι where
  account := account
  memory _ := ⟨none, none⟩

end Fleets

namespace WebexBot

variable (bot : WebexBot)

/-- A webhook of the resource whose target is no other than the endpoint. Without a target, or
with a blank one, it counts as aimed there, as the probe skips the comparison of those. -/
structure ServesAs (resource : Text) (hook : WebexWebhook) : Prop where
  resource : hook.resource = resource
  event : hook.event = "created".toList
  aimed : ∀ url ∈ hook.targetUrl,
    url = [] ∨ normalizeTargetUrl url = normalizeTargetUrl bot.target

/-- The account has such a webhook under the id. -/
def Serves (account : WebexAccount) (resource : Text) (id : Nat) : Prop :=
  ∃ hook ∈ account.hooks, hook.id = id ∧ bot.ServesAs resource hook

/-- Fetching the webhook does not raise, and it is active. -/
def FoundActive (visit : Visit) (id : Nat) : Prop :=
  visit.fetchRaises id = false ∧ ∀ status ∈ visit.status id, lower status = "active".toList

/-- A registration on this visit would get its secret and create both webhooks. -/
structure Works (visit : Visit) : Prop where
  secret : visit.call.secret.isSome = true
  messages : visit.call.createsMessages = .succeeds
  actions : visit.call.createsActions = .succeeds

/-- The worker remembers one webhook of each resource at the endpoint. They were found
active, or they are new; a registration whose pruning nothing disturbs has left no others
there. A visit that finds them active changes neither the account nor the ids. -/
def Attends (visit : Visit) (before after : Registration) : Prop :=
  ∃ first second, after.webhookIds = some (first, second) ∧ first ≠ second ∧
    bot.Serves after.account "messages".toList first ∧
    bot.Serves after.account "attachmentActions".toList second ∧
    (after.account = before.account ∧ FoundActive visit first ∧ FoundActive visit second ∨
      (∀ hook ∈ before.account.hooks, hook.id ≠ first ∧ hook.id ≠ second) ∧
        ∀ nt, bot.normalizeTargetUrlForPrune bot.target = some nt →
          bot.Undisturbed visit.call before nt → ∀ hook ∈ after.account.hooks,
            bot.hookMatches nt hook = some true → hook.id = first ∨ hook.id = second) ∧
    ∀ next, FoundActive next first → FoundActive next second →
      (bot.probeWebhookStatus next after).1.account = after.account ∧
        (bot.probeWebhookStatus next after).1.webhookIds = after.webhookIds

/-- Ids that an account has given out keep their resource and event for good. -/
structure Evolves (before after : WebexAccount) : Prop where
  issued : before.issued ≤ after.issued
  known : ∀ hook ∈ after.hooks, hook.id < before.issued → ∃ old ∈ before.hooks,
    old.id = hook.id ∧ old.resource = hook.resource ∧ old.event = hook.event

/-- The ids are those of a messages webhook and of an actions webhook, as far as these are
still there. -/
structure Remembers (account : WebexAccount) (first second : Nat) : Prop where
  apart : first ≠ second
  firstGiven : first < account.issued
  secondGiven : second < account.issued
  messages : ∀ hook ∈ account.hooks, hook.id = first →
    hook.resource = "messages".toList ∧ hook.event = "created".toList
  actions : ∀ hook ∈ account.hooks, hook.id = second →
    hook.resource = "attachmentActions".toList ∧ hook.event = "created".toList

/-- What a worker remembers is so. -/
def Keeps (account : WebexAccount) (ids : Option (Nat × Nat)) : Prop :=
  ∀ pair ∈ ids, Remembers account pair.1 pair.2

variable {bot} {account later : WebexAccount} {state : Registration} {call : RegisterCall}
  {nt : Text} {visit : Visit} {first second : Nat} {ids : Option (Nat × Nat)}

/-- A worker that remembers nothing remembers nothing wrong. -/
theorem keeps_none : Keeps account none := by
  rintro pair ⟨⟩

/-- An account that nothing happens to keeps its ids. -/
theorem Evolves.refl : Evolves account account :=
  ⟨Nat.le_refl _, fun hook stored _ => ⟨hook, stored, rfl, rfl, rfl⟩⟩

/-- Ids that are kept by one change and then by another are kept by both. -/
theorem Evolves.trans {last : WebexAccount} (early : Evolves account later)
    (late : Evolves later last) : Evolves account last := by
  refine ⟨early.issued.trans late.issued, fun hook stored given => ?_⟩
  obtain ⟨between, kept, sameId, sameResource, sameEvent⟩ :=
    late.known hook stored (Nat.lt_of_lt_of_le given early.issued)
  obtain ⟨old, was, oldId, oldResource, oldEvent⟩ := early.known between kept (sameId ▸ given)
  exact ⟨old, was, oldId.trans sameId, oldResource.trans sameResource, oldEvent.trans sameEvent⟩

/-- Deleting a webhook changes no other one, and its id is not given out again. -/
theorem evolves_delete (id : Nat) : Evolves account (account.delete id) :=
  ⟨Nat.le_refl _, fun hook stored _ => ⟨hook, (mem_delete.mp stored).1, rfl, rfl, rfl⟩⟩

/-- A new webhook has a new id. -/
theorem evolves_create (account : WebexAccount) (made : WebexWebhook) :
    Evolves account (account.create made) := by
  refine ⟨Nat.le_succ _, fun hook stored given => ?_⟩
  rcases mem_create.mp stored with old | rfl
  · exact ⟨hook, old, rfl, rfl, rfl⟩
  · exact absurd given (Nat.lt_irrefl _)

/-- Nothing that others do changes the resource or the event of an id. -/
theorem evolves_disturb (change : Outside) : Evolves account (account.disturb change) := by
  cases change with
  | deletes id => exact evolves_delete id
  | creates hook => exact evolves_create account hook
  | changes id name targetUrl secret =>
    refine ⟨Nat.le_refl _, fun hook stored _ => ?_⟩
    obtain ⟨old, was, rfl⟩ := List.mem_map.mp stored
    refine ⟨old, was, ?_⟩
    split
    · exact ⟨rfl, rfl, rfl⟩
    · exact ⟨rfl, rfl, rfl⟩

/-- The loop of the pruning only deletes. -/
theorem evolves_prune (listed : List WebexWebhook) :
    Evolves account (bot.prune call nt listed account) := by
  induction listed generalizing account with
  | nil => exact Evolves.refl
  | cons hook listed inductionHypothesis =>
    rw [prune]
    split
    · exact Evolves.refl
    · exact inductionHypothesis
    · split
      · exact (evolves_delete hook.id).trans inductionHypothesis
      · split
        · exact evolves_delete hook.id
        · exact Evolves.refl

/-- So does the pruning. -/
theorem evolves_pruned : Evolves account (bot.pruned call nt account) := by
  rw [pruned]
  split
  · exact Evolves.refl
  · exact evolves_prune _

/-- The two requests only create, whether or not both succeed. -/
theorem evolves_createBoth {secret : Option Text} :
    Evolves account (bot.createBoth call secret state account).1.account := by
  have both := (evolves_create account (bot.webhook secret "messages".toList 0)).trans
    (evolves_create _ (bot.webhook secret "attachmentActions".toList 0))
  rw [createBoth]
  split
  · split
    · exact evolves_create _ _
    · exact Evolves.refl
  · split
    · split
      · exact both
      · exact evolves_create _ _
    · exact both

/-- A registration deletes and creates, and changes no webhook. -/
theorem evolves_register (state : Registration) :
    Evolves state.account (bot.registerBotWebhook call state).1.account := by
  rw [registerBotWebhook]
  split
  · exact Evolves.refl
  · split
    · exact Evolves.refl
    · dsimp only
      split
      · exact evolves_pruned
      · exact evolves_pruned.trans evolves_createBoth

/-- Neither does any occasion. -/
theorem evolves_occur (state : Registration) (occasion : Occasion) :
    Evolves state.account (bot.occur state occasion).account := by
  cases occasion with
  | register call => exact evolves_register state
  | tick visit =>
    rw [occur, probeWebhookStatus]
    split
    · exact Evolves.refl
    · split
      · dsimp only
        split
        · exact evolves_register { state with lastProbe := some visit.now }
        · split
          · exact Evolves.refl
          · exact evolves_register { state with lastProbe := some visit.now, webhookIds := none }
      · exact Evolves.refl

/-- What a worker remembers stays so while ids keep their resource and event. -/
theorem Keeps.evolves (keeps : Keeps account ids) (evolves : Evolves account later) :
    Keeps later ids := by
  rintro ⟨first, second⟩ isIds
  have remembers := keeps _ isIds
  refine ⟨remembers.apart, Nat.lt_of_lt_of_le remembers.firstGiven evolves.issued,
    Nat.lt_of_lt_of_le remembers.secondGiven evolves.issued, ?_, ?_⟩
  · rintro hook stored rfl
    obtain ⟨old, was, sameId, sameResource, sameEvent⟩ :=
      evolves.known hook stored remembers.firstGiven
    rw [← sameResource, ← sameEvent]
    exact remembers.messages old was sameId
  · rintro hook stored rfl
    obtain ⟨old, was, sameId, sameResource, sameEvent⟩ :=
      evolves.known hook stored remembers.secondGiven
    rw [← sameResource, ← sameEvent]
    exact remembers.actions old was sameId

/-- The ids of two webhooks that have just been created, one after the other, are two different ones
of the right resources. -/
theorem remembers_created (secret : Option Text) :
    Remembers ((account.create (bot.webhook secret "messages".toList 0)).create
      (bot.webhook secret "attachmentActions".toList 0)) account.issued (account.issued + 1) := by
  refine ⟨Nat.ne_of_lt (Nat.lt_succ_self _), ?_, Nat.lt_succ_self _, ?_, ?_⟩
  · exact Nat.lt_succ_of_lt (Nat.lt_succ_self _)
  · intro hook stored isFirst
    rcases mem_create.mp stored with before | rfl
    · rcases mem_create.mp before with old | rfl
      · exact absurd (account.known hook old) (by omega)
      · exact ⟨rfl, rfl⟩
    · simp [WebexAccount.create] at isFirst
  · intro hook stored isSecond
    rcases mem_create.mp stored with before | rfl
    · rcases mem_create.mp before with old | rfl
      · exact absurd (account.known hook old) (by omega)
      · simp at isSecond
    · exact ⟨rfl, rfl⟩

/-- Two requests that do not both succeed leave the ids alone. So a worker never remembers only one
of them. -/
theorem createBoth_ids (state : Registration) (secret : Option Text) :
    (bot.createBoth call secret state account).1.webhookIds = state.webhookIds ∨
      (bot.createBoth call secret state account).1.account =
          (account.create (bot.webhook secret "messages".toList 0)).create
            (bot.webhook secret "attachmentActions".toList 0) ∧
        (bot.createBoth call secret state account).1.webhookIds =
          some (account.issued, account.issued + 1) := by
  rw [createBoth]
  split
  · exact Or.inl rfl
  · split
    · exact Or.inl rfl
    · exact Or.inr ⟨rfl, rfl⟩

/-- After the two requests a worker remembers what it did, or the two new webhooks. -/
theorem createBoth_keeps {secret : Option Text} (keeps : Keeps account state.webhookIds) :
    Keeps (bot.createBoth call secret state account).1.account
      (bot.createBoth call secret state account).1.webhookIds := by
  rcases createBoth_ids state secret with same | ⟨isAccount, isIds⟩
  · rw [same]
    exact keeps.evolves evolves_createBoth
  · rw [isAccount, isIds]
    rintro _ ⟨rfl⟩
    exact remembers_created secret

/-- After a registration it does as well; one that raises leaves it with nothing or with what it
had. -/
theorem register_keeps (keeps : Keeps state.account state.webhookIds) :
    Keeps (bot.registerBotWebhook call state).1.account
      (bot.registerBotWebhook call state).1.webhookIds := by
  rw [registerBotWebhook]
  split
  · exact keeps
  · split
    · exact keeps
    · dsimp only
      split
      · exact keeps.evolves evolves_pruned
      · exact createBoth_keeps (keeps.evolves evolves_pruned)

/-- What a worker remembers stays so when something happens to it. A visit that finds a webhook
amiss forgets both before it registers. -/
theorem occur_keeps (occasion : Occasion) (keeps : Keeps state.account state.webhookIds) :
    Keeps (bot.occur state occasion).account (bot.occur state occasion).webhookIds := by
  cases occasion with
  | register call => exact register_keeps keeps
  | tick visit =>
    rw [occur, probeWebhookStatus]
    split
    · exact keeps
    · split
      · dsimp only
        split
        · exact register_keeps keeps
        · split
          · exact keeps
          · exact register_keeps keeps_none
      · exact keeps

/-- A webhook that is found healthy serves the resource it was made for. That its target is the
endpoint was looked at by the probe, and its resource cannot have changed. -/
theorem serves_of_healthy {resource : Text} {id : Nat}
    (healthy : bot.healthy visit account id = true)
    (made : ∀ hook ∈ account.hooks, hook.id = id →
      hook.resource = resource ∧ hook.event = "created".toList) :
    bot.Serves account resource id ∧ FoundActive visit id := by
  rw [WebexBot.healthy, Bool.and_eq_true, Bool.not_eq_true'] at healthy
  obtain ⟨fetched, found⟩ := healthy
  cases isHook : get WebexWebhook.id id account.hooks with
  | none => simp [isHook] at found
  | some hook =>
    simp only [isHook, Bool.and_eq_true, Option.all_eq_true, decide_eq_true_eq] at found
    obtain ⟨stored, keyed⟩ := get_some isHook
    obtain ⟨isResource, isEvent⟩ := made hook stored keyed
    exact ⟨⟨hook, stored, keyed, isResource, isEvent, found.1⟩, fetched, found.2⟩

/-- A webhook that serves and is found active is healthy, so the probe has nothing to do. -/
theorem healthy_of_serves {resource : Text} {id : Nat} (serves : bot.Serves account resource id)
    (found : FoundActive visit id) : bot.healthy visit account id = true := by
  obtain ⟨hook, stored, keyed, isServing⟩ := serves
  have isHook : get WebexWebhook.id id account.hooks = some hook :=
    keyed ▸ get_of_mem account.keyed stored
  simp only [WebexBot.healthy, isHook, found.1, Bool.not_false, Bool.true_and, Bool.and_eq_true,
    Option.all_eq_true, decide_eq_true_eq]
  exact ⟨isServing.aimed, found.2⟩

/-- A visit to two serving webhooks that are active leaves the account and the ids alone, whether or
not it is due. -/
theorem probe_quiet {next : Visit} (isIds : state.webhookIds = some (first, second))
    (serves : bot.Serves state.account "messages".toList first)
    (servesToo : bot.Serves state.account "attachmentActions".toList second)
    (found : FoundActive next first) (foundToo : FoundActive next second) :
    (bot.probeWebhookStatus next state).1.account = state.account ∧
      (bot.probeWebhookStatus next state).1.webhookIds = state.webhookIds := by
  rw [probeWebhookStatus]
  split
  · exact ⟨rfl, rfl⟩
  · split
    · simp [isIds, healthy_of_serves serves found, healthy_of_serves servesToo foundToo]
    · exact ⟨rfl, rfl⟩

/-- A registration whose requests succeed returns, whatever its pruning came to: the errors of the
pruning are caught. -/
theorem register_works (readable : (bot.normalizeTargetUrlForPrune bot.target).isSome = true)
    (works : Works visit) (state : Registration) :
    (bot.registerBotWebhook visit.call state).2 = .returned := by
  obtain ⟨nt, ownRead⟩ := Option.isSome_iff_exists.mp readable
  obtain ⟨secret, isSecret⟩ := Option.isSome_iff_exists.mp works.secret
  rw [registerBotWebhook]
  split
  · rfl
  · simp only [ownRead, isSecret, createBoth, works.messages, works.actions]

/-- A registration whose requests succeed attends to the webhooks, with two new ones. -/
theorem register_attends (configured : bot.target ≠ [])
    (readable : (bot.normalizeTargetUrlForPrune bot.target).isSome = true)
    (works : Works visit) {before : Registration} (same : state.account = before.account) :
    bot.Attends visit before (bot.registerBotWebhook visit.call state).1 := by
  have returned := register_works readable works state
  generalize ended : bot.registerBotWebhook visit.call state = outcome at returned ⊢
  obtain ⟨after, result⟩ := outcome
  obtain rfl : result = .returned := returned
  obtain ⟨nt, secret, first, second, ownRead, isSecret, isIds, apart, fresh, matching⟩ :=
    register_returned configured ended
  have serves : bot.Serves after.account "messages".toList first :=
    ⟨_, ((matching _).mpr (Or.inr (Or.inl rfl))).1, rfl, rfl, rfl,
      fun _ isUrl => Or.inr (by rw [← Option.some.inj isUrl])⟩
  have servesToo : bot.Serves after.account "attachmentActions".toList second :=
    ⟨_, ((matching _).mpr (Or.inr (Or.inr rfl))).1, rfl, rfl, rfl,
      fun _ isUrl => Or.inr (by rw [← Option.some.inj isUrl])⟩
  refine ⟨first, second, isIds, apart, serves, servesToo, Or.inr ⟨same ▸ fresh, ?_⟩,
    fun next found foundToo => probe_quiet isIds serves servesToo found foundToo⟩
  intro form isForm undisturbed hook stored matched
  obtain rfl := Option.some.inj (isForm.symm.trans ownRead)
  rcases (matching hook).mp ⟨stored, matched⟩ with ⟨was, _, unpruned⟩ | rfl | rfl
  · have reached : bot.Undisturbed visit.call state form := by
      rw [Undisturbed, same]
      exact undisturbed
    exact absurd (prunes_all reached was matched) unpruned
  · exact Or.inl rfl
  · exact Or.inr rfl

/-- A due visit that meets a working API attends to the webhooks. It finds both healthy and leaves
them, or it registers. -/
theorem probe_attends (configured : bot.target ≠ [])
    (readable : (bot.normalizeTargetUrlForPrune bot.target).isSome = true)
    (works : Works visit) (due : bot.probeDue visit state = true)
    (keeps : Keeps state.account state.webhookIds) :
    bot.Attends visit state (bot.probeWebhookStatus visit state).1 := by
  rw [probeWebhookStatus, if_neg configured, if_pos due]
  cases isIds : state.webhookIds with
  | none => exact register_attends configured readable works rfl
  | some pair =>
    obtain ⟨first, second⟩ := pair
    dsimp only
    split
    · rename_i healthy
      obtain ⟨isHealthy, isHealthyToo⟩ := Bool.and_eq_true_iff.mp healthy
      have remembers := keeps _ isIds
      obtain ⟨serves, found⟩ := serves_of_healthy isHealthy remembers.messages
      obtain ⟨servesToo, foundToo⟩ := serves_of_healthy isHealthyToo remembers.actions
      exact ⟨first, second, rfl, remembers.apart, serves, servesToo,
        Or.inl ⟨rfl, found, foundToo⟩,
        fun next nextFound nextFoundToo => probe_quiet rfl serves servesToo nextFound nextFoundToo⟩
    · exact register_attends configured readable works rfl

end WebexBot

section Fleets

variable {ι : Type} [DecidableEq ι] {bot : WebexBot} {fleet : Fleet ι}

/-- What every worker remembers is so. -/
def Fleet.Sound (fleet : Fleet ι) : Prop :=
  ∀ worker, WebexBot.Keeps fleet.account (fleet.memory worker).webhookIds

/-- Every event keeps what the workers remember right, also of those that it does not concern. -/
theorem fleetStep_sound (event : FleetEvent ι) (sound : fleet.Sound) :
    (fleetStep bot fleet event).Sound := by
  intro other
  cases event with
  | occasion worker occasion =>
    by_cases same : other = worker
    · subst same
      simp only [fleetStep, Fleet.put, Function.update_self]
      exact WebexBot.occur_keeps occasion (sound other)
    · simp only [fleetStep, Fleet.put, Function.update_of_ne same]
      exact (sound other).evolves (WebexBot.evolves_occur (fleet.view worker) occasion)
  | restarts worker =>
    by_cases same : other = worker
    · subst same
      simp only [fleetStep, Function.update_self]
      exact WebexBot.keeps_none
    · simp only [fleetStep, Function.update_of_ne same]
      exact sound other
  | outside change => exact (sound other).evolves (WebexBot.evolves_disturb change)

/-- Whatever registrations, visits, restarts and outside changes came before, and however their
requests ended, a due visit of any worker that meets a working API leaves it with one serving
webhook of each resource, and the visits after it at rest.

Proof: over the run what each worker remembers stays right, though the webhooks may be gone or
changed. From such a state a due visit finds both healthy, and then they serve, or it registers two
new ones. -/
theorem upkeep_restores (bot : WebexBot) (account : WebexAccount) (events : List (FleetEvent ι))
    (worker : ι) (visit : WebexBot.Visit) (configured : bot.target ≠ [])
    (readable : (bot.normalizeTargetUrlForPrune bot.target).isSome = true)
    (works : WebexBot.Works visit)
    (due : bot.probeDue visit ((run (fleetStep bot) (.start account) events).view worker) = true) :
    bot.Attends visit ((run (fleetStep bot) (.start account) events).view worker)
      (bot.probeWebhookStatus visit
        ((run (fleetStep bot) (.start account) events).view worker)).1 := by
  have kept : ∀ (fleet : Fleet ι) event, fleet.Sound → True → (fleetStep bot fleet event).Sound :=
    fun fleet event sound _ => fleetStep_sound event sound
  have started : (Fleet.start account : Fleet ι).Sound := fun _ => WebexBot.keeps_none
  have sound := invariant_run kept _ events started (guarded_of_forall (fun _ _ => trivial) _ _)
  exact WebexBot.probe_attends configured readable works due (sound worker)

/-- A visit of a worker whose webhooks another worker has replaced, after one was taken
over by hand. -/
def replacedVisit : WebexBot.Visit where
  now := 500
  fetchRaises _ := false
  status _ := some "active".toList
  call := exampleCall .succeeds

def replacedEvents : List (FleetEvent Bool) :=
  [.occasion true (.register (exampleCall .succeeds)),
    .occasion false (.register (exampleCall .succeeds)),
    .outside (.changes 4 "moved".toList (some "https://h/else".toList) none)]

theorem replaced_visit_restores :
    ((run (fleetStep exampleBot) (.start exampleStart.account) replacedEvents).view true).webhookIds
        = some (2, 3) ∧
      exampleBot.Attends replacedVisit
        ((run (fleetStep exampleBot) (.start exampleStart.account) replacedEvents).view true)
        (exampleBot.probeWebhookStatus replacedVisit
          ((run (fleetStep exampleBot) (.start exampleStart.account) replacedEvents).view
            true)).1 :=
  ⟨by decide, upkeep_restores exampleBot exampleStart.account replacedEvents true replacedVisit
    (by decide) (by decide) ⟨by decide, by decide, by decide⟩ (by decide)⟩

end Fleets

end Thaum.Bots
