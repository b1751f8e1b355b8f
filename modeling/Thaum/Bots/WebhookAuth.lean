import Thaum.Settings.BotConfig
import Thaum.Vault.SharedSecret

/-!
# Authentication of bot webhooks

A bot without an effective secret accepts every webhook. In the pinned mode its secret is
the configured one. In the shared mode it is the stored one, which the bot reads when it is
set up, keeps, and reads again after a while.

Any number of bots in any number of workers share the table of secrets. The steps of their
calls, and the batches that encrypt the stored secrets under another key, may come in any
order.
-/

namespace Thaum.Bots

open PyText PyModels KeyedRows GuardedRuns Vault Settings

/-- Where a bot has its secret from. -/
inductive HmacMode where
  | sharedDb | pinned | disabled
deriving DecidableEq

/-- `config.hmac_mode`. -/
def HmacMode.ofConfig (config : Table) : HmacMode :=
  if settingIs config "hmac_mode" "disabled" then .disabled
  else if settingIs config "hmac_mode" "pinned" then .pinned
  else .sharedDb

/-- `config.hmac_secret.get_secret_value() if config.hmac_secret else None`. -/
def configSecret (config : Table) : Option Text :=
  match config.lookup "hmac_secret".toList with
  | some (.secret s) => if s = [] then none else some s
  | _ => none

/-- `float(config.webhook_hmac_cache_refresh_seconds)`. -/
def configRefreshSeconds (config : Table) : PyJson.Float :=
  match config.lookup "webhook_hmac_cache_refresh_seconds".toList with
  | some (.float seconds) => seconds
  | _ => .nan

/-- What a bot knows about its signing secret; the clock is monotonic and in seconds. -/
structure WebexHmac where
  hmacMode : HmacMode
  hmacSecret : Option Text
  cachePlain : Option Text
  cacheMonotonic : Rat
  refreshSeconds : PyJson.Float
  botKey : Option Text

/-- `WebexChatBot(config)` with its key. -/
def WebexHmac.ofConfig (config : Table) (botKey : Option Text) : WebexHmac where
  hmacMode := .ofConfig config
  hmacSecret := if HmacMode.ofConfig config = .pinned then configSecret config else none
  cachePlain := none
  cacheMonotonic := 0
  refreshSeconds := configRefreshSeconds config
  botKey := botKey

/-- The cached secret is to be read again. -/
def WebexHmac.due (bot : WebexHmac) (now : Rat) : Bool :=
  match bot.refreshSeconds with
  | .finite seconds => decide (seconds ≤ now - bot.cacheMonotonic)
  | .infinity negative => negative
  | .nan => false

/-- What is read of a request: its data, `none` where reading it raises, the attribute that
is used then, and the header `X-Spark-Signature`. -/
structure WebhookRequest where
  getData : Option (List UInt8)
  data : List UInt8
  signature : Option Text

/-- `request.data`, or the attribute where that raises. -/
def WebhookRequest.rawBody (request : WebhookRequest) : List UInt8 :=
  request.getData.getD request.data

/-- How a call ends. -/
inductive BotEnd where
  | done : BotEnd
  | raised : BotEnd
  | answered : Bool → BotEnd
deriving DecidableEq

/-- `hmac.compare_digest` takes text of ASCII only. -/
def comparable (signature : Text) : Bool := signature.all fun c => decide (c.toNat < 128)

/-- `_validate_signature` under an effective secret, with the hex digest of HMAC-SHA1. -/
def validateSignature (hmacSha1 : Text → List UInt8 → Text) (secret : Option Text)
    (request : WebhookRequest) : BotEnd :=
  if secret.getD [] = [] then .answered true
  else match request.signature with
    | none => .answered false
    | some signature =>
      if signature = [] then .answered false
      else if comparable signature then
        .answered (decide (hmacSha1 (secret.getD []) request.rawBody = signature))
      else .raised

/-- What a call is for. -/
inductive BotTask where
  | completeRuntimeInit : BotTask
  | authenticate : WebhookRequest → BotTask

/-- Where a call stands. -/
inductive BotCall where
  | waiting : BotCall
  | ensuring : (started : Rat) → EnsureCall → BotCall
  | caching : (started : Rat) → Text → BotCall
  | comparing : BotCall
  | ended : BotEnd → BotCall

/-- A data key that is active at some time. -/
structure ActiveKey (KeyContext : Type) where
  keyId : Text
  context : KeyContext

/-- The field encryption while a key is active. -/
def underKey {KeyContext : Type} (catchUp : CatchUp KeyContext) (key : ActiveKey KeyContext)
    (batchLimit : Int) : CatchUp KeyContext :=
  { catchUp with activeDekKeyId := key.keyId, current := key.context, batchLimit := batchLimit }

/-- `ensure_bot_webhook_hmac_secret(bk, min_length=MIN_HMAC_SECRET_CHARS)` draws a secret. -/
abbrev BotDraw : Type := SecretDraw (minHmacSecretChars : Int)

/-- The bots, the keys that are active at some time, and the calls with the bots they are
made on. -/
structure BotSystem (ι κ ν KeyContext : Type) where
  catchUp : CatchUp KeyContext
  keys : ν → ActiveKey KeyContext
  hmacSha1 : Text → List UInt8 → Text
  configs : ι → Table
  botKeys : ι → Option Text
  owner : κ → ι
  tasks : κ → BotTask

/-- The table of secrets, the bots and the calls. -/
structure BotWorld (ι κ : Type) where
  table : HmacTable
  bots : ι → WebexHmac
  calls : κ → BotCall

/-- What a turn of a call meets: the secret it may draw, the clock, whether the database
crypto is ready, and the active key. -/
structure BotTurn (ν : Type) where
  draw : BotDraw
  now : Rat
  ready : Bool
  key : ν

/-- A turn of a call, or a batch that encrypts stored secrets under the active key. -/
inductive BotEvent (κ ν : Type) where
  | turn : κ → BotTurn ν → BotEvent κ ν
  | reencrypt : (key : ν) → (batchLimit : Int) → BatchCall → BotEvent κ ν

section Step

variable {ι κ ν KeyContext : Type} [DecidableEq ι] [DecidableEq κ]
  (system : BotSystem ι κ ν KeyContext)

/-- The first turn of a call: `complete_runtime_init` up to its read of the table, or
`_effective_hmac_secret` up to its own. -/
def firstTurn (turn : BotTurn ν) (bot : WebexHmac) : BotTask → BotCall
  | .completeRuntimeInit =>
    if bot.hmacMode ≠ .sharedDb then .ended .done
    else if turn.ready = false then .ended .raised
    else match bot.botKey with
      | none | some [] => .ended .raised
      | some key => .ensuring turn.now (ensureBotWebhookHmacSecret key)
  | .authenticate request =>
    match bot.hmacMode with
    | .disabled => .ended (validateSignature system.hmacSha1 none request)
    | .pinned => .ended (validateSignature system.hmacSha1 bot.hmacSecret request)
    | .sharedDb =>
      if bot.cachePlain = none ∨ bot.due turn.now = true then
        .ensuring turn.now (ensureBotWebhookHmacSecret (bot.botKey.getD []))
      else .comparing

/-- The bot with the secret it has read. -/
def WebexHmac.cache (bot : WebexHmac) (started now : Rat) (plain : Text) : BotTask → WebexHmac
  | .completeRuntimeInit =>
    { bot with hmacSecret := some plain, cachePlain := some plain, cacheMonotonic := now }
  | .authenticate _ => { bot with cachePlain := some plain, cacheMonotonic := started }

/-- The next turn of a call: the table, the bot and the call after it. -/
def botTurn (turn : BotTurn ν) (table : HmacTable) (bot : WebexHmac) (task : BotTask) :
    BotCall → HmacTable × WebexHmac × BotCall
  | .waiting => (table, bot, firstTurn system turn bot task)
  | .ensuring started (.ended (.returned plain)) => (table, bot, .caching started plain)
  | .ensuring _ (.ended _) => (table, bot, .ended .raised)
  | .ensuring started call =>
    let (after, next) := call.advance (underKey system.catchUp (system.keys turn.key) 0)
      (bot.botKey.getD []) turn.draw table
    (after, bot, .ensuring started next)
  | .caching started plain =>
    (table, bot.cache started turn.now plain task,
      match task with
      | .completeRuntimeInit => .ended .done
      | .authenticate _ => .comparing)
  | .comparing =>
    (table, bot,
      match task with
      | .completeRuntimeInit => .ended .done
      | .authenticate request =>
        .ended (validateSignature system.hmacSha1 bot.cachePlain request))
  | .ended result => (table, bot, .ended result)

/-- An event in the world of the bots. -/
def botStep (world : BotWorld ι κ) : BotEvent κ ν → BotWorld ι κ
  | .turn call turn =>
    let own := system.owner call
    let (table, bot, next) :=
      botTurn system turn world.table (world.bots own) (system.tasks call) (world.calls call)
    { table := table
      bots := fun other => if other = own then bot else world.bots other
      calls := fun other => if other = call then next else world.calls other }
  | .reencrypt key batchLimit batch =>
    { world with
      table := tick (underKey system.catchUp (system.keys key) batchLimit) world.table batch }

/-- The table is empty, the bots have been created and no call has begun. -/
def BotSystem.start : BotWorld ι κ where
  table := ⟨[], List.nodup_nil⟩
  bots bot := .ofConfig (system.configs bot) (system.botKeys bot)
  calls _ := .waiting

/-- The secret that a bot is to sign with: the pinned one, or the stored one. -/
def BotSystem.signsWith (table : HmacTable) (bot : ι) : Option Text :=
  match HmacMode.ofConfig (system.configs bot) with
  | .disabled => none
  | .pinned => configSecret (system.configs bot)
  | .sharedDb => secret system.catchUp table ((system.botKeys bot).getD [])

end Step

variable {ι κ ν KeyContext : Type} {system : BotSystem ι κ ν KeyContext}
  {table after : HmacTable} {own : ι} {bot : WebexHmac} {task : BotTask}

/-- Under a secret only its signature is accepted. This is where a yes of a call is read back to the
secret that was effective. -/
theorem validateSignature_true {hmacSha1 : Text → List UInt8 → Text} {plain : Text}
    {request : WebhookRequest} (filled : plain ≠ [])
    (accepted : validateSignature hmacSha1 (some plain) request = .answered true) :
    request.signature = some (hmacSha1 plain request.rawBody) := by
  rw [validateSignature, Option.getD_some, if_neg filled] at accepted
  split at accepted
  · simp at accepted
  · rename_i signature isGiven
    split at accepted
    · simp at accepted
    · split at accepted
      · have same : hmacSha1 plain request.rawBody = signature := by simpa using accepted
        rw [isGiven, same]
      · simp at accepted

/-- Every stored row holds a secret of the length that bots ask for. -/
def AllSound (system : BotSystem ι κ ν KeyContext) (table : HmacTable) : Prop :=
  ∀ key, Sound system.catchUp minHmacSecretChars key table

/-- The secrets that are stored stay. -/
def SecretsStay (system : BotSystem ι κ ν KeyContext) (table after : HmacTable) : Prop :=
  ∀ key plain, secret system.catchUp table key = some plain →
    secret system.catchUp after key = some plain

/-- A bot is as configured but for its cache, and what it has cached is stored. -/
structure BotFits (system : BotSystem ι κ ν KeyContext) (table : HmacTable) (own : ι)
    (bot : WebexHmac) : Prop where
  mode : bot.hmacMode = .ofConfig (system.configs own)
  key : bot.botKey = system.botKeys own
  pinned : bot.hmacMode = .pinned → bot.hmacSecret = configSecret (system.configs own)
  cached : ∀ plain, bot.cachePlain = some plain →
    secret system.catchUp table ((system.botKeys own).getD []) = some plain

/-- Where a call can stand: one that has answered yes has seen the signature of a secret
that is not empty. -/
def CallFits (system : BotSystem ι κ ν KeyContext) (table : HmacTable) (own : ι)
    (bot : WebexHmac) (task : BotTask) : BotCall → Prop
  | .waiting => True
  | .ensuring _ call =>
    HmacMode.ofConfig (system.configs own) = .sharedDb ∧
      (call = .ended .valueError ∨
        call.Fits (secret system.catchUp table ((system.botKeys own).getD [])))
  | .caching _ plain =>
    HmacMode.ofConfig (system.configs own) = .sharedDb ∧
      secret system.catchUp table ((system.botKeys own).getD []) = some plain
  | .comparing =>
    HmacMode.ofConfig (system.configs own) = .sharedDb ∧ bot.cachePlain.isSome = true
  | .ended result => ∀ request, task = .authenticate request → result = .answered true →
      HmacMode.ofConfig (system.configs own) ≠ .disabled →
        ∃ plain, plain ≠ [] ∧ system.signsWith table own = some plain ∧
          request.signature = some (system.hmacSha1 plain request.rawBody)

/-- While the stored secrets stay, a bot is to sign with the same secret as before. -/
theorem signsWith_stays {plain : Text} (stay : SecretsStay system table after)
    (signs : system.signsWith table own = some plain) :
    system.signsWith after own = some plain := by
  unfold BotSystem.signsWith at signs ⊢
  split
  · rename_i disabled
    simp [disabled] at signs
  · rename_i pinned
    simpa [pinned] using signs
  · rename_i shared
    rw [shared] at signs
    exact stay _ _ signs

/-- A bot that fits goes on fitting while the stored secrets stay: what it has cached is still
stored. -/
theorem BotFits.stays (fits : BotFits system table own bot)
    (stay : SecretsStay system table after) : BotFits system after own bot :=
  ⟨fits.mode, fits.key, fits.pinned, fun plain cached => stay _ _ (fits.cached plain cached)⟩

/-- A call fits while the secrets stay and the cache of its bot is kept. So it does not matter what
other calls do in between. -/
theorem CallFits.stays {later : WebexHmac} {call : BotCall}
    (fits : CallFits system table own bot task call) (stay : SecretsStay system table after)
    (cached : bot.cachePlain.isSome = true → later.cachePlain.isSome = true) :
    CallFits system after own later task call := by
  cases call with
  | waiting => trivial
  | ensuring started call =>
    refine ⟨fits.1, fits.2.imp_right ?_⟩
    intro fits
    exact fits.kept (stay _)
  | caching started plain => exact ⟨fits.1, stay _ _ fits.2⟩
  | comparing => exact ⟨fits.1, cached fits.2⟩
  | ended result =>
    intro request isTask accepted enabled
    obtain ⟨plain, filled, signs, signature⟩ := fits request isTask accepted enabled
    exact ⟨plain, filled, signsWith_stays stay signs, signature⟩

/-- A secret that is stored is not empty, as its length is what bots ask for. -/
theorem AllSound.filled {key plain : Text} (sound : AllSound system table)
    (isStored : secret system.catchUp table key = some plain) : plain ≠ [] := by
  cases found : table.row? key with
  | none => simp [secret_of_absent found] at isStored
  | some row =>
    obtain ⟨readable, isReadable, long⟩ := sound key row found
    rw [secret_of_row found, isReadable] at isStored
    rintro rfl
    rw [Option.some.inj isStored] at long
    exact absurd long (by decide)

/-- The field encryption is lawful under every key that is active at some time. -/
def BotSystem.Lawful (system : BotSystem ι κ ν KeyContext) : Prop :=
  ∀ key batchLimit, (underKey system.catchUp (system.keys key) batchLimit).Lawful

/-- A batch keeps every secret: it encrypts the same text again, under the key that is active
then. -/
theorem reencrypt_stays (lawful : system.Lawful) (sound : AllSound system table) (key : ν)
    (batchLimit : Int) (batch : BatchCall) :
    AllSound system (tick (underKey system.catchUp (system.keys key) batchLimit) table batch) ∧
      SecretsStay system table
        (tick (underKey system.catchUp (system.keys key) batchLimit) table batch) := by
  by_cases positive : 0 < batchLimit
  · have decryptable : Decryptable (underKey system.catchUp (system.keys key) batchLimit)
        table := by
      intro row stored
      obtain ⟨plain, readable, _⟩ := sound row.botKey row (HmacTable.row?_of_mem stored)
      exact Option.isSome_iff_exists.mpr ⟨plain, readable⟩
    have kept := (lawful key batchLimit).tick_kept positive decryptable batch
    constructor
    · intro botKey row found
      have readable := kept.decryptable row (HmacTable.row?_some found).1
      obtain ⟨plain, isPlain⟩ := Option.isSome_iff_exists.mp readable
      have before := kept.secrets botKey
      rw [secret_of_row found, isPlain] at before
      cases foundBefore : table.row? botKey with
      | none =>
        rw [secret_of_absent foundBefore] at before
        simp at before
      | some rowBefore =>
        obtain ⟨stored, isStored, long⟩ := sound botKey rowBefore foundBefore
        have same : secretOf system.catchUp rowBefore.secretEnc = some plain :=
          (secret_of_row foundBefore).symm.trans before.symm
        rw [isStored] at same
        exact ⟨plain, isPlain, Option.some.inj same ▸ long⟩
    · intro botKey plain isStored
      exact (kept.secrets botKey).trans isStored
  · have unchanged : tick (underKey system.catchUp (system.keys key) batchLimit) table batch =
        table := by
      have stopped : (underKey system.catchUp (system.keys key) batchLimit).batchLimit ≤ 0 :=
        Int.not_lt.mp positive
      rw [tick, reEncryptStaleBotWebhookHmacBatch, if_pos stopped]
      rfl
    rw [unchanged]
    exact ⟨sound, fun _ _ same => same⟩

/-- A turn of `ensure_bot_webhook_hmac_secret` keeps every secret: it stores one only where there is
none. -/
theorem ensure_stays (lawful : system.Lawful) (sound : AllSound system table) (key : ν)
    (botKey : Text) (draw : BotDraw) {call : EnsureCall}
    (fits : call.Fits (secret system.catchUp table botKey)) :
    let moved := call.advance (underKey system.catchUp (system.keys key) 0) botKey draw table
    AllSound system moved.1 ∧ SecretsStay system table moved.1 ∧
      moved.2.Fits (secret system.catchUp moved.1 botKey) := by
  intro moved
  have advanced := (lawful key 0).advance draw (sound botKey) fits
  refine ⟨?_, ?_, advanced.fits⟩
  · intro other
    by_cases own : botKey = other
    · subst own
      exact advanced.sound
    · intro row found
      rw [EnsureCall.advance_other draw own] at found
      exact sound other row found
  · intro other plain isStored
    by_cases own : botKey = other
    · subst own
      exact secret_kept advanced.keeps isStored
    · rw [secret] at isStored ⊢
      rw [EnsureCall.advance_other draw own]
      exact isStored

/-- A call of `ensure_bot_webhook_hmac_secret` begins with its first read or with the end of a blank
key, and fits whatever is stored. -/
theorem ensure_begins (key : Text) (stored : Option Text) :
    ensureBotWebhookHmacSecret key = .ended .valueError ∨
      (ensureBotWebhookHmacSecret key).Fits stored := by
  rw [ensureBotWebhookHmacSecret]
  split
  · exact Or.inl rfl
  · exact Or.inr (Or.inl rfl)

/-- A pinned bot has a secret that is not empty. -/
def PinnedFilled (system : BotSystem ι κ ν KeyContext) (own : ι) : Prop :=
  HmacMode.ofConfig (system.configs own) = .pinned →
    ∃ plain, plain ≠ [] ∧ configSecret (system.configs own) = some plain

/-- What the pinned secret accepts is the signature of that secret, which the bot is to sign
with. -/
theorem pinned_answer (fits : BotFits system table own bot) (filled : PinnedFilled system own)
    (isPinned : bot.hmacMode = .pinned) {request : WebhookRequest}
    (accepted : validateSignature system.hmacSha1 bot.hmacSecret request = .answered true) :
    ∃ plain, plain ≠ [] ∧ system.signsWith table own = some plain ∧
      request.signature = some (system.hmacSha1 plain request.rawBody) := by
  have configured := fits.mode.symm.trans isPinned
  obtain ⟨plain, nonempty, isSecret⟩ := filled configured
  rw [fits.pinned isPinned, isSecret] at accepted
  refine ⟨plain, nonempty, ?_, validateSignature_true nonempty accepted⟩
  rw [BotSystem.signsWith, configured]
  exact isSecret

/-- What the cached secret accepts is the signature of the stored one: what is cached is stored, and
what is stored stays. -/
theorem shared_answer (sound : AllSound system table) (fits : BotFits system table own bot)
    (isShared : HmacMode.ofConfig (system.configs own) = .sharedDb)
    (isCached : bot.cachePlain.isSome = true) {request : WebhookRequest}
    (accepted : validateSignature system.hmacSha1 bot.cachePlain request = .answered true) :
    ∃ plain, plain ≠ [] ∧ system.signsWith table own = some plain ∧
      request.signature = some (system.hmacSha1 plain request.rawBody) := by
  obtain ⟨plain, cached⟩ := Option.isSome_iff_exists.mp isCached
  have isStored := fits.cached plain cached
  have nonempty := sound.filled isStored
  rw [cached] at accepted
  refine ⟨plain, nonempty, ?_, validateSignature_true nonempty accepted⟩
  rw [BotSystem.signsWith, isShared]
  exact isStored

/-- The first turn of a call on a bot as configured. In the pinned mode it is the last one as
well. -/
theorem firstTurn_fits (turn : BotTurn ν) (fits : BotFits system table own bot)
    (filled : PinnedFilled system own) (task : BotTask) :
    CallFits system table own bot task (firstTurn system turn bot task) := by
  cases task with
  | completeRuntimeInit =>
    rw [firstTurn]
    split
    · exact fun _ isTask => nomatch isTask
    · rename_i shared
      have shared : bot.hmacMode = .sharedDb := not_not.mp shared
      split
      · exact fun _ isTask => nomatch isTask
      · split
        · exact fun _ isTask => nomatch isTask
        · exact fun _ isTask => nomatch isTask
        · exact ⟨fits.mode.symm.trans shared, ensure_begins _ _⟩
  | authenticate request =>
    cases mode : bot.hmacMode with
    | disabled =>
      rw [firstTurn, mode]
      intro _ _ _ enabled
      exact absurd (fits.mode.symm.trans mode) enabled
    | pinned =>
      rw [firstTurn, mode]
      intro asked isTask accepted _
      obtain rfl := BotTask.authenticate.inj isTask
      exact pinned_answer fits filled mode accepted
    | sharedDb =>
      rw [firstTurn, mode]
      dsimp only
      split
      · exact ⟨fits.mode.symm.trans mode, ensure_begins _ _⟩
      · rename_i kept
        refine ⟨fits.mode.symm.trans mode, Option.isSome_iff_ne_none.mpr ?_⟩
        exact fun missing => kept (Or.inl missing)

/-- What a turn keeps: the secrets, what is known of them, and the cache. -/
structure Moved (system : BotSystem ι κ ν KeyContext) (table : HmacTable) (own : ι)
    (bot : WebexHmac) (task : BotTask) (moved : HmacTable × WebexHmac × BotCall) : Prop where
  sound : AllSound system moved.1
  stay : SecretsStay system table moved.1
  fits : BotFits system moved.1 own moved.2.1
  cached : bot.cachePlain.isSome = true → moved.2.1.cachePlain.isSome = true
  call : CallFits system moved.1 own moved.2.1 task moved.2.2

/-- A turn that leaves the table and the bot, as most turns do. -/
theorem Moved.call_only {call : BotCall} (sound : AllSound system table)
    (fits : BotFits system table own bot) (callFits : CallFits system table own bot task call) :
    Moved system table own bot task (table, bot, call) :=
  ⟨sound, fun _ _ same => same, fits, id, callFits⟩

/-- The bot fits with a stored secret in its cache, whether it was read when the bot was set up or
again later. -/
theorem BotFits.cache {plain : Text} (fits : BotFits system table own bot)
    (isShared : HmacMode.ofConfig (system.configs own) = .sharedDb)
    (isStored : secret system.catchUp table ((system.botKeys own).getD []) = some plain)
    (started now : Rat) (task : BotTask) :
    BotFits system table own (bot.cache started now plain task) := by
  have notPinned : bot.hmacMode ≠ .pinned := by
    rw [fits.mode, isShared]
    exact fun same => nomatch same
  cases task with
  | completeRuntimeInit =>
    constructor
    · exact fits.mode
    · exact fits.key
    · exact fun isPinned => absurd isPinned notPinned
    · intro other cached
      rw [← Option.some.inj cached]
      exact isStored
  | authenticate request =>
    constructor
    · exact fits.mode
    · exact fits.key
    · exact fits.pinned
    · intro other cached
      rw [← Option.some.inj cached]
      exact isStored

/-- The step lemma for a turn, one case for each place a call can stand. Where it reads the table
the turn of `ensure_stays` is taken, and where that ends the secret goes into the cache. -/
theorem botTurn_moved (lawful : system.Lawful) (turn : BotTurn ν)
    (sound : AllSound system table) (fits : BotFits system table own bot)
    (filled : PinnedFilled system own) {call : BotCall}
    (callFits : CallFits system table own bot task call) :
    Moved system table own bot task (botTurn system turn table bot task call) := by
  have advance (started : Rat) (ensure : EnsureCall)
      (isShared : HmacMode.ofConfig (system.configs own) = .sharedDb)
      (ensureFits :
        ensure.Fits (secret system.catchUp table ((system.botKeys own).getD []))) :
      Moved system table own bot task
        ((ensure.advance (underKey system.catchUp (system.keys turn.key) 0)
            (bot.botKey.getD []) turn.draw table).1, bot,
          .ensuring started (ensure.advance (underKey system.catchUp (system.keys turn.key) 0)
            (bot.botKey.getD []) turn.draw table).2) := by
    rw [fits.key]
    obtain ⟨nextSound, stay, nextFits⟩ :=
      ensure_stays lawful sound turn.key ((system.botKeys own).getD []) turn.draw ensureFits
    exact ⟨nextSound, stay, fits.stays stay, id, isShared, Or.inr nextFits⟩
  cases call with
  | waiting => exact .call_only sound fits (firstTurn_fits turn fits filled task)
  | ensuring started ensure =>
    obtain ⟨isShared, ensureFits⟩ := callFits
    cases ensure with
    | reading attempt =>
      rcases ensureFits with blank | ensureFits
      · exact nomatch blank
      · exact advance started (.reading attempt) isShared ensureFits
    | inserting attempt =>
      rcases ensureFits with blank | ensureFits
      · exact nomatch blank
      · exact advance started (.inserting attempt) isShared ensureFits
    | ended result =>
      rcases ensureFits with blank | ⟨plain, returned, isStored⟩
      · obtain rfl := EnsureCall.ended.inj blank
        exact .call_only sound fits fun _ _ accepted => nomatch accepted
      · subst returned
        exact .call_only sound fits ⟨isShared, isStored⟩
  | caching started plain =>
    obtain ⟨isShared, isStored⟩ := callFits
    have cachedFits := fits.cache isShared isStored started turn.now task
    refine ⟨sound, fun _ _ same => same, cachedFits, ?_, ?_⟩
    · intro _
      cases task <;> rfl
    · cases task with
      | completeRuntimeInit => exact fun _ isTask => nomatch isTask
      | authenticate request => exact ⟨isShared, rfl⟩
  | comparing =>
    obtain ⟨isShared, isCached⟩ := callFits
    cases task with
    | completeRuntimeInit => exact .call_only sound fits fun _ isTask => nomatch isTask
    | authenticate request =>
      apply Moved.call_only sound fits
      intro asked isTask accepted _
      obtain rfl := BotTask.authenticate.inj isTask
      exact shared_answer sound fits isShared isCached accepted
  | ended result => exact .call_only sound fits callFits

/-- The facts about the table, the bots and the calls that every event keeps. -/
structure BotWorld.Secured (system : BotSystem ι κ ν KeyContext) (world : BotWorld ι κ) :
    Prop where
  sound : AllSound system world.table
  bots : ∀ own, BotFits system world.table own (world.bots own)
  calls : ∀ call, CallFits system world.table (system.owner call)
    (world.bots (system.owner call)) (system.tasks call) (world.calls call)

/-- At the start nothing is stored, cached or answered. -/
theorem start_secured : (system.start : BotWorld ι κ).Secured system := by
  constructor
  · intro key row found
    exact nomatch found
  · intro own
    constructor
    · rfl
    · rfl
    · intro isPinned
      exact if_pos isPinned
    · intro plain cached
      exact nomatch cached
  · exact fun _ => trivial

variable [DecidableEq ι] [DecidableEq κ] {world : BotWorld ι κ}

/-- What a turn is to the bots: that of the call moves, and the others stay. -/
theorem botStep_bots (call : κ) (turn : BotTurn ν) (other : ι) :
    (botStep system world (.turn call turn)).bots other =
      if other = system.owner call then
        (botTurn system turn world.table (world.bots (system.owner call)) (system.tasks call)
          (world.calls call)).2.1
      else world.bots other := rfl

/-- What a turn is to the calls: one moves, and the others stay. -/
theorem botStep_calls (call : κ) (turn : BotTurn ν) (other : κ) :
    (botStep system world (.turn call turn)).calls other =
      if other = call then
        (botTurn system turn world.table (world.bots (system.owner call)) (system.tasks call)
          (world.calls call)).2.2
      else world.calls other := rfl

/-- Every event keeps the table sound, the bots as configured and the calls fitting. -/
theorem botStep_secured (lawful : system.Lawful) (filled : ∀ own, PinnedFilled system own)
    (secured : world.Secured system) (event : BotEvent κ ν) :
    (botStep system world event).Secured system := by
  cases event with
  | turn call turn =>
    have moved := botTurn_moved lawful turn secured.sound (secured.bots (system.owner call))
      (filled (system.owner call)) (secured.calls call)
    have cached (other : ι) (isCached : (world.bots other).cachePlain.isSome = true) :
        ((botStep system world (.turn call turn)).bots other).cachePlain.isSome = true := by
      rw [botStep_bots]
      by_cases own : other = system.owner call
      · rw [if_pos own]
        apply moved.cached
        rwa [← own]
      · rwa [if_neg own]
    constructor
    · exact moved.sound
    · intro other
      rw [botStep_bots]
      by_cases own : other = system.owner call
      · rw [if_pos own, own]
        exact moved.fits
      · rw [if_neg own]
        exact (secured.bots other).stays moved.stay
    · intro other
      by_cases own : other = call
      · have fits := moved.call
        rw [own, botStep_calls, if_pos rfl, botStep_bots, if_pos rfl]
        exact fits
      · rw [botStep_calls, if_neg own]
        exact (secured.calls other).stays moved.stay (cached _)
  | reencrypt key batchLimit batch =>
    obtain ⟨sound, stay⟩ := reencrypt_stays lawful secured.sound key batchLimit batch
    exact ⟨sound, fun own => (secured.bots own).stays stay,
      fun call => (secured.calls call).stays stay id⟩

/-- So does every run. -/
theorem run_secured (lawful : system.Lawful) (filled : ∀ own, PinnedFilled system own)
    (events : List (BotEvent κ ν)) (secured : world.Secured system) :
    (run (botStep system) world events).Secured system := by
  induction events generalizing world with
  | nil => exact secured
  | cons event rest inductionHypothesis =>
    exact inductionHypothesis (botStep_secured lawful filled secured event)

/-- A validated configuration that pins its secret has one. The validator of the configuration
refuses a pinned mode without a secret. -/
theorem pinned_filled {runtime : Runtime} {given config : Table}
    (validated : webexChatBotConfig runtime given = some config)
    (isPinned : HmacMode.ofConfig config = .pinned) :
    ∃ plain, plain ≠ [] ∧ configSecret config = some plain := by
  have said : settingIs config "hmac_mode" "pinned" = true := by
    rw [HmacMode.ofConfig] at isPinned
    split at isPinned
    · exact nomatch isPinned
    · split at isPinned
      · assumption
      · exact nomatch isPinned
  obtain ⟨plain, isSecret, long⟩ := pinned_long validated said
  have nonempty : plain ≠ [] := by
    rintro rfl
    exact absurd long (by decide)
  exact ⟨plain, nonempty, by rw [configSecret, isSecret]; exact if_neg nonempty⟩

/-- Bots fail closed: one is unsigned only where its table says so or gives no secret, and
any other answers yes only to the signature of its secret, which is not empty. -/
structure FailsClosed (runtime : Runtime) (system : BotSystem ι κ ν KeyContext)
    (tables : ι → Table) (events : List (BotEvent κ ν)) : Prop where
  unsigned : ∀ bot, HmacMode.ofConfig (system.configs bot) = .disabled →
    (tables bot).lookup "hmac_mode".toList = some (.text "disabled".toList) ∨
      GivesNoSecret runtime (tables bot)
  signed : ∀ call request, system.tasks call = .authenticate request →
    (run (botStep system) system.start events).calls call = .ended (.answered true) →
    HmacMode.ofConfig (system.configs (system.owner call)) ≠ .disabled →
      ∃ plain, plain ≠ [] ∧
        system.signsWith (run (botStep system) system.start events).table
          (system.owner call) = some plain ∧
        request.signature = some (system.hmacSha1 plain request.rawBody)

/-- Bots that were made of accepted tables fail closed, however their calls and the batches come.

Proof: a configuration that was accepted disables signing only where its table says so or gives no
secret. The facts that every event keeps hold at the end of a run, and there a call that has
answered yes to a request has seen the signature of the bot's secret. -/
theorem webhooks_fail_closed (runtime : Runtime) (system : BotSystem ι κ ν KeyContext)
    (lawful : system.Lawful) (tables : ι → Table)
    (validated : ∀ bot, webexChatBotConfig runtime (tables bot) = some (system.configs bot))
    (events : List (BotEvent κ ν)) : FailsClosed runtime system tables events := by
  constructor
  · intro bot isDisabled
    apply disabled_said (validated bot)
    rw [HmacMode.ofConfig] at isDisabled
    split at isDisabled
    · assumption
    · split at isDisabled <;> exact nomatch isDisabled
  · intro call request isTask answered enabled
    have filled : ∀ own, PinnedFilled system own := fun own => pinned_filled (validated own)
    have secured := run_secured lawful filled events start_secured
    have fits := secured.calls call
    rw [answered] at fits
    exact fits request isTask rfl enabled

section Example

/-- A bot that signs with the stored secret. -/
def helpBotTable : Table :=
  [("handle".toList, .text "help".toList), ("endpoint".toList, .text "https://x/bot/help".toList),
    ("responders".toList, .list []), ("alert_type".toList, .text "jira".toList),
    ("team_description".toList, .text "Help".toList),
    ("emergency_warning_message".toList, .text "Call".toList),
    ("token".toList, .text "env:TOKEN".toList)]

/-- A request with no data and the signature of it under a secret of zeros. -/
def signedRequest : WebhookRequest where
  getData := some []
  data := []
  signature := some "ae9a64e6d25335cbd91adec5ce42a688ebac9fbb".toList

/-- One bot with one request; the digest is that of the request. -/
def helpBotSystem : BotSystem Unit Unit Unit Text where
  catchUp := plainCatchUp 50
  keys _ := { keyId := "new".toList, context := "new".toList }
  hmacSha1 _ _ := "ae9a64e6d25335cbd91adec5ce42a688ebac9fbb".toList
  configs _ := (webexChatBotConfig storeRuntime helpBotTable).getD []
  botKeys _ := some "help".toList
  owner _ := ()
  tasks _ := .authenticate signedRequest

/-- The turn of the example. -/
def helpBotTurn : BotEvent Unit Unit :=
  .turn ()
    { draw := { plain := zeroToken, drawn := 0, now := 0 }, now := 0, ready := true, key := () }

/-- The request is answered while the secret is stored, and the secret is encrypted again. -/
def helpBotEvents : List (BotEvent Unit Unit) :=
  [helpBotTurn, helpBotTurn, helpBotTurn, .reencrypt () 50 storedCall, helpBotTurn, helpBotTurn,
    helpBotTurn]

/-- The request is answered yes, under the secret that stands in the row. -/
theorem help_bot_fails_closed :
    FailsClosed storeRuntime helpBotSystem (fun _ => helpBotTable) helpBotEvents ∧
      (run (botStep helpBotSystem) helpBotSystem.start helpBotEvents).calls () =
        .ended (.answered true) :=
  ⟨webhooks_fail_closed storeRuntime helpBotSystem (fun _ => plainCatchUp_lawful)
    (fun _ => helpBotTable) (fun _ => rfl) helpBotEvents, rfl⟩

end Example

end Thaum.Bots
