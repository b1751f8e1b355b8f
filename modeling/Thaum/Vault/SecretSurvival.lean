import Thaum.Vault.KeyRotation
import Thaum.Vault.SharedSecret

/-!
# The secrets survive rotation, catch-up, races and restarts

Workers wire their crypto, rotate the data key, catch up and ask for the secrets of their
bots, in any order. A catch-up reads the rows in one turn and assigns what it has collected
in a later one, and a call of `ensure_bot_webhook_hmac_secret` reads and inserts in turns of
its own. A restart forgets what a worker has loaded and collected, and its calls start over.

The resolver reads the key records, which are never deleted; a rotation adds one. So a
secret that is stored once is what every call returns from then on, under whichever key its
row is encrypted by then.
-/

namespace Thaum.Vault

open PyText KeyedRows GuardedRuns

variable {KeyContext : Type}

section Model

variable (setup : KeySetup KeyContext)

/-- `make_keyctx_resolver`, over the key records of these ids. -/
def KeySetup.resolver (keyIds : List Text) (keyId : Text) : Option KeyContext :=
  if keyIds.contains keyId then some (setup.loadKeyctx keyId) else none

/-- The settings, with the resolver over these key records. -/
def KeySetup.storing (keyIds : List Text) : KeySetup KeyContext :=
  { setup with makeKeyctxResolver := fun _ => setup.resolver keyIds }

/-- The field encryption of a worker that has a key loaded. -/
def KeySetup.loaded (keyIds : List Text) (keyId : Text) : CatchUp KeyContext :=
  leaderCatchUp setup.cipher (setup.loadKeyctx keyId) (setup.resolver keyIds) keyId

variable (ι κ : Type)

/-- The workers and the table, the ids of the key records, what each worker has collected
and not yet assigned, and the calls for the secrets. -/
structure SecretWorld where
  fleet : Fleet ι
  keyIds : List Text
  collected : ι → List (Text × Text)
  calls : κ → EnsureCall

/-- A turn of a worker, or of a call for a secret. -/
inductive SecretEvent (minLength : Int) where
  | wire (worker : ι) (verifies : Bool) : SecretEvent minLength
  | rotate (worker : ι) (verifies : Bool) (now : Int) (newId : Text) (createdAt : Int) :
    SecretEvent minLength
  /-- A catch-up up to its first assignment. -/
  | collect (worker : ι) (verifies : Bool) (call : BatchCall) : SecretEvent minLength
  /-- The assignments of a catch-up and its commit. -/
  | assign (worker : ι) (call : BatchCall) : SecretEvent minLength
  | ensure (call : κ) (draw : SecretDraw minLength) : SecretEvent minLength
  /-- The secret is asked for again, as `_effective_hmac_secret` does. -/
  | again (call : κ) : SecretEvent minLength
  | restart (worker : ι) : SecretEvent minLength

variable {ι κ : Type} [DecidableEq ι] [DecidableEq κ] {minLength : Int}

/-- The worker and the bot that a call is for. -/
structure CallOwner (ι κ : Type) where
  worker : κ → ι
  botKey : κ → Text

variable (owner : CallOwner ι κ)

/-- The ids after a rotation, which stores the record of the active key. -/
def storedKeyIds (keyIds : List Text) (fleet : Fleet ι) : List Text :=
  (fleet.activeDek.map Prod.fst).toList ++ keyIds

/-- What a catch-up collects; nothing where it does not run, or raises. -/
def collectedBy (world : SecretWorld ι κ) (worker : ι) (verifies : Bool) (call : BatchCall) :
    List (Text × Text) :=
  match workerCatchUp (setup.storing world.keyIds) world.fleet worker verifies with
  | some catchUp => (collectPending catchUp (selected catchUp call world.fleet.table)).getD []
  | none => []

/-- The table after a worker has assigned what it has collected. -/
def assignedBy (world : SecretWorld ι κ) (worker : ι) (call : BatchCall) : HmacTable :=
  match world.fleet.ready worker with
  | some keyId =>
    if call.commits then
      (assignPending (setup.loaded world.keyIds keyId) call (world.collected worker)
        world.fleet.table).1
    else world.fleet.table
  | none => world.fleet.table

/-- A turn of a call; `complete_runtime_init` makes none without the crypto. -/
def ensuredBy (world : SecretWorld ι κ) (call : κ) (draw : SecretDraw minLength) :
    HmacTable × EnsureCall :=
  match world.fleet.ready (owner.worker call) with
  | some keyId =>
    (world.calls call).advance (setup.loaded world.keyIds keyId) (owner.botKey call) draw
      world.fleet.table
  | none => (world.fleet.table, world.calls call)

/-- One event. -/
def secretStep (world : SecretWorld ι κ) : SecretEvent ι κ minLength → SecretWorld ι κ
  | .wire worker verifies =>
    { world with
      fleet := wireDatabaseCrypto (setup.storing world.keyIds) world.fleet worker verifies }
  | .rotate worker verifies now newId createdAt =>
    let fleet := rotateDataEncryptionKeyIfDue (setup.storing world.keyIds) world.fleet worker
      verifies now newId createdAt
    { world with fleet := fleet, keyIds := storedKeyIds world.keyIds fleet }
  | .collect worker verifies call =>
    { world with
      fleet := wireDatabaseCrypto (setup.storing world.keyIds) world.fleet worker verifies
      collected := fun other =>
        if other = worker then collectedBy setup world worker verifies call
        else world.collected other }
  | .assign worker call =>
    { world with
      fleet := { world.fleet with table := assignedBy setup world worker call }
      collected := fun other => if other = worker then [] else world.collected other }
  | .ensure call draw =>
    let after := ensuredBy setup owner world call draw
    { world with
      fleet := { world.fleet with table := after.1 }
      calls := fun other => if other = call then after.2 else world.calls other }
  | .again call =>
    { world with
      calls := fun other =>
        if other = call then ensureBotWebhookHmacSecret (owner.botKey call)
        else world.calls other }
  | .restart worker =>
    { world with
      fleet := { world.fleet with
        ready := fun other => if other = worker then none else world.fleet.ready other }
      collected := fun other => if other = worker then [] else world.collected other
      calls := fun call =>
        if owner.worker call = worker then ensureBotWebhookHmacSecret (owner.botKey call)
        else world.calls call }

/-- No worker has wired its crypto, and every call is before its first turn. -/
def SecretWorld.start (activeDek : Option (Text × Int)) (keyIds : List Text)
    (table : HmacTable) : SecretWorld ι κ where
  fleet := { activeDek := activeDek, ready := fun _ => none, table := table }
  keyIds := keyIds
  collected _ := []
  calls call := ensureBotWebhookHmacSecret (owner.botKey call)

/-- The stored secret of a bot. -/
def SecretWorld.secret (world : SecretWorld ι κ) (botKey : Text) : Option Text :=
  Vault.secret (setup.loaded world.keyIds []) world.fleet.table botKey

/-- Every row is decryptable, and no secret is shorter than asked for. -/
structure Readable (minLength : Int) (keyIds : List Text) (table : HmacTable) : Prop where
  decryptable : Decryptable (setup.loaded keyIds []) table
  long : ∀ botKey plain, Vault.secret (setup.loaded keyIds []) table botKey = some plain →
    minLength ≤ plain.length

/-- What holds at the end of a run: a secret that was stored at some point is stored still,
every row is readable, a call that has ended has returned the stored secret, and the calls
for one bot that have ended at any two points have returned the same. -/
structure Survives (start : SecretWorld ι κ) (events : List (SecretEvent ι κ minLength)) :
    Prop where
  keeps : ∀ before after, events = before ++ after → ∀ botKey plain,
    (run (secretStep setup owner) start before).secret setup botKey = some plain →
    (run (secretStep setup owner) start events).secret setup botKey = some plain
  readable : Readable setup minLength (run (secretStep setup owner) start events).keyIds
    (run (secretStep setup owner) start events).fleet.table
  returns : ∀ call result,
    (run (secretStep setup owner) start events).calls call = .ended result →
    strip (owner.botKey call) = [] ∧ result = .valueError ∨
      ∃ plain, result = .returned plain ∧
        (run (secretStep setup owner) start events).secret setup (owner.botKey call) = some plain
  agrees : ∀ before after, events = before ++ after → ∀ first second early late,
    (run (secretStep setup owner) start before).calls first = .ended (.returned early) →
    (run (secretStep setup owner) start events).calls second = .ended (.returned late) →
    owner.botKey first = owner.botKey second → early = late

/-- The key library as it is documented, for the ids of the keys in use: what is encrypted
under the context of a key names the key and decrypts under it. -/
structure KeySetup.Lawful (used : Text → Prop) : Prop where
  filled : ∀ keyId, used keyId → ∀ drawn plain,
    setup.cipher.encryptString drawn (setup.loadKeyctx keyId) plain ≠ []
  names : setup.Names used
  decrypts : ∀ keyId, used keyId → ∀ drawn plain, setup.cipher.decryptString
    (setup.cipher.encryptString drawn (setup.loadKeyctx keyId) plain) (setup.loadKeyctx keyId) =
      .plain plain

/-- The key that an event draws is among those in use. -/
def SecretEvent.DrawsIn (used : Text → Prop) : SecretEvent ι κ minLength → Prop
  | .rotate _ _ _ newId _ => used newId
  | _ => True

/-- Where a call can stand while that secret is stored; a blank key is refused at once. -/
def Standing (botKey : Text) (stored : Option Text) (call : EnsureCall) : Prop :=
  if strip botKey = [] then call = .ended .valueError else call.Fits stored

/-- The invariant: the keys in use have records, the rows are readable, what a catch-up has
collected is what is stored, and the calls fit what is stored. -/
structure SecretWorld.Coherent (minLength : Int) (world : SecretWorld ι κ) : Prop where
  active : ∀ keyId since, world.fleet.activeDek = some (keyId, since) → keyId ∈ world.keyIds
  ready : ∀ worker keyId, world.fleet.ready worker = some keyId → keyId ∈ world.keyIds
  readable : Readable setup minLength world.keyIds world.fleet.table
  collected : ∀ worker, ∀ entry ∈ world.collected worker,
    world.secret setup entry.1 = some entry.2
  calls : ∀ call,
    Standing (owner.botKey call) (world.secret setup (owner.botKey call)) (world.calls call)

/-- No record goes away and no secret changes. -/
structure Follows (before after : SecretWorld ι κ) : Prop where
  keyIds : ∀ keyId ∈ before.keyIds, keyId ∈ after.keyIds
  secrets : ∀ botKey plain, before.secret setup botKey = some plain →
    after.secret setup botKey = some plain

end Model

variable {setup : KeySetup KeyContext} {keyIds : List Text} {keyId : Text} {table : HmacTable}
  {catchUp : CatchUp KeyContext} {pending : List (Text × Text)} {rows : List BotWebhookHmac}
  {wire plain botKey : Text}

/-- A worker reads and writes lawfully under a key that has a record. -/
theorem KeySetup.Lawful.loaded (lawful : setup.Lawful (· ∈ keyIds)) (stored : keyId ∈ keyIds) :
    (setup.loaded keyIds keyId).Lawful where
  filled := lawful.filled keyId stored
  names := lawful.names keyId stored
  resolves := if_pos (List.contains_iff_mem.mpr stored)
  decrypts := lawful.decrypts keyId stored

/-- A library that is lawful for the keys in use is so for those with a record. -/
theorem KeySetup.Lawful.stored {used : Text → Prop} (lawful : setup.Lawful used)
    (known : ∀ keyId ∈ keyIds, used keyId) : setup.Lawful (· ∈ keyIds) where
  filled keyId stored := lawful.filled keyId (known keyId stored)
  names keyId stored := lawful.names keyId (known keyId stored)
  decrypts keyId stored := lawful.decrypts keyId (known keyId stored)

/-- What is readable stays so while records are added, whichever key is loaded. -/
theorem secretOf_more {later : List Text} (more : ∀ keyId ∈ keyIds, keyId ∈ later)
    (readable : secretOf (setup.loaded keyIds keyId) wire = some plain) (other : Text) :
    secretOf (setup.loaded later other) wire = some plain := by
  unfold secretOf at readable ⊢
  split at readable
  · simp at readable
  · rename_i filled
    rw [if_neg filled]
    cases parsed : setup.cipher.parseKeyId wire with
    | none => simp [KeySetup.loaded, leaderCatchUp, parsed] at readable
    | some named =>
      by_cases stored : named ∈ keyIds
      · have listed : keyIds.contains named = true := List.contains_iff_mem.mpr stored
        have listedLater : later.contains named = true :=
          List.contains_iff_mem.mpr (more named stored)
        simp only [KeySetup.loaded, leaderCatchUp, parsed, KeySetup.resolver, listed, if_true]
          at readable
        simp only [KeySetup.loaded, leaderCatchUp, parsed, KeySetup.resolver, listedLater,
          if_true]
        exact readable
      · simp [KeySetup.loaded, leaderCatchUp, parsed, KeySetup.resolver, stored] at readable

/-- So the secret of a bot stays what it is while records are added. -/
theorem secret_more {later : List Text} (more : ∀ keyId ∈ keyIds, keyId ∈ later)
    (stored : secret (setup.loaded keyIds keyId) table botKey = some plain) (other : Text) :
    secret (setup.loaded later other) table botKey = some plain := by
  obtain ⟨row, found, readable⟩ := Option.bind_eq_some_iff.mp stored
  rw [secret_of_row found]
  exact secretOf_more more readable other

/-- What is collected of a wire text is its secret. -/
theorem staleSecret_read (collected : staleSecret catchUp wire = some (some plain)) :
    secretOf catchUp wire = some plain := by
  unfold staleSecret at collected
  unfold secretOf
  split at collected
  · simp at collected
  · rename_i filled
    rw [if_neg filled]
    cases parsed : catchUp.cipher.parseKeyId wire with
    | none => simp [parsed] at collected
    | some named =>
      by_cases active : named = catchUp.activeDekKeyId
      · simp [parsed, active] at collected
      · cases resolved : catchUp.resolveKeyctx named with
        | none => simp [parsed, active, resolved] at collected
        | some context =>
          cases decrypted : catchUp.cipher.decryptString wire context with
          | raised => simp [parsed, active, resolved, decrypted] at collected
          | missing => simp [parsed, active, resolved, decrypted] at collected
          | plain found => simpa [parsed, active, resolved, decrypted] using collected

/-- What a call collects is what is stored, for the bots it collects of. -/
theorem collected_stored {call : BatchCall}
    (collected : collectPending catchUp (selected catchUp call table) = some pending) :
    ∀ entry ∈ pending, secret catchUp table entry.1 = some entry.2 := by
  intro entry listed
  obtain ⟨row, isSelected, sameKey, collects⟩ :=
    (collectPending_collects collected).1 entry listed
  have stored : row ∈ table.rows :=
    (call.scan.permutes table.rows).mem_iff.mp (List.mem_of_mem_take isSelected)
  rw [← sameKey, secret_of_row (HmacTable.row?_of_mem stored)]
  exact staleSecret_read collects

/-- Assigning what is stored keeps every secret, whatever has happened to the rows since. The
induction is on the collected entries, each of which stays the stored secret while the others are
assigned. -/
theorem CatchUp.Lawful.assign_stored (lawful : catchUp.Lawful) (call : BatchCall)
    (decryptable : Decryptable catchUp table)
    (stored : ∀ entry ∈ pending, secret catchUp table entry.1 = some entry.2) :
    Kept catchUp table (assignPending catchUp call pending table).1 := by
  induction pending generalizing table with
  | nil => exact .refl decryptable
  | cons entry rest inductionHypothesis =>
    obtain ⟨isStored, others⟩ := List.forall_mem_cons.mp stored
    rw [assignPending]
    cases found : table.row? entry.1 with
    | none => exact inductionHypothesis decryptable others
    | some row =>
      rw [secret_of_row found] at isStored
      have written := lawful.write_kept call decryptable (HmacTable.row?_some found).1 isStored
      have later := inductionHypothesis written.decryptable (by
        intro later listed
        rw [written.secrets]
        exact others later listed)
      exact written.trans later

/-- In a readable table the row of a bot, where there is one, holds a long enough secret. -/
theorem Readable.sound {minLength : Int} (readable : Readable setup minLength keyIds table) :
    Sound (setup.loaded keyIds keyId) minLength botKey table := by
  intro row found
  have isReadable := readable.decryptable row (HmacTable.row?_some found).1
  obtain ⟨plain, isPlain⟩ := Option.isSome_iff_exists.mp isReadable
  exact ⟨plain, isPlain, readable.long botKey plain ((secret_of_row found).trans isPlain)⟩

/-- A turn of a call keeps the rows of the other bots, and the row of its own if it is stored; so
the table stays readable. -/
theorem EnsureCall.Advanced.readable {minLength : Int} {call : EnsureCall}
    {draw : SecretDraw minLength}
    (advanced : call.Advanced (setup.loaded keyIds keyId) minLength botKey table
      (call.advance (setup.loaded keyIds keyId) botKey draw table))
    (readable : Readable setup minLength keyIds table) :
    Readable setup minLength keyIds
      (call.advance (setup.loaded keyIds keyId) botKey draw table).1 := by
  constructor
  · intro row stored
    have found := HmacTable.row?_of_mem stored
    by_cases own : botKey = row.botKey
    · obtain ⟨plain, isPlain, _⟩ := advanced.sound row (own ▸ found)
      exact Option.isSome_iff_exists.mpr ⟨plain, isPlain⟩
    · rw [EnsureCall.advance_other draw own] at found
      exact readable.decryptable row (HmacTable.row?_some found).1
  · intro key plain isStored
    by_cases own : botKey = key
    · subst own
      obtain ⟨row, found, isPlain⟩ := Option.bind_eq_some_iff.mp isStored
      obtain ⟨other, isOther, long⟩ := advanced.sound row found
      obtain rfl := Option.some.inj (isOther.symm.trans isPlain)
      exact long
    · rw [secret, EnsureCall.advance_other draw own] at isStored
      exact readable.long key plain isStored

section World

variable {ι κ : Type} [DecidableEq ι] [DecidableEq κ] {minLength : Int} {owner : CallOwner ι κ}
  {world after : SecretWorld ι κ} {fleet : Fleet ι} {worker : ι} {verifies : Bool}

/-- A call may stand where it stood while the stored secret stays. -/
theorem Standing.kept {before later : Option Text} {call : EnsureCall}
    (standing : Standing botKey before call)
    (kept : ∀ plain, before = some plain → later = some plain) :
    Standing botKey later call := by
  unfold Standing at standing ⊢
  split
  · rename_i blank
    rwa [if_pos blank] at standing
  · rename_i nonblank
    rw [if_neg nonblank] at standing
    exact standing.kept kept

/-- A call before its first turn may stand there whatever is stored. -/
theorem standing_fresh (botKey : Text) (stored : Option Text) :
    Standing botKey stored (ensureBotWebhookHmacSecret botKey) := by
  unfold Standing ensureBotWebhookHmacSecret
  split
  · rfl
  · exact Or.inl rfl

omit [DecidableEq ι] [DecidableEq κ] in
/-- A world follows itself. -/
theorem Follows.refl (world : SecretWorld ι κ) : Follows setup world world :=
  ⟨fun _ stored => stored, fun _ _ stored => stored⟩

omit [DecidableEq ι] [DecidableEq κ] in
/-- What follows a world that follows another follows that one. -/
theorem Follows.trans {middle : SecretWorld ι κ} (first : Follows setup world middle)
    (second : Follows setup middle after) : Follows setup world after :=
  ⟨fun keyId stored => second.keyIds keyId (first.keyIds keyId stored),
    fun botKey plain stored => second.secrets botKey plain (first.secrets botKey plain stored)⟩

omit [DecidableEq ι] [DecidableEq κ] in
/-- Where the table is the same and records are only added, the secrets are the same. -/
theorem follows_of_table (table : after.fleet.table = world.fleet.table)
    (more : ∀ keyId ∈ world.keyIds, keyId ∈ after.keyIds) : Follows setup world after := by
  refine ⟨more, ?_⟩
  intro botKey plain stored
  rw [SecretWorld.secret, table]
  exact secret_more more stored []

/-- A table that is readable stays so while records are added. -/
theorem Readable.more {later : List Text} (readable : Readable setup minLength keyIds table)
    (more : ∀ keyId ∈ keyIds, keyId ∈ later) : Readable setup minLength later table := by
  have same (row : BotWebhookHmac) (stored : row ∈ table.rows) : ∃ plain,
      secretOf (setup.loaded keyIds []) row.secretEnc = some plain ∧
        secretOf (setup.loaded later []) row.secretEnc = some plain := by
    obtain ⟨plain, isPlain⟩ := Option.isSome_iff_exists.mp (readable.decryptable row stored)
    exact ⟨plain, isPlain, secretOf_more more isPlain []⟩
  constructor
  · intro row stored
    obtain ⟨plain, _, isPlain⟩ := same row stored
    exact Option.isSome_iff_exists.mpr ⟨plain, isPlain⟩
  · intro botKey plain isStored
    obtain ⟨row, found, isPlain⟩ := Option.bind_eq_some_iff.mp isStored
    obtain ⟨other, before, later⟩ := same row (HmacTable.row?_some found).1
    obtain rfl := Option.some.inj (later.symm.trans isPlain)
    exact readable.long botKey other ((secret_of_row found).trans before)

omit [DecidableEq ι] [DecidableEq κ] in
/-- What is kept where a step leaves the table and the calls: the keys it brings into use have to
have records, and what it collects has to be stored. -/
theorem SecretWorld.Coherent.of_table (coherent : world.Coherent setup owner minLength)
    (table : after.fleet.table = world.fleet.table)
    (more : ∀ keyId ∈ world.keyIds, keyId ∈ after.keyIds)
    (active : ∀ keyId since, after.fleet.activeDek = some (keyId, since) → keyId ∈ after.keyIds)
    (ready : ∀ worker keyId, after.fleet.ready worker = some keyId → keyId ∈ after.keyIds)
    (collected : ∀ worker, ∀ entry ∈ after.collected worker,
      world.secret setup entry.1 = some entry.2)
    (calls : ∀ call, Standing (owner.botKey call) (world.secret setup (owner.botKey call))
      (after.calls call)) :
    after.Coherent setup owner minLength ∧ Follows setup world after := by
  have follows : Follows setup world after := follows_of_table table more
  refine ⟨⟨active, ready, ?_, ?_, ?_⟩, follows⟩
  · rw [table]
    exact coherent.readable.more more
  · intro worker entry listed
    exact follows.secrets _ _ (collected worker entry listed)
  · intro call
    exact (calls call).kept (follows.secrets _)

omit [DecidableEq κ] in
/-- Wiring a worker brings only keys with records into use. -/
theorem wire_stored (coherent : world.Coherent setup owner minLength) (worker : ι)
    (verifies : Bool) :
    (∀ keyId since, (wireDatabaseCrypto (setup.storing world.keyIds) world.fleet worker
        verifies).activeDek = some (keyId, since) → keyId ∈ world.keyIds) ∧
      ∀ other keyId, (wireDatabaseCrypto (setup.storing world.keyIds) world.fleet worker
        verifies).ready other = some keyId → keyId ∈ world.keyIds := by
  constructor
  · intro keyId since active
    rw [wireDatabaseCrypto_active] at active
    exact coherent.active keyId since active
  · intro other keyId ready
    rcases wire_ready ready with before | ⟨since, active⟩
    · exact coherent.ready other keyId before
    · exact coherent.active keyId since active

/-- A rotation stores the record of the key that it makes active, so the invariant is kept. -/
theorem rotate_coherent (coherent : world.Coherent setup owner minLength) (worker : ι)
    (verifies : Bool) (now : Int) (newId : Text) (createdAt : Int) :
    (secretStep setup owner world
        (.rotate worker verifies now newId createdAt : SecretEvent ι κ minLength)).Coherent setup
          owner minLength ∧
      Follows setup world (secretStep setup owner world
        (.rotate worker verifies now newId createdAt : SecretEvent ι κ minLength)) := by
  have more : ∀ keyId ∈ world.keyIds, keyId ∈ storedKeyIds world.keyIds
      (rotateDataEncryptionKeyIfDue (setup.storing world.keyIds) world.fleet worker verifies now
        newId createdAt) := fun keyId stored => List.mem_append_right _ stored
  apply coherent.of_table
  · exact rotate_table now newId createdAt
  · exact more
  · intro keyId since active
    dsimp only [secretStep] at active ⊢
    rw [storedKeyIds, active]
    exact List.mem_cons_self
  · intro other keyId ready
    dsimp only [secretStep] at ready ⊢
    obtain ⟨_, wired⟩ := wire_stored coherent worker verifies
    rcases rotate_cases (setup.storing world.keyIds) world.fleet worker verifies now newId
      createdAt with kept | wires | stores
    · rw [kept] at ready
      exact more keyId (coherent.ready other keyId ready)
    · rw [wires] at ready
      exact more keyId (wired other keyId ready)
    · rw [stores] at ready
      dsimp only [Fleet.load] at ready
      split at ready
      · obtain rfl := Option.some.inj ready
        rw [storedKeyIds, stores]
        exact List.mem_cons_self
      · exact more keyId (wired other keyId ready)
  · exact coherent.collected
  · exact coherent.calls

omit [DecidableEq κ] in
/-- What a worker collects is what is stored at that time. -/
theorem collectedBy_stored (world : SecretWorld ι κ) (worker : ι) (verifies : Bool)
    (call : BatchCall) :
    ∀ entry ∈ collectedBy setup world worker verifies call,
      world.secret setup entry.1 = some entry.2 := by
  unfold collectedBy
  cases runs : workerCatchUp (setup.storing world.keyIds) world.fleet worker verifies with
  | none => simp
  | some catchUp =>
    obtain ⟨_, keyId, activeId, since, _, _, _, rfl⟩ := workerCatchUp_some runs
    dsimp only
    cases collected : collectPending _ (selected _ call world.fleet.table) with
    | none => simp
    | some pending =>
      intro entry listed
      have stored := collected_stored collected entry listed
      exact stored

omit [DecidableEq ι] [DecidableEq κ] in
/-- What a worker assigns is what is stored by now as well, as no secret changes in between. -/
theorem assignedBy_kept (lawful : setup.Lawful (· ∈ world.keyIds))
    (coherent : world.Coherent setup owner minLength) (worker : ι) (call : BatchCall) :
    Kept (setup.loaded world.keyIds []) world.fleet.table (assignedBy setup world worker call) := by
  have nothing := Kept.refl coherent.readable.decryptable
  unfold assignedBy
  cases isReady : world.fleet.ready worker with
  | none => exact nothing
  | some keyId =>
    dsimp only
    split
    · have loaded : (setup.loaded world.keyIds keyId).Lawful :=
        lawful.loaded (coherent.ready worker keyId isReady)
      obtain ⟨size, secrets, decryptable⟩ := loaded.assign_stored call
        coherent.readable.decryptable (coherent.collected worker)
      exact ⟨size, secrets, decryptable⟩
    · exact nothing

/-- Assigning keeps the invariant and loses no secret. -/
theorem assign_coherent (lawful : setup.Lawful (· ∈ world.keyIds))
    (coherent : world.Coherent setup owner minLength) (worker : ι) (call : BatchCall) :
    (secretStep setup owner world (.assign worker call : SecretEvent ι κ minLength)).Coherent setup
        owner minLength ∧
      Follows setup world
        (secretStep setup owner world (.assign worker call : SecretEvent ι κ minLength)) := by
  obtain ⟨_, secrets, decryptable⟩ := assignedBy_kept lawful coherent worker call
  have same (botKey : Text) : (secretStep setup owner world
      (.assign worker call : SecretEvent ι κ minLength)).secret setup botKey =
        world.secret setup botKey := secrets botKey
  refine ⟨⟨coherent.active, coherent.ready, ⟨decryptable, ?_⟩, ?_, ?_⟩, ⟨fun _ => id, ?_⟩⟩
  · intro botKey plain stored
    exact coherent.readable.long botKey plain ((same botKey).symm.trans stored)
  · intro other entry listed
    rw [same]
    dsimp only [secretStep] at listed
    split at listed
    · simp at listed
    · exact coherent.collected other entry listed
  · intro other
    rw [same]
    exact coherent.calls other
  · intro botKey plain stored
    rwa [same]

omit [DecidableEq ι] [DecidableEq κ] in
/-- A turn of a call that may stand where it stands keeps the table readable and every secret, and
leaves the call where it may stand. -/
theorem ensuredBy_advanced (lawful : setup.Lawful (· ∈ world.keyIds))
    (coherent : world.Coherent setup owner minLength) (call : κ) (draw : SecretDraw minLength)
    (isReady : world.fleet.ready (owner.worker call) = some keyId) :
    Readable setup minLength world.keyIds (ensuredBy setup owner world call draw).1 ∧
      (∀ botKey plain, world.secret setup botKey = some plain →
        secret (setup.loaded world.keyIds []) (ensuredBy setup owner world call draw).1 botKey =
          some plain) ∧
      Standing (owner.botKey call)
        (secret (setup.loaded world.keyIds []) (ensuredBy setup owner world call draw).1
          (owner.botKey call)) (ensuredBy setup owner world call draw).2 := by
  have standing := coherent.calls call
  by_cases blank : strip (owner.botKey call) = []
  · -- the call ended when it was made
    rw [Standing, if_pos blank] at standing
    have idle : ensuredBy setup owner world call draw =
        (world.fleet.table, .ended .valueError) := by
      rw [ensuredBy, isReady]
      dsimp only
      rw [standing, EnsureCall.advance]
    rw [idle]
    refine ⟨coherent.readable, fun _ _ stored => stored, ?_⟩
    rw [Standing, if_pos blank]
  · rw [Standing, if_neg blank] at standing
    have loaded : (setup.loaded world.keyIds keyId).Lawful :=
      lawful.loaded (coherent.ready _ keyId isReady)
    have advanced := loaded.advance draw coherent.readable.sound standing
    have turn : ensuredBy setup owner world call draw =
        (world.calls call).advance (setup.loaded world.keyIds keyId) (owner.botKey call) draw
          world.fleet.table := by
      rw [ensuredBy, isReady]
    rw [turn]
    refine ⟨advanced.readable coherent.readable, ?_, ?_⟩
    · intro botKey plain stored
      by_cases own : owner.botKey call = botKey
      · subst own
        exact secret_kept advanced.keeps stored
      · rw [secret, EnsureCall.advance_other draw own]
        exact stored
    · rw [Standing, if_neg blank]
      exact advanced.fits

/-- A turn of a call keeps the invariant and loses no secret. -/
theorem ensure_coherent (lawful : setup.Lawful (· ∈ world.keyIds))
    (coherent : world.Coherent setup owner minLength) (call : κ) (draw : SecretDraw minLength) :
    (secretStep setup owner world (.ensure call draw : SecretEvent ι κ minLength)).Coherent setup
        owner minLength ∧
      Follows setup world
        (secretStep setup owner world (.ensure call draw : SecretEvent ι κ minLength)) := by
  cases isReady : world.fleet.ready (owner.worker call) with
  | none =>
    have idle : ensuredBy setup owner world call draw = (world.fleet.table, world.calls call) := by
      rw [ensuredBy, isReady]
    apply coherent.of_table
    · dsimp only [secretStep]
      rw [idle]
    · exact fun _ => id
    · exact coherent.active
    · exact coherent.ready
    · exact coherent.collected
    · intro other
      dsimp only [secretStep]
      rw [idle]
      split
      · rename_i own
        rw [own]
        exact coherent.calls call
      · exact coherent.calls other
  | some keyId =>
    obtain ⟨readable, secrets, standing⟩ := ensuredBy_advanced lawful coherent call draw isReady
    refine ⟨⟨coherent.active, coherent.ready, readable, ?_, ?_⟩, ⟨fun _ => id, secrets⟩⟩
    · intro other entry listed
      exact secrets _ _ (coherent.collected other entry listed)
    · intro other
      dsimp only [secretStep]
      split
      · rename_i own
        rw [own]
        exact standing
      · exact (coherent.calls other).kept (secrets _)

/-- The step lemma, one case for each event. -/
theorem secretStep_coherent (lawful : setup.Lawful (· ∈ world.keyIds))
    (coherent : world.Coherent setup owner minLength) (event : SecretEvent ι κ minLength) :
    (secretStep setup owner world event).Coherent setup owner minLength ∧
      Follows setup world (secretStep setup owner world event) := by
  cases event with
  | wire worker verifies =>
    obtain ⟨active, ready⟩ := wire_stored coherent worker verifies
    exact coherent.of_table wireDatabaseCrypto_table (fun _ => id) active ready coherent.collected
      coherent.calls
  | rotate worker verifies now newId createdAt =>
    exact rotate_coherent coherent worker verifies now newId createdAt
  | collect worker verifies call =>
    obtain ⟨active, ready⟩ := wire_stored coherent worker verifies
    apply coherent.of_table
    · exact wireDatabaseCrypto_table
    · exact fun _ => id
    · exact active
    · exact ready
    · intro other entry listed
      dsimp only [secretStep] at listed
      split at listed
      · exact collectedBy_stored world worker verifies call entry listed
      · exact coherent.collected other entry listed
    · exact coherent.calls
  | assign worker call => exact assign_coherent lawful coherent worker call
  | ensure call draw => exact ensure_coherent lawful coherent call draw
  | again call =>
    apply coherent.of_table
    · rfl
    · exact fun _ => id
    · exact coherent.active
    · exact coherent.ready
    · exact coherent.collected
    · intro other
      dsimp only [secretStep]
      split
      · rename_i own
        rw [own]
        exact standing_fresh _ _
      · exact coherent.calls other
  | restart worker =>
    apply coherent.of_table
    · rfl
    · exact fun _ => id
    · exact coherent.active
    · intro other keyId ready
      dsimp only [secretStep] at ready
      split at ready
      · simp at ready
      · exact coherent.ready other keyId ready
    · intro other entry listed
      dsimp only [secretStep] at listed
      split at listed
      · simp at listed
      · exact coherent.collected other entry listed
    · intro call
      dsimp only [secretStep]
      split
      · exact standing_fresh _ _
      · exact coherent.calls call

/-- The ids of the records stay among those in use: a rotation stores the record of the key that is
active then, which is the one it drew or had a record before. -/
theorem secretStep_known {used : Text → Prop} (known : ∀ keyId ∈ world.keyIds, used keyId)
    (coherent : world.Coherent setup owner minLength) {event : SecretEvent ι κ minLength}
    (draws : event.DrawsIn used) : ∀ keyId ∈ (secretStep setup owner world event).keyIds,
      used keyId := by
  cases event with
  | rotate worker verifies now newId createdAt =>
    intro keyId stored
    rcases List.mem_append.mp stored with isActive | before
    · obtain ⟨⟨activeId, since⟩, active, rfl⟩ :=
        Option.map_eq_some_iff.mp (Option.mem_toList.mp isActive)
      rcases rotate_cases (setup.storing world.keyIds) world.fleet worker verifies now newId
        createdAt with kept | wires | stores
      · rw [kept] at active
        exact known _ (coherent.active _ _ active)
      · rw [wires] at active
        exact known _ ((wire_stored coherent worker verifies).1 _ _ active)
      · rw [stores] at active
        obtain ⟨rfl, -⟩ := Prod.mk.inj (Option.some.inj active)
        exact draws
    · exact known keyId before
  | _ => exact known

omit [DecidableEq ι] [DecidableEq κ] in
/-- Before the first turn of any worker the invariant holds, if the active key has a record and the
rows are readable. -/
theorem start_coherent_world {activeDek : Option (Text × Int)}
    (active : ∀ keyId since, activeDek = some (keyId, since) → keyId ∈ keyIds)
    (readable : Readable setup minLength keyIds table) :
    (SecretWorld.start owner activeDek keyIds table : SecretWorld ι κ).Coherent setup owner
      minLength where
  active := active
  ready _ _ isReady := by simp [SecretWorld.start] at isReady
  readable := readable
  collected _ _ listed := by simp [SecretWorld.start] at listed
  calls call := standing_fresh _ _

/-- A call that has ended has returned what is stored, or refused a blank key. -/
theorem Standing.ended {stored : Option Text} {result : Ensured}
    (standing : Standing botKey stored (.ended result)) :
    strip botKey = [] ∧ result = .valueError ∨
      ∃ plain, result = .returned plain ∧ stored = some plain := by
  unfold Standing at standing
  split at standing
  · rename_i blank
    exact Or.inl ⟨blank, EnsureCall.ended.inj standing⟩
  · exact Or.inr standing

/-- A call that has returned has returned what is stored. -/
theorem Standing.returned {stored : Option Text}
    (standing : Standing botKey stored (.ended (.returned plain))) : stored = some plain := by
  rcases standing.ended with ⟨_, refused⟩ | ⟨other, isReturned, isStored⟩
  · simp at refused
  · rw [isStored, Ensured.returned.inj isReturned]

/-- Whatever the workers do and in whichever order, the secrets survive: over rotations, catch-ups
whose two halves are far apart, racing calls and restarts.

Proof: the invariant holds at the start, every event keeps it, and no event loses a secret; so what
is stored at some point of a run is stored at its end, and a call that has ended has returned what
is stored. -/
theorem secrets_survive (setup : KeySetup KeyContext) (used : Text → Prop)
    (lawful : setup.Lawful used) (owner : CallOwner ι κ) (activeDek : Option (Text × Int))
    (keyIds : List Text) (known : ∀ keyId ∈ keyIds, used keyId)
    (active : ∀ keyId since, activeDek = some (keyId, since) → keyId ∈ keyIds)
    (table : HmacTable) (readable : Readable setup minLength keyIds table)
    (events : List (SecretEvent ι κ minLength)) (draws : ∀ event ∈ events, event.DrawsIn used) :
    Survives setup owner (SecretWorld.start owner activeDek keyIds table) events := by
  have initially : (SecretWorld.start owner activeDek keyIds table : SecretWorld ι κ).Coherent
      setup owner minLength ∧ ∀ keyId ∈ keyIds, used keyId :=
    ⟨start_coherent_world active readable, known⟩
  have kept (world : SecretWorld ι κ) (event : SecretEvent ι κ minLength)
      (holds : world.Coherent setup owner minLength ∧ ∀ keyId ∈ world.keyIds, used keyId)
      (draws : event.DrawsIn used) :
      (secretStep setup owner world event).Coherent setup owner minLength ∧
        ∀ keyId ∈ (secretStep setup owner world event).keyIds, used keyId :=
    ⟨(secretStep_coherent (lawful.stored holds.2) holds.1 event).1,
      secretStep_known holds.2 holds.1 draws⟩
  have coherentAt (before : List (SecretEvent ι κ minLength))
      (draws : ∀ event ∈ before, event.DrawsIn used) :=
    invariant_run kept _ before initially (guarded_of_mem _ before draws)
  have follows (before later : List (SecretEvent ι κ minLength))
      (draws : ∀ event ∈ before ++ later, event.DrawsIn used) :
      Follows setup (run (secretStep setup owner) (SecretWorld.start owner activeDek keyIds table)
        before) (run (secretStep setup owner) (SecretWorld.start owner activeDek keyIds table)
          (before ++ later)) := by
    obtain ⟨drawsBefore, drawsLater⟩ := List.forall_mem_append.mp draws
    rw [run_append]
    exact related_run Follows.refl (fun _ _ _ => Follows.trans) kept
      (fun _ event holds _ => (secretStep_coherent (lawful.stored holds.2) holds.1 event).2) _
      later (coherentAt before drawsBefore) (guarded_of_mem _ later drawsLater)
  constructor
  · rintro before later rfl
    exact (follows before later draws).secrets
  · exact (coherentAt events draws).1.readable
  · intro call result isEnded
    have standing := (coherentAt events draws).1.calls call
    rw [isEnded] at standing
    exact standing.ended
  · rintro before later rfl first second early late isFirst isSecond sameBot
    have drawsBefore := (List.forall_mem_append.mp draws).1
    have standing := (coherentAt before drawsBefore).1.calls first
    have standingLater := (coherentAt (before ++ later) draws).1.calls second
    rw [isFirst] at standing
    rw [isSecond] at standingLater
    have stays := (follows before later draws).secrets _ _ standing.returned
    rw [sameBot] at stays
    exact Option.some.inj (stays.symm.trans standingLater.returned)

end World

section Example

/-- Its wire texts name their key and decrypt under it. -/
theorem dailyRotation_lawful (used : Text → Prop) : dailyRotation.Lawful used where
  filled keyId _ drawn plain := by simp [dailyRotation, sizedCipher]
  names := dailyRotation_names used
  decrypts keyId _ drawn plain := by
    have size : ((List.replicate keyId.length '1' ++ '$' :: (keyId ++ plain)).takeWhile
        (· == '1')) = List.replicate keyId.length '1' := by
      rw [List.takeWhile_append_of_pos (by simp)]
      simp
    have cut : 2 * keyId.length + 1 - keyId.length = keyId.length + 1 := by omega
    have past : keyId.length - (2 * keyId.length + 1) = 0 := by omega
    simp [dailyRotation, sizedCipher, size, List.drop_append, cut, past]

/-- Each worker calls for the secret of the same bot. -/
def sharedBot : CallOwner Bool Bool where
  worker call := call
  botKey _ := "b1".toList

/-- The one row decrypts to a secret of two characters. -/
theorem oneSecret_readable : Readable dailyRotation 2 ["old".toList] oneSecret.table := by
  have only (row : BotWebhookHmac) (stored : row ∈ oneSecret.table.rows) :
      secretOf (dailyRotation.loaded ["old".toList] []) row.secretEnc = some "s1".toList := by
    obtain rfl := List.mem_singleton.mp stored
    decide
  constructor
  · intro row stored
    rw [only row stored]
    rfl
  · intro botKey plain isStored
    obtain ⟨row, found, isPlain⟩ := Option.bind_eq_some_iff.mp isStored
    obtain rfl := Option.some.inj ((only row (HmacTable.row?_some found).1).symm.trans isPlain)
    decide

/-- What the calls of the example draw; the secret is stored already, so none of it is used. -/
def shortDraw : SecretDraw 2 where
  plain := zeroToken
  drawn := 0
  now := 0

/-- A worker that has collected under the old key assigns after the other one has rotated, and both
have asked for the secret by then; one of them restarts. -/
theorem late_assignment_survives :
    Survives dailyRotation sharedBot
      (SecretWorld.start sharedBot oneSecret.activeDek ["old".toList] oneSecret.table)
      [.wire true true, .wire false true, .rotate false true day "new".toList day,
        .collect true true storedCall, .ensure false shortDraw, .restart false,
        .collect false true storedCall, .assign true storedCall, .assign false storedCall,
        .ensure false shortDraw, .ensure true shortDraw] := by
  apply secrets_survive dailyRotation OldOrNew (dailyRotation_lawful OldOrNew) sharedBot
    oneSecret.activeDek ["old".toList] ?_ (by simp [oneSecret]) oneSecret.table
    oneSecret_readable
  · simp [SecretEvent.DrawsIn, OldOrNew]
  · simp [OldOrNew]

end Example

end Thaum.Vault
