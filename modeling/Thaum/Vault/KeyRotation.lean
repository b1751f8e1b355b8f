import Thaum.Vault.WebhookSecrets

/-!
# Key rotation by changing leaders

The active data key is in the database. Each worker loads its context once, when it wires
the field encryption, and encrypts under it from then on; a rotation stores a new active
key and replaces the context of the worker that rotates. The catch-up of whichever worker
leads looks for rows under another key than the active one and encrypts them under the
context of that worker.

The contexts of a worker are told apart by the ids of their keys. What the key library
does with an id is passed in.

A catch-up takes the rows that its query returns first, fifty at most, so what it gets done
depends on them too: it rewrites nothing where none of them is under another key, or where
one of them cannot be read.
-/

namespace Thaum.Vault

open PyText KeyedRows GuardedRuns

universe u

/-- The settings that the workers share, and the key library. -/
structure KeySetup (KeyContext : Type) where
  cipher : FieldCipher KeyContext
  /-- `load_keyctx` of the key record of an id. -/
  loadKeyctx : Text → KeyContext
  makeKeyctxResolver : (passphrase : Text) → Text → Option KeyContext
  /-- `_resolved_vault_passphrase`. -/
  passphrase : Option Text
  dataKeyRotateDays : Int

/-- The active key with the time it was created at, the key each worker encrypts under
once it is wired, and the secrets. -/
structure Fleet (ι : Type u) where
  activeDek : Option (Text × Int)
  ready : ι → Option Text
  table : HmacTable

/-- A worker wires its crypto or takes a turn as the leader. The flag says whether the
key rows it reads are there and verify. -/
inductive FleetEvent (ι : Type u) where
  | wire (worker : ι) (verifies : Bool) : FleetEvent ι
  | rotate (worker : ι) (verifies : Bool) (now : Int) (newId : Text) (createdAt : Int) :
    FleetEvent ι
  | catchUp (worker : ι) (verifies : Bool) (call : BatchCall) : FleetEvent ι

/-- A day, in microseconds. -/
def day : Int := 86400000000

variable {ι : Type u} [DecidableEq ι] {KeyContext : Type} (setup : KeySetup KeyContext)

/-- The worker encrypts under a key. -/
def Fleet.load (fleet : Fleet ι) (worker : ι) (keyId : Text) : Fleet ι :=
  { fleet with ready := fun other => if other = worker then some keyId else fleet.ready other }

/-- `wire_database_crypto`; where it raises nothing is wired. -/
def wireDatabaseCrypto (fleet : Fleet ι) (worker : ι) (verifies : Bool) : Fleet ι :=
  match setup.passphrase, fleet.ready worker, fleet.activeDek with
  | some _, none, some (activeId, _) => if verifies then fleet.load worker activeId else fleet
  | _, _, _ => fleet

/-- `rotate_data_encryption_key_if_due`, which wires a worker that is not ready yet. -/
def rotateDataEncryptionKeyIfDue (fleet : Fleet ι) (worker : ι) (verifies : Bool) (now : Int)
    (newId : Text) (createdAt : Int) : Fleet ι :=
  if setup.dataKeyRotateDays ≤ 0 ∨ setup.passphrase = none then fleet
  else
    let fleet := wireDatabaseCrypto setup fleet worker verifies
    match fleet.ready worker, fleet.activeDek with
    | some _, some (_, since) =>
      if now - since < setup.dataKeyRotateDays * day then fleet
      else if !verifies then fleet
      else { fleet.load worker newId with activeDek := some (newId, createdAt) }
    | _, _ => fleet

/-- `progressive_reencrypt_encrypted_strings_if_needed` of a worker, which wires it if it
is not ready yet. -/
def catchUpOfWorker (fleet : Fleet ι) (worker : ι) (verifies : Bool) (call : BatchCall) :
    Fleet ι :=
  let fleet := wireDatabaseCrypto setup fleet worker verifies
  match fleet.ready worker with
  | none => fleet
  | some keyId =>
    { fleet with
      table := progressiveReencryptEncryptedStringsIfNeeded setup.cipher
        (setup.loadKeyctx keyId) setup.makeKeyctxResolver true setup.passphrase
        (fleet.activeDek.map Prod.fst) call fleet.table }

/-- One event of a worker. -/
def fleetStep (fleet : Fleet ι) : FleetEvent ι → Fleet ι
  | .wire worker verifies => wireDatabaseCrypto setup fleet worker verifies
  | .rotate worker verifies now newId createdAt =>
    rotateDataEncryptionKeyIfDue setup fleet worker verifies now newId createdAt
  | .catchUp worker verifies call => catchUpOfWorker setup fleet worker verifies call

/-- The secrets that a call assigns again. -/
def assigned (catchUp : CatchUp KeyContext) (call : BatchCall) (table : HmacTable) :
    List (Text × Text) :=
  if call.commits then (collectPending catchUp (selected catchUp call table)).getD [] else []

/-- The catch-up that a worker runs, if it can. -/
def workerCatchUp (fleet : Fleet ι) (worker : ι) (verifies : Bool) :
    Option (CatchUp KeyContext) :=
  match setup.passphrase, (wireDatabaseCrypto setup fleet worker verifies).ready worker,
      fleet.activeDek with
  | some passphrase, some keyId, some (activeId, _) =>
    some (leaderCatchUp setup.cipher (setup.loadKeyctx keyId)
      (setup.makeKeyctxResolver passphrase) activeId)
  | _, _, _ => none

/-- The bots whose rows an event rewrites. -/
def rewritten (fleet : Fleet ι) : FleetEvent ι → List Text
  | .catchUp worker verifies call =>
    match workerCatchUp setup fleet worker verifies with
    | some catchUp => (assigned catchUp call fleet.table).map Prod.fst
    | none => []
  | _ => []

/-- Every row that an event rewrites is under the active key. -/
def UnderActive (fleet : Fleet ι) (event : FleetEvent ι) : Prop :=
  ∀ botKey ∈ rewritten setup fleet event,
    ∀ row ∈ (fleetStep setup fleet event).table.row? botKey,
      setup.cipher.parseKeyId row.secretEnc = fleet.activeDek.map Prod.fst

/-- No new key is stored. -/
def Unrotated (fleet : Fleet ι) (event : FleetEvent ι) : Prop :=
  (fleetStep setup fleet event).activeDek = fleet.activeDek

/-- The row names another key than the active one, and so waits to be rewritten. -/
def Fleet.waits (fleet : Fleet ι) (row : BotWebhookHmac) : Bool :=
  match setup.cipher.parseKeyId row.secretEnc with
  | none => false
  | some keyId => !row.secretEnc.isEmpty && some keyId != fleet.activeDek.map Prod.fst

/-- The number of rows that are left to be rewritten. -/
def Fleet.rowsLeft (fleet : Fleet ι) : Nat := fleet.table.rows.countP (fleet.waits setup)

/-- The number of rows that the events of a run rewrite. -/
def rewrites (fleet : Fleet ι) : List (FleetEvent ι) → Nat
  | [] => 0
  | event :: rest =>
    (rewritten setup fleet event).length + rewrites (fleetStep setup fleet event) rest

/-- The event is a catch-up that the worker can run and whose transaction commits. -/
def runsCatchUp (fleet : Fleet ι) : FleetEvent ι → Bool
  | .catchUp worker verifies call =>
    (workerCatchUp setup fleet worker verifies).isSome && call.commits
  | _ => false

/-- The number of such catch-ups in a run. -/
def committedCatchUps (fleet : Fleet ι) : List (FleetEvent ι) → Nat
  | [] => 0
  | event :: rest =>
    (if runsCatchUp setup fleet event then 1 else 0) +
      committedCatchUps (fleetStep setup fleet event) rest

/-- What is rewritten is under the active key. Without further rotations no more rows are
rewritten than are left, and each committed catch-up leaves fewer of them, so that as many
catch-ups as rows leave none. -/
structure Converges (fleet : Fleet ι) (events : List (FleetEvent ι)) : Prop where
  underActive : Guarded (fleetStep setup) (UnderActive setup) fleet events
  comesToRest : ∀ before after, events = before ++ after →
    Guarded (fleetStep setup) (Unrotated setup) (run (fleetStep setup) fleet before) after →
      rewrites setup (run (fleetStep setup) fleet before) after ≤
        (run (fleetStep setup) fleet before).rowsLeft setup
  finishes : ∀ before between after, events = before ++ (between ++ after) →
    Guarded (fleetStep setup) (Unrotated setup) (run (fleetStep setup) fleet before) between →
      (run (fleetStep setup) fleet (before ++ between)).rowsLeft setup ≤
        (run (fleetStep setup) fleet before).rowsLeft setup -
          committedCatchUps setup (run (fleetStep setup) fleet before) between

/-- A worker whose catch-up finds rows to rewrite has the active key loaded. -/
def UpToDate (fleet : Fleet ι) : FleetEvent ι → Prop
  | .catchUp worker verifies call => rewritten setup fleet (.catchUp worker verifies call) ≠ [] →
      (wireDatabaseCrypto setup fleet worker verifies).ready worker =
        fleet.activeDek.map Prod.fst
  | _ => True

/-- None of the rows of a batch raises where it is read, and one of them is under another
key and decrypts. -/
def BatchAdvances (catchUp : CatchUp KeyContext) (rows : List BotWebhookHmac) : Prop :=
  (∀ row ∈ rows, staleSecret catchUp row.secretEnc ≠ none) ∧
    ∃ row ∈ rows, ∃ plain, staleSecret catchUp row.secretEnc = some (some plain)

/-- While rows are left, a worker that runs a catch-up and commits it has the active key
loaded, and the rows of its batch are such that it advances. -/
def Advances (fleet : Fleet ι) : FleetEvent ι → Prop
  | .catchUp worker verifies call =>
    ∀ catchUp, workerCatchUp setup fleet worker verifies = some catchUp → call.commits = true →
      fleet.rowsLeft setup ≠ 0 →
        (wireDatabaseCrypto setup fleet worker verifies).ready worker =
            fleet.activeDek.map Prod.fst ∧
          BatchAdvances catchUp (selected catchUp call fleet.table)
  | _ => True

/-- A text encrypted under the context of a key that is in use names that key. -/
def KeySetup.Names (setup : KeySetup KeyContext) (used : Text → Prop) : Prop :=
  ∀ keyId, used keyId → ∀ drawn plain, setup.cipher.parseKeyId
    (setup.cipher.encryptString drawn (setup.loadKeyctx keyId) plain) = some keyId

/-- The active key and the keys that the workers have loaded are among those in use. -/
structure Fleet.KeysIn (fleet : Fleet ι) (used : Text → Prop) : Prop where
  active : ∀ keyId since, fleet.activeDek = some (keyId, since) → used keyId
  ready : ∀ worker keyId, fleet.ready worker = some keyId → used keyId

/-- So is the key that an event draws. -/
def FleetEvent.DrawsIn (used : Text → Prop) : FleetEvent ι → Prop
  | .rotate _ _ _ newId _ => used newId
  | _ => True

variable {setup} {fleet : Fleet ι} {catchUp : CatchUp KeyContext} {call : BatchCall}
  {table : HmacTable} {botKey : Text} {pending : List (Text × Text)}
  {rows : List BotWebhookHmac}

/-- A secret is collected of a row that names another key only. A row without a secret names
none. -/
theorem staleSecret_other {wire plain : Text}
    (collected : staleSecret catchUp wire = some (some plain)) :
    wire ≠ [] ∧ ∃ keyId, catchUp.cipher.parseKeyId wire = some keyId ∧
      keyId ≠ catchUp.activeDekKeyId := by
  unfold staleSecret at collected
  split at collected
  · simp at collected
  · rename_i filled
    split at collected
    · simp at collected
    · rename_i keyId parsed
      split at collected
      · simp at collected
      · rename_i other
        exact ⟨filled, keyId, parsed, other⟩

/-- Where the rows can be collected so can the first one, and what it gives comes in front of what
the others give. The two inductions below take their step from it. -/
theorem collectPending_cons {row : BotWebhookHmac}
    (collected : collectPending catchUp (row :: rows) = some pending) :
    ∃ secret later, staleSecret catchUp row.secretEnc = some secret ∧
      collectPending catchUp rows = some later ∧
      pending = (secret.map fun plain => (row.botKey, plain)).toList ++ later := by
  rw [collectPending] at collected
  cases found : staleSecret catchUp row.secretEnc with
  | none => simp [found] at collected
  | some secret =>
    simp only [found, Option.map_eq_some_iff] at collected
    obtain ⟨later, isLater, rfl⟩ := collected
    exact ⟨secret, later, rfl, isLater, rfl⟩

/-- The secrets that are collected are those of rows, at most one of each row and in their order. -/
theorem collectPending_collects (collected : collectPending catchUp rows = some pending) :
    (∀ entry ∈ pending, ∃ row ∈ rows, row.botKey = entry.1 ∧
      staleSecret catchUp row.secretEnc = some (some entry.2)) ∧
      (pending.map Prod.fst).Sublist (rows.map BotWebhookHmac.botKey) := by
  induction rows generalizing pending with
  | nil =>
    obtain rfl := Option.some.inj collected
    exact ⟨by simp, List.Sublist.refl _⟩
  | cons row rest inductionHypothesis =>
    obtain ⟨secret, later, found, isLater, rfl⟩ := collectPending_cons collected
    obtain ⟨fromRows, keys⟩ := inductionHypothesis isLater
    have behind : ∀ entry ∈ later, ∃ second ∈ row :: rest, second.botKey = entry.1 ∧
        staleSecret catchUp second.secretEnc = some (some entry.2) := by
      intro entry listed
      obtain ⟨second, isRow, facts⟩ := fromRows entry listed
      exact ⟨second, List.mem_cons_of_mem _ isRow, facts⟩
    cases secret with
    | none => exact ⟨behind, keys.cons _⟩
    | some plain =>
      refine ⟨?_, keys.cons_cons _⟩
      intro entry listed
      rcases List.mem_cons.mp listed with rfl | isLater
      · exact ⟨row, List.mem_cons_self, rfl, found⟩
      · exact behind entry isLater

/-- Collecting raises exactly where reading one of the rows does, and then nothing of the batch is
rewritten. -/
theorem collectPending_none_iff : collectPending catchUp rows = none ↔
    ∃ row ∈ rows, staleSecret catchUp row.secretEnc = none := by
  induction rows with
  | nil => simp [collectPending]
  | cons row rest inductionHypothesis =>
    rw [collectPending, List.exists_mem_cons_iff, ← inductionHypothesis]
    cases found : staleSecret catchUp row.secretEnc with
    | none => simp
    | some secret => simp

/-- Nothing is collected exactly where no row is under another key and decrypts. -/
theorem collectPending_nil_iff (collected : collectPending catchUp rows = some pending) :
    pending = [] ↔
      ¬ ∃ row ∈ rows, ∃ plain, staleSecret catchUp row.secretEnc = some (some plain) := by
  induction rows generalizing pending with
  | nil =>
    obtain rfl := Option.some.inj collected
    simp
  | cons row rest inductionHypothesis =>
    obtain ⟨secret, later, found, isLater, rfl⟩ := collectPending_cons collected
    rw [List.append_eq_nil_iff, inductionHypothesis isLater, List.exists_mem_cons_iff, not_or,
      found]
    cases secret with
    | none => simp
    | some plain => simp

/-- A batch advances exactly where its rows can be collected and something is. -/
theorem batchAdvances_iff :
    BatchAdvances catchUp rows ↔ (collectPending catchUp rows).getD [] ≠ [] := by
  rw [BatchAdvances]
  cases collected : collectPending catchUp rows with
  | none =>
    obtain ⟨row, listed, raises⟩ := collectPending_none_iff.mp collected
    simp only [Option.getD_none, ne_eq, not_true_eq_false, iff_false, not_and]
    intro readable
    exact absurd raises (readable row listed)
  | some pending =>
    have readable : ∀ row ∈ rows, staleSecret catchUp row.secretEnc ≠ none := by
      intro row listed raises
      have none := collectPending_none_iff.mpr ⟨row, listed, raises⟩
      rw [collected] at none
      simp at none
    rw [Option.getD_some, ne_eq, collectPending_nil_iff collected, not_not]
    exact and_iff_right readable

/-- The row of a bot, if there is one, is encrypted under the current context. -/
def Encrypted (catchUp : CatchUp KeyContext) (botKey : Text) (table : HmacTable) : Prop :=
  ∀ row, table.row? botKey = some row → ∃ drawn plain,
    row.secretEnc = catchUp.cipher.encryptString drawn catchUp.current plain

/-- A row that is written is encrypted under the current context. -/
theorem Encrypted.write {row : BotWebhookHmac} {plain : Text}
    (encrypted : Encrypted catchUp botKey table ∨ row.botKey = botKey) :
    Encrypted catchUp botKey (table.write (reassigned catchUp call row plain)) := by
  intro after found
  by_cases own : row.botKey = botKey
  · subst own
    have written := HmacTable.row?_write_same table (reassigned catchUp call row plain)
    obtain rfl := Option.some.inj (written.symm.trans found)
    exact ⟨_, _, rfl⟩
  · have different : (reassigned catchUp call row plain).botKey ≠ botKey := own
    rw [HmacTable.row?_write_other different] at found
    exact encrypted.resolve_right own after found

/-- A row whose secret was assigned is encrypted under the current context, whichever entries
follow. -/
theorem assignPending_encrypted
    (listed : botKey ∈ pending.map Prod.fst ∨ Encrypted catchUp botKey table) :
    Encrypted catchUp botKey (assignPending catchUp call pending table).1 := by
  induction pending generalizing table with
  | nil => exact listed.resolve_left List.not_mem_nil
  | cons entry rest inductionHypothesis =>
    obtain ⟨key, plain⟩ := entry
    rw [List.map_cons, List.mem_cons, or_assoc] at listed
    rw [assignPending]
    cases found : table.row? key with
    | none =>
      apply inductionHypothesis
      rcases listed with rfl | later | already
      · right
        intro row stored
        rw [found] at stored
        simp at stored
      · exact Or.inl later
      · exact Or.inr already
    | some row =>
      apply inductionHypothesis
      rcases listed with own | later | already
      · exact Or.inr (.write (Or.inr ((HmacTable.row?_some found).2.trans own.symm)))
      · exact Or.inl later
      · exact Or.inr (.write (Or.inl already))

/-- Assigning secrets removes no row. -/
theorem assignPending_isSome (stored : (table.row? botKey).isSome = true) :
    ((assignPending catchUp call pending table).1.row? botKey).isSome = true := by
  induction pending generalizing table with
  | nil => exact stored
  | cons entry rest inductionHypothesis =>
    rw [assignPending]
    cases found : table.row? entry.1 with
    | none => exact inductionHypothesis stored
    | some row =>
      apply inductionHypothesis
      by_cases own : row.botKey = botKey
      · subst own
        have written := HmacTable.row?_write_same table (reassigned catchUp call row entry.2)
        exact Option.isSome_iff_exists.mpr ⟨_, written⟩
      · have different : (reassigned catchUp call row entry.2).botKey ≠ botKey := own
        rwa [HmacTable.row?_write_other different]

/-- What a call leaves of the table: the assigned secrets, which are none where it raises or its
transaction fails. -/
theorem tick_assigned (positive : 0 < catchUp.batchLimit) :
    tick catchUp table call =
      (assignPending catchUp call (assigned catchUp call table) table).1 := by
  rw [tick, reEncryptStaleBotWebhookHmacBatch, if_neg (Int.not_le.mpr positive), ← selected,
    assigned]
  cases collected : collectPending catchUp (selected catchUp call table) with
  | none => cases call.commits <;> rfl
  | some pending =>
    cases pending with
    | nil => cases call.commits <;> rfl
    | cons entry rest => cases call.commits <;> rfl

/-- The assigned secrets are those of stored rows, one for each bot. -/
theorem assigned_collects (catchUp : CatchUp KeyContext) (call : BatchCall) (table : HmacTable) :
    (∀ entry ∈ assigned catchUp call table, ∃ row, table.row? entry.1 = some row ∧
      staleSecret catchUp row.secretEnc = some (some entry.2)) ∧
      ((assigned catchUp call table).map Prod.fst).Nodup := by
  rw [assigned]
  cases call.commits with
  | false => simp
  | true =>
    simp only [if_true]
    cases collected : collectPending catchUp (selected catchUp call table) with
    | none => simp
    | some pending =>
      obtain ⟨fromRows, keys⟩ := collectPending_collects collected
      constructor
      · intro entry listed
        obtain ⟨row, isSelected, keyed, collects⟩ := fromRows entry listed
        have stored : row ∈ table.rows :=
          (call.scan.permutes table.rows).mem_iff.mp (List.mem_of_mem_take isSelected)
        exact ⟨row, keyed ▸ HmacTable.row?_of_mem stored, collects⟩
      · have distinct : ((call.scan.order table.rows).map BotWebhookHmac.botKey).Nodup :=
          ((call.scan.permutes table.rows).map _).nodup_iff.mpr table.keyed
        have inTable : (selected catchUp call table).Sublist (call.scan.order table.rows) :=
          List.take_sublist _ _
        exact distinct.sublist (keys.trans (inTable.map _))

section Fleet

variable {worker : ι} {verifies : Bool} {event : FleetEvent ι} {used : Text → Prop}
  {keyId : Text}

/-- Wiring leaves the fleet, or loads the active key into a worker that has none. -/
theorem wireDatabaseCrypto_cases (setup : KeySetup KeyContext) (fleet : Fleet ι) (worker : ι)
    (verifies : Bool) :
    wireDatabaseCrypto setup fleet worker verifies = fleet ∨
      ∃ activeId since, fleet.activeDek = some (activeId, since) ∧ fleet.ready worker = none ∧
        wireDatabaseCrypto setup fleet worker verifies = fleet.load worker activeId := by
  unfold wireDatabaseCrypto
  split
  · rename_i unready active
    split
    · exact Or.inr ⟨_, _, active, unready, rfl⟩
    · exact Or.inl rfl
  · exact Or.inl rfl

/-- Wiring stores no key. -/
@[simp] theorem wireDatabaseCrypto_active :
    (wireDatabaseCrypto setup fleet worker verifies).activeDek = fleet.activeDek := by
  rcases wireDatabaseCrypto_cases setup fleet worker verifies with
    kept | ⟨_, _, _, _, loaded⟩
  · rw [kept]
  · rw [loaded, Fleet.load]

/-- Wiring leaves the secrets. -/
@[simp] theorem wireDatabaseCrypto_table :
    (wireDatabaseCrypto setup fleet worker verifies).table = fleet.table := by
  rcases wireDatabaseCrypto_cases setup fleet worker verifies with
    kept | ⟨_, _, _, _, loaded⟩
  · rw [kept]
  · rw [loaded, Fleet.load]

/-- A wired worker has its key from before, or the active one. It does not look for a newer one once
it has one. -/
theorem wire_ready {other : ι}
    (ready : (wireDatabaseCrypto setup fleet worker verifies).ready other = some keyId) :
    fleet.ready other = some keyId ∨ ∃ since, fleet.activeDek = some (keyId, since) := by
  rcases wireDatabaseCrypto_cases setup fleet worker verifies with
    kept | ⟨activeId, since, active, _, loaded⟩
  · exact Or.inl (kept ▸ ready)
  · rw [loaded, Fleet.load] at ready
    dsimp only at ready
    split at ready
    · obtain rfl := Option.some.inj ready
      exact Or.inr ⟨since, active⟩
    · exact Or.inl ready

/-- What a rotation can do: nothing, wire the worker, or store a new key and load it. -/
theorem rotate_cases (setup : KeySetup KeyContext) (fleet : Fleet ι) (worker : ι)
    (verifies : Bool) (now : Int) (newId : Text) (createdAt : Int) :
    rotateDataEncryptionKeyIfDue setup fleet worker verifies now newId createdAt = fleet ∨
      rotateDataEncryptionKeyIfDue setup fleet worker verifies now newId createdAt =
        wireDatabaseCrypto setup fleet worker verifies ∨
      rotateDataEncryptionKeyIfDue setup fleet worker verifies now newId createdAt =
        { (wireDatabaseCrypto setup fleet worker verifies).load worker newId with
          activeDek := some (newId, createdAt) } := by
  unfold rotateDataEncryptionKeyIfDue
  split
  · exact Or.inl rfl
  · dsimp only
    split
    · split
      · exact Or.inr (Or.inl rfl)
      · split
        · exact Or.inr (Or.inl rfl)
        · exact Or.inr (Or.inr rfl)
    · exact Or.inr (Or.inl rfl)

/-- Only a catch-up changes the secrets. -/
theorem rotate_table (now : Int) (newId : Text) (createdAt : Int) :
    (rotateDataEncryptionKeyIfDue setup fleet worker verifies now newId createdAt).table =
      fleet.table := by
  unfold rotateDataEncryptionKeyIfDue
  split
  · rfl
  · dsimp only
    split
    · split
      · exact wireDatabaseCrypto_table
      · split
        · exact wireDatabaseCrypto_table
        · rw [Fleet.load]
          exact wireDatabaseCrypto_table
    · exact wireDatabaseCrypto_table

/-- A catch-up stores no key. -/
theorem catchUp_active : (catchUpOfWorker setup fleet worker verifies call).activeDek =
    fleet.activeDek := by
  unfold catchUpOfWorker
  dsimp only
  split
  · exact wireDatabaseCrypto_active
  · exact wireDatabaseCrypto_active

/-- A worker that runs a catch-up encrypts under the key it has loaded, and looks for rows under
another key than the active one. The two need not be the same. -/
theorem workerCatchUp_some (runs : workerCatchUp setup fleet worker verifies = some catchUp) :
    ∃ passphrase keyId activeId since, setup.passphrase = some passphrase ∧
      (wireDatabaseCrypto setup fleet worker verifies).ready worker = some keyId ∧
      fleet.activeDek = some (activeId, since) ∧
      catchUp = leaderCatchUp setup.cipher (setup.loadKeyctx keyId)
        (setup.makeKeyctxResolver passphrase) activeId := by
  unfold workerCatchUp at runs
  split at runs
  · rename_i isPassphrase isReady active
    exact ⟨_, _, _, _, isPassphrase, isReady, active, (Option.some.inj runs).symm⟩
  · simp at runs

/-- The catch-up of a worker assigns the secrets of its rows. -/
theorem catchUp_table (runs : workerCatchUp setup fleet worker verifies = some catchUp) :
    (catchUpOfWorker setup fleet worker verifies call).table =
      (assignPending catchUp call (assigned catchUp call fleet.table) fleet.table).1 := by
  obtain ⟨passphrase, keyId, activeId, since, isPassphrase, isReady, active, rfl⟩ :=
    workerCatchUp_some runs
  have positive : 0 < encryptedFieldCatchupBatch := by decide
  rw [← tick_assigned positive]
  simp only [catchUpOfWorker, isReady, progressiveReencryptEncryptedStringsIfNeeded,
    isPassphrase, wireDatabaseCrypto_active, active, Option.map_some, wireDatabaseCrypto_table]

/-- A worker that runs no catch-up leaves the secrets. -/
theorem catchUp_idle (runs : workerCatchUp setup fleet worker verifies = none) :
    (catchUpOfWorker setup fleet worker verifies call).table = fleet.table := by
  unfold workerCatchUp at runs
  unfold catchUpOfWorker
  dsimp only
  cases isReady : (wireDatabaseCrypto setup fleet worker verifies).ready worker with
  | none => exact wireDatabaseCrypto_table
  | some keyId =>
    cases isPassphrase : setup.passphrase with
    | none => exact wireDatabaseCrypto_table
    | some passphrase =>
      cases active : fleet.activeDek with
      | none =>
        simp only [wireDatabaseCrypto_active, active, wireDatabaseCrypto_table]
        rfl
      | some row => simp [isReady, isPassphrase, active] at runs

/-- No step brings a key into use that is neither active, loaded nor drawn. -/
theorem fleetStep_keysIn (keys : fleet.KeysIn used) (draws : event.DrawsIn used) :
    (fleetStep setup fleet event).KeysIn used := by
  have wired (worker : ι) (verifies : Bool) :
      (wireDatabaseCrypto setup fleet worker verifies).KeysIn used := by
    constructor
    · intro keyId since active
      rw [wireDatabaseCrypto_active] at active
      exact keys.active keyId since active
    · intro other keyId ready
      rcases wire_ready ready with before | ⟨since, active⟩
      · exact keys.ready other keyId before
      · exact keys.active keyId since active
  cases event with
  | wire worker verifies => exact wired worker verifies
  | rotate worker verifies now newId createdAt =>
    rw [fleetStep]
    rcases rotate_cases setup fleet worker verifies now newId createdAt with
      kept | wires | stores
    · rwa [kept]
    · rw [wires]
      exact wired worker verifies
    · rw [stores]
      constructor
      · intro keyId since active
        obtain ⟨rfl, -⟩ := Prod.mk.inj (Option.some.inj active)
        exact draws
      · intro other keyId ready
        dsimp only [Fleet.load] at ready
        split at ready
        · obtain rfl := Option.some.inj ready
          exact draws
        · exact (wired worker verifies).ready other keyId ready
  | catchUp worker verifies call =>
    constructor
    · intro keyId since active
      rw [fleetStep, catchUp_active] at active
      exact keys.active keyId since active
    · intro other keyId ready
      rw [fleetStep, catchUpOfWorker] at ready
      split at ready
      · exact (wired worker verifies).ready other keyId ready
      · exact (wired worker verifies).ready other keyId ready

/-- Nor does a run. -/
theorem run_keysIn {before : List (FleetEvent ι)} (keys : fleet.KeysIn used)
    (draws : ∀ event ∈ before, event.DrawsIn used) :
    (run (fleetStep setup) fleet before).KeysIn used := by
  have kept (fleet : Fleet ι) (event : FleetEvent ι) (keys : fleet.KeysIn used)
      (draws : event.DrawsIn used) : (fleetStep setup fleet event).KeysIn used :=
    fleetStep_keysIn keys draws
  exact invariant_run kept fleet before keys (guarded_of_mem fleet before draws)

/-- A worker that runs a catch-up has a key loaded that is in use. -/
theorem loaded_used (keys : fleet.KeysIn used)
    (isReady : (wireDatabaseCrypto setup fleet worker verifies).ready worker = some keyId) :
    used keyId := by
  rcases wire_ready isReady with before | ⟨since, active⟩
  · exact keys.ready worker keyId before
  · exact keys.active keyId since active

/-- A row whose secret a worker collects is left to be rewritten. -/
theorem collects_waits {row : BotWebhookHmac} {plain : Text}
    (runs : workerCatchUp setup fleet worker verifies = some catchUp)
    (collects : staleSecret catchUp row.secretEnc = some (some plain)) :
    fleet.waits setup row = true := by
  obtain ⟨_, _, activeId, since, _, _, active, rfl⟩ := workerCatchUp_some runs
  obtain ⟨filled, keyId, parsed, other⟩ := staleSecret_other collects
  dsimp only [leaderCatchUp] at parsed other
  simp [Fleet.waits, parsed, filled, active, other]

/-- What is rewritten is under the active key exactly if the worker has it loaded: a rewritten row
names the key it was encrypted under. -/
theorem underActive_iff (names : setup.Names used) (keys : fleet.KeysIn used) :
    UnderActive setup fleet event ↔ UpToDate setup fleet event := by
  cases event with
  | wire => simp [UnderActive, UpToDate, rewritten]
  | rotate => simp [UnderActive, UpToDate, rewritten]
  | catchUp worker verifies call =>
    cases runs : workerCatchUp setup fleet worker verifies with
    | none => simp [UnderActive, UpToDate, rewritten, runs]
    | some catchUp =>
      obtain ⟨_, keyId, activeId, since, _, isReady, active, isLeader⟩ := workerCatchUp_some runs
      have underLoaded : ∀ botKey ∈ rewritten setup fleet (.catchUp worker verifies call),
          ∃ row, (fleetStep setup fleet (.catchUp worker verifies call)).table.row? botKey =
            some row ∧ setup.cipher.parseKeyId row.secretEnc = some keyId := by
        intro botKey listed
        simp only [rewritten, runs] at listed
        rw [fleetStep, catchUp_table runs]
        obtain ⟨entry, isEntry, isKey⟩ := List.mem_map.mp listed
        obtain ⟨before, stored, _⟩ :=
          (assigned_collects catchUp call fleet.table).1 entry isEntry
        have isStored : (fleet.table.row? botKey).isSome = true := by
          rw [← isKey, stored]
          rfl
        obtain ⟨row, found⟩ := Option.isSome_iff_exists.mp (assignPending_isSome isStored)
        obtain ⟨drawn, plain, isWire⟩ := assignPending_encrypted (Or.inl listed) row found
        refine ⟨row, found, ?_⟩
        rw [isWire, isLeader]
        exact names keyId (loaded_used keys isReady) drawn plain
      rw [UnderActive, UpToDate, isReady, active, Option.map_some]
      constructor
      · intro underActive rewrites
        obtain ⟨botKey, listed⟩ := List.exists_mem_of_ne_nil _ rewrites
        obtain ⟨row, found, isLoaded⟩ := underLoaded botKey listed
        exact isLoaded.symm.trans (underActive botKey listed row found)
      · intro upToDate botKey listed row found
        obtain ⟨after, isAfter, isLoaded⟩ := underLoaded botKey listed
        obtain rfl := Option.some.inj (isAfter.symm.trans found)
        exact isLoaded.trans (upToDate (List.ne_nil_of_mem listed))

/-- An up-to-date event without a rotation leaves as many rows fewer as it rewrites, since each of
them was left before and none is afterwards. -/
theorem step_fewer (names : setup.Names used) (keys : fleet.KeysIn used)
    (upToDate : UpToDate setup fleet event) (unrotated : Unrotated setup fleet event) :
    (rewritten setup fleet event).length + (fleetStep setup fleet event).rowsLeft setup =
      fleet.rowsLeft setup := by
  have sameRows : (fleetStep setup fleet event).waits setup = fleet.waits setup := by
    funext row
    rw [Fleet.waits, Fleet.waits, unrotated]
  have untouched (same : (fleetStep setup fleet event).table = fleet.table) :
      (fleetStep setup fleet event).rowsLeft setup = fleet.rowsLeft setup := by
    rw [Fleet.rowsLeft, Fleet.rowsLeft, same, sameRows]
  cases event with
  | wire worker verifies =>
    have nothing : rewritten setup fleet (.wire worker verifies) = [] := rfl
    rw [nothing, List.length_nil, Nat.zero_add]
    exact untouched wireDatabaseCrypto_table
  | rotate worker verifies now newId createdAt =>
    have nothing : rewritten setup fleet (.rotate worker verifies now newId createdAt) = [] := rfl
    rw [nothing, List.length_nil, Nat.zero_add]
    exact untouched (rotate_table now newId createdAt)
  | catchUp worker verifies call =>
    cases runs : workerCatchUp setup fleet worker verifies with
    | none =>
      simp only [rewritten, runs, List.length_nil, Nat.zero_add]
      exact untouched (catchUp_idle runs)
    | some catchUp =>
      by_cases nothing : assigned catchUp call fleet.table = []
      · simp only [rewritten, runs, nothing, List.map_nil, List.length_nil, Nat.zero_add]
        apply untouched
        rw [fleetStep, catchUp_table runs, nothing, assignPending]
      · have rewrites : rewritten setup fleet (.catchUp worker verifies call) ≠ [] := by
          simpa only [rewritten, runs, ne_eq, List.map_eq_nil_iff] using nothing
        obtain ⟨_, keyId, activeId, since, _, isReady, active, isLeader⟩ :=
          workerCatchUp_some runs
        have loaded := upToDate rewrites
        rw [isReady, active, Option.map_some, Option.some.injEq] at loaded
        have named := names keyId (loaded_used keys isReady)
        have settled (row : BotWebhookHmac) (plain : Text) :
            fleet.waits setup (reassigned catchUp call row plain) = false := by
          have parsed : setup.cipher.parseKeyId (reassigned catchUp call row plain).secretEnc =
              some keyId := by
            rw [isLeader]
            exact named _ plain
          simp [Fleet.waits, parsed, active, loaded]
        obtain ⟨collected, separate⟩ := assigned_collects catchUp call fleet.table
        have waiting : ∀ entry ∈ assigned catchUp call fleet.table, ∃ row,
            fleet.table.row? entry.1 = some row ∧ fleet.waits setup row = true := by
          intro entry listed
          obtain ⟨row, found, collects⟩ := collected entry listed
          exact ⟨row, found, collects_waits runs collects⟩
        have fewer := assignPending_fewer call settled waiting separate
        rw [Fleet.rowsLeft, Fleet.rowsLeft, sameRows, fleetStep, catchUp_table runs, ← fewer,
          Nat.add_comm]
        simp only [rewritten, runs, List.length_map]

/-- What a catch-up that runs and commits rewrites is what its batch collects, so it rewrites
something exactly where the batch advances. -/
theorem rewritten_iff (runs : workerCatchUp setup fleet worker verifies = some catchUp)
    (commits : call.commits = true) :
    rewritten setup fleet (.catchUp worker verifies call) ≠ [] ↔
      BatchAdvances catchUp (selected catchUp call fleet.table) := by
  rw [batchAdvances_iff]
  simp only [rewritten, runs, assigned, commits, if_true, ne_eq, List.map_eq_nil_iff]

/-- A worker that advances is up to date: where it rewrites something, rows are left. -/
theorem Advances.upToDate (advances : Advances setup fleet event) :
    UpToDate setup fleet event := by
  cases event with
  | wire => trivial
  | rotate => trivial
  | catchUp worker verifies call =>
    intro rewrites
    cases runs : workerCatchUp setup fleet worker verifies with
    | none => simp [rewritten, runs] at rewrites
    | some catchUp =>
      simp only [rewritten, runs, ne_eq, List.map_eq_nil_iff] at rewrites
      obtain ⟨entry, listed⟩ := List.exists_mem_of_ne_nil _ rewrites
      have commits : call.commits = true := by
        by_contra fails
        simp [assigned, fails] at listed
      obtain ⟨row, found, collects⟩ :=
        (assigned_collects catchUp call fleet.table).1 entry listed
      have left : fleet.rowsLeft setup ≠ 0 := by
        rw [Fleet.rowsLeft, Nat.ne_zero_iff_zero_lt, List.countP_pos_iff]
        exact ⟨row, (HmacTable.row?_some found).1, collects_waits runs collects⟩
      exact (advances catchUp runs commits left).1

/-- While rows are left, an advancing catch-up that runs and commits rewrites some. -/
theorem Advances.rewrites (advances : Advances setup fleet event)
    (runs : runsCatchUp setup fleet event = true) (left : fleet.rowsLeft setup ≠ 0) :
    0 < (rewritten setup fleet event).length := by
  cases event with
  | wire => simp [runsCatchUp] at runs
  | rotate => simp [runsCatchUp] at runs
  | catchUp worker verifies call =>
    rw [runsCatchUp, Bool.and_eq_true] at runs
    obtain ⟨catchUp, isCatchUp⟩ := Option.isSome_iff_exists.mp runs.1
    have batch := (advances catchUp isCatchUp runs.2 left).2
    exact List.length_pos_iff.mpr ((rewritten_iff isCatchUp runs.2).mpr batch)

/-- The run lemma: without rotations an advancing run rewrites no more rows than are left, and
leaves one fewer for each catch-up that it runs and commits. -/
theorem advancing_run (names : setup.Names used) (events : List (FleetEvent ι))
    (keys : fleet.KeysIn used) (draws : ∀ event ∈ events, event.DrawsIn used)
    (advances : Guarded (fleetStep setup) (Advances setup) fleet events)
    (unrotated : Guarded (fleetStep setup) (Unrotated setup) fleet events) :
    rewrites setup fleet events ≤ fleet.rowsLeft setup ∧
      (run (fleetStep setup) fleet events).rowsLeft setup ≤
        fleet.rowsLeft setup - committedCatchUps setup fleet events := by
  induction events generalizing fleet with
  | nil => exact ⟨Nat.zero_le _, le_rfl⟩
  | cons event rest inductionHypothesis =>
    obtain ⟨drawsNow, drawsLater⟩ := List.forall_mem_cons.mp draws
    have fewer := step_fewer names keys advances.1.upToDate unrotated.1
    obtain ⟨bounded, leaves⟩ := inductionHypothesis (fleetStep_keysIn keys drawsNow) drawsLater
      advances.2 unrotated.2
    rw [rewrites, committedCatchUps, run_cons]
    refine ⟨by omega, ?_⟩
    split
    · rename_i runs
      by_cases left : fleet.rowsLeft setup = 0
      · omega
      · have some := advances.1.rewrites runs left
        omega
    · omega

/-- In a run that converges each event advances: a catch-up that runs and commits while rows are
left has to leave fewer of them. -/
theorem Converges.advances (names : setup.Names used) (keys : fleet.KeysIn used)
    {events before after : List (FleetEvent ι)} (converges : Converges setup fleet events)
    (draws : ∀ event ∈ events, event.DrawsIn used)
    (parts : events = before ++ event :: after) :
    Advances setup (run (fleetStep setup) fleet before) event := by
  have reached : (run (fleetStep setup) fleet before).KeysIn used := by
    apply run_keysIn keys
    intro earlier listed
    exact draws earlier (parts ▸ List.mem_append_left _ listed)
  have under := (guarded_iff_prefixes fleet events).mp converges.underActive before event after
    parts
  have upToDate := (underActive_iff names reached).mp under
  cases event with
  | wire => trivial
  | rotate => trivial
  | catchUp worker verifies call =>
    intro catchUp isCatchUp commits left
    have runs : runsCatchUp setup (run (fleetStep setup) fleet before)
        (.catchUp worker verifies call) = true := by
      rw [runsCatchUp, isCatchUp, commits]
      rfl
    have unrotated : Unrotated setup (run (fleetStep setup) fleet before)
        (.catchUp worker verifies call) := catchUp_active
    have fewer := converges.finishes before [.catchUp worker verifies call] after parts
      ⟨unrotated, trivial⟩
    rw [run_append, run_cons, run_nil, committedCatchUps, committedCatchUps, if_pos runs]
      at fewer
    have counted := step_fewer names reached upToDate unrotated
    have rewrites : rewritten setup (run (fleetStep setup) fleet before)
        (.catchUp worker verifies call) ≠ [] := by
      apply List.length_pos_iff.mp
      omega
    exact ⟨upToDate rewrites, (rewritten_iff isCatchUp commits).mp rewrites⟩

/-- In every run all that is rewritten is under the active key, and the catch-up gets to its
end, exactly if at every catch-up that is run and committed while rows are left, the worker
has the active key loaded and its batch advances.

Proof: at an advancing event what is rewritten is under the active key, and the rows left go
down by what is rewritten, which a catch-up that runs and commits makes at least one; the rest
is an induction on the run. Conversely a single catch-up that converges leaves fewer rows, so
it has rewritten some, which are under the active key only if it is the one loaded. -/
theorem converges_iff (setup : KeySetup KeyContext) (used : Text → Prop)
    (names : setup.Names used) (fleet : Fleet ι) (keys : fleet.KeysIn used)
    (events : List (FleetEvent ι)) (draws : ∀ event ∈ events, event.DrawsIn used) :
    Converges setup fleet events ↔ Guarded (fleetStep setup) (Advances setup) fleet events := by
  constructor
  · intro converges
    exact (guarded_iff_prefixes fleet events).mpr fun _ _ _ parts =>
      converges.advances names keys draws parts
  · intro advances
    have reached (before after : List (FleetEvent ι)) (parts : events = before ++ after) :
        (run (fleetStep setup) fleet before).KeysIn used ∧
          ∀ event ∈ after, event.DrawsIn used := by
      subst parts
      constructor
      · apply run_keysIn keys
        exact fun event listed => draws event (List.mem_append_left _ listed)
      · exact fun event listed => draws event (List.mem_append_right _ listed)
    constructor
    · apply (guarded_iff_prefixes fleet events).mpr
      intro before event after parts
      have now := (guarded_iff_prefixes fleet events).mp advances before event after parts
      exact (underActive_iff names (reached before _ parts).1).mpr now.upToDate
    · rintro before after parts unrotated
      obtain ⟨keysBefore, drawsAfter⟩ := reached before after parts
      subst parts
      have later := ((guarded_append fleet before after).mp advances).2
      exact (advancing_run names after keysBefore drawsAfter later unrotated).1
    · rintro before between after parts unrotated
      obtain ⟨keysBefore, drawsAfter⟩ := reached before _ parts
      subst parts
      have later := ((guarded_append fleet before _).mp advances).2
      have within := ((guarded_append _ between after).mp later).1
      rw [run_append]
      refine (advancing_run names between keysBefore ?_ within unrotated).2
      exact fun event listed => drawsAfter event (List.mem_append_left _ listed)

/-- The leader that has the active key loaded advances over up to fifty rows, if they can all be
decrypted: its batch is the table. -/
theorem small_table_advances
    (ready : (wireDatabaseCrypto setup fleet worker verifies).ready worker =
      fleet.activeDek.map Prod.fst) (small : fleet.table.rows.length ≤ 50)
    (decryptable : ∀ catchUp, workerCatchUp setup fleet worker verifies = some catchUp →
      Decryptable catchUp fleet.table) :
    Advances setup fleet (.catchUp worker verifies call) := by
  intro catchUp runs commits left
  obtain ⟨_, _, activeId, since, _, _, active, isLeader⟩ := workerCatchUp_some runs
  have readable := decryptable catchUp runs
  have permuted := call.scan.permutes fleet.table.rows
  have all : selected catchUp call fleet.table = call.scan.order fleet.table.rows := by
    rw [selected, List.take_of_length_le]
    rw [permuted.length_eq, isLeader]
    exact small
  refine ⟨ready, ?_⟩
  rw [BatchAdvances, all]
  constructor
  · intro row listed
    obtain ⟨plain, isPlain⟩ :=
      Option.isSome_iff_exists.mp (readable row (permuted.mem_iff.mp listed))
    rw [staleSecret_readable isPlain]
    simp
  · rw [Fleet.rowsLeft, Nat.ne_zero_iff_zero_lt, List.countP_pos_iff] at left
    obtain ⟨row, stored, waits⟩ := left
    obtain ⟨plain, isPlain⟩ := Option.isSome_iff_exists.mp (readable row stored)
    have outdated : stale catchUp row = true := by
      rw [Fleet.waits] at waits
      split at waits
      · simp at waits
      · rename_i keyId parsed
        have other : keyId ≠ activeId := by simpa [active] using (Bool.and_eq_true_iff.mp waits).2
        simp [stale, isLeader, leaderCatchUp, parsed, other]
    refine ⟨row, permuted.mem_iff.mpr stored, plain, ?_⟩
    rw [staleSecret_readable isPlain, if_pos outdated]

end Fleet

section Example

/-- A wire text that gives the length of its key's id, the id and the text itself. -/
def sizedCipher : FieldCipher Text where
  parseKeyId wire :=
    let size := (wire.takeWhile (· == '1')).length
    if (wire.drop size).head? = some '$' then some ((wire.drop (size + 1)).take size) else none
  decryptString wire _ := .plain (wire.drop (2 * (wire.takeWhile (· == '1')).length + 1))
  encryptString _ keyId plain := List.replicate keyId.length '1' ++ '$' :: (keyId ++ plain)

/-- Keys are rotated every day, and a context is the id of its key. -/
def dailyRotation : KeySetup Text where
  cipher := sizedCipher
  loadKeyctx keyId := keyId
  makeKeyctxResolver _ := some
  passphrase := some "vault".toList
  dataKeyRotateDays := 1

/-- Its wire texts name the key they are under. -/
theorem dailyRotation_names (used : Text → Prop) : dailyRotation.Names used := by
  intro keyId _ drawn plain
  have size : ((List.replicate keyId.length '1' ++ '$' :: (keyId ++ plain)).takeWhile
      (· == '1')) = List.replicate keyId.length '1' := by
    rw [List.takeWhile_append_of_pos (by simp)]
    simp
  simp [dailyRotation, sizedCipher, size, List.drop_append]

/-- Two workers and the secret of one bot, under the active key. -/
def oneSecret : Fleet Bool where
  activeDek := some ("old".toList, 0)
  ready _ := none
  table :=
    { rows := [{ botKey := "b1".toList, secretEnc := "111$olds1".toList, updatedAt := 0 }]
      keyed := List.nodup_singleton _ }

/-- The second worker leads and rotates, and then the first one leads. -/
def handover : List (FleetEvent Bool) :=
  [.wire true true, .wire false true, .rotate false true day "new".toList day]

/-- Fifty rows under the new key, and one under the old key behind them. -/
def oneBehindFifty : Fleet Bool where
  activeDek := some ("new".toList, 0)
  ready _ := none
  table :=
    { rows := ((List.range 50).map fun n =>
          { botKey := List.replicate (n + 2) 'b', secretEnc := "111$news".toList
            updatedAt := 0 }) ++
        [{ botKey := "b".toList, secretEnc := "111$olds".toList, updatedAt := 0 }]
      keyed := show List.Nodup _ from by decide +kernel }

/-- The first worker rewrites the row under the old key, again and again. Behind fifty rows
under the active key a row stays under the old one even where its worker is up to date. -/
theorem old_leader_rewrites_stale :
    (run (fleetStep dailyRotation) oneSecret handover).activeDek = some ("new".toList, day) ∧
      ((run (fleetStep dailyRotation) oneSecret
          (handover ++ [.catchUp true true storedCall])).table.rows.map
        BotWebhookHmac.secretEnc) = ["111$olds1".toList] ∧
      ¬ Converges dailyRotation oneSecret (handover ++ [.catchUp true true storedCall]) ∧
      ¬ Converges dailyRotation oneBehindFifty
        [.wire true true, .catchUp true true storedCall] := by
  refine ⟨by decide, by decide, ?_, ?_⟩
  · intro converges
    have names := converges.underActive.2.2.2.1 "b1".toList (by decide)
      { botKey := "b1".toList, secretEnc := "111$olds1".toList, updatedAt := 0 } (by decide)
    exact absurd names (by decide)
  · intro converges
    have unrotated : Guarded (fleetStep dailyRotation) (Unrotated dailyRotation)
        (run (fleetStep dailyRotation) oneBehindFifty [.wire true true])
          [.catchUp true true storedCall] := ⟨catchUp_active, trivial⟩
    have fewer := converges.finishes [.wire true true] [.catchUp true true storedCall] [] rfl
      unrotated
    exact absurd fewer (by decide +kernel)

/-- The keys of the handover. -/
def OldOrNew (keyId : Text) : Prop := keyId = "old".toList ∨ keyId = "new".toList

/-- The worker that rotated rewrites the row under the new key, and then none is left. -/
theorem new_leader_converges :
    Converges dailyRotation oneSecret (handover ++ [.catchUp false true storedCall]) ∧
      (run (fleetStep dailyRotation) oneSecret
        (handover ++ [.catchUp false true storedCall])).rowsLeft dailyRotation = 0 := by
  refine ⟨?_, by decide⟩
  have keys : oneSecret.KeysIn OldOrNew := by
    constructor
    · intro keyId since active
      obtain ⟨rfl, -⟩ := Prod.mk.inj (Option.some.inj active)
      exact Or.inl rfl
    · intro worker keyId ready
      simp [oneSecret] at ready
  have draws : ∀ event ∈ handover ++ [.catchUp false true storedCall], event.DrawsIn OldOrNew := by
    simp [handover, FleetEvent.DrawsIn, OldOrNew]
  apply (converges_iff dailyRotation OldOrNew (dailyRotation_names OldOrNew) oneSecret keys _
    draws).mpr
  refine ⟨trivial, trivial, trivial, ?_, trivial⟩
  apply small_table_advances
  · decide
  · decide
  · intro catchUp runs
    obtain ⟨_, _, _, _, _, _, _, rfl⟩ := workerCatchUp_some runs
    intro row stored
    obtain rfl := List.mem_singleton.mp stored
    rfl

end Example

end Thaum.Vault
