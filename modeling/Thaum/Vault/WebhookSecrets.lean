import Thaum.Library.GuardedRuns
import Thaum.Library.KeyedRows
import Thaum.Library.PyText

/-!
# Re-encrypting webhook secrets after a key rotation

A row of `bot_webhook_hmac` holds the secret of a bot as a wire text that names the
data key it is encrypted under. `re_encrypt_stale_bot_webhook_hmac_batch` takes some
rows, decrypts those under another key than the active one, and assigns their secrets
again, which encrypts them under the active key.

The field encryption is a parameter: how the key id is read off a wire text, how a wire
text is decrypted, and what is stored for an assigned text.
-/

namespace Thaum.Vault

open PyText KeyedRows GuardedRuns

/-- A row of `bot_webhook_hmac`; the time is in microseconds. -/
structure BotWebhookHmac where
  botKey : Text
  secretEnc : Text
  updatedAt : Int
deriving DecidableEq

/-- The table, with its primary key. -/
structure HmacTable where
  rows : List BotWebhookHmac
  keyed : Distinct BotWebhookHmac.botKey rows
deriving DecidableEq

namespace HmacTable

/-- `session.get(BotWebhookHmac, …)`. -/
def row? (table : HmacTable) (botKey : Text) : Option BotWebhookHmac :=
  get BotWebhookHmac.botKey botKey table.rows

/-- The table with the row stored under its key. -/
def write (table : HmacTable) (row : BotWebhookHmac) : HmacTable where
  rows := put BotWebhookHmac.botKey row table.rows
  keyed := distinct_put table.keyed

end HmacTable

/-- How `decrypt_string` ends. -/
inductive Decrypted where
  | raised : Decrypted
  | missing : Decrypted
  | plain : Text → Decrypted

/-- The field encryption. Encrypting also takes what is drawn for it. -/
structure FieldCipher (KeyContext : Type) where
  /-- The key id that `parse_encrypted_field` reads; `none` where it raises `ValueError`. -/
  parseKeyId : Text → Option Text
  decryptString : Text → KeyContext → Decrypted
  encryptString : (drawn : Nat) → KeyContext → Text → Text

/-- What the catch-up works with: the id of the active data key, the current context of
`EncryptedString`, and the resolver, `none` where it raises. -/
structure CatchUp (KeyContext : Type) where
  cipher : FieldCipher KeyContext
  activeDekKeyId : Text
  current : KeyContext
  resolveKeyctx : Text → Option KeyContext
  batchLimit : Int

/-- What a call meets: the order of the rows, what is drawn for each row, its clock, and
whether its transaction commits. -/
structure BatchCall where
  scan : Scan BotWebhookHmac
  drawn : Text → Nat
  now : Int
  commits : Bool

variable {KeyContext : Type} (catchUp : CatchUp KeyContext)

/-- The secret of a wire text that names another key, if it is one; `none` where
resolving the key or decrypting raises. -/
def staleSecret (wire : Text) : Option (Option Text) :=
  if wire = [] then some none
  else match catchUp.cipher.parseKeyId wire with
    | none => some none
    | some keyId =>
      if keyId = catchUp.activeDekKeyId then some none
      else match catchUp.resolveKeyctx keyId with
        | none => none
        | some context =>
          match catchUp.cipher.decryptString wire context with
          | .raised => none
          | .missing => some none
          | .plain secret => some (some secret)

/-- The loop over the selected rows. -/
def collectPending : List BotWebhookHmac → Option (List (Text × Text))
  | [] => some []
  | row :: rest =>
    match staleSecret catchUp row.secretEnc with
    | none => none
    | some secret => (collectPending rest).map fun pending =>
      (secret.map fun plain => (row.botKey, plain)).toList ++ pending

/-- A row with its secret assigned again. -/
def reassigned (call : BatchCall) (row : BotWebhookHmac) (plain : Text) : BotWebhookHmac :=
  { row with
    secretEnc := catchUp.cipher.encryptString (call.drawn row.botKey) catchUp.current plain
    updatedAt := call.now }

/-- The loop that assigns the secrets, with the number of rows updated. -/
def assignPending (call : BatchCall) : List (Text × Text) → HmacTable → HmacTable × Nat
  | [], table => (table, 0)
  | (botKey, plain) :: rest, table =>
    match table.row? botKey with
    | none => assignPending call rest table
    | some row =>
      let (after, updated) :=
        assignPending call rest (table.write (reassigned catchUp call row plain))
      (after, updated + 1)

/-- `re_encrypt_stale_bot_webhook_hmac_batch`: the table after it and the number it
returns; `none` where it raises, which leaves the table as it was. -/
def reEncryptStaleBotWebhookHmacBatch (call : BatchCall) (table : HmacTable) :
    Option (HmacTable × Nat) :=
  if catchUp.batchLimit ≤ 0 then some (table, 0)
  else match collectPending catchUp
      ((call.scan.order table.rows).take catchUp.batchLimit.toNat) with
    | none => none
    | some [] => some (table, 0)
    | some pending =>
      let (after, updated) := assignPending catchUp call pending table
      if call.commits then some (after, updated) else none

/-- The table after a call. -/
def tick (table : HmacTable) (call : BatchCall) : HmacTable :=
  ((reEncryptStaleBotWebhookHmacBatch catchUp call table).map Prod.fst).getD table

/-- The secret of a wire text, read through the resolver. -/
def secretOf (wire : Text) : Option Text :=
  if wire = [] then none
  else match catchUp.cipher.parseKeyId wire with
    | none => none
    | some keyId =>
      match catchUp.resolveKeyctx keyId with
      | none => none
      | some context =>
        match catchUp.cipher.decryptString wire context with
        | .plain secret => some secret
        | _ => none

/-- The row is under another key than the active one. -/
def stale (row : BotWebhookHmac) : Bool :=
  catchUp.cipher.parseKeyId row.secretEnc != some catchUp.activeDekKeyId

/-- Every row is under the active key. -/
def AllActive (table : HmacTable) : Prop := ∀ row ∈ table.rows, stale catchUp row = false

/-- Every row is decryptable through the resolver. -/
def Decryptable (table : HmacTable) : Prop :=
  ∀ row ∈ table.rows, (secretOf catchUp row.secretEnc).isSome = true

/-- The decrypted secret of a bot. -/
def secret (table : HmacTable) (botKey : Text) : Option Text :=
  (table.row? botKey).bind fun row => secretOf catchUp row.secretEnc

/-- The field encryption as it is documented: an encrypted text names the key it is
under, and decrypts to what was encrypted with the context that the resolver finds for
that key. -/
structure CatchUp.Lawful (catchUp : CatchUp KeyContext) : Prop where
  filled : ∀ drawn plain, catchUp.cipher.encryptString drawn catchUp.current plain ≠ []
  names : ∀ drawn plain, catchUp.cipher.parseKeyId
    (catchUp.cipher.encryptString drawn catchUp.current plain) = some catchUp.activeDekKeyId
  resolves : catchUp.resolveKeyctx catchUp.activeDekKeyId = some catchUp.current
  decrypts : ∀ drawn plain, catchUp.cipher.decryptString
    (catchUp.cipher.encryptString drawn catchUp.current plain) catchUp.current = .plain plain

/-- `_ENCRYPTED_FIELD_CATCHUP_BATCH`. -/
def encryptedFieldCatchupBatch : Int := 50

/-- The catch-up of the leader. -/
def leaderCatchUp (cipher : FieldCipher KeyContext) (current : KeyContext)
    (resolveKeyctx : Text → Option KeyContext) (activeDekKeyId : Text) : CatchUp KeyContext :=
  { cipher, activeDekKeyId, current, resolveKeyctx, batchLimit := encryptedFieldCatchupBatch }

/-- `progressive_reencrypt_encrypted_strings_if_needed`, given whether the crypto is ready
once it has been applied, the resolver for a passphrase, the passphrase and the active
key. -/
def progressiveReencryptEncryptedStringsIfNeeded (cipher : FieldCipher KeyContext)
    (current : KeyContext) (makeKeyctxResolver : Text → Text → Option KeyContext)
    (ready : Bool) (passphrase activeDek : Option Text) (call : BatchCall)
    (table : HmacTable) : HmacTable :=
  match ready, passphrase, activeDek with
  | true, some passphrase, some activeDekKeyId =>
    tick (leaderCatchUp cipher current (makeKeyctxResolver passphrase) activeDekKeyId) table call
  | _, _, _ => table

/-- The number of rows under another key. -/
def staleCount (table : HmacTable) : Nat := table.rows.countP (stale catchUp)

/-- The rows that a call selects. -/
def selected (call : BatchCall) (table : HmacTable) : List BotWebhookHmac :=
  (call.scan.order table.rows).take catchUp.batchLimit.toNat

/-- As many rows with the same secrets, all decryptable. -/
structure Kept (before after : HmacTable) : Prop where
  size : after.rows.length = before.rows.length
  secrets : ∀ botKey, secret catchUp after botKey = secret catchUp before botKey
  decryptable : Decryptable catchUp after

/-- The secret waits for a stored row under another key, and is its secret. -/
def Waiting (table : HmacTable) (entry : Text × Text) : Prop :=
  ∃ row, table.row? entry.1 = some row ∧ stale catchUp row = true ∧
    secretOf catchUp row.secretEnc = some entry.2

variable {catchUp} {call : BatchCall} {table before after : HmacTable} {row : BotWebhookHmac}
  {rows : List BotWebhookHmac} {wire plain : Text} {pending : List (Text × Text)}

namespace HmacTable

/-- A row that is found is in the table, under that key. -/
theorem row?_some {botKey : Text} (found : table.row? botKey = some row) :
    row ∈ table.rows ∧ row.botKey = botKey := get_some found

/-- A row of the table is found under its key. -/
theorem row?_of_mem (stored : row ∈ table.rows) : table.row? row.botKey = some row :=
  get_of_mem table.keyed stored

/-- A written row is found. -/
theorem row?_write_same (table : HmacTable) (row : BotWebhookHmac) :
    (table.write row).row? row.botKey = some row := get_put_same

/-- Writing a row leaves the rows under other keys. -/
theorem row?_write_other {botKey : Text} (different : row.botKey ≠ botKey) :
    (table.write row).row? botKey = table.row? botKey := get_put_other different

end HmacTable

/-- No row is counted exactly where every row is under the active key. -/
theorem staleCount_eq_zero : staleCount catchUp table = 0 ↔ AllActive catchUp table := by
  simp [staleCount, List.countP_eq_zero, AllActive]

/-- Replacing a stored row moves a count by what the two rows count. -/
theorem countP_write (counted : BotWebhookHmac → Bool) {other : BotWebhookHmac}
    (stored : row ∈ table.rows) (same : other.botKey = row.botKey) :
    (table.write other).rows.countP counted + (if counted row then 1 else 0) =
      table.rows.countP counted + (if counted other then 1 else 0) := by
  apply countP_put _ table.keyed
  rw [same]
  exact HmacTable.row?_of_mem stored

/-- A decryptable table keeps its own secrets. -/
theorem Kept.refl (decryptable : Decryptable catchUp table) : Kept catchUp table table :=
  ⟨rfl, fun _ => rfl, decryptable⟩

/-- What is kept twice in a row is kept. -/
theorem Kept.trans (first : Kept catchUp table before) (second : Kept catchUp before after) :
    Kept catchUp table after :=
  ⟨second.size.trans first.size, fun botKey => (second.secrets botKey).trans (first.secrets botKey),
    second.decryptable⟩

/-- A reassigned row is under the active key and holds the assigned secret. -/
theorem CatchUp.Lawful.reassigned (lawful : catchUp.Lawful) (call : BatchCall)
    (row : BotWebhookHmac) (plain : Text) :
    stale catchUp (reassigned catchUp call row plain) = false ∧
      secretOf catchUp (Vault.reassigned catchUp call row plain).secretEnc = some plain := by
  have filled := lawful.filled (call.drawn row.botKey) plain
  have names := lawful.names (call.drawn row.botKey) plain
  have decrypts := lawful.decrypts (call.drawn row.botKey) plain
  constructor
  · simp [stale, Vault.reassigned, names]
  · simp [secretOf, Vault.reassigned, filled, names, lawful.resolves, decrypts]

/-- A decryptable row is skipped under the active key, and collected otherwise. -/
theorem staleSecret_readable (readable : secretOf catchUp row.secretEnc = some plain) :
    staleSecret catchUp row.secretEnc =
      some (if stale catchUp row then some plain else none) := by
  unfold secretOf at readable
  unfold staleSecret stale
  split at readable
  · simp at readable
  · rename_i filled
    rw [if_neg filled]
    cases parsed : catchUp.cipher.parseKeyId row.secretEnc with
    | none => simp [parsed] at readable
    | some keyId =>
      by_cases active : keyId = catchUp.activeDekKeyId
      · simp [active]
      · cases resolved : catchUp.resolveKeyctx keyId with
        | none => simp [parsed, resolved] at readable
        | some context =>
          cases decrypted : catchUp.cipher.decryptString row.secretEnc context with
          | raised => simp [parsed, resolved, decrypted] at readable
          | missing => simp [parsed, resolved, decrypted] at readable
          | plain found =>
            have same : found = plain := by simpa [parsed, resolved, decrypted] using readable
            simp [active, resolved, decrypted, same]

/-- Of decryptable rows those under another key are collected, with their secrets. -/
theorem collectPending_readable
    (readable : ∀ row ∈ rows, (secretOf catchUp row.secretEnc).isSome = true) :
    collectPending catchUp rows = some ((rows.filter (stale catchUp)).map fun row =>
      (row.botKey, (secretOf catchUp row.secretEnc).getD [])) := by
  induction rows with
  | nil => rfl
  | cons row rest inductionHypothesis =>
    obtain ⟨first, others⟩ := List.forall_mem_cons.mp readable
    obtain ⟨plain, isPlain⟩ := Option.isSome_iff_exists.mp first
    rw [collectPending, staleSecret_readable isPlain, inductionHypothesis others]
    cases outdated : stale catchUp row with
    | true => simp [outdated, isPlain]
    | false => simp [outdated]

/-- Assigning the secret of a row again keeps every secret, that of the row included. -/
theorem CatchUp.Lawful.write_kept (lawful : catchUp.Lawful) (call : BatchCall)
    (decryptable : Decryptable catchUp table) (stored : row ∈ table.rows)
    (isPlain : secretOf catchUp row.secretEnc = some plain) :
    Kept catchUp table (table.write (Vault.reassigned catchUp call row plain)) := by
  have found : table.row? row.botKey = some row := HmacTable.row?_of_mem stored
  have readable := (lawful.reassigned call row plain).2
  constructor
  · exact length_put (Option.isSome_iff_exists.mpr ⟨row, found⟩)
  · intro botKey
    rw [secret, secret]
    by_cases own : row.botKey = botKey
    · have rewritten := HmacTable.row?_write_same table (Vault.reassigned catchUp call row plain)
      rw [← own, found, show HmacTable.row? _ row.botKey = _ from rewritten, Option.bind_some,
        Option.bind_some, readable, isPlain]
    · have different : (Vault.reassigned catchUp call row plain).botKey ≠ botKey := own
      rw [HmacTable.row?_write_other different]
  · intro second listed
    rcases mem_put listed with rfl | ⟨before, _⟩
    · rw [readable]
      rfl
    · exact decryptable second before

/-- Assigning one secret leaves the rows of the other entries as they were found. This carries the
conditions on a batch through its loop. -/
theorem others_found (catchUp : CatchUp KeyContext) (call : BatchCall)
    {condition : Text × Text → BotWebhookHmac → Prop} {entry : Text × Text}
    (found : table.row? entry.1 = some row) (fresh : entry.1 ∉ pending.map Prod.fst)
    (others : ∀ later ∈ pending, ∃ second, table.row? later.1 = some second ∧
      condition later second) :
    ∀ later ∈ pending, ∃ second,
      (table.write (reassigned catchUp call row entry.2)).row? later.1 = some second ∧
        condition later second := by
  intro later listed
  obtain ⟨second, isSecond, facts⟩ := others later listed
  refine ⟨second, ?_, facts⟩
  rw [← isSecond]
  apply HmacTable.row?_write_other
  intro same
  have sameKey : later.1 = entry.1 := same.symm.trans (HmacTable.row?_some found).2
  exact fresh (sameKey ▸ List.mem_map_of_mem listed)

/-- Assigning the secrets of counted rows leaves so many rows fewer to count, where no row counts
once its secret is assigned. -/
theorem assignPending_fewer (call : BatchCall) {counted : BotWebhookHmac → Bool}
    (settled : ∀ row plain, counted (reassigned catchUp call row plain) = false)
    (waiting : ∀ entry ∈ pending, ∃ row, table.row? entry.1 = some row ∧ counted row = true)
    (separate : (pending.map Prod.fst).Nodup) :
    (assignPending catchUp call pending table).1.rows.countP counted + pending.length =
      table.rows.countP counted := by
  induction pending generalizing table with
  | nil => rfl
  | cons entry rest inductionHypothesis =>
    obtain ⟨⟨row, found, outdated⟩, others⟩ := List.forall_mem_cons.mp waiting
    obtain ⟨fresh, tail⟩ := List.nodup_cons.mp separate
    have fewer := inductionHypothesis (others_found catchUp call found fresh others) tail
    have sameKey : (reassigned catchUp call row entry.2).botKey = row.botKey := rfl
    have moved := countP_write counted (HmacTable.row?_some found).1 sameKey
    rw [outdated, settled] at moved
    rw [assignPending, found, List.length_cons]
    dsimp only
    simp only [if_true, Bool.false_eq_true, if_false] at moved
    omega

/-- Assigning the waiting secrets keeps every secret and counts them. The induction is on the
entries. -/
theorem CatchUp.Lawful.assignPending_kept (lawful : catchUp.Lawful) (call : BatchCall)
    (decryptable : Decryptable catchUp table)
    (waiting : ∀ entry ∈ pending, Waiting catchUp table entry)
    (separate : (pending.map Prod.fst).Nodup) :
    Kept catchUp table (assignPending catchUp call pending table).1 ∧
      (assignPending catchUp call pending table).2 = pending.length := by
  induction pending generalizing table with
  | nil => exact ⟨.refl decryptable, rfl⟩
  | cons entry rest inductionHypothesis =>
    obtain ⟨⟨row, found, outdated, isPlain⟩, others⟩ := List.forall_mem_cons.mp waiting
    obtain ⟨fresh, tail⟩ := List.nodup_cons.mp separate
    have written := lawful.write_kept call decryptable (HmacTable.row?_some found).1 isPlain
    obtain ⟨kept, count⟩ := inductionHypothesis written.decryptable
      (others_found catchUp call found fresh others) tail
    rw [assignPending, found]
    exact ⟨written.trans kept, congrArg (· + 1) count⟩

/-- Over decryptable rows a call re-encrypts those it selects under another key. -/
theorem batch_readable (positive : 0 < catchUp.batchLimit)
    (decryptable : Decryptable catchUp table) :
    reEncryptStaleBotWebhookHmacBatch catchUp call table =
      if (selected catchUp call table).countP (stale catchUp) = 0 then some (table, 0)
      else if call.commits then
        some (assignPending catchUp call
          (((selected catchUp call table).filter (stale catchUp)).map fun row =>
            (row.botKey, (secretOf catchUp row.secretEnc).getD [])) table)
      else none := by
  have readable : ∀ row ∈ selected catchUp call table,
      (secretOf catchUp row.secretEnc).isSome = true := fun row listed =>
    decryptable row ((call.scan.permutes table.rows).mem_iff.mp (List.mem_of_mem_take listed))
  rw [reEncryptStaleBotWebhookHmacBatch, if_neg (Int.not_le.mpr positive), ← selected,
    collectPending_readable readable, List.countP_eq_length_filter]
  cases (selected catchUp call table).filter (stale catchUp) with
  | nil => rfl
  | cons row rest => rfl

/-- What a call does to decryptable rows, whichever it selects: it keeps every secret, and returns
by how many rows fewer are under another key. -/
theorem CatchUp.Lawful.batch_kept (lawful : catchUp.Lawful) (positive : 0 < catchUp.batchLimit)
    (decryptable : Decryptable catchUp table) {returned : Nat}
    (done : reEncryptStaleBotWebhookHmacBatch catchUp call table = some (after, returned)) :
    Kept catchUp table after ∧
      returned = (selected catchUp call table).countP (stale catchUp) ∧
      staleCount catchUp after + returned = staleCount catchUp table := by
  rw [batch_readable positive decryptable] at done
  split at done
  · rename_i noneSelected
    obtain ⟨rfl, rfl⟩ := Prod.mk.inj (Option.some.inj done)
    exact ⟨.refl decryptable, noneSelected.symm, rfl⟩
  · split at done
    · have isStored (row : BotWebhookHmac)
          (listed : row ∈ (selected catchUp call table).filter (stale catchUp)) :
          row ∈ table.rows ∧ stale catchUp row = true := by
        obtain ⟨isSelected, outdated⟩ := List.mem_filter.mp listed
        exact ⟨(call.scan.permutes table.rows).mem_iff.mp (List.mem_of_mem_take isSelected),
          outdated⟩
      have waiting : ∀ entry ∈ ((selected catchUp call table).filter (stale catchUp)).map
          fun row => (row.botKey, (secretOf catchUp row.secretEnc).getD []),
          Waiting catchUp table entry := by
        intro entry listed
        obtain ⟨row, isSelected, rfl⟩ := List.mem_map.mp listed
        obtain ⟨stored, outdated⟩ := isStored row isSelected
        obtain ⟨plain, isPlain⟩ := Option.isSome_iff_exists.mp (decryptable row stored)
        exact ⟨row, HmacTable.row?_of_mem stored, outdated, by rw [isPlain]; rfl⟩
      have separate : ((((selected catchUp call table).filter (stale catchUp)).map
          fun row => (row.botKey, (secretOf catchUp row.secretEnc).getD [])).map
            Prod.fst).Nodup := by
        rw [List.map_map]
        have inTable : (selected catchUp call table).filter (stale catchUp) |>.Sublist
            (call.scan.order table.rows) :=
          List.filter_sublist.trans (List.take_sublist _ _)
        have distinct : ((call.scan.order table.rows).map BotWebhookHmac.botKey).Nodup :=
          ((call.scan.permutes table.rows).map _).nodup_iff.mpr table.keyed
        exact distinct.sublist (inTable.map _)
      obtain ⟨kept, count⟩ := lawful.assignPending_kept call decryptable waiting separate
      have outdated := fun entry listed =>
        (waiting entry listed).imp fun _ facts => And.intro facts.1 facts.2.1
      have settled (row : BotWebhookHmac) (plain : Text) :
          stale catchUp (Vault.reassigned catchUp call row plain) = false :=
        (lawful.reassigned call row plain).1
      have fewer := assignPending_fewer call settled outdated separate
      rw [List.length_map, ← List.countP_eq_length_filter] at count fewer
      rw [Option.some.inj done] at kept count fewer
      rw [← count] at fewer
      exact ⟨kept, count, fewer⟩
    · simp at done

/-- A call keeps the secrets, also where it raises. -/
theorem CatchUp.Lawful.tick_kept (lawful : catchUp.Lawful) (positive : 0 < catchUp.batchLimit)
    (decryptable : Decryptable catchUp table) (call : BatchCall) :
    Kept catchUp table (tick catchUp table call) := by
  rw [tick]
  cases done : reEncryptStaleBotWebhookHmacBatch catchUp call table with
  | none => exact .refl decryptable
  | some result => exact (lawful.batch_kept positive decryptable done).1

/-- Every run of calls keeps the secrets and the number of rows. -/
theorem CatchUp.Lawful.run_kept (lawful : catchUp.Lawful) (positive : 0 < catchUp.batchLimit)
    (calls : List BatchCall) (decryptable : Decryptable catchUp table) :
    Kept catchUp table (run (tick catchUp) table calls) := by
  induction calls generalizing table with
  | nil => exact .refl decryptable
  | cons call rest inductionHypothesis =>
    have kept := lawful.tick_kept positive decryptable call
    exact kept.trans (inductionHypothesis kept.decryptable)

/-- A table under the active key stays so. -/
theorem CatchUp.Lawful.run_active (lawful : catchUp.Lawful) (positive : 0 < catchUp.batchLimit)
    (calls : List BatchCall) (decryptable : Decryptable catchUp table)
    (active : AllActive catchUp table) : AllActive catchUp (run (tick catchUp) table calls) := by
  induction calls generalizing table with
  | nil => exact active
  | cons call rest inductionHypothesis =>
    apply inductionHypothesis (lawful.tick_kept positive decryptable call).decryptable
    rw [tick]
    cases done : reEncryptStaleBotWebhookHmacBatch catchUp call table with
    | none => exact active
    | some result =>
      obtain ⟨_, _, fewer⟩ := lawful.batch_kept positive decryptable done
      rw [staleCount_eq_zero.mpr active] at fewer
      exact staleCount_eq_zero.mp (Nat.eq_zero_of_add_eq_zero_right fewer)

/-- Repeated calls catch up: one that returns 0 finds every row under the active key, one
that returns another number leaves so many rows fewer, and no secret ever changes. -/
structure CatchesUp (catchUp : CatchUp KeyContext) (table : HmacTable) : Prop where
  finishes : ∀ calls call after,
    reEncryptStaleBotWebhookHmacBatch catchUp call (run (tick catchUp) table calls) =
      some (after, 0) → AllActive catchUp (run (tick catchUp) table calls)
  advances : ∀ calls call after returned,
    reEncryptStaleBotWebhookHmacBatch catchUp call (run (tick catchUp) table calls) =
      some (after, returned) →
        staleCount catchUp after + returned =
          staleCount catchUp (run (tick catchUp) table calls)
  keeps : ∀ calls botKey,
    secret catchUp (run (tick catchUp) table calls) botKey = secret catchUp table botKey

/-- The rows under the active key come first. -/
def activeFirst (catchUp : CatchUp KeyContext) : BatchCall where
  scan := .preferring fun row => !stale catchUp row
  drawn _ := 0
  now := 0
  commits := true

/-- With the rows under the active key first, a call selects of the others only as many as the limit
leaves room for. -/
theorem selected_activeFirst :
    (selected catchUp (activeFirst catchUp) table).countP (stale catchUp) =
      min (catchUp.batchLimit.toNat - (table.rows.length - staleCount catchUp table))
        (staleCount catchUp table) := by
  have others : (table.rows.filter fun row => !stale catchUp row).length =
      table.rows.length - staleCount catchUp table := by
    have parts := List.length_eq_countP_add_countP (stale catchUp) (l := table.rows)
    rw [← List.countP_eq_length_filter, staleCount]
    simp only [Bool.not_eq_true, Bool.decide_eq_false] at parts
    omega
  have outdated : (table.rows.filter fun row => !!stale catchUp row).length =
      staleCount catchUp table := by
    rw [staleCount, List.countP_eq_length_filter]
    simp
  have noneActive : ((table.rows.filter fun row => !stale catchUp row).take
      catchUp.batchLimit.toNat).countP (stale catchUp) = 0 := by
    apply List.countP_eq_zero.mpr
    intro row listed
    have active := (List.mem_filter.mp (List.mem_of_mem_take listed)).2
    simpa using active
  have allStale (room : Nat) : ((table.rows.filter fun row => !!stale catchUp row).take
      room).countP (stale catchUp) = min room (staleCount catchUp table) := by
    rw [List.countP_eq_length.mpr, List.length_take, outdated]
    intro row listed
    have isStale := (List.mem_filter.mp (List.mem_of_mem_take listed)).2
    simpa using isStale
  rw [selected, activeFirst, Scan.preferring, List.take_append, List.countP_append, noneActive,
    others, allStale, Nat.zero_add]

/-- A call whose transaction commits returns the number of rows it selects under another key. -/
theorem CatchUp.Lawful.batch_returns (lawful : catchUp.Lawful)
    (positive : 0 < catchUp.batchLimit) (decryptable : Decryptable catchUp table)
    (call : BatchCall) (commits : call.commits = true) :
    ∃ after, reEncryptStaleBotWebhookHmacBatch catchUp call table =
      some (after, (selected catchUp call table).countP (stale catchUp)) := by
  cases done : reEncryptStaleBotWebhookHmacBatch catchUp call table with
  | none =>
    rw [batch_readable positive decryptable, if_pos commits] at done
    split at done <;> simp at done
  | some result => exact ⟨result.1, by rw [← (lawful.batch_kept positive decryptable done).2.1]⟩

/-- A call over no more rows than the limit selects all of them, in whatever order they come. -/
theorem selected_all (small : table.rows.length ≤ catchUp.batchLimit.toNat) :
    (selected catchUp call table).countP (stale catchUp) = staleCount catchUp table := by
  have permuted := call.scan.permutes table.rows
  rw [selected, List.take_of_length_le (permuted.length_eq.trans_le small), staleCount]
  exact permuted.countP_eq _

/-- One committed call is enough where the rows fit in one batch. -/
theorem CatchUp.Lawful.tick_active (lawful : catchUp.Lawful)
    (positive : 0 < catchUp.batchLimit) (decryptable : Decryptable catchUp table)
    (small : table.rows.length ≤ catchUp.batchLimit.toNat) (commits : call.commits = true) :
    AllActive catchUp (tick catchUp table call) := by
  obtain ⟨after, done⟩ := lawful.batch_returns positive decryptable call commits
  obtain ⟨_, _, fewer⟩ := lawful.batch_kept positive decryptable done
  rw [selected_all small] at fewer
  have ticked : tick catchUp table call = after := by
    rw [tick, done]
    rfl
  rw [ticked]
  exact staleCount_eq_zero.mp (by omega)

/-- Over decryptable rows repeated calls catch up exactly where every row is under the active key
already or the rows fit in one batch.

Proof: where the rows fit in one batch a committed call selects all of them, and where all are under
the active key there is nothing to do. Otherwise the database may return the rows under the active
key first: a call then re-encrypts what the limit leaves room for, and the next one, or the first
already, returns 0 with rows under another key behind the limit. -/
theorem catchesUp_iff (catchUp : CatchUp KeyContext) (lawful : catchUp.Lawful)
    (positive : 0 < catchUp.batchLimit) (table : HmacTable)
    (decryptable : Decryptable catchUp table) :
    CatchesUp catchUp table ↔
      AllActive catchUp table ∨ (table.rows.length : Int) ≤ catchUp.batchLimit := by
  constructor
  · intro catches
    by_contra neither
    obtain ⟨outdated, larger⟩ := not_or.mp neither
    have someStale : staleCount catchUp table ≠ 0 := fun none =>
      outdated (staleCount_eq_zero.mp none)
    have bounded : staleCount catchUp table ≤ table.rows.length := List.countP_le_length
    obtain ⟨after, first⟩ :=
      lawful.batch_returns positive decryptable (activeFirst catchUp) rfl
    obtain ⟨kept, _, fewer⟩ := lawful.batch_kept positive decryptable first
    have ticked : run (tick catchUp) table [activeFirst catchUp] = after := by
      rw [run_cons, run_nil, tick, first]
      rfl
    obtain ⟨last, second⟩ :=
      lawful.batch_returns positive kept.decryptable (activeFirst catchUp) rfl
    have sameSize := kept.size
    rw [selected_activeFirst] at fewer second
    -- the rows left under another key no longer fit behind those under the active one
    have noRoom : min (catchUp.batchLimit.toNat - (after.rows.length - staleCount catchUp after))
        (staleCount catchUp after) = 0 := by omega
    rw [noRoom, ← ticked] at second
    have finished := catches.finishes _ _ _ second
    rw [ticked] at finished
    have noneLeft := staleCount_eq_zero.mpr finished
    omega
  · intro settled
    constructor
    · intro calls call after done
      have kept := lawful.run_kept positive calls decryptable
      rcases settled with active | small
      · exact lawful.run_active positive calls decryptable active
      · obtain ⟨_, count, _⟩ := lawful.batch_kept positive kept.decryptable done
        have fits : (run (tick catchUp) table calls).rows.length ≤ catchUp.batchLimit.toNat := by
          rw [kept.size]
          omega
        rw [selected_all fits] at count
        exact staleCount_eq_zero.mp count.symm
    · intro calls call after returned done
      have kept := lawful.run_kept positive calls decryptable
      exact (lawful.batch_kept positive kept.decryptable done).2.2
    · exact fun calls => (lawful.run_kept positive calls decryptable).secrets

/-- A committed tick of the leader brings up to fifty rows under the active key, with their secrets
as they were. -/
theorem leader_tick_active (cipher : FieldCipher KeyContext) (current : KeyContext)
    (makeKeyctxResolver : Text → Text → Option KeyContext) (passphrase activeDekKeyId : Text)
    (lawful : (leaderCatchUp cipher current (makeKeyctxResolver passphrase)
      activeDekKeyId).Lawful)
    (decryptable : Decryptable (leaderCatchUp cipher current (makeKeyctxResolver passphrase)
      activeDekKeyId) table)
    (small : table.rows.length ≤ 50) (commits : call.commits = true) :
    ∀ row ∈ (progressiveReencryptEncryptedStringsIfNeeded cipher current makeKeyctxResolver true
        (some passphrase) (some activeDekKeyId) call table).rows,
      cipher.parseKeyId row.secretEnc = some activeDekKeyId := by
  intro row stored
  have positive : 0 < encryptedFieldCatchupBatch := by decide
  have active := lawful.tick_active positive decryptable small commits row stored
  simpa [stale, leaderCatchUp] using active

section Example

/-- A wire text that names its key and is not encrypted. -/
def plainCipher : FieldCipher Text where
  parseKeyId wire := if '$' ∈ wire then some (wire.takeWhile (· ≠ '$')) else none
  decryptString wire _ := .plain ((wire.dropWhile (· ≠ '$')).drop 1)
  encryptString _ keyId plain := keyId ++ '$' :: plain

/-- A catch-up over that cipher, with `new` as the active key. -/
def plainCatchUp (batchLimit : Int) : CatchUp Text where
  cipher := plainCipher
  activeDekKeyId := "new".toList
  current := "new".toList
  resolveKeyctx := some
  batchLimit := batchLimit

/-- Its wire texts name their key and decrypt to what was encrypted. -/
theorem plainCatchUp_lawful (batchLimit : Int) : (plainCatchUp batchLimit).Lawful where
  filled _ _ := by simp [plainCatchUp, plainCipher]
  names _ _ := by simp [plainCatchUp, plainCipher]
  resolves := rfl
  decrypts _ _ := by simp [plainCatchUp, plainCipher]

/-- The secrets of two bots, the second still under the old key. -/
def twoSecrets : HmacTable where
  rows :=
    [{ botKey := "b1".toList, secretEnc := "new$s1".toList, updatedAt := 0 },
      { botKey := "b2".toList, secretEnc := "old$s2".toList, updatedAt := 0 }]
  keyed := show List.Nodup _ from by decide

/-- A call that returns the rows in the order they were stored. -/
def storedCall : BatchCall where
  scan := .stored
  drawn _ := 0
  now := 0
  commits := true

/-- With one row a batch the call returns 0 although the second row is under the old key. -/
theorem batch_stops_early :
    reEncryptStaleBotWebhookHmacBatch (plainCatchUp 1) storedCall twoSecrets =
        some (twoSecrets, 0) ∧
      ¬ ∀ row ∈ twoSecrets.rows, stale (plainCatchUp 1) row = false := by
  decide

/-- With two rows a batch repeated calls catch up, as the rows fit in one. -/
theorem both_secrets_caught_up : CatchesUp (plainCatchUp 2) twoSecrets :=
  (catchesUp_iff (plainCatchUp 2) (plainCatchUp_lawful 2) (by decide) twoSecrets
    (show ∀ row ∈ twoSecrets.rows, _ from by decide)).mpr (Or.inr (by decide))

end Example

end Thaum.Vault
