import Thaum.Vault.WebhookSecrets

/-!
# The shared webhook secret of a bot

`ensure_bot_webhook_hmac_secret` reads the row of a bot. Where there is none it draws a
secret and inserts it; an insert that meets the row of another worker raises
`IntegrityError`, and the call reads again. A read and an insert are separate turns, so the
turns of any number of calls may come in any order.

A call that finds no row inserts at its next turn, and a row never goes away, so its second
read finds one: the bound of three attempts is never reached.
-/

namespace Thaum.Vault

open PyText KeyedRows GuardedRuns

/-- `secrets.token_hex`: two digits for each random byte. -/
structure TokenHex (nbytes : Nat) where
  text : Text
  digits : ∀ digit ∈ text, digit ∈ "0123456789abcdef".toList
  size : text.length = 2 * nbytes

/-- The bytes that are drawn for a secret. -/
def secretBytes (minLength : Int) : Nat := (max 16 ((minLength + 1) / 2)).toNat

/-- How a call ends; `unreadable` where the stored field cannot be decrypted. -/
inductive Ensured where
  | returned : Text → Ensured
  | valueError : Ensured
  | runtimeError : Ensured
  | unreadable : Ensured
deriving DecidableEq

/-- Where a call stands: before the read of an attempt, before its insert, or at its end. -/
inductive EnsureCall where
  | reading : (attempt : Nat) → EnsureCall
  | inserting : (attempt : Nat) → EnsureCall
  | ended : Ensured → EnsureCall
deriving DecidableEq

/-- What a turn draws: a secret, what the encryption draws, and the clock. -/
structure SecretDraw (minLength : Int) where
  plain : TokenHex (secretBytes minLength)
  drawn : Nat
  now : Int

/-- `range(3)`. -/
def ensureAttempts : Nat := 3

/-- An insert; `none` where it raises `IntegrityError`. -/
def HmacTable.insert (table : HmacTable) (row : BotWebhookHmac) : Option HmacTable :=
  if fresh : table.row? row.botKey = none then
    some { rows := table.rows ++ [row], keyed := distinct_append table.keyed fresh }
  else none

section Call

variable {KeyContext : Type} (catchUp : CatchUp KeyContext)

/-- `_plaintext_from_secret_field` on a loaded column. -/
def plaintextFromSecretField (wire : Text) : Ensured :=
  match catchUp.cipher.parseKeyId wire with
  | none => .unreadable
  | some keyId =>
    match catchUp.resolveKeyctx keyId with
    | none => .unreadable
    | some context =>
      match catchUp.cipher.decryptString wire context with
      | .raised => .unreadable
      | .missing => .returned "None".toList
      | .plain secret => .returned secret

/-- The row that a call inserts. -/
def newHmacRow {minLength : Int} (botKey : Text) (draw : SecretDraw minLength) :
    BotWebhookHmac where
  botKey := botKey
  secretEnc := catchUp.cipher.encryptString draw.drawn catchUp.current draw.plain.text
  updatedAt := draw.now

/-- A call of `ensure_bot_webhook_hmac_secret` before its first turn. -/
def ensureBotWebhookHmacSecret (botKey : Text) : EnsureCall :=
  if strip botKey = [] then .ended .valueError else .reading 0

/-- The next turn of a call. -/
def EnsureCall.advance {minLength : Int} (botKey : Text) (draw : SecretDraw minLength)
    (table : HmacTable) : EnsureCall → HmacTable × EnsureCall
  | .reading attempt =>
    match table.row? botKey with
    | some row => (table, .ended (plaintextFromSecretField catchUp row.secretEnc))
    | none =>
      -- the read after the loop finds nothing
      (table, if attempt < ensureAttempts then .inserting attempt else .ended .runtimeError)
  | .inserting attempt =>
    match table.insert (newHmacRow catchUp botKey draw) with
    | some after => (after, .ended (.returned draw.plain.text))
    | none => (table, .reading (attempt + 1))
  | .ended result => (table, .ended result)

/-- The table and the calls. -/
structure EnsureWorld (ι : Type) where
  table : HmacTable
  calls : ι → EnsureCall

/-- One call takes its next turn. -/
structure EnsureTurn (ι : Type) (minLength : Int) where
  call : ι
  draw : SecretDraw minLength

variable {ι : Type} [DecidableEq ι] {minLength : Int} (botKey : Text)

/-- The table with every call before its first turn. -/
def EnsureWorld.start (table : HmacTable) : EnsureWorld ι where
  table := table
  calls _ := ensureBotWebhookHmacSecret botKey

/-- One call takes its next turn. -/
def ensureStep (world : EnsureWorld ι) (turn : EnsureTurn ι minLength) : EnsureWorld ι :=
  let after := (world.calls turn.call).advance catchUp botKey turn.draw world.table
  { table := after.1
    calls := fun call => if call = turn.call then after.2 else world.calls call }

/-- The turns that a call has taken. -/
def turnsOf (call : ι) (turns : List (EnsureTurn ι minLength)) : Nat :=
  turns.countP fun turn => turn.call = call

/-- What the calls agree on after some turns: a call that has ended has returned the secret
that is stored, one that has taken three turns has ended, a row that was stored at some
point is stored still, and the secret has the length asked for. -/
structure Agreement (table : HmacTable) (turns : List (EnsureTurn ι minLength)) : Prop where
  returns : ∀ call result,
    (run (ensureStep catchUp botKey) (EnsureWorld.start botKey table) turns).calls call =
      .ended result →
    ∃ stored, result = .returned stored ∧
      secret catchUp (run (ensureStep catchUp botKey) (EnsureWorld.start botKey table) turns).table
        botKey = some stored
  ends : ∀ call, 3 ≤ turnsOf call turns → ∃ result,
    (run (ensureStep catchUp botKey) (EnsureWorld.start botKey table) turns).calls call =
      .ended result
  keeps : ∀ before after, turns = before ++ after → ∀ row,
    (run (ensureStep catchUp botKey) (EnsureWorld.start botKey table) before).table.row? botKey =
      some row →
    (run (ensureStep catchUp botKey) (EnsureWorld.start botKey table) turns).table.row? botKey =
      some row
  long : ∀ stored,
    secret catchUp (run (ensureStep catchUp botKey) (EnsureWorld.start botKey table) turns).table
      botKey = some stored → minLength ≤ stored.length

end Call

variable {KeyContext : Type} {catchUp : CatchUp KeyContext} {ι : Type} [DecidableEq ι]
  {minLength : Int} {botKey : Text} {draw : SecretDraw minLength} {table : HmacTable}
  {call : EnsureCall} {stored : Option Text}

/-- A secret of so many bytes is long enough. -/
theorem secretBytes_enough (minLength : Int) : minLength ≤ 2 * secretBytes minLength := by
  have halved : minLength ≤ 2 * ((minLength + 1) / 2) := by omega
  have positive : 0 ≤ max 16 ((minLength + 1) / 2) := by omega
  rw [secretBytes, Int.toNat_of_nonneg positive]
  omega

namespace HmacTable

/-- An insert that is carried out had no row in its way, and its row is stored then. -/
theorem insert_fresh {row : BotWebhookHmac} {after : HmacTable}
    (inserted : table.insert row = some after) :
    table.row? row.botKey = none ∧ after.row? row.botKey = some row := by
  unfold insert at inserted
  split at inserted
  · rename_i fresh
    obtain rfl := Option.some.inj inserted
    exact ⟨fresh, get_append_fresh fresh rfl⟩
  · simp at inserted

/-- It leaves the rows under other keys. -/
theorem insert_other {row : BotWebhookHmac} {after : HmacTable} {key : Text}
    (inserted : table.insert row = some after) (other : row.botKey ≠ key) :
    after.row? key = table.row? key := by
  unfold insert at inserted
  split at inserted
  · obtain rfl := Option.some.inj inserted
    exact get_append_other other
  · simp at inserted

/-- An insert that is refused has met a row under its key. -/
theorem insert_taken {row : BotWebhookHmac} (refused : table.insert row = none) :
    (table.row? row.botKey).isSome = true := by
  unfold insert at refused
  split at refused
  · simp at refused
  · rename_i taken
    exact Option.isSome_iff_ne_none.mpr taken

end HmacTable

/-- What can be decrypted is what the call returns. -/
theorem plaintext_of_secretOf {wire plain : Text} (readable : secretOf catchUp wire = some plain) :
    plaintextFromSecretField catchUp wire = .returned plain := by
  unfold secretOf at readable
  unfold plaintextFromSecretField
  split at readable
  · simp at readable
  · cases parsed : catchUp.cipher.parseKeyId wire with
    | none => simp [parsed] at readable
    | some keyId =>
      cases resolved : catchUp.resolveKeyctx keyId with
      | none => simp [parsed, resolved] at readable
      | some context =>
        cases decrypted : catchUp.cipher.decryptString wire context with
        | raised => simp [parsed, resolved, decrypted] at readable
        | missing => simp [parsed, resolved, decrypted] at readable
        | plain found => simpa [parsed, resolved, decrypted] using readable

/-- An inserted row holds the secret that was drawn. -/
theorem CatchUp.Lawful.new_row (lawful : catchUp.Lawful) :
    secretOf catchUp (newHmacRow catchUp botKey draw).secretEnc = some draw.plain.text := by
  have filled := lawful.filled draw.drawn draw.plain.text
  have names := lawful.names draw.drawn draw.plain.text
  have decrypts := lawful.decrypts draw.drawn draw.plain.text
  simp [secretOf, newHmacRow, filled, names, lawful.resolves, decrypts]

/-- Where a call can stand while that secret is stored: it reads a second time only where
there is one, and ends with it. -/
def EnsureCall.Fits (stored : Option Text) : EnsureCall → Prop
  | .reading attempt => attempt = 0 ∨ attempt = 1 ∧ stored.isSome = true
  | .inserting attempt => attempt = 0
  | .ended result => ∃ plain, result = .returned plain ∧ stored = some plain

/-- The turns a call has left at most. -/
def EnsureCall.left : EnsureCall → Nat
  | .reading attempt => if attempt = 0 then 3 else 1
  | .inserting _ => 2
  | .ended _ => 0

/-- The row of the bot, where there is one, holds a secret of the length asked for. -/
def Sound (catchUp : CatchUp KeyContext) (minLength : Int) (botKey : Text) (table : HmacTable) :
    Prop :=
  ∀ row, table.row? botKey = some row →
    ∃ plain, secretOf catchUp row.secretEnc = some plain ∧ minLength ≤ plain.length

/-- The secret of a bot is that of its row. -/
theorem secret_of_row {row : BotWebhookHmac} (found : table.row? botKey = some row) :
    secret catchUp table botKey = secretOf catchUp row.secretEnc := by
  rw [secret, found, Option.bind_some]

/-- A bot without a row has none. -/
theorem secret_of_absent (absent : table.row? botKey = none) :
    secret catchUp table botKey = none := by
  rw [secret, absent, Option.bind_none]

/-- A secret that is stored stays where rows stay. -/
theorem secret_kept {after : HmacTable}
    (kept : ∀ row, table.row? botKey = some row → after.row? botKey = some row) {plain : Text}
    (isStored : secret catchUp table botKey = some plain) :
    secret catchUp after botKey = some plain := by
  cases found : table.row? botKey with
  | none => simp [secret_of_absent found] at isStored
  | some row => rwa [secret_of_row (kept row found), ← secret_of_row found]

/-- What a turn does: it keeps the row, the table stays sound, the call fits the secret
stored after it and has fewer turns left. -/
structure EnsureCall.Advanced (catchUp : CatchUp KeyContext) (minLength : Int) (botKey : Text)
    (table : HmacTable) (call : EnsureCall) (after : HmacTable × EnsureCall) : Prop where
  keeps : ∀ row, table.row? botKey = some row → after.1.row? botKey = some row
  sound : Sound catchUp minLength botKey after.1
  fits : after.2.Fits (secret catchUp after.1 botKey)
  left : after.2.left ≤ call.left - 1

/-- The step lemma, one case for each place a call can stand. A read finds the row or none, and an
insert stores its own or meets that of another call. -/
theorem CatchUp.Lawful.advance (lawful : catchUp.Lawful) (draw : SecretDraw minLength)
    (sound : Sound catchUp minLength botKey table)
    (fits : call.Fits (secret catchUp table botKey)) :
    call.Advanced catchUp minLength botKey table (call.advance catchUp botKey draw table) := by
  cases call with
  | reading attempt =>
    cases found : table.row? botKey with
    | some row =>
      obtain ⟨plain, readable, _⟩ := sound row found
      have moved : (EnsureCall.reading attempt).advance catchUp botKey draw table =
          (table, .ended (.returned plain)) := by
        rw [EnsureCall.advance, found]
        simp only [plaintext_of_secretOf readable]
      rw [moved]
      refine ⟨fun _ same => same, sound, ⟨plain, rfl, ?_⟩, Nat.zero_le _⟩
      rw [secret_of_row found, readable]
    | none =>
      -- with no row this is the first read, and the insert comes next
      have first : attempt = 0 := by
        rcases fits with first | ⟨_, isStored⟩
        · exact first
        · simp [secret_of_absent found] at isStored
      subst first
      have moved : (EnsureCall.reading 0).advance catchUp botKey draw table =
          (table, .inserting 0) := by
        rw [EnsureCall.advance, found]
        simp [ensureAttempts]
      rw [moved]
      exact ⟨fun _ same => same, sound, rfl, by simp [EnsureCall.left]⟩
  | inserting attempt =>
    obtain rfl : attempt = 0 := fits
    cases inserted : table.insert (newHmacRow catchUp botKey draw) with
    | some after =>
      have moved : (EnsureCall.inserting 0).advance catchUp botKey draw table =
          (after, .ended (.returned draw.plain.text)) := by
        rw [EnsureCall.advance, inserted]
      obtain ⟨fresh, isStored⟩ := HmacTable.insert_fresh inserted
      have fresh : table.row? botKey = none := fresh
      have isStored : after.row? botKey = some (newHmacRow catchUp botKey draw) := isStored
      rw [moved]
      refine ⟨?_, ?_, ⟨draw.plain.text, rfl, ?_⟩, Nat.zero_le _⟩
      · intro row found
        simp [fresh] at found
      · intro row found
        obtain rfl := Option.some.inj (isStored.symm.trans found)
        refine ⟨draw.plain.text, lawful.new_row, ?_⟩
        have enough := secretBytes_enough minLength
        have size := draw.plain.size
        omega
      · rw [secret_of_row isStored, lawful.new_row]
    | none =>
      have moved : (EnsureCall.inserting 0).advance catchUp botKey draw table =
          (table, .reading 1) := by
        rw [EnsureCall.advance, inserted]
      have taken : (table.row? botKey).isSome = true := HmacTable.insert_taken inserted
      obtain ⟨row, found⟩ := Option.isSome_iff_exists.mp taken
      obtain ⟨plain, readable, _⟩ := sound row found
      rw [moved]
      refine ⟨fun _ same => same, sound, Or.inr ⟨rfl, ?_⟩, by simp [EnsureCall.left]⟩
      rw [secret_of_row found, readable, Option.isSome_some]
  | ended result => exact ⟨fun _ same => same, sound, fits, Nat.zero_le _⟩

/-- A turn leaves the rows of other bots. -/
theorem EnsureCall.advance_other (draw : SecretDraw minLength) {key : Text} (other : botKey ≠ key) :
    (call.advance catchUp botKey draw table).1.row? key = table.row? key := by
  cases call with
  | reading attempt =>
    rw [EnsureCall.advance]
    split <;> rfl
  | inserting attempt =>
    rw [EnsureCall.advance]
    split
    · rename_i after inserted
      exact HmacTable.insert_other inserted other
    · rfl
  | ended result => rfl

/-- The facts about the table and the calls that every turn keeps. -/
structure EnsureWorld.Coherent (catchUp : CatchUp KeyContext) (minLength : Int) (botKey : Text)
    (world : EnsureWorld ι) : Prop where
  sound : Sound catchUp minLength botKey world.table
  fits : ∀ call, (world.calls call).Fits (secret catchUp world.table botKey)

/-- A call that fits what is stored fits what is stored later, as a secret never changes. -/
theorem EnsureCall.Fits.kept {before after : Option Text} (fits : call.Fits before)
    (kept : ∀ plain, before = some plain → after = some plain) : call.Fits after := by
  cases call with
  | reading attempt =>
    rcases fits with first | ⟨second, isStored⟩
    · exact Or.inl first
    · obtain ⟨plain, isPlain⟩ := Option.isSome_iff_exists.mp isStored
      exact Or.inr ⟨second, Option.isSome_iff_exists.mpr ⟨plain, kept plain isPlain⟩⟩
  | inserting attempt => exact fits
  | ended result =>
    obtain ⟨plain, returned, isStored⟩ := fits
    exact ⟨plain, returned, kept plain isStored⟩

variable {world : EnsureWorld ι} {turn : EnsureTurn ι minLength}

/-- The call whose turn it is stands where the turn has brought it. -/
theorem ensureStep_own :
    (ensureStep catchUp botKey world turn).calls turn.call =
      ((world.calls turn.call).advance catchUp botKey turn.draw world.table).2 := if_pos rfl

/-- The other calls stay where they stand. -/
theorem ensureStep_other {call : ι} (other : call ≠ turn.call) :
    (ensureStep catchUp botKey world turn).calls call = world.calls call := if_neg other

/-- A turn keeps the row. -/
theorem ensureStep_keeps (lawful : catchUp.Lawful)
    (coherent : world.Coherent catchUp minLength botKey) {row : BotWebhookHmac}
    (found : world.table.row? botKey = some row) :
    (ensureStep catchUp botKey world turn).table.row? botKey = some row :=
  (lawful.advance turn.draw coherent.sound (coherent.fits turn.call)).keeps row found

/-- A turn keeps the invariant. -/
theorem ensureStep_coherent (lawful : catchUp.Lawful)
    (coherent : world.Coherent catchUp minLength botKey) :
    (ensureStep catchUp botKey world turn).Coherent catchUp minLength botKey := by
  have advanced := lawful.advance turn.draw coherent.sound (coherent.fits turn.call)
  constructor
  · exact advanced.sound
  · intro call
    by_cases own : call = turn.call
    · rw [own, ensureStep_own]
      exact advanced.fits
    · rw [ensureStep_other own]
      apply (coherent.fits call).kept
      intro plain isStored
      exact secret_kept advanced.keeps isStored

omit [DecidableEq ι] in
/-- No call starts with an end, and nothing is stored, so the invariant holds. -/
theorem start_coherent (nonblank : strip botKey ≠ []) (absent : table.row? botKey = none) :
    (EnsureWorld.start botKey table : EnsureWorld ι).Coherent catchUp minLength botKey := by
  constructor
  · intro row found
    have found : table.row? botKey = some row := found
    simp [absent] at found
  · intro call
    rw [EnsureWorld.start, ensureBotWebhookHmacSecret, if_neg nonblank]
    exact Or.inl rfl

/-- A run of turns keeps the invariant. -/
theorem run_coherent (lawful : catchUp.Lawful) (turns : List (EnsureTurn ι minLength))
    (coherent : world.Coherent catchUp minLength botKey) :
    (run (ensureStep catchUp botKey) world turns).Coherent catchUp minLength botKey := by
  induction turns generalizing world with
  | nil => exact coherent
  | cons turn rest inductionHypothesis =>
    exact inductionHypothesis (ensureStep_coherent lawful coherent)

/-- A row that is stored stays as it is, over any further turns. -/
theorem run_keeps (lawful : catchUp.Lawful) (turns : List (EnsureTurn ι minLength))
    (coherent : world.Coherent catchUp minLength botKey) {row : BotWebhookHmac}
    (found : world.table.row? botKey = some row) :
    (run (ensureStep catchUp botKey) world turns).table.row? botKey = some row := by
  induction turns generalizing world with
  | nil => exact found
  | cons turn rest inductionHypothesis =>
    apply inductionHypothesis (ensureStep_coherent lawful coherent)
    exact ensureStep_keeps lawful coherent found

/-- The turns a call has taken are off those it had left, whoever else takes turns in between. -/
theorem run_left (lawful : catchUp.Lawful) (turns : List (EnsureTurn ι minLength)) (call : ι)
    (coherent : world.Coherent catchUp minLength botKey) :
    ((run (ensureStep catchUp botKey) world turns).calls call).left ≤
      (world.calls call).left - turnsOf call turns := by
  induction turns generalizing world with
  | nil =>
    have none : turnsOf call ([] : List (EnsureTurn ι minLength)) = 0 := rfl
    rw [none]
    exact Nat.le_refl _
  | cons turn rest inductionHypothesis =>
    have next : (ensureStep catchUp botKey world turn).Coherent catchUp minLength botKey :=
      ensureStep_coherent lawful coherent
    have later := inductionHypothesis next
    rw [run_cons]
    by_cases own : call = turn.call
    · have advanced := lawful.advance turn.draw coherent.sound (coherent.fits turn.call)
      have counted : turnsOf call (turn :: rest) = turnsOf call rest + 1 := by
        simp [turnsOf, own]
      rw [own, ensureStep_own, ← own] at later
      rw [← own] at advanced
      have fewer := advanced.left
      omega
    · have counted : turnsOf call (turn :: rest) = turnsOf call rest := by
        simp [turnsOf, Ne.symm own]
      rw [ensureStep_other own] at later
      omega

/-- However the turns of the calls come, the calls agree.

Proof: the invariant holds before the first turn and every turn keeps it, so a call that has ended
has returned the stored secret and a stored row stays. Each turn of a call leaves it fewer turns,
out of three, which is why the third one ends it. -/
theorem ensure_agrees (catchUp : CatchUp KeyContext) (lawful : catchUp.Lawful) (botKey : Text)
    (nonblank : strip botKey ≠ []) (minLength : Int) (table : HmacTable)
    (absent : table.row? botKey = none) (turns : List (EnsureTurn ι minLength)) :
    Agreement catchUp botKey table turns := by
  have initially : (EnsureWorld.start botKey table : EnsureWorld ι).Coherent catchUp minLength
      botKey := start_coherent nonblank absent
  have atEnd := run_coherent lawful turns initially
  constructor
  · intro call result isEnded
    have fits := atEnd.fits call
    rw [isEnded] at fits
    exact fits
  · intro call enough
    have left := run_left lawful turns call initially
    have bound : ((EnsureWorld.start botKey table : EnsureWorld ι).calls call).left ≤ 3 := by
      rw [EnsureWorld.start, ensureBotWebhookHmacSecret, if_neg nonblank]
      exact Nat.le_refl 3
    cases stands : (run (ensureStep catchUp botKey) (EnsureWorld.start botKey table) turns).calls
        call with
    | reading attempt =>
      rw [stands, EnsureCall.left] at left
      split at left <;> omega
    | inserting attempt =>
      rw [stands, EnsureCall.left] at left
      omega
    | ended result => exact ⟨result, rfl⟩
  · rintro before after rfl row found
    rw [run_append]
    exact run_keeps lawful after (run_coherent lawful before initially) found
  · intro plain isStored
    cases found : (run (ensureStep catchUp botKey) (EnsureWorld.start botKey table)
        turns).table.row? botKey with
    | none => simp [secret_of_absent found] at isStored
    | some row =>
      obtain ⟨readable, isReadable, long⟩ := atEnd.sound row found
      rw [secret_of_row found, isReadable] at isStored
      rwa [← Option.some.inj isStored]

section Example

/-- Sixteen bytes of zeros. -/
def zeroToken : TokenHex (secretBytes 16) where
  text := List.replicate 32 '0'
  digits := by decide
  size := rfl

/-- Sixteen bytes of seventeens. -/
def otherToken : TokenHex (secretBytes 16) where
  text := List.replicate 32 '1'
  digits := by decide
  size := rfl

/-- A turn of one of two calls, each of which draws a token of its own. -/
def tokenTurn (call : Bool) : EnsureTurn Bool 16 where
  call := call
  draw := { plain := if call then otherToken else zeroToken, drawn := 0, now := 0 }

/-- A table without rows. -/
def noSecrets : HmacTable := ⟨[], List.nodup_nil⟩

/-- Two calls both find no row and draw different tokens; the one that inserts second reads the
secret of the other. -/
theorem two_calls_agree :
    Agreement (plainCatchUp 50) "bot-1".toList noSecrets
      [tokenTurn true, tokenTurn false, tokenTurn true, tokenTurn false, tokenTurn false] :=
  ensure_agrees (plainCatchUp 50) (plainCatchUp_lawful 50) "bot-1".toList (by decide) 16 noSecrets
    rfl _

end Example

end Thaum.Vault
