import Thaum.Library.GuardedRuns
import Thaum.Library.KeyedRows
import Thaum.Library.PyText

/-!
# Warnings that a webhook token is about to expire

`_db_throttle_should_log` is a transaction over `webhook_bearer_warn_state`. It deletes
rows that have expired, reads the row of its token, and suppresses the warning where the
last one is younger than a day; otherwise it updates the row, or inserts it, and emits. An
insert that meets a committed row is taken back and the row is read again.

A read and the commit after it are separate turns, and other transactions may commit
between them. What a transaction deletes is gone for itself at once and for the others with
its commit; only a row that is still as it was is deleted. Times are in microseconds.
-/

namespace Thaum.Webhooks

open PyText KeyedRows GuardedRuns

/-- A row of `webhook_bearer_warn_state`. -/
structure WarnRow where
  tokenFp : Text
  lastWarnAt : Int
  expiresAt : Option Int
  botKey : Option Text
deriving DecidableEq

/-- The table, with its primary key. -/
structure WarnTable where
  rows : List WarnRow
  keyed : Distinct WarnRow.tokenFp rows

namespace WarnTable

/-- `session.get(WebhookBearerWarnState, …)`. -/
def row? (table : WarnTable) (tokenFp : Text) : Option WarnRow :=
  get WarnRow.tokenFp tokenFp table.rows

/-- The table without some rows. -/
def without (table : WarnTable) (deleted : List WarnRow) : WarnTable where
  rows := table.rows.filter fun row => !deleted.contains row
  keyed := table.keyed.sublist (List.filter_sublist.map _)

/-- An insert; `none` where it raises `IntegrityError`. -/
def insert (table : WarnTable) (row : WarnRow) : Option WarnTable :=
  if fresh : table.row? row.tokenFp = none then
    some { rows := table.rows ++ [row], keyed := distinct_append table.keyed fresh }
  else none

/-- The table with the row stored under its token. -/
def write (table : WarnTable) (row : WarnRow) : WarnTable where
  rows := put WarnRow.tokenFp row table.rows
  keyed := distinct_put table.keyed

end WarnTable

/-- `_RotationThrottleResult`. -/
inductive RotationThrottleResult where
  | emit | suppress | storageFailed
deriving DecidableEq

/-- What a call is given. -/
structure ThrottleCall where
  tokenFp : Text
  expiresAt : Int
  botKey : Option Text

/-- `_ROTATION_WARN_INTERVAL_SEC`. -/
def rotationWarnInterval : Int := 86400 * 1000000

/-- `_CLEANUP_EXPIRED_BEFORE`. -/
def cleanupExpiredBefore : Int := 86400 * 1000000

/-- Where the transaction of a call stands, with its clock reading and the rows it has
deleted: before its insert, before it reads again, before the commit of an update of the
row it read, before another commit, or at its end. -/
inductive Throttling where
  | waiting : Throttling
  | inserting : (now : Int) → (deleted : List WarnRow) → Throttling
  | rereading : (now : Int) → (deleted : List WarnRow) → Throttling
  | updating : (now : Int) → (deleted : List WarnRow) → (read : WarnRow) → Throttling
  | closing : (now : Int) → (deleted : List WarnRow) → RotationThrottleResult → Throttling
  | ended : (now : Int) → RotationThrottleResult → Throttling
deriving DecidableEq

/-- The cleanup deletes the row. -/
def isExpired (now : Int) (row : WarnRow) : Bool :=
  row.expiresAt.any fun expiresAt => decide (expiresAt < now - cleanupExpiredBefore)

/-- What follows from a row that has been read. -/
def throttleRow (now : Int) (deleted : List WarnRow) (row : WarnRow) : Throttling :=
  if now - row.lastWarnAt < rotationWarnInterval then .closing now deleted .suppress
  else .updating now deleted row

/-- The row that a call inserts. -/
def ThrottleCall.newRow (call : ThrottleCall) (now : Int) : WarnRow where
  tokenFp := call.tokenFp
  lastWarnAt := now
  expiresAt := some call.expiresAt
  botKey := call.botKey

/-- The row as a call updates it. -/
def ThrottleCall.updated (call : ThrottleCall) (now : Int) (row : WarnRow) : WarnRow :=
  { row with
    lastWarnAt := now
    expiresAt := some call.expiresAt
    botKey := call.botKey.orElse fun _ => row.botKey }

/-- The begin of a transaction, its cleanup and its read. -/
def ThrottleCall.begin (call : ThrottleCall) (now : Int) (table : WarnTable) : Throttling :=
  let deleted := table.rows.filter (isExpired now)
  match (table.without deleted).row? call.tokenFp with
  | some row => throttleRow now deleted row
  | none => .inserting now deleted

/-- The next turn of a transaction that has begun. -/
def ThrottleCall.next (call : ThrottleCall) (table : WarnTable) :
    Throttling → WarnTable × Throttling
  | .waiting => (table, .waiting)
  | .inserting now deleted =>
    match (table.without deleted).insert (call.newRow now) with
    | some after => (after, .ended now .emit)
    | none => (table, .rereading now deleted)
  | .rereading now deleted =>
    match (table.without deleted).row? call.tokenFp with
    | some row => (table, throttleRow now deleted row)
    | none => (table, .closing now deleted .emit)
  | .updating now deleted _ =>
    match (table.without deleted).row? call.tokenFp with
    | some row => ((table.without deleted).write (call.updated now row), .ended now .emit)
    -- the update finds no row
    | none => (table, .ended now .storageFailed)
  | .closing now deleted result => (table.without deleted, .ended now result)
  | .ended now result => (table, .ended now result)

/-- An error in an open transaction, which is rolled back. -/
def Throttling.failed : Throttling → Throttling
  | .waiting => .waiting
  | .inserting now _ | .rereading now _ | .updating now _ _ | .closing now _ _ =>
    .ended now .storageFailed
  | .ended now result => .ended now result

/-- The table, the calls, and the latest clock reading. -/
structure WarnWorld (κ : Type) where
  table : WarnTable
  calls : κ → Throttling
  clock : Int

/-- A transaction begins, takes its next turn, or fails. -/
inductive WarnEvent (κ : Type) where
  | begin : κ → (now : Int) → WarnEvent κ
  | next : κ → WarnEvent κ
  | fail : κ → WarnEvent κ

section Step

variable {κ : Type} [DecidableEq κ] (calls : κ → ThrottleCall)

/-- The world with one call standing elsewhere. -/
def WarnWorld.set (world : WarnWorld κ) (call : κ) (stands : Throttling) : WarnWorld κ :=
  { world with calls := fun other => if other = call then stands else world.calls other }

/-- One event. -/
def warnStep (world : WarnWorld κ) : WarnEvent κ → WarnWorld κ
  | .begin call now =>
    match world.calls call with
    | .waiting => { world with clock := now }.set call ((calls call).begin now world.table)
    | _ => world
  | .next call =>
    { world with table := ((calls call).next world.table (world.calls call)).1 }.set call
      ((calls call).next world.table (world.calls call)).2
  | .fail call => world.set call (world.calls call).failed

/-- No transaction has begun. -/
def WarnWorld.start (table : WarnTable) (clock : Int) : WarnWorld κ :=
  { table, calls := fun _ => .waiting, clock }

/-- Any two warnings about a token are a day apart. -/
def WarningsApart (world : WarnWorld κ) : Prop :=
  ∀ first second earlier later, first ≠ second →
    (calls first).tokenFp = (calls second).tokenFp →
    world.calls first = .ended earlier .emit → world.calls second = .ended later .emit →
      rotationWarnInterval ≤ later - earlier ∨ rotationWarnInterval ≤ earlier - later

/-- The clock does not go back, and no call begins later than a day after its token has
expired. -/
def InWindow (world : WarnWorld κ) : WarnEvent κ → Prop
  | .begin call now => world.clock ≤ now ∧ now ≤ (calls call).expiresAt + cleanupExpiredBefore
  | .next _ | .fail _ => True

/-- The transaction is about to insert its row or to read it again. -/
def Throttling.Inserts : Throttling → Prop
  | .inserting _ _ | .rereading _ _ => True
  | _ => False

/-- The rows that are deleted if the next turn commits. -/
def Throttling.deletes : Throttling → List WarnRow
  | .inserting _ deleted | .updating _ deleted _ | .closing _ deleted _ => deleted
  | .waiting | .rereading _ _ | .ended _ _ => []

/-- A row is updated only as it was read, and no row is deleted of a token that another
transaction is about to insert or to read again. -/
def Undisturbed (world : WarnWorld κ) : WarnEvent κ → Prop
  | .next call =>
    (∀ now deleted read row, world.calls call = .updating now deleted read →
      world.table.row? (calls call).tokenFp = some row → row.lastWarnAt = read.lastWarnAt) ∧
    ∀ row ∈ (world.calls call).deletes, row ∈ world.table.rows → ∀ other, other ≠ call →
      (calls other).tokenFp = row.tokenFp → ¬ (world.calls other).Inserts
  | .begin _ _ | .fail _ => True

end Step

variable {κ : Type} {calls : κ → ThrottleCall} {world : WarnWorld κ} {table : WarnTable}
  {call : κ} {tokenFp : Text} {row : WarnRow} {deleted : List WarnRow} {now : Int}

namespace WarnTable

/-- A row is kept unless it is deleted. -/
theorem row?_without (table : WarnTable) (deleted : List WarnRow) (tokenFp : Text) :
    (table.without deleted).row? tokenFp = table.row? tokenFp ∨
      (table.without deleted).row? tokenFp = none ∧
        ∃ row ∈ deleted, table.row? tokenFp = some row := by
  cases found : table.row? tokenFp with
  | none =>
    left
    apply get_none_iff.mpr
    intro row stored
    exact get_none_iff.mp found row (List.mem_filter.mp stored).1
  | some row =>
    obtain ⟨stored, keyed⟩ := get_some found
    by_cases isDeleted : row ∈ deleted
    · right
      refine ⟨get_none_iff.mpr ?_, row, isDeleted, rfl⟩
      intro second listed same
      obtain ⟨secondStored, kept⟩ := List.mem_filter.mp listed
      obtain rfl := eq_of_key table.keyed secondStored stored (same.trans keyed.symm)
      simp [isDeleted] at kept
    · left
      have kept : row ∈ (table.without deleted).rows := by
        apply List.mem_filter.mpr
        simp [stored, isDeleted]
      rw [← keyed]
      exact get_of_mem (table.without deleted).keyed kept

/-- What is found after deleting has not been deleted. -/
theorem row?_without_some (found : (table.without deleted).row? tokenFp = some row) :
    table.row? tokenFp = some row ∧ row ∉ deleted := by
  obtain ⟨listed, keyed⟩ := get_some found
  obtain ⟨stored, kept⟩ := List.mem_filter.mp listed
  constructor
  · rw [← keyed]
    exact get_of_mem table.keyed stored
  · simpa using kept

/-- An insert that is carried out had no row in its way, stores its own and leaves the others. -/
theorem insert_some {after : WarnTable} (inserted : table.insert row = some after) :
    table.row? row.tokenFp = none ∧ after.row? row.tokenFp = some row ∧
      ∀ tokenFp, row.tokenFp ≠ tokenFp → after.row? tokenFp = table.row? tokenFp := by
  unfold insert at inserted
  split at inserted
  · rename_i fresh
    obtain rfl := Option.some.inj inserted
    exact ⟨fresh, get_append_fresh fresh rfl, fun _ other => get_append_other other⟩
  · simp at inserted

/-- An insert that is refused has met a row of its token. -/
theorem insert_none (refused : table.insert row = none) :
    ∃ stored, table.row? row.tokenFp = some stored := by
  unfold insert at refused
  split at refused
  · simp at refused
  · rename_i taken
    exact Option.ne_none_iff_exists'.mp taken

/-- A written row is found. -/
theorem row?_write_same : (table.write row).row? row.tokenFp = some row := get_put_same

/-- Writing a row leaves those of other tokens. -/
theorem row?_write_other (other : row.tokenFp ≠ tokenFp) :
    (table.write row).row? tokenFp = table.row? tokenFp := get_put_other other

end WarnTable

/-- The clock reading and the deleted rows of an open transaction. -/
def Throttling.opened : Throttling → Option (Int × List WarnRow)
  | .inserting now deleted | .rereading now deleted | .updating now deleted _
  | .closing now deleted _ => some (now, deleted)
  | .waiting | .ended _ _ => none

/-- What is known of an open transaction: when it began, what it has deleted, that it
updates aged rows only, and that it emits nothing without a row. -/
structure Throttling.Fits (call : ThrottleCall) (table : WarnTable) (clock : Int)
    (stands : Throttling) : Prop where
  opened : ∀ now deleted, stands.opened = some (now, deleted) →
    now ≤ clock ∧ now ≤ call.expiresAt + cleanupExpiredBefore ∧
      ∀ row ∈ deleted, isExpired now row = true
  aged : ∀ now deleted read, stands = .updating now deleted read →
    rotationWarnInterval ≤ now - read.lastWarnAt
  silent : ∀ now deleted, stands ≠ .closing now deleted .emit
  rereads : ∀ now deleted, stands = .rereading now deleted →
    ∃ row, table.row? call.tokenFp = some row ∧ row ∉ deleted

/-- The account of the warnings: they are a day apart, the row of a token that was warned
about is no older than the warning, and where it is gone no transaction will insert it. -/
structure WarnWorld.Accounted (calls : κ → ThrottleCall) (world : WarnWorld κ) : Prop where
  apart : WarningsApart calls world
  fits : ∀ call, (world.calls call).Fits (calls call) world.table world.clock
  stored : ∀ call now row, world.calls call = .ended now .emit →
    world.table.row? (calls call).tokenFp = some row →
      now ≤ row.lastWarnAt ∧ row.expiresAt = some (calls call).expiresAt
  gone : ∀ call now, world.calls call = .ended now .emit →
    world.table.row? (calls call).tokenFp = none →
      (calls call).expiresAt + cleanupExpiredBefore < world.clock ∧
        ∀ other, (calls other).tokenFp = (calls call).tokenFp → ¬ (world.calls other).Inserts

/-- A row that does not expire before a day after the reading is not deleted. -/
theorem not_expired {expiresAt : Int} (holds : row.expiresAt = some expiresAt)
    (early : now ≤ expiresAt + cleanupExpiredBefore) : isExpired now row = false := by
  have notBefore : ¬ expiresAt < now - cleanupExpiredBefore := by omega
  simp [isExpired, holds, notBefore]

/-- A row that is deleted expired more than a day before the reading. -/
theorem expired_past {expiresAt : Int} (holds : row.expiresAt = some expiresAt)
    (expired : isExpired now row = true) : expiresAt + cleanupExpiredBefore < now := by
  have before : expiresAt < now - cleanupExpiredBefore := by
    simpa [isExpired, holds] using expired
  omega

/-- What a turn can do to the row of a token: leave it, delete it, or, with a warning,
store it. -/
inductive RowChange (calls : κ → ThrottleCall) (world : WarnWorld κ) (call : κ)
    (after : WarnTable) (stands : Throttling) (tokenFp : Text) : Prop where
  | kept : after.row? tokenFp = world.table.row? tokenFp →
    RowChange calls world call after stands tokenFp
  | deleted : after.row? tokenFp = none → ¬ stands.Inserts →
    (∃ row ∈ (world.calls call).deletes, world.table.row? tokenFp = some row) →
    (∀ other, other ≠ call → (calls other).tokenFp = tokenFp → ¬ (world.calls other).Inserts) →
    RowChange calls world call after stands tokenFp
  | warned : tokenFp = (calls call).tokenFp → (∀ now, world.calls call ≠ .ended now .emit) →
    (∃ row now, stands = .ended now .emit ∧ after.row? tokenFp = some row ∧
      row.lastWarnAt = now ∧ row.expiresAt = some (calls call).expiresAt) →
    RowChange calls world call after stands tokenFp

/-- A commit deletes no row of a token that another transaction is about to insert or to read
again. -/
def SparesInserts (calls : κ → ThrottleCall) (world : WarnWorld κ) (call : κ) : Prop :=
  ∀ row ∈ (world.calls call).deletes, row ∈ world.table.rows →
    ∀ other, other ≠ call → (calls other).tokenFp = row.tokenFp → ¬ (world.calls other).Inserts

/-- What a turn does. -/
structure Turned (calls : κ → ThrottleCall) (world : WarnWorld κ) (call : κ)
    (after : WarnTable) (clock : Int) (stands : Throttling) : Prop where
  later : world.clock ≤ clock
  rows : ∀ tokenFp, RowChange calls world call after stands tokenFp
  fits : stands.Fits (calls call) after clock
  inserts : stands.Inserts → (world.calls call).Inserts ∨
    clock ≤ (calls call).expiresAt + cleanupExpiredBefore
  /-- A warning is an old one, or comes a day after the row was warned about. -/
  emits : ∀ now, stands = .ended now .emit → world.calls call = .ended now .emit ∨
    (∃ row, after.row? (calls call).tokenFp = some row ∧ row.lastWarnAt = now ∧
      row.expiresAt = some (calls call).expiresAt) ∧
    now ≤ (calls call).expiresAt + cleanupExpiredBefore ∧
    (∀ row, world.table.row? (calls call).tokenFp = some row →
      rotationWarnInterval ≤ now - row.lastWarnAt ∨ isExpired now row = true) ∧
    (world.table.row? (calls call).tokenFp = none → (world.calls call).Inserts)

/-- The calls about one token know one expiry. -/
def OneExpiry (calls : κ → ThrottleCall) : Prop :=
  ∀ first second, (calls first).tokenFp = (calls second).tokenFp →
    (calls first).expiresAt = (calls second).expiresAt

/-- What the next turn deletes was deleted at the begin of the transaction. -/
theorem Throttling.deletes_opened {stands : Throttling} (listed : row ∈ stands.deletes) :
    ∃ now deleted, stands.opened = some (now, deleted) ∧ row ∈ deleted := by
  cases stands with
  | waiting => exact absurd listed List.not_mem_nil
  | inserting now deleted => exact ⟨now, deleted, rfl, listed⟩
  | rereading now deleted => exact absurd listed List.not_mem_nil
  | updating now deleted read => exact ⟨now, deleted, rfl, listed⟩
  | closing now deleted result => exact ⟨now, deleted, rfl, listed⟩
  | ended now result => exact absurd listed List.not_mem_nil

section Account

variable {after : WarnTable} {clock : Int} {stands : Throttling}

/-- A new warning comes a day after every earlier one about its token: the row of that one is a day
old, or is gone and would not be inserted again. -/
theorem WarnWorld.Accounted.day_later (same : OneExpiry calls) (accounted : world.Accounted calls)
    (turned : Turned calls world call after clock stands) {earlier : Int} {other : κ}
    (new : world.calls call ≠ .ended now .emit) (emits : stands = .ended now .emit)
    (tokens : (calls other).tokenFp = (calls call).tokenFp)
    (emitted : world.calls other = .ended earlier .emit) :
    rotationWarnInterval ≤ now - earlier := by
  obtain ⟨_, early, aged, absent⟩ := (turned.emits now emits).resolve_left new
  cases found : world.table.row? (calls call).tokenFp with
  | none =>
    have noInserts := (accounted.gone other earlier emitted (tokens ▸ found)).2 call tokens.symm
    exact absurd (absent found) noInserts
  | some row =>
    obtain ⟨notBefore, expires⟩ := accounted.stored other earlier row emitted (tokens ▸ found)
    have kept : isExpired now row = false := by
      apply not_expired expires
      rw [same other call tokens]
      exact early
    rcases aged row found with aged | expired
    · omega
    · rw [kept] at expired
      exact nomatch expired

/-- A turn leaves the other transactions as they fit. -/
theorem WarnWorld.Accounted.fits_turned (same : OneExpiry calls)
    (accounted : world.Accounted calls) (turned : Turned calls world call after clock stands)
    {other : κ} (different : other ≠ call) :
    (world.calls other).Fits (calls other) after clock := by
  have fits := accounted.fits other
  constructor
  · intro now deleted isOpen
    obtain ⟨began, rest⟩ := fits.opened now deleted isOpen
    exact ⟨Int.le_trans began turned.later, rest⟩
  · exact fits.aged
  · exact fits.silent
  · intro now deleted rereading
    obtain ⟨row, found, notDeleted⟩ := fits.rereads now deleted rereading
    rcases turned.rows (calls other).tokenFp with kept | ⟨_, _, _, undisturbed⟩ |
      ⟨tokens, _, new, time, _, isNew, _, expires⟩
    · exact ⟨row, kept.trans found, notDeleted⟩
    · have pending : (world.calls other).Inserts := by
        rw [rereading]
        trivial
      exact absurd pending (undisturbed other different rfl)
    · refine ⟨new, isNew, ?_⟩
      intro isDeleted
      have isOpen : (world.calls other).opened = some (now, deleted) := by
        rw [rereading]
        rfl
      obtain ⟨_, early, expired⟩ := fits.opened now deleted isOpen
      have kept : isExpired now new = false := by
        apply not_expired expires
        rw [← same other call tokens]
        exact early
      rw [expired new isDeleted] at kept
      exact nomatch kept

variable [DecidableEq κ]

/-- The world after a turn. -/
def WarnWorld.turned (world : WarnWorld κ) (call : κ) (table : WarnTable) (clock : Int)
    (stands : Throttling) : WarnWorld κ :=
  { world with table := table, clock := clock }.set call stands

/-- The call whose turn it was stands where the turn has brought it. -/
theorem turned_own : (world.turned call after clock stands).calls call = stands := if_pos rfl

/-- The other calls stay where they stand. -/
theorem turned_other {other : κ} (different : other ≠ call) :
    (world.turned call after clock stands).calls other = world.calls other := if_neg different

/-- A call that has emitted after a turn has done so before, or is the one whose turn it was. -/
theorem emitted_before {other : κ} {time : Int}
    (emitted : (world.turned call after clock stands).calls other = .ended time .emit) :
    world.calls other = .ended time .emit ∨
      other = call ∧ stands = .ended time .emit ∧ world.calls call ≠ .ended time .emit := by
  by_cases own : other = call
  · subst own
    rw [turned_own] at emitted
    by_cases already : world.calls other = .ended time .emit
    · exact Or.inl already
    · exact Or.inr ⟨rfl, emitted, already⟩
  · rw [turned_other own] at emitted
    exact Or.inl emitted

/-- After a turn, the row of a token that was warned about is no older than the warning. -/
theorem WarnWorld.Accounted.stored_turned (same : OneExpiry calls)
    (accounted : world.Accounted calls) (turned : Turned calls world call after clock stands)
    {other : κ} {time : Int}
    (emitted : (world.turned call after clock stands).calls other = .ended time .emit)
    (found : after.row? (calls other).tokenFp = some row) :
    time ≤ row.lastWarnAt ∧ row.expiresAt = some (calls other).expiresAt := by
  rcases emitted_before emitted with old | ⟨rfl, new, fresh⟩
  · rcases turned.rows (calls other).tokenFp with kept | ⟨absent, _, _, _⟩ |
      ⟨tokens, fresh, second, now, emits, isSecond, warned, expires⟩
    · exact accounted.stored other time row old (kept ▸ found)
    · exact absurd (absent.symm.trans found) (by simp)
    · obtain rfl := Option.some.inj (isSecond.symm.trans found)
      have day := accounted.day_later same turned (fresh now) emits tokens old
      have positive : 0 < rotationWarnInterval := by decide
      refine ⟨by omega, ?_⟩
      rw [expires, same other call tokens]
  · obtain ⟨⟨second, isSecond, warned, expires⟩, _⟩ :=
      (turned.emits time new).resolve_left fresh
    obtain rfl := Option.some.inj (isSecond.symm.trans found)
    exact ⟨Int.le_of_eq warned.symm, expires⟩

/-- After a turn, no transaction will insert the row of a token that was warned about if it is
gone. -/
theorem WarnWorld.Accounted.gone_turned (same : OneExpiry calls)
    (accounted : world.Accounted calls) (turned : Turned calls world call after clock stands)
    {other : κ} {time : Int}
    (emitted : (world.turned call after clock stands).calls other = .ended time .emit)
    (absent : after.row? (calls other).tokenFp = none) :
    (calls other).expiresAt + cleanupExpiredBefore < clock ∧
      ∀ third, (calls third).tokenFp = (calls other).tokenFp →
        ¬ ((world.turned call after clock stands).calls third).Inserts := by
  rcases emitted_before emitted with old | ⟨rfl, new, fresh⟩
  · rcases turned.rows (calls other).tokenFp with kept |
      ⟨_, notOwn, ⟨row, listed, removed⟩, undisturbed⟩ | ⟨_, _, second, _, _, isSecond, _⟩
    · obtain ⟨past, noInserts⟩ := accounted.gone other time old (kept.symm.trans absent)
      refine ⟨Int.lt_of_lt_of_le past turned.later, ?_⟩
      intro third tokens
      by_cases own : third = call
      · subst own
        rw [turned_own]
        intro inserts
        rcases turned.inserts inserts with before | early
        · exact noInserts third tokens before
        · have later := turned.later
          rw [same third other tokens] at early
          omega
      · rw [turned_other own]
        exact noInserts third tokens
    · obtain ⟨now, deleted, isOpen, isDeleted⟩ := Throttling.deletes_opened listed
      obtain ⟨began, _, expired⟩ := (accounted.fits call).opened now deleted isOpen
      obtain ⟨_, expires⟩ := accounted.stored other time row old removed
      have past := expired_past expires (expired row isDeleted)
      refine ⟨Int.lt_of_lt_of_le past (Int.le_trans began turned.later), ?_⟩
      intro third tokens
      by_cases own : third = call
      · subst own
        rw [turned_own]
        exact notOwn
      · rw [turned_other own]
        exact undisturbed third own tokens
    · exact absurd (absent.symm.trans isSecond) (by simp)
  · obtain ⟨⟨second, isSecond, _⟩, _⟩ := (turned.emits time new).resolve_left fresh
    exact absurd (absent.symm.trans isSecond) (by simp)

/-- The step lemma: a turn keeps the account. -/
theorem WarnWorld.Accounted.turned (same : OneExpiry calls) (accounted : world.Accounted calls)
    (turned : Turned calls world call after clock stands) :
    (world.turned call after clock stands).Accounted calls := by
  constructor
  · intro first second earlier time different tokens one other
    rcases emitted_before one with oldOne | ⟨rfl, newOne, freshOne⟩
    · rcases emitted_before other with oldOther | ⟨rfl, newOther, freshOther⟩
      · exact accounted.apart first second earlier time different tokens oldOne oldOther
      · exact Or.inl (accounted.day_later same turned freshOther newOther tokens oldOne)
    · rcases emitted_before other with oldOther | ⟨rfl, _, _⟩
      · exact Or.inr (accounted.day_later same turned freshOne newOne tokens.symm oldOther)
      · exact absurd rfl different
  · intro other
    by_cases own : other = call
    · subst own
      rw [turned_own]
      exact turned.fits
    · rw [turned_other own]
      exact accounted.fits_turned same turned own
  · exact fun other time row emitted found => accounted.stored_turned same turned emitted found
  · exact fun other time emitted absent => accounted.gone_turned same turned emitted absent

end Account

/-- What follows from a read row fits: it is updated if it is aged, and otherwise the warning is
suppressed. -/
theorem throttleRow_fits {own : ThrottleCall} {clock : Int} (began : now ≤ clock)
    (early : now ≤ own.expiresAt + cleanupExpiredBefore)
    (expired : ∀ row ∈ deleted, isExpired now row = true) (row : WarnRow) :
    (throttleRow now deleted row).Fits own table clock ∧
      ¬ (throttleRow now deleted row).Inserts ∧
      ∀ time, throttleRow now deleted row ≠ .ended time .emit := by
  rw [throttleRow]
  split
  · refine ⟨⟨?_, ?_, ?_, ?_⟩, id, ?_⟩
    · intro now' deleted' isOpen
      obtain ⟨rfl, rfl⟩ := Prod.mk.inj (Option.some.inj isOpen)
      exact ⟨began, early, expired⟩
    · exact fun _ _ _ stands => nomatch stands
    · exact fun _ _ stands => nomatch stands
    · exact fun _ _ stands => nomatch stands
    · exact fun _ stands => nomatch stands
  · rename_i aged
    refine ⟨⟨?_, ?_, ?_, ?_⟩, id, ?_⟩
    · intro now' deleted' isOpen
      obtain ⟨rfl, rfl⟩ := Prod.mk.inj (Option.some.inj isOpen)
      exact ⟨began, early, expired⟩
    · intro now' deleted' read stands
      obtain ⟨rfl, _, rfl⟩ := Throttling.updating.inj stands
      exact Int.not_lt.mp aged
    · exact fun _ _ stands => nomatch stands
    · exact fun _ _ stands => nomatch stands
    · exact fun _ stands => nomatch stands

/-- A transaction that is over fits. -/
theorem ended_fits {own : ThrottleCall} {clock : Int} {result : RotationThrottleResult} :
    (Throttling.ended now result).Fits own table clock := by
  refine ⟨?_, ?_, ?_, ?_⟩
  · intro now' deleted isOpen
    exact absurd isOpen.symm (Option.some_ne_none _)
  · exact fun _ _ _ stands => nomatch stands
  · exact fun _ _ stands => nomatch stands
  · exact fun _ _ stands => nomatch stands

/-- A turn that leaves the table and emits nothing has little to account for: that it fits and comes
to insert only inside the window. -/
theorem Turned.of_kept {clock : Int} {stands : Throttling} (later : world.clock ≤ clock)
    (fits : stands.Fits (calls call) world.table clock)
    (inserts : stands.Inserts → (world.calls call).Inserts ∨
      clock ≤ (calls call).expiresAt + cleanupExpiredBefore)
    (quiet : ∀ time, stands = .ended time .emit → world.calls call = .ended time .emit) :
    Turned calls world call world.table clock stands :=
  ⟨later, fun _ => .kept rfl, fits, inserts, fun time emits => Or.inl (quiet time emits)⟩

/-- The begin of a transaction, whose cleanup is seen by itself alone until it commits. -/
theorem begin_turned (later : world.clock ≤ now)
    (early : now ≤ (calls call).expiresAt + cleanupExpiredBefore) :
    Turned calls world call world.table now ((calls call).begin now world.table) := by
  have expired : ∀ row ∈ world.table.rows.filter (isExpired now), isExpired now row = true :=
    fun row listed => (List.mem_filter.mp listed).2
  rw [ThrottleCall.begin]
  split
  · rename_i row _
    obtain ⟨fits, quiet, silent⟩ := throttleRow_fits (Int.le_refl now) early expired row
    exact .of_kept later fits (fun inserts => absurd inserts quiet)
      fun time emits => absurd emits (silent time)
  · apply Turned.of_kept later
    · refine ⟨?_, ?_, ?_, ?_⟩
      · intro now' deleted' isOpen
        obtain ⟨rfl, rfl⟩ := Prod.mk.inj (Option.some.inj isOpen)
        exact ⟨Int.le_refl now, early, expired⟩
      · exact fun _ _ _ stands => nomatch stands
      · exact fun _ _ stands => nomatch stands
      · exact fun _ _ stands => nomatch stands
    · exact fun _ => Or.inr early
    · exact fun _ stands => nomatch stands

/-- A failure, which takes back what the transaction was to do. -/
theorem fail_turned (fits : (world.calls call).Fits (calls call) world.table world.clock) :
    Turned calls world call world.table world.clock (world.calls call).failed := by
  cases stands : world.calls call with
  | waiting =>
    apply Turned.of_kept (Int.le_refl _)
    · rw [stands] at fits
      exact fits
    · exact fun inserts => inserts.elim
    · exact fun _ emits => nomatch emits
  | ended time result =>
    apply Turned.of_kept (Int.le_refl _)
    · exact ended_fits
    · exact fun inserts => inserts.elim
    · intro later emits
      rw [stands]
      exact emits
  | inserting time deleted =>
    exact .of_kept (Int.le_refl _) ended_fits (fun inserts => inserts.elim)
      fun _ emits => nomatch emits
  | rereading time deleted =>
    exact .of_kept (Int.le_refl _) ended_fits (fun inserts => inserts.elim)
      fun _ emits => nomatch emits
  | updating time deleted read =>
    exact .of_kept (Int.le_refl _) ended_fits (fun inserts => inserts.elim)
      fun _ emits => nomatch emits
  | closing time deleted result =>
    exact .of_kept (Int.le_refl _) ended_fits (fun inserts => inserts.elim)
      fun _ emits => nomatch emits

/-- What the deletions of a commit do to a row that is not warned about. -/
theorem RowChange.of_without {after : WarnTable} {stands : Throttling}
    (undisturbed : SparesInserts calls world call)
    (deletes : (world.calls call).deletes = deleted) (quiet : ¬ stands.Inserts)
    (others : after.row? tokenFp = (world.table.without deleted).row? tokenFp) :
    RowChange calls world call after stands tokenFp := by
  rcases world.table.row?_without deleted tokenFp with kept | ⟨gone, row, listed, found⟩
  · exact .kept (others.trans kept)
  · obtain ⟨stored, keyed⟩ := get_some found
    have listed : row ∈ (world.calls call).deletes := deletes ▸ listed
    refine .deleted (others.trans gone) quiet ⟨row, listed, found⟩ ?_
    intro other different tokens
    exact undisturbed row listed stored other different (tokens.trans keyed.symm)

/-- A commit that warns: the row of the token is stored, and of the others those are gone that were
deleted. -/
theorem Turned.of_warned {after : WarnTable} (undisturbed : SparesInserts calls world call)
    (deletes : (world.calls call).deletes = deleted)
    (unended : ∀ time, world.calls call ≠ .ended time .emit)
    (stored : ∃ row, after.row? (calls call).tokenFp = some row ∧ row.lastWarnAt = now ∧
      row.expiresAt = some (calls call).expiresAt)
    (others : ∀ tokenFp, tokenFp ≠ (calls call).tokenFp →
      after.row? tokenFp = (world.table.without deleted).row? tokenFp)
    (early : now ≤ (calls call).expiresAt + cleanupExpiredBefore)
    (aged : ∀ row, world.table.row? (calls call).tokenFp = some row →
      rotationWarnInterval ≤ now - row.lastWarnAt ∨ isExpired now row = true)
    (absent : world.table.row? (calls call).tokenFp = none → (world.calls call).Inserts) :
    Turned calls world call after world.clock (.ended now .emit) := by
  refine ⟨Int.le_refl _, ?_, ended_fits, fun inserts => inserts.elim, ?_⟩
  · intro tokenFp
    by_cases own : tokenFp = (calls call).tokenFp
    · obtain ⟨row, isStored, warned, expires⟩ := stored
      exact .warned own unended ⟨row, now, rfl, own ▸ isStored, warned, expires⟩
    · exact .of_without undisturbed deletes id (others tokenFp own)
  · intro time emits
    obtain ⟨rfl, _⟩ := Throttling.ended.inj emits
    exact Or.inr ⟨stored, early, aged, absent⟩

/-- The insert, which warns or meets a committed row. -/
theorem inserting_turned
    (fits : (world.calls call).Fits (calls call) world.table world.clock)
    (undisturbed : SparesInserts calls world call)
    (stands : world.calls call = .inserting now deleted) :
    Turned calls world call ((calls call).next world.table (.inserting now deleted)).1
      world.clock ((calls call).next world.table (.inserting now deleted)).2 := by
  obtain ⟨began, early, expired⟩ := fits.opened now deleted (congrArg Throttling.opened stands)
  have inserts : (world.calls call).Inserts := by
    rw [stands]
    trivial
  rw [ThrottleCall.next]
  split
  · rename_i after inserted
    obtain ⟨fresh, isNew, others⟩ := WarnTable.insert_some inserted
    apply Turned.of_warned undisturbed (congrArg Throttling.deletes stands)
    · intro time emitted
      rw [stands] at emitted
      exact nomatch emitted
    · exact ⟨_, isNew, rfl, rfl⟩
    · exact fun tokenFp different => others tokenFp (Ne.symm different)
    · exact early
    · intro row found
      rcases world.table.row?_without deleted (calls call).tokenFp with kept |
        ⟨_, removed, listed, isRemoved⟩
      · have absent : (world.table.without deleted).row? (calls call).tokenFp = none := fresh
        rw [kept, found] at absent
        exact nomatch absent
      · obtain rfl := Option.some.inj (isRemoved.symm.trans found)
        exact Or.inr (expired _ listed)
    · exact fun _ => inserts
  · rename_i refused
    obtain ⟨row, found⟩ := WarnTable.insert_none refused
    obtain ⟨found, notDeleted⟩ := WarnTable.row?_without_some found
    apply Turned.of_kept (Int.le_refl _)
    · refine ⟨?_, ?_, ?_, ?_⟩
      · intro now' deleted' isOpen
        obtain ⟨rfl, rfl⟩ := Prod.mk.inj (Option.some.inj isOpen)
        exact ⟨began, early, expired⟩
      · exact fun _ _ _ stands => nomatch stands
      · exact fun _ _ stands => nomatch stands
      · intro now' deleted' isThis
        obtain ⟨rfl, rfl⟩ := Throttling.rereading.inj isThis
        exact ⟨row, found, notDeleted⟩
    · exact fun _ => Or.inl inserts
    · exact fun _ emits => nomatch emits

/-- The row that an insert has met is read. -/
theorem rereading_turned
    (fits : (world.calls call).Fits (calls call) world.table world.clock)
    (stands : world.calls call = .rereading now deleted) :
    Turned calls world call ((calls call).next world.table (.rereading now deleted)).1
      world.clock ((calls call).next world.table (.rereading now deleted)).2 := by
  obtain ⟨began, early, expired⟩ := fits.opened now deleted (congrArg Throttling.opened stands)
  obtain ⟨row, found, notDeleted⟩ := fits.rereads now deleted stands
  have isRead : (world.table.without deleted).row? (calls call).tokenFp = some row := by
    rcases world.table.row?_without deleted (calls call).tokenFp with kept |
      ⟨_, removed, listed, isRemoved⟩
    · exact kept.trans found
    · obtain rfl := Option.some.inj (isRemoved.symm.trans found)
      exact absurd listed notDeleted
  obtain ⟨rowFits, quiet, silent⟩ := throttleRow_fits began early expired row
  rw [ThrottleCall.next, isRead]
  exact .of_kept (Int.le_refl _) rowFits (fun inserts => absurd inserts quiet)
    fun time emits => absurd emits (silent time)

/-- The update of a row that is as it was read, which warns, or that is gone. -/
theorem updating_turned {read : WarnRow}
    (fits : (world.calls call).Fits (calls call) world.table world.clock)
    (undisturbed : SparesInserts calls world call)
    (stands : world.calls call = .updating now deleted read)
    (asRead : ∀ row, world.table.row? (calls call).tokenFp = some row →
      row.lastWarnAt = read.lastWarnAt) :
    Turned calls world call ((calls call).next world.table (.updating now deleted read)).1
      world.clock ((calls call).next world.table (.updating now deleted read)).2 := by
  obtain ⟨_, early, _⟩ := fits.opened now deleted (congrArg Throttling.opened stands)
  have aged := fits.aged now deleted read stands
  rw [ThrottleCall.next]
  split
  · rename_i row isRead
    obtain ⟨found, _⟩ := WarnTable.row?_without_some isRead
    have keyed : ((calls call).updated now row).tokenFp = (calls call).tokenFp :=
      (get_some isRead).2
    apply Turned.of_warned undisturbed (congrArg Throttling.deletes stands)
    · intro time emitted
      rw [stands] at emitted
      exact nomatch emitted
    · refine ⟨(calls call).updated now row, ?_, rfl, rfl⟩
      rw [← keyed]
      exact WarnTable.row?_write_same
    · intro tokenFp different
      apply WarnTable.row?_write_other
      rw [keyed]
      exact Ne.symm different
    · exact early
    · intro second isSecond
      left
      rw [asRead second isSecond]
      exact aged
    · intro absent
      exact absurd (absent.symm.trans found) (by simp)
  · exact .of_kept (Int.le_refl _) ended_fits (fun inserts => inserts.elim)
      fun _ emits => nomatch emits

/-- The next turn of a transaction, one case for each place it can stand. -/
theorem next_turned (fits : (world.calls call).Fits (calls call) world.table world.clock)
    (undisturbed : SparesInserts calls world call)
    (asRead : ∀ now deleted read row, world.calls call = .updating now deleted read →
      world.table.row? (calls call).tokenFp = some row → row.lastWarnAt = read.lastWarnAt) :
    Turned calls world call ((calls call).next world.table (world.calls call)).1 world.clock
      ((calls call).next world.table (world.calls call)).2 := by
  cases stands : world.calls call with
  | waiting =>
    apply Turned.of_kept (Int.le_refl _)
    · rw [stands] at fits
      exact fits
    · exact fun inserts => inserts.elim
    · exact fun _ emits => nomatch emits
  | inserting now deleted => exact inserting_turned fits undisturbed stands
  | rereading now deleted => exact rereading_turned fits stands
  | updating now deleted read =>
    exact updating_turned fits undisturbed stands fun row => asRead now deleted read row stands
  | closing now deleted result =>
    rw [ThrottleCall.next]
    refine ⟨Int.le_refl _, ?_, ended_fits, fun inserts => inserts.elim, ?_⟩
    · exact fun _ => .of_without undisturbed (congrArg Throttling.deletes stands) id rfl
    · intro time emits
      obtain ⟨_, rfl⟩ := Throttling.ended.inj emits
      exact absurd stands (fits.silent now deleted)
  | ended time result =>
    apply Turned.of_kept (Int.le_refl _)
    · exact ended_fits
    · exact fun inserts => inserts.elim
    · intro later emits
      rw [stands]
      exact emits

/-- Before the first transaction nothing has been warned about. -/
theorem start_accounted (calls : κ → ThrottleCall) (table : WarnTable) (clock : Int) :
    (WarnWorld.start table clock : WarnWorld κ).Accounted calls := by
  constructor
  · exact fun _ _ _ _ _ _ emitted => nomatch emitted
  · intro call
    refine ⟨?_, ?_, ?_, ?_⟩
    · intro now deleted isOpen
      exact absurd isOpen.symm (Option.some_ne_none _)
    · exact fun _ _ _ stands => nomatch stands
    · exact fun _ _ stands => nomatch stands
    · exact fun _ _ stands => nomatch stands
  · exact fun _ _ _ emitted => nomatch emitted
  · exact fun _ _ emitted => nomatch emitted

variable [DecidableEq κ]

/-- Every undisturbed event inside the window keeps the account. -/
theorem warnStep_accounted (same : OneExpiry calls) (event : WarnEvent κ)
    (accounted : world.Accounted calls)
    (met : InWindow calls world event ∧ Undisturbed calls world event) :
    (warnStep calls world event).Accounted calls := by
  cases event with
  | begin call now =>
    obtain ⟨⟨later, early⟩, _⟩ := met
    cases stands : world.calls call with
    | waiting =>
      have began : warnStep calls world (.begin call now) =
          world.turned call world.table now ((calls call).begin now world.table) := by
        rw [warnStep, stands]
        rfl
      rw [began]
      exact accounted.turned same (begin_turned later early)
    | _ =>
      have kept : warnStep calls world (.begin call now) = world := by
        rw [warnStep, stands]
      rw [kept]
      exact accounted
  | next call =>
    obtain ⟨_, asRead, undisturbed⟩ := met
    exact accounted.turned same (next_turned (accounted.fits call) undisturbed asRead)
  | fail call => exact accounted.turned same (fail_turned (accounted.fits call))

/-- In an undisturbed run any two warnings about a token are a day apart, in every state it reaches.

Proof: the account of the warnings holds at the start and every undisturbed event inside the window
keeps it. It says that the row of a token that was warned about is no older than the warning, so a
transaction that reads it warns a day later or not at all, and that a row that is gone will not be
inserted again. -/
theorem warnings_apart (calls : κ → ThrottleCall) (same : OneExpiry calls) (table : WarnTable)
    (clock : Int) (events : List (WarnEvent κ))
    (met : Guarded (warnStep calls)
      (fun world event => InWindow calls world event ∧ Undisturbed calls world event)
      (WarnWorld.start table clock) events) :
    Throughout (warnStep calls) (WarningsApart calls) (WarnWorld.start table clock) events :=
  throughout_of_guarded
    (fun _ event accounted met => warnStep_accounted same event accounted met)
    (fun _ accounted => accounted.apart) _ events (start_accounted calls table clock) met

section Example

/-- Two calls about one token, ten days before it expires. -/
def twoCalls (_ : Bool) : ThrottleCall where
  tokenFp := "fp".toList
  expiresAt := 864000000000
  botKey := none

/-- The token was warned about two days before. -/
def agedTable : WarnTable where
  rows :=
    [{ tokenFp := "fp".toList, lastWarnAt := -172800000000, expiresAt := some 864000000000,
       botKey := none }]
  keyed := List.nodup_singleton _

/-- Both transactions read the aged row before either commits. -/
def racingEvents : List (WarnEvent Bool) :=
  [.begin false 0, .begin true 1000000, .next false, .next true]

/-- Two warnings a second apart, both by transactions that read the aged row. -/
theorem aged_row_warned_twice :
    Guarded (warnStep twoCalls) (InWindow twoCalls) (WarnWorld.start agedTable 0) racingEvents ∧
      ¬ WarningsApart twoCalls
        (run (warnStep twoCalls) (WarnWorld.start agedTable 0) racingEvents) := by
  constructor
  · refine ⟨?_, ?_, trivial, trivial, trivial⟩
    · exact ⟨by decide, by decide⟩
    · exact ⟨by decide, by decide⟩
  · intro apart
    have day := apart false true 0 1000000 (by decide) rfl rfl rfl
    exact absurd day (by decide)

/-- The second transaction reads after the first has committed. -/
def orderedEvents : List (WarnEvent Bool) :=
  [.begin false 0, .next false, .begin true 1000000, .next true]

/-- In that order the second one is suppressed. -/
theorem second_warning_suppressed :
    Throughout (warnStep twoCalls) (WarningsApart twoCalls) (WarnWorld.start agedTable 0)
      orderedEvents := by
  apply warnings_apart twoCalls (fun _ _ _ => rfl) agedTable 0 orderedEvents
  refine ⟨⟨⟨by decide, by decide⟩, trivial⟩, ⟨trivial, ?_, ?_⟩, ⟨⟨by decide, by decide⟩, trivial⟩,
    ⟨trivial, ?_, ?_⟩, trivial⟩
  · intro now deleted read row stands found
    obtain ⟨_, _, rfl⟩ := Throttling.updating.inj stands
    obtain rfl := Option.some.inj found
    rfl
  · exact fun _ listed => nomatch listed
  · exact fun _ _ _ _ stands => nomatch stands
  · exact fun _ listed => nomatch listed

end Example

end Thaum.Webhooks
