import Thaum.Library.GuardedRuns
import Thaum.Library.KeyedRows
import Thaum.Library.PyText

/-!
# Creating the first keys

`ensure_vault_key_rows` reads the slots of key-encryption keys. Where there is none it
inserts a slot and an active data key, commits, and checks that there is exactly one slot
and at most one active data key. The ids of the inserted rows are new, so the inserts of
two runs do not collide, and the retry on `IntegrityError` is not reached.

The read, the commit and the two checks of a run are separate turns. Two runs that both
read before one of them has committed leave two slots behind, with which neither the checks
nor `wire_database_crypto` pass again. Of the two data keys only the later one is active:
`put_keyrecord` deactivates the others before it inserts an active key.
-/

namespace Thaum.Vault

open PyText KeyedRows GuardedRuns

/-- A row of `gemstone_key_kdf`; `Params` and `Wire` are the library's own. -/
structure KdfSlot (Params Wire : Type) where
  keyId : Text
  params : Params
  canaryWrapped : Option Wire
deriving DecidableEq

/-- A row of `gemstone_key_record`. -/
structure KeyRecord (Wire : Type) where
  keyId : Text
  wrapped : Wire
  isActive : Bool
deriving DecidableEq

/-- The key tables, with their primary keys. -/
structure KeyTables (Params Wire : Type) where
  slots : List (KdfSlot Params Wire)
  records : List (KeyRecord Wire)
  slotsKeyed : Distinct KdfSlot.keyId slots
  recordsKeyed : Distinct KeyRecord.keyId records

/-- The key library. What is drawn for a value is passed in. -/
structure KeyLibrary (Params Kek Dek Wire Context : Type) where
  newKdfParams : (drawn : Nat) → Params
  deriveKek : (passphrase : Text) → Params → Kek
  /-- `keyrecord_to_wire(make_kek_check_record(kek), wrap_key_id)`. -/
  canaryWire : (drawn : Nat) → Kek → (wrapKeyId : Text) → Wire
  generateKey : (drawn : Nat) → Dek
  wireWrap : (drawn : Nat) → (wrapKeyId : Text) → Kek → Dek → Wire
  /-- `derive_and_verify_kek` does not raise. -/
  verifiesKek : (passphrase : Text) → Params → Wire → Bool
  /-- `load_keyctx` of the record of a wire text, `none` where it raises or gives none. -/
  loadKeyctx : Kek → (keyId : Text) → Wire → Option Context

/-- The key library as it is documented: a canary verifies under the key it was made of,
and a wrapped data key loads under the key that wraps it. -/
structure KeyLibrary.Lawful {Params Kek Dek Wire Context : Type}
    (library : KeyLibrary Params Kek Dek Wire Context) : Prop where
  verifies : ∀ drawn passphrase params wrapKeyId,
    library.verifiesKek passphrase params
      (library.canaryWire drawn (library.deriveKek passphrase params) wrapKeyId) = true
  loads : ∀ drawn wrapKeyId kek dek keyId,
    (library.loadKeyctx kek keyId (library.wireWrap drawn wrapKeyId kek dek)).isSome = true

section Model

variable {Params Kek Dek Wire Context : Type} (library : KeyLibrary Params Kek Dek Wire Context)
  (passphrase : Text)

/-- `_resolved_vault_passphrase`. -/
def resolvedVaultPassphrase : Option Text → Option Text
  | none => none
  | some given => if strip given = [] then none else some (strip given)

/-- `_single_kek_slot`, `none` where it raises `RuntimeError`. -/
def singleKekSlot (tables : KeyTables Params Wire) : Option (KdfSlot Params Wire) :=
  match tables.slots with
  | [slot] => some slot
  | _ => none

/-- `active_dek_row`; the outer `none` is where it raises `RuntimeError`. -/
def activeDekRow (tables : KeyTables Params Wire) : Option (Option (KeyRecord Wire)) :=
  match tables.records.filter KeyRecord.isActive with
  | [] => some none
  | [record] => some (some record)
  | _ => none

/-- `wire_database_crypto` of a worker that is not wired: the id of the active key and the
context, `none` where it raises. -/
def wireContext (tables : KeyTables Params Wire) : Option (Text × Context) :=
  match singleKekSlot tables with
  | none => none
  | some slot =>
    match slot.canaryWrapped with
    | none => none
    | some canary =>
      if library.verifiesKek passphrase slot.params canary then
        match activeDekRow tables with
        | some (some active) =>
          (library.loadKeyctx (library.deriveKek passphrase slot.params) active.keyId
            active.wrapped).map fun context => (active.keyId, context)
        | _ => none
      else none

/-- What a run draws for the rows it inserts: their ids, and the library's draws. -/
structure KeyDraw where
  wrapKeyId : Text
  dekKeyId : Text
  params : Nat
  canary : Nat
  dek : Nat
  wrap : Nat

/-- The slot that `_insert_initial_keys` inserts. -/
def initialSlot (draw : KeyDraw) : KdfSlot Params Wire where
  keyId := draw.wrapKeyId
  params := library.newKdfParams draw.params
  canaryWrapped := some (library.canaryWire draw.canary
    (library.deriveKek passphrase (library.newKdfParams draw.params)) draw.wrapKeyId)

/-- The data key that it inserts. -/
def initialRecord (draw : KeyDraw) : KeyRecord Wire where
  keyId := draw.dekKeyId
  wrapped := library.wireWrap draw.wrap draw.wrapKeyId
    (library.deriveKek passphrase (library.newKdfParams draw.params))
    (library.generateKey draw.dek)
  isActive := true

/-- What `put_keyrecord(is_active=True)` does to the records that are there. -/
def KeyRecord.deactivated (record : KeyRecord Wire) : KeyRecord Wire :=
  { record with isActive := false }

/-- Deactivating the records leaves their keys distinct. -/
theorem deactivated_distinct {records : List (KeyRecord Wire)}
    (distinct : Distinct KeyRecord.keyId records) :
    Distinct KeyRecord.keyId (records.map KeyRecord.deactivated) := by
  rw [Distinct, List.map_map]
  exact distinct

/-- An id that is new among the records is new among the deactivated ones. -/
theorem deactivated_fresh {records : List (KeyRecord Wire)} {keyId : Text}
    (fresh : get KeyRecord.keyId keyId records = none) :
    get KeyRecord.keyId keyId (records.map KeyRecord.deactivated) = none := by
  apply get_none_iff.mpr
  intro record stored
  obtain ⟨before, storedBefore, rfl⟩ := List.mem_map.mp stored
  exact get_none_iff.mp fresh before storedBefore

/-- `_insert_initial_keys` and the commit, `none` where a primary key is taken. The new data
key is the only active one: `put_keyrecord` deactivates the others first. -/
def insertInitialKeys (draw : KeyDraw) (tables : KeyTables Params Wire) :
    Option (KeyTables Params Wire) :=
  if slotFresh : get KdfSlot.keyId draw.wrapKeyId tables.slots = none then
    if recordFresh : get KeyRecord.keyId draw.dekKeyId tables.records = none then
      some {
        slots := tables.slots ++ [initialSlot library passphrase draw]
        records := tables.records.map KeyRecord.deactivated ++
          [initialRecord library passphrase draw]
        slotsKeyed := distinct_append tables.slotsKeyed slotFresh
        recordsKeyed := distinct_append (deactivated_distinct tables.recordsKeyed)
          (deactivated_fresh recordFresh) }
    else none
  else none

/-- Where a run of `ensure_vault_key_rows` stands: before the read of an attempt, before
the commit of what it inserts, before one of the checks, or at its end, returned or raised. -/
inductive EnsureRun where
  | reading : (attempt : Nat) → EnsureRun
  | inserting : (attempt : Nat) → EnsureRun
  | checkingSlot : EnsureRun
  | checkingRecord : EnsureRun
  | returned : EnsureRun
  | raised : EnsureRun
deriving DecidableEq

/-- The run has returned or raised. -/
def EnsureRun.ended : EnsureRun → Bool
  | .returned | .raised => true
  | _ => false

/-- `attempt == 3`. -/
def lastAttempt : Nat := 3

/-- The next turn of a run, given what it draws in each attempt. -/
def EnsureRun.advance (draws : Nat → KeyDraw) (tables : KeyTables Params Wire) :
    EnsureRun → KeyTables Params Wire × EnsureRun
  | .reading attempt =>
    (tables, if tables.slots = [] then .inserting attempt else .checkingSlot)
  | .inserting attempt =>
    match insertInitialKeys library passphrase (draws attempt) tables with
    | some after => (after, .checkingSlot)
    | none => (tables, if attempt = lastAttempt then .raised else .reading (attempt + 1))
  | .checkingSlot =>
    (tables, if (singleKekSlot tables).isSome then .checkingRecord else .raised)
  | .checkingRecord =>
    (tables,
      match activeDekRow tables with
      | some (some _) => .returned
      | _ => .raised)
  | .returned => (tables, .returned)
  | .raised => (tables, .raised)

/-- The key tables and the runs. -/
structure BootWorld (ι Params Wire : Type) where
  tables : KeyTables Params Wire
  runs : ι → EnsureRun

variable {ι : Type} [DecidableEq ι] (draws : ι → Nat → KeyDraw)

/-- One run takes its next turn. -/
def bootStep (world : BootWorld ι Params Wire) (turn : ι) : BootWorld ι Params Wire :=
  let after := (world.runs turn).advance library passphrase (draws turn) world.tables
  { tables := after.1
    runs := fun other => if other = turn then after.2 else world.runs other }

/-- `ensure_vault_key_rows` on an empty database; without a passphrase it returns. -/
def bootStart (setting : Option Text) : BootWorld ι Params Wire where
  tables :=
    { slots := [], records := [], slotsKeyed := List.nodup_nil, recordsKeyed := List.nodup_nil }
  runs _ := if resolvedVaultPassphrase setting = none then .returned else .reading 0

/-- `new_key_id` never repeats. -/
structure NewKeyIds (draws : ι → Nat → KeyDraw) : Prop where
  wraps : ∀ first second attempt later,
    (draws first attempt).wrapKeyId = (draws second later).wrapKeyId → first = second
  deks : ∀ first second attempt later,
    (draws first attempt).dekKeyId = (draws second later).dekKeyId → first = second

/-- There is one slot and one active data key, and a worker can be wired. -/
structure Bootstrapped (tables : KeyTables Params Wire) : Prop where
  slot : ∃ slot, tables.slots = [slot]
  record : ∃ record, tables.records.filter KeyRecord.isActive = [record]
  wires : (wireContext library passphrase tables).isSome = true

/-- The run that reads first commits before another one reads. -/
def FirstCommitsAlone (schedule : List ι) : Prop :=
  ∃ first rest, schedule = first :: first :: rest

end Model

variable {Params Kek Dek Wire Context : Type} {library : KeyLibrary Params Kek Dek Wire Context}
  {passphrase : Text} {ι : Type} {draws : ι → Nat → KeyDraw} {tables : KeyTables Params Wire}
  {world : BootWorld ι Params Wire} {draw : KeyDraw}

/-- The tables hold what one run inserts. -/
def OneInserted (library : KeyLibrary Params Kek Dek Wire Context) (passphrase : Text)
    (tables : KeyTables Params Wire) : Prop :=
  ∃ draw, tables.slots = [initialSlot library passphrase draw] ∧
    tables.records = [initialRecord library passphrase draw]

/-- What one run inserts is enough: one slot, whose canary verifies, and one active data key, which
loads under the key of the slot. -/
theorem OneInserted.bootstrapped (lawful : library.Lawful)
    (inserted : OneInserted library passphrase tables) :
    Bootstrapped library passphrase tables := by
  obtain ⟨draw, slots, records⟩ := inserted
  have active : tables.records.filter KeyRecord.isActive =
      [initialRecord library passphrase draw] := by
    rw [records]
    rfl
  have one : singleKekSlot tables = some (initialSlot library passphrase draw) := by
    rw [singleKekSlot, slots]
  have found : activeDekRow tables = some (some (initialRecord library passphrase draw)) := by
    rw [activeDekRow, active]
  refine ⟨⟨_, slots⟩, ⟨_, active⟩, ?_⟩
  have verifies := lawful.verifies draw.canary passphrase (library.newKdfParams draw.params)
    draw.wrapKeyId
  have loads := lawful.loads draw.wrap draw.wrapKeyId
    (library.deriveKek passphrase (library.newKdfParams draw.params))
    (library.generateKey draw.dek) draw.dekKeyId
  rw [wireContext, one, found]
  simp only [initialSlot, initialRecord, verifies, if_true, Option.isSome_map]
  exact loads

/-- An insert adds a row to each table, and leaves no other data key active. -/
theorem insert_adds {after : KeyTables Params Wire}
    (inserted : insertInitialKeys library passphrase draw tables = some after) :
    after.slots = tables.slots ++ [initialSlot library passphrase draw] ∧
      after.records = tables.records.map KeyRecord.deactivated ++
        [initialRecord library passphrase draw] := by
  unfold insertInitialKeys at inserted
  split at inserted
  · split at inserted
    · rw [← Option.some.inj inserted]
      exact ⟨rfl, rfl⟩
    · simp at inserted
  · simp at inserted

variable (library passphrase) in
/-- Rows under new ids are inserted, so `IntegrityError` is not raised by two runs that draw their
own. -/
theorem insert_fresh (slotFresh : get KdfSlot.keyId draw.wrapKeyId tables.slots = none)
    (recordFresh : get KeyRecord.keyId draw.dekKeyId tables.records = none) :
    ∃ after, insertInitialKeys library passphrase draw tables = some after := by
  rw [insertInitialKeys, dif_pos slotFresh, dif_pos recordFresh]
  exact ⟨_, rfl⟩

/-- A run that is not about to insert. -/
def EnsureRun.Passive : EnsureRun → Prop
  | .inserting _ => False
  | _ => True

/-- The run has committed its rows, or found those of another. -/
def EnsureRun.Past : EnsureRun → Prop
  | .reading _ | .inserting _ => False
  | _ => True

/-- The run is in its first attempt. -/
def EnsureRun.First : EnsureRun → Prop
  | .reading attempt | .inserting attempt => attempt = 0
  | _ => True

/-- Every run is in its first attempt, and every row is one that a run has inserted. -/
structure BootWorld.Tracked (draws : ι → Nat → KeyDraw) (world : BootWorld ι Params Wire) :
    Prop where
  first : ∀ other, (world.runs other).First
  slots : ∀ slot ∈ world.tables.slots, ∃ other, (world.runs other).Past ∧
    slot.keyId = (draws other 0).wrapKeyId
  records : ∀ record ∈ world.tables.records, ∃ other, (world.runs other).Past ∧
    record.keyId = (draws other 0).dekKeyId

/-- The run is about to insert its slot, or the slot is stored. -/
def Inserts (draws : ι → Nat → KeyDraw) (world : BootWorld ι Params Wire) (own : ι) : Prop :=
  world.runs own = .inserting 0 ∨
    ∃ slot ∈ world.tables.slots, slot.keyId = (draws own 0).wrapKeyId

/-- What a turn does while every run is in its first attempt: a run that is past the insert
stays so, and a run that was about to insert has its slot stored. -/
structure Turned (draws : ι → Nat → KeyDraw) (world : BootWorld ι Params Wire) (turn : ι)
    (after : KeyTables Params Wire × EnsureRun) : Prop where
  first : after.2.First
  past : (world.runs turn).Past → after.2.Past
  slots : ∀ slot ∈ after.1.slots, slot ∈ world.tables.slots ∨
    after.2.Past ∧ slot.keyId = (draws turn 0).wrapKeyId
  records : ∀ record ∈ after.1.records,
    (∃ before ∈ world.tables.records, before.keyId = record.keyId) ∨
    after.2.Past ∧ record.keyId = (draws turn 0).dekKeyId
  keeps : ∀ slot ∈ world.tables.slots, slot ∈ after.1.slots
  inserts : world.runs turn = .inserting 0 →
    ∃ slot ∈ after.1.slots, slot.keyId = (draws turn 0).wrapKeyId

/-- A turn that leaves the tables accounts for itself, as long as the run was not about to
insert. -/
theorem Turned.of_kept {turn : ι} {next : EnsureRun} (first : next.First)
    (past : (world.runs turn).Past → next.Past) (other : world.runs turn ≠ .inserting 0) :
    Turned draws world turn (world.tables, next) :=
  ⟨first, past, fun _ => Or.inl, fun record stored => Or.inl ⟨record, stored, rfl⟩, fun _ => id,
    fun same => absurd same other⟩

variable (library passphrase) in
/-- A run that is past the insert leaves the tables and stays past it: it only checks or has
ended. -/
theorem past_advance {ensure : EnsureRun} (past : ensure.Past) (draws : Nat → KeyDraw) :
    ∃ next : EnsureRun, ensure.advance library passphrase draws tables = (tables, next) ∧
      next.Past := by
  cases ensure with
  | reading attempt => exact past.elim
  | inserting attempt => exact past.elim
  | checkingSlot =>
    refine ⟨_, rfl, ?_⟩
    split <;> trivial
  | checkingRecord =>
    refine ⟨_, rfl, ?_⟩
    split <;> trivial
  | returned => exact ⟨_, rfl, trivial⟩
  | raised => exact ⟨_, rfl, trivial⟩

/-- A run that is past the insert makes no second attempt. -/
theorem EnsureRun.Past.first {ensure : EnsureRun} (past : ensure.Past) : ensure.First := by
  cases ensure with
  | reading attempt => exact past.elim
  | inserting attempt => exact past.elim
  | _ => trivial

/-- A run that is past the insert is not about to insert. -/
theorem EnsureRun.Past.passive {ensure : EnsureRun} (past : ensure.Past) : ensure.Passive := by
  cases ensure with
  | reading attempt => exact past.elim
  | inserting attempt => exact past.elim
  | _ => trivial

variable (library passphrase) in
/-- Once a slot is stored a run that is not about to insert leaves the tables, and never comes to
insert. -/
theorem passive_advance {ensure : EnsureRun} (stored : tables.slots ≠ [])
    (passive : ensure.Passive) (draws : Nat → KeyDraw) :
    (ensure.advance library passphrase draws tables).1 = tables ∧
      (ensure.advance library passphrase draws tables).2.Passive := by
  by_cases past : ensure.Past
  · obtain ⟨next, advanced, still⟩ := past_advance library passphrase past draws
    rw [advanced]
    exact ⟨rfl, still.passive⟩
  · cases ensure with
    | reading attempt =>
      rw [EnsureRun.advance, if_neg stored]
      exact ⟨rfl, trivial⟩
    | inserting attempt => exact passive.elim
    | _ => exact absurd trivial past

variable (library passphrase) in
/-- The turn of a run that is past the insert. -/
theorem past_turned {turn : ι} (past : (world.runs turn).Past) : Turned draws world turn
    ((world.runs turn).advance library passphrase (draws turn) world.tables) := by
  obtain ⟨next, advanced, still⟩ := past_advance library passphrase past (draws turn)
  rw [advanced]
  refine .of_kept still.first (fun _ => still) ?_
  intro inserts
  rw [inserts] at past
  exact past

/-- The ids of a run that is not past the insert are new, as every stored row has the ids of a run
that is. -/
theorem BootWorld.Tracked.ids_fresh (fresh : NewKeyIds draws) (tracked : world.Tracked draws)
    {turn : ι} (notPast : ¬ (world.runs turn).Past) :
    get KdfSlot.keyId (draws turn 0).wrapKeyId world.tables.slots = none ∧
      get KeyRecord.keyId (draws turn 0).dekKeyId world.tables.records = none := by
  constructor
  · apply get_none_iff.mpr
    intro slot stored same
    obtain ⟨other, past, keyed⟩ := tracked.slots slot stored
    obtain rfl := fresh.wraps other turn 0 0 (keyed.symm.trans same)
    exact notPast past
  · apply get_none_iff.mpr
    intro record stored same
    obtain ⟨other, past, keyed⟩ := tracked.records record stored
    obtain rfl := fresh.deks other turn 0 0 (keyed.symm.trans same)
    exact notPast past

variable (library passphrase) in
/-- The turn of a run that inserts: its ids are new, so both rows are stored and it goes on to the
checks. -/
theorem inserting_turned (fresh : NewKeyIds draws) (tracked : world.Tracked draws) {turn : ι}
    (notPast : ¬ (world.runs turn).Past) : Turned draws world turn
      ((EnsureRun.inserting 0).advance library passphrase (draws turn) world.tables) := by
  obtain ⟨slotFresh, recordFresh⟩ := tracked.ids_fresh fresh notPast
  obtain ⟨after, inserted⟩ := insert_fresh library passphrase slotFresh recordFresh
  obtain ⟨slots, records⟩ := insert_adds inserted
  rw [EnsureRun.advance, inserted]
  dsimp only
  constructor
  · trivial
  · exact fun _ => trivial
  · intro slot stored
    rw [slots, List.mem_append, List.mem_singleton] at stored
    exact stored.imp_right fun new => ⟨trivial, by rw [new, initialSlot]⟩
  · intro record stored
    rw [records, List.mem_append, List.mem_singleton] at stored
    rcases stored with deactivated | new
    · obtain ⟨before, storedBefore, rfl⟩ := List.mem_map.mp deactivated
      exact Or.inl ⟨before, storedBefore, rfl⟩
    · exact Or.inr ⟨trivial, by rw [new, initialRecord]⟩
  · intro slot stored
    rw [slots]
    exact List.mem_append_left _ stored
  · intro _
    refine ⟨initialSlot library passphrase (draws turn 0), ?_, rfl⟩
    rw [slots]
    exact List.mem_append_right _ List.mem_cons_self

variable (library passphrase) in
/-- The step lemma: what the turn of a run does that stands before, at or past the insert. -/
theorem turn_tracked (fresh : NewKeyIds draws) (tracked : world.Tracked draws) (turn : ι) :
    Turned draws world turn
      ((world.runs turn).advance library passphrase (draws turn) world.tables) := by
  by_cases past : (world.runs turn).Past
  · exact past_turned library passphrase past
  · have first := tracked.first turn
    cases stands : world.runs turn with
    | reading attempt =>
      rw [stands] at first
      obtain rfl : attempt = 0 := first
      rw [EnsureRun.advance]
      apply Turned.of_kept
      · split
        · exact rfl
        · trivial
      · exact fun isPast => absurd isPast past
      · rw [stands]
        exact fun same => nomatch same
    | inserting attempt =>
      rw [stands] at first
      obtain rfl : attempt = 0 := first
      exact inserting_turned library passphrase fresh tracked past
    | _ =>
      rw [stands] at past
      exact absurd trivial past

/-- Two runs that both insert leave two slots, since their ids differ and no slot is ever
deleted. -/
theorem two_inserts (fresh : NewKeyIds draws) {first second : ι} (different : first ≠ second)
    (one : Inserts draws world first) (other : Inserts draws world second)
    (allEnded : ∀ own, (world.runs own).ended = true) :
    ¬ ∃ slot, world.tables.slots = [slot] := by
  have stored (own : ι) (inserts : Inserts draws world own) :
      ∃ slot ∈ world.tables.slots, slot.keyId = (draws own 0).wrapKeyId := by
    rcases inserts with waits | stored
    · have isEnded := allEnded own
      rw [waits] at isEnded
      exact nomatch isEnded
    · exact stored
  rintro ⟨slot, only⟩
  obtain ⟨slotOne, storedOne, keyedOne⟩ := stored first one
  obtain ⟨slotOther, storedOther, keyedOther⟩ := stored second other
  rw [only, List.mem_singleton] at storedOne storedOther
  apply different
  apply fresh.wraps first second 0 0
  rw [← keyedOne, ← keyedOther, storedOne, storedOther]

/-- With a passphrase every run starts before its first read. -/
theorem start_runs {setting : Option Text}
    (configured : resolvedVaultPassphrase setting = some passphrase) (own : ι) :
    (bootStart setting : BootWorld ι Params Wire).runs own = .reading 0 := by
  rw [bootStart]
  exact if_neg (by rw [configured]; exact Option.some_ne_none passphrase)

/-- On an empty database no row is to be accounted for. -/
theorem start_tracked {setting : Option Text}
    (configured : resolvedVaultPassphrase setting = some passphrase) :
    (bootStart setting : BootWorld ι Params Wire).Tracked draws := by
  constructor
  · intro other
    rw [start_runs configured]
    exact rfl
  · exact fun _ stored => nomatch stored
  · exact fun _ stored => nomatch stored

variable [DecidableEq ι]

/-- The tables after a turn are those that the run leaves. -/
theorem bootStep_tables (world : BootWorld ι Params Wire) (turn : ι) :
    (bootStep library passphrase draws world turn).tables =
      ((world.runs turn).advance library passphrase (draws turn) world.tables).1 := rfl

/-- The run whose turn it is stands where the turn has brought it. -/
theorem bootStep_own (world : BootWorld ι Params Wire) (turn : ι) :
    (bootStep library passphrase draws world turn).runs turn =
      ((world.runs turn).advance library passphrase (draws turn) world.tables).2 := if_pos rfl

/-- The other runs stay where they stand. -/
theorem bootStep_other {turn other : ι} (different : other ≠ turn) :
    (bootStep library passphrase draws world turn).runs other = world.runs other :=
  if_neg different

/-- While no run is about to insert, what is stored stays, over any further turns. -/
theorem passive_run (turns : List ι) (stored : world.tables.slots ≠ [])
    (passive : ∀ other, (world.runs other).Passive) :
    (run (bootStep library passphrase draws) world turns).tables = world.tables := by
  induction turns generalizing world with
  | nil => rfl
  | cons turn rest inductionHypothesis =>
    have advanced := passive_advance library passphrase stored (passive turn) (draws turn)
    have kept : (bootStep library passphrase draws world turn).tables = world.tables :=
      advanced.1
    rw [run_cons, ← kept]
    apply inductionHypothesis
    · rwa [kept]
    · intro other
      by_cases own : other = turn
      · rw [own, bootStep_own]
        exact advanced.2
      · rw [bootStep_other own]
        exact passive other

variable (library passphrase) in
/-- A turn keeps the account of the rows. -/
theorem bootStep_tracked (fresh : NewKeyIds draws) (tracked : world.Tracked draws) (turn : ι) :
    (bootStep library passphrase draws world turn).Tracked draws := by
  have turned := turn_tracked library passphrase fresh tracked turn
  have past (other : ι) (isPast : (world.runs other).Past) :
      ((bootStep library passphrase draws world turn).runs other).Past := by
    by_cases own : other = turn
    · subst own
      rw [bootStep_own]
      exact turned.past isPast
    · rwa [bootStep_other own]
  constructor
  · intro other
    by_cases own : other = turn
    · rw [own, bootStep_own]
      exact turned.first
    · rw [bootStep_other own]
      exact tracked.first other
  · intro slot stored
    rcases turned.slots slot stored with before | ⟨isPast, keyed⟩
    · obtain ⟨other, isPast, keyed⟩ := tracked.slots slot before
      exact ⟨other, past other isPast, keyed⟩
    · refine ⟨turn, ?_, keyed⟩
      rw [bootStep_own]
      exact isPast
  · intro record stored
    rcases turned.records record stored with ⟨before, storedBefore, same⟩ | ⟨isPast, keyed⟩
    · obtain ⟨other, isPast, keyed⟩ := tracked.records before storedBefore
      exact ⟨other, past other isPast, same.symm.trans keyed⟩
    · refine ⟨turn, ?_, keyed⟩
      rw [bootStep_own]
      exact isPast

variable (library passphrase) in
/-- A run that is to insert its slot inserts it, whoever takes turns in between. -/
theorem bootStep_inserts (fresh : NewKeyIds draws) (tracked : world.Tracked draws) (turn own : ι)
    (inserts : Inserts draws world own) :
    Inserts draws (bootStep library passphrase draws world turn) own := by
  have turned := turn_tracked library passphrase fresh tracked turn
  rcases inserts with waits | ⟨slot, stored, keyed⟩
  · by_cases same : own = turn
    · subst same
      exact Or.inr (turned.inserts waits)
    · left
      rwa [bootStep_other same]
  · exact Or.inr ⟨slot, turned.keeps slot stored, keyed⟩

variable (library passphrase) in
/-- So it does over a run of turns. -/
theorem run_inserts (fresh : NewKeyIds draws) (turns : List ι) (tracked : world.Tracked draws)
    (own : ι) (inserts : Inserts draws world own) :
    Inserts draws (run (bootStep library passphrase draws) world turns) own := by
  induction turns generalizing world with
  | nil => exact inserts
  | cons turn rest inductionHypothesis =>
    apply inductionHypothesis (bootStep_tracked library passphrase fresh tracked turn)
    exact bootStep_inserts library passphrase fresh tracked turn own inserts

variable (library passphrase) in
/-- While nothing is stored, a run that reads is about to insert. -/
theorem first_read (draws : ι → Nat → KeyDraw) {turn : ι} (reads : world.runs turn = .reading 0)
    (empty : world.tables.slots = []) :
    (bootStep library passphrase draws world turn).runs turn = .inserting 0 ∧
      (bootStep library passphrase draws world turn).tables = world.tables := by
  rw [bootStep_own, bootStep_tables, reads, EnsureRun.advance, if_pos empty]
  exact ⟨rfl, rfl⟩

variable (library passphrase) in
/-- The first insert stores what one run inserts. -/
theorem first_insert (draws : ι → Nat → KeyDraw) {turn : ι}
    (waits : world.runs turn = .inserting 0) (slots : world.tables.slots = [])
    (records : world.tables.records = []) :
    (bootStep library passphrase draws world turn).runs turn = .checkingSlot ∧
      OneInserted library passphrase (bootStep library passphrase draws world turn).tables := by
  have slotFresh : get KdfSlot.keyId (draws turn 0).wrapKeyId world.tables.slots = none := by
    rw [slots]
    rfl
  have recordFresh : get KeyRecord.keyId (draws turn 0).dekKeyId world.tables.records =
      none := by
    rw [records]
    rfl
  obtain ⟨after, inserted⟩ := insert_fresh library passphrase slotFresh recordFresh
  obtain ⟨afterSlots, afterRecords⟩ := insert_adds inserted
  rw [bootStep_own, bootStep_tables, waits, EnsureRun.advance, inserted]
  refine ⟨rfl, draws turn 0, ?_, ?_⟩
  · rw [afterSlots, slots, List.nil_append]
  · rw [afterRecords, records, List.map_nil, List.nil_append]

/-- When all runs have ended the keys are as they should be exactly if the run that read first
committed before another one read.

Proof: the run that reads first finds nothing and is about to insert. If it commits before another
one reads, its rows are stored and every other run finds them, so the tables stay as one insert left
them. If another reads before, both are to insert, both slots are stored in the end, and two slots
are one too many. -/
theorem bootstrapped_iff [Nonempty ι] (library : KeyLibrary Params Kek Dek Wire Context)
    (lawful : library.Lawful) (setting : Option Text) (passphrase : Text)
    (configured : resolvedVaultPassphrase setting = some passphrase) (draws : ι → Nat → KeyDraw)
    (fresh : NewKeyIds draws) (schedule : List ι)
    (allEnded : ∀ own, ((run (bootStep library passphrase draws) (bootStart setting)
      schedule).runs own).ended = true) :
    Bootstrapped library passphrase
        (run (bootStep library passphrase draws) (bootStart setting) schedule).tables ↔
      FirstCommitsAlone schedule := by
  have reads := @start_runs Params Wire passphrase ι setting configured
  have tracked := @start_tracked Params Wire passphrase ι draws setting configured
  cases schedule with
  | nil =>
    obtain ⟨own⟩ := ‹Nonempty ι›
    have isEnded := allEnded own
    rw [run_nil, reads own] at isEnded
    exact nomatch isEnded
  | cons first rest =>
    obtain ⟨waits, kept⟩ := first_read library passphrase draws (reads first) rfl
    have firstTracked := bootStep_tracked library passphrase fresh tracked first
    cases rest with
    | nil =>
      have isEnded := allEnded first
      rw [run_cons, run_nil, waits] at isEnded
      exact nomatch isEnded
    | cons second rest =>
      by_cases alone : second = first
      · subst alone
        apply iff_of_true
        · -- the rest of the runs find the slot of the first
          have nothing : (bootStep library passphrase draws (bootStart setting) second).tables =
              (bootStart setting : BootWorld ι Params Wire).tables := kept
          obtain ⟨checks, inserted⟩ := first_insert library passphrase draws waits
            (congrArg KeyTables.slots nothing) (congrArg KeyTables.records nothing)
          have passive : ∀ other, ((bootStep library passphrase draws (bootStep library passphrase
              draws (bootStart setting) second) second).runs other).Passive := by
            intro other
            by_cases own : other = second
            · rw [own, checks]
              trivial
            · rw [bootStep_other own, bootStep_other own, reads other]
              trivial
          have stored := inserted
          obtain ⟨draw, slots, _⟩ := stored
          rw [run_cons, run_cons, passive_run rest (by rw [slots]; simp) passive]
          exact inserted.bootstrapped lawful
        · exact ⟨second, rest, rfl⟩
      · apply iff_of_false
        · intro bootstrapped
          -- the second run has read before the first has committed
          have readsToo : (bootStep library passphrase draws (bootStart setting)
              first).runs second = .reading 0 := by
            rw [bootStep_other alone]
            exact reads second
          have empty : (bootStep library passphrase draws (bootStart setting)
              first).tables.slots = [] := by
            rw [kept]
            rfl
          obtain ⟨waitsToo, _⟩ := first_read library passphrase draws readsToo empty
          have secondTracked := bootStep_tracked library passphrase fresh firstTracked second
          have one := run_inserts library passphrase fresh rest secondTracked first
            (bootStep_inserts library passphrase fresh firstTracked second first
              (Or.inl waits))
          have other := run_inserts library passphrase fresh rest secondTracked second
            (Or.inl waitsToo)
          exact two_inserts fresh (Ne.symm alone) one other allEnded bootstrapped.slot
        · rintro ⟨own, later, same⟩
          obtain ⟨rfl, same⟩ := List.cons.inj same
          exact alone (List.cons.inj same).1

section Example

/-- A key library whose keys are their passphrase. -/
def plainLibrary : KeyLibrary Unit Text Nat (Text × Text) Text where
  newKdfParams _ := ()
  deriveKek passphrase _ := passphrase
  canaryWire _ kek wrapKeyId := (wrapKeyId, kek)
  generateKey drawn := drawn
  wireWrap _ wrapKeyId kek _ := (wrapKeyId, kek)
  verifiesKek passphrase _ canary := decide (canary.2 = passphrase)
  loadKeyctx kek _ wrapped := if wrapped.2 = kek then some kek else none

/-- Its canaries verify under the passphrase they were made of, and its data keys load. -/
theorem plainLibrary_lawful : plainLibrary.Lawful where
  verifies _ _ _ _ := by simp [plainLibrary]
  loads _ _ _ _ _ := by simp [plainLibrary]

/-- The ids that two runs draw. -/
def twoDraws (second : Bool) (attempt : Nat) : KeyDraw where
  wrapKeyId := if second then "kek-2".toList else "kek-1".toList
  dekKeyId := if second then "dek-2".toList else "dek-1".toList
  params := attempt
  canary := attempt
  dek := attempt
  wrap := attempt

/-- The two runs draw different ids, in every attempt. -/
theorem twoDraws_new : NewKeyIds twoDraws where
  wraps := by
    intro first second _ _ same
    have apart : "kek-1".toList ≠ "kek-2".toList := by decide
    cases first <;> cases second
    · rfl
    · exact absurd same apart
    · exact absurd same.symm apart
    · rfl
  deks := by
    intro first second _ _ same
    have apart : "dek-1".toList ≠ "dek-2".toList := by decide
    cases first <;> cases second
    · rfl
    · exact absurd same apart
    · exact absurd same.symm apart
    · rfl

/-- The keys after two runs with a passphrase. -/
def twoRuns (schedule : List Bool) : BootWorld Bool Unit (Text × Text) :=
  run (bootStep plainLibrary "hush".toList twoDraws) (bootStart (some "hush".toList)) schedule

/-- Both runs read before either commits: two slots are left, of which no worker can be
wired, although only the second data key is active. -/
theorem two_leaders_two_slots :
    (∀ own ∈ [false, true], ((twoRuns [false, true, false, true, false, true]).runs own).ended =
      true) ∧
    (twoRuns [false, true, false, true, false, true]).tables.slots.length = 2 ∧
    ((twoRuns [false, true, false, true, false, true]).tables.records.filter
      KeyRecord.isActive).length = 1 ∧
    wireContext plainLibrary "hush".toList
      (twoRuns [false, true, false, true, false, true]).tables = none := by
  refine ⟨?_, rfl, rfl, rfl⟩
  decide

/-- The second run reads after the first has committed, and finds its rows. -/
theorem second_leader_later :
    Bootstrapped plainLibrary "hush".toList
      (twoRuns [false, false, true, false, true, false, true]).tables := by
  apply (bootstrapped_iff plainLibrary plainLibrary_lawful (some "hush".toList) "hush".toList rfl
    twoDraws twoDraws_new [false, false, true, false, true, false, true] ?_).mpr
  · exact ⟨false, _, rfl⟩
  · intro own
    cases own <;> rfl

end Example

end Thaum.Vault
