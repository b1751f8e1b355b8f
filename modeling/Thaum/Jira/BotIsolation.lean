import Thaum.Jira.StatusWebhook
import Thaum.Library.GuardedRuns

/-!
# Bots in one alert map

All bots keep their rows in one table; every operation and every lookup names its bot.
A Jira id, though, is unique in the whole table. So the operations of other bots change
nothing for a bot, as long as no Create of the bot brings a Jira id that another bot's
row has by then; such a Create is refused.

Keys are trimmed on the way in, so bots are told apart by their trimmed keys. A Create
webhook reads in one transaction and applies in another, and any operations may come in
between.
-/

namespace Thaum.Jira

open PyText KeyedRows GuardedRuns

universe u

/-- The operations on the map; each bot numbers its deliveries. -/
inductive MapOp (ι : Type u) where
  | upsert (bot : ι) (commits : Bool) (alertAlias shortId roomId senderName : Text) : MapOp ι
  | createRead (bot : ι) (delivery : Nat) : MapOp ι
  | createApply (bot : ι) (delivery : Nat) (commits : Bool) (jiraAlertId alertAlias : Text) :
    MapOp ι

/-- The bot of an operation. -/
def MapOp.bot {ι : Type u} : MapOp ι → ι
  | .upsert bot _ _ _ _ _ | .createRead bot _ | .createApply bot _ _ _ _ => bot

/-- The table, and the one that the first transaction of each delivery has seen. -/
structure MapRun (ι : Type u) where
  map : AlertMap
  seen : ι → Nat → AlertMap

/-- No row is stored and no delivery has been read. -/
def MapRun.start {ι : Type u} : MapRun ι := { map := .empty, seen := fun _ _ => .empty }

variable {ι : Type u} [DecidableEq ι]

/-- An operation of a bot; one that raises leaves the table as it is. -/
def mapStep (bots : ι → Bot) (state : MapRun ι) : MapOp ι → MapRun ι
  | .upsert bot commits alertAlias shortId roomId senderName =>
    { state with
      map := (upsertPendingRow commits (bots bot).botKey alertAlias shortId roomId senderName
        state.map).getD state.map }
  | .createRead bot delivery =>
    { state with
      seen := fun other number =>
        if other = bot ∧ number = delivery then state.map else state.seen other number }
  | .createApply bot delivery commits jiraAlertId alertAlias =>
    match handleCreate (bots bot) commits jiraAlertId alertAlias (state.seen bot delivery)
        state.map with
    | .stored map => { state with map }
    | _ => state

/-- The operations of one bot. -/
def opsOf (bot : ι) (ops : List (MapOp ι)) : List (MapOp ι) :=
  ops.filter fun op => decide (op.bot = bot)

/-- The rows of a bot. -/
def ownRows (bot : Bot) (map : AlertMap) : List JiraAlertMap :=
  map.rows.filter fun row => row.botKey == strip bot.botKey

/-- A bot has the same rows in both tables and gets the same answers, whatever order the
database returns rows in; a lookup by a short id that several rows have may get any of
them. -/
structure SameFor (bot : Bot) (map other : AlertMap) : Prop where
  rows : ownRows bot map = ownRows bot other
  byJiraAlertId : ∀ scan otherScan jiraAlertId,
    mappingForJiraAlertId scan jiraAlertId bot.botKey map =
      mappingForJiraAlertId otherScan jiraAlertId bot.botKey other
  byAlias : ∀ alertAlias,
    mappingForAlias alertAlias bot.botKey map = mappingForAlias alertAlias bot.botKey other
  byShortId : ∀ shortId answer,
    (∃ scan, mappingForShortId scan shortId bot.botKey map = answer) ↔
      ∃ scan, mappingForShortId scan shortId bot.botKey other = answer

/-- Where a Create of the bot links a stored row and no other row of the bot has its Jira
id, no row of another bot has it. -/
def Unhindered (bots : ι → Bot) (bot : ι) (state : MapRun ι) : MapOp ι → Prop
  | .createApply other _ true jiraAlertId alertAlias =>
    other = bot → strip jiraAlertId ≠ [] → strip (bots bot).botKey ≠ [] →
      strip alertAlias ≠ [] →
      ∀ row, state.map.row? (strip (bots bot).botKey) (strip alertAlias) = some row →
        Free JiraAlertMap.key JiraAlertMap.jiraAlertId
          { row with jiraAlertId := some (strip jiraAlertId) } (ownRows (bots bot) state.map) →
        ∀ second ∈ state.map.rows, second.jiraAlertId = some (strip jiraAlertId) →
          second.botKey = strip (bots bot).botKey
  | _ => True

variable {bots : ι → Bot} {bot : ι} {owner : Bot} {map other : AlertMap}
  {commits : Bool} {jiraAlertId alertAlias shortId roomId senderName : Text}

/-- The rows of a bot are the stored ones with its trimmed key. -/
theorem mem_ownRows {row : JiraAlertMap} :
    row ∈ ownRows owner map ↔ row ∈ map.rows ∧ row.botKey = strip owner.botKey := by
  simp [ownRows]

/-- The rows of a bot are those of its trimmed key, so looking one up among them is looking it up in
the table. -/
theorem row?_ownRows : get JiraAlertMap.key (strip owner.botKey, alertAlias) (ownRows owner map) =
    map.row? (strip owner.botKey) alertAlias := by
  apply get_filter
  intro row keyed
  have own : row.botKey = strip owner.botKey := congrArg Prod.fst keyed
  simp [own]

/-- Tables with the same rows of a bot have the same row for it under an alias. -/
theorem row?_same (rows : ownRows owner map = ownRows owner other) (alertAlias : Text) :
    map.row? (strip owner.botKey) alertAlias = other.row? (strip owner.botKey) alertAlias := by
  rw [← row?_ownRows, rows, row?_ownRows]

section Answers

/-- So they answer alike for an alias. -/
theorem mappingForAlias_same (rows : ownRows owner map = ownRows owner other)
    (alertAlias : Text) : mappingForAlias alertAlias owner.botKey map =
      mappingForAlias alertAlias owner.botKey other := by
  rw [mappingForAlias, mappingForAlias, row?_same rows]

/-- A row of the bot is stored in both or in neither. -/
theorem mem_same (rows : ownRows owner map = ownRows owner other) {row : JiraAlertMap}
    (keyed : row.botKey = strip owner.botKey) : row ∈ map.rows ↔ row ∈ other.rows := by
  have members : row ∈ ownRows owner map ↔ row ∈ ownRows owner other := by rw [rows]
  simpa [mem_ownRows, keyed] using members

/-- A row of a Jira id is the one that any order finds for it, since the index has no other. -/
theorem mappingForJiraAlertId_of_mem {scan : Scan JiraAlertMap} {row : JiraAlertMap}
    (named : strip jiraAlertId ≠ []) (isKey : strip owner.botKey ≠ []) (stored : row ∈ map.rows)
    (linked : row.jiraAlertId = some (strip jiraAlertId))
    (keyed : row.botKey = strip owner.botKey) :
    mappingForJiraAlertId scan jiraAlertId owner.botKey map =
      some (row.alertAlias, row.roomId, row.jiraAlertId, row.senderName) := by
  rw [mappingForJiraAlertId, if_neg (not_or.mpr ⟨named, isKey⟩)]
  cases first : scan.first (fun row => row.jiraAlertId == some (strip jiraAlertId) &&
      row.botKey == strip owner.botKey) map.rows with
  | none =>
    have unmatched := Scan.first_none_iff.mp first row stored
    simp [linked, keyed] at unmatched
  | some found =>
    obtain ⟨isStored, matching⟩ := Scan.first_some first
    simp only [Bool.and_eq_true, beq_iff_eq] at matching
    have sameKey := map.unique found isStored row stored _ matching.1 linked
    rw [eq_of_key map.keyed isStored stored sameKey]
    rfl

/-- So they answer alike for a Jira id, in whatever orders the database looks. -/
theorem mappingForJiraAlertId_same (rows : ownRows owner map = ownRows owner other)
    (scan otherScan : Scan JiraAlertMap) (jiraAlertId : Text) :
    mappingForJiraAlertId scan jiraAlertId owner.botKey map =
      mappingForJiraAlertId otherScan jiraAlertId owner.botKey other := by
  by_cases blank : strip jiraAlertId = [] ∨ strip owner.botKey = []
  · rw [mappingForJiraAlertId, mappingForJiraAlertId, if_pos blank, if_pos blank]
  obtain ⟨named, isKey⟩ := not_or.mp blank
  cases mapped : mappingForJiraAlertId scan jiraAlertId owner.botKey map with
  | some found =>
    obtain ⟨row, stored, linked, keyed, rfl⟩ := mappingForJiraAlertId_some mapped
    have alsoStored := (mem_same rows keyed).mp stored
    exact (mappingForJiraAlertId_of_mem named isKey alsoStored linked keyed).symm
  | none =>
    cases alsoMapped : mappingForJiraAlertId otherScan jiraAlertId owner.botKey other with
    | none => rfl
    | some found =>
      obtain ⟨row, stored, linked, keyed, rfl⟩ := mappingForJiraAlertId_some alsoMapped
      have alsoStored := (mem_same rows keyed).mpr stored
      rw [mappingForJiraAlertId_of_mem named isKey alsoStored linked keyed] at mapped
      simp at mapped

/-- For a short id, what the one answers in some order the other answers in some order: several rows
may have it. -/
theorem mappingForShortId_same (rows : ownRows owner map = ownRows owner other)
    {scan : Scan JiraAlertMap} {shortId : Text} {answer : Option (Option Text × Text × Text)}
    (answered : mappingForShortId scan shortId owner.botKey map = answer) :
    ∃ scan, mappingForShortId scan shortId owner.botKey other = answer := by
  unfold mappingForShortId at answered ⊢
  by_cases blank : strip shortId = [] ∨ strip owner.botKey = []
  · rw [if_pos blank] at answered
    exact ⟨scan, by rw [if_pos blank, answered]⟩
  · simp only [if_neg blank] at answered ⊢
    cases first : scan.first (fun row => row.shortId == strip shortId &&
        row.botKey == strip owner.botKey) map.rows with
    | none =>
      refine ⟨.stored, ?_⟩
      have nowhere : Scan.stored.first (fun row => row.shortId == strip shortId &&
          row.botKey == strip owner.botKey) other.rows = none := by
        apply Scan.first_none_iff.mpr
        intro row stored
        by_cases keyed : row.botKey = strip owner.botKey
        · exact Scan.first_none_iff.mp first row ((mem_same rows keyed).mpr stored)
        · simp [keyed]
      rw [nowhere, ← answered, first]
    | some row =>
      obtain ⟨stored, matching⟩ := Scan.first_some first
      have keyed : row.botKey = strip owner.botKey := by
        simp only [Bool.and_eq_true, beq_iff_eq] at matching
        exact matching.2
      have finds : ∃ scan : Scan JiraAlertMap, scan.first (fun row =>
          row.shortId == strip shortId && row.botKey == strip owner.botKey) other.rows =
            some row := Scan.exists_first ((mem_same rows keyed).mp stored) matching
      obtain ⟨otherScan, found⟩ := finds
      exact ⟨otherScan, by rw [found, ← answered, first]⟩

/-- The rows of a bot decide what it is answered, in all three lookups. -/
theorem sameFor_of_rows (rows : ownRows owner map = ownRows owner other) :
    SameFor owner map other where
  rows := rows
  byJiraAlertId := mappingForJiraAlertId_same rows
  byAlias := mappingForAlias_same rows
  byShortId := by
    intro shortId answer
    constructor
    · rintro ⟨scan, answered⟩
      exact mappingForShortId_same rows answered
    · rintro ⟨scan, answered⟩
      exact mappingForShortId_same rows.symm answered

end Answers

/-- What a Create webhook leaves of the table. -/
def linkRow (owner : Bot) (commits : Bool) (jiraAlertId alertAlias : Text) (map : AlertMap) :
    AlertMap :=
  if strip jiraAlertId = [] ∨ strip owner.botKey = [] ∨ strip alertAlias = [] then map
  else match map.row? (strip owner.botKey) (strip alertAlias) with
    | none => map
    | some row =>
      if commits then (map.write? { row with jiraAlertId := some (strip jiraAlertId) }).getD map
      else map

/-- Rows that a delivery has seen are still stored. -/
def MapRun.Growing (state : MapRun ι) : Prop :=
  ∀ bot delivery key alertAlias,
    ((state.seen bot delivery).row? key alertAlias).isSome = true →
      (state.map.row? key alertAlias).isSome = true

variable {state : MapRun ι} {delivery : Nat}

/-- A Create webhook links the row of its alias, or leaves the table as it is. -/
theorem mapStep_createApply (growing : state.Growing) :
    mapStep bots state (.createApply bot delivery commits jiraAlertId alertAlias) =
      { state with map := linkRow (bots bot) commits jiraAlertId alertAlias state.map } := by
  by_cases blankKey : (bots bot).botKey = []
  · simp [mapStep, handleCreate, linkRow, blankKey]
  by_cases nameless : strip jiraAlertId = [] ∨ strip (bots bot).botKey = [] ∨
      strip alertAlias = []
  · simp [mapStep, handleCreate, applyCreateWebhook, linkRow, nameless, blankKey]
  obtain ⟨named, rest⟩ := not_or.mp nameless
  obtain ⟨isKey, aliased⟩ := not_or.mp rest
  rw [linkRow, if_neg nameless]
  cases found : state.map.row? (strip (bots bot).botKey) (strip alertAlias) with
  | none =>
    have unseen : (state.seen bot delivery).row? (strip (bots bot).botKey) (strip alertAlias) =
        none := by
      cases before : (state.seen bot delivery).row? (strip (bots bot).botKey)
          (strip alertAlias) with
      | none => rfl
      | some row =>
        have still := growing bot delivery _ _ (by rw [before]; rfl)
        rw [found] at still
        exact absurd still Bool.false_ne_true
    rw [mapStep]
    split
    · rename_i map stored
      rw [handleCreate_absent unseen found stored]
    · rfl
  | some row =>
    rw [mapStep, handleCreate_linked named isKey aliased found]
    cases commits with
    | false => rfl
    | true =>
      simp only [if_true]
      cases state.map.write? { row with jiraAlertId := some (strip jiraAlertId) } with
      | none => rfl
      | some after => rfl

/-- A Create that names a stored row of the bot writes it with the Jira id, if the index lets it. -/
theorem linkRow_found {row : JiraAlertMap} (named : strip jiraAlertId ≠ [])
    (isKey : strip owner.botKey ≠ []) (aliased : strip alertAlias ≠ [])
    (found : map.row? (strip owner.botKey) (strip alertAlias) = some row) :
    linkRow owner true jiraAlertId alertAlias map =
      (map.write? { row with jiraAlertId := some (strip jiraAlertId) }).getD map := by
  have nameless : ¬ (strip jiraAlertId = [] ∨ strip owner.botKey = [] ∨
      strip alertAlias = []) := not_or.mpr ⟨named, not_or.mpr ⟨isKey, aliased⟩⟩
  rw [linkRow, if_neg nameless, found]
  rfl

/-- Every other Create leaves the table as it is, and so does one that is refused. -/
theorem linkRow_cases (owner : Bot) (commits : Bool) (jiraAlertId alertAlias : Text)
    (map : AlertMap) :
    linkRow owner commits jiraAlertId alertAlias map = map ∨
      commits = true ∧ strip jiraAlertId ≠ [] ∧ strip owner.botKey ≠ [] ∧
        strip alertAlias ≠ [] ∧
        ∃ row, map.row? (strip owner.botKey) (strip alertAlias) = some row ∧
          ∃ free, linkRow owner commits jiraAlertId alertAlias map =
            map.write { row with jiraAlertId := some (strip jiraAlertId) } free := by
  by_cases nameless : strip jiraAlertId = [] ∨ strip owner.botKey = [] ∨ strip alertAlias = []
  · exact Or.inl (if_pos nameless)
  obtain ⟨named, rest⟩ := not_or.mp nameless
  obtain ⟨isKey, aliased⟩ := not_or.mp rest
  cases found : map.row? (strip owner.botKey) (strip alertAlias) with
  | none => exact Or.inl (by rw [linkRow, if_neg nameless, found])
  | some row =>
    cases commits with
    | false => exact Or.inl (by rw [linkRow, if_neg nameless, found]; rfl)
    | true =>
      rw [linkRow_found named isKey aliased found]
      cases written : map.write? { row with jiraAlertId := some (strip jiraAlertId) } with
      | none => exact Or.inl rfl
      | some after =>
        obtain ⟨free, isAfter⟩ := AlertMap.write?_some written
        exact Or.inr ⟨rfl, named, isKey, aliased, row, rfl, free, isAfter⟩

/-- The table keeps the keys that it has, whatever a Create brings. -/
theorem linkRow_isSome {key knownAlias : Text}
    (stored : (map.row? key knownAlias).isSome = true) :
    ((linkRow owner commits jiraAlertId alertAlias map).row? key knownAlias).isSome = true := by
  rcases linkRow_cases owner commits jiraAlertId alertAlias map with
    kept | ⟨_, _, _, _, row, _, free, written⟩
  · rwa [kept]
  · rw [written]
    exact AlertMap.row?_write_isSome free stored

/-- So it does when an alert is recorded. -/
theorem upsert_isSome {key knownAlias : Text}
    (stored : (map.row? key knownAlias).isSome = true) :
    (((upsertPendingRow commits owner.botKey alertAlias shortId roomId senderName map).getD
      map).row? key knownAlias).isSome = true := by
  unfold upsertPendingRow
  split
  · exact stored
  · split
    · exact AlertMap.row?_write_isSome (pendingRow_free _ _ _ _ _ _) stored
    · exact stored

/-- No operation takes a row away, so what a delivery has seen stays stored. -/
theorem MapRun.Growing.step (growing : state.Growing) (op : MapOp ι) :
    (mapStep bots state op).Growing := by
  intro other number key alertAlias seen
  cases op with
  | upsert bot commits => exact upsert_isSome (growing other number key alertAlias seen)
  | createRead bot delivery =>
    simp only [mapStep] at seen ⊢
    split at seen
    · exact seen
    · exact growing other number key alertAlias seen
  | createApply bot delivery commits jiraAlertId =>
    rw [mapStep_createApply growing] at seen ⊢
    exact linkRow_isSome (growing other number key alertAlias seen)

section Isolation

variable {row : JiraAlertMap} {stranger : Bot}

/-- A row of the bot is written among its own. -/
theorem ownRows_write_own (own : row.botKey = strip owner.botKey)
    (free : Free JiraAlertMap.key JiraAlertMap.jiraAlertId row map.rows) :
    ownRows owner (map.write row free) = put JiraAlertMap.key row (ownRows owner map) := by
  apply filter_put_kept
  intro second same
  have keyed : second.botKey = row.botKey := congrArg Prod.fst same
  simp [keyed, own]

/-- A row of another bot leaves them as they are. -/
theorem ownRows_write_other (different : row.botKey ≠ strip owner.botKey)
    (free : Free JiraAlertMap.key JiraAlertMap.jiraAlertId row map.rows) :
    ownRows owner (map.write row free) = ownRows owner map := by
  apply filter_put_dropped
  intro second same
  have keyed : second.botKey = row.botKey := congrArg Prod.fst same
  simp [keyed, different]

/-- A pending row has the key it is recorded for. -/
theorem pendingRow_botKey (map : AlertMap)
    (botKey alertAlias shortId roomId senderName : Text) :
    (pendingRow map botKey alertAlias shortId roomId senderName).botKey = botKey :=
  congrArg Prod.fst (pendingRow_key map botKey alertAlias shortId roomId senderName)

/-- The trigger of another bot leaves the rows of this one as they are. -/
theorem upsert_other (different : strip stranger.botKey ≠ strip owner.botKey) :
    ownRows owner ((upsertPendingRow commits stranger.botKey alertAlias shortId roomId senderName
      map).getD map) = ownRows owner map := by
  unfold upsertPendingRow
  split
  · rfl
  · split
    · have elsewhere : (pendingRow map (strip stranger.botKey) (strip alertAlias) (strip shortId)
          (strip roomId) (senderNameOrDefault senderName)).botKey ≠ strip owner.botKey := by
        rwa [pendingRow_botKey]
      exact ownRows_write_other elsewhere (pendingRow_free _ _ _ _ _ _)
    · rfl

/-- The trigger of the bot itself does the same to its rows, whatever other rows there are: the
pending row is made of its own alone. -/
theorem upsert_own (rows : ownRows owner map = ownRows owner other) :
    ownRows owner ((upsertPendingRow commits owner.botKey alertAlias shortId roomId senderName
        map).getD map) =
      ownRows owner ((upsertPendingRow commits owner.botKey alertAlias shortId roomId senderName
        other).getD other) := by
  have samePending : pendingRow map (strip owner.botKey) (strip alertAlias) (strip shortId)
        (strip roomId) (senderNameOrDefault senderName) =
      pendingRow other (strip owner.botKey) (strip alertAlias) (strip shortId)
        (strip roomId) (senderNameOrDefault senderName) := by
    rw [pendingRow, pendingRow, row?_same rows]
  unfold upsertPendingRow
  split
  · exact rows
  · split
    · rw [Option.getD_some, Option.getD_some,
        ownRows_write_own (pendingRow_botKey _ _ _ _ _ _),
        ownRows_write_own (pendingRow_botKey _ _ _ _ _ _), samePending, rows]
    · exact rows

/-- A Create of another bot leaves them as well. -/
theorem linkRow_other (different : strip stranger.botKey ≠ strip owner.botKey) :
    ownRows owner (linkRow stranger commits jiraAlertId alertAlias map) = ownRows owner map := by
  rcases linkRow_cases stranger commits jiraAlertId alertAlias map with
    kept | ⟨_, _, _, _, row, found, free, written⟩
  · rw [kept]
  · rw [written]
    apply ownRows_write_other
    rw [(AlertMap.row?_some found).2.1]
    exact different

/-- A row that the index lets into the table is let in among the bot's own, where fewer rows could
stand against it. -/
theorem free_ownRows (free : Free JiraAlertMap.key JiraAlertMap.jiraAlertId row map.rows) :
    Free JiraAlertMap.key JiraAlertMap.jiraAlertId row (ownRows owner map) := by
  intro second stored
  exact free second (mem_ownRows.mp stored).1

/-- Every row of the table is the bot's. -/
def Alone (owner : Bot) (map : AlertMap) : Prop :=
  ∀ row ∈ map.rows, row.botKey = strip owner.botKey

/-- Where all rows are the bot's, what its own rows let in the table lets in. -/
theorem Alone.free (alone : Alone owner map)
    (free : Free JiraAlertMap.key JiraAlertMap.jiraAlertId row (ownRows owner map)) :
    Free JiraAlertMap.key JiraAlertMap.jiraAlertId row map.rows := by
  intro second stored
  exact free second (mem_ownRows.mpr ⟨stored, alone second stored⟩)

/-- Writing a row of the bot leaves it alone. -/
theorem Alone.write (alone : Alone owner map) (own : row.botKey = strip owner.botKey)
    (free : Free JiraAlertMap.key JiraAlertMap.jiraAlertId row map.rows) :
    Alone owner (map.write row free) := by
  intro second stored
  rcases (AlertMap.mem_write free).mp stored with rfl | ⟨old, _⟩
  · exact own
  · exact alone second old

/-- So does recording one of its alerts. -/
theorem Alone.upsert (alone : Alone owner map) :
    Alone owner ((upsertPendingRow commits owner.botKey alertAlias shortId roomId senderName
      map).getD map) := by
  unfold upsertPendingRow
  split
  · exact alone
  · split
    · exact alone.write (pendingRow_botKey _ _ _ _ _ _) (pendingRow_free _ _ _ _ _ _)
    · exact alone

/-- So does one of its Creates. -/
theorem Alone.link (alone : Alone owner map) :
    Alone owner (linkRow owner commits jiraAlertId alertAlias map) := by
  rcases linkRow_cases owner commits jiraAlertId alertAlias map with
    kept | ⟨_, _, _, _, row, found, free, written⟩
  · rwa [kept]
  · rw [written]
    have own : row.botKey = strip owner.botKey := (AlertMap.row?_some found).2.1
    have linked : ({ row with jiraAlertId := some (strip jiraAlertId) } : JiraAlertMap).botKey =
        strip owner.botKey := own
    exact alone.write linked free

/-- An unhindered Create of the bot itself does the same without the other bots' rows: the index
lets the link in with them or refuses it without them. -/
theorem linkRow_own (rows : ownRows owner map = ownRows owner other) (alone : Alone owner other)
    (unhindered : commits = true → strip jiraAlertId ≠ [] → strip owner.botKey ≠ [] →
      strip alertAlias ≠ [] →
      ∀ row, map.row? (strip owner.botKey) (strip alertAlias) = some row →
        Free JiraAlertMap.key JiraAlertMap.jiraAlertId
          { row with jiraAlertId := some (strip jiraAlertId) } (ownRows owner map) →
        ∀ second ∈ map.rows, second.jiraAlertId = some (strip jiraAlertId) →
          second.botKey = strip owner.botKey) :
    ownRows owner (linkRow owner commits jiraAlertId alertAlias map) =
      ownRows owner (linkRow owner commits jiraAlertId alertAlias other) := by
  by_cases nameless : strip jiraAlertId = [] ∨ strip owner.botKey = [] ∨ strip alertAlias = []
  · rw [linkRow, linkRow, if_pos nameless, if_pos nameless, rows]
  obtain ⟨named, rest⟩ := not_or.mp nameless
  obtain ⟨isKey, aliased⟩ := not_or.mp rest
  cases found : map.row? (strip owner.botKey) (strip alertAlias) with
  | none =>
    have alsoAbsent := (row?_same rows (strip alertAlias)).symm.trans found
    simp only [linkRow, if_neg nameless, found, alsoAbsent, rows]
  | some row =>
    have alsoFound := (row?_same rows (strip alertAlias)).symm.trans found
    cases commits with
    | false =>
      simp only [linkRow, if_neg nameless, found, alsoFound, rows, Bool.false_eq_true, if_false]
    | true =>
      have own : ({ row with jiraAlertId := some (strip jiraAlertId) } : JiraAlertMap).botKey =
          strip owner.botKey := (AlertMap.row?_some found).2.1
      rw [linkRow_found named isKey aliased found, linkRow_found named isKey aliased alsoFound]
      by_cases free : Free JiraAlertMap.key JiraAlertMap.jiraAlertId
          { row with jiraAlertId := some (strip jiraAlertId) } (ownRows owner map)
      · have freeInAll : Free JiraAlertMap.key JiraAlertMap.jiraAlertId
            { row with jiraAlertId := some (strip jiraAlertId) } map.rows := by
          intro second stored linked same
          have isOwn := unhindered rfl named isKey aliased row found free second stored same
          exact free second (mem_ownRows.mpr ⟨stored, isOwn⟩) linked same
        have freeAlone : Free JiraAlertMap.key JiraAlertMap.jiraAlertId
            { row with jiraAlertId := some (strip jiraAlertId) } other.rows :=
          alone.free (rows ▸ free)
        rw [AlertMap.write?, AlertMap.write?, dif_pos freeInAll, dif_pos freeAlone,
          Option.getD_some, Option.getD_some, ownRows_write_own own, ownRows_write_own own, rows]
      · have taken : ¬ Free JiraAlertMap.key JiraAlertMap.jiraAlertId
            { row with jiraAlertId := some (strip jiraAlertId) } map.rows :=
          fun isFree => free (free_ownRows isFree)
        have takenAlone : ¬ Free JiraAlertMap.key JiraAlertMap.jiraAlertId
            { row with jiraAlertId := some (strip jiraAlertId) } other.rows :=
          fun isFree => free (rows ▸ free_ownRows isFree)
        rw [AlertMap.write?, AlertMap.write?, dif_neg taken, dif_neg takenAlone,
          Option.getD_none, Option.getD_none, rows]

end Isolation

/-- The run of all bots beside the one of a single bot. -/
def pairStep (bots : ι → Bot) (bot : ι) (pair : MapRun ι × MapRun ι) (op : MapOp ι) :
    MapRun ι × MapRun ι :=
  (mapStep bots pair.1 op, if op.bot = bot then mapStep bots pair.2 op else pair.2)

/-- The paired run is the run of all bots and the one of the single bot. -/
theorem run_pairStep (pair : MapRun ι × MapRun ι) (ops : List (MapOp ι)) :
    run (pairStep bots bot) pair ops =
      (run (mapStep bots) pair.1 ops, run (mapStep bots) pair.2 (opsOf bot ops)) := by
  induction ops generalizing pair with
  | nil => rfl
  | cons op rest inductionHypothesis =>
    rw [run_cons, inductionHypothesis, pairStep, run_cons, opsOf, opsOf]
    by_cases own : op.bot = bot
    · simp [own]
    · simp [own]

/-- Both runs have the rows of the bot, and the second one has no others. -/
structure Isolated (owner : Bot) (pair : MapRun ι × MapRun ι) : Prop where
  growing : pair.1.Growing
  growingAlone : pair.2.Growing
  rows : ownRows owner pair.1.map = ownRows owner pair.2.map
  alone : Alone owner pair.2.map

variable {pair : MapRun ι × MapRun ι} {op : MapOp ι}

/-- An unhindered operation of the bot keeps its rows the same in both runs. -/
theorem Isolated.own (isolated : Isolated (bots bot) pair) (own : op.bot = bot)
    (unhindered : Unhindered bots bot pair.1 op) :
    ownRows (bots bot) (mapStep bots pair.1 op).map =
        ownRows (bots bot) (mapStep bots pair.2 op).map ∧
      Alone (bots bot) (mapStep bots pair.2 op).map := by
  subst own
  cases op with
  | upsert bot commits => exact ⟨upsert_own isolated.rows, isolated.alone.upsert⟩
  | createRead bot delivery => exact ⟨isolated.rows, isolated.alone⟩
  | createApply bot delivery commits jiraAlertId alertAlias =>
    rw [mapStep_createApply isolated.growing, mapStep_createApply isolated.growingAlone]
    refine ⟨linkRow_own isolated.rows isolated.alone ?_, isolated.alone.link⟩
    rintro rfl
    exact unhindered rfl

/-- An operation of another bot does not touch the rows, as its trimmed key is another one. -/
theorem ownRows_stranger (different : ∀ other, other ≠ bot →
    strip (bots other).botKey ≠ strip (bots bot).botKey) (growing : state.Growing)
    (stranger : op.bot ≠ bot) :
    ownRows (bots bot) (mapStep bots state op).map = ownRows (bots bot) state.map := by
  cases op with
  | upsert other commits => exact upsert_other (different other stranger)
  | createRead other delivery => rfl
  | createApply other delivery commits jiraAlertId alertAlias =>
    rw [mapStep_createApply growing]
    exact linkRow_other (different other stranger)

/-- Every operation keeps the two runs isolated, if it is unhindered. -/
theorem Isolated.step (isolated : Isolated (bots bot) pair) (different : ∀ other, other ≠ bot →
    strip (bots other).botKey ≠ strip (bots bot).botKey)
    (unhindered : Unhindered bots bot pair.1 op) :
    Isolated (bots bot) (pairStep bots bot pair op) := by
  by_cases own : op.bot = bot
  · obtain ⟨rows, alone⟩ := isolated.own own unhindered
    rw [pairStep, if_pos own]
    exact ⟨isolated.growing.step op, isolated.growingAlone.step op, rows, alone⟩
  · rw [pairStep, if_neg own]
    exact ⟨isolated.growing.step op, isolated.growingAlone,
      (ownRows_stranger different isolated.growing own).trans isolated.rows, isolated.alone⟩

/-- A hindered Create is refused, and links its row without the other bots, so the two runs answer
differently right after it. -/
theorem Isolated.hindered (isolated : Isolated (bots bot) pair)
    (hindered : ¬ Unhindered bots bot pair.1 op) :
    ¬ SameFor (bots bot) (pairStep bots bot pair op).1.map (pairStep bots bot pair op).2.map := by
  cases op with
  | upsert => exact absurd trivial hindered
  | createRead => exact absurd trivial hindered
  | createApply other delivery commits jiraAlertId alertAlias =>
    cases commits with
    | false => exact absurd trivial hindered
    | true =>
      simp only [Unhindered, not_forall] at hindered
      obtain ⟨rfl, named, isKey, aliased, row, found, free, second, stored, taken, stranger⟩ :=
        hindered
      have own : row.botKey = strip (bots other).botKey := (AlertMap.row?_some found).2.1
      have alsoFound := (row?_same isolated.rows (strip alertAlias)).symm.trans found
      have refused : ¬ Free JiraAlertMap.key JiraAlertMap.jiraAlertId
          { row with jiraAlertId := some (strip jiraAlertId) } pair.1.map.rows := by
        intro isFree
        have sameKey := isFree second stored rfl taken
        exact stranger ((congrArg Prod.fst sameKey).trans own)
      have freeAlone : Free JiraAlertMap.key JiraAlertMap.jiraAlertId
          { row with jiraAlertId := some (strip jiraAlertId) } pair.2.map.rows :=
        isolated.alone.free (isolated.rows ▸ free)
      intro same
      have rows := same.rows
      simp only [pairStep, MapOp.bot, if_true] at rows
      rw [mapStep_createApply isolated.growing, mapStep_createApply isolated.growingAlone,
        linkRow_found named isKey aliased found,
        linkRow_found named isKey aliased alsoFound, AlertMap.write?, AlertMap.write?,
        dif_neg refused, dif_pos freeAlone, Option.getD_none, Option.getD_some] at rows
      have linked : { row with jiraAlertId := some (strip jiraAlertId) } ∈
          ownRows (bots other) (pair.2.map.write _ freeAlone) :=
        mem_ownRows.mpr ⟨(AlertMap.mem_write freeAlone).mpr (Or.inl rfl), own⟩
      rw [← rows] at linked
      have sameKey := pair.1.map.unique _ (mem_ownRows.mp linked).1 second stored _ rfl taken
      exact stranger ((congrArg Prod.fst sameKey).symm.trans own)

/-- At the start neither run has a row. -/
theorem isolated_start {κ : Type u} :
    Isolated owner ((.start, .start) : MapRun κ × MapRun κ) where
  growing := fun _ _ _ _ seen => seen
  growingAlone := fun _ _ _ _ seen => seen
  rows := rfl
  alone := fun _ stored => absurd stored List.not_mem_nil

/-- Throughout a run the bot has the rows and gets the answers it has and gets where the
other bots take no part. -/
def Undisturbed (bots : ι → Bot) (bot : ι) (ops : List (MapOp ι)) : Prop :=
  ∀ before after, ops = before ++ after →
    SameFor (bots bot) (run (mapStep bots) .start before).map
      (run (mapStep bots) .start (opsOf bot before)).map

/-- For bots whose trimmed keys differ, a bot has the same rows and gets the same answers throughout
a run whether or not the other bots take part, exactly if none of its Creates brings a Jira id that
another bot's row has by then.

Proof: the two runs are paired. Unhindered operations keep the rows of the bot the same in both, and
the rows decide the answers, while a hindered one makes them differ at once; so
`throughout_iff_guarded` applies, and the guard only looks at the run of all bots. -/
theorem isolation_iff (bots : ι → Bot) (bot : ι) (different : ∀ other, other ≠ bot →
    strip (bots other).botKey ≠ strip (bots bot).botKey) (ops : List (MapOp ι)) :
    Undisturbed bots bot ops ↔ Guarded (mapStep bots) (Unhindered bots bot) .start ops := by
  have pairs : Throughout (pairStep bots bot) (fun pair => SameFor (bots bot) pair.1.map pair.2.map)
      (.start, .start) ops ↔ Guarded (pairStep bots bot)
        (fun pair op => Unhindered bots bot pair.1 op) (.start, .start) ops :=
    throughout_iff_guarded
      (fun _ _ isolated unhindered => Isolated.step isolated different unhindered)
      (fun _ isolated => sameFor_of_rows isolated.rows)
      (fun _ _ isolated hindered => isolated.hindered hindered) _ _ isolated_start
  have projected : Guarded (pairStep bots bot) (fun pair op => Unhindered bots bot pair.1 op)
      (.start, .start) ops ↔ Guarded (mapStep bots) (Unhindered bots bot) .start ops :=
    guarded_project (Unhindered bots bot) Prod.fst (fun _ _ => rfl) _ _
  rw [← projected, ← pairs, throughout_iff_prefixes, Undisturbed]
  simp only [run_pairStep]

section Example

/-- Two bots, told apart by their keys. -/
def botKeyed (sreKey dbaKey : Text) (isSre : Bool) : Bot where
  handle := "bot".toList
  botKey := if isSre then sreKey else dbaKey
  teamDescription := "On call".toList
  responders := { people := [], teams := [] }
  lookupPlugin := none

/-- Each bot triggers an alert, and the Create of the second one brings the Jira id that
the first one's has linked already. -/
def sharedJiraId : List (MapOp Bool) :=
  [.upsert false true "A1".toList "B2".toList "dbas".toList "Al".toList,
   .createApply false 0 true "J1".toList "A1".toList,
   .upsert true true "A2".toList "C3".toList "sres".toList "Bo".toList,
   .createApply true 0 true "J1".toList "A2".toList]

/-- Both bots trigger an alert of one alias. -/
def sharedAlias : List (MapOp Bool) :=
  [.upsert true true "A1".toList "C3".toList "sres".toList "Bo".toList,
   .upsert false true "A1".toList "B2".toList "dbas".toList "Al".toList]

/-- The Create is refused because of the other bot's row; and bots whose keys differ in
blanks alone share their rows. -/
theorem other_bot_interferes :
    (mappingForAlias "A2".toList "sre".toList
        (run (mapStep (botKeyed "sre".toList "dba".toList)) .start sharedJiraId).map =
          some (none, "sres".toList, "Bo".toList) ∧
      mappingForAlias "A2".toList "sre".toList
        (run (mapStep (botKeyed "sre".toList "dba".toList)) .start
          (opsOf true sharedJiraId)).map =
          some (some "J1".toList, "sres".toList, "Bo".toList)) ∧
    (mappingForAlias "A1".toList "sre".toList
        (run (mapStep (botKeyed "sre".toList " sre".toList)) .start sharedAlias).map =
          some (none, "dbas".toList, "Al".toList) ∧
      mappingForAlias "A1".toList "sre".toList
        (run (mapStep (botKeyed "sre".toList " sre".toList)) .start
          (opsOf true sharedAlias)).map =
          some (none, "sres".toList, "Bo".toList)) := by
  decide

/-- The first bot's Create is not hindered. -/
theorem first_link_isolated :
    Undisturbed (botKeyed "sre".toList "dba".toList) false sharedJiraId := by
  apply (isolation_iff (botKeyed "sre".toList "dba".toList) false (by decide) sharedJiraId).mpr
  refine ⟨trivial, ?_, trivial, ?_, trivial⟩
  · intro _ _ _ _ row found free
    decide
  · intro isSecond
    exact absurd isSecond (by decide)

end Example

end Thaum.Jira
