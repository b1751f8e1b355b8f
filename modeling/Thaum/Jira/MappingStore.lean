import Thaum.Library.KeyedRows
import Thaum.Library.PyText

/-!
# The alert map

A row of `jira_alert_map` is keyed by the bot and the alias of an alert and holds
the short id, room and sender of the trigger. The Jira id is null until a Create
webhook fills it in, and unique among the rows that have one. A table carries both
constraints, so an operation can only yield one that the database would commit.
-/

namespace Thaum.Jira

open PyText KeyedRows

/-- A row of `jira_alert_map`. -/
structure JiraAlertMap where
  botKey : Text
  alertAlias : Text
  shortId : Text
  roomId : Text
  jiraAlertId : Option Text
  senderName : Text
deriving DecidableEq

/-- The primary key. -/
def JiraAlertMap.key (row : JiraAlertMap) : Text × Text := (row.botKey, row.alertAlias)

/-- The table, with its primary key and its unique index. -/
@[ext] structure AlertMap where
  rows : List JiraAlertMap
  keyed : Distinct JiraAlertMap.key rows
  unique : Unique JiraAlertMap.key JiraAlertMap.jiraAlertId rows
deriving DecidableEq

namespace AlertMap

/-- No rows. -/
def empty : AlertMap where
  rows := []
  keyed := List.nodup_nil
  unique := by
    intro first stored
    simp at stored

/-- `session.get(JiraAlertMap, …)`. -/
def row? (map : AlertMap) (botKey alertAlias : Text) : Option JiraAlertMap :=
  get JiraAlertMap.key (botKey, alertAlias) map.rows

/-- Commit a row that the unique index lets through. -/
def write (map : AlertMap) (row : JiraAlertMap)
    (free : Free JiraAlertMap.key JiraAlertMap.jiraAlertId row map.rows) : AlertMap where
  rows := put JiraAlertMap.key row map.rows
  keyed := distinct_put map.keyed
  unique := unique_put map.unique free

/-- Commit a row; `none` where the unique index raises. -/
def write? (map : AlertMap) (row : JiraAlertMap) : Option AlertMap :=
  if free : Free JiraAlertMap.key JiraAlertMap.jiraAlertId row map.rows then
    some (map.write row free)
  else none

variable {map : AlertMap} {row other : JiraAlertMap} {botKey alertAlias : Text}

/-- A row that is found is stored, under the key that was asked for. -/
theorem row?_some (found : map.row? botKey alertAlias = some row) :
    row ∈ map.rows ∧ row.botKey = botKey ∧ row.alertAlias = alertAlias := by
  obtain ⟨stored, keyed⟩ := get_some found
  exact ⟨stored, congrArg Prod.fst keyed, congrArg Prod.snd keyed⟩

/-- A stored row is found under its key, as keys are distinct. -/
theorem row?_of_mem (stored : row ∈ map.rows) :
    map.row? row.botKey row.alertAlias = some row :=
  get_of_mem map.keyed stored

/-- Writing a row replaces the one of its key, and takes no other away. -/
theorem mem_write (free : Free JiraAlertMap.key JiraAlertMap.jiraAlertId row map.rows) :
    other ∈ (map.write row free).rows ↔ other = row ∨ other ∈ map.rows ∧ other.key ≠ row.key := by
  constructor
  · exact mem_put
  · rintro (rfl | ⟨stored, different⟩)
    · exact mem_put_self
    · exact mem_put_other stored different

/-- A row is found exactly if one is stored with the key. -/
theorem row?_isSome : (map.row? botKey alertAlias).isSome = true ↔
    ∃ row ∈ map.rows, row.key = (botKey, alertAlias) := by
  rw [Option.isSome_iff_ne_none, row?, Ne, get_none_iff]
  push Not
  rfl

/-- Writing a row keeps every key. No operation of the map ever deletes one. -/
theorem row?_write_isSome (free : Free JiraAlertMap.key JiraAlertMap.jiraAlertId row map.rows)
    (stored : (map.row? botKey alertAlias).isSome = true) :
    ((map.write row free).row? botKey alertAlias).isSome = true := by
  obtain ⟨before, member, keyed⟩ := row?_isSome.mp stored
  by_cases same : before.key = row.key
  · exact row?_isSome.mpr ⟨row, (mem_write free).mpr (Or.inl rfl), same.symm.trans keyed⟩
  · exact row?_isSome.mpr ⟨before, (mem_write free).mpr (Or.inr ⟨member, same⟩), keyed⟩

/-- The row that was written is found under its key. -/
theorem row?_write_same
    (free : Free JiraAlertMap.key JiraAlertMap.jiraAlertId row map.rows) :
    (map.write row free).row? row.botKey row.alertAlias = some row :=
  get_put_same

/-- Writing a row leaves what other keys read as it is. -/
theorem row?_write_other
    (free : Free JiraAlertMap.key JiraAlertMap.jiraAlertId row map.rows)
    (different : row.key ≠ (botKey, alertAlias)) :
    (map.write row free).row? botKey alertAlias = map.row? botKey alertAlias :=
  get_put_other different

/-- A write that does not raise is one that the index let through. -/
theorem write?_some {after : AlertMap} (written : map.write? row = some after) :
    ∃ free, after = map.write row free := by
  unfold write? at written
  split at written
  · rename_i free
    exact ⟨free, (Option.some.inj written).symm⟩
  · simp at written

end AlertMap

/-- The characters of a short id that an alias may end in: `[A-Z2-9]`. -/
def isShortIdChar (c : Char) : Bool :=
  decide ('A' ≤ c ∧ c ≤ 'Z') || decide ('2' ≤ c ∧ c ≤ '9')

/-- `parse_short_id_from_alias`: the tail of `THAUM-`, eight digits, a dash and four
characters; blank for any other alias. -/
def parseShortIdFromAlias (alertAlias : Text) : Text :=
  let trimmed := strip alertAlias
  let date := (trimmed.drop 6).take 8
  let tail := trimmed.drop 15
  if trimmed.length = 19 ∧ startsWith trimmed "THAUM-".toList ∧ date.all isDecimal ∧
      (trimmed.drop 14).head? = some '-' ∧ tail.all isShortIdChar then tail
  else []

/-- The row of `upsert_pending_row`: the stored one with what the trigger knows, or a
new one without a Jira id. -/
def pendingRow (map : AlertMap) (botKey alertAlias shortId roomId senderName : Text) :
    JiraAlertMap :=
  match map.row? botKey alertAlias with
  | none => { botKey, alertAlias, shortId, roomId, jiraAlertId := none, senderName }
  | some row => { row with shortId, roomId, senderName }

/-- A pending row has the bot and the alias it is recorded for. -/
theorem pendingRow_key (map : AlertMap) (botKey alertAlias shortId roomId senderName : Text) :
    (pendingRow map botKey alertAlias shortId roomId senderName).key = (botKey, alertAlias) := by
  unfold pendingRow
  cases found : map.row? botKey alertAlias with
  | none => rfl
  | some row => exact (get_some found).2

/-- The Jira id of a pending row is the one stored under its key, so recording an alert neither
links nor unlinks it. -/
theorem pendingRow_id (map : AlertMap) (botKey alertAlias shortId roomId senderName : Text) :
    (pendingRow map botKey alertAlias shortId roomId senderName).jiraAlertId =
      (map.row? botKey alertAlias).bind JiraAlertMap.jiraAlertId := by
  unfold pendingRow
  cases map.row? botKey alertAlias with
  | none => rfl
  | some row => rfl

/-- That id is free for it: the row that has it is the one in whose place it is written. -/
theorem pendingRow_free (map : AlertMap) (botKey alertAlias shortId roomId senderName : Text) :
    Free JiraAlertMap.key JiraAlertMap.jiraAlertId
      (pendingRow map botKey alertAlias shortId roomId senderName) map.rows := by
  intro second stored linked same
  rw [pendingRow_id] at linked same
  rw [pendingRow_key]
  cases found : map.row? botKey alertAlias with
  | none => simp [found] at linked
  | some row =>
    obtain ⟨isStored, keyed⟩ := get_some found
    obtain ⟨id, isId⟩ := Option.isSome_iff_exists.mp linked
    rw [found, Option.bind_some] at isId same
    rw [← keyed]
    exact map.unique second stored row isStored id (same.trans isId) isId

/-- `(name or "").strip() or "Someone"`. -/
def senderNameOrDefault (senderName : Text) : Text := orElse (strip senderName) "Someone".toList

/-- `upsert_pending_row`: skipped where a field is blank, and `none` where its
transaction does not commit. -/
def upsertPendingRow (commits : Bool) (botKey alertAlias shortId roomId senderName : Text)
    (map : AlertMap) : Option AlertMap :=
  if strip botKey = [] ∨ strip alertAlias = [] ∨ strip shortId = [] ∨ strip roomId = [] then
    some map
  else if commits then
    some (map.write
      (pendingRow map (strip botKey) (strip alertAlias) (strip shortId) (strip roomId)
        (senderNameOrDefault senderName))
      (pendingRow_free map _ _ _ _ _))
  else none

/-- `mapping_for_jira_alert_id`: the alias, room, Jira id and sender of the row. -/
def mappingForJiraAlertId (scan : Scan JiraAlertMap) (jiraAlertId botKey : Text)
    (map : AlertMap) : Option (Text × Text × Option Text × Text) :=
  if strip jiraAlertId = [] ∨ strip botKey = [] then none
  else (scan.first (fun row => row.jiraAlertId == some (strip jiraAlertId) &&
      row.botKey == strip botKey) map.rows).map fun row =>
    (row.alertAlias, row.roomId, row.jiraAlertId, row.senderName)

/-- `mapping_for_alias`: the Jira id, room and sender of the row. -/
def mappingForAlias (alertAlias botKey : Text) (map : AlertMap) :
    Option (Option Text × Text × Text) :=
  if strip alertAlias = [] ∨ strip botKey = [] then none
  else (map.row? (strip botKey) (strip alertAlias)).map fun row =>
    (row.jiraAlertId, row.roomId, row.senderName)

/-- `mapping_for_short_id`: the Jira id, room and alias of the row found first. -/
def mappingForShortId (scan : Scan JiraAlertMap) (shortId botKey : Text) (map : AlertMap) :
    Option (Option Text × Text × Text) :=
  if strip shortId = [] ∨ strip botKey = [] then none
  else (scan.first (fun row => row.shortId == strip shortId && row.botKey == strip botKey)
      map.rows).map fun row =>
    (row.jiraAlertId, row.roomId, row.alertAlias)

/-- `apply_create_webhook`; `none` where its transaction does not commit, be it for the
unique index. -/
def applyCreateWebhook (commits : Bool) (jiraAlertId botKey alertAlias shortIdFallback
    roomIdFallback senderNameFallback : Text) (map : AlertMap) : Option AlertMap :=
  let jid := strip jiraAlertId
  let bk := strip botKey
  let al := strip alertAlias
  if jid = [] ∨ bk = [] ∨ al = [] then some map
  else match map.row? bk al with
    | none =>
      let sid := orElse (strip shortIdFallback) (parseShortIdFromAlias al)
      if strip roomIdFallback = [] ∨ sid = [] then some map
      else if !commits then none
      else map.write?
        { botKey := bk, alertAlias := al, shortId := sid, roomId := strip roomIdFallback
          jiraAlertId := some jid, senderName := senderNameOrDefault senderNameFallback }
    | some row => if !commits then none else map.write? { row with jiraAlertId := some jid }

variable {map after : AlertMap} {row : JiraAlertMap} {commits : Bool}
  {jiraAlertId botKey alertAlias shortId roomId senderName : Text}

/-- A Create for a stored row links it, if it commits and the index lets the id in. -/
theorem applyCreateWebhook_linked {shortIdFallback roomIdFallback senderNameFallback : Text}
    (named : strip jiraAlertId ≠ []) (keyed : strip botKey ≠ []) (aliased : strip alertAlias ≠ [])
    (found : map.row? (strip botKey) (strip alertAlias) = some row) :
    applyCreateWebhook commits jiraAlertId botKey alertAlias shortIdFallback roomIdFallback
        senderNameFallback map =
      if commits then map.write? { row with jiraAlertId := some (strip jiraAlertId) }
      else none := by
  simp only [applyCreateWebhook, named, keyed, aliased, or_self, if_false, found]
  cases commits <;> rfl

/-- A Create without a stored row and without a fallback room changes nothing, and raises nothing
either. -/
theorem applyCreateWebhook_absent {shortIdFallback senderNameFallback : Text}
    (absent : map.row? (strip botKey) (strip alertAlias) = none) :
    applyCreateWebhook commits jiraAlertId botKey alertAlias shortIdFallback []
        senderNameFallback map = some map := by
  simp only [applyCreateWebhook, absent, strip_nil, true_or, if_true, ite_self]

/-- A mapping found by the Jira id is a stored row of the bot with that id, whatever the order of
the scan. -/
theorem mappingForJiraAlertId_some {scan : Scan JiraAlertMap}
    {found : Text × Text × Option Text × Text}
    (mapped : mappingForJiraAlertId scan jiraAlertId botKey map = some found) :
    ∃ row ∈ map.rows, row.jiraAlertId = some (strip jiraAlertId) ∧ row.botKey = strip botKey ∧
      found = (row.alertAlias, row.roomId, row.jiraAlertId, row.senderName) := by
  unfold mappingForJiraAlertId at mapped
  split at mapped
  · simp at mapped
  · obtain ⟨row, first, isFound⟩ := Option.map_eq_some_iff.mp mapped
    obtain ⟨stored, matching⟩ := Scan.first_some first
    simp only [Bool.and_eq_true, beq_iff_eq] at matching
    exact ⟨row, stored, matching.1, matching.2, isFound.symm⟩

/-- With an alias and a bot the mapping is that of the row of their key. -/
theorem mappingForAlias_named (map : AlertMap) (aliased : strip alertAlias ≠ [])
    (keyed : strip botKey ≠ []) :
    mappingForAlias alertAlias botKey map =
      (map.row? (strip botKey) (strip alertAlias)).map fun row =>
        (row.jiraAlertId, row.roomId, row.senderName) :=
  if_neg (not_or.mpr ⟨aliased, keyed⟩)

end Thaum.Jira
