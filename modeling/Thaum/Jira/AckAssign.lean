import Thaum.Jira.Acknowledge

/-!
# Acknowledged and then assigned

Once an alert is acknowledged it is assigned to the person, or its room is told that it was
not. The account of the person is looked up in between, and a user search that answers with
a body that is not JSON raises there: the room is told nothing.

Both writers of the alert map store rows with a room only.
-/

namespace Thaum.Jira

open PyText PyJson PyRequests KeyedRows Lookup

/-- Every row has a room. -/
def Roomed (map : AlertMap) : Prop := ∀ row ∈ map.rows, strip row.roomId ≠ []

/-- The room recorded with the row of a short id, blank where there is none. -/
def recordedRoom (scan : Scan JiraAlertMap) (botKey alertId : Text) (map : AlertMap) : Text :=
  strip (((ackMapping scan botKey alertId map).map fun row => row.2.1).getD [])

/-- The messages that an alert was acknowledged but not assigned. -/
def unassignedTexts (alertId : Text) (person : ThaumPerson) : List Text :=
  let acknowledged := "Alert **".toList ++ upper (strip alertId) ++ "** acknowledged, but ".toList
  [acknowledged ++ ("I could not assign it to ".toList ++ person.forDisplay ++ ['.']),
    acknowledged ++ ("assignment to ".toList ++ person.forDisplay ++ " failed.".toList)]

/-- An assignment comes after an acknowledgment of the same alert that succeeded. -/
def Ordered (calls : AckCalls) (effects : List AckEffect) : Prop :=
  ∀ before after jiraAlertId accountId,
    effects = before ++ .assign jiraAlertId accountId :: after →
      calls.acknowledge.ok = true ∧ AckEffect.acknowledge jiraAlertId ∈ before

/-- An alert that was acknowledged is assigned, or the room is told that it was not. -/
def Settles (calls : AckCalls) (roomId : Text) (texts : List Text) (effects : List AckEffect) :
    Prop :=
  ∀ jiraAlertId, AckEffect.acknowledge jiraAlertId ∈ effects → calls.acknowledge.ok = true →
    (∃ accountId, AckEffect.assign jiraAlertId accountId ∈ effects ∧ calls.assign.ok = true) ∨
      ∃ text ∈ texts, AckEffect.say roomId text ∈ effects

/-- `acknowledge_alert` acknowledges, assigns, and tells the room otherwise. -/
def AcksThenAssigns (rendering : Rendering) (scan : Scan JiraAlertMap) (bot : Bot)
    (calls : AckCalls) (now : Nat) (alertId : Text) (person : ThaumPerson) (map : AlertMap)
    (db : IdentityDb) : Prop :=
  let effects := (acknowledgeAlert rendering scan bot calls now alertId person map db).1
  Ordered calls effects ∧ Settles calls (recordedRoom scan bot.botKey alertId map)
    (unassignedTexts alertId person) effects

/-- The alert of a short id is known: its row has a Jira id, or Jira answers its alias with
one. -/
def AlertKnown (rendering : Rendering) (scan : Scan JiraAlertMap) (lookup : Text → Response)
    (botKey alertId : Text) (map : AlertMap) : Prop :=
  ∃ linked roomId alertAlias,
    ackMapping scan botKey alertId map = some (linked, roomId, alertAlias) ∧
      (strip (linked.getD []) ≠ [] ∨ strip alertAlias ≠ [] ∧
        ∃ fields, (lookup (strip alertAlias)).json? = some (.obj fields) ∧
          strip (strOrBlank rendering (get "id".toList fields)) ≠ [])

/-- No account is known for the person and the search for one succeeds with a body that is
not JSON. -/
def SearchLost (rendering : Rendering) (bot : Bot) (person : ThaumPerson) (calls : EmailCalls) :
    Prop :=
  knownAccountId person = [] ∧ SearchNeeded rendering bot.lookupPlugin person.email calls ∧
    Garbled calls.search

variable {rendering : Rendering} {scan : Scan JiraAlertMap} {bot : Bot} {calls : AckCalls}
  {now : Nat} {alertId : Text} {person : ThaumPerson} {map after : AlertMap} {db : IdentityDb}

section Rooms

/-- A row is put where all rows have a room, if it has one. Both writers end in such a write. -/
theorem Roomed.write {row : JiraAlertMap} (roomed : Roomed map) (room : strip row.roomId ≠ [])
    (free : Free JiraAlertMap.key JiraAlertMap.jiraAlertId row map.rows) :
    Roomed (map.write row free) := by
  intro other stored
  rcases (AlertMap.mem_write free).mp stored with rfl | ⟨before, _⟩
  · exact room
  · exact roomed other before

/-- `upsert_pending_row` stores rows with a room only: it refuses a blank one. -/
theorem Roomed.upsertPendingRow {commits : Bool}
    {botKey alertAlias shortId roomId senderName : Text} (roomed : Roomed map)
    (written : upsertPendingRow commits botKey alertAlias shortId roomId senderName map =
      some after) : Roomed after := by
  unfold Jira.upsertPendingRow at written
  split at written
  · obtain rfl := Option.some.inj written
    exact roomed
  · rename_i named
    split at written
    · obtain rfl := Option.some.inj written
      apply roomed.write
      have room : (pendingRow map (strip botKey) (strip alertAlias) (strip shortId) (strip roomId)
          (senderNameOrDefault senderName)).roomId = strip roomId := by
        unfold pendingRow
        cases map.row? (strip botKey) (strip alertAlias) <;> rfl
      rw [room, strip_strip]
      exact fun blank => named (Or.inr (Or.inr (Or.inr blank)))
    · cases written

/-- `apply_create_webhook` stores rows with a room only: a row that is there has one, and a new one
needs one. -/
theorem Roomed.applyCreateWebhook {commits : Bool} {jiraAlertId botKey alertAlias shortIdFallback
    roomIdFallback senderNameFallback : Text} (roomed : Roomed map)
    (written : applyCreateWebhook commits jiraAlertId botKey alertAlias shortIdFallback
      roomIdFallback senderNameFallback map = some after) : Roomed after := by
  unfold Jira.applyCreateWebhook at written
  dsimp only at written
  split at written
  · obtain rfl := Option.some.inj written
    exact roomed
  · split at written
    · split at written
      · obtain rfl := Option.some.inj written
        exact roomed
      · rename_i named
        split at written
        · cases written
        · obtain ⟨free, rfl⟩ := AlertMap.write?_some written
          apply roomed.write
          rw [strip_strip]
          exact fun blank => named (Or.inl blank)
    · rename_i row found
      split at written
      · cases written
      · obtain ⟨free, rfl⟩ := AlertMap.write?_some written
        apply roomed.write
        exact roomed row (AlertMap.row?_some found).1

end Rooms

/-- The recorded room of a known alert is not blank, so there is somebody to tell. -/
theorem Roomed.recorded (roomed : Roomed map) {botKey : Text}
    (mapped : (ackMapping scan botKey alertId map).isSome = true) :
    recordedRoom scan botKey alertId map ≠ [] := by
  obtain ⟨mapping, isMapping⟩ := Option.isSome_iff_exists.mp mapped
  rw [recordedRoom, isMapping, Option.map_some, Option.getD_some]
  unfold ackMapping mappingForShortId at isMapping
  split at isMapping
  · cases isMapping
  · split at isMapping
    · cases isMapping
    · obtain ⟨row, first, rfl⟩ := Option.map_eq_some_iff.mp isMapping
      exact roomed row (Scan.first_some first).1

/-- Jira answers an alias with an id exactly where the body is an object that has one. Every other
answer is logged and counts as none. -/
theorem lookupAlertIdByAlias_found {lookup : Text → Response} {alertAlias : Text} :
    (∃ found, lookupAlertIdByAlias rendering lookup alertAlias = some found ∧ found ≠ []) ↔
      strip alertAlias ≠ [] ∧ ∃ fields, (lookup (strip alertAlias)).json? = some (.obj fields) ∧
        strip (strOrBlank rendering (get "id".toList fields)) ≠ [] := by
  unfold lookupAlertIdByAlias
  by_cases blank : strip alertAlias = []
  · simp [blank]
  · rw [if_neg blank]
    cases body : (lookup (strip alertAlias)).json? with
    | none => simp
    | some answer => cases answer <;> simp [blank]

/-- The acknowledge request is sent for the alerts that are known, and for no others. -/
theorem ackTarget_isSome {botKey : Text} :
    (ackTarget rendering scan calls.lookup botKey alertId map).isSome = true ↔
      AlertKnown rendering scan calls.lookup botKey alertId map := by
  unfold ackTarget AlertKnown
  cases mapped : ackMapping scan botKey alertId map with
  | none => simp
  | some mapping =>
    obtain ⟨linked, roomId, alertAlias⟩ := mapping
    have byAlias := @lookupAlertIdByAlias_found rendering calls.lookup (strip alertAlias)
    rw [strip_strip] at byAlias
    simp only [Option.some.injEq, Prod.mk.injEq, Option.isSome_iff_exists,
      Option.filter_eq_some_iff, decide_eq_true_eq]
    constructor
    · rintro ⟨found, isFound, named⟩
      refine ⟨linked, roomId, alertAlias, ⟨rfl, rfl, rfl⟩, ?_⟩
      split at isFound
      · rename_i isLinked
        exact Or.inl isLinked
      · exact Or.inr (byAlias.mp ⟨found, isFound, named⟩)
    · rintro ⟨_, _, _, ⟨rfl, rfl, rfl⟩, known⟩
      by_cases isLinked : strip (linked.getD []) ≠ []
      · exact ⟨_, if_pos isLinked, isLinked⟩
      · obtain ⟨found, isFound, named⟩ := byAlias.mpr (known.resolve_left isLinked)
        exact ⟨found, (if_neg isLinked).trans isFound, named⟩

/-- What `acknowledge_alert` does to a known alert. -/
inductive AckForm (calls : AckCalls) (lost : Prop) (roomId : Text) (texts : List Text)
    (jiraAlertId : Text) : List AckEffect → Prop
  | failed (refused : calls.acknowledge.ok = false) :
      AckForm calls lost roomId texts jiraAlertId [.acknowledge jiraAlertId]
  | raised (accepted : calls.acknowledge.ok = true) (isLost : lost) :
      AckForm calls lost roomId texts jiraAlertId [.acknowledge jiraAlertId]
  | unassigned {text : Text} (found : ¬ lost) (listed : text ∈ texts) :
      AckForm calls lost roomId texts jiraAlertId [.acknowledge jiraAlertId, .say roomId text]
  | assigned {accountId : Text} (accepted : calls.acknowledge.ok = true) (found : ¬ lost)
      (assigns : calls.assign.ok = true) :
      AckForm calls lost roomId texts jiraAlertId
        [.acknowledge jiraAlertId, .assign jiraAlertId accountId]
  | unable {accountId text : Text} (accepted : calls.acknowledge.ok = true) (found : ¬ lost)
      (listed : text ∈ texts) :
      AckForm calls lost roomId texts jiraAlertId
        [.acknowledge jiraAlertId, .assign jiraAlertId accountId, .say roomId text]

/-- What `acknowledge_alert` does to a known alert is one of the forms, branch by branch. -/
theorem acknowledgeAlert_form {jiraAlertId : Text}
    (target : ackTarget rendering scan calls.lookup bot.botKey alertId map = some jiraAlertId)
    (room : recordedRoom scan bot.botKey alertId map ≠ []) :
    AckForm calls (SearchLost rendering bot person calls.email)
      (recordedRoom scan bot.botKey alertId map)
      (unassignedTexts alertId person) jiraAlertId
      (acknowledgeAlert rendering scan bot calls now alertId person map db).1 := by
  unfold recordedRoom at room
  unfold acknowledgeAlert
  rw [target]
  dsimp only
  cases accepted : calls.acknowledge.ok with
  | false => exact .failed accepted
  | true =>
    rw [if_neg (by simp)]
    cases account : personAccountId rendering bot.lookupPlugin now person calls.email db with
    | none => exact .raised accepted (personAccountId_raises.mp account)
    | some found =>
      have kept : ¬ SearchLost rendering bot person calls.email := by
        intro isLost
        have raised : personAccountId rendering bot.lookupPlugin now person calls.email db = none :=
          personAccountId_raises.mpr isLost
        rw [account] at raised
        cases raised
      dsimp only
      rw [if_neg room, if_neg room]
      by_cases blank : strip found.1 = []
      · rw [if_pos blank]
        exact .unassigned kept List.mem_cons_self
      · rw [if_neg blank]
        cases assigns : calls.assign.ok with
        | true => exact .assigned accepted kept assigns
        | false => exact .unable accepted kept (List.mem_cons_of_mem _ List.mem_cons_self)

/-- Assignments are of the acknowledged alert, if all others in the list are. -/
theorem ordered_cons {jiraAlertId : Text} {others : List AckEffect}
    (same : ∀ other accountId, AckEffect.assign other accountId ∈ others →
      other = jiraAlertId ∧ calls.acknowledge.ok = true) :
    Ordered calls (.acknowledge jiraAlertId :: others) := by
  intro before later other accountId parts
  cases before with
  | nil => cases parts
  | cons first before =>
    obtain ⟨rfl, rfl⟩ := List.cons.inj parts
    obtain ⟨rfl, accepted⟩ := same other accountId (List.mem_append_right _ List.mem_cons_self)
    exact ⟨accepted, List.mem_cons_self⟩

/-- Of what is done to a known alert only a search that raises is left without a word. The cases are
the forms. -/
theorem AckForm.settles {lost : Prop} {roomId jiraAlertId : Text} {texts : List Text}
    {effects : List AckEffect} (form : AckForm calls lost roomId texts jiraAlertId effects) :
    Ordered calls effects ∧
      (Settles calls roomId texts effects ↔ (calls.acknowledge.ok = true → ¬ lost)) := by
  cases form with
  | failed refused =>
    refine ⟨ordered_cons (by simp), ?_⟩
    rw [refused]
    refine iff_of_true ?_ (by simp)
    intro _ _ accepted
    rw [refused] at accepted
    cases accepted
  | raised accepted isLost =>
    refine ⟨ordered_cons (by simp), ?_⟩
    refine iff_of_false ?_ (by simp [accepted, isLost])
    intro settles
    have settled := settles jiraAlertId List.mem_cons_self accepted
    simp at settled
  | unassigned found listed =>
    refine ⟨ordered_cons (by simp), iff_of_true ?_ fun _ => found⟩
    intro _ _ _
    exact Or.inr ⟨_, listed, List.mem_cons_of_mem _ List.mem_cons_self⟩
  | assigned accepted found assigns =>
    refine ⟨ordered_cons ?_, iff_of_true ?_ fun _ => found⟩
    · intro other accountId listed
      obtain ⟨rfl, -⟩ := AckEffect.assign.inj (List.mem_singleton.mp listed)
      exact ⟨rfl, accepted⟩
    · intro other listed _
      obtain rfl : other = jiraAlertId := by simpa using listed
      exact Or.inl ⟨_, List.mem_cons_of_mem _ List.mem_cons_self, assigns⟩
  | unable accepted found listed =>
    refine ⟨ordered_cons ?_, iff_of_true ?_ fun _ => found⟩
    · intro other accountId assigned
      obtain ⟨rfl, -⟩ : other = jiraAlertId ∧ _ := by simpa using assigned
      exact ⟨rfl, accepted⟩
    · intro _ _ _
      exact Or.inr ⟨_, listed, List.mem_cons_of_mem _ (List.mem_cons_of_mem _ List.mem_cons_self)⟩

/-- An alert is acknowledged and then assigned, or its room is told otherwise, exactly where it is
not both acknowledged and left to a user search that succeeds without JSON.

Proof: an alert that is not known has nothing done to it. For a known one the effects have one of
the forms, and of these only the one of a lost search fails. -/
theorem acks_then_assigns_iff (rendering : Rendering) (scan : Scan JiraAlertMap) (bot : Bot)
    (calls : AckCalls) (now : Nat) (alertId : Text) (person : ThaumPerson) (map : AlertMap)
    (db : IdentityDb) (roomed : Roomed map) :
    AcksThenAssigns rendering scan bot calls now alertId person map db ↔
      ¬ (AlertKnown rendering scan calls.lookup bot.botKey alertId map ∧
        calls.acknowledge.ok = true ∧ SearchLost rendering bot person calls.email) := by
  unfold AcksThenAssigns
  dsimp only
  rw [← ackTarget_isSome]
  cases target : ackTarget rendering scan calls.lookup bot.botKey alertId map with
  | none =>
    have nothing :
        (acknowledgeAlert rendering scan bot calls now alertId person map db).1 = [] := by
      unfold acknowledgeAlert
      rw [target]
    rw [nothing]
    refine iff_of_true ⟨?_, ?_⟩ (by simp)
    · intro before after jiraAlertId accountId parts
      simp at parts
    · intro jiraAlertId listed
      cases listed
  | some jiraAlertId =>
    have mapped : (ackMapping scan bot.botKey alertId map).isSome = true := by
      unfold ackTarget at target
      cases isMapped : ackMapping scan bot.botKey alertId map with
      | none =>
        rw [isMapped] at target
        cases target
      | some mapping => rfl
    have form : AckForm calls (SearchLost rendering bot person calls.email) _
        (unassignedTexts alertId person) jiraAlertId
        (acknowledgeAlert rendering scan bot calls now alertId person map db).1 :=
      acknowledgeAlert_form target (roomed.recorded mapped)
    obtain ⟨ordered, settles⟩ := form.settles
    rw [and_iff_right ordered, settles]
    simp

section Example

/-- An alert that Jira knows, in the map. -/
def knownMap : AlertMap :=
  AlertMap.empty.write
    { botKey := "sre".toList, alertAlias := "THAUM-20260101-ABCD".toList
      shortId := "ABCD".toList, roomId := "room-a".toList, jiraAlertId := some "jira-1".toList
      senderName := "Alice".toList }
    (by intro second stored; simp [AlertMap.empty] at stored)

/-- The alert of the example has a room. -/
theorem knownMap_roomed : Roomed knownMap := by
  unfold Roomed
  decide

/-- The acknowledgment is accepted, the search answers with an HTML page. -/
def lostCalls : AckCalls where
  lookup _ := .raised
  acknowledge := .answered 202 none
  email := { lookup := .raised, search := .answered 200 none, mergeCommits := true }
  assign := .answered 202 none

/-- The acknowledgment is accepted, the search finds the account and assigning fails. -/
def refusedCalls : AckCalls :=
  { lostCalls with
    email := { lostCalls.email with
      search := .answered 200 (some (.arr [.obj [("accountId".toList, .str "acct-1".toList)]])) }
    assign := .answered 500 none }

/-- Where the search answers with an HTML page the alert stays acknowledged without a word: reading
the page as JSON raises, and nothing catches that. -/
theorem acknowledged_without_word : ¬ ∀ rendering (scan : Scan JiraAlertMap) bot calls now alertId
    person map db, Roomed map →
      AcksThenAssigns rendering scan bot calls now alertId person map db := by
  intro always
  obtain ⟨_, settles⟩ := always asciiRendering .stored exampleBot lostCalls 0 "ABCD".toList
    (.ofEmail "alice@example.com".toList) knownMap .empty knownMap_roomed
  have effects : (acknowledgeAlert asciiRendering .stored exampleBot lostCalls 0 "ABCD".toList
      (.ofEmail "alice@example.com".toList) knownMap .empty).1 =
        [.acknowledge "jira-1".toList] := by
    decide +kernel
  rw [effects] at settles
  have settled := settles "jira-1".toList List.mem_cons_self (by decide)
  simp at settled

/-- The room is told of an assignment that is refused. -/
theorem refused_assignment_told : AcksThenAssigns asciiRendering .stored exampleBot refusedCalls 0
    "ABCD".toList (.ofEmail "alice@example.com".toList) knownMap .empty := by
  apply (acks_then_assigns_iff _ _ _ _ _ _ _ _ _ knownMap_roomed).mpr
  rintro ⟨_, _, _, _, _, noJson⟩
  cases noJson

end Example

end Thaum.Jira
