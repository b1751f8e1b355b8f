import Thaum.Jira.StatusWebhook

/-!
# Acknowledging an alert

`acknowledge_alert` finds the alert of a short id in the alert map, asks Jira for the
id of its alias where the row has none yet, acknowledges the alert and assigns it to
the person. What it does outside is recorded in order.
-/

namespace Thaum.Jira

open PyText PyJson PyRequests KeyedRows Lookup

/-- A request or message of `acknowledge_alert`. -/
inductive AckEffect where
  | acknowledge : (jiraAlertId : Text) → AckEffect
  | assign : (jiraAlertId accountId : Text) → AckEffect
  | say : (roomId text : Text) → AckEffect
deriving DecidableEq

/-- How the calls of `acknowledge_alert` end, each if it is made. -/
structure AckCalls where
  lookup : (alertAlias : Text) → Response
  acknowledge : Response
  email : EmailCalls
  assign : Response

/-- `_lookup_alert_id_by_alias`; `none` where it raises. -/
def lookupAlertIdByAlias (rendering : Rendering) (lookup : Text → Response) (alertAlias : Text) :
    Option Text :=
  if strip alertAlias = [] then some []
  else (lookup (strip alertAlias)).json?.map fun body =>
    match body with
    | .obj fields => strip (strOrBlank rendering (get "id".toList fields))
    | _ => []

/-- The mapping `acknowledge_alert` works with. -/
def ackMapping (scan : Scan JiraAlertMap) (botKey alertId : Text) (map : AlertMap) :
    Option (Option Text × Text × Text) :=
  if botKey = [] then none else mappingForShortId scan (upper (strip alertId)) botKey map

/-- The alert the acknowledge request is for; `none` where it raises before that. -/
def ackTarget (rendering : Rendering) (scan : Scan JiraAlertMap) (lookup : Text → Response)
    (botKey alertId : Text) (map : AlertMap) : Option Text :=
  match ackMapping scan botKey alertId map with
  | none => none
  | some (linked, _, alertAlias) =>
    let found := if strip (linked.getD []) ≠ [] then some (strip (linked.getD []))
      else lookupAlertIdByAlias rendering lookup (strip alertAlias)
    found.filter (· ≠ [])

/-- `acknowledge_alert`: its effects, whether it raises, and the identity cache after it. -/
def acknowledgeAlert (rendering : Rendering) (scan : Scan JiraAlertMap) (bot : Bot)
    (calls : AckCalls) (now : Nat) (alertId : Text) (person : ThaumPerson) (map : AlertMap)
    (db : IdentityDb) : List AckEffect × Bool × IdentityDb :=
  let shortId := upper (strip alertId)
  let roomId := strip (((ackMapping scan bot.botKey alertId map).map fun row => row.2.1).getD [])
  let tell (outcome : Text) : List AckEffect :=
    if roomId = [] then []
    else [.say roomId ("Alert **".toList ++ shortId ++ "** acknowledged, but ".toList ++ outcome)]
  match ackTarget rendering scan calls.lookup bot.botKey alertId map with
  | none => ([], true, db)
  | some jiraAlertId =>
    let acknowledged := [AckEffect.acknowledge jiraAlertId]
    if !calls.acknowledge.ok then (acknowledged, true, db)
    else match personAccountId rendering bot.lookupPlugin now person calls.email db with
      | none => (acknowledged, true, db)
      | some (accountId, db) =>
        if strip accountId = [] then
          (acknowledged ++ tell ("I could not assign it to ".toList ++ person.forDisplay ++ ['.']),
            false, db)
        else
          let assigned := acknowledged ++ [.assign jiraAlertId (strip accountId)]
          if calls.assign.ok then (assigned, false, db)
          else (assigned ++
            tell ("assignment to ".toList ++ person.forDisplay ++ " failed.".toList), false, db)

/-- The alert a request is about. -/
def AckEffect.alertId? : AckEffect → Option Text
  | acknowledge jiraAlertId | assign jiraAlertId _ => some jiraAlertId
  | say _ _ => none

/-- The alert is acknowledged first, and no other alert is touched. -/
def ActsOn (effects : List AckEffect) (jiraAlertId : Text) : Prop :=
  effects.head? = some (.acknowledge jiraAlertId) ∧
    ∀ effect ∈ effects, ∀ other, effect.alertId? = some other → other = jiraAlertId

variable {rendering : Rendering} {scan : Scan JiraAlertMap} {bot : Bot} {calls : AckCalls}
  {now : Nat} {alertId : Text} {person : ThaumPerson} {map : AlertMap} {db : IdentityDb}

/-- An acknowledgment followed by requests about the same alert acts on that alert. -/
theorem actsOn_cons {jiraAlertId : Text} {others : List AckEffect}
    (same : ∀ effect ∈ others, ∀ other, effect.alertId? = some other → other = jiraAlertId) :
    ActsOn (.acknowledge jiraAlertId :: others) jiraAlertId :=
  ⟨rfl, List.forall_mem_cons.mpr ⟨fun _ isOther => (Option.some.inj isOther).symm, same⟩⟩

/-- `acknowledge_alert` acts on the alert of its target, and without a target on none. -/
theorem acknowledgeAlert_acts {jiraAlertId : Text} :
    ActsOn (acknowledgeAlert rendering scan bot calls now alertId person map db).1 jiraAlertId ↔
      ackTarget rendering scan calls.lookup bot.botKey alertId map = some jiraAlertId := by
  unfold acknowledgeAlert
  cases target : ackTarget rendering scan calls.lookup bot.botKey alertId map with
  | none => simp [ActsOn]
  | some found =>
    have first : ∀ others : List AckEffect,
        (∀ effect ∈ others, ∀ other, effect.alertId? = some other → other = found) →
          (ActsOn (.acknowledge found :: others) jiraAlertId ↔
            some found = some jiraAlertId) := by
      intro others same
      constructor
      · rintro ⟨isFirst, -⟩
        exact congrArg some (AckEffect.acknowledge.inj (Option.some.inj isFirst))
      · intro isTarget
        obtain rfl := Option.some.inj isTarget
        exact actsOn_cons same
    have told : ∀ roomId text effect, effect ∈ (if roomId = [] then []
        else [AckEffect.say roomId text]) → ∀ other, effect.alertId? = some other →
          other = found := by
      intro roomId text effect said other isOther
      split at said
      · simp at said
      · obtain rfl := List.mem_singleton.mp said
        simp [AckEffect.alertId?] at isOther
    dsimp only
    split
    · exact first [] (by simp)
    · split
      · exact first [] (by simp)
      · split
        · exact first _ (told _ _)
        · have assigned : ∀ accountId other,
              (AckEffect.assign found accountId).alertId? = some other → other = found :=
            fun _ _ isOther => (Option.some.inj isOther).symm
          split
          · exact first [_] (by simpa using assigned _)
          · exact first (_ :: _) (List.forall_mem_cons.mpr ⟨assigned _, told _ _⟩)

end Thaum.Jira
