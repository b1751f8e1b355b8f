import Thaum.Library.PyText

/-!
# People, teams and alert priorities

The values the plugins hand to one another. The chat bot a team refers to is left
out. Clock readings count microseconds since the epoch and lifetimes whole seconds.
-/

namespace Thaum

open PyText

/-- `ThaumPerson`; the platform ids are a dictionary in insertion order. -/
structure ThaumPerson where
  email : Text
  displayName : Option Text
  platformIds : List (Text × Text)
  sourcePlugin : Text
deriving DecidableEq

/-- `ThaumPerson(email=email)`. -/
def ThaumPerson.ofEmail (email : Text) : ThaumPerson :=
  { email, displayName := none, platformIds := [], sourcePlugin := "unknown".toList }

/-- `ThaumPerson.for_display`. -/
def ThaumPerson.forDisplay (person : ThaumPerson) : Text :=
  orElse (person.displayName.getD []) person.email

/-- `ThaumTeam` without its bot, with the time and lifetime of its membership. -/
structure ThaumTeam where
  teamName : Text
  lookupId : Option Text
  alertId : Option Text
  members : List ThaumPerson
  lastCached : Nat
  ttl : Int
deriving DecidableEq

/-- The dataclass default of `ttl`, four hours. -/
def defaultTtl : Int := 14400

/-- `ThaumTeam(bot, team_name, alert_id=id, lookup_id=id)`, cached at the reading. -/
def ThaumTeam.ofId (teamName teamId : Text) (now : Nat) : ThaumTeam :=
  { teamName, lookupId := some teamId, alertId := some teamId, members := [], lastCached := now
    ttl := defaultTtl }

/-- `is_fresh` at a clock reading. -/
def ThaumTeam.isFresh (team : ThaumTeam) (now : Nat) : Bool :=
  decide ((now : Int) - team.lastCached < team.ttl * 1000000)

/-- The emails of a team object's members. -/
def ThaumTeam.emails (team : ThaumTeam) : List Text := team.members.map ThaumPerson.email

/-- `RespondersList`: people and teams, each in the order they were added. -/
structure RespondersList where
  people : List ThaumPerson
  teams : List ThaumTeam
deriving DecidableEq

/-- `__add__` of a person. -/
def RespondersList.addPerson (out : RespondersList) (person : ThaumPerson) : RespondersList :=
  { out with people := out.people ++ [person] }

/-- `__add__` of a team. -/
def RespondersList.addTeam (out : RespondersList) (team : ThaumTeam) : RespondersList :=
  { out with teams := out.teams ++ [team] }

/-- `__add__` of another list. -/
def RespondersList.add (out other : RespondersList) : RespondersList where
  people := out.people ++ other.people
  teams := out.teams ++ other.teams

/-- `AlertPriority`. -/
inductive AlertPriority where
  | normal | high
deriving DecidableEq

end Thaum
