import Thaum.Jira.Payload

/-!
# The responders of an alert, each once

`responders_list_to_jira_payload` takes any function that resolves an email to an account.
Its answers are given here by the position of the person it is called for, so they may
change from call to call. Teams and people pass one list of seen keys, but a key holds the
type, so neither kind hides an id of the other.

The invariant of both loops speaks of the ids met so far: each that is not blank has one
entry, and the entries stand in the order in which their ids were first met.
-/

namespace Thaum.Jira

open PyText PyJson Lookup

/-- What `resolve_email_to_account_id` answers for the person at a position. -/
abbrev Resolver := (position : Nat) → (email : Text) → Option Text

/-- The account id of the person at a position, blank for none. -/
def accountIdAt (resolve : Resolver) (position : Nat) (person : ThaumPerson) : Text :=
  orElse (knownAccountId person) ((resolve position person.email).getD [])

/-- The loop over the people, from a position on. -/
def addResolved (resolve : Resolver) :
    Nat → List ThaumPerson → List JiraResponder → List JiraResponder
  | _, [], payload => payload
  | position, person :: rest, payload =>
    addResolved resolve (position + 1) rest
      (addPerson payload (accountIdAt resolve position person))

/-- `responders_list_to_jira_payload` with a resolver that does not raise. -/
def responderPayload (resolve : Resolver) (responders : RespondersList) : List JiraResponder :=
  addResolved resolve 0 responders.people (responders.teams.foldl addTeam [])

/-- The id of every team, blank for none. -/
def teamIds (responders : RespondersList) : List Text := responders.teams.map teamAlertId

/-- The account id of every person from a position on, blank for none. -/
def accountIdsFrom (resolve : Resolver) (position : Nat) (people : List ThaumPerson) :
    List Text :=
  people.mapIdx fun i => accountIdAt resolve (position + i)

/-- The account id of every person, blank for none. -/
def accountIds (resolve : Resolver) (responders : RespondersList) : List Text :=
  accountIdsFrom resolve 0 responders.people

/-- Entries of one type: every id that is not blank once, and none else, in the order in
which the ids come first. -/
structure EachOnce (type : ResponderType) (ids : List Text) (entries : List JiraResponder) :
    Prop where
  typed : ∀ entry ∈ entries, entry.type = type
  once : ∀ id, entries.count ⟨type, id⟩ = if id ≠ [] ∧ id ∈ ids then 1 else 0
  distinct : entries.Nodup
  ordered : entries.Pairwise fun first second => ids.idxOf first.id < ids.idxOf second.id

/-- Add an entry of a type unless its id is blank. -/
def addId (type : ResponderType) (payload : List JiraResponder) (id : Text) :
    List JiraResponder :=
  if id = [] then payload else addResponder payload ⟨type, id⟩

variable {type : ResponderType} {ids : List Text} {id : Text} {resolve : Resolver}
  {payload before entries : List JiraResponder} {rendering : Rendering}
  {lookup : Option LookupPlugin} {now position : Nat} {calls : Nat → EmailCalls}
  {db after : IdentityDb}

/-- The loop over the teams reads only their ids. -/
theorem foldl_addTeam (teams : List ThaumTeam) (payload : List JiraResponder) :
    teams.foldl addTeam payload = (teams.map teamAlertId).foldl (addId .team) payload := by
  rw [List.foldl_map]
  rfl

/-- The loop over the people reads only their account ids, which depend on their positions. -/
theorem addResolved_eq (position : Nat) (people : List ThaumPerson)
    (payload : List JiraResponder) :
    addResolved resolve position people payload =
      (accountIdsFrom resolve position people).foldl (addId .user) payload := by
  induction people generalizing position payload with
  | nil => rfl
  | cons person rest inductionHypothesis =>
    have later : (fun i => accountIdAt resolve (position + (i + 1))) =
        fun i => accountIdAt resolve (position + 1 + i) :=
      funext fun i => by rw [Nat.add_right_comm, Nat.add_assoc]
    rw [addResolved, inductionHypothesis, accountIdsFrom, accountIdsFrom, List.mapIdx_cons,
      later]
    rfl

/-- The payload is that of two loops over ids, of the teams and then of the people. -/
theorem responderPayload_eq (responders : RespondersList) :
    responderPayload resolve responders =
      (accountIds resolve responders).foldl (addId .user)
        ((teamIds responders).foldl (addId .team) []) := by
  rw [responderPayload, addResolved_eq, foldl_addTeam]
  rfl

namespace EachOnce

/-- Nothing was met and there are no entries. -/
theorem nil (type : ResponderType) : EachOnce type [] [] where
  typed := by simp
  once := by simp
  distinct := List.nodup_nil
  ordered := List.Pairwise.nil

/-- An entry has the id of its place, and every id that is not blank has one. -/
theorem mem_iff (lists : EachOnce type ids entries) :
    ⟨type, id⟩ ∈ entries ↔ id ≠ [] ∧ id ∈ ids := by
  rw [← List.count_pos_iff, lists.once]
  split
  · rename_i named
    exact iff_of_true Nat.one_pos named
  · rename_i unnamed
    exact iff_of_false (lt_irrefl 0) unnamed

/-- The id of an entry was met. -/
theorem id_mem (lists : EachOnce type ids entries) {entry : JiraResponder}
    (listed : entry ∈ entries) : entry.id ∈ ids := by
  have typed := lists.typed entry listed
  have whole : (⟨type, entry.id⟩ : JiraResponder) = entry := by rw [← typed]
  exact (lists.mem_iff.mp (whole ▸ listed)).2

/-- Ids that are blank or were met are blank or have an entry, so they add none. -/
theorem met {more : List Text} (lists : EachOnce type ids entries)
    (known : ∀ id ∈ more, id = [] ∨ id ∈ ids) :
    ∀ id ∈ more, id = [] ∨ ⟨type, id⟩ ∈ entries := by
  intro id listed
  rcases known id listed with blank | seen
  · exact .inl blank
  · by_cases blank : id = []
    · exact .inl blank
    · exact .inr (lists.mem_iff.mpr ⟨blank, seen⟩)

/-- An id that adds no entry keeps the order of those there are, as it is met after all of them. -/
theorem ordered_append (lists : EachOnce type ids entries) (id : Text) :
    entries.Pairwise fun first second =>
      (ids ++ [id]).idxOf first.id < (ids ++ [id]).idxOf second.id := by
  refine lists.ordered.imp_of_mem ?_
  intro first second isFirst isSecond earlier
  rw [List.idxOf_append_of_mem (lists.id_mem isFirst),
    List.idxOf_append_of_mem (lists.id_mem isSecond)]
  exact earlier

/-- An id that is blank or was met needs no entry. -/
theorem append_met (lists : EachOnce type ids entries) (settled : id = [] ∨ id ∈ ids) :
    EachOnce type (ids ++ [id]) entries := by
  refine ⟨lists.typed, ?_, lists.distinct, lists.ordered_append id⟩
  intro other
  have stillMet : other ≠ [] ∧ other ∈ ids ↔ other ≠ [] ∧ other ∈ ids ++ [id] := by
    rw [List.mem_append, List.mem_singleton]
    constructor
    · rintro ⟨named, met⟩
      exact ⟨named, .inl met⟩
    · rintro ⟨named, met | rfl⟩
      · exact ⟨named, met⟩
      · exact ⟨named, settled.resolve_left named⟩
  rw [lists.once]
  exact if_congr stillMet rfl rfl

/-- One turn of a loop keeps the invariant, with the id that it met. Either the id is settled, or it
gets an entry behind all others. -/
theorem addId (lists : EachOnce type ids entries) (id : Text) :
    EachOnce type (ids ++ [id]) (addId type entries id) := by
  by_cases blank : id = []
  · have same : Jira.addId type entries id = entries := if_pos blank
    rw [same]
    exact lists.append_met (.inl blank)
  · have shape : Jira.addId type entries id = addResponder entries ⟨type, id⟩ := if_neg blank
    rw [shape, addResponder]
    split
    · rename_i seen
      exact lists.append_met (.inr (lists.mem_iff.mp seen).2)
    · rename_i unseen
      have unmet : id ∉ ids := fun met => unseen (lists.mem_iff.mpr ⟨blank, met⟩)
      refine ⟨?_, ?_, ?_, ?_⟩
      · intro entry listed
        rcases List.mem_append.mp listed with old | new
        · exact lists.typed entry old
        · rw [List.mem_singleton.mp new]
      · intro other
        rw [List.count_append, lists.once, List.count_singleton]
        by_cases same : other = id
        · subst same
          simp [unmet, blank]
        · have apart : (⟨type, id⟩ : JiraResponder) ≠ ⟨type, other⟩ :=
            fun equal => same (JiraResponder.mk.inj equal).2.symm
          simp [same, apart]
      · exact List.concat_eq_append ▸ lists.distinct.concat unseen
      · rw [List.pairwise_append]
        refine ⟨lists.ordered_append id, List.pairwise_singleton _ _, ?_⟩
        intro first isFirst second isSecond
        rw [List.mem_singleton.mp isSecond, List.idxOf_append_of_mem (lists.id_mem isFirst),
          List.idxOf_append_of_notMem unmet, List.idxOf_cons_self]
        exact List.idxOf_lt_length_of_mem (lists.id_mem isFirst)

/-- A whole loop keeps it, with all the ids. -/
theorem foldl_addId (lists : EachOnce type ids entries) (more : List Text) :
    EachOnce type (ids ++ more) (more.foldl (Jira.addId type) entries) := by
  induction more generalizing ids entries with
  | nil => rwa [List.append_nil]
  | cons id more inductionHypothesis =>
    rw [List.foldl_cons, ← List.singleton_append, ← List.append_assoc]
    exact inductionHypothesis (lists.addId id)

end EachOnce

/-- Entries of other types stay in front and hide no id, as the key of an entry holds its type. -/
theorem foldl_addId_append (others : ∀ entry ∈ before, entry.type ≠ type) (ids : List Text) :
    ids.foldl (addId type) (before ++ entries) = before ++ ids.foldl (addId type) entries := by
  induction ids generalizing entries with
  | nil => rfl
  | cons id ids inductionHypothesis =>
    have behind : addId type (before ++ entries) id = before ++ addId type entries id := by
      have outside : (⟨type, id⟩ : JiraResponder) ∉ before := fun listed =>
        others _ listed rfl
      unfold addId addResponder
      by_cases blank : id = []
      · simp [blank]
      · by_cases seen : (⟨type, id⟩ : JiraResponder) ∈ entries
        · simp [blank, seen]
        · simp [blank, seen, outside]
    rw [List.foldl_cons, List.foldl_cons, behind, inductionHypothesis]

/-- Ids that are blank or have an entry add none. -/
theorem foldl_addId_met (met : ∀ id ∈ ids, id = [] ∨ ⟨type, id⟩ ∈ payload) :
    ids.foldl (addId type) payload = payload := by
  induction ids with
  | nil => rfl
  | cons id ids inductionHypothesis =>
    have same : addId type payload id = payload := by
      rcases met id List.mem_cons_self with blank | seen
      · exact if_pos blank
      · unfold addId addResponder
        rw [if_pos seen, ite_self]
    rw [List.foldl_cons, same]
    exact inductionHypothesis fun other listed => met other (List.mem_cons_of_mem _ listed)

/-- The payload in its two parts, each of which has its ids once and in order. -/
theorem responderPayload_parts (resolve : Resolver) (responders : RespondersList) :
    ∃ teams people, responderPayload resolve responders = teams ++ people ∧
      EachOnce .team (teamIds responders) teams ∧
      EachOnce .user (accountIds resolve responders) people := by
  have teams := (EachOnce.nil .team).foldl_addId (teamIds responders)
  have people := (EachOnce.nil .user).foldl_addId (accountIds resolve responders)
  rw [List.nil_append] at teams people
  refine ⟨_, _, ?_, teams, people⟩
  have others : ∀ entry ∈ (teamIds responders).foldl (addId .team) [],
      entry.type ≠ .user := by
    intro entry listed
    rw [teams.typed entry listed]
    decide
  have apart := @foldl_addId_append .user _ [] others (accountIds resolve responders)
  rw [List.append_nil] at apart
  rw [responderPayload_eq, apart]

/-- No entry of the payload comes twice: the two parts differ in type, and each has no
repetition. -/
theorem responderPayload_nodup (resolve : Resolver) (responders : RespondersList) :
    (responderPayload resolve responders).Nodup := by
  obtain ⟨teams, people, parts, listedTeams, listedPeople⟩ :=
    responderPayload_parts resolve responders
  rw [parts]
  refine listedTeams.distinct.append listedPeople.distinct ?_
  intro entry isTeam isPerson
  have both := (listedTeams.typed entry isTeam).symm.trans (listedPeople.typed entry isPerson)
  cases both

/-- The ids of appended people are those at the positions behind the first ones. -/
theorem accountIds_add (resolve : Resolver) (responders more : RespondersList) :
    accountIds resolve (responders.add more) =
      accountIds resolve responders ++
        accountIdsFrom resolve responders.people.length more.people := by
  simp only [accountIds, accountIdsFrom, RespondersList.add, List.mapIdx_append, Nat.zero_add]
  refine congrArg _ (congrArg (List.mapIdx · more.people) (funext fun i => ?_))
  rw [Nat.add_comm]

/-- The resolver that the plugin passes, with the answers it has from its lookups and its
searches. -/
def emailResolver (rendering : Rendering) (lookup : Option LookupPlugin) (now : Nat)
    (calls : Nat → EmailCalls) : Resolver := fun position email =>
  (resolveEmailToAccountId rendering lookup now email (calls position) .empty).bind Prod.fst

/-- A person whose account could be resolved is resolved to what the resolver of the plugin
answers. -/
theorem personAccountId_resolver {person : ThaumPerson} {found : Text}
    (resolved : personAccountId rendering lookup now person (calls position) db =
      some (found, after)) :
    found = accountIdAt (emailResolver rendering lookup now calls) position person := by
  have cacheless := @personAccountId_account rendering lookup now person (calls position) db .empty
  rw [resolved, Option.map_some] at cacheless
  unfold personAccountId at cacheless
  unfold accountIdAt emailResolver orElse
  by_cases known : knownAccountId person = []
  · rw [if_neg (not_not_intro known), Option.map_map] at cacheless
    rw [if_pos known]
    obtain ⟨answer, isAnswer, same⟩ := Option.map_eq_some_iff.mp cacheless.symm
    rw [isAnswer, Option.bind_some]
    exact same.symm
  · rw [if_pos known, Option.map_some] at cacheless
    rw [if_neg known]
    exact Option.some.inj cacheless

/-- So are all people, where none of them raises. -/
theorem addPeople_resolved {people : List ThaumPerson} {added : List JiraResponder}
    (adds : addPeople rendering lookup now calls position people payload db =
      some (added, after)) :
    added = addResolved (emailResolver rendering lookup now calls) position people payload := by
  induction people generalizing position payload db with
  | nil => exact (Prod.mk.inj (Option.some.inj adds)).1.symm
  | cons person rest inductionHypothesis =>
    rw [addPeople] at adds
    cases resolved : personAccountId rendering lookup now person (calls position) db with
    | none => simp [resolved] at adds
    | some found =>
      rw [resolved] at adds
      rw [addResolved, ← personAccountId_resolver resolved]
      exact inductionHypothesis adds

/-- What the plugin posts is the payload of its resolver, wherever that does not raise. This
connects the loops over ids to the plugin. -/
theorem respondersListToJiraPayload_resolved {responders : RespondersList}
    (listed : respondersListToJiraPayload rendering lookup now responders calls db =
      some (payload, after)) :
    payload = responderPayload (emailResolver rendering lookup now calls) responders :=
  addPeople_resolved listed

/-- The payload has every id of a team and of a person once, teams first and in the order of their
first mention; responders whose ids it has change nothing.

Proof: the invariant of the loops gives the two parts. More responders whose ids were met add
nothing in either loop, as ids that were met are skipped. -/
theorem each_responder_once (resolve : Resolver) (responders : RespondersList) :
    (responderPayload resolve responders).Nodup ∧
    (∃ teams people, responderPayload resolve responders = teams ++ people ∧
      EachOnce .team (teamIds responders) teams ∧
      EachOnce .user (accountIds resolve responders) people) ∧
    ∀ more : RespondersList,
      (∀ id ∈ teamIds more, id = [] ∨ id ∈ teamIds responders) →
      (∀ id ∈ accountIdsFrom resolve responders.people.length more.people,
        id = [] ∨ id ∈ accountIds resolve responders) →
      responderPayload resolve (responders.add more) = responderPayload resolve responders := by
  refine ⟨responderPayload_nodup resolve responders, responderPayload_parts resolve responders,
    ?_⟩
  intro more teamsMet peopleMet
  have allTeams : teamIds (responders.add more) = teamIds responders ++ teamIds more :=
    List.map_append
  have listedTeams := (EachOnce.nil .team).foldl_addId (teamIds responders)
  rw [List.nil_append] at listedTeams
  have sameTeams : (teamIds (responders.add more)).foldl (addId .team) [] =
      (teamIds responders).foldl (addId .team) [] := by
    rw [allTeams, List.foldl_append]
    exact foldl_addId_met (listedTeams.met teamsMet)
  obtain ⟨teams, people, parts, -, listedPeople⟩ := responderPayload_parts resolve responders
  rw [responderPayload_eq, sameTeams, accountIds_add, List.foldl_append, ← responderPayload_eq]
  refine foldl_addId_met fun id listed => ?_
  rw [parts]
  exact (listedPeople.met peopleMet id listed).imp_right (List.mem_append_right teams)

section Example

/-- Ada, cached with her Jira id. -/
def ada : ThaumPerson :=
  { ThaumPerson.ofEmail "ada@example.com".toList with
    platformIds := [("jira".toList, " acct-1 ".toList)] }

/-- An address of hers that has to be resolved. -/
def adasAlias : ThaumPerson := ThaumPerson.ofEmail "a.l@example.com".toList

/-- A resolver that knows one account. -/
def aliasResolver : Resolver := fun _ email =>
  if email = adasAlias.email then some "acct-1".toList else none

/-- A team. -/
def oncall : ThaumTeam := ThaumTeam.ofId "Oncall".toList "team-1".toList 0

/-- Both people have one account, so the second of them adds nothing. -/
theorem alias_adds_nothing :
    responderPayload aliasResolver ⟨[ada], [oncall]⟩ =
        [⟨.team, "team-1".toList⟩, ⟨.user, "acct-1".toList⟩] ∧
      responderPayload aliasResolver (RespondersList.add ⟨[ada], [oncall]⟩ ⟨[adasAlias], []⟩) =
        responderPayload aliasResolver ⟨[ada], [oncall]⟩ :=
  ⟨by decide, (each_responder_once aliasResolver ⟨[ada], [oncall]⟩).2.2 ⟨[adasAlias], []⟩
    (by decide) (by decide)⟩

end Example

end Thaum.Jira
