import Thaum.Library.GuardedRuns
import Thaum.Lookup.PlatformIds

/-!
# The people a Webex bot meets

The bot knows its users by person id. `get_person` asks the identity cache first and
the Webex API only on a miss, and merges what it gets into the cache. Where the API
call fails it invents a person whose email is made of the person id, and merges that
one as well.

An id is never moved once it is bound, so the first call for an id decides which email
every later call answers.
-/

namespace Thaum.Bots

open PyText KeyedRows GuardedRuns Lookup

/-- What `people.get` answers, as far as it is read. -/
structure WebexPerson where
  emails : List Text
  displayName : Option Text

/-- `WebexChatBot.plugin_name`. -/
def webexPluginName : Text := "webex".toList

/-- `f"{person_id}@{self.plugin_name}"`. -/
def inventedEmail (personId : Text) : Text := personId ++ '@' :: webexPluginName

/-- `_get_person_from_api`, given the answer of `people.get`, `none` where it raises. -/
def getPersonFromApi (personId : Text) : Option WebexPerson → ThaumPerson
  | some person =>
    { email := orElse (person.emails.head?.getD []) (inventedEmail personId)
      displayName := person.displayName
      platformIds := [(webexPluginName, personId)], sourcePlugin := webexPluginName }
  | none =>
    { email := inventedEmail personId, displayName := some []
      platformIds := [(webexPluginName, personId)], sourcePlugin := webexPluginName }

/-- A call of `get_person`: its clock, and what `people.get` answers if it is asked. -/
structure PersonCall where
  now : Nat
  answer : Option WebexPerson

/-- `get_person`: the tables after it and the person it returns. -/
def getPerson (lookup : Option LookupPlugin) (personId : Text) (db : IdentityDb)
    (call : PersonCall) : IdentityDb × ThaumPerson :=
  let fragment := getPersonFromApi personId call.answer
  match lookup with
  | none => (db, fragment)
  | some plugin =>
    match getPersonById plugin db webexPluginName personId with
    | some cached => (db, cached)
    | none => mergePerson plugin call.now fragment db

/-- The tables after a call. -/
def callStep (plugin : LookupPlugin) (personId : Text) (db : IdentityDb) (call : PersonCall) :
    IdentityDb := (getPerson (some plugin) personId db call).1

/-- The Webex API answers the call. -/
def PersonCall.Healthy (call : PersonCall) : Prop := call.answer.isSome = true

/-- The id is bound to the email of a stored person. -/
def BoundTo (personId email : Text) (db : IdentityDb) : Prop :=
  ∃ row, get SchemaPlatformId.key (webexPluginName, personId) db.platformIds = some row ∧
    row.email = email ∧ email ≠ [] ∧ Known db email

variable {plugin : LookupPlugin} {personId email : Text} {db : IdentityDb} {call : PersonCall}
  {calls : List PersonCall}

/-- An invented email is not empty. -/
theorem inventedEmail_nonempty (personId : Text) : inventedEmail personId ≠ [] := by
  simp [inventedEmail]

/-- A person of the API always has an email, the invented one if no other. -/
theorem getPersonFromApi_email (personId : Text) (answer : Option WebexPerson) :
    (getPersonFromApi personId answer).email ≠ [] := by
  cases answer with
  | none => exact inventedEmail_nonempty personId
  | some person =>
    simp only [getPersonFromApi, orElse]
    split
    · exact inventedEmail_nonempty personId
    · assumption

/-- Once the id is bound a call changes nothing and answers the person of its email, without asking
the API. -/
theorem BoundTo.getPerson (bound : BoundTo personId email db) (call : PersonCall) :
    (getPerson (some plugin) personId db call).1 = db ∧
      (getPerson (some plugin) personId db call).2.email = email := by
  obtain ⟨row, found, own, named, known⟩ := bound
  have isKnown : (readPersonByEmail plugin db email).isSome = true :=
    readPersonByEmail_isSome.mpr known
  obtain ⟨person, read⟩ := Option.isSome_iff_exists.mp isKnown
  have cached : getPersonById plugin db webexPluginName personId = some person := by
    simp only [getPersonById, found, own, named, if_false]
    exact read
  simp only [Bots.getPerson, cached, true_and]
  exact readPersonByEmail_email read

/-- The first call for an id binds it and answers what the API led to, which is the invented person
where the API fails. -/
theorem getPerson_first
    (unbound : get SchemaPlatformId.key (webexPluginName, personId) db.platformIds = none) :
    BoundTo personId (getPersonFromApi personId call.answer).email
        (callStep plugin personId db call) ∧
      (getPerson (some plugin) personId db call).2.email =
        (getPersonFromApi personId call.answer).email := by
  have uncached : getPersonById plugin db webexPluginName personId = none := by
    rw [getPersonById, unbound]
  have ids : (getPersonFromApi personId call.answer).platformIds =
      [(webexPluginName, personId)] := by
    cases call.answer <;> rfl
  have merged : getPerson (some plugin) personId db call =
      mergePerson plugin call.now (getPersonFromApi personId call.answer) db := by
    simp only [getPerson, uncached]
  rw [callStep, merged]
  constructor
  · refine ⟨⟨webexPluginName, personId, (getPersonFromApi personId call.answer).email⟩, ?_, rfl,
      getPersonFromApi_email _ _, known_mergePersonDb_self⟩
    simp only [mergePerson, mergePersonDb, ids, List.foldl_cons, List.foldl_nil, bindPlatformId,
      unbound]
    exact get_append_fresh unbound rfl
  · exact mergePerson_email

/-- Calls for a bound id all answer the person of its email, so no number of them changes the
tables. -/
theorem BoundTo.run (bound : BoundTo personId email db) (calls : List PersonCall) :
    run (callStep plugin personId) db calls = db := by
  induction calls with
  | nil => rfl
  | cons call rest inductionHypothesis =>
    rw [run_cons, callStep, (bound.getPerson call).1]
    exact inductionHypothesis

/-- Every call answers the email that the first call was led to. Later answers of the API are never
asked for. -/
theorem every_answer {first : PersonCall} {rest before after : List PersonCall}
    (unbound : get SchemaPlatformId.key (webexPluginName, personId) db.platformIds = none)
    (split : first :: rest = before ++ call :: after) :
    (getPerson (some plugin) personId (run (callStep plugin personId) db before) call).2.email =
      (getPersonFromApi personId first.answer).email := by
  cases before with
  | nil =>
    obtain ⟨rfl, _⟩ := List.cons.inj split
    exact (getPerson_first unbound).2
  | cons earlier between =>
    obtain ⟨rfl, _⟩ := List.cons.inj split
    have bound : BoundTo personId (getPersonFromApi personId first.answer).email
        (callStep plugin personId db first) := (getPerson_first unbound).1
    rw [run_cons, bound.run between]
    exact (bound.getPerson call).2

/-- The calls answered by the API answer the person's email. -/
def AnswersEmail (plugin : LookupPlugin) (personId email : Text) (db : IdentityDb)
    (calls : List PersonCall) : Prop :=
  ∀ before call after, calls = before ++ call :: after → call.Healthy →
    (getPerson (some plugin) personId (run (callStep plugin personId) db before) call).2.email =
      email

/-- From a cache without the id, every call made while the API answers returns the person with the
email the API knows, exactly if the API answers the first call or none at all, or the email is the
invented one.

Proof: every call answers what the first one was led to, so all depends on that call. Where the API
answered it, the email is the one that it knows; otherwise it is the invented one. -/
theorem email_answered_iff (plugin : LookupPlugin) (personId email : Text) (db : IdentityDb)
    (unbound : get SchemaPlatformId.key (webexPluginName, personId) db.platformIds = none)
    (calls : List PersonCall)
    (truthful : ∀ call ∈ calls, ∀ person ∈ call.answer, person.emails.head? = some email) :
    AnswersEmail plugin personId email db calls ↔
      (∀ call ∈ calls, ¬ call.Healthy) ∨ email = inventedEmail personId ∨
        (email ≠ [] ∧ ∀ first ∈ calls.head?, first.Healthy) := by
  cases calls with
  | nil => simp [AnswersEmail]
  | cons first rest =>
    have settled : AnswersEmail plugin personId email db (first :: rest) ↔
        ∀ call ∈ first :: rest, call.Healthy →
          (getPersonFromApi personId first.answer).email = email := by
      constructor
      · intro answers call listed healthy
        obtain ⟨before, after, split⟩ := List.append_of_mem listed
        exact (every_answer unbound split).symm.trans (answers before call after split healthy)
      · intro same before call after split healthy
        rw [every_answer unbound split]
        exact same call (by simp [split]) healthy
    have led : (getPersonFromApi personId first.answer).email = email ↔
        email = inventedEmail personId ∨ (email ≠ [] ∧ first.Healthy) := by
      cases answered : first.answer with
      | none => simp [getPersonFromApi, PersonCall.Healthy, answered, eq_comm]
      | some person =>
        have isEmail := truthful first List.mem_cons_self person answered
        simp only [getPersonFromApi, isEmail, Option.getD_some, orElse, PersonCall.Healthy,
          answered]
        by_cases blank : email = []
        · rw [if_pos blank]
          constructor
          · exact fun same => Or.inl same.symm
          · rintro (same | ⟨named, _⟩)
            · exact same.symm
            · exact absurd blank named
        · rw [if_neg blank]
          simp [blank]
    rw [settled]
    constructor
    · intro same
      by_cases silent : ∀ call ∈ first :: rest, ¬ call.Healthy
      · exact Or.inl silent
      · simp only [not_forall, not_not] at silent
        obtain ⟨call, listed, healthy⟩ := silent
        refine Or.inr ((led.mp (same call listed healthy)).imp_right ?_)
        simp
    · rintro (silent | known) call listed healthy
      · exact absurd healthy (silent call listed)
      · refine led.mpr (known.imp_right ?_)
        simp

section Example

/-- The API's answer in the examples. -/
def apiAnswer : WebexPerson where
  emails := ["alice@example.com".toList]
  displayName := some "Alice".toList

/-- After a failed call the invented email is answered although the API is back: the cache has the
id bound by then. -/
theorem failure_poisons_cache :
    (getPerson (some storedOrderPlugin) "p1".toList
      (run (callStep storedOrderPlugin "p1".toList) .empty [⟨0, none⟩])
      ⟨1, some apiAnswer⟩).2.email = "p1@webex".toList := by
  decide

/-- A failure after the first answer does no harm. -/
theorem later_failure_harmless :
    AnswersEmail storedOrderPlugin "p1".toList "alice@example.com".toList .empty
      [⟨0, some apiAnswer⟩, ⟨1, none⟩, ⟨2, some apiAnswer⟩] := by
  apply (email_answered_iff _ _ _ .empty rfl _ ?_).mpr
  · refine Or.inr (Or.inr ⟨by decide, ?_⟩)
    simp [PersonCall.Healthy]
  · simp [apiAnswer]

end Example

end Thaum.Bots
