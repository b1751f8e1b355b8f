import Thaum.Library.GuardedRuns
import Thaum.Lookup.Identity

/-!
# Platform ids in the identity cache

The cache stores a platform id under its platform key and the id itself, so a person
may have several ids of one platform. The `ThaumPerson` handed out is a dictionary
with one id for each platform, the last one that the query returns.

A merge binds the ids of its fragment that are not bound yet to the fragment's email
and never moves one. So every id leads to its person, and the person shows that id
under its platform as long as no person is given a second id of a platform.
-/

namespace Thaum.Lookup

open PyText KeyedRows GuardedRuns

/-- A call of `merge_person`; a platform has one id in the fragment. -/
structure PersonMerge where
  now : Nat
  fragment : ThaumPerson
  dictionary : Distinct Prod.fst fragment.platformIds

/-- The tables after a call of `merge_person`. -/
def mergeStep (db : IdentityDb) (merge : PersonMerge) : IdentityDb :=
  mergePersonDb merge.now merge.fragment db

/-- `platform_ids.get(platform_key)`. -/
def idOn (person : ThaumPerson) (platformKey : Text) : Option Text :=
  person.platformIds.lookup platformKey

/-- The person that an id leads to shows that id. -/
def Coherent (plugin : LookupPlugin) (db : IdentityDb) : Prop :=
  ∀ platformKey platformId person,
    getPersonById plugin db platformKey platformId = some person →
      idOn person platformKey = some platformId

/-- A new id is not the second one of its platform for a person. -/
def OneIdPerPlatform (db : IdentityDb) (merge : PersonMerge) : Prop :=
  merge.fragment.email ≠ [] →
    ∀ id ∈ merge.fragment.platformIds, get SchemaPlatformId.key id db.platformIds = none →
      ∀ row ∈ db.platformIds, row.email = merge.fragment.email → row.platformKey ≠ id.1

/-- What every reachable cache has: an id is bound once, to a person that is stored. -/
structure WellBound (db : IdentityDb) : Prop where
  distinct : Distinct SchemaPlatformId.key db.platformIds
  known : ∀ row ∈ db.platformIds, Known db row.email

/-- No person has two ids of one platform. -/
def SingleIds (db : IdentityDb) : Prop :=
  ∀ first ∈ db.platformIds, ∀ second ∈ db.platformIds, first.email ≠ [] →
    first.email = second.email → first.platformKey = second.platformKey →
      first.platformId = second.platformId

variable {plugin : LookupPlugin} {db : IdentityDb} {merge : PersonMerge} {email : Text}
  {row : SchemaPlatformId} {rows : List SchemaPlatformId} {ids : List (Text × Text)}
  {person : ThaumPerson} {platformKey platformId : Text}

/-- Binding an id that is not bound yet adds its row, and binding one that is bound changes
nothing. -/
theorem mem_bindPlatformId {id : Text × Text} : row ∈ bindPlatformId email rows id ↔
    row ∈ rows ∨
      row.email = email ∧ row.key = id ∧ get SchemaPlatformId.key id rows = none := by
  rw [bindPlatformId]
  cases get SchemaPlatformId.key id rows with
  | some bound => simp
  | none =>
    cases row
    simp [SchemaPlatformId.key, Prod.ext_iff, and_comm, and_assoc]

/-- An id is unbound after another was bound exactly where it was unbound and is not that one. -/
theorem get_bindPlatformId {id other : Text × Text} :
    get SchemaPlatformId.key other (bindPlatformId email rows id) = none ↔
      get SchemaPlatformId.key other rows = none ∧ other ≠ id := by
  rw [bindPlatformId]
  cases found : get SchemaPlatformId.key id rows with
  | some bound =>
    refine ⟨fun unbound => ⟨unbound, ?_⟩, fun unbound => unbound.1⟩
    rintro rfl
    simp [found] at unbound
  | none =>
    dsimp only
    by_cases same : id = other
    · subst same
      rw [get_append_fresh found rfl]
      simp
    · rw [get_append_other same]
      simp [Ne.symm same]

/-- Binding ids adds those that are not bound yet, and no other row. The induction is on the ids,
each of which may become bound by an earlier one. -/
theorem mem_bindPlatformIds : row ∈ ids.foldl (bindPlatformId email) rows ↔
    row ∈ rows ∨
      row.email = email ∧ row.key ∈ ids ∧ get SchemaPlatformId.key row.key rows = none := by
  induction ids generalizing rows with
  | nil => simp
  | cons id rest inductionHypothesis =>
    rw [List.foldl_cons, inductionHypothesis, mem_bindPlatformId, get_bindPlatformId,
      List.mem_cons]
    constructor
    · rintro ((old | ⟨own, rfl, unbound⟩) | ⟨own, listed, unbound, _⟩)
      · exact Or.inl old
      · exact Or.inr ⟨own, Or.inl rfl, unbound⟩
      · exact Or.inr ⟨own, Or.inr listed, unbound⟩
    · rintro (old | ⟨own, listed, unbound⟩)
      · exact Or.inl (Or.inl old)
      · by_cases same : row.key = id
        · subst same
          exact Or.inl (Or.inr ⟨own, rfl, unbound⟩)
        · exact Or.inr ⟨own, listed.resolve_left same, unbound, same⟩

/-- Binding ids keeps them bound once. -/
theorem distinct_bindPlatformIds (distinct : Distinct SchemaPlatformId.key rows) :
    Distinct SchemaPlatformId.key (ids.foldl (bindPlatformId email) rows) := by
  induction ids generalizing rows with
  | nil => exact distinct
  | cons id rest inductionHypothesis =>
    apply inductionHypothesis
    rw [bindPlatformId]
    cases found : get SchemaPlatformId.key id rows with
    | some bound => exact distinct
    | none => exact distinct_append distinct found

/-- The row of an id stays as it is; a merge adds rows for the ids of its fragment that have
none. -/
theorem mem_mergeStep : row ∈ (mergeStep db merge).platformIds ↔
    row ∈ db.platformIds ∨ row.email = merge.fragment.email ∧
      row.key ∈ merge.fragment.platformIds ∧
        get SchemaPlatformId.key row.key db.platformIds = none :=
  mem_bindPlatformIds

/-- An empty cache is well bound. -/
theorem WellBound.empty : WellBound .empty where
  distinct := List.nodup_nil
  known := by simp [IdentityDb.empty]

/-- A merge keeps the cache well bound, since it stores the person along with the ids. -/
theorem WellBound.step (bound : WellBound db) (merge : PersonMerge) :
    WellBound (mergeStep db merge) where
  distinct := distinct_bindPlatformIds bound.distinct
  known := by
    intro row stored
    rcases mem_mergeStep.mp stored with old | ⟨own, _, _⟩
    · exact known_mergePersonDb (bound.known row old)
    · rw [own]
      exact known_mergePersonDb_self

/-- The rows of a person, in the order of the query. -/
def idRows (plugin : LookupPlugin) (db : IdentityDb) (email : Text) : List (Text × Text) :=
  ((plugin.platformIdOrder.order db.platformIds).filter fun row => row.email == email).map
    SchemaPlatformId.key

/-- The ids of a person are those whose row has the email, in whatever order the query gives
them. -/
theorem mem_idRows {id : Text × Text} : id ∈ idRows plugin db email ↔
    ∃ row ∈ db.platformIds, row.email = email ∧ row.key = id := by
  simp [idRows, (plugin.platformIdOrder.permutes db.platformIds).mem_iff, and_assoc]

/-- The ids of a person that is handed out are the dictionary of its rows, in which a later id of a
platform replaces an earlier one. -/
theorem readPersonByEmail_ids (read : readPersonByEmail plugin db email = some person) :
    person.platformIds = putAll Prod.fst (idRows plugin db email) := by
  unfold readPersonByEmail at read
  split at read
  · simp at read
  · obtain rfl := Option.some.inj read
    simp only [idRows, putAll, List.foldl_map]
    rfl

/-- Looking a platform up in the dictionary is finding its entry. -/
theorem lookup_eq_get (ids : List (Text × Text)) (platformKey : Text) :
    ids.lookup platformKey = (get Prod.fst platformKey ids).map Prod.snd := by
  induction ids with
  | nil => rfl
  | cons id rest inductionHypothesis =>
    obtain ⟨key, value⟩ := id
    by_cases here : key = platformKey
    · simp [KeyedRows.get, here]
    · have missed : (platformKey == key) = false := by simpa using Ne.symm here
      rw [List.lookup_cons, missed, inductionHypothesis]
      simp [KeyedRows.get, here]

/-- A person shows one of its ids for each platform it has one of. Which one depends on the order of
the query where there are several. -/
theorem idOn_read (read : readPersonByEmail plugin db email = some person)
    (stored : row ∈ db.platformIds) (own : row.email = email) :
    ∃ shown ∈ db.platformIds, shown.email = email ∧ shown.platformKey = row.platformKey ∧
      idOn person row.platformKey = some shown.platformId := by
  have listed : row.key ∈ idRows plugin db email := mem_idRows.mpr ⟨row, stored, own, rfl⟩
  have isShown : (get Prod.fst row.platformKey
      (putAll Prod.fst (idRows plugin db email))).isSome = true := get_putAll_isSome listed
  obtain ⟨id, found⟩ := Option.isSome_iff_exists.mp isShown
  obtain ⟨isListed, keyed⟩ := get_putAll_some found
  obtain ⟨shown, isStored, sameEmail, rfl⟩ := mem_idRows.mp isListed
  refine ⟨shown, isStored, sameEmail, keyed, ?_⟩
  rw [idOn, readPersonByEmail_ids read, lookup_eq_get]
  exact congrArg (Option.map Prod.snd) found

/-- An id that is bound leads to the person of its row. -/
theorem getPersonById_bound (bound : WellBound db) (stored : row ∈ db.platformIds)
    (named : row.email ≠ []) :
    getPersonById plugin db row.platformKey row.platformId =
      readPersonByEmail plugin db row.email := by
  have found : get SchemaPlatformId.key (row.platformKey, row.platformId) db.platformIds =
      some row := get_of_mem bound.distinct stored
  rw [getPersonById, found]
  exact if_neg named

/-- A person that an id leads to is read by the email of the id's row. -/
theorem getPersonById_some
    (led : getPersonById plugin db platformKey platformId = some person) :
    ∃ row ∈ db.platformIds, row.key = (platformKey, platformId) ∧ row.email ≠ [] ∧
      readPersonByEmail plugin db row.email = some person := by
  unfold getPersonById at led
  split at led
  · simp at led
  · rename_i row found
    obtain ⟨stored, keyed⟩ := get_some found
    split at led
    · simp at led
    · rename_i named
      exact ⟨row, stored, keyed, named, led⟩

/-- Every bound id leads to a person that shows it exactly if no person has two ids of one platform.
Of two ids the person shows one only, and the other still leads to it. -/
theorem coherent_iff_single (bound : WellBound db) : Coherent plugin db ↔ SingleIds db := by
  constructor
  · intro coherent first isFirst second isSecond named sameEmail samePlatform
    have isKnown : (readPersonByEmail plugin db first.email).isSome = true :=
      readPersonByEmail_isSome.mpr (bound.known first isFirst)
    obtain ⟨person, read⟩ := Option.isSome_iff_exists.mp isKnown
    have ledFirst := coherent _ _ person ((getPersonById_bound bound isFirst named).trans read)
    have namedSecond : second.email ≠ [] := sameEmail ▸ named
    have ledSecond := coherent _ _ person
      ((getPersonById_bound bound isSecond namedSecond).trans (sameEmail ▸ read))
    rw [← samePlatform, ledFirst] at ledSecond
    exact Option.some.inj ledSecond
  · intro single platformKey platformId person led
    obtain ⟨row, stored, keyed, named, read⟩ := getPersonById_some led
    obtain ⟨shown, isStored, sameEmail, samePlatform, shows⟩ := idOn_read read stored rfl
    have sameId := single shown isStored row stored (sameEmail ▸ named) sameEmail samePlatform
    obtain ⟨rfl, rfl⟩ := Prod.mk.inj keyed
    rw [shows, sameId]

/-- A merge without a second id keeps the ids single. -/
theorem SingleIds.step (single : SingleIds db) (only : OneIdPerPlatform db merge) :
    SingleIds (mergeStep db merge) := by
  intro first isFirst second isSecond named sameEmail samePlatform
  rcases mem_mergeStep.mp isFirst with oldFirst | ⟨ownFirst, newFirst, unboundFirst⟩
  · rcases mem_mergeStep.mp isSecond with oldSecond | ⟨ownSecond, newSecond, unboundSecond⟩
    · exact single first oldFirst second oldSecond named sameEmail samePlatform
    · have email := sameEmail.trans ownSecond
      exact absurd samePlatform
        (only (email ▸ named) _ newSecond unboundSecond first oldFirst email)
  · rcases mem_mergeStep.mp isSecond with oldSecond | ⟨ownSecond, newSecond, _⟩
    · have email := sameEmail.symm.trans ownFirst
      exact absurd samePlatform.symm
        (only (ownFirst ▸ named) _ newFirst unboundFirst second oldSecond email)
    · have same := eq_of_key merge.dictionary newFirst newSecond samePlatform
      exact congrArg Prod.snd same

/-- A merge with a second id gives a person two ids of one platform, so the guard asks for no more
than is needed. -/
theorem second_id_not_single (second : ¬ OneIdPerPlatform db merge) :
    ¬ SingleIds (mergeStep db merge) := by
  simp only [OneIdPerPlatform, not_forall, not_not] at second
  obtain ⟨named, id, listed, unbound, row, stored, own, samePlatform⟩ := second
  intro single
  have new : (⟨id.1, id.2, merge.fragment.email⟩ : SchemaPlatformId) ∈
      (mergeStep db merge).platformIds := mem_mergeStep.mpr (Or.inr ⟨rfl, listed, unbound⟩)
  have old : row ∈ (mergeStep db merge).platformIds := mem_mergeStep.mpr (Or.inl stored)
  have sameId := single row old _ new (own ▸ named) own samePlatform
  exact get_none_iff.mp unbound row stored (Prod.ext samePlatform sameId)

/-- In every cache reached by merges each id that leads to a person is the one that person shows,
exactly if no merge binds a new id to a person that has one of its platform.

Proof: in a well-bound cache coherence says that no person has two ids of one platform. A merge that
meets the guard keeps both, and one that does not breaks the second, so the rule for guarded runs
gives the equivalence from the empty cache. -/
theorem coherent_throughout_iff (plugin : LookupPlugin) (merges : List PersonMerge) :
    Throughout mergeStep (Coherent plugin) .empty merges ↔
      Guarded mergeStep OneIdPerPlatform .empty merges := by
  have kept : ∀ db merge, WellBound db ∧ SingleIds db → OneIdPerPlatform db merge →
      WellBound (mergeStep db merge) ∧ SingleIds (mergeStep db merge) :=
    fun _ merge held only => ⟨held.1.step merge, held.2.step only⟩
  have implied : ∀ db, WellBound db ∧ SingleIds db → Coherent plugin db :=
    fun _ held => (coherent_iff_single held.1).mpr held.2
  have broken : ∀ db merge, WellBound db ∧ SingleIds db → ¬ OneIdPerPlatform db merge →
      ¬ Coherent plugin (mergeStep db merge) := by
    rintro db merge ⟨bound, _⟩ second coherent
    exact second_id_not_single second
      ((coherent_iff_single (bound.step merge)).mp coherent)
  have initially : SingleIds .empty := by
    intro first stored
    simp [IdentityDb.empty] at stored
  exact throughout_iff_guarded kept implied broken _ _ ⟨.empty, initially⟩

section Example

/-- What a lookup by email merges for a person of the directory. -/
def directoryMerge : PersonMerge where
  now := 0
  fragment :=
    { email := "alice@example.com".toList, displayName := some "Alice".toList
      platformIds := [("ldap_ad".toList, "alice".toList)], sourcePlugin := "ldap_ad".toList }
  dictionary := List.nodup_singleton _

/-- What a refresh of a group merges for the same person. -/
def groupMerge : PersonMerge where
  now := 1
  fragment :=
    { email := "alice@example.com".toList, displayName := some "Alice".toList
      platformIds := [("ldap_ad".toList, "CN=Alice,OU=DBA".toList)]
      sourcePlugin := "ldap_ad".toList }
  dictionary := List.nodup_singleton _

/-- After both the directory id leads to a person that shows the group's name for it, as the lookup
and the refresh merge different ids of the same directory. -/
theorem group_hides_directory_id :
    (getPersonById storedOrderPlugin (run mergeStep .empty [directoryMerge, groupMerge])
        "ldap_ad".toList "alice".toList).map (fun person => idOn person "ldap_ad".toList) =
      some (some "CN=Alice,OU=DBA".toList) := by
  decide

/-- A single merge leaves the cache coherent, as it brings one id for the platform. -/
theorem directory_id_coherent :
    Throughout mergeStep (Coherent storedOrderPlugin) .empty [directoryMerge] := by
  apply (coherent_throughout_iff storedOrderPlugin [directoryMerge]).mpr
  refine ⟨?_, trivial⟩
  intro _ id _ _ row stored
  simp [IdentityDb.empty] at stored

end Example

end Thaum.Lookup
