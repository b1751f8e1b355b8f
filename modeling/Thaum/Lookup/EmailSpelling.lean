import Thaum.Jira.Users
import Thaum.Lookup.PlatformIds

/-!
# One person under several spellings of an email

A merge stores its fragment under the fragment's email as it is spelled. A lookup by
email trims what it is asked for and compares exactly; the Jira integration trims and
lowers an email before it asks. So a person met under two spellings has two rows, a row
is found from Jira only under its trimmed lower case, and by `get_person_by_email` only
under the spelling it is stored with.

What counts as the lower case is passed in.
-/

namespace Thaum.Lookup

open PyText PyJson PyRequests KeyedRows GuardedRuns Jira

/-- The tables after the merges. -/
def mergedDb (merges : List PersonMerge) : IdentityDb := run mergeStep .empty merges

variable (casing : CaseMapping) (plugin : LookupPlugin) (merges : List PersonMerge)

/-- The emails differ in letter case and surrounding whitespace at most. -/
def SameEmail (first second : Text) : Prop := casing.key first = casing.key second

/-- Fragments with the same email end up in one row. -/
def OneRowEach : Prop :=
  ∀ merge ∈ merges, ∃ row ∈ (mergedDb merges).people, ∀ other ∈ (mergedDb merges).people,
    SameEmail casing other.email merge.fragment.email ↔ other = row

/-- Asking with any spelling finds the person with every id merged for it. -/
def FoundBy (ask : Text → Option ThaumPerson) : Prop :=
  ∀ merge ∈ merges, ∀ spelling, SameEmail casing spelling merge.fragment.email →
    ∃ person, ask spelling = some person ∧ SameEmail casing person.email spelling ∧
      ∀ also ∈ merges, SameEmail casing also.fragment.email merge.fragment.email →
        ∀ id ∈ also.fragment.platformIds, idOn person id.1 = some id.2

/-- What `resolve_email_to_account_id` asks the plugin. -/
def askedByJira (spelling : Text) : Option ThaumPerson :=
  getCachedPersonByEmail plugin (mergedDb merges) (casing.key spelling)

/-- `resolve_email_to_account_id` with any spelling answers with the Jira id merged. -/
def ResolvedByJira : Prop :=
  ∀ merge ∈ merges, ∀ spelling, SameEmail casing spelling merge.fragment.email →
    ∀ accountId, ("jira".toList, accountId) ∈ merge.fragment.platformIds → accountId ≠ [] →
      ∀ rendering now search mergeCommits,
        resolveEmailKey rendering (some plugin) now (casing.key spelling)
            { lookup := .answered (askedByJira casing plugin merges spelling), search
              mergeCommits } (mergedDb merges) =
          some (some accountId, mergedDb merges)

/-- The store holds one person for an email, and both lookups find it. -/
structure OnePerson : Prop where
  oneRow : OneRowEach casing merges
  byEmail : FoundBy casing merges (getCachedPersonByEmail plugin (mergedDb merges))
  byJira : FoundBy casing merges (askedByJira casing plugin merges)
  resolved : ResolvedByJira casing plugin merges

/-- Fragments of one email spell it the same. -/
def OneSpelling : Prop :=
  ∀ first ∈ merges, ∀ second ∈ merges,
    SameEmail casing first.fragment.email second.fragment.email →
      first.fragment.email = second.fragment.email

/-- The fragments' emails are trimmed and in lower case already, and not blank. -/
def Canonical : Prop :=
  ∀ merge ∈ merges, casing.key merge.fragment.email = merge.fragment.email ∧
    merge.fragment.email ≠ []

/-- The fragments' emails have a single spelling, and are not blank. -/
def Caseless : Prop :=
  ∀ merge ∈ merges, merge.fragment.email ≠ [] ∧
    ∀ spelling, SameEmail casing spelling merge.fragment.email →
      strip spelling = merge.fragment.email

/-- An id belongs to one email, and an email has one id of a platform. -/
def IdsOwn : Prop :=
  ∀ first ∈ merges, ∀ second ∈ merges,
    ∀ id ∈ first.fragment.platformIds, ∀ other ∈ second.fragment.platformIds,
      (id = other → first.fragment.email = second.fragment.email) ∧
        (first.fragment.email = second.fragment.email → id.1 = other.1 → id = other)

variable {casing plugin merges} {db : IdentityDb} {email : Text} {person : ThaumPerson}

/-- A merge stores the person of its fragment and forgets nobody. -/
theorem known_mergeStep {merge : PersonMerge} :
    Known (mergeStep db merge) email ↔ Known db email ∨ merge.fragment.email = email := by
  constructor
  · rintro ⟨row, stored, keyed⟩
    rcases mem_put stored with rfl | ⟨old, _⟩
    · exact Or.inr (storedRow_email.symm.trans keyed)
    · exact Or.inl ⟨row, old, keyed⟩
  · rintro (known | rfl)
    · exact known_mergePersonDb known
    · exact known_mergePersonDb_self

/-- The people stored after a run are those from before and those merged. -/
theorem known_run : Known (run mergeStep db merges) email ↔
    Known db email ∨ ∃ merge ∈ merges, merge.fragment.email = email := by
  induction merges generalizing db with
  | nil => simp
  | cons merge rest inductionHypothesis =>
    rw [run_cons, inductionHypothesis, known_mergeStep]
    simp [or_assoc]

/-- From empty tables the people stored are those merged. -/
theorem known_mergedDb : Known (mergedDb merges) email ↔
    ∃ merge ∈ merges, merge.fragment.email = email := by
  rw [mergedDb, known_run]
  simp [Known, IdentityDb.empty]

/-- No email has two rows, as a merge looks for the row of its email before it inserts one. -/
theorem distinct_mergedDb : Distinct SchemaPerson.email (mergedDb merges).people := by
  have always : Guarded mergeStep (fun _ _ => True) .empty merges :=
    guarded_of_forall (fun _ _ => trivial) _ merges
  have initially : Distinct SchemaPerson.email IdentityDb.empty.people := List.nodup_nil
  have kept : ∀ (db : IdentityDb) (merge : PersonMerge), Distinct SchemaPerson.email db.people →
      True → Distinct SchemaPerson.email (mergeStep db merge).people :=
    fun _ _ distinct _ => distinct_put distinct
  exact invariant_run kept _ merges initially always

/-- The rows of the merged tables keep the keys they are stored under. -/
theorem wellBound_mergedDb : WellBound (mergedDb merges) := by
  have always : Guarded mergeStep (fun _ _ => True) .empty merges :=
    guarded_of_forall (fun _ _ => trivial) _ merges
  exact invariant_run (fun _ merge bound _ => bound.step merge) _ merges .empty always

/-- An id bound after a run was bound before it or merged by it. -/
theorem bound_run {row : SchemaPlatformId}
    (stored : row ∈ (run mergeStep db merges).platformIds) :
    row ∈ db.platformIds ∨ ∃ merge ∈ merges, merge.fragment.email = row.email ∧
      row.key ∈ merge.fragment.platformIds := by
  induction merges generalizing db with
  | nil => exact Or.inl stored
  | cons merge rest inductionHypothesis =>
    rcases inductionHypothesis stored with before | ⟨later, isLater, own, listed⟩
    · rcases mem_mergeStep.mp before with old | ⟨own, listed, _⟩
      · exact Or.inl old
      · exact Or.inr ⟨merge, List.mem_cons_self, own.symm, listed⟩
    · exact Or.inr ⟨later, List.mem_cons_of_mem _ isLater, own, listed⟩

/-- An id is bound to an email it was merged for. Which of several emails it is depends on the
order. -/
theorem bound_merged {row : SchemaPlatformId} (stored : row ∈ (mergedDb merges).platformIds) :
    ∃ merge ∈ merges, merge.fragment.email = row.email ∧
      row.key ∈ merge.fragment.platformIds :=
  (bound_run stored).resolve_left List.not_mem_nil

/-- A bound id stays bound, to the same email: a merge never moves an id. -/
theorem bound_stays {row : SchemaPlatformId} (stored : row ∈ db.platformIds) :
    row ∈ (run mergeStep db merges).platformIds := by
  induction merges generalizing db with
  | nil => exact stored
  | cons merge rest inductionHypothesis =>
    exact inductionHypothesis (mem_mergeStep.mpr (Or.inl stored))

/-- Every id merged is bound, if not to the email of its fragment then to another. -/
theorem merged_bound {merge : PersonMerge} (merged : merge ∈ merges) {id : Text × Text}
    (listed : id ∈ merge.fragment.platformIds) :
    ∃ row ∈ (mergedDb merges).platformIds, row.key = id := by
  obtain ⟨before, after, rfl⟩ := List.append_of_mem merged
  rw [mergedDb, run_append, run_cons]
  cases found : get SchemaPlatformId.key id (run mergeStep .empty before).platformIds with
  | some row =>
    obtain ⟨stored, keyed⟩ := get_some found
    exact ⟨row, bound_stays (mem_mergeStep.mpr (Or.inl stored)), keyed⟩
  | none =>
    refine ⟨⟨id.1, id.2, merge.fragment.email⟩, bound_stays (mem_mergeStep.mpr ?_), rfl⟩
    exact Or.inr ⟨rfl, listed, found⟩

/-- Two fragments with one spelling leave one row, and two spellings leave two. The row of a
fragment is found by the spelling alone. -/
theorem oneRowEach_iff : OneRowEach casing merges ↔ OneSpelling casing merges := by
  constructor
  · intro oneRow first isFirst second isSecond same
    obtain ⟨row, _, only⟩ := oneRow first isFirst
    obtain ⟨firstRow, storedFirst, keyedFirst⟩ :=
      known_mergedDb.mpr ⟨first, isFirst, rfl⟩
    obtain ⟨secondRow, storedSecond, keyedSecond⟩ :=
      known_mergedDb.mpr ⟨second, isSecond, rfl⟩
    have isRow := (only firstRow storedFirst).mp (congrArg casing.key keyedFirst)
    have alsoRow := (only secondRow storedSecond).mp
      ((congrArg casing.key keyedSecond).trans same.symm)
    rw [← keyedFirst, ← keyedSecond, isRow, alsoRow]
  · intro oneSpelling merge merged
    obtain ⟨row, stored, keyed⟩ := known_mergedDb.mpr ⟨merge, merged, rfl⟩
    refine ⟨row, stored, ?_⟩
    intro other isStored
    constructor
    · intro same
      obtain ⟨also, isMerged, spelled⟩ := known_mergedDb.mp ⟨other, isStored, rfl⟩
      have sameSpelling := oneSpelling also isMerged merge merged (spelled ▸ same)
      exact eq_of_key distinct_mergedDb isStored stored
        (spelled.symm.trans (sameSpelling.trans keyed.symm))
    · rintro rfl
      exact congrArg casing.key keyed

/-- A cached person is read by the trimmed email it is asked for; letter case is compared as it
is. -/
theorem cached_some {spelling : Text}
    (cached : getCachedPersonByEmail plugin db spelling = some person) :
    strip spelling ≠ [] ∧ person.email = strip spelling ∧
      readPersonByEmail plugin db person.email = some person := by
  unfold getCachedPersonByEmail at cached
  by_cases blank : strip spelling = []
  · simp [blank] at cached
  · simp only [blank, if_false] at cached
    have isEmail := readPersonByEmail_email cached
    exact ⟨blank, isEmail, isEmail ▸ cached⟩

/-- What a person shows for a platform is one of its rows. -/
theorem idOn_stored {platformKey platformId : Text}
    (read : readPersonByEmail plugin db email = some person)
    (shown : idOn person platformKey = some platformId) :
    ∃ row ∈ db.platformIds, row.email = email ∧ row.key = (platformKey, platformId) := by
  rw [idOn, readPersonByEmail_ids read, lookup_eq_get, Option.map_eq_some_iff] at shown
  obtain ⟨id, found, rfl⟩ := shown
  obtain ⟨listed, rfl⟩ := get_putAll_some found
  exact mem_idRows.mp listed

/-- The person of an email shows every id merged for it, if ids are its own: then no id of the
platform has gone to another email and no second id can be shown in its place. -/
theorem read_shows (own : IdsOwn merges) (oneSpelling : OneSpelling casing merges)
    {merge : PersonMerge} (merged : merge ∈ merges)
    (read : readPersonByEmail plugin (mergedDb merges) merge.fragment.email = some person)
    {also : PersonMerge} (isMerged : also ∈ merges)
    (same : SameEmail casing also.fragment.email merge.fragment.email) {id : Text × Text}
    (listed : id ∈ also.fragment.platformIds) : idOn person id.1 = some id.2 := by
  have sameSpelling := oneSpelling also isMerged merge merged same
  obtain ⟨row, stored, rfl⟩ := merged_bound isMerged listed
  obtain ⟨binder, isBinder, spelled, bound⟩ := bound_merged stored
  have rowEmail : row.email = merge.fragment.email :=
    spelled.symm.trans (((own binder isBinder also isMerged _ bound _ listed).1 rfl).trans
      sameSpelling)
  obtain ⟨shown, isStored, shownEmail, samePlatform, shows⟩ := idOn_read read stored rowEmail
  obtain ⟨shower, isShower, shownSpelled, shownBound⟩ := bound_merged isStored
  have sameId := (own shower isShower also isMerged _ shownBound _ listed).2
    (shownSpelled.trans (shownEmail.trans sameSpelling.symm)) samePlatform
  exact shows.trans (congrArg (fun id => some id.2) sameId)

/-- A lookup that reads the stored spelling finds the person. Both lookups are instances, each under
its own condition on the emails. -/
theorem foundBy_of (plugin : LookupPlugin) {ask : Text → Option ThaumPerson}
    (own : IdsOwn merges) (oneSpelling : OneSpelling casing merges)
    (asked : ∀ merge ∈ merges, ∀ spelling, SameEmail casing spelling merge.fragment.email →
      ask spelling = readPersonByEmail plugin (mergedDb merges) merge.fragment.email) :
    FoundBy casing merges ask := by
  intro merge merged spelling same
  have isKnown : (readPersonByEmail plugin (mergedDb merges)
      merge.fragment.email).isSome = true :=
    readPersonByEmail_isSome.mpr (known_mergedDb.mpr ⟨merge, merged, rfl⟩)
  obtain ⟨person, read⟩ := Option.isSome_iff_exists.mp isKnown
  refine ⟨person, (asked merge merged spelling same).trans read, ?_, ?_⟩
  · rw [SameEmail, readPersonByEmail_email read, same]
  · intro also isMerged sameEmail id listed
    exact read_shows own oneSpelling merged read isMerged sameEmail listed

/-- Where a lookup finds every id merged, the ids are their emails' own: two emails of one id, or
two ids of one platform, would leave an id that nobody shows. -/
theorem FoundBy.idsOwn {ask : Text → Option ThaumPerson} (found : FoundBy casing merges ask)
    (oneSpelling : OneSpelling casing merges)
    (reads : ∀ spelling person, ask spelling = some person →
      readPersonByEmail plugin (mergedDb merges) person.email = some person) :
    IdsOwn merges := by
  intro first isFirst second isSecond id listed other isListed
  obtain ⟨person, asked, same, shows⟩ := found first isFirst first.fragment.email rfl
  constructor
  · rintro rfl
    obtain ⟨also, alsoAsked, alsoSame, alsoShows⟩ :=
      found second isSecond second.fragment.email rfl
    obtain ⟨row, stored, rowEmail, keyed⟩ :=
      idOn_stored (reads _ _ asked) (shows first isFirst rfl id listed)
    obtain ⟨alsoRow, alsoStored, alsoEmail, alsoKeyed⟩ :=
      idOn_stored (reads _ _ alsoAsked) (alsoShows second isSecond rfl id isListed)
    have sameRow := eq_of_key wellBound_mergedDb.distinct stored alsoStored
      (keyed.trans alsoKeyed.symm)
    apply oneSpelling first isFirst second isSecond
    calc casing.key first.fragment.email = casing.key person.email := same.symm
      _ = casing.key also.email := by rw [← rowEmail, sameRow, alsoEmail]
      _ = casing.key second.fragment.email := alsoSame
  · intro sameEmail samePlatform
    have shown := shows first isFirst rfl id listed
    have alsoShown := shows second isSecond (congrArg casing.key sameEmail.symm) other isListed
    rw [samePlatform, alsoShown] at shown
    exact Prod.ext samePlatform (Option.some.inj shown).symm

/-- A Jira id that the person shows is the answer, whatever the search would find. -/
theorem FoundBy.resolved (found : FoundBy casing merges (askedByJira casing plugin merges)) :
    ResolvedByJira casing plugin merges := by
  intro merge merged spelling same accountId listed nonblank rendering now search mergeCommits
  obtain ⟨person, asked, _, shows⟩ := found merge merged spelling same
  have shown : person.platformIds.lookup "jira".toList = some accountId :=
    shows merge merged rfl _ listed
  have isKey : casing.key spelling ≠ [] := by
    have solid := (cached_some asked).1
    rwa [CaseMapping.strip_key] at solid
  have answer : lookupJiraId (some plugin)
      { lookup := .answered (askedByJira casing plugin merges spelling), search
        mergeCommits } = accountId := by
    rw [asked, lookupJiraId, Option.isSome_some, if_pos rfl, LookupAnswer.jiraId, shown,
      Option.getD_some]
  rw [resolveEmailKey, if_neg isKey, answer, if_pos nonblank]

/-- A person found under a spelling is stored under the trimmed spelling, so all spellings trim to
the one of the fragment. -/
theorem FoundBy.spelled {heard : Text → Text} (oneSpelling : OneSpelling casing merges)
    (found : FoundBy casing merges fun spelling =>
      getCachedPersonByEmail plugin (mergedDb merges) (heard spelling))
    (same : ∀ spelling, SameEmail casing (heard spelling) spelling)
    {merge : PersonMerge} (merged : merge ∈ merges) {spelling : Text}
    (isSpelling : SameEmail casing spelling merge.fragment.email) :
    strip (heard spelling) = merge.fragment.email ∧ merge.fragment.email ≠ [] := by
  obtain ⟨person, asked, _, _⟩ := found merge merged spelling isSpelling
  obtain ⟨nonblank, isEmail, read⟩ := cached_some asked
  have isKnown : Known (mergedDb merges) person.email :=
    readPersonByEmail_isSome.mp (by rw [read]; rfl)
  obtain ⟨also, isMerged, spelled⟩ := known_mergedDb.mp isKnown
  have sameEmail : SameEmail casing also.fragment.email merge.fragment.email := by
    rw [SameEmail, spelled, isEmail, CaseMapping.key_strip]
    exact (same spelling).trans isSpelling
  have stored := oneSpelling also isMerged merge merged sameEmail
  have isStripped : strip (heard spelling) = merge.fragment.email := by
    rw [← isEmail, ← spelled, stored]
  exact ⟨isStripped, isStripped ▸ nonblank⟩

/-- Emails without a second spelling are spelled the same. -/
theorem Caseless.oneSpelling (caseless : Caseless casing merges) :
    OneSpelling casing merges := by
  intro first isFirst second isSecond same
  have trimmed := (caseless first isFirst).2 first.fragment.email rfl
  exact trimmed.symm.trans ((caseless second isSecond).2 first.fragment.email same)

/-- Emails that are trimmed and in lower case are spelled the same, as that form is one for all
spellings. -/
theorem Canonical.oneSpelling (canonical : Canonical casing merges) :
    OneSpelling casing merges := by
  intro first isFirst second isSecond same
  rw [← (canonical first isFirst).1, ← (canonical second isSecond).1]
  exact same

/-- An email without a second spelling is trimmed and in lower case, or that form would be one. -/
theorem Caseless.canonical (caseless : Caseless casing merges) : Canonical casing merges := by
  intro merge merged
  obtain ⟨nonblank, only⟩ := caseless merge merged
  have lowered := only (casing.key merge.fragment.email) (CaseMapping.key_key _ _)
  rw [CaseMapping.strip_key] at lowered
  exact ⟨lowered, nonblank⟩

/-- The Jira lookup finds everybody where emails are stored in the form it asks for. -/
theorem foundBy_jira (plugin : LookupPlugin) (canonical : Canonical casing merges)
    (own : IdsOwn merges) : FoundBy casing merges (askedByJira casing plugin merges) := by
  apply foundBy_of plugin own canonical.oneSpelling
  intro merge merged spelling same
  obtain ⟨lowered, nonblank⟩ := canonical merge merged
  have isKey : casing.key spelling = merge.fragment.email := same.trans lowered
  have trimmed : strip merge.fragment.email = merge.fragment.email := by
    rw [← isKey, CaseMapping.strip_key]
  simp only [askedByJira, getCachedPersonByEmail, isKey, trimmed, nonblank, if_false]

/-- The lookup by email finds everybody where an email has a single spelling. -/
theorem foundBy_email (plugin : LookupPlugin) (caseless : Caseless casing merges)
    (own : IdsOwn merges) :
    FoundBy casing merges (getCachedPersonByEmail plugin (mergedDb merges)) := by
  apply foundBy_of plugin own caseless.oneSpelling
  intro merge merged spelling same
  obtain ⟨nonblank, only⟩ := caseless merge merged
  simp only [getCachedPersonByEmail, only spelling same, nonblank, if_false]

/-- After any merges there is one row for an email and both lookups find it with every id under any
spelling, exactly if no email has a second spelling and ids are their emails' own; the Jira lookup
alone, exactly if the emails are trimmed and in lower case; and the one row alone, exactly if no
email was merged under two spellings.

Proof: what a lookup finds is read under one stored spelling. Where it finds everybody, every
spelling leads to the stored one, which is the condition on the emails, and every id is shown, which
makes it the email's own. Conversely the conditions say that the text each lookup reads by is the
stored one, and that the row read shows all that was merged. -/
theorem one_person_iff (casing : CaseMapping) (plugin : LookupPlugin)
    (merges : List PersonMerge) :
    (OnePerson casing plugin merges ↔ Caseless casing merges ∧ IdsOwn merges) ∧
      (OneRowEach casing merges ∧ FoundBy casing merges (askedByJira casing plugin merges) ∧
          ResolvedByJira casing plugin merges ↔ Canonical casing merges ∧ IdsOwn merges) ∧
      (OneRowEach casing merges ↔ OneSpelling casing merges) := by
  have jiraReads : ∀ spelling person, askedByJira casing plugin merges spelling = some person →
      readPersonByEmail plugin (mergedDb merges) person.email = some person :=
    fun _ _ asked => (cached_some asked).2.2
  refine ⟨⟨?_, ?_⟩, ⟨?_, ?_⟩, oneRowEach_iff⟩
  · intro one
    have oneSpelling := oneRowEach_iff.mp one.oneRow
    refine ⟨?_, one.byJira.idsOwn oneSpelling jiraReads⟩
    intro merge merged
    constructor
    · exact (one.byEmail.spelled oneSpelling (fun _ => rfl) merged rfl).2
    · intro spelling same
      exact (one.byEmail.spelled oneSpelling (fun _ => rfl) merged same).1
  · rintro ⟨caseless, own⟩
    have byJira := foundBy_jira plugin caseless.canonical own
    exact ⟨oneRowEach_iff.mpr caseless.oneSpelling, foundBy_email plugin caseless own, byJira,
      byJira.resolved⟩
  · rintro ⟨oneRow, byJira, _⟩
    have oneSpelling := oneRowEach_iff.mp oneRow
    refine ⟨?_, byJira.idsOwn oneSpelling jiraReads⟩
    intro merge merged
    have spelled := byJira.spelled oneSpelling (CaseMapping.key_key casing) merged rfl
    rwa [CaseMapping.strip_key] at spelled
  · rintro ⟨canonical, own⟩
    have byJira := foundBy_jira plugin canonical own
    exact ⟨oneRowEach_iff.mpr canonical.oneSpelling, byJira, byJira.resolved⟩

section Example

/-- Webex spells the email its own way, and Jira has it in lower case. -/
def twoSpellings : List PersonMerge :=
  [{ now := 0
     fragment :=
       { email := "Al@x.io".toList, displayName := some "Al".toList
         platformIds := [("webex".toList, "W1".toList)], sourcePlugin := "webex".toList }
     dictionary := List.nodup_singleton _ },
   { now := 1
     fragment :=
       { email := "al@x.io".toList, displayName := some "Al".toList
         platformIds := [("jira".toList, "J1".toList)], sourcePlugin := "jira".toList }
     dictionary := List.nodup_singleton _ }]

/-- The person has two rows; the one that Jira finds lacks the Webex id, and the Webex spelling
finds the one that lacks the Jira id, or no one if only Jira has met the person. -/
theorem two_spellings_two_rows :
    SameEmail asciiCasing "Al@x.io".toList "al@x.io".toList ∧
      (mergedDb twoSpellings).people.map SchemaPerson.email =
        ["Al@x.io".toList, "al@x.io".toList] ∧
      (getCachedPersonByEmail storedOrderPlugin (mergedDb twoSpellings) "Al@x.io".toList).map
          ThaumPerson.platformIds = some [("webex".toList, "W1".toList)] ∧
      (askedByJira asciiCasing storedOrderPlugin twoSpellings "Al@x.io".toList).map
          ThaumPerson.platformIds = some [("jira".toList, "J1".toList)] ∧
      getCachedPersonByEmail storedOrderPlugin (mergedDb twoSpellings.tail) "Al@x.io".toList =
        none ∧
      ¬ OnePerson asciiCasing storedOrderPlugin twoSpellings := by
  have same : SameEmail asciiCasing "Al@x.io".toList "al@x.io".toList := by
    rw [SameEmail]
    decide
  refine ⟨same, by decide, by decide, by decide, by decide, ?_⟩
  intro one
  have spelledAlike := oneRowEach_iff.mp one.oneRow _ (.head _) _ (.tail _ (.head _)) same
  exact absurd spelledAlike (by decide)

end Example

end Thaum.Lookup
