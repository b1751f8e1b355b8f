import Thaum.Lookup.PlatformIds

/-!
# Merging people in any order

Webhooks, directory refreshes and alert lookups merge the same people when they happen to
come by. Each merge inserts what is not there, so what one adds depends on the ones before
it. As long as an id is claimed for one email only, by the fragments and by the cache, the
order makes no difference to the people and to the bindings: the cache ends with the old
ones and those of the fragments, however often each of them is merged, and by what clock.
-/

namespace Thaum.Lookup

open PyText KeyedRows GuardedRuns

/-- The id is bound to the email. -/
def Binds (db : IdentityDb) (id : Text × Text) (email : Text) : Prop :=
  ∃ row ∈ db.platformIds, row.key = id ∧ row.email = email

/-- No id is claimed for two emails, by two fragments or by a fragment and the cache. -/
structure Unconflicted (db : IdentityDb) (fragments : List ThaumPerson) : Prop where
  apart : ∀ first ∈ fragments, ∀ second ∈ fragments, ∀ id ∈ first.platformIds,
    id ∈ second.platformIds → first.email = second.email
  free : ∀ fragment ∈ fragments, ∀ id ∈ fragment.platformIds, ∀ email, Binds db id email →
    email = fragment.email

/-- The people and the bindings are the old ones and those of the fragments. -/
structure MergedAll (db : IdentityDb) (fragments : List ThaumPerson) (after : IdentityDb) :
    Prop where
  people : ∀ email, Known after email ↔
    Known db email ∨ ∃ fragment ∈ fragments, fragment.email = email
  bindings : ∀ id email, Binds after id email ↔
    Binds db id email ∨
      ∃ fragment ∈ fragments, fragment.email = email ∧ id ∈ fragment.platformIds

/-- The rows of emails that no fragment has are as they were. -/
structure OthersUntouched (db : IdentityDb) (fragments : List ThaumPerson)
    (after : IdentityDb) : Prop where
  people : ∀ row : SchemaPerson, (∀ fragment ∈ fragments, fragment.email ≠ row.email) →
    (row ∈ after.people ↔ row ∈ db.people)
  platformIds : ∀ row : SchemaPlatformId,
    (∀ fragment ∈ fragments, fragment.email ≠ row.email) →
      (row ∈ after.platformIds ↔ row ∈ db.platformIds)

variable {db : IdentityDb} {fragments : List ThaumPerson} {merge : PersonMerge}
  {merges : List PersonMerge} {id : Text × Text} {email : Text}

/-- A merge binds the ids of its fragment that no one else has. Under the condition none of them is
refused, so the bindings are exactly the old and the new. -/
theorem binds_mergeStep
    (free : ∀ id ∈ merge.fragment.platformIds, ∀ email, Binds db id email →
      email = merge.fragment.email) :
    Binds (mergeStep db merge) id email ↔
      Binds db id email ∨ merge.fragment.email = email ∧ id ∈ merge.fragment.platformIds := by
  constructor
  · rintro ⟨row, stored, rfl, rfl⟩
    rcases mem_mergeStep.mp stored with old | ⟨own, listed, -⟩
    · exact .inl ⟨row, old, rfl, rfl⟩
    · exact .inr ⟨own.symm, listed⟩
  · rintro (⟨row, old, keyed, own⟩ | ⟨rfl, listed⟩)
    · exact ⟨row, mem_mergeStep.mpr (.inl old), keyed, own⟩
    · cases found : get SchemaPlatformId.key id db.platformIds with
      | some row =>
        -- the id is bound already, and to the fragment's email
        obtain ⟨stored, keyed⟩ := get_some found
        exact ⟨row, mem_mergeStep.mpr (.inl stored), keyed,
          free id listed row.email ⟨row, stored, keyed, rfl⟩⟩
      | none =>
        exact ⟨⟨id.1, id.2, merge.fragment.email⟩,
          mem_mergeStep.mpr (.inr ⟨rfl, listed, found⟩), rfl, rfl⟩

/-- A merge of one of the fragments leaves them without conflict, as it binds only what they
claim. -/
theorem Unconflicted.step (unconflicted : Unconflicted db fragments)
    (listed : merge.fragment ∈ fragments) : Unconflicted (mergeStep db merge) fragments where
  apart := unconflicted.apart
  free := by
    intro fragment isFragment id claimed email bound
    rcases (binds_mergeStep (unconflicted.free _ listed)).mp bound with old | ⟨rfl, also⟩
    · exact unconflicted.free fragment isFragment id claimed email old
    · exact unconflicted.apart _ listed fragment isFragment id also claimed

/-- The people after some merges are the old ones and the merged ones, whatever the order. -/
theorem known_merges (merges : List PersonMerge) :
    Known (run mergeStep db merges) email ↔
      Known db email ∨ ∃ merge ∈ merges, merge.fragment.email = email := by
  induction merges generalizing db with
  | nil => simp
  | cons merge rest inductionHypothesis =>
    rw [run_cons, inductionHypothesis, mergeStep, known_mergePersonDb_iff,
      List.exists_mem_cons_iff, or_assoc]

/-- The bindings after merges without conflict are the old ones and the merged ones. The induction
is on the merges, and the absence of conflict is kept by each. -/
theorem binds_merges (merges : List PersonMerge) (unconflicted : Unconflicted db fragments)
    (listed : ∀ merge ∈ merges, merge.fragment ∈ fragments) :
    Binds (run mergeStep db merges) id email ↔
      Binds db id email ∨
        ∃ merge ∈ merges, merge.fragment.email = email ∧ id ∈ merge.fragment.platformIds := by
  induction merges generalizing db with
  | nil => simp
  | cons merge rest inductionHypothesis =>
    obtain ⟨first, later⟩ := List.forall_mem_cons.mp listed
    rw [run_cons, inductionHypothesis (unconflicted.step first) later,
      binds_mergeStep (unconflicted.free _ first), List.exists_mem_cons_iff, or_assoc]

/-- A merge of one of the fragments leaves the rows of others as they are. -/
theorem OthersUntouched.step {before : IdentityDb}
    (untouched : OthersUntouched db fragments before) (listed : merge.fragment ∈ fragments) :
    OthersUntouched db fragments (mergeStep before merge) where
  people := by
    intro row other
    have apart : merge.fragment.email ≠ row.email := other _ listed
    rw [← untouched.people row other]
    constructor
    · intro stored
      rcases mem_put stored with rfl | ⟨old, -⟩
      · exact absurd storedRow_email.symm apart
      · exact old
    · intro old
      exact mem_put_other old (by rw [storedRow_email]; exact apart.symm)
  platformIds := by
    intro row other
    rw [← untouched.platformIds row other, mem_mergeStep]
    constructor
    · rintro (old | ⟨own, -⟩)
      · exact old
      · exact absurd own.symm (other _ listed)
    · exact .inl

/-- Fragments without conflict end in the same people and bindings in whatever order and however
often they are merged, and no row of another email is touched on the way.

Proof: the people and the bindings after the merges are described by which fragments were merged,
and not by their order, so the same fragments give the same description. The frame part is a step
lemma carried through the run. -/
theorem merged_in_any_order (fragments : List ThaumPerson)
    (unconflicted : Unconflicted db fragments) (merges : List PersonMerge)
    (same : ∀ fragment, fragment ∈ fragments ↔ ∃ merge ∈ merges, merge.fragment = fragment) :
    MergedAll db fragments (run mergeStep db merges) ∧
      Throughout mergeStep (OthersUntouched db fragments) db merges := by
  have listed (merge : PersonMerge) (isMerge : merge ∈ merges) : merge.fragment ∈ fragments :=
    (same _).mpr ⟨merge, isMerge, rfl⟩
  have carried (condition : ThaumPerson → Prop) :
      (∃ merge ∈ merges, condition merge.fragment) ↔
        ∃ fragment ∈ fragments, condition fragment := by
    simp only [same]
    constructor
    · rintro ⟨merge, isMerge, holds⟩
      exact ⟨_, ⟨merge, isMerge, rfl⟩, holds⟩
    · rintro ⟨_, ⟨merge, isMerge, rfl⟩, holds⟩
      exact ⟨merge, isMerge, holds⟩
  refine ⟨⟨?_, ?_⟩, ?_⟩
  · intro email
    rw [known_merges, carried fun fragment => fragment.email = email]
  · intro id email
    rw [binds_merges merges unconflicted listed,
      carried fun fragment => fragment.email = email ∧ id ∈ fragment.platformIds]
  · exact throughout_of_guarded (fun _ _ untouched listed => untouched.step listed)
      (fun _ untouched => untouched) db merges ⟨fun _ _ => Iff.rfl, fun _ _ => Iff.rfl⟩
      (guarded_of_mem db merges listed)

section Example

/-- What a webhook merges for the person of `directoryMerge`. -/
def webhookMerge : PersonMerge where
  now := 5
  fragment :=
    { email := "alice@example.com".toList, displayName := none
      platformIds := [("jira".toList, "acct-7".toList)], sourcePlugin := "jira".toList }
  dictionary := List.nodup_singleton _

/-- The webhook before and after the directory gives what the directory gives first. -/
theorem webhook_and_directory_commute :
    MergedAll .empty [directoryMerge.fragment, webhookMerge.fragment]
        (run mergeStep .empty [webhookMerge, directoryMerge, webhookMerge]) ∧
      MergedAll .empty [directoryMerge.fragment, webhookMerge.fragment]
        (run mergeStep .empty [directoryMerge, webhookMerge]) := by
  have unconflicted :
      Unconflicted .empty [directoryMerge.fragment, webhookMerge.fragment] := by
    refine ⟨by decide, ?_⟩
    rintro _ _ _ _ _ ⟨row, stored, -⟩
    simp [IdentityDb.empty] at stored
  refine ⟨(merged_in_any_order _ unconflicted _ ?_).1, (merged_in_any_order _ unconflicted _ ?_).1⟩
  · intro fragment
    simp only [List.mem_cons, List.not_mem_nil, or_false, exists_eq_or_imp, exists_eq_left,
      eq_comm]
    tauto
  · intro fragment
    simp [eq_comm]

end Example

end Thaum.Lookup
