import Thaum.Library.CursorPages
import Thaum.Lookup.Atlassian

/-!
# Pagination of teams and members

`_iter_team_pages` and `_iter_member_account_ids` ask a server for one page after another
and send the cursor that each page named. The server is a function from cursors to the
JSON it answers with. Neither loop remembers the cursors it has sent: where the server comes
back to one, the loop goes round for ever, in leader init while all other workers wait.
-/

namespace Thaum.Lookup.Atlassian

open PyText PyJson PyRequests CursorPages

/-- The page of the team list that the server answers with. -/
def teamPage (server : Option Text → Json) (cursor : Option Text) : Page Text Json :=
  readTeamPage (server cursor)

/-- The account ids of a page of members, and its cursor. -/
def readMemberPage (payload : Json) : List Text × Option Text :=
  match payload.fields? with
  | none => ([], none)
  | some fields => (extractAccountIds fields, nextMemberCursor fields)

/-- The page of members that the server answers with. -/
def memberPage (server : Option Text → Json) (after : Option Text) : Page Text Text :=
  readMemberPage (server after)

/-- The response with a page. -/
def pageResponse (server : Option Text → Json) (cursor : Option Text) : Response :=
  .answered 200 (some (server cursor))

variable {server : Option Text → Json} {requests : Nat} {cursor : Option Text}

/-- The response with a page has the page as its body. -/
theorem pageResponse_json (server : Option Text → Json) (cursor : Option Text) :
    (pageResponse server cursor).json? = some (server cursor) := by
  simp [pageResponse, Response.json?]

/-- Given the responses of the server, `_iter_team_pages` yields the visited pages. This ties the
loop of the plugin to the walk along the cursors, for which termination is decided. -/
theorem iterTeamPages_follow {visits : List (Visit Text Json)}
    (ends : follow (teamPage server) requests cursor = some visits) :
    iterTeamPages (visits.map fun visit => pageResponse server visit.1) =
      visits.map Prod.snd := by
  induction requests generalizing cursor visits with
  | zero => cases ends
  | succ requests inductionHypothesis =>
    rw [follow] at ends
    obtain ⟨entities, named⟩ | ⟨entities, next, named⟩ :
        (∃ entities, teamPage server cursor = (entities, none)) ∨
          ∃ entities next, teamPage server cursor = (entities, some next) := by
      rcases teamPage server cursor with ⟨entities, - | next⟩
      · exact .inl ⟨entities, rfl⟩
      · exact .inr ⟨entities, next, rfl⟩
    · rw [named] at ends
      obtain rfl := Option.some.inj ends
      have read : readTeamPage (server cursor) = (entities, none) := named
      simp only [List.map_cons, List.map_nil, iterTeamPages, pageResponse_json, read]
    · rw [named] at ends
      obtain ⟨later, isLater, rfl⟩ := Option.map_eq_some_iff.mp ends
      have read : readTeamPage (server cursor) = (entities, some next) := named
      simp only [List.map_cons, iterTeamPages, pageResponse_json, read,
        inductionHypothesis isLater]

/-- The user requests of a page take as many responses as it has accounts, and leave the rest. -/
theorem fetchUsers_append (rendering : Rendering) (plugin : LookupPlugin)
    (user : Text → Response) (accountIds : List Text) (rest : List Response) :
    fetchUsers rendering plugin accountIds (accountIds.map user ++ rest) =
      (accountIds.flatMap fun id => (fetchJiraUser rendering plugin id (user id)).toList,
        rest) := by
  induction accountIds with
  | nil => rfl
  | cons accountId accountIds inductionHypothesis =>
    simp only [List.map_cons, List.cons_append, fetchUsers, nextResponse, inductionHypothesis,
      List.flatMap_cons]

/-- Given the responses of the server, each page followed by those of its accounts,
`fetch_team_members` has the people of all visited pages. This ties the second loop to the same
walk. -/
theorem fetchMemberPages_follow (rendering : Rendering) (plugin : LookupPlugin)
    (user : Text → Response) {visits : List (Visit Text Text)}
    (ends : follow (memberPage server) requests cursor = some visits) :
    fetchMemberPages rendering plugin requests
        (visits.flatMap fun visit => pageResponse server visit.1 :: visit.2.map user) =
      some ((visits.flatMap Prod.snd).flatMap fun id =>
        (fetchJiraUser rendering plugin id (user id)).toList) := by
  induction requests generalizing cursor visits with
  | zero => cases ends
  | succ requests inductionHypothesis =>
    rw [follow] at ends
    cases listed : (server cursor).fields? with
    | none =>
      have empty : memberPage server cursor = ([], none) := by
        rw [memberPage, readMemberPage, listed]
      rw [empty] at ends
      obtain rfl := Option.some.inj ends
      simp [fetchMemberPages, nextResponse, pageResponse_json, listed]
    | some fields =>
      have page : memberPage server cursor =
          (extractAccountIds fields, nextMemberCursor fields) := by
        rw [memberPage, readMemberPage, listed]
      rw [page] at ends
      cases named : nextMemberCursor fields with
      | none =>
        rw [named] at ends
        obtain rfl := Option.some.inj ends
        have users :=
          fetchUsers_append rendering plugin user (extractAccountIds fields) []
        rw [List.append_nil] at users
        simp only [List.flatMap_cons, List.flatMap_nil, List.append_nil, fetchMemberPages,
          nextResponse, pageResponse_json, listed, users, named]
      | some next =>
        rw [named] at ends
        obtain ⟨later, isLater, rfl⟩ := Option.map_eq_some_iff.mp ends
        simp only [List.flatMap_cons, List.cons_append, fetchMemberPages, nextResponse,
          pageResponse_json, listed, fetchUsers_append, named, inductionHypothesis isLater,
          List.flatMap_append, Option.map_some]

/-- Against a server with finitely many cursors, both loops stop, ask for no cursor twice and yield
the pages up to the first cursor that is missing or used, exactly where the cursors that the server
names lead back to none.

Proof: both loops are the same walk along cursors, over different pages, for which the library
decides when it stops. A walk that comes back to a cursor goes round for ever; one that does not can
make no more requests than there are cursors. -/
theorem lists_all_iff (teams members : Option Text → Json) (cursors : List Text)
    (teamCursors : ∀ cursor next, (teamPage teams cursor).2 = some next → next ∈ cursors)
    (memberCursors : ∀ cursor next, (memberPage members cursor).2 = some next →
      next ∈ cursors) :
    (ListsAll (teamPage teams) ↔ NoneTwice (teamPage teams)) ∧
      (ListsAll (memberPage members) ↔ NoneTwice (memberPage members)) :=
  ⟨listsAll_iff cursors teamCursors, listsAll_iff cursors memberCursors⟩

section Example

/-- A team list whose every page names the same cursor. -/
def endlessServer (_ : Option Text) : Json :=
  .obj [("entities".toList, .arr []), ("cursor".toList, .str "c1".toList)]

/-- Members on two pages. -/
def twoPages (after : Option Text) : Json :=
  if after = none then
    .obj [("results".toList, .arr [.str "acc-1".toList]),
      ("pageInfo".toList,
        .obj [("hasNextPage".toList, .bool true), ("endCursor".toList, .str "c1".toList)])]
  else .obj [("results".toList, .arr [.str "acc-2".toList])]

/-- The second page names its own cursor again, and the loop never ends, however many requests it is
given. -/
theorem named_cursor_endless :
    (∀ requests, follow (teamPage endlessServer) requests none = none) ∧
      ¬ ListsAll (teamPage endlessServer) := by
  have named (cursor : Option Text) : (teamPage endlessServer cursor).2 = some "c1".toList := by
    rfl
  have endless (requests : Nat) (cursor : Option Text) :
      follow (teamPage endlessServer) requests cursor = none := by
    induction requests generalizing cursor with
    | zero => rfl
    | succ requests inductionHypothesis => simp [follow, named, inductionHypothesis]
  refine ⟨fun requests => endless requests none, ?_⟩
  rintro ⟨requests, visits, ends, -⟩
  rw [endless] at ends
  cases ends

/-- Two pages of members are listed to their end. -/
theorem two_pages_listed :
    (follow (memberPage twoPages) 2 none).map (·.flatMap Prod.snd) =
        some ["acc-1".toList, "acc-2".toList] ∧
      ListsAll (memberPage twoPages) := by
  have ends : follow (memberPage twoPages) 2 none =
      some [(none, ["acc-1".toList]), (some "c1".toList, ["acc-2".toList])] := by
    rfl
  have named (cursor : Option Text) : (memberPage twoPages cursor).2 =
      if cursor = none then some "c1".toList else none := by
    unfold memberPage twoPages
    split <;> decide
  refine ⟨by rw [ends]; rfl, ?_⟩
  refine (lists_all_iff (fun _ => .null) twoPages ["c1".toList] ?_ ?_).2.mpr (.of_follow ends)
  · intro cursor next isNext
    cases isNext
  · intro cursor next isNext
    rw [named] at isNext
    split at isNext
    · obtain rfl := Option.some.inj isNext
      exact List.mem_cons_self
    · cases isNext

end Example

end Thaum.Lookup.Atlassian
