import Mathlib.Data.List.Basic
import Mathlib.Data.List.Nodup
import Mathlib.Data.Set.Finite.Basic

/-!
# Listings in pages with cursors

A listing is asked for its first page and then for the page of the cursor that the last one
named, until a page names none. A server is a function from cursors to pages; `follow` asks
it a number of times, and `walk` is the cursor of each request.

The loop has no measure of its own. Where it stops it has asked for no cursor twice, since a
cursor that comes again leads on as it did before. A server with finitely many cursors that
names none twice is listed to its end.
-/

namespace CursorPages

universe u v
variable {κ : Type u} {ε : Type v}

/-- The entries of a page and the cursor of the next one. -/
abbrev Page (κ : Type u) (ε : Type v) := List ε × Option κ

/-- A request with the entries it brought. -/
abbrev Visit (κ : Type u) (ε : Type v) := Option κ × List ε

variable (pages : Option κ → Page κ ε)

/-- The visits of the loop from a cursor on, `none` where it has not ended after so many
requests. -/
def follow : (requests : Nat) → Option κ → Option (List (Visit κ ε))
  | 0, _ => none
  | requests + 1, cursor =>
    match (pages cursor).2 with
    | none => some [(cursor, (pages cursor).1)]
    | some next => (follow requests (some next)).map ((cursor, (pages cursor).1) :: ·)

/-- The cursor of a request, counted from a first one; `none` once a page has named none. -/
def walk : Option κ → Nat → Option (Option κ)
  | cursor, 0 => some cursor
  | cursor, n + 1 => (pages cursor).2.bind fun next => walk (some next) n

/-- The visits up to the first page whose cursor is missing or used. -/
inductive Visited : (used : List κ) → Option κ → List (Visit κ ε) → Prop
  | missing {used : List κ} {cursor : Option κ} (last : (pages cursor).2 = none) :
      Visited used cursor [(cursor, (pages cursor).1)]
  | repeated {used : List κ} {cursor : Option κ} {next : κ}
      (named : (pages cursor).2 = some next) (again : next ∈ used) :
      Visited used cursor [(cursor, (pages cursor).1)]
  | further {used : List κ} {cursor : Option κ} {next : κ} {visits : List (Visit κ ε)}
      (named : (pages cursor).2 = some next) (fresh : next ∉ used)
      (later : Visited (next :: used) (some next) visits) :
      Visited used cursor ((cursor, (pages cursor).1) :: visits)

/-- The loop stops, asks for no cursor twice, and yields the pages up to the first cursor that
is missing or used. -/
def ListsAll : Prop :=
  ∃ requests visits, follow pages requests none = some visits ∧ (visits.map Prod.fst).Nodup ∧
    Visited pages [] none visits

/-- No cursor that is followed comes twice. -/
def NoneTwice : Prop :=
  ∀ i j cursor, walk pages none i = some cursor → walk pages none j = some cursor → i = j

variable {pages} {cursor : Option κ} {requests : Nat} {visits : List (Visit κ ε)}

/-- The first visit is that of the cursor. -/
theorem follow_head (ends : follow pages requests cursor = some visits) :
    ∃ later, visits = (cursor, (pages cursor).1) :: later := by
  cases requests with
  | zero => cases ends
  | succ requests =>
    rw [follow] at ends
    split at ends
    · exact ⟨[], (Option.some.inj ends).symm⟩
    · obtain ⟨later, _, rfl⟩ := Option.map_eq_some_iff.mp ends
      exact ⟨later, rfl⟩

/-- What the loop yields from a cursor on does not depend on the number of requests that it was
given, once there were enough of them. Fuel is no part of the result. -/
theorem follow_unique {others : List (Visit κ ε)} {more : Nat}
    (ends : follow pages requests cursor = some visits)
    (endsToo : follow pages more cursor = some others) : visits = others := by
  induction requests generalizing cursor visits others more with
  | zero => cases ends
  | succ requests inductionHypothesis =>
    cases more with
    | zero => cases endsToo
    | succ more =>
      rw [follow] at ends endsToo
      cases named : (pages cursor).2 with
      | none =>
        rw [named] at ends endsToo
        exact Option.some.inj (ends.symm.trans endsToo)
      | some next =>
        rw [named] at ends endsToo
        obtain ⟨later, isLater, rfl⟩ := Option.map_eq_some_iff.mp ends
        obtain ⟨laterToo, isLaterToo, rfl⟩ := Option.map_eq_some_iff.mp endsToo
        rw [inductionHypothesis isLater isLaterToo]

/-- The rest of the visits is what the loop yields from their first cursor on. -/
theorem follow_rest {before after : List (Visit κ ε)} {visit : Visit κ ε}
    (ends : follow pages requests cursor = some (before ++ visit :: after)) :
    ∃ fewer, follow pages fewer visit.1 = some (visit :: after) := by
  induction before generalizing requests cursor with
  | nil =>
    refine ⟨requests, ?_⟩
    obtain ⟨later, parts⟩ := follow_head ends
    obtain ⟨rfl, -⟩ := List.cons.inj parts
    exact ends
  | cons first before inductionHypothesis =>
    cases requests with
    | zero => cases ends
    | succ requests =>
      rw [follow] at ends
      split at ends
      · cases before <;> cases ends
      · obtain ⟨later, isLater, parts⟩ := Option.map_eq_some_iff.mp ends
        obtain ⟨-, rfl⟩ := List.cons.inj parts
        exact inductionHypothesis isLater

/-- A loop that ends has asked for no cursor twice.

Proof: what follows a visit is what the loop yields from its cursor on. Had a cursor come twice,
both rests would be the same, though one is longer than the other. -/
theorem follow_nodup (ends : follow pages requests cursor = some visits) :
    (visits.map Prod.fst).Nodup := by
  induction visits generalizing requests cursor with
  | nil => exact List.nodup_nil
  | cons visit visits inductionHypothesis =>
    rw [List.map_cons, List.nodup_cons]
    constructor
    · intro again
      obtain ⟨second, isSecond, same⟩ := List.mem_map.mp again
      obtain ⟨before, after, parts⟩ := List.append_of_mem isSecond
      obtain ⟨fewer, first⟩ := @follow_rest κ ε pages cursor requests [] visits visit ends
      have whole : follow pages requests cursor = some ((visit :: before) ++ second :: after) := by
        rw [ends, parts, List.cons_append]
      obtain ⟨least, later⟩ := follow_rest whole
      rw [same] at later
      have lengths := congrArg List.length (follow_unique first later)
      rw [parts, List.length_cons, List.length_append, List.length_cons] at lengths
      omega
    · cases visits with
      | nil => exact List.nodup_nil
      | cons second rest =>
        obtain ⟨fewer, later⟩ := @follow_rest κ ε pages cursor requests [visit] rest second ends
        exact inductionHypothesis later

/-- The cursors of a loop that ends are those of the walk, with nothing after the last one. -/
theorem follow_walk (ends : follow pages requests cursor = some visits) (n : Nat) :
    walk pages cursor n = (visits.map Prod.fst)[n]? := by
  induction requests generalizing cursor visits n with
  | zero => cases ends
  | succ requests inductionHypothesis =>
    rw [follow] at ends
    cases named : (pages cursor).2 with
    | none =>
      rw [named] at ends
      obtain rfl := Option.some.inj ends
      cases n with
      | zero => rfl
      | succ n => simp [walk, named]
    | some next =>
      rw [named] at ends
      obtain ⟨later, isLater, rfl⟩ := Option.map_eq_some_iff.mp ends
      cases n with
      | zero => rfl
      | succ n => simpa [walk, named] using inductionHypothesis isLater n

/-- A loop that ends follows no cursor twice. -/
theorem NoneTwice.of_follow (ends : follow pages requests none = some visits) :
    NoneTwice pages := by
  intro i j cursor first second
  rw [follow_walk ends] at first second
  have within : i < (visits.map Prod.fst).length := (List.getElem?_eq_some_iff.mp first).1
  exact (List.getElem?_inj within (follow_nodup ends)).mp (first.trans second.symm)

/-- A walk that ends is followed to its end, with one request for each of its cursors. -/
theorem follow_of_walk {n : Nat} (isOver : walk pages cursor n = none) :
    ∃ visits, follow pages n cursor = some visits := by
  induction n generalizing cursor with
  | zero => cases isOver
  | succ n inductionHypothesis =>
    rw [walk] at isOver
    rw [follow]
    cases named : (pages cursor).2 with
    | none => exact ⟨_, rfl⟩
    | some next =>
      rw [named, Option.bind_some] at isOver
      obtain ⟨later, isLater⟩ := inductionHypothesis isOver
      exact ⟨(cursor, (pages cursor).1) :: later, by simp [isLater]⟩

/-- Among finitely many cursors a walk that comes to none twice ends. If it went on for ever, its
cursors would be different and all among the known ones, which are too few for that. -/
theorem NoneTwice.walk_ends (noneTwice : NoneTwice pages) (cursors : List κ)
    (known : ∀ cursor next, (pages cursor).2 = some next → next ∈ cursors) :
    ∃ n, walk pages none n = none := by
  by_contra endless
  have listed (cursor : Option κ) (n : Nat) (start : cursor ∈ none :: cursors.map some)
      (next : Option κ) (reached : walk pages cursor n = some next) :
      next ∈ none :: cursors.map some := by
    induction n generalizing cursor with
    | zero => exact Option.some.inj reached ▸ start
    | succ n inductionHypothesis =>
      obtain ⟨named, isNamed, later⟩ := Option.bind_eq_some_iff.mp reached
      refine inductionHypothesis (some named) ?_ later
      exact List.mem_cons_of_mem _ (List.mem_map_of_mem (known cursor named isNamed))
  have reached (n : Nat) : ∃ cursor, walk pages none n = some cursor :=
    Option.ne_none_iff_exists'.mp fun isOver => endless ⟨n, isOver⟩
  choose cursorAt isAt using reached
  have injective : Function.Injective cursorAt := by
    intro i j same
    exact noneTwice i j _ (isAt i) (same ▸ isAt j)
  have range : Set.range cursorAt ⊆ {cursor | cursor ∈ none :: cursors.map some} := by
    rintro _ ⟨n, rfl⟩
    exact listed none n List.mem_cons_self _ (isAt n)
  exact Set.infinite_range_of_injective injective ((List.finite_toSet _).subset range)

/-- The visits of a loop that ends go up to the first missing cursor. The induction is on the
requests, with the cursors used so far carried along. -/
theorem visited_of_follow {used : List κ} (ends : follow pages requests cursor = some visits)
    (fresh : ∀ old ∈ used, ∀ visit ∈ visits.tail, visit.1 ≠ some old) :
    Visited pages used cursor visits := by
  induction requests generalizing cursor visits used with
  | zero => cases ends
  | succ requests inductionHypothesis =>
    have distinct := follow_nodup ends
    rw [follow] at ends
    cases named : (pages cursor).2 with
    | none =>
      rw [named] at ends
      obtain rfl := Option.some.inj ends
      exact .missing named
    | some next =>
      rw [named] at ends
      obtain ⟨later, isLater, rfl⟩ := Option.map_eq_some_iff.mp ends
      obtain ⟨rest, rfl⟩ := follow_head isLater
      refine .further named ?_ (inductionHypothesis isLater ?_)
      · intro again
        exact fresh next again _ List.mem_cons_self rfl
      · have apart := (List.nodup_cons.mp (List.nodup_cons.mp distinct).2).1
        refine List.forall_mem_cons.mpr ⟨?_, ?_⟩
        · intro visit listed same
          exact apart (List.mem_map.mpr ⟨visit, listed, same⟩)
        · intro old isOld visit listed
          exact fresh old isOld visit (List.mem_cons_of_mem _ listed)

/-- Among finitely many cursors the loop lists all pages exactly where it comes to no cursor twice.

Proof: a loop that ends asks for no cursor twice, and its cursors are those of the walk. The other
way the walk ends, as it cannot go through finitely many cursors for ever, and the loop follows it
to its end. -/
theorem listsAll_iff (cursors : List κ)
    (known : ∀ cursor next, (pages cursor).2 = some next → next ∈ cursors) :
    ListsAll pages ↔ NoneTwice pages := by
  constructor
  · rintro ⟨requests, visits, ends, -⟩
    exact .of_follow ends
  · intro noneTwice
    obtain ⟨n, isOver⟩ := noneTwice.walk_ends cursors known
    obtain ⟨visits, ends⟩ := follow_of_walk isOver
    exact ⟨n, visits, ends, follow_nodup ends, visited_of_follow ends (by simp)⟩

end CursorPages
