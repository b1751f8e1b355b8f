import Mathlib.Data.List.Basic
import Mathlib.Data.List.Induction
import Mathlib.Data.List.Nodup
import Mathlib.Data.List.Perm.Basic

/-!
# Tables with a primary key, and scans in any order

A table is a list of rows with a key function. `get` reads by primary key,
`modify` rewrites the row of a key in place, and a fresh row is appended. A table
is `Distinct` when no two rows share a key.

A query over anything but the key sees the rows in an order the database is free
to choose. `Scan` is such an order: a rearrangement of whatever rows there are.
A `first()` through a scan returns the only matching row when there is one, and
for every matching row some scan returns that row.
-/

namespace KeyedRows

universe u v
variable {κ : Type u} {ρ : Type v} [DecidableEq κ] (key : ρ → κ)

/-- The row of a primary key. -/
def get (k : κ) (rows : List ρ) : Option ρ := rows.find? fun row => decide (key row = k)

/-- Rewrite the row of a key in place. -/
def modify (k : κ) (f : ρ → ρ) (rows : List ρ) : List ρ :=
  rows.map fun row => if key row = k then f row else row

/-- Store a row under its key: in place of the one it has, or as a new one. -/
def put (row : ρ) (rows : List ρ) : List ρ :=
  if (get key (key row) rows).isSome then modify key (key row) (fun _ => row) rows
  else rows ++ [row]

/-- No two rows share a key. -/
def Distinct (rows : List ρ) : Prop := (rows.map key).Nodup

variable {key} {k other : κ} {rows : List ρ} {row : ρ} {f : ρ → ρ}

/-- What `get` finds is stored, and under the key that was asked for. -/
theorem get_some (found : get key k rows = some row) : row ∈ rows ∧ key row = k :=
  ⟨List.mem_of_find?_eq_some found, by simpa using List.find?_some found⟩

/-- `get` finds nothing exactly where no stored row has the key. -/
theorem get_none_iff : get key k rows = none ↔ ∀ row ∈ rows, key row ≠ k := by
  simp [get]

/-- In a table with distinct keys a stored row is the one its key reads; without distinct keys `get`
might stop at another row in front of it. -/
theorem get_of_mem (distinct : Distinct key rows) (stored : row ∈ rows) :
    get key (key row) rows = some row := by
  induction rows with
  | nil => simp at stored
  | cons first rest inductionHypothesis =>
    obtain ⟨fresh, tail⟩ := List.nodup_cons.mp distinct
    rcases List.mem_cons.mp stored with rfl | later
    · simp [get]
    · have different : key first ≠ key row := by
        intro same
        exact fresh (List.mem_map.mpr ⟨row, later, same.symm⟩)
      have read := inductionHypothesis tail later
      simpa [get, different] using read

/-- Two stored rows of one key are one row. -/
theorem eq_of_key (distinct : Distinct key rows) {second : ρ} (stored : row ∈ rows)
    (also : second ∈ rows) (same : key row = key second) : row = second := by
  have left := get_of_mem distinct stored
  rw [same, get_of_mem distinct also] at left
  exact (Option.some.inj left).symm

/-- A row appended under a key that is not stored is what the key reads from then on. -/
theorem get_append_fresh (fresh : get key k rows = none) (keyed : key row = k) :
    get key k (rows ++ [row]) = some row := by
  rw [get, List.find?_append, show rows.find? _ = none from fresh]
  simp [keyed]

/-- Appending a row leaves what other keys read as it is. -/
theorem get_append_other (different : key row ≠ k) :
    get key k (rows ++ [row]) = get key k rows := by
  rw [get, List.find?_append]
  simp [get, different]

/-- Appending a row whose key is not stored keeps the keys distinct. -/
theorem distinct_append (distinct : Distinct key rows) (fresh : get key (key row) rows = none) :
    Distinct key (rows ++ [row]) := by
  rw [Distinct, List.map_append, List.nodup_append]
  refine ⟨distinct, by simp, ?_⟩
  intro stored member appended isRow
  obtain ⟨before, inRows, rfl⟩ := List.mem_map.mp member
  have same : appended = key row := by simpa using isRow
  exact same ▸ get_none_iff.mp fresh before inRows

/-- A row of a rewritten table is a row of another key, or the rewritten one. Proofs about an update
of one row start from this split. -/
theorem mem_modify (stored : row ∈ modify key k f rows) :
    (row ∈ rows ∧ key row ≠ k) ∨ ∃ before ∈ rows, key before = k ∧ row = f before := by
  obtain ⟨before, member, rfl⟩ := List.mem_map.mp stored
  by_cases here : key before = k
  · exact Or.inr ⟨before, member, here, by simp [here]⟩
  · exact Or.inl ⟨by simpa [here] using member, by simp [here]⟩

/-- Rows of other keys stay stored when the row of a key is rewritten. -/
theorem mem_modify_other (stored : row ∈ rows) (different : key row ≠ k) :
    row ∈ modify key k f rows :=
  List.mem_map.mpr ⟨row, stored, by simp [different]⟩

/-- The row of the key is stored as it was rewritten. -/
theorem mem_modify_same (stored : row ∈ rows) (keyed : key row = k) :
    f row ∈ modify key k f rows :=
  List.mem_map.mpr ⟨row, stored, by simp [keyed]⟩

section Put

/-- What is stored under a key is what the key reads, whether or not it was stored before. -/
theorem get_put_same : get key (key row) (put key row rows) = some row := by
  rw [put]
  cases found : get key (key row) rows with
  | none =>
    rw [Option.isSome_none, if_neg Bool.false_ne_true]
    exact get_append_fresh found rfl
  | some before =>
    rw [Option.isSome_some, if_pos rfl]
    obtain ⟨stored, keyed⟩ := get_some found
    have rewritten : row ∈ modify key (key row) (fun _ => row) rows :=
      mem_modify_same stored keyed
    cases read : get key (key row) (modify key (key row) (fun _ => row) rows) with
    | none => exact absurd rfl (get_none_iff.mp read row rewritten)
    | some after =>
      obtain ⟨member, same⟩ := get_some read
      rcases mem_modify member with ⟨_, different⟩ | ⟨_, _, _, isRow⟩
      · exact absurd same different
      · rw [isRow]

/-- A stored table row is the new one, or an old one of another key. Unlike an append, storing never
leaves two rows of one key. -/
theorem mem_put {second : ρ} :
    second ∈ put key row rows → second = row ∨ (second ∈ rows ∧ key second ≠ key row) := by
  intro stored
  rw [put] at stored
  split at stored
  · rcases mem_modify stored with other | ⟨_, _, _, isRow⟩
    · exact Or.inr other
    · exact Or.inl isRow
  · rename_i absent
    rcases List.mem_append.mp stored with old | new
    · refine Or.inr ⟨old, fun same => absent ?_⟩
      rw [Option.isSome_iff_ne_none]
      intro unread
      exact get_none_iff.mp unread second old same
    · exact Or.inl (List.mem_singleton.mp new)

/-- The row that was stored is in the table. -/
theorem mem_put_self : row ∈ put key row rows := (get_some get_put_same).1

/-- Storing a row takes no row of another key away. -/
theorem mem_put_other {second : ρ} (stored : second ∈ rows) (different : key second ≠ key row) :
    second ∈ put key row rows := by
  rw [put]
  split
  · exact mem_modify_other stored different
  · exact List.mem_append_left _ stored

/-- Rewriting the row of a key that is not stored changes nothing. -/
theorem modify_absent (absent : ∀ row ∈ rows, key row ≠ k) : modify key k f rows = rows := by
  rw [modify, List.map_congr_left fun row stored => if_neg (absent row stored), List.map_id']

/-- Storing a row again that is the only one of its key changes nothing. -/
theorem put_stored (stored : row ∈ rows) (only : ∀ second ∈ rows, key second = key row →
    second = row) : put key row rows = rows := by
  have present : (get key (key row) rows).isSome = true := by
    rw [Option.isSome_iff_ne_none]
    intro absent
    exact get_none_iff.mp absent row stored rfl
  rw [put, if_pos present, modify]
  conv_rhs => rw [← List.map_id' rows]
  apply List.map_congr_left
  intro second isStored
  split
  · rename_i same
    exact (only second isStored same).symm
  · rfl

/-- Storing a row in place of another one keeps the number of rows. -/
theorem length_put (stored : (get key (key row) rows).isSome = true) :
    (put key row rows).length = rows.length := by
  rw [put, if_pos stored, modify, List.length_map]

/-- Storing a row in place of another one moves a count by what the two count. Both sides are sums,
as a count of natural numbers cannot go below zero. -/
theorem countP_put (counted : ρ → Bool) {before : ρ} (distinct : Distinct key rows)
    (found : get key (key row) rows = some before) :
    (put key row rows).countP counted + (if counted before then 1 else 0) =
      rows.countP counted + (if counted row then 1 else 0) := by
  rw [put, if_pos (by rw [found]; rfl)]
  induction rows with
  | nil => simp [get] at found
  | cons first rest inductionHypothesis =>
    obtain ⟨fresh, tail⟩ := List.nodup_cons.mp distinct
    by_cases here : key first = key row
    · have isFirst : before = first := by simpa [get, here] using found.symm
      have others : modify key (key row) (fun _ => row) rest = rest := by
        refine modify_absent fun second stored same => fresh ?_
        exact List.mem_map.mpr ⟨second, stored, same.trans here.symm⟩
      rw [modify, List.map_cons, if_pos here, ← modify, others, isFirst, List.countP_cons,
        List.countP_cons]
      omega
    · have later : get key (key row) rest = some before := by simpa [get, here] using found
      have counts := inductionHypothesis tail later
      rw [modify, List.map_cons, if_neg here, ← modify, List.countP_cons, List.countP_cons]
      omega

/-- Storing a row leaves what other keys read as it is. -/
theorem get_put_other (different : key row ≠ k) :
    get key k (put key row rows) = get key k rows := by
  rw [put]
  split
  · rename_i present
    clear present
    induction rows with
    | nil => rfl
    | cons first rest inductionHypothesis =>
      simp only [get, modify, List.map_cons, List.find?_cons] at inductionHypothesis ⊢
      by_cases here : key first = key row
      · simp only [here, if_true, different, decide_false]
        exact inductionHypothesis
      · simp only [here, if_false]
        split
        · rfl
        · exact inductionHypothesis
  · exact get_append_other different

/-- Storing keeps the keys distinct: the row goes in place of the one of its key, or is fresh. -/
theorem distinct_put (distinct : Distinct key rows) : Distinct key (put key row rows) := by
  rw [put]
  split
  · have sameKeys : (modify key (key row) (fun _ => row) rows).map key = rows.map key := by
      rw [modify, List.map_map]
      apply List.map_congr_left
      intro second _
      simp only [Function.comp]
      split
      · rename_i same
        exact same.symm
      · rfl
    rw [Distinct, sameKeys]
    exact distinct
  · rename_i absent
    apply distinct_append distinct
    simpa using absent

end Put

section Part

variable {keep : ρ → Bool}

/-- A part of the table that has all rows of a key reads it alike. The rows of one bot among those
of all bots are such a part. -/
theorem get_filter (kept : ∀ row, key row = k → keep row = true) :
    get key k (rows.filter keep) = get key k rows := by
  rw [get, get, List.find?_filter]
  congr 1
  funext row
  by_cases same : key row = k
  · simp [kept row same]
  · simp [same]

/-- Rewriting a row keeps it in the part, where the part has all rows of a key or none. So a table
is rewritten part by part. -/
theorem filter_modify (byKey : ∀ second, key second = key row → keep second = keep row) :
    (modify key (key row) (fun _ => row) rows).filter keep =
      modify key (key row) (fun _ => row) (rows.filter keep) := by
  rw [modify, modify, List.filter_map]
  congr 2
  funext second
  by_cases same : key second = key row
  · simp [same, byKey second same]
  · simp [same]

/-- Storing a row of the part stores it in the part. -/
theorem filter_put_kept (kept : ∀ second, key second = key row → keep second = true) :
    (put key row rows).filter keep = put key row (rows.filter keep) := by
  have own := kept row rfl
  rw [put, put, get_filter kept]
  split
  · exact filter_modify fun second same => (kept second same).trans own.symm
  · rw [List.filter_append, List.filter_singleton, own]
    rfl

/-- Storing a row outside the part leaves the part as it is. -/
theorem filter_put_dropped (dropped : ∀ second, key second = key row → keep second = false) :
    (put key row rows).filter keep = rows.filter keep := by
  have own := dropped row rfl
  rw [put]
  split
  · rw [filter_modify fun second same => (dropped second same).trans own.symm]
    apply modify_absent
    intro second listed same
    have kept := (List.mem_filter.mp listed).2
    rw [dropped second same] at kept
    exact Bool.false_ne_true kept
  · rw [List.filter_append, List.filter_singleton, own]
    simp

end Part

/-- The table built by storing rows one after the other, as a dictionary comprehension
does. -/
def putAll (key : ρ → κ) (rows : List ρ) : List ρ :=
  rows.foldl (fun table row => put key row table) []

/-- The last row is stored into the table of those before it. Induction from the right end follows
the order in which a dictionary comprehension stores. -/
theorem putAll_snoc (rows : List ρ) (row : ρ) :
    putAll key (rows ++ [row]) = put key row (putAll key rows) := by
  rw [putAll, List.foldl_append]
  rfl

/-- Rows of different keys are stored as they come: none of them replaces another one. -/
theorem putAll_distinct (distinct : Distinct key rows) : putAll key rows = rows := by
  induction rows using List.reverseRecOn with
  | nil => rfl
  | append_singleton before last inductionHypothesis =>
    rw [Distinct, List.map_append, List.nodup_append] at distinct
    obtain ⟨first, -, apart⟩ := distinct
    have absent : get key (key last) before = none := by
      refine get_none_iff.mpr fun row stored same => ?_
      exact apart _ (List.mem_map_of_mem stored) _ (List.mem_singleton_self _) same
    rw [putAll_snoc, inductionHypothesis first, put, absent, Option.isSome_none,
      if_neg Bool.false_ne_true]

/-- What is read of such a table is one of the rows, as each stored row came from the list. -/
theorem get_putAll_some (found : get key k (putAll key rows) = some row) :
    row ∈ rows ∧ key row = k := by
  induction rows using List.reverseRecOn with
  | nil => simp [putAll, get] at found
  | append_singleton before last inductionHypothesis =>
    rw [putAll_snoc] at found
    by_cases here : key last = k
    · subst here
      rw [get_put_same] at found
      obtain rfl := Option.some.inj found
      exact ⟨by simp, rfl⟩
    · rw [get_put_other here] at found
      obtain ⟨stored, keyed⟩ := inductionHypothesis found
      exact ⟨List.mem_append_left _ stored, keyed⟩

/-- Every key of the rows is stored. -/
theorem get_putAll_isSome (stored : row ∈ rows) :
    (get key (key row) (putAll key rows)).isSome = true := by
  induction rows using List.reverseRecOn with
  | nil => simp at stored
  | append_singleton before last inductionHypothesis =>
    rw [putAll_snoc]
    by_cases here : key last = key row
    · rw [← here, get_put_same]
      rfl
    · rw [get_put_other here]
      rcases List.mem_append.mp stored with old | new
      · exact inductionHypothesis old
      · exact absurd (congrArg key (List.mem_singleton.mp new).symm) here

section Unique

variable {ι : Type u} {column : ρ → Option ι}

/-- A unique index on a column that may be null: rows with a value there share it
with no other row. -/
def Unique (key : ρ → κ) (column : ρ → Option ι) (rows : List ρ) : Prop :=
  ∀ first ∈ rows, ∀ second ∈ rows, ∀ value,
    column first = some value → column second = some value → key first = key second

/-- No row of another key has the value of the row, so the index lets it be stored. -/
def Free (key : ρ → κ) (column : ρ → Option ι) (row : ρ) (rows : List ρ) : Prop :=
  ∀ second ∈ rows, (column row).isSome = true → column second = column row → key second = key row

instance [DecidableEq ι] (row : ρ) (rows : List ρ) : Decidable (Free key column row rows) :=
  inferInstanceAs (Decidable (∀ second ∈ rows, _ → _ → _))

/-- A row whose value no other row has is stored without breaking the index. -/
theorem unique_put (unique : Unique key column rows) (free : Free key column row rows) :
    Unique key column (put key row rows) := by
  have newRow (second : ρ) (value : ι) (stored : second ∈ rows) (here : column row = some value)
      (there : column second = some value) : key second = key row :=
    free second stored (by rw [here]; rfl) (there.trans here.symm)
  intro first isFirst second isSecond value here there
  rcases mem_put isFirst with rfl | ⟨oldFirst, _⟩ <;>
    rcases mem_put isSecond with rfl | ⟨oldSecond, _⟩
  · rfl
  · exact (newRow second value oldSecond here there).symm
  · exact newRow first value oldFirst there here
  · exact unique first oldFirst second oldSecond value here there

end Unique

/-- An order in which a query without `ORDER BY` may return the stored rows. -/
structure Scan (ρ : Type v) where
  order : List ρ → List ρ
  permutes : ∀ rows, (order rows).Perm rows

/-- `first()` of the rows that satisfy the condition, in the order of the scan. -/
def Scan.first (scan : Scan ρ) (condition : ρ → Bool) (rows : List ρ) : Option ρ :=
  (scan.order rows).find? condition

/-- The stored order. -/
def Scan.stored : Scan ρ := ⟨id, fun rows => List.Perm.refl rows⟩

/-- The rows satisfying a condition before the others. -/
def Scan.preferring (preferred : ρ → Bool) : Scan ρ where
  order rows := rows.filter preferred ++ rows.filter fun row => !preferred row
  permutes rows := List.filter_append_perm preferred rows

variable {condition : ρ → Bool} {scan : Scan ρ}

/-- What a query returns is a stored row that satisfies its condition, in whatever order the
database looks. -/
theorem Scan.first_some (found : scan.first condition rows = some row) :
    row ∈ rows ∧ condition row = true :=
  ⟨(scan.permutes rows).mem_iff.mp (List.mem_of_find?_eq_some found), List.find?_some found⟩

/-- A query returns nothing exactly where no stored row satisfies its condition, which does not
depend on the order either. -/
theorem Scan.first_none_iff :
    scan.first condition rows = none ↔ ∀ row ∈ rows, condition row = false := by
  simp [Scan.first, (scan.permutes rows).mem_iff]

/-- Every matching row is what some order finds first: take the order that has this row in front of
the others. So a query with two matching rows may return either. -/
theorem Scan.exists_first (stored : row ∈ rows) (matching : condition row = true) :
    ∃ scan : Scan ρ, scan.first condition rows = some row := by
  classical
  refine ⟨Scan.preferring fun second => decide (second = row), ?_⟩
  have front : (rows.filter fun second => decide (second = row)).find? condition = some row := by
    cases found : (rows.filter fun second => decide (second = row)).find? condition with
    | none =>
      have unmatched := List.find?_eq_none.mp found row (by simp [stored])
      simp [matching] at unmatched
    | some second =>
      have member := List.mem_of_find?_eq_some found
      simp only [List.mem_filter, decide_eq_true_eq] at member
      rw [member.2]
  simp only [Scan.first, Scan.preferring, List.find?_append, front, Option.some_or]

end KeyedRows
