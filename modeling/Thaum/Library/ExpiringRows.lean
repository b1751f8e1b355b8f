import Mathlib.Data.List.Basic

/-!
# Keys that stay spent until their row expires

A row with an expiry records that its key was spent. A purge removes the rows
that expired before its clock reading, so a key is blocked as long as its row is
stored. `SpentUntil` is the invariant over time: whatever was stored for the key
reaches to the deadline, and either it is still stored or the clock has passed
it. Purges and additions at later readings keep it, and up to the deadline a key
spent this way is found in the purged table.
-/

namespace ExpiringRows

universe u v
variable {κ : Type u} {ρ : Type v} (key : ρ → κ) (expires : ρ → Int)

/-- Delete the rows whose expiry lies before the reading. -/
def purge (now : Int) (rows : List ρ) : List ρ :=
  rows.filter fun row => !decide (expires row < now)

/-- A row of the key reached to the deadline; it is stored unless the clock has
passed its expiry. -/
def SpentUntil (k : κ) (deadline clock : Int) (rows : List ρ) : Prop :=
  ∃ expiry, deadline ≤ expiry ∧
    (expiry < clock ∨ ∃ row ∈ rows, key row = k ∧ expires row = expiry)

variable {key expires} {k : κ} {deadline clock now : Int} {rows added : List ρ} {row : ρ}

/-- A purge keeps the rows that have not expired at its reading, those that expire at that very time
included. -/
theorem mem_purge : row ∈ purge expires now rows ↔ row ∈ rows ∧ now ≤ expires row := by
  simp [purge]

/-- Storing a row that reaches to the deadline spends its key up to there; this is how the invariant
starts. -/
theorem spentUntil_of_mem (stored : row ∈ rows) (reaches : deadline ≤ expires row) :
    SpentUntil key expires (key row) deadline clock rows :=
  ⟨expires row, reaches, Or.inr ⟨row, stored, rfl, rfl⟩⟩

/-- A later reading of the clock leaves the key spent, as the deadline is absolute. -/
theorem spentUntil_later (spent : SpentUntil key expires k deadline clock rows)
    (later : clock ≤ now) : SpentUntil key expires k deadline now rows := by
  obtain ⟨expiry, reaches, passed | stored⟩ := spent
  · exact ⟨expiry, reaches, Or.inl (by omega)⟩
  · exact ⟨expiry, reaches, Or.inr stored⟩

/-- A purge at a later reading deletes the row only once its expiry has passed, so it deletes no row
that the invariant still needs. -/
theorem spentUntil_purge (spent : SpentUntil key expires k deadline clock rows)
    (later : clock ≤ now) :
    SpentUntil key expires k deadline now (purge expires now rows) := by
  obtain ⟨expiry, reaches, passed | ⟨row, stored, keyed, expiring⟩⟩ := spent
  · exact ⟨expiry, reaches, Or.inl (by omega)⟩
  · by_cases deleted : expiry < now
    · exact ⟨expiry, reaches, Or.inl deleted⟩
    · have kept : row ∈ purge expires now rows := mem_purge.mpr ⟨stored, by omega⟩
      exact ⟨expiry, reaches, Or.inr ⟨row, kept, keyed, expiring⟩⟩

/-- Rows that are added beside it take nothing from a spent key. -/
theorem spentUntil_append (spent : SpentUntil key expires k deadline clock rows) :
    SpentUntil key expires k deadline clock (rows ++ added) := by
  obtain ⟨expiry, reaches, passed | ⟨row, stored, keyed, expiring⟩⟩ := spent
  · exact ⟨expiry, reaches, Or.inl passed⟩
  · exact ⟨expiry, reaches,
      Or.inr ⟨row, List.mem_append_left added stored, keyed, expiring⟩⟩

/-- Up to the deadline a spent key is found after any purge: a row that reaches to the deadline
outlives every reading up to it. -/
theorem found_of_spentUntil (spent : SpentUntil key expires k deadline clock rows)
    (later : clock ≤ now) (early : now ≤ deadline) :
    ∃ row ∈ purge expires now rows, key row = k := by
  obtain ⟨expiry, reaches, passed | ⟨row, stored, keyed, expiring⟩⟩ :=
    spentUntil_purge spent later
  · omega
  · exact ⟨row, stored, keyed⟩

end ExpiringRows
