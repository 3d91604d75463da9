import Relmap.Proofs.Keyed
import Relmap.Proofs.Outcome
import Relmap.Schema.Resolution

/-!
# Converted rows

A row is converted value by value, each by the type of its column.
-/

namespace Relmap.Registry

variable {r : Registry} {m : Metadata} {convert : ColumnType → Value → Except Error Value}
  {row converted : Row}

/-- An entry of a row is converted to another one of the same column. -/
def Converted (r : Registry) (m : Metadata) (convert : ColumnType → Value → Except Error Value)
    (entry entry' : String × Value) : Prop :=
  entry'.1 = entry.1 ∧
    ∃ type, r.columnType m entry.1 = .ok type ∧ convert type entry.2 = .ok entry'.2

theorem convertRow_ok (ok : r.convertRow m convert row = .ok converted) :
    List.Forall₂ (r.Converted m convert) row converted := by
  refine (mapM_ok ok).imp fun entry entry' here => ?_
  simp only [bind_eq_ok, pure_eq_ok] at here
  obtain ⟨type, typed, value, ok, rfl⟩ := here
  exact ⟨rfl, type, typed, ok⟩

/-- A row that is not converted has an entry without a column or with a value that is not. -/
theorem convertRow_error {e : Error} (failed : r.convertRow m convert row = .error e) :
    ∃ entry ∈ row, (r.columnType m entry.1 >>= fun type => convert type entry.2) = .error e := by
  obtain ⟨entry, member, failed⟩ := mapM_error failed
  refine ⟨entry, member, ?_⟩
  rw [bind_eq_error] at failed ⊢
  refine failed.imp_right fun ⟨type, typed, failed⟩ => ⟨type, typed, ?_⟩
  rcases bind_eq_error.mp failed with failed | ⟨_, -, failed⟩
  · exact failed
  · cases failed

theorem names_of_converted (each : List.Forall₂ (r.Converted m convert) row converted) :
    converted.names = row.names := by
  induction each with
  | nil => rfl
  | cons first _ ih =>
    simp only [Keyed.names, List.map_cons] at ih ⊢
    rw [ih, first.1]

theorem get?_of_converted {column : String} {value : Value}
    (each : List.Forall₂ (r.Converted m convert) row converted)
    (found : row.get? column = some value) :
    ∃ value', converted.get? column = some value' ∧
      r.Converted m convert (column, value) (column, value') := by
  induction each with
  | nil => cases found
  | @cons entry entry' rest rest' first _ ih =>
    obtain ⟨name, old⟩ := entry
    obtain ⟨_, new⟩ := entry'
    obtain ⟨rfl, typed⟩ := first
    rw [Keyed.get?] at found
    rw [Keyed.get?]
    split at found
    · rename_i same
      subst same
      obtain rfl := Option.some.inj found
      exact ⟨new, if_pos rfl, rfl, typed⟩
    · rename_i other
      rw [if_neg other]
      exact ih found

end Relmap.Registry
