import Relmap.Proofs.Schema.RoundTrip
import Relmap.Sqlite.Cell

/-!
# Stored values in cells

A cell does not keep the kind of a value: a truth value becomes an integer, and not-a-number becomes
null. Main statement, `transparent_of_stored`: of the values that are stored in the columns of a type,
only lists have no cell, and what a cell is read as has the same application form as the stored value,
just if that is a number or no real at all.
-/

namespace Relmap

/-- A real that is no number. -/
def Value.isNaN : Value → Bool
  | .real x => x.isNaN
  | _ => false

namespace Sqlite.Cell

theorem exists_bind_iff {d : Value} : (∃ cell, bind d = .ok cell) ↔ d.isList = false := by
  cases d <;> simp [bind, ofValue?, Value.isList]

/-- The cell of a leaf of a column. -/
theorem transparent_of_kind {type : ColumnType} {d : Value} {cell : Cell}
    (kind : d.kind = type.storedKind) (bound : bind d = .ok cell) :
    type.toApplication cell.value = type.toApplication d ↔ d.isNaN = false := by
  cases d with
  | int | text | bytes =>
    cases bound
    exact iff_of_true rfl rfl
  | bool b =>
    -- Only a column of truth values stores one, and it reads an integer as well.
    obtain rfl : type = .boolean := by cases type <;> first | rfl | cases kind
    cases bound
    cases b <;> exact iff_of_true rfl rfl
  | real x =>
    obtain rfl : type = .float := by cases type <;> first | rfl | cases kind
    cases bound
    cases isNaN : x.isNaN with
    | true =>
      refine iff_of_false (fun same => ?_) (by simp [Value.isNaN, isNaN])
      cases same
    | false => exact iff_of_true rfl isNaN
  | _ => cases type <;> cases kind

/-- Of what is stored, only a list has no cell. Any other value is read from its cell as one with the
same application form, unless it is not-a-number. -/
theorem transparent_of_stored {type : ColumnType} {v d : Value} (stored : type.toStored v = .ok d) :
    ((∃ cell, bind d = .ok cell) ↔ d.isList = false) ∧
    ∀ cell, bind d = .ok cell →
      (type.toApplication cell.value = type.toApplication d ↔ d.isNaN = false) := by
  refine ⟨exists_bind_iff, fun cell bound => ?_⟩
  cases Value.converts_of_ok stored with
  | null =>
    cases bound
    exact iff_of_true rfl rfl
  | list => cases bound
  | leaf _ ok => exact transparent_of_kind (ColumnType.kind_storedLeaf ok) bound

/-- The integer 2 is stored as a truth value, which comes back as the integer 1. -/
theorem transparent_of_stored_boolean :
    ColumnType.boolean.toStored (.int 2) = .ok (.bool true) ∧ bind (.bool true) = .ok (.integer 1) ∧
      ColumnType.boolean.toApplication (.int 1) = ColumnType.boolean.toApplication (.bool true) := by
  have stored : ColumnType.boolean.toStored (.int 2) = .ok (.bool true) := rfl
  exact ⟨stored, rfl, ((transparent_of_stored stored).2 (.integer 1) rfl).mpr rfl⟩

end Sqlite.Cell
end Relmap
