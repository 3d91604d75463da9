import Relmap.Schema.Resolution
import Relmap.Proofs.Schema.Coherent

/-!
# What a name resolves to

A name stands for a column of the table, else of its translation, else of the first subclass that
has the column under the name or under what follows the discriminator. Main statement,
`get?_reachableColumns`.
-/

namespace Relmap

namespace Metadata

/-- The type of the column that is reached in a subclass under a name: the column of the name, or
one that has the name after the discriminator. -/
def reached? (child : Metadata) (discriminator name : String) : Option ColumnType :=
  (child.columns.get? name).or
    (Keyed.get? (child.columns.map fun c => (prefixedColumn discriminator c.1, c.2)) name)

end Metadata

theorem prefixedColumn_injective (discriminator : String) :
    Function.Injective (prefixedColumn discriminator) := by
  intro column other same
  exact (String.append_right_inj (discriminator ++ "_")).mp same

theorem get?_renamed {columns : Keyed ColumnType} {rename : String → String} {name : String}
    {type : ColumnType}
    (found : Keyed.get? (columns.map fun c => (rename c.1, c.2)) name = some type) :
    ∃ column, rename column = name ∧ columns.get? column = some type := by
  induction columns with
  | nil => cases found
  | cons c rest ih =>
    obtain ⟨column, first⟩ := c
    simp only [List.map_cons, Keyed.get?] at found
    split at found
    · rename_i named
      exact ⟨column, named, by rw [Keyed.get?, if_pos rfl, found]⟩
    · rename_i other
      obtain ⟨later, named, declared⟩ := ih found
      refine ⟨later, named, ?_⟩
      rw [Keyed.get?, if_neg, declared]
      rintro rfl
      exact other named

namespace Registry

theorem get?_addColumns (found : Keyed ResolvedColumn) (columns : Keyed ColumnType)
    (origin : Origin) (rename : String → String) (name : String) :
    (addColumns found columns origin rename).get? name =
      (found.get? name).or
        ((Keyed.get? (columns.map fun c => (rename c.1, c.2)) name).map (⟨·, origin⟩)) := by
  induction columns generalizing found with
  | nil => simp [addColumns, Keyed.get?]
  | cons c rest ih =>
    simp only [addColumns, List.foldl_cons, List.map_cons, Keyed.get?] at ih ⊢
    rw [ih, Keyed.get?_insertNew, Option.or_assoc]
    split <;> rfl

theorem get?_addSubclassColumns (found : Keyed ResolvedColumn) (discriminator : String)
    (child : Metadata) (name : String) :
    (addSubclassColumns found discriminator child).get? name =
      (found.get? name).or ((child.reached? discriminator name).map (⟨·, .inherited child.table⟩)) := by
  simp only [addSubclassColumns, get?_addColumns, Metadata.reached?, Option.or_assoc,
    Option.map_or, id_eq, List.map_id']

theorem get?_foldl_addSubclassColumns (subclasses : Keyed Metadata) (found : Keyed ResolvedColumn)
    (name : String) :
    (subclasses.foldl (fun found s => addSubclassColumns found s.1 s.2) found).get? name =
      (found.get? name).or (subclasses.findSome? fun s =>
        (s.2.reached? s.1 name).map (⟨·, .inherited s.2.table⟩)) := by
  induction subclasses generalizing found with
  | nil => simp
  | cons s rest ih =>
    rw [List.foldl_cons, ih, get?_addSubclassColumns, Option.or_assoc, List.findSome?_cons]
    cases s.2.reached? s.1 name <;> rfl

/-- The table comes before its translation, and this before the subclasses in their order. -/
theorem get?_reachableColumns (r : Registry) (m : Metadata) (name : String) :
    (r.reachableColumns m).get? name =
      ((m.columns.get? name).map (⟨·, .direct⟩)).or
        (((r.translationOf? m).bind fun t =>
            (t.columns.get? name).map (⟨·, .translation t.table⟩)).or
          ((r.subclassesOf m).findSome? fun s =>
            (s.2.reached? s.1 name).map (⟨·, .inherited s.2.table⟩))) := by
  unfold reachableColumns
  rw [get?_foldl_addSubclassColumns]
  cases r.translationOf? m with
  | none => simp [get?_addColumns, Keyed.get?]
  | some t => simp [get?_addColumns, Keyed.get?, Option.or_assoc]

end Registry
end Relmap
