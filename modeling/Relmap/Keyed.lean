/-!
# Ordered maps

Maps from names to values that keep the order in which the names first arrived, as lists of pairs.
A name that is written again keeps its place and takes the new value.
-/

namespace Relmap

/-- Names with values, in order of arrival. -/
abbrev Keyed (α : Type) := List (String × α)

namespace Keyed

variable {α β : Type}

/-- The value under a name. -/
def get? (entries : Keyed α) (name : String) : Option α :=
  match entries with
  | [] => none
  | (other, value) :: rest => if other = name then some value else get? rest name

/-- The names in order. -/
def names (entries : Keyed α) : List String := entries.map (·.1)

/-- Some entry has the name. -/
def has (entries : Keyed α) (name : String) : Bool := (entries.get? name).isSome

/-- Writes a value: in place if the name is present, at the end if not. -/
def insert (entries : Keyed α) (name : String) (value : α) : Keyed α :=
  match entries with
  | [] => [(name, value)]
  | (other, old) :: rest =>
    if other = name then (name, value) :: rest else (other, old) :: insert rest name value

/-- Writes a value at the end unless the name is present. -/
def insertNew (entries : Keyed α) (name : String) (value : α) : Keyed α :=
  if entries.has name then entries else entries ++ [(name, value)]

/-- Drops the entries with the name. -/
def erase (entries : Keyed α) (name : String) : Keyed α :=
  entries.filter fun entry => entry.1 != name

/-- Writes entries one after the other into an empty map. -/
def ofList (entries : List (String × α)) : Keyed α :=
  entries.foldl (fun map entry => map.insert entry.1 entry.2) []

/-- Applies a function to the values. -/
def mapValues (f : α → β) (entries : Keyed α) : Keyed β :=
  entries.map fun entry => (entry.1, f entry.2)

/-- A name that is read after a write has the written value, and another name keeps its own. -/
theorem get?_insert (entries : Keyed α) (name other : String) (value : α) :
    (entries.insert name value).get? other =
      if name = other then some value else entries.get? other := by
  induction entries with
  | nil => simp [insert, get?]
  | cons entry rest ih =>
    obtain ⟨first, old⟩ := entry
    by_cases present : first = name
    · simp only [insert, get?, present, if_pos]
      split <;> rfl
    · simp only [insert, get?, if_neg present, ih]
      by_cases found : first = other
      · simp [found, show name ≠ other from fun same => present (found.trans same.symm)]
      · simp [found]

theorem get?_append (entries later : Keyed α) (name : String) :
    get? (entries ++ later) name = (entries.get? name).or (get? later name) := by
  induction entries with
  | nil => rfl
  | cons entry rest ih =>
    obtain ⟨first, value⟩ := entry
    simp only [List.cons_append, get?, ih]
    split <;> rfl

/-- A name that is present keeps its value, and a new one takes the written value. -/
theorem get?_insertNew (entries : Keyed α) (name other : String) (value : α) :
    (entries.insertNew name value).get? other =
      (entries.get? other).or (if name = other then some value else none) := by
  unfold insertNew
  split
  · rename_i present
    split
    · rename_i same
      subst same
      obtain ⟨old, found⟩ := Option.isSome_iff_exists.mp present
      rw [found, Option.some_or]
    · rw [Option.or_none]
  · rw [get?_append]
    rfl

/-- A name is present iff it is among the names. -/
theorem has_iff_mem_names (entries : Keyed α) (name : String) :
    entries.has name = true ↔ name ∈ entries.names := by
  induction entries with
  | nil => simp [has, get?, names]
  | cons entry rest ih =>
    obtain ⟨first, value⟩ := entry
    simp only [has, names, get?, List.map_cons, List.mem_cons] at ih ⊢
    by_cases found : first = name
    · simp [found]
    · simp [found, ih, Ne.symm found]

/-- A written name keeps its place, and a new one goes to the end. -/
theorem names_insert (entries : Keyed α) (name : String) (value : α) :
    (entries.insert name value).names =
      if entries.has name then entries.names else entries.names ++ [name] := by
  induction entries with
  | nil => rfl
  | cons entry rest ih =>
    obtain ⟨first, old⟩ := entry
    simp only [names, has] at ih ⊢
    by_cases present : first = name
    · simp [insert, get?, present]
    · simp only [insert, get?, if_neg present, List.map_cons, ih]
      by_cases later : (get? rest name).isSome = true <;> simp [later]

example : ofList [("b", 1), ("a", 2), ("b", 3)] = [("b", 3), ("a", 2)] := by decide

end Keyed
end Relmap
