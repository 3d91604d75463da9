import Relmap.Keyed
import Mathlib.Data.List.Nodup

/-!
# Entries of ordered maps

What is found by name in a list or a map that names each entry once, and in a map after entries are
written or dropped.
-/

namespace Relmap

/-- Where at most one item is looked for, a search finds that item. -/
theorem find?_eq_some_of_unique {α : Type} {p : α → Bool} {items : List α}
    (unique : ∀ a ∈ items, ∀ b ∈ items, p a = true → p b = true → a = b) {a : α} :
    items.find? p = some a ↔ a ∈ items ∧ p a = true := by
  constructor
  · intro found
    exact ⟨List.mem_of_find?_eq_some found, List.find?_some found⟩
  · rintro ⟨member, holds⟩
    cases found : items.find? p with
    | none => exact absurd holds (List.find?_eq_none.mp found a member)
    | some b =>
      rw [unique b (List.mem_of_find?_eq_some found) a member (List.find?_some found) holds]

/-- Where no two have one name, the first with a name is the one with the name. -/
theorem find?_of_distinct {α : Type} {name : α → String} {items : List α}
    (distinct : (items.map name).Nodup) {wanted : String} {a : α} :
    items.find? (fun other => name other == wanted) = some a ↔ a ∈ items ∧ name a = wanted := by
  rw [find?_eq_some_of_unique, beq_iff_eq]
  intro a isItem b isItem' named named'
  rw [beq_iff_eq] at named named'
  exact List.inj_on_of_nodup_map distinct isItem isItem' (named.trans named'.symm)

namespace Keyed

variable {α : Type} {entries : Keyed α} {name : String} {value : α}

theorem mem_of_get? (found : entries.get? name = some value) : (name, value) ∈ entries := by
  induction entries with
  | nil => cases found
  | cons entry rest ih =>
    obtain ⟨first, old⟩ := entry
    rw [get?] at found
    split at found
    · rename_i same
      obtain rfl := Option.some.inj found
      rw [same]
      exact List.mem_cons_self
    · exact List.mem_cons_of_mem _ (ih found)

theorem get?_of_mem (distinct : entries.names.Nodup) {entry : String × α}
    (member : entry ∈ entries) : entries.get? entry.1 = some entry.2 := by
  induction entries with
  | nil => cases member
  | cons first rest ih =>
    obtain ⟨other, old⟩ := first
    rw [names, List.map_cons, List.nodup_cons] at distinct
    rw [get?]
    rcases List.mem_cons.mp member with rfl | later
    · exact if_pos rfl
    · rw [if_neg, ih distinct.2 later]
      rintro rfl
      exact distinct.1 (List.mem_map_of_mem (f := (·.1)) later)

theorem get?_of_absent (absent : name ∉ entries.names) : entries.get? name = none := by
  rw [← Option.not_isSome_iff_eq_none]
  exact fun present => absent ((has_iff_mem_names entries name).mp present)

/-! ## Written and dropped entries -/

theorem insert_of_absent (absent : name ∉ entries.names) (value : α) :
    entries.insert name value = entries ++ [(name, value)] := by
  induction entries with
  | nil => rfl
  | cons entry rest ih =>
    obtain ⟨first, old⟩ := entry
    rw [names, List.map_cons, List.mem_cons, not_or] at absent
    rw [insert, if_neg (Ne.symm absent.1), ih absent.2]
    rfl

theorem nodup_insert (distinct : entries.names.Nodup) (name : String) (value : α) :
    (entries.insert name value).names.Nodup := by
  rw [names_insert]
  split
  · exact distinct
  · rename_i absent
    rw [has_iff_mem_names] at absent
    exact distinct.append (List.nodup_singleton name) (List.disjoint_singleton.mpr absent)

theorem insert_of_get? (present : entries.get? name = some value) :
    entries.insert name value = entries := by
  induction entries with
  | nil => cases present
  | cons entry rest ih =>
    obtain ⟨first, old⟩ := entry
    rw [get?] at present
    rw [insert]
    split at present
    · rename_i same
      obtain rfl := Option.some.inj present
      rw [if_pos same, same]
    · rename_i other
      rw [if_neg other, ih present]

/-- Writes entries one after the other. -/
def writeAll (entries values : Keyed α) : Keyed α :=
  values.foldl (fun map entry => map.insert entry.1 entry.2) entries

theorem get?_writeAll (entries : Keyed α) {values : Keyed α} (distinct : values.names.Nodup)
    (name : String) :
    (entries.writeAll values).get? name = (values.get? name).or (entries.get? name) := by
  induction values generalizing entries with
  | nil => rfl
  | cons entry rest ih =>
    obtain ⟨first, value⟩ := entry
    obtain ⟨absent, later⟩ := List.nodup_cons.mp distinct
    show ((entries.insert first value).writeAll rest).get? name = _
    rw [ih _ later, get?_insert, get?]
    by_cases same : first = name
    · subst same
      rw [if_pos rfl, if_pos rfl, get?_of_absent absent]
      rfl
    · rw [if_neg same, if_neg same]

theorem get?_writeAll_of_mem (entries : Keyed α) {values : Keyed α} (distinct : values.names.Nodup)
    {entry : String × α} (member : entry ∈ values) :
    (entries.writeAll values).get? entry.1 = some entry.2 := by
  rw [get?_writeAll entries distinct, get?_of_mem distinct member, Option.some_or]

theorem mem_insert {entry : String × α} (member : entry ∈ entries.insert name value) :
    entry = (name, value) ∨ entry ∈ entries := by
  induction entries with
  | nil => exact .inl (List.mem_singleton.mp member)
  | cons first rest ih =>
    rw [insert] at member
    split at member
    · exact (List.mem_cons.mp member).imp_right (List.mem_cons_of_mem _)
    · rcases List.mem_cons.mp member with rfl | later
      · exact .inr List.mem_cons_self
      · exact (ih later).imp_right (List.mem_cons_of_mem _)

theorem mem_writeAll {values : Keyed α} {entry : String × α}
    (member : entry ∈ entries.writeAll values) : entry ∈ entries ∨ entry ∈ values := by
  induction values generalizing entries with
  | nil => exact .inl member
  | cons first rest ih =>
    have later : entry ∈ (entries.insert first.1 first.2).writeAll rest := member
    rcases ih later with here | later
    · rcases mem_insert here with rfl | kept
      · exact .inr List.mem_cons_self
      · exact .inl kept
    · exact .inr (List.mem_cons_of_mem _ later)

theorem mem_of_mem_ofList {values : List (String × α)} {entry : String × α}
    (member : entry ∈ ofList values) : entry ∈ values := by
  have written : entry ∈ writeAll [] values := member
  exact (mem_writeAll written).resolve_left List.not_mem_nil

theorem nodup_ofList (values : List (String × α)) : (ofList values).names.Nodup :=
  List.foldlRecOn values _ (motive := fun map : Keyed α => map.names.Nodup) List.nodup_nil
    fun _ distinct entry _ => nodup_insert distinct entry.1 entry.2

/-- Entries that are present are written to no effect. -/
theorem writeAll_of_held {values : Keyed α}
    (held : ∀ entry ∈ values, entries.get? entry.1 = some entry.2) :
    entries.writeAll values = entries := by
  induction values with
  | nil => rfl
  | cons entry rest ih =>
    obtain ⟨first, later⟩ := List.forall_mem_cons.mp held
    show (entries.insert entry.1 entry.2).writeAll rest = entries
    rw [insert_of_get? first, ih later]

/-- The first entry takes the value that is written under its name. -/
theorem writeAll_cons {first : String} {old : α} {later values : Keyed α}
    (distinct : values.names.Nodup) (apart : ∀ name ∈ values.names, name ∉ later.names) :
    writeAll ((first, old) :: later) values =
      (first, (values.get? first).getD old) :: (later ++ values.erase first) := by
  induction values generalizing old later with
  | nil => simp [writeAll, get?, erase]
  | cons entry rest ih =>
    obtain ⟨name, value⟩ := entry
    obtain ⟨absent, once⟩ := List.nodup_cons.mp distinct
    obtain ⟨new, others⟩ := List.forall_mem_cons.mp apart
    by_cases same : first = name
    · subst same
      show writeAll (insert ((first, old) :: later) first value) rest = _
      rw [insert, if_pos rfl, ih once others, get?_of_absent absent, get?, if_pos rfl]
      simp [erase]
    · have kept : erase ((name, value) :: rest) first = (name, value) :: erase rest first :=
        List.filter_cons_of_pos (by simpa using Ne.symm same)
      show writeAll (insert ((first, old) :: later) name value) rest = _
      rw [insert, if_neg same, insert_of_absent new, ih once ?_, get?, if_neg (Ne.symm same),
        kept, List.append_assoc, List.singleton_append]
      intro other member
      rw [names, List.map_append, List.mem_append, not_or]
      exact ⟨others other member, fun here => absent (List.mem_singleton.mp here ▸ member)⟩

theorem erase_of_absent (absent : name ∉ entries.names) : entries.erase name = entries := by
  refine List.filter_eq_self.mpr fun entry member => ?_
  have named : entry.1 ∈ entries.names := List.mem_map_of_mem member
  rw [bne_iff_ne]
  rintro rfl
  exact absent named

/-- Entries under new names are put at the end. -/
theorem writeAll_of_absent {entries values : Keyed α} (distinct : values.names.Nodup)
    (apart : ∀ name ∈ values.names, name ∉ entries.names) :
    entries.writeAll values = entries ++ values := by
  cases entries with
  | nil =>
    cases values with
    | nil => rfl
    | cons entry rest =>
      obtain ⟨absent, once⟩ := List.nodup_cons.mp distinct
      show writeAll [entry] rest = entry :: rest
      rw [writeAll_cons once fun _ _ => List.not_mem_nil, get?_of_absent absent,
        erase_of_absent absent]
      rfl
  | cons entry later =>
    have first : entry.1 ∉ values.names := fun here => apart entry.1 here List.mem_cons_self
    rw [writeAll_cons distinct fun name here => List.not_mem_of_not_mem_cons (apart name here),
      get?_of_absent first, erase_of_absent first]
    rfl

theorem get?_filter (entries : Keyed α) (keep : String → Bool) (name : String) :
    get? (entries.filter fun entry => keep entry.1) name =
      if keep name then entries.get? name else none := by
  induction entries with
  | nil => simp [get?]
  | cons entry rest ih =>
    obtain ⟨first, value⟩ := entry
    by_cases found : first = name
    · subst found
      cases kept : keep first <;> simp [kept, get?, ih]
    · cases kept : keep first <;> simp [kept, get?, found, ih]

theorem get?_foldl_erase (entries : Keyed α) (names : List String) (name : String) :
    (names.foldl erase entries).get? name =
      if name ∈ names then none else entries.get? name := by
  induction names generalizing entries with
  | nil => rfl
  | cons first rest ih =>
    rw [List.foldl_cons, ih, erase, get?_filter entries (· != first)]
    grind

theorem sublist_foldl_erase (entries : Keyed α) (names : List String) :
    (names.foldl erase entries).Sublist entries := by
  induction names generalizing entries with
  | nil => exact List.Sublist.refl _
  | cons first rest ih => exact (ih _).trans List.filter_sublist

end Keyed
end Relmap
