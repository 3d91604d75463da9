import Relmap.Schema.Resolution
import Relmap.Proofs.Schema.Coherent
import Mathlib.Data.List.Find
import Mathlib.Data.List.Perm.Basic
import Mathlib.Data.Set.List

/-!
# The order of registration

Tables that are coherent in one order are so in every other. A search for which at most one table
qualifies finds it in every order, and all that a registry answers rests on two such searches, for
the table of a name and for that of an entity (`Agrees`).
-/

namespace Relmap.Registry

variable {tables tables' : List Metadata}

/-! ## Coherent tables -/

theorem isParent_perm (same : tables.Perm tables') : IsParent tables = IsParent tables' := by
  funext c p
  rw [IsParent, IsParent, same.mem_iff]

theorem entities_perm (same : tables.Perm tables') (translations : Bool) :
    (entities tables translations).Perm (entities tables' translations) :=
  (same.filter _).filterMap _

theorem Coherent.perm (coherent : Coherent tables) (same : tables.Perm tables') :
    Coherent tables' where
  tableNames := (same.map _).nodup_iff.mp coherent.tableNames
  entityNames translations :=
    (entities_perm same translations).nodup_iff.mp (coherent.entityNames translations)
  subclasses m isTable name isChild := by
    obtain ⟨child, registered, named⟩ :=
      coherent.subclasses m (same.mem_iff.mpr isTable) name isChild
    exact ⟨child, same.mem_iff.mp registered, named⟩
  translations m isTable name linked := by
    obtain ⟨t, registered, isTranslation⟩ :=
      coherent.translations m (same.mem_iff.mpr isTable) name linked
    exact ⟨t, same.mem_iff.mp registered, isTranslation⟩
  oneParent p isTable q isTable' :=
    coherent.oneParent p (same.mem_iff.mpr isTable) q (same.mem_iff.mpr isTable')
  ascends := isParent_perm same ▸ coherent.ascends

/-- Another order of descriptions that succeed describes another order of the tables. -/
theorem exists_tables_of_perm {described : List (Except Error Metadata)}
    (same : (tables.map Except.ok).Perm described) :
    ∃ tables', described = tables'.map .ok ∧ tables.Perm tables' := by
  have allDescribed : described ∈ Set.range (List.map (Except.ok (ε := Error))) := by
    rw [Set.range_list_map]
    intro description member
    obtain ⟨m, -, rfl⟩ := List.mem_map.mp (same.mem_iff.mpr member)
    exact ⟨m, rfl⟩
  obtain ⟨tables', rfl⟩ := allDescribed
  exact ⟨tables', rfl, (List.map_perm_map_iff fun _ _ => Except.ok.inj).mp same⟩

/-- A registry is built of the same tables in every order. -/
theorem exists_build_of_perm {described described' : List (Except Error Metadata)} {r : Registry}
    (same : described.Perm described') (built : build described = .ok r) :
    ∃ r', build described' = .ok r' ∧ r.tables.Perm r'.tables := by
  rw [build_eq_ok] at built
  subst built
  obtain ⟨tables', rfl, reordered⟩ := exists_tables_of_perm same
  have faultless := fault?_eq_none_iff.mpr (r.coherent.perm reordered)
  exact ⟨⟨tables', faultless⟩, build_eq_ok.mpr rfl, reordered⟩

/-! ## Answers -/

/-- The registries find the same tables by their names and by the entities that they stand for. -/
structure Agrees (r r' : Registry) : Prop where
  find? : r.find? = r'.find?
  forEntity : r.forEntity = r'.forEntity

variable {r r' : Registry}

theorem find?_eq_of_perm (same : r.tables.Perm r'.tables) : r.find? = r'.find? := by
  funext name
  refine List.find?_eq_find?_of_perm same ?_
  rintro a ⟨isTable, named⟩ b ⟨isTable', named'⟩
  rw [beq_iff_eq] at named named'
  exact List.inj_on_of_nodup_map r.coherent.tableNames isTable isTable' (named.trans named'.symm)

theorem find?_entity_of_perm (same : r.tables.Perm r'.tables) (entity : String)
    {ofKind : Metadata → Bool} (translations : Bool)
    (kind : ∀ m, ofKind m = true → m.isTranslation = translations) :
    (r.tables.find? fun m => m.entity == some entity && ofKind m) =
      r'.tables.find? fun m => m.entity == some entity && ofKind m := by
  refine List.find?_eq_find?_of_perm same ?_
  rintro a ⟨isTable, named⟩ b ⟨isTable', named'⟩
  rw [Bool.and_eq_true, beq_iff_eq] at named named'
  exact r.eq_of_entity isTable isTable' ⟨named.1, kind a named.2⟩ ⟨named'.1, kind b named'.2⟩

theorem forEntity_eq_of_perm (same : r.tables.Perm r'.tables) : r.forEntity = r'.forEntity := by
  funext entity
  unfold forEntity
  rw [find?_entity_of_perm same entity false fun m => by rw [Bool.not_eq_true']; exact id]

theorem forTranslationEntity_eq_of_perm (same : r.tables.Perm r'.tables) :
    r.forTranslationEntity = r'.forTranslationEntity := by
  funext entity
  unfold forTranslationEntity
  rw [find?_entity_of_perm same entity true fun m => id]

theorem parentOf?_eq_of_perm (same : r.tables.Perm r'.tables) : r.parentOf? = r'.parentOf? := by
  funext m
  refine List.find?_eq_find?_of_perm same ?_
  rintro a ⟨isTable, above⟩ b ⟨isTable', above'⟩
  rw [hasChild_iff] at above above'
  exact r.coherent.oneParent a isTable b isTable' _ above above'

theorem agrees_of_perm (same : r.tables.Perm r'.tables) : Agrees r r' :=
  ⟨find?_eq_of_perm same, forEntity_eq_of_perm same⟩

namespace Agrees

theorem forTable (agrees : Agrees r r') : r.forTable = r'.forTable := by
  funext name
  rw [Registry.forTable, Registry.forTable, agrees.find?]

theorem subclassesOf (agrees : Agrees r r') : r.subclassesOf = r'.subclassesOf := by
  funext m
  rw [Registry.subclassesOf, Registry.subclassesOf, agrees.find?]

theorem translationOf? (agrees : Agrees r r') : r.translationOf? = r'.translationOf? := by
  funext m
  rw [Registry.translationOf?, Registry.translationOf?, agrees.find?]

theorem translationOf (agrees : Agrees r r') : r.translationOf = r'.translationOf := by
  funext m
  rw [Registry.translationOf, Registry.translationOf, agrees.translationOf?]

theorem resolve (agrees : Agrees r r') : r.resolve = r'.resolve := by
  funext m column
  have reachable : r.reachableColumns m = r'.reachableColumns m := by
    rw [reachableColumns, reachableColumns, agrees.translationOf?, agrees.subclassesOf]
  have offered : r.offeredColumns m = r'.offeredColumns m := by
    rw [offeredColumns, offeredColumns, agrees.translationOf?, agrees.subclassesOf]
  rw [Registry.resolve, Registry.resolve, reachable, offered]

end Agrees
end Relmap.Registry
