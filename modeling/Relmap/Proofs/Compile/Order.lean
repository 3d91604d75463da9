import Relmap.Compile.Condition
import Relmap.Proofs.Compile.SideBySide
import Relmap.Proofs.Schema.Order

/-!
# Criteria and the order of registration

The compiler asks a registry for tables, for their columns and for their links. With registries that
agree on these it compiles the same condition or fails with the same error. Main statement,
`build_perm`: tables can be registered in any order.
-/

namespace Relmap

open Sql

theorem steps_eq_of_agrees {r r' : Registry} (agrees : r.Agrees r') (m : Metadata) (source : String)
    (properties : List String) : steps r m source properties = steps r' m source properties := by
  induction properties generalizing m source with
  | nil => rfl
  | cons property rest ih => simp only [steps, agrees.forEntity, ih]

/-! ## Scopes that agree -/

namespace Scope

/-- The scopes are of one table under one alias, in registries that agree. -/
structure Agrees (s s' : Scope) : Prop where
  registry : s.registry.Agrees s'.registry
  metadata : s.metadata = s'.metadata
  aliasName : s.aliasName = s'.aliasName

namespace Agrees

variable {s s' : Scope}

theorem compareReached (agrees : s.Agrees s') : s.compareReached = s'.compareReached := by
  funext n field op value
  simp only [Scope.compareReached, compareTranslated, compareInherited, agrees.metadata,
    agrees.aliasName, agrees.registry.resolve, agrees.registry.translationOf,
    agrees.registry.subclassesOf]

theorem resolvePath (agrees : s.Agrees s') : s.resolvePath = s'.resolvePath := by
  funext path
  simp only [Scope.resolvePath, agrees.metadata, agrees.aliasName,
    steps_eq_of_agrees agrees.registry]

theorem comparison (agrees : s.Agrees s') (field : String) (op : Operator) (value : Value)
    (w : Walk) : w.comparison s field op value = w.comparison s' field op value := by
  rw [Walk.comparison, Walk.comparison, agrees.compareReached, agrees.resolvePath, agrees.aliasName]

theorem criteria (agrees : s.Agrees s') (c : Criteria) (w : Walk) :
    Walk.criteria s c w = Walk.criteria s' c w := by
  have step : Lockstep s s' Eq fun _ => True := by
    refine ⟨fun field op value w v walks => ?_, fun _ => trivial, fun _ => trivial⟩
    subst walks
    exact ⟨by rw [agrees.comparison], by rw [agrees.comparison], fun _ _ => trivial⟩
  obtain ⟨outcome, walks, -⟩ := step.criteria c (rfl : w = w)
  exact Prod.ext outcome walks

end Agrees
end Scope

/-! ## Registries that agree -/

namespace Registry

variable {r r' : Registry}

theorem Agrees.compile (agrees : r.Agrees r') (table aliasName : String) (c : Criteria) :
    compile r table aliasName c = compile r' table aliasName c := by
  simp only [Relmap.compile, scope, agrees.forTable]
  cases r'.forTable table with
  | error e => rfl
  | ok m =>
    have scopes : Scope.Agrees ⟨r, m, aliasName⟩ ⟨r', m, aliasName⟩ := ⟨agrees, rfl, rfl⟩
    simp only [Except.map, Bind.bind, Except.bind, scopes.criteria]

/-- The registries have the same tables, and answer everything that is asked of them alike. -/
structure SameAnswers (r r' : Registry) : Prop where
  tables : r.tables.Perm r'.tables
  forTable : ∀ name, r.forTable name = r'.forTable name
  forEntity : ∀ entity, r.forEntity entity = r'.forEntity entity
  forTranslationEntity : ∀ entity, r.forTranslationEntity entity = r'.forTranslationEntity entity
  resolve : ∀ m column, r.resolve m column = r'.resolve m column
  parentOf? : ∀ m, r.parentOf? m = r'.parentOf? m
  subclassesOf : ∀ m, r.subclassesOf m = r'.subclassesOf m
  translationOf : ∀ m, r.translationOf m = r'.translationOf m
  compile : ∀ table aliasName c, compile r table aliasName c = compile r' table aliasName c

theorem sameAnswers_of_perm (same : r.tables.Perm r'.tables) : SameAnswers r r' := by
  have agrees := agrees_of_perm same
  exact {
    tables := same
    forTable := congrFun agrees.forTable
    forEntity := congrFun agrees.forEntity
    forTranslationEntity := congrFun (forTranslationEntity_eq_of_perm same)
    resolve := fun m => congrFun (congrFun agrees.resolve m)
    parentOf? := congrFun (parentOf?_eq_of_perm same)
    subclassesOf := congrFun agrees.subclassesOf
    translationOf := congrFun agrees.translationOf
    compile := agrees.compile }

/-- A registry is built in one order of its tables iff it is built in another one, and then both
give the same answers. -/
theorem build_perm {described described' : List (Except Error Metadata)}
    (same : described.Perm described') :
    ((∃ r, build described = .ok r) ↔ ∃ r', build described' = .ok r') ∧
      ∀ r r', build described = .ok r → build described' = .ok r' → SameAnswers r r' := by
  constructor
  · constructor
    · rintro ⟨r, built⟩
      obtain ⟨r', built', -⟩ := exists_build_of_perm same built
      exact ⟨r', built'⟩
    · rintro ⟨r', built'⟩
      obtain ⟨r, built, -⟩ := exists_build_of_perm same.symm built'
      exact ⟨r, built⟩
  · intro r r' built built'
    obtain ⟨other, rebuilt, reordered⟩ := exists_build_of_perm same built
    obtain rfl : other = r' := Except.ok.inj (rebuilt.symm.trans built')
    exact sameAnswers_of_perm reordered

/-- A subclass and a translation that are registered before the table that they belong to. -/
theorem build_perm_animal :
    ∃ r r', build [.ok animalTable, .ok catTable, .ok animalTextTable] = .ok r ∧
      build [.ok animalTextTable, .ok catTable, .ok animalTable] = .ok r' ∧ SameAnswers r r' ∧
      r.resolve animalTable "puma_lives" = .ok ⟨.integer, .inherited "cat"⟩ ∧
      r'.resolve animalTable "puma_lives" = .ok ⟨.integer, .inherited "cat"⟩ := by
  have faultless : fault? [animalTable, catTable, animalTextTable] = none := by decide
  have built : build [.ok animalTable, .ok catTable, .ok animalTextTable] = .ok ⟨_, faultless⟩ :=
    build_eq_ok.mpr rfl
  have reordered : List.Perm [.ok animalTable, .ok catTable, .ok animalTextTable]
      [.ok animalTextTable, .ok catTable, (.ok animalTable : Except Error Metadata)] :=
    (List.reverse_perm _).symm
  obtain ⟨builds, answers⟩ := build_perm reordered
  obtain ⟨r', built'⟩ := builds.mp ⟨_, built⟩
  have same := answers _ r' built built'
  have resolved : Registry.resolve ⟨[animalTable, catTable, animalTextTable], by decide⟩
      animalTable "puma_lives" = .ok ⟨.integer, .inherited "cat"⟩ := by rfl
  exact ⟨_, r', built, built', same, resolved, (same.resolve animalTable "puma_lives").symm.trans resolved⟩

end Registry
end Relmap
