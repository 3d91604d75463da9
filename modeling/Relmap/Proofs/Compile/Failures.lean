import Relmap.Proofs.Compile.Faults
import Relmap.Proofs.Compile.Frame

/-!
# What a failed comparison leaves behind

A path is looked up as a whole before anything is joined, and a parameter is added only with its
condition. So a comparison that fails leaves the parameters alone, and the query too unless the path
was looked up, and joined, and its column then compared with a pattern that is no text. Main
statement, `comparison_failures`, which also says which error a path has: that of the first property
its table does not have (`Arrives` leads to the table), or that of the column.
-/

namespace Relmap

open Sql

/-- Properties lead from a table to another one. Each is a property of the table it is asked of and
leads to a registered one, and a table with several rows on the other side has one identifier
column. -/
inductive Arrives (r : Registry) : Metadata → List String → Metadata → Prop
  | here (m : Metadata) : Arrives r m [] m
  | hop {m target last : Metadata} {property : String} {rest : List String}
      {relationship : Relationship} :
      m.relationshipOf property = .ok relationship →
      r.forEntity relationship.target = .ok target →
      (relationship.kind = .oneToMany → ∃ column, m.identifier = [column]) →
      Arrives r target rest last → Arrives r m (property :: rest) last

/-! ## Paths that are not looked up -/

theorem exists_linkColumn {m : Metadata} {relationship : Relationship}
    (identified : relationship.kind = .oneToMany → ∃ column, m.identifier = [column]) :
    ∃ column, linkColumn m relationship = .ok column := by
  unfold linkColumn Relationship.isToMany
  cases kind : relationship.kind with
  | manyToOne => exact ⟨relationship.foreignKey, rfl⟩
  | oneToMany =>
    obtain ⟨column, only⟩ := identified kind
    refine ⟨column, ?_⟩
    show m.identifierColumn = _
    rw [Metadata.identifierColumn, only]

theorem relationshipOf_unknown {m : Metadata} {property : String}
    (unknown : property ∉ m.properties) :
    m.relationshipOf property =
      .error (.lookup (.unknownProperty property m.displayName m.properties)) := by
  have absent : m.relationships.find? (fun r => r.property == property) = none := by
    rw [List.find?_eq_none]
    intro r stored named
    exact unknown (List.mem_map.mpr ⟨r, stored, by simpa using named⟩)
  rw [Metadata.relationshipOf, absent]

namespace Arrives

variable {r : Registry} {m last : Metadata} {properties : List String}

/-- What a path goes on with after its first properties decides its error. -/
theorem steps_error {more : List String} {e : Error} (arrives : Arrives r m properties last)
    (fails : ∀ source, steps r last source more = .error e) (source : String) :
    steps r m source (properties ++ more) = .error e := by
  induction arrives generalizing source with
  | here m => exact fails source
  | hop declared isTarget identified _ ih =>
    obtain ⟨column, linked⟩ := exists_linkColumn identified
    rw [List.cons_append, steps, declared, bind_eq_error]
    refine .inr ⟨_, rfl, bind_eq_error.mpr (.inr ⟨_, isTarget, ?_⟩)⟩
    rw [linked]
    exact bind_eq_error.mpr (.inr ⟨_, rfl, bind_eq_error.mpr (.inl (ih fails _))⟩)

theorem exists_steps (arrives : Arrives r m properties last) (source : String) :
    ∃ found, steps r m source properties = .ok found ∧ lastTable m found = last := by
  induction arrives generalizing source with
  | here m => exact ⟨[], rfl, rfl⟩
  | @hop m target _ property rest relationship declared isTarget identified _ ih =>
    obtain ⟨column, linked⟩ := exists_linkColumn identified
    obtain ⟨found, followed, isLast⟩ := ih target.table
    refine ⟨⟨relationship, source, column, target⟩ :: found, ?_, ?_⟩
    · simp only [steps, bind_eq_ok, pure_eq_ok]
      exact ⟨relationship, declared, target, isTarget, column, linked, found, followed, rfl⟩
    · rw [lastTable_eq] at isLast ⊢
      rw [List.map_cons, List.getLastD_cons]
      exact isLast

end Arrives

namespace Scope

variable {s : Scope} {field column : String} {properties : List String} {table : Metadata}

/-- The first property that its table does not have decides the error of a path. -/
theorem resolvePath_unknownProperty {before rest : List String} {property : String}
    (parts : pathParts field = (before ++ property :: rest, column))
    (arrives : Arrives s.registry s.metadata before table)
    (unknown : property ∉ table.properties) :
    s.resolvePath field =
      .error (.lookup (.unknownProperty property table.displayName table.properties)) := by
  have stops (source : String) : steps s.registry table source (property :: rest) =
      .error (.lookup (.unknownProperty property table.displayName table.properties)) := by
    rw [steps, relationshipOf_unknown unknown]
    rfl
  rw [resolvePath, parts]
  exact bind_eq_error.mpr (.inl (arrives.steps_error stops s.aliasName))

theorem resolvePath_unknownColumn (parts : pathParts field = (properties, column))
    (arrives : Arrives s.registry s.metadata properties table)
    (undeclared : table.hasColumn column = false) :
    s.resolvePath field = .error (.lookup
      (.unknownPathColumn column table.displayName table.columns.names table.properties)) := by
  obtain ⟨found, followed, isLast⟩ := arrives.exists_steps s.aliasName
  rw [resolvePath, parts]
  refine bind_eq_error.mpr (.inr ⟨found, followed, ?_⟩)
  simp only [isLast, Metadata.hasColumn_eq_false.mp undeclared]

end Scope

/-! ## Comparisons that fail -/

/-- A comparison of a column that was looked up fails for a pattern that is no text. -/
theorem textRequired_of_compareColumn {column : Expr} {field : String} {n : Nat} {op : Operator}
    {value : Value} {type : ColumnType} {e : Error}
    (failed : compareColumn column field n op value type = .error e) :
    op.isPattern = true ∧ (∀ t, value ≠ .text t) ∧
      e = .statement (.textRequired op field value.kind.name) := by
  have byPattern (failed : comparedByPattern column field n op value = .error e) :
      (∀ t, value ≠ .text t) ∧ e = .statement (.textRequired op field value.kind.name) := by
    unfold comparedByPattern at failed
    split at failed
    · cases failed
    · rename_i noText
      cases failed
      exact ⟨noText, rfl⟩
  unfold compareColumn at failed
  split at failed <;> first | exact ⟨rfl, byPattern failed⟩ | cases failed

/-- The sub-select of a path has been opened, so that only its column can be compared wrongly. -/
theorem textRequired_of_compare {p : ResolvedPath} {n : Nat} {op : Operator} {value : Value}
    {e : Error} (failed : p.compare n op value = .error e) :
    op.isPattern = true ∧ (∀ t, value ≠ .text t) ∧
      e = .statement (.textRequired op p.field value.kind.name) := by
  rcases bind_eq_error.mp failed with compared | ⟨inner, -, unclosed⟩
  · exact textRequired_of_compareColumn compared
  · obtain ⟨closed, isClosed⟩ := exists_closePath p.steps inner.condition
    rw [isClosed] at unclosed
    cases unclosed

theorem take_error {w : Walk} {outcome : Except Error Compared} {e : Error}
    (failed : (w.take outcome).1 = .error e) : outcome = .error e ∧ (w.take outcome).2 = w := by
  cases outcome with
  | error e' =>
    cases failed
    exact ⟨rfl, rfl⟩
  | ok c => cases failed

/-- The walk after a comparison that failed: the one before it, or that one with the joins of a path
whose column was compared with a pattern that is no text. -/
theorem walk_of_comparison_error {s : Scope} {field : String} {op : Operator} {value : Value}
    {w : Walk} {e : Error} (failed : (w.comparison s field op value).1 = .error e) :
    (w.comparison s field op value).2 = w ∨
      isPath field = true ∧ op.isPattern = true ∧ (∀ t, value ≠ .text t) ∧
        e = .statement (.textRequired op (lastSegment field) value.kind.name) ∧
        ∃ joins, (w.comparison s field op value).2 = ⟨w.query.addJoins joins, w.params⟩ ∧
          s.JoinsInTurn w.query.joins joins := by
  unfold Walk.comparison at failed ⊢
  by_cases path : isPath field = true
  · rw [if_pos path] at failed ⊢
    cases resolved : s.resolvePath field with
    | error e' => exact .inl rfl
    | ok p =>
      simp only [resolved] at failed ⊢
      obtain ⟨found, -, isField, -⟩ := Scope.resolvePath_ok resolved
      obtain ⟨compared, same⟩ := take_error failed
      obtain ⟨pattern, noText, fault⟩ := textRequired_of_compare compared
      obtain ⟨joins, added, inTurn⟩ :=
        Scope.exists_joinOuter (q := w.query) (Scope.leads_of_steps found) .root (.inl rfl)
      refine .inr ⟨path, pattern, noText, isField ▸ fault, joins, ?_, inTurn⟩
      rw [same, added]
  · rw [if_neg path] at failed ⊢
    exact .inl (take_error failed).2

theorem comparison_of_unresolved {s : Scope} {field : String} {e : Error}
    (path : isPath field = true) (unresolved : s.resolvePath field = .error e) (op : Operator)
    (value : Value) (w : Walk) : w.comparison s field op value = (.error e, w) := by
  rw [Walk.comparison, if_pos path, unresolved]

theorem isPath_of_pathParts {field column : String} {properties : List String}
    (parts : pathParts field = (properties, column)) (some : properties ≠ []) :
    isPath field = true := by
  by_contra plain
  have unmarked : '.' ∉ field.toList := by simpa [isPath] using plain
  rw [pathParts, parts_of_notMem unmarked] at parts
  exact some (Prod.mk.inj parts).1.symm

/-- A comparison that fails leaves the parameters as they were. It leaves the query as it was, or
with joins added to it if the column at the end of a path was compared with a pattern that is no
text. A path fails with the properties of the first table that does not have the next one, or with
the columns and properties of the table at its end. -/
theorem comparison_failures (s : Scope) (w : Walk) (op : Operator) (value : Value) :
    (∀ field e, (w.comparison s field op value).1 = .error e →
      (w.comparison s field op value).2.params = w.params ∧
      ((w.comparison s field op value).2.query = w.query ∨
        isPath field = true ∧ op.isPattern = true ∧ (∀ t, value ≠ .text t) ∧
          e = .statement (.textRequired op (lastSegment field) value.kind.name) ∧
          ∃ joins, (w.comparison s field op value).2.query = w.query.addJoins joins ∧
            s.JoinsInTurn w.query.joins joins)) ∧
    ∀ properties column, properties ≠ [] →
      (∀ name ∈ properties ++ [column], '.' ∉ name.toList) →
      (∀ before property rest table, properties = before ++ property :: rest →
        Arrives s.registry s.metadata before table → property ∉ table.properties →
        w.comparison s (".".intercalate (properties ++ [column])) op value =
          (.error (.lookup (.unknownProperty property table.displayName table.properties)), w)) ∧
      ∀ table, Arrives s.registry s.metadata properties table → table.hasColumn column = false →
        w.comparison s (".".intercalate (properties ++ [column])) op value =
          (.error (.lookup (.unknownPathColumn column table.displayName table.columns.names
            table.properties)), w) := by
  constructor
  · intro field e failed
    rcases walk_of_comparison_error failed with same | ⟨path, pattern, noText, fault, joined⟩
    · rw [same]
      exact ⟨rfl, .inl rfl⟩
    · obtain ⟨joins, added, inTurn⟩ := joined
      rw [added]
      exact ⟨rfl, .inr ⟨path, pattern, noText, fault, joins, rfl, inTurn⟩⟩
  · intro properties column some plain
    have parts := pathParts_intercalate plain
    have path := isPath_of_pathParts parts some
    constructor
    · rintro before property rest table rfl arrives unknown
      exact comparison_of_unresolved path (Scope.resolvePath_unknownProperty parts arrives unknown)
        op value w
    · intro table arrives undeclared
      exact comparison_of_unresolved path (Scope.resolvePath_unknownColumn parts arrives undeclared)
        op value w

/-- The author is joined before the number is refused as a pattern. Of the other two paths, one asks
the country for a property that it does not have, and one a city for a column. -/
theorem comparison_failures_novel :
    let s : Scope := ⟨novelRegistry, novelTable, "n"⟩
    let w : Walk := ⟨.empty, [⟨"size_0", .int 500, .integer⟩]⟩
    (∃ e joins, (w.comparison s "author.id" .contains (.int 3)).1 = .error e ∧ joins ≠ [] ∧
      (w.comparison s "author.id" .contains (.int 3)).2.params = w.params ∧
      (w.comparison s "author.id" .contains (.int 3)).2.query = w.query.addJoins joins) ∧
    w.comparison s "author.country.mayors.size" .eq (.int 3) =
      (.error (.lookup (.unknownProperty "mayors" "Country" ["cities"])), w) ∧
    w.comparison s "author.country.cities.name" .eq (.int 3) =
      (.error (.lookup (.unknownPathColumn "name" "City" ["id", "country", "size"] [])), w) := by
  intro s w
  have arrives : Arrives novelRegistry novelTable ["author", "country"] countryTable :=
    .hop rfl rfl nofun (.hop rfl rfl nofun (.here _))
  have arrivesLater : Arrives novelRegistry novelTable ["author", "country", "cities"] cityTable :=
    .hop rfl rfl nofun (.hop rfl rfl nofun (.hop rfl rfl (fun _ => ⟨"id", rfl⟩) (.here _)))
  obtain ⟨-, paths⟩ := comparison_failures s w .eq (.int 3)
  obtain ⟨property, -⟩ := paths ["author", "country", "mayors"] "size" (by decide) (by decide)
  obtain ⟨-, column⟩ := paths ["author", "country", "cities"] "name" (by decide) (by decide)
  obtain ⟨e, failed⟩ : ∃ e, (w.comparison s "author.id" .contains (.int 3)).1 = .error e :=
    ⟨_, rfl⟩
  obtain ⟨kept, same | ⟨-, -, -, -, joins, added, -⟩⟩ :=
    (comparison_failures s w .contains (.int 3)).1 "author.id" e failed
  · exact absurd (congrArg (·.joins.length) same) (by decide)
  · refine ⟨⟨e, joins, failed, ?_, kept, added⟩, ?_, ?_⟩
    · rintro rfl
      exact absurd (congrArg (·.joins.length) added) (by decide)
    · exact property ["author", "country"] "mayors" [] countryTable rfl arrives (by decide)
    · exact column cityTable arrivesLater (by decide)

end Relmap
