import Relmap.Proofs.Compile.Joins
import Relmap.Proofs.Compile.SideBySide

/-!
# What a walk leaves alone

A walk adds parameters and joins and changes nothing else, whether or not it succeeds. Main
statement, `criteria_advances`: each join that it adds leads along a relationship from the root, or
from a table that is joined by then, to a table that is not.
-/

namespace Relmap

open Sql

namespace Sql.Select

theorem addJoins_nil (q : Select) : q.addJoins [] = q := by
  cases q
  simp [addJoins]

theorem addJoins_cons (q : Select) (join : Join) (joins : List Join) :
    q.addJoins (join :: joins) = (q.addJoin join).addJoins joins := by
  simp [addJoins, addJoin]

theorem addJoins_append (q : Select) (joins more : List Join) :
    q.addJoins (joins ++ more) = (q.addJoins joins).addJoins more := by
  simp [addJoins]

end Sql.Select

namespace Scope

/-- The tables from which paths go on by a name: that of the scope, which goes by its alias, and
those of the registry. -/
inductive Names (s : Scope) : String → Metadata → Prop
  | root : Names s s.aliasName s.metadata
  | registered {m : Metadata} : m ∈ s.registry.tables → Names s m.table m

/-- Some names stand for tables that a query can refer to: the root, and those that are joined. -/
def Known (s : Scope) (joins : List Join) (name : String) : Prop :=
  name = s.aliasName ∨ name ∈ joins.map (·.target.aliasName)

/-- A left join that follows others: along a relationship, from the root or from a table that is
joined by them to one that is not. -/
inductive Joins (s : Scope) (before : List Join) : Join → Prop
  | along {source column : String} {owner target : Metadata} {relationship : Relationship} :
      s.Names source owner →
      relationship ∈ owner.relationships →
      s.registry.forEntity relationship.target = .ok target →
      linkColumn owner relationship = .ok column →
      s.Known before source →
      target.table ∉ before.map (·.target.aliasName) →
      Joins s before ⟨.left, ⟨target.table, target.table⟩,
        .equal (.of source column) (.of target.table relationship.relatedId)⟩

/-- Joins that are added to others, one after the other. -/
inductive JoinsInTurn (s : Scope) : List Join → List Join → Prop
  | nil (before : List Join) : JoinsInTurn s before []
  | cons {before rest : List Join} {join : Join} :
      s.Joins before join → JoinsInTurn s (before ++ [join]) rest →
      JoinsInTurn s before (join :: rest)

/-- A walk has come from another one by added parameters and joins. -/
def Advances (s : Scope) (w w' : Walk) : Prop :=
  ∃ joins params, w' = ⟨w.query.addJoins joins, w.params ++ params⟩ ∧
    s.JoinsInTurn w.query.joins joins

variable {s : Scope}

theorem JoinsInTurn.append {before added more : List Join} (first : s.JoinsInTurn before added)
    (later : s.JoinsInTurn (before ++ added) more) : s.JoinsInTurn before (added ++ more) := by
  induction first with
  | nil before => simpa using later
  | cons join _ ih => exact .cons join (ih (by simpa using later))

namespace Advances

theorem refl (w : Walk) : s.Advances w w :=
  ⟨[], [], by rw [Select.addJoins_nil, List.append_nil], .nil _⟩

theorem trans {w w' w'' : Walk} (first : s.Advances w w') (later : s.Advances w' w'') :
    s.Advances w w'' := by
  obtain ⟨joins, params, rfl, inTurn⟩ := first
  obtain ⟨more, others, rfl, inTurnAfter⟩ := later
  refine ⟨joins ++ more, params ++ others, ?_, inTurn.append inTurnAfter⟩
  rw [Select.addJoins_append, List.append_assoc]

end Advances

/-! ## Steps of a path -/

/-- Steps of a path from a table by a name, each with the table that it leaves. -/
inductive Leads (s : Scope) : String → Metadata → List Step → Prop
  | stay (name : String) (m : Metadata) : Leads s name m []
  | step {name column : String} {m target : Metadata} {relationship : Relationship}
      {rest : List Step} :
      relationship ∈ m.relationships →
      s.registry.forEntity relationship.target = .ok target →
      linkColumn m relationship = .ok column →
      Leads s target.table target rest →
      Leads s name m (⟨relationship, name, column, target⟩ :: rest)

theorem leads_of_steps {properties : List String} :
    ∀ {m : Metadata} {name : String} {found : List Step},
      steps s.registry m name properties = .ok found → s.Leads name m found := by
  induction properties with
  | nil =>
    intro m name found ok
    cases ok
    exact .stay name m
  | cons property rest ih =>
    intro m name found ok
    simp only [steps, bind_eq_ok, pure_eq_ok] at ok
    obtain ⟨relationship, declares, target, isTarget, column, linked, later, followed, rfl⟩ := ok
    refine .step ?_ isTarget linked (ih followed)
    unfold Metadata.relationshipOf at declares
    split at declares
    · rename_i r found
      cases declares
      exact List.mem_of_find?_eq_some found
    · cases declares

theorem mem_tables_of_forEntity {entity : String} {m : Metadata}
    (found : s.registry.forEntity entity = .ok m) : m ∈ s.registry.tables := by
  unfold Registry.forEntity at found
  split at found
  · rename_i m' isEntity
    cases found
    exact List.mem_of_find?_eq_some isEntity
  · cases found

/-- The joins of steps that start from a known table are added in turn. -/
theorem exists_joinOuter {name : String} {m : Metadata} {found : List Step} {q : Select}
    (leads : s.Leads name m found) (names : s.Names name m) (known : s.Known q.joins name) :
    ∃ joins, joinOuter s.aliasName found q = q.addJoins joins ∧ s.JoinsInTurn q.joins joins := by
  rw [joinOuter_eq_foldl]
  induction leads generalizing q with
  | stay name m => exact ⟨[], q.addJoins_nil.symm, .nil _⟩
  | @step name column m target relationship rest declared isTarget linked _ ih =>
    have registered : s.Names target.table target := .registered (mem_tables_of_forEntity isTarget)
    cases join : relationship.join with
    | subSelect =>
      rw [List.takeWhile_cons_of_neg (by simp [Step.isJoined, join])]
      exact ⟨[], q.addJoins_nil.symm, .nil _⟩
    | joined =>
      have isJoined : Step.isJoined ⟨relationship, name, column, target⟩ = true := by
        simp [Step.isJoined, join]
      have toJoin : Step.toJoin ⟨relationship, name, column, target⟩ =
          ⟨.left, ⟨target.table, target.table⟩,
            .equal (.of name column) (.of target.table relationship.relatedId)⟩ := by
        rw [Step.toJoin, if_pos isJoined]
      rw [List.takeWhile_cons_of_pos isJoined, List.map_cons, List.foldl_cons, toJoin, addJoinOnce]
      split
      · rename_i taken
        exact ih registered (.inr (Select.isJoined_iff.mp taken))
      · rename_i free
        have here := Joins.along names declared isTarget linked known
          (fun taken => free (Select.isJoined_iff.mpr taken))
        obtain ⟨joins, added, inTurn⟩ := ih
          (q := q.addJoin ⟨.left, ⟨target.table, target.table⟩, _⟩) registered
          (.inr (by simp [Select.addJoin]))
        exact ⟨_ :: joins, by rw [Select.addJoins_cons, added], .cons here inTurn⟩

/-! ## Walks -/

theorem advances_take {w w' : Walk} (advances : s.Advances w w') (outcome : Except Error Compared) :
    s.Advances w (w'.take outcome).2 := by
  cases outcome with
  | error e => exact advances
  | ok c =>
    refine advances.trans ⟨[], c.parameter.toList, ?_, .nil _⟩
    rw [Select.addJoins_nil]
    rfl

theorem advances_comparison (field : String) (op : Operator) (value : Value) (w : Walk) :
    s.Advances w (w.comparison s field op value).2 := by
  unfold Walk.comparison
  split
  · cases resolved : s.resolvePath field with
    | error e => exact .refl w
    | ok path =>
      obtain ⟨found, -, -, -⟩ := resolvePath_ok resolved
      obtain ⟨joins, added, inTurn⟩ :=
        exists_joinOuter (q := w.query) (leads_of_steps found) .root (.inl rfl)
      refine advances_take ⟨joins, [], ?_, inTurn⟩ _
      rw [added, List.append_nil]
  · exact advances_take (.refl w) _

/-- Criteria only add to a walk, whether or not they compile: parameters after those that it has, and
left joins after those of its query, each from a known table to one that is not joined yet. -/
theorem criteria_advances (s : Scope) (c : Criteria) (w : Walk) :
    ∃ joins params, (Walk.criteria s c w).2 = ⟨w.query.addJoins joins, w.params ++ params⟩ ∧
      s.JoinsInTurn w.query.joins joins := by
  have kept := keeps_criteria (s.Advances w) (fun _ => True)
    (fun field op value _ advances => ⟨advances.trans (advances_comparison field op value _),
      fun _ _ => trivial⟩) (fun _ => trivial) (fun _ => trivial) c (.refl w)
  exact kept.1

end Scope

end Relmap
