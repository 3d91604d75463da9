import Relmap.Proofs.Compile.Conditions
import Relmap.Proofs.Compile.Joins
import Relmap.Proofs.Compile.Legible
import Relmap.Proofs.Sql.ReadBack

/-!
# Compiled conditions read back

The text of a compiled condition, and of a query that it is added to, says what the condition is and
nothing else. Main statement, `readBack_of_compile`. Two things are needed for it: that names are
plain, those of placeholders among them, and that the query compares nothing but values with each
other, since what is compared is written without parentheses (`not_readBack`).
-/

namespace Relmap

open Sql

namespace Condition

theorem filter_applyTo (cond : Condition) (q : Select) :
    (cond.applyTo q).filter = q.filter ++ cond.expr.toList := by
  unfold applyTo
  rw [foldl_addJoinOnce_eq]
  cases cond.expr with
  | none => exact (List.append_nil _).symm
  | some e => rfl

theorem mem_nodes_applyTo {cond : Condition} {q : Select} {node : Expr}
    (isNode : node ∈ (cond.applyTo q).nodes) :
    node ∈ q.nodes ∨ (∃ join ∈ cond.joins, node ∈ join.on.nodes) ∨
      ∃ e, cond.expr = some e ∧ node ∈ e.nodes := by
  have joined (isNode : node ∈ (cond.joins.foldl addJoinOnce q).nodes) :
      node ∈ q.nodes ∨ ∃ join ∈ cond.joins, node ∈ join.on.nodes := by
    rw [Select.mem_nodes] at isNode ⊢
    rcases isNode with column | ⟨join, member, inJoin⟩ | rest
    · rw [foldl_addJoinOnce_eq] at column
      exact .inl (.inl column)
    · rcases mem_joins_foldl cond.joins member with before | added
      · exact .inl (.inr (.inl ⟨join, before, inJoin⟩))
      · exact .inr ⟨join, added, inJoin⟩
    · rw [foldl_addJoinOnce_eq] at rest
      exact .inl (.inr (.inr rest))
  unfold applyTo at isNode
  cases isExpr : cond.expr with
  | none =>
    rw [isExpr] at isNode
    exact (joined isNode).imp_right .inl
  | some e =>
    rw [isExpr] at isNode
    rcases Select.mem_nodes_where.mp isNode with before | added
    · exact (joined before).imp_right .inl
    · exact .inr (.inr ⟨e, rfl, added⟩)

end Condition

section

variable {r : Registry} {table aliasName : String} {c : Criteria} {cond : Condition}

/-- Compiled criteria can be written if their parameters are given. -/
theorem faultless_of_compile (compiled : compile r table aliasName c = .ok cond)
    {params : List Parameter} (given : cond.params ⊆ params) {e : Expr}
    (isExpr : cond.expr = some e) : ∀ node ∈ e.nodes, node.fault? params = none := by
  intro node isNode
  refine Expr.fault?_of_isLegible (legible_of_compile compiled e isExpr node isNode)
    fun name isName => ?_
  have mentioned : name ∈ placeholdersOf cond.expr := by
    rw [isExpr]
    change name ∈ e.placeholders
    rw [e.placeholders_eq]
    exact List.mem_filterMap.mpr ⟨node, isNode, isName⟩
  rw [(mentions_of_compile compiled).1, List.mem_map] at mentioned
  obtain ⟨p, member, named⟩ := mentioned
  exact ⟨p, given member, named⟩

theorem chars_of_compile (compiled : compile r table aliasName c = .ok cond) {e : Expr}
    (isExpr : cond.expr = some e) :
    ∃ text, cond.text = .ok text ∧ text.toList = charsOf e.fragments := by
  rw [Condition.text, isExpr]
  exact Expr.exists_chars (faultless_of_compile compiled (List.Subset.refl _) isExpr)

/-- A query that can be written can be written with a compiled condition. -/
theorem faultless_applyTo (compiled : compile r table aliasName c = .ok cond) {q : Select}
    {params : List Parameter} (given : cond.params ⊆ params)
    (faultless : ∀ node ∈ q.nodes, node.fault? params = none) :
    ∀ node ∈ (cond.applyTo q).nodes, node.fault? params = none := by
  intro node isNode
  rcases Condition.mem_nodes_applyTo isNode with
    before | ⟨join, member, inJoin⟩ | ⟨e, isExpr, inside⟩
  · exact faultless node before
  · exact Expr.fault?_of_isSchematic (schematic_of_compile compiled join member node inJoin)
  · exact faultless_of_compile compiled given isExpr node inside

end

/-- Reading the text of compiled criteria gives their condition, and reading the filter of a query
that they are added to gives all its conditions, where a compound condition of one operand is the
operand. Names are plain, and the query compares and tests values only. -/
theorem readBack_of_compile {r : Registry} {table aliasName : String} {c : Criteria}
    {cond : Condition} (compiled : compile r table aliasName c = .ok cond) :
    (cond.expr = none → cond.text = .ok "") ∧
    (∀ e, cond.expr = some e → (∀ n ∈ e.identifiers ++ e.placeholders, isPlain n = true) →
      ∃ text, cond.text = .ok text ∧ readCondition text = some e.simplified) ∧
    ∀ (q : Select) (params : List Parameter) (alone : String), cond.params ⊆ params →
      ((Statement.query q).render .named params).outcome = .ok alone →
      (∀ n ∈ (cond.applyTo q).identifiers ++ (cond.applyTo q).placeholders, isPlain n = true) →
      (∀ e ∈ q.filter, ∀ node ∈ e.nodes, node.comparesOperands = true) →
        ∃ text, ((Statement.query (cond.applyTo q)).render .named params).outcome = .ok text ∧
          readFilter text = some (conjoined (q.filter ++ cond.expr.toList)) := by
  refine ⟨fun isNone => ?_, fun e isExpr names => ?_,
    fun q params alone given rendered names compares => ?_⟩
  · rw [Condition.text, isNone]
  · obtain ⟨plain, bound⟩ := List.forall_mem_append.mp names
    obtain ⟨text, written, chars⟩ := chars_of_compile compiled isExpr
    refine ⟨text, written, ?_⟩
    rw [readCondition_eq chars plain bound]
    exact (e.readsBack (legible_of_compile compiled e isExpr)).whole
  · obtain ⟨plain, bound⟩ := List.forall_mem_append.mp names
    have faultless := Statement.faultless_of_render rendered
    obtain ⟨text, written, chars⟩ :=
      Select.exists_chars (faultless_applyTo compiled given faultless)
    refine ⟨text, written, ?_⟩
    rw [← cond.filter_applyTo]
    refine readFilter_conjoined chars plain bound fun e member node isNode => ?_
    rw [cond.filter_applyTo] at member
    rcases List.mem_append.mp member with own | added
    · -- No compound condition of the query lacks operands, since the query can be written.
      refine Expr.isLegible_of_comparesOperands (faultless node ?_) (compares e own node isNode)
      exact Select.mem_nodes.mpr (.inr (.inr (.inl ⟨e, own, isNode⟩)))
    · exact legible_of_compile compiled e (Option.mem_toList.mp added) node isNode

/-- Books without pages, or with no more pages than sold copies. -/
def idleBooks : Select :=
  (Select.empty.from "book" "b").where
    (.compound .or [.isNull false (.of "b" "pages"),
      .compare (.of "b" "sold") .ge (.of "b" "pages")])

/-- A sub-select has two conditions, which are read as one. -/
theorem readBack_of_compile_book :
    ∃ cond e, compile bookRegistry "book" "b" unprintedBooks = .ok cond ∧
      e = .all [.inList false (.of "b" "pages") (.placeholder "pages_0"),
        .not (.inQuery (.of "b" "id") (((Select.empty.select [.of "translation" "book"]).from
          "book_text" "translation").where
            (.all [.equal (.of "translation" "book") (.of "b" "id"),
              .equal (.of "translation" "year") (.placeholder "year_1")])))] ∧
      (∃ text, cond.text = .ok text ∧ readCondition text = some e) ∧
      ∃ text, ((Statement.query (cond.applyTo idleBooks)).render .named cond.params).outcome =
          .ok text ∧ readFilter text = some (some (.all (idleBooks.filter ++ [e]))) := by
  have compiled : ∃ cond, compile bookRegistry "book" "b" unprintedBooks = .ok cond := ⟨_, rfl⟩
  obtain ⟨cond, compiled⟩ := compiled
  obtain ⟨-, condition, added⟩ := readBack_of_compile compiled
  cases compiled
  refine ⟨_, _, rfl, rfl, condition _ rfl ?_, added idleBooks _ _ (List.Subset.refl _) rfl ?_ ?_⟩
  · decide
  · decide
  · decide

/-- Books that a condition is compared in. -/
def oddBooks : Select :=
  (Select.empty.from "book" "b").where
    (.compare (.compound .or [.of "b" "id", .of "b" "pages"]) .eq (.of "b" "sold"))

/-- A disjunction that is compared is read as one whose last operand is compared. -/
theorem misread_operand :
    ∃ cond, compile bookRegistry "book" "b" (.expression (.comparison "pages" .gt (.int 3))) =
        .ok cond ∧
      (∀ n ∈ (cond.applyTo oddBooks).identifiers ++ (cond.applyTo oddBooks).placeholders,
        isPlain n = true) ∧
      ∃ text, ((Statement.query (cond.applyTo oddBooks)).render .named cond.params).outcome =
          .ok text ∧
        readFilter text = some (some (.all [
          .compound .or [.of "b" "id", .equal (.of "b" "pages") (.of "b" "sold")],
          .compare (.of "b" "pages") .gt (.placeholder "pages_0")])) ∧
        readFilter text ≠ some (conjoined (oddBooks.filter ++ cond.expr.toList)) := by
  have compiled : compile bookRegistry "book" "b" (.expression (.comparison "pages" .gt (.int 3))) =
      .ok ⟨some (.compare (.of "b" "pages") .gt (.placeholder "pages_0")),
        [⟨"pages_0", .int 3, .integer⟩], []⟩ := rfl
  refine ⟨_, compiled, by decide, ?_⟩
  obtain ⟨text, written, chars⟩ := Select.exists_chars (q := Condition.applyTo _ oddBooks)
    (faultless_applyTo compiled (List.Subset.refl _) (List.findSome?_eq_none_iff.mp rfl))
  have read := readFilter_eq chars (by decide) (by decide)
  refine ⟨text, written, read.trans rfl, ?_⟩
  rw [read]
  nofun

/-- Animals of which some are kept under a discriminator with a keyword in it. -/
def tailedTable : Metadata :=
  { Metadata.ofColumns "animal" [("id", .integer)] ["id"] with
    subclasses := [("cat OR dog", "pet")] }

def tailedRegistry : Registry := ⟨[tailedTable, petTable], by decide⟩

/-- A placeholder with a keyword in its name is read as a disjunction. -/
theorem misread_placeholder :
    ∃ cond e, compile tailedRegistry "animal" "animal"
        (.expression (.comparison "cat OR dog_age" .eq (.int 3))) = .ok cond ∧
      cond.expr = some e ∧ (∀ n ∈ e.identifiers, isPlain n = true) ∧
      ∃ text, cond.text = .ok text ∧
        readCondition text = some (.compound .or [.equal (.of "pet" "age") (.placeholder "cat"),
          .bare "dog_age_0"]) ∧
        readCondition text ≠ some e.simplified := by
  have compiled : compile tailedRegistry "animal" "animal"
      (.expression (.comparison "cat OR dog_age" .eq (.int 3))) =
        .ok ⟨some (.equal (.of "pet" "age") (.placeholder "cat OR dog_age_0")),
          [⟨"cat OR dog_age_0", .int 3, .integer⟩], []⟩ := rfl
  obtain ⟨text, written, chars⟩ := chars_of_compile compiled rfl
  have column := (Expr.of "pet" "age").reads (by decide) nofun
  have cat : Reads "cat".toList [name "cat"] := reads_plain (by decide)
  have dog : Reads "dog_age_0".toList [name "dog_age_0"] := reads_plain (by decide)
  have value := (cat.around .or dog).mark (c := ':') rfl fun _ => rfl
  have whole := column.spaced ((reads_relation .eq).spaced value)
  have same : text.toList = charsOf (Expr.of "pet" "age").fragments ++
      ' ' :: (Relation.eq.symbol.toList ++ ' ' :: ':' :: ("cat".toList ++
        ' ' :: (Keyword.or.text.toList ++ ' ' :: "dog_age_0".toList))) := by
    rw [chars]
    decide
  have read : readCondition text = some (.compound .or
      [.equal (.of "pet" "age") (.placeholder "cat"), .bare "dog_age_0"]) := by
    rw [readCondition, items?_of_reads (same ▸ whole)]
    rfl
  refine ⟨_, _, compiled, rfl, by decide, text, written, read, ?_⟩
  rw [read]
  intro same
  cases same

/-- Plain names of tables and columns do not make up for other names of placeholders, and plain
names of all kinds do not make up for conditions that are compared. -/
theorem not_readBack :
    (¬∀ (r : Registry) (table aliasName : String) (c : Criteria) (cond : Condition) (e : Expr)
        (text : String), compile r table aliasName c = .ok cond → cond.expr = some e →
          (∀ n ∈ e.identifiers, isPlain n = true) → cond.text = .ok text →
            readCondition text = some e.simplified) ∧
    ¬∀ (r : Registry) (table aliasName : String) (c : Criteria) (cond : Condition) (q : Select)
        (text : String), compile r table aliasName c = .ok cond →
          (∀ n ∈ (cond.applyTo q).identifiers ++ (cond.applyTo q).placeholders,
            isPlain n = true) →
          ((Statement.query (cond.applyTo q)).render .named cond.params).outcome = .ok text →
            readFilter text = some (conjoined (q.filter ++ cond.expr.toList)) := by
  constructor
  · intro reads
    obtain ⟨cond, e, compiled, isExpr, plain, text, written, -, other⟩ := misread_placeholder
    exact other (reads _ _ _ _ cond e text compiled isExpr plain written)
  · intro reads
    obtain ⟨cond, compiled, plain, text, written, -, other⟩ := misread_operand
    exact other (reads _ _ _ _ cond oddBooks text compiled plain written)

end Relmap
