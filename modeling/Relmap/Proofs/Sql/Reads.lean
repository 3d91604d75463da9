import Relmap.Proofs.Sql.Words
import Mathlib.Data.List.Forall2

/-!
# Written expressions read as items

An expression or a query in named form is put together from fragments. Main statements, `Expr.reads`
and `Select.reads`: its items are read if all names in it are plain, whatever the expression is and
whatever stands around it.
-/

namespace Relmap.Sql

/-! ## Fragments -/

@[simp] theorem charsOf_nil : charsOf [] = [] := rfl

@[simp] theorem charsOf_cons (f : Fragment) (rest : List Fragment) :
    charsOf (f :: rest) = f.chars ++ charsOf rest := rfl

@[simp] theorem charsOf_append (left right : List Fragment) :
    charsOf (left ++ right) = charsOf left ++ charsOf right := List.flatMap_append

@[simp] theorem Fragment.chars_text (s : String) : (Fragment.text s).chars = s.toList := rfl

/-- Parts that are read one by one are read with a text between them. -/
theorem reads_separated {separator : String} {item : Item}
    (link : ∀ {s t : List Char} {items others : List Item}, Reads s items → Reads t others →
      Reads (s ++ (separator.toList ++ t)) (items ++ item :: others))
    {parts : List (List Fragment)} {items : List (List Item)}
    (each : List.Forall₂ (fun part items => Reads (charsOf part) items) parts items) :
    Reads (charsOf (separated separator parts)) (between item items) := by
  induction each with
  | nil => exact reads_nil
  | cons first later ih =>
    cases later with
    | nil => exact first
    | cons second rest =>
      rw [separated, between, charsOf_append, charsOf_cons]
      exact link first ih
      all_goals exact List.cons_ne_nil _ _

theorem reads_commas {parts : List (List Fragment)} {items : List (List Item)}
    (each : List.Forall₂ (fun part items => Reads (charsOf part) items) parts items) :
    Reads (charsOf (separated ", " parts)) (between comma items) := by
  refine reads_separated (fun first second => ?_) each
  exact first.append (second.blank.mark rfl fun _ => rfl) (closed_of_mark rfl _)

theorem Reads.parenthesised {part : List Fragment} {items : List Item}
    (reads : Reads (charsOf part) items) :
    Reads (charsOf (Fragment.text "(" :: part ++ [Fragment.text ")"])) [enclosed items] := by
  rw [List.cons_append, charsOf_cons, charsOf_append]
  exact reads.grouped

/-- A word between blanks. -/
theorem Reads.around {s t : List Char} {items others : List Item} (first : Reads s items)
    (k : Keyword) (second : Reads t others) :
    Reads (s ++ ' ' :: (k.text.toList ++ ' ' :: t)) (items ++ keyword k :: others) :=
  first.spaced ((reads_keyword k).spaced second)

theorem reads_operands (connective : Connective) {parts : List (List Fragment)}
    {items : List (List Item)}
    (each : List.Forall₂ (fun part items => Reads (charsOf part) items) parts items) :
    Reads (charsOf (operandFragments connective parts)) (operandItems connective items) := by
  -- Several operands stand in parentheses, a single one does not.
  have grouped : List.Forall₂ (fun part items => Reads (charsOf part) items)
      (parts.map fun part => Fragment.text "(" :: part ++ [Fragment.text ")"])
      (items.map fun items => [enclosed items]) := by
    rw [List.forall₂_map_left_iff, List.forall₂_map_right_iff]
    exact each.imp fun _ _ reads => reads.parenthesised
  have separator : (" " ++ connective.keyword ++ " ").toList =
      ' ' :: (connective.word.text.toList ++ [' ']) := by
    cases connective <;> decide
  cases each with
  | nil => exact reads_nil
  | cons first later =>
    cases later with
    | nil => exact first
    | cons second rest =>
      refine reads_separated (fun first second => ?_) grouped
      rw [separator, List.cons_append, List.append_assoc]
      exact first.around connective.word second

/-! ## Expressions -/

theorem reads_tableRef {t : TableRef} (table : isPlain t.table = true)
    (aliasName : isPlain t.aliasName = true) : Reads (charsOf t.fragments) t.items := by
  unfold TableRef.fragments TableRef.items
  split
  · simpa using reads_plain table
  · simpa using (reads_plain table).spaced (reads_plain aliasName)

/-- A placeholder or an expression after `IN`. -/
theorem Reads.among {s t : List Char} {items others : List Item} (subject : Reads s items)
    (inside : Reads t others) :
    Reads (s ++ (" IN (".toList ++ (t ++ [')']))) (items ++ [keyword .in, enclosed others]) :=
  subject.spaced ((reads_keyword .in).spaced inside.grouped)

theorem Reads.notAmong {s t : List Char} {items others : List Item} (subject : Reads s items)
    (inside : Reads t others) :
    Reads (s ++ (" NOT IN (".toList ++ (t ++ [')'])))
      (items ++ [keyword .not, keyword .in, enclosed others]) :=
  subject.around .not ((reads_keyword .in).spaced inside.grouped)

/-- What is counted, in parentheses after `COUNT`. -/
theorem reads_count {s : List Char} {items : List Item} (inside : Reads s items) :
    Reads ("COUNT(".toList ++ (s ++ [')'])) [keyword .count, enclosed items] :=
  (reads_keyword .count).append inside.grouped (closed_of_mark rfl _)

/-! ## Clauses -/

/-- A part that can follow any other one: it is empty or starts with a mark. -/
structure ReadsOn (s : List Char) (items : List Item) : Prop where
  reads : Reads s items
  closed : Closed s

theorem readsOn_nil : ReadsOn [] [] := ⟨reads_nil, closed_nil⟩

theorem Reads.spacedOn {s : List Char} {items : List Item} (reads : Reads s items) :
    ReadsOn (' ' :: s) items := ⟨reads.blank, closed_of_mark rfl s⟩

theorem Reads.onward {s t : List Char} {items others : List Item} (first : Reads s items)
    (second : ReadsOn t others) : Reads (s ++ t) (items ++ others) :=
  first.append second.reads second.closed

theorem ReadsOn.append {s t : List Char} {items others : List Item} (first : ReadsOn s items)
    (second : ReadsOn t others) : ReadsOn (s ++ t) (items ++ others) :=
  ⟨first.reads.onward second, first.closed.append second.closed⟩

theorem readsOn_source (source : Option TableRef) :
    (∀ n ∈ source.toList.flatMap fun t => [t.table, t.aliasName], isPlain n = true) →
      ReadsOn (charsOf (match source with
          | some table => .text " FROM " :: table.fragments
          | none => []))
        (source.toList.flatMap fun t => keyword .from :: t.items) := by
  cases source with
  | none => exact fun _ => readsOn_nil
  | some t =>
    intro plain
    have reads := reads_tableRef (plain t.table (by simp)) (plain t.aliasName (by simp))
    rw [Option.toList_some, List.flatMap_singleton]
    exact ((reads_keyword .from).spaced reads).spacedOn

theorem readsOn_filter {parts : List (List Fragment)} {items : List (List Item)}
    (each : List.Forall₂ (fun part items => Reads (charsOf part) items) parts items) :
    ReadsOn (charsOf (filterFragments parts)) (filterItems items) := by
  have reads := reads_operands .and each
  cases each with
  | nil => exact readsOn_nil
  | cons first later => exact ((reads_keyword .where).spaced reads).spacedOn

theorem readsOn_order {parts : List (List Fragment)} {items : List (List Item)}
    (each : List.Forall₂ (fun part items => Reads (charsOf part) items) parts items) :
    ReadsOn (charsOf (.text " ORDER BY " :: separated ", " parts))
      (keyword .order :: keyword .by :: between comma items) :=
  ((reads_keyword .order).spaced ((reads_keyword .by).spaced (reads_commas each))).spacedOn

theorem readsOn_page (limit offset : Option Nat) :
    ReadsOn (charsOf (pageFragments limit offset)) (pageItems limit offset) := by
  have counted (k : Keyword) {s : String} (word : s.toList = ' ' :: (k.text.toList ++ [' ']))
      (n : Nat) : ReadsOn (charsOf [.text s, .text (toString n)])
        [keyword k, name (toString n)] := by
    simp only [charsOf_cons, charsOf_nil, Fragment.chars_text, word, List.append_nil,
      List.cons_append, List.append_assoc, List.nil_append]
    exact ((reads_keyword k).spaced (reads_plain (isPlain_number n))).spacedOn
  have limited := counted .limit (s := " LIMIT ") (by decide)
  have shifted := counted .offset (s := " OFFSET ") (by decide)
  cases limit with
  | none =>
    cases offset with
    | none => exact readsOn_nil
    | some n => exact shifted n
  | some limit =>
    cases offset with
    | none => exact limited limit
    | some n => exact charsOf_append _ _ ▸ (limited limit).append (shifted n)

mutual

theorem Expr.reads : ∀ (e : Expr), (∀ n ∈ e.identifiers, isPlain n = true) →
    (∀ n ∈ e.placeholders, isPlain n = true) → Reads (charsOf e.fragments) e.items
  | .compound connective operands, plain, bound => by
    rw [Expr.fragments, Expr.items]
    exact reads_operands connective (reads_each operands plain bound)
  | .not operand, plain, bound => by
    simp only [Expr.fragments, Expr.items, charsOf_append, charsOf_cons, List.cons_append]
    exact (reads_keyword .not).append (operand.reads plain bound).grouped (closed_of_mark rfl _)
  | .compare left relation right, plain, bound => by
    rw [Expr.identifiers, List.forall_mem_append] at plain
    rw [Expr.placeholders, List.forall_mem_append] at bound
    simp only [Expr.fragments, Expr.items, charsOf_append, charsOf_cons, charsOf_nil,
      List.append_assoc, List.append_nil]
    exact (left.reads plain.1 bound.1).spaced
      ((reads_relation relation).spaced (right.reads plain.2 bound.2))
  | .column (some table) column, plain, _ => by
    have isTable := plain table List.mem_cons_self
    have isColumn := plain column (List.mem_cons_of_mem _ List.mem_cons_self)
    simp only [Expr.fragments, Expr.items, charsOf_cons, charsOf_nil, List.append_nil]
    exact (reads_plain isTable).append ((reads_plain isColumn).mark rfl fun _ => rfl)
      (closed_of_mark rfl _)
  | .column none column, plain, _ => by
    simp only [Expr.fragments, Expr.items, charsOf_cons, charsOf_nil, List.append_nil]
    exact reads_plain (plain column (List.mem_singleton_self column))
  | .placeholder p, _, bound => by
    simp only [Expr.fragments, Expr.items, charsOf_cons, charsOf_nil, List.append_nil]
    exact (reads_plain (bound p (List.mem_singleton_self p))).mark rfl fun _ => rfl
  | .inList negated subject list, plain, bound => by
    rw [Expr.identifiers, List.forall_mem_append] at plain
    rw [Expr.placeholders, List.forall_mem_append] at bound
    have readsSubject := subject.reads plain.1 bound.1
    have readsList := list.reads plain.2 bound.2
    cases negated with
    | false =>
      simp only [Expr.fragments, Expr.items, charsOf_append, charsOf_cons, List.append_assoc]
      exact readsSubject.among readsList
    | true =>
      simp only [Expr.fragments, Expr.items, charsOf_append, charsOf_cons, List.append_assoc]
      exact readsSubject.notAmong readsList
  | .inQuery subject query, plain, bound => by
    rw [Expr.identifiers, List.forall_mem_append] at plain
    rw [Expr.placeholders, List.forall_mem_append] at bound
    simp only [Expr.fragments, Expr.items, charsOf_append, charsOf_cons, List.append_assoc]
    exact (subject.reads plain.1 bound.1).among (query.reads plain.2 bound.2)
  | .isNull false subject, plain, bound => by
    simp only [Expr.fragments, Expr.items, charsOf_append, charsOf_cons, charsOf_nil]
    exact (subject.reads plain bound).around .is (reads_keyword .null)
  | .isNull true subject, plain, bound => by
    simp only [Expr.fragments, Expr.items, charsOf_append, charsOf_cons, charsOf_nil]
    exact (subject.reads plain bound).around .is
      ((reads_keyword .not).spaced (reads_keyword .null))
  | .like subject pattern, plain, bound => by
    rw [Expr.identifiers, List.forall_mem_append] at plain
    rw [Expr.placeholders, List.forall_mem_append] at bound
    -- No flavor but one writes anything after a pattern.
    have end_ : (Fragment.patternEnd).chars = [] := rfl
    simp only [Expr.fragments, Expr.items, charsOf_append, charsOf_cons, charsOf_nil, end_,
      List.append_assoc, List.append_nil]
    exact (subject.reads plain.1 bound.1).around .like (pattern.reads plain.2 bound.2)
  | .countRows, _, _ => by
    have star : Reads ['*'] [.token (.mark .star)] := reads_nil.mark rfl fun _ => rfl
    exact reads_count star
  | .count false argument, plain, bound => by
    simp only [Expr.fragments, Expr.items, charsOf_append, charsOf_cons, List.cons_append]
    exact reads_count (argument.reads plain bound)
  | .count true argument, plain, bound => by
    have opening : (Fragment.text "COUNT(DISTINCT ").chars =
        "COUNT(".toList ++ (Keyword.distinct.text.toList ++ [' ']) := by decide
    have whole := reads_count ((reads_keyword .distinct).spaced (argument.reads plain bound))
    simp only [Expr.fragments, Expr.items, reduceIte, charsOf_append, charsOf_cons, opening]
    simp only [List.append_assoc, List.cons_append, List.nil_append] at whole ⊢
    exact whole

theorem reads_each : ∀ (es : List Expr), (∀ n ∈ identifiersAll es, isPlain n = true) →
    (∀ n ∈ placeholdersAll es, isPlain n = true) →
      List.Forall₂ (fun part items => Reads (charsOf part) items) (fragmentsEach es) (itemsEach es)
  | [], _, _ => .nil
  | e :: rest, plain, bound => by
    rw [identifiersAll, List.forall_mem_append] at plain
    rw [placeholdersAll, List.forall_mem_append] at bound
    exact .cons (e.reads plain.1 bound.1) (reads_each rest plain.2 bound.2)

theorem Select.reads : ∀ (q : Select), (∀ n ∈ q.identifiers, isPlain n = true) →
    (∀ n ∈ q.placeholders, isPlain n = true) → Reads (charsOf q.fragments) q.items
  | ⟨columns, source, joins, filter, order, limit, offset⟩, plain, bound => by
    simp only [Select.identifiers, List.forall_mem_append] at plain
    simp only [Select.placeholders, List.forall_mem_append] at bound
    obtain ⟨⟨⟨⟨plainColumns, plainSource⟩, plainJoins⟩, plainFilter⟩, plainOrder⟩ := plain
    obtain ⟨⟨⟨boundColumns, boundJoins⟩, boundFilter⟩, boundOrder⟩ := bound
    have output : Reads (charsOf (if columns.isEmpty then [.text "*"]
          else separated ", " (columnFragments columns)))
        (if columns.isEmpty then [.token (.mark .star)]
          else between comma (columnItems columns)) := by
      split
      · exact reads_nil.mark rfl fun _ => rfl
      · exact reads_commas (reads_columns columns plainColumns boundColumns)
    have sorted : ReadsOn (charsOf (if order.isEmpty then []
          else .text " ORDER BY " :: separated ", " (orderFragments order)))
        (if order.isEmpty then []
          else keyword .order :: keyword .by :: between comma (orderItems order)) := by
      split
      · exact readsOn_nil
      · exact readsOn_order (reads_order order plainOrder boundOrder)
    have joined := (readsOn_source source plainSource).append
      (reads_joins joins plainJoins boundJoins)
    have filtered := joined.append (readsOn_filter (reads_each filter plainFilter boundFilter))
    have rest := filtered.append (sorted.append (readsOn_page limit offset))
    have whole := (reads_keyword .select).spaced (output.onward rest)
    have selectText : (Fragment.text "SELECT ").chars = Keyword.select.text.toList ++ [' '] := by
      decide
    simp only [Select.fragments, Select.items, charsOf_append, charsOf_cons, selectText]
    simp only [List.append_assoc, List.cons_append, List.nil_append] at whole ⊢
    exact whole

theorem reads_columns : ∀ (items : List SelectItem),
    (∀ n ∈ columnIdentifiers items, isPlain n = true) →
    (∀ n ∈ columnPlaceholders items, isPlain n = true) →
      List.Forall₂ (fun part items => Reads (charsOf part) items) (columnFragments items)
        (columnItems items)
  | [], _, _ => .nil
  | ⟨e, aliasName⟩ :: rest, plain, bound => by
    rw [columnIdentifiers, List.forall_mem_append, List.forall_mem_append] at plain
    rw [columnPlaceholders, List.forall_mem_append] at bound
    have reads := e.reads plain.1.1 bound.1
    cases aliasName with
    | none => exact .cons reads (reads_columns rest plain.2 bound.2)
    | some aliasName =>
      refine .cons ?_ (reads_columns rest plain.2 bound.2)
      simp only [charsOf_append, charsOf_cons, charsOf_nil, List.append_nil]
      exact reads.around .as (reads_plain (plain.1.2 aliasName (List.mem_singleton_self aliasName)))

theorem reads_joins : ∀ (joins : List Join), (∀ n ∈ joinIdentifiers joins, isPlain n = true) →
    (∀ n ∈ joinPlaceholders joins, isPlain n = true) →
      ReadsOn (charsOf (joinFragments joins)) (joinItems joins)
  | [], _, _ => readsOn_nil
  | ⟨kind, target, on⟩ :: rest, plain, bound => by
    rw [joinIdentifiers, List.forall_mem_append, List.forall_mem_append] at plain
    rw [joinPlaceholders, List.forall_mem_append] at bound
    have table := plain.1.1 target.table List.mem_cons_self
    have aliasName := plain.1.1 target.aliasName (List.mem_cons_of_mem _ List.mem_cons_self)
    have joined := (reads_tableRef table aliasName).around .on (on.reads plain.1.2 bound.1)
    have kindText : kind.text.toList =
        ' ' :: (kind.word.text.toList ++ ' ' :: (Keyword.join.text.toList ++ [' '])) := by
      cases kind <;> decide
    have onText : " ON ".toList = ' ' :: (Keyword.on.text.toList ++ [' ']) := by decide
    have whole := (((reads_keyword kind.word).around .join joined).spacedOn).append
      (reads_joins rest plain.2 bound.2)
    simp only [joinFragments, joinItems, charsOf_append, charsOf_cons, Fragment.chars_text,
      kindText, onText]
    simpa only [List.append_assoc, List.cons_append, List.nil_append] using whole

theorem reads_order : ∀ (terms : List OrderTerm),
    (∀ n ∈ orderIdentifiers terms, isPlain n = true) →
    (∀ n ∈ orderPlaceholders terms, isPlain n = true) →
      List.Forall₂ (fun part items => Reads (charsOf part) items) (orderFragments terms)
        (orderItems terms)
  | [], _, _ => .nil
  | ⟨e, direction⟩ :: rest, plain, bound => by
    rw [orderIdentifiers, List.forall_mem_append] at plain
    rw [orderPlaceholders, List.forall_mem_append] at bound
    have directionText : direction.keyword = direction.word.text := by cases direction <;> rfl
    refine .cons ?_ (reads_order rest plain.2 bound.2)
    simp only [charsOf_append, charsOf_cons, charsOf_nil, List.append_nil, directionText]
    exact (e.reads plain.1 bound.1).spaced (reads_keyword direction.word)

end

end Relmap.Sql
