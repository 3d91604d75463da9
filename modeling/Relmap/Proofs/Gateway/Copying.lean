import Relmap.Gateway.Translation
import Relmap.Proofs.Database.Exchanges
import Relmap.Proofs.Gateway.Requests
import Relmap.Proofs.Schema.Rows

/-!
# Copies of translations

What a translation gateway sends when it copies the translations of a row to another one. Main
statement, `copy_duplicates`: once the translations are found, they are inserted one after the other
up to the first that fails, each with its own values apart from the row that it translates and from
the identifier. A language that is part of the identifier is lost, as `copy_drops_language` shows.
-/

namespace Relmap

open Sql Operation

theorem Rows.read_eq_ok {answer : Rows} {rows : List Row} :
    answer.read = .ok rows ↔ answer = .values rows := by
  cases answer <;> simp [read]

namespace Gateway

variable {g : Gateway} {fetched row : Row}

/-! ## Fetched rows -/

theorem reaches_of_columnType {column : String} {type : ColumnType}
    (typed : g.columnType column = .ok type) : g.reaches column = true := by
  obtain ⟨resolved, found, -⟩ := map_eq_ok.mp typed
  rw [reaches, found]

/-- A fetched value of a column that the table reaches is read. -/
theorem get?_of_read (read : g.toApplication fetched = .ok row) {column : String} {value : Value}
    {type : ColumnType} (found : fetched.get? column = some value)
    (typed : g.columnType column = .ok type) :
    ∃ a, type.toApplication value = .ok a ∧ row.get? column = some a := by
  have kept : Keyed.get? (fetched.filter fun entry => g.reaches entry.1) column = some value := by
    rw [Keyed.get?_filter fetched g.reaches, if_pos (reaches_of_columnType typed), found]
  obtain ⟨a, isRead, -, type', typed', ok⟩ :=
    Registry.get?_of_converted (Registry.convertRow_ok read) kept
  obtain rfl : type = type' := Except.ok.inj (typed.symm.trans typed')
  exact ⟨a, ok, isRead⟩

/-- What is read has been fetched. -/
theorem fetched_of_read (read : g.toApplication fetched = .ok row) {entry : String × Value}
    (member : entry ∈ row) :
    ∃ value type, (entry.1, value) ∈ fetched ∧ g.columnType entry.1 = .ok type ∧
      type.toApplication value = .ok entry.2 := by
  obtain ⟨⟨column, value⟩, kept, same, type, typed, ok⟩ :=
    exists_left_of_forall₂ (Registry.convertRow_ok read) member
  rw [same]
  exact ⟨value, type, (List.mem_filter.mp kept).1, typed, ok⟩

theorem nodup_of_read (read : g.toApplication fetched = .ok row)
    (distinct : fetched.names.Nodup) : row.names.Nodup := by
  rw [Registry.names_of_converted (Registry.convertRow_ok read)]
  exact distinct.sublist (List.filter_sublist.map _)

/-! ## Insertions -/

theorem insertion_error {e : Error} (failed : g.insertion row = .error e) :
    ∃ entry ∈ row, (g.columnType entry.1 >>= fun type => type.toStored entry.2) = .error e := by
  rw [insertion, bind_eq_error] at failed
  rcases failed with failed | ⟨_, -, failed⟩
  · rw [columnParameters, bind_eq_error] at failed
    rcases failed with failed | ⟨stored, ok, failed⟩
    · exact Registry.convertRow_error failed
    · -- Every column has a type once the values are converted.
      obtain ⟨entry, member, failed⟩ := mapM_error failed
      obtain ⟨_, -, same, type, typed, -⟩ :=
        exists_left_of_forall₂ (Registry.convertRow_ok ok) member
      rw [same] at failed
      rw [show g.columnType _ = .ok type from typed] at failed
      cases failed
  · cases failed

/-- The insertion of a row fails before anything is sent. -/
def Refuses (g : Gateway) (row : Row) (e : Error) : Prop :=
  (g.database.capability.generatedIds = false ∧ e = .configuration .noGeneratedIds) ∨
    g.insertion row = .error e

/-- An insertion is refused, or it is the only request and ends with the identifier. -/
theorem insert_exchanges {σ : Type} (g : Gateway) (row : Row) (d : Driver σ) (state : σ) :
    (∃ e, g.Refuses row e ∧ exchanges d (g.insert row) state = [] ∧
      (run d (g.insert row) state).outcome = .error e) ∨
    ∃ request reply, g.insertion row = .ok request ∧
      exchanges d (g.insert row) state = [⟨request, reply⟩] ∧
      (run d (g.insert row) state).outcome = reply >>= generatedId := by
  unfold insert
  cases capable : g.database.capability.generatedIds with
  | false => exact .inl ⟨_, .inl ⟨capable, rfl⟩, rfl, rfl⟩
  | true =>
    cases built : g.insertion row with
    | error e => exact .inl ⟨e, .inr built, rfl, rfl⟩
    | ok request => exact .inr ⟨request, _, rfl, exec_finish d request generatedId state⟩

/-! ## Found rows -/

section

variable {σ : Type} {d : Driver σ} {plan : Except Error Plan} {state : σ} {rows : List Row}

/-- Rows that are fetched are the answer to one request. -/
theorem fetch_exchanges (ok : (run d (g.fetch plan) state).outcome = .ok rows) :
    ∃ query response, exchanges d (g.fetch plan) state = [⟨query, .ok response⟩] ∧
      response.rows = .values rows := by
  cases plan with
  | error e => cases ok
  | ok p =>
    have fetches : g.fetch (.ok p) = .note (p.condition.note g.table)
        ((finish p.query).bind fun query =>
          (exec ⟨.query query.1, query.2⟩).bind fun response => .finish response.rows.read) := rfl
    rw [fetches] at ok ⊢
    cases queried : p.query with
    | error e =>
      rw [queried] at ok
      cases ok
    | ok query =>
      rw [queried] at ok
      obtain ⟨sent, outcome⟩ :=
        exec_finish d ⟨.query query.1, query.2⟩ (fun response => response.rows.read) state
      obtain ⟨response, replied, read⟩ := bind_eq_ok.mp (outcome.symm.trans ok)
      exact ⟨_, response, sent.trans (by rw [replied]), Rows.read_eq_ok.mp read⟩

/-- Rows that are found are those of the answer to one request, read one by one. -/
theorem find_exchanges {c : Criteria} {ordering : Ordering} {limit : Option Nat} {offset : Nat}
    (ok : (run d (g.find c ordering limit offset) state).outcome = .ok rows) :
    ∃ query response fetched,
      exchanges d (g.find c ordering limit offset) state = [⟨query, .ok response⟩] ∧
      response.rows = .values fetched ∧
      List.Forall₂ (fun fetched row => g.toApplication fetched = .ok row) fetched rows := by
  obtain ⟨fetched, isFetched, read⟩ := ok_of_bind ok
  obtain ⟨query, response, sent, answered⟩ := fetch_exchanges isFetched
  refine ⟨query, response, fetched, ?_, answered, mapM_ok read⟩
  exact (bind_of_ok _ isFetched).1.trans ((List.append_nil _).trans sent)

end

end Gateway

/-! ## Copies -/

namespace TranslationGateway

variable {g : TranslationGateway} {target : Int64} {fetched row : Row}

theorem get?_readdressed (row : Row) (column : String) :
    (g.readdressed target row).get? column =
      if g.columns.translatableId = column then some (.int target)
      else if column ∈ g.base.metadata.identifier then none else row.get? column := by
  rw [readdressed, Keyed.get?_insert, Keyed.get?_foldl_erase]

theorem nodup_readdressed (distinct : row.names.Nodup) :
    (g.readdressed target row).names.Nodup :=
  Keyed.nodup_insert (distinct.sublist ((Keyed.sublist_foldl_erase row _).map _)) _ _

/-- The value that the copy of a fetched row has in a column: it translates the target, and in every
other column outside the identifier it has what the fetched row has. -/
inductive CopiedValue (g : TranslationGateway) (target : Int64) (fetched : Row) :
    String → Value → Prop
  | link : CopiedValue g target fetched g.columns.translatableId (.int target)
  | kept {column : String} {value a : Value} {type : ColumnType} :
      column ≠ g.columns.translatableId → column ∉ g.base.metadata.identifier →
      fetched.get? column = some value → g.base.columnType column = .ok type →
      type.toApplication value = .ok a → CopiedValue g target fetched column a

/-- The request inserts the values of the copy in stored form, and nothing else. -/
structure Duplicates (g : TranslationGateway) (target : Int64) (fetched : Row)
    (request : Request) : Prop where
  statement : request.statement = .insert g.base.table (Gateway.assignments request.params)
  distinct : (request.params.map (·.name)).Nodup
  values : ∀ column a, g.CopiedValue target fetched column a →
    ∃ type v, g.base.columnType column = .ok type ∧ type.toStored a = .ok v ∧
      ⟨column, v, type⟩ ∈ request.params
  only : ∀ p ∈ request.params, ∃ a, g.CopiedValue target fetched p.name a ∧
    g.base.columnType p.name = .ok p.type ∧ p.type.toStored a = .ok p.value

/-- The copy of a fetched row is not sent: the database reports no identifiers, or a value of the
copy cannot be stored. -/
def Unsent (g : TranslationGateway) (target : Int64) (fetched : Row) (e : Error) : Prop :=
  (g.base.database.capability.generatedIds = false ∧ e = .configuration .noGeneratedIds) ∨
    ∃ column a, g.CopiedValue target fetched column a ∧
      (g.base.columnType column >>= fun type => type.toStored a) = .error e

theorem CopiedValue.outside {column : String} {a : Value}
    (copied : g.CopiedValue target fetched column a) :
    column = g.columns.translatableId ∨ column ∉ g.base.metadata.identifier := by
  cases copied with
  | link => exact .inl rfl
  | kept _ outside => exact .inr outside

/-- The language of a fetched row is inserted with the copy just if it is not part of the
identifier. -/
def KeepsLanguage (g : TranslationGateway) (fetched : Row) (request : Request) : Prop :=
  ∀ value a type, fetched.get? g.columns.languageId = some value →
    g.base.columnType g.columns.languageId = .ok type → type.toApplication value = .ok a →
      ((∃ v, type.toStored a = .ok v ∧ ⟨g.columns.languageId, v, type⟩ ∈ request.params) ↔
        g.columns.languageId ∉ g.base.metadata.identifier)

theorem Duplicates.keepsLanguage {request : Request}
    (duplicates : g.Duplicates target fetched request)
    (apart : g.columns.languageId ≠ g.columns.translatableId) :
    g.KeepsLanguage fetched request := by
  intro value a type found typed read
  constructor
  · rintro ⟨v, -, member⟩
    obtain ⟨a', copied, -⟩ := duplicates.only _ member
    exact copied.outside.resolve_left apart
  · intro outside
    obtain ⟨type', v, typed', stored, member⟩ :=
      duplicates.values _ _ (.kept apart outside found typed read)
    obtain rfl : type = type' := Except.ok.inj (typed.symm.trans typed')
    exact ⟨v, stored, member⟩

section

variable (read : g.base.toApplication fetched = .ok row) (distinct : fetched.names.Nodup)
include read distinct

/-- The row to insert has just the values of the copy. -/
theorem get?_readdressed_iff {column : String} {a : Value} :
    (g.readdressed target row).get? column = some a ↔ g.CopiedValue target fetched column a := by
  rw [get?_readdressed]
  constructor
  · intro found
    split at found
    · rename_i same
      subst same
      obtain rfl := Option.some.inj found
      exact .link
    · rename_i other
      split at found
      · cases found
      · rename_i outside
        obtain ⟨value, type, isFetched, typed, isRead⟩ :=
          Gateway.fetched_of_read read (Keyed.mem_of_get? found)
        exact .kept (Ne.symm other) outside (Keyed.get?_of_mem distinct isFetched) typed isRead
  · rintro (_ | ⟨other, outside, found, typed, isRead⟩)
    · exact if_pos rfl
    · obtain ⟨a', isRead', kept⟩ := Gateway.get?_of_read read found typed
      obtain rfl := Except.ok.inj (isRead.symm.trans isRead')
      rw [if_neg (Ne.symm other), if_neg outside, kept]

theorem duplicates_of_insertion {request : Request}
    (built : g.base.insertion (g.readdressed target row) = .ok request) :
    g.Duplicates target fetched request := by
  have distinct' : (g.readdressed target row).names.Nodup :=
    nodup_readdressed (Gateway.nodup_of_read read distinct)
  obtain ⟨params, stores, rfl⟩ := Gateway.insertion_ok built
  refine ⟨rfl, ?_, fun column a copied => ?_, fun p member => ?_⟩
  · rwa [Gateway.names_of_stores stores]
  · have found := (get?_readdressed_iff read distinct).mpr copied
    obtain ⟨⟨name, v, type⟩, member, here⟩ :=
      exists_right_of_forall₂ stores (Keyed.mem_of_get? found)
    obtain rfl : name = column := here.name
    exact ⟨type, v, here.type, here.value, member⟩
  · obtain ⟨entry, isEntry, here⟩ := exists_left_of_forall₂ stores member
    have found := Keyed.get?_of_mem distinct' isEntry
    rw [here.name]
    exact ⟨entry.2, (get?_readdressed_iff read distinct).mp found, here.type, here.value⟩

theorem unsent_of_refuses {e : Error} (refused : g.base.Refuses (g.readdressed target row) e) :
    g.Unsent target fetched e := by
  refine refused.imp_right fun failed => ?_
  obtain ⟨entry, member, failed⟩ := Gateway.insertion_error failed
  have found := Keyed.get?_of_mem (nodup_readdressed (Gateway.nodup_of_read read distinct)) member
  exact ⟨entry.1, entry.2, (get?_readdressed_iff read distinct).mp found, failed⟩

end

/-- Fetched rows are copied one after the other, each with one exchange, up to the first that is not
sent or does not end with an identifier. -/
inductive CopiedInTurn (g : TranslationGateway) (target : Int64) :
    List Row → List Exchange → Except Error Unit → Prop
  | done : CopiedInTurn g target [] [] (.ok ())
  | copied {fetched : Row} {rest : List Row} {request : Request} {reply : Except Error Response}
      {id : Int64} {later : List Exchange} {outcome : Except Error Unit} :
      g.Duplicates target fetched request → reply >>= Gateway.generatedId = .ok id →
      CopiedInTurn g target rest later outcome →
      CopiedInTurn g target (fetched :: rest) (⟨request, reply⟩ :: later) outcome
  | failed {fetched : Row} {rest : List Row} {request : Request} {reply : Except Error Response}
      {e : Error} :
      g.Duplicates target fetched request → reply >>= Gateway.generatedId = .error e →
      CopiedInTurn g target (fetched :: rest) [⟨request, reply⟩] (.error e)
  | unsent {fetched : Row} {rest : List Row} {e : Error} :
      g.Unsent target fetched e → CopiedInTurn g target (fetched :: rest) [] (.error e)

/-- The rows that were copied are the first of those that were fetched. -/
theorem CopiedInTurn.keepsLanguage {rows : List Row} {inserts : List Exchange}
    {outcome : Except Error Unit} (inTurn : g.CopiedInTurn target rows inserts outcome)
    (apart : g.columns.languageId ≠ g.columns.translatableId) :
    ∃ copied, copied <+: rows ∧
      List.Forall₂ (fun fetched insert => g.KeepsLanguage fetched insert.request) copied
        inserts := by
  induction inTurn with
  | done => exact ⟨[], List.nil_prefix, .nil⟩
  | copied duplicates _ _ ih =>
    obtain ⟨copied, first, each⟩ := ih
    exact ⟨_ :: copied, List.cons_prefix_cons.mpr ⟨rfl, first⟩,
      .cons (duplicates.keepsLanguage apart) each⟩
  | @failed fetched rest request reply e duplicates _ =>
    exact ⟨[fetched], List.cons_prefix_cons.mpr ⟨rfl, List.nil_prefix⟩,
      .cons (duplicates.keepsLanguage apart) .nil⟩
  | unsent => exact ⟨[], List.nil_prefix, .nil⟩

section

variable {σ : Type} {d : Driver σ} {state : σ} {rows : List Row}

theorem copiedInTurn_insertAll {raw : List Row} (d : Driver σ) (target : Int64) (state : σ)
    (read : List.Forall₂ (fun fetched row => g.base.toApplication fetched = .ok row) raw rows)
    (maps : ∀ fetched ∈ raw, fetched.names.Nodup) :
    g.CopiedInTurn target raw (exchanges d (g.insertAll (rows.map (g.readdressed target))) state)
      (run d (g.insertAll (rows.map (g.readdressed target))) state).outcome := by
  induction read generalizing state with
  | nil => exact .done
  | @cons fetched row raw rows first _ ih =>
    obtain ⟨distinct, maps⟩ := List.forall_mem_cons.mp maps
    have inserts : g.insertAll ((row :: rows).map (g.readdressed target)) =
      (g.base.insert (g.readdressed target row)).bind fun _ =>
        g.insertAll (rows.map (g.readdressed target)) := rfl
    rw [inserts]
    obtain ⟨e, refused, sent, outcome⟩ | ⟨request, reply, built, sent, outcome⟩ :=
      g.base.insert_exchanges (g.readdressed target row) d state
    · obtain ⟨sends, ends⟩ := bind_of_error
        (fun _ => g.insertAll (rows.map (g.readdressed target))) outcome
      rw [sends, ends, sent]
      exact .unsent (unsent_of_refuses first distinct refused)
    · have duplicates := duplicates_of_insertion first distinct built
      cases replied : reply >>= Gateway.generatedId with
      | error e =>
        obtain ⟨sends, ends⟩ := bind_of_error
          (fun _ => g.insertAll (rows.map (g.readdressed target))) (outcome.trans replied)
        rw [sends, ends, sent]
        exact .failed duplicates replied
      | ok id =>
        obtain ⟨sends, ends⟩ := bind_of_ok
          (fun _ => g.insertAll (rows.map (g.readdressed target))) (outcome.trans replied)
        rw [sends, ends, sent]
        exact .copied duplicates replied (ih _ maps)

/-- Once the translations of a row are found, they are copied in turn, with their language just if it
is not part of the identifier. -/
theorem copy_duplicates (target : Int64) {source : Int64}
    (found : (run d (g.findOf source) state).outcome = .ok rows) :
    ∃ query response fetched inserts,
      exchanges d (g.findOf source) state = [⟨query, .ok response⟩] ∧
      response.rows = .values fetched ∧
      List.Forall₂ (fun fetched row => g.base.toApplication fetched = .ok row) fetched rows ∧
      exchanges d (g.copy source target) state = ⟨query, .ok response⟩ :: inserts ∧
      ((∀ row ∈ fetched, row.names.Nodup) →
        g.CopiedInTurn target fetched inserts (run d (g.copy source target) state).outcome ∧
        (g.columns.languageId ≠ g.columns.translatableId →
          ∃ copied, copied <+: fetched ∧
            List.Forall₂ (fun fetched insert => g.KeepsLanguage fetched insert.request) copied
              inserts)) := by
  obtain ⟨query, response, fetched, sent, answered, read⟩ := Gateway.find_exchanges found
  have goesOn : exchanges d (g.copy source target) state =
        exchanges d (g.findOf source) state ++
          exchanges d (g.insertAll (rows.map (g.readdressed target)))
            (run d (g.findOf source) state).state ∧
      (run d (g.copy source target) state).outcome =
        (run d (g.insertAll (rows.map (g.readdressed target)))
          (run d (g.findOf source) state).state).outcome := bind_of_ok _ found
  obtain ⟨sends, ends⟩ := goesOn
  have inTurn := copiedInTurn_insertAll d target (run d (g.findOf source) state).state read
  rw [← ends] at inTurn
  rw [show exchanges d (g.findOf source) state = _ from sent] at sends
  exact ⟨query, response, fetched, _, sent, answered, read, sends,
    fun maps => ⟨inTurn maps, (inTurn maps).keepsLanguage⟩⟩

end

/-- Labels of items with an identifier of their own. -/
def labelTable : Metadata :=
  { Metadata.ofColumns "label"
      [("id", .integer), ("item", .integer), ("language", .integer), ("text", .string)] ["id"] with
    translationColumns := some ⟨"item", "language"⟩ }

def labelGateway : TranslationGateway :=
  ⟨⟨⟨⟨[labelTable], by decide⟩, ⟨true, true⟩⟩, labelTable, "label", rfl⟩, ⟨"item", "language"⟩, rfl⟩

/-- Labels that are identified by their item and language. -/
def pairTable : Metadata :=
  { Metadata.ofColumns "label" [("item", .integer), ("language", .integer), ("text", .string)]
      ["item", "language"] with
    translationColumns := some ⟨"item", "language"⟩ }

def pairGateway : TranslationGateway :=
  ⟨⟨⟨⟨[pairTable], by decide⟩, ⟨true, true⟩⟩, pairTable, "label", rfl⟩, ⟨"item", "language"⟩, rfl⟩

/-- A driver that answers a query with the rows and numbers the insertions. -/
def answering (rows : List Row) : Driver Nat where
  name := "answering"
  capability := ⟨true, true⟩
  exec request n :=
    if request.statement.isQuery then (.ok ⟨.values rows, none⟩, n)
    else (.ok ⟨.count 1, some (.ofNat n)⟩, n + 1)

/-- A greeting in two languages. -/
def greetings : List Row :=
  [[("id", .int 1), ("item", .int 1), ("language", .int 1), ("text", .text "hello")],
    [("id", .int 2), ("item", .int 1), ("language", .int 2), ("text", .text "hallo")]]

theorem copy_duplicates_greetings :
    (run (answering greetings) (labelGateway.findOf 1) 0).outcome = .ok greetings ∧
      ∃ query inserts, exchanges (answering greetings) (labelGateway.copy 1 5) 0 =
          query :: inserts ∧
        labelGateway.CopiedInTurn 5 greetings inserts (.ok ()) := by
  have found : (run (answering greetings) (labelGateway.findOf 1) 0).outcome = .ok greetings := rfl
  obtain ⟨query, response, fetched, inserts, sent, answered, -, copies, inTurn⟩ :=
    copy_duplicates 5 found
  have answer : exchanges (answering greetings) (labelGateway.findOf 1) 0 =
    [⟨_, .ok ⟨.values greetings, none⟩⟩] := rfl
  obtain ⟨rfl, replied⟩ := Exchange.mk.inj (List.cons.inj (sent.symm.trans answer)).1
  obtain rfl := Except.ok.inj replied
  obtain rfl := Rows.values.inj answered
  exact ⟨found, _, inserts, copies, (inTurn (by decide)).1⟩

/-- Labels without an identifier of their own are copied without their language. -/
theorem copy_drops_language :
    (run (answering (greetings.map (Keyed.erase · "id"))) (pairGateway.copy 1 5) 0).outcome =
        .ok () ∧
      (exchanges (answering (greetings.map (Keyed.erase · "id"))) (pairGateway.copy 1 5) 0).tail.map
          (·.request.statement) =
        List.replicate 2
          (.insert "label" [("text", .placeholder "text"), ("item", .placeholder "item")]) ∧
      ∀ fetched ∈ greetings.map (Keyed.erase · "id"), fetched.has "language" = true :=
  ⟨rfl, rfl, by decide⟩

end TranslationGateway
end Relmap
