import Relmap.Proofs.Gateway.Addressing

/-!
# Saved translations

What is in the tables after a translation was saved. Main statement, `save_upserts`: the values are
written over the rows that are there for the translation, or to one new row if there is none, every
other row stays, and to save them again changes nothing. Nothing of this holds if one column links
both to the translated row and to the language and the identifiers differ: each time one more row is
written, and it is for no translation (`not_saves_linked`).
-/

namespace Relmap

open Sql Operation

namespace TranslationGateway

variable {g : TranslationGateway} {id language : Int64} {e : Engine}

/-! ## Saving -/

/-- The row to insert holds the data and then the address. -/
theorem addressed_eq (addressable : g.Addressable id language)
    {data : Row} (free : g.columns.translatableId ∉ data.names)
    (free' : g.columns.languageId ∉ data.names) :
    g.addressed id language data = data ++ g.key id language := by
  have first : data.insertNew g.columns.translatableId (.int id) =
      data ++ [(g.columns.translatableId, .int id)] :=
    if_neg (mt (Keyed.has_iff_mem_names _ _).mp free)
  have named : Keyed.has (data ++ [(g.columns.translatableId, Value.int id)])
      g.columns.languageId = true ↔ g.columns.translatableId = g.columns.languageId := by
    rw [Keyed.has_iff_mem_names, Keyed.names, List.map_append, List.mem_append]
    simpa [eq_comm] using fun entry present => absurd (List.mem_map_of_mem present) free'
  rw [addressed, first, key_eq, Keyed.insertNew]
  by_cases same : g.columns.translatableId = g.columns.languageId
  · rw [if_pos (named.mpr same), if_pos same, same, addressable same]
  · rw [if_neg (mt named.mp same), if_neg same, List.append_assoc]
    rfl

/-- A row of data for a translation: single values for other columns of the table. -/
structure Suits (g : TranslationGateway) (data : Row) : Prop where
  some : data ≠ []
  distinct : data.names.Nodup
  declared : ∀ column ∈ data.names, g.base.metadata.hasColumn column = true
  other : ∀ column ∈ data.names,
    column ≠ g.columns.translatableId ∧ column ≠ g.columns.languageId
  single : ∀ entry ∈ data, entry.2.isList = false

theorem toStored_append {g : Gateway} {row more stored others : Row}
    (converts : g.toStored row = .ok stored) (converts' : g.toStored more = .ok others) :
    g.toStored (row ++ more) = .ok (stored ++ others) := by
  show List.mapM _ (row ++ more) = _
  rw [List.mapM_append, bind_eq_ok]
  exact ⟨stored, converts, bind_eq_ok.mpr ⟨others, converts', rfl⟩⟩

section

variable (links : g.IntegerLinks)
  (addressable : g.Addressable id language)
  {data stored : Row} (suits : g.Suits data) (converts : g.base.toStored data = .ok stored)

include links addressable suits converts

/-- A translation is updated where there is one. -/
theorem result_update (tables : Tables) :
    ∃ n, result e.driver (g.update id language data) tables =
      (.ok n, Function.update tables g.base.table ((tables g.base.table).map fun row =>
        if g.isFor e.comparison id language row then row.writeAll stored else row)) := by
  have free : ∀ column ∈ (g.key id language).names, Gateway.filterName column ∉ data.names := by
    intro column named assigned
    have declared := (Keyed.has_iff_mem_names _ _).mp (suits.declared _ assigned)
    obtain ⟨apart, apart'⟩ := links.free _ declared
    rcases names_key addressable named with rfl | rfl
    · exact apart rfl
    · exact apart' rfl
  have updated := Gateway.result_update (e := e) tables
    (holdsIntegers_key addressable links)
    (g.nodup_key id language) suits.distinct suits.some suits.single converts free
  simp only [selects_key addressable] at updated
  exact updated

/-- A translation is inserted with its address. -/
theorem result_insert (tables : Tables) :
    ∃ n, result e.driver (g.insert id language data) tables =
      (.ok n, Function.update tables g.base.table (tables g.base.table ++
        [e.newRow tables g.base.table (stored ++ g.key id language)])) := by
  have free : g.columns.translatableId ∉ data.names := fun named => (suits.other _ named).1 rfl
  have free' : g.columns.languageId ∉ data.names := fun named => (suits.other _ named).2 rfl
  rw [insert, addressed_eq addressable free free']
  refine Gateway.result_insert tables links.generated ?_ ?_ ?_ (toStored_append converts
    (Gateway.toStored_of_holdsIntegers (holdsIntegers_key addressable links)))
  · exact nodup_append_key addressable suits.distinct suits.other
  · exact List.append_ne_nil_of_left_ne_nil suits.some _
  · refine List.forall_mem_append.mpr ⟨suits.single, fun entry member => ?_⟩
    rcases (mem_key addressable).mp member with rfl | rfl <;> rfl

end

/-- The tables after values were saved for a translation: overwritten in the rows that are there, or
in a new row with the address. -/
def afterSaving (g : TranslationGateway) (e : Engine) (id language : Int64) (stored : Row)
    (tables : Tables) : Tables :=
  let rows := tables g.base.table
  Function.update tables g.base.table <|
    if rows.any (g.isFor e.comparison id language) then
      rows.map fun row =>
        if g.isFor e.comparison id language row then row.writeAll stored else row
    else rows ++ [e.newRow tables g.base.table (stored ++ g.key id language)]

section

variable (links : g.IntegerLinks)
  (addressable : g.Addressable id language)
  {data stored : Row} (suits : g.Suits data) (converts : g.base.toStored data = .ok stored)

include links addressable suits converts

/-- A translation is saved unless a row of the table cannot be read, and then nothing happens. -/
theorem result_save (tables : Tables) :
    (∃ fault, result e.driver (g.save id language data) tables = (.error fault, tables) ∧
      ¬∀ row ∈ tables g.base.table, g.base.Readable row) ∨
    result e.driver (g.save id language data) tables =
      (.ok (), g.afterSaving e id language stored tables) := by
  have saves : g.save id language data = (g.contains id language).bind fun there =>
      if there then (g.update id language data).bind fun _ => finish (.ok ())
      else (g.insert id language data).bind fun _ => finish (.ok ()) := rfl
  rw [saves]
  obtain ⟨fault, failed, unreadable⟩ | answered :=
    result_contains (e := e) links addressable tables
  · exact .inl ⟨fault, result_bind_of_error failed _, unreadable⟩
  · refine .inr ((result_bind_of_ok answered _).trans ?_)
    rw [afterSaving]
    cases (tables g.base.table).any (g.isFor e.comparison id language) with
    | true =>
      obtain ⟨_, updated⟩ := result_update (e := e) links addressable suits converts tables
      exact result_bind_of_ok updated _
    | false =>
      obtain ⟨_, inserted⟩ := result_insert (e := e) links addressable suits converts tables
      exact result_bind_of_ok inserted _

end

/-! ## What is saved -/

theorem names_of_stored {g : Gateway} {row stored : Row} (converts : g.toStored row = .ok stored) :
    stored.names = row.names :=
  Registry.names_of_converted (Registry.convertRow_ok converts)

theorem isFor_congr {c : Comparison} {row row' : Row}
    (same : ∀ column, column = g.columns.translatableId ∨ column = g.columns.languageId →
      row'.get? column = row.get? column) :
    g.isFor c id language row' = g.isFor c id language row := by
  simp only [isFor, Row.read, same _ (.inl rfl), same _ (.inr rfl)]

/-- A row has the address of a translation and the values that were saved for it. -/
structure Holds (g : TranslationGateway) (id language : Int64) (stored row : Row) : Prop where
  translatable : row.get? g.columns.translatableId = some (.int id)
  language : row.get? g.columns.languageId = some (.int language)
  values : ∀ entry ∈ stored, row.get? entry.1 = some entry.2

theorem Holds.isFor {stored row : Row} (holds : g.Holds id language stored row) :
    g.isFor e.comparison id language row = true := by
  rw [TranslationGateway.isFor, Row.read, Row.read, holds.translatable, holds.language]
  simp [e.equal_int]

section

variable (addressable : g.Addressable id language)
  {data stored : Row} (suits : g.Suits data) (converts : g.base.toStored data = .ok stored)

include suits converts

theorem nodup_stored : stored.names.Nodup := names_of_stored converts ▸ suits.distinct

/-- The address of a row is not overwritten. -/
theorem isFor_writeAll {c : Comparison} (row : Row) :
    g.isFor c id language (row.writeAll stored) = g.isFor c id language row := by
  refine isFor_congr fun column link => ?_
  rw [Keyed.get?_writeAll row (nodup_stored suits converts), Keyed.get?_of_absent, Option.none_or]
  intro named
  rw [names_of_stored converts] at named
  obtain ⟨apart, apart'⟩ := suits.other column named
  exact link.elim apart apart'

include addressable

theorem holds_newRow (tables : Tables) (table : String) :
    g.Holds id language stored (e.newRow tables table (stored ++ g.key id language)) := by
  have names := names_of_stored converts
  have distinct : (stored ++ g.key id language).names.Nodup :=
    nodup_append_key addressable (names ▸ suits.distinct) (names ▸ suits.other)
  have written {entry : String × Value} (member : entry ∈ stored ++ g.key id language) :
      (e.newRow tables table (stored ++ g.key id language)).get? entry.1 = some entry.2 :=
    Keyed.get?_writeAll_of_mem _ distinct member
  exact ⟨written (List.mem_append_right _ ((mem_key addressable).mpr (.inl rfl))),
    written (List.mem_append_right _ ((mem_key addressable).mpr (.inr rfl))),
    fun _ member => written (List.mem_append_left _ member)⟩

end

/-- What values that are saved for a translation change in the tables: the rows of the translation,
and nothing else. -/
structure Saves (g : TranslationGateway) (c : Comparison) (id language : Int64) (stored : Row)
    (before after : Tables) : Prop where
  others : ∀ table, table ≠ g.base.table → after table = before table
  kept : (after g.base.table).filter (fun row => !g.isFor c id language row) =
    (before g.base.table).filter fun row => !g.isFor c id language row
  updated : (before g.base.table).filter (g.isFor c id language) ≠ [] →
    (after g.base.table).filter (g.isFor c id language) =
      ((before g.base.table).filter (g.isFor c id language)).map (·.writeAll stored)
  inserted : (before g.base.table).filter (g.isFor c id language) = [] →
    ∃ row, (after g.base.table).filter (g.isFor c id language) = [row] ∧
      g.Holds id language stored row

/-- Where there was no row for a translation, there is one with both identifiers now. -/
theorem Saves.addressable {c : Comparison} {stored : Row} {before after : Tables}
    (saves : g.Saves c id language stored before after)
    (none : (before g.base.table).filter (g.isFor c id language) = []) :
    g.Addressable id language := by
  obtain ⟨row, -, holds⟩ := saves.inserted none
  intro same
  have linked := holds.translatable
  rw [same, holds.language] at linked
  exact (Value.int.inj (Option.some.inj linked)).symm

section

variable {data stored : Row} (suits : g.Suits data) (converts : g.base.toStored data = .ok stored)

include suits converts

theorem saves_afterSaving
    (addressable : g.Addressable id language) (tables : Tables) :
    g.Saves e.comparison id language stored tables (g.afterSaving e id language stored tables) := by
  have others : ∀ table, table ≠ g.base.table →
      g.afterSaving e id language stored tables table = tables table := fun _ other =>
    Function.update_of_ne other _ _
  have here : g.afterSaving e id language stored tables g.base.table = _ :=
    Function.update_self ..
  cases there : (tables g.base.table).any (g.isFor e.comparison id language) with
  | true =>
    rw [there, if_pos rfl] at here
    -- A row is for the translation before the values are written iff it is afterwards.
    have same (row : Row) : g.isFor e.comparison id language
        (if g.isFor e.comparison id language row then row.writeAll stored else row) =
          g.isFor e.comparison id language row := by
      split
      · exact isFor_writeAll suits converts row
      · rfl
    refine ⟨others, ?_, fun _ => ?_, fun none => ?_⟩
    · rw [here, List.filter_map]
      simp only [Function.comp_def, same]
      refine (List.map_congr_left fun row kept => ?_).trans (List.map_id _)
      obtain ⟨-, apart⟩ := List.mem_filter.mp kept
      exact if_neg (by simpa using apart)
    · rw [here, List.filter_map]
      simp only [Function.comp_def, same]
      exact List.map_congr_left fun row kept => if_pos (List.mem_filter.mp kept).2
    · obtain ⟨row, member, isFor⟩ := List.any_eq_true.mp there
      exact absurd isFor (List.filter_eq_nil_iff.mp none row member)
  | false =>
    rw [there, if_neg Bool.false_ne_true] at here
    have holds := holds_newRow (e := e) addressable suits converts tables g.base.table
    have none : (tables g.base.table).filter (g.isFor e.comparison id language) = [] :=
      List.filter_eq_nil_iff.mpr (List.any_eq_false.mp there)
    refine ⟨others, ?_, fun some => absurd none some, fun _ => ⟨_, ?_, holds⟩⟩
    · rw [here, List.filter_append, List.filter_singleton, holds.isFor]
      exact List.append_nil _
    · rw [here, List.filter_append, none, List.filter_singleton, holds.isFor]
      rfl

/-- Values that were saved are there: a row is for the translation, and all such rows have them. -/
theorem Saves.held {before after : Tables}
    (saves : g.Saves e.comparison id language stored before after) :
    (after g.base.table).any (g.isFor e.comparison id language) = true ∧
      ∀ row ∈ after g.base.table, g.isFor e.comparison id language row = true →
        ∀ entry ∈ stored, row.get? entry.1 = some entry.2 := by
  have saved : (after g.base.table).filter (g.isFor e.comparison id language) ≠ [] ∧
      ∀ row ∈ (after g.base.table).filter (g.isFor e.comparison id language),
        ∀ entry ∈ stored, row.get? entry.1 = some entry.2 := by
    by_cases none : (before g.base.table).filter (g.isFor e.comparison id language) = []
    · obtain ⟨row, only, holds⟩ := saves.inserted none
      rw [only]
      exact ⟨List.cons_ne_nil _ _, List.forall_mem_singleton.mpr holds.values⟩
    · rw [saves.updated none]
      refine ⟨mt List.map_eq_nil_iff.mp none, List.forall_mem_map.mpr fun row _ entry member => ?_⟩
      exact Keyed.get?_writeAll_of_mem row (nodup_stored suits converts) member
  obtain ⟨some, held⟩ := saved
  obtain ⟨row, member⟩ := List.exists_mem_of_ne_nil _ some
  refine ⟨List.any_eq_true.mpr ⟨row, List.mem_filter.mp member⟩, ?_⟩
  intro row member isFor
  exact held row (List.mem_filter.mpr ⟨member, isFor⟩)

/-- Values that were saved are not changed when they are saved once more. -/
theorem afterSaving_of_saves {before after : Tables}
    (saves : g.Saves e.comparison id language stored before after) :
    g.afterSaving e id language stored after = after := by
  obtain ⟨there, held⟩ := saves.held suits converts
  have same : (after g.base.table).map (fun row =>
      if g.isFor e.comparison id language row then row.writeAll stored else row) =
        after g.base.table := by
    refine (List.map_congr_left fun row member => ?_).trans (List.map_id _)
    split
    · rename_i isFor
      exact Keyed.writeAll_of_held (held row member isFor)
    · rfl
  rw [afterSaving, if_pos there, same]
  exact Function.update_eq_self _ _

/-- A translation is saved by changing the rows that are for it, or by inserting one if there is
none. To save the same again changes nothing. -/
theorem save_upserts (id language : Int64) (links : g.IntegerLinks)
    (addressable : g.Addressable id language) (e : Engine)
    (tables : Tables) (readable : ∀ row ∈ tables g.base.table, g.base.Readable row) :
    let saved := run e.driver (g.save id language data) tables
    let again := run e.driver (g.save id language data) saved.state
    saved.outcome = .ok () ∧
      g.Saves e.comparison id language stored tables saved.state ∧
      again.state = saved.state ∧
      ((∀ row ∈ saved.state g.base.table, g.base.Readable row) → again.outcome = .ok ()) := by
  intro saved again
  obtain ⟨-, -, unreadable⟩ | ended :=
    result_save (e := e) links addressable suits converts tables
  · exact absurd readable unreadable
  · obtain ⟨outcome, state⟩ := Prod.mk.inj ended
    have saves : g.Saves e.comparison id language stored tables saved.state :=
      state ▸ saves_afterSaving suits converts addressable tables
    refine ⟨outcome, saves, ?_⟩
    obtain ⟨_, same, unreadable⟩ | ended' :=
      result_save (e := e) links addressable suits converts saved.state
    · exact ⟨(Prod.mk.inj same).2, fun readable' => absurd readable' unreadable⟩
    · obtain ⟨outcome', state'⟩ := Prod.mk.inj ended'
      exact ⟨state'.trans (afterSaving_of_saves suits converts saves), fun _ => outcome'⟩

end

/-- A database that compares integers and counts the rows of a table. -/
def countingEngine : Engine where
  flavor := .sqlite
  comparison := .ofIntegers
  equal_int n := by simp [Comparison.ofIntegers, Relation.holds, Truth.ofBool]
  arrange _ found := found
  arrange_perm _ found := .refl found
  fill _ rows _ := [("id", .int (.ofNat (rows.length + 1)))]
  newId _ rows _ := .ofNat (rows.length + 1)

/-- The second greeting is changed, and a third one is added. -/
theorem save_upserts_greetings :
    let tables : Tables := fun table => if table = "label" then greetings else []
    let changed :=
      run countingEngine.driver (labelGateway.save 1 2 [("text", .text "moin")]) tables
    let added :=
      run countingEngine.driver (labelGateway.save 1 3 [("text", .text "ciao")]) tables
    (changed.outcome = .ok () ∧
      (changed.state "label").filter (labelGateway.isFor countingEngine.comparison 1 2) =
        [[("id", .int 2), ("item", .int 1), ("language", .int 2), ("text", .text "moin")]]) ∧
    added.outcome = .ok () ∧ ∃ row,
      (added.state "label").filter (labelGateway.isFor countingEngine.comparison 1 3) = [row] ∧
        labelGateway.Holds 1 3 [("text", .text "ciao")] row := by
  intro tables changed added
  have links : labelGateway.IntegerLinks :=
    ⟨⟨.integer, rfl, rfl⟩, ⟨.integer, rfl, rfl⟩, by decide, by decide, rfl, rfl⟩
  have suits (s : String) : labelGateway.Suits [("text", .text s)] :=
    ⟨List.cons_ne_nil _ _, List.nodup_singleton _, List.forall_mem_singleton.mpr rfl,
      List.forall_mem_singleton.mpr
        ⟨show "text" ≠ "item" by decide, show "text" ≠ "language" by decide⟩,
      List.forall_mem_singleton.mpr rfl⟩
  have stores (s : String) :
      labelGateway.base.toStored [("text", .text s)] = .ok [("text", .text s)] := rfl
  have readable : ∀ row ∈ greetings, labelGateway.base.Readable row := by decide
  obtain ⟨outcome, saves, -⟩ :=
    save_upserts (suits "moin") (stores "moin") 1 2 links nofun countingEngine tables readable
  obtain ⟨outcome', saves', -⟩ :=
    save_upserts (suits "ciao") (stores "ciao") 1 3 links nofun countingEngine tables readable
  have none : (tables "label").filter (labelGateway.isFor countingEngine.comparison 1 3) = [] := by
    rfl
  have second : (tables "label").filter (labelGateway.isFor countingEngine.comparison 1 2) =
      [[("id", .int 2), ("item", .int 1), ("language", .int 2), ("text", .text "hallo")]] := by rfl
  have changes := saves.updated (second ▸ List.cons_ne_nil _ _)
  have adds := saves'.inserted none
  have here : labelGateway.base.table = "label" := rfl
  rw [here, second] at changes
  rw [here] at adds
  exact ⟨⟨outcome, changes⟩, outcome', adds⟩

/-- Labels that one column links both to their item and to their language. -/
def linkTable : Metadata :=
  { Metadata.ofColumns "label" [("id", .integer), ("link", .integer), ("text", .string)] ["id"] with
    translationColumns := some ⟨"link", "link"⟩ }

def linkGateway : TranslationGateway :=
  ⟨⟨⟨⟨[linkTable], by decide⟩, ⟨true, true⟩⟩, linkTable, "label", rfl⟩, ⟨"link", "link"⟩, rfl⟩

/-- The text of the item 1 in the language 2 is saved. -/
def saveLinked (tables : Tables) : Run Unit Tables :=
  run countingEngine.driver (linkGateway.save 1 2 [("text", .text "hallo")]) tables

/-- A label is looked for by its language and inserted with its item, so that it is not found when it
is saved again. -/
theorem not_saves_linked :
    linkGateway.IntegerLinks ∧ linkGateway.Suits [("text", .text "hallo")] ∧
      linkGateway.base.toStored [("text", .text "hallo")] = .ok [("text", .text "hallo")] ∧
      (saveLinked fun _ => []).outcome = .ok () ∧
      (saveLinked fun _ => []).state "label" =
        [[("id", .int 1), ("text", .text "hallo"), ("link", .int 1)]] ∧
      (saveLinked (saveLinked fun _ => []).state).state "label" =
        [[("id", .int 1), ("text", .text "hallo"), ("link", .int 1)],
          [("id", .int 2), ("text", .text "hallo"), ("link", .int 1)]] ∧
      ¬linkGateway.Saves countingEngine.comparison 1 2 [("text", .text "hallo")] (fun _ => [])
        (saveLinked fun _ => []).state := by
  have links : linkGateway.IntegerLinks :=
    ⟨⟨.integer, rfl, rfl⟩, ⟨.integer, rfl, rfl⟩, by decide, by decide, rfl, rfl⟩
  have suits : linkGateway.Suits [("text", .text "hallo")] :=
    ⟨List.cons_ne_nil _ _, List.nodup_singleton _, List.forall_mem_singleton.mpr rfl,
      List.forall_mem_singleton.mpr
        ⟨show "text" ≠ "link" by decide, show "text" ≠ "link" by decide⟩,
      List.forall_mem_singleton.mpr rfl⟩
  refine ⟨links, suits, rfl, rfl, rfl, rfl, fun saves => ?_⟩
  have equal : (1 : Int64) = 2 := saves.addressable List.filter_nil rfl
  exact absurd equal (by decide)

end TranslationGateway
end Relmap
