import GraphBinding.Proofs.JsonTexts
import GraphBinding.Proofs.SharedBody
import GraphBinding.Settings.Decoder

namespace GraphBinding

/-! The values that stand in a script module, read back from its text.

Resolvers run on the handle of the schema, which is read from its line when the module is
loaded.  It is made of tables, whose names are distinct, so that reading loses nothing. -/

namespace Json

theorem distinctNamesMembers_of_forall {members : List (String × Json)}
    (each : ∀ entry ∈ members, entry.2.DistinctNames) : DistinctNamesMembers members := by
  induction members with
  | nil => trivial
  | cons entry rest ih =>
    obtain ⟨first, others⟩ := List.forall_mem_cons.1 each
    exact ⟨first, ih others⟩

theorem distinctNamesItems_of_forall {items : List Json}
    (each : ∀ item ∈ items, item.DistinctNames) : DistinctNamesItems items := by
  induction items with
  | nil => trivial
  | cons item rest ih =>
    obtain ⟨first, others⟩ := List.forall_mem_cons.1 each
    exact ⟨first, ih others⟩

theorem mapM_map_of_inverse {α β ε : Type} {write : α → β} {read : β → Except ε α}
    (each : ∀ item, read (write item) = .ok item) (items : List α) :
    (items.map write).mapM read = .ok items := by
  induction items with
  | nil => rfl
  | cons item rest ih =>
    rw [List.map_cons, List.mapM_cons, each, ih]
    rfl

/-- A table as an object, each value written in the same way. -/
def ofTable {α : Type} (write : α → Json) (table : Table α) : Json :=
  .object (table.entries.map fun (name, value) => (name, write value))

section Tables

variable {α : Type} {write : α → Json} {room : Nat}

theorem forall_mem_members {holds : Json → Prop} (each : ∀ value, holds (write value))
    (table : Table α) :
    ∀ entry ∈ table.entries.map fun (name, value) => (name, write value), holds entry.2 := by
  intro entry member
  obtain ⟨⟨name, value⟩, -, rfl⟩ := List.mem_map.1 member
  exact each value

theorem Readable.ofTable (each : ∀ value, Readable room (write value)) (table : Table α) :
    Readable (room + 1) (ofTable write table) :=
  .object (forall_mem_members each table)

theorem distinctNames_ofTable (each : ∀ value, (write value).DistinctNames) (table : Table α) :
    (ofTable write table).DistinctNames := by
  refine ⟨?_, distinctNamesMembers_of_forall (forall_mem_members each table)⟩
  rw [Entries.keys, List.map_map]
  exact table.distinct

theorem table_ofTable {decoder : Decoder α} (each : ∀ value, decoder (write value) = .ok value)
    (table : Table α) : Decoder.table decoder (ofTable write table) = .ok table := by
  have same : Table.ofEntries table.entries = table :=
    Table.ext (Table.entries_ofEntries table.distinct)
  rw [ofTable, Decoder.table, mapM_map_of_inverse]
  · exact congrArg Except.ok same
  · rintro ⟨name, value⟩
    simp only [each, Except.map]

end Tables

theorem Readable.strings (room : Nat) (texts : List String) :
    Readable (room + 1) (.strings texts) :=
  .array fun item member => by
    obtain ⟨text, -, rfl⟩ := List.mem_map.1 member
    exact .string room text

theorem distinctNames_strings (texts : List String) : (strings texts).DistinctNames :=
  distinctNamesItems_of_forall fun item member => by
    obtain ⟨text, -, rfl⟩ := List.mem_map.1 member
    trivial

theorem list_strings (texts : List String) :
    Decoder.list Decoder.string (.strings texts) = .ok texts := by
  rw [strings, Decoder.list, mapM_map_of_inverse]
  exact fun _ => rfl

end Json

namespace RuntimeSettings

open Json

theorem readable (settings : RuntimeSettings) (room : Nat) :
    Readable (room + 3) settings.toJson := by
  have check : Readable (room + 1) settings.clientCheck.toJson :=
    .object (by simp [Readable.boolean, Readable.string])
  have checks : Readable (room + 2)
      (.object [("PrismaClientOnContext", settings.clientCheck.toJson)]) :=
    .object (by simpa using check)
  exact .object (by simp [members, Readable.string, checks])

theorem distinctNames (settings : RuntimeSettings) : settings.toJson.DistinctNames := by
  simp [toJson, members, ClientCheck.toJson, DistinctNames, DistinctNamesMembers, Entries.keys]

theorem decode_toJson (settings : RuntimeSettings) : decode settings.toJson = .ok settings := by
  obtain ⟨contextField, clientIdentity, ⟨enabled, strategy⟩⟩ := settings
  cases strategy <;> rfl

end RuntimeSettings

namespace ScriptModule

open Json Source

variable (schema : Schema)

def aliasesJson : Json := ofTable (ofTable .string) schema.aliases.entries

def identifiersJson : Json := ofTable Json.strings schema.identifiers

theorem handle_eq : handle schema =
    .object [("settings", schema.settings.runtime.toJson),
      ("identifiers", identifiersJson schema), ("aliases", aliasesJson schema)] := rfl

theorem readable_handle : Readable nestingLimit (handle schema) := by
  have settings : Readable 126 schema.settings.runtime.toJson :=
    schema.settings.runtime.readable 123
  have identifiers : Readable 126 (identifiersJson schema) :=
    .ofTable (Readable.strings 124) schema.identifiers
  have aliases : Readable 126 (aliasesJson schema) :=
    .ofTable (Readable.ofTable (Readable.string 124)) schema.aliases.entries
  rw [handle_eq]
  exact .object (by simp [settings, identifiers, aliases])

theorem distinctNames_handle : (handle schema).DistinctNames := by
  have identifiers : (identifiersJson schema).DistinctNames :=
    distinctNames_ofTable distinctNames_strings schema.identifiers
  have native (text : String) : (Json.string text).DistinctNames := trivial
  have aliases : (aliasesJson schema).DistinctNames :=
    distinctNames_ofTable (distinctNames_ofTable native) schema.aliases.entries
  have names : ["settings", "identifiers", "aliases"].Nodup := by decide
  rw [handle_eq]
  exact ⟨names, schema.settings.runtime.distinctNames, identifiers, aliases, trivial⟩

theorem parse_handle : parse (handle schema).text = .ok (handle schema) :=
  (readable_handle schema).parse_text (distinctNames_handle schema)

/-- The handle is created on one line, the first one of the body. -/
theorem head?_body (flavor : Flavor) :
    (body (text (schema.scriptModule flavor))).head? = some (handleLine schema).toList := by
  have unbroken : '\n' ∉ (handleLine schema).toList := by
    have opening : '\n' ∉ "const $schema = $runtime.createSchema(".toList := by decide
    have printed : '\n' ∉ (handle schema).text.toList := by
      rw [Json.text, String.toList_ofList]
      exact (unbroken_chars (handle schema)).newline_not_mem
    have closing : '\n' ∉ ")".toList := by decide
    unfold handleLine
    simp only [String.toList_append, List.mem_append, opening, printed, closing, or_self,
      not_false_eq_true]
  rw [body_scriptModule, bodyLines, List.flatMap_cons, textLines_unbroken unbroken]
  rfl

end ScriptModule

open Json Source ScriptModule in
/-- A literal stands on its line, ends at its first quote that is not escaped and is read back
as the text it was made of.  So does the handle of a schema, which is read back member by
member. -/
theorem embedded_texts_survive :
    (∀ text, Unbroken (literal text).toList ∧
      (∃ inner, (literal text).toList = '"' :: inner ++ ['"'] ∧ ¬ Escapes inner ∧
        ∀ before after, inner = before ++ '"' :: after → Escapes before) ∧
      parse (literal text) = .ok (.string text)) ∧
    ∀ (schema : Schema) flavor, ∃ argument settings identifiers aliases,
      (body (text (schema.scriptModule flavor))).head? =
        some ("const $schema = $runtime.createSchema(" ++ argument ++ ")").toList ∧
      Unbroken argument.toList ∧
      parse argument = .ok (.object [("settings", settings), ("identifiers", identifiers),
        ("aliases", aliases)]) ∧
      (settings = .object [
          ("prismaClientContextField", .string schema.settings.runtime.contextField),
          ("prismaClientImportId", .string schema.settings.runtime.clientIdentity),
          ("checks", .object [("PrismaClientOnContext", .object [
            ("enabled", .boolean schema.settings.runtime.clientCheck.enabled),
            ("strategy", .string schema.settings.runtime.clientCheck.strategy.spelling)])])] ∧
        RuntimeSettings.decode settings = .ok schema.settings.runtime) ∧
      (identifiers = .object (schema.identifiers.entries.map fun (model, fields) =>
          (model, .array (fields.map .string))) ∧
        Decoder.table (Decoder.list Decoder.string) identifiers = .ok schema.identifiers) ∧
      aliases = .object (schema.aliases.entries.entries.map fun (inputType, names) =>
          (inputType, .object (names.entries.map fun (exposed, native) =>
            (exposed, .string native)))) ∧
        Decoder.table (Decoder.table Decoder.string) aliases = .ok schema.aliases.entries := by
  refine ⟨fun text => ⟨?_, ⟨text.toList.flatMap escapeChar, ?_, ?_, ?_⟩, ?_⟩,
    fun schema flavor => ?_⟩
  · rw [literal, quoted, String.toList_ofList]
    exact unbroken_quotedChars text.toList
  · rw [literal, quoted, String.toList_ofList]
    rfl
  · exact not_escapes_flatMap_escapeChar text.toList
  · exact fun before after written => escapes_of_quote written
  · exact (Readable.string nestingLimit text).parse_text trivial
  · refine ⟨(handle schema).text, _, _, _, head?_body schema flavor, ?_, parse_handle schema,
      ⟨rfl, schema.settings.runtime.decode_toJson⟩, ⟨rfl, ?_⟩, rfl, ?_⟩
    · rw [Json.text, String.toList_ofList]
      exact unbroken_chars (handle schema)
    · exact table_ofTable list_strings schema.identifiers
    · have native (text : String) : Decoder.string (.string text) = .ok text := rfl
      exact table_ofTable (table_ofTable native) schema.aliases.entries

end GraphBinding
