import GraphBinding.Proofs.SettingsForms
import GraphBinding.Proofs.ShapedTexts
import GraphBinding.Reading

namespace GraphBinding

/-! Texts of settings, less some of their members, and what they are read as. -/

open Json Shape

section Records

variable (gone : List String → Bool) (room : Nat)

theorem reads_toggles (shapeName first second : String) (different : first ≠ second)
    (one two : Bool) :
    Reads (read room (.record shapeName [(first, .boolean), (second, .boolean)]))
      ((Json.object [(first, .boolean one), (second, .boolean two)]).without gone) := by
  have distinct : [first, second].Nodup := by simpa using different
  refine reads_record (nodup_keys_withoutMembers gone distinct) (forall_mem_withoutMembers ?_)
  refine List.forall_mem_cons.2 ⟨?_, List.forall_mem_singleton.2 ?_⟩
  · simpa [ReadsMember, readColumns, Entries.find?_cons, Shape.read, without] using
      reads_boolean one
  · simpa [ReadsMember, readColumns, Entries.find?_cons, Shape.read, without, different] using
      reads_boolean two

theorem ClientCheck.readable_without (check : ClientCheck) :
    Readable (room + 1) (check.toJson.without gone) := by
  refine .object (forall_mem_withoutMembers ?_)
  exact List.forall_mem_cons.2 ⟨.boolean room _, List.forall_mem_singleton.2 (.string room _)⟩

theorem ClientCheck.readable_checks_without (check : ClientCheck) :
    Readable (room + 2) ((Json.object [("PrismaClientOnContext", check.toJson)]).without gone) :=
  .object (forall_mem_withoutMembers (List.forall_mem_singleton.2 (check.readable_without _ room)))

end Records

namespace Settings

variable (settings : Settings) (gone : List String → Bool)

theorem reads_without (whole : KeepsAliases gone) :
    Reads (shape.read nestingLimit) (settings.toJson.without gone) := by
  have projection : settings.idProjection.spelling ∈ Entries.keys IdProjection.spellings := by
    cases settings.idProjection <;> decide
  have comment :
      settings.missingDocComment.spelling ∈ Entries.keys MissingDocComment.spellings := by
    cases settings.missingDocComment <;> decide
  have docs := reads_toggles (fun path => gone ("docPropagation" :: path)) 126 "DocPropagation"
    "JSDoc" "GraphQLDocs" (by decide) settings.docPropagation.comments
    settings.docPropagation.descriptions
  have output := reads_toggles (fun path => gone ("output" :: path)) 126 "OutputFormats"
    "esm" "cjs" (by decide) settings.output.esm settings.output.cjs
  have aliases : Reads (read 126 (.table (.table .string)))
      ((ofTable (ofTable .string) settings.fieldAliases).without
        fun path => gone ("inputFieldAliases" :: path)) := by
    rw [whole.without]
    have inner (names : Table String) : Reads (read 125 (.table .string)) (ofTable .string names) :=
      reads_table (forall_mem_members reads_string names)
    exact reads_table (forall_mem_members inner settings.fieldAliases)
  have checks := settings.runtime.clientCheck.readable_checks_without
    (fun path => gone ("checks" :: path)) 124
  rw [toJson_eq, without]
  refine reads_extended (nodup_keys_withoutMembers gone settings.nodup_keys_members)
    (forall_mem_withoutMembers fun entry member => ?_)
  simp only [members, List.mem_cons, List.not_mem_nil, or_false] at member
  rcases member with rfl | rfl | rfl | rfl | rfl | rfl | rfl | rfl
  · exact reads_variant projection
  · exact docs
  · exact reads_variant comment
  · exact output
  · exact aliases
  · exact reads_value (.string 126 _)
  · exact reads_value (.string 126 _)
  · exact reads_value checks

theorem ofText_without (whole : KeepsAliases gone) :
    ofText (settings.toJson.without gone).text =
      .ok (settings.resetting fun member => gone member.path) := by
  have read := settings.reads_without gone whole []
  rw [List.append_nil] at read
  rw [ofText, Json.text, String.toList_ofList, read]
  simp [settings.decode_without gone whole, ReadError.ofDecoding, Reader.skipBlank, bind,
    Except.bind, Except.mapError, pure, Except.pure]

variable (left : List Member)

/-- No member leads into the aliases. -/
theorem keepsAliases_path : KeepsAliases fun path => path ∈ left.map Member.path := by
  intro name path
  rw [decide_eq_false_iff_not, List.mem_map]
  rintro ⟨member, -, same⟩
  cases member <;> simp [Member.path] at same

theorem resetting_path :
    (settings.resetting fun member => member.path ∈ left.map Member.path) =
      settings.resetting fun member => member ∈ left := by
  simp only [List.mem_map_of_injective Member.path_injective]

end Settings

/-- Settings are read back from what they are written as, also from the text.  Where some
members are left out, they come back at their defaults and all others as they were.  Whatever
was accepted as settings, also under a second spelling or with members missing, is the same
once it was written and read again. -/
theorem settings_read_back_with_defaults_for_omissions :
    (∀ settings : Settings,
      Settings.decode settings.toJson = .ok settings ∧
      Settings.ofText settings.toJson.text = .ok settings ∧
      ∀ left : List Settings.Member,
        Settings.decode (settings.toJson.without fun path => path ∈ left.map Settings.Member.path) =
          .ok (settings.resetting fun member => member ∈ left) ∧
        Settings.ofText
            (settings.toJson.without fun path => path ∈ left.map Settings.Member.path).text =
          .ok (settings.resetting fun member => member ∈ left)) ∧
    (∀ json settings, Settings.decode json = .ok settings →
      Settings.decode settings.toJson = .ok settings) ∧
    ∀ text settings, Settings.ofText text = .ok settings →
      Settings.ofText settings.toJson.text = .ok settings := by
  have written (settings : Settings) : settings.toJson.without (fun _ => false) = settings.toJson :=
    without_eq_self (fun _ _ => rfl) settings.toJson
  have decoded (settings : Settings) : Settings.decode settings.toJson = .ok settings := by
    have kept := settings.decode_without (fun _ => false) fun _ _ => rfl
    rwa [written, Settings.resetting_none] at kept
  have read (settings : Settings) : Settings.ofText settings.toJson.text = .ok settings := by
    have kept := settings.ofText_without (fun _ => false) fun _ _ => rfl
    rwa [written, Settings.resetting_none] at kept
  refine ⟨fun settings => ⟨decoded settings, read settings, fun left => ⟨?_, ?_⟩⟩,
    fun _ settings _ => decoded settings, fun _ settings _ => read settings⟩
  · rw [settings.decode_without _ (Settings.keepsAliases_path left), settings.resetting_path left]
  · rw [settings.ofText_without _ (Settings.keepsAliases_path left), settings.resetting_path left]

namespace Settings

/-- Settings with most members missing, and a strategy under its second spelling. -/
def sparse : Json :=
  .object [("projectIdIntToGraphQL", .string "ID"),
    ("docPropagation", .object [("JSDoc", .boolean false)]),
    ("prismaClientContextField", .string "db"),
    ("checks", .object [("PrismaClientOnContext", .object [("strategy", .string "duckType")])])]

def ofSparse : Settings where
  idProjection := .id
  docPropagation := ⟨false, true⟩
  runtime := { contextField := "db", clientCheck := ⟨true, .structural⟩ }

end Settings

open Settings in
theorem settings_read_back_after_second_spelling :
    decode sparse = .ok ofSparse ∧ decode ofSparse.toJson = .ok ofSparse ∧
    ofText sparse.text = .ok ofSparse ∧ ofText ofSparse.toJson.text = .ok ofSparse ∧
    decode (ofSparse.toJson.without fun path =>
      path ∈ [Member.comments, .clientCheck].map Member.path) =
        .ok { idProjection := .id, runtime := { contextField := "db" } } := by
  obtain ⟨written, decoded, read⟩ := settings_read_back_with_defaults_for_omissions
  have accepted : decode sparse = .ok ofSparse := rfl
  have taken : ofText sparse.text = .ok ofSparse := by
    rw [ofText, Json.text, String.toList_ofList]
    rfl
  exact ⟨accepted, decoded _ _ accepted, taken, read _ _ taken,
    ((written ofSparse).2.2 [.comments, .clientCheck]).1⟩

end GraphBinding
