import GraphBinding.Proofs.ModuleOutlines

namespace GraphBinding

/-! The two script modules side by side.

They are compared as texts.  Names and descriptions may hold anything, so that one line of the
source may be several lines of the text, and only the first of them can begin with a keyword. -/

namespace Source

def textLines (text : String) : List (List Char) := text.toList.splitOn '\n'

def firstLine (text : String) : List Char := text.toList.takeWhile (· ≠ '\n')

theorem exists_splitOn (text : List Char) :
    ∃ others, text.splitOn '\n' = text.takeWhile (· ≠ '\n') :: others := by
  induction text with
  | nil => exact ⟨[], rfl⟩
  | cons c rest ih =>
    rw [List.splitOn_cons_eq_if_modifyHead]
    by_cases ends : c = '\n'
    · exact ⟨rest.splitOn '\n', by simp [ends]⟩
    · obtain ⟨others, split⟩ := ih
      exact ⟨others, by simp [ends, split]⟩

theorem splitOn_append {first : List Char} (unbroken : '\n' ∉ first) (last : List Char) :
    (first ++ last).splitOn '\n' = (last.splitOn '\n').modifyHead (first ++ ·) := by
  induction first with
  | nil => exact (congrFun List.modifyHead_id _).symm
  | cons c rest ih =>
    simp only [List.mem_cons, not_or] at unbroken
    obtain ⟨ends, unbroken⟩ := unbroken
    rw [List.cons_append, List.splitOn_cons_eq_if_modifyHead, ih unbroken,
      if_neg (by simpa using Ne.symm ends), List.modifyHead_modifyHead]
    rfl

theorem exists_textLines (text : String) :
    ∃ others, ∀ start : String, '\n' ∉ start.toList →
      textLines (start ++ text) = (start.toList ++ firstLine text) :: others := by
  obtain ⟨others, split⟩ := exists_splitOn text.toList
  refine ⟨others, fun start unbroken => ?_⟩
  rw [textLines, String.toList_append, splitOn_append unbroken, split]
  rfl

theorem textLines_unbroken {line : String} (unbroken : '\n' ∉ line.toList) :
    textLines line = [line.toList] := List.splitOn_eq_singleton unbroken

/-- A text that is put together from lines ends with a break, after which nothing stands. -/
theorem textLines_text (lines : List String) :
    textLines (text lines) = lines.flatMap textLines ++ [[]] := by
  induction lines with
  | nil => rfl
  | cons line lines ih =>
    have more : (text (line :: lines)).toList = line.toList ++ '\n' :: (text lines).toList := by
      simp [text, String.join_cons]
    rw [textLines, more, List.splitOn_append_cons_self, List.flatMap_cons, List.append_assoc, ← ih]
    rfl

end Source

namespace ScriptModule

open Source Outline

def inHeader (line : List Char) : Bool := ¬ "const $schema".toList <+: line

/-- The lines of a script module after its header. -/
def body (module : String) : List (List Char) := (textLines module).dropWhile inHeader

def settingsText : String := "$settings = $runtime.changeSettings"

/-- The first lines of all exported bindings, without the keyword. -/
def openings (schema : Schema) : List (List Char) :=
  firstLine settingsText ::
    schema.typeNames.map fun name => firstLine (name ++ " = \x7b")

/-- Lines that are the same in both flavors, but for the keyword before each of some texts. -/
inductive Alongside : List (List Char) → List (List Char) → List (List Char) → Prop
  | nil : Alongside [] [] []
  | shared {texts cjs esm} (line : List Char) (rest : Alongside texts cjs esm) :
      Alongside texts (line :: cjs) (line :: esm)
  | exported {texts cjs esm} (text : List Char) (rest : Alongside texts cjs esm) :
      Alongside (text :: texts) (((exportKeyword .cjs).toList ++ text) :: cjs)
        (((exportKeyword .esm).toList ++ text) :: esm)

namespace Alongside

variable {texts cjs esm : List (List Char)}

theorem same (lines : List (List Char)) : Alongside [] lines lines := by
  induction lines with
  | nil => exact .nil
  | cons line rest ih => exact .shared line ih

theorem append {moreTexts moreCjs moreEsm : List (List Char)} (first : Alongside texts cjs esm)
    (last : Alongside moreTexts moreCjs moreEsm) :
    Alongside (texts ++ moreTexts) (cjs ++ moreCjs) (esm ++ moreEsm) := by
  induction first with
  | nil => exact last
  | shared line _ ih => exact .shared line ih
  | exported text _ ih => exact .exported text ih

theorem forall₂ (alongside : Alongside texts cjs esm) :
    List.Forall₂ (fun left right => left = right ∨
      ∃ text, left = "exports.".toList ++ text ∧ right = "export const ".toList ++ text)
      cjs esm := by
  induction alongside with
  | nil => exact .nil
  | shared line _ ih => exact .cons (.inl rfl) ih
  | exported text _ ih => exact .cons (.inr ⟨text, rfl, rfl⟩) ih

theorem filter_ne (alongside : Alongside texts cjs esm) :
    (cjs.zip esm).filter (fun lines => lines.1 ≠ lines.2) =
      texts.map fun text => ("exports.".toList ++ text, "export const ".toList ++ text) := by
  induction alongside with
  | nil => rfl
  | shared line _ ih => simpa using ih
  | exported text _ ih =>
    have apart : (exportKeyword .cjs).toList ++ text ≠ (exportKeyword .esm).toList ++ text :=
      fun same => absurd (List.append_cancel_right same) (by decide)
    rw [List.zip_cons_cons, List.filter_cons_of_pos (by simpa using apart), ih]
    rfl

theorem binding (text : String) (rest : List String) :
    Alongside [firstLine text] (((exportKeyword .cjs ++ text) :: rest).flatMap textLines)
      (((exportKeyword .esm ++ text) :: rest).flatMap textLines) := by
  obtain ⟨others, split⟩ := exists_textLines text
  rw [List.flatMap_cons, List.flatMap_cons, split (exportKeyword .cjs) (by decide),
    split (exportKeyword .esm) (by decide)]
  exact .exported _ (same _)

end Alongside

variable (schema : Schema)

theorem binding_eq (flavor : Flavor) (name : String) :
    binding flavor name = exportKeyword flavor ++ (name ++ " =") := by
  cases flavor <;> simp [binding, exportKeyword, String.append_assoc]

/-- How each of the types is written out. -/
def writers : List (Flavor → List String) :=
  schema.graph.enums.values.map (fun enum flavor => enumLines flavor enum.type) ++
    schema.catalog.enums.values.map (fun type flavor => enumLines flavor type) ++
    schema.graph.objects.map (fun type flavor => objectLines flavor type) ++
    schema.catalog.inputs.values.map fun type flavor => inputLines flavor type

theorem typeLines_eq (flavor : Flavor) :
    typeLines schema flavor = (writers schema).flatMap fun write => "" :: write flavor := by
  simp [typeLines, writers, List.flatMap_append, List.flatMap_map]

theorem exported_writers :
    List.Forall₂ (fun name write => ∃ body, ∀ flavor, write flavor = exported flavor name body)
      schema.typeNames (writers schema) :=
  schema.forall₂_typeNames (fun _ => ⟨_, fun _ => rfl⟩) (fun _ => ⟨_, fun _ => rfl⟩)
    (fun _ => ⟨_, fun _ => rfl⟩) fun _ => ⟨_, fun _ => rfl⟩

theorem alongside_exported (name : String) (body : List String) :
    Alongside [firstLine (name ++ " = \x7b")] ((exported .cjs name body).flatMap textLines)
      ((exported .esm name body).flatMap textLines) := by
  have opening (flavor : Flavor) :
      ScriptModule.binding flavor name ++ " \x7b" =
        exportKeyword flavor ++ (name ++ " = \x7b") := by
    rw [binding_eq, String.append_assoc, String.append_assoc]
    rfl
  simp only [exported, block, opening]
  exact .binding _ _

theorem alongside_typeLines :
    Alongside (schema.typeNames.map fun name => firstLine (name ++ " = \x7b"))
      ((typeLines schema .cjs).flatMap textLines) ((typeLines schema .esm).flatMap textLines) := by
  rw [typeLines_eq, typeLines_eq]
  have declared := exported_writers schema
  generalize schema.typeNames = names, writers schema = writers at declared ⊢
  induction declared with
  | nil => exact .nil
  | cons written _ ih =>
    obtain ⟨body, writes⟩ := written
    simp only [List.flatMap_cons, List.flatMap_append, writes]
    exact .shared [] ((alongside_exported _ body).append ih)

/-- The line that creates the handle from which all resolvers are made. -/
def handleLine : String := "const $schema = $runtime.createSchema(" ++ (handle schema).text ++ ")"

theorem scriptModule_eq (flavor : Flavor) :
    schema.scriptModule flavor = header flavor ++ handleLine schema :: "" ::
      (exportKeyword flavor ++ settingsText) :: typeLines schema flavor := by
  have settings : binding flavor "$settings" ++ " $runtime.changeSettings" =
      exportKeyword flavor ++ settingsText := by
    rw [binding_eq, String.append_assoc]
    rfl
  rw [Schema.scriptModule, settings, List.append_assoc]
  rfl

/-- All that follows the header, as lines of the text. -/
def bodyLines (flavor : Flavor) : List (List Char) :=
  (handleLine schema :: "" :: (exportKeyword flavor ++ settingsText) ::
    typeLines schema flavor).flatMap textLines ++ [[]]

theorem exists_bodyLines (flavor : Flavor) :
    ∃ rest others, bodyLines schema flavor = ("const $schema".toList ++ rest) :: others := by
  have joined : "const $schema = $runtime.createSchema(" =
      "const $schema" ++ " = $runtime.createSchema(" := by decide +kernel
  have start : handleLine schema =
      "const $schema" ++ (" = $runtime.createSchema(" ++ ((handle schema).text ++ ")")) := by
    unfold handleLine
    simp only [joined, String.append_assoc]
  obtain ⟨others, split⟩ :=
    exists_textLines (" = $runtime.createSchema(" ++ ((handle schema).text ++ ")"))
  rw [bodyLines, List.flatMap_cons, start, split _ (by decide)]
  exact ⟨_, _, rfl⟩

theorem textLines_scriptModule (flavor : Flavor) :
    textLines (text (schema.scriptModule flavor)) =
      (header flavor).map String.toList ++ bodyLines schema flavor := by
  have unbroken : ∀ line ∈ header flavor, textLines line = [line.toList] := by
    cases flavor <;> decide
  rw [textLines_text, scriptModule_eq, List.flatMap_append, List.append_assoc,
    List.map_eq_flatMap, List.flatMap_congr unbroken, bodyLines]

/-- The header ends where the handle is created. -/
theorem body_scriptModule (flavor : Flavor) :
    body (text (schema.scriptModule flavor)) = bodyLines schema flavor := by
  have before : ∀ line ∈ (header flavor).map String.toList, inHeader line := by
    cases flavor <;> decide
  obtain ⟨rest, others, begins⟩ := exists_bodyLines schema flavor
  have after : ¬ inHeader ("const $schema".toList ++ rest) := by
    simp only [inHeader, decide_eq_true_eq, not_not, List.prefix_append]
  rw [body, textLines_scriptModule, List.dropWhile_append_of_pos before, begins,
    List.dropWhile_cons_of_neg after]

theorem alongside_bodyLines :
    Alongside (openings schema) (bodyLines schema .cjs) (bodyLines schema .esm) := by
  have before : Alongside [] ([handleLine schema, ""].flatMap textLines)
      ([handleLine schema, ""].flatMap textLines) := .same _
  have settings := Alongside.binding settingsText []
  have types := (alongside_typeLines schema).append (.same [[]])
  have all := (before.append settings).append types
  simpa [bodyLines, openings] using all

end ScriptModule

open ScriptModule Source in
/-- After their headers both script modules have the same lines, but for the keywords that
export the settings and every type. -/
theorem script_modules_share_body (schema : Schema) :
    (∀ flavor, textLines (text (schema.scriptModule flavor)) =
      (header flavor).map String.toList ++ body (text (schema.scriptModule flavor))) ∧
    List.Forall₂ (fun left right => left = right ∨
        ∃ rest, left = "exports.".toList ++ rest ∧ right = "export const ".toList ++ rest)
      (body (text (schema.scriptModule .cjs))) (body (text (schema.scriptModule .esm))) ∧
    ((body (text (schema.scriptModule .cjs))).zip (body (text (schema.scriptModule .esm)))).filter
        (fun lines => lines.1 ≠ lines.2) =
      (openings schema).map fun rest =>
        ("exports.".toList ++ rest, "export const ".toList ++ rest) := by
  simp only [body_scriptModule]
  exact ⟨textLines_scriptModule schema, (alongside_bodyLines schema).forall₂,
    (alongside_bodyLines schema).filter_ne⟩

end GraphBinding
