import GraphBinding.Proofs.ModuleLines

namespace GraphBinding.Outline

/-! The declaration module, read. -/

open DeclarationModule

variable {group : String × List Member} {opened : List (String × List Member)}

theorem declaration_regular : declaration.Regular where
  unbroken := by simp [declaration]
  begins := ⟨'N', by decide, by simp [declaration]⟩
  listed := by
    simp only [declaration, List.forall_mem_cons]
    exact ⟨fun _ => rfl, fun _ => rfl, List.forall_mem_nil _⟩
  required _ := by
    simp only [declaration]
    rfl

theorem declaration_writes : declaration.Writes typeDeclaration property "\x7d" where
  list item := by simp [declaration]
  nonNull nullable := by simp [declaration]
  unbroken isName := by simp [isName.isKey.unbroken]
  head name := ⟨'\'', name.toList ++ ['\''], by simp, by decide⟩
  named {name} isName depth := by
    have written : (typeDeclaration (.named name)).toList = '\'' :: (name.toList ++ ['\'']) := by
      simp
    rw [written, declaration_regular.valueWithin_cons (by decide)]
    exact quotedName_single isName
  property key text := by simp [property, declaration]
  closing := by simp [declaration]

theorem declaration_shows_condition {name : String} (isName : IsName name) :
    declaration.Shows ("'" ++ name ++ "'" ++ condition) (.guarded name) := by
  have written : ("'" ++ name ++ "'" ++ condition).toList =
      '\'' :: (name.toList ++ '\'' :: condition.toList) := by simp [condition]
  refine ⟨?_, ⟨'\'', _, written, by decide⟩, ?_⟩
  · rw [written]
    simp [isName.isKey.unbroken, condition]
  · rw [written, Dialect.value, declaration_regular.valueWithin_cons (by decide)]
    exact quotedName_condition isName

/-- The type after the question takes the place of the condition. -/
theorem read_settling {type : TypeRef} (isName : IsName type.baseName) (members : List Member) :
    declaration.read
        ⟨false, group :: opened, .value "type" (.guarded type.baseName) :: members⟩
        ("    ? " ++ typeDeclaration type).toList =
      ⟨false, group :: opened, .value "type" (.ofType type) :: members⟩ := by
  have settles : declaration.inside ('?' :: ' ' :: (typeDeclaration type).toList) =
      .settles (.ofType type) := by
    rw [← (declaration_writes.shows_type declaration_regular isName).value]
    simp [Dialect.inside]
  simp [Dialect.read, isBlockComment, settles, Reading.heed, Reading.settle, Value.baseName?_ofType]

theorem read_otherwise {line rest : List Char}
    (shape : line.dropWhile (· = ' ') = ':' :: ' ' :: rest) (members : List Member) :
    declaration.read ⟨false, group :: opened, members⟩ line =
      ⟨false, group :: opened, members⟩ := by
  simp [Dialect.read, shape, isBlockComment, Dialect.inside, Reading.heed]

/-- The first line is a member, which the second settles; the third adds nothing. -/
theorem declaration_reads_guardedType {type : TypeRef} (isName : IsName type.baseName) :
    declaration.Reads (group :: opened) (guardedType type) [.value "type" (.ofType type)] := by
  obtain ⟨asked, otherwise, lines, question, tail, answer, unbroken⟩ : ∃ asked otherwise,
      guardedType type = [asked, "    ? " ++ typeDeclaration type, otherwise] ∧
        asked.toList = "type".toList ++ ':' :: ' ' ::
          (("'" ++ type.baseName ++ "'" ++ condition).toList ++ declaration.separator.toList) ∧
        ∃ tail, otherwise.toList.dropWhile (· = ' ') = ':' :: ' ' :: tail ∧
          '\n' ∉ otherwise.toList := by
    refine ⟨_, _, rfl, by simp [condition, declaration], ?_⟩
    simp only [String.toList_append, List.append_assoc]
    refine ⟨_, rfl, ?_⟩
    simp only [List.mem_append, not_or]
    have newline := isName.isKey.unbroken
    exact ⟨by decide, newline, by decide, by decide, by decide, newline, by decide⟩
  have read : declaration.Reads (group :: opened) [asked]
      [.value "type" (.guarded type.baseName)] :=
    declaration_regular.reads_property (by decide) (declaration_shows_condition isName) question
  rw [lines]
  refine ⟨?_, fun members => ?_⟩
  · have shown := declaration_writes.not_mem_type declaration_regular isName
    have first := read.unbroken asked (by simp)
    simp [first, shown, unbroken]
  · have begun := read.run members
    rw [List.foldl_cons, List.foldl_nil] at begun
    rw [List.foldl_cons, begun, List.reverse_singleton, List.singleton_append, List.foldl_cons,
      read_settling isName, List.foldl_cons, read_otherwise answer]
    rfl

theorem declaration_shows_resolver {parent : String} {field : OutputField}
    (isParent : IsName parent) (isName : IsName field.name) :
    declaration.Shows (resolverType parent field)
      (if field.source.isSome then .resolver else .undefined) := by
  unfold resolverType
  cases field.source with
  | none => exact declaration_regular.shows_undefined
  | some source =>
    have newline := show isNameChar '\n' = false by decide
    refine declaration_regular.shows_resolver ?_ ⟨'\'' :: parent.toList ++ "', '".toList ++
      field.name.toList ++ "'>".toList, ?_⟩
    · simp [isParent.not_mem newline, isName.not_mem newline]
    · simp [declaration]

theorem not_mem_endedLine {line : List Char} (unbroken : '\n' ∉ line) :
    '\n' ∉ Text.endedLine line := by
  unfold Text.endedLine
  split
  · simp_all
  · simpa using unbroken

theorem not_mem_linesFrom {text current : List Char} (unbroken : '\n' ∉ current) :
    ∀ line ∈ Text.linesFrom current text, '\n' ∉ line := by
  fun_induction Text.linesFrom current text with
  | case1 current empty => simp
  | case2 current filled => simpa using unbroken
  | case3 current rest ih =>
    rw [List.forall_mem_cons]
    exact ⟨not_mem_endedLine unbroken, ih (by simp)⟩
  | case4 current c rest other ih => exact ih (by simp [unbroken, Ne.symm other])

theorem not_mem_lines (text : String) : ∀ line ∈ Text.lines text, '\n' ∉ line.toList := by
  have unbroken : ∀ line ∈ Text.linesFrom [] text.toList, '\n' ∉ line :=
    not_mem_linesFrom List.not_mem_nil
  simpa [Text.lines] using unbroken

theorem commentText_unbroken (settings : Settings) (documentation : Option String)
    {guide : List String} (unbroken : ∀ line ∈ guide, '\n' ∉ line.toList) :
    ∀ line ∈ commentText settings documentation guide, '\n' ∉ line.toList := by
  unfold commentText
  repeat' split
  · exact List.forall_mem_nil _
  · exact not_mem_lines _
  · exact unbroken
  · exact List.forall_mem_nil _

theorem fieldGuide_unbroken {model field : String} (ofModel : '\n' ∉ model.toList)
    (ofField : '\n' ∉ field.toList) : ∀ line ∈ fieldGuide model field, '\n' ∉ line.toList := by
  simp [fieldGuide, ofModel, ofField]

theorem modelGuide_unbroken {model : String} (ofModel : '\n' ∉ model.toList) :
    ∀ line ∈ modelGuide model, '\n' ∉ line.toList := by
  simp [modelGuide, ofModel]

theorem enumGuide_unbroken {name : String} (ofEnum : '\n' ∉ name.toList) :
    ∀ line ∈ enumGuide name, '\n' ∉ line.toList := by
  simp [enumGuide, ofEnum]

theorem declaration_reads_entry (settings : Settings) {type : ObjectType}
    (isName : IsName type.name) {entry : String × ObjectEntry} (named : EntryNamed entry) :
    declaration.Reads (group :: opened) (DeclarationModule.entryLines settings type entry)
      [entryMember entry] := by
  have regular := declaration_regular
  have writes := declaration_writes
  obtain ⟨key, name | description | field⟩ := entry
  · exact writes.reads_property regular named.isKey (regular.shows_literal name)
  · exact writes.reads_property regular named.isKey (regular.shows_literal description)
  · have commented : declaration.Reads (group :: opened) (fieldComment settings type field) [] := by
      unfold fieldComment
      split
      · have guide := fieldGuide_unbroken isName.isKey.unbroken named.name.isKey.unbroken
        exact Dialect.reads_comment (commentText_unbroken settings field.documentation guide)
      · exact .nil
    exact commented.append (writes.reads_field regular named
      (fun _ _ => declaration_reads_guardedType named.type)
      (declaration_shows_resolver isName named.name))

theorem outside_interface {name : String} (isName : IsName name) :
    declarationOutside ("export interface " ++ name ++ " \x7b").toList = .opens name := by
  have begins : "export interface ".toList.isPrefixOf?
      ("export interface ".toList ++ (name.toList ++ ' ' :: ['\x7b'])) =
      some (name.toList ++ ' ' :: ['\x7b']) :=
    List.isPrefixOf?_eq_some_iff_append_eq.2 rfl
  have written : ("export interface " ++ name ++ " \x7b").toList =
      "export interface ".toList ++ (name.toList ++ ' ' :: ['\x7b']) := by simp
  have blank := isName.not_mem (show isNameChar ' ' = false by decide)
  rw [written]
  simp only [declarationOutside, begins, takeWhile_ne blank, dropWhile_ne blank,
    String.ofList_toList]
  rfl

theorem outside_binding {name : String} (isName : IsName name) (type : String) :
    declarationOutside ("export declare const " ++ name ++ ": " ++ type).toList =
      .holds name (.other type) := by
  have begins : "export declare const ".toList.isPrefixOf?
      ("export declare const ".toList ++ (name.toList ++ ':' :: ' ' :: type.toList)) =
      some (name.toList ++ ':' :: ' ' :: type.toList) :=
    List.isPrefixOf?_eq_some_iff_append_eq.2 rfl
  have other : "export interface ".toList.isPrefixOf?
      ("export declare const ".toList ++ (name.toList ++ ':' :: ' ' :: type.toList)) = none := rfl
  have written : ("export declare const " ++ name ++ ": " ++ type).toList =
      "export declare const ".toList ++ (name.toList ++ ':' :: ' ' :: type.toList) := by simp
  have colon := isName.isKey.colon
  rw [written]
  simp only [declarationOutside, begins, other, takeWhile_ne colon, dropWhile_ne colon,
    String.ofList_toList]
  simp

theorem reads_interface {name : String} (isName : IsName name) {body : List String}
    {added : List Member} (reads : ∀ before, declaration.Reads [(name, before)] body added) :
    declaration.Reads [] (Source.block ("export interface " ++ name ++ " \x7b") body "\x7d")
      [.group name added] :=
  Dialect.reads_exported (by simp only [String.toList_append, List.append_assoc]; rfl) (by decide)
    (by decide) (by simp [isName.isKey.unbroken]) (outside_interface isName) reads

theorem reads_binding {name type : String} (isName : IsName name) (unbroken : '\n' ∉ type.toList) :
    declaration.Reads [] ["export declare const " ++ name ++ ": " ++ type]
      [.value name (.other type)] :=
  Dialect.reads_line (by simp only [String.toList_append, List.append_assoc]; rfl) (by decide)
    (by decide) (by simp [isName.isKey.unbroken, unbroken]) (outside_binding isName type)

theorem reads_blank : declaration.Reads [] [""] [] :=
  Dialect.reads_silent (by decide) fun _ => rfl

/-- An interface, and the binding that has it as its type. -/
def declaredPair : String × List Member → List Member
  | (name, members) => [.group name members, .value name (.other name)]

theorem reads_declared {name : String} (isName : IsName name) {body : List String}
    {added : List Member} (reads : ∀ before, declaration.Reads [(name, before)] body added) :
    declaration.Reads [] (declared name body) (declaredPair (name, added)) :=
  (reads_interface isName reads).append
    (reads_blank.append (reads_binding isName isName.isKey.unbroken))

/-- A member of the settings, whose type is no reference to a type of the schema. -/
def setting (key type : String) : Member := .value key (declaration.value type.toList)

theorem reads_setting {line key type : String} (isKey : IsKey key)
    (written : line.toList = key.toList ++ ':' :: ' ' :: type.toList)
    (unbroken : '\n' ∉ type.toList) (head : ∃ c rest, type.toList = c :: rest ∧ c ≠ '\x7b') :
    declaration.Reads (group :: opened) [line] [setting key type] :=
  declaration_regular.reads_property isKey ⟨unbroken, head, rfl⟩ (by simp [written, declaration])

def strategies : String :=
  "'strict' | 'structural' | 'strictWithFallback' | 'instanceOf' | 'duckType'"

def settingsMembers : List Member :=
  [setting "prismaClientContextField?" "string", setting "prismaClientImportId?" "string",
    .group "checks?"
      [.group "PrismaClientOnContext?"
        [setting "enabled?" "boolean", setting "strategy?" strategies]]]

theorem reads_settings :
    declaration.Reads [] settingsLines
      [.group "Settings" settingsMembers,
        .value "$settings" (.other "(settings: Settings) => void")] := by
  have regular := declaration_regular
  have closing : "\x7d".toList = '\x7d' :: declaration.separator.toList := rfl
  have text (group : String × List Member) (line key : String) (isKey : IsKey key)
      (written : line.toList = key.toList ++ ':' :: ' ' :: "string".toList) :
      declaration.Reads [group] [line] [setting key "string"] :=
    reads_setting isKey written (by decide) ⟨_, _, rfl, by decide⟩
  have check (group : String × List Member) (opened : List (String × List Member)) :
      declaration.Reads (group :: opened)
        (["enabled?: boolean"] ++ ["strategy?: " ++ strategies])
        [setting "enabled?" "boolean", setting "strategy?" strategies] :=
    (reads_setting (by decide) (by decide) (by decide) ⟨_, _, rfl, by decide⟩).append
      (reads_setting (by decide) (by decide) (by decide) ⟨_, _, rfl, by decide⟩)
  have interface : declaration.Reads [] _ [.group "Settings" settingsMembers] :=
    reads_interface (by decide) fun before =>
      (text _ "prismaClientContextField?: string" _ (by decide) (by decide)).append
        ((text _ "prismaClientImportId?: string" _ (by decide) (by decide)).append
          (regular.reads_group (by decide) closing fun _ =>
            regular.reads_group (by decide) closing fun _ => check _ _))
  have written : settingsLines =
      Source.block ("export interface " ++ "Settings" ++ " \x7b")
        (["prismaClientContextField?: string"] ++ (["prismaClientImportId?: string"] ++
          Source.block ("checks?" ++ ": \x7b")
            (Source.block ("PrismaClientOnContext?" ++ ": \x7b")
              (["enabled?: boolean"] ++ ["strategy?: " ++ strategies]) "\x7d") "\x7d")) "\x7d" ++
        ([""] ++
          ["export declare const " ++ "$settings" ++ ": " ++ "(settings: Settings) => void"]) := by
    simp only [strategies, String.reduceAppend]
    rfl
  rw [written]
  exact interface.append (reads_blank.append (reads_binding (by decide) (by decide)))

theorem declaration_reads_header :
    declaration.Reads []
      [Module.banner, "import type * as NexusCore from " ++ Source.literal "nexus/dist/core", ""]
      [] := by
  have package := (declaration_regular.shows_literal "nexus/dist/core").unbroken
  have banner : declaration.Reads [] [Module.banner] [] :=
    Dialect.reads_silent (by decide) fun _ => rfl
  have core : declaration.Reads []
      ["import type * as NexusCore from " ++ Source.literal "nexus/dist/core"] [] :=
    Dialect.reads_silent (by simp [package]) fun members => by
      rw [String.toList_append]
      rfl
  exact banner.append (core.append reads_blank)

end GraphBinding.Outline
