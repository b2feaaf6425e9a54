import GraphBinding.Proofs.ModuleValues

namespace GraphBinding.Outline

/-! The lines of a module, read one after the other.

What lines add does not depend on the members before them, so what is read of a module is put
together from what is read of its parts, in the order in which the module is written. -/

theorem toList_text (lines : List String) :
    (Source.text lines).toList = ['\n'].intercalate (lines.map String.toList ++ [[]]) := by
  induction lines with
  | nil => rfl
  | cons line lines ih =>
    have more : Source.text (line :: lines) = line ++ "\n" ++ Source.text lines := by
      simp [Source.text, String.join_cons]
    obtain ⟨next, others, shape⟩ := List.exists_cons_of_ne_nil
      (show lines.map String.toList ++ [[]] ≠ [] by simp)
    rw [more, String.toList_append, String.toList_append, ih, List.map_cons, List.cons_append,
      shape]
    simp [List.intercalate_cons_cons]

namespace Dialect

variable {dialect : Dialect}

theorem inside_key (dialect : Dialect) {key : String} (isKey : IsKey key) (text : List Char) :
    dialect.inside (key.toList ++ ':' :: ' ' :: text) =
      if text = ['\x7b'] then .opens key
      else
        ((dialect.separator.toList.isSuffixOf? text).map fun text =>
          Statement.holds key (dialect.value text)).getD .stray := by
  have named := takeWhile_ne isKey.colon (' ' :: text)
  have after := dropWhile_ne isKey.colon (' ' :: text)
  obtain ⟨c, rest, shape, apart⟩ := isKey.exists_cons
  have head : key.toList ++ ':' :: ' ' :: text = c :: (rest ++ ':' :: ' ' :: text) := by
    rw [shape]
    rfl
  rw [head] at named after ⊢
  have brace := apart '\x7d' (by decide)
  unfold Dialect.inside
  rw [if_neg (by simp [brace])]
  split
  case h_1 same => exact absurd (List.cons.inj same).1 (apart '?' (by decide))
  case h_2 same => exact absurd (List.cons.inj same).1 (apart ':' (by decide))
  case h_3 => simp only [named, after, String.ofList_toList]

theorem inside_opening (dialect : Dialect) {key : String} (isKey : IsKey key) :
    dialect.inside (key.toList ++ [':', ' ', '\x7b']) = .opens key := by
  rw [inside_key dialect isKey, if_pos rfl]

theorem inside_property {key text : String} {value : Value} (isKey : IsKey key)
    (shows : dialect.Shows text value) :
    dialect.inside (key.toList ++ ':' :: ' ' :: (text.toList ++ dialect.separator.toList)) =
      .holds key value := by
  obtain ⟨c, rest, shape, apart⟩ := shows.head
  have separated : dialect.separator.toList.isSuffixOf? (text.toList ++ dialect.separator.toList) =
      some text.toList := List.isSuffixOf?_eq_some_iff_append_eq.2 rfl
  rw [inside_key dialect isKey, if_neg (by simp [shape, apart]), separated]
  exact congrArg (Statement.holds key) shows.value

/-- The members that the lines add to a group, or to what stands outside of all groups. -/
structure Reads (dialect : Dialect) (opened : List (String × List Member)) (lines : List String)
    (added : List Member) : Prop where
  unbroken : ∀ line ∈ lines, '\n' ∉ line.toList
  run : ∀ members,
    lines.foldl (fun reading line => dialect.read reading line.toList) ⟨false, opened, members⟩ =
      ⟨false, opened, added.reverse ++ members⟩

variable {opened : List (String × List Member)}

theorem Reads.nil : dialect.Reads opened [] [] := ⟨by simp, fun _ => rfl⟩

theorem Reads.append {first last : List String} {before after : List Member}
    (reads : dialect.Reads opened first before) (more : dialect.Reads opened last after) :
    dialect.Reads opened (first ++ last) (before ++ after) where
  unbroken := List.forall_mem_append.2 ⟨reads.unbroken, more.unbroken⟩
  run members := by simp [List.foldl_append, reads.run, more.run]

theorem Reads.flatMap {α : Type} {items : List α} {lines : α → List String} {added : α → Member}
    (each : ∀ item ∈ items, dialect.Reads opened (lines item) [added item]) :
    dialect.Reads opened (items.flatMap lines) (items.map added) := by
  induction items with
  | nil => exact .nil
  | cons item items ih =>
    obtain ⟨head, tail⟩ := List.forall_mem_cons.1 each
    exact head.append (ih tail)

theorem Reads.map {α : Type} {items : List α} {line : α → String} {added : α → Member}
    (each : ∀ item ∈ items, dialect.Reads opened [line item] [added item]) :
    dialect.Reads opened (items.map line) (items.map added) := by
  rw [List.map_eq_flatMap]
  exact Reads.flatMap each

theorem read_of_head (dialect : Dialect) {c : Char} (blank : c ≠ ' ') (slash : c ≠ '/')
    (rest : List Char) (members : List Member) :
    dialect.read ⟨false, opened, members⟩ (c :: rest) =
      Reading.heed ⟨false, opened, members⟩ (c :: rest)
        (if opened.isEmpty then dialect.outside (c :: rest) else dialect.inside (c :: rest)) := by
  have begins : (c :: rest).dropWhile (· = ' ') = c :: rest := by simp [blank]
  have code : isBlockComment (c :: rest) = false := by
    unfold isBlockComment
    split
    case h_1 same => exact absurd (List.cons.inj same).1 slash
    case h_2 => rfl
  simp only [read, begins, code, Bool.false_eq_true, if_false]

theorem read_indentLine (dialect : Dialect) (reading : Reading) (line : String) :
    dialect.read reading (Source.indentLine line).toList = dialect.read reading line.toList := by
  have same : (Source.indentLine line).toList.dropWhile (· = ' ') =
      line.toList.dropWhile (· = ' ') := by
    unfold Source.indentLine
    split
    · rfl
    · simp
  simp only [read, same]

theorem not_mem_indentLine {line : String} (unbroken : '\n' ∉ line.toList) :
    '\n' ∉ (Source.indentLine line).toList := by
  unfold Source.indentLine
  split
  · exact unbroken
  · simpa using unbroken

/-- A block is a group if its first line opens it and its last line closes it. -/
theorem Reads.block {key opening closing : String} {body : List String} {added : List Member}
    (unbroken : '\n' ∉ opening.toList) (ended : '\n' ∉ closing.toList)
    (opens : ∀ members, dialect.read ⟨false, opened, members⟩ opening.toList =
      ⟨false, (key, members) :: opened, []⟩)
    (closes : ∀ before members,
      dialect.read ⟨false, (key, before) :: opened, members⟩ closing.toList =
        ⟨false, opened, .group key members.reverse :: before⟩)
    (reads : ∀ before, dialect.Reads ((key, before) :: opened) body added) :
    dialect.Reads opened (Source.block opening body closing) [.group key added] where
  unbroken := by
    simp only [Source.block, List.cons_append, List.forall_mem_cons, List.forall_mem_append,
      List.forall_mem_map]
    exact ⟨unbroken, fun line mem => not_mem_indentLine ((reads []).unbroken line mem), ended,
      List.forall_mem_nil _⟩
  run members := by
    simp only [Source.block, List.cons_append, List.foldl_cons, List.foldl_append, List.foldl_map,
      List.foldl_nil, read_indentLine, opens, (reads members).run, closes]
    simp

theorem reads_line {line key : String} {value : Value} {c : Char} {rest : List Char}
    (shape : line.toList = c :: rest) (blank : c ≠ ' ') (slash : c ≠ '/')
    (unbroken : '\n' ∉ line.toList)
    (stated : (if opened.isEmpty then dialect.outside line.toList else dialect.inside line.toList) =
      .holds key value) : dialect.Reads opened [line] [.value key value] where
  unbroken := by simpa using unbroken
  run members := by
    rw [List.foldl_cons, List.foldl_nil, shape, read_of_head dialect blank slash, ← shape, stated]
    rfl

theorem Regular.reads_property (regular : dialect.Regular) {group : String × List Member}
    {line key text : String} {value : Value} (isKey : IsKey key)
    (shows : dialect.Shows text value)
    (written : line.toList =
      key.toList ++ ':' :: ' ' :: (text.toList ++ dialect.separator.toList)) :
    dialect.Reads (group :: opened) [line] [.value key value] := by
  obtain ⟨c, rest, shape, apart⟩ := isKey.exists_cons
  have head : line.toList = c :: (rest ++ ':' :: ' ' ::
      (text.toList ++ dialect.separator.toList)) := by
    rw [written, shape]
    rfl
  refine reads_line head (apart ' ' (by decide)) (apart '/' (by decide)) ?_ ?_
  · simp [written, isKey.unbroken, shows.unbroken,
      regular.unbroken dialect.separator]
  · rw [written]
    exact inside_property isKey shows

theorem read_closing {group : String × List Member} {closing : List Char}
    (closes : dialect.inside ('\x7d' :: closing) = .closes) (members : List Member) :
    dialect.read ⟨false, group :: opened, members⟩ ('\x7d' :: closing) =
      ⟨false, opened, .group group.1 members.reverse :: group.2⟩ := by
  rw [read_of_head dialect (by decide) (by decide), List.isEmpty_cons, if_neg (by decide), closes]
  rfl

theorem Regular.reads_group (regular : dialect.Regular) {group : String × List Member}
    {key closing : String} {body : List String} {added : List Member} (isKey : IsKey key)
    (ended : closing.toList = '\x7d' :: dialect.separator.toList)
    (reads : ∀ before, dialect.Reads ((key, before) :: group :: opened) body added) :
    dialect.Reads (group :: opened) (Source.block (key ++ ": \x7b") body closing)
      [.group key added] := by
  obtain ⟨c, rest, shape, apart⟩ := isKey.exists_cons
  have written : (key ++ ": \x7b").toList = key.toList ++ [':', ' ', '\x7b'] := by
    rw [String.toList_append]; rfl
  refine Reads.block ?_ ?_ (fun members => ?_) (fun before members => ?_) reads
  · simp [written, isKey.unbroken]
  · simp [ended, regular.unbroken dialect.separator]
  · have opens := inside_opening dialect isKey
    rw [shape, List.cons_append] at opens
    rw [written, shape, List.cons_append,
      read_of_head dialect (apart ' ' (by decide)) (apart '/' (by decide)), List.isEmpty_cons,
      if_neg (by decide), opens]
    rfl
  · rw [ended]
    exact read_closing (if_pos (.inr rfl)) members

theorem reads_silent {line : String} (unbroken : '\n' ∉ line.toList)
    (silent : ∀ members,
      dialect.read ⟨false, opened, members⟩ line.toList = ⟨false, opened, members⟩) :
    dialect.Reads opened [line] [] where
  unbroken := by simpa using unbroken
  run members := silent members

theorem reads_exported {key opening : String} {body : List String} {added : List Member} {c : Char}
    {rest : List Char} (shape : opening.toList = c :: rest) (blank : c ≠ ' ') (slash : c ≠ '/')
    (unbroken : '\n' ∉ opening.toList) (opens : dialect.outside opening.toList = .opens key)
    (reads : ∀ before, dialect.Reads [(key, before)] body added) :
    dialect.Reads [] (Source.block opening body "\x7d") [.group key added] := by
  refine Reads.block unbroken (by decide) (fun members => ?_) (fun before members => ?_) reads
  · rw [shape, read_of_head dialect blank slash, ← shape, List.isEmpty_nil, if_pos rfl, opens]
    rfl
  · exact read_closing (if_pos (.inl rfl)) members

theorem endsComment_cons {c : Char} {rest : List Char} (apart : c = '*' → rest.head? ≠ some '/') :
    endsComment (c :: rest) = endsComment rest := by
  cases rest with
  | nil => simp [endsComment]
  | cons next rest =>
    rw [endsComment]
    rintro tail same slashes
    cases slashes
    exact apart same rfl

open DeclarationModule in
theorem head?_escapeCommentEnd (text : List Char) : (escapeCommentEnd text).head? = text.head? := by
  fun_cases escapeCommentEnd text <;> rfl

open DeclarationModule in
theorem endsComment_escapeCommentEnd (text : List Char) :
    endsComment (escapeCommentEnd text) = false := by
  fun_induction escapeCommentEnd text with
  | case1 rest ih =>
    rw [endsComment_cons (by simp), endsComment_cons (by simp), endsComment_cons (by simp), ih]
  | case2 c rest apart ih =>
    rw [endsComment_cons, ih]
    rintro rfl slash
    rw [head?_escapeCommentEnd] at slash
    obtain ⟨tail, rfl⟩ := List.head?_eq_some_iff.1 slash
    exact apart tail rfl rfl
  | case3 => rfl

open DeclarationModule in
theorem not_mem_escapeCommentEnd {text : List Char} (unbroken : '\n' ∉ text) :
    '\n' ∉ escapeCommentEnd text := by
  fun_induction escapeCommentEnd text with
  | case1 rest ih => simp_all
  | case2 c rest apart ih => simp_all
  | case3 => simp

open DeclarationModule in
/-- No line of a comment ends it before the last one does. -/
theorem read_commentLine (dialect : Dialect) (line : String) (members : List Member) :
    dialect.read ⟨true, opened, members⟩ (commentLine line).toList = ⟨true, opened, members⟩ := by
  unfold commentLine
  split
  · rfl
  · have quiet : endsComment ('*' :: ' ' :: escapeCommentEnd line.toList) = false := by
      rw [endsComment_cons (by simp), endsComment_cons (by simp), endsComment_escapeCommentEnd]
    simpa [read] using quiet

open DeclarationModule in
theorem foldl_read_commentLine (dialect : Dialect) (lines : List String) (members : List Member) :
    lines.foldl (fun reading line => dialect.read reading (commentLine line).toList)
      ⟨true, opened, members⟩ = ⟨true, opened, members⟩ := by
  induction lines with
  | nil => rfl
  | cons line lines ih => rw [List.foldl_cons, read_commentLine, ih]

open DeclarationModule in
theorem reads_comment {lines : List String} (unbroken : ∀ line ∈ lines, '\n' ∉ line.toList) :
    dialect.Reads opened (comment lines) [] := by
  unfold comment
  split
  · exact .nil
  refine ⟨?_, fun members => ?_⟩
  · simp only [List.cons_append, List.forall_mem_cons, List.forall_mem_append, List.forall_mem_map]
    refine ⟨by decide, fun line mem => ?_, by decide, List.forall_mem_nil _⟩
    unfold commentLine
    split
    · decide
    · simpa using not_mem_escapeCommentEnd (unbroken line mem)
  · have begun : dialect.read ⟨false, opened, members⟩ "/**".toList = ⟨true, opened, members⟩ := rfl
    have ended : dialect.read ⟨true, opened, members⟩ " */".toList = ⟨false, opened, members⟩ := rfl
    simp only [List.cons_append, List.foldl_cons, List.foldl_append, List.foldl_map, begun,
      foldl_read_commentLine, List.foldl_nil, ended]
    rfl

theorem Reads.members_text {lines : List String} {added : List Member}
    (reads : dialect.Reads [] lines added) (blank : dialect.outside [] = .silent) :
    dialect.members (Source.text lines) = added := by
  have unbroken : ∀ line ∈ lines.map String.toList ++ [[]], '\n' ∉ line := by
    rw [List.forall_mem_append, List.forall_mem_map]
    exact ⟨reads.unbroken, by simp⟩
  have last (members : List Member) :
      dialect.read ⟨false, [], members⟩ [] = ⟨false, [], members⟩ := by
    simp [read, isBlockComment, blank, Reading.heed]
  rw [members, toList_text, List.splitOn_intercalate _ unbroken (by simp), List.foldl_append,
    List.foldl_map, reads.run, List.foldl_cons, last]
  simp

end Dialect

namespace Dialect.Writes

variable {dialect : Dialect} {write : TypeRef → String} {property : String → String → String}
  {closing : String} {group : String × List Member} {opened : List (String × List Member)}

theorem reads_property (writes : dialect.Writes write property closing) (regular : dialect.Regular)
    {key text : String} {value : Value} (isKey : IsKey key) (shows : dialect.Shows text value) :
    dialect.Reads (group :: opened) [property key text] [.value key value] :=
  regular.reads_property isKey shows (writes.property key text)

theorem reads_typed (writes : dialect.Writes write property closing) (regular : dialect.Regular)
    {types : List (String × TypeRef)} (typed : ∀ entry ∈ types, Typed entry) :
    dialect.Reads (group :: opened) (types.map fun (name, type) => property name (write type))
      (typedMembers types) :=
  Reads.map fun entry mem =>
    have ⟨isName, isType⟩ := typed entry mem
    writes.reads_property regular isName.isKey (writes.shows_type regular isType)

theorem reads_arguments (writes : dialect.Writes write property closing) (regular : dialect.Regular)
    {arguments : Table TypeRef} (typed : ∀ entry ∈ arguments.entries, Typed entry) :
    dialect.Reads (group :: opened)
      (if arguments.isEmpty then []
      else
        Source.block ("args" ++ ": \x7b")
          (arguments.entries.map fun (name, type) => property name (write type)) closing)
      (argumentMembers arguments) := by
  unfold argumentMembers
  split
  · exact .nil
  · exact regular.reads_group (by decide) writes.closing fun _ => writes.reads_typed regular typed

theorem reads_field (writes : dialect.Writes write property closing) (regular : dialect.Regular)
    {field : OutputField} (named : FieldNamed field) {typeLines : List String} {resolver : String}
    (typed : ∀ group opened,
      dialect.Reads (group :: opened) typeLines [.value "type" (.ofType field.type)])
    (resolves : dialect.Shows resolver (if field.source.isSome then .resolver else .undefined)) :
    dialect.Reads (group :: opened)
      (Source.block (field.name ++ ": \x7b")
        (property "name" (Source.literal field.name) :: typeLines ++
          [property "description" (Source.optionalLiteral field.description)] ++
          (if field.arguments.isEmpty then []
          else
            Source.block ("args" ++ ": \x7b")
              (field.arguments.entries.map fun (name, type) => property name (write type))
              closing) ++
          [property "resolve" resolver])
        closing)
      [.group field.name (fieldMembers field)] := by
  refine regular.reads_group named.name.isKey writes.closing fun before => ?_
  have name : dialect.Reads ((field.name, before) :: group :: opened)
      [property "name" (Source.literal field.name)] [.value "name" (.text field.name)] :=
    writes.reads_property regular (by decide) (regular.shows_literal field.name)
  have description : dialect.Reads ((field.name, before) :: group :: opened)
      [property "description" (Source.optionalLiteral field.description)]
      [.value "description" (.optional field.description)] :=
    writes.reads_property regular (by decide) (regular.shows_optional field.description)
  have resolve : dialect.Reads ((field.name, before) :: group :: opened)
      [property "resolve" resolver]
      [.value "resolve" (if field.source.isSome then .resolver else .undefined)] :=
    writes.reads_property regular (by decide) resolves
  exact (((name.append (typed _ _)).append description).append
    (writes.reads_arguments regular named.arguments)).append resolve

theorem reads_enum (writes : dialect.Writes write property closing) (regular : dialect.Regular)
    (type : EnumType) :
    dialect.Reads (group :: opened)
      [property "name" (Source.literal type.name),
        property "description" (Source.optionalLiteral type.description),
        property "members" ("[" ++ ", ".intercalate (type.members.map Source.literal) ++ "]")]
      (ofEnum type).2 :=
  (writes.reads_property regular (by decide) (regular.shows_literal type.name)).append
    ((writes.reads_property regular (by decide) (regular.shows_optional type.description)).append
      (writes.reads_property regular (by decide) (regular.shows_members type.members)))

theorem reads_input (writes : dialect.Writes write property closing) (regular : dialect.Regular)
    {type : InputType} (typed : ∀ field ∈ type.fields.values, Typed (field.name, field.type)) :
    dialect.Reads (group :: opened)
      ([property "name" (Source.literal type.name),
        property "description" (Source.optionalLiteral type.description)] ++
        Source.block ("definition" ++ ": \x7b")
          (type.fields.values.map fun field => property field.name (write field.type)) closing)
      (ofInput type).2 := by
  have fields (before : List Member) :
      dialect.Reads (("definition", before) :: group :: opened)
        (type.fields.values.map fun field => property field.name (write field.type))
        (typedMembers (type.fields.values.map fun field => (field.name, field.type))) := by
    have reads := @reads_typed _ _ _ _ ("definition", before) (group :: opened) writes regular _
      (List.forall_mem_map.2 typed)
    rwa [List.map_map] at reads
  exact (writes.reads_property regular (by decide) (regular.shows_literal type.name)).append
    ((writes.reads_property regular (by decide) (regular.shows_optional type.description)).append
      (regular.reads_group (by decide) writes.closing fields))

end Dialect.Writes

end GraphBinding.Outline
