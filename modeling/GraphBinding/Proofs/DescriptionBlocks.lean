import GraphBinding.Schema
import Mathlib.Data.List.Infix

namespace GraphBinding

/-! Block strings of schema language.

A description is written as it stands between two lines of quotes.  A reader ends the block string
at the first quotes in it that no backslash escapes, and these are the ones of the last line if
and only if the text has none.
-/

namespace Sdl

/-- What a reader finds in a text. -/
inductive Piece where
  /-- A character that is in no block string. -/
  | code (character : Char)
  /-- What stands between the quotes of a block string. -/
  | block (content : List Char)
  /-- A block string that the text does not end. -/
  | unclosed (content : List Char)
deriving DecidableEq

/-- Quotes begin and end a block string, in which a backslash before the quotes makes them a part
of it.  The block string begun so far is given backwards. -/
def read : Option (List Char) → List Char → List Piece
  | none, [] => []
  | none, '"' :: '"' :: '"' :: rest => read (some []) rest
  | none, c :: rest => .code c :: read none rest
  | some content, [] => [.unclosed content.reverse]
  | some content, '\\' :: '"' :: '"' :: '"' :: rest =>
      read (some ('"' :: '"' :: '"' :: '\\' :: content)) rest
  | some content, '"' :: '"' :: '"' :: rest => .block content.reverse :: read none rest
  | some content, c :: rest => read (some (c :: content)) rest

/-- Whether a text, in a block string, ends it. -/
def endsBlock : List Char → Bool
  | [] => false
  | '\\' :: '"' :: '"' :: '"' :: rest => endsBlock rest
  | '"' :: '"' :: '"' :: _ => true
  | _ :: rest => endsBlock rest

/-- A text is read as some pieces, whatever follows it. -/
def ReadsAs (text : List Char) (pieces : List Piece) : Prop :=
  ∀ rest, read none (text ++ rest) = pieces ++ read none rest

end Sdl

/-- A character that has no part in what occurs, so that it occurs on either side of it. -/
structure Splits (apart : Char → Prop) (occurs : List Char → Prop) : Prop where
  nil : ¬ occurs []
  append : ∀ {c} first rest, apart c → (occurs (first ++ c :: rest) ↔ occurs first ∨ occurs rest)

theorem prefix_append_cons {pattern text rest : List Char} {c : Char} (apart : c ∉ pattern) :
    pattern <+: text ++ c :: rest ↔ pattern <+: text := by
  induction pattern generalizing text with
  | nil => simp
  | cons first later ih =>
      rw [List.mem_cons, not_or] at apart
      cases text with
      | nil => simp [Ne.symm apart.1]
      | cons head tail =>
          rw [List.cons_append, List.cons_prefix_cons, List.cons_prefix_cons, ih apart.2]

theorem append_cons_ne (pattern : List Char) {text rest : List Char} {c : Char}
    (apart : c ∉ pattern) (none : ∀ after, text ≠ pattern ++ after) (after : List Char) :
    text ++ c :: rest ≠ pattern ++ after := by
  intro same
  obtain ⟨left, whole⟩ := (prefix_append_cons apart).1 ⟨after, same.symm⟩
  exact none left whole.symm

theorem infix_append_cons {pattern first rest : List Char} {c : Char} (nonempty : pattern ≠ [])
    (apart : c ∉ pattern) :
    pattern <:+: first ++ c :: rest ↔ pattern <:+: first ∨ pattern <:+: rest := by
  induction first with
  | nil =>
      have none : ¬ pattern <+: [] ++ c :: rest := by
        rwa [prefix_append_cons apart, List.prefix_nil]
      rw [List.nil_append] at none ⊢
      rw [List.infix_nil, or_iff_right nonempty, List.infix_cons_iff, or_iff_right none]
  | cons head tail ih =>
      rw [List.cons_append, List.infix_cons_iff, List.infix_cons_iff, ih, or_assoc,
        ← List.cons_append, prefix_append_cons apart]

namespace Splits

variable {apart : Char → Prop} {occurs : List Char → Prop}

theorem indented (splits : Splits apart occurs) {indent line : List Char}
    (blank : ∀ c ∈ indent, apart c) : occurs (indent ++ line) ↔ occurs line := by
  induction indent with
  | nil => rfl
  | cons c rest ih =>
      rw [List.forall_mem_cons] at blank
      have first := splits.append [] (rest ++ line) blank.1
      rw [List.nil_append] at first
      rw [List.cons_append, first, or_iff_right splits.nil, ih blank.2]

theorem endedLine (splits : Splits apart occurs) (ended : apart '\r') (line : List Char) :
    occurs (Text.endedLine line) ↔ occurs line.reverse := by
  unfold Text.endedLine
  split
  · rename_i before
    rw [List.reverse_cons, splits.append _ _ ended, or_iff_left splits.nil]
  · rfl

theorem linesFrom (splits : Splits apart occurs) (returned : apart '\r') (ended : apart '\n')
    (current text : List Char) :
    (∃ line ∈ Text.linesFrom current text, occurs line) ↔ occurs (current.reverse ++ text) := by
  fun_induction Text.linesFrom current text with
  | case1 current empty =>
      rw [List.isEmpty_iff.1 empty]
      simp [splits.nil]
  | case2 current filled => simp
  | case3 current rest ih =>
      rw [List.exists_mem_cons_iff, splits.endedLine returned, ih, splits.append _ _ ended,
        List.reverse_nil, List.nil_append]
  | case4 current c rest other ih =>
      rw [ih, List.reverse_cons, List.append_assoc, List.singleton_append]

theorem lines (splits : Splits apart occurs) (returned : apart '\r') (ended : apart '\n')
    (text : String) :
    (∃ line ∈ Text.lines text, occurs line.toList) ↔ occurs text.toList := by
  rw [← List.nil_append text.toList, ← List.reverse_nil, ← splits.linesFrom returned ended,
    Text.lines]
  simp [List.mem_map]

end Splits

namespace Sdl

theorem splits_quotes : Splits (· ≠ '"') (quotes.toList <:+: ·) where
  nil := by decide
  append _ _ apart := infix_append_cons (by decide) (by simpa [quotes] using apart)

theorem endsBlock_cons {c : Char} {text : List Char} (plain : c ≠ '"' ∧ c ≠ '\\') :
    endsBlock (c :: text) = endsBlock text := by
  rw [endsBlock]
  · exact fun _ escape => absurd escape plain.2
  · exact fun _ ends => absurd ends plain.1

theorem splits_endsBlock : Splits (fun c => c ≠ '"' ∧ c ≠ '\\') (endsBlock · = true) where
  nil := by decide
  append {c} first rest plain := by
    fun_induction endsBlock first with
    | case1 => simp [endsBlock_cons plain]
    | case2 later ih => simpa [endsBlock] using ih
    | case3 later => simp [endsBlock]
    | case4 head later noEscape noEnd ih =>
        rw [List.cons_append, endsBlock, ih]
        · exact fun after escape => append_cons_ne ['"', '"', '"'] (by simp [plain])
            (fun after => noEscape after escape) after
        · exact fun after ends => append_cons_ne ['"', '"'] (by simp [plain])
            (fun after => noEnd after ends) after

theorem quotes_of_endsBlock {text : List Char} (ends : endsBlock text = true) :
    quotes.toList <:+: text := by
  fun_induction endsBlock text with
  | case1 => cases ends
  | case2 later ih => exact (ih ends).trans (List.suffix_append ['\\', '"', '"', '"'] later).isInfix
  | case3 later => exact (List.prefix_append ['"', '"', '"'] later).isInfix
  | case4 head later noEscape noEnd ih =>
      exact (ih ends).trans (List.suffix_cons head later).isInfix

section

variable {text : List Char}

theorem read_code (unquoted : '"' ∉ text) : ReadsAs text (text.map .code) := by
  intro rest
  induction text with
  | nil => rfl
  | cons c later ih =>
      rw [List.mem_cons, not_or] at unquoted
      rw [List.cons_append, read, ih unquoted.2, List.map_cons, List.cons_append]
      exact fun _ quoted => absurd quoted.symm unquoted.1

theorem read_plain {content rest : List Char} (plain : ∀ c ∈ text, c ≠ '"' ∧ c ≠ '\\') :
    read (some content) (text ++ rest) = read (some (text.reverse ++ content)) rest := by
  induction text generalizing content with
  | nil => rfl
  | cons c later ih =>
      rw [List.forall_mem_cons] at plain
      rw [List.cons_append, read, ih plain.2, List.reverse_cons, List.append_assoc,
        List.singleton_append]
      · exact fun _ escape => absurd escape plain.1.2
      · exact fun _ ends => absurd ends plain.1.1

theorem read_next {content later rest : List Char} {head c : Char} (plain : c ≠ '"' ∧ c ≠ '\\')
    (noEscape : ∀ after, head = '\\' → later = '"' :: '"' :: '"' :: after → False)
    (noEnd : ∀ after, head = '"' → later = '"' :: '"' :: after → False) :
    read (some content) (head :: (later ++ c :: rest)) =
      read (some (head :: content)) (later ++ c :: rest) := by
  rw [read]
  · exact fun after escape => append_cons_ne ['"', '"', '"'] (by simp [plain])
      (fun after => noEscape after escape) after
  · exact fun after ends => append_cons_ne ['"', '"'] (by simp [plain])
      (fun after => noEnd after ends) after

theorem read_still {content rest : List Char} {c : Char} (plain : c ≠ '"' ∧ c ≠ '\\')
    (still : endsBlock text = false) :
    read (some content) (text ++ c :: rest) =
      read (some (c :: (text.reverse ++ content))) rest := by
  fun_induction endsBlock text generalizing content with
  | case1 =>
      have alone : ∀ d ∈ [c], d ≠ '"' ∧ d ≠ '\\' := by simpa using plain
      exact read_plain alone
  | case2 later ih =>
      rw [List.cons_append, List.cons_append, List.cons_append, List.cons_append, read, ih still]
      simp
  | case3 later => cases still
  | case4 head later noEscape noEnd ih =>
      rw [List.cons_append, read_next plain noEscape noEnd, ih still]
      simp

/-- A text that ends the block string leaves less than itself in it. -/
theorem read_ends {content : List Char} {c : Char} (plain : c ≠ '"' ∧ c ≠ '\\')
    (ends : endsBlock text = true) (rest : List Char) :
    ∃ before after, read (some content) (text ++ c :: rest) =
        .block (content.reverse ++ before) :: after ∧ before.length < text.length := by
  fun_induction endsBlock text generalizing content with
  | case1 => cases ends
  | case2 later ih =>
      obtain ⟨before, after, reads, shorter⟩ := ih ends
      refine ⟨'\\' :: '"' :: '"' :: '"' :: before, after, ?_, by simpa using shorter⟩
      rw [List.cons_append, List.cons_append, List.cons_append, List.cons_append, read, reads]
      simp
  | case3 later => exact ⟨[], read none (later ++ c :: rest), by simp [read], by simp⟩
  | case4 head later noEscape noEnd ih =>
      obtain ⟨before, after, reads, shorter⟩ := ih ends
      refine ⟨head :: before, after, ?_, by simpa using shorter⟩
      rw [List.cons_append, read_next plain noEscape noEnd, reads]
      simp

end

def ended (lines : List (List Char)) : List Char := lines.flatMap (· ++ ['\n'])

theorem ended_cons (line : List Char) (lines : List (List Char)) (rest : List Char) :
    ended (line :: lines) ++ rest = line ++ '\n' :: (ended lines ++ rest) := by
  simp [ended]

theorem read_ended_still {lines : List (List Char)} {content rest : List Char}
    (still : ∀ line ∈ lines, endsBlock line = false) :
    read (some content) (ended lines ++ rest) =
      read (some ((ended lines).reverse ++ content)) rest := by
  induction lines generalizing content with
  | nil => rfl
  | cons line later ih =>
      rw [List.forall_mem_cons] at still
      rw [ended_cons, read_still (by decide) still.1, ih still.2]
      simp [ended]

theorem read_ended_ends {lines : List (List Char)}
    (ends : ∃ line ∈ lines, endsBlock line = true) (content rest : List Char) :
    ∃ before after, read (some content) (ended lines ++ rest) =
        .block (content.reverse ++ before) :: after ∧ before.length < (ended lines).length := by
  induction lines generalizing content with
  | nil => simp at ends
  | cons line later ih =>
      rw [ended_cons]
      cases first : endsBlock line with
      | true =>
          have plain : '\n' ≠ '"' ∧ '\n' ≠ '\\' := by decide
          obtain ⟨before, after, reads, shorter⟩ := read_ends plain first (ended later ++ rest)
          exact ⟨before, after, reads, by simp [ended]; omega⟩
      | false =>
          rw [List.exists_mem_cons_iff, first, or_iff_right Bool.false_ne_true] at ends
          obtain ⟨before, after, reads, shorter⟩ := ih ends ('\n' :: (line.reverse ++ content))
          refine ⟨line ++ '\n' :: before, after, ?_, ?_⟩
          · rw [read_still (by decide) first, reads]
            simp
          · simp only [ended, List.flatMap_cons, List.length_append, List.length_cons] at shorter ⊢
            omega

/-- A part of a text: characters as they are, or a description at an indentation. -/
inductive Part where
  | plain (text : List Char)
  | described (indent text : String)

namespace Part

/-- The lines between the quotes of a description. -/
def lines (indent text : String) : List (List Char) :=
  (Text.lines text).map fun line => indent.toList ++ line.toList

def written : Part → List Char
  | plain text => text
  | described indent text => ended ((description indent (some text)).map String.toList)

/-- What the part should be read as: for a description, one block string that ends where its last
line has quotes. -/
def pieces : Part → List Piece
  | plain text => text.map .code
  | described indent text =>
      indent.toList.map .code ++
        [.block (ended ([] :: lines indent text) ++ indent.toList), .code '\n']

/-- There are quotes around descriptions only. -/
def Unquoted : Part → Prop
  | plain text => '"' ∉ text
  | described indent _ => ∀ c ∈ indent.toList, c ≠ '"' ∧ c ≠ '\\'

/-- No quotes of the description end its block string. -/
def Closed : Part → Prop
  | plain _ => True
  | described _ text => endsBlock text.toList = false

instance : DecidablePred Unquoted
  | plain text => inferInstanceAs (Decidable ('"' ∉ text))
  | described indent _ => List.decidableBAll (fun c => c ≠ '"' ∧ c ≠ '\\') indent.toList

instance : DecidablePred Closed
  | plain _ => inferInstanceAs (Decidable True)
  | described _ text => inferInstanceAs (Decidable (endsBlock text.toList = false))

variable {indent text : String}

theorem read_described (unquoted : (described indent text).Unquoted) (rest : List Char) :
    read none ((described indent text).written ++ rest) =
      indent.toList.map .code ++ read (some []) (ended ([] :: lines indent text) ++
        (indent.toList ++ '"' :: '"' :: '"' :: '\n' :: rest)) := by
  have outside : '"' ∉ indent.toList := fun quoted => (unquoted _ quoted).1 rfl
  have shape : (described indent text).written ++ rest =
      indent.toList ++ ('"' :: '"' :: '"' :: (ended ([] :: lines indent text) ++
        (indent.toList ++ '"' :: '"' :: '"' :: '\n' :: rest))) := by
    simp [written, description, lines, ended, quotes, List.flatMap_append, List.flatMap_map]
  rw [shape, read_code outside, read]

theorem exists_ends (unquoted : (described indent text).Unquoted) :
    (∃ line ∈ [] :: lines indent text, endsBlock line = true) ↔ endsBlock text.toList = true := by
  rw [List.exists_mem_cons_iff, or_iff_right splits_endsBlock.nil,
    ← splits_endsBlock.lines (by decide) (by decide) text]
  simp only [lines, List.mem_map, exists_exists_and_eq_and, splits_endsBlock.indented unquoted]

theorem reads {part : Part} (unquoted : part.Unquoted) (closed : part.Closed) :
    ReadsAs part.written part.pieces := by
  cases part with
  | plain text => exact read_code unquoted
  | described indent text =>
      intro rest
      have still : ∀ line ∈ [] :: lines indent text, endsBlock line = false := by
        intro line member
        rw [← Bool.not_eq_true]
        intro ends
        have inText := (exists_ends unquoted).1 ⟨line, member, ends⟩
        rw [show endsBlock text.toList = false from closed] at inText
        cases inText
      rw [read_described unquoted, read_ended_still still, read_plain unquoted, read, read]
      · simp [pieces]
      · simp

theorem closed_of_reads {part : Part} (unquoted : part.Unquoted) {written : List Char}
    {pieces : List Piece} (reads : read none (part.written ++ written) = part.pieces ++ pieces) :
    part.Closed := by
  cases part with
  | plain text => trivial
  | described indent text =>
      rw [Closed, ← Bool.not_eq_true]
      intro ends
      obtain ⟨before, after, cut, shorter⟩ := read_ended_ends ((exists_ends unquoted).2 ends)
        [] (indent.toList ++ '"' :: '"' :: '"' :: '\n' :: written)
      rw [read_described unquoted, cut, Part.pieces, List.append_assoc,
        List.append_cancel_left_eq] at reads
      obtain rfl : before = ended ([] :: lines indent text) ++ indent.toList :=
        Piece.block.inj (List.cons.inj reads).1
      rw [List.length_append] at shorter
      omega

end Part

theorem readsAs_iff_closed {parts : List Part} (unquoted : ∀ part ∈ parts, part.Unquoted) :
    ReadsAs (parts.flatMap Part.written) (parts.flatMap Part.pieces) ↔
      ∀ part ∈ parts, part.Closed := by
  induction parts with
  | nil => exact iff_of_true (fun _ => rfl) (List.forall_mem_nil _)
  | cons part later ih =>
      rw [List.forall_mem_cons] at unquoted ⊢
      rw [← ih unquoted.2, List.flatMap_cons, List.flatMap_cons]
      constructor
      · intro all
        have reads := fun rest => all rest
        simp only [List.append_assoc] at reads
        have closed := Part.closed_of_reads unquoted.1 (reads [])
        refine ⟨closed, fun rest => ?_⟩
        have again := reads rest
        rwa [Part.reads unquoted.1 closed, List.append_cancel_left_eq] at again
      · rintro ⟨closed, others⟩ rest
        rw [List.append_assoc, List.append_assoc, Part.reads unquoted.1 closed, others]

def descriptionParts (indent : String) (text : Option String) : List Part :=
  text.toList.map (.described indent)

def declarationParts (text : Option String) (heading : String)
    (items : List (Option String × String)) : List Part :=
  descriptionParts "" text ++ .plain (heading ++ " \x7b\n").toList ::
    items.flatMap (fun (text, line) =>
      descriptionParts "  " text ++ [.plain (line ++ "\n").toList]) ++
    [.plain ['\x7d']]

theorem written_descriptionParts (indent : String) (text : Option String) :
    (descriptionParts indent text).flatMap Part.written =
      ended ((description indent text).map String.toList) := by
  cases text with
  | none => rfl
  | some text => simp [descriptionParts, Part.written]

theorem intercalate_concat (lines : List (List Char)) (last : List Char) :
    ['\n'].intercalate (lines ++ [last]) = ended lines ++ last := by
  induction lines with
  | nil => simp [ended]
  | cons line later ih =>
      obtain ⟨next, others, shape⟩ := List.exists_cons_of_ne_nil
        (List.append_ne_nil_of_right_ne_nil later (List.cons_ne_nil last []))
      rw [List.cons_append, shape, List.intercalate_cons_cons, ← shape, ih, ended_cons,
        List.append_assoc, List.singleton_append]

theorem toList_declaration (text : Option String) (heading : String)
    (items : List (Option String × String)) :
    (declaration text heading (items.flatMap fun (text, line) =>
        description "  " text ++ [line])).toList =
      (declarationParts text heading items).flatMap Part.written := by
  have body : (items.flatMap fun (text, line) => descriptionParts "  " text ++
        [.plain (line ++ "\n").toList]).flatMap Part.written =
      ended ((items.flatMap fun (text, line) => description "  " text ++ [line]).map
        String.toList) := by
    rw [List.flatMap_assoc, List.map_flatMap, ended, List.flatMap_assoc]
    refine List.flatMap_congr fun (text, line) _ => ?_
    rw [List.flatMap_append, written_descriptionParts, List.map_append, List.flatMap_append]
    simp [ended, Part.written]
  have lines : "\n".toList = ['\n'] := rfl
  rw [declaration, String.toList_intercalate, lines, List.map_append, List.map_singleton,
    intercalate_concat, declarationParts, List.flatMap_append, List.flatMap_append,
    List.flatMap_cons, body, written_descriptionParts]
  simp [ended, Part.written]

theorem flatMap_intercalate {α β : Type} (expand : α → List β) (between : List α)
    (blocks : List (List α)) :
    (between.intercalate blocks).flatMap expand =
      (between.flatMap expand).intercalate (blocks.map (·.flatMap expand)) := by
  induction blocks with
  | nil => rfl
  | cons block later ih =>
      cases later with
      | nil => simp
      | cons next others =>
          rw [List.intercalate_cons_cons, List.flatMap_append, List.flatMap_append, ih]
          simp only [List.map_cons, List.intercalate_cons_cons]

end Sdl

def InputType.parts (type : InputType) : List Sdl.Part :=
  Sdl.declarationParts type.description ("input " ++ type.name) (type.fields.values.map fun field =>
    (field.description, "  " ++ field.name ++ ": " ++ field.type.sdl))

def EnumType.parts (type : EnumType) : List Sdl.Part :=
  Sdl.declarationParts type.description ("enum " ++ type.name)
    (type.members.map fun member => (none, "  " ++ member))

def ObjectType.parts (type : ObjectType) : List Sdl.Part :=
  Sdl.declarationParts type.description ("type " ++ type.name) (type.fields.map fun field =>
    (field.description,
      "  " ++ field.name ++ ObjectType.argumentsSdl field.arguments ++ ": " ++ field.type.sdl))

def Schema.parts (schema : Schema) : List Sdl.Part :=
  [Sdl.Part.plain ['\n', '\n']].intercalate
    (schema.graph.enums.values.map (·.type.parts) ++
      schema.catalog.enums.values.map EnumType.parts ++
      schema.graph.objects.map ObjectType.parts ++
      schema.catalog.inputs.values.map InputType.parts) ++
    [.plain ['\n']]

theorem InputType.toList_sdl (type : InputType) :
    type.sdl.toList = type.parts.flatMap Sdl.Part.written := by
  rw [parts, ← Sdl.toList_declaration, List.flatMap_map, sdl]

theorem EnumType.toList_sdl (type : EnumType) :
    type.sdl.toList = type.parts.flatMap Sdl.Part.written := by
  rw [parts, ← Sdl.toList_declaration, List.flatMap_map, sdl, List.map_eq_flatMap]
  rfl

theorem ObjectType.toList_sdl (type : ObjectType) :
    type.sdl.toList = type.parts.flatMap Sdl.Part.written := by
  rw [parts, ← Sdl.toList_declaration, List.flatMap_map, sdl]

theorem Schema.toList_sdl (schema : Schema) :
    schema.sdl.toList = schema.parts.flatMap Sdl.Part.written := by
  rw [parts, List.flatMap_append, Sdl.flatMap_intercalate, sdl, String.toList_append,
    String.toList_intercalate]
  simp only [List.map_append, List.map_map, Function.comp_def, EnumType.toList_sdl,
    ObjectType.toList_sdl, InputType.toList_sdl]
  rfl

/-- Texts that hold descriptions: the lines of a single one, and the types that have them. -/
inductive Sdl.Written : String → List Sdl.Part → Prop
  | description (indent text : String) :
      Written (String.join ((Sdl.description indent (some text)).map (· ++ "\n")))
        [.described indent text]
  | input (type : InputType) : Written type.sdl type.parts
  | enum (type : EnumType) : Written type.sdl type.parts
  | object (type : ObjectType) : Written type.sdl type.parts
  | schema (schema : Schema) : Written schema.sdl schema.parts

theorem Sdl.Written.toList {sdl : String} {parts : List Sdl.Part}
    (written : Sdl.Written sdl parts) : sdl.toList = parts.flatMap Sdl.Part.written := by
  cases written with
  | description indent text =>
      simp [Sdl.Part.written, Sdl.ended, String.toList_join, List.flatMap_map]
  | input type => exact type.toList_sdl
  | enum type => exact type.toList_sdl
  | object type => exact type.toList_sdl
  | schema schema => exact schema.toList_sdl

/-- A description is one block string that ends at its last line, and what is around it is read
as it stands, if and only if no quotes of the text end the block string.  Between the first and
the last line there are quotes if and only if the text has any, and without any it ends nothing. -/
theorem descriptions_end_in_place_iff {sdl : String} {parts : List Sdl.Part}
    (written : Sdl.Written sdl parts) (unquoted : ∀ part ∈ parts, part.Unquoted) :
    (Sdl.ReadsAs sdl.toList (parts.flatMap Sdl.Part.pieces) ↔ ∀ part ∈ parts, part.Closed) ∧
      ∀ indent text, .described indent text ∈ parts →
        ((∀ line ∈ (Sdl.description indent (some text)).tail.dropLast,
            ¬ Sdl.quotes.toList <:+: line.toList) ↔ ¬ Sdl.quotes.toList <:+: text.toList) ∧
          (¬ Sdl.quotes.toList <:+: text.toList → Sdl.endsBlock text.toList = false) := by
  constructor
  · rw [written.toList]
    exact Sdl.readsAs_iff_closed unquoted
  · intro indent text member
    have blank : ∀ c ∈ indent.toList, c ≠ '"' := fun c ofIndent =>
      (unquoted _ member c ofIndent).1
    have inner : (Sdl.description indent (some text)).tail.dropLast =
        (Text.lines text).map (indent ++ ·) := by
      simp [Sdl.description]
    constructor
    · rw [inner, ← Sdl.splits_quotes.lines (by decide) (by decide) text]
      simp [Sdl.splits_quotes.indented blank]
    · intro absent
      rw [← Bool.not_eq_true]
      exact fun ends => absent (Sdl.quotes_of_endsBlock ends)

/-- Quotes that a backslash escapes, and others of which no line has three in a row. -/
def escapedRole : EnumType where
  name := "Role"
  description := some "As \\\"\"\" or \"\"\n\""
  members := ["ADMIN"]

theorem descriptions_end_in_place_escaped :
    Sdl.Written escapedRole.sdl escapedRole.parts ∧
      (∀ part ∈ escapedRole.parts, part.Unquoted) ∧
      Sdl.ReadsAs escapedRole.sdl.toList (escapedRole.parts.flatMap Sdl.Part.pieces) := by
  have unquoted : ∀ part ∈ escapedRole.parts, part.Unquoted := by decide +kernel
  have closed : ∀ part ∈ escapedRole.parts, part.Closed := by decide +kernel
  exact ⟨.enum escapedRole, unquoted,
    (descriptions_end_in_place_iff (.enum escapedRole) unquoted).1.2 closed⟩

def quotedRole : EnumType where
  name := "Role"
  description := some "Written \"\"\" here."
  members := ["ADMIN"]

/-- The enum is read as a part of a second block string. -/
theorem quotedRole_ends_early :
    (∃ line ∈ (Sdl.description "" quotedRole.description).tail.dropLast,
        Sdl.quotes.toList <:+: line.toList) ∧
      Sdl.read none quotedRole.sdl.toList =
        .block "\nWritten ".toList :: " here.\n".toList.map .code ++
          [.unclosed "\nenum Role \x7b\n  ADMIN\n\x7d".toList] ∧
      ¬ Sdl.ReadsAs quotedRole.sdl.toList (quotedRole.parts.flatMap Sdl.Part.pieces) := by
  refine ⟨by decide +kernel, by decide +kernel, fun reads => ?_⟩
  have alone := reads []
  rw [List.append_nil] at alone
  exact absurd alone (by decide +kernel)

end GraphBinding
