import GraphBinding.Proofs.Literals
import GraphBinding.Proofs.ModuleOutlines
import Mathlib.Data.List.Infix

namespace GraphBinding.Outline

/-! The values of members, read back from what either dialect writes. -/

theorem IsName.ne_of_mem {name : String} (isName : IsName name) {c mark : Char}
    (mem : c ∈ name.toList) (marks : isNameChar mark = false) : c ≠ mark := by
  rintro rfl
  simp [isName.chars c mem] at marks

theorem IsName.not_mem {name : String} (isName : IsName name) {mark : Char}
    (marks : isNameChar mark = false) : mark ∉ name.toList :=
  fun mem => isName.ne_of_mem mem marks rfl

/-- What a line inside a group may begin with, up to the colon. -/
structure IsKey (key : String) : Prop where
  head : key.toList.head?.any fun c => c ∉ [' ', '/', '?', ':', '\x7d']
  colon : ':' ∉ key.toList
  unbroken : '\n' ∉ key.toList

instance (key : String) : Decidable (IsKey key) :=
  decidable_of_iff ((key.toList.head?.any fun c => c ∉ [' ', '/', '?', ':', '\x7d']) ∧
      ':' ∉ key.toList ∧ '\n' ∉ key.toList)
    ⟨fun ⟨head, colon, unbroken⟩ => ⟨head, colon, unbroken⟩,
      fun isKey => ⟨isKey.head, isKey.colon, isKey.unbroken⟩⟩

theorem IsKey.exists_cons {key : String} (isKey : IsKey key) :
    ∃ c rest, key.toList = c :: rest ∧ ∀ mark ∈ [' ', '/', '?', ':', '\x7d'], c ≠ mark := by
  obtain ⟨c, begins, apart⟩ := (Option.any_eq_true _ _).1 isKey.head
  rw [decide_eq_true_eq] at apart
  obtain ⟨rest, shape⟩ := List.head?_eq_some_iff.1 begins
  exact ⟨c, rest, shape, fun mark mem same => apart (same ▸ mem)⟩

theorem IsName.isKey {name : String} (isName : IsName name) : IsKey name where
  head := by
    obtain ⟨c, rest, shape⟩ := List.exists_cons_of_ne_nil isName.nonempty
    have none : [' ', '/', '?', ':', '\x7d'].all (!isNameChar ·) := by decide
    have first : c ∈ name.toList := by simp [shape]
    have apart : c ∉ [' ', '/', '?', ':', '\x7d'] := by
      intro mem
      have mark : isNameChar c = false := by simpa using List.all_eq_true.1 none c mem
      exact isName.not_mem mark first
    rw [shape, List.head?_cons, Option.any_some, decide_eq_true_eq]
    exact apart
  colon := isName.not_mem (by decide)
  unbroken := isName.not_mem (by decide)

theorem takeWhile_ne {text : List Char} {mark : Char} (absent : mark ∉ text) (rest : List Char) :
    (text ++ mark :: rest).takeWhile (· ≠ mark) = text := by
  have before : ∀ c ∈ text, c ≠ mark := fun c mem same => absent (same ▸ mem)
  rw [List.takeWhile_append_of_pos (by simpa using before)]
  simp

theorem dropWhile_ne {text : List Char} {mark : Char} (absent : mark ∉ text) (rest : List Char) :
    (text ++ mark :: rest).dropWhile (· ≠ mark) = mark :: rest := by
  have before : ∀ c ∈ text, c ≠ mark := fun c mem same => absent (same ▸ mem)
  rw [List.dropWhile_append_of_pos (by simpa using before)]
  simp

theorem enclosed?_append (around : String × String) (inner : List Char) :
    enclosed? around (around.1.toList ++ (inner ++ around.2.toList)) = some inner := by
  have before : around.1.toList.isPrefixOf? (around.1.toList ++ (inner ++ around.2.toList)) =
      some (inner ++ around.2.toList) := List.isPrefixOf?_eq_some_iff_append_eq.2 rfl
  have after : around.2.toList.isSuffixOf? (inner ++ around.2.toList) = some inner :=
    List.isSuffixOf?_eq_some_iff_append_eq.2 rfl
  rw [enclosed?, before, Option.bind_some, after]

theorem enclosed?_eq_none {around : String × String} {text : List Char}
    (apart : around.1.toList.isPrefixOf? text = none) : enclosed? around text = none := by
  rw [enclosed?, apart, Option.bind_none]

theorem quotedName_single {name : String} (isName : IsName name) :
    quotedName (name.toList ++ ['\'']) = .text name := by
  have quote := isName.not_mem (show isNameChar '\'' = false by decide)
  simp only [quotedName, takeWhile_ne quote, dropWhile_ne quote, if_true, String.ofList_toList]

theorem quotedName_condition {name : String} (isName : IsName name) :
    quotedName (name.toList ++ '\'' :: condition.toList) = .guarded name := by
  have quote := isName.not_mem (show isNameChar '\'' = false by decide)
  simp only [quotedName, takeWhile_ne quote, dropWhile_ne quote, String.ofList_toList]
  rfl

namespace Dialect

/-- Helpers begin in a way that no literal does, and none of them like another. -/
structure Regular (dialect : Dialect) : Prop where
  unbroken : ∀ text ∈ [dialect.list.1, dialect.list.2, dialect.nonNull.1, dialect.nonNull.2,
    dialect.separator], '\n' ∉ text.toList
  begins : ∃ mark, mark ∉ ['"', '[', 'u', '\'', '\x7b'] ∧
    ∀ opening ∈ [dialect.list.1, dialect.nonNull.1, dialect.resolver],
      ∃ rest, opening.toList = mark :: rest
  listed : ∀ opening ∈ [dialect.nonNull.1, dialect.resolver], ∀ text,
    dialect.list.1.toList.isPrefixOf? (opening.toList ++ text) = none
  required : ∀ text,
    dialect.nonNull.1.toList.isPrefixOf? (dialect.resolver.toList ++ text) = none

/-- The text is a value. -/
structure Shows (dialect : Dialect) (text : String) (value : Value) : Prop where
  unbroken : '\n' ∉ text.toList
  head : ∃ c rest, text.toList = c :: rest ∧ c ≠ '\x7b'
  value : dialect.value text.toList = value

variable {dialect : Dialect}

theorem Regular.isPrefixOf?_eq_none (regular : dialect.Regular) {c : Char}
    (begins : c ∈ ['"', '[', 'u', '\'', '\x7b']) (rest : List Char) (opening : String)
    (helper : opening ∈ [dialect.list.1, dialect.nonNull.1, dialect.resolver]) :
    opening.toList.isPrefixOf? (c :: rest) = none := by
  obtain ⟨mark, apart, shapes⟩ := regular.begins
  obtain ⟨tail, shape⟩ := shapes opening helper
  have differ : (mark == c) = false := beq_eq_false_iff_ne.2 fun same => apart (same ▸ begins)
  simp [shape, List.isPrefixOf?, differ]

theorem valueWithin_eq_simpleValue {text : List Char}
    (list : dialect.list.1.toList.isPrefixOf? text = none)
    (nonNull : dialect.nonNull.1.toList.isPrefixOf? text = none) (depth : Nat) :
    dialect.valueWithin depth text = dialect.simpleValue text := by
  cases depth with
  | zero => rfl
  | succ depth => simp [valueWithin, enclosed?_eq_none list, enclosed?_eq_none nonNull]

theorem Regular.valueWithin_cons (regular : dialect.Regular) {c : Char}
    (begins : c ∈ ['"', '[', 'u', '\'', '\x7b']) (rest : List Char) (depth : Nat) :
    dialect.valueWithin depth (c :: rest) = dialect.simpleValue (c :: rest) :=
  valueWithin_eq_simpleValue (regular.isPrefixOf?_eq_none begins rest _ (by simp))
    (regular.isPrefixOf?_eq_none begins rest _ (by simp)) depth

theorem Regular.valueWithin_json (regular : dialect.Regular) {c : Char} (begins : c = '"' ∨ c = '[')
    {rest : List Char} {json : Json} (parsed : Json.parseRaw (String.ofList (c :: rest)) = .ok json)
    (depth : Nat) : dialect.valueWithin depth (c :: rest) = .literal json := by
  have apart : c ∈ ['"', '[', 'u', '\'', '\x7b'] := by rcases begins with rfl | rfl <;> decide
  have helper := regular.isPrefixOf?_eq_none apart rest dialect.resolver (by simp)
  have word : c :: rest ≠ "undefined".toList := by rcases begins with rfl | rfl <;> simp
  rw [regular.valueWithin_cons apart]
  rcases begins with rfl | rfl
  all_goals
    simp only [simpleValue, word, helper, parsed, Option.isSome_none, Bool.false_eq_true, if_false]
    rfl

theorem Regular.shows_literal (regular : dialect.Regular) (text : String) :
    dialect.Shows (Source.literal text) (.text text) where
  unbroken := by
    rw [Source.literal, Json.quoted, String.toList_ofList]
    exact (Json.unbroken_quotedChars text.toList).newline_not_mem
  head := ⟨'"', _, by rw [Source.literal, Json.quoted, String.toList_ofList]; rfl, by decide⟩
  value := by
    rw [Source.literal, Json.quoted, String.toList_ofList]
    exact regular.valueWithin_json (.inl rfl) (Json.parseRaw_quoted text) _

theorem Regular.shows_undefined (regular : dialect.Regular) :
    dialect.Shows "undefined" .undefined where
  unbroken := by decide
  head := ⟨'u', _, rfl, by decide⟩
  value := (regular.valueWithin_cons (by decide) _ _).trans rfl

theorem Regular.shows_optional (regular : dialect.Regular) (text : Option String) :
    dialect.Shows (Source.optionalLiteral text) (.optional text) := by
  cases text with
  | none => exact regular.shows_undefined
  | some text => exact regular.shows_literal text

theorem Regular.shows_members (regular : dialect.Regular) (members : List String) :
    dialect.Shows ("[" ++ ", ".intercalate (members.map Source.literal) ++ "]")
      (.literal (.strings members)) := by
  have written : ("[" ++ ", ".intercalate (members.map Source.literal) ++ "]").toList =
      '[' :: (Json.listedChars (members.map String.toList) ++ [']']) := by
    simp [String.toList_append, String.toList_intercalate, Json.listedChars, Source.literal,
      Json.quoted, Function.comp_def]
  have listed := (Json.unbroken_listedChars (members.map String.toList)).newline_not_mem
  constructor
  · simp [written, listed]
  · exact ⟨'[', _, written, by decide⟩
  · rw [written]
    exact regular.valueWithin_json (.inr rfl) (Json.parseRaw_listed members) _

theorem Regular.shows_resolver (regular : dialect.Regular) {text : String}
    (unbroken : '\n' ∉ text.toList)
    (calls : ∃ rest, text.toList = dialect.resolver.toList ++ rest) :
    dialect.Shows text .resolver := by
  obtain ⟨rest, written⟩ := calls
  obtain ⟨mark, apart, shapes⟩ := regular.begins
  obtain ⟨tail, shape⟩ := shapes dialect.resolver (by simp)
  have unlike : ∀ c ∈ ['"', '[', 'u', '\'', '\x7b'], mark ≠ c :=
    fun c mem same => apart (same ▸ mem)
  refine ⟨unbroken, ⟨mark, tail ++ rest, by rw [written, shape]; rfl, unlike _ (by decide)⟩, ?_⟩
  have word : mark :: (tail ++ rest) ≠ "undefined".toList :=
    fun same => unlike 'u' (by decide) (List.cons.inj same).1
  have begins : dialect.resolver.toList.isPrefixOf? (mark :: (tail ++ rest)) = some rest :=
    List.isPrefixOf?_eq_some_iff_append_eq.2 (by rw [shape]; rfl)
  rw [Dialect.value, valueWithin_eq_simpleValue]
  · rw [written, shape, List.cons_append]
    unfold simpleValue
    split
    case h_1 same => exact absurd (List.cons.inj same).1 (unlike '\'' (by decide))
    case h_2 => rw [if_neg word, begins, Option.isSome_some, if_pos rfl]
  · rw [written]
    exact regular.listed _ (by simp) rest
  · rw [written]
    exact regular.required rest

/-- How members are written so that the dialect reads them. -/
structure Writes (dialect : Dialect) (type : TypeRef → String) (property : String → String → String)
    (closing : String) : Prop where
  list (item : TypeRef) : (type (.list item)).toList =
    dialect.list.1.toList ++ ((type item).toList ++ dialect.list.2.toList)
  nonNull (nullable : TypeRef) : (type (.nonNull nullable)).toList =
    dialect.nonNull.1.toList ++ ((type nullable).toList ++ dialect.nonNull.2.toList)
  unbroken {name : String} (isName : IsName name) : '\n' ∉ (type (.named name)).toList
  head (name : String) : ∃ c rest, (type (.named name)).toList = c :: rest ∧ c ≠ '\x7b'
  named {name : String} (isName : IsName name) (depth : Nat) :
    dialect.valueWithin depth (type (.named name)).toList = .text name
  property (key text : String) : (property key text).toList =
    key.toList ++ ':' :: ' ' :: (text.toList ++ dialect.separator.toList)
  closing : closing.toList = '\x7d' :: dialect.separator.toList

section Writes

variable {write : TypeRef → String} {property : String → String → String} {closing : String}

/-- Each wrapper takes at least one character, so the length of the text is depth enough. -/
theorem Writes.valueWithin (writes : dialect.Writes write property closing)
    (regular : dialect.Regular) {type : TypeRef} (isName : IsName type.baseName) {depth : Nat}
    (enough : (write type).toList.length ≤ depth) :
    dialect.valueWithin depth (write type).toList = .ofType type := by
  obtain ⟨mark, -, shapes⟩ := regular.begins
  induction type generalizing depth with
  | named name => exact writes.named isName depth
  | list item ih =>
    obtain ⟨tail, shape⟩ := shapes dialect.list.1 (by simp)
    simp only [writes.list, shape, List.cons_append, List.length_cons, List.length_append] at enough
    obtain ⟨depth, rfl⟩ : ∃ less, depth = less + 1 := Nat.exists_eq_add_one.2 (by omega)
    rw [Dialect.valueWithin, writes.list, enclosed?_append]
    exact congrArg Value.list (ih isName (by omega))
  | nonNull nullable ih =>
    obtain ⟨tail, shape⟩ := shapes dialect.nonNull.1 (by simp)
    simp only [writes.nonNull, shape, List.cons_append, List.length_cons, List.length_append]
      at enough
    obtain ⟨depth, rfl⟩ : ∃ less, depth = less + 1 := Nat.exists_eq_add_one.2 (by omega)
    rw [Dialect.valueWithin, writes.nonNull,
      enclosed?_eq_none (regular.listed _ (by simp) _), enclosed?_append]
    exact congrArg Value.nonNull (ih isName (by omega))

theorem Writes.not_mem_type (writes : dialect.Writes write property closing)
    (regular : dialect.Regular) {type : TypeRef} (isName : IsName type.baseName) :
    '\n' ∉ (write type).toList := by
  induction type with
  | named name => exact writes.unbroken isName
  | list item ih => simp [writes.list, regular.unbroken, ih isName]
  | nonNull nullable ih => simp [writes.nonNull, regular.unbroken, ih isName]

theorem Writes.shows_type (writes : dialect.Writes write property closing)
    (regular : dialect.Regular) {type : TypeRef} (isName : IsName type.baseName) :
    dialect.Shows (write type) (.ofType type) := by
  refine ⟨writes.not_mem_type regular isName, ?_, writes.valueWithin regular isName (Nat.le_refl _)⟩
  obtain ⟨mark, apart, shapes⟩ := regular.begins
  have brace : mark ≠ '\x7b' := fun same => apart (by simp [same])
  cases type with
  | named name => exact writes.head name
  | list item =>
    obtain ⟨tail, shape⟩ := shapes dialect.list.1 (by simp)
    exact ⟨mark, _, by rw [writes.list, shape]; rfl, brace⟩
  | nonNull nullable =>
    obtain ⟨tail, shape⟩ := shapes dialect.nonNull.1 (by simp)
    exact ⟨mark, _, by rw [writes.nonNull, shape]; rfl, brace⟩

end Writes

end Dialect

end GraphBinding.Outline
