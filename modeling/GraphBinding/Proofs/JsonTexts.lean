import GraphBinding.Proofs.Literals
import Mathlib.Data.List.DropRight

namespace GraphBinding.Json

/-! Whole values that are printed and read back.

A number would go on with the digits that follow it, so only values without numbers are read
back whatever comes after them. -/

namespace Reader

variable {room : Nat}

theorem skipBlank_cons {c : Char} (seen : isBlank c = false) (rest : List Char) :
    skipBlank (c :: rest) = c :: rest := by
  simp [skipBlank, seen]

theorem skipBlank_skipBlank (input : List Char) : skipBlank (skipBlank input) = skipBlank input :=
  List.dropWhile_idempotent _ _

theorem value_skipBlank (room : Nat) (input : List Char) :
    value room (skipBlank input) = value room input := by
  cases room <;> simp only [value, valueWith, skipBlank_skipBlank]

theorem items_skipBlank (bound : List Char) (before : List Json) (input : List Char) :
    items (value room) bound before (skipBlank input) = items (value room) bound before input := by
  cases bound with
  | nil => rfl
  | cons begun bound => simp only [items, value_skipBlank]

theorem items_comma {item : Reader Json} {input rest tail : List Char} {read : Json} {c : Char}
    (done : item input = .ok (read, ',' :: rest)) (shape : skipBlank rest = c :: tail)
    (more : c ≠ ']') (begun : Char) (bound : List Char) (before : List Json) :
    items item (begun :: bound) before input = items item bound (read :: before) (c :: tail) := by
  simp [items, done, skipBlank_cons, isBlank, shape, more]

theorem items_last {item : Reader Json} {input rest : List Char} {read : Json}
    (done : item input = .ok (read, ']' :: rest)) (begun : Char) (bound : List Char)
    (before : List Json) :
    items item (begun :: bound) before input = .ok (before.reverse ++ [read], rest) := by
  simp [items, done, skipBlank_cons, isBlank]

theorem skipBlank_of_value {input rest : List Char} {read : Json}
    (done : value room input = .ok (read, rest)) :
    ∃ c others, skipBlank input = c :: others ∧ c ≠ ']' := by
  rw [← value_skipBlank] at done
  cases shape : skipBlank input with
  | nil =>
    rw [shape] at done
    cases room <;> simp [value, valueWith, skipBlank] at done
  | cons c others =>
    refine ⟨c, others, rfl, ?_⟩
    rintro rfl
    rw [shape] at done
    cases room <;> simp [value, valueWith, skipBlank, isBlank] at done

end Reader

/-- The printed value is read back, whatever follows it. -/
def Readable (room : Nat) (value : Json) : Prop :=
  ∀ rest, Reader.value room (value.chars ++ rest) = .ok (value, rest)

namespace Readable

variable {room : Nat}

theorem string (room : Nat) (text : String) : Readable room (.string text) := by
  intro rest
  have read := value_quoted room text.toList rest
  rwa [String.ofList_toList] at read

theorem boolean (room : Nat) (value : Bool) : Readable room (.boolean value) := by
  intro rest
  cases value <;> cases room <;>
    simp [chars, Reader.value, Reader.valueWith, Reader.skipBlank, Reader.isBlank, Reader.word]

theorem itemChars_cons_cons (item next : Json) (others : List Json) :
    itemChars (item :: next :: others) = item.chars ++ ',' :: itemChars (next :: others) := rfl

theorem length_le_itemChars (items : List Json) : items.length ≤ (itemChars items).length + 1 := by
  induction items with
  | nil => exact Nat.zero_le _
  | cons item items ih =>
    cases items with
    | nil => simp
    | cons next others =>
      rw [itemChars_cons_cons]
      simp only [List.length_append, List.length_cons] at ih ⊢
      omega

theorem exists_itemChars_append (item : Json) (others : List Json) (rest : List Char) :
    ∃ following, itemChars (item :: others) ++ rest = item.chars ++ following := by
  cases others with
  | nil => exact ⟨rest, rfl⟩
  | cons next others => exact ⟨_, by rw [itemChars_cons_cons, List.append_assoc]⟩

theorem skipBlank_itemChars {item : Json} (readable : Readable room item) (others : List Json)
    (rest : List Char) :
    ∃ c tail, Reader.skipBlank (itemChars (item :: others) ++ rest) = c :: tail ∧ c ≠ ']' := by
  obtain ⟨following, shape⟩ := exists_itemChars_append item others rest
  rw [shape]
  exact Reader.skipBlank_of_value (readable following)

theorem items {item : Json} {others : List Json}
    (each : ∀ value ∈ item :: others, Readable room value) {bound : List Char}
    (enough : others.length < bound.length) (before : List Json) (rest : List Char) :
    Reader.items (Reader.value room) bound before (itemChars (item :: others) ++ ']' :: rest) =
      .ok (before.reverse ++ item :: others, rest) := by
  induction others generalizing item bound before with
  | nil =>
    obtain ⟨begun, bound, rfl⟩ := List.exists_cons_of_length_pos enough
    exact Reader.items_last (each item (by simp) (']' :: rest)) begun bound before
  | cons next others ih =>
    obtain ⟨begun, bound, rfl⟩ := List.exists_cons_of_length_pos (Nat.zero_lt_of_lt enough)
    obtain ⟨first, following⟩ := List.forall_mem_cons.1 each
    obtain ⟨c, tail, shape, more⟩ :=
      skipBlank_itemChars (following next (by simp)) others (']' :: rest)
    have read := ih following (by simpa using enough) (item :: before)
    rw [← Reader.items_skipBlank, shape] at read
    rw [itemChars_cons_cons, List.append_assoc, List.cons_append,
      Reader.items_comma (first _) shape more, read]
    simp

theorem array {items : List Json} (each : ∀ item ∈ items, Readable room item) :
    Readable (room + 1) (.array items) := by
  intro rest
  have body : Reader.arrayBody (Reader.value room) (itemChars items ++ ']' :: rest) =
      .ok (items, rest) := by
    cases items with
    | nil => rfl
    | cons item others =>
      obtain ⟨c, tail, shape, more⟩ :=
        skipBlank_itemChars (each item (by simp)) others (']' :: rest)
      have enough : others.length < (itemChars (item :: others) ++ ']' :: rest).length := by
        have := length_le_itemChars (item :: others)
        simp only [List.length_append, List.length_cons] at this ⊢
        omega
      have read := Readable.items each enough [] rest
      rw [← Reader.items_skipBlank, shape] at read
      simp only [Reader.arrayBody, shape, if_neg more, read]
      rfl
  simp [chars, Reader.value, Reader.valueWith, Reader.skipBlank_cons, Reader.isBlank, body,
    Except.map]

theorem memberChars_cons_cons (name : String) (value : Json) (next : String × Json)
    (others : List (String × Json)) :
    memberChars ((name, value) :: next :: others) =
      quotedChars name.toList ++ ':' :: value.chars ++ ',' :: memberChars (next :: others) := rfl

theorem length_le_memberChars (members : List (String × Json)) :
    members.length ≤ (memberChars members).length := by
  induction members with
  | nil => exact Nat.le_refl 0
  | cons member members ih =>
    obtain ⟨name, value⟩ := member
    cases members with
    | nil => simp [memberChars, quotedChars]
    | cons next others =>
      rw [memberChars_cons_cons]
      simp only [List.length_append, List.length_cons] at ih ⊢
      omega

theorem member {value : Json} (readable : Readable room value) (name : String) (rest : List Char) :
    ∃ tail, quotedChars name.toList ++ ':' :: (value.chars ++ rest) = '"' :: tail ∧
      Reader.member (Reader.value room) tail = .ok ((name, value), rest) := by
  obtain ⟨tail, shape, read⟩ :=
    exists_quotedChars_append name.toList (':' :: (value.chars ++ rest))
  refine ⟨tail, shape, ?_⟩
  simp [Reader.member, read, Reader.skipBlank_cons, Reader.isBlank, readable rest, bind,
    Except.bind, pure, Except.pure]

theorem members {member : String × Json} {others : List (String × Json)}
    (each : ∀ entry ∈ member :: others, Readable room entry.2) (rest : List Char) :
    ∃ tail, memberChars (member :: others) ++ '}' :: rest = '"' :: tail ∧
      ∀ bound before, others.length < bound.length →
        Reader.members (Reader.value room) bound before tail =
          .ok (before.reverse ++ member :: others, rest) := by
  obtain ⟨name, value⟩ := member
  induction others generalizing name value with
  | nil =>
    obtain ⟨tail, shape, read⟩ := Readable.member (each (name, value) (by simp)) name ('}' :: rest)
    refine ⟨tail, by simpa [memberChars] using shape, fun bound before enough => ?_⟩
    obtain ⟨begun, bound, rfl⟩ := List.exists_cons_of_length_pos enough
    simp [Reader.members, read, Reader.skipBlank_cons, Reader.isBlank]
  | cons next others ih =>
    obtain ⟨nextName, nextValue⟩ := next
    obtain ⟨first, following⟩ := List.forall_mem_cons.1 each
    obtain ⟨nextTail, nextShape, more⟩ := ih nextName nextValue following
    obtain ⟨tail, shape, read⟩ := Readable.member first name (',' :: '"' :: nextTail)
    refine ⟨tail, ?_, fun bound before enough => ?_⟩
    · rw [← shape, memberChars_cons_cons, ← nextShape]
      simp
    · obtain ⟨begun, bound, rfl⟩ := List.exists_cons_of_length_pos (Nat.zero_lt_of_lt enough)
      have next := more bound ((name, value) :: before) (by simpa using enough)
      simp [Reader.members, read, Reader.skipBlank_cons, Reader.isBlank, next]

theorem object {members : List (String × Json)}
    (each : ∀ entry ∈ members, Readable room entry.2) : Readable (room + 1) (.object members) := by
  intro rest
  have body : Reader.objectBody (Reader.value room) (memberChars members ++ '}' :: rest) =
      .ok (members, rest) := by
    cases members with
    | nil => rfl
    | cons member others =>
      obtain ⟨tail, shape, read⟩ := Readable.members each rest
      have enough : others.length < ('"' :: tail).length := by
        have := length_le_memberChars (member :: others)
        rw [← shape]
        simp only [List.length_append, List.length_cons] at this ⊢
        omega
      rw [shape]
      simp [Reader.objectBody, Reader.skipBlank_cons, Reader.isBlank, read _ _ enough]
  simp [chars, Reader.value, Reader.valueWith, Reader.skipBlank_cons, Reader.isBlank, body,
    Except.map]

end Readable

mutual

theorem collapse_of_distinctNames (value : Json) (distinct : value.DistinctNames) :
    value.collapse = value := by
  cases value with
  | array items => rw [collapse, collapseItems_of_distinctNames items distinct]
  | object members =>
    rw [collapse, collapseMembers_of_distinctNames members distinct.2,
      Entries.collapse_of_nodup distinct.1]
  | _ => rfl

theorem collapseItems_of_distinctNames (items : List Json) (distinct : DistinctNamesItems items) :
    collapseItems items = items := by
  cases items with
  | nil => rfl
  | cons item rest =>
    rw [collapseItems, collapse_of_distinctNames item distinct.1,
      collapseItems_of_distinctNames rest distinct.2]

theorem collapseMembers_of_distinctNames (members : List (String × Json))
    (distinct : DistinctNamesMembers members) : collapseMembers members = members := by
  cases members with
  | nil => rfl
  | cons member rest =>
    obtain ⟨name, value⟩ := member
    rw [collapseMembers, collapse_of_distinctNames value distinct.1,
      collapseMembers_of_distinctNames rest distinct.2]

end

theorem Readable.parseRaw_text {value : Json} (readable : Readable nestingLimit value) :
    parseRaw value.text = .ok value := by
  have read := readable []
  rw [List.append_nil] at read
  simp [parseRaw, text, read, Reader.skipBlank, bind, Except.bind, pure, Except.pure]

theorem Readable.parse_text {value : Json} (readable : Readable nestingLimit value)
    (distinct : value.DistinctNames) : parse value.text = .ok value := by
  rw [parse, readable.parseRaw_text]
  exact congrArg Except.ok (collapse_of_distinctNames value distinct)

/-- How many backslashes the text ends with. -/
def backslashes (text : List Char) : Nat := (text.reverse.takeWhile (· = '\\')).length

/-- The next character would be escaped, since its backslash is not. -/
def Escapes (text : List Char) : Prop := backslashes text % 2 = 1

theorem backslashes_append (first last : List Char) :
    backslashes (first ++ last) =
      if backslashes last = last.length then last.length + backslashes first
      else backslashes last := by
  unfold backslashes
  rw [List.reverse_append, List.takeWhile_append, List.length_reverse]
  split <;> simp

theorem escapes_append {first last : List Char} (complete : ¬ Escapes first) :
    Escapes (first ++ last) ↔ Escapes last := by
  unfold Escapes at complete ⊢
  rw [backslashes_append]
  split <;> omega

theorem hexDigit_plain (n : Nat) : hexDigit n ≠ '"' ∧ hexDigit n ≠ '\\' := by
  have digits : ∀ m < 16, Nat.digitChar m ≠ '"' ∧ Nat.digitChar m ≠ '\\' := by decide
  exact digits _ (Nat.mod_lt n (by decide))

/-- What is written for one character escapes nothing that follows it. -/
theorem not_escapes_escapeChar (c : Char) : ¬ Escapes (escapeChar c) := by
  unfold escapeChar
  repeat' split
  all_goals simp_all [Escapes, backslashes, hexDigit_plain]

theorem escapes_of_escapeChar {c : Char} {before after : List Char}
    (written : escapeChar c = before ++ '"' :: after) : Escapes before := by
  by_cases quote : c = '"'
  · subst quote
    have whole : ['\\', '"'] = before ++ '"' :: after := written
    rcases before with - | ⟨first, - | ⟨second, others⟩⟩
    · cases whole
    · cases whole
      rfl
    · simp at whole
  · have absent : '"' ∉ escapeChar c := by
      unfold escapeChar
      repeat' split
      all_goals simp_all [(hexDigit_plain _).1.symm, Ne.symm]
    exact absurd (by simp [written]) absent

theorem not_escapes_flatMap_escapeChar (text : List Char) :
    ¬ Escapes (text.flatMap escapeChar) := by
  induction text with
  | nil => simp [Escapes, backslashes]
  | cons c rest ih =>
    rw [List.flatMap_cons, escapes_append (not_escapes_escapeChar c)]
    exact ih

/-- A quote in a quoted text is always escaped. -/
theorem escapes_of_quote {text before after : List Char}
    (written : text.flatMap escapeChar = before ++ '"' :: after) : Escapes before := by
  induction text generalizing before with
  | nil => simp at written
  | cons c rest ih =>
    rw [List.flatMap_cons] at written
    rcases List.append_eq_append_iff.1 written with ⟨more, rfl, shape⟩ | ⟨more, shape, same⟩
    · exact (escapes_append (not_escapes_escapeChar c)).2 (ih shape)
    · cases more with
      | nil =>
        have bare : Escapes [] := ih same.symm
        exact absurd bare (not_escapes_flatMap_escapeChar [])
      | cons quote more =>
        obtain ⟨rfl, -⟩ := List.cons.inj same
        exact escapes_of_escapeChar shape

end GraphBinding.Json
