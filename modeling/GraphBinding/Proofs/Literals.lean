import GraphBinding.Json.Parser
import GraphBinding.Module.Script

namespace GraphBinding.Json

/-! What is printed as JSON stands on one line, and a printed string is read back as it was. -/

/-- No control character stands among the characters. -/
def Unbroken (text : List Char) : Prop := ∀ c ∈ text, 0x20 ≤ c.toNat

theorem unbroken_append {first last : List Char} :
    Unbroken (first ++ last) ↔ Unbroken first ∧ Unbroken last :=
  List.forall_mem_append

theorem unbroken_cons {c : Char} {rest : List Char} :
    Unbroken (c :: rest) ↔ 0x20 ≤ c.toNat ∧ Unbroken rest :=
  List.forall_mem_cons

theorem unbroken_nil : Unbroken [] := fun _ mem => nomatch mem

theorem Unbroken.newline_not_mem {text : List Char} (unbroken : Unbroken text) : '\n' ∉ text :=
  fun mem => absurd (unbroken _ mem) (by decide)

theorem le_hexDigit (n : Nat) : 0x20 ≤ (hexDigit n).toNat := by
  have digits : ∀ m < 16, 0x20 ≤ (Nat.digitChar m).toNat := by decide
  exact digits _ (Nat.mod_lt n (by decide))

theorem unbroken_escapeChar (c : Char) : Unbroken (escapeChar c) := by
  unfold escapeChar
  repeat' split
  all_goals simp only [unbroken_cons, unbroken_nil, le_hexDigit, and_true]
  all_goals first
    | decide
    | omega

theorem unbroken_quotedChars (text : List Char) : Unbroken (quotedChars text) := by
  have quote : Unbroken ['"'] := unbroken_cons.2 ⟨by decide, unbroken_nil⟩
  refine unbroken_append.2 ⟨unbroken_cons.2 ⟨by decide, ?_⟩, quote⟩
  intro d mem
  obtain ⟨c, -, written⟩ := List.mem_flatMap.1 mem
  exact unbroken_escapeChar c d written

theorem hexUnit_control (n : Nat) (low : n < 0x20) (rest : List Char) :
    Reader.hexUnit ('0' :: '0' :: hexDigit (n / 16) :: hexDigit n :: rest) = .ok (n, rest) := by
  have digits : ∀ m < 0x20, Reader.hexValue? (hexDigit (m / 16)) = some (m / 16) ∧
      Reader.hexValue? (hexDigit m) = some (m % 16) := by decide
  obtain ⟨high, last⟩ := digits n low
  have value : ((0 * 16 + 0) * 16 + n / 16) * 16 + n % 16 = n := by omega
  simp only [Reader.hexUnit, high, last, show Reader.hexValue? '0' = some 0 from rfl, value]

theorem unicodeEscape_control (c : Char) (low : c.toNat < 0x20) (rest : List Char) :
    Reader.unicodeEscape ('0' :: '0' :: hexDigit (c.toNat / 16) :: hexDigit c.toNat :: rest) =
      .ok (c, rest) := by
  have leading : Reader.isLeadingSurrogate c.toNat = false := by
    simp [Reader.isLeadingSurrogate]; omega
  have trailing : Reader.isTrailingSurrogate c.toNat = false := by
    simp [Reader.isTrailingSurrogate]; omega
  simp only [Reader.unicodeEscape, hexUnit_control c.toNat low]
  simp [leading, trailing, Except.bind, bind, pure, Except.pure]

theorem stringBody_escapeChar (c begun : Char) (bound written rest : List Char) :
    Reader.stringBody (begun :: bound) written (escapeChar c ++ rest) =
      Reader.stringBody bound (c :: written) rest := by
  unfold escapeChar
  split
  case isTrue quote => subst quote; rfl
  split
  case isTrue backslash => subst backslash; rfl
  split
  case isTrue backspace => subst backspace; rfl
  split
  case isTrue formFeed => subst formFeed; rfl
  split
  case isTrue lineFeed => subst lineFeed; rfl
  split
  case isTrue return_ => subst return_; rfl
  split
  case isTrue tab => subst tab; rfl
  split
  case isTrue low =>
    simp only [List.cons_append, List.nil_append, Reader.stringBody, Reader.escape,
      unicodeEscape_control c low]
    rfl
  case isFalse notQuote notBackslash _ _ _ _ _ notLow =>
    simp only [List.cons_append, List.nil_append, Reader.stringBody, notQuote, notBackslash,
      notLow, if_false]

theorem stringBody_quoted (text : List Char) {bound : List Char} (room : text.length < bound.length)
    (written rest : List Char) :
    Reader.stringBody bound written (text.flatMap escapeChar ++ '"' :: rest) =
      .ok (String.ofList (written.reverse ++ text), rest) := by
  induction text generalizing bound written with
  | nil =>
    obtain ⟨begun, bound, rfl⟩ := List.exists_cons_of_length_pos room
    simp [Reader.stringBody]
  | cons c text ih =>
    obtain ⟨begun, bound, rfl⟩ := List.exists_cons_of_length_pos (Nat.zero_lt_of_lt room)
    rw [List.flatMap_cons, List.append_assoc, stringBody_escapeChar, ih (by simpa using room)]
    simp

theorem length_le_flatMap_escapeChar (text : List Char) :
    text.length ≤ (text.flatMap escapeChar).length := by
  induction text with
  | nil => exact Nat.le_refl 0
  | cons c text ih =>
    have written : 1 ≤ (escapeChar c).length := by
      unfold escapeChar
      repeat' split
      all_goals simp
    rw [List.flatMap_cons, List.length_append, List.length_cons]
    omega

theorem string_quoted (text rest : List Char) :
    Reader.string (text.flatMap escapeChar ++ '"' :: rest) = .ok (String.ofList text, rest) := by
  have room : text.length < (text.flatMap escapeChar ++ '"' :: rest).length := by
    have := length_le_flatMap_escapeChar text
    simp only [List.length_append, List.length_cons]
    omega
  exact stringBody_quoted text room [] rest

theorem exists_quotedChars_append (text rest : List Char) :
    ∃ tail, quotedChars text ++ rest = '"' :: tail ∧
      Reader.string tail = .ok (String.ofList text, rest) :=
  ⟨text.flatMap escapeChar ++ '"' :: rest, by simp [quotedChars], string_quoted text rest⟩

theorem value_quoted (room : Nat) (text rest : List Char) :
    Reader.value room (quotedChars text ++ rest) = .ok (.string (String.ofList text), rest) := by
  obtain ⟨tail, shape, body⟩ := exists_quotedChars_append text rest
  cases room <;>
    simp [shape, Reader.value, Reader.valueWith, Reader.skipBlank, Reader.isBlank, body, Except.map]

def listedChars (texts : List (List Char)) : List Char :=
  [',', ' '].intercalate (texts.map quotedChars)

theorem listedChars_cons_cons (text next : List Char) (texts : List (List Char)) :
    listedChars (text :: next :: texts) =
      quotedChars text ++ ',' :: ' ' :: listedChars (next :: texts) := by
  simp [listedChars, List.intercalate_cons_cons]

theorem unbroken_listedChars (texts : List (List Char)) : Unbroken (listedChars texts) := by
  induction texts with
  | nil => exact unbroken_nil
  | cons text texts ih =>
    cases texts with
    | nil => simpa [listedChars] using unbroken_quotedChars text
    | cons next texts =>
      rw [listedChars_cons_cons]
      exact unbroken_append.2 ⟨unbroken_quotedChars text,
        unbroken_cons.2 ⟨by decide, unbroken_cons.2 ⟨by decide, ih⟩⟩⟩

theorem exists_listedChars_append (text : List Char) (texts : List (List Char)) (rest : List Char) :
    ∃ tail, listedChars (text :: texts) ++ rest = '"' :: tail := by
  cases texts with
  | nil => exact ⟨_, rfl⟩
  | cons next texts => exact ⟨_, by rw [listedChars_cons_cons]; rfl⟩

theorem items_listed (room : Nat) (text : List Char) (texts : List (List Char)) {bound : List Char}
    (enough : texts.length < bound.length) (before : List Json) (rest : List Char) :
    Reader.items (Reader.value room) bound before (listedChars (text :: texts) ++ ']' :: rest) =
      .ok (before.reverse ++ (text :: texts).map (.string <| String.ofList ·), rest) := by
  induction texts generalizing text bound before with
  | nil =>
    obtain ⟨begun, bound, rfl⟩ := List.exists_cons_of_length_pos enough
    have single : listedChars [text] = quotedChars text := by simp [listedChars]
    simp [Reader.items, single, value_quoted, Reader.skipBlank, Reader.isBlank]
  | cons next texts ih =>
    obtain ⟨begun, bound, rfl⟩ := List.exists_cons_of_length_pos (Nat.zero_lt_of_lt enough)
    obtain ⟨tail, shape⟩ := exists_listedChars_append next texts (']' :: rest)
    have others := ih next (by simpa using enough) (.string (String.ofList text) :: before)
    rw [shape] at others
    rw [listedChars_cons_cons, List.append_assoc, List.cons_append, List.cons_append, shape]
    simp [Reader.items, value_quoted, Reader.skipBlank, Reader.isBlank, others]

theorem length_le_listedChars (texts : List (List Char)) :
    texts.length ≤ (listedChars texts).length := by
  induction texts with
  | nil => exact Nat.le_refl 0
  | cons text texts ih =>
    cases texts with
    | nil => simp [listedChars, quotedChars]
    | cons next texts =>
      rw [listedChars_cons_cons]
      simp only [List.length_append, List.length_cons] at ih ⊢
      omega

theorem value_listed (room : Nat) (texts : List (List Char)) (rest : List Char) :
    Reader.value (room + 1) ('[' :: listedChars texts ++ ']' :: rest) =
      .ok (.array (texts.map (.string <| String.ofList ·)), rest) := by
  cases texts with
  | nil => simp [listedChars, Reader.value, Reader.valueWith, Reader.arrayBody, Reader.skipBlank,
      Reader.isBlank, Except.map]
  | cons text texts =>
    have enough : texts.length < (listedChars (text :: texts) ++ ']' :: rest).length := by
      have := length_le_listedChars (text :: texts)
      simp only [List.length_append, List.length_cons] at this ⊢
      omega
    have read := items_listed room text texts enough [] rest
    obtain ⟨tail, shape⟩ := exists_listedChars_append text texts (']' :: rest)
    rw [List.cons_append]
    rw [shape] at read ⊢
    simp [Reader.value, Reader.valueWith, Reader.arrayBody, Reader.skipBlank, Reader.isBlank, read,
      Except.map]

theorem parseRaw_quoted (text : String) : parseRaw (quoted text) = .ok (.string text) := by
  have read := value_quoted nestingLimit text.toList []
  rw [List.append_nil] at read
  simp [parseRaw, quoted, read, Reader.skipBlank, bind, Except.bind, pure, Except.pure]

theorem parseRaw_listed (texts : List String) :
    parseRaw (String.ofList ('[' :: listedChars (texts.map String.toList) ++ [']'])) =
      .ok (strings texts) := by
  have read := value_listed 126 (texts.map String.toList) []
  simp only [List.map_map, Function.comp_def, String.ofList_toList] at read
  rw [parseRaw, String.toList_ofList, nestingLimit, read]
  rfl

theorem unbroken_of_digits {digits : List Char} (all : ∀ c ∈ digits, c.isDigit) :
    Unbroken digits := by
  intro c mem
  have digit := all c mem
  simp only [Char.isDigit, Bool.and_eq_true, decide_eq_true_eq] at digit
  exact Nat.le_trans (by decide) (UInt32.le_iff_toNat_le.1 digit.1)

theorem unbroken_toDigits (n : Nat) : Unbroken (Nat.toDigits 10 n) :=
  unbroken_of_digits fun _ mem => Nat.isDigit_of_mem_toDigits (by decide) (by decide) mem

theorem unbroken_integerChars (value : Int) : Unbroken (integerChars value) := by
  refine unbroken_append.2 ⟨?_, unbroken_toDigits _⟩
  split
  · exact unbroken_cons.2 ⟨by decide, unbroken_nil⟩
  · exact unbroken_nil

theorem Unbroken.take {text : List Char} (unbroken : Unbroken text) (count : Nat) :
    Unbroken (text.take count) :=
  fun c mem => unbroken c (List.mem_of_mem_take mem)

theorem Unbroken.drop {text : List Char} (unbroken : Unbroken text) (count : Nat) :
    Unbroken (text.drop count) :=
  fun c mem => unbroken c (List.mem_of_mem_drop mem)

theorem unbroken_zeros (count : Nat) : Unbroken (List.replicate count '0') := by
  intro c mem
  rw [List.eq_of_mem_replicate mem]
  decide

theorem unbroken_realChars (x : Binary64) : Unbroken (realChars x) := by
  have digits := unbroken_toDigits x.shortest.digits
  have sign (c : Char) (seen : 0x20 ≤ c.toNat) : Unbroken [c] :=
    unbroken_cons.2 ⟨seen, unbroken_nil⟩
  refine unbroken_append.2 ⟨by split <;> simp [unbroken_nil, sign], ?_⟩
  split
  · simp [unbroken_append, unbroken_cons, unbroken_nil, digits, unbroken_zeros]
  split
  · simp [unbroken_append, unbroken_cons, digits.take, digits.drop]
  split
  · simp [unbroken_append, unbroken_cons, digits, unbroken_zeros]
  · rw [unbroken_append, unbroken_append, unbroken_cons]
    refine ⟨⟨digits.take 1, ?_⟩, by decide, ?_⟩
    · split
      · exact unbroken_nil
      · exact unbroken_cons.2 ⟨by decide, digits.drop 1⟩
    · refine unbroken_append.2 ⟨?_, unbroken_toDigits _⟩
      split <;> exact sign _ (by decide)

mutual

theorem unbroken_chars (value : Json) : Unbroken value.chars := by
  cases value with
  | null => simp [chars, unbroken_cons, unbroken_nil]
  | boolean value => cases value <;> simp [chars, unbroken_cons, unbroken_nil]
  | integer value => exact unbroken_integerChars value
  | real value => exact unbroken_realChars value
  | string text => exact unbroken_quotedChars text.toList
  | array items =>
    simp [chars, unbroken_append, unbroken_cons, unbroken_nil, unbroken_itemChars items]
  | object members =>
    simp [chars, unbroken_append, unbroken_cons, unbroken_nil, unbroken_memberChars members]

theorem unbroken_itemChars (items : List Json) : Unbroken (itemChars items) := by
  match items with
  | [] => exact unbroken_nil
  | [item] => exact unbroken_chars item
  | item :: next :: rest =>
    have others := unbroken_itemChars (next :: rest)
    exact unbroken_append.2 ⟨unbroken_chars item, unbroken_cons.2 ⟨by decide, others⟩⟩

theorem unbroken_memberChars (members : List (String × Json)) : Unbroken (memberChars members) := by
  match members with
  | [] => exact unbroken_nil
  | [(name, value)] =>
    simp [memberChars, unbroken_append, unbroken_cons, unbroken_quotedChars, unbroken_chars value]
  | (name, value) :: next :: rest =>
    have others := unbroken_memberChars (next :: rest)
    simp [memberChars, unbroken_append, unbroken_cons, unbroken_quotedChars, unbroken_chars value,
      others]

end

end GraphBinding.Json
