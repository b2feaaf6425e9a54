import GraphBinding.Decoder.Shape
import GraphBinding.Proofs.JsonTexts

namespace GraphBinding.Shape

open Json

/-! Printed values that are read by their shape.

Reading by shape differs from reading in full in what is looked at on the way.  Of a printed
value that has the shape nothing is lost by it. -/

/-- The printed value is read back, whatever follows it. -/
def Reads (reading : Reading Json) (value : Json) : Prop :=
  ∀ rest, reading (value.chars ++ rest) = .ok (value, rest)

theorem reads_boolean (value : Bool) : Reads readBoolean (.boolean value) := by
  intro rest
  cases value <;>
    simp [chars, readBoolean, Reader.skipBlank, Reader.isBlank, untyped, Reader.word,
      Except.mapError]

theorem reads_string (text : String) : Reads readString (.string text) := by
  intro rest
  obtain ⟨tail, shape, read⟩ := exists_quotedChars_append text.toList rest
  simp [chars, readString, shape, Reader.skipBlank, Reader.isBlank, untyped, read, Except.mapError,
    Except.map]

theorem reads_variant {options : List String} {name : String} (known : name ∈ options) :
    Reads (readVariant options) (.string name) := by
  intro rest
  obtain ⟨tail, shape, read⟩ := exists_quotedChars_append name.toList rest
  simp [chars, readVariant, shape, Reader.skipBlank, Reader.isBlank, untyped, read,
    Except.mapError, variantOf, known, bind, Except.bind, pure, Except.pure]

theorem reads_value {room : Nat} {value : Json} (readable : Readable room value) :
    Reads (untyped (Reader.value room)) value := by
  intro rest
  rw [untyped, readable rest]
  rfl

/-- What stands in front of the next member, given the members before it. -/
def separator (before : List (String × Json)) : List Char :=
  if before.isEmpty then [] else [',']

/-- The members that are still to be read, as they stand after those before them. -/
def remainingChars (before : List (String × Json)) : List (String × Json) → List Char
  | [] => []
  | members => separator before ++ memberChars members

theorem remainingChars_cons (before : List (String × Json)) (name : String) (value : Json)
    (others : List (String × Json)) :
    remainingChars before ((name, value) :: others) =
      separator before ++ (quotedChars name.toList ++
        ':' :: (value.chars ++ remainingChars ((name, value) :: before) others)) := by
  cases others with
  | nil => simp [remainingChars, memberChars]
  | cons next others => simp [remainingChars, separator, Readable.memberChars_cons_cons]

theorem readName_separator (before : List (String × Json)) (name : String) (rest : List Char) :
    readName before.isEmpty (separator before ++ (quotedChars name.toList ++ rest)) =
      .ok (some name, rest) := by
  obtain ⟨tail, shape, read⟩ := exists_quotedChars_append name.toList rest
  cases before <;>
    simp [readName, separator, shape, Reader.skipBlank, Reader.isBlank, untyped, read,
      Except.mapError, Except.map]

/-- Every member is read as it was printed, given the members before it, latest first. -/
def Follows (member : MemberReading) : List (String × Json) → List (String × Json) → Prop
  | _, [] => True
  | before, (name, value) :: rest =>
      (∃ reading, member before name = .ok reading ∧ Reads reading value) ∧
        Follows member ((name, value) :: before) rest

theorem readMembers_step {member : MemberReading} {before : List (String × Json)} {name : String}
    {value : Json} {reading : Reading Json} (taken : member before name = .ok reading)
    (reads : Reads reading value) (begun : Char) (bound rest : List Char) :
    readMembers member (begun :: bound) before
        (separator before ++ (quotedChars name.toList ++ ':' :: (value.chars ++ rest))) =
      readMembers member bound ((name, value) :: before) rest := by
  rw [readMembers, readName_separator]
  simp [taken, readColon, Reader.skipBlank_cons, Reader.isBlank, reads rest, bind, Except.bind]

/-- By induction on the members that are still to come; each of them is longer than the one
character of the bound that it uses up. -/
theorem readMembers_remainingChars {member : MemberReading} {before members : List (String × Json)}
    (follows : Follows member before members) {bound : List Char}
    (enough : members.length < bound.length) (rest : List Char) :
    readMembers member bound before (remainingChars before members ++ '}' :: rest) =
      .ok (before.reverse ++ members, rest) := by
  induction members generalizing before bound with
  | nil =>
      obtain ⟨begun, bound, rfl⟩ := List.exists_cons_of_length_pos enough
      simp [remainingChars, readMembers, readName, Reader.skipBlank_cons, Reader.isBlank]
  | cons entry others ih =>
      obtain ⟨name, value⟩ := entry
      obtain ⟨begun, bound, rfl⟩ := List.exists_cons_of_length_pos (Nat.zero_lt_of_lt enough)
      obtain ⟨⟨reading, taken, reads⟩, following⟩ := follows
      have read := ih following (by simpa using enough)
      rw [remainingChars_cons]
      simp only [List.append_assoc, List.cons_append]
      rw [readMembers_step taken reads, read]
      simp

theorem reads_members {member : MemberReading} {members : List (String × Json)}
    (follows : Follows member [] members) (rest : List Char) :
    readObject member (memberChars members ++ '}' :: rest) = .ok (.object members, rest) := by
  have enough : members.length < (memberChars members ++ '}' :: rest).length := by
    have := Readable.length_le_memberChars members
    simp only [List.length_append, List.length_cons]
    omega
  have same : memberChars members = remainingChars [] members := by
    cases members <;> rfl
  have read := readMembers_remainingChars follows enough rest
  rw [← same] at read
  rw [readObject, read]
  rfl

theorem reads_braced (expected : String) {member : MemberReading} {members : List (String × Json)}
    (follows : Follows member [] members) :
    Reads (readBraced expected (readObject member)) (.object members) := by
  intro rest
  have read := reads_members follows rest
  simp [chars, readBraced, Reader.skipBlank_cons, Reader.isBlank, read]

variable {room : Nat} {members : List (String × Json)}

theorem follows_table {reading : Reading Json} (before : List (String × Json))
    (each : ∀ entry ∈ members, Reads reading entry.2) :
    Follows (fun _ _ => .ok reading) before members := by
  induction members generalizing before with
  | nil => trivial
  | cons entry rest ih =>
      obtain ⟨first, others⟩ := List.forall_mem_cons.1 each
      exact ⟨⟨reading, rfl, first⟩, ih _ others⟩

theorem reads_table {item : Shape}
    (each : ∀ entry ∈ members, Reads (item.read (room - 1)) entry.2) :
    Reads (read room (.table item)) (.object members) := by
  rw [read]
  exact reads_braced _ (follows_table [] each)

/-- A member is read as its column says, or as all members that have no column. -/
def ReadsMember (columns : List (String × Reading Json)) (other : Reading Json)
    (entry : String × Json) : Prop :=
  Reads ((Entries.find? columns entry.1).getD other) entry.2

theorem follows_columns {columns : List (String × Reading Json)} {other : Reading Json}
    {before : List (String × Json)} (distinct : (Entries.keys members).Nodup)
    (unseen : ∀ name ∈ Entries.keys members, name ∉ Entries.keys before)
    (each : ∀ entry ∈ members, ReadsMember columns other entry) :
    Follows (columnMember columns other) before members := by
  induction members generalizing before with
  | nil => trivial
  | cons entry rest ih =>
      obtain ⟨name, value⟩ := entry
      rw [Entries.keys_cons, List.nodup_cons] at distinct
      obtain ⟨first, others⟩ := List.forall_mem_cons.1 each
      refine ⟨?_, ih distinct.2 (fun key member => ?_) others⟩
      · refine ⟨_, ?_, first⟩
        cases known : Entries.find? columns name with
        | none => simp [columnMember, known]
        | some column => simp [columnMember, known, unseen name (by simp)]
      · rw [Entries.keys_cons, List.mem_cons, not_or]
        exact ⟨fun same => distinct.1 (same ▸ member), unseen key (by simp [member])⟩

theorem reads_record {name : String} {columns : List (String × Shape)}
    (distinct : (Entries.keys members).Nodup)
    (each : ∀ entry ∈ members, ReadsMember (readColumns (room - 1) columns) skipped entry) :
    Reads (read room (.record name columns)) (.object members) := by
  have reads := reads_braced ("struct " ++ name) (follows_columns distinct (by simp) each)
  intro rest
  rw [read, ← reads rest]
  simp [chars, Reader.skipBlank_cons, Reader.isBlank]

theorem reads_extended {name : String} {columns : List (String × Shape)}
    (distinct : (Entries.keys members).Nodup)
    (each : ∀ entry ∈ members,
      ReadsMember (readColumns (room - 1) columns) (untyped (Reader.value (room - 1))) entry) :
    Reads (read room (.extended name columns)) (.object members) := by
  rw [read]
  exact reads_braced _ (follows_columns distinct (by simp) each)

end GraphBinding.Shape
