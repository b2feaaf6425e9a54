import GraphBinding.Decoder

namespace GraphBinding

/-! Records out of the members of an object.

Members are checked in the order in which they stand, but a record is built from them by name.
Where every name stands once, the order decides no more than which fault is reported.  Members
that have no column are passed over.
-/

theorem Entries.find?_filter {α : Type} (chosen : String → Bool) (entries : Entries α)
    {name : String} (isChosen : chosen name = true) :
    find? (entries.filter (chosen ·.1)) name = find? entries name := by
  induction entries with
  | nil => rfl
  | cons entry rest ih =>
      obtain ⟨key, value⟩ := entry
      by_cases same : key = name
      · subst same
        simp [find?_cons, isChosen]
      · by_cases kept : chosen key = true
        · simp [find?_cons, kept, same, ih]
        · simp [find?_cons, kept, same, ih]

namespace Record

variable {α β : Type}

/-- What is built has passed the checks of all columns. -/
def Checked (record : Record α) : Prop :=
  ∀ {find : String → Option Json} {built : α}, record.build find = .ok built →
    ∀ column ∈ record.columns, ∀ json, find column.name = some json → column.check json = .ok ()

section Building

variable {find : String → Option Json} {x : α} {f : α → β}

theorem map_build (f : α → β) (record : Record α) :
    (f <$> record).build find = (record.build find).map f := by
  change (do let g ← Except.ok f; let y ← record.build find; return g y) = _
  cases record.build find <;> rfl

theorem build_map {record : Record α} (built : record.build find = .ok x) :
    (f <$> record).build find = .ok (f x) := by
  rw [map_build, built]
  rfl

theorem build_seq {function : Record (α → β)} {argument : Record α}
    (first : function.build find = .ok f) (second : argument.build find = .ok x) :
    (function <*> argument).build find = .ok (f x) := by
  change (do let g ← function.build find; let y ← argument.build find; return g y) = _
  rw [first, second]
  rfl

theorem build_seq_eq_ok {function : Record (α → β)} {argument : Record α} {built : β} :
    (function <*> argument).build find = .ok built ↔
      ∃ f x, function.build find = .ok f ∧ argument.build find = .ok x ∧ f x = built := by
  constructor
  · intro done
    change (do let f ← function.build find; let x ← argument.build find; return f x) = _ at done
    cases first : function.build find with
    | error reason => rw [first] at done; cases done
    | ok f =>
        cases second : argument.build find with
        | error reason => rw [first, second] at done; cases done
        | ok x =>
            rw [first, second] at done
            exact ⟨f, x, rfl, rfl, Except.ok.inj done⟩
  · intro ⟨f, x, first, second, same⟩
    rw [← same]
    exact build_seq first second

theorem build_map_eq_ok {record : Record α} {built : β} :
    (f <$> record).build find = .ok built ↔ ∃ x, record.build find = .ok x ∧ f x = built := by
  rw [map_build]
  cases record.build find <;> simp [Except.map]

theorem build_required (name : String) (decoder : Decoder α) :
    (required name decoder).build find =
      (find name).elim (.error (.missingField name)) decoder := by
  cases found : find name <;> simp [required, found]

theorem build_optional (name : String) (default : α) (decoder : Decoder α) :
    (optional name default decoder).build find = (find name).elim (.ok default) decoder := by
  cases found : find name <;> simp [optional, found]

theorem build_optional_of_absent {name : String} {decoder : Decoder α} (default : α)
    (absent : find name = none) : (optional name default decoder).build find = .ok default := by
  rw [build_optional, absent, Option.elim_none]

theorem build_optional_of_present {name : String} {json : Json} {decoder : Decoder α} (default : α)
    (present : find name = some json) (decoded : decoder json = .ok x) :
    (optional name default decoder).build find = .ok x := by
  rw [build_optional, present, Option.elim_some, decoded]

end Building

namespace Checked

theorem required (name : String) (decoder : Decoder α) : (required name decoder).Checked := by
  intro find built done column member json present
  rw [List.mem_singleton.1 member] at present ⊢
  rw [build_required, present, Option.elim_some] at done
  simp only [done, Except.map]

theorem optional (name : String) (default : α) (decoder : Decoder α) :
    (optional name default decoder).Checked := by
  intro find built done column member json present
  rw [List.mem_singleton.1 member] at present ⊢
  rw [build_optional, present, Option.elim_some] at done
  simp only [done, Except.map]

theorem seq {function : Record (α → β)} {argument : Record α} (first : function.Checked)
    (second : argument.Checked) : (function <*> argument).Checked := by
  intro find built done column member json present
  obtain ⟨f, x, one, two, -⟩ := build_seq_eq_ok.1 done
  rcases List.mem_append.1 member with ofFunction | ofArgument
  · exact first one column ofFunction json present
  · exact second two column ofArgument json present

theorem map {record : Record α} (f : α → β) (checked : record.Checked) :
    (f <$> record).Checked := by
  intro find built done column member json present
  obtain ⟨x, one, -⟩ := build_map_eq_ok.1 done
  exact checked one column member json present

end Checked

def names (record : Record α) : List String := record.columns.map (·.name)

/-- The members that have a column. -/
def declared (record : Record α) (members : List (String × Json)) : List (String × Json) :=
  members.filter (·.1 ∈ record.names)

theorem keys_declared (record : Record α) (members : List (String × Json)) :
    Entries.keys (record.declared members) =
      (Entries.keys members).filter (· ∈ record.names) := by
  rw [Entries.keys, Entries.keys, List.filter_map]
  rfl

theorem find?_declared {record : Record α} (members : List (String × Json)) {name : String}
    (known : name ∈ record.names) :
    Entries.find? (record.declared members) name = Entries.find? members name :=
  Entries.find?_filter (· ∈ record.names) members (by simpa using known)

theorem column?_eq_none {record : Record α} {name : String} :
    record.column? name = none ↔ name ∉ record.names := by
  simp [column?, names, List.find?_eq_none]

theorem name_of_column? {record : Record α} {name : String} {column : Column}
    (known : record.column? name = some column) : column.name = name := by
  simpa using List.find?_some known

theorem mem_names_of_column? {record : Record α} {name : String} {column : Column}
    (known : record.column? name = some column) : name ∈ record.names :=
  List.mem_map.2 ⟨column, List.mem_of_find?_eq_some known, name_of_column? known⟩

theorem checkMembers_declared (record : Record α) (seen : List String)
    (members : List (String × Json)) :
    record.checkMembers seen (record.declared members) = record.checkMembers seen members := by
  induction members generalizing seen with
  | nil => rfl
  | cons entry rest ih =>
      obtain ⟨name, json⟩ := entry
      cases known : record.column? name with
      | none =>
          have undeclared := column?_eq_none.1 known
          simp only [declared, undeclared, List.filter_cons, checkMembers, known] at ih ⊢
          exact ih seen
      | some column =>
          have isDeclared := mem_names_of_column? known
          simp only [declared, isDeclared, List.filter_cons, checkMembers, known] at ih ⊢
          simp [checkMembers, known, ih]

theorem checkMembers_eq_ok {record : Record α} {members : List (String × Json)}
    {seen : List String} (distinct : (Entries.keys members).Nodup)
    (unseen : ∀ name ∈ Entries.keys members, name ∉ seen)
    (fine : ∀ entry ∈ members, ∀ column, record.column? entry.1 = some column →
      column.check entry.2 = .ok ()) :
    record.checkMembers seen members = .ok () := by
  induction members generalizing seen with
  | nil => rfl
  | cons entry rest ih =>
      obtain ⟨name, json⟩ := entry
      rw [Entries.keys_cons, List.nodup_cons] at distinct
      have fineRest := fun entry member => fine entry (List.mem_cons_of_mem _ member)
      rw [checkMembers]
      cases known : record.column? name with
      | none =>
          exact ih distinct.2 (fun other member => unseen other (by simp [member])) fineRest
      | some column =>
          have checked : column.check json = .ok () := fine (name, json) (by simp) column known
          simp only [unseen name (by simp), if_false, checked]
          refine ih distinct.2 (fun other member => ?_) fineRest
          rw [List.mem_cons, not_or]
          exact ⟨fun same => distinct.1 (same ▸ member), unseen other (by simp [member])⟩

/-- No column is given twice among members that pass. -/
theorem nodup_keys_of_checkMembers {record : Record α} {seen : List String}
    {members : List (String × Json)} (passed : record.checkMembers seen members = .ok ()) :
    (Entries.keys (record.declared members)).Nodup ∧
      ∀ name ∈ Entries.keys (record.declared members), name ∉ seen := by
  rw [keys_declared]
  induction members generalizing seen with
  | nil => simp
  | cons entry rest ih =>
      obtain ⟨name, json⟩ := entry
      rw [checkMembers] at passed
      rw [Entries.keys_cons, List.filter_cons]
      cases known : record.column? name with
      | none =>
          rw [known] at passed
          simpa [column?_eq_none.1 known] using ih passed
      | some column =>
          rw [known] at passed
          by_cases again : name ∈ seen
          · simp [again] at passed
          · simp only [again, if_false] at passed
            cases checked : column.check json with
            | error reason => rw [checked] at passed; cases passed
            | ok =>
                rw [checked] at passed
                obtain ⟨distinct, unseen⟩ := ih passed
                rw [if_pos (by simpa using mem_names_of_column? known), List.nodup_cons,
                  List.forall_mem_cons]
                refine ⟨⟨fun twice => unseen name twice List.mem_cons_self, distinct⟩, again, ?_⟩
                exact fun other member inSeen => unseen other member (List.mem_cons_of_mem _ inSeen)

/-- A record is accepted if no column is given twice and it can be built. -/
theorem ofMembers_eq_ok_iff {record : Record α} (checked : record.Checked)
    {members : List (String × Json)} {built : α} :
    record.ofMembers members = .ok built ↔
      (Entries.keys (record.declared members)).Nodup ∧
        record.build (Entries.find? members) = .ok built := by
  constructor
  · intro done
    rw [ofMembers] at done
    cases passed : record.checkMembers [] members with
    | error reason => rw [passed] at done; cases done
    | ok =>
        rw [passed] at done
        exact ⟨(nodup_keys_of_checkMembers passed).1, done⟩
  · intro ⟨distinct, done⟩
    have passed : record.checkMembers [] members = .ok () := by
      rw [← checkMembers_declared]
      refine checkMembers_eq_ok distinct (by simp) fun entry member column known => ?_
      refine checked done column (List.mem_of_find?_eq_some known) entry.2 ?_
      rw [name_of_column? known, ← find?_declared members (mem_names_of_column? known)]
      exact Entries.find?_of_mem distinct member
    rw [ofMembers, passed]
    exact done

/-- Where every name stands once, a record is accepted if it can be built. -/
theorem ofMembers_eq_ok {record : Record α} (checked : record.Checked)
    {members : List (String × Json)} (distinct : (Entries.keys members).Nodup) {built : α}
    (done : record.build (Entries.find? members) = .ok built) :
    record.ofMembers members = .ok built := by
  rw [ofMembers_eq_ok_iff checked, keys_declared]
  exact ⟨distinct.filter _, done⟩

theorem checkItems_eq_ok {columns : List Column} {items : List Json}
    (fine : ∀ pair ∈ columns.zip items, pair.1.check pair.2 = .ok ()) :
    checkItems columns items = .ok () := by
  induction columns generalizing items with
  | nil => rfl
  | cons column columns ih =>
      cases items with
      | nil => rfl
      | cons json rest =>
          rw [List.zip_cons_cons, List.forall_mem_cons] at fine
          rw [checkItems, fine.1]
          exact ih fine.2

/-- An array of checked columns ends where the columns do, or before columns that may be absent. -/
theorem ofItems_of_checkItems {record : Record α} {origin : Origin} {shape : String}
    {items : List Json} {built : α} (passed : checkItems record.columns items = .ok ()) :
    record.ofItems origin shape items = .ok built ↔
      (record.columns.drop items.length).any (·.required) = false ∧
        items.length ≤ record.columns.length ∧
        record.build (Entries.find? (record.names.zip items)) = .ok built := by
  rw [ofItems, passed, names]
  cases lacking : (record.columns.drop items.length).any (·.required) with
  | true => exact iff_of_false nofun fun accepted => by cases accepted.1
  | false =>
      cases made : record.build (Entries.find? ((record.columns.map (·.name)).zip items)) with
      | error reason => exact iff_of_false nofun fun accepted => by cases accepted.2.2
      | ok value =>
          change (if record.columns.length < items.length then Except.error _
            else Except.ok value) = Except.ok built ↔ _
          rw [and_iff_right rfl]
          by_cases surplus : record.columns.length < items.length
          · rw [if_pos surplus]
            exact iff_of_false nofun fun accepted => absurd surplus (Nat.not_lt.2 accepted.1)
          · rw [if_neg surplus, and_iff_right (Nat.not_lt.1 surplus)]

theorem keys_zip_sublist (names : List String) (items : List Json) :
    (Entries.keys (names.zip items)).Sublist names := by
  induction names generalizing items with
  | nil => exact List.Sublist.refl []
  | cons name names ih =>
      cases items with
      | nil => exact List.nil_sublist _
      | cons json rest => exact (ih rest).cons_cons name

/-- A record that is given as an array is accepted if it ends in the right place and can be
built. -/
theorem ofItems_eq_ok_iff {record : Record α} (checked : record.Checked)
    (distinct : record.names.Nodup) {origin : Origin} {shape : String} {items : List Json}
    {built : α} :
    record.ofItems origin shape items = .ok built ↔
      (record.columns.drop items.length).any (·.required) = false ∧
        items.length ≤ record.columns.length ∧
        record.build (Entries.find? (record.names.zip items)) = .ok built := by
  constructor
  · intro done
    cases passed : checkItems record.columns items with
    | error reason => rw [ofItems, passed] at done; cases done
    | ok => exact (ofItems_of_checkItems passed).1 done
  · intro accepted
    refine (ofItems_of_checkItems (checkItems_eq_ok fun pair member => ?_)).2 accepted
    have listed : (pair.1.name, pair.2) ∈ record.names.zip items := by
      rw [names, List.zip_map_left]
      exact List.mem_map.2 ⟨pair, member, rfl⟩
    refine checked accepted.2.2 pair.1 (List.of_mem_zip member).1 pair.2 ?_
    exact Entries.find?_of_mem ((keys_zip_sublist record.names items).nodup distinct) listed

end Record

end GraphBinding
