namespace GraphBinding

/-! Values kept under names, in the order in which the names were first written.

`Entries` is the bare list, used where a name may repeat until it is collapsed
(the members of a JSON object).  `Table` adds the invariant that no name repeats,
so that `find?` is the whole content of a table besides its order.  Every
operation has one lemma about `keys` and one about `find?`.
-/

abbrev Entries (α : Type u) := List (String × α)

namespace Entries

variable {α : Type u}

def keys (entries : Entries α) : List String := entries.map Prod.fst

def values (entries : Entries α) : List α := entries.map Prod.snd

def find? : Entries α → String → Option α
  | [], _ => none
  | (key, value) :: rest, name => if key = name then some value else find? rest name

/-- A name that is present keeps its position; a new one goes to the end. -/
def insert : Entries α → String → α → Entries α
  | [], name, value => [(name, value)]
  | (key, old) :: rest, name, value =>
      if key = name then (key, value) :: rest else (key, old) :: insert rest name value

def erase : Entries α → String → Entries α
  | [], _ => []
  | (key, value) :: rest, name =>
      if key = name then rest else (key, value) :: erase rest name

/-- Writes the entries one after the other into an empty list: of a repeated name
the last value is kept at the first position. -/
def collapse (entries : Entries α) : Entries α :=
  entries.foldl (fun written entry => insert written entry.1 entry.2) []

@[simp] theorem keys_nil : keys ([] : Entries α) = [] := rfl

@[simp] theorem keys_cons (entry : String × α) (rest : Entries α) :
    keys (entry :: rest) = entry.1 :: keys rest := rfl

@[simp] theorem find?_nil (name : String) : find? ([] : Entries α) name = none := rfl

theorem find?_cons (key : String) (value : α) (rest : Entries α) (name : String) :
    find? ((key, value) :: rest) name = if key = name then some value else find? rest name :=
  rfl

theorem find?_append (first last : Entries α) (name : String) :
    find? (first ++ last) name = (find? first name).or (find? last name) := by
  induction first with
  | nil => rfl
  | cons entry rest ih =>
      obtain ⟨key, value⟩ := entry
      by_cases same : key = name
      · simp [find?_cons, same]
      · simp [find?_cons, same, ih]

theorem isSome_find? (entries : Entries α) (name : String) :
    (find? entries name).isSome = true ↔ name ∈ keys entries := by
  induction entries with
  | nil => simp
  | cons entry rest ih =>
      obtain ⟨key, value⟩ := entry
      by_cases same : key = name
      · simp [find?_cons, same]
      · simp [find?_cons, same, ih, Ne.symm same]

theorem find?_eq_none (entries : Entries α) (name : String) :
    find? entries name = none ↔ name ∉ keys entries := by
  rw [← isSome_find?]
  cases find? entries name <;> simp

theorem mem_of_find? {entries : Entries α} {name : String} {value : α}
    (found : find? entries name = some value) : (name, value) ∈ entries := by
  induction entries with
  | nil => simp at found
  | cons entry rest ih =>
      obtain ⟨key, old⟩ := entry
      rw [find?_cons] at found
      by_cases same : key = name
      · rw [if_pos same, Option.some.injEq] at found
        rw [same, found]
        exact List.mem_cons_self
      · rw [if_neg same] at found
        exact List.mem_cons_of_mem _ (ih found)

theorem find?_of_mem {entries : Entries α} {name : String} {value : α}
    (distinct : (keys entries).Nodup) (member : (name, value) ∈ entries) :
    find? entries name = some value := by
  induction entries with
  | nil => simp at member
  | cons entry rest ih =>
      obtain ⟨key, old⟩ := entry
      rw [keys_cons, List.nodup_cons] at distinct
      rcases List.mem_cons.1 member with same | inRest
      · cases same
        simp [find?_cons]
      · have present : name ∈ keys rest := List.mem_map.2 ⟨_, inRest, rfl⟩
        have other : key ≠ name := fun same => distinct.1 (same ▸ present)
        simp [find?_cons, other, ih distinct.2 inRest]

theorem keys_insert (entries : Entries α) (name : String) (value : α) :
    keys (insert entries name value) =
      if name ∈ keys entries then keys entries else keys entries ++ [name] := by
  induction entries with
  | nil => simp [insert]
  | cons entry rest ih =>
      obtain ⟨key, old⟩ := entry
      by_cases same : key = name
      · simp [insert, same]
      · by_cases present : name ∈ keys rest <;>
          simp [insert, same, ih, present, Ne.symm same]

theorem find?_insert (entries : Entries α) (name : String) (value : α) (other : String) :
    find? (insert entries name value) other =
      if name = other then some value else find? entries other := by
  induction entries with
  | nil => rfl
  | cons entry rest ih =>
      obtain ⟨key, old⟩ := entry
      by_cases same : key = name
      · subst same
        by_cases asked : key = other <;> simp [insert, find?_cons, asked]
      · by_cases asked : key = other
        · subst asked
          simp [insert, find?_cons, same, Ne.symm same]
        · simp [insert, find?_cons, same, asked, ih]

theorem insert_of_find? {entries : Entries α} {name : String} {value : α}
    (found : find? entries name = some value) : insert entries name value = entries := by
  induction entries with
  | nil => cases found
  | cons entry rest ih =>
      obtain ⟨key, old⟩ := entry
      rw [find?_cons] at found
      rw [insert]
      by_cases same : key = name
      · rw [if_pos same] at found ⊢
        rw [Option.some.inj found]
      · rw [if_neg same] at found ⊢
        rw [ih found]

theorem insert_insert (entries : Entries α) (name : String) (first second : α) :
    insert (insert entries name first) name second = insert entries name second := by
  induction entries with
  | nil => simp [insert]
  | cons entry rest ih =>
      obtain ⟨key, old⟩ := entry
      by_cases same : key = name
      · simp [insert, same]
      · simp [insert, same, ih]

theorem insert_of_not_mem {entries : Entries α} {name : String} (value : α)
    (absent : name ∉ keys entries) : insert entries name value = entries ++ [(name, value)] := by
  induction entries with
  | nil => rfl
  | cons entry rest ih =>
      obtain ⟨key, old⟩ := entry
      simp only [keys_cons, List.mem_cons, not_or] at absent
      simp [insert, Ne.symm absent.1, ih absent.2]

theorem nodup_keys_insert {entries : Entries α} (distinct : (keys entries).Nodup)
    (name : String) (value : α) : (keys (insert entries name value)).Nodup := by
  rw [keys_insert]
  by_cases present : name ∈ keys entries
  · simpa [present] using distinct
  · rw [if_neg present, List.nodup_append]
    refine ⟨distinct, by simp, fun key inKeys last isLast => ?_⟩
    rw [List.mem_singleton.1 isLast]
    exact fun same => present (same ▸ inKeys)

theorem nodup_keys_foldl_insert (more : Entries α) {entries : Entries α}
    (distinct : (keys entries).Nodup) :
    (keys (more.foldl (fun written entry => insert written entry.1 entry.2) entries)).Nodup := by
  induction more generalizing entries with
  | nil => exact distinct
  | cons entry rest ih => exact ih (nodup_keys_insert distinct entry.1 entry.2)

theorem nodup_keys_collapse (entries : Entries α) : (keys (collapse entries)).Nodup :=
  nodup_keys_foldl_insert entries (by simp)

theorem mem_of_mem_insert {entries : Entries α} {name : String} {value : α} {entry : String × α}
    (member : entry ∈ insert entries name value) : entry = (name, value) ∨ entry ∈ entries := by
  induction entries with
  | nil => exact .inl (List.mem_singleton.1 member)
  | cons first rest ih =>
      obtain ⟨key, old⟩ := first
      by_cases same : key = name
      · subst same
        rw [insert, if_pos rfl] at member
        exact (List.mem_cons.1 member).imp id (List.mem_cons_of_mem _)
      · rw [insert, if_neg same] at member
        rcases List.mem_cons.1 member with first | inRest
        · exact .inr (first ▸ List.mem_cons_self)
        · exact (ih inRest).imp id (List.mem_cons_of_mem _)

theorem mem_of_mem_foldl_insert {more entries : Entries α} {entry : String × α}
    (member : entry ∈ more.foldl (fun written entry => insert written entry.1 entry.2) entries) :
    entry ∈ more ∨ entry ∈ entries := by
  induction more generalizing entries with
  | nil => exact .inr member
  | cons first rest ih =>
      rcases ih member with inRest | written
      · exact .inl (List.mem_cons_of_mem _ inRest)
      · rcases mem_of_mem_insert written with same | old
        · exact .inl (same ▸ List.mem_cons_self)
        · exact .inr old

theorem mem_of_mem_collapse {entries : Entries α} {entry : String × α}
    (member : entry ∈ collapse entries) : entry ∈ entries :=
  (mem_of_mem_foldl_insert member).resolve_right (by simp)

theorem mem_keys_foldl_insert (more : Entries α) {entries : Entries α} {name : String} :
    name ∈ keys (more.foldl (fun written entry => insert written entry.1 entry.2) entries) ↔
      name ∈ keys more ∨ name ∈ keys entries := by
  induction more generalizing entries with
  | nil => simp
  | cons first rest ih =>
      have written : name ∈ keys (insert entries first.1 first.2) ↔
          name = first.1 ∨ name ∈ keys entries := by
        rw [keys_insert]
        split
        · rename_i present
          exact ⟨.inr, fun either => either.elim (fun same => same ▸ present) id⟩
        · rw [List.mem_append, List.mem_singleton, or_comm]
      rw [List.foldl_cons, ih, written, keys_cons, List.mem_cons, or_left_comm, or_assoc]

theorem mem_keys_collapse {entries : Entries α} {name : String} :
    name ∈ keys (collapse entries) ↔ name ∈ keys entries := by
  rw [collapse, mem_keys_foldl_insert]
  simp

theorem find?_foldl_insert_of_not_mem (more : Entries α) {entries : Entries α} {name : String}
    (absent : name ∉ keys more) :
    find? (more.foldl (fun written entry => insert written entry.1 entry.2) entries) name =
      find? entries name := by
  induction more generalizing entries with
  | nil => rfl
  | cons first rest ih =>
      rw [keys_cons, List.mem_cons, not_or] at absent
      rw [List.foldl_cons, ih absent.2, find?_insert, if_neg (Ne.symm absent.1)]

/-- What is written last under a name stays, whatever was written before. -/
theorem find?_foldl_insert_of_mem {more : Entries α} (distinct : (keys more).Nodup)
    {entries : Entries α} {name : String} {value : α} (member : (name, value) ∈ more) :
    find? (more.foldl (fun written entry => insert written entry.1 entry.2) entries) name =
      some value := by
  induction more generalizing entries with
  | nil => cases member
  | cons first rest ih =>
      rw [keys_cons, List.nodup_cons] at distinct
      rw [List.foldl_cons]
      rcases List.mem_cons.1 member with rfl | inRest
      · rw [find?_foldl_insert_of_not_mem rest distinct.1, find?_insert, if_pos rfl]
      · exact ih distinct.2 inRest

theorem foldl_insert_of_nodup (more : Entries α) {entries : Entries α}
    (distinct : (keys (entries ++ more)).Nodup) :
    more.foldl (fun written entry => insert written entry.1 entry.2) entries = entries ++ more := by
  induction more generalizing entries with
  | nil => simp
  | cons entry rest ih =>
      have absent : entry.1 ∉ keys entries := by
        have separated := distinct
        rw [keys, List.map_append, List.nodup_append] at separated
        exact fun present => separated.2.2 _ present entry.1 (by simp) rfl
      rw [List.foldl_cons, insert_of_not_mem _ absent, ih (by simpa using distinct)]
      simp

theorem collapse_of_nodup {entries : Entries α} (distinct : (keys entries).Nodup) :
    collapse entries = entries := by
  simpa [collapse] using @foldl_insert_of_nodup _ entries [] (by simpa using distinct)

theorem keys_foldl_insert_congr {β : Type v} {more written : Entries α} {others kept : Entries β}
    (same : keys more = keys others) (sofar : keys written = keys kept) :
    keys (more.foldl (fun written entry => insert written entry.1 entry.2) written) =
      keys (others.foldl (fun written entry => insert written entry.1 entry.2) kept) := by
  induction more generalizing others written kept with
  | nil =>
      cases others with
      | nil => exact sofar
      | cons => simp at same
  | cons entry rest ih =>
      cases others with
      | nil => simp at same
      | cons other remaining =>
          obtain ⟨key, tail⟩ := List.cons_eq_cons.1 same
          have step : keys (insert written entry.1 entry.2) =
              keys (insert kept other.1 other.2) := by
            rw [keys_insert, keys_insert, key, sofar]
          rw [List.foldl_cons, List.foldl_cons]
          exact ih tail step

/-- Which names a collapsed list has depends on the names only. -/
theorem keys_collapse_congr {β : Type v} {entries : Entries α} {others : Entries β}
    (same : keys entries = keys others) : keys (collapse entries) = keys (collapse others) :=
  keys_foldl_insert_congr same rfl

theorem keys_erase (entries : Entries α) (name : String) :
    keys (erase entries name) = (keys entries).erase name := by
  induction entries with
  | nil => rfl
  | cons entry rest ih =>
      obtain ⟨key, old⟩ := entry
      by_cases same : key = name
      · simp [erase, same]
      · simp [erase, same, ih]

theorem nodup_keys_erase {entries : Entries α} (distinct : (keys entries).Nodup) (name : String) :
    (keys (erase entries name)).Nodup := by
  rw [keys_erase]
  exact distinct.erase name

theorem find?_erase {entries : Entries α} (distinct : (keys entries).Nodup)
    (name other : String) :
    find? (erase entries name) other = if name = other then none else find? entries other := by
  induction entries with
  | nil => simp [erase]
  | cons entry rest ih =>
      obtain ⟨key, old⟩ := entry
      rw [keys_cons, List.nodup_cons] at distinct
      by_cases same : key = name
      · subst same
        by_cases asked : key = other
        · subst asked
          simpa [erase] using (find?_eq_none rest key).2 distinct.1
        · simp [erase, find?_cons, asked]
      · by_cases asked : key = other
        · subst asked
          simp [erase, find?_cons, same, Ne.symm same]
        · simp [erase, find?_cons, same, asked, ih distinct.2]

end Entries

/-- Entries in which no name repeats. -/
structure Table (α : Type u) where
  entries : Entries α
  distinct : (entries.map Prod.fst).Nodup
deriving DecidableEq

namespace Table

variable {α : Type u} {β : Type v}

def empty : Table α := ⟨[], List.nodup_nil⟩

instance : Inhabited (Table α) := ⟨empty⟩

def keys (table : Table α) : List String := table.entries.keys

def values (table : Table α) : List α := table.entries.values

def size (table : Table α) : Nat := table.entries.length

def isEmpty (table : Table α) : Bool := table.entries.isEmpty

def find? (table : Table α) (name : String) : Option α := table.entries.find? name

def contains (table : Table α) (name : String) : Bool := (table.find? name).isSome

def insert (table : Table α) (name : String) (value : α) : Table α :=
  ⟨table.entries.insert name value, Entries.nodup_keys_insert table.distinct name value⟩

def erase (table : Table α) (name : String) : Table α :=
  ⟨table.entries.erase name, Entries.nodup_keys_erase table.distinct name⟩

/-- Of a repeated name the last value is kept at the first position. -/
def ofEntries (entries : Entries α) : Table α :=
  ⟨entries.collapse, Entries.nodup_keys_collapse entries⟩

/-- Files each value under the name that it carries. -/
def ofValues (name : α → String) (values : List α) : Table α :=
  ofEntries (values.map fun value => (name value, value))

@[ext] theorem ext {left right : Table α} (same : left.entries = right.entries) : left = right := by
  cases left
  cases right
  cases same
  rfl

@[simp] theorem find?_empty (name : String) : (empty : Table α).find? name = none := rfl

@[simp] theorem keys_empty : (empty : Table α).keys = [] := rfl

theorem nodup_keys (table : Table α) : table.keys.Nodup := table.distinct

theorem contains_iff (table : Table α) (name : String) :
    table.contains name = true ↔ name ∈ table.keys :=
  Entries.isSome_find? table.entries name

theorem find?_eq_none (table : Table α) (name : String) :
    table.find? name = none ↔ name ∉ table.keys :=
  Entries.find?_eq_none table.entries name

theorem find?_eq_some (table : Table α) (name : String) (value : α) :
    table.find? name = some value ↔ (name, value) ∈ table.entries :=
  ⟨Entries.mem_of_find?, Entries.find?_of_mem table.distinct⟩

theorem keys_insert (table : Table α) (name : String) (value : α) :
    (table.insert name value).keys =
      if name ∈ table.keys then table.keys else table.keys ++ [name] :=
  Entries.keys_insert table.entries name value

theorem mem_keys_insert (table : Table α) (name : String) (value : α) {key : String} :
    key ∈ (table.insert name value).keys ↔ key ∈ table.keys ∨ key = name := by
  rw [keys_insert]
  split
  · rename_i present
    exact ⟨.inl, fun either => either.elim id fun same => same ▸ present⟩
  · rw [List.mem_append, List.mem_singleton]

theorem find?_insert (table : Table α) (name : String) (value : α) (other : String) :
    (table.insert name value).find? other =
      if name = other then some value else table.find? other :=
  Entries.find?_insert table.entries name value other

theorem keys_erase (table : Table α) (name : String) :
    (table.erase name).keys = table.keys.erase name :=
  Entries.keys_erase table.entries name

theorem find?_erase (table : Table α) (name other : String) :
    (table.erase name).find? other = if name = other then none else table.find? other :=
  Entries.find?_erase table.distinct name other

theorem mem_ofValues {name : α → String} {values : List α} {entry : String × α}
    (member : entry ∈ (ofValues name values).entries) :
    entry.2 ∈ values ∧ name entry.2 = entry.1 := by
  obtain ⟨value, inValues, rfl⟩ := List.mem_map.1 (Entries.mem_of_mem_collapse member)
  exact ⟨inValues, rfl⟩

theorem mem_keys_ofEntries {entries : Entries α} {name : String} :
    name ∈ (ofEntries entries).keys ↔ name ∈ entries.keys :=
  Entries.mem_keys_collapse

theorem mem_keys_ofValues {name : α → String} {values : List α} {key : String} :
    key ∈ (ofValues name values).keys ↔ ∃ value ∈ values, name value = key := by
  rw [ofValues, mem_keys_ofEntries, Entries.keys, List.map_map, List.mem_map]
  rfl

theorem find?_ofValues_append {name : α → String} (first : List α) {last : List α}
    (distinct : (last.map name).Nodup) {value : α} (member : value ∈ last) :
    (ofValues name (first ++ last)).find? (name value) = some value := by
  change Entries.find?
    (Entries.collapse ((first ++ last).map fun value => (name value, value))) _ = _
  rw [Entries.collapse, List.map_append, List.foldl_append]
  refine Entries.find?_foldl_insert_of_mem ?_ (List.mem_map.2 ⟨value, member, rfl⟩)
  rwa [Entries.keys, List.map_map]

theorem entries_ofEntries {entries : Entries α} (distinct : entries.keys.Nodup) :
    (ofEntries entries).entries = entries :=
  Entries.collapse_of_nodup distinct

theorem find?_ofEntries {entries : Entries α} (distinct : entries.keys.Nodup) {name : String}
    {value : α} (member : (name, value) ∈ entries) :
    (ofEntries entries).find? name = some value := by
  rw [find?_eq_some, entries_ofEntries distinct]
  exact member

theorem entries_foldl_insert (entries : Entries α) (table : Table α) :
    (entries.foldl (fun written entry => written.insert entry.1 entry.2) table).entries =
      entries.foldl (fun written entry => written.insert entry.1 entry.2) table.entries := by
  induction entries generalizing table with
  | nil => rfl
  | cons entry rest ih => exact ih (table.insert entry.1 entry.2)

theorem ofEntries_eq_foldl (entries : Entries α) :
    ofEntries entries =
      entries.foldl (fun written entry => written.insert entry.1 entry.2) empty :=
  ext (entries_foldl_insert entries empty).symm

end Table

end GraphBinding
