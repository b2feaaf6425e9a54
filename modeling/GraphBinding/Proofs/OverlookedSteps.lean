import GraphBinding.Proofs.Records

namespace GraphBinding

/-! Values that differ where a decoder does not look.

A record is decoded from the members that have a column, wherever they stand.  So nothing changes
when members change places or others are added, in the value itself or in a record inside of it.
Each change is one step, and a decoder overlooks the steps after which it answers as before. -/

namespace Entries

variable {α : Type}

theorem find?_perm {entries others : Entries α} (distinct : (keys entries).Nodup)
    (order : entries.Perm others) (name : String) : find? others name = find? entries name := by
  cases found : find? entries name with
  | none =>
      rw [find?_eq_none] at found ⊢
      exact fun present => found ((order.map Prod.fst).mem_iff.2 present)
  | some value =>
      have distinctOthers : (keys others).Nodup := (order.map Prod.fst).nodup_iff.1 distinct
      exact find?_of_mem distinctOthers (order.mem_iff.1 (mem_of_find? found))

end Entries

/-- After a step the decoder answers as before. -/
def Decoder.Overlooks {α : Type} (decoder : Decoder α) (step : Json → Json → Prop) : Prop :=
  ∀ json changed decoded, step json changed →
    decoder json = .ok decoded → decoder changed = .ok decoded

theorem Decoder.Overlooks.nothing {α : Type} {decoder : Decoder α} :
    decoder.Overlooks fun _ _ => False :=
  fun _ _ _ impossible => impossible.elim

/-- One item of an array takes a step. -/
inductive ItemStep (step : Json → Json → Prop) : Json → Json → Prop
  | item {before after : List Json} {json changed : Json} (inside : step json changed) :
      ItemStep step (.array (before ++ json :: after)) (.array (before ++ changed :: after))

namespace Record

variable {α β : Type}

/-- A value that a record is decoded from changes: members change places, one without a column is
added, or what stands in a column takes a step of its own, in an object or in an array. -/
inductive Step (record : Record α) (inside : String → Json → Json → Prop) : Json → Json → Prop
  | permuted {members others : List (String × Json)} (order : members.Perm others) :
      Step record inside (.object members) (.object others)
  | added {before after : List (String × Json)} {name : String} (json : Json)
      (undeclared : name ∉ record.names) :
      Step record inside (.object (before ++ after)) (.object (before ++ (name, json) :: after))
  | member {before after : List (String × Json)} {name : String} {json changed : Json}
      (step : inside name json changed) :
      Step record inside (.object (before ++ (name, json) :: after))
        (.object (before ++ (name, changed) :: after))
  | item {before after : List Json} {name : String} {json changed : Json}
      (column : record.names[before.length]? = some name) (step : inside name json changed) :
      Step record inside (.array (before ++ json :: after)) (.array (before ++ changed :: after))

theorem Step.ne_null {record : Record α} {inside : String → Json → Json → Prop}
    {json changed : Json} (step : record.Step inside json changed) :
    json ≠ .null ∧ changed ≠ .null := by
  cases step <;> exact ⟨nofun, nofun⟩

/-- What stands under a name, before and after. -/
inductive Touched (step : Json → Json → Prop) : Option Json → Option Json → Prop
  | same (found : Option Json) : Touched step found found
  | inside {json changed : Json} (inside : step json changed) :
      Touched step (some json) (some changed)

theorem touched_find? {step : String → Json → Json → Prop} {before after : List (String × Json)}
    {name : String} {json changed : Json} (inside : step name json changed) (asked : String) :
    Touched (step asked) (Entries.find? (before ++ (name, json) :: after) asked)
      (Entries.find? (before ++ (name, changed) :: after) asked) := by
  rw [Entries.find?_append, Entries.find?_append, Entries.find?_cons, Entries.find?_cons]
  cases Entries.find? before asked with
  | some found => exact .same _
  | none =>
      by_cases same : name = asked
      · subst same
        simpa using .inside inside
      · simpa [same] using .same _

theorem Touched.answer {step : Json → Json → Prop} {decoder : Decoder α}
    (overlooks : decoder.Overlooks step) {found changed : Option Json}
    (touched : Touched step found changed) {absent : Except DecodeError α} {decoded : α}
    (done : found.elim absent decoder = .ok decoded) :
    changed.elim absent decoder = .ok decoded := by
  cases touched with
  | same => exact done
  | inside inside => exact overlooks _ _ _ inside done

/-- The column of an item, among the columns and items around it. -/
theorem exists_zip {names : List String} {before : List Json} {name : String}
    (column : names[before.length]? = some name) (after : List Json) :
    ∃ first last, ∀ json, names.zip (before ++ json :: after) = first ++ (name, json) :: last := by
  obtain ⟨bound, same⟩ := List.getElem?_eq_some_iff.1 column
  have split : names =
      names.take before.length ++ name :: names.drop (before.length + 1) := by
    rw [← same, List.getElem_cons_drop, List.take_append_drop]
  have length : (names.take before.length).length = before.length :=
    List.length_take_of_le (Nat.le_of_lt bound)
  refine ⟨(names.take before.length).zip before, (names.drop (before.length + 1)).zip after, ?_⟩
  intro json
  rw [← List.zip_cons_cons, ← List.zip_append length, ← split]

/-- Steps inside of the columns change nothing about what is built. -/
structure Overlooks (record : Record α) (inside : String → Json → Json → Prop) : Prop where
  checked : record.Checked
  rebuilds : ∀ {find found : String → Option Json} {built : α},
    (∀ name ∈ record.names, Touched (inside name) (find name) (found name)) →
    record.build find = .ok built → record.build found = .ok built

namespace Overlooks

variable {inside : String → Json → Json → Prop}

section Columns

variable {name : String} {decoder : Decoder α} (overlooks : decoder.Overlooks (inside name))

include overlooks

theorem required : (required name decoder).Overlooks inside where
  checked := Checked.required name decoder
  rebuilds touched done := by
    rw [build_required] at done ⊢
    exact (touched name List.mem_cons_self).answer overlooks done

theorem optional {default : α} : (optional name default decoder).Overlooks inside where
  checked := Checked.optional name default decoder
  rebuilds touched done := by
    rw [build_optional] at done ⊢
    exact (touched name List.mem_cons_self).answer overlooks done

end Columns

theorem seq {function : Record (α → β)} {argument : Record α} (first : function.Overlooks inside)
    (second : argument.Overlooks inside) : (function <*> argument).Overlooks inside where
  checked := Checked.seq first.checked second.checked
  rebuilds {find found built} touched done := by
    have names : (function <*> argument).names = function.names ++ argument.names := List.map_append
    rw [names, List.forall_mem_append] at touched
    obtain ⟨f, x, one, two, rfl⟩ := build_seq_eq_ok.1 done
    exact build_seq (first.rebuilds touched.1 one) (second.rebuilds touched.2 two)

theorem map {record : Record α} (f : α → β) (overlooks : record.Overlooks inside) :
    (f <$> record).Overlooks inside where
  checked := Checked.map f overlooks.checked
  rebuilds {find found built} touched done := by
    obtain ⟨x, one, rfl⟩ := build_map_eq_ok.1 done
    exact build_map (overlooks.rebuilds touched one)

variable {record : Record α} (overlooks : record.Overlooks inside) {built : α}

include overlooks

theorem ofMembers_of_touched {members others : List (String × Json)}
    (done : record.ofMembers members = .ok built)
    (keys : (Entries.keys (record.declared members)).Perm (Entries.keys (record.declared others)))
    (touched : ∀ name ∈ record.names,
      Touched (inside name) (Entries.find? members name) (Entries.find? others name)) :
    record.ofMembers others = .ok built := by
  rw [ofMembers_eq_ok_iff overlooks.checked] at done ⊢
  exact ⟨keys.nodup_iff.1 done.1, overlooks.rebuilds touched done.2⟩

theorem ofMembers {members others : List (String × Json)}
    (step : record.Step inside (.object members) (.object others))
    (done : record.ofMembers members = .ok built) : record.ofMembers others = .ok built := by
  cases step with
  | permuted order =>
      have distinct := ((ofMembers_eq_ok_iff overlooks.checked).1 done).1
      have kept : (record.declared members).Perm (record.declared others) := order.filter _
      refine overlooks.ofMembers_of_touched done (kept.map Prod.fst) fun name known => ?_
      rw [← find?_declared members known, ← find?_declared others known,
        Entries.find?_perm distinct kept]
      exact .same _
  | @added before after name json undeclared =>
      have kept : record.declared (before ++ (name, json) :: after) =
          record.declared (before ++ after) := by
        simp [declared, undeclared]
      refine overlooks.ofMembers_of_touched done (by rw [kept]) fun asked known => ?_
      rw [← find?_declared (before ++ after) known,
        ← find?_declared (before ++ (name, json) :: after) known, kept]
      exact .same _
  | @member before after name json changed inner =>
      have kept : Entries.keys (record.declared (before ++ (name, changed) :: after)) =
          Entries.keys (record.declared (before ++ (name, json) :: after)) := by
        rw [keys_declared, keys_declared]
        simp [Entries.keys]
      refine overlooks.ofMembers_of_touched done (by rw [kept]) fun asked _ => ?_
      exact touched_find? inner asked

theorem decoder (distinct : record.names.Nodup) (origin : Origin) (shape : String) :
    (record.decoder origin shape).Overlooks (record.Step inside) := by
  intro json changed built step done
  cases step with
  | permuted order => exact overlooks.ofMembers (.permuted order) done
  | added json undeclared => exact overlooks.ofMembers (.added json undeclared) done
  | member inner => exact overlooks.ofMembers (.member inner) done
  | @item before after name json changed column inner =>
      obtain ⟨first, last, zipped⟩ := exists_zip column after
      change record.ofItems origin shape _ = .ok built at done ⊢
      rw [ofItems_eq_ok_iff overlooks.checked distinct, zipped] at done ⊢
      obtain ⟨complete, fits, rebuilt⟩ := done
      refine ⟨by simpa using complete, by simpa using fits, ?_⟩
      exact overlooks.rebuilds (fun asked _ => touched_find? inner asked) rebuilt

end Overlooks

end Record

namespace Decoder

variable {α : Type} {decoder : Decoder α} {step : Json → Json → Prop}

theorem Overlooks.list (overlooks : decoder.Overlooks step) :
    (list decoder).Overlooks (ItemStep step) := by
  intro json changed decoded steps done
  cases steps with
  | @item before after json changed inside =>
      change (before ++ json :: after).mapM decoder = .ok decoded at done
      change (before ++ changed :: after).mapM decoder = .ok decoded
      rw [List.mapM_append, List.mapM_cons] at done ⊢
      cases accepted : decoder json with
      | ok x =>
          rw [accepted] at done
          rw [overlooks json changed x inside accepted]
          exact done
      | error reason =>
          rw [accepted] at done
          cases others : before.mapM decoder with
          | error first => rw [others] at done; cases done
          | ok decodedBefore => rw [others] at done; cases done

theorem Overlooks.nullable (overlooks : decoder.Overlooks step)
    (present : ∀ json changed, step json changed → json ≠ .null ∧ changed ≠ .null) :
    (nullable decoder).Overlooks step := by
  intro json changed decoded inside done
  have given (value : Json) (nonNull : value ≠ .null) :
      Decoder.nullable decoder value = (decoder value).map some := by
    cases value <;> simp_all [Decoder.nullable]
  obtain ⟨first, second⟩ := present json changed inside
  rw [given _ first] at done
  rw [given _ second]
  cases accepted : decoder json with
  | error reason => rw [accepted] at done; cases done
  | ok x =>
      rw [accepted] at done
      rw [overlooks json changed x inside accepted]
      exact done

end Decoder

end GraphBinding
