import GraphBinding.Proofs.Records

namespace GraphBinding

/-! Values less some of their members, and the records they still hold.

A member is addressed by the names that lead to it from the outside in. -/

namespace Json

mutual

/-- The value without the members whose path is gone. -/
def without (gone : List String → Bool) : Json → Json
  | .object members => .object (withoutMembers gone members)
  | value => value

def withoutMembers (gone : List String → Bool) : List (String × Json) → List (String × Json)
  | [] => []
  | (name, value) :: rest =>
      if gone [name] then withoutMembers gone rest
      else (name, value.without fun path => gone (name :: path)) :: withoutMembers gone rest

end

mutual

theorem without_eq_self {gone : List String → Bool}
    (stays : ∀ name path, gone (name :: path) = false) (value : Json) :
    value.without gone = value := by
  cases value with
  | object members => rw [without, withoutMembers_eq_self stays members]
  | _ => rfl

theorem withoutMembers_eq_self {gone : List String → Bool}
    (stays : ∀ name path, gone (name :: path) = false) (members : List (String × Json)) :
    withoutMembers gone members = members := by
  cases members with
  | nil => rfl
  | cons member rest =>
      obtain ⟨name, value⟩ := member
      have inside : value.without (fun path => gone (name :: path)) = value :=
        without_eq_self (fun inner path => stays name (inner :: path)) value
      rw [withoutMembers, inside, withoutMembers_eq_self stays rest, stays]
      rfl

end

variable (gone : List String → Bool) (members : List (String × Json))

theorem find?_withoutMembers (name : String) :
    Entries.find? (withoutMembers gone members) name =
      if gone [name] then none
      else (Entries.find? members name).map (without fun path => gone (name :: path)) := by
  induction members with
  | nil => simp [withoutMembers]
  | cons member rest ih =>
      obtain ⟨key, value⟩ := member
      by_cases same : key = name
      · subst same
        by_cases dropped : gone [key] = true
        · simp only [withoutMembers, dropped, if_true, ih]
        · simp [withoutMembers, dropped, Entries.find?_cons]
      · by_cases dropped : gone [key] = true
        · simp only [withoutMembers, dropped, if_true, ih, Entries.find?_cons, same, if_false]
        · simp [withoutMembers, dropped, Entries.find?_cons, same, ih]

theorem keys_withoutMembers_sublist :
    (Entries.keys (withoutMembers gone members)).Sublist (Entries.keys members) := by
  induction members with
  | nil => exact List.Sublist.refl _
  | cons member rest ih =>
      obtain ⟨name, value⟩ := member
      rw [withoutMembers]
      split
      · exact ih.cons name
      · exact ih.cons_cons name

variable {members} in
theorem nodup_keys_withoutMembers (distinct : (Entries.keys members).Nodup) :
    (Entries.keys (withoutMembers gone members)).Nodup :=
  (keys_withoutMembers_sublist gone members).nodup distinct

variable {gone members}

theorem forall_mem_withoutMembers {holds : String × Json → Prop}
    (each : ∀ entry ∈ members,
      holds (entry.1, entry.2.without fun path => gone (entry.1 :: path))) :
    ∀ entry ∈ withoutMembers gone members, holds entry := by
  induction members with
  | nil => exact fun entry member => nomatch member
  | cons member rest ih =>
      obtain ⟨name, value⟩ := member
      obtain ⟨first, others⟩ := List.forall_mem_cons.1 each
      rw [withoutMembers]
      split
      · exact ih others
      · exact List.forall_mem_cons.2 ⟨first, ih others⟩

end Json

namespace Record

open Json

variable {α β : Type} {gone : List String → Bool} {members : List (String × Json)}

/-- What the record is built as from the members that stay. -/
structure Keeps (gone : List String → Bool) (members : List (String × Json)) (record : Record α)
    (x : α) : Prop where
  checked : record.Checked
  built : record.build (Entries.find? (withoutMembers gone members)) = .ok x

namespace Keeps

theorem optional {name : String} {json : Json} {decoder : Decoder α} {default x : α}
    (found : Entries.find? members name = some json)
    (decoded : decoder (json.without fun path => gone (name :: path)) = .ok x) :
    Keeps gone members (optional name default decoder) (if gone [name] then default else x) where
  checked := Checked.optional name default decoder
  built := by
    have present := find?_withoutMembers gone members name
    rw [found] at present
    by_cases dropped : gone [name] = true
    · rw [if_pos dropped] at present ⊢
      exact build_optional_of_absent default present
    · rw [if_neg dropped] at present ⊢
      exact build_optional_of_present default present decoded

theorem map {record : Record α} {x : α} (f : α → β) (keeps : Keeps gone members record x) :
    Keeps gone members (f <$> record) (f x) :=
  ⟨Checked.map f keeps.checked, build_map keeps.built⟩

theorem seq {function : Record (α → β)} {argument : Record α} {f : α → β} {x : α}
    (first : Keeps gone members function f) (second : Keeps gone members argument x) :
    Keeps gone members (function <*> argument) (f x) :=
  ⟨Checked.seq first.checked second.checked, build_seq first.built second.built⟩

theorem ofMembers {record : Record α} {x : α} (keeps : Keeps gone members record x)
    (distinct : (Entries.keys members).Nodup) :
    record.ofMembers (withoutMembers gone members) = .ok x :=
  ofMembers_eq_ok keeps.checked (nodup_keys_withoutMembers gone distinct) keeps.built

end Keeps

end Record

end GraphBinding
