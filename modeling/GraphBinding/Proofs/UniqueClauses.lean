import GraphBinding.Identity

namespace GraphBinding

/-! What the clause is that looks up the record of a parent value, and when there is none. -/

/-- The member is absent or null. -/
def Json.lacks (record : Json) (name : String) : Bool := (record.getD name).isNull

variable {model field : String} {identifiers : List String} {record : Json}

theorem Json.get?_of_not_lacks (present : record.lacks field = false) :
    record.get? field = some (record.getD field) := by
  unfold lacks getD at present
  unfold getD
  cases found : record.get? field with
  | none => simp [found, isNull] at present
  | some value => rfl

/-- The members of a record under some names. -/
def Json.membersAt (record : Json) (names : List String) : List (String × Json) :=
  names.map fun name => (name, record.getD name)

theorem identifierValues_cons_of_lacks (rest : List String) (missing : record.lacks field = true) :
    identifierValues model record (field :: rest) = .error (.missingIdentifier model field) := by
  unfold Json.lacks Json.getD at missing
  cases found : record.get? field with
  | none => simp only [identifierValues, found]
  | some value => cases value <;> simp_all [identifierValues, Json.isNull]

theorem identifierValues_cons (rest : List String) (present : record.lacks field = false) :
    identifierValues model record (field :: rest) =
      (identifierValues model record rest).map ((field, record.getD field) :: ·) := by
  have found := Json.get?_of_not_lacks present
  unfold Json.lacks at present
  cases value : record.getD field <;> simp_all [identifierValues, Json.isNull]

/-- The first identifier that is lacking is reported. -/
theorem identifierValues_eq (model : String) (record : Json) (identifiers : List String) :
    identifierValues model record identifiers =
      match identifiers.find? record.lacks with
      | some field => .error (.missingIdentifier model field)
      | none => .ok (record.membersAt identifiers) := by
  induction identifiers with
  | nil => rfl
  | cons field rest ih =>
      cases missing : record.lacks field with
      | true => simp [identifierValues_cons_of_lacks rest missing, missing]
      | false =>
          rw [identifierValues_cons rest missing, ih, List.find?_cons_of_neg (by simp [missing])]
          cases rest.find? record.lacks <;> rfl

theorem uniqueClause_of_lacking (lacking : identifiers.find? record.lacks = some field) :
    uniqueClause model identifiers record = .error (.missingIdentifier model field) := by
  rw [uniqueClause, identifierValues_eq, lacking]
  rfl

theorem uniqueClause_single (complete : [field].find? record.lacks = none) :
    uniqueClause model [field] record = .ok (.object [(field, record.getD field)]) := by
  rw [uniqueClause, identifierValues_eq, complete]
  rfl

theorem uniqueClause_several (complete : identifiers.find? record.lacks = none)
    (several : 2 ≤ identifiers.length) :
    uniqueClause model identifiers record =
      .ok (.object [(compoundKeyName identifiers,
        .object (Entries.collapse (record.membersAt identifiers)))]) := by
  rw [uniqueClause, identifierValues_eq, complete]
  match identifiers, several with
  | _ :: _ :: _, _ => rfl

theorem uniqueClause_eq_error {error : ResolveError} :
    uniqueClause model identifiers record = .error error ↔
      ∃ field, identifiers.find? record.lacks = some field ∧
        error = .missingIdentifier model field := by
  cases lacking : identifiers.find? record.lacks with
  | some field => simp [uniqueClause_of_lacking lacking, eq_comm]
  | none =>
      rw [uniqueClause, identifierValues_eq, lacking]
      match identifiers with
      | [] | [_] | _ :: _ :: _ => simp [bind, Except.bind, pure, Except.pure]

theorem uniqueClause_eq_ok :
    (∃ clause, uniqueClause model identifiers record = .ok clause) ↔
      ∀ identifier ∈ identifiers, record.lacks identifier = false := by
  have complete : (∀ identifier ∈ identifiers, record.lacks identifier = false) ↔
      identifiers.find? record.lacks = none := by
    simp [List.find?_eq_none]
  rw [complete]
  cases answer : uniqueClause model identifiers record with
  | error reason =>
      obtain ⟨field, lacking, -⟩ := uniqueClause_eq_error.1 answer
      simp [lacking]
  | ok clause =>
      cases lacking : identifiers.find? record.lacks with
      | none => simp
      | some field => simp [uniqueClause_of_lacking lacking] at answer

end GraphBinding
