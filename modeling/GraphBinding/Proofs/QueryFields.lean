import GraphBinding.Proofs.Generation
import GraphBinding.Proofs.ObjectNames

namespace GraphBinding

/-! The query type as a whole: both accessors of every model, or the first that is taken.

Accessors are images of model names that may coincide, and the fields stand in one table with the
name of the type.  A field that is added under a free name goes to the end and hides nothing.
-/

namespace ObjectType

theorem entries_addFields (type : ObjectType) (fields : List OutputField) :
    (type.addFields fields).entries.entries =
      (fields.map fun field => (field.name, ObjectEntry.field field)).foldl
        (fun written entry => Entries.insert written entry.1 entry.2) type.entries.entries := by
  induction fields generalizing type with
  | nil => rfl
  | cons field rest ih =>
      change ((type.addField field).addFields rest).entries.entries = _
      rw [ih]
      rfl

theorem entries_addFields_of_nodup {type : ObjectType} {fields : List OutputField}
    (distinct : (type.entries.keys ++ fields.map OutputField.name).Nodup) :
    (type.addFields fields).entries.entries =
      type.entries.entries ++ fields.map fun field => (field.name, ObjectEntry.field field) := by
  rw [entries_addFields, Entries.foldl_insert_of_nodup]
  rw [Entries.keys, List.map_append, List.map_map]
  exact distinct

theorem addFields_append (type : ObjectType) (first last : List OutputField) :
    type.addFields (first ++ last) = (type.addFields first).addFields last :=
  List.foldl_append

end ObjectType

namespace Projection

def accessorFields (model : String) : List OutputField :=
  [findUniqueField model, findManyField model]

theorem names_accessorFields (models : List String) :
    (models.flatMap accessorFields).map OutputField.name = models.flatMap accessors := by
  rw [List.map_flatMap]
  rfl

theorem nameKey_not_mem_accessors (models : List String) :
    nameKey ∉ models.flatMap accessors := by
  intro taken
  obtain ⟨model, -, isAccessor⟩ := List.mem_flatMap.1 taken
  rcases List.mem_pair.1 isAccessor with unique | many
  · exact findUniqueName_ne_nameKey model unique.symm
  · exact findManyName_ne_nameKey model many.symm

theorem foldlM_addAccessors_eq {models : List String} {before query : ObjectType}
    (queried : models.foldlM addAccessors before = .ok query) :
    query = before.addFields (models.flatMap accessorFields) := by
  induction models generalizing before with
  | nil =>
      cases queried
      rfl
  | cons model rest ih =>
      obtain ⟨middle, added, queried⟩ := exists_of_foldlM_cons queried
      have next : middle = before.addFields (accessorFields model) := by
        unfold addAccessors at added
        split at added
        · cases added
        · exact (Except.ok.inj added).symm
      rw [ih queried, next, List.flatMap_cons, ObjectType.addFields_append]

/-- `model` is the first one with an accessor that an earlier model has, `accessor` is the first
such accessor of it, and `owner` is that earlier model. -/
def FirstTaken (models : List String) (accessor model owner : String) : Prop :=
  ∃ earlier later, models = earlier ++ model :: later ∧ (earlier.flatMap accessors).Nodup ∧
    owner ∈ earlier ∧ accessor ∈ accessors owner ∧
    (accessor = findUniqueName model ∨
      accessor = findManyName model ∧ findUniqueName model ∉ earlier.flatMap accessors)

theorem firstTaken_of_accessorClash? {earlier models : List String} {reason : GenerationError}
    (distinct : (earlier.flatMap accessors).Nodup)
    (clash : accessorClash? earlier models = some reason) :
    ∃ accessor model owner, reason = .accessorTaken accessor model owner ∧
      FirstTaken (earlier ++ models) accessor model owner := by
  induction models generalizing earlier with
  | nil => cases clash
  | cons model rest ih =>
      rw [accessorClash?] at clash
      rcases Option.or_eq_some_iff.1 clash with here | ⟨free, later⟩
      · rw [accessors, List.findSome?_cons, List.findSome?_cons, List.findSome?_nil] at here
        cases unique : earlier.find? (findUniqueName model ∈ accessors ·) with
        | some owner =>
            have owned := List.find?_some unique
            rw [unique] at here
            cases here
            exact ⟨_, model, owner, rfl, earlier, rest, rfl, distinct,
              List.mem_of_find?_eq_some unique, of_decide_eq_true owned, .inl rfl⟩
        | none =>
            have free : findUniqueName model ∉ earlier.flatMap accessors := by
              simpa using unique
            cases many : earlier.find? (findManyName model ∈ accessors ·) with
            | none =>
                rw [unique, many] at here
                cases here
            | some owner =>
                have owned := List.find?_some many
                rw [unique, many] at here
                cases here
                exact ⟨_, model, owner, rfl, earlier, rest, rfl, distinct,
                  List.mem_of_find?_eq_some many, of_decide_eq_true owned, .inr ⟨rfl, free⟩⟩
      · have distinctNext : ((earlier ++ [model]).flatMap accessors).Nodup := by
          rw [← accessorClash?_eq_none distinct, accessorClash?, free]
          rfl
        rw [List.append_cons]
        exact ih distinctNext later

/-- Nothing but a coincidence of accessors is refused. -/
theorem refusal?_queryObject_eq_none {models : List String} :
    refusal? (queryObject models) = none ↔ (models.flatMap accessors).Nodup := by
  rw [queryObject, refusal?_foldlM_addAccessors owns_new, accessorClash?_eq_none (by simp),
    List.nil_append]

theorem entries_queryObject {models : List String} {query : ObjectType}
    (queried : queryObject models = .ok query) :
    query.entries.entries =
      (nameKey, .name queryType) :: models.flatMap fun model =>
        (accessorFields model).map fun field => (field.name, .field field) := by
  have distinct : (models.flatMap accessors).Nodup :=
    refusal?_queryObject_eq_none.1 (refusal?_eq_none.2 ⟨query, queried⟩)
  have fresh : ((ObjectType.new .query queryType none).entries.keys ++
      (models.flatMap accessorFields).map OutputField.name).Nodup := by
    rw [names_accessorFields]
    exact List.nodup_cons.2 ⟨nameKey_not_mem_accessors models, distinct⟩
  rw [foldlM_addAccessors_eq queried, ObjectType.entries_addFields_of_nodup fresh,
    List.map_flatMap]
  rfl

end Projection

open Projection in
/-- The query type of some models is refused exactly if two accessors coincide, and then for the
first model with an accessor that is taken.  Otherwise it has its name and then, model by model,
a field for one record and a field for a page of records. -/
theorem query_has_all_accessors_or_one_is_taken (models : List String) :
    ((∃ reason, queryObject models = .error reason) ↔ ¬ (models.flatMap accessors).Nodup) ∧
      (∀ reason, queryObject models = .error reason → ∃ accessor model owner,
        reason = .accessorTaken accessor model owner ∧
          FirstTaken models accessor model owner) ∧
      ((models.flatMap accessors).Nodup → ∃ query, queryObject models = .ok query ∧
        query.entries.entries =
          (nameKey, .name queryType) :: models.flatMap fun model =>
            [(findUniqueName model, .field
                { name := findUniqueName model
                  type := .named model
                  arguments :=
                    .ofEntries [("where", .nonNull (.named (model ++ "WhereUniqueInput")))]
                  source := some (.findUnique model) }),
              (findManyName model, .field
                { name := findManyName model
                  type := .nonNull (.named (model ++ "List"))
                  arguments := .ofEntries
                    [("where", .named (model ++ "WhereInput")), ("take", .named "Int"),
                      ("skip", .named "Int")]
                  source := some (.findMany model) })]) := by
  refine ⟨?_, fun reason refused => ?_, fun distinct => ?_⟩
  · rw [← refusal?_queryObject_eq_none, ← ne_eq, Option.ne_none_iff_exists']
    simp only [refusal?_eq_some]
  · have clash : accessorClash? [] models = some reason := by
      rw [← refusal?_foldlM_addAccessors owns_new]
      exact refusal?_eq_some.2 refused
    exact firstTaken_of_accessorClash? (by simp) clash
  · obtain ⟨query, queried⟩ := refusal?_eq_none.1 (refusal?_queryObject_eq_none.2 distinct)
    exact ⟨query, queried, entries_queryObject queried⟩

open Projection in
/-- The page of users wants the name of the one record of `Users`. -/
theorem query_of_user_and_users :
    (∃ query, queryObject ["User", "Post"] = .ok query ∧
      query.entries.keys = ["$name", "user", "users", "post", "posts"]) ∧
    queryObject ["Post", "User", "Users"] = .error (.accessorTaken "users" "Users" "User") ∧
    FirstTaken ["Post", "User", "Users"] "users" "Users" "User" := by
  obtain ⟨-, -, exposes⟩ := query_has_all_accessors_or_one_is_taken ["User", "Post"]
  obtain ⟨-, names, -⟩ := query_has_all_accessors_or_one_is_taken ["Post", "User", "Users"]
  have refused : queryObject ["Post", "User", "Users"] =
      .error (.accessorTaken "users" "Users" "User") :=
    refusal?_eq_some.1 (by decide +kernel)
  constructor
  · obtain ⟨query, queried, entries⟩ := exposes (by decide +kernel)
    refine ⟨query, queried, ?_⟩
    rw [Table.keys, entries]
    decide +kernel
  · obtain ⟨accessor, model, owner, same, first⟩ := names _ refused
    cases same
    exact ⟨refused, first⟩

end GraphBinding
