import GraphBinding.Proofs.ClientCalls
import GraphBinding.Proofs.DeclaredAliases
import GraphBinding.Proofs.ParentLookup

namespace GraphBinding

/-! Relations of a generated schema address one record.

Generation refuses a model without identifiers, and one whose identifiers are no fields.  So the
clause by which a relation looks up its parent gives every identifier a value of the parent, and
there is at least one. -/

/-- The clause looks up a record by all of some identifiers.  None of their values is null. -/
inductive Json.Pins (record : Json) : List String → Json → Prop where
  | one {identifier : String} {value : Json} (own : record.get? identifier = some value)
      (given : value.isNull = false) : Pins record [identifier] (.object [(identifier, value)])
  | several {identifiers : List String} {members : List (String × Json)}
      (several : 2 ≤ identifiers.length)
      (complete : ∀ identifier ∈ identifiers, identifier ∈ Entries.keys members)
      (own : ∀ entry ∈ members, record.get? entry.1 = some entry.2)
      (given : ∀ entry ∈ members, entry.2.isNull = false) :
      Pins record identifiers (.object [(compoundKeyName identifiers, .object members)])

theorem uniqueClause_pins {model : String} {identifiers : List String} {record clause : Json}
    (identified : identifiers ≠ []) (made : uniqueClause model identifiers record = .ok clause) :
    record.Pins identifiers clause := by
  have present := uniqueClause_eq_ok.1 ⟨clause, made⟩
  have complete : identifiers.find? record.lacks = none := by
    simpa [List.find?_eq_none] using present
  rcases identifiers with _ | ⟨first, _ | ⟨second, rest⟩⟩
  · exact absurd rfl identified
  · rw [uniqueClause_single complete] at made
    cases made
    have given := present first (by simp)
    exact .one (Json.get?_of_not_lacks given) given
  · have several : 2 ≤ (first :: second :: rest).length := by simp
    rw [uniqueClause_several complete several] at made
    cases made
    refine .several several (fun identifier member => ?_)
      (fun entry => Json.get?_of_mem_membersAt complete) fun entry member => ?_
    · rw [Entries.mem_keys_collapse, Entries.keys, Json.membersAt, List.map_map]
      simpa using member
    · obtain ⟨identifier, isIdentifier, rfl⟩ :=
        List.mem_map.1 (Entries.mem_of_mem_collapse member)
      exact present identifier isIdentifier

namespace Projection

variable {document : Document} {settings : Settings} {output : OutputField} {source : FieldSource}

theorem model_outputField {model : Model} {field : Field}
    (made : outputField settings model field = .ok output)
    (sourced : output.source = some source) : source.model = model.name := by
  unfold outputField at made
  dsimp only at made
  split at made
  · cases made
    cases sourced
    rfl
  · cases typed : field.typeRef model settings.idProjection with
    | error reason =>
        rw [typed] at made
        cases made
    | ok type =>
        rw [typed] at made
        cases made
        dsimp only at sourced
        split at sourced
        · cases sourced
          rfl
        · cases sourced

theorem Makes.model_of_source (makes : Makes document settings output)
    (sourced : output.source = some source) :
    ∃ model ∈ document.models, source.model = model.name := by
  cases makes with
  | property ofDocument ofModel made => exact ⟨_, ofDocument, model_outputField made sourced⟩
  | page ofDocument ofPage =>
      rw [fields_listResult] at ofPage
      simp only [List.mem_cons, List.not_mem_nil, or_false] at ofPage
      rcases ofPage with rfl | rfl | rfl <;> cases sourced
  | accessor ofDocument made =>
      rcases made with rfl | rfl
      · cases sourced
        exact ⟨_, ofDocument, rfl⟩
      · cases sourced
        exact ⟨_, ofDocument, rfl⟩

end Projection

namespace Schema

/-- Every source reads from a model that has identifiers. -/
def Identifies (schema : Schema) : Prop :=
  ∀ type field source, (schema.field? type field).bind OutputField.source = some source →
    ∃ identifiers, schema.identifiers? source.model = some identifiers ∧ identifiers ≠ []

variable {document : Document} {settings : Settings} {schema : Schema}

theorem find?_identifiers_of_generate (generated : generate document settings = .ok schema)
    {model : Model} (member : model ∈ document.models) :
    ∃ identifiers, schema.identifiers? model.name = some identifiers ∧ identifiers ≠ [] ∧
      ∀ identifier ∈ identifiers, model.field? identifier ≠ none := by
  have accepted := Projection.accepted_of_generate generated
  obtain ⟨graph, draft, -, renamed, rfl⟩ := drafted_of_generate generated
  have kept : draft.identifiers = document.identifiers := by
    rw [(Draft.renames_of_renameAll renamed).others]
    rfl
  have known := Document.find?_identifiers (Document.nodup_of_accessors accepted.accessors) member
  have identifying := accepted.identifying model member
  obtain ⟨identifiers, identified⟩ :=
    Option.ne_none_iff_exists'.1 (accepted.identified model member)
  rw [identified, Option.getD_some] at known identifying
  refine ⟨identifiers, ?_, ?_, identifying⟩
  · rw [← known, ← kept]
    rfl
  · rintro rfl
    exact Model.identifiers?_ne_nil identified

theorem identifies_of_generate (generated : generate document settings = .ok schema) :
    schema.Identifies := by
  intro type field source read
  obtain ⟨output, known, sourced⟩ := Option.bind_eq_some_iff.1 read
  obtain ⟨object, isObject, isField⟩ := Option.bind_eq_some_iff.1 known
  have makes : ∃ model ∈ document.models, source.model = model.name := by
    obtain ⟨graph, draft, assembled, -, rfl⟩ := drafted_of_generate generated
    have made := Projection.makes_of_mem_objects assembled
      (Projection.mem_objects_of_object? isObject) (ObjectType.mem_fields_of_field? isField)
    exact made.model_of_source sourced
  obtain ⟨model, member, same⟩ := makes
  obtain ⟨identifiers, found, identified, -⟩ := find?_identifiers_of_generate generated member
  exact ⟨identifiers, same ▸ found, identified⟩

end Schema

namespace Resolving

variable {α β : Type} {calls : Call → Prop} {errors : ResolveError → Prop}

/-- Whatever was asked before and however the client answers, all calls are of one kind, and so
is the error if there is one. -/
structure Confined (calls : Call → Prop) (errors : ResolveError → Prop)
    (resolution : Resolving α) : Prop where
  asked : ∀ history, ∃ made, (perform resolution history).2 = history ++ made ∧
    ∀ call ∈ made, calls call
  failed : ∀ history error, (perform resolution history).1 = .error error → errors error

namespace Confined

theorem pure (value : α) : Confined calls errors (Pure.pure value) where
  asked _ := ⟨[], by simp⟩
  failed _ _ failed := by cases failed

theorem throw {error : ResolveError} (allowed : errors error) :
    Confined calls errors (throw error : Resolving α) where
  asked history := ⟨[], (List.append_nil history).symm, by simp⟩
  failed _ _ failed := by
    cases failed
    exact allowed

theorem execute {client : DataClient} {request : Request} (allowed : calls (.execute request))
    (refusing : ∀ text, errors (.refused text)) :
    Confined calls errors (execute client request) where
  asked _ := ⟨[.execute request], by simp, by simpa using allowed⟩
  failed history error failed := by
    rw [perform_execute] at failed
    cases answer : client.execute history request with
    | ok value =>
        rw [answer] at failed
        cases failed
    | error text =>
        rw [answer] at failed
        cases failed
        exact refusing text

theorem transact {client : DataClient} {requests : List Request}
    (allowed : calls (.transaction requests)) (refusing : ∀ text, errors (.refused text)) :
    Confined calls errors (transact client requests) where
  asked _ := ⟨[.transaction requests], by simp, by simpa using allowed⟩
  failed history error failed := by
    rw [perform_transact] at failed
    cases answer : client.transact history requests with
    | ok value =>
        rw [answer] at failed
        cases failed
    | error text =>
        rw [answer] at failed
        cases failed
        exact refusing text

variable {next : α → Resolving β}

theorem bind {first : Resolving α} (begins : Confined calls errors first)
    (continues : ∀ value, Confined calls errors (next value)) :
    Confined calls errors (first >>= next) where
  asked history := by
    obtain ⟨made, asked, allowed⟩ := begins.asked history
    rw [perform_bind]
    rcases performed : perform first history with ⟨answer, later⟩
    rw [performed] at asked
    obtain rfl := asked
    cases answer with
    | error error => exact ⟨made, rfl, allowed⟩
    | ok value =>
        obtain ⟨more, askedMore, allowedMore⟩ := (continues value).asked (history ++ made)
        refine ⟨made ++ more, by rw [askedMore, List.append_assoc], fun call member => ?_⟩
        exact (List.mem_append.1 member).elim (allowed call) (allowedMore call)
  failed history error failed := by
    rw [perform_bind] at failed
    rcases performed : perform first history with ⟨answer, later⟩
    rw [performed] at failed
    cases answer with
    | error reason =>
        cases failed
        exact begins.failed history error (congrArg Prod.fst performed)
    | ok value => exact (continues value).failed later error failed

/-- What follows may rely on the value that was granted. -/
theorem granted {answer : Except ResolveError α}
    (refusing : ∀ error, answer = .error error → errors error)
    (continues : ∀ value, answer = .ok value → Confined calls errors (next value)) :
    Confined calls errors (ofExcept answer >>= next) := by
  cases answer with
  | error error =>
      have same : (ofExcept (.error error) >>= next : Resolving β) = MonadExcept.throw error := rfl
      rw [same]
      exact throw (refusing error rfl)
  | ok value => exact continues value rfl

theorem required {client : DataClient} {model : String} {method : Method}
    {next : Unit → Resolving β} (missing : errors (.missingMethod model method))
    (continues : Confined calls errors (next ())) :
    Confined calls errors (require client model method >>= next) := by
  refine bind ?_ fun _ => continues
  unfold require
  split
  · exact pure ()
  · exact throw missing

end Confined

end Resolving

/-- The error does not come from what is unknown, unless the schema has no such field. -/
def Schema.Explains (schema : Schema) (type field : String) : ResolveError → Prop
  | .unknownModel _ => False
  | .unknownField _ _ => schema.field? type field = none
  | _ => True

/-- What is looked up for a relation is the record of the parent. -/
def Schema.LooksUp (schema : Schema) (parent : Json) (source : FieldSource) (call : Call) : Prop :=
  source.isRelation = true → ∀ request ∈ call.requests, request.method = .findUnique →
    ∃ identifiers clause, schema.identifiers? source.model = some identifiers ∧
      request.arguments.get? "where" = some clause ∧ parent.Pins identifiers clause

namespace RequestArguments

variable {schema : Schema} {parent field : String} {raw : Json}

theorem paging_eq_error {argument : PagingArgument} {error : ResolveError}
    (refused : paging parent field raw argument = .error error) :
    ∃ value, error = .negativeArgument parent field argument value := by
  unfold paging at refused
  split at refused
  · split at refused
    · cases refused
      exact ⟨_, rfl⟩
    · cases refused
  · cases refused

theorem explains_of_ofRequest {definition : OutputField} {error : ResolveError}
    (known : schema.field? parent field = some definition)
    (refused : ofRequest schema parent field raw = .error error) :
    schema.Explains parent field error := by
  simp only [ofRequest, known] at refused
  cases take : paging parent field raw .take with
  | error reason =>
      rw [take] at refused
      obtain ⟨value, rfl⟩ := paging_eq_error take
      cases refused
      trivial
  | ok value =>
      cases skip : paging parent field raw .skip with
      | error reason =>
          rw [take, skip] at refused
          obtain ⟨value, rfl⟩ := paging_eq_error skip
          cases refused
          trivial
      | ok value =>
          rw [take, skip] at refused
          cases refused

end RequestArguments

namespace Resolver

open Resolving

variable {resolver : Resolver} {client : DataClient} {type field model : String}
  {parent arguments : Json} {source : FieldSource} {identifiers : List String}

theorem explains_of_client {context : Context} {error : ResolveError}
    (refused : resolver.client context = .error error) :
    resolver.schema.Explains type field error := by
  unfold Resolver.client at refused
  split at refused
  · cases refused
    trivial
  · rename_i found _
    cases outcome : found.check resolver.schema.graph.models.keys resolver.settings with
    | fail problem =>
        rw [outcome] at refused
        cases refused
        trivial
    | _ =>
        rw [outcome] at refused
        cases refused

theorem confined_lookup {calls : Call → Prop} {next : Json → Resolving Json}
    (known : resolver.schema.identifiers? model = some identifiers) (identified : identifiers ≠ [])
    (continues : ∀ clause, parent.Pins identifiers clause →
      Confined calls (resolver.schema.Explains type field) (next clause)) :
    Confined calls (resolver.schema.Explains type field) (do
      require client model .findUnique
      next (← ofExcept (resolver.parentClause model parent))) := by
  have clauses : resolver.parentClause model parent = uniqueClause model identifiers parent := by
    simp only [parentClause, known]
  rw [clauses]
  refine .required trivial (.granted (fun error refused => ?_) fun clause made => ?_)
  · obtain ⟨identifier, -, rfl⟩ := uniqueClause_eq_error.1 refused
    trivial
  · exact continues clause (uniqueClause_pins identified made)

theorem confined_relationOne {relation : String}
    (known : resolver.schema.identifiers? model = some identifiers)
    (identified : identifiers ≠ []) :
    Confined (resolver.schema.LooksUp parent (.relationOne model relation))
      (resolver.schema.Explains type field)
      (resolver.relationOne client model relation parent) := by
  refine confined_lookup known identified fun clause pins => ?_
  refine .bind (.execute ?_ fun _ => trivial) fun record => .pure _
  intro _ request member _
  obtain rfl := List.mem_singleton.1 member
  exact ⟨identifiers, clause, known, rfl, pins⟩

theorem confined_relationMany {relation target : String} (request : RequestArguments)
    (known : resolver.schema.identifiers? model = some identifiers)
    (identified : identifiers ≠ []) :
    Confined (resolver.schema.LooksUp parent (.relationMany model relation target))
      (resolver.schema.Explains type field)
      (resolver.relationMany client model relation parent request) := by
  refine confined_lookup known identified fun clause pins => ?_
  refine .bind (.execute ?_ fun _ => trivial) fun record => ?_
  · intro _ asked member _
    obtain rfl := List.mem_singleton.1 member
    exact ⟨identifiers, clause, known, rfl, pins⟩
  · split
    · exact .pure _
    · split
      · exact .throw trivial
      · exact .pure _

theorem confined_findUnique (request : RequestArguments) :
    Confined (resolver.schema.LooksUp parent (.findUnique model))
      (resolver.schema.Explains type field) (findUnique client model request) :=
  .required trivial (.execute (fun related => by cases related) fun _ => trivial)

theorem confined_findMany (request : RequestArguments) :
    Confined (resolver.schema.LooksUp parent (.findMany model))
      (resolver.schema.Explains type field) (findMany client model request) := by
  have elsewhere (call : Call) : resolver.schema.LooksUp parent (.findMany model) call :=
    fun related => by cases related
  unfold findMany
  refine .required trivial ?_
  split
  · exact .bind (.execute (elsewhere _) fun _ => trivial) fun _ => .pure _
  · refine .required trivial (.bind (.transact (elsewhere _) fun _ => trivial) fun results => ?_)
    split
    · exact .throw trivial
    · exact .pure _

theorem confined_resolve (identifies : resolver.schema.Identifies) (context : Context) :
    Confined
      (fun call => ∀ source, (resolver.schema.field? type field).bind OutputField.source =
        some source → resolver.schema.LooksUp parent source call)
      (resolver.schema.Explains type field)
      (resolver.resolve context type field parent arguments) := by
  unfold resolve
  cases known : resolver.schema.field? type field with
  | none => exact .throw known
  | some definition =>
      cases sourced : definition.source with
      | none =>
          simp only [sourced]
          exact .pure _
      | some source =>
          simp only [Option.bind_some, sourced, Option.some.injEq, forall_eq']
          have origin : (resolver.schema.field? type field).bind OutputField.source =
              some source := by
            rw [known, Option.bind_some, sourced]
          obtain ⟨identifiers, found, identified⟩ := identifies type field source origin
          refine .granted (fun _ => explains_of_client) fun client _ => ?_
          cases source with
          | relationOne model relation => exact confined_relationOne found identified
          | relationMany model relation target =>
              exact .granted (fun _ => RequestArguments.explains_of_ofRequest known)
                fun request _ => confined_relationMany request found identified
          | findUnique model =>
              exact .granted (fun _ => RequestArguments.explains_of_ofRequest known)
                fun request _ => confined_findUnique request
          | findMany model =>
              exact .granted (fun _ => RequestArguments.explains_of_ofRequest known)
                fun request _ => confined_findMany request

end Resolver

/-- Every model of a generated schema has identifiers, which are fields of it.  So no resolution
finds a model unknown, none finds a field unknown that the schema has, and a relation looks up its
parent by a value for every identifier. -/
theorem relations_address_one_record {document : Document} {settings : Settings} {schema : Schema}
    (generated : Schema.generate document settings = .ok schema) :
    (∀ model ∈ document.models, ∃ identifiers,
      schema.identifiers? model.name = some identifiers ∧ identifiers ≠ [] ∧
        ∀ identifier ∈ identifiers, model.field? identifier ≠ none) ∧
    ∀ (runtime : RuntimeSettings) (context : Context) (type field : String)
      (parent arguments : Json) (history : List Call),
      let run := Resolving.perform
        (Resolver.resolve ⟨schema, runtime⟩ context type field parent arguments) history
      (∀ model, run.1 ≠ .error (.unknownModel model)) ∧
        (∀ owner name, run.1 = .error (.unknownField owner name) →
          schema.field? type field = none) ∧
        ∃ calls, run.2 = history ++ calls ∧ ∀ call ∈ calls, ∀ request ∈ call.requests,
          ∀ source, (schema.field? type field).bind OutputField.source = some source →
            source.isRelation = true → request.method = .findUnique →
              ∃ identifiers clause, schema.identifiers? source.model = some identifiers ∧
                request.arguments.get? "where" = some clause ∧
                parent.Pins identifiers clause := by
  refine ⟨fun model => Schema.find?_identifiers_of_generate generated, ?_⟩
  intro runtime context type field parent arguments history
  have identifies := Schema.identifies_of_generate generated
  have confined : Resolving.Confined _ _
      (Resolver.resolve ⟨schema, runtime⟩ context type field parent arguments) :=
    Resolver.confined_resolve identifies context
  refine ⟨fun model unknown => confined.failed history _ unknown,
    fun owner name => confined.failed history _, ?_⟩
  obtain ⟨calls, asked, allowed⟩ := confined.asked history
  exact ⟨calls, asked, fun call member request isAsked source sourced related =>
    allowed call member source sourced related request isAsked⟩

/-- The record that two identifiers find together is looked up for its author. -/
theorem relations_address_one_record_blog :
    ∃ schema, Schema.generate blog {} = .ok schema ∧
      ∃ request clause, request.method = .findUnique ∧
        (∃ call ∈ (Resolving.perform (Resolver.resolve ⟨schema, {}⟩ Resolver.offline "Post" "author"
          (blogEntry (.string "first")) .null) []).2, request ∈ call.requests) ∧
        request.arguments.get? "where" = some clause ∧
        (blogEntry (.string "first")).Pins ["writer", "slug"] clause := by
  have computed : ∃ schema, Schema.generate blog {} = .ok schema ∧
      schema.identifiers? "Post" = some ["writer", "slug"] ∧
      (schema.field? "Post" "author").bind OutputField.source =
        some (.relationOne "Post" "author") ∧
      (Resolving.perform (Resolver.resolve ⟨schema, {}⟩ Resolver.offline "Post" "author"
        (blogEntry (.string "first")) .null) []).2.map (·.requests.map Request.method) =
          [[.findUnique]] :=
    Schema.generated_of_check (by decide +kernel)
  obtain ⟨schema, generated, known, sourced, methods⟩ := computed
  obtain ⟨call, asked, requests⟩ := List.map_eq_singleton_iff.1 methods
  obtain ⟨request, isRequest, method⟩ := List.map_eq_singleton_iff.1 requests
  have member : request ∈ call.requests := by simp [isRequest]
  obtain ⟨-, resolved⟩ := relations_address_one_record generated
  obtain ⟨-, -, calls, ran, lookups⟩ := resolved {} Resolver.offline "Post" "author"
    (blogEntry (.string "first")) .null []
  have isCall : call ∈ calls := by
    rw [List.nil_append] at ran
    simp [← ran, asked]
  obtain ⟨identifiers, clause, found, given, pins⟩ :=
    lookups call isCall request member _ sourced rfl method
  cases found.symm.trans known
  exact ⟨schema, generated, request, clause, method, ⟨call, by simp [asked], member⟩, given, pins⟩

end GraphBinding
