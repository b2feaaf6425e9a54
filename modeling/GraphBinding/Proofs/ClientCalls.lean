import GraphBinding.Proofs.ClosedGraph
import GraphBinding.Proofs.Objects
import GraphBinding.Proofs.Precedence
import GraphBinding.Proofs.Resolutions

namespace GraphBinding

/-! The calls of a resolution: at most one, to the model of the field, and only when nothing speaks
against it.  What is counted is what is listed, whatever the page. -/

namespace Json

/-- The value under one name after the other. -/
def at? (value : Json) : List String → Option Json
  | [] => some value
  | name :: path => (value.get? name).bind (·.at? path)

def isPaged (arguments : Json) : Bool :=
  (arguments.paging? .take).isSome || (arguments.paging? .skip).isSome

end Json

namespace FieldSource

/-- The methods by which a field is read. -/
def methods (paged : Bool) : FieldSource → List Method
  | .findMany _ => if paged then [.findMany, .count] else [.findMany]
  | _ => [.findUnique]

def takesArguments : FieldSource → Bool
  | .relationOne .. => false
  | _ => true

def isRelation : FieldSource → Bool
  | .relationOne .. | .relationMany .. => true
  | _ => false

/-- The relation of which a field shows pages. -/
def listed? : FieldSource → Option String
  | .relationMany _ relation _ => some relation
  | _ => none

end FieldSource

def Schema.listedRelations (schema : Schema) : List String :=
  schema.graph.objects.flatMap fun object =>
    object.fields.filterMap fun field => field.source.bind FieldSource.listed?

def Call.requests : Call → List Request
  | .execute request => [request]
  | .transaction requests => requests

namespace Resolver

/-- Nothing about a source speaks against asking. -/
structure Prepared (resolver : Resolver) (parent arguments : Json) (client : DataClient)
    (source : FieldSource) : Prop where
  offered : ∀ method ∈ source.methods arguments.isPaged, client.offers source.model method = true
  nonnegative : source.takesArguments = true → arguments.Nonnegative
  identified : source.isRelation = true → ∃ identifiers,
    resolver.schema.identifiers? source.model = some identifiers ∧
      ∀ identifier ∈ identifiers, parent.lacks identifier = false

/-- A field has a source, the slot has a client that passes the check, and nothing speaks against
asking. -/
structure Ready (resolver : Resolver) (context : Context) (type field : String)
    (parent arguments : Json) (client : DataClient) (source : FieldSource) : Prop extends
    Prepared resolver parent arguments client source where
  sourced : (resolver.schema.field? type field).bind OutputField.source = some source
  found : context.find? resolver.settings.contextField = some client
  checked : ∀ problem,
    client.check resolver.schema.graph.models.keys resolver.settings ≠ .fail problem

end Resolver

/-- Under some arguments those records are counted that are listed under others. -/
structure CountsListed (counting listing : Json) : Prop where
  filter : counting.get? "where" = listing.get? "where"
  take : counting.get? "take" = none
  skip : counting.get? "skip" = none

/-- A call that reads a field from its own source. -/
structure Call.Reads (client : DataClient) (source : FieldSource) (paged : Bool) (call : Call) :
    Prop where
  own : ∀ request ∈ call.requests,
    request.model = source.model ∧ client.offers request.model request.method = true
  together : (∃ requests, call = .transaction requests) ↔
    (∃ model, source = .findMany model) ∧ paged = true
  counted : ∀ requests, call = .transaction requests → ∃ find count, requests = [find, count] ∧
    find.method = .findMany ∧ count.method = .count ∧
    CountsListed count.arguments find.arguments
  related : ∀ relation request, source.listed? = some relation → call = .execute request →
    ∃ listing counting, request.arguments.at? ["select", relation] = some listing ∧
      request.arguments.at? ["select", "_count", "select", relation] = some counting ∧
      CountsListed counting listing

namespace Resolver

open Resolving

variable {resolver : Resolver} {client : DataClient} {source : FieldSource} {model field : String}
  {parent arguments : Json} {request : RequestArguments}

/-- A resolution asks once, for its own source, or not at all where something speaks against it. -/
def Settles (resolver : Resolver) (parent arguments : Json) (client : DataClient)
    (source : FieldSource) (resolution : Resolving Json) : Prop :=
  (∃ call, resolution.Asks [call] ∧ resolver.Prepared parent arguments client source ∧
      call.Reads client source arguments.isPaged) ∨
    resolution.Asks [] ∧ ¬ resolver.Prepared parent arguments client source

theorem countsListed_pageMembers (request : RequestArguments) :
    CountsListed (.object (filterMember request.filter)) (.object (pageMembers request)) where
  filter := by simp [Json.get?, find?_filterMember, find?_pageMembers]
  take := by simp [Json.get?, find?_filterMember]
  skip := by simp [Json.get?, find?_filterMember]

theorem countsListed_selection (request : RequestArguments) :
    CountsListed (selection (filterMember request.filter)) (selection (pageMembers request)) where
  filter := by simp [get?_selection, find?_filterMember, find?_pageMembers]
  take := by simp [get?_selection, find?_filterMember]
  skip := by simp [get?_selection, find?_filterMember]

/-- Both parts of a selection are there, unless the relation has the name of the second. -/
theorem at?_relationSelection {relation : String} (apart : relation ≠ "_count") :
    (relationSelection relation request).at? [relation] =
        some (selection (pageMembers request)) ∧
      (relationSelection relation request).at? ["_count", "select", relation] =
        some (selection (filterMember request.filter)) := by
  have members : relationSelection relation request = .object
      [(relation, selection (pageMembers request)), ("_count", .object
        [("select", .object [(relation, selection (filterMember request.filter))])])] := by
    refine congrArg Json.object (Entries.collapse_of_nodup ?_)
    simp [apart]
  constructor <;> simp [members, Json.at?, Json.get?, Entries.find?_cons, apart]

/-- What both kinds of relation do: without the method or the parent's identifiers nothing is
asked, and otherwise the call for the parent's record. -/
theorem settles_of_clause {call : Json → Call} {next : Json → Resolving Json}
    (related : source.isRelation = true)
    (nonnegative : source.takesArguments = true → arguments.Nonnegative)
    (asks : ∀ clause, (next clause).Asks [call clause])
    (reads : client.offers source.model .findUnique = true → ∀ clause,
      (call clause).Reads client source arguments.isPaged) :
    resolver.Settles parent arguments client source (do
      require client source.model .findUnique
      next (← ofExcept (resolver.parentClause source.model parent))) := by
  have methods : source.methods arguments.isPaged = [.findUnique] := by
    cases source with
    | relationOne model relation => rfl
    | relationMany model relation target => rfl
    | findUnique model => rfl
    | findMany model => cases related
  by_cases offered : client.offers source.model .findUnique = true
  · cases clause : resolver.parentClause source.model parent with
    | ok value =>
        refine .inl ⟨call value, .required ((asks value).granted rfl) offered,
          ⟨?_, nonnegative, fun _ => parentClause_eq_ok.1 ⟨value, clause⟩⟩, reads offered value⟩
        simpa [methods] using offered
    | error error =>
        refine .inr ⟨.required (asks_of_refused rfl) offered, fun prepared => ?_⟩
        obtain ⟨value, made⟩ := parentClause_eq_ok.2 (prepared.identified related)
        rw [clause] at made
        cases made
  · refine .inr ⟨asks_of_missing offered, fun prepared => offered ?_⟩
    exact prepared.offered .findUnique (by simp [methods])

theorem settles_relationOne (relation : String) :
    resolver.Settles parent arguments client (.relationOne model relation)
      (resolver.relationOne client model relation parent) := by
  refine settles_of_clause rfl (by simp [FieldSource.takesArguments])
    (fun _ => (asks_execute _).decoded fun _ => asks_pure _) fun offered _ => ?_
  rw [FieldSource.model] at offered
  constructor <;> simp [Call.requests, FieldSource.model, FieldSource.listed?, offered]

theorem settles_relationMany {relation target : String} (apart : relation ≠ "_count")
    (nonnegative : arguments.Nonnegative) (request : RequestArguments) :
    resolver.Settles parent arguments client (.relationMany model relation target)
      (resolver.relationMany client model relation parent request) := by
  refine settles_of_clause rfl (fun _ => nonnegative)
    (fun _ => (asks_execute _).decoded fun record => ?_) fun offered _ => ?_
  · split
    · exact asks_pure _
    · split
      · exact asks_throw _
      · exact asks_pure _
  · rw [FieldSource.model] at offered
    obtain ⟨listing, counting⟩ := @at?_relationSelection request relation apart
    refine ⟨?_, ?_, ?_, ?_⟩
    · simp [Call.requests, FieldSource.model, offered]
    · simp
    · simp
    · intro other asked shown same
      cases shown
      cases same
      exact ⟨_, _, listing, counting, countsListed_selection request⟩

theorem settles_findUnique (nonnegative : arguments.Nonnegative) (request : RequestArguments) :
    resolver.Settles parent arguments client (.findUnique model)
      (findUnique client model request) := by
  by_cases offered : client.offers model .findUnique = true
  · refine .inl ⟨_, (asks_execute _).required offered, ⟨?_, fun _ => nonnegative, ?_⟩, ?_⟩
    · simp [FieldSource.methods, FieldSource.model, offered]
    · simp [FieldSource.isRelation]
    · constructor <;> simp [Call.requests, FieldSource.model, FieldSource.listed?, offered]
  · refine .inr ⟨asks_of_missing offered, fun prepared => offered ?_⟩
    exact prepared.offered .findUnique (by simp [FieldSource.methods])

theorem settles_findMany (nonnegative : arguments.Nonnegative)
    (take : request.take = arguments.paging? .take)
    (skip : request.skip = arguments.paging? .skip) :
    resolver.Settles parent arguments client (.findMany model)
      (findMany client model request) := by
  have unpaged : (request.take.isNone ∧ request.skip.isNone) ↔ arguments.isPaged = false := by
    simp [Json.isPaged, take, skip]
  have identified : (FieldSource.findMany model).isRelation = true → ∃ identifiers,
      resolver.schema.identifiers? model = some identifiers ∧
        ∀ identifier ∈ identifiers, parent.lacks identifier = false := by
    simp [FieldSource.isRelation]
  unfold findMany
  by_cases lists : client.offers model .findMany = true
  · cases paged : arguments.isPaged with
    | false =>
        simp only [if_pos (unpaged.2 paged)]
        refine .inl ⟨_, .required ((asks_execute _).decoded fun _ => asks_pure _) lists,
          ⟨?_, fun _ => nonnegative, identified⟩, ?_⟩
        · simp [FieldSource.methods, FieldSource.model, lists, paged]
        · constructor <;> simp [Call.requests, FieldSource.model, FieldSource.listed?, lists, paged]
    | true =>
        simp only [if_neg fun none => Bool.false_ne_true ((unpaged.1 none).symm.trans paged)]
        by_cases counts : client.offers model .count = true
        · refine .inl ⟨_, .required (.required ((asks_transact _).decoded fun results => ?_)
            counts) lists, ⟨?_, fun _ => nonnegative, identified⟩, ?_⟩
          · split
            · exact asks_throw _
            · exact asks_pure _
          · simp [FieldSource.methods, FieldSource.model, lists, counts, paged]
          · refine ⟨?_, ?_, ?_, ?_⟩
            · simp [Call.requests, FieldSource.model, lists, counts]
            · simp [paged]
            · intro requests same
              cases same
              exact ⟨_, _, rfl, rfl, rfl, countsListed_pageMembers request⟩
            · simp [FieldSource.listed?]
        · refine .inr ⟨.required (asks_of_missing counts) lists, fun prepared => counts ?_⟩
          exact prepared.offered .count (by simp [FieldSource.methods, paged])
  · refine .inr ⟨asks_of_missing lists, fun prepared => lists ?_⟩
    refine prepared.offered .findMany ?_
    cases paged : arguments.isPaged <;> simp [FieldSource.methods]

/-- Arguments are read before anything is asked. -/
theorem settles_of_arguments {type : String} {definition : OutputField}
    {next : RequestArguments → Resolving Json}
    (known : resolver.schema.field? type field = some definition)
    (takes : source.takesArguments = true)
    (settles : ∀ request : RequestArguments, arguments.Nonnegative →
      request.take = arguments.paging? .take → request.skip = arguments.paging? .skip →
      resolver.Settles parent arguments client source (next request)) :
    resolver.Settles parent arguments client source
      (ofExcept (RequestArguments.ofRequest resolver.schema type field arguments) >>= next) := by
  by_cases nonnegative : arguments.Nonnegative
  · obtain ⟨request, made, -, take, skip⟩ :=
      RequestArguments.ofRequest_of_nonnegative known nonnegative
    rcases settles request nonnegative take skip with ⟨call, asks, rest⟩ | ⟨silent, unprepared⟩
    · exact .inl ⟨call, asks.granted made, rest⟩
    · exact .inr ⟨silent.granted made, unprepared⟩
  · refine .inr ⟨?_, fun prepared => nonnegative (prepared.nonnegative takes)⟩
    cases made : RequestArguments.ofRequest resolver.schema type field arguments with
    | ok request =>
        exact absurd (RequestArguments.nonnegative_of_ofRequest known made) nonnegative
    | error error => exact asks_of_refused rfl

theorem mem_listedRelations {schema : Schema} {type relation target : String}
    {definition : OutputField} (known : schema.field? type field = some definition)
    (sourced : definition.source = some (.relationMany model relation target)) :
    relation ∈ schema.listedRelations := by
  obtain ⟨object, isObject, isField⟩ := Option.bind_eq_some_iff.1 known
  refine List.mem_flatMap.2 ⟨object, Projection.mem_objects_of_object? isObject, ?_⟩
  refine List.mem_filterMap.2 ⟨definition, ObjectType.mem_fields_of_field? isField, ?_⟩
  simp [sourced, FieldSource.listed?]

theorem Settles.lift {context : Context} {type : String} {resolution : Resolving Json}
    (settled : resolver.Settles parent arguments client source resolution)
    (sourced : (resolver.schema.field? type field).bind OutputField.source = some source)
    (passes : resolver.client context = .ok client) :
    (∃ call client source, resolution.Asks [call] ∧
        resolver.Ready context type field parent arguments client source ∧
        call.Reads client source arguments.isPaged) ∨
      resolution.Asks [] ∧
        ¬ ∃ client source, resolver.Ready context type field parent arguments client source := by
  obtain ⟨found, checked⟩ := client_eq_ok.1 passes
  rcases settled with ⟨call, asks, prepared, reads⟩ | ⟨silent, unprepared⟩
  · exact .inl ⟨call, client, source, asks, ⟨prepared, sourced, found, checked⟩, reads⟩
  · refine .inr ⟨silent, ?_⟩
    rintro ⟨other, origin, ready⟩
    cases ready.found.symm.trans found
    cases ready.sourced.symm.trans sourced
    exact unprepared ready.toPrepared

/-- A resolution makes one call or none.  There is one exactly if the field has a source, the slot
holds a client that passes the check and has the methods needed, no paging argument that is read is
negative, and the parent of a relation carries its identifiers.  The call reads the model of the
source by methods that the client offers.  It is a transaction exactly for a page of a root list,
of `findMany` and `count`.  Records are counted under the filter under which they are listed, and
without paging. -/
theorem asks_at_most_once (resolver : Resolver)
    (apart : "_count" ∉ resolver.schema.listedRelations) (context : Context)
    (type field : String) (parent arguments : Json) :
    (∃ call client source, (resolver.resolve context type field parent arguments).Asks [call] ∧
        resolver.Ready context type field parent arguments client source ∧
        call.Reads client source arguments.isPaged) ∨
      (resolver.resolve context type field parent arguments).Asks [] ∧
        ¬ ∃ client source, resolver.Ready context type field parent arguments client source := by
  unfold resolve
  cases known : resolver.schema.field? type field with
  | none =>
      refine .inr ⟨asks_throw _, ?_⟩
      rintro ⟨client, source, ready⟩
      simpa [known] using ready.sourced
  | some definition =>
      cases sourced : definition.source with
      | none =>
          simp only [sourced]
          refine .inr ⟨asks_pure _, ?_⟩
          rintro ⟨client, source, ready⟩
          simpa [known, sourced] using ready.sourced
      | some source =>
          simp only [sourced]
          cases held : resolver.client context with
          | error error =>
              refine .inr ⟨asks_of_refused rfl, ?_⟩
              rintro ⟨client, other, ready⟩
              have passes := client_eq_ok.2 ⟨ready.found, ready.checked⟩
              rw [held] at passes
              cases passes
          | ok client =>
              have origin : (resolver.schema.field? type field).bind OutputField.source =
                  some source := by
                simp [known, sourced]
              refine Settles.lift ?_ origin held
              cases source with
              | relationOne model relation => exact settles_relationOne relation
              | relationMany model relation target =>
                  have listed := mem_listedRelations known sourced
                  refine settles_of_arguments known rfl fun request nonnegative _ _ => ?_
                  exact settles_relationMany (fun same => apart (same ▸ listed)) nonnegative request
              | findUnique model =>
                  exact settles_of_arguments known rfl fun request nonnegative _ _ =>
                    settles_findUnique nonnegative request
              | findMany model =>
                  exact settles_of_arguments known rfl fun request nonnegative take skip =>
                    settles_findMany nonnegative take skip

/-- A client that offers all methods and refuses all calls. -/
def refusingClient : DataClient where
  identity := "@prisma/client"
  offers _ _ := true
  execute _ _ := .error "offline"
  transact _ _ := .error "offline"

def offline : Context := Table.empty.insert "prisma" refusingClient

def firstPosts (skip : Int) : Json :=
  .object [("where", .object [("slug", .null)]), ("take", .integer 2), ("skip", .integer skip)]

theorem asks_at_most_once_offline :
    ∃ schema, Schema.generate blog {} = .ok schema ∧ "_count" ∉ schema.listedRelations ∧
      (∃ call, (resolve ⟨schema, {}⟩ offline "User" "posts" (.object [("id", .integer 1)])
          (firstPosts 4)).Asks [call] ∧
        call.Reads refusingClient (.relationMany "User" "posts" "Post") true) ∧
      (resolve ⟨schema, {}⟩ offline "User" "posts" (.object [("id", .integer 1)])
        (firstPosts (-4))).Asks [] := by
  have computed : ∃ schema, Schema.generate blog {} = .ok schema ∧
      "_count" ∉ schema.listedRelations ∧
      (schema.field? "User" "posts").bind OutputField.source =
        some (.relationMany "User" "posts" "Post") ∧
      schema.identifiers? "User" = some ["id"] :=
    Schema.generated_of_check (by decide +kernel)
  obtain ⟨schema, generated, apart, sourced, identifiers⟩ := computed
  refine ⟨schema, generated, apart, ?_, ?_⟩
  · have ready : Ready ⟨schema, {}⟩ offline "User" "posts" (.object [("id", .integer 1)])
        (firstPosts 4) refusingClient (.relationMany "User" "posts" "Post") := by
      refine ⟨⟨fun _ _ => rfl, fun _ => ?_, fun _ => ⟨_, identifiers, by decide⟩⟩, sourced, rfl, ?_⟩
      · intro argument value given
        cases argument <;> cases given <;> decide
      · intro problem
        simp [DataClient.check, refusingClient]
    obtain ⟨call, client, source, asks, own, reads⟩ | ⟨-, none⟩ := asks_at_most_once ⟨schema, {}⟩
      apart offline "User" "posts" (.object [("id", .integer 1)]) (firstPosts 4)
    · cases own.found
      cases own.sourced.symm.trans sourced
      exact ⟨call, asks, reads⟩
    · exact absurd ⟨_, _, ready⟩ none
  · obtain ⟨call, client, source, -, own, -⟩ | ⟨silent, -⟩ := asks_at_most_once ⟨schema, {}⟩
      apart offline "User" "posts" (.object [("id", .integer 1)]) (firstPosts (-4))
    · cases own.sourced.symm.trans sourced
      exact absurd (by decide) (own.nonnegative rfl .skip (-4) rfl)
    · exact silent

end Resolver

end GraphBinding
