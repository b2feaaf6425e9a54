import GraphBinding.Arguments
import GraphBinding.Client.Check

namespace GraphBinding

/-! Resolving the fields of a schema at request time, and the pages that lists are shown in. -/

namespace Page

/-- The sum, if it fits. -/
def addFitting? (x y : Int64) : Option Int64 :=
  let sum := x.toInt + y.toInt
  if Int64.minValue.toInt ≤ sum ∧ sum ≤ Int64.maxValue.toInt then some (Int64.ofInt sum)
  else none

/-- Whether records follow a page that takes `take` records after skipping some.  Without
`take` none do, and none do after an end that does not fit. -/
def hasMore (total : Int64) (take skip : Option Int64) : Bool :=
  match take.bind fun take => addFitting? take (skip.getD 0) with
  | some last => last < total
  | none => false

/-- The page as a field's value. -/
def toJson (list : List Json) (total : Int64) (hasMore : Bool) : Json :=
  .object [("list", .array list), ("total", .ofInt64 total), ("hasMore", .boolean hasMore)]

end Page

/-- A schema bound to the runtime settings under which it answers. -/
structure Resolver where
  schema : Schema
  settings : RuntimeSettings

/-- A resolution that records the calls it makes to the client, also when it fails. -/
abbrev Resolving (α : Type) := ExceptT ResolveError (StateM (List Call)) α

namespace Resolving

/-- Records a call and takes the client's answer to it. -/
def ask {α : Type} (call : Call) (answer : List Call → Except String α) : Resolving α := do
  let history ← get
  set (history ++ [call])
  ofExcept ((answer history).mapError ResolveError.refused)

def execute (client : DataClient) (request : Request) : Resolving Json :=
  ask (.execute request) fun history => client.execute history request

def transact (client : DataClient) (requests : List Request) : Resolving (List Json) :=
  ask (.transaction requests) fun history => client.transact history requests

/-- Stops unless the client offers a method. -/
def require (client : DataClient) (model : String) (method : Method) : Resolving Unit :=
  if client.offers model method then pure () else throw (.missingMethod model method)

end Resolving

namespace Resolver

open Resolving

def filterMember (filter : Option Json) : List (String × Json) :=
  filter.toList.map fun filter => ("where", filter)

/-- Native arguments that select a page. -/
def pageMembers (request : RequestArguments) : List (String × Json) :=
  filterMember request.filter ++
    request.take.toList.map (fun take => ("take", .ofInt64 take)) ++
    request.skip.toList.map (fun skip => ("skip", .ofInt64 skip))

/-- A selection of related records: `true` when nothing narrows it. -/
def selection (members : List (String × Json)) : Json :=
  if members.isEmpty then .boolean true else .object members

def listOf : Json → List Json
  | .array items => items
  | _ => []

/-- The clause that finds the record of a parent value. -/
def parentClause (resolver : Resolver) (model : String) (parent : Json) :
    Except ResolveError Json :=
  match resolver.schema.identifiers? model with
  | none => .error (.unknownModel model)
  | some identifiers => uniqueClause model identifiers parent

/-- The checked data client of a context. -/
def client (resolver : Resolver) (context : Context) : Except ResolveError DataClient :=
  match context.find? resolver.settings.contextField with
  | none => .error (.missingClient resolver.settings.contextField)
  | some client => do
      (client.check resolver.schema.graph.models.keys resolver.settings).enforce
      return client

def relationOne (resolver : Resolver) (client : DataClient) (model field : String)
    (parent : Json) : Resolving Json := do
  require client model .findUnique
  let clause ← ofExcept (resolver.parentClause model parent)
  let record ← execute client
    { model, method := .findUnique
      arguments := .object [("where", clause), ("select", .object [(field, .boolean true)])] }
  return record.getD field

/-- Selects the page and, under the same filter, the number of all related records. -/
def relationSelection (field : String) (request : RequestArguments) : Json :=
  .object (Entries.collapse
    [(field, selection (pageMembers request)),
      ("_count", .object [("select", .object [(field, selection (filterMember request.filter))])])])

def relationMany (resolver : Resolver) (client : DataClient) (model field : String)
    (parent : Json) (request : RequestArguments) : Resolving Json := do
  require client model .findUnique
  let clause ← ofExcept (resolver.parentClause model parent)
  let record ← execute client
    { model, method := .findUnique
      arguments := .object [("where", clause), ("select", relationSelection field request)] }
  if record.isNull then return Page.toJson [] 0 false
  match ((record.get? "_count").bind (·.get? field)).bind Json.asInt64? with
  | none => throw (.noRelationCount model field)
  | some total =>
      return Page.toJson (listOf (record.getD field)) total
        (Page.hasMore total request.take request.skip)

def findUnique (client : DataClient) (model : String) (request : RequestArguments) :
    Resolving Json := do
  require client model .findUnique
  execute client
    { model, method := .findUnique
      arguments := .object [("where", request.filter.getD (.object []))] }

/-- Without paging the list is complete, and its length the total.  With paging the total is
counted in the same transaction. -/
def findMany (client : DataClient) (model : String) (request : RequestArguments) :
    Resolving Json := do
  require client model .findMany
  let find : Request := { model, method := .findMany, arguments := .object (pageMembers request) }
  if request.take.isNone ∧ request.skip.isNone then
    let list := listOf (← execute client find)
    return Page.toJson list (Int64.ofNat list.length) false
  else
    require client model .count
    let count : Request :=
      { model, method := .count, arguments := .object (filterMember request.filter) }
    let results ← transact client [find, count]
    match results[1]?.bind Json.asInt64? with
    | none => throw (.noCount model)
    | some total =>
        return Page.toJson (listOf (results[0]?.getD .null)) total
          (Page.hasMore total request.take request.skip)

/-- The value of a field for a parent value.  A field without a source is the parent's
property of that name. -/
def resolve (resolver : Resolver) (context : Context) (type field : String)
    (parent arguments : Json) : Resolving Json :=
  match resolver.schema.field? type field with
  | none => throw (.unknownField type field)
  | some definition =>
      match definition.source with
      | none => return parent.getD field
      | some source => do
          let client ← ofExcept (resolver.client context)
          let request := RequestArguments.ofRequest resolver.schema type field arguments
          match source with
          | .relationOne model relation => resolver.relationOne client model relation parent
          | .relationMany model relation _ => do
              resolver.relationMany client model relation parent (← ofExcept request)
          | .findUnique model => do findUnique client model (← ofExcept request)
          | .findMany model => do findMany client model (← ofExcept request)

end Resolver

end GraphBinding
