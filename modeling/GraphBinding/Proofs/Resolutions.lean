import GraphBinding.Proofs.UniqueClauses
import GraphBinding.Resolver

namespace GraphBinding

/-! How a resolution runs: its answer, and what it asks of the client on the way. -/

namespace Resolving

variable {α β : Type} {history : List Call} {client : DataClient}

/-- The answer after a history of calls, and that history with the resolution's own calls. -/
def perform (resolution : Resolving α) (history : List Call) :
    Except ResolveError α × List Call :=
  resolution.run.run history

@[simp] theorem perform_pure (value : α) : perform (pure value) history = (.ok value, history) :=
  rfl

@[simp] theorem perform_ofExcept (answer : Except ResolveError α) :
    perform (ofExcept answer) history = (answer, history) := by
  cases answer <;> rfl

theorem perform_bind (first : Resolving α) (next : α → Resolving β) :
    perform (first >>= next) history =
      match perform first history with
      | (.ok value, later) => perform (next value) later
      | (.error error, later) => (.error error, later) := by
  simp only [perform, ExceptT.run_bind, StateT.run_bind]
  rcases first.run.run history with ⟨answer, later⟩
  cases answer <;> rfl

@[simp] theorem perform_require (model : String) (method : Method) :
    perform (require client model method) history =
      (if client.offers model method then .ok () else .error (.missingMethod model method),
        history) := by
  unfold require
  split <;> rfl

@[simp] theorem perform_execute (request : Request) :
    perform (execute client request) history =
      ((client.execute history request).mapError .refused, history ++ [.execute request]) := by
  unfold execute ask
  simp only [perform_bind]
  exact perform_ofExcept _

@[simp] theorem perform_transact (requests : List Request) :
    perform (transact client requests) history =
      ((client.transact history requests).mapError .refused,
        history ++ [.transaction requests]) := by
  unfold transact ask
  simp only [perform_bind]
  exact perform_ofExcept _

/-- The calls that a resolution makes, whatever was asked before and however the client
answers. -/
def Asks (resolution : Resolving α) (calls : List Call) : Prop :=
  ∀ history, (perform resolution history).2 = history ++ calls

theorem asks_pure (value : α) : Asks (pure value) [] := by simp [Asks]

theorem asks_throw (error : ResolveError) : Asks (throw error : Resolving α) [] :=
  fun history => (List.append_nil history).symm

theorem asks_execute (request : Request) : Asks (execute client request) [.execute request] := by
  simp [Asks]

theorem asks_transact (requests : List Request) :
    Asks (transact client requests) [.transaction requests] := by
  simp [Asks]

variable {first : Resolving α} {next : α → Resolving β} {calls : List Call} {model : String}
  {method : Method}

theorem Asks.required {next : Unit → Resolving β} (asks : Asks (next ()) calls)
    (offered : client.offers model method = true) :
    Asks (require client model method >>= next) calls := by
  intro history
  simp [perform_bind, offered, asks history]

theorem asks_of_missing {next : Unit → Resolving β}
    (missing : ¬ client.offers model method = true) :
    Asks (require client model method >>= next) [] := by
  intro history
  simp [perform_bind, missing]

theorem Asks.granted {answer : Except ResolveError α} {value : α} (asks : Asks (next value) calls)
    (granted : answer = .ok value) : Asks (ofExcept answer >>= next) calls := by
  intro history
  simp [perform_bind, granted, asks history]

theorem asks_of_refused {answer : Except ResolveError α} {error : ResolveError}
    (refused : answer = .error error) : Asks (ofExcept answer >>= next) [] := by
  intro history
  simp [perform_bind, refused]

theorem Asks.decoded (asks : Asks first calls) (silent : ∀ value, Asks (next value) []) :
    Asks (first >>= next) calls := by
  intro history
  have asked := asks history
  rw [perform_bind]
  rcases performed : perform first history with ⟨answer, later⟩
  rw [performed] at asked
  cases answer with
  | error => exact asked
  | ok value => simpa [silent value later] using asked

end Resolving

namespace Json

/-- A paging argument, as far as it is an integer of 64 bits. -/
def paging? (arguments : Json) (argument : PagingArgument) : Option Int64 :=
  (arguments.get? argument.name).bind asInt64?

def Nonnegative (arguments : Json) : Prop :=
  ∀ argument value, arguments.paging? argument = some value → ¬ value < 0

end Json

namespace RequestArguments

variable {schema : Schema} {parent field : String} {raw : Json} {definition : OutputField}

theorem paging_of_nonnegative {argument : PagingArgument}
    (nonnegative : ∀ value, raw.paging? argument = some value → ¬ value < 0) :
    paging parent field raw argument = .ok (raw.paging? argument) := by
  unfold paging
  cases given : raw.paging? argument with
  | none =>
      rw [show (raw.get? argument.name).bind Json.asInt64? = none from given]
  | some value =>
      rw [show (raw.get? argument.name).bind Json.asInt64? = some value from given]
      simp [nonnegative value given]

theorem paging_of_negative {argument : PagingArgument} {value : Int64}
    (given : raw.paging? argument = some value) (negative : value < 0) :
    paging parent field raw argument = .error (.negativeArgument parent field argument value) := by
  unfold paging
  rw [show (raw.get? argument.name).bind Json.asInt64? = some value from given]
  simp [negative]

theorem ofRequest_of_nonnegative (known : schema.field? parent field = some definition)
    (nonnegative : raw.Nonnegative) :
    ∃ request, ofRequest schema parent field raw = .ok request ∧
      request.filter = filterOf schema (definition.arguments.find? "where") raw ∧
      request.take = raw.paging? .take ∧ request.skip = raw.paging? .skip := by
  simp only [ofRequest, known, paging_of_nonnegative (nonnegative _)]
  exact ⟨_, rfl, rfl, rfl, rfl⟩

/-- Only negative arguments are refused. -/
theorem nonnegative_of_ofRequest (known : schema.field? parent field = some definition)
    {request : RequestArguments} (made : ofRequest schema parent field raw = .ok request) :
    raw.Nonnegative := by
  intro argument value given negative
  have refused := @paging_of_negative parent field raw argument value given negative
  simp only [ofRequest, known] at made
  cases argument with
  | take =>
      rw [refused] at made
      cases made
  | skip =>
      rw [refused] at made
      cases answer : paging parent field raw .take <;> rw [answer] at made <;> cases made

end RequestArguments

namespace Resolver

variable {resolver : Resolver} {context : Context} {request : RequestArguments}

theorem client_eq_ok {client : DataClient} :
    resolver.client context = .ok client ↔
      context.find? resolver.settings.contextField = some client ∧
        ∀ problem, client.check resolver.schema.graph.models.keys resolver.settings ≠
          .fail problem := by
  unfold Resolver.client
  cases context.find? resolver.settings.contextField with
  | none => simp
  | some found =>
      cases outcome : found.check resolver.schema.graph.models.keys resolver.settings with
      | fail problem =>
          simp only [outcome, CheckOutcome.enforce]
          constructor
          · intro refused
            cases refused
          · rintro ⟨same, passed⟩
            cases same
            exact absurd outcome (passed problem)
      | _ =>
          simp only [outcome, CheckOutcome.enforce]
          constructor
          · intro answered
            cases answered
            simp [outcome]
          · rintro ⟨same, -⟩
            cases same
            rfl

theorem parentClause_eq_ok {model : String} {parent : Json} :
    (∃ clause, resolver.parentClause model parent = .ok clause) ↔
      ∃ identifiers, resolver.schema.identifiers? model = some identifiers ∧
        ∀ identifier ∈ identifiers, parent.lacks identifier = false := by
  unfold parentClause
  cases resolver.schema.identifiers? model with
  | none => simp
  | some identifiers => simpa using uniqueClause_eq_ok

theorem get?_selection (members : List (String × Json)) (name : String) :
    (selection members).get? name = Entries.find? members name := by
  cases members <;> rfl

theorem find?_filterMember (filter : Option Json) (name : String) :
    Entries.find? (filterMember filter) name = if "where" = name then filter else none := by
  cases filter <;> simp [filterMember, Entries.find?_cons]

theorem find?_ofOption {α : Type} (key : String) (value : Option α) (shown : α → Json)
    (name : String) :
    Entries.find? (value.toList.map fun given => (key, shown given)) name =
      if key = name then value.map shown else none := by
  cases value <;> simp [Entries.find?_cons]

theorem find?_pageMembers (name : String) :
    Entries.find? (pageMembers request) name =
      if "where" = name then request.filter
      else if "take" = name then request.take.map .ofInt64
      else if "skip" = name then request.skip.map .ofInt64
      else none := by
  rw [pageMembers, Entries.find?_append, Entries.find?_append, find?_filterMember,
    find?_ofOption, find?_ofOption]
  by_cases filters : "where" = name
  · subst filters
    simp
  · by_cases takes : "take" = name
    · subst takes
      simp
    · simp [filters, takes]

end Resolver

end GraphBinding
