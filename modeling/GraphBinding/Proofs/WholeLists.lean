import GraphBinding.Proofs.PageWalk

namespace GraphBinding

/-! Lists that are shown as a whole.

Without paging a list is read by one operation and counted by its length.  With paging the client
counts it, and whether more follows is computed.  Where no record is left out both ways lead to
the same value.
-/

/-- The client answers at any time with the records that match a filter, with a page of them and
with their number. -/
structure DataClient.Lists (client : DataClient) (model : String)
    (matching : Option Json → List Json) : Prop where
  execute : ∀ history find, client.execute history ⟨model, .findMany, find⟩ =
    .ok (.array (find.window (matching (find.get? "where"))))
  transact : ∀ history find count,
    client.transact history [⟨model, .findMany, find⟩, ⟨model, .count, count⟩] =
      .ok [.array (find.window (matching (find.get? "where"))),
        .integer (matching (count.get? "where")).length]

/-- A page that begins with the first of some records and has room for all of them. -/
structure Covers (take skip : Option Int64) (length : Nat) : Prop where
  take : ∀ value, take = some value → (length : Int) ≤ value.toInt
  skip : ∀ value, skip = some value → value = 0

namespace Covers

variable {take skip : Option Int64} {records : List Json}

theorem hasMore (covers : Covers take skip records.length)
    (total : (records.length : Int) ≤ Int64.maxValue.toInt) :
    Page.hasMore (.ofInt records.length) take skip = false := by
  cases take with
  | none => rfl
  | some value =>
      have room := covers.take value rfl
      have start : (skip.getD 0).toInt = 0 := by
        cases skip with
        | none => rfl
        | some skipped => rw [Option.getD_some, covers.skip skipped rfl, Int64.toInt_zero]
      rw [← Bool.not_eq_true, Page.hasMore_iff (by omega) (by omega), start,
        Int64.toInt_ofInt_natCast total]
      omega

theorem window {arguments : Json} (covers : Covers take skip records.length)
    (taken : arguments.paging? .take = take) (skipped : arguments.paging? .skip = skip) :
    arguments.window records = records := by
  have start : skip.elim 0 Int64.toNatClampNeg = 0 := by
    cases skip with
    | none => rfl
    | some value => rw [covers.skip value rfl]; rfl
  rw [Json.window, taken, skipped, start, List.drop_zero]
  cases take with
  | none => rfl
  | some value =>
      have room := covers.take value rfl
      refine List.take_of_length_le ?_
      rw [Int64.toNatClampNeg]
      omega

theorem nonnegative {arguments : Json} {length : Nat}
    (covers : Covers (arguments.paging? .take) (arguments.paging? .skip) length) :
    arguments.Nonnegative := by
  intro argument value given
  rw [Int64.lt_iff_toInt_lt, Int64.toInt_zero]
  cases argument with
  | take =>
      have room := covers.take value given
      omega
  | skip =>
      rw [covers.skip value given, Int64.toInt_zero]
      omega

end Covers

theorem Json.isPaged_eq_false {arguments : Json} :
    arguments.isPaged = false ↔
      arguments.paging? .take = none ∧ arguments.paging? .skip = none := by
  rw [isPaged, Bool.or_eq_false_iff, Option.isSome_eq_false_iff, Option.isSome_eq_false_iff,
    Option.isNone_iff_eq_none, Option.isNone_iff_eq_none]

namespace Resolver

open Resolving

variable {resolver : Resolver} {client : DataClient} {model : String}
  {matching : Option Json → List Json} {request : RequestArguments}

theorem paging?_of_optional {arguments : Json} {argument : PagingArgument} {value : Option Int64}
    (given : arguments.get? argument.name = value.map .ofInt64) :
    arguments.paging? argument = value := by
  cases value with
  | none => rw [Json.paging?, given]; rfl
  | some value => exact Json.paging?_eq_some.2 given

theorem findMany_whole (finds : client.offers model .findMany = true)
    (counts : client.offers model .count = true) (lists : client.Lists model matching)
    (covers : Covers request.take request.skip (matching request.filter).length)
    (total : ((matching request.filter).length : Int) ≤ Int64.maxValue.toInt)
    (history : List Call) :
    (perform (findMany client model request) history).1 =
      .ok (Page.toJson (matching request.filter)
        (.ofInt (matching request.filter).length) false) := by
  have listed : (Json.object (pageMembers request)).get? "where" = request.filter := by
    simp [Json.get?, find?_pageMembers]
  have counted : (Json.object (filterMember request.filter)).get? "where" = request.filter := by
    simp [Json.get?, find?_filterMember]
  have taken : (Json.object (pageMembers request)).paging? .take = request.take :=
    paging?_of_optional (by simp [Json.get?, find?_pageMembers, PagingArgument.name])
  have skipped : (Json.object (pageMembers request)).paging? .skip = request.skip :=
    paging?_of_optional (by simp [Json.get?, find?_pageMembers, PagingArgument.name])
  have window : (Json.object (pageMembers request)).window (matching request.filter) =
      matching request.filter := covers.window taken skipped
  unfold findMany
  by_cases plain : request.take.isNone ∧ request.skip.isNone
  · simp only [if_pos plain, perform_bind, perform_require, finds, if_true, perform_execute,
      lists.execute, Except.mapError, listed, window, perform_pure, listOf]
    rfl
  · simp only [if_neg plain, perform_bind, perform_require, finds, counts, if_true,
      perform_transact, lists.transact, Except.mapError, listed, counted, window]
    simp [Json.asInt64?_natCast total, listOf, covers.hasMore total]

/-- A root list is shown as a whole by all arguments that leave no record out. -/
theorem resolve_whole {context : Context} {type field : String} {definition : OutputField}
    {parent arguments : Json} {records : List Json}
    (known : resolver.schema.field? type field = some definition)
    (sourced : definition.source = some (.findMany model))
    (held : resolver.client context = .ok client) (finds : client.offers model .findMany = true)
    (counts : client.offers model .count = true) (lists : client.Lists model matching)
    (matched : matching (RequestArguments.filterOf resolver.schema
      (definition.arguments.find? "where") arguments) = records)
    (covers : Covers (arguments.paging? .take) (arguments.paging? .skip) records.length)
    (total : (records.length : Int) ≤ Int64.maxValue.toInt) (history : List Call) :
    (perform (resolver.resolve context type field parent arguments) history).1 =
      .ok (Page.toJson records (.ofInt records.length) false) := by
  obtain ⟨request, made, filter, taken, skipped⟩ :=
    RequestArguments.ofRequest_of_nonnegative known covers.nonnegative
  rw [← taken, ← skipped] at covers
  rw [← filter] at matched
  subst matched
  unfold resolve
  simp only [known, sourced, perform_bind, held, perform_ofExcept, made]
  exact findMany_whole finds counts lists covers total history

end Resolver

/-- A root list that is asked for without paging is the same value as any page of it that begins
with the first record and has room for all of them.  It shows the records that match the filter in
their order, tells their number, and that no more follow. -/
theorem unpaged_list_is_whole_page {resolver : Resolver} {context : Context}
    {type field model : String} {definition : OutputField} {client : DataClient}
    {matching : Option Json → List Json} {unpaged paged : Json}
    (known : resolver.schema.field? type field = some definition)
    (sourced : definition.source = some (.findMany model))
    (found : context.find? resolver.settings.contextField = some client)
    (checked : ∀ problem,
      client.check resolver.schema.graph.models.keys resolver.settings ≠ .fail problem)
    (finds : client.offers model .findMany = true) (counts : client.offers model .count = true)
    (lists : client.Lists model matching)
    (plain : unpaged.isPaged = false) (sameFilter : paged.get? "where" = unpaged.get? "where")
    (total : ((matching (RequestArguments.filterOf resolver.schema
      (definition.arguments.find? "where") unpaged)).length : Int) ≤ Int64.maxValue.toInt)
    (covers : Covers (paged.paging? .take) (paged.paging? .skip)
      (matching (RequestArguments.filterOf resolver.schema (definition.arguments.find? "where")
        unpaged)).length) (parent : Json) (history later : List Call) :
    let records := matching (RequestArguments.filterOf resolver.schema
      (definition.arguments.find? "where") unpaged)
    let whole := Json.object [("list", .array records), ("total", .integer records.length),
      ("hasMore", .boolean false)]
    ((resolver.resolve context type field parent unpaged).perform history).1 = .ok whole ∧
      ((resolver.resolve context type field parent paged).perform later).1 = .ok whole := by
  intro records whole
  have held := Resolver.client_eq_ok.2 ⟨found, checked⟩
  have shown : Page.toJson records (.ofInt records.length) false = whole := by
    rw [Page.toJson, Json.ofInt64, Int64.toInt_ofInt_natCast total]
  rw [← shown]
  constructor
  · obtain ⟨noTake, noSkip⟩ := Json.isPaged_eq_false.1 plain
    have all : Covers (unpaged.paging? .take) (unpaged.paging? .skip) records.length := by
      rw [noTake, noSkip]
      constructor
      · intro value given
        cases given
      · intro value given
        cases given
    exact Resolver.resolve_whole known sourced held finds counts lists rfl all total history
  · have matched : matching (RequestArguments.filterOf resolver.schema
        (definition.arguments.find? "where") paged) = records := by
      simp only [RequestArguments.filterOf, sameFilter, records]
    exact Resolver.resolve_whole known sourced held finds counts lists matched covers total later

/-- A client whose only records are posts. -/
def listingClient : DataClient where
  identity := "@prisma/client"
  offers _ _ := true
  execute _ request :=
    .ok (.array (request.arguments.window (sevenPosts (request.arguments.get? "where"))))
  transact _ requests := .ok (requests.map fun request =>
    match request.method with
    | .count => .integer (sevenPosts (request.arguments.get? "where")).length
    | _ => .array (request.arguments.window (sevenPosts (request.arguments.get? "where"))))

def listingContext : Context := Table.empty.insert "prisma" listingClient

/-- Five of the posts match; they are shown without paging as with the largest page there is. -/
theorem unpaged_list_is_whole_page_posts :
    ∃ schema, Schema.generate blog {} = .ok schema ∧ ∀ history later,
      let filter := ("where", Json.object [("slug", .null)])
      let whole := Json.object [("list", .array ((List.range 5).map fun n => .integer n)),
        ("total", .integer 5), ("hasMore", .boolean false)]
      ((Resolver.resolve ⟨schema, {}⟩ listingContext "Query" "posts" .null
          (.object [filter])).perform history).1 = .ok whole ∧
        ((Resolver.resolve ⟨schema, {}⟩ listingContext "Query" "posts" .null (.object
          [filter, ("take", .integer 9223372036854775807), ("skip", .integer 0)])).perform
            later).1 = .ok whole := by
  have computed : ∃ schema, Schema.generate blog {} = .ok schema ∧
      (schema.field? "Query" "posts").bind OutputField.source = some (.findMany "Post") :=
    Schema.generated_of_check (by decide +kernel)
  obtain ⟨schema, generated, ofQuery⟩ := computed
  obtain ⟨posts, known, sourced⟩ := Option.bind_eq_some_iff.1 ofQuery
  have checked : ∀ problem, listingClient.check schema.graph.models.keys {} ≠ .fail problem := by
    simp [DataClient.check, listingClient]
  have filtered : sevenPosts (RequestArguments.filterOf schema (posts.arguments.find? "where")
      (.object [("where", .object [("slug", .null)])])) =
        (List.range 5).map fun n => .integer n := by
    cases posts.arguments.find? "where" <;> rfl
  refine ⟨schema, generated, fun history later => ?_⟩
  have whole := @unpaged_list_is_whole_page ⟨schema, {}⟩ listingContext "Query" "posts" "Post" posts
    listingClient sevenPosts (.object [("where", .object [("slug", .null)])])
    (.object [("where", .object [("slug", .null)]), ("take", .integer 9223372036854775807),
      ("skip", .integer 0)]) known sourced rfl checked rfl rfl
    ⟨fun _ _ => rfl, fun _ _ _ => rfl⟩ rfl rfl (by rw [filtered]; decide)
    ⟨fun value given => by rw [filtered]; cases given; decide,
      fun value given => by cases given; rfl⟩
    .null history later
  rw [filtered] at whole
  exact whole

end GraphBinding
