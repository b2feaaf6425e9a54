import GraphBinding.Proofs.ClientCalls
import GraphBinding.Proofs.PageBounds

namespace GraphBinding

/-! Walking through all pages of a list.

Each page is asked for behind the records of those before, as long as a page says that more follow.
-/

theorem Int64.toInt_ofInt_natCast {n : Nat} (bound : (n : Int) ≤ Int64.maxValue.toInt) :
    (Int64.ofInt n).toInt = n := by
  have min : Int64.minValue.toInt ≤ 0 := by decide
  exact Int64.toInt_ofInt_of_fits (by omega) bound

theorem Json.asInt64?_natCast {n : Nat} (bound : (n : Int) ≤ Int64.maxValue.toInt) :
    (Json.integer n).asInt64? = some (Int64.ofInt n) := by
  rw [asInt64?_eq_some, ofInt64, Int64.toInt_ofInt_natCast bound]

/-- The arguments of a page, beside other members. -/
def pageArguments (members : List (String × Json)) (take skip : Nat) : Json :=
  .object (Entries.insert (Entries.insert members "take" (.integer take)) "skip" (.integer skip))

/-- Records dropped by `skip` and cut to `take`, as far as these are given. -/
def Json.window (arguments : Json) (records : List Json) : List Json :=
  let rest := records.drop ((arguments.paging? .skip).elim 0 Int64.toNatClampNeg)
  (arguments.paging? .take).elim rest fun take => rest.take take.toNatClampNeg

/-- The page of some records that a field shows. -/
def pageOf (records : List Json) (take skip : Nat) : Json :=
  Page.toJson ((records.drop skip).take take) (Int64.ofInt records.length)
    (decide (skip + take < records.length))

/-- The request asks for the page of some size behind some records. -/
structure RequestArguments.Pages (request : RequestArguments) (take skip : Nat) : Prop where
  taken : request.take = some (.ofInt take)
  skipped : request.skip = some (.ofInt skip)
  takeBound : (take : Int) ≤ Int64.maxValue.toInt
  skipBound : (skip : Int) ≤ Int64.maxValue.toInt

namespace Resolver

/-- The client answers a field's source with the records that match a filter: with a page of them,
and with their number. -/
inductive Serves (resolver : Resolver) (client : DataClient) (parent : Json)
    (matching : Option Json → List Json) : FieldSource → Prop
  | findMany {model : String}
      (answers : ∀ history find count,
        client.transact history [⟨model, .findMany, find⟩, ⟨model, .count, count⟩] =
          .ok [.array (find.window (matching (find.get? "where"))),
            .integer (matching (count.get? "where")).length]) :
      Serves resolver client parent matching (.findMany model)
  | relationMany {model relation target : String} {clause : Json}
      (apart : relation ≠ "_count")
      (identified : resolver.parentClause model parent = .ok clause)
      (answers : ∀ history select listing counting, select.at? [relation] = some listing →
        select.at? ["_count", "select", relation] = some counting →
        ∃ record, client.execute history
            ⟨model, .findUnique, .object [("where", clause), ("select", select)]⟩ = .ok record ∧
          record.get? relation = some (.array (listing.window (matching (listing.get? "where")))) ∧
          record.at? ["_count", relation] =
            some (.integer (matching (counting.get? "where")).length)) :
      Serves resolver client parent matching (.relationMany model relation target)

open Resolving

variable {resolver : Resolver} {client : DataClient} {parent : Json}
  {matching : Option Json → List Json} {request : RequestArguments} {take skip : Nat}

theorem window_of_members (arguments : Json) (pages : request.Pages take skip)
    (taken : arguments.get? "take" = request.take.map .ofInt64)
    (skipped : arguments.get? "skip" = request.skip.map .ofInt64) (records : List Json) :
    arguments.window records = (records.drop skip).take take := by
  rw [pages.taken, Option.map_some] at taken
  rw [pages.skipped, Option.map_some] at skipped
  have taking := (@Json.paging?_eq_some arguments .take _).2 taken
  have skipping := (@Json.paging?_eq_some arguments .skip _).2 skipped
  simp only [Json.window, taking, skipping, Option.elim_some, Int64.toNatClampNeg,
    Int64.toInt_ofInt_natCast pages.takeBound, Int64.toInt_ofInt_natCast pages.skipBound,
    Int.toNat_natCast]

theorem page_eq {records : List Json} (pages : request.Pages take skip)
    (total : (records.length : Int) ≤ Int64.maxValue.toInt) :
    Page.toJson ((records.drop skip).take take) (Int64.ofInt records.length)
        (Page.hasMore (Int64.ofInt records.length) request.take request.skip) =
      pageOf records take skip := by
  have takeInt := Int64.toInt_ofInt_natCast pages.takeBound
  have skipInt := Int64.toInt_ofInt_natCast pages.skipBound
  have follows : Page.hasMore (Int64.ofInt records.length) (some (Int64.ofInt take))
      (some (Int64.ofInt skip)) = decide (skip + take < records.length) := by
    rw [Bool.eq_iff_iff, Page.hasMore_iff, decide_eq_true_eq, Option.getD_some,
      Int64.toInt_ofInt_natCast total, takeInt, skipInt]
    · omega
    · omega
    · rw [Option.getD_some]
      omega
  rw [pages.taken, pages.skipped, follows, pageOf]

theorem findMany_page {model : String}
    (offers : ∀ method, client.offers model method = true)
    (answers : ∀ history find count,
      client.transact history [⟨model, .findMany, find⟩, ⟨model, .count, count⟩] =
        .ok [.array (find.window (matching (find.get? "where"))),
          .integer (matching (count.get? "where")).length])
    (pages : request.Pages take skip)
    (total : ((matching request.filter).length : Int) ≤ Int64.maxValue.toInt)
    (history : List Call) :
    ∃ later, perform (findMany client model request) history =
      (.ok (pageOf (matching request.filter) take skip), later) := by
  have listed : (Json.object (pageMembers request)).get? "where" = request.filter := by
    simp [Json.get?, find?_pageMembers]
  have counted : (Json.object (filterMember request.filter)).get? "where" = request.filter := by
    simp [Json.get?, find?_filterMember]
  have window := window_of_members (.object (pageMembers request)) pages
    (by simp [Json.get?, find?_pageMembers]) (by simp [Json.get?, find?_pageMembers])
    (matching request.filter)
  have paged : ¬ (request.take.isNone ∧ request.skip.isNone) := by simp [pages.taken]
  unfold findMany
  simp only [if_neg paged, perform_bind, perform_require, offers, if_true, perform_transact,
    answers, Except.mapError, listed, counted, window]
  simp [Json.asInt64?_natCast total, listOf, page_eq pages total]

theorem relationMany_page {model relation : String} {clause : Json} (apart : relation ≠ "_count")
    (offers : ∀ method, client.offers model method = true)
    (identified : resolver.parentClause model parent = .ok clause)
    (answers : ∀ history select listing counting, select.at? [relation] = some listing →
      select.at? ["_count", "select", relation] = some counting →
      ∃ record, client.execute history
          ⟨model, .findUnique, .object [("where", clause), ("select", select)]⟩ = .ok record ∧
        record.get? relation = some (.array (listing.window (matching (listing.get? "where")))) ∧
        record.at? ["_count", relation] =
          some (.integer (matching (counting.get? "where")).length))
    (pages : request.Pages take skip)
    (total : ((matching request.filter).length : Int) ≤ Int64.maxValue.toInt)
    (history : List Call) :
    ∃ later, perform (resolver.relationMany client model relation parent request) history =
      (.ok (pageOf (matching request.filter) take skip), later) := by
  obtain ⟨listing, counting⟩ := @at?_relationSelection request relation apart
  obtain ⟨record, answer, list, count⟩ := answers history _ _ _ listing counting
  have listed : (selection (pageMembers request)).get? "where" = request.filter := by
    simp [get?_selection, find?_pageMembers]
  have counted : (selection (filterMember request.filter)).get? "where" = request.filter := by
    simp [get?_selection, find?_filterMember]
  have window := window_of_members (selection (pageMembers request)) pages
    (by simp [get?_selection, find?_pageMembers]) (by simp [get?_selection, find?_pageMembers])
    (matching request.filter)
  rw [listed, window] at list
  have number : ((record.get? "_count").bind (·.get? relation)) =
      some (.integer (matching request.filter).length) := by
    simpa [Json.at?, counted] using count
  have present : record.isNull = false := by
    cases record with
    | null => cases list
    | _ => rfl
  unfold relationMany
  simp only [perform_bind, perform_require, offers, if_true, perform_ofExcept, identified,
    perform_execute, answer, Except.mapError, present, Bool.false_eq_true, if_false, number,
    Option.bind_some, Json.asInt64?_natCast total, perform_pure, Json.getD, list, Option.getD_some,
    listOf, page_eq pages total]
  exact ⟨_, rfl⟩

theorem paging_pageArguments (members : List (String × Json))
    (takeBound : (take : Int) ≤ Int64.maxValue.toInt)
    (skipBound : (skip : Int) ≤ Int64.maxValue.toInt) :
    (pageArguments members take skip).paging? .take = some (.ofInt take) ∧
      (pageArguments members take skip).paging? .skip = some (.ofInt skip) := by
  constructor
  · refine Json.paging?_eq_some.2 ?_
    rw [Json.ofInt64, Int64.toInt_ofInt_natCast takeBound]
    simp [pageArguments, Json.get?, Entries.find?_insert, PagingArgument.name]
  · refine Json.paging?_eq_some.2 ?_
    rw [Json.ofInt64, Int64.toInt_ofInt_natCast skipBound]
    simp [pageArguments, Json.get?, Entries.find?_insert, PagingArgument.name]

theorem nonnegative_pageArguments (members : List (String × Json))
    (takeBound : (take : Int) ≤ Int64.maxValue.toInt)
    (skipBound : (skip : Int) ≤ Int64.maxValue.toInt) :
    (pageArguments members take skip).Nonnegative := by
  obtain ⟨taken, skipped⟩ := paging_pageArguments members takeBound skipBound
  have natural : ∀ n : Nat, (n : Int) ≤ Int64.maxValue.toInt → ¬ Int64.ofInt n < 0 := by
    intro n bound
    rw [Int64.lt_iff_toInt_lt, Int64.toInt_ofInt_natCast bound]
    exact Int.not_lt.2 (Int.natCast_nonneg n)
  intro argument value given
  cases argument with
  | take =>
      cases taken.symm.trans given
      exact natural take takeBound
  | skip =>
      cases skipped.symm.trans given
      exact natural skip skipBound

theorem where_pageArguments (members : List (String × Json)) :
    (pageArguments members take skip).get? "where" = (Json.object members).get? "where" := by
  simp [pageArguments, Json.get?, Entries.find?_insert]

theorem resolve_page {context : Context} {type field : String} {definition : OutputField}
    {source : FieldSource} {members : List (String × Json)}
    (known : resolver.schema.field? type field = some definition)
    (sourced : definition.source = some source) (held : resolver.client context = .ok client)
    (offers : ∀ model method, client.offers model method = true)
    (serves : resolver.Serves client parent matching source)
    (takeBound : (take : Int) ≤ Int64.maxValue.toInt)
    (skipBound : (skip : Int) ≤ Int64.maxValue.toInt)
    (total : ((matching (RequestArguments.filterOf resolver.schema
      (definition.arguments.find? "where") (.object members))).length : Int) ≤
        Int64.maxValue.toInt) (history : List Call) :
    ∃ later, perform (resolver.resolve context type field parent
        (pageArguments members take skip)) history =
      (.ok (pageOf (matching (RequestArguments.filterOf resolver.schema
        (definition.arguments.find? "where") (.object members))) take skip), later) := by
  obtain ⟨request, made, filter, taken, skipped⟩ :=
    RequestArguments.ofRequest_of_nonnegative known
      (nonnegative_pageArguments members takeBound skipBound)
  obtain ⟨taking, skipping⟩ := paging_pageArguments members takeBound skipBound
  have pages : request.Pages take skip :=
    ⟨taken.trans taking, skipped.trans skipping, takeBound, skipBound⟩
  have same : request.filter = RequestArguments.filterOf resolver.schema
      (definition.arguments.find? "where") (.object members) := by
    rw [filter]
    simp only [RequestArguments.filterOf, where_pageArguments]
  rw [← same] at total ⊢
  unfold resolve
  simp only [known, sourced, perform_bind, held, perform_ofExcept]
  cases serves with
  | findMany answers =>
      simp only [perform_bind, perform_ofExcept, made]
      exact findMany_page (offers _) answers pages total history
  | relationMany apart identified answers =>
      simp only [perform_bind, perform_ofExcept, made]
      exact relationMany_page apart (offers _) identified answers pages total history

end Resolver

theorem hasMore_pageOf (records : List Json) (take skip : Nat) :
    (pageOf records take skip).get? "hasMore" =
      some (.boolean (decide (skip + take < records.length))) := rfl

/-- Pages that follow one another: each is asked for behind the records of those before, until
one does not say that more follow. -/
inductive Walks (ask : Nat → Resolving Json) (take : Nat) : Nat → List Call → List Json → Prop
  | last {skip history later page} (answered : (ask skip).perform history = (.ok page, later))
      (ends : ¬ page.get? "hasMore" = some (.boolean true)) : Walks ask take skip history [page]
  | next {skip history later page pages}
      (answered : (ask skip).perform history = (.ok page, later))
      (continues : page.get? "hasMore" = some (.boolean true))
      (rest : Walks ask take (skip + take) later pages) :
      Walks ask take skip history (page :: pages)

namespace Walks

variable {ask : Nat → Resolving Json} {take skip : Nat} {history : List Call} {pages : List Json}

theorem unique {others : List Json} (walks : Walks ask take skip history pages)
    (again : Walks ask take skip history others) : others = pages := by
  induction walks generalizing others with
  | last answered ends =>
      cases again with
      | last repeated =>
          cases answered.symm.trans repeated
          rfl
      | next repeated continues =>
          cases answered.symm.trans repeated
          exact absurd continues ends
  | next answered continues _ ih =>
      cases again with
      | last repeated ends =>
          cases answered.symm.trans repeated
          exact absurd continues ends
      | next repeated _ rest =>
          cases answered.symm.trans repeated
          rw [ih rest]

/-- Where every answer is the page of the same records, the walk from one of them on shows all
that are left, in order. -/
theorem of_pages {records : List Json} (positive : 1 ≤ take)
    (answers : ∀ skip history, skip = 0 ∨ skip < records.length →
      ∃ later, (ask skip).perform history = (.ok (pageOf records take skip), later))
    (skip : Nat) (history : List Call) (start : skip = 0 ∨ skip < records.length) :
    ∃ pages, Walks ask take skip history pages ∧
      pages.length = max 1 ((records.length - skip + take - 1) / take) ∧
      pages.flatMap (fun page => Resolver.listOf (page.getD "list")) = records.drop skip ∧
      ∀ page ∈ pages, page.get? "total" = some (.ofInt64 (.ofInt records.length)) := by
  obtain ⟨later, answered⟩ := answers skip history start
  have list : Resolver.listOf ((pageOf records take skip).getD "list") =
      (records.drop skip).take take := rfl
  by_cases follows : skip + take < records.length
  · obtain ⟨pages, walks, length, lists, totals⟩ :=
      of_pages positive answers (skip + take) later (.inr follows)
    refine ⟨_, .next answered (by simp [hasMore_pageOf, follows]) walks, ?_, ?_, ?_⟩
    · have ahead : records.length - skip + take - 1 =
          records.length - (skip + take) + take - 1 + take := by omega
      have more : 1 ≤ (records.length - (skip + take) + take - 1) / take :=
        Nat.div_pos (by omega) positive
      rw [List.length_cons, length, ahead, Nat.add_div_right _ positive]
      omega
    · rw [List.flatMap_cons, lists, list, ← List.drop_drop, List.take_append_drop]
    · intro page member
      rcases List.mem_cons.1 member with rfl | inRest
      · rfl
      · exact totals page inRest
  · refine ⟨_, .last answered (by simp [hasMore_pageOf, follows]), ?_, ?_, ?_⟩
    · have few : (records.length - skip + take - 1) / take < 2 :=
        Nat.div_lt_of_lt_mul (by omega)
      rw [List.length_singleton]
      omega
    · rw [List.flatMap_singleton, list, List.take_of_length_le]
      rw [List.length_drop]
      omega
    · intro page member
      cases List.mem_singleton.1 member
      rfl
termination_by records.length - skip

end Walks

/-- Walking through a list by pages of one size shows every record exactly once.  The walk has one
way to go and ends after as many pages as the records fill, but at least one; the lists of its
pages are the records that match the filter, in order, and each page tells their number. -/
theorem walk_shows_each_record_once {resolver : Resolver} {context : Context} {type field : String}
    {definition : OutputField} {source : FieldSource} {client : DataClient} {parent : Json}
    {matching : Option Json → List Json} {members : List (String × Json)} {size : Nat}
    (known : resolver.schema.field? type field = some definition)
    (sourced : definition.source = some source)
    (found : context.find? resolver.settings.contextField = some client)
    (checked : ∀ problem,
      client.check resolver.schema.graph.models.keys resolver.settings ≠ .fail problem)
    (offers : ∀ model method, client.offers model method = true)
    (serves : resolver.Serves client parent matching source)
    (positive : 1 ≤ size) (sizeBound : (size : Int) ≤ Int64.maxValue.toInt)
    (total : ((matching (RequestArguments.filterOf resolver.schema
      (definition.arguments.find? "where") (.object members))).length : Int) ≤
        Int64.maxValue.toInt) (history : List Call) :
    let records := matching (RequestArguments.filterOf resolver.schema
      (definition.arguments.find? "where") (.object members))
    let ask := fun skip =>
      resolver.resolve context type field parent (pageArguments members size skip)
    ∃ pages, Walks ask size 0 history pages ∧
      (∀ others, Walks ask size 0 history others → others = pages) ∧
      pages.length = max 1 ((records.length + size - 1) / size) ∧
      pages.flatMap (fun page => Resolver.listOf (page.getD "list")) = records ∧
      ∀ page ∈ pages, page.get? "total" = some (.integer records.length) := by
  intro records ask
  have held := Resolver.client_eq_ok.2 ⟨found, checked⟩
  have answers : ∀ skip history, skip = 0 ∨ skip < records.length →
      ∃ later, (ask skip).perform history = (.ok (pageOf records size skip), later) := by
    intro skip history start
    have bound : (records.length : Int) ≤ Int64.maxValue.toInt := total
    have skipBound : (skip : Int) ≤ Int64.maxValue.toInt := by omega
    exact Resolver.resolve_page known sourced held offers serves sizeBound skipBound total history
  obtain ⟨pages, walks, length, lists, totals⟩ :=
    Walks.of_pages positive answers 0 history (.inl rfl)
  refine ⟨pages, walks, fun others again => walks.unique again, length, lists, ?_⟩
  intro page member
  rw [totals page member, Json.ofInt64, Int64.toInt_ofInt_natCast total]

/-- Seven posts, of which a filter lets the first five through. -/
def sevenPosts : Option Json → List Json
  | none => (List.range 7).map fun n => .integer n
  | some _ => (List.range 5).map fun n => .integer n

/-- A client that has these posts, all of them by one user. -/
def postsClient : DataClient where
  identity := "@prisma/client"
  offers _ _ := true
  execute _ request :=
    match request.arguments.at? ["select", "posts"],
      request.arguments.at? ["select", "_count", "select", "posts"] with
    | some listing, some counting => .ok (.object
        [("posts", .array (listing.window (sevenPosts (listing.get? "where")))),
          ("_count", .object
            [("posts", .integer (sevenPosts (counting.get? "where")).length)])])
    | _, _ => .ok .null
  transact _ requests := .ok (requests.map fun request =>
    match request.method with
    | .count => .integer (sevenPosts (request.arguments.get? "where")).length
    | _ => .array (request.arguments.window (sevenPosts (request.arguments.get? "where"))))

def postsContext : Context := Table.empty.insert "prisma" postsClient

/-- Two at a time, the user's five posts fill three pages, and all seven fill four. -/
theorem walk_shows_each_record_once_posts :
    ∃ schema, Schema.generate blog {} = .ok schema ∧
      (∃ pages, Walks (fun skip => Resolver.resolve ⟨schema, {}⟩ postsContext "User" "posts"
          (.object [("id", .integer 1)])
          (pageArguments [("where", .object [("slug", .null)])] 2 skip)) 2 0 [] pages ∧
        pages.length = 3) ∧
      ∃ pages, Walks (fun skip => Resolver.resolve ⟨schema, {}⟩ postsContext "Query" "posts" .null
          (pageArguments [] 2 skip)) 2 0 [] pages ∧
        pages.length = 4 := by
  have computed : ∃ schema, Schema.generate blog {} = .ok schema ∧
      (schema.field? "User" "posts").bind OutputField.source =
        some (.relationMany "User" "posts" "Post") ∧
      (schema.field? "Query" "posts").bind OutputField.source = some (.findMany "Post") ∧
      schema.identifiers? "User" = some ["id"] :=
    Schema.generated_of_check (by decide +kernel)
  obtain ⟨schema, generated, ofUser, ofQuery, identifiers⟩ := computed
  obtain ⟨posts, known, sourced⟩ := Option.bind_eq_some_iff.1 ofUser
  obtain ⟨all, knownAll, sourcedAll⟩ := Option.bind_eq_some_iff.1 ofQuery
  have checked : ∀ problem, postsClient.check schema.graph.models.keys {} ≠ .fail problem := by
    simp [DataClient.check, postsClient]
  have clause : Resolver.parentClause ⟨schema, {}⟩ "User" (.object [("id", .integer 1)]) =
      .ok (.object [("id", .integer 1)]) := by
    simp only [Resolver.parentClause, identifiers]
    rfl
  have serves : Resolver.Serves ⟨schema, {}⟩ postsClient (.object [("id", .integer 1)]) sevenPosts
      (.relationMany "User" "posts" "Post") := by
    refine .relationMany (by decide) clause fun history select listing counting listed counted => ?_
    have listedHere : (Json.object [("where", .object [("id", .integer 1)]),
        ("select", select)]).at? ["select", "posts"] = some listing := listed
    have countedHere : (Json.object [("where", .object [("id", .integer 1)]),
        ("select", select)]).at? ["select", "_count", "select", "posts"] = some counting := counted
    simp only [postsClient, listedHere, countedHere]
    exact ⟨_, rfl, rfl, rfl⟩
  have servesAll : Resolver.Serves ⟨schema, {}⟩ postsClient .null sevenPosts (.findMany "Post") :=
    .findMany fun _ _ _ => rfl
  have filtered : sevenPosts (RequestArguments.filterOf schema (posts.arguments.find? "where")
      (.object [("where", .object [("slug", .null)])])) =
        (List.range 5).map fun n => .integer n := by
    cases posts.arguments.find? "where" <;> rfl
  have unfiltered : sevenPosts (RequestArguments.filterOf schema (all.arguments.find? "where")
      (.object [])) = (List.range 7).map fun n => .integer n := rfl
  refine ⟨schema, generated, ?_, ?_⟩
  · obtain ⟨pages, walks, -, length, -⟩ := @walk_shows_each_record_once ⟨schema, {}⟩ postsContext
      "User" "posts" posts _ postsClient _ sevenPosts [("where", .object [("slug", .null)])] 2 known
      sourced rfl checked (fun _ _ => rfl) serves (by decide) (by decide)
      (by rw [filtered]; decide) []
    rw [filtered] at length
    exact ⟨pages, walks, length⟩
  · obtain ⟨pages, walks, -, length, -⟩ := @walk_shows_each_record_once ⟨schema, {}⟩ postsContext
      "Query" "posts" all _ postsClient _ sevenPosts [] 2 knownAll sourcedAll rfl checked
      (fun _ _ => rfl) servesAll (by decide) (by decide) (by rw [unfiltered]; decide) []
    rw [unfiltered] at length
    exact ⟨pages, walks, length⟩

end GraphBinding
