import GraphBinding.Proofs.ClosedGraph
import GraphBinding.Proofs.Precedence
import GraphBinding.Proofs.Resolutions

namespace GraphBinding

/-! Page arguments and the end of a page, in unbounded integers.

Only integers of 64 bits count as page arguments, and none that is negative gets past the reading
of the arguments.  So a page that ends beyond 64 bits ends beyond any total, and that no records
follow it is exact.
-/

theorem Int64.toInt_ofInt_of_fits {value : Int} (lower : Int64.minValue.toInt ≤ value)
    (upper : value ≤ Int64.maxValue.toInt) : (Int64.ofInt value).toInt = value := by
  have max : Int64.maxValue.toInt = 2 ^ 63 - 1 := by decide
  exact Int64.toInt_ofInt_of_le lower (by omega)

theorem Json.asInt64?_eq_some {value : Json} {number : Int64} :
    value.asInt64? = some number ↔ value = .ofInt64 number := by
  constructor
  · intro read
    unfold asInt64? at read
    split at read
    · split at read
      · rename_i bounds
        cases read
        rw [ofInt64, Int64.toInt_ofInt_of_fits bounds.1 bounds.2]
      · cases read
    · cases read
  · rintro rfl
    have bounds : Int64.minValue.toInt ≤ number.toInt ∧ number.toInt ≤ Int64.maxValue.toInt :=
      ⟨number.minValue_le_toInt, number.toInt_le⟩
    rw [ofInt64, asInt64?, if_pos bounds, Int64.ofInt_toInt]

theorem Json.ofInt64_injective : Function.Injective Json.ofInt64 := by
  intro x y same
  have read : (Json.ofInt64 x).asInt64? = some x := asInt64?_eq_some.2 rfl
  rw [asInt64?_eq_some.2 same] at read
  exact (Option.some.inj read).symm

theorem Json.paging?_eq_some {arguments : Json} {argument : PagingArgument} {value : Int64} :
    arguments.paging? argument = some value ↔
      arguments.get? argument.name = some (.ofInt64 value) := by
  simp only [paging?, Option.bind_eq_some_iff, asInt64?_eq_some, exists_eq_right]

namespace Page

/-- A sum that does not fit is not replaced by another one. -/
theorem addFitting?_eq_some {x y sum : Int64} :
    addFitting? x y = some sum ↔ sum.toInt = x.toInt + y.toInt := by
  unfold addFitting?
  dsimp only
  split
  · rename_i fits
    rw [Option.some.injEq]
    constructor
    · rintro rfl
      exact Int64.toInt_ofInt_of_fits fits.1 fits.2
    · intro same
      rw [← same, Int64.ofInt_toInt]
  · rename_i overflows
    refine iff_of_false nofun fun same => overflows ?_
    rw [← same]
    exact ⟨sum.minValue_le_toInt, sum.toInt_le⟩

/-- More records follow exactly if the page ends before the last one, also where the end does not
fit 64 bits. -/
theorem hasMore_iff {total take : Int64} {skip : Option Int64} (taken : 0 ≤ take.toInt)
    (skipped : 0 ≤ (skip.getD 0).toInt) :
    hasMore total (some take) skip = true ↔ take.toInt + (skip.getD 0).toInt < total.toInt := by
  rw [hasMore, Option.bind_some]
  cases fits : addFitting? take (skip.getD 0) with
  | some last =>
      have sum := addFitting?_eq_some.1 fits
      rw [decide_eq_true_eq, Int64.lt_iff_toInt_lt, sum]
  | none =>
      have overflows (last : Int64) : last.toInt ≠ take.toInt + (skip.getD 0).toInt := by
        intro same
        rw [addFitting?_eq_some.2 same] at fits
        cases fits
      refine iff_of_false Bool.false_ne_true fun follows => ?_
      have min : Int64.minValue.toInt = -2 ^ 63 := by decide
      have bound := total.toInt_le
      exact overflows _ (Int64.toInt_ofInt_of_fits (by omega) (by omega))

end Page

namespace Json

/-- An argument is a negative integer of 64 bits, and none that is read before it is one. -/
def FirstNegative (arguments : Json) (argument : PagingArgument) (value : Int64) : Prop :=
  arguments.get? argument.name = some (.ofInt64 value) ∧ value < 0 ∧
    (argument = .skip →
      ∀ taken : Int64, arguments.get? "take" = some (.ofInt64 taken) → ¬ taken < 0)

theorem exists_firstNegative {arguments : Json} (negative : ¬ arguments.Nonnegative) :
    ∃ argument value, arguments.FirstNegative argument value := by
  simp only [Nonnegative, paging?_eq_some, not_forall, not_not] at negative
  obtain ⟨argument, value, given, negative⟩ := negative
  by_cases earlier : ∃ taken : Int64, arguments.get? "take" = some (.ofInt64 taken) ∧ taken < 0
  · obtain ⟨taken, found, below⟩ := earlier
    exact ⟨.take, taken, found, below, nofun⟩
  · refine ⟨argument, value, given, negative, fun _ taken found below => earlier ?_⟩
    exact ⟨taken, found, below⟩

end Json

namespace RequestArguments

variable {schema : Schema} {type field : String} {definition : OutputField} {raw : Json}
  {request : RequestArguments}

/-- What a request says about its page. -/
def page? (request : RequestArguments) : PagingArgument → Option Int64
  | .take => request.take
  | .skip => request.skip

/-- What is said about the page is not negative, and within 64 bits. -/
def Bounded (request : RequestArguments) : Prop :=
  ∀ argument, ∀ value ∈ request.page? argument,
    0 ≤ value.toInt ∧ value.toInt ≤ Int64.maxValue.toInt

theorem ofRequest_of_firstNegative {argument : PagingArgument} {value : Int64}
    (known : schema.field? type field = some definition)
    (first : raw.FirstNegative argument value) :
    ofRequest schema type field raw = .error (.negativeArgument type field argument value) := by
  obtain ⟨given, negative, earlier⟩ := first
  have refused := @paging_of_negative type field raw argument value
    (Json.paging?_eq_some.2 given) negative
  cases argument with
  | take =>
      simp only [ofRequest, known, refused]
      rfl
  | skip =>
      have passes : paging type field raw .take = .ok (raw.paging? .take) :=
        paging_of_nonnegative fun taken found => earlier rfl taken (Json.paging?_eq_some.1 found)
      simp only [ofRequest, known, passes, refused]
      rfl

theorem ofRequest_eq_error (known : schema.field? type field = some definition)
    {error : ResolveError} :
    ofRequest schema type field raw = .error error ↔
      ∃ argument value, raw.FirstNegative argument value ∧
        error = .negativeArgument type field argument value := by
  constructor
  · intro refused
    have negative : ¬ raw.Nonnegative := by
      intro nonnegative
      obtain ⟨request, made, -⟩ := ofRequest_of_nonnegative known nonnegative
      rw [made] at refused
      cases refused
    obtain ⟨argument, value, first⟩ := Json.exists_firstNegative negative
    rw [ofRequest_of_firstNegative known first] at refused
    cases refused
    exact ⟨argument, value, first, rfl⟩
  · rintro ⟨argument, value, first, rfl⟩
    exact ofRequest_of_firstNegative known first

theorem page?_of_ofRequest (known : schema.field? type field = some definition)
    (made : ofRequest schema type field raw = .ok request) (argument : PagingArgument) :
    request.page? argument = raw.paging? argument := by
  obtain ⟨other, again, -, take, skip⟩ :=
    ofRequest_of_nonnegative known (nonnegative_of_ofRequest known made)
  cases made.symm.trans again
  cases argument with
  | take => exact take
  | skip => exact skip

theorem bounded_of_ofRequest (known : schema.field? type field = some definition)
    (made : ofRequest schema type field raw = .ok request) : request.Bounded := by
  intro argument value said
  have given := (page?_of_ofRequest known made argument).symm.trans said
  have nonnegative := nonnegative_of_ofRequest known made argument value given
  rw [Int64.lt_iff_toInt_lt, Int64.toInt_zero, Int.not_lt] at nonnegative
  exact ⟨nonnegative, value.toInt_le⟩

theorem Bounded.skip_nonnegative (bounded : request.Bounded) : 0 ≤ (request.skip.getD 0).toInt := by
  cases said : request.skip with
  | none => decide
  | some skip => exact (bounded .skip skip said).1

theorem Bounded.hasMore_iff (bounded : request.Bounded) (total : Int64) :
    Page.hasMore total request.take request.skip = true ↔
      ∃ take ∈ request.take, take.toInt + (request.skip.getD 0).toInt < total.toInt := by
  cases said : request.take with
  | none => simp [Page.hasMore]
  | some take =>
      rw [Page.hasMore_iff (bounded .take take said).1 bounded.skip_nonnegative]
      simp

theorem Bounded.hasMore_zero (bounded : request.Bounded) :
    Page.hasMore 0 request.take request.skip = false := by
  rw [← Bool.not_eq_true, bounded.hasMore_iff]
  rintro ⟨take, said, below⟩
  have taken := (bounded .take take said).1
  have skipped := bounded.skip_nonnegative
  rw [Int64.toInt_zero] at below
  omega

end RequestArguments

/-- A parent without a record has no related records. -/
theorem Resolver.perform_relationMany_missing {resolver : Resolver} {client : DataClient}
    {model relation : String} {parent clause : Json} {request : RequestArguments}
    {history : List Call} (offered : client.offers model .findUnique = true)
    (identified : resolver.parentClause model parent = .ok clause)
    (missing : client.execute history ⟨model, .findUnique,
      .object [("where", clause), ("select", relationSelection relation request)]⟩ = .ok .null) :
    (Resolving.perform (resolver.relationMany client model relation parent request) history).1 =
      .ok (Page.toJson [] 0 false) := by
  unfold relationMany
  simp only [Resolving.perform_bind, Resolving.perform_require, offered, if_true,
    Resolving.perform_ofExcept, identified, Resolving.perform_execute, missing, Except.mapError,
    Json.isNull, Resolving.perform_pure]

/-- The first negative page argument of a field is refused, and nothing else is.  Otherwise the
request says about its page what the arguments say as integers of 64 bits.  Then more records
follow if and only if the total is beyond the end of the page as an unbounded integer, where an end
that is computed is that integer, and none follow the empty list that a missing parent has. -/
theorem page_arguments_are_exact {schema : Schema} {type field : String} {definition : OutputField}
    (known : schema.field? type field = some definition) (raw : Json) :
    (∀ error, RequestArguments.ofRequest schema type field raw = .error error ↔
      ∃ argument value, raw.FirstNegative argument value ∧
        error = .negativeArgument type field argument value) ∧
    (∀ request, RequestArguments.ofRequest schema type field raw = .ok request →
      request.Bounded ∧ ∀ argument value, request.page? argument = some value ↔
        raw.get? argument.name = some (.ofInt64 value)) ∧
    ∀ request : RequestArguments, request.Bounded →
      (∀ total, Page.hasMore total request.take request.skip = true ↔
        ∃ take ∈ request.take, take.toInt + (request.skip.getD 0).toInt < total.toInt) ∧
      (∀ take ∈ request.take, ∀ last, Page.addFitting? take (request.skip.getD 0) = some last ↔
        last.toInt = take.toInt + (request.skip.getD 0).toInt) ∧
      Page.hasMore 0 request.take request.skip = false ∧
      ∀ (resolver : Resolver) (client : DataClient) (model relation : String)
        (parent clause : Json) (history : List Call),
        client.offers model .findUnique = true →
        resolver.parentClause model parent = .ok clause →
        client.execute history ⟨model, .findUnique, .object [("where", clause),
          ("select", Resolver.relationSelection relation request)]⟩ = .ok .null →
        (Resolving.perform (resolver.relationMany client model relation parent request) history).1 =
          .ok (Page.toJson [] 0 (Page.hasMore 0 request.take request.skip)) := by
  refine ⟨fun error => RequestArguments.ofRequest_eq_error known, ?_, ?_⟩
  · intro request made
    refine ⟨RequestArguments.bounded_of_ofRequest known made, fun argument value => ?_⟩
    rw [RequestArguments.page?_of_ofRequest known made, Json.paging?_eq_some]
  · intro request bounded
    refine ⟨bounded.hasMore_iff, fun _ _ _ => Page.addFitting?_eq_some, bounded.hasMore_zero, ?_⟩
    intro resolver client model relation parent clause history offered identified missing
    rw [bounded.hasMore_zero]
    exact Resolver.perform_relationMany_missing offered identified missing

/-- Arguments of which the first is the greatest integer of 64 bits. -/
def greatestPage (skip : Int64) : Json :=
  .object [("take", .ofInt64 Int64.maxValue), ("skip", .ofInt64 skip)]

theorem page_arguments_are_exact_past_the_range :
    ∃ schema, Schema.generate blog {} = .ok schema ∧
      (∃ request, RequestArguments.ofRequest schema "User" "posts" (greatestPage 1) =
          .ok request ∧ ∀ total, Page.hasMore total request.take request.skip = false) ∧
      RequestArguments.ofRequest schema "User" "posts" (greatestPage (-1)) =
        .error (.negativeArgument "User" "posts" .skip (-1)) := by
  have computed : ∃ schema, Schema.generate blog {} = .ok schema ∧
      (schema.field? "User" "posts").isSome = true :=
    Schema.generated_of_check (by decide +kernel)
  obtain ⟨schema, generated, present⟩ := computed
  obtain ⟨definition, known⟩ := Option.isSome_iff_exists.1 present
  have taken (skip number : Int64)
      (given : (greatestPage skip).get? "take" = some (.ofInt64 number)) :
      Int64.maxValue = number := Json.ofInt64_injective (Option.some.inj given)
  have skipped (skip number : Int64)
      (given : (greatestPage skip).get? "skip" = some (.ofInt64 number)) : skip = number :=
    Json.ofInt64_injective (Option.some.inj given)
  refine ⟨schema, generated, ?_, ?_⟩
  · obtain ⟨refuses, reads, follows⟩ := page_arguments_are_exact known (greatestPage 1)
    cases made : RequestArguments.ofRequest schema "User" "posts" (greatestPage 1) with
    | error error =>
        obtain ⟨argument, value, ⟨given, negative, -⟩, -⟩ := (refuses error).1 made
        cases argument with
        | take =>
            rw [← taken 1 value given] at negative
            exact absurd negative (by decide)
        | skip =>
            rw [← skipped 1 value given] at negative
            exact absurd negative (by decide)
    | ok request =>
        obtain ⟨bounded, read⟩ := reads request made
        have take : request.take = some Int64.maxValue := (read .take _).2 rfl
        have skip : request.skip = some 1 := (read .skip _).2 rfl
        refine ⟨request, rfl, fun total => ?_⟩
        rw [← Bool.not_eq_true, (follows request bounded).1 total, take, skip]
        rintro ⟨last, given, below⟩
        cases Option.mem_some_iff.1 given
        have one : ((some (1 : Int64)).getD 0).toInt = 1 := by decide
        have bound := total.toInt_le
        rw [one] at below
        omega
  · obtain ⟨refuses, -, -⟩ := page_arguments_are_exact known (greatestPage (-1))
    refine (refuses _).2 ⟨.skip, -1, ⟨rfl, by decide, fun _ number given => ?_⟩, rfl⟩
    rw [← taken (-1) number given]
    decide

end GraphBinding
