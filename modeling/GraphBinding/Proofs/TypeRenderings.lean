import GraphBinding.Proofs.DeclarationReading
import GraphBinding.Proofs.ScriptReading
import Mathlib.Tactic.TFAE

namespace GraphBinding

/-! References to types as the schema language, the script modules and the declaration module
write them.

Each of the three texts tells the whole reference, so two references that one of them does not
tell apart are the same in the others too. -/

/-- A step in making a reference. -/
inductive Wrapper where
  | list
  | required
deriving DecidableEq, Repr

def Wrapper.wrap : Wrapper → TypeRef → TypeRef
  | .list, type => .list type
  | .required, type => type.required

namespace TypeRef

/-- The named type, wrapped step by step from the inside out. -/
def wrapping (name : String) (wrappers : List Wrapper) : TypeRef :=
  wrappers.foldl (fun type wrapper => wrapper.wrap type) (.named name)

/-- No non-null wrapper stands directly inside another. -/
def NeverDoubled : TypeRef → Prop
  | .named _ => True
  | .list item => item.NeverDoubled
  | .nonNull nullable => nullable.isNonNull = false ∧ nullable.NeverDoubled

theorem Wrapped.wrap {type : TypeRef} (made : type.Wrapped) (wrapper : Wrapper) :
    (wrapper.wrap type).Wrapped := by
  cases wrapper with
  | list => exact .list made
  | required => exact .required made

theorem wrapped_wrapping (name : String) (wrappers : List Wrapper) :
    (wrapping name wrappers).Wrapped :=
  List.foldlRecOn wrappers _ (.named name) fun _ made wrapper _ => made.wrap wrapper

theorem NeverDoubled.required {type : TypeRef} (inner : type.NeverDoubled) :
    type.required.NeverDoubled := by
  cases type with
  | named name => exact ⟨rfl, inner⟩
  | list item => exact ⟨rfl, inner⟩
  | nonNull nullable => exact inner

theorem Wrapped.neverDoubled {type : TypeRef} (made : type.Wrapped) : type.NeverDoubled := by
  induction made with
  | named name => trivial
  | list _ inner => exact inner
  | required _ inner => exact inner.required

theorem baseName_required (type : TypeRef) : type.required.baseName = type.baseName := by
  cases type <;> rfl

theorem baseName_wrap (wrapper : Wrapper) (type : TypeRef) :
    (wrapper.wrap type).baseName = type.baseName := by
  cases wrapper with
  | list => rfl
  | required => exact type.baseName_required

theorem baseName_wrapping (name : String) (wrappers : List Wrapper) :
    (wrapping name wrappers).baseName = name :=
  List.foldlRecOn (motive := fun type => type.baseName = name) wrappers _ rfl
    fun type under wrapper _ => (baseName_wrap wrapper type).trans under

open Outline in
theorem not_mem_sdl_named {name : String} (isName : IsName name) :
    ']' ∉ (named name).sdl.toList ∧ '!' ∉ (named name).sdl.toList :=
  ⟨isName.not_mem (by decide), isName.not_mem (by decide)⟩

theorem bracket_mem_sdl (item : TypeRef) : ']' ∈ (list item).sdl.toList := by simp [sdl]

theorem mark_mem_sdl (nullable : TypeRef) : '!' ∈ (nonNull nullable).sdl.toList := by simp [sdl]

theorem sdl_list_ne_sdl_nonNull (item nullable : TypeRef) :
    (list item).sdl ≠ (nonNull nullable).sdl := by
  intro same
  have listed : (list item).sdl.toList = ('[' :: item.sdl.toList) ++ [']'] := by simp [sdl]
  have marked : (nonNull nullable).sdl.toList = nullable.sdl.toList ++ ['!'] := by simp [sdl]
  have last := congrArg (·.toList.getLast?) same
  simp only [listed, marked, List.getLast?_concat] at last
  cases last

open Outline in
theorem sdl_injective {type other : TypeRef} (isName : IsName type.baseName)
    (isOther : IsName other.baseName) (same : type.sdl = other.sdl) : type = other := by
  induction type generalizing other with
  | named name =>
      have plain := not_mem_sdl_named isName
      cases other with
      | named otherName => exact congrArg named same
      | list item => exact absurd (same ▸ bracket_mem_sdl item) plain.1
      | nonNull nullable => exact absurd (same ▸ mark_mem_sdl nullable) plain.2
  | list item ih =>
      cases other with
      | named name => exact absurd (same ▸ bracket_mem_sdl item) (not_mem_sdl_named isOther).1
      | list otherItem =>
          have inner : item.sdl = otherItem.sdl := by
            simpa [sdl, ← String.toList_inj] using same
          exact congrArg list (ih isName isOther inner)
      | nonNull nullable => exact absurd same (sdl_list_ne_sdl_nonNull item nullable)
  | nonNull nullable ih =>
      cases other with
      | named name => exact absurd (same ▸ mark_mem_sdl nullable) (not_mem_sdl_named isOther).2
      | list item => exact absurd same.symm (sdl_list_ne_sdl_nonNull item nullable)
      | nonNull otherNullable =>
          have inner : nullable.sdl = otherNullable.sdl := by
            simpa [sdl, ← String.toList_inj] using same
          exact congrArg nonNull (ih isName isOther inner)

end TypeRef

namespace Outline

theorem Value.ofType_injective : Function.Injective Value.ofType := by
  intro type other same
  induction type generalizing other with
  | named name =>
      cases other with
      | named otherName => exact congrArg TypeRef.named (Json.string.inj (Value.literal.inj same))
      | list | nonNull => cases same
  | list item ih =>
      cases other with
      | list otherItem => exact congrArg TypeRef.list (ih (Value.list.inj same))
      | named | nonNull => cases same
  | nonNull nullable ih =>
      cases other with
      | nonNull otherNullable => exact congrArg TypeRef.nonNull (ih (Value.nonNull.inj same))
      | named | list => cases same

/-- What is read back as the reference belongs to no other. -/
theorem Dialect.Writes.injective {dialect : Dialect} {write : TypeRef → String}
    {property : String → String → String} {closing : String}
    (writes : dialect.Writes write property closing) (regular : dialect.Regular)
    {type other : TypeRef} (isName : IsName type.baseName) (isOther : IsName other.baseName)
    (same : write type = write other) : type = other := by
  apply Value.ofType_injective
  calc Value.ofType type = dialect.value (write type).toList :=
        (writes.shows_type regular isName).value.symm
    _ = dialect.value (write other).toList := by rw [same]
    _ = Value.ofType other := (writes.shows_type regular isOther).value

end Outline

open Outline TypeRef in
/-- References are made from two names, each in any number of steps.  If one of the three texts is
the same for both then the references are the same, and with them the other texts.  No non-null
wrapper stands directly inside another, and the name stays under all of them. -/
theorem renderings_tell_references_apart {name otherName : String} (isName : IsName name)
    (isOther : IsName otherName) (wrappers otherWrappers : List Wrapper) :
    let type := wrapping name wrappers
    let other := wrapping otherName otherWrappers
    [type.sdl = other.sdl,
      ScriptModule.typeExpression type = ScriptModule.typeExpression other,
      DeclarationModule.typeDeclaration type = DeclarationModule.typeDeclaration other,
      type = other].TFAE ∧
      type.NeverDoubled ∧ type.baseName = name := by
  intro type other
  have base : IsName type.baseName := (baseName_wrapping name wrappers).symm ▸ isName
  have otherBase : IsName other.baseName :=
    (baseName_wrapping otherName otherWrappers).symm ▸ isOther
  refine ⟨?_, (wrapped_wrapping name wrappers).neverDoubled, baseName_wrapping name wrappers⟩
  tfae_have 1 → 4 := sdl_injective base otherBase
  tfae_have 2 → 4 := (script_writes .esm).injective (script_regular .esm) base otherBase
  tfae_have 3 → 4 := declaration_writes.injective declaration_regular base otherBase
  tfae_have 4 → 1 := congrArg sdl
  tfae_have 4 → 2 := congrArg ScriptModule.typeExpression
  tfae_have 4 → 3 := congrArg DeclarationModule.typeDeclaration
  tfae_finish

open Outline TypeRef in
/-- Required twice in a row is required once, and a list of required items is another list. -/
theorem renderings_tell_references_apart_posts :
    let posts := wrapping "Post" [.required, .list, .required, .required]
    let gaps := wrapping "Post" [.list, .required]
    IsName "Post" ∧ posts.sdl = "[Post!]!" ∧ gaps.sdl = "[Post]!" ∧
      ScriptModule.typeExpression posts ≠ ScriptModule.typeExpression gaps ∧
      DeclarationModule.typeDeclaration posts ≠ DeclarationModule.typeDeclaration gaps ∧
      posts.NeverDoubled ∧ posts.baseName = "Post" := by
  intro posts gaps
  have isName : IsName "Post" := by decide
  have differ : posts ≠ gaps := by decide
  obtain ⟨alike, single, base⟩ := renderings_tell_references_apart isName isName
    [.required, .list, .required, .required] [.list, .required]
  refine ⟨isName, rfl, rfl, ?_, ?_, single, base⟩
  · exact fun same => differ ((alike.out 1 3).1 same)
  · exact fun same => differ ((alike.out 2 3).1 same)

end GraphBinding
