import GraphBinding.Table

namespace GraphBinding

/-! Settings of a generation pass, and the part of them that resolvers consult at request time. -/

/-- The GraphQL type of an integer identifier. -/
inductive IdProjection where
  | id
  | int
deriving DecidableEq, Repr

/-- Where documentation is copied to. -/
structure DocPropagation where
  /-- Comments of the declaration module. -/
  comments : Bool := true
  /-- Descriptions of the schema. -/
  descriptions : Bool := true
deriving DecidableEq, Repr

/-- The comment of an item without documentation. -/
inductive MissingDocComment where
  /-- A short guide to writing the documentation. -/
  | guide
  | none
deriving DecidableEq, Repr

/-- The flavors of the script module to write. -/
structure OutputFormats where
  esm : Bool := true
  cjs : Bool := true
deriving DecidableEq, Repr

/-- How the data client on the context is checked. -/
inductive CheckStrategy where
  /-- It must report the configured identity. -/
  | strict
  /-- It must offer the methods that resolvers call. -/
  | structural
  | strictWithFallback
deriving DecidableEq, Repr

structure ClientCheck where
  enabled : Bool := true
  strategy : CheckStrategy := .strictWithFallback
deriving DecidableEq, Repr

structure RuntimeSettings where
  /-- The slot of the context that holds the data client. -/
  contextField : String := "prisma"
  /-- The identity that the data client should report. -/
  clientIdentity : String := "@prisma/client"
  clientCheck : ClientCheck := {}
deriving DecidableEq, Repr

structure Settings where
  idProjection : IdProjection := .int
  docPropagation : DocPropagation := {}
  missingDocComment : MissingDocComment := .guide
  output : OutputFormats := {}
  /-- Input type, then native field name, then the name to expose it under. -/
  fieldAliases : Table (Table String) := Table.empty
  runtime : RuntimeSettings := {}
deriving DecidableEq

end GraphBinding
