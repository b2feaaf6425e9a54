import GraphBinding.Projection

namespace GraphBinding

/-! A finished schema, which resolvers and modules only read. -/

structure Schema where
  settings : Settings
  graph : TypeGraph
  catalog : Catalog
  aliases : Aliases
  identifiers : Table (List String)

namespace Draft

def finish (draft : Draft) (graph : TypeGraph) : Schema where
  settings := draft.settings
  graph := graph
  catalog := draft.catalog
  aliases := draft.aliases
  identifiers := draft.identifiers

end Draft

namespace Schema

def generate (document : Document) (settings : Settings) : Except GenerationError Schema :=
  match Draft.project { document, settings } with
  | (.ok graph, draft) => .ok (draft.finish graph)
  | (.error reason, _) => .error reason

def object? (schema : Schema) (name : String) : Option ObjectType := schema.graph.object? name

def field? (schema : Schema) (parent field : String) : Option OutputField :=
  (schema.object? parent).bind (·.field? field)

def input? (schema : Schema) (name : String) : Option InputType := schema.catalog.inputs.find? name

def identifiers? (schema : Schema) (model : String) : Option (List String) :=
  schema.identifiers.find? model

/-- Every type in schema language: enums, objects, inputs. -/
def sdl (schema : Schema) : String :=
  "\n\n".intercalate
    (schema.graph.enums.values.map (·.type.sdl) ++ schema.catalog.enums.values.map EnumType.sdl ++
      schema.graph.objects.map ObjectType.sdl ++ schema.catalog.inputs.values.map InputType.sdl) ++
    "\n"

end Schema

end GraphBinding
