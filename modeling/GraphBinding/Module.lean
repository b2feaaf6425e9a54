import GraphBinding.Module.Declaration
import GraphBinding.Module.Script

namespace GraphBinding

/-! The generated modules. -/

/-- A generated file, named relative to the output directory. -/
structure GeneratedFile where
  name : String
  content : String
deriving DecidableEq

def Flavor.fileName : Flavor → String
  | .cjs => "index.js"
  | .esm => "index.mjs"

def declarationFileName : String := "index.d.ts"

namespace Schema

def scriptFile (schema : Schema) (flavor : Flavor) : GeneratedFile :=
  ⟨flavor.fileName, Source.text (schema.scriptModule flavor)⟩

/-- The script modules that the settings ask for, and always the declarations. -/
def files (schema : Schema) : List GeneratedFile :=
  (if schema.settings.output.cjs then [schema.scriptFile .cjs] else []) ++
    (if schema.settings.output.esm then [schema.scriptFile .esm] else []) ++
    [⟨declarationFileName, Source.text schema.declarationModule⟩]

end Schema

end GraphBinding
