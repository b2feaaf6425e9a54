import GraphBinding.Document.Decoder
import GraphBinding.GenerationError
import GraphBinding.Json.Parser
import GraphBinding.Settings.Decoder

namespace GraphBinding

/-! Documents and settings out of texts and values. -/

def ReadError.ofDecoding {α : Type} (result : Except DecodeError α) : Except ReadError α :=
  result.mapError .mistyped

namespace Document

/-- The whole text is read before any of it is decoded. -/
def ofText (text : String) : Except ReadError Document := do
  let json ← (Json.parse text).mapError .malformed
  ReadError.ofDecoding (Document.decode json)

end Document

namespace Settings

/-- Members are checked as they stand in the text; what follows the settings comes last. -/
def ofText (text : String) : Except ReadError Settings := do
  let (json, rest) ← Settings.shape.read Json.nestingLimit text.toList
  let settings ← ReadError.ofDecoding (Settings.decode json)
  if (Json.Reader.skipBlank rest).isEmpty then return settings
  else throw (.malformed .trailingCharacters)

end Settings

end GraphBinding
