import Linkage.Script.Grammar
import Linkage.Unit.Registry

/-!
# Payloads

A payload is a piece of bytes that should be the UTF-8 form of a script. `Payload.declarations`
decodes and parses it, `Payload.registry` goes on to register what it declares. The failures of
fetching a payload and of making something of it are one type.
-/

namespace Linkage

/-- A failure to fetch a payload or to make something of it. -/
inductive PayloadError where
  /-- A file cannot be read or written. -/
  | unreadable (path reason : String)
  /-- A store has no payload of that name. -/
  | missing (name : String)
  /-- A store has no file for the payload. -/
  | noPath (name : String)
  /-- The bytes are not UTF-8. -/
  | encoding
  /-- The text is not a script. -/
  | malformed (detail : String)
  /-- The declarations do not make a registry. -/
  | definition (error : DefinitionError)
  deriving DecidableEq, Repr, Inhabited

/-- The wording of the failure. -/
def PayloadError.message : PayloadError → String
  | unreadable path reason => "failed to read payload `" ++ path ++ "`: " ++ reason
  | missing name => "payload `" ++ name ++ "` not found"
  | noPath name => "payload `" ++ name ++ "` has no path in this store"
  | encoding => "payload is not valid UTF-8"
  | malformed detail => "payload syntax error: " ++ detail
  | definition error => error.message

namespace Payload

/-- The declarations in a text. -/
def parse (text : String) : Except PayloadError (List Declaration) :=
  (Script.parse text).mapError fun error => .malformed error.message

/-- The declarations in a payload. -/
def declarations (bytes : ByteArray) : Except PayloadError (List Declaration) :=
  match String.fromUTF8? bytes with
  | some text => parse text
  | none => .error .encoding

/-- The declarations in the bytes of a text are those in the text. -/
theorem declarations_toUTF8 (text : String) : declarations text.toUTF8 = parse text := by
  rw [declarations, String.fromUTF8?, String.toUTF8, dif_pos text.isValidUTF8]
  rfl

/-- The registry of a list of declarations. -/
def register (stamp : Nat) (declarations : List Declaration) : Except PayloadError Registry :=
  (Registry.ofDeclarations stamp declarations).mapError .definition

/-- The registry of the declarations in a payload. -/
def registry (stamp : Nat) (bytes : ByteArray) : Except PayloadError Registry := do
  register stamp (← declarations bytes)

end Payload

end Linkage
