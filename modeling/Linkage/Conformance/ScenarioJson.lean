import Linkage.Conformance.Scenario
import Linkage.Json.Reader

/-!
# Scenarios as JSON

A scenario is an object with four fields, or an array of the four values in the same order. Fields
of other names are passed over; a field that is missing or given twice is refused. The loader kind
and the call form are strings, or objects with that one field and null in it.
-/

namespace Linkage

namespace Json

/-- The word of a value that stands for one of several words: a string, or an object with one field
of that name and null in it. -/
def word? : Json → Option String
  | string written => decode written
  | object [(name, null)] => decode name
  | _ => none

/-- The truth value of a value. -/
def bool? : Json → Option Bool
  | boolean b => some b
  | _ => none

/-- The value of the field of a name; there must be exactly one. -/
def onlyField? (fields : List (String × Json)) (name : String) : Option Json :=
  match fields.filter fun field => field.1 = name with
  | [(_, value)] => some value
  | _ => none

/-- The fields of an object under the names their strings stand for. -/
def namedFields? (fields : List (String × Json)) : Option (List (String × Json)) :=
  fields.mapM fun field => (decode field.1).map fun name => (name, field.2)

end Json

namespace Scenario

/-- The name of the field for the loader kind. -/
def loaderField : String := "loader_kind"

/-- The name of the field for the collision. -/
def collisionField : String := "collision"

/-- The name of the field for the host above. -/
def parentField : String := "has_parent"

/-- The name of the field for the call form. -/
def dispatchField : String := "dispatch"

/-- The object of a scenario. -/
def json (scenario : Scenario) : Json := .object
  [(loaderField, .ofText scenario.loader.word),
   (collisionField, .boolean scenario.collision),
   (parentField, .boolean scenario.hasParent),
   (dispatchField, .ofText scenario.dispatch.word)]

/-- The scenario of four values. -/
def ofValues? (loader collision hasParent dispatch : Json) : Option Scenario := do
  return {
    loader := ← LoaderKind.ofWord? (← loader.word?)
    collision := ← collision.bool?
    hasParent := ← hasParent.bool?
    dispatch := ← CallForm.ofWord? (← dispatch.word?) }

/-- The scenario of a value. -/
def ofJson? : Json → Option Scenario
  | .array [loader, collision, hasParent, dispatch] =>
    ofValues? loader collision hasParent dispatch
  | .object fields => do
    let fields ← Json.namedFields? fields
    ofValues? (← Json.onlyField? fields loaderField) (← Json.onlyField? fields collisionField)
      (← Json.onlyField? fields parentField) (← Json.onlyField? fields dispatchField)
  | _ => none

/-- The scenario of a document. -/
def ofDocument? (document : String) : Option Scenario := do
  ofJson? (← Json.parse document)

end Scenario

end Linkage
