import Linkage.Conformance.Failure
import Linkage.Conformance.Scenario

/-!
# Plans and predictions

The plan of a scenario says which member is asked for and which type should hold the body that
answers. All members have the canonical signature.

What a scenario should come to is said without loading anything. The owner depends on the names the
host declares and on who is asked first; the status depends on the scenario and the settings alone.
-/

namespace Linkage

/-- The three bundled types a scenario deals with. -/
structure Targets where
  type : String
  parent : String
  capability : String
  deriving DecidableEq, Repr

namespace Targets

/-- The types that the host and the payload both declare. -/
def colliding : Targets := ⟨"Collider", "PCollider", "ICollider"⟩

/-- The types that only the payload declares. -/
def payloadOnly : Targets := ⟨"AReflectee", "APReflectee", "AIReflectee"⟩

end Targets

/-- What a scenario asks for. -/
structure Plan where
  request : Request
  /-- The type that should hold the body that answers. -/
  answering : QualifiedName
  deriving DecidableEq, Repr

namespace Plan

/-- A bundled type by its simple name. -/
def bundled (name : String) : QualifiedName := QualifiedName.qualify (some Bundled.package) name

/-- A request for a member with the canonical signature. -/
def asking (type : QualifiedName) (member : String) (dispatch : Dispatch) : Request :=
  ⟨type, ⟨member, .canonical⟩, dispatch⟩

/-- The plan of a scenario. The colliding type has a member of its own where the other one takes
the default of its capability. -/
def ofScenario (scenario : Scenario) : Plan :=
  let targets := if scenario.collision then Targets.colliding else Targets.payloadOnly
  let type := bundled targets.type
  let capability := bundled targets.capability
  match scenario.dispatch with
  | .virtual => ⟨asking type "virtTransfer" .virtual, type⟩
  | .static => ⟨asking type "staticTransfer" .static, type⟩
  | .extended => ⟨asking type "extendedTransfer" .inherited, bundled targets.parent⟩
  | .interface =>
    ⟨asking type "interTransfer" .interfaceDefault, if scenario.collision then type else capability⟩
  | .interfaceStatic =>
    ⟨asking capability "staticInterfaceTransfer" .interfaceStatic, capability⟩
  | .factoryInterface =>
    ⟨asking type "commonInterTransfer" (.factory (bundled "ICommonInterface")), type⟩
  | .factoryExtend => ⟨asking type "commonExtendedTransfer" (.factory (bundled "PCommon")), type⟩
  | .overridden => ⟨asking type "commonExtendedTransfer" .overridden, type⟩

end Plan

/-! ## Predictions -/

/-- Whether the host should answer: it is above the payload's namespace, it is asked first, and it
declares the type that holds the answering body. -/
def hostAnswers (scenario : Scenario) (answering : QualifiedName) (host : Registry) : Bool :=
  scenario.hasParent && scenario.loader.policy = .parentFirst && host.contains answering

/-- The tag by which a scenario should be answered. -/
def expectedOwner (scenario : Scenario) (answering : QualifiedName) (host : Registry)
    (settings : Settings) : String :=
  if hostAnswers scenario answering host then settings.hostTag else settings.payloadTag

namespace Scenario

/-- The status a scenario should end with. A host that holds an instance needs the payload to use
the host's own types, so it has to be there and to be asked first. -/
def expectedStatus (scenario : Scenario) (settings : Settings) : Status :=
  if scenario.dispatch.isFactory && (!scenario.hasParent || scenario.loader = .delegateLast) then
    .invocationFailure
  else if scenario.dispatch = .interfaceStatic && !settings.interfaceStaticHandles then
    .resolutionFailure
  else .passed

/-- Whether a scenario should pass. -/
def isSupported (scenario : Scenario) (settings : Settings) : Bool :=
  scenario.expectedStatus settings = .passed

/-- The scenarios that should pass, in order. -/
def supported (settings : Settings) : List Scenario :=
  all.filter fun scenario => scenario.isSupported settings

end Scenario

end Linkage
