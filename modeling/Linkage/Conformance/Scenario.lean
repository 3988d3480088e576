import Linkage.Namespace.Basic
import Linkage.Repository.Bundled

/-!
# Scenarios

A scenario is one experiment: how the payload is loaded, whether the type that is called exists in
the host as well, whether the payload's namespace has the host above it, and how the member is
called. The settings are what all scenarios of a harness share. `Scenario.mem_all` says that the
matrix `all` leaves no scenario out.
-/

namespace Linkage

/-- How the payload of a scenario is loaded. -/
inductive LoaderKind where
  /-- From bytes. -/
  | byteBuffer
  /-- From a file that is parsed once. -/
  | cachedPath
  /-- From a file that is parsed every time. -/
  | uncachedPath
  /-- From a file that is parsed every time, with the host asked last. -/
  | delegateLast
  deriving DecidableEq, Repr, Inhabited

namespace LoaderKind

/-- Every kind, in the order of the matrix. -/
def all : List LoaderKind := [byteBuffer, cachedPath, uncachedPath, delegateLast]

/-- The word for a kind. -/
def word : LoaderKind → String
  | byteBuffer => "byte-buffer-based"
  | cachedPath => "path-based-cached"
  | uncachedPath => "path-based-uncached"
  | delegateLast => "delegate-last"

/-- The kind a word stands for. -/
def ofWord? (word : String) : Option LoaderKind := all.find? fun kind => kind.word = word

/-- The order in which the payload and the host are asked. -/
def policy : LoaderKind → Policy
  | delegateLast => .childFirst
  | _ => .parentFirst

/-- Whether the payload comes from a file. -/
def isPathBased : LoaderKind → Bool
  | byteBuffer => false
  | _ => true

theorem mem_all (kind : LoaderKind) : kind ∈ all := by
  cases kind <;> simp [all]

/-- The word of a kind stands for that kind. -/
theorem ofWord?_word (kind : LoaderKind) : ofWord? kind.word = some kind := by
  cases kind <;> decide

end LoaderKind

/-- How the member of a scenario is called. -/
inductive CallForm where
  | virtual
  | static
  /-- A member inherited from the parent. -/
  | extended
  /-- A member of a capability. -/
  | interface
  /-- A static member of a capability. -/
  | interfaceStatic
  /-- On an instance held as a capability by the host. -/
  | factoryInterface
  /-- On an instance held as a parent type by the host. -/
  | factoryExtend
  /-- A member that shadows one above it. -/
  | overridden
  deriving DecidableEq, Repr, Inhabited

namespace CallForm

/-- Every form, in the order of the matrix. -/
def all : List CallForm :=
  [virtual, static, extended, interface, interfaceStatic, factoryInterface, factoryExtend,
   overridden]

/-- The word for a form. -/
def word : CallForm → String
  | virtual => "virtual"
  | static => "static"
  | extended => "extended"
  | interface => "interface"
  | interfaceStatic => "interface-static"
  | factoryInterface => "factory-interface"
  | factoryExtend => "factory-extend"
  | overridden => "overridden"

/-- The form a word stands for. -/
def ofWord? (word : String) : Option CallForm := all.find? fun form => form.word = word

/-- Whether the host holds the instance. -/
def isFactory : CallForm → Bool
  | factoryInterface | factoryExtend => true
  | _ => false

theorem mem_all (form : CallForm) : form ∈ all := by
  cases form <;> simp [all]

/-- The word of a form stands for that form. -/
theorem ofWord?_word (form : CallForm) : ofWord? form.word = some form := by
  cases form <;> decide

end CallForm

/-- A word that stands for nothing of the sort asked for. -/
inductive UnknownWord where
  | loader (word : String)
  | dispatch (word : String)
  deriving DecidableEq, Repr, Inhabited

/-- The wording of the failure. -/
def UnknownWord.message : UnknownWord → String
  | loader word => "unknown loader kind `" ++ word ++ "`"
  | dispatch word => "unknown dispatch kind `" ++ word ++ "`"

/-- Read the word for a loader kind. -/
def LoaderKind.parse (word : String) : Except UnknownWord LoaderKind :=
  match ofWord? word with
  | some kind => .ok kind
  | none => .error (.loader word)

/-- Read the word for a call form. -/
def CallForm.parse (word : String) : Except UnknownWord CallForm :=
  match ofWord? word with
  | some form => .ok form
  | none => .error (.dispatch word)

/-- One experiment. -/
structure Scenario where
  loader : LoaderKind
  /-- Whether the type that is called exists in the host as well. -/
  collision : Bool
  /-- Whether the host is above the payload's namespace. -/
  hasParent : Bool
  dispatch : CallForm
  deriving DecidableEq, Repr, Inhabited

namespace Scenario

/-- The four parts of a scenario with slashes between them. -/
def text (scenario : Scenario) : String :=
  scenario.loader.word ++ "/" ++
    (if scenario.collision then "collision" else "no-collision") ++ "/" ++
    (if scenario.hasParent then "parent" else "no-parent") ++ "/" ++
    scenario.dispatch.word

/-- Every scenario, the loader kind outermost and the call form innermost. -/
def all : List Scenario :=
  LoaderKind.all.flatMap fun loader =>
    [false, true].flatMap fun collision =>
      [true, false].flatMap fun hasParent =>
        CallForm.all.map fun dispatch => ⟨loader, collision, hasParent, dispatch⟩

theorem mem_all (scenario : Scenario) : scenario ∈ all := by
  obtain ⟨loader, collision, hasParent, dispatch⟩ := scenario
  refine List.mem_flatMap.2 ⟨loader, loader.mem_all, ?_⟩
  refine List.mem_flatMap.2 ⟨collision, by cases collision <;> simp, ?_⟩
  refine List.mem_flatMap.2 ⟨hasParent, by cases hasParent <;> simp, ?_⟩
  exact List.mem_map.2 ⟨dispatch, dispatch.mem_all, rfl⟩

end Scenario

/-- What all scenarios of a harness share. -/
structure Settings where
  /-- The bound on hops between layers and on walks up a type's parents. -/
  maxHops : Nat := defaultMaxHops
  /-- Whether static members of interfaces can be held. -/
  interfaceStaticHandles : Bool := false
  /-- The name of the payload in the store. -/
  payloadName : String := Bundled.payloadName
  /-- The tag by which the host's bodies answer. -/
  hostTag : String := "MainAPK"
  /-- The tag by which the payload's bodies answer. -/
  payloadTag : String := "A"
  deriving DecidableEq, Repr, Inhabited

end Linkage
