import Linkage.Conformance.Harness
import Linkage.Proofs.ParsedUnits

/-!
# What the bundled scripts declare

The bundled scripts are texts. Here they are parsed once and for all: `Bundled.registry_hostText`
and `Bundled.registry_payloadText` say which units they declare, in order.

The units come in two families of the same build, one for the types that both scripts declare and
one for those of the payload alone. Each family has a class that is called, its parent and its
capability, and the two differ in who supplies `interTransfer`: the class itself, or the capability
by a default. A class and an interface that both families share stand above them. The units of the
two scripts are the same but for their stamps and tags (`Bundled.Mark`).
-/

namespace Linkage

namespace Bundled

/-- The names of a family. -/
def targets (collision : Bool) : Targets := if collision then .colliding else .payloadOnly

/-! ## Units -/

/-- What tells the units of one script from their namesakes in the other: their stamp, and the tag
they transfer under. -/
structure Mark where
  stamp : Nat
  tag : String

/-- The units of the host script. -/
def Mark.host : Mark := ⟨hostNumber, "MainAPK"⟩

/-- The units of the payload script. -/
def Mark.payload : Mark := ⟨scenarioNumber, "A"⟩

/-- A member of the canonical signature that transfers under a tag. -/
def transferring (kind : MemberKind) (name tag : String) : Member :=
  ⟨⟨name, .canonical⟩, kind, some (.transfer tag)⟩

/-- A member of the canonical signature without a body. -/
def leftOpen (name : String) : Member := ⟨⟨name, .canonical⟩, .abstract, none⟩

/-- The capability that both families share. -/
def sharedInterface (mark : Mark) : CodeUnit where
  id := ⟨mark.stamp, Plan.bundled "ICommonInterface", .interface, none, [],
    [leftOpen "commonInterTransfer"]⟩
  valid := Declaration.fault?_eq_none_iff.1 rfl

/-- The class above both families. -/
def sharedClass (mark : Mark) : CodeUnit where
  id := ⟨mark.stamp, Plan.bundled "PCommon", .concreteClass, none, [],
    [transferring .virtual "commonExtendedTransfer" mark.tag]⟩
  valid := Declaration.fault?_eq_none_iff.1 rfl

/-- The parent of the class that is called. -/
def parentClass (collision : Bool) (mark : Mark) : CodeUnit where
  id := ⟨mark.stamp, Plan.bundled (targets collision).parent, .concreteClass,
    some (Plan.bundled "PCommon"), [], [transferring .virtual "extendedTransfer" mark.tag]⟩
  valid := Declaration.fault?_eq_none_iff.1 (by cases collision <;> rfl)

/-- The capability of the class that is called. -/
def capability (collision : Bool) (mark : Mark) : CodeUnit where
  id := ⟨mark.stamp, Plan.bundled (targets collision).capability, .interface, none, [],
    [if collision then leftOpen "interTransfer"
      else transferring .default "interTransfer" mark.tag,
      transferring .interfaceStatic "staticInterfaceTransfer" mark.tag]⟩
  valid := Declaration.fault?_eq_none_iff.1 (by cases collision <;> rfl)

/-- The class that is called. -/
def calledClass (collision : Bool) (mark : Mark) : CodeUnit where
  id := ⟨mark.stamp, Plan.bundled (targets collision).type, .concreteClass,
    some (Plan.bundled (targets collision).parent),
    [Plan.bundled (targets collision).capability, Plan.bundled "ICommonInterface"],
    [transferring .virtual "virtTransfer" mark.tag,
      transferring .static "staticTransfer" mark.tag] ++
      (if collision then [transferring .virtual "interTransfer" mark.tag] else []) ++
      [transferring .virtual "commonInterTransfer" mark.tag,
        transferring .override "commonExtendedTransfer" mark.tag]⟩
  valid := Declaration.fault?_eq_none_iff.1 (by cases collision <;> rfl)

/-- A class of the host that no scenario calls. -/
def hostClass (mark : Mark) : CodeUnit where
  id := ⟨mark.stamp, Plan.bundled "MainReflectee", .concreteClass,
    some (Plan.bundled "PCommon"), [Plan.bundled "ICommonInterface"],
    [transferring .virtual "virtTransfer" mark.tag,
      transferring .static "staticTransfer" mark.tag,
      transferring .virtual "commonInterTransfer" mark.tag]⟩
  valid := Declaration.fault?_eq_none_iff.1 rfl

/-- The units of the host script. -/
def hostUnits : Registry where
  units := [sharedInterface .host, sharedClass .host, parentClass true .host,
    capability true .host, calledClass true .host, hostClass .host]
  names_distinct := by decide +kernel

/-- The units of the payload script. -/
def payloadUnits : Registry where
  units := [sharedInterface .payload, sharedClass .payload, parentClass true .payload,
    capability true .payload, calledClass true .payload, capability false .payload,
    parentClass false .payload, calledClass false .payload]
  names_distinct := by decide +kernel

/-! ## Texts -/

theorem toList_foldl (parts : List String) (start : String) :
    (parts.foldl (· ++ ·) start).toList = start.toList ++ parts.flatMap String.toList := by
  induction parts generalizing start with
  | nil => simp
  | cons part parts ih => simp [ih]

/-- The characters of a text of lines are those of the lines, each with a line feed behind it. -/
theorem toList_ofLines (lines : List String) :
    (ofLines lines).toList = lines.flatMap fun line => line.toList ++ ['\n'] := by
  rw [ofLines, String.join, toList_foldl, List.flatMap_map]
  simp

/-- A script of lines is read character by character. -/
theorem registry_ofLines (stamp : Nat) (lines : List String) :
    Payload.registry stamp (ofLines lines).toUTF8 =
      ((Script.read (lines.flatMap fun line => line.toList ++ ['\n']) >>=
        Script.declarations).mapError fun error => .malformed error.message) >>=
        Payload.register stamp := by
  rw [Payload.registry_toUTF8, Payload.parse, Script.parse, toList_ofLines]

/-- The host script declares the units of the host. -/
theorem registry_hostText : Payload.registry hostNumber hostText.toUTF8 = .ok hostUnits := by
  rw [hostText, registry_ofLines]
  simp only [sharedUnits, block, transferLine, abstractLine, declared, packageLine, package,
    List.cons_append, List.nil_append, List.append_assoc, List.flatMap_cons, List.flatMap_nil,
    String.toList_append, String.toList_intercalate, ParamType.all, List.map_cons, List.map_nil,
    ParamType.word]
  -- the kernel is slow at taking literals apart, so this is done for it, one after another
  repeat rw [String.toList_ofList]
  exact Except.toOption_eq_some_iff.1 (by decide +kernel)

/-- The payload script declares the units of the payload. -/
theorem registry_payloadText :
    Payload.registry scenarioNumber payloadText.toUTF8 = .ok payloadUnits := by
  rw [payloadText, registry_ofLines]
  simp only [sharedUnits, block, transferLine, abstractLine, declared, packageLine, package,
    List.cons_append, List.nil_append, List.append_assoc, List.flatMap_cons, List.flatMap_nil,
    String.toList_append, String.toList_intercalate, ParamType.all, List.map_cons, List.map_nil,
    ParamType.word]
  repeat rw [String.toList_ofList]
  exact Except.toOption_eq_some_iff.1 (by decide +kernel)

end Bundled

end Linkage
