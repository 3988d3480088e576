import Linkage.Signature

/-!
# Bundled scripts

Two scripts that come with the library. They declare overlapping types in one package: the host
script answers with the tag `MainAPK`, the payload script with the tag `A`. Every member has the
canonical signature.
-/

namespace Linkage.Bundled

/-- The name of the host script in a store. -/
def hostName : String := "host.units"

/-- The name of the payload script in a store. -/
def payloadName : String := "a.units"

/-- The package of every bundled type. -/
def package : String := "com.example.theseus.dynandref"

/-- A member line without a body. -/
def declared (head : String) : String :=
  "    " ++ head ++ "(" ++ ", ".intercalate (ParamType.all.map ParamType.word) ++ ")"

/-- A line for an abstract member. -/
def abstractLine (name : String) : String := declared ("abstract " ++ name) ++ ";"

/-- A line for a member that transfers under a tag. -/
def transferLine (tag head : String) : String :=
  declared head ++ " = transfer \"" ++ tag ++ "\";"

/-- A unit: its first line, its members, and an empty line before it. -/
def block (head : String) (members : List String) : List String :=
  ["", head ++ " \x7b"] ++ members ++ ["\x7d"]

/-- The line that names the package. -/
def packageLine : String := "package " ++ package ++ ";"

/-- Lines, each ended by a line feed. -/
def ofLines (lines : List String) : String := String.join (lines.map (· ++ "\n"))

/-- The units that both scripts declare alike but for the tag. -/
def sharedUnits (tag : String) : List String :=
  block "interface ICommonInterface" [abstractLine "commonInterTransfer"] ++
  block "class PCommon" [transferLine tag "virtual commonExtendedTransfer"] ++
  block "class PCollider extends PCommon" [transferLine tag "virtual extendedTransfer"] ++
  block "interface ICollider"
    [abstractLine "interTransfer", transferLine tag "static staticInterfaceTransfer"] ++
  block "class Collider extends PCollider implements ICollider, ICommonInterface"
    [transferLine tag "virtual virtTransfer",
     transferLine tag "static staticTransfer",
     transferLine tag "virtual interTransfer",
     transferLine tag "virtual commonInterTransfer",
     transferLine tag "override commonExtendedTransfer"]

/-- The host script. -/
def hostText : String := ofLines <|
  ["// Units defined by the host namespace. Every body answers with \"MainAPK\".", packageLine] ++
  sharedUnits "MainAPK" ++
  block "class MainReflectee extends PCommon implements ICommonInterface"
    [transferLine "MainAPK" "virtual virtTransfer",
     transferLine "MainAPK" "static staticTransfer",
     transferLine "MainAPK" "virtual commonInterTransfer"]

/-- The payload script. -/
def payloadText : String := ofLines <|
  ["// Units carried by the dynamically loaded payload. Every body answers with \"A\".",
   "// The payload is self-contained: it redefines the host's shared types so it",
   "// links even when loaded without a parent.", packageLine] ++
  sharedUnits "A" ++
  block "interface AIReflectee"
    [transferLine "A" "default interTransfer", transferLine "A" "static staticInterfaceTransfer"] ++
  block "class APReflectee extends PCommon" [transferLine "A" "virtual extendedTransfer"] ++
  block "class AReflectee extends APReflectee implements AIReflectee, ICommonInterface"
    [transferLine "A" "virtual virtTransfer",
     transferLine "A" "static staticTransfer",
     transferLine "A" "virtual commonInterTransfer",
     transferLine "A" "override commonExtendedTransfer"]

end Linkage.Bundled
