/-!
# Parameter types and signatures

The ten parameter types with their two spellings: the word used in declarations and the descriptor
used in signature texts. A signature is a list of parameter types; it takes a variable number of
arguments when its last parameter is the string group. `ParamType.ofWord?_word` says that the word
determines the type.
-/

namespace Linkage

/-- The type of one parameter. `stringGroup` stands for any number of strings at the end of an
argument list. -/
inductive ParamType where
  | boolean | byte | short | char | int | long | float | double | string | stringGroup
  deriving DecidableEq, Repr, Inhabited

namespace ParamType

/-- Every parameter type, in the order of the canonical signature. -/
def all : List ParamType :=
  [boolean, byte, short, char, int, long, float, double, string, stringGroup]

/-- The word a declaration spells the type with. -/
def word : ParamType → String
  | boolean => "boolean"
  | byte => "byte"
  | short => "short"
  | char => "char"
  | int => "int"
  | long => "long"
  | float => "float"
  | double => "double"
  | string => "String"
  | stringGroup => "String..."

/-- The type's part of a signature text. -/
def descriptor : ParamType → String
  | boolean => "Z"
  | byte => "B"
  | short => "S"
  | char => "C"
  | int => "I"
  | long => "J"
  | float => "F"
  | double => "D"
  | string => "Ljava/lang/String;"
  | stringGroup => "[Ljava/lang/String;"

/-- The type spelled by a word. -/
def ofWord? (word : String) : Option ParamType := all.find? fun type => type.word = word

/-- The word of a type spells that type. -/
theorem ofWord?_word (type : ParamType) : ofWord? type.word = some type := by
  cases type <;> decide

/-- Only the word of a type spells it. -/
theorem word_of_ofWord? {word : String} {type : ParamType} (h : ofWord? word = some type) :
    type.word = word := by
  have := List.find?_some h
  simpa using this

end ParamType

/-- An ordered list of parameter types. -/
structure Signature where
  params : List ParamType
  deriving DecidableEq, Repr, Inhabited

namespace Signature

/-- The signature with every parameter type once, the string group last. -/
def canonical : Signature := ⟨ParamType.all⟩

/-- The number of parameters. -/
def arity (signature : Signature) : Nat := signature.params.length

/-- Whether the last parameter is the string group. -/
def isVariadic (signature : Signature) : Bool :=
  signature.params.getLast? = some .stringGroup

/-- The parameters in front of the string group; all of them when there is none at the end. -/
def fixedParams (signature : Signature) : List ParamType :=
  if signature.isVariadic then signature.params.dropLast else signature.params

/-- The descriptors in parentheses. -/
def text (signature : Signature) : String :=
  "(" ++ String.join (signature.params.map ParamType.descriptor) ++ ")"

/-- A variadic signature is its fixed parameters and the group behind them. -/
theorem params_eq_of_isVariadic {signature : Signature} (h : signature.isVariadic = true) :
    signature.params = signature.fixedParams ++ [.stringGroup] := by
  have hlast : signature.params.getLast? = some .stringGroup := by simpa [isVariadic] using h
  obtain ⟨front, hfront⟩ := List.getLast?_eq_some_iff.1 hlast
  simp [fixedParams, h, hfront]

/-- A signature that is not variadic has only fixed parameters. -/
theorem fixedParams_of_not_isVariadic {signature : Signature} (h : signature.isVariadic = false) :
    signature.fixedParams = signature.params := by
  simp [fixedParams, h]

end Signature

end Linkage
