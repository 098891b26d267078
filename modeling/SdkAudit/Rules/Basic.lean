import SdkAudit.Technology

/-!
# Rule sets

The documentation of the SDK for one technology, as data: the facade through which the SDK is
called, the initializer and its parameters, the documented methods with their parameters, the
methods every project must use, and the patterns by which methods are looked for in a text that
cannot be parsed.

* `RuleSet.method?`: the documented method of a name;
* `Initialization.requiredParameters`: the parameters that an initializer call must supply;
* `RuleSet.qualifiedInitializer`: the initializer as it is called through the facade.
-/

namespace SdkAudit

/-- A documented parameter of the initializer or of a method. -/
structure Parameter where
  name : String
  /-- The type of the parameter, as documented. -/
  typeName : String
  /-- Whether a call must supply the parameter. -/
  required : Bool := true
  description : String
  /-- The values the parameter may take, where they are listed. -/
  validValues : Option (List String) := none
deriving DecidableEq, Repr

/-- How the SDK session is established. -/
structure Initialization where
  /-- Whether the SDK has to be initialized at all. -/
  required : Bool
  /-- The name of the initializer. -/
  method : String
  parameters : List Parameter
  /-- A call that is right. -/
  sample : String
deriving DecidableEq, Repr

/-- The names of the parameters that an initializer call must supply, in order. -/
def Initialization.requiredParameters (i : Initialization) : List String :=
  (i.parameters.filter (·.required)).map (·.name)

/-- A documented method of the SDK. -/
structure Method where
  name : String
  /-- Whether every project has to use the method. -/
  required : Bool
  parameters : List Parameter
  /-- A call that is right. -/
  sample : String
  /-- Whether the method needs an initialized SDK. -/
  needsInitialization : Bool
  description : String
deriving DecidableEq, Repr

/-- The number of arguments that a call of the method must supply. -/
def Method.arity (m : Method) : Nat := m.parameters.length

/-- What is recommended about errors of SDK calls. -/
structure ErrorHandling where
  recommendations : List String
  /-- A call that is right. -/
  sample : String
deriving DecidableEq, Repr

/-- A pattern by which uses of a method are found in a text that cannot be parsed. -/
structure MethodPattern where
  method : String
  pattern : String
deriving DecidableEq, Repr

/-- The documentation of the SDK for one technology. -/
structure RuleSet where
  technology : Technology
  /-- The name of the technology for people. -/
  name : String
  fileExtensions : List String
  /-- The receiver through which methods are called. -/
  facade : String
  initialization : Initialization
  methods : List Method
  bestPractices : List String
  errorHandling : ErrorHandling
  /-- The methods that every project has to use. -/
  requiredMethods : List String
  methodPatterns : List MethodPattern
deriving DecidableEq, Repr

namespace RuleSet

/-- The documented method of a name, the first one if there are several. -/
def method? (rules : RuleSet) (name : String) : Option Method :=
  rules.methods.find? (·.name == name)

/-- The initializer as it is called through the facade. -/
def qualifiedInitializer (rules : RuleSet) : String :=
  rules.facade ++ "." ++ rules.initialization.method

/-- The first name of the facade. -/
def facadeRoot (rules : RuleSet) : String :=
  String.ofList (rules.facade.toList.takeWhile (· ≠ '.'))

end RuleSet

end SdkAudit
