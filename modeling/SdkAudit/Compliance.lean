import SdkAudit.Diagnostic
import SdkAudit.Scan

/-!
# Compliance

The checks of one source text against a rule set.

With an outline, three things are checked.

* Initialization: the initializer call must supply every required parameter, by number or as keys of
  an object literal.  A text with neither an initializer call nor a call through the facade misses
  the initialization; one with calls that need it, but no initializer call, may be out of order.
* Arity: a call of a documented method must supply as many arguments as the method has parameters.
* Error handling: a call through the facade must lie in a guarded scope.

Without an outline, the methods that were found are compared with those that are required.
-/

namespace SdkAudit

/-- How a file was scanned. -/
inductive ScanMode where
  | structured
  | degraded
deriving DecidableEq, Repr

def ScanMode.label : ScanMode → String
  | .structured => "structured"
  | .degraded => "degraded"

def Scan.mode : Scan → ScanMode
  | .structured _ => .structured
  | .degraded _ => .degraded

/-- The findings about one source text. -/
structure Analysis where
  mode : ScanMode
  /-- Whether the text calls the initializer, rightly or not. -/
  initialized : Bool
  diagnostics : List Diagnostic
deriving DecidableEq, Repr

namespace RuleSet

/-- Whether a call of the initializer supplies every required parameter. -/
def acceptsInitializer (rules : RuleSet) (call : Call) : Bool :=
  let required := rules.initialization.requiredParameters
  match call.literalKeys? with
  | some keys => required.all (keys.contains ·)
  | none => required.length ≤ call.arguments.length

/-- The finding that a text misses the initialization. -/
def missingInitialization (rules : RuleSet) : Diagnostic :=
  .of .error .missingInitialization .origin
    ("Missing SDK initialization: " ++ rules.qualifiedInitializer ++ "() not found")
    (some rules.initialization.sample)

/-- The finding that an initializer call lacks required parameters. -/
def invalidInitialization (rules : RuleSet) (call : Call) : Diagnostic :=
  .of .error .invalidInitialization call.position
    ("Invalid SDK initialization: " ++ rules.qualifiedInitializer ++ "() requires " ++
      ", ".intercalate rules.initialization.requiredParameters)
    (some rules.initialization.sample)

/-- The finding that a call needs an initializer call that the text does not have. -/
def initializationOrder (rules : RuleSet) (call : Call) : Diagnostic :=
  .of .info .initializationOrder call.position
    (call.callee ++ "() requires an initialized SDK but " ++ rules.qualifiedInitializer ++
      "() was not found in this file")
    (some rules.initialization.sample)

/-- The finding that a call supplies too few arguments. -/
def methodArity (call : Call) (method : Method) (name : String) : Diagnostic :=
  .of .error .methodArity call.position
    ("Method " ++ name ++ " requires " ++ toString method.arity ++ " parameters")
    (some method.sample)

/-- The finding that no scope around a call handles its errors. -/
def errorHandlingFinding (rules : RuleSet) (call : Call) : Diagnostic :=
  .of .warning .errorHandling call.position
    (call.callee ++ "() call should be wrapped in a try-catch block")
    (some rules.errorHandling.sample)

/-- Whether a call is one of a documented method that needs an initialized SDK. -/
def needsInitialization (rules : RuleSet) (call : Call) : Bool :=
  match call.facadeMethod? with
  | some name => (rules.method? name).any (·.needsInitialization)
  | none => false

def initializationFinding? (rules : RuleSet) (o : Outline) : Option Diagnostic :=
  match o.initializerCall? rules.initialization.method with
  | some call =>
    if rules.acceptsInitializer call then none else some (rules.invalidInitialization call)
  | none =>
    if o.facadeCalls.isEmpty then some rules.missingInitialization
    else (o.facadeCalls.find? rules.needsInitialization).map rules.initializationOrder

def arityFinding? (rules : RuleSet) (call : Call) : Option Diagnostic :=
  match call.facadeMethod? with
  | none => none
  | some name =>
    if name = rules.initialization.method then none
    else
      match rules.method? name with
      | some method =>
        if call.arguments.length < method.arity then some (methodArity call method name) else none
      | none => none

/-- The findings about one call through the facade. -/
def callFindings (rules : RuleSet) (o : Outline) (call : Call) : List Diagnostic :=
  (rules.arityFinding? call).toList ++
    (if o.isGuarded call.scope then [] else [rules.errorHandlingFinding call])

/-- The findings about an outline, the one about the initialization first. -/
def outlineFindings (rules : RuleSet) (o : Outline) : List Diagnostic :=
  (rules.initializationFinding? o).toList ++ o.facadeCalls.flatMap (rules.callFindings o)

def missingRequiredMethod (rules : RuleSet) (name : String) : Diagnostic :=
  .of .warning .missingRequiredMethod .origin ("Missing required Mapp SDK method: " ++ name)
    ((rules.method? name).map (·.sample))

/-- The findings about a text in which these methods were found. -/
def degradedFindings (rules : RuleSet) (found : List String) : List Diagnostic :=
  (rules.requiredMethods.filter (!found.contains ·)).map rules.missingRequiredMethod

/-- The findings about a scanned text, in file order. -/
def diagnostics (rules : RuleSet) (scan : Scan) : List Diagnostic :=
  let findings :=
    match scan with
    | .structured o => rules.outlineFindings o
    | .degraded found => rules.degradedFindings found
  findings.mergeSort fun a b => a.position.notAfter b.position

/-- Whether a scanned text calls the initializer, rightly or not. -/
def initializes (rules : RuleSet) : Scan → Bool
  | .structured o => (o.initializerCall? rules.initialization.method).isSome
  | .degraded found => found.contains rules.initialization.method

def analyze (rules : RuleSet) (scan : Scan) : Analysis where
  mode := scan.mode
  initialized := rules.initializes scan
  diagnostics := rules.diagnostics scan

def analyzeFile (rules : RuleSet) (path source : String) : Analysis :=
  rules.analyze (Scan.ofFile rules path source)

end RuleSet

end SdkAudit
