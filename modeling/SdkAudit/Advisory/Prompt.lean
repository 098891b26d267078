import SdkAudit.Rules.Rendering

/-!
# Prompts

What the advisor is told: the documentation of the technology, and the code to be judged by it
together with the form in which the answer is wanted.
-/

namespace SdkAudit

/-- What is put to the advisor. -/
structure Prompt where
  /-- The documentation, and how to use it. -/
  system : String
  /-- The code, and what to answer. -/
  user : String
deriving DecidableEq, Repr

namespace RuleSet

/-- The documentation of a technology as the advisor reads it. -/
def documentation (r : RuleSet) : String :=
  "Technology: " ++ r.name ++ "\n" ++
  "Documentation for " ++ r.name ++ ":\n\n" ++
  "1. Initialization Requirements:\n" ++ r.initialization.toJson.text ++ "\n\n" ++
  "2. Available Methods:\n" ++ (Json.array (r.methods.map (·.toJson))).text ++ "\n\n" ++
  "3. Best Practices:\n" ++ "\n".intercalate r.bestPractices ++ "\n\n" ++
  "4. Error Handling:\n" ++ r.errorHandling.toJson.text ++ "\n"

/-- How the advisor is to use the documentation. -/
def systemPrompt (r : RuleSet) : String :=
  "You are a Mapp SDK expert analyzing " ++ r.name ++ " projects.\n" ++
  "IMPORTANT: Only flag issues that explicitly violate the provided documentation.\n" ++
  "Do not suggest changes unless they directly contradict the documentation.\n" ++
  "For each potential issue:\n" ++
  "1. Check the exact method signature in the documentation\n" ++
  "2. Verify parameter types and requirements\n" ++
  "3. Only report issues if implementation differs from documentation\n\n" ++
  "Documentation reference:\n" ++ r.documentation

/-- The line by which the advisor reports on a required method. -/
def statusLine (r : RuleSet) (method : String) : String :=
  "- [FOUND/MISSING] " ++ r.facade ++ "." ++ method ++ "()\n"

def answerForm : String :=
  "4. Error Handling:\n" ++
  "- Check for try-catch blocks around SDK calls\n" ++
  "- Verify proper error handling patterns\n\n" ++
  "FORMAT YOUR RESPONSE AS FOLLOWS:\n" ++
  "Critical Issues:\n" ++
  "- <list each critical issue>\n\n" ++
  "Missing Implementations:\n" ++
  "- <list missing required methods>\n\n" ++
  "Improvements Needed:\n" ++
  "- <list suggested improvements>\n\n" ++
  "Security Concerns:\n" ++
  "- <list security issues>\n\n" ++
  "Use exact method names and parameters from the documentation.\n" ++
  "Flag ANY deviation from the documentation as an issue.\n"

/-- The code to be judged, and what to answer. -/
def userPrompt (r : RuleSet) (code : String) : String :=
  let initializer := r.initialization.method
  "Analyze this " ++ r.name ++ " code for Mapp SDK implementation compliance.\n" ++
  "Base your analysis ONLY on the provided documentation.\n\n" ++
  "CODE TO ANALYZE:\n" ++ code ++ "\n\nREQUIRED CHECKS:\n\n" ++
  "1. SDK Initialization (CRITICAL):\n" ++
  "- Search for '" ++ r.qualifiedInitializer ++ "(' or '." ++ initializer ++ "(' calls\n" ++
  "- Verify exact parameter count and order: (" ++
    ", ".intercalate (r.initialization.parameters.map (·.name)) ++ ")\n" ++
  "- Flag if " ++ initializer ++ "() is not found or parameters are incorrect\n\n" ++
  "2. Method Implementation Status:\nFor each method, indicate:\n" ++
  String.join (r.requiredMethods.map r.statusLine) ++
  "\n3. Method Order & Dependencies:\n" ++
  "- Verify " ++ initializer ++ "() is called before other SDK methods\n" ++
  "- Look for proper async/await usage\n\n" ++
  answerForm

def prompt (r : RuleSet) (code : String) : Prompt := ⟨r.systemPrompt, r.userPrompt code⟩

end RuleSet

end SdkAudit
