import SdkAudit.Diagnostic

/-!
# Advisory findings

What an advisory exchange finds, in four lists.  A list without findings holds a fixed entry that
says so; such entries become no diagnostics.
-/

namespace SdkAudit

/-- A list of advisory findings. -/
inductive Section where
  | critical
  | missing
  | improvements
  | security
deriving DecidableEq, Repr

def Section.emptyEntry : Section → String
  | .critical => "No critical issues found"
  | .missing => "All required methods implemented"
  | .improvements => "No improvements needed"
  | .security => "No security concerns identified"

/-- Advisory findings. -/
structure Findings where
  critical : List String := []
  missing : List String := []
  improvements : List String := []
  security : List String := []
deriving DecidableEq, Repr

namespace Findings

def unreadableEntry : String := "Analysis parsing error"

/-- Whether an entry stands for the absence of findings. -/
def isPlaceholder (entry : String) : Bool :=
  [Section.critical.emptyEntry, Section.missing.emptyEntry, Section.improvements.emptyEntry,
    Section.security.emptyEntry, unreadableEntry].contains entry

def entries (f : Findings) : Section → List String
  | .critical => f.critical
  | .missing => f.missing
  | .improvements => f.improvements
  | .security => f.security

def add (f : Findings) (s : Section) (entry : String) : Findings :=
  match s with
  | .critical => { f with critical := f.critical ++ [entry] }
  | .missing => { f with missing := f.missing ++ [entry] }
  | .improvements => { f with improvements := f.improvements ++ [entry] }
  | .security => { f with security := f.security ++ [entry] }

/-- A list of a section, with the fixed entry if it is empty. -/
def filledEntries (f : Findings) (s : Section) : List String :=
  if (f.entries s).isEmpty then [s.emptyEntry] else f.entries s

def filled (f : Findings) : Findings where
  critical := f.filledEntries .critical
  missing := f.filledEntries .missing
  improvements := f.filledEntries .improvements
  security := f.filledEntries .security

def ofCritical (message : String) : Findings := filled { critical := [message] }

/-- The findings as diagnostics of the project: critical issues, then missing implementations. -/
def diagnostics (f : Findings) : List Diagnostic :=
  (f.critical.filter (!isPlaceholder ·)).map (fun entry =>
    .of .warning .advisoryCritical .origin entry none) ++
  (f.missing.filter (!isPlaceholder ·)).map (fun entry =>
    .of .info .advisoryMissing .origin entry none)

end Findings

end SdkAudit
