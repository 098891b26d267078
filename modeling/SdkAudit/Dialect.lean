import SdkAudit.Technology

/-!
# Dialects

The language of a source file, which is finer than its technology: React Native files may be in any
of three languages.  It is told from the extension, or from the technology where that says nothing.
-/

namespace SdkAudit

/-- The language of a source file. -/
inductive Dialect where
  | javaScript
  | typeScript
  | tsx
  | java
  | swift
  | dart
  | kotlin
  | objectiveC
deriving DecidableEq, Repr

namespace Dialect

def all : List Dialect :=
  [.javaScript, .typeScript, .tsx, .java, .swift, .dart, .kotlin, .objectiveC]

def name : Dialect → String
  | .javaScript => "JavaScript"
  | .typeScript => "TypeScript"
  | .tsx => "Tsx"
  | .java => "Java"
  | .swift => "Swift"
  | .dart => "Dart"
  | .kotlin => "Kotlin"
  | .objectiveC => "ObjectiveC"

def ofName? (text : String) : Option Dialect := all.find? (·.name == text)

/-- The name of the reader that makes an outline of the dialect, if there is one. -/
def reader? : Dialect → Option String
  | .javaScript => some "javascript"
  | .typeScript => some "typescript"
  | .tsx => some "tsx"
  | .java => some "java"
  | .swift => some "swift"
  | .dart => some "dart"
  | .kotlin => some "kotlin"
  | .objectiveC => none

/-- The dialect of files of a technology whose extension says nothing. -/
def ofTechnology : Technology → Dialect
  | .flutter => .dart
  | .reactNative => .tsx
  | .androidKotlin => .kotlin
  | .androidJava => .java
  | .iosObjc => .objectiveC
  | .iosSwift => .swift

/-- The dialect that files with this extension, in any case, are in. -/
def ofExtension? (extension : String) : Option Dialect :=
  match Text.lowerString extension with
  | "js" | "jsx" | "mjs" => some .javaScript
  | "ts" => some .typeScript
  | "tsx" => some .tsx
  | "java" => some .java
  | "swift" => some .swift
  | "dart" => some .dart
  | "kt" | "kts" => some .kotlin
  | "m" | "h" => some .objectiveC
  | _ => none

def ofFileName (path : String) (technology : Technology) : Dialect :=
  ((FileName.extension? path).bind ofExtension?).getD (ofTechnology technology)

end Dialect

end SdkAudit
