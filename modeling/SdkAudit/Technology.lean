import SdkAudit.FileName
import SdkAudit.Text.Character

/-!
# Technologies

A technology is a platform with documentation of its own for the SDK.  It has a fixed identifier,
which is read in any case, and source files are assigned to technologies by their extension.
-/

namespace SdkAudit

/-- A platform whose use of the SDK is documented. -/
inductive Technology where
  | flutter
  | reactNative
  | androidKotlin
  | androidJava
  | iosObjc
  | iosSwift
deriving DecidableEq, Repr

/-- A text that names no technology. -/
structure UnknownTechnology where
  /-- The text as it was given. -/
  text : String
deriving DecidableEq, Repr

def UnknownTechnology.message (e : UnknownTechnology) : String :=
  "unknown technology: " ++ e.text

namespace Technology

/-- Every technology, in registry order. -/
def all : List Technology :=
  [.flutter, .reactNative, .androidKotlin, .androidJava, .iosObjc, .iosSwift]

def id : Technology → String
  | .flutter => "flutter"
  | .reactNative => "react-native"
  | .androidKotlin => "android-kotlin"
  | .androidJava => "android-java"
  | .iosObjc => "ios-objc"
  | .iosSwift => "ios-swift"

/-- The technology with exactly this identifier. -/
def ofId? (text : String) : Option Technology := all.find? (·.id == text)

/-- Reads an identifier in any case. -/
def read (text : String) : Except UnknownTechnology Technology :=
  match ofId? (Text.lowerString text) with
  | some technology => .ok technology
  | none => .error ⟨text⟩

/-- The technology that files with this extension (without its dot, in any case) belong to. -/
def ofExtension? (extension : String) : Option Technology :=
  match Text.lowerString extension with
  | "dart" => some .flutter
  | "js" | "jsx" | "ts" | "tsx" => some .reactNative
  | "kt" => some .androidKotlin
  | "java" => some .androidJava
  | "m" | "h" => some .iosObjc
  | "swift" => some .iosSwift
  | _ => none

/-- The technology of files whose extension says nothing, unless another one is asked for. -/
def usual : Technology := .flutter

/-- The technology of a file by its extension, with `otherwise` for extensions that say nothing. -/
def ofFileName (path : String) (otherwise : Technology) : Technology :=
  ((FileName.extension? path).bind ofExtension?).getD otherwise

end Technology

end SdkAudit
