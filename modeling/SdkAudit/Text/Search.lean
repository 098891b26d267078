/-!
# Finding and cutting texts

Texts are searched and cut as lists of characters: whether a text holds another, its pieces between
separators, and the two sides of its last separator.
-/

namespace SdkAudit.Text

/-- Whether the text holds `needle` as a contiguous part. -/
def holds (needle : List Char) : List Char → Bool
  | [] => needle.isPrefixOf []
  | c :: rest => needle.isPrefixOf (c :: rest) || holds needle rest

theorem holds_iff {needle text : List Char} : holds needle text = true ↔ needle <:+: text := by
  induction text with
  | nil => simp [holds, List.isPrefixOf_iff_prefix]
  | cons c rest ih => simp [holds, ih, List.infix_cons_iff, List.isPrefixOf_iff_prefix]

def holdsString (needle text : String) : Bool := holds needle.toList text.toList

/-- The pieces of a list between the elements that satisfy `isMark`; there is one more piece than
there are such elements. -/
def cutAt {α : Type} (isMark : α → Bool) : List α → List (List α)
  | [] => [[]]
  | x :: rest =>
    match cutAt isMark rest with
    | [] => [[x]]
    | piece :: pieces => if isMark x then [] :: piece :: pieces else (x :: piece) :: pieces

/-- The parts of a text before and after its last `mark`, if it has one. -/
def splitLast? (mark : Char) : List Char → Option (List Char × List Char)
  | [] => none
  | c :: rest =>
    match splitLast? mark rest with
    | some (front, back) => some (c :: front, back)
    | none => if c = mark then some ([], rest) else none

/-- The lines of a text: each ends at a line feed, which is dropped together with a carriage return
right before it, and a text that ends in a line feed has no further line. -/
def lines (text : List Char) : List (List Char) :=
  match (cutAt (· = '\n') text).reverse with
  | [] => []
  | last :: front =>
    (front.map dropReturn).reverse ++ (if last = [] then [] else [last])
where
  /-- A line without the carriage return at its end. -/
  dropReturn (line : List Char) : List Char :=
    if line.getLast? = some '\r' then line.dropLast else line

end SdkAudit.Text
