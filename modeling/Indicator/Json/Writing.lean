import Indicator.Json.Document
import Indicator.Text.Hex

/-!
# Writing documents

The JSON text of a document: no blanks, members in order, and all characters as they are but for
quotes, backslashes and controls. JSON has no form for a double that is not finite. `height` says
how deep a document is nested, and `texts` lists all texts in it.
-/

namespace Indicator.Json

/-- A character as it stands inside of quotes. -/
def escapedChar (c : Char) : List Char :=
  match c with
  | '"' => ['\\', '"']
  | '\\' => ['\\', '\\']
  | '\x08' => ['\\', 'b']
  | '\x0C' => ['\\', 'f']
  | '\n' => ['\\', 'n']
  | '\r' => ['\\', 'r']
  | '\t' => ['\\', 't']
  | c => if c.toNat < 0x20 then '\\' :: 'u' :: Text.hexDigits 4 c.toNat else [c]

def writeString (text : String) : String :=
  "\"" ++ String.ofList (text.toList.flatMap escapedChar) ++ "\""

namespace Document

mutual

/-- The JSON text of a document. -/
def write : Document → String
  | null => "null"
  | bool value => if value then "true" else "false"
  | int value => toString value
  | float value => Number.floatText value
  | str value => writeString value
  | list items => "[" ++ ",".intercalate (writeItems items) ++ "]"
  | object members => "\x7b" ++ ",".intercalate (writeMembers members) ++ "\x7d"

def writeItems : List Document → List String
  | [] => []
  | item :: rest => write item :: writeItems rest

def writeMembers : List (String × Document) → List String
  | [] => []
  | (key, value) :: rest => (writeString key ++ ":" ++ write value) :: writeMembers rest

end

mutual

/-- Whether all doubles of a document are finite. -/
def isFinite : Document → Bool
  | float value => !(value.isNaN || value.isInf)
  | list items => itemsAreFinite items
  | object members => membersAreFinite members
  | _ => true

def itemsAreFinite : List Document → Bool
  | [] => true
  | item :: rest => isFinite item && itemsAreFinite rest

def membersAreFinite : List (String × Document) → Bool
  | [] => true
  | (_, value) :: rest => isFinite value && membersAreFinite rest

end

mutual

/-- How many documents stand inside of each other at most. -/
def height : Document → Nat
  | list items => heightOfItems items + 1
  | object members => heightOfMembers members + 1
  | _ => 1

def heightOfItems : List Document → Nat
  | [] => 0
  | item :: rest => max (height item) (heightOfItems rest)

def heightOfMembers : List (String × Document) → Nat
  | [] => 0
  | (_, value) :: rest => max (height value) (heightOfMembers rest)

end

mutual

/-- The texts of a document, keys among them. -/
def texts : Document → List String
  | str value => [value]
  | list items => textsOfItems items
  | object members => textsOfMembers members
  | _ => []

def textsOfItems : List Document → List String
  | [] => []
  | item :: rest => texts item ++ textsOfItems rest

def textsOfMembers : List (String × Document) → List String
  | [] => []
  | (key, value) :: rest => key :: (texts value ++ textsOfMembers rest)

end

end Document

end Indicator.Json
