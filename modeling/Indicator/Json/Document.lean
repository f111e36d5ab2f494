import Indicator.Number.Decimal
import Indicator.Text.Quoted

/-!
# Documents

The values of JSON, with integers apart from doubles and members in order. A document has two
texts: `text` writes a string as it is, `inspect` quotes it, and both show it in quotes inside of
a list or an object.
-/

namespace Indicator.Json

inductive Document
  | null
  | bool (value : Bool)
  | int (value : Int)
  | float (value : Float)
  | str (value : String)
  | list (items : List Document)
  | object (members : List (String × Document))
deriving Inhabited

/-- The members of an object, in order; the reader leaves no key twice. -/
abbrev Members := List (String × Document)

namespace Members

/-- The value of a key. -/
def get? (members : Members) (key : String) : Option Document := members.lookup key

/-- Sets a key: one that is there keeps its place, a new one comes last. -/
def insert (members : Members) (key : String) (value : Document) : Members :=
  match members with
  | [] => [(key, value)]
  | member :: rest =>
    if member.1 = key then (key, value) :: rest else member :: insert rest key value

end Members

namespace Document

/-- The empty or zero value of each kind is false, all others are true. -/
def truthy : Document → Bool
  | null => false
  | bool value => value
  | int value => value ≠ 0
  | float value => value != 0.0
  | str value => value ≠ ""
  | list items => !items.isEmpty
  | object members => !members.isEmpty

def isNull : Document → Bool
  | null => true
  | _ => false

/-- The value of a member, `null` if there is none. -/
def member (members : Members) (key : String) : Document := (members.get? key).getD null

/-- A number equal to zero; `false` counts as one. -/
def isZero : Document → Bool
  | bool value => !value
  | int value => value = 0
  | float value => value == 0.0
  | _ => false

mutual

/-- The text of a document inside of another. -/
def inspect : Document → String
  | null => "None"
  | bool value => if value then "True" else "False"
  | int value => toString value
  | float value => Number.floatText value
  | str value => Text.quoted value
  | list items => "[" ++ ", ".intercalate (inspectItems items) ++ "]"
  | object members => "\x7b" ++ ", ".intercalate (inspectMembers members) ++ "\x7d"

def inspectItems : List Document → List String
  | [] => []
  | item :: rest => inspect item :: inspectItems rest

def inspectMembers : List (String × Document) → List String
  | [] => []
  | (key, value) :: rest => (Text.quoted key ++ ": " ++ inspect value) :: inspectMembers rest

end

/-- The text of a document. -/
def text : Document → String
  | str value => value
  | other => other.inspect

/-- The text of a document where `null` stands for no text. -/
def spliceText : Document → String
  | null => ""
  | other => other.text

mutual

/-- A document with `null` for every double that is not finite. -/
def finite : Document → Document
  | float value => if value.isNaN || value.isInf then null else float value
  | list items => list (finiteItems items)
  | object members => object (finiteMembers members)
  | other => other

def finiteItems : List Document → List Document
  | [] => []
  | item :: rest => finite item :: finiteItems rest

def finiteMembers : List (String × Document) → List (String × Document)
  | [] => []
  | (key, value) :: rest => (key, finite value) :: finiteMembers rest

end

/-- A text, or `null` for none. -/
def ofText? : Option String → Document
  | none => null
  | some value => str value

end Document

end Indicator.Json
