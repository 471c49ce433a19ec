import ReleaseNotes.Number
import ReleaseNotes.Table
import ReleaseNotes.Text.Shown

namespace ReleaseNotes

/-! Objects keep their fields in order and hold each key once. -/

inductive Json where
  | null
  | bool (value : Bool)
  | int (value : Int)
  | float (value : Double)
  | string (value : Text)
  | list (items : List Json)
  | object (fields : List (Text × Json))
deriving Inhabited

namespace Json

def kindName : Json → Text
  | .null => "NoneType".text
  | .bool _ => "bool".text
  | .int _ => "int".text
  | .float _ => "float".text
  | .string _ => "str".text
  | .list _ => "list".text
  | .object _ => "dict".text

def field? (key : Text) : Json → Option Json
  | .object fields => fields.lookup key
  | _ => none

def text? : Json → Option Text
  | .string value => some value
  | _ => none

def list? : Json → Option (List Json)
  | .list items => some items
  | _ => none

def int? : Json → Option Int
  | .int value => some value
  | _ => none

def isNull : Json → Bool
  | .null => true
  | _ => false

/-- Null, false, zero and what is empty count as nothing. -/
def isNothing : Json → Bool
  | .null => true
  | .bool value => !value
  | .int value => value == 0
  | .float value => value.isZero
  | .string value => value.isEmpty
  | .list items => items.isEmpty
  | .object fields => fields.isEmpty

/-- A repeated key keeps its first place and takes the last value. -/
def ofFields (fields : List (Text × Json)) : Json :=
  .object (Table.ofPairs fields).entries

mutual

/-- How a value reads inside a message. -/
def inspect : Json → Text
  | .null => "None".text
  | .bool true => "True".text
  | .bool false => "False".text
  | .int value => Text.ofInt value
  | .float value => value.text
  | .string value => Text.quoted value
  | .list items => "[".text ++ inspectItems items ++ "]".text
  | .object fields => "\x7b".text ++ inspectFields fields ++ "\x7d".text

def inspectItems : List Json → Text
  | [] => []
  | [item] => inspect item
  | item :: items => inspect item ++ ", ".text ++ inspectItems items

def inspectFields : List (Text × Json) → Text
  | [] => []
  | [(key, value)] => Text.quoted key ++ ": ".text ++ inspect value
  | (key, value) :: fields =>
      Text.quoted key ++ ": ".text ++ inspect value ++ ", ".text ++ inspectFields fields

end

/-- A text stands for itself, all else is written as it is inspected. -/
def plain : Json → Text
  | .string value => value
  | value => inspect value

/-! One document on one line. -/

/-- Half a surrogate pair can only be written by its code. -/
def writeLetter (c : Letter) : Text :=
  if c = '\x22' ∨ c = '\\' then ['\\', c]
  else if c = '\n' then ['\\', 'n']
  else if c.code < 0x20 ∨ c.isSurrogate then "\\u".text ++ Text.hexDigits 4 c.code
  else [c]

def writeString (text : Text) : Text :=
  "\x22".text ++ text.flatMap writeLetter ++ "\x22".text

def writeFloat : Double → Text
  | .nan => "NaN".text
  | .infinite negative => Double.signText negative ++ "Infinity".text
  | value => value.text

mutual

def write : Json → Text
  | .null => "null".text
  | .bool true => "true".text
  | .bool false => "false".text
  | .int value => Text.ofInt value
  | .float value => writeFloat value
  | .string value => writeString value
  | .list items => "[".text ++ writeItems items ++ "]".text
  | .object fields => "\x7b".text ++ writeFields fields ++ "\x7d".text

def writeItems : List Json → Text
  | [] => []
  | [item] => write item
  | item :: items => write item ++ ",".text ++ writeItems items

def writeFields : List (Text × Json) → Text
  | [] => []
  | [(key, value)] => writeString key ++ ":".text ++ write value
  | (key, value) :: fields =>
      writeString key ++ ":".text ++ write value ++ ",".text ++ writeFields fields

end

end Json

end ReleaseNotes
