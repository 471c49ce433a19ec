import ReleaseNotes.Table
import ReleaseNotes.Text.Shown
import ReleaseNotes.Text.Uppercase

namespace ReleaseNotes

/-! The display name of each commit type, in the order in which the mapping declares them. -/

abbrev Categories := Table Text

namespace Categories

inductive Error where
  | blank
  | malformed (position : Nat) (entry : Text)
  | repeated (type : Text) (first second : Text)

def Error.message : Error → Text
  | .blank => "Commit type mapping is empty".text
  | .malformed position entry =>
      "Invalid commit type mapping entry #".text ++ Text.ofNat position ++ ": ".text ++
        Text.quoted entry ++ " (expected 'type:Display Name')".text
  | .repeated type first second =>
      "Commit type ".text ++ Text.quoted type ++ " is mapped more than once (".text ++
        Text.quoted first ++ " and ".text ++ Text.quoted second ++ ")".text

def readEntry? (entry : Text) : Option (Text × Text) :=
  match entry.splitOn (.char ':') with
  | [type, name] =>
      if Text.strip type = [] ∨ Text.strip name = [] then none
      else some (Text.strip type, Text.strip name)
  | _ => none

def declare (declared : Categories) (position : Nat) : List Text → Except Error Categories
  | [] => .ok declared
  | entry :: entries =>
      match readEntry? entry with
      | none => .error (.malformed position (Text.strip entry))
      | some (type, name) =>
          match declared.get? type with
          | some first => .error (.repeated type first name)
          | none => declare (declared.put type name) (position + 1) entries

def parse (mapping : Text) : Except Error Categories :=
  if Text.isAllBlank mapping then .error .blank
  else declare Table.empty 1 (mapping.splitOn (.char ','))

end Categories

structure Commit where
  type : Text
  scope : Option Text
  description : Text
deriving DecidableEq

namespace Commit

/-! Words of the commit grammar are ASCII letters, digits and underscores. -/

def isWordLetter (letter : Letter) : Bool :=
  letter.has fun c => c.isAlphanum || c == '_'

def isGap (letter : Letter) : Bool :=
  letter == ' ' || (0x09 ≤ letter.code && letter.code ≤ 0x0D)

def word (text : Text) : Text := text.takeWhile isWordLetter

def afterWord (text : Text) : Text := text.dropWhile isWordLetter

/-- A scope is a word in parentheses; what does not close as one is no scope. -/
def readScope : Text → Option (Option Text × Text)
  | .char '(' :: text =>
      match word text, afterWord text with
      | [], _ => none
      | name, .char ')' :: rest => some (some name, rest)
      | _, _ => none
  | text => some (none, text)

def readDescription : Text → Option Text
  | .char ':' :: gap :: c :: text => if isGap gap then some (c :: text) else none
  | _ => none

def readLine (line : Text) : Option Commit :=
  match word line with
  | [] => none
  | type =>
      match readScope (afterWord line) with
      | none => none
      | some (scope, rest) =>
          (readDescription rest).map fun description =>
            ⟨type, scope, Text.capitalizeFirst description⟩

def read (known : Text → Bool) (message : Text) : Option Commit :=
  (readLine (Text.firstLine message)).filter fun commit => known commit.type

def line (commit : Commit) : Text :=
  match commit.scope with
  | none | some [] => commit.description
  | some scope => "**".text ++ scope ++ ":** ".text ++ commit.description

end Commit

/-! The lines of a release under their commit types. -/

abbrev Groups := Table (List Text)

inductive SectionOrder where
  | firstSeen
  | declaration
deriving DecidableEq

namespace SectionOrder

def name : SectionOrder → Text
  | .firstSeen => "first-seen".text
  | .declaration => "declaration".text

def all : List SectionOrder := [.firstSeen, .declaration]

structure Unknown where
  given : Option Text

def Unknown.message (unknown : Unknown) : Text :=
  "Unknown section order ".text ++
    (match unknown.given with
      | none => "None".text
      | some given => Text.quoted given) ++
    "; expected one of (".text ++
    Text.joined ", ".text (all.map fun order => Text.quoted order.name) ++ ")".text

def named (given : Option Text) : Except Unknown SectionOrder :=
  match all.find? fun order => given == some order.name with
  | some order => .ok order
  | none => .error ⟨given⟩

end SectionOrder

namespace Groups

def add (groups : Groups) (commit : Commit) : Groups :=
  groups.put commit.type ((groups.get? commit.type).getD [] ++ [commit.line])

def ofCommits (categories : Categories) (commits : List Commit) : Groups :=
  commits.foldl
    (fun groups commit => if categories.contains commit.type then groups.add commit else groups)
    Table.empty

def ordered (order : SectionOrder) (categories : Categories) (commits : List Commit) : Groups :=
  match order with
  | .firstSeen => ofCommits categories commits
  | .declaration => (ofCommits categories commits).arranged categories

end Groups

end ReleaseNotes
