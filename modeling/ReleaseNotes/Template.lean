import ReleaseNotes.Commit
import ReleaseNotes.Text.Cut

namespace ReleaseNotes

/-! Markers bound the two fragments of a template; text tokens are what stands between them. -/

inductive Marker where
  | sections
  | commits
deriving DecidableEq

namespace Marker

def text : Marker → Text
  | .sections => "\x7b\x7b.SECTION\x7d\x7d".text
  | .commits => "\x7b\x7b.COMMITS\x7d\x7d".text

def vocabulary : Text.Vocabulary Marker :=
  [(.sections, text .sections), (.commits, text .commits)]

end Marker

namespace Template

structure Token where
  kind : Option Marker
  start : Nat
  stop : Nat
deriving DecidableEq

def Token.kindText (token : Token) : Text :=
  match token.kind with
  | none => "text".text
  | some marker => marker.text

def textToken (position : Nat) (stretch : Text) : List Token :=
  if stretch = [] then [] else [⟨none, position, position + stretch.length⟩]

def markTokens (position : Nat) : List (Marker × Text) → List Token
  | [] => []
  | (marker, stretch) :: marks =>
      let start := position + marker.text.length
      ⟨some marker, position, start⟩ :: textToken start stretch ++
        markTokens (start + stretch.length) marks

def tokens (text : Text) : List Token :=
  let cut := Text.cut Marker.vocabulary text
  textToken 0 cut.head ++ markTokens cut.head.length cut.marks

end Template

/-!
The five stretches of a template. The heading stands between the two section markers and is
written once a category, the line between the two commit markers and is written once a commit; the
gap between the two pairs is not written at all.
-/

structure Template where
  head : Text
  heading : Text
  gap : Text
  line : Text
  tail : Text
deriving DecidableEq

namespace Template

inductive Field where
  | date
  | version
deriving DecidableEq

def Field.text : Field → Text
  | .date => "\x7b\x7bdate\x7d\x7d".text
  | .version => "\x7b\x7bversionName\x7d\x7d".text

def titlePlace : Text := "$title".text

def commitPlace : Text := "$commit".text

inductive Error where
  | missing (fields : List Field)
  | count (marker : Marker) (found : Nat)
  | unclosed

def Error.message : Error → Text
  | .missing fields =>
      "Template is missing required token(s): ".text ++
        Text.joined ", ".text (fields.map Field.text)
  | .count marker found =>
      "Template must contain exactly two ".text ++ marker.text ++ " markers, found ".text ++
        Text.ofNat found
  | .unclosed =>
      "The ".text ++ Marker.sections.text ++ " fragment must be closed before the ".text ++
        Marker.commits.text ++ " fragment opens".text

def count (marker : Marker) (marks : List (Marker × Text)) : Nat :=
  (marks.filter fun mark => mark.1 = marker).length

def locate (text : Text) : Except Error Template :=
  let cut := Text.cut Marker.vocabulary text
  if count .sections cut.marks ≠ 2 then
    .error (.count .sections (count .sections cut.marks))
  else if count .commits cut.marks ≠ 2 then
    .error (.count .commits (count .commits cut.marks))
  else match cut.marks with
    | [(.sections, heading), (.sections, gap), (.commits, line), (.commits, tail)] =>
        .ok ⟨cut.head, heading, gap, line, tail⟩
    | _ => .error .unclosed

def missingFields (text : Text) : List Field :=
  [Field.date, Field.version].filter fun field => !Text.holds field.text text

def read (text : Text) : Except Error Template :=
  match missingFields text with
  | [] => locate text
  | fields => .error (.missing fields)

def span (template : Template) : Text :=
  Marker.sections.text ++ template.heading ++ Marker.sections.text ++ template.gap ++
    Marker.commits.text ++ template.line ++ Marker.commits.text

def text (template : Template) : Text :=
  template.head ++ template.span ++ template.tail

def spanStart (template : Template) : Nat :=
  template.head.length

def spanStop (template : Template) : Nat :=
  template.head.length + template.span.length

def warnings (template : Template) : List Text :=
  (if Text.holds titlePlace template.heading then []
    else ["Section fragment ".text ++ Text.quoted template.heading ++ " has no ".text ++
      titlePlace ++ " placeholder".text]) ++
  (if Text.holds commitPlace template.line then []
    else ["Line fragment ".text ++ Text.quoted template.line ++ " has no ".text ++
      commitPlace ++ " placeholder".text])

end Template

namespace Calendar

def isLeapYear (year : Nat) : Bool :=
  year % 4 == 0 && (year % 100 != 0 || year % 400 == 0)

def daysIn (year month : Nat) : Nat :=
  if month = 2 then if isLeapYear year then 29 else 28
  else if month = 4 ∨ month = 6 ∨ month = 9 ∨ month = 11 then 30
  else 31

end Calendar

structure Date where
  year : Nat
  month : Nat
  day : Nat
  year_bounds : 1 ≤ year ∧ year ≤ 9999
  month_bounds : 1 ≤ month ∧ month ≤ 12
  day_bounds : 1 ≤ day ∧ day ≤ Calendar.daysIn year month

namespace Date

inductive Error where
  | unreadable
  | tooLarge
  | tooSmall
  | year (given : Int)
  | month
  | day

def Error.message : Error → Text
  | .unreadable => "Python int too large to convert to C long".text
  | .tooLarge => "signed integer is greater than maximum".text
  | .tooSmall => "signed integer is less than minimum".text
  | .year given => "year ".text ++ Text.ofInt given ++ " is out of range".text
  | .month => "month must be in 1..12".text
  | .day => "day is out of range for month".text

/-- A number is read into a word of 64 bits and kept in one of 32. -/
def checkNumber (n : Int) : Except Error Unit :=
  if n < -9223372036854775808 ∨ 9223372036854775807 < n then .error .unreadable
  else if 2147483647 < n then .error .tooLarge
  else if n < -2147483648 then .error .tooSmall
  else .ok ()

def inCalendar (year month day : Int) : Except Error Date :=
  if hyear : 1 ≤ year.toNat ∧ year.toNat ≤ 9999 then
    if hmonth : 1 ≤ month.toNat ∧ month.toNat ≤ 12 then
      if hday : 1 ≤ day.toNat ∧ day.toNat ≤ Calendar.daysIn year.toNat month.toNat then
        .ok ⟨year.toNat, month.toNat, day.toNat, hyear, hmonth, hday⟩
      else .error .day
    else .error .month
  else .error (.year year)

/-- All three numbers are read before any of them is looked up in the calendar. -/
def of (year month day : Int) : Except Error Date :=
  match checkNumber year, checkNumber month, checkNumber day with
  | .error error, _, _ | .ok _, .error error, _ | .ok _, .ok _, .error error => .error error
  | .ok _, .ok _, .ok _ => inCalendar year month day

/-- Month, day and year without leading zeros. -/
def text (date : Date) : Text :=
  Text.ofNat date.month ++ "/".text ++ Text.ofNat date.day ++ "/".text ++ Text.ofNat date.year

end Date

structure UnnamedType where
  type : Text

def UnnamedType.message (unnamed : UnnamedType) : Text :=
  "No category is configured for commit type ".text ++ Text.quoted unnamed.type

namespace Template

def lineBlock (line : Text) (entries : List Text) : Text :=
  entries.flatMap fun entry => Text.replaceFirst commitPlace entry line ++ Text.newline

def sectionBlock (heading line name : Text) (entries : List Text) : Text :=
  Text.replaceFirst titlePlace name heading ++ Text.newline ++ lineBlock line entries ++
    Text.newline

def sectionBlocks (heading line : Text) (names : Categories) :
    List (Text × List Text) → Except UnnamedType Text
  | [] => .ok []
  | (type, entries) :: groups =>
      match names.get? type with
      | none => .error ⟨type⟩
      | some name =>
          (sectionBlocks heading line names groups).map
            (sectionBlock heading line name entries ++ ·)

def sections (heading line : Text) (groups : Groups) (names : Categories) :
    Except UnnamedType Text :=
  (sectionBlocks heading line names groups.entries).map Text.strip

def fillFields (version : Text) (date : Date) (text : Text) : Text :=
  Text.replaceAll Field.version.text version (Text.replaceAll Field.date.text date.text text)

def render (template : Template) (version : Text) (date : Date) (groups : Groups)
    (names : Categories) : Except UnnamedType Text :=
  let fill := fillFields version date
  (sections (fill template.heading) (fill template.line) groups names).map fun body =>
    fill template.head ++ body ++ fill template.tail

end Template

end ReleaseNotes
