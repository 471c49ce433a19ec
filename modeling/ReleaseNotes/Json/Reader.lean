import ReleaseNotes.Json.Basic

namespace ReleaseNotes.Json

/-!
Reading one document. A failure keeps the offset at which it was noticed; its line and column
follow from the line feeds before that offset.
-/

inductive Reason where
  | byteOrderMark
  | value
  | propertyName
  | colon
  | comma
  | extraData
  | unterminatedText
  | controlCharacter
  | escape
  | unicodeEscape
deriving DecidableEq

def Reason.text : Reason → Text
  | .byteOrderMark => "Unexpected UTF-8 BOM (decode using utf-8-sig)".text
  | .value => "Expecting value".text
  | .propertyName => "Expecting property name enclosed in double quotes".text
  | .colon => "Expecting ':' delimiter".text
  | .comma => "Expecting ',' delimiter".text
  | .extraData => "Extra data".text
  | .unterminatedText => "Unterminated string starting at".text
  | .controlCharacter => "Invalid control character at".text
  | .escape => "Invalid \\escape".text
  | .unicodeEscape => "Invalid \\uXXXX escape".text

inductive Container where
  | list
  | object
deriving DecidableEq

def Container.name : Container → Text
  | .list => "array".text
  | .object => "object".text

inductive Failure where
  | malformed (reason : Reason) (position : Nat)
  | tooManyDigits (count : Nat)
  | tooDeep (container : Container)
deriving DecidableEq

def digitLimit : Nat := 4300

/-- How many lists and objects may stand inside one another. -/
def depthLimit : Nat := 988

def Failure.message (document : Text) : Failure → Text
  | .malformed reason position =>
      let before := document.take position
      let column := (before.reverse.takeWhile (· != Letter.char '\n')).length + 1
      reason.text ++ ": line ".text ++ Text.ofNat (before.count (.char '\n') + 1) ++
        " column ".text ++ Text.ofNat column ++ " (char ".text ++ Text.ofNat position ++ ")".text
  | .tooManyDigits count =>
      "Exceeds the limit (".text ++ Text.ofNat digitLimit ++
        " digits) for integer string conversion: value has ".text ++ Text.ofNat count ++
        " digits; use sys.set_int_max_str_digits() to increase the limit".text
  | .tooDeep container =>
      "maximum recursion depth exceeded while decoding a JSON ".text ++ container.name ++
        " from a unicode string".text

structure Cursor where
  position : Nat
  rest : Text

abbrev Reading (α : Type) := Except Failure (α × Cursor)

namespace Cursor

def fail (cursor : Cursor) (reason : Reason) : Except Failure α :=
  .error (.malformed reason cursor.position)

def isGap (c : Letter) : Bool :=
  c == ' ' || c == '\t' || c == '\n' || c == '\r'

def advance (cursor : Cursor) (count : Nat) : Cursor :=
  ⟨cursor.position + count, cursor.rest.drop count⟩

def skipGaps (cursor : Cursor) : Cursor :=
  cursor.advance (cursor.rest.takeWhile isGap).length

end Cursor

def digitValue (c : Letter) : Nat := c.code - '0'.toNat

def hexValue? (c : Letter) : Option Nat :=
  if c.isDigit then some (digitValue c)
  else if 'a'.toNat ≤ c.code ∧ c.code ≤ 'f'.toNat then some (c.code - 'a'.toNat + 10)
  else if 'A'.toNat ≤ c.code ∧ c.code ≤ 'F'.toNat then some (c.code - 'A'.toNat + 10)
  else none

def hexNumber? (digits : Text) : Option Nat :=
  digits.foldl (fun n c => do return (← n) * 16 + (← hexValue? c)) (some 0)

def simpleEscape? : Letter → Option Letter
  | .char '\x22' => some '\x22'
  | .char '\\' => some '\\'
  | .char '/' => some '/'
  | .char 'b' => some '\x08'
  | .char 'f' => some '\x0C'
  | .char 'n' => some '\n'
  | .char 'r' => some '\r'
  | .char 't' => some '\t'
  | _ => none

def isHighSurrogate (n : Nat) : Bool := 0xD800 ≤ n && n ≤ 0xDBFF

def isLowSurrogate (n : Nat) : Bool := 0xDC00 ≤ n && n ≤ 0xDFFF

def joinSurrogates (high low : Nat) : Letter :=
  .ofCode (0x10000 + (high - 0xD800) * 0x400 + (low - 0xDC00))

/-- The escape after a backslash at `position`, with the count of letters it takes. -/
def readEscape (opening position : Nat) : Text → Except Failure (Letter × Nat)
  | [] => .error (.malformed .unterminatedText opening)
  | .char 'u' :: text =>
      let invalid (at_ : Nat) : Except Failure (Letter × Nat) :=
        .error (.malformed .unicodeEscape at_)
      match text.drop 4, hexNumber? (text.take 4) with
      | [], _ | _, none => invalid (position + 1)
      | following, some unit =>
          match isHighSurrogate unit && !(following.drop 6).isEmpty, following with
          | true, .char '\\' :: .char 'u' :: second =>
              match hexNumber? (second.take 4) with
              | none => invalid (position + 7)
              | some low =>
                  if isLowSurrogate low then .ok (joinSurrogates unit low, 11)
                  else .ok (.ofCode unit, 5)
          | _, _ => .ok (.ofCode unit, 5)
  | c :: _ =>
      match simpleEscape? c with
      | some letter => .ok (letter, 1)
      | none => .error (.malformed .escape position)

/-- The first number counts the letters that still belong to the escape just read. -/
def readText (opening : Nat) : Nat → Nat → Text → Reading Text
  | _, _, [] => .error (.malformed .unterminatedText opening)
  | skip + 1, position, _ :: text => readText opening skip (position + 1) text
  | 0, position, c :: text =>
      if c = '\x22' then .ok ([], ⟨position + 1, text⟩)
      else if c.code < 0x20 then .error (.malformed .controlCharacter position)
      else if c = '\\' then
        match readEscape opening position text with
        | .error failure => .error failure
        | .ok (letter, count) =>
            (readText opening count (position + 1) text).map fun (letters, cursor) =>
              (letter :: letters, cursor)
      else
        (readText opening 0 (position + 1) text).map fun (letters, cursor) =>
          (c :: letters, cursor)

def digitsValue (digits : Text) : Nat :=
  digits.foldl (fun n c => n * 10 + digitValue c) 0

def integerDigits : Text → Text
  | .char '0' :: _ => ['0']
  | text => text.takeWhile Letter.isDigit

/-- Digits after a point; a point without digits is not part of the number. -/
def fractionDigits : Text → Text
  | .char '.' :: text => text.takeWhile Letter.isDigit
  | _ => []

structure Exponent where
  length : Nat
  value : Int

def exponentOf (signLength : Nat) (negative : Bool) (text : Text) : Option Exponent :=
  match text.takeWhile Letter.isDigit with
  | [] => none
  | digits =>
      let value : Int := digitsValue digits
      some ⟨1 + signLength + digits.length, if negative then -value else value⟩

def readExponent? : Text → Option Exponent
  | c :: text =>
      if c = 'e' ∨ c = 'E' then
        match text with
        | .char '-' :: digits => exponentOf 1 true digits
        | .char '+' :: digits => exponentOf 1 false digits
        | digits => exponentOf 0 false digits
      else none
  | [] => none

def readMagnitude (start : Cursor) (negative : Bool) (cursor : Cursor) : Reading Json :=
  match integerDigits cursor.rest with
  | [] => start.fail .value
  | whole =>
      let afterWhole := cursor.advance whole.length
      let fraction := fractionDigits afterWhole.rest
      let afterFraction :=
        if fraction.isEmpty then afterWhole else afterWhole.advance (fraction.length + 1)
      let exponent := readExponent? afterFraction.rest
      if fraction.isEmpty && exponent.isNone then
        if digitLimit < whole.length then .error (.tooManyDigits whole.length)
        else
          let value : Int := digitsValue whole
          .ok (.int (if negative then -value else value), afterWhole)
      else
        let shift : Int := (exponent.map Exponent.value).getD 0 - fraction.length
        .ok (.float (.ofDecimal negative (digitsValue (whole ++ fraction)) shift),
          afterFraction.advance ((exponent.map Exponent.length).getD 0))

def readNumber (cursor : Cursor) : Reading Json :=
  match cursor.rest with
  | .char '-' :: _ => readMagnitude cursor true (cursor.advance 1)
  | _ => readMagnitude cursor false cursor

def constants : List (Text × Json) :=
  [ ("null".text, .null),
    ("true".text, .bool true),
    ("false".text, .bool false),
    ("NaN".text, .float .nan),
    ("Infinity".text, .float (.infinite false)),
    ("-Infinity".text, .float (.infinite true)) ]

def readScalar (cursor : Cursor) : Reading Json :=
  match constants.find? fun (name, _) => name.isPrefixOf cursor.rest with
  | some (name, value) => .ok (value, cursor.advance name.length)
  | none => readNumber cursor

mutual

/-- The first number bounds the count of steps; twice the length of the document is never used up.
The second says how many containers may still be opened inside one another. -/
def readValue : Nat → Nat → Cursor → Reading Json
  | 0, _, cursor => cursor.fail .value
  | steps + 1, room, cursor =>
      match cursor.rest with
      | .char '\x22' :: text =>
          (readText cursor.position 0 (cursor.position + 1) text).map fun (letters, next) =>
            (.string letters, next)
      | .char '\x7b' :: _ =>
          let inner := (cursor.advance 1).skipGaps
          match room, inner.rest with
          | 0, _ => .error (.tooDeep .object)
          | _ + 1, .char '\x7d' :: _ => .ok (.object [], inner.advance 1)
          | room + 1, _ => readFields steps room [] inner
      | .char '[' :: _ =>
          let inner := (cursor.advance 1).skipGaps
          match room, inner.rest with
          | 0, _ => .error (.tooDeep .list)
          | _ + 1, .char ']' :: _ => .ok (.list [], inner.advance 1)
          | room + 1, _ => readItems steps room [] inner
      | _ => readScalar cursor

def readItems : Nat → Nat → List Json → Cursor → Reading Json
  | 0, _, _, cursor => cursor.fail .value
  | steps + 1, room, items, cursor =>
      match readValue steps room cursor with
      | .error failure => .error failure
      | .ok (item, next) =>
          let next := next.skipGaps
          match next.rest with
          | .char ']' :: _ => .ok (.list (item :: items).reverse, next.advance 1)
          | .char ',' :: _ => readItems steps room (item :: items) (next.advance 1).skipGaps
          | _ => next.fail .comma

def readFields : Nat → Nat → List (Text × Json) → Cursor → Reading Json
  | 0, _, _, cursor => cursor.fail .value
  | steps + 1, room, fields, cursor =>
      match cursor.rest with
      | .char '\x22' :: text =>
          match readText cursor.position 0 (cursor.position + 1) text with
          | .error failure => .error failure
          | .ok (key, next) =>
              let next := next.skipGaps
              match next.rest with
              | .char ':' :: _ =>
                  match readValue steps room (next.advance 1).skipGaps with
                  | .error failure => .error failure
                  | .ok (value, next) =>
                      let next := next.skipGaps
                      let fields := (key, value) :: fields
                      match next.rest with
                      | .char '\x7d' :: _ => .ok (ofFields fields.reverse, next.advance 1)
                      | .char ',' :: _ => readFields steps room fields (next.advance 1).skipGaps
                      | _ => next.fail .comma
              | _ => next.fail .colon
      | _ => cursor.fail .propertyName

end

def read (document : Text) : Except Failure Json :=
  let start : Cursor := ⟨0, document⟩
  match document with
  | .char '\uFEFF' :: _ => start.fail .byteOrderMark
  | _ =>
      match readValue (2 * document.length + 2) depthLimit start.skipGaps with
      | .error failure => .error failure
      | .ok (value, next) =>
          match next.skipGaps.rest with
          | [] => .ok value
          | _ => next.skipGaps.fail .extraData

end ReleaseNotes.Json
