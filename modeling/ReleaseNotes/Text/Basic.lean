namespace ReleaseNotes

/-!
A letter is a character, or half of a surrogate pair that stands without its other half. A JSON
document can spell such halves; they are carried along until something has to be written in UTF-8.
-/

structure Surrogate where
  code : Nat
  bounds : 0xD800 ≤ code ∧ code ≤ 0xDFFF
deriving DecidableEq

inductive Letter where
  | char (c : Char)
  | surrogate (half : Surrogate)
deriving DecidableEq

instance : Coe Char Letter := ⟨.char⟩

namespace Letter

def code : Letter → Nat
  | .char c => c.toNat
  | .surrogate half => half.code

/-- Outside the range of the surrogates a code is that of a character. -/
def ofCode (n : Nat) : Letter :=
  if h : 0xD800 ≤ n ∧ n ≤ 0xDFFF then .surrogate ⟨n, h⟩ else .char (Char.ofNat n)

def isSurrogate : Letter → Bool
  | .char _ => false
  | .surrogate _ => true

/-- Whether a letter is a character with a property. -/
def has (property : Char → Bool) : Letter → Bool
  | .char c => property c
  | .surrogate _ => false

def isDigit (letter : Letter) : Bool :=
  letter.has Char.isDigit

/-- U+FFFD stands in for half a pair. -/
def shown : Letter → Char
  | .char c => c
  | .surrogate _ => '\uFFFD'

end Letter

/-! A text is the list of its letters; every offset and length counts letters. -/

abbrev Text := List Letter

def Text.ofChars (chars : List Char) : Text :=
  chars.map .char

end ReleaseNotes

namespace String

def text (s : String) : ReleaseNotes.Text := .ofChars s.toList

end String

namespace ReleaseNotes.Text

def string (text : Text) : String :=
  String.ofList (text.map Letter.shown)

def newline : Text := ['\n']

def ofNat (n : Nat) : Text := ofChars (Nat.toDigits 10 n)

def ofInt : Int → Text
  | .ofNat n => ofNat n
  | .negSucc n => Letter.char '-' :: ofNat (n + 1)

def joined (separator : Text) (pieces : List Text) : Text :=
  separator.intercalate pieces

def plural (count : Nat) : Text :=
  if count = 1 then [] else ['s']

def dropEndWhile (p : Letter → Bool) (text : Text) : Text :=
  (text.reverse.dropWhile p).reverse

/-- What is left of a text after one of its openings. -/
def after? : Text → Text → Option Text
  | [], text => some text
  | _ :: _, [] => none
  | w :: word, c :: text => if w = c then after? word text else none

def holds (word : Text) : Text → Bool
  | [] => word.isEmpty
  | c :: text => word.isPrefixOf (c :: text) || holds word text

/-- Alphabetical order by the codes of the letters. -/
def isAtMost : Text → Text → Bool
  | [], _ => true
  | _ :: _, [] => false
  | a :: left, b :: right => if a = b then isAtMost left right else decide (a.code < b.code)

def sorted (texts : List Text) : List Text :=
  texts.mergeSort isAtMost

def replaceFirst (word value : Text) : Text → Text
  | [] => []
  | c :: text =>
      match after? word (c :: text) with
      | some rest => value ++ rest
      | none => c :: replaceFirst word value text

theorem after?_eq_some_iff {word text rest : Text} :
    after? word text = some rest ↔ text = word ++ rest := by
  induction word generalizing text with
  | nil => simp [after?, eq_comm]
  | cons w word ih =>
      cases text with
      | nil => simp [after?]
      | cons c text =>
          by_cases h : w = c
          · subst h
            simp [after?, ih]
          · simp [after?, h, Ne.symm h]

@[simp] theorem after?_append (word rest : Text) :
    after? word (word ++ rest) = some rest :=
  after?_eq_some_iff.mpr rfl

/-! White space of Unicode, together with the four ASCII separators U+001C to U+001F. -/

def isBlank (letter : Letter) : Bool :=
  let n := letter.code
  (0x09 ≤ n && n ≤ 0x0D) || (0x1C ≤ n && n ≤ 0x20) || n == 0x85 || n == 0xA0 || n == 0x1680 ||
    (0x2000 ≤ n && n ≤ 0x200A) || n == 0x2028 || n == 0x2029 || n == 0x202F || n == 0x205F ||
    n == 0x3000

def strip (text : Text) : Text :=
  dropEndWhile isBlank (text.dropWhile isBlank)

def isAllBlank (text : Text) : Bool :=
  text.all isBlank

/-- Every line end becomes one line feed: a carriage return alone and one before a line feed. -/
def foldNewlines : Text → Text
  | [] => []
  | .char '\r' :: .char '\n' :: text => Letter.char '\n' :: foldNewlines text
  | .char '\r' :: text => Letter.char '\n' :: foldNewlines text
  | c :: text => c :: foldNewlines text

def isLineBreak (letter : Letter) : Bool :=
  letter == '\n' || letter == '\r' || letter == '\u2028' || letter == '\u2029'

def firstLine (text : Text) : Text :=
  text.takeWhile fun c => !isLineBreak c

def dropNewlines (text : Text) : Text :=
  text.dropWhile (· == '\n')

def stripNewlines (text : Text) : Text :=
  dropEndWhile (· == '\n') (dropNewlines text)

end ReleaseNotes.Text
