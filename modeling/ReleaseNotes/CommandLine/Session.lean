import ReleaseNotes.CommandLine.Run

namespace ReleaseNotes.CommandLine.Session

/-!
The answers of git and of the server can be laid down beforehand as one JSON object, together with
the date and the time that collecting takes. Bytes are a text, which stands for its UTF-8 form, or
an object that spells them in hexadecimal.
-/

def hexBytes : Text → Bytes
  | high :: low :: digits =>
      UInt8.ofNat ((Json.hexValue? high).getD 0 * 16 + (Json.hexValue? low).getD 0) ::
        hexBytes digits
  | _ => []

def bytes : Json → Bytes
  | .string text => (Utf8.encode text).toOption.getD []
  | value => hexBytes (((value.field? "hex".text).bind Json.text?).getD [])

def items (key : String) (session : Json) : List Json :=
  ((session.field? key.text).bind Json.list?).getD []

def bytesField (key : String) (value : Json) : Bytes :=
  ((value.field? key.text).map bytes).getD []

def numberField (key : String) (value : Json) : Option Int :=
  (value.field? key.text).bind Json.int?

def gitAnswer (value : Json) : Git.Answer :=
  match value.field? "missing".text with
  | some (.bool true) => .missing
  | _ => .ran ((numberField "rc" value).getD 0) (bytesField "out" value) (bytesField "err" value)

def response (value : Json) : GitHub.Response :=
  match value.field? "raise".text with
  | some _ => .broken (((value.field? "message".text).bind Json.text?).getD [])
  | none => .answered ((numberField "status" value).getD 200) (bytesField "body" value)

def gitAnswers (session : Json) : List Git.Answer :=
  (items "git" session).map gitAnswer

def responses (session : Json) : List GitHub.Response :=
  (items "http" session).map response

def elapsed (session : Json) : Double :=
  match session.field? "elapsed".text with
  | some (.float seconds) => seconds
  | some (.int seconds) => (Double.ofInt? seconds).getD (.infinite (decide (seconds < 0)))
  | _ => .zero false

def date : Json → Except Date.Error Date
  | .list [.int year, .int month, .int day] => Date.of year month day
  | _ => .error .day

def today (standard : Date) (session : Json) : Except Date.Error Date :=
  match session.field? "clock".text with
  | none | some .null => .ok standard
  | some value => date value

def world (tree : FileTree) (environment : Settings.Environment) (today : Date)
    (session : Json) : World :=
  ⟨tree, environment, gitAnswers session, responses session, today, elapsed session⟩

/-- What was printed is laid down without a carriage return before a line feed. -/
def laidDown : Text → Text
  | [] => []
  | .char '\r' :: .char '\n' :: text => Letter.char '\n' :: laidDown text
  | c :: text => c :: laidDown text

end ReleaseNotes.CommandLine.Session
