import ReleaseNotes.History.Git
import ReleaseNotes.History.GitHub

namespace ReleaseNotes.CommandLine

inductive ExitCode where
  | success
  | unexpected
  | usage
  | noRepository
  | configuration
  | history
  | template
  | writing
deriving DecidableEq

def ExitCode.number : ExitCode → Nat
  | .success => 0
  | .unexpected => 1
  | .usage => 2
  | .noRepository => 3
  | .configuration => 5
  | .history => 6
  | .template => 9
  | .writing => 10

inductive Notice where
  | log (line : LogLine)
  | error (message : Text)

namespace Notice

def isShown (verbose : Bool) : Notice → Bool
  | .log line => line.isShown verbose
  | .error _ => true

/-- The log is not meant for a terminal and keeps what would control one. -/
def text : Notice → Text
  | .log line => line.text ++ Text.newline
  | .error message => Text.withoutControls ("✗ ".text ++ message ++ Text.newline)

end Notice

structure GitCall where
  command : Git.Command
  folder : Location

/-! What a run has printed and asked for so far. -/

structure Transcript where
  printed : List Text
  notices : List Notice
  gitCalls : List GitCall
  requests : List GitHub.Request

namespace Transcript

def empty : Transcript := ⟨[], [], [], []⟩

def append (t u : Transcript) : Transcript :=
  ⟨t.printed ++ u.printed, t.notices ++ u.notices, t.gitCalls ++ u.gitCalls,
    t.requests ++ u.requests⟩

instance : Append Transcript := ⟨append⟩

def out (t : Transcript) : Text :=
  t.printed.flatten

def err (verbose : Bool) (t : Transcript) : Text :=
  Text.escapeSurrogates ((t.notices.filter (Notice.isShown verbose)).flatMap Notice.text)

end Transcript

/-! A stage ends with a value for the next stage, or with the code that ends the run. -/

structure Stage (α : Type) where
  result : Except ExitCode α
  transcript : Transcript

namespace Stage

def done (value : α) : Stage α := ⟨.ok value, .empty⟩

/-- No stage follows one that has ended the run. -/
def andThen (stage : Stage α) (next : α → Stage β) : Stage β :=
  match stage.result with
  | .error code => ⟨.error code, stage.transcript⟩
  | .ok value => ⟨(next value).result, stage.transcript ++ (next value).transcript⟩

instance : Monad Stage where
  pure := done
  bind := andThen

def log (lines : List LogLine) : Stage Unit :=
  ⟨.ok (), { Transcript.empty with notices := lines.map .log }⟩

def fail (code : ExitCode) (message : Text) : Stage α :=
  ⟨.error code, { Transcript.empty with notices := [.error message] }⟩

def unexpected (message : Text) : Stage α :=
  ⟨.error .unexpected, { Transcript.empty with
    notices :=
      [ .log ⟨.error, "Unhandled error: ".text ++ message⟩,
        .error ("Unexpected error: ".text ++ message) ] }⟩

/-- A line that cannot be written in UTF-8 ends the run before any of it is printed. -/
def print (line : Text) : Stage Unit :=
  let shown := Text.withoutControls (line ++ Text.newline)
  match Utf8.obstacle? shown with
  | some obstacle => unexpected obstacle.message
  | none => ⟨.ok (), { Transcript.empty with printed := [shown] }⟩

def record (gitCalls : List GitCall) (requests : List GitHub.Request) : Stage Unit :=
  ⟨.ok (), { Transcript.empty with gitCalls := gitCalls, requests := requests }⟩

/-! The looks of what is printed. -/

def ruler : Text := List.replicate 60 '='

def header (number : Nat) (title : String) : Stage Unit := do
  print (Text.newline ++ ruler)
  print ("Step ".text ++ Text.ofNat number ++ "/4: ".text ++ title.text)
  print ruler

def success (message : Text) : Stage Unit :=
  print ("✓ ".text ++ message)

def detail (message : Text) : Stage Unit :=
  print ("  ℹ ".text ++ message)

def warning (message : Text) : Stage Unit :=
  print ("⚠ ".text ++ message)

def progress (message : String) : Stage Unit :=
  print ("→ ".text ++ message.text ++ "...".text)

def progressDone (elapsed : Double) : Stage Unit :=
  print ("  ✓ Done (".text ++ elapsed.tenths ++ "s)".text)

end Stage

end ReleaseNotes.CommandLine
