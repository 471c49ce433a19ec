import ReleaseNotes.Files

namespace ReleaseNotes.Git

/-!
Git is known by its answers alone: a queue that is used up one call at a time. Once it is empty
every further call fails.
-/

abbrev Command := List Text

inductive Answer where
  | missing
  | ran (status : Int) (out err : Bytes)

namespace Answer

def exhausted : Answer :=
  .ran 128 [] (Utf8.encodeChars "fatal: no scripted response\n".toList)

def readOutput (bytes : Bytes) : Text :=
  Text.foldNewlines (Utf8.decodeLenient bytes)

end Answer

structure Exchange where
  command : Command
  answer : Answer

inductive Error where
  | notFound
  | nulInCommand
  | unencodable (obstacle : Utf8.Obstacle)
  | failed (reason : Text)
deriving DecidableEq

def notFoundFault : Text := FileFault.missing.messageFor "git".text

def Error.message : Error → Text
  | .notFound => "Failed to execute git: ".text ++ notFoundFault
  | .nulInCommand => "embedded null byte".text
  | .unencodable obstacle => obstacle.message
  | .failed reason => reason

/-- A command that cannot be handed over is not reported as a failure of git. -/
def Error.isUnexpected : Error → Bool
  | .nulInCommand | .unencodable _ => true
  | _ => false

structure Outcome (α : Type) where
  result : Except Error α
  exchanges : List Exchange
  answers : List Answer
  log : List LogLine

def describe (revision : Text) : Command :=
  ["describe".text, "--tags".text, "--abbrev=0".text, revision]

def recordSeparator : Letter := '\x1E'

def history (range : Text) (oldestFirst : Bool) : Command :=
  ["log".text, "--format=%B".text ++ [recordSeparator]] ++
    (if oldestFirst then ["--reverse".text] else []) ++ [range]

def commandText (command : Command) : Text :=
  Text.joined [' '] ("git".text :: command)

/-- An argument is handed over as bytes like the name of a file, and the byte zero would end it. -/
def argumentError? (argument : Text) : Option Error :=
  match Utf8.encodeName argument with
  | .error obstacle => some (.unencodable obstacle)
  | .ok bytes => if bytes.contains 0 then some .nulInCommand else none

/-- The command is looked at before the program is looked for. -/
def startError (command : Command) : Error :=
  (command.findSome? argumentError?).getD .notFound

def startLog : Error → List LogLine
  | .notFound => [⟨.error, "Failed to execute Git: ".text ++ notFoundFault⟩]
  | _ => []

def callLog (command : Command) (answer : Answer) : List LogLine :=
  ⟨.debug, "Executing Git command: ".text ++ commandText command⟩ ::
    match answer with
    | .missing => startLog (startError command)
    | .ran _ _ _ => []

inductive TagAnswer where
  | notStarted
  | unreachable (reason : Text)
  | tag (name : Text)

/-- A blank answer names no tag, though it is no failure either. -/
def Answer.tag : Answer → TagAnswer
  | .missing => .notStarted
  | .ran status out err =>
      if status = 0 then .tag (Text.strip (readOutput out))
      else .unreachable (Text.strip (readOutput err))

def tagLog (revision : Text) (answer : Answer) : List LogLine :=
  callLog (describe revision) answer ++
    match answer.tag with
    | .unreachable reason =>
        [⟨.debug, "No tag reachable from ".text ++ revision ++ ": ".text ++ reason⟩]
    | _ => []

def parentOf (tag : Text) : Text := tag ++ "^".text

/-- Searches on from the parent of every tag that is to be passed over. -/
def latestTag (excluded : List Text) (revision : Text) : List Answer → Outcome (Option Text)
  | [] =>
      ⟨.ok none, [⟨describe revision, .exhausted⟩], [], tagLog revision .exhausted⟩
  | answer :: answers =>
      let exchange : Exchange := ⟨describe revision, answer⟩
      let log := tagLog revision answer
      match answer.tag with
      | .notStarted => ⟨.error (startError exchange.command), [exchange], answers, log⟩
      | .unreachable _ | .tag [] => ⟨.ok none, [exchange], answers, log⟩
      | .tag tag =>
          if excluded.contains tag then
            let rest := latestTag excluded (parentOf tag) answers
            ⟨rest.result, exchange :: rest.exchanges, rest.answers, log ++ rest.log⟩
          else ⟨.ok (some tag), [exchange], answers, log⟩

/-- Records that hold nothing but blanks are no commits. -/
def messages (output : Text) : List Text :=
  ((output.splitOn recordSeparator).map Text.stripNewlines).filter fun message =>
    !Text.isAllBlank message

def Answer.messages (command : Command) : Answer → Except Error (List Text)
  | .missing => .error (startError command)
  | .ran status out err =>
      if status = 0 then .ok (Git.messages (readOutput out))
      else match Text.strip (readOutput err) with
        | [] => .error (.failed (Text.strip (readOutput out)))
        | reason => .error (.failed reason)

def historyLog (range : Text) (command : Command) (answer : Answer) : List LogLine :=
  callLog command answer ++
    match answer, answer.messages command with
    | .ran _ _ _, .ok messages =>
        [⟨.debug, "Read ".text ++ Text.ofNat messages.length ++ " commit(s) from ".text ++
          range⟩]
    | .ran _ out err, .error _ =>
        [⟨.error, "Git command failed: ".text ++ commandText command ++ "\nSTDOUT: ".text ++
          Answer.readOutput out ++ "\nSTDERR: ".text ++ Answer.readOutput err⟩]
    | .missing, _ => []

def commits (range : Text) (oldestFirst : Bool) (answers : List Answer) :
    Outcome (List Text) :=
  let command := history range oldestFirst
  let answer := answers.headD .exhausted
  ⟨answer.messages command, [⟨command, answer⟩], answers.tail, historyLog range command answer⟩

/-! The repository of a place is the nearest folder around it with an entry for Git. -/

def isRepository (tree : FileTree) (place : Location) : Except FileError Bool :=
  tree.exists? (FileTree.placePath (".git".text :: place))

def nearestRepository (tree : FileTree) : Location → Except FileError (Option Location)
  | [] => (isRepository tree []).map fun isOne => if isOne then some [] else none
  | name :: outer =>
      match isRepository tree (name :: outer) with
      | .error error => .error error
      | .ok true => .ok (some (name :: outer))
      | .ok false => nearestRepository tree outer

def repositoryOf (tree : FileTree) (start : Path) : Except FileError (Option Location) :=
  match tree.resolve start with
  | .error error => .error error
  | .ok place => nearestRepository tree place

end ReleaseNotes.Git
