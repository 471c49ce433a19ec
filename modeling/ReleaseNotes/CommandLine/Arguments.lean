import ReleaseNotes.Commit
import ReleaseNotes.Files

namespace ReleaseNotes.CommandLine

def programName : Text := "changelog-gen".text

def versionText : Text := programName ++ ", version 0.1.0\n".text

def usageText : Text :=
  "Usage: ".text ++ programName ++ " [OPTIONS]\nTry '".text ++ programName ++
    " --help' for help.\n\n".text

def helpLines : List String :=
  [
    "Usage: changelog-gen [OPTIONS]",
    "",
    "  📝 Generate a changelog section from conventional commit messages.",
    "",
    "Options:",
    "  --version-name TEXT             Version name of the release, e.g. 1.2.0.",
    "                                  [required]",
    "  --from TEXT                     Start of the commit range (exclusive).",
    "                                  Defaults to the latest tag.",
    "  --to TEXT                       End of the commit range (inclusive).",
    "                                  [default: HEAD]",
    "  --source [git|github]           Where to read commits from.  [default: git]",
    "  --mapping TEXT                  Commit type mapping, e.g.",
    "                                  'feat:Features,fix:Bug Fixes'.",
    "  --template TEXT                 Path to the changelog template.",
    "  --output TEXT                   Changelog file to prepend the new section to.",
    "  --workspace DIRECTORY           Workspace root (defaults to GITHUB_WORKSPACE",
    "                                  or the current directory).",
    "  --section-order [first-seen|declaration]",
    "                                  Order of the changelog sections.  [default:",
    "                                  first-seen]",
    "  --dry-run                       Print the rendered section instead of writing",
    "                                  it.",
    "  --verbose                       Enable verbose (debug) output.",
    "  --version                       Show the version and exit.",
    "  --help                          Show this message and exit."
  ]

def helpText : Text :=
  helpLines.flatMap fun line => line.text ++ Text.newline

/-!
Two words are alike by the characters they share: those of their longest common stretch and, on
either side of it, again those that are shared there.
-/

def commonPrefixLength : Text → Text → Nat
  | a :: left, b :: right => if a = b then commonPrefixLength left right + 1 else 0
  | _, _ => 0

structure Stretch where
  left : Nat
  right : Nat
  length : Nat

def Stretch.longer (known found : Stretch) : Stretch :=
  if known.length < found.length then found else known

/-- The earliest of the longest common stretches. -/
def longestCommon (left right : Text) : Stretch :=
  (List.range left.length).foldl (fun known i =>
    (List.range right.length).foldl (fun known j =>
      known.longer ⟨i, j, commonPrefixLength (left.drop i) (right.drop j)⟩) known) ⟨0, 0, 0⟩

/-- The first number bounds the count of stretches; the length of a word always suffices. -/
def sharedCount : Nat → Text → Text → Nat
  | 0, _, _ => 0
  | bound + 1, left, right =>
      let found := longestCommon left right
      if found.length = 0 then 0
      else
        sharedCount bound (left.take found.left) (right.take found.right) + found.length +
          sharedCount bound (left.drop (found.left + found.length))
            (right.drop (found.right + found.length))

structure Likeness where
  shared : Nat
  total : Nat

def likeness (left right : Text) : Likeness :=
  ⟨2 * sharedCount left.length left right, left.length + right.length⟩

namespace Likeness

/-- At least three fifths of all characters are shared. -/
def isClose (l : Likeness) : Bool :=
  3 * l.total ≤ 5 * l.shared

def atLeast (l m : Likeness) : Bool :=
  m.shared * l.total ≤ l.shared * m.total

end Likeness

/-- No word shares more than all of its characters, so the lengths alone can tell two words apart. -/
def haveCloseLengths (left right : Text) : Bool :=
  let shorter := if left.length ≤ right.length then left.length else right.length
  Likeness.isClose ⟨2 * shorter, left.length + right.length⟩

def isBetter (word a b : Text) : Bool :=
  let la := likeness a word
  let lb := likeness b word
  if la.atLeast lb && lb.atLeast la then Text.isAtMost b a else la.atLeast lb

/-- At most three words that are close to the given one, in alphabetical order. -/
def closeWords (word : Text) (words : List Text) : List Text :=
  let close := words.filter fun candidate =>
    haveCloseLengths candidate word && (likeness candidate word).isClose
  Text.sorted ((close.mergeSort (isBetter word)).take 3)

inductive Parameter where
  | versionName
  | fromRef
  | toRef
  | source
  | mapping
  | template
  | output
  | workspace
  | sectionOrder
  | dryRun
  | verbose
  | version
  | help
deriving DecidableEq

namespace Parameter

def all : List Parameter :=
  [.versionName, .fromRef, .toRef, .source, .mapping, .template, .output, .workspace,
    .sectionOrder, .dryRun, .verbose, .version, .help]

def name : Parameter → Text
  | .versionName => "--version-name".text
  | .fromRef => "--from".text
  | .toRef => "--to".text
  | .source => "--source".text
  | .mapping => "--mapping".text
  | .template => "--template".text
  | .output => "--output".text
  | .workspace => "--workspace".text
  | .sectionOrder => "--section-order".text
  | .dryRun => "--dry-run".text
  | .verbose => "--verbose".text
  | .version => "--version".text
  | .help => "--help".text

def takesValue : Parameter → Bool
  | .dryRun | .verbose | .version | .help => false
  | _ => true

def named? (name : Text) : Option Parameter :=
  all.find? fun parameter => parameter.name == name

end Parameter

inductive UsageError where
  | unknown (name : Text) (alike : List Text)
  | needsValue (parameter : Parameter)
  | takesNoValue (parameter : Parameter)
  | missing (parameter : Parameter)
  | notAChoice (parameter : Parameter) (value : Text) (choices : List Text)
  | workspaceIsFile (value : Text)
  | unexpected (arguments : List Text)

namespace UsageError

/-- Names that are much like an unknown one are offered in its place. -/
def suggestion : List Text → Text
  | [] => []
  | [name] => " Did you mean ".text ++ Text.quoted name ++ "?".text
  | names =>
      " (Did you mean one of: ".text ++ Text.joined ", ".text (names.map Text.quoted) ++ "?)".text

def message : UsageError → Text
  | .unknown name alike =>
      "No such option ".text ++ Text.quoted name ++ ".".text ++ suggestion alike
  | .needsValue parameter =>
      "Option ".text ++ Text.quoted parameter.name ++ " requires an argument.".text
  | .takesNoValue parameter =>
      "Option ".text ++ Text.quoted parameter.name ++ " does not take a value.".text
  | .missing parameter => "Missing option ".text ++ Text.quoted parameter.name ++ ".".text
  | .notAChoice parameter value choices =>
      "Invalid value for ".text ++ Text.quoted parameter.name ++ ": ".text ++
        Text.quoted value ++ " is not one of ".text ++
        Text.joined ", ".text (choices.map Text.quoted) ++ ".".text
  | .workspaceIsFile value =>
      "Invalid value for ".text ++ Text.quoted Parameter.workspace.name ++
        ": Directory ".text ++ Text.quoted (Utf8.shownName value) ++ " is a file.".text
  | .unexpected [argument] =>
      "Got unexpected extra argument (".text ++ argument ++ ")".text
  | .unexpected arguments =>
      "Got unexpected extra arguments (".text ++ Text.joined [' '] arguments ++ ")".text

/-- A value that is lacking or too many is noticed before the usage is at hand. -/
def showsUsage : UsageError → Bool
  | .needsValue _ | .takesNoValue _ => false
  | _ => true

def text (error : UsageError) : Text :=
  Text.escapeSurrogates (Text.withoutControls
    ((if error.showsUsage then usageText else []) ++ "Error: ".text ++ error.message ++
      Text.newline))

end UsageError

structure Setting where
  parameter : Parameter
  value : Text

structure Arguments where
  settings : List Setting
  others : List Text

namespace Arguments

def withSetting (setting : Setting) (arguments : Arguments) : Arguments :=
  { arguments with settings := setting :: arguments.settings }

def withOther (argument : Text) (arguments : Arguments) : Arguments :=
  { arguments with others := argument :: arguments.others }

/-- A value may be attached to the name of its option by an equals sign. -/
def attachedValue? (argument : Text) : Option Text :=
  match argument.dropWhile (· != Letter.char '=') with
  | _ :: value => some value
  | [] => none

def unknownOption (argument name : Text) : UsageError :=
  match argument with
  | .char '-' :: .char '-' :: _ => .unknown name (closeWords name (Parameter.all.map Parameter.name))
  | _ => .unknown (argument.take 2) []

def isOption : Text → Bool
  | .char '-' :: _ :: _ => true
  | _ => false

def optionName (argument : Text) : Text :=
  argument.takeWhile (· != Letter.char '=')

/-- Options and other arguments may be mixed; two dashes end the options. -/
def read : List Text → Except UsageError Arguments
  | [] => .ok ⟨[], []⟩
  | argument :: rest =>
      if argument = "--".text then .ok ⟨[], rest⟩
      else if isOption argument then
        match Parameter.named? (optionName argument) with
        | none => .error (unknownOption argument (optionName argument))
        | some parameter =>
            match parameter.takesValue, attachedValue? argument with
            | true, some value => (read rest).map (withSetting ⟨parameter, value⟩)
            | true, none =>
                match rest with
                | [] => .error (.needsValue parameter)
                | value :: following => (read following).map (withSetting ⟨parameter, value⟩)
            | false, some _ => .error (.takesNoValue parameter)
            | false, none => (read rest).map (withSetting ⟨parameter, []⟩)
      else (read rest).map (withOther argument)

/-- The last value given counts. -/
def value? (arguments : Arguments) (parameter : Parameter) : Option Text :=
  (arguments.settings.reverse.find? fun setting => setting.parameter = parameter).map (·.value)

def isGiven (arguments : Arguments) (parameter : Parameter) : Bool :=
  arguments.settings.any fun setting => setting.parameter = parameter

/-- Options are checked as they were first given, and after them those that were not. -/
def checkOrder (arguments : Arguments) : List Parameter :=
  let given := (arguments.settings.map (·.parameter)).eraseDups
  given ++ Parameter.all.filter fun parameter => !given.contains parameter

end Arguments

end ReleaseNotes.CommandLine
