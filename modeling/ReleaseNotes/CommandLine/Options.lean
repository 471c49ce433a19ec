import ReleaseNotes.CommandLine.Arguments

namespace ReleaseNotes.CommandLine

inductive Source where
  | git
  | gitHub
deriving DecidableEq

namespace Source

def name : Source → Text
  | .git => "git".text
  | .gitHub => "github".text

def all : List Source := [.git, .gitHub]

def named? (name : Text) : Option Source :=
  all.find? fun source => source.name == name

end Source

structure Options where
  version : Text
  fromRef : Option Text
  toRef : Text
  source : Source
  mapping : Option Text
  template : Option Text
  output : Option Text
  workspace : Option Path
  order : SectionOrder
  isDryRun : Bool
  isVerbose : Bool

/-- Arguments that will not do are reported, except for a path that cannot even be asked for: it
ends the run without a word. -/
inductive Refusal where
  | usage (error : UsageError)
  | silent

inductive Invocation where
  | run (options : Options)
  | showVersion
  | showHelp
  | refuse (refusal : Refusal)

namespace Options

/-- A path that ends in a slash or a dot asks for a folder and never names a file. -/
def namesFile (tree : FileTree) (value : Text) : Bool :=
  match (value.splitOn (.char '/')).getLast?, tree.find (.ofText value) with
  | some [], _ | some [.char '.'], _ => false
  | _, .ok (_, .file _) => true
  | _, _ => false

/-- Nothing is found under a value that is too long as it was given, slashes and dots included. -/
def workspaceRefusal? (tree : FileTree) (value : Text) : Option Refusal :=
  match (Path.ofText value).check with
  | .error _ => some .silent
  | .ok _ =>
      if !FileTree.isTooLong value && namesFile tree value then
        some (.usage (.workspaceIsFile value))
      else none

def refusal? (tree : FileTree) (arguments : Arguments) (parameter : Parameter) :
    Option Refusal :=
  match parameter, arguments.value? parameter with
  | .versionName, none => some (.usage (.missing .versionName))
  | .source, some value =>
      if (Source.named? value).isSome then none
      else some (.usage (.notAChoice .source value (Source.all.map Source.name)))
  | .sectionOrder, some value =>
      if (SectionOrder.named (some value)).isOk then none
      else some (.usage (.notAChoice .sectionOrder value (SectionOrder.all.map SectionOrder.name)))
  | .workspace, some value => workspaceRefusal? tree value
  | _, _ => none

def ofArguments (arguments : Arguments) : Options where
  version := (arguments.value? .versionName).getD []
  fromRef := arguments.value? .fromRef
  toRef := (arguments.value? .toRef).getD "HEAD".text
  source := ((arguments.value? .source).bind Source.named?).getD .git
  mapping := arguments.value? .mapping
  template := arguments.value? .template
  output := arguments.value? .output
  workspace := (arguments.value? .workspace).map Path.ofText
  order :=
    match SectionOrder.named (arguments.value? .sectionOrder) with
    | .ok order => order
    | .error _ => .firstSeen
  isDryRun := arguments.isGiven .dryRun
  isVerbose := arguments.isGiven .verbose

end Options

namespace Invocation

/-- The version and the help come before every other check. -/
def early? (arguments : Arguments) : Option Invocation :=
  arguments.settings.findSome? fun setting =>
    match setting.parameter with
    | .version => some .showVersion
    | .help => some .showHelp
    | _ => none

def check (tree : FileTree) (arguments : Arguments) : Option Refusal :=
  match arguments.checkOrder.findSome? (Options.refusal? tree arguments), arguments.others with
  | some refusal, _ => some refusal
  | none, [] => none
  | none, others => some (.usage (.unexpected others))

def ofArguments (tree : FileTree) (arguments : Arguments) : Invocation :=
  match early? arguments, check tree arguments with
  | some invocation, _ => invocation
  | none, some refusal => .refuse refusal
  | none, none => .run (.ofArguments arguments)

def read (tree : FileTree) (arguments : List Text) : Invocation :=
  match Arguments.read arguments with
  | .error error => .refuse (.usage error)
  | .ok arguments => ofArguments tree arguments

end Invocation

end ReleaseNotes.CommandLine
