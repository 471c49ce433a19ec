import ReleaseNotes.CommandLine.Options
import ReleaseNotes.CommandLine.Stage
import ReleaseNotes.Release
import ReleaseNotes.Settings.Load

namespace ReleaseNotes.CommandLine

/-! All that a run can see of the world outside. -/

structure World where
  tree : FileTree
  environment : Settings.Environment
  git : List Git.Answer
  server : List GitHub.Response
  today : Date
  elapsed : Double

namespace Stage

def ofGit (folder : Location) (outcome : Git.Outcome α) : Stage (α × List Git.Answer) := do
  record (outcome.exchanges.map fun exchange => ⟨exchange.command, folder⟩) []
  log outcome.log
  match outcome.result with
  | .ok value => done (value, outcome.answers)
  | .error error =>
      if error.isUnexpected then unexpected error.message
      else fail .history ("Failed to collect commits: ".text ++ error.message)

def ofServer (outcome : GitHub.Outcome α) : Stage (α × List GitHub.Response) := do
  record [] (outcome.exchanges.map (·.request))
  log outcome.log
  match outcome.result with
  | .ok value => done (value, outcome.responses)
  | .error error =>
      if error.isUnexpected then unexpected error.message
      else fail .history ("Failed to collect commits: ".text ++ error.message)

end Stage

namespace Options

def givenStart (options : Options) : Option Text :=
  options.fromRef.filter (· ≠ [])

def rangeText (base : Option Text) (head : Text) : Text :=
  match base with
  | none => head
  | some base => base ++ "..".text ++ head

def gitBase (options : Options) (world : World) (folder : Location) :
    Stage (Option Text × List Git.Answer) :=
  match options.givenStart with
  | some base => .done (some base, world.git)
  | none =>
      .ofGit folder (Git.latestTag (Release.tagNames options.version) options.toRef world.git)

def gitCommits (options : Options) (world : World) (folder : Location) :
    Stage (List Json) := do
  Stage.success ("Found Git repository at: ".text ++ FileTree.placeText folder)
  let (base, answers) ← options.gitBase world folder
  let range := rangeText base options.toRef
  Stage.detail ("Revision range: ".text ++ range)
  Stage.progress "Reading commit history"
  let (messages, _) ← Stage.ofGit folder (Git.commits range true answers)
  Stage.progressDone world.elapsed
  Stage.done (messages.map .string)

def collectFromGit (options : Options) (world : World) (settings : Settings) :
    Stage (List Json) :=
  match Git.repositoryOf world.tree settings.workspace with
  | .error error => .unexpected error.message
  | .ok none =>
      .fail .noRepository ("No Git repository found at ".text ++ settings.workspace.text ++
        " or its parent directories.".text)
  | .ok (some folder) => options.gitCommits world folder

def serverBase (options : Options) (world : World) (client : GitHub.Client) :
    Stage (Option Json × List GitHub.Response) :=
  match options.givenStart with
  | some base => .done (some (.string base), world.server)
  | none =>
      .ofServer (client.latestTag options.toRef (Release.tagNames options.version) world.server)

def serverCommits (options : Options) (client : GitHub.Client) (base : Option Json)
    (responses : List GitHub.Response) : Stage (List Json) :=
  match base.filter fun base => !base.isNothing with
  | some base => do
      Stage.detail ("Comparing ".text ++ base.plain ++ "...".text ++ options.toRef)
      return (← Stage.ofServer (client.compare base.plain options.toRef responses)).1
  | none => do
      Stage.detail ("No previous tag, listing all commits up to ".text ++ options.toRef)
      return (← Stage.ofServer (client.list options.toRef responses)).1

def collectFromServer (options : Options) (world : World) (settings : Settings) :
    Stage (List Json) :=
  match settings.repository.filter (· ≠ []) with
  | none =>
      .fail .configuration
        ("Configuration error: ".text ++ Settings.ConfigError.noRepository.message)
  | some repository => do
      let client : GitHub.Client :=
        ⟨repository, settings.token, settings.apiUrl, .float settings.timeout⟩
      Stage.success ("Using GitHub repository: ".text ++ repository)
      Stage.progress "Fetching commits from GitHub"
      let (base, responses) ← options.serverBase world client
      let messages ← options.serverCommits client base responses
      Stage.progressDone world.elapsed
      Stage.done messages

def collect (options : Options) (world : World) (settings : Settings) : Stage (List Json) :=
  match options.source with
  | .git => options.collectFromGit world settings
  | .gitHub => options.collectFromServer world settings

end Options

/-!
A run has four stages, and the first one that fails ends it. The first three only read; they are
the same for a dry run and for one that writes.
-/

structure Report where
  code : ExitCode
  transcript : Transcript
  tree : FileTree

namespace Options

def settingsRequest (options : Options) (world : World) : Settings.Request where
  workspace := options.workspace
  environment := world.environment
  overrides :=
    [ (Settings.Key.commitTypes, options.mapping), (.templatePath, options.template),
      (.changelogPath, options.output) ].map fun (key, value) =>
        (key.name, (value.map Json.string).getD .null)

def loadFailure (error : Settings.LoadError) : Stage α :=
  match error with
  | .config error => .fail .configuration ("Configuration error: ".text ++ error.message)
  | error => .unexpected error.message

def loadSettings (options : Options) (world : World) : Stage Settings := do
  let request := options.settingsRequest world
  Stage.log (request.log world.tree)
  match request.load world.tree with
  | .error error => loadFailure error
  | .ok settings => Stage.done settings

def loadTemplate (world : World) (settings : Settings) : Stage Text := do
  Stage.log (settings.templateLog world.tree)
  match settings.templateText world.tree with
  | .error error => loadFailure error
  | .ok template => Stage.done template

def load (options : Options) (world : World) : Stage (Settings × Text) := do
  Stage.header 1 "Loading Configuration"
  let settings ← options.loadSettings world
  let template ← loadTemplate world settings
  Stage.success "Configuration loaded successfully".text
  Stage.detail ("Commit types: ".text ++ settings.commitTypes)
  Stage.detail ("Template: ".text ++
    (settings.templatePath.map Path.text).getD "built-in".text)
  Stage.done (settings, template)

def countText (count : Nat) : Stage Unit :=
  if count = 0 then
    .warning "No commits found in range; the section will have no entries.".text
  else
    .success ("Found ".text ++ Text.ofNat count ++ " commit".text ++ Text.plural count)

def gather (options : Options) (world : World) (settings : Settings) : Stage (List Json) := do
  Stage.header 2 "Collecting Commits"
  let messages ← options.collect world settings
  countText messages.length
  Stage.done messages

def renderFailure (error : Release.Error) : Stage α :=
  match error with
  | .categories error =>
      .fail .configuration ("Invalid commit type mapping: ".text ++ error.message)
  | .template error => .fail .template ("Invalid template: ".text ++ error.message)
  | error => .unexpected error.message

def render (options : Options) (world : World) (draft : Release.Draft) : Stage Text := do
  Stage.header 3 "Rendering Changelog"
  Stage.log (Release.log draft)
  match Release.generate draft options.order world.today with
  | .error error => renderFailure error
  | .ok notes => do
      Stage.success ("Rendered changelog for version ".text ++ options.version)
      Stage.done notes

def compose (options : Options) (world : World) : Stage (Settings × Text) := do
  let (settings, template) ← options.load world
  let messages ← options.gather world settings
  let notes ← options.render world ⟨options.version, messages, settings.commitTypes, template⟩
  Stage.header 4 "Writing Changelog"
  Stage.done (settings, notes)

def display (notes : Text) : Stage Unit := do
  Stage.print "ℹ Dry run - changelog file left untouched".text
  Stage.print []
  Stage.print notes

def writeFailure (path : Path) (error : FileError) : Stage Unit :=
  match error with
  | .refused _ _ =>
      .fail .writing ("Failed to write ".text ++ path.text ++ ": ".text ++ error.message)
  | error => .unexpected error.message

def reportWrite (path : Path) (result : Except FileError Unit) : Stage Unit :=
  match result with
  | .error error => writeFailure path error
  | .ok _ => .success ("Updated ".text ++ path.text)

def write (tree : FileTree) (settings : Settings) (notes : Text) : FileTree × Stage Unit :=
  let path := settings.changelogPath
  let written := ChangelogFile.prepend tree path notes
  (written.1, (Stage.log (ChangelogFile.prependLog tree path notes)).andThen fun _ =>
    reportWrite path written.2)

def finish (options : Options) (tree : FileTree) (settings : Settings) (notes : Text) :
    FileTree × Stage Unit :=
  if options.isDryRun then (tree, display notes) else write tree settings notes

def codeOf : Except ExitCode Unit → ExitCode
  | .error code => code
  | .ok _ => .success

def run (options : Options) (world : World) : Report :=
  let composed := options.compose world
  match composed.result with
  | .error code => ⟨code, composed.transcript, world.tree⟩
  | .ok (settings, notes) =>
      let (tree, last) := options.finish world.tree settings notes
      ⟨codeOf last.result, composed.transcript ++ last.transcript, tree⟩

end Options

structure Result where
  code : ExitCode
  out : Text
  err : Text
  gitCalls : List GitCall
  requests : List GitHub.Request
  tree : FileTree

def Report.result (verbose : Bool) (report : Report) : Result :=
  ⟨report.code, report.transcript.out, report.transcript.err verbose, report.transcript.gitCalls,
    report.transcript.requests, report.tree⟩

def invoke (arguments : List Text) (world : World) : Result :=
  match Invocation.read world.tree arguments with
  | .refuse (.usage error) => ⟨.usage, [], error.text, [], [], world.tree⟩
  | .refuse .silent => ⟨.unexpected, [], [], [], [], world.tree⟩
  | .showVersion => ⟨.success, versionText, [], [], [], world.tree⟩
  | .showHelp => ⟨.success, helpText, [], [], [], world.tree⟩
  | .run options => (options.run world).result options.isVerbose

end ReleaseNotes.CommandLine
