import ReleaseNotes.Settings.Basic

namespace ReleaseNotes.Settings

def workspaceOf (tree : FileTree) (given : Option Path) (environment : Environment) : Path :=
  match given, environment.value? "GITHUB_WORKSPACE".text with
  | some workspace, _ => workspace
  | none, some workspace => Path.ofText workspace
  | none, none => FileTree.placePath tree.base

def configPath (workspace : Path) : Path :=
  workspace.child fileName

def documentFields (document : Text) : Except LoadError (List (Text × Json)) :=
  match Json.read document with
  | .error (.malformed reason position) => .error (.config (.malformed reason position document))
  | .error failure => .error (.document failure)
  | .ok (.object fields) => .ok fields
  | .ok _ => .error (.config .notObject)

/-- None when there is no configuration file. -/
def fileFields (tree : FileTree) (workspace : Path) :
    Except LoadError (Option (List (Text × Json))) :=
  match tree.exists? (configPath workspace) with
  | .error error => .error (.file error)
  | .ok false => .ok none
  | .ok true =>
      match tree.readText (configPath workspace) with
      | .error (.refused fault path) => .error (.config (.unreadable fault path))
      | .error error => .error (.file error)
      | .ok document => (documentFields document).map some

namespace Sources

/-- Null counts as not given. -/
def given? (sources : Sources) (key : Key) : Option Json :=
  (sources.value? key).filter fun value => !value.isNull

def text? (sources : Sources) (key : Key) : Except ConfigError (Option Text) :=
  match sources.given? key with
  | none => .ok none
  | some (.string text) => .ok (some text)
  | some _ => .error (.notText key)

def checkTexts (sources : Sources) : List Key → Except ConfigError Unit
  | [] => .ok ()
  | key :: keys =>
      match sources.text? key with
      | .error error => .error error
      | .ok _ => sources.checkTexts keys

def checkTimeout (sources : Sources) : Except ConfigError Unit :=
  match sources.given? .requestTimeout with
  | none => .ok ()
  | some (.int value) => if value ≤ 0 then .error .timeoutNotPositive else .ok ()
  | some (.float value) => if value.isAtMostZero then .error .timeoutNotPositive else .ok ()
  | some _ => .error .timeoutNotNumber

def check (sources : Sources) : Except ConfigError Unit :=
  match sources.checkTexts Key.texts with
  | .error error => .error error
  | .ok _ => sources.checkTimeout

def textOf (sources : Sources) (key : Key) : Option Text :=
  (sources.given? key).bind Json.text?

def someTextOf (sources : Sources) (key : Key) : Option Text :=
  (sources.textOf key).filter (· ≠ [])

def timeout? (sources : Sources) : Option Double :=
  match sources.given? .requestTimeout with
  | some (.int value) => Double.ofInt? value
  | some (.float value) => some value
  | _ => some defaultTimeout

def settings (sources : Sources) (workspace : Path) : Except LoadError Settings :=
  match sources.check, sources.timeout? with
  | .error error, _ => .error (.config error)
  | .ok _, none => .error .timeoutTooLarge
  | .ok _, some timeout =>
      .ok {
        workspace := workspace
        commitTypes := (sources.textOf .commitTypes).getD defaultCommitTypes
        templatePath :=
          (sources.someTextOf .templatePath).map fun text => workspace.join (.ofText text)
        changelogPath :=
          workspace.join (.ofText ((sources.someTextOf .changelogPath).getD defaultChangelogPath))
        repository := sources.textOf .repository
        token := (sources.given? .token).getD .null
        apiUrl := (sources.someTextOf .apiUrl).getD defaultApiUrl
        timeout := timeout }

def warnings (sources : Sources) : List Text :=
  match sources.unknownNames with
  | [] => []
  | names =>
      ["Ignoring unknown configuration keys: ".text ++ Text.joined ", ".text names]

end Sources

structure Request where
  workspace : Option Path
  environment : Environment
  overrides : List (Text × Json)

namespace Request

def workspaceIn (request : Request) (tree : FileTree) : Path :=
  workspaceOf tree request.workspace request.environment

def sources (request : Request) (fields : Option (List (Text × Json))) : Sources :=
  ⟨fields.getD [], request.environment, request.overrides⟩

def load (request : Request) (tree : FileTree) : Except LoadError Settings :=
  let workspace := request.workspaceIn tree
  match fileFields tree workspace with
  | .error error => .error error
  | .ok fields => (request.sources fields).settings workspace

def warnings (request : Request) (tree : FileTree) : List Text :=
  match fileFields tree (request.workspaceIn tree) with
  | .error _ => []
  | .ok fields => (request.sources fields).warnings

end Request

def templateText (settings : Settings) (tree : FileTree) : Except LoadError Text :=
  match settings.templatePath with
  | none => .ok defaultTemplate
  | some path =>
      match tree.readText path with
      | .ok text => .ok text
      | .error (.refused fault path) => .error (.config (.templateUnreadable fault path))
      | .error error => .error (.file error)

/-! What the log says about loading. The token is never shown. -/

def inspectOption (inspect : α → Text) : Option α → Text
  | none => "None".text
  | some value => inspect value

def inspect (settings : Settings) : Text :=
  let token := if settings.token.isNothing then none else some "***".text
  let field (name : String) (value : Text) : Text :=
    Text.quoted name.text ++ ": ".text ++ value
  "\x7b".text ++
    Text.joined ", ".text [
      field "workspace" settings.workspace.inspect,
      field "commit_types" (Text.quoted settings.commitTypes),
      field "template_path" (inspectOption Path.inspect settings.templatePath),
      field "changelog_path" settings.changelogPath.inspect,
      field "github_repository" (inspectOption Text.quoted settings.repository),
      field "github_token" (inspectOption Text.quoted token),
      field "github_api_url" (Text.quoted settings.apiUrl),
      field "request_timeout" settings.timeout.text ] ++
    "\x7d".text

def fileLog (workspace : Path) : Except LoadError (Option (List (Text × Json))) → List LogLine
  | .error (.config error) =>
      (error.cause?.map fun cause =>
        ⟨.error, "Failed to read or parse configuration file: ".text ++ cause⟩).toList
  | .error _ | .ok none => []
  | .ok (some _) =>
      [⟨.debug, "Loaded changelog configuration from: ".text ++ (configPath workspace).text⟩]

def Request.log (request : Request) (tree : FileTree) : List LogLine :=
  let workspace := request.workspaceIn tree
  fileLog workspace (fileFields tree workspace) ++
    ((request.warnings tree).map fun warning => ⟨.warning, warning⟩) ++
    match request.load tree with
    | .error _ => []
    | .ok settings => [⟨.debug, "Resolved configuration: ".text ++ settings.inspect⟩]

def templateLog (settings : Settings) (tree : FileTree) : List LogLine :=
  match settings.templatePath with
  | none => [⟨.debug, "No template configured, using the built-in template".text⟩]
  | some path =>
      match tree.readText path with
      | .error (.refused fault _) =>
          [⟨.error, "Failed to read template file '".text ++ path.text ++ "': ".text ++
            fault.messageFor path.text⟩]
      | _ => []

end ReleaseNotes.Settings
