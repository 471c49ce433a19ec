import ReleaseNotes.Text.Utf8

namespace ReleaseNotes

/-!
A path keeps the slashes it starts with and its names. Repeated slashes, a closing slash and single
dots say nothing and are dropped; two dots stay, for only the file tree knows where they lead.
-/

structure Path where
  slashes : Nat
  names : List Text
deriving DecidableEq

namespace Path

def isSaid (name : Text) : Bool :=
  name ≠ [] && name ≠ ".".text

/-- Two slashes in front are a root of their own, three or more are one. -/
def rootSlashes (text : Text) : Nat :=
  match (text.takeWhile (· == Letter.char '/')).length with
  | 0 => 0
  | 2 => 2
  | _ => 1

def ofText (text : Text) : Path :=
  ⟨rootSlashes text, (text.splitOn (.char '/')).filter isSaid⟩

def text (path : Path) : Text :=
  match path.slashes, path.names with
  | 0, [] => ['.']
  | slashes, names => List.replicate slashes (.char '/') ++ Text.joined ['/'] names

def isAbsolute (path : Path) : Bool :=
  path.slashes ≠ 0

def join (folder path : Path) : Path :=
  if path.isAbsolute then path else ⟨folder.slashes, folder.names ++ path.names⟩

def child (folder : Path) (name : Text) : Path :=
  ⟨folder.slashes, folder.names ++ [name]⟩

def parent (path : Path) : Path :=
  ⟨path.slashes, path.names.dropLast⟩

/-- One name further on the way from the start: two dots undo the name before them, if there is
one. -/
def enter (way : Path) (name : Text) : Path :=
  if name = "..".text then
    match way.names.getLast? with
    | none => if way.isAbsolute then way else way.child name
    | some last => if last = name then way.child name else way.parent
  else way.child name

/-- How a path reads inside a message. -/
def inspect (path : Path) : Text :=
  "PosixPath(".text ++ Text.quoted path.text ++ ")".text

theorem isAbsolute_ofText {text : Text} :
    (ofText text).isAbsolute = true ↔ text.head? = some (.char '/') := by
  have hslashes : rootSlashes text ≠ 0 ↔ text.head? = some (.char '/') := by
    cases text with
    | nil => decide
    | cons c text =>
        rw [rootSlashes, List.head?_cons, Option.some.injEq]
        by_cases hc : c = '/'
        · rw [List.takeWhile_cons_of_pos (by simpa using hc), List.length_cons]
          split <;> simp_all
        · rw [List.takeWhile_cons_of_neg (by simpa using hc)]
          simp [hc]
  rw [← hslashes, isAbsolute, decide_eq_true_eq]
  rfl

end Path

/-! A place lists the names from the innermost outwards, so what remains after the first name is the
folder that holds it. -/

abbrev Location := List Text

inductive Entry where
  | file (content : Bytes)
  | folder
deriving DecidableEq

/-- No name leads out again, and each can be asked for. -/
def FileTree.IsProper (place : Location) : Prop :=
  ∀ name ∈ place, Utf8.isName name = true ∧ name ≠ "..".text

instance : DecidablePred FileTree.IsProper := fun place =>
  inferInstanceAs (Decidable (∀ name ∈ place, Utf8.isName name = true ∧ name ≠ "..".text))

structure FileTree where
  entries : List (Location × Entry)
  /-- Where relative paths start. -/
  base : Location
  base_proper : FileTree.IsProper base

inductive FileFault where
  | missing
  | exists
  | notFolder
  | isFolder
  | nameTooLong
deriving DecidableEq

namespace FileFault

def number : FileFault → Nat
  | .missing => 2
  | .exists => 17
  | .notFolder => 20
  | .isFolder => 21
  | .nameTooLong => 36

def text : FileFault → Text
  | .missing => "No such file or directory".text
  | .exists => "File exists".text
  | .notFolder => "Not a directory".text
  | .isFolder => "Is a directory".text
  | .nameTooLong => "File name too long".text

def messageFor (fault : FileFault) (name : Text) : Text :=
  "[Errno ".text ++ Text.ofNat fault.number ++ "] ".text ++ fault.text ++ ": ".text ++
    Text.quoted name

end FileFault

inductive FileError where
  | refused (fault : FileFault) (path : Path)
  | nulInPath
  | undecodable (failure : Utf8.Failure)
  | unencodable (obstacle : Utf8.Obstacle)
  | tooManyFolders

def FileError.message : FileError → Text
  | .refused fault path => fault.messageFor path.text
  | .nulInPath => "embedded null byte".text
  | .undecodable failure => failure.message
  | .unencodable obstacle => obstacle.message
  | .tooManyFolders => "maximum recursion depth exceeded while calling a Python object".text

/-- A path can only be asked for by its bytes, and the byte zero would end it. -/
def Path.check (path : Path) : Except FileError Unit :=
  match Utf8.encodeName path.text with
  | .error obstacle => .error (.unencodable obstacle)
  | .ok bytes => if bytes.contains 0 then .error .nulInPath else .ok ()

namespace FileTree

def nameLimit : Nat := 255

def pathLimit : Nat := 4095

def entry? (tree : FileTree) (place : Location) : Option Entry :=
  match place with
  | [] => some .folder
  | _ => tree.entries.lookup place

def set (tree : FileTree) (place : Location) (entry : Entry) : FileTree :=
  { tree with entries := (place, entry) :: tree.entries.filter fun known => known.1 ≠ place }

/-- Every step needs a folder to stand in; two dots lead out of it. Lengths are counted in bytes. -/
def walk (tree : FileTree) : Location → List Text → Except FileFault Location
  | place, [] => .ok place
  | place, name :: names =>
      match tree.entry? place with
      | none => .error .missing
      | some (.file _) => .error .notFolder
      | some .folder =>
          if nameLimit < Utf8.size name then .error .nameTooLong
          else
            walk tree (if name = "..".text then place.tail else Utf8.listedName name :: place) names

def start (tree : FileTree) (path : Path) : Location :=
  if path.isAbsolute then [] else tree.base

def isTooLong (text : Text) : Bool :=
  decide (pathLimit < Utf8.size text)

def locate (tree : FileTree) (path : Path) : Except FileFault Location :=
  if isTooLong path.text then .error .nameTooLong
  else tree.walk (tree.start path) path.names

def find (tree : FileTree) (path : Path) : Except FileFault (Location × Entry) := do
  let place ← tree.locate path
  match tree.entry? place with
  | none => .error .missing
  | some entry => .ok (place, entry)

/-- Nothing is there under a path that cannot be asked for; only one that is too long is refused. -/
def exists? (tree : FileTree) (path : Path) : Except FileError Bool :=
  match path.check, tree.find path with
  | .error _, _ => .ok false
  | .ok _, .error .nameTooLong => .error (.refused .nameTooLong path)
  | .ok _, .error _ => .ok false
  | .ok _, .ok _ => .ok true

def readBytes (tree : FileTree) (path : Path) : Except FileError Bytes :=
  match path.check with
  | .error error => .error error
  | .ok _ =>
      match tree.find path with
      | .error fault => .error (.refused fault path)
      | .ok (_, .folder) => .error (.refused .isFolder path)
      | .ok (_, .file content) => .ok content

def readText (tree : FileTree) (path : Path) : Except FileError Text :=
  match tree.readBytes path with
  | .error error => .error error
  | .ok content =>
      match Utf8.decode content with
      | .error failure => .error (.undecodable failure)
      | .ok text => .ok (Text.foldNewlines text)

/-- The place where a file can be written, whether or not one is there. -/
def placeForFile (tree : FileTree) (path : Path) : Except FileError Location :=
  match path.check with
  | .error error => .error error
  | .ok _ =>
      match tree.locate path with
      | .error fault => .error (.refused fault path)
      | .ok place =>
          match tree.entry? place with
          | some .folder => .error (.refused .isFolder path)
          | _ => .ok place

def writeBytes (tree : FileTree) (path : Path) (content : Bytes) :
    FileTree × Except FileError Unit :=
  match tree.placeForFile path with
  | .error error => (tree, .error error)
  | .ok place => (tree.set place (.file content), .ok ())

/-- A file is emptied before its text is encoded, and stays empty if that fails. -/
def writeText (tree : FileTree) (path : Path) (text : Text) : FileTree × Except FileError Unit :=
  match tree.placeForFile path, Utf8.encode text with
  | .error error, _ => (tree, .error error)
  | .ok place, .error obstacle => (tree.set place (.file []), .error (.unencodable obstacle))
  | .ok place, .ok content => (tree.set place (.file content), .ok ())

def addFolderAt (tree : FileTree) (place : Location) : Except FileFault (FileTree × Location) :=
  match tree.entry? place with
  | some _ => .error .exists
  | none => .ok (tree.set place .folder, place)

def addFolder (tree : FileTree) (path : Path) : Except FileFault (FileTree × Location) := do
  tree.addFolderAt (← tree.locate path)

/-- What is left to do once a folder could not be added: one that is there already will do. -/
def acceptFolder (tree : FileTree) (path : Path) (fault : FileFault) : Except FileError Location :=
  match path.check, tree.find path with
  | .ok _, .ok (place, .folder) => .ok place
  | _, _ => .error (.refused fault path)

def addedOrThere (tree : FileTree) (path : Path) :
    Except FileFault (FileTree × Location) → FileTree × Except FileError Location
  | .ok (tree, place) => (tree, .ok place)
  | .error fault => (tree, tree.acceptFolder path fault)

/-- How many folders can be added at once. -/
def folderLimit : Nat := 988

/-- Adds a folder after the folders above it, which stay even if this one then fails. The number
counts the folders that may still be added, and the names of the path come from the last to the
first. -/
def addFoldersNamed (tree : FileTree) (slashes : Nat) :
    Nat → List Text → FileTree × Except FileError Location
  | 0, _ => (tree, .error .tooManyFolders)
  | _ + 1, [] => tree.addedOrThere ⟨slashes, []⟩ (tree.addFolder ⟨slashes, []⟩)
  | count + 1, name :: above =>
      let path : Path := ⟨slashes, (name :: above).reverse⟩
      match tree.addFolder path with
      | .error .missing =>
          match addFoldersNamed tree slashes count above with
          | (tree, .error error) => (tree, .error error)
          | (tree, .ok place) =>
              tree.addedOrThere path ((tree.walk place [name]).bind tree.addFolderAt)
      | added => tree.addedOrThere path added

def addFolders (tree : FileTree) (path : Path) : FileTree × Except FileError Location :=
  match path.check with
  | .error error => (tree, .error error)
  | .ok _ => tree.addFoldersNamed path.slashes folderLimit path.names.reverse

/-! Where a path leads by its names alone, whether or not anything is there. -/

def resolveFrom (place : Location) (names : List Text) : Location :=
  names.foldl (fun place name => if name = "..".text then place.tail else name :: place) place

/-- A path is asked for name by name, each with the way that led to it. -/
def checkWay (way : Path) : List Text → Except FileError Unit
  | [] => .ok ()
  | name :: names => do
      (way.enter name).check
      checkWay (way.enter name) names

def resolve (tree : FileTree) (path : Path) : Except FileError Location :=
  match checkWay ⟨if path.isAbsolute then 1 else 0, []⟩ path.names with
  | .error error => .error error
  | .ok _ => .ok (resolveFrom (tree.start path) path.names)

def placeText (place : Location) : Text :=
  "/".text ++ Text.joined ['/'] place.reverse

def placePath (place : Location) : Path :=
  ⟨1, place.reverse⟩

/-! Building and listing a tree below its base. -/

/-- Adds the folders that a way passes, also one that two dots lead out of again, and says where the
way ends. -/
def plantFolders (tree : FileTree) (place : Location) : List Text → FileTree × Location
  | [] => (tree, place)
  | name :: names =>
      if name = "..".text then tree.plantFolders place.tail names
      else
        let inner := Utf8.listedName name :: place
        match tree.entry? inner with
        | some .folder => tree.plantFolders inner names
        | _ => (tree.set inner .folder).plantFolders inner names

def emptyAt (base : Location) (proper : IsProper base := by decide) : FileTree :=
  (plantFolders ⟨[], base, proper⟩ [] base.reverse).1

def plant (tree : FileTree) (path : Path) (entry : Entry) : FileTree :=
  match entry with
  | .folder => (tree.plantFolders (tree.start path) path.names).1
  | .file content =>
      let way := tree.plantFolders (tree.start path) path.names.dropLast
      match path.names.getLast? with
      | none => way.1
      | some name => way.1.set (Utf8.listedName name :: way.2) (.file content)

def holdsNothing (tree : FileTree) (place : Location) : Bool :=
  !tree.entries.any fun known => known.1 ≠ [] && known.1.tail == place

/-- The name of a place relative to the base, if it lies below it. -/
def nameBelow? (base place : Location) : Option Text :=
  let outer := place.drop (place.length - base.length)
  if base.length < place.length ∧ outer = base then
    some (Text.joined ['/'] (place.take (place.length - base.length)).reverse)
  else none

/-- Every file below the base, and every folder there that holds nothing. -/
def listing (tree : FileTree) : List (Text × Entry) :=
  tree.entries.filterMap fun (place, entry) =>
    match nameBelow? tree.base place, entry with
    | none, _ => none
    | some name, .file content => some (name, .file content)
    | some name, .folder => if tree.holdsNothing place then some (name, .folder) else none

end FileTree

namespace ChangelogFile

/-! The newest release comes first, with one blank line between it and what was there before. -/

def headed (notes : Text) (previous : Text) : Text :=
  match Text.dropNewlines previous with
  | [] => Text.strip notes ++ Text.newline
  | earlier => Text.strip notes ++ Text.newline ++ Text.newline ++ earlier

/-- A file that is not there yet has no text. -/
def previousText (tree : FileTree) (path : Path) : Except FileError Text :=
  match tree.exists? path with
  | .error error => .error error
  | .ok false => .ok []
  | .ok true => tree.readText path

/-- The folders that a file needs are added first, and stay even if it cannot be written. -/
def inFolders (tree : FileTree) (path : Path)
    (write : FileTree → FileTree × Except FileError Unit) : FileTree × Except FileError Unit :=
  match tree.addFolders path.parent with
  | (tree, .error error) => (tree, .error error)
  | (tree, .ok _) => write tree

def write (tree : FileTree) (path : Path) (text : Text) : FileTree × Except FileError Unit :=
  inFolders tree path fun tree => tree.writeText path text

def writeBytes (tree : FileTree) (path : Path) (content : Bytes) :
    FileTree × Except FileError Unit :=
  inFolders tree path fun tree => tree.writeBytes path content

def prepend (tree : FileTree) (path : Path) (notes : Text) :
    FileTree × Except FileError Unit :=
  match previousText tree path with
  | .error error => (tree, .error error)
  | .ok previous => write tree path (headed notes previous)

def prependLog (tree : FileTree) (path : Path) (notes : Text) : List LogLine :=
  match tree.exists? path, tree.readText path with
  | .ok false, _ => [⟨.debug, "Creating changelog ".text ++ path.text⟩]
  | .ok true, .ok _ =>
      [⟨.debug, "Prepending ".text ++ Text.ofNat (Text.strip notes).length ++
        " characters to ".text ++ path.text⟩]
  | _, _ => []

end ChangelogFile

end ReleaseNotes
