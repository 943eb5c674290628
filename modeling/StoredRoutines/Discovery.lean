import StoredRoutines.Config
import StoredRoutines.FileTree
import StoredRoutines.Glob.Nesting
import StoredRoutines.LoadError
import StoredRoutines.Sorting
import StoredRoutines.Source

/-!
# Finding and reading sources

The sources of a full run are the files below the source directory that patterns select.

## Main definitions

- `patterns` — the patterns of a list, or what is wrong with one of them
- `discover` — the selected files in the order of their paths
- `readSource` — a source with its canonical path
-/

namespace StoredRoutines

/-- Why sources cannot be looked for. -/
inductive DiscoveryError where
  /-- There is no source directory. -/
  | noDirectory (path : Path)
  /-- Something is wrong with a pattern. -/
  | badPattern (pattern : String) (cause : Glob.GlobError)
  /-- A pattern is nested too deeply. -/
  | deepPattern (cause : Glob.NestingError)
  /-- A directory below the source directory has too long a path. -/
  | longPath (path : Path)
  deriving DecidableEq, Repr

/-- The wording of a cause. -/
def DiscoveryError.message : DiscoveryError → String
  | noDirectory path => "Source directory does not exist: " ++ path.text
  | badPattern pattern cause => "error parsing glob '" ++ pattern ++ "': " ++ cause.message
  | deepPattern cause => cause.message
  | longPath path =>
    "IO error for operation on " ++ path.text ++ ": File name too long (os error 36)"

/-- The patterns that some texts are. Each must be well formed, and then none may be nested too
    deeply. -/
def patterns (texts : List String) : Except DiscoveryError (List Glob.Pattern) := do
  let ps ← texts.mapM fun text => (Glob.Pattern.parse text).mapError (.badPattern text)
  match Glob.nestingError? ps with
  | some e => throw (.deepPattern e)
  | none => return ps

/-- The path below a directory that names on the way from it make up. -/
def pathBelow (directory : Path) : Location → Path
  | [] => directory
  | names => directory.join ⟨"/".intercalate names⟩

/-- Whether a file is selected: some pattern includes it and none excludes it. -/
def isSelected (included excluded : List Glob.Pattern) (names : Location) : Bool :=
  let relative := "/".intercalate names
  !(excluded.any fun p => p.selects relative) && included.any fun p => p.selects relative

/-- The sources below the source directory, in the order of their paths. Every directory below it
    is listed, whether or not its files are selected. -/
def discover (files : FileTree) (config : LoaderConfig) : Except DiscoveryError (List Path) := do
  let root := config.sourceDirectory
  match files.locate? root with
  | none => throw (.noDirectory root)
  | some location =>
    if !files.isDirectoryAt location then throw (.noDirectory root)
    let included ← patterns config.includePatterns
    let excluded ← patterns config.excludePatterns
    let directories := (files.directoriesBelow location).map (pathBelow root)
    if let some long := directories.find? fun d => !FileTree.accepts d then
      throw (.longPath long)
    let found := (files.filesBelow location).filter (isSelected included excluded)
    return sortBy Path.precedes (found.map (pathBelow root))

/-- The time of the last change of a source. -/
def modifiedTime (files : FileTree) (path : Path) : Except LoadError Int64 :=
  match files.modified? path with
  | some modified => .ok modified
  | none => .error (.sourceUnreadable path.text)

/-- A source with its canonical path. -/
def readSource (files : FileTree) (path : Path) : Except LoadError Source :=
  match files.resolve? path with
  | none => .error (.sourceUnreadable path.text)
  | some location =>
    match files.textAt? location, files.modifiedAt? location with
    | some text, some modified => .ok ⟨FileTree.pathOf location, text, modified⟩
    | _, _ => .error (.sourceUnreadable path.text)

end StoredRoutines
