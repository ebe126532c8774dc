import KeyProtection.Error

/-!
Directories: folders and files by their paths from the top, one folder of which is the one worked in.
Paths as given start at the top or in that folder and may go through `.` and `..`, and then every folder on
the way has to exist. Names and whole paths have a greatest length, and so has the run of missing folders
at the end of a path.
-/

namespace KeyProtection.Logging

/-- A named part of a path as given, and the bytes of the path up to the part's end. -/
structure PathPart where
  name : String
  reach : Nat
  deriving DecidableEq, Repr

/-- The names on the way to a place from the top of all folders, in which nothing is left to resolve. -/
abbrev FilePath := List String

/-- A request for what a path leads to: the folder it starts in, the names on it, and the bytes of its
text. -/
structure Route where
  start : FilePath
  names : List String
  bytes : Nat
  deriving DecidableEq, Repr

namespace FilePath

/-- The parts between slashes. -/
def segments : List Char → List (List Char)
  | [] => [[]]
  | '/' :: rest => [] :: segments rest
  | char :: rest =>
    match segments rest with
    | [] => [[char]]
    | first :: more => (char :: first) :: more

/-- The named ones among segments that come after `start` bytes. -/
def named (start : Nat) : List (List Char) → List PathPart
  | [] => []
  | segment :: rest =>
    let name := String.ofList segment
    let reach := start + name.utf8ByteSize
    if segment = [] then named (reach + 1) rest else ⟨name, reach⟩ :: named (reach + 1) rest

/-- The named parts of a path as given. -/
def parts (path : List Char) : List PathPart := named 0 (segments path)

/-- The named parts of the folder that a path as given puts its file in. -/
def folderParts (path : List Char) : List PathPart := named 0 (segments path).dropLast

/-- The path that ends with the last of its parts, as given. -/
def routeOf (start : FilePath) (parts : List PathPart) : Route :=
  ⟨start, parts.map PathPart.name, (parts.getLast?.map PathPart.reach).getD 0⟩

/-- The path of a part inside a folder; above the top there is nothing but the top. -/
def enter (folder : FilePath) (part : String) : FilePath :=
  if part = "." then folder else if part = ".." then folder.dropLast else folder ++ [part]

def normalize (start : FilePath) (parts : List String) : FilePath := parts.foldl enter start

def isAbsolute (path : List Char) : Bool := path.head? == some '/'

/-- A path of exactly two slashes in front keeps both of them when it is made normal. -/
def hasTwoSlashes : List Char → Bool
  | '/' :: '/' :: '/' :: _ => false
  | '/' :: '/' :: _ => true
  | _ => false

def text (path : FilePath) : String := "/".intercalate path

/-- The names that lead from one place to another, through the folders above the first one. -/
def relativeTo : FilePath → FilePath → FilePath
  | name :: rest, other :: more =>
    if name = other then relativeTo rest more
    else ((name :: rest).map fun _ => "..") ++ other :: more
  | base, path => (base.map fun _ => "..") ++ path

end FilePath

inductive Node where
  | folder
  | file (content : String)
  deriving DecidableEq, Repr

structure Directory where
  /-- The folder in which paths start that do not start at the top. -/
  working : FilePath
  /-- The most folders in a run of missing ones that are made together. -/
  runLimit : Nat
  nodes : List (FilePath × Node)
  deriving Repr

namespace Directory

/-- The folders on the way to a place, that place included. -/
def foldersTo (above : FilePath) : FilePath → List (FilePath × Node)
  | [] => []
  | name :: rest => (above ++ [name], .folder) :: foldersTo (above ++ [name]) rest

/-- Nothing but the folder worked in and those above it. -/
def bare (working : FilePath) (runLimit : Nat) : Directory := ⟨working, runLimit, foldersTo [] working⟩

/-- What is at a path. The top is always there. -/
def find? (directory : Directory) (path : FilePath) : Option Node :=
  if path = [] then some .folder else directory.nodes.lookup path

/-- The most bytes of a name. -/
def nameLimit : Nat := 255

/-- The most bytes of a path. -/
def pathLimit : Nat := 4095

/-- The place that names lead to from a folder; every one but the last has to be a folder's. -/
def locate (directory : Directory) (folder : FilePath) : List String → Except Error FilePath
  | [] => .ok folder
  | name :: rest =>
    match directory.find? folder with
    | some .folder =>
      if nameLimit < name.utf8ByteSize then .error .nameTooLong
      else directory.locate (folder.enter name) rest
    | some (.file _) => .error .notADirectory
    | none => .error .fileNotFound

def hasNull (names : List String) : Bool := names.any fun name => name.toList.contains '\x00'

/-- The place that a route leads to. A null is refused first, and then a path that is too long. -/
def follow (directory : Directory) (route : Route) : Except Error FilePath :=
  if hasNull route.names then .error .embeddedNull
  else if pathLimit < route.bytes then .error .nameTooLong
  else directory.locate route.start route.names

/-- What a route leads to. -/
def resolve? (directory : Directory) (route : Route) : Option Node :=
  match directory.follow route with
  | .ok path => directory.find? path
  | .error _ => none

def add (directory : Directory) (path : FilePath) (node : Node) : Directory :=
  { directory with nodes := directory.nodes ++ [(path, node)] }

/-- Makes a folder, which may be there already. -/
def makeFolder (directory : Directory) (route : Route) : Directory × Except Error Unit :=
  match directory.follow route with
  | .error error => (directory, .error error)
  | .ok path =>
    match directory.find? path with
    | some .folder => (directory, .ok ())
    | some (.file _) => (directory, .error .fileExists)
    | none => (directory.add path .folder, .ok ())

/-- Makes a folder after those above it that are missing; its parts are given in reverse. What was
made before a failure stays. A file in the place of a missing folder is left to the next part to
find, and nothing is made for a `.` below it. -/
def makeFolders (directory : Directory) (start : FilePath) :
    List PathPart → Directory × Except Error Unit
  | [] => (directory, .ok ())
  | part :: above =>
    let route := FilePath.routeOf start (part :: above).reverse
    if (directory.resolve? (FilePath.routeOf start above.reverse)).isSome then
      directory.makeFolder route
    else
      let (prepared, outcome) := directory.makeFolders start above
      match outcome with
      | .ok () | .error .fileExists =>
        if part.name = "." then (prepared, .ok ()) else prepared.makeFolder route
      | .error error => (prepared, .error error)

/-- The length of the run of folders that ends a path, each of which but the first is below a missing
one; the path's parts are given in reverse. -/
def missingRun (directory : Directory) (start : FilePath) : List PathPart → Nat
  | [] => 0
  | _ :: above =>
    if (directory.resolve? (FilePath.routeOf start above.reverse)).isSome then 1
    else directory.missingRun start above + 1

/-- Makes a file ready to be written at its end; a new one is empty. Its path has some slashes in front. -/
def openFile (directory : Directory) (path : FilePath) (slashes : Nat) :
    Directory × Except Error FilePath :=
  match directory.follow ⟨[], path, slashes + path.text.utf8ByteSize⟩ with
  | .error error => (directory, .error error)
  | .ok _ =>
    match directory.find? path with
    | some .folder => (directory, .error .isADirectory)
    | some (.file _) => (directory, .ok path)
    | none => (directory.add path (.file ""), .ok path)

/-- The folder in which a path as given starts. -/
def startOf (directory : Directory) (path : String) : FilePath :=
  if FilePath.isAbsolute path.toList then [] else directory.working

/-- The place that a path as given names, whatever is there on the way. -/
def target (directory : Directory) (path : String) : FilePath :=
  FilePath.normalize (directory.startOf path) ((FilePath.parts path.toList).map PathPart.name)

/-- Opens a log file by its path as given, after making the folders that the path names. -/
def openLog (directory : Directory) (path : String) : Directory × Except Error FilePath :=
  let start := directory.startOf path
  let folders := (FilePath.folderParts path.toList).reverse
  if directory.runLimit < directory.missingRun start folders then (directory, .error .nestedTooDeep)
  else
    let (prepared, outcome) := directory.makeFolders start folders
    match outcome with
    | .ok () =>
      prepared.openFile (directory.target path) (if FilePath.hasTwoSlashes path.toList then 2 else 1)
    | .error error => (prepared, .error error)

/-- Writes at the end of a file. -/
def append (directory : Directory) (path : FilePath) (text : String) : Directory :=
  { directory with
    nodes := directory.nodes.map fun (found, node) =>
      match node with
      | .file content => (found, if found = path then .file (content ++ text) else .file content)
      | .folder => (found, .folder) }

/-- Everything inside the folder worked in by its path from there, folders with a slash at the end. -/
def listing (directory : Directory) : List (String × Option String) :=
  let inside := directory.nodes.filter fun (path, _) =>
    directory.working.isPrefixOf path && path != directory.working
  let shown := inside.map fun (path, node) =>
    match node with
    | .folder => ((directory.working.relativeTo path).text ++ "/", none)
    | .file content => ((directory.working.relativeTo path).text, some content)
  shown.mergeSort fun left right => decide (left.1 ≤ right.1)

end Directory

end KeyProtection.Logging
