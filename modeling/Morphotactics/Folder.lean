import Morphotactics.Text.Utf8
import Morphotactics.Text.Quoted

/-! Paths, and a folder of files that are read and written by their paths. -/
namespace Morphotactics

/-- A path in its normal form: the slashes it begins with, none, one or two, and its parts, none of
which is empty or a single point. -/
structure FilePath where
  root : Text
  parts : List Text
  deriving DecidableEq

namespace FilePath

/-- Two slashes in front are kept, more count as one. -/
def ofText (text : Text) : FilePath where
  root := match text.takeWhile (· = '/') with
    | ['/', '/'] => ['/', '/']
    | [] => []
    | _ => ['/']
  parts := (Text.splitOn '/' text).filter fun part => part ≠ [] && part ≠ ['.']

/-- The path with no parts is a single point. -/
def toText (path : FilePath) : Text :=
  if path.root = [] ∧ path.parts = [] then ['.']
  else path.root ++ List.intercalate ['/'] path.parts

def isAbsolute (path : FilePath) : Bool :=
  path.root ≠ []

def parent (path : FilePath) : FilePath :=
  { path with parts := path.parts.dropLast }

/-- A path as seen from a base; an absolute one stays what it is. -/
def from? (path base : FilePath) : FilePath :=
  if path.isAbsolute then path else { base with parts := base.parts ++ path.parts }

end FilePath

inductive FileProblem where
  | notFound
  | isFolder
  | notFolder
  | nullByte
  deriving DecidableEq

structure FileError where
  problem : FileProblem
  path : Text
  deriving DecidableEq

def FileError.message (e : FileError) : Text :=
  match e.problem with
  | .notFound => "[Errno 2] No such file or directory: ".toList ++ e.path.quoted
  | .isFolder => "[Errno 21] Is a directory: ".toList ++ e.path.quoted
  | .notFolder => "[Errno 20] Not a directory: ".toList ++ e.path.quoted
  | .nullByte => "embedded null byte".toList

namespace FilePath

/-- The path that one more name leads to. Two points lead outward, but not out of the root. -/
def step (path : FilePath) (name : Text) : FilePath :=
  if name ≠ ['.', '.'] then { path with parts := path.parts ++ [name] }
  else if path.parts.isEmpty && path.isAbsolute then path
  else if path.parts.all (· = ['.', '.']) then { path with parts := path.parts ++ [name] }
  else path.parent

/-- The path in which names of two points stand in front alone. -/
def collapse (path : FilePath) : FilePath :=
  path.parts.foldl step { path with parts := [] }

def isIn (path folder : FilePath) : Bool :=
  path.root = folder.root && folder.parts.isPrefixOf path.parts &&
    folder.parts.length < path.parts.length

end FilePath

/-- Files by their paths, as seen from one folder. Folders are there if they are listed or if files
are in them. -/
structure Folder where
  files : List (FilePath × Bytes)
  folders : List FilePath := []

inductive Entry where
  | file (place : FilePath) (contents : Bytes)
  | folder
  /-- Nothing, in a folder that is there. -/
  | free (place : FilePath)
  | missing
  | notFolder

namespace Folder

def isFolder (f : Folder) (place : FilePath) : Bool :=
  place.parts.all (· = ['.', '.']) || f.folders.elem place || f.files.any (·.1.isIn place)

def follow (f : Folder) (place : FilePath) : List Text → Entry
  | [] => .folder
  | name :: rest =>
    let next := place.step name
    match f.files.lookup next with
    | some contents => if rest.isEmpty then .file next contents else .notFolder
    | none =>
      if f.isFolder next then f.follow next rest
      else if rest.isEmpty then .free next
      else .missing

def find (f : Folder) (path : FilePath) : Entry :=
  f.follow { path with parts := [] } path.parts

def has (f : Folder) (path : FilePath) : Bool :=
  if path.toText.elem '\x00' then false
  else match f.find path with
    | .file _ _ | .folder => true
    | .free _ | .missing | .notFolder => false

def read (f : Folder) (path : FilePath) : Except FileError Bytes :=
  if path.toText.elem '\x00' then .error ⟨.nullByte, path.toText⟩
  else match f.find path with
    | .file _ contents => .ok contents
    | .folder => .error ⟨.isFolder, path.toText⟩
    | .free _ | .missing => .error ⟨.notFound, path.toText⟩
    | .notFolder => .error ⟨.notFolder, path.toText⟩

def put (f : Folder) (place : FilePath) (contents : Bytes) : Folder :=
  { f with files := (place, contents) :: f.files.filter (·.1 ≠ place) }

/-- Gives a file new contents, made from the earlier ones. -/
def update (f : Folder) (path : FilePath) (change : Bytes → Bytes) : Except FileError Folder :=
  if path.toText.elem '\x00' then .error ⟨.nullByte, path.toText⟩
  else match f.find path with
    | .file place contents => .ok (f.put place (change contents))
    | .free place => .ok (f.put place (change []))
    | .folder => .error ⟨.isFolder, path.toText⟩
    | .missing => .error ⟨.notFound, path.toText⟩
    | .notFolder => .error ⟨.notFolder, path.toText⟩

end Folder
end Morphotactics
