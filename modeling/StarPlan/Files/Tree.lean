/-!
# Trees of files

A tree of files is known by what stands at each path. Folders on the way to a path are there
whenever the path is. A file holds bytes, which need not be a text.
-/

namespace StarPlan

/-- A way through folders, the outermost first. -/
abbrev FilePath := List String

namespace FilePath

/-- The path that a text with slashes writes; a point alone leads nowhere else. -/
def ofText (text : String) : FilePath :=
  (text.splitOn "/").filter fun name => name != "" && name != "."

/-- A path as it is written. -/
def toText (p : FilePath) : String := "/".intercalate p

/-- The ending of a file's name after its last point. A point at the very start begins no
ending. -/
def ending? (name : String) : Option String :=
  let reversed := name.toList.reverse
  let stem := (reversed.dropWhile (· != '.')).drop 1
  if stem.isEmpty then none else some (.ofList (reversed.takeWhile (· != '.')).reverse)

end FilePath

/-- What may stand at a path. -/
inductive FileEntry where
  | folder
  | file (bytes : ByteArray)

/-- A tree of files, by path. -/
structure FileTree where
  entries : List (FilePath × FileEntry)

/-- Why a file cannot be read as a text. -/
inductive FileFault where
  | isFolder
  | notText
deriving DecidableEq, Repr

/-- The wording of an unreadable file. -/
def FileFault.message : FileFault → String
  | .isFolder => "Is a directory (os error 21)"
  | .notText => "stream did not contain valid UTF-8"

namespace FileTree

/-- The tree without files. -/
def empty : FileTree := ⟨[]⟩

/-- What stands at a path. The outermost folder has the empty path. -/
def get? (t : FileTree) (p : FilePath) : Option FileEntry :=
  if p.isEmpty then some .folder else t.entries.lookup p

/-- Whether anything stands at a path. -/
def contains (t : FileTree) (p : FilePath) : Bool := (t.get? p).isSome

/-- Puts something at a path, in place of what stood there. -/
def put (t : FileTree) (p : FilePath) (e : FileEntry) : FileTree :=
  ⟨t.entries.filter (·.1 != p) ++ [(p, e)]⟩

/-- Adds a folder, with those on the way to it. -/
def addFolder (t : FileTree) (p : FilePath) : FileTree :=
  (List.range p.length).foldl (fun t n =>
    let q := p.take (n + 1)
    if t.contains q then t else t.put q .folder) t

/-- Adds a file, with the folders on the way to it. -/
def addFile (t : FileTree) (p : FilePath) (bytes : ByteArray) : FileTree :=
  (t.addFolder p.dropLast).put p (.file bytes)

/-- The text of what stands at a path. -/
def readText (e : FileEntry) : Except FileFault String :=
  match e with
  | .folder => .error .isFolder
  | .file bytes =>
    match String.fromUTF8? bytes with
    | some text => .ok text
    | none => .error .notText

end FileTree

example : FilePath.ending? "a.b.toml" = some "toml" := by decide +kernel

example : FilePath.ending? ".toml" = none := by decide +kernel

end StarPlan
