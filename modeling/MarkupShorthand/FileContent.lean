/-
  MarkupShorthand.FileContent
  ───────────────────────────
  **A PATH LEADS TO A TEXT, TO BYTES THAT ARE NONE, TO A FOLDER, OR NOWHERE.**

  `Folder.read` looks a path up among files that are known in advance: a point
  stays where it is, two points go up, and a name goes down.
-/

namespace MarkupShorthand

/-- What a path leads to. -/
inductive FileContent where
  /-- Nothing. -/
  | missing
  /-- A folder. -/
  | folder
  /-- A file that is not a text. -/
  | bytes
  /-- A file with a text. -/
  | text (content : String)
  deriving DecidableEq, Inhabited

namespace FileContent

/-- What bytes are: a text if they are one in UTF-8. -/
def ofBytes (bytes : ByteArray) : FileContent :=
  match String.fromUTF8? bytes with
  | some content => .text content
  | none => .bytes

/-- Whether the path leads to a file. -/
def isFile : FileContent → Bool
  | .bytes => true
  | .text _ => true
  | _ => false

end FileContent

/-! ## §1. Paths. -/

namespace Path

/-- The parts of a path between its slashes. -/
def parts (path : String) : List String :=
  path.splitOn "/"

/-- Whether a part of a path says nothing: it is empty or a single point. -/
def isIdle (part : String) : Bool :=
  part == "" || part == "."

/-- The path without parts that say nothing. -/
def plain (path : String) : String :=
  (if path.startsWith "/" then "/" else "") ++
    "/".intercalate ((parts path).filter fun part => !isIdle part)

end Path

/-! ## §2. Folders. -/

/-- Files with their contents, each named by the parts of its path. -/
structure Folder where
  /-- The files. -/
  files : List (List String × FileContent)

namespace Folder

/-- The folder that holds files at these paths. -/
def ofFiles (files : List (String × FileContent)) : Folder :=
  ⟨files.map fun (path, content) =>
    ((Path.parts path).filter fun part => !Path.isIdle part, content)⟩

/-- What stands at a place in the folder. -/
def contentAt (folder : Folder) (place : List String) : FileContent :=
  match folder.files.find? (·.1 == place) with
  | some (_, content) => content
  | none =>
    if place.isEmpty || folder.files.any (fun file => place.isPrefixOf file.1) then .folder
    else .missing

/-- Follows the parts of a path from a place, every part but the last leading
through folders. -/
def follow (folder : Folder) : List String → List String → FileContent
  | place, [] => folder.contentAt place
  | place, part :: rest =>
    if folder.contentAt place = .folder then
      if Path.isIdle part then follow folder place rest
      else if part = ".." then
        if place.isEmpty then .missing else follow folder place.dropLast rest
      else follow folder (place ++ [part]) rest
    else .missing

/-- What a path leads to.  Nothing is known outside the folder. -/
def read (folder : Folder) (path : String) : FileContent :=
  if path.isEmpty || path.startsWith "/" then .missing
  else folder.follow [] (Path.parts path)

end Folder

end MarkupShorthand
