import StoragePolicy.Fault
import StoragePolicy.Text.Octets

/-!
# Folders

A folder of named files as a value, and what reading a path in it comes to. A
name with slashes lies in a folder of its own, which exists because the file
does. A path is followed one part at a time: an empty part or a dot stays where
it is, two dots go up, and every part but the last has to be a folder. No part
may be longer than a name can be, wherever the path has led by then.

Of what lies around the folder only that much is known which every system has:
the folders at its root, and the null device, which reads as an empty file. The
folders above are known to be folders and nothing else.

## Main definitions

* `Folder`: Named files.
* `Folder.read`: The octets behind a path, or why there are none.
* `asText`: Octets as text.
-/

namespace StoragePolicy

open Text

/-- Named files. -/
structure Folder where
  files : List (String × Octets)

/-- Where a path has led so far. -/
inductive Place where
  /-- A folder of the system, by its parts from the root on. -/
  | system (parts : List (List Char))
  /-- A folder above the given one. -/
  | above
  /-- The given folder or one in it, by its parts. -/
  | folder (parts : List (List Char))
  | file (octets : Octets)

/-- One level up. The root is above itself. -/
def Place.parent : Place → Place
  | .system parts => .system parts.dropLast
  | .folder [] => .above
  | .folder parts => .folder parts.dropLast
  | place => place

/-- The folders that every system has at its root. -/
def rootFolders : List String :=
  ["bin", "boot", "dev", "etc", "home", "lib", "media", "mnt", "opt", "proc", "root", "run",
    "sbin", "srv", "sys", "tmp", "usr", "var"]

/-- What every system has at the given parts from its root on. -/
def locateInSystem (path : List (List Char)) : Option Place :=
  if path = ["dev".toList, "null".toList] then some (.file [])
  else if (rootFolders.map fun name => [name.toList]).contains path then some (.system path)
  else none

namespace Folder

/-- The parts of a path between its slashes. -/
def parts : List Char → List (List Char)
  | [] => [[]]
  | '/' :: rest => [] :: parts rest
  | c :: rest =>
    match parts rest with
    | part :: more => (c :: part) :: more
    | [] => [[c]]

/-- What a list of parts names inside the folder. -/
def locate (folder : Folder) (path : List (List Char)) : Option Place :=
  match folder.files.find? fun file => decide (parts file.1.toList = path) with
  | some file => some (.file file.2)
  | none =>
    if folder.files.any fun file => path.isPrefixOf (parts file.1.toList) then
      some (.folder path)
    else none

/-- What has the given name at a place. -/
def inside (folder : Folder) (place : Place) (part : List Char) : Option Place :=
  match place with
  | .system parts => locateInSystem (parts ++ [part])
  | .folder parts => folder.locate (parts ++ [part])
  | .above | .file _ => none

/-- One part further along a path. -/
def step (folder : Folder) (place : Place) (part : List Char) : Except FileFault Place :=
  match place with
  | .file _ => .error .notFolder
  | _ =>
    if part = [] ∨ part = ['.'] then .ok place
    else if part = ['.', '.'] then .ok place.parent
    else if 255 < (utf8Chars part).length then .error .nameTooLong
    else match folder.inside place part with
      | some place => .ok place
      | none => .error .notFound

/-- The octets behind a path. -/
def read (folder : Folder) (path : String) : Except FileFault Octets := do
  if path.toList.contains '\x00' then throw .nullInName
  if path.isEmpty then throw .notFound
  if 4096 ≤ (utf8 path).length then throw .nameTooLong
  let start := if path.toList.head? = some '/' then Place.system [] else .folder []
  match ← (parts path.toList).foldlM folder.step start with
  | .file octets => return octets
  | _ => throw .isFolder

end Folder

/-- Octets as text. -/
def asText (octets : Octets) : Except FileFault String :=
  match ofUtf8? octets with
  | some s => .ok s
  | none => .error .notUtf8

end StoragePolicy
