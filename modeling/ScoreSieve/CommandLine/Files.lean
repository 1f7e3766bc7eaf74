namespace ScoreSieve.CommandLine

/-- Why a file cannot be read. -/
inductive FileError
  | missing
  | isFolder
  | isNoFolder
  /-- A name on the path, or the path itself, has too many bytes. -/
  | nameTooLong
  /-- The bytes of the file are no text. -/
  | noText
  | other (message : String)
  deriving DecidableEq, Repr

def FileError.message : FileError → String
  | missing => "No such file or directory (os error 2)"
  | isFolder => "Is a directory (os error 21)"
  | isNoFolder => "Not a directory (os error 20)"
  | nameTooLong => "File name too long (os error 36)"
  | noText => "stream did not contain valid UTF-8"
  | other message => message

abbrev FileName :=
  List Char

/-- A folder in a file system of which little else is known. -/
inductive Place
  /-- The folder of the program, or a folder inside it. -/
  | inside (path : List FileName)
  /-- A folder that the folder of the program lies in. -/
  | around
  /-- A folder by its path from the root. -/
  | system (path : List FileName)
  deriving DecidableEq, Repr

/-- The folder that a place lies in. The root lies in itself. -/
def Place.parent : Place → Place
  | inside [] => around
  | inside path => inside path.dropLast
  | around => around
  | system path => system path.dropLast

def systemFolders : List (List FileName) :=
  [["dev"], ["etc"], ["tmp"], ["usr"], ["usr", "bin"], ["usr", "lib"], ["var"], ["var", "tmp"]].map
    (·.map String.toList)

/-- The file that every system has and that holds nothing. -/
def nullDevice : List FileName :=
  ["dev", "null"].map String.toList

/-- The folder of the program: the path and the text of each file in it. -/
structure Folder where
  files : List (String × String)

namespace Folder

def names (path : String) : List FileName :=
  path.toList.splitOn '/'

def file? (folder : Folder) (path : List FileName) : Option String :=
  (folder.files.find? fun file => names file.1 = path).map (·.2)

/-- Holds if a file lies somewhere below the path. -/
def hasFolder (folder : Folder) (path : List FileName) : Bool :=
  folder.files.any fun file =>
    path.isPrefixOf (names file.1) && path.length < (names file.1).length

/-- What a name stands for at a place: the text of a file, or another place. -/
def entry? (folder : Folder) (name : FileName) : Place → Option (String ⊕ Place)
  | .inside path =>
    let path := path ++ [name]
    match folder.file? path with
    | some text => some (.inl text)
    | none => if folder.hasFolder path then some (.inr (.inside path)) else none
  | .around => none
  | .system path =>
    let path := path ++ [name]
    if path = nullDevice then some (.inl "")
    else if path ∈ systemFolders then some (.inr (.system path))
    else none

def nameLimit : Nat :=
  255

def pathLimit : Nat :=
  4095

/-- Follows a path from a place. -/
def follow (folder : Folder) (place : Place) : List FileName → Except FileError String
  | [] => .error .isFolder
  | name :: path =>
    if name = [] ∨ name = ['.'] then follow folder place path
    else if name = ['.', '.'] then follow folder place.parent path
    else if nameLimit < (String.ofList name).utf8ByteSize then .error .nameTooLong
    else
      match folder.entry? name place with
      | some (.inl text) => if path.isEmpty then .ok text else .error .isNoFolder
      | some (.inr place) => follow folder place path
      | none => .error .missing

def read (folder : Folder) (path : String) : Except FileError String :=
  if pathLimit < path.utf8ByteSize then .error .nameTooLong
  else
    match names path with
    | [] :: path => folder.follow (.system []) path
    | path => folder.follow (.inside []) path

end Folder

end ScoreSieve.CommandLine
