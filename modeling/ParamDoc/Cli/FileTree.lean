import ParamDoc.Cli.World

/-!
# Files in folders

A tree of folders and files, in which a path is looked up from a working folder. Nothing is
known about what lies outside the tree but that it holds no file.
-/

namespace ParamDoc.Cli

inductive FileTree where
  | file (content : ByteArray)
  | folder (entries : List (List Char × FileTree))

namespace FileTree

def entry? (name : List Char) : List (List Char × FileTree) → Option FileTree
  | [] => none
  | (n, tree) :: rest => if n = name then some tree else entry? name rest

/-- The most bytes that the name of a file or folder has. -/
def longestName : Nat := 255

def longestPath : Nat := 4095

/-- The content of the file at the end of a path. `up` are the folders above, the nearest
first. -/
def find (here : FileTree) (up : List FileTree) :
    List (List Char) → Except ReadFault ByteArray
  | [] =>
    match here with
    | .file content => .ok content
    | .folder _ => .error .isFolder
  | piece :: rest =>
    match here with
    | .file _ => .error .notFolder
    | .folder entries =>
      if piece = [] ∨ piece = ['.'] then find here up rest
      else if piece = ['.', '.'] then find (up.headD (.folder [])) (up.drop 1) rest
      else if longestName < Text.byteLength piece then .error .nameTooLong
      else
        match entry? piece entries with
        | none => .error .notFound
        | some tree => find tree (here :: up) rest

/-- Reads the file with the given path, which starts at the working folder unless its first
character is a slash. -/
def read (working : FileTree) (path : String) : Except ReadFault ByteArray :=
  if longestPath < path.utf8ByteSize then .error .nameTooLong
  else
    match Source.components path with
    | [] :: rest => find (.folder []) [] rest
    | pieces => find working [] pieces

end FileTree

end ParamDoc.Cli
