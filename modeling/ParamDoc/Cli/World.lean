import ParamDoc.Cli.Filter

/-!
# What a run can see

Files, standard input and the log filter in the environment. What stands for standard input is
told from the name of a file alone.
-/

namespace ParamDoc.Cli

inductive ReadFault where
  | notFound
  | isFolder
  | notFolder
  | denied
  | nameTooLong
  | notUnicode
  | other (message : String)
deriving DecidableEq

def ReadFault.message : ReadFault → String
  | .notFound => "No such file or directory (os error 2)"
  | .isFolder => "Is a directory (os error 21)"
  | .notFolder => "Not a directory (os error 20)"
  | .denied => "Permission denied (os error 13)"
  | .nameTooLong => "File name too long (os error 36)"
  | .notUnicode => "stream did not contain valid UTF-8"
  | .other message => message

structure World extends LogSetting where
  file : String → Except ReadFault ByteArray
  input : Except ReadFault ByteArray

inductive Source where
  | standardInput
  | file (path : String)
deriving DecidableEq

namespace Source

/-- The pieces of a path between slashes; `piece` is the piece at hand, latest first. -/
def componentsFrom (piece : List Char) : List Char → List (List Char)
  | [] => [piece.reverse]
  | c :: rest =>
    if c = '/' then piece.reverse :: componentsFrom [] rest else componentsFrom (c :: piece) rest

def components (path : String) : List (List Char) :=
  componentsFrom [] path.toList

/-- The path has a single component, a dash: empty components and dots after it do not count. -/
def isDash (path : String) : Bool :=
  match components path with
  | ['-'] :: rest => rest.all fun piece => piece = [] || piece = ['.']
  | _ => false

/-- Standard input is read if no file is named, or a dash. -/
def ofFile : Option String → Source
  | none => .standardInput
  | some path => if isDash path then .standardInput else .file path

def name : Source → String
  | .standardInput => "stdin"
  | .file path => path

end Source

def World.bytes (w : World) : Source → Except ReadFault ByteArray
  | .standardInput => w.input
  | .file path => w.file path

def World.read (w : World) (s : Source) : Except ReadFault String :=
  match w.bytes s with
  | .error fault => .error fault
  | .ok bytes =>
    match String.fromUTF8? bytes with
    | some text => .ok text
    | none => .error .notUnicode

end ParamDoc.Cli
