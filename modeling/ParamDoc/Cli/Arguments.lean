/-!
# Command line arguments

`[FILE]`, `-f FORMAT` in several spellings, `-v` any number of times, and requests for help and
for the version, in any order. The arguments are read from left to right, and the first request
or mistake decides.
-/

namespace ParamDoc.Cli

structure Options where
  file : Option String
  format : String
  verbosity : Nat
deriving DecidableEq

inductive Request where
  | run (options : Options)
  | help
  | version
  | misuse
deriving DecidableEq

/-- The options read so far. -/
structure Draft where
  file : Option String
  format : Option String
  verbosity : Nat
deriving DecidableEq

/-- The counter of verbosity flags stays at this value. -/
def maxVerbosity : Nat := 255

namespace Draft

def empty : Draft := ⟨none, none, 0⟩

/-- The options of a run; the format is text if none is given. -/
def options (d : Draft) : Options :=
  ⟨d.file, d.format.getD "text", d.verbosity⟩

def louder (d : Draft) : Draft :=
  { d with verbosity := min (d.verbosity + 1) maxVerbosity }

/-- Only one format may be given. -/
def withFormat? (d : Draft) (format : String) : Option Draft :=
  match d.format with
  | none => some { d with format := some format }
  | some _ => none

/-- Only one file may be given, and its name may not be empty. -/
def withFile? (d : Draft) (file : String) : Option Draft :=
  match d.file with
  | none => if file = "" then none else some { d with file := some file }
  | some _ => none

end Draft

inductive Expecting where
  | anything
  /-- The value of a format option. -/
  | format
  /-- No option, after `--`. -/
  | file
deriving DecidableEq

inductive Progress where
  | next (expecting : Expecting) (draft : Draft)
  | stop (request : Request)
deriving DecidableEq

def Progress.ofDraft? : Option Draft → Progress
  | some d => .next .anything d
  | none => .stop .misuse

/-- Reads the letters after a single dash. A format takes the rest of them, less an equals sign
in front, or else the next argument. -/
def readLetters (d : Draft) : List Char → Progress
  | [] => .next .anything d
  | 'v' :: rest => readLetters d.louder rest
  | 'h' :: _ => .stop .help
  | 'V' :: _ => .stop .version
  | ['f'] => .next .format d
  | 'f' :: '=' :: value => .ofDraft? (d.withFormat? (String.ofList value))
  | 'f' :: value => .ofDraft? (d.withFormat? (String.ofList value))
  | _ => .stop .misuse

/-- Reads the name after two dashes, with the value after an equals sign if there is one. -/
def readLong (d : Draft) (name : String) (value : Option String) : Progress :=
  match name, value with
  | "format", some value => .ofDraft? (d.withFormat? value)
  | "format", none => .next .format d
  | "verbose", none => .next .anything d.louder
  | "help", none => .stop .help
  | "version", none => .stop .version
  | _, _ => .stop .misuse

inductive Shape where
  /-- No option: a value or the name of a file. A lone dash is one. -/
  | plain
  /-- Two dashes and nothing else. -/
  | divider
  | long (name : String) (value : Option String)
  | letters (letters : List Char)
deriving DecidableEq

def Shape.of (arg : String) : Shape :=
  match arg.toList with
  | ['-', '-'] => .divider
  | '-' :: '-' :: rest =>
    match rest.dropWhile (· ≠ '=') with
    | [] => .long (String.ofList rest) none
    | _ :: value => .long (String.ofList (rest.takeWhile (· ≠ '='))) (some (String.ofList value))
  | '-' :: c :: rest => .letters (c :: rest)
  | _ => .plain

def readArgument (expecting : Expecting) (d : Draft) (arg : String) : Progress :=
  match expecting, Shape.of arg with
  | .file, _ =>
    match d.withFile? arg with
    | some d => .next .file d
    | none => .stop .misuse
  | .format, .plain => .ofDraft? (d.withFormat? arg)
  | .format, _ => .stop .misuse
  | .anything, .plain => .ofDraft? (d.withFile? arg)
  | .anything, .divider => .next .file d
  | .anything, .long name value => readLong d name value
  | .anything, .letters letters => readLetters d letters

/-- Reads the arguments from left to right. A format option needs its value. -/
def readArguments (expecting : Expecting) (d : Draft) : List String → Request
  | [] => if expecting = .format then .misuse else .run d.options
  | arg :: rest =>
    match readArgument expecting d arg with
    | .next expecting d => readArguments expecting d rest
    | .stop request => request

def Request.ofArguments (args : List String) : Request :=
  readArguments .anything .empty args

end ParamDoc.Cli
