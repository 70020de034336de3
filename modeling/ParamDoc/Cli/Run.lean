import ParamDoc.Cli.Arguments
import ParamDoc.Cli.World
import ParamDoc.Dump
import ParamDoc.Format

/-!
# A run of the program

A run decodes a dump, summarizes it and prints the summary. It stops at the first stage that
fails, and prints the summary whole or not at all; what the log shows has no part in that.
-/

namespace ParamDoc.Cli

inductive Failure where
  | unknownFormat (name : String)
  | unreadable (source : Source) (fault : ReadFault)
  | undecodable (source : Source) (fault : Json.Fault)
  | flawed (flaw : Flaw)

namespace Failure

/-- The failure and its causes, each the cause of the one before it. -/
def chain : Failure → List String
  | .unknownFormat name => [Format.unknown name]
  | .unreadable source fault => ["failed to read " ++ source.name, fault.message]
  | .undecodable source fault =>
    ["failed to parse " ++ source.name, (Flaw.undecodable fault).message, fault.message]
  | .flawed flaw => [flaw.message]

def numbered (n : Nat) : List String → List String
  | [] => []
  | cause :: rest => ("    " ++ toString n ++ ": " ++ cause ++ "\n") :: numbered (n + 1) rest

/-- What is printed below a failure: its causes, with numbers if there are several. -/
def causes : List String → String
  | [] => ""
  | [cause] => "\nCaused by:\n    " ++ cause ++ "\n"
  | causes => "\nCaused by:\n" ++ String.join (numbered 0 causes)

def message (f : Failure) : String :=
  match f.chain with
  | [] => ""
  | top :: rest => "Error: " ++ top ++ "\n" ++ causes rest

end Failure

/-- The decoded tree, if the format is known, the source can be read and its text is a dump. -/
def load (w : World) (o : Options) : Except Failure (Format × Node) :=
  match Format.ofName? o.format with
  | none => .error (.unknownFormat o.format)
  | some format =>
    let source := Source.ofFile o.file
    match w.read source with
    | .error fault => .error (.unreadable source fault)
    | .ok text =>
      match Dump.decode text.toList with
      | .error fault => .error (.undecodable source fault)
      | .ok root => .ok (format, root)

def summarize (root : Node) : Query Summary := do
  let unit ← root.as .unit
  Query.report .decoded (.ok (.decoded (TranslationUnit.functions unit).length))
  TranslationUnit.summary unit

def perform (w : World) (o : Options) (shown : Topic → Bool) :
    List Event × Except Failure String :=
  match load w o with
  | .error failure => ([], .error failure)
  | .ok (format, root) =>
    match (summarize root).run shown with
    | (events, .ok summary) => (events, .ok (summary.print format))
    | (events, .error flaw) => (events, .error (.flawed flaw))

structure Outcome where
  code : UInt32
  output : String
  /-- The lines of the log. -/
  log : List String
  /-- What is printed after the log when the run fails. -/
  error : String
deriving DecidableEq

def lines (texts : List String) : String :=
  String.join (texts.map (· ++ "\n"))

def helpText : String :=
  lines
    ["Extract parameter documentation and size annotations from clang JSON AST dumps",
      "",
      "Usage: astdoc [OPTIONS] [FILE]",
      "",
      "Arguments:",
      "  [FILE]  AST dump to read. If omitted or \"-\", reads from stdin",
      "",
      "Options:",
      "  -f, --format <FORMAT>  Output format: text (default), json [default: text]",
      "  -v, --verbose...       Increase log verbosity (-v info, -vv debug, -vvv trace). " ++
        "RUST_LOG wins",
      "  -h, --help             Print help",
      "  -V, --version          Print version"]

def versionText : String :=
  lines ["astdoc 0.1.0"]

def misuseText : String :=
  lines ["error: invalid arguments", "", "Usage: astdoc [OPTIONS] [FILE]", "",
    "For more information, try '--help'."]

/-- What a crash complains about; the place in the program that it names is left out. -/
def crashText : String :=
  lines ["", "thread 'main' panicked"]

/-- Carries out a request. The log is set up before anything else is done for a run. -/
def Request.outcome (w : World) : Request → Outcome
  | .help => ⟨0, helpText, [], ""⟩
  | .version => ⟨0, versionText, [], ""⟩
  | .misuse => ⟨2, "", [], misuseText⟩
  | .run o =>
    match w.filter? o.verbosity with
    | none => ⟨101, "", [], crashText⟩
    | some filter =>
      let (events, result) := perform w o filter.shows
      match result with
      | .ok output => ⟨0, output, events.map Event.line, ""⟩
      | .error failure => ⟨1, "", events.map Event.line, failure.message⟩

def run (w : World) (args : List String) : Outcome :=
  (Request.ofArguments args).outcome w

/-- What is printed to standard error: the log, and then what went wrong. -/
def Outcome.errorOutput (o : Outcome) : String :=
  lines o.log ++ o.error

end ParamDoc.Cli
