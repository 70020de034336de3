import ParamDoc.Text.Quoted

/-!
# Events

What a run reports about its progress besides its result. An event belongs to a topic, which
fixes its level, its target and its wording; a log may show some topics and not others.
-/

namespace ParamDoc

/-- How much an event matters, from the most to the least. -/
inductive Level where
  | error
  | warn
  | info
  | debug
  | trace
deriving DecidableEq

/-- Greater for what matters less. -/
def Level.rank : Level → Nat
  | .error => 1
  | .warn => 2
  | .info => 3
  | .debug => 4
  | .trace => 5

def Level.name : Level → String
  | .error => "ERROR"
  | .warn => "WARN"
  | .info => "INFO"
  | .debug => "DEBUG"
  | .trace => "TRACE"

inductive Topic where
  /-- A dump has been decoded. -/
  | decoded
  /-- A function has several comments. -/
  | extraComments
  /-- A parameter has found the block that documents it. -/
  | paired
  | summarizing
  /-- A text has several size tags. -/
  | extraSizes
deriving DecidableEq

namespace Topic

def level : Topic → Level
  | .decoded => .info
  | .extraComments => .warn
  | .paired => .trace
  | .summarizing => .debug
  | .extraSizes => .debug

/-- The part of the program that the topic belongs to, as log filters name it. -/
def target : Topic → String
  | .decoded => "astdoc"
  | .extraComments => "astdoc::ast::decl"
  | .paired => "astdoc::ast::decl"
  | .summarizing => "astdoc::model"
  | .extraSizes => "astdoc::annotation"

def message : Topic → String
  | .decoded => "decoded translation unit"
  | .extraComments => "function has more than one FullComment, using the first"
  | .paired => "matched @param block"
  | .summarizing => "summarizing"
  | .extraSizes => "multiple size annotations, using the first"

/-- The names of the fields that its events have, as log filters name them. -/
def fieldNames : Topic → List String
  | .decoded => ["message", "functions"]
  | .extraComments => ["message", "function", "count"]
  | .paired => ["message", "parameter"]
  | .summarizing => ["message", "function", "parameter"]
  | .extraSizes => ["message", "size", "ignored"]

end Topic

inductive Event where
  | decoded (functions : Nat)
  | extraComments (function : String) (count : Nat)
  | paired (parameter : String)
  | summarizing (function parameter : String)
  | extraSizes (size : String) (ignored : Nat)
deriving DecidableEq

inductive FieldValue where
  | number (n : Nat)
  /-- A text that a log line shows as it is. -/
  | plain (s : String)
  /-- A text that a log line shows between quotation marks. -/
  | quoted (s : String)
deriving DecidableEq

def FieldValue.written : FieldValue → String
  | .number n => toString n
  | .plain s => s
  | .quoted s => Text.quoted s

namespace Event

def topic : Event → Topic
  | .decoded _ => .decoded
  | .extraComments _ _ => .extraComments
  | .paired _ => .paired
  | .summarizing _ _ => .summarizing
  | .extraSizes _ _ => .extraSizes

def fields : Event → List (String × FieldValue)
  | .decoded functions => [("functions", .number functions)]
  | .extraComments function count => [("function", .plain function), ("count", .number count)]
  | .paired parameter => [("parameter", .quoted parameter)]
  | .summarizing function parameter =>
    [("function", .quoted function), ("parameter", .quoted parameter)]
  | .extraSizes size ignored => [("size", .quoted size), ("ignored", .number ignored)]

/-- The line of a log that shows the event: its level, set to the right of five columns, its
message and its fields. -/
def line (e : Event) : String :=
  let level := e.topic.level.name
  let margin := String.ofList (List.replicate (5 - level.length) ' ')
  let fields := e.fields.map fun (name, value) => " " ++ name ++ "=" ++ value.written
  margin ++ level ++ " " ++ e.topic.message ++ String.join fields

end Event

end ParamDoc
