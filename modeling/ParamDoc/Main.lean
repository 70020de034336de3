import ParamDoc.Cli.Run

/-!
# The program

Reads what a run needs, and prints what it leaves behind.
-/

namespace ParamDoc.Cli

/-- The code is that of the error with the given number. Some parts of the system negate it. -/
def isError (code number : UInt32) : Bool :=
  code = number || code = 0 - number

def ReadFault.ofError : IO.Error → ReadFault
  | .noFileOrDirectory .. => .notFound
  | .permissionDenied .. => .denied
  | e@(.inappropriateType _ code _) =>
    if isError code 20 then .notFolder
    else if isError code 21 then .isFolder
    else .other (toString e)
  | e@(.invalidArgument _ code _) =>
    if isError code 36 then .nameTooLong else .other (toString e)
  | e => .other (toString e)

def fetch (s : Source) : IO (Except ReadFault ByteArray) := do
  try
    match s with
    | .standardInput => return .ok (← (← IO.getStdin).readBinToEnd)
    | .file path => return .ok (← IO.FS.readBinFile path)
  catch e => return .error (.ofError e)

end ParamDoc.Cli

open ParamDoc ParamDoc.Cli

def main (args : List String) : IO UInt32 := do
  let content ←
    match Request.ofArguments args with
    | .run o =>
      if (Format.ofName? o.format).isSome then fetch (.ofFile o.file)
      else pure (.ok .empty)
    | _ => pure (.ok .empty)
  let world : World :=
    { file := fun _ => content, input := content, logFilter := ← IO.getEnv "RUST_LOG" }
  let outcome := run world args
  (← IO.getStdout).putStr outcome.output
  (← IO.getStderr).putStr outcome.errorOutput
  return outcome.code
