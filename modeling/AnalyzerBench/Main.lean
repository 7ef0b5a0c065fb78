import AnalyzerBench.Command.Tool

/-!
# The command line

The first argument names the tool; the others are its own.
-/

namespace AnalyzerBench

open Command

/-- The text of a file. -/
def readText (path : String) : IO (Except ReadFault String) := do
  try
    match String.fromUTF8? (← IO.FS.readBinFile path) with
    | some text => return .ok text
    | none => return .error .notUtf8
  catch
    | .noFileOrDirectory .. => return .error .notFound
    | .inappropriateType _ code _ => return .error (if code == 21 then .isADirectory else .notADirectory)
    | e => throw e

/-- The name of a level at the start of a line of the log. -/
def levelName : Level → String
  | .debug => "[DEBUG] "
  | .info => "[INFO] "
  | .warn => "[WARN] "

/-- Prints what a tool printed, logged and reported, and returns its status. -/
def deliver (o : Outcome) : IO UInt32 := do
  for e in o.log do
    IO.eprintln (levelName e.level ++ e.message)
  for report in o.chain do
    IO.eprintln ("Error: " ++ report)
  IO.print o.stdout
  return o.exit.toUInt32

/-- Does what a tool is asked for. -/
def serve (r : Request) : IO UInt32 := do
  let content ← match r.file? with
    | some path => readText path
    | none => pure (.ok "")
  let o := r.outcome content
  match r.file?, o.replacement with
  | some path, some text => IO.FS.writeFile path text
  | _, _ => pure ()
  deliver o

end AnalyzerBench

open AnalyzerBench Command in
def main (arguments : List String) : IO UInt32 := do
  match arguments with
  | name :: arguments =>
    match Tool.ofName? name with
    | some tool =>
      match tool.asked arguments with
      | .request r => serve r
      | .help => deliver (.printing tool.help)
      | .version => deliver (.printing Tool.version)
      | .usageFault =>
        IO.eprintln "error: wrong arguments"
        return 2
    | none =>
      IO.eprintln "error: unknown tool"
      return 2
  | [] =>
    IO.eprintln "error: no tool given"
    return 2
