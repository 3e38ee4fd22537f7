import BlockScope.Arguments

/-!
The command line: prints the contexts of a script file, and the log of a verbose run beside them.
-/

set_option autoImplicit false
set_option relaxedAutoImplicit false

namespace BlockScope

/-- The bytes of a file, if it can be read. -/
def readScript (path : String) : IO (Option ByteArray) := do
  try
    return some (← IO.FS.readBinFile path)
  catch _ =>
    return none

def helpText : String :=
  "usage: [--help] [--line LINE] [--character CHARACTER] [--diagnostics] [--verbose] input\n\n" ++
  "Print the resolved block context of a script file."

/-- Runs the command that the words of a command line give, and returns its exit status. -/
def runWords (words : List String) : IO UInt32 := do
  match CommandLine.ofWords words with
  | .error error =>
    IO.eprintln error.message
    return 2
  | .ok .help =>
    IO.println helpText
    return 0
  | .ok (.run command) =>
    match command.run (← readScript command.path) with
    | .error error =>
      IO.eprintln error.message
      return 1
    | .ok output =>
      output.log.forM fun line ↦ IO.eprintln line
      output.lines.forM fun line ↦ IO.println line
      return 0

end BlockScope

def main (words : List String) : IO UInt32 := BlockScope.runWords words
