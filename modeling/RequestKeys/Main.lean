import RequestKeys.CommandLine

/-!
# The program

Reads its arguments, its environment, its configuration file and standard input, and prints keys.
-/

namespace RequestKeys.Main

/-- The content of a file, if it can be read. -/
def readFile? (name : List Char) : IO (Option (List UInt8)) := do
  try
    return some (← IO.FS.readBinFile (String.ofList name)).toList
  catch _ =>
    return none

/-- A variable that is written as its name, an equals sign and its value. -/
def readVariable? (text : List Char) : Option (List Char × List Char) := Split.cut '=' text

/-- The environment of the process. -/
def readEnvironment : IO Config.Environment := do
  let content ← readFile? "/proc/self/environ".toList
  return (Split.pieces 0 (content.getD [])).filterMap fun octets =>
    readVariable? (Utf8.decode octets)

/-- All of standard input. -/
def readInput : IO (List UInt8) := do
  return (← (← IO.getStdin).readBinToEnd).toList

end RequestKeys.Main

open RequestKeys in
def main (args : List String) : IO UInt32 := do
  let args := args.map String.toList
  match CommandLine.parse? args with
  | none =>
    IO.eprintln "error: invalid command line"
    return 2
  | some options =>
    let content ← match options.config with
      | some name => Main.readFile? name
      | none => pure none
    let outcome :=
      options.run CommandLine.Tools.standard content (← Main.readEnvironment) (← Main.readInput)
    IO.print (String.ofList outcome.output)
    return outcome.exit.toUInt32
