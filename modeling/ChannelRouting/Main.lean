import ChannelRouting.CommandLine

/-!
# The program

Reads the file named on the command line, runs its configuration once and writes the
log. Messages get random identifiers.
-/

open ChannelRouting

/-- How the program is used. -/
def usage : String := "Usage: configurable-router --config <FILE>"

/-- The content of a file. -/
def readContent (path : String) : IO (Except Config.ReadError (List UInt8)) := do
  try
    return .ok (← IO.FS.readBinFile path).toList
  catch
    | .noFileOrDirectory .. => return .error .missing
    | e => return .error (.other (toString e))

/-- Identifiers that count on from a random one. -/
def randomIds : IO (Nat → Uuid) := do
  let bytes ← IO.getRandomBytes 16
  let base := bytes.toList.foldl (fun n b => n * 256 + b.toNat) 0
  return fun i => Uuid.ofNat (base + i)

/-- Writes lines to the standard error stream. -/
def complain (lines : List String) : IO Unit := do
  for line in lines do IO.eprintln line

def main (args : List String) : IO UInt32 := do
  IO.println (Service.started.line LogValue.text)
  match CommandLine.request args with
  | .misuse =>
    complain [usage]
    return 2
  | .help =>
    IO.println usage
    return 0
  | .run path =>
    match CommandLine.runFile path (← readContent path) (← randomIds) with
    | .failure lines =>
      complain lines
      return 1
    | .success log =>
      for record in log do IO.println (record.line LogValue.text)
      return 0
