import ScimQuery.Cli.Run

/-! # The command line

The program reads its arguments, answers the host's questions from the machine it runs
on, prints what the run prints and exits with its status. A file that cannot be read as
UTF-8 text is binary; reading a directory, or through a file, fails as the operating
system says.
-/

open ScimQuery

/-- What a path leads to on this machine. -/
def findOnMachine (path : String) : IO Found := do
  try
    let bytes ← IO.FS.readBinFile path
    match String.fromUTF8? bytes with
    | some s => pure (.file (.text s))
    | none => pure (.file .binary)
  catch e =>
    match e with
    | .inappropriateType _ code _ => pure (if code = 21 then .directory else .notDirectory)
    | _ => pure .missing

/-- The machine as the command line asks it. -/
def machine : Host IO := ⟨findOnMachine, fun name => IO.getEnv name⟩

/-- Runs the command line. -/
def main (args : List String) : IO UInt32 := do
  let out ← Cli.run machine args
  IO.print out.stdout
  IO.eprint out.stderr
  pure out.exit.code.toUInt32
