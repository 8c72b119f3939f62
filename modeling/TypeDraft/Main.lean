import TypeDraft.CommandLine.Run

/-!
# The program

What the arguments may name is read from the disk first; then the run is made, and what it printed
and wrote is carried out.
-/

namespace TypeDraft

/-- The paths that an argument may name: itself, what follows an equals sign, and what follows a
short option. -/
def candidatePaths (arg : String) : List String :=
  let cs := arg.toList
  [arg, String.ofList ((cs.dropWhile (· != '=')).drop 1), String.ofList (cs.drop 2)].filter (· ≠ "")

/-- A path after all paths that lead to it. -/
def leading (p : Path) : List Path := (List.range (p.length + 1)).map p.take

/-- What the disk holds at some paths. A path whose reading fails with the code 21 is that of a
directory. -/
def observe (paths : List Path) : IO Files := do
  let mut seen : Files := { files := [] }
  for p in paths do
    match ← (IO.FS.readBinFile p.text).toBaseIO with
    | .ok bytes => seen := { seen with files := (p.resolved, bytes.toList) :: seen.files }
    | .error (.inappropriateType _ 21 _) =>
      seen := { seen with directories := p.resolved :: seen.directories }
    | .error _ => pure ()
  return seen

/-- Writes what a run has written, with the directories that lead there. -/
def carryOut (o : CommandLine.Outcome) : IO Unit := do
  for (p, text) in o.written do
    IO.FS.createDirAll (Path.text p.dropLast)
    IO.FS.writeFile p.text text
  (← IO.getStdout).putStr o.stdout
  (← IO.getStderr).putStr o.stderr

end TypeDraft

open TypeDraft

def main (args : List String) : IO UInt32 := do
  let named := (args ++ ["typegen.yaml"]).flatMap candidatePaths
  let files ← observe (named.flatMap fun s => leading (Path.ofString s)).eraseDups
  let stdin ← if args.contains "-" then (← IO.getStdin).readToEnd else pure ""
  let outcome := CommandLine.run { args, stdin, files }
  carryOut outcome
  return UInt32.ofNat outcome.exitCode
