import AccessPolicy.Command.Run
import AccessPolicy.Time.ZoneTable

namespace AccessPolicy.Command

def readFile (path : String) : IO (Except FileFault String) := do
  try
    return .ok (← IO.FS.readFile path)
  catch
    | .noFileOrDirectory _ _ _ => return .error .missing
    | .permissionDenied _ _ _ => return .error (.system "Permission denied" 13)
    | .inappropriateType _ _ _ => return .error (.system "Is a directory" 21)
    | e => return .error (.system (toString e) 5)

def eventLine (format : LogFormat) (e : Log.Event) : String :=
  match format with
  | .pretty => e.line
  | .json => e.toJson.compact

end AccessPolicy.Command

open AccessPolicy Command ZoneTable in
def main (words : List String) : IO UInt32 := do
  let outcome ← run readFile words
  let started ← IO.monoNanosNow
  let trial := outcome ⟨0⟩
  let exit := trial.exit
  let took ← if exit = 0 then (· - started) <$> IO.monoNanosNow else pure 0
  let result := outcome ⟨took⟩
  for e in result.events do
    IO.eprintln (eventLine result.format e)
  IO.print result.out
  for l in result.err do
    IO.eprintln l
  return exit.toUInt32
