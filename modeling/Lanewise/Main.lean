import Lanewise.Command.Perform

namespace Lanewise

def readText (path : String) : IO (Except FileFault String) := do
  try
    match String.fromUTF8? (← IO.FS.readBinFile path) with
    | some text => return .ok text
    | none => return .error .notText
  catch
    | .permissionDenied .. => return .error .denied
    | .inappropriateType _ code _ =>
      return .error (if code = 20 then .notDirectory else .isDirectory)
    | .invalidArgument .. => return .error .nameTooLong
    | _ => return .error .notFound

/-- The files of the system, and no log. -/
def host : Host IO := ⟨readText, fun _ => pure ()⟩

end Lanewise

def main (words : List String) : IO UInt32 := do
  let outcome ← Lanewise.Command.execute Lanewise.host words
  IO.print outcome.stdout
  IO.eprint outcome.stderr
  return outcome.exit
