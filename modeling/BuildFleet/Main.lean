import BuildFleet.CommandLine.Session

/-!
# The program

Sessions are held with the files of the machine. There is no network: requests
are not answered, and no store opens.
-/

namespace BuildFleet.CommandLine

/-- Why a file was not read. -/
def faultOf : IO.Error → SystemFault
  | .permissionDenied .. => .permissionDenied
  | .inappropriateType .. => .isDirectory
  | .noFileOrDirectory .. => .notFound
  | _ => .notText

def contentOf (path : String) : IO (Except SystemFault String) :=
  try return .ok (← IO.FS.readFile path)
  catch fault => return .error (faultOf fault)

/-- Hold a session, and tell how it ends. -/
def Session.hold : Session → IO Ending
  | .finish ending => return ending
  | .readFile path go => do (go (← contentOf path)).hold
  | .findSocket _ go => (go false).hold
  | .send _ go => (go .unanswered).hold
  | .openStore _ go => (go false).hold
  | .serve _ => return .success ""

/-- The variables that the program looks at. -/
def variableNames : List String :=
  ["BUILDIT_API_URL", "BUILDIT_API_TOKEN", "BUILDIT_CONFIG", "BUILDIT_DATABASE_URL", "HOSTNAME"]

end BuildFleet.CommandLine

open BuildFleet.CommandLine in
def main (arguments : List String) : IO UInt32 := do
  let values ← variableNames.mapM fun name => return (name, ← IO.getEnv name)
  let ending ← (Session.ofArguments (fun name => (values.lookup name).join) arguments).hold
  IO.print ending.output
  match ending.complaint with
  | some complaint => IO.eprintln complaint
  | none => if ending.exitCode = 2 then IO.eprintln "The arguments are not understood." else pure ()
  return ending.exitCode.toUInt32
