import EventLog.Run
import EventLog.Zone

/-!
# The program

The command line of the library. The paths that a run looks at are read beforehand, so that the run
itself is a function of what was found there. Local time is that of the zone which the environment
describes; where it describes none, it is universal time.
-/

namespace EventLog

def faultOf (path : String) : IO.Error → FileFault
  | .noFileOrDirectory _ code reason => .ofSystem code reason
  | .inappropriateType _ code reason => .ofSystem code reason
  | .permissionDenied _ code reason => .ofSystem code reason
  | .invalidArgument _ code reason =>
      if path.toList.contains '\x00' then .badName else .ofSystem code reason
  | error => .other (toString error)

def readPath (path : String) : IO (String × Except FileFault String) := do
  try
    return (path, textOfBytes (← IO.FS.readBinFile path))
  catch error =>
    return (path, .error (faultOf path error))

/-- The paths that a command line makes a run look at. -/
def pathsOf (words : List String) : List String :=
  match Arguments.parse words with
  | .ok arguments => arguments.paths
  | .error _ => []

/-- The offset of local time, in milliseconds. -/
def localZone : IO Int := do
  let description ← IO.getEnv "TZ"
  return (description.bind fun text => Zone.offset? text.toList).getD 0

end EventLog

open EventLog in
def main (words : List String) : IO UInt32 := do
  let readings ← (pathsOf words).mapM readPath
  let outcome := process words (Files.ofReadings readings) (← localZone)
  IO.print outcome.output
  IO.eprint outcome.errors
  return outcome.exitCode.toUInt32
