import DroneSession.Flight.Command

namespace DroneSession

/-!
# Failures of a session

Every failure is a cause.  Causes are classified by `isFatal`, which ends the worker that meets it,
and `isAbsorbed`, which drops the packet without a word; all others are reported once.
-/

/-- The kinds of failure that reading and writing tell apart. -/
inductive StreamFault.Kind where
  | unexpectedEnd
  | notFound
  | notDirectory
  | isDirectory
  | invalidName
  | invalidInput
  | writeZero
  | other
  deriving Repr, DecidableEq

/-- A failure of a byte source, a byte sink or a file. -/
structure StreamFault where
  kind : StreamFault.Kind
  text : String
  deriving Repr, DecidableEq

/-- Why an operation of a session failed. -/
inductive SessionError where
  | malformedPacket (context details : String)
  | decoderFailure (details : String)
  | workerFault (worker details : String)
  | sinkFailure (context : String) (source : StreamFault)
  | axisConflict (axis : Axis)
  | workerState (worker details : String)
  | configuration (details : String)
  /-- A document could not be read; what the reader says of the fault and its place is left out. -/
  | document
  /-- The autopilot is not bound to a client. -/
  | unbound
  deriving Repr, DecidableEq

namespace SessionError

/-- A stream failure met outside any named activity. -/
def ofStream (fault : StreamFault) : SessionError :=
  .sinkFailure "<unknown>" fault

/-- What a failure tells its reader; that of a document ends where the reader's own words begin. -/
def message : SessionError → String
  | .malformedPacket context details => "Malformed packet in " ++ context ++ ": " ++ details
  | .decoderFailure details => "Video decoder rejected input: " ++ details
  | .workerFault worker details => "Worker '" ++ worker ++ "' handler fault: " ++ details
  | .sinkFailure context source => "Sink I/O failure during " ++ context ++ ": " ++ source.text
  | .axisConflict axis =>
      "Objective has more than one intent driving the " ++ axis.name ++ " axis"
  | .workerState worker details =>
      "Worker '" ++ worker ++ "' is in the wrong state: " ++ details
  | .configuration details => "Invalid configuration: " ++ details
  | .document => "YAML error"
  | .unbound => "Autopilot is not bound to a drone client"

/-- Failures that end the worker in which they arise. -/
def isFatal : SessionError → Bool
  | .sinkFailure .. => true
  | _ => false

/-- Failures that drop one packet or frame and are not reported. -/
def isAbsorbed : SessionError → Bool
  | .malformedPacket .. => true
  | .decoderFailure .. => true
  | _ => false

/-- The stream failure behind a failure, if there is one. -/
def source? : SessionError → Option StreamFault
  | .sinkFailure _ source => some source
  | _ => none

/-- What a user can do about a failure. -/
def suggestions : SessionError → List String
  | .malformedPacket .. =>
      [ "Check the drone firmware emits navdata in demo mode",
        "Verify the recording was produced by this library" ]
  | .decoderFailure .. =>
      [ "Wait for the next keyframe",
        "Check the configured pixel layout matches the decoder" ]
  | .workerFault .. =>
      [ "Inspect the handler for panics",
        "Restart the affected worker" ]
  | .sinkFailure .. =>
      [ "Check the recording path is writable",
        "Ensure sufficient disk space",
        "Verify the recording file is not truncated" ]
  | .axisConflict .. =>
      [ "Split the intents across separate objectives",
        "Use one intent per axis" ]
  | .workerState .. =>
      [ "Call start() exactly once",
        "Follow stop() with join() before restarting" ]
  | .configuration .. | .document =>
      [ "Check the configuration file syntax",
        "Compare against the documented defaults" ]
  | .unbound => ["Call bind_to_client() before emitting commands"]

end SessionError

end DroneSession
