import DroneSession.Bytes
import DroneSession.Error

namespace DroneSession

/-!
# Documents in files

A document that cannot be read from its file is a failure of the configuration.
-/

namespace Document

/-- The text of a file, or the reason why there is none. -/
def textOf? (contents : Except StreamFault Bytes) : Except String String :=
  match contents with
  | .error fault => .error fault.text
  | .ok bytes =>
      match bytes.text? with
      | none => .error "stream did not contain valid UTF-8"
      | some text => .ok text

/-- Read a document from a file; `what` names the document in the failure. -/
def load
    {α : Type}
    (what path : String)
    (read : String → Except SessionError α)
    (contents : Except StreamFault Bytes) :
    Except SessionError α :=
  match textOf? contents with
  | .error reason =>
      .error (.configuration ("cannot read " ++ what ++ path ++ ": " ++ reason))
  | .ok text => read text

end Document

end DroneSession
