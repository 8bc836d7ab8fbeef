import RobotMulticam.Lib.Uuid

/-!
# Stream identities

The authenticated content of an `rmc1` stream ID, and the check that a
stream arrives on the port its slot belongs to. `Identity.Signed` has the
signed text; the registry reads it with its `verify` function.
-/

namespace RobotMulticam.Identity

open RobotMulticam.Lib

inductive Role where
  | anchor
  | secondary
  deriving DecidableEq, Repr

inductive VideoCodec where
  | h264
  | h265
  deriving DecidableEq, Repr

inductive IdentityError where
  | tooLong (limit actual : Nat)
  | layout
  | empty (field : String)
  | encoding (field : String)
  | invalid (field : String)
  | authentication
  | portSlotMismatch (expected actual : UInt16)
  | portOverflow
  deriving DecidableEq, Repr

structure StreamIdentity where
  embodimentId : String
  edgeInstanceId : String
  edgeBootId : Uuid
  sessionId : Uuid
  cameraId : String
  slot : UInt16
  epoch : UInt32
  role : Role
  codec : VideoCodec
  deriving DecidableEq

def StreamIdentity.expectedPort (identity : StreamIdentity) (basePort : UInt16) :
    Except IdentityError UInt16 :=
  if basePort.toNat + identity.slot.toNat < 2 ^ 16 then .ok (basePort + identity.slot)
  else .error .portOverflow

def StreamIdentity.validateListenPort (identity : StreamIdentity)
    (basePort actualPort : UInt16) : Except IdentityError Unit := do
  let expected ← identity.expectedPort basePort
  if expected ≠ actualPort then .error (.portSlotMismatch expected actualPort) else .ok ()

end RobotMulticam.Identity
