import RobotMulticam.Discovery.Cameras
import RobotMulticam.Lib.Path

/-!
# Which cameras are used

An operator names cameras by selectors: one list of cameras that are not used
at all, one of cameras that are shown but not streamed, and a selector for the
anchor, the camera whose stream carries the metadata.

`evaluate` wants exactly one match for the anchor, which is neither disabled
nor excluded. The edge goes on without an anchor when nothing matches, and only
then.
-/

namespace RobotMulticam.Discovery

open RobotMulticam.Lib
open RobotMulticam.Lib.Text (utf8)

/-- What is used of the `regex` crate. -/
structure RegexEngine (Regex : Type) where
  isMatch : Regex → String → Bool

inductive Selector (Regex : Type) where
  | id (value : String)
  | serial (value : String)
  | path (value : String)
  | name (value : String)
  | nameRegex (regex : Regex)
  | usbPath (value : String)
  deriving DecidableEq

inductive SelectorError where
  | empty
  | unsupported (kind : String)
  | regex (text : String)
  | anchorMissing
  | anchorAmbiguous (stableCameraIds : List String)
  | anchorPolicyConflict
  deriving DecidableEq

namespace Selector

variable {Regex : Type} (engine : RegexEngine Regex)

/-- Paths are compared by their components, everything else as text. -/
def matchesCamera (selector : Selector Regex) (camera : LogicalCamera) : Bool :=
  match selector with
  | .id value => camera.stableCameraId == value
  | .serial value => camera.endpoint.serial == some value
  | .path value =>
    components (utf8 camera.endpoint.devicePath.toList) == components (utf8 value.toList)
  | .name value => camera.endpoint.productName == value
  | .nameRegex regex => engine.isMatch regex camera.endpoint.productName
  | .usbPath value => camera.endpoint.udevIdPath == some value

end Selector

structure CameraPolicy (Regex : Type) where
  disable : List (Selector Regex)
  streamExclude : List (Selector Regex)
  anchor : Selector Regex

structure EvaluatedCamera where
  camera : LogicalCamera
  streamEnabled : Bool
  anchor : Bool
  deriving DecidableEq

namespace CameraPolicy

variable {Regex : Type} (engine : RegexEngine Regex) (policy : CameraPolicy Regex)

def disables (camera : LogicalCamera) : Bool :=
  policy.disable.any (·.matchesCamera engine camera)

def excludes (camera : LogicalCamera) : Bool :=
  policy.streamExclude.any (·.matchesCamera engine camera)

/-- Whether the anchor's selector matches. -/
def selects (camera : LogicalCamera) : Bool := policy.anchor.matchesCamera engine camera

/-- One turn of the loop of `evaluate`: the enabled cameras, and whether a
disabled one was to be the anchor. -/
def collect (state : List EvaluatedCamera × Bool) (camera : LogicalCamera) :
    List EvaluatedCamera × Bool :=
  if policy.disables engine camera then (state.1, state.2 || policy.selects engine camera)
  else (state.1 ++ [⟨camera, !policy.excludes engine camera, false⟩], state.2)

def evaluate (cameras : List LogicalCamera) : Except SelectorError (List EvaluatedCamera) :=
  let (enabled, disabledAnchor) := cameras.foldl (policy.collect engine) ([], false)
  let found := enabled.zipIdx.filter fun entry => policy.selects engine entry.1.camera
  if disabledAnchor then .error .anchorPolicyConflict
  else match found with
    | [] => .error .anchorMissing
    | [(item, anchorIndex)] =>
      if !item.streamEnabled then .error .anchorPolicyConflict
      else .ok (enabled.modify anchorIndex fun item => { item with anchor := true })
    | several => .error (.anchorAmbiguous (several.map (·.1.camera.stableCameraId)))

def evaluateWithoutAnchor (cameras : List LogicalCamera) : List EvaluatedCamera :=
  (cameras.filter fun camera => !policy.disables engine camera).map fun camera =>
    ⟨camera, !policy.excludes engine camera, false⟩

/-- What a turn of the edge goes on with. -/
def evaluateOrDegrade (cameras : List LogicalCamera) :
    Except SelectorError (List EvaluatedCamera) :=
  match policy.evaluate engine cameras with
  | .ok evaluated => .ok evaluated
  | .error .anchorMissing => .ok (policy.evaluateWithoutAnchor engine cameras)
  | .error error => .error error

end CameraPolicy

end RobotMulticam.Discovery
