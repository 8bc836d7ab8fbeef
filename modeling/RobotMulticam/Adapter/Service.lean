import RobotMulticam.Lib.Dict
import RobotMulticam.Protocol.Messages

/-!
# The shared adapter runtime

`HardwareAdapterService.StreamSamples` turns what a backend reads into device
samples: one block for each feature name of the descriptor. A feature the
backend did not read gets a block without values.

The numbers of Python are the type `δ`, with what the service asks of them.
The counter of the service is shared by all its streams, so other streams may
have advanced it before a turn. A turn that raises an exception ends the
stream; the rate and the sleeping between turns are not modelled.
-/

namespace RobotMulticam.Adapter

open RobotMulticam.Lib
open RobotMulticam.Protocol

/-- What the service does with numbers. -/
structure Numbers (δ : Type) where
  /-- `math.isfinite(value)` -/
  isFinite : δ → Bool
  /-- The `float` a message stores for a number. -/
  toF32 : δ → F32

/-- What a backend read. -/
structure Sample (δ : Type) where
  sourceTimeNs : Nat
  /-- `values.get(name)` -/
  values : String → Option (List δ)

/-- A turn of the loop: how often other streams counted since the last one,
and what the backend then read. -/
structure SampleTurn (δ : Type) where
  others : Nat
  sample : Sample δ

variable {δ : Type}

/-- The features by name; the service keeps their ids. -/
def featuresByName (descriptor : AdapterDescriptor) : List FeatureDescriptor :=
  dict (·.qualifiedName) descriptor.features

def featureBlock (numbers : Numbers δ) (sample : Sample δ) (feature : FeatureDescriptor) :
    FeatureBlock :=
  let values := sample.values feature.qualifiedName
  { featureId := feature.featureId
    -- no values at all for a feature that was not read
    values := (values.getD []).map numbers.toF32
    valid := values.any (·.all numbers.isFinite)
    invalidReason := if values.isSome then "" else "feature unavailable"
    sourceTimeNs := UInt64.ofNat sample.sourceTimeNs }

/-- The message of a turn. There is none without a device, or when a number
does not fit its field: both raise an exception. -/
def deviceSample (numbers : Numbers δ) (descriptor : AdapterDescriptor) (sampleSeq : Nat)
    (sample : Sample δ) : Option DeviceSample :=
  -- all features go out in the name of the first device
  match descriptor.devices.head? with
  | none => none
  | some device =>
    if sampleSeq < 2 ^ 64 ∧ sample.sourceTimeNs < 2 ^ 64 then some {
      adapterInstanceId := descriptor.adapterInstanceId
      deviceId := device.deviceId
      sampleSeq := UInt64.ofNat sampleSeq
      sourceClockId := (descriptor.sourceClock.map (·.sourceClockId)).getD ""
      sourceTimeNs := UInt64.ofNat sample.sourceTimeNs
      featureBlocks := (featuresByName descriptor).map (featureBlock numbers sample)
      descriptorRevision := descriptor.descriptorRevision }
    else none

/-- What a stream yields in its turns, from the given count on. -/
def streamSamples (numbers : Numbers δ) (descriptor : AdapterDescriptor) :
    Nat → List (SampleTurn δ) → List DeviceSample
  | _, [] => []
  | sampleSeq, turn :: turns =>
    match deviceSample numbers descriptor (sampleSeq + turn.others + 1) turn.sample with
    -- the exception aborts the call
    | none => []
    | some message =>
      message :: streamSamples numbers descriptor (sampleSeq + turn.others + 1) turns

end RobotMulticam.Adapter
