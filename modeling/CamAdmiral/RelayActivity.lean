import CamAdmiral.Mapping
import CamAdmiral.Table
import Mathlib.Data.List.Induction
import Mathlib.Data.Rat.Floor

/-!
The monitor of stalled relays. It keeps one sample for each stream that someone watches: the
producer, its packets, and the time at which they were last seen to advance. The sample stands
for the whole history of polls since the stream is watched.
-/

namespace CamAdmiral

/-! What the relay answers. -/

structure RelayConsumer where
  userAgent : Option String
  deriving DecidableEq, Repr

/-- A receiver with the type of its codec, if it has one, and its packets. -/
structure RelayReceiver where
  codecType : Option String
  packets : Option Int
  deriving DecidableEq, Repr

/-- A producer; `id` is the text of an identifier that does not count as false. -/
structure RelayProducer where
  id : Option String
  hasBytes : Bool
  receivers : List (Option RelayReceiver)
  deriving DecidableEq, Repr

/-- A stream; entries that are no objects are `none`. -/
structure RelayStream where
  producers : List (Option RelayProducer)
  consumers : List (Option RelayConsumer)
  deriving DecidableEq, Repr

/-- `SNAPSHOT_USER_AGENT`. -/
def snapshotUserAgent : String := "CamAdmiral-Snapshot"

/-- `_has_external_consumers`. -/
def hasExternalConsumers (stream : Option RelayStream) : Bool :=
  match stream with
  | none => false
  | some stream => stream.consumers.any fun consumer =>
      match consumer with
      | none => true
      | some consumer => consumer.userAgent ≠ some snapshotUserAgent

/-- The packets of the video receivers; `none` where there is none. -/
def videoPackets (receivers : List (Option RelayReceiver)) : Option Int :=
  receivers.foldl (fun packets receiver =>
    match receiver with
    | none => packets
    | some receiver =>
        if receiver.codecType = some "video" then
          some (packets.getD 0 + receiver.packets.getD 0)
        else
          packets) none

/-- `_active_video_sample`. -/
def activeVideoSample (stream : Option RelayStream) : Option (String × Int) :=
  match stream with
  | none => none
  | some stream => stream.producers.findSome? fun producer =>
      match producer with
      | none => none
      | some producer =>
          if producer.hasBytes then
            (videoPackets producer.receivers).map fun packets =>
              (producer.id.getD "producer", packets)
          else
            none

/-! The monitor. -/

structure RuntimeSource where
  streamUuid : String
  streamKey : String
  cameraUuid : String
  deriving DecidableEq, Repr

/-- The sources of one poll, each stream once. -/
structure RuntimeSources where
  sources : List RuntimeSource
  distinct : Unique RuntimeSource.streamUuid sources

structure ActivitySample where
  producer : String
  packets : Int
  lastAdvancedAt : ℚ
  deriving DecidableEq

structure ActivityMonitor where
  samples : String → Option ActivitySample := fun _ => none
  stalledCameraUuids : List String := []

/-- One poll: the sources, the decoded answer of the relay, `none` where it raises, and the
clock. -/
structure ActivityPoll where
  managed : RuntimeSources
  runtime : Option (List (String × Option RelayStream))
  now : ℚ

/-- A first sample, more packets, or packets of another producer. -/
def hasAdvanced (previous : Option ActivitySample) (current : Option (String × Int)) : Bool :=
  match current with
  | none => false
  | some current =>
      match previous with
      | none => true
      | some previous =>
          previous.packets < current.2 || (previous.producer ≠ current.1 && 0 < current.2)

/-- The new sample of a watched stream. -/
def nextSample (previous : Option ActivitySample) (current : Option (String × Int)) (now : ℚ) :
    ActivitySample :=
  let lastAdvancedAt :=
    if hasAdvanced previous current then now
    else (previous.map ActivitySample.lastAdvancedAt).getD now
  let kept := current.getD
    ((previous.map fun previous : ActivitySample => (previous.producer, previous.packets)).getD
      ("", 0))
  ⟨kept.1, kept.2, lastAdvancedAt⟩

/-- What the loop over the sources has gathered. -/
structure PollProgress where
  samples : String → Option ActivitySample
  active : List String := []
  stalled : List String := []

def runtimeStream (runtime : List (String × Option RelayStream)) (key : String) :
    Option RelayStream := (runtime.lookup key).join

/-- The body of the loop. -/
def pollSource (threshold : ℚ) (runtime : List (String × Option RelayStream)) (now : ℚ)
    (progress : PollProgress) (source : RuntimeSource) : PollProgress :=
  let stream := runtimeStream runtime source.streamKey
  if hasExternalConsumers stream then
    let sample := nextSample (progress.samples source.streamUuid) (activeVideoSample stream) now
    {
      samples := Function.update progress.samples source.streamUuid (some sample)
      active := progress.active ++ [source.streamUuid]
      stalled :=
        if threshold ≤ now - sample.lastAdvancedAt then progress.stalled ++ [source.cameraUuid]
        else progress.stalled }
  else
    progress

/-- `poll`; the answer is `none` where it raises. -/
def ActivityMonitor.poll (threshold : ℚ) (monitor : ActivityMonitor) (poll : ActivityPoll) :
    ActivityMonitor × Option (List String) :=
  if poll.managed.sources = [] then ({}, some [])
  else
    match poll.runtime with
    | none => (monitor, none)
    | some runtime =>
        let progress := poll.managed.sources.foldl
          (pollSource (max 0 threshold) runtime poll.now) { samples := monitor.samples }
        ({
          samples := fun streamUuid =>
            if streamUuid ∈ progress.active then progress.samples streamUuid else none
          stalledCameraUuids := progress.stalled }, some progress.stalled)

def ActivityMonitor.after (threshold : ℚ) (monitor : ActivityMonitor)
    (polls : List ActivityPoll) : ActivityMonitor :=
  polls.foldl (fun monitor poll => (monitor.poll threshold poll).1) monitor

/-! What a history of polls shows of a stream. -/

/-- The poll returns. -/
def ActivityPoll.answered (poll : ActivityPoll) : Bool :=
  poll.managed.sources = [] || poll.runtime.isSome

/-- The sample of a stream that has external consumers in the poll; the sample may be missing. -/
def ActivityPoll.observed (poll : ActivityPoll) (streamUuid : String) :
    Option (Option (String × Int)) :=
  (rowAt RuntimeSource.streamUuid poll.managed.sources streamUuid).bind fun source =>
    let stream := runtimeStream (poll.runtime.getD []) source.streamKey
    if hasExternalConsumers stream then some (activeVideoSample stream) else none

end CamAdmiral
