import Mathlib.Data.List.Sort
import CamAdmiral.TextCore

/-!
The device inventory and its reconciliation with the observations of one scan. All
executable definitions live here; the matching, stability and conflict theorems are in
the modules that import it.

A missing field, a null and an empty string read the same in the source (`get(..) or ""`),
so a text field is a `String` whose empty value stands for all three where nothing tells
them apart, and an `Option` where something does.
-/

namespace CamAdmiral

inductive StableKey
  | mac (address : String)
  | onvif (endpointReference : String)
  deriving DecidableEq, Repr

inductive Status
  | online
  | offline
  deriving DecidableEq, Repr

inductive ServiceStatus
  | available
  | unavailable
  deriving DecidableEq, Repr

structure Onvif where
  endpointReference : Option String
  serviceUrls : List String := []
  scopes : List String := []
  types : List String := []
  name : Option String := none
  model : Option String := none
  deriving DecidableEq, Repr

structure RtspEndpoint where
  port : Nat
  url : String
  deriving DecidableEq, Repr

/-- What a scan and the inventory both say about a device. -/
structure Sighting where
  ip : String
  mac : Option String := none
  onvif : Option Onvif := none
  rtsp : List RtspEndpoint := []
  deriving DecidableEq, Repr

/-- One scan result, with exactly the fields `merge_discovery` gives it. -/
structure Observation extends Sighting where
  displayName : String
  deriving DecidableEq, Repr

structure Device extends Sighting where
  candidateUuid : String
  displayName : Option String := none
  status : Option Status := none
  serviceStatus : Option ServiceStatus := none
  firstSeen : Option String := none
  lastSeen : Option String := none
  lastServiceSeen : Option String := none
  missedScans : Nat := 0
  identityConflict : Bool := false
  identityConflictReason : Option String := none
  deriving DecidableEq, Repr

def candidates (devices : List Device) : List String := devices.map (·.candidateUuid)

section
variable [TextCase]

/-- `str(value or "").strip().lower()`. -/
def normalized (value : Option String) : String := TextCase.lower (strip (textOf value))

theorem normalized_none : normalized none = "" := TextCase.lower_empty

def onvifKey (device : Sighting) : Option StableKey :=
  let endpointReference := normalized (device.onvif.bind Onvif.endpointReference)
  if endpointReference = "" then none else some (.onvif endpointReference)

def macKey (device : Sighting) : Option StableKey :=
  let mac := normalized device.mac
  if mac = "" then none else some (.mac mac)

def stableKeys (device : Sighting) : List StableKey :=
  (macKey device).toList ++ (onvifKey device).toList

/-! Conflict annotation. -/

/-- How many of the devices own the key; no device lists one key twice. -/
def ownerCount (devices : List Device) (key : StableKey) : Nat :=
  devices.countP fun device => key ∈ stableKeys device.toSighting

def conflictLabel : StableKey → String
  | .mac _ => "MAC address"
  | .onvif _ => "ONVIF identity"

/-- `sorted(set(labels))`: the two labels in alphabetical order. -/
def conflictLabels (devices : List Device) (device : Device) : List String :=
  ((stableKeys device.toSighting).filter fun key => 1 < ownerCount devices key).map conflictLabel

def annotateConflict (devices : List Device) (device : Device) : Device :=
  let labels := conflictLabels devices device
  { device with
    identityConflict := !labels.isEmpty
    identityConflictReason :=
      if labels.isEmpty then none else some ("Duplicate " ++ " and ".intercalate labels) }

def annotateIdentityConflicts (devices : List Device) : List Device :=
  devices.map (annotateConflict devices)

/-! Matching one scan against the previous inventory. Indices are positions in `previous`. -/

def previousStableIndices (previous : List Device) (key : StableKey) : List Nat :=
  (previous.zipIdx.filter fun (device, _) => key ∈ stableKeys device.toSighting).map Prod.snd

/-- `ip_index`, which keeps the first device of an address. -/
def ipIndex (previous : List Device) (address : String) : Option Nat :=
  if address = "" then none else previous.findIdx? fun device => device.ip = address

def currentStableCount (current : List Observation) (key : StableKey) : Nat :=
  (current.flatMap fun device => stableKeys device.toSighting).count key

def stableIndex (previous : List Device) (current : List Observation) (key : StableKey) :
    Option Nat :=
  match previousStableIndices previous key with
  | [index] => if currentStableCount current key = 1 then some index else none
  | _ => none

/-- The previous index for one observation, given the indices already taken. -/
def previousIndex (previous : List Device) (current : List Observation) (taken : List Nat)
    (observation : Observation) : Option Nat :=
  let free (index : Option Nat) := index.filter fun candidate => candidate ∉ taken
  let byKey (key : Option StableKey) := free (key.bind (stableIndex previous current))
  byKey (onvifKey observation.toSighting) <|> byKey (macKey observation.toSighting) <|>
    if stableKeys observation.toSighting = [] then
      free (ipIndex previous observation.ip)
    else
      none

def matchFrom (previous : List Device) (current : List Observation) :
    List Nat → List Observation → List (Option Nat)
  | _, [] => []
  | taken, observation :: rest =>
      let found := previousIndex previous current taken observation
      found :: matchFrom previous current (found.toList ++ taken) rest

/-- The previous index of every observation, in scan order. -/
def matchObservations (previous : List Device) (current : List Observation) :
    List (Option Nat) :=
  matchFrom previous current [] current

/-! Merging. `fresh` is the value `uuid.uuid4()` returns if it is called here. -/

def mergeOnline (previous : Option Device) (current : Observation) (seenAt fresh : String) :
    Device :=
  let known := previous.filter fun device => device.ip = current.ip
  { ip := current.ip
    mac := current.mac
    onvif := current.onvif <|> known.bind (·.onvif)
    rtsp := if current.rtsp.isEmpty then (known.map (·.rtsp)).getD [] else current.rtsp
    displayName :=
      if current.displayName = current.ip then
        (known.bind fun device => device.displayName.filter (· ≠ "")) <|> some current.displayName
      else
        some current.displayName
    candidateUuid := ((previous.map (·.candidateUuid)).filter (· ≠ "")).getD fresh
    status := some .online
    serviceStatus := some .available
    firstSeen := some ((previous.bind (·.firstSeen)).getD seenAt)
    lastSeen := some seenAt
    lastServiceSeen := some seenAt
    missedScans := 0
    identityConflict := (previous.map (·.identityConflict)).getD false
    identityConflictReason := previous.bind (·.identityConflictReason) }

def keptUuid (old : Device) (fresh : String) : String :=
  if old.candidateUuid = "" then fresh else old.candidateUuid

def markNetworkOnly (old : Device) (seenAt fresh : String) : Device :=
  { old with
    candidateUuid := keptUuid old fresh
    status := some .online
    serviceStatus := some .unavailable
    firstSeen := some (old.firstSeen.getD (old.lastSeen.getD seenAt))
    lastSeen := some seenAt
    lastServiceSeen := old.lastServiceSeen.filter (· ≠ "") <|> old.lastSeen
    missedScans := 0 }

def markOffline (old : Device) (seenAt fresh : String) : Device :=
  { old with
    candidateUuid := keptUuid old fresh
    status := some .offline
    firstSeen := some (old.firstSeen.getD (old.lastSeen.getD seenAt))
    lastSeen := some (old.lastSeen.getD seenAt)
    missedScans := old.missedScans + 1 }

def markUnobserved (reachable : List String) (old : Device) (seenAt fresh : String) : Device :=
  if old.ip ∈ reachable then markNetworkOnly old seenAt fresh else markOffline old seenAt fresh

/-! Display order: online devices first, then by folded name. -/

def displayKey (device : Device) : Bool × String :=
  (device.status != some .online,
    TextCase.lower ((device.displayName.filter (· ≠ "")).getD device.ip))

def displayBefore (first second : Device) : Prop :=
  (displayKey first).1 < (displayKey second).1 ∨
    ((displayKey first).1 = (displayKey second).1 ∧ (displayKey first).2 ≤ (displayKey second).2)

instance : DecidableRel displayBefore := fun _ _ => inferInstanceAs (Decidable (_ ∨ _))

/-- `sorted(.., key=..)`, which is stable. -/
def displayOrder (devices : List Device) : List Device := devices.insertionSort displayBefore

/-- The entries of the observations and of the devices none of them matched, before the
conflicts are annotated. `uuids index` is what `uuid.uuid4()` returns for the observation
at `index`, and from `current.length` on for the previous device behind it. -/
def reconciledEntries (previous : List Device) (current : List Observation) (seenAt : String)
    (reachable : List String) (uuids : Nat → String) : List Device :=
  let found := matchObservations previous current
  let observed := (current.zip found).zipIdx.map fun ((observation, index), position) =>
    mergeOnline (index.bind (previous[·]?)) observation seenAt (uuids position)
  let unobserved := (previous.zipIdx.filter fun (_, index) => some index ∉ found).map
    fun (old, index) => markUnobserved reachable old seenAt (uuids (current.length + index))
  observed ++ unobserved

def reconcileInventory (previous : List Device) (current : List Observation) (seenAt : String)
    (reachable : List String) (uuids : Nat → String) : List Device :=
  displayOrder (annotateIdentityConflicts
    (reconciledEntries previous current seenAt reachable uuids))

/-! Scans of selected subnets. -/

def observedKeys (current : List Observation) : List StableKey :=
  current.flatMap fun device => stableKeys device.toSighting

/-- A selected subnet covers the device's address, or the scan saw one of its keys. -/
def inEvidence (networks : List Ipv4Network) (current : List Observation) (device : Device) :
    Bool :=
  (match ipv4Address device.ip with
    | some address => networks.any (·.contains address)
    | none => false) ||
  (stableKeys device.toSighting).any (· ∈ observedKeys current)

/-- `none` is the `ValueError` of an invalid subnet. -/
def reconcileScannedSubnets (previous : List Device) (current : List Observation)
    (seenAt : String) (subnets reachable : List String) (uuids : Nat → String) :
    Option (List Device) := do
  let networks ← subnets.mapM ipv4Network
  let targeted := previous.filter (inEvidence networks current)
  let untouched := previous.filter fun device => !inEvidence networks current device
  let reconciled := reconcileInventory targeted current seenAt reachable uuids
  pure (displayOrder (annotateIdentityConflicts (untouched ++ reconciled)))

end

structure InventorySummary where
  devices : Nat
  online : Nat
  offline : Nat
  onvif : Nat
  rtsp : Nat
  servicesUnavailable : Nat
  conflicts : Nat
  deriving DecidableEq, Repr

def inventorySummary (devices : List Device) : InventorySummary where
  devices := devices.length
  online := devices.countP fun device => device.status = some .online
  offline := devices.countP fun device => device.status = some .offline
  onvif := devices.countP fun device => device.onvif.isSome
  rtsp := devices.countP fun device => !device.rtsp.isEmpty
  servicesUnavailable := devices.countP fun device =>
    device.status = some .online && device.serviceStatus = some .unavailable
  conflicts := devices.countP (·.identityConflict)

end CamAdmiral
