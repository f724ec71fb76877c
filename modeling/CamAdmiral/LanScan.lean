import CamAdmiral.InventoryRescan
import CamAdmiral.NetworkSettings
import CamAdmiral.ScannerCore
import Mathlib.Data.List.Dedup

/-!
A scan of the local networks: the merge of what ONVIF, RTSP and the ARP table show, and the
check of known devices that answer a ping although no service of theirs was found. The check
confirms an address by the MAC of one record; the reconciliation keeps every unmatched record
at a confirmed address online.
-/

namespace CamAdmiral

/-- What the scanners of one `scan_lan` found. `completed` are the interfaces whose check of
the known devices did not raise, in order of completion; `arp` is the table read at the end. -/
structure LanSweep where
  onvif : List (String × Onvif) := []
  rtsp : List (String × List RtspEndpoint) := []
  arp : List (String × String) := []
  completed : List LanInterface := []
  answers : String → Bool := fun _ => false
  completedAt : String

/-- `sorted(.., key=ipaddress.ip_address)` on IPv4 addresses. -/
def addressOrder {α : Type} (address : α → String) (items : List α) : List α :=
  items.insertionSort fun first second =>
    (ipv4Address (address first)).getD 0 ≤ (ipv4Address (address second)).getD 0

def mergeDiscovery (onvif : List (String × Onvif)) (rtsp : List (String × List RtspEndpoint))
    (arp : List (String × String)) : List Observation :=
  let addresses := (onvif.map Prod.fst ++ rtsp.map Prod.fst).foldl addValue []
  addressOrder (·.ip) (addresses.map fun address =>
    let device := onvif.reverse.lookup address
    { ip := address
      mac := arp.lookup address
      onvif := device
      rtsp := (rtsp.reverse.lookup address).getD []
      displayName := ((device.bind (·.name)).filter (· ≠ "") <|>
        (device.bind (·.model)).filter (· ≠ "")).getD address })

/-- A merged device is at an address that a scanner reported. -/
theorem mergeDiscovery_address {onvif : List (String × Onvif)}
    {rtsp : List (String × List RtspEndpoint)} {arp : List (String × String)}
    {device : Observation} (member : device ∈ mergeDiscovery onvif rtsp arp) :
    device.ip ∈ onvif.map Prod.fst ∨ device.ip ∈ rtsp.map Prod.fst := by
  simp only [mergeDiscovery, addressOrder, List.mem_insertionSort, List.mem_map] at member
  obtain ⟨address, listed, rfl⟩ := member
  rw [mem_foldl_addValue, List.mem_append] at listed
  exact listed.resolve_left List.not_mem_nil

/-- Whether `discover_reachable_known` checks the device's address. -/
def checkedBy (interface : LanInterface) (device : Device) : Bool :=
  textOf device.mac ≠ "" &&
    match ipv4Address device.ip with
    | some address => interface.network.contains address && address ≠ interface.address
    | none => false

def discoverReachableKnown (interface : LanInterface) (known : List Device)
    (answers : String → Bool) : List String :=
  let targets := addressOrder id ((known.filter (checkedBy interface)).map (·.ip)).dedup
  targets.filter answers

/-- `known_by_ip`: the last device at the address. -/
def knownByIp (known : List Device) (address : String) : Option Device :=
  known.reverse.find? (·.ip = address)

section
variable [TextCase]

def expectedMac (known : List Device) (address : String) : String :=
  TextCase.lower (textOf ((knownByIp known address).bind (·.mac)))

def observedMac (arp : List (String × String)) (address : String) : String :=
  TextCase.lower (textOf (arp.lookup address))

def scanLan (known : List Device) (sweep : LanSweep) : ScanResult where
  devices := mergeDiscovery sweep.onvif sweep.rtsp sweep.arp
  completedAt := sweep.completedAt
  reachableKnown := (sweep.completed.flatMap fun interface =>
    discoverReachableKnown interface known sweep.answers).filter fun address =>
      expectedMac known address ≠ "" && observedMac sweep.arp address = expectedMac known address

/-- A scan without subnets. -/
def fullScan (previous : List Device) (sweep : LanSweep) (uuids : Nat → String) : List Device :=
  let result := scanLan previous sweep
  reconcileInventory previous result.devices result.completedAt result.reachableKnown uuids

/-! The devices kept online. -/

/-- A previous device that no observation of the scan matched. -/
def Unobserved (previous : List Device) (sweep : LanSweep) (index : Nat) (old : Device) : Prop :=
  previous[index]? = some old ∧
    some index ∉ matchObservations previous (scanLan previous sweep).devices

/-- The entry of such a device in the new inventory. -/
def unobservedEntry (previous : List Device) (sweep : LanSweep) (uuids : Nat → String)
    (index : Nat) (old : Device) : Device :=
  let result := scanLan previous sweep
  annotateConflict
    (reconciledEntries previous result.devices result.completedAt result.reachableKnown uuids)
    (markUnobserved result.reachableKnown old result.completedAt
      (uuids (result.devices.length + index)))

/-- The ARP table has the MAC of the device for its address. -/
def HasArpMac (arp : List (String × String)) (device : Sighting) : Prop :=
  foldedMac device ≠ "" ∧ foldedMac device = observedMac arp device.ip

/-- An unmatched device is online only with its own MAC, and no other one at its address is. -/
structure RightDeviceOnline (previous : List Device) (sweep : LanSweep) (uuids : Nat → String) :
    Prop where
  mac : ∀ index old, Unobserved previous sweep index old →
    (unobservedEntry previous sweep uuids index old).status = some .online →
    HasArpMac sweep.arp (unobservedEntry previous sweep uuids index old).toSighting
  once : ∀ first second old other, Unobserved previous sweep first old →
    Unobserved previous sweep second other →
    (unobservedEntry previous sweep uuids first old).status = some .online →
    (unobservedEntry previous sweep uuids second other).status = some .online →
    (unobservedEntry previous sweep uuids first old).ip =
      (unobservedEntry previous sweep uuids second other).ip → first = second

/-- The address answers for a device with a MAC, and the last record at it has the MAC of the
ARP table. -/
structure Confirmed (previous : List Device) (sweep : LanSweep) (address : String) : Prop where
  checked : ∃ interface ∈ sweep.completed, ∃ device ∈ previous,
    device.ip = address ∧ checkedBy interface device = true
  answers : sweep.answers address = true
  named : expectedMac previous address ≠ ""
  same : observedMac sweep.arp address = expectedMac previous address

/-- An unmatched record at a confirmed address has the MAC of the last record there, and no
other unmatched record is at that address. -/
structure ConfirmedAlone (previous : List Device) (sweep : LanSweep) : Prop where
  mac : ∀ index old, Unobserved previous sweep index old → Confirmed previous sweep old.ip →
    foldedMac old.toSighting = expectedMac previous old.ip
  alone : ∀ first second old other, Unobserved previous sweep first old →
    Unobserved previous sweep second other → old.ip = other.ip →
    Confirmed previous sweep old.ip → first = second

theorem mem_reachableKnown {previous : List Device} {sweep : LanSweep} {address : String} :
    address ∈ (scanLan previous sweep).reachableKnown ↔ Confirmed previous sweep address := by
  simp only [scanLan, discoverReachableKnown, addressOrder, List.mem_filter, List.mem_flatMap,
    List.mem_insertionSort, List.mem_dedup, List.mem_map, Bool.and_eq_true, decide_eq_true_eq]
  constructor
  · rintro ⟨⟨interface, completed, ⟨device, ⟨member, checked⟩, isAddress⟩, answers⟩, named, same⟩
    exact ⟨⟨interface, completed, device, member, isAddress, checked⟩, answers, named, same⟩
  · rintro ⟨⟨interface, completed, device, member, isAddress, checked⟩, answers, named, same⟩
    exact ⟨⟨interface, completed, ⟨device, ⟨member, checked⟩, isAddress⟩, answers⟩, named, same⟩

theorem unobservedEntry_listed {previous : List Device} {sweep : LanSweep}
    (uuids : Nat → String) {index : Nat} {old : Device}
    (unobserved : Unobserved previous sweep index old) :
    unobservedEntry previous sweep uuids index old ∈ fullScan previous sweep uuids := by
  apply mem_reconcileInventory
  simp only [reconciledEntries]
  apply List.mem_append_right
  refine List.mem_map.mpr ⟨(old, index), List.mem_filter.mpr ⟨?_, ?_⟩, rfl⟩
  · exact List.mem_zipIdx_iff_getElem?.mpr unobserved.1
  · exact decide_eq_true unobserved.2

theorem unobservedEntry_sighting (previous : List Device) (sweep : LanSweep)
    (uuids : Nat → String) (index : Nat) (old : Device) :
    (unobservedEntry previous sweep uuids index old).toSighting = old.toSighting := by
  simp only [unobservedEntry, annotateConflict, markUnobserved]
  split <;> rfl

theorem unobservedEntry_online {previous : List Device} {sweep : LanSweep}
    {uuids : Nat → String} {index : Nat} {old : Device} :
    (unobservedEntry previous sweep uuids index old).status = some .online ↔
      Confirmed previous sweep old.ip := by
  rw [← mem_reachableKnown]
  simp only [unobservedEntry, annotateConflict, markUnobserved]
  split
  · rename_i reachable
    exact ⟨fun _ => reachable, fun _ => rfl⟩
  · rename_i unreachable
    constructor
    · intro online
      cases online
    · intro reachable
      exact absurd reachable unreachable

theorem right_device_online_iff (previous : List Device) (sweep : LanSweep)
    (uuids : Nat → String) :
    (∀ index old, Unobserved previous sweep index old →
        unobservedEntry previous sweep uuids index old ∈ fullScan previous sweep uuids) ∧
      (RightDeviceOnline previous sweep uuids ↔ ConfirmedAlone previous sweep) := by
  refine ⟨fun _ _ => unobservedEntry_listed uuids, ?_⟩
  have address (index : Nat) (old : Device) :
      (unobservedEntry previous sweep uuids index old).ip = old.ip :=
    congrArg Sighting.ip (unobservedEntry_sighting previous sweep uuids index old)
  constructor
  · intro right
    constructor
    · intro index old unobserved confirmed
      have arp := right.mac index old unobserved (unobservedEntry_online.mpr confirmed)
      rw [unobservedEntry_sighting] at arp
      exact arp.2.trans confirmed.same
    · intro first second old other isFirst isSecond sameAddress confirmed
      apply right.once first second old other isFirst isSecond
      · exact unobservedEntry_online.mpr confirmed
      · exact unobservedEntry_online.mpr (sameAddress ▸ confirmed)
      · rw [address, address, sameAddress]
  · intro apart
    constructor
    · intro index old unobserved online
      have confirmed := unobservedEntry_online.mp online
      have mac := apart.mac index old unobserved confirmed
      rw [unobservedEntry_sighting]
      exact ⟨by rw [mac]; exact confirmed.named, mac.trans confirmed.same.symm⟩
    · intro first second old other isFirst isSecond online _ sameAddress
      rw [address, address] at sameAddress
      exact apart.alone first second old other isFirst isSecond sameAddress
        (unobservedEntry_online.mp online)

end

/-! The device that left an address and the one that took it over. -/

def takenOverSweep : LanSweep where
  completed := [⟨"eth0", 3232235786, ⟨3232235776, 24⟩, ⟨by decide, by decide⟩, true⟩]
  arp := [("192.168.1.20", "aa:aa:aa:aa:aa:aa")]
  answers := fun address => address = "192.168.1.20"
  completedAt := "t2"

def takenOverDevice (uuid mac : String) (status : Status) : Device where
  ip := "192.168.1.20"
  mac := some mac
  candidateUuid := uuid
  status := some status

/-- Both records at the address stay online, although one has another MAC. -/
theorem taken_over_address_online :
    ¬ ∀ (_ : TextCase) (previous : List Device) (sweep : LanSweep) (uuids : Nat → String),
      RightDeviceOnline previous sweep uuids := by
  let _ := asciiCase
  intro always
  let previous := [takenOverDevice "b" "bb:bb:bb:bb:bb:bb" .online,
    takenOverDevice "a" "aa:aa:aa:aa:aa:aa" .offline]
  have right := always asciiCase previous takenOverSweep fun _ => ""
  have unmatched : Unobserved previous takenOverSweep 0
      (takenOverDevice "b" "bb:bb:bb:bb:bb:bb" .online) :=
    ⟨rfl, by decide +kernel⟩
  have online : (unobservedEntry previous takenOverSweep (fun _ => "") 0
      (takenOverDevice "b" "bb:bb:bb:bb:bb:bb" .online)).status = some .online := by
    decide +kernel
  have same := (right.mac _ _ unmatched online).2
  exact absurd same (by decide +kernel)

end CamAdmiral
