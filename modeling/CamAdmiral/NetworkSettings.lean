import CamAdmiral.Mapping
import CamAdmiral.NetworkText

/-!
The networks to scan: what a save stores of the selected and the custom subnets, and which
subnets a later reading selects among the networks that are connected by then. A network that
was left out stays out unless the two moments classify it differently.
-/

namespace CamAdmiral

structure LanInterface where
  name : String
  address : Nat
  network : Ipv4Network
  valid : network.Valid
  directlyConnected : Bool := true
  deriving DecidableEq

inductive NetworkSource
  | detected
  | custom
  deriving DecidableEq, Repr

/-- A network as the API lists it. -/
structure NetworkRow where
  cidr : String
  subnet : String
  interface : Option String
  address : Option String
  hosts : Nat
  selected : Bool
  source : NetworkSource
  multicast : Bool
  routable : Bool
  routeError : Option String := none
  deriving DecidableEq, Repr

/-- The row of `discovery_settings`. -/
structure NetworkSettings where
  customSubnets : List String := []
  excludedDetectedSubnets : List String := []
  excludedCustomSubnets : List String := []
  deriving DecidableEq, Repr

structure NetworksRequest where
  selectedSubnets : List String := []
  customSubnets : Option (List String) := none
  deriving DecidableEq, Repr

/-- What the host answers: `private_lan_interfaces`, empty where it raises, and the interface
that `routed_scan_interface` finds for a network, if any. -/
structure Lan where
  connected : List LanInterface
  route : Ipv4Network → Option LanInterface

def privateRanges : List Ipv4Network :=
  [⟨10 * 256 ^ 3, 8⟩, ⟨172 * 256 ^ 3 + 16 * 256 ^ 2, 12⟩, ⟨192 * 256 ^ 3 + 168 * 256 ^ 2, 16⟩]

def Ipv4Network.isPrivate (network : Ipv4Network) : Bool :=
  privateRanges.any network.subnetOf

def normalizePrivateScanSubnet (value : String) : Except String Ipv4Network :=
  match ipv4Network (strip value) with
  | none => .error "Enter a private IPv4 subnet in CIDR notation"
  | some network =>
      if network.isPrivate then
        .ok network.canonical
      else
        .error "Only private IPv4 subnets can be scanned"

section
-- `MAX_SCAN_HOSTS`
variable (maxScanHosts : Nat)

def customScanSubnet (value : String) : Except String Ipv4Network := do
  let network ← normalizePrivateScanSubnet value
  if maxScanHosts < network.numAddresses - 2 then
    throw ("Custom subnets are limited to " ++ toString maxScanHosts ++ " usable hosts")
  pure network

/-- The values that can be parsed, as the texts of their networks. -/
def parsedSubnets (parse : String → Except String Ipv4Network) (values : List String) :
    List String :=
  values.filterMap fun value => (parse value).toOption.map Ipv4Network.text

/-! Reading. -/

def connectedBySubnet (connected : List LanInterface) : List (String × LanInterface) :=
  connected.foldl (fun mapping interface => setKey mapping interface.network.text interface) []

def detectedRow (excluded : List String) (subnet : String) (interface : LanInterface) :
    NetworkRow where
  cidr := subnet
  subnet := interface.network.text
  interface := some interface.name
  address := some (addressText interface.address)
  hosts := interface.network.numAddresses - 2
  selected := subnet ∉ excluded
  source := .detected
  multicast := interface.directlyConnected
  routable := true

def customRow (route : Ipv4Network → Option LanInterface) (excludedCustom : List String)
    (subnet : String) (network : Ipv4Network) : NetworkRow :=
  match route network with
  | none =>
      { cidr := subnet
        subnet := subnet
        interface := none
        address := none
        hosts := network.numAddresses - 2
        selected := subnet ∉ excludedCustom
        source := .custom
        multicast := false
        routable := false
        routeError := some "No IPv4 route is currently available." }
  | some interface =>
      { cidr := subnet
        subnet := interface.network.text
        interface := some interface.name
        address := some (addressText interface.address)
        hosts := interface.network.numAddresses - 2
        selected := subnet ∉ excludedCustom
        source := if interface.directlyConnected then .detected else .custom
        multicast := interface.directlyConnected
        routable := true }

def discoveryNetworkConfiguration (settings : NetworkSettings) (lan : Lan) : List NetworkRow :=
  let connected := connectedBySubnet lan.connected
  let excluded := parsedSubnets normalizePrivateScanSubnet settings.excludedDetectedSubnets
  let excludedCustom :=
    parsedSubnets (customScanSubnet maxScanHosts) settings.excludedCustomSubnets
  let custom :=
    (parsedSubnets (customScanSubnet maxScanHosts) settings.customSubnets).eraseDups
  (connected.map fun (subnet, interface) => detectedRow excluded subnet interface) ++
    (custom.filter fun subnet => (connected.lookup subnet).isNone).filterMap fun subnet =>
      (customScanSubnet maxScanHosts subnet).toOption.map
        (customRow lan.route excludedCustom subnet)

def selectedDiscoverySubnets (settings : NetworkSettings) (lan : Lan) : List String :=
  ((discoveryNetworkConfiguration maxScanHosts settings lan).filter (·.selected)).map (·.cidr)

/-! Saving. -/

/-- `if value not in values: values.append(value)`. -/
def addValue (values : List String) (value : String) : List String :=
  if value ∈ values then values else values ++ [value]

theorem mem_addValue {values : List String} {value other : String} :
    other ∈ addValue values value ↔ other ∈ values ∨ other = value := by
  rw [addValue]
  split
  · rename_i listed
    constructor
    · exact .inl
    · rintro (member | rfl)
      · exact member
      · exact listed
  · simp

theorem mem_foldl_addValue {added values : List String} {other : String} :
    other ∈ added.foldl addValue values ↔ other ∈ values ∨ other ∈ added := by
  induction added generalizing values with
  | nil => simp
  | cons value rest ih => rw [List.foldl_cons, ih, mem_addValue, List.mem_cons, or_assoc]

def normalizedSelection (detected values : List String) : Except String (List String) :=
  values.foldlM (fun selected value => do
    let network ← normalizePrivateScanSubnet value
    if network.text ∉ detected then
      let _ ← customScanSubnet maxScanHosts network.text
    pure (addValue selected network.text)) []

def normalizedCustom (detected values : List String) : Except String (List String) :=
  values.foldlM (fun custom value => do
    let network ← customScanSubnet maxScanHosts value
    pure (if network.text ∉ detected then addValue custom network.text else custom)) []

/-- The order of `ipaddress.ip_network`. -/
def networkOrder (first second : String) : Bool :=
  match ipv4Network first, ipv4Network second with
  | some one, some two =>
      one.networkAddress < two.networkAddress ||
        (one.networkAddress = two.networkAddress && one.prefixLength ≤ two.prefixLength)
  | _, _ => true

/-- The settings that `update_discovery_networks` saves; an error is the message of a 422. -/
def updateDiscoveryNetworks (existing : NetworkSettings) (connected : List LanInterface)
    (request : NetworksRequest) : Except String NetworkSettings := do
  let detected := connected.map (·.network.text)
  let selected ← normalizedSelection maxScanHosts detected request.selectedSubnets
  let requested ← normalizedCustom maxScanHosts detected
    (request.customSubnets.getD (selected.filter (· ∉ detected)))
  let custom := (selected.filter (· ∉ detected)).foldl addValue requested
  let priorExcluded :=
    parsedSubnets normalizePrivateScanSubnet existing.excludedDetectedSubnets
  let excluded := (priorExcluded.filter fun subnet => subnet ∉ detected ∧ subnet ∉ selected) ++
    detected.filter (· ∉ selected)
  pure {
    customSubnets := custom
    excludedDetectedSubnets := excluded.eraseDups.mergeSort networkOrder
    excludedCustomSubnets := custom.filter (· ∉ selected) }

end

end CamAdmiral
