import CamAdmiral.InventoryPrecedence
import CamAdmiral.Positions

/-!
A scan of selected subnets against a scan of everything. The scoped reconciliation matches the
observations against the devices in evidence only, and every device that could influence a
match is in evidence: the owners of an observed key, and the devices at the address of a
keyless observation, which lies in one of the subnets.
-/

namespace CamAdmiral

section
variable [TextCase]

def InNetworks (networks : List Ipv4Network) (ip : String) : Prop :=
  ∃ address, ipv4Address ip = some address ∧ ∃ network ∈ networks, network.contains address = true

/-- The device each observation continues, in scan order. -/
def inheritedDevices (previous : List Device) (current : List Observation) :
    List (Option Device) :=
  (matchObservations previous current).map fun index => index.bind (previous[·]?)

theorem inEvidence_iff {networks : List Ipv4Network} {current : List Observation}
    {device : Device} :
    inEvidence networks current device = true ↔
      InNetworks networks device.ip ∨
        ∃ key ∈ stableKeys device.toSighting, key ∈ observedKeys current := by
  simp only [inEvidence, InNetworks, Bool.or_eq_true, List.any_eq_true, decide_eq_true_eq]
  constructor
  · rintro (inside | shared)
    · left
      cases parsed : ipv4Address device.ip with
      | none => simp [parsed] at inside
      | some address => exact ⟨address, rfl, by simpa [parsed] using inside⟩
    · exact .inr shared
  · rintro (⟨address, parsed, inside⟩ | shared)
    · left
      simpa [parsed] using inside
    · exact .inr shared

/-! One observation. -/

theorem previousStableIndices_eq (previous : List Device) (key : StableKey) :
    previousStableIndices previous key =
      positionsWhere (fun device => decide (key ∈ stableKeys device.toSighting)) previous := rfl

variable {networks : List Ipv4Network} {previous : List Device} {current : List Observation}

theorem stableIndex_inEvidence {key : StableKey} (observed : key ∈ observedKeys current) :
    stableIndex previous current key =
      (stableIndex (previous.filter (inEvidence networks current)) current key).map
        (keptPosition (inEvidence networks current) previous) := by
  have indices : previousStableIndices previous key =
      (previousStableIndices (previous.filter (inEvidence networks current)) key).map
        (keptPosition (inEvidence networks current) previous) := by
    rw [previousStableIndices_eq, previousStableIndices_eq]
    apply positionsWhere_filter
    intro device _ owns
    exact inEvidence_iff.mpr (.inr ⟨key, of_decide_eq_true owns, observed⟩)
  simp only [stableIndex, indices]
  cases previousStableIndices (previous.filter (inEvidence networks current)) key with
  | nil => rfl
  | cons first rest =>
      cases rest with
      | nil => by_cases once : currentStableCount current key = 1 <;> simp [once]
      | cons _ _ => rfl

omit [TextCase] in
theorem ipIndex_filter (keep : Device → Bool) {address : String}
    (keeps : ∀ device ∈ previous, device.ip = address → keep device = true) :
    ipIndex previous address =
      (ipIndex (previous.filter keep) address).map (keptPosition keep previous) := by
  simp only [ipIndex]
  split
  · rfl
  · apply findIdx?_filter
    intro device member same
    exact keeps device member (of_decide_eq_true same)

/-- Whatever is taken, an observation takes the same device from the devices in evidence. -/
theorem previousIndex_inEvidence
    (inside : ∀ observation ∈ current, stableKeys observation.toSighting = [] →
      InNetworks networks observation.ip)
    (taken : List Nat) {observation : Observation} (member : observation ∈ current) :
    previousIndex previous current
        (taken.map (keptPosition (inEvidence networks current) previous)) observation =
      (previousIndex (previous.filter (inEvidence networks current)) current taken
        observation).map (keptPosition (inEvidence networks current) previous) := by
  have free (index : Option Nat) :
      (index.map (keptPosition (inEvidence networks current) previous)).filter
          (fun candidate => candidate ∉
            taken.map (keptPosition (inEvidence networks current) previous)) =
        (index.filter fun candidate => candidate ∉ taken).map
          (keptPosition (inEvidence networks current) previous) := by
    cases index with
    | none => rfl
    | some candidate =>
        have same := List.mem_map_of_injective (a := candidate) (l := taken)
          (keptPosition_injective (inEvidence networks current) previous)
        by_cases isTaken : candidate ∈ taken <;> simp [Option.filter, same, isTaken]
  have byKey {key : Option StableKey} (isKey : ∀ value ∈ key, value ∈ observedKeys current) :
      key.bind (stableIndex previous current) =
        (key.bind (stableIndex (previous.filter (inEvidence networks current)) current)).map
          (keptPosition (inEvidence networks current) previous) := by
    cases key with
    | none => rfl
    | some value => exact stableIndex_inEvidence (isKey value rfl)
  have onvif : ∀ value ∈ onvifKey observation.toSighting, value ∈ observedKeys current := by
    intro value isKey
    refine List.mem_flatMap.mpr ⟨observation, member, ?_⟩
    simp [stableKeys, Option.mem_def.mp isKey]
  have mac : ∀ value ∈ macKey observation.toSighting, value ∈ observedKeys current := by
    intro value isKey
    refine List.mem_flatMap.mpr ⟨observation, member, ?_⟩
    simp [stableKeys, Option.mem_def.mp isKey]
  have byAddress : (if stableKeys observation.toSighting = [] then
        (ipIndex previous observation.ip).filter fun candidate => candidate ∉
          taken.map (keptPosition (inEvidence networks current) previous)
      else none) =
      (if stableKeys observation.toSighting = [] then
        (ipIndex (previous.filter (inEvidence networks current)) observation.ip).filter
          fun candidate => candidate ∉ taken
      else none).map (keptPosition (inEvidence networks current) previous) := by
    split
    · rename_i keyless
      rw [ipIndex_filter (inEvidence networks current), free]
      intro device _ sameAddress
      exact inEvidence_iff.mpr (.inl (sameAddress ▸ inside observation member keyless))
    · rfl
  simp only [previousIndex, byKey onvif, byKey mac, free, byAddress]
  generalize ((onvifKey observation.toSighting).bind
    (stableIndex (previous.filter (inEvidence networks current)) current)).filter
      (fun candidate => candidate ∉ taken) = first
  generalize ((macKey observation.toSighting).bind
    (stableIndex (previous.filter (inEvidence networks current)) current)).filter
      (fun candidate => candidate ∉ taken) = second
  cases first <;> cases second <;> rfl

/-! The whole scan. -/

theorem matchObservations_inEvidence
    (inside : ∀ observation ∈ current, stableKeys observation.toSighting = [] →
      InNetworks networks observation.ip) :
    matchObservations previous current =
      (matchObservations (previous.filter (inEvidence networks current)) current).map
        (Option.map (keptPosition (inEvidence networks current) previous)) := by
  rw [matchObservations, matchObservations, matchFrom_eq_greedy, matchFrom_eq_greedy]
  exact greedy_map (keptPosition (inEvidence networks current) previous)
    (fun taken observation member => previousIndex_inEvidence inside taken member) []

theorem inheritedDevices_inEvidence
    (inside : ∀ observation ∈ current, stableKeys observation.toSighting = [] →
      InNetworks networks observation.ip) :
    inheritedDevices (previous.filter (inEvidence networks current)) current =
      inheritedDevices previous current := by
  have matched : matchObservations previous current = _ := matchObservations_inEvidence inside
  rw [inheritedDevices, inheritedDevices, matched, List.map_map]
  apply List.map_congr_left
  intro index _
  cases index with
  | none => rfl
  | some position => exact (getElem?_keptPosition _ previous position).symm

/-- The entries of the observations come first. -/
theorem reconciledEntries_take (previous : List Device) (current : List Observation)
    (seenAt : String) (reachable : List String) (uuids : Nat → String) :
    (reconciledEntries previous current seenAt reachable uuids).take current.length =
      (current.zip (inheritedDevices previous current)).zipIdx.map fun entry =>
        mergeOnline entry.1.2 entry.1.1 seenAt (uuids entry.2) := by
  have length : current.length = ((current.zip (matchObservations previous current)).zipIdx.map
      fun entry => mergeOnline (entry.1.2.bind (previous[·]?)) entry.1.1 seenAt
        (uuids entry.2)).length := by
    simp [matchObservations, matchFrom_length]
  rw [reconciledEntries]
  refine (congrArg (List.take · _) length).trans ((List.take_left).trans ?_)
  rw [inheritedDevices, List.zip_map_right, List.zipIdx_map, List.map_map]
  rfl

/-- What a scoped reconciliation returns, up to its order. -/
theorem reconcileScannedSubnets_entries (previous : List Device) (current : List Observation)
    {subnets : List String}
    (valid : subnets.mapM ipv4Network = some networks) (seenAt : String)
    (reachable : List String) (uuids : Nat → String) :
    ∃ result scope,
      reconcileScannedSubnets previous current seenAt subnets reachable uuids = some result ∧
        result.Perm ((previous.filter (fun device => !inEvidence networks current device) ++
          reconciledEntries (previous.filter (inEvidence networks current)) current seenAt
            reachable uuids).map (annotateConflict scope)) := by
  let untouched := previous.filter fun device => !inEvidence networks current device
  let entries := reconciledEntries (previous.filter (inEvidence networks current)) current seenAt
    reachable uuids
  let reconciled := displayOrder (entries.map (annotateConflict entries))
  let scope := untouched ++ reconciled
  refine ⟨displayOrder (scope.map (annotateConflict scope)), scope, ?_, ?_⟩
  · simp only [reconcileScannedSubnets, valid, Option.bind_eq_bind, Option.bind_some]
    rfl
  · have ordered := List.perm_insertionSort displayBefore (entries.map (annotateConflict entries))
    have annotated := ordered.map (annotateConflict scope)
    rw [List.map_map] at annotated
    refine (List.perm_insertionSort _ _).trans ?_
    rw [List.map_append, List.map_append]
    exact annotated.append_left (untouched.map (annotateConflict scope))

/-- The scoped reconciliation continues the same devices as the full one, with the same
entries, and returns the devices that are not in evidence as they were. -/
theorem scoped_reconciliation_refines {subnets : List String}
    (valid : subnets.mapM ipv4Network = some networks)
    (inside : ∀ observation ∈ current, stableKeys observation.toSighting = [] →
      InNetworks networks observation.ip)
    (seenAt : String) (reachable : List String) (uuids : Nat → String) :
    inheritedDevices (previous.filter (inEvidence networks current)) current =
        inheritedDevices previous current ∧
      ∃ result scope unobserved,
        reconcileScannedSubnets previous current seenAt subnets reachable uuids = some result ∧
        result.Perm ((previous.filter (fun device => !inEvidence networks current device) ++
          ((reconciledEntries previous current seenAt reachable uuids).take current.length ++
            unobserved)).map (annotateConflict scope)) ∧
        ∀ device ∈ previous, ¬ InNetworks networks device.ip →
          (∀ key ∈ stableKeys device.toSighting, key ∉ observedKeys current) →
          annotateConflict scope device ∈ result := by
  have inherited : _ = inheritedDevices previous current := inheritedDevices_inEvidence inside
  have entries := reconciledEntries_take (previous.filter (inEvidence networks current)) current
    seenAt reachable uuids
  rw [inherited, ← reconciledEntries_take previous current seenAt reachable uuids] at entries
  obtain ⟨result, scope, done, listed⟩ :=
    reconcileScannedSubnets_entries previous current valid seenAt reachable uuids
  refine ⟨inherited, result, scope, (reconciledEntries (previous.filter
    (inEvidence networks current)) current seenAt reachable uuids).drop current.length, done,
    ?_, ?_⟩
  · rwa [← List.take_append_drop current.length (reconciledEntries (previous.filter
      (inEvidence networks current)) current seenAt reachable uuids), entries] at listed
  · intro device member outside unshared
    have unseen : inEvidence networks current device = false := by
      rw [← Bool.not_eq_true, inEvidence_iff]
      rintro (isInside | ⟨key, isKey, observed⟩)
      · exact outside isInside
      · exact unshared key isKey observed
    refine listed.mem_iff.mpr (List.mem_map_of_mem (List.mem_append_left _ ?_))
    exact List.mem_filter.mpr ⟨member, by simp [unseen]⟩

end

/-- A bare address in the scanned subnet and a camera that moved into it. -/
theorem scoped_scan_refines :
    letI := asciiCase
    let previous := [storedCamera "elsewhere" "192.168.40.20" "02:00:00:00:40:20" "urn:other",
      { storedCamera "bare" "192.168.10.20" "" "" with mac := none, onvif := none },
      storedCamera "moving" "192.168.40.21" "02:00:00:00:40:21" "urn:moving"]
    let current : List Observation :=
      [{ ip := "192.168.10.20", displayName := "192.168.10.20" },
        onvifCameraAt "192.168.10.25" "02:00:00:00:40:21" "urn:moving"]
    (inheritedDevices previous current).map (Option.map (·.candidateUuid)) =
        [some "bare", some "moving"] ∧
      ∃ result, reconcileScannedSubnets previous current "t2" ["192.168.10.0/24"] []
          (uuidSupply 'n') = some result ∧
        "elsewhere" ∈ candidates result := by
  let _ := asciiCase
  intro previous current
  have valid : ["192.168.10.0/24"].mapM ipv4Network = some [⟨3232238080, 24⟩] := by
    decide +kernel
  have inside : ∀ observation ∈ current, stableKeys observation.toSighting = [] →
      InNetworks [⟨3232238080, 24⟩] observation.ip := by
    intro observation member keyless
    rcases List.mem_cons.mp member with rfl | later
    · exact ⟨3232238100, by decide +kernel, _, List.mem_singleton.mpr rfl, by decide +kernel⟩
    · obtain rfl := List.mem_singleton.mp later
      exact absurd keyless (by decide +kernel)
  obtain ⟨_, result, scope, _, done, _, unchanged⟩ :=
    @scoped_reconciliation_refines _ _ previous _ _ valid inside "t2" [] (uuidSupply 'n')
  refine ⟨by decide +kernel, result, done, ?_⟩
  have outside : ¬ InNetworks [⟨3232238080, 24⟩] "192.168.40.20" := by
    rintro ⟨address, parsed, network, isNetwork, contained⟩
    obtain rfl := List.mem_singleton.mp isNetwork
    have isAddress : ipv4Address "192.168.40.20" = some 3232245780 := by decide +kernel
    rw [isAddress, Option.some.injEq] at parsed
    subst parsed
    exact absurd contained (by decide +kernel)
  exact List.mem_map_of_mem (f := (·.candidateUuid))
    (unchanged _ List.mem_cons_self outside (by decide +kernel))

end CamAdmiral
