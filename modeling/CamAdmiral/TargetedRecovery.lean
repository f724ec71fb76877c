import CamAdmiral.Grouping
import CamAdmiral.LanScan

/-!
The targeted recovery of known cameras on one interface. A camera is matched by the endpoint
reference of one ONVIF reply, and, if nothing replied with its reference, by its MAC in the ARP
table. Both phases drop what is ambiguous; the first reserves the addresses it assigns.
-/

namespace CamAdmiral

/-- What `read_arp_table` returns: MACs by address. -/
structure ArpTable where
  entries : List (String × String)
  distinct : (entries.map Prod.fst).Nodup

structure TargetMatches where
  candidateUuid : String
  endpointMatches : List (String × Onvif)
  macMatches : List String
  deriving DecidableEq, Repr

/-- `matches`, `claimed_addresses` and `mac_fallbacks`. -/
structure Matching where
  matched : List (String × String) := []
  claimed : List String := []
  fallbacks : List TargetMatches := []
  deriving DecidableEq, Repr

section
variable [TextCase]

def replyEndpoint (reply : String × Onvif) : Option String :=
  let endpoint := TextCase.lower (textOf reply.2.endpointReference)
  if endpoint = "" then none else some endpoint

def onvifByEndpoint (onvif : List (String × Onvif)) : List (String × List (String × Onvif)) :=
  gather replyEndpoint id onvif

def localMac (network : Ipv4Network) (entry : String × String) : Option String :=
  match ipv4Address entry.1 with
  | some address => if network.contains address then some (TextCase.lower entry.2) else none
  | none => none

def addressesByMac (network : Ipv4Network) (arp : ArpTable) : List (String × List String) :=
  gather (localMac network) Prod.fst arp.entries

def targetMatches (network : Ipv4Network) (onvif : List (String × Onvif)) (arp : ArpTable)
    (target : ScanTarget) : TargetMatches :=
  let endpoint := normalized target.endpointReference
  let mac := normalized target.mac
  { candidateUuid := textOf target.candidateUuid
    endpointMatches := if endpoint ≠ "" then groupAt (onvifByEndpoint onvif) endpoint else []
    macMatches := if mac ≠ "" then groupAt (addressesByMac network arp) mac else [] }

end

def claimedEndpoint (found : TargetMatches) : Option String :=
  (sole found.endpointMatches).map Prod.fst

def endpointClaims (found : List TargetMatches) : List (String × List String) :=
  gather claimedEndpoint TargetMatches.candidateUuid found

def endpointStep (claims : List (String × List String)) (state : Matching)
    (found : TargetMatches) : Matching :=
  match found.endpointMatches with
  | [] => { state with fallbacks := state.fallbacks ++ [found] }
  | [device] =>
      if (groupAt claims device.1).length ≠ 1 then state
      else
        { state with
          matched := setKey state.matched found.candidateUuid device.1
          claimed := addValue state.claimed device.1 }
  | _ => state

def availableMacs (claimed : List String) (found : TargetMatches) : List String :=
  found.macMatches.filter (· ∉ claimed)

def macClaims (state : Matching) : List (String × List String) :=
  gather (fun found => sole (availableMacs state.claimed found)) TargetMatches.candidateUuid
    state.fallbacks

def macStep (state : Matching) (claim : String × List String) : Matching :=
  match claim.2 with
  | [candidateUuid] =>
      { state with
        matched := setKey state.matched candidateUuid claim.1
        claimed := addValue state.claimed claim.1 }
  | _ => state

section
variable [TextCase]

def endpointPhase (network : Ipv4Network) (targets : List ScanTarget)
    (onvif : List (String × Onvif)) (arp : ArpTable) : Matching :=
  let found := targets.map (targetMatches network onvif arp)
  found.foldl (endpointStep (endpointClaims found)) {}

/-- The addresses `discover_targeted` assigns, by candidate. -/
def targetedMatches (network : Ipv4Network) (targets : List ScanTarget)
    (onvif : List (String × Onvif)) (arp : ArpTable) : List (String × String) :=
  let reserved := endpointPhase network targets onvif arp
  ((macClaims reserved).foldl macStep reserved).matched

def rtspPorts : List Nat := [554, 8554]

/-- `probe` is `_probe_rtsp`, with the endpoints it verified. -/
def discoverTargeted (network : Ipv4Network) (targets : List ScanTarget)
    (onvif : List (String × Onvif)) (arp : ArpTable)
    (probe : String → Nat → Option RtspEndpoint) : List Observation :=
  if targets = [] then []
  else
    let matched := (targetedMatches network targets onvif arp).map Prod.snd
    let matchedOnvif := onvif.filter fun device => device.1 ∈ matched
    let matchedRtsp := (addressOrder id matched.dedup).filterMap fun address =>
      let endpoints := rtspPorts.filterMap (probe address)
      if endpoints = [] then none else some (address, endpoints)
    mergeDiscovery matchedOnvif matchedRtsp arp.entries

/-! What the replies and the ARP table say about a target. -/

/-- The replies that carry the endpoint reference of the target. -/
def endpointReplies (onvif : List (String × Onvif)) (target : ScanTarget) :
    List (String × Onvif) :=
  onvif.filter fun reply => replyEndpoint reply = some (normalized target.endpointReference)

/-- The target's endpoint reference is in one reply alone, which came from the address. -/
def ClaimsByEndpoint (onvif : List (String × Onvif)) (target : ScanTarget) (address : String) :
    Prop :=
  ∃ device, endpointReplies onvif target = [(address, device)]

/-- The ARP table has the target's MAC for an address of the network. -/
def HasLocalMac (network : Ipv4Network) (arp : ArpTable) (target : ScanTarget)
    (address : String) : Prop :=
  normalized target.mac ≠ "" ∧
    ∃ mac, (address, mac) ∈ arp.entries ∧
      localMac network (address, mac) = some (normalized target.mac)

structure AssignedByEndpoint (targets : List ScanTarget) (onvif : List (String × Onvif))
    (target : ScanTarget) (address : String) : Prop where
  claims : ClaimsByEndpoint onvif target address
  alone : ∀ other ∈ targets, ClaimsByEndpoint onvif other address → other = target

/-- Nothing replied for the target, and one address that is not taken has its MAC. -/
structure FallsBack (network : Ipv4Network) (onvif : List (String × Onvif)) (arp : ArpTable)
    (taken : String → Prop) (target : ScanTarget) (address : String) : Prop where
  unanswered : endpointReplies onvif target = []
  mac : HasLocalMac network arp target address
  free : ¬ taken address
  only : ∀ other, HasLocalMac network arp target other → ¬ taken other → other = address

structure AssignedByMac (network : Ipv4Network) (targets : List ScanTarget)
    (onvif : List (String × Onvif)) (arp : ArpTable) (taken : String → Prop)
    (target : ScanTarget) (address : String) : Prop where
  fallsBack : FallsBack network onvif arp taken target address
  alone : ∀ other ∈ targets, FallsBack network onvif arp taken other address → other = target

/-- A target claims the address by endpoint. -/
def Claimed (targets : List ScanTarget) (onvif : List (String × Onvif)) (address : String) :
    Prop :=
  ∃ target ∈ targets, ClaimsByEndpoint onvif target address

/-- The address is assigned to a target by endpoint. -/
def Reserved (targets : List ScanTarget) (onvif : List (String × Onvif)) (address : String) :
    Prop :=
  ∃ target ∈ targets, AssignedByEndpoint targets onvif target address

/-! The lookups of one target. -/

theorem endpointMatches_eq (network : Ipv4Network) (onvif : List (String × Onvif))
    (arp : ArpTable) (target : ScanTarget) :
    (targetMatches network onvif arp target).endpointMatches = endpointReplies onvif target := by
  simp only [targetMatches, onvifByEndpoint, endpointReplies, groupAt_gather, List.map_id]
  split
  · rfl
  · rename_i empty
    rw [Decidable.not_not] at empty
    symm
    rw [empty, List.filter_eq_nil_iff]
    intro reply _ found
    have named := of_decide_eq_true found
    simp only [replyEndpoint] at named
    split at named
    · cases named
    · rename_i named'
      exact named' (Option.some.inj named)

theorem mem_macMatches {network : Ipv4Network} {onvif : List (String × Onvif)} {arp : ArpTable}
    {target : ScanTarget} {address : String} :
    address ∈ (targetMatches network onvif arp target).macMatches ↔
      HasLocalMac network arp target address := by
  simp only [targetMatches, addressesByMac, groupAt_gather, HasLocalMac]
  split
  · rename_i named
    simp [named]
  · rename_i unnamed
    simp [unnamed]

theorem nodup_macMatches (network : Ipv4Network) (onvif : List (String × Onvif))
    (arp : ArpTable) (target : ScanTarget) :
    (targetMatches network onvif arp target).macMatches.Nodup := by
  simp only [targetMatches, addressesByMac, groupAt_gather]
  split
  · exact arp.distinct.sublist (List.filter_sublist.map Prod.fst)
  · exact List.nodup_nil

theorem claimedEndpoint_eq_some {network : Ipv4Network} {onvif : List (String × Onvif)}
    {arp : ArpTable} {target : ScanTarget} {address : String} :
    claimedEndpoint (targetMatches network onvif arp target) = some address ↔
      ClaimsByEndpoint onvif target address := by
  rw [claimedEndpoint, endpointMatches_eq, Option.map_eq_some_iff]
  constructor
  · rintro ⟨⟨_, device⟩, single, rfl⟩
    exact ⟨device, sole_eq_some.mp single⟩
  · rintro ⟨device, single⟩
    exact ⟨(address, device), sole_eq_some.mpr single, rfl⟩

/-! The first phase. -/

def endpointAssignment (claims : List (String × List String)) (found : TargetMatches) :
    Option (String × String) :=
  (claimedEndpoint found).bind fun address =>
    if (groupAt claims address).length = 1 then some (found.candidateUuid, address) else none

omit [TextCase] in
theorem foldl_endpointStep (claims : List (String × List String)) (found : List TargetMatches)
    (state : Matching) :
    (found.foldl (endpointStep claims) state).matched =
        assignAll state.matched (found.filterMap (endpointAssignment claims)) ∧
      (∀ address, address ∈ (found.foldl (endpointStep claims) state).claimed ↔
        address ∈ state.claimed ∨
          ∃ uuid, (uuid, address) ∈ found.filterMap (endpointAssignment claims)) ∧
      (found.foldl (endpointStep claims) state).fallbacks =
        state.fallbacks ++ found.filter fun target => target.endpointMatches = [] := by
  induction found generalizing state with
  | nil => simp [assignAll]
  | cons target rest ih =>
      obtain ⟨matched, claimed, fallbacks⟩ := ih (endpointStep claims state target)
      rw [List.foldl_cons, matched, fallbacks]
      simp only [claimed]
      rcases isMatches : target.endpointMatches with _ | ⟨device, _ | ⟨_, _⟩⟩
      · simp [endpointStep, endpointAssignment, claimedEndpoint, isMatches, sole]
      · by_cases single : (groupAt claims device.1).length = 1
        · have assigned : endpointAssignment claims target =
              some (target.candidateUuid, device.1) := by
            simp [endpointAssignment, claimedEndpoint, isMatches, sole, single]
          refine ⟨?_, fun address => ?_, ?_⟩
          · simp [endpointStep, isMatches, single, assigned, assignAll]
          · simp only [endpointStep, isMatches, single, ne_eq, not_true_eq_false, ↓reduceIte,
              mem_addValue, List.filterMap_cons, assigned, List.mem_cons, Prod.mk.injEq,
              exists_or, exists_and_right, exists_eq, true_and, or_assoc]
          · simp [endpointStep, isMatches, single]
        · simp [endpointStep, endpointAssignment, claimedEndpoint, isMatches, sole, single]
      · simp [endpointStep, endpointAssignment, claimedEndpoint, isMatches, sole]

variable {network : Ipv4Network} {targets : List ScanTarget} {onvif : List (String × Onvif)}
  {arp : ArpTable}

def endpointAssignments (network : Ipv4Network) (targets : List ScanTarget)
    (onvif : List (String × Onvif)) (arp : ArpTable) : List (String × String) :=
  let found := targets.map (targetMatches network onvif arp)
  found.filterMap (endpointAssignment (endpointClaims found))

theorem mem_endpointAssignments (distinct : targets.Nodup) {uuid address : String} :
    (uuid, address) ∈ endpointAssignments network targets onvif arp ↔
      ∃ target ∈ targets, textOf target.candidateUuid = uuid ∧
        AssignedByEndpoint targets onvif target address := by
  have claimants (address : String) :
      groupAt (endpointClaims (targets.map (targetMatches network onvif arp))) address =
        (targets.filter fun target =>
          claimedEndpoint (targetMatches network onvif arp target) = some address).map
            fun target => textOf target.candidateUuid := by
    rw [endpointClaims, groupAt_gather, List.filter_map, List.map_map]
    rfl
  simp only [endpointAssignments, List.mem_filterMap, List.mem_map, exists_exists_and_eq_and]
  constructor
  · rintro ⟨target, member, assigned⟩
    obtain ⟨claimed, isClaimed, single⟩ := Option.bind_eq_some_iff.mp assigned
    split at single
    · rename_i alone
      obtain ⟨rfl, rfl⟩ := Prod.mk.inj (Option.some.inj single)
      obtain ⟨held, isHeld⟩ := List.length_eq_one_iff.mp alone
      rw [claimants] at isHeld
      obtain ⟨only, _, _, _, others⟩ := (map_filter_eq_singleton distinct).mp isHeld
      have isOnly : target = only := others target member (decide_eq_true isClaimed)
      refine ⟨target, member, rfl, claimedEndpoint_eq_some.mp isClaimed,
        fun other listed claims => ?_⟩
      rw [isOnly]
      exact others other listed (decide_eq_true (claimedEndpoint_eq_some.mpr claims))
    · cases single
  · rintro ⟨target, member, rfl, claims, alone⟩
    have isClaimed : claimedEndpoint (targetMatches network onvif arp target) = some address :=
      claimedEndpoint_eq_some.mpr claims
    have single : groupAt (endpointClaims (targets.map (targetMatches network onvif arp)))
        address = [textOf target.candidateUuid] := by
      rw [claimants]
      refine (map_filter_eq_singleton distinct).mpr
        ⟨target, member, rfl, decide_eq_true isClaimed, fun other listed found => ?_⟩
      exact alone other listed (claimedEndpoint_eq_some.mp (of_decide_eq_true found))
    refine ⟨target, member, ?_⟩
    rw [endpointAssignment, isClaimed, Option.bind_some, single]
    rfl

/-- The state the second phase starts from. -/
theorem endpointPhase_assigns (distinct : targets.Nodup) :
    (endpointPhase network targets onvif arp).matched =
        assignAll [] (endpointAssignments network targets onvif arp) ∧
      (∀ address, address ∈ (endpointPhase network targets onvif arp).claimed ↔
        Reserved targets onvif address) ∧
      (endpointPhase network targets onvif arp).fallbacks =
        (targets.map (targetMatches network onvif arp)).filter
          fun found => found.endpointMatches = [] := by
  obtain ⟨matched, claimed, fallbacks⟩ := foldl_endpointStep
    (endpointClaims (targets.map (targetMatches network onvif arp)))
    (targets.map (targetMatches network onvif arp)) {}
  refine ⟨matched, fun address => ?_, fallbacks⟩
  have assigned (uuid : String) :
      (uuid, address) ∈ endpointAssignments network targets onvif arp ↔ _ :=
    mem_endpointAssignments distinct
  rw [endpointPhase, claimed]
  constructor
  · rintro (none | ⟨uuid, listed⟩)
    · cases none
    · obtain ⟨target, member, _, isAssigned⟩ := (assigned uuid).mp listed
      exact ⟨target, member, isAssigned⟩
  · rintro ⟨target, member, isAssigned⟩
    exact .inr ⟨_, (assigned _).mpr ⟨target, member, rfl, isAssigned⟩⟩

/-! The second phase. -/

def macAssignment (claim : String × List String) : Option (String × String) :=
  (sole claim.2).map fun candidateUuid => (candidateUuid, claim.1)

omit [TextCase] in
theorem foldl_macStep (claims : List (String × List String)) (state : Matching) :
    (claims.foldl macStep state).matched =
      assignAll state.matched (claims.filterMap macAssignment) := by
  induction claims generalizing state with
  | nil => rfl
  | cons claim rest ih =>
      rw [List.foldl_cons, ih]
      obtain ⟨address, candidateUuids⟩ := claim
      match candidateUuids with
      | [] => simp [List.filterMap_cons, macStep, macAssignment, sole]
      | [candidateUuid] =>
          simp [macStep, macAssignment, sole, assignAll]
      | _ :: _ :: _ => simp [List.filterMap_cons, macStep, macAssignment, sole]

/-- The addresses that `claimed` leaves to a target with no reply. -/
theorem sole_availableMacs {claimed : List String} {taken : String → Prop}
    (isTaken : ∀ address, address ∈ claimed ↔ taken address) {target : ScanTarget}
    (unanswered : endpointReplies onvif target = []) {address : String} :
    sole (availableMacs claimed (targetMatches network onvif arp target)) = some address ↔
      FallsBack network onvif arp taken target address := by
  have single := @map_filter_eq_singleton _ _ _ (nodup_macMatches network onvif arp target)
    (fun address => decide (address ∉ claimed)) id address
  rw [List.map_id] at single
  rw [sole_eq_some, availableMacs, single]
  simp only [mem_macMatches, decide_eq_true_eq, isTaken, id]
  constructor
  · rintro ⟨_, mac, rfl, free, only⟩
    exact ⟨unanswered, mac, free, only⟩
  · intro fallsBack
    exact ⟨address, fallsBack.mac, rfl, fallsBack.free, fallsBack.only⟩

/-- The assignments of the second phase, after a first one that claimed `taken`. -/
theorem mem_macAssignments (distinct : targets.Nodup) {taken : String → Prop} {state : Matching}
    (isTaken : ∀ address, address ∈ state.claimed ↔ taken address)
    (fallbacks : state.fallbacks = (targets.map (targetMatches network onvif arp)).filter
      fun found => found.endpointMatches = []) {uuid address : String} :
    (uuid, address) ∈ (macClaims state).filterMap macAssignment ↔
      ∃ target ∈ targets, textOf target.candidateUuid = uuid ∧
        AssignedByMac network targets onvif arp taken target address := by
  have claimants : (state.fallbacks.filter fun found =>
        sole (availableMacs state.claimed found) = some address).map
          TargetMatches.candidateUuid =
      (targets.filter fun target =>
        decide (sole (availableMacs state.claimed (targetMatches network onvif arp target)) =
            some address) &&
          decide (endpointReplies onvif target = [])).map
        fun target => textOf target.candidateUuid := by
    rw [fallbacks, List.filter_map, List.filter_map, List.map_map, List.filter_filter]
    simp only [Function.comp_def, endpointMatches_eq]
    rfl
  have falls (target : ScanTarget) :
      (decide (sole (availableMacs state.claimed (targetMatches network onvif arp target)) =
            some address) &&
          decide (endpointReplies onvif target = [])) = true ↔
        FallsBack network onvif arp taken target address := by
    rw [Bool.and_eq_true, decide_eq_true_eq, decide_eq_true_eq]
    constructor
    · rintro ⟨available, unanswered⟩
      exact (sole_availableMacs isTaken unanswered).mp available
    · intro fallsBack
      exact ⟨(sole_availableMacs isTaken fallsBack.unanswered).mpr fallsBack,
        fallsBack.unanswered⟩
  have listed : (uuid, address) ∈ (macClaims state).filterMap macAssignment ↔
      (address, [uuid]) ∈ macClaims state := by
    rw [List.mem_filterMap]
    constructor
    · rintro ⟨⟨claimed, candidateUuids⟩, member, assigned⟩
      obtain ⟨single, isSingle, same⟩ := Option.map_eq_some_iff.mp assigned
      obtain ⟨rfl, rfl⟩ := Prod.mk.inj same
      obtain rfl := sole_eq_some.mp isSingle
      exact member
    · intro member
      exact ⟨_, member, rfl⟩
  rw [listed, macClaims, mem_gather, claimants, map_filter_eq_singleton distinct]
  simp only [falls]
  constructor
  · rintro ⟨_, target, member, isUuid, fallsBack, alone⟩
    exact ⟨target, member, isUuid, fallsBack, alone⟩
  · rintro ⟨target, member, isUuid, fallsBack, alone⟩
    exact ⟨List.cons_ne_nil _ _, target, member, isUuid, fallsBack, alone⟩

/-! The matching. -/

/-- What the matching assigns to a target. -/
def Assigned (network : Ipv4Network) (targets : List ScanTarget) (onvif : List (String × Onvif))
    (arp : ArpTable) (taken : String → Prop) (target : ScanTarget) (address : String) : Prop :=
  AssignedByEndpoint targets onvif target address ∨
    AssignedByMac network targets onvif arp taken target address

theorem ClaimsByEndpoint.unique {target : ScanTarget} {first second : String}
    (isFirst : ClaimsByEndpoint onvif target first)
    (isSecond : ClaimsByEndpoint onvif target second) : first = second := by
  obtain ⟨device, single⟩ := isFirst
  obtain ⟨other, same⟩ := isSecond
  rw [single, List.cons.injEq, Prod.mk.injEq] at same
  exact same.1.1

theorem ClaimsByEndpoint.answered {target : ScanTarget} {address : String}
    (claims : ClaimsByEndpoint onvif target address) : endpointReplies onvif target ≠ [] := by
  obtain ⟨device, single⟩ := claims
  rw [single]
  exact List.cons_ne_nil _ _

theorem Assigned.unique {taken : String → Prop} {target : ScanTarget} {first second : String}
    (isFirst : Assigned network targets onvif arp taken target first)
    (isSecond : Assigned network targets onvif arp taken target second) : first = second := by
  rcases isFirst with isFirst | isFirst <;> rcases isSecond with isSecond | isSecond
  · exact isFirst.claims.unique isSecond.claims
  · exact absurd isSecond.fallsBack.unanswered isFirst.claims.answered
  · exact absurd isFirst.fallsBack.unanswered isSecond.claims.answered
  · exact isSecond.fallsBack.only first isFirst.fallsBack.mac isFirst.fallsBack.free

/-- No address is assigned to two targets. -/
theorem Assigned.injective {first second : ScanTarget} {address : String}
    (firstListed : first ∈ targets) (secondListed : second ∈ targets)
    (isFirst : Assigned network targets onvif arp (Reserved targets onvif) first address)
    (isSecond : Assigned network targets onvif arp (Reserved targets onvif) second address) :
    first = second := by
  rcases isFirst with isFirst | isFirst <;> rcases isSecond with isSecond | isSecond
  · exact isSecond.alone first firstListed isFirst.claims
  · exact absurd ⟨first, firstListed, isFirst⟩ isSecond.fallsBack.free
  · exact absurd ⟨second, secondListed, isSecond⟩ isFirst.fallsBack.free
  · exact isSecond.alone first firstListed isFirst.fallsBack

omit [TextCase] in
theorem candidate_injective (distinct : (targets.map fun target =>
      textOf target.candidateUuid).Nodup) {first second : ScanTarget}
    (firstListed : first ∈ targets) (secondListed : second ∈ targets)
    (same : textOf first.candidateUuid = textOf second.candidateUuid) : first = second :=
  List.inj_on_of_nodup_map distinct firstListed secondListed same

theorem lookup_targetedMatches
    (distinct : (targets.map fun target => textOf target.candidateUuid).Nodup)
    {uuid address : String} :
    (targetedMatches network targets onvif arp).lookup uuid = some address ↔
      ∃ target ∈ targets, textOf target.candidateUuid = uuid ∧
        Assigned network targets onvif arp (Reserved targets onvif) target address := by
  have nodup : targets.Nodup := List.Nodup.of_map _ distinct
  obtain ⟨matched, claimed, fallbacks⟩ :=
    @endpointPhase_assigns _ network targets onvif arp nodup
  have entries {uuid address : String} :
      (uuid, address) ∈ endpointAssignments network targets onvif arp ++
          (macClaims (endpointPhase network targets onvif arp)).filterMap macAssignment ↔
        ∃ target ∈ targets, textOf target.candidateUuid = uuid ∧
          Assigned network targets onvif arp (Reserved targets onvif) target address := by
    rw [List.mem_append, mem_endpointAssignments nodup,
      mem_macAssignments nodup claimed fallbacks]
    simp only [Assigned, and_or_left, exists_or]
  have result : targetedMatches network targets onvif arp =
      assignAll [] (endpointAssignments network targets onvif arp ++
        (macClaims (endpointPhase network targets onvif arp)).filterMap macAssignment) := by
    rw [targetedMatches, foldl_macStep, matched, assignAll, assignAll, assignAll,
      List.foldl_append]
  rw [result, lookup_assignAll, entries]
  intro key first second isFirst isSecond
  obtain ⟨target, member, isUuid, isFirst⟩ := entries.mp isFirst
  obtain ⟨other, listed, sameUuid, isSecond⟩ := entries.mp isSecond
  obtain rfl := candidate_injective distinct member listed (isUuid.trans sameUuid.symm)
  exact isFirst.unique isSecond

/-- The recovery returns devices at matched addresses only. -/
theorem discoverTargeted_matched {probe : String → Nat → Option RtspEndpoint}
    {device : Observation} (member : device ∈ discoverTargeted network targets onvif arp probe) :
    ∃ uuid, (uuid, device.ip) ∈ targetedMatches network targets onvif arp := by
  have matched : device.ip ∈ (targetedMatches network targets onvif arp).map Prod.snd := by
    rw [discoverTargeted] at member
    split at member
    · cases member
    · rcases mergeDiscovery_address member with byOnvif | byRtsp
      · obtain ⟨reply, listed, isAddress⟩ := List.mem_map.mp byOnvif
        rw [← isAddress]
        exact of_decide_eq_true (List.mem_filter.mp listed).2
      · obtain ⟨found, listed, isAddress⟩ := List.mem_map.mp byRtsp
        obtain ⟨address, ordered, probed⟩ := List.mem_filterMap.mp listed
        simp only [addressOrder, List.mem_insertionSort, List.mem_dedup] at ordered
        simp only [Option.ite_none_left_eq_some, Option.some.injEq] at probed
        rw [← isAddress, ← probed.2]
        exact ordered
  obtain ⟨⟨uuid, address⟩, listed, isAddress⟩ := List.mem_map.mp matched
  exact ⟨uuid, by rwa [← isAddress]⟩

/-- Two lists of the same targets are matched alike. -/
theorem Assigned.of_mem_iff {first second : List ScanTarget}
    (same : ∀ target, target ∈ first ↔ target ∈ second) {target : ScanTarget} {address : String}
    (assigned : Assigned network first onvif arp (Reserved first onvif) target address) :
    Assigned network second onvif arp (Reserved second onvif) target address := by
  have endpoint {target : ScanTarget} {address : String} :
      AssignedByEndpoint first onvif target address ↔
        AssignedByEndpoint second onvif target address := by
    constructor
    · rintro ⟨claims, alone⟩
      exact ⟨claims, fun other member => alone other ((same other).mpr member)⟩
    · rintro ⟨claims, alone⟩
      exact ⟨claims, fun other member => alone other ((same other).mp member)⟩
  have taken : Reserved first onvif = Reserved second onvif := by
    funext address
    simp only [Reserved, same, endpoint]
  rcases assigned with assigned | ⟨fallsBack, alone⟩
  · exact .inl (endpoint.mp assigned)
  · rw [taken] at fallsBack alone
    exact .inr ⟨fallsBack, fun other member => alone other ((same other).mpr member)⟩

/-- The matching assigns no address twice, whatever the order of the targets, and only what
the replies and the ARP table name without ambiguity. `taken` are the addresses that the MAC
phase leaves alone. -/
structure Unambiguous (network : Ipv4Network) (targets : List ScanTarget)
    (onvif : List (String × Onvif)) (arp : ArpTable) (taken : String → Prop) : Prop where
  injective : ∀ first second address,
    (targetedMatches network targets onvif arp).lookup first = some address →
    (targetedMatches network targets onvif arp).lookup second = some address → first = second
  unordered : ∀ reordered, reordered.Perm targets → ∀ uuid,
    (targetedMatches network reordered onvif arp).lookup uuid =
      (targetedMatches network targets onvif arp).lookup uuid
  assigned : ∀ uuid address,
    (targetedMatches network targets onvif arp).lookup uuid = some address →
    ∃ target ∈ targets, textOf target.candidateUuid = uuid ∧
      Assigned network targets onvif arp taken target address

theorem targeted_matching_unambiguous (network : Ipv4Network) (targets : List ScanTarget)
    (onvif : List (String × Onvif)) (arp : ArpTable)
    (distinct : (targets.map fun target => textOf target.candidateUuid).Nodup) :
    Unambiguous network targets onvif arp (Reserved targets onvif) := by
  constructor
  · intro first second address isFirst isSecond
    obtain ⟨target, member, rfl, assigned⟩ := (lookup_targetedMatches distinct).mp isFirst
    obtain ⟨other, listed, rfl, same⟩ := (lookup_targetedMatches distinct).mp isSecond
    rw [assigned.injective member listed same]
  · intro reordered permuted uuid
    have members (target : ScanTarget) : target ∈ reordered ↔ target ∈ targets := permuted.mem_iff
    have stillDistinct : (reordered.map fun target => textOf target.candidateUuid).Nodup :=
      ((permuted.map _).nodup_iff).mpr distinct
    apply Option.ext
    intro address
    rw [lookup_targetedMatches stillDistinct, lookup_targetedMatches distinct]
    constructor
    · rintro ⟨target, member, isUuid, assigned⟩
      exact ⟨target, (members target).mp member, isUuid, assigned.of_mem_iff members⟩
    · rintro ⟨target, member, isUuid, assigned⟩
      exact ⟨target, (members target).mpr member, isUuid,
        assigned.of_mem_iff fun target => (members target).symm⟩
  · intro uuid address found
    exact (lookup_targetedMatches distinct).mp found

end

/-! An address that two cameras contest by endpoint, and a camera with its MAC. -/

def contestedReply : List (String × Onvif) :=
  [("192.168.1.20", { endpointReference := some "urn:uuid:shared" })]

def contestedArp : ArpTable where
  entries := [("192.168.1.20", "cc:cc:cc:cc:cc:cc")]
  distinct := by simp

theorem reserved_address_unambiguous :
    letI := asciiCase
    let targets : List ScanTarget :=
      [{ candidateUuid := some "a", endpointReference := some "urn:uuid:shared" },
        { candidateUuid := some "c", mac := some "cc:cc:cc:cc:cc:cc" }]
    Unambiguous ⟨3232235776, 24⟩ targets contestedReply contestedArp
        (Reserved targets contestedReply) ∧
      targetedMatches ⟨3232235776, 24⟩ targets contestedReply contestedArp =
        [("a", "192.168.1.20")] := by
  let _ := asciiCase
  exact ⟨targeted_matching_unambiguous _ _ _ _ (by decide +kernel), by decide +kernel⟩

def contestedTargets : List ScanTarget :=
  [{ candidateUuid := some "a", endpointReference := some "urn:uuid:shared" },
    { candidateUuid := some "b", endpointReference := some "urn:uuid:shared" },
    { candidateUuid := some "c", mac := some "cc:cc:cc:cc:cc:cc" }]

/-- The MAC phase takes an address that the endpoint phase found ambiguous. -/
theorem contested_address_assigned :
    ¬ ∀ (_ : TextCase) (network : Ipv4Network) (targets : List ScanTarget)
      (onvif : List (String × Onvif)) (arp : ArpTable),
      (targets.map fun target => textOf target.candidateUuid).Nodup →
      Unambiguous network targets onvif arp (Claimed targets onvif) := by
  intro always
  let _ := asciiCase
  have unambiguous := always asciiCase ⟨3232235776, 24⟩ contestedTargets contestedReply
    contestedArp (by decide +kernel)
  have found : (targetedMatches ⟨3232235776, 24⟩ contestedTargets contestedReply
      contestedArp).lookup "c" = some "192.168.1.20" := by decide +kernel
  obtain ⟨target, member, isC, assigned⟩ := unambiguous.assigned _ _ found
  have isTarget : target = { candidateUuid := some "c", mac := some "cc:cc:cc:cc:cc:cc" } :=
    candidate_injective (by decide +kernel) member (by simp [contestedTargets]) isC
  subst isTarget
  rcases assigned with byEndpoint | byMac
  · exact byEndpoint.claims.answered (by decide +kernel)
  · apply byMac.fallsBack.free
    refine ⟨{ candidateUuid := some "a", endpointReference := some "urn:uuid:shared" },
      by simp [contestedTargets], ?_⟩
    exact ⟨{ endpointReference := some "urn:uuid:shared" }, by decide +kernel⟩

end CamAdmiral
