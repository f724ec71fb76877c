import CamAdmiral.InventoryMatching
import CamAdmiral.Runs
import CamAdmiral.ScannerCore

/-!
No scan loses or duplicates a candidate. Each mode of `handle_scan` splits the previous
devices in its own way; every split is a partition, so the written inventory succeeds the
previous one.
-/

namespace CamAdmiral

section
variable [TextCase]

omit [TextCase] in
theorem filter_label_notMem {devices : List Device} (distinct : (candidates devices).Nodup)
    (touched : Device → Bool) :
    (devices.filter fun device => device.candidateUuid ∉ candidates (devices.filter touched)) =
      devices.filter fun device => !touched device := by
  apply List.filter_congr
  intro device member
  cases isTouched : touched device with
  | true =>
      have listed : device.candidateUuid ∈ candidates (devices.filter touched) :=
        List.mem_map_of_mem (List.mem_filter.mpr ⟨member, isTouched⟩)
      simpa using listed
  | false =>
      have unlisted : device.candidateUuid ∉ candidates (devices.filter touched) := by
        intro listed
        obtain ⟨other, otherMember, sameName⟩ := List.mem_map.mp listed
        obtain ⟨isOther, otherTouched⟩ := List.mem_filter.mp otherMember
        obtain rfl := List.inj_on_of_nodup_map distinct isOther member sameName
        simp [isTouched] at otherTouched
      simpa using unlisted

/-- What every scan of one mode leaves: the successors of the previous devices and new
devices that took fresh values at distinct positions. -/
def SucceedsFreshly (previous written : List Device) (uuids : Nat → String) : Prop :=
  ∃ (created : List Device) (positions : List Nat),
    Succession Succeeds previous written created ∧
    candidates created = positions.map uuids ∧ positions.Nodup

/-- A part of the devices is reconciled and the rest is kept as it is. -/
theorem reconciled_part (previous : List Device) (touched : Device → Bool)
    (current : List Observation) (seenAt : String) (reachable : List String)
    (uuids : Nat → String) :
    SucceedsFreshly previous ((previous.filter fun device => !touched device) ++
      reconcileInventory (previous.filter touched) current seenAt reachable uuids) uuids := by
  obtain ⟨created, succession, labels⟩ :=
    reconcileInventory_succession (previous.filter touched) current seenAt reachable uuids
  have untouched := Succession.refl succeeds_refl (previous.filter fun device => !touched device)
  have split : previous.Perm
      ((previous.filter fun device => !touched device) ++ previous.filter touched) :=
    (List.filter_append_perm touched previous).symm.trans List.perm_append_comm
  exact ⟨_, _, (untouched.append succession).perm_older split, labels, newPositions_nodup _ _⟩

theorem SucceedsFreshly.annotated {previous written : List Device} {uuids : Nat → String}
    (succeeds : SucceedsFreshly previous written uuids) :
    SucceedsFreshly previous (displayOrder (annotateIdentityConflicts written)) uuids := by
  obtain ⟨created, positions, succession, labels, single⟩ := succeeds
  exact ⟨_, positions, succession.annotated written,
    (candidates_annotate created written).trans labels, single⟩

theorem scanAddress_succeeds {previous : List Device}
    (distinct : (candidates previous).Nodup) (result : ScanResult) (address : String)
    (uuids : Nat → String) :
    SucceedsFreshly previous (scanAddress previous result address uuids) uuids := by
  rw [scanAddress, show addressUntouched previous result.devices address = _ from
    filter_label_notMem distinct _]
  exact reconciled_part previous _ _ _ _ _

theorem scanTargeted_succeeds (previous : List Device) (result : ScanResult)
    (targets : List ScanTarget) (uuids : Nat → String) :
    SucceedsFreshly previous (scanTargeted previous result targets uuids) uuids := by
  have succeeds := (reconciled_part previous
    (fun device => device.candidateUuid ∈ targetedIds targets) result.devices
    result.completedAt [] uuids).annotated
  simpa only [scanTargeted, decide_not] using succeeds

theorem scannedDevices_succeeds {request : ScanRequest} {previous written : List Device}
    {result : ScanResult} {uuids : Nat → String} (distinct : (candidates previous).Nodup)
    (done : scannedDevices request previous result uuids = some written) :
    SucceedsFreshly previous written uuids := by
  simp only [scannedDevices] at done
  split at done
  · obtain rfl := Option.some.inj done
    exact scanAddress_succeeds distinct result _ uuids
  · split at done
    · obtain rfl := Option.some.inj done
      exact scanTargeted_succeeds previous result _ uuids
    · split at done
      · rename_i subnets _
        cases parsed : subnets.mapM ipv4Network with
        | none => simp [reconcileScannedSubnets, parsed] at done
        | some networks =>
            obtain ⟨created, succession, labels⟩ :=
              reconcileScannedSubnets_succession parsed done
            exact ⟨created, _, succession, labels, newPositions_nodup _ _⟩
      · obtain rfl := Option.some.inj done
        obtain ⟨created, succession, labels⟩ := reconcileInventory_succession previous
          result.devices result.completedAt result.reachableKnown uuids
        exact ⟨created, _, succession, labels, newPositions_nodup _ _⟩

end

/-! What a succession means for the candidates. -/

/-- Every old candidate is listed once, no candidate twice, and a stored first sighting
stays. -/
structure KeepsCandidates (older newer : List Device) : Prop where
  distinct : DistinctCandidates newer
  once : ∀ old ∈ older, (candidates newer).count old.candidateUuid = 1
  firstSeen : ∀ old ∈ older, ∀ new ∈ newer, new.candidateUuid = old.candidateUuid →
    ∀ time, old.firstSeen = some time → new.firstSeen = some time

theorem KeepsCandidates.refl {devices : List Device} (distinct : DistinctCandidates devices) :
    KeepsCandidates devices devices := by
  refine ⟨distinct, ?_, ?_⟩
  · intro old member
    exact List.count_eq_one_of_mem distinct.distinct (List.mem_map_of_mem member)
  · intro old oldMember new newMember sameName time seen
    obtain rfl := List.inj_on_of_nodup_map distinct.distinct newMember oldMember sameName
    exact seen

theorem KeepsCandidates.trans {older between newer : List Device}
    (first : KeepsCandidates older between) (second : KeepsCandidates between newer) :
    KeepsCandidates older newer := by
  have successor (old : Device) (member : old ∈ older) :
      ∃ middle ∈ between, middle.candidateUuid = old.candidateUuid := by
    have listed : old.candidateUuid ∈ candidates between :=
      List.count_pos_iff.mp (by rw [first.once old member]; omega)
    obtain ⟨middle, isMiddle, sameName⟩ := List.mem_map.mp listed
    exact ⟨middle, isMiddle, sameName⟩
  refine ⟨second.distinct, ?_, ?_⟩
  · intro old member
    obtain ⟨middle, isMiddle, sameName⟩ := successor old member
    rw [← sameName]
    exact second.once middle isMiddle
  · intro old member new newMember sameName time seen
    obtain ⟨middle, isMiddle, middleName⟩ := successor old member
    exact second.firstSeen middle isMiddle new newMember (sameName.trans middleName.symm) time
      (first.firstSeen old member middle isMiddle middleName time seen)

theorem SucceedsFreshly.keeps {previous written : List Device} {uuids : Nat → String}
    (succeeds : SucceedsFreshly previous written uuids) (distinct : DistinctCandidates previous)
    (fresh : FreshUuids previous uuids) : KeepsCandidates previous written := by
  obtain ⟨created, positions, succession, labels, single⟩ := succeeds
  have writtenDistinct := succession.distinctCandidates labels single distinct fresh
  obtain ⟨successors, related, split⟩ := succession
  have successor (old : Device) (member : old ∈ previous) :
      ∃ new ∈ written, Succeeds old new := by
    obtain ⟨index, bound, rfl⟩ := List.getElem_of_mem member
    have newBound : index < successors.length := related.length_eq ▸ bound
    exact ⟨successors[index],
      split.mem_iff.mpr (List.mem_append_left _ (List.getElem_mem newBound)),
      related.get bound newBound⟩
  refine ⟨writtenDistinct, ?_, ?_⟩
  · intro old member
    obtain ⟨new, newMember, succeeds⟩ := successor old member
    rw [← succeeds.candidate (distinct.named old member)]
    exact List.count_eq_one_of_mem writtenDistinct.distinct (List.mem_map_of_mem newMember)
  · intro old member new newMember sameName time seen
    obtain ⟨heir, heirMember, succeeds⟩ := successor old member
    have heirName := succeeds.candidate (distinct.named old member)
    obtain rfl := List.inj_on_of_nodup_map writtenDistinct.distinct newMember heirMember
      (sameName.trans heirName.symm)
    exact succeeds.firstSeen time seen

/-! Sequences of scans. -/

/-- One call of `handle_scan`. -/
structure ScanCall where
  request : ScanRequest
  scan : Option ScanResult
  uuids : Nat → String
  failedAt : String

def handlesScan [TextCase] (files : ScanFiles) (call : ScanCall) (next : ScanFiles) : Prop :=
  handleScan call.request call.scan call.uuids call.failedAt files = next

def inventoryDevices (files : ScanFiles) : List Device := (readInventory files).devices

def FreshScan (files : ScanFiles) (call : ScanCall) : Prop :=
  FreshUuids (inventoryDevices files) call.uuids

theorem handleScan_failed [TextCase] {request : ScanRequest} {scan : Option ScanResult}
    {uuids : Nat → String} {failedAt : String} {files : ScanFiles}
    (failed : ((handleScan request scan uuids failedAt files).state.bind (·.status)) =
      some .error) :
    (handleScan request scan uuids failedAt files).inventory = files.inventory := by
  simp only [handleScan] at failed ⊢
  split
  · rename_i payload written
    obtain ⟨result, _, devices⟩ := Option.bind_eq_some_iff.mp written
    obtain ⟨_, _, rfl⟩ := Option.map_eq_some_iff.mp devices
    simp [written, completeState] at failed
  · rfl

theorem handleScan_keeps [TextCase] {files next : ScanFiles} {call : ScanCall}
    (distinct : DistinctCandidates (inventoryDevices files)) (fresh : FreshScan files call)
    (handled : handlesScan files call next) :
    KeepsCandidates (inventoryDevices files) (inventoryDevices next) := by
  subst handled
  simp only [handleScan]
  split
  · rename_i payload written
    obtain ⟨result, _, devices⟩ := Option.bind_eq_some_iff.mp written
    obtain ⟨written, scanned, rfl⟩ := Option.map_eq_some_iff.mp devices
    exact (scannedDevices_succeeds distinct.distinct scanned).keeps distinct fresh
  · exact KeepsCandidates.refl distinct

/-- Over any sequence of scans, in any modes and with any results, the inventory keeps every
candidate once and its first sighting, and a failing scan leaves the inventory file alone. -/
theorem scans_keep_candidates [TextCase] {before after : ScanFiles}
    (distinct : DistinctCandidates (inventoryDevices before))
    (run : Reaches handlesScan FreshScan before after) :
    KeepsCandidates (inventoryDevices before) (inventoryDevices after) ∧
      ∀ call next, handlesScan after call next →
        next.state.bind (·.status) = some .error → next.inventory = after.inventory := by
  constructor
  · refine run.related (fun files => DistinctCandidates (inventoryDevices files))
      (fun first last => KeepsCandidates (inventoryDevices first) (inventoryDevices last))
      distinct ?_ (KeepsCandidates.refl distinct) ?_
    · intro files call next named fresh handled
      exact (handleScan_keeps named fresh handled).distinct
    · intro files call next named kept fresh handled
      exact kept.trans (handleScan_keeps named fresh handled)
  · rintro call next rfl failed
    exact handleScan_failed failed

def knownCamera (candidateUuid ip mac : String) : Device where
  ip := ip
  mac := some mac
  candidateUuid := candidateUuid
  firstSeen := some "t0"

def sightingOf (ip mac : String) : ScanResult where
  devices := [{ ip := ip, mac := some mac, displayName := ip }]
  completedAt := "t1"

def fullCall : ScanCall where
  request := { scanId := some "s1" }
  scan := some (sightingOf "192.168.1.30" "AA:BB:CC:DD:EE:01")
  uuids := uuidSupply 'a'
  failedAt := "t1"

def addressCall : ScanCall where
  request := { scanId := some "s2", mode := some "address", address := some "192.168.1.40" }
  scan := some (sightingOf "192.168.1.40" "aa:bb:cc:dd:ee:02")
  uuids := uuidSupply 'b'
  failedAt := "t2"

/-- A full scan finds the known camera at a new address, an address scan finds another one. -/
theorem two_scans_keep_candidate :
    let _ := asciiCase
    let handled (files : ScanFiles) (call : ScanCall) : ScanFiles :=
      handleScan call.request call.scan call.uuids call.failedAt files
    let before : ScanFiles :=
      { inventory := some { devices := [knownCamera "x" "192.168.1.20" "aa:bb:cc:dd:ee:01"] } }
    let after := handled (handled before fullCall) addressCall
    candidates (inventoryDevices after) = ["x", "b"] ∧
      KeepsCandidates (inventoryDevices before) (inventoryDevices after) := by
  intro text handled before after
  have fullFresh : FreshScan before fullCall := uuidSupply_fresh (by decide)
  have addressFresh : FreshScan (handled before fullCall) addressCall :=
    uuidSupply_fresh (by decide +kernel)
  have run : Reaches handlesScan FreshScan before after :=
    (Reaches.start.step fullCall fullFresh rfl).step addressCall addressFresh rfl
  exact ⟨by decide +kernel, (scans_keep_candidates ⟨by decide, by decide⟩ run).1⟩

end CamAdmiral
