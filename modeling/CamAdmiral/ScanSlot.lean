import CamAdmiral.Runs
import CamAdmiral.ScannerPreserves
import CamAdmiral.ScanSlotCore

/-!
What holds of the three scan files in every interleaving of the control process and the
scanner worker. The worker keeps the slot free between scans; the one step that can spoil
it is the write-back of a copy that the worker has replaced in the meantime.
-/

namespace CamAdmiral

/-! Inventories that agree up to the fields of an unadopted candidate. -/

def MarkedAs (unadopted : List String) (scanned device : Device) : Prop :=
  device = { scanned with
    status := device.status, lastSeen := device.lastSeen, missedScans := device.missedScans } ∧
  (scanned.candidateUuid ∉ unadopted → device = scanned)

/-- The same devices up to the status, last sighting and missed scans of the candidates
that were unadopted. -/
def SameUpToMarks (unadopted : List String) (scanned devices : List Device) : Prop :=
  List.Forall₂ (MarkedAs unadopted) scanned devices

theorem MarkedAs.trans {unadopted : List String} {first second third : Device}
    (one : MarkedAs unadopted first second) (two : MarkedAs unadopted second third) :
    MarkedAs unadopted first third := by
  obtain ⟨sameFirst, keptFirst⟩ := one
  obtain ⟨sameSecond, keptSecond⟩ := two
  constructor
  · rw [sameSecond, sameFirst]
  · intro unmarked
    obtain rfl := keptFirst unmarked
    exact keptSecond unmarked

theorem SameUpToMarks.refl (unadopted : List String) (devices : List Device) :
    SameUpToMarks unadopted devices devices :=
  List.forall₂_same.mpr fun _ _ => ⟨rfl, fun _ => rfl⟩

theorem SameUpToMarks.trans {unadopted : List String} {first second third : List Device}
    (one : SameUpToMarks unadopted first second) (two : SameUpToMarks unadopted second third) :
    SameUpToMarks unadopted first third := by
  apply List.forall₂_iff_get.mpr
  have firstLengths := one.length_eq
  have secondLengths := two.length_eq
  refine ⟨firstLengths.trans secondLengths, ?_⟩
  intro index firstBound thirdBound
  have secondBound : index < second.length := by omega
  exact (one.get firstBound secondBound).trans (two.get secondBound thirdBound)

theorem SameUpToMarks.weaken {unadopted : List String} {scanned devices : List Device}
    (same : SameUpToMarks unadopted scanned devices) (candidateUuid : String) :
    SameUpToMarks (candidateUuid :: unadopted) scanned devices :=
  List.Forall₂.imp (fun _ _ marked =>
    ⟨marked.1, fun unmarked => marked.2 fun member => unmarked (List.mem_cons_of_mem _ member)⟩)
    same

theorem worker_succeeds [TextCase] {system : ScanSystem} {request : ScanRequest}
    {result : ScanResult} {uuids : Nat → String} {devices : List Device} (failedAt : String)
    (idle : system.worker = .idle) (pending : system.files.request = some request)
    (scanned : scannedDevices request (inventoryDevices system.files) result uuids =
      some devices) :
    runActions scanStep system [.readRequest, .readInventory, .writeRunning,
        .succeed result uuids, .writeComplete, .removeRequest] =
      some { system with
        files := handleScan request (some result) uuids failedAt system.files
        lastScan := devices } := by
  rw [inventoryDevices] at scanned
  simp [runActions, scanStep, workerStep, ScanSystem.writeState, handleScan, idle, pending, scanned]

theorem worker_fails [TextCase] {system : ScanSystem} {request : ScanRequest}
    (uuids : Nat → String) (failedAt : String)
    (idle : system.worker = .idle) (pending : system.files.request = some request) :
    runActions scanStep system [.readRequest, .readInventory, .writeRunning, .fail failedAt,
        .removeRequest] =
      some { system with files := handleScan request none uuids failedAt system.files } := by
  simp [runActions, scanStep, workerStep, ScanSystem.writeState, handleScan, idle, pending]

end CamAdmiral
