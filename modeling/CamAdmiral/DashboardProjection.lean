import CamAdmiral.DashboardCore
import Mathlib.Algebra.BigOperators.Group.List.Basic
import Mathlib.Algebra.GroupWithZero.Nat

/-!
Where an adoption is shown. The projection gives a row to the device that has the id of the
adoption and one to the device that the adoption's verified identity leads to, so the number
of rows an adoption gets can be read off the two.
-/

namespace CamAdmiral

section
variable [TextCase]

/-! The owners. -/

/-- The device or stored identity that the verified identity of a camera leads to. -/
def linkedPhysical (input : DashboardInput) (adoption : Adoption) : Option Device :=
  if (input.links.lookup adoption.camera.cameraUuid).isNone then
    none
  else
    linkedCandidate input.devices input.links adoption.camera

theorem linkedOwners_eq (input : DashboardInput) :
    linkedOwners input = input.adoptions.filterMap fun adoption =>
      (linkedPhysical input adoption).map fun physical => (adoption.candidateUuid, physical) := by
  simp only [linkedOwners, linkedPhysical]
  congr 1
  funext adoption
  split <;> rfl

theorem linkedOwners_unique {input : DashboardInput}
    (unique : Unique Adoption.candidateUuid input.adoptions) :
    Unique (fun owner : String × Device => owner.1) (linkedOwners input) := by
  rw [linkedOwners_eq]
  refine List.Nodup.sublist ?_ unique
  clear unique
  induction input.adoptions with
  | nil => simp
  | cons adoption rest ih =>
      rw [List.filterMap_cons]
      cases linkedPhysical input adoption with
      | none => exact ih.cons _
      | some physical => exact ih.cons_cons _

theorem mem_linkedOwners {input : DashboardInput}
    (unique : Unique Adoption.candidateUuid input.adoptions) {adoption : Adoption}
    (member : adoption ∈ input.adoptions) (physical : Device) :
    (adoption.candidateUuid, physical) ∈ linkedOwners input ↔
      linkedPhysical input adoption = some physical := by
  rw [linkedOwners_eq, List.mem_filterMap]
  constructor
  · rintro ⟨other, isOther, owned⟩
    obtain ⟨found, isFound, same⟩ := Option.map_eq_some_iff.mp owned
    obtain ⟨sameUuid, rfl⟩ := Prod.mk.inj same
    obtain rfl := unique.eq isOther member sameUuid
    exact isFound
  · intro owned
    exact ⟨adoption, member, by rw [owned]; rfl⟩

/-! The projection. -/

/-- The rows of the owners of a device that are not the device itself. -/
def channelsOf (owners : List (String × Device)) (deviceUuid : String) : List Device :=
  ((ownersOf owners deviceUuid).filter fun owner => owner.1 ≠ deviceUuid).map
    fun owner => channelRow owner.1 owner.2

omit [TextCase] in
/-- No id comes twice, so none is ever held back. -/
theorem projectChannels_eq (deviceUuid : String) {owners : List (String × Device)}
    {projectedIds : List String}
    (unique : Unique (fun owner : String × Device => owner.1) owners)
    (isFresh : ∀ owner ∈ owners, owner.1 ∉ projectedIds) :
    (projectChannels deviceUuid owners projectedIds).1 =
      (owners.filter fun owner => owner.1 ≠ deviceUuid).map
        (fun owner => channelRow owner.1 owner.2) ∧
      ∀ projected ∈ (projectChannels deviceUuid owners projectedIds).2,
        projected ∈ projectedIds ∨ ∃ owner ∈ owners, owner.1 = projected := by
  induction owners generalizing projectedIds with
  | nil => exact ⟨rfl, fun _ member => .inl member⟩
  | cons owner rest ih =>
      obtain ⟨others, tail⟩ := List.nodup_cons.mp unique
      obtain ⟨candidateUuid, physical⟩ := owner
      have notProjected := isFresh _ List.mem_cons_self
      have restFresh := fun other member => isFresh other (List.mem_cons_of_mem _ member)
      rw [projectChannels]
      by_cases isDevice : candidateUuid = deviceUuid
      · obtain ⟨rows, ids⟩ := ih tail restFresh
        rw [if_neg (by simp [isDevice]), List.filter_cons_of_neg (by simp [isDevice])]
        refine ⟨rows, fun projected member => ?_⟩
        rcases ids projected member with isOld | ⟨other, isOther, same⟩
        · exact .inl isOld
        · exact .inr ⟨other, List.mem_cons_of_mem _ isOther, same⟩
      · have extended : ∀ other ∈ rest, other.1 ∉ candidateUuid :: projectedIds := by
          intro other member isProjected
          rcases List.mem_cons.mp isProjected with same | isOld
          · exact others (same ▸ List.mem_map_of_mem (f := fun owner => owner.1) member)
          · exact restFresh other member isOld
        obtain ⟨rows, ids⟩ := ih tail extended
        rw [if_pos ⟨isDevice, notProjected⟩, List.filter_cons_of_pos (by simp [isDevice])]
        refine ⟨congrArg (channelRow candidateUuid physical :: ·) rows,
          fun projected member => ?_⟩
        rcases ids projected member with isListed | ⟨other, isOther, same⟩
        · rcases List.mem_cons.mp isListed with rfl | isOld
          · exact .inr ⟨_, List.mem_cons_self, rfl⟩
          · exact .inl isOld
        · exact .inr ⟨other, List.mem_cons_of_mem _ isOther, same⟩

omit [TextCase] in
theorem projectDevices_eq {owners : List (String × Device)} (adoptions : List Adoption)
    {devices : List Device} {projectedIds : List String}
    (distinct : Unique Device.candidateUuid devices)
    (unique : Unique (fun owner : String × Device => owner.1) owners)
    (isFresh : ∀ owner ∈ owners, owner.2.candidateUuid ∈ candidates devices →
      owner.1 ∉ projectedIds) :
    projectDevices owners adoptions devices projectedIds = devices.flatMap fun device =>
      ownRow (ownersOf owners device.candidateUuid) adoptions device ++
        channelsOf owners device.candidateUuid := by
  induction devices generalizing projectedIds with
  | nil => rfl
  | cons device rest ih =>
      obtain ⟨others, tail⟩ := List.nodup_cons.mp distinct
      have mineFresh : ∀ owner ∈ ownersOf owners device.candidateUuid,
          owner.1 ∉ projectedIds := by
        intro owner member
        obtain ⟨isOwner, isMine⟩ := List.mem_filter.mp member
        apply isFresh owner isOwner
        rw [of_decide_eq_true isMine]
        exact List.mem_cons_self
      have mineUnique : Unique (fun owner : String × Device => owner.1)
          (ownersOf owners device.candidateUuid) := unique.filter _
      obtain ⟨rows, ids⟩ := projectChannels_eq device.candidateUuid mineUnique mineFresh
      rw [projectDevices, List.flatMap_cons, rows, ih tail]
      · rfl
      · intro owner isOwner inRest isProjected
        rcases ids owner.1 isProjected with isOld | ⟨other, isOther, same⟩
        · exact isFresh owner isOwner (List.mem_cons_of_mem _ inRest) isOld
        · obtain ⟨otherOwner, isMine⟩ := List.mem_filter.mp isOther
          obtain rfl := unique.eq otherOwner isOwner same
          rw [of_decide_eq_true isMine] at inRest
          exact others inRest

theorem projected_eq {input : DashboardInput}
    (distinct : Unique Device.candidateUuid input.devices)
    (unique : Unique Adoption.candidateUuid input.adoptions) :
    projectDevices (linkedOwners input) input.adoptions input.devices [] =
      input.devices.flatMap fun device =>
        ownRow (ownersOf (linkedOwners input) device.candidateUuid) input.adoptions device ++
          channelsOf (linkedOwners input) device.candidateUuid :=
  projectDevices_eq _ distinct (linkedOwners_unique unique) fun _ _ _ => List.not_mem_nil

/-! The rows that one device leads to. -/

omit [TextCase] in
theorem ownRow_candidateUuid {owners : List (String × Device)} {adoptions : List Adoption}
    {device row : Device}
    (member : row ∈ ownRow (ownersOf owners device.candidateUuid) adoptions device) :
    row.candidateUuid = device.candidateUuid := by
  rw [ownRow] at member
  split at member
  · obtain rfl := List.mem_singleton.mp member
    cases found : (ownersOf owners device.candidateUuid).find? fun owner =>
        owner.1 = device.candidateUuid with
    | none => rfl
    | some owner => exact of_decide_eq_true (List.mem_filter.mp (List.mem_of_find?_eq_some found)).2
  · simp at member

omit [TextCase] in
/-- A device whose id an adoption has keeps one row, and no other device a row with that id. -/
theorem ownRow_count {adoptions : List Adoption} {adoption : Adoption}
    (member : adoption ∈ adoptions) (owners : List (String × Device)) (device : Device) :
    (ownRow (ownersOf owners device.candidateUuid) adoptions device).countP
        (·.candidateUuid = adoption.candidateUuid) =
      if device.candidateUuid = adoption.candidateUuid then 1 else 0 := by
  split
  · rename_i same
    have adopted : (adoptionOf adoptions device.candidateUuid).isSome = true := by
      obtain ⟨found, isFound⟩ : ∃ found, rowAt Adoption.candidateUuid adoptions
          adoption.candidateUuid = some found := rowAt_isSome member
      rw [adoptionOf, same, isFound]
      rfl
    have all : ∀ row ∈ ownRow (ownersOf owners device.candidateUuid) adoptions device,
        decide (row.candidateUuid = adoption.candidateUuid) = true := by
      intro row isRow
      rw [ownRow_candidateUuid isRow]
      exact decide_eq_true same
    rw [List.countP_eq_length.mpr all]
    simp [ownRow, adopted]
  · rename_i other
    rw [List.countP_eq_zero]
    intro row isRow isAdoption
    rw [ownRow_candidateUuid isRow] at isAdoption
    exact other (of_decide_eq_true isAdoption)

omit [TextCase] in
theorem channelsOf_count {owners : List (String × Device)}
    (unique : Unique (fun owner : String × Device => owner.1) owners)
    (candidateUuid deviceUuid : String) :
    (channelsOf owners deviceUuid).countP (·.candidateUuid = candidateUuid) =
      if candidateUuid ≠ deviceUuid ∧
          (rowAt (·.1) owners candidateUuid).map (·.2.candidateUuid) = some deviceUuid then 1
      else 0 := by
  have named : (channelsOf owners deviceUuid).countP (·.candidateUuid = candidateUuid) =
      (owners.filter (·.1 = candidateUuid)).countP fun owner =>
        owner.1 ≠ deviceUuid && owner.2.candidateUuid = deviceUuid := by
    simp only [channelsOf, ownersOf, List.countP_map, List.countP_filter]
    apply List.countP_congr
    intro owner _
    simp only [Function.comp_apply, channelRow, Bool.and_eq_true, decide_eq_true_eq]
    tauto
  rw [named, unique.filter_key]
  cases found : rowAt (fun owner : String × Device => owner.1) owners candidateUuid with
  | none => simp
  | some owner =>
      obtain ⟨_, rfl⟩ := rowAt_some found
      by_cases isMine : owner.2.candidateUuid = deviceUuid
      · by_cases isDevice : owner.1 = deviceUuid
        · simp [isDevice]
        · simp [isDevice, isMine]
      · simp [isMine]

omit [TextCase] in
theorem count_device {devices : List Device} (distinct : Unique Device.candidateUuid devices)
    (wanted : Option String) :
    (devices.map fun device => if wanted = some device.candidateUuid then 1 else 0).sum =
      if wanted.any (· ∈ candidates devices) then 1 else 0 := by
  induction devices with
  | nil => cases wanted <;> simp [candidates]
  | cons device rest ih =>
      obtain ⟨others, tail⟩ := List.nodup_cons.mp distinct
      rw [List.map_cons, List.sum_cons, ih tail]
      by_cases isDevice : wanted = some device.candidateUuid
      · have absent : device.candidateUuid ∉ candidates rest := others
        rw [isDevice, Option.any_some, Option.any_some, decide_eq_false absent,
          decide_eq_true (show device.candidateUuid ∈ candidates (device :: rest) from
            List.mem_cons_self)]
        simp
      · cases wanted with
        | none => simp
        | some uuid =>
            have other : uuid ≠ device.candidateUuid := fun same => isDevice (congrArg some same)
            simp [other, candidates]

theorem owner_of_adoption {input : DashboardInput}
    (unique : Unique Adoption.candidateUuid input.adoptions) {adoption : Adoption}
    (member : adoption ∈ input.adoptions) :
    (rowAt (·.1) (linkedOwners input) adoption.candidateUuid).map (·.2.candidateUuid) =
      (linkedPhysical input adoption).map (·.candidateUuid) := by
  cases found : linkedPhysical input adoption with
  | none =>
      have absent : rowAt (·.1) (linkedOwners input) adoption.candidateUuid = none := by
        apply rowAt_none.mpr
        rintro ⟨candidateUuid, physical⟩ isOwner same
        obtain rfl : candidateUuid = adoption.candidateUuid := same
        rw [(mem_linkedOwners unique member physical).mp isOwner] at found
        cases found
      rw [absent]
      rfl
  | some physical =>
      have isOwner := (mem_linkedOwners unique member physical).mpr found
      have listed := (linkedOwners_unique unique).rowAt_eq isOwner
      dsimp only at listed
      rw [listed]
      rfl

/-- The id of a device other than its own that an adoption's identity leads to. -/
def otherPhysical (input : DashboardInput) (adoption : Adoption) : Option String :=
  ((linkedPhysical input adoption).map (·.candidateUuid)).filter (· ≠ adoption.candidateUuid)

/-- The rows with the id of an adoption: one for the device with this id, one for another
device that the adoption's identity leads to. -/
theorem projected_count {input : DashboardInput}
    (distinct : Unique Device.candidateUuid input.devices)
    (unique : Unique Adoption.candidateUuid input.adoptions) {adoption : Adoption}
    (member : adoption ∈ input.adoptions) :
    (projectDevices (linkedOwners input) input.adoptions input.devices []).countP
        (·.candidateUuid = adoption.candidateUuid) =
      (if adoption.candidateUuid ∈ candidates input.devices then 1 else 0) +
        if (otherPhysical input adoption).any (· ∈ candidates input.devices) then 1 else 0 := by
  have perDevice (device : Device) :
      (ownRow (ownersOf (linkedOwners input) device.candidateUuid) input.adoptions device ++
          channelsOf (linkedOwners input) device.candidateUuid).countP
            (·.candidateUuid = adoption.candidateUuid) =
        (if some adoption.candidateUuid = some device.candidateUuid then 1 else 0) +
          if otherPhysical input adoption = some device.candidateUuid then 1 else 0 := by
    rw [List.countP_append, ownRow_count member, channelsOf_count (linkedOwners_unique unique),
      owner_of_adoption unique member]
    congr 1
    · simp [eq_comm]
    · simp only [otherPhysical, Option.filter_eq_some_iff, decide_eq_true_eq]
      congr 1
      apply propext
      constructor
      · exact fun ⟨isOther, leads⟩ => ⟨leads, isOther.symm⟩
      · exact fun ⟨leads, isOther⟩ => ⟨isOther.symm, leads⟩
  rw [projected_eq distinct unique, List.countP_flatMap]
  simp only [Function.comp_def, perDevice]
  rw [List.sum_map_add, count_device distinct, count_device distinct]
  simp

/-! The rows an adoption is attached to. -/

def carries (adoption : Adoption) (row : DashboardDevice) : Bool :=
  row.adoption.map (·.adoption) = some adoption

theorem carries_decorateDevice {input : DashboardInput}
    (unique : Unique Adoption.candidateUuid input.adoptions) {adoption : Adoption}
    (member : adoption ∈ input.adoptions) (device : Device) :
    carries adoption (decorateDevice input device) =
      decide (device.candidateUuid = adoption.candidateUuid) := by
  rw [decorateDevice]
  cases found : adoptionOf input.adoptions device.candidateUuid with
  | none =>
      have other := rowAt_none.mp found adoption member
      simp [carries, Ne.symm other]
  | some attached =>
      obtain ⟨isAttached, same⟩ := rowAt_some found
      have sameAdoption : attached = adoption ↔ device.candidateUuid = adoption.candidateUuid := by
        constructor
        · rintro rfl
          exact same.symm
        · exact fun isAdoption => unique.eq isAttached member (same.trans isAdoption)
      simp [carries, decorateAdoption, sameAdoption]

theorem carries_directDevice (input : DashboardInput) (adoption other : Adoption) :
    carries adoption (directDevice input other) = decide (other = adoption) := by
  simp [carries, directDevice, decorateAdoption]

omit [TextCase] in
theorem carries_blockedRow (adoption : Adoption) (record : BlockedDevice) :
    carries adoption (blockedRow record) = false := by
  simp [carries, blockedRow]

/-- The rows that the projection gives to an adoption. -/
def projectedRows (input : DashboardInput) (adoption : Adoption) : Nat :=
  (if adoption.candidateUuid ∈ candidates input.devices then 1 else 0) +
    if (otherPhysical input adoption).any (· ∈ candidates input.devices) then 1 else 0

theorem decorated_count {input : DashboardInput}
    (distinct : Unique Device.candidateUuid input.devices)
    (unique : Unique Adoption.candidateUuid input.adoptions) {adoption : Adoption}
    (member : adoption ∈ input.adoptions) :
    (decoratedDevices input).countP (carries adoption) = projectedRows input adoption := by
  rw [decoratedDevices, List.countP_map, projectedRows, ← projected_count distinct unique member]
  apply List.countP_congr
  intro device _
  rw [Function.comp_apply, carries_decorateDevice unique member]

theorem mem_matched {input : DashboardInput}
    (unique : Unique Adoption.candidateUuid input.adoptions) {adoption : Adoption}
    (member : adoption ∈ input.adoptions) :
    adoption.candidateUuid ∈ matchedAdoptions input ↔
      0 < (decoratedDevices input).countP (carries adoption) := by
  rw [matchedAdoptions, List.mem_filterMap, List.countP_pos_iff]
  constructor
  · rintro ⟨row, isRow, isAttached⟩
    refine ⟨row, isRow, ?_⟩
    obtain ⟨carried, isCarried, same⟩ := Option.map_eq_some_iff.mp isAttached
    obtain ⟨device, _, rfl⟩ := List.mem_map.mp isRow
    rw [carries_decorateDevice unique member]
    simp only [decorateDevice] at isCarried
    split at isCarried
    · cases isCarried
    · rename_i attached found
      obtain rfl := Option.some.inj isCarried
      exact decide_eq_true ((rowAt_some found).2.symm.trans same)
  · rintro ⟨row, isRow, isCarried⟩
    refine ⟨row, isRow, ?_⟩
    obtain ⟨carried, isAttached, rfl⟩ :=
      Option.map_eq_some_iff.mp (of_decide_eq_true isCarried)
    rw [isAttached]
    rfl

theorem direct_count {input : DashboardInput}
    (unique : Unique Adoption.candidateUuid input.adoptions) {adoption : Adoption}
    (member : adoption ∈ input.adoptions) (matched : List String) :
    ((input.adoptions.filter fun other =>
        other.candidateUuid ∉ matched ∧ other.cameraOrigin = "direct").map
          (directDevice input)).countP (carries adoption) =
      if adoption.candidateUuid ∉ matched ∧ adoption.cameraOrigin = "direct" then 1 else 0 := by
  have listedOnce : input.adoptions.count adoption = 1 :=
    List.count_eq_one_of_mem (List.Nodup.of_map _ unique) member
  rw [List.countP_map, List.countP_filter]
  split
  · rename_i isDirect
    rw [← listedOnce, List.count]
    apply List.countP_congr
    intro other _
    simp only [Function.comp_apply, carries_directDevice, Bool.and_eq_true, decide_eq_true_eq,
      beq_iff_eq]
    constructor
    · exact fun same => same.1
    · rintro rfl
      exact ⟨rfl, isDirect⟩
  · rename_i notDirect
    rw [List.countP_eq_zero]
    intro other _ both
    simp only [Function.comp_apply, carries_directDevice, Bool.and_eq_true,
      decide_eq_true_eq] at both
    exact notDirect (both.1 ▸ both.2)

/-- An adoption is attached to the rows the projection gives it, and to one of its own if it is
direct and gets none. -/
theorem attached_count {input : DashboardInput}
    (distinct : Unique Device.candidateUuid input.devices)
    (unique : Unique Adoption.candidateUuid input.adoptions) {adoption : Adoption}
    (member : adoption ∈ input.adoptions) :
    (decorateAdoptions input).devices.countP (carries adoption) =
      projectedRows input adoption +
        if projectedRows input adoption = 0 ∧ adoption.cameraOrigin = "direct" then 1 else 0 := by
  have decorated := decorated_count distinct unique member
  have unmatched : adoption.candidateUuid ∉ matchedAdoptions input ↔
      projectedRows input adoption = 0 := by
    rw [mem_matched unique member, decorated]
    omega
  have noBlocked {records : List BlockedDevice} :
      (records.map blockedRow).countP (carries adoption) = 0 := by
    rw [List.countP_map, List.countP_eq_zero]
    intro record _
    simp [carries_blockedRow]
  simp only [Dashboard.devices, decorateAdoptions, List.countP_append]
  rw [decorated, direct_count unique member, noBlocked]
  simp only [unmatched, Nat.add_zero]

/-! The row of a scanned device. -/

def adopted (input : DashboardInput) (device : Device) : Prop :=
  device.candidateUuid ∈ input.adoptions.map Adoption.candidateUuid

theorem mem_ownersOf {input : DashboardInput} {owner : String × Device} {physicalUuid : String} :
    owner ∈ ownersOf (linkedOwners input) physicalUuid ↔
      ∃ adoption ∈ input.adoptions, adoption.candidateUuid = owner.1 ∧
        linkedPhysical input adoption = some owner.2 ∧
        owner.2.candidateUuid = physicalUuid := by
  rw [ownersOf, List.mem_filter, linkedOwners_eq, List.mem_filterMap, decide_eq_true_iff]
  constructor
  · rintro ⟨⟨adoption, member, owned⟩, isPhysical⟩
    obtain ⟨physical, isFound, rfl⟩ := Option.map_eq_some_iff.mp owned
    exact ⟨adoption, member, rfl, isFound, isPhysical⟩
  · rintro ⟨adoption, member, same, isFound, isPhysical⟩
    exact ⟨⟨adoption, member, by rw [isFound, Option.map_some, same]⟩, isPhysical⟩

theorem decorateDevice_candidateUuid (input : DashboardInput) (device : Device) :
    (decorateDevice input device).device.candidateUuid = device.candidateUuid := by
  rw [decorateDevice]
  split <;> rfl

theorem directDevice_candidateUuid (input : DashboardInput) (adoption : Adoption) :
    (directDevice input adoption).device.candidateUuid = adoption.candidateUuid := by
  simp only [directDevice]
  cases linkedCandidate input.devices input.links adoption.camera <;> rfl

/-- An id that no adoption has is left with the row of its own device. -/
theorem projected_filter {input : DashboardInput}
    (distinct : Unique Device.candidateUuid input.devices)
    (unique : Unique Adoption.candidateUuid input.adoptions) {device : Device}
    (member : device ∈ input.devices) (notAdopted : ¬ adopted input device) :
    (projectDevices (linkedOwners input) input.adoptions input.devices []).filter
        (·.candidateUuid = device.candidateUuid) =
      if ownersOf (linkedOwners input) device.candidateUuid = [] then [device] else [] := by
  have perDevice (other : Device) :
      (ownRow (ownersOf (linkedOwners input) other.candidateUuid) input.adoptions other ++
          channelsOf (linkedOwners input) other.candidateUuid).filter
            (·.candidateUuid = device.candidateUuid) =
        if other.candidateUuid = device.candidateUuid then
          ownRow (ownersOf (linkedOwners input) other.candidateUuid) input.adoptions other
        else [] := by
    have noChannel : (channelsOf (linkedOwners input) other.candidateUuid).filter
        (·.candidateUuid = device.candidateUuid) = [] := by
      rw [List.filter_eq_nil_iff]
      intro row isChannel isDevice
      obtain ⟨owner, isOwner, rfl⟩ := List.mem_map.mp isChannel
      obtain ⟨adoption, isAdoption, same, _⟩ :=
        mem_ownersOf.mp (List.mem_filter.mp isOwner).1
      have sameUuid : owner.1 = device.candidateUuid := of_decide_eq_true isDevice
      exact notAdopted (List.mem_map.mpr ⟨adoption, isAdoption, same.trans sameUuid⟩)
    rw [List.filter_append, noChannel, List.append_nil]
    split
    · rename_i same
      rw [List.filter_eq_self]
      intro row isRow
      exact decide_eq_true ((ownRow_candidateUuid isRow).trans same)
    · rename_i different
      rw [List.filter_eq_nil_iff]
      intro row isRow isDevice
      exact different ((ownRow_candidateUuid isRow).symm.trans (of_decide_eq_true isDevice))
  have onlyDevice (rows : List Device) (view : Device → List Device) :
      rows.flatMap (fun other =>
        if other.candidateUuid = device.candidateUuid then view other else []) =
        (rows.filter (·.candidateUuid = device.candidateUuid)).flatMap view := by
    induction rows with
    | nil => rfl
    | cons other rest ih =>
        by_cases same : other.candidateUuid = device.candidateUuid
        · rw [List.flatMap_cons, if_pos same, List.filter_cons_of_pos (by simpa using same), ih,
            List.flatMap_cons]
        · rw [List.flatMap_cons, if_neg same, List.filter_cons_of_neg (by simpa using same), ih,
            List.nil_append]
  have isNew : (adoptionOf input.adoptions device.candidateUuid).isSome = false := by
    rw [Option.isSome_eq_false_iff, Option.isNone_iff_eq_none, adoptionOf, rowAt_none]
    intro adoption isAdoption same
    exact notAdopted (List.mem_map.mpr ⟨adoption, isAdoption, same⟩)
  rw [projected_eq distinct unique, List.filter_flatMap]
  simp only [perDevice]
  rw [onlyDevice, distinct.filter_key, distinct.rowAt_eq member, Option.toList_some,
    List.flatMap_singleton, ownRow, isNew]
  cases ownersOf (linkedOwners input) device.candidateUuid with
  | nil => rfl
  | cons owner rest => rfl

/-- A scanned device that is not adopted is shown as it is, exactly if no adoption's identity
leads to its id. -/
theorem shown_iff {input : DashboardInput}
    (distinct : Unique Device.candidateUuid input.devices)
    (unique : Unique Adoption.candidateUuid input.adoptions) {device : Device}
    (member : device ∈ input.devices) (notAdopted : ¬ adopted input device) :
    ((decorateAdoptions input).shown.filter
        (·.device.candidateUuid = device.candidateUuid)).map (·.device) = [device] ↔
      ∀ adoption ∈ input.adoptions, ∀ physical, linkedPhysical input adoption = some physical →
        physical.candidateUuid ≠ device.candidateUuid := by
  have noDirect : ((input.adoptions.filter fun adoption =>
      adoption.candidateUuid ∉ matchedAdoptions input ∧ adoption.cameraOrigin = "direct").map
        (directDevice input)).filter (·.device.candidateUuid = device.candidateUuid) = [] := by
    rw [List.filter_eq_nil_iff]
    intro row isRow isDevice
    obtain ⟨adoption, isAdoption, rfl⟩ := List.mem_map.mp isRow
    rw [directDevice_candidateUuid] at isDevice
    exact notAdopted (List.mem_map.mpr
      ⟨adoption, (List.mem_filter.mp isAdoption).1, of_decide_eq_true isDevice⟩)
  have ownerless : ownersOf (linkedOwners input) device.candidateUuid = [] ↔
      ∀ adoption ∈ input.adoptions, ∀ physical, linkedPhysical input adoption = some physical →
        physical.candidateUuid ≠ device.candidateUuid := by
    rw [List.eq_nil_iff_forall_not_mem]
    constructor
    · intro none adoption isAdoption physical isPhysical same
      exact none (adoption.candidateUuid, physical)
        (mem_ownersOf.mpr ⟨adoption, isAdoption, rfl, isPhysical, same⟩)
    · rintro none owner isOwner
      obtain ⟨adoption, isAdoption, _, isPhysical, same⟩ := mem_ownersOf.mp isOwner
      exact none adoption isAdoption owner.2 isPhysical same
  have undecorated : (decorateDevice input device).device = device := by
    rw [decorateDevice]
    split
    · rfl
    · rename_i adoption found
      obtain ⟨isAdoption, same⟩ := rowAt_some found
      exact (notAdopted (List.mem_map.mpr ⟨adoption, isAdoption, same⟩)).elim
  have rows : (decorateAdoptions input).shown.filter
      (·.device.candidateUuid = device.candidateUuid) =
        (if ownersOf (linkedOwners input) device.candidateUuid = [] then [device] else []).map
          (decorateDevice input) := by
    rw [← projected_filter distinct unique member notAdopted]
    simp only [decorateAdoptions, List.filter_append, noDirect, List.append_nil,
      decoratedDevices, List.filter_map, Function.comp_def, decorateDevice_candidateUuid]
  rw [rows, ← ownerless]
  split
  · rename_i none
    simp [none, undecorated]
  · rename_i owned
    simp [owned]

/-! The whole dashboard. -/

/-- Exactly one scanned device has the verified identity of the camera. -/
def HasLinkedDevice (input : DashboardInput) (adoption : Adoption) : Prop :=
  ∃ saved device, input.links.lookup adoption.camera.cameraUuid = some saved ∧
    (input.devices.filter fun other => sameIdentity saved.toSighting other.toSighting) =
      [device] ∧
    device.identityConflict = false

theorem HasLinkedDevice.physical {input : DashboardInput} {adoption : Adoption}
    (linked : HasLinkedDevice input adoption) :
    ∃ physical, linkedPhysical input adoption = some physical := by
  obtain ⟨saved, device, isSaved, found, unconflicted⟩ := linked
  simp only [linkedPhysical, isSaved, linkedCandidate, found, Option.isNone_some,
    Bool.false_eq_true, if_false, List.length_singleton, lt_self_iff_false, decide_false,
    List.any_cons, List.any_nil, Bool.or_false, unconflicted]
  split
  · exact ⟨device, rfl⟩
  · exact ⟨saved, rfl⟩

/-- Every adoption is attached at most once, those that have somewhere to be shown once, and a
scanned device that is nobody's is shown once as it is. -/
structure Faithful (input : DashboardInput) : Prop where
  atMostOnce : ∀ adoption ∈ input.adoptions,
    (decorateAdoptions input).devices.countP (carries adoption) ≤ 1
  once : ∀ adoption ∈ input.adoptions, adoption.candidateUuid ∈ candidates input.devices ∨
      HasLinkedDevice input adoption ∨ adoption.cameraOrigin = "direct" →
    (decorateAdoptions input).devices.countP (carries adoption) = 1
  scanned : ∀ device ∈ input.devices, ¬ adopted input device →
    (∀ link ∈ input.links, sameIdentity link.2.toSighting device.toSighting = false) →
    ((decorateAdoptions input).shown.filter
      (·.device.candidateUuid = device.candidateUuid)).map (·.device) = [device]

/-- What the identities lead to does not stand beside a device with the adoption's own id, is
there where the device is, and has the id of no device that is nobody's. -/
structure LinksResolved (input : DashboardInput) : Prop where
  ownDevice : ∀ adoption ∈ input.adoptions, ∀ physical,
    linkedPhysical input adoption = some physical →
    adoption.candidateUuid ∈ candidates input.devices →
    physical.candidateUuid = adoption.candidateUuid ∨
      physical.candidateUuid ∉ candidates input.devices
  liveDevice : ∀ adoption ∈ input.adoptions, ∀ physical,
    linkedPhysical input adoption = some physical → HasLinkedDevice input adoption →
    adoption.candidateUuid ∉ candidates input.devices → adoption.cameraOrigin ≠ "direct" →
    physical.candidateUuid ∈ candidates input.devices
  otherDevice : ∀ adoption ∈ input.adoptions, ∀ physical,
    linkedPhysical input adoption = some physical →
    ∀ device ∈ input.devices, device.candidateUuid = physical.candidateUuid →
    ¬ adopted input device →
    ∃ link ∈ input.links, sameIdentity link.2.toSighting device.toSighting = true

theorem otherPhysical_any {input : DashboardInput} {adoption : Adoption} :
    (otherPhysical input adoption).any (· ∈ candidates input.devices) = true ↔
      ∃ physical, linkedPhysical input adoption = some physical ∧
        physical.candidateUuid ≠ adoption.candidateUuid ∧
        physical.candidateUuid ∈ candidates input.devices := by
  rw [otherPhysical]
  cases linkedPhysical input adoption with
  | none => simp
  | some physical =>
      by_cases same : physical.candidateUuid = adoption.candidateUuid <;> simp [same]

theorem dashboard_faithful_iff {input : DashboardInput}
    (distinct : Unique Device.candidateUuid input.devices)
    (unique : Unique Adoption.candidateUuid input.adoptions) :
    Faithful input ↔ LinksResolved input := by
  have count {adoption : Adoption} (member : adoption ∈ input.adoptions) :=
    attached_count distinct unique member
  constructor
  · rintro ⟨atMostOnce, once, scanned⟩
    constructor
    · intro adoption member physical isPhysical inState
      by_contra neither
      rw [not_or, not_not] at neither
      have other := otherPhysical_any.mpr ⟨physical, isPhysical, neither⟩
      have twice := atMostOnce adoption member
      rw [count member, projectedRows, if_pos inState, if_pos other] at twice
      omega
    · intro adoption member physical isPhysical linked notInState notDirect
      by_contra missing
      have noOther : ¬ (otherPhysical input adoption).any (· ∈ candidates input.devices) := by
        rw [otherPhysical_any]
        rintro ⟨found, isFound, _, inState⟩
        obtain rfl := Option.some.inj (isPhysical.symm.trans isFound)
        exact missing inState
      have rows := once adoption member (.inr (.inl linked))
      rw [count member, projectedRows, if_neg notInState, if_neg noOther,
        if_neg fun direct => notDirect direct.2] at rows
      omega
    · intro adoption member physical isPhysical device isDevice same notAdopted
      by_contra nobody
      have nobody : ∀ link ∈ input.links,
          sameIdentity link.2.toSighting device.toSighting = false := by
        intro link isLink
        by_contra isSame
        exact nobody ⟨link, isLink, Bool.eq_true_of_not_eq_false isSame⟩
      exact (shown_iff distinct unique isDevice notAdopted).mp
        (scanned device isDevice notAdopted nobody) adoption member physical isPhysical same.symm
  · rintro ⟨ownDevice, liveDevice, otherDevice⟩
    have rows {adoption : Adoption} (member : adoption ∈ input.adoptions) :
        projectedRows input adoption ≤ 1 := by
      rw [projectedRows]
      split
      · rename_i inState
        have noOther : ¬ (otherPhysical input adoption).any (· ∈ candidates input.devices) := by
          rw [otherPhysical_any]
          rintro ⟨physical, isPhysical, differ, physicalInState⟩
          exact (ownDevice adoption member physical isPhysical inState).elim differ
            fun absent => absent physicalInState
        rw [if_neg noOther]
      · split <;> omega
    constructor
    · intro adoption member
      have bound := rows member
      rw [count member]
      split <;> omega
    · intro adoption member place
      have bound := rows member
      rw [count member]
      by_cases direct : adoption.cameraOrigin = "direct"
      · simp only [direct, and_true]
        split <;> omega
      · rw [if_neg fun both => direct both.2]
        have positive : 0 < projectedRows input adoption := by
          rw [projectedRows]
          by_cases inState : adoption.candidateUuid ∈ candidates input.devices
          · rw [if_pos inState]
            omega
          · have linked := (place.resolve_left inState).resolve_right direct
            obtain ⟨physical, isPhysical⟩ := linked.physical
            have live := liveDevice adoption member physical isPhysical linked inState direct
            rw [if_pos (otherPhysical_any.mpr ⟨physical, isPhysical,
              fun same => inState (same ▸ live), live⟩)]
            omega
        omega
    · intro device isDevice notAdopted nobody
      rw [shown_iff distinct unique isDevice notAdopted]
      intro adoption member physical isPhysical same
      obtain ⟨link, isLink, isSame⟩ :=
        otherDevice adoption member physical isPhysical device isDevice same.symm notAdopted
      rw [nobody link isLink] at isSame
      cases isSame

end

/-! Two devices, and a camera whose identity is that of the second one. -/

def scannedDevice (candidateUuid mac lastSeen : String) : Device where
  candidateUuid := candidateUuid
  ip := "192.168.1.20"
  mac := some mac
  status := some .online
  lastSeen := some lastSeen

def cameraAdoption (cameraUuid candidateUuid cameraOrigin : String) : Adoption where
  camera := ⟨cameraUuid, candidateUuid, cameraUuid, "credential", true, false⟩
  cameraOrigin := cameraOrigin

def dashboardInput (devices : List Device) (adoptions : List Adoption)
    (links : List (String × Device)) : DashboardInput where
  devices := devices
  adoptions := adoptions
  links := links
  blockedRecords := []
  frigateBindings := []
  capturedAt := fun _ => none
  sourceAddress := fun _ => none

/-- Two logical channels of one recorder. -/
def recorderInput : DashboardInput :=
  dashboardInput [scannedDevice "recorder" "02:00:00:00:00:07" "t1"]
    [cameraAdoption "one" "first" "direct", cameraAdoption "two" "second" "direct"]
    [("one", scannedDevice "recorder" "02:00:00:00:00:07" "t0"),
      ("two", scannedDevice "recorder" "02:00:00:00:00:07" "t0")]

theorem recorder_channels_faithful :
    let _ := asciiCase
    Faithful recorderInput := by
  let _ := asciiCase
  have resolved : ∀ adoption ∈ recorderInput.adoptions, linkedPhysical recorderInput adoption =
      some (scannedDevice "recorder" "02:00:00:00:00:07" "t1") := by
    decide +kernel
  have notInState : ∀ adoption ∈ recorderInput.adoptions,
      adoption.candidateUuid ∉ candidates recorderInput.devices := by
    decide +kernel
  have linked : ∀ device ∈ recorderInput.devices, sameIdentity
      (scannedDevice "recorder" "02:00:00:00:00:07" "t0").toSighting device.toSighting = true := by
    decide +kernel
  have distinct : Unique Device.candidateUuid recorderInput.devices := by
    rw [Unique]
    decide +kernel
  have unique : Unique Adoption.candidateUuid recorderInput.adoptions := by
    rw [Unique]
    decide +kernel
  refine (dashboard_faithful_iff distinct unique).mpr ⟨?_, ?_, ?_⟩
  · exact fun adoption member _ _ inState => (notInState adoption member inState).elim
  · intro adoption member physical isPhysical _ _ _
    obtain rfl := Option.some.inj ((resolved adoption member).symm.trans isPhysical)
    exact List.mem_cons_self
  · exact fun _ _ _ _ device isDevice _ _ => ⟨_, List.mem_cons_self, linked device isDevice⟩

/-- An adoption is attached to the device with its id and to the one with its identity; one
whose stored identity is newer than its device is attached to none; a device that merely has
the id of a stored identity is not shown. -/
theorem links_duplicate_and_drop :
    let _ := asciiCase
    (decorateAdoptions (dashboardInput
        [scannedDevice "a" "02:00:00:00:00:0a" "t1", scannedDevice "b" "02:00:00:00:00:0b" "t1"]
        [cameraAdoption "front" "a" "discovery"]
        [("front", scannedDevice "b" "02:00:00:00:00:0b" "t0")])).devices.countP
          (carries (cameraAdoption "front" "a" "discovery")) = 2 ∧
      (HasLinkedDevice (dashboardInput [scannedDevice "b" "02:00:00:00:00:0b" "t1"]
          [cameraAdoption "front" "a" "discovery"]
          [("front", scannedDevice "old" "02:00:00:00:00:0b" "t2")])
          (cameraAdoption "front" "a" "discovery") ∧
        (decorateAdoptions (dashboardInput [scannedDevice "b" "02:00:00:00:00:0b" "t1"]
          [cameraAdoption "front" "a" "discovery"]
          [("front", scannedDevice "old" "02:00:00:00:00:0b" "t2")])).devices.countP
            (carries (cameraAdoption "front" "a" "discovery")) = 0) ∧
      (sameIdentity (scannedDevice "b" "02:00:00:00:00:0c" "t0").toSighting
          (scannedDevice "b" "02:00:00:00:00:0b" "t1").toSighting = false ∧
        ∀ row ∈ (decorateAdoptions (dashboardInput [scannedDevice "b" "02:00:00:00:00:0b" "t1"]
          [cameraAdoption "front" "a" "direct"]
          [("front", scannedDevice "b" "02:00:00:00:00:0c" "t0")])).devices,
            row.device.candidateUuid ≠ "b") := by
  let _ := asciiCase
  refine ⟨by decide +kernel, ⟨?_, by decide +kernel⟩, by decide +kernel⟩
  exact ⟨_, scannedDevice "b" "02:00:00:00:00:0b" "t1", rfl, by decide +kernel, rfl⟩

end CamAdmiral
