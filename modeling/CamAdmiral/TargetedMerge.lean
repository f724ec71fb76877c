import CamAdmiral.IdentityCore
import CamAdmiral.MergeOrder
import Mathlib.Data.List.Dedup

/-!
The merge of what a targeted recovery found on each interface, in the order the interfaces
finished. A device is a partial record: its address is the place, its MAC and its ONVIF endpoint
reference are the keys. A MAC is not replaced once it is set, and neither is the endpoint
reference of an ONVIF entry, even if it is missing.
-/

namespace CamAdmiral

/-- `sorted({*first, *second})`. -/
def sortedUnion (first second : List String) : List String :=
  (first ++ second).dedup.mergeSort fun left right => left ≤ right

def filledText (existing seen : Option String) : Option String :=
  if textOf existing = "" ∧ textOf seen ≠ "" then seen else existing

def mergedOnvif (existing onvif : Onvif) : Onvif :=
  { existing with
    serviceUrls := sortedUnion existing.serviceUrls onvif.serviceUrls
    scopes := sortedUnion existing.scopes onvif.scopes
    types := sortedUnion existing.types onvif.types
    name := filledText existing.name onvif.name
    model := filledText existing.model onvif.model }

def mergedTargeted (existing device : Observation) : Observation :=
  let knownRtsp := existing.rtsp.map fun endpoint => (endpoint.url, endpoint.port)
  { existing with
    onvif :=
      match existing.onvif, device.onvif with
      | some kept, some onvif => some (mergedOnvif kept onvif)
      | none, some onvif => some onvif
      | kept, none => kept
    mac := filledText existing.mac device.mac
    rtsp := existing.rtsp ++
      device.rtsp.filter fun endpoint => (endpoint.url, endpoint.port) ∉ knownRtsp }

section
variable [TextCase]

def targetedIdentity (device : Sighting) : String × String × String :=
  (device.ip, normalized device.mac, normalized (device.onvif.bind Onvif.endpointReference))

def compatibleTargetedIdentity (candidate : Sighting) (identity : String × String × String) :
    Bool :=
  let existing := targetedIdentity candidate
  let pairs := [(existing.2.1, identity.2.1), (existing.2.2, identity.2.2)]
  decide (existing.1 = identity.1) &&
    !(pairs.any fun pair => pair.1 ≠ "" && pair.2 ≠ "" && pair.1 ≠ pair.2) &&
    pairs.any fun pair => pair.1 ≠ "" && pair.1 = pair.2

def deduplicateTargetedDevices (devices : List Observation) : List Observation :=
  firstFits (fun existing device => compatibleTargetedIdentity existing.toSighting
    (targetedIdentity device.toSighting)) mergedTargeted devices

/-- The devices of `scan_targeted_lan`; `completed` is what each interface returned, in the
order of completion. -/
def targetedDevices (completed : List (List Observation)) : List Observation :=
  deduplicateTargetedDevices completed.flatten

/-! Devices as partial records. -/

theorem normalized_of_empty {value : Option String} (empty : textOf value = "") :
    normalized value = "" := by
  rw [normalized, empty]
  exact normalized_none

/-- The MAC of a device and its endpoint reference. -/
def sideText (side : Side) (device : Sighting) : String :=
  match side with
  | .first => normalized device.mac
  | .second => normalized (device.onvif.bind Onvif.endpointReference)

/-- Whether a merge leaves that side as it is. -/
def sideFixed (side : Side) (device : Sighting) : Bool :=
  match side with
  | .first => decide (textOf device.mac ≠ "")
  | .second => device.onvif.isSome

def targetedRecord (device : Observation) : PartialRecord String String where
  place := device.ip
  key side := orNone (sideText side device.toSighting)
  closed side := sideFixed side device.toSighting
  closed_of_key := by
    intro side value isKey
    cases side with
    | first =>
        apply decide_eq_true
        intro empty
        rw [sideText, normalized_of_empty empty] at isKey
        cases isKey
    | second =>
        rw [sideFixed]
        cases present : device.onvif with
        | none =>
            rw [sideText, present, Option.bind_none, normalized_none] at isKey
            cases isKey
        | some onvif => rfl

omit [TextCase] in
theorem orNone_agree (first second : String) :
    keysAgree (orNone first) (orNone second) =
      !(first ≠ "" && second ≠ "" && first ≠ second) := by
  by_cases isFirst : first = ""
  · simp [orNone, isFirst, keysAgree]
  · by_cases isSecond : second = ""
    · simp [orNone, isFirst, isSecond, keysAgree]
    · by_cases same : first = second <;> simp [orNone, isFirst, isSecond, same, keysAgree]

omit [TextCase] in
theorem orNone_share (first second : String) :
    keysShare (orNone first) (orNone second) = (first ≠ "" && first = second) := by
  by_cases isFirst : first = ""
  · simp [orNone, isFirst, keysShare]
  · by_cases isSecond : second = ""
    · simp [orNone, isFirst, isSecond, keysShare]
    · simp [orNone, isFirst, isSecond, keysShare]

theorem fitsRecord_targeted (existing device : Observation) :
    fitsRecord (targetedRecord existing) (targetedRecord device) =
      compatibleTargetedIdentity existing.toSighting (targetedIdentity device.toSighting) := by
  simp only [fitsRecord, targetedRecord, sideText, List.all_cons, List.all_nil, List.any_cons,
    List.any_nil, Bool.and_true, Bool.or_false, orNone_agree, orNone_share,
    compatibleTargetedIdentity, targetedIdentity, Bool.not_or]
  rfl

theorem normalized_filledText (existing seen : Option String) :
    orNone (normalized (filledText existing seen)) =
      if textOf existing ≠ "" then orNone (normalized existing) else orNone (normalized seen) := by
  rw [filledText]
  by_cases isExisting : textOf existing = ""
  · by_cases isSeen : textOf seen = ""
    · simp [isExisting, isSeen, normalized_of_empty]
    · simp [isExisting, isSeen]
  · simp [isExisting]

omit [TextCase] in
theorem textOf_filledText (existing seen : Option String) :
    decide (textOf (filledText existing seen) ≠ "") =
      (decide (textOf existing ≠ "") || decide (textOf seen ≠ "")) := by
  rw [filledText]
  by_cases isExisting : textOf existing = ""
  · by_cases isSeen : textOf seen = ""
    · simp [isExisting, isSeen]
    · simp [isExisting, isSeen]
  · simp [isExisting]

omit [TextCase] in
/-- The endpoint reference that a merge leaves, and whether there is an ONVIF entry. -/
theorem mergedTargeted_onvif (existing device : Observation) :
    (mergedTargeted existing device).onvif.bind Onvif.endpointReference =
        (if existing.onvif.isSome then existing.onvif.bind Onvif.endpointReference
        else device.onvif.bind Onvif.endpointReference) ∧
      (mergedTargeted existing device).onvif.isSome =
        (existing.onvif.isSome || device.onvif.isSome) := by
  rw [mergedTargeted]
  cases isKept : existing.onvif with
  | none => cases isSeen : device.onvif <;> simp
  | some kept => cases isSeen : device.onvif <;> simp [mergedOnvif]

theorem absorbRecord_targeted (existing device : Observation) :
    absorbRecord (targetedRecord existing) (targetedRecord device) =
      targetedRecord (mergedTargeted existing device) := by
  obtain ⟨endpoint, present⟩ := mergedTargeted_onvif existing device
  apply PartialRecord.ext
  · rfl
  · funext side
    cases side with
    | first =>
        refine Eq.trans ?_ (normalized_filledText existing.mac device.mac).symm
        change (if decide (textOf existing.mac ≠ "") = true then orNone (normalized existing.mac)
          else orNone (normalized device.mac)) = _
        simp only [decide_eq_true_eq]
    | second =>
        change (if existing.onvif.isSome = true then _ else _) = orNone (normalized _)
        rw [endpoint, apply_ite normalized, apply_ite orNone]
        rfl
  · funext side
    cases side with
    | first => exact (textOf_filledText existing.mac device.mac).symm
    | second => exact present.symm

theorem deduplicate_records (devices : List Observation) :
    mergeRecords (devices.map targetedRecord) =
      (deduplicateTargetedDevices devices).map targetedRecord :=
  firstFits_map targetedRecord fitsRecord_targeted
    (fun existing device _ => absorbRecord_targeted existing device) devices

/-- The texts of both sides of a device at an address. -/
structure HasTexts (ip : String) (side : Side) (text other : String) (device : Observation) :
    Prop where
  ip : device.ip = ip
  text : sideText side device.toSighting = text
  other : sideText side.other device.toSighting = other

theorem singleAt_targeted {ip value : String} {side : Side} {device : Observation} :
    SingleAt ip side value (targetedRecord device) ↔
      value ≠ "" ∧ HasTexts ip side value "" device := by
  constructor
  · rintro ⟨isIp, isKey, isOther⟩
    obtain ⟨isText, named⟩ := orNone_eq_some.mp isKey
    exact ⟨isText ▸ named, isIp, isText, orNone_eq_none.mp isOther⟩
  · rintro ⟨named, isIp, isText, isOther⟩
    exact ⟨isIp, orNone_eq_some.mpr ⟨isText, isText ▸ named⟩, orNone_eq_none.mpr isOther⟩

theorem fullAt_targeted {ip value other : String} {side : Side} {device : Observation} :
    FullAt ip side value other (targetedRecord device) ↔
      value ≠ "" ∧ other ≠ "" ∧ HasTexts ip side value other device := by
  constructor
  · rintro ⟨isIp, isKey, isOther⟩
    obtain ⟨isText, named⟩ := orNone_eq_some.mp isKey
    obtain ⟨isOther, otherNamed⟩ := orNone_eq_some.mp isOther
    exact ⟨isText ▸ named, isOther ▸ otherNamed, isIp, isText, isOther⟩
  · rintro ⟨named, otherNamed, isIp, isText, isOther⟩
    exact ⟨isIp, orNone_eq_some.mpr ⟨isText, isText ▸ named⟩,
      orNone_eq_some.mpr ⟨isOther, isOther ▸ otherNamed⟩⟩

theorem HasTexts.swap {ip text other : String} {side : Side} {device : Observation} :
    HasTexts ip side.other text other device ↔ HasTexts ip side other text device := by
  constructor
  · rintro ⟨isIp, isText, isOther⟩
    rw [Side.other_other] at isOther
    exact ⟨isIp, isOther, isText⟩
  · rintro ⟨isIp, isText, isOther⟩
    exact ⟨isIp, isOther, by rwa [Side.other_other]⟩

/-- A device with a MAC and no endpoint reference, or with an endpoint reference and no MAC,
beside one with both: its other side is set although it is empty, or each of those with both
has its other text on a device without the first. -/
structure StrandedDevice (devices : List Observation) (ip : String) (side : Side)
    (value : String) : Prop where
  named : value ≠ ""
  alone : ∃ device ∈ devices, HasTexts ip side value "" device
  full : ∃ device ∈ devices, ∃ other, other ≠ "" ∧ HasTexts ip side value other device
  left : (∃ device ∈ devices, HasTexts ip side value "" device ∧
      sideFixed side.other device.toSighting = true) ∨
    ∀ other, other ≠ "" → (∃ device ∈ devices, HasTexts ip side value other device) →
      ∃ device ∈ devices, HasTexts ip side "" other device

theorem stranded_targeted {devices : List Observation} {ip value : String} {side : Side} :
    Stranded (devices.map targetedRecord) ip side value ↔
      StrandedDevice devices ip side value := by
  constructor
  · rintro ⟨single, full, left⟩
    simp only [List.mem_map, exists_exists_and_eq_and, singleAt_targeted, fullAt_targeted,
      HasTexts.swap] at single full left
    obtain ⟨device, member, named, isAlone⟩ := single
    obtain ⟨beside, listed, other, _, otherNamed, isFull⟩ := full
    refine ⟨named, ⟨device, member, isAlone⟩, ⟨beside, listed, other, otherNamed, isFull⟩, ?_⟩
    rcases left with ⟨blocked, isBlocked, found⟩ | takers
    · exact .inl ⟨blocked, isBlocked, (singleAt_targeted.mp found.toSingleAt).2, found.closed⟩
    · refine .inr fun other otherNamed came => ?_
      obtain ⟨full, isListed, isFull⟩ := came
      obtain ⟨taker, isTaker, _, found⟩ :=
        takers other ⟨full, isListed, named, otherNamed, isFull⟩
      exact ⟨taker, isTaker, found⟩
  · rintro ⟨named, alone, full, left⟩
    obtain ⟨device, member, isAlone⟩ := alone
    obtain ⟨beside, listed, other, otherNamed, isFull⟩ := full
    refine ⟨⟨_, List.mem_map_of_mem member, singleAt_targeted.mpr ⟨named, isAlone⟩⟩,
      ⟨_, List.mem_map_of_mem listed, other,
        fullAt_targeted.mpr ⟨named, otherNamed, isFull⟩⟩, ?_⟩
    rcases left with ⟨blocked, isBlocked, found, fixed⟩ | takers
    · exact .inl ⟨_, List.mem_map_of_mem isBlocked,
        singleAt_targeted.mpr ⟨named, found⟩, fixed⟩
    · refine .inr fun other came => ?_
      simp only [List.mem_map, exists_exists_and_eq_and, fullAt_targeted] at came
      obtain ⟨full, isListed, _, otherNamed, isFull⟩ := came
      obtain ⟨taker, isTaker, found⟩ := takers other otherNamed ⟨full, isListed, isFull⟩
      exact ⟨_, List.mem_map_of_mem isTaker,
        singleAt_targeted.mpr ⟨otherNamed, HasTexts.swap.mpr found⟩⟩

/-- The identities of the merged devices do not depend on the order, and no two are compatible. -/
structure MergeDetermined (devices : List Observation) : Prop where
  unordered : ∀ reordered, reordered.Perm devices → ∀ identity,
    (∃ device ∈ deduplicateTargetedDevices reordered,
        targetedIdentity device.toSighting = identity) ↔
      ∃ device ∈ deduplicateTargetedDevices devices,
        targetedIdentity device.toSighting = identity
  apart : (deduplicateTargetedDevices devices).Pairwise fun first second =>
    compatibleTargetedIdentity first.toSighting (targetedIdentity second.toSighting) = false

theorem sameKeys_targeted {first second : Observation} :
    SameKeys (targetedRecord first) (targetedRecord second) ↔
      targetedIdentity first.toSighting = targetedIdentity second.toSighting := by
  simp only [targetedIdentity, Prod.mk.injEq]
  constructor
  · rintro ⟨place, keys⟩
    exact ⟨place, orNone_inj.mp (congrFun keys .first), orNone_inj.mp (congrFun keys .second)⟩
  · rintro ⟨place, isMac, isEndpoint⟩
    refine ⟨place, funext fun side => ?_⟩
    cases side
    · exact orNone_inj.mpr isMac
    · exact orNone_inj.mpr isEndpoint

theorem mem_deduplicate {devices : List Observation} {place : String}
    {key : Side → Option String} :
    (∃ record ∈ mergeRecords (devices.map targetedRecord),
        record.place = place ∧ record.key = key) ↔
      ∃ device ∈ deduplicateTargetedDevices devices,
        (targetedRecord device).place = place ∧ (targetedRecord device).key = key := by
  simp only [deduplicate_records, List.mem_map, exists_exists_and_eq_and]

theorem orderFree_targeted {devices : List Observation} :
    OrderFree (devices.map targetedRecord) ↔ MergeDetermined devices := by
  have apart : ((mergeRecords (devices.map targetedRecord)).Pairwise fun first second =>
        ¬ Fits first second) ↔
      (deduplicateTargetedDevices devices).Pairwise fun first second =>
        compatibleTargetedIdentity first.toSighting
          (targetedIdentity second.toSighting) = false := by
    simp only [deduplicate_records, List.pairwise_map, ← fitsRecord_iff, fitsRecord_targeted,
      Bool.not_eq_true]
  constructor
  · rintro ⟨unordered, pairwise⟩
    refine ⟨fun reordered permuted identity => ?_, apart.mp pairwise⟩
    have moved {first second : List Observation}
        (same : ∀ place key,
          (∃ record ∈ mergeRecords (first.map targetedRecord),
            record.place = place ∧ record.key = key) →
          ∃ record ∈ mergeRecords (second.map targetedRecord),
            record.place = place ∧ record.key = key)
        (found : ∃ device ∈ deduplicateTargetedDevices first,
          targetedIdentity device.toSighting = identity) :
        ∃ device ∈ deduplicateTargetedDevices second,
          targetedIdentity device.toSighting = identity := by
      obtain ⟨device, kept, rfl⟩ := found
      obtain ⟨other, isKept, place, keys⟩ :=
        mem_deduplicate.mp (same _ _ (mem_deduplicate.mpr ⟨device, kept, rfl, rfl⟩))
      exact ⟨other, isKept, sameKeys_targeted.mp ⟨place, keys⟩⟩
    have same := unordered (reordered.map targetedRecord) (permuted.map targetedRecord)
    exact ⟨moved fun place key => (same place key).mp, moved fun place key => (same place key).mpr⟩
  · rintro ⟨unordered, pairwise⟩
    refine ⟨fun records permuted place key => ?_, apart.mpr pairwise⟩
    obtain ⟨reordered, rfl, isPerm⟩ :=
      (congrFun₂ (List.eq_map_comp_perm targetedRecord) records devices).mpr permuted
    have moved {first second : List Observation}
        (same : ∀ identity,
          (∃ device ∈ deduplicateTargetedDevices first,
            targetedIdentity device.toSighting = identity) →
          ∃ device ∈ deduplicateTargetedDevices second,
            targetedIdentity device.toSighting = identity)
        (found : ∃ record ∈ mergeRecords (first.map targetedRecord),
          record.place = place ∧ record.key = key) :
        ∃ record ∈ mergeRecords (second.map targetedRecord),
          record.place = place ∧ record.key = key := by
      obtain ⟨device, kept, rfl, rfl⟩ := mem_deduplicate.mp found
      obtain ⟨other, isKept, identity⟩ := same _ ⟨device, kept, rfl⟩
      exact mem_deduplicate.mpr ⟨other, isKept, sameKeys_targeted.mpr identity⟩
    have same := unordered reordered isPerm
    exact ⟨moved fun identity => (same identity).mp, moved fun identity => (same identity).mpr⟩

/-- The order in which the interfaces finish decides nothing if no device is stranded. -/
theorem targetedDevices_unordered {completed : List (List Observation)}
    (unstranded : ∀ ip side value, ¬ StrandedDevice completed.flatten ip side value)
    {reordered : List (List Observation)} (permuted : reordered.Perm completed)
    (identity : String × String × String) :
    (∃ device ∈ targetedDevices reordered, targetedIdentity device.toSighting = identity) ↔
      ∃ device ∈ targetedDevices completed, targetedIdentity device.toSighting = identity := by
  have free : OrderFree (completed.flatten.map targetedRecord) :=
    orderFree_of_unstranded fun place side value stranded =>
      unstranded place side value (stranded_targeted.mp stranded)
  exact (orderFree_targeted.mp free).unordered _ permuted.flatten identity

theorem targeted_merge_determined_iff (devices : List Observation) :
    MergeDetermined devices ↔
      ∀ ip side value, ¬ StrandedDevice devices ip side value := by
  rw [← orderFree_targeted, orderFree_iff]
  simp only [stranded_targeted]

end

/-! An address seen with its MAC, with its endpoint reference, and with both. -/

def seenDevice (mac endpoint : Option String) : Observation where
  ip := "192.168.1.20"
  mac := mac
  onvif := endpoint.map fun reference => { endpointReference := some reference }
  displayName := "192.168.1.20"

/-- The third device enriches the first, which then fits the second. -/
theorem bridged_devices_undetermined :
    ¬ ∀ (_ : TextCase) (devices : List Observation), MergeDetermined devices := by
  intro always
  let _ := asciiCase
  have determined := always asciiCase [seenDevice (some "aa:aa:aa:aa:aa:aa") none,
    seenDevice none (some "urn:uuid:camera"),
    seenDevice (some "aa:aa:aa:aa:aa:aa") (some "urn:uuid:camera")]
  have merged : deduplicateTargetedDevices [seenDevice (some "aa:aa:aa:aa:aa:aa") none,
      seenDevice none (some "urn:uuid:camera"),
      seenDevice (some "aa:aa:aa:aa:aa:aa") (some "urn:uuid:camera")] =
    [seenDevice (some "aa:aa:aa:aa:aa:aa") (some "urn:uuid:camera"),
      seenDevice none (some "urn:uuid:camera")] := by
    decide +kernel
  have apart := determined.apart
  rw [merged] at apart
  have unfit := (List.pairwise_cons.mp apart).1 _ List.mem_cons_self
  exact absurd unfit (by decide +kernel)

end CamAdmiral
