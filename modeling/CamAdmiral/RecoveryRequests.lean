import CamAdmiral.RecoveryRequestCore
import Mathlib.Data.List.Dedup
import Mathlib.Tactic.Linarith

/-!
A targeted scan request names each physical device once, unless a camera that is known by its MAC
address alone and a camera of another MAC address are joined by a third one that has the address
of the first and the endpoint of the second.
-/

namespace CamAdmiral

section
variable [TextCase]

/-! Identities of targets. -/

def targetEndpoint (target : ScanTarget) : String := normalized target.endpointReference

def targetMac (target : ScanTarget) : String := normalized target.mac

def Identified (target : ScanTarget) : Prop := targetEndpoint target ≠ "" ∨ targetMac target ≠ ""

theorem given_endpoint {target : ScanTarget} (known : targetEndpoint target ≠ "") :
    isGiven target.endpointReference = true := by
  rw [isGiven, decide_eq_true_eq]
  intro empty
  rw [targetEndpoint, normalized, empty] at known
  exact known TextCase.lower_empty

theorem targetEndpoint_empty {target : ScanTarget}
    (missing : isGiven target.endpointReference = false) : targetEndpoint target = "" := by
  by_contra known
  rw [given_endpoint known] at missing
  cases missing

theorem sameTarget_iff {first second : ScanTarget} :
    sameTarget first second = true ↔
      (targetEndpoint first ≠ "" ∧ targetEndpoint first = targetEndpoint second) ∨
        ((targetEndpoint first = "" ∨ targetEndpoint second = "") ∧ targetMac first ≠ "" ∧
          targetMac first = targetMac second) := by
  have keys : sameTarget first second =
      if targetEndpoint first ≠ "" && targetEndpoint second ≠ "" then
        decide (targetEndpoint first = targetEndpoint second)
      else
        targetMac first ≠ "" && targetMac second ≠ "" && targetMac first = targetMac second := rfl
  rw [keys]
  by_cases firstEndpoint : targetEndpoint first = ""
  · simp only [firstEndpoint, ne_eq, not_true_eq_false, decide_false, Bool.false_and,
      Bool.false_eq_true, if_false, false_and, true_or, true_and, false_or, Bool.and_eq_true,
      decide_eq_true_eq]
    constructor
    · exact fun both => ⟨both.1.1, both.2⟩
    · exact fun both => ⟨⟨both.1, both.2 ▸ both.1⟩, both.2⟩
  · by_cases secondEndpoint : targetEndpoint second = ""
    · simp only [firstEndpoint, secondEndpoint, ne_eq, not_true_eq_false, not_false_eq_true,
        decide_false, Bool.and_false, Bool.false_eq_true, if_false, and_false, or_true, true_and,
        false_or, Bool.and_eq_true, decide_eq_true_eq]
      constructor
      · exact fun both => ⟨both.1.1, both.2⟩
      · exact fun both => ⟨⟨both.1, both.2 ▸ both.1⟩, both.2⟩
    · simp [firstEndpoint, secondEndpoint]

theorem sameTarget_symm {first second : ScanTarget} (same : sameTarget first second = true) :
    sameTarget second first = true := by
  rw [sameTarget_iff] at same ⊢
  rcases same with ⟨known, endpoints⟩ | ⟨missing, known, macs⟩
  · exact .inl ⟨endpoints ▸ known, endpoints.symm⟩
  · exact .inr ⟨missing.symm, macs ▸ known, macs.symm⟩

theorem sameTarget_self {target : ScanTarget} :
    sameTarget target target = true ↔ Identified target := by
  rw [sameTarget_iff, Identified]
  constructor
  · exact Or.imp And.left fun macs => macs.2.1
  · intro identified
    by_cases known : targetEndpoint target = ""
    · exact .inr ⟨.inl known, identified.resolve_left (not_not.mpr known), rfl⟩
    · exact .inl ⟨known, rfl⟩

/-- The third target has the MAC address of the first, which has no endpoint, and the endpoint of
the second, which has another MAC address or none. -/
structure Bridges (plain other both : ScanTarget) : Prop where
  noEndpoint : isGiven plain.endpointReference = false
  mac : targetMac plain ≠ ""
  sameMac : targetMac both = targetMac plain
  endpoint : targetEndpoint other ≠ ""
  sameEndpoint : targetEndpoint both = targetEndpoint other
  otherMac : targetMac other ≠ targetMac plain

/-! The selection of the targets. -/

/-- The item is the device of a target, which has an endpoint if the item has one. -/
def StandsFor (item target : ScanTarget) : Prop :=
  sameTarget item target = true ∧
    (isGiven item.endpointReference = true → isGiven target.endpointReference = true)

/-- What holds of the targets selected from identified items without a bridge. -/
structure SelectionSound (items : List EligibleTarget) (selection : TargetSelection) : Prop where
  bounded : selection.targets.length ≤ 16
  distinct : selection.targets.Pairwise fun first second => sameTarget first second = false
  fromItems : ∀ target ∈ selection.targets, ∃ item ∈ items, item.target = target
  represented : ∀ candidateUuid ∈ selection.selected, ∃ item ∈ items,
    item.candidateUuid = candidateUuid ∧ ∃ target ∈ selection.targets,
      StandsFor item.target target

variable {items : List EligibleTarget} {selection : TargetSelection}

/-- An item that takes the place of a weaker target is the device of no other target. -/
theorem stronger_apart
    (unbridged : ∀ plain ∈ items, ∀ other ∈ items, ∀ both ∈ items,
      ¬ Bridges plain.target other.target both.target)
    {item plain other : EligibleTarget} (isItem : item ∈ items) (isPlain : plain ∈ items)
    (isOther : other ∈ items) (missing : isGiven plain.target.endpointReference = false)
    (fits : sameTarget item.target plain.target = true)
    (apart : sameTarget plain.target other.target = false) :
    sameTarget item.target other.target = false := by
  have noEndpoint := targetEndpoint_empty missing
  rw [sameTarget_iff] at fits
  obtain ⟨known, macs⟩ : targetMac item.target ≠ "" ∧
      targetMac item.target = targetMac plain.target := by
    rcases fits with ⟨known, endpoints⟩ | ⟨_, known, macs⟩
    · exact absurd noEndpoint (endpoints ▸ known)
    · exact ⟨known, macs⟩
  rw [← Bool.not_eq_true, sameTarget_iff] at apart ⊢
  have otherMac : targetMac other.target ≠ targetMac plain.target := by
    intro same
    exact apart (.inr ⟨.inl noEndpoint, macs ▸ known, same.symm⟩)
  rintro (⟨endpoint, endpoints⟩ | ⟨_, _, same⟩)
  · exact unbridged plain isPlain other isOther item isItem
      ⟨missing, macs ▸ known, macs, endpoints ▸ endpoint, endpoints, otherMac⟩
  · exact otherMac (same.symm.trans macs)

theorem StandsFor.replaced {known record item : ScanTarget} (stands : StandsFor known record)
    (missing : isGiven record.endpointReference = false) (fits : sameTarget item record = true) :
    StandsFor known item := by
  have noEndpoint := targetEndpoint_empty missing
  have notGiven : isGiven known.endpointReference = false := by
    rw [← Bool.not_eq_true]
    intro given
    rw [stands.2 given] at missing
    cases missing
  have known_mac : targetMac known ≠ "" ∧ targetMac known = targetMac record := by
    rcases sameTarget_iff.mp stands.1 with ⟨endpoint, _⟩ | ⟨_, macs⟩
    · exact absurd (targetEndpoint_empty notGiven) endpoint
    · exact macs
  have item_mac : targetMac item = targetMac record := by
    rcases sameTarget_iff.mp fits with ⟨endpoint, endpoints⟩ | ⟨_, _, macs⟩
    · exact absurd noEndpoint (endpoints ▸ endpoint)
    · exact macs
  constructor
  · exact sameTarget_iff.mpr (.inr ⟨.inl (targetEndpoint_empty notGiven), known_mac.1,
      known_mac.2.trans item_mac.symm⟩)
  · intro given
    rw [given] at notGiven
    cases notGiven

/-- A stronger target takes the place of one without an endpoint. -/
theorem replaced_sound (unbridged : ∀ plain ∈ items, ∀ other ∈ items, ∀ both ∈ items,
      ¬ Bridges plain.target other.target both.target)
    {before after : List ScanTarget} {record : ScanTarget} {selected : List String}
    (sound : SelectionSound items ⟨before ++ record :: after, selected⟩) {item : EligibleTarget}
    (isItem : item ∈ items) (itself : sameTarget item.target item.target = true)
    (missing : isGiven record.endpointReference = false)
    (fits : sameTarget item.target record = true) :
    SelectionSound items ⟨before ++ item.target :: after, selected ++ [item.candidateUuid]⟩ := by
  obtain ⟨bounded, distinct, fromItems, represented⟩ := sound
  obtain ⟨plain, isPlain, rfl⟩ := fromItems record (List.mem_append_right _ List.mem_cons_self)
  rw [List.pairwise_append, List.pairwise_cons] at distinct
  obtain ⟨first, ⟨later, last⟩, across⟩ := distinct
  have apart {other : ScanTarget} (member : other ∈ before ++ plain.target :: after)
      (different : sameTarget plain.target other = false) :
      sameTarget item.target other = false := by
    obtain ⟨source, isSource, rfl⟩ := fromItems other member
    exact stronger_apart unbridged isItem isPlain isSource missing fits different
  have reversed {one other : ScanTarget} (different : sameTarget one other = false) :
      sameTarget other one = false := by
    rw [← Bool.not_eq_true] at different ⊢
    exact fun same => different (sameTarget_symm same)
  refine ⟨?_, ?_, ?_, ?_⟩
  · rw [List.length_append, List.length_cons] at bounded ⊢
    exact bounded
  · refine List.pairwise_append.mpr ⟨first, List.pairwise_cons.mpr ⟨?_, last⟩, ?_⟩
    · intro other member
      exact apart (List.mem_append_right _ (List.mem_cons_of_mem _ member)) (later other member)
    · intro one isOne other member
      rcases List.mem_cons.mp member with rfl | isLater
      · exact reversed (apart (List.mem_append_left _ isOne)
          (reversed (across one isOne plain.target List.mem_cons_self)))
      · exact across one isOne other (List.mem_cons_of_mem _ isLater)
  · intro target member
    rcases List.mem_append.mp member with isBefore | isLater
    · exact fromItems target (List.mem_append_left _ isBefore)
    · rcases List.mem_cons.mp isLater with rfl | isAfter
      · exact ⟨item, isItem, rfl⟩
      · exact fromItems target (List.mem_append_right _ (List.mem_cons_of_mem _ isAfter))
  · intro candidateUuid member
    rcases List.mem_append.mp member with isOld | isNew
    · obtain ⟨known, isKnown, same, target, isTarget, stands⟩ := represented candidateUuid isOld
      refine ⟨known, isKnown, same, ?_⟩
      rcases List.mem_append.mp isTarget with isBefore | isLater
      · exact ⟨target, List.mem_append_left _ isBefore, stands⟩
      · rcases List.mem_cons.mp isLater with rfl | isAfter
        · exact ⟨item.target, List.mem_append_right _ List.mem_cons_self,
            stands.replaced missing fits⟩
        · exact ⟨target, List.mem_append_right _ (List.mem_cons_of_mem _ isAfter), stands⟩
    · exact ⟨item, isItem, (List.mem_singleton.mp isNew).symm, item.target,
        List.mem_append_right _ List.mem_cons_self, itself, id⟩

theorem selectTarget_sound (identified : ∀ item ∈ items, Identified item.target)
    (unbridged : ∀ plain ∈ items, ∀ other ∈ items, ∀ both ∈ items,
      ¬ Bridges plain.target other.target both.target)
    (sound : SelectionSound items selection) {item : EligibleTarget} (isItem : item ∈ items) :
    SelectionSound items (selectTarget selection item) := by
  unfold selectTarget
  split
  case isFalse => exact sound
  case isTrue room =>
    obtain ⟨bounded, distinct, fromItems, represented⟩ := sound
    have stepped := @firstFit_step _ (fun shared target => sameTarget target shared)
      strongerTarget selection.targets item.target
    generalize firstFit (fun shared target => sameTarget target shared) strongerTarget
      selection.targets item.target = targets at stepped
    generalize selection.targets = kept at *
    have itself : sameTarget item.target item.target = true :=
      sameTarget_self.mpr (identified item isItem)
    cases stepped with
    | append unfit =>
        have short : kept.length < 16 := by
          rw [Bool.or_eq_true, List.any_eq_true, decide_eq_true_eq] at room
          rcases room with ⟨shared, member, fits⟩ | short
          · rw [unfit shared member] at fits
            cases fits
          · exact short
        refine ⟨?_, ?_, ?_, ?_⟩
        · rw [List.length_append, List.length_singleton]
          exact short
        · refine List.pairwise_append.mpr ⟨distinct, List.pairwise_singleton _ _, ?_⟩
          intro shared member other isOther
          rw [List.mem_singleton.mp isOther, ← Bool.not_eq_true]
          intro same
          have different := unfit shared member
          rw [sameTarget_symm same] at different
          cases different
        · intro target member
          rcases List.mem_append.mp member with isOld | isNew
          · exact fromItems target isOld
          · exact ⟨item, isItem, (List.mem_singleton.mp isNew).symm⟩
        · intro candidateUuid member
          rcases List.mem_append.mp member with isOld | isNew
          · obtain ⟨known, isKnown, same, target, isTarget, stands⟩ :=
              represented candidateUuid isOld
            exact ⟨known, isKnown, same, target, List.mem_append_left _ isTarget, stands⟩
          · exact ⟨item, isItem, (List.mem_singleton.mp isNew).symm, item.target,
              List.mem_append_right _ (List.mem_singleton.mpr rfl), itself, id⟩
    | absorb earlier fits =>
        rename_i before record after
        by_cases stronger : (isGiven item.target.endpointReference &&
            !isGiven record.endpointReference) = true
        · rw [strongerTarget, if_pos stronger]
          rw [Bool.and_eq_true, Bool.not_eq_true'] at stronger
          exact replaced_sound unbridged ⟨bounded, distinct, fromItems, represented⟩ isItem
            itself stronger.2 fits
        · rw [strongerTarget, if_neg stronger]
          refine ⟨bounded, distinct, fromItems, fun candidateUuid member => ?_⟩
          rcases List.mem_append.mp member with isOld | isNew
          · exact represented candidateUuid isOld
          · refine ⟨item, isItem, (List.mem_singleton.mp isNew).symm, record,
              List.mem_append_right _ List.mem_cons_self, fits, fun given => ?_⟩
            by_contra missing
            rw [given, Bool.true_and, Bool.not_eq_true', ← Bool.not_eq_true] at stronger
            exact stronger missing

theorem selectTargets_sound {eligible : List EligibleTarget}
    (identified : ∀ item ∈ eligible, Identified item.target)
    (unbridged : ∀ plain ∈ eligible, ∀ other ∈ eligible, ∀ both ∈ eligible,
      ¬ Bridges plain.target other.target both.target) :
    SelectionSound eligible (selectTargets eligible) := by
  have listed : ∀ item ∈ eligible.mergeSort eligibleOrder, item ∈ eligible :=
    fun item member => List.mem_mergeSort.mp member
  rw [selectTargets]
  generalize eligible.mergeSort eligibleOrder = left at listed
  suffices general : ∀ selection, SelectionSound eligible selection →
      SelectionSound eligible (left.foldl selectTarget selection) from
    general {} ⟨Nat.zero_le _, List.Pairwise.nil, fun target member => absurd member
      List.not_mem_nil, fun candidateUuid member => absurd member List.not_mem_nil⟩
  induction left with
  | nil => exact fun selection sound => sound
  | cons item rest ih =>
      intro selection sound
      have isItem := listed item List.mem_cons_self
      exact ih (fun other member => listed other (List.mem_cons_of_mem _ member)) _
        (selectTarget_sound identified unbridged sound isItem)

/-! The cameras that are due. -/

/-- The target of a camera that needs recovery. -/
def RecoveryFleet.recoveryTarget (fleet : RecoveryFleet) (camera : RecoveryCamera) :
    Option ScanTarget :=
  if camera.row.enabled && fleet.needsRecovery camera then
    candidateTarget (fleet.candidate camera) camera.candidateUuid
  else
    none

/-- The item of a camera, from the memory of its attempts. -/
def dueItem (settings : RecoverySettings) (fleet : RecoveryFleet) (now : ℚ)
    (memory : RecoveryMemory) (camera : RecoveryCamera) : Option EligibleTarget :=
  let previous := memory.attempts.lookup camera.candidateUuid
  let attemptCount := (memory.counts.lookup camera.candidateUuid).getD 0
  if previous.any fun attempt =>
      now - attempt < retryInterval settings fleet camera attemptCount then
    none
  else
    (fleet.recoveryTarget camera).map fun target => ⟨previous, camera.candidateUuid, target⟩

/-- The attempts and counts of a camera are the same. -/
def Remembers (memory other : RecoveryMemory) (candidateUuid : String) : Prop :=
  memory.attempts.lookup candidateUuid = other.attempts.lookup candidateUuid ∧
    memory.counts.lookup candidateUuid = other.counts.lookup candidateUuid

omit [TextCase] in
theorem forget_remembers (memory : RecoveryMemory) {candidateUuid other : String}
    (different : other ≠ candidateUuid) : Remembers (memory.forget candidateUuid) memory other := by
  rw [Remembers, RecoveryMemory.forget, lookup_eraseKey, lookup_eraseKey, if_neg different,
    if_neg different]
  exact ⟨rfl, rfl⟩

/-- Nothing is counted up. -/
def CountsWithin (memory other : RecoveryMemory) : Prop :=
  ∀ candidateUuid, (memory.counts.lookup candidateUuid).getD 0 ≤
    (other.counts.lookup candidateUuid).getD 0

omit [TextCase] in
theorem forget_counts (memory : RecoveryMemory) (candidateUuid : String) :
    CountsWithin (memory.forget candidateUuid) memory := by
  intro other
  rw [RecoveryMemory.forget, lookup_eraseKey]
  split
  · exact Nat.zero_le _
  · exact le_refl _

/-- What the loop does with one camera. -/
theorem considerCamera_step (settings : RecoverySettings) (fleet : RecoveryFleet) (now : ℚ)
    (progress : Eligibility) (camera : RecoveryCamera) :
    (considerCamera settings fleet now progress camera).eligible = progress.eligible ++
        (dueItem settings fleet now progress.memory camera).toList ∧
      CountsWithin (considerCamera settings fleet now progress camera).memory progress.memory ∧
      ∀ other, other ≠ camera.candidateUuid →
        Remembers (considerCamera settings fleet now progress camera).memory progress.memory
          other := by
  unfold considerCamera
  split
  · rename_i skipped
    refine ⟨?_, forget_counts _ _, fun other => forget_remembers progress.memory⟩
    have none : fleet.recoveryTarget camera = none := by
      rw [RecoveryFleet.recoveryTarget, if_neg]
      rw [Bool.or_eq_true, Bool.not_eq_true', Bool.not_eq_true'] at skipped
      rw [Bool.and_eq_true]
      rintro ⟨enabled, needed⟩
      rcases skipped with disabled | fine
      · rw [enabled] at disabled
        cases disabled
      · rw [needed] at fine
        cases fine
    simp [dueItem, none]
  · rename_i needed
    have target : fleet.recoveryTarget camera =
        candidateTarget (fleet.candidate camera) camera.candidateUuid := by
      rw [RecoveryFleet.recoveryTarget, if_pos]
      rw [Bool.or_eq_true, not_or, Bool.not_eq_true', Bool.not_eq_true', Bool.not_eq_false,
        Bool.not_eq_false] at needed
      rw [needed.1, needed.2]
      rfl
    have same : CountsWithin progress.memory progress.memory ∧
        ∀ other, other ≠ camera.candidateUuid → Remembers progress.memory progress.memory other :=
      ⟨fun _ => le_refl _, fun _ _ => ⟨rfl, rfl⟩⟩
    rw [dueItem, target]
    dsimp only
    split
    · exact ⟨(List.append_nil _).symm, same⟩
    · cases candidateTarget (fleet.candidate camera) camera.candidateUuid with
      | none => exact ⟨(List.append_nil _).symm, same⟩
      | some found => exact ⟨rfl, same⟩

omit [TextCase] in
theorem ofAdopted_counts (memory : RecoveryMemory) (fleet : RecoveryFleet) :
    CountsWithin (memory.ofAdopted fleet) memory := by
  intro candidateUuid
  rw [RecoveryMemory.ofAdopted]
  cases kept : (fleet.cameras.any fun camera => decide (camera.candidateUuid = candidateUuid)) ||
      (memory.attempts.lookup candidateUuid).isNone with
  | true => rw [lookup_filter_kept fun _ => kept]
  | false =>
      rw [lookup_filter_gone fun _ => kept]
      exact Nat.zero_le _

omit [TextCase] in
theorem ofAdopted_remembers (memory : RecoveryMemory) {fleet : RecoveryFleet}
    {camera : RecoveryCamera} (member : camera ∈ fleet.cameras) :
    Remembers (memory.ofAdopted fleet) memory camera.candidateUuid := by
  have adopted : (fleet.cameras.any fun other =>
      decide (other.candidateUuid = camera.candidateUuid)) = true :=
    List.any_eq_true.mpr ⟨camera, member, decide_eq_true rfl⟩
  constructor
  · exact lookup_filter_kept fun _ => adopted
  · refine lookup_filter_kept fun _ => ?_
    simp only [adopted, Bool.true_or]

/-- The eligible targets are the due items of the cameras in the order of their ids, and nothing
has been counted up. -/
theorem considerCameras_eligible (settings : RecoverySettings) (fleet : RecoveryFleet) (now : ℚ)
    (memory : RecoveryMemory) :
    (considerCameras settings fleet now memory).eligible =
        (fleet.cameras.mergeSort fun first second =>
          first.candidateUuid ≤ second.candidateUuid).filterMap
            (dueItem settings fleet now memory) ∧
      CountsWithin (considerCameras settings fleet now memory).memory memory := by
  have distinct : ((fleet.cameras.mergeSort fun first second =>
      first.candidateUuid ≤ second.candidateUuid).map RecoveryCamera.candidateUuid).Nodup :=
    ((List.mergeSort_perm _ _).map _).nodup_iff.mpr fleet.distinct
  have listed : ∀ camera ∈ fleet.cameras.mergeSort fun first second =>
      first.candidateUuid ≤ second.candidateUuid,
      Remembers (memory.ofAdopted fleet) memory camera.candidateUuid :=
    fun camera member => ofAdopted_remembers memory (List.mem_mergeSort.mp member)
  rw [considerCameras]
  generalize fleet.cameras.mergeSort _ = cameras at distinct listed
  suffices general : ∀ progress : Eligibility,
      (∀ camera ∈ cameras, Remembers progress.memory memory camera.candidateUuid) →
      CountsWithin progress.memory memory →
      (cameras.foldl (considerCamera settings fleet now) progress).eligible =
          progress.eligible ++ cameras.filterMap (dueItem settings fleet now memory) ∧
        CountsWithin (cameras.foldl (considerCamera settings fleet now) progress).memory memory from
    general { memory := memory.ofAdopted fleet } listed (ofAdopted_counts memory fleet)
  clear listed
  induction cameras with
  | nil => exact fun progress _ within => ⟨(List.append_nil _).symm, within⟩
  | cons camera rest ih =>
      intro progress remembers within
      obtain ⟨unlisted, others⟩ := List.nodup_cons.mp distinct
      obtain ⟨added, counted, kept⟩ := considerCamera_step settings fleet now progress camera
      have sameItem : dueItem settings fleet now progress.memory camera =
          dueItem settings fleet now memory camera := by
        obtain ⟨attempts, counts⟩ := remembers camera List.mem_cons_self
        simp only [dueItem, attempts, counts]
      have later := ih others (considerCamera settings fleet now progress camera)
        (fun other member => by
          have different : other.candidateUuid ≠ camera.candidateUuid :=
            fun same => unlisted (List.mem_map.mpr ⟨other, member, same⟩)
          have old := remembers other (List.mem_cons_of_mem _ member)
          have step := kept other.candidateUuid different
          exact ⟨step.1.trans old.1, step.2.trans old.2⟩)
        (fun candidateUuid => (counted candidateUuid).trans (within candidateUuid))
      rw [List.foldl_cons, later.1, added, sameItem, List.filterMap_cons]
      refine ⟨?_, later.2⟩
      cases dueItem settings fleet now memory camera with
      | none => simp
      | some item => simp

theorem eligible_camera {settings : RecoverySettings} {fleet : RecoveryFleet} {now : ℚ}
    {memory : RecoveryMemory} {item : EligibleTarget}
    (isItem : item ∈ (considerCameras settings fleet now memory).eligible) :
    ∃ camera ∈ fleet.cameras, camera.candidateUuid = item.candidateUuid ∧
      fleet.recoveryTarget camera = some item.target := by
  rw [(considerCameras_eligible settings fleet now memory).1] at isItem
  obtain ⟨camera, member, isDue⟩ := List.mem_filterMap.mp isItem
  refine ⟨camera, List.mem_mergeSort.mp member, ?_⟩
  simp only [dueItem] at isDue
  split at isDue
  · cases isDue
  · obtain ⟨target, isTarget, rfl⟩ := Option.map_eq_some_iff.mp isDue
    exact ⟨rfl, isTarget⟩

omit [TextCase] in
theorem advance_counts (memory : RecoveryMemory) (selected : List String) (now : ℚ)
    (candidateUuid : String) :
    (memory.advance selected now).counts.lookup candidateUuid =
      if candidateUuid ∈ selected then some ((memory.counts.lookup candidateUuid).getD 0 + 1)
      else memory.counts.lookup candidateUuid := by
  have distinct := List.nodup_dedup selected
  have general : ∀ counts : List (String × Nat),
      (selected.dedup.foldl (fun counts candidateUuid =>
        setKey counts candidateUuid ((counts.lookup candidateUuid).getD 0 + 1)) counts).lookup
          candidateUuid =
        if candidateUuid ∈ selected.dedup then some ((counts.lookup candidateUuid).getD 0 + 1)
        else counts.lookup candidateUuid := by
    generalize selected.dedup = unique at distinct
    induction unique with
    | nil => exact fun counts => rfl
    | cons first rest ih =>
        intro counts
        obtain ⟨unlisted, others⟩ := List.nodup_cons.mp distinct
        rw [List.foldl_cons, ih others, lookup_setKey]
        by_cases isFirst : candidateUuid = first
        · subst isFirst
          rw [if_neg unlisted, if_pos rfl, if_pos List.mem_cons_self]
        · rw [if_neg isFirst]
          simp only [List.mem_cons, isFirst, false_or]
  rw [RecoveryMemory.advance, general memory.counts]
  simp only [List.mem_dedup]

theorem candidateTarget_same {candidate : Option Device} {candidateUuid : String}
    {target : ScanTarget} (isTarget : candidateTarget candidate candidateUuid = some target) :
    ∃ device, candidate = some device ∧ ∀ other : ScanTarget,
      sameIdentity device.toSighting other.sighting = sameTarget target other := by
  cases candidate with
  | none => cases isTarget
  | some device =>
      refine ⟨device, rfl, fun other => ?_⟩
      simp only [candidateTarget] at isTarget
      split at isTarget
      · cases isTarget
      · split at isTarget
        · cases isTarget
        · obtain rfl := Option.some.inj isTarget
          rfl

/-! Requests. -/

/-- The counter of the camera is advanced. -/
def Advanced (before after : RecoveryMemory) (candidateUuid : String) : Prop :=
  (before.counts.lookup candidateUuid).getD 0 < (after.counts.lookup candidateUuid).getD 0

/-- The request has few enough targets, none of the same device as another one, and the device of
each camera whose counter is advanced. -/
structure NamesDevicesOnce (fleet : RecoveryFleet) (before : RecoveryMemory)
    (result : RecoveryMemory × Option ScanRequest) : Prop where
  bounded : ∀ request ∈ result.2, request.targets.length ≤ 16
  distinct : ∀ request ∈ result.2, request.targets.Pairwise
    fun first second => sameTarget first second = false
  represented : ∀ candidateUuid, Advanced before result.1 candidateUuid →
    ∃ request ∈ result.2, ∃ camera ∈ fleet.cameras, camera.candidateUuid = candidateUuid ∧
      ∃ candidate, fleet.candidate camera = some candidate ∧ ∃ target ∈ request.targets,
        sameIdentity candidate.toSighting target.sighting = true

/-- Every camera that needs recovery has an identity, and no camera is the bridge between two
others. -/
structure SeparateIdentities (fleet : RecoveryFleet) : Prop where
  identified : ∀ camera ∈ fleet.cameras, ∀ target, fleet.recoveryTarget camera = some target →
    Identified target
  unbridged : ∀ first ∈ fleet.cameras, ∀ second ∈ fleet.cameras, ∀ third ∈ fleet.cameras,
    ∀ plain other both, fleet.recoveryTarget first = some plain →
      fleet.recoveryTarget second = some other → fleet.recoveryTarget third = some both →
      ¬ Bridges plain other both

theorem recoveryTarget_candidate {fleet : RecoveryFleet} {camera : RecoveryCamera}
    {target : ScanTarget} (isTarget : fleet.recoveryTarget camera = some target) :
    ∃ candidate, fleet.candidate camera = some candidate ∧ ∀ other : ScanTarget,
      sameIdentity candidate.toSighting other.sighting = sameTarget target other := by
  rw [RecoveryFleet.recoveryTarget] at isTarget
  split at isTarget
  · exact candidateTarget_same isTarget
  · cases isTarget

theorem SeparateIdentities.names_once {fleet : RecoveryFleet}
    (separate : SeparateIdentities fleet) (settings : RecoverySettings) (call : QueueCall)
    (memory : RecoveryMemory) :
    NamesDevicesOnce fleet memory (queueRecoveryScan settings fleet call memory) := by
  have within := (considerCameras_eligible settings fleet call.now memory).2
  have sound : SelectionSound (considerCameras settings fleet call.now memory).eligible
      (selectTargets (considerCameras settings fleet call.now memory).eligible) := by
    apply selectTargets_sound
    · intro item isItem
      obtain ⟨camera, member, _, isTarget⟩ := eligible_camera isItem
      exact separate.identified camera member item.target isTarget
    · intro plain isPlain other isOther both isBoth
      obtain ⟨first, isFirst, _, firstTarget⟩ := eligible_camera isPlain
      obtain ⟨second, isSecond, _, secondTarget⟩ := eligible_camera isOther
      obtain ⟨third, isThird, _, thirdTarget⟩ := eligible_camera isBoth
      exact separate.unbridged first isFirst second isSecond third isThird _ _ _ firstTarget
        secondTarget thirdTarget
  have still {later : RecoveryMemory} (counted : CountsWithin later memory) :
      NamesDevicesOnce fleet memory (later, none) :=
    ⟨(fun request isRequest => nomatch isRequest), (fun request isRequest => nomatch isRequest),
      fun candidateUuid advanced => absurd advanced (not_lt.mpr (counted candidateUuid))⟩
  unfold queueRecoveryScan
  split
  · exact still fun _ => le_refl _
  · dsimp only
    split
    · exact still within
    · split
      · exact still within
      · refine ⟨?_, ?_, ?_⟩
        · rintro request ⟨⟩
          exact sound.bounded
        · rintro request ⟨⟩
          exact sound.distinct
        · intro candidateUuid advanced
          refine ⟨_, rfl, ?_⟩
          have isSelected : candidateUuid ∈ (selectTargets
              (considerCameras settings fleet call.now memory).eligible).selected := by
            by_contra unselected
            rw [Advanced, advance_counts, if_neg unselected] at advanced
            exact absurd advanced (not_lt.mpr (within candidateUuid))
          obtain ⟨item, isItem, rfl, target, member, stands⟩ :=
            sound.represented candidateUuid isSelected
          obtain ⟨camera, isCamera, sameUuid, isTarget⟩ := eligible_camera isItem
          obtain ⟨candidate, isCandidate, same⟩ := recoveryTarget_candidate isTarget
          exact ⟨camera, isCamera, sameUuid, candidate, isCandidate, target, member,
            (same target).trans stands.1⟩

/-! Cameras that are due in a given order. -/

omit [TextCase] in
theorem eligibleOrder_some {first second : EligibleTarget} {attempt other : ℚ}
    (isFirst : first.previous = some attempt) (isSecond : second.previous = some other) :
    eligibleOrder first second = true ↔ attempt < other ∨
      attempt = other ∧ first.candidateUuid ≤ second.candidateUuid := by
  rw [eligibleOrder, isFirst, isSecond]
  simp only [Bool.or_eq_true, Bool.and_eq_true, decide_eq_true_eq]

omit [TextCase] in
theorem eligibleOrder_trans (first second third : EligibleTarget)
    (before : eligibleOrder first second = true) (after : eligibleOrder second third = true) :
    eligibleOrder first third = true := by
  obtain ⟨attempt, firstUuid, _⟩ := first
  obtain ⟨middle, secondUuid, _⟩ := second
  obtain ⟨other, thirdUuid, _⟩ := third
  cases attempt with
  | none =>
      cases other with
      | some _ => rfl
      | none =>
          cases middle with
          | some _ => cases after
          | none =>
              simp only [eligibleOrder, decide_eq_true_eq] at before after ⊢
              exact String.le_trans before after
  | some attempt =>
      cases middle with
      | none => cases before
      | some middle =>
          cases other with
          | none => cases after
          | some other =>
              rw [eligibleOrder_some rfl rfl] at before after ⊢
              rcases before with earlier | ⟨rfl, uuids⟩
              · rcases after with later | ⟨rfl, _⟩
                · exact .inl (earlier.trans later)
                · exact .inl earlier
              · exact after.imp id fun both => ⟨both.1, String.le_trans uuids both.2⟩

omit [TextCase] in
theorem eligibleOrder_total (first second : EligibleTarget) :
    (eligibleOrder first second || eligibleOrder second first) = true := by
  obtain ⟨attempt, firstUuid, _⟩ := first
  obtain ⟨other, secondUuid, _⟩ := second
  rw [Bool.or_eq_true]
  cases attempt with
  | none =>
      cases other with
      | some _ => exact .inl rfl
      | none =>
          simp only [eligibleOrder, decide_eq_true_eq]
          exact String.le_total firstUuid secondUuid
  | some attempt =>
      cases other with
      | none => exact .inr rfl
      | some other =>
          rw [eligibleOrder_some rfl rfl, eligibleOrder_some rfl rfl]
          rcases lt_trichotomy attempt other with earlier | rfl | later
          · exact .inl (.inl earlier)
          · exact (String.le_total firstUuid secondUuid).imp (fun uuids => .inr ⟨rfl, uuids⟩)
              fun uuids => .inr ⟨rfl, uuids⟩
          · exact .inr (.inl later)

/-- The cameras of the order were tried one after the other, the last of them long enough ago;
every other camera has just been tried. -/
def RecoverySettings.orderEnd (settings : RecoverySettings) (order : List RecoveryCamera) : ℚ :=
  settings.interval + order.length

def attemptTime (settings : RecoverySettings) (order : List RecoveryCamera)
    (camera : RecoveryCamera) : ℚ :=
  if camera ∈ order then order.idxOf camera else settings.orderEnd order

def attemptsInOrder (settings : RecoverySettings) (fleet : RecoveryFleet)
    (order : List RecoveryCamera) : RecoveryMemory where
  attempts := fleet.cameras.map fun camera =>
    (camera.candidateUuid, attemptTime settings order camera)

omit [TextCase] in
theorem attemptsInOrder_lookup (settings : RecoverySettings) {fleet : RecoveryFleet}
    (order : List RecoveryCamera) {camera : RecoveryCamera} (member : camera ∈ fleet.cameras) :
    (attemptsInOrder settings fleet order).attempts.lookup camera.candidateUuid =
      some (attemptTime settings order camera) := by
  have distinct : (fleet.cameras.map RecoveryCamera.candidateUuid).Nodup := fleet.distinct
  rw [attemptsInOrder]
  dsimp only
  generalize fleet.cameras = cameras at member distinct
  induction cameras with
  | nil => cases member
  | cons first rest ih =>
      obtain ⟨unlisted, others⟩ := List.nodup_cons.mp distinct
      rw [List.map_cons, List.lookup_cons]
      rcases List.mem_cons.mp member with rfl | later
      · rw [beq_self_eq_true]
      · have different : (camera.candidateUuid == first.candidateUuid) = false :=
          beq_false_of_ne fun same => unlisted (List.mem_map.mpr ⟨camera, later, same⟩)
        rw [different]
        exact ih later others

theorem retryInterval_bounds (settings : RecoverySettings) (fleet : RecoveryFleet)
    (camera : RecoveryCamera) (attemptCount : Nat) :
    0 < retryInterval settings fleet camera attemptCount ∧
      retryInterval settings fleet camera attemptCount ≤ settings.interval := by
  have minute : (60 : ℚ) ≤ settings.interval := le_max_left _ _
  rw [retryInterval]
  split
  · rw [fastRetryInterval]
    exact ⟨by norm_num, by linarith⟩
  · exact ⟨by linarith, le_refl _⟩

/-- The item of a camera of the order. -/
def orderedItem (fleet : RecoveryFleet) (order : List RecoveryCamera) (camera : RecoveryCamera) :
    Option EligibleTarget :=
  (fleet.recoveryTarget camera).map fun target =>
    ⟨some (order.idxOf camera : ℚ), camera.candidateUuid, target⟩

theorem dueItem_inOrder (settings : RecoverySettings) {fleet : RecoveryFleet}
    (order : List RecoveryCamera) {camera : RecoveryCamera} (member : camera ∈ fleet.cameras) :
    dueItem settings fleet (settings.orderEnd order) (attemptsInOrder settings fleet order)
      camera = if camera ∈ order then orderedItem fleet order camera else none := by
  obtain ⟨positive, within⟩ := retryInterval_bounds settings fleet camera 0
  have uncounted : (((attemptsInOrder settings fleet order).counts.lookup
      camera.candidateUuid).getD 0) = 0 := rfl
  rw [dueItem, attemptsInOrder_lookup settings order member, uncounted]
  simp only [Option.any_some, decide_eq_true_eq, attemptTime]
  by_cases ordered : camera ∈ order
  · have before : (order.idxOf camera : ℚ) ≤ order.length := by
      exact_mod_cast (List.idxOf_lt_length_iff.mpr ordered).le
    rw [if_pos ordered, if_pos ordered, if_neg, orderedItem]
    rw [RecoverySettings.orderEnd]
    linarith
  · rw [if_neg ordered, if_neg ordered, if_pos]
    linarith

/-- The eligible targets are those of the order, in the order. -/
theorem eligible_inOrder (settings : RecoverySettings) {fleet : RecoveryFleet}
    {order : List RecoveryCamera} (distinct : order.Nodup)
    (listed : ∀ camera ∈ order, camera ∈ fleet.cameras) :
    (considerCameras settings fleet (settings.orderEnd order)
        (attemptsInOrder settings fleet order)).eligible.mergeSort eligibleOrder =
      order.filterMap (orderedItem fleet order) := by
  have perm : (considerCameras settings fleet (settings.orderEnd order)
      (attemptsInOrder settings fleet order)).eligible.Perm
        (order.filterMap (orderedItem fleet order)) := by
    rw [(considerCameras_eligible settings fleet _ _).1]
    have sorted := List.mergeSort_perm fleet.cameras fun first second =>
      first.candidateUuid ≤ second.candidateUuid
    generalize fleet.cameras.mergeSort _ = cameras at sorted
    have due : cameras.filterMap (dueItem settings fleet (settings.orderEnd order)
        (attemptsInOrder settings fleet order)) =
          (cameras.filter (· ∈ order)).filterMap (orderedItem fleet order) := by
      rw [List.filterMap_filter]
      apply List.filterMap_congr
      intro camera member
      rw [dueItem_inOrder settings order (sorted.mem_iff.mp member)]
      simp
    rw [due]
    apply List.Perm.filterMap
    apply (List.perm_ext_iff_of_nodup ((sorted.nodup_iff.mpr
      (List.Nodup.of_map _ fleet.distinct)).filter _) distinct).mpr
    intro camera
    rw [List.mem_filter, sorted.mem_iff, decide_eq_true_eq]
    exact ⟨And.right, fun ordered => ⟨listed camera ordered, ordered⟩⟩
  have increasing : (order.filterMap (orderedItem fleet order)).Pairwise fun first second =>
      ∃ attempt other, first.previous = some attempt ∧ second.previous = some other ∧
        attempt < other := by
    rw [List.pairwise_filterMap, List.pairwise_iff_getElem]
    intro first second isFirst isSecond before item isItem other isOther
    obtain ⟨_, _, rfl⟩ := Option.map_eq_some_iff.mp isItem
    obtain ⟨_, _, rfl⟩ := Option.map_eq_some_iff.mp isOther
    refine ⟨_, _, rfl, rfl, ?_⟩
    rw [distinct.idxOf_getElem, distinct.idxOf_getElem]
    exact_mod_cast before
  refine List.Perm.eq_of_pairwise ?_ (List.pairwise_mergeSort eligibleOrder_trans
    eligibleOrder_total _) (increasing.imp ?_) ((List.mergeSort_perm _ _).trans perm)
  · intro first second isFirst isSecond forward backward
    have isOrdered := (((List.mergeSort_perm _ _).trans perm).mem_iff).mp isFirst
    obtain ⟨camera, ordered, isItem⟩ := List.mem_filterMap.mp isOrdered
    obtain ⟨other, _, isOther⟩ := List.mem_filterMap.mp isSecond
    have same : camera = other := by
      obtain ⟨_, _, rfl⟩ := Option.map_eq_some_iff.mp isItem
      obtain ⟨_, _, rfl⟩ := Option.map_eq_some_iff.mp isOther
      rw [eligibleOrder_some rfl rfl] at forward backward
      apply (List.idxOf_inj ordered).mp
      rcases forward with earlier | ⟨times, _⟩
      · rcases backward with later | ⟨times, _⟩
        · exact absurd later earlier.asymm
        · exact_mod_cast times.symm
      · exact_mod_cast times
    rw [same, isOther] at isItem
    exact (Option.some.inj isItem).symm
  · rintro first second ⟨attempt, other, isFirst, isSecond, earlier⟩
    exact (eligibleOrder_some isFirst isSecond).mpr (.inl earlier)

/-- A call that nothing stands in the way of. -/
def readyCall (now : ℚ) : QueueCall where
  now := now
  paused := false
  requested := false
  busy := false
  subnets := ["192.0.2.0/24"]
  scanId := "6b1f8a52"
  requestedAt := "2025-01-01T00:00:00+00:00"
  pausedLater := false
  requestedLater := false
  busyLater := false

theorem queueRecoveryScan_ready {settings : RecoverySettings} {fleet : RecoveryFleet} {now : ℚ}
    {memory : RecoveryMemory}
    (some : (selectTargets (considerCameras settings fleet now memory).eligible).targets ≠ []) :
    queueRecoveryScan settings fleet (readyCall now) memory =
      ((considerCameras settings fleet now memory).memory.advance
          (selectTargets (considerCameras settings fleet now memory).eligible).selected now,
        .some (queueTargetedRecoveryScan "6b1f8a52"
          (selectTargets (considerCameras settings fleet now memory).eligible).targets
          ["192.0.2.0/24"] "2025-01-01T00:00:00+00:00")) := by
  rw [queueRecoveryScan]
  simp only [readyCall, Bool.or_false, Bool.false_eq_true, if_false, some, List.cons_ne_nil,
    decide_false]

/-- The request for the cameras of the order. -/
def orderedRequest (settings : RecoverySettings) (fleet : RecoveryFleet)
    (order : List RecoveryCamera) : RecoveryMemory × Option ScanRequest :=
  queueRecoveryScan settings fleet (readyCall (settings.orderEnd order))
    (attemptsInOrder settings fleet order)

def orderedSelection (fleet : RecoveryFleet) (order : List RecoveryCamera) : TargetSelection :=
  (order.filterMap (orderedItem fleet order)).foldl selectTarget {}

theorem orderedRequest_targets (settings : RecoverySettings) {fleet : RecoveryFleet}
    {order : List RecoveryCamera} (distinct : order.Nodup)
    (listed : ∀ camera ∈ order, camera ∈ fleet.cameras)
    (some : (orderedSelection fleet order).targets ≠ []) :
    (∃ request, (orderedRequest settings fleet order).2 = .some request ∧
      request.targets = (orderedSelection fleet order).targets) ∧
    ∀ candidateUuid ∈ (orderedSelection fleet order).selected,
      Advanced (attemptsInOrder settings fleet order) (orderedRequest settings fleet order).1
        candidateUuid := by
  have selection : selectTargets (considerCameras settings fleet (settings.orderEnd order)
      (attemptsInOrder settings fleet order)).eligible = orderedSelection fleet order := by
    rw [selectTargets, eligible_inOrder settings distinct listed, orderedSelection]
  rw [orderedRequest, queueRecoveryScan_ready (selection ▸ some), selection]
  refine ⟨⟨_, rfl, rfl⟩, fun candidateUuid isSelected => ?_⟩
  rw [Advanced, advance_counts, if_pos isSelected]
  exact Nat.succ_pos _

/-- A camera of a blank identity is counted without an entry of the same device. -/
theorem NamesDevicesOnce.identified {settings : RecoverySettings} {fleet : RecoveryFleet}
    {camera : RecoveryCamera} {target : ScanTarget} (member : camera ∈ fleet.cameras)
    (isTarget : fleet.recoveryTarget camera = some target)
    (named : NamesDevicesOnce fleet (attemptsInOrder settings fleet [camera])
      (orderedRequest settings fleet [camera])) : Identified target := by
  have selection : orderedSelection fleet [camera] = ⟨[target], [camera.candidateUuid]⟩ := by
    rw [orderedSelection, List.filterMap_cons, orderedItem, isTarget]
    rfl
  obtain ⟨⟨request, isRequest, targets⟩, advanced⟩ := orderedRequest_targets settings
    (List.nodup_singleton camera) (List.forall_mem_singleton.mpr member)
    (by rw [selection]; exact List.cons_ne_nil _ _)
  rw [selection] at targets advanced
  obtain ⟨found, isFound, same, isCamera, sameUuid, candidate, isCandidate, entry, isEntry,
    sameDevice⟩ := named.represented camera.candidateUuid
      (advanced camera.candidateUuid (List.mem_singleton.mpr rfl))
  have isSame : same = camera := List.inj_on_of_nodup_map fleet.distinct isCamera member sameUuid
  subst isSame
  obtain ⟨known, isKnown, sameAs⟩ := recoveryTarget_candidate isTarget
  rw [isKnown] at isCandidate
  obtain rfl := Option.some.inj isCandidate
  rw [isRequest] at isFound
  obtain rfl := Option.some.inj isFound
  rw [targets, List.mem_singleton] at isEntry
  rw [isEntry, sameAs] at sameDevice
  exact sameTarget_self.mp sameDevice

/-- After the camera of the MAC address and the camera of the endpoint, the bridge takes the place
of the first and is the device of the second as well. -/
theorem orderedSelection_bridged {fleet : RecoveryFleet} {first second third : RecoveryCamera}
    {plain other both : ScanTarget} (firstTarget : fleet.recoveryTarget first = some plain)
    (secondTarget : fleet.recoveryTarget second = some other)
    (thirdTarget : fleet.recoveryTarget third = some both) (bridges : Bridges plain other both) :
    (orderedSelection fleet [first, second, third]).targets = [both, other] := by
  have apart : sameTarget other plain = false := by
    rw [← Bool.not_eq_true, sameTarget_iff]
    rintro (⟨known, endpoints⟩ | ⟨_, _, macs⟩)
    · rw [targetEndpoint_empty bridges.noEndpoint] at endpoints
      exact known endpoints
    · exact bridges.otherMac macs
  have fits : sameTarget both plain = true :=
    sameTarget_iff.mpr (.inr ⟨.inr (targetEndpoint_empty bridges.noEndpoint),
      bridges.sameMac ▸ bridges.mac, bridges.sameMac⟩)
  have given : isGiven both.endpointReference = true :=
    given_endpoint (bridges.sameEndpoint ▸ bridges.endpoint)
  have stronger : strongerTarget plain both = both := by
    rw [strongerTarget, given, bridges.noEndpoint]
    rfl
  rw [orderedSelection, List.filterMap_cons, List.filterMap_cons, List.filterMap_cons, orderedItem,
    orderedItem, orderedItem, firstTarget, secondTarget, thirdTarget]
  simp [selectTarget, firstFit, apart, fits, stronger]

theorem bridged_distinct {fleet : RecoveryFleet} {first second third : RecoveryCamera}
    {plain other both : ScanTarget} (firstTarget : fleet.recoveryTarget first = some plain)
    (secondTarget : fleet.recoveryTarget second = some other)
    (thirdTarget : fleet.recoveryTarget third = some both) (bridges : Bridges plain other both) :
    [first, second, third].Nodup := by
  have noEndpoint := targetEndpoint_empty bridges.noEndpoint
  have differ {camera next : RecoveryCamera} {target later : ScanTarget}
      (isTarget : fleet.recoveryTarget camera = some target)
      (isLater : fleet.recoveryTarget next = some later) (different : target ≠ later) :
      camera ≠ next := by
    rintro rfl
    rw [isTarget] at isLater
    exact different (Option.some.inj isLater)
  have firstSecond : plain ≠ other := fun same => bridges.otherMac (same ▸ rfl)
  have firstThird : plain ≠ both := by
    rintro rfl
    exact bridges.endpoint (bridges.sameEndpoint ▸ noEndpoint)
  have secondThird : other ≠ both := fun same => bridges.otherMac (same ▸ bridges.sameMac)
  simp [differ firstTarget secondTarget firstSecond, differ firstTarget thirdTarget firstThird,
    differ secondTarget thirdTarget secondThird]

theorem NamesDevicesOnce.unbridged {settings : RecoverySettings} {fleet : RecoveryFleet}
    {first second third : RecoveryCamera} {plain other both : ScanTarget}
    (isFirst : first ∈ fleet.cameras) (isSecond : second ∈ fleet.cameras)
    (isThird : third ∈ fleet.cameras) (firstTarget : fleet.recoveryTarget first = some plain)
    (secondTarget : fleet.recoveryTarget second = some other)
    (thirdTarget : fleet.recoveryTarget third = some both)
    (named : NamesDevicesOnce fleet (attemptsInOrder settings fleet [first, second, third])
      (orderedRequest settings fleet [first, second, third])) : ¬ Bridges plain other both := by
  intro bridges
  have selection := orderedSelection_bridged firstTarget secondTarget thirdTarget bridges
  have listed : ∀ camera ∈ [first, second, third], camera ∈ fleet.cameras := by
    simp [isFirst, isSecond, isThird]
  obtain ⟨⟨request, isRequest, targets⟩, _⟩ := orderedRequest_targets settings
    (bridged_distinct firstTarget secondTarget thirdTarget bridges) listed
    (by rw [selection]; exact List.cons_ne_nil _ _)
  have apart := named.distinct request isRequest
  rw [targets, selection, List.pairwise_pair] at apart
  rw [sameTarget_iff.mpr (.inl ⟨bridges.sameEndpoint ▸ bridges.endpoint, bridges.sameEndpoint⟩)]
    at apart
  cases apart

/-- Whatever the order in which the cameras of the fleet are due, the request names each device
once, exactly if their identities are separate. -/
theorem names_devices_once_iff (settings : RecoverySettings) (fleet : RecoveryFleet) :
    (∀ call memory, NamesDevicesOnce fleet memory
        (queueRecoveryScan settings fleet call memory)) ↔
      SeparateIdentities fleet := by
  constructor
  · intro named
    constructor
    · intro camera member target isTarget
      exact NamesDevicesOnce.identified member isTarget
        (named (readyCall (settings.orderEnd [camera])) (attemptsInOrder settings fleet [camera]))
    · intro first isFirst second isSecond third isThird plain other both firstTarget secondTarget
        thirdTarget
      exact NamesDevicesOnce.unbridged isFirst isSecond isThird firstTarget secondTarget
        thirdTarget (named (readyCall (settings.orderEnd [first, second, third]))
          (attemptsInOrder settings fleet [first, second, third]))
  · exact fun separate call memory => separate.names_once settings call memory

end

/-- A channel of one recorder that is offline. -/
def offlineChannel (cameraUuid candidateUuid : String) : RecoveryCamera where
  row := {
    cameraUuid := cameraUuid
    candidateUuid := candidateUuid
    displayName := ""
    credentialUuid := "" }
  streams := [⟨true, .offline, none⟩]

def learnedDevice (candidateUuid : String) (endpointReference mac : Option String) : Device where
  ip := "192.0.2.7"
  mac := mac
  onvif := endpointReference.map fun reference => { endpointReference := some reference }
  candidateUuid := candidateUuid

/-- Three channels of a recorder, which were verified by its MAC address, by its endpoint and by
both. -/
def recorderFleet : RecoveryFleet where
  cameras := [offlineChannel "first" "a", offlineChannel "second" "b", offlineChannel "third" "c"]
  distinct := by
    rw [Unique]
    decide
  devices := []
  links := [("first", learnedDevice "a" none (some "00:11:22:33:44:55")),
    ("second", learnedDevice "b" (some "urn:uuid:2c1f") none),
    ("third", learnedDevice "c" (some "urn:uuid:2c1f") (some "00:11:22:33:44:55"))]
  stalled := []

theorem recorder_named_twice :
    letI := asciiCase
    ¬ NamesDevicesOnce recorderFleet {}
      (queueRecoveryScan ⟨300⟩ recorderFleet (readyCall 0) {}) := by
  let _ := asciiCase
  intro named
  have cameras : (recorderFleet.cameras.mergeSort fun first second =>
      decide (first.candidateUuid ≤ second.candidateUuid)) = recorderFleet.cameras :=
    List.mergeSort_of_pairwise (by decide)
  have eligible : (considerCameras ⟨300⟩ recorderFleet 0 {}).eligible =
      [⟨none, "a", ⟨some "a", none, some "00:11:22:33:44:55"⟩⟩,
        ⟨none, "b", ⟨some "b", some "urn:uuid:2c1f", none⟩⟩,
        ⟨none, "c", ⟨some "c", some "urn:uuid:2c1f", some "00:11:22:33:44:55"⟩⟩] := by
    rw [considerCameras, cameras]
    decide +kernel
  have selection : (selectTargets (considerCameras ⟨300⟩ recorderFleet 0 {}).eligible).targets =
      [⟨some "c", some "urn:uuid:2c1f", some "00:11:22:33:44:55"⟩,
        ⟨some "b", some "urn:uuid:2c1f", none⟩] := by
    rw [selectTargets, eligible, List.mergeSort_of_pairwise (by decide)]
    decide +kernel
  have apart := named.distinct _ (by
    rw [queueRecoveryScan_ready (by rw [selection]; exact List.cons_ne_nil _ _), selection]
    rfl)
  rw [queueTargetedRecoveryScan, List.pairwise_pair] at apart
  revert apart
  decide +kernel

end CamAdmiral
