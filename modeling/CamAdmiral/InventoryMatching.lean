import CamAdmiral.Greedy
import CamAdmiral.InventoryCore
import CamAdmiral.Succession

/-!
What one reconciliation does to the previous devices. The matching takes each of them at
most once, so the result is a succession: one successor for every previous device, which
keeps its candidate and its first sighting, and one new device for every observation that
matched nothing.
-/

namespace CamAdmiral

section
variable [TextCase]

theorem mem_previousStableIndices (previous : List Device) (key : StableKey) (index : Nat) :
    index ∈ previousStableIndices previous key ↔
      ∃ device, previous[index]? = some device ∧ key ∈ stableKeys device.toSighting := by
  simp only [previousStableIndices, List.mem_map, List.mem_filter, Prod.exists,
    List.mem_zipIdx_iff_getElem?, decide_eq_true_eq]
  constructor
  · rintro ⟨device, position, ⟨get, owns⟩, rfl⟩
    exact ⟨device, get, owns⟩
  · rintro ⟨device, get, owns⟩
    exact ⟨device, index, ⟨get, owns⟩, rfl⟩

theorem stableIndex_eq_some (previous : List Device) (current : List Observation)
    (key : StableKey) (index : Nat) :
    stableIndex previous current key = some index ↔
      previousStableIndices previous key = [index] ∧ currentStableCount current key = 1 := by
  simp only [stableIndex]
  split
  · rename_i position only
    rw [only]
    split <;> simp_all
  · rename_i notSingle
    simp only [reduceCtorEq, false_iff, not_and]
    intro single
    exact (notSingle index single).elim

omit [TextCase] in
theorem ipIndex_eq_some {previous : List Device} {address : String} {index : Nat}
    (found : ipIndex previous address = some index) :
    address ≠ "" ∧ ∃ device, previous[index]? = some device ∧ device.ip = address := by
  simp only [ipIndex] at found
  split at found
  · simp at found
  · rename_i named
    rw [List.findIdx?_eq_some_iff_getElem] at found
    obtain ⟨bound, matched, _⟩ := found
    exact ⟨named, previous[index], List.getElem?_eq_getElem bound, by simpa using matched⟩

/-- A key of the observation identifies the previous device at `index`. -/
def Identifies (previous : List Device) (current : List Observation) (observation : Observation)
    (index : Nat) : Prop :=
  ∃ key ∈ stableKeys observation.toSighting, stableIndex previous current key = some index

theorem identifies_of_onvifKey {previous : List Device} {current : List Observation}
    {observation : Observation} {index : Nat}
    (found : (onvifKey observation.toSighting).bind (stableIndex previous current) = some index) :
    Identifies previous current observation index := by
  obtain ⟨key, isKey, single⟩ := Option.bind_eq_some_iff.mp found
  exact ⟨key, by simp [stableKeys, isKey], single⟩

theorem identifies_of_macKey {previous : List Device} {current : List Observation}
    {observation : Observation} {index : Nat}
    (found : (macKey observation.toSighting).bind (stableIndex previous current) = some index) :
    Identifies previous current observation index := by
  obtain ⟨key, isKey, single⟩ := Option.bind_eq_some_iff.mp found
  exact ⟨key, by simp [stableKeys, isKey], single⟩

theorem identifies_cases {previous : List Device} {current : List Observation}
    {observation : Observation} {index : Nat}
    (identified : Identifies previous current observation index) :
    (onvifKey observation.toSighting).bind (stableIndex previous current) = some index ∨
      (macKey observation.toSighting).bind (stableIndex previous current) = some index := by
  obtain ⟨key, isKey, single⟩ := identified
  simp only [stableKeys, List.mem_append, Option.mem_toList] at isKey
  rcases isKey with isMac | isOnvif
  · exact .inr (by simp [isMac, single])
  · exact .inl (by simp [isOnvif, single])

/-- What a match says: the index was free, and a key or, for a keyless observation, the
address led to it. -/
theorem previousIndex_some {previous : List Device} {current : List Observation}
    {taken : List Nat} {observation : Observation} {index : Nat}
    (found : previousIndex previous current taken observation = some index) :
    index ∉ taken ∧ (Identifies previous current observation index ∨
      (stableKeys observation.toSighting = [] ∧
        ipIndex previous observation.ip = some index)) := by
  simp only [previousIndex, Option.orElse_eq_some, Option.filter_eq_some_iff,
    Option.ite_none_right_eq_some, decide_eq_true_eq] at found
  rcases found with ⟨byOnvif, free⟩ | ⟨_, ⟨byMac, free⟩ | ⟨_, keyless, byAddress, free⟩⟩
  · exact ⟨free, .inl (identifies_of_onvifKey byOnvif)⟩
  · exact ⟨free, .inl (identifies_of_macKey byMac)⟩
  · exact ⟨free, .inr ⟨keyless, byAddress⟩⟩

/-- An observation that identifies a free device is matched to one it identifies. -/
theorem previousIndex_of_identifies {previous : List Device} {current : List Observation}
    {taken : List Nat} {observation : Observation} {index : Nat}
    (identified : Identifies previous current observation index) (free : index ∉ taken) :
    ∃ chosen, previousIndex previous current taken observation = some chosen ∧
      Identifies previous current observation chosen := by
  cases found : previousIndex previous current taken observation with
  | none =>
      simp only [previousIndex, Option.orElse_eq_none, Option.filter_eq_none_iff,
        decide_eq_true_eq, not_not] at found
      rcases identifies_cases identified with byOnvif | byMac
      · exact absurd (found.1 index byOnvif) free
      · exact absurd (found.2.1 index byMac) free
  | some chosen =>
      refine ⟨chosen, rfl, ?_⟩
      obtain ⟨_, byKey | ⟨keyless, _⟩⟩ := previousIndex_some found
      · exact byKey
      · obtain ⟨key, isKey, _⟩ := identified
        simp [keyless] at isKey

theorem previousIndex_keyless {previous : List Device} {current : List Observation}
    {taken : List Nat} {observation : Observation}
    (keyless : stableKeys observation.toSighting = []) :
    previousIndex previous current taken observation =
      (ipIndex previous observation.ip).filter fun candidate => candidate ∉ taken := by
  have noKeys : macKey observation.toSighting = none ∧ onvifKey observation.toSighting = none := by
    simpa [stableKeys] using keyless
  simp [previousIndex, keyless, noKeys]

theorem previousIndex_lt {previous : List Device} {current : List Observation}
    {taken : List Nat} {observation : Observation} {index : Nat}
    (found : previousIndex previous current taken observation = some index) :
    index < previous.length := by
  obtain ⟨_, ⟨key, _, single⟩ | ⟨_, byAddress⟩⟩ := previousIndex_some found
  · have owner : index ∈ previousStableIndices previous key := by
      rw [((stableIndex_eq_some previous current key index).mp single).1]
      simp
    obtain ⟨_, get, _⟩ := (mem_previousStableIndices previous key index).mp owner
    exact (List.getElem?_eq_some_iff.mp get).1
  · obtain ⟨_, _, get, _⟩ := ipIndex_eq_some byAddress
    exact (List.getElem?_eq_some_iff.mp get).1

/-- The matching is a first-come choice of the previous devices. -/
theorem previousIndex_firstCome (previous : List Device) (current : List Observation) :
    FirstCome (previousIndex previous current) := by
  constructor
  · intro taken observation index found
    exact (previousIndex_some found).1
  · intro taken observation index wanted free
    simp only [previousIndex, Option.orElse_eq_some, Option.filter_eq_some_iff,
      Option.filter_eq_none_iff, Option.ite_none_right_eq_some, decide_eq_true_eq,
      List.not_mem_nil, not_false_eq_true, and_true, not_true_eq_false, imp_false] at wanted ⊢
    rcases wanted with byOnvif | ⟨noOnvif, byMac | ⟨noMac, keyless, byAddress⟩⟩
    · exact .inl ⟨byOnvif, free⟩
    · exact .inr ⟨fun other named => (noOnvif other named).elim, .inl ⟨byMac, free⟩⟩
    · exact .inr ⟨fun other named => (noOnvif other named).elim,
        .inr ⟨fun other named => (noMac other named).elim, keyless, byAddress, free⟩⟩
  · intro taken observation nothing
    simp only [previousIndex, Option.orElse_eq_none, Option.filter_eq_none_iff,
      ite_eq_right_iff, decide_eq_true_eq, List.not_mem_nil, not_false_eq_true,
      not_true_eq_false, imp_false] at nothing ⊢
    obtain ⟨noOnvif, noMac, noAddress⟩ := nothing
    exact ⟨fun other named => (noOnvif other named).elim,
      fun other named => (noMac other named).elim,
      fun keyless other named => (noAddress keyless other named).elim⟩

theorem matchFrom_eq_greedy (previous : List Device) (current observations : List Observation)
    (taken : List Nat) : matchFrom previous current taken observations =
      greedy (previousIndex previous current) taken observations := by
  induction observations generalizing taken with
  | nil => rfl
  | cons observation rest ih => simp [matchFrom, greedy, ih]

theorem matchFrom_length (previous : List Device) (current observations : List Observation)
    (taken : List Nat) :
    (matchFrom previous current taken observations).length = observations.length := by
  rw [matchFrom_eq_greedy, greedy_length]

theorem matchFrom_lt {previous : List Device} {current observations : List Observation}
    {taken : List Nat} {index : Nat}
    (member : some index ∈ matchFrom previous current taken observations) :
    index < previous.length := by
  induction observations generalizing taken with
  | nil => simp [matchFrom] at member
  | cons observation rest ih =>
      simp only [matchFrom, List.mem_cons] at member
      rcases member with found | later
      · exact previousIndex_lt found.symm
      · exact ih later

/-- No index is matched twice, and none that was taken before. -/
theorem matchFrom_distinct (previous : List Device) (current observations : List Observation)
    (taken : List Nat) :
    ((matchFrom previous current taken observations).filterMap id).Nodup ∧
      ∀ index, some index ∈ matchFrom previous current taken observations → index ∉ taken := by
  rw [matchFrom_eq_greedy]
  exact (previousIndex_firstCome previous current).distinct taken observations

/-! The succession of the previous devices. -/

omit [TextCase] in
/-- A successor keeps the candidate and the first sighting. -/
structure Succeeds (old new : Device) : Prop where
  candidate : old.candidateUuid ≠ "" → new.candidateUuid = old.candidateUuid
  firstSeen : ∀ time, old.firstSeen = some time → new.firstSeen = some time

omit [TextCase] in
theorem succeeds_refl (device : Device) : Succeeds device device :=
  ⟨fun _ => rfl, fun _ same => same⟩

omit [TextCase] in
theorem succeeds_mergeOnline (old : Device) (current : Observation) (seenAt fresh : String) :
    Succeeds old (mergeOnline (some old) current seenAt fresh) := by
  constructor
  · intro named
    simp [mergeOnline, Option.filter, named]
  · intro time seen
    simp [mergeOnline, seen]

omit [TextCase] in
theorem succeeds_markUnobserved (reachable : List String) (old : Device)
    (seenAt fresh : String) : Succeeds old (markUnobserved reachable old seenAt fresh) := by
  unfold markUnobserved
  split
  · exact ⟨fun named => by simp [markNetworkOnly, keptUuid, named],
      fun time seen => by simp [markNetworkOnly, seen]⟩
  · exact ⟨fun named => by simp [markOffline, keptUuid, named],
      fun time seen => by simp [markOffline, seen]⟩

theorem succeeds_annotateConflict {old new : Device} (devices : List Device)
    (succeeds : Succeeds old new) : Succeeds old (annotateConflict devices new) :=
  ⟨succeeds.candidate, succeeds.firstSeen⟩

/-- The positions of the observations that matched no previous device. -/
def newPositions (previous : List Device) (current : List Observation) : List Nat :=
  ((current.zip (matchObservations previous current)).zipIdx.filter
    fun ((_, index), _) => index = none).map Prod.snd

theorem mem_newPositions (previous : List Device) (current : List Observation) (position : Nat) :
    position ∈ newPositions previous current ↔
      (matchObservations previous current)[position]? = some none := by
  have sameLength : (matchObservations previous current).length = current.length :=
    matchFrom_length previous current current []
  simp only [newPositions, List.mem_map, List.mem_filter, List.mem_zipIdx_iff_getElem?,
    decide_eq_true_eq, Prod.exists, List.getElem?_zip_eq_some]
  constructor
  · rintro ⟨observation, index, found, ⟨⟨_, get⟩, rfl⟩, rfl⟩
    exact get
  · intro get
    have bound := (List.getElem?_eq_some_iff.mp get).1
    exact ⟨current[position], none, position,
      ⟨⟨List.getElem?_eq_getElem (by omega), get⟩, rfl⟩, rfl⟩

theorem newPositions_nodup (previous : List Device) (current : List Observation) :
    (newPositions previous current).Nodup := by
  apply List.Nodup.sublist (List.filter_sublist.map Prod.snd)
  rw [List.zipIdx_map_snd]
  exact List.nodup_range'

/-- The entries before annotation and sorting. -/
theorem reconciledEntries_succession (previous : List Device) (current : List Observation)
    (seenAt : String) (reachable : List String) (uuids : Nat → String) :
    ∃ created, Succession Succeeds previous
        (reconciledEntries previous current seenAt reachable uuids) created ∧
      candidates created = (newPositions previous current).map uuids := by
  refine ⟨_, Succession.of_matching
    (fun old observation position => mergeOnline old observation seenAt (uuids position))
    (fun old index => markUnobserved reachable old seenAt (uuids (current.length + index)))
    (fun old observation position => succeeds_mergeOnline old observation _ _)
    (fun old index => succeeds_markUnobserved reachable old _ _)
    (fun index member => matchFrom_lt member)
    (matchFrom_distinct previous current current []).1
    (matchFrom_length previous current current []).symm, ?_⟩
  simp [candidates, newPositions, mergeOnline, Function.comp_def]

theorem Succession.annotated {older newer extra : List Device}
    (succession : Succession Succeeds older newer extra) (devices : List Device) :
    Succession Succeeds older (displayOrder (newer.map (annotateConflict devices)))
      (extra.map (annotateConflict devices)) :=
  (succession.map (annotateConflict devices)
    fun _ _ succeeds => succeeds_annotateConflict devices succeeds).perm_newer
      (List.perm_insertionSort _ _)

omit [TextCase] in
theorem candidates_annotate [TextCase] (devices scope : List Device) :
    candidates (devices.map (annotateConflict scope)) = candidates devices := by
  simp [candidates, annotateConflict, Function.comp_def]

/-- A full reconciliation keeps every previous device and adds one device for each
observation that matched none. -/
theorem reconcileInventory_succession (previous : List Device) (current : List Observation)
    (seenAt : String) (reachable : List String) (uuids : Nat → String) :
    ∃ created, Succession Succeeds previous
        (reconcileInventory previous current seenAt reachable uuids) created ∧
      candidates created = (newPositions previous current).map uuids := by
  obtain ⟨created, succession, labels⟩ :=
    reconciledEntries_succession previous current seenAt reachable uuids
  refine ⟨_, succession.annotated _, ?_⟩
  rw [candidates_annotate, labels]

/-- The same for a scan of selected subnets, whose new devices are those of its targeted part. -/
theorem reconcileScannedSubnets_succession {previous : List Device}
    {current : List Observation} {seenAt : String} {subnets reachable : List String}
    {uuids : Nat → String} {networks : List Ipv4Network} {result : List Device}
    (parsed : subnets.mapM ipv4Network = some networks)
    (done : reconcileScannedSubnets previous current seenAt subnets reachable uuids =
      some result) :
    ∃ created, Succession Succeeds previous result created ∧
      candidates created =
        (newPositions (previous.filter (inEvidence networks current)) current).map uuids := by
  obtain ⟨created, succession, labels⟩ := reconcileInventory_succession
    (previous.filter (inEvidence networks current)) current seenAt reachable uuids
  have untouched := Succession.refl succeeds_refl
    (previous.filter fun device => !inEvidence networks current device)
  have split : previous.Perm (previous.filter (fun device => !inEvidence networks current device) ++
      previous.filter (inEvidence networks current)) :=
    (List.filter_append_perm (fun device => inEvidence networks current device) previous).symm.trans
      List.perm_append_comm
  have whole := ((untouched.append succession).perm_older split).annotated
    (previous.filter (fun device => !inEvidence networks current device) ++
      reconcileInventory (previous.filter (inEvidence networks current)) current seenAt
        reachable uuids)
  simp only [reconcileScannedSubnets, parsed, Option.bind_eq_bind, Option.bind_some,
    Option.pure_def, Option.some.injEq] at done
  subst result
  refine ⟨_, whole, ?_⟩
  rw [List.nil_append, candidates_annotate, labels]

end

/-! Candidates across a succession. -/

structure DistinctCandidates (devices : List Device) : Prop where
  named : ∀ device ∈ devices, device.candidateUuid ≠ ""
  distinct : (candidates devices).Nodup

/-- The values of `uuid.uuid4()`: none repeats and no device has one of them. -/
structure FreshUuids (devices : List Device) (uuids : Nat → String) : Prop where
  named : ∀ position, uuids position ≠ ""
  unused : ∀ position, uuids position ∉ candidates devices
  distinct : Function.Injective uuids

theorem uuidSupply_fresh {devices : List Device} {letter : Char}
    (unused : ∀ uuid ∈ candidates devices, uuid.toList.head? ≠ some letter) :
    FreshUuids devices (uuidSupply letter) := by
  constructor
  · intro position
    simp [uuidSupply, List.replicate_succ]
  · intro position member
    exact unused _ member (uuidSupply_head letter position)
  · exact uuidSupply_injective letter

theorem DistinctCandidates.filter {devices : List Device}
    (distinct : DistinctCandidates devices) (keep : Device → Bool) :
    DistinctCandidates (devices.filter keep) :=
  ⟨fun device member => distinct.named device (List.mem_filter.mp member).1,
    distinct.distinct.sublist (List.filter_sublist.map _)⟩

theorem FreshUuids.filter {devices : List Device} {uuids : Nat → String}
    (fresh : FreshUuids devices uuids) (keep : Device → Bool) :
    FreshUuids (devices.filter keep) uuids :=
  ⟨fresh.named, fun position member =>
    fresh.unused position ((List.filter_sublist.map _).subset member), fresh.distinct⟩

theorem Succession.candidates_perm {previous result created : List Device}
    (succession : Succession Succeeds previous result created)
    (named : ∀ device ∈ previous, device.candidateUuid ≠ "") :
    (candidates result).Perm (candidates previous ++ candidates created) :=
  succession.labels (·.candidateUuid) (·.candidateUuid)
    fun old member _ succeeds => succeeds.candidate (named old member)

theorem Succession.distinctCandidates {previous result created : List Device}
    {uuids : Nat → String} {positions : List Nat}
    (succession : Succession Succeeds previous result created)
    (labels : candidates created = positions.map uuids) (single : positions.Nodup)
    (distinct : DistinctCandidates previous) (fresh : FreshUuids previous uuids) :
    DistinctCandidates result := by
  have order := succession.candidates_perm distinct.named
  rw [labels] at order
  constructor
  · intro device member
    have listed : device.candidateUuid ∈ candidates previous ++ positions.map uuids :=
      order.mem_iff.mp (List.mem_map_of_mem member)
    rcases List.mem_append.mp listed with isOld | isNew
    · obtain ⟨old, oldMember, same⟩ := List.mem_map.mp isOld
      exact same ▸ distinct.named old oldMember
    · obtain ⟨position, _, same⟩ := List.mem_map.mp isNew
      exact same ▸ fresh.named position
  · refine order.nodup_iff.mpr (List.Nodup.append distinct.distinct
      (single.map fresh.distinct) ?_)
    rintro uuid isOld isNew
    obtain ⟨position, _, rfl⟩ := List.mem_map.mp isNew
    exact fresh.unused position isOld

end CamAdmiral
