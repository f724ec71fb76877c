import CamAdmiral.InventoryMatching

/-!
Repeating an unchanged scan. A pass leaves one entry for each observation, and that entry
carries the observation's keys, so in the inventory it leaves two observations never
identify the same device. Whether the next pass creates candidates then depends only on
which observations that inventory still identifies.
-/

namespace CamAdmiral

section
variable [TextCase]

/-! The matching of one position. -/

theorem matchFrom_at (previous : List Device) (current : List Observation)
    {observations : List Observation} {observation : Observation} {position : Nat}
    (taken : List Nat)
    (get : observations[position]? = some observation) :
    ∃ before, (matchFrom previous current taken observations)[position]? =
        some (previousIndex previous current before observation) ∧
      ∀ index, index ∈ before ↔ index ∈ taken ∨ ∃ earlier < position,
        (matchFrom previous current taken observations)[earlier]? = some (some index) := by
  induction observations generalizing taken position with
  | nil => simp at get
  | cons first rest ih =>
      cases position with
      | zero =>
          obtain rfl : first = observation := by simpa using get
          exact ⟨taken, by simp [matchFrom], by simp⟩
      | succ position =>
          obtain ⟨before, found, members⟩ :=
            ih ((previousIndex previous current taken first).toList ++ taken) (by simpa using get)
          refine ⟨before, by simpa [matchFrom] using found, ?_⟩
          intro index
          rw [members, List.mem_append, Option.mem_toList]
          constructor
          · rintro ((here | isTaken) | ⟨earlier, bound, later⟩)
            · exact .inr ⟨0, by omega, by simp [matchFrom, here]⟩
            · exact .inl isTaken
            · exact .inr ⟨earlier + 1, by omega, by simpa [matchFrom] using later⟩
          · rintro (isTaken | ⟨earlier, bound, later⟩)
            · exact .inl (.inr isTaken)
            · cases earlier with
              | zero => exact .inl (.inl (by simpa [matchFrom] using later))
              | succ earlier =>
                  exact .inr ⟨earlier, by omega, by simpa [matchFrom] using later⟩

/-- The indices that were taken when the observation at `position` was matched. -/
theorem matchObservations_at (previous : List Device) {current : List Observation}
    {observation : Observation} {position : Nat}
    (get : current[position]? = some observation) :
    ∃ before, (matchObservations previous current)[position]? =
        some (previousIndex previous current before observation) ∧
      ∀ index, index ∈ before ↔ ∃ earlier < position,
        (matchObservations previous current)[earlier]? = some (some index) := by
  simpa [matchObservations] using matchFrom_at previous current [] get

theorem matchObservations_some {previous : List Device} {current : List Observation}
    {observation : Observation} {position index : Nat}
    (get : current[position]? = some observation)
    (found : (matchObservations previous current)[position]? = some (some index)) :
    Identifies previous current observation index ∨
      (stableKeys observation.toSighting = [] ∧
        ipIndex previous observation.ip = some index) := by
  obtain ⟨before, here, _⟩ := matchObservations_at previous get
  rw [here] at found
  exact (previousIndex_some (Option.some.inj found)).2

theorem matchObservations_injective {previous : List Device} {current : List Observation}
    {first second index : Nat}
    (firstFound : (matchObservations previous current)[first]? = some (some index))
    (secondFound : (matchObservations previous current)[second]? = some (some index)) :
    first = second := by
  have notEarlier (earlier later : Nat) (bound : earlier < later)
      (earlierFound : (matchObservations previous current)[earlier]? = some (some index))
      (laterFound : (matchObservations previous current)[later]? = some (some index)) :
      False := by
    have laterBound := (List.getElem?_eq_some_iff.mp laterFound).1
    rw [matchObservations, matchFrom_length] at laterBound
    obtain ⟨before, here, members⟩ := matchObservations_at previous
      (List.getElem?_eq_getElem laterBound)
    rw [here] at laterFound
    exact (previousIndex_some (Option.some.inj laterFound)).1
      ((members index).mpr ⟨earlier, bound, earlierFound⟩)
  rcases Nat.lt_trichotomy first second with bound | same | bound
  · exact (notEarlier first second bound firstFound secondFound).elim
  · exact same
  · exact (notEarlier second first bound secondFound firstFound).elim

/-! The inventory a pass leaves. -/

/-- Every keyed observation has an entry of its own, named by its candidate, that carries the
keys of the observation. -/
def Separated (inventory : List Device) (current : List Observation) : Prop :=
  ∃ owner : Nat → String,
    (∀ (position : Nat) (observation : Observation), current[position]? = some observation →
      stableKeys observation.toSighting ≠ [] →
      ∃ device ∈ inventory, device.candidateUuid = owner position ∧
        stableKeys observation.toSighting ⊆ stableKeys device.toSighting) ∧
    ∀ first second, first < current.length → second < current.length →
      owner first = owner second → first = second

theorem identified_owner {inventory : List Device} {current : List Observation}
    {observation : Observation} {index : Nat} {device : Device}
    (identified : Identifies inventory current observation index) (member : device ∈ inventory)
    (carries : stableKeys observation.toSighting ⊆ stableKeys device.toSighting) :
    inventory[index]? = some device := by
  obtain ⟨key, isKey, single⟩ := identified
  obtain ⟨position, get⟩ := List.getElem?_of_mem member
  have owns : position ∈ previousStableIndices inventory key :=
    (mem_previousStableIndices inventory key position).mpr ⟨device, get, carries isKey⟩
  rw [((stableIndex_eq_some inventory current key index).mp single).1, List.mem_singleton] at owns
  rwa [← owns]

theorem identified_index {inventory : List Device} {current : List Observation}
    {observation : Observation} {first second : Nat} {device : Device}
    (firstIdentified : Identifies inventory current observation first)
    (secondIdentified : Identifies inventory current observation second)
    (member : device ∈ inventory)
    (carries : stableKeys observation.toSighting ⊆ stableKeys device.toSighting) :
    first = second := by
  have firstOwner := identified_owner firstIdentified member carries
  obtain ⟨key, isKey, single⟩ := secondIdentified
  have owns : first ∈ previousStableIndices inventory key :=
    (mem_previousStableIndices inventory key first).mpr ⟨device, firstOwner, carries isKey⟩
  rwa [((stableIndex_eq_some inventory current key second).mp single).1,
    List.mem_singleton] at owns

theorem keyed_of_identifies {inventory : List Device} {current : List Observation}
    {observation : Observation} {index : Nat}
    (identified : Identifies inventory current observation index) :
    stableKeys observation.toSighting ≠ [] := by
  obtain ⟨key, isKey, _⟩ := identified
  exact List.ne_nil_of_mem isKey

/-- Observations at two positions never identify one device, nor one observation two. -/
theorem Separated.identifies_injective {inventory : List Device} {current : List Observation}
    (separated : Separated inventory current) {first second index : Nat}
    {firstObservation secondObservation : Observation}
    (firstGet : current[first]? = some firstObservation)
    (secondGet : current[second]? = some secondObservation)
    (firstIdentifies : Identifies inventory current firstObservation index)
    (secondIdentifies : Identifies inventory current secondObservation index) :
    first = second := by
  obtain ⟨owner, owned, injective⟩ := separated
  obtain ⟨firstDevice, firstMember, firstName, firstCarries⟩ :=
    owned first firstObservation firstGet (keyed_of_identifies firstIdentifies)
  obtain ⟨secondDevice, secondMember, secondName, secondCarries⟩ :=
    owned second secondObservation secondGet (keyed_of_identifies secondIdentifies)
  have same : firstDevice = secondDevice := Option.some.inj
    ((identified_owner firstIdentifies firstMember firstCarries).symm.trans
      (identified_owner secondIdentifies secondMember secondCarries))
  exact injective first second (List.getElem?_eq_some_iff.mp firstGet).1
    (List.getElem?_eq_some_iff.mp secondGet).1 (by rw [← firstName, ← secondName, same])

theorem Separated.identifies_unique {inventory : List Device} {current : List Observation}
    (separated : Separated inventory current) {observation : Observation}
    (member : observation ∈ current) {first second : Nat}
    (firstIdentified : Identifies inventory current observation first)
    (secondIdentified : Identifies inventory current observation second) : first = second := by
  obtain ⟨owner, owned, _⟩ := separated
  obtain ⟨position, get⟩ := List.getElem?_of_mem member
  obtain ⟨device, isDevice, _, carries⟩ :=
    owned position observation get (keyed_of_identifies firstIdentified)
  exact identified_index firstIdentified secondIdentified isDevice carries

/-- Every observation leads to a device of its own: a keyed one through a key that one device
and one observation carry, a keyless one through its address. -/
structure Settled (inventory : List Device) (current : List Observation) : Prop where
  identified : ∀ observation ∈ current, stableKeys observation.toSighting ≠ [] →
    ∃ index, Identifies inventory current observation index
  addressed : ∀ observation ∈ current, stableKeys observation.toSighting = [] →
    ∃ index, ipIndex inventory observation.ip = some index ∧
      ∀ other ∈ current, ¬ Identifies inventory current other index
  alone : ∀ (first second : Nat) (firstObservation secondObservation : Observation),
    current[first]? = some firstObservation → current[second]? = some secondObservation →
    stableKeys firstObservation.toSighting = [] → stableKeys secondObservation.toSighting = [] →
    firstObservation.ip = secondObservation.ip → first = second

theorem Settled.matched {inventory : List Device} {current : List Observation}
    (settled : Settled inventory current) (separated : Separated inventory current)
    {position : Nat} {observation : Observation}
    (get : current[position]? = some observation) :
    (matchObservations inventory current)[position]? ≠ some none := by
  obtain ⟨before, here, members⟩ := matchObservations_at inventory get
  intro unmatched
  rw [here, Option.some.injEq] at unmatched
  have member := List.mem_of_getElem? get
  -- An earlier observation can only have taken an index that this one does not lead to.
  have earlierObservation {index earlier : Nat} (bound : earlier < position)
      (found : (matchObservations inventory current)[earlier]? = some (some index)) :
      ∃ other, current[earlier]? = some other ∧
        (Identifies inventory current other index ∨
          (stableKeys other.toSighting = [] ∧ ipIndex inventory other.ip = some index)) := by
    have inside := (List.getElem?_eq_some_iff.mp get).1
    have otherGet := List.getElem?_eq_getElem (l := current) (i := earlier) (by omega)
    exact ⟨current[earlier], otherGet, matchObservations_some otherGet found⟩
  by_cases keyless : stableKeys observation.toSighting = []
  · obtain ⟨index, atAddress, unclaimed⟩ := settled.addressed observation member keyless
    have free : index ∉ before := by
      rw [members]
      rintro ⟨earlier, bound, found⟩
      obtain ⟨other, otherGet, identifies | ⟨otherKeyless, otherAddress⟩⟩ :=
        earlierObservation bound found
      · exact unclaimed other (List.mem_of_getElem? otherGet) identifies
      · obtain ⟨_, device, deviceGet, deviceIp⟩ := ipIndex_eq_some atAddress
        obtain ⟨_, otherDevice, otherDeviceGet, otherIp⟩ := ipIndex_eq_some otherAddress
        have sameDevice : device = otherDevice :=
          Option.some.inj (deviceGet.symm.trans otherDeviceGet)
        have samePosition := settled.alone earlier position other observation otherGet get
          otherKeyless keyless (by rw [← otherIp, ← deviceIp, sameDevice])
        omega
    rw [previousIndex_keyless keyless, atAddress] at unmatched
    simp [Option.filter, free] at unmatched
  · obtain ⟨index, identifies⟩ := settled.identified observation member keyless
    have free : index ∉ before := by
      rw [members]
      rintro ⟨earlier, bound, found⟩
      obtain ⟨other, otherGet, otherIdentifies | ⟨otherKeyless, otherAddress⟩⟩ :=
        earlierObservation bound found
      · have samePosition :=
          separated.identifies_injective otherGet get otherIdentifies identifies
        omega
      · obtain ⟨_, atAddress, unclaimed⟩ :=
          settled.addressed other (List.mem_of_getElem? otherGet) otherKeyless
        rw [otherAddress, Option.some.injEq] at atAddress
        exact unclaimed observation member (atAddress ▸ identifies)
    obtain ⟨chosen, found, _⟩ := previousIndex_of_identifies identifies free
    simp [unmatched] at found

theorem settled_of_matched {inventory : List Device} {current : List Observation}
    (separated : Separated inventory current)
    (matched : ∀ (position : Nat) (observation : Observation),
      current[position]? = some observation →
      (matchObservations inventory current)[position]? ≠ some none) :
    Settled inventory current := by
  have reached (position : Nat) (observation : Observation)
      (get : current[position]? = some observation) :
      ∃ index, (matchObservations inventory current)[position]? = some (some index) ∧
        (Identifies inventory current observation index ∨
          (stableKeys observation.toSighting = [] ∧
            ipIndex inventory observation.ip = some index)) := by
    obtain ⟨before, here, _⟩ := matchObservations_at inventory get
    cases found : previousIndex inventory current before observation with
    | none => exact absurd (here.trans (congrArg some found)) (matched position observation get)
    | some index =>
        rw [found] at here
        exact ⟨index, here, matchObservations_some get here⟩
  constructor
  · intro observation member keyed
    obtain ⟨position, get⟩ := List.getElem?_of_mem member
    obtain ⟨index, _, identifies | ⟨keyless, _⟩⟩ := reached position observation get
    · exact ⟨index, identifies⟩
    · exact absurd keyless keyed
  · intro observation member keyless
    obtain ⟨position, get⟩ := List.getElem?_of_mem member
    obtain ⟨index, found, identifies | ⟨_, atAddress⟩⟩ := reached position observation get
    · exact absurd keyless (keyed_of_identifies identifies)
    · refine ⟨index, atAddress, ?_⟩
      intro other otherMember otherIdentifies
      obtain ⟨otherPosition, otherGet⟩ := List.getElem?_of_mem otherMember
      have otherKeyed := keyed_of_identifies otherIdentifies
      obtain ⟨chosen, otherFound, chosenIdentifies | ⟨otherKeyless, _⟩⟩ :=
        reached otherPosition other otherGet
      · have sameIndex :=
          separated.identifies_unique otherMember otherIdentifies chosenIdentifies
        subst sameIndex
        have samePosition := matchObservations_injective found otherFound
        subst samePosition
        obtain rfl : observation = other := Option.some.inj (get.symm.trans otherGet)
        exact otherKeyed keyless
      · exact otherKeyed otherKeyless
  · intro first second firstObservation secondObservation firstGet secondGet firstKeyless
      secondKeyless sameAddress
    obtain ⟨index, found, identifies | ⟨_, atAddress⟩⟩ := reached first firstObservation firstGet
    · exact absurd firstKeyless (keyed_of_identifies identifies)
    obtain ⟨secondIndex, secondFound, identifies | ⟨_, atSecond⟩⟩ :=
      reached second secondObservation secondGet
    · exact absurd secondKeyless (keyed_of_identifies identifies)
    rw [sameAddress, atSecond, Option.some.injEq] at atAddress
    subst atAddress
    exact matchObservations_injective found secondFound

theorem newPositions_empty_iff {inventory : List Device} {current : List Observation}
    (separated : Separated inventory current) :
    newPositions inventory current = [] ↔ Settled inventory current := by
  rw [List.eq_nil_iff_forall_not_mem]
  constructor
  · intro none
    apply settled_of_matched separated
    intro position observation _ unmatched
    exact none position ((mem_newPositions inventory current position).mpr unmatched)
  · intro settled position member
    rw [mem_newPositions] at member
    have bound := (List.getElem?_eq_some_iff.mp member).1
    rw [matchObservations, matchFrom_length] at bound
    exact settled.matched separated (List.getElem?_eq_getElem bound) member

/-! What one pass leaves. -/

theorem stableKeys_mergeOnline (previous : Option Device) (current : Observation)
    (seenAt fresh : String) : stableKeys current.toSighting ⊆
      stableKeys (mergeOnline previous current seenAt fresh).toSighting := by
  intro key member
  simp only [stableKeys, List.mem_append, Option.mem_toList] at member ⊢
  rcases member with isMac | isOnvif
  · exact .inl isMac
  · right
    cases present : current.onvif with
    | none => simp [onvifKey, present, normalized_none] at isOnvif
    | some onvif => simpa [onvifKey, mergeOnline, present] using isOnvif

/-- The entry of one observation: a merge with the device it was matched to, if any. -/
theorem reconciledEntries_matched (previous : List Device) {current : List Observation}
    {observation : Observation} {position : Nat} {found : Option Nat} (seenAt : String)
    (reachable : List String) (uuids : Nat → String)
    (get : current[position]? = some observation)
    (here : (matchObservations previous current)[position]? = some found) :
    (reconciledEntries previous current seenAt reachable uuids)[position]? =
      some (mergeOnline (found.bind (previous[·]?)) observation seenAt (uuids position)) := by
  have inside := (List.getElem?_eq_some_iff.mp get).1
  have pair : (current.zip (matchObservations previous current))[position]? =
      some (observation, found) := List.getElem?_zip_eq_some.mpr ⟨get, here⟩
  simp only [reconciledEntries]
  rw [List.getElem?_append_left, List.getElem?_map, List.getElem?_zipIdx, pair]
  · simp
  · simp only [List.length_map, List.length_zipIdx, List.length_zip, matchObservations,
      matchFrom_length]
    omega

theorem reconciledEntries_at (previous : List Device) {current : List Observation}
    {observation : Observation} {position : Nat} (seenAt : String) (reachable : List String)
    (uuids : Nat → String) (get : current[position]? = some observation) :
    ∃ entry, (reconciledEntries previous current seenAt reachable uuids)[position]? = some entry ∧
      stableKeys observation.toSighting ⊆ stableKeys entry.toSighting := by
  obtain ⟨before, here, _⟩ := matchObservations_at previous get
  exact ⟨_, reconciledEntries_matched previous seenAt reachable uuids get here,
    stableKeys_mergeOnline _ observation seenAt (uuids position)⟩

/-- The entries of a pass separate the observations in every inventory that still lists them
where it matters: with their candidate and their keys. -/
theorem separated_of_entries {previous inventory : List Device} {current : List Observation}
    {uuids : Nat → String} (seenAt : String) (reachable : List String)
    (distinct : DistinctCandidates previous) (fresh : FreshUuids previous uuids)
    (listed : ∀ entry ∈ reconciledEntries previous current seenAt reachable uuids,
      (∃ key ∈ stableKeys entry.toSighting, key ∈ observedKeys current) →
      ∃ device ∈ inventory, device.candidateUuid = entry.candidateUuid ∧
        stableKeys device.toSighting = stableKeys entry.toSighting) :
    Separated inventory current := by
  obtain ⟨created, succession, labels⟩ :=
    reconciledEntries_succession previous current seenAt reachable uuids
  have named := succession.distinctCandidates labels (newPositions_nodup _ _) distinct fresh
  refine ⟨fun position => ((candidates (reconciledEntries previous current seenAt reachable
    uuids))[position]?).getD "", ?_, ?_⟩
  · intro position observation get keyed
    obtain ⟨entry, entryGet, carries⟩ :=
      reconciledEntries_at previous seenAt reachable uuids get
    obtain ⟨key, isKey⟩ := List.exists_mem_of_ne_nil _ keyed
    obtain ⟨device, member, sameName, sameKeys⟩ := listed entry (List.mem_of_getElem? entryGet)
      ⟨key, carries isKey, List.mem_flatMap.mpr ⟨observation, List.mem_of_getElem? get, isKey⟩⟩
    exact ⟨device, member, by simp [candidates, entryGet, sameName], sameKeys ▸ carries⟩
  · intro first second firstBound secondBound sameOwner
    obtain ⟨firstEntry, firstGet, _⟩ := reconciledEntries_at previous seenAt
      reachable uuids (List.getElem?_eq_getElem firstBound)
    obtain ⟨secondEntry, secondGet, _⟩ := reconciledEntries_at previous seenAt
      reachable uuids (List.getElem?_eq_getElem secondBound)
    apply (List.getElem?_inj (by simpa [candidates] using (List.getElem?_eq_some_iff.mp firstGet).1)
      named.distinct).mp
    simpa [candidates, firstGet, secondGet] using sameOwner

theorem mem_reconcileInventory {previous : List Device} {current : List Observation}
    {seenAt : String} {reachable : List String} {uuids : Nat → String} {entry : Device}
    (member : entry ∈ reconciledEntries previous current seenAt reachable uuids) :
    annotateConflict (reconciledEntries previous current seenAt reachable uuids) entry ∈
      reconcileInventory previous current seenAt reachable uuids := by
  rw [reconcileInventory, displayOrder, List.mem_insertionSort]
  exact List.mem_map_of_mem member

theorem reconcileInventory_separated {previous : List Device} {current : List Observation}
    {seenAt : String} {reachable : List String} {uuids : Nat → String}
    (distinct : DistinctCandidates previous) (fresh : FreshUuids previous uuids) :
    Separated (reconcileInventory previous current seenAt reachable uuids) current :=
  separated_of_entries seenAt reachable distinct fresh fun _ member _ =>
    ⟨_, mem_reconcileInventory member, rfl, rfl⟩

theorem reconcileScannedSubnets_separated {previous result : List Device}
    {current : List Observation} {seenAt : String} {subnets reachable : List String}
    {uuids : Nat → String} {networks : List Ipv4Network}
    (distinct : DistinctCandidates previous) (fresh : FreshUuids previous uuids)
    (parsed : subnets.mapM ipv4Network = some networks)
    (done : reconcileScannedSubnets previous current seenAt subnets reachable uuids =
      some result) :
    Separated (result.filter (inEvidence networks current)) current := by
  simp only [reconcileScannedSubnets, parsed, Option.bind_eq_bind, Option.bind_some,
    Option.pure_def, Option.some.injEq] at done
  subst result
  refine separated_of_entries seenAt reachable
    (distinct.filter (inEvidence networks current))
    (fresh.filter (inEvidence networks current)) ?_
  rintro entry member ⟨key, isKey, observed⟩
  have written := List.mem_map_of_mem (f := annotateConflict
      (previous.filter (fun device => !inEvidence networks current device) ++
        reconcileInventory (previous.filter (inEvidence networks current)) current seenAt
          reachable uuids))
    (List.mem_append_right (previous.filter fun device => !inEvidence networks current device)
      (mem_reconcileInventory member))
  have seen : (stableKeys entry.toSighting).any (· ∈ observedKeys current) = true :=
    List.any_eq_true.mpr ⟨key, isKey, by simpa using observed⟩
  refine ⟨_, List.mem_filter.mpr ⟨(List.mem_insertionSort _).mpr written, ?_⟩, rfl, rfl⟩
  simp [inEvidence, annotateConflict, seen]

/-! Repeated passes. -/

/-- What a pass takes from elsewhere: the clock, the addresses that answered and the values
of `uuid.uuid4()`. -/
structure Pass where
  seenAt : String
  reachable : List String
  uuids : Nat → String

/-- `reconcile_inventory`, or `reconcile_scanned_subnets` where subnets are selected. -/
def applyPass (subnets : Option (List String)) (current : List Observation)
    (inventory : List Device) (pass : Pass) : Option (List Device) :=
  match subnets with
  | none => some (reconcileInventory inventory current pass.seenAt pass.reachable pass.uuids)
  | some subnets =>
      reconcileScannedSubnets inventory current pass.seenAt subnets pass.reachable pass.uuids

/-- The devices a pass matches the observations against. -/
def matchedPart (subnets : Option (List String)) (current : List Observation)
    (inventory : List Device) : List Device :=
  match subnets with
  | none => inventory
  | some subnets =>
      inventory.filter (inEvidence ((subnets.mapM ipv4Network).getD []) current)

/-- The inventories that successive passes over the same observations leave. -/
inductive Repeats (subnets : Option (List String)) (current : List Observation) :
    List Device → List (List Device) → Prop
  | stop (inventory : List Device) : Repeats subnets current inventory []
  | again {inventory next : List Device} {later : List (List Device)} (pass : Pass)
      (fresh : FreshUuids inventory pass.uuids)
      (done : applyPass subnets current inventory pass = some next)
      (rest : Repeats subnets current next later) :
      Repeats subnets current inventory (next :: later)

theorem applyPass_succession {subnets : Option (List String)} {current : List Observation}
    {inventory next : List Device} {pass : Pass}
    (done : applyPass subnets current inventory pass = some next) :
    ∃ created, Succession Succeeds inventory next created ∧ candidates created =
      (newPositions (matchedPart subnets current inventory) current).map pass.uuids := by
  cases subnets with
  | none =>
      obtain rfl := Option.some.inj done
      exact reconcileInventory_succession inventory current _ _ _
  | some subnets =>
      cases parsed : subnets.mapM ipv4Network with
      | none => simp [applyPass, reconcileScannedSubnets, parsed] at done
      | some networks =>
          simpa only [matchedPart, parsed, Option.getD_some] using
            reconcileScannedSubnets_succession parsed done

theorem applyPass_distinct {subnets : Option (List String)} {current : List Observation}
    {inventory next : List Device} {pass : Pass} (distinct : DistinctCandidates inventory)
    (fresh : FreshUuids inventory pass.uuids)
    (done : applyPass subnets current inventory pass = some next) :
    DistinctCandidates next := by
  obtain ⟨created, succession, labels⟩ := applyPass_succession done
  exact succession.distinctCandidates labels (newPositions_nodup _ _) distinct fresh

theorem applyPass_separated {subnets : Option (List String)} {current : List Observation}
    {inventory next : List Device} {pass : Pass} (distinct : DistinctCandidates inventory)
    (fresh : FreshUuids inventory pass.uuids)
    (done : applyPass subnets current inventory pass = some next) :
    Separated (matchedPart subnets current next) current := by
  cases subnets with
  | none =>
      obtain rfl := Option.some.inj done
      exact reconcileInventory_separated distinct fresh
  | some subnets =>
      cases parsed : subnets.mapM ipv4Network with
      | none => simp [applyPass, reconcileScannedSubnets, parsed] at done
      | some networks =>
          simpa only [matchedPart, parsed, Option.getD_some] using
            reconcileScannedSubnets_separated distinct fresh parsed done

def SameCandidates (first second : List Device) : Prop :=
  ∀ uuid, uuid ∈ candidates second ↔ uuid ∈ candidates first

/-- A pass creates no candidate exactly if the inventory it starts from is settled. -/
theorem applyPass_stable_iff {subnets : Option (List String)} {current : List Observation}
    {inventory next : List Device} {pass : Pass} (distinct : DistinctCandidates inventory)
    (separated : Separated (matchedPart subnets current inventory) current)
    (fresh : FreshUuids inventory pass.uuids)
    (done : applyPass subnets current inventory pass = some next) :
    SameCandidates inventory next ↔ Settled (matchedPart subnets current inventory) current := by
  obtain ⟨created, succession, labels⟩ := applyPass_succession done
  have order := succession.candidates_perm distinct.named
  rw [labels] at order
  rw [← newPositions_empty_iff separated]
  constructor
  · intro same
    apply List.eq_nil_iff_forall_not_mem.mpr
    intro position member
    have listed : pass.uuids position ∈ candidates next :=
      order.mem_iff.mpr (List.mem_append_right _ (List.mem_map_of_mem member))
    exact fresh.unused position ((same _).mp listed)
  · intro none uuid
    rw [none, List.map_nil, List.append_nil] at order
    exact order.mem_iff

/-- However often an unchanged scan is repeated, its later passes leave the candidates of the
first exactly if every inventory that a later pass starts from is settled. -/
theorem repeated_scan_stable_iff {subnets : Option (List String)} {current : List Observation}
    {previous first : List Device} {later : List (List Device)}
    (distinct : DistinctCandidates previous)
    (repeated : Repeats subnets current previous (first :: later)) :
    (∀ inventory ∈ later, SameCandidates first inventory) ↔
      ∀ inventory ∈ (first :: later).dropLast,
        Settled (matchedPart subnets current inventory) current := by
  induction later generalizing previous first with
  | nil => simp
  | cons second later ih =>
      cases repeated with
      | again pass fresh done rest =>
          cases id rest with
          | again nextPass nextFresh nextDone nextRest =>
              have firstDistinct := applyPass_distinct distinct fresh done
              have step := applyPass_stable_iff firstDistinct
                (applyPass_separated distinct fresh done) nextFresh nextDone
              rw [List.dropLast_cons_cons, List.forall_mem_cons, List.forall_mem_cons, step,
                ← ih firstDistinct rest]
              apply and_congr_right
              intro settled
              have same := step.mpr settled
              exact forall₂_congr fun inventory _ =>
                ⟨fun kept uuid => (kept uuid).trans (same uuid).symm,
                  fun kept uuid => (kept uuid).trans (same uuid)⟩

end

def cameraAt (ip mac : String) : Observation where
  ip := ip
  mac := some mac
  displayName := ip

theorem single_camera_rescan_stable :
    letI := asciiCase
    let camera := cameraAt "192.168.1.40" "aa:bb:cc:dd:ee:ff"
    let first := reconcileInventory [] [camera] "t1" [] (uuidSupply 'a')
    let second := reconcileInventory first [camera] "t2" [] (uuidSupply 'b')
    SameCandidates first second := by
  let _ := asciiCase
  intro camera first second
  have run : Repeats none [camera] [] [first, second] :=
    .again ⟨"t1", [], uuidSupply 'a'⟩ (uuidSupply_fresh (by decide +kernel)) rfl
      (.again ⟨"t2", [], uuidSupply 'b'⟩ (uuidSupply_fresh (by decide +kernel)) rfl (.stop second))
  have settled : Settled first [camera] := by
    refine ⟨?_, ?_, ?_⟩
    · simp only [List.mem_singleton, forall_eq]
      exact fun _ => ⟨0, .mac "aa:bb:cc:dd:ee:ff", by decide +kernel, by decide +kernel⟩
    · simp only [List.mem_singleton, forall_eq]
      exact fun keyless => absurd keyless (by decide +kernel)
    · intro position other _ _ get otherGet _ _ _
      have bound := (List.getElem?_eq_some_iff.mp get).1
      have otherBound := (List.getElem?_eq_some_iff.mp otherGet).1
      simp only [List.length_singleton] at bound otherBound
      omega
  exact (repeated_scan_stable_iff ⟨by simp, by simp [candidates]⟩ run).mpr
    (by simpa [matchedPart] using settled) second (by simp)

/-- A second pass over the same observations names the candidates of the first. -/
def RescanStable (subnets : Option (List String)) : Prop :=
  ∀ (_ : TextCase) (current : List Observation) (previous first second : List Device),
    DistinctCandidates previous → Repeats subnets current previous [first, second] →
    SameCandidates first second

/-- Two cameras that report one MAC are new in every pass: nothing identifies them. -/
theorem duplicate_mac_rescan_grows :
    ¬ RescanStable none ∧ ¬ RescanStable (some ["192.168.1.0/24"]) := by
  let _ := asciiCase
  let current := [cameraAt "192.168.1.40" "aa:bb:cc:dd:ee:ff",
    cameraAt "192.168.1.41" "aa:bb:cc:dd:ee:ff"]
  have grows {subnets : Option (List String)} (first second : List Device)
      (firstDone : applyPass subnets current [] ⟨"t1", [], uuidSupply 'a'⟩ = some first)
      (secondDone : applyPass subnets current first ⟨"t2", [], uuidSupply 'b'⟩ = some second)
      (names : candidates first = ["a", "aa"]) (listed : "b" ∈ candidates second) :
      ¬ RescanStable subnets := by
    intro stable
    have same := stable asciiCase current [] first second ⟨by simp, by simp [candidates]⟩
      (.again _ (uuidSupply_fresh (by decide +kernel)) firstDone
        (.again _ (uuidSupply_fresh (by rw [names]; decide +kernel)) secondDone (.stop second)))
    have earlier := (same "b").mp listed
    rw [names] at earlier
    exact absurd earlier (by decide +kernel)
  constructor
  · exact grows _ _ rfl rfl (by decide +kernel) (by decide +kernel)
  · exact grows _ _ rfl rfl (by decide +kernel) (by decide +kernel)

end CamAdmiral
