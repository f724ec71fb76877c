import CamAdmiral.PartialRecords

/-!
When merging partial records by first fit depends on the order. The condition is exact: where a
record can be stranded, one order leaves it beside a full record with its key, and the order
that starts with the full record does not.
-/

namespace CamAdmiral

section
variable {π ν : Type*} [DecidableEq π] [DecidableEq ν]

/-- A record with one key that some order leaves beside the full records with that key: it is
blocked, or every full record can go to a record that has only its other key. -/
structure Stranded (items : List (PartialRecord π ν)) (place : π) (side : Side) (value : ν) :
    Prop where
  single : ∃ item ∈ items, SingleAt place side value item
  full : ∃ item ∈ items, ∃ other, FullAt place side value other item
  left : (∃ item ∈ items, BlockedAt place side value item) ∨
    ∀ other, (∃ item ∈ items, FullAt place side value other item) →
      ∃ item ∈ items, SingleAt place side.other other item

/-- The kept keys do not depend on the order of the items, and no two kept records fit. -/
structure OrderFree (items : List (PartialRecord π ν)) : Prop where
  unordered : ∀ reordered, reordered.Perm items → ∀ place key,
    (∃ record ∈ mergeRecords reordered, record.place = place ∧ record.key = key) ↔
      ∃ record ∈ mergeRecords items, record.place = place ∧ record.key = key
  apart : (mergeRecords items).Pairwise fun first second => ¬ Fits first second

variable {items : List (PartialRecord π ν)}

omit [DecidableEq π] [DecidableEq ν] in
theorem unblocked_of_full (unstranded : ∀ place side value, ¬ Stranded items place side value)
    {item : PartialRecord π ν} (member : item ∈ items) (full : IsFull item) :
    ∀ side value, item.key side = some value → ∀ other ∈ items,
      ¬ BlockedAt item.place side value other := by
  intro side value isValue other listed blocked
  obtain ⟨beside, isBeside⟩ := full side.other
  exact unstranded item.place side value ⟨⟨other, listed, blocked.toSingleAt⟩,
    ⟨item, member, beside, rfl, isValue, isBeside⟩, .inl ⟨other, listed, blocked⟩⟩

theorem no_full_beside_single
    (unstranded : ∀ place side value, ¬ Stranded items place side value) {place : π} {side : Side}
    {value : ν} {record : PartialRecord π ν} (kept : record ∈ mergeRecords items)
    (single : SingleAt place side value record) :
    ∀ item ∈ items, ∀ other, ¬ FullAt place side value other item := by
  intro item listed other full
  obtain ⟨origin, isOrigin, same⟩ := mergeRecords_origin kept
  have notLeft : ¬ ((∃ item ∈ items, BlockedAt place side value item) ∨
      ∀ other, (∃ item ∈ items, FullAt place side value other item) →
        ∃ item ∈ items, SingleAt place side.other other item) := fun left =>
    unstranded place side value ⟨⟨origin, isOrigin, single.congr same⟩,
      ⟨item, listed, other, full⟩, left⟩
  push Not at notLeft
  obtain ⟨unblocked, free, came, unshared⟩ := notLeft
  exact mergeRecords_settles unblocked unshared came record kept single

/-- The same items in another order keep the same keys. -/
theorem mergeRecords_same_keys
    (unstranded : ∀ place side value, ¬ Stranded items place side value)
    {others : List (PartialRecord π ν)} (same : ∀ item, item ∈ items ↔ item ∈ others)
    {record : PartialRecord π ν} (kept : record ∈ mergeRecords items) :
    ∃ other ∈ mergeRecords others, SameKeys other record := by
  obtain ⟨item, member, place, keys⟩ := mergeRecords_origin kept
  have listed := (same item).mp member
  have found {other : PartialRecord π ν} (alike : SameKeys other item) : SameKeys other record :=
    ⟨alike.1.trans place.symm, alike.2.trans keys.symm⟩
  by_cases full : IsFull item
  · obtain ⟨other, isKept, alike⟩ := mergeRecords_full listed full
      fun side value isValue other listed =>
        unblocked_of_full unstranded member full side value isValue other ((same other).mpr listed)
    exact ⟨other, isKept, found alike⟩
  · by_cases keyless : ∀ side, item.key side = none
    · obtain ⟨other, isKept, alike⟩ := mergeRecords_keyless listed keyless
      exact ⟨other, isKept, found alike⟩
    · push Not at keyless
      obtain ⟨side, someKey⟩ := keyless
      obtain ⟨value, isValue⟩ := Option.ne_none_iff_exists'.mp someKey
      have without := other_eq_none isValue full
      have single : SingleAt item.place side value item := ⟨rfl, isValue, without⟩
      have noFull := no_full_beside_single unstranded kept
        (single.congr ⟨place.symm, keys.symm⟩)
      obtain ⟨other, isKept, samePlace, sameKey⟩ := mergeRecords_single listed single
      refine ⟨other, isKept, found ⟨samePlace, funext fun any => ?_⟩⟩
      rcases Side.eq_or_other side any with rfl | rfl
      · rw [sameKey, isValue]
      · rw [without]
        cases held : other.key side.other with
        | none => rfl
        | some beside =>
            obtain ⟨origin, isOrigin, alike⟩ := mergeRecords_origin isKept
            refine absurd ⟨?_, ?_, ?_⟩ (noFull origin ((same origin).mpr isOrigin) beside)
            · rw [← alike.1, samePlace]
            · rw [← alike.2, sameKey]
            · rw [← alike.2, held]

theorem orderFree_of_unstranded
    (unstranded : ∀ place side value, ¬ Stranded items place side value) : OrderFree items := by
  constructor
  · intro reordered permuted place key
    have members (item : PartialRecord π ν) : item ∈ reordered ↔ item ∈ items :=
      permuted.mem_iff
    have alike (place : π) (side : Side) (value : ν) : ¬ Stranded reordered place side value := by
      rintro ⟨single, full, left⟩
      simp only [members] at single full left
      exact unstranded place side value ⟨single, full, left⟩
    constructor
    · rintro ⟨record, kept, rfl, rfl⟩
      exact mergeRecords_same_keys alike members kept
    · rintro ⟨record, kept, rfl, rfl⟩
      exact mergeRecords_same_keys unstranded (fun item => (members item).symm) kept
  · have apart := mergeRecords_pairwise items
    rw [List.pairwise_iff_forall_sublist] at apart ⊢
    intro first second inOrder fits
    have listed : first ∈ mergeRecords items ∧ second ∈ mergeRecords items :=
      ⟨inOrder.subset (by simp), inOrder.subset (by simp)⟩
    obtain ⟨full, unfull⟩ := apart inOrder fits
    obtain ⟨side, value, isFirst, isSecond⟩ := fits.shares
    obtain ⟨other, isOther⟩ := full side.other
    have single : SingleAt second.place side value second :=
      ⟨rfl, isSecond, other_eq_none isSecond unfull⟩
    obtain ⟨origin, isOrigin, same⟩ := mergeRecords_origin listed.1
    refine no_full_beside_single unstranded listed.2 single origin isOrigin other ⟨?_, ?_, ?_⟩
    · rw [← same.1, fits.place]
    · rw [← same.2, isFirst]
    · rw [← same.2, isOther]

/-! The orders that leave a record behind. -/

omit [DecidableEq π] [DecidableEq ν] in
theorem BlockedAt.absorb {place : π} {side : Side} {value : ν} {record : PartialRecord π ν}
    (blocked : BlockedAt place side value record) (item : PartialRecord π ν) :
    BlockedAt place side value (absorbRecord record item) := by
  refine ⟨⟨blocked.place, absorbRecord_key item blocked.key, ?_⟩, ?_⟩
  · simp only [absorbRecord, blocked.closed, if_true, blocked.other]
  · simp only [absorbRecord, blocked.closed, Bool.true_or]

/-- Where every full record of the key can go to an earlier one, a single one stays single. -/
structure LeftBehind (items kept : List (PartialRecord π ν)) (place : π) (side : Side)
    (value : ν) : Prop where
  split : ∃ before single after, kept = before ++ single :: after ∧
    SingleAt place side value single ∧
    ∀ other, (∃ item ∈ items, FullAt place side value other item) →
      ∃ record ∈ before, record.place = place ∧ record.key side.other = some other ∧
        (record.key side = none ∨ record.key side = some value)

theorem LeftBehind.merge {kept : List (PartialRecord π ν)} {place : π} {side : Side} {value : ν}
    (left : LeftBehind items kept place side value) {item : PartialRecord π ν}
    (member : item ∈ items) (isPlace : item.place = place) (isKey : item.key side = some value) :
    LeftBehind items (mergeRecord kept item) place side value := by
  obtain ⟨before, single, after, rfl, isSingle, takers⟩ := left.split
  constructor
  by_cases taken : ∃ record ∈ before, fitsRecord record item = true
  · refine ⟨mergeRecord before item, single, after, ?_, isSingle, fun other came => ?_⟩
    · exact firstFit_append taken (single :: after)
    · obtain ⟨record, listed, atPlace, isOther, isSide⟩ := takers other came
      obtain ⟨later, isLater, same⟩ := mergeRecord_keeps before item listed
      refine ⟨later, isLater, ?_⟩
      rcases same with rfl | ⟨_, rfl⟩
      · exact ⟨atPlace, isOther, isSide⟩
      · refine ⟨atPlace, absorbRecord_key item isOther, ?_⟩
        rcases isSide with none | some
        · simp only [absorbRecord]
          split
          · exact .inl none
          · exact .inr isKey
        · exact .inr (absorbRecord_key item some)
  · have unfit : ∀ record ∈ before, fitsRecord record item = false := by
      intro record listed
      exact eq_false_of_ne_true fun fit => taken ⟨record, listed, fit⟩
    have without : item.key side.other = none := by
      cases held : item.key side.other with
      | none => rfl
      | some other =>
          obtain ⟨record, listed, atPlace, isOther, isSide⟩ :=
            takers other ⟨item, member, isPlace, isKey, held⟩
          have fits : Fits record item := by
            refine ⟨atPlace.trans isPlace.symm, fun any first second isFirst isSecond => ?_,
              side.other, other, isOther, held⟩
            rcases Side.eq_or_other side any with rfl | rfl
            · rcases isSide with none | some
              · rw [none] at isFirst
                cases isFirst
              · rw [some] at isFirst
                rw [isKey] at isSecond
                exact (Option.some.inj isFirst).symm.trans (Option.some.inj isSecond)
            · rw [isOther] at isFirst
              rw [held] at isSecond
              exact (Option.some.inj isFirst).symm.trans (Option.some.inj isSecond)
          exact absurd fits (not_fits (unfit record listed))
    have fit : fitsRecord single item = true := fitsRecord_iff.mpr (Fits.of_key
      (isSingle.place.trans isPlace.symm) isSingle.key isKey (.inl isSingle.other))
    refine ⟨before, absorbRecord single item, after, ?_, ⟨isSingle.place,
      absorbRecord_key item isSingle.key, ?_⟩, takers⟩
    · rw [mergeRecord, firstFit_append_of_unfit unfit, firstFit, if_pos fit]
    · simp only [absorbRecord, isSingle.other, without, ite_self]

/-- A single record stays single while nothing with its key comes. -/
theorem mergeRecord_keeps_single {kept : List (PartialRecord π ν)} {place : π} {side : Side}
    {value : ν} {item : PartialRecord π ν}
    (unrelated : ¬ (item.place = place ∧ item.key side = some value))
    (single : ∃ record ∈ kept, SingleAt place side value record) :
    ∃ record ∈ mergeRecord kept item, SingleAt place side value record := by
  obtain ⟨record, member, isSingle⟩ := single
  obtain ⟨later, listed, same⟩ := mergeRecord_keeps kept item member
  refine ⟨later, listed, ?_⟩
  rcases same with rfl | ⟨fits, rfl⟩
  · exact isSingle
  · obtain ⟨shared, common, isRecord, isItem⟩ := fits.shares
    apply absurd _ unrelated
    rcases Side.eq_or_other side shared with rfl | rfl
    · rw [isSingle.key] at isRecord
      exact ⟨fits.place.symm.trans isSingle.place, isRecord ▸ isItem⟩
    · rw [isSingle.other] at isRecord
      cases isRecord

theorem foldl_mergeRecord (items later : List (PartialRecord π ν)) :
    mergeRecords (items ++ later) = later.foldl mergeRecord (mergeRecords items) := by
  rw [mergeRecords, firstFits, List.foldl_append]
  rfl

/-- First what lacks the key, then a single record, then what has the key, then the rest. -/
theorem leftBehind_order {place : π} {side : Side} {value : ν} {single : PartialRecord π ν}
    (member : single ∈ items) (isSingle : SingleAt place side value single)
    (takers : ∀ other, (∃ item ∈ items, FullAt place side value other item) →
      ∃ item ∈ items, SingleAt place side.other other item) :
    ∃ reordered, reordered.Perm items ∧
      ∃ record ∈ mergeRecords reordered, SingleAt place side value record := by
  let lacks : PartialRecord π ν → Bool := fun item =>
    decide (item.place = place ∧ item.key side = none)
  let has : PartialRecord π ν → Bool := fun item =>
    decide (item.place = place ∧ item.key side = some value)
  have isHas : has single = true := decide_eq_true ⟨isSingle.place, isSingle.key⟩
  have notLacks : (!lacks single) = true := by
    simp [lacks, isSingle.key]
  have inMiddle : single ∈ (items.filter fun item => !lacks item).filter has :=
    List.mem_filter.mpr ⟨List.mem_filter.mpr ⟨member, notLacks⟩, isHas⟩
  obtain ⟨before, after, isMiddle⟩ := List.append_of_mem inMiddle
  have permuted : ((items.filter lacks ++ ([single] ++ (before ++ after))) ++
      (items.filter fun item => !lacks item).filter fun item => !has item).Perm items := by
    have middle : ([single] ++ (before ++ after)).Perm
        ((items.filter fun item => !lacks item).filter has) := by
      rw [isMiddle, List.singleton_append]
      exact List.perm_middle.symm
    rw [List.append_assoc]
    refine ((middle.append_right _).append_left _).trans ?_
    exact ((List.filter_append_perm has _).append_left _).trans
      (List.filter_append_perm lacks items)
  refine ⟨_, permuted, ?_⟩
  have first {record : PartialRecord π ν} (kept : record ∈ mergeRecords (items.filter lacks)) :
      record.place = place ∧ record.key side = none := by
    obtain ⟨item, listed, same⟩ := mergeRecords_origin kept
    have isLacks := of_decide_eq_true (List.mem_filter.mp listed).2
    exact ⟨same.1.trans isLacks.1, by rw [same.2, isLacks.2]⟩
  have started : LeftBehind items (mergeRecord (mergeRecords (items.filter lacks)) single) place
      side value := by
    constructor
    refine ⟨mergeRecords (items.filter lacks), single, [], ?_, isSingle, fun other came => ?_⟩
    · have unfit : ∀ record ∈ mergeRecords (items.filter lacks),
          fitsRecord record single = false := by
        intro record kept
        apply eq_false_of_ne_true
        intro fit
        have isKey := (fitsRecord_iff.mp fit).other_of_single isSingle
        rw [(first kept).2] at isKey
        cases isKey
      have appended : firstFit fitsRecord absorbRecord _ single = _ :=
        firstFit_append_of_unfit unfit []
      rwa [List.append_nil] at appended
    · obtain ⟨item, listed, isItem⟩ := takers other came
      have isLacks : item ∈ items.filter lacks := by
        refine List.mem_filter.mpr ⟨listed, decide_eq_true ⟨isItem.place, ?_⟩⟩
        have without := isItem.other
        rwa [Side.other_other] at without
      obtain ⟨record, kept, _, isKey⟩ := mergeRecords_single isLacks isItem
      exact ⟨record, kept, (first kept).1, isKey, .inl (first kept).2⟩
  have behind : LeftBehind items (mergeRecords
      (items.filter lacks ++ ([single] ++ (before ++ after)))) place side value := by
    rw [← List.append_assoc, foldl_mergeRecord, mergeRecords_concat]
    refine List.foldlRecOn (motive := fun kept => LeftBehind items kept place side value) _ _
      started ?_
    intro kept left item listed
    have inMiddle : item ∈ (items.filter fun item => !lacks item).filter has := by
      rw [isMiddle]
      rcases List.mem_append.mp listed with early | late
      · exact List.mem_append_left _ early
      · exact List.mem_append_right _ (List.mem_cons_of_mem _ late)
    obtain ⟨inItems, isHas⟩ := List.mem_filter.mp inMiddle
    obtain ⟨isPlace, isKey⟩ := of_decide_eq_true isHas
    exact left.merge (List.mem_filter.mp inItems).1 isPlace isKey
  rw [foldl_mergeRecord]
  refine List.foldlRecOn (motive := fun kept => ∃ record ∈ kept,
    SingleAt place side value record) _ _ ?_ ?_
  · obtain ⟨before, single, after, isKept, isSingle, _⟩ := behind.split
    rw [isKept]
    exact ⟨single, by simp, isSingle⟩
  · intro kept still item listed
    refine mergeRecord_keeps_single ?_ still
    have unrelated := (List.mem_filter.mp listed).2
    rw [Bool.not_eq_true'] at unrelated
    exact of_decide_eq_false unrelated

/-- Some order keeps a record single, although a full one has its key. -/
theorem Stranded.left_single {place : π} {side : Side} {value : ν}
    (stranded : Stranded items place side value) :
    ∃ reordered, reordered.Perm items ∧
      ∃ record ∈ mergeRecords reordered, SingleAt place side value record := by
  obtain ⟨⟨single, member, isSingle⟩, _, left⟩ := stranded
  rcases left with ⟨blocked, listed, isBlocked⟩ | takers
  · obtain ⟨before, after, rfl⟩ := List.append_of_mem listed
    refine ⟨blocked :: (before ++ after), List.perm_middle.symm, ?_⟩
    have kept : ∃ record ∈ mergeRecords ([blocked] ++ (before ++ after)),
        BlockedAt place side value record := by
      rw [foldl_mergeRecord]
      refine List.foldlRecOn (motive := fun kept => ∃ record ∈ kept,
        BlockedAt place side value record) _ _
          ⟨blocked, by simp [mergeRecords, firstFits, firstFit], isBlocked⟩ ?_
      rintro kept ⟨record, old, still⟩ item _
      obtain ⟨later, isLater, same⟩ := mergeRecord_keeps kept item old
      refine ⟨later, isLater, ?_⟩
      rcases same with rfl | ⟨_, rfl⟩
      · exact still
      · exact still.absorb item
    obtain ⟨record, listed, still⟩ := kept
    exact ⟨record, listed, still.toSingleAt⟩
  · exact leftBehind_order member isSingle takers

/-- Some order keeps no record single. -/
theorem Stranded.none_single {place : π} {side : Side} {value : ν}
    (stranded : Stranded items place side value) :
    ∃ reordered, reordered.Perm items ∧
      ∀ record ∈ mergeRecords reordered, ¬ SingleAt place side value record := by
  obtain ⟨full, listed, other, isFull⟩ := stranded.full
  obtain ⟨before, after, rfl⟩ := List.append_of_mem listed
  refine ⟨full :: (before ++ after), List.perm_middle.symm, ?_⟩
  have settled : (∃ record ∈ mergeRecords ([full] ++ (before ++ after)), ∃ other,
        FullAt place side value other record) ∧
      ∀ record ∈ mergeRecords ([full] ++ (before ++ after)),
        ¬ SingleAt place side value record := by
    rw [foldl_mergeRecord]
    refine List.foldlRecOn (motive := fun kept => (∃ record ∈ kept, ∃ other,
        FullAt place side value other record) ∧
      ∀ record ∈ kept, ¬ SingleAt place side value record) _ _ ?_ ?_
    · constructor
      · exact ⟨full, by simp [mergeRecords, firstFits, firstFit], other, isFull⟩
      · intro record isFirst single
        have same : record = full := by
          simpa [mergeRecords, firstFits, firstFit] using isFirst
        exact (same ▸ single).not_full isFull.isFull
    · rintro kept ⟨held, none_⟩ item _
      exact mergeRecord_after_full held none_ item
  exact settled.2

theorem orderFree_iff :
    OrderFree items ↔ ∀ place side value, ¬ Stranded items place side value := by
  constructor
  · intro free place side value stranded
    obtain ⟨leaving, leavingPerm, record, kept, single⟩ := stranded.left_single
    obtain ⟨settling, settlingPerm, none_⟩ := stranded.none_single
    have inItems := (free.unordered leaving leavingPerm record.place record.key).mp
      ⟨record, kept, rfl, rfl⟩
    obtain ⟨other, listed, isPlace, isKey⟩ :=
      (free.unordered settling settlingPerm record.place record.key).mpr inItems
    exact none_ other listed (single.congr ⟨isPlace.symm, isKey.symm⟩)
  · exact orderFree_of_unstranded

end

end CamAdmiral
