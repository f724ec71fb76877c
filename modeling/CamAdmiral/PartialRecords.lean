import CamAdmiral.FirstFit
import Mathlib.Data.List.Perm.Basic

/-!
Records at a place with up to two keys. Two records fit if they are at one place, share a key
and disagree on none; a kept record takes over the key it lacks, unless that side is closed.
Fitting is not transitive, so merging by first fit depends on the order of the items exactly
if some record with one key can be left behind by the records with both.
-/

namespace CamAdmiral

inductive Side
  | first
  | second
  deriving DecidableEq, Repr

def Side.other : Side → Side
  | .first => .second
  | .second => .first

@[simp] theorem Side.other_other (side : Side) : side.other.other = side := by
  cases side <;> rfl

theorem Side.eq_or_other (side any : Side) : any = side ∨ any = side.other := by
  cases side <;> cases any <;> simp [Side.other]

@[ext]
structure PartialRecord (π ν : Type*) where
  place : π
  key : Side → Option ν
  closed : Side → Bool
  closed_of_key : ∀ side value, key side = some value → closed side = true

variable {π ν : Type*}

def SameKeys (kept item : PartialRecord π ν) : Prop :=
  kept.place = item.place ∧ kept.key = item.key

structure Fits (kept item : PartialRecord π ν) : Prop where
  place : kept.place = item.place
  agree : ∀ side first second, kept.key side = some first → item.key side = some second →
    first = second
  shares : ∃ side value, kept.key side = some value ∧ item.key side = some value

/-- The record has the key of one side only. -/
structure SingleAt (place : π) (side : Side) (value : ν) (record : PartialRecord π ν) : Prop where
  place : record.place = place
  key : record.key side = some value
  other : record.key side.other = none

structure FullAt (place : π) (side : Side) (value other : ν) (record : PartialRecord π ν) :
    Prop where
  place : record.place = place
  key : record.key side = some value
  other : record.key side.other = some other

/-- A record with one key that takes over no other. -/
structure BlockedAt (place : π) (side : Side) (value : ν) (record : PartialRecord π ν) : Prop
    extends SingleAt place side value record where
  closed : record.closed side.other = true

section
variable [DecidableEq π] [DecidableEq ν]

def keysAgree : Option ν → Option ν → Bool
  | some first, some second => decide (first = second)
  | _, _ => true

def keysShare : Option ν → Option ν → Bool
  | some first, some second => decide (first = second)
  | _, _ => false

def fitsRecord (kept item : PartialRecord π ν) : Bool :=
  decide (kept.place = item.place) &&
    [Side.first, Side.second].all (fun side => keysAgree (kept.key side) (item.key side)) &&
    [Side.first, Side.second].any fun side => keysShare (kept.key side) (item.key side)

theorem fitsRecord_iff {kept item : PartialRecord π ν} :
    fitsRecord kept item = true ↔ Fits kept item := by
  have agree (side : Side) :
      keysAgree (kept.key side) (item.key side) = true ↔
        ∀ first second, kept.key side = some first → item.key side = some second →
          first = second := by
    cases kept.key side <;> cases item.key side <;> simp [keysAgree]
  have shares (side : Side) :
      keysShare (kept.key side) (item.key side) = true ↔
        ∃ value, kept.key side = some value ∧ item.key side = some value := by
    cases kept.key side <;> cases item.key side <;> simp [keysShare, eq_comm]
  simp only [fitsRecord, Bool.and_eq_true, decide_eq_true_eq, List.all_cons, List.all_nil,
    List.any_cons, List.any_nil, Bool.or_eq_true, agree, shares]
  constructor
  · rintro ⟨⟨place, isFirst, isSecond, _⟩, found⟩
    refine ⟨place, ?_, ?_⟩
    · intro side
      cases side
      · exact isFirst
      · exact isSecond
    · rcases found with found | found | none
      · exact ⟨.first, found⟩
      · exact ⟨.second, found⟩
      · cases none
  · rintro ⟨place, agreed, side, found⟩
    refine ⟨⟨place, agreed .first, agreed .second, trivial⟩, ?_⟩
    cases side
    · exact .inl found
    · exact .inr (.inl found)

end

def absorbRecord (kept item : PartialRecord π ν) : PartialRecord π ν where
  place := kept.place
  key side := if kept.closed side then kept.key side else item.key side
  closed side := kept.closed side || item.closed side
  closed_of_key := by
    intro side value isKey
    rw [Bool.or_eq_true]
    split at isKey
    · exact .inl (kept.closed_of_key side value isKey)
    · exact .inr (item.closed_of_key side value isKey)

/-! One absorption. -/

theorem Fits.other_of_single {kept item : PartialRecord π ν} (fits : Fits kept item)
    {place : π} {side : Side} {value : ν} (single : SingleAt place side value item) :
    kept.key side = some value := by
  obtain ⟨any, shared, isKept, isItem⟩ := fits.shares
  rcases Side.eq_or_other side any with rfl | rfl
  · rw [single.key] at isItem
    rw [isKept, isItem]
  · rw [single.other] at isItem
    cases isItem

theorem absorbRecord_key {kept : PartialRecord π ν} (item : PartialRecord π ν) {side : Side}
    {value : ν} (isKey : kept.key side = some value) :
    (absorbRecord kept item).key side = some value := by
  simp only [absorbRecord, kept.closed_of_key side value isKey, if_true, isKey]

/-- A record that absorbs keeps its keys, or has the item's afterwards. -/
theorem absorbRecord_keys {kept item : PartialRecord π ν} (fits : Fits kept item) :
    SameKeys (absorbRecord kept item) kept ∨ SameKeys (absorbRecord kept item) item := by
  obtain ⟨side, value, isKept, isItem⟩ := fits.shares
  have shared := absorbRecord_key item isKept
  by_cases closed : kept.closed side.other = true
  · refine .inl ⟨rfl, funext fun any => ?_⟩
    rcases Side.eq_or_other side any with rfl | rfl
    · rw [shared, isKept]
    · simp only [absorbRecord, closed, if_true]
  · refine .inr ⟨fits.place, funext fun any => ?_⟩
    rcases Side.eq_or_other side any with rfl | rfl
    · rw [shared, isItem]
    · simp only [absorbRecord, closed, Bool.false_eq_true, if_false]

section
variable [DecidableEq π] [DecidableEq ν]

def mergeRecord (kept : List (PartialRecord π ν)) (item : PartialRecord π ν) :
    List (PartialRecord π ν) :=
  firstFit fitsRecord absorbRecord kept item

def mergeRecords (items : List (PartialRecord π ν)) : List (PartialRecord π ν) :=
  firstFits fitsRecord absorbRecord items

theorem mergeRecords_concat (items : List (PartialRecord π ν)) (item : PartialRecord π ν) :
    mergeRecords (items ++ [item]) = mergeRecord (mergeRecords items) item :=
  firstFits_concat items item

theorem not_fits {kept item : PartialRecord π ν} (unfit : fitsRecord kept item = false) :
    ¬ Fits kept item := by
  rw [← fitsRecord_iff, unfit]
  exact Bool.false_ne_true

theorem mem_mergeRecord {kept : List (PartialRecord π ν)} {item record : PartialRecord π ν}
    (member : record ∈ mergeRecord kept item) :
    record ∈ kept ∨ (record = item ∧ ∀ other ∈ kept, ¬ Fits other item) ∨
      ∃ other ∈ kept, Fits other item ∧ record = absorbRecord other item := by
  rw [mergeRecord] at member
  have step : FitStep fitsRecord absorbRecord item kept _ := firstFit_step kept item
  generalize firstFit fitsRecord absorbRecord kept item = after at step member
  cases step with
  | append unfit =>
      rcases List.mem_append.mp member with old | new
      · exact .inl old
      · exact .inr (.inl ⟨List.mem_singleton.mp new, fun other listed =>
          not_fits (unfit other listed)⟩)
  | @absorb before other after earlier fit =>
      rcases List.mem_append.mp member with old | member
      · exact .inl (List.mem_append_left _ old)
      · rcases List.mem_cons.mp member with rfl | old
        · exact .inr (.inr ⟨other, by simp, fitsRecord_iff.mp fit, rfl⟩)
        · exact .inl (List.mem_append_right _ (List.mem_cons_of_mem _ old))

/-- What is kept stays, up to keys it takes over. -/
theorem mergeRecord_keeps (kept : List (PartialRecord π ν)) (item : PartialRecord π ν)
    {record : PartialRecord π ν} (member : record ∈ kept) :
    ∃ other ∈ mergeRecord kept item, other = record ∨
      (Fits record item ∧ other = absorbRecord record item) := by
  rw [mergeRecord]
  have step : FitStep fitsRecord absorbRecord item kept _ := firstFit_step kept item
  generalize firstFit fitsRecord absorbRecord kept item = after at step
  cases step with
  | append unfit => exact ⟨record, List.mem_append_left _ member, .inl rfl⟩
  | @absorb before other after earlier fit =>
      rcases List.mem_append.mp member with old | member
      · exact ⟨record, List.mem_append_left _ old, .inl rfl⟩
      · rcases List.mem_cons.mp member with rfl | old
        · exact ⟨_, List.mem_append_right _ List.mem_cons_self,
            .inr ⟨fitsRecord_iff.mp fit, rfl⟩⟩
        · exact ⟨record, List.mem_append_right _ (List.mem_cons_of_mem _ old), .inl rfl⟩

/-- The item itself is kept or absorbed. -/
theorem mergeRecord_places (kept : List (PartialRecord π ν)) (item : PartialRecord π ν) :
    item ∈ mergeRecord kept item ∨
      ∃ record ∈ kept, Fits record item ∧ absorbRecord record item ∈ mergeRecord kept item := by
  rw [mergeRecord]
  have step : FitStep fitsRecord absorbRecord item kept _ := firstFit_step kept item
  generalize firstFit fitsRecord absorbRecord kept item = after at step
  cases step with
  | append unfit => exact .inl (List.mem_append_right _ (List.mem_singleton.mpr rfl))
  | @absorb before other after earlier fit =>
      exact .inr ⟨other, by simp, fitsRecord_iff.mp fit, by simp⟩

/-! What a merge keeps. -/

theorem mergeRecords_origin {items : List (PartialRecord π ν)} {record : PartialRecord π ν}
    (member : record ∈ mergeRecords items) : ∃ item ∈ items, SameKeys record item := by
  induction items using List.reverseRecOn generalizing record with
  | nil => cases member
  | append_singleton items item ih =>
      have earlier {record : PartialRecord π ν} (kept : record ∈ mergeRecords items) :
          ∃ any ∈ items ++ [item], SameKeys record any := by
        obtain ⟨any, listed, same⟩ := ih kept
        exact ⟨any, List.mem_append_left _ listed, same⟩
      have last : item ∈ items ++ [item] := by simp
      rw [mergeRecords_concat] at member
      rcases mem_mergeRecord member with kept | ⟨rfl, _⟩ | ⟨other, kept, fits, rfl⟩
      · exact earlier kept
      · exact ⟨record, last, rfl, rfl⟩
      · rcases absorbRecord_keys fits with same | same
        · obtain ⟨any, listed, place, keys⟩ := earlier kept
          exact ⟨any, listed, same.1.trans place, same.2.trans keys⟩
        · exact ⟨item, last, same⟩

theorem mergeRecords_blocked {items : List (PartialRecord π ν)} {record : PartialRecord π ν}
    {place : π} {side : Side} {value : ν} (member : record ∈ mergeRecords items)
    (blocked : BlockedAt place side value record) :
    ∃ item ∈ items, BlockedAt place side value item := by
  induction items using List.reverseRecOn generalizing record with
  | nil => cases member
  | append_singleton items item ih =>
      have earlier {record : PartialRecord π ν} (kept : record ∈ mergeRecords items)
          (blocked : BlockedAt place side value record) :
          ∃ any ∈ items ++ [item], BlockedAt place side value any := by
        obtain ⟨any, listed, found⟩ := ih kept blocked
        exact ⟨any, List.mem_append_left _ listed, found⟩
      have last : item ∈ items ++ [item] := by simp
      rw [mergeRecords_concat] at member
      rcases mem_mergeRecord member with kept | ⟨rfl, _⟩ | ⟨other, kept, fits, rfl⟩
      · exact earlier kept blocked
      · exact ⟨record, last, blocked⟩
      · obtain ⟨shared, common, isOther, isItem⟩ := fits.shares
        have notOther : shared ≠ side.other := by
          rintro rfl
          have taken := absorbRecord_key item isOther
          rw [blocked.other] at taken
          cases taken
        obtain rfl := (Side.eq_or_other side shared).resolve_right notOther
        have isValue : common = value := by
          have taken := absorbRecord_key item isOther
          rw [blocked.key] at taken
          exact (Option.some.inj taken).symm
        subst isValue
        have without := blocked.other
        by_cases closed : other.closed shared.other = true
        · simp only [absorbRecord, closed, if_true] at without
          exact earlier kept ⟨⟨blocked.place, isOther, without⟩, closed⟩
        · simp only [absorbRecord, closed, Bool.false_eq_true, if_false] at without
          have isClosed := blocked.closed
          simp only [absorbRecord, closed, Bool.false_or] at isClosed
          exact ⟨item, last, ⟨fits.place ▸ blocked.place, isItem, without⟩, isClosed⟩

def IsFull (record : PartialRecord π ν) : Prop := ∀ side, ∃ value, record.key side = some value

omit [DecidableEq π] [DecidableEq ν] in
theorem other_eq_none {record : PartialRecord π ν} {side : Side} {value : ν}
    (isKey : record.key side = some value) (unfull : ¬ IsFull record) :
    record.key side.other = none := by
  cases held : record.key side.other with
  | none => rfl
  | some other =>
      apply absurd _ unfull
      intro any
      rcases Side.eq_or_other side any with rfl | rfl
      · exact ⟨value, isKey⟩
      · exact ⟨other, held⟩

omit [DecidableEq π] [DecidableEq ν] in
/-- A record that fits and is not full takes over all keys of a full item, unless it is blocked. -/
theorem absorbRecord_full {kept item : PartialRecord π ν} (fits : Fits kept item)
    (full : IsFull item)
    (open_ : ∀ side value, item.key side = some value → ¬ BlockedAt item.place side value kept) :
    SameKeys (absorbRecord kept item) item := by
  rcases absorbRecord_keys fits with same | same
  · refine ⟨fits.place, funext fun any => ?_⟩
    obtain ⟨side, value, isKept, isItem⟩ := fits.shares
    rcases Side.eq_or_other side any with rfl | rfl
    · rw [absorbRecord_key item isKept, isItem]
    · obtain ⟨needed, isNeeded⟩ := full side.other
      cases held : kept.key side.other with
      | some found =>
          rw [absorbRecord_key item held, isNeeded,
            fits.agree side.other found needed held isNeeded]
      | none =>
          by_cases closed : kept.closed side.other = true
          · exact absurd ⟨⟨fits.place, isKept, held⟩, closed⟩ (open_ side value isItem)
          · simp only [absorbRecord, closed, Bool.false_eq_true, if_false]
  · exact same

omit [DecidableEq π] [DecidableEq ν] in
theorem Fits.congr_left {first second item : PartialRecord π ν} (same : SameKeys first second)
    (fits : Fits first item) : Fits second item := by
  obtain ⟨place, keys⟩ := same
  obtain ⟨samePlace, agree, shares⟩ := fits
  rw [place] at samePlace
  rw [keys] at agree shares
  exact ⟨samePlace, agree, shares⟩

omit [DecidableEq π] [DecidableEq ν] in
theorem Fits.congr_right {kept first second : PartialRecord π ν} (same : SameKeys first second)
    (fits : Fits kept first) : Fits kept second := by
  obtain ⟨place, keys⟩ := same
  obtain ⟨samePlace, agree, shares⟩ := fits
  rw [place] at samePlace
  rw [keys] at agree shares
  exact ⟨samePlace, agree, shares⟩

omit [DecidableEq π] [DecidableEq ν] in
theorem Fits.twins {first second : PartialRecord π ν} (fits : Fits first second)
    (firstFull : IsFull first) (secondFull : IsFull second) : SameKeys first second := by
  refine ⟨fits.place, funext fun side => ?_⟩
  obtain ⟨value, isFirst⟩ := firstFull side
  obtain ⟨other, isSecond⟩ := secondFull side
  rw [isFirst, isSecond, fits.agree side value other isFirst isSecond]

omit [DecidableEq π] [DecidableEq ν] in
theorem IsFull.congr {first second : PartialRecord π ν} (same : SameKeys first second)
    (full : IsFull first) : IsFull second := by
  intro side
  rw [← same.2]
  exact full side

omit [DecidableEq π] [DecidableEq ν] in
theorem absorbRecord_unfull {kept item : PartialRecord π ν} (fits : Fits kept item)
    (unfull : ¬ IsFull (absorbRecord kept item)) :
    SameKeys (absorbRecord kept item) kept := by
  obtain ⟨side, value, isKept, _⟩ := fits.shares
  refine ⟨rfl, funext fun any => ?_⟩
  rcases Side.eq_or_other side any with rfl | rfl
  · rw [absorbRecord_key item isKept, isKept]
  · have without := other_eq_none (absorbRecord_key item isKept) unfull
    cases held : kept.key side.other with
    | none => exact without
    | some found =>
        rw [absorbRecord_key item held] at without
        cases without

/-- Of two kept records that fit, the earlier one is full and the later one is not. -/
theorem mergeRecords_pairwise (items : List (PartialRecord π ν)) :
    (mergeRecords items).Pairwise fun first second =>
      Fits first second → IsFull first ∧ ¬ IsFull second := by
  induction items using List.reverseRecOn with
  | nil => exact List.Pairwise.nil
  | append_singleton items item ih =>
      rw [mergeRecords_concat, mergeRecord]
      have step : FitStep fitsRecord absorbRecord item (mergeRecords items) _ :=
        firstFit_step (mergeRecords items) item
      generalize mergeRecords items = kept at step ih
      generalize firstFit fitsRecord absorbRecord kept item = after at step
      cases step with
      | append unfit =>
          refine List.pairwise_append.mpr ⟨ih, List.pairwise_singleton _ _, ?_⟩
          intro record member last isLast fits
          rw [List.mem_singleton.mp isLast] at fits
          exact absurd fits (not_fits (unfit record member))
      | @absorb before record after earlier fit =>
          have fits := fitsRecord_iff.mp fit
          obtain ⟨beforeApart, rest, across⟩ := List.pairwise_append.mp ih
          obtain ⟨recordApart, afterApart⟩ := List.pairwise_cons.mp rest
          refine List.pairwise_append.mpr ⟨beforeApart, List.pairwise_cons.mpr ⟨?_, afterApart⟩, ?_⟩
          · intro later listed laterFits
            by_cases full : IsFull (absorbRecord record item)
            · refine ⟨full, fun laterFull => ?_⟩
              have twin := laterFits.twins full laterFull
              have before : Fits record later := by
                rcases absorbRecord_keys fits with same | same
                · exact laterFits.congr_left same
                · exact fits.congr_right
                    ⟨same.1.symm.trans twin.1, same.2.symm.trans twin.2⟩
              exact (recordApart later listed before).2 laterFull
            · have same := absorbRecord_unfull fits full
              obtain ⟨recordFull, _⟩ := recordApart later listed (laterFits.congr_left same)
              exact absurd (recordFull.congr ⟨same.1.symm, same.2.symm⟩) full
          · intro other member later isLater otherFits
            rcases List.mem_cons.mp isLater with rfl | listed
            · rcases absorbRecord_keys fits with same | same
              · obtain ⟨full, partial_⟩ := across other member record List.mem_cons_self
                  (otherFits.congr_right same)
                exact ⟨full, fun absorbed => partial_ (absorbed.congr same)⟩
              · exact absurd (otherFits.congr_right same) (not_fits (earlier other member))
            · exact across other member later (List.mem_cons_of_mem _ listed) otherFits

/-- What absorbing keeps of a record is kept of every merged item that has it. -/
theorem mergeRecords_covers {items : List (PartialRecord π ν)} {covers : PartialRecord π ν → Prop}
    (keeps : ∀ record other, covers record → Fits record other →
      covers (absorbRecord record other)) {item : PartialRecord π ν} (own : covers item)
    (absorbed : ∀ before, before ⊆ items → ∀ record ∈ mergeRecords before, Fits record item →
      covers (absorbRecord record item)) (member : item ∈ items) :
    ∃ record ∈ mergeRecords items, covers record := by
  induction items using List.reverseRecOn with
  | nil => cases member
  | append_singleton items last ih =>
      rw [mergeRecords_concat]
      rcases List.mem_append.mp member with earlier | isLast
      · obtain ⟨record, kept, covered⟩ := ih (fun before inside =>
          absorbed before fun any listed => List.mem_append_left _ (inside listed)) earlier
        obtain ⟨other, listed, same⟩ := mergeRecord_keeps (mergeRecords items) last kept
        refine ⟨other, listed, ?_⟩
        rcases same with rfl | ⟨fits, rfl⟩
        · exact covered
        · exact keeps record last covered fits
      · obtain rfl := List.mem_singleton.mp isLast
        rcases mergeRecord_places (mergeRecords items) item with kept | ⟨record, kept, fits, listed⟩
        · exact ⟨item, kept, own⟩
        · exact ⟨_, listed, absorbed items (fun _ listed => List.mem_append_left _ listed) record
            kept fits⟩

theorem mergeRecords_single {items : List (PartialRecord π ν)} {item : PartialRecord π ν}
    {place : π} {side : Side} {value : ν} (member : item ∈ items)
    (single : SingleAt place side value item) :
    ∃ record ∈ mergeRecords items, record.place = place ∧ record.key side = some value := by
  refine mergeRecords_covers (fun record other covered _ => ?_) ⟨single.place, single.key⟩
    (fun before _ record _ fits => ?_) member
  · exact ⟨covered.1, absorbRecord_key other covered.2⟩
  · exact ⟨fits.place.trans single.place,
      absorbRecord_key item (fits.other_of_single single)⟩

/-- A full item is kept as such unless a blocked record can absorb it. -/
theorem mergeRecords_full {items : List (PartialRecord π ν)} {item : PartialRecord π ν}
    (member : item ∈ items) (full : IsFull item)
    (unblocked : ∀ side value, item.key side = some value → ∀ other ∈ items,
      ¬ BlockedAt item.place side value other) :
    ∃ record ∈ mergeRecords items, SameKeys record item := by
  refine mergeRecords_covers (fun record other covered fits => ?_) ⟨rfl, rfl⟩
    (fun before inside record kept fits => ?_) member
  · rcases absorbRecord_keys fits with same | same
    · exact ⟨same.1.trans covered.1, same.2.trans covered.2⟩
    · refine ⟨covered.1, funext fun side => ?_⟩
      obtain ⟨value, isValue⟩ := full side
      rw [isValue]
      exact absorbRecord_key other (by rw [covered.2, isValue])
  · apply absorbRecord_full fits full
    intro side value isValue blocked
    obtain ⟨origin, listed, found⟩ := mergeRecords_blocked kept blocked
    exact unblocked side value isValue origin (inside listed) found

/-- A record without keys fits nothing and is kept. -/
theorem mergeRecords_keyless {items : List (PartialRecord π ν)} {item : PartialRecord π ν}
    (member : item ∈ items) (keyless : ∀ side, item.key side = none) :
    ∃ record ∈ mergeRecords items, SameKeys record item := by
  refine mergeRecords_covers (fun record other covered fits => ?_) ⟨rfl, rfl⟩
    (fun before _ record _ fits => ?_) member
  · obtain ⟨side, value, isKept, _⟩ := fits.shares
    rw [covered.2, keyless side] at isKept
    cases isKept
  · obtain ⟨side, value, _, isItem⟩ := fits.shares
    rw [keyless side] at isItem
    cases isItem

omit [DecidableEq π] [DecidableEq ν] in
theorem FullAt.isFull {place : π} {side : Side} {value other : ν} {record : PartialRecord π ν}
    (full : FullAt place side value other record) : IsFull record := by
  intro any
  rcases Side.eq_or_other side any with rfl | rfl
  · exact ⟨value, full.key⟩
  · exact ⟨other, full.other⟩

omit [DecidableEq π] [DecidableEq ν] in
theorem SingleAt.congr {place : π} {side : Side} {value : ν} {first second : PartialRecord π ν}
    (same : SameKeys first second) (single : SingleAt place side value first) :
    SingleAt place side value second :=
  ⟨same.1 ▸ single.place, same.2 ▸ single.key, same.2 ▸ single.other⟩

omit [DecidableEq π] [DecidableEq ν] in
theorem SingleAt.not_full {place : π} {side : Side} {value : ν} {record : PartialRecord π ν}
    (single : SingleAt place side value record) : ¬ IsFull record := by
  intro full
  obtain ⟨other, isOther⟩ := full side.other
  rw [single.other] at isOther
  cases isOther

omit [DecidableEq π] [DecidableEq ν] in
/-- A record that fits a single item and has no more keys is single itself. -/
theorem SingleAt.of_absorb {place : π} {side : Side} {value : ν}
    {record item : PartialRecord π ν} (fits : Fits record item)
    (single : SingleAt place side value (absorbRecord record item))
    (own : SingleAt place side value item) : SingleAt place side value record := by
  refine ⟨single.place, fits.other_of_single own, ?_⟩
  cases held : record.key side.other with
  | none => rfl
  | some found =>
      have taken := absorbRecord_key item held
      rw [single.other] at taken
      cases taken

omit [DecidableEq π] [DecidableEq ν] in
theorem Fits.of_key {first second : PartialRecord π ν} {side : Side} {value : ν}
    (place : first.place = second.place) (isFirst : first.key side = some value)
    (isSecond : second.key side = some value)
    (free : first.key side.other = none ∨ second.key side.other = none) : Fits first second := by
  refine ⟨place, fun any left right isLeft isRight => ?_, side, value, isFirst, isSecond⟩
  rcases Side.eq_or_other side any with rfl | rfl
  · rw [isFirst] at isLeft
    rw [isSecond] at isRight
    exact (Option.some.inj isLeft).symm.trans (Option.some.inj isRight)
  · rcases free with none | none
    · rw [none] at isLeft
      cases isLeft
    · rw [none] at isRight
      cases isRight

omit [DecidableEq π] [DecidableEq ν] in
/-- A kept record that fits a full item is full alike or has one of its keys alone. -/
theorem Fits.full_cases {record item : PartialRecord π ν} {place : π} {side : Side}
    {value other : ν} (fits : Fits record item) (full : FullAt place side value other item) :
    SameKeys record item ∨ SingleAt place side value record ∨
      SingleAt place side.other other record := by
  by_cases isFull : IsFull record
  · exact .inl (fits.twins isFull full.isFull)
  · have isPlace := fits.place.trans full.place
    obtain ⟨shared, common, isRecord, isItem⟩ := fits.shares
    have without := other_eq_none isRecord isFull
    rcases Side.eq_or_other side shared with rfl | rfl
    · rw [full.key] at isItem
      exact .inr (.inl ⟨isPlace, isRecord.trans isItem.symm, without⟩)
    · rw [full.other] at isItem
      exact .inr (.inr ⟨isPlace, isRecord.trans isItem.symm, without⟩)

/-- With a full record in first place, no record with its key is ever single. -/
theorem mergeRecord_after_full {kept : List (PartialRecord π ν)} {place : π} {side : Side}
    {value : ν} (full : ∃ record ∈ kept, ∃ other, FullAt place side value other record)
    (none_ : ∀ record ∈ kept, ¬ SingleAt place side value record) (item : PartialRecord π ν) :
    (∃ record ∈ mergeRecord kept item, ∃ other, FullAt place side value other record) ∧
      ∀ record ∈ mergeRecord kept item, ¬ SingleAt place side value record := by
  obtain ⟨holder, isHolder, other, isFull⟩ := full
  constructor
  · obtain ⟨record, listed, same⟩ := mergeRecord_keeps kept item isHolder
    refine ⟨record, listed, other, ?_⟩
    rcases same with rfl | ⟨_, rfl⟩
    · exact isFull
    · exact ⟨isFull.place, absorbRecord_key item isFull.key, absorbRecord_key item isFull.other⟩
  · intro record listed single
    rcases mem_mergeRecord listed with old | ⟨rfl, unfit⟩ | ⟨absorber, old, fits, rfl⟩
    · exact none_ record old single
    · exact unfit holder isHolder (Fits.of_key (isFull.place.trans single.place.symm) isFull.key
        single.key (.inr single.other))
    · rcases absorbRecord_keys fits with same | same
      · exact none_ absorber old (single.congr same)
      · exact none_ absorber old (single.of_absorb fits (single.congr same))

/-- A full item that no blocked record absorbs leaves no single record with its key, where its
other key is on no single record. -/
theorem mergeRecord_full_settles {kept : List (PartialRecord π ν)} {place : π} {side : Side}
    {value other : ν} {full : PartialRecord π ν} (isFull : FullAt place side value other full)
    (apart : kept.Pairwise fun first second =>
      Fits first second → IsFull first ∧ ¬ IsFull second)
    (unblocked : ∀ any key, full.key any = some key → ∀ record ∈ kept,
      ¬ BlockedAt full.place any key record)
    (free : ∀ record ∈ kept, ¬ SingleAt place side.other other record)
    (settled : ∀ record ∈ kept, FullAt place side value other record →
      ∀ single ∈ kept, ¬ SingleAt place side value single) :
    ∀ record ∈ mergeRecord kept full, ¬ SingleAt place side value record := by
  have single_fits {record : PartialRecord π ν} (single : SingleAt place side value record) :
      Fits record full :=
    Fits.of_key (single.place.trans isFull.place.symm) single.key isFull.key (.inl single.other)
  intro record listed single
  rw [mergeRecord] at listed
  have step : FitStep fitsRecord absorbRecord full kept _ := firstFit_step kept full
  generalize firstFit fitsRecord absorbRecord kept full = after at step listed
  cases step with
  | append unfit =>
      rcases List.mem_append.mp listed with old | new
      · exact not_fits (unfit record old) (single_fits single)
      · rw [List.mem_singleton.mp new] at single
        exact single.not_full isFull.isFull
  | @absorb before holder after earlier fit =>
      have fits := fitsRecord_iff.mp fit
      have isHolder : holder ∈ before ++ holder :: after := by simp
      rcases List.mem_append.mp listed with old | rest
      · exact not_fits (earlier record old) (single_fits single)
      rcases List.mem_cons.mp rest with rfl | old
      · have same := absorbRecord_full fits isFull.isFull fun any key isKey =>
          unblocked any key isKey holder isHolder
        exact (single.congr same).not_full isFull.isFull
      have isRecord : record ∈ before ++ holder :: after := by simp [old]
      rcases fits.full_cases isFull with same | alone | isOther
      · have held : FullAt place side value other holder :=
          ⟨same.1.trans isFull.place, by rw [same.2, isFull.key], by rw [same.2, isFull.other]⟩
        exact settled holder isHolder held record isRecord single
      · have holderApart := (List.pairwise_cons.mp (List.pairwise_append.mp apart).2.1).1
        have both := Fits.of_key (alone.place.trans single.place.symm) alone.key single.key
          (.inl alone.other)
        exact alone.not_full (holderApart record old both).1
      · exact free holder isHolder isOther

/-- Once a full item came whose other key no item has alone, none with its key is left single. -/
theorem mergeRecords_settles {items : List (PartialRecord π ν)} {place : π} {side : Side}
    {value other : ν} (unblocked : ∀ item ∈ items, ¬ BlockedAt place side value item)
    (free : ∀ item ∈ items, ¬ SingleAt place side.other other item)
    (came : ∃ item ∈ items, FullAt place side value other item) :
    ∀ record ∈ mergeRecords items, ¬ SingleAt place side value record := by
  induction items using List.reverseRecOn with
  | nil =>
      obtain ⟨item, none, _⟩ := came
      cases none
  | append_singleton items last ih =>
      have stillUnblocked : ∀ item ∈ items, ¬ BlockedAt place side value item :=
        fun item listed => unblocked item (List.mem_append_left _ listed)
      have stillFree : ∀ item ∈ items, ¬ SingleAt place side.other other item :=
        fun item listed => free item (List.mem_append_left _ listed)
      have settled := ih stillUnblocked stillFree
      rw [mergeRecords_concat]
      obtain ⟨full, member, isFull⟩ := came
      have unblockedFull (any : Side) (key : ν) (isKey : full.key any = some key) :
          ∀ item ∈ items, ¬ BlockedAt full.place any key item := by
        intro item listed blocked
        rw [isFull.place] at blocked
        rcases Side.eq_or_other side any with rfl | rfl
        · rw [isFull.key, Option.some.injEq] at isKey
          exact stillUnblocked item listed (isKey ▸ blocked)
        · rw [isFull.other, Option.some.injEq] at isKey
          exact stillFree item listed (isKey ▸ blocked.toSingleAt)
      rcases List.mem_append.mp member with earlier | isLast
      · obtain ⟨holder, kept, same⟩ :=
          mergeRecords_full earlier isFull.isFull unblockedFull
        have held : FullAt place side value other holder :=
          ⟨same.1.trans isFull.place, by rw [same.2, isFull.key], by rw [same.2, isFull.other]⟩
        exact (mergeRecord_after_full ⟨holder, kept, other, held⟩
          (settled ⟨full, earlier, isFull⟩) last).2
      · obtain rfl := List.mem_singleton.mp isLast
        apply mergeRecord_full_settles isFull (mergeRecords_pairwise items)
        · intro any key isKey record kept blocked
          obtain ⟨item, listed, found⟩ := mergeRecords_blocked kept blocked
          exact unblockedFull any key isKey item listed found
        · intro record kept single
          obtain ⟨item, listed, same⟩ := mergeRecords_origin kept
          exact stillFree item listed (single.congr same)
        · intro record kept held
          obtain ⟨item, listed, place_, keys⟩ := mergeRecords_origin kept
          refine settled ⟨item, listed, ?_, ?_, ?_⟩
          · rw [← place_, held.place]
          · rw [← keys, held.key]
          · rw [← keys, held.other]

end

end CamAdmiral
