import CamAdmiral.IdentityCore
import CamAdmiral.StorageRuns
import Mathlib.Data.List.Chain

/-!
The identity history as a timeline. One observation leaves the periods of its camera alone,
fills in what the open period does not know, or ends it and opens the next one at the same
time; whichever caller it comes through, the periods of other cameras stay as they are.
-/

namespace CamAdmiral

/-! Identities as partial descriptions. -/

theorem conflicts_iff (observed previous : Identity) :
    conflicts observed previous = true ↔ Disagree observed.known previous.known := by
  simp only [conflicts, List.any_eq_true, Bool.and_eq_true, decide_eq_true_eq,
    Option.isSome_iff_exists, ne_eq]
  constructor
  · rintro ⟨field, _, ⟨⟨one, isOne⟩, two, isTwo⟩, differ⟩
    refine ⟨field, one, two, isOne, isTwo, ?_⟩
    rintro rfl
    exact differ (isOne.trans isTwo.symm)
  · rintro ⟨field, one, two, isOne, isTwo, differ⟩
    refine ⟨field, ?_, ⟨⟨one, isOne⟩, two, isTwo⟩, ?_⟩
    · cases field <;> simp
    · rw [isOne, isTwo]
      simpa using differ

theorem enriched_known (observed previous : Identity) :
    (enriched observed previous).known = merged previous.known observed.known := by
  funext field
  cases field <;> rfl

theorem unknown_known (field : IdentityField) : ({} : Identity).known field = none := by
  cases field <;> rfl

theorem known_nothing {identity : Identity}
    (carries : Extends (({} : Identity).known) identity.known) : identity = {} := by
  have missing (field : IdentityField) : identity.known field = none := by
    by_contra present
    obtain ⟨value, isValue⟩ := Option.ne_none_iff_exists'.mp present
    have impossible := carries field value isValue
    rw [unknown_known] at impossible
    cases impossible
  exact Identity.ext (missing .ip) (missing .mac) (missing .onvif)

/-! Ending a period and learning in one leave its keys. -/

theorem finish_periodUuid (timestamp : Nat) (row : PeriodRow) :
    (row.finish timestamp).periodUuid = row.periodUuid := rfl

theorem finish_cameraUuid (timestamp : Nat) (row : PeriodRow) :
    (row.finish timestamp).cameraUuid = row.cameraUuid := rfl

theorem learn_periodUuid (identity : Identity) (row : PeriodRow) :
    (row.learn identity).periodUuid = row.periodUuid := rfl

theorem learn_cameraUuid (identity : Identity) (row : PeriodRow) :
    (row.learn identity).cameraUuid = row.cameraUuid := rfl

/-! Timelines. -/

structure Follows (earlier later : PeriodRow) : Prop where
  abuts : earlier.endedAt = some later.startedAt
  ordered : earlier.startedAt ≤ later.startedAt
  contradicted : Disagree earlier.identity.known later.opened.known

/-- Each period ends where the next starts, and contradicts it from the start; only the last
is open, and none loses what it was opened with. -/
structure Timeline (rows : List PeriodRow) : Prop where
  chain : rows.IsChain Follows
  openLast : ∀ earlier last, rows = earlier ++ [last] →
    last.endedAt = none ∧ ∀ row ∈ earlier, row.endedAt ≠ none
  kept : ∀ row ∈ rows, Extends row.identity.known row.opened.known

/-- What one observation does to the periods of its camera. -/
inductive Observed (identity : Identity) (added : PeriodRow) :
    List PeriodRow → List PeriodRow → Prop
  | nothing (rows : List PeriodRow) (unknown : identity = {}) : Observed identity added rows rows
  | first (isNew : added.endedAt = none ∧ added.identity = identity ∧ added.opened = identity) :
      Observed identity added [] [added]
  | learned (earlier : List PeriodRow) (current : PeriodRow)
      (agrees : ¬ Disagree current.identity.known identity.known) :
      Observed identity added (earlier ++ [current])
        (earlier ++ [current.learn (enriched identity current.identity)])
  | switched (earlier : List PeriodRow) (current : PeriodRow)
      (contradicted : Disagree current.identity.known identity.known)
      (isNew : added.endedAt = none ∧ added.identity = identity ∧ added.opened = identity) :
      Observed identity added (earlier ++ [current])
        (earlier ++ [current.finish added.startedAt, added])

theorem timeline_empty : Timeline [] := ⟨List.isChain_nil, by simp, by simp⟩

/-- A chain stays one if its last row is replaced by one that starts alike. -/
theorem chain_replace_last {earlier : List PeriodRow} {current replaced : PeriodRow}
    (chain : (earlier ++ [current]).IsChain Follows)
    (sameStart : replaced.startedAt = current.startedAt)
    (sameOpened : replaced.opened = current.opened) :
    (earlier ++ [replaced]).IsChain Follows := by
  obtain ⟨before, _, joint⟩ := List.isChain_append.mp chain
  refine List.isChain_append.mpr ⟨before, List.isChain_singleton _, ?_⟩
  intro last isLast row isRow
  obtain rfl : replaced = row := by simpa using isRow
  have follows := joint last isLast current (by simp)
  exact ⟨sameStart ▸ follows.abuts, sameStart ▸ follows.ordered,
    sameOpened ▸ follows.contradicted⟩

theorem Timeline.observed {identity : Identity} {added : PeriodRow}
    {before after : List PeriodRow} (timeline : Timeline before)
    (observed : Observed identity added before after)
    (timely : ∀ row ∈ before, row.startedAt ≤ added.startedAt) : Timeline after := by
  cases observed with
  | nothing unknown => exact timeline
  | first isNew =>
      obtain ⟨isOpen, isIdentity, isOpened⟩ := isNew
      refine ⟨List.isChain_singleton _, ?_, ?_⟩
      · intro earlier last split
        obtain ⟨rfl, same⟩ :=
          List.append_inj' (show [] ++ [added] = earlier ++ [last] from split) rfl
        obtain rfl := List.singleton_inj.mp same
        exact ⟨isOpen, by simp⟩
      · simp only [List.mem_singleton, forall_eq, isIdentity, isOpened]
        exact Extends.refl _
  | learned earlier current agrees =>
      obtain ⟨isOpen, closed⟩ := timeline.openLast earlier current rfl
      refine ⟨chain_replace_last timeline.chain rfl rfl, ?_, ?_⟩
      · intro others last split
        obtain ⟨rfl, same⟩ := List.append_inj' split rfl
        obtain rfl := List.singleton_inj.mp same
        exact ⟨isOpen, closed⟩
      · intro row member
        rcases List.mem_append.mp member with isEarlier | isLast
        · exact timeline.kept row (List.mem_append_left _ isEarlier)
        · obtain rfl := List.mem_singleton.mp isLast
          rw [PeriodRow.learn, enriched_known]
          exact (timeline.kept current (by simp)).trans (merged_extends_first _ _)
  | switched earlier current contradicted isNew =>
      obtain ⟨isOpen, isIdentity, isOpened⟩ := isNew
      obtain ⟨_, closed⟩ := timeline.openLast earlier current rfl
      refine ⟨?_, ?_, ?_⟩
      · rw [List.append_cons]
        refine List.isChain_append.mpr
          ⟨chain_replace_last timeline.chain rfl rfl, List.isChain_singleton _, ?_⟩
        intro last isLast row isRow
        obtain rfl : added = row := by simpa using isRow
        obtain rfl : current.finish added.startedAt = last := by
          simpa using isLast
        exact ⟨rfl, timely current (by simp), by rw [isOpened]; exact contradicted⟩
      · intro others last split
        rw [List.append_cons] at split
        obtain ⟨rfl, same⟩ := List.append_inj' split rfl
        obtain rfl := List.singleton_inj.mp same
        refine ⟨isOpen, ?_⟩
        intro row member
        rcases List.mem_append.mp member with isEarlier | isLast
        · exact closed row isEarlier
        · obtain rfl := List.mem_singleton.mp isLast
          simp [PeriodRow.finish]
      · intro row member
        rcases List.mem_append.mp member with isEarlier | isLast
        · exact timeline.kept row (List.mem_append_left _ isEarlier)
        · rcases List.mem_cons.mp isLast with rfl | isAdded
          · exact timeline.kept current (by simp)
          · obtain rfl := List.mem_singleton.mp isAdded
            rw [isIdentity, isOpened]
            exact Extends.refl _

/-! One observation on the table. -/

/-- The periods of one camera, in the order they were opened. -/
def periodsOf (periods : List PeriodRow) (cameraUuid : String) : List PeriodRow :=
  periods.filter fun row => row.cameraUuid = cameraUuid

theorem periodsOf_append (periods added : List PeriodRow) (cameraUuid : String) :
    periodsOf (periods ++ added) cameraUuid =
      periodsOf periods cameraUuid ++ periodsOf added cameraUuid :=
  List.filter_append ..

theorem openPeriod_none {periods : List PeriodRow} {cameraUuid : String}
    (timeline : Timeline (periodsOf periods cameraUuid))
    (missing : openPeriod periods cameraUuid = none) : periodsOf periods cameraUuid = [] := by
  by_contra nonempty
  have split := List.dropLast_concat_getLast nonempty
  obtain ⟨isOpen, _⟩ := timeline.openLast _ _ split.symm
  obtain ⟨member, owned⟩ := List.mem_filter.mp (List.getLast_mem nonempty)
  have notOpen := List.find?_eq_none.mp missing _ member
  simp only [owned, isOpen, Option.isNone_none, Bool.and_self, not_true_eq_false] at notOpen

/-- The open period is the last one of its camera. -/
theorem openPeriod_some {periods : List PeriodRow} {cameraUuid : String} {current : PeriodRow}
    (timeline : Timeline (periodsOf periods cameraUuid))
    (found : openPeriod periods cameraUuid = some current) :
    current ∈ periods ∧ current.cameraUuid = cameraUuid ∧ current.endedAt = none ∧
      ∃ earlier, periodsOf periods cameraUuid = earlier ++ [current] := by
  have member := List.mem_of_find?_eq_some found
  have isOpen := List.find?_some found
  simp only [Bool.and_eq_true, decide_eq_true_eq, Option.isNone_iff_eq_none] at isOpen
  refine ⟨member, isOpen.1, isOpen.2, ?_⟩
  have listed : current ∈ periodsOf periods cameraUuid :=
    List.mem_filter.mpr ⟨member, decide_eq_true isOpen.1⟩
  have nonempty := List.ne_nil_of_mem listed
  have split := List.dropLast_concat_getLast nonempty
  obtain ⟨_, closed⟩ := timeline.openLast _ _ split.symm
  rw [← split, List.mem_append, List.mem_singleton] at listed
  rcases listed with isEarlier | isLast
  · exact (closed current isEarlier isOpen.2).elim
  · exact ⟨_, by rw [isLast, split]⟩

/-- A statement on the row with one uuid changes that row. -/
theorem map_row_last {periods earlier : List PeriodRow} {cameraUuid : String}
    {current : PeriodRow} {change : PeriodRow → PeriodRow}
    (distinct : Unique PeriodRow.periodUuid periods)
    (split : periodsOf periods cameraUuid = earlier ++ [current])
    (sameCamera : ∀ row, (change row).cameraUuid = row.cameraUuid) :
    periodsOf (updateRow PeriodRow.periodUuid current.periodUuid change periods) cameraUuid =
      earlier ++ [change current] := by
  have sameOwner (row : PeriodRow) :
      (if row.periodUuid = current.periodUuid then change row else row).cameraUuid =
        row.cameraUuid := by
    split
    · exact sameCamera row
    · rfl
  have owned := distinct.filter fun row => decide (row.cameraUuid = cameraUuid)
  rw [show periods.filter (fun row => decide (row.cameraUuid = cameraUuid)) =
    earlier ++ [current] from split, Unique, List.map_append, List.nodup_append] at owned
  have untouched : earlier.map (fun row =>
      if row.periodUuid = current.periodUuid then change row else row) = earlier := by
    calc earlier.map (fun row => if row.periodUuid = current.periodUuid then change row else row)
        = earlier.map id := by
          apply List.map_congr_left
          intro row member
          have differ := owned.2.2 row.periodUuid (List.mem_map_of_mem member)
            current.periodUuid (by simp)
          simp [differ]
      _ = earlier := List.map_id _
  simp only [periodsOf, updateRow, List.filter_map, Function.comp_def, sameOwner]
  rw [show periods.filter (fun row => decide (row.cameraUuid = cameraUuid)) =
    earlier ++ [current] from split, List.map_append, untouched]
  simp

theorem observedPeriods_observed {periods : List PeriodRow} {cameraUuid : String}
    (identity : Identity) (timestamp : Nat) (fresh : String)
    (distinct : Unique PeriodRow.periodUuid periods)
    (timeline : Timeline (periodsOf periods cameraUuid)) :
    Observed identity ⟨fresh, cameraUuid, identity, timestamp, none, identity⟩
      (periodsOf periods cameraUuid)
      (periodsOf (observedPeriods periods cameraUuid identity timestamp fresh).1 cameraUuid) := by
  have isAdded : periodsOf [⟨fresh, cameraUuid, identity, timestamp, none, identity⟩] cameraUuid =
      [⟨fresh, cameraUuid, identity, timestamp, none, identity⟩] := by
    simp [periodsOf]
  simp only [observedPeriods]
  by_cases unknown : identity = {}
  · rw [if_pos unknown]
    exact .nothing _ unknown
  · rw [if_neg unknown]
    cases found : openPeriod periods cameraUuid with
    | none =>
        simp only [periodsOf_append, isAdded, openPeriod_none timeline found]
        exact .first ⟨rfl, rfl, rfl⟩
    | some current =>
        obtain ⟨_, _, _, earlier, split⟩ := openPeriod_some timeline found
        by_cases contradicted : conflicts identity current.identity = true
        · have ended := map_row_last distinct split (finish_cameraUuid timestamp)
          have disagree := ((conflicts_iff _ _).mp contradicted).symm
          simp only [contradicted, if_true]
          rw [periodsOf_append, ended, isAdded, split, List.append_assoc]
          exact .switched earlier current disagree ⟨rfl, rfl, rfl⟩
        · have agrees : ¬ Disagree current.identity.known identity.known :=
            fun disagree => contradicted ((conflicts_iff _ _).mpr disagree.symm)
          have learned : Observed identity
              ⟨fresh, cameraUuid, identity, timestamp, none, identity⟩ _ _ :=
            .learned earlier current agrees
          simp only [contradicted, Bool.false_eq_true, if_false]
          by_cases same : enriched identity current.identity = current.identity
          · simp only [same, if_true, split] at learned ⊢
            exact learned
          · simp only [same, if_false]
            rw [map_row_last distinct split (learn_cameraUuid _), split]
            exact learned

theorem observedPeriods_others (periods : List PeriodRow) {cameraUuid other : String}
    (identity : Identity) (timestamp : Nat) (fresh : String)
    (distinct : Unique PeriodRow.periodUuid periods) (differ : cameraUuid ≠ other) :
    periodsOf (observedPeriods periods cameraUuid identity timestamp fresh).1 other =
      periodsOf periods other := by
  simp only [observedPeriods]
  by_cases unknown : identity = {}
  · rw [if_pos unknown]
  · rw [if_neg unknown]
    cases found : openPeriod periods cameraUuid with
    | none => exact filter_append_others _ differ
    | some current =>
        have member := List.mem_of_find?_eq_some found
        have isOpen := List.find?_some found
        simp only [Bool.and_eq_true, decide_eq_true_eq] at isOpen
        have updated {change : PeriodRow → PeriodRow}
            (sameCamera : ∀ row, (change row).cameraUuid = row.cameraUuid) :
            periodsOf (updateRow PeriodRow.periodUuid current.periodUuid change periods) other =
              periodsOf periods other := by
          apply filter_map_others
          · intro row
            split
            · exact sameCamera row
            · rfl
          · intro row isRow owned
            apply if_neg
            intro same
            obtain rfl := distinct.eq isRow member same
            exact differ (isOpen.1.symm.trans owned)
        dsimp only
        split
        · rw [periodsOf, filter_append_others _ differ]
          exact updated (finish_cameraUuid timestamp)
        · split
          · rfl
          · exact updated (learn_cameraUuid _)

/-! What is known of a period is kept. -/

structure KeptPeriod (row later : PeriodRow) : Prop where
  same : later.periodUuid = row.periodUuid ∧ later.cameraUuid = row.cameraUuid ∧
    later.startedAt = row.startedAt
  known : Extends later.identity.known row.identity.known
  ended : row.endedAt ≠ none → later = row

/-- Every period is still there, knows what it knew, and is as it was once it ended. -/
def KeptPeriods (before after : List PeriodRow) : Prop :=
  ∀ row ∈ before, ∃ later ∈ after, KeptPeriod row later

theorem KeptPeriod.refl (row : PeriodRow) : KeptPeriod row row :=
  ⟨⟨rfl, rfl, rfl⟩, Extends.refl _, fun _ => rfl⟩

theorem KeptPeriods.refl (periods : List PeriodRow) : KeptPeriods periods periods :=
  fun row member => ⟨row, member, .refl row⟩

theorem KeptPeriods.trans {first second third : List PeriodRow} (one : KeptPeriods first second)
    (two : KeptPeriods second third) : KeptPeriods first third := by
  intro row member
  obtain ⟨later, isLater, kept⟩ := one row member
  obtain ⟨last, isLast, keptLast⟩ := two later isLater
  refine ⟨last, isLast, ⟨?_, kept.known.trans keptLast.known, ?_⟩⟩
  · exact ⟨keptLast.same.1.trans kept.same.1, keptLast.same.2.1.trans kept.same.2.1,
      keptLast.same.2.2.trans kept.same.2.2⟩
  · intro ended
    obtain rfl := kept.ended ended
    exact keptLast.ended ended

theorem KeptPeriods.append {before after : List PeriodRow} (kept : KeptPeriods before after)
    (added : List PeriodRow) : KeptPeriods before (after ++ added) := by
  intro row member
  obtain ⟨later, isLater, keptRow⟩ := kept row member
  exact ⟨later, List.mem_append_left _ isLater, keptRow⟩

theorem KeptPeriods.map_row {periods : List PeriodRow} {current : PeriodRow}
    {change : PeriodRow → PeriodRow} (distinct : Unique PeriodRow.periodUuid periods)
    (member : current ∈ periods) (kept : KeptPeriod current (change current)) :
    KeptPeriods periods
      (updateRow PeriodRow.periodUuid current.periodUuid change periods) := by
  intro row isRow
  refine ⟨_, List.mem_map_of_mem isRow, ?_⟩
  by_cases same : row.periodUuid = current.periodUuid
  · obtain rfl := distinct.eq isRow member same
    simpa using kept
  · rw [if_neg same]
    exact .refl row

theorem observedPeriods_kept {periods : List PeriodRow} (cameraUuid : String)
    (identity : Identity) (timestamp : Nat) (fresh : String)
    (distinct : Unique PeriodRow.periodUuid periods) :
    KeptPeriods periods (observedPeriods periods cameraUuid identity timestamp fresh).1 := by
  simp only [observedPeriods]
  by_cases unknown : identity = {}
  · rw [if_pos unknown]
    exact .refl periods
  · rw [if_neg unknown]
    cases found : openPeriod periods cameraUuid with
    | none => exact (KeptPeriods.refl periods).append _
    | some current =>
        have member := List.mem_of_find?_eq_some found
        have isOpen := List.find?_some found
        simp only [Bool.and_eq_true, Option.isNone_iff_eq_none] at isOpen
        dsimp only
        split
        · refine (KeptPeriods.map_row distinct member ?_).append _
          exact ⟨⟨rfl, rfl, rfl⟩, Extends.refl _, fun ended => (ended isOpen.2).elim⟩
        · split
          · exact .refl periods
          · refine KeptPeriods.map_row distinct member ?_
            refine ⟨⟨rfl, rfl, rfl⟩, ?_, fun ended => (ended isOpen.2).elim⟩
            rw [PeriodRow.learn, enriched_known]
            exact merged_extends_first _ _

theorem observedPeriods_distinct {periods : List PeriodRow} (cameraUuid : String)
    (identity : Identity) (timestamp : Nat) {fresh : String}
    (distinct : Unique PeriodRow.periodUuid periods)
    (isFresh : ∀ row ∈ periods, row.periodUuid ≠ fresh) :
    Unique PeriodRow.periodUuid
      (observedPeriods periods cameraUuid identity timestamp fresh).1 := by
  simp only [observedPeriods]
  by_cases unknown : identity = {}
  · rw [if_pos unknown]
    exact distinct
  · rw [if_neg unknown]
    cases openPeriod periods cameraUuid with
    | none => exact distinct.append isFresh
    | some current =>
        dsimp only
        split
        · refine (distinct.updateRow _ (finish_periodUuid timestamp)).append ?_
          intro row member
          rcases mem_updateRow.mp member with ⟨isRow, _⟩ | ⟨before, isBefore, _, rfl⟩
          · exact isFresh row isRow
          · exact isFresh before isBefore
        · split
          · exact distinct
          · exact distinct.updateRow _ (learn_periodUuid _)

/-! What is directly after an observation. -/

theorem Observed.last {identity : Identity} {added : PeriodRow} {before after : List PeriodRow}
    (observed : Observed identity added before after) (isKnown : identity ≠ {}) :
    ∃ earlier last, after = earlier ++ [last] ∧ Extends last.identity.known identity.known := by
  cases observed with
  | nothing _ unknown => exact (isKnown unknown).elim
  | first isNew => exact ⟨[], added, rfl, isNew.2.1 ▸ Extends.refl _⟩
  | learned earlier current agrees =>
      refine ⟨earlier, _, rfl, ?_⟩
      rw [PeriodRow.learn, enriched_known]
      exact merged_extends_second agrees
  | switched earlier current contradicted isNew =>
      exact ⟨earlier ++ [current.finish added.startedAt], added, List.append_cons _ _ _,
        isNew.2.1 ▸ Extends.refl _⟩

/-- The open period has every field that the observation carried. -/
def Applied.Agrees (entry : Applied) : Prop :=
  entry.carried ≠ {} → ∃ current, openPeriod entry.periods entry.cameraUuid = some current ∧
    Extends current.identity.known entry.carried.known

theorem openPeriod_last {periods earlier : List PeriodRow} {cameraUuid : String}
    {last : PeriodRow} (timeline : Timeline (periodsOf periods cameraUuid))
    (split : periodsOf periods cameraUuid = earlier ++ [last]) :
    openPeriod periods cameraUuid = some last := by
  cases found : openPeriod periods cameraUuid with
  | none =>
      rw [openPeriod_none timeline found] at split
      simp at split
  | some current =>
      obtain ⟨_, _, _, others, same⟩ := openPeriod_some timeline found
      have lasts := (List.append_inj' (same.symm.trans split) rfl).2
      rw [List.singleton_inj.mp lasts]

/-! The whole history. -/

structure HistoryInvariant (store : IdentityStore) : Prop where
  distinct : Unique PeriodRow.periodUuid store.periods
  timelines : ∀ cameraUuid, Timeline (periodsOf store.periods cameraUuid)
  timely : ∀ row ∈ store.periods, row.startedAt ≤ store.clocks row.cameraUuid
  agreed : ∀ entry ∈ store.applied, entry.Agrees ∧ KeptPeriods entry.periods store.periods

theorem observedPeriods_member {periods : List PeriodRow} {cameraUuid fresh : String}
    {identity : Identity} {timestamp : Nat} {row : PeriodRow}
    (member : row ∈ (observedPeriods periods cameraUuid identity timestamp fresh).1) :
    (∃ before ∈ periods, row.periodUuid = before.periodUuid ∧
      row.cameraUuid = before.cameraUuid ∧ row.startedAt = before.startedAt) ∨
      row = ⟨fresh, cameraUuid, identity, timestamp, none, identity⟩ := by
  have unchanged (isRow : row ∈ periods) : ∃ before ∈ periods,
      row.periodUuid = before.periodUuid ∧ row.cameraUuid = before.cameraUuid ∧
        row.startedAt = before.startedAt := ⟨row, isRow, rfl, rfl, rfl⟩
  simp only [observedPeriods] at member
  split at member
  · exact .inl (unchanged member)
  · split at member
    · rcases List.mem_append.mp member with isRow | isAdded
      · exact .inl (unchanged isRow)
      · exact .inr (List.mem_singleton.mp isAdded)
    · split at member
      · rcases List.mem_append.mp member with updated | isAdded
        · rcases mem_updateRow.mp updated with ⟨isRow, _⟩ | ⟨before, isBefore, _, rfl⟩
          · exact .inl (unchanged isRow)
          · exact .inl ⟨before, isBefore, rfl, rfl, rfl⟩
        · exact .inr (List.mem_singleton.mp isAdded)
      · split at member
        · exact .inl (unchanged member)
        · rcases mem_updateRow.mp member with ⟨isRow, _⟩ | ⟨before, isBefore, _, rfl⟩
          · exact .inl (unchanged isRow)
          · exact .inl ⟨before, isBefore, rfl, rfl, rfl⟩

section
variable [TextCase] [UrlText]

omit [UrlText] in
theorem observe_periods (store : IdentityStore) (cameraUuid : String)
    (candidate carried : Sighting) (timestamp : Nat) (fresh : String) :
    (store.observe cameraUuid candidate carried timestamp fresh).1.periods =
      (observedPeriods store.periods cameraUuid (candidateIdentity candidate) timestamp
        fresh).1 := by
  rw [IdentityStore.observe]

omit [UrlText] in
theorem observe_clocks (store : IdentityStore) (cameraUuid : String)
    (candidate carried : Sighting) (timestamp : Nat) (fresh other : String) :
    (store.observe cameraUuid candidate carried timestamp fresh).1.clocks other =
      if other = cameraUuid then timestamp else store.clocks other := by
  rw [IdentityStore.observe]

omit [UrlText] in
theorem observe_applied (store : IdentityStore) (cameraUuid : String)
    (candidate carried : Sighting) (timestamp : Nat) (fresh : String) :
    (store.observe cameraUuid candidate carried timestamp fresh).1.applied =
      store.applied ++ [⟨cameraUuid, candidateIdentity carried,
        (store.observe cameraUuid candidate carried timestamp fresh).1.periods⟩] := by
  rw [IdentityStore.observe]

omit [UrlText] in
theorem HistoryInvariant.observe {store : IdentityStore} (invariant : HistoryInvariant store)
    {cameraUuid fresh : String} {candidate carried : Sighting} {timestamp : Nat}
    (timely : store.clocks cameraUuid ≤ timestamp)
    (isFresh : ∀ row ∈ store.periods, row.periodUuid ≠ fresh)
    (carries : Extends (candidateIdentity candidate).known (candidateIdentity carried).known) :
    HistoryInvariant (store.observe cameraUuid candidate carried timestamp fresh).1 := by
  have periods := observe_periods store cameraUuid candidate carried timestamp fresh
  have clocks := observe_clocks store cameraUuid candidate carried timestamp fresh
  have applied := observe_applied store cameraUuid candidate carried timestamp fresh
  generalize (store.observe cameraUuid candidate carried timestamp fresh).1 = next
    at periods clocks applied ⊢
  have observed := observedPeriods_observed (candidateIdentity candidate) timestamp fresh
    invariant.distinct (invariant.timelines cameraUuid)
  have kept := observedPeriods_kept cameraUuid (candidateIdentity candidate) timestamp fresh
    invariant.distinct
  have started (row : PeriodRow) (member : row ∈ periodsOf store.periods cameraUuid) :
      row.startedAt ≤ timestamp := by
    obtain ⟨isRow, owned⟩ := List.mem_filter.mp member
    have before := invariant.timely row isRow
    rw [of_decide_eq_true owned] at before
    omega
  have timeline := (invariant.timelines cameraUuid).observed observed started
  rw [← periods] at kept timeline
  constructor
  · rw [periods]
    exact observedPeriods_distinct cameraUuid _ timestamp invariant.distinct isFresh
  · intro other
    by_cases same : cameraUuid = other
    · exact same ▸ timeline
    · rw [periods, observedPeriods_others _ _ _ _ invariant.distinct same]
      exact invariant.timelines other
  · intro row member
    rw [periods] at member
    rw [clocks]
    rcases observedPeriods_member member with ⟨before, isBefore, _, sameCamera, sameStart⟩ | added
    · have earlier := invariant.timely before isBefore
      rw [sameCamera, sameStart]
      split
      · rename_i isCamera
        rw [isCamera] at earlier
        omega
      · exact earlier
    · simp [added]
  · intro entry member
    rw [applied, List.mem_append, List.mem_singleton] at member
    rcases member with isOld | isNew
    · obtain ⟨agrees, keptEntry⟩ := invariant.agreed entry isOld
      exact ⟨agrees, keptEntry.trans kept⟩
    · rw [isNew]
      refine ⟨?_, .refl _⟩
      intro isKnown
      have candidateKnown : candidateIdentity candidate ≠ {} := by
        intro unknown
        rw [unknown] at carries
        exact isKnown (known_nothing carries)
      rw [← periods] at observed
      obtain ⟨earlier, last, split, knows⟩ := observed.last candidateKnown
      exact ⟨last, openPeriod_last timeline split, carries.trans knows⟩

omit [UrlText] in
theorem observe_kept {store : IdentityStore} (invariant : HistoryInvariant store)
    (cameraUuid : String) (candidate carried : Sighting) (timestamp : Nat) (fresh : String) :
    KeptPeriods store.periods
      (store.observe cameraUuid candidate carried timestamp fresh).1.periods := by
  rw [observe_periods]
  exact observedPeriods_kept cameraUuid _ timestamp fresh invariant.distinct

/-! The callers. -/

/-- A state that keeps the history of an earlier one. -/
structure Continues (store next : IdentityStore) : Prop where
  invariant : HistoryInvariant next
  kept : KeptPeriods store.periods next.periods

omit [TextCase] [UrlText] in
/-- The history says nothing about the cameras and the saved identities. -/
theorem HistoryInvariant.other {store next : IdentityStore} (invariant : HistoryInvariant store)
    (periods : next.periods = store.periods) (clocks : next.clocks = store.clocks)
    (applied : next.applied = store.applied) : HistoryInvariant next := by
  constructor
  · exact periods ▸ invariant.distinct
  · exact periods ▸ invariant.timelines
  · exact periods ▸ clocks ▸ invariant.timely
  · exact periods ▸ applied ▸ invariant.agreed

omit [UrlText] in
theorem HistoryInvariant.observed {store : IdentityStore} (invariant : HistoryInvariant store)
    {cameraUuid fresh : String} {candidate carried : Sighting} {timestamp : Nat}
    (timely : store.clocks cameraUuid ≤ timestamp)
    (isFresh : ∀ row ∈ store.periods, row.periodUuid ≠ fresh)
    (carries : Extends (candidateIdentity candidate).known (candidateIdentity carried).known) :
    Continues store (store.observe cameraUuid candidate carried timestamp fresh).1 :=
  ⟨invariant.observe timely isFresh carries, observe_kept invariant _ _ _ _ _⟩

omit [UrlText] in
theorem observeListed_continues {advanceExisting : List String} {timestamp : Nat}
    {uuids : Nat → String} (injective : Function.Injective uuids)
    (observations : List (String × Device)) (store : IdentityStore) (initialized : List String)
    (position : Nat) (invariant : HistoryInvariant store)
    (timely : ∀ observation ∈ observations, store.clocks observation.1 ≤ timestamp)
    (isFresh : ∀ row ∈ store.periods, ∀ later, position ≤ later → row.periodUuid ≠ uuids later) :
    Continues store
      (observeListed advanceExisting timestamp uuids store initialized observations position) := by
  induction observations generalizing store initialized position with
  | nil => exact ⟨invariant, .refl _⟩
  | cons observation rest ih =>
      rw [observeListed]
      split
      · apply ih store initialized (position + 1) invariant
        · exact fun other member => timely other (List.mem_cons_of_mem _ member)
        · exact fun row member later bound => isFresh row member later (by omega)
      · have observed : Continues store (store.observe observation.1 observation.2.toSighting
            observation.2.toSighting timestamp (uuids position)).1 :=
          invariant.observed (timely observation List.mem_cons_self)
            (fun row member => isFresh row member position (le_refl _)) (Extends.refl _)
        have periods := observe_periods store observation.1 observation.2.toSighting
          observation.2.toSighting timestamp (uuids position)
        have clocks := observe_clocks store observation.1 observation.2.toSighting
          observation.2.toSighting timestamp (uuids position)
        generalize store.observe observation.1 observation.2.toSighting
          observation.2.toSighting timestamp (uuids position) = next at observed periods clocks ⊢
        have continued := ih next.1 (if next.2 then observation.1 :: initialized else initialized)
          (position + 1) observed.invariant ?_ ?_
        · exact ⟨continued.invariant, observed.kept.trans continued.kept⟩
        · intro other member
          rw [clocks]
          split
          · exact le_refl _
          · exact timely other (List.mem_cons_of_mem _ member)
        · intro row member later bound
          rw [periods] at member
          rcases observedPeriods_member member with ⟨before, isBefore, same, _⟩ | added
          · rw [same]
            exact isFresh before isBefore later (by omega)
          · rw [added]
            intro same
            have impossible := injective same
            omega

omit [UrlText] in
/-- The saved keys complete a candidate and replace nothing it has. -/
theorem withSavedKeys_carries (saved candidate : Device) :
    Extends (candidateIdentity (withSavedKeys saved candidate).toSighting).known
      (candidateIdentity candidate.toSighting).known := by
  intro field value knows
  cases field with
  | ip =>
      have unchanged : (withSavedKeys saved candidate).ip = candidate.ip := by
        simp [withSavedKeys]
      simpa [Identity.known, candidateIdentity, unchanged] using knows
  | mac =>
      have macKnown : (candidateStableIdentity candidate.toSighting).2 = some value := knows
      have unchanged : (withSavedKeys saved candidate).mac = candidate.mac := by
        simp [withSavedKeys, macKnown]
      simpa [Identity.known, candidateIdentity, candidateStableIdentity, unchanged] using knows
  | onvif =>
      have onvifKnown : (candidateStableIdentity candidate.toSighting).1 = some value := knows
      have unchanged : (withSavedKeys saved candidate).onvif = candidate.onvif := by
        simp [withSavedKeys, onvifKnown]
      simpa [Identity.known, candidateIdentity, candidateStableIdentity, unchanged] using knows

theorem adoptCandidate_cases {store next : IdentityStore} {candidate : Device}
    {request : AdoptRequest} {timestamp : Nat} {uuids : Nat → String} {fresh : String}
    (done : store.adoptCandidate candidate request timestamp uuids fresh = .ok next) :
    ∃ repository, next = { store with repository := repository } ∨
      next = (IdentityStore.observe { store with repository := repository }
        (adoptedUuid store.repository candidate.candidateUuid (uuids 0)) candidate.toSighting
        candidate.toSighting timestamp fresh).1 := by
  simp only [IdentityStore.adoptCandidate, bind, Except.bind] at done
  split at done
  · cases done
  · rename_i repository _
    refine ⟨repository, ?_⟩
    split at done
    · exact .inr (Except.ok.inj done).symm
    · exact .inl (Except.ok.inj done).symm

omit [UrlText] in
theorem bindCameraIdentity_cases {store next : IdentityStore} {cameraUuid : String}
    {candidate : Device} {timestamp : Nat} {fresh : String}
    (done : store.bindCameraIdentity cameraUuid candidate timestamp fresh = .ok next) :
    ∃ value : Device, Extends (candidateIdentity value.toSighting).known
        (candidateIdentity candidate.toSighting).known ∧
      next = (IdentityStore.observe { store with links := setKey store.links cameraUuid value }
        cameraUuid value.toSighting candidate.toSighting timestamp fresh).1 := by
  simp only [IdentityStore.bindCameraIdentity, bind, Except.bind, pure, Except.pure, throw,
    throwThe, MonadExceptOf.throw] at done
  -- The last check is the same with and without an open period.
  have linked (value : Device) (carries : Extends (candidateIdentity value.toSighting).known
        (candidateIdentity candidate.toSighting).known)
      (isNext : Except.ok (IdentityStore.observe
        { store with links := setKey store.links cameraUuid value } cameraUuid value.toSighting
        candidate.toSighting timestamp fresh).1 = (Except.ok next : Except StorageError _)) :
      ∃ value : Device, Extends (candidateIdentity value.toSighting).known
          (candidateIdentity candidate.toSighting).known ∧
        next = (IdentityStore.observe { store with links := setKey store.links cameraUuid value }
          cameraUuid value.toSighting candidate.toSighting timestamp fresh).1 :=
    ⟨value, carries, (Except.ok.inj isNext).symm⟩
  cases saved : store.links.lookup cameraUuid with
  | none =>
      simp only [saved] at done
      split at done
      · cases done
      · split at done
        · cases done
        · split at done
          · split at done
            · cases done
            · exact linked candidate (Extends.refl _) done
          · exact linked candidate (Extends.refl _) done
  | some device =>
      simp only [saved] at done
      split at done
      · cases done
      · split at done
        · cases done
        · split at done
          · split at done
            · cases done
            · split at done
              · exact linked _ (withSavedKeys_carries device candidate) done
              · cases done
          · split at done
            · exact linked _ (withSavedKeys_carries device candidate) done
            · cases done

/-- A fresh uuid for every period, and no time before the last observation of a camera. -/
structure TimelyCall (store : IdentityStore) (call : IdentityCall) : Prop where
  timely : ∀ cameraUuid ∈ call.cameras store, store.clocks cameraUuid ≤ call.timestamp
  injective : Function.Injective call.periodUuids
  isFresh : ∀ row ∈ store.periods, ∀ position, row.periodUuid ≠ call.periodUuids position

theorem HistoryInvariant.call {store : IdentityStore} (invariant : HistoryInvariant store)
    {call : IdentityCall} (timelyCall : TimelyCall store call) :
    Continues store (store.call call) := by
  obtain ⟨timely, injective, isFresh⟩ := timelyCall
  have unchanged : Continues store store := ⟨invariant, .refl _⟩
  obtain ⟨action, timestamp, uuids, periodUuids⟩ := call
  cases action with
  | adopt candidate request =>
      simp only [IdentityStore.call]
      cases done : store.adoptCandidate candidate request timestamp uuids (periodUuids 0) with
      | error _ => exact unchanged
      | ok next =>
          obtain ⟨repository, adopted | observed⟩ := adoptCandidate_cases done
          · subst adopted
            exact ⟨invariant.other rfl rfl rfl, .refl _⟩
          · subst observed
            have named : HistoryInvariant { store with repository := repository } :=
              invariant.other rfl rfl rfl
            have observed := named.observed (timely _ List.mem_cons_self)
              (fun row member => isFresh row member 0)
              (Extends.refl (candidateIdentity candidate.toSighting).known)
            exact ⟨observed.invariant, observed.kept⟩
  | observeCamera cameraUuid candidate =>
      simp only [IdentityStore.call, IdentityStore.observeCameraIdentity]
      cases store.repository.camera cameraUuid with
      | none => exact unchanged
      | some _ =>
          exact invariant.observed (timely cameraUuid List.mem_cons_self)
            (fun row member => isFresh row member 0) (Extends.refl _)
  | observeInventory observations advanceExisting =>
      apply observeListed_continues injective observations store _ 0 invariant
      · intro observation member
        exact timely observation.1 (List.mem_map_of_mem member)
      · exact fun row member later _ => isFresh row member later
  | bind cameraUuid candidate =>
      simp only [IdentityStore.call]
      cases done : store.bindCameraIdentity cameraUuid candidate timestamp (periodUuids 0) with
      | error _ => exact unchanged
      | ok next =>
          obtain ⟨value, carries, bound⟩ := bindCameraIdentity_cases done
          subst bound
          have linked : HistoryInvariant
              { store with links := setKey store.links cameraUuid value } :=
            invariant.other rfl rfl rfl
          have observed := linked.observed (timely cameraUuid List.mem_cons_self)
            (fun row member => isFresh row member 0) carries
          exact ⟨observed.invariant, observed.kept⟩

abbrev IdentityRun (start store : IdentityStore) : Prop :=
  Reaches (fun state call next => next = state.call call) TimelyCall start store

theorem HistoryInvariant.run {start store : IdentityStore} (run : IdentityRun start store)
    (initial : HistoryInvariant start) : HistoryInvariant store := by
  apply run.invariant _ initial
  rintro state call _ invariant timelyCall rfl
  exact (invariant.call timelyCall).invariant

theorem keptPeriods_run {start store : IdentityStore} (run : IdentityRun start store)
    (initial : HistoryInvariant start) : KeptPeriods start.periods store.periods := by
  apply run.related HistoryInvariant (fun first last => KeptPeriods first.periods last.periods)
    initial
  · rintro state call _ invariant timelyCall rfl
    exact (invariant.call timelyCall).invariant
  · exact .refl _
  · rintro state call _ invariant kept timelyCall rfl
    exact kept.trans (invariant.call timelyCall).kept

/-- Whatever is observed, and by whichever caller, the periods of every camera are a timeline,
agree with each observation directly after it, and forget nothing they knew. -/
theorem identity_history_timeline {start store : IdentityStore}
    (noPeriods : start.periods = []) (noneApplied : start.applied = [])
    (run : IdentityRun start store) :
    (∀ cameraUuid, Timeline (periodsOf store.periods cameraUuid)) ∧
      (∀ entry ∈ store.applied, entry.Agrees ∧ KeptPeriods entry.periods store.periods) ∧
      ∀ later, IdentityRun store later → KeptPeriods store.periods later.periods := by
  have initial : HistoryInvariant start := by
    constructor
    · simp [noPeriods, Unique]
    · intro cameraUuid
      rw [noPeriods]
      exact timeline_empty
    · simp [noPeriods]
    · simp [noneApplied]
  have invariant := initial.run run
  exact ⟨invariant.timelines, invariant.agreed, fun later next => keptPeriods_run next invariant⟩

end

/-! The front door, whose MAC is later seen to be another one. -/

def frontDoorSighting (mac : String) : Device where
  candidateUuid := "front"
  ip := "10.0.0.5"
  mac := some mac

def frontDoorCalls : List IdentityCall :=
  [⟨.adopt (frontDoorSighting "02:00:00:00:00:05") frontDoor, 1, uuidSupply 'a', uuidSupply 'p'⟩,
    ⟨.observeCamera "a" (frontDoorSighting "02:00:00:00:00:06").toSighting, 2, uuidSupply 'b',
      uuidSupply 'q'⟩]

theorem contradicted_frontDoor_timeline :
    let _ := asciiCase
    let _ := plainUrls
    ((frontDoorCalls.foldl IdentityStore.call {}).periods.map (·.endedAt)) = [some 2, none] ∧
      Timeline (periodsOf (frontDoorCalls.foldl IdentityStore.call {}).periods "a") := by
  let _ := asciiCase
  let _ := plainUrls
  refine ⟨by decide +kernel, ?_⟩
  have unused {store : IdentityStore} {letter : Char}
      (others : ∀ row ∈ store.periods, row.periodUuid.toList.head? ≠ some letter) :
      ∀ row ∈ store.periods, ∀ position, row.periodUuid ≠ uuidSupply letter position :=
    fun row member position same =>
      others row member (same ▸ uuidSupply_head letter position)
  have permitted : Permitted IdentityStore.call TimelyCall {} frontDoorCalls := by
    refine ⟨⟨?_, uuidSupply_injective 'p', unused (by simp)⟩,
      ⟨?_, uuidSupply_injective 'q', unused (by decide +kernel)⟩, trivial⟩
    · exact fun _ _ => Nat.zero_le 1
    · decide +kernel
  exact (identity_history_timeline rfl rfl (Reaches.of_permitted permitted)).1 "a"

end CamAdmiral
