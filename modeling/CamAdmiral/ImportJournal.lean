import CamAdmiral.ImportManaged

/-!
The journal of one target as the records of the import custody. A camera is in one row, and a
row without a camera is a handoff. Saving a row, writing its part of Frigate and dropping the
row keep the account.
-/

namespace CamAdmiral

/-! The tables of the journal. -/

structure JournalRows (targetId : String) (tables : FrigateTables) : Prop where
  links : Unique LinkRow.owner tables.links
  handoffs : Unique LinkRow.owner tables.handoffs
  linked : ∀ link ∈ tables.links, link.targetId = targetId → link.payload.cameraUuid ≠ none
  pending : ∀ link ∈ tables.handoffs, link.targetId = targetId → link.payload.cameraUuid = none
  distinct : ∀ link ∈ tables.links, ∀ other ∈ tables.links, link.targetId = targetId →
    other.targetId = targetId → link.payload.cameraUuid = other.payload.cameraUuid →
      link.cameraKey = other.cameraKey

section
variable {targetId key other : String} {tables later : FrigateTables} {row otherRow : ImportRow}

theorem JournalRows.of_journal (journal : JournalRows targetId tables)
    (links : later.links = tables.links) (handoffs : later.handoffs = tables.handoffs) :
    JournalRows targetId later where
  links := links ▸ journal.links
  handoffs := handoffs ▸ journal.handoffs
  linked := links ▸ journal.linked
  pending := handoffs ▸ journal.pending
  distinct := links ▸ journal.distinct

theorem JournalRows.delete (journal : JournalRows targetId tables) (key : String) :
    JournalRows targetId (tables.deleteLink targetId key) where
  links := journal.links.filter _
  handoffs := journal.handoffs.filter _
  linked link isLink := journal.linked link (List.mem_filter.mp isLink).1
  pending link isLink := journal.pending link (List.mem_filter.mp isLink).1
  distinct link isLink other isOther :=
    journal.distinct link (List.mem_filter.mp isLink).1 other (List.mem_filter.mp isOther).1

/-- A row with a camera is a link. -/
theorem JournalRows.link_of (journal : JournalRows targetId tables)
    (isRow : tables.importLink targetId key = some row) (isCamera : row.cameraUuid ≠ none) :
    ∃ link ∈ tables.links, link.targetId = targetId ∧ link.cameraKey = key ∧
      link.payload = row := by
  obtain ⟨link, isLink, rfl⟩ := Option.map_eq_some_iff.mp isRow
  rcases Option.or_eq_some_iff.mp isLink with isSaved | ⟨_, isPending⟩
  · obtain ⟨member, isOwner⟩ := rowAt_some isSaved
    obtain ⟨rfl, rfl⟩ := Prod.mk.inj isOwner
    exact ⟨link, member, rfl, rfl, rfl⟩
  · obtain ⟨member, isOwner⟩ := rowAt_some isPending
    obtain ⟨isTarget, rfl⟩ := Prod.mk.inj isOwner
    exact absurd (journal.pending link member isTarget) isCamera

theorem mem_savedRows {rows : List LinkRow} {link : LinkRow} {value : ImportRow}
    (member : link ∈ upsertRow LinkRow.owner ⟨targetId, key, value⟩
      (fun row => { row with payload := value }) rows) :
    (link ∈ rows ∧ link.owner ≠ (targetId, key)) ∨ link = ⟨targetId, key, value⟩ := by
  rw [upsertRow] at member
  split at member
  · rcases mem_updateRow.mp member with isOld | ⟨original, _, isOwner, rfl⟩
    · exact .inl isOld
    · obtain ⟨rfl, rfl⟩ := Prod.mk.inj isOwner
      exact .inr rfl
  · rename_i isNew
    rcases List.mem_append.mp member with isOld | isAdded
    · exact .inl ⟨isOld, rowAt_none.mp (Option.not_isSome_iff_eq_none.mp isNew) link isOld⟩
    · exact .inr (List.mem_singleton.mp isAdded)

theorem JournalRows.save (journal : JournalRows targetId tables)
    (isSaved : tables.saveLink targetId key row = some later) : JournalRows targetId later := by
  obtain ⟨_, _, isSaved⟩ := Option.bind_eq_some_iff.mp isSaved
  split at isSaved
  · rename_i noCamera
    obtain rfl := Option.some.inj isSaved
    refine { journal with handoffs := journal.handoffs.upsertRow _ fun _ => rfl, pending := ?_ }
    intro link isLink isTarget
    rcases mem_savedRows isLink with ⟨isOld, _⟩ | rfl
    · exact journal.pending link isOld isTarget
    · exact noCamera
  · rename_i cameraUuid isCamera
    split at isSaved
    · cases isSaved
    rename_i isFree
    obtain rfl := Option.some.inj isSaved
    simp only [List.any_eq_true, Bool.and_eq_true, decide_eq_true_eq, not_exists, not_and]
      at isFree
    refine ⟨journal.links.upsertRow _ fun _ => rfl, journal.handoffs.filter _, ?_, ?_, ?_⟩
    · intro link isLink isTarget
      rcases mem_savedRows isLink with ⟨isOld, _⟩ | rfl
      · exact journal.linked link isOld isTarget
      · rw [isCamera]
        exact Option.some_ne_none cameraUuid
    · exact fun link isLink => journal.pending link (List.mem_filter.mp isLink).1
    · intro link isLink other isOther isTarget otherTarget same
      rcases mem_savedRows isLink with ⟨isOld, notKey⟩ | rfl <;>
        rcases mem_savedRows isOther with ⟨otherOld, otherKey⟩ | rfl
      · exact journal.distinct link isOld other otherOld isTarget otherTarget same
      · refine absurd (same.trans isCamera)
          (isFree link isOld ⟨isTarget, fun sameKey => notKey ?_⟩)
        rw [LinkRow.owner, isTarget, sameKey]
      · refine absurd (same.symm.trans isCamera)
          (isFree other otherOld ⟨otherTarget, fun sameKey => otherKey ?_⟩)
        rw [LinkRow.owner, otherTarget, sameKey]
      · rfl

/-- A saved row is what is found, unless a handoff takes the place of a camera. -/
theorem importLink_saveLink (journal : JournalRows targetId tables)
    (isSaved : tables.saveLink targetId key row = some later)
    (keeps : row.cameraUuid = none → ∀ earlier, tables.importLink targetId key = some earlier →
      earlier.cameraUuid = none) : later.importLink targetId key = some row := by
  have found (rows : List LinkRow) : rowAt LinkRow.owner
      (upsertRow LinkRow.owner ⟨targetId, key, row⟩ (fun held => { held with payload := row })
        rows) (targetId, key) = some ⟨targetId, key, row⟩ := by
    have sameOwner : ∀ held : LinkRow, LinkRow.owner { held with payload := row } = held.owner :=
      fun _ => rfl
    refine (rowAt_upsertRow rows sameOwner _).trans ((if_pos rfl).trans ?_)
    cases isHeld : rowAt LinkRow.owner rows (targetId, key) with
    | none => rfl
    | some held =>
        obtain ⟨rfl, rfl⟩ := Prod.mk.inj (rowAt_some isHeld).2
        rfl
  obtain ⟨_, _, isSaved⟩ := Option.bind_eq_some_iff.mp isSaved
  split at isSaved
  · rename_i noCamera
    obtain rfl := Option.some.inj isSaved
    have absent : rowAt LinkRow.owner tables.links (targetId, key) = none := by
      cases isLink : rowAt LinkRow.owner tables.links (targetId, key) with
      | none => rfl
      | some link =>
          obtain ⟨member, isOwner⟩ := rowAt_some isLink
          have isRow : tables.importLink targetId key = some link.payload := by
            rw [FrigateTables.importLink, isLink]
            rfl
          exact absurd (keeps noCamera _ isRow)
            (journal.linked link member (Prod.mk.inj isOwner).1)
    rw [FrigateTables.importLink, absent, found]
    rfl
  · split at isSaved
    · cases isSaved
    · obtain rfl := Option.some.inj isSaved
      rw [FrigateTables.importLink, found]
      rfl

/-- The camera of a row is in no other row. -/
theorem JournalRows.own_camera {cameraUuid : String} (journal : JournalRows targetId tables)
    (isRow : tables.importLink targetId key = some row)
    (isCamera : row.cameraUuid = some cameraUuid) :
    ∀ link ∈ tables.links, link.targetId = targetId → link.cameraKey ≠ key →
      link.payload.cameraUuid ≠ some cameraUuid := by
  intro link isLink isTarget isOther isTaken
  obtain ⟨held, isHeld, heldTarget, rfl, rfl⟩ := journal.link_of isRow
    (isCamera ▸ Option.some_ne_none cameraUuid)
  exact isOther (journal.distinct link isLink held isHeld isTarget heldTarget
    (isTaken.trans isCamera.symm))

/-- The row can be saved under the key. -/
structure Savable (targetId key : String) (row : ImportRow) (tables : FrigateTables) : Prop where
  target : (tables.target targetId).isSome = true
  free : ∀ link ∈ tables.links, link.targetId = targetId → link.cameraKey ≠ key →
    ∀ cameraUuid, row.cameraUuid = some cameraUuid → link.payload.cameraUuid ≠ some cameraUuid

theorem Savable.saves {targetId key : String} {row : ImportRow} {tables : FrigateTables}
    (savable : Savable targetId key row tables) :
    ∃ later, tables.saveLink targetId key row = some later := by
  obtain ⟨target, isTarget⟩ := Option.isSome_iff_exists.mp savable.target
  unfold FrigateTables.saveLink
  rw [isTarget, Option.bind_some]
  split
  · exact ⟨_, rfl⟩
  · rename_i cameraUuid isCamera
    have isFree : ¬ (tables.links.any fun link => link.targetId = targetId &&
        link.cameraKey ≠ key && link.payload.cameraUuid = some cameraUuid) = true := by
      intro isTaken
      obtain ⟨link, isLink, taken⟩ := List.any_eq_true.mp isTaken
      simp only [Bool.and_eq_true, decide_eq_true_eq] at taken
      exact savable.free link isLink taken.1.1 taken.1.2 cameraUuid isCamera taken.2
    rw [if_neg isFree]
    exact ⟨_, rfl⟩

/-- The camera of a saved row is in no other row. -/
theorem saveLink_alone (journal : JournalRows targetId tables)
    (isSaved : tables.saveLink targetId key row = some later) (isOther : other ≠ key)
    (isRow : tables.importLink targetId other = some otherRow)
    (isCamera : row.cameraUuid ≠ none) : otherRow.cameraUuid ≠ row.cameraUuid := by
  intro same
  obtain ⟨link, member, isTarget, rfl, rfl⟩ := journal.link_of isRow (same ▸ isCamera)
  obtain ⟨_, _, isSaved⟩ := Option.bind_eq_some_iff.mp isSaved
  split at isSaved
  · exact isCamera (by assumption)
  · rename_i cameraUuid isUuid
    split at isSaved
    · cases isSaved
    rename_i isFree
    refine isFree (List.any_eq_true.mpr ⟨link, member, ?_⟩)
    simp [isTarget, isOther, same, isUuid]

end

/-! The account of the journal. -/

section
variable [RelayUrls]

/-- Every difference between Frigate and its start is in the custody of a row. -/
structure Sound (start : RawConfig) (targetId : String) (tables : FrigateTables)
    (raw : RawConfig) : Prop where
  journal : JournalRows targetId tables
  accounts : (importCustody start).Accounts start.at (tables.importLink targetId) raw.at

variable {start raw changed : RawConfig} {targetId key name : String}
  {tables later : FrigateTables} {row : ImportRow}

namespace Sound

theorem kept (sound : Sound start targetId tables raw)
    (isRow : tables.importLink targetId key = some row) :
    row.key = key ∧ row.Fits start ∧ row.Records start ∧ row.Stands start raw.at :=
  sound.accounts.kept isRow

theorem of_journal (sound : Sound start targetId tables raw) (links : later.links = tables.links)
    (handoffs : later.handoffs = tables.handoffs) : Sound start targetId later raw where
  journal := sound.journal.of_journal links handoffs
  accounts := sound.accounts.congr (fun key => by
    rw [FrigateTables.importLink, links, handoffs, FrigateTables.importLink]) fun _ => rfl

/-- A request that writes to the part of a row. -/
theorem write (sound : Sound start targetId tables raw)
    (isRow : tables.importLink targetId row.key = some row) (only : row.Only start raw changed)
    (stands : row.Stands start changed.at) : Sound start targetId tables changed where
  journal := sound.journal
  accounts := by
    obtain ⟨_, fits, records, _⟩ := sound.kept isRow
    exact sound.accounts.write isRow (fun place outside => only place fun holds =>
      outside ⟨rfl, holds⟩) ⟨rfl, fits, records, stands⟩

/-- The part of a row has been put back, and the row is dropped. -/
theorem drop (sound : Sound start targetId tables raw)
    (isRow : tables.importLink targetId row.key = some row)
    (shown : row.Shown start raw.at row.original []) :
    Sound start targetId (tables.deleteLink targetId row.key) raw where
  journal := sound.journal.delete row.key
  accounts := by
    obtain ⟨_, _, records, _⟩ := sound.kept isRow
    refine sound.accounts.drop (importLink_deleteLink _ _ _)
      (fun other isOther => importLink_deleteLink_other _ isOther.symm) ?_
    intro earlier place isEarlier inPart
    obtain rfl := Option.some.inj (isEarlier.symm.trans isRow)
    obtain ⟨_, rfl | ⟨name, rfl, concerns⟩⟩ := inPart
    · exact RawConfig.at_camera.mpr (shown.camera.trans records.original.symm)
    · exact RawConfig.at_stream.mpr (shown.stream_original concerns List.not_mem_nil)

end Sound

/-! Saving a row. -/

/-- What a row is saved over: nothing, or a row that did not have another camera. -/
def ImportRow.Follows (row : ImportRow) (earlier : Option ImportRow) : Prop :=
  ∀ previous, earlier = some previous →
    previous.cameraUuid = none ∨ previous.cameraUuid = row.cameraUuid

section
variable (operator : OperatorConfig start) (sound : Sound start targetId tables raw)
  (fits : row.Fits start) (isSaved : tables.saveLink targetId row.key row = some later)

include operator sound fits isSaved in
/-- What a saved row concerns concerns no other row. -/
theorem Sound.save_apart {other : String} {otherRow : ImportRow} (isOther : other ≠ row.key)
    (isRow : tables.importLink targetId other = some otherRow)
    (concerns : row.Concerns start name) : ¬ otherRow.Concerns start name := by
  obtain ⟨rfl, otherFits, _, _⟩ := sound.kept isRow
  intro otherConcerns
  rcases concerns with uses | takes
  · exact isOther (operator.concerns_uses uses otherConcerns)
  · rcases otherConcerns with otherUses | otherTakes
    · exact isOther (operator.concerns_uses otherUses (.inr takes)).symm
    · obtain ⟨first, isFirst, inFirst⟩ := takes
      obtain ⟨second, isSecond, inSecond⟩ := otherTakes
      obtain rfl := importAliases_distinct (fits.uuid first isFirst)
        (otherFits.uuid second isSecond) inFirst inSecond
      refine saveLink_alone sound.journal isSaved isOther isRow ?_ (isSecond.trans isFirst.symm)
      rw [isFirst]
      exact Option.some_ne_none first

include operator sound fits isSaved in
/-- The relay aliases that a saved row adds are not in Frigate. -/
theorem Sound.save_relay (takes : row.Takes name)
    (isNew : ∀ previous, tables.importLink targetId row.key = some previous →
      ¬ previous.Takes name) : raw.streams.lookup name = none := by
  refine (relay_of_accounts sound.accounts operator takes.owned ?_).trans
    (operator.takes_absent takes)
  intro holder held isHeld heldTakes
  by_cases same : holder = row.key
  · subst same
    exact isNew held isHeld heldTakes
  · exact sound.save_apart operator fits isSaved same isHeld (.inr takes) (.inr heldTakes)

include operator sound fits isSaved in
theorem Sound.save (records : row.Records start)
    (follows : row.Follows (tables.importLink targetId row.key))
    (stands : row.Stands start raw.at) : Sound start targetId later raw where
  journal := sound.journal.save isSaved
  accounts := by
    have isStored : later.importLink targetId row.key = some row := by
      refine importLink_saveLink sound.journal isSaved fun noCamera earlier isEarlier => ?_
      exact (follows earlier isEarlier).elim id fun same => same.trans noCamera
    refine sound.accounts.save isStored
      (fun other isOther => importLink_saveLink_other isOther.symm isSaved) ?_ ?_
      ⟨rfl, fits, records, stands⟩
    · rintro other otherRow place isOther isRow ⟨_, inRow⟩ ⟨isKey, inOther⟩
      rcases inRow with rfl | ⟨name, rfl, concerns⟩
      · rcases inOther with same | ⟨_, never, _⟩
        · exact isOther (Place.camera.inj same).symm
        · cases never
      · rcases inOther with never | ⟨_, same, otherConcerns⟩
        · cases never
        · obtain rfl := Place.stream.inj same
          exact sound.save_apart operator fits isSaved isOther isRow concerns otherConcerns
    · rintro earlier place isEarlier ⟨isKey, inEarlier⟩
      refine .inl ⟨rfl, ?_⟩
      rcases inEarlier with isCamera | ⟨name, isName, concerns⟩
      · exact .inl isCamera
      · refine .inr ⟨name, isName, ?_⟩
        rcases concerns with uses | ⟨cameraUuid, isCamera, isAlias⟩
        · exact .inl (isKey ▸ uses)
        · rcases follows earlier isEarlier with noCamera | same
          · rw [noCamera] at isCamera
            cases isCamera
          · exact .inr ⟨cameraUuid, same ▸ isCamera, isAlias⟩

end

end

end CamAdmiral
