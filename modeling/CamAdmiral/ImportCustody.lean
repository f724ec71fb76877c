import CamAdmiral.ConfigWrites
import CamAdmiral.Custody
import CamAdmiral.ImportExecution
import CamAdmiral.OperatorConfig

/-!
What a row of the import journal stands for. It records the entry of the operator and the
sources of the aliases that the import may change, and Frigate shows one of three things there:
the original, the paused entry, or the takeover. From each of them the row leads back.
-/

namespace CamAdmiral

/-- An entry or an alias of a saved configuration. -/
inductive Place
  | camera (key : String)
  | stream (name : String)
  deriving DecidableEq, Repr

def RawConfig.at (raw : RawConfig) : Place → Option (CameraEntry ⊕ List String)
  | .camera key => (raw.cameras.lookup key).map .inl
  | .stream name => (raw.streams.lookup name).map .inr

theorem RawConfig.at_camera {raw other : RawConfig} {key : String} :
    raw.at (.camera key) = other.at (.camera key) ↔
      raw.cameras.lookup key = other.cameras.lookup key :=
  (Option.map_injective Sum.inl_injective).eq_iff

theorem RawConfig.at_stream {raw other : RawConfig} {name : String} :
    raw.at (.stream name) = other.at (.stream name) ↔
      raw.streams.lookup name = other.streams.lookup name :=
  (Option.map_injective Sum.inr_injective).eq_iff

/-! The relay aliases of an import. -/

/-- A relay alias of the row's camera. -/
def ImportRow.Takes (row : ImportRow) (name : String) : Prop :=
  ∃ cameraUuid, row.cameraUuid = some cameraUuid ∧ name ∈ (importAliases cameraUuid).map Prod.snd

theorem importAliases_owned {cameraUuid name : String}
    (isAlias : name ∈ (importAliases cameraUuid).map Prod.snd) :
    startsWith name keyPrefix = true := by
  simp only [importAliases, List.map_map, List.mem_map, Function.comp] at isAlias
  obtain ⟨role, _, rfl⟩ := isAlias
  simp [startsWith, keyPrefix]

/-- Without underscores a UUID can be read off its aliases. -/
theorem importAliases_distinct {first second name : String} (isFirst : PlainUuid first)
    (isSecond : PlainUuid second) (inFirst : name ∈ (importAliases first).map Prod.snd)
    (inSecond : name ∈ (importAliases second).map Prod.snd) : first = second := by
  simp only [importAliases, List.map_map, List.mem_map, Function.comp] at inFirst inSecond
  obtain ⟨role, isRole, rfl⟩ := inFirst
  obtain ⟨other, isOther, same⟩ := inSecond
  have sixLetters : ∀ role ∈ ["record", "detect"], role.toList.length = 6 := by decide
  have sameText := congrArg String.toList same
  simp only [String.toList_append, String.toList_ofList, List.append_assoc] at sameText
  have parts := List.append_inj_right sameText rfl
  have sameEnd : ("_import_".toList ++ other.toList).length =
      ("_import_".toList ++ role.toList).length := by
    rw [List.length_append, List.length_append, sixLetters role isRole, sixLetters other isOther]
  have sameMiddle := List.append_inj_left' parts sameEnd
  have injective : ∀ left right : List Char, (∀ letter ∈ left, letter ≠ '_') →
      (∀ letter ∈ right, letter ≠ '_') →
      (left.map fun letter => if letter = '-' then '_' else letter) =
        (right.map fun letter => if letter = '-' then '_' else letter) → left = right := by
    intro left
    induction left with
    | nil =>
        intro right _ _ sameMap
        exact (List.map_eq_nil_iff.mp sameMap.symm).symm
    | cons letter rest ih =>
        intro right plainLeft plainRight sameMap
        cases right with
        | nil => cases sameMap
        | cons otherLetter otherRest =>
            simp only [List.map_cons, List.cons.injEq] at sameMap
            have isPlain := plainLeft letter List.mem_cons_self
            have isOtherPlain := plainRight otherLetter List.mem_cons_self
            have tails := ih otherRest (fun each member => plainLeft each (.tail _ member))
              (fun each member => plainRight each (.tail _ member)) sameMap.2
            have heads : letter = otherLetter := by
              have sameLetter := sameMap.1
              by_cases isDash : letter = '-' <;> by_cases isOtherDash : otherLetter = '-'
              · exact isDash.trans isOtherDash.symm
              · rw [if_pos isDash, if_neg isOtherDash] at sameLetter
                exact absurd sameLetter.symm isOtherPlain
              · rw [if_neg isDash, if_pos isOtherDash] at sameLetter
                exact absurd sameLetter isPlain
              · rwa [if_neg isDash, if_neg isOtherDash] at sameLetter
            rw [heads, tails]
  exact String.ext (injective first.toList second.toList isFirst isSecond sameMiddle.symm)

/-! Rows. -/

/-- The entry while its reader is released. -/
def CameraEntry.disabled (entry : CameraEntry) : CameraEntry := { entry with enabled := some false }

section
variable [RelayUrls]

/-- What a row of a job names belongs to its entry or to its camera. -/
structure ImportRow.Fits (start : RawConfig) (row : ImportRow) : Prop where
  live : ∀ name ∈ row.live.map Prod.fst, start.Uses row.key name
  originals : row.originalStreams.map Prod.fst = row.live.map Prod.fst
  managed : ∀ name ∈ row.managedStreams.map Prod.fst, name ∈ row.live.map Prod.fst ∨
    (∃ entry, start.cameras.lookup row.key = some entry ∧ entry.Reads start.streams name) ∨
      row.Takes name
  aliases : ∀ name ∈ row.aliases.map Prod.snd, row.Takes name
  uuid : ∀ cameraUuid, row.cameraUuid = some cameraUuid → PlainUuid cameraUuid

/-- What `build_managed` has made of the row. -/
structure ImportRow.TakenOver (row : ImportRow) (managed : CameraEntry) : Prop where
  camera : row.managedCamera = some managed
  tuning : managed = { row.original with inputs := managed.inputs }
  relays : ∀ input ∈ managed.inputs, ∃ name, startsWith name keyPrefix = true ∧
    input.path = relayUrl name
  captures : managed.inputs = [] → row.original.inputs = []
  aliases : ∃ cameraUuid, row.cameraUuid = some cameraUuid ∧
    row.aliases = importAliases cameraUuid
  keys : ∀ name, name ∈ row.managedStreams.map Prod.fst ↔ name ∈ row.aliases.map Prod.snd ∨
    name ∈ row.live.map Prod.fst ∨ name ∈ row.releasedStreams.map Prod.fst
  distinct : (row.managedStreams.map Prod.fst).Nodup

/-- The row has the entry and the sources that the operator gave them. -/
structure ImportRow.Records (start : RawConfig) (row : ImportRow) : Prop where
  original : start.cameras.lookup row.key = some row.original
  originals : ∀ held ∈ row.originalStreams, held.2 = start.streams.lookup held.1
  plain : row.handoff = false → row.pausedCamera = none ∧ row.releasedStreams = [] ∧
    row.pausedStreams = [] ∧ ∀ name ∈ row.managedStreams.map Prod.fst,
      name ∈ row.live.map Prod.fst ∨ row.Takes name
  released : row.handoff = true → ∀ name, name ∈ row.releasedStreams.map Prod.fst ↔
    name ∈ row.live.map Prod.fst ∨ row.original.Reads start.streams name
  sources : ∀ held ∈ row.releasedStreams, start.streams.lookup held.1 = some held.2
  paused : row.handoff = true →
    row.pausedCamera = some row.original.disabled ∧
      row.pausedStreams.map Prod.fst = row.releasedStreams.map Prod.fst ∧
      (row.pausedStreams.map Prod.fst).Nodup
  active : row.state = .active → ∃ managed, row.TakenOver managed

/-- The aliases that the row's import may change. -/
def ImportRow.Concerns (start : RawConfig) (row : ImportRow) (name : String) : Prop :=
  start.Uses row.key name ∨ row.Takes name

/-- Frigate has this entry, and the aliases of the row have these sources instead of those of
the operator. -/
def ImportRow.Shown (start : RawConfig) (row : ImportRow)
    (held : Place → Option (CameraEntry ⊕ List String)) (entry : CameraEntry)
    (streams : StreamMap) : Prop :=
  held (.camera row.key) = some (.inl entry) ∧ ∀ name, row.Concerns start name →
    held (.stream name) = ((streams.lookup name).or (start.streams.lookup name)).map .inr

/-- Where the import stands in Frigate. -/
inductive ImportRow.Stands (start : RawConfig) (row : ImportRow)
    (held : Place → Option (CameraEntry ⊕ List String)) : Prop
  | untouched (shown : row.Shown start held row.original [])
  | paused (handoff : row.handoff = true)
      (shown : row.Shown start held row.original.disabled
        row.pausedStreams)
  | takenOver {managed : CameraEntry} (built : row.TakenOver managed)
      (shown : row.Shown start held managed row.managedStreams)

theorem ImportRow.Shown.congr {start : RawConfig} {row : ImportRow}
    {held later : Place → Option (CameraEntry ⊕ List String)} {entry : CameraEntry}
    {streams : StreamMap} (shown : row.Shown start held entry streams)
    (camera : later (.camera row.key) = held (.camera row.key))
    (concerned : ∀ name, row.Concerns start name → later (.stream name) = held (.stream name)) :
    row.Shown start later entry streams :=
  ⟨camera.trans shown.1, fun name isConcerned =>
    (concerned name isConcerned).trans (shown.2 name isConcerned)⟩

theorem ImportRow.Stands.congr {start : RawConfig} {row : ImportRow}
    {held later : Place → Option (CameraEntry ⊕ List String)} (stands : row.Stands start held)
    (camera : later (.camera row.key) = held (.camera row.key))
    (concerned : ∀ name, row.Concerns start name → later (.stream name) = held (.stream name)) :
    row.Stands start later := by
  cases stands with
  | untouched shown => exact .untouched (shown.congr camera concerned)
  | paused handoff shown => exact .paused handoff (shown.congr camera concerned)
  | takenOver built shown => exact .takenOver built (shown.congr camera concerned)

/-- Each journaled entry with its aliases, in the custody of its row. -/
def importCustody (start : RawConfig) :
    Custody String ImportRow Place (Option (CameraEntry ⊕ List String)) where
  part key row place := row.key = key ∧ (place = .camera key ∨
    ∃ name, place = .stream name ∧ row.Concerns start name)
  kept key row held := row.key = key ∧ row.Fits start ∧ row.Records start ∧
    row.Stands start held
  onlyPart := by
    rintro key row held later same ⟨rfl, fits, records, stands⟩
    exact ⟨rfl, fits, records, stands.congr (same _ ⟨rfl, .inl rfl⟩)
      fun name concerned => same _ ⟨rfl, .inr ⟨name, rfl, concerned⟩⟩⟩

/-! What the custody says about Frigate. -/

section
variable {start raw : RawConfig} {records : String → Option ImportRow} {key name : String}
  {row : ImportRow}

theorem OperatorConfig.uses_free (operator : OperatorConfig start) (uses : start.Uses key name) :
    startsWith name keyPrefix = false := by
  obtain ⟨entry, _, known, _⟩ := uses
  cases isOwn : startsWith name keyPrefix with
  | false => rfl
  | true =>
      rw [operator.ownNames isOwn] at known
      cases known

omit [RelayUrls] in
theorem ImportRow.Takes.owned (takes : row.Takes name) : startsWith name keyPrefix = true := by
  obtain ⟨cameraUuid, _, isAlias⟩ := takes
  exact importAliases_owned isAlias

/-- What an entry uses concerns no row but its own. -/
theorem OperatorConfig.concerns_uses (operator : OperatorConfig start)
    (uses : start.Uses key name) (concerns : row.Concerns start name) : row.key = key := by
  rcases concerns with others | takes
  · exact operator.unshared others uses
  · have free := operator.uses_free uses
    rw [takes.owned] at free
    cases free

/-- Where Frigate shows a stream of the operator, it is the operator's or the import's. -/
theorem ImportRow.Shown.known {held : Place → Option (CameraEntry ⊕ List String)}
    {entry : CameraEntry} {streams : StreamMap} (shown : row.Shown start held entry streams)
    (uses : start.Uses row.key name) : (held (.stream name)).isSome = true := by
  rw [shown.2 name (.inl uses), Option.isSome_map]
  obtain ⟨_, _, known, _⟩ := uses
  cases streams.lookup name with
  | some sources => rfl
  | none => rwa [Option.none_or]

theorem ImportRow.Stands.known {held : Place → Option (CameraEntry ⊕ List String)}
    (stands : row.Stands start held) (uses : start.Uses row.key name) :
    (held (.stream name)).isSome = true := by
  cases stands with
  | untouched shown => exact shown.known uses
  | paused _ shown => exact shown.known uses
  | takenOver _ shown => exact shown.known uses

variable (accounts : (importCustody start).Accounts start.at records raw.at)

include accounts

/-- An entry that is not journaled is the operator's. -/
theorem camera_of_accounts (isFree : records key = none) :
    raw.cameras.lookup key = start.cameras.lookup key := by
  refine RawConfig.at_camera.mp (accounts.outside _ fun holder row isRecord inPart => ?_)
  obtain ⟨_, isCamera | ⟨_, never, _⟩⟩ := inPart
  · obtain rfl := Place.camera.inj isCamera
    rw [isFree] at isRecord
    cases isRecord
  · cases never

/-- So are the aliases it uses. -/
theorem stream_of_accounts (operator : OperatorConfig start) (isFree : records key = none)
    (uses : start.Uses key name) : raw.streams.lookup name = start.streams.lookup name := by
  refine RawConfig.at_stream.mp (accounts.outside _ fun holder row isRecord inPart => ?_)
  obtain ⟨isKey, never | ⟨_, isName, concerns⟩⟩ := inPart
  · cases never
  obtain rfl := Place.stream.inj isName
  obtain rfl := (isKey.symm.trans (operator.concerns_uses uses concerns)).symm
  rw [isFree] at isRecord
  cases isRecord

/-- A relay alias exists only in the custody of a row. -/
theorem relay_of_accounts (operator : OperatorConfig start)
    (isOwn : startsWith name keyPrefix = true)
    (untaken : ∀ holder row, records holder = some row → ¬ row.Takes name) :
    raw.streams.lookup name = start.streams.lookup name := by
  refine RawConfig.at_stream.mp (accounts.outside _ fun holder row isRecord inPart => ?_)
  obtain ⟨_, never | ⟨_, isName, uses | takes⟩⟩ := inPart
  · cases never
  · obtain rfl := Place.stream.inj isName
    rw [operator.uses_free uses] at isOwn
    cases isOwn
  · obtain rfl := Place.stream.inj isName
    exact untaken holder row isRecord takes

end

end

end CamAdmiral
