import CamAdmiral.FullSyncCore
import CamAdmiral.HandoffSharing

/-!
A configuration of Frigate as its operator has written it, and the aliases that each of its
entries uses. Which aliases an entry reads does not change with what happens to the aliases of
other entries, nor with aliases under CamAdmiral's prefix.
-/

namespace CamAdmiral

section
variable [RelayUrls]

/-- What `_media_aliases` walks to from the entry. -/
def CameraEntry.Reads (streams : StreamMap) (entry : CameraEntry) (name : String) : Prop :=
  (∃ input ∈ entry.inputs, ReadsAlias streams input.path name) ∨
    ∃ live ∈ entry.live.map Prod.snd, (streams.lookup live).isSome ∧
      ReadsAlias streams (relayUrl live) name

/-- The entry reads the alias or shows it, by its live view or by its own name. -/
def RawConfig.Uses (raw : RawConfig) (key name : String) : Prop :=
  ∃ entry, raw.cameras.lookup key = some entry ∧ (raw.streams.lookup name).isSome ∧
    (name = key ∨ name ∈ entry.live.map Prod.snd ∨ entry.Reads raw.streams name)

theorem ReadsAlias.known {streams : StreamMap} {value name : String}
    (reads : ReadsAlias streams value name) : (streams.lookup name).isSome = true := by
  induction reads with
  | direct refers => rw [refers.lookup]; rfl
  | through _ _ _ ih => exact ih

theorem RawConfig.uses_of_reads {raw : RawConfig} {key name : String} {entry : CameraEntry}
    (isEntry : raw.cameras.lookup key = some entry) (reads : entry.Reads raw.streams name) :
    raw.Uses key name := by
  refine ⟨entry, isEntry, ?_, .inr (.inr reads)⟩
  rcases reads with ⟨_, _, reads⟩ | ⟨_, _, _, reads⟩ <;> exact reads.known

/-- The text names no alias under CamAdmiral's prefix. -/
def OperatorText (value : String) : Prop :=
  ∀ name, startsWith name keyPrefix = true → value ≠ relayUrl name ∧ unwrapSource value ≠ name ∧
    RelayUrls.localAlias (unwrapSource value) ≠ some (some name)

/-- Mappings have distinct keys, each entry captures something, no two entries share an alias,
and CamAdmiral's names are neither taken nor named. -/
structure OperatorConfig (raw : RawConfig) : Prop where
  mappings : ∀ {key entry}, raw.cameras.lookup key = some entry →
    (entry.live.map Prod.fst).Nodup ∧ (entry.other.map Prod.fst).Nodup
  captures : ∀ {key entry}, raw.cameras.lookup key = some entry →
    entry.inputs ≠ [] ∧ startsWith key keyPrefix = false
  unshared : ∀ {key other name}, raw.Uses key name → raw.Uses other name → key = other
  ownNames : ∀ {name}, startsWith name keyPrefix = true → raw.streams.lookup name = none
  inputs : ∀ {key entry input}, raw.cameras.lookup key = some entry → input ∈ entry.inputs →
    OperatorText input.path
  live : ∀ {key entry name}, raw.cameras.lookup key = some entry →
    name ∈ entry.live.map Prod.snd →
      startsWith name keyPrefix = false ∧ OperatorText (relayUrl name)
  sources : ∀ {name values value}, raw.streams.lookup name = some values → value ∈ values →
    OperatorText value

/-! The same aliases in other streams. -/

/-- The two maps know the same aliases, but for those under the prefix. -/
def SameNames (first second : StreamMap) : Prop :=
  ∀ name, startsWith name keyPrefix = false →
    (first.lookup name).isSome = (second.lookup name).isSome

theorem RefersTo.same {first second : StreamMap} {value name : String} {sources : List String}
    (same : SameNames first second) (isText : OperatorText value)
    (refers : RefersTo first value name sources) :
    ∃ others, RefersTo second value name others := by
  have plain {other : String} (names : unwrapSource value = other ∨
      RelayUrls.localAlias (unwrapSource value) = some (some other)) :
      startsWith other keyPrefix = false := by
    cases isOwn : startsWith other keyPrefix with
    | false => rfl
    | true => exact absurd names (not_or.mpr (isText other isOwn).2)
  have known {other : String} (names : unwrapSource value = other ∨
      RelayUrls.localAlias (unwrapSource value) = some (some other)) :
      (first.lookup other).isSome = (second.lookup other).isSome :=
    same other (plain names)
  simp only [RefersTo, relayReference] at refers ⊢
  have sameSource := known (.inl rfl)
  cases isFirst : first.lookup (unwrapSource value) with
  | some held =>
      rw [isFirst] at refers sameSource
      simp only [Except.ok.injEq, Option.some.injEq, Prod.mk.injEq] at refers
      obtain ⟨others, isSecond⟩ := Option.isSome_iff_exists.mp sameSource.symm
      rw [isSecond]
      exact ⟨others, by rw [refers.1]⟩
  | none =>
      rw [isFirst] at refers sameSource
      have isSecond : second.lookup (unwrapSource value) = none :=
        Option.not_isSome_iff_eq_none.mp (by rw [← sameSource]; exact Bool.false_ne_true)
      rw [isSecond]
      cases isLocal : RelayUrls.localAlias (unwrapSource value) with
      | none =>
          rw [isLocal] at refers
          cases refers
      | some pointed =>
          rw [isLocal] at refers
          simp only [Except.ok.injEq, Option.bind_eq_some_iff, Option.map_eq_some_iff,
            Prod.mk.injEq] at refers
          obtain ⟨other, rfl, held, isHeld, rfl, rfl⟩ := refers
          have sameOther := known (.inr isLocal)
          rw [isHeld] at sameOther
          obtain ⟨others, isOther⟩ := Option.isSome_iff_exists.mp sameOther.symm
          exact ⟨others, by simp [isOther]⟩

/-- The walk from a text only meets aliases with the same sources in both maps. -/
theorem ReadsAlias.same {start first second : StreamMap} {value name : String}
    {used : String → Prop} (same : SameNames first second)
    (texts : ∀ {name values source}, start.lookup name = some values → source ∈ values →
      OperatorText source)
    (sameFirst : ∀ name, used name → first.lookup name = start.lookup name)
    (sameSecond : ∀ name, used name → second.lookup name = start.lookup name)
    (isText : OperatorText value)
    (inUse : ∀ name, ReadsAlias start value name → used name)
    (sameStart : SameNames first start) (reads : ReadsAlias first value name) :
    ReadsAlias second value name := by
  induction reads with
  | direct refers =>
      obtain ⟨others, isSecond⟩ := RefersTo.same same isText refers
      exact .direct isSecond
  | @through value through name source sources refers member reads ih =>
      obtain ⟨others, isSecond⟩ := RefersTo.same same isText refers
      obtain ⟨initial, isStart⟩ := RefersTo.same sameStart isText refers
      have isUsed := inUse through (.direct isStart)
      have heldFirst := (sameFirst through isUsed).symm.trans refers.lookup
      have heldSecond := (sameSecond through isUsed).symm.trans isSecond.lookup
      obtain rfl : sources = initial := Option.some.inj (heldFirst.symm.trans isStart.lookup)
      obtain rfl : sources = others := Option.some.inj (heldFirst.symm.trans heldSecond)
      refine .through isSecond member (ih (texts heldFirst member) fun name inner => ?_)
      exact inUse name (.through isStart member inner)

/-- The entry reads the same aliases as at the start, as long as those have their sources. -/
theorem OperatorConfig.reads_iff {start : RawConfig} (operator : OperatorConfig start)
    {key : String} {entry : CameraEntry} (isEntry : start.cameras.lookup key = some entry)
    {streams : StreamMap} (same : SameNames streams start.streams)
    (held : ∀ name, start.Uses key name → streams.lookup name = start.streams.lookup name)
    (name : String) : entry.Reads streams name ↔ entry.Reads start.streams name := by
  have back : SameNames start.streams streams := fun name plain => (same name plain).symm
  have captures {input : FrigateInput} (isInput : input ∈ entry.inputs) :
      ∀ other, ReadsAlias start.streams input.path other → start.Uses key other :=
    fun other reads => RawConfig.uses_of_reads isEntry (.inl ⟨input, isInput, reads⟩)
  have shows {live : String} (isLive : live ∈ entry.live.map Prod.snd)
      (isKnown : (start.streams.lookup live).isSome = true) :
      ∀ other, ReadsAlias start.streams (relayUrl live) other → start.Uses key other :=
    fun other reads => RawConfig.uses_of_reads isEntry (.inr ⟨live, isLive, isKnown, reads⟩)
  constructor
  · rintro (⟨input, isInput, reads⟩ | ⟨live, isLive, isKnown, reads⟩)
    · exact .inl ⟨input, isInput, reads.same same operator.sources held (fun _ _ => rfl)
        (operator.inputs isEntry isInput) (captures isInput) same⟩
    · obtain ⟨plain, isText⟩ := operator.live isEntry isLive
      rw [same live plain] at isKnown
      exact .inr ⟨live, isLive, isKnown, reads.same same operator.sources held (fun _ _ => rfl)
        isText (shows isLive isKnown) same⟩
  · rintro (⟨input, isInput, reads⟩ | ⟨live, isLive, isKnown, reads⟩)
    · exact .inl ⟨input, isInput, reads.same back operator.sources (fun _ _ => rfl) held
        (operator.inputs isEntry isInput) (captures isInput) fun _ _ => rfl⟩
    · obtain ⟨plain, isText⟩ := operator.live isEntry isLive
      refine .inr ⟨live, isLive, (same live plain).trans isKnown, ?_⟩
      exact reads.same back operator.sources (fun _ _ => rfl) held isText
        (shows isLive isKnown) fun _ _ => rfl

end

end CamAdmiral
