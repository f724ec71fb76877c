import CamAdmiral.HandoffCore
import Mathlib.Data.List.Dedup

/-!
What else reads the aliases that a handoff pauses: the walk of `_media_aliases` against the
aliases every Frigate entry reads, its implicit live alias included.
-/

namespace CamAdmiral

theorem collectAll_ok {α : Type} {find : α → Except HandoffError (List String)}
    {values : List α} {found : List String} (done : collectAll find values = .ok found) :
    (∀ value ∈ values, ∃ part, find value = .ok part ∧ part ⊆ found) ∧
      ∀ aliasKey ∈ found, ∃ value ∈ values, ∃ part, find value = .ok part ∧ aliasKey ∈ part := by
  induction values generalizing found with
  | nil =>
      obtain rfl := Except.ok.inj done
      simp
  | cons first rest ih =>
      simp only [collectAll] at done
      cases isFirst : find first with
      | error problem => simp [isFirst, bind, Except.bind] at done
      | ok part =>
          cases isRest : collectAll find rest with
          | error problem => simp [isFirst, isRest, bind, Except.bind] at done
          | ok others =>
              simp only [isFirst, isRest, bind, Except.bind, pure, Except.pure,
                Except.ok.injEq] at done
              subst done
              obtain ⟨parts, owners⟩ := ih isRest
              constructor
              · intro value member
                rcases List.mem_cons.mp member with rfl | later
                · exact ⟨part, isFirst, List.subset_append_left part others⟩
                · obtain ⟨other, isOther, within⟩ := parts value later
                  exact ⟨other, isOther, fun _ inside => List.mem_append_right _ (within inside)⟩
              · intro aliasKey inside
                rcases List.mem_append.mp inside with inFirst | inRest
                · exact ⟨first, List.mem_cons_self, part, isFirst, inFirst⟩
                · obtain ⟨value, member, other, isOther, inOther⟩ := owners aliasKey inRest
                  exact ⟨value, List.mem_cons_of_mem _ member, other, isOther, inOther⟩

section
variable [RelayUrls]

/-- The alias a value names or points to. -/
def RefersTo (streams : StreamMap) (value aliasKey : String) (sources : List String) : Prop :=
  relayReference streams value = .ok (some (aliasKey, sources))

/-- A value reads an alias, directly or through other aliases. -/
inductive ReadsAlias (streams : StreamMap) : String → String → Prop
  | direct {value aliasKey : String} {sources : List String}
      (refers : RefersTo streams value aliasKey sources) : ReadsAlias streams value aliasKey
  | through {value through aliasKey source : String} {sources : List String}
      (refers : RefersTo streams value through sources) (member : source ∈ sources)
      (reads : ReadsAlias streams source aliasKey) : ReadsAlias streams value aliasKey

theorem RefersTo.lookup {streams : StreamMap} {value aliasKey : String} {sources : List String}
    (refers : RefersTo streams value aliasKey sources) :
    streams.lookup aliasKey = some sources := by
  simp only [RefersTo, relayReference] at refers
  split at refers
  · rename_i found
    simp only [Except.ok.injEq, Option.some.injEq, Prod.mk.injEq] at refers
    obtain ⟨rfl, rfl⟩ := refers
    exact found
  · split at refers
    · cases refers
    · simp only [Except.ok.injEq, Option.bind_eq_some_iff, Option.map_eq_some_iff,
        Prod.mk.injEq] at refers
      obtain ⟨pointed, _, held, isHeld, rfl, rfl⟩ := refers
      exact isHeld

/-- A walk that ends finds exactly the aliases that the value reads. -/
theorem visit_iff {streams : StreamMap} {remaining : Nat} {trail found : List String}
    {value : String} (visited : visit streams remaining trail value = .ok found)
    (aliasKey : String) : aliasKey ∈ found ↔ ReadsAlias streams value aliasKey := by
  induction remaining generalizing trail found value aliasKey with
  | zero => cases visited
  | succ remaining ih =>
      simp only [visit, bind, Except.bind] at visited
      split at visited
      · cases visited
      rename_i reference isReference
      split at visited
      · obtain rfl := Except.ok.inj visited
        constructor
        · exact fun member => absurd member List.not_mem_nil
        · intro reads
          cases reads with
          | direct refers =>
              rw [RefersTo, isReference] at refers
              cases refers
          | through refers _ _ =>
              rw [RefersTo, isReference] at refers
              cases refers
      · rename_i first sources
        split at visited
        · cases visited
        split at visited
        · cases visited
        rename_i nested isNested
        obtain rfl := Except.ok.inj visited
        obtain ⟨parts, owners⟩ := collectAll_ok isNested
        constructor
        · intro member
          rcases List.mem_cons.mp member with rfl | inside
          · exact .direct isReference
          · obtain ⟨source, isSource, part, isPart, inPart⟩ := owners aliasKey inside
            exact .through isReference isSource ((ih isPart aliasKey).mp inPart)
        · intro reads
          cases reads with
          | direct refers =>
              rw [RefersTo, isReference] at refers
              simp only [Except.ok.injEq, Option.some.injEq, Prod.mk.injEq] at refers
              rw [refers.1]
              exact List.mem_cons_self
          | through refers member reads =>
              rw [RefersTo, isReference] at refers
              simp only [Except.ok.injEq, Option.some.injEq, Prod.mk.injEq] at refers
              obtain ⟨rfl, rfl⟩ := refers
              obtain ⟨part, isPart, within⟩ := parts _ member
              exact List.mem_cons_of_mem _ (within ((ih isPart aliasKey).mpr reads))

/-- The aliases of the entry's live view, as `inspect_camera` collects them: the explicit ones,
else the stream that is named like the entry. -/
def liveAliases (streams : StreamMap) (name : String) (camera : CameraEntry) : List String :=
  (if camera.live.isEmpty then [name] else camera.live.map Prod.snd).filter fun aliasKey =>
    (streams.lookup aliasKey).isSome

/-- The entry reads the alias by a capture input or by its live view. -/
def EntryReads (streams : StreamMap) (name : String) (camera : CameraEntry)
    (aliasKey : String) : Prop :=
  (∃ input ∈ camera.inputs, ReadsAlias streams input.path aliasKey) ∨
    ∃ live ∈ liveAliases streams name camera, aliasKey = live ∨
      ∃ sources, streams.lookup live = some sources ∧
        ∃ source ∈ sources, ReadsAlias streams source aliasKey

/-- The URL of the alias on the relay leads back to the alias. -/
def PlainAlias (streams : StreamMap) (aliasKey : String) : Prop :=
  ∃ sources, RefersTo streams (relayUrl aliasKey) aliasKey sources

theorem mediaAliases_found {camera : CameraEntry} {streams : StreamMap} {found : List String}
    (walked : mediaAliases camera streams = .ok found) :
    (∀ input ∈ camera.inputs, ∀ aliasKey, ReadsAlias streams input.path aliasKey →
      aliasKey ∈ found) ∧
    ∀ live ∈ camera.live.map Prod.snd, (streams.lookup live).isSome →
      ∀ aliasKey, ReadsAlias streams (relayUrl live) aliasKey → aliasKey ∈ found := by
  simp only [mediaAliases, bind, Except.bind, pure, Except.pure] at walked
  split at walked
  · cases walked
  rename_i captured isCaptured
  split at walked
  · cases walked
  rename_i live isLive
  obtain rfl := Except.ok.inj walked
  constructor
  · intro input member aliasKey reads
    obtain ⟨part, isPart, within⟩ :=
      (collectAll_ok isCaptured).1 input.path (List.mem_map_of_mem member)
    exact List.mem_append_left _ (within ((visit_iff isPart aliasKey).mpr reads))
  · intro live member known aliasKey reads
    obtain ⟨part, isPart, within⟩ :=
      (collectAll_ok isLive).1 live (List.mem_filter.mpr ⟨member, known⟩)
    exact List.mem_append_right _ (within ((visit_iff isPart aliasKey).mpr reads))

/-- What the checks before the write have established. -/
structure Released (row : ImportRow) (raw : RawConfig) (aliases : List String) : Prop where
  journaled : ∀ aliasKey ∈ row.originalStreams.map Prod.fst, aliasKey ∈ aliases
  others : ∀ name other, (name, other) ∈ raw.cameras → name ≠ row.key →
    ∃ found, mediaAliases other raw.streams = .ok found ∧ ∀ aliasKey ∈ found, aliasKey ∉ aliases
  outside : ∀ aliasKey sources, (aliasKey, sources) ∈ raw.streams → aliasKey ∉ aliases →
    ∀ source ∈ sources, ∀ inner, ReadsAlias raw.streams source inner → inner ∉ aliases
  known : ∀ aliasKey ∈ aliases, (raw.streams.lookup aliasKey).isSome

omit [RelayUrls] in
theorem not_meets {aliases others : List String} (apart : ¬ meets aliases others = true) :
    ∀ aliasKey ∈ others, aliasKey ∉ aliases := by
  simpa [meets] using apart

omit [RelayUrls] in
theorem releasedStreams_known {streams released : StreamMap} {aliases : List String}
    (done : releasedStreams streams aliases = .ok released) :
    ∀ aliasKey ∈ aliases, (streams.lookup aliasKey).isSome := by
  induction aliases generalizing released with
  | nil => simp
  | cons first rest ih =>
      simp only [releasedStreams, List.mapM_cons, bind, Except.bind] at done
      split at done
      · cases done
      rename_i isFirst
      split at done
      · cases done
      rename_i others isRest
      intro aliasKey member
      rcases List.mem_cons.mp member with rfl | later
      · split at isFirst
        · rename_i found
          rw [found]
          rfl
        · cases isFirst
      · exact ih isRest aliasKey later

theorem releaseReader_released {targetApiUrl : String} {row : ImportRow} {raw : RawConfig}
    {cameraFps : Nat} {release : Release}
    (written : releaseReader targetApiUrl row raw cameraFps = .ok release) :
    Released row raw (release.streams.map Prod.fst) := by
  simp only [releaseReader, bind, Except.bind, pure, Except.pure] at written
  split at written
  · cases written
  split at written
  · cases written
  split at written
  · cases written
  rename_i read isRead
  generalize isAliases : (read ++ row.originalStreams.map Prod.fst).dedup = aliases at written
  split at written
  · cases written
  rename_i cameras isCameras
  split at written
  · cases written
  rename_i outer isOuter
  split at written
  · cases written
  rename_i released isReleased
  split at written
  · cases written
  obtain rfl := Except.ok.inj written
  have keys : (aliases.map fun aliasKey =>
      (aliasKey, ["rtsp://127.0.0.1:1/camadmiral-handoff"])).map Prod.fst = aliases := by
    simp [Function.comp_def]
  rw [keys]
  constructor
  · intro aliasKey member
    rw [← isAliases, List.mem_dedup]
    exact List.mem_append_right _ member
  · intro name other member differs
    obtain ⟨part, isPart, _⟩ := (collectAll_ok isCameras).1 (name, other) member
    simp only [differs, ne_eq, not_false_eq_true, if_true] at isPart
    split at isPart
    · cases isPart
    rename_i found isFound
    split at isPart
    · cases isPart
    · exact ⟨found, isFound, not_meets ‹_›⟩
  · intro aliasKey sources member outside source isSource inner reads
    obtain ⟨part, isPart, _⟩ := (collectAll_ok isOuter).1 (aliasKey, sources) member
    simp only [outside, not_false_eq_true, if_true] at isPart
    split at isPart
    · cases isPart
    rename_i found isFound
    split at isPart
    · cases isPart
    · rename_i apart
      obtain ⟨nested, isNested, within⟩ := (collectAll_ok isFound).1 source isSource
      exact not_meets apart inner (within ((visit_iff isNested inner).mpr reads))
  · exact releasedStreams_known isReleased

/-- A value that reads a paused alias refers to a paused one itself. -/
theorem Released.direct {row : ImportRow} {raw : RawConfig} {aliases : List String}
    (released : Released row raw aliases) {value aliasKey : String}
    (reads : ReadsAlias raw.streams value aliasKey) (paused : aliasKey ∈ aliases) :
    ∃ first sources, RefersTo raw.streams value first sources ∧ first ∈ aliases := by
  cases reads with
  | direct refers => exact ⟨aliasKey, _, refers, paused⟩
  | through refers member reads =>
      rename_i first source sources
      refine ⟨first, sources, refers, ?_⟩
      by_contra outside
      have isStream : (first, sources) ∈ raw.streams := by
        obtain ⟨before, after, isSplit, _⟩ := List.lookup_eq_some_iff.mp refers.lookup
        rw [isSplit]
        simp
      exact released.outside first sources isStream outside _ member aliasKey reads paused

/-- The entry only reads a paused alias as its own live view. -/
theorem Released.live {row : ImportRow} {raw : RawConfig} {aliases : List String}
    (released : Released row raw aliases) {name : String} {other : CameraEntry}
    (member : (name, other) ∈ raw.cameras) (differs : name ≠ row.key) {aliasKey : String}
    (paused : aliasKey ∈ aliases) (reads : EntryReads raw.streams name other aliasKey) :
    ∃ live ∈ liveAliases raw.streams name other, live ∈ aliases := by
  obtain ⟨found, isFound, apart⟩ := released.others name other member differs
  rcases reads with ⟨input, isInput, reads⟩ | ⟨live, isLive, rfl | ⟨sources, held, source,
    isSource, reads⟩⟩
  · obtain ⟨captured, _⟩ := mediaAliases_found isFound
    exact absurd paused (apart aliasKey (captured input isInput aliasKey reads))
  · exact ⟨aliasKey, isLive, paused⟩
  · refine ⟨live, isLive, ?_⟩
    by_contra outside
    have isStream : (live, sources) ∈ raw.streams := by
      obtain ⟨before, after, isSplit, _⟩ := List.lookup_eq_some_iff.mp held
      rw [isSplit]
      simp
    exact released.outside live sources isStream outside source isSource aliasKey reads paused

/-- Once the handoff writes, no other entry reads a paused alias, or one repointed later, if
and only if no entry without explicit live streams is named like a paused alias and the URL of
each paused alias that an entry shows leads back to it. -/
theorem handoff_undisturbed_iff {targetApiUrl : String} {row : ImportRow} {raw : RawConfig}
    {cameraFps : Nat} {release : Release}
    (written : releaseReader targetApiUrl row raw cameraFps = .ok release) :
    (∀ name other, (name, other) ∈ raw.cameras → name ≠ row.key → ∀ aliasKey,
      aliasKey ∈ release.streams.map Prod.fst ∨ aliasKey ∈ row.originalStreams.map Prod.fst →
        ¬ EntryReads raw.streams name other aliasKey) ↔
    ∀ name other, (name, other) ∈ raw.cameras → name ≠ row.key →
      (other.live = [] → name ∉ release.streams.map Prod.fst) ∧
      ∀ live ∈ other.live.map Prod.snd, live ∈ release.streams.map Prod.fst →
        PlainAlias raw.streams live := by
  have released := releaseReader_released written
  generalize release.streams.map Prod.fst = aliases at released
  constructor
  · intro undisturbed name other member differs
    have unread {live : String} (shown : live ∈ if other.live.isEmpty then [name]
        else other.live.map Prod.snd) (paused : live ∈ aliases) : False :=
      undisturbed name other member differs live (.inl paused)
        (.inr ⟨live, List.mem_filter.mpr ⟨shown, released.known live paused⟩, .inl rfl⟩)
    constructor
    · intro implicit paused
      exact unread (by simp [implicit]) paused
    · intro live isLive paused
      refine absurd (unread ?_ paused) not_false
      split
      · rename_i isEmpty
        rw [List.isEmpty_iff.mp isEmpty] at isLive
        exact absurd isLive List.not_mem_nil
      · exact isLive
  · intro plain name other member differs aliasKey used reads
    have paused : aliasKey ∈ aliases := used.elim id (released.journaled aliasKey)
    obtain ⟨live, isLive, inside⟩ := released.live member differs paused reads
    obtain ⟨implicit, explicit⟩ := plain name other member differs
    obtain ⟨shown, known⟩ := List.mem_filter.mp isLive
    split at shown
    · rename_i isEmpty
      obtain rfl := List.mem_singleton.mp shown
      exact implicit (List.isEmpty_iff.mp isEmpty) inside
    · obtain ⟨sources, refers⟩ := explicit live shown inside
      obtain ⟨found, isFound, apart⟩ := released.others name other member differs
      exact apart live ((mediaAliases_found isFound).2 live shown known live (.direct refers))
        inside

end

/-! The porch camera reads a go2rtc stream; the garage camera has a source of its own. -/

def porchEntry (relay : String) : CameraEntry where
  inputs := [⟨relayUrl relay, ["detect"], none⟩]

def porchImport (relay : String) : ImportRow where
  key := "porch"
  cameraUuid := none
  state := .preparing
  original := porchEntry relay

def garageEntry : CameraEntry where
  inputs := [⟨"rtsp://10.0.0.9/main", ["detect"], none⟩]

def porchConfig (relay : String) : RawConfig where
  cameras := [("porch", porchEntry relay), ("garage", garageEntry)]
  streams := [(relay, ["rtsp://10.0.0.5/main"])]

/-- The stream has a name of its own: the handoff of the porch leaves the garage alone. -/
theorem porch_handoff_undisturbed :
    let _ := plainRelayUrls
    ∃ release, releaseReader "http://10.0.0.2" (porchImport "yard") (porchConfig "yard") 5 =
        .ok release ∧ release.streams.map Prod.fst = ["yard"] ∧
      ¬ EntryReads (porchConfig "yard").streams "garage" garageEntry "yard" := by
  intro urls
  have paused : (releaseReader "http://10.0.0.2" (porchImport "yard") (porchConfig "yard")
      5).toOption.map (fun release => release.streams.map Prod.fst) = some ["yard"] := by
    decide +kernel
  cases written : releaseReader "http://10.0.0.2" (porchImport "yard") (porchConfig "yard") 5 with
  | error problem => simp [written, Except.toOption] at paused
  | ok release =>
      have streams : release.streams.map Prod.fst = ["yard"] := by
        simpa [written, Except.toOption] using paused
      refine ⟨release, rfl, streams, ?_⟩
      refine (handoff_undisturbed_iff written).mpr ?_ "garage" garageEntry
        (by simp [porchConfig]) (by decide) "yard" (.inl (by simp [streams]))
      intro name other member differs
      have isGarage : name = "garage" ∧ other = garageEntry := by
        simpa [porchConfig, show name ≠ "porch" from differs] using member
      obtain ⟨rfl, rfl⟩ := isGarage
      simp [streams, garageEntry]

/-- The stream is named like the garage camera, whose live view Frigate takes from it. -/
theorem implicit_live_alias_paused :
    let _ := plainRelayUrls
    ∃ release, releaseReader "http://10.0.0.2" (porchImport "garage") (porchConfig "garage") 5 =
        .ok release ∧ "garage" ∈ release.streams.map Prod.fst ∧
      ("garage", garageEntry) ∈ (porchConfig "garage").cameras ∧
      EntryReads (porchConfig "garage").streams "garage" garageEntry "garage" := by
  intro urls
  have paused : (releaseReader "http://10.0.0.2" (porchImport "garage") (porchConfig "garage")
      5).toOption.map (fun release => release.streams.map Prod.fst) = some ["garage"] := by
    decide +kernel
  cases written : releaseReader "http://10.0.0.2" (porchImport "garage") (porchConfig "garage")
      5 with
  | error problem => simp [written, Except.toOption] at paused
  | ok release =>
      have streams : release.streams.map Prod.fst = ["garage"] := by
        simpa [written, Except.toOption] using paused
      refine ⟨release, rfl, by simp [streams], by simp [porchConfig], .inr ⟨"garage", ?_, .inl rfl⟩⟩
      decide +kernel

end CamAdmiral
