import CamAdmiral.FrigateTables
import CamAdmiral.Runs

/-!
The requests that add, change and remove Frigate integrations. The id of an integration is a
digest of the URL it was added under and stays when its URL is changed.
-/

namespace CamAdmiral

/-- The parts of a URL that `urllib.parse` returns; an absent part is empty. -/
structure HttpParts where
  scheme : String
  hostname : String
  port : Option Nat := none
  username : String := ""
  password : String := ""
  path : String := ""
  query : String := ""
  fragment : String := ""
  deriving DecidableEq, Repr

/-- `urllib.parse.urlsplit` with its host name and port, `none` where it raises, and the first
digits of the SHA-256 digest of a URL. -/
class HttpText where
  split : String → Option HttpParts
  digest : String → String

section
variable [TextCase] [HttpText]

/-- `path.rstrip("/")`. -/
def stripSlashes (path : String) : String :=
  String.ofList ((path.toList.reverse.dropWhile (· = '/')).reverse)

/-- `none` is `invalid_target_url`. -/
def normalizeFrigateApiUrl (value : String) : Option String :=
  let raw := strip value
  if raw = "" || raw.toList.any (fun character => isSpace character || character.toNat < 32) then
    none
  else
    (HttpText.split raw).bind fun parsed =>
      let scheme := TextCase.lower parsed.scheme
      if (scheme ≠ "http" && scheme ≠ "https") || parsed.hostname = "" ||
          parsed.username ≠ "" || parsed.password ≠ "" || parsed.query ≠ "" ||
          parsed.fragment ≠ "" || parsed.port.any (fun port => port < 1 || 65535 < port) then
        none
      else
        let host := if ':' ∈ parsed.hostname.toList then "[" ++ parsed.hostname ++ "]"
          else parsed.hostname
        let authority := match parsed.port with
          | some port => host ++ ":" ++ toString port
          | none => host
        some (scheme ++ "://" ++ authority ++ stripSlashes parsed.path)

inductive TargetReply
  | targetLimitReached
  | invalidTargetUrl
  | targetExists
  | invalidName
  | unreachable (code : String)
  | notFound
  | restorationRequired
  | failed
  | connected
  | updated
  | removed
  deriving DecidableEq, Repr

/-- The id a target gets when it is added under a URL. -/
def targetIdOf (apiUrl : String) : String := "frigate_" ++ HttpText.digest apiUrl

/-- `check` is the outcome of `_check_frigate_target`. -/
def addFrigateTarget (tables : FrigateTables) (requestName requestUrl : String)
    (check : Except String Unit) : FrigateTables × TargetReply :=
  if 8 ≤ tables.targets.length then
    (tables, .targetLimitReached)
  else
    match normalizeFrigateApiUrl requestUrl with
    | none => (tables, .invalidTargetUrl)
    | some apiUrl =>
        if tables.targets.any (·.apiUrl = apiUrl) then
          (tables, .targetExists)
        else if strip requestName = "" then
          (tables, .invalidName)
        else
          match check with
          | .error code => (tables, .unreachable code)
          | .ok () =>
              match tables.saveFrigateTarget (targetIdOf apiUrl) (strip requestName) apiUrl with
              | none => (tables, .failed)
              | some saved =>
                  (saved.recordFrigateTargetCheck (targetIdOf apiUrl) .connected, .connected)

def updateFrigateTarget (tables : FrigateTables) (targetId : String)
    (requestName requestUrl : Option String) (check : Except String Unit) :
    FrigateTables × TargetReply :=
  match tables.target targetId with
  | none => (tables, .notFound)
  | some current =>
      let requested := if textOf requestUrl = "" then current.apiUrl else textOf requestUrl
      match normalizeFrigateApiUrl requested with
      | none => (tables, .invalidTargetUrl)
      | some apiUrl =>
          if tables.targets.any fun row => row.targetId ≠ targetId && row.apiUrl = apiUrl then
            (tables, .targetExists)
          else
            let name := (requestName.map strip).getD current.name
            if name = "" then
              (tables, .invalidName)
            else
              match if apiUrl = current.apiUrl then .ok () else check with
              | .error code => (tables, .unreachable code)
              | .ok () =>
                  match tables.saveFrigateTarget targetId name apiUrl with
                  | none => (tables, .failed)
                  | some saved =>
                      if apiUrl = current.apiUrl then
                        (saved, .updated)
                      else
                        (saved.recordFrigateTargetCheck targetId .connected, .updated)

/-- The request refuses while a handoff is unfinished. -/
def requestRemoveTarget (tables : FrigateTables) (targetId : String) :
    FrigateTables × TargetReply :=
  if (tables.importLinks targetId).any fun row => row.handoff && row.state ≠ .active then
    (tables, .restorationRequired)
  else if (tables.target targetId).isNone then
    (tables, .notFound)
  else
    (tables.removeFrigateTarget targetId, .removed)

/-! What adding an integration does to the others. -/

/-- The integrations that were there keep their ids, names, URLs, selections and bindings,
and there is one more. -/
def OthersKept (before after : FrigateTables) : Prop :=
  after.targets.length = before.targets.length + 1 ∧
    ∀ row ∈ before.targets,
      (∃ kept ∈ after.targets, kept.targetId = row.targetId ∧ kept.name = row.name ∧
        kept.apiUrl = row.apiUrl) ∧
      after.selections.filter (·.targetId = row.targetId) =
        before.selections.filter (·.targetId = row.targetId) ∧
      after.bindings.filter (·.targetId = row.targetId) =
        before.bindings.filter (·.targetId = row.targetId)

omit [TextCase] [HttpText] in
theorem recordFrigateTargetCheck_length (tables : FrigateTables) (targetId : String)
    (status : ConnectionStatus) :
    (tables.recordFrigateTargetCheck targetId status).targets.length = tables.targets.length := by
  simp [FrigateTables.recordFrigateTargetCheck, updateRow]

omit [TextCase] [HttpText] in
theorem recordFrigateTargetCheck_kept {tables : FrigateTables} {row : FrigateTargetRow}
    (member : row ∈ tables.targets) (targetId : String) (status : ConnectionStatus) :
    ∃ kept ∈ (tables.recordFrigateTargetCheck targetId status).targets,
      kept.targetId = row.targetId ∧ kept.name = row.name ∧ kept.apiUrl = row.apiUrl := by
  simp only [FrigateTables.recordFrigateTargetCheck, mem_updateRow]
  by_cases isTarget : row.targetId = targetId
  · exact ⟨_, .inr ⟨row, member, isTarget, rfl⟩, rfl, rfl, rfl⟩
  · exact ⟨row, .inl ⟨member, isTarget⟩, rfl, rfl, rfl⟩

/-- An accepted request has saved the target under the id of its URL. -/
theorem addFrigateTarget_connected {tables : FrigateTables} {requestName requestUrl : String}
    {check : Except String Unit}
    (accepted : (addFrigateTarget tables requestName requestUrl check).2 = .connected) :
    ∃ apiUrl saved, normalizeFrigateApiUrl requestUrl = some apiUrl ∧
      (∀ row ∈ tables.targets, row.apiUrl ≠ apiUrl) ∧
      tables.saveFrigateTarget (targetIdOf apiUrl) (strip requestName) apiUrl = some saved ∧
      (addFrigateTarget tables requestName requestUrl check).1 =
        saved.recordFrigateTargetCheck (targetIdOf apiUrl) .connected := by
  revert accepted
  rw [addFrigateTarget]
  split
  · intro accepted
    cases accepted
  split
  · intro accepted
    cases accepted
  rename_i apiUrl normalized
  split
  · intro accepted
    cases accepted
  rename_i differs
  split
  · intro accepted
    cases accepted
  split
  · intro accepted
    cases accepted
  split
  · intro accepted
    cases accepted
  rename_i saved isSaved
  intro accepted
  exact ⟨apiUrl, saved, normalized, by simpa using differs, isSaved, rfl⟩

/-- An accepted request for a new URL leaves the other integrations alone exactly if none of
them still has the id of this URL. -/
theorem add_target_keeps_others_iff {tables : FrigateTables}
    {requestName requestUrl apiUrl : String}
    {check : Except String Unit} (normalized : normalizeFrigateApiUrl requestUrl = some apiUrl)
    (accepted : (addFrigateTarget tables requestName requestUrl check).2 = .connected) :
    OthersKept tables (addFrigateTarget tables requestName requestUrl check).1 ↔
      ∀ row ∈ tables.targets, row.targetId ≠ targetIdOf apiUrl := by
  obtain ⟨url, saved, isUrl, differs, isSaved, result⟩ := addFrigateTarget_connected accepted
  obtain rfl : apiUrl = url := Option.some.inj (normalized.symm.trans isUrl)
  rw [result]
  simp only [FrigateTables.saveFrigateTarget] at isSaved
  split at isSaved
  · cases isSaved
  obtain rfl := Option.some.inj isSaved
  cases stored : rowAt FrigateTargetRow.targetId tables.targets (targetIdOf apiUrl) with
  | none =>
      have fresh := rowAt_none.mp stored
      refine ⟨fun _ => fresh, fun _ => ⟨?_, ?_⟩⟩
      · rw [recordFrigateTargetCheck_length, upsertRow_absent _ stored, List.length_append]
        rfl
      · intro row member
        refine ⟨recordFrigateTargetCheck_kept ?_ _ _, rfl, rfl⟩
        rw [upsertRow_absent _ stored]
        exact List.mem_append_left _ member
  | some row =>
      obtain ⟨member, sameId⟩ := rowAt_some stored
      constructor
      · rintro ⟨longer, _⟩
        rw [recordFrigateTargetCheck_length] at longer
        simp [upsertRow, stored, updateRow] at longer
      · intro fresh
        exact absurd sameId (fresh row member)

/-! Sequences of requests. -/

/-- A request with the outcome of its connection check; `consumers` are the selections and
bindings that the other requests have made since. -/
inductive TargetAction
  | add (requestName requestUrl : String) (check : Except String Unit)
  | update (targetId : String) (requestName requestUrl : Option String)
      (check : Except String Unit)
  | remove (targetId : String)
  | consumers (selections : List SelectionRow) (bindings : List FrigateBindingRow)

def targetStep (tables : FrigateTables) : TargetAction → FrigateTables
  | .add requestName requestUrl check =>
      (addFrigateTarget tables requestName requestUrl check).1
  | .update targetId requestName requestUrl check =>
      (updateFrigateTarget tables targetId requestName requestUrl check).1
  | .remove targetId => (requestRemoveTarget tables targetId).1
  | .consumers selections bindings => { tables with selections, bindings }

/-- The tables that requests lead to, every one of them `allowed`. -/
abbrev TargetRun (allowed : FrigateTables → TargetAction → Prop) :
    FrigateTables → FrigateTables → Prop :=
  Reaches (fun tables action next => next = targetStep tables action) allowed

/-- Every id is that of the target's URL. -/
def IdsOfUrls (tables : FrigateTables) : Prop :=
  ∀ row ∈ tables.targets, row.targetId = targetIdOf row.apiUrl

/-- The request does not move a target to another URL. -/
def KeepsUrl (tables : FrigateTables) : TargetAction → Prop
  | .update targetId _ requestUrl _ => ∀ current, tables.target targetId = some current →
      normalizeFrigateApiUrl (if textOf requestUrl = "" then current.apiUrl
        else textOf requestUrl) = some current.apiUrl
  | _ => True

omit [TextCase] in
theorem IdsOfUrls.saveFrigateTarget {tables saved : FrigateTables} (ids : IdsOfUrls tables)
    {targetId name apiUrl : String} (ofUrl : targetId = targetIdOf apiUrl)
    (done : tables.saveFrigateTarget targetId name apiUrl = some saved) : IdsOfUrls saved := by
  simp only [FrigateTables.saveFrigateTarget] at done
  split at done
  · cases done
  obtain rfl := Option.some.inj done
  intro row member
  simp only [upsertRow] at member
  split at member
  · rcases mem_updateRow.mp member with ⟨isOld, _⟩ | ⟨original, isOld, isTarget, rfl⟩
    · exact ids row isOld
    · split
      · rename_i sameUrl
        exact (isTarget.trans ofUrl).trans (congrArg targetIdOf sameUrl.symm)
      · exact isTarget.trans ofUrl
  · rcases List.mem_append.mp member with isOld | isNew
    · exact ids row isOld
    · obtain rfl := List.mem_singleton.mp isNew
      exact ofUrl

omit [TextCase] in
theorem IdsOfUrls.recordFrigateTargetCheck {tables : FrigateTables} (ids : IdsOfUrls tables)
    (targetId : String) (status : ConnectionStatus) :
    IdsOfUrls (tables.recordFrigateTargetCheck targetId status) := by
  intro row member
  rcases mem_updateRow.mp member with ⟨isOld, _⟩ | ⟨original, isOld, _, rfl⟩
  · exact ids row isOld
  · exact ids original isOld

theorem IdsOfUrls.targetStep {tables : FrigateTables} (ids : IdsOfUrls tables)
    {action : TargetAction} (keeps : KeepsUrl tables action) :
    IdsOfUrls (targetStep tables action) := by
  cases action with
  | add requestName requestUrl check =>
      simp only [CamAdmiral.targetStep, addFrigateTarget]
      split
      · exact ids
      split
      · exact ids
      split
      · exact ids
      split
      · exact ids
      split
      · exact ids
      split
      · exact ids
      · rename_i saved isSaved
        exact (ids.saveFrigateTarget rfl isSaved).recordFrigateTargetCheck _ _
  | update targetId requestName requestUrl check =>
      simp only [CamAdmiral.targetStep, updateFrigateTarget]
      split
      · exact ids
      rename_i current isCurrent
      obtain ⟨member, isTarget⟩ := rowAt_some isCurrent
      have kept := keeps current isCurrent
      simp only [kept, if_true]
      split
      · exact ids
      split
      · exact ids
      split
      · exact ids
      · rename_i saved isSaved
        exact ids.saveFrigateTarget (isTarget ▸ ids current member) isSaved
  | remove targetId =>
      simp only [CamAdmiral.targetStep, requestRemoveTarget]
      split
      · exact ids
      split
      · exact ids
      · exact fun row member => ids row (List.mem_filter.mp member).1
  | consumers selections bindings => exact ids

/-- While no target is moved, the id of a new URL is free, so adding it keeps the others. -/
theorem unmoved_targets_kept {start tables : FrigateTables} (initial : IdsOfUrls start)
    (run : TargetRun KeepsUrl start tables) {requestName requestUrl : String}
    {check : Except String Unit} (distinct : Function.Injective HttpText.digest)
    (accepted : (addFrigateTarget tables requestName requestUrl check).2 = .connected) :
    OthersKept tables (addFrigateTarget tables requestName requestUrl check).1 := by
  have ids : IdsOfUrls tables := by
    apply run.invariant IdsOfUrls initial
    rintro state action _ ids keeps rfl
    exact ids.targetStep keeps
  obtain ⟨apiUrl, _, normalized, differs, _, _⟩ := addFrigateTarget_connected accepted
  refine (add_target_keeps_others_iff normalized accepted).mpr ?_
  intro row member sameId
  rw [ids row member] at sameId
  exact differs row member (distinct (by simpa [targetIdOf] using sameId))

end

/-! An integration that is added, moved to another URL and added again. -/

/-- URLs such as `http://host`, with themselves as digests. -/
@[reducible] def plainHttp : HttpText where
  split text := some { scheme := "http", hostname := String.ofList (text.toList.drop 7) }
  digest := id

def garageAdded : FrigateTables :=
  let _ := asciiCase
  let _ := plainHttp
  targetStep {} (.add "Garage" "http://10.0.0.2" (.ok ()))

theorem second_target_added :
    let _ := asciiCase
    let _ := plainHttp
    OthersKept garageAdded (addFrigateTarget garageAdded "Porch" "http://10.0.0.3" (.ok ())).1 := by
  intro text urls
  have normalized : normalizeFrigateApiUrl "http://10.0.0.3" = some "http://10.0.0.3" := by
    decide +kernel
  exact (add_target_keeps_others_iff normalized (by decide +kernel)).mpr (by decide +kernel)

def garageMoved : FrigateTables :=
  let _ := asciiCase
  let _ := plainHttp
  targetStep garageAdded (.update "frigate_http://10.0.0.2" none (some "http://10.0.0.4") (.ok ()))

/-- The second integration takes the place of the moved one. -/
theorem readded_url_replaces_target :
    ¬ ∀ (_ : TextCase) (_ : HttpText) (tables : FrigateTables)
      (requestName requestUrl : String) (check : Except String Unit),
      Function.Injective HttpText.digest →
      TargetRun (fun _ _ => True) {} tables →
      (addFrigateTarget tables requestName requestUrl check).2 = .connected →
      OthersKept tables (addFrigateTarget tables requestName requestUrl check).1 := by
  intro claimed
  let text := asciiCase
  let urls := plainHttp
  have added : TargetRun (fun _ _ => True) {} garageAdded :=
    Reaches.start.step (.add "Garage" "http://10.0.0.2" (.ok ())) trivial rfl
  have run : TargetRun (fun _ _ => True) {} garageMoved :=
    added.step (.update "frigate_http://10.0.0.2" none (some "http://10.0.0.4") (.ok ()))
      trivial rfl
  have kept := claimed text urls garageMoved "Porch" "http://10.0.0.2" (.ok ())
    Function.injective_id run (by decide +kernel)
  have same : (addFrigateTarget garageMoved "Porch" "http://10.0.0.2" (.ok ())).1.targets.length =
      1 := by decide +kernel
  have before : garageMoved.targets.length = 1 := by decide +kernel
  have longer := kept.1
  omega

end CamAdmiral
