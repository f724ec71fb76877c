import CamAdmiral.FrigateCore

/-!
What a part of a conversation with Frigate leaves behind: a read changes neither the tables
nor the log nor the saved configuration, and a course of writes sends them in their order,
up to the first call that fails.
-/

namespace CamAdmiral

variable {σ α β : Type} {frigate : Frigate σ}

/-! The monad. -/

namespace Program

variable {ε τ : Type}

theorem bind_ok {program : Program ε τ α} {next : α → Program ε τ β} {state later : τ} {value : β} :
    (program >>= next) state = (.ok value, later) ↔
      ∃ first between, program state = (.ok first, between) ∧
        next first between = (.ok value, later) := by
  change andThen program next state = _ ↔ _
  unfold andThen
  cases isDone : program state with
  | mk result between => cases result <;> simp

theorem bind_error {program : Program ε τ α} {next : α → Program ε τ β} {state later : τ}
    {failure : ε} :
    (program >>= next) state = (.error failure, later) ↔
      program state = (.error failure, later) ∨
        ∃ first between, program state = (.ok first, between) ∧
          next first between = (.error failure, later) := by
  change andThen program next state = _ ↔ _
  unfold andThen
  cases isDone : program state with
  | mk result between => cases result <;> simp

theorem bind_of_ok {program : Program ε τ α} {next : α → Program ε τ β} {state later : τ}
    {value : α} (isDone : program state = (.ok value, later)) :
    (program >>= next) state = next value later := by
  change andThen program next state = _
  rw [andThen, isDone]

theorem bind_of_error {program : Program ε τ α} {next : α → Program ε τ β} {state later : τ}
    {failure : ε} (isFailed : program state = (.error failure, later)) :
    (program >>= next) state = (.error failure, later) := by
  change andThen program next state = _
  rw [andThen, isFailed]

end Program

/-! Reads. -/

structure Quiet (frigate : Frigate σ) (before after : Session σ) : Prop where
  tables : after.tables = before.tables
  log : after.log = before.log
  saved : frigate.saved after.frigate = frigate.saved before.frigate
  failures : before.failures <+: after.failures

theorem Quiet.refl (session : Session σ) : Quiet frigate session session :=
  ⟨rfl, rfl, rfl, List.prefix_rfl⟩

theorem Quiet.trans {first second third : Session σ} (early : Quiet frigate first second)
    (late : Quiet frigate second third) : Quiet frigate first third :=
  ⟨late.tables.trans early.tables, late.log.trans early.log, late.saved.trans early.saved,
    early.failures.trans late.failures⟩

theorem ask_quiet (request : FrigateRead α) (session : Session σ) :
    Quiet frigate session (ask frigate request session).2 := by
  have saved := frigate.read_saved request session.frigate
  unfold ask
  cases isRead : frigate.read request session.frigate with
  | mk result later =>
      rw [isRead] at saved
      cases result with
      | ok value => exact ⟨rfl, rfl, saved, List.prefix_rfl⟩
      | error error => exact ⟨rfl, rfl, saved, List.prefix_append _ _⟩

/-! Courses of writes. -/

def applyWrites (writes : List FrigateWrite) (raw : RawConfig) : RawConfig :=
  writes.foldl (fun raw write => write.apply raw) raw

/-- The writes in their order; `false` is a course that a failure has ended. -/
inductive Course (frigate : Frigate σ) :
    List FrigateWrite → Bool → Session σ → Session σ → Prop
  | quiet {before after : Session σ} (quiet : Quiet frigate before after) :
      Course frigate [] true before after
  | cut {writes : List FrigateWrite} {before after : Session σ}
      (quiet : Quiet frigate before after) : Course frigate writes false before after
  | sent {write : FrigateWrite} {writes : List FrigateWrite} {succeeded : Bool}
      {before between sent after : Session σ} (quiet : Quiet frigate before between)
      (log : sent.log = between.log ++ [.write write between.frigate])
      (tables : sent.tables = between.tables)
      (saved : frigate.saved sent.frigate = write.apply (frigate.saved between.frigate))
      (failures : sent.failures = between.failures)
      (rest : Course frigate writes succeeded sent after) :
      Course frigate (write :: writes) succeeded before after
  | rejected {write : FrigateWrite} {writes : List FrigateWrite}
      {before between sent after : Session σ} (quiet : Quiet frigate before between)
      (log : sent.log = between.log ++ [.write write between.frigate])
      (tables : sent.tables = between.tables)
      (saved : frigate.saved sent.frigate = frigate.saved between.frigate ∨
        frigate.saved sent.frigate = write.apply (frigate.saved between.frigate))
      (failures : between.failures <+: sent.failures) (rest : Quiet frigate sent after) :
      Course frigate (write :: writes) false before after

namespace Course

theorem quiet_trans {writes : List FrigateWrite} {succeeded : Bool}
    {before between after : Session σ} (early : Quiet frigate before between)
    (course : Course frigate writes succeeded between after) :
    Course frigate writes succeeded before after := by
  cases course with
  | quiet quiet => exact .quiet (early.trans quiet)
  | cut quiet => exact .cut (early.trans quiet)
  | sent quiet log tables saved failures rest =>
      exact .sent (early.trans quiet) log tables saved failures rest
  | rejected quiet log tables saved failures rest =>
      exact .rejected (early.trans quiet) log tables saved failures rest

theorem append {first second : List FrigateWrite} {succeeded : Bool}
    {before between after : Session σ} (early : Course frigate first true before between)
    (late : Course frigate second succeeded between after) :
    Course frigate (first ++ second) succeeded before after := by
  generalize isDone : true = done at early
  induction early with
  | quiet quiet => exact late.quiet_trans quiet
  | cut _ => cases isDone
  | sent quiet log tables saved failures _ ih =>
      exact .sent quiet log tables saved failures (ih late isDone)
  | rejected => cases isDone

/-- A course that failed has sent nothing of what would have come next. -/
theorem append_failed {first second : List FrigateWrite} {before after : Session σ}
    (failed : Course frigate first false before after) :
    Course frigate (first ++ second) false before after := by
  generalize isFailed : false = done at failed
  induction failed with
  | quiet => cases isFailed
  | cut quiet => exact .cut quiet
  | sent quiet log tables saved failures _ ih =>
      exact .sent quiet log tables saved failures (ih isFailed)
  | rejected quiet log tables saved failures rest =>
      exact .rejected quiet log tables saved failures rest

theorem tables {writes : List FrigateWrite} {succeeded : Bool} {before after : Session σ}
    (course : Course frigate writes succeeded before after) : after.tables = before.tables := by
  induction course with
  | quiet quiet => exact quiet.tables
  | cut quiet => exact quiet.tables
  | sent quiet _ tables _ _ _ ih => exact ih.trans (tables.trans quiet.tables)
  | rejected quiet _ tables _ _ rest => exact rest.tables.trans (tables.trans quiet.tables)

theorem failures {writes : List FrigateWrite} {succeeded : Bool} {before after : Session σ}
    (course : Course frigate writes succeeded before after) :
    before.failures <+: after.failures := by
  induction course with
  | quiet quiet => exact quiet.failures
  | cut quiet => exact quiet.failures
  | sent quiet _ _ _ failures _ ih => exact quiet.failures.trans (failures ▸ ih)
  | rejected quiet _ _ _ failures rest =>
      exact quiet.failures.trans (failures.trans rest.failures)

/-- Some of the writes, from the first on, have had their effect: all of them unless the
course has failed. -/
theorem saved {writes : List FrigateWrite} {succeeded : Bool} {before after : Session σ}
    (course : Course frigate writes succeeded before after) :
    ∃ count ≤ writes.length, (succeeded = true → count = writes.length) ∧
      frigate.saved after.frigate =
        applyWrites (writes.take count) (frigate.saved before.frigate) := by
  induction course with
  | quiet quiet => exact ⟨0, Nat.le_refl 0, fun _ => rfl, quiet.saved⟩
  | cut quiet => exact ⟨0, Nat.zero_le _, nofun, quiet.saved⟩
  | sent quiet _ _ saved _ _ ih =>
      obtain ⟨count, bound, whole, same⟩ := ih
      refine ⟨count + 1, Nat.succ_le_succ bound, fun done => congrArg (· + 1) (whole done), ?_⟩
      rw [same, saved, quiet.saved]
      rfl
  | rejected quiet _ _ saved _ rest =>
      rcases saved with same | applied
      · exact ⟨0, Nat.zero_le _, nofun, rest.saved.trans (same.trans quiet.saved)⟩
      · refine ⟨1, Nat.succ_le_succ (Nat.zero_le _), nofun, ?_⟩
        rw [rest.saved, applied, quiet.saved]
        rfl

/-- Every new entry of the log is one of the writes, sent after the effects of those before
it. -/
theorem events {writes : List FrigateWrite} {succeeded : Bool} {before after : Session σ}
    (course : Course frigate writes succeeded before after) :
    ∃ events, after.log = before.log ++ events ∧ ∀ event ∈ events, ∃ index write state,
      event = .write write state ∧ writes[index]? = some write ∧
        frigate.saved state = applyWrites (writes.take index) (frigate.saved before.frigate) := by
  induction course with
  | quiet quiet => exact ⟨[], by simp [quiet.log], by simp⟩
  | cut quiet => exact ⟨[], by simp [quiet.log], by simp⟩
  | @sent write writes _ before between _ _ quiet log _ saved _ _ ih =>
      obtain ⟨events, isLog, each⟩ := ih
      refine ⟨.write write between.frigate :: events, by simp [isLog, log, quiet.log], ?_⟩
      refine List.forall_mem_cons.mpr ⟨⟨0, write, between.frigate, rfl, rfl, quiet.saved⟩, ?_⟩
      intro event member
      obtain ⟨index, other, state, rfl, isOther, same⟩ := each event member
      refine ⟨index + 1, other, state, rfl, isOther, ?_⟩
      rw [same, saved, quiet.saved]
      rfl
  | @rejected write _ before between _ _ quiet log _ _ _ rest =>
      refine ⟨[.write write between.frigate], by simp [rest.log, log, quiet.log], ?_⟩
      intro event member
      obtain rfl := List.mem_singleton.mp member
      exact ⟨0, write, between.frigate, rfl, rfl, quiet.saved⟩

theorem mem_log {writes : List FrigateWrite} {before after : Session σ}
    (course : Course frigate writes true before after) {write : FrigateWrite}
    (member : write ∈ writes) : ∃ events, after.log = before.log ++ events ∧
      ∃ state, Event.write write state ∈ events := by
  generalize isDone : true = done at course
  induction course with
  | quiet => exact absurd member List.not_mem_nil
  | cut => cases isDone
  | rejected => cases isDone
  | @sent first _ _ _ between _ _ quiet log _ _ _ rest ih =>
      rcases List.mem_cons.mp member with rfl | later
      · obtain ⟨events, isLog, _⟩ := rest.events
        exact ⟨.write write between.frigate :: events, by simp [isLog, log, quiet.log],
          between.frigate, List.mem_cons_self⟩
      · obtain ⟨events, isLog, state, isSent⟩ := ih later isDone
        exact ⟨.write first between.frigate :: events, by simp [isLog, log, quiet.log],
          state, List.mem_cons_of_mem _ isSent⟩

theorem nil_quiet {succeeded : Bool} {before after : Session σ}
    (course : Course frigate [] succeeded before after) : Quiet frigate before after := by
  cases course with
  | quiet quiet => exact quiet
  | cut quiet => exact quiet

end Course

/-! Programs that send such a course. -/

/-- Only Frigate has made the program fail. -/
def Sends (frigate : Frigate σ) (writes : List FrigateWrite) (session : Session σ) :
    Except Failure α × Session σ → Prop
  | (.ok _, later) => Course frigate writes true session later
  | (.error (.api _), later) => Course frigate writes false session later
  | (.error .raised, _) => False

theorem Sends.after {first second : List FrigateWrite} {session later : Session σ}
    {result : Except Failure α × Session σ} (early : Course frigate first true session later)
    (sends : Sends frigate second later result) :
    Sends frigate (first ++ second) session result := by
  match result, sends with
  | (.ok _, _), course => exact early.append course
  | (.error (.api _), _), course => exact early.append course
  | (.error .raised, _), never => exact never

/-- The program sends these writes. -/
def Writes (frigate : Frigate σ) (program : Talk σ α) (writes : List FrigateWrite) : Prop :=
  ∀ session, Sends frigate writes session (program session)

theorem Writes.of_ok {program : Talk σ α} {writes : List FrigateWrite} {session later : Session σ}
    {value : α} (sends : Writes frigate program writes)
    (isDone : program session = (.ok value, later)) :
    Course frigate writes true session later := by
  have course := sends session
  rwa [isDone] at course

theorem Writes.of_error {program : Talk σ α} {writes : List FrigateWrite}
    {session later : Session σ} {failure : Failure} (sends : Writes frigate program writes)
    (isFailed : program session = (.error failure, later)) :
    Course frigate writes false session later ∧ ∃ error, failure = .api error := by
  have course := sends session
  rw [isFailed] at course
  cases failure with
  | api error => exact ⟨course, error, rfl⟩
  | raised => exact course.elim

theorem writes_ask (request : FrigateRead α) : Writes frigate (ask frigate request) [] := by
  intro session
  have quiet : Quiet frigate session _ := ask_quiet request session
  unfold ask at quiet ⊢
  cases isRead : frigate.read request session.frigate with
  | mk result later =>
      rw [isRead] at quiet
      cases result with
      | ok value => exact .quiet quiet
      | error error => exact .cut quiet

theorem writes_send (write : FrigateWrite) : Writes frigate (send frigate write) [write] := by
  intro session
  have done := frigate.write_done write session.frigate
  have failed := frigate.write_failed write session.frigate
  unfold send
  cases isSent : frigate.write write session.frigate with
  | mk result later =>
      rw [isSent] at done failed
      cases result with
      | ok value =>
          refine .sent (.refl session) ?_ ?_ (done rfl) ?_ (.quiet (.refl _)) <;> rfl
      | error error =>
          refine .rejected (.refl session) ?_ ?_ failed ?_ (.refl _)
          · rfl
          · rfl
          · exact List.prefix_append _ _

theorem writes_pure (value : α) : Writes frigate (pure value : Talk σ α) [] :=
  fun session => .quiet (.refl session)

theorem writes_fail (error : ApiError) :
    Writes frigate (Program.fail (.api error) : Talk σ α) [] :=
  fun session => .cut (.refl session)

theorem writes_read (view : Session σ → α) : Writes frigate (Program.read view) [] :=
  fun session => .quiet (.refl session)

theorem Writes.bind {program : Talk σ α} {next : α → Talk σ β} {first second : List FrigateWrite}
    (early : Writes frigate program first) (late : ∀ value, Writes frigate (next value) second) :
    Writes frigate (program >>= next) (first ++ second) := by
  intro session
  cases isDone : program session with
  | mk result between =>
      cases result with
      | ok value =>
          rw [Program.bind_of_ok isDone]
          exact (late value between).after (early.of_ok isDone)
      | error failure =>
          rw [Program.bind_of_error isDone]
          obtain ⟨failed, error, rfl⟩ := early.of_error isDone
          exact failed.append_failed

theorem Writes.attempt {program : Talk σ α} {writes : List FrigateWrite}
    (sends : Writes frigate program writes) (session : Session σ) :
    ∃ outcome later, CamAdmiral.attempt program session = (.ok outcome, later) ∧
      Course frigate writes (match outcome with | .ok _ => true | .error _ => false)
        session later ∧
      ∀ value, outcome = .ok value → program session = (.ok value, later) := by
  have course := sends session
  unfold CamAdmiral.attempt
  match isDone : program session, course with
  | (.ok value, later), course =>
      refine ⟨.ok value, later, rfl, course, ?_⟩
      rintro _ ⟨⟩
      rfl
  | (.error (.api error), later), course => exact ⟨.error error, later, rfl, course, nofun⟩
  | (.error .raised, _), never => exact never.elim

theorem attempt_error {program : Talk σ α} {session later : Session σ} {error : ApiError}
    (isFailed : attempt program session = (.ok (.error error), later)) :
    program session = (.error (.api error), later) := by
  unfold attempt at isFailed
  match isDone : program session, isFailed with
  | (.ok _, _), never => cases never
  | (.error .raised, _), never => cases never
  | (.error (.api _), _), rfl => rfl

theorem writes_each {program : β → Talk σ Unit} {write : β → FrigateWrite}
    (each : ∀ element, Writes frigate (program element) [write element]) (elements : List β) :
    Writes frigate (Program.each program elements) (elements.map write) := by
  induction elements with
  | nil => exact writes_pure ()
  | cons first rest ih => exact (each first).bind fun _ => ih

theorem writes_untilDeadline {poll : Talk σ α} (reads : Writes frigate poll []) (rounds : Nat) :
    Writes frigate (untilDeadline poll rounds) [] := by
  induction rounds with
  | zero => exact reads
  | succ rounds ih =>
      intro session
      obtain ⟨outcome, later, isDone, course, _⟩ := reads.attempt session
      rw [untilDeadline, Program.bind_of_ok isDone]
      cases outcome with
      | ok value => exact course
      | error error => exact (ih later).after (.quiet course.nil_quiet)

/-! Pre- and postconditions of the steps of a conversation. -/

/-- A write, whether or not Frigate has accepted it. -/
structure Sent (frigate : Frigate σ) (write : FrigateWrite) (before after : Session σ) :
    Prop where
  tables : after.tables = before.tables
  log : after.log = before.log ++ [.write write before.frigate]
  saved : frigate.saved after.frigate = frigate.saved before.frigate ∨
    frigate.saved after.frigate = write.apply (frigate.saved before.frigate)
  failures : before.failures <+: after.failures

/-- Reads do not end the condition. -/
def ReadStable (frigate : Frigate σ) (condition : Session σ → Prop) : Prop :=
  ∀ before after, Quiet frigate before after → condition before → condition after

section
open Program

variable {before : Session σ → Prop} {failed : Session σ → Prop}

theorem triple_ask {done : α → Session σ → Prop} (request : FrigateRead α)
    (quiet : ∀ session later, before session → Quiet frigate session later →
      (∀ value, done value later) ∧ failed later) :
    Triple before (ask frigate request) done failed := by
  intro session holds
  have both := quiet session _ holds (ask_quiet request session)
  cases isRead : ask frigate request session with
  | mk result later =>
      rw [isRead] at both
      cases result with
      | ok value => exact both.1 value
      | error failure => exact both.2

theorem ask_rawConfig {session later : Session σ} {raw : RawConfig}
    (isDone : ask frigate .rawConfig session = (.ok raw, later)) :
    raw = frigate.saved session.frigate := by
  have law := frigate.read_rawConfig session.frigate
  unfold ask at isDone
  cases isRead : frigate.read .rawConfig session.frigate with
  | mk result after =>
      rw [isRead] at law isDone
      cases result with
      | ok value =>
          obtain ⟨same, _⟩ := Prod.mk.inj isDone
          exact Except.ok.inj same ▸ law value rfl
      | error error => cases isDone

theorem triple_rawConfig {done : RawConfig → Session σ → Prop}
    (quiet : ∀ session later, before session → Quiet frigate session later →
      done (frigate.saved later.frigate) later ∧ failed later) :
    Triple before (ask frigate .rawConfig) done failed := by
  intro session holds
  have isQuiet : Quiet frigate session _ := ask_quiet .rawConfig session
  have both := quiet session _ holds isQuiet
  cases isRead : ask frigate .rawConfig session with
  | mk result later =>
      rw [isRead] at both isQuiet
      cases result with
      | ok raw =>
          rw [Ends, ask_rawConfig isRead, ← isQuiet.saved]
          exact both.1
      | error failure => exact both.2

theorem triple_send {done : Unit → Session σ → Prop} (write : FrigateWrite)
    (sent : ∀ session later, before session → Sent frigate write session later →
      (frigate.saved later.frigate = write.apply (frigate.saved session.frigate) →
        done () later) ∧ failed later) :
    Triple before (send frigate write) done failed := by
  intro session holds
  have isDone := frigate.write_done write session.frigate
  have isFailed := frigate.write_failed write session.frigate
  have both := sent session
  unfold send
  cases isSent : frigate.write write session.frigate with
  | mk result later =>
      rw [isSent] at isDone isFailed
      cases result with
      | ok value =>
          let after : Session σ := { session with
            frigate := later
            log := session.log ++ [.write write session.frigate] }
          exact (both after holds ⟨rfl, rfl, isFailed, List.prefix_rfl⟩).1 (isDone rfl)
      | error error =>
          let after : Session σ := { session with
            frigate := later
            log := session.log ++ [.write write session.frigate]
            failures := session.failures ++ [error] }
          exact (both after holds ⟨rfl, rfl, isFailed, List.prefix_append _ _⟩).2

theorem triple_amend {done : Unit → Session σ → Prop} (change : FrigateTables → FrigateTables)
    (holds : ∀ session, before session →
      done () { session with tables := change session.tables }) :
    Triple before (amend change) done failed :=
  triple_modify _ holds

theorem triple_persist {done : Unit → Session σ → Prop}
    {change : FrigateTables → Option FrigateTables}
    (holds : ∀ session tables, before session → change session.tables = some tables →
      done () { session with tables := tables })
    (fails : ∀ session, before session → failed session) :
    Triple before (persist change) done failed := by
  intro session isBefore
  unfold persist
  cases isChanged : change session.tables with
  | some tables => exact holds session tables isBefore isChanged
  | none => exact fails session isBefore

theorem triple_attempt {program : Talk σ α} {mid : α → Session σ → Prop}
    {done : Except ApiError α → Session σ → Prop} {caught : Session σ → Prop}
    (triple : Triple before program mid caught)
    (onValue : ∀ value session, mid value session → done (.ok value) session)
    (onError : ∀ error session, caught session → done (.error error) session)
    (onRaised : ∀ session, caught session → failed session) :
    Triple before (attempt program) done failed := by
  intro session holds
  have ends := triple session holds
  unfold attempt
  match program session, ends with
  | (.ok value, later), isDone => exact onValue value later isDone
  | (.error (.api error), later), isCaught => exact onError error later isCaught
  | (.error .raised, later), isCaught => exact onRaised later isCaught

theorem triple_withContext {program : Talk σ α} {done : α → Session σ → Prop} (stage : String)
    (resource : Option String) (triple : Triple before program done failed) :
    Triple before (withContext stage resource program) done failed := by
  refine triple.handle fun failure => ?_
  cases failure with
  | api error => exact triple_fail _ fun _ => id
  | raised => exact triple_fail _ fun _ => id

variable {invariant : Session σ → Prop}

theorem preserves_ask (stable : ReadStable frigate invariant) (request : FrigateRead α) :
    Preserves invariant (ask frigate request) :=
  triple_ask request fun session later holds quiet =>
    have kept := stable session later quiet holds
    ⟨fun _ => kept, kept⟩

theorem preserves_send {write : FrigateWrite}
    (sent : ∀ session later, invariant session → Sent frigate write session later →
      invariant later) : Preserves invariant (send frigate write) :=
  triple_send write fun session later holds isSent =>
    ⟨fun _ => sent session later holds isSent, sent session later holds isSent⟩

theorem preserves_amend {change : FrigateTables → FrigateTables}
    (holds : ∀ session, invariant session →
      invariant { session with tables := change session.tables }) :
    Preserves invariant (amend change) :=
  triple_amend change holds

theorem preserves_persist {change : FrigateTables → Option FrigateTables}
    (holds : ∀ session tables, invariant session → change session.tables = some tables →
      invariant { session with tables := tables }) : Preserves invariant (persist change) :=
  triple_persist holds fun _ => id

theorem preserves_attempt {program : Talk σ α} (preserves : Preserves invariant program) :
    Preserves invariant (attempt program) :=
  triple_attempt preserves (fun _ _ => id) (fun _ _ => id) fun _ => id

/-- Programs that only read. -/
theorem Writes.preserves {program : Talk σ α} (stable : ReadStable frigate invariant)
    (reads : Writes frigate program []) : Preserves invariant program := by
  intro session holds
  have sends := reads session
  match program session, sends with
  | (.ok value, later), course => exact stable session later course.nil_quiet holds
  | (.error (.api error), later), course =>
      exact stable session later course.nil_quiet holds

end

end CamAdmiral
