import CamAdmiral.Base64
import CamAdmiral.Rounding
import CamAdmiral.UrlSplit

/-!
The administrator's login. Refusals are remembered for each client in a window that slides with
the clock; the fifth in it locks the client out. Times are exact numbers of seconds.
-/

namespace CamAdmiral

/-- `MAX_FAILURES`. -/
def maxFailures : Nat := 5

/-- `FAILURE_WINDOW_SECONDS`. -/
def failureWindow : ℚ := 300

/-- `LOCKOUT_SECONDS`. -/
def lockoutSeconds : ℚ := 300

structure AuthDecision where
  allowed : Bool
  statusCode : Nat := 200
  retryAfter : Option Int := none
  deriving DecidableEq, Repr

/-! The header. -/

inductive HeaderCredentials
  | absent
  | given (username password : List Char)
  | raised
  deriving DecidableEq, Repr

/-- `_credentials`. The decoder raises a plain `ValueError` on text that is not ASCII, which is
not among the errors that are caught. -/
def headerCredentials (header : Option String) : HeaderCredentials :=
  match header with
  | none => .absent
  | some text =>
      if text = "" || !startsWith text "Basic " then .absent
      else
        let encoded := (strip (String.ofList (text.toList.drop 6))).toList
        if encoded.any fun character => 128 ≤ character.toNat then .raised
        else
          match a2bBase64 true (encoded.map fun character => UInt8.ofNat character.toNat) with
          | none => .absent
          | some bytes =>
              match String.fromUTF8? bytes.toByteArray with
              | none => .absent
              | some decoded =>
                  match cut ':' decoded.toList with
                  | none => .absent
                  | some (username, password) => .given username password

/-- Whether both digests compare equal. -/
def credentialsAllowed (username candidate : List Char) (password : List UInt8) : Bool :=
  username.flatMap String.utf8EncodeChar = "admin".toList.flatMap String.utf8EncodeChar &&
    candidate.flatMap String.utf8EncodeChar = password

/-! The authenticator. -/

structure AuthState where
  failures : String → List ℚ := fun _ => []
  lockedUntil : String → Option ℚ := fun _ => none

/-- The failures that still count, and the new one. -/
def keptFailures (failures : List ℚ) (now : ℚ) : List ℚ :=
  failures.dropWhile (· ≤ now - failureWindow) ++ [now]

def recordFailure (state : AuthState) (client : String) (now : ℚ) : AuthState × AuthDecision :=
  let kept := keptFailures (state.failures client) now
  if maxFailures ≤ kept.length then
    ({
      failures := Function.update state.failures client []
      lockedUntil := Function.update state.lockedUntil client (some (now + lockoutSeconds)) },
      { allowed := false, statusCode := 429, retryAfter := some 300 })
  else
    ({ state with failures := Function.update state.failures client kept },
      { allowed := false, statusCode := 401 })

/-- A call with what the password loader gives at that time. -/
structure AuthCall where
  client : String
  password : Option (List UInt8)
  header : Option String
  now : ℚ
  deriving DecidableEq

inductive AuthOutcome
  | decided (decision : AuthDecision)
  | raised
  deriving DecidableEq, Repr

/-- Whether the client is still locked out. -/
def isLockedOut (state : AuthState) (client : String) (now : ℚ) : Bool :=
  now < (state.lockedUntil client).getD 0

/-- The credentials of a client that is not locked out. -/
def evaluate (state : AuthState) (call : AuthCall) (password : List UInt8) :
    AuthState × AuthOutcome :=
  match headerCredentials call.header with
  | .raised => (state, .raised)
  | .absent =>
      let result := recordFailure state call.client call.now
      (result.1, .decided result.2)
  | .given username candidate =>
      if credentialsAllowed username candidate password then
        ({
          failures := Function.update state.failures call.client []
          lockedUntil := Function.update state.lockedUntil call.client none },
          .decided { allowed := true })
      else
        let result := recordFailure state call.client call.now
        (result.1, .decided result.2)

/-- The lockout of the client is forgotten. -/
def AuthState.unlocked (state : AuthState) (client : String) : AuthState :=
  { state with lockedUntil := Function.update state.lockedUntil client none }

def authenticate (state : AuthState) (call : AuthCall) : AuthState × AuthOutcome :=
  match call.password with
  | none => (state, .decided { allowed := true })
  | some password =>
      if isLockedOut state call.client call.now then
        (state, .decided {
          allowed := false
          statusCode := 429
          retryAfter := some (max 1
            (roundHalfEven ((state.lockedUntil call.client).getD 0 - call.now))) })
      else
        evaluate (state.unlocked call.client) call password

/-! Runs of calls. -/

/-- A call, whether it was turned away before its credentials were looked at, and its outcome. -/
structure AuthAttempt where
  call : AuthCall
  turnedAway : Bool
  outcome : AuthOutcome
  deriving DecidableEq

def tryLogin (state : AuthState) (call : AuthCall) : AuthState × AuthAttempt :=
  let result := authenticate state call
  (result.1, {
    call := call
    turnedAway := call.password.isSome && isLockedOut state call.client call.now
    outcome := result.2 })

def afterCalls (state : AuthState) : List AuthCall → AuthState
  | [] => state
  | call :: rest => afterCalls (tryLogin state call).1 rest

def attempts (state : AuthState) : List AuthCall → List AuthAttempt
  | [] => []
  | call :: rest => (tryLogin state call).2 :: attempts (tryLogin state call).1 rest

def AuthAttempt.succeeded (attempt : AuthAttempt) : Bool :=
  match attempt.outcome with
  | .decided decision => decision.allowed
  | .raised => false

/-- The credentials were evaluated and refused. -/
def AuthAttempt.refused (attempt : AuthAttempt) : Bool :=
  match attempt.outcome with
  | .decided decision => !attempt.turnedAway && !decision.allowed
  | .raised => false

/-- Refused with 429. -/
def AuthAttempt.limited (attempt : AuthAttempt) : Bool :=
  match attempt.outcome with
  | .decided decision => !decision.allowed && decision.statusCode = 429
  | .raised => false

/-! What a call does to what is known of its client. -/

structure ClientView where
  failures : List ℚ
  lockedUntil : Option ℚ

def AuthState.view (state : AuthState) (client : String) : ClientView where
  failures := state.failures client
  lockedUntil := state.lockedUntil client

/-- The call of a client with a configured password, and what it makes of the client's view. -/
inductive ClientStep (call : AuthCall) : ClientView → ClientView → AuthAttempt → Prop
  | turnedAway {view : ClientView} (still : call.now < view.lockedUntil.getD 0)
      (wait : Option Int) :
      ClientStep call view view
        ⟨call, true, .decided { allowed := false, statusCode := 429, retryAfter := wait }⟩
  | raised {view : ClientView} (expired : ¬ call.now < view.lockedUntil.getD 0) :
      ClientStep call view ⟨view.failures, none⟩ ⟨call, false, .raised⟩
  | succeeded {view : ClientView} (expired : ¬ call.now < view.lockedUntil.getD 0) :
      ClientStep call view ⟨[], none⟩ ⟨call, false, .decided { allowed := true }⟩
  | refused {view : ClientView} (expired : ¬ call.now < view.lockedUntil.getD 0)
      (few : (keptFailures view.failures call.now).length < maxFailures) :
      ClientStep call view ⟨keptFailures view.failures call.now, none⟩
        ⟨call, false, .decided { allowed := false, statusCode := 401 }⟩
  | lockedOut {view : ClientView} (expired : ¬ call.now < view.lockedUntil.getD 0)
      (many : maxFailures ≤ (keptFailures view.failures call.now).length) :
      ClientStep call view ⟨[], some (call.now + lockoutSeconds)⟩
        ⟨call, false, .decided { allowed := false, statusCode := 429, retryAfter := some 300 }⟩

theorem tryLogin_call (state : AuthState) (call : AuthCall) : (tryLogin state call).2.call = call :=
  rfl

theorem view_unlocked (state : AuthState) (client : String) :
    (state.unlocked client).view client = ⟨state.failures client, none⟩ := by
  simp only [AuthState.unlocked, AuthState.view, Function.update_self]

/-- The refusal of a client whose lockout is over. -/
theorem recordFailure_step {state : AuthState} {call : AuthCall}
    (expired : ¬ call.now < (state.view call.client).lockedUntil.getD 0) :
    ClientStep call (state.view call.client)
      ((recordFailure (state.unlocked call.client) call.client call.now).1.view call.client)
      ⟨call, false,
        .decided (recordFailure (state.unlocked call.client) call.client call.now).2⟩ := by
  rw [recordFailure]
  split
  · rename_i many
    simp only [AuthState.view, Function.update_self]
    exact .lockedOut expired many
  · rename_i few
    simp only [AuthState.view, AuthState.unlocked, Function.update_self]
    exact .refused expired (Nat.lt_of_not_le few)

/-- A call takes one of the client's steps. -/
theorem tryLogin_step {state : AuthState} {call : AuthCall}
    (configured : call.password.isSome = true) :
    ClientStep call (state.view call.client) ((tryLogin state call).1.view call.client)
      (tryLogin state call).2 := by
  obtain ⟨password, isPassword⟩ := Option.isSome_iff_exists.mp configured
  by_cases still : isLockedOut state call.client call.now = true
  · simp only [tryLogin, authenticate, isPassword, still, Option.isSome_some, Bool.and_self]
    have isStill : call.now < (state.view call.client).lockedUntil.getD 0 :=
      of_decide_eq_true still
    exact .turnedAway isStill _
  · have expired : ¬ call.now < (state.view call.client).lockedUntil.getD 0 :=
      fun locked => still (decide_eq_true locked)
    have shut : isLockedOut state call.client call.now = false := Bool.eq_false_iff.mpr still
    simp only [tryLogin, authenticate, isPassword, shut, Bool.false_eq_true, if_false,
      Bool.and_false]
    rw [evaluate]
    split
    · simp only [view_unlocked]
      exact .raised expired
    · exact recordFailure_step expired
    · split
      · simp only [AuthState.view, Function.update_self]
        exact .succeeded expired
      · exact recordFailure_step expired

theorem recordFailure_other {state : AuthState} {client other : String} (different : other ≠ client)
    (now : ℚ) : (recordFailure state client now).1.view other = state.view other := by
  rw [recordFailure]
  split
  · simp only [AuthState.view, Function.update_of_ne different]
  · simp only [AuthState.view, Function.update_of_ne different]

/-- The calls of other clients leave a client's view as it is. -/
theorem tryLogin_other {state : AuthState} {call : AuthCall} {client : String}
    (other : client ≠ call.client) : (tryLogin state call).1.view client = state.view client := by
  have unlocked : (state.unlocked call.client).view client = state.view client := by
    simp only [AuthState.view, AuthState.unlocked, Function.update_of_ne other]
  simp only [tryLogin, authenticate]
  split
  · rfl
  · split
    · rfl
    · rw [evaluate]
      split
      · exact unlocked
      · exact (recordFailure_other other _).trans unlocked
      · split
        · simp only [AuthState.view, AuthState.unlocked, Function.update_of_ne other]
        · exact (recordFailure_other other _).trans unlocked

/-- A call depends on the view of its client alone. -/
theorem tryLogin_congr {first second : AuthState} {call : AuthCall}
    (same : first.view call.client = second.view call.client) :
    (tryLogin first call).2 = (tryLogin second call).2 ∧
      (tryLogin first call).1.view call.client = (tryLogin second call).1.view call.client := by
  have sameFailures : first.failures call.client = second.failures call.client :=
    congrArg ClientView.failures same
  have sameLock : first.lockedUntil call.client = second.lockedUntil call.client :=
    congrArg ClientView.lockedUntil same
  have sameRecord : (recordFailure (first.unlocked call.client) call.client call.now).2 =
        (recordFailure (second.unlocked call.client) call.client call.now).2 ∧
      (recordFailure (first.unlocked call.client) call.client call.now).1.view call.client =
        (recordFailure (second.unlocked call.client) call.client call.now).1.view call.client := by
    have sameKept : keptFailures ((first.unlocked call.client).failures call.client) call.now =
        keptFailures ((second.unlocked call.client).failures call.client) call.now :=
      congrArg (keptFailures · call.now) sameFailures
    by_cases many : maxFailures ≤
        (keptFailures ((second.unlocked call.client).failures call.client) call.now).length
    · have alsoMany := many
      rw [← sameKept] at alsoMany
      simp only [recordFailure, if_pos many, if_pos alsoMany, AuthState.view,
        Function.update_self, and_self]
    · have alsoFew := many
      rw [← sameKept] at alsoFew
      simp only [recordFailure, if_neg many, if_neg alsoFew, AuthState.view,
        Function.update_self, true_and]
      exact congrArg₂ ClientView.mk sameKept
        (by simp only [AuthState.unlocked, Function.update_self])
  have sameUnlocked : (first.unlocked call.client).view call.client =
      (second.unlocked call.client).view call.client := by
    rw [view_unlocked, view_unlocked, sameFailures]
  have sameShut : isLockedOut first call.client call.now =
      isLockedOut second call.client call.now := by
    rw [isLockedOut, isLockedOut, sameLock]
  have sameEvaluation (password : List UInt8) :
      (evaluate (first.unlocked call.client) call password).2 =
        (evaluate (second.unlocked call.client) call password).2 ∧
      (evaluate (first.unlocked call.client) call password).1.view call.client =
        (evaluate (second.unlocked call.client) call password).1.view call.client := by
    simp only [evaluate]
    cases headerCredentials call.header with
    | raised => exact ⟨rfl, sameUnlocked⟩
    | absent => exact ⟨by simp only [sameRecord.1], sameRecord.2⟩
    | given username candidate =>
        by_cases allowed : credentialsAllowed username candidate password = true
        · simp only [if_pos allowed, AuthState.view, Function.update_self, and_self]
        · simp only [if_neg allowed, sameRecord.1]
          exact ⟨trivial, sameRecord.2⟩
  simp only [tryLogin, authenticate, sameShut, sameLock]
  cases call.password with
  | none => exact ⟨rfl, same⟩
  | some password =>
      cases isLockedOut second call.client call.now with
      | true => exact ⟨rfl, same⟩
      | false =>
          simp only [Bool.false_eq_true, if_false, (sameEvaluation password).1]
          exact ⟨trivial, (sameEvaluation password).2⟩

/-! Runs. -/

theorem maxFailures_pos : 0 < maxFailures := by decide

theorem failureWindow_pos : 0 < failureWindow := by norm_num [failureWindow]

theorem refused_failed {attempt : AuthAttempt} (isRefused : attempt.refused = true) :
    attempt.succeeded = false := by
  obtain ⟨call, turnedAway, outcome⟩ := attempt
  cases outcome with
  | raised => cases isRefused
  | decided decision =>
      simp only [AuthAttempt.refused, Bool.and_eq_true, Bool.not_eq_true'] at isRefused
      exact isRefused.2

theorem attempts_append (state : AuthState) (first second : List AuthCall) :
    attempts state (first ++ second) =
      attempts state first ++ attempts (afterCalls state first) second := by
  induction first generalizing state with
  | nil => rfl
  | cons call rest ih => rw [List.cons_append, attempts, ih, attempts, afterCalls, List.cons_append]

theorem attempts_calls (state : AuthState) (calls : List AuthCall) :
    (attempts state calls).map AuthAttempt.call = calls := by
  induction calls generalizing state with
  | nil => rfl
  | cons call rest ih => rw [attempts, List.map_cons, ih, tryLogin_call]

/-- A part of the attempts belongs to a part of the calls. -/
theorem attempts_split {state : AuthState} {calls : List AuthCall}
    {first second : List AuthAttempt} (split : attempts state calls = first ++ second) :
    ∃ early late, calls = early ++ late ∧ attempts state early = first ∧
      attempts (afterCalls state early) late = second := by
  induction first generalizing state calls with
  | nil => exact ⟨[], calls, rfl, rfl, split⟩
  | cons head rest ih =>
      cases calls with
      | nil => cases split
      | cons call others =>
          rw [attempts, List.cons_append, List.cons.injEq] at split
          obtain ⟨early, late, rfl, isFirst, isSecond⟩ := ih split.2
          exact ⟨call :: early, late, rfl, by rw [attempts, isFirst, split.1], isSecond⟩

def ofClient (client : String) (attempt : AuthAttempt) : Bool := attempt.call.client = client

/-- The attempts of one client are those of its calls alone. -/
theorem attempts_ofClient {first second : AuthState} {client : String}
    (same : first.view client = second.view client) (calls : List AuthCall) :
    (attempts first calls).filter (ofClient client) =
      attempts second (calls.filter fun call => call.client = client) := by
  induction calls generalizing first second with
  | nil => rfl
  | cons call rest ih =>
      rw [attempts]
      by_cases own : call.client = client
      · subst own
        obtain ⟨sameAttempt, sameView⟩ := tryLogin_congr same
        have isOwn : ofClient call.client (tryLogin first call).2 = true := by
          rw [ofClient, tryLogin_call]
          exact decide_eq_true rfl
        rw [List.filter_cons_of_pos isOwn, List.filter_cons_of_pos (by simp), attempts,
          sameAttempt, ih sameView]
      · have notOwn : ¬ ofClient client (tryLogin first call).2 = true :=
          fun isOwn => own (of_decide_eq_true isOwn)
        have dropped : (call :: rest).filter (fun call => call.client = client) =
            rest.filter fun call => call.client = client :=
          List.filter_cons_of_neg fun isOwn => own (of_decide_eq_true isOwn)
        rw [List.filter_cons_of_neg notOwn, dropped]
        exact ih ((tryLogin_other (Ne.symm own)).trans same)

/-! One client in a window. -/

def OwnCalls (client : String) (calls : List AuthCall) : Prop :=
  ∀ call ∈ calls, call.client = client ∧ call.password.isSome = true

theorem OwnCalls.tail {client : String} {call : AuthCall} {rest : List AuthCall}
    (own : OwnCalls client (call :: rest)) : OwnCalls client rest :=
  fun other member => own other (List.mem_cons_of_mem call member)

theorem OwnCalls.step {client : String} {call : AuthCall} {rest : List AuthCall}
    (own : OwnCalls client (call :: rest)) (state : AuthState) :
    ClientStep call (state.view client) ((tryLogin state call).1.view client)
      (tryLogin state call).2 := by
  obtain ⟨rfl, configured⟩ := own call List.mem_cons_self
  exact tryLogin_step configured

/-- During a lockout a call is turned away and changes nothing. -/
theorem ClientStep.duringLockout {call : AuthCall} {view after : ClientView}
    {result : AuthAttempt} (step : ClientStep call view after result) {deadline : ℚ}
    (locked : view.lockedUntil = some deadline) (early : call.now < deadline) :
    after = view ∧ result.limited = true ∧ result.refused = false ∧ result.succeeded = false := by
  have still : call.now < view.lockedUntil.getD 0 := by
    rw [locked]
    exact early
  cases step with
  | turnedAway _ wait => exact ⟨rfl, rfl, rfl, rfl⟩
  | raised expired => exact absurd still expired
  | succeeded expired => exact absurd still expired
  | refused expired few => exact absurd still expired
  | lockedOut expired many => exact absurd still expired

theorem lockout_lasts {client : String} {deadline : ℚ} {state : AuthState}
    {calls : List AuthCall} (own : OwnCalls client calls)
    (locked : (state.view client).lockedUntil = some deadline)
    (early : ∀ call ∈ calls, call.now < deadline) :
    (∀ attempt ∈ attempts state calls, attempt.limited = true ∧ attempt.refused = false) ∧
      (afterCalls state calls).view client = state.view client := by
  induction calls generalizing state with
  | nil => exact ⟨nofun, rfl⟩
  | cons call rest ih =>
      obtain ⟨same, limited, unrefused, _⟩ :=
        (own.step state).duringLockout locked (early call List.mem_cons_self)
      obtain ⟨others, still⟩ := ih own.tail (by rw [same]; exact locked)
        fun other member => early other (List.mem_cons_of_mem call member)
      refine ⟨fun result member => ?_, still.trans same⟩
      rw [attempts, List.mem_cons] at member
      rcases member with rfl | member
      · exact ⟨limited, unrefused⟩
      · exact others result member

/-- In order of time, every attempt before the end of a lockout is turned away. -/
theorem lockout_run {client : String} {deadline : ℚ} {state : AuthState} {calls : List AuthCall}
    (own : OwnCalls client calls) (locked : (state.view client).lockedUntil = some deadline)
    (ordered : calls.Pairwise fun earlier later => earlier.now ≤ later.now)
    {result : AuthAttempt} (member : result ∈ attempts state calls)
    (early : result.call.now < deadline) : result.limited = true := by
  obtain ⟨before, after, isSplit⟩ := List.append_of_mem member
  have whole : attempts state calls = (before ++ [result]) ++ after := by
    rw [isSplit, List.append_assoc, List.singleton_append]
  obtain ⟨first, second, rfl, isFirst, _⟩ := attempts_split whole
  have isCalls : first = before.map AuthAttempt.call ++ [result.call] := by
    rw [← attempts_calls state first, isFirst, List.map_append, List.map_singleton]
  have allEarly : ∀ call ∈ first, call.now < deadline := by
    intro call isCall
    have sorted := (List.pairwise_append.mp ordered).1
    rw [isCalls] at sorted isCall
    rcases List.mem_append.mp isCall with inBefore | isLast
    · have le := (List.pairwise_append.mp sorted).2.2 call inBefore result.call
        (List.mem_singleton_self _)
      exact lt_of_le_of_lt le early
    · rw [List.mem_singleton.mp isLast]
      exact early
  have isOwn : OwnCalls client first :=
    fun call isCall => own call (List.mem_append_left second isCall)
  apply ((lockout_lasts isOwn locked allEarly).1 result _).1
  rw [isFirst]
  exact List.mem_append_right before (List.mem_singleton_self _)

/-- The failures that fall into the window. -/
def recent (window : ℚ → Bool) (view : ClientView) : Nat := view.failures.countP window

/-- Times that lie less than the failure window apart. -/
def Short (window : ℚ → Bool) : Prop :=
  ∀ first second, window first = true → window second = true → second < first + failureWindow

/-- What falls into the window is not pruned by a call in it. -/
theorem recent_kept {window : ℚ → Bool} (short : Short window) (view : ClientView) {now : ℚ}
    (inside : window now = true) (lockedUntil : Option ℚ) :
    recent window ⟨keptFailures view.failures now, lockedUntil⟩ = recent window view + 1 := by
  have pruned (failures : List ℚ) :
      (failures.dropWhile (· ≤ now - failureWindow)).countP window = failures.countP window := by
    induction failures with
    | nil => rfl
    | cons first rest ih =>
        by_cases old : first ≤ now - failureWindow
        · have outside : ¬ window first = true := by
            intro inWindow
            have near := short first now inWindow inside
            linarith
          rw [List.dropWhile_cons_of_pos (by simpa using old), ih,
            List.countP_cons_of_neg outside]
        · rw [List.dropWhile_cons_of_neg (by simpa using old)]
  rw [recent, recent, keptFailures, List.countP_append, pruned, List.countP_singleton,
    if_pos inside]

/-- One call in the window. -/
theorem ClientStep.inWindow {call : AuthCall} {view after : ClientView} {result : AuthAttempt}
    (step : ClientStep call view after result) {window : ℚ → Bool} (short : Short window)
    (inside : window call.now = true) (few : view.failures.length < maxFailures)
    (unsuccessful : result.succeeded = false) :
    (after.lockedUntil = some (call.now + lockoutSeconds) ∧ result.refused = true) ∨
      (recent window after = recent window view + (if result.refused then 1 else 0) ∧
        after.failures.length < maxFailures) := by
  cases step with
  | turnedAway _ wait => exact .inr ⟨rfl, few⟩
  | raised expired => exact .inr ⟨rfl, few⟩
  | succeeded expired => cases unsuccessful
  | refused expired stillFew => exact .inr ⟨recent_kept short view inside none, stillFew⟩
  | lockedOut expired many => exact .inl ⟨rfl, rfl⟩

theorem recent_le (window : ℚ → Bool) (view : ClientView) :
    recent window view ≤ view.failures.length := List.countP_le_length

/-- What a run in the window leaves: a lockout that outlasts it, or all its refusals. -/
theorem window_run {client : String} {window : ℚ → Bool} (short : Short window)
    {state : AuthState} {calls : List AuthCall} (own : OwnCalls client calls)
    (inside : ∀ call ∈ calls, window call.now = true)
    (few : (state.view client).failures.length < maxFailures)
    (unsuccessful : ∀ attempt ∈ attempts state calls, attempt.succeeded = false) :
    (((attempts state calls).countP AuthAttempt.refused + recent window (state.view client) ≤
        maxFailures) ∧
      ∃ deadline, ((afterCalls state calls).view client).lockedUntil = some deadline ∧
        ∀ time, window time = true → time < deadline) ∨
      ((attempts state calls).countP AuthAttempt.refused + recent window (state.view client) =
          recent window ((afterCalls state calls).view client) ∧
        ((afterCalls state calls).view client).failures.length < maxFailures) := by
  induction calls generalizing state with
  | nil =>
      right
      rw [attempts, List.countP_nil, Nat.zero_add]
      exact ⟨rfl, few⟩
  | cons call rest ih =>
      have atHead := inside call List.mem_cons_self
      have inRest : ∀ other ∈ rest, window other.now = true :=
        fun other member => inside other (List.mem_cons_of_mem call member)
      have failed : ∀ result ∈ attempts (tryLogin state call).1 rest, result.succeeded = false :=
        fun result member => unsuccessful result (List.mem_cons_of_mem _ member)
      have counted : (attempts state (call :: rest)).countP AuthAttempt.refused =
          (attempts (tryLogin state call).1 rest).countP AuthAttempt.refused +
            if (tryLogin state call).2.refused then 1 else 0 := by
        rw [attempts, List.countP_cons]
      rw [counted, afterCalls]
      rcases (own.step state).inWindow short atHead few
        (unsuccessful _ List.mem_cons_self) with ⟨locked, isRefused⟩ | ⟨same, stillFew⟩
      · -- The lockout outlasts the window, so nothing else is evaluated in it.
        have outlasts : ∀ time, window time = true → time < call.now + lockoutSeconds :=
          fun time inWindow => short call.now time atHead inWindow
        obtain ⟨turnedAway, still⟩ := lockout_lasts own.tail locked
          fun other member => outlasts other.now (inRest other member)
        have none : (attempts (tryLogin state call).1 rest).countP AuthAttempt.refused = 0 := by
          rw [List.countP_eq_zero]
          intro result member
          rw [(turnedAway result member).2]
          exact Bool.false_ne_true
        refine .inl ⟨?_, _, ?_, outlasts⟩
        · have := recent_le window (state.view client)
          rw [none, if_pos isRefused]
          omega
        · rw [still]
          exact locked
      · rcases ih own.tail inRest stillFew failed with ⟨bound, locked⟩ | ⟨kept, isFew⟩
        · exact .inl ⟨by omega, locked⟩
        · exact .inr ⟨by omega, isFew⟩

/-- A client never has all the failures that lock it out. -/
theorem failures_few {client : String} {state : AuthState} {calls : List AuthCall}
    (own : OwnCalls client calls) (few : (state.view client).failures.length < maxFailures) :
    ((afterCalls state calls).view client).failures.length < maxFailures := by
  induction calls generalizing state with
  | nil => exact few
  | cons call rest ih =>
      apply ih own.tail
      have step := own.step state
      generalize state.view client = view at step few
      generalize (tryLogin state call).1.view client = after at step
      generalize (tryLogin state call).2 = result at step
      cases step with
      | turnedAway still wait => exact few
      | raised expired => exact few
      | succeeded expired => exact maxFailures_pos
      | refused expired stillFew => exact stillFew
      | lockedOut expired many => exact maxFailures_pos

/-! Windows of time. -/

/-- The times of a half-open window, which holds either its start or its end. -/
def halfOpen (hasStart : Bool) (start time : ℚ) : Bool :=
  (if hasStart then start ≤ time else start < time) &&
    if hasStart then time < start + failureWindow else time ≤ start + failureWindow

theorem halfOpen_short (hasStart : Bool) (start : ℚ) : Short (halfOpen hasStart start) := by
  intro first second inFirst inSecond
  cases hasStart with
  | true =>
      simp only [halfOpen, if_true, Bool.and_eq_true, decide_eq_true_eq] at inFirst inSecond
      linarith
  | false =>
      simp only [halfOpen, Bool.false_eq_true, if_false, Bool.and_eq_true, decide_eq_true_eq]
        at inFirst inSecond
      linarith

/-- Past the start of a list in order, what holds of early times alone holds no more. -/
theorem dropWhile_ordered {early : ℚ → Bool}
    (down : ∀ first second, first ≤ second → early second = true → early first = true)
    {calls : List AuthCall}
    (ordered : calls.Pairwise fun earlier later => earlier.now ≤ later.now) :
    ∀ call ∈ calls.dropWhile (early ·.now), early call.now = false := by
  intro call member
  have stops := head_dropWhile (fun call : AuthCall => early call.now) calls
  have sorted := ordered.sublist (List.dropWhile_sublist (early ·.now))
  cases isRest : calls.dropWhile (early ·.now) with
  | nil =>
      rw [isRest] at member
      cases member
  | cons head tail =>
      rw [isRest] at member stops sorted
      have late := stops head rfl
      rcases List.mem_cons.mp member with rfl | member
      · exact late
      · rw [Bool.eq_false_iff]
        intro isEarly
        rw [down _ _ ((List.pairwise_cons.mp sorted).1 call member) isEarly] at late
        cases late

/-- In order of time, the calls in a window stand together. -/
theorem window_together (hasStart : Bool) (start : ℚ) {calls : List AuthCall}
    (ordered : calls.Pairwise fun earlier later => earlier.now ≤ later.now) :
    ∃ before inside after, calls = before ++ (inside ++ after) ∧
      (∀ call ∈ inside, halfOpen hasStart start call.now = true) ∧
      (∀ call ∈ before, halfOpen hasStart start call.now = false) ∧
      ∀ call ∈ after, halfOpen hasStart start call.now = false := by
  let early (time : ℚ) : Bool := !if hasStart then start ≤ time else start < time
  let soon (time : ℚ) : Bool :=
    if hasStart then time < start + failureWindow else time ≤ start + failureWindow
  have isWindow (time : ℚ) : halfOpen hasStart start time = (!early time && soon time) := by
    simp only [halfOpen, early, soon, Bool.not_not]
  have earlyDown (first second : ℚ) (le : first ≤ second) (isEarly : early second = true) :
      early first = true := by
    cases hasStart with
    | true =>
        simp only [early, if_true, Bool.not_eq_true', decide_eq_false_iff_not, not_le] at isEarly ⊢
        linarith
    | false =>
        simp only [early, Bool.false_eq_true, if_false, Bool.not_eq_true',
          decide_eq_false_iff_not, not_lt] at isEarly ⊢
        linarith
  have soonDown (first second : ℚ) (le : first ≤ second) (isSoon : soon second = true) :
      soon first = true := by
    cases hasStart with
    | true =>
        simp only [soon, if_true, decide_eq_true_eq] at isSoon ⊢
        linarith
    | false =>
        simp only [soon, Bool.false_eq_true, if_false, decide_eq_true_eq] at isSoon ⊢
        linarith
  let rest := calls.dropWhile (early ·.now)
  have sorted := ordered.sublist (List.dropWhile_sublist (early ·.now))
  refine ⟨calls.takeWhile (early ·.now), rest.takeWhile (soon ·.now), rest.dropWhile (soon ·.now),
    ?_, ?_, ?_, ?_⟩
  · rw [List.takeWhile_append_dropWhile, List.takeWhile_append_dropWhile]
  · intro call member
    have isLate := dropWhile_ordered earlyDown ordered call
      ((List.takeWhile_sublist _).subset member)
    rw [isWindow, isLate, List.mem_takeWhile_imp member]
    rfl
  · intro call member
    rw [isWindow, List.mem_takeWhile_imp member]
    rfl
  · intro call member
    rw [isWindow, dropWhile_ordered soonDown sorted call member, Bool.and_false]

/-! The bound on guessing. -/

/-- At most five refusals of a client in a window without its login; a lockout after the fifth;
and no influence of one client on another. -/
structure BruteForceBounded (calls : List AuthCall) : Prop where
  window : ∀ client hasStart start,
    (∀ attempt ∈ attempts {} calls, attempt.call.client = client →
      halfOpen hasStart start attempt.call.now = true → attempt.succeeded = false) →
    (attempts {} calls).countP (fun attempt =>
      (attempt.refused && halfOpen hasStart start attempt.call.now) && ofClient client attempt) ≤
        maxFailures
  lockout : ∀ earlier within fifth later,
    attempts {} calls = earlier ++ within ++ fifth :: later → fifth.refused = true →
    (∀ attempt ∈ within, attempt.call.client = fifth.call.client →
      attempt.succeeded = false ∧ fifth.call.now < attempt.call.now + failureWindow) →
    within.countP (fun attempt => attempt.refused && ofClient fifth.call.client attempt) + 1 =
      maxFailures →
    ∀ attempt ∈ later, attempt.call.client = fifth.call.client →
      attempt.call.now < fifth.call.now + lockoutSeconds → attempt.limited = true
  independent : ∀ client, (attempts {} calls).filter (ofClient client) =
    attempts {} (calls.filter fun call => call.client = client)

theorem tryLogin_member {state : AuthState} {calls : List AuthCall} {result : AuthAttempt}
    (member : result ∈ attempts state calls) : result.call ∈ calls := by
  rw [← attempts_calls state calls]
  exact List.mem_map_of_mem member

theorem window_bound {client : String} {calls : List AuthCall} (own : OwnCalls client calls)
    (ordered : calls.Pairwise fun earlier later => earlier.now ≤ later.now) (hasStart : Bool)
    (start : ℚ)
    (unsuccessful : ∀ attempt ∈ attempts {} calls,
      halfOpen hasStart start attempt.call.now = true → attempt.succeeded = false) :
    (attempts {} calls).countP (fun attempt =>
      attempt.refused && halfOpen hasStart start attempt.call.now) ≤ maxFailures := by
  obtain ⟨before, inside, after, rfl, isInside, isBefore, isAfter⟩ :=
    window_together hasStart start ordered
  have outside {state : AuthState} {calls : List AuthCall}
      (out : ∀ call ∈ calls, halfOpen hasStart start call.now = false) :
      (attempts state calls).countP (fun attempt =>
        attempt.refused && halfOpen hasStart start attempt.call.now) = 0 := by
    rw [List.countP_eq_zero]
    intro result member
    rw [out _ (tryLogin_member member), Bool.and_false]
    exact Bool.false_ne_true
  have ownBefore : OwnCalls client before :=
    fun call member => own call (List.mem_append_left _ member)
  have ownInside : OwnCalls client inside :=
    fun call member => own call (List.mem_append_right _ (List.mem_append_left _ member))
  have few := @failures_few client {} before ownBefore maxFailures_pos
  rw [attempts_append, attempts_append] at unsuccessful ⊢
  rw [List.countP_append, List.countP_append, outside isBefore, outside isAfter, Nat.zero_add,
    Nat.add_zero]
  have failed : ∀ result ∈ attempts (afterCalls {} before) inside, result.succeeded = false :=
    fun result member => unsuccessful result
      (List.mem_append_right _ (List.mem_append_left _ member))
      (isInside _ (tryLogin_member member))
  have counted : (attempts (afterCalls {} before) inside).countP (fun attempt =>
      attempt.refused && halfOpen hasStart start attempt.call.now) ≤
        (attempts (afterCalls {} before) inside).countP AuthAttempt.refused :=
    List.countP_mono_left fun result _ both => (Bool.and_eq_true_iff.mp both).1
  rcases window_run (halfOpen_short hasStart start) ownInside isInside few failed with
    ⟨bound, _⟩ | ⟨kept, isFew⟩
  · omega
  · have := recent_le (halfOpen hasStart start)
      ((afterCalls (afterCalls {} before) inside).view client)
    omega

/-- After the fifth refusal in a short time, the client is limited until the lockout ends. -/
theorem lockout_bound {client : String} {calls : List AuthCall} (own : OwnCalls client calls)
    (ordered : calls.Pairwise fun earlier later => earlier.now ≤ later.now)
    {earlier within later : List AuthAttempt} {fifth : AuthAttempt}
    (isSplit : attempts {} calls = earlier ++ (within ++ fifth :: later))
    (isRefused : fifth.refused = true)
    (near : ∀ attempt ∈ within, attempt.succeeded = false ∧
      fifth.call.now < attempt.call.now + failureWindow)
    (four : within.countP AuthAttempt.refused + 1 = maxFailures) :
    ∀ attempt ∈ later, attempt.call.now < fifth.call.now + lockoutSeconds →
      attempt.limited = true := by
  obtain ⟨first, others, rfl, _, isOthers⟩ := attempts_split isSplit
  obtain ⟨second, last, rfl, isWithin, isLast⟩ := attempts_split isOthers
  cases last with
  | nil => cases isLast
  | cons call final =>
      rw [attempts, List.cons.injEq] at isLast
      obtain ⟨isFifth, isLater⟩ := isLast
      have isCall : fifth.call = call := by rw [← isFifth, tryLogin_call]
      have ownFirst : OwnCalls client first :=
        fun other member => own other (List.mem_append_left _ member)
      have ownSecond : OwnCalls client second :=
        fun other member => own other (List.mem_append_right _ (List.mem_append_left _ member))
      have ownLast : OwnCalls client (call :: final) :=
        fun other member => own other (List.mem_append_right _ (List.mem_append_right _ member))
      have sorted := (List.pairwise_append.mp (List.pairwise_append.mp ordered).2.1)
      -- The window ends with the fifth refusal.
      let window (time : ℚ) : Bool := time ≤ call.now && call.now < time + failureWindow
      have short : Short window := by
        intro earlier later inEarlier inLater
        simp only [window, Bool.and_eq_true, decide_eq_true_eq] at inEarlier inLater
        linarith
      have inside : ∀ other ∈ second, window other.now = true := by
        intro other member
        have before := sorted.2.2 other member call List.mem_cons_self
        rw [← attempts_calls (afterCalls {} first) second, isWithin] at member
        obtain ⟨result, isResult, rfl⟩ := List.mem_map.mp member
        have close := (near result isResult).2
        rw [isCall] at close
        simp only [window, Bool.and_eq_true, decide_eq_true_eq]
        exact ⟨before, close⟩
      have atCall : window call.now = true := by
        simp only [window, Bool.and_eq_true, decide_eq_true_eq]
        exact ⟨le_refl _, lt_add_of_pos_right _ failureWindow_pos⟩
      have few := @failures_few client {} first ownFirst maxFailures_pos
      have run := window_run short ownSecond inside few (by
        rw [isWithin]
        exact fun result member => (near result member).1)
      have step := ownLast.step (afterCalls (afterCalls {} first) second)
      rw [isFifth] at step
      have unsuccessful := refused_failed isRefused
      rw [isWithin] at run
      intro result member early
      rw [← isLater] at member
      rw [isCall] at early
      have orderedFinal := (List.pairwise_cons.mp sorted.2.1).2
      refine lockout_run ownLast.tail ?_ orderedFinal member early
      rcases run with ⟨_, deadline, locked, outlasts⟩ | ⟨kept, isFew⟩
      · have turnedAway := step.duringLockout locked (outlasts call.now atCall)
        rw [turnedAway.2.2.1] at isRefused
        cases isRefused
      · rcases step.inWindow short atCall isFew unsuccessful with ⟨locked, _⟩ | ⟨more, stillFew⟩
        · exact locked
        · have := recent_le window ((tryLogin (afterCalls (afterCalls {} first) second) call).1.view
            client)
          rw [if_pos isRefused] at more
          omega

theorem brute_force_bounded {calls : List AuthCall}
    (ordered : calls.Pairwise fun earlier later => earlier.now ≤ later.now)
    (configured : ∀ call ∈ calls, call.password.isSome = true) : BruteForceBounded calls := by
  have own (client : String) :
      OwnCalls client (calls.filter fun call => call.client = client) := by
    intro call member
    obtain ⟨isCall, isOwn⟩ := List.mem_filter.mp member
    exact ⟨of_decide_eq_true isOwn, configured call isCall⟩
  have sorted (client : String) :
      (calls.filter fun call => call.client = client).Pairwise
        fun earlier later => earlier.now ≤ later.now := ordered.sublist List.filter_sublist
  have independent (client : String) : (attempts {} calls).filter (ofClient client) =
      attempts {} (calls.filter fun call => call.client = client) := attempts_ofClient rfl calls
  refine ⟨?_, ?_, independent⟩
  · intro client hasStart start unsuccessful
    rw [← List.countP_filter, independent client]
    apply window_bound (own client) (sorted client)
    intro result member inWindow
    rw [← independent client] at member
    obtain ⟨isAttempt, isOwn⟩ := List.mem_filter.mp member
    exact unsuccessful result isAttempt (of_decide_eq_true isOwn) inWindow
  · intro earlier within fifth later isSplit isRefused near four result member isClient early
    have isFifth : ofClient fifth.call.client fifth = true := decide_eq_true rfl
    have whole := independent fifth.call.client
    rw [isSplit, List.append_assoc, List.filter_append, List.filter_append,
      List.filter_cons_of_pos isFifth] at whole
    rw [← List.countP_filter] at four
    refine lockout_bound (own fifth.call.client) (sorted fifth.call.client) whole.symm isRefused
      ?_ four result (List.mem_filter.mpr ⟨member, decide_eq_true isClient⟩) early
    intro attempt isAttempt
    obtain ⟨inWithin, isOwn⟩ := List.mem_filter.mp isAttempt
    exact near attempt inWithin (of_decide_eq_true isOwn)

/-- Calls of two clients, one of which guesses. -/
def guessingCalls : List AuthCall := [
  { client := "guest", password := some [1], header := none, now := 1 },
  { client := "guest", password := some [1], header := some "Basic !", now := 1 },
  { client := "admin", password := some [1], header := none, now := 2 },
  { client := "guest", password := some [1], header := none, now := 301 }]

theorem guessing_bounded : BruteForceBounded guessingCalls := by
  refine brute_force_bounded ?_ (by decide)
  simp only [guessingCalls, List.pairwise_cons, List.mem_cons, List.not_mem_nil, or_false]
  norm_num

end CamAdmiral
