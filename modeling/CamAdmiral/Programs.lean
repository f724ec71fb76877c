import Mathlib.Data.List.Basic

/-!
Programs over a state that may fail. What a failed program has done stays done, and a
handler goes on from there.
-/

namespace CamAdmiral

theorem except_bind {ε β γ : Type} {early : Except ε β} {next : β → Except ε γ} {value : γ}
    (isDone : early >>= next = .ok value) :
    ∃ first, early = .ok first ∧ next first = .ok value := by
  cases early with
  | error failure => cases isDone
  | ok first => exact ⟨first, rfl, isDone⟩

theorem mem_mapM_ok {ε β γ : Type} {change : β → Except ε γ} {items : List β} {results : List γ}
    (done : items.mapM change = .ok results) {result : γ} (member : result ∈ results) :
    ∃ item ∈ items, change item = .ok result := by
  induction items generalizing results with
  | nil =>
      obtain rfl : [] = results := Except.ok.inj done
      cases member
  | cons item rest ih =>
      rw [List.mapM_cons] at done
      obtain ⟨first, isFirst, done⟩ := except_bind done
      obtain ⟨others, isOthers, done⟩ := except_bind done
      obtain rfl : first :: others = results := Except.ok.inj done
      rcases List.mem_cons.mp member with rfl | isLater
      · exact ⟨item, List.mem_cons_self, isFirst⟩
      · obtain ⟨source, isSource, isResult⟩ := ih isOthers isLater
        exact ⟨source, List.mem_cons_of_mem _ isSource, isResult⟩

theorem mapM_ok_of_mem {ε β γ : Type} {change : β → Except ε γ} {items : List β}
    {results : List γ} (done : items.mapM change = .ok results) {item : β}
    (member : item ∈ items) : ∃ result ∈ results, change item = .ok result := by
  induction items generalizing results with
  | nil => cases member
  | cons first rest ih =>
      rw [List.mapM_cons] at done
      obtain ⟨result, isFirst, done⟩ := except_bind done
      obtain ⟨others, isOthers, done⟩ := except_bind done
      obtain rfl : result :: others = results := Except.ok.inj done
      rcases List.mem_cons.mp member with rfl | isLater
      · exact ⟨result, List.mem_cons_self, isFirst⟩
      · obtain ⟨later, isResult, isDone⟩ := ih isOthers isLater
        exact ⟨later, List.mem_cons_of_mem _ isResult, isDone⟩

/-- A program over states `σ` with failures `ε`. -/
def Program (ε σ α : Type) : Type := σ → Except ε α × σ

namespace Program

variable {ε σ α β : Type}

def andThen (program : Program ε σ α) (next : α → Program ε σ β) : Program ε σ β :=
  fun state => match program state with
    | (.ok value, later) => next value later
    | (.error failure, later) => (.error failure, later)

instance : Monad (Program ε σ) where
  pure value state := (.ok value, state)
  bind := andThen

def fail (failure : ε) : Program ε σ α := fun state => (.error failure, state)

def ofExcept (result : Except ε α) : Program ε σ α := fun state => (result, state)

def read (view : σ → α) : Program ε σ α := fun state => (.ok (view state), state)

def modify (change : σ → σ) : Program ε σ Unit := fun state => (.ok (), change state)

/-- `try … except`. -/
def handle (program : Program ε σ α) (handler : ε → Program ε σ α) : Program ε σ α :=
  fun state => match program state with
    | (.ok value, later) => (.ok value, later)
    | (.error failure, later) => handler failure later

/-- The program once for each element, until one fails. -/
def each (program : β → Program ε σ Unit) : List β → Program ε σ Unit
  | [] => pure ()
  | first :: rest => do
      program first
      each program rest

/-- The program once for each element, with a value that goes from one to the next. -/
def eachWith (program : α → β → Program ε σ α) (value : α) : List β → Program ε σ α
  | [] => pure value
  | first :: rest => do
      let next ← program value first
      eachWith program next rest

theorem bind_assoc {γ : Type} (program : Program ε σ α) (next : α → Program ε σ β)
    (last : β → Program ε σ γ) :
    (program >>= next) >>= last = program >>= fun value => next value >>= last := by
  funext state
  change andThen (andThen program next) last state = andThen program _ state
  unfold andThen
  cases program state with
  | mk result later => cases result <;> rfl

/-! Pre- and postconditions. A failure has a postcondition of its own. -/

def Ends (done : α → σ → Prop) (failed : σ → Prop) : Except ε α × σ → Prop
  | (.ok value, later) => done value later
  | (.error _, later) => failed later

def Triple (before : σ → Prop) (program : Program ε σ α) (done : α → σ → Prop)
    (failed : σ → Prop) : Prop :=
  ∀ state, before state → Ends done failed (program state)

variable {before : σ → Prop} {failed : σ → Prop}

theorem triple_pure {done : α → σ → Prop} (value : α)
    (holds : ∀ state, before state → done value state) :
    Triple before (pure value : Program ε σ α) done failed :=
  holds

theorem triple_fail {done : α → σ → Prop} (failure : ε)
    (holds : ∀ state, before state → failed state) :
    Triple before (fail failure : Program ε σ α) done failed :=
  holds

theorem triple_read {done : α → σ → Prop} (view : σ → α)
    (holds : ∀ state, before state → done (view state) state) :
    Triple before (read view : Program ε σ α) done failed :=
  holds

theorem triple_modify {done : Unit → σ → Prop} (change : σ → σ)
    (holds : ∀ state, before state → done () (change state)) :
    Triple before (modify change : Program ε σ Unit) done failed :=
  holds

theorem triple_ofExcept {done : α → σ → Prop} {result : Except ε α}
    (holds : ∀ value, result = .ok value → ∀ state, before state → done value state)
    (fails : ∀ state, before state → failed state) :
    Triple before (ofExcept result : Program ε σ α) done failed := by
  cases result with
  | ok value => exact holds value rfl
  | error failure => exact fails

theorem Triple.bind {program : Program ε σ α} {next : α → Program ε σ β}
    {done : β → σ → Prop} (mid : α → σ → Prop) (early : Triple before program mid failed)
    (late : ∀ value, Triple (mid value) (next value) done failed) :
    Triple before (program >>= next) done failed := by
  intro state holds
  have first := early state holds
  change Ends done failed (andThen program next state)
  unfold andThen
  match program state, first with
  | (.ok value, later), isMid => exact late value later isMid
  | (.error failure, later), isFailed => exact isFailed

/-- What follows a result that is known. -/
theorem triple_ofExcept_bind {result : Except ε α} {next : α → Program ε σ β}
    {done : β → σ → Prop} (late : ∀ value, result = .ok value →
      Triple before (next value) done failed)
    (fails : ∀ failure, result = .error failure → ∀ state, before state → failed state) :
    Triple before (ofExcept result >>= next) done failed := by
  cases result with
  | ok value => exact late value rfl
  | error failure => exact fails failure rfl

theorem Triple.handle {program : Program ε σ α} {handler : ε → Program ε σ α}
    {done : α → σ → Prop} {caught : σ → Prop} (early : Triple before program done caught)
    (late : ∀ failure, Triple caught (handler failure) done failed) :
    Triple before (program.handle handler) done failed := by
  intro state holds
  have first := early state holds
  unfold Program.handle
  match program state, first with
  | (.ok value, later), isDone => exact isDone
  | (.error failure, later), isCaught => exact late failure later isCaught

theorem Triple.weaken {program : Program ε σ α} {done : α → σ → Prop} {stronger : σ → Prop}
    {weakerDone : α → σ → Prop} {weakerFailed : σ → Prop}
    (triple : Triple before program done failed)
    (early : ∀ state, stronger state → before state)
    (late : ∀ value state, done value state → weakerDone value state)
    (fails : ∀ state, failed state → weakerFailed state) :
    Triple stronger program weakerDone weakerFailed := by
  intro state holds
  have first := triple state (early state holds)
  match program state, first with
  | (.ok value, later), isDone => exact late value later isDone
  | (.error failure, later), isFailed => exact fails later isFailed

theorem Triple.and {program : Program ε σ α} {other otherFailed : σ → Prop}
    {done otherDone : α → σ → Prop} (first : Triple before program done failed)
    (second : Triple other program otherDone otherFailed) :
    Triple (fun state => before state ∧ other state) program
      (fun value state => done value state ∧ otherDone value state)
      (fun state => failed state ∧ otherFailed state) := by
  intro state holds
  have isFirst := first state holds.1
  have isSecond := second state holds.2
  match program state, isFirst, isSecond with
  | (.ok value, later), isDone, isOther => exact ⟨isDone, isOther⟩
  | (.error failure, later), isFailed, isOther => exact ⟨isFailed, isOther⟩

/-- A postcondition that does not tell a failure from a value. -/
theorem Triple.ends {after : σ → Prop} {program : Program ε σ α}
    (triple : Triple before program (fun _ => after) after) {state : σ} (holds : before state) :
    after (program state).2 := by
  have first := triple state holds
  match program state, first with
  | (.ok _, _), isDone => exact isDone
  | (.error _, _), isFailed => exact isFailed

theorem Triple.of_ends {after : σ → Prop} {program : Program ε σ α} {state : σ}
    (holds : after (program state).2) :
    Triple (· = state) program (fun _ => after) after := by
  intro start isStart
  rw [isStart]
  match program state, holds with
  | (.ok _, _), isDone => exact isDone
  | (.error _, _), isFailed => exact isFailed

/-! Loops. The invariant of a loop may speak of the elements that are left. -/

theorem triple_each {program : β → Program ε σ Unit} {left : List β → σ → Prop}
    (step : ∀ first rest, Triple (left (first :: rest)) (program first)
      (fun _ => left rest) failed) (elements : List β) :
    Triple (left elements) (each program elements) (fun _ => left []) failed := by
  induction elements with
  | nil => exact triple_pure () fun _ => id
  | cons first rest ih => exact (step first rest).bind _ fun _ => ih

theorem triple_eachWith {program : α → β → Program ε σ α} {left : List β → α → σ → Prop}
    (step : ∀ first rest value, Triple (left (first :: rest) value) (program value first)
      (left rest) failed) (elements : List β) (value : α) :
    Triple (left elements value) (eachWith program value elements) (left []) failed := by
  induction elements generalizing value with
  | nil => exact triple_pure value fun _ => id
  | cons first rest ih => exact (step first rest value).bind _ ih

/-- The invariant holds at the end, whatever happens. -/
def Preserves (invariant : σ → Prop) (program : Program ε σ α) : Prop :=
  Triple invariant program (fun _ => invariant) invariant

variable {invariant : σ → Prop}

theorem Preserves.holds {program : Program ε σ α} (preserves : Preserves invariant program)
    {state : σ} (holds : invariant state) : invariant (program state).2 :=
  preserves.ends holds

theorem preserves_pure (value : α) : Preserves invariant (pure value : Program ε σ α) :=
  triple_pure value fun _ => id

theorem preserves_fail (failure : ε) : Preserves invariant (fail failure : Program ε σ α) :=
  triple_fail failure fun _ => id

theorem preserves_read (view : σ → α) : Preserves invariant (read view : Program ε σ α) :=
  triple_read view fun _ => id

theorem preserves_ofExcept (result : Except ε α) :
    Preserves invariant (ofExcept result : Program ε σ α) :=
  triple_ofExcept (fun _ _ _ => id) fun _ => id

theorem Preserves.bind {program : Program ε σ α} {next : α → Program ε σ β}
    (early : Preserves invariant program) (late : ∀ value, Preserves invariant (next value)) :
    Preserves invariant (program >>= next) :=
  Triple.bind _ early late

theorem preserves_ofExcept_bind {result : Except ε α} {next : α → Program ε σ β}
    (late : ∀ value, result = .ok value → Preserves invariant (next value)) :
    Preserves invariant (ofExcept result >>= next) :=
  triple_ofExcept_bind late fun _ _ _ => id

theorem preserves_each {program : β → Program ε σ Unit} {elements : List β}
    (each : ∀ element ∈ elements, Preserves invariant (program element)) :
    Preserves invariant (Program.each program elements) := by
  induction elements with
  | nil => exact preserves_pure ()
  | cons first rest ih =>
      have tail := ih fun element member => each element (List.mem_cons_of_mem _ member)
      exact (each first List.mem_cons_self).bind fun _ => tail

end Program

end CamAdmiral
