import StreamServer.Shared.Checked

set_option autoImplicit false

namespace Loops

variable {E S A I : Type}

inductive Turn (S A : Type) where
  | again (state : S)
  | done (result : A)

def Turn.Leads (invariant : S → Prop) (post : A → Prop) : Turn S A → Prop
  | .again next => invariant next
  | .done result => post result

def Turn.resume (onward : S → Except E A) : Turn S A → Except E A
  | .again next => onward next
  | .done result => .ok result

/-- A loop with the measure that every further turn lowers. -/
structure Loop (E S A : Type) where
  turn : S → Except E (Turn S A)
  size : S → Nat
  lowers : ∀ state next, turn state = .ok (.again next) → size next < size state

namespace Loop

variable (loop : Loop E S A)

def runFor : (turns : Nat) → (state : S) → loop.size state < turns → Except E A
  | 0, _, room => absurd room (Nat.not_lt_zero _)
  | turns + 1, state, room =>
    match taken : loop.turn state with
    | .error error => .error error
    | .ok (.done result) => .ok result
    | .ok (.again next) =>
        runFor turns next (Nat.lt_of_lt_of_le (loop.lowers state next taken) (Nat.le_of_lt_succ room))

def run (state : S) : Except E A :=
  loop.runFor (loop.size state + 1) state (Nat.lt_succ_self _)

variable {loop} {state next : S} {result : A} {error : E}

theorem runFor_done {turns : Nat} (room : loop.size state < turns)
    (taken : loop.turn state = .ok (.done result)) : loop.runFor turns state room = .ok result := by
  cases turns with
  | zero => exact absurd room (Nat.not_lt_zero _)
  | succ turns =>
    unfold runFor
    split
    next other => cases taken.symm.trans other
    next other => cases taken.symm.trans other; rfl
    next other => cases taken.symm.trans other

theorem runFor_error {turns : Nat} (room : loop.size state < turns)
    (taken : loop.turn state = .error error) : loop.runFor turns state room = .error error := by
  cases turns with
  | zero => exact absurd room (Nat.not_lt_zero _)
  | succ turns =>
    unfold runFor
    split
    next other => cases taken.symm.trans other; rfl
    next other => cases taken.symm.trans other
    next other => cases taken.symm.trans other

theorem runFor_again {turns : Nat} (room : loop.size state < turns + 1)
    (taken : loop.turn state = .ok (.again next)) :
    ∃ left, loop.runFor (turns + 1) state room = loop.runFor turns next left := by
  refine ⟨Nat.lt_of_lt_of_le (loop.lowers state next taken) (Nat.le_of_lt_succ room), ?_⟩
  conv => lhs; unfold runFor
  split
  next other => cases taken.symm.trans other
  next other => cases taken.symm.trans other
  next other => cases taken.symm.trans other; rfl

/-- How many turns are allowed makes no difference once they are enough. -/
theorem runFor_enough (turns : Nat) :
    ∀ (other : Nat) (state : S) (room : loop.size state < turns) (room' : loop.size state < other),
      loop.runFor turns state room = loop.runFor other state room' := by
  induction turns with
  | zero =>
    intro other state room
    exact absurd room (Nat.not_lt_zero _)
  | succ turns ih =>
    intro other state room room'
    cases other with
    | zero => exact absurd room' (Nat.not_lt_zero _)
    | succ other =>
      cases taken : loop.turn state with
      | error error => rw [runFor_error _ taken, runFor_error _ taken]
      | ok turn =>
        cases turn with
        | done result => rw [runFor_done _ taken, runFor_done _ taken]
        | again next =>
          obtain ⟨left, same⟩ := runFor_again room taken
          obtain ⟨left', same'⟩ := runFor_again room' taken
          rw [same, same']
          exact ih other next left left'

theorem run_done (taken : loop.turn state = .ok (.done result)) : loop.run state = .ok result :=
  runFor_done _ taken

theorem run_error (taken : loop.turn state = .error error) : loop.run state = .error error :=
  runFor_error _ taken

theorem run_again (taken : loop.turn state = .ok (.again next)) :
    loop.run state = loop.run next := by
  obtain ⟨left, same⟩ := runFor_again (Nat.lt_succ_self _) taken
  exact same.trans (runFor_enough _ _ _ _ _)

theorem run_eq (loop : Loop E S A) (state : S) :
    loop.run state = (loop.turn state).bind fun turn =>
      match turn with
      | .again next => loop.run next
      | .done result => .ok result := by
  cases taken : loop.turn state with
  | error error => exact run_error taken
  | ok turn =>
    cases turn with
    | again next => exact run_again taken
    | done result => exact run_done taken

theorem run_induction (loop : Loop E S A) {motive : S → Except E A → Prop}
    (failed : ∀ state error, loop.turn state = .error error → motive state (.error error))
    (done : ∀ state result, loop.turn state = .ok (.done result) → motive state (.ok result))
    (again : ∀ state next, loop.turn state = .ok (.again next) → motive next (loop.run next) →
      motive state (loop.run next))
    (state : S) : motive state (loop.run state) := by
  induction measured : loop.size state using Nat.strongRecOn generalizing state with
  | ind size ih =>
    cases taken : loop.turn state with
    | error error =>
      rw [run_error taken]
      exact failed state error taken
    | ok turn =>
      cases turn with
      | done result =>
        rw [run_done taken]
        exact done state result taken
      | again next =>
        rw [run_again taken]
        refine again state next taken (ih (loop.size next) ?_ next rfl)
        rw [← measured]
        exact loop.lowers state next taken

/-- Whatever is its first turn and itself from where that leads is the run. -/
theorem run_unique (loop : Loop E S A) (outcome : S → Except E A)
    (each : ∀ state, outcome state = (loop.turn state).bind (Turn.resume outcome)) (state : S) :
    loop.run state = outcome state := by
  refine run_induction loop (motive := fun state ran => ran = outcome state) ?_ ?_ ?_ state
  · intro state error taken
    rw [each, taken]
    rfl
  · intro state result taken
    rw [each, taken]
    rfl
  · intro state next taken ih
    rw [each state, taken]
    exact ih

/-- Where no turn fails from a state of the invariant, the loop ends with a result, and the result is
as the last turn leaves it. -/
theorem run_ok (loop : Loop E S A) (invariant : S → Prop) (post : A → Prop)
    (each : ∀ state, invariant state → ∃ turn, loop.turn state = .ok turn ∧ turn.Leads invariant post)
    (state : S) (initial : invariant state) : ∃ result, loop.run state = .ok result ∧ post result := by
  refine run_induction loop
    (motive := fun state outcome => invariant state → ∃ result, outcome = .ok result ∧ post result)
    ?_ ?_ ?_ state initial
  · intro state error taken holds
    obtain ⟨turn, other, -⟩ := each state holds
    cases taken.symm.trans other
  · intro state result taken holds
    obtain ⟨turn, other, leads⟩ := each state holds
    cases taken.symm.trans other
    exact ⟨result, rfl, leads⟩
  · intro state next taken ih holds
    obtain ⟨turn, other, leads⟩ := each state holds
    cases taken.symm.trans other
    exact ih leads

inductive Reaches (loop : Loop E S A) (start : S) : S → Prop where
  | initial : Reaches loop start start
  | turned {state next : S} (reached : Reaches loop start state)
      (taken : loop.turn state = .ok (.again next)) : Reaches loop start next

/-- A run moves on with each of its turns, none of them fails, and it comes to an end. -/
structure Safe (loop : Loop E S A) (position : S → Nat) (start : S) : Prop where
  advances : ∀ state next, loop.turn state = .ok (.again next) → position state < position next
  faultless : ∀ state, loop.Reaches start state → ∃ turn, loop.turn state = .ok turn
  ends : ∃ result, loop.run start = .ok result

theorem Reaches.holds {start : S} (invariant : S → Prop)
    (kept : ∀ state next, invariant state → loop.turn state = .ok (.again next) → invariant next)
    (holds : invariant start) (reached : loop.Reaches start state) : invariant state := by
  induction reached with
  | initial => exact holds
  | turned _ taken ih => exact kept _ _ ih taken

theorem safe_of_invariant (loop : Loop E S A) (position : S → Nat) (invariant : S → Prop)
    (post : A → Prop)
    (advances : ∀ state next, loop.turn state = .ok (.again next) → position state < position next)
    (each : ∀ state, invariant state → ∃ turn, loop.turn state = .ok turn ∧ turn.Leads invariant post)
    (start : S) (holds : invariant start) : loop.Safe position start where
  advances := advances
  faultless state reached := by
    have kept : ∀ state next, invariant state → loop.turn state = .ok (.again next) →
        invariant next := by
      intro state next holds taken
      obtain ⟨turn, other, leads⟩ := each state holds
      cases taken.symm.trans other
      exact leads
    obtain ⟨turn, taken, -⟩ := each state (reached.holds invariant kept holds)
    exact ⟨turn, taken⟩
  ends := by
    obtain ⟨result, ran, -⟩ := run_ok loop invariant post each start holds
    exact ⟨result, ran⟩

end Loop

section ForLoops

/-- A `for` loop that returns from its body, and one that pushes until it breaks. -/
def firstOf (look : I → Except E (Option A)) : List I → Except E (Option A)
  | [] => .ok none
  | index :: rest => do
    match ← look index with
    | some found => return some found
    | none => firstOf look rest

def collectWhile (look : I → Except E (Option A)) : List I → Except E (List A)
  | [] => .ok []
  | index :: rest => do
    match ← look index with
    | some value => return value :: (← collectWhile look rest)
    | none => return []

def collectSome (look : I → Except E (Option A)) : List I → Except E (List A)
  | [] => .ok []
  | index :: rest => do
    let found ← look index
    return found.toList ++ (← collectSome look rest)

variable {look : I → Except E (Option A)} {pick : I → Option A}

theorem firstOf_ok {indices : List I} (looked : ∀ index ∈ indices, look index = .ok (pick index)) :
    firstOf look indices = .ok (indices.findSome? pick) := by
  induction indices with
  | nil => rfl
  | cons index rest ih =>
    have first := looked index (by simp)
    have later := ih fun other member => looked other (by simp [member])
    cases picked : pick index <;> simp [firstOf, first, later, picked]

theorem collectWhile_ok {indices : List I}
    (looked : ∀ index ∈ indices, look index = .ok (pick index)) :
    collectWhile look indices =
      .ok ((indices.takeWhile fun index => (pick index).isSome).filterMap pick) := by
  induction indices with
  | nil => rfl
  | cons index rest ih =>
    have first := looked index (by simp)
    have later := ih fun other member => looked other (by simp [member])
    cases picked : pick index <;> simp [collectWhile, first, later, picked]

theorem collectSome_ok_iff {indices : List I} :
    (∃ found, collectSome look indices = .ok found) ↔
      ∀ index ∈ indices, ∃ found, look index = .ok found := by
  induction indices with
  | nil => simp [collectSome]
  | cons index rest ih =>
    rw [List.forall_mem_cons, ← ih]
    cases looked : look index with
    | error error => simp [collectSome, looked]
    | ok found =>
      cases later : collectSome look rest <;> simp [collectSome, looked, later]

end ForLoops

end Loops
