import Mathlib.Data.List.Basic
import Fdai.Concurrency.Program

/-!
# Machines: pools of programs

A `Machine` is a component as its callers see it: the calls that can be made to it, the
program each call runs, and how one call of a program is answered. Answers of the
outside (a clock, a provider, a verifier) come from an *oracle* the scheduler supplies
with every step, so a run is a plain list of moves and evaluates.

`Machine.run` schedules a **pool**: any number of programs are in progress, a move
starts one, advances one by a single call, or crashes one. `Machine.run_inv` turns
judgements about the programs into facts about every run, and `Machine.Healthy.finishes`
into facts about the results of programs.
-/

namespace Fdai.Concurrency

variable {Op : Type} {Ans : Op → Type} {σ ε α Call Oracle : Type}

/-- A component: how a call is answered and which program a request runs. -/
structure Machine (Op : Type) (Ans : Op → Type) (σ ε α Call Oracle : Type) where
  /-- The answer to one call, and the world after it. -/
  perform : Oracle → σ → (op : Op) → Ans op × σ
  /-- The program a request runs, in the replica of that number. -/
  program : ℕ → Call → Program Op Ans ε α

/-- The shared world and the programs in progress. A crashed program is `none`; a
program keeps its place in the pool, so an index names one replica for a whole run. -/
structure System (Op : Type) (Ans : Op → Type) (σ ε α : Type) where
  world : σ
  pool : List (Option (Program Op Ans ε α))

/-- What the scheduler can do next. -/
inductive Move (Call Oracle : Type) where
  | start (call : Call)
  | advance (replica : ℕ) (oracle : Oracle)
  | crash (replica : ℕ)

namespace Machine

variable (M : Machine Op Ans σ ε α Call Oracle)

/-- One move of the scheduler. -/
def move (sys : System Op Ans σ ε α) : Move Call Oracle → System Op Ans σ ε α
  | .start call => { sys with pool := sys.pool ++ [some (M.program sys.pool.length call)] }
  | .advance replica oracle =>
    match sys.pool[replica]? with
    | some (some p) =>
      let (p', w') := p.step (M.perform oracle sys.world) sys.world
      { world := w', pool := sys.pool.set replica (some p') }
    | _ => sys
  | .crash replica => { sys with pool := sys.pool.set replica none }

/-- A whole run. -/
def run (sys : System Op Ans σ ε α) (moves : List (Move Call Oracle)) : System Op Ans σ ε α :=
  moves.foldl M.move sys

theorem move_advance_last (pool : List (Option (Program Op Ans ε α))) (op : Op)
    (next : Ans op → Program Op Ans ε α) {w w' : σ} {oracle : Oracle} {a : Ans op}
    (performed : M.perform oracle w op = (a, w')) :
    M.move ⟨w, pool ++ [some (.call op next)]⟩ (.advance pool.length oracle) =
      ⟨w', pool ++ [some (next a)]⟩ := by
  simp [move, Program.step, performed]

theorem move_crash_last (w : σ) (pool : List (Option (Program Op Ans ε α)))
    (p : Option (Program Op Ans ε α)) :
    M.move ⟨w, pool ++ [p]⟩ (.crash pool.length) = ⟨w, pool ++ [none]⟩ := by
  simp [move]

/-- No program is in progress. -/
def idle (w : σ) : System Op Ans σ ε α := ⟨w, []⟩

@[simp] theorem run_nil (sys : System Op Ans σ ε α) : M.run sys [] = sys := rfl

@[simp] theorem run_cons (sys : System Op Ans σ ε α) (m : Move Call Oracle)
    (ms : List (Move Call Oracle)) : M.run sys (m :: ms) = M.run (M.move sys m) ms := rfl

/-- The call a move makes, if it makes one, meets `ok` in the world it is made in. -/
def Admits (ok : σ → Op → Prop) (sys : System Op Ans σ ε α) : Move Call Oracle → Prop
  | .advance replica _ => ∀ op next,
      sys.pool[replica]? = some (some (.call op next)) → ok sys.world op
  | _ => True

/-- Every call of the run meets `ok` in the world it is made in. -/
def Observes (ok : σ → Op → Prop) : System Op Ans σ ε α → List (Move Call Oracle) → Prop
  | _, [] => True
  | sys, m :: ms => Admits ok sys m ∧ Observes ok (M.move sys m) ms

theorem observes_true (sys : System Op Ans σ ε α) (ms : List (Move Call Oracle)) :
    M.Observes (fun _ _ => True) sys ms := by
  induction ms generalizing sys with
  | nil => trivial
  | cons m ms ih =>
    refine ⟨?_, ih _⟩
    cases m <;> simp [Admits]

section Decidable

variable (ok : σ → Op → Prop) [∀ w op, Decidable (ok w op)]

instance (sys : System Op Ans σ ε α) : (m : Move Call Oracle) → Decidable (Admits ok sys m)
  | .start _ => isTrue trivial
  | .crash _ => isTrue trivial
  | .advance replica _ =>
    match found : sys.pool[replica]? with
    | some (some (.call op next)) =>
      decidable_of_iff (ok sys.world op) ⟨fun holds op' next' same => by
            rw [found] at same
            obtain ⟨rfl, -⟩ := Program.call.inj (Option.some.inj (Option.some.inj same))
            exact holds,
          fun admits => admits op next found⟩
    | some (some (.done _)) => isTrue fun _ _ same => by rw [found] at same; cases same
    | some none => isTrue fun _ _ same => by rw [found] at same; cases same
    | none => isTrue fun _ _ same => by rw [found] at same; cases same

instance decidableObserves :
    (sys : System Op Ans σ ε α) → (ms : List (Move Call Oracle)) → Decidable (M.Observes ok sys ms)
  | _, [] => isTrue trivial
  | sys, m :: ms =>
    have := decidableObserves (M.move sys m) ms
    inferInstanceAs (Decidable (Admits ok sys m ∧ M.Observes ok (M.move sys m) ms))

end Decidable

/-- The answers a machine gives to calls that meet `ok`. -/
def Answers (ok : σ → Op → Prop) (w : σ) (op : Op) (a : Ans op) (w' : σ) : Prop :=
  ok w op ∧ ∃ oracle, M.perform oracle w op = (a, w')

/-- An entry of a list with one more at its end. -/
theorem getElem?_append_cases {γ : Type} {l : List γ} {x y : γ} {i : ℕ}
    (h : (l ++ [x])[i]? = some y) : l[i]? = some y ∨ i = l.length ∧ x = y := by
  rw [List.getElem?_append] at h
  split at h
  · exact .inl h
  rename_i beyond
  have isLast : i - l.length = 0 := by
    have := (List.getElem?_eq_some_iff.1 h).1
    simp only [List.length_singleton] at this
    omega
  exact .inr ⟨by omega, by simpa [isLast] using h⟩

/-- An entry of a list one entry of which was replaced. -/
theorem getElem?_set_cases {γ : Type} {l : List γ} {x y : γ} {i j : ℕ}
    (h : (l.set j x)[i]? = some y) : i ≠ j ∧ l[i]? = some y ∨ i = j ∧ x = y := by
  by_cases same : i = j
  · subst same
    by_cases within : i < l.length
    · exact .inr ⟨rfl, by simpa [within] using h⟩
    · simp [within] at h
  · exact .inl ⟨same, by rwa [List.getElem?_set_ne (Ne.symm same)] at h⟩

/-! ### Pools -/

section Pool

variable {M} {ok : σ → Op → Prop} {D : Discipline Op Ans σ} {post : Except ε α → σ → Prop}

/-- What a pool keeps: the invariant of the world, and the judgement of every program
in progress. -/
structure Healthy (D : Discipline Op Ans σ) (post : Except ε α → σ → Prop)
    (sys : System Op Ans σ ε α) : Prop where
  inv : D.inv sys.world
  sat : ∀ (replica : ℕ) op next, sys.pool[replica]? = some (some (.call op next)) →
    (Program.call op next).Sat (D.regime replica) post sys.world

variable {w : σ}

theorem Healthy.idle (holds : D.inv w) : Healthy D post (idle w : System Op Ans σ ε α) :=
  ⟨holds, by simp [Machine.idle]⟩

/-- A step of the world carries the judgements of the programs it does not run. -/
theorem sat_of_rely {replica : ℕ} {op : Op} {next : Ans op → Program Op Ans ε α}
    {w' : σ} (between : (D.regime replica).rely w w')
    (h : (Program.call op next).Sat (D.regime replica) post w) :
    (Program.call op next).Sat (D.regime replica) post w' :=
  fun w₁ later => h w₁ (Relation.ReflTransGen.trans between later)

variable {sys : System Op Ans σ ε α} {m : Move Call Oracle}

/-- **One move keeps a pool healthy.** It only ever makes permitted calls, so the
other programs see it as part of their surroundings. -/
theorem Healthy.move_of_start
    (answers : ∀ {w op a w'}, M.Answers ok w op a w' → D.answers w op a w')
    (starts : ∀ call, m = .start call →
      (M.program sys.pool.length call).Sat (D.regime sys.pool.length) post sys.world)
    (healthy : Healthy D post sys) (admits : Admits ok sys m) :
    Healthy D post (M.move sys m) := by
  cases m with
  | start call =>
    refine ⟨healthy.inv, fun replica op next found => ?_⟩
    change (sys.pool ++ [some (M.program sys.pool.length call)])[replica]? = _ at found
    rcases getElem?_append_cases found with old | ⟨rfl, new⟩
    · exact healthy.sat replica op next old
    · rw [← Option.some.inj new]
      exact starts call rfl
  | crash crashed =>
    refine ⟨healthy.inv, fun replica op next found => ?_⟩
    rcases getElem?_set_cases found with ⟨-, old⟩ | ⟨-, new⟩
    · exact healthy.sat replica op next old
    · cases new
  | advance moved oracle =>
    simp only [Machine.move]
    split
    · rename_i p at_moved
      cases p with
      | done r =>
        refine ⟨healthy.inv, fun replica op next found => ?_⟩
        rcases getElem?_set_cases found with ⟨-, old⟩ | ⟨-, new⟩
        · exact healthy.sat replica op next old
        · cases new
      | call moving continued =>
        obtain ⟨allowed, continues⟩ :=
          healthy.sat moved _ _ at_moved sys.world Relation.ReflTransGen.refl
        have answered : D.answers sys.world moving (M.perform oracle sys.world moving).1
            (M.perform oracle sys.world moving).2 :=
          answers ⟨admits moving continued at_moved, oracle, rfl⟩
        refine ⟨D.kept allowed answered healthy.inv, fun replica op next found => ?_⟩
        rcases getElem?_set_cases found with ⟨apart, old⟩ | ⟨rfl, new⟩
        · have stepped : (D.regime replica).rely sys.world (M.perform oracle sys.world moving).2 :=
            Relation.ReflTransGen.single ⟨moved, apart.symm, moving, _, allowed, answered⟩
          exact sat_of_rely stepped (healthy.sat replica op next old)
        have same : continued (M.perform oracle sys.world moving).1 = .call op next := by
          simpa [Program.step] using new
        rw [← same]
        exact continues _ _ answered
    · exact healthy

theorem Healthy.move (answers : ∀ {w op a w'}, M.Answers ok w op a w' → D.answers w op a w')
    (calls : ∀ replica call w, D.inv w → (M.program replica call).Sat (D.regime replica) post w)
    (healthy : Healthy D post sys) (admits : Admits ok sys m) :
    Healthy D post (M.move sys m) :=
  healthy.move_of_start answers (fun call _ => calls _ call _ healthy.inv) admits

def Makes (sys : System Op Ans σ ε α) (m : Move Call Oracle) (op : Op) : Prop :=
  ∃ replica oracle next, m = .advance replica oracle ∧
    sys.pool[replica]? = some (some (.call op next))

theorem Makes.unique {op op' : Op}
    (makes : Makes sys m op) (makes' : Makes sys m op') : op = op' := by
  obtain ⟨replica, oracle, next, rfl, found⟩ := makes
  obtain ⟨replica', oracle', next', same, found'⟩ := makes'
  obtain ⟨rfl, -⟩ := Move.advance.inj same
  exact (Program.call.inj (Option.some.inj (Option.some.inj (found.symm.trans found')))).1

/-- A move of a healthy pool that changes the world makes a permitted call. -/
theorem Healthy.makes (answers : ∀ {w op a w'}, M.Answers ok w op a w' → D.answers w op a w')
    (healthy : Healthy D post sys) (admits : Admits ok sys m) :
    (M.move sys m).world = sys.world ∨ ∃ replica op a, Makes sys m op ∧
      replica < sys.pool.length ∧ D.permit replica sys.world op ∧
      D.answers sys.world op a (M.move sys m).world := by
  cases m with
  | start | crash => exact .inl rfl
  | advance moved oracle =>
    simp only [Machine.move]
    split
    · rename_i p at_moved
      cases p with
      | done => exact .inl rfl
      | call op next =>
        have allowed := (healthy.sat moved _ _ at_moved sys.world Relation.ReflTransGen.refl).1
        exact .inr ⟨moved, op, (M.perform oracle sys.world op).1,
          ⟨moved, oracle, next, rfl, at_moved⟩,
          (List.getElem?_eq_some_iff.1 at_moved).1, allowed,
          answers ⟨admits op next at_moved, oracle, rfl⟩⟩
    · exact .inl rfl

/-- A move of a healthy pool makes at most one permitted call. -/
theorem Healthy.moved (answers : ∀ {w op a w'}, M.Answers ok w op a w' → D.answers w op a w')
    (healthy : Healthy D post sys) (admits : Admits ok sys m) :
    (M.move sys m).world = sys.world ∨ ∃ replica op a, replica < sys.pool.length ∧
      D.permit replica sys.world op ∧ D.answers sys.world op a (M.move sys m).world := by
  rcases healthy.makes answers admits with same | ⟨replica, op, a, -, within, allowed, answered⟩
  · exact .inl same
  · exact .inr ⟨replica, op, a, within, allowed, answered⟩

/-- Replicas keep their places. -/
theorem length_le_move (sys : System Op Ans σ ε α) (m : Move Call Oracle) :
    sys.pool.length ≤ (M.move sys m).pool.length := by
  cases m with
  | start call | crash => simp [Machine.move]
  | advance moved oracle =>
    simp only [Machine.move]
    split
    · simp
    · exact Nat.le_refl _

variable {moves : List (Move Call Oracle)}

/-- **A pool that starts healthy stays healthy.** -/
theorem run_healthy (answers : ∀ {w op a w'}, M.Answers ok w op a w' → D.answers w op a w')
    (calls : ∀ replica call w, D.inv w → (M.program replica call).Sat (D.regime replica) post w)
    (healthy : Healthy D post sys) (observes : M.Observes ok sys moves) :
    Healthy D post (M.run sys moves) := by
  induction moves generalizing sys with
  | nil => exact healthy
  | cons m ms ih => exact ih (healthy.move answers calls observes.1) observes.2

/-- The same, where the programs that are started keep to the discipline. -/
theorem run_healthy_of_starts
    (answers : ∀ {w op a w'}, M.Answers ok w op a w' → D.answers w op a w')
    (calls : ∀ call, .start call ∈ moves → ∀ replica w, D.inv w →
      (M.program replica call).Sat (D.regime replica) post w)
    (healthy : Healthy D post sys) (observes : M.Observes ok sys moves) :
    Healthy D post (M.run sys moves) := by
  induction moves generalizing sys with
  | nil => exact healthy
  | cons m ms ih =>
    have starts (call : Call) (isStart : m = .start call) :
        (M.program sys.pool.length call).Sat (D.regime sys.pool.length) post sys.world := by
      refine calls call ?_ _ _ healthy.inv
      rw [isStart]
      exact List.mem_cons_self
    refine ih (fun call isStart => calls call (List.mem_cons_of_mem _ isStart)) ?_ observes.2
    exact healthy.move_of_start answers starts observes.1

/-- The invariant of a discipline holds after every run from a world that has it. -/
theorem run_inv (answers : ∀ {w op a w'}, M.Answers ok w op a w' → D.answers w op a w')
    (calls : ∀ replica call w, D.inv w →
      (M.program replica call).Sat (D.regime replica) (fun _ _ => True) w)
    (holds : D.inv w) (observes : M.Observes ok (idle w) moves) :
    D.inv (M.run (idle w) moves).world :=
  (run_healthy answers calls (Healthy.idle holds) observes).inv

theorem run_append (sys : System Op Ans σ ε α) (ms ms' : List (Move Call Oracle)) :
    M.run sys (ms ++ ms') = M.run (M.run sys ms) ms' := List.foldl_append

theorem observes_append {ms ms' : List (Move Call Oracle)} :
    M.Observes ok sys (ms ++ ms') ↔ M.Observes ok sys ms ∧ M.Observes ok (M.run sys ms) ms' := by
  induction ms generalizing sys with
  | nil => exact ⟨fun observes => ⟨trivial, observes⟩, fun observes => observes.2⟩
  | cons m ms ih =>
    constructor
    · rintro ⟨admits, observes⟩
      obtain ⟨first, second⟩ := ih.1 observes
      exact ⟨⟨admits, first⟩, second⟩
    · rintro ⟨⟨admits, first⟩, second⟩
      exact ⟨admits, ih.2 ⟨first, second⟩⟩

/-- **What every call keeps** relates the worlds at the two ends of a run. -/
theorem run_world {R : σ → σ → Prop} (refl : ∀ w, R w w) (trans : ∀ {a b c}, R a b → R b c → R a c)
    (call : ∀ oracle w op, R w (M.perform oracle w op).2) (sys : System Op Ans σ ε α)
    (moves : List (Move Call Oracle)) : R sys.world (M.run sys moves).world := by
  induction moves generalizing sys with
  | nil => exact refl _
  | cons m ms ih =>
    refine trans ?_ (ih (M.move sys m))
    cases m with
    | start | crash => exact refl _
    | advance replica oracle =>
      simp only [Machine.move]
      split
      · rename_i p _
        cases p with
        | done => exact refl _
        | call op next => exact call oracle sys.world op
      · exact refl _

variable (M) in
/-- The move is the last call of a program, which finishes with the result. -/
def Finishes (sys : System Op Ans σ ε α) (m : Move Call Oracle) (result : Except ε α) : Prop :=
  ∃ replica oracle op next, m = .advance replica oracle ∧
    sys.pool[replica]? = some (some (.call op next)) ∧
    next (M.perform oracle sys.world op).1 = .done result

def inProgress (sys : System Op Ans σ ε α) (replica : ℕ) : Bool :=
  match sys.pool[replica]? with
  | some (some (.call _ _)) => true
  | _ => false

/-- What the program of a replica has finished with. -/
def finished (sys : System Op Ans σ ε α) (replica : ℕ) : Option (Except ε α) :=
  match sys.pool[replica]? with
  | some (some (.done result)) => some result
  | _ => none

theorem finishes_of_finished {replica : ℕ} {oracle : Oracle}
    {result : Except ε α} (before : inProgress sys replica = true)
    (after : finished (M.move sys (.advance replica oracle)) replica = some result) :
    M.Finishes sys (.advance replica oracle) result := by
  unfold inProgress at before
  split at before
  · rename_i op next found
    refine ⟨replica, oracle, op, next, rfl, found, ?_⟩
    have within : replica < sys.pool.length := (List.getElem?_eq_some_iff.1 found).1
    simp only [finished, Machine.move, found, Program.step, List.getElem?_set_self within] at after
    split at after
    · rename_i isDone
      obtain rfl := Option.some.inj after
      exact Option.some.inj (Option.some.inj isDone)
    · cases after
  · cases before

/-- **What a program finishes with** meets its judgement in the world it finishes in. -/
theorem Healthy.finishes {result : Except ε α}
    (answers : ∀ {w op a w'}, M.Answers ok w op a w' → D.answers w op a w')
    (healthy : Healthy D post sys) (admits : Admits ok sys m)
    (finishes : M.Finishes sys m result) : post result (M.move sys m).world := by
  obtain ⟨replica, oracle, op, next, rfl, in_pool, last⟩ := finishes
  obtain ⟨-, continues⟩ := healthy.sat replica op next in_pool sys.world Relation.ReflTransGen.refl
  have met := continues _ _ (answers ⟨admits op next in_pool, oracle, rfl⟩)
  rw [last] at met
  have moved : (M.move sys (.advance replica oracle)).world =
      (M.perform oracle sys.world op).2 := by
    simp [Machine.move, in_pool, Program.step]
  rw [moved]
  exact met

end Pool

end Machine

end Fdai.Concurrency
