import Mathlib.Data.Nat.Notation
import Mathlib.Logic.Relation

/-!
# Programs over a shared world

A replica of a service is modelled as a *program*: a tree whose inner nodes are the
calls it makes (store reads, compare-and-set writes, calls to the outside) and whose
leaves are its results. A program never touches the world itself. Each call is
answered by whoever runs the program, and between two calls of one program any
number of calls of other programs may take effect.

Nothing here fixes what a call is. `Op` is any type of calls and `Ans op` the type of
answers to `op`, so the module serves every component that is a set of replicas over
one store.

### The proof rules

`Program.Sat R post p w` is a rely/guarantee judgement by recursion on the program. A
`Regime` says which calls the program may issue (`permit`), how they are answered
(`answers`) and what the surroundings may do in between (`rely`). `sat_bind` and
`sat_tryCatch` compose judgements along the control flow, so each function of a
modelled component gets one judgement and its callers use that judgement only.

A `Discipline` adds an invariant that every permitted call keeps. Its replicas are
numbered, and the surroundings of one replica are the permitted calls of the others.
-/

namespace Fdai.Concurrency

variable {Op : Type} {Ans : Op → Type} {σ ε α β : Type}

/-- A sequential program: it is finished with a value or an exception, or it is about
to make one call and continues with the answer. -/
inductive Program (Op : Type) (Ans : Op → Type) (ε α : Type) : Type where
  | done (result : Except ε α)
  | call (op : Op) (next : Ans op → Program Op Ans ε α)

namespace Program

/-- Sequencing: run the first program, hand its value to the second. An exception of
the first one skips the second. -/
protected def bind : Program Op Ans ε α → (α → Program Op Ans ε β) → Program Op Ans ε β
  | done (.ok a), f => f a
  | done (.error e), _ => done (.error e)
  | call op next, f => call op fun a => (next a).bind f

instance : Monad (Program Op Ans ε) where
  pure a := done (.ok a)
  bind := Program.bind

/-- Make one call and return its answer. -/
def invoke (op : Op) : Program Op Ans ε (Ans op) :=
  call op fun a => done (.ok a)

/-- Stop with an exception. -/
def raise (e : ε) : Program Op Ans ε α :=
  done (.error e)

/-- Run a program and hand an exception it stops with to the handler. -/
def tryCatch : Program Op Ans ε α → (ε → Program Op Ans ε α) → Program Op Ans ε α
  | done (.ok a), _ => done (.ok a)
  | done (.error e), handler => handler e
  | call op next, handler => call op fun a => (next a).tryCatch handler

@[simp] theorem pure_bind (a : α) (f : α → Program Op Ans ε β) :
    (pure a : Program Op Ans ε α) >>= f = f a := rfl

@[simp] theorem call_bind (op : Op) (next : Ans op → Program Op Ans ε α)
    (f : α → Program Op Ans ε β) :
    call op next >>= f = call op fun a => next a >>= f := rfl

theorem bind_pure (p : Program Op Ans ε α) : p >>= pure = p := by
  induction p with
  | done r => cases r <;> rfl
  | call op next ih => rw [call_bind, funext ih]

theorem bind_assoc {γ : Type} (p : Program Op Ans ε α) (f : α → Program Op Ans ε β)
    (g : β → Program Op Ans ε γ) : p >>= f >>= g = p >>= fun a => f a >>= g := by
  induction p with
  | done r => cases r <;> rfl
  | call op next ih => simp only [call_bind, ih]

instance : LawfulMonad (Program Op Ans ε) :=
  LawfulMonad.mk' _ bind_pure pure_bind bind_assoc

instance : MonadExceptOf ε (Program Op Ans ε) where
  throw := raise
  tryCatch := tryCatch

/-- One scheduling step: the next call is answered by `perform`. A finished program
does not move. -/
def step (perform : (op : Op) → Ans op × σ) (w : σ) : Program Op Ans ε α → Program Op Ans ε α × σ
  | done r => (done r, w)
  | call op next => (next (perform op).1, (perform op).2)

end Program

/-- The conditions a program runs under: what it may ask for, how it is answered and
what its surroundings may do between two of its calls. -/
structure Regime (Op : Type) (Ans : Op → Type) (σ : Type) where
  /-- The calls a program may issue in a world. -/
  permit : σ → Op → Prop
  /-- How a call may be answered, and the world it leaves behind. -/
  answers : σ → (op : Op) → Ans op → σ → Prop
  /-- What may happen to the world between two calls of one program. -/
  rely : σ → σ → Prop

/-- A set of replicas with the rules they follow: what each may ask for, how it is
answered, and what every such call keeps of the world. A replica is known by a number. -/
structure Discipline (Op : Type) (Ans : Op → Type) (σ : Type) where
  /-- The calls a replica may issue in a world. -/
  permit : ℕ → σ → Op → Prop
  /-- How a call may be answered, and the world it leaves behind. -/
  answers : σ → (op : Op) → Ans op → σ → Prop
  /-- What holds of the world at all times. -/
  inv : σ → Prop
  kept : ∀ {replica w op a w'}, permit replica w op → answers w op a w' → inv w → inv w'

namespace Discipline

variable (D : Discipline Op Ans σ)

/-- One call of a replica other than `me`. -/
def Moves (me : ℕ) (w w' : σ) : Prop :=
  ∃ other ≠ me, ∃ op a, D.permit other w op ∧ D.answers w op a w'

/-- The regime of one replica among others: between two calls of it they may make any
number of calls. -/
def regime (me : ℕ) : Regime Op Ans σ :=
  { permit := D.permit me, answers := D.answers, rely := Relation.ReflTransGen (D.Moves me) }

variable {D} {me : ℕ} {w w' : σ}

/-- A fact every permitted call of the others keeps survives the surroundings. The
invariant holds at each of the calls. -/
theorem rely_induction {F : σ → Prop}
    (kept : ∀ {other w op a w'}, other ≠ me → D.inv w → D.permit other w op →
      D.answers w op a w' → F w → F w')
    (between : (D.regime me).rely w w') (holds : D.inv w) (start : F w) :
    D.inv w' ∧ F w' := by
  change Relation.ReflTransGen _ w w' at between
  induction between with
  | refl => exact ⟨holds, start⟩
  | tail _ last ih =>
    obtain ⟨other, apart, op, a, allowed, answered⟩ := last
    exact ⟨D.kept allowed answered ih.1, kept apart ih.1 allowed answered ih.2⟩

theorem rely_inv (between : (D.regime me).rely w w') (holds : D.inv w) : D.inv w' :=
  (rely_induction (F := fun _ => True) (fun _ _ _ _ _ => trivial) between holds trivial).1

end Discipline

namespace Program

/-- `p`, started in `w` under the regime `R`, issues permitted calls only and finishes
in `post`. -/
def Sat (R : Regime Op Ans σ) (post : Except ε α → σ → Prop) : Program Op Ans ε α → σ → Prop
  | done r, w => post r w
  | call op next, w => ∀ w₁, R.rely w w₁ →
      R.permit w₁ op ∧ ∀ a w₂, R.answers w₁ op a w₂ → Sat R post (next a) w₂

variable {R : Regime Op Ans σ} {post : Except ε α → σ → Prop} {w : σ}

variable {op : Op}

variable {p : Program Op Ans ε α}

theorem Sat.mono {post' : Except ε α → σ → Prop}
    (weaker : ∀ r w, post r w → post' r w) : Sat R post p w → Sat R post' p w := by
  induction p generalizing w with
  | done r => exact weaker r w
  | call op next ih =>
    intro h w₁ between
    obtain ⟨allowed, continues⟩ := h w₁ between
    exact ⟨allowed, fun a w₂ answered => ih a (continues a w₂ answered)⟩

/-- What a program must establish before it is continued by `f`. -/
def Continues (R : Regime Op Ans σ) (post : Except ε β → σ → Prop)
    (f : α → Program Op Ans ε β) : Except ε α → σ → Prop
  | .ok a, w => Sat R post (f a) w
  | .error e, w => post (.error e) w

/-- **Sequencing.** A program continued by `f` meets `post` once the program alone
meets the judgement of its continuation. -/
theorem sat_bind {post : Except ε β → σ → Prop} {f : α → Program Op Ans ε β} :
    Sat R (Continues R post f) p w → Sat R post (p >>= f) w := by
  induction p generalizing w with
  | done r => cases r <;> exact id
  | call op next ih =>
    intro h w₁ between
    obtain ⟨allowed, continues⟩ := h w₁ between
    exact ⟨allowed, fun a w₂ answered => ih a (continues a w₂ answered)⟩

/-- What a program must establish when its exceptions go to `handler`. -/
def Handles (R : Regime Op Ans σ) (post : Except ε α → σ → Prop)
    (handler : ε → Program Op Ans ε α) : Except ε α → σ → Prop
  | .ok a, w => post (.ok a) w
  | .error e, w => Sat R post (handler e) w

/-- **Exception handling**, in the shape of `sat_bind`. -/
theorem sat_tryCatch {handler : ε → Program Op Ans ε α} :
    Sat R (Handles R post handler) p w → Sat R post (p.tryCatch handler) w := by
  induction p generalizing w with
  | done r => cases r <;> exact id
  | call op next ih =>
    intro h w₁ between
    obtain ⟨allowed, continues⟩ := h w₁ between
    exact ⟨allowed, fun a w₂ answered => ih a (continues a w₂ answered)⟩

/-- Whatever the answers, every call of the program is an allowed one. -/
def Only (allowed : Op → Prop) : Program Op Ans ε α → Prop
  | done _ => True
  | call op next => allowed op ∧ ∀ a, Only allowed (next a)

variable {allowed : Op → Prop}

@[simp] theorem only_pure {a : α} : Only allowed (pure a : Program Op Ans ε α) := trivial

@[simp] theorem only_raise {e : ε} : Only allowed (raise e : Program Op Ans ε α) := trivial

theorem only_invoke (h : allowed op) :
    Only allowed (invoke op : Program Op Ans ε (Ans op)) := ⟨h, fun _ => trivial⟩

theorem only_bind {f : α → Program Op Ans ε β}
    (first : Only allowed p) (next : ∀ a, Only allowed (f a)) : Only allowed (p >>= f) := by
  induction p with
  | done r => cases r with
    | ok a => exact next a
    | error e => trivial
  | call op k ih => exact ⟨first.1, fun a => ih a (first.2 a)⟩

theorem only_tryCatch {handler : ε → Program Op Ans ε α}
    (tried : Only allowed p) (handled : ∀ e, Only allowed (handler e)) :
    Only allowed (p.tryCatch handler) := by
  induction p with
  | done r => cases r with
    | ok a => trivial
    | error e => exact handled e
  | call op k ih => exact ⟨tried.1, fun a => ih a (tried.2 a)⟩

/-- Programs with fewer calls. -/
theorem Only.mono {allowed' : Op → Prop}
    (weaker : ∀ op, allowed op → allowed' op) (only : Only allowed p) : Only allowed' p := by
  induction p with
  | done r => trivial
  | call op k ih => exact ⟨weaker op only.1, fun a => ih a (only.2 a)⟩

theorem only_map {f : α → β} (only : Only allowed p) : Only allowed (f <$> p) := by
  rw [map_eq_pure_bind]
  exact only_bind only fun _ => trivial

/-- **Frame rule.** A fact that the surroundings and every allowed call keep survives a
program that makes no other calls. -/
theorem Only.sat {F : σ → Prop} (permitted : ∀ op, allowed op → ∀ w, F w → R.permit w op)
    (stable : ∀ {w w'}, R.rely w w' → F w → F w')
    (kept : ∀ {op w a w'}, allowed op → R.answers w op a w' → F w → F w')
    (only : Only allowed p) (holds : F w) : Sat R (fun _ w => F w) p w := by
  induction p generalizing w with
  | done r => exact holds
  | call op next ih =>
    intro w₁ between
    have holds₁ := stable between holds
    refine ⟨permitted op only.1 w₁ holds₁, fun a w₂ answered => ih a (only.2 a) ?_⟩
    exact kept only.1 answered holds₁

end Program

end Fdai.Concurrency
