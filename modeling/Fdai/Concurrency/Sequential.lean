import Fdai.Concurrency.Machine

/-!
# One call after the other

A machine on its own: every request runs to its end before the next one is made.

* `Machine.exec` — a program from its start to its end.
* `Machine.session` — requests one after the other; `SessionReturns`, `SessionMeets` — what
  can be asked of each of them.
* `Machine.alone` — the regime of a program nothing interferes with; `exec_of_sat` turns a
  judgement in it into a fact about every execution, and `session_inv` about every session.
-/

namespace Fdai.Concurrency

open Program

variable {Op : Type} {Ans : Op → Type} {σ ε α β Call Oracle : Type}

namespace Machine

variable (M : Machine Op Ans σ ε α Call Oracle)

/-- Run a program to its end. The answers of the outside come from a stream. -/
def exec : Program Op Ans ε β → (ℕ → Oracle) → σ → Except ε β × σ
  | .done result, _, w => (result, w)
  | .call op next, oracle, w =>
    exec (next (M.perform (oracle 0) w op).1) (fun n => oracle (n + 1))
      (M.perform (oracle 0) w op).2

/-- The world after a list of requests, each made once the one before it is finished. -/
def session (w : σ) : List (Call × (ℕ → Oracle)) → σ
  | [] => w
  | (request, oracle) :: rest => session (M.exec (M.program 0 request) oracle w).2 rest

@[simp] theorem session_nil (w : σ) : M.session w [] = w := rfl

/-- Nothing happens between two calls of a program that runs on its own. -/
def alone : Regime Op Ans σ where
  permit _ _ := True
  answers w op a w' := ∃ oracle, M.perform oracle w op = (a, w')
  rely := Eq

variable {M} {post : Except ε β → σ → Prop} {w : σ}

/-- **One call**, by what it is answered. -/
theorem sat_alone_call {op : Op} {next : Ans op → Program Op Ans ε β}
    (answered : ∀ oracle, Sat M.alone post (next (M.perform oracle w op).1)
      (M.perform oracle w op).2) : Sat M.alone post (call op next) w := by
  rintro w₁ rfl
  refine ⟨trivial, ?_⟩
  rintro a w₂ ⟨oracle, performed⟩
  obtain ⟨rfl, rfl⟩ := Prod.mk.inj performed
  exact answered oracle

/-- **A judgement** about a program on its own holds of every execution. -/
theorem exec_of_sat {p : Program Op Ans ε β} {oracle : ℕ → Oracle} (sat : Sat M.alone post p w) :
    post (M.exec p oracle w).1 (M.exec p oracle w).2 := by
  induction p generalizing w oracle with
  | done result => exact sat
  | call op next ih => exact ih _ ((sat w rfl).2 _ _ ⟨oracle 0, rfl⟩)

def SessionReturns (M : Machine Op Ans σ ε α Call Oracle) : σ → List (Call × (ℕ → Oracle)) → Prop
  | _, [] => True
  | w, (request, oracle) :: rest =>
    (M.exec (M.program 0 request) oracle w).1.isOk = true ∧
      SessionReturns M (M.exec (M.program 0 request) oracle w).2 rest

/-- The condition `ok` holds of every request when it is made. -/
def SessionMeets (M : Machine Op Ans σ ε α Call Oracle) (ok : σ → Call → Prop) :
    σ → List (Call × (ℕ → Oracle)) → Prop
  | _, [] => True
  | w, (request, oracle) :: rest =>
    ok w request ∧ SessionMeets M ok (M.exec (M.program 0 request) oracle w).2 rest

/-- **Sessions.** What every request keeps holds after any number of them. -/
theorem session_inv {inv : σ → Prop} {ok : σ → Call → Prop}
    (kept : ∀ w request, inv w → ok w request → Sat M.alone (fun _ => inv) (M.program 0 request) w)
    {requests : List (Call × (ℕ → Oracle))} (holds : inv w)
    (meets : M.SessionMeets ok w requests) : inv (M.session w requests) := by
  induction requests generalizing w with
  | nil => exact holds
  | cons head rest ih =>
    obtain ⟨request, oracle⟩ := head
    exact ih (exec_of_sat (kept w request holds meets.1)) meets.2

end Machine

end Fdai.Concurrency
