import Fdai.Concurrency.Machine

/-!
# Triples

`D.Triple me F p G` — started where `F` holds, the program `p` of the replica `me` issues
permitted calls only and finishes where `G` holds, whatever the other replicas do in the
meantime. The invariant of the discipline is understood on both sides.

The precondition of a rule that makes a call has to be *stable*: no permitted call of
anyone makes it false, or at least none of the others.

* `triple_call`, `triple_call_around`, `triple_bind`, `triple_tryCatch` — the rules along the control flow;
  `triple_seq` and `triple_rescue` where an exception says nothing.
* `triple_only`, `triple_only_seq` — programs all of whose calls are harmless.
* `run_inv_of_triple` — triples about the programs of a machine hold its invariant up in
  every run.
-/

namespace Fdai.Concurrency

open Program

variable {Op : Type} {Ans : Op → Type} {σ ε α β : Type}

namespace Discipline

variable (D : Discipline Op Ans σ)

/-- A fact that every permitted call keeps, whoever makes it. -/
def Stable (F : σ → Prop) : Prop :=
  ∀ ⦃replica w op a w'⦄, D.inv w → D.permit replica w op → D.answers w op a w' → F w → F w'

/-- `p`, started where `F` holds, keeps to the discipline and finishes where `G` holds. -/
def Triple (me : ℕ) (F : σ → Prop) (p : Program Op Ans ε α) (G : Except ε α → σ → Prop) :
    Prop :=
  ∀ w, D.inv w → F w → p.Sat (D.regime me) (fun r w' => D.inv w' ∧ G r w') w

variable {D} {me : ℕ} {F F' : σ → Prop} {G G' : Except ε α → σ → Prop}

theorem Stable.and (stable : D.Stable F) (stable' : D.Stable F') : D.Stable fun w => F w ∧ F' w :=
  fun _ _ _ _ _ holds allowed answered known =>
    ⟨stable holds allowed answered known.1, stable' holds allowed answered known.2⟩

theorem stable_true : D.Stable fun _ => True := fun _ _ _ _ _ _ _ _ _ => trivial

/-- A fact about no world in particular. -/
theorem stable_const (P : Prop) : D.Stable fun _ => P := fun _ _ _ _ _ _ _ _ => id

/-- A stable fact survives the surroundings. -/
theorem Stable.rely {w w' : σ} (stable : D.Stable F) (between : (D.regime me).rely w w')
    (holds : D.inv w) (known : F w) : D.inv w' ∧ F w' :=
  rely_induction (fun _ inv allowed answered => stable inv allowed answered) between holds known

variable {p : Program Op Ans ε α}

theorem Triple.mono (triple : D.Triple me F p G)
    (before : ∀ w, D.inv w → F' w → F w) (after : ∀ r w, D.inv w → G r w → G' r w) :
    D.Triple me F' p G' :=
  fun w holds known => (triple w holds (before w holds known)).mono
    fun r w' h => ⟨h.1, after r w' h.1 h.2⟩

theorem Triple.pre (triple : D.Triple me F p G)
    (before : ∀ w, D.inv w → F' w → F w) : D.Triple me F' p G :=
  triple.mono before fun _ _ _ => id

/-- **Frame rule.** What no permitted call makes false survives every program. -/
theorem Triple.frame (triple : D.Triple me F p G) (stable : D.Stable F') :
    D.Triple me (fun w => F w ∧ F' w) p fun r w => G r w ∧ F' w := by
  rintro w holds ⟨known, framed⟩
  replace triple := triple w holds known
  clear known
  induction p generalizing w with
  | done r => exact ⟨triple.1, triple.2, framed⟩
  | call op next ih =>
    intro w₁ between
    obtain ⟨holds₁, framed₁⟩ := stable.rely between holds framed
    obtain ⟨allowed, continues⟩ := triple w₁ between
    exact ⟨allowed, fun a w₂ answered => ih a w₂ (D.kept allowed answered holds₁)
      (stable holds₁ allowed answered framed₁) (continues a w₂ answered)⟩

/-- What is known of no world in particular. -/
theorem triple_of_fact {P : Prop} (triple : P → D.Triple me F p G) :
    D.Triple me (fun w => P ∧ F w) p G :=
  fun w holds known => triple known.1 w holds known.2

/-- What is known of something that there is. -/
theorem triple_exists {ι : Type*} {F : ι → σ → Prop}
    (triple : ∀ x, D.Triple me (F x) p G) : D.Triple me (fun w => ∃ x, F x w) p G := by
  rintro w holds ⟨x, known⟩
  exact triple x w holds known

theorem triple_pure {a : α} (h : ∀ w, D.inv w → F w → G (.ok a) w) :
    D.Triple me F (pure a : Program Op Ans ε α) G :=
  fun w holds known => ⟨holds, h w holds known⟩

theorem triple_raise {e : ε} (h : ∀ w, D.inv w → F w → G (.error e) w) :
    D.Triple me F (raise e : Program Op Ans ε α) G :=
  fun w holds known => ⟨holds, h w holds known⟩

/-- A fact that every permitted call of the other replicas keeps. -/
def StableAround (D : Discipline Op Ans σ) (me : ℕ) (F : σ → Prop) : Prop :=
  ∀ ⦃other w op a w'⦄, other ≠ me → D.inv w → D.permit other w op → D.answers w op a w' → F w → F w'

theorem Stable.around (stable : D.Stable F) : D.StableAround me F :=
  fun _ _ _ _ _ _ holds allowed answered => stable holds allowed answered

theorem StableAround.and (stable : D.StableAround me F) (stable' : D.StableAround me F') :
    D.StableAround me fun w => F w ∧ F' w :=
  fun _ _ _ _ _ apart holds allowed answered known =>
    ⟨stable apart holds allowed answered known.1, stable' apart holds allowed answered known.2⟩

variable {allowed : Op → Prop}

/-- **Frame rule for certain calls.** What the others keep, and these calls too, survives a
program that makes no other calls. -/
theorem Triple.frame_only (triple : D.Triple me F p G) (only : Only allowed p)
    (stable : D.StableAround me F')
    (own : ∀ ⦃w op a w'⦄, allowed op → D.answers w op a w' → F' w → F' w') :
    D.Triple me (fun w => F w ∧ F' w) p fun r w => G r w ∧ F' w := by
  rintro w holds ⟨known, framed⟩
  replace triple := triple w holds known
  clear known
  induction p generalizing w with
  | done r => exact ⟨triple.1, triple.2, framed⟩
  | call op next ih =>
    intro w₁ between
    obtain ⟨holds₁, framed₁⟩ := rely_induction
      (fun apart inv allowed answered => stable apart inv allowed answered) between holds framed
    obtain ⟨permitted, continues⟩ := triple w₁ between
    exact ⟨permitted, fun a w₂ answered => ih a (only.2 a) w₂
      (D.kept permitted answered holds₁) (own only.1 answered framed₁)
      (continues a w₂ answered)⟩

variable {op : Op}

/-- **One call.** What is known of the world it is answered in gives what is known after
the answer. -/
theorem triple_call_around {f : Ans op → Program Op Ans ε α} (stable : D.StableAround me F)
    (permitted : ∀ w, D.inv w → F w → D.permit me w op) (known' : Ans op → σ → Prop)
    (answered : ∀ w a w', D.inv w → F w → D.answers w op a w' → D.inv w' → known' a w')
    (next : ∀ a, D.Triple me (known' a) (f a) G) :
    D.Triple me F (invoke op >>= f) G := by
  intro w holds known w₁ between
  obtain ⟨holds₁, known₁⟩ := rely_induction
    (fun apart inv allowed answered => stable apart inv allowed answered) between holds known
  have allowed := permitted w₁ holds₁ known₁
  refine ⟨allowed, fun a w₂ answer => ?_⟩
  have holds₂ := D.kept allowed answer holds₁
  exact next a w₂ holds₂ (answered w₁ a w₂ holds₁ known₁ answer holds₂)

/-- One call, where no call of anyone makes false what is known. -/
theorem triple_call {f : Ans op → Program Op Ans ε α} (stable : D.Stable F)
    (permitted : ∀ w, D.inv w → F w → D.permit me w op) (known' : Ans op → σ → Prop)
    (answered : ∀ w a w', D.inv w → F w → D.answers w op a w' → D.inv w' → known' a w')
    (next : ∀ a, D.Triple me (known' a) (f a) G) :
    D.Triple me F (invoke op >>= f) G :=
  triple_call_around stable.around permitted known' answered next

/-- A call that keeps what is known. -/
theorem triple_keep {f : Ans op → Program Op Ans ε α} (stable : D.Stable F)
    (permitted : ∀ w, D.inv w → F w → D.permit me w op)
    (next : ∀ a, D.Triple me F (f a) G) : D.Triple me F (invoke op >>= f) G :=
  triple_call stable permitted (fun _ => F) (fun _ _ _ holds known answered _ =>
      stable holds (permitted _ holds known) answered known)
    next

/-- A call that reads a part of the world, and leaves the world as it is. -/
theorem triple_read {f : Ans op → Program Op Ans ε α} (stable : D.Stable F)
    (view : σ → Ans op) (permitted : ∀ w, D.inv w → F w → D.permit me w op)
    (reads : ∀ w a w', D.answers w op a w' → a = view w ∧ w' = w)
    (next : ∀ a, D.Triple me (fun w => F w ∧ view w = a) (f a) G) :
    D.Triple me F (invoke op >>= f) G := by
  refine triple_call stable permitted (fun a w => F w ∧ view w = a) ?_ next
  intro w a w' _ known answered _
  obtain ⟨rfl, rfl⟩ := reads w a w' answered
  exact ⟨known, rfl⟩

/-- What a program must establish before it is continued. -/
def Then (known' : β → σ → Prop) (G : Except ε α → σ → Prop) : Except ε β → σ → Prop
  | .ok b => known' b
  | .error e => G (.error e)

variable {f : β → Program Op Ans ε α}

/-- **Sequencing.** -/
theorem triple_bind {p : Program Op Ans ε β}
    (known' : β → σ → Prop) (first : D.Triple me F p (Then known' G))
    (next : ∀ b, D.Triple me (known' b) (f b) G) : D.Triple me F (p >>= f) G := by
  intro w holds known
  refine sat_bind ((first w holds known).mono fun r w' reached => ?_)
  cases r with
  | ok b => exact next b w' reached.1 reached.2
  | error e => exact reached

/-- What a program must establish when its exceptions are handled. -/
def Caught (known' : ε → σ → Prop) (G : Except ε α → σ → Prop) : Except ε α → σ → Prop
  | .ok a => G (.ok a)
  | .error e => known' e

/-- **Exception handling.** -/
theorem triple_tryCatch {handler : ε → Program Op Ans ε α}
    (known' : ε → σ → Prop) (tried : D.Triple me F p (Caught known' G))
    (handled : ∀ e, D.Triple me (known' e) (handler e) G) :
    D.Triple me F (p.tryCatch handler) G := by
  intro w holds known
  refine sat_tryCatch ((tried w holds known).mono fun r w' reached => ?_)
  cases r with
  | ok a => exact reached
  | error e => exact handled e w' reached.1 reached.2

/-! ### Programs that may raise

Where nothing is to be known of the world after an exception. -/

/-- What holds if the program returns. -/
def Returns (known : α → σ → Prop) : Except ε α → σ → Prop
  | .ok a => known a
  | .error _ => fun _ => True

/-- The frame rule, where nothing is to be known after an exception. -/
theorem Triple.frame_returns {known : α → σ → Prop}
    (triple : D.Triple me (fun _ => True) p (Returns known)) (stable : D.Stable F) :
    D.Triple me F p (Returns fun a w => known a w ∧ F w) :=
  (triple.frame stable).mono (fun _ _ framed => ⟨trivial, framed⟩) fun r _ _ h => by
    cases r with
    | ok _ => exact h
    | error _ => trivial

variable {goal : α → σ → Prop}

theorem triple_seq {p : Program Op Ans ε β}
    (known : β → σ → Prop) (first : D.Triple me F p (Returns known))
    (next : ∀ b, D.Triple me (known b) (f b) (Returns goal)) :
    D.Triple me F (p >>= f) (Returns goal) :=
  triple_bind known (first.mono (fun _ _ => id) fun r _ _ h => by cases r <;> exact h) next

/-- A program that ends with a call that keeps what is known. -/
theorem triple_keep_last (stable : D.Stable F) (permitted : ∀ w, D.inv w → F w → D.permit me w op) :
    D.Triple me F (invoke op : Program Op Ans ε (Ans op)) (Returns fun _ => F) := by
  rw [← Program.bind_pure (invoke op)]
  exact triple_keep stable permitted fun _ => triple_pure fun _ _ => id

/-- Raising an exception that says nothing about the world. -/
theorem triple_throw {e : ε} : D.Triple me F (throw e : Program Op Ans ε α) (Returns goal) :=
  triple_raise fun _ _ _ => trivial

theorem triple_map {p : Program Op Ans ε β} {f : β → α}
    (h : D.Triple me F p (Returns fun b => goal (f b))) :
    D.Triple me F (f <$> p) (Returns goal) := by
  rw [map_eq_pure_bind]
  exact triple_seq _ h fun _ => triple_pure fun _ _ => id

/-- Handling an exception that says nothing about the world. -/
theorem triple_rescue {handler : ε → Program Op Ans ε α} (tried : D.Triple me F p (Returns goal))
    (handled : ∀ e, D.Triple me (fun _ => True) (handler e) (Returns goal)) :
    D.Triple me F (p.tryCatch handler) (Returns goal) :=
  triple_tryCatch (fun _ _ => True)
    (tried.mono (fun _ _ => id) fun r _ _ h => by cases r <;> exact h) handled

/-- **Harmless programs.** A stable fact survives a program whose calls are permitted
wherever it holds. -/
theorem triple_only (stable : D.Stable F)
    (permitted : ∀ op, allowed op → ∀ w, D.inv w → F w → D.permit me w op)
    (only : Only allowed p) : D.Triple me F p fun _ => F := by
  intro w holds known
  exact Only.sat (F := fun w => D.inv w ∧ F w)
    (fun op isAllowed w h => permitted op isAllowed w h.1 h.2)
    (fun between h => stable.rely between h.1 h.2)
    (fun {_ w₁ _ _} isAllowed answered h =>
      have allowed₁ := permitted _ isAllowed w₁ h.1 h.2
      ⟨D.kept allowed₁ answered h.1, stable h.1 allowed₁ answered h.2⟩)
    only ⟨holds, known⟩

/-- The same, where nothing is to be known after an exception. -/
theorem triple_only_returns
    (stable : D.Stable F) (permitted : ∀ op, allowed op → ∀ w, D.inv w → F w → D.permit me w op)
    (only : Only allowed p) : D.Triple me F p (Returns fun _ => F) :=
  (triple_only stable permitted only).mono (fun _ _ => id) fun r _ _ h => by
    cases r with
    | ok _ => exact h
    | error _ => trivial

/-- Going on after a harmless program. -/
theorem triple_only_seq {p : Program Op Ans ε β} (stable : D.Stable F)
    (permitted : ∀ op, allowed op → ∀ w, D.inv w → F w → D.permit me w op)
    (only : Only allowed p) (next : ∀ b, D.Triple me F (f b) (Returns goal)) :
    D.Triple me F (p >>= f) (Returns goal) :=
  triple_seq _ (triple_only_returns stable permitted only) next

end Discipline

variable {Call Oracle : Type} {ok : σ → Op → Prop}

/-- **A stable fact** survives a run. -/
theorem Machine.run_stable {M : Machine Op Ans σ ε α Call Oracle}
    {D : Discipline Op Ans σ} {post : Except ε α → σ → Prop} {F : σ → Prop}
    {sys : System Op Ans σ ε α} {moves : List (Move Call Oracle)}
    (answers : ∀ {w op a w'}, M.Answers ok w op a w' → D.answers w op a w')
    (calls : ∀ replica call w, D.inv w → (M.program replica call).Sat (D.regime replica) post w)
    (healthy : Machine.Healthy D post sys) (observes : M.Observes ok sys moves)
    (stable : D.Stable F) (known : F sys.world) : F (M.run sys moves).world := by
  induction moves generalizing sys with
  | nil => exact known
  | cons m ms ih =>
    refine ih (healthy.move answers calls observes.1) observes.2 ?_
    rcases healthy.moved answers observes.1 with same | ⟨_, op, a, -, allowed, answered⟩
    · rw [same]
      exact known
    · exact stable healthy.inv allowed answered known

/-- **Newcomers.** What no call of another replica makes false holds of a replica until it
begins, and its program may start from it. -/
theorem Machine.run_newcomers {M : Machine Op Ans σ ε α Call Oracle}
    {D : Discipline Op Ans σ} {post : Except ε α → σ → Prop}
    {F : ℕ → σ → Prop} {sys : System Op Ans σ ε α} {moves : List (Move Call Oracle)}
    (answers : ∀ {w op a w'}, M.Answers ok w op a w' → D.answers w op a w')
    (stable : ∀ me, D.StableAround me (F me))
    (calls : ∀ me call w, D.inv w → F me w → (M.program me call).Sat (D.regime me) post w)
    (healthy : Machine.Healthy D post sys) (observes : M.Observes ok sys moves)
    (unbegun : ∀ me, sys.pool.length ≤ me → F me sys.world) :
    Machine.Healthy D post (M.run sys moves) ∧
      ∀ me, (M.run sys moves).pool.length ≤ me → F me (M.run sys moves).world := by
  induction moves generalizing sys with
  | nil => exact ⟨healthy, unbegun⟩
  | cons m ms ih =>
    have starts (call : Call) (_ : m = .start call) :=
      calls sys.pool.length call sys.world healthy.inv (unbegun _ (Nat.le_refl _))
    refine ih (healthy.move_of_start answers starts observes.1) observes.2 fun me later => ?_
    have before : sys.pool.length ≤ me :=
      Nat.le_trans (Machine.length_le_move sys m) later
    rcases healthy.moved answers observes.1 with
      same | ⟨moved, op, a, within, allowed, answered⟩
    · rw [same]
      exact unbegun me before
    · exact stable me (by omega) healthy.inv allowed answered (unbegun me before)

/-- The invariant of a discipline holds after every run of a machine whose programs keep
to it. -/
theorem Machine.run_inv_of_triple {M : Machine Op Ans σ ε α Call Oracle} {D : Discipline Op Ans σ}
    {w : σ} {moves : List (Move Call Oracle)}
    (answers : ∀ {w op a w'}, M.Answers ok w op a w' → D.answers w op a w')
    (calls : ∀ replica call,
      D.Triple replica (fun _ => True) (M.program replica call) fun _ _ => True)
    (holds : D.inv w) (observes : M.Observes ok (Machine.idle w) moves) :
    D.inv (M.run (Machine.idle w) moves).world :=
  Machine.run_inv answers
    (fun replica call w inv => (calls replica call w inv trivial).mono fun _ _ _ => trivial)
    holds observes

end Fdai.Concurrency
