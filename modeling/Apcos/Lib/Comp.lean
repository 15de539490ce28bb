import Mathlib.Tactic.Common

/-!
# Exceptional state computations

Programs that read and update a state and either return a value or raise. A
raise keeps the state reached at that point: nothing is rolled back, which is
the behaviour of the languages modeled with it. A computation is executed
symbolically with `bind_of_ok` and `bind_of_error`; what all its outcomes
preserve is assembled from its parts with the rules of `Preserves`. `Comp.zoom`
runs a computation on a part of a larger state through a lens.
-/
namespace Apcos.Lib

theorem bind_ok {ε α β : Type} {x : Except ε α} {f : α → Except ε β} {b : β}
    (returned : (x >>= f) = .ok b) : ∃ a, x = .ok a ∧ f a = .ok b := by
  cases x with
  | error e => cases returned
  | ok a => exact ⟨a, rfl, returned⟩

theorem ok_bind {ε α β : Type} (a : α) (f : α → Except ε β) :
    ((.ok a : Except ε α) >>= f) = f a := rfl

/-- A computation over the state `σ` that returns an `α` or raises an `ε`. -/
def Comp (ε σ α : Type) : Type := σ → Except ε α × σ

namespace Comp

variable {ε σ τ α β : Type}

def pure (a : α) : Comp ε σ α := fun s => (.ok a, s)

def bind (m : Comp ε σ α) (f : α → Comp ε σ β) : Comp ε σ β := fun s =>
  match m s with
  | (.ok a, s') => f a s'
  | (.error e, s') => (.error e, s')

instance : Monad (Comp ε σ) where
  pure := Comp.pure
  bind := Comp.bind

def raise (e : ε) : Comp ε σ α := fun s => (.error e, s)

/-- Run a handler on the state in which the exception was raised. -/
def handle (m : Comp ε σ α) (h : ε → Comp ε σ α) : Comp ε σ α := fun s =>
  match m s with
  | (.ok a, s') => (.ok a, s')
  | (.error e, s') => h e s'

/-- Hand a raised exception to the rest of the program as a value. -/
def attempt (m : Comp ε σ α) : Comp ε σ (Except ε α) := fun s => (.ok (m s).1, (m s).2)

def ofExcept (x : Except ε α) : Comp ε σ α := fun s => (x, s)

def get : Comp ε σ σ := fun s => (.ok s, s)

def modify (f : σ → σ) : Comp ε σ Unit := fun s => (.ok (), f s)

/-- Run a computation for each value in turn; the first that raises ends the loop. -/
def forEach (f : α → Comp ε σ Unit) : List α → Comp ε σ Unit
  | [] => pure ()
  | a :: rest => f a >>= fun _ => forEach f rest

/-- A state transformer that cannot raise. -/
def ofState (f : σ → α × σ) : Comp ε σ α := fun s => (.ok (f s).1, (f s).2)

/-- Symbolic execution of a sequence whose first part returned. -/
theorem bind_of_ok {m : Comp ε σ α} {f : α → Comp ε σ β} {s s' : σ} {a : α}
    (returned : m s = (.ok a, s')) : (m >>= f) s = f a s' := by
  change Comp.bind m f s = _
  unfold Comp.bind
  rw [returned]

/-- Symbolic execution of a sequence whose first part raised. -/
theorem bind_of_error {m : Comp ε σ α} {f : α → Comp ε σ β} {s s' : σ} {e : ε}
    (raised : m s = (.error e, s')) : (m >>= f) s = (.error e, s') := by
  change Comp.bind m f s = _
  unfold Comp.bind
  rw [raised]

/-- A sequence that returned went through both its parts. -/
theorem of_bind_ok {m : Comp ε σ α} {f : α → Comp ε σ β} {s s' : σ} {b : β}
    (returned : (m >>= f) s = (.ok b, s')) : ∃ a t, m s = (.ok a, t) ∧ f a t = (.ok b, s') := by
  rcases ran : m s with ⟨r, t⟩
  cases r with
  | ok a =>
    rw [bind_of_ok ran] at returned
    exact ⟨a, t, rfl, returned⟩
  | error e =>
    rw [bind_of_error ran] at returned
    cases returned

@[simp] theorem ofExcept_ok_bind (a : α) (f : α → Comp ε σ β) (s : σ) :
    (ofExcept (.ok a) >>= f) s = f a s := rfl

@[simp] theorem ofExcept_error_bind (e : ε) (f : α → Comp ε σ β) (s : σ) :
    (ofExcept (.error e) >>= f) s = (.error e, s) := rfl

@[simp] theorem get_bind (f : σ → Comp ε σ β) (s : σ) : (get >>= f) s = f s s := rfl

theorem bind_assoc {γ : Type} (m : Comp ε σ α) (f : α → Comp ε σ β) (g : β → Comp ε σ γ) :
    ((m >>= f) >>= g) = m >>= fun a => f a >>= g := by
  funext s
  rcases ran : m s with ⟨r, s'⟩
  cases r with
  | ok a =>
    rw [bind_of_ok ran]
    change Comp.bind (m >>= f) g s = Comp.bind (f a) g s'
    unfold Comp.bind
    rw [bind_of_ok ran]
  | error e =>
    rw [bind_of_error ran]
    exact bind_of_error (bind_of_error ran)

/-! ## What every outcome preserves -/

/-- An observation is the same before and after. -/
def Unchanged (observe : σ → τ) (s s' : σ) : Prop := observe s' = observe s

instance (observe : σ → τ) : Std.Refl (Unchanged observe) := ⟨fun _ => rfl⟩

instance (observe : σ → τ) : IsTrans σ (Unchanged observe) :=
  ⟨fun _ _ _ first second => second.trans first⟩

/-- Returned or raised, the computation relates the states before and after. -/
def Preserves (related : σ → σ → Prop) (m : Comp ε σ α) : Prop := ∀ s, related s (m s).2

variable {related : σ → σ → Prop}

theorem preserves_pure [Std.Refl related] (a : α) :
    Preserves related (Pure.pure a : Comp ε σ α) := fun s => Std.Refl.refl s

theorem preserves_raise [Std.Refl related] (e : ε) :
    Preserves related (raise e : Comp ε σ α) := fun s => Std.Refl.refl s

theorem preserves_ofExcept [Std.Refl related] (x : Except ε α) :
    Preserves related (ofExcept x : Comp ε σ α) := fun s => Std.Refl.refl s

theorem preserves_attempt {m : Comp ε σ α} (kept : Preserves related m) :
    Preserves related (attempt m) := fun s => kept s

theorem preserves_handle [IsTrans σ related] {m : Comp ε σ α} {h : ε → Comp ε σ α}
    (body : Preserves related m) (handler : ∀ e, Preserves related (h e)) :
    Preserves related (handle m h) := by
  intro s
  have first := body s
  unfold handle
  rcases ran : m s with ⟨r, mid⟩
  rw [ran] at first
  cases r with
  | ok a => exact first
  | error e => exact IsTrans.trans s mid _ first (handler e mid)

theorem preserves_bind [IsTrans σ related] {m : Comp ε σ α} {f : α → Comp ε σ β}
    (first : Preserves related m) (rest : ∀ a, Preserves related (f a)) :
    Preserves related (m >>= f) := by
  intro s
  rcases ran : m s with ⟨r, mid⟩
  have before : related s mid := by
    have kept := first s
    rwa [ran] at kept
  cases r with
  | ok a =>
    rw [bind_of_ok ran]
    exact IsTrans.trans s mid _ before (rest a mid)
  | error e =>
    rw [bind_of_error ran]
    exact before

/-! ## What is raised -/

/-- From states of the invariant only allowed exceptions are raised, and the invariant is
kept, returned or raised. -/
def Guarded (invariant : σ → Prop) (allowed : ε → Prop) (m : Comp ε σ α) : Prop :=
  ∀ s, invariant s → (∀ e, (m s).1 = .error e → allowed e) ∧ invariant (m s).2

variable {invariant : σ → Prop} {allowed : ε → Prop}

theorem guarded_returns {m : Comp ε σ α}
    (returns : ∀ s, invariant s → ∃ a t, m s = (.ok a, t) ∧ invariant t) :
    Guarded invariant allowed m := by
  intro s holds
  obtain ⟨a, t, ran, kept⟩ := returns s holds
  rw [ran]
  exact ⟨nofun, kept⟩

theorem guarded_ofExcept {x : Except ε α} (raised : ∀ e, x = .error e → allowed e) :
    Guarded invariant allowed (ofExcept x : Comp ε σ α) := fun _ holds => ⟨raised, holds⟩

theorem guarded_raise {e : ε} (fits : allowed e) :
    Guarded invariant allowed (raise e : Comp ε σ α) := by
  intro s holds
  refine ⟨fun other raised => ?_, holds⟩
  cases raised
  exact fits

theorem guarded_bind {m : Comp ε σ α} {f : α → Comp ε σ β} (first : Guarded invariant allowed m)
    (rest : ∀ a, Guarded invariant allowed (f a)) : Guarded invariant allowed (m >>= f) := by
  intro s holds
  obtain ⟨raised, kept⟩ := first s holds
  rcases ran : m s with ⟨r, mid⟩
  rw [ran] at raised kept
  cases r with
  | ok a =>
    rw [bind_of_ok ran]
    exact rest a mid kept
  | error e =>
    rw [bind_of_error ran]
    refine ⟨fun other same => ?_, kept⟩
    cases same
    exact raised e rfl

/-! ## Loops -/

/-- A loop whose bodies keep an invariant and only move forward keeps it and moves
forward; if it returns, what each body achieved, and what follows cannot undo, holds. -/
theorem forEach_spec {f : α → Comp ε σ Unit} {invariant : σ → Prop} (forward : σ → σ → Prop)
    (achieved : α → σ → Prop) (refl : ∀ s, forward s s)
    (trans : ∀ {s t u}, forward s t → forward t u → forward s u)
    (kept : ∀ a {s t}, forward s t → achieved a s → achieved a t)
    (body : ∀ a s, invariant s → invariant (f a s).2 ∧ forward s (f a s).2 ∧
      ((f a s).1 = .ok () → achieved a (f a s).2))
    (values : List α) (s : σ) (start : invariant s) :
    invariant (forEach f values s).2 ∧ forward s (forEach f values s).2 ∧
      ((forEach f values s).1 = .ok () → ∀ a ∈ values, achieved a (forEach f values s).2) := by
  induction values generalizing s with
  | nil => exact ⟨start, refl s, fun _ a member => absurd member List.not_mem_nil⟩
  | cons a rest ih =>
    obtain ⟨kept_here, forward_here, achieved_here⟩ := body a s start
    rcases ran : f a s with ⟨r, mid⟩
    rw [ran] at kept_here forward_here achieved_here
    cases r with
    | ok u =>
      have unfolded : forEach f (a :: rest) s = forEach f rest mid := bind_of_ok ran
      obtain ⟨kept_later, forward_later, achieved_later⟩ := ih mid kept_here
      rw [unfolded]
      refine ⟨kept_later, trans forward_here forward_later, fun returned => ?_⟩
      exact List.forall_mem_cons.mpr
        ⟨kept a forward_later (achieved_here rfl), achieved_later returned⟩
    | error e =>
      have unfolded : forEach f (a :: rest) s = (.error e, mid) := bind_of_error ran
      rw [unfolded]
      exact ⟨kept_here, forward_here, nofun⟩

/-- What the first part leaves and the rest keeps, a sequence leaves. -/
theorem bind_invariant {m : Comp ε σ α} {f : α → Comp ε σ β} {invariant : σ → Prop} {s : σ}
    (first : invariant (m s).2) (rest : ∀ a t, invariant t → invariant (f a t).2) :
    invariant ((m >>= f) s).2 := by
  rcases ran : m s with ⟨r, mid⟩
  rw [ran] at first
  cases r with
  | ok a =>
    rw [bind_of_ok ran]
    exact rest a mid first
  | error e =>
    rw [bind_of_error ran]
    exact first

theorem forEach_invariant {f : α → Comp ε σ Unit} {invariant : σ → Prop}
    (body : ∀ a s, invariant s → invariant (f a s).2) (values : List α) (s : σ)
    (start : invariant s) : invariant (forEach f values s).2 := by
  induction values generalizing s with
  | nil => exact start
  | cons a rest ih => exact bind_invariant (body a s start) fun _ t holds => ih t holds

/-- Bodies that agree wherever the invariant holds make the same loop. -/
theorem forEach_congr {f g : α → Comp ε σ Unit} {invariant : σ → Prop}
    (same : ∀ a s, invariant s → f a s = g a s)
    (kept : ∀ a s, invariant s → invariant (f a s).2) (values : List α) (s : σ)
    (start : invariant s) : forEach f values s = forEach g values s := by
  induction values generalizing s with
  | nil => rfl
  | cons a rest ih =>
    have here := same a s start
    have after := kept a s start
    rcases ran : f a s with ⟨r, mid⟩
    rw [ran] at after here
    cases r with
    | ok u =>
      have left : forEach f (a :: rest) s = forEach f rest mid := bind_of_ok ran
      have right : forEach g (a :: rest) s = forEach g rest mid := bind_of_ok here.symm
      rw [left, right]
      exact ih mid after
    | error e =>
      have left : forEach f (a :: rest) s = (.error e, mid) := bind_of_error ran
      have right : forEach g (a :: rest) s = (.error e, mid) := bind_of_error here.symm
      rw [left, right]

end Comp

/-- A part `τ` of a state `σ`. -/
structure Lens (σ τ : Type) where
  get : σ → τ
  set : τ → σ → σ
  get_set : ∀ t s, get (set t s) = t
  set_get : ∀ s, set (get s) s = s
  set_set : ∀ t t' s, set t (set t' s) = set t s

namespace Comp

variable {ε σ τ α : Type}

/-- Run a computation on a part of the state; the rest is untouched. -/
def zoom (part : Lens σ τ) (m : Comp ε τ α) : Comp ε σ α := fun s =>
  ((m (part.get s)).1, part.set (m (part.get s)).2 s)

theorem zoom_of_eq {part : Lens σ τ} {m : Comp ε τ α} {s : σ} {r : Except ε α} {t : τ}
    (ran : m (part.get s) = (r, t)) : zoom part m s = (r, part.set t s) := by
  simp only [zoom, ran]

end Comp

end Apcos.Lib
