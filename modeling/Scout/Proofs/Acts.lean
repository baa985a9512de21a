import Mathlib
import Scout.Registry

/-!
# Where acts end

An act on files or on a registry ends with a value or a fault, and what was done
before a fault stays done.  `finish` reads both off an act, and has one equation
for each way in which acts are put together.
-/

namespace Scout

variable {ε σ α β : Type}

/-- The value or the fault that an act ends with, and the state it leaves. -/
def finish (x : ExceptT ε (StateM σ) α) (s : σ) : Except ε α × σ :=
  x.run.run s

theorem finish_bind (x : ExceptT ε (StateM σ) α) (f : α → ExceptT ε (StateM σ) β)
    (s : σ) :
    finish (x >>= f) s = match finish x s with
      | (.ok a, s') => finish (f a) s'
      | (.error e, s') => (.error e, s') := by
  have h : finish (x >>= f) s =
      match x s with
      | (.ok a, s') => finish (f a) s'
      | (.error e, s') => (.error e, s') := by
    change (match x s with | (a, s') => ExceptT.bindCont f a s') = _
    rcases x s with ⟨a | a, s'⟩ <;> rfl
  exact h

theorem finish_bind_ok {x : ExceptT ε (StateM σ) α} {s s' : σ} {a : α}
    (h : finish x s = (.ok a, s')) (f : α → ExceptT ε (StateM σ) β) :
    finish (x >>= f) s = finish (f a) s' := by
  rw [finish_bind, h]

@[simp] theorem finish_pure (a : α) (s : σ) :
    finish (pure a : ExceptT ε (StateM σ) α) s = (.ok a, s) := rfl

@[simp] theorem finish_throw (e : ε) (s : σ) :
    finish (throw e : ExceptT ε (StateM σ) α) s = (.error e, s) := rfl

@[simp] theorem finish_get (s : σ) :
    finish (get : ExceptT ε (StateM σ) σ) s = (.ok s, s) := rfl

@[simp] theorem finish_set (s s' : σ) :
    finish (set s' : ExceptT ε (StateM σ) PUnit) s = (.ok ⟨⟩, s') := rfl

@[simp] theorem finish_modify (f : σ → σ) (s : σ) :
    finish (modify f : ExceptT ε (StateM σ) PUnit) s = (.ok ⟨⟩, f s) := rfl

@[simp] theorem finish_tryCatch (x : ExceptT ε (StateM σ) α) (h : ε → ExceptT ε (StateM σ) α)
    (s : σ) :
    finish (tryCatch x h) s = match finish x s with
      | (.ok a, s') => (.ok a, s')
      | (.error e, s') => finish (h e) s' := by
  have hrun : finish (tryCatch x h) s =
      match x s with
      | (.ok a, s') => (.ok a, s')
      | (.error e, s') => finish (h e) s' := by
    change (match x s with | (a, s') => (match a with
      | .ok a => pure (.ok a)
      | .error e => h e : StateM σ (Except ε α)) s') = _
    rcases x s with ⟨a | a, s'⟩ <;> rfl
  exact hrun

@[simp] theorem finish_map (f : α → β) (x : ExceptT ε (StateM σ) α) (s : σ) :
    finish (f <$> x) s = ((finish x s).1.map f, (finish x s).2) := by
  rw [map_eq_pure_bind, finish_bind]
  rcases finish x s with ⟨a | a, s'⟩ <;> rfl

@[simp] theorem finish_discard (x : ExceptT ε (StateM σ) α) (s : σ) :
    finish (discard x) s = ((finish x s).1.map fun _ => ⟨⟩, (finish x s).2) := by
  change finish ((fun _ => PUnit.unit) <$> x) s = _
  rw [finish_map]

@[simp] theorem finish_lift (x : Except ε α) (s : σ) :
    finish (liftM x : ExceptT ε (StateM σ) α) s = (x, s) := by
  cases x <;> rfl

namespace Registry

@[simp] theorem finish_registry (d : Desk) :
    finish Act.registry d = (.ok d.registry, d) := rfl

@[simp] theorem finish_update (f : Registry → Registry) (d : Desk) :
    finish (Act.update f) d = (.ok (), { d with registry := f d.registry }) := rfl

@[simp] theorem finish_reading (f : Library → Files.Tree → Except Library.Fault α)
    (d : Desk) :
    finish (Act.reading f) d =
      ((f d.registry.library d.files).mapError Fault.library, d) := by
  rw [Act.reading, finish_bind_ok (finish_get d)]
  cases f d.registry.library d.files <;> rfl

@[simp] theorem finish_attempt (f : Library → Files.Act α) (d : Desk) :
    finish (Act.attempt f) d =
      (.ok (finish (f d.registry.library) d.files).1,
        { d with files := (finish (f d.registry.library) d.files).2 }) := rfl

@[simp] theorem finish_writing (f : Library → Files.Act α) (d : Desk) :
    finish (Act.writing f) d =
      ((finish (f d.registry.library) d.files).1.mapError fun e => .library (.file e),
        { d with files := (finish (f d.registry.library) d.files).2 }) := by
  rw [Act.writing, finish_bind, finish_attempt]
  cases (finish (f d.registry.library) d.files).1 <;> rfl

end Registry

end Scout
