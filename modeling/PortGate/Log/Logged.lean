import PortGate.Log.Event

/-! Computations that say something on the way. The mask is fixed while one runs and decides at the
moment of an event whether it is kept. -/

namespace PortGate

/-- A value with the events on the way to it, in order. -/
structure Trail (α : Type) where
  value : α
  events : List Event

def Logged (α : Type) : Type := LogMask → Trail α

namespace Logged
variable {α β : Type}

def run (x : Logged α) (mask : LogMask) : Trail α := x mask

instance : Monad Logged where
  pure a := fun _ => ⟨a, []⟩
  map f x := fun mask =>
    let first := x mask
    ⟨f first.value, first.events⟩
  bind x f := fun mask =>
    let first := x mask
    let second := f first.value mask
    ⟨second.value, first.events ++ second.events⟩

def emit (event : Event) : Logged Unit :=
  fun mask => ⟨(), if mask.passes event then [event] else []⟩

def line (text : String) : Logged Unit := emit (.line text)

def message (priority : Priority) (text : String) : Logged Unit := emit (.message priority text)

@[simp] theorem run_pure (a : α) (mask : LogMask) : (pure a : Logged α).run mask = ⟨a, []⟩ := rfl

@[simp] theorem run_bind (x : Logged α) (f : α → Logged β) (mask : LogMask) :
    (x >>= f).run mask =
      ⟨((f (x.run mask).value).run mask).value,
        (x.run mask).events ++ ((f (x.run mask).value).run mask).events⟩ := rfl

@[simp] theorem run_map (f : α → β) (x : Logged α) (mask : LogMask) :
    (f <$> x).run mask = ⟨f (x.run mask).value, (x.run mask).events⟩ := rfl

@[simp] theorem run_emit (event : Event) (mask : LogMask) :
    (emit event).run mask = ⟨(), if mask.passes event then [event] else []⟩ := rfl

@[ext] theorem ext {x y : Logged α} (h : ∀ mask, x.run mask = y.run mask) : x = y := funext h

theorem bind_pure_eq_map (f : α → β) (x : Logged α) : (x >>= fun a => pure (f a)) = f <$> x :=
  ext fun _ => by simp

instance : LawfulMonad Logged :=
  LawfulMonad.mk' Logged (fun _ => rfl) (fun _ _ => ext fun _ => by simp)
    (fun _ _ _ => ext fun _ => by simp) (fun _ _ => rfl) (fun _ _ => rfl) (fun _ _ => rfl)
    bind_pure_eq_map

end Logged

end PortGate
