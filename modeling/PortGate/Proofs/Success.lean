/-! When a computation that may fail succeeds: a sequence does if each of its steps does. Renaming
an error changes no success, and changing a result changes no error. Forgetting the error keeps
the result. -/

namespace PortGate
variable {ε δ α β : Type}

theorem error_bind (e : ε) (f : α → Except ε β) : (.error e : Except ε α) >>= f = .error e := rfl

theorem ok_bind (a : α) (f : α → Except ε β) : (.ok a : Except ε α) >>= f = f a := rfl

theorem bind_eq_ok_iff {x : Except ε α} {f : α → Except ε β} {b : β} :
    x >>= f = .ok b ↔ ∃ a, x = .ok a ∧ f a = .ok b := by
  cases x with
  | error e => simp [error_bind]
  | ok a => simp [ok_bind]

theorem bind_eq_error_iff_of_ok {x : Except ε α} {f : α → Except ε β} {e : ε}
    (hf : ∀ a, ∃ b, f a = .ok b) : x >>= f = .error e ↔ x = .error e := by
  cases x with
  | error e' => simp [error_bind]
  | ok a =>
    obtain ⟨b, hb⟩ := hf a
    simp [ok_bind, hb]

@[simp] theorem return_eq_ok_iff {a b : α} : (return a : Except ε α) = .ok b ↔ a = b :=
  ⟨Except.ok.inj, congrArg Except.ok⟩

@[simp] theorem mapError_eq_ok_iff {x : Except ε α} {f : ε → δ} {a : α} :
    x.mapError f = .ok a ↔ x = .ok a := by
  cases x with
  | error e =>
    have hrenamed : (Except.error e : Except ε α).mapError f = .error (f e) := rfl
    simp [hrenamed]
  | ok b =>
    have hkept : (Except.ok b : Except ε α).mapError f = .ok b := rfl
    simp [hkept]

theorem map_eq_ok_iff {x : Except ε α} {f : α → β} {b : β} :
    x.map f = .ok b ↔ ∃ a, x = .ok a ∧ f a = b := by
  cases x with
  | error e =>
    have hkept : (Except.error e : Except ε α).map f = .error e := rfl
    simp [hkept]
  | ok a =>
    have hchanged : (Except.ok a : Except ε α).map f = .ok (f a) := rfl
    simp [hchanged]

@[simp] theorem map_eq_error_iff {x : Except ε α} {f : α → β} {e : ε} :
    x.map f = .error e ↔ x = .error e := by
  cases x with
  | error e' =>
    have hkept : (Except.error e' : Except ε α).map f = .error e' := rfl
    simp [hkept]
  | ok a =>
    have hchanged : (Except.ok a : Except ε α).map f = .ok (f a) := rfl
    simp [hchanged]

@[simp] theorem toOption_ok (a : α) : (Except.ok a : Except ε α).toOption = some a := rfl

@[simp] theorem toOption_error (e : ε) : (Except.error e : Except ε α).toOption = none := rfl

theorem toOption_eq_some_iff {x : Except ε α} {a : α} : x.toOption = some a ↔ x = .ok a := by
  cases x with
  | error e => simp
  | ok b => simp

end PortGate
