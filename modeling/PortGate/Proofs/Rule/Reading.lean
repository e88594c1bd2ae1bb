import PortGate.Proofs.Success
import PortGate.Rule.Reader

/-! Reading rules one after the other. A list reads when each of its texts does, and else the first that
does not gives the error. -/

namespace PortGate.Rule

@[simp] theorem run_readLogged_value (text : String) (mask : LogMask) :
    ((readLogged text).run mask).value = read text := by
  unfold readLogged
  cases read text with
  | ok rule => rfl
  | error cause => rfl

-- Kept closed, so that the equations below do not run the reader.
attribute [local irreducible] read readLogged

theorem readAll_nil : readAll [] = return .ok [] := rfl

theorem readAll_cons (text : String) (texts : List String) :
    readAll (text :: texts) = (do
      match ← readLogged text with
      | .error e => return .error e
      | .ok rule => (·.map (rule :: ·)) <$> readAll texts) := rfl

def Readable (text : String) : Prop := ∃ rule, read text = .ok rule

theorem readable_iff_isSome {text : String} :
    Readable text ↔ (read text).toOption.isSome = true := by
  simp only [Readable, Option.isSome_iff_exists, toOption_eq_some_iff]

instance (text : String) : Decidable (Readable text) :=
  decidable_of_iff _ readable_iff_isSome.symm

variable {texts : List String} {mask : LogMask}

theorem run_readAll_cons_value (text : String) (texts : List String) (mask : LogMask) :
    ((readAll (text :: texts)).run mask).value =
      match read text with
      | .error e => .error e
      | .ok rule => ((readAll texts).run mask).value.map (rule :: ·) := by
  rw [readAll_cons, Logged.run_bind, run_readLogged_value]
  cases read text with
  | error e => rfl
  | ok rule => rfl

theorem run_readAll_eq_ok_iff {rules : List Rule} :
    ((readAll texts).run mask).value = .ok rules ↔
      (∀ text ∈ texts, Readable text) ∧ rules = texts.filterMap fun text => (read text).toOption := by
  induction texts generalizing rules with
  | nil =>
    rw [readAll_nil, Logged.run_pure, Except.ok.injEq, eq_comm]
    simp
  | cons text texts ih =>
    rw [run_readAll_cons_value, List.forall_mem_cons]
    cases hread : read text with
    | error e => simp [Readable, hread]
    | ok rule =>
      have hcons : (text :: texts).filterMap (fun text => (read text).toOption) =
          rule :: texts.filterMap fun text => (read text).toOption :=
        List.filterMap_cons_some (toOption_eq_some_iff.2 hread)
      simp only [hcons, map_eq_ok_iff, ih]
      constructor
      · rintro ⟨later, ⟨hall, rfl⟩, rfl⟩
        exact ⟨⟨⟨rule, hread⟩, hall⟩, rfl⟩
      · rintro ⟨⟨-, hall⟩, rfl⟩
        exact ⟨_, ⟨hall, rfl⟩, rfl⟩

theorem run_readAll_eq_error_iff {e : RuleError} :
    ((readAll texts).run mask).value = .error e ↔
      ∃ before text after, texts = before ++ text :: after ∧
        (∀ earlier ∈ before, Readable earlier) ∧ read text = .error e := by
  induction texts with
  | nil => simp [readAll_nil]
  | cons text texts ih =>
    rw [run_readAll_cons_value]
    cases hread : read text with
    | error cause =>
      simp only [Except.error.injEq]
      constructor
      · rintro rfl
        exact ⟨[], text, texts, rfl, by simp, hread⟩
      · rintro ⟨before, bad, after, hsplit, hearlier, hbad⟩
        cases before with
        | nil =>
          obtain ⟨rfl, -⟩ := List.cons.inj hsplit
          exact Except.error.inj (hread.symm.trans hbad)
        | cons first before =>
          obtain ⟨rfl, -⟩ := List.cons.inj hsplit
          obtain ⟨rule, hrule⟩ := hearlier text List.mem_cons_self
          cases hread.symm.trans hrule
    | ok rule =>
      simp only [map_eq_error_iff, ih]
      constructor
      · rintro ⟨before, bad, after, rfl, hearlier, hbad⟩
        exact ⟨text :: before, bad, after, rfl, List.forall_mem_cons.2 ⟨⟨rule, hread⟩, hearlier⟩, hbad⟩
      · rintro ⟨before, bad, after, hsplit, hearlier, hbad⟩
        cases before with
        | nil =>
          obtain ⟨rfl, -⟩ := List.cons.inj hsplit
          cases hread.symm.trans hbad
        | cons first before =>
          obtain ⟨rfl, rfl⟩ := List.cons.inj hsplit
          exact ⟨before, bad, after, rfl, (List.forall_mem_cons.1 hearlier).2, hbad⟩

end PortGate.Rule
