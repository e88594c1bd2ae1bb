import PortGate.Proofs.Config.LineByLine

/-! What a mask does to a run: it hides events. A run does not look at its mask, so its value is the
same under each one, and its events are those of the run that shows everything, without the ones that
the mask does not let through. This holds of what is built from parts of which it holds. -/

namespace PortGate

@[simp] theorem LogMask.passes_initial (event : Event) : LogMask.initial.passes event = true := by
  cases event with
  | line text => rfl
  | message priority text => cases priority <;> rfl

namespace Logged
variable {α β : Type} {x : Logged α} {f : α → Logged β}

/-- A run that the mask filters and does not change otherwise. -/
def Filtered (x : Logged α) : Prop :=
  ∀ mask, x.run mask = ⟨(x.run .initial).value, (x.run .initial).events.filter mask.passes⟩

theorem Filtered.value_eq (h : x.Filtered) (mask : LogMask) :
    (x.run mask).value = (x.run .initial).value := by
  rw [h mask]

theorem Filtered.events_eq (h : x.Filtered) (mask : LogMask) :
    (x.run mask).events = (x.run .initial).events.filter mask.passes := by
  rw [h mask]

theorem filtered_pure (a : α) : (pure a : Logged α).Filtered := fun _ => rfl

theorem filtered_emit (event : Event) : (emit event).Filtered := by
  intro mask
  rw [run_emit, run_emit, LogMask.passes_initial, if_pos rfl]
  cases hpasses : mask.passes event with
  | true => rw [if_pos rfl, List.filter_cons_of_pos hpasses, List.filter_nil]
  | false => rw [if_neg Bool.false_ne_true, List.filter_cons_of_neg (by simp [hpasses]), List.filter_nil]

theorem filtered_line (text : String) : (line text).Filtered := filtered_emit (.line text)

theorem filtered_message (priority : Priority) (text : String) :
    (message priority text).Filtered := filtered_emit (.message priority text)

theorem Filtered.bind (hx : x.Filtered) (hf : ∀ a, (f a).Filtered) : (x >>= f).Filtered := by
  intro mask
  simp only [run_bind]
  rw [hx mask, hf _ mask, List.filter_append]

theorem Filtered.map (hx : x.Filtered) (g : α → β) : (g <$> x).Filtered := by
  intro mask
  rw [run_map, run_map, hx mask]

end Logged

open Logged

namespace Rule

theorem filtered_readLogged (text : String) : (readLogged text).Filtered := by
  unfold readLogged
  cases read text with
  | ok rule => exact (filtered_line _).bind fun _ => filtered_pure _
  | error cause => exact filtered_pure _

theorem filtered_readAll (texts : List String) : (readAll texts).Filtered := by
  induction texts with
  | nil => exact filtered_pure _
  | cons text texts ih =>
    rw [readAll_cons]
    refine (filtered_readLogged text).bind fun outcome => ?_
    cases outcome with
    | error cause => exact filtered_pure _
    | ok rule => exact ih.map _

end Rule

theorem filtered_loadLine (policy : Policy) (n : Nat) (line : List UInt8) :
    (loadLine policy n line).Filtered := by
  rw [loadLine]
  cases ConfigLine.ofBytes? line with
  | none => exact filtered_pure _
  | some kind =>
    cases kind with
    | ignored => exact filtered_pure _
    | rule text =>
      refine (Rule.filtered_readLogged text).bind fun outcome => ?_
      cases outcome with
      | ok rule => exact filtered_pure _
      | error cause =>
        cases policy with
        | strict => exact filtered_pure _
        | lenient => exact (filtered_message _ _).bind fun _ => filtered_pure _
    | option key => exact (filtered_line _).bind fun _ => filtered_pure _
    | unknown text => exact (filtered_message _ _).bind fun _ => filtered_pure _

theorem filtered_loadLines (policy : Policy) (n : Nat) (lines : List (List UInt8)) :
    (loadLines policy n lines).Filtered := by
  induction lines generalizing n with
  | nil => exact filtered_pure _
  | cons line lines ih =>
    rw [loadLines_cons]
    refine (filtered_loadLine policy n line).bind fun outcome => ?_
    cases outcome with
    | error e => exact filtered_pure _
    | ok first => exact (ih (n + 1)).map _

theorem filtered_load (policy : Policy) (bytes : List UInt8) : (load policy bytes).Filtered :=
  filtered_loadLines policy 1 (Text.lines bytes)

theorem filtered_loadFile (policy : Policy) (name : String) (content : FileContent) :
    (loadFile policy name content).Filtered := by
  refine (filtered_line _).bind fun _ => ?_
  cases content with
  | unreadable fault => exact filtered_pure _
  | bytes content => exact filtered_load policy content

end PortGate
