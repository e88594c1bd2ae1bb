import PortGate.Proofs.Config.LineByLine
import PortGate.Store

/-! What a store has been through can be told from its operations. A list comes into use as a whole
or not at all, every installing counts as one generation, and what was taken out of the store stays
as it was. -/

namespace PortGate

namespace Store

inductive Operation where
  | replace (rules : List Rule)
  | reload (policy : Policy) (name : String) (content : FileContent)
  | snapshot

inductive Answer where
  | replaced (previous : Generation)
  | loaded (count : Nat)
  | failed (cause : LoadError)
  | taken (generation : Generation)

def Operation.installs? (mask : LogMask) : Operation → Option (List Rule)
  | .replace rules => some rules
  | .reload policy name content =>
    ((loadFile policy name content).run mask).value.toOption.map (·.rules)
  | .snapshot => none

def installed (mask : LogMask) (ops : List Operation) : List (List Rule) :=
  ops.filterMap (·.installs? mask)

theorem installed_eq_nil_iff {mask : LogMask} {ops : List Operation} :
    installed mask ops = [] ↔ ∀ op ∈ ops, op.installs? mask = none :=
  List.filterMap_eq_nil_iff

def install (s : Store) (rules : List Rule) : Store := (s.replace rules).2

theorem rules_foldl_install (s : Store) (lists : List (List Rule)) :
    (lists.foldl install s).current.rules = lists.getLastD s.current.rules := by
  induction lists generalizing s with
  | nil => rfl
  | cons rules lists ih =>
    rw [List.foldl_cons, ih, List.getLastD_cons]
    rfl

def Numbered (s : Store) : Prop := s.nextSerial = s.current.serial + 1

theorem numbered_ofRules (rules : List Rule) : (ofRules rules).Numbered := rfl

theorem Numbered.install {s : Store} (rules : List Rule) : (s.install rules).Numbered := rfl

theorem Numbered.foldl_install {s : Store} (h : s.Numbered) (lists : List (List Rule)) :
    (lists.foldl Store.install s).Numbered := by
  induction lists generalizing s with
  | nil => exact h
  | cons rules lists ih => exact ih (Numbered.install rules)

theorem Numbered.serial_foldl_install {s : Store} (h : s.Numbered) (lists : List (List Rule)) :
    (lists.foldl Store.install s).current.serial = s.current.serial + lists.length := by
  -- a list that is installed is numbered by the invariant, and the invariant holds again behind it
  induction lists generalizing s with
  | nil => rfl
  | cons rules lists ih =>
    have hnext : (s.install rules).current.serial = s.current.serial + 1 := h
    rw [List.foldl_cons, ih (Numbered.install rules), hnext, List.length_cons]
    omega

theorem run_reload_value (s : Store) (policy : Policy) (name : String) (content : FileContent)
    (mask : LogMask) :
    ((s.reload policy name content).run mask).value =
      match ((loadFile policy name content).run mask).value with
      | .error e => (.error e, s)
      | .ok loaded => (.ok loaded.rules.length, s.install loaded.rules) := by
  rw [reload, Logged.run_bind]
  cases ((loadFile policy name content).run mask).value with
  | error e => rfl
  | ok loaded => rfl

end Store

open Store

/-- A store and the generations that were taken out of it, in order. -/
structure Session where
  store : Store
  held : List Generation

namespace Session

def start (rules : List Rule) : Session := ⟨ofRules rules, []⟩

def step (s : Session) : Operation → Logged (Answer × Session)
  | .replace rules =>
    let (previous, store) := s.store.replace rules
    return (.replaced previous, { s with store })
  | .reload policy name content => do
    match ← s.store.reload policy name content with
    | (.ok count, store) => return (.loaded count, { s with store })
    | (.error cause, store) => return (.failed cause, { s with store })
  | .snapshot =>
    let taken := s.store.snapshot
    return (.taken taken, { s with held := s.held ++ [taken] })

def run (s : Session) : List Operation → Logged Session
  | [] => return s
  | op :: ops => do
    let (_, next) ← s.step op
    next.run ops

def after (s : Session) (mask : LogMask) (ops : List Operation) : Session :=
  ((s.run ops).run mask).value

variable (s : Session) (mask : LogMask)

theorem after_cons (op : Operation) (ops : List Operation) :
    s.after mask (op :: ops) = ((s.step op).run mask).value.2.after mask ops := rfl

theorem after_append (ops later : List Operation) :
    s.after mask (ops ++ later) = (s.after mask ops).after mask later := by
  induction ops generalizing s with
  | nil => rfl
  | cons op ops ih => rw [List.cons_append, after_cons, after_cons, ih]

theorem step_reload_value (policy : Policy) (name : String) (content : FileContent) :
    ((s.step (.reload policy name content)).run mask).value =
      match ((loadFile policy name content).run mask).value with
      | .error e => (.failed e, s)
      | .ok loaded => (.loaded loaded.rules.length, { s with store := s.store.install loaded.rules }) := by
  rw [step, Logged.run_bind, run_reload_value]
  cases ((loadFile policy name content).run mask).value with
  | error e => rfl
  | ok loaded => rfl

theorem store_step (op : Operation) :
    ((s.step op).run mask).value.2.store =
      (op.installs? mask).elim s.store s.store.install := by
  cases op with
  | replace rules => rfl
  | reload policy name content =>
    rw [step_reload_value, Operation.installs?]
    cases ((loadFile policy name content).run mask).value with
    | error e => rfl
    | ok loaded => rfl
  | snapshot => rfl

theorem held_step (op : Operation) : s.held <+: ((s.step op).run mask).value.2.held := by
  cases op with
  | replace rules => exact List.prefix_rfl
  | reload policy name content =>
    rw [step_reload_value]
    cases ((loadFile policy name content).run mask).value with
    | error e => exact List.prefix_rfl
    | ok loaded => exact List.prefix_rfl
  | snapshot => exact List.prefix_append s.held [s.store.current]

theorem store_after (ops : List Operation) :
    (s.after mask ops).store = (installed mask ops).foldl install s.store := by
  induction ops generalizing s with
  | nil => rfl
  | cons op ops ih =>
    rw [after_cons, ih, store_step, installed, installed, List.filterMap_cons]
    cases op.installs? mask with
    | none => rfl
    | some rules => rfl

theorem held_after (ops : List Operation) : s.held <+: (s.after mask ops).held := by
  induction ops generalizing s with
  | nil => exact List.prefix_rfl
  | cons op ops ih =>
    rw [after_cons]
    exact (s.held_step mask op).trans (ih _)

theorem held_after_snapshot (later : List Operation) :
    (s.after mask (.snapshot :: later)).held[s.held.length]? = some s.store.current := by
  have hstays : s.held ++ [s.store.current] <+: (s.after mask (.snapshot :: later)).held :=
    held_after ⟨s.store, s.held ++ [s.store.current]⟩ mask later
  obtain ⟨others, hothers⟩ := hstays
  rw [← hothers]
  simp

theorem numbered_after (initial : List Rule) (ops : List Operation) :
    ((start initial).after mask ops).store.Numbered := by
  rw [store_after]
  exact (numbered_ofRules initial).foldl_install _

theorem serial_after_eq_iff {s : Session} (h : s.store.Numbered) (ops : List Operation) :
    (s.after mask ops).store.current.serial = s.store.current.serial ↔ installed mask ops = [] := by
  have hserial := h.serial_foldl_install (installed mask ops)
  rw [store_after, ← List.length_eq_zero_iff]
  omega

theorem current_after_eq_iff {s : Session} (h : s.store.Numbered) (ops : List Operation) :
    (s.after mask ops).store.current = s.store.current ↔ installed mask ops = [] := by
  constructor
  · intro hsame
    exact (serial_after_eq_iff mask h ops).1 (congrArg Generation.serial hsame)
  · intro hnone
    rw [store_after, hnone, List.foldl_nil]

theorem step_reload (policy : Policy) (name : String) (content : FileContent) :
    match ((s.step (.reload policy name content)).run mask).value with
    | (.failed e, next) => next = s ∧ LoadFailure policy content e
    | (.loaded n, next) => ∃ bytes loaded, content = .bytes bytes ∧
        ((load policy bytes).run mask).value = .ok loaded ∧
        next.store.current.rules = loaded.rules ∧ n = loaded.rules.length
    | _ => False := by
  rw [step_reload_value]
  cases content with
  | unreadable fault => exact ⟨rfl, .unreadable fault⟩
  | bytes bytes =>
    have hfile : ((loadFile policy name (.bytes bytes)).run mask).value =
        ((load policy bytes).run mask).value := rfl
    rw [hfile]
    cases hload : ((load policy bytes).run mask).value with
    | error e => exact ⟨rfl, loadFailure_of_load hload⟩
    | ok loaded => exact ⟨bytes, loaded, rfl, hload, rfl, rfl⟩

/-- What holds of a store at any time of its use. The rules in force are those installed last. A
reload either fails and leaves the generation in use, or installs what its file gives. A
replacement gives back the generation that was in use. A snapshot is found unchanged at any later
time, and two snapshots are one generation exactly when nothing was installed between them. -/
theorem store_after_run (initial : List Rule) (ops : List Operation) :
    let s := (start initial).after mask ops
    s.store.current.rules = (installed mask ops).getLastD initial ∧
    (∀ policy name content,
      match ((s.step (.reload policy name content)).run mask).value with
      | (.failed e, next) => next = s ∧ LoadFailure policy content e
      | (.loaded n, next) => ∃ bytes loaded, content = .bytes bytes ∧
          ((load policy bytes).run mask).value = .ok loaded ∧
          next.store.current.rules = loaded.rules ∧ n = loaded.rules.length
      | _ => False) ∧
    (∀ rules, ((s.step (.replace rules)).run mask).value.1 = .replaced s.store.current) ∧
    (∀ later, ∃ g, (s.after mask (.snapshot :: later)).held[s.held.length]? = some g ∧
      g.rules = s.store.current.rules ∧ g.rules.length = s.store.current.rules.length ∧
      ∀ q, evaluate g.rules q = evaluate s.store.current.rules q) ∧
    ∀ between later,
      let t := s.after mask (.snapshot :: between)
      ∃ g h, (t.after mask (.snapshot :: later)).held[s.held.length]? = some g ∧
        (t.after mask (.snapshot :: later)).held[t.held.length]? = some h ∧
        (g.serial = h.serial ↔ g = h) ∧ (g = h ↔ ∀ op ∈ between, op.installs? mask = none) := by
  intro s
  have hrules : s.store.current.rules = (installed mask ops).getLastD initial := by
    rw [store_after, rules_foldl_install]
    rfl
  have hnumbered : s.store.Numbered := numbered_after mask initial ops
  refine ⟨hrules, s.step_reload mask, fun _ => rfl, fun later => ?_, fun between later => ?_⟩
  · exact ⟨s.store.current, s.held_after_snapshot mask later, rfl, rfl, fun _ => rfl⟩
  · intro t
    have hfirst : (t.after mask (.snapshot :: later)).held[s.held.length]? =
        some s.store.current := by
      rw [← after_append]
      exact s.held_after_snapshot mask _
    have hserial : s.store.current.serial = t.store.current.serial ↔ installed mask between = [] := by
      rw [eq_comm]
      exact serial_after_eq_iff mask hnumbered (.snapshot :: between)
    have hsame : s.store.current = t.store.current ↔ installed mask between = [] := by
      rw [eq_comm]
      exact current_after_eq_iff mask hnumbered (.snapshot :: between)
    exact ⟨s.store.current, t.store.current, hfirst, t.held_after_snapshot mask later,
      hserial.trans hsame.symm, hsame.trans installed_eq_nil_iff⟩

end Session

end PortGate
