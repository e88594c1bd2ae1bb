import PortGate.Command.Run
import PortGate.Proofs.Success

/-! Words behind options. Words that name a command and what it is about are read as that command, and
all others are answered with nothing. Options that are complete put rules into effect, and the words
after them are run on these rules. -/

namespace PortGate.Command
open Text

theorem readNumber?_of_read? {text : String} {n : Nat} (hread : Decimal.read? text.toList = some n)
    (hn : n < 65536) : readNumber? text = some (UInt16.ofNat n) := by
  unfold readNumber?
  split
  · rename_i rest hplus
    have hdigits := (Decimal.read?_eq_some_iff.1 hread).2.1
    rw [hplus, List.all_cons] at hdigits
    exact absurd (Bool.and_eq_true_iff.1 hdigits).1 (by decide)
  · dsimp only
    rw [hread, Option.bind_eq_bind, Option.bind_some, if_pos hn]

theorem readNumber?_render (p : Port) : readNumber? (Decimal.render p.toNat) = some p := by
  rw [readNumber?_of_read? (Decimal.read?_render _) p.toNat_lt]
  exact congrArg some UInt16.ofNat_toNat

/-! ### Words that are a command -/

def IsEndpoint (address port : String) (endpoint : Endpoint) : Prop :=
  Address.read? address.toList = some endpoint.address ∧ readNumber? port = some endpoint.port

/-- What words say. Each command has its own number of words, and its ports and its address are those
that the texts name. -/
inductive Means : List String → Command → Prop where
  | list : Means ["list"] .list
  | check {external address port : String} {p : Port} {endpoint : Endpoint}
      (hexternal : readNumber? external = some p) (hendpoint : IsEndpoint address port endpoint) :
      Means ["check", external, address, port] (.check ⟨p, endpoint, none⟩)
  | describedCheck {external address port : String} {p : Port} {endpoint : Endpoint}
      (hexternal : readNumber? external = some p) (hendpoint : IsEndpoint address port endpoint)
      (text : String) :
      Means ["check", external, address, port, text] (.check ⟨p, endpoint, some text⟩)
  | ports {address port : String} {endpoint : Endpoint}
      (hendpoint : IsEndpoint address port endpoint) :
      Means ["ports", address, port] (.ports endpoint)
  | free {external address port : String} {p : Port} {endpoint : Endpoint}
      (hexternal : readNumber? external = some p) (hendpoint : IsEndpoint address port endpoint) :
      Means ["free", external, address, port] (.free p endpoint)

theorem elim_error_ok_iff {α ε : Type} {x : Option α} {e : ε} {a : α} :
    x.elim (.error e) .ok = (.ok a : Except ε α) ↔ x = some a := by
  cases x <;> simp

section
variable {what text address port : String} {p : Port} {endpoint : Endpoint}

theorem readPortArgument_eq_ok_iff :
    readPortArgument what text = .ok p ↔ readNumber? text = some p :=
  elim_error_ok_iff

theorem readEndpoint_eq_ok_iff :
    readEndpoint address port = .ok endpoint ↔ IsEndpoint address port endpoint := by
  simp only [readEndpoint, bind_eq_ok_iff, readAddressArgument, elim_error_ok_iff,
    readPortArgument_eq_ok_iff, return_eq_ok_iff, IsEndpoint]
  constructor
  · rintro ⟨found, haddress, number, hport, rfl⟩
    exact ⟨haddress, hport⟩
  · rintro ⟨haddress, hport⟩
    exact ⟨endpoint.address, haddress, endpoint.port, hport, rfl⟩

theorem readCheck_eq_ok_iff {external : String} {description : Option String} {command : Command} :
    readCheck external address port description = .ok command ↔
      ∃ p endpoint, readNumber? external = some p ∧ IsEndpoint address port endpoint ∧
        command = .check ⟨p, endpoint, description⟩ := by
  simp only [readCheck, bind_eq_ok_iff, readPortArgument_eq_ok_iff, readEndpoint_eq_ok_iff,
    return_eq_ok_iff]
  constructor
  · rintro ⟨p, hp, endpoint, hendpoint, rfl⟩
    exact ⟨p, endpoint, hp, hendpoint, rfl⟩
  · rintro ⟨p, endpoint, hp, hendpoint, rfl⟩
    exact ⟨p, hp, endpoint, hendpoint, rfl⟩

end

theorem read_eq_ok_iff_means {words : List String} {command : Command} :
    read words = .ok command ↔ Means words command := by
  constructor
  · intro h
    unfold read at h
    split at h
    case h_1 =>
      cases h
      exact .list
    case h_2 =>
      obtain ⟨p, endpoint, hp, hendpoint, rfl⟩ := readCheck_eq_ok_iff.1 h
      exact .check hp hendpoint
    case h_3 =>
      obtain ⟨p, endpoint, hp, hendpoint, rfl⟩ := readCheck_eq_ok_iff.1 h
      exact .describedCheck hp hendpoint _
    case h_4 =>
      obtain ⟨endpoint, hendpoint, hcommand⟩ := bind_eq_ok_iff.1 h
      obtain rfl := return_eq_ok_iff.1 hcommand
      exact .ports (readEndpoint_eq_ok_iff.1 hendpoint)
    case h_5 =>
      obtain ⟨p, hp, hrest⟩ := bind_eq_ok_iff.1 h
      obtain ⟨endpoint, hendpoint, hcommand⟩ := bind_eq_ok_iff.1 hrest
      obtain rfl := return_eq_ok_iff.1 hcommand
      exact .free (readPortArgument_eq_ok_iff.1 hp) (readEndpoint_eq_ok_iff.1 hendpoint)
    case h_6 => cases h
  · intro h
    cases h with
    | list => rfl
    | check hexternal hendpoint => exact readCheck_eq_ok_iff.2 ⟨_, _, hexternal, hendpoint, rfl⟩
    | describedCheck hexternal hendpoint text =>
      exact readCheck_eq_ok_iff.2 ⟨_, _, hexternal, hendpoint, rfl⟩
    | ports hendpoint =>
      exact bind_eq_ok_iff.2 ⟨_, readEndpoint_eq_ok_iff.2 hendpoint, rfl⟩
    | free hexternal hendpoint =>
      exact bind_eq_ok_iff.2 ⟨_, readPortArgument_eq_ok_iff.2 hexternal,
        bind_eq_ok_iff.2 ⟨_, readEndpoint_eq_ok_iff.2 hendpoint, rfl⟩⟩

section
variable {text address port : String} {p : Port} {endpoint : Endpoint}

theorem readEndpoint_of_read? (haddress : Address.read? address.toList = some endpoint.address)
    (hport : readNumber? port = some endpoint.port) :
    readEndpoint address port = .ok endpoint :=
  readEndpoint_eq_ok_iff.2 ⟨haddress, hport⟩

theorem read_check (htext : readNumber? text = some p)
    (hendpoint : readEndpoint address port = .ok endpoint) :
    read ["check", text, address, port] = .ok (.check ⟨p, endpoint, none⟩) :=
  read_eq_ok_iff_means.2 (.check htext (readEndpoint_eq_ok_iff.1 hendpoint))

theorem read_ports (hendpoint : readEndpoint address port = .ok endpoint) :
    read ["ports", address, port] = .ok (.ports endpoint) :=
  read_eq_ok_iff_means.2 (.ports (readEndpoint_eq_ok_iff.1 hendpoint))

theorem read_free (htext : readNumber? text = some p)
    (hendpoint : readEndpoint address port = .ok endpoint) :
    read ["free", text, address, port] = .ok (.free p endpoint) :=
  read_eq_ok_iff_means.2 (.free htext (readEndpoint_eq_ok_iff.1 hendpoint))

end

/-! ### What words are answered -/

theorem runWords_of_read {rules : List Rule} {words : List String} {command : Command}
    (h : read words = .ok command) : runWords rules words = command.answer rules := by
  rw [runWords, h]

def outcome (rules : List Rule) : Command → Outcome
  | list =>
    match dumpTo none rules with
    | (.ok _, bytes) => .answer ((decode? bytes).getD "")
    | (.error _, bytes) => .refusal ((decode? bytes).getD "")
  | check q =>
    let v := decideRequest rules q
    if v.isAllowed then .answer (describeVerdict rules v) else .refusal (describeVerdict rules v)
  | ports endpoint => answerPorts rules endpoint
  | free wanted endpoint => answerFree rules wanted endpoint

theorem run_answer_value (rules : List Rule) (command : Command) (mask : LogMask) :
    ((command.answer rules).run mask).value = command.outcome rules := by
  cases command with
  | list =>
    rw [answer, answerList, outcome]
    cases dumpTo none rules with
    | mk result bytes => cases result <;> rfl
  | check q => rfl
  | ports endpoint => rfl
  | free wanted endpoint => rfl

def wordsOutcome (rules : List Rule) (words : List String) : Outcome :=
  match read words with
  | .ok command => command.outcome rules
  | .error _ => .failure

theorem run_runWords_value (rules : List Rule) (words : List String) (mask : LogMask) :
    ((runWords rules words).run mask).value = wordsOutcome rules words := by
  rw [runWords, wordsOutcome]
  cases read words with
  | ok command => exact run_answer_value rules command mask
  | error e => cases e <;> rfl

/-! ### Options in front -/

/-- The options are complete, and `rules` is what they put into effect. -/
def InEffect (files : String → FileContent) (options : List String) (rules : List Rule) : Prop :=
  ∃ o, Invocation.ofArguments options = .run o ∧ o.words = [] ∧
    ((rulesInEffect files o).run o.verbosity.mask).value = some rules

theorem readOptions_append {o o' : Options} {options words : List String} {word : String}
    (hread : readOptions o options = .run o') (hwords : o'.words = [])
    (hword : startsWithDash word = false) :
    readOptions o (options ++ word :: words) = .run { o' with words := word :: words } := by
  fun_induction readOptions o options with
  | case1 o =>
    have ho : { o with words := [] } = o' := Invocation.run.inj hread
    subst ho
    rw [List.nil_append, readOptions.eq_def]
    dsimp only
    rw [if_neg (ne_true_of_eq_false hword)]
  | case2 | case3 | case4 | case6 | case11 => cases hread
  | case5 _ _ hdash _ _ hswitch ih | case7 _ _ hdash _ _ hswitch ih
  | case8 _ _ hdash _ hswitch ih | case9 _ _ hdash _ hswitch ih
  | case10 _ _ hdash _ _ hswitch ih =>
    rw [List.cons_append, readOptions.eq_def]
    dsimp only
    rw [if_pos hdash, hswitch]
    exact ih hread
  | case12 o arg rest hdash =>
    rw [← Invocation.run.inj hread] at hwords
    cases hwords

theorem execute_outcome {files : String → FileContent} {options : List String} {rules : List Rule}
    (heffect : InEffect files options rules) (ident : String) :
    ∃ mask, ∀ word words, startsWithDash word = false →
      (execute ident files (options ++ word :: words)).outcome =
        ((runWords rules (word :: words)).run mask).value := by
  obtain ⟨o, hread, hwords, hrules⟩ := heffect
  refine ⟨o.verbosity.mask, fun word words hword => ?_⟩
  have hrun : Invocation.ofArguments (options ++ word :: words) =
      .run { o with words := word :: words } := readOptions_append hread hwords hword
  have hsame : rulesInEffect files { o with words := word :: words } = rulesInEffect files o := rfl
  rw [execute, hrun]
  simp only [Invocation.perform, Invocation.mask, hsame, Logged.run_bind, hrules]

end PortGate.Command
