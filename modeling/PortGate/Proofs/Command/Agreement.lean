import PortGate.Proofs.Command.Words
import PortGate.Proofs.PortSet.Listing
import PortGate.Proofs.PortSet.SearchOrder
import PortGate.Proofs.RuleList.FirstMatch

/-! The commands answer from one set of ports. The ports that pass the check are those of the listing
and of its total, and the search for a free port answers with the nearest of them. -/

namespace PortGate.Command
open Text PortSet

def accepts (run : List String → Outcome) (address port : String) (p : Port) : Bool :=
  (run ["check", Decimal.render p.toNat, address, port]).exit == 0

/-- `p` is accepted and no accepted port is nearer to `wanted`, the higher of two at one distance.
Port zero counts only when it is the wanted one. -/
structure IsNearest (accepted : Port → Bool) (wanted p : Port) : Prop where
  isAccepted : accepted p = true
  itself : accepted wanted = true → p = wanted
  nearest : accepted wanted = false → 1 ≤ p.toNat ∧ ∀ q, accepted q = true → 1 ≤ q.toNat →
    distance wanted p < distance wanted q ∨ (distance wanted p = distance wanted q ∧ q ≤ p)

def listedLine (r : PortRange) : String :=
  (if r.lo < r.hi then Decimal.render r.lo.toNat ++ "-" ++ Decimal.render r.hi.toNat
    else Decimal.render r.lo.toNat) ++ "\n"

/-- The commands about one endpoint give consistent answers, each told by what the check accepts.
The search answers with a port or refuses, and does nothing else. -/
structure Agree (run : List String → Outcome) (address port : String) : Prop where
  check : ∀ text p, readNumber? text = some p →
    (run ["check", text, address, port]).exit = if accepts run address port p then 0 else 1
  free_eq_answer_iff : ∀ text wanted p, readNumber? text = some wanted →
    (run ["free", text, address, port] = .answer (Decimal.render p.toNat ++ "\n") ↔
      IsNearest (accepts run address port) wanted p)
  free_eq_refusal_iff : ∀ text wanted, readNumber? text = some wanted →
    (run ["free", text, address, port] = .refusal "NoPortMapsAvailable\n" ↔
      ∀ p, p = wanted ∨ 1 ≤ p.toNat → accepts run address port p = false)
  free_ends : ∀ text wanted, readNumber? text = some wanted →
    run ["free", text, address, port] = .refusal "NoPortMapsAvailable\n" ∨
      ∃ p : Port, run ["free", text, address, port] = .answer (Decimal.render p.toNat ++ "\n")
  ports : ∃ ranges : List PortRange,
    run ["ports", address, port] = .answer (String.join (ranges.map listedLine) ++
      Decimal.render (allPorts.countP (accepts run address port)) ++ " ports permitted\n") ∧
    Separated ranges ∧ ∀ p, accepts run address port p = true ↔ ∃ r ∈ ranges, p ∈ r

/-! ### One set of ports -/

section
variable {rules : List Rule} {allowed : PortSet} {wanted p q : Port} {endpoint : Endpoint}

theorem listedLine_eq (r : PortRange) : listedLine r = r.render ++ "\n" := by
  have hle := r.lo_le_hi
  rw [listedLine, PortRange.render]
  by_cases h : r.lo = r.hi
  · have hnot : ¬r.lo < r.hi := by simp [h]
    rw [if_pos h, if_neg hnot]
  · have hlt : r.lo < r.hi := UInt16.lt_of_le_of_ne hle h
    rw [if_neg h, if_pos hlt]

theorem answerPorts_eq (rules : List Rule) (endpoint : Endpoint) :
    answerPorts rules endpoint =
      .answer (String.join ((permittedPorts rules endpoint).runs.map listedLine) ++
        Decimal.render (allPorts.countP (permittedPorts rules endpoint).get) ++
        " ports permitted\n") := by
  have hlines : listedLine = fun r => r.render ++ "\n" := funext listedLine_eq
  rw [answerPorts, size_eq_length_toList, toList, ← List.countP_eq_length_filter, hlines]

theorem answer_ne_refusal (s t : String) : Outcome.answer s ≠ .refusal t := by
  intro h
  have hexit : (0 : UInt8) = 1 := congrArg Outcome.exit h
  exact absurd hexit (by decide)

theorem answer_render_inj :
    Outcome.answer (Decimal.render p.toNat ++ "\n") =
      .answer (Decimal.render q.toNat ++ "\n") ↔ p = q := by
  refine ⟨fun h => ?_, fun h => h ▸ rfl⟩
  have htext : Decimal.render p.toNat ++ "\n" = Decimal.render q.toNat ++ "\n" :=
    congrArg Outcome.output h
  have hnumeral : Decimal.render p.toNat = Decimal.render q.toNat :=
    String.append_left_inj _ |>.1 htext
  have hread := readNumber?_render p
  rw [hnumeral, readNumber?_render] at hread
  exact (Option.some.inj hread).symm

theorem pick_port_eq_some_iff :
    (allowed.pick wanted fun _ _ => true).port = some p ↔ IsNearest allowed.get wanted p := by
  rcases allowed.pick_port wanted (fun _ => true) with ⟨hallowed, -, hpick⟩ | ⟨hnot, hfinds⟩
  · rw [hpick, Option.some_inj]
    refine ⟨?_, fun h => (h.itself hallowed).symm⟩
    rintro rfl
    exact ⟨hallowed, fun _ => rfl, fun h => absurd (hallowed.symm.trans h) (by decide)⟩
  · have hrefused : allowed.get wanted = false := eq_false_of_ne_true fun h => hnot ⟨h, rfl⟩
    have hlater {q : Port} (hq : allowed.get q = true) : 0 < place wanted q :=
      place_pos_iff.2 fun heq => hnot ⟨heq ▸ hq, rfl⟩
    rw [hfinds.eq_some_iff]
    constructor
    · intro h
      refine ⟨h.isGood.1, fun hw => absurd (hw.symm.trans hrefused) (by decide), fun _ => ?_⟩
      refine ⟨h.one_le, fun q hq hone => ?_⟩
      exact place_le_iff.1 (h.first q ⟨hq, rfl⟩ hone (hlater hq))
    · intro h
      obtain ⟨hone, hnearest⟩ := h.nearest hrefused
      exact ⟨⟨h.isAccepted, rfl⟩, hone, hlater h.isAccepted,
        fun q hq hq' _ => place_le_iff.2 (hnearest q hq.1 hq')⟩

theorem answerFree_eq_answer_iff :
    answerFree rules wanted endpoint = .answer (Decimal.render p.toNat ++ "\n") ↔
      IsNearest (permittedPorts rules endpoint).get wanted p := by
  rw [← pick_port_eq_some_iff, answerFree]
  split
  · rename_i q hpick
    rw [hpick, answer_render_inj, Option.some_inj]
  · rename_i hpick
    rw [hpick]
    exact ⟨fun h => absurd h.symm (answer_ne_refusal _ _), nofun⟩

theorem answerFree_eq_refusal_iff :
    answerFree rules wanted endpoint = .refusal "NoPortMapsAvailable\n" ↔
      ∀ p, p = wanted ∨ 1 ≤ p.toNat → (permittedPorts rules endpoint).get p = false := by
  have hnone := (permittedPorts rules endpoint).pick_port_eq_none_iff wanted fun _ => true
  simp only [and_true, Bool.not_eq_true] at hnone
  rw [← hnone, answerFree]
  split
  · rename_i q hpick
    rw [hpick]
    exact ⟨fun h => absurd h (answer_ne_refusal _ _), nofun⟩
  · rename_i hpick
    exact ⟨fun _ => hpick, fun _ => rfl⟩

theorem answerFree_cases (rules : List Rule) (wanted : Port) (endpoint : Endpoint) :
    answerFree rules wanted endpoint = .refusal "NoPortMapsAvailable\n" ∨
      ∃ p : Port, answerFree rules wanted endpoint = .answer (Decimal.render p.toNat ++ "\n") := by
  rw [answerFree]
  split
  · rename_i p hpick
    exact .inr ⟨p, rfl⟩
  · exact .inl rfl

theorem run_answerCheck_exit (rules : List Rule) (endpoint : Endpoint) (p : Port) (mask : LogMask) :
    ((answerCheck rules ⟨p, endpoint, none⟩).run mask).value.exit =
      if (permittedPorts rules endpoint).get p then 0 else 1 := by
  rw [get_permittedPorts, answerCheck, Logged.run_bind, run_evaluate_value, Logged.run_pure]
  split <;> rfl

end

theorem agree_of_answers {run : List String → Outcome} {address port : String}
    (rules : List Rule) (endpoint : Endpoint)
    (hcheck : ∀ text p, readNumber? text = some p → (run ["check", text, address, port]).exit =
      if (permittedPorts rules endpoint).get p then 0 else 1)
    (hports : run ["ports", address, port] = answerPorts rules endpoint)
    (hfree : ∀ text wanted, readNumber? text = some wanted →
      run ["free", text, address, port] = answerFree rules wanted endpoint) :
    Agree run address port := by
  have haccepts : accepts run address port = (permittedPorts rules endpoint).get := by
    funext p
    rw [accepts, hcheck _ p (readNumber?_render p)]
    cases (permittedPorts rules endpoint).get p <;> rfl
  constructor
  case check =>
    rw [haccepts]
    exact hcheck
  case free_eq_answer_iff =>
    intro text wanted p htext
    rw [haccepts, hfree text wanted htext]
    exact answerFree_eq_answer_iff
  case free_eq_refusal_iff =>
    intro text wanted htext
    rw [haccepts, hfree text wanted htext]
    exact answerFree_eq_refusal_iff
  case free_ends =>
    intro text wanted htext
    rw [hfree text wanted htext]
    exact answerFree_cases rules wanted endpoint
  case ports =>
    refine ⟨(permittedPorts rules endpoint).runs, ?_, separated_runs _, fun p => ?_⟩
    · rw [haccepts, hports, answerPorts_eq]
    · rw [haccepts, mem_runs_iff, mem_iff]

/-- Whatever rules are in effect, the commands about an endpoint agree. -/
theorem execute_agree {ident : String} {files : String → FileContent} {options : List String}
    {rules : List Rule} {address port : String} {endpoint : Endpoint}
    (heffect : InEffect files options rules)
    (haddress : Address.read? address.toList = some endpoint.address)
    (hport : readNumber? port = some endpoint.port) :
    Agree (fun words => (execute ident files (options ++ words)).outcome) address port := by
  obtain ⟨mask, hexecute⟩ := execute_outcome heffect ident
  have hendpoint : readEndpoint address port = .ok endpoint := readEndpoint_of_read? haddress hport
  refine agree_of_answers rules endpoint ?_ ?_ ?_
  · intro text p htext
    rw [hexecute _ _ (by decide), runWords_of_read (read_check htext hendpoint)]
    exact run_answerCheck_exit rules endpoint p mask
  · rw [hexecute _ _ (by decide), runWords_of_read (read_ports hendpoint)]
    rfl
  · intro text wanted htext
    rw [hexecute _ _ (by decide), runWords_of_read (read_free htext hendpoint)]
    rfl

theorem execute_agree_behind_line_rule :
    let files : String → FileContent := fun _ => .unreadable .notFound
    let options := ["-v", "-A", "deny 1024-1100 192.168.1.0/24 0-65535"]
    let rule : Rule := ⟨.deny, ⟨1024, 1100, by decide⟩, ⟨0xC0A80100, 0xFFFFFF00⟩,
      ⟨0, 65535, by decide⟩, none⟩
    InEffect files options [rule] ∧ Address.read? "192.168.1.7".toList = some 0xC0A80107 ∧
      readNumber? "+080" = some 80 ∧
      Agree (fun words => (execute "upnpperm" files (options ++ words)).outcome)
        "192.168.1.7" "+080" := by
  intro files options rule
  have hread : Invocation.ofArguments options =
      .run { Options.initial with verbosity := .verbose, lines := options.drop 2 } := by
    decide +kernel
  have heffect : InEffect files options [rule] := ⟨_, hread, rfl, by decide +kernel⟩
  have haddress : Address.read? "192.168.1.7".toList = some 0xC0A80107 := by decide +kernel
  have hport : readNumber? "+080" = some 80 := by decide +kernel
  refine ⟨heffect, haddress, hport, ?_⟩
  exact @execute_agree _ _ _ _ _ _ ⟨0xC0A80107, 80⟩ heffect haddress hport

end PortGate.Command
