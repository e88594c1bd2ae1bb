import PortGate.Pattern.Basic
import PortGate.Proofs.Pattern.CaseFolding
import PortGate.Proofs.Pattern.Spans
import PortGate.Proofs.Success

/-! Patterns without metacharacters. Each character is read as a literal of its own, so the pattern is
the sequence of its characters, and it matches just the texts that contain it, the case of ASCII
letters apart. Such a pattern nests nowhere, so nothing but its length can make it too large. -/

namespace PortGate.Pattern

def metacharacters : List Char :=
  ['\x5c', '.', '+', '*', '?', '(', ')', '|', '[', ']', '\x7b', '\x7d', '^', '$']

namespace Reader

def pushAll (r : Reader) (ns : List Node) : Reader :=
  { r with level := { r.level with items := ns.reverse ++ r.level.items } }

theorem pushAll_push (r : Reader) (n : Node) (ns : List Node) :
    (r.push n).pushAll ns = r.pushAll (n :: ns) := by
  simp only [pushAll, push, Level.push, List.reverse_cons, List.append_assoc, List.singleton_append]

variable {c : Char} {text : List Char}

theorem operatorBounds?_plain (hc : c ∉ metacharacters) : operatorBounds? c = none := by
  unfold operatorBounds?
  split
  case h_4 => rfl
  all_goals exact absurd (by decide) hc

theorem step_plain (hc : c ∉ metacharacters) (r : Reader) (rest : List Char) :
    r.step c rest = .ok (r.push (.literal r.flags.ignoreCase c), rest) := by
  unfold step
  split
  case h_10 =>
    rw [operatorBounds?_plain hc]
    rfl
  all_goals exact absurd (by decide) hc

theorem run_plain (hplain : ∀ c ∈ text, c ∉ metacharacters) {r : Reader}
    (hverbose : r.flags.verbose = false) :
    run text.length r text = (r.pushAll (text.map (.literal r.flags.ignoreCase))).finish := by
  induction text generalizing r with
  | nil => rfl
  | cons c rest ih =>
    obtain ⟨hc, hrest⟩ := List.forall_mem_cons.1 hplain
    have hnext : run (c :: rest).length r (c :: rest) =
        run rest.length (r.push (.literal r.flags.ignoreCase c)) rest := by
      rw [List.length_cons, run, Flags.skip_of_not_verbose hverbose]
      simp only [step_plain hc]
      rfl
    have hflags : (r.push (.literal r.flags.ignoreCase c)).flags = r.flags := rfl
    rw [hnext, ih hrest (hflags ▸ hverbose), hflags, pushAll_push, List.map_cons]

theorem finish_initial_pushAll (ns : List Node) : (initial.pushAll ns).finish = .ok (.join ns) := by
  have hfinish : (initial.pushAll ns).finish = .ok (.join (ns.reverse ++ []).reverse) := rfl
  rw [hfinish, List.append_nil, List.reverse_reverse]

end Reader

namespace Node
variable {source : String}

theorem read_plain (hplain : ∀ c ∈ source.toList, c ∉ metacharacters) :
    read source = .ok (.join (source.toList.map (literal true))) := by
  rw [read, Reader.run_plain hplain rfl]
  exact Reader.finish_initial_pushAll _

theorem read_of_compile {n : Node} (h : compile source = .ok n) : read source = .ok n := by
  obtain ⟨read, hread, hlimits⟩ := bind_eq_ok_iff.1 h
  split at hlimits
  · cases hlimits
  · split at hlimits
    · cases hlimits
    · cases hlimits
      exact hread

theorem compile_of_read {n : Node} (hread : read source = .ok n) (hheight : n.height ≤ nestingLimit)
    (hcost : n.totalCost ≤ sizeLimit) : compile source = .ok n := by
  rw [compile, hread]
  simp only [ok_bind]
  rw [if_neg (Nat.not_lt.2 hheight), if_neg (Nat.not_lt.2 hcost)]
  rfl

theorem height_join_le : (ns : List Node) → (join ns).height ≤ heightAll ns + 1
  | [] => Nat.zero_le _
  | [_] => Nat.le_succ_of_le (Nat.le_max_left ..)
  | _ :: _ :: _ => Nat.le_refl _

theorem cost_join_le : (ns : List Node) → (join ns).cost ≤ costAll ns + stateCost
  | [] => Nat.le_refl _
  | [_] => Nat.le_add_right _ _
  | _ :: _ :: _ => Nat.le_add_right _ _

theorem slots_join : (ns : List Node) → (join ns).slots = slotsAll ns
  | [] => rfl
  | [_] => rfl
  | _ :: _ :: _ => rfl

theorem literal_bounds (ignoreCase : Bool) (c : Char) :
    (literal ignoreCase c).height = 0 ∧ (literal ignoreCase c).slots = 0 ∧
      (literal ignoreCase c).cost ≤ stateCost + 16 := by
  rw [literal]
  split
  · have hranges : (CharSet.single c).fold.ranges.length ≤ 2 := CharSet.length_fold_le
    refine ⟨rfl, rfl, ?_⟩
    rw [cost]
    omega
  · exact ⟨rfl, rfl, Nat.le_add_right _ _⟩

theorem literals_bounds (ignoreCase : Bool) (text : List Char) :
    heightAll (text.map (literal ignoreCase)) = 0 ∧ slotsAll (text.map (literal ignoreCase)) = 0 ∧
      costAll (text.map (literal ignoreCase)) ≤ text.length * (stateCost + 16) := by
  induction text with
  | nil => exact ⟨rfl, rfl, Nat.zero_le _⟩
  | cons c rest ih =>
    obtain ⟨hheight, hslots, hcost⟩ := ih
    obtain ⟨hheight₁, hslots₁, hcost₁⟩ := literal_bounds ignoreCase c
    rw [List.map_cons, heightAll, slotsAll, costAll, hheight, hslots, hheight₁, hslots₁,
      List.length_cons, Nat.succ_mul]
    exact ⟨rfl, rfl, by omega⟩

end Node

theorem exists_ofSource_plain {source : String} (hplain : ∀ c ∈ source.toList, c ∉ metacharacters)
    (hlength : source.toList.length ≤ 218000) : ∃ p, ofSource source = .ok p := by
  have hbounds := Node.literals_bounds true source.toList
  have hheight := Node.height_join_le (source.toList.map (Node.literal true))
  have hcost := Node.cost_join_le (source.toList.map (Node.literal true))
  have haccept : Node.compile source = .ok (.join (source.toList.map (.literal true))) := by
    refine Node.compile_of_read (Node.read_plain hplain) ?_ ?_
    · rw [nestingLimit]
      omega
    · rw [Node.totalCost, Node.slots_join, sizeLimit]
      have hslot : Node.slotCost none = 16 := rfl
      rw [Node.stateCost] at *
      omega
  exact ⟨⟨source, _, haccept⟩, ofSource_eq_ok_iff.2 ⟨rfl, haccept⟩⟩

namespace Matcher
variable {text : List Char} {i j : Nat}

theorem spans_ofNode_join (ns : List Node) :
    (ofNode (.join ns)).Spans text i j ↔ SpansAll text (ns.map ofNode) i j := by
  rw [← spans_join_seq]
  match ns with
  | [] => rw [Node.join, ofNode, List.map_nil, join]
  | [n] => rw [Node.join, List.map_singleton, join]
  | n :: m :: rest =>
    have hjoin : Node.join (n :: m :: rest) = .sequence (n :: m :: rest) := rfl
    rw [hjoin, ofNode, ofNodes_eq_map]

theorem spans_ofNode_literal {c : Char} :
    (ofNode (.literal true c)).Spans text i j ↔
      (∃ d, text[i]? = some d ∧ d.toLower = c.toLower) ∧ j = i + 1 := by
  rw [Node.literal, Bool.true_and]
  split
  · rw [ofNode, Spans]
    simp only [Option.mem_def, CharSet.mem_fold_single]
  · next hc =>
    rw [ofNode, Spans]
    simp only [Option.mem_def, CharSet.mem_single, Char.toNat_inj, toLower_eq_iff_of_not_alpha hc]

theorem cons_prefix_drop_iff {d : Char} {part : List Char} :
    d :: part <+: text.drop i ↔ text[i]? = some d ∧ part <+: text.drop (i + 1) := by
  rw [← List.head?_drop, ← List.tail_drop]
  cases text.drop i with
  | nil => simp only [List.prefix_nil, reduceCtorEq, List.head?_nil, false_and]
  | cons e rest =>
    simp only [List.cons_prefix_cons, List.head?_cons, Option.some.injEq, List.tail_cons, eq_comm]

theorem spansAll_literals_iff {source : List Char} :
    SpansAll text ((source.map (.literal true)).map ofNode) i j ↔
      ∃ part, part <+: text.drop i ∧ part.map Char.toLower = source.map Char.toLower ∧
        j = i + part.length := by
  induction source generalizing i with
  | nil =>
    simp only [List.map_nil, SpansAll, List.map_eq_nil_iff]
    constructor
    · intro h
      exact ⟨[], List.nil_prefix, rfl, h⟩
    · rintro ⟨part, -, rfl, h⟩
      exact h
  | cons c rest ih =>
    simp only [List.map_cons, SpansAll, spans_ofNode_literal, ih]
    constructor
    · rintro ⟨_, ⟨⟨d, hd, hlike⟩, rfl⟩, part, hpart, hmap, hj⟩
      refine ⟨d :: part, cons_prefix_drop_iff.2 ⟨hd, hpart⟩, ?_, ?_⟩
      · rw [List.map_cons, hlike, hmap]
      · rw [hj, List.length_cons]
        omega
    · rintro ⟨part, hpart, hmap, hj⟩
      obtain ⟨d, part, rfl, hlike, hmap⟩ := List.map_eq_cons_iff.1 hmap
      obtain ⟨hd, hpart⟩ := cons_prefix_drop_iff.1 hpart
      refine ⟨i + 1, ⟨⟨d, hd, hlike⟩, rfl⟩, part, hpart, hmap, ?_⟩
      rw [hj, List.length_cons]
      omega

end Matcher

/-- A pattern without metacharacters is found in a text exactly when the text contains a part that
differs from it in the case of ASCII letters only, which are the characters `Char.toLower` changes. -/
theorem isMatch_plain_iff_infix {source : String} {p : Pattern}
    (haccept : ofSource source = .ok p) (hplain : ∀ c ∈ source.toList, c ∉ metacharacters)
    (text : String) :
    p.isMatch text = true ↔
      ∃ part, part <:+: text.toList ∧
        part.map Char.toLower = source.toList.map Char.toLower := by
  have hread := Node.read_of_compile (ofSource_eq_ok_iff.1 haccept).2
  have hnode : p.node = .join (source.toList.map (.literal true)) :=
    Except.ok.inj (hread.symm.trans (Node.read_plain hplain))
  rw [isMatch, matcher, hnode, Matcher.findsIn_iff]
  simp only [Matcher.spans_ofNode_join, Matcher.spansAll_literals_iff]
  constructor
  · rintro ⟨i, j, -, part, hpart, hmap, -⟩
    exact ⟨part, hpart.isInfix.trans (List.drop_suffix i _).isInfix, hmap⟩
  · rintro ⟨part, ⟨front, rest, htext⟩, hmap⟩
    refine ⟨front.length, _, ?_, part, ?_, hmap, rfl⟩
    · rw [← htext, List.append_assoc, List.length_append]
      exact Nat.le_add_right _ _
    · rw [← htext, List.append_assoc, List.drop_left]
      exact List.prefix_append part rest

theorem isMatch_plain_iff_infix_accented :
    ∃ p, ofSource "Cam é" = .ok p ∧ (∀ c ∈ "Cam é".toList, c ∉ metacharacters) ∧
      p.isMatch "my cAM é 2" = true ∧ p.isMatch "Cam É" = false := by
  have hplain : ∀ c ∈ "Cam é".toList, c ∉ metacharacters := by simp [metacharacters]
  obtain ⟨p, haccept⟩ := exists_ofSource_plain hplain (by decide +kernel)
  have hfound := isMatch_plain_iff_infix haccept hplain
  refine ⟨p, haccept, hplain, (hfound _).2 ?_, Bool.eq_false_iff.2 (mt (hfound _).1 ?_)⟩
  · exact ⟨"cAM é".toList, ⟨"my ".toList, " 2".toList, by decide +kernel⟩, by decide +kernel⟩
  · rintro ⟨part, hpart, hlike⟩
    have hlength : part.length = "Cam É".toList.length := by
      rw [← List.length_map, hlike]
      decide +kernel
    rw [hpart.eq_of_length hlength] at hlike
    exact absurd hlike (by decide +kernel)

end PortGate.Pattern
