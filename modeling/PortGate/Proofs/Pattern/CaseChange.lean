import PortGate.Pattern.Reader
import PortGate.Proofs.Pattern.CaseClosure
import PortGate.Proofs.Pattern.Spans

/-! Texts that differ in the case of ASCII letters only, which are those that `Char.toLower` maps to one
text. No assertion tells them apart, since it asks of a letter only that it belongs to a word; and no
matcher does whose sets are all closed. -/

namespace PortGate.Pattern

section
variable {c : Char} {side : Option Char}

theorem isWordChar_toLower : isWordChar c.toLower = isWordChar c := by
  by_cases hc : c.isUpper = true
  · have hcode := toNat_toLower_of_isUpper hc
    have hword {d : Char} (hd : d.isAlpha = true) : isWordChar d = true := by
      have halphanum : d.isAlphanum = (d.isAlpha || d.isDigit) := rfl
      rw [isWordChar, halphanum, hd]
      rfl
    rw [isUpper_iff_toNat] at hc
    rw [hword (isAlpha_iff_toNat.2 (by omega)), hword (isAlpha_iff_toNat.2 (by omega))]
  · rw [Char.toLower_eq_of_not_isUpper hc]

theorem isWordSide_map_toLower : isWordSide (side.map Char.toLower) = isWordSide side := by
  cases side with
  | none => rfl
  | some c => exact isWordChar_toLower

theorem map_toLower_beq (hc : ¬c.isAlpha = true) :
    (side.map Char.toLower == some c) = (side == some c) := by
  cases side with
  | none => rfl
  | some d =>
    have hlower : c.toLower = c := Char.toLower_eq_of_not_isUpper fun hupper => hc <| by
      rw [isUpper_iff_toNat] at hupper
      exact isAlpha_iff_toNat.2 (.inl hupper)
    have hiff := toLower_eq_iff_of_not_alpha (d := d) hc
    rw [hlower] at hiff
    rw [Bool.eq_iff_iff, Option.map_some, beq_iff_eq, beq_iff_eq, Option.some.injEq,
      Option.some.injEq, hiff]

theorem Assertion.holds_map_toLower (a : Assertion) (before after : Option Char) :
    a.holds (before.map Char.toLower) (after.map Char.toLower) = a.holds before after := by
  have hnewline (side : Option Char) : (side.map Char.toLower == some '\n') = (side == some '\n') :=
    map_toLower_beq (by decide)
  have hreturn (side : Option Char) : (side.map Char.toLower == some '\r') = (side == some '\r') :=
    map_toLower_beq (by decide)
  cases a <;>
    simp only [holds, bne, isWordSide_map_toLower, hnewline, hreturn, Option.isNone_map]

end

theorem placeIn_eq_of_like {text other : List Char} (i : Nat)
    (hlike : text.map Char.toLower = other.map Char.toLower) :
    (placeIn text i).before.map Char.toLower = (placeIn other i).before.map Char.toLower ∧
      (placeIn text i).after.map Char.toLower = (placeIn other i).after.map Char.toLower := by
  constructor
  · simp only [placeIn, ← List.getLast?_map, List.map_take, hlike]
  · simp only [placeIn, ← List.getElem?_map, hlike]

theorem CharSet.CaseClosed.exists_mem_iff {s : CharSet} (h : s.CaseClosed) {c d : Option Char}
    (hlike : c.map Char.toLower = d.map Char.toLower) : (∃ e ∈ c, e ∈ s) ↔ ∃ e ∈ d, e ∈ s := by
  cases c with
  | none =>
    cases d with
    | none => rfl
    | some d => cases hlike
  | some c =>
    cases d with
    | none => cases hlike
    | some d => simpa using h c d (Option.some.inj hlike)

namespace Matcher

/-- No set by which the matcher reads tells the case of a letter. -/
def CaseClosed : Matcher → Prop
  | empty => True
  | oneOf set => set.CaseClosed
  | assertion _ => True
  | seq first second => first.CaseClosed ∧ second.CaseClosed
  | either first second => first.CaseClosed ∧ second.CaseClosed
  | many body => body.CaseClosed

variable {m : Matcher}

theorem CaseClosed.spans_eq {text other : List Char} (h : m.CaseClosed)
    (hlike : text.map Char.toLower = other.map Char.toLower) : m.Spans text = m.Spans other := by
  induction m with
  | empty => rfl
  | oneOf set =>
    funext i j
    have hchar : text[i]?.map Char.toLower = other[i]?.map Char.toLower := by
      rw [← List.getElem?_map, ← List.getElem?_map, hlike]
    rw [Spans, Spans, CharSet.CaseClosed.exists_mem_iff h hchar]
  | assertion a =>
    funext i j
    obtain ⟨hbefore, hafter⟩ := placeIn_eq_of_like i hlike
    have hholds : a.holdsAt (placeIn text i) = a.holdsAt (placeIn other i) := by
      rw [Assertion.holdsAt, ← Assertion.holds_map_toLower, hbefore, hafter,
        Assertion.holds_map_toLower, Assertion.holdsAt]
    rw [Spans, Spans, hholds]
  | seq first second hf hs =>
    funext i j
    rw [Spans, Spans, hf h.1, hs h.2]
  | either first second hf hs =>
    funext i j
    rw [Spans, Spans, hf h.1, hs h.2]
  | many body hb =>
    funext i j
    rw [Spans, Spans, hb h]

theorem CaseClosed.findsIn_eq {text other : String} (h : m.CaseClosed)
    (hlike : text.toList.map Char.toLower = other.toList.map Char.toLower) :
    m.findsIn text = m.findsIn other := by
  have hlength : text.toList.length = other.toList.length := by
    rw [← List.length_map, hlike, List.length_map]
  rw [Bool.eq_iff_iff, findsIn_iff, findsIn_iff, h.spans_eq hlike, hlength]

theorem caseClosed_join (op : Matcher → Matcher → Matcher) (unit : Matcher)
    (hop : ∀ m n, m.CaseClosed → n.CaseClosed → (op m n).CaseClosed) (hunit : unit.CaseClosed)
    {ms : List Matcher} (h : ∀ m ∈ ms, m.CaseClosed) :
    (join op unit ms).CaseClosed := by
  induction ms using join.induct with
  | case1 =>
    rw [join]
    exact hunit
  | case2 m =>
    rw [join]
    exact h m List.mem_cons_self
  | case3 m n rest half hleft =>
    rename_i hright
    rw [join]
    exact hop _ _ (hleft fun m hm => h m (List.mem_of_mem_take hm))
      (hright fun m hm => h m (List.mem_of_mem_drop hm))

theorem caseClosed_power (h : m.CaseClosed) (turns : Nat) : (power m turns).CaseClosed := by
  induction turns using Nat.strongRecOn with
  | ind turns ih =>
    rw [power]
    split
    · exact trivial
    · split
      · exact h
      · have hhalf := ih (turns / 2) (by omega)
        split
        · exact ⟨hhalf, hhalf⟩
        · exact ⟨h, hhalf, hhalf⟩

theorem caseClosed_repeated (h : m.CaseClosed) (least : Nat) (most : Option Nat) :
    (repeated least most m).CaseClosed := by
  have hoptional : (optional m).CaseClosed := ⟨h, trivial⟩
  unfold repeated
  split
  · exact ⟨h, trivial⟩
  · exact ⟨caseClosed_power h _, h⟩
  · exact ⟨caseClosed_power h _, caseClosed_power hoptional _⟩

end Matcher

namespace Node

/-- The node is matched by closed sets alone. -/
def CaseClosed (n : Node) : Prop := (Matcher.ofNode n).CaseClosed

variable {n : Node} {ns : List Node}

theorem caseClosed_join (h : ∀ n ∈ ns, n.CaseClosed) : (join ns).CaseClosed := by
  match ns with
  | [] => exact trivial
  | [n] => exact h n List.mem_cons_self
  | n :: m :: rest =>
    have hjoin : Matcher.ofNode (join (n :: m :: rest)) =
      .join .seq .empty ((n :: m :: rest).map Matcher.ofNode) := by
        rw [← Matcher.ofNodes_eq_map]
        rfl
    rw [CaseClosed, hjoin]
    exact Matcher.caseClosed_join .seq .empty (fun _ _ => And.intro) trivial (List.forall_mem_map.2 h)

theorem caseClosed_choose (h : ∀ n ∈ ns, n.CaseClosed) : (choose ns).CaseClosed := by
  match ns with
  | [] => exact trivial
  | [n] => exact h n List.mem_cons_self
  | n :: m :: rest =>
    have hchoose : Matcher.ofNode (choose (n :: m :: rest)) =
      .join .either .nothing ((n :: m :: rest).map Matcher.ofNode) := by
        rw [← Matcher.ofNodes_eq_map]
        rfl
    rw [CaseClosed, hchoose]
    exact Matcher.caseClosed_join .either .nothing (fun _ _ => And.intro) CharSet.caseClosed_empty
      (List.forall_mem_map.2 h)

theorem CaseClosed.repeated (h : n.CaseClosed) (least : Nat) (most : Option Nat) :
    (repeated least most n).CaseClosed := by
  unfold Node.repeated
  split
  · exact trivial
  · split
    · exact h
    · exact Matcher.caseClosed_repeated h least most

theorem caseClosed_literal (c : Char) : (literal true c).CaseClosed := by
  rw [literal, Bool.true_and]
  split
  · exact CharSet.caseClosed_fold_single c
  · next hc => exact CharSet.caseClosed_single hc

end Node

end PortGate.Pattern
