import Mathlib.Logic.Relation
import PortGate.Pattern.Search

/-! What a matcher means on a text, and that the search finds just that. A matcher relates the places in
front of and behind the parts of the text that it matches; a sequence composes the relations of its
parts, and a repetition closes the relation of its body under going on. The marks of a search under
way stand for the ways that have come so far: from each of them the same relation tells where the
matcher can be left, and a step only moves the place. -/

namespace PortGate.Pattern
open Relation (ReflTransGen TransGen)

def placeIn (text : List Char) (i : Nat) : Place := ⟨(text.take i).getLast?, text[i]?⟩

def Matcher.Spans (text : List Char) : Matcher → Nat → Nat → Prop
  | empty, i, j => j = i
  | oneOf set, i, j => (∃ c ∈ text[i]?, c ∈ set) ∧ j = i + 1
  | assertion a, i, j => a.holdsAt (placeIn text i) = true ∧ j = i
  | seq first second, i, j => ∃ k, first.Spans text i k ∧ second.Spans text k j
  | either first second, i, j => first.Spans text i j ∨ second.Spans text i j
  | many body, i, j => TransGen (body.Spans text) i j

section
variable {text : List Char} {i j k : Nat}

theorem Matcher.Spans.le {m : Matcher} (h : m.Spans text i j) : i ≤ j := by
  induction m generalizing i j with
  | empty => exact Nat.le_of_eq h.symm
  | oneOf set => exact h.2 ▸ Nat.le_succ i
  | assertion a => exact Nat.le_of_eq h.2.symm
  | seq first second hf hs =>
    obtain ⟨k, hfirst, hsecond⟩ := h
    exact Nat.le_trans (hf hfirst) (hs hsecond)
  | either first second hf hs => exact h.elim hf hs
  | many body hb =>
    induction h with
    | single h => exact hb h
    | tail _ h ih => exact Nat.le_trans ih (hb h)

theorem Matcher.Spans.le_length {m : Matcher} (h : m.Spans text i j) (hi : i ≤ text.length) :
    j ≤ text.length := by
  induction m generalizing i j with
  | empty => exact Nat.le_trans (Nat.le_of_eq h) hi
  | oneOf set =>
    obtain ⟨⟨c, hc, -⟩, rfl⟩ := h
    exact (List.getElem?_eq_some_iff.1 hc).1
  | assertion a => exact Nat.le_trans (Nat.le_of_eq h.2) hi
  | seq first second hf hs =>
    obtain ⟨k, hfirst, hsecond⟩ := h
    exact hs hsecond (hf hfirst hi)
  | either first second hf hs => exact h.elim (hf · hi) (hs · hi)
  | many body hb =>
    induction h with
    | single h => exact hb h hi
    | tail _ h ih => exact hb h ih

theorem le_of_reflTransGen {m : Matcher} (h : ReflTransGen (m.Spans text) i j) : i ≤ j := by
  induction h with
  | refl => exact Nat.le_refl i
  | tail _ h ih => exact Nat.le_trans ih h.le

theorem Matcher.passes_iff {m : Matcher} :
    m.passes (placeIn text i) = true ↔ m.Spans text i i := by
  induction m with
  | empty => exact iff_of_true rfl rfl
  | oneOf set => exact iff_of_false Bool.false_ne_true fun h => by have := h.2; omega
  | assertion a => exact ⟨fun h => ⟨h, rfl⟩, fun h => h.1⟩
  | seq first second hf hs =>
    rw [passes, Bool.and_eq_true, hf, hs]
    constructor
    · rintro ⟨hfirst, hsecond⟩
      exact ⟨i, hfirst, hsecond⟩
    · rintro ⟨k, hfirst, hsecond⟩
      obtain rfl : i = k := Nat.le_antisymm hfirst.le hsecond.le
      exact ⟨hfirst, hsecond⟩
  | either first second hf hs => rw [passes, Bool.or_eq_true, hf, hs, Spans]
  | many body hb =>
    rw [passes, hb]
    constructor
    · exact TransGen.single
    · intro h
      -- A way back to the same place stays at it, so its first turn does.
      obtain ⟨k, hfirst, hlater⟩ := TransGen.head'_iff.1 h
      obtain rfl : i = k := Nat.le_antisymm hfirst.le (le_of_reflTransGen hlater)
      exact hfirst

theorem le_length_of_reflTransGen {m : Matcher} (h : ReflTransGen (m.Spans text) i j)
    (hi : i ≤ text.length) : j ≤ text.length := by
  induction h with
  | refl => exact hi
  | tail _ h ih => exact h.le_length ih

theorem exists_span_of_reflTransGen {m : Matcher} (h : ReflTransGen (m.Spans text) i j)
    (hij : i < j) : ∃ k, i < k ∧ m.Spans text i k ∧ ReflTransGen (m.Spans text) k j := by
  induction h using ReflTransGen.head_induction_on with
  | refl => exact absurd hij (Nat.lt_irrefl j)
  | head hturn hlater ih =>
    -- a turn may match nothing, so the first one that leaves the place is looked for
    rcases Nat.eq_or_lt_of_le hturn.le with rfl | hlt
    · exact ih hij
    · exact ⟨_, hlt, hturn, hlater⟩

def Matcher.SpansAll (text : List Char) : List Matcher → Nat → Nat → Prop
  | [], i, j => j = i
  | m :: ms, i, j => ∃ k, m.Spans text i k ∧ SpansAll text ms k j

theorem Matcher.spansAll_append {ms ns : List Matcher} :
    SpansAll text (ms ++ ns) i j ↔ ∃ k, SpansAll text ms i k ∧ SpansAll text ns k j := by
  induction ms generalizing i with
  | nil => simp only [List.nil_append, SpansAll, exists_eq_left]
  | cons m ms ih =>
    simp only [List.cons_append, SpansAll, ih]
    constructor
    · rintro ⟨k, hm, l, hms, hns⟩
      exact ⟨l, ⟨k, hm, hms⟩, hns⟩
    · rintro ⟨l, ⟨k, hm, hms⟩, hns⟩
      exact ⟨k, hm, l, hms, hns⟩

theorem Matcher.spans_join_seq (ms : List Matcher) :
    (join seq empty ms).Spans text i j ↔ SpansAll text ms i j := by
  induction ms using join.induct generalizing i j with
  | case1 => rw [join, Spans, SpansAll]
  | case2 m => simp only [join, SpansAll, exists_eq_right']
  | case3 m n rest half hleft =>
    rename_i hright
    rw [join, Spans]
    simp only [half, hleft, hright]
    rw [← spansAll_append, List.take_append_drop]

end

namespace Progress

/-- From the marks at place `i` some way through the rest of the matcher leaves it at place `j`. -/
def Ends (text : List Char) : Progress → Nat → Nat → Prop
  | idle _, _, _ => False
  | read _, i, j => j = i
  | seq first second, i, j =>
    second.Ends text i j ∨ ∃ k, first.Ends text i k ∧ second.matcher.Spans text k j
  | either first second, i, j => first.Ends text i j ∨ second.Ends text i j
  | many body, i, j => ∃ k, body.Ends text i k ∧ ReflTransGen (body.matcher.Spans text) k j

/-- The same when the matcher may be entered at place `i` as well. -/
def Leaves (text : List Char) (enters : Bool) (t : Progress) (i j : Nat) : Prop :=
  t.Ends text i j ∨ enters = true ∧ t.matcher.Spans text i j

variable {text : List Char} {t first second body : Progress} {m : Matcher} {enters : Bool}
  {i j : Nat}

theorem Ends.le (h : t.Ends text i j) : i ≤ j := by
  induction t generalizing i j with
  | idle m => exact h.elim
  | read set => exact Nat.le_of_eq h.symm
  | seq first second hf hs =>
    rcases h with h | ⟨k, h, hlater⟩
    · exact hs h
    · exact Nat.le_trans (hf h) hlater.le
  | either first second hf hs => exact h.elim hf hs
  | many body hb =>
    obtain ⟨k, h, hlater⟩ := h
    exact Nat.le_trans (hb h) (le_of_reflTransGen hlater)

theorem Leaves.le (h : t.Leaves text enters i j) : i ≤ j :=
  h.elim Ends.le fun h => h.2.le

theorem done_iff : t.done (placeIn text i) = true ↔ t.Ends text i i := by
  induction t with
  | idle m => exact iff_of_false Bool.false_ne_true id
  | read set => exact iff_of_true rfl rfl
  | seq first second hf hs =>
    rw [done, Bool.or_eq_true, Bool.and_eq_true, hf, hs, Matcher.passes_iff]
    refine or_congr_right ⟨fun h => ⟨i, h⟩, ?_⟩
    rintro ⟨k, hfirst, hsecond⟩
    obtain rfl : i = k := Nat.le_antisymm hfirst.le hsecond.le
    exact ⟨hfirst, hsecond⟩
  | either first second hf hs => rw [done, Bool.or_eq_true, hf, hs, Ends]
  | many body hb =>
    rw [done, hb]
    refine ⟨fun h => ⟨i, h, .refl⟩, ?_⟩
    rintro ⟨k, h, hlater⟩
    obtain rfl : i = k := Nat.le_antisymm h.le (le_of_reflTransGen hlater)
    exact h

theorem ends_joinSeq :
    (joinSeq first second).Ends text i j ↔ (seq first second).Ends text i j := by
  cases first with
  | idle m =>
    cases second with
    | idle n =>
      refine iff_of_false id ?_
      rintro (h | ⟨k, h, -⟩)
      · exact h
      · exact h
    | _ => rfl
  | _ => rfl

theorem ends_joinEither :
    (joinEither first second).Ends text i j ↔ (either first second).Ends text i j := by
  cases first with
  | idle m =>
    cases second with
    | idle n => exact (or_self_iff).symm
    | _ => rfl
  | _ => rfl

theorem ends_joinMany : (joinMany body).Ends text i j ↔ (many body).Ends text i j := by
  cases body with
  | idle m =>
    refine iff_of_false id ?_
    rintro ⟨k, h, -⟩
    exact h
  | _ => rfl

theorem start_seq (p : Place) (m n : Matcher) :
    start p (.seq m n) = step p true (seq (idle m) (idle n)) := by
  cases h : m.passes p <;> simp [start, step, h]

theorem start_either (p : Place) (m n : Matcher) :
    start p (.either m n) = step p true (either (idle m) (idle n)) := rfl

theorem start_many (p : Place) (m : Matcher) :
    start p (.many m) = step p true (many (idle m)) := rfl

theorem leaves_seq : (seq first second).Leaves text enters i j ↔
    second.Ends text i j ∨
      ∃ k, first.Leaves text enters i k ∧ second.matcher.Spans text k j := by
  constructor
  · rintro ((h | ⟨k, hfirst, hsecond⟩) | ⟨henters, k, hfirst, hsecond⟩)
    · exact .inl h
    · exact .inr ⟨k, .inl hfirst, hsecond⟩
    · exact .inr ⟨k, .inr ⟨henters, hfirst⟩, hsecond⟩
  · rintro (h | ⟨k, hfirst | ⟨henters, hfirst⟩, hsecond⟩)
    · exact .inl (.inl h)
    · exact .inl (.inr ⟨k, hfirst, hsecond⟩)
    · exact .inr ⟨henters, k, hfirst, hsecond⟩

theorem leaves_either : (either first second).Leaves text enters i j ↔
    first.Leaves text enters i j ∨ second.Leaves text enters i j := by
  simp only [Leaves, Ends, matcher, Matcher.Spans]
  grind

theorem leaves_many : (many body).Leaves text enters i j ↔
    ∃ k, body.Leaves text enters i k ∧ ReflTransGen (body.matcher.Spans text) k j := by
  constructor
  · rintro (⟨k, h, hlater⟩ | ⟨henters, h⟩)
    · exact ⟨k, .inl h, hlater⟩
    · obtain ⟨k, hturn, hlater⟩ := TransGen.head'_iff.1 h
      exact ⟨k, .inr ⟨henters, hturn⟩, hlater⟩
  · rintro ⟨k, h | ⟨henters, hturn⟩, hlater⟩
    · exact .inl ⟨k, h, hlater⟩
    · exact .inr ⟨henters, TransGen.head'_iff.2 ⟨k, hturn, hlater⟩⟩

theorem left_iff :
    (step (placeIn text i) enters t).2 = true ↔ t.Leaves text enters i i := by
  rw [step_left, Bool.or_eq_true, Bool.and_eq_true, done_iff, Matcher.passes_iff, Leaves]

/-- A step turns the ways that leave the matcher behind the place into ways from the place that
follows. -/
def Advances (text : List Char) (t : Progress) : Prop :=
  ∀ enters i j, i < j →
    ((step (placeIn text i) enters t).1.Ends text (i + 1) j ↔ t.Leaves text enters i j)

theorem Advances.ends_iff (h : t.Advances text) :
    (step (placeIn text i) enters t).1.Ends text (i + 1) j ↔
      i < j ∧ t.Leaves text enters i j := by
  constructor
  · intro hends
    have hlt : i < j := hends.le
    exact ⟨hlt, (h enters i j hlt).1 hends⟩
  · rintro ⟨hlt, hleaves⟩
    exact (h enters i j hlt).2 hleaves

theorem Advances.seq (hfirst : first.Advances text) (hsecond : second.Advances text) :
    (seq first second).Advances text := by
  intro enters i j hlt
  have hstep : (step (placeIn text i) enters (Progress.seq first second)).1 =
      joinSeq (step (placeIn text i) enters first).1
        (step (placeIn text i) (step (placeIn text i) enters first).2 second).1 := rfl
  rw [hstep, ends_joinSeq, leaves_seq, Ends, matcher_step, hsecond _ i j hlt, Leaves, left_iff]
  simp only [hfirst.ends_iff]
  constructor
  · rintro ((h | ⟨hleft, h⟩) | ⟨k, ⟨-, hleft⟩, h⟩)
    · exact .inl h
    · exact .inr ⟨i, hleft, h⟩
    · exact .inr ⟨k, hleft, h⟩
  · rintro (h | ⟨k, hleft, h⟩)
    · exact .inl (.inl h)
    · -- The first part is left at the place itself, or behind the character that is read.
      rcases Nat.eq_or_lt_of_le hleft.le with rfl | hik
      · exact .inl (.inr ⟨hleft, h⟩)
      · exact .inr ⟨k, ⟨hik, hleft⟩, h⟩

theorem Advances.either (hfirst : first.Advances text) (hsecond : second.Advances text) :
    (either first second).Advances text := by
  intro enters i j hlt
  have hstep : (step (placeIn text i) enters (Progress.either first second)).1 =
      joinEither (step (placeIn text i) enters first).1
        (step (placeIn text i) enters second).1 := rfl
  rw [hstep, ends_joinEither, leaves_either, Ends, hfirst enters i j hlt, hsecond enters i j hlt]

theorem Advances.many (hbody : body.Advances text) : (many body).Advances text := by
  intro enters i j hlt
  have hstep : (step (placeIn text i) enters (Progress.many body)).1 =
      joinMany (step (placeIn text i) (enters || done (placeIn text i) body) body).1 := rfl
  rw [hstep, ends_joinMany, leaves_many, Ends, matcher_step]
  simp only [hbody.ends_iff, Leaves, Bool.or_eq_true, done_iff]
  constructor
  · rintro ⟨k, ⟨-, h | ⟨henters | hdone, hturn⟩⟩, hlater⟩
    · exact ⟨k, .inl h, hlater⟩
    · exact ⟨k, .inr ⟨henters, hturn⟩, hlater⟩
    · exact ⟨i, .inl hdone, .head hturn hlater⟩
  · rintro ⟨k, h, hlater⟩
    rcases Nat.eq_or_lt_of_le (Leaves.le h) with rfl | hik
    · -- The body is left at the place, so the turn that goes on from it enters the body again.
      obtain ⟨k, hik, hturn, hlater⟩ := exists_span_of_reflTransGen hlater hlt
      refine ⟨k, ⟨hik, .inr ⟨?_, hturn⟩⟩, hlater⟩
      exact h.elim .inr fun h => .inl h.1
    · refine ⟨k, ⟨hik, ?_⟩, hlater⟩
      exact h.imp_right fun h => ⟨.inl h.1, h.2⟩

theorem leaves_idle : (idle m).Leaves text true i j ↔ m.Spans text i j := by
  simp only [Leaves, Ends, matcher, false_or, true_and]

theorem advances_idle_of_start (h : ∀ i j, i < j →
    ((start (placeIn text i) m).1.Ends text (i + 1) j ↔ m.Spans text i j)) :
    (idle m).Advances text := by
  intro enters i j hlt
  cases enters with
  | true => exact (h i j hlt).trans leaves_idle.symm
  | false =>
    refine iff_of_false id ?_
    rintro (h | ⟨h, -⟩)
    · exact h
    · exact Bool.false_ne_true h

theorem advances_idle (text : List Char) (m : Matcher) : (idle m).Advances text := by
  induction m with
  | empty => exact advances_idle_of_start fun i j hlt => iff_of_false id (Nat.ne_of_gt hlt)
  | assertion a =>
    exact advances_idle_of_start fun i j hlt => iff_of_false id fun h => Nat.ne_of_gt hlt h.2
  | oneOf set =>
    refine advances_idle_of_start fun i j _ => ?_
    have hreads : (text[i]?.any set.contains = true) ↔ ∃ c ∈ text[i]?, c ∈ set := by
      simp only [Option.any_eq_true, Option.mem_def, CharSet.contains_iff]
    rw [start, readAt, Matcher.Spans, ← hreads]
    cases h : text[i]?.any set.contains with
    | true => simp only [placeIn, h, if_true, Ends, true_and]
    | false => simp only [placeIn, h, Bool.false_eq_true, if_false, Ends, false_and]
  | seq m n hm hn =>
    refine advances_idle_of_start fun i j hlt => ?_
    rw [start_seq, hm.seq hn true i j hlt]
    exact (or_congr_left ends_joinSeq.symm).trans leaves_idle
  | either m n hm hn =>
    refine advances_idle_of_start fun i j hlt => ?_
    rw [start_either, hm.either hn true i j hlt]
    exact (or_congr_left ends_joinEither.symm).trans leaves_idle
  | many body hb =>
    refine advances_idle_of_start fun i j hlt => ?_
    rw [start_many, hb.many true i j hlt]
    exact (or_congr_left ends_joinMany.symm).trans leaves_idle

theorem advances_read (text : List Char) (set : CharSet) : (read set).Advances text := by
  intro enters i j hlt
  -- the mark is spent by the step, and what is left is the leaf as it was before
  have hstep : (step (placeIn text i) enters (read set)).1 =
      (step (placeIn text i) enters (idle (.oneOf set))).1 := by
    cases enters <;> rfl
  have hleaves : (read set).Leaves text enters i j ↔ (idle (.oneOf set)).Leaves text enters i j :=
    or_congr (iff_of_false (Nat.ne_of_gt hlt) id) Iff.rfl
  rw [hstep, hleaves, advances_idle text (.oneOf set) enters i j hlt]

/-- A step of the search moves every way that it follows on by one place, and starts those that enter. -/
theorem advances (text : List Char) (t : Progress) : t.Advances text := by
  induction t with
  | idle m => exact advances_idle text m
  | read set => exact advances_read text set
  | seq first second hf hs => exact hf.seq hs
  | either first second hf hs => exact hf.either hs
  | many body hb => exact hb.many

theorem Ends.le_length (h : t.Ends text i j) (hi : i ≤ text.length) : j ≤ text.length := by
  induction t generalizing i j with
  | idle m => exact h.elim
  | read set => exact Nat.le_trans (Nat.le_of_eq h) hi
  | seq first second hf hs =>
    rcases h with h | ⟨k, h, hlater⟩
    · exact hs h hi
    · exact hlater.le_length (hf h hi)
  | either first second hf hs => exact h.elim (hf · hi) (hs · hi)
  | many body hb =>
    obtain ⟨k, h, hlater⟩ := h
    exact le_length_of_reflTransGen hlater (hb h hi)

theorem placeIn_append (front rest : List Char) :
    placeIn (front ++ rest) front.length = ⟨front.getLast?, rest.head?⟩ := by
  rw [placeIn, List.take_left, List.getElem?_append_right (Nat.le_refl _), Nat.sub_self,
    List.head?_eq_getElem?]

theorem findsIn_iff {front rest : List Char} (htext : text = front ++ rest) :
    findsIn front.getLast? t rest = true ↔
      (∃ j, t.Ends text front.length j) ∨
        ∃ i j, front.length ≤ i ∧ i ≤ text.length ∧ t.matcher.Spans text i j := by
  induction rest generalizing front t with
  | nil =>
    have hend : text.length = front.length := by rw [htext, List.append_nil]
    have hplace : placeIn text front.length = ⟨front.getLast?, none⟩ := by
      rw [htext, placeIn_append, List.head?_nil]
    have hfinds : findsIn front.getLast? t [] = (step (placeIn text front.length) true t).2 := by
      rw [hplace]
      rfl
    rw [hfinds, left_iff]
    constructor
    · rintro (h | ⟨-, h⟩)
      · exact .inl ⟨_, h⟩
      · exact .inr ⟨_, _, Nat.le_refl _, Nat.le_of_eq hend.symm, h⟩
    · rintro (⟨j, h⟩ | ⟨i, j, hle, hlast, h⟩)
      · have hj := h.le_length (Nat.le_of_eq hend.symm)
        obtain rfl : j = front.length := Nat.le_antisymm (hend ▸ hj) h.le
        exact .inl h
      · have hj := h.le_length hlast
        obtain rfl : i = front.length := Nat.le_antisymm (hend ▸ hlast) hle
        obtain rfl : j = front.length := Nat.le_antisymm (hend ▸ hj) h.le
        exact .inr ⟨rfl, h⟩
  | cons c rest ih =>
    have hplace : placeIn text front.length = ⟨front.getLast?, some c⟩ := by
      rw [htext, placeIn_append, List.head?_cons]
    have hfinds : findsIn front.getLast? t (c :: rest) =
        ((step (placeIn text front.length) true t).2 ||
          findsIn (front ++ [c]).getLast? (step (placeIn text front.length) true t).1 rest) := by
      rw [hplace, List.getLast?_concat]
      rfl
    have hnext : text = front ++ [c] ++ rest := by
      rw [htext, List.append_assoc, List.singleton_append]
    have hlt : front.length < text.length := by
      rw [htext, List.length_append, List.length_cons]
      omega
    rw [hfinds, Bool.or_eq_true, left_iff, ih hnext, List.length_append, List.length_singleton,
      matcher_step]
    simp only [(advances text t).ends_iff]
    constructor
    · rintro (h | ⟨j, -, h⟩ | ⟨i, j, hi, hlast, h⟩)
      · exact h.elim (fun h => .inl ⟨_, h⟩) fun h =>
          .inr ⟨_, _, Nat.le_refl _, Nat.le_of_lt hlt, h.2⟩
      · exact h.elim (fun h => .inl ⟨j, h⟩) fun h =>
          .inr ⟨_, j, Nat.le_refl _, Nat.le_of_lt hlt, h.2⟩
      · exact .inr ⟨i, j, Nat.le_of_succ_le hi, hlast, h⟩
    · have hleaves {j : Nat} (h : t.Leaves text true front.length j) :
          t.Leaves text true front.length front.length ∨
            ∃ j, front.length < j ∧ t.Leaves text true front.length j := by
        rcases Nat.eq_or_lt_of_le h.le with rfl | hj
        · exact .inl h
        · exact .inr ⟨j, hj, h⟩
      rintro (⟨j, h⟩ | ⟨i, j, hi, hlast, h⟩)
      · exact (hleaves (.inl h)).imp_right .inl
      · rcases Nat.eq_or_lt_of_le hi with rfl | hi
        · exact (hleaves (.inr ⟨rfl, h⟩)).imp_right .inl
        · exact .inr (.inr ⟨i, j, hi, hlast, h⟩)

end Progress

theorem Matcher.findsIn_iff {m : Matcher} {text : String} :
    m.findsIn text = true ↔
      ∃ i j, i ≤ text.toList.length ∧ m.Spans text.toList i j := by
  rw [findsIn, ← List.getLast?_nil, Progress.findsIn_iff (List.nil_append text.toList).symm]
  constructor
  · rintro (⟨j, h⟩ | ⟨i, j, -, hi, h⟩)
    · exact h.elim
    · exact ⟨i, j, hi, h⟩
  · rintro ⟨i, j, hi, h⟩
    exact .inr ⟨i, j, Nat.zero_le i, hi, h⟩

end PortGate.Pattern
