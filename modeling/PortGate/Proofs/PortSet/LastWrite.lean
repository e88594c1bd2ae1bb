import PortGate.PortSet.Edit

/-! What a run of edits leaves. An edit writes one value on the ports that it covers and leaves the others
alone, so a port ends with the value of the last edit that covers it. A set is known by its ports, and
comparing words compares nothing else. -/

namespace PortGate.PortSet

namespace Edit

def Covers : Edit → Port → Prop
  | allowAll, _ => True
  | denyAll, _ => True
  | allow q, p => p = q
  | deny q, p => p = q
  | allowBlock base, p => base.toNat ≤ p.toNat ∧ p.toNat < base.toNat + 32
  | denyBlock base, p => base.toNat ≤ p.toNat ∧ p.toNat < base.toNat + 32
  | fill lo hi _, p => lo ≤ p ∧ p ≤ hi

instance : (edit : Edit) → (p : Port) → Decidable (edit.Covers p)
  | allowAll, _ => inferInstanceAs (Decidable True)
  | denyAll, _ => inferInstanceAs (Decidable True)
  | allow q, p => inferInstanceAs (Decidable (p = q))
  | deny q, p => inferInstanceAs (Decidable (p = q))
  | allowBlock _, _ => inferInstanceAs (Decidable (_ ∧ _))
  | denyBlock _, _ => inferInstanceAs (Decidable (_ ∧ _))
  | fill _ _ _, _ => inferInstanceAs (Decidable (_ ∧ _))

def value : Edit → Bool
  | allowAll => true
  | denyAll => false
  | allow _ => true
  | deny _ => false
  | allowBlock _ => true
  | denyBlock _ => false
  | fill _ _ allowed => allowed

def Aligned : Edit → Prop
  | allowBlock base => base.toNat % 32 = 0
  | denyBlock base => base.toNat % 32 = 0
  | _ => True

theorem get_apply (s : PortSet) {edit : Edit} (haligned : edit.Aligned) (p : Port) :
    (edit.apply s).get p = if edit.Covers p then edit.value else s.get p := by
  cases edit with
  | allowAll => exact get_all p
  | denyAll => exact get_empty p
  | allow q =>
    simp only [apply, Covers, value, get_allow]
    by_cases h : p = q <;> simp [h, eq_comm]
  | deny q =>
    simp only [apply, Covers, value, get_deny]
    by_cases h : p = q <;> simp [h, eq_comm]
  | allowBlock base =>
    simp only [apply, Covers, value, get_allowBlock, wordIndex_eq_iff haligned]
    by_cases h : base.toNat ≤ p.toNat ∧ p.toNat < base.toNat + 32 <;> simp [h]
  | denyBlock base =>
    simp only [apply, Covers, value, get_denyBlock, wordIndex_eq_iff haligned]
    by_cases h : base.toNat ≤ p.toNat ∧ p.toNat < base.toNat + 32 <;> simp [h]
  | fill lo hi allowed => exact get_fill s lo hi allowed p

end Edit

/-- The value that the last of the edits that cover a port leaves there, if one covers it. -/
def lastValue? (edits : List Edit) (p : Port) : Option Bool :=
  (edits.filter fun edit => edit.Covers p).getLast?.map Edit.value

theorem lastValue?_cons (edit : Edit) (edits : List Edit) (p : Port) :
    lastValue? (edit :: edits) p =
      (lastValue? edits p).or (if edit.Covers p then some edit.value else none) := by
  unfold lastValue?
  by_cases h : edit.Covers p
  · rw [List.filter_cons, if_pos (decide_eq_true h), List.getLast?_cons, if_pos h]
    cases (edits.filter fun edit => edit.Covers p).getLast? <;> rfl
  · rw [List.filter_cons, if_neg (by simpa using h), if_neg h, Option.or_none]

theorem get_applyAll (s : PortSet) {edits : List Edit} (haligned : ∀ edit ∈ edits, edit.Aligned)
    (p : Port) : (applyAll s edits).get p = (lastValue? edits p).getD (s.get p) := by
  induction edits generalizing s with
  | nil => rfl
  | cons edit edits ih =>
    obtain ⟨hfirst, hothers⟩ := List.forall_mem_cons.1 haligned
    have hstep : applyAll s (edit :: edits) = applyAll (edit.apply s) edits := rfl
    rw [hstep, ih (edit.apply s) hothers, Edit.get_apply s hfirst, lastValue?_cons]
    cases lastValue? edits p with
    | some value => rfl
    | none =>
      by_cases h : edit.Covers p
      · rw [if_pos h, if_pos h]
        rfl
      · rw [if_neg h, if_neg h]
        rfl

theorem beq_iff_get_eq {s t : PortSet} : (s == t) = true ↔ ∀ p, s.get p = t.get p := by
  rw [beq_iff_eq]
  exact ⟨fun h p => h ▸ rfl, eq_of_get_eq⟩

/-- After any run of edits each port has the value of the last edit that covers it, or its own when
none does. The sets that two runs leave compare equal exactly when they agree on every port. -/
theorem applyAll_last_write (s t : PortSet) {edits : List Edit} (others : List Edit)
    (haligned : ∀ edit ∈ edits, edit.Aligned) :
    (∀ p, (applyAll s edits).get p = (lastValue? edits p).getD (s.get p)) ∧
    ((applyAll s edits == applyAll t others) = true ↔
      ∀ p, (applyAll s edits).get p = (applyAll t others).get p) :=
  ⟨get_applyAll s haligned, beq_iff_get_eq⟩

theorem applyAll_last_write_overlapping :
    let edits : List Edit := [.fill 10 100 true, .denyBlock 64, .allow 70, .fill 80 79 false]
    (∀ edit ∈ edits, edit.Aligned) ∧ (applyAll empty edits).get 63 = true ∧
      (applyAll empty edits).get 64 = false ∧ (applyAll empty edits).get 70 = true ∧
      (applyAll empty edits).get 80 = false ∧ (applyAll empty edits).get 96 = true ∧
      (applyAll empty edits).get 101 = false ∧
      ((applyAll empty edits == applyAll all []) = true ↔
        ∀ p, (applyAll empty edits).get p = all.get p) := by
  intro edits
  have haligned : ∀ edit ∈ edits, edit.Aligned := by simp [edits, Edit.Aligned]
  obtain ⟨hget, hequal⟩ := applyAll_last_write empty all [] haligned
  exact ⟨haligned, hget 63, hget 64, hget 70, hget 80, hget 96,
    (hget 101).trans (get_empty 101), hequal⟩

end PortGate.PortSet
