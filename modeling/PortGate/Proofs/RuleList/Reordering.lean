import Mathlib.Logic.Relation
import PortGate.Proofs.RuleList.DeadRules

/-! Rules in another order. Two neighbours may change places when they have the same action or when no
request concerns both of them: their external ports, their internal ports or their blocks of addresses
lie apart. A list keeps all its decisions under any number of such swaps. -/

namespace PortGate
open PortSet

/-! ### Ranges and blocks that lie apart -/

namespace PortRange

def Apart (r s : PortRange) : Prop := ∀ p ∈ r, p ∉ s

theorem apart_iff {r s : PortRange} : r.Apart s ↔ r.hi < s.lo ∨ s.hi < r.lo := by
  have hr := UInt16.le_iff_toNat_le.1 r.lo_le_hi
  have hs := UInt16.le_iff_toNat_le.1 s.lo_le_hi
  simp only [Apart, mem_iff, UInt16.le_iff_toNat_le, UInt16.lt_iff_toNat_lt]
  constructor
  · intro h
    -- Of two ranges that meet, the one that starts later starts inside the other.
    have hfirst := h r.lo
    have hsecond := h s.lo
    omega
  · intro h p hp
    omega

instance (r s : PortRange) : Decidable (r.Apart s) := decidable_of_iff _ apart_iff.symm

end PortRange

namespace Subnet

variable {s t : Subnet} {address : Address}

def Apart (s t : Subnet) : Prop :=
  ∀ address, ¬(s.contains address = true ∧ t.contains address = true)

/-- The address of `s` with the bits of `t` where the mask of `s` leaves them open. -/
def blend (s t : Subnet) : Address := s.address &&& s.mask ||| t.address &&& ~~~s.mask

theorem contains_blend (s t : Subnet) : s.contains (s.blend t) = true := by
  rw [contains_eq_true_iff, blend]
  apply BitVec.eq_of_getLsbD_eq
  intro i hi
  simp only [BitVec.getLsbD_and, BitVec.getLsbD_or, BitVec.getLsbD_not, hi, decide_true,
    Bool.true_and]
  cases s.address.getLsbD i <;> cases s.mask.getLsbD i <;> simp

theorem xor_and_and_eq_zero (hs : s.contains address = true) (ht : t.contains address = true) :
    (s.address ^^^ t.address) &&& s.mask &&& t.mask = 0 := by
  rw [contains_eq_true_iff] at hs ht
  apply BitVec.eq_of_getLsbD_eq
  intro i _
  have hs := congrArg (BitVec.getLsbD · i) hs
  have ht := congrArg (BitVec.getLsbD · i) ht
  revert hs ht
  simp only [BitVec.getLsbD_and, BitVec.getLsbD_xor, BitVec.ofNat_eq_ofNat, BitVec.getLsbD_zero]
  cases s.mask.getLsbD i <;> cases t.mask.getLsbD i <;> simp +contextual

theorem contains_blend_of_eq_zero (h : (s.address ^^^ t.address) &&& s.mask &&& t.mask = 0) :
    t.contains (s.blend t) = true := by
  rw [contains_eq_true_iff, blend]
  apply BitVec.eq_of_getLsbD_eq
  intro i hi
  have h := congrArg (BitVec.getLsbD · i) h
  revert h
  simp only [BitVec.getLsbD_and, BitVec.getLsbD_or, BitVec.getLsbD_not, BitVec.getLsbD_xor,
    BitVec.ofNat_eq_ofNat, BitVec.getLsbD_zero, hi, decide_true, Bool.true_and]
  cases s.address.getLsbD i <;> cases t.address.getLsbD i <;> cases s.mask.getLsbD i <;> simp

theorem apart_iff : s.Apart t ↔ (s.address ^^^ t.address) &&& s.mask &&& t.mask ≠ 0 := by
  constructor
  · intro h hzero
    exact h (s.blend t) ⟨contains_blend s t, contains_blend_of_eq_zero hzero⟩
  · rintro h address ⟨hs, ht⟩
    exact h (xor_and_and_eq_zero hs ht)

instance (s t : Subnet) : Decidable (s.Apart t) := decidable_of_iff _ apart_iff.symm

end Subnet

/-! ### Swaps -/

/-- The reasons why the order of two rules does not matter. -/
inductive Rule.Independent (r s : Rule) : Prop where
  | sameAction (h : r.action = s.action)
  | eportsApart (h : r.eports.Apart s.eports)
  | iportsApart (h : r.iports.Apart s.iports)
  | subnetsApart (h : r.subnet.Apart s.subnet)

theorem Rule.Independent.action_eq {r s : Rule} (h : r.Independent s) {q : Request}
    (hr : r.matchesRequest q = true) (hs : s.matchesRequest q = true) : r.action = s.action := by
  obtain ⟨⟨heports, hinternal⟩, -⟩ := matchesRequest_iff.1 hr
  obtain ⟨⟨heports', hinternal'⟩, -⟩ := matchesRequest_iff.1 hs
  obtain ⟨hiports, hsubnet⟩ := matchesInternal_iff.1 hinternal
  obtain ⟨hiports', hsubnet'⟩ := matchesInternal_iff.1 hinternal'
  cases h with
  | sameAction h => exact h
  | eportsApart h => exact absurd heports' (h _ heports)
  | iportsApart h => exact absurd hiports' (h _ hiports)
  | subnetsApart h => exact absurd ⟨hsubnet, hsubnet'⟩ (h _)

inductive Swap : List Rule → List Rule → Prop where
  | neighbours (before : List Rule) {r s : Rule} (h : r.Independent s) (after : List Rule) :
      Swap (before ++ r :: s :: after) (before ++ s :: r :: after)

def Reordering : List Rule → List Rule → Prop := Relation.ReflTransGen Swap

section
variable {rules others : List Rule} {q : Request}

theorem action_append_congr (before : List Rule)
    (h : (decideRequest rules q).action = (decideRequest others q).action) :
    (decideRequest (before ++ rules) q).action = (decideRequest (before ++ others) q).action := by
  induction before with
  | nil => exact h
  | cons r before ih =>
    rw [List.cons_append, List.cons_append, action_decideRequest_cons, action_decideRequest_cons, ih]

theorem Swap.action_eq (h : Swap rules others) (q : Request) :
    (decideRequest rules q).action = (decideRequest others q).action := by
  cases h with
  | @neighbours before r s h after =>
    apply action_append_congr before
    simp only [action_decideRequest_cons]
    by_cases hr : r.matchesRequest q = true
    · by_cases hs : s.matchesRequest q = true
      · rw [if_pos hr, if_pos hs, h.action_eq hr hs]
      · rw [if_pos hr, if_neg hs, if_pos hr]
    · rw [if_neg hr, if_neg hr]

theorem Reordering.action_eq (h : Reordering rules others) (q : Request) :
    (decideRequest rules q).action = (decideRequest others q).action := by
  induction h with
  | refl => rfl
  | tail _ hswap ih => exact ih.trans (hswap.action_eq q)

end

/-- A reordering by swaps of independent neighbours changes neither the action of a request nor the
ports that an endpoint may use. Whether two blocks lie apart, and so whether two rules are
independent, shows in the bits that both masks select. -/
theorem reordering_keeps_decisions {rules others : List Rule} (h : Reordering rules others) :
    (∀ s t : Subnet, s.Apart t ↔ (s.address ^^^ t.address) &&& s.mask &&& t.mask ≠ 0) ∧
    (∀ q, (decideRequest rules q).action = (decideRequest others q).action) ∧
    ∀ endpoint, permittedPorts rules endpoint = permittedPorts others endpoint := by
  refine ⟨fun _ _ => Subnet.apart_iff, h.action_eq, fun endpoint => ?_⟩
  apply permittedPorts_eq_of_isAllowed
  intro p
  rw [Verdict.isAllowed, h.action_eq, Verdict.isAllowed]

theorem reordering_keeps_decisions_gaps :
    let r : Rule := ⟨.deny, ⟨1000, 2000, by decide⟩, ⟨0x0A000500, 0xFF00FF00⟩,
      ⟨0, 65535, by decide⟩, (Pattern.ofSource "^camera").toOption⟩
    let s : Rule := ⟨.allow, ⟨1500, 1600, by decide⟩, ⟨0x0A090607, 0x00FFFF00⟩,
      ⟨80, 80, by decide⟩, none⟩
    let t : Rule := ⟨.deny, ⟨3000, 4000, by decide⟩, ⟨0, 0⟩, ⟨0, 65535, by decide⟩, none⟩
    Reordering [r, s, t] [t, s, r] ∧
      (∀ q, (decideRequest [r, s, t] q).action = (decideRequest [t, s, r] q).action) ∧
      ∀ endpoint, permittedPorts [r, s, t] endpoint = permittedPorts [t, s, r] endpoint := by
  intro r s t
  have hrs : r.Independent s := .subnetsApart (by decide)
  have hrt : r.Independent t := .eportsApart (by decide)
  have hst : s.Independent t := .eportsApart (by decide)
  have hsrt : Reordering [r, s, t] [s, r, t] := .single (.neighbours [] hrs [t])
  have hstr : Reordering [r, s, t] [s, t, r] := hsrt.tail (.neighbours [s] hrt [])
  have htsr : Reordering [r, s, t] [t, s, r] := hstr.tail (.neighbours [] hst [r])
  exact ⟨htsr, (reordering_keeps_decisions htsr).2⟩

end PortGate
