import PortGate.Pattern.Basic
import PortGate.Proofs.Pattern.CaseClosure
import PortGate.Proofs.Success

/-! The turns that reading a pattern takes, each at the start of one item. They tell a parenthesis or a
bracket that begins a group or a class from one that is escaped, listed in a class or commented out, so
that a condition on the groups and the classes of a source is one on its turns. What every turn keeps
holds when the text has been read. -/

namespace PortGate.Pattern

/-- An item about to be read: its first character and the text behind that. -/
structure Turn where
  reader : Reader
  first : Char
  rest : List Char

namespace Reader

/-- The items of a text, up to the one at which it has a defect. -/
def turns : (limit : Nat) → Reader → List Char → List Turn
  | 0, _, _ => []
  | limit + 1, r, text =>
    match r.flags.skip text with
    | [] => []
    | c :: rest =>
      ⟨r, c, rest⟩ :: match r.step c rest with
        | .ok (next, rest) => turns limit next rest
        | .error _ => []

theorem run_invariant {Inv : Reader → Prop} {Fits : Turn → Prop}
    (hstep : ∀ t : Turn, Fits t → Inv t.reader → ∀ next rest,
      t.reader.step t.first t.rest = .ok (next, rest) → Inv next)
    {limit : Nat} {r : Reader} {text : List Char} {n : Node} (h : run limit r text = .ok n)
    (hturns : ∀ t ∈ r.turns limit text, Fits t) (hr : Inv r) :
    ∃ last : Reader, Inv last ∧ last.finish = .ok n := by
  induction limit generalizing r text with
  | zero => exact ⟨r, hr, h⟩
  | succ limit ih =>
    rw [run] at h
    rw [turns] at hturns
    split at h
    · exact ⟨r, hr, h⟩
    · next c rest htext =>
      obtain ⟨⟨next, behind⟩, hnext, hrun⟩ := bind_eq_ok_iff.1 h
      rw [htext, List.forall_mem_cons, hnext] at hturns
      exact ih hrun hturns.2 (hstep ⟨r, c, rest⟩ hturns.1 hr next behind hnext)

end Reader

/-! Groups that switch a flag off. -/

def flagLetters (text : List Char) : List Char :=
  text.takeWhile fun c => c == '-' || (Flag.ofChar? c).isSome

def Turn.flagText? (t : Turn) : Option (List Char) :=
  match t.first, t.reader.flags.skip t.rest with
  | '(', '?' :: text => some text
  | _, _ => none

def Turn.switchesCaseOff (t : Turn) : Bool :=
  t.flagText?.any fun text => ((flagLetters text).dropWhile (· != '-')).contains 'i'

def Turn.listing? (t : Turn) : Option ClassListing :=
  if t.first = '[' then (readClassListing t.reader.flags t.rest).toOption else none

/-! Conditions on a source. -/

def turnsOf (source : String) : List Turn :=
  Reader.initial.turns source.toList.length source.toList

def KeepsCaseFlag (source : String) : Prop :=
  ∀ t ∈ turnsOf source, t.switchesCaseOff = false

/-- No class of the source lists, its items joined, an interval that reaches from the capital letters into
the small ones without listing the small forms of these capital letters. -/
def FoldsClassesWhole (source : String) : Prop :=
  ∀ t ∈ turnsOf source, ∀ listing ∈ t.listing?, listing.items.FoldsWhole

instance (source : String) : Decidable (KeepsCaseFlag source) :=
  decidable_of_iff ((turnsOf source).all (!·.switchesCaseOff) = true) <| by
    simp [KeepsCaseFlag, List.all_eq_true]

instance (source : String) : Decidable (FoldsClassesWhole source) :=
  decidable_of_iff ((turnsOf source).all fun t =>
      t.listing?.all fun listing => decide listing.items.FoldsWhole) <| by
    simp [FoldsClassesWhole, List.all_eq_true, Option.all_eq_true]

end PortGate.Pattern
