import PortGate.Pattern.Search
import PortGate.Pattern.Reader
import PortGate.Text.Quoted

/-! A pattern and the text it was made from, always together. Two patterns are equal when their
texts are, because the text decides the rest. -/

namespace PortGate

/-- A text that compiles, with the node and the matcher that it compiles to. -/
structure Pattern where
  source : String
  node : Pattern.Node
  compiled : Pattern.Node.compile source = .ok node

namespace Pattern

def ofSource (source : String) : Except Error Pattern :=
  match h : Node.compile source with
  | .ok node => .ok ⟨source, node, h⟩
  | .error e => .error e

def matcher (p : Pattern) : Matcher := .ofNode p.node

def isMatch (p : Pattern) (text : String) : Bool :=
  p.matcher.findsIn text

@[ext] theorem ext_source {p q : Pattern} (h : p.source = q.source) : p = q := by
  obtain ⟨source, node, hp⟩ := p
  obtain ⟨_, other, hq⟩ := q
  obtain rfl : source = _ := h
  obtain rfl : node = other := by simpa [hp] using hq
  rfl

instance : DecidableEq Pattern := fun p q =>
  if h : p.source = q.source then isTrue (ext_source h) else isFalse fun e => h (e ▸ rfl)

theorem ofSource_eq_ok_iff {source : String} {p : Pattern} :
    ofSource source = .ok p ↔ p.source = source ∧ Node.compile source = .ok p.node := by
  constructor
  · intro h
    unfold ofSource at h
    split at h
    · rename_i node hn
      cases h
      exact ⟨rfl, hn⟩
    · cases h
  · rintro ⟨rfl, h⟩
    unfold ofSource
    split
    · rename_i node hn
      exact congrArg _ (ext_source rfl)
    · rename_i e he
      simp [he] at h

@[simp] theorem ofSource_source (p : Pattern) : ofSource p.source = .ok p :=
  ofSource_eq_ok_iff.2 ⟨rfl, p.compiled⟩

def describe (p : Pattern) : String :=
  "DescPattern(" ++ Text.Quoted.render p.source ++ ")"

end Pattern

end PortGate
