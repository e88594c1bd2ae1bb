import PortGate.Pattern.Matcher

/-! Searching a text for a match, one character after the other. The search keeps the matcher with a
mark on every leaf that has just read a character on some way through it, and all ways are followed
at once: the work for a character is bounded by the marked part of the matcher, whatever is nested
in what. -/

namespace PortGate.Pattern

/-- The surroundings of a place in a text; there is no character beyond its ends. -/
structure Place where
  before : Option Char
  after : Option Char

def Assertion.holdsAt (a : Assertion) (p : Place) : Bool :=
  a.holds p.before p.after

/-- Whether a matcher can be passed through without leaving the place. -/
def Matcher.passes (p : Place) : Matcher → Bool
  | empty => true
  | oneOf _ => false
  | assertion a => a.holdsAt p
  | seq first second => passes p first && passes p second
  | either first second => passes p first || passes p second
  | many body => passes p body

/-- A matcher under way: `read` is a leaf that has just read a character, and whatever holds no
such leaf is `idle`. -/
inductive Progress where
  | idle (m : Matcher)
  | read (set : CharSet)
  | seq (first second : Progress)
  | either (first second : Progress)
  | many (body : Progress)

namespace Progress

def matcher : Progress → Matcher
  | idle m => m
  | read set => .oneOf set
  | seq first second => .seq first.matcher second.matcher
  | either first second => .either first.matcher second.matcher
  | many body => .many body.matcher

def joinSeq : Progress → Progress → Progress
  | idle first, idle second => idle (.seq first second)
  | first, second => seq first second

def joinEither : Progress → Progress → Progress
  | idle first, idle second => idle (.either first second)
  | first, second => either first second

def joinMany : Progress → Progress
  | idle body => idle (.many body)
  | body => many body

/-- Whether some way through the matcher has come to its end at the place. -/
def done (p : Place) : Progress → Bool
  | idle _ => false
  | read _ => true
  | seq first second => done p second || (done p first && second.matcher.passes p)
  | either first second => done p first || done p second
  | many body => done p body

/-- A leaf that is waited at reads the character after the place if its set holds it. -/
def readAt (p : Place) (set : CharSet) : Progress :=
  if p.after.any set.contains then read set else idle (.oneOf set)

/-- Enters a matcher at a place and reads the character after it. The answer says as well whether
the matcher can be left at the place already. -/
def start (p : Place) : Matcher → Progress × Bool
  | .empty => (idle .empty, true)
  | .oneOf set => (readAt p set, false)
  | .assertion a => (idle (.assertion a), a.holdsAt p)
  | .seq first second =>
    let (first, left) := start p first
    if left then
      let (second, left) := start p second
      (joinSeq first second, left)
    else (joinSeq first (idle second), false)
  | .either first second =>
    let (first, left) := start p first
    let (second, left') := start p second
    (joinEither first second, left || left')
  | .many body =>
    let (body, left) := start p body
    (joinMany body, left)

/-- Goes on from the marks, and from the beginning as well if the matcher is entered at the place:
reads the character after the place, and says whether the matcher can be left at the place. A body
that has been left is entered again. -/
def step (p : Place) (enters : Bool) : Progress → Progress × Bool
  | idle m => if enters then start p m else (idle m, false)
  | read set => (if enters then readAt p set else idle (.oneOf set), true)
  | seq first second =>
    let (first, left) := step p enters first
    let (second, left) := step p left second
    (joinSeq first second, left)
  | either first second =>
    let (first, left) := step p enters first
    let (second, left') := step p enters second
    (joinEither first second, left || left')
  | many body =>
    let (body, left) := step p (enters || done p body) body
    (joinMany body, left)

@[simp] theorem matcher_joinSeq (first second : Progress) :
    (joinSeq first second).matcher = .seq first.matcher second.matcher := by
  cases first <;> cases second <;> rfl

@[simp] theorem matcher_joinEither (first second : Progress) :
    (joinEither first second).matcher = .either first.matcher second.matcher := by
  cases first <;> cases second <;> rfl

@[simp] theorem matcher_joinMany (body : Progress) :
    (joinMany body).matcher = .many body.matcher := by
  cases body <;> rfl

@[simp] theorem matcher_readAt (p : Place) (set : CharSet) :
    (readAt p set).matcher = .oneOf set := by
  unfold readAt
  split <;> rfl

@[simp] theorem matcher_start (p : Place) (m : Matcher) : (start p m).1.matcher = m := by
  induction m with
  | empty | assertion _ => rfl
  | oneOf set => exact matcher_readAt p set
  | seq first second hf hs =>
    simp only [start]
    split <;> simp [hf, hs, matcher]
  | either first second hf hs => simp [start, hf, hs]
  | many body hb => simp [start, hb]

@[simp] theorem start_left (p : Place) (m : Matcher) : (start p m).2 = m.passes p := by
  induction m with
  | empty | assertion _ | oneOf _ => rfl
  | seq first second hf hs =>
    simp only [start, Matcher.passes, ← hf, ← hs]
    split <;> simp_all
  | either first second hf hs => simp [start, Matcher.passes, hf, hs]
  | many body hb => simp [start, Matcher.passes, hb]

@[simp] theorem matcher_step (p : Place) (enters : Bool) (t : Progress) :
    (step p enters t).1.matcher = t.matcher := by
  induction t generalizing enters with
  | idle m => cases enters <;> simp [step, matcher]
  | read set => cases enters <;> simp [step, matcher]
  | seq first second hf hs => simp [step, matcher, hf, hs]
  | either first second hf hs => simp [step, matcher, hf, hs]
  | many body hb => simp [step, matcher, hb]

theorem step_left (p : Place) (enters : Bool) (t : Progress) :
    (step p enters t).2 = (done p t || (enters && t.matcher.passes p)) := by
  induction t generalizing enters with
  | idle m => cases enters <;> simp [step, done, matcher]
  | read set => simp [step, done]
  | seq first second hf hs =>
    simp only [step, done, matcher, Matcher.passes, hf, hs]
    grind
  | either first second hf hs =>
    simp only [step, done, matcher, Matcher.passes, hf, hs]
    grind
  | many body hb =>
    simp only [step, done, matcher, Matcher.passes, hb]
    grind

def findsIn (before : Option Char) (t : Progress) : List Char → Bool
  | [] => (step ⟨before, none⟩ true t).2
  | c :: rest =>
    let (t, found) := step ⟨before, some c⟩ true t
    found || findsIn (some c) t rest

end Progress

/-- Some part of the text, possibly an empty one, matches. -/
def Matcher.findsIn (m : Matcher) (text : String) : Bool :=
  Progress.findsIn none (.idle m) text.toList

end PortGate.Pattern
