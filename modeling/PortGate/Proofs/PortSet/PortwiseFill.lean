import PortGate.PortSet.Fill

/-! Filling a range word by word and port by port. The loop of a fill counts with 32 bits and casts its
cursor to a port for each stroke. It always ends, no cast loses anything, whole words are written
only inside the range, and what it leaves is what writing the ports one after the other leaves. -/

namespace PortGate.PortSet

/-! ### One port after the other -/

def portsBetween (lo hi : Port) : List Port :=
  (List.range' lo.toNat (hi.toNat + 1 - lo.toNat)).map UInt16.ofNat

def put (allowed : Bool) (s : PortSet) (p : Port) : PortSet :=
  if allowed then s.allow p else s.deny p

def fillEach (s : PortSet) (lo hi : Port) (allowed : Bool) : PortSet :=
  (portsBetween lo hi).foldl (put allowed) s

theorem mem_portsBetween {lo hi p : Port} : p ∈ portsBetween lo hi ↔ lo ≤ p ∧ p ≤ hi := by
  have hlo := lo.toNat_lt
  have hhi := hi.toNat_lt
  simp only [portsBetween, List.mem_map, List.mem_range'_1, UInt16.le_iff_toNat_le]
  constructor
  · rintro ⟨n, hn, rfl⟩
    rw [UInt16.toNat_ofNat_of_lt' (show n < 65536 by omega)]
    omega
  · intro hp
    exact ⟨p.toNat, by omega, UInt16.ofNat_toNat⟩

theorem get_put (allowed : Bool) (s : PortSet) (p q : Port) :
    (put allowed s p).get q = if q = p then allowed else s.get q := by
  have hport : p = q ↔ q = p := eq_comm
  cases allowed with
  | true => by_cases h : q = p <;> simp [put, get_allow, hport, h]
  | false => by_cases h : q = p <;> simp [put, get_deny, hport, h]

theorem get_foldl_put (allowed : Bool) (s : PortSet) (ports : List Port) (q : Port) :
    (ports.foldl (put allowed) s).get q = if q ∈ ports then allowed else s.get q := by
  induction ports generalizing s with
  | nil => simp
  | cons p ports ih =>
    rw [List.foldl_cons, ih, get_put]
    by_cases hp : q = p <;> by_cases hmem : q ∈ ports <;> simp [hp, hmem]

theorem get_fillEach (s : PortSet) (lo hi : Port) (allowed : Bool) (q : Port) :
    (s.fillEach lo hi allowed).get q = if lo ≤ q ∧ q ≤ hi then allowed else s.get q := by
  rw [fillEach, get_foldl_put]
  simp only [mem_portsBetween]

theorem fill_eq_fillEach (s : PortSet) (lo hi : Port) (allowed : Bool) :
    s.fill lo hi allowed = s.fillEach lo hi allowed := by
  apply eq_of_get_eq
  intro q
  rw [get_fill, get_fillEach]

theorem fill_of_lt (s : PortSet) {lo hi : Port} (h : hi < lo) (allowed : Bool) :
    s.fill lo hi allowed = s := by
  rw [UInt16.lt_iff_toNat_lt] at h
  have hturns : hi.toNat + 1 - lo.toNat = 0 := by omega
  rw [fill, hturns, strokes, List.foldl_nil]

/-! ### The loop -/

def rangeStrokes (lo hi : Port) : List Stroke :=
  strokes (hi.toNat + 1 - lo.toNat) lo.toNat hi.toNat

def Stroke.cursor : Stroke → Nat
  | block base => base
  | port p => p

/-- A whole run of the loop that fills up to `last`, with a cursor of 32 bits: where the cursor and the
set start, the strokes in order, and the set in the end. -/
inductive Filling (last : UInt32) (allowed : Bool) :
    (cursor : UInt32) → (start : PortSet) → List Stroke → (final : PortSet) → Prop where
  | done {cursor : UInt32} {s : PortSet} (hpast : ¬cursor ≤ last) : Filling last allowed cursor s [] s
  | block {cursor : UInt32} {s t : PortSet} {drawn : List Stroke} (hturn : cursor ≤ last)
      (hword : cursor % 32 = 0 ∧ cursor + 31 ≤ last)
      (hrest : Filling last allowed (cursor + 32) (draw allowed s (.block cursor.toNat)) drawn t) :
      Filling last allowed cursor s (.block cursor.toNat :: drawn) t
  | port {cursor : UInt32} {s t : PortSet} {drawn : List Stroke} (hturn : cursor ≤ last)
      (hword : ¬(cursor % 32 = 0 ∧ cursor + 31 ≤ last))
      (hrest : Filling last allowed (cursor + 1) (draw allowed s (.port cursor.toNat)) drawn t) :
      Filling last allowed cursor s (.port cursor.toNat :: drawn) t

section
variable {last cursor : UInt32} {allowed : Bool} {s t : PortSet} {drawn : List Stroke}

theorem Filling.unique {t' : PortSet} {drawn' : List Stroke} (h : Filling last allowed cursor s drawn t)
    (h' : Filling last allowed cursor s drawn' t') : drawn = drawn' ∧ t = t' := by
  -- the condition and the cursor alone decide a turn, so the other run takes the same one
  induction h generalizing drawn' t' with
  | done hpast =>
    cases h' with
    | done => exact ⟨rfl, rfl⟩
    | block hturn => exact absurd hturn hpast
    | port hturn => exact absurd hturn hpast
  | block hturn hword hrest ih =>
    cases h' with
    | done hpast => exact absurd hturn hpast
    | block _ _ hrest' =>
      obtain ⟨rfl, rfl⟩ := ih hrest'
      exact ⟨rfl, rfl⟩
    | port _ hnot => exact absurd hword hnot
  | port hturn hnot hrest ih =>
    cases h' with
    | done hpast => exact absurd hturn hpast
    | block _ hword => exact absurd hword hnot
    | port _ _ hrest' =>
      obtain ⟨rfl, rfl⟩ := ih hrest'
      exact ⟨rfl, rfl⟩

theorem toNat_cursor_add (hcursor : cursor.toNat < 65536) {step : UInt32} (hstep : step.toNat ≤ 32) :
    (cursor + step).toNat = cursor.toNat + step.toNat := by
  rw [UInt32.toNat_add]
  -- a cursor of 32 bits has room to spare below the 65536 ports
  exact Nat.mod_eq_of_lt (by omega)

theorem word_turn_iff (hcursor : cursor.toNat < 65536) :
    (cursor % 32 = 0 ∧ cursor + 31 ≤ last) ↔
      cursor.toNat % 32 = 0 ∧ cursor.toNat + 31 ≤ last.toNat := by
  have hsum : (cursor + 31).toNat = cursor.toNat + 31 := toNat_cursor_add hcursor (by decide)
  have hmod : (cursor % 32).toNat = cursor.toNat % 32 := UInt32.toNat_mod cursor 32
  rw [UInt32.le_iff_toNat_le, hsum, ← UInt32.toNat_inj, hmod]
  rfl

theorem filling_strokes (hlast : last.toNat < 65536) {turns : Nat}
    (hturns : last.toNat + 1 - cursor.toNat ≤ turns) :
    Filling last allowed cursor s (strokes turns cursor.toNat last.toNat)
      ((strokes turns cursor.toNat last.toNat).foldl (draw allowed) s) := by
  induction turns generalizing cursor s with
  | zero =>
    have hpast : ¬cursor ≤ last := by
      rw [UInt32.le_iff_toNat_le]
      omega
    exact .done hpast
  | succ turns ih =>
    rw [strokes]
    by_cases hpast : last.toNat < cursor.toNat
    · rw [if_pos hpast]
      exact .done fun hle => Nat.not_le.2 hpast (UInt32.le_iff_toNat_le.1 hle)
    · have hcursor : cursor.toNat < 65536 := by omega
      have hturn : cursor ≤ last := UInt32.le_iff_toNat_le.2 (Nat.le_of_not_lt hpast)
      rw [if_neg hpast]
      by_cases hword : cursor.toNat % 32 = 0 ∧ cursor.toNat + 31 ≤ last.toNat
      · have hnext : (cursor + 32).toNat = cursor.toNat + 32 := toNat_cursor_add hcursor (by decide)
        rw [if_pos hword, ← hnext]
        exact .block hturn ((word_turn_iff hcursor).2 hword) (ih (by omega))
      · have hnext : (cursor + 1).toNat = cursor.toNat + 1 := toNat_cursor_add hcursor (by decide)
        rw [if_neg hword, ← hnext]
        exact .port hturn (fun h => hword ((word_turn_iff hcursor).1 h)) (ih (by omega))

end

theorem filling_iff (s t : PortSet) (lo hi : Port) (allowed : Bool) (drawn : List Stroke) :
    Filling hi.toUInt32 allowed lo.toUInt32 s drawn t ↔
      drawn = rangeStrokes lo hi ∧ t = s.fill lo hi allowed := by
  have hrun : Filling hi.toUInt32 allowed lo.toUInt32 s (rangeStrokes lo hi) (s.fill lo hi allowed) := by
    rw [rangeStrokes, fill, ← UInt16.toNat_toUInt32 lo, ← UInt16.toNat_toUInt32 hi]
    refine filling_strokes ?_ (Nat.le_refl _)
    rw [UInt16.toNat_toUInt32]
    exact hi.toNat_lt
  constructor
  · intro h
    exact h.unique hrun
  · rintro ⟨rfl, rfl⟩
    exact hrun

theorem mem_rangeStrokes {lo hi : Port} {stroke : Stroke} (h : stroke ∈ rangeStrokes lo hi) :
    (UInt16.ofNat stroke.cursor).toNat = stroke.cursor ∧
      (∀ p, stroke.covers p → lo.toNat ≤ p ∧ p ≤ hi.toNat) ∧
      ∀ base, stroke = .block base → base % 32 = 0 ∧ lo.toNat ≤ base ∧ base + 31 ≤ hi.toNat := by
  obtain ⟨haligned, hinside⟩ := mem_strokes h
  have hbound := hi.toNat_lt
  have hfirst : stroke.covers stroke.cursor := by
    cases stroke with
    | block base => exact ⟨Nat.le_refl base, Nat.lt_add_of_pos_right (by decide)⟩
    | port p => rfl
  have hcursor := hinside stroke.cursor hfirst
  refine ⟨?_, hinside, ?_⟩
  · exact UInt16.toNat_ofNat_of_lt' (show stroke.cursor < 65536 by omega)
  · rintro base rfl
    have hlast := hinside (base + 31) ⟨by omega, by omega⟩
    exact ⟨haligned base rfl, hcursor.1, hlast.2⟩

/-- A fill runs to its end in one way, and it leaves the same words as writing the ports of the range
one by one, which is the set itself when the ends are reversed. On the way every stroke lies inside
the range, a block starts where a word starts, and the cursor is the number of the port that it is
cast to. -/
theorem fill_eq_portwise (s : PortSet) (lo hi : Port) (allowed : Bool) :
    (∀ drawn t, Filling hi.toUInt32 allowed lo.toUInt32 s drawn t ↔
      drawn = rangeStrokes lo hi ∧ t = s.fill lo hi allowed) ∧
    s.fill lo hi allowed = s.fillEach lo hi allowed ∧
    (hi < lo → s.fill lo hi allowed = s) ∧
    ∀ stroke ∈ rangeStrokes lo hi,
      (UInt16.ofNat stroke.cursor).toNat = stroke.cursor ∧
      (∀ p, stroke.covers p → lo.toNat ≤ p ∧ p ≤ hi.toNat) ∧
      ∀ base, stroke = .block base → base % 32 = 0 ∧ lo.toNat ≤ base ∧ base + 31 ≤ hi.toNat :=
  ⟨fun drawn t => filling_iff s t lo hi allowed drawn, fill_eq_fillEach s lo hi allowed,
    fun h => fill_of_lt s h allowed, fun _ => mem_rangeStrokes⟩

end PortGate.PortSet
