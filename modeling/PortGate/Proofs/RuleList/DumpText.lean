import PortGate.Proofs.Text.Encoding
import PortGate.RuleList.Dump

/-! The text of a dump. It is written in pieces, and a piece that does not fit is cut where the room
ends. So a sink takes as much of the whole text as there is room for, and the dump succeeds when
that is all of it. The fixed part of a line fits its buffer for any number that a machine counts
with. -/

namespace PortGate
open Text

/-! ### Writing in pieces -/

namespace Sink

theorem share_append (s : Sink) (first second : List UInt8) :
    s.share (first ++ second) = s.share first ++ (s.take first).share second := by
  rw [share, share, share, take]
  cases s.room with
  | none => rfl
  | some room => exact List.take_append

theorem fits_append (s : Sink) (first second : List UInt8) :
    s.fits (first ++ second) = (s.fits first && (s.take first).fits second) := by
  rw [fits, fits, fits, take]
  cases s.room with
  | none => rfl
  | some room =>
    simp only [Option.map_some, Option.all_some, List.length_append, ← Bool.decide_and,
      decide_eq_decide]
    omega

theorem room_take (s : Sink) (bytes : List UInt8) :
    (s.take bytes).room = s.room.map (· - bytes.length) := rfl

theorem room_take_append (s : Sink) (first second : List UInt8) :
    (s.take (first ++ second)).room = ((s.take first).take second).room := by
  rw [room_take, room_take, room_take, List.length_append]
  cases s.room with
  | none => rfl
  | some room => exact congrArg some (Nat.sub_sub room first.length second.length).symm

theorem room_of_not_fits {s : Sink} {bytes : List UInt8} (h : s.fits bytes = false) :
    (s.take bytes).room = some 0 := by
  rw [fits] at h
  rw [room_take]
  cases hroom : s.room with
  | none =>
    rw [hroom] at h
    cases h
  | some room =>
    rw [hroom, Option.all_some, decide_eq_false_iff_not] at h
    exact congrArg some (Nat.sub_eq_zero_of_le (by omega))

theorem share_take_of_not_fits {s : Sink} {bytes : List UInt8} (h : s.fits bytes = false)
    (more : List UInt8) : (s.take bytes).share more = [] := by
  rw [share, room_of_not_fits h]
  exact List.take_zero

theorem room_take_of_not_fits {s : Sink} {bytes : List UInt8} (h : s.fits bytes = false)
    (more : List UInt8) : ((s.take bytes).take more).room = (s.take bytes).room := by
  rw [room_take (s.take bytes), room_of_not_fits h]
  exact congrArg some (Nat.zero_sub more.length)

theorem share_congr {s t : Sink} (h : s.room = t.room) : s.share = t.share := by
  funext bytes
  rw [share, share, h]

theorem fits_congr {s t : Sink} (h : s.room = t.room) : s.fits = t.fits := by
  funext bytes
  rw [fits, fits, h]

end Sink

/-- What a writing does to any sink: the sink takes what it has room for, and the writing succeeds when
that is all. -/
structure Writes (w : Writing Unit) (bytes : List UInt8) : Prop where
  result : ∀ s : Sink, (w.run s).1 = if s.fits bytes then .ok () else .error .noRoom
  written : ∀ s : Sink, (w.run s).2.written = s.written ++ s.share bytes
  room : ∀ s : Sink, (w.run s).2.room = (s.take bytes).room

namespace Writes
variable {w v : Writing Unit} {first second : List UInt8}

theorem nothing : Writes (pure ()) [] := by
  constructor
  case result =>
    intro s
    have hfits : s.fits [] = true := by
      rw [Sink.fits]
      cases s.room <;> simp
    rw [hfits]
    rfl
  case written =>
    intro s
    have hshare : s.share [] = [] := by
      rw [Sink.share]
      cases s.room <;> simp
    rw [hshare, List.append_nil]
    rfl
  case room =>
    intro s
    rw [Sink.take]
    cases h : s.room <;> exact h

theorem put (bytes : List UInt8) : Writes (Sink.put bytes) bytes := by
  have hrun (s : Sink) : (Sink.put bytes).run s =
      (if s.fits bytes then .ok () else .error .noRoom, s.take bytes) := by
    have hput : (Sink.put bytes).run s =
        (if s.fits bytes = true then pure () else throw DumpError.noRoom : Writing Unit).run
          (s.take bytes) := rfl
    rw [hput]
    cases s.fits bytes <;> rfl
  constructor
  case result => intro s; rw [hrun]
  case written => intro s; rw [hrun, Sink.written_take]
  case room => intro s; rw [hrun]

theorem seq (hw : Writes w first) (hv : Writes v second) :
    Writes (w >>= fun _ => v) (first ++ second) := by
  have hrun (s : Sink) : (w >>= fun _ => v).run s =
      if s.fits first then v.run (w.run s).2 else (.error .noRoom, (w.run s).2) := by
    have hbind : (w >>= fun _ => v).run s =
        ExceptT.bindCont (fun _ => v) (w.run s).1 (w.run s).2 := rfl
    rw [hbind, hw.result]
    cases s.fits first <;> rfl
  -- The sink that `w` leaves need not be `s.take first`, but it has as much room.
  have hfits (s : Sink) := congrFun (Sink.fits_congr (hw.room s)) second
  have hshare (s : Sink) := congrFun (Sink.share_congr (hw.room s)) second
  constructor
  case result =>
    intro s
    rw [hrun, Sink.fits_append]
    cases s.fits first with
    | true => rw [if_pos rfl, hv.result, hfits, Bool.true_and]
    | false => rfl
  case written =>
    intro s
    rw [hrun, Sink.share_append, ← List.append_assoc, ← hw.written]
    cases h : s.fits first with
    | true => rw [if_pos rfl, hv.written, hshare]
    | false =>
      rw [if_neg Bool.false_ne_true, Sink.share_take_of_not_fits h, List.append_nil]
  case room =>
    intro s
    rw [hrun, Sink.room_take_append]
    cases h : s.fits first with
    | true =>
      rw [if_pos rfl, hv.room, Sink.room_take, Sink.room_take, hw.room]
    | false =>
      rw [if_neg Bool.false_ne_true, hw.room, Sink.room_take_of_not_fits h]

end Writes

theorem writes_putText (text : String) : Writes (Sink.putText text) (encode text) :=
  .put (encode text)

/-! ### The fixed part of a line -/

theorem utf8ByteSize_of_ascii {chars : List Char} (h : ∀ c ∈ chars, c.toNat < 128) :
    (String.ofList chars).utf8ByteSize = chars.length := by
  rw [← length_encode, encode_ofList]
  induction chars with
  | nil => rfl
  | cons c chars ih =>
    obtain ⟨hc, hchars⟩ := List.forall_mem_cons.1 h
    have hsize : (String.utf8EncodeChar c).length = 1 := by
      rw [String.length_utf8EncodeChar, Char.utf8Size_eq_one_iff]
      exact Nat.le_of_lt_succ hc
    rw [List.flatMap_cons, List.length_append, hsize, ih hchars, List.length_cons, Nat.add_comm]

theorem isAscii_of_isDigit {c : Char} (h : c.isDigit = true) : c.toNat < 128 := by
  have hcode : c.toNat = c.val.toNat := rfl
  simp only [Char.isDigit, Bool.and_eq_true, decide_eq_true_eq, UInt32.le_iff_toNat_le] at h
  have hnine : ('9'.val).toNat = 57 := rfl
  omega

theorem utf8ByteSize_render (n : Nat) :
    (Decimal.render n).utf8ByteSize = (Nat.toDigits 10 n).length := by
  have hascii : ∀ c ∈ Nat.toDigits 10 n, c.toNat < 128 := fun c hc =>
    isAscii_of_isDigit (Nat.isDigit_of_mem_toDigits (by decide) (by decide) hc)
  rw [Decimal.render, utf8ByteSize_of_ascii hascii]

theorem utf8ByteSize_renderTwo_le (n : Nat) :
    (Decimal.renderTwo n).utf8ByteSize ≤ (Nat.toDigits 10 n).length + 1 := by
  have hrender := utf8ByteSize_render n
  have hzero : "0".utf8ByteSize = 1 := rfl
  rw [Decimal.renderTwo]
  split
  · rw [String.utf8ByteSize_append]
    omega
  · omega

theorem utf8ByteSize_renderEight (n : Nat) : (Hexadecimal.renderEight n).utf8ByteSize = 8 := by
  have hdigit : ∀ d < 16, (Nat.digitChar d).toNat < 128 := by decide
  have hascii : ∀ c ∈ [28, 24, 20, 16, 12, 8, 4, 0].map fun shift =>
      Nat.digitChar ((n >>> shift) % 16), c.toNat < 128 := by
    intro c hc
    obtain ⟨shift, -, rfl⟩ := List.mem_map.1 hc
    exact hdigit _ (Nat.mod_lt _ (by decide))
  rw [Hexadecimal.renderEight, utf8ByteSize_of_ascii hascii, List.length_map]
  rfl

theorem utf8ByteSize_renderBounds_le (r : PortRange) : r.renderBounds.utf8ByteSize ≤ 11 := by
  have hrender (p : Port) : (Decimal.render p.toNat).utf8ByteSize ≤ 5 := by
    rw [utf8ByteSize_render]
    exact (Nat.length_toDigits_le_iff (by decide) (by decide)).2 (Nat.lt_trans p.toNat_lt (by decide))
  have hlo := hrender r.lo
  have hhi := hrender r.hi
  have hdash : "-".utf8ByteSize = 1 := rfl
  rw [PortRange.renderBounds, String.utf8ByteSize_append, String.utf8ByteSize_append]
  omega

namespace Rule

theorem utf8ByteSize_dumpHead_le {index : Nat} (h : index < UInt64.size) (r : Rule) :
    (r.dumpHead index).utf8ByteSize ≤ dumpBufferSize := by
  have hdigits : (Nat.toDigits 10 index).length ≤ 20 :=
    (Nat.length_toDigits_le_iff (by decide) (by decide)).2 (Nat.lt_trans h (by decide))
  have hindex := utf8ByteSize_renderTwo_le index
  have haction : r.action.render.utf8ByteSize ≤ 5 := by cases r.action <;> decide
  have heports := utf8ByteSize_renderBounds_le r.eports
  have hiports := utf8ByteSize_renderBounds_le r.iports
  have hspace : " ".utf8ByteSize = 1 := rfl
  have hslash : "/".utf8ByteSize = 1 := rfl
  simp only [dumpHead, String.utf8ByteSize_append, utf8ByteSize_renderEight, dumpBufferSize]
  omega

def dumpLine (index : Nat) (r : Rule) : String :=
  r.dumpHead index ++ (r.pattern.elim "" fun p => " " ++ p.source) ++ "\n"

theorem writes_writeDump {index : Nat} (h : index < UInt64.size) (r : Rule) :
    Writes (r.writeDump index) (encode (r.dumpLine index)) := by
  rw [writeDump, if_neg (Nat.not_lt.2 (utf8ByteSize_dumpHead_le h r)), dumpLine]
  cases r.pattern with
  | none =>
    have hpieces := (writes_putText (r.dumpHead index)).seq (writes_putText "\n")
    rw [← encode_append] at hpieces
    simpa only [Option.elim_none, String.append_empty] using hpieces
  | some p =>
    have hpieces := (writes_putText (r.dumpHead index)).seq <| (writes_putText " ").seq <|
      (writes_putText p.source).seq (writes_putText "\n")
    simp only [← encode_append, ← String.append_assoc] at hpieces
    simpa only [Option.elim_some, ← String.append_assoc] using hpieces

end Rule

def dumpLinesFrom (start : Nat) : List Rule → String
  | [] => ""
  | r :: rules => r.dumpLine start ++ dumpLinesFrom (start + 1) rules

def dumpText (rules : List Rule) : String :=
  "Permissions :\n" ++ dumpLinesFrom 0 rules

theorem writes_writeDumpFrom {start : Nat} {rules : List Rule}
    (h : start + rules.length ≤ UInt64.size) :
    Writes (writeDumpFrom start rules) (encode (dumpLinesFrom start rules)) := by
  induction rules generalizing start with
  | nil => exact .nothing
  | cons r rules ih =>
    rw [List.length_cons] at h
    rw [dumpLinesFrom, encode_append]
    exact (r.writes_writeDump (by omega)).seq (ih (by omega))

theorem dumpTo_eq {rules : List Rule} (h : rules.length ≤ UInt64.size) (room : Option Nat) :
    dumpTo room rules =
      (if (Sink.ofRoom room).fits (encode (dumpText rules)) then .ok () else .error .noRoom,
        (Sink.ofRoom room).share (encode (dumpText rules))) := by
  have hwrites : Writes (writeDump rules) (encode (dumpText rules)) := by
    rw [dumpText, encode_append]
    exact (writes_putText "Permissions :\n").seq (writes_writeDumpFrom (by omega))
  have hdump : dumpTo room rules =
      (((writeDump rules).run (.ofRoom room)).1, ((writeDump rules).run (.ofRoom room)).2.written) :=
    rfl
  rw [hdump, hwrites.result, hwrites.written, Sink.written_ofRoom, List.nil_append]

theorem dumpTo_none {rules : List Rule} (h : rules.length ≤ UInt64.size) :
    dumpTo none rules = (.ok (), encode (dumpText rules)) := by
  rw [dumpTo_eq h]
  rfl

theorem dumpTo_some {rules : List Rule} (h : rules.length ≤ UInt64.size) (limit : Nat) :
    dumpTo (some limit) rules =
      (if (encode (dumpText rules)).length ≤ limit then .ok () else .error .noRoom,
        (encode (dumpText rules)).take limit) := by
  rw [dumpTo_eq h]
  simp only [Sink.fits, Sink.share, Sink.ofRoom, Option.all_some, decide_eq_true_eq]

/-- A sink with room for `limit` bytes is left with the first `limit` bytes of the dump, wherever the cut
falls, and the dump succeeds when that is all of it. What fails otherwise is the sink, never the
buffer of a line, because the fixed part of a line fits it for every number that a machine counts
with. -/
theorem dump_cut_at_limit {rules : List Rule} (h : rules.length ≤ UInt64.size) :
    ∃ dump, dumpTo none rules = (.ok (), dump) ∧
      (∀ limit, (dumpTo (some limit) rules).2 = dump.take (min limit dump.length) ∧
        ((dumpTo (some limit) rules).1 = .ok () ↔ dump.length ≤ limit) ∧
        ((dumpTo (some limit) rules).1 = .error .noRoom ↔ limit < dump.length)) ∧
      (∀ room, (dumpTo room rules).1 ≠ .error .lineTooLong) ∧
      ∀ index < UInt64.size, ∀ r : Rule, (r.dumpHead index).utf8ByteSize ≤ 128 := by
  refine ⟨encode (dumpText rules), dumpTo_none h, ?_, ?_, ?_⟩
  · intro limit
    rw [dumpTo_some h]
    refine ⟨List.take_eq_take_min, ?_⟩
    by_cases hfits : (encode (dumpText rules)).length ≤ limit
    · rw [if_pos hfits]
      exact ⟨iff_of_true rfl hfits, iff_of_false nofun (Nat.not_lt.2 hfits)⟩
    · rw [if_neg hfits]
      exact ⟨iff_of_false nofun hfits, iff_of_true rfl (Nat.lt_of_not_le hfits)⟩
  · intro room
    rw [dumpTo_eq h]
    split
    · exact nofun
    · exact nofun
  · intro index hindex r
    exact r.utf8ByteSize_dumpHead_le hindex

theorem dump_cut_at_limit_in_pattern :
    let r : Rule := ⟨.deny, ⟨7, 65535, by decide⟩, ⟨0x0A000001, 0xFF00FF00⟩, ⟨80, 80, by decide⟩,
      (Pattern.ofSource "camera").toOption⟩
    [r].length ≤ UInt64.size ∧ (dumpTo (some 57) [r]).1 = .error .noRoom ∧
      (dumpTo (some 57) [r]).2 =
        encode "Permissions :\n00 deny 7-65535 0a000001/ff00ff00 80-80 cam" := by
  intro r
  have hlength : [r].length ≤ UInt64.size := by decide
  obtain ⟨dump, hdump, hcut, -⟩ := dump_cut_at_limit hlength
  have hall : dump =
      encode "Permissions :\n00 deny 7-65535 0a000001/ff00ff00 80-80 camera\n" := by
    have heval : (dumpTo none [r]).2 =
        encode "Permissions :\n00 deny 7-65535 0a000001/ff00ff00 80-80 camera\n" := by
      decide +kernel
    rw [← heval, hdump]
  obtain ⟨htaken, -, hfails⟩ := hcut 57
  refine ⟨hlength, hfails.2 ?_, ?_⟩
  · rw [hall]
    decide +kernel
  · rw [htaken, hall]
    decide +kernel

end PortGate
