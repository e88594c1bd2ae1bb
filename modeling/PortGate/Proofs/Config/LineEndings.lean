import PortGate.Proofs.Config.LineByLine
import PortGate.Proofs.Text.Lines

/-! A file may end its lines with a line feed or with a carriage return and a line feed. Both spell the
same lines, whatever else the lines hold, so both give the same rules and say the same things. -/

namespace PortGate
open Text

namespace Text
variable {line rest bytes : List UInt8}

/-- A carriage return in front of each line feed. -/
def withReturns (bytes : List UInt8) : List UInt8 :=
  bytes.flatMap fun b => if b = 10 then [13, 10] else [b]

theorem withReturns_of_not_mem (h : 10 ∉ line) : withReturns line = line := by
  induction line with
  | nil => rfl
  | cons b line ih =>
    have hb : b ≠ 10 := fun e => h (e ▸ List.mem_cons_self)
    have hline : 10 ∉ line := fun hm => h (.tail b hm)
    rw [withReturns, List.flatMap_cons, if_neg hb, ← withReturns, ih hline, List.singleton_append]

theorem withReturns_append_newline (h : 10 ∉ line) (rest : List UInt8) :
    withReturns (line ++ 10 :: rest) = (line ++ [13]) ++ 10 :: withReturns rest := by
  have hsplit : withReturns (line ++ 10 :: rest) = withReturns line ++ 13 :: 10 :: withReturns rest :=
    List.flatMap_append
  rw [hsplit, withReturns_of_not_mem h, List.append_assoc, List.singleton_append]

theorem dropReturn_of_no_return (h : ¬[13, 10] <:+: line ++ 10 :: rest) : dropReturn line = line := by
  rw [dropReturn, if_neg]
  intro hlast
  obtain ⟨start, rfl⟩ := List.getLast?_eq_some_iff.1 hlast
  exact h ⟨start, rest, by simp⟩

theorem no_return_of_append (h : ¬[13, 10] <:+: line ++ 10 :: rest) : ¬[13, 10] <:+: rest :=
  fun hrest => h (hrest.trans ⟨line ++ [10], [], by simp⟩)

theorem lines_withReturns (h : ¬[13, 10] <:+: bytes) : lines (withReturns bytes) = lines bytes := by
  induction bytes using lines_induction with
  | last line hline => rw [withReturns_of_not_mem hline]
  | ended line rest hline ih =>
    have hreturn : 10 ∉ line ++ [13] := by simpa using hline
    rw [withReturns_append_newline hline, lines_append_newline hreturn, lines_append_newline hline,
      dropReturn_concat, dropReturn_of_no_return h, ih (no_return_of_append h)]

end Text

/-- When no line feed follows a carriage return, putting one in front of each line feed changes nothing:
neither the rules, patterns included, nor the number of rules left out, nor the error and its line,
nor what is logged. -/
theorem load_withReturns {bytes : List UInt8} (h : ¬[13, 10] <:+: bytes) (policy : Policy)
    (mask : LogMask) :
    (load policy (withReturns bytes)).run mask = (load policy bytes).run mask := by
  rw [load, lines_withReturns h, load]

theorem load_withReturns_unended :
    let bytes := encode "deny 1 10.0.0.0/8 2 cam \nkey\r=1\nallow\n" ++ [255]
    ¬[13, 10] <:+: bytes ∧ withReturns bytes ≠ bytes ∧
      (load .lenient (withReturns bytes)).run .initial = (load .lenient bytes).run .initial := by
  intro bytes
  have hplain : ¬[13, 10] <:+: bytes := by decide +kernel
  exact ⟨hplain, by decide +kernel, load_withReturns hplain .lenient .initial⟩

end PortGate
