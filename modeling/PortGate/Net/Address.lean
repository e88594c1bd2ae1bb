import PortGate.Text.Decimal
import PortGate.Text.Split

/-! Internet addresses of 32 bits and their dotted form: four numbers below 256, each without
leading zeros. -/

namespace PortGate
open Text

abbrev Address := BitVec 32

namespace Address

def ofOctets (a b c d : Nat) : Address :=
  BitVec.ofNat 32 (((a * 256 + b) * 256 + c) * 256 + d)

def octets (address : Address) : List Nat :=
  let n := address.toNat
  [n / 16777216, n / 65536 % 256, n / 256 % 256, n % 256]

/-- At most three digits, no zero in front of others, and a value below 256. -/
def readOctet? (text : List Char) : Option Nat := do
  let n ← Decimal.read? text
  if text.length ≤ 3 ∧ (text.head? = some '0' → text.length = 1) ∧ n < 256 then some n else none

def read? (text : List Char) : Option Address :=
  match split '.' text with
  | [a, b, c, d] => do
    return ofOctets (← readOctet? a) (← readOctet? b) (← readOctet? c) (← readOctet? d)
  | _ => none

def render (address : Address) : String :=
  String.ofList (['.'].intercalate (address.octets.map (Nat.toDigits 10)))

theorem length_toDigits_eq_one_of_head {n : Nat} (h : n < 256)
    (hhead : (Nat.toDigits 10 n).head? = some '0') : (Nat.toDigits 10 n).length = 1 := by
  revert n
  decide +kernel

theorem readOctet?_toDigits {n : Nat} (h : n < 256) : readOctet? (Nat.toDigits 10 n) = some n := by
  have hread : Decimal.read? (Nat.toDigits 10 n) = some n := by
    simpa [Decimal.render] using Decimal.read?_render n
  have hlen : (Nat.toDigits 10 n).length ≤ 3 :=
    (Nat.length_toDigits_le_iff (by decide) (by decide)).2 (by omega)
  simp only [readOctet?, hread, Option.bind_eq_bind, Option.bind_some]
  exact if_pos ⟨hlen, length_toDigits_eq_one_of_head h, h⟩

theorem read?_render (address : Address) : read? address.render.toList = some address := by
  have hn := address.isLt
  have hdigit : ∀ part ∈ address.octets.map (Nat.toDigits 10), '.' ∉ part := by
    intro part hpart hdot
    obtain ⟨n, _, rfl⟩ := List.mem_map.1 hpart
    exact absurd (Nat.isDigit_of_mem_toDigits (by decide) (by decide) hdot) (by decide)
  rw [render, String.toList_ofList, read?, split, List.splitOn_intercalate '.' hdigit (by simp [octets])]
  simp only [octets, List.map_cons, List.map_nil]
  rw [readOctet?_toDigits (by omega), readOctet?_toDigits (by omega),
    readOctet?_toDigits (by omega), readOctet?_toDigits (by omega)]
  simp only [Option.bind_eq_bind, Option.bind_some, Option.pure_def, ofOctets, Option.some.injEq]
  apply BitVec.eq_of_toNat_eq
  rw [BitVec.toNat_ofNat]
  omega

end Address

end PortGate
