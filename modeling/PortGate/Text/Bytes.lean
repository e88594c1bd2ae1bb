/-! Bytes: their text in UTF-8 and their lines. `decode?` undoes `encode` and accepts nothing
else. A line ends at a line feed, which takes a carriage return before it along. What follows the
last line feed is a line too, unless it is empty. -/

namespace PortGate.Text

def dropReturn (line : List UInt8) : List UInt8 :=
  if line.getLast? = some 13 then line.dropLast else line

/-- Cuts after each line feed. The flag tells whether the line was ended by one. -/
def cutLines : List UInt8 → List (List UInt8 × Bool)
  | [] => []
  | b :: rest =>
    if b = 10 then ([], true) :: cutLines rest
    else
      match cutLines rest with
      | [] => [([b], false)]
      | (line, ended) :: lines => (b :: line, ended) :: lines

/-- The lines without their ends. A carriage return at the very end belongs to the last line. -/
def lines (bytes : List UInt8) : List (List UInt8) :=
  (cutLines bytes).map fun (line, ended) => if ended then dropReturn line else line

def encode (text : String) : List UInt8 := text.toByteArray.data.toList

def decode? (bytes : List UInt8) : Option String := String.fromUTF8? bytes.toByteArray

theorem toByteArray_encode (text : String) : (encode text).toByteArray = text.toByteArray := by
  apply ByteArray.ext
  simp [encode]

theorem encode_ofList (chars : List Char) :
    encode (String.ofList chars) = chars.flatMap String.utf8EncodeChar := by
  simp [encode, List.utf8Encode]

theorem decode?_eq_some_iff {bytes : List UInt8} {text : String} :
    decode? bytes = some text ↔ encode text = bytes := by
  unfold decode? String.fromUTF8?
  constructor
  · intro h
    split at h
    · obtain rfl := Option.some.inj h
      simp [encode, String.fromUTF8]
    · cases h
  · rintro rfl
    have hv : (encode text).toByteArray.IsValidUTF8 := toByteArray_encode text ▸ text.isValidUTF8
    rw [dif_pos hv]
    exact congrArg some (String.toByteArray_inj.1 (toByteArray_encode text))

@[simp] theorem decode?_encode (text : String) : decode? (encode text) = some text :=
  decode?_eq_some_iff.2 rfl

end PortGate.Text
