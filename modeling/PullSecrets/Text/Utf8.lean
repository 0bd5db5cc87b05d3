/-!
# Bytes as text

Bodies and header values arrive as bytes. `decode?` reads bytes that are UTF-8 as a whole;
`readable` reads as far as the bytes are UTF-8, which is all a reader can see of a body that
breaks off.
-/

namespace PullSecrets

/-- Raw bytes, as carried by a header value or a body. -/
abbrev Bytes := List UInt8

namespace Text

def encode (s : String) : Bytes := s.toUTF8.data.toList

def decode? (bytes : Bytes) : Option String := String.fromUTF8? ⟨bytes.toArray⟩

theorem decode?_encode (s : String) : decode? (encode s) = some s := by
  unfold decode? encode String.fromUTF8?
  rw [Array.toArray_toList]
  exact dif_pos s.isValidUTF8

theorem encode_of_decode? {bytes : Bytes} {s : String} (read : decode? bytes = some s) :
    encode s = bytes := by
  unfold decode? String.fromUTF8? at read
  split at read
  · cases read
    rfl
  · cases read

/-- The characters encoded from byte `i` on, up to the first byte that starts none. -/
def readableFrom (bytes : ByteArray) (i : Nat) (before : Array Char) : Array Char :=
  match bytes.utf8DecodeChar? i with
  | some c =>
    if i < bytes.size then readableFrom bytes (i + c.utf8Size) (before.push c) else before
  | none => before
termination_by bytes.size - i
decreasing_by have := c.utf8Size_pos; omega

/-- The longest part, from the start, that is UTF-8. -/
def readable (bytes : Bytes) : List Char :=
  (readableFrom ⟨bytes.toArray⟩ 0 #[]).toList

/-- The text without the byte-order mark that some editors put at its start. -/
def withoutMark : List Char → List Char
  | '\ufeff' :: rest => rest
  | cs => cs

/-- A text with its ASCII capitals made small; other characters stay. -/
def lowerAscii (s : String) : String := String.ofList (s.toList.map Char.toLower)

/-- Equality that does not tell ASCII capitals from small letters. -/
def eqIgnoringCase (s t : String) : Bool := lowerAscii s == lowerAscii t

theorem eqIgnoringCase_iff {s t : String} :
    eqIgnoringCase s t = true ↔ lowerAscii s = lowerAscii t := by
  simp [eqIgnoringCase]

end Text

end PullSecrets
