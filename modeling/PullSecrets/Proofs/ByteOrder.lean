import Mathlib.Tactic.SplitIfs
import PullSecrets.Text.Utf8

/-! # The order of bytes

Texts are ordered by the code points of their characters. `encode_lt_encode_iff` says that this is
the order of their UTF-8 bytes, in which clusters iterate: the encoding of a character with the
greater code point is greater at the first byte where the two differ, whatever follows.
-/

namespace PullSecrets.Text

theorem encode_eq_flatMap (s : String) : encode s = s.toList.flatMap String.utf8EncodeChar := by
  have bytes : s.toByteArray = s.toList.utf8Encode := String.utf8Encode_toList.symm
  unfold encode
  rw [String.toUTF8_eq_toByteArray, bytes]
  simp [List.utf8Encode]

/-- A byte decides, or agrees and leaves it to those after it. -/
theorem cons_lt_cons_of_le {a b : Nat} {x y : Bytes} (bound : b < 256) (order : a ≤ b)
    (rest : a = b → x < y) : UInt8.ofNat a :: x < UInt8.ofNat b :: y := by
  rw [List.cons_lt_cons_iff]
  by_cases same : a = b
  · subst same
    exact .inr ⟨rfl, rest rfl⟩
  · refine .inl ?_
    rw [UInt8.lt_iff_toNat_lt, UInt8.toNat_ofNat', UInt8.toNat_ofNat']
    omega

/-- Encodings of different characters differ within their length, also when one is longer: its
first byte is then the greater one. -/
theorem encodeChar_append_lt {c d : Char} (below : c < d) (x y : Bytes) :
    String.utf8EncodeChar c ++ x < String.utf8EncodeChar d ++ y := by
  have order : c.val.toNat < d.val.toNat := below
  have bound : d.val.toNat < 0x110000 := by
    rcases d.valid with low | high
    · exact Nat.lt_trans low (by decide)
    · exact high.2
  simp only [String.utf8EncodeChar]
  -- the lengths of both encodings; a longer one first is out of order
  split_ifs <;> try omega
  all_goals simp only [List.cons_append, List.nil_append]
  all_goals repeat refine cons_lt_cons_of_le (by omega) (by omega) fun _ => ?_
  all_goals omega

theorem flatMap_encodeChar_lt {cs ds : List Char} (below : cs < ds) :
    cs.flatMap String.utf8EncodeChar < ds.flatMap String.utf8EncodeChar := by
  induction cs generalizing ds with
  | nil =>
      cases ds with
      | nil => simp at below
      | cons d ds =>
          cases bytes : (d :: ds).flatMap String.utf8EncodeChar with
          | nil => simp at bytes
          | cons b bs => exact List.nil_lt_cons b bs
  | cons c cs ih =>
      cases ds with
      | nil => simp at below
      | cons d ds =>
          simp only [List.flatMap_cons]
          rcases List.cons_lt_cons_iff.1 below with first | ⟨rfl, rest⟩
          · exact encodeChar_append_lt first _ _
          · exact List.append_left_lt (ih rest)

theorem encode_lt_encode_iff {s t : String} : encode s < encode t ↔ s < t := by
  have forth : ∀ {s t : String}, s < t → encode s < encode t := by
    intro s t below
    rw [encode_eq_flatMap, encode_eq_flatMap]
    exact flatMap_encodeChar_lt below
  refine ⟨fun bytes => ?_, forth⟩
  by_cases below : s < t
  · exact below
  · by_cases above : t < s
    · exact absurd (List.lt_trans bytes (forth above)) (List.lt_irrefl _)
    · cases String.le_antisymm above below
      exact absurd bytes (List.lt_irrefl _)

/-- The order in which maps keep texts is the order of their bytes. -/
theorem compare_eq_lt_iff {s t : String} : compare s t = .lt ↔ encode s < encode t := by
  rw [encode_lt_encode_iff]
  exact compareOfLessAndEq_eq_lt

end PullSecrets.Text
