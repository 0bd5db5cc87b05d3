import Mathlib.Data.List.TakeDrop
import PullSecrets.Json.Printer
import PullSecrets.Json.Reader

/-! # Numbers and strings read back

What is written of an integer or of a string is read back as it was, whatever follows that could not
be part of it. Fractions are left out: of the floating-point numbers only the negative zero, which
is what the integer literal `-0` stands for, comes in here.
-/

namespace PullSecrets

namespace Literal

theorem le_foldl (n : Nat) (cs : List Char) :
    n ≤ cs.foldl (fun n c => n * 10 + digitValue c) n := by
  induction cs generalizing n with
  | nil => exact Nat.le_refl n
  | cons c cs ih =>
      have step : n ≤ n * 10 + digitValue c := by omega
      exact Nat.le_trans step (ih _)

/-- A significand that fits takes all digits. -/
theorem takeWhole_eq {n : Nat} {cs : List Char}
    (fits : cs.foldl (fun n c => n * 10 + digitValue c) n < significandBound) :
    takeWhole n cs = (cs.foldl (fun n c => n * 10 + digitValue c) n, 0) := by
  induction cs generalizing n with
  | nil => rfl
  | cons c cs ih =>
      have next : n * 10 + digitValue c < significandBound :=
        Nat.lt_of_le_of_lt (le_foldl _ cs) fits
      simp only [takeWhole, next, if_true, List.foldl_cons]
      exact ih fits

theorem foldl_toDigits (n : Nat) :
    (Nat.toDigits 10 n).foldl (fun n c => n * 10 + digitValue c) 0 = n := by
  have same : (fun n c => n * 10 + digitValue c) = fun n c => 10 * n + (c.toNat - '0'.toNat) := by
    funext n c
    rw [Nat.mul_comm]
    rfl
  rw [same, ← Nat.ofDigitChars_eq_foldl]
  exact Nat.ofDigitChars_ten_toDigits

theorem toDigits_no_leading_zero {n : Nat} (positive : 0 < n) :
    (Nat.toDigits 10 n).head? ≠ some '0' := by
  induction n using Nat.strongRecOn with
  | ind n ih =>
      by_cases small : n < 10
      · have digits : ∀ k < 10, 0 < k → Nat.digitChar k ≠ '0' := by decide
        rw [Nat.toDigits_of_lt_base small]
        simpa using digits n small positive
      · have shorter := ih (n / 10) (by omega) (by omega)
        obtain ⟨c, cs, digits⟩ :=
          List.exists_cons_of_ne_nil (Nat.toDigits_ne_nil (b := 10) (n := n / 10))
        rw [Nat.toDigits_of_base_le (by decide) (by omega), digits]
        rwa [digits] at shorter

end Literal

namespace Source

/-- What follows a number literal cannot be part of it. -/
def Ends (rest : List Char) : Prop :=
  ∀ c ∈ rest.head?, c.isDigit = false ∧ c ≠ '.' ∧ c ≠ 'e' ∧ c ≠ 'E'

theorem span_digits {digits rest : List Char} (all : ∀ c ∈ digits, c.isDigit = true)
    (ends : ∀ c ∈ rest.head?, c.isDigit = false) :
    (digits ++ rest).span Char.isDigit = (digits, rest) := by
  rw [List.span_eq_takeWhile_dropWhile, List.takeWhile_append_of_pos all,
    List.dropWhile_append_of_pos all]
  cases rest with
  | nil => simp
  | cons c rest => simp [ends c rfl]

theorem readWhole_toDigits (n : Nat) {rest : List Char}
    (ends : ∀ c ∈ rest.head?, c.isDigit = false) :
    readWhole (Nat.toDigits 10 n ++ rest) = some (Nat.toDigits 10 n, rest) := by
  unfold readWhole
  rw [span_digits (fun c => Nat.isDigit_of_mem_toDigits (by decide) (by decide)) ends]
  cases digits : Nat.toDigits 10 n with
  | nil => exact absurd digits Nat.toDigits_ne_nil
  | cons c cs =>
      cases cs with
      | nil => simp
      | cons d ds =>
          have nonzero : c ≠ '0' := by
            rintro rfl
            cases n with
            | zero => simp at digits
            | succ n =>
                exact Literal.toDigits_no_leading_zero (Nat.succ_pos n) (by rw [digits]; rfl)
          split
          · simp_all
          · simp_all
          · simp_all

theorem readFraction_of_ends {rest : List Char} (ends : Ends rest) :
    readFraction rest = some (none, rest) := by
  unfold readFraction
  split
  · exact absurd rfl (ends '.' rfl).2.1
  · rfl

theorem readExponent_of_ends {rest : List Char} (ends : Ends rest) :
    readExponent rest = some (none, rest) := by
  unfold readExponent
  split
  · exact absurd rfl (ends 'e' rfl).2.2.1
  · exact absurd rfl (ends 'E' rfl).2.2.2
  · rfl

/-- What comes after the digits of an integer is neither a fraction nor an exponent. -/
theorem readUnsigned_toDigits (negative : Bool) (n : Nat) {rest : List Char} (ends : Ends rest) :
    readUnsigned negative (Nat.toDigits 10 n ++ rest) =
      some (⟨negative, Nat.toDigits 10 n, none, none⟩, rest) := by
  unfold readUnsigned
  rw [readWhole_toDigits n fun c first => (ends c first).1]
  simp only [Option.bind_eq_bind, Option.bind_some, readFraction_of_ends ends,
    readExponent_of_ends ends]

end Source

namespace Number

/-- The number is an integer: it is written without a fraction, as `-0` is too. -/
def Integral : Number → Prop
  | .int _ => True
  | .float x => x = ⟨true, .zero⟩

/-- The number is an integer of 64 bits, signed or not, unless it is floating point. -/
def Fits : Number → Prop
  | .int n => Int64.minValue.toInt ≤ n ∧ n < UInt64.size
  | .float _ => True

/-- The literal that an integer is written as. -/
def literal : Number → Literal
  | .int n => .ofInt n
  | .float x => ⟨x.negative, ['0'], some ['0'], none⟩

/-- The characters that a number may start with. -/
def Starts (c : Char) : Prop := c = '-' ∨ c.isDigit = true

theorem toDigits_starts (n : Nat) :
    ∃ c cs, Nat.toDigits 10 n = c :: cs ∧ c.isDigit = true := by
  obtain ⟨c, cs, digits⟩ := List.exists_cons_of_ne_nil (Nat.toDigits_ne_nil (b := 10) (n := n))
  refine ⟨c, cs, digits, Nat.isDigit_of_mem_toDigits (b := 10) (n := n) (by decide) (by decide) ?_⟩
  rw [digits]
  exact .head _

theorem readLiteral_unsigned {c : Char} {cs : List Char} (digit : c.isDigit = true) :
    Source.readLiteral (c :: cs) = Source.readUnsigned false (c :: cs) := by
  have unsigned : c ≠ '-' := by
    rintro rfl
    exact absurd digit (by decide)
  unfold Source.readLiteral
  split
  · next same => exact absurd (List.cons.inj same).1 unsigned
  · rfl

theorem readLiteral_negativeZero {rest : List Char} (ends : Source.Ends rest) :
    Source.readLiteral ('-' :: '0' :: '.' :: '0' :: rest) =
      some (⟨true, ['0'], some ['0'], none⟩, rest) := by
  have whole : Source.readWhole ('0' :: '.' :: '0' :: rest) = some (['0'], '.' :: '0' :: rest) :=
    Source.readWhole_toDigits 0 fun c first => by cases first; rfl
  have fraction : Source.readFraction ('.' :: '0' :: rest) = some (some ['0'], rest) := by
    have all : ∀ c ∈ ['0'], c.isDigit = true := List.forall_mem_singleton.2 rfl
    have digits : ('0' :: rest).span Char.isDigit = (['0'], rest) :=
      Source.span_digits all fun c first => (ends c first).1
    simp only [Source.readFraction, digits]
  simp only [Source.readLiteral, Source.readUnsigned, Option.bind_eq_bind, whole, Option.bind_some,
    fraction, Source.readExponent_of_ends ends]

theorem readLiteral_render {n : Number} (integral : n.Integral) {rest : List Char}
    (ends : Source.Ends rest) :
    Source.readLiteral (n.render ++ rest) = some (n.literal, rest) := by
  cases n with
  | float x =>
      obtain rfl : x = ⟨true, .zero⟩ := integral
      exact readLiteral_negativeZero ends
  | int n =>
      unfold render
      by_cases negative : n < 0
      · simp only [negative, if_true, List.cons_append, Source.readLiteral,
          Source.readUnsigned_toDigits true _ ends, literal, Literal.ofInt, decide_true]
      · simp only [negative, if_false, literal, Literal.ofInt, decide_false]
        obtain ⟨c, cs, digits, digit⟩ := toDigits_starts n.natAbs
        have unsigned := Source.readUnsigned_toDigits false n.natAbs ends
        rw [digits] at unsigned ⊢
        rwa [List.cons_append, readLiteral_unsigned digit]

theorem render_starts {n : Number} (integral : n.Integral) :
    ∃ c cs, n.render = c :: cs ∧ Starts c := by
  cases n with
  | float x =>
      obtain rfl : x = ⟨true, .zero⟩ := integral
      exact ⟨'-', _, rfl, .inl rfl⟩
  | int n =>
      simp only [render]
      by_cases negative : n < 0
      · exact ⟨'-', _, if_pos negative, .inl rfl⟩
      · obtain ⟨c, cs, digits, digit⟩ := toDigits_starts n.natAbs
        exact ⟨c, cs, (if_neg negative).trans digits, .inr digit⟩

theorem int?_ofInt {n : Int} (fits : (Number.int n).Fits) : (Literal.ofInt n).int? = some n := by
  obtain ⟨low, high⟩ := fits
  have least : Int64.minValue.toInt = -9223372036854775808 := by decide
  have size : (UInt64.size : Int) = 18446744073709551616 := by decide
  have whole : Literal.takeWhole 0 (Nat.toDigits 10 n.natAbs) = (n.natAbs, 0) := by
    rw [Literal.takeWhole_eq, Literal.foldl_toDigits]
    rw [Literal.foldl_toDigits, Literal.significandBound]
    omega
  unfold Literal.int? Literal.ofInt
  rw [whole]
  by_cases negative : n < 0
  · have above : n.natAbs ≠ 0 ∧ Int64.minValue.toInt ≤ -(n.natAbs : Int) := by omega
    have same : -(n.natAbs : Int) = n := by omega
    simp only [Literal.isInteger, Option.isNone_none, Bool.and_self, BEq.rfl, if_true, negative,
      decide_true, Bool.not_true, Bool.false_eq_true, if_false, above.1, ne_eq, not_false_eq_true,
      true_and, same, low]
  · have same : (n.natAbs : Int) = n := by omega
    simp only [Literal.isInteger, Option.isNone_none, Bool.and_self, BEq.rfl, if_true, negative,
      decide_false, Bool.not_false, same]

theorem value?_literal {n : Number} (integral : n.Integral) (fits : n.Fits) :
    n.literal.value? = some n := by
  cases n with
  | float x =>
      obtain rfl : x = ⟨true, .zero⟩ := integral
      decide
  | int n => simp only [literal, Literal.value?, int?_ofInt fits]

theorem takeWhole_lt {n : Nat} (cs : List Char) (fits : n < Literal.significandBound) :
    (Literal.takeWhole n cs).1 < Literal.significandBound := by
  induction cs generalizing n with
  | nil => exact fits
  | cons c cs ih =>
      simp only [Literal.takeWhole]
      split
      · next next => exact ih next
      · exact fits

theorem fits_of_int? {l : Literal} {n : Int} (read : l.int? = some n) : (Number.int n).Fits := by
  have bound := takeWhole_lt l.whole (n := 0) (by decide)
  have least : Int64.minValue.toInt = -9223372036854775808 := by decide
  unfold Literal.significandBound at bound
  unfold Literal.int? at read
  generalize Literal.takeWhole 0 l.whole = taken at read bound
  obtain ⟨k, left⟩ := taken
  simp only at read bound
  split at read
  · split at read
    · cases read
      exact ⟨by omega, by omega⟩
    · split at read
      · next within =>
          cases read
          exact ⟨within.2, by omega⟩
      · cases read
  · cases read

theorem fits_of_value? {l : Literal} {n : Number} (read : l.value? = some n) : n.Fits := by
  unfold Literal.value? at read
  split at read
  · next whole =>
      cases read
      exact fits_of_int? whole
  · obtain ⟨x, -, rfl⟩ := Option.map_eq_some_iff.1 read
    trivial

end Number

namespace Source

/-- A piece that stands for a character wherever it comes. -/
def Piece.Stands (piece : Piece) (c : Char) : Prop :=
  ∀ before rest, contentOnto before (piece :: rest) = contentOnto (c :: before) rest

theorem Piece.char_stands (c : Char) : (Piece.char c).Stands c := fun _ _ => rfl

/-- Sixteen bits below the blank are no half of a pair. -/
theorem Piece.unit_stands {c : Char} (control : c.toNat < 0x20) :
    (Piece.unit c.toNat).Stands c := by
  intro before rest
  have high : isHighHalf c.toNat = false := by simp [isHighHalf]; omega
  have low : isLowHalf c.toNat = false := by simp [isLowHalf]; omega
  have whole : contentOnto before (.unit c.toNat :: rest) =
      contentOnto (Char.ofNat c.toNat :: before) rest := by
    rcases rest with _ | ⟨_ | _, rest⟩ <;> simp [contentOnto, high, low]
  rwa [Char.ofNat_toNat] at whole

theorem unit?_control {n : Nat} (control : n < 0x20) :
    unit? '0' '0' (Json.hexDigit (n / 16)) (Json.hexDigit n) = some n := by
  have all : ∀ n < 0x20, unit? '0' '0' (Json.hexDigit (n / 16)) (Json.hexDigit n) = some n := by
    decide
  exact all n control

/-- A character is escaped by one letter, by its code, or not at all. -/
theorem escapeChar_cases (c : Char) :
    (∃ e, Json.escapeChar c = ['\\', e] ∧ shortEscape? e = some c) ∨
      (c.toNat < 0x20 ∧ Json.escapeChar c =
        ['\\', 'u', '0', '0', Json.hexDigit (c.toNat / 16), Json.hexDigit c.toNat]) ∨
      (¬ c.toNat < 0x20 ∧ c ≠ '"' ∧ c ≠ '\\' ∧ Json.escapeChar c = [c]) := by
  by_cases named : c ∈ ['"', '\\', '\n', '\r', '\t', '\x08', '\x0c']
  · simp only [List.mem_cons, List.not_mem_nil, or_false] at named
    rcases named with rfl | rfl | rfl | rfl | rfl | rfl | rfl <;> exact .inl ⟨_, rfl, rfl⟩
  · simp only [List.mem_cons, List.not_mem_nil, or_false, not_or] at named
    obtain ⟨quote, slash, newline, feed, tab, back, form⟩ := named
    unfold Json.escapeChar
    simp only [quote, slash, newline, feed, tab, back, form, if_false]
    by_cases control : c.toNat < 0x20
    · exact .inr (.inl ⟨control, if_pos control⟩)
    · exact .inr (.inr ⟨control, quote, slash, if_neg control⟩)

/-- One character of a string is read back as a piece that stands for it. -/
theorem readString_escapeChar (c : Char) :
    ∃ piece : Piece, piece.Stands c ∧ ∀ before rest,
      readString before (Json.escapeChar c ++ rest) = readString (piece :: before) rest := by
  rcases escapeChar_cases c with
    ⟨e, written, named⟩ | ⟨control, written⟩ | ⟨plain, quote, slash, written⟩
  · refine ⟨.char c, Piece.char_stands c, fun before rest => ?_⟩
    have letter : e ≠ 'u' := by
      rintro rfl
      cases named
    rw [written]
    simp [readString, letter, named]
  · refine ⟨.unit c.toNat, Piece.unit_stands control, fun before rest => ?_⟩
    rw [written]
    simp only [List.cons_append, List.nil_append, readString, unit?_control control]
  · refine ⟨.char c, Piece.char_stands c, fun before rest => ?_⟩
    rw [written]
    simp [readString, plain, slash]

/-- A string is read back up to its closing quote, whatever characters it has. -/
theorem readString_escaped (cs : List Char) :
    ∃ pieces, (∀ before, contentOnto before pieces = some (before.reverse ++ cs)) ∧
      ∀ before rest, readString before (cs.flatMap Json.escapeChar ++ '"' :: rest) =
        some (before.reverse ++ pieces, rest) := by
  induction cs with
  | nil => exact ⟨[], fun before => by simp [contentOnto], fun before rest => by simp [readString]⟩
  | cons c cs ih =>
      obtain ⟨pieces, content, read⟩ := ih
      obtain ⟨piece, stands, first⟩ := readString_escapeChar c
      refine ⟨piece :: pieces, fun before => ?_, fun before rest => ?_⟩
      · rw [stands, content]
        simp
      · rw [List.flatMap_cons, List.append_assoc, first, read]
        simp

theorem readString_renderString (s : String) (rest : List Char) :
    ∃ pieces, content? pieces = some s ∧
      readString [] (s.toList.flatMap Json.escapeChar ++ '"' :: rest) = some (pieces, rest) := by
  obtain ⟨pieces, content, read⟩ := readString_escaped s.toList
  refine ⟨pieces, ?_, read [] rest⟩
  simp [content?, content]

end Source

end PullSecrets
