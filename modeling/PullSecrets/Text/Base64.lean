import PullSecrets.Text.Utf8

/-!
# Base 64

Three bytes become four characters of the standard alphabet; a last group of one or two bytes is
filled up with `=`. Reading is strict: the padding must be there and the bits it stands for must be
zero. Main statement: `decode?_encode`.
-/

namespace PullSecrets.Text.Base64

def symbol (n : Nat) : Char :=
  if n < 26 then Char.ofNat (65 + n)
  else if n < 52 then Char.ofNat (97 + (n - 26))
  else if n < 62 then Char.ofNat (48 + (n - 52))
  else if n = 62 then '+'
  else '/'

/-- The six bits that a character stands for. -/
def sextet? (c : Char) : Option Nat :=
  let n := c.toNat
  if 65 ≤ n ∧ n ≤ 90 then some (n - 65)
  else if 97 ≤ n ∧ n ≤ 122 then some (n - 97 + 26)
  else if 48 ≤ n ∧ n ≤ 57 then some (n - 48 + 52)
  else if c = '+' then some 62
  else if c = '/' then some 63
  else none

/-- The four characters that three bytes become. -/
def group (a b c : UInt8) : List Char :=
  [symbol (a.toNat / 4), symbol (a.toNat % 4 * 16 + b.toNat / 16),
    symbol (b.toNat % 16 * 4 + c.toNat / 64), symbol (c.toNat % 64)]

/-- The characters for some bytes, after others gathered in reverse. -/
def encodeOnto (before : List Char) : Bytes → List Char
  | [] => before.reverse
  | [a] => before.reverse ++ [symbol (a.toNat / 4), symbol (a.toNat % 4 * 16), '=', '=']
  | [a, b] =>
    before.reverse ++
      [symbol (a.toNat / 4), symbol (a.toNat % 4 * 16 + b.toNat / 16), symbol (b.toNat % 16 * 4),
        '=']
  | a :: b :: c :: rest => encodeOnto ((group a b c).reverse ++ before) rest

def encode (bytes : Bytes) : List Char := encodeOnto [] bytes

/-- The one byte of a group that ends in two fillers. -/
def oneByte? (p q : Char) : Option Bytes := do
  let x ← sextet? p
  let y ← sextet? q
  if y % 16 = 0 then some [UInt8.ofNat (x * 4 + y / 16)] else none

/-- The two bytes of a group that ends in one filler. -/
def twoBytes? (p q r : Char) : Option Bytes := do
  let x ← sextet? p
  let y ← sextet? q
  let z ← sextet? r
  if z % 4 = 0 then some [UInt8.ofNat (x * 4 + y / 16), UInt8.ofNat (y % 16 * 16 + z / 4)] else none

def threeBytes? (p q r s : Char) : Option Bytes := do
  let x ← sextet? p
  let y ← sextet? q
  let z ← sextet? r
  let w ← sextet? s
  some [UInt8.ofNat (x * 4 + y / 16), UInt8.ofNat (y % 16 * 16 + z / 4), UInt8.ofNat (z % 4 * 64 + w)]

/-- The bytes that the characters stand for, gathered in reverse. -/
def decodeOnto (before : Bytes) : List Char → Option Bytes
  | [] => some before.reverse
  | [p, q, '=', '='] => (oneByte? p q).map fun last => before.reverse ++ last
  | [p, q, r, '='] => (twoBytes? p q r).map fun last => before.reverse ++ last
  | p :: q :: r :: s :: rest =>
    match threeBytes? p q r s with
    | some group => decodeOnto (group.reverse ++ before) rest
    | none => none
  | _ => none

def decode? (cs : List Char) : Option Bytes := decodeOnto [] cs

theorem sextet?_symbol {n : Nat} (h : n < 64) : sextet? (symbol n) = some n := by
  have all : ∀ k < 64, sextet? (symbol k) = some k := by decide
  exact all n h

theorem symbol_ne_filler {n : Nat} (h : n < 64) : symbol n ≠ '=' := by
  have all : ∀ k < 64, symbol k ≠ '=' := by decide
  exact all n h

theorem decodeOnto_group {before group rest p q r s} (hp : threeBytes? p q r s = some group)
    (hr : s ≠ '=') :
    decodeOnto before (p :: q :: r :: s :: rest) = decodeOnto (group.reverse ++ before) rest := by
  rw [decodeOnto]
  · simp [hp]
  · intro _ hs; exact absurd hs hr
  · intro hs; exact absurd hs hr

theorem encodeOnto_eq (before : List Char) : (bytes : Bytes) →
    encodeOnto before bytes = before.reverse ++ encode bytes
  | [] => by simp [encode, encodeOnto]
  | [_] => by simp [encode, encodeOnto]
  | [_, _] => by simp [encode, encodeOnto]
  | a :: b :: c :: rest => by
    rw [encode, encodeOnto, encodeOnto, encodeOnto_eq _ rest, encodeOnto_eq _ rest]
    simp

theorem encode_cons (a b c : UInt8) (rest : Bytes) :
    encode (a :: b :: c :: rest) = group a b c ++ encode rest := by
  rw [encode, encodeOnto, encodeOnto_eq]
  simp

theorem oneByte?_symbols (a : UInt8) :
    oneByte? (symbol (a.toNat / 4)) (symbol (a.toNat % 4 * 16)) = some [a] := by
  have ha := a.toNat_lt
  simp only [oneByte?]
  rw [sextet?_symbol (by omega), sextet?_symbol (by omega)]
  simp only [Option.bind_eq_bind, Option.bind_some]
  have e : a.toNat / 4 * 4 + a.toNat % 4 * 16 / 16 = a.toNat := by omega
  rw [if_pos (by omega), e, UInt8.ofNat_toNat]

theorem twoBytes?_symbols (a b : UInt8) :
    twoBytes? (symbol (a.toNat / 4)) (symbol (a.toNat % 4 * 16 + b.toNat / 16))
      (symbol (b.toNat % 16 * 4)) = some [a, b] := by
  have ha := a.toNat_lt
  have hb := b.toNat_lt
  simp only [twoBytes?]
  rw [sextet?_symbol (by omega), sextet?_symbol (by omega), sextet?_symbol (by omega)]
  simp only [Option.bind_eq_bind, Option.bind_some]
  have e : a.toNat / 4 * 4 + (a.toNat % 4 * 16 + b.toNat / 16) / 16 = a.toNat := by omega
  have f : (a.toNat % 4 * 16 + b.toNat / 16) % 16 * 16 + b.toNat % 16 * 4 / 4 = b.toNat := by omega
  rw [if_pos (by omega), e, f, UInt8.ofNat_toNat, UInt8.ofNat_toNat]

theorem threeBytes?_symbols (a b c : UInt8) :
    threeBytes? (symbol (a.toNat / 4)) (symbol (a.toNat % 4 * 16 + b.toNat / 16))
      (symbol (b.toNat % 16 * 4 + c.toNat / 64)) (symbol (c.toNat % 64)) = some [a, b, c] := by
  have ha := a.toNat_lt
  have hb := b.toNat_lt
  have hc := c.toNat_lt
  simp only [threeBytes?]
  rw [sextet?_symbol (by omega), sextet?_symbol (by omega), sextet?_symbol (by omega),
    sextet?_symbol (by omega)]
  simp only [Option.bind_eq_bind, Option.bind_some]
  have e : a.toNat / 4 * 4 + (a.toNat % 4 * 16 + b.toNat / 16) / 16 = a.toNat := by omega
  have f : (a.toNat % 4 * 16 + b.toNat / 16) % 16 * 16 + (b.toNat % 16 * 4 + c.toNat / 64) / 4
      = b.toNat := by omega
  have g : (b.toNat % 16 * 4 + c.toNat / 64) % 4 * 64 + c.toNat % 64 = c.toNat := by omega
  rw [e, f, g, UInt8.ofNat_toNat, UInt8.ofNat_toNat, UInt8.ofNat_toNat]

theorem decodeOnto_encode (before : Bytes) : (bytes : Bytes) →
    decodeOnto before (encode bytes) = some (before.reverse ++ bytes)
  | [] => by simp [encode, encodeOnto, decodeOnto]
  | [a] => by simp [encode, encodeOnto, decodeOnto, oneByte?_symbols]
  | [a, b] => by
    have hb := b.toNat_lt
    have hr : symbol (b.toNat % 16 * 4) ≠ '=' := symbol_ne_filler (by omega)
    rw [encode, encodeOnto, List.reverse_nil, List.nil_append, decodeOnto]
    · simp [twoBytes?_symbols]
    · intro h; exact absurd h hr
  | a :: b :: c :: rest => by
    have hc := c.toNat_lt
    rw [encode_cons, group, List.cons_append, List.cons_append, List.cons_append, List.cons_append,
      decodeOnto_group (threeBytes?_symbols a b c) (symbol_ne_filler (by omega)), List.nil_append,
      decodeOnto_encode]
    simp

theorem decode?_encode (bytes : Bytes) : decode? (encode bytes) = some bytes := by
  simp [decode?, decodeOnto_encode]

end PullSecrets.Text.Base64
