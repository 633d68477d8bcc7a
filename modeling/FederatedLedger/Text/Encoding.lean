/-!
# Bytes and characters as plain text

Bytes in hexadecimal (two lower-case digits for each, the high half first) and in base 64 (three bytes to a group of
four, equal signs fill the last group); and characters as messages for people show them, with a backslash before what
would end a quote and a code for what cannot be seen. `Hex.toBytes?_ofBytes` says that what was written in hexadecimal
reads back.
-/

namespace FederatedLedger

/-- A finite sequence of bytes. -/
abbrev Bytes := List UInt8

/-- The bytes of a text in UTF-8. -/
def utf8 (s : String) : Bytes :=
  s.toUTF8.data.toList

theorem utf8_injective {s t : String} (h : utf8 s = utf8 t) : s = t :=
  String.toByteArray_inj.1 (ByteArray.ext (Array.toList_inj.1 h))

/-- What holds of the first 128 characters holds of every ASCII character. -/
theorem forall_ascii {P : Char → Prop} (h : ∀ n < 128, P (Char.ofNat n)) (c : Char) (hc : c.toNat < 128) : P c := by
  have := h c.toNat hc
  rwa [Char.ofNat_toNat] at this

namespace Hex

/-- The lower-case hexadecimal digit of a number below 16. -/
def digit (n : Nat) : Char :=
  if n < 10 then Char.ofNat (48 + n) else Char.ofNat (87 + n)

/-- The upper-case hexadecimal digit of a number below 16. -/
def upperDigit (n : Nat) : Char :=
  if n < 10 then Char.ofNat (48 + n) else Char.ofNat (55 + n)

/-- The value of a hexadecimal digit of either case. -/
def digitValue? (c : Char) : Option Nat :=
  if '0' ≤ c ∧ c ≤ '9' then some (c.toNat - 48)
  else if 'a' ≤ c ∧ c ≤ 'f' then some (c.toNat - 87)
  else if 'A' ≤ c ∧ c ≤ 'F' then some (c.toNat - 55)
  else none

/-- A byte as two lower-case digits. -/
def ofByte (b : UInt8) : List Char :=
  [digit (b.toNat / 16), digit (b.toNat % 16)]

/-- Bytes as lower-case digits, two each. -/
def ofBytes (bs : Bytes) : String :=
  String.ofList (bs.flatMap ofByte)

/-- The digits of a number without leading zeros, at least one. -/
def ofNat (n : Nat) : List Char :=
  (Nat.toDigits 16 n)

/-- Reads pairs of digits as bytes; `none` for a character that is no digit or an odd number of them. -/
def toBytes? : List Char → Option Bytes
  | [] => some []
  | [_] => none
  | a :: b :: r => do
    let hi ← digitValue? a
    let lo ← digitValue? b
    let rest ← toBytes? r
    return UInt8.ofNat (16 * hi + lo) :: rest

theorem digitValue?_digit : ∀ {n : Nat}, n < 16 → digitValue? (digit n) = some n := by
  decide

/-- Only ASCII characters are digits. -/
theorem toNat_lt_of_isSome_digitValue? {c : Char} (h : (digitValue? c).isSome = true) : c.toNat < 128 := by
  have hle {d : Char} (hd : d.toNat < 128) (hcd : c ≤ d) : c.toNat < 128 := Nat.lt_of_le_of_lt hcd hd
  rw [digitValue?] at h
  split at h
  · rename_i hrange
    exact hle (by decide) hrange.2
  · split at h
    · rename_i hrange
      exact hle (by decide) hrange.2
    · split at h
      · rename_i hrange
        exact hle (by decide) hrange.2
      · cases h

/-- A written byte reads back. -/
theorem toBytes?_ofByte (b : UInt8) (r : List Char) :
    toBytes? (ofByte b ++ r) = (toBytes? r).map (b :: ·) := by
  have hi : b.toNat / 16 < 16 := by have := b.toNat_lt; omega
  have lo : b.toNat % 16 < 16 := Nat.mod_lt _ (by decide)
  have hb : 16 * (b.toNat / 16) + b.toNat % 16 = b.toNat := Nat.div_add_mod _ _
  simp only [ofByte, List.cons_append, List.nil_append, toBytes?, digitValue?_digit hi,
    digitValue?_digit lo, Option.bind_eq_bind, Option.bind_some, hb, UInt8.ofNat_toNat]
  cases toBytes? r <;> rfl

theorem toBytes?_ofBytes (bs : Bytes) : toBytes? (ofBytes bs).toList = some bs := by
  simp only [ofBytes, String.toList_ofList]
  induction bs with
  | nil => rfl
  | cons b r ih => rw [List.flatMap_cons, toBytes?_ofByte, ih]; rfl

theorem ofBytes_injective {as bs : Bytes} (h : ofBytes as = ofBytes bs) : as = bs := by
  have := toBytes?_ofBytes as
  rw [h, toBytes?_ofBytes] at this
  exact (Option.some.inj this).symm

theorem length_ofBytes (bs : Bytes) : (ofBytes bs).length = 2 * bs.length := by
  rw [ofBytes, String.length_ofList]
  induction bs with
  | nil => rfl
  | cons b bs ih => simp [ofByte, ih]; omega

end Hex

/-! ## Base 64 -/

namespace Base64

/-- The character for six bits. -/
def digit (n : Nat) : Char :=
  if n < 26 then Char.ofNat (65 + n)
  else if n < 52 then Char.ofNat (97 + (n - 26))
  else if n < 62 then Char.ofNat (48 + (n - 52))
  else if n = 62 then '+'
  else '/'

/-- The four characters for 24 bits. -/
def group (n : Nat) : List Char :=
  [digit (n / 262144 % 64), digit (n / 4096 % 64), digit (n / 64 % 64), digit (n % 64)]

/-- Bytes as text. -/
def encode : Bytes → List Char
  | [] => []
  | [a] => (group (a.toNat * 65536)).take 2 ++ ['=', '=']
  | [a, b] => (group (a.toNat * 65536 + b.toNat * 256)).take 3 ++ ['=']
  | a :: b :: c :: rest => group (a.toNat * 65536 + b.toNat * 256 + c.toNat) ++ encode rest

end Base64

/-! ## Quotes -/

namespace Quoted

/-- The characters up to U+00FF that show nothing: controls, the no-break space and the soft hyphen. -/
def isInvisible (c : Char) : Bool :=
  let n := c.toNat
  n < 0x20 || (0x7F ≤ n && n ≤ 0xA0) || n == 0xAD

/-- A character inside quotes that `quote` closes. -/
def escape (quote c : Char) : List Char :=
  if c = quote ∨ c = '\\' then ['\\', c]
  else if c = '\x00' then ['\\', '0']
  else if c = '\t' then ['\\', 't']
  else if c = '\n' then ['\\', 'n']
  else if c = '\r' then ['\\', 'r']
  else if isInvisible c then '\\' :: 'u' :: '\x7b' :: (Hex.ofNat c.toNat ++ ['\x7d'])
  else [c]

/-- A character in single quotes. -/
def char (c : Char) : String := String.ofList ('\'' :: (escape '\'' c ++ ['\'']))

/-- A text in double quotes. -/
def text (s : String) : String :=
  String.ofList ('"' :: (s.toList.flatMap (escape '"') ++ ['"']))

/-- Texts in double quotes, as a list in brackets. -/
def texts (ss : List String) : String :=
  "[" ++ String.intercalate ", " (ss.map text) ++ "]"

end Quoted

end FederatedLedger
