namespace FieldRules.Text.Base64

/-- The character for six bits. -/
def sextetChar (n : Nat) : Char :=
  if n < 26 then Char.ofNat (65 + n)
  else if n < 52 then Char.ofNat (71 + n)
  else if n < 62 then Char.ofNat (n - 4)
  else if n = 62 then '+'
  else '/'

/-- The six bits that a character of the alphabet stands for. -/
def sextet? (c : Char) : Option Nat :=
  if 'A' ≤ c ∧ c ≤ 'Z' then some (c.toNat - 65)
  else if 'a' ≤ c ∧ c ≤ 'z' then some (c.toNat - 71)
  else if '0' ≤ c ∧ c ≤ '9' then some (c.toNat + 4)
  else if c = '+' then some 62
  else if c = '/' then some 63
  else none

/-- Three bytes become four characters; one or two last bytes are filled up with zero bits and the
    places left over with `=`. -/
def encodeBytes : List UInt8 → List Char
  | [] => []
  | [a] => [sextetChar (a.toNat / 4), sextetChar (a.toNat % 4 * 16), '=', '=']
  | [a, b] =>
    [sextetChar (a.toNat / 4), sextetChar (a.toNat % 4 * 16 + b.toNat / 16),
      sextetChar (b.toNat % 16 * 4), '=']
  | a :: b :: c :: rest =>
    sextetChar (a.toNat / 4) :: sextetChar (a.toNat % 4 * 16 + b.toNat / 16) ::
      sextetChar (b.toNat % 16 * 4 + c.toNat / 64) :: sextetChar (c.toNat % 64) ::
      encodeBytes rest

/-- Accepts exactly what `encodeBytes` writes: the padding is required, and the bits filled in
    before it are zero. -/
def decodeBytes : List Char → Option (List UInt8)
  | [] => some []
  | [a, b, '=', '='] => do
    let x ← sextet? a
    let y ← sextet? b
    if y % 16 = 0 then some [UInt8.ofNat (x * 4 + y / 16)] else none
  | [a, b, c, '='] => do
    let x ← sextet? a
    let y ← sextet? b
    let z ← sextet? c
    if z % 4 = 0 then
      some [UInt8.ofNat (x * 4 + y / 16), UInt8.ofNat (y % 16 * 16 + z / 4)]
    else none
  | a :: b :: c :: d :: rest => do
    let x ← sextet? a
    let y ← sextet? b
    let z ← sextet? c
    let w ← sextet? d
    let bytes ← decodeBytes rest
    some (UInt8.ofNat (x * 4 + y / 16) :: UInt8.ofNat (y % 16 * 16 + z / 4) ::
      UInt8.ofNat (z % 4 * 64 + w) :: bytes)
  | _ => none

/-- The base64 form of the UTF-8 bytes of a text. -/
def encode (s : String) : String :=
  String.ofList (encodeBytes s.toUTF8.data.toList)

/-- The text whose UTF-8 bytes have the given base64 form, if there is one. -/
def decode? (s : String) : Option String := do
  let bytes ← decodeBytes s.toList
  String.fromUTF8? ⟨bytes.toArray⟩

end FieldRules.Text.Base64
