namespace FieldRules.Text

/-- The characters with the Unicode property `White_Space`. Zero-width spaces, the byte order mark
    and the information separators `U+001C` to `U+001F` do not have it. -/
def isBlank (c : Char) : Bool :=
  let n := c.toNat
  (0x9 ≤ n && n ≤ 0xD) || n == 0x20 || n == 0x85 || n == 0xA0 || n == 0x1680 ||
    (0x2000 ≤ n && n ≤ 0x200A) || n == 0x2028 || n == 0x2029 || n == 0x202F || n == 0x205F ||
    n == 0x3000

/-- A text without its leading and trailing blanks. -/
def trimChars (cs : List Char) : List Char :=
  ((cs.dropWhile isBlank).reverse.dropWhile isBlank).reverse

theorem length_trimChars_le (cs : List Char) : (trimChars cs).length ≤ cs.length := by
  have hfront := (List.dropWhile_sublist isBlank (l := cs)).length_le
  have hback := (List.dropWhile_sublist isBlank (l := (cs.dropWhile isBlank).reverse)).length_le
  simp only [trimChars, List.length_reverse] at *
  omega

def trim (s : String) : String :=
  String.ofList (trimChars s.toList)

end FieldRules.Text
