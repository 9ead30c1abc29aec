import FieldRules.Proofs.Text.Numeral
import FieldRules.Text.Base64

namespace FieldRules.Text.Base64

section

variable {c : Char} {n x y z w : Nat} {bytes : List UInt8} {cs rest : List Char}

theorem sextet?_sextetChar (hn : n < 64) : sextet? (sextetChar n) = some n := by
  have hall : ∀ n < 64, sextet? (sextetChar n) = some n := by decide
  exact hall n hn

theorem toNat_bounds {first last : Char} (hc : first ≤ c ∧ c ≤ last) :
    first.toNat ≤ c.toNat ∧ c.toNat ≤ last.toNat := hc

/-- The alphabet has one character for each six bits. -/
theorem sextet?_eq_some_iff : sextet? c = some n ↔ n < 64 ∧ c = sextetChar n := by
  constructor
  · intro hc
    have hchar : ∀ k, k = c.toNat → c = Char.ofNat k := by
      rintro _ rfl
      exact (Char.ofNat_toNat c).symm
    unfold sextet? at hc
    unfold sextetChar
    split at hc
    · next hupper =>
      have hbounds : 65 ≤ c.toNat ∧ c.toNat ≤ 90 := toNat_bounds hupper
      cases hc
      rw [if_pos (by omega)]
      exact ⟨by omega, hchar _ (by omega)⟩
    · split at hc
      · next hlower =>
        have hbounds : 97 ≤ c.toNat ∧ c.toNat ≤ 122 := toNat_bounds hlower
        cases hc
        rw [if_neg (by omega), if_pos (by omega)]
        exact ⟨by omega, hchar _ (by omega)⟩
      · split at hc
        · next hdigit =>
          have hbounds : 48 ≤ c.toNat ∧ c.toNat ≤ 57 := toNat_bounds hdigit
          cases hc
          rw [if_neg (by omega), if_neg (by omega), if_pos (by omega)]
          exact ⟨by omega, hchar _ (by omega)⟩
        · split at hc
          · next hplus =>
            cases hc
            exact ⟨by decide, hplus⟩
          · split at hc
            · next hslash =>
              cases hc
              exact ⟨by decide, hslash⟩
            · cases hc
  · rintro ⟨hn, rfl⟩
    exact sextet?_sextetChar hn

example : (List.range 64).map sextetChar =
    "ABCDEFGHIJKLMNOPQRSTUVWXYZabcdefghijklmnopqrstuvwxyz0123456789+/".toList := by decide

theorem sextetChar_ne_pad (hn : n < 64) : sextetChar n ≠ '=' := by
  intro hpad
  have hnone : sextet? '=' = none := by decide
  rw [← hpad, sextet?_sextetChar hn] at hnone
  cases hnone

theorem isBlank_sextetChar (hn : n < 64) : isBlank (sextetChar n) = false := by
  have hall : ∀ n < 64, isBlank (sextetChar n) = false := by decide
  exact hall n hn

/-! What the decoder makes of the last characters and of four characters before them, by the six bits
of each. -/

theorem decodeBytes_one (hx : x < 64) (hy : y < 64) :
    decodeBytes [sextetChar x, sextetChar y, '=', '='] =
      if y % 16 = 0 then some [UInt8.ofNat (x * 4 + y / 16)] else none := by
  rw [decodeBytes, sextet?_sextetChar hx, sextet?_sextetChar hy]
  rfl

theorem decodeBytes_two (hx : x < 64) (hy : y < 64) (hz : z < 64) :
    decodeBytes [sextetChar x, sextetChar y, sextetChar z, '='] =
      if z % 4 = 0 then
        some [UInt8.ofNat (x * 4 + y / 16), UInt8.ofNat (y % 16 * 16 + z / 4)]
      else none := by
  rw [decodeBytes, sextet?_sextetChar hx, sextet?_sextetChar hy, sextet?_sextetChar hz]
  · rfl
  · exact sextetChar_ne_pad hz

theorem decodeBytes_three (hx : x < 64) (hy : y < 64) (hz : z < 64) (hw : w < 64)
    (rest : List Char) :
    decodeBytes (sextetChar x :: sextetChar y :: sextetChar z :: sextetChar w :: rest) =
      (decodeBytes rest).map fun bytes =>
        UInt8.ofNat (x * 4 + y / 16) :: UInt8.ofNat (y % 16 * 16 + z / 4) ::
          UInt8.ofNat (z % 4 * 64 + w) :: bytes := by
  rw [decodeBytes, sextet?_sextetChar hx, sextet?_sextetChar hy, sextet?_sextetChar hz,
    sextet?_sextetChar hw]
  · cases decodeBytes rest <;> rfl
  · exact fun hpad => absurd hpad (sextetChar_ne_pad hz)
  · exact fun hpad => absurd hpad (sextetChar_ne_pad hw)

theorem ofNat_eq_of_toNat {a : UInt8} (hn : n = a.toNat) : UInt8.ofNat n = a := by
  rw [hn, UInt8.ofNat_toNat]

/-- What is encoded is decoded again: by induction along the groups of three bytes. -/
theorem decodeBytes_encodeBytes (bytes : List UInt8) :
    decodeBytes (encodeBytes bytes) = some bytes := by
  fun_induction encodeBytes bytes with
  | case1 => rfl
  | case2 a =>
    have ha : a.toNat < 256 := a.toNat_lt
    rw [decodeBytes_one (by omega) (by omega), if_pos (by omega),
      ofNat_eq_of_toNat (a := a) (by omega)]
  | case3 a b =>
    have ha : a.toNat < 256 := a.toNat_lt
    have hb : b.toNat < 256 := b.toNat_lt
    rw [decodeBytes_two (by omega) (by omega) (by omega), if_pos (by omega),
      ofNat_eq_of_toNat (a := a) (by omega), ofNat_eq_of_toNat (a := b) (by omega)]
  | case4 a b c rest ih =>
    have ha : a.toNat < 256 := a.toNat_lt
    have hb : b.toNat < 256 := b.toNat_lt
    have hc : c.toNat < 256 := c.toNat_lt
    rw [decodeBytes_three (by omega) (by omega) (by omega) (by omega), ih, Option.map_some,
      ofNat_eq_of_toNat (a := a) (by omega), ofNat_eq_of_toNat (a := b) (by omega),
      ofNat_eq_of_toNat (a := c) (by omega)]

theorem toNat_ofNat_of_lt (hn : n < 256) : (UInt8.ofNat n).toNat = n := by
  rw [UInt8.toNat_ofNat']
  exact Nat.mod_eq_of_lt hn

/-! What the encoder makes of the bytes of one group, by the six bits that they are made of. -/

theorem encodeBytes_one (hx : x < 64) (hy : y < 64) (hzero : y % 16 = 0) :
    encodeBytes [UInt8.ofNat (x * 4 + y / 16)] = [sextetChar x, sextetChar y, '=', '='] := by
  have hfirst : (x * 4 + y / 16) / 4 = x := by omega
  have hsecond : (x * 4 + y / 16) % 4 * 16 = y := by omega
  rw [encodeBytes, toNat_ofNat_of_lt (by omega), hfirst, hsecond]

theorem encodeBytes_two (hx : x < 64) (hy : y < 64) (hz : z < 64) (hzero : z % 4 = 0) :
    encodeBytes [UInt8.ofNat (x * 4 + y / 16), UInt8.ofNat (y % 16 * 16 + z / 4)] =
      [sextetChar x, sextetChar y, sextetChar z, '='] := by
  have hfirst : (x * 4 + y / 16) / 4 = x := by omega
  have hsecond : (x * 4 + y / 16) % 4 * 16 + (y % 16 * 16 + z / 4) / 16 = y := by omega
  have hthird : (y % 16 * 16 + z / 4) % 16 * 4 = z := by omega
  rw [encodeBytes, toNat_ofNat_of_lt (n := x * 4 + y / 16) (by omega),
    toNat_ofNat_of_lt (n := y % 16 * 16 + z / 4) (by omega), hfirst, hsecond, hthird]

theorem encodeBytes_three (hx : x < 64) (hy : y < 64) (hz : z < 64) (hw : w < 64)
    (bytes : List UInt8) :
    encodeBytes (UInt8.ofNat (x * 4 + y / 16) :: UInt8.ofNat (y % 16 * 16 + z / 4) ::
        UInt8.ofNat (z % 4 * 64 + w) :: bytes) =
      sextetChar x :: sextetChar y :: sextetChar z :: sextetChar w :: encodeBytes bytes := by
  have hfirst : (x * 4 + y / 16) / 4 = x := by omega
  have hsecond : (x * 4 + y / 16) % 4 * 16 + (y % 16 * 16 + z / 4) / 16 = y := by omega
  have hthird : (y % 16 * 16 + z / 4) % 16 * 4 + (z % 4 * 64 + w) / 64 = z := by omega
  have hfourth : (z % 4 * 64 + w) % 64 = w := by omega
  rw [encodeBytes, toNat_ofNat_of_lt (n := x * 4 + y / 16) (by omega),
    toNat_ofNat_of_lt (n := y % 16 * 16 + z / 4) (by omega),
    toNat_ofNat_of_lt (n := z % 4 * 64 + w) (by omega), hfirst, hsecond, hthird, hfourth]

/-- Only what encodes some bytes is decoded, as the bits that fill up the last group must be zero:
    by induction along the groups of four characters. -/
theorem encodeBytes_of_decodeBytes (hbytes : decodeBytes cs = some bytes) :
    encodeBytes bytes = cs := by
  fun_induction decodeBytes cs generalizing bytes with
  | case1 =>
    cases hbytes
    rfl
  | case2 a b =>
    simp only [Option.bind_eq_bind, Option.bind_eq_some_iff, sextet?_eq_some_iff] at hbytes
    obtain ⟨x, ⟨hx, rfl⟩, y, ⟨hy, rfl⟩, hbytes⟩ := hbytes
    split at hbytes
    · next hzero =>
      cases hbytes
      exact encodeBytes_one hx hy hzero
    · cases hbytes
  | case3 a b c =>
    simp only [Option.bind_eq_bind, Option.bind_eq_some_iff, sextet?_eq_some_iff] at hbytes
    obtain ⟨x, ⟨hx, rfl⟩, y, ⟨hy, rfl⟩, z, ⟨hz, rfl⟩, hbytes⟩ := hbytes
    split at hbytes
    · next hzero =>
      cases hbytes
      exact encodeBytes_two hx hy hz hzero
    · cases hbytes
  | case4 a b c d rest _ _ ih =>
    simp only [Option.bind_eq_bind, Option.bind_eq_some_iff, sextet?_eq_some_iff] at hbytes
    obtain ⟨x, ⟨hx, rfl⟩, y, ⟨hy, rfl⟩, z, ⟨hz, rfl⟩, w, ⟨hw, rfl⟩, more, hmore, hbytes⟩ := hbytes
    cases hbytes
    rw [encodeBytes_three hx hy hz hw, ih hmore]
  | case5 => cases hbytes

/-- The binary digits of the `width` lowest places, from the highest one on. -/
def bits : (width n : Nat) → List Nat
  | 0, _ => []
  | width + 1, n => n / Nat.pow 2 width % 2 :: bits width n

/-- What the base64 form of bytes is: characters for the bits of the bytes, six for each character.
    Zeros fill up the bits of the last character, and `=` the last four characters. -/
def IsForm (bytes : List UInt8) (cs : List Char) : Prop :=
  ∃ sextets : List Nat, ∃ pads < 3,
    cs = sextets.map sextetChar ++ List.replicate pads '=' ∧ cs.length % 4 = 0 ∧
    (∀ n ∈ sextets, n < 64) ∧
    sextets.flatMap (bits 6) =
      bytes.flatMap (fun byte => bits 8 byte.toNat) ++ List.replicate (2 * pads) 0

theorem length_bits (width n : Nat) : (bits width n).length = width := by
  induction width with
  | zero => rfl
  | succ width ih => rw [bits, List.length_cons, ih]

theorem length_flatMap_bits {α : Type} {f : α → List Nat} {width : Nat}
    (hf : ∀ a, (f a).length = width) (items : List α) :
    (items.flatMap f).length = width * items.length := by
  simp [List.length_flatMap, hf, Nat.mul_comm]

theorem bits_congr {width : Nat} (hsame : x % Nat.pow 2 width = y % Nat.pow 2 width) :
    bits width x = bits width y := by
  induction width with
  | zero => rfl
  | succ width ih =>
    rw [Nat.pow_eq, Nat.pow_succ] at hsame
    have hfirst : x / Nat.pow 2 width % 2 = y / Nat.pow 2 width % 2 := by
      rw [Nat.pow_eq, ← Nat.mod_mul_right_div_self, hsame, Nat.mod_mul_right_div_self]
    have hrest : x % Nat.pow 2 width = y % Nat.pow 2 width := by
      rw [Nat.pow_eq, ← Nat.mod_mul_right_mod x _ 2, hsame, Nat.mod_mul_right_mod]
    rw [bits, bits, hfirst, ih hrest]

theorem bits_add (m n x : Nat) : bits (m + n) x = bits m (x / Nat.pow 2 n) ++ bits n x := by
  induction m with
  | zero => rw [Nat.zero_add, bits, List.nil_append]
  | succ m ih =>
    rw [Nat.succ_add, bits, bits, ih, List.cons_append, Nat.div_div_eq_div_mul, Nat.pow_eq,
      Nat.pow_eq, Nat.pow_eq, ← Nat.pow_add, Nat.add_comm n m]

/-- The lowest places of one number before those of another. -/
theorem bits_join {m n : Nat} (hy : y < Nat.pow 2 n) :
    bits (m + n) (x % Nat.pow 2 m * Nat.pow 2 n + y) = bits m x ++ bits n y := by
  have hpos : 0 < Nat.pow 2 n := Nat.zero_lt_of_lt hy
  have hquotient : (x % Nat.pow 2 m * Nat.pow 2 n + y) / Nat.pow 2 n = x % Nat.pow 2 m := by
    rw [Nat.add_comm, Nat.add_mul_div_right _ _ hpos, Nat.div_eq_of_lt hy, Nat.zero_add]
  rw [bits_add, hquotient, bits_congr (Nat.mod_mod x _),
    bits_congr (Nat.mul_add_mod_self_right _ _ y)]

theorem eq_of_bits_eq (hx : x < 64) (hy : y < 64) (hbits : bits 6 x = bits 6 y) : x = y := by
  simp only [bits, Nat.pow_eq, List.cons.injEq] at hbits
  omega

theorem eq_of_flatMap_bits_eq {xs ys : List Nat} (hxs : ∀ n ∈ xs, n < 64)
    (hys : ∀ n ∈ ys, n < 64) (hbits : xs.flatMap (bits 6) = ys.flatMap (bits 6)) : xs = ys := by
  have hlength : xs.length = ys.length := by
    have hlengths := congrArg List.length hbits
    rw [length_flatMap_bits (length_bits 6), length_flatMap_bits (length_bits 6)] at hlengths
    omega
  induction xs generalizing ys with
  | nil => exact (List.eq_nil_of_length_eq_zero hlength.symm).symm
  | cons x xs ih =>
    cases ys with
    | nil => cases hlength
    | cons y ys =>
      obtain ⟨hx, hxs⟩ := List.forall_mem_cons.mp hxs
      obtain ⟨hy, hys⟩ := List.forall_mem_cons.mp hys
      obtain ⟨hhead, htail⟩ := List.append_inj hbits (by rw [length_bits, length_bits])
      rw [eq_of_bits_eq hx hy hhead, ih hxs hys htail (Nat.succ.inj hlength)]

/-- Bytes have one form: their number tells how much is filled up. -/
theorem IsForm.unique {cs' : List Char} (hcs : IsForm bytes cs) (hcs' : IsForm bytes cs') :
    cs = cs' := by
  obtain ⟨sextets, pads, hpads, rfl, hfour, hsextets, hbits⟩ := hcs
  obtain ⟨sextets', pads', hpads', rfl, hfour', hsextets', hbits'⟩ := hcs'
  have hlength := congrArg List.length hbits
  have hlength' := congrArg List.length hbits'
  rw [List.length_append, List.length_replicate, length_flatMap_bits (length_bits 6),
    length_flatMap_bits fun _ => length_bits 8 _] at hlength hlength'
  rw [List.length_append, List.length_map, List.length_replicate] at hfour hfour'
  -- Characters come in fours and bits in eights, which leaves one choice for the pads.
  obtain rfl : pads = pads' := by omega
  rw [eq_of_flatMap_bits_eq hsextets hsextets' (hbits.trans hbits'.symm)]

/-- Each byte is divided between two characters, and each character is joined from what it has of
    one byte and of the next. -/
theorem isForm_encodeBytes (bytes : List UInt8) : IsForm bytes (encodeBytes bytes) := by
  have hfirst : ∀ a, bits 8 a = bits 6 (a / 4) ++ bits 2 a := bits_add 6 2
  have hsecond : ∀ b, bits 8 b = bits 4 (b / 16) ++ bits 4 b := bits_add 4 4
  have hthird : ∀ c, bits 8 c = bits 2 (c / 64) ++ bits 6 c := bits_add 2 6
  have hjoin : ∀ a b, b < 256 → bits 6 (a % 4 * 16 + b / 16) = bits 2 a ++ bits 4 (b / 16) :=
    fun a b hb => bits_join (m := 2) (n := 4) (Nat.div_lt_of_lt_mul hb)
  have hjoin' : ∀ b c, c < 256 → bits 6 (b % 16 * 4 + c / 64) = bits 4 b ++ bits 2 (c / 64) :=
    fun b c hc => bits_join (m := 4) (n := 2) (Nat.div_lt_of_lt_mul hc)
  fun_induction encodeBytes bytes with
  | case1 => exact ⟨[], 0, by omega, rfl, rfl, by simp, rfl⟩
  | case2 a =>
    have ha : a.toNat < 256 := a.toNat_lt
    have hlast : bits 6 (a.toNat % 4 * 16) = bits 2 a.toNat ++ [0, 0, 0, 0] :=
      hjoin a.toNat 0 (by omega)
    refine ⟨[a.toNat / 4, a.toNat % 4 * 16], 2, by omega, rfl, by simp, ?_, ?_⟩
    · simp only [List.forall_mem_cons]
      exact ⟨by omega, by omega, List.forall_mem_nil _⟩
    · simp only [List.flatMap_cons, List.flatMap_nil, List.append_nil, hlast, hfirst,
        List.append_assoc]
      rfl
  | case3 a b =>
    have ha : a.toNat < 256 := a.toNat_lt
    have hb : b.toNat < 256 := b.toNat_lt
    have hlast : bits 6 (b.toNat % 16 * 4) = bits 4 b.toNat ++ [0, 0] :=
      hjoin' b.toNat 0 (by omega)
    refine ⟨[a.toNat / 4, a.toNat % 4 * 16 + b.toNat / 16, b.toNat % 16 * 4], 1, by omega, rfl,
      by simp, ?_, ?_⟩
    · simp only [List.forall_mem_cons]
      exact ⟨by omega, by omega, by omega, List.forall_mem_nil _⟩
    · simp only [List.flatMap_cons, List.flatMap_nil, List.append_nil, hlast, hfirst a.toNat,
        hsecond b.toNat, hjoin _ _ hb, List.append_assoc]
      rfl
  | case4 a b c rest ih =>
    have ha : a.toNat < 256 := a.toNat_lt
    have hb : b.toNat < 256 := b.toNat_lt
    have hc : c.toNat < 256 := c.toNat_lt
    have hlast : bits 6 (c.toNat % 64) = bits 6 c.toNat := bits_congr (Nat.mod_mod _ _)
    obtain ⟨sextets, pads, hpads, hrest, hfour, hsextets, hbits⟩ := ih
    refine ⟨a.toNat / 4 :: (a.toNat % 4 * 16 + b.toNat / 16) :: (b.toNat % 16 * 4 + c.toNat / 64) ::
      (c.toNat % 64) :: sextets, pads, hpads, ?_, ?_, ?_, ?_⟩
    · rw [hrest]
      rfl
    · simp only [List.length_cons]
      omega
    · simp only [List.forall_mem_cons]
      exact ⟨by omega, by omega, by omega, by omega, hsextets⟩
    · simp only [List.flatMap_cons, hlast, hfirst a.toNat, hsecond b.toNat, hthird c.toNat,
        hjoin _ _ hb, hjoin' _ _ hc, hbits, List.append_assoc]

/-- The characters that are written are the form of the bytes, and there is no other one. -/
theorem isForm_iff : IsForm bytes cs ↔ cs = encodeBytes bytes := by
  constructor
  · exact fun hcs => hcs.unique (isForm_encodeBytes bytes)
  · rintro rfl
    exact isForm_encodeBytes bytes

theorem isBlank_of_mem_encodeBytes (hc : c ∈ encodeBytes bytes) : isBlank c = false := by
  obtain ⟨sextets, pads, -, hform, -, hsextets, -⟩ := isForm_encodeBytes bytes
  rw [hform, List.mem_append] at hc
  rcases hc with hsextet | hpad
  · obtain ⟨n, hn, rfl⟩ := List.mem_map.mp hsextet
    exact isBlank_sextetChar (hsextets n hn)
  · rw [List.eq_of_mem_replicate hpad]
    decide

end

section

variable {written text : String}

/-- A text is the base64 form of the UTF-8 bytes of another one. -/
def Encodes (written text : String) : Prop := IsForm text.toUTF8.data.toList written.toList

theorem encodes_iff : Encodes written text ↔ written = encode text := by
  rw [Encodes, isForm_iff, encode, String.ext_iff, String.toList_ofList]

theorem encodes_encode (text : String) : Encodes (encode text) text := encodes_iff.mpr rfl

/-- The form of a text is read as that text and no other, and nothing else is read. -/
theorem decode?_eq_some_iff : decode? written = some text ↔ Encodes written text := by
  rw [encodes_iff]
  constructor
  · intro hread
    obtain ⟨bytes, hbytes, htext⟩ := Option.bind_eq_some_iff.mp hread
    unfold String.fromUTF8? at htext
    split at htext
    · cases htext
      rw [encode, String.toUTF8, String.fromUTF8, encodeBytes_of_decodeBytes hbytes,
        String.ofList_toList]
    · cases htext
  · rintro rfl
    have hvalid : text.toUTF8.IsValidUTF8 := text.isValidUTF8
    rw [decode?, encode, String.toList_ofList, decodeBytes_encodeBytes]
    exact dif_pos hvalid

theorem decode?_eq_none_iff : decode? written = none ↔ ∀ text, ¬Encodes written text := by
  simp only [Option.eq_none_iff_forall_ne_some, ne_eq, decode?_eq_some_iff]

/-- Nothing is trimmed of the form of a text. -/
theorem trim_encode (text : String) : trim (encode text) = encode text := by
  rw [trim, encode, String.toList_ofList,
    trimChars_of_tight (tight_of_no_blanks fun _ => isBlank_of_mem_encodeBytes)]

end

end FieldRules.Text.Base64
