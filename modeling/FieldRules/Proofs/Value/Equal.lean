import FieldRules.Proofs.Binary64.Exact
import FieldRules.Proofs.Report
import FieldRules.Proofs.Value.WellFormed
import Mathlib.Data.List.Perm.Subperm

namespace FieldRules

namespace Number

/-- The exact value, in units of binary64. -/
def units : Number → Int
  | .integer n => n * Binary64.unitsPerOne
  | .float x => x.units

/-- Whether the number is among the binary64 numbers. -/
def IsBinary64 (n : Number) : Prop := ∃ x : Binary64, x.units = n.units

theorem isBinary64_of_natAbs_le {n : Int} (hn : n.natAbs ≤ 2 * Binary64.binade) :
    (integer n).IsBinary64 :=
  Binary64.exists_units_eq hn

/-- A binary64 number is not changed by the conversion to one. -/
theorem IsBinary64.units_toBinary64 {n : Number} (hn : n.IsBinary64) :
    n.toBinary64.units = n.units := by
  cases n with
  | integer n => exact Binary64.units_ofInt hn
  | float x => rfl

theorem units_injective_integer {j k : Int} (hunits : (integer j).units = (integer k).units) :
    j = k := by
  have hone : (Binary64.unitsPerOne : Int) ≠ 0 :=
    Int.natCast_ne_zero.mpr (Nat.ne_of_gt Binary64.unitsPerOne_pos)
  exact Int.eq_of_mul_eq_mul_right hone hunits

end Number

namespace Value

mutual

/-- The numbers in a value, wherever they stand in it. -/
def numbers : Value → List Number
  | .number n => [n]
  | .array items => numbersItems items
  | .object entries => numbersEntries entries
  | _ => []

def numbersItems : List Value → List Number
  | [] => []
  | item :: items => item.numbers ++ numbersItems items

def numbersEntries : List (String × Value) → List Number
  | [] => []
  | (_, item) :: entries => item.numbers ++ numbersEntries entries

end

theorem mem_numbersEntries_of_lookup {entries : List (String × Value)} {key : String} {item : Value}
    (hlookup : entries.lookup key = some item) {n : Number} (hn : n ∈ item.numbers) :
    n ∈ numbersEntries entries := by
  induction entries with
  | nil => cases hlookup
  | cons entry entries ih =>
    obtain ⟨head, first⟩ := entry
    rw [numbersEntries, List.mem_append]
    rw [List.lookup_cons] at hlookup
    split at hlookup
    · cases hlookup
      exact .inl hn
    · exact .inr (ih hlookup)

theorem wellFormed_of_lookup {entries : List (String × Value)}
    (hentries : WellFormedEntries entries) {key : String} {item : Value} (hlookup : entries.lookup key = some item) :
    item.WellFormed := by
  obtain ⟨before, after, rfl, _⟩ := List.lookup_eq_some_iff.mp hlookup
  exact wellFormedEntries_iff.mp hentries (key, item) (by simp)

/-- Values of one shape: with the same texts and the same keys, and with numbers that are the same
    in one sense or another. -/
inductive Alike (same : Number → Number → Prop) : Value → Value → Prop
  | null : Alike same .null .null
  | bool (b : Bool) : Alike same (.bool b) (.bool b)
  | number {m n : Number} (hsame : same m n) : Alike same (.number m) (.number n)
  | string (s : String) : Alike same (.string s) (.string s)
  | array {xs ys : List Value} (hitems : List.Forall₂ (Alike same) xs ys) :
      Alike same (.array xs) (.array ys)
  /-- The order of the entries does not matter. -/
  | object {xs ys : List (String × Value)}
      (hkeys : ∀ key, key ∈ xs.map (·.1) ↔ key ∈ ys.map (·.1))
      (hentries : ∀ key x y, xs.lookup key = some x → ys.lookup key = some y → Alike same x y) :
      Alike same (.object xs) (.object ys)

section

variable {same : Number → Number → Prop}

/-- As many entries as another list has, all of them with keys that the other list has: those are
    all keys of the other list. -/
theorem keys_iff_of_length_eq {xs ys : List (String × Value)} (hxs : (xs.map (·.1)).Nodup)
    (hlength : xs.length = ys.length) (hkeys : ∀ key ∈ xs.map (·.1), key ∈ ys.map (·.1))
    (key : String) : key ∈ xs.map (·.1) ↔ key ∈ ys.map (·.1) := by
  have hsubperm : (xs.map (·.1)).Subperm (ys.map (·.1)) := List.subperm_of_subset hxs hkeys
  have hperm := hsubperm.perm_of_length_le (by simp [hlength])
  exact hperm.mem_iff

theorem length_eq_of_keys_iff {xs ys : List (String × Value)} (hxs : (xs.map (·.1)).Nodup)
    (hys : (ys.map (·.1)).Nodup) (hkeys : ∀ key, key ∈ xs.map (·.1) ↔ key ∈ ys.map (·.1)) :
    xs.length = ys.length := by
  have hperm := (List.perm_ext_iff_of_nodup hxs hys).mpr hkeys
  simpa using hperm.length_eq

theorem alike_object_iff {xs ys : List (String × Value)} (hxs : (xs.map (·.1)).Nodup)
    (hys : (ys.map (·.1)).Nodup) :
    Alike same (.object xs) (.object ys) ↔
      xs.length = ys.length ∧
        ∀ entry ∈ xs, ∃ y, ys.lookup entry.1 = some y ∧ Alike same entry.2 y := by
  constructor
  -- As the keys are distinct, the lengths tell that no key of the second list is left over.
  · rintro (_ | _ | _ | _ | _ | ⟨hkeys, hentries⟩)
    refine ⟨length_eq_of_keys_iff hxs hys hkeys, ?_⟩
    rintro ⟨key, x⟩ hx
    obtain ⟨⟨_, y⟩, hy, rfl⟩ := List.mem_map.mp ((hkeys key).mp (List.mem_map.mpr ⟨_, hx, rfl⟩))
    have hlookup := (lookup_eq_some_iff_mem hys).mpr hy
    exact ⟨y, hlookup, hentries _ _ _ ((lookup_eq_some_iff_mem hxs).mpr hx) hlookup⟩
  · rintro ⟨hlength, hentries⟩
    refine .object (keys_iff_of_length_eq hxs hlength fun key hkey => ?_) fun key x y hx hy => ?_
    · obtain ⟨entry, hentry, rfl⟩ := List.mem_map.mp hkey
      obtain ⟨y, hlookup, _⟩ := hentries entry hentry
      exact List.mem_map.mpr ⟨_, (lookup_eq_some_iff_mem hys).mp hlookup, rfl⟩
    · obtain ⟨_, hlookup, halike⟩ := hentries (key, x) ((lookup_eq_some_iff_mem hxs).mp hx)
      cases hlookup.symm.trans hy
      exact halike

mutual

/-- Values are equal if they are alike, in whatever sense it is that comparing the nearest binary64
    numbers decides for the numbers in them: by recursion along the recursion of the comparison. -/
theorem equal_iff_of_numbers : ∀ {a b : Value}, a.WellFormed → b.WellFormed →
    (∀ m ∈ a.numbers, ∀ n ∈ b.numbers,
      (m.toBinary64.sameValue n.toBinary64 = true ↔ same m n)) →
    (a.equal b = true ↔ Alike same a b)
  | .null, b, _, _, _ => by
    cases b with
    | null => exact iff_of_true (by simp [equal]) .null
    | _ => exact iff_of_false (by simp [equal]) (by rintro ⟨⟩)
  | .bool b, b', _, _, _ => by
    cases b' with
    | bool b' =>
      rw [equal, beq_iff_eq]
      constructor
      · rintro rfl
        exact .bool b
      · rintro ⟨⟩
        rfl
    | _ => exact iff_of_false (by simp [equal]) (by rintro ⟨⟩)
  | .number m, b, _, _, hsame => by
    cases b with
    | number n =>
      rw [equal, hsame m (by simp [numbers]) n (by simp [numbers])]
      constructor
      · exact .number
      · rintro ⟨⟩
        assumption
    | _ => exact iff_of_false (by simp [equal]) (by rintro ⟨⟩)
  | .string s, b, _, _, _ => by
    cases b with
    | string t =>
      rw [equal, beq_iff_eq]
      constructor
      · rintro rfl
        exact .string s
      · rintro ⟨⟩
        rfl
    | _ => exact iff_of_false (by simp [equal]) (by rintro ⟨⟩)
  | .array xs, b, ha, hb, hsame => by
    cases b with
    | array ys =>
      rw [WellFormed] at ha hb
      rw [numbers, numbers] at hsame
      rw [equal, equalItems_iff_of_numbers ha hb hsame]
      constructor
      · exact .array
      · rintro ⟨⟩
        assumption
    | _ => exact iff_of_false (by simp [equal]) (by rintro ⟨⟩)
  | .object xs, b, ha, hb, hsame => by
    cases b with
    | object ys =>
      rw [WellFormed] at ha hb
      rw [numbers, numbers] at hsame
      rw [equal, Bool.and_eq_true, beq_iff_eq, equalEntries_iff_of_numbers ha.2 hb.2 hsame,
        alike_object_iff ha.1 hb.1]
    | _ => exact iff_of_false (by simp [equal]) (by rintro ⟨⟩)

theorem equalItems_iff_of_numbers : ∀ {xs ys : List Value}, WellFormedItems xs →
    WellFormedItems ys →
    (∀ m ∈ numbersItems xs, ∀ n ∈ numbersItems ys,
      (m.toBinary64.sameValue n.toBinary64 = true ↔ same m n)) →
    (equalItems xs ys = true ↔ List.Forall₂ (Alike same) xs ys)
  | [], ys, _, _, _ => by
    cases ys with
    | nil => exact iff_of_true (by simp [equalItems]) .nil
    | cons y ys => exact iff_of_false (by simp [equalItems]) (by rintro ⟨⟩)
  | x :: xs, ys, hx, hy, hsame => by
    cases ys with
    | nil => exact iff_of_false (by simp [equalItems]) (by rintro ⟨⟩)
    | cons y ys =>
      rw [WellFormedItems] at hx hy
      rw [numbersItems, numbersItems] at hsame
      have hfirst := equal_iff_of_numbers hx.1 hy.1 fun m hm n hn =>
        hsame m (List.mem_append_left _ hm) n (List.mem_append_left _ hn)
      have hrest := equalItems_iff_of_numbers hx.2 hy.2 fun m hm n hn =>
        hsame m (List.mem_append_right _ hm) n (List.mem_append_right _ hn)
      rw [equalItems, Bool.and_eq_true, hfirst, hrest, List.forall₂_cons]

theorem equalEntries_iff_of_numbers : ∀ {xs ys : List (String × Value)}, WellFormedEntries xs →
    WellFormedEntries ys →
    (∀ m ∈ numbersEntries xs, ∀ n ∈ numbersEntries ys,
      (m.toBinary64.sameValue n.toBinary64 = true ↔ same m n)) →
    (equalEntries xs ys = true ↔
      ∀ entry ∈ xs, ∃ y, ys.lookup entry.1 = some y ∧ Alike same entry.2 y)
  | [], ys, _, _, _ => by simp [equalEntries]
  | (key, x) :: xs, ys, hx, hy, hsame => by
    rw [WellFormedEntries] at hx
    rw [numbersEntries] at hsame
    have hrest := equalEntries_iff_of_numbers hx.2 hy fun m hm n hn =>
      hsame m (List.mem_append_right _ hm) n hn
    rw [equalEntries, Bool.and_eq_true, hrest, List.forall_mem_cons]
    refine and_congr_left fun _ => ?_
    cases hlookup : ys.lookup key with
    | none => simp
    | some y =>
      have hfirst := equal_iff_of_numbers hx.1 (wellFormed_of_lookup hy hlookup) fun m hm n hn =>
        hsame m (List.mem_append_left _ hm) n (mem_numbersEntries_of_lookup hlookup hn)
      simp [hfirst]

end

end

end Value

end FieldRules
