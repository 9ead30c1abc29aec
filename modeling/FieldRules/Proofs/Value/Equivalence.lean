import FieldRules.Proofs.MapM
import FieldRules.Proofs.Value.Equal

namespace FieldRules.Value

/-- A property that arrays and objects have if all their members do is one of all values, if the
    scalars have it. -/
theorem induct {motive : Value → Prop} (scalar : ∀ v, v.isScalar = true → motive v)
    (array : ∀ items, (∀ item ∈ items, motive item) → motive (.array items))
    (object : ∀ entries, (∀ entry ∈ entries, motive entry.2) → motive (.object entries)) :
    ∀ v, motive v
  | .null => scalar _ rfl
  | .bool _ => scalar _ rfl
  | .number _ => scalar _ rfl
  | .string _ => scalar _ rfl
  | .array items => array items fun item _ => induct scalar array object item
  | .object entries => object entries fun entry _ => induct scalar array object entry.2
termination_by v => sizeOf v
decreasing_by
  · next hitem =>
    have hsmaller := List.sizeOf_lt_of_mem hitem
    rw [Value.array.sizeOf_spec]
    omega
  · next hentry =>
    have hsmaller := List.sizeOf_lt_of_mem hentry
    obtain ⟨key, item⟩ := entry
    simp only [Value.object.sizeOf_spec, Prod.mk.sizeOf_spec] at *
    omega

section

variable {same : Number → Number → Prop} {a b c : Value}

theorem exists_lookup_eq_some {entries : List (String × Value)} {key : String}
    (hkey : key ∈ entries.map (·.1)) : ∃ item, entries.lookup key = some item := by
  obtain ⟨entry, hentry, rfl⟩ := List.mem_map.mp hkey
  exact Option.isSome_iff_exists.mp (List.lookup_isSome_iff.mpr ⟨entry, hentry, BEq.rfl⟩)

theorem Alike.refl (hsame : ∀ n, same n n) (v : Value) : Alike same v v := by
  induction v using induct with
  | scalar v hv =>
    cases v with
    | null => exact .null
    | bool b => exact .bool b
    | number n => exact .number (hsame n)
    | string s => exact .string s
    | array => cases hv
    | object => cases hv
  | array items ih => exact .array (List.forall₂_same.mpr ih)
  | object entries ih =>
    refine .object (fun _ => Iff.rfl) fun key x y hx hy => ?_
    cases hx.symm.trans hy
    exact ih (key, x) (mem_of_lookup hx)

theorem Alike.symm (hsame : ∀ {m n}, same m n → same n m) (hab : Alike same a b) :
    Alike same b a := by
  induction a using induct generalizing b with
  | scalar a ha =>
    cases hab with
    | null => exact .null
    | bool b => exact .bool b
    | number hmn => exact .number (hsame hmn)
    | string s => exact .string s
    | array => cases ha
    | object => cases ha
  | array xs ih =>
    cases hab with
    | array hitems =>
      have hflip : List.Forall₂ (flip (Alike same)) xs _ :=
        forall₂_imp_of_mem hitems fun x hx y hxy => ih x hx hxy
      exact .array hflip.flip
  | object xs ih =>
    cases hab with
    | object hkeys hentries =>
      refine .object (fun key => (hkeys key).symm) fun key y x hy hx => ?_
      exact ih (key, x) (mem_of_lookup hx) (hentries key x y hx hy)

theorem Alike.trans (hsame : ∀ {l m n}, same l m → same m n → same l n) (hab : Alike same a b)
    (hbc : Alike same b c) : Alike same a c := by
  induction a using induct generalizing b c with
  | scalar a ha =>
    cases hab with
    | null => exact hbc
    | bool => exact hbc
    | number hlm =>
      cases hbc with
      | number hmn => exact .number (hsame hlm hmn)
    | string => exact hbc
    | array => cases ha
    | object => cases ha
  | array xs ih =>
    cases hab with
    | array hxy =>
      cases hbc with
      | array hyz =>
        refine .array (forall₂_imp_of_mem (forall₂_comp hxy hyz) ?_)
        rintro x hx z ⟨y, hxy, hyz⟩
        exact ih x hx hxy hyz
  | object xs ih =>
    cases hab with
    | @object _ ys hxyKeys hxy =>
      cases hbc with
      | object hyzKeys hyz =>
        refine .object (fun key => (hxyKeys key).trans (hyzKeys key)) fun key x z hx hz => ?_
        have hkey : key ∈ ys.map (·.1) :=
          (hxyKeys key).mp (List.mem_map.mpr ⟨_, mem_of_lookup hx, rfl⟩)
        obtain ⟨y, hy⟩ := exists_lookup_eq_some hkey
        exact ih (key, x) (mem_of_lookup hx) (hxy key x y hx hy) (hyz key y z hy hz)

/-- Values that differ at most in the order of the entries of objects, however deep these are. -/
inductive Reordered : Value → Value → Prop
  | refl (v : Value) : Reordered v v
  | array {xs ys : List Value} (hitems : List.Forall₂ Reordered xs ys) :
      Reordered (.array xs) (.array ys)
  | object {xs ys zs : List (String × Value)} (hkeys : xs.map (·.1) = ys.map (·.1))
      (hitems : List.Forall₂ Reordered (xs.map (·.2)) (ys.map (·.2))) (hperm : ys.Perm zs) :
      Reordered (.object xs) (.object zs)

theorem rel_of_lookup {R : Value → Value → Prop} {xs ys : List (String × Value)}
    (hkeys : xs.map (·.1) = ys.map (·.1))
    (hitems : List.Forall₂ R (xs.map (·.2)) (ys.map (·.2))) {key : String} {x y : Value}
    (hx : xs.lookup key = some x) (hy : ys.lookup key = some y) : R x y := by
  induction xs generalizing ys with
  | nil => cases hx
  | cons entry xs ih =>
    cases ys with
    | nil => cases hkeys
    | cons entry' ys =>
      obtain ⟨head, first⟩ := entry
      obtain ⟨head', first'⟩ := entry'
      obtain ⟨hhead, hkeysRest⟩ := List.cons.inj hkeys
      obtain ⟨hfirst, hitemsRest⟩ := List.forall₂_cons.mp hitems
      obtain rfl : head = head' := hhead
      rw [List.lookup_cons] at hx hy
      cases hkey : key == head with
      | true =>
        rw [hkey] at hx hy
        cases hx
        cases hy
        exact hfirst
      | false =>
        rw [hkey] at hx hy
        exact ih hkeysRest hitemsRest hx hy

theorem Reordered.alike (hsame : ∀ n, same n n) (ha : a.WellFormed) (hab : a.Reordered b) :
    Alike same a b := by
  induction a using induct generalizing b with
  | scalar a hscalar =>
    cases hab with
    | refl => exact .refl hsame a
    | array => cases hscalar
    | object => cases hscalar
  | array xs ih =>
    cases hab with
    | refl => exact .refl hsame _
    | array hitems =>
      rw [WellFormed, wellFormedItems_iff] at ha
      exact .array (forall₂_imp_of_mem hitems fun x hx y => ih x hx (ha x hx))
  | object xs ih =>
    cases hab with
    | refl => exact .refl hsame _
    | @object _ ys zs hkeys hitems hperm =>
      rw [WellFormed, wellFormedEntries_iff] at ha
      have hdistinct : (ys.map (·.1)).Nodup := hkeys ▸ ha.1
      refine .object (fun key => ?_) fun key x z hx hz => ?_
      · rw [hkeys, (hperm.map (·.1)).mem_iff]
      · rw [lookup_eq_of_perm hdistinct hperm.symm] at hz
        have hmem := mem_of_lookup hx
        exact ih (key, x) hmem (ha.2 _ hmem) (rel_of_lookup hkeys hitems hx hz)

end

section

variable {a b c : Value}

/-- As numbers compare by the binary64 numbers nearest to them, it does not matter that different
    integers may share one. -/
theorem equal_iff (ha : a.WellFormed) (hb : b.WellFormed) : a.equal b = true ↔
    Alike (fun m n => m.toBinary64.units = n.toBinary64.units) a b :=
  equal_iff_of_numbers ha hb fun _ _ _ _ => beq_iff_eq

theorem equal_comm (ha : a.WellFormed) (hb : b.WellFormed) : a.equal b = b.equal a := by
  rw [Bool.eq_iff_iff, equal_iff ha hb, equal_iff hb ha]
  exact ⟨.symm Eq.symm, .symm Eq.symm⟩

theorem equal_trans (ha : a.WellFormed) (hb : b.WellFormed) (hc : c.WellFormed)
    (hab : a.equal b = true) (hbc : b.equal c = true) : a.equal c = true := by
  rw [equal_iff ha hb] at hab
  rw [equal_iff hb hc] at hbc
  rw [equal_iff ha hc]
  exact hab.trans Eq.trans hbc

/-- What is equal to a value cannot be told from it by comparing it with others. -/
theorem equal_congr_left (ha : a.WellFormed) (hb : b.WellFormed) (hc : c.WellFormed)
    (hab : a.equal b = true) : a.equal c = b.equal c := by
  have hba : b.equal a = true := (equal_comm ha hb).symm.trans hab
  rw [Bool.eq_iff_iff]
  exact ⟨equal_trans hb ha hc hba, equal_trans ha hb hc hab⟩

theorem equal_array_iff {xs ys : List Value} : (array xs).equal (array ys) = true ↔
    List.Forall₂ (fun x y => x.equal y = true) xs ys := by
  rw [equal]
  induction xs generalizing ys with
  | nil => cases ys <;> simp [equalItems]
  | cons x xs ih =>
    cases ys with
    | nil => simp [equalItems]
    | cons y ys => rw [equalItems, Bool.and_eq_true, ih, List.forall₂_cons]

/-- Arrays with two different items the other way round are not equal. -/
theorem equal_exchanged (hab : a.equal b = false) (before middle after : List Value) :
    (array (before ++ a :: (middle ++ b :: after))).equal
      (array (before ++ b :: (middle ++ a :: after))) = false := by
  rw [Bool.eq_false_iff, Ne, equal_array_iff]
  intro hitems
  have hrest := List.forall₂_drop_append _ before _ hitems
  rw [List.drop_left] at hrest
  cases hrest with
  | cons hfirst _ =>
    rw [hab] at hfirst
    cases hfirst

/-- Equality of values is an equivalence, which the order of entries does not matter to, at any
    depth, while arrays are equal item by item. -/
theorem equal_equivalence (ha : a.WellFormed) (hb : b.WellFormed) (hc : c.WellFormed) :
    a.equal a = true ∧ (a.equal b = true → b.equal a = true) ∧
      (a.equal b = true → b.equal c = true → a.equal c = true) ∧
      (a.Reordered b → a.equal b = true ∧ a.equal c = b.equal c ∧ c.equal a = c.equal b) ∧
      (∀ xs ys : List Value, (array xs).equal (array ys) = true ↔
        List.Forall₂ (fun x y => x.equal y = true) xs ys) ∧
      (a.equal b = false → ∀ before middle after : List Value,
        (array (before ++ a :: (middle ++ b :: after))).equal
          (array (before ++ b :: (middle ++ a :: after))) = false) := by
  refine ⟨?_, ?_, equal_trans ha hb hc, fun hab => ?_, fun xs ys => equal_array_iff,
    equal_exchanged⟩
  · rw [equal_iff ha ha]
    refine .refl (fun n => ?_) a
    rfl
  · exact fun hab => (equal_comm ha hb).symm.trans hab
  · have hequal : a.equal b = true := by
      rw [equal_iff ha hb]
      exact hab.alike (fun _ => rfl) ha
    have hleft := equal_congr_left ha hb hc hequal
    refine ⟨hequal, hleft, ?_⟩
    rw [equal_comm hc ha, equal_comm hc hb, hleft]

/-- Entries in another order in an object and in one inside it, and a number in another form. -/
theorem equal_equivalence_nested :
    let two : Number := .float ⟨false, 0x4000000000000000, by decide⟩
    let a : Value := .object [("x", .int 1), ("y", .array [.object [("p", .null), ("q", .int 2)]])]
    let b : Value := .object [("y", .array [.object [("q", .int 2), ("p", .null)]]), ("x", .int 1)]
    let c : Value :=
      .object [("x", .int 1), ("y", .array [.object [("q", .number two), ("p", .null)]])]
    b.equal a = true ∧ a.equal c = true ∧
      (array [a, .null, b]).equal (array [b, .null, c]) = true ∧
      (array [a, .null, .int 2]).equal (array [.int 2, .null, a]) = false := by
  intro two a b c
  have ha : a.WellFormed := by simp [a, WellFormed, WellFormedEntries, WellFormedItems, int]
  have hb : b.WellFormed := by simp [b, WellFormed, WellFormedEntries, WellFormedItems, int]
  have hc : c.WellFormed := by simp [c, WellFormed, WellFormedEntries, WellFormedItems, int]
  have hinner : (object [("p", .null), ("q", .int 2)]).Reordered
      (.object [("q", .int 2), ("p", .null)]) :=
    .object rfl (List.forall₂_same.mpr fun item _ => .refl item) (.swap _ _ [])
  have hreordered : a.Reordered b := by
    refine .object ?_ ?_ (.swap ("y", array [.object [("q", .int 2), ("p", .null)]]) _ [])
    · rfl
    · exact .cons (.refl _) (.cons (.array (.cons hinner .nil)) .nil)
  obtain ⟨-, hsymm, htrans, hsame, hitems, -⟩ := equal_equivalence ha hb hc
  obtain ⟨hab, hac, -⟩ := hsame hreordered
  have hbc : b.equal c = true := by decide +kernel
  have hnull : null.equal null = true := rfl
  have htwo : (int 2).WellFormed := trivial
  have hother := (equal_equivalence ha htwo hc).2.2.2.2.2 rfl
  exact ⟨hsymm hab, htrans hab hbc, (hitems _ _).mpr (.cons hab (.cons hnull (.cons hbc .nil))),
    hother [] [.null] []⟩

end

end FieldRules.Value
