import FieldRules.Proofs.Rule.Finding
import FieldRules.Proofs.Text.Split
import FieldRules.Proofs.Value.Canonical

namespace FieldRules

namespace Finding

open Value

theorem settles_numeric : Settles numeric (IsNumber fun _ => True) := by
  apply settles_ofReplacement?
  · intro value value' hvalue
    obtain ⟨x, -, rfl⟩ := Option.map_eq_some_iff.mp hvalue
    exact isNumber_ofBinary64 trivial
  · rintro _ ⟨n, rfl, hn, -⟩
    exact congrArg (some ∘ Value.number) hn.ofBinary64_toBinary64

theorem settles_whole : Settles whole (IsNumber Number.IsWhole) := by
  apply settles_ofReplacement?
  · intro value value' hvalue
    obtain ⟨x, hx, rfl⟩ := Option.map_eq_some_iff.mp hvalue
    exact isNumber_ofBinary64 (Number.isWhole_ofBinary64 (Option.filter_eq_some_iff.mp hx).2)
  · rintro _ ⟨n, rfl, hn, hwhole⟩
    rw [leadingNumber?, Option.filter_some_pos (hn.isWhole_toBinary64 hwhole), Option.map_some,
      ofBinary64, hn.ofBinary64_toBinary64]

theorem settles_yesNo : Settles yesNo fun value => ∃ b, value = .bool b := by
  apply settles_ofReplacement?
  · intro value value' hvalue
    obtain ⟨b, -, rfl⟩ := Option.map_eq_some_iff.mp hvalue
    exact ⟨b, rfl⟩
  · rintro _ ⟨b, rfl⟩
    cases b <;> rfl

theorem settles_dateLike : Settles dateLike (IsTime fun _ => True) := by
  apply settles_ofReplacement?
  · intro value value' hvalue
    obtain ⟨time, htime, rfl⟩ := Option.map_eq_some_iff.mp hvalue
    exact ⟨time, rfl, (time?_bounds htime).1, (time?_bounds htime).2, trivial⟩
  · rintro _ ⟨time, rfl, hmin, hmax, -⟩
    rw [time?_int_eq hmin hmax, Option.map_some]

end Finding

namespace Transform

open Value

variable {transform : Transform} {Fits : Number → Prop}

/-- A transform of numbers settles if its results fit and it does nothing to numbers that fit. -/
theorem settles_onNumber {f : Binary64 → Binary64}
    (htransform : ∀ value, transform.replacement? value = onNumber value f)
    (hmade : ∀ x, Fits (.ofBinary64 (f x)))
    (hkept : ∀ n : Number, n.IsCanonical → Fits n → f n.toBinary64 = n.toBinary64) :
    Finding.Settles transform.find fun value =>
      value.leadingNumber? = none ∨ value.IsNumber Fits := by
  refine settles_find (fun value hvalue => ?_) (fun value value' hvalue => ?_) ?_
  · rw [htransform] at hvalue
    exact .inl (Option.map_eq_none_iff.mp hvalue)
  · rw [htransform] at hvalue
    obtain ⟨x, -, rfl⟩ := Option.map_eq_some_iff.mp hvalue
    exact .inr (isNumber_ofBinary64 (hmade x))
  · rintro value (hnone | ⟨n, rfl, hn, hfits⟩)
    · left
      rw [htransform, onNumber, hnone, Option.map_none]
    · right
      rw [htransform, onNumber, leadingNumber?, Option.map_some, hkept n hn hfits, ofBinary64,
        hn.ofBinary64_toBinary64]

theorem settles_abs : Finding.Settles abs.find fun value =>
    value.leadingNumber? = none ∨ value.IsNumber Number.IsNonNegative :=
  settles_onNumber (fun _ => rfl) Number.isNonNegative_ofBinary64_abs
    fun _ hn hpos => hn.abs_toBinary64 hpos

theorem settles_ceil : Finding.Settles ceil.find fun value =>
    value.leadingNumber? = none ∨ value.IsNumber Number.IsWhole :=
  settles_onNumber (fun _ => rfl) (fun x => Number.isWhole_ofBinary64 (Binary64.isWhole_ceil x))
    fun _ hn hwhole => if_pos (hn.isWhole_toBinary64 hwhole)

theorem settles_floor : Finding.Settles floor.find fun value =>
    value.leadingNumber? = none ∨ value.IsNumber Number.IsWhole :=
  settles_onNumber (fun _ => rfl) (fun x => Number.isWhole_ofBinary64 (Binary64.isWhole_floor x))
    fun _ hn hwhole => if_pos (hn.isWhole_toBinary64 hwhole)

theorem settles_trim : Finding.Settles trim.find fun value =>
    ∀ text, value = .string text → Text.Tight text.toList := by
  refine settles_find (fun value hvalue => ?_) (fun value value' hvalue => ?_) fun value htight => ?_
  · rintro text rfl
    cases hvalue
  · obtain ⟨text, -, rfl⟩ := Option.map_eq_some_iff.mp hvalue
    rintro _ ⟨⟩
    rw [Text.trim, String.toList_ofList]
    exact Text.tight_trimChars text.toList
  · cases value with
    | string text =>
      right
      have htrim : Text.trim text = text := by
        rw [Text.trim, Text.trimChars_of_tight (htight text rfl), String.ofList_toList]
      rw [replacement?, onText, string?, Option.map_some, htrim]
    | _ => exact .inl rfl

section

variable {α : Type} {p : α → Bool} {items : List α}

theorem forall_mem_filter_not : ∀ item ∈ items.filter (!p ·), p item = false := by
  intro item hitem
  simpa using (List.mem_filter.mp hitem).2

theorem filter_not_eq_self (hitems : ∀ item ∈ items, p item = false) :
    items.filter (!p ·) = items := by
  refine List.filter_eq_self.mpr fun item hitem => ?_
  rw [hitems item hitem, Bool.not_false]

end

theorem settles_filter : Finding.Settles filter.find NullFree := by
  refine settles_find (fun value hvalue => ?_) (fun value value' hvalue => ?_) fun value hfree => ?_
  · cases value with
    | array items => cases hvalue
    | object entries => cases hvalue
    | _ => trivial
  · cases value with
    | array items =>
      cases hvalue
      exact forall_mem_filter_not
    | object entries =>
      cases hvalue
      exact forall_mem_filter_not
    | _ => cases hvalue
  · cases value with
    | array items => exact .inr (congrArg (some ∘ Value.array) (filter_not_eq_self hfree))
    | object entries => exact .inr (congrArg (some ∘ Value.object) (filter_not_eq_self hfree))
    | _ => exact .inl rfl

/-- A transform that moves times settles if it stays in the calendar and does not move its
    results. -/
theorem settles_onTime {move? : Int → Option Int} {move : Int → Int}
    (htransform : ∀ value, transform.replacement? value = (value.time?.bind move?).map .int)
    (hmove : ∀ {time}, Calendar.minTime ≤ time → time ≤ Calendar.maxTime →
      move? time = some (move time))
    (hbounds : ∀ {time}, Calendar.minTime ≤ time → time ≤ Calendar.maxTime →
      Calendar.minTime ≤ move time ∧ move time ≤ Calendar.maxTime)
    (htwice : ∀ time, move (move time) = move time) :
    Finding.Settles transform.find fun value =>
      value.time? = none ∨ value.IsTime fun time => move time = time := by
  refine settles_find (fun value hvalue => ?_) (fun value value' hvalue => ?_) ?_
  · cases htime : value.time? with
    | none => exact .inl rfl
    | some time =>
      obtain ⟨hmin, hmax⟩ := time?_bounds htime
      rw [htransform, htime, Option.bind_some, hmove hmin hmax, Option.map_some] at hvalue
      cases hvalue
  · rw [htransform] at hvalue
    obtain ⟨_, hmoved, rfl⟩ := Option.map_eq_some_iff.mp hvalue
    obtain ⟨time, htime, hmoved⟩ := Option.bind_eq_some_iff.mp hmoved
    obtain ⟨hmin, hmax⟩ := time?_bounds htime
    cases (hmove hmin hmax).symm.trans hmoved
    exact .inr ⟨move time, rfl, (hbounds hmin hmax).1, (hbounds hmin hmax).2, htwice time⟩
  · rintro value (hnone | ⟨time, rfl, hmin, hmax, hstays⟩)
    · left
      rw [htransform, hnone, Option.bind_none, Option.map_none]
    · right
      rw [htransform, time?_int_eq hmin hmax, Option.bind_some, hmove hmin hmax, Option.map_some,
        hstays]

theorem settles_startOfDay : Finding.Settles startOfDay.find fun value =>
    value.time? = none ∨ value.IsTime fun time => Calendar.firstOfDay time = time :=
  settles_onTime (fun _ => rfl) Calendar.startOfDay?_eq Calendar.firstOfDay_bounds
    Calendar.firstOfDay_firstOfDay

theorem settles_endOfDay : Finding.Settles endOfDay.find fun value =>
    value.time? = none ∨ value.IsTime fun time => Calendar.lastOfDay time = time :=
  settles_onTime (fun _ => rfl) Calendar.endOfDay?_eq Calendar.lastOfDay_bounds
    Calendar.lastOfDay_lastOfDay

end Transform

end FieldRules
