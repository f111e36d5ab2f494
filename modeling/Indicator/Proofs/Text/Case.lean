import Indicator.Text.Case

/-!
# The case of ASCII letters

Texts that differ in the case of ASCII letters alone have one lower case and one upper case, also
where these letters stand next to a capital sigma, whose lower case depends on its neighbours.

* `forall_ascii`, `of_toLower`: what holds of the characters, and of the letters, of ASCII.
* `lowerOne_toLower`, `upperOne_toLower`, `startsCased_map_toLower`: a letter in lower case is
  mapped, and counts for a sigma, as the letter itself.
* `lower_congr`, `upper_congr`: **the case of ASCII letters makes no difference.**
-/

namespace Indicator.Text

/-! ### Characters -/

/-- The characters of ASCII, one after the other. -/
theorem forall_ascii {p : Char → Prop} (h : ∀ n < 0x80, p (Char.ofNat n)) {c : Char}
    (hc : c.toNat < 0x80) : p c := by
  rw [← Char.ofNat_toNat c]
  exact h c.toNat hc

/-- What holds of the letters of ASCII in both cases, and of any other character twice, holds of
every character and its lower case. -/
theorem of_toLower {p : Char → Char → Prop}
    (hletter : ∀ n < 26, p (Char.ofNat (0x61 + n)) (Char.ofNat (0x41 + n)))
    (hrefl : ∀ c, p c c) (c : Char) : p c.toLower c := by
  have hlowered : ∀ n < 26, (Char.ofNat (0x41 + n)).toLower = Char.ofNat (0x61 + n) := by decide
  by_cases hc : 0x41 ≤ c.toNat ∧ c.toNat < 0x41 + 26
  · obtain ⟨n, hn⟩ := Nat.exists_eq_add_of_le hc.1
    have hchar : c = Char.ofNat (0x41 + n) := by rw [← hn, Char.ofNat_toNat]
    rw [hchar, hlowered n (by omega)]
    exact hletter n (by omega)
  · have hlast : c.toLower = c := by
      unfold Char.toLower
      rw [dif_neg]
      rintro ⟨hlower, hupper⟩
      exact hc ⟨UInt32.le_iff_toNat_le.mp hlower,
        Nat.lt_succ_of_le (UInt32.le_iff_toNat_le.mp hupper)⟩
    rw [hlast]
    exact hrefl c

theorem toLower_toLower (c : Char) : c.toLower.toLower = c.toLower :=
  of_toLower (p := fun lowered c => lowered.toLower = c.toLower) (by decide +kernel)
    (fun _ => rfl) c

theorem lowerOne_toLower (c : Char) : lowerOne c.toLower = lowerOne c :=
  of_toLower (p := fun lowered c => lowerOne lowered = lowerOne c) (by decide +kernel)
    (fun _ => rfl) c

theorem upperOne_toLower (c : Char) : upperOne c.toLower = upperOne c :=
  of_toLower (p := fun lowered c => upperOne lowered = upperOne c) (by decide +kernel)
    (fun _ => rfl) c

theorem toLower_eq_sigma (c : Char) : c.toLower = 'Σ' ↔ c = 'Σ' :=
  of_toLower (p := fun lowered c => lowered = 'Σ' ↔ c = 'Σ') (by decide +kernel)
    (fun _ => Iff.rfl) c

theorem cased_toLower (c : Char) : within casedRanges c.toLower = within casedRanges c :=
  of_toLower (p := fun lowered c => within casedRanges lowered = within casedRanges c)
    (by decide +kernel) (fun _ => rfl) c

theorem caseIgnorable_toLower (c : Char) :
    within caseIgnorableRanges c.toLower = within caseIgnorableRanges c :=
  of_toLower
    (p := fun lowered c => within caseIgnorableRanges lowered = within caseIgnorableRanges c)
    (by decide +kernel) (fun _ => rfl) c

/-! ### Texts -/

theorem startsCased_map_toLower (text : List Char) :
    startsCased (text.map Char.toLower) = startsCased text := by
  have hignorable : within caseIgnorableRanges ∘ Char.toLower = within caseIgnorableRanges :=
    funext caseIgnorable_toLower
  unfold startsCased
  rw [List.dropWhile_map, hignorable]
  cases text.dropWhile (within caseIgnorableRanges) with
  | nil => rfl
  | cons c rest => exact cased_toLower c

/-- Neither the letters before a text nor those of the text itself need be in one case. -/
theorem lowerAfter_map_toLower (before text : List Char) :
    lowerAfter (before.map Char.toLower) (text.map Char.toLower) = lowerAfter before text := by
  induction text generalizing before with
  | nil => rfl
  | cons c rest ih =>
    have hsigma : lowerSigma (before.map Char.toLower) (rest.map Char.toLower) =
        lowerSigma before rest := by
      rw [lowerSigma, startsCased_map_toLower, startsCased_map_toLower, lowerSigma]
    rw [List.map_cons, lowerAfter, lowerAfter, ← List.map_cons, ih, hsigma, lowerOne_toLower]
    simp only [toLower_eq_sigma]

theorem map_toLower_eq {a b : String} (h : lowerAscii a = lowerAscii b) :
    a.toList.map Char.toLower = b.toList.map Char.toLower := by
  simpa [lowerAscii] using congrArg String.toList h

/-- **Texts that differ in the case of ASCII letters alone have one lower case.** -/
theorem lower_congr {a b : String} (h : lowerAscii a = lowerAscii b) : lower a = lower b := by
  have hlower := fun text : List Char => lowerAfter_map_toLower [] text
  rw [lower, lower, ← hlower a.toList, ← hlower b.toList, map_toLower_eq h]

/-- **Texts that differ in the case of ASCII letters alone have one upper case.** -/
theorem upper_congr {a b : String} (h : lowerAscii a = lowerAscii b) : upper a = upper b := by
  have hupper : ∀ text : List Char, (text.map Char.toLower).flatMap upperOne =
      text.flatMap upperOne := by
    intro text
    rw [List.flatMap_map]
    simp only [upperOne_toLower]
  rw [upper, upper, ← hupper a.toList, ← hupper b.toList, map_toLower_eq h]

end Indicator.Text
