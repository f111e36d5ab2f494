import Mathlib.Data.List.TakeWhile
import Indicator.Text.Punycode

/-!
# The letters and digits of Punycode

Which characters stand in a text in Punycode: the ASCII characters of the text that it writes,
hyphens, letters and digits.

* `mem_encode`: what is written.
* `mem_of_decode`: what is read. The ASCII characters before the last hyphen come back.
-/

namespace Indicator.Text.Punycode

/-! ### Writing -/

theorem isAlphanum_digitChar {n : Nat} (h : n < radix) : (digitChar n).isAlphanum = true := by
  have hall : ∀ n < 36, (digitChar n).isAlphanum = true := by decide
  exact hall n h

theorem threshold_le (place bias : Nat) : threshold place bias ≤ 26 := Nat.min_le_left ..

theorem isAlphanum_of_mem_writeNumber {bias place n : Nat} :
    ∀ c ∈ writeNumber bias place n, c.isAlphanum = true := by
  induction place, n using writeNumber.induct bias with
  | case1 place n limit hn =>
    rw [writeNumber, if_pos hn]
    have hlast : n < radix := hn.trans ((threshold_le place bias).trans_lt (by decide))
    simpa using isAlphanum_digitChar hlast
  | case2 place n limit hn ih =>
    rw [writeNumber, if_neg hn]
    intro c hc
    rcases List.mem_cons.mp hc with rfl | hc
    · have hlimit : limit < radix := (threshold_le place bias).trans_lt (by decide)
      have hrest : (n - limit) % (radix - limit) < radix - limit := Nat.mod_lt _ (by omega)
      exact isAlphanum_digitChar (n := limit + (n - limit) % (radix - limit)) (by omega)
    · exact ih c hc

/-- What is written after the hyphen are letters and digits. -/
def Writer.Plain (w : Writer) : Prop := ∀ c ∈ w.digits, c.isAlphanum = true

theorem Writer.Plain.pass {w : Writer} (h : w.Plain) (c : Char) : (w.pass c).Plain := by
  unfold Writer.pass
  split
  · exact h
  · split
    · intro d hd
      rcases List.mem_append.mp hd with hd | hd
      · exact h d hd
      · exact isAlphanum_of_mem_writeNumber d hd
    · exact h

theorem Writer.Plain.passAll {w : Writer} (h : w.Plain) (text : List Char) :
    (text.foldl Writer.pass w).Plain := by
  induction text generalizing w with
  | nil => exact h
  | cons c text ih => exact ih (h.pass c)

theorem Writer.Plain.write {w : Writer} (h : w.Plain) (text : List Char) (code : Nat) :
    (Writer.write text w code).Plain :=
  Writer.Plain.passAll (w := { w with code, passed := _ }) h text

theorem Writer.Plain.writeAll {w : Writer} (h : w.Plain) (text : List Char) (codes : List Nat) :
    (codes.foldl (Writer.write text) w).Plain := by
  induction codes generalizing w with
  | nil => exact h
  | cons code codes ih => exact ih (h.write text code)

/-- **What is written** are ASCII characters of the text, hyphens, letters and digits. -/
theorem mem_encode {text : List Char} {c : Char} (h : c ∈ encode text) :
    (c ∈ text ∧ c.toNat < 0x80) ∨ c = '-' ∨ c.isAlphanum = true := by
  unfold encode at h
  rcases List.mem_append.mp h with h | h
  · split at h
    · cases h
    · rcases List.mem_append.mp h with h | h
      · obtain ⟨hmem, hascii⟩ := List.mem_filter.mp h
        exact .inl ⟨hmem, by simpa using hascii⟩
      · exact .inr (.inl (List.mem_singleton.mp h))
  · have hplain : Writer.Plain ⟨0x80, 0, 72, (text.filter (·.toNat < 0x80)).length, true, []⟩ := by
      simp [Writer.Plain]
    exact .inr (.inr (hplain.writeAll text _ c h))

/-! ### Reading -/

/-- The octets that a number is read from are digits. -/
theorem digit_of_readNumber {bias place weight soFar n : Nat} {octets rest : List UInt8}
    (h : readNumber? bias place weight soFar octets = some (n, rest)) :
    ∀ b ∈ octets, (digit? b).isSome ∨ b ∈ rest := by
  induction octets generalizing place weight soFar with
  | nil => simp
  | cons b tail ih =>
    simp only [readNumber?, Option.bind_eq_bind, Option.bind_eq_some_iff] at h
    obtain ⟨digit, hdigit, h⟩ := h
    intro d hd
    rcases List.mem_cons.mp hd with rfl | hd
    · exact .inl (Option.isSome_of_eq_some hdigit)
    · split at h
      · simp only [Option.pure_def, Option.some.injEq, Prod.mk.injEq] at h
        exact .inr (h.2 ▸ hd)
      · exact ih h d hd

theorem Progress.mem_insert {p : Progress} (delta : Nat) {c : Char} (h : c ∈ p.chars) :
    c ∈ (p.insert delta).chars := by
  rw [← List.take_append_drop ((p.place + delta) % (p.chars.length + 1)) p.chars,
    List.mem_append] at h
  simp only [insert, List.mem_append, List.mem_cons]
  rcases h with h | h
  · exact .inl h
  · exact .inr (.inr h)

/-- If all numbers can be read, the octets are digits, and the characters there were stay. -/
theorem insertAll_eq_true {p : Progress} {octets : List UInt8} {text : List Char}
    (h : insertAll p octets = (text, true)) :
    (∀ b ∈ octets, (digit? b).isSome) ∧ ∀ c ∈ p.chars, c ∈ text := by
  induction p, octets using insertAll.induct generalizing text with
  | case1 p octets hempty =>
    rw [insertAll, if_pos hempty] at h
    obtain rfl := (Prod.mk.inj h).1
    rw [List.isEmpty_iff.mp hempty]
    simp
  | case2 p octets hsome hnone =>
    rw [insertAll, if_neg hsome] at h
    split at h
    · cases h
    · rename_i hread
      rw [hnone] at hread
      cases hread
  | case3 p octets hsome delta rest hread chars sound hmore ih =>
    rw [insertAll, if_neg hsome] at h
    split at h
    · cases h
    · rename_i delta' rest' hread'
      rw [hread] at hread'
      cases hread'
      simp only [Prod.mk.injEq, Bool.and_eq_true] at h
      obtain ⟨hdigits, hchars⟩ := ih (Prod.ext h.1 h.2.1)
      refine ⟨fun b hb => ?_, fun c hc => hchars c (Progress.mem_insert delta hc)⟩
      rcases digit_of_readNumber hread b hb with hb | hb
      · exact hb
      · exact hdigits b hb

/-- A list without its longest end of elements that pass a test. -/
theorem take_sub_takeWhile {α : Type} (test : α → Bool) (list : List α) :
    list.take (list.length - (list.reverse.takeWhile test).reverse.length) =
      (list.reverse.dropWhile test).reverse := by
  have hparts : list =
      (list.reverse.dropWhile test).reverse ++ (list.reverse.takeWhile test).reverse := by
    rw [← List.reverse_append, List.takeWhile_append_dropWhile, List.reverse_reverse]
  have hlength := congrArg List.length hparts
  rw [List.length_append] at hlength
  have hfront : list.length - (list.reverse.takeWhile test).reverse.length =
      (list.reverse.dropWhile test).reverse.length := by omega
  rw [hfront]
  exact List.prefix_iff_eq_take.mp ⟨_, hparts.symm⟩ |>.symm

theorem mem_split {octets : List UInt8} {b : UInt8} (h : b ∈ octets) :
    b ∈ (split octets).1 ∨ b = 0x2D ∨ b ∈ (split octets).2 := by
  simp only [split, take_sub_takeWhile]
  have hparts := List.takeWhile_append_dropWhile (p := (· ≠ 0x2D)) (l := octets.reverse)
  rw [← List.mem_reverse, ← hparts, List.mem_append] at h
  rcases h with h | h
  · exact .inr (.inr (List.mem_reverse.mpr h))
  · cases hfront : octets.reverse.dropWhile (· ≠ 0x2D) with
    | nil =>
      rw [hfront] at h
      cases h
    | cons hyphen front =>
      rw [hfront] at h
      rcases List.mem_cons.mp h with rfl | h
      · have hhead := List.head?_dropWhile_not (· ≠ 0x2D) octets.reverse
        rw [hfront] at hhead
        exact .inr (.inl (by simpa using hhead))
      · exact .inl (by simpa using h)

theorem isAlphanum_of_digit {b : UInt8} (h : (digit? b).isSome) :
    (charOfCode b.toNat).isAlphanum = true := by
  have hall : ∀ n < 256, (digit? (UInt8.ofNat n)).isSome →
      (charOfCode n).isAlphanum = true := by decide +kernel
  exact hall b.toNat b.toNat_lt (by simpa using h)

/-- **What is read** are ASCII characters of the text, hyphens, letters and digits. -/
theorem mem_of_decode {octets : List UInt8} {text : List Char} (h : decode? octets = some text)
    {b : UInt8} (hb : b ∈ octets) : b < 0x80 ∧
      (charOfCode b.toNat ∈ text ∨ b = 0x2D ∨ (charOfCode b.toNat).isAlphanum = true) := by
  unfold decode? at h
  dsimp only at h
  split at h
  · rename_i hascii
    refine ⟨by simpa using List.all_eq_true.mp hascii b hb, ?_⟩
    split at h
    · rename_i chars hall
      cases h
      obtain ⟨hdigits, hchars⟩ := insertAll_eq_true hall
      rcases mem_split hb with hb | hb | hb
      · exact .inl (hchars _ (List.mem_map_of_mem hb))
      · exact .inr (.inl hb)
      · exact .inr (.inr (isAlphanum_of_digit (hdigits b hb)))
    · cases h
  · cases h

end Indicator.Text.Punycode
