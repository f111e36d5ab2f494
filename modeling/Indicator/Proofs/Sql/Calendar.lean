import Indicator.Proofs.Sql.Distinction

/-!
# The calendar of scopes

Months are compared as texts. Of months in six digits this is the calendar: between January and a
month of one year, in the order of texts, lie the months of that year with no greater number.

* `yearOf`, `monthNumber`: the two parts of a month in six digits.
* `between_append`, `pair_not_lt_iff`: texts in order, by their beginnings and by pairs of digits.
* `between_iff`: the months from January of a year up to one of its months.
* `Scope.Asks`: what a scope asks of the month of a row, in terms of the calendar.
* `Scope.predicate_calendar`: **the predicate of a scope asks for these months.**
-/

namespace Indicator

open Sql

/-! ### Months in six digits -/

/-- The year of a month in six digits. -/
def yearOf (month : String) : List Char := month.toList.take 4

/-- The number of a month in six digits, which need not be one of the twelve. -/
def monthNumber (month : String) : Nat := Nat.ofDigitChars 10 (month.toList.drop 4) 0

/-- What is not below one text, nor above another, begins as they do where they begin alike. -/
theorem between_append {head first last head' month : List Char}
    (hlength : head'.length = head.length) :
    ¬ head' ++ month < head ++ first ∧ ¬ head ++ last < head' ++ month ↔
      head' = head ∧ ¬ month < first ∧ ¬ last < month := by
  induction head generalizing head' with
  | nil =>
    obtain rfl := List.length_eq_zero_iff.mp hlength
    simp
  | cons a head ih =>
    obtain ⟨b, head', rfl⟩ := List.exists_cons_of_length_eq_add_one hlength
    have hrest := @ih head' (by simpa using hlength)
    simp only [List.cons_append, List.cons_lt_cons_iff, List.cons.injEq, not_or, not_and]
    constructor
    · rintro ⟨⟨hba, hlower⟩, hab, hupper⟩
      have hsame : b = a := Char.le_antisymm (Char.not_lt.mp hab) (Char.not_lt.mp hba)
      obtain ⟨rfl, hbounds⟩ := hrest.mp ⟨hlower hsame, hupper hsame.symm⟩
      exact ⟨⟨hsame, rfl⟩, hbounds⟩
    · rintro ⟨⟨rfl, rfl⟩, hbounds⟩
      obtain ⟨hlower, hupper⟩ := hrest.mpr ⟨rfl, hbounds⟩
      exact ⟨⟨Char.lt_irrefl _, fun _ => hlower⟩, Char.lt_irrefl _, fun _ => hupper⟩

theorem toNat_of_isDigit {c : Char} (h : c.isDigit = true) : 48 ≤ c.toNat ∧ c.toNat ≤ 57 := by
  simp only [Char.isDigit, ge_iff_le, Bool.and_eq_true, decide_eq_true_eq,
    UInt32.le_iff_toNat_le] at h
  exact h

theorem pair_not_lt_iff {a b c d : Char} (ha : a.isDigit = true) (hb : b.isDigit = true)
    (hc : c.isDigit = true) (hd : d.isDigit = true) :
    ¬ [c, d] < [a, b] ↔ Nat.ofDigitChars 10 [a, b] 0 ≤ Nat.ofDigitChars 10 [c, d] 0 := by
  have hlt : ∀ x y : Char, x < y ↔ x.toNat < y.toNat := fun x y => Iff.rfl
  have heq : ∀ x y : Char, x = y ↔ x.toNat = y.toNat := fun x y =>
    ⟨congrArg _, fun h => Char.toNat_inj.mp h⟩
  have hzero : '0'.toNat = 48 := rfl
  have := toNat_of_isDigit ha
  have := toNat_of_isDigit hb
  have := toNat_of_isDigit hc
  have := toNat_of_isDigit hd
  simp only [List.cons_lt_cons_iff, List.not_lt_nil, hlt, heq, Nat.ofDigitChars_cons,
    Nat.ofDigitChars_nil, hzero, and_false, or_false]
  omega

theorem parts_of_isCalendarMonth {month : String} (h : isCalendarMonth month = true) :
    (yearOf month).length = 4 ∧ ∃ a b, a.isDigit = true ∧ b.isDigit = true ∧
      month.toList = yearOf month ++ [a, b] := by
  rw [isCalendarMonth, Bool.and_eq_true, decide_eq_true_eq, ← String.length_toList] at h
  obtain ⟨hlength, hdigits⟩ := h
  have hrest : (month.toList.drop 4).length = 2 := by
    rw [List.length_drop, hlength]
  obtain ⟨a, b, hpair⟩ := List.length_eq_two.mp hrest
  have hsplit : month.toList = yearOf month ++ [a, b] := by
    rw [← hpair]
    exact (List.take_append_drop 4 month.toList).symm
  rw [hsplit, List.all_append, Bool.and_eq_true] at hdigits
  have hpairs := List.all_eq_true.mp hdigits.2
  exact ⟨by rw [yearOf, List.length_take, hlength]; rfl, a, b, hpairs a (by simp),
    hpairs b (by simp), hsplit⟩

theorem monthNumber_eq {month : String} {a b : Char} (hyear : (yearOf month).length = 4)
    (h : month.toList = yearOf month ++ [a, b]) :
    monthNumber month = Nat.ofDigitChars 10 [a, b] 0 := by
  rw [monthNumber, h, List.drop_left' hyear]

/-- **From January to a month of a year**: the months of that year with no greater number. -/
theorem between_iff {last month : String} (hlast : isCalendarMonth last = true)
    (hmonth : isCalendarMonth month = true) : januaryOf last ≤ month ∧ month ≤ last ↔
      yearOf month = yearOf last ∧ 1 ≤ monthNumber month ∧
        monthNumber month ≤ monthNumber last := by
  obtain ⟨hyear, a, b, ha, hb, heq⟩ := parts_of_isCalendarMonth hlast
  obtain ⟨hyear', c, d, hc, hd, heq'⟩ := parts_of_isCalendarMonth hmonth
  have hjanuary : (januaryOf last).toList = yearOf last ++ ['0', '1'] := by
    rw [januaryOf, String.toList_append, String.toList_ofList]
    rfl
  have hone : Nat.ofDigitChars 10 ['0', '1'] 0 = 1 := rfl
  have hle : ∀ x y : String, x ≤ y ↔ ¬ y.toList < x.toList := fun _ _ => Iff.rfl
  rw [monthNumber_eq hyear heq, monthNumber_eq hyear' heq', hle, hle, hjanuary, heq, heq',
    between_append (hyear'.trans hyear.symm), pair_not_lt_iff (by decide) (by decide) hc hd,
    pair_not_lt_iff hc hd ha hb, hone]

/-! ### Scopes -/

/-- **What a scope asks of the month of a row**, where `m` are the identifier characters of the
month that it was given and `comparison` is its predicate. -/
structure Scope.Asks (scope : Scope) (m table : String) (comparison : Comparison) : Prop where
  latest : m = "" → ∀ (greatest : String → String → String) (row : String → String),
    comparison.eval greatest row = true ↔ row Column.month = greatest Column.month table
  range : scope = .yearToDate → isCalendarMonth m = true →
    ∀ (greatest : String → String → String) (row : String → String),
      isCalendarMonth (row Column.month) = true → (comparison.eval greatest row = true ↔
        yearOf (row Column.month) = yearOf m ∧ 1 ≤ monthNumber (row Column.month) ∧
          monthNumber (row Column.month) ≤ monthNumber m)
  single : m ≠ "" → ¬ (scope = .yearToDate ∧ isCalendarMonth m = true) →
    ∀ (greatest : String → String → String) (row : String → String),
      comparison.eval greatest row = true ↔ row Column.month = m

theorem Scope.covers_iff {scope : Scope} {maxMonth : Option String} {latest month : String} :
    scope.Covers maxMonth latest month ↔
      if monthText maxMonth = "" then month = latest
      else if scope = .yearToDate ∧ isCalendarMonth (monthText maxMonth) = true then
        januaryOf (monthText maxMonth) ≤ month ∧ month ≤ monthText maxMonth
      else month = monthText maxMonth := by
  rw [Covers, normalMonth_eq]
  by_cases hempty : monthText maxMonth = ""
  · rw [if_pos hempty, if_pos hempty]
  · rw [if_neg hempty, if_neg hempty]

theorem Scope.asks_predicate (scope : Scope) (maxMonth : Option String) (table : String) :
    scope.Asks (monthText maxMonth) table (scope.predicate maxMonth table).comparison where
  latest hempty greatest row := by
    rw [eval_predicate, covers_iff, if_pos hempty]
  range hscope hcalendar greatest row hmonth := by
    have hsome : monthText maxMonth ≠ "" := by
      intro hempty
      rw [hempty] at hcalendar
      exact absurd hcalendar (by decide)
    rw [eval_predicate, covers_iff, if_neg hsome, if_pos ⟨hscope, hcalendar⟩,
      between_iff hcalendar hmonth]
  single hsome hnot greatest row := by
    rw [eval_predicate, covers_iff, if_neg hsome, if_neg hnot]

/-- The predicate of a scope can be read unless it names a table that is no word. -/
theorem Scope.readable_predicate (scope : Scope) (maxMonth : Option String) {table : String}
    (h : monthText maxMonth = "" → Word table) : (scope.predicate maxMonth table).Readable := by
  have hmonth : Word Column.month := by decide
  unfold predicate
  rw [normalMonth_eq]
  by_cases hempty : monthText maxMonth = ""
  · rw [if_pos hempty]
    exact ⟨by simpa [Predicate.names] using h hempty, by simp⟩
  · rw [if_neg hempty]
    dsimp only
    split
    · exact ⟨by simp [Predicate.names], by simp⟩
    · exact ⟨by simpa [Predicate.names] using hmonth, by simp⟩

/-- **The predicate of a scope asks for the months of the calendar.** It can be read back from its
text, where it stands for a comparison that asks for these months, and the text hangs on the month
that was given by its identifier characters alone. -/
theorem Scope.predicate_calendar (scope : Scope) (maxMonth : Option String) (table : String) :
    scope.Asks (monthText maxMonth) table (scope.predicate maxMonth table).comparison ∧
    (monthText maxMonth ≠ "" ∨ Word table →
      readCondition ("WHERE " ++ (scope.predicate maxMonth table).text) =
        some [(scope.predicate maxMonth table).comparison]) ∧
    (monthText maxMonth = "" → (scope.predicate maxMonth table).text =
      "cal_yr_mo_nbr = (SELECT MAX(cal_yr_mo_nbr) FROM " ++ table ++ ")") ∧
    ∀ other, monthText other = monthText maxMonth →
      (scope.predicate other table).text = (scope.predicate maxMonth table).text := by
  refine ⟨scope.asks_predicate maxMonth table, fun h => ?_, fun hempty => ?_,
    fun other hother => ?_⟩
  · have hreadable : (scope.predicate maxMonth table).Readable :=
      scope.readable_predicate maxMonth fun hempty => h.resolve_left (not_not_intro hempty)
    have hread := readCondition_conjunction (List.cons_ne_nil _ [])
      (List.forall_mem_singleton.mpr hreadable)
    exact hread
  · rw [predicate, normalMonth_eq, if_pos hempty]
    rfl
  · rw [predicate, predicate, normalMonth_eq, normalMonth_eq, hother]

/-- A month that is written with a sign is read as six digits, with which the year begins in its
first month and not before it. Without a year it is looked for as it is. -/
theorem Scope.predicate_calendar_dashed :
    (∃ comparison, readCondition ("WHERE " ++
        (Scope.yearToDate.predicate (some "2025-06") "kpi;").text) = some [comparison] ∧
      ∀ greatest, comparison.eval greatest (fun _ => "202503") = true ∧
        comparison.eval greatest (fun _ => "202500") = false ∧
        comparison.eval greatest (fun _ => "202412") = false ∧
        comparison.eval greatest (fun _ => "202507") = false) ∧
    ∃ comparison, readCondition ("WHERE " ++
        (Scope.yearToDate.predicate (some "２０２５06") "kpi;").text) = some [comparison] ∧
      ∀ greatest, comparison.eval greatest (fun _ => "06") = true ∧
        comparison.eval greatest (fun _ => "202503") = false := by
  constructor
  · obtain ⟨hasks, hread, -, -⟩ := Scope.yearToDate.predicate_calendar (some "2025-06") "kpi;"
    have hrange := hasks.range rfl (by decide)
    refine ⟨_, hread (.inl (by decide)), fun greatest => ⟨?_, ?_, ?_, ?_⟩⟩
    · exact (hrange greatest _ (by decide)).mpr (by decide)
    · exact Bool.eq_false_iff.mpr fun h => absurd ((hrange greatest _ (by decide)).mp h) (by decide)
    · exact Bool.eq_false_iff.mpr fun h => absurd ((hrange greatest _ (by decide)).mp h) (by decide)
    · exact Bool.eq_false_iff.mpr fun h => absurd ((hrange greatest _ (by decide)).mp h) (by decide)
  · obtain ⟨hasks, hread, -, -⟩ := Scope.yearToDate.predicate_calendar (some "２０２５06") "kpi;"
    have hsingle := hasks.single (by decide) (by decide)
    refine ⟨_, hread (.inl (by decide)), fun greatest => ⟨?_, ?_⟩⟩
    · exact (hsingle greatest _).mpr (by decide)
    · exact Bool.eq_false_iff.mpr fun h => absurd ((hsingle greatest _).mp h) (by decide)

end Indicator
