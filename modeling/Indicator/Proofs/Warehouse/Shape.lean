import Indicator.Proofs.Outcome
import Indicator.Proofs.Warehouse.History

/-!
# The shapes of answers

What an answer of the warehouse has to look like, told without the order in which it is read.

* `HandleShape known body`: the members of an answer about a statement that was asked for under
  `known`. `Handle.read_ok_iff`: an answer is read as a handle if and only if it has this shape.
* `ResultShape result`: a result that holds rows, or says that it has none.
  `Handle.page_isSome_iff`: exactly these have a first page.
* `ChunkShape document`: a chunk with rows. `Stage.chunk_isSome_iff`.
-/

namespace Indicator.Warehouse

open Json (Document Members)

/-! ### Handles -/

theorem State.ofName_eq_some {name : String} {state : State} :
    State.ofName? name = some state ↔ name = state.name := by
  constructor
  · intro h
    have hname := List.find?_some h
    exact (of_decide_eq_true hname).symm
  · rintro rfl
    cases state <;> decide

theorem Handle.stateOf_eq_some {told : Document} {state : State} :
    Handle.stateOf? told = some state ↔ told = .str state.name := by
  unfold stateOf?
  split
  · rename_i name
    rw [State.ofName_eq_some, Document.str.injEq]
  · rename_i hnot
    constructor
    · intro h
      cases h
    · intro h
      exact absurd h (hnot _)

/-- A value that may be left out, but is an object if it is told. -/
def Optional (value : Document) : Prop := value = .null ∨ ∃ members, value = .object members

theorem Handle.objectOf_ok_iff (field id : String) {value : Document} :
    (∃ members, Handle.objectOf field id value = .ok members) ↔ Optional value := by
  unfold objectOf Optional
  cases value <;> simp

/-- **The shape of an answer about a statement** that was asked for under `known`. -/
structure HandleShape (known : Option String) (body : Members) : Prop where
  identified : (Document.member body "statement_id").truthy ∨ ∃ id, known = some id ∧ id ≠ ""
  stated : ∃ (status : Members) (state : State), Document.member body "status" = .object status ∧
    Document.member status "state" = .str state.name ∧ Optional (Document.member status "error") ∧
    (state = .succeeded → ∀ value, body.get? "result" = some value → Optional value)

theorem Handle.idOf_isSome_iff {body : Members} {known : Option String} :
    (∃ id, Handle.idOf? body known = some id) ↔
      (Document.member body "statement_id").truthy ∨ ∃ id, known = some id ∧ id ≠ "" := by
  unfold idOf?
  dsimp only
  by_cases hgiven : (Document.member body "statement_id").truthy
  · rw [if_pos hgiven]
    exact ⟨fun _ => .inl hgiven, fun _ => ⟨_, rfl⟩⟩
  · rw [if_neg hgiven]
    split
    · simp [hgiven]
    · simp [hgiven]
    · rename_i id hempty
      have hne : id ≠ "" := by
        rintro rfl
        exact hempty rfl
      exact ⟨fun _ => .inr ⟨id, rfl, hne⟩, fun _ => ⟨id, rfl⟩⟩

theorem Handle.resultOf_ok_iff (id : String) {state : State} {body : Members} :
    (∃ result, Handle.resultOf state body id = .ok result) ↔
      (state = .succeeded → ∀ value, body.get? "result" = some value → Optional value) := by
  unfold resultOf
  split
  · rename_i value hvalue
    constructor
    · rintro ⟨result, hresult⟩ - found hfound
      obtain rfl : value = found := by
        rw [hvalue] at hfound
        exact Option.some.inj hfound
      obtain ⟨members, hmembers, -⟩ := map_eq_ok.mp hresult
      exact (objectOf_ok_iff _ id).mp ⟨members, hmembers⟩
    · intro h
      obtain ⟨members, hmembers⟩ := (objectOf_ok_iff "result" id).mpr (h rfl value hvalue)
      exact ⟨some members, map_eq_ok.mpr ⟨members, hmembers, rfl⟩⟩
  · rename_i hnot
    refine ⟨?_, fun _ => ⟨none, rfl⟩⟩
    rintro - rfl value hvalue
    exact absurd hvalue (hnot value rfl)

/-- **An answer is read as a handle if and only if it has the shape of one.** -/
theorem Handle.read_ok_iff {answer : Document} {known : Option String} :
    (∃ handle, Handle.read answer known = .ok handle) ↔
      ∃ body, answer = .object body ∧ HandleShape known body := by
  cases answer with
  | object body =>
    constructor
    · rintro ⟨handle, h⟩
      refine ⟨body, rfl, ?_⟩
      unfold read at h
      dsimp only at h
      split at h
      · cases h
      · rename_i id hid
        obtain ⟨status, hstatus, h⟩ := bind_eq_ok.mp h
        split at h
        · cases h
        · rename_i state hstate
          obtain ⟨error, herror, h⟩ := bind_eq_ok.mp h
          obtain ⟨result, hresult, -⟩ := bind_eq_ok.mp h
          rw [stateOf_eq_some] at hstate
          refine ⟨idOf_isSome_iff.mp ⟨id, hid⟩, status, state, ?_, hstate,
            (objectOf_ok_iff _ id).mp ⟨error, herror⟩, (resultOf_ok_iff id).mp ⟨result, hresult⟩⟩
          rcases (objectOf_ok_iff _ id).mp ⟨status, hstatus⟩ with hnull | ⟨members, hmembers⟩
          · rw [hnull] at hstatus
            cases hstatus
            cases hstate
          · rw [hmembers] at hstatus ⊢
            cases hstatus
            rfl
    · rintro ⟨_, hbody, hidentified, status, state, hstatus, hstate, herror, hresult⟩
      cases hbody
      obtain ⟨id, hid⟩ := idOf_isSome_iff.mpr hidentified
      obtain ⟨error, herror⟩ := (objectOf_ok_iff "status.error" id).mpr herror
      obtain ⟨result, hresult⟩ := (resultOf_ok_iff id).mpr hresult
      have hstatus' : objectOf "status" id (Document.member body "status") = .ok status := by
        rw [hstatus]
        rfl
      have hstate' := stateOf_eq_some.mpr hstate
      simp only [read, hid, hstatus', bind, Except.bind, hstate', herror, hresult]
      exact ⟨_, rfl⟩
  | _ => simp [read]

/-! ### Results -/

/-- **The shape of a result**: a list of rows, or none at all if the count of rows is zero. -/
def ResultShape (result : Members) : Prop :=
  (∃ rows, Document.member result "data_array" = .list rows) ∨
    (Document.member result "data_array" = .null ∧ (Document.member result "row_count").isZero)

/-- A first page comes exactly with a success whose result is told and has its shape. -/
theorem Handle.page_isSome_iff {handle : Handle} :
    (∃ page, handle.page? = some page) ↔
      handle.state = .succeeded ∧ ∃ result, handle.result = some result ∧ ResultShape result := by
  unfold page? ResultShape
  split
  · rename_i result hstate hresult
    cases hdata : Document.member result "data_array" <;> simp [hstate, hresult, hdata]
  · rename_i hnot
    constructor
    · rintro ⟨page, hpage⟩
      cases hpage
    · rintro ⟨hstate, result, hresult, -⟩
      exact absurd hresult (hnot result hstate)

/-- **The shape of a chunk**: an object with a list of rows. -/
def ChunkShape (document : Document) : Prop :=
  ∃ chunk rows, document = .object chunk ∧ Document.member chunk "data_array" = .list rows

theorem Stage.chunk_isSome_iff {document : Document} :
    (∃ chunk, Stage.chunk? document = some chunk) ↔ ChunkShape document := by
  unfold chunk? ChunkShape
  cases document with
  | object chunk =>
    cases hdata : Document.member chunk "data_array" <;> simp [hdata]
  | _ => simp

end Indicator.Warehouse
