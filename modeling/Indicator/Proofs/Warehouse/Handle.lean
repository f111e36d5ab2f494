import Indicator.Proofs.Warehouse.Shape

/-!
# What is read of an answer about a statement

An answer that has the shape of a handle is read as one handle, and every other answer breaks the
rules of the warehouse.

* `ErrorText`: a text that the error in a status tells. `Handle.Reads`: what a handle has of the
  members of an answer.
* `Handle.reads_of_read`, `Handle.Reads.unique`: what is read is that, and nothing else has it.
* `Handle.read_grammar`: **the answers that are read as handles are those of this shape**, each as
  the handle that it tells of.
-/

namespace Indicator.Warehouse

open Json (Document Members)

/-- What the error in a status has under a name: the text of a value that is not `null`, and none if
there is no such value. -/
def ErrorText (status : Members) (name : String) (text? : Option String) : Prop :=
  ∀ text, text? = some text ↔ ∃ (error : Members) (value : Document),
    Document.member status "error" = .object error ∧ error.get? name = some value ∧
      value ≠ .null ∧ value.text = text

theorem ErrorText.unique {status : Members} {name : String} {first second : Option String}
    (hfirst : ErrorText status name first) (hsecond : ErrorText status name second) :
    first = second :=
  Option.ext fun text => (hfirst text).trans (hsecond text).symm

namespace Handle

/-- **What a handle has of the members of an answer** about a statement that was asked for under
`known`. A result that is `null` counts as an empty one. -/
structure Reads (known : Option String) (body : Members) (handle : Handle) : Prop where
  statementId : if (Document.member body "statement_id").truthy
    then handle.statementId = (Document.member body "statement_id").text
    else known = some handle.statementId
  stated : ∃ status : Members, Document.member body "status" = .object status ∧
    Document.member status "state" = .str handle.state.name ∧
    ErrorText status "message" handle.errorMessage ∧
    ErrorText status "error_code" handle.errorCode
  result : ∀ members, handle.result = some members ↔ handle.state = .succeeded ∧
    ∃ value, body.get? "result" = some value ∧
      (value = .object members ∨ value = .null ∧ members = [])
  manifest : ∀ members, handle.manifest = some members ↔
    Document.member body "manifest" = .object members

/-! ### Parts -/

theorem idOf_eq_some {body : Members} {known : Option String} {id : String}
    (h : idOf? body known = some id) : if (Document.member body "statement_id").truthy
      then id = (Document.member body "statement_id").text else known = some id := by
  unfold idOf? at h
  dsimp only at h
  split at h
  · rename_i hgiven
    rw [if_pos hgiven]
    exact (Option.some.inj h).symm
  · rename_i hgiven
    rw [if_neg hgiven]
    split at h
    · cases h
    · cases h
    · exact h

theorem textOf_eq_some {value : Document} {text : String} :
    textOf? value = some text ↔ value ≠ .null ∧ value.text = text := by
  cases value <;> simp [textOf?]

theorem membersOf_eq_some {value : Document} {members : Members} :
    membersOf? value = some members ↔ value = .object members := by
  cases value <;> simp [membersOf?]

theorem objectOf_eq_ok {field id : String} {value : Document} {members : Members} :
    objectOf field id value = .ok members ↔
      value = .object members ∨ value = .null ∧ members = [] := by
  cases value <;> simp [objectOf, eq_comm]

/-- A member has a text if it is told and is not `null`. -/
theorem textOf_member_eq_some {members : Members} {name text : String} :
    textOf? (Document.member members name) = some text ↔
      ∃ value, members.get? name = some value ∧ value ≠ .null ∧ value.text = text := by
  rw [textOf_eq_some, Document.member]
  cases members.get? name <;> simp

theorem errorText_of_objectOf {status error : Members} {id : String} (name : String)
    (h : objectOf "status.error" id (Document.member status "error") = .ok error) :
    ErrorText status name (textOf? (Document.member error name)) := by
  intro text
  rw [textOf_member_eq_some]
  rcases objectOf_eq_ok.mp h with herror | ⟨hnull, rfl⟩
  · rw [herror]
    simp
  · rw [hnull]
    simp [Members.get?]

theorem resultOf_eq_ok {state : State} {body : Members} {id : String} {result : Option Members}
    (h : resultOf state body id = .ok result) (members : Members) :
    result = some members ↔ state = .succeeded ∧ ∃ value, body.get? "result" = some value ∧
      (value = .object members ∨ value = .null ∧ members = []) := by
  unfold resultOf at h
  split at h
  · rename_i value hvalue
    obtain ⟨found, hfound, rfl⟩ := map_eq_ok.mp h
    have hmembers : objectOf "result" id value = .ok members ↔ found = members := by
      rw [hfound, Except.ok.injEq]
    rw [Option.some.injEq, ← hmembers, objectOf_eq_ok]
    simp [hvalue]
  · rename_i hnot
    cases h
    constructor
    · intro hnone
      cases hnone
    · rintro ⟨rfl, value, hvalue, -⟩
      exact absurd hvalue (hnot value rfl)

/-! ### Handles -/

/-- What is read of an answer is what it holds. -/
theorem reads_of_read {body : Members} {known : Option String} {handle : Handle}
    (h : read (.object body) known = .ok handle) : handle.Reads known body := by
  unfold read at h
  dsimp only at h
  split at h
  · cases h
  · rename_i id hid
    obtain ⟨status, hstatus, h⟩ := bind_eq_ok.mp h
    split at h
    · cases h
    · rename_i state hstate
      obtain ⟨error, herror, h⟩ := bind_eq_ok.mp h
      obtain ⟨result, hresult, h⟩ := bind_eq_ok.mp h
      cases h
      rw [stateOf_eq_some] at hstate
      have hobject : Document.member body "status" = .object status := by
        rcases objectOf_eq_ok.mp hstatus with hobject | ⟨-, rfl⟩
        · exact hobject
        · cases hstate
      exact ⟨idOf_eq_some hid, ⟨status, hobject, hstate, errorText_of_objectOf "message" herror,
        errorText_of_objectOf "error_code" herror⟩, resultOf_eq_ok hresult,
        fun members => membersOf_eq_some⟩

theorem Reads.unique {body : Members} {known : Option String} {first second : Handle}
    (hfirst : first.Reads known body) (hsecond : second.Reads known body) : first = second := by
  obtain ⟨status, hstatus, hstate, hmessage, hcode⟩ := hfirst.stated
  obtain ⟨status', hstatus', hstate', hmessage', hcode'⟩ := hsecond.stated
  obtain rfl : status = status' := Document.object.inj (hstatus.symm.trans hstatus')
  have hname : first.state = second.state := by
    have hnames := Document.str.inj (hstate.symm.trans hstate')
    rw [← Option.some.injEq, ← State.ofName_eq_some.mpr rfl, hnames, State.ofName_eq_some.mpr rfl]
  have hid : first.statementId = second.statementId := by
    have hgiven := hfirst.statementId
    have hgiven' := hsecond.statementId
    split at hgiven
    · rename_i htruthy
      rw [if_pos htruthy] at hgiven'
      exact hgiven.trans hgiven'.symm
    · rename_i htruthy
      rw [if_neg htruthy] at hgiven'
      exact Option.some.inj (hgiven.symm.trans hgiven')
  have hresult : first.result = second.result := Option.ext fun members => by
    rw [hfirst.result, hsecond.result, hname]
  have hmanifest : first.manifest = second.manifest := Option.ext fun members =>
    (hfirst.manifest members).trans (hsecond.manifest members).symm
  have herror := hmessage.unique hmessage'
  have herrorCode := hcode.unique hcode'
  cases first
  cases second
  simp only [Handle.mk.injEq]
  exact ⟨hid, hname, hresult, hmanifest, herror, herrorCode⟩

/-- **The answers that are read as handles are those of this shape.** Each is read as the one handle
that has what the answer holds, and every other answer breaks the rules of the warehouse. -/
theorem read_grammar (answer : Document) (known : Option String) :
    (∀ handle, read answer known = .ok handle ↔
      ∃ body, answer = .object body ∧ HandleShape known body ∧ handle.Reads known body) ∧
    ((∃ handle, read answer known = .ok handle) ↔
      ∃ body, answer = .object body ∧ HandleShape known body) ∧
    ((∃ what, read answer known = .error what ∧
        (Failure.breach what).kind = .integrityViolation) ↔
      ¬ ∃ body, answer = .object body ∧ HandleShape known body) := by
  refine ⟨fun handle => ⟨fun h => ?_, ?_⟩, read_ok_iff, ?_⟩
  · obtain ⟨body, rfl, hshape⟩ := read_ok_iff.mp ⟨handle, h⟩
    exact ⟨body, rfl, hshape, reads_of_read h⟩
  · rintro ⟨body, rfl, hshape, hreads⟩
    obtain ⟨found, hfound⟩ := read_ok_iff.mpr ⟨body, rfl, hshape⟩
    rw [hfound, (reads_of_read hfound).unique hreads]
  · rw [← read_ok_iff]
    cases hread : read answer known with
    | ok handle => simp
    | error what => simp [Failure.kind]

/-- An identifier that counts as false gives way to the one that was asked for, and a result that is
`null` is there. -/
example : read (.object [("statement_id", .bool false),
    ("status", .object [("state", .str "SUCCEEDED")]), ("result", .null)]) (some "stmt-1") =
      .ok ⟨"stmt-1", .succeeded, some [], none, none, none⟩ := rfl

end Handle

end Indicator.Warehouse
