import Indicator.Failure
import Indicator.Json.Writing

/-!
# Documents of finite numbers

A document without doubles that are infinite or no numbers is written as it is.

* `Document.finite_eq_self`: nothing of such a document is left out.
* `Failure.isFinite_details`: the details of a failure hold no doubles.
-/

namespace Indicator

namespace Json.Document

/-! ### Nothing is left out -/

mutual

theorem finite_eq_self : ∀ {document : Document}, document.isFinite = true →
    document.finite = document
  | null, _ => rfl
  | bool _, _ => rfl
  | int _, _ => rfl
  | float value, h => by
    rw [isFinite, Bool.not_eq_true'] at h
    rw [finite, h]
    rfl
  | str _, _ => rfl
  | list items, h => by rw [finite, finiteItems_eq_self h]
  | object members, h => by rw [finite, finiteMembers_eq_self h]

theorem finiteItems_eq_self : ∀ {items : List Document}, itemsAreFinite items = true →
    finiteItems items = items
  | [], _ => rfl
  | item :: rest, h => by
    rw [itemsAreFinite, Bool.and_eq_true] at h
    rw [finiteItems, finite_eq_self h.1, finiteItems_eq_self h.2]

theorem finiteMembers_eq_self : ∀ {members : List (String × Document)},
    membersAreFinite members = true → finiteMembers members = members
  | [], _ => rfl
  | (key, value) :: rest, h => by
    rw [membersAreFinite, Bool.and_eq_true] at h
    rw [finiteMembers, finite_eq_self h.1, finiteMembers_eq_self h.2]

end

theorem itemsAreFinite_map {α : Type} (toDocument : α → Document)
    (h : ∀ a, (toDocument a).isFinite = true) (items : List α) :
    itemsAreFinite (items.map toDocument) = true := by
  induction items with
  | nil => rfl
  | cons item rest ih => rw [List.map_cons, itemsAreFinite, h, ih, Bool.and_self]

theorem isFinite_ofText (text : Option String) : (ofText? text).isFinite = true := by
  cases text <;> rfl

theorem membersAreFinite_append (first second : Members) :
    membersAreFinite (first ++ second) = (membersAreFinite first && membersAreFinite second) := by
  induction first with
  | nil => rfl
  | cons member first ih => rw [List.cons_append, membersAreFinite, membersAreFinite, ih,
      Bool.and_assoc]

end Json.Document

open Json (Document Members)
open Json.Document (membersAreFinite membersAreFinite_append itemsAreFinite_map isFinite_ofText)

/-! ### Failures -/

theorem isFinite_statementDetail (statement : Option String) :
    membersAreFinite (statementDetail statement) = true := by
  cases statement <;> rfl

theorem Ending.isFinite_details (ending : Ending) : membersAreFinite ending.details = true := by
  simp only [details, membersAreFinite, isFinite_ofText, Document.isFinite, Bool.and_self]

/-- **The details of a failure hold no doubles.** -/
theorem Failure.isFinite_details (failure : Failure) : membersAreFinite failure.details = true := by
  cases failure with
  | unknownKpi name =>
    have hnames := itemsAreFinite_map Document.str (fun _ => rfl) kpiNames
    simp only [details, membersAreFinite, Document.isFinite, hnames, Bool.and_self]
  | malformedRequest faults =>
    have hfaults := itemsAreFinite_map FieldFault.toDocument (fun _ => rfl) faults
    simp only [details, membersAreFinite, Document.isFinite, hfaults, Bool.and_self]
  | refused phase status message statement =>
    rw [details, membersAreFinite_append, isFinite_statementDetail]
    rfl
  | rejected ending statement =>
    rw [details, membersAreFinite_append, isFinite_statementDetail, ending.isFinite_details]
    rfl
  | ended ending => exact ending.isFinite_details
  | breach what => cases what <;> rfl
  | _ => rfl

end Indicator
