import Indicator.Json.Writing
import Indicator.Proofs.Text.Whole

/-!
# Documents without lone surrogates

A document all of whose texts are whole, keys among them, is shown and written as a whole text, and
what is looked up in it, or set in its objects, is whole again.

* `Document.Whole`, `Members.Whole`: all texts are whole.
* `Document.Whole.text`, `Document.isWhole_write`: the texts of a whole document, as it is shown and
  as it is written, are whole.
-/

namespace Indicator

open Text (isScalar isWhole isWhole_iff isWhole_ofList isWhole_append isWhole_intercalate)

namespace Number

/-! ### Numbers -/

theorem isScalar_toDigits {n : Nat} : ∀ c ∈ Nat.toDigits 10 n, isScalar c = true := fun _ hc =>
  Text.isScalar_of_isDigit (Nat.isDigit_of_mem_toDigits (by decide) (by decide) hc)

theorem isWhole_exponentText (power : Int) : isWhole (exponentText power) = true := by
  unfold exponentText
  dsimp only
  rw [isWhole_append, Bool.and_eq_true, isWhole_ofList]
  constructor
  · split <;> decide
  · split
    · exact List.forall_mem_cons.mpr ⟨by decide, isScalar_toDigits⟩
    · exact isScalar_toDigits

theorem isWhole_write (layout : Layout) (x : Decimal) : isWhole (layout.write x) = true := by
  have hdigits := isScalar_toDigits (n := x.digits)
  have hzeros : ∀ count : Nat, ∀ c ∈ List.replicate count '0', isScalar c = true := by
    intro count c hc
    rw [List.eq_of_mem_replicate hc]
    decide
  unfold Layout.write
  dsimp only
  split
  · split
    · rw [isWhole_append, Bool.and_eq_true, isWhole_ofList, List.forall_mem_append]
      refine ⟨⟨hdigits, hzeros _⟩, ?_⟩
      split <;> decide
    · split
      · rw [isWhole_ofList, List.forall_mem_append, List.forall_mem_cons]
        exact ⟨fun c hc => hdigits c (List.mem_of_mem_take hc), by decide,
          fun c hc => hdigits c (List.mem_of_mem_drop hc)⟩
      · rw [isWhole_ofList, List.cons_append, List.cons_append, List.forall_mem_cons,
          List.forall_mem_cons, List.forall_mem_append]
        exact ⟨by decide, by decide, hzeros _, hdigits⟩
  · split
    · decide
    · rename_i first heq
      rw [heq] at hdigits
      rw [isWhole_append, isWhole_exponentText, Bool.and_true, isWhole_ofList]
      exact hdigits
    · rename_i first rest _ heq
      rw [heq, List.forall_mem_cons] at hdigits
      rw [isWhole_append, isWhole_exponentText, Bool.and_true, isWhole_ofList, List.forall_mem_cons,
        List.forall_mem_cons]
      exact ⟨hdigits.1, by decide, hdigits.2⟩

theorem isWhole_floatText (x : Float) : isWhole (floatText x) = true := by
  unfold floatText Layout.floatText
  split
  · decide
  · split <;> decide
  · rw [isWhole_append, isWhole_write, Bool.and_true]
    split <;> decide

end Number

namespace Json

/-! ### Texts of documents -/

/-- All texts of a document are whole: free of lone surrogates, and of what stands for them. -/
def Document.Whole (document : Document) : Prop := ∀ text ∈ document.texts, isWhole text = true

/-- All keys are whole, and all texts of the values. -/
def Members.Whole (members : Members) : Prop :=
  ∀ text ∈ Document.textsOfMembers members, isWhole text = true

namespace Document

mutual

theorem texts_finite : ∀ document : Document, document.finite.texts = document.texts
  | null => rfl
  | bool _ => rfl
  | int _ => rfl
  | float value => by
    rw [finite]
    split <;> rfl
  | str _ => rfl
  | list items => by
    rw [finite, texts, texts, texts_finiteItems items]
  | object members => by
    rw [finite, texts, texts, texts_finiteMembers members]

theorem texts_finiteItems : ∀ items : List Document,
    textsOfItems (finiteItems items) = textsOfItems items
  | [] => rfl
  | item :: rest => by
    rw [finiteItems, textsOfItems, textsOfItems, texts_finite item, texts_finiteItems rest]

theorem texts_finiteMembers : ∀ members : List (String × Document),
    textsOfMembers (finiteMembers members) = textsOfMembers members
  | [] => rfl
  | (key, value) :: rest => by
    rw [finiteMembers, textsOfMembers, textsOfMembers, texts_finite value, texts_finiteMembers rest]

end

theorem whole_str {value : String} : (str value).Whole ↔ isWhole value = true := by
  simp [Whole, texts]

theorem whole_object {members : Members} : (object members).Whole ↔ members.Whole := Iff.rfl

theorem whole_list {items : List Document} : (list items).Whole ↔ ∀ item ∈ items, item.Whole := by
  have hitems : ∀ items : List Document,
      (∀ text ∈ textsOfItems items, isWhole text = true) ↔ ∀ item ∈ items, item.Whole := by
    intro items
    induction items with
    | nil => simp [textsOfItems]
    | cons item rest ih =>
      rw [textsOfItems, List.forall_mem_append, List.forall_mem_cons, ih]
      rfl
  exact hitems items

theorem whole_bool (value : Bool) : (bool value).Whole := by
  simp [Whole, texts]

end Document

namespace Members

theorem whole_nil : Members.Whole [] := by
  simp [Whole, Document.textsOfMembers]

theorem whole_cons {key : String} {value : Document} {rest : Members} :
    Members.Whole ((key, value) :: rest) ↔ isWhole key = true ∧ value.Whole ∧ rest.Whole := by
  unfold Whole
  rw [Document.textsOfMembers, List.forall_mem_cons, List.forall_mem_append]
  rfl

theorem whole_append {first second : Members} :
    Members.Whole (first ++ second) ↔ first.Whole ∧ second.Whole := by
  induction first with
  | nil => simp [whole_nil]
  | cons member rest ih =>
    rw [List.cons_append, whole_cons, whole_cons, ih, and_assoc, and_assoc]

theorem Whole.get {members : Members} (h : members.Whole) {key : String} {value : Document}
    (hget : members.get? key = some value) : value.Whole := by
  induction members with
  | nil => cases hget
  | cons member rest ih =>
    obtain ⟨name, found⟩ := member
    rw [whole_cons] at h
    unfold get? at hget
    rw [List.lookup_cons] at hget
    split at hget
    · obtain rfl := Option.some.inj hget
      exact h.2.1
    · exact ih h.2.2 hget

theorem Whole.insert {members : Members} (h : members.Whole) {key : String} {value : Document}
    (hkey : isWhole key = true) (hvalue : value.Whole) : (members.insert key value).Whole := by
  induction members with
  | nil => exact whole_cons.mpr ⟨hkey, hvalue, whole_nil⟩
  | cons member rest ih =>
    rw [whole_cons] at h
    rw [Members.insert]
    split
    · exact whole_cons.mpr ⟨hkey, hvalue, h.2.2⟩
    · exact whole_cons.mpr ⟨h.1, h.2.1, ih h.2.2⟩

end Members

/-! ### Shown texts -/

namespace Document

mutual

theorem isWhole_inspect : ∀ document : Document, document.Whole → isWhole document.inspect = true
  | null, _ => by decide
  | bool value, _ => by cases value <;> decide
  | int value, _ => Text.isWhole_toString value
  | float value, _ => Number.isWhole_floatText value
  | str _, h => Text.isWhole_quoted (whole_str.mp h)
  | list items, h => by
    rw [inspect, isWhole_append, isWhole_append,
      isWhole_intercalate (by decide) (isWhole_inspectItems items (whole_list.mp h))]
    decide
  | object members, h => by
    rw [inspect, isWhole_append, isWhole_append,
      isWhole_intercalate (by decide) (isWhole_inspectMembers members h)]
    decide

theorem isWhole_inspectItems : ∀ items : List Document, (∀ item ∈ items, item.Whole) →
    ∀ text ∈ inspectItems items, isWhole text = true
  | [], _ => by simp [inspectItems]
  | item :: rest, h => by
    rw [List.forall_mem_cons] at h
    rw [inspectItems, List.forall_mem_cons]
    exact ⟨isWhole_inspect item h.1, isWhole_inspectItems rest h.2⟩

theorem isWhole_inspectMembers : ∀ members : List (String × Document), Members.Whole members →
    ∀ text ∈ inspectMembers members, isWhole text = true
  | [], _ => by simp [inspectMembers]
  | (key, value) :: rest, h => by
    rw [Members.whole_cons] at h
    rw [inspectMembers, List.forall_mem_cons]
    refine ⟨?_, isWhole_inspectMembers rest h.2.2⟩
    rw [isWhole_append, isWhole_append, Text.isWhole_quoted h.1, isWhole_inspect value h.2.1]
    decide

end

theorem Whole.text {document : Document} (h : document.Whole) : isWhole document.text = true := by
  cases document with
  | str value => exact whole_str.mp h
  | _ => exact isWhole_inspect _ h

/-! ### Written texts -/

theorem isScalar_escapedChar {c : Char} (h : isScalar c = true) :
    ∀ d ∈ escapedChar c, isScalar d = true := by
  unfold escapedChar
  split
  case h_8 =>
    split
    · rw [List.forall_mem_cons, List.forall_mem_cons]
      exact ⟨by decide, by decide, Text.isScalar_hexDigits⟩
    · exact List.forall_mem_singleton.mpr h
  all_goals exact Text.isScalar_escaped (by decide)

theorem isWhole_writeString {text : String} (h : isWhole text = true) :
    isWhole (writeString text) = true := by
  have hcontent : isWhole (String.ofList (text.toList.flatMap escapedChar)) = true := by
    refine isWhole_ofList.mpr fun d hd => ?_
    obtain ⟨c, hc, hd⟩ := List.mem_flatMap.mp hd
    exact isScalar_escapedChar (isWhole_iff.mp h c hc) d hd
  rw [writeString, isWhole_append, isWhole_append, hcontent]
  decide

mutual

theorem isWhole_write : ∀ document : Document, document.Whole → isWhole document.write = true
  | null, _ => by decide
  | bool value, _ => by cases value <;> decide
  | int value, _ => Text.isWhole_toString value
  | float value, _ => Number.isWhole_floatText value
  | str _, h => isWhole_writeString (whole_str.mp h)
  | list items, h => by
    rw [write, isWhole_append, isWhole_append,
      isWhole_intercalate (by decide) (isWhole_writeItems items (whole_list.mp h))]
    decide
  | object members, h => by
    rw [write, isWhole_append, isWhole_append,
      isWhole_intercalate (by decide) (isWhole_writeMembers members h)]
    decide

theorem isWhole_writeItems : ∀ items : List Document, (∀ item ∈ items, item.Whole) →
    ∀ text ∈ writeItems items, isWhole text = true
  | [], _ => by simp [writeItems]
  | item :: rest, h => by
    rw [List.forall_mem_cons] at h
    rw [writeItems, List.forall_mem_cons]
    exact ⟨isWhole_write item h.1, isWhole_writeItems rest h.2⟩

theorem isWhole_writeMembers : ∀ members : List (String × Document), Members.Whole members →
    ∀ text ∈ writeMembers members, isWhole text = true
  | [], _ => by simp [writeMembers]
  | (key, value) :: rest, h => by
    rw [Members.whole_cons] at h
    rw [writeMembers, List.forall_mem_cons]
    refine ⟨?_, isWhole_writeMembers rest h.2.2⟩
    rw [isWhole_append, isWhole_append, isWhole_writeString h.1, isWhole_write value h.2.1]
    decide

end

end Document

end Json

end Indicator
