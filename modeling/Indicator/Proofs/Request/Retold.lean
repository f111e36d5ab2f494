import Mathlib.Data.List.Nodup
import Mathlib.Logic.Relation
import Indicator.Proofs.Request.Grammar

/-!
# The same request in other words

What a caller may change about the members of an object without changing what they say: the
spelling of a key, members that are not read, the order, and values that are taken for one another.

* `Retold`: one such change of an object of which some keys are read.
* `Key.Apart`: the spellings of the keys that are read do not clash.
* `Key.value?_retold`: **what does not tell values apart that are taken for one another has one
  result on all objects that are retold.**
-/

namespace Indicator

open Json (Document Members)

namespace Key

/-- The fields of a request, in order. -/
def fields : List Key := [contractVersion, kpi, groupBy, scope, maxMonth, filters]

/-- The spellings of a key. -/
def names (key : Key) : List String := [key.camel, key.snake]

/-- No spelling belongs to two of the keys. -/
def Apart (keys : List Key) : Prop :=
  ∀ key ∈ keys, ∀ other ∈ keys, ∀ name ∈ key.names, name ∈ other.names → key = other

theorem apart_fields : Apart fields := by unfold Apart; decide

theorem apart_dimensions : Apart dimensions := by unfold Apart; decide

end Key

/-- **One change of an object of which `keys` are read.** The values of a key that are taken for one
another are given by `alike`. -/
inductive Retold (keys : List Key) (alike : Key → Document → Document → Prop) :
    Members → Members → Prop
  /-- A key in camel case that is not there in its other spelling is spelled with underscores. -/
  | respelled {key : Key} {before after : Members} {value : Document} (hkey : key ∈ keys)
    (honly : ∀ member ∈ before ++ after, member.1 ∉ key.names) :
    Retold keys alike (before ++ (key.camel, value) :: after)
      (before ++ (key.snake, value) :: after)
  /-- A member that is not read is added. -/
  | extended {before after : Members} {name : String} {value : Document}
    (hname : ∀ key ∈ keys, name ∉ key.names) :
    Retold keys alike (before ++ after) (before ++ (name, value) :: after)
  /-- The members are put in another order. -/
  | reordered {members others : Members} (hnames : (members.map Prod.fst).Nodup)
    (horder : members.Perm others) : Retold keys alike members others
  /-- A value is exchanged for one that it is taken for. -/
  | revalued {key : Key} {before after : Members} {name : String} {value other : Document}
    (hkey : key ∈ keys) (hname : name ∈ key.names) (hvalue : alike key value other) :
    Retold keys alike (before ++ (name, value) :: after) (before ++ (name, other) :: after)

/-! ### Members of an object -/

namespace Json.Members

variable {before after members others : Members} {name key : String} {value other : Document}

theorem get?_append : Members.get? (before ++ after) key =
    (before.get? key).or (after.get? key) :=
  List.lookup_append

theorem get?_cons_self : Members.get? ((key, value) :: after) key = some value :=
  List.lookup_cons_self

theorem get?_cons_ne (h : key ≠ name) :
    Members.get? ((name, value) :: after) key = Members.get? after key := by
  rw [get?, List.lookup_cons, beq_false_of_ne h, get?]

theorem get?_eq_none : members.get? key = none ↔ ∀ member ∈ members, member.1 ≠ key := by
  simp only [get?, List.lookup_eq_none_iff, bne_iff_ne, ne_eq, @eq_comm _ key]

theorem get?_middle_ne (h : key ≠ name) :
    Members.get? (before ++ (name, value) :: after) key = Members.get? (before ++ after) key := by
  rw [get?_append, get?_cons_ne h, get?_append]

theorem get?_middle_self (h : ∀ member ∈ before, member.1 ≠ key) :
    Members.get? (before ++ (key, value) :: after) key = some value := by
  rw [get?_append, get?_eq_none.mpr h, get?_cons_self, Option.none_or]

/-- A member that is given another value is found as before or with this value. -/
theorem get?_middle_cases :
    Members.get? (before ++ (name, value) :: after) key =
        Members.get? (before ++ (name, other) :: after) key ∨
      Members.get? (before ++ (name, value) :: after) key = some value ∧
        Members.get? (before ++ (name, other) :: after) key = some other := by
  by_cases hname : key = name
  · subst hname
    rw [get?_append, get?_append, get?_cons_self, get?_cons_self]
    cases before.get? key with
    | some found => exact .inl rfl
    | none => exact .inr ⟨rfl, rfl⟩
  · rw [get?_middle_ne hname, get?_middle_ne hname]
    exact .inl rfl

theorem get?_eq_some (hnames : (members.map Prod.fst).Nodup) :
    members.get? key = some value ↔ (key, value) ∈ members := by
  induction members with
  | nil => simp [get?]
  | cons member rest ih =>
    obtain ⟨name, found⟩ := member
    rw [List.map_cons, List.nodup_cons] at hnames
    by_cases hname : key = name
    · subst hname
      have hrest : (key, value) ∉ rest := fun hmem =>
        hnames.1 (List.mem_map.mpr ⟨_, hmem, rfl⟩)
      rw [get?_cons_self, List.mem_cons, or_iff_left hrest]
      simp [eq_comm]
    · rw [get?_cons_ne hname, ih hnames.2, List.mem_cons]
      simp [hname]

/-- Where no name is there twice, the order makes no difference. -/
theorem get?_perm (hnames : (members.map Prod.fst).Nodup) (horder : members.Perm others) :
    members.get? key = others.get? key := by
  have hothers : (others.map Prod.fst).Nodup := (horder.map Prod.fst).nodup_iff.mp hnames
  refine Option.ext fun value => ?_
  rw [get?_eq_some hnames, get?_eq_some hothers, horder.mem_iff]

end Json.Members

/-! ### The value of a key -/

namespace Key

variable {key : Key} {before after : Members} {name : String} {value other : Document}

theorem value?_middle_notMem (h : name ∉ key.names) :
    key.value? (before ++ (name, value) :: after) = key.value? (before ++ after) := by
  obtain ⟨hcamel, hsnake⟩ : ¬ name = key.camel ∧ ¬ name = key.snake := by simpa [names] using h
  rw [value?, Members.get?_middle_ne (Ne.symm hcamel), Members.get?_middle_ne (Ne.symm hsnake),
    value?]

/-- The only member of a key has its value, however it is spelled. -/
theorem value?_middle_mem (hname : name ∈ key.names)
    (honly : ∀ member ∈ before ++ after, member.1 ∉ key.names) :
    key.value? (before ++ (name, value) :: after) = some value := by
  have hbefore : ∀ member ∈ before, member.1 ≠ name := fun member hmem heq =>
    honly member (List.mem_append_left after hmem) (heq ▸ hname)
  -- With underscores it is found only after the other spelling, which is not there.
  by_cases hcamel : key.camel = name
  · rw [value?, hcamel, Members.get?_middle_self hbefore, Option.some_or]
  · have hsnake : key.snake = name := by
      simpa [names, Ne.symm hcamel, eq_comm] using hname
    have hothers : Members.get? (before ++ after) key.camel = none :=
      Members.get?_eq_none.mpr fun member hmem heq =>
        honly member hmem (heq ▸ List.mem_cons_self)
    rw [value?, Members.get?_middle_ne hcamel, hothers, hsnake,
      Members.get?_middle_self hbefore, Option.none_or]

/-- A key of which one member is given another value has its value as before or this value. -/
theorem value?_middle_cases (key : Key) :
    key.value? (before ++ (name, value) :: after) =
        key.value? (before ++ (name, other) :: after) ∨
      key.value? (before ++ (name, value) :: after) = some value ∧
        key.value? (before ++ (name, other) :: after) = some other := by
  unfold value?
  rcases Members.get?_middle_cases with hcamel | ⟨hcamel, hcamel'⟩
  · rw [hcamel]
    cases Members.get? (before ++ (name, other) :: after) key.camel with
    | some found => exact .inl rfl
    | none =>
      rw [Option.none_or, Option.none_or]
      exact Members.get?_middle_cases
  · rw [hcamel, hcamel', Option.some_or, Option.some_or]
    exact .inr ⟨rfl, rfl⟩

end Key

section

variable {keys : List Key} {alike : Key → Document → Document → Prop} {members others : Members}
  {β : Type} {f : Option Document → β}

/-- One change: it is made to members of the key itself, or to some that it does not look at. -/
theorem Retold.value? (h : Retold keys alike members others) (hkeys : Key.Apart keys) {key : Key}
    (hkey : key ∈ keys)
    (hf : ∀ value other, alike key value other → f (some value) = f (some other)) :
    f (key.value? members) = f (key.value? others) := by
  cases h with
  | @respelled respelled before after value hrespelled honly =>
    by_cases heq : key = respelled
    · subst heq
      have hsnake : key.snake ∈ key.names := List.mem_cons_of_mem _ List.mem_cons_self
      rw [Key.value?_middle_mem List.mem_cons_self honly, Key.value?_middle_mem hsnake honly]
    · have hapart : ∀ name ∈ respelled.names, name ∉ key.names := fun name hname hmem =>
        heq (hkeys key hkey respelled hrespelled name hmem hname)
      rw [Key.value?_middle_notMem (hapart _ List.mem_cons_self),
        Key.value?_middle_notMem (hapart _ (List.mem_cons_of_mem _ List.mem_cons_self))]
  | extended hname => rw [Key.value?_middle_notMem (hname key hkey)]
  | reordered hnames horder =>
    rw [Key.value?, Members.get?_perm hnames horder, Members.get?_perm hnames horder, Key.value?]
  | @revalued revalued before after name value other hrevalued hname hvalue =>
    by_cases heq : key = revalued
    · subst heq
      rcases key.value?_middle_cases with hsame | ⟨hbefore, hafter⟩
      · rw [hsame]
      · rw [hbefore, hafter]
        exact hf _ _ hvalue
    · have hapart : name ∉ key.names := fun hmem =>
        heq (hkeys key hkey revalued hrevalued name hmem hname)
      rw [Key.value?_middle_notMem hapart, Key.value?_middle_notMem hapart]

/-- **What does not tell values apart that are taken for one another has one result on all objects
that are retold.** -/
theorem Key.value?_retold (h : Relation.EqvGen (Retold keys alike) members others)
    (hkeys : Key.Apart keys) {key : Key} (hkey : key ∈ keys)
    (hf : ∀ value other, alike key value other → f (some value) = f (some other)) :
    f (key.value? members) = f (key.value? others) := by
  induction h with
  | rel members others hretold => exact hretold.value? hkeys hkey hf
  | refl members => rfl
  | symm members others _ ih => exact ih.symm
  | trans members between others _ _ ih ih' => exact ih.trans ih'

end

end Indicator
