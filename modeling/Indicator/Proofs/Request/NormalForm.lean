import Indicator.Compile
import Indicator.Proofs.Request.Retold
import Indicator.Proofs.Text.Case

/-!
# Requests are normal forms

What is read of a payload is what the payload says, in whatever words: a request that is written
out is read as itself, and payloads that say the same are read as one request.

* `AlikeValues`, `AlikeFields`: the values of filters, and of requests, that are taken for one
  another. `Filters.Alike`, `KpiRequest.Alike`: the objects that say the same.
* `Conforms.of_alike`, `KpiRequest.Reads.of_alike`: such objects conform alike, and have the same
  requests.
* `KpiRequest.fromPayload_eq_ok`, `KpiRequest.Reads.unique`: a request is read from the objects that
  conform, one from each.
* `KpiRequest.fromPayload_toDocument`: a request is read from its own document, where its month is
  not the empty text.
* `KpiRequest.fromPayload_normal`: **a request and its statement depend on what is said alone.**
-/

namespace Indicator

open Json (Document Members)

/-! ### Values that are taken for one another -/

/-- A string, a number or a truth value. -/
def Json.Document.isScalar : Document → Bool
  | bool _ | int _ | float _ | str _ => true
  | _ => false

/-- **Values of a filter that are taken for one another.** -/
inductive AlikeValues : Document → Document → Prop
  /-- A list and this list with a `null` more. -/
  | skipped {before after : List Document} :
    AlikeValues (.list (before ++ after)) (.list (before ++ .null :: after))
  /-- A single value and the list of it. -/
  | single {value : Document} (h : value.isScalar = true) : AlikeValues value (.list [value])

/-- Filters that say the same: any number of changes leads from one to the other. -/
abbrev Filters.Alike : Members → Members → Prop :=
  Relation.EqvGen (Retold Key.dimensions fun _ => AlikeValues)

/-- **Values of a request that are taken for one another.** -/
inductive AlikeFields (key : Key) : Document → Document → Prop
  /-- Names that differ in the case of ASCII letters. -/
  | name {text other : String} (hkey : key = .groupBy ∨ key = .scope)
    (h : Text.lowerAscii text = Text.lowerAscii other) : AlikeFields key (.str text) (.str other)
  /-- Filters that say the same. -/
  | filters {members others : Members} (hkey : key = .filters) (h : Filters.Alike members others) :
    AlikeFields key (.object members) (.object others)

/-- **Requests that say the same**: any number of changes leads from one to the other. -/
abbrev KpiRequest.Alike : Members → Members → Prop :=
  Relation.EqvGen (Retold Key.fields AlikeFields)

theorem AlikeValues.isValues {value other : Document} (h : AlikeValues value other) :
    isValues (some value) = isValues (some other) := by
  cases h with
  | skipped => rfl
  | single hscalar =>
    cases value with
    | object members => cases hscalar
    | _ => rfl

theorem AlikeValues.valuesOf {value other : Document} (h : AlikeValues value other) :
    valuesOf (some value) = valuesOf (some other) := by
  cases h with
  | skipped => simp [Indicator.valuesOf, Document.isNull]
  | single hscalar =>
    cases value with
    | null | list _ | object _ => cases hscalar
    | _ => rfl

/-! ### Filters that say the same -/

section

variable {members others : Members} (h : Filters.Alike members others)

include h

theorem isFilters_alike :
    isFilters (some (.object members)) = isFilters (some (.object others)) := by
  have hvalues : ∀ key ∈ Key.dimensions,
      isValues (key.value? members) = isValues (key.value? others) := fun key hkey =>
    Key.value?_retold h Key.apart_dimensions hkey fun _ _ => AlikeValues.isValues
  rw [isFilters, isFilters, Bool.eq_iff_iff, List.all_eq_true, List.all_eq_true]
  exact forall₂_congr fun key hkey => by rw [hvalues key hkey]

theorem Filters.Reads.of_alike {filters : Filters} (hreads : filters.Reads members) :
    filters.Reads others := by
  have hvalues : ∀ key ∈ Key.dimensions,
      valuesOf (key.value? members) = valuesOf (key.value? others) := fun key hkey =>
    Key.value?_retold h Key.apart_dimensions hkey fun _ _ => AlikeValues.valuesOf
  simp only [Key.dimensions, List.forall_mem_cons] at hvalues
  obtain ⟨hmegabrand, hregion, hstate, hwholesalerId, hchannel, -⟩ := hvalues
  exact ⟨hreads.megabrand.trans hmegabrand, hreads.region.trans hregion,
    hreads.state.trans hstate, hreads.wholesalerId.trans hwholesalerId,
    hreads.channel.trans hchannel⟩

end

theorem Filters.reads_iff {filters : Filters} {members others : Members}
    (h : Filters.Alike members others) : filters.Reads members ↔ filters.Reads others :=
  ⟨Filters.Reads.of_alike h, Filters.Reads.of_alike (.symm _ _ h)⟩

/-! ### Requests that say the same -/

section

variable {key : Key} {value other : Document}

/-- Most fields have no values that are taken for others. -/
theorem not_alikeFields (hkey : key ∉ [Key.groupBy, Key.scope, Key.filters]) :
    ¬ AlikeFields key value other := by
  rintro (⟨rfl | rfl, -⟩ | ⟨rfl, -⟩) <;> exact hkey (by decide)

variable {fold : String → String}
  (hfold : ∀ {text other}, Text.lowerAscii text = Text.lowerAscii other → fold text = fold other)

include hfold

theorem AlikeFields.isName (hkey : key ≠ .filters) (h : AlikeFields key value other)
    (names : List String) :
    isName fold names (some value) = isName fold names (some other) := by
  cases h with
  | name _ htext => rw [Indicator.isName, hfold htext, Indicator.isName]
  | filters hfilters => exact absurd hfilters hkey

theorem AlikeFields.nameOf (h : AlikeFields key value other) (absent : String) :
    nameOf fold absent (some value) = nameOf fold absent (some other) := by
  cases h with
  | name _ htext => exact hfold htext
  | filters => rfl

end

section

variable {members others : Members} (h : KpiRequest.Alike members others)

include h

theorem value?_unalike {key : Key} (hkey : key ∈ Key.fields)
    (hunalike : key ∉ [Key.groupBy, Key.scope, Key.filters]) :
    key.value? members = key.value? others :=
  Key.value?_retold (f := id) h Key.apart_fields hkey fun _ _ halike =>
    absurd halike (not_alikeFields hunalike)

theorem filters_alike {β : Type} {f : Option Document → β}
    (hf : ∀ {filters retold : Members}, Filters.Alike filters retold →
      f (some (.object filters)) = f (some (.object retold))) :
    f (Key.filters.value? members) = f (Key.filters.value? others) := by
  refine Key.value?_retold h Key.apart_fields (by decide) fun value other halike => ?_
  cases halike with
  | name hkey => exact absurd hkey (by decide)
  | filters _ halike => exact hf halike

theorem Conforms.of_alike (hmembers : Conforms members) : Conforms others where
  version := by
    rw [← value?_unalike h (by decide) (by decide)]
    exact hmembers.version
  kpi := by
    rw [← value?_unalike h (by decide) (by decide)]
    exact hmembers.kpi
  groupBy := by
    rw [← hmembers.groupBy]
    exact (Key.value?_retold h Key.apart_fields (by decide) fun _ _ halike =>
      halike.isName Text.lower_congr (by decide) _).symm
  scope := by
    rw [← hmembers.scope]
    exact (Key.value?_retold h Key.apart_fields (by decide) fun _ _ halike =>
      halike.isName Text.upper_congr (by decide) _).symm
  filters := by
    rw [← filters_alike h isFilters_alike]
    exact hmembers.filters

theorem KpiRequest.Reads.of_alike {request : KpiRequest} (hreads : request.Reads members) :
    request.Reads others where
  versioned := by
    rw [← value?_unalike h (by decide) (by decide)]
    exact hreads.versioned
  kpi := by
    rw [← value?_unalike h (by decide) (by decide)]
    exact hreads.kpi
  groupBy := hreads.groupBy.trans (Key.value?_retold h Key.apart_fields (by decide)
    fun _ _ halike => halike.nameOf Text.lower_congr _)
  scope := hreads.scope.trans (Key.value?_retold h Key.apart_fields (by decide)
    fun _ _ halike => halike.nameOf Text.upper_congr _)
  maxMonth := by
    rw [← value?_unalike h (by decide) (by decide)]
    exact hreads.maxMonth
  filters := by
    have hsame := filters_alike h
      (f := fun value => request.filters.Reads (filterMembers value))
      fun halike => propext (Filters.reads_iff halike)
    rw [← hsame]
    exact hreads.filters

end

/-! ### What is read is one request -/

theorem Grouping.ofName?_name (grouping : Grouping) : ofName? grouping.name = some grouping := by
  cases grouping <;> rfl

theorem Scope.ofName?_name (scope : Scope) : ofName? scope.name = some scope := by
  cases scope <;> rfl

theorem Grouping.name_injective : Function.Injective Grouping.name := fun grouping other h =>
  Option.some.inj (by rw [← ofName?_name, h, ofName?_name])

theorem Scope.name_injective : Function.Injective Scope.name := fun scope other h =>
  Option.some.inj (by rw [← ofName?_name, h, ofName?_name])

theorem Filters.Reads.unique {filters other : Filters} {members : Members}
    (h : filters.Reads members) (hother : other.Reads members) : filters = other := by
  obtain ⟨megabrand, region, state, wholesalerId, channel⟩ := filters
  obtain ⟨rfl, rfl, rfl, rfl, rfl⟩ := h
  obtain ⟨megabrand, region, state, wholesalerId, channel⟩ := other
  obtain ⟨rfl, rfl, rfl, rfl, rfl⟩ := hother
  rfl

theorem KpiRequest.Reads.unique {request other : KpiRequest} {members : Members}
    (h : request.Reads members) (hother : other.Reads members) : request = other := by
  have hkpi : request.kpi = other.kpi := by
    simpa using h.kpi.symm.trans hother.kpi
  have hgroupBy := Grouping.name_injective (h.groupBy.trans hother.groupBy.symm)
  have hscope := Scope.name_injective (h.scope.trans hother.scope.symm)
  have hversioned := h.versioned.trans hother.versioned.symm
  have hmaxMonth := h.maxMonth.trans hother.maxMonth.symm
  have hfilters := h.filters.unique hother.filters
  cases request
  cases other
  simp only [KpiRequest.mk.injEq]
  exact ⟨hversioned, hkpi, hgroupBy, hscope, hmaxMonth, hfilters⟩

/-- **A request is read of the members that conform**, and it is the one that they say. -/
theorem KpiRequest.ofMembers_eq_ok {members : Members} {request : KpiRequest} :
    ofMembers members = .ok request ↔ Conforms members ∧ request.Reads members := by
  have htells := tells_members members
  constructor
  · intro h
    exact ⟨conforms_iff.mpr (htells.eq_ok.mp ⟨_, h⟩), htells.of_ok h⟩
  · rintro ⟨hconforms, hreads⟩
    obtain ⟨found, hfound⟩ := htells.eq_ok.mpr (conforms_iff.mp hconforms)
    rw [hfound, (htells.of_ok hfound).unique hreads]

theorem membersOf_eq_ok {name : String} {document : Document} {members : Members} :
    membersOf name document = .ok members ↔ document = .object members := by
  cases document with
  | object found => simp [membersOf]
  | _ => simp [membersOf, Checked.refuse]

theorem orEmpty_object (members : Members) : orEmpty (.object members) = .object members := by
  cases members <;> rfl

theorem KpiRequest.fromPayload_eq_ok {payload : Document} {request : KpiRequest} :
    fromPayload ofDocument payload = .ok request ↔
      ∃ members, payload = .object members ∧ Conforms members ∧ request.Reads members := by
  rw [fromPayload, mapError_eq_ok, ofDocument, bind_eq_ok]
  simp only [membersOf_eq_ok, ofMembers_eq_ok]
  constructor
  · rintro ⟨members, hobject, hconforms, hreads⟩
    refine ⟨members, ?_, hconforms, hreads⟩
    unfold orEmpty at hobject
    split at hobject
    · exact hobject
    · cases hobject
      exact absurd hconforms.kpi (by decide)
  · rintro ⟨members, rfl, hconforms, hreads⟩
    exact ⟨members, orEmpty_object members, hconforms, hreads⟩

/-! ### A request that is written out -/

theorem Filters.reads_toDocument (filters : Filters) :
    filters.Reads (filterMembers (some filters.toDocument)) := by
  have hvalues : ∀ list : List String, list = valuesOf (some (.list (list.map .str))) := by
    intro list
    have hkept : (list.map Document.str).filter (fun item => !item.isNull) = list.map .str :=
      List.filter_eq_self.mpr fun item hitem => by
        obtain ⟨text, -, rfl⟩ := List.mem_map.mp hitem
        rfl
    rw [valuesOf, hkept, List.map_map]
    exact (List.map_id list).symm
  exact ⟨hvalues _, hvalues _, hvalues _, hvalues _, hvalues _⟩

theorem Grouping.isGrouping_name (grouping : Grouping) :
    isGrouping (some (.str grouping.name)) = true := by
  cases grouping <;> decide +kernel

theorem Grouping.lower_name (grouping : Grouping) : Text.lower grouping.name = grouping.name := by
  cases grouping <;> decide +kernel

theorem Scope.isScope_name (scope : Scope) : isScope (some (.str scope.name)) = true := by
  cases scope <;> decide +kernel

theorem Scope.upper_name (scope : Scope) : Text.upper scope.name = scope.name := by
  cases scope <;> decide +kernel

/-- **A request is read from its own document**, unless its month is the empty text, which no
reading gives. -/
theorem KpiRequest.fromPayload_toDocument {request : KpiRequest} (h : request.maxMonth ≠ some "") :
    fromPayload ofDocument request.toDocument = .ok request := by
  obtain ⟨versioned, kpi, groupBy, scope, maxMonth, filters⟩ := request
  -- Only here the month counts: an empty one would be read as none.
  have hmonth : maxMonth = monthOf (some (.ofText? maxMonth)) := by
    cases maxMonth with
    | none => rfl
    | some month =>
      have hne : month ≠ "" := fun hempty => h (hempty ▸ rfl)
      simp [Document.ofText?, monthOf, hne, Document.text]
  refine fromPayload_eq_ok.mpr ⟨_, rfl, ?_, ?_⟩
  · exact {
      version := by cases versioned <;> rfl
      kpi := rfl
      groupBy := groupBy.isGrouping_name
      scope := scope.isScope_name
      filters := rfl }
  · exact {
      versioned := by cases versioned <;> rfl
      kpi := rfl
      groupBy := groupBy.lower_name.symm
      scope := scope.upper_name.symm
      maxMonth := hmonth
      filters := filters.reads_toDocument }

/-! ### Texts that are not empty -/

theorem Number.Layout.write_ne_empty (layout : Number.Layout) (x : Number.Decimal) :
    layout.write x ≠ "" := by
  unfold write
  dsimp only
  split
  · split
    · simp
    · split <;> simp
  · split
    · rename_i hdigits
      exact absurd hdigits Nat.toDigits_ne_nil
    · simp
    · simp

theorem Number.floatText_ne_empty (x : Float) : Number.floatText x ≠ "" := by
  unfold floatText Layout.floatText
  split
  · decide
  · split <;> decide
  · simp [Layout.write_ne_empty]

theorem int_repr_ne_empty (n : Int) : n.repr ≠ "" := by
  cases n with
  | ofNat n => exact Nat.repr_ne_empty
  | negSucc n => simp [Int.repr]

/-- Only the empty string has no text. -/
theorem Json.Document.text_eq_empty {value : Document} : value.text = "" ↔ value = .str "" := by
  cases value with
  | str value => simp [text]
  | null => simp [text, inspect]
  | bool value => cases value <;> simp [text, inspect]
  | int value => simp [text, inspect, int_repr_ne_empty]
  | float value => simp [text, inspect, Number.floatText_ne_empty]
  | list items => simp [text, inspect]
  | object members => simp [text, inspect]

theorem monthOf_ne_empty (value : Option Document) : monthOf value ≠ some "" := by
  unfold monthOf
  split
  · simp
  · simp
  · simp
  · rename_i value hnone hnull hempty
    rw [ne_eq, Option.some.injEq, Document.text_eq_empty]
    rintro rfl
    exact hempty rfl

/-! ### Whatever words a request is put in -/

/-- **A request and its statement depend on what is said alone.** A request that was read is read
again from its own document, and from every object that says the same as the payload, which gives
the same statement. -/
theorem KpiRequest.fromPayload_normal {payload : Document} {request : KpiRequest}
    (h : fromPayload ofDocument payload = .ok request) :
    fromPayload ofDocument request.toDocument = .ok request ∧
    ∃ members, payload = .object members ∧
      ∀ others, Alike members others →
        fromPayload ofDocument (.object others) = .ok request ∧
        ∀ space rowLimit exclusion,
          (fromPayload ofDocument (.object others) >>= (·.statement space rowLimit exclusion)) =
            (fromPayload ofDocument payload >>= (·.statement space rowLimit exclusion)) := by
  obtain ⟨members, hpayload, hconforms, hreads⟩ := fromPayload_eq_ok.mp h
  have hmonth : request.maxMonth ≠ some "" := hreads.maxMonth ▸ monthOf_ne_empty _
  refine ⟨fromPayload_toDocument hmonth, members, hpayload, fun others halike => ?_⟩
  have hothers : fromPayload ofDocument (.object others) = .ok request :=
    fromPayload_eq_ok.mpr ⟨others, rfl, hconforms.of_alike halike, hreads.of_alike halike⟩
  refine ⟨hothers, fun space rowLimit exclusion => ?_⟩
  rw [hothers, h]

/-- The grouping is spelled in another way and another case, a value stands in a list with a `null`,
two members that are not read come and go, and the filters move to the front. -/
theorem KpiRequest.fromPayload_normal_region :
    ∃ request, fromPayload ofDocument (.object [("kpi", .str "volume"),
        ("group_by", .str "REGION"),
        ("filters", .object [("city", .null), ("state", .str "CA")])]) = .ok request ∧
      fromPayload ofDocument request.toDocument = .ok request ∧
      fromPayload ofDocument (.object [("filters", .object [("state", .list [.str "CA", .null])]),
        ("kpi", .str "volume"), ("groupBy", .str "region"), ("trace", .int 1)]) = .ok request := by
  obtain ⟨request, hread⟩ := (tells_members [("kpi", .str "volume"), ("group_by", .str "REGION"),
    ("filters", .object [("city", .null), ("state", .str "CA")])]).eq_ok.mpr
      (conforms_iff.mp ⟨by decide, by decide, by decide, by decide, by decide⟩)
  have hpayload := fromPayload_eq_ok.mpr ⟨_, rfl, ofMembers_eq_ok.mp hread⟩
  -- Of the filters, the city goes, the state is put in a list, and the list gets a `null`.
  have hfilters : Filters.Alike [("city", .null), ("state", .str "CA")]
      [("state", .list [.str "CA", .null])] := by
    refine .trans _ _ _ (.symm _ _ (.rel [("state", .str "CA")] _ ?_))
      (.trans _ [("state", .list [.str "CA"])] _ (.rel _ _ ?_) (.rel _ _ ?_))
    · exact @Retold.extended _ _ [] _ "city" .null (by decide)
    · exact @Retold.revalued _ _ .state [] [] _ _ _ (by decide) (by decide) (.single rfl)
    · exact @Retold.revalued _ _ .state [] [] _ _ _ (by decide) (by decide)
        (@AlikeValues.skipped [.str "CA"] [])
  obtain ⟨hdump, members, hmembers, hnormal⟩ := fromPayload_normal hpayload
  cases hmembers
  refine ⟨request, hpayload, hdump, (hnormal _ ?_).1⟩
  -- Spelling, case, filters, a member more, and the order.
  refine .trans _ [("kpi", .str "volume"), ("groupBy", .str "REGION"),
    ("filters", .object [("city", .null), ("state", .str "CA")])] _ (.symm _ _ (.rel _ _ ?_))
    (.trans _ [("kpi", .str "volume"), ("groupBy", .str "region"),
      ("filters", .object [("city", .null), ("state", .str "CA")])] _ (.rel _ _ ?_)
    (.trans _ [("kpi", .str "volume"), ("groupBy", .str "region"),
      ("filters", .object [("state", .list [.str "CA", .null])])] _ (.rel _ _ ?_)
    (.trans _ [("kpi", .str "volume"), ("groupBy", .str "region"),
      ("filters", .object [("state", .list [.str "CA", .null])]), ("trace", .int 1)] _
      (.rel _ _ ?_) (.rel _ _ ?_))))
  · exact @Retold.respelled _ _ .groupBy [_] [_] _ (by decide) (by decide)
  · exact @Retold.revalued _ _ .groupBy [_] [_] _ _ _ (by decide) (by decide)
      (.name (.inl rfl) (by decide))
  · exact @Retold.revalued _ _ .filters [_, _] [] _ _ _ (by decide) (by decide)
      (.filters rfl hfilters)
  · exact @Retold.extended _ _ [_, _, _] [] _ _ (by decide)
  · exact .reordered (by decide) (@List.perm_middle _ _ [_, _] [_])

end Indicator
