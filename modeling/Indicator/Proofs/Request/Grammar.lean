import Indicator.Proofs.Request.Whole

/-!
# The grammar of requests

Which documents are requests for an indicator, what is read of them, and what is told about the
others, said without the reader.

* `Key.value?`, `Key.spelled`: the value of a member, and its name as the caller spelled it.
* `Conforms`: the members of a request. `offences`: the paths to those that do not conform.
  `conforms_iff`: members conform where there is no such path.
* `KpiRequest.Reads`: what a request has of its members.
* `Checked.Tells`: what a check gives of a value, or the paths of its faults. `Tells.read` and
  `Tells.along` put checks together.
* `KpiRequest.fromPayload_grammar`: **the requests that are read are those of the grammar**, and all
  faults of the others are told.
-/

namespace Indicator

open Json (Document Members)

/-! ### Members -/

namespace Key

/-- The value of a member: the spelling in camel case wins. -/
def value? (key : Key) (members : Members) : Option Document :=
  (members.get? key.camel).or (members.get? key.snake)

/-- The name of a member as the caller spelled it, in camel case if it is missing. -/
def spelled (key : Key) (members : Members) : String :=
  if members.get? key.camel = none ∧ (members.get? key.snake).isSome then key.snake else key.camel

/-- The dimensions of filters, in order. -/
def dimensions : List Key := [megabrand, region, state, wholesalerId, channel]

/-- A member is checked under its spelling. -/
theorem read_eq {α : Type} (key : Key) (members : Members) (absent : Checked α)
    (check : Document → Checked α) : key.read members absent check =
      Checked.under (key.spelled members) ((key.value? members).elim absent check) := by
  unfold read spelled value?
  cases members.get? key.camel with
  | some value => rfl
  | none => cases members.get? key.snake <;> rfl

end Key

/-! ### The grammar -/

/-- Absent, `null`, or the name of the version. -/
def isVersion : Option Document → Bool
  | none | some .null => true
  | some (.str text) => text = "kpi_request.v1"
  | _ => false

def isString : Option Document → Bool
  | some (.str _) => true
  | _ => false

/-- Absent, or one of a few names once it is brought to one case. -/
def isName (fold : String → String) (names : List String) : Option Document → Bool
  | none => true
  | some (.str text) => names.contains (fold text)
  | _ => false

def isGrouping : Option Document → Bool :=
  isName Text.lower ["time", "megabrand", "region", "state", "wholesaler", "channel"]

def isScope : Option Document → Bool := isName Text.upper ["MTD", "YTD"]

/-- Anything but an object. -/
def isValues : Option Document → Bool
  | some (.object _) => false
  | _ => true

/-- Absent, or an object of which no dimension is an object. -/
def isFilters : Option Document → Bool
  | none => true
  | some (.object members) => Key.dimensions.all fun key => isValues (key.value? members)
  | _ => false

/-- **The members of a request.** The month may be anything. -/
structure Conforms (members : Members) : Prop where
  version : isVersion (Key.contractVersion.value? members) = true
  kpi : isString (Key.kpi.value? members) = true
  groupBy : isGrouping (Key.groupBy.value? members) = true
  scope : isScope (Key.scope.value? members) = true
  filters : isFilters (Key.filters.value? members) = true

/-- The path to a member that does not fit. -/
def Key.offence (key : Key) (members : Members) (fits : Option Document → Bool) :
    List (List String) :=
  if fits (key.value? members) then [] else [[key.spelled members]]

/-- The paths to what does not fit in filters: to their dimensions, or to all of them. -/
def filterOffences : Option Document → List (List String)
  | none => []
  | some (.object members) => Key.dimensions.flatMap (·.offence members isValues)
  | some _ => [[]]

/-- **The paths to what does not conform**, in the order in which the fields are declared. -/
def offences (members : Members) : List (List String) :=
  Key.contractVersion.offence members isVersion ++ Key.kpi.offence members isString ++
    Key.groupBy.offence members isGrouping ++ Key.scope.offence members isScope ++
    (filterOffences (Key.filters.value? members)).map (Key.filters.spelled members :: ·)

theorem Key.offence_eq_nil {key : Key} {members : Members} {fits : Option Document → Bool} :
    key.offence members fits = [] ↔ fits (key.value? members) = true := by
  simp [offence]

theorem filterOffences_eq_nil {value : Option Document} :
    filterOffences value = [] ↔ isFilters value = true := by
  cases value with
  | none => simp [filterOffences, isFilters]
  | some document =>
    cases document with
    | object members => simp [filterOffences, isFilters, Key.offence_eq_nil]
    | _ => simp [filterOffences, isFilters]

theorem conforms_iff {members : Members} : Conforms members ↔ offences members = [] := by
  simp only [offences, List.append_eq_nil_iff, List.map_eq_nil_iff, Key.offence_eq_nil,
    filterOffences_eq_nil]
  constructor
  · intro h
    exact ⟨⟨⟨⟨h.version, h.kpi⟩, h.groupBy⟩, h.scope⟩, h.filters⟩
  · rintro ⟨⟨⟨⟨hversion, hkpi⟩, hgroupBy⟩, hscope⟩, hfilters⟩
    exact ⟨hversion, hkpi, hgroupBy, hscope, hfilters⟩

/-! ### What is read -/

/-- The name that a member stands for. -/
def nameOf (fold : String → String) (absent : String) : Option Document → String
  | some (.str text) => fold text
  | _ => absent

/-- The text of a month; absent, `null` and the empty string name none. -/
def monthOf : Option Document → Option String
  | none | some .null | some (.str "") => none
  | some value => some value.text

/-- The values of a filter: none if it is absent or `null`, the texts of the items that are not
`null` of a list, and the text of any other value. -/
def valuesOf : Option Document → List String
  | none | some .null => []
  | some (.list items) => (items.filter fun item => !item.isNull).map Document.text
  | some value => [value.text]

/-- The members of filters. -/
def filterMembers : Option Document → Members
  | some (.object members) => members
  | _ => []

/-- What filters have of their members. -/
structure Filters.Reads (filters : Filters) (members : Members) : Prop where
  megabrand : filters.megabrand = valuesOf (Key.megabrand.value? members)
  region : filters.region = valuesOf (Key.region.value? members)
  state : filters.state = valuesOf (Key.state.value? members)
  wholesalerId : filters.wholesalerId = valuesOf (Key.wholesalerId.value? members)
  channel : filters.channel = valuesOf (Key.channel.value? members)

/-- **What a request has of its members.** -/
structure KpiRequest.Reads (request : KpiRequest) (members : Members) : Prop where
  versioned : request.versioned = isString (Key.contractVersion.value? members)
  kpi : Key.kpi.value? members = some (.str request.kpi)
  groupBy : request.groupBy.name = nameOf Text.lower "time" (Key.groupBy.value? members)
  scope : request.scope.name = nameOf Text.upper "YTD" (Key.scope.value? members)
  maxMonth : request.maxMonth = monthOf (Key.maxMonth.value? members)
  filters : request.filters.Reads (filterMembers (Key.filters.value? members))

/-! ### Checks -/

namespace Checked

variable {α β : Type}

/-- **A check gives a value of which `P` holds, or faults at these paths.** -/
inductive Tells (P : α → Prop) : Checked α → List (List String) → Prop
  | ok {a : α} (h : P a) : Tells P (.ok a) []
  | error {faults : List FieldFault} (h : faults ≠ []) :
    Tells P (.error faults) (faults.map FieldFault.path)

namespace Tells

variable {P : α → Prop} {checked : Checked α} {paths more : List (List String)}

theorem refuse (complaint : Complaint) : Tells P (Checked.refuse complaint) [[]] :=
  error (List.cons_ne_nil _ _)

theorem under (h : Tells P checked paths) (key : String) :
    Tells P (Checked.under key checked) (paths.map (key :: ·)) := by
  cases h with
  | ok h => exact ok h
  | @error faults h =>
    have hpaths : (faults.map (·.under key)).map FieldFault.path =
        (faults.map FieldFault.path).map (key :: ·) := by
      rw [List.map_map, List.map_map]
      rfl
    rw [← hpaths]
    exact error (by simpa using h)

theorem map (h : Tells P checked paths) {Q : β → Prop} {f : α → β} (hf : ∀ a, P a → Q (f a)) :
    Tells Q (checked.map f) paths := by
  cases h with
  | ok h => exact ok (hf _ h)
  | error h => exact error h

/-- The faults of two checks come one after the other. -/
theorem along {soFar : Checked (α → β)} {Q : β → Prop}
    (hsoFar : Tells (fun f => ∀ a, P a → Q (f a)) soFar paths) (h : Tells P checked more) :
    Tells Q (Checked.along checked soFar) (paths ++ more) := by
  cases hsoFar with
  | ok hf =>
    cases h with
    | ok hP => exact ok (hf _ hP)
    | error h => exact error h
  | error hfaults =>
    cases h with
    | ok hP =>
      rw [List.append_nil]
      exact error hfaults
    | error h =>
      rw [← List.map_append]
      exact error (by simp [h])

/-- A member is told about under its spelling. -/
theorem read {key : Key} {members : Members} {absent : Checked α} {check : Document → Checked α}
    (h : Tells P ((key.value? members).elim absent check) paths) :
    Tells P (key.read members absent check) (paths.map (key.spelled members :: ·)) := by
  rw [Key.read_eq]
  exact h.under _

/-- A member with one fault at most. -/
theorem readFitting {key : Key} {members : Members} {absent : Checked α}
    {check : Document → Checked α} {fits : Option Document → Bool}
    (h : Tells P ((key.value? members).elim absent check)
      (if fits (key.value? members) then [] else [[]])) :
    Tells P (key.read members absent check) (key.offence members fits) := by
  have hread := h.read
  rw [apply_ite (List.map _)] at hread
  exact hread

theorem eq_ok (h : Tells P checked paths) : (∃ a, checked = .ok a) ↔ paths = [] := by
  cases h with
  | ok h => simp
  | error h => simpa using h

theorem of_ok {a : α} (h : Tells P checked paths) (hok : checked = .ok a) : P a := by
  cases h with
  | ok h =>
    cases hok
    exact h
  | error h => cases hok

theorem of_error {faults : List FieldFault} (h : Tells P checked paths)
    (herror : checked = .error faults) : faults.map FieldFault.path = paths := by
  cases h with
  | ok h => cases herror
  | error h =>
    cases herror
    rfl

end Tells

end Checked

open Checked (Tells)

/-! ### Fields -/

theorem tells_version (value : Option Document) :
    Tells (· = isString value) (value.elim (.ok false) readVersion)
      (if isVersion value then [] else [[]]) := by
  cases value with
  | none => exact .ok rfl
  | some document =>
    cases document with
    | null => exact .ok rfl
    | str text =>
      by_cases htext : text = contractVersion
      · subst htext
        exact .ok rfl
      · have hversion : isVersion (some (.str text)) = false := decide_eq_false htext
        rw [hversion, Option.elim_some, readVersion, if_neg htext]
        exact .refuse _
    | _ => exact .refuse _

theorem tells_string (value : Option Document) :
    Tells (fun text => value = some (.str text)) (value.elim (Checked.refuse .missing) readString)
      (if isString value then [] else [[]]) := by
  cases value with
  | none => exact .refuse _
  | some document =>
    cases document with
    | str text => exact .ok rfl
    | _ => exact .refuse _

/-- One of a few names, whatever they stand for. -/
theorem tells_name {α : Type} {all : List α} (name : α → String) {ofName? : String → Option α}
    (hofName : ∀ text, ofName? text = all.find? (name · = text)) (fold : String → String)
    (absent : α) (value : Option Document) :
    Tells (fun a => name a = nameOf fold (name absent) value)
      (value.elim (.ok absent) (readName (all.map name) fold ofName?))
      (if isName fold (all.map name) value then [] else [[]]) := by
  cases value with
  | none => exact .ok rfl
  | some document =>
    cases document with
    | str text =>
      rw [Option.elim_some, readName, hofName]
      cases hfound : all.find? (name · = fold text) with
      | some a =>
        have hname : name a = fold text := by simpa using List.find?_some hfound
        have hmem : fold text ∈ all.map name :=
          hname ▸ List.mem_map_of_mem (List.mem_of_find?_eq_some hfound)
        have hlisted : isName fold (all.map name) (some (.str text)) = true :=
          List.contains_iff_mem.mpr hmem
        rw [if_pos hlisted]
        exact .ok hname
      | none =>
        have hlisted : ¬ isName fold (all.map name) (some (.str text)) = true := by
          intro hcontains
          obtain ⟨a, ha, hname⟩ := List.mem_map.mp (List.contains_iff_mem.mp hcontains)
          exact absurd hname (by simpa using List.find?_eq_none.mp hfound a ha)
        rw [if_neg hlisted]
        exact .refuse _
    | _ => exact .refuse _

theorem tells_month (value : Option Document) :
    Tells (· = monthOf value) (value.elim (.ok none) readMonth) [] := by
  cases value with
  | none => exact .ok rfl
  | some document =>
    cases document with
    | str text =>
      by_cases htext : text = ""
      · subst htext
        exact .ok rfl
      · have hread : readMonth (.str text) = .ok (some text) := by
          simp [readMonth, htext, Document.text]
        have hmonth : monthOf (some (.str text)) = some text := by
          simp [monthOf, htext, Document.text]
        rw [Option.elim_some, hread]
        exact .ok hmonth.symm
    | _ => exact .ok rfl

theorem tells_values (value : Option Document) :
    Tells (· = valuesOf value) (value.elim (.ok []) readValues)
      (if isValues value then [] else [[]]) := by
  cases value with
  | none => exact .ok rfl
  | some document =>
    cases document with
    | object members => exact .refuse _
    | _ => exact .ok rfl

theorem tells_filters (value : Option Document) :
    Tells (fun filters : Filters => filters.Reads (filterMembers value))
      (value.elim (.ok Filters.none) Filters.ofDocument) (filterOffences value) := by
  have hvalues : ∀ (key : Key) (members : Members), Tells (· = valuesOf (key.value? members))
      (key.read members (.ok []) readValues) (key.offence members isValues) := fun key members =>
    (tells_values (key.value? members)).readFitting
  cases value with
  | none => exact .ok ⟨rfl, rfl, rfl, rfl, rfl⟩
  | some document =>
    cases document with
    | object members =>
      simp only [filterOffences, Key.dimensions, List.flatMap_cons, List.flatMap_nil,
        List.append_nil, ← List.append_assoc]
      refine Tells.along (Tells.along (Tells.along (Tells.along (Tells.map
        (hvalues .megabrand members) ?_) (hvalues .region members)) (hvalues .state members))
        (hvalues .wholesalerId members)) (hvalues .channel members)
      rintro megabrand hmegabrand region hregion state hstate wholesalerId hwholesalerId channel
        hchannel
      exact ⟨hmegabrand, hregion, hstate, hwholesalerId, hchannel⟩
    | _ => exact .refuse _

/-! ### Requests -/

theorem KpiRequest.tells_members (members : Members) :
    Tells (fun request : KpiRequest => request.Reads members) (KpiRequest.ofMembers members)
      (offences members) := by
  have hversion := (tells_version (Key.contractVersion.value? members)).readFitting
  have hkpi := (tells_string (Key.kpi.value? members)).readFitting
  have hofGrouping : ∀ text, Grouping.ofName? text = Grouping.all.find? (·.name = text) :=
    fun _ => rfl
  have hgroupBy := (tells_name Grouping.name hofGrouping Text.lower .time
    (Key.groupBy.value? members)).readFitting
  have hofScope : ∀ text, Scope.ofName? text = Scope.all.find? (·.name = text) := fun _ => rfl
  have hscope := (tells_name Scope.name hofScope Text.upper .yearToDate
    (Key.scope.value? members)).readFitting
  have hmonth := (tells_month (Key.maxMonth.value? members)).read
  have hfilters := (tells_filters (Key.filters.value? members)).read
  have hoffences : offences members = Key.contractVersion.offence members isVersion ++
      Key.kpi.offence members isString ++ Key.groupBy.offence members isGrouping ++
      Key.scope.offence members isScope ++ [] ++
      (filterOffences (Key.filters.value? members)).map (Key.filters.spelled members :: ·) := by
    rw [List.append_nil]
    rfl
  rw [hoffences]
  refine Tells.along (Tells.along (Tells.along (Tells.along (Tells.along (Tells.map hversion ?_)
    hkpi) hgroupBy) hscope) hmonth) hfilters
  intro versioned hversioned kpi hkpi groupBy hgroupBy scope hscope month hmonth filters hfilters
  exact ⟨hversioned, hkpi, hgroupBy, hscope, hmonth, hfilters⟩

/-- A payload that makes an object is read by its members. -/
theorem KpiRequest.fromPayload_eq {payload : Document} {members : Members}
    (h : orEmpty payload = .object members) : fromPayload ofDocument payload =
      (ofMembers members).mapError .malformedRequest := by
  rw [fromPayload, h]
  rfl

/-- **The payloads that are read as requests are those of the grammar.** What is read of them is
what they hold, and of any other object every member that does not conform is told, once and under
the name that the caller gave it. -/
theorem KpiRequest.fromPayload_grammar (payload : Document) :
    ((∃ request, fromPayload ofDocument payload = .ok request) ↔
      ∃ members, orEmpty payload = .object members ∧ Conforms members) ∧
    (∀ request, fromPayload ofDocument payload = .ok request →
      ∃ members, orEmpty payload = .object members ∧ request.Reads members) ∧
    ∀ members failure, orEmpty payload = .object members →
      fromPayload ofDocument payload = .error failure →
      ∃ faults, failure = .malformedRequest faults ∧
        faults.map FieldFault.path = offences members := by
  have hobject : ∀ request, fromPayload ofDocument payload = .ok request →
      ∃ members, orEmpty payload = .object members ∧ ofMembers members = .ok request := by
    intro request h
    obtain ⟨members, hmembers, hread⟩ := bind_eq_ok.mp (mapError_eq_ok.mp h)
    cases hdocument : orEmpty payload with
    | object found =>
      rw [hdocument] at hmembers
      cases hmembers
      exact ⟨members, rfl, hread⟩
    | _ =>
      rw [hdocument] at hmembers
      cases hmembers
  refine ⟨⟨?_, ?_⟩, ?_, ?_⟩
  · rintro ⟨request, h⟩
    obtain ⟨members, hpayload, hread⟩ := hobject request h
    exact ⟨members, hpayload, conforms_iff.mpr ((tells_members members).eq_ok.mp ⟨_, hread⟩)⟩
  · rintro ⟨members, hpayload, hconforms⟩
    obtain ⟨request, hread⟩ := (tells_members members).eq_ok.mpr (conforms_iff.mp hconforms)
    refine ⟨request, ?_⟩
    rw [fromPayload_eq hpayload, hread]
    rfl
  · intro request h
    obtain ⟨members, hpayload, hread⟩ := hobject request h
    exact ⟨members, hpayload, (tells_members members).of_ok hread⟩
  · intro members failure hpayload h
    rw [fromPayload_eq hpayload] at h
    cases hread : ofMembers members with
    | ok request =>
      rw [hread] at h
      cases h
    | error faults =>
      rw [hread] at h
      cases h
      exact ⟨faults, rfl, (tells_members members).of_error hread⟩

/-- Both spellings are read, items that are `null` are passed over, and of a request with three
members that do not conform each is told under its own spelling. -/
theorem KpiRequest.fromPayload_grammar_spellings :
    (∃ request, fromPayload ofDocument (.object [("max_month", .int 202506), ("kpi", .str "volume"),
        ("groupBy", .str "Region"), ("group_by", .null),
        ("filters", .object [("state", .list [.int 1, .null, .bool true])])]) = .ok request ∧
      request.groupBy.name = "region" ∧ request.maxMonth = some "202506" ∧
      request.filters.state = ["1", "True"]) ∧
    ∃ faults, fromPayload ofDocument (.object [("group_by", .int 1), ("max_month", .object []),
        ("filters", .object [("wholesaler_id", .object []), ("state", .null)])]) =
        .error (.malformedRequest faults) ∧
      faults.map FieldFault.path = [["kpi"], ["group_by"], ["filters", "wholesaler_id"]] := by
  constructor
  · obtain ⟨hread, hreads, -⟩ := fromPayload_grammar (.object [("max_month", .int 202506),
      ("kpi", .str "volume"), ("groupBy", .str "Region"), ("group_by", .null),
      ("filters", .object [("state", .list [.int 1, .null, .bool true])])])
    obtain ⟨request, hrequest⟩ := hread.mpr ⟨_, rfl, by decide, by decide, by decide, by decide,
      by decide⟩
    obtain ⟨members, hmembers, h⟩ := hreads request hrequest
    cases hmembers
    exact ⟨request, hrequest, h.groupBy.trans (by decide), h.maxMonth.trans (by decide),
      h.filters.state.trans (by decide)⟩
  · obtain ⟨hread, -, hfaults⟩ := fromPayload_grammar (.object [("group_by", .int 1),
      ("max_month", .object []),
      ("filters", .object [("wholesaler_id", .object []), ("state", .null)])])
    generalize hpayload : Document.object [("group_by", .int 1), ("max_month", .object []),
      ("filters", .object [("wholesaler_id", .object []), ("state", .null)])] = payload at *
    cases hresult : fromPayload ofDocument payload with
    | ok request =>
      obtain ⟨members, hmembers, hconforms⟩ := hread.mp ⟨request, hresult⟩
      subst hpayload
      cases hmembers
      exact absurd hconforms.kpi (by decide)
    | error failure =>
      subst hpayload
      obtain ⟨faults, rfl, hpaths⟩ := hfaults _ failure rfl hresult
      exact ⟨faults, rfl, hpaths.trans (by decide)⟩

end Indicator
