import Indicator.Proofs.Json.Whole
import Indicator.Proofs.Outcome
import Indicator.Request.Reading
import Indicator.Compile

/-!
# Requests without lone surrogates

What is told about a request that is refused, and what is made of one that is read, holds no lone
surrogate if the document of the request holds none. The characters that stand for surrogates count
as such here and below.

* `FieldFault.Whole`: a fault told in whole texts. `KpiRequest.faults_whole`,
  `OptionsRequest.faults_whole`: **every fault of a request is told in whole texts**, whatever its
  document holds.
* `KpiRequest.Whole`, `OptionsRequest.Whole`: a request of whole texts, as it is read from a whole
  document.
* `Failure.Whole`: a failure told in whole texts, as those of a whole request are.
* `KpiRequest.whole_statement`, `OptionsRequest.whole_statement`: **the statement of a whole request
  is whole**, so that it has a fingerprint.
-/

namespace Indicator

open Json (Document Members)
open Text (isWhole isWhole_append isWhole_intercalate)

/-! ### Faults -/

/-- A fault that is told in whole texts. -/
structure FieldFault.Whole (fault : FieldFault) : Prop where
  path : ∀ part ∈ fault.path, isWhole part = true
  message : isWhole fault.complaint.message = true

/-- All faults of a check are told in whole texts. -/
def Checked.Whole {α : Type} (checked : Checked α) : Prop :=
  ∀ faults, checked = .error faults → ∀ fault ∈ faults, fault.Whole

theorem FieldFault.Whole.toDocument {fault : FieldFault} (h : fault.Whole) :
    fault.toDocument.Whole := by
  refine Document.whole_object.mpr (Members.whole_cons.mpr ⟨by decide, ?_, ?_⟩)
  · exact Document.whole_str.mpr (isWhole_intercalate (by decide) h.path)
  · exact Members.whole_cons.mpr ⟨by decide, Document.whole_str.mpr h.message, Members.whole_nil⟩

namespace Checked

variable {α β : Type}

theorem whole_ok (a : α) : Whole (.ok a : Checked α) := by
  intro faults h
  cases h

theorem whole_refuse {complaint : Complaint} (h : isWhole complaint.message = true) :
    Whole (refuse complaint : Checked α) := by
  rintro faults hfaults fault hfault
  cases hfaults
  obtain rfl := List.mem_singleton.mp hfault
  exact ⟨by simp, h⟩

theorem Whole.under {checked : Checked α} (h : checked.Whole) {key : String}
    (hkey : isWhole key = true) : (Checked.under key checked).Whole := by
  intro faults hfaults fault hfault
  cases checked with
  | ok a => cases hfaults
  | error found =>
    cases hfaults
    obtain ⟨inner, hinner, rfl⟩ := List.mem_map.mp hfault
    have hwhole := h _ rfl inner hinner
    exact ⟨List.forall_mem_cons.mpr ⟨hkey, hwhole.path⟩, hwhole.message⟩

theorem Whole.map {checked : Checked α} (h : checked.Whole) (f : α → β) :
    Checked.Whole (Except.map f checked) := by
  intro faults hfaults
  cases checked with
  | ok a => cases hfaults
  | error found =>
    cases hfaults
    exact h _ rfl

theorem Whole.along {next : Checked α} {soFar : Checked (α → β)} (hsoFar : soFar.Whole)
    (hnext : next.Whole) : (Checked.along next soFar).Whole := by
  intro faults hfaults
  cases soFar with
  | ok f =>
    cases next with
    | ok a => cases hfaults
    | error found =>
      cases hfaults
      exact hnext _ rfl
  | error found =>
    cases next with
    | ok a =>
      cases hfaults
      exact hsoFar _ rfl
    | error more =>
      cases hfaults
      exact List.forall_mem_append.mpr ⟨hsoFar _ rfl, hnext _ rfl⟩

theorem Whole.bind {checked : Checked α} (h : checked.Whole) {f : α → Checked β}
    (hf : ∀ a, (f a).Whole) : (checked >>= f).Whole := by
  cases checked with
  | ok a => exact hf a
  | error found =>
    intro faults hfaults
    cases hfaults
    exact h _ rfl

theorem along_eq_ok {next : Checked α} {soFar : Checked (α → β)} {b : β} :
    along next soFar = .ok b ↔ ∃ f a, soFar = .ok f ∧ next = .ok a ∧ f a = b := by
  cases soFar with
  | error faults => cases next <;> simp [along]
  | ok f => cases next <;> simp [along]

end Checked

/-- Both spellings of a member are whole. -/
structure Key.Whole (key : Key) : Prop where
  camel : isWhole key.camel = true
  snake : isWhole key.snake = true

instance (key : Key) : Decidable key.Whole :=
  decidable_of_iff (isWhole key.camel = true ∧ isWhole key.snake = true)
    ⟨fun h => ⟨h.1, h.2⟩, fun h => ⟨h.camel, h.snake⟩⟩

theorem Key.Whole.read {α : Type} {key : Key} (h : key.Whole) {members : Members}
    {absent : Checked α} {check : Document → Checked α} (habsent : absent.Whole)
    (hcheck : ∀ value, (check value).Whole) : (key.read members absent check).Whole := by
  unfold Key.read
  split
  · exact (hcheck _).under h.camel
  · exact (hcheck _).under h.snake
  · exact habsent.under h.camel

/-- What was read of a member is what stands for its absence, or what its value was read as. -/
theorem Key.read_eq_ok {α : Type} {key : Key} {members : Members} {absent : Checked α}
    {check : Document → Checked α} {a : α} (h : key.read members absent check = .ok a) :
    absent = .ok a ∨ ∃ name value, members.get? name = some value ∧ check value = .ok a := by
  unfold Key.read at h
  split at h
  · rename_i hvalue
    exact .inr ⟨_, _, hvalue, mapError_eq_ok.mp h⟩
  · rename_i hvalue
    exact .inr ⟨_, _, hvalue, mapError_eq_ok.mp h⟩
  · exact .inl (mapError_eq_ok.mp h)

theorem membersOf_whole {name : String} (h : isWhole name = true) (document : Document) :
    (membersOf name document).Whole := by
  have hlead : isWhole "Input should be a valid dictionary or instance of " = true := by
    decide +kernel
  have hmessage : isWhole (Complaint.notRecord name).message = true := by
    show isWhole ("Input should be a valid dictionary or instance of " ++ name) = true
    rw [isWhole_append, hlead, h]
    rfl
  cases document with
  | object members => exact Checked.whole_ok members
  | _ => exact Checked.whole_refuse hmessage

theorem readString_whole (value : Document) : (readString value).Whole := by
  cases value with
  | str value => exact Checked.whole_ok value
  | _ => exact Checked.whole_refuse (by decide +kernel)

theorem isWhole_choicesText {choices : List String} (h : ∀ choice ∈ choices, isWhole choice = true) :
    isWhole (choicesText choices) = true := by
  induction choices using choicesText.induct with
  | case1 => decide
  | case2 choice => exact Text.isWhole_quoted (h choice (by simp))
  | case3 choice final =>
    simp only [choicesText, isWhole_append, Text.isWhole_quoted (h choice (by simp)),
      Text.isWhole_quoted (h final (by simp))]
    decide
  | case4 choice rest hmore hother ih =>
    rw [List.forall_mem_cons] at h
    rw [choicesText, isWhole_append, isWhole_append, Text.isWhole_quoted h.1, ih h.2]
    · decide
    · exact hmore
    · exact hother

theorem isWhole_notOneOf {choices : List String} (h : ∀ choice ∈ choices, isWhole choice = true) :
    isWhole (Complaint.notOneOf choices).message = true := by
  show isWhole ("Input should be " ++ choicesText choices) = true
  rw [isWhole_append, isWhole_choicesText h]
  decide

/-- The complaint about a text that is none of a few names. -/
theorem isWhole_nameComplaint {choices : List String}
    (h : ∀ choice ∈ choices, isWhole choice = true) (value : String) :
    isWhole (nameComplaint choices value).message = true := by
  unfold nameComplaint
  split
  · exact isWhole_notOneOf h
  · decide +kernel

theorem readName_whole {α : Type} {choices : List String} {fold : String → String}
    {ofName? : String → Option α} (h : ∀ choice ∈ choices, isWhole choice = true)
    (value : Document) : (readName choices fold ofName? value).Whole := by
  cases value with
  | str value =>
    dsimp only [readName]
    split
    · exact Checked.whole_ok _
    · exact Checked.whole_refuse (isWhole_nameComplaint h value)
  | _ => exact Checked.whole_refuse (isWhole_notOneOf h)

theorem readVersion_whole (value : Document) : (readVersion value).Whole := by
  have hchoices : ∀ choice ∈ [contractVersion], isWhole choice = true := by decide
  cases value with
  | null => exact Checked.whole_ok false
  | str value =>
    dsimp only [readVersion]
    split
    · exact Checked.whole_ok true
    · exact Checked.whole_refuse (isWhole_nameComplaint hchoices value)
  | _ => exact Checked.whole_refuse (isWhole_notOneOf hchoices)

theorem readMonth_whole (value : Document) : (readMonth value).Whole := by
  unfold readMonth
  split <;> exact Checked.whole_ok _

theorem readValues_whole (value : Document) : (readValues value).Whole := by
  cases value with
  | object members => exact Checked.whole_refuse (by decide +kernel)
  | _ => exact Checked.whole_ok _

theorem Filters.faults_whole (document : Document) : (Filters.ofDocument document).Whole := by
  have hvalues : ∀ (key : Key) (members : Members), key.Whole →
      (key.read members (.ok []) readValues).Whole := fun _ _ hkey =>
    hkey.read (Checked.whole_ok []) readValues_whole
  refine (membersOf_whole (by decide) document).bind fun members => ?_
  exact (((((hvalues _ members (by decide)).map Filters.mk).along
    (hvalues _ members (by decide))).along (hvalues _ members (by decide))).along
    (hvalues _ members (by decide))).along (hvalues _ members (by decide))

/-- **Every fault of a request for an indicator is told in whole texts.** -/
theorem KpiRequest.faults_whole (document : Document) : (KpiRequest.ofDocument document).Whole := by
  refine (membersOf_whole (by decide) document).bind fun members => ?_
  have hversion : (Key.contractVersion.read members (.ok false) readVersion).Whole :=
    Key.Whole.read (by decide) (Checked.whole_ok false) readVersion_whole
  have hkpi : (Key.kpi.read members (Checked.refuse .missing) readString).Whole :=
    Key.Whole.read (by decide) (Checked.whole_refuse (by decide +kernel)) readString_whole
  have hgroup : (Key.groupBy.read members (.ok .time)
      (readName (Grouping.all.map Grouping.name) Text.lower Grouping.ofName?)).Whole :=
    Key.Whole.read (by decide) (Checked.whole_ok _) (readName_whole (by decide))
  have hscope : (Key.scope.read members (.ok .yearToDate)
      (readName (Scope.all.map Scope.name) Text.upper Scope.ofName?)).Whole :=
    Key.Whole.read (by decide) (Checked.whole_ok _) (readName_whole (by decide))
  have hmonth : (Key.maxMonth.read members (.ok none) readMonth).Whole :=
    Key.Whole.read (by decide) (Checked.whole_ok none) readMonth_whole
  have hfilters : (Key.filters.read members (.ok Filters.none) Filters.ofDocument).Whole :=
    Key.Whole.read (by decide) (Checked.whole_ok _) Filters.faults_whole
  exact (((((hversion.map KpiRequest.mk).along hkpi).along hgroup).along hscope).along hmonth).along
    hfilters

/-- **Every fault of a request for options is told in whole texts.** -/
theorem OptionsRequest.faults_whole (document : Document) :
    (OptionsRequest.ofDocument document).Whole := by
  refine (membersOf_whole (by decide) document).bind fun members => ?_
  have hpart : ∀ key : Key, key.Whole →
      (key.read members (Checked.refuse .missing) readString).Whole := fun key hkey =>
    hkey.read (Checked.whole_refuse (by decide +kernel)) readString_whole
  exact ((hpart _ (by decide)).map OptionsRequest.mk).along (hpart _ (by decide))

/-! ### Requests -/

theorem readString_eq_ok {value : Document} {text : String} (h : readString value = .ok text) :
    value = .str text := by
  cases value with
  | str found =>
    cases h
    rfl
  | _ => cases h

/-- A text that was read of a whole object is whole. -/
theorem isWhole_of_readString {key : Key} {members : Members} (h : members.Whole) {text : String}
    (hread : key.read members (Checked.refuse .missing) readString = .ok text) :
    isWhole text = true := by
  rcases Key.read_eq_ok hread with habsent | ⟨name, value, hvalue, hfound⟩
  · cases habsent
  · rw [readString_eq_ok hfound] at hvalue
    exact Document.whole_str.mp (h.get hvalue)

theorem isWhole_of_readValues {value : Document} (h : value.Whole) {texts : List String}
    (hread : readValues value = .ok texts) : ∀ text ∈ texts, isWhole text = true := by
  have hsingle : ∀ text ∈ [value.text], isWhole text = true :=
    List.forall_mem_singleton.mpr h.text
  unfold readValues at hread
  split at hread
  · cases hread
    simp
  · rename_i items
    cases hread
    intro text htext
    obtain ⟨item, hitem, rfl⟩ := List.mem_map.mp htext
    exact (Document.whole_list.mp h item (List.mem_filter.mp hitem).1).text
  · cases hread
  · cases hread
    exact hsingle

/-- A request for an indicator of whole texts. -/
structure KpiRequest.Whole (request : KpiRequest) : Prop where
  kpi : isWhole request.kpi = true
  filters : ∀ values ∈ [request.filters.megabrand, request.filters.region, request.filters.state,
    request.filters.wholesalerId, request.filters.channel], ∀ value ∈ values, isWhole value = true

/-- A request for options of whole texts. -/
structure OptionsRequest.Whole (request : OptionsRequest) : Prop where
  dimension : isWhole request.dimension = true
  table : isWhole request.table = true

theorem isWhole_of_readFilter {key : Key} {members : Members} (h : members.Whole)
    {texts : List String} (hread : key.read members (.ok []) readValues = .ok texts) :
    ∀ text ∈ texts, isWhole text = true := by
  rcases Key.read_eq_ok hread with habsent | ⟨name, value, hvalue, hfound⟩
  · cases habsent
    simp
  · exact isWhole_of_readValues (h.get hvalue) hfound

theorem Filters.whole_of_ofDocument {document : Document} (h : document.Whole) {filters : Filters}
    (hread : Filters.ofDocument document = .ok filters) :
    ∀ values ∈ [filters.megabrand, filters.region, filters.state, filters.wholesalerId,
      filters.channel], ∀ value ∈ values, isWhole value = true := by
  obtain ⟨members, hmembers, hread⟩ := bind_eq_ok.mp hread
  have hwhole : members.Whole := by
    cases document with
    | object found =>
      cases hmembers
      exact h
    | _ => cases hmembers
  simp only [Filters.ofMembers, Checked.along_eq_ok, map_eq_ok] at hread
  obtain ⟨_, channel, ⟨_, wholesaler, ⟨_, state, ⟨_, region, ⟨megabrand, hmegabrand, rfl⟩, hregion,
    rfl⟩, hstate, rfl⟩, hwholesaler, rfl⟩, hchannel, rfl⟩ := hread
  simp only [List.forall_mem_cons]
  exact ⟨isWhole_of_readFilter hwhole hmegabrand, isWhole_of_readFilter hwhole hregion,
    isWhole_of_readFilter hwhole hstate, isWhole_of_readFilter hwhole hwholesaler,
    isWhole_of_readFilter hwhole hchannel, by simp⟩

/-- A request for an indicator that is read of a whole object is whole. -/
theorem KpiRequest.whole_of_ofDocument {members : Members} (h : members.Whole)
    {request : KpiRequest} (hread : KpiRequest.ofDocument (.object members) = .ok request) :
    request.Whole := by
  have hread : KpiRequest.ofMembers members = .ok request := hread
  simp only [KpiRequest.ofMembers, Checked.along_eq_ok, map_eq_ok] at hread
  obtain ⟨_, filters, ⟨_, month, ⟨_, scope, ⟨_, group, ⟨_, kpi, ⟨version, -, rfl⟩, hkpi, rfl⟩, -,
    rfl⟩, -, rfl⟩, -, rfl⟩, hfilters, rfl⟩ := hread
  refine ⟨isWhole_of_readString h hkpi, ?_⟩
  rcases Key.read_eq_ok hfilters with habsent | ⟨name, value, hvalue, hfound⟩
  · cases habsent
    simp [Filters.none]
  · exact Filters.whole_of_ofDocument (h.get hvalue) hfound

/-- A request for options that is read of a whole object is whole. -/
theorem OptionsRequest.whole_of_ofDocument {members : Members} (h : members.Whole)
    {request : OptionsRequest} (hread : OptionsRequest.ofDocument (.object members) = .ok request) :
    request.Whole := by
  have hread : OptionsRequest.ofMembers members = .ok request := hread
  simp only [OptionsRequest.ofMembers, Checked.along_eq_ok, map_eq_ok] at hread
  obtain ⟨_, table, ⟨dimension, hdimension, rfl⟩, htable, rfl⟩ := hread
  exact ⟨isWhole_of_readString h hdimension, isWhole_of_readString h htable⟩

/-! ### Failures -/

/-- A failure that is told in whole texts. -/
structure Failure.Whole (failure : Failure) : Prop where
  message : isWhole failure.message = true
  details : Members.Whole failure.details

namespace Failure

theorem whole_malformedRequest {faults : List FieldFault} (h : ∀ fault ∈ faults, fault.Whole) :
    (malformedRequest faults).Whole := by
  have hmessage : isWhole "Malformed request" = true := by decide
  refine ⟨hmessage, Members.whole_cons.mpr ⟨by decide, ?_, Members.whole_nil⟩⟩
  refine Document.whole_list.mpr fun item hitem => ?_
  obtain ⟨fault, hfault, rfl⟩ := List.mem_map.mp hitem
  exact (h fault hfault).toDocument

theorem whole_unknownKpi {name : String} (h : isWhole name = true) : (unknownKpi name).Whole := by
  have hnames : ∀ name ∈ kpiNames, isWhole name = true := by decide +kernel
  constructor
  · show isWhole ("Unknown kpi '" ++ name ++ "'") = true
    rw [isWhole_append, isWhole_append, h]
    decide
  · refine Members.whole_cons.mpr ⟨by decide, ?_, Members.whole_nil⟩
    refine Document.whole_list.mpr fun item hitem => ?_
    obtain ⟨name, hname, rfl⟩ := List.mem_map.mp hitem
    exact Document.whole_str.mpr (hnames name hname)

theorem whole_unlistedSource {dimension table : String} (hdimension : isWhole dimension = true)
    (htable : isWhole table = true) : (unlistedSource dimension table).Whole := by
  constructor
  · show isWhole ("Invalid dimension '" ++ dimension ++ "' or table '" ++ table ++ "'") = true
    simp only [isWhole_append, hdimension, htable]
    decide
  · exact Members.whole_nil

theorem whole_notConfigured (hasHost hasToken hasWarehouse : Bool) :
    (notConfigured hasHost hasToken hasWarehouse).Whole := by
  have hmessage : isWhole "Missing Databricks configuration" = true := by decide
  refine ⟨hmessage, ?_⟩
  simp only [details, Members.whole_cons]
  exact ⟨by decide, Document.whole_bool _, by decide, Document.whole_bool _, by decide,
    Document.whole_bool _, Members.whole_nil⟩

end Failure

/-! ### Statements -/

namespace Sql

theorem isWhole_identifier (text : String) : isWhole (identifier text) = true := by
  refine Text.isWhole_ofList.mpr fun c hc => ?_
  have hchar : isIdentifierChar c = true := (List.mem_filter.mp hc).2
  simp only [isIdentifierChar, Bool.or_eq_true, decide_eq_true_eq] at hchar
  rcases hchar with halphanum | rfl
  · exact Text.isScalar_of_isAlphanum halphanum
  · decide

theorem isWhole_literal {value : String} (h : isWhole value = true) :
    isWhole (literal value) = true := by
  have hescape : isWhole (escape value) = true := by
    refine Text.isWhole_ofList.mpr fun d hd => ?_
    obtain ⟨c, hc, hd⟩ := List.mem_flatMap.mp hd
    have hsame : d = c := by
      unfold escapeChar at hd
      split at hd <;> simpa using hd
    rw [hsame]
    exact Text.isWhole_iff.mp h c hc
  rw [literal, isWhole_append, isWhole_append, hescape]
  decide

theorem isWhole_tableName (catalog schema table : String) :
    isWhole (tableName catalog schema table) = true := by
  refine isWhole_intercalate (by decide) fun part hpart => ?_
  obtain ⟨text, -, rfl⟩ := List.mem_map.mp (List.mem_filter.mp hpart).1
  exact isWhole_identifier text

/-- A predicate on whole texts. -/
def Predicate.Whole : Predicate → Prop
  | always => True
  | latestMonth table => isWhole table = true
  | monthBetween first last => isWhole first = true ∧ isWhole last = true
  | equal column value | different column value => isWhole column = true ∧ isWhole value = true
  | oneOf column values => isWhole column = true ∧ ∀ value ∈ values, isWhole value = true
  | present column => isWhole column = true

theorem Predicate.Whole.text {predicate : Predicate} (h : predicate.Whole) :
    isWhole predicate.text = true := by
  have hmonth : isWhole Column.month = true := by decide
  cases predicate with
  | always => decide
  | latestMonth table =>
    have htable : isWhole table = true := h
    simp only [Predicate.text, isWhole_append, hmonth, htable]
    decide
  | monthBetween first last =>
    simp only [Predicate.text, isWhole_append, hmonth, isWhole_literal h.1, isWhole_literal h.2]
    decide
  | equal column value =>
    simp only [Predicate.text, isWhole_append, h.1, isWhole_literal h.2]
    decide
  | oneOf column values =>
    have hvalues : isWhole (", ".intercalate (values.map literal)) = true := by
      refine isWhole_intercalate (by decide) fun part hpart => ?_
      obtain ⟨value, hvalue, rfl⟩ := List.mem_map.mp hpart
      exact isWhole_literal (h.2 value hvalue)
    simp only [Predicate.text, isWhole_append, h.1, hvalues]
    decide
  | different column value =>
    simp only [Predicate.text, isWhole_append, h.1, isWhole_literal h.2]
    decide
  | present column =>
    have hcolumn : isWhole column = true := h
    simp only [Predicate.text, isWhole_append, hcolumn]
    decide

theorem isWhole_conjunction {predicates : List Predicate}
    (h : ∀ predicate ∈ predicates, predicate.Whole) :
    isWhole (Predicate.conjunction predicates) = true := by
  refine isWhole_intercalate (by decide) fun part hpart => ?_
  obtain ⟨predicate, hpredicate, rfl⟩ := List.mem_map.mp hpart
  exact (h predicate hpredicate).text

/-- The clauses of a statement are whole. -/
structure Statement.Whole (statement : Statement) : Prop where
  select : isWhole statement.select = true
  source : isWhole statement.source = true
  condition : isWhole statement.condition = true
  grouping : isWhole statement.grouping = true
  order : isWhole statement.order = true

theorem Statement.Whole.text {statement : Statement} (h : statement.Whole) :
    isWhole statement.text = true := by
  refine isWhole_intercalate (by decide) ?_
  have hoptional : ∀ clause : String, isWhole clause = true →
      ∀ part ∈ (if clause = "" then [] else [clause]), isWhole part = true := by
    intro clause hclause part hpart
    split at hpart
    · cases hpart
    · rwa [List.mem_singleton.mp hpart]
  simp only [clauses, List.forall_mem_append, List.forall_mem_cons]
  refine ⟨⟨⟨⟨h.select, h.source, h.condition, by simp⟩, hoptional _ h.grouping⟩,
    hoptional _ h.order⟩, ?_, by simp⟩
  rw [isWhole_append, Text.isWhole_toString]
  decide

/-- **A whole text has a fingerprint.** -/
theorem fingerprint_of_whole {sql : String} (h : isWhole sql = true) :
    ∃ hash, fingerprint sql = .ok hash := by
  refine ⟨_, map_eq_ok.mpr ⟨fingerprintText sql, ?_, rfl⟩⟩
  exact Text.check_utf8 (Text.isWhole_lower (Text.isWhole_joinWords h))

end Sql

open Sql (isWhole_identifier isWhole_literal isWhole_tableName isWhole_conjunction Predicate
  Statement)

/-- The names of an indicator that its statement shows are whole. -/
structure Kpi.Whole (kpi : Kpi) : Prop where
  table : isWhole kpi.table = true
  measure : isWhole kpi.measure = true
  geoColumn : isWhole kpi.geoColumn = true

theorem Kpi.whole_of_find {name : String} {kpi : Kpi} (h : Kpi.find? name = some kpi) :
    kpi.Whole := by
  have hall : ∀ kpi ∈ kpis, isWhole kpi.table = true ∧ isWhole kpi.measure = true ∧
      isWhole kpi.geoColumn = true := by
    decide +kernel
  obtain ⟨htable, hmeasure, hgeo⟩ := hall kpi (List.mem_of_find?_eq_some h)
  exact ⟨htable, hmeasure, hgeo⟩

theorem Grouping.isWhole_clauses {kpi : Kpi} (h : kpi.Whole) (grouping : Grouping) :
    isWhole (grouping.clauses kpi).expression = true ∧
      isWhole (grouping.clauses kpi).grouping = true ∧
      isWhole (grouping.clauses kpi).order = true := by
  have hcolumn : ∀ column order : String, isWhole column = true → isWhole order = true →
      isWhole (GroupClauses.byColumn column order).expression = true ∧
        isWhole (GroupClauses.byColumn column order).grouping = true ∧
        isWhole (GroupClauses.byColumn column order).order = true := by
    intro column order hcolumn horder
    refine ⟨hcolumn, ?_, horder⟩
    rw [GroupClauses.byColumn, isWhole_append, hcolumn]
    decide
  cases grouping with
  | channel =>
    rw [clauses]
    split
    · exact hcolumn _ _ (by decide) (by decide)
    · decide
  | wholesaler => exact hcolumn _ _ h.geoColumn (by decide)
  | _ => exact hcolumn _ _ (by decide) (by decide)

theorem Scope.whole_predicate (scope : Scope) (maxMonth : Option String) {table : String}
    (h : isWhole table = true) : (scope.predicate maxMonth table).Whole := by
  unfold predicate
  split
  · exact h
  · rename_i month hmonth
    have hwhole : isWhole month = true := by
      obtain ⟨text, -, htext⟩ := Option.bind_eq_some_iff.mp hmonth
      dsimp only at htext
      split at htext
      · cases htext
      · obtain rfl := Option.some.inj htext
        exact isWhole_identifier text
    split
    · refine ⟨?_, hwhole⟩
      rw [januaryOf, isWhole_append, Text.isWhole_ofList.mpr fun c hc =>
        Text.isWhole_iff.mp hwhole c (List.mem_of_mem_take hc)]
      decide
    · exact ⟨by decide, hwhole⟩

/-- The value of an exclusion is whole, without a surrogate or a character that stands for one; its
column is cut down to whole characters. -/
def Exclusion.Whole (exclusion : Exclusion) : Prop := isWhole exclusion.value = true

theorem KpiRequest.whole_predicates {request : KpiRequest} (h : request.Whole) {kpi : Kpi}
    (hkpi : kpi.Whole) {table : String} (htable : isWhole table = true)
    {exclusion : Option Exclusion} (hexclusion : ∀ found ∈ exclusion, found.Whole) :
    ∀ predicate ∈ predicates kpi table request.scope request.maxMonth request.filters exclusion,
      predicate.Whole := by
  have hfilters : ∀ pair ∈ request.filters.columns kpi,
      isWhole pair.1 = true ∧ ∀ value ∈ pair.2, isWhole value = true := by
    have hall := h.filters
    simp only [List.forall_mem_cons] at hall
    obtain ⟨hmegabrand, hregion, hstate, hwholesaler, hchannel, -⟩ := hall
    rw [Filters.columns, List.forall_mem_append]
    constructor
    · simp only [List.forall_mem_cons]
      exact ⟨⟨by decide, hmegabrand⟩, ⟨by decide, hregion⟩, ⟨by decide, hstate⟩,
        ⟨hkpi.geoColumn, hwholesaler⟩, by simp⟩
    · split
      · have hcolumn : isWhole Column.channel = true := by decide
        exact List.forall_mem_singleton.mpr ⟨hcolumn, hchannel⟩
      · simp
  intro predicate hpredicate
  rcases mem_predicates.mp hpredicate with
    rfl | rfl | ⟨pair, hpair, -, rfl⟩ | ⟨found, hfound, -, -, rfl⟩
  · trivial
  · exact Scope.whole_predicate _ _ htable
  · exact hfilters pair hpair
  · exact ⟨isWhole_identifier _, hexclusion found hfound⟩

/-- **The statement of a whole request is whole.** -/
theorem KpiRequest.whole_statement {request : KpiRequest} (h : request.Whole)
    {space : Namespace} {rowLimit : Int} {exclusion : Option Exclusion}
    (hexclusion : ∀ found ∈ exclusion, found.Whole) {statement : Statement}
    (hstatement : request.statement space rowLimit exclusion = .ok statement) :
    isWhole statement.text = true := by
  obtain ⟨kpi, hkpi, hstatement⟩ := bind_eq_ok.mp hstatement
  cases hstatement
  have hwhole : kpi.Whole := by
    unfold resolveKpi at hkpi
    split at hkpi
    · rename_i found hfound
      cases hkpi
      exact Kpi.whole_of_find hfound
    · cases hkpi
  obtain ⟨hexpression, hgrouping, horder⟩ := Grouping.isWhole_clauses hwhole request.groupBy
  have hname : isWhole kpi.aggregation.name = true := by
    cases kpi.aggregation <;> decide
  have htotal : ∀ column shown : String, isWhole column = true → isWhole shown = true →
      isWhole (kpi.aggregation.name ++ "(" ++ column ++ ") AS " ++ shown) = true := by
    intro column shown hcolumn hshown
    simp only [isWhole_append, hname, hcolumn, hshown]
    decide
  have hcurrent : isWhole kpi.currentColumn = true := by
    rw [Kpi.currentColumn, isWhole_append, hwhole.measure]
    decide
  have hprior : isWhole kpi.priorColumn = true := by
    rw [Kpi.priorColumn, isWhole_append, hwhole.measure]
    decide
  have htable : isWhole (space.table kpi.table) = true := isWhole_tableName _ _ _
  refine Statement.Whole.text ⟨?_, ?_, ?_, hgrouping, horder⟩
  · have hparts : isWhole (", ".intercalate
        [((request.groupBy.clauses kpi).expression ++ " AS " ++ dimensionAlias),
          kpi.aggregation.name ++ "(" ++ kpi.currentColumn ++ ") AS " ++ currentAlias,
          kpi.aggregation.name ++ "(" ++ kpi.priorColumn ++ ") AS " ++ priorAlias]) = true := by
      refine isWhole_intercalate (by decide) ?_
      simp only [List.forall_mem_cons]
      refine ⟨?_, htotal _ _ hcurrent (by decide), htotal _ _ hprior (by decide), by simp⟩
      simp only [isWhole_append, hexpression]
      decide
    rw [Kpi.statement, isWhole_append, hparts]
    decide
  · rw [Kpi.statement, isWhole_append, htable]
    decide
  · rw [Kpi.statement, isWhole_append,
      isWhole_conjunction (KpiRequest.whole_predicates h hwhole htable hexclusion)]
    decide

/-- **The statement of a whole request is whole.** -/
theorem OptionsRequest.whole_statement {request : OptionsRequest} (h : request.Whole)
    {space : Namespace} {rowLimit : Int} {statement : Statement}
    (hstatement : request.statement space rowLimit = .ok statement) :
    isWhole statement.text = true := by
  obtain ⟨⟨dimension, table⟩, hsource, hstatement⟩ := bind_eq_ok.mp hstatement
  cases hstatement
  have hdimension : isWhole dimension = true := by
    unfold resolveSource at hsource
    split at hsource
    · cases hsource
      exact h.dimension
    · cases hsource
  have hpredicates : ∀ predicate ∈ [Predicate.always, .present dimension], predicate.Whole := by
    rw [List.forall_mem_cons, List.forall_mem_singleton]
    exact ⟨trivial, hdimension⟩
  have hempty : isWhole "" = true := by decide
  have horder : isWhole ("ORDER BY " ++ optionAlias ++ " ASC") = true := by decide
  refine Statement.Whole.text ⟨?_, ?_, ?_, hempty, horder⟩
  · simp only [isWhole_append, hdimension]
    decide
  · rw [isWhole_append, Namespace.table, isWhole_tableName]
    decide
  · rw [isWhole_append, isWhole_conjunction hpredicates]
    decide

end Indicator
