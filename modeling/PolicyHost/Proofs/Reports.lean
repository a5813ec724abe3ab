import PolicyHost.Report

namespace PolicyHost

/-!
# Reports that agree with themselves

A report says its details twice, once as its own and once in its context, and
its kind fills in what the author left out: a message, a code, a suggestion, two
of the details.  Kinds lie below other kinds.  A kind fills in before the kinds
above it do, so that what is special wins, and repeats its details in the context
after them.

However little the author supplied, both readings of a detail agree, nothing that
was supplied is lost, and a report made again from what it says is the same.
-/

namespace Fields

variable (fields : Fields) (name : String) (value : Value)

theorem find?_cons (f : String × Value) (rest : Fields) :
    Fields.find? (f :: rest) name = if f.1 = name then some f.2 else Fields.find? rest name := by
  by_cases same : f.1 = name <;> simp [Fields.find?, same]

theorem get_of_find? (present : fields.find? name = some value) : fields.get name = value := by
  rw [get, present, Option.getD_some]

/-- A value that was stored is found under its name, and no other is touched. -/
theorem find?_put (other : String) :
    (fields.put name value).find? other =
      if other = name then some value else fields.find? other := by
  induction fields with
  | nil =>
    rw [put, find?_cons]
    simp only [eq_comm]
  | cons f rest inductionHypothesis =>
    rw [put]
    by_cases here : f.1 = name
    · rw [if_pos (beq_iff_eq.mpr here), find?_cons, find?_cons, here]
      by_cases asked : other = name
      · simp [asked]
      · simp [asked, Ne.symm asked]
    · rw [if_neg (mt beq_iff_eq.mp here), find?_cons, find?_cons, inductionHypothesis]
      by_cases asked : f.1 = other
      · have apart : other ≠ name := asked ▸ here
        simp [asked, apart]
      · simp [asked]

/-- Storing what is there changes nothing. -/
theorem put_of_find? (present : fields.find? name = some value) :
    fields.put name value = fields := by
  induction fields with
  | nil => cases present
  | cons f rest inductionHypothesis =>
    rw [find?_cons] at present
    rw [put]
    by_cases here : f.1 = name
    · rw [if_pos here] at present
      cases present
      cases here
      simp
    · rw [if_neg here] at present
      rw [inductionHypothesis present]
      simp [here]

/-- Storing a value leaves entries under other names where they are. -/
theorem getElem?_put {i : Nat} {f : String × Value} (present : fields[i]? = some f)
    (other : f.1 ≠ name) : (fields.put name value)[i]? = some f := by
  induction fields generalizing i with
  | nil => cases present
  | cons g rest inductionHypothesis =>
    rw [put]
    cases i with
    | zero =>
      cases present
      simp [other]
    | succ i =>
      split
      · exact present
      · exact inductionHypothesis present

variable (values : String → Value)

def ofNames (names : List String) : Fields :=
  names.map fun name => (name, values name)

theorem find?_putAll (names : List String) :
    (fields.putAll (ofNames values names)).find? name =
      if name ∈ names then some (values name) else fields.find? name := by
  induction names generalizing fields with
  | nil => rfl
  | cons first rest inductionHypothesis =>
    have stored := inductionHypothesis (fields.put first (values first))
    rw [find?_put] at stored
    refine stored.trans ?_
    by_cases later : name ∈ rest
    · simp [later]
    · by_cases same : name = first
      · subst same
        simp [later]
      · simp [later, same]

theorem putAll_of_find? (names : List String)
    (present : ∀ name ∈ names, fields.find? name = some (values name)) :
    fields.putAll (ofNames values names) = fields := by
  induction names with
  | nil => rfl
  | cons first rest inductionHypothesis =>
    have stored := put_of_find? fields first (values first) (present first (List.mem_cons_self ..))
    have others := inductionHypothesis fun name member =>
      present name (List.mem_cons_of_mem _ member)
    change (fields.put first (values first)).putAll (ofNames values rest) = fields
    rw [stored, others]

theorem getElem?_putAll (names : List String) {i : Nat} {f : String × Value}
    (present : fields[i]? = some f) (other : f.1 ∉ names) :
    (fields.putAll (ofNames values names))[i]? = some f := by
  induction names generalizing fields with
  | nil => exact present
  | cons first rest inductionHypothesis =>
    rw [List.mem_cons, not_or] at other
    exact inductionHypothesis _ (getElem?_put fields first (values first) present other.1) other.2

end Fields

namespace ReportKind

/-- The names under which a kind by itself repeats details in the context. -/
def ownRecords (kind : ReportKind) : List String :=
  (kind.ownDetails.filter (·.recorded)).map (·.name)

/-- The names of all details that are repeated in the context, those of the kinds above first. -/
def records (kind : ReportKind) : List String :=
  kind.lineage.reverse.flatMap ownRecords

def nearestCode (kinds : List ReportKind) : Int :=
  ((kinds.find? fun kind => kind.code != 0).map code).getD 0

theorem details_nodup (kind : ReportKind) : (kind.details.map (·.name)).Nodup := by
  cases kind <;> decide

theorem nearestCode_lineage (kind : ReportKind) : nearestCode kind.lineage = kind.code := by
  cases kind <;> rfl

theorem mem_records (kind : ReportKind) (name : String) :
    name ∈ kind.records ↔
      ∃ above ∈ kind.lineage, ∃ detail ∈ above.ownDetails,
        detail.recorded = true ∧ detail.name = name := by
  unfold records ownRecords
  simp only [List.mem_flatMap, List.mem_reverse, List.mem_map, List.mem_filter, and_assoc]

theorem mem_details (kind : ReportKind) (detail : Detail) :
    detail ∈ kind.details ↔ ∃ above ∈ kind.lineage, detail ∈ above.ownDetails := by
  unfold details
  simp only [List.mem_flatMap, List.mem_reverse]

end ReportKind

namespace Report

def standardDetail? : ReportKind → String → Option String
  | .missingExport, "stage" => some "initialize"
  | .noResults, "direction" => some "decode"
  | _, _ => none

def fillDetail (kind : ReportKind) (name : String) (value : Value) : Value :=
  match standardDetail? kind name with
  | some text => if value.isFalsy then .text text else value
  | none => value

theorem settleDetails_eq (kind : ReportKind) (supplied : Fields) :
    settleDetails kind supplied = kind.details.map fun detail =>
      (detail.name,
        fillDetail kind detail.name ((supplied.find? detail.name).getD detail.blank)) := by
  unfold settleDetails fillDetail
  congr 1
  funext detail
  dsimp only
  generalize (supplied.find? detail.name).getD detail.blank = value
  change (match standardDetail? kind detail.name with
    | some text => (detail.name, if value.isFalsy then Value.text text else value)
    | none => (detail.name, value)) = _
  cases standardDetail? kind detail.name <;> rfl

theorem recordedDetails_eq (kind : ReportKind) (supplied : Fields) :
    recordedDetails kind (settleDetails kind supplied) =
      Fields.ofNames (settleDetails kind supplied).get kind.records := by
  rw [settleDetails_eq]
  cases kind <;> rfl

/-- A detail is found with the value the kind leaves it with. -/
theorem find?_settleDetails (kind : ReportKind) (supplied : Fields) {detail : Detail}
    (member : detail ∈ kind.details) :
    (settleDetails kind supplied).find? detail.name =
      some (fillDetail kind detail.name ((supplied.find? detail.name).getD detail.blank)) := by
  rw [settleDetails_eq]
  generalize fillDetail kind = filled
  have nodup := kind.details_nodup
  revert member nodup
  induction kind.details with
  | nil => exact fun impossible => nomatch impossible
  | cons first rest inductionHypothesis =>
    intro member nodup
    rw [List.map_cons, List.nodup_cons] at nodup
    rw [List.map_cons, Fields.find?_cons]
    obtain rfl | later := List.mem_cons.mp member
    · rw [if_pos rfl]
    · have apart : first.name ≠ detail.name := by
        intro same
        apply nodup.1
        rw [same]
        exact List.mem_map_of_mem later
      rw [if_neg apart]
      exact inductionHypothesis later nodup.2

theorem fillDetail_fillDetail (kind : ReportKind) (name : String) (value : Value) :
    fillDetail kind name (fillDetail kind name value) = fillDetail kind name value := by
  unfold fillDetail
  cases standardDetail? kind name with
  | none => rfl
  | some text => cases empty : value.isFalsy <;> simp [empty]

/-- Details that are settled stay as they are. -/
theorem settleDetails_settleDetails (kind : ReportKind) (supplied : Fields) :
    settleDetails kind (settleDetails kind supplied) = settleDetails kind supplied := by
  rw [settleDetails_eq kind (settleDetails kind supplied), settleDetails_eq kind supplied]
  apply List.map_congr_left
  intro detail member
  rw [← settleDetails_eq, find?_settleDetails kind supplied member, Option.getD_some,
    fillDetail_fillDetail]

/-- What a report says, as its author would supply it. -/
def findings (report : Report) : Findings where
  message := report.message
  code := report.code
  suggestion := report.suggestion
  context := report.context
  details := report.details

theorem context_make (kind : ReportKind) (found : Findings) :
    (make kind found).context =
      found.context.putAll (Fields.ofNames (make kind found).details.get kind.records) :=
  congrArg found.context.putAll (recordedDetails_eq kind found.details)

theorem find?_context (kind : ReportKind) (found : Findings) (name : String) :
    (make kind found).context.find? name =
      if name ∈ kind.records then some ((make kind found).details.get name)
      else found.context.find? name := by
  rw [context_make]
  exact Fields.find?_putAll found.context name (make kind found).details.get kind.records

theorem fill_fill {α : Type} (isEmpty : α → Bool) (given standard : α) :
    let filled := if isEmpty given then standard else given
    (if isEmpty filled then standard else filled) = filled := by
  dsimp only
  cases empty : isEmpty given <;> simp [empty]

theorem advise_advise (given standard : Option String) :
    let advised := if (given.getD "").isEmpty then standard.or given else given
    (if (advised.getD "").isEmpty then standard.or advised else advised) = advised := by
  dsimp only
  by_cases empty : (given.getD "").isEmpty
  · cases standard with
    | none => simp [empty]
    | some text => simp [empty]
  · simp [empty]

/-- A report that is made again from what it says is the same. -/
theorem make_findings (kind : ReportKind) (found : Findings) :
    make kind (make kind found).findings = make kind found := by
  have details := settleDetails_settleDetails kind found.details
  have context : (make kind found).context.putAll
      (recordedDetails kind (settleDetails kind found.details)) = (make kind found).context := by
    rw [recordedDetails_eq]
    apply Fields.putAll_of_find?
    intro name member
    rw [find?_context, if_pos member]
    rfl
  unfold make at context
  unfold make findings
  dsimp only at context ⊢
  rw [details, Report.mk.injEq]
  refine ⟨rfl, ?wording, ?number, ?advice, context, rfl⟩
  case wording => exact fill_fill String.isEmpty found.message _
  case number =>
    by_cases none_ : found.code = 0
    · simp [none_]
    · simp [none_]
  case advice => exact advise_advise found.suggestion _

/-! ## Kind by kind -/

/-- What a kind by itself suggests.  An abort leaves that to the kind above it. -/
def ownSuggestion (kind : ReportKind) (details : Fields) : Option String :=
  match kind with
  | .guestAbort => none
  | kind => standardSuggestion kind details

/-- What a kind makes of a report before the kinds above it: it fills in what is missing. -/
def fill (found : Findings) (kind : ReportKind) : Findings where
  message := if found.message.isEmpty then standardMessage kind found.details else found.message
  code := if found.code = 0 then kind.code else found.code
  suggestion :=
    if (found.suggestion.getD "").isEmpty then
      (ownSuggestion kind found.details).or found.suggestion
    else found.suggestion
  context := found.context
  details := found.details.map fun f => (f.1, fillDetail kind f.1 f.2)

/-- What a kind makes of it after them: it repeats its details in the context. -/
def repeatDetails (kind : ReportKind) (found : Findings) : Findings :=
  { found with
    context := found.context.putAll (Fields.ofNames found.details.get kind.ownRecords) }

/-- What kinds, each below the next, make of a report. -/
def construct : List ReportKind → Findings → Findings
  | [], found => found
  | kind :: above, found => repeatDetails kind (construct above (fill found kind))

/-- What is there before any kind has done anything: details that were not supplied are blank. -/
def received (kind : ReportKind) (found : Findings) : Findings :=
  { found with
    details := kind.details.map fun detail =>
      (detail.name, (found.details.find? detail.name).getD detail.blank) }

/-- The details are repeated when all has been filled in. -/
theorem construct_eq (kinds : List ReportKind) (found : Findings) :
    let filled := kinds.foldl fill found
    construct kinds found =
      { filled with
        context := found.context.putAll
          (Fields.ofNames filled.details.get (kinds.reverse.flatMap ReportKind.ownRecords)) } := by
  induction kinds generalizing found with
  | nil => rfl
  | cons kind above inductionHypothesis =>
    dsimp only at inductionHypothesis ⊢
    rw [construct, inductionHypothesis, repeatDetails, List.foldl_cons, List.reverse_cons,
      List.flatMap_append]
    simp [Fields.putAll, Fields.ofNames, fill]

/-- Every kind has a message, but for the two that say no more than their names. -/
theorem standardMessage_ne (kind : ReportKind) (details : Fields)
    (special : kind ≠ .general ∧ kind ≠ .configuration) : standardMessage kind details ≠ "" := by
  unfold standardMessage
  cases kind with
  | general => exact absurd rfl special.1
  | configuration => exact absurd rfl special.2
  | noData | runtimeBusy | contextDestroyed | bundleEmpty =>
    dsimp only
    decide
  | _ => simp

/-- What none of some kinds changes is kept by all of them. -/
theorem foldl_keeps {α : Type} (part : Findings → α) (kinds : List ReportKind) (found : Findings)
    (kept : ∀ kind ∈ kinds, ∀ filled, part filled = part found →
      part (fill filled kind) = part found) :
    part (kinds.foldl fill found) = part found := by
  have from_ : ∀ filled, part filled = part found →
      part (kinds.foldl fill filled) = part found := by
    induction kinds with
    | nil => exact fun _ same => same
    | cons kind above inductionHypothesis =>
      intro filled same
      apply inductionHypothesis fun kind member => kept kind (List.mem_cons_of_mem _ member)
      exact kept kind (List.mem_cons_self ..) filled same
  exact from_ found rfl

theorem lineage_eq (kind : ReportKind) : kind.lineage = kind :: kind.lineage.tail := by
  cases kind <;> rfl

/-- Only the two kinds with a detail of their own to fill in do so, and neither is above another. -/
theorem standardDetail?_above (kind above : ReportKind) (member : above ∈ kind.lineage.tail)
    (name : String) : standardDetail? above name = none := by
  cases kind <;> simp [ReportKind.lineage] at member
  all_goals obtain rfl | rfl := member <;> rfl

theorem details_received (kind : ReportKind) (found : Findings) :
    (fill (received kind found) kind).details = settleDetails kind found.details := by
  rw [settleDetails_eq]
  simp [fill, received]

theorem details_filled (kind : ReportKind) (found : Findings) :
    (kind.lineage.foldl fill (received kind found)).details = (make kind found).details := by
  rw [lineage_eq, List.foldl_cons]
  refine (foldl_keeps Findings.details _ _ ?_).trans (details_received kind found)
  intro above member filled same
  rw [← same]
  simp [fill, fillDetail, standardDetail?_above kind above member]

theorem message_filled (kind : ReportKind) (found : Findings) :
    (kind.lineage.foldl fill (received kind found)).message = (make kind found).message := by
  have standard : standardMessage kind (received kind found).details =
      standardMessage kind (settleDetails kind found.details) := by
    cases kind <;> rfl
  have head : (fill (received kind found) kind).message = (make kind found).message := by
    unfold fill make
    rw [standard]
    rfl
  have silent : (make kind found).message = "" → ∀ above ∈ kind.lineage.tail, above = .general := by
    intro untold above member
    by_cases special : kind ≠ .general ∧ kind ≠ .configuration
    · exfalso
      apply standardMessage_ne kind (settleDetails kind found.details) special
      by_cases given : found.message = ""
      · simpa [make, given] using untold
      · simp [make, given] at untold
    · cases kind <;> simp_all [ReportKind.lineage]
  rw [lineage_eq, List.foldl_cons, ← head]
  apply foldl_keeps Findings.message
  intro above member filled same
  rw [head] at same ⊢
  by_cases untold : filled.message = ""
  · rw [silent (same.symm.trans untold) above member, ← same]
    have wordless : standardMessage .general filled.details = "" := rfl
    simp [fill, untold, wordless]
  · rw [← same]
    simp [fill, untold]

theorem code_filled (kind : ReportKind) (found : Findings) :
    (kind.lineage.foldl fill (received kind found)).code = (make kind found).code := by
  have head : (fill (received kind found) kind).code = (make kind found).code := rfl
  rw [lineage_eq, List.foldl_cons, ← head]
  apply foldl_keeps Findings.code
  intro above member filled same
  have given : filled.code ≠ 0 := by
    intro zero
    rw [same, head] at zero
    have general : kind = .general := by
      cases kind <;> simp [make, ReportKind.code] at zero ⊢
      all_goals omega
    rw [general] at member
    cases member
  rw [← same]
  simp [fill, given]

/-- Of the kinds above others, only traps suggest anything. -/
theorem ownSuggestion_above (kind above : ReportKind) (member : above ∈ kind.lineage.tail)
    (other : above ≠ .guestTrap) (details : Fields) : ownSuggestion above details = none := by
  cases kind <;> simp [ReportKind.lineage] at member
  all_goals obtain rfl | rfl := member
  all_goals first | rfl | exact absurd rfl other

/-- Below them stand aborts, which leave the suggestion to them, and refusals of memory, which do
not. -/
theorem below_guestTrap (kind : ReportKind) (member : .guestTrap ∈ kind.lineage.tail) :
    kind = .guestAbort ∨ kind = .guestMemory := by
  cases kind <;> simp [ReportKind.lineage] at member ⊢

theorem suggestion_filled (kind : ReportKind) (found : Findings) :
    (kind.lineage.foldl fill (received kind found)).suggestion = (make kind found).suggestion := by
  by_cases abort : kind = .guestAbort
  · subst abort
    have lineage : ReportKind.guestAbort.lineage = [.guestAbort, .guestTrap, .general] := rfl
    rw [lineage]
    by_cases given : found.suggestion.getD "" = ""
    · simp [fill, received, make, given, ownSuggestion, standardSuggestion]
    · simp [fill, received, make, given]
  · have standard : ownSuggestion kind (received kind found).details =
        standardSuggestion kind (settleDetails kind found.details) := by
      cases kind <;> first | rfl | exact absurd rfl abort
    have head : (fill (received kind found) kind).suggestion = (make kind found).suggestion := by
      unfold fill make
      rw [standard]
      rfl
    rw [lineage_eq, List.foldl_cons, ← head]
    apply foldl_keeps Findings.suggestion
    intro above member filled same
    rw [head] at same ⊢
    by_cases trap : above = .guestTrap
    · rw [trap] at member
      obtain rfl | rfl := below_guestTrap kind member
      · exact absurd rfl abort
      · have advised : filled.suggestion.getD "" ≠ "" := by
          rw [same]
          by_cases given : found.suggestion.getD "" = ""
          · simp [make, given, standardSuggestion]
          · simp [make, given]
        rw [← same]
        simp [fill, advised]
    · rw [← same]
      simp [fill, ownSuggestion_above kind above member trap]

theorem construct_lineage (kind : ReportKind) (found : Findings) :
    construct kind.lineage (received kind found) = (make kind found).findings := by
  rw [construct_eq, details_filled, message_filled, code_filled, suggestion_filled]
  unfold findings
  rw [Findings.mk.injEq]
  exact ⟨rfl, rfl, rfl, (context_make kind found).symm, rfl⟩

/-- What a report of a kind is, given what its author supplied. -/
structure Consistent (kind : ReportKind) (found : Findings) (report : Report) : Prop where
  /-- It is what its kind and the kinds above it make of it, one after the other. -/
  constructed : construct kind.lineage (received kind found) = report.findings
  /-- What was supplied for a detail is kept, unless it is empty. -/
  supplied : ∀ detail ∈ kind.details, ∀ v, found.details.find? detail.name = some v →
    v.isFalsy = false → report.details.find? detail.name = some v
  /-- Each recorded detail of the kind, and of those above it, is in the context as it is in the
  report. -/
  recorded : ∀ above ∈ kind.lineage, ∀ detail ∈ above.ownDetails, detail.recorded = true →
    ∃ v, report.details.find? detail.name = some v ∧ report.context.find? detail.name = some v
  /-- The rest of the context has its values and places. -/
  kept : ∀ (i : Nat) (name : String) (v : Value), found.context[i]? = some (name, v) →
    name ∉ kind.records → report.context[i]? = some (name, v)
  code : report.code = if found.code = 0 then ReportKind.nearestCode kind.lineage else found.code
  message : found.message ≠ "" → report.message = found.message
  suggestion : ∀ text, found.suggestion = some text → text ≠ "" → report.suggestion = some text
  /-- Made again from what it says, it is the same, and so is its document. -/
  again : make kind report.findings = report ∧
    (make kind report.findings).document = report.document

/-- A report agrees with what was supplied for it, and with itself. -/
theorem make_consistent (kind : ReportKind) (found : Findings) :
    Consistent kind found (make kind found) := by
  have again := make_findings kind found
  constructor
  · exact construct_lineage kind found
  · intro detail member v given some_
    refine (find?_settleDetails kind found.details member).trans ?_
    rw [given, Option.getD_some]
    unfold fillDetail
    cases standardDetail? kind detail.name <;> simp [some_]
  · intro above higher detail own recorded
    have settled := find?_settleDetails kind found.details
      ((kind.mem_details detail).mpr ⟨above, higher, own⟩)
    have listed : detail.name ∈ kind.records :=
      (kind.mem_records detail.name).mpr ⟨above, higher, detail, own, recorded, rfl⟩
    refine ⟨_, settled, ?_⟩
    rw [find?_context, if_pos listed]
    exact congrArg some (Fields.get_of_find? _ _ _ settled)
  · intro i name v present other
    rw [context_make]
    exact Fields.getElem?_putAll found.context _ kind.records present other
  · rw [ReportKind.nearestCode_lineage]
    rfl
  · intro given
    simp [make, given]
  · intro text given some_
    simp [make, given, some_]
  · exact ⟨again, congrArg document again⟩

/-! ## The boundary -/

/-- A value did not pass the boundary in a direction. -/
def Marshals (report : Report) (direction : String) : Prop :=
  report.kind = .marshaling ∧ report.details.get "direction" = .text direction

theorem marshaling_marshals (direction target underlying : String) :
    (marshaling direction target underlying).Marshals direction :=
  ⟨rfl, rfl⟩

end Report
end PolicyHost
