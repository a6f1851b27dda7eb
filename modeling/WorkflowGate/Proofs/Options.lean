/-
# What an option has a say in

A run reads each of its options in one place.  So two runs on the same input whose options differ in one
of them find the same, check by check, but for the check that reads it: credentials, cycles, or the
advice on subworkflows.  Two of the options only say what a back end is asked, and a run that asks
nobody does not look at them.

Leaving a check out never makes a workflow invalid.  For credentials the findings are simply gone; for
the edges behind error handles it is that a cycle of the edges that are left is a cycle of all edges.

* `Check.Alike`: the options agree on what a check reads of them;
* `Gate.Itemizes.eq_of_alike`: **then the check finds the same**;
* `Gate.exists_compared`: two runs on the same input, list by list;
* `Gate.validate_option_effects`: **what each option has a say in**, and that leaving out a check keeps
  valid what is valid.
-/
import WorkflowGate.Proofs.Graph.Acyclic
import WorkflowGate.Proofs.Itemized
import WorkflowGate.Proofs.Merging
import WorkflowGate.Proofs.Reporter

namespace WorkflowGate

open Result Run

/-! ## 1. What a check reads of the options -/

/-- The options agree on what the check reads of them. -/
def Check.Alike (o o' : Options) : Check → Prop
  | .cycles => o.ignoreErrorHandles.truthy = o'.ignoreErrorHandles.truthy
  | .credentials => o.checkCredentials.truthy = o'.checkCredentials.truthy
  | .complexity => o.maxNestingDepth = o'.maxNestingDepth
  | .input | .triggers | .connections | .fields | .branches | .timeouts | .handles => True

/-- Options agree on what a check reads when they agree on what each of the three checks reads. -/
theorem Check.alike {o o' : Options} {check : Check}
    (hcycles : check = .cycles → o.ignoreErrorHandles.truthy = o'.ignoreErrorHandles.truthy)
    (hcredentials : check = .credentials → o.checkCredentials.truthy = o'.checkCredentials.truthy)
    (hcomplexity : check = .complexity → o.maxNestingDepth = o'.maxNestingDepth) :
    check.Alike o o' := by
  cases check with
  | cycles => exact hcycles rfl
  | credentials => exact hcredentials rfl
  | complexity => exact hcomplexity rfl
  | input | triggers | connections | fields | branches | timeouts | handles => trivial

namespace Gate

variable {g : Gate} {o o' : Options} {s : Snapshot} {registry : Registry}
  {answers : Text → Except Fault Resolver.Loaded} {found found' : Check → List Finding}

/-- **A check finds the same where the options agree on what it reads of them.** -/
theorem Itemizes.eq_of_alike (h : g.Itemizes o s registry answers found)
    (h' : g.Itemizes o' s registry answers found') {check : Check} (halike : check.Alike o o') :
    found check = found' check := by
  cases check with
  | input => rw [h.input, h'.input]
  | triggers => rw [h.triggers, h'.triggers]
  | cycles =>
    obtain ⟨report, hreport, hcycles⟩ := h.cycles
    obtain ⟨report', hreport', hcycles'⟩ := h'.cycles
    rw [halike, hreport'] at hreport
    cases hreport
    rw [hcycles, hcycles']
  | connections =>
    obtain ⟨report, hreport, hconnections⟩ := h.connections
    obtain ⟨report', hreport', hconnections'⟩ := h'.connections
    rw [hreport'] at hreport
    cases hreport
    rw [hconnections, hconnections']
  | fields => exact Except.ok.inj (h.fields.symm.trans h'.fields)
  | credentials => rw [h.credentials, h'.credentials, halike]
  | branches => exact Except.ok.inj (h.branches.symm.trans h'.branches)
  | timeouts => exact Except.ok.inj (h.timeouts.symm.trans h'.timeouts)
  | complexity =>
    obtain ⟨large, advice, hlarge, hadvice, hcomplexity⟩ := h.complexity
    obtain ⟨large', advice', hlarge', hadvice', hcomplexity'⟩ := h'.complexity
    rw [hlarge'] at hlarge
    rw [halike, hadvice'] at hadvice
    cases hlarge
    cases hadvice
    rw [hcomplexity, hcomplexity']
  | handles => rw [h.handles, h'.handles]

/-! ## 2. The three checks that read an option -/

/-- Every finding on credentials has their code. -/
theorem Itemizes.leaveOut_credentials (h : g.Itemizes o s registry answers found) :
    Report.leaveOut [.missingCredential] (found .credentials) = [] := by
  refine Report.leaveOut_eq_nil fun f hf => List.mem_singleton.mpr ?_
  rw [h.credentials] at hf
  split at hf
  · obtain ⟨n, -, hf⟩ := List.mem_flatMap.mp hf
    cases hschema : Resolver.schemaBy answers n.kind with
    | none =>
      rw [hschema] at hf
      cases hf
    | some schema =>
      rw [hschema] at hf
      obtain ⟨spec, -, -, -, rfl⟩ := Node.mem_missingCredentials_iff.mp hf
      rfl
  · cases hf

/-- Every finding on cycles has one of their codes. -/
theorem Itemizes.leaveOut_cycles (h : g.Itemizes o s registry answers found) :
    Report.leaveOut Snapshot.cycleCodes (found .cycles) = [] := by
  obtain ⟨report, -, hcycles⟩ := h.cycles
  rw [hcycles]
  exact Report.leaveOut_eq_nil fun f hf => s.code_mem_of_mem_cycleFindings hf

/-- **An error on cycles stands for a cycle.** -/
theorem Itemizes.exists_error_iff_cyclic (h : g.Itemizes o s registry answers found)
    (hs : s.Consistent) :
    (∃ f ∈ found .cycles, f.severity = .error) ↔ s.Cyclic o.ignoreErrorHandles.truthy := by
  obtain ⟨report, hreport, hcycles⟩ := h.cycles
  rw [hcycles]
  exact hs.exists_mem_cycleFindings_iff hreport fun message first => rfl

/-- The bound on subworkflows has no say in anything else. -/
theorem Itemizes.leaveOut_complexity (h : g.Itemizes o s registry answers found)
    (h' : g.Itemizes o' s registry answers found') :
    Report.leaveOut [.manySubworkflows] (found .complexity) =
      Report.leaveOut [.manySubworkflows] (found' .complexity) := by
  obtain ⟨large, advice, hlarge, hadvice, hcomplexity⟩ := h.complexity
  obtain ⟨large', advice', hlarge', hadvice', hcomplexity'⟩ := h'.complexity
  rw [hlarge'] at hlarge
  cases hlarge
  rw [hcomplexity, hcomplexity', Report.leaveOut_append, Report.leaveOut_append]
  have hrest : Report.leaveOut [.manySubworkflows] advice =
      Report.leaveOut [.manySubworkflows] advice' := by
    refine Snapshot.leaveOut_advice hadvice hadvice' rfl ?_ fun _ => rfl
    intro hcode
    exact absurd List.mem_cons_self hcode
  rw [hrest]

/-! ## 3. Reports -/

/-- A report is valid when no check finds an error. -/
theorem isValid_ofFindings_all_iff :
    (Report.ofFindings (Check.all.flatMap found)).isValid = true ↔
      ∀ check, ¬ ∃ f ∈ found check, f.severity = .error := by
  rw [Report.isValid_ofFindings_iff]
  constructor
  · rintro h check ⟨f, hf, herror⟩
    exact h f (List.mem_flatMap.mpr ⟨check, check.mem_all, hf⟩) herror
  · intro h f hf herror
    obtain ⟨check, -, hf⟩ := List.mem_flatMap.mp hf
    exact h check ⟨f, hf, herror⟩

/-- **Reports are alike but for codes of the one check on which the options differ.** -/
theorem Itemizes.without_eq (h : g.Itemizes o s registry answers found)
    (h' : g.Itemizes o' s registry answers found') (differing : Check)
    (halike : ∀ check, check ≠ differing → check.Alike o o') {codes : List Code}
    (hcodes : Report.leaveOut codes (found differing) = Report.leaveOut codes (found' differing)) :
    (Report.ofFindings (Check.all.flatMap found)).without codes =
      (Report.ofFindings (Check.all.flatMap found')).without codes := by
  have hflat (found : Check → List Finding) : Report.leaveOut codes (Check.all.flatMap found) =
      Check.all.flatMap fun check => Report.leaveOut codes (found check) :=
    List.filter_flatMap
  have heach (check : Check) :
      Report.leaveOut codes (found check) = Report.leaveOut codes (found' check) := by
    by_cases hcheck : check = differing
    · rw [hcheck]
      exact hcodes
    · rw [h.eq_of_alike h' (halike check hcheck)]
  simp only [Report.without_ofFindings, hflat, heach]

/-- What is valid stays so where that check finds no error that it had not found. -/
theorem Itemizes.isValid_of_isValid (h : g.Itemizes o s registry answers found)
    (h' : g.Itemizes o' s registry answers found') (differing : Check)
    (halike : ∀ check, check ≠ differing → check.Alike o o')
    (herror : (∃ f ∈ found' differing, f.severity = .error) →
      ∃ f ∈ found differing, f.severity = .error)
    (hvalid : (Report.ofFindings (Check.all.flatMap found)).isValid = true) :
    (Report.ofFindings (Check.all.flatMap found')).isValid = true := by
  rw [isValid_ofFindings_all_iff] at hvalid ⊢
  intro check hfound
  by_cases hcheck : check = differing
  · subst hcheck
    exact hvalid check (herror hfound)
  · rw [← h.eq_of_alike h' (halike check hcheck)] at hfound
    exact hvalid check hfound

variable {lookup : Option (Text → Except Fault LookupReply)} {mayWait : Bool} {nodes : Batch Node}
  {edges : Batch Edge} {t : Transport} {report report' : Report}

/-- **Two runs on the same input, list by list.**  Where the input alone settles the report there is
nothing to compare. -/
theorem exists_compared (hreport : (g.validate o mayWait nodes edges t).result = .ok report)
    (hreport' : (g.validate o' mayWait nodes edges t).result = .ok report')
    (hlookup : o.lookup = lookup.map .ofFunction) (hsame : o'.lookup = o.lookup)
    (hunwanted : o.withBackend.truthy = false) (hunwanted' : o'.withBackend.truthy = false) :
    report = report' ∨ ∃ s found found', s.Consistent ∧
      g.Itemizes o s g.schemas (Resolver.tableOf g.schemas lookup) found ∧
      g.Itemizes o' s g.schemas (Resolver.tableOf g.schemas lookup) found' ∧
      report = .ofFindings (Check.all.flatMap found) ∧
      report' = .ofFindings (Check.all.flatMap found') := by
  have hsettled (h : (nodes.isList && edges.isList) = false ∨
      ∃ s, Snapshot.ofBatches nodes edges = .ok s ∧ s.isEmpty = true) : report = report' := by
    obtain ⟨settled, hstage⟩ := exists_settled g mayWait h
    have hresult := (validate_of_settled (hstage o _) t).1
    have hresult' := (validate_of_settled (hstage o' _) t).1
    rw [hreport] at hresult
    rw [hreport'] at hresult'
    rw [Except.ok.inj hresult, Except.ok.inj hresult']
  cases hlists : nodes.isList && edges.isList with
  | false => exact .inl (hsettled (.inl hlists))
  | true =>
    obtain ⟨s, hs⟩ := succeeds_ofBatches_of_stage hlists
      ((g.succeeds_validate_iff_stage hunwanted mayWait nodes edges t).mp ⟨report, hreport⟩)
    cases hnodes : s.isEmpty with
    | true => exact .inl (hsettled (.inr ⟨s, hs, hnodes⟩))
    | false =>
      obtain ⟨found, hfound, hall⟩ := exists_itemizes hlists hs hnodes hlookup hunwanted hreport
      obtain ⟨found', hfound', hall'⟩ :=
        exists_itemizes hlists hs hnodes (hsame.trans hlookup) hunwanted' hreport'
      exact .inr ⟨s, found, found', Snapshot.consistent_of_ofBatches hs, hfound, hfound', hall, hall'⟩

/-- **Whether credentials are checked has a say in the findings on credentials alone**, and without them
nothing becomes invalid. -/
theorem without_missingCredential {v : Value} (hlookup : o.lookup = lookup.map .ofFunction)
    (hunwanted : o.withBackend.truthy = false)
    (hreport : (g.validate o mayWait nodes edges t).result = .ok report)
    (hreport' : (g.validate { o with checkCredentials := v } mayWait nodes edges t).result =
      .ok report') :
    report.without [.missingCredential] = report'.without [.missingCredential] ∧
      (v.truthy = false → report.isValid = true → report'.isValid = true) := by
  obtain rfl | ⟨s, found, found', -, h, h', rfl, rfl⟩ :=
    exists_compared hreport hreport' hlookup rfl hunwanted hunwanted
  · exact ⟨rfl, fun _ => id⟩
  have halike (check : Check) (hne : check ≠ .credentials) :
      check.Alike o { o with checkCredentials := v } :=
    Check.alike (fun _ => rfl) (fun heq => absurd heq hne) fun _ => rfl
  constructor
  · refine h.without_eq h' .credentials halike ?_
    exact h.leaveOut_credentials.trans h'.leaveOut_credentials.symm
  · intro hoff
    refine h.isValid_of_isValid h' .credentials halike ?_
    rintro ⟨f, hf, -⟩
    rw [h'.credentials, hoff] at hf
    cases hf

/-- **Whether edges behind error handles count has a say in the findings on cycles alone**, and without
those edges nothing becomes invalid. -/
theorem without_cycles {v : Value} (hlookup : o.lookup = lookup.map .ofFunction)
    (hunwanted : o.withBackend.truthy = false)
    (hreport : (g.validate o mayWait nodes edges t).result = .ok report)
    (hreport' : (g.validate { o with ignoreErrorHandles := v } mayWait nodes edges t).result =
      .ok report') :
    report.without [.cycleDetected, .nodeInCycle] =
        report'.without [.cycleDetected, .nodeInCycle] ∧
      (v.truthy = true → report.isValid = true → report'.isValid = true) := by
  obtain rfl | ⟨s, found, found', hs, h, h', rfl, rfl⟩ :=
    exists_compared hreport hreport' hlookup rfl hunwanted hunwanted
  · exact ⟨rfl, fun _ => id⟩
  have halike (check : Check) (hne : check ≠ .cycles) :
      check.Alike o { o with ignoreErrorHandles := v } :=
    Check.alike (fun heq => absurd heq hne) (fun _ => rfl) fun _ => rfl
  constructor
  · refine h.without_eq h' .cycles halike ?_
    exact h.leaveOut_cycles.trans h'.leaveOut_cycles.symm
  · intro hignored
    refine h.isValid_of_isValid h' .cycles halike ?_
    intro herror
    have hcyclic := (h'.exists_error_iff_cyclic hs).mp herror
    rw [hignored] at hcyclic
    exact (h.exists_error_iff_cyclic hs).mpr hcyclic.of_ignoring

/-- **The bound on subworkflows has a say in the advice on them alone.** -/
theorem without_manySubworkflows {v : Value} (hlookup : o.lookup = lookup.map .ofFunction)
    (hunwanted : o.withBackend.truthy = false)
    (hreport : (g.validate o mayWait nodes edges t).result = .ok report)
    (hreport' : (g.validate { o with maxNestingDepth := v } mayWait nodes edges t).result =
      .ok report') :
    report.without [.manySubworkflows] = report'.without [.manySubworkflows] := by
  obtain rfl | ⟨s, found, found', -, h, h', rfl, rfl⟩ :=
    exists_compared hreport hreport' hlookup rfl hunwanted hunwanted
  · rfl
  refine h.without_eq h' .complexity (fun check hne => ?_) (h.leaveOut_complexity h')
  exact Check.alike (fun _ => rfl) (fun _ => rfl) fun heq => absurd heq hne

/-- **Options without a say in any check leave the report as it is.** -/
theorem eq_of_all_alike (hreport : (g.validate o mayWait nodes edges t).result = .ok report)
    (hreport' : (g.validate o' mayWait nodes edges t).result = .ok report')
    (hlookup : o.lookup = lookup.map .ofFunction) (hsame : o'.lookup = o.lookup)
    (hunwanted : o.withBackend.truthy = false) (hunwanted' : o'.withBackend.truthy = false)
    (halike : ∀ check : Check, check.Alike o o') : report = report' := by
  obtain rfl | ⟨s, found, found', -, h, h', rfl, rfl⟩ :=
    exists_compared hreport hreport' hlookup hsame hunwanted hunwanted'
  · rfl
  have heach : found = found' := funext fun check => h.eq_of_alike h' (halike check)
  rw [heach]

/-! ## 4. All options -/

/-- **What each option has a say in**, where nobody is asked and the lookup answers a kind the same way
each time.  Two reports whose options differ in

* whether credentials are checked, are the same without the findings on credentials;
* whether edges behind error handles count, are the same without the findings on cycles;
* the bound on subworkflows, are the same without the advice on them;
* what only a back end is told, are the same.

Checking no credentials, and counting no edges behind error handles, keeps valid what is valid. -/
theorem validate_option_effects (g : Gate) (o : Options)
    {lookup : Option (Text → Except Fault LookupReply)} (hlookup : o.lookup = lookup.map .ofFunction)
    (hunwanted : o.withBackend.truthy = false) (mayWait : Bool) (nodes : Batch Node)
    (edges : Batch Edge) (t : Transport) {report : Report}
    (hreport : (g.validate o mayWait nodes edges t).result = .ok report) (v : Value)
    (other : Report) :
    ((g.validate { o with checkCredentials := v } mayWait nodes edges t).result = .ok other →
      report.without [.missingCredential] = other.without [.missingCredential] ∧
        (v.truthy = false → report.isValid = true → other.isValid = true)) ∧
    ((g.validate { o with ignoreErrorHandles := v } mayWait nodes edges t).result = .ok other →
      report.without [.cycleDetected, .nodeInCycle] = other.without [.cycleDetected, .nodeInCycle] ∧
        (v.truthy = true → report.isValid = true → other.isValid = true)) ∧
    ((g.validate { o with maxNestingDepth := v } mayWait nodes edges t).result = .ok other →
      report.without [.manySubworkflows] = other.without [.manySubworkflows]) ∧
    ((g.validate { o with checkTypes := v } mayWait nodes edges t).result = .ok other →
      report = other) ∧
    ((g.validate { o with checkSubworkflowCycles := v } mayWait nodes edges t).result = .ok other →
      report = other) := by
  refine ⟨fun hother => ?_, fun hother => ?_, fun hother => ?_, fun hother => ?_, fun hother => ?_⟩
  · exact without_missingCredential hlookup hunwanted hreport hother
  · exact without_cycles hlookup hunwanted hreport hother
  · exact without_manySubworkflows hlookup hunwanted hreport hother
  · refine eq_of_all_alike hreport hother hlookup rfl hunwanted hunwanted fun check => ?_
    exact Check.alike (fun _ => rfl) (fun _ => rfl) fun _ => rfl
  · refine eq_of_all_alike hreport hother hlookup rfl hunwanted hunwanted fun check => ?_
    exact Check.alike (fun _ => rfl) (fun _ => rfl) fun _ => rfl

/-- An event that comes in, and a step that fails over to it, with their forms left blank. -/
def retriedNodes : List Value :=
  [.ofFields [("id", .text "in"), ("kind", .text "slack_trigger")],
   .ofFields [("id", .text "step"), ("kind", .text "http_request")]]

/-- The way forth, and the way back behind an error handle. -/
def retriedEdges : List Value :=
  [.ofFields [("id", .text "forth"), ("source", .text "in"), ("target", .text "step")],
   .ofFields [("id", .text "back"), ("source", .text "step"), ("target", .text "in"),
     ("source_handle", .text "error")]]

/-- The nodes that are read. -/
def retriedNodesRead : List Node :=
  [⟨"in", "slack_trigger", [], none, none⟩, ⟨"step", "http_request", [], none, none⟩]

/-- The edges that are read. -/
def retriedEdgesRead : List Edge :=
  [⟨"forth", "in", "step", none, none⟩, ⟨"back", "step", "in", some "error", none⟩]

/-- Where the way back is not counted, the report is the same but for the cycle, and so it is, but for
the credential, where credentials are not checked. -/
theorem validate_option_effects_retried :
    ∃ report uncounted unchecked,
      (({} : Gate).validate {} true (.ofValue (.list retriedNodes)) (.ofValue (.list retriedEdges))
        { deliver := fun _ => .silence }).result = .ok report ∧
      (({} : Gate).validate { ignoreErrorHandles := .bool true } true
        (.ofValue (.list retriedNodes)) (.ofValue (.list retriedEdges))
        { deliver := fun _ => .silence }).result = .ok uncounted ∧
      (({} : Gate).validate { checkCredentials := .bool false } true
        (.ofValue (.list retriedNodes)) (.ofValue (.list retriedEdges))
        { deliver := fun _ => .silence }).result = .ok unchecked ∧
      report.without [.cycleDetected, .nodeInCycle] =
        uncounted.without [.cycleDetected, .nodeInCycle] ∧
      (report.isValid = true → uncounted.isValid = true) ∧
      report.without [.missingCredential] = unchecked.without [.missingCredential] ∧
      (report.isValid = true → unchecked.isValid = true) := by
  have hnodes : (retriedNodes.map Entry.raw).mapM Entry.readNode =
      .ok (retriedNodesRead.map .node) := rfl
  have hedges : (retriedEdges.map Entry.raw).mapM Entry.readEdge =
      .ok (retriedEdgesRead.map some) := rfl
  have hreturns (o : Options) (hlookup : o.lookup = none) (hunwanted : o.withBackend.truthy = false)
      (hdepth : o.maxNestingDepth.isNumeric = true) :=
    exists_report_of_blank {} o hlookup hunwanted Gate.usable_default hdepth true hnodes hedges
      (by decide) (by decide +kernel) { deliver := fun _ => .silence }
  obtain ⟨report, hreport⟩ := hreturns {} rfl rfl rfl
  obtain ⟨uncounted, huncounted⟩ := hreturns { ignoreErrorHandles := .bool true } rfl rfl rfl
  obtain ⟨unchecked, hunchecked⟩ := hreturns { checkCredentials := .bool false } rfl rfl rfl
  have hlookup : ({} : Options).lookup =
      (none : Option (Text → Except Fault LookupReply)).map .ofFunction := rfl
  have heffects := validate_option_effects {} {} hlookup rfl true
    (.ofValue (.list retriedNodes)) (.ofValue (.list retriedEdges)) { deliver := fun _ => .silence }
    hreport
  obtain ⟨-, hcycles, -⟩ := heffects (.bool true) uncounted
  obtain ⟨hcredentials, -⟩ := heffects (.bool false) unchecked
  obtain ⟨hrest, hvalid⟩ := hcycles huncounted
  obtain ⟨hrest', hvalid'⟩ := hcredentials hunchecked
  exact ⟨report, uncounted, unchecked, hreport, huncounted, hunchecked, hrest, hvalid rfl, hrest',
    hvalid' rfl⟩

end Gate

end WorkflowGate
