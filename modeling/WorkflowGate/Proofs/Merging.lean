/-
# What a back end adds to a report

A run has its say before a back end has: the same options with and without a back end give the same
findings of the run's own.  What asking comes to goes behind them, severity by severity, so nothing
that the run found is lost or moved.  A failure is one warning; only an answer can add errors.

* `Question.answer_of_success`: a success comes from an answer that could be read, and reports what it says;
* `exists_own_of_report`: a report is that of the run without a back end and what asking comes to;
* `validate_asking`: **with a back end a report is that of the run's own findings, followed by those
  of the outcome**, and where there is nothing to ask about it is the same report.
-/
import WorkflowGate.Proofs.Backend.Answered
import WorkflowGate.Proofs.Gate
import WorkflowGate.Proofs.Intake

namespace WorkflowGate

open Result Run

/-- The same options without a back end. -/
def Options.withoutBackend (o : Options) : Options := { o with withBackend := .bool false }

/-! ## 1. Findings of an outcome -/

namespace Report

/-- A report on two lists of findings is valid when the reports on both are. -/
theorem isValid_ofFindings_append (fs gs : List Finding) :
    (ofFindings (fs ++ gs)).isValid = ((ofFindings fs).isValid && (ofFindings gs).isValid) := by
  rw [Bool.eq_iff_iff, Bool.and_eq_true, isValid_ofFindings_iff, isValid_ofFindings_iff,
    isValid_ofFindings_iff, List.forall_mem_append]

/-- A warning more goes behind the other warnings. -/
theorem ofFindings_concat_of_warning (fs : List Finding) {f : Finding}
    (h : f.severity = .warning) :
    ofFindings (fs ++ [f]) =
      { ofFindings fs with warnings := (ofFindings fs).warnings ++ [f] } := by
  simp [ofFindings, select, h]

end Report

/-- What an answer reports is valid when it lists no errors. -/
theorem BackendReply.isValid_ofFindings (reply : BackendReply) :
    (Report.ofFindings reply.findings).isValid = reply.errors.isEmpty := by
  rw [Bool.eq_iff_iff, Report.isValid_ofFindings_iff]
  constructor
  · intro h
    cases herrors : reply.errors with
    | nil => rfl
    | cons e rest =>
      have he : e.finding .error ∈ reply.findings := by simp [findings, herrors]
      exact absurd (ReplyEntry.severity_finding .error e) (h _ he)
  · intro h f hf
    simp only [findings, List.isEmpty_iff.mp h, List.map_nil, List.nil_append, List.mem_append,
      List.mem_map] at hf
    rcases hf with ⟨e, -, rfl⟩ | ⟨e, -, rfl⟩ <;> simp

/-! ## 2. Successes -/

/-- The answer behind an outcome: the only request that was sent got it, and it can be read. -/
structure Exchange.Answered (x : Exchange) (t : Transport) (outcome : Outcome)
    (reply : BackendReply) : Prop where
  delivered : ∃ r status body, x.sent = [r] ∧ t.deliver r = .answer status body ∧
    Authority.isErrorStatus status = false ∧ BackendReply.ofBytes body = .ok (.ok reply)
  reported_eq : outcome.reported = reply.findings

/-- **A success comes from an answer that could be read**, and reports what the answer says. -/
theorem Question.answer_of_success {q : Question} {t : Transport} {x : Exchange} {outcome : Outcome}
    (hx : q.exchange t = some x) (hresult : x.result = .ok outcome)
    (hsuccess : outcome.status = .success) : ∃ reply, x.Answered t outcome reply := by
  cases q with
  | unasked => cases hx
  | impossible detail entry =>
    cases hx
    cases hresult
    cases hsuccess
  | asked a prepared =>
    cases hx
    rcases prepared with f | (_ | r)
    · cases hresult
    · cases hlimit : a.timedOut t.elapsed .limit with
      | error f =>
        simp only [Authority.exchange, hlimit, Exchange.ofEnd] at hresult
        cases hresult
      | ok ended =>
        simp only [Authority.exchange, hlimit, Exchange.ofEnd] at hresult
        cases hresult
        rw [Authority.status_of_timedOut hlimit] at hsuccess
        cases hsuccess
    · cases hend : a.conclude t.elapsed r (t.deliver r) with
      | error f =>
        simp only [Authority.exchange, hend, Exchange.ofEnd] at hresult
        cases hresult
      | ok ended =>
        simp only [Authority.exchange, hend, Exchange.ofEnd] at hresult ⊢
        cases hresult
        obtain ⟨status, body, reply, hanswer, hstatus, hread, hreported⟩ :=
          Authority.answer_of_conclude hend hsuccess
        exact ⟨reply, ⟨r, status, body, rfl, hanswer, hstatus, hread⟩, hreported⟩

/-! ## 3. Reports -/

/-- **How a report comes from a run's own one and an outcome of asking**: the findings of the outcome
go behind those of the run, a failure adds its warning and nothing else, and an answer decides with
the run whether the workflow is valid. -/
structure Report.Adds (own : Report) (t : Transport) (x : Exchange) (outcome : Outcome)
    (merged : Report) : Prop where
  bySeverity_eq : ∀ severity, merged.bySeverity severity =
    own.bySeverity severity ++ select severity outcome.findings
  failure : outcome.status ≠ .success →
    merged = { own with warnings := own.warnings ++ [Outcome.unavailableFinding] } ∧
      merged.isValid = own.isValid
  success : outcome.status = .success →
    ∃ reply, x.Answered t outcome reply ∧ merged.isValid = (own.isValid && reply.errors.isEmpty)

/-- The report on a run's own findings and those of an outcome. -/
theorem Report.adds_ofFindings (own : List Finding) {q : Question} {t : Transport} {x : Exchange}
    {outcome : Outcome} (hx : q.exchange t = some x) (hresult : x.result = .ok outcome) :
    (Report.ofFindings own).Adds t x outcome (Report.ofFindings (own ++ outcome.findings)) where
  bySeverity_eq severity := by
    rw [bySeverity_ofFindings_append, bySeverity_ofFindings outcome.findings]
  failure hfailure := by
    rw [Outcome.findings_of_not_ok hfailure,
      ofFindings_concat_of_warning own (f := Outcome.unavailableFinding) rfl]
    exact ⟨rfl, rfl⟩
  success hsuccess := by
    obtain ⟨reply, hanswered⟩ := Question.answer_of_success hx hresult hsuccess
    refine ⟨reply, hanswered, ?_⟩
    have hfindings : outcome.findings = reply.findings := by
      simp only [Outcome.findings, Outcome.ok, hsuccess, decide_true, if_true,
        hanswered.reported_eq]
    rw [isValid_ofFindings_append, hfindings, BackendReply.isValid_ofFindings]

namespace RunResult

/-- What was sent is what asking has sent, however it ended. -/
theorem sent_join_some (log : List LogRecord) (own : List Finding) (x : Exchange) :
    (join log own (some x)).sent = x.sent := by
  rcases x with ⟨result, sent, entries⟩
  cases result with
  | error f => rfl
  | ok outcome => rfl

end RunResult

/-! ## 4. Runs with and without a back end -/

namespace Gate

variable {g : Gate} {o : Options} {mayWait : Bool} {nodes : Batch Node} {edges : Batch Edge}

/-- There is something to ask wherever the caller wants it. -/
theorem exists_exchange (hwanted : o.withBackend.truthy = true) (mayWait : Bool) (s : Snapshot)
    (t : Transport) : ∃ x, (g.question o mayWait s).exchange t = some x := by
  simp only [question, hwanted, Bool.not_true, Bool.false_eq_true, if_false]
  split
  · exact ⟨_, rfl⟩
  · split <;> exact ⟨_, rfl⟩

/-- **Input that is no canvas or holds no nodes settles the report**, whatever the options are. -/
theorem exists_settled [Room] (g : Gate) (mayWait : Bool)
    (h : (nodes.isList && edges.isList) = false ∨
      ∃ s, Snapshot.ofBatches nodes edges = .ok s ∧ s.isEmpty = true) :
    ∃ report, ∀ (o : Options) (st : RunState),
      ((g.stage o mayWait nodes edges).execute st).1 = .ok (.settled report) := by
  by_cases hlists : (nodes.isList && edges.isList) = true
  · obtain hmisfit | ⟨s, hs, hempty⟩ := h
    · rw [hlists] at hmisfit
      cases hmisfit
    · refine ⟨.ofFindings (s.findings ++ [emptyFinding]), fun o st => ?_⟩
      obtain ⟨log, hstage⟩ := execute_stage_of_empty g o mayWait hlists hs hempty st
      rw [hstage]
  · refine ⟨.ofFindings (inputFindings nodes edges), fun o st => ?_⟩
    obtain ⟨log, hstage⟩ :=
      execute_stage_of_misfit g o mayWait (Bool.eq_false_iff.mpr hlists) st
    rw [hstage]

/-- A run whose report is settled asks nobody. -/
theorem validate_of_settled [Room] {report : Report}
    (h : ((g.stage o mayWait nodes edges).execute (Run.begin g.schemas o.lookup)).1 =
      .ok (.settled report)) (t : Transport) :
    (g.validate o mayWait nodes edges t).result = .ok report ∧
      (g.validate o mayWait nodes edges t).sent = [] := by
  rcases hrun : (g.stage o mayWait nodes edges).execute (Run.begin g.schemas o.lookup) with ⟨x, st⟩
  rw [hrun] at h
  rw [validate_of_execute hrun]
  exact Opened.finish_of_settled h t

/-- **With a back end a report is that of the run's own findings, followed by those of the
outcome.**  Input that is no canvas or holds no nodes gives the same report with and without a back
end, which is not asked. -/
theorem validate_asking (g : Gate) {o : Options} (hwanted : o.withBackend.truthy = true)
    (mayWait : Bool) (nodes : Batch Node) (edges : Batch Edge) (t : Transport) :
    ((nodes.isList && edges.isList) = false ∨
        (∃ s, Snapshot.ofBatches nodes edges = .ok s ∧ s.isEmpty = true) →
      ∃ report, (g.validate o mayWait nodes edges t).result = .ok report ∧
        (g.validate o.withoutBackend mayWait nodes edges t).result = .ok report ∧
        (g.validate o mayWait nodes edges t).sent = []) ∧
    ∀ own, (nodes.isList && edges.isList) = true →
      (g.validate o.withoutBackend mayWait nodes edges t).result = .ok own →
      ∃ s, Snapshot.ofBatches nodes edges = .ok s ∧ (s.isEmpty = false →
        ∃ x, (g.question o mayWait s).exchange t = some x ∧
          (g.validate o mayWait nodes edges t).sent = x.sent ∧
          ∀ outcome, x.result = .ok outcome →
            ∃ merged, (g.validate o mayWait nodes edges t).result = .ok merged ∧
              own.Adds t x outcome merged) := by
  refine ⟨fun h => ?_, fun own hlists hown => ?_⟩
  · obtain ⟨report, hsettled⟩ := exists_settled g mayWait h
    have hasked := validate_of_settled (hsettled o _) t
    exact ⟨report, hasked.1, (validate_of_settled (hsettled o.withoutBackend _) t).1, hasked.2⟩
  · obtain ⟨s, hs⟩ := succeeds_ofBatches_of_stage hlists
      ((g.succeeds_validate_iff_stage rfl mayWait nodes edges t).mp ⟨own, hown⟩)
    refine ⟨s, hs, fun hnodes => ?_⟩
    obtain ⟨x, hx⟩ := g.exists_exchange hwanted mayWait s t
    refine ⟨x, hx, ?_⟩
    obtain ⟨log, hvalidate⟩ := exists_validate_of_canvas hlists hs hnodes g o.lookup t
    have hsilent := (hvalidate o.withoutBackend mayWait rfl).2
    have hasking := (hvalidate o mayWait rfl).2
    -- the checks do not look at whether a back end is wanted, so they end alike in both runs
    have hsame : g.localFindings o.withoutBackend s = g.localFindings o s := rfl
    rw [hsame, g.question_of_unwanted rfl] at hsilent
    rcases hlocal : (g.localFindings o s).execute
        { Run.begin g.schemas o.lookup with log := log } with ⟨f | found, st'⟩
    · rw [hlocal] at hsilent
      rw [hsilent] at hown
      cases hown
    · rw [hlocal] at hsilent hasking
      rw [hsilent] at hown
      cases hown
      rw [hasking, hx]
      refine ⟨RunResult.sent_join_some st'.log found x, fun outcome hresult => ?_⟩
      refine ⟨.ofFindings (found ++ outcome.findings), ?_, Report.adds_ofFindings found hx hresult⟩
      rw [RunResult.result_join_some, hresult]
      rfl

/-- **A report on a canvas is that of the same run without a back end, followed by what asking comes
to.** -/
theorem exists_own_of_report (hlists : (nodes.isList && edges.isList) = true) {s : Snapshot}
    (hs : Snapshot.ofBatches nodes edges = .ok s) (hnodes : s.isEmpty = false) {t : Transport}
    {report : Report} (hreport : (g.validate o mayWait nodes edges t).result = .ok report) :
    ∃ own more, (g.validate o.withoutBackend mayWait nodes edges t).result = .ok (.ofFindings own) ∧
      report = .ofFindings (own ++ more) ∧ (o.withBackend.truthy = false → more = []) ∧
      ∀ x, (g.question o mayWait s).exchange t = some x →
        ∃ outcome, x.result = .ok outcome ∧ more = outcome.findings := by
  obtain ⟨log, hvalidate⟩ := exists_validate_of_canvas hlists hs hnodes g o.lookup t
  have hsame : g.localFindings o.withoutBackend s = g.localFindings o s := rfl
  rw [(hvalidate o.withoutBackend mayWait rfl).2, hsame, g.question_of_unwanted rfl]
  rw [(hvalidate o mayWait rfl).2] at hreport
  rcases hlocal : (g.localFindings o s).execute { Run.begin g.schemas o.lookup with log := log }
    with ⟨f | own, st⟩
  · rw [hlocal] at hreport
    cases hreport
  · rw [hlocal] at hreport
    obtain ⟨more, rfl, hnone, hsome⟩ := RunResult.exists_of_result_join hreport
    refine ⟨own, more, rfl, rfl, fun hunwanted => hnone ?_, hsome⟩
    rw [g.question_of_unwanted hunwanted]
    rfl

/-- A gate with a back end. -/
def backedGate : Gate := { backend := some { baseUrl := .text "https://backend.test" } }

/-- A trigger, as it is handed over. -/
def loneTrigger : Value := .ofFields [("id", .text "T"), ("kind", .text "manual_trigger")]

/-- The node that it is read as. -/
def loneNode : Node := ⟨"T", "manual_trigger", [], none, none⟩

/-- The canvas of that node alone. -/
def loneSnapshot : Snapshot := Snapshot.ofReadings [.node loneNode] []

/-- A trigger whose form is empty can be judged. -/
theorem judgeable_loneSnapshot (registry : Registry) : loneSnapshot.Judgeable registry {} := by
  refine Snapshot.judgeable_of_single (n := loneNode) rfl ?_ (fun hkind => absurd hkind (by decide))
    ⟨trivial, fun _ => ⟨trivial, fun _ => trivial⟩⟩ (by decide +kernel)
  rintro - schema - spec - hblank
  cases hblank

/-- A back end that never answers leaves its warning behind those of the run. -/
theorem validate_asking_silence :
    ∃ own, (backedGate.validate {} true (.ofValue (.list [loneTrigger])) (.ofValue (.list []))
        { deliver := fun _ => .silence }).result = .ok own ∧
      (backedGate.validate { withBackend := .bool true } true (.ofValue (.list [loneTrigger]))
        (.ofValue (.list [])) { deliver := fun _ => .silence }).result =
          .ok { own with warnings := own.warnings ++ [Outcome.unavailableFinding] } := by
  obtain ⟨own, hown⟩ : ∃ own, (backedGate.validate {} true (.ofValue (.list [loneTrigger]))
      (.ofValue (.list [])) { deliver := fun _ => .silence }).result = .ok own :=
    backedGate.exists_report_of_judgeable rfl rfl Gate.usable_default rfl true
      (s := loneSnapshot) rfl (judgeable_loneSnapshot _) _
  obtain ⟨-, hcanvas⟩ := backedGate.validate_asking (o := { withBackend := .bool true }) rfl true
    (.ofValue (.list [loneTrigger])) (.ofValue (.list [])) { deliver := fun _ => .silence }
  obtain ⟨s, hs, hasked⟩ := hcanvas own rfl hown
  obtain rfl : loneSnapshot = s := Except.ok.inj hs
  obtain ⟨x, hx, -, hmerged⟩ := hasked rfl
  have hend : ((backedGate.question { withBackend := .bool true } true loneSnapshot).exchange
      { deliver := fun _ => .silence }).map (fun x => x.result.toOption.map (·.status)) =
        some (some .timeout) := by decide +kernel
  rw [hx, Option.map_some, Option.some_inj] at hend
  obtain ⟨outcome, houtcome, hstatus⟩ := Option.map_eq_some_iff.mp hend
  cases hresult : x.result with
  | error f =>
    rw [hresult] at houtcome
    cases houtcome
  | ok o =>
    rw [hresult] at houtcome
    cases houtcome
    obtain ⟨merged, hmerged, hadds⟩ := hmerged outcome hresult
    have hfailed : outcome.status ≠ .success := by
      rw [hstatus]
      decide
    exact ⟨own, hown, by rw [hmerged, (hadds.failure hfailed).1]⟩

end Gate

end WorkflowGate
