/-
# When a report warns that a back end was not asked

One code tells people that a back end has not looked at their workflow.  No check of a run uses it, so
where an answer came back the report has the warning once if the answer was rejected, and else has what
the answer itself says under that code, as a rule nothing.  So whatever lets an answer count without a
look at the workflow goes unnoticed: a redirection whose body happens to be readable does.

* `Gate.exists_report_of_outcome`: a run ends with a report when its own part and asking do;
* `Authority.outcome_of_answer`: **what comes of an answer, and what a report says of it**;
* `Authority.success_of_redirect`: a redirection that leaves no warning.
-/
import WorkflowGate.Proofs.Backend.Asking
import WorkflowGate.Proofs.Merging
import WorkflowGate.Proofs.Reporter

namespace WorkflowGate

open Result Run

namespace Gate

variable {g : Gate} {o : Options} {mayWait : Bool} {nodes : Batch Node} {edges : Batch Edge}
  {t : Transport} {s : Snapshot}

/-! ## 1. Reports -/

/-- **A run that asks ends with a report when it would without asking and there is an outcome.**  The
report holds what the checks find, followed by the findings of the outcome. -/
theorem exists_report_of_outcome (hlists : (nodes.isList && edges.isList) = true)
    (hs : Snapshot.ofBatches nodes edges = .ok s) (hnodes : s.isEmpty = false)
    (hown : Succeeds (g.validate o.withoutBackend mayWait nodes edges t).result) {x : Exchange}
    (hx : (g.question o mayWait s).exchange t = some x) {outcome : Outcome}
    (hresult : x.result = .ok outcome) :
    ∃ found, g.Finds o s (g.resolved o mayWait nodes edges) found ∧
      (g.validate o mayWait nodes edges t).result =
        .ok (.ofFindings (Check.all.flatMap found ++ outcome.findings)) := by
  have hreport : Succeeds (g.validate o mayWait nodes edges t).result := by
    obtain ⟨log, hvalidate⟩ := exists_validate_of_canvas hlists hs hnodes g o.lookup t
    have hsame : g.localFindings o.withoutBackend s = g.localFindings o s := rfl
    rw [(hvalidate o.withoutBackend mayWait rfl).2, hsame] at hown
    rw [(hvalidate o mayWait rfl).2]
    rcases hlocal : (g.localFindings o s).execute
        { Run.begin g.schemas o.lookup with log := log } with ⟨f | found, st⟩
    · rw [hlocal] at hown
      exact absurd hown (not_succeeds_error f)
    · rw [hx]
      exact ⟨_, (RunResult.result_join_some st.log found _).trans (congrArg _ hresult)⟩
  obtain ⟨report, hreport⟩ := hreport
  obtain ⟨-, found, more, hfound, rfl, -, hmore⟩ := exists_finds hlists hs hnodes hreport
  obtain ⟨_, houtcome, rfl⟩ := hmore x hx
  obtain rfl := Except.ok.inj (hresult.symm.trans houtcome)
  exact ⟨found, hfound, hreport⟩

/-- No check says that a back end was not asked. -/
theorem Finds.coded_unavailable {final : Resolver} {found : Check → List Finding}
    (h : g.Finds o s final found) (hs : Snapshot.ofBatches nodes edges = .ok s)
    (hrefinements : g.refinements = .builtin) (more : List Finding) :
    (Report.ofFindings (Check.all.flatMap found ++ more)).coded .backendValidationUnavailable =
      (Report.ofFindings more).coded .backendValidationUnavailable := by
  refine Report.coded_ofFindings_append (fun f hf hcode => ?_) more
  obtain ⟨check, -, hf⟩ := List.mem_flatMap.mp hf
  have hreported := h.reportedBy_of_mem hs hrefinements hf
  rw [Finding.ReportedBy, hcode] at hreported
  cases hreported

/-- What a gate with a back end asks. -/
theorem exchange_question {a : Authority} (hwanted : o.withBackend.truthy = true)
    (hauthority : g.authority? = some a) :
    (g.question o true s).exchange t = some (a.ask s o.flags t) := by
  simp only [question, hwanted, hauthority, Bool.not_true, Bool.false_eq_true, if_false]
  rfl

end Gate

/-! ## 2. Answers -/

namespace Authority

/-- **What comes of an answer, and what a report says of it.**  An answer counts when its status is no
error and its body can be read, and is rejected when its status is an error or its body cannot be read;
only with another status and a body nested too deep to be read is there no outcome.  The report then
warns once that the back end was not asked, or holds what the answer says. -/
theorem outcome_of_answer {a : Authority} (ha : a.WellFormed) {s : Snapshot} {flags : CheckFlags}
    {r : HttpRequest} (hprepared : a.prepare s flags = .ok (some r)) {t : Transport} {status : Int}
    {body : List UInt8} (hanswer : t.deliver r = .answer status body) :
    (Succeeds (a.ask s flags t).result ↔
      (400 ≤ status ∧ status ≤ 599) ∨ Succeeds (BackendReply.ofBytes body)) ∧
    ∀ outcome, (a.ask s flags t).result = .ok outcome →
      (outcome.status = .success ↔
        ¬ (400 ≤ status ∧ status ≤ 599) ∧ ∃ reply, BackendReply.ofBytes body = .ok (.ok reply)) ∧
      (outcome.status = .rejected ↔
        (400 ≤ status ∧ status ≤ 599) ∨
          ∃ problem, BackendReply.ofBytes body = .ok (.error problem)) ∧
      ∀ (g : Gate) (o : Options) (nodes : Batch Node) (edges : Batch Edge),
        g.refinements = .builtin → g.authority? = some a → o.withBackend.truthy = true →
        o.flags = flags → (nodes.isList && edges.isList) = true →
        Snapshot.ofBatches nodes edges = .ok s → s.isEmpty = false →
        Succeeds (g.validate o.withoutBackend true nodes edges t).result →
        ∃ report, (g.validate o true nodes edges t).result = .ok report ∧
          (outcome.status = .rejected →
            report.coded .backendValidationUnavailable = [Outcome.unavailableFinding]) ∧
          (outcome.status = .success →
            ∃ reply, BackendReply.ofBytes body = .ok (.ok reply) ∧
              report.coded .backendValidationUnavailable =
                (Report.ofFindings reply.findings).coded .backendValidationUnavailable) := by
  have hscheme := ha.scheme_of_prepare hprepared
  refine ⟨?_, fun outcome houtcome => ?_⟩
  · have hlimit := writable_of_hasTime (hasTime_of_prepare hprepared)
    rw [ask, hprepared, exchange, succeeds_result_ofEnd,
      succeeds_conclude_iff a t.elapsed hscheme hlimit, hanswer, Delivery.Concludes, BackendReply.succeeds_ofBytes_iff, isErrorStatus_iff]
  · have hconcluded : Concluded status body outcome := by
      have hend := houtcome
      rw [ask, hprepared, exchange, hanswer] at hend
      rcases hconclude : a.conclude t.elapsed r (.answer status body) with f | ⟨ended, entry⟩
      · rw [hconclude] at hend
        cases hend
      · rw [hconclude] at hend
        cases hend
        exact concluded_of_conclude hconclude
    refine ⟨hconcluded.success_iff, hconcluded.rejected_iff, ?_⟩
    rintro g o nodes edges hrefinements hauthority hwanted rfl hlists hs hnodes hown
    obtain ⟨found, hfound, hreport⟩ := Gate.exists_report_of_outcome hlists hs hnodes hown
      (Gate.exchange_question hwanted hauthority) houtcome
    refine ⟨_, hreport, fun hrejected => ?_, fun hsuccess => ?_⟩
    · have hfailed : outcome.status ≠ .success := by
        rw [hrejected]
        decide
      rw [hfound.coded_unavailable hs hrefinements, Outcome.findings_of_not_ok hfailed]
      rfl
    · obtain ⟨reply, hread, hreported⟩ := hconcluded.reported_of_success hsuccess
      refine ⟨reply, hread, ?_⟩
      rw [hfound.coded_unavailable hs hrefinements, ← hreported, Outcome.findings, Outcome.ok,
        hsuccess]
      rfl

/-- There is something to send about a lone trigger. -/
theorem exists_prepare_loneSnapshot :
    ∃ r, usable.prepare Gate.loneSnapshot (.ofBools true true true) = .ok (some r) := by
  have hsent : (usable.prepare Gate.loneSnapshot (.ofBools true true true)).toOption.join.isSome =
      true := by decide +kernel
  rcases hprepare : usable.prepare Gate.loneSnapshot (.ofBools true true true) with f | (_ | r)
  · rw [hprepare] at hsent
    cases hsent
  · rw [hprepare] at hsent
    cases hsent
  · exact ⟨r, rfl⟩

/-- An answer that the service is unavailable leaves one warning. -/
theorem outcome_of_answer_unavailable :
    ∃ report, (Gate.backedGate.validate { withBackend := .bool true } true
        (.ofValue (.list [Gate.loneTrigger])) (.ofValue (.list []))
        { deliver := fun _ => .answer 503 [] }).result = .ok report ∧
      report.coded .backendValidationUnavailable = [Outcome.unavailableFinding] := by
  obtain ⟨r, hprepared⟩ := exists_prepare_loneSnapshot
  have hown : Succeeds (Gate.backedGate.validate
      ({ withBackend := .bool true } : Options).withoutBackend true
      (.ofValue (.list [Gate.loneTrigger])) (.ofValue (.list []))
      { deliver := fun _ => .answer 503 [] }).result :=
    Gate.backedGate.exists_report_of_judgeable rfl rfl Gate.usable_default rfl true
      (s := Gate.loneSnapshot) rfl (Gate.judgeable_loneSnapshot _) _
  obtain ⟨hends, houtcome⟩ := outcome_of_answer wellFormed_usable hprepared
    (t := { deliver := fun _ => .answer 503 [] }) rfl
  obtain ⟨outcome, hresult⟩ := hends.mpr (.inl (by decide))
  obtain ⟨-, hrejected, hrun⟩ := houtcome outcome hresult
  obtain ⟨report, hreport, hwarned, -⟩ := hrun Gate.backedGate { withBackend := .bool true }
    (.ofValue (.list [Gate.loneTrigger])) (.ofValue (.list [])) rfl rfl rfl rfl rfl rfl rfl hown
  exact ⟨report, hreport, hwarned (hrejected.mpr (.inl (by decide)))⟩

/-- An empty mapping, as the bytes of a body. -/
def emptyBody : List UInt8 := [0x7b, 0x7d]

/-- **A redirection counts as an answer**: where its body is an empty mapping it is a success, nothing is
reported, and no warning says that nobody has looked at the workflow. -/
theorem success_of_redirect :
    usable.WellFormed ∧ ∃ outcome, (usable.ask .empty (.ofBools true true true)
        { deliver := fun _ => .answer 302 emptyBody }).result = .ok outcome ∧
      outcome.status = .success ∧ outcome.findings = [] := by
  refine ⟨wellFormed_usable, ?_⟩
  have hend : ((usable.ask .empty (.ofBools true true true)
      { deliver := fun _ => .answer 302 emptyBody }).result.toOption.map
        fun outcome => (outcome.status, outcome.findings)) = some (.success, []) := by decide +kernel
  cases hresult : (usable.ask .empty (.ofBools true true true)
      { deliver := fun _ => .answer 302 emptyBody }).result with
  | error f =>
    rw [hresult] at hend
    cases hend
  | ok outcome =>
    rw [hresult] at hend
    obtain ⟨hstatus, hfindings⟩ := Prod.mk.inj (Option.some.inj hend)
    exact ⟨outcome, rfl, hstatus, hfindings⟩

end Authority

end WorkflowGate
