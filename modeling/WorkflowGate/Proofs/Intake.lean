/-
# What a run makes of its input

A run settles its report at once where the input is no canvas or holds no nodes.  Everything else it
looks at, and what it then has to say is what its checks find: reading the canvas has written to the
log and done nothing else.

* `isEmpty_inputFindings`: something is said against the input exactly when one of its two parts is
  no list;
* `Snapshot.execute_adapt`: reading within a run is reading, with a log;
* `execute_stage_of_misfit`, `execute_stage_of_empty`: the two reports that are settled at once;
* `execute_stage_of_unread`: lists that cannot be read;
* `execute_stage_of_canvas`, `exists_validate_of_canvas`: **the rest of a run is its checks**, which
  begin with nothing resolved, and the question to a back end.
-/
import WorkflowGate.Gate
import WorkflowGate.Proofs.Result

namespace WorkflowGate

open Result Run

/-! ## 1. Reading -/

/-- Reading a canvas within a run comes to what reading it by itself does, and adds to the log. -/
theorem Snapshot.execute_adapt [Room] (nodes : Batch Node) (edges : Batch Edge) (st : RunState) :
    ∃ log, (Snapshot.adapt nodes edges).execute st =
      (Snapshot.ofBatches nodes edges, { st with log := log }) := by
  have hbatches : Snapshot.ofBatches nodes edges =
      (nodes.toEntries.bind (·.mapM Entry.readNode)) >>= fun nodeReadings =>
        (edges.toEntries.bind (·.mapM Entry.readEdge)) >>= fun edgeReadings =>
          pure (Snapshot.ofReadings nodeReadings edgeReadings) := by
    simp only [Snapshot.ofBatches, ← bind_assoc]
    rfl
  rw [hbatches, Snapshot.adapt]
  cases nodes.toEntries.bind (·.mapM Entry.readNode) with
  | error f => exact ⟨st.log, rfl⟩
  | ok nodeReadings =>
    cases edges.toEntries.bind (·.mapM Entry.readEdge) with
    | error f => exact ⟨st.log ++ Snapshot.rejectionRecords nodeReadings, rfl⟩
    | ok edgeReadings =>
      exact ⟨st.log ++ Snapshot.rejectionRecords nodeReadings ++
        [(Snapshot.ofReadings nodeReadings edgeReadings).adaptedRecord], rfl⟩

namespace Gate

/-- **Nothing is said against the input exactly when both its parts are lists.** -/
theorem isEmpty_inputFindings (nodes : Batch Node) (edges : Batch Edge) :
    (inputFindings nodes edges).isEmpty = (nodes.isList && edges.isList) := by
  unfold inputFindings
  cases nodes.isList <;> cases edges.isList <;> rfl

variable {nodes : Batch Node} {edges : Batch Edge}

/-! ## 2. Reports that are settled at once -/

/-- The report on input that is no canvas. -/
theorem execute_stage_of_misfit [Room] (g : Gate) (o : Options) (mayWait : Bool)
    (h : (nodes.isList && edges.isList) = false) (st : RunState) :
    ∃ log, (g.stage o mayWait nodes edges).execute st =
      (.ok (.settled (.ofFindings (inputFindings nodes edges))), { st with log := log }) := by
  rw [← isEmpty_inputFindings] at h
  refine ⟨st.log ++ [.of .gate .warning "Rejected malformed workflow input"], ?_⟩
  simp only [stage, intake, h, Bool.false_eq_true, if_false, execute_bind, execute_record,
    execute_pure]

/-- The report on a canvas without nodes. -/
theorem execute_stage_of_empty [Room] (g : Gate) (o : Options) (mayWait : Bool)
    (hlists : (nodes.isList && edges.isList) = true) {s : Snapshot}
    (hs : Snapshot.ofBatches nodes edges = .ok s) (hempty : s.isEmpty = true) (st : RunState) :
    ∃ log, (g.stage o mayWait nodes edges).execute st =
      (.ok (.settled (.ofFindings (s.findings ++ [emptyFinding]))), { st with log := log }) := by
  rw [← isEmpty_inputFindings] at hlists
  obtain ⟨log, hadapt⟩ := Snapshot.execute_adapt nodes edges st
  rw [hs] at hadapt
  refine ⟨log, ?_⟩
  simp only [stage, intake, hlists, if_true, execute_bind, hadapt, hempty, execute_pure]

/-! ## 3. Canvases -/

/-- A run on lists whose own part ends has read them. -/
theorem succeeds_ofBatches_of_stage [Room] {g : Gate} {o : Options} {mayWait : Bool} {st : RunState}
    (hlists : (nodes.isList && edges.isList) = true)
    (h : Succeeds ((g.stage o mayWait nodes edges).execute st).1) :
    Succeeds (Snapshot.ofBatches nodes edges) := by
  rw [← isEmpty_inputFindings] at hlists
  obtain ⟨log, hadapt⟩ := Snapshot.execute_adapt nodes edges st
  cases hs : Snapshot.ofBatches nodes edges with
  | ok s => exact succeeds_ok s
  | error f =>
    rw [hs] at hadapt
    simp only [stage, intake, hlists, if_true, execute_bind, hadapt] at h
    exact absurd h (not_succeeds_error f)

/-- A run on lists that cannot be read ends with the fault of reading them. -/
theorem execute_stage_of_unread [Room] (g : Gate) (o : Options) (mayWait : Bool)
    (hlists : (nodes.isList && edges.isList) = true) {f : Fault}
    (hf : Snapshot.ofBatches nodes edges = .error f) (st : RunState) :
    ∃ log, (g.stage o mayWait nodes edges).execute st = (.error f, { st with log := log }) := by
  rw [← isEmpty_inputFindings] at hlists
  obtain ⟨log, hadapt⟩ := Snapshot.execute_adapt nodes edges st
  rw [hf] at hadapt
  exact ⟨log, by simp only [stage, intake, hlists, if_true, execute_bind, hadapt]⟩

/-- **What a run does with a canvas is what its checks do**, and what is open then is the question
about it.  Gate and options have no part in how the canvas is read. -/
theorem execute_stage_of_canvas [Room] (hlists : (nodes.isList && edges.isList) = true) {s : Snapshot}
    (hs : Snapshot.ofBatches nodes edges = .ok s) (hnodes : s.isEmpty = false) (st : RunState) :
    ∃ log, ∀ (g : Gate) (o : Options) (mayWait : Bool),
      (g.stage o mayWait nodes edges).execute st =
        (do return .pending (← g.localFindings o s) (g.question o mayWait s) : Run Stage).execute
          { st with log := log } := by
  rw [← isEmpty_inputFindings] at hlists
  obtain ⟨log, hadapt⟩ := Snapshot.execute_adapt nodes edges st
  rw [hs] at hadapt
  refine ⟨log, fun g o mayWait => ?_⟩
  simp only [stage, intake, hlists, if_true, execute_bind, hadapt, hnodes, Bool.false_eq_true,
    if_false, execute_pure]

/-! ## 4. Whole runs -/

end Gate

/-- A report holds the findings of the run's own, and behind them those of an outcome if something was
asked. -/
theorem RunResult.exists_of_result_join {log : List LogRecord} {own : List Finding}
    {e : Option Exchange} {report : Report} (h : (join log own e).result = .ok report) :
    ∃ more, report = .ofFindings (own ++ more) ∧ (e = none → more = []) ∧
      ∀ x, e = some x → ∃ outcome, x.result = .ok outcome ∧ more = outcome.findings := by
  cases e with
  | none =>
    cases h
    exact ⟨[], by rw [List.append_nil], fun _ => rfl, fun x hx => (nomatch hx)⟩
  | some x =>
    rcases x with ⟨f | outcome, sent, entries⟩
    · cases h
    · cases h
      refine ⟨outcome.findings, rfl, fun hnone => (nomatch hnone), fun x hx => ?_⟩
      cases hx
      exact ⟨outcome, rfl, rfl⟩

namespace Gate

variable {nodes : Batch Node} {edges : Batch Edge}

/-- A whole run ends what its own part has opened. -/
theorem validate_of_execute [Room] {g : Gate} {o : Options} {mayWait : Bool} {x : Except Fault Stage}
    {st : RunState}
    (h : (g.stage o mayWait nodes edges).execute (Run.begin g.schemas o.lookup) = (x, st))
    (t : Transport) : g.validate o mayWait nodes edges t = Opened.finish ⟨x, st.log⟩ t := by
  rw [validate, start, h]

/-- The report on a canvas without nodes. -/
theorem report_of_empty [Room] {g : Gate} {o : Options} {mayWait : Bool} {t : Transport} {s : Snapshot}
    {report : Report} (hlists : (nodes.isList && edges.isList) = true)
    (hs : Snapshot.ofBatches nodes edges = .ok s) (hempty : s.isEmpty = true)
    (hreport : (g.validate o mayWait nodes edges t).result = .ok report) :
    report = .ofFindings (s.findings ++ [emptyFinding]) := by
  obtain ⟨log, hstage⟩ :=
    execute_stage_of_empty g o mayWait hlists hs hempty (Run.begin g.schemas o.lookup)
  rw [validate_of_execute hstage, (Opened.finish_of_settled rfl t).1] at hreport
  exact (Except.ok.inj hreport).symm

/-- What a run's own part leaves resolved. -/
def resolved [Room] (g : Gate) (o : Options) (mayWait : Bool) (nodes : Batch Node) (edges : Batch Edge) :
    Resolver :=
  ((g.stage o mayWait nodes edges).execute (Run.begin g.schemas o.lookup)).2.resolver

/-- **A whole run on a canvas is its checks, followed by the question where they end with findings.**
Options with the same lookup begin alike. -/
theorem exists_validate_of_canvas [Room] (hlists : (nodes.isList && edges.isList) = true) {s : Snapshot}
    (hs : Snapshot.ofBatches nodes edges = .ok s) (hnodes : s.isEmpty = false) (g : Gate)
    (lookup : Option Lookup) (t : Transport) :
    ∃ log, ∀ (o : Options) (mayWait : Bool), o.lookup = lookup →
      (g.resolved o mayWait nodes edges = ((g.localFindings o s).execute
          { Run.begin g.schemas lookup with log := log }).2.resolver) ∧
        g.validate o mayWait nodes edges t =
          match (g.localFindings o s).execute { Run.begin g.schemas lookup with log := log } with
          | (.error f, st') => ⟨.error f, [], st'.log⟩
          | (.ok own, st') => .join st'.log own ((g.question o mayWait s).exchange t) := by
  obtain ⟨log, hstage⟩ := execute_stage_of_canvas hlists hs hnodes (Run.begin g.schemas lookup)
  refine ⟨log, fun o mayWait ho => ?_⟩
  subst ho
  have hrun := hstage g o mayWait
  rw [execute_bind] at hrun
  rcases hlocal : (g.localFindings o s).execute
      { Run.begin g.schemas o.lookup with log := log } with ⟨f | own, st'⟩
  · rw [hlocal] at hrun
    rw [validate_of_execute hrun, resolved, hrun]
    exact ⟨rfl, rfl⟩
  · rw [hlocal] at hrun
    rw [validate_of_execute hrun, resolved, hrun]
    exact ⟨rfl, rfl⟩

end Gate

end WorkflowGate
