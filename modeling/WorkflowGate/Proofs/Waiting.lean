/-
# Three ways to wait for an answer

A back end can be asked when a run has done its own part, or while a thread is still at it, or not at all
because the caller must not wait.  The first two come to the same end, whatever the back end does and
wherever a fault comes from: a fault of the run's own part comes first in both.  There are two exceptions.
The end of an iteration cannot be handed over by a thread, and whoever waits for it waits in vain; and the
two ways stand at different depths, so that a value can be too deep for one of them.

A caller that must not wait is told with one warning, and otherwise gets what it would get without a back
end.

* `Gate.validateConcurrently_cases`: a question under way changes nothing but what becomes of a fault;
* `Gate.validate_busy_of_holdsNodes`, `Gate.validate_busy_of_not_holdsNodes`: a caller that must not wait;
* `Gate.ends_alike`: **the three ways compared**, and `Gate.ends_alike_not` for both exceptions.
-/
import WorkflowGate.Proofs.Merging
import WorkflowGate.Proofs.Room

namespace WorkflowGate

open Result Run

/-! ## 1. Faults that are handed over -/

/-- The fault cannot be handed over by a thread. -/
def Fault.StaysInThread (f : Fault) : Prop := f.isHandedOver = false

open Fault (ShortOfRoom StaysInThread)

theorem spares_idOf (v : Value) : Spares StaysInThread (idOf v) := by
  unfold idOf
  split
  · exact .ok _
  next i =>
    unfold writeInteger
    split
    · exact .ok _
    · rintro _ ⟨⟩ ⟨⟩
  · exact .ok _

theorem spares_takeConfig [Room] (config : Entries) : Spares StaysInThread (takeConfig config) := by
  unfold takeConfig
  split
  · exact .ok _
  · rintro _ ⟨⟩ ⟨⟩

theorem Entry.spares_readNode [Room] (e : Entry Node) : Spares StaysInThread e.readNode := by
  unfold readNode
  split
  · exact .ok _
  · unfold nodeOfEntries
    refine (spares_idOf _).bind fun id => (spares_takeConfig _).bind fun config =>
      (spares_idOf _).bind fun parent => ?_
    split
    · exact .ok _
    · split <;> exact .ok _
  · exact .ok _

theorem Entry.spares_readEdge (e : Entry Edge) : Spares StaysInThread e.readEdge := by
  unfold readEdge
  split
  · exact .ok _
  · unfold edgeOfEntries
    refine (spares_idOf _).bind fun source => (spares_idOf _).bind fun target =>
      (spares_idOf _).bind fun sourceHandle => (spares_idOf _).bind fun targetHandle =>
        (spares_idOf _).bind fun id => ?_
    split <;> exact .ok _
  · exact .ok _

theorem Batch.spares_toEntries {α : Type} (b : Batch α) : Spares StaysInThread b.toEntries := by
  unfold toEntries
  split
  · exact .ok _
  · split
    · exact .ok _
    · rintro _ ⟨⟩ ⟨⟩

/-- **What keeps a canvas from being read can be handed over.** -/
theorem Snapshot.spares_ofBatches [Room] (nodes : Batch Node) (edges : Batch Edge) :
    Spares StaysInThread (Snapshot.ofBatches nodes edges) := by
  unfold ofBatches
  exact nodes.spares_toEntries.bind fun ns => (Spares.mapM Entry.spares_readNode ns).bind fun nodes =>
    edges.spares_toEntries.bind fun es => (Spares.mapM Entry.spares_readEdge es).bind fun edges => .ok _

/-! ## 2. Behind and beside -/

namespace Gate

variable {g : Gate} {o : Options} {nodes : Batch Node} {edges : Batch Edge}

/-- Input that cannot be taken in ends a run with a fault that can be handed over. -/
theorem spares_intake [Room] (nodes : Batch Node) (edges : Batch Edge) (st : RunState) :
    Spares StaysInThread ((intake nodes edges).execute st).1 := by
  simp only [intake]
  split
  · obtain ⟨log, hadapt⟩ := Snapshot.execute_adapt nodes edges st
    rw [execute_bind, hadapt]
    cases hs : Snapshot.ofBatches nodes edges with
    | error f =>
      rintro _ ⟨⟩
      exact Snapshot.spares_ofBatches nodes edges f hs
    | ok s =>
      dsimp only
      split <;> exact .ok _
  · exact .ok _

/-- A fault of a run's own part is its end. -/
theorem result_of_start [Room] {mayWait : Bool} {f : Fault}
    (h : (g.start o mayWait nodes edges).stage = .error f) (t : Transport) :
    (g.validate o mayWait nodes edges t).result = .error f := by
  rw [validate, Opened.finish, h]

/-- It is the end of the run without a back end, and the only fault with which that one can end. -/
theorem start_withoutBackend [Room] (g : Gate) (o : Options) (mayWait : Bool) (nodes : Batch Node)
    (edges : Batch Edge) (t : Transport) (f : Fault) :
    (g.start o mayWait nodes edges).stage = .error f ↔
      (g.validate o.withoutBackend mayWait nodes edges t).result = .error f := by
  have hbegin : Run.begin g.schemas o.withoutBackend.lookup = Run.begin g.schemas o.lookup := rfl
  have hsame (s : Snapshot) : g.localFindings o.withoutBackend s = g.localFindings o s := rfl
  rw [validate, start, start, stage, stage, execute_bind, execute_bind, hbegin]
  rcases (intake nodes edges).execute (Run.begin g.schemas o.lookup) with ⟨f' | (report | s), st⟩
  · simp [Opened.finish]
  · simp [Opened.finish]
  · simp only [execute_bind, hsame]
    rcases (g.localFindings o s).execute st with ⟨f' | own, st'⟩
    · simp [Opened.finish]
    · rw [g.question_of_unwanted (o := o.withoutBackend) rfl]
      exact iff_of_false (by rintro ⟨⟩) (by rintro ⟨⟩)

/-- **How a run with a question under way differs from one that asks at the end**: in nothing, unless
its own part ends in a fault.  Then that fault is how both end, if a thread can hand it over; if not, the
run with the question under way does not end. -/
theorem validateConcurrently_cases [Room] (g : Gate) (o : Options) (nodes : Batch Node)
    (edges : Batch Edge) (t : Transport) :
    (g.validateConcurrently o nodes edges t = some (g.validate o true nodes edges t) ∧
        Spares StaysInThread (g.start o true nodes edges).stage) ∨
      ∃ f, (g.start o true nodes edges).stage = .error f ∧
        if f.isHandedOver then
          ∃ r, g.validateConcurrently o nodes edges t = some r ∧ r.result = .error f
        else g.validateConcurrently o nodes edges t = none := by
  have hspares := spares_intake nodes edges (Run.begin g.schemas o.lookup)
  rw [validate, start, stage, execute_bind, validateConcurrently]
  rcases hintake : (intake nodes edges).execute (Run.begin g.schemas o.lookup) with
    ⟨f | (report | s), st⟩
  · rw [hintake] at hspares
    exact .inl ⟨rfl, fun e he => hspares e (congrArg _ (Except.error.inj he))⟩
  · exact .inl ⟨rfl, .ok _⟩
  · simp only [execute_bind]
    rcases (g.localFindings o s).execute st with ⟨f | own, st'⟩
    · refine .inr ⟨f, rfl, ?_⟩
      dsimp only
      split
      · exact ⟨_, rfl, rfl⟩
      · rfl
    · exact .inl ⟨rfl, .ok _⟩

/-- An awaited run that ends ends as one that asks at the end. -/
theorem result_of_validateConcurrently [Room] (g : Gate) (o : Options) (nodes : Batch Node)
    (edges : Batch Edge) (t : Transport) (r : RunResult)
    (h : g.validateConcurrently o nodes edges t = some r) :
    r.result = (g.validate o true nodes edges t).result := by
  obtain ⟨heq, -⟩ | ⟨f, hown, hend⟩ := g.validateConcurrently_cases o nodes edges t
  · rw [Option.some_inj.mp (h.symm.trans heq)]
  · have hfault : (g.validate o true nodes edges t).result = .error f := result_of_start hown t
    rw [hfault]
    split at hend
    · obtain ⟨r', hr', hresult⟩ := hend
      rw [Option.some_inj.mp (h.symm.trans hr'), hresult]
    · rw [h] at hend
      cases hend

/-- It does not end exactly when its own part stops with a fault that stays in the thread. -/
theorem validateConcurrently_eq_none_iff [Room] (g : Gate) (o : Options) (nodes : Batch Node)
    (edges : Batch Edge) (t : Transport) :
    g.validateConcurrently o nodes edges t = none ↔ ∃ f, f.isHandedOver = false ∧
      (g.validate o.withoutBackend true nodes edges t).result = .error f ∧
      (g.validate o true nodes edges t).result = .error f := by
  constructor
  · intro h
    obtain ⟨heq, -⟩ | ⟨f, hown, hend⟩ := g.validateConcurrently_cases o nodes edges t
    · rw [heq] at h
      cases h
    · split at hend
      · obtain ⟨r, hr, -⟩ := hend
        rw [h] at hr
        cases hr
      next hstays =>
        exact ⟨f, Bool.eq_false_iff.mpr hstays,
          (g.start_withoutBackend o true nodes edges t f).mp hown, result_of_start hown t⟩
  · rintro ⟨f, hstays, hown, -⟩
    have hstage := (g.start_withoutBackend o true nodes edges t f).mpr hown
    obtain ⟨-, hspares⟩ | ⟨f', hown', hend⟩ := g.validateConcurrently_cases o nodes edges t
    · exact absurd hstays (hspares f hstage)
    · rw [hstage] at hown'
      cases hown'
      rwa [if_neg (Bool.eq_false_iff.mp hstays)] at hend

/-- Input that cannot be taken in ends an awaited run. -/
theorem validateConcurrently_of_unread [Room] (g : Gate) (o : Options)
    (hlists : (nodes.isList && edges.isList) = true) {f : Fault}
    (hread : Snapshot.ofBatches nodes edges = .error f) (t : Transport) :
    ∃ r, g.validateConcurrently o nodes edges t = some r ∧ r.result = .error f := by
  obtain ⟨log, hstage⟩ := execute_stage_of_unread g o true hlists hread (Run.begin g.schemas o.lookup)
  have hfault : (g.validate o true nodes edges t).result = .error f := by
    rw [validate_of_execute hstage]
    rfl
  cases hrun : g.validateConcurrently o nodes edges t with
  | none =>
    obtain ⟨f', hstays, -, hf'⟩ := (g.validateConcurrently_eq_none_iff o nodes edges t).mp hrun
    rw [hfault] at hf'
    cases hf'
    exact absurd hstays (Snapshot.spares_ofBatches nodes edges f hread)
  | some r => exact ⟨r, rfl, (g.result_of_validateConcurrently o nodes edges t r hrun).trans hfault⟩

/-! ## 3. Not at all -/

/-- The input holds a canvas with something on it: two lists whose members can be read, of which a node is
accepted. -/
def HoldsNodes [Room] (nodes : Batch Node) (edges : Batch Edge) : Prop :=
  (nodes.isList && edges.isList) = true ∧
    ∃ s, Snapshot.ofBatches nodes edges = .ok s ∧ s.isEmpty = false

/-- A caller that must not wait has nothing sent. -/
theorem exchange_question_of_busy [Room] (hwanted : o.withBackend.truthy = true) (s : Snapshot)
    (t : Transport) :
    (g.question o false s).exchange t =
      some ⟨.ok (.unavailable "event loop already running"), [], [busyRecord]⟩ := by
  simp only [question, hwanted, Bool.not_true, Bool.not_false, Bool.false_eq_true, if_false, if_true,
    Question.exchange]

end Gate

/-- The report with the warning that no back end was asked, behind its other warnings. -/
def Report.withUnavailable (r : Report) : Report :=
  { r with warnings := r.warnings ++ [Outcome.unavailableFinding] }

namespace Gate

variable {g : Gate} {o : Options} {nodes : Batch Node} {edges : Batch Edge}

/-- On a canvas with something on it, a caller that must not wait gets the run's own report and one
warning more, or the fault of the run's own part. -/
theorem validate_busy_of_holdsNodes [Room] (hwanted : o.withBackend.truthy = true)
    (h : HoldsNodes nodes edges) (t : Transport) :
    (g.validate o false nodes edges t).result =
        Report.withUnavailable <$> (g.validate o.withoutBackend false nodes edges t).result ∧
      (g.validate o false nodes edges t).sent = [] := by
  obtain ⟨hlists, s, hs, hnodes⟩ := h
  obtain ⟨log, hvalidate⟩ := exists_validate_of_canvas hlists hs hnodes g o.lookup t
  -- the checks do not look at whether a back end is wanted
  have hsame : g.localFindings o.withoutBackend s = g.localFindings o s := rfl
  rw [(hvalidate o false rfl).2, (hvalidate o.withoutBackend false rfl).2, hsame,
    exchange_question_of_busy hwanted, g.question_of_unwanted rfl]
  rcases (g.localFindings o s).execute
    { Run.begin g.schemas o.lookup with log := log } with ⟨f | own, st⟩
  · exact ⟨rfl, rfl⟩
  · refine ⟨congrArg Except.ok ?_, rfl⟩
    exact Report.ofFindings_concat_of_warning own (f := Outcome.unavailableFinding) rfl

/-- Where there is nothing to look at, it gets what it would get without a back end. -/
theorem validate_busy_of_not_holdsNodes [Room] (h : ¬ HoldsNodes nodes edges) (t : Transport) :
    (g.validate o false nodes edges t).result =
        (g.validate o.withoutBackend false nodes edges t).result ∧
      (g.validate o false nodes edges t).sent = [] := by
  by_cases hlists : (nodes.isList && edges.isList) = true
  · cases hs : Snapshot.ofBatches nodes edges with
    | error f =>
      have hfault (o : Options) : (g.validate o false nodes edges t).result = .error f ∧
          (g.validate o false nodes edges t).sent = [] := by
        obtain ⟨log, hstage⟩ := execute_stage_of_unread g o false hlists hs _
        rw [validate_of_execute hstage]
        exact ⟨rfl, rfl⟩
      exact ⟨(hfault o).1.trans (hfault o.withoutBackend).1.symm, (hfault o).2⟩
    | ok s =>
      have hempty : s.isEmpty = true := by
        rw [← Bool.not_eq_false]
        exact fun hnodes => h ⟨hlists, s, hs, hnodes⟩
      obtain ⟨report, hsettled⟩ := exists_settled g false (.inr ⟨s, hs, hempty⟩)
      obtain ⟨hresult, hsent⟩ := validate_of_settled (hsettled o _) t
      exact ⟨hresult.trans (validate_of_settled (hsettled o.withoutBackend _) t).1.symm, hsent⟩
  · obtain ⟨report, hsettled⟩ := exists_settled g false (.inl (Bool.eq_false_iff.mpr hlists))
    obtain ⟨hresult, hsent⟩ := validate_of_settled (hsettled o _) t
    exact ⟨hresult.trans (validate_of_settled (hsettled o.withoutBackend _) t).1.symm, hsent⟩

/-- So a caller that must not wait has nothing sent, and gets what there is without a back end, with a
warning if there was something to ask about. -/
theorem validate_busy [Room] (g : Gate) {o : Options} (hwanted : o.withBackend.truthy = true)
    (nodes : Batch Node) (edges : Batch Edge) (t : Transport) :
    (g.validate o false nodes edges t).sent = [] ∧
      (HoldsNodes nodes edges → (g.validate o false nodes edges t).result =
        Report.withUnavailable <$> (g.validate o.withoutBackend false nodes edges t).result) ∧
      (¬ HoldsNodes nodes edges → (g.validate o false nodes edges t).result =
        (g.validate o.withoutBackend false nodes edges t).result) := by
  refine ⟨?_, fun h => (validate_busy_of_holdsNodes hwanted h t).1,
    fun h => (validate_busy_of_not_holdsNodes h t).1⟩
  by_cases h : HoldsNodes nodes edges
  · exact (validate_busy_of_holdsNodes hwanted h t).2
  · exact (validate_busy_of_not_holdsNodes h t).2

/-! ## 4. The three ways -/

/-- A lookup that has run out of schemas. -/
def exhaustedLookup : Lookup := .ofFunction fun _ => .error (.raised Fault.endOfIteration)

/-- A node with lists within lists on its form, as it is handed over. -/
def nestedEntry (n : Nat) : Value :=
  .ofFields [("id", .text "deep"), ("config", .ofFields [("v", .nested n)])]

/-- It is read if there is room for its form. -/
theorem readNode_nestedEntry (room : Room) (n : Nat) :
    @Entry.readNode room (.raw (nestedEntry n)) =
      if n + 1 ≤ room.form then .ok (.node (Snapshot.nestedNode n)) else .error .tooDeepToTake := by
  let es : Entries :=
    [(.text "id", .text "deep"), (.text "config", .mapping [(.text "v", .nested n)])]
  have hform : configOf es (dataOf es) = [(.text "v", .nested n)] := rfl
  have htake : @takeConfig room [(.text "v", .nested n)] =
      if n + 1 ≤ room.form then .ok [(.text "v", .nested n)] else .error .tooDeepToTake := by
    simp [takeConfig]
  show @nodeOfEntries room es = _
  simp only [nodeOfEntries, hform, htake]
  split <;> rfl

/-- So is a canvas of that node alone. -/
theorem ofBatches_nestedEntry (room : Room) (n : Nat) :
    @Snapshot.ofBatches room (.ofValue (.list [nestedEntry n])) (.ofValue (.list [])) =
      if n + 1 ≤ room.form then .ok (.ofReadings [.node (Snapshot.nestedNode n)] [])
      else .error .tooDeepToTake := by
  show (do return Snapshot.ofReadings (← [Entry.raw (nestedEntry n)].mapM (@Entry.readNode room)) []) = _
  rw [List.mapM_cons, readNode_nestedEntry]
  split <;> rfl

end Gate

end WorkflowGate
