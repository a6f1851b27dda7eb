/-
# What room decides

How much room there is on the stack decides how deep a run gets, and nothing else.  Two runs with
different room make the same of the same input, unless one of them meets a value that is too deep for it;
that one ends there.  The argument follows a run from the forms of single nodes to the end: only copying
a form and reading a JSON text look at the room (`alike_takeConfig`, `Json.alike_read`), and a fault ends
whatever it comes up in.

* `Run.AlikeUnless.bind`, `Run.AlikeUnless.mapM`: steps of a run that agree make up runs that agree;
* `Gate.alike_localFindings`: so do the checks of a canvas;
* `Gate.alike_validate`: **what a run comes to, with more room or with less**.
-/
import WorkflowGate.Gate
import WorkflowGate.Proofs.Json.Nesting

namespace WorkflowGate

variable {α β : Type}

/-- The fault says that there was too little room. -/
def Fault.ShortOfRoom (f : Fault) : Prop := f.lacksRoom = true

/-! ## 1. Steps of a run -/

namespace Run

variable {kind : Fault → Prop}

/-- Two computations do the same, unless one of them ends with a fault of the kind. -/
def AlikeUnless (kind : Fault → Prop) (r r' : Run α) : Prop :=
  ∀ st, r.execute st = r'.execute st ∨ FailsBy kind (r.execute st).1 ∨ FailsBy kind (r'.execute st).1

/-- A fault of the first step is that of all. -/
theorem failsBy_bind {r : Run α} {st : RunState} (h : FailsBy kind (r.execute st).1)
    (k : α → Run β) : FailsBy kind ((r >>= k).execute st).1 := by
  obtain ⟨f, hf, hkind⟩ := h
  refine ⟨f, ?_, hkind⟩
  rcases hrun : r.execute st with ⟨x, st'⟩
  rw [hrun] at hf
  cases hf
  rw [execute_bind, hrun]

/-- What they come to agrees in the same way. -/
theorem AlikeUnless.result {r r' : Run α} (h : AlikeUnless kind r r') (st : RunState) :
    WorkflowGate.AlikeUnless kind (r.execute st).1 (r'.execute st).1 :=
  (h st).imp_left (congrArg Prod.fst)

theorem AlikeUnless.refl (r : Run α) : AlikeUnless kind r r := fun _ => .inl rfl

theorem AlikeUnless.bind {r r' : Run α} {k k' : α → Run β} (h : AlikeUnless kind r r')
    (hk : ∀ a, AlikeUnless kind (k a) (k' a)) : AlikeUnless kind (r >>= k) (r' >>= k') := by
  intro st
  rcases h st with heq | hr | hr'
  · rw [execute_bind, execute_bind, heq]
    rcases r'.execute st with ⟨f | a, st'⟩
    · exact .inl rfl
    · exact hk a st'
  · exact .inr (.inl (failsBy_bind hr k))
  · exact .inr (.inr (failsBy_bind hr' k'))

theorem AlikeUnless.map {r r' : Run α} (h : AlikeUnless kind r r') (f : α → β) :
    AlikeUnless kind (f <$> r) (f <$> r') := by
  rw [map_eq_pure_bind, map_eq_pure_bind]
  exact h.bind fun a => .refl _

theorem AlikeUnless.mapM {f f' : α → Run β} (h : ∀ a, AlikeUnless kind (f a) (f' a)) (xs : List α) :
    AlikeUnless kind (xs.mapM f) (xs.mapM f') := by
  induction xs with
  | nil => exact .refl _
  | cons x rest ih =>
    rw [List.mapM_cons, List.mapM_cons]
    exact (h x).bind fun b => ih.bind fun bs => .refl _

/-- Results that agree are taken over alike. -/
theorem alike_lift {x y : Except Fault α} (h : WorkflowGate.AlikeUnless kind x y) :
    AlikeUnless kind (lift x) (lift y) := by
  intro st
  rcases h with rfl | ⟨f, rfl, hf⟩ | ⟨f, rfl, hf⟩
  · exact .inl rfl
  · exact .inr (.inl ⟨f, rfl, hf⟩)
  · exact .inr (.inr ⟨f, rfl, hf⟩)

end Run

open Fault (ShortOfRoom)

variable (here there : Room)

/-! ## 2. Entries -/

/-- **A form is copied alike, unless it is too deep.** -/
theorem alike_takeConfig (config : Entries) :
    AlikeUnless ShortOfRoom (@takeConfig here config) (@takeConfig there config) := by
  unfold takeConfig
  split
  · split
    · exact .refl _
    · exact .inr (.inr ⟨_, rfl, rfl⟩)
  · exact .inr (.inl ⟨_, rfl, rfl⟩)

theorem alike_nodeOfEntries (es : Entries) :
    AlikeUnless ShortOfRoom (@nodeOfEntries here es) (@nodeOfEntries there es) := by
  unfold nodeOfEntries
  exact (AlikeUnless.refl _).bind fun id => (alike_takeConfig here there _).bind fun config => .refl _

theorem Entry.alike_readNode (e : Entry Node) :
    AlikeUnless ShortOfRoom (@Entry.readNode here e) (@Entry.readNode there e) := by
  unfold Entry.readNode
  split
  · exact .refl _
  · exact alike_nodeOfEntries here there _
  · exact .refl _

theorem Snapshot.alike_adapt (nodes : Batch Node) (edges : Batch Edge) :
    Run.AlikeUnless ShortOfRoom (@Snapshot.adapt here nodes edges) (@Snapshot.adapt there nodes edges) := by
  unfold Snapshot.adapt
  refine (Run.alike_lift ?_).bind fun readings => .refl _
  exact (AlikeUnless.refl nodes.toEntries).bind fun entries =>
    AlikeUnless.mapM (Entry.alike_readNode here there) entries

/-! ## 3. Checks -/

namespace Node

theorem alike_isBrokenJson (t : Text) :
    AlikeUnless ShortOfRoom (@isBrokenJson here t) (@isBrokenJson there t) := by
  unfold isBrokenJson
  rcases Json.alike_read here.field there.field t with heq | ⟨_, hdeep, rfl⟩ | ⟨_, hdeep, rfl⟩
  · rw [heq]
    exact .refl _
  · rw [hdeep]
    exact .inr (.inl ⟨_, rfl, rfl⟩)
  · rw [hdeep]
    exact .inr (.inr ⟨_, rfl, rfl⟩)

theorem alike_misshapen (n : Node) (spec : FieldSpec) (v : Value) :
    AlikeUnless ShortOfRoom (@misshapen here n spec v) (@misshapen there n spec v) := by
  unfold misshapen
  split
  · exact (alike_isBrokenJson here there _).bind fun broken => .refl _
  all_goals exact .refl _

theorem alike_shapeFinding (n : Node) (spec : FieldSpec) :
    AlikeUnless ShortOfRoom (@shapeFinding here n spec) (@shapeFinding there n spec) := by
  simp only [shapeFinding]
  split
  · exact .refl _
  · exact alike_misshapen here there n spec _

theorem alike_schemaFindings (n : Node) (owned : List Text) (schema : KindSchema) :
    AlikeUnless ShortOfRoom (@schemaFindings here n owned schema)
      (@schemaFindings there n owned schema) := by
  unfold schemaFindings
  exact (AlikeUnless.mapM (alike_shapeFinding here there n) schema.fields).bind fun shapes => .refl _

theorem alike_fieldFindings (n : Node) (refinements : RefinementRegistry) :
    Run.AlikeUnless ShortOfRoom (@fieldFindings here n refinements)
      (@fieldFindings there n refinements) := by
  unfold fieldFindings
  refine (Run.AlikeUnless.refl _).bind fun schema => (Run.AlikeUnless.refl _).bind fun rejected => ?_
  cases schema with
  | some schema =>
    exact (Run.alike_lift (alike_schemaFindings here there n _ schema)).bind fun general => .refl _
  | none => exact .refl _

end Node

namespace Snapshot

theorem alike_fieldFindings (s : Snapshot) (refinements : RefinementRegistry) :
    Run.AlikeUnless ShortOfRoom (@fieldFindings here s refinements)
      (@fieldFindings there s refinements) := by
  unfold fieldFindings
  refine (Run.AlikeUnless.mapM (fun n => ?_) s.nodeList).map _
  split
  · exact .refl _
  · exact n.alike_fieldFindings here there refinements

end Snapshot

theorem Value.alike_countCases (v : Value) :
    AlikeUnless ShortOfRoom (@countCases here v) (@countCases there v) := by
  unfold countCases
  split
  next t =>
    rcases Json.alike_read here.field there.field t with heq | ⟨_, hdeep, rfl⟩ | ⟨_, hdeep, rfl⟩
    · rw [heq]
      exact .refl _
    · rw [hdeep]
      exact .inr (.inl ⟨_, rfl, rfl⟩)
    · rw [hdeep]
      exact .inr (.inr ⟨_, rfl, rfl⟩)
  · exact .refl _

namespace Snapshot

theorem alike_branchFindings (s : Snapshot) :
    AlikeUnless ShortOfRoom (@branchFindings here s) (@branchFindings there s) := by
  unfold branchFindings
  refine (AlikeUnless.mapM (fun n => ?_) s.nodeList).map _
  unfold branchFindingsOf
  split
  · exact .refl _
  · split
    · exact ((n.get "cases").alike_countCases here there).bind fun cases => .refl _
    · exact .refl _

end Snapshot

namespace Gate

theorem alike_intake (nodes : Batch Node) (edges : Batch Edge) :
    Run.AlikeUnless ShortOfRoom (@intake here nodes edges) (@intake there nodes edges) := by
  simp only [intake]
  split
  · exact (Snapshot.alike_adapt here there nodes edges).bind fun s => .refl _
  · exact .refl _

/-- **The checks of a canvas find the same, unless one of its texts is too deep.** -/
theorem alike_localFindings (g : Gate) (o : Options) (s : Snapshot) :
    Run.AlikeUnless ShortOfRoom (@localFindings here g o s) (@localFindings there g o s) := by
  unfold localFindings
  refine (Run.AlikeUnless.refl _).bind fun triggers => (Run.AlikeUnless.refl _).bind fun cycles =>
    (Run.AlikeUnless.refl _).bind fun connections => ?_
  refine (s.alike_fieldFindings here there g.refinements).bind fun fields =>
    (Run.AlikeUnless.refl _).bind fun credentials => ?_
  exact (Run.alike_lift (s.alike_branchFindings here there)).bind fun branches => .refl _

theorem alike_stage (g : Gate) (o : Options) (mayWait : Bool) (nodes : Batch Node)
    (edges : Batch Edge) :
    Run.AlikeUnless ShortOfRoom (@stage here g o mayWait nodes edges)
      (@stage there g o mayWait nodes edges) := by
  unfold stage
  refine (alike_intake here there nodes edges).bind fun input => ?_
  cases input with
  | inl report => exact .refl _
  | inr s => exact (g.alike_localFindings here there o s).bind fun own => .refl _

end Gate

/-! ## 4. Answers -/

theorem BackendReply.alike_ofBytes (bytes : List UInt8) :
    AlikeUnless ShortOfRoom (@BackendReply.ofBytes here bytes) (@BackendReply.ofBytes there bytes) := by
  unfold BackendReply.ofBytes
  split
  · exact .refl _
  next t _ =>
    rcases Json.alike_read here.answer there.answer t with heq | ⟨_, hdeep, rfl⟩ | ⟨_, hdeep, rfl⟩
    · rw [heq]
      exact .refl _
    · rw [hdeep]
      exact .inr (.inl ⟨_, rfl, rfl⟩)
    · rw [hdeep]
      exact .inr (.inr ⟨_, rfl, rfl⟩)

namespace Authority

theorem alike_conclude (a : Authority) (elapsed : Nat) (r : HttpRequest) (d : Delivery) :
    AlikeUnless ShortOfRoom (@conclude here a elapsed r d) (@conclude there a elapsed r d) := by
  unfold conclude
  split
  next status body =>
    split
    · exact .refl _
    · unfold concludeAnswer
      split
      · exact .refl _
      · exact (BackendReply.alike_ofBytes here there body).bind fun reply => .refl _
  all_goals exact .refl _

/-- What comes back is understood alike, unless it is too deep. -/
theorem alike_exchange (a : Authority) (t : Transport)
    (prepared : Except Fault (Option HttpRequest)) :
    AlikeUnless ShortOfRoom (@exchange here a t prepared).result (@exchange there a t prepared).result := by
  unfold exchange
  split
  · exact .refl _
  · exact .refl _
  · rw [Exchange.result_ofEnd, Exchange.result_ofEnd]
    exact (a.alike_conclude here there t.elapsed _ _).map Prod.fst

end Authority

/-! ## 5. Whole runs -/

namespace Opened

/-- Runs that have come as far by themselves end alike, whatever their logs say. -/
theorem alike_finish {p p' : Opened} (h : AlikeUnless ShortOfRoom p.stage p'.stage) (t : Transport) :
    AlikeUnless ShortOfRoom (@finish here p t).result (@finish there p' t).result := by
  rcases p with ⟨stage, log⟩
  rcases p' with ⟨stage', log'⟩
  rcases h with rfl | ⟨f, rfl, hf⟩ | ⟨f, rfl, hf⟩
  · rcases stage with f | (report | ⟨own, q⟩)
    · exact .refl _
    · exact .refl _
    · cases q with
      | unasked => exact .refl _
      | impossible detail entry => exact .refl _
      | asked a prepared =>
        simp only [finish, Question.exchange, RunResult.result_join_some]
        exact (a.alike_exchange here there t prepared).map _
  · exact .inr (.inl ⟨f, rfl, hf⟩)
  · exact .inr (.inr ⟨f, rfl, hf⟩)

end Opened

/-- **What a run comes to, with more room or with less, is the same**: a report, or a fault, unless one of
the two runs is stopped by a value that is too deep for it. -/
theorem Gate.alike_validate (g : Gate) (o : Options) (mayWait : Bool) (nodes : Batch Node)
    (edges : Batch Edge) (t : Transport) :
    AlikeUnless ShortOfRoom (@validate here g o mayWait nodes edges t).result
      (@validate there g o mayWait nodes edges t).result :=
  Opened.alike_finish here there ((g.alike_stage here there o mayWait nodes edges).result _) t

end WorkflowGate
