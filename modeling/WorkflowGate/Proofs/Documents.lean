/-
# Documents

A saved workflow stands in its document at the top or under `workflow`; where both levels carry one, that
under `workflow` counts (`Workflow.Documents`).  Not every document of a workflow is read as one: a mapping
under `workflow` that carries none hides what the top carries (`Workflow.Hidden`).

Where no workflow is loaded there is a reason (`Workflow.Unloaded`), and the command announces it and ends
with a code of its own; only nesting that is too deep is not announced, and stops the command
(`Fault.Announced`).

* `Workflow.ofValue_eq_some_iff`: a document gives its workflow unless that is hidden;
* `Workflow.load_eq_ok_iff`, `Workflow.unloaded_of_load`: what a path gives, and why it can give nothing;
* `CommandLine.Call.run_of_load`: **the command has its workflow, or announces that it has none**;
* `Workflow.hidden_beside_wrapper`: a document of a workflow that is refused for having none.
-/
import Mathlib
import WorkflowGate.CommandLine.Command
import WorkflowGate.Proofs.SettingsFile

namespace WorkflowGate

open Result

namespace Workflow

/-! ## 1. Documents -/

/-- A level carries a workflow: its nodes, and its edges, of which there are none where it has none. -/
def Carries (level : Entries) (w : Workflow) : Prop :=
  Entries.get? level "nodes" = some w.nodes ∧
    w.edges = (Entries.get? level "edges").getD (.list [])

/-- A mapping stands under `workflow`. -/
def Wraps (es inner : Entries) : Prop := Entries.get? es "workflow" = some (.mapping inner)

/-- A document is one of a workflow: that of the mapping under `workflow` if it carries one, else that of
the top. -/
inductive Documents : Value → Workflow → Prop
  | wrapped {es inner : Entries} {w : Workflow} :
      Wraps es inner → Carries inner w → Documents (.mapping es) w
  | bare {es : Entries} {w : Workflow} :
      Carries es w → (∀ inner, Wraps es inner → ∀ other, ¬ Carries inner other) →
        Documents (.mapping es) w

/-- A document carries a workflow at its top, behind a mapping under `workflow` that carries none. -/
def Hidden (document : Value) : Prop :=
  ∃ es inner w, document = .mapping es ∧ Carries es w ∧ Wraps es inner ∧
    ∀ other, ¬ Carries inner other

theorem Wraps.unique {es inner other : Entries} (h : Wraps es inner) (h' : Wraps es other) :
    inner = other := by
  rw [Wraps, h] at h'
  simpa using h'

theorem level_of_wraps {es inner : Entries} (h : Wraps es inner) : level (.mapping es) = inner := by
  rw [Wraps] at h
  simp [level, Value.entries?, Entries.get, h]

theorem level_of_not_wraps {es : Entries} (h : ∀ inner, ¬ Wraps es inner) :
    level (.mapping es) = es := by
  unfold level
  dsimp only [Value.entries?, Option.getD_some, Entries.get]
  cases hunder : Entries.get? es "workflow" with
  | none => rfl
  | some v =>
    cases v with
    | mapping inner => exact absurd hunder (h inner)
    | _ => rfl

/-- The workflow of a document is carried by its level. -/
theorem ofValue_eq_some_iff_carries {document : Value} {w : Workflow} :
    ofValue document = some w ↔ Carries (level document) w := by
  obtain ⟨nodes, edges⟩ := w
  rw [ofValue, Carries]
  cases Entries.get? (level document) "nodes" with
  | none => simp
  | some v => simp [eq_comm]

/-- **The workflow of a document is found unless it is hidden.** -/
theorem ofValue_eq_some_iff {document : Value} {w : Workflow} :
    ofValue document = some w ↔ Documents document w ∧ ¬ Hidden document := by
  rw [ofValue_eq_some_iff_carries]
  constructor
  · intro h
    cases document with
    | mapping es =>
      by_cases hwraps : ∃ inner, Wraps es inner
      · obtain ⟨inner, hinner⟩ := hwraps
        rw [level_of_wraps hinner] at h
        refine ⟨.wrapped hinner h, ?_⟩
        rintro ⟨_, other, _, ⟨⟩, -, hother, hnone⟩
        exact hnone w (hinner.unique hother ▸ h)
      · rw [not_exists] at hwraps
        rw [level_of_not_wraps hwraps] at h
        refine ⟨.bare h fun inner hinner => absurd hinner (hwraps inner), ?_⟩
        rintro ⟨_, inner, _, ⟨⟩, -, hinner, -⟩
        exact hwraps inner hinner
    | _ => cases h.1
  · rintro ⟨hdocuments, hhidden⟩
    cases hdocuments with
    | wrapped hinner hcarries =>
      rw [level_of_wraps hinner]
      exact hcarries
    | @bare es _ hcarries hnone =>
      have hwraps : ∀ inner, ¬ Wraps es inner := fun inner hinner =>
        hhidden ⟨es, inner, w, rfl, hcarries, hinner, hnone inner hinner⟩
      rw [level_of_not_wraps hwraps]
      exact hcarries

end Workflow

/-! ## 2. Files -/

namespace FileState

variable {limit : Nat}

theorem readJson_eq_ok_iff {bytes : List UInt8} {v : Value} :
    readJson limit bytes = .ok v ↔ ∃ t, Spells bytes t ∧ Json.read limit t = .ok v := by
  constructor
  · intro h
    obtain ⟨t, ht, -⟩ := bind_eq_ok_iff.mp h
    have hspells : Spells bytes t := decode_eq_ok_iff.mp ht
    rw [readJson_of_spells hspells] at h
    split at h
    next other hread =>
      cases h
      exact ⟨t, hspells, hread⟩
    next => cases h
  · rintro ⟨t, hspells, hread⟩
    rw [readJson_of_spells hspells, hread]

/-- What keeps bytes from being read: the syntax of the text that they spell, or what would keep a settings
file from being passed over. -/
theorem refused_of_readJson {bytes : List UInt8} {fault : Fault}
    (h : readJson limit bytes = .error fault) :
    (∃ t reason location, fault = .notJson (.malformed reason location) ∧ Spells bytes t ∧
        Json.read limit t = .error (.malformed reason location)) ∨
      (file bytes).Refused limit fault := by
  by_cases hspells : ∃ t, Spells bytes t
  · obtain ⟨t, hspells⟩ := hspells
    rw [readJson_of_spells hspells] at h
    split at h
    next => cases h
    next f hread =>
      cases h
      cases f with
      | malformed reason location => exact .inl ⟨t, reason, location, rfl, hspells, hread⟩
      | integerTooLong count =>
        exact .inr (refused_of_settings (by rw [settings_of_spells hspells, hread]))
      | nestedTooDeep =>
        exact .inr (refused_of_settings (by rw [settings_of_spells hspells, hread]))
  · obtain ⟨why, hwhy⟩ := readJson_of_undecodable (not_exists.mp hspells)
    cases (hwhy limit).symm.trans h
    exact .inr (.undecodable why (not_exists.mp hspells))

end FileState

namespace Fault

/-- The faults that a caller hears of: the operating system refuses, or the value is wrong. -/
inductive Announced : Fault → Prop
  | system (message : Text) : Announced (.system message)
  | unusablePath : Announced .unusablePath
  | undecodable (why : Utf8.Fault) : Announced (.undecodable why)
  | malformed (reason : Json.SyntaxError) (location : Json.Location) :
      Announced (.notJson (.malformed reason location))
  | integerTooLong (count : Nat) : Announced (.notJson (.integerTooLong count))
  | notAWorkflow : Announced .notAWorkflow

end Fault

namespace Workflow

open FileState

/-! ## 3. Loading -/

/-- The path leads to a file that spells the document. -/
def Holds (path : Text) (look : Text → FileState) (document : Value) : Prop :=
  Path.isUsable path = true ∧ ∃ bytes t, look (Path.normalize path) = .file bytes ∧
    Spells bytes t ∧ Json.read Room.document t = .ok document

/-- Why no workflow is loaded from a path. -/
inductive Unloaded (path : Text) (look : Text → FileState) : Fault → Prop
  | unusablePath : Path.isUsable path = false → Unloaded path look .unusablePath
  | noFile (message : Text) :
      (∀ bytes, look (Path.normalize path) ≠ .file bytes) → Unloaded path look (.system message)
  | refused {bytes : List UInt8} {fault : Fault} :
      look (Path.normalize path) = .file bytes → (file bytes).Refused Room.document fault →
        Unloaded path look fault
  | malformed {bytes : List UInt8} {t : Text} {reason : Json.SyntaxError} {location : Json.Location} :
      look (Path.normalize path) = .file bytes → Spells bytes t →
        Json.read Room.document t = .error (.malformed reason location) →
          Unloaded path look (.notJson (.malformed reason location))
  | noWorkflow {document : Value} :
      Holds path look document → (∀ w, Documents document w → Hidden document) →
        Unloaded path look .notAWorkflow

variable {path : Text} {look : Text → FileState} {fault : Fault}

theorem ofBytes_of_readJson {bytes : List UInt8} {document : Value}
    (h : readJson Room.document bytes = .ok document) :
    ofBytes bytes = (ofValue document).elim (.error .notAWorkflow) .ok := by
  rw [ofBytes, h]
  dsimp only [bind, Except.bind]
  cases ofValue document <;> rfl

theorem load_of_file {bytes : List UInt8} (husable : Path.isUsable path = true)
    (hfile : look (Path.normalize path) = .file bytes) : load path look = ofBytes bytes := by
  rw [load, if_pos husable]
  dsimp only
  rw [hfile]
  rfl

theorem load_of_holds {document : Value} (h : Holds path look document) :
    load path look = (ofValue document).elim (.error .notAWorkflow) .ok := by
  obtain ⟨husable, bytes, t, hfile, hspells, hread⟩ := h
  rw [load_of_file husable hfile,
    ofBytes_of_readJson (readJson_eq_ok_iff.mpr ⟨t, hspells, hread⟩)]

/-- What stops without a document has its reason in what stands under the path. -/
theorem holds_or_unloaded (path : Text) (look : Text → FileState) :
    (∃ document, Holds path look document) ∨
      ∃ fault, load path look = .error fault ∧ Unloaded path look fault := by
  cases husable : Path.isUsable path with
  | false => exact .inr ⟨.unusablePath, by rw [load, husable]; rfl, .unusablePath husable⟩
  | true =>
    by_cases hfile : ∃ bytes, look (Path.normalize path) = .file bytes
    · obtain ⟨bytes, hfile⟩ := hfile
      cases hread : readJson Room.document bytes with
      | ok document =>
        obtain ⟨t, hspells, hread⟩ := FileState.readJson_eq_ok_iff.mp hread
        exact .inl ⟨document, husable, bytes, t, hfile, hspells, hread⟩
      | error fault =>
        refine .inr ⟨fault, ?_, ?_⟩
        · rw [load_of_file husable hfile, ofBytes, hread]
          rfl
        · rcases refused_of_readJson hread with ⟨t, reason, location, rfl, hspells, hread⟩ | hrefused
          · exact .malformed hfile hspells hread
          · exact .refused hfile hrefused
    · rw [not_exists] at hfile
      obtain ⟨message, hclosed⟩ :
          ∃ message, (look (Path.normalize path)).contents (Path.normalize path) =
            .error (.system message) := by
        cases hplace : look (Path.normalize path) with
        | file bytes => exact absurd hplace (hfile bytes)
        | _ => exact ⟨_, rfl⟩
      refine .inr ⟨.system message, ?_, .noFile message hfile⟩
      rw [load, if_pos husable]
      dsimp only
      rw [hclosed]
      rfl

/-- **What a path gives**: the workflow of the document there, unless that is hidden. -/
theorem load_eq_ok_iff {w : Workflow} :
    load path look = .ok w ↔
      ∃ document, Holds path look document ∧ Documents document w ∧ ¬ Hidden document := by
  constructor
  · intro h
    rcases holds_or_unloaded path look with ⟨document, hholds⟩ | ⟨fault, hfault, -⟩
    · rw [load_of_holds hholds] at h
      cases hvalue : ofValue document with
      | none =>
        rw [hvalue] at h
        cases h
      | some other =>
        rw [hvalue] at h
        cases h
        exact ⟨document, hholds, ofValue_eq_some_iff.mp hvalue⟩
    · rw [hfault] at h
      cases h
  · rintro ⟨document, hholds, h⟩
    rw [load_of_holds hholds, ofValue_eq_some_iff.mpr h]
    rfl

/-- **Why a path can give nothing.** -/
theorem unloaded_of_load (h : load path look = .error fault) : Unloaded path look fault := by
  rcases holds_or_unloaded path look with ⟨document, hholds⟩ | ⟨other, hother, hunloaded⟩
  · rw [load_of_holds hholds] at h
    cases hvalue : ofValue document with
    | some w =>
      rw [hvalue] at h
      cases h
    | none =>
      rw [hvalue] at h
      cases h
      refine .noWorkflow hholds fun w hdocuments => ?_
      by_contra hhidden
      rw [ofValue_eq_some_iff.mpr ⟨hdocuments, hhidden⟩] at hvalue
      cases hvalue
  · rw [hother] at h
    cases h
    exact hunloaded

/-- Only nesting that is too deep is not announced. -/
theorem Unloaded.announced (h : Unloaded path look fault) (hdeep : fault ≠ .notJson .nestedTooDeep) :
    fault.Announced := by
  cases h with
  | unusablePath => exact .unusablePath
  | noFile message => exact .system message
  | refused _ hrefused =>
    cases hrefused with
    | undecodable why => exact .undecodable why
    | integerTooLong => exact .integerTooLong _
    | nestedTooDeep => exact absurd rfl hdeep
  | malformed => exact .malformed _ _
  | noWorkflow => exact .notAWorkflow

end Workflow

namespace CommandLine.Call

/-! ## 4. The command -/

/-- How a call sets up the log. -/
def setup (c : Call) (w : Surroundings) : Except Fault LogSetup :=
  match c.logLevel with
  | some level => LogSetup.ofWords level "auto" (w.read? "LOG_FORMAT") (w.read? "ENV")
  | none => .error .levelExpected

variable {c : Call} {w : Surroundings} {setup : LogSetup}

/-- A call with a workflow does not end as one without. -/
theorem exit_of_validate {workflow : Workflow} {conclusion : Conclusion}
    (h : c.validate w setup workflow = .ok conclusion) : conclusion.exit ≠ exitUnreadable := by
  obtain ⟨settings, -, h⟩ := bind_eq_ok_iff.mp h
  obtain ⟨report, -, h⟩ := bind_eq_ok_iff.mp h
  obtain ⟨log, -, h⟩ := bind_eq_ok_iff.mp h
  cases h
  have hexit : ∀ valid : Bool, (if valid then exitValid else exitInvalid) ≠ exitUnreadable := by
    decide
  exact hexit report.isValid

/-- What is left of a call once the log is set up. -/
def proceed (c : Call) (w : Surroundings) (setup : LogSetup) : Except Fault Conclusion :=
  match Workflow.load c.workflow w.look with
  | .error (.notJson .nestedTooDeep) => .error (.notJson .nestedTooDeep)
  | .error f => .ok (c.unreadable f)
  | .ok workflow => c.validate w setup workflow

theorem run_eq (c : Call) (w : Surroundings) : c.run w = c.setup w >>= c.proceed w := by
  unfold run Call.setup
  cases c.logLevel <;> rfl

/-- A fault that is announced ends the call as one without a workflow. -/
theorem proceed_of_announced {fault : Fault}
    (hload : Workflow.load c.workflow w.look = .error fault) (hfault : fault.Announced) :
    c.proceed w setup = .ok (c.unreadable fault) := by
  rw [proceed, hload]
  cases hfault <;> rfl

/-- A call that ends as one without a workflow has announced why. -/
theorem announced_of_proceed {conclusion : Conclusion} (h : c.proceed w setup = .ok conclusion)
    (hexit : conclusion.exit = exitUnreadable) :
    ∃ fault, Workflow.load c.workflow w.look = .error fault ∧ fault.Announced ∧
      conclusion = c.unreadable fault := by
  rw [proceed] at h
  split at h
  next => cases h
  next fault hdeep hload =>
    cases h
    exact ⟨fault, hload, (Workflow.unloaded_of_load hload).announced hdeep, rfl⟩
  next workflow hload => exact absurd hexit (exit_of_validate h)

/-- **The command has its workflow, or announces that it has none.**  What it loads is the workflow of the
document under the path, and it loads that of every document unless it is hidden.  Where it loads none there
is a reason; it says which and ends with the code for this, and it does so only then, when the log is set
up.  Nesting beyond the limit of the reader alone is not announced: it stops the command. -/
theorem run_of_load (c : Call) (w : Surroundings) :
    (∀ workflow, Workflow.load c.workflow w.look = .ok workflow ↔
        ∃ document, Workflow.Holds c.workflow w.look document ∧
          Workflow.Documents document workflow ∧ ¬ Workflow.Hidden document) ∧
      (∀ fault, Workflow.load c.workflow w.look = .error fault →
        Workflow.Unloaded c.workflow w.look fault ∧
          (fault.Announced ∨ fault = .notJson .nestedTooDeep)) ∧
      (∀ conclusion, (c.run w = .ok conclusion ∧ conclusion.exit = exitUnreadable) ↔
        Succeeds (c.setup w) ∧ ∃ fault, Workflow.load c.workflow w.look = .error fault ∧
          fault.Announced ∧ conclusion = c.unreadable fault) ∧
      (Workflow.load c.workflow w.look = .error (.notJson .nestedTooDeep) → ¬ Succeeds (c.run w)) := by
  refine ⟨fun workflow => Workflow.load_eq_ok_iff, fun fault hload => ?_, fun conclusion => ⟨?_, ?_⟩,
    fun hload => ?_⟩
  · have hunloaded := Workflow.unloaded_of_load hload
    by_cases hdeep : fault = .notJson .nestedTooDeep
    · exact ⟨hunloaded, .inr hdeep⟩
    · exact ⟨hunloaded, .inl (hunloaded.announced hdeep)⟩
  · rintro ⟨hrun, hexit⟩
    rw [run_eq] at hrun
    obtain ⟨setup, hsetup, hproceed⟩ := bind_eq_ok_iff.mp hrun
    exact ⟨⟨setup, hsetup⟩, announced_of_proceed hproceed hexit⟩
  · rintro ⟨⟨setup, hsetup⟩, fault, hload, hfault, rfl⟩
    rw [run_eq, hsetup]
    exact ⟨proceed_of_announced hload hfault, rfl⟩
  · rintro ⟨conclusion, hrun⟩
    rw [run_eq] at hrun
    obtain ⟨setup, -, hproceed⟩ := bind_eq_ok_iff.mp hrun
    rw [proceed, hload] at hproceed
    cases hproceed

end CommandLine.Call

namespace Workflow

/-- The bytes of a document with nodes at its top, beside an empty mapping under `workflow`. -/
def besideWrapper : List UInt8 :=
  "\x7b\"nodes\": [], \"workflow\": \x7b\x7d\x7d".toUTF8.data.toList

/-- The document that they spell. -/
def besideWrapperDocument : Value := .mapping [(.text "nodes", .list []), (.text "workflow", .mapping [])]

theorem readJson_besideWrapper :
    FileState.readJson Room.document besideWrapper = .ok besideWrapperDocument := by
  cbv

/-- A document of a workflow is refused for having none. -/
theorem hidden_beside_wrapper :
    Holds "w.json" (fun _ => .file besideWrapper) besideWrapperDocument ∧
      Documents besideWrapperDocument ⟨.list [], .list []⟩ ∧
      load "w.json" (fun _ => .file besideWrapper) = .error .notAWorkflow := by
  have hholds : Holds "w.json" (fun _ => .file besideWrapper) besideWrapperDocument := by
    obtain ⟨t, hspells, hread⟩ := FileState.readJson_eq_ok_iff.mp readJson_besideWrapper
    exact ⟨by decide +kernel, besideWrapper, t, rfl, hspells, hread⟩
  refine ⟨hholds, .bare ⟨rfl, rfl⟩ ?_, ?_⟩
  · rintro inner hinner other hcarries
    cases hinner
    cases hcarries.1
  · rw [load_of_holds hholds]
    rfl

end Workflow

end WorkflowGate
