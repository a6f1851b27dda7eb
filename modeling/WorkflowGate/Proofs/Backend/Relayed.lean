/-
# Reports that travel as answers

A report and an answer of a back end have one wire shape, but two readers: a finding is read as
it was written, an entry of an answer is rebuilt.  The list in which it stands decides its severity,
and an empty message is replaced.  Nothing else is touched: the codes of the vocabulary, the
locators and the order come through.

* `read_wire`: the wire shape of a report reads as an answer with the same entries;
* `finding_wireEntry`: what the rebuilding makes of a finding;
* `reads_back`: a report comes back as itself exactly when each finding stands under its own
  severity and none has an empty message.
-/
import WorkflowGate.Report
import WorkflowGate.Backend.Reply

namespace WorkflowGate

/-! ## 1. Lists that read well -/

/-- A list whose members all read well reads well. -/
theorem readList_map_good {α β : Type} {read : Value → Shaped α} {write : β → Value} {value : β → α}
    (h : ∀ x, read (write x) = .good (value x)) (xs : List β) :
    readList read (.list (xs.map write)) = .good (xs.map value) := by
  have hmembers : ∀ p ∈ xs.zipIdx,
      (read (write p.1)).within (.index (p.2 : Int)) = .good (value p.1) := by
    intro p _
    rw [h, Shaped.within]
  have hvalues : (xs.zipIdx.map fun p => value p.1) = xs.map value := by
    calc (xs.zipIdx.map fun p => value p.1) = (xs.zipIdx.map Prod.fst).map value := by
          rw [List.map_map]
          rfl
      _ = xs.map value := by rw [List.zipIdx_map_fst]
  simp only [readList, Value.members?, List.zipIdx_map, List.map_map]
  rw [← hvalues]
  exact Shaped.all_map_good hmembers

/-! ## 2. An entry of an answer -/

/-- The wire shape of a finding as an entry of an answer. -/
def Finding.wireEntry (f : Finding) : ReplyEntry :=
  ([("type", Value.text f.severity.name), ("code", .text f.code.name), ("message", .text f.message)] ++
    locatorEntry "nodeId" f.nodeId ++ locatorEntry "field" f.fieldId).map
      fun e => (Text.ofString e.1, e.2)

/-- What comes of a finding that travels in the list of a severity. -/
def Finding.relayed (severity : Severity) (f : Finding) : Finding :=
  { f with
    severity := severity
    message := if f.message.isEmpty then "Reported by backend validation" else f.message }

/-- The wire shape of a finding reads as an entry. -/
theorem Finding.readTextMapping_wire (f : Finding) : readTextMapping f.wire = .good f.wireEntry := by
  rw [readTextMapping_eq_good_iff, Finding.wire, Value.ofFields, Finding.wireEntry, List.map_map]
  rfl

/-- **The list decides the severity and an empty message is replaced; nothing else is touched.** -/
theorem ReplyEntry.finding_wireEntry (severity : Severity) (f : Finding) :
    ReplyEntry.finding severity f.wireEntry = f.relayed severity := by
  obtain ⟨own, code, message, nodeId, fieldId⟩ := f
  cases nodeId <;> cases fieldId <;>
    simp [ReplyEntry.finding, Finding.wireEntry, Finding.locatorEntry, Finding.relayed,
      ReplyEntry.textOf, ReplyEntry.message, ReplyEntry.locator, ReplyEntry.locatorOf,
      OrderedMap.lookup, Value.display, Code.ofName?_name]

/-- A finding comes through unchanged exactly when its list is that of its severity and it has a
message. -/
theorem Finding.relayed_eq_self_iff (severity : Severity) (f : Finding) :
    f.relayed severity = f ↔ f.severity = severity ∧ f.message.isEmpty = false := by
  obtain ⟨own, code, message, nodeId, fieldId⟩ := f
  cases hm : message.isEmpty with
  | true =>
    have hne : Text.ofString "Reported by backend validation" ≠ message := by
      rintro rfl
      exact absurd hm (by decide)
    simp [relayed, hm, hne]
  | false => simp [relayed, hm, eq_comm]

/-! ## 3. A whole report -/

namespace Report

/-- A report as an answer. -/
def asReply (r : Report) : BackendReply :=
  ⟨none, r.errors.map Finding.wireEntry, r.warnings.map Finding.wireEntry,
    r.infos.map Finding.wireEntry⟩

/-- What comes of a report that travels as an answer. -/
def relayed (r : Report) : Report :=
  ⟨r.errors.map (Finding.relayed .error), r.warnings.map (Finding.relayed .warning),
    r.infos.map (Finding.relayed .info)⟩

/-- **The wire shape of a report reads as an answer**, entry for entry.  Its word on validity stands
under a name that no answer has, and is not read. -/
theorem read_wire (r : Report) : BackendReply.read r.wire = .good r.asReply := by
  have hlist (fs : List Finding) :
      readList readTextMapping (.list (fs.map Finding.wire)) = .good (fs.map Finding.wireEntry) :=
    readList_map_good Finding.readTextMapping_wire fs
  simp [BackendReply.read, wire, readModel, Value.ofFields, BackendReply.ofEntries,
    Entries.optional, Entries.first?, Entries.get?, OrderedMap.lookup, hlist, Shaped.within,
    Seq.seq, Functor.map, Shaped.apply, asReply]

/-- The entries of a travelling report are rebuilt one by one. -/
theorem findings_asReply (r : Report) : r.asReply.findings = r.relayed.all := by
  have hlist (severity : Severity) (fs : List Finding) :
      (fs.map Finding.wireEntry).map (ReplyEntry.finding severity) =
        fs.map (Finding.relayed severity) := by
    rw [List.map_map]
    exact List.map_congr_left fun f _ => ReplyEntry.finding_wireEntry severity f
  simp only [BackendReply.findings, asReply, all, relayed, hlist]

/-- What travels in the list of a severity is of that severity. -/
theorem select_map_relayed (severity own : Severity) (fs : List Finding) :
    select severity (fs.map (Finding.relayed own)) =
      if own = severity then fs.map (Finding.relayed own) else [] := by
  split
  case isTrue h => exact List.filter_eq_self.mpr (by simp [Finding.relayed, h])
  case isFalse h => exact List.filter_eq_nil_iff.mpr (by simp [Finding.relayed, h])

/-- Each list comes through as a list of its severity. -/
theorem ofFindings_relayed (r : Report) : ofFindings r.relayed.all = r.relayed := by
  have hselect (severity : Severity) :
      select severity r.relayed.all = r.relayed.bySeverity severity := by
    have happend : select severity r.relayed.all =
        select severity r.relayed.errors ++ select severity r.relayed.warnings ++
          select severity r.relayed.infos := by
      simp only [all, select, List.filter_append]
    rw [happend]
    cases severity <;> simp [relayed, select_map_relayed, bySeverity]
  rw [ofFindings, hselect, hselect, hselect]
  rfl

/-- A report comes through unchanged exactly when all its findings do. -/
theorem relayed_eq_self_iff (r : Report) :
    r.relayed = r ↔ ∀ severity, ∀ f ∈ r.bySeverity severity, f.relayed severity = f := by
  obtain ⟨errors, warnings, infos⟩ := r
  have hlist (severity : Severity) (fs : List Finding) :
      fs.map (Finding.relayed severity) = fs ↔ ∀ f ∈ fs, f.relayed severity = f := by
    simpa using List.map_inj_left (l := fs) (f := Finding.relayed severity) (g := id)
  simp only [relayed, Report.mk.injEq, hlist]
  constructor
  · rintro ⟨herrors, hwarnings, hinfos⟩ (_ | _ | _)
    · exact herrors
    · exact hwarnings
    · exact hinfos
  · exact fun h => ⟨h .error, h .warning, h .info⟩

/-- **What travels comes back.**  A finding reads back from its wire shape as itself, whatever it
holds; a report that is read as an answer comes back as itself exactly when each finding stands
under its own severity and none has an empty message. -/
theorem reads_back :
    (∀ f : Finding, Finding.read f.wire = .good f) ∧
      ∀ r : Report, ∃ reply, BackendReply.read r.wire = .good reply ∧
        (ofFindings reply.findings = r ↔
          (∀ severity, ∀ f ∈ r.bySeverity severity, f.severity = severity) ∧
            ∀ f ∈ r.all, f.message.isEmpty = false) := by
  refine ⟨Finding.read_wire, fun r => ⟨r.asReply, read_wire r, ?_⟩⟩
  have hall : (∀ f ∈ r.all, f.message.isEmpty = false) ↔
      ∀ severity, ∀ f ∈ r.bySeverity severity, f.message.isEmpty = false := by
    simp only [all, List.mem_append]
    constructor
    · rintro h (_ | _ | _) f hf
      · exact h f (.inl (.inl hf))
      · exact h f (.inl (.inr hf))
      · exact h f (.inr hf)
    · rintro h f ((hf | hf) | hf)
      · exact h .error f hf
      · exact h .warning f hf
      · exact h .info f hf
  rw [findings_asReply, ofFindings_relayed, relayed_eq_self_iff, hall]
  simp only [Finding.relayed_eq_self_iff]
  exact ⟨fun h => ⟨fun s f hf => (h s f hf).1, fun s f hf => (h s f hf).2⟩,
    fun h s f hf => ⟨h.1 s f hf, h.2 s f hf⟩⟩

end Report

end WorkflowGate
