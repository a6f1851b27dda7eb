/-
# What passes for an address

A field for an address should hold an absolute one of the web: the scheme is one of two, and a host is
named.  The check asks for a scheme and a host and never for which scheme it is.  Whatever passes would
pass under any other scheme as well, and what does not pass is reported wherever the check is made.

* `Value.isUrl_iff`: what passes is the text of an absolute address;
* `Snapshot.FieldsFound.addressJudged`: what a finished check says of a field for an address;
* `Snapshot.addresses_judged`: **what passes for an address, and what is reported of the rest**, and
  `Snapshot.transfer_passes` for a scheme that is none of the web.
-/
import WorkflowGate.Proofs.Check.Presence
import WorkflowGate.Proofs.Url.Scheme

namespace WorkflowGate

open Result Run

/-- The value is text that spells the absolute address, blanks around it apart. -/
def Value.IsAddress (v : Value) (u : Url) : Prop := ∃ t, v = .text t ∧ Url.Spells t.strip u

/-- **What passes for an address is the text of an absolute one.** -/
theorem Value.isUrl_iff (v : Value) : v.isUrl = true ↔ ∃ u, v.IsAddress u := by
  unfold IsAddress
  cases v with
  | text t => simp [isUrl, Url.isAbsolute_iff]
  | _ => simp [isUrl]

namespace Node

variable {n : Node} {spec : FieldSpec}

/-- The error on a value that is no address. -/
def invalidUrl (n : Node) (spec : FieldSpec) : Finding :=
  .error .invalidUrl (n.subject ++ " has invalid URL format in \"" ++ spec.displayLabel ++ "\"") n.id
    spec.id

theorem shapeFinding_of_url (hkind : spec.valueKind = .url) (hblank : (n.get spec.id).isBlank = false)
    (hexpression : (n.get spec.id).isExpression = false) :
    n.shapeFinding spec = .ok (Finding.onlyIf (!(n.get spec.id).isUrl) (n.invalidUrl spec)) := by
  simp [shapeFinding, hblank, hexpression, misshapen, hkind, invalidUrl]

/-- **What the check says of a field for an address**: it reports what is none, and has nothing to say
of what is one. -/
structure AddressJudged (n : Node) (spec : FieldSpec) (all : List Finding) : Prop where
  refused : (∀ u, ¬ (n.get spec.id).IsAddress u) → n.invalidUrl spec ∈ all
  passed : ∀ u, (n.get spec.id).IsAddress u → n.shapeFinding spec = .ok []

end Node

namespace Snapshot

variable {s : Snapshot} {refinements : RefinementRegistry}

/-- A finished check of fields has judged every field for an address. -/
theorem FieldsFound.addressJudged {final : Resolver} {all : List Finding}
    (h : s.FieldsFound final refinements all) {n : Node} (hn : n ∈ s.nodeList) {schema : KindSchema}
    (hschema : final.answer n.kind = some schema) {spec : FieldSpec} (hspec : spec ∈ schema.fields)
    (hkind : spec.valueKind = .url) (hblank : (n.get spec.id).isBlank = false)
    (hexpression : (n.get spec.id).isExpression = false) : n.AddressJudged spec all := by
  have hsaid := Node.shapeFinding_of_url hkind hblank hexpression
  constructor
  · intro hnone
    have hurl : (n.get spec.id).isUrl = false := by
      rw [← Bool.not_eq_true, Value.isUrl_iff]
      exact not_exists.mpr hnone
    obtain ⟨-, rejected, found, hfound, hmem⟩ := h.every n hn (Resolver.named_of_answer hschema)
    rw [hschema] at hfound
    obtain ⟨said, hshape, hall⟩ := Node.exists_said_of_findingsBy hfound hspec
    rw [hsaid, hurl] at hshape
    cases hshape
    exact hmem _ (hall _ List.mem_cons_self)
  · intro u hu
    rw [hsaid, (Value.isUrl_iff _).mpr ⟨u, hu⟩]
    rfl

/-- **What passes for an address, and what is reported of the rest.**  What passes is the text of an
absolute address: a scheme, a colon, two slashes, and something that names a host; and the scheme does
not matter, any other one would do.  Where a check of fields ends, it has reported every value in a field
for an address that is none, blank values and expressions apart; and without a lookup it ends unless some
number or JSON text cannot be judged, or the log cannot tell of the failure of a refinement. -/
theorem addresses_judged (s : Snapshot) (refinements : RefinementRegistry) :
    (∀ v : Value, v.isUrl = true ↔ ∃ u, v.IsAddress u) ∧
      (∀ t u, Url.Spells t u → ∃ scheme rest,
        Url.IsScheme scheme ∧ t = Url.absolute scheme rest ∧ u.scheme = scheme.toAsciiLower ∧
          ∀ other, Url.IsScheme other → (Url.absolute other rest).length ≤ Url.lengthLimit →
            ∃ u', Url.Spells (Url.absolute other rest) u' ∧ u'.scheme = other.toAsciiLower ∧
              u'.host = u.host) ∧
      (∀ st all st', (s.fieldFindings refinements).execute st = (.ok all, st') →
        ∀ n ∈ s.nodeList, ∀ schema, st'.resolver.answer n.kind = some schema →
          ∀ spec ∈ schema.fields, spec.valueKind = .url → (n.get spec.id).isBlank = false →
            (n.get spec.id).isExpression = false → n.AddressJudged spec all) ∧
      ∀ registry, Succeeds ((s.fieldFindings refinements).execute (Run.begin registry none)).1 ↔
        ∀ n ∈ s.nodeList, n.JudgeableFields registry ∧ n.FailuresTold refinements registry := by
  refine ⟨Value.isUrl_iff, fun t u h => ?_, ?_, fun registry => ?_⟩
  · obtain ⟨scheme, rest, hscheme, rfl, hword⟩ := h.exists_absolute
    exact ⟨scheme, rest, hscheme, rfl, hword, fun other => h.respell hscheme⟩
  · intro st all st' hrun n hn schema hschema spec hspec hkind hblank hexpression
    have hfields : s.FieldsFound st'.resolver refinements all :=
      (s.yields_fieldFindings refinements st all st' hrun).2 (.refl _)
    exact hfields.addressJudged hn hschema hspec hkind hblank hexpression
  · exact (s.endsIff_fieldFindings refinements).succeeds_execute (Resolver.steady_begin registry)

/-- A request to an address of file transfer. -/
def transferSnapshot : Snapshot :=
  ofReadings [.node ⟨"ask", "http_request", [("url", .text "ftp://files.example")], none, none⟩] []

/-- **A scheme that is none of the web passes**: nothing is said of the request, whose address is read
with the scheme of file transfer. -/
theorem transfer_passes : ∃ n ∈ transferSnapshot.nodeList,
    ((transferSnapshot.fieldFindings .builtin).execute (Run.begin .builtin none)).1 = .ok [] ∧
      (∃ schema, Registry.builtin.find? n.kind = some schema ∧ urlField ∈ schema.fields) ∧
      (n.get urlField.id).isBlank = false ∧ (n.get urlField.id).isExpression = false ∧
      ∃ u, (n.get urlField.id).IsAddress u ∧ u.scheme ≠ Text.ofString "http" ∧
        u.scheme ≠ Text.ofString "https" := by
  let u : Url := ⟨"ftp", Text.empty, "files.example", none, Text.empty, none, none⟩
  have hspells : Url.Spells (Text.ofString "ftp://files.example").strip u := by
    constructor <;> decide +kernel
  refine ⟨⟨"ask", "http_request", [("url", .text "ftp://files.example")], none, none⟩,
    List.mem_cons_self, rfl, ⟨_, rfl, ?_⟩, ?_, ?_, u, ⟨_, rfl, hspells⟩, ?_, ?_⟩
  · exact List.mem_cons_of_mem _ List.mem_cons_self
  all_goals decide +kernel

end Snapshot

end WorkflowGate
