/-
# What an entry reports

An answer is read loosely.  Whatever stands in an entry, it is reported: a value of any kind counts as the
text that it displays as, a text that is missing has a default, and a code that nobody knows is kept in
front of the message.

`Reports` says which finding an entry stands for from the entry's own values, without the functions that
build it.

* `reports_iff`: an entry stands for exactly one finding, the one that is built;
* `findings_of_read`: **an answer reports its entries one by one**, list after list and each list in its
  order, and the list decides the severity.
-/
import Mathlib.Data.List.Forall2
import WorkflowGate.Backend.Reply

namespace WorkflowGate

/-! ## 1. An entry and its finding -/

namespace ReplyEntry

/-- The value under a name. -/
def value? (e : ReplyEntry) (name : Text) : Option Value := OrderedMap.lookup name e

/-- A text that an entry may give: what the given value displays as, or a default where that is nothing or
nothing is given. -/
inductive Worded (given : Option Value) (default : Text) : Text → Prop
  | given {v : Value} : given = some v → v.display ≠ Text.empty → Worded given default v.display
  | default : (∀ v, given = some v → v.display = Text.empty) → Worded given default default

/-- The code and the message of a finding about a text.  A value that displays as the name of a code is
that code; all else is put in front of the text, under the one code for everything unknown. -/
inductive Coded (given : Option Value) (text : Text) : Code → Text → Prop
  | known {v : Value} {code : Code} : given = some v → v.display = Text.ofString code.name →
      Coded given text code text
  | unknown {word : Text} : (∀ v (code : Code), given = some v → v.display ≠ Text.ofString code.name) →
      Worded given "UNKNOWN" word → Coded given text .remoteFinding ("[" ++ word ++ "] " ++ text)

/-- A place is named by the value under the first of two names that is present, unless that is null. -/
def Locates (e : ReplyEntry) (name other : Text) (locator : Option Text) : Prop :=
  ∀ t, locator = some t ↔
    ∃ v, (e.value? name).or (e.value? other) = some v ∧ v ≠ .null ∧ v.display = t

/-- **The finding that an entry stands for** in the list of a severity. -/
structure Reports (severity : Severity) (e : ReplyEntry) (f : Finding) : Prop where
  severity_eq : f.severity = severity
  wording : ∃ text, text ≠ Text.empty ∧
    Worded (e.value? "message") "Reported by backend validation" text ∧
    Coded (e.value? "code") text f.code f.message
  nodeId : Locates e "node_id" "nodeId" f.nodeId
  fieldId : Locates e "field" "field_id" f.fieldId

variable {e : ReplyEntry} {given : Option Value} {default text : Text} {severity : Severity}

theorem textOf_eq (name : Text) : e.textOf name = ((e.value? name).map Value.display).getD Text.empty :=
  rfl

theorem locator_eq (name other : Text) : e.locator name other = match e.value? name with
    | some v => locatorOf v
    | none => (e.value? other).bind locatorOf := rfl

/-- There is one such text, the one that is built. -/
theorem worded_iff : Worded given default text ↔
    text = if ((given.map Value.display).getD Text.empty).isEmpty then default
      else (given.map Value.display).getD Text.empty := by
  rw [if_congr (Text.isEmpty_iff _) rfl rfl]
  constructor
  · intro h
    cases h with
    | given hv hne =>
      subst hv
      exact (if_neg hne).symm
    | default hnothing =>
      cases given with
      | none => rfl
      | some v => exact (if_pos (hnothing v rfl)).symm
  · rintro rfl
    cases given with
    | none => exact .default nofun
    | some v =>
      rw [Option.map_some, Option.getD_some]
      by_cases hempty : v.display = Text.empty
      · rw [if_pos hempty]
        exact .default fun _ hv => Option.some.inj hv ▸ hempty
      · rw [if_neg hempty]
        exact .given rfl hempty

/-- A text is the name of a code exactly when it is found. -/
theorem ofName?_eq_some_iff (t : Text) (code : Code) :
    Code.ofName? t = some code ↔ t = Text.ofString code.name := by
  constructor
  · intro h
    have hfound := List.find?_some h
    exact (of_decide_eq_true hfound).symm
  · rintro rfl
    exact Code.ofName?_name code

/-- No code has an empty name, so an entry without a code has none that is known. -/
theorem ofName?_empty : Code.ofName? Text.empty = none := by decide +kernel

/-- There is one code and one message. -/
theorem coded_iff {code : Code} {message : Text} :
    Coded (e.value? "code") text code message ↔
      (code, message) = match Code.ofName? (e.textOf "code") with
        | some known => (known, text)
        | none => (.remoteFinding, "[" ++ e.codeWord ++ "] " ++ text) := by
  have htext {v : Value} (hv : e.value? "code" = some v) : e.textOf "code" = v.display := by
    rw [textOf_eq, hv, Option.map_some, Option.getD_some]
  -- a code that is absent reads as the empty text, which is no code's name
  have hunknown (h : ∀ v (code : Code), e.value? "code" = some v →
      v.display ≠ Text.ofString code.name) : Code.ofName? (e.textOf "code") = none := by
    cases hv : e.value? "code" with
    | none =>
      rw [textOf_eq, hv]
      exact ofName?_empty
    | some v =>
      rw [htext hv, Option.eq_none_iff_forall_ne_some]
      exact fun code hcode => h v code hv ((ofName?_eq_some_iff _ code).mp hcode)
  constructor
  · intro h
    cases h with
    | known hv hname => rw [htext hv, (ofName?_eq_some_iff _ code).mpr hname]
    | unknown hnone hword => rw [hunknown hnone, worded_iff.mp hword, codeWord, textOf_eq]
  · intro h
    cases hcode : Code.ofName? (e.textOf "code") with
    | some known =>
      rw [hcode] at h
      cases h
      cases hv : e.value? "code" with
      | none =>
        rw [textOf_eq, hv] at hcode
        cases ofName?_empty.symm.trans hcode
      | some v =>
        rw [htext hv, ofName?_eq_some_iff] at hcode
        exact .known rfl hcode
    | none =>
      rw [hcode] at h
      cases h
      refine .unknown (fun v code hv hname => ?_) (worded_iff.mpr rfl)
      rw [htext hv, (ofName?_eq_some_iff _ code).mpr hname] at hcode
      cases hcode

/-- There is one place, or none. -/
theorem locates_iff {name other : Text} {locator : Option Text} :
    Locates e name other locator ↔ locator = e.locator name other := by
  have hbuilt (t : Text) : e.locator name other = some t ↔
      ∃ v, (e.value? name).or (e.value? other) = some v ∧ v ≠ .null ∧
        v.display = t := by
    have hvalue (v : Value) : locatorOf v = some t ↔ v ≠ .null ∧ v.display = t := by
      cases v <;> simp [locatorOf]
    rw [locator_eq]
    cases e.value? name with
    | some v => simp [hvalue]
    | none => simp [hvalue, Option.bind_eq_some_iff]
  constructor
  · exact fun h => Option.ext fun t => (h t).trans (hbuilt t).symm
  · rintro rfl
    exact hbuilt

/-- A finding is the one that is built when its parts are. -/
theorem eq_finding_iff {f : Finding} : f = e.finding severity ↔ f.severity = severity ∧
    Coded (e.value? "code") e.message f.code f.message ∧
    f.nodeId = e.locator "node_id" "nodeId" ∧ f.fieldId = e.locator "field" "field_id" := by
  rw [coded_iff]
  obtain ⟨own, code, message, nodeId, fieldId⟩ := f
  unfold finding
  cases Code.ofName? (e.textOf "code") <;> simp [and_assoc]

/-- **An entry stands for exactly one finding**, the one that is built from it. -/
theorem reports_iff {f : Finding} : Reports severity e f ↔ f = e.finding severity := by
  have hworded : Worded (e.value? "message") "Reported by backend validation" e.message :=
    worded_iff.mpr rfl
  have hne : e.message ≠ Text.empty := by
    intro hempty
    have := e.message_ne_empty
    rw [hempty] at this
    cases this
  rw [eq_finding_iff]
  constructor
  · rintro ⟨hseverity, ⟨text, -, hword, hcoded⟩, hnode, hfield⟩
    rw [worded_iff.mp hword] at hcoded
    exact ⟨hseverity, hcoded, locates_iff.mp hnode, locates_iff.mp hfield⟩
  · rintro ⟨hseverity, hcoded, hnode, hfield⟩
    exact ⟨hseverity, ⟨e.message, hne, hworded, hcoded⟩, locates_iff.mpr hnode, locates_iff.mpr hfield⟩

/-- An entry as a value: a mapping from texts. -/
def asValue (e : ReplyEntry) : Value := .mapping (e.map fun field => (.text field.1, field.2))

end ReplyEntry

/-! ## 2. A list of entries -/

/-- The entries of a list or tuple that stands under a name; none where the name is missing. -/
inductive Entries.Lists (es : Entries) (name : String) : List ReplyEntry → Prop
  | absent : es.get? name = none → Lists es name []
  | present {v : Value} {entries : List ReplyEntry} : es.get? name = some v →
      v.members? = some (entries.map ReplyEntry.asValue) → Lists es name entries

namespace Shaped

variable {α β : Type}

theorem seq_eq_good_iff {f : Shaped (α → β)} {a : Shaped α} {b : β} :
    f <*> a = .good b ↔ ∃ g x, f = .good g ∧ a = .good x ∧ g x = b := by
  cases f <;> cases a <;> simp [Seq.seq, apply]

theorem map_eq_good_iff {f : α → β} {a : Shaped α} {b : β} :
    f <$> a = .good b ↔ ∃ x, a = .good x ∧ f x = b := by
  cases a <;> simp [Functor.map, apply]

theorem within_eq_good_iff {step : PathStep} {a : Shaped α} {x : α} :
    a.within step = .good x ↔ a = .good x := by
  cases a <;> simp [within]

end Shaped

/-- A list reads well when each member does, and as many values come of it in the same order. -/
theorem members?_of_readList {α : Type} {read : Value → Shaped α} {write : α → Value}
    (hread : ∀ v x, read v = .good x → v = write x) {v : Value} {xs : List α}
    (h : readList read v = .good xs) : v.members? = some (xs.map write) := by
  unfold readList at h
  cases hmembers : v.members? with
  | none =>
    rw [hmembers] at h
    cases h
  | some items =>
    rw [hmembers, Shaped.all_eq_good_iff] at h
    refine congrArg some (List.ext_getElem ?_ fun i hi hi' => ?_)
    · simpa using congrArg List.length h
    · rw [List.length_map] at hi'
      have hmember := List.getElem_of_eq h (i := i) (by simpa using hi)
      rw [List.getElem_map, List.getElem_zipIdx, List.getElem_map, Shaped.within_eq_good_iff] at hmember
      rw [List.getElem_map]
      exact hread _ _ hmember

/-- A list of entries that reads well holds these entries. -/
theorem Entries.lists_of_optional {es : Entries} {name : String} {entries : List ReplyEntry}
    (h : es.optional [name] [] (readList readTextMapping) = .good entries) :
    es.Lists name entries := by
  unfold Entries.optional Entries.first? at h
  cases hv : es.get? name with
  | none =>
    rw [hv] at h
    cases h
    exact .absent hv
  | some v =>
    rw [hv] at h
    refine .present hv (members?_of_readList (fun v e he => ?_) (Shaped.within_eq_good_iff.mp h))
    exact (readTextMapping_eq_good_iff v e).mp he

/-! ## 3. A whole answer -/

namespace BackendReply

/-- The entries of an answer in the order in which they are reported, each with the severity of its
list. -/
def tagged (r : BackendReply) : List (Severity × ReplyEntry) :=
  r.errors.map (Prod.mk .error) ++ r.warnings.map (Prod.mk .warning) ++ r.infos.map (Prod.mk .info)

/-- The findings are built from the entries, one by one. -/
theorem findings_eq_map_tagged (r : BackendReply) :
    r.findings = r.tagged.map fun entry => entry.2.finding entry.1 := by
  simp [findings, tagged, Function.comp_def]

/-- **An answer reports its entries one by one**: those of the three lists of the body, list after list
and each list in its order, whatever the entries hold. -/
theorem findings_of_read {body : Value} {r : BackendReply} (h : read body = .good r) :
    ∃ es : Entries, body = .mapping es ∧
      es.Lists "errors" r.errors ∧ es.Lists "warnings" r.warnings ∧ es.Lists "info" r.infos ∧
      List.Forall₂ (fun entry f => entry.2.Reports entry.1 f) r.tagged r.findings := by
  have hfindings : List.Forall₂ (fun entry f => entry.2.Reports entry.1 f) r.tagged r.findings := by
    rw [findings_eq_map_tagged, List.forall₂_map_right_iff, List.forall₂_same]
    exact fun entry _ => ReplyEntry.reports_iff.mpr rfl
  cases body with
  | mapping es =>
    obtain ⟨_, infos, hthree, hinfos, rfl⟩ := Shaped.seq_eq_good_iff.mp (h : ofEntries es = .good r)
    obtain ⟨_, warnings, htwo, hwarnings, rfl⟩ := Shaped.seq_eq_good_iff.mp hthree
    obtain ⟨_, errors, hone, herrors, rfl⟩ := Shaped.seq_eq_good_iff.mp htwo
    obtain ⟨isValid, -, rfl⟩ := Shaped.map_eq_good_iff.mp hone
    exact ⟨es, rfl, Entries.lists_of_optional herrors, Entries.lists_of_optional hwarnings,
      Entries.lists_of_optional hinfos, hfindings⟩
  | _ => cases h

/-- A body whose entries are odd: codes that are a number or missing, a message that is null, a node that
is null under its first name, and a severity of their own. -/
def oddBody : Value :=
  .ofFields
    [("info", .tuple [.ofFields [("severity", .text "error"), ("field_id", .int 3)]]),
     ("errors", .list [.ofFields [("code", .int 7), ("message", .null), ("node_id", .null),
       ("nodeId", .text "n")]])]

/-- What is read from it. -/
def oddReply : BackendReply :=
  ⟨none, [[("code", .int 7), ("message", .null), ("node_id", .null), ("nodeId", .text "n")]], [],
    [[("severity", .text "error"), ("field_id", .int 3)]]⟩

/-- Both entries are reported, the one of the errors first. -/
theorem findings_of_read_odd : read oddBody = .good oddReply ∧
    oddReply.findings = [.error .remoteFinding "[7] None",
      .info .remoteFinding "[UNKNOWN] Reported by backend validation" none (some (Text.ofString "3"))] ∧
    List.Forall₂ (fun entry f => entry.2.Reports entry.1 f) oddReply.tagged oddReply.findings := by
  have hread : read oddBody = .good oddReply := by rfl
  obtain ⟨_, -, -, -, -, hreports⟩ := findings_of_read hread
  exact ⟨hread, by decide +kernel, hreports⟩

end BackendReply

end WorkflowGate
