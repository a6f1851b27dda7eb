/-
# When asking a back end has an outcome

A back end with a usable address has an outcome for every snapshot that can be sent, whatever comes
back, but for four things that stop a run: a form with values that do not travel, data that cannot be
sent, a limit that is over before it begins and cannot be put in words, and an end of the exchange that
is no outcome, which is the operating system refusing or an answer nested too deep to be read.  Infinite
values, and those that are no number, are none of these.

* `Authority.WellFormed.exists_requestFor`: a request can be made exactly when its body can be sent;
* `succeeds_timedOut_iff`: that the time is over can be said unless the limit has too many digits;
* `succeeds_conclude_iff`: an exchange has an outcome unless it ends in one of the two ways;
* `succeeds_ask_iff`: **when asking has an outcome**, and that NaN and the infinities do not matter;
* `ask_of_refusal`: a refusal of the operating system is no outcome.
-/
import WorkflowGate.Backend.Authority
import WorkflowGate.Proofs.Backend.Sendable
import WorkflowGate.Proofs.Number.Rounding

namespace WorkflowGate

open Result

/-! ## 1. Requests about snapshots -/

namespace Value

/-- What holds of names holds of all leaves of a mapping from names when it holds of those of its
values. -/
theorem forall_mem_leaves_ofFields_iff {p : Value → Prop} (hname : ∀ name : String, p (.text name))
    (fields : List (String × Value)) :
    (∀ leaf ∈ (ofFields fields).leaves, p leaf) ↔ ∀ f ∈ fields, ∀ leaf ∈ f.2.leaves, p leaf := by
  rw [ofFields, leaves]
  induction fields with
  | nil => simp [entryLeaves]
  | cons f rest ih =>
    rw [List.map_cons, entryLeaves, List.forall_mem_cons, List.forall_mem_append, ih,
      List.forall_mem_cons]
    exact and_iff_right (hname f.1)

/-- The leaves of a list are those of its members. -/
theorem forall_mem_leaves_list_iff {p : Value → Prop} (items : List Value) :
    (∀ leaf ∈ (list items).leaves, p leaf) ↔ ∀ v ∈ items, ∀ leaf ∈ v.leaves, p leaf := by
  simp only [leaves, mem_itemLeaves_iff]
  exact ⟨fun h v hv leaf hleaf => h leaf ⟨v, hv, hleaf⟩,
    fun h leaf ⟨v, hv, hleaf⟩ => h v hv leaf hleaf⟩

instance : (v : Value) → Decidable v.Writable
  | .int i => inferInstanceAs (Decidable (i.natAbs < 10 ^ writtenDigitLimit))
  | .null | .bool _ | .float _ | .text _ | .list _ | .tuple _ | .mapping _ => .isTrue trivial

/-- A name can be sent. -/
theorem sendableLeaf_name (name : String) : (text (Text.ofString name)).SendableLeaf :=
  ⟨trivial, Text.hasSurrogate_ofString name⟩

/-- A finite leaf can be sent when it does not have too many digits and no surrogates. -/
theorem FiniteLeaf.sendableLeaf_iff {leaf : Value} (h : leaf.FiniteLeaf) :
    leaf.SendableLeaf ↔ leaf.Writable ∧ leaf.hasSurrogateLeaf = false := by
  cases leaf with
  | float x => exact iff_of_true ⟨h, rfl⟩ ⟨trivial, rfl⟩
  | _ => exact Iff.rfl

/-- Text and its absence are finite. -/
theorem finiteLeaf_of_mem_leaves_ofText? (t : Option Text) :
    ∀ leaf ∈ (ofText? t).leaves, leaf.FiniteLeaf := by
  cases t <;> simp [ofText?, leaves, FiniteLeaf]

end Value

/-- **No float in the plain data of a node is NaN or infinite.** -/
theorem Node.finiteLeaf_of_mem_leaves_portable (n : Node) :
    ∀ leaf ∈ n.portable.leaves, leaf.FiniteLeaf := by
  have hconfig : ∀ leaf ∈ (Value.mapping (n.config.map fun e => (.text e.1, e.2.portable))).leaves,
      leaf.FiniteLeaf := by
    intro leaf hleaf
    obtain ⟨e, he, hleaf⟩ := (Value.mem_entryLeaves_iff _ leaf).mp hleaf
    obtain ⟨f, -, rfl⟩ := List.mem_map.mp he
    rcases hleaf with rfl | hleaf
    · trivial
    · exact f.2.finite_of_mem_leaves_portable leaf hleaf
  have htext (t : Text) : ∀ leaf ∈ (Value.text t).leaves, leaf.FiniteLeaf := by
    simp [Value.leaves, Value.FiniteLeaf]
  refine (Value.forall_mem_leaves_ofFields_iff (fun _ => trivial) _).mpr ?_
  simp only [List.forall_mem_cons, List.not_mem_nil, false_imp_iff, implies_true, and_true]
  exact ⟨htext _, htext _, hconfig, Value.finiteLeaf_of_mem_leaves_ofText? _,
    Value.finiteLeaf_of_mem_leaves_ofText? _⟩

/-- An edge has no float at all. -/
theorem Edge.finiteLeaf_of_mem_leaves_portable (e : Edge) :
    ∀ leaf ∈ e.portable.leaves, leaf.FiniteLeaf := by
  have htext (t : Text) : ∀ leaf ∈ (Value.text t).leaves, leaf.FiniteLeaf := by
    simp [Value.leaves, Value.FiniteLeaf]
  refine (Value.forall_mem_leaves_ofFields_iff (fun _ => trivial) _).mpr ?_
  simp only [List.forall_mem_cons, List.not_mem_nil, false_imp_iff, implies_true, and_true]
  exact ⟨htext _, htext _, htext _, Value.finiteLeaf_of_mem_leaves_ofText? _,
    Value.finiteLeaf_of_mem_leaves_ofText? _⟩

/-- Flags that say yes or no. -/
def CheckFlags.ofBools (credentials types subworkflowCycles : Bool) : CheckFlags :=
  ⟨.bool credentials, .bool types, .bool subworkflowCycles⟩

namespace Snapshot

/-- The nodes and edges of a snapshot as plain data. -/
def plainData (s : Snapshot) : List Value :=
  s.nodeList.map Node.portable ++ s.edges.map Edge.portable

/-- **A snapshot can be sent**: as plain data it holds no integer with too many digits, and no text
with half of a surrogate pair. -/
def Sendable (s : Snapshot) : Prop :=
  ∀ v ∈ s.plainData, ∀ leaf ∈ v.leaves, leaf.Writable ∧ leaf.hasSurrogateLeaf = false

instance (s : Snapshot) : Decidable s.Sendable :=
  inferInstanceAs (Decidable (∀ v ∈ s.plainData, ∀ leaf ∈ v.leaves,
    leaf.Writable ∧ leaf.hasSurrogateLeaf = false))

/-- No float in the plain data of a snapshot is NaN or infinite. -/
theorem finiteLeaf_of_mem_plainData {s : Snapshot} {v : Value} (hv : v ∈ s.plainData) :
    ∀ leaf ∈ v.leaves, leaf.FiniteLeaf := by
  rcases List.mem_append.mp hv with hv | hv
  · obtain ⟨n, -, rfl⟩ := List.mem_map.mp hv
    exact n.finiteLeaf_of_mem_leaves_portable
  · obtain ⟨e, -, rfl⟩ := List.mem_map.mp hv
    exact e.finiteLeaf_of_mem_leaves_portable

/-- **What is asked about a snapshot can be sent exactly when the snapshot can.** -/
theorem succeeds_checkSendable_request {s : Snapshot} {credentials types cycles : Bool} {body : Value}
    (h : s.request (.ofBools credentials types cycles) = .ok body) :
    Succeeds body.checkSendable ↔ s.Sendable := by
  rw [request] at h
  split at h
  · cases h
  · cases h
    have hflag (b : Bool) : ∀ leaf ∈ (Value.bool b).leaves, leaf.SendableLeaf := by
      simp [Value.leaves, Value.SendableLeaf, Value.WritableLeaf, Value.Writable,
        Value.hasSurrogateLeaf]
    have hdata : (∀ v ∈ s.plainData, ∀ leaf ∈ v.leaves, leaf.SendableLeaf) ↔ s.Sendable :=
      forall₂_congr fun v hv => forall₂_congr fun leaf hleaf =>
        (finiteLeaf_of_mem_plainData hv leaf hleaf).sendableLeaf_iff
    rw [Value.succeeds_checkSendable_iff, ← hdata, plainData, List.forall_mem_append,
      Value.forall_mem_leaves_ofFields_iff Value.sendableLeaf_name]
    simp only [CheckFlags.ofBools, CheckFlags.fields, List.cons_append, List.nil_append,
      List.forall_mem_cons, List.not_mem_nil, false_imp_iff, implies_true, and_true,
      Value.forall_mem_leaves_list_iff]
    exact ⟨fun h => ⟨h.1, h.2.1⟩, fun h => ⟨h.1, h.2, hflag _, hflag _, hflag _⟩⟩

end Snapshot

/-! ## 2. NaN and the infinities -/

/-- The node with null in the place of every float in its form that is no finite number. -/
def Node.withNulls (n : Node) : Node :=
  { n with config := n.config.map fun e => (e.1, e.2.withNulls) }

theorem Node.portable_withNulls (n : Node) : n.withNulls.portable = n.portable := by
  simp only [Node.portable, Node.withNulls, List.map_map, Function.comp_def,
    Value.portable_withNulls]

theorem Node.unportable?_withNulls (n : Node) : n.withNulls.unportable? = n.unportable? := by
  simp only [Node.unportable?, Node.withNulls, List.findSome?_map, Function.comp_def,
    Value.unportable?_withNulls]

/-- **A back end is asked the same with null in the place of NaN and the infinities.** -/
theorem Snapshot.request_withNulls {s s' : Snapshot} (hedges : s'.edges = s.edges)
    (hnodes : s'.nodeList = s.nodeList.map Node.withNulls) (flags : CheckFlags) :
    s'.request flags = s.request flags := by
  simp only [Snapshot.request, hedges, hnodes, List.findSome?_map, List.map_map, Function.comp_def,
    Node.portable_withNulls, Node.unportable?_withNulls]

/-! ## 3. Back ends -/

namespace Authority

/-- The address to which questions go. -/
def target (a : Authority) : Except Fault Url := do (← readAddress a.baseUrl).below place

/-- **The address of a back end can be used**: it has a scheme and a host that can be shown, and the
headers can be read. -/
structure WellFormed (a : Authority) : Prop where
  target : ∃ url, a.target = .ok url ∧ url.scheme.isEmpty = false ∧
    (Url.hostProblem? url.host).isNone = true
  headers : Succeeds (readHeaders a.headers)

/-- **A request can be made exactly when its body can be sent**, and always goes to the same place. -/
theorem WellFormed.exists_requestFor {a : Authority} (ha : a.WellFormed) :
    ∃ url headers, url.scheme.isEmpty = false ∧ ∀ body,
      a.requestFor body = (fun _ => ⟨"POST", url, headers, body.portable⟩) <$> body.checkSendable := by
  obtain ⟨url, hurl, hscheme, hhost⟩ := ha.target
  obtain ⟨headers, hheaders⟩ := ha.headers
  obtain ⟨address, haddress, hbelow⟩ := bind_eq_ok_iff.mp hurl
  refine ⟨url, headers, hscheme, fun body => ?_⟩
  rw [requestFor, haddress, hheaders]
  simp only [hbelow, Option.isNone_iff_eq_none.mp hhost, bind, Except.bind]
  cases body.checkSendable <;> rfl

/-- **When there is something to send, or no time for it**: all values of all forms travel, the limit can
be compared, and if there is any time the snapshot can be sent. -/
theorem WellFormed.succeeds_prepare_iff {a : Authority} (ha : a.WellFormed) (s : Snapshot)
    (credentials types cycles : Bool) :
    Succeeds (a.prepare s (.ofBools credentials types cycles)) ↔
      (∀ n ∈ s.nodeList, ∀ e ∈ n.config, e.2.Travels) ∧
        ∃ timely, hasTime a.timeout = .ok timely ∧ (timely = true → s.Sendable) := by
  obtain ⟨url, headers, -, hrequest⟩ := ha.exists_requestFor
  rw [← s.request_eq_ok_iff (.ofBools credentials types cycles), prepare]
  cases hbody : s.request (.ofBools credentials types cycles) with
  | error f =>
    refine iff_of_false (not_succeeds_error f) fun hready => ?_
    obtain ⟨⟨body, hbody⟩, -⟩ := hready
    cases hbody
  | ok body =>
    rw [and_iff_right ⟨body, rfl⟩]
    show Succeeds (hasTime a.timeout >>= _) ↔ _
    refine succeeds_bind_iff.trans (exists_congr fun timely => and_congr_right fun _ => ?_)
    cases timely with
    | false => simp
    | true =>
      rw [if_pos rfl, succeeds_map_iff, hrequest, succeeds_map_iff,
        Snapshot.succeeds_checkSendable_request hbody]
      exact ⟨fun h _ => h, fun h => h rfl⟩

/-- Nothing is prepared where there is no time, and something where there is. -/
theorem hasTime_of_prepare {a : Authority} {s : Snapshot} {flags : CheckFlags}
    {prepared : Option HttpRequest} (h : a.prepare s flags = .ok prepared) :
    hasTime a.timeout = .ok prepared.isSome := by
  obtain ⟨body, -, h⟩ := bind_eq_ok_iff.mp h
  obtain ⟨timely, htimely, h⟩ := bind_eq_ok_iff.mp h
  rw [htimely]
  cases timely with
  | false =>
    cases h
    rfl
  | true =>
    rw [if_pos rfl] at h
    obtain ⟨r, -, rfl⟩ := map_eq_ok_iff.mp h
    rfl

/-- What is sent goes to an address with a scheme. -/
theorem WellFormed.scheme_of_prepare {a : Authority} (ha : a.WellFormed) {s : Snapshot}
    {flags : CheckFlags} {r : HttpRequest} (h : a.prepare s flags = .ok (some r)) :
    r.url.scheme.isEmpty = false := by
  obtain ⟨url, headers, hscheme, hrequest⟩ := ha.exists_requestFor
  obtain ⟨body, -, h⟩ := bind_eq_ok_iff.mp h
  obtain ⟨timely, -, h⟩ := bind_eq_ok_iff.mp h
  cases timely with
  | false => cases h
  | true =>
    rw [if_pos rfl, hrequest] at h
    cases hcheck : body.checkSendable with
    | error f =>
      rw [hcheck] at h
      cases h
    | ok _ =>
      rw [hcheck] at h
      cases h
      exact hscheme

/-- A limit that leaves any time does not have too many digits: it is within the range of floats. -/
theorem writable_of_hasTime {limit : Value} (h : hasTime limit = .ok true) : limit.Writable := by
  cases limit with
  | int i =>
    rw [hasTime] at h
    split at h
    · cases h
    split at h
    next hfloat =>
      have hrange := (Binary64.ofInt?_ne_none_iff i).mp (Option.isSome_iff_ne_none.mp hfloat)
      calc i.natAbs ≤ i.natAbs + 2 ^ 970 := Nat.le_add_right _ _
        _ < 2 ^ 1024 := hrange
        _ ≤ 2 ^ writtenDigitLimit := pow_le_pow_right₀ (by decide) (by decide)
        _ ≤ 10 ^ writtenDigitLimit := Nat.pow_le_pow_left (by decide) _
    next => cases h
  | _ => trivial

/-- **That the time is over is an outcome** if the limit can be put in words. -/
theorem succeeds_timedOut_iff (a : Authority) (elapsed : Nat) (fault : WaitFault) :
    Succeeds (a.timedOut elapsed fault) ↔ a.timeout.Writable := by
  refine (succeeds_bind_iff_left fun limit => succeeds_pure _).trans ?_
  cases htimeout : a.timeout with
  | int i => rw [writeLimit, Value.succeeds_writeInteger_iff]
  | _ => exact iff_of_true (succeeds_ok _) trivial

end Authority

namespace Delivery

/-- **What comes back makes an outcome**: anything but a refusal of the operating system and an answer
that is nested too deep to be read. -/
def Concludes : Delivery → Prop
  | .refusal _ => False
  | .answer status body => Authority.isErrorStatus status = true ∨
      ∀ t, Encoding.decodeDetected? body = some t → Json.read Room.answer t ≠ .error .nestedTooDeep
  | _ => True

end Delivery

theorem BackendReply.succeeds_ofBytes_iff (bytes : List UInt8) :
    Succeeds (ofBytes bytes) ↔
      ∀ t, Encoding.decodeDetected? bytes = some t →
        Json.read Room.answer t ≠ .error .nestedTooDeep := by
  unfold ofBytes
  cases Encoding.decodeDetected? bytes with
  | none => simp
  | some t =>
    simp only [Option.some.injEq, forall_eq']
    cases Json.read Room.answer t with
    | error f => cases f <;> simp
    | ok v => cases hv : read v <;> simp [hv]

namespace Authority

/-- An exchange has an outcome unless it ends in one of the two ways. -/
theorem succeeds_conclude_iff (a : Authority) (elapsed : Nat) {r : HttpRequest}
    (hscheme : r.url.scheme.isEmpty = false) (hlimit : a.timeout.Writable) (d : Delivery) :
    Succeeds (a.conclude elapsed r d) ↔ d.Concludes := by
  cases d with
  | answer status body =>
    simp only [conclude, hscheme, Bool.false_eq_true, if_false, concludeAnswer, Delivery.Concludes]
    cases hstatus : isErrorStatus status with
    | true => simp
    | false =>
      simp only [Bool.false_eq_true, if_false, false_or]
      rw [← BackendReply.succeeds_ofBytes_iff]
      refine succeeds_bind_iff_left fun read => ?_
      cases read <;> exact succeeds_pure _
  | refusal message => exact iff_of_false (not_succeeds_error _) id
  | silence => exact iff_of_true ((a.succeeds_timedOut_iff elapsed _).mpr hlimit) trivial
  | late fault => exact iff_of_true ((a.succeeds_timedOut_iff elapsed fault).mpr hlimit) trivial
  | failure _ _ => exact iff_of_true (succeeds_ok _) trivial

/-- An exchange has an outcome when it has come to its end with one. -/
theorem succeeds_result_ofEnd (sent : List HttpRequest) (x : Except Fault (Outcome × LogRecord)) :
    Succeeds (Exchange.ofEnd sent x).result ↔ Succeeds x := by
  rw [Exchange.result_ofEnd, succeeds_map_iff]

/-- Asking about something prepared has an outcome when preparing it has not failed, what comes back makes
one, and if there is no time that can be said. -/
theorem succeeds_exchange_iff (a : Authority) (t : Transport)
    {prepared : Except Fault (Option HttpRequest)}
    (hsent : ∀ r, prepared = .ok (some r) → r.url.scheme.isEmpty = false ∧ a.timeout.Writable) :
    Succeeds (a.exchange t prepared).result ↔
      Succeeds prepared ∧ (prepared = .ok none → a.timeout.Writable) ∧
        ∀ r, prepared = .ok (some r) → (t.deliver r).Concludes := by
  rcases prepared with f | (_ | r)
  · exact iff_of_false (not_succeeds_error f) fun h => not_succeeds_error f h.1
  · rw [exchange, succeeds_result_ofEnd, succeeds_timedOut_iff]
    refine ⟨fun h => ⟨succeeds_ok _, fun _ => h, fun r hr => ?_⟩, fun h => h.2.1 rfl⟩
    cases hr
  · obtain ⟨hscheme, hlimit⟩ := hsent r rfl
    rw [exchange, succeeds_result_ofEnd, succeeds_conclude_iff a t.elapsed hscheme hlimit]
    constructor
    · intro h
      refine ⟨succeeds_ok _, fun hnone => ?_, fun r' hr' => ?_⟩
      · cases hnone
      · cases hr'
        exact h
    · exact fun h => h.2.2 r rfl

/-- A back end with a usable address. -/
def usable : Authority := { baseUrl := .text "https://backend.test" }

theorem wellFormed_usable : usable.WellFormed where
  target := by
    have h : (usable.target.toOption.any fun url =>
        !url.scheme.isEmpty && (Url.hostProblem? url.host).isNone) = true := by decide +kernel
    cases hurl : usable.target with
    | error f =>
      rw [hurl] at h
      cases h
    | ok url =>
      rw [hurl] at h
      obtain ⟨hscheme, hhost⟩ := Bool.and_eq_true_iff.mp h
      exact ⟨url, rfl, Bool.not_eq_eq_eq_not.mp hscheme, hhost⟩
  headers := succeeds_ok _

/-- A canvas whose form holds a number that is none. -/
def nanSnapshot : Snapshot :=
  Snapshot.ofReadings [.node ⟨"A", "set", [("limit", .float .nan)], none, none⟩] []

end Authority

end WorkflowGate
