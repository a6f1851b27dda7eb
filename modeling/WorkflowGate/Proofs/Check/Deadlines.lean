/-
# Which timeouts pass, and where the others are reported

The runtime refuses a timeout that is not positive and one that exceeds the limit, and every other timeout
passes.  To pass is not quite to lie within the limits: NaN is neither at most zero nor beyond anything,
and nothing exceeds a limit that is NaN.

A node may declare its timeout under one of two keys, of which the first that holds a number counts.  A
refused timeout is reported at the first key whichever of the two it stands under.

* `Value.exceeds_eq_ok_false_iff`: **what does not exceed a limit is at most the limit**, but for NaN;
* `Node.declaredTimeout_eq_ok_some_iff`: the key that a declared timeout stands under;
* `Snapshot.ofBatches_withinLimits`: **which timeouts pass**, and `Snapshot.passes_nan` for one that lies
  within no limits;
* `Snapshot.ofBatches_timeouts_located`: **where a refused timeout is reported**, and
  `Snapshot.override_misplaced` for one that stands elsewhere.
-/
import WorkflowGate.Proofs.Expressions

namespace WorkflowGate

open Result

/-! ## 1. Limits -/

namespace Value

/-- The first number is at most the second one.  NaN is at most nothing, and nothing is at most NaN. -/
def AtMost (v limit : Value) : Prop :=
  ∃ a b, v.place? = some a ∧ limit.place? = some b ∧ a.le b = true

/-- Of the numbers only NaN has no place. -/
theorem place?_eq_none_iff {v : Value} (h : v.isNumeric = true) :
    v.place? = none ↔ v = .float .nan := by
  cases v with
  | float x => simp [place?, Binary64.place?_eq_none_iff]
  | int i => simp [place?]
  | bool b => simp [place?]
  | _ => cases h

/-- **What does not exceed a limit is at most the limit**, unless one of the two is NaN. -/
theorem exceeds_eq_ok_false_iff {v limit : Value} (hv : v.isNumeric = true)
    (hlimit : limit.isNumeric = true) :
    v.exceeds limit = .ok false ↔ v.AtMost limit ∨ v = .float .nan ∨ limit = .float .nan := by
  rw [← place?_eq_none_iff hv, ← place?_eq_none_iff hlimit]
  unfold exceeds AtMost
  simp only [hv, hlimit, Bool.not_true, Bool.false_eq_true, if_false]
  cases v.place? with
  | none => simp
  | some a =>
    cases limit.place? with
    | none => simp
    | some b => simp [Place.lt]

end Value

namespace Binary64

/-- The number lies within the limits of a timeout: it is positive, and at most the greatest one. -/
structure WithinLimits (t : Binary64) (limit : Value) : Prop where
  positive : zero.lt t = true
  atMost : (Value.float t).AtMost limit

/-- The runtime refuses the number as a timeout. -/
def RefusedBy (t : Binary64) (limit : Value) : Prop :=
  t.le zero = true ∨ (Value.float t).exceeds limit = .ok true

/-- What is not at most zero is positive or NaN. -/
theorem le_zero_eq_false_iff (t : Binary64) : t.le zero = false ↔ zero.lt t = true ∨ t = nan := by
  rw [← place?_eq_none_iff]
  unfold le lt
  cases t.place? with
  | none => simp
  | some a => simp [zero, place?, Place.lt]

/-- **What is not refused lies within the limits**, unless it is NaN, or positive under a limit that is
NaN. -/
theorem not_refusedBy_iff (t : Binary64) {limit : Value} (hlimit : limit.isNumeric = true) :
    ¬ t.RefusedBy limit ↔
      t.WithinLimits limit ∨ t = nan ∨ (limit = .float nan ∧ zero.lt t = true) := by
  obtain ⟨exceeds, hexceeds⟩ := Value.succeeds_exceeds (v := .float t) rfl hlimit
  have hnot : ¬ (Value.float t).exceeds limit = .ok true ↔
      (Value.float t).AtMost limit ∨ t = nan ∨ limit = .float nan := by
    have hiff := Value.exceeds_eq_ok_false_iff (v := .float t) rfl hlimit
    rw [Value.float.injEq] at hiff
    rw [← hiff, hexceeds]
    cases exceeds <;> simp
  rw [RefusedBy, not_or, Bool.not_eq_true, le_zero_eq_false_iff, hnot]
  constructor
  · rintro ⟨hpositive | hnan, hwithin⟩
    · rcases hwithin with hatMost | hnan | hlimit
      · exact .inl ⟨hpositive, hatMost⟩
      · exact .inr (.inl hnan)
      · exact .inr (.inr ⟨hlimit, hpositive⟩)
    · exact .inr (.inl hnan)
  · rintro (⟨hpositive, hatMost⟩ | hnan | ⟨hlimit, hpositive⟩)
    · exact ⟨.inl hpositive, .inl hatMost⟩
    · exact ⟨.inr hnan, .inr (.inl hnan)⟩
    · exact ⟨.inl hpositive, .inr (.inr hlimit)⟩

end Binary64

/-! ## 2. Keys -/

namespace Node

variable {n : Node} {found : List Finding}

/-- The key is the first one whose value is a number, and this is the number. -/
inductive FirstNumberAt (n : Node) (x : Binary64) : List Text → Text → Prop
  | here {key : Text} {rest : List Text} : (n.get key).asNumber = .ok (some x) →
      FirstNumberAt n x (key :: rest) key
  | there {other key : Text} {rest : List Text} : (n.get other).asNumber = .ok none →
      FirstNumberAt n x rest key → FirstNumberAt n x (other :: rest) key

/-- **The first number is the value of the first key that holds one.** -/
theorem firstNumber_eq_ok_some_iff {keys : List Text} {x : Binary64} :
    n.firstNumber keys = .ok (some x) ↔ ∃ key, n.FirstNumberAt x keys key := by
  induction keys with
  | nil =>
    refine iff_of_false (fun h => by cases h) ?_
    rintro ⟨key, hkey⟩
    cases hkey
  | cons key rest ih =>
    rw [firstNumber]
    constructor
    · intro h
      obtain ⟨number, hnumber, h⟩ := bind_eq_ok_iff.mp h
      cases number with
      | some y =>
        cases h
        exact ⟨key, .here hnumber⟩
      | none =>
        obtain ⟨later, hlater⟩ := ih.mp h
        exact ⟨later, .there hnumber hlater⟩
    · rintro ⟨found, hfound⟩
      cases hfound with
      | here hnumber =>
        rw [hnumber]
        rfl
      | there hnone hlater =>
        rw [hnone]
        exact ih.mpr ⟨found, hlater⟩

/-- The timeout of the node stands under the key. -/
def DeclaresTimeout (n : Node) (key : Text) (t : Binary64) : Prop := n.FirstNumberAt t timeoutKeys key

/-- **A declared timeout stands under one of the keys.** -/
theorem declaredTimeout_eq_ok_some_iff {t : Binary64} :
    n.declaredTimeout = .ok (some t) ↔ ∃ key, n.DeclaresTimeout key t :=
  firstNumber_eq_ok_some_iff

/-- It stands under the first key if that holds a number, else under the second one. -/
theorem declaresTimeout_iff {key : Text} {t : Binary64} :
    n.DeclaresTimeout key t ↔
      (key = timeoutField ∧ (n.get timeoutField).asNumber = .ok (some t)) ∨
      (key = Text.ofString "timeout_override" ∧ (n.get timeoutField).asNumber = .ok none ∧
        (n.get "timeout_override").asNumber = .ok (some t)) := by
  constructor
  · intro h
    cases h with
    | here hnumber => exact .inl ⟨rfl, hnumber⟩
    | there hnone hlater =>
      cases hlater with
      | here hnumber => exact .inr ⟨rfl, hnone, hnumber⟩
      | there _ hnever => cases hnever
  · rintro (⟨rfl, hnumber⟩ | ⟨rfl, hnone, hnumber⟩)
    · exact .here hnumber
    · exact .there hnone (.here hnumber)

/-- Whatever is found of a timeout stands at the first key, and something is when it is refused. -/
theorem exists_timeoutFinding_iff {limit : Value} {t : Binary64}
    (ht : n.declaredTimeout = .ok (some t)) (h : n.timeoutFindings limit = .ok found)
    {q : Finding → Prop} {p : Prop} (hq : ∀ f, f.IsAt n.id timeoutField → (q f ↔ p)) :
    (∃ f ∈ found, q f) ↔ t.RefusedBy limit ∧ p := by
  have herror : n.timeoutError t limit = .ok found := by
    rw [timeoutFindings, ht] at h
    exact h
  obtain ⟨hat, hrefused⟩ := mem_timeoutError_iff herror
  constructor
  · rintro ⟨f, hf, hqf⟩
    exact ⟨hrefused.mp (List.ne_nil_of_mem hf), (hq f (hat f hf)).mp hqf⟩
  · rintro ⟨hrefusal, hp⟩
    obtain ⟨f, hf⟩ := List.exists_mem_of_ne_nil found (hrefused.mpr hrefusal)
    exact ⟨f, hf, (hq f (hat f hf)).mpr hp⟩

/-- What is found of the timeout of a node is found of one that it declares and that is refused. -/
theorem exists_declaresTimeout_of_mem {limit : Value} (h : n.timeoutFindings limit = .ok found)
    {f : Finding} (hf : f ∈ found) :
    ∃ key t, n.DeclaresTimeout key t ∧ t.RefusedBy limit ∧ f.IsAt n.id timeoutField := by
  obtain ⟨declared, hdeclared, herror⟩ := bind_eq_ok_iff.mp h
  cases declared with
  | none =>
    cases herror
    cases hf
  | some t =>
    obtain ⟨key, hkey⟩ := declaredTimeout_eq_ok_some_iff.mp hdeclared
    obtain ⟨hat, hrefused⟩ := mem_timeoutError_iff herror
    exact ⟨key, t, hkey, hrefused.mp (List.ne_nil_of_mem hf), hat f hf⟩

end Node

/-! ## 3. All nodes -/

namespace Snapshot

variable {s : Snapshot} {settings : Settings} {n : Node} {t : Binary64} {found : List Finding}
  {nodes : Batch Node} {edges : Batch Edge}

/-- What is found at the id of a node is found of its timeout. -/
theorem Consistent.exists_timeoutFinding_iff (hs : s.Consistent)
    (h : s.timeoutFindings settings = .ok found) (hn : n ∈ s.nodeList)
    (ht : n.declaredTimeout = .ok (some t)) {q : Finding → Prop} {p : Prop}
    (hid : ∀ f, q f → f.nodeId = some n.id)
    (hq : ∀ f, f.IsAt n.id Node.timeoutField → (q f ↔ p)) :
    (∃ f ∈ found, q f) ↔ t.RefusedBy settings.maxNodeTimeout ∧ p :=
  hs.exists_on_iff hn h (fun _ _ hpart _ hf => Node.nodeId_of_mem_timeoutFindings hpart hf) hid
    fun _ hpart => Node.exists_timeoutFinding_iff ht hpart hq

/-- **Which timeouts pass**: nothing is found of the timeout of a node exactly when it lies within the
limits, when it is NaN, and when it is positive under a limit that is NaN. -/
theorem ofBatches_withinLimits (hs : ofBatches nodes edges = .ok s)
    (hlimit : settings.maxNodeTimeout.isNumeric = true)
    (h : s.timeoutFindings settings = .ok found) (hn : n ∈ s.nodeList)
    (ht : n.declaredTimeout = .ok (some t)) :
    (∀ f ∈ found, f.nodeId ≠ some n.id) ↔
      t.WithinLimits settings.maxNodeTimeout ∨ t = .nan ∨
        (settings.maxNodeTimeout = .float .nan ∧ Binary64.zero.lt t = true) := by
  have hfound : (∃ f ∈ found, f.nodeId = some n.id) ↔ t.RefusedBy settings.maxNodeTimeout ∧ True :=
    (consistent_of_ofBatches hs).exists_timeoutFinding_iff h hn ht (fun _ hid => hid)
      fun _ hat => iff_of_true hat.nodeId trivial
  rw [and_true] at hfound
  rw [← Binary64.not_refusedBy_iff t hlimit, ← hfound]
  simp

/-- A node with one timeout, as it is handed over. -/
def timedNode (key : String) (timeout : Value) : Value :=
  .ofFields [("id", .text "a"), ("kind", .text "set"), ("config", .ofFields [(key, timeout)])]

/-- The node that it is read as. -/
def timedReading (key : String) (timeout : Value) : Node :=
  ⟨"a", "set", [(Text.ofString key, timeout)], none, none⟩

/-- The canvas of that node alone. -/
def timedSnapshot (key : String) (timeout : Value) : Snapshot :=
  ofReadings [.node (timedReading key timeout)] []

theorem mem_timedSnapshot (key : String) (timeout : Value) :
    timedReading key timeout ∈ (timedSnapshot key timeout).nodeList :=
  (List.mem_cons_self : _ ∈ [timedReading key timeout])

/-- The greatest timeout passes and lies within the limits. -/
theorem ofBatches_withinLimits_greatest :
    ofBatches (.ofValue (.list [timedNode "timeout_seconds" (.int 300)])) (.ofValue (.list [])) =
        .ok (timedSnapshot "timeout_seconds" (.int 300)) ∧
      (timedSnapshot "timeout_seconds" (.int 300)).timeoutFindings {} = .ok [] ∧
      ∃ t, (timedReading "timeout_seconds" (.int 300)).declaredTimeout = .ok (some t) ∧
        t.WithinLimits (.int 300) := by
  have hread : ofBatches (.ofValue (.list [timedNode "timeout_seconds" (.int 300)]))
      (.ofValue (.list [])) = .ok (timedSnapshot "timeout_seconds" (.int 300)) := rfl
  have hfound : (timedSnapshot "timeout_seconds" (.int 300)).timeoutFindings {} = .ok [] := by
    decide +kernel
  have hdeclared : (timedReading "timeout_seconds" (.int 300)).declaredTimeout =
      .ok (some (.finite false (300 * unitsPerOne))) := by
    decide +kernel
  refine ⟨hread, hfound, _, hdeclared, ?_⟩
  rcases (ofBatches_withinLimits hread rfl hfound (mem_timedSnapshot _ _) hdeclared).mp
    (List.forall_mem_nil _) with hwithin | hnan | ⟨hnan, -⟩
  · exact hwithin
  · cases hnan
  · cases hnan

/-- **A timeout that is NaN passes**, though it is neither positive nor at most the limit. -/
theorem passes_nan :
    ofBatches (.ofValue (.list [timedNode "timeout_seconds" (.text "nan")])) (.ofValue (.list [])) =
        .ok (timedSnapshot "timeout_seconds" (.text "nan")) ∧
      (timedSnapshot "timeout_seconds" (.text "nan")).timeoutFindings {} = .ok [] ∧
      (timedReading "timeout_seconds" (.text "nan")).declaredTimeout = .ok (some .nan) ∧
      ¬ Binary64.zero.lt .nan = true ∧ ¬ (Value.float .nan).AtMost (.int 300) := by
  refine ⟨rfl, rfl, rfl, by decide, ?_⟩
  rintro ⟨a, b, ha, -, -⟩
  cases ha

/-- **Where a refused timeout is reported**: always at the first key.  So what is found of the timeout
of a node points at the key that the timeout stands under exactly when the first key holds a number, or
when there is nothing to be found. -/
theorem ofBatches_timeouts_located (hs : ofBatches nodes edges = .ok s)
    (h : s.timeoutFindings settings = .ok found) :
    (∀ f ∈ found, ∃ n ∈ s.nodeList, ∃ key t, n.DeclaresTimeout key t ∧
        t.RefusedBy settings.maxNodeTimeout ∧ f.IsAt n.id Node.timeoutField) ∧
      ∀ n ∈ s.nodeList, ∀ key t, n.DeclaresTimeout key t →
        ((∀ f ∈ found, f.nodeId = some n.id → f.fieldId = some key) ↔
          (t.RefusedBy settings.maxNodeTimeout →
            (n.get Node.timeoutField).asNumber = .ok (some t))) := by
  constructor
  · intro f hf
    obtain ⟨n, hn, part, hpart, hf⟩ := exists_of_mem_flatten_mapM h hf
    exact ⟨n, hn, Node.exists_declaresTimeout_of_mem hpart hf⟩
  · intro n hn key t hkey
    have hfirst : Node.timeoutField = key ↔ (n.get Node.timeoutField).asNumber = .ok (some t) := by
      rcases Node.declaresTimeout_iff.mp hkey with ⟨rfl, hnumber⟩ | ⟨rfl, hnone, -⟩
      · exact iff_of_true rfl hnumber
      · rw [hnone]
        exact iff_of_false (by decide) (by simp)
    have hmisplaced : (∃ f ∈ found, f.nodeId = some n.id ∧ f.fieldId ≠ some key) ↔
        t.RefusedBy settings.maxNodeTimeout ∧ Node.timeoutField ≠ key :=
      (consistent_of_ofBatches hs).exists_timeoutFinding_iff h hn
        (Node.declaredTimeout_eq_ok_some_iff.mpr ⟨key, hkey⟩) (fun _ hf => hf.1) fun f hat => by
          simp [hat.nodeId, hat.fieldId]
    rw [← not_iff_not, ← hfirst]
    refine Iff.trans ?_ (hmisplaced.trans ?_) <;> simp

/-- A timeout of zero under the first key is reported there. -/
theorem ofBatches_timeouts_located_seconds :
    ofBatches (.ofValue (.list [timedNode "timeout_seconds" (.int 0)])) (.ofValue (.list [])) =
        .ok (timedSnapshot "timeout_seconds" (.int 0)) ∧
      ∃ f, (timedSnapshot "timeout_seconds" (.int 0)).timeoutFindings {} = .ok [f] ∧
        f.fieldId = some (Text.ofString "timeout_seconds") := by
  have hread : ofBatches (.ofValue (.list [timedNode "timeout_seconds" (.int 0)]))
      (.ofValue (.list [])) = .ok (timedSnapshot "timeout_seconds" (.int 0)) := rfl
  have hnumber : ((timedReading "timeout_seconds" (.int 0)).get Node.timeoutField).asNumber =
      .ok (some .zero) := by
    decide +kernel
  have hfound : (timedSnapshot "timeout_seconds" (.int 0)).timeoutFindings {} =
      .ok [.error .invalidTimeout "Node \"a\" timeout must be greater than 0" (some "a")
        (some "timeout_seconds")] := by
    decide +kernel
  have hlocated := (ofBatches_timeouts_located hread hfound).2 _ (mem_timedSnapshot _ _) _ _
    (Node.declaresTimeout_iff.mpr (.inl ⟨rfl, hnumber⟩))
  exact ⟨hread, _, hfound, hlocated.mpr (fun _ => hnumber) _ List.mem_cons_self rfl⟩

/-- **A timeout under the second key is reported at the first one**, which holds nothing. -/
theorem override_misplaced :
    ofBatches (.ofValue (.list [timedNode "timeout_override" (.int 0)])) (.ofValue (.list [])) =
        .ok (timedSnapshot "timeout_override" (.int 0)) ∧
      ∃ f, (timedSnapshot "timeout_override" (.int 0)).timeoutFindings {} = .ok [f] ∧
        (timedReading "timeout_override" (.int 0)).DeclaresTimeout "timeout_override" .zero ∧
        f.fieldId ≠ some (Text.ofString "timeout_override") := by
  have hnone : ((timedReading "timeout_override" (.int 0)).get Node.timeoutField).asNumber =
      .ok none := rfl
  have hnumber : ((timedReading "timeout_override" (.int 0)).get "timeout_override").asNumber =
      .ok (some .zero) := by
    decide +kernel
  have hfound : (timedSnapshot "timeout_override" (.int 0)).timeoutFindings {} =
      .ok [.error .invalidTimeout "Node \"a\" timeout must be greater than 0" (some "a")
        (some "timeout_seconds")] := by
    decide +kernel
  exact ⟨rfl, _, hfound, Node.declaresTimeout_iff.mpr (.inr ⟨rfl, hnone, hnumber⟩), by decide⟩

end Snapshot

end WorkflowGate
