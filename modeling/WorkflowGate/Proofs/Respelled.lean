/-
# Integers in the place of ids

An id may be given as an integer, which stands for its digits.  So the digits may be written in its
place wherever an id is read: in the id and the group of a node, and in the id, the ends and the handles
of an edge.  The reading is the same then, and with it the graph and the whole run.

One place is different.  The group of a node is looked for under four names, and what is not truthy is
passed over before anybody asks which id it spells.  Zero is the one integer that is not truthy, and its
digit is.  So a zero that is *met* under one of the first three names is passed over, while its digit
is the group.

* `Respells.idOf_eq`, `Respells.truthy_eq`: an integer and its digits spell one id, and only at zero do
  they differ in whether they are truthy;
* `idOf_firstTruthy`, `MeetsZero.firstTruthy_eq`: the two ways in which the search for a group can go;
* `nodeOfEntries_respelled`, `edgeOfEntries_respelled`: what this makes of an entry;
* `Gate.validate_respelled`: **a run does not tell integers from their digits**, unless such a zero is
  met.
-/
import Mathlib.Data.List.Forall2
import Mathlib.Data.Option.Basic
import WorkflowGate.Proofs.Gate

namespace WorkflowGate

/-! ## 1. Values -/

/-- A value and what may be written in its place: an integer may become the text of its digits, unless
there are too many of them. -/
inductive Respells : Value → Value → Prop
  | same (v : Value) : Respells v v
  | digits {i : Int} (h : (toString i.natAbs).length ≤ writtenDigitLimit) :
    Respells (.int i) (.text (Text.ofInt i))

/-- An integer has digits. -/
theorem Text.isEmpty_ofInt (i : Int) : (ofInt i).isEmpty = false := by
  have hne : toString i ≠ "" := by
    cases i with
    | ofNat n => exact Nat.repr_ne_empty
    | negSucc n =>
      intro h
      have hlength := congrArg String.length h
      simp [toString, Int.repr] at hlength
  by_contra hempty
  have hpoints : (toString i).toList.map CodePoint.ofChar = [] := by
    simpa [isEmpty, ofInt, ofString] using hempty
  exact hne (String.toList_eq_nil_iff.mp (List.map_eq_nil_iff.mp hpoints))

namespace Respells

variable {v v' : Value}

/-- **An integer and its digits spell one id.** -/
theorem idOf_eq (h : Respells v v') : idOf v' = idOf v := by
  cases h with
  | same => rfl
  | digits hlength =>
    simp only [idOf, writeInteger, if_pos hlength, Text.isEmpty_ofInt, Bool.false_eq_true, if_false]
    rfl

/-- Only a zero is not truthy while its digits are. -/
theorem truthy_eq (h : Respells v v') (hzero : ¬ (v = .int 0 ∧ v' = .text "0")) :
    v'.truthy = v.truthy := by
  cases h with
  | same => rfl
  | @digits i hlength =>
    have hi : i ≠ 0 := by
      rintro rfl
      exact hzero ⟨rfl, rfl⟩
    simp [Value.truthy, Text.isEmpty_ofInt, hi]

end Respells

/-! ## 2. The search for a group -/

/-- A zero is met whose digit stands in the other list: it is not the last of the values, and nothing
before it is truthy. -/
inductive MeetsZero : List Value → List Value → Prop
  | here {rest rest' : List Value} (hrest : rest ≠ []) :
    MeetsZero (.int 0 :: rest) (.text "0" :: rest')
  | later {v v' : Value} {rest rest' : List Value} (hv : v'.truthy = false)
    (h : MeetsZero rest rest') : MeetsZero (v :: rest) (v' :: rest')

/-- The first of the values goes by the others where it is not truthy. -/
theorem firstTruthy_cons (v : Value) {rest : List Value} (hrest : rest ≠ []) :
    firstTruthy (v :: rest) = v.orElse (firstTruthy rest) := by
  cases rest with
  | nil => exact absurd rfl hrest
  | cons next rest => rfl

/-- **A digit that is met is what the search ends with.** -/
theorem MeetsZero.firstTruthy_eq {vs vs' : List Value} (h : MeetsZero vs vs') :
    firstTruthy vs' = .text "0" := by
  induction h with
  | @here rest rest' hrest =>
    cases rest' with
    | nil => rfl
    | cons next rest' => rfl
  | @later v v' rest rest' hv h ih =>
    have hrest : rest' ≠ [] := by
      rintro rfl
      cases h
    rw [firstTruthy_cons v' hrest, Value.orElse, hv, if_neg Bool.false_ne_true, ih]

/-- A zero that is met stands there, and not as the last. -/
theorem MeetsZero.mem_dropLast {vs vs' : List Value} (h : MeetsZero vs vs') :
    .int 0 ∈ vs.dropLast := by
  induction h with
  | @here rest rest' hrest =>
    rw [List.dropLast_cons_of_ne_nil hrest]
    exact List.mem_cons_self
  | @later v v' rest rest' hv h ih =>
    have hrest : rest ≠ [] := by
      rintro rfl
      cases h
    rw [List.dropLast_cons_of_ne_nil hrest]
    exact List.mem_cons_of_mem _ ih

/-- **Otherwise the search ends with a value that spells the same id.** -/
theorem idOf_firstTruthy {vs vs' : List Value} (h : List.Forall₂ Respells vs vs')
    (hzero : ¬ MeetsZero vs vs') : idOf (firstTruthy vs') = idOf (firstTruthy vs) := by
  induction h with
  | nil => rfl
  | @cons v v' rest rest' hv hrest ih =>
    cases rest with
    | nil =>
      -- The last value is taken whether it is truthy or not.
      cases hrest
      exact hv.idOf_eq
    | cons next rest =>
      obtain ⟨next', rest', hnext, hrest', rfl⟩ := List.forall₂_cons_left_iff.mp hrest
      have hne : next :: rest ≠ [] := List.cons_ne_nil _ _
      have htruthy : v'.truthy = v.truthy := by
        refine hv.truthy_eq ?_
        rintro ⟨rfl, rfl⟩
        exact hzero (.here hne)
      rw [firstTruthy_cons v hne, firstTruthy_cons v' (List.cons_ne_nil _ _), Value.orElse,
        Value.orElse, htruthy]
      cases hv' : v.truthy with
      | true => exact hv.idOf_eq
      | false => exact ih fun hlater => hzero (.later (htruthy.trans hv') hlater)

/-! ## 3. Mappings -/

namespace Entries

variable {R : Key → Value → Value → Prop} {es es' : Entries}

/-- The same keys in the same order, and values that go together under each. -/
def Alike (R : Key → Value → Value → Prop) : Entries → Entries → Prop :=
  List.Forall₂ fun f f' => f.1 = f'.1 ∧ R f.1 f.2 f'.2

theorem Alike.refl (h : ∀ key v, R key v v) (es : Entries) : Alike R es es :=
  List.forall₂_same.mpr fun f _ => ⟨rfl, h f.1 f.2⟩

/-- What is found under a name goes together. -/
theorem Alike.get? (h : Alike R es es') (name : Text) :
    Option.Rel (R (.text name)) (Entries.get? es name) (Entries.get? es' name) := by
  induction h with
  | nil => exact .none
  | @cons f f' rest rest' hf _ ih =>
    obtain ⟨key, v⟩ := f
    obtain ⟨key', v'⟩ := f'
    obtain ⟨rfl, hv⟩ : key = key' ∧ R key v v' := hf
    by_cases hkey : key = .text name
    · subst hkey
      simpa [Entries.get?, OrderedMap.lookup] using Option.Rel.some hv
    · simpa [Entries.get?, OrderedMap.lookup, hkey] using ih

/-- So does what is found, or null. -/
theorem Alike.get (h : Alike R es es') (name : Text) (hnull : R (.text name) .null .null) :
    R (.text name) (Entries.get es name) (Entries.get es' name) := by
  have hfound := h.get? name
  unfold Entries.get
  generalize Entries.get? es name = x at hfound
  generalize Entries.get? es' name = x' at hfound
  cases hfound with
  | none => exact hnull
  | some hv => exact hv

end Entries

/-! ## 4. The places of ids -/

/-- Under some names an integer may become its digits; under all other keys a value is kept. -/
def RespellsAt (names : List String) (key : Key) (v v' : Value) : Prop :=
  v = v' ∨ (∃ name ∈ names, key = .text (Text.ofString name)) ∧ Respells v v'

namespace RespellsAt

variable {names : List String} {key : Key} {name : Text} {v v' : Value}

theorem respells (h : RespellsAt names key v v') : Respells v v' := by
  rcases h with rfl | ⟨-, h⟩
  · exact .same v
  · exact h

/-- Under other names nothing changes. -/
theorem eq_of_not_mem (h : RespellsAt names (.text name) v v')
    (hname : name ∉ names.map Text.ofString) : v = v' := by
  rcases h with rfl | ⟨⟨other, hother, hkey⟩, -⟩
  · rfl
  · cases hkey
    exact absurd (List.mem_map_of_mem hother) hname

end RespellsAt

/-- The names under which a node's id and its group are looked for. -/
def nodeIdNames : List String := ["id", "parent_id", "parentId", "parentNode"]

/-- The name under which the group is looked for in the payload of the editor. -/
def payloadIdNames : List String := ["parentNode"]

/-- The names under which an edge's id, its ends and its handles are looked for. -/
def edgeIdNames : List String :=
  ["id", "source", "target", "source_handle", "sourceHandle", "target_handle", "targetHandle"]

/-- The fields of a node: integers may become their digits in the places of its ids, those within the
payload of the editor included. -/
inductive RespellsNode (key : Key) : Value → Value → Prop
  | field {v v' : Value} (h : RespellsAt nodeIdNames key v v') : RespellsNode key v v'
  | payload {es es' : Entries} (hkey : key = .text "data")
    (h : Entries.Alike (RespellsAt payloadIdNames) es es') :
    RespellsNode key (.mapping es) (.mapping es')

/-- Beside the payload there are only the node's own names. -/
theorem RespellsNode.respellsAt {name : Text} {v v' : Value} (h : RespellsNode (.text name) v v')
    (hname : name ≠ "data") : RespellsAt nodeIdNames (.text name) v v' := by
  cases h with
  | field h => exact h
  | payload hkey _ =>
    cases hkey
    exact absurd rfl hname

namespace Entries

/-- The values among which the group of a node is looked for, in order. -/
def groupValues (es : Entries) : List Value :=
  [es.get "parent_id", es.get "parentId", es.get "parentNode", (dataOf es).get "parentNode"]

namespace Alike

variable {es es' : Entries} (h : Alike RespellsNode es es')
include h

/-- The payloads are alike. -/
theorem payload : Alike (RespellsAt payloadIdNames) (dataOf es) (dataOf es') := by
  have hdata := h.get "data" (.field (.inl rfl))
  unfold dataOf
  generalize Entries.get es "data" = v at hdata
  generalize Entries.get es' "data" = v' at hdata
  cases hdata with
  | field hfield =>
    rw [hfield.eq_of_not_mem (by decide +kernel)]
    exact Alike.refl (fun _ _ => .inl rfl) _
  | payload _ hpayload => exact hpayload

/-- Beside the payload only ids may be respelled. -/
theorem get_own (name : Text) (hname : name ≠ "data") :
    RespellsAt nodeIdNames (.text name) (Entries.get es name) (Entries.get es' name) :=
  (h.get name (.field (.inl rfl))).respellsAt hname

theorem get_kept (name : Text) (hname : name ≠ "data")
    (hother : name ∉ nodeIdNames.map Text.ofString) : Entries.get es name = Entries.get es' name :=
  (h.get_own name hname).eq_of_not_mem hother

/-- Within the payload only the group may be. -/
theorem get_payload (name : Text) (hother : name ∉ payloadIdNames.map Text.ofString) :
    (dataOf es).get name = (dataOf es').get name :=
  (h.payload.get name (.inl rfl)).eq_of_not_mem hother

/-- The form is the same. -/
theorem configOf_eq : configOf es (dataOf es) = configOf es' (dataOf es') := by
  have hconfig : (dataOf es).get? "config" = (dataOf es').get? "config" := by
    have hfound := h.payload.get? "config"
    generalize (dataOf es).get? "config" = x at hfound
    generalize (dataOf es').get? "config" = x' at hfound
    cases hfound with
    | none => rfl
    | some hv => rw [hv.eq_of_not_mem (by decide +kernel)]
  unfold configOf
  rw [hconfig, h.get_kept "config" (by decide +kernel) (by decide +kernel)]

/-- The group is the same, unless a zero is met in the search for it. -/
theorem idOf_group (hzero : ¬ MeetsZero es.groupValues es'.groupValues) :
    idOf (firstTruthy es'.groupValues) = idOf (firstTruthy es.groupValues) := by
  refine idOf_firstTruthy ?_ hzero
  refine .cons (h.get_own "parent_id" (by decide +kernel)).respells ?_
  refine .cons (h.get_own "parentId" (by decide +kernel)).respells ?_
  refine .cons (h.get_own "parentNode" (by decide +kernel)).respells ?_
  exact .cons (h.payload.get "parentNode" (.inl rfl)).respells .nil

end Alike

end Entries

/-! ## 5. Readings -/

section Readings

open Entries

variable {es es' : Entries}

/-- **A node is read as before**, unless a zero is met in the search for its group. -/
theorem nodeOfEntries_respelled (h : Alike RespellsNode es es')
    (hzero : ¬ MeetsZero es.groupValues es'.groupValues) :
    nodeOfEntries es' = nodeOfEntries es := by
  have hid : idOf (es'.get "id") = idOf (es.get "id") :=
    (h.get_own "id" (by decide +kernel)).respells.idOf_eq
  have hkind : firstTruthy [(dataOf es).get "nodeType", es.get "kind", es.get "node_type"] =
      firstTruthy [(dataOf es').get "nodeType", es'.get "kind", es'.get "node_type"] := by
    rw [h.get_payload "nodeType" (by decide +kernel),
      h.get_kept "kind" (by decide +kernel) (by decide +kernel),
      h.get_kept "node_type" (by decide +kernel) (by decide +kernel)]
  have hlabel : firstTruthy [(dataOf es).get "label", es.get "label"] =
      firstTruthy [(dataOf es').get "label", es'.get "label"] := by
    rw [h.get_payload "label" (by decide +kernel),
      h.get_kept "label" (by decide +kernel) (by decide +kernel)]
  have hgroup := h.idOf_group hzero
  unfold groupValues at hgroup
  simp only [nodeOfEntries, hid, ← hkind, ← hlabel, ← h.configOf_eq, hgroup]

/-- **Where a zero is met the digit is the group**, if the node can be read. -/
theorem parent_of_meetsZero (hzero : MeetsZero es.groupValues es'.groupValues) {n : Node}
    (hn : nodeOfEntries es' = .ok (.node n)) : n.parentId = some "0" := by
  have hgroup : idOf (firstTruthy es'.groupValues) = .ok (some "0") := by
    rw [hzero.firstTruthy_eq]
    rfl
  unfold groupValues at hgroup
  obtain ⟨id, -, hn⟩ := Result.bind_eq_ok_iff.mp hn
  obtain ⟨config, -, hn⟩ := Result.bind_eq_ok_iff.mp hn
  obtain ⟨parentId, hparent, hn⟩ := Result.bind_eq_ok_iff.mp hn
  obtain rfl : some (Text.ofString "0") = parentId := Except.ok.inj (hgroup.symm.trans hparent)
  cases id with
  | none => cases hn
  | some id =>
    cases hform : readTextMapping (.mapping config) with
    | bad errors => simp [hform, pure, Except.pure] at hn
    | good config =>
      simp only [hform] at hn
      cases hn
      rfl

/-- **An edge is read as before.** -/
theorem edgeOfEntries_respelled (h : Alike (RespellsAt edgeIdNames) es es') :
    edgeOfEntries es' = edgeOfEntries es := by
  have hget (name : Text) : Respells (es.get name) (es'.get name) :=
    (h.get name (.inl rfl)).respells
  have hhandle (name other : Text) : handleOf es' name other = handleOf es name other := by
    unfold handleOf
    refine Respells.idOf_eq ?_
    have hrel := h.get? name
    generalize es.get? name = x at hrel
    generalize es'.get? name = x' at hrel
    cases hrel with
    | none => exact hget other
    | some hv => exact hv.respells
  simp only [edgeOfEntries, (hget "source").idOf_eq, (hget "target").idOf_eq, (hget "id").idOf_eq,
    hhandle]

end Readings

/-! ## 6. Canvases -/

namespace Entry

/-- An entry and what may be handed over in its place: the fields of a mapping may be respelled. -/
inductive Respelled {α : Type} (R : Key → Value → Value → Prop) : Entry α → Entry α → Prop
  | kept (e : Entry α) : Respelled R e e
  | mapping {es es' : Entries} (h : Entries.Alike R es es') :
    Respelled R (.raw (.mapping es)) (.raw (.mapping es'))

/-- A zero is met in the search for the group of a node. -/
def MeetsZero : Entry Node → Entry Node → Prop
  | raw (.mapping es), raw (.mapping es') =>
    WorkflowGate.MeetsZero (Entries.groupValues es) (Entries.groupValues es')
  | _, _ => False

theorem Respelled.readNode_eq {e e' : Entry Node} (h : Respelled RespellsNode e e')
    (hzero : ¬ MeetsZero e e') : e.readNode = e'.readNode := by
  cases h with
  | kept => rfl
  | mapping h => exact (nodeOfEntries_respelled h hzero).symm

theorem Respelled.readEdge_eq {e e' : Entry Edge} (h : Respelled (RespellsAt edgeIdNames) e e') :
    e.readEdge = e'.readEdge := by
  cases h with
  | kept => rfl
  | mapping h => exact (edgeOfEntries_respelled h).symm

end Entry

/-- Lists whose members are read alike, place by place. -/
theorem Result.mapM_eq_of_forall₂ {α β : Type} {f : α → Except Fault β} {xs xs' : List α}
    (h : List.Forall₂ (fun x x' => f x = f x') xs xs') : xs.mapM f = xs'.mapM f := by
  induction h with
  | nil => rfl
  | cons hx _ ih => rw [List.mapM_cons, List.mapM_cons, hx, ih]

namespace Gate

/-- **Integers are interchangeable with their digits.**  Where the places of ids are respelled, in any
number of the nodes and edges, the graph is the same, its indexes and findings included, and so is every
run, in what it reports, asks and logs.  Excepted is a zero that is met in the search for the group of a
node. -/
theorem validate_respelled {nodes nodes' : List (Entry Node)} {edges edges' : List (Entry Edge)}
    (hnodes : List.Forall₂ (fun e e' => Entry.Respelled RespellsNode e e' ∧ ¬ Entry.MeetsZero e e')
      nodes nodes')
    (hedges : List.Forall₂ (Entry.Respelled (RespellsAt edgeIdNames)) edges edges') :
    Snapshot.ofBatches (.entries nodes) (.entries edges) =
        Snapshot.ofBatches (.entries nodes') (.entries edges') ∧
      ∀ (g : Gate) (o : Options) (mayWait : Bool) (t : Transport),
        g.validate o mayWait (.entries nodes) (.entries edges) t =
          g.validate o mayWait (.entries nodes') (.entries edges') t := by
  have hns : nodes.mapM Entry.readNode = nodes'.mapM Entry.readNode :=
    Result.mapM_eq_of_forall₂ (hnodes.imp fun _ _ h => h.1.readNode_eq h.2)
  have hes : edges.mapM Entry.readEdge = edges'.mapM Entry.readEdge :=
    Result.mapM_eq_of_forall₂ (hedges.imp fun _ _ h => h.readEdge_eq)
  have hadapt : Snapshot.adapt (.entries nodes) (.entries edges) =
      Snapshot.adapt (.entries nodes') (.entries edges') := by
    simp only [Snapshot.adapt, Batch.toEntries, Except.bind, hns, hes]
  have hintake : intake (.entries nodes) (.entries edges) =
      intake (.entries nodes') (.entries edges') := by
    unfold intake
    rw [hadapt]
    rfl
  refine ⟨?_, ?_⟩
  · simp only [Snapshot.ofBatches, Batch.toEntries, bind, Except.bind, hns, hes]
  · intro g o mayWait t
    simp only [validate, start, stage, hintake]

/-- A canvas whose ids are all integers: a node is negative, an edge and its handle are zero, and so is
the group in the payload of a node. -/
def numberedCanvas : List Value × List Value :=
  ([.ofFields [("id", .int 1), ("kind", .text "manual_trigger")],
      .ofFields [("id", .int (-2)), ("data", .ofFields [("parentNode", .int 0)])]],
    [.ofFields [("id", .int 0), ("source", .int 1), ("target", .int (-2)),
      ("sourceHandle", .int 0)]])

/-- The same canvas in digits. -/
def spelledCanvas : List Value × List Value :=
  ([.ofFields [("id", .text "1"), ("kind", .text "manual_trigger")],
      .ofFields [("id", .text "-2"), ("data", .ofFields [("parentNode", .text "0")])]],
    [.ofFields [("id", .text "0"), ("source", .text "1"), ("target", .text "-2"),
      ("sourceHandle", .text "0")]])

/-- Both canvases are one graph, and get one report. -/
theorem validate_respelled_numbers : ∃ s report,
    Snapshot.ofBatches (.ofValue (.list numberedCanvas.1)) (.ofValue (.list numberedCanvas.2)) =
        .ok s ∧
      Snapshot.ofBatches (.ofValue (.list spelledCanvas.1)) (.ofValue (.list spelledCanvas.2)) =
        .ok s ∧
      (({} : Gate).validate {} true (.ofValue (.list numberedCanvas.1))
        (.ofValue (.list numberedCanvas.2)) { deliver := fun _ => .silence }).result = .ok report ∧
      (({} : Gate).validate {} true (.ofValue (.list spelledCanvas.1))
        (.ofValue (.list spelledCanvas.2)) { deliver := fun _ => .silence }).result = .ok report := by
  generalize ({ deliver := fun _ => .silence } : Transport) = t
  have hdigits {names : List String} {name : String} {i : Int} {digits : String}
      (hname : name ∈ names) (hlength : (toString i.natAbs).length ≤ writtenDigitLimit)
      (hi : toString i = digits) : RespellsAt names (.text (Text.ofString name)) (.int i)
        (.text (Text.ofString digits)) := by
    subst hi
    exact .inr ⟨⟨name, hname, rfl⟩, .digits hlength⟩
  have hnodes : List.Forall₂ (fun e e' => Entry.Respelled RespellsNode e e' ∧ ¬ Entry.MeetsZero e e')
      (numberedCanvas.1.map .raw) (spelledCanvas.1.map .raw) := by
    -- the zero in the payload is the last value that is looked at, so it is not met
    refine .cons ⟨.mapping ?_, fun h => ?_⟩ (.cons ⟨.mapping ?_, fun h => ?_⟩ .nil)
    · exact .cons ⟨rfl, .field (hdigits (by decide) (by decide) rfl)⟩
        (.cons ⟨rfl, .field (.inl rfl)⟩ .nil)
    · have hmem : Value.int 0 ∈ [Value.null, .null, .null] := h.mem_dropLast
      simp at hmem
    · exact .cons ⟨rfl, .field (hdigits (by decide) (by decide) rfl)⟩ (.cons ⟨rfl, .payload rfl
        (.cons ⟨rfl, hdigits (by decide) (by decide) rfl⟩ .nil)⟩ .nil)
    · have hmem : Value.int 0 ∈ [Value.null, .null, .null] := h.mem_dropLast
      simp at hmem
  have hedges : List.Forall₂ (Entry.Respelled (RespellsAt edgeIdNames))
      (numberedCanvas.2.map (.raw : Value → Entry Edge)) (spelledCanvas.2.map .raw) := by
    refine .cons (.mapping ?_) .nil
    refine .cons ⟨rfl, hdigits (by decide) (by decide) rfl⟩ ?_
    refine .cons ⟨rfl, hdigits (by decide) (by decide) rfl⟩ ?_
    refine .cons ⟨rfl, hdigits (by decide) (by decide) rfl⟩ ?_
    exact .cons ⟨rfl, hdigits (by decide) (by decide) rfl⟩ .nil
  obtain ⟨hgraph, hruns⟩ := validate_respelled hnodes hedges
  have hns : (numberedCanvas.1.map Entry.raw).mapM Entry.readNode = .ok (([⟨"1", "manual_trigger",
      [], none, none⟩, ⟨"-2", "", [], none, some "0"⟩] : List Node).map .node) := rfl
  have hes : (numberedCanvas.2.map Entry.raw).mapM Entry.readEdge =
      .ok (([⟨"0", "1", "-2", some "0", none⟩] : List Edge).map some) := rfl
  obtain ⟨report, hreport⟩ := exists_report_of_blank {} {} rfl rfl Gate.usable_default rfl true
    hns hes (by decide) (by decide +kernel) t
  exact ⟨_, report, rfl, hgraph.symm, hreport,
    (congrArg RunResult.result (hruns {} {} true t)).symm.trans hreport⟩

/-- A zero as the group of a node, and its digit. -/
def zeroGroupCanvas (group : Value) : Batch Node :=
  .ofValue (.list [.ofFields [("id", .text "T"), ("kind", .text "manual_trigger")],
    .ofFields [("id", .text "A"), ("kind", .text "set"), ("parent_id", group)]])

/-- **A zero that is met is no group, its digit is one**: the node is an orphan with the one and none
with the other. -/
theorem zero_group_lost : ∃ s s',
    Snapshot.ofBatches (zeroGroupCanvas (.int 0)) (.entries []) = .ok s ∧
      Snapshot.ofBatches (zeroGroupCanvas (.text (Text.ofInt 0))) (.entries []) = .ok s' ∧
      s.nodeList.map Node.parentId = [none, none] ∧
      s'.nodeList.map Node.parentId = [none, some (Text.ofInt 0)] ∧
      (s.findOrphans.execute (Run.begin .builtin none)).1 = .ok ["A"] ∧
      (s'.findOrphans.execute (Run.begin .builtin none)).1 = .ok [] := by
  refine ⟨_, _, rfl, rfl, ?_, ?_, ?_, ?_⟩
  · decide +kernel
  · decide +kernel
  · rfl
  · rfl

end Gate

end WorkflowGate
