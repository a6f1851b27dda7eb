/-
# Computations that yield a value or a fault

Most functions of the library yield a value or stop with a fault, and put others together in
sequence.  `Succeeds` says that there is a value; what is put together succeeds when its parts do.

* `bind_eq_ok_iff`: a sequence yields what its second part yields from the value of the first;
* `succeeds_mapM_iff`: going through a list succeeds exactly when every member does;
* `exists_mapM_of_perm`, `perm_flatten_mapM`: going through it in another order yields the same in that
  order.
-/
import WorkflowGate.Fault

namespace WorkflowGate
namespace Result

variable {α β : Type}

/-- The computation yields a value. -/
def Succeeds (x : Except Fault α) : Prop := ∃ a, x = .ok a

@[simp] theorem succeeds_ok (a : α) : Succeeds (.ok a) := ⟨a, rfl⟩

@[simp] theorem succeeds_pure (a : α) : Succeeds (pure a) := ⟨a, rfl⟩

@[simp] theorem not_succeeds_error (f : Fault) : ¬ Succeeds (.error f : Except Fault α) := by
  rintro ⟨a, h⟩
  cases h

/-- What is left of a computation without its fault is its value. -/
theorem eq_ok_of_toOption {x : Except Fault α} {a : α} (h : x.toOption = some a) : x = .ok a := by
  cases x with
  | ok b => exact congrArg Except.ok (Option.some.inj h)
  | error f => cases h

/-- A sequence yields what its second part yields from the value of the first. -/
theorem bind_eq_ok_iff {x : Except Fault α} {k : α → Except Fault β} {b : β} :
    x >>= k = .ok b ↔ ∃ a, x = .ok a ∧ k a = .ok b := by
  cases x with
  | ok a => exact ⟨fun h => ⟨a, rfl, h⟩, fun ⟨a', ha, h⟩ => by cases ha; exact h⟩
  | error f => exact ⟨fun h => (by cases h), fun ⟨a', ha, _⟩ => by cases ha⟩

theorem bind_eq_error_iff {x : Except Fault α} {k : α → Except Fault β} {f : Fault} :
    x >>= k = .error f ↔ x = .error f ∨ ∃ a, x = .ok a ∧ k a = .error f := by
  cases x with
  | ok a =>
    refine ⟨fun h => .inr ⟨a, rfl, h⟩, ?_⟩
    rintro (h | ⟨_, ⟨⟩, h⟩)
    · cases h
    · exact h
  | error e =>
    refine ⟨fun h => .inl (congrArg _ (Except.error.inj h)), ?_⟩
    rintro (h | ⟨_, h, _⟩)
    · exact congrArg _ (Except.error.inj h)
    · cases h

theorem succeeds_bind_iff {x : Except Fault α} {k : α → Except Fault β} :
    Succeeds (x >>= k) ↔ ∃ a, x = .ok a ∧ Succeeds (k a) := by
  constructor
  · rintro ⟨b, h⟩
    obtain ⟨a, ha, hk⟩ := bind_eq_ok_iff.mp h
    exact ⟨a, ha, b, hk⟩
  · rintro ⟨a, ha, b, hk⟩
    exact ⟨b, bind_eq_ok_iff.mpr ⟨a, ha, hk⟩⟩

@[simp] theorem succeeds_map_iff {x : Except Fault α} {f : α → β} :
    Succeeds (f <$> x) ↔ Succeeds x := by
  cases x with
  | ok a => exact ⟨fun _ => succeeds_ok a, fun _ => succeeds_ok (f a)⟩
  | error e => exact ⟨fun h => absurd h (not_succeeds_error e), fun h => absurd h (not_succeeds_error e)⟩

/-- A second part that succeeds under a condition, whatever the first part yields. -/
theorem succeeds_bind_iff_and {x : Except Fault α} {k : α → Except Fault β} {p : Prop}
    (h : ∀ a, Succeeds (k a) ↔ p) : Succeeds (x >>= k) ↔ Succeeds x ∧ p := by
  rw [succeeds_bind_iff]
  constructor
  · rintro ⟨a, ha, hk⟩
    exact ⟨⟨a, ha⟩, (h a).mp hk⟩
  · rintro ⟨⟨a, ha⟩, hp⟩
    exact ⟨a, ha, (h a).mpr hp⟩

/-- A second part that always succeeds. -/
theorem succeeds_bind_iff_left {x : Except Fault α} {k : α → Except Fault β}
    (h : ∀ a, Succeeds (k a)) : Succeeds (x >>= k) ↔ Succeeds x := by
  rw [succeeds_bind_iff_and fun a => iff_of_true (h a) trivial, and_true]

/-- A first part that always succeeds. -/
theorem succeeds_bind_iff_right {x : Except Fault α} {k : α → Except Fault β} {p : Prop}
    (hx : Succeeds x) (h : ∀ a, Succeeds (k a) ↔ p) : Succeeds (x >>= k) ↔ p := by
  rw [succeeds_bind_iff_and h, and_iff_right hx]

/-- **Going through a list succeeds exactly when every member does.** -/
theorem succeeds_mapM_iff {f : α → Except Fault β} {xs : List α} :
    Succeeds (xs.mapM f) ↔ ∀ x ∈ xs, Succeeds (f x) := by
  induction xs with
  | nil => simp [List.mapM_nil]
  | cons x rest ih =>
    rw [List.mapM_cons, succeeds_bind_iff]
    constructor
    · rintro ⟨b, hb, h⟩ y hy
      obtain ⟨bs, hbs, -⟩ := succeeds_bind_iff.mp h
      rcases List.mem_cons.mp hy with rfl | hy
      · exact ⟨b, hb⟩
      · exact ih.mp ⟨bs, hbs⟩ y hy
    · intro h
      obtain ⟨b, hb⟩ := h x List.mem_cons_self
      obtain ⟨bs, hbs⟩ := ih.mpr fun y hy => h y (List.mem_cons_of_mem _ hy)
      exact ⟨b, hb, succeeds_bind_iff.mpr ⟨bs, hbs, succeeds_pure _⟩⟩

/-- Going through a list yields one value for each member. -/
theorem length_of_mapM {f : α → Except Fault β} {xs : List α} {bs : List β}
    (h : xs.mapM f = .ok bs) : bs.length = xs.length := by
  induction xs generalizing bs with
  | nil =>
    cases h
    rfl
  | cons x rest ih =>
    rw [List.mapM_cons] at h
    obtain ⟨b, -, h⟩ := bind_eq_ok_iff.mp h
    obtain ⟨rest', hrest, h⟩ := bind_eq_ok_iff.mp h
    cases h
    rw [List.length_cons, List.length_cons, ih hrest]

/-- What going through a list yields comes from its members. -/
theorem exists_of_mem_mapM {f : α → Except Fault β} {xs : List α} {bs : List β}
    (h : xs.mapM f = .ok bs) {b : β} (hb : b ∈ bs) : ∃ x ∈ xs, f x = .ok b := by
  induction xs generalizing bs with
  | nil =>
    cases h
    exact absurd hb List.not_mem_nil
  | cons x rest ih =>
    rw [List.mapM_cons] at h
    obtain ⟨first, hfirst, h⟩ := bind_eq_ok_iff.mp h
    obtain ⟨others, hothers, h⟩ := bind_eq_ok_iff.mp h
    cases h
    rcases List.mem_cons.mp hb with rfl | hb
    · exact ⟨x, List.mem_cons_self, hfirst⟩
    · obtain ⟨y, hy, hfy⟩ := ih hothers hb
      exact ⟨y, List.mem_cons_of_mem _ hy, hfy⟩

/-- Functions that are alike on the members of a list. -/
theorem mapM_congr {f f' : α → Except Fault β} {xs : List α} (h : ∀ x ∈ xs, f x = f' x) :
    xs.mapM f = xs.mapM f' := by
  induction xs with
  | nil => rfl
  | cons x rest ih =>
    rw [List.mapM_cons, List.mapM_cons, h x List.mem_cons_self,
      ih fun y hy => h y (List.mem_cons_of_mem _ hy)]

/-- What going through a list yields, told apart at the first member. -/
theorem mapM_cons_eq_ok_map {γ : Type} {f : α → Except Fault β} {g : γ → β} {x : α} {xs : List α}
    {cs : List γ} (h : (x :: xs).mapM f = .ok (cs.map g)) :
    ∃ c rest, cs = c :: rest ∧ f x = .ok (g c) ∧ xs.mapM f = .ok (rest.map g) := by
  rw [List.mapM_cons] at h
  obtain ⟨b, hb, h⟩ := bind_eq_ok_iff.mp h
  obtain ⟨bs, hbs, h⟩ := bind_eq_ok_iff.mp h
  obtain ⟨c, rest, rfl, rfl, rfl⟩ := List.map_eq_cons_iff.mp (Except.ok.inj h).symm
  exact ⟨c, rest, rfl, hb, hbs⟩

/-- Going through a list all of whose members yield. -/
theorem mapM_eq_ok {f : α → Except Fault β} {value : α → β} {xs : List α}
    (h : ∀ x ∈ xs, f x = .ok (value x)) : xs.mapM f = .ok (xs.map value) := by
  induction xs with
  | nil => rfl
  | cons x rest ih =>
    rw [List.mapM_cons, h x List.mem_cons_self, ih fun y hy => h y (List.mem_cons_of_mem _ hy)]
    rfl

/-- Going through a list whose members yield or end with one and the same fault, when not all of them
yield. -/
theorem mapM_eq_error {f : α → Except Fault β} {fault : Fault} {xs : List α}
    (h : ∀ x ∈ xs, Succeeds (f x) ∨ f x = .error fault) (hnot : ¬ ∀ x ∈ xs, Succeeds (f x)) :
    xs.mapM f = .error fault := by
  induction xs with
  | nil => exact absurd (List.forall_mem_nil _) hnot
  | cons x rest ih =>
    rw [List.mapM_cons]
    rcases h x List.mem_cons_self with ⟨b, hb⟩ | hfault
    · have hrest : ¬ ∀ y ∈ rest, Succeeds (f y) := fun hall =>
        hnot (List.forall_mem_cons.mpr ⟨⟨b, hb⟩, hall⟩)
      rw [hb, ih (fun y hy => h y (List.mem_cons_of_mem _ hy)) hrest]
      rfl
    · rw [hfault]
      rfl

/-- Going through a list ends with the fault of one of its members. -/
theorem exists_of_mapM_eq_error {f : α → Except Fault β} {fault : Fault} {xs : List α}
    (h : xs.mapM f = .error fault) : ∃ x ∈ xs, f x = .error fault := by
  induction xs with
  | nil => cases h
  | cons x rest ih =>
    rw [List.mapM_cons] at h
    cases hx : f x with
    | error fault' =>
      rw [hx] at h
      cases h
      exact ⟨x, List.mem_cons_self, hx⟩
    | ok b =>
      cases hrest : rest.mapM f with
      | error fault' =>
        rw [hx, hrest] at h
        cases h
        obtain ⟨y, hy, hfy⟩ := ih hrest
        exact ⟨y, List.mem_cons_of_mem _ hy, hfy⟩
      | ok bs =>
        rw [hx, hrest] at h
        cases h

theorem map_eq_ok_iff {x : Except Fault α} {f : α → β} {b : β} :
    f <$> x = .ok b ↔ ∃ a, x = .ok a ∧ f a = b := by
  cases x with
  | ok a => exact ⟨fun h => ⟨a, rfl, Except.ok.inj h⟩, fun ⟨_, ha, hb⟩ => by cases ha; exact congrArg _ hb⟩
  | error e => exact ⟨fun h => (nomatch h), fun ⟨_, ha, _⟩ => (nomatch ha)⟩

/-- What the members of a list yield, put together, comes from its members. -/
theorem exists_of_mem_flatten_mapM {f : α → Except Fault (List β)} {xs : List α} {all : List β}
    (h : List.flatten <$> xs.mapM f = .ok all) {b : β} (hb : b ∈ all) :
    ∃ x ∈ xs, ∃ part, f x = .ok part ∧ b ∈ part := by
  obtain ⟨parts, hparts, rfl⟩ := map_eq_ok_iff.mp h
  obtain ⟨part, hpart, hb⟩ := List.mem_flatten.mp hb
  obtain ⟨x, hx, hfx⟩ := exists_of_mem_mapM hparts hpart
  exact ⟨x, hx, part, hfx, hb⟩

/-- What the members of a list yield, put together, is what they yield. -/
theorem mem_flatten_mapM_iff {f : α → Except Fault (List β)} {xs : List α} {all : List β}
    (h : List.flatten <$> xs.mapM f = .ok all) {b : β} :
    b ∈ all ↔ ∃ x ∈ xs, ∃ part, f x = .ok part ∧ b ∈ part := by
  refine ⟨exists_of_mem_flatten_mapM h, ?_⟩
  rintro ⟨x, hx, part, hpart, hb⟩
  obtain ⟨parts, hparts, rfl⟩ := map_eq_ok_iff.mp h
  refine List.mem_flatten.mpr ⟨part, ?_, hb⟩
  clear h
  induction xs generalizing parts with
  | nil => cases hx
  | cons y rest ih =>
    rw [List.mapM_cons] at hparts
    obtain ⟨first, hfirst, hparts⟩ := bind_eq_ok_iff.mp hparts
    obtain ⟨others, hothers, hparts⟩ := bind_eq_ok_iff.mp hparts
    cases hparts
    rcases List.mem_cons.mp hx with rfl | hx
    · rw [Except.ok.inj (hpart.symm.trans hfirst)]
      exact List.mem_cons_self
    · exact List.mem_cons_of_mem _ (ih hx _ hothers)

/-- What the members of a list yield, put together, is one list after the other. -/
theorem exists_eq_flatMap_of_flatten_mapM {f : α → Except Fault (List β)} {xs : List α}
    {all : List β} (h : List.flatten <$> xs.mapM f = .ok all) :
    ∃ value : α → List β, (∀ x ∈ xs, f x = .ok (value x)) ∧ all = xs.flatMap value := by
  obtain ⟨parts, hparts, rfl⟩ := map_eq_ok_iff.mp h
  have hvalue : ∀ x ∈ xs, f x = .ok ((f x).toOption.getD []) := by
    intro x hx
    obtain ⟨part, hpart⟩ := succeeds_mapM_iff.mp ⟨parts, hparts⟩ x hx
    rw [hpart]
    rfl
  refine ⟨_, hvalue, ?_⟩
  rw [mapM_eq_ok hvalue] at hparts
  rw [← Except.ok.inj hparts, List.flatMap_def]

/-- Where it is said what each member yields under a test, so is what the list does, put together. -/
theorem filter_flatten_mapM {f : α → Except Fault (List β)} {test : β → Bool} {value : α → List β}
    {xs : List α} {all : List β} (h : List.flatten <$> xs.mapM f = .ok all)
    (hvalue : ∀ x part, f x = .ok part → part.filter test = value x) :
    all.filter test = xs.flatMap value := by
  obtain ⟨parts, hparts, rfl⟩ := map_eq_ok_iff.mp h
  clear h
  induction xs generalizing parts with
  | nil =>
    cases hparts
    rfl
  | cons x rest ih =>
    rw [List.mapM_cons] at hparts
    obtain ⟨first, hfirst, hparts⟩ := bind_eq_ok_iff.mp hparts
    obtain ⟨others, hothers, hparts⟩ := bind_eq_ok_iff.mp hparts
    cases hparts
    rw [List.flatten_cons, List.filter_append, List.flatMap_cons, hvalue x first hfirst,
      ih others hothers]

/-- **Going through the members in another order yields the same values in that order.** -/
theorem exists_mapM_of_perm {γ : Type} {f : α → Except Fault β} {g : γ → β} {xs ys : List α}
    (hperm : xs.Perm ys) {cs : List γ} (h : xs.mapM f = .ok (cs.map g)) :
    ∃ ds, ys.mapM f = .ok (ds.map g) ∧ cs.Perm ds := by
  induction hperm generalizing cs with
  | nil => exact ⟨cs, h, .refl cs⟩
  | @cons x xs ys _ ih =>
    obtain ⟨c, rest, rfl, hx, hxs⟩ := mapM_cons_eq_ok_map h
    obtain ⟨ds, hys, hrest⟩ := ih hxs
    refine ⟨c :: ds, ?_, hrest.cons c⟩
    rw [List.mapM_cons, hx, hys]
    rfl
  | swap x y xs =>
    obtain ⟨c, rest, rfl, hy, h⟩ := mapM_cons_eq_ok_map h
    obtain ⟨d, rest, rfl, hx, hxs⟩ := mapM_cons_eq_ok_map h
    refine ⟨d :: c :: rest, ?_, .swap d c rest⟩
    rw [List.mapM_cons, List.mapM_cons, hx, hy, hxs]
    rfl
  | trans _ _ ih ih' =>
    obtain ⟨ds, hys, hcs⟩ := ih h
    obtain ⟨es, hzs, hds⟩ := ih' hys
    exact ⟨es, hzs, hcs.trans hds⟩

/-- What the members of a list yield, put together, is the same up to order when they stand in another
order. -/
theorem perm_flatten_mapM {f f' : α → Except Fault (List β)} {xs ys : List α} {all all' : List β}
    (hperm : xs.Perm ys) (hsame : ∀ x ∈ xs, f x = f' x)
    (h : List.flatten <$> xs.mapM f = .ok all) (h' : List.flatten <$> ys.mapM f' = .ok all') :
    all.Perm all' := by
  obtain ⟨parts, hparts, rfl⟩ := map_eq_ok_iff.mp h
  obtain ⟨parts', hparts', rfl⟩ := map_eq_ok_iff.mp h'
  rw [mapM_congr hsame, ← List.map_id parts] at hparts
  obtain ⟨others, hothers, hpartsPerm⟩ := exists_mapM_of_perm hperm hparts
  rw [List.map_id] at hothers
  rw [hothers] at hparts'
  cases hparts'
  exact hpartsPerm.flatten

/-- Gathering from a list succeeds exactly when there is something to gather from every member. -/
theorem succeeds_foldlM_iff {γ : Type} {f : α → Except Fault β} {g : γ → β → γ} {xs : List α}
    {c : γ} : Succeeds (xs.foldlM (fun c x => do return g c (← f x)) c) ↔ ∀ x ∈ xs, Succeeds (f x) := by
  induction xs generalizing c with
  | nil => simp
  | cons x rest ih =>
    rw [List.foldlM_cons, bind_assoc, List.forall_mem_cons]
    refine succeeds_bind_iff_and fun b => ?_
    rw [pure_bind]
    exact ih

/-- What the start has and every step gives, the result of gathering has. -/
theorem foldlM_ok {γ : Type} {P : γ → Prop} {f : α → Except Fault β} {g : γ → β → γ}
    (hstep : ∀ c b, P (g c b)) {xs : List α} {c c' : γ} (hstart : P c)
    (h : xs.foldlM (fun c x => do return g c (← f x)) c = .ok c') : P c' := by
  induction xs generalizing c with
  | nil =>
    cases h
    exact hstart
  | cons x rest ih =>
    rw [List.foldlM_cons, bind_assoc] at h
    obtain ⟨b, -, hrest⟩ := bind_eq_ok_iff.mp h
    rw [pure_bind] at hrest
    exact ih (hstep c b) hrest

/-- Sorting out by a test that always yields. -/
theorem filterM_eq_ok {test : α → Except Fault Bool} {keep : α → Bool} {xs : List α}
    (h : ∀ x ∈ xs, test x = .ok (keep x)) : xs.filterM test = .ok (xs.filter keep) := by
  -- the loop collects the members in reverse order in front of those it begins with
  have hloop : ∀ (xs acc : List α), (∀ x ∈ xs, test x = .ok (keep x)) →
      xs.filterAuxM test acc = .ok ((xs.filter keep).reverse ++ acc) := by
    intro xs
    induction xs with
    | nil => exact fun acc _ => rfl
    | cons x rest ih =>
      intro acc h
      have hrest := ih (cond (keep x) (x :: acc) acc) fun y hy => h y (List.mem_cons_of_mem _ hy)
      rw [List.filterAuxM, h x List.mem_cons_self]
      refine Eq.trans hrest ?_
      cases hkeep : keep x <;> simp [hkeep]
  rw [List.filterM, hloop xs [] h, List.append_nil]
  exact congrArg Except.ok (List.reverse_reverse _)

end Result
end WorkflowGate
