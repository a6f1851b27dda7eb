/-
# Settings files

A place says something in the user's settings only where a file spells a JSON mapping (`Says`); where it
spells something else, or nothing at all, everything keeps its default.  But not every place can be passed
over like this: bytes that are not UTF-8, an integer that is too long and nesting that is too deep are no
errors of JSON's syntax, a name may be too long for any file, and a place may not be looked at.  Whoever
asks for the settings stops there (`Refused`).

The settings can be asked for in two ways, which name the same seven settings and their defaults each for
itself: as the user's own, one at a time and each with a look at the place, or as those of a file, after
one look.  Both come to what the section tells (`Settings.Told`), but the first way reads with less room
than the second, since there is more that waits for the reading.

* `settings_eq_ok_iff`, `refused_of_settings`: what a place says, and why it can stop the program;
* `Settings.ofHome_eq_loaded`, `Settings.ofFile_eq_loaded`: both ways make the same of a reading;
* `settings_of_place`: **a settings file is passed over unless it is refused**;
* `Settings.ofHome_eq_ofFile`: **both ways to the settings agree, unless one of them alone lacks the room
  to read the place**;
* `Settings.ofHome_brackets`: a file for which one does.
-/
import WorkflowGate.Settings
import WorkflowGate.Proofs.Json.Nesting
import WorkflowGate.Proofs.Result
import WorkflowGate.Proofs.Text.Utf8

namespace WorkflowGate

open Result

namespace FileState

/-! ## 1. What a file spells -/

/-- The bytes spell the text, once its line ends are unified. -/
def Spells (bytes : List UInt8) (t : Text) : Prop :=
  ∃ written, Utf8.FileSpells bytes written ∧ t = written.unifyLineEnds

theorem decode_eq_ok_iff {bytes : List UInt8} {t : Text} : decode bytes = .ok t ↔ Spells bytes t := by
  unfold decode Spells
  constructor
  · intro h
    split at h
    next written hwritten =>
      cases h
      exact ⟨written, Utf8.decodeFile_eq_ok_iff.mp hwritten, rfl⟩
    next => cases h
  · rintro ⟨written, hwritten, rfl⟩
    rw [Utf8.decodeFile_eq_ok_iff.mpr hwritten]

/-- What a place says in the user's settings, to a reader with a limit on nesting. -/
inductive Says (limit : Nat) : FileState → Entries → Prop
  | missing : Says limit missing []
  | beneathFile : Says limit beneathFile []
  | directory : Says limit directory []
  | forbidden : Says limit forbidden []
  | mapping {bytes : List UInt8} {t : Text} {es : Entries} :
      Spells bytes t → Json.read limit t = .ok (.mapping es) → Says limit (file bytes) es
  | noMapping {bytes : List UInt8} {t : Text} {v : Value} :
      Spells bytes t → Json.read limit t = .ok v → v.entries? = none → Says limit (file bytes) []
  | noJson {bytes : List UInt8} {t : Text} {reason : Json.SyntaxError} {location : Json.Location} :
      Spells bytes t → Json.read limit t = .error (.malformed reason location) →
        Says limit (file bytes) []

/-- Why a place cannot even be passed over. -/
inductive Refused (limit : Nat) : FileState → Fault → Prop
  | nameTooLong : Refused limit nameTooLong (refusal 36 "File name too long" Text.empty)
  | hidden : Refused limit hidden (refusal 13 "Permission denied" Text.empty)
  | undecodable {bytes : List UInt8} (why : Utf8.Fault) :
      (∀ t, ¬ Spells bytes t) → Refused limit (file bytes) (.undecodable why)
  | integerTooLong {bytes : List UInt8} {t : Text} {count : Nat} :
      Spells bytes t → Numeral.digitLimit < count → Json.HasDigits t.points count →
        Refused limit (file bytes) (.notJson (.integerTooLong count))
  | nestedTooDeep {bytes : List UInt8} {t : Text} :
      Spells bytes t → limit < t.points.countP Json.opensAny →
        Refused limit (file bytes) (.notJson .nestedTooDeep)

/-! ## 2. Reading it -/

variable {limit : Nat}

theorem readJson_of_spells {bytes : List UInt8} {t : Text} (h : Spells bytes t) :
    readJson limit bytes =
      match Json.read limit t with
      | .ok v => .ok v
      | .error f => .error (.notJson f) := by
  rw [readJson, decode_eq_ok_iff.mpr h]
  dsimp only [bind, Except.bind]
  cases Json.read limit t <;> rfl

/-- What spells no text cannot be read. -/
theorem readJson_of_undecodable {bytes : List UInt8} (h : ∀ t, ¬ Spells bytes t) :
    ∃ why, ∀ limit, readJson limit bytes = .error (.undecodable why) := by
  cases hdecode : decode bytes with
  | ok t => exact absurd (decode_eq_ok_iff.mp hdecode) (h t)
  | error f =>
    rw [decode] at hdecode
    split at hdecode
    · cases hdecode
    next why hwhy =>
      refine ⟨why, fun limit => ?_⟩
      rw [readJson, decode, hwhy]
      rfl

/-- What a file that spells a text says depends on how that is read. -/
theorem settings_of_spells {bytes : List UInt8} {t : Text} (h : Spells bytes t) :
    (file bytes).settings limit =
      match Json.read limit t with
      | .ok v => .ok (v.entries?.getD [])
      | .error (.malformed _ _) => .ok []
      | .error f => .error (.notJson f) := by
  rw [settings, readJson_of_spells h]
  cases Json.read limit t with
  | ok v => rfl
  | error f => cases f <;> rfl

/-- What spells no text is not passed over. -/
theorem settings_of_undecodable {bytes : List UInt8} (h : ∀ t, ¬ Spells bytes t) :
    ∃ why, ∀ limit, (file bytes).settings limit = .error (.undecodable why) := by
  obtain ⟨why, hwhy⟩ := readJson_of_undecodable h
  refine ⟨why, fun limit => ?_⟩
  rw [settings, hwhy]

/-- **What a place says in the settings.** -/
theorem settings_eq_ok_iff {f : FileState} {es : Entries} :
    f.settings limit = .ok es ↔ f.Says limit es := by
  constructor
  · intro h
    cases f with
    | missing => cases h; exact .missing
    | beneathFile => cases h; exact .beneathFile
    | nameTooLong => cases h
    | directory => cases h; exact .directory
    | forbidden => cases h; exact .forbidden
    | hidden => cases h
    | file bytes =>
      by_cases hspells : ∃ t, Spells bytes t
      · obtain ⟨t, hspells⟩ := hspells
        rw [settings_of_spells hspells] at h
        split at h
        next v hread =>
          cases h
          cases v with
          | mapping es => exact .mapping hspells hread
          | _ => exact .noMapping hspells hread rfl
        next reason location hread =>
          cases h
          exact .noJson hspells hread
        next => cases h
      · obtain ⟨why, hwhy⟩ := settings_of_undecodable (not_exists.mp hspells)
        cases (hwhy limit).symm.trans h
  · intro h
    cases h with
    | missing => rfl
    | beneathFile => rfl
    | directory => rfl
    | forbidden => rfl
    | mapping hspells hread =>
      rw [settings_of_spells hspells, hread]
      rfl
    | noMapping hspells hread hentries =>
      rw [settings_of_spells hspells, hread]
      exact congrArg (fun es => Except.ok (es.getD [])) hentries
    | noJson hspells hread => rw [settings_of_spells hspells, hread]

/-- **Why a place can stop the program.** -/
theorem refused_of_settings {f : FileState} {fault : Fault} (h : f.settings limit = .error fault) :
    f.Refused limit fault := by
  cases f with
  | missing => cases h
  | beneathFile => cases h
  | nameTooLong => cases h; exact .nameTooLong
  | directory => cases h
  | forbidden => cases h
  | hidden => cases h; exact .hidden
  | file bytes =>
    by_cases hspells : ∃ t, Spells bytes t
    · obtain ⟨t, hspells⟩ := hspells
      rw [settings_of_spells hspells] at h
      split at h
      · cases h
      · cases h
      next f hnot hread =>
        cases h
        obtain ⟨why, rfl, hwhy⟩ := Json.warranted_of_read hread
        cases why with
        | error reason offset => exact absurd rfl (hnot reason _)
        | integerTooLong count => exact .integerTooLong hspells hwhy.1 hwhy.2
        | nestedTooDeep => exact .nestedTooDeep hspells hwhy
    · obtain ⟨why, hwhy⟩ := settings_of_undecodable (not_exists.mp hspells)
      cases (hwhy limit).symm.trans h
      exact .undecodable why (not_exists.mp hspells)

/-- **Readers with different limits hear the same from a place**, unless it is too deep for one of
them. -/
theorem alike_settings (limit limit' : Nat) (f : FileState) :
    AlikeUnless (· = Fault.notJson .nestedTooDeep) (f.settings limit) (f.settings limit') := by
  cases f with
  | file bytes =>
    by_cases hspells : ∃ t, Spells bytes t
    · obtain ⟨t, hspells⟩ := hspells
      rw [settings_of_spells hspells, settings_of_spells hspells]
      rcases Json.alike_read limit limit' t with heq | ⟨_, hdeep, rfl⟩ | ⟨_, hdeep, rfl⟩
      · rw [heq]
        exact .refl _
      · rw [hdeep]
        exact .inr (.inl ⟨_, rfl, rfl⟩)
      · rw [hdeep]
        exact .inr (.inr ⟨_, rfl, rfl⟩)
    · obtain ⟨why, hwhy⟩ := settings_of_undecodable (not_exists.mp hspells)
      rw [hwhy limit, hwhy limit']
      exact .refl _
  | _ => exact .refl _

end FileState

/-! ## 3. The settings -/

namespace Settings

/-- The section on validation in what a place says. -/
def sectionOf (es : Entries) : Entries := (Entries.get es "validation").entries?.getD []

/-- The setting of a name. -/
def get (s : Settings) (name : String) : Value := Entries.get (s.toValue.entries?.getD []) name

/-- **What a section tells.**  A setting that it does not name has its default.  The back end is the one
that the environment names, if it names any. -/
structure Told (environment : Option Text) (section? : Entries) (s : Settings) : Prop where
  named : ∀ name ∈ names, name ≠ "backend_url" →
    s.get name = (Entries.get? section? name).getD (({} : Settings).get name)
  ofEnvironment : ∀ url ∈ environment, url ≠ Text.empty → s.get "backend_url" = .text url
  ofSection : (∀ url ∈ environment, url = Text.empty) →
    s.get "backend_url" = Entries.get section? "backend_url"

/-- The settings of a section, with a back end. -/
def ofSection (section? : Entries) (backendUrl : Value) : Settings where
  maxNodes := (Entries.get? section? "max_nodes").getD (({} : Settings).maxNodes)
  maxLlmNodes := (Entries.get? section? "max_llm_nodes").getD (({} : Settings).maxLlmNodes)
  defaultNodeTimeout :=
    (Entries.get? section? "default_node_timeout").getD (({} : Settings).defaultNodeTimeout)
  maxTotalTimeout := (Entries.get? section? "max_total_timeout").getD (({} : Settings).maxTotalTimeout)
  maxNodeTimeout := (Entries.get? section? "max_node_timeout").getD (({} : Settings).maxNodeTimeout)
  backendUrl := backendUrl
  backendTimeout := (Entries.get? section? "backend_timeout").getD (({} : Settings).backendTimeout)

/-- Every setting but the back end is what the section says, or its default. -/
theorem get_ofSection (section? : Entries) (url : Value) {name : String} (hname : name ∈ names)
    (hne : name ≠ "backend_url") :
    (ofSection section? url).get name =
      (Entries.get? section? name).getD (({} : Settings).get name) := by
  simp only [names, List.mem_cons, List.not_mem_nil, or_false] at hname
  rcases hname with rfl | rfl | rfl | rfl | rfl | rfl | rfl
  case inr.inr.inr.inr.inr.inl => exact absurd rfl hne
  all_goals
    simp [get, ofSection, toValue, Value.ofFields, Value.entries?, Entries.get, Entries.get?,
      OrderedMap.lookup]

theorem get_backendUrl (s : Settings) : s.get "backend_url" = s.backendUrl := by
  simp [get, toValue, Value.ofFields, Value.entries?, Entries.get, Entries.get?, OrderedMap.lookup]

theorem told_ofSection {environment : Option Text} {section? : Entries} {url : Value}
    (h : backendUrlOf environment (.ok section?) = .ok url) :
    (ofSection section? url).Told environment section? := by
  refine ⟨fun name => get_ofSection section? url, ?_, ?_⟩
  · rintro named rfl hne
    have hnamed : named.isEmpty = false :=
      Bool.eq_false_iff.mpr fun hempty => hne ((Text.isEmpty_iff named).mp hempty)
    rw [backendUrl_of_environment hnamed] at h
    rw [get_backendUrl]
    exact (Except.ok.inj h).symm
  · intro hunnamed
    rw [get_backendUrl]
    cases environment with
    | none => exact (Except.ok.inj h).symm
    | some named =>
      rw [backendUrlOf, if_pos ((Text.isEmpty_iff named).mpr (hunnamed named rfl))] at h
      exact (Except.ok.inj h).symm

theorem succeeds_backendUrlOf (environment : Option Text) (es : Entries) :
    Succeeds (backendUrlOf environment (.ok es)) := by
  cases environment with
  | none => exact succeeds_ok _
  | some url =>
    rw [backendUrlOf]
    split <;> exact succeeds_ok _

/-! ## 4. Two ways to the settings -/

/-- What is made of a reading: the settings of the section in it. -/
def loaded (environment : Option Text) (reading : Except Fault Entries) : Except Fault Settings :=
  reading >>= fun es => ofSection (sectionOf es) <$> backendUrlOf environment (.ok (sectionOf es))

/-- What a place says makes settings, as its section tells them. -/
theorem exists_loaded (environment : Option Text) (es : Entries) :
    ∃ s, loaded environment (.ok es) = .ok s ∧ s.Told environment (sectionOf es) := by
  obtain ⟨url, hurl⟩ := succeeds_backendUrlOf environment (sectionOf es)
  exact ⟨_, map_eq_ok_iff.mpr ⟨url, hurl, rfl⟩, told_ofSection hurl⟩

/-- A fault is that of the reading. -/
theorem loaded_eq_error_iff (environment : Option Text) {reading : Except Fault Entries}
    {fault : Fault} : loaded environment reading = .error fault ↔ reading = .error fault := by
  cases reading with
  | error other =>
    show Except.error other = Except.error fault ↔ _
    rw [Except.error.injEq, Except.error.injEq]
  | ok es =>
    obtain ⟨s, hs, -⟩ := exists_loaded environment es
    rw [hs]
    exact iff_of_false nofun nofun

/-- **The user's own settings are what is made of the reading of the place that holds them**, although
every setting has one of its own. -/
theorem ofHome_eq_loaded [Room] (environment : Option Text) (place : FileState) :
    ofHome environment place = loaded environment (place.settings Room.home) := by
  rw [ofHome, ofGiven, FileState.validationSection]
  cases place.settings Room.home with
  | error fault => rfl
  | ok es =>
    obtain ⟨url, hurl⟩ := succeeds_backendUrlOf environment (sectionOf es)
    have hloaded : loaded environment (.ok es) = .ok (ofSection (sectionOf es) url) :=
      map_eq_ok_iff.mpr ⟨url, hurl, rfl⟩
    rw [hloaded]
    rw [sectionOf] at hurl
    simp only [Functor.map, Except.map, bind, Except.bind, hurl, choose, Entries.get?, OrderedMap.lookup]
    rfl

/-- **The settings of a file are what is made of its reading.** -/
theorem ofFile_eq_loaded [Room] (environment : Option Text) (place : FileState) :
    ofFile environment place = loaded environment (place.settings Room.file) := by
  rw [ofFile, FileState.validationSection]
  cases place.settings Room.file with
  | error fault => rfl
  | ok es =>
    obtain ⟨url, hurl⟩ := succeeds_backendUrlOf environment (sectionOf es)
    have hloaded : loaded environment (.ok es) = .ok (ofSection (sectionOf es) url) :=
      map_eq_ok_iff.mpr ⟨url, hurl, rfl⟩
    rw [hloaded]
    rw [sectionOf] at hurl
    simp only [Functor.map, Except.map, bind, Except.bind, hurl]
    rfl

/-- Readings of which different things are made are different. -/
theorem loaded_eq_iff_of_alike (environment : Option Text) {x y : Except Fault Entries} {fault : Fault}
    (h : AlikeUnless (· = fault) x y) :
    loaded environment x = loaded environment y ↔ (x = .error fault ↔ y = .error fault) := by
  constructor
  · intro heq
    rw [← loaded_eq_error_iff environment, heq, loaded_eq_error_iff environment]
  · intro hboth
    rcases h with rfl | ⟨_, hx, rfl⟩ | ⟨_, hy, rfl⟩
    · rfl
    · rw [hx, hboth.mp hx]
    · rw [hy, hboth.mpr hy]

/-- What is made of a place is what the section of the place tells, or the reason for which the place is
refused. -/
theorem loaded_cases (environment : Option Text) (limit : Nat) (place : FileState) :
    (∃ es s, place.Says limit es ∧ loaded environment (place.settings limit) = .ok s ∧
        s.Told environment (sectionOf es)) ∨
      ∃ fault, place.Refused limit fault ∧
        loaded environment (place.settings limit) = .error fault := by
  cases hsettings : place.settings limit with
  | ok es =>
    obtain ⟨s, hs, htold⟩ := exists_loaded environment es
    exact .inl ⟨es, s, FileState.settings_eq_ok_iff.mp hsettings, hs, htold⟩
  | error fault =>
    exact .inr ⟨fault, FileState.refused_of_settings hsettings,
      (loaded_eq_error_iff environment).mpr rfl⟩

end Settings

namespace FileState

/-! ## 5. Which places stop the program -/

/-- A file that spells a text within the reader's limits says something, JSON or not. -/
theorem exists_says_of_withinLimits {limit : Nat} {bytes : List UInt8} {t : Text} (h : Spells bytes t)
    (hlimits : Json.WithinLimits limit t) : ∃ es, (file bytes).Says limit es := by
  rcases hlimits.read_cases with ⟨v, hread⟩ | ⟨reason, location, hread⟩
  · cases v with
    | mapping es => exact ⟨es, .mapping h hread⟩
    | _ => exact ⟨[], .noMapping h hread rfl⟩
  · exact ⟨[], .noJson h hread⟩

/-- **A settings file is passed over unless it is refused.**  What is found is what the place says.  What
stops the program is a name that is too long, a place that may not be looked at, bytes that are not UTF-8,
or a text beyond the limits of the reader; it stops the user's settings and those of a file, each as it is
read there, and nothing else does.  Any other file says something. -/
theorem settings_of_place [Room] (place : FileState) :
    (∀ limit es, place.settings limit = .ok es ↔ place.Says limit es) ∧
      (∀ limit fault, place.settings limit = .error fault → place.Refused limit fault) ∧
      (∀ environment fault,
        (Settings.ofHome environment place = .error fault ↔
            place.settings Room.home = .error fault) ∧
          (Settings.ofFile environment place = .error fault ↔
            place.settings Room.file = .error fault)) ∧
      ∀ limit bytes t, place = file bytes → Spells bytes t → Json.WithinLimits limit t →
        ∃ es, place.Says limit es := by
  refine ⟨fun limit es => settings_eq_ok_iff, fun limit fault => refused_of_settings,
    fun environment fault => ⟨?_, ?_⟩, ?_⟩
  · rw [Settings.ofHome_eq_loaded, Settings.loaded_eq_error_iff]
  · rw [Settings.ofFile_eq_loaded, Settings.loaded_eq_error_iff]
  · rintro limit bytes t rfl hspells hlimits
    exact exists_says_of_withinLimits hspells hlimits

/-- A file of a single byte that begins no sequence is not passed over: whoever asks for settings stops. -/
theorem settings_of_strayByte :
    ¬ Succeeds ((file [0xFF]).settings Room.file) ∧ ¬ Succeeds (Settings.ofHome none (file [0xFF])) ∧
      ¬ Succeeds (Settings.ofFile none (file [0xFF])) := by
  have hnone {α : Type} {x : Except Fault α} (h : x.toOption.isSome = false) : ¬ Succeeds x := by
    rintro ⟨a, rfl⟩
    cases h
  exact ⟨hnone (by decide +kernel), hnone (by decide +kernel), hnone (by decide +kernel)⟩

end FileState

namespace Settings

/-! ## 6. Both ways compared -/

/-- **The user's own settings and those of a file agree unless one of the two ways alone lacks the room to
read the place**, whatever stands there and whatever the environment names.  Each comes to what the
section of the place tells it, or stops for the reason for which the place is refused to it. -/
theorem ofHome_eq_ofFile [Room] (environment : Option Text) (place : FileState) :
    (ofHome environment place = ofFile environment place ↔
      (place.settings Room.home = .error (.notJson .nestedTooDeep) ↔
        place.settings Room.file = .error (.notJson .nestedTooDeep))) ∧
    ((∃ es s, place.Says Room.home es ∧ ofHome environment place = .ok s ∧
        s.Told environment (sectionOf es)) ∨
      ∃ fault, place.Refused Room.home fault ∧ ofHome environment place = .error fault) ∧
    ((∃ es s, place.Says Room.file es ∧ ofFile environment place = .ok s ∧
        s.Told environment (sectionOf es)) ∨
      ∃ fault, place.Refused Room.file fault ∧ ofFile environment place = .error fault) := by
  rw [ofHome_eq_loaded, ofFile_eq_loaded]
  exact ⟨loaded_eq_iff_of_alike environment (place.alike_settings Room.home Room.file),
    loaded_cases environment Room.home place, loaded_cases environment Room.file place⟩

/-- A file of nothing but brackets. -/
def bracketFile (n : Nat) : FileState := .file ((Json.brackets n).points.flatMap Utf8.encodePoint)

theorem spells_brackets {n : Nat} (hn : 0 < n) :
    FileState.Spells ((Json.brackets n).points.flatMap Utf8.encodePoint) (Json.brackets n) := by
  have hpoint : ∀ p ∈ (Json.brackets n).points, p = CodePoint.ofChar '[' ∨ p = CodePoint.ofChar ']' :=
    fun p hp => (List.mem_append.mp hp).imp List.eq_of_mem_replicate List.eq_of_mem_replicate
  have hsurrogate : (Json.brackets n).hasSurrogate = false := by
    refine List.any_eq_false.mpr fun p hp => ?_
    rcases hpoint p hp with rfl | rfl <;> decide
  refine ⟨Json.brackets n, .plain (if_neg (by rw [hsurrogate]; exact Bool.false_ne_true)) ?_, ?_⟩
  · -- the first byte is that of a bracket, and not of a byte order mark
    obtain ⟨m, rfl⟩ := Nat.exists_eq_add_one.mpr hn
    exact fun hmark => absurd (List.cons_prefix_cons.mp hmark).1 (by decide)
  · refine (Text.unifyLineEnds_eq_self fun p hp => ?_).symm
    rcases hpoint p hp with rfl | rfl <;> decide

/-- Brackets say nothing, unless there are too many of them. -/
theorem settings_bracketFile {n : Nat} (hn : 0 < n) (limit : Nat) :
    (bracketFile n).settings limit =
      if n ≤ limit then .ok [] else .error (.notJson .nestedTooDeep) := by
  obtain ⟨hread, hdeep⟩ := Json.read_brackets hn limit
  rw [bracketFile, FileState.settings_of_spells (spells_brackets hn)]
  by_cases hle : n ≤ limit
  · obtain ⟨items, hitems⟩ := hread hle
    rw [hitems, if_pos hle]
    rfl
  · rw [hdeep (Nat.lt_of_not_le hle), if_neg hle]

/-- **The two ways part on a file that is too deep for one of them**: the user's own settings stop at it,
and as a file at a given place it is passed over. -/
theorem ofHome_brackets :
    ofHome none (bracketFile 990) = .error (.notJson .nestedTooDeep) ∧
      ofFile none (bracketFile 990) = .ok {} := by
  rw [ofHome_eq_loaded, ofFile_eq_loaded, settings_bracketFile (by decide),
    settings_bracketFile (by decide), if_neg (by decide), if_pos (by decide)]
  exact ⟨rfl, rfl⟩

end Settings

end WorkflowGate
