import FolderTalk.Proofs.Session.Reload

/-!
# Loading from any drawer

Each part of a state is read from a document of its own. A document that is not there, is not JSON
data or does not fit leaves its part as it is in the initial state. But there are documents on which
reading itself stops, and these stop the loading of all the parts.

* `Drawer.Jams` : what stops the loading: a numeral that is too long, a nesting that is too deep and
  an infinite height of the panel;
* `Drawer.Tells` : what the document of a key says about its part of a state;
* `load_anyDrawer` : loading takes from each document what it says, if none of them stops it;
  otherwise it leaves the state as it was. In no case does it write anything.
-/

namespace FolderTalk

/-- The document of a key stops the loading. -/
inductive Drawer.Jams (d : Drawer) : StateKey → Fault → Prop
  | digits {key : StateKey} {s : String} {n : Nat} (hdoc : d.get? key.name = some (.text s))
      (h : Json.read s = .error (.tooManyDigits n)) : Jams d key (.tooManyDigits n)
  | depth {key : StateKey} {s : String} {c : Json.Container}
      (hdoc : d.get? key.name = some (.text s)) (h : Json.read s = .error (.tooDeep c)) :
      Jams d key (.nestedTooDeep c)
  | height {negative : Bool} (h : d.Holds .chatHeight (.float (.infinite negative))) :
      Jams d .chatHeight .infiniteHeight

/-- Two states have the same part under a key. -/
def SessionState.AgreeAt : StateKey → SessionState → SessionState → Prop
  | .files, s, t => s.store.files = t.store.files
  | .folders, s, t => s.store.folders = t.store.folders
  | .messages, s, t => s.messages = t.messages
  | .history, s, t => s.history = t.history
  | .chatHeight, s, t => s.chatHeight = t.chatHeight
  | .selectedFolder, s, t => s.selected = t.selected

/-- The state with the newest trees of its history. -/
def SessionState.trimmed (s : SessionState) (limit : Nat) : SessionState :=
  { s with history := newest limit s.history }

/-- What the document of a key says about that part of a state: it is the part that the document's
data is turned into, and the initial one if there is no data that can be. -/
def Drawer.Tells (d : Drawer) (limit : Nat) (key : StateKey) (s : SessionState) : Prop :=
  (∃ v t, d.Holds key v ∧ Gives key v t ∧ s.AgreeAt key (t.trimmed limit)) ∨
    ((∀ v, d.Holds key v → ¬ Usable key v) ∧ s.AgreeAt key .initial)

/-! ## Parts of states -/

namespace SessionState

variable {key : StateKey} {s t u : SessionState}

theorem AgreeAt.symm (h : s.AgreeAt key t) : t.AgreeAt key s := by
  cases key <;> exact Eq.symm h

theorem AgreeAt.trans (h : s.AgreeAt key t) (h' : t.AgreeAt key u) : s.AgreeAt key u := by
  cases key <;> exact Eq.trans h h'

/-- The keys are those of all parts: states that have every part in common are one. -/
theorem eq_of_agreeAt (h : ∀ key, s.AgreeAt key t) : s = t := by
  obtain ⟨⟨files, folders⟩, messages, history, chatHeight, selected⟩ := s
  obtain ⟨⟨_, _⟩, _, _, _, _⟩ := t
  obtain rfl : files = _ := h .files
  obtain rfl : folders = _ := h .folders
  obtain rfl : messages = _ := h .messages
  obtain rfl : history = _ := h .history
  obtain rfl : chatHeight = _ := h .chatHeight
  obtain rfl : selected = _ := h .selectedFolder
  rfl

theorem AgreeAt.trimmed (h : s.AgreeAt key t) (limit : Nat) :
    (s.trimmed limit).AgreeAt key (t.trimmed limit) := by
  cases key with
  | history => exact congrArg (newest limit) h
  | _ => exact h

end SessionState

/-- Data is turned into one part only. -/
theorem Gives.agreeAt {key : StateKey} {v : Value} {s t : SessionState} (hs : Gives key v s)
    (ht : Gives key v t) : s.AgreeAt key t := by
  cases key with
  | chatHeight =>
    obtain ⟨m, hm, hms⟩ := hs
    obtain ⟨n, hn, hnt⟩ := ht
    obtain rfl := Except.ok.inj (hm.symm.trans hn)
    exact hms.symm.trans hnt
  | _ => exact Except.ok.inj (Eq.trans (Eq.symm hs) ht)

namespace Drawer

variable {d d' : Drawer} {key : StateKey} {v v' : Value} {limit : Nat} {s s' : SessionState}

theorem Holds.unique (h : d.Holds key v) (h' : d.Holds key v') : v = v' := by
  obtain ⟨doc, hdoc, hv⟩ := h
  obtain ⟨doc', hdoc', hv'⟩ := h'
  obtain rfl := Option.some.inj (hdoc.symm.trans hdoc')
  exact Except.ok.inj (hv.symm.trans hv')

/-- Two drawers with one document of a key say the same about its part. -/
theorem Tells.agreeAt (h : d.Tells limit key s) (h' : d'.Tells limit key s')
    (hdoc : d.get? key.name = d'.get? key.name) : s.AgreeAt key s' := by
  have hholds : ∀ v, d'.Holds key v ↔ d.Holds key v := fun v => holds_congr hdoc.symm
  rcases h with ⟨v, t, hv, ht, hs⟩ | ⟨hnone, hs⟩
  · rcases h' with ⟨v', t', hv', ht', hs'⟩ | ⟨hnone, _⟩
    · obtain rfl := hv.unique ((hholds v').mp hv')
      exact hs.trans ((ht.agreeAt ht').trimmed limit |>.trans hs'.symm)
    · exact absurd ⟨t, ht⟩ (hnone v ((hholds v).mpr hv))
  · rcases h' with ⟨v', t', hv', ht', _⟩ | ⟨_, hs'⟩
    · exact absurd ⟨t', ht'⟩ (hnone v' ((hholds v').mp hv'))
    · exact hs.trans hs'.symm

end Drawer

/-! ## Single readings -/

section Reading
variable {α : Type} {d : Drawer} {key : StateKey} {convert : Value → Except Misfit α}

theorem Reading.part?_eq_some_iff {a : α} :
    (Reading.of d key convert).part? = some a ↔ ∃ v, d.Holds key v ∧ convert v = .ok a := by
  constructor
  · intro h
    unfold Reading.of at h
    repeat' split at h
    all_goals cases h
    exact ⟨_, ⟨_, ‹_›, ‹_›⟩, ‹_›⟩
  · rintro ⟨v, hv, ha⟩
    rw [Reading.of_holds hv ha]
    rfl

/-- A state whose part under the key, seen as `field`, is the one that was read, or the initial one
if none was, has what the document says. -/
theorem Reading.tells {β : Type} {limit : Nat} {s : SessionState} (state : α → SessionState)
    (field : SessionState → β) (hagree : ∀ s t, s.AgreeAt key t ↔ field s = field t)
    (hgives : ∀ v a, convert v = .ok a → Gives key v (state a))
    (hconverts : ∀ v t, Gives key v t → ∃ a, convert v = .ok a)
    (hs : field s = ((Reading.of d key convert).part?.map
      fun a => field ((state a).trimmed limit)).getD (field .initial)) :
    d.Tells limit key s := by
  cases hpart : (Reading.of d key convert).part? with
  | some a =>
    obtain ⟨v, hv, ha⟩ := Reading.part?_eq_some_iff.mp hpart
    refine .inl ⟨v, state a, hv, hgives v a ha, (hagree _ _).mpr ?_⟩
    rw [hs, hpart]
    rfl
  | none =>
    refine .inr ⟨?_, (hagree _ _).mpr ?_⟩
    · rintro v hv ⟨t, ht⟩
      obtain ⟨a, ha⟩ := hconverts v t ht
      rw [Reading.part?_eq_some_iff.mpr ⟨v, hv, ha⟩] at hpart
      cases hpart
    · rw [hs, hpart]
      rfl

theorem Reading.fault?_eq_some_iff {f : Fault} :
    (Reading.of d key convert).fault? = some f ↔
      (∃ doc, d.get? key.name = some doc ∧ doc.value = .error (.fault f)) ∨
        ∃ v, d.Holds key v ∧ convert v = .error (.fault f) := by
  unfold Reading.of Drawer.Holds
  cases d.get? key.name with
  | none => simp [Reading.fault?]
  | some doc =>
    cases hvalue : doc.value with
    | error e => cases e <;> simp [Reading.fault?, hvalue]
    | ok v =>
      cases hconvert : convert v with
      | ok a => simp [Reading.fault?, hvalue, hconvert]
      | error e => cases e <;> simp [Reading.fault?, hvalue, hconvert]

end Reading

theorem Document.value_eq_fault_iff {doc : Document} {f : Fault} :
    doc.value = .error (.fault f) ↔ ∃ s, doc = .text s ∧
      ((∃ n, Json.read s = .error (.tooManyDigits n) ∧ f = .tooManyDigits n) ∨
        ∃ c, Json.read s = .error (.tooDeep c) ∧ f = .nestedTooDeep c) := by
  cases doc with
  | undecodable bytes => simp [Document.value]
  | text s =>
    unfold Document.value
    dsimp only
    cases hread : Json.read s with
    | ok v => simp [hread]
    | error e => cases e <;> simp [hread, eq_comm]

theorem listPart_ne_fault {α : Type} (check : Value → Schema.Checked α) (v : Value) (f : Fault) :
    listPart check v ≠ .error (.fault f) := by
  unfold listPart
  split <;> simp

theorem selectionPart_ne_fault (v : Value) (f : Fault) : selectionPart v ≠ .error (.fault f) := by
  unfold selectionPart
  split <;> simp

theorem heightPart_eq_fault_iff {v : Value} {f : Fault} :
    heightPart v = .error (.fault f) ↔
      (∃ negative, v = .float (.infinite negative)) ∧ f = .infiniteHeight := by
  constructor
  · intro h
    unfold heightPart at h
    repeat' split at h
    all_goals cases h
    exact ⟨⟨_, rfl⟩, rfl⟩
  · rintro ⟨⟨negative, rfl⟩, rfl⟩
    rfl

namespace Readings

/-- The fault that the reading of a key met. -/
def fault? (r : Readings) : StateKey → Option Fault
  | .files => r.files.fault?
  | .folders => r.folders.fault?
  | .messages => r.messages.fault?
  | .history => r.history.fault?
  | .chatHeight => r.chatHeight.fault?
  | .selectedFolder => r.selected.fault?

/-- **Reading meets a fault** exactly at a document that stops the loading. -/
theorem fault?_ofDrawer {d : Drawer} {key : StateKey} {f : Fault} :
    (ofDrawer d).fault? key = some f ↔ d.Jams key f := by
  have hdocument : (∃ doc, d.get? key.name = some doc ∧ doc.value = .error (.fault f)) →
      d.Jams key f := by
    rintro ⟨doc, hdoc, hvalue⟩
    obtain ⟨s, rfl, ⟨n, hread, rfl⟩ | ⟨c, hread, rfl⟩⟩ := Document.value_eq_fault_iff.mp hvalue
    · exact .digits hdoc hread
    · exact .depth hdoc hread
  -- Only the height can be data that is read and then meets a fault.
  have hpart : ∀ {α : Type} (convert : Value → Except Misfit α),
      (∀ v, convert v = .error (.fault f) → d.Holds key v → d.Jams key f) →
      (Reading.of d key convert).fault? = some f → d.Jams key f := by
    intro α convert hconvert h
    rcases Reading.fault?_eq_some_iff.mp h with h | ⟨v, hv, hfault⟩
    · exact hdocument h
    · exact hconvert v hfault hv
  constructor
  · intro h
    cases key with
    | chatHeight =>
      refine hpart heightPart (fun v hfault hv => ?_) h
      obtain ⟨⟨negative, rfl⟩, rfl⟩ := heightPart_eq_fault_iff.mp hfault
      exact .height hv
    | selectedFolder =>
      exact hpart _ (fun v hfault _ => absurd hfault (selectionPart_ne_fault v f)) h
    | _ => exact hpart _ (fun v hfault _ => absurd hfault (listPart_ne_fault _ v f)) h
  · intro h
    have hread : ∀ {α : Type} (convert : Value → Except Misfit α) (s : String),
        d.get? key.name = some (.text s) → (Document.text s).value = .error (.fault f) →
        (Reading.of d key convert).fault? = some f :=
      fun convert s hdoc hvalue => Reading.fault?_eq_some_iff.mpr (.inl ⟨_, hdoc, hvalue⟩)
    cases h with
    | @digits _ s n hdoc h =>
      have hvalue : (Document.text s).value = .error (.fault (.tooManyDigits n)) :=
        Document.value_eq_fault_iff.mpr ⟨s, rfl, .inl ⟨n, h, rfl⟩⟩
      cases key <;> exact hread _ s hdoc hvalue
    | @depth _ s c hdoc h =>
      have hvalue : (Document.text s).value = .error (.fault (.nestedTooDeep c)) :=
        Document.value_eq_fault_iff.mpr ⟨s, rfl, .inr ⟨c, h, rfl⟩⟩
      cases key <;> exact hread _ s hdoc hvalue
    | height h => exact Reading.fault?_eq_some_iff.mpr (.inr ⟨_, h, rfl⟩)

/-- The state that the readings make up is what each of the documents says. -/
theorem tells_state (d : Drawer) (limit : Nat) (key : StateKey) :
    d.Tells limit key ((ofDrawer d).state.trimmed limit) := by
  cases key with
  | files =>
    exact Reading.tells (fun files => { store := { files := files } }) (·.store.files)
      (fun _ _ => Iff.rfl) (fun _ _ h => h) (fun _ _ h => ⟨_, h⟩) (Option.getD_map id _ _).symm
  | folders =>
    exact Reading.tells (fun folders => { store := { folders := folders } }) (·.store.folders)
      (fun _ _ => Iff.rfl) (fun _ _ h => h) (fun _ _ h => ⟨_, h⟩) (Option.getD_map id _ _).symm
  | messages =>
    exact Reading.tells (fun messages => { messages := messages }) (·.messages)
      (fun _ _ => Iff.rfl) (fun _ _ h => h) (fun _ _ h => ⟨_, h⟩) (Option.getD_map id _ _).symm
  | history =>
    have hnil : newest limit ([] : List Store) = [] := List.drop_nil
    refine Reading.tells (fun history => { history := history }) (·.history)
      (fun _ _ => Iff.rfl) (fun _ _ h => h) (fun _ _ h => ⟨_, h⟩) ?_
    have hmap := Option.getD_map (newest limit) [] (ofDrawer d).history.part?
    rw [hnil] at hmap
    exact hmap.symm
  | chatHeight =>
    exact Reading.tells (fun height => { chatHeight := Panel.clamp height }) (·.chatHeight)
      (fun _ _ => Iff.rfl) (fun _ height h => ⟨height, h, rfl⟩) (fun _ _ ⟨n, h, _⟩ => ⟨n, h⟩) rfl
  | selectedFolder =>
    exact Reading.tells (fun selected => { selected := selected }) (·.selected)
      (fun _ _ => Iff.rfl) (fun _ _ h => h) (fun _ _ h => ⟨_, h⟩) (Option.getD_map id _ _).symm

end Readings

namespace Workbench

variable {w w' : Workbench}

/-! ## What loading changes -/

/-- Taking note of readings changes what is believed to be stored and the log. -/
theorem noteAll_frame (w : Workbench) (ts : List Trace) :
    ∃ stored log, (w.noteAll ts).1 =
      { w with session := { w.session with stored := stored }, log := log } := by
  induction ts generalizing w with
  | nil => exact ⟨_, _, rfl⟩
  | cons t ts ih =>
    rw [noteAll]
    split
    · exact ⟨_, _, rfl⟩
    · obtain ⟨stored, log, hrest⟩ := ih (w.note t)
      rw [hrest, note_eq]
      exact ⟨_, _, rfl⟩

theorem noteAll_stored_eq {v w : Workbench} (hstored : v.session.stored = w.session.stored)
    (ts : List Trace) : (v.noteAll ts).1.session.stored = (w.noteAll ts).1.session.stored := by
  induction ts generalizing v w with
  | nil => exact hstored
  | cons t ts ih =>
    rw [noteAll, noteAll]
    cases t.fault with
    | some f => exact hstored
    | none =>
      refine ih ?_
      rw [note_eq, note_eq, hstored]

/-- The first fault among the readings ends the taking note. -/
theorem noteAll_fault (w : Workbench) (ts : List Trace) :
    (w.noteAll ts).2 = ts.findSome? Trace.fault := by
  induction ts generalizing w with
  | nil => rfl
  | cons t ts ih =>
    rw [noteAll, List.findSome?_cons]
    cases t.fault with
    | some f => rfl
    | none => exact ih (w.note t)

theorem load_fault (w : Workbench) :
    w.load.2 = StateKey.all.findSome? (Readings.ofDrawer w.drawer).fault? := by
  have hnoted := w.noteAll_fault (Readings.ofDrawer w.drawer).traces
  have hkeys : (Readings.ofDrawer w.drawer).traces.findSome? Trace.fault =
      StateKey.all.findSome? (Readings.ofDrawer w.drawer).fault? := rfl
  unfold load
  dsimp only
  rcases h : w.noteAll (Readings.ofDrawer w.drawer).traces with ⟨w₁, _ | f⟩ <;>
  · rw [h] at hnoted
    exact hnoted.trans hkeys

/-- A loading that ends well takes on the state that the documents say. -/
theorem load_frame (h : w.load = (w', none)) :
    ∃ stored log, w' =
      { w with
        session :=
          { w.session.withState (Readings.ofDrawer w.drawer).state with
            loaded := true, stored := stored }
        log := log } := by
  obtain ⟨stored, log, hnoted⟩ := w.noteAll_frame (Readings.ofDrawer w.drawer).traces
  unfold load at h
  dsimp only at h
  split at h
  · cases h
  · next w₁ heq =>
    obtain rfl : w₁ = _ := (congrArg Prod.fst heq).symm.trans hnoted
    cases h
    exact ⟨_, _, rfl⟩

/-- A loading that is stopped leaves the session as it was, but for what it believes to be
stored. -/
theorem load_frame_of_fault {f : Fault} (h : w.load = (w', some f)) :
    ∃ stored log, w' =
      { w with session := { w.session with stored := stored }, log := log } := by
  obtain ⟨stored, log, hnoted⟩ := w.noteAll_frame (Readings.ofDrawer w.drawer).traces
  unfold load at h
  dsimp only at h
  split at h
  · next w₁ g heq =>
    obtain rfl : w₁ = _ := (congrArg Prod.fst heq).symm.trans hnoted
    cases h
    exact ⟨_, _, rfl⟩
  · cases h

theorem load_drawer (w : Workbench) : w.load.1.drawer = w.drawer := by
  rcases h : w.load with ⟨w', _ | f⟩
  · obtain ⟨stored, log, rfl⟩ := load_frame h
    rfl
  · obtain ⟨stored, log, rfl⟩ := load_frame_of_fault h
    rfl

/-- What a loaded session believes to be stored depends on what it believed before and on the
drawer. -/
theorem load_stored_eq {v w : Workbench} (hstored : v.session.stored = w.session.stored)
    (hdrawer : v.drawer = w.drawer) : v.load.1.session.stored = w.load.1.session.stored := by
  have hload : ∀ u : Workbench, u.load.1.session.stored =
      (u.noteAll (Readings.ofDrawer u.drawer).traces).1.session.stored := by
    intro u
    unfold load
    dsimp only
    rcases u.noteAll (Readings.ofDrawer u.drawer).traces with ⟨u', _ | f⟩ <;> rfl
  rw [hload, hload, hdrawer]
  exact noteAll_stored_eq hstored _

theorem load_tells (h : w.load = (w', none)) (key : StateKey) :
    w.drawer.Tells w.session.desk.history.limit key w'.session.state := by
  obtain ⟨stored, log, rfl⟩ := load_frame h
  exact Readings.tells_state w.drawer _ key

/-- Loading ends well exactly if no document stops it. -/
theorem load_eq_none_iff : w.load.2 = none ↔ ∀ key f, ¬ w.drawer.Jams key f := by
  rw [load_fault, List.findSome?_eq_none_iff]
  constructor
  · intro h key f hjams
    have hnone := h key key.mem_all
    rw [Readings.fault?_ofDrawer.mpr hjams] at hnone
    cases hnone
  · intro h key _
    cases hfault : (Readings.ofDrawer w.drawer).fault? key with
    | none => rfl
    | some f => exact absurd (Readings.fault?_ofDrawer.mp hfault) (h key f)

/-- A document that stops the loading ends it, unless another one has done so before. -/
theorem load_of_jams {key : StateKey} {f : Fault} (h : w.drawer.Jams key f) :
    ∃ before first after g, StateKey.all = before ++ first :: after ∧ w.drawer.Jams first g ∧
      (∀ k ∈ before, ∀ g, ¬ w.drawer.Jams k g) ∧ w.load = (w.load.1, some g) := by
  cases hload : w.load.2 with
  | none => exact absurd h (load_eq_none_iff.mp hload key f)
  | some g =>
    have hfault := hload
    rw [load_fault, List.findSome?_eq_some_iff] at hfault
    obtain ⟨before, first, after, hall, hfirst, hbefore⟩ := hfault
    refine ⟨before, first, after, g, hall, Readings.fault?_ofDrawer.mp hfirst, ?_,
      Prod.ext rfl hload⟩
    intro k hk g hjams
    have hnone := hbefore k hk
    rw [Readings.fault?_ofDrawer.mpr hjams] at hnone
    cases hnone

/-! ## Any drawer -/

/-- **Loading from any drawer**, into any session. It writes nothing. If no document stops it, then
it ends well, and each part of the state is what the document of its key says: the part that the
document's data is turned into, or the initial one; so a part is the same in two sessions with room
for the same number of trees whenever they have the same document of its key, whatever else they
have. If a document does stop it, then it ends with the fault of the first that does, and the state
is as it was. -/
theorem load_anyDrawer (w : Workbench) :
    w.load.1.drawer = w.drawer ∧
    ((∀ key f, ¬ w.drawer.Jams key f) →
      w.load.2 = none ∧
      (∀ key, w.drawer.Tells w.session.desk.history.limit key w.load.1.session.state) ∧
      ∀ v : Workbench, (∀ key f, ¬ v.drawer.Jams key f) →
        v.session.desk.history.limit = w.session.desk.history.limit →
        ∀ key, v.drawer.get? key.name = w.drawer.get? key.name →
          v.load.1.session.state.AgreeAt key w.load.1.session.state) ∧
    ∀ key f, w.drawer.Jams key f →
      w.load.1.session.state = w.session.state ∧
      ∃ before first after g, StateKey.all = before ++ first :: after ∧ w.drawer.Jams first g ∧
        (∀ k ∈ before, ∀ g, ¬ w.drawer.Jams k g) ∧ w.load.2 = some g := by
  refine ⟨w.load_drawer, fun hno => ?_, fun key f hjams => ?_⟩
  · have hload : w.load = (w.load.1, none) := Prod.ext rfl (load_eq_none_iff.mpr hno)
    refine ⟨congrArg Prod.snd hload, load_tells hload, ?_⟩
    intro v hnov hlimit key hdoc
    have hloadv : v.load = (v.load.1, none) := Prod.ext rfl (load_eq_none_iff.mpr hnov)
    have htells := load_tells hloadv key
    rw [hlimit] at htells
    exact htells.agreeAt (load_tells hload key) hdoc
  · obtain ⟨before, first, after, g, hall, hfirst, hbefore, hload⟩ := load_of_jams hjams
    refine ⟨?_, before, first, after, g, hall, hfirst, hbefore, congrArg Prod.snd hload⟩
    obtain ⟨stored, log, hframe⟩ := load_frame_of_fault hload
    rw [hframe]
    rfl

/-- Documents that are no JSON data, no text or do not fit, beside others that are read; the folders
are the same beside other documents; and a height beyond the range of numbers. -/
theorem load_anyDrawer_damaged :
    let folders : String × Document := ("folders", .text "[\x7b\"id\": \"x\", \"name\": \"X\"\x7d]")
    let w : Workbench :=
      { untouched with
        drawer := ⟨[("files", .text "\x7bbroken"), folders, ("messages", .undecodable [255]),
          ("history", .text "[1]"), ("chat_height", .text "-1e308")]⟩ }
    let v : Workbench := { untouched with drawer := ⟨[("files", .text "[]"), folders]⟩ }
    let u : Workbench := { untouched with drawer := ⟨[("chat_height", .text "1e400"), folders]⟩ }
    (∀ key f, ¬ w.drawer.Jams key f) ∧ (∀ key f, ¬ v.drawer.Jams key f) ∧
      w.load.2 = none ∧ (∀ key, w.drawer.Tells 20 key w.load.1.session.state) ∧
      v.load.1.session.state.AgreeAt .folders w.load.1.session.state ∧
      u.drawer.Jams .chatHeight .infiniteHeight ∧ u.load.1.session.state = u.session.state := by
  intro folders w v u
  have hw : ∀ key f, ¬ w.drawer.Jams key f := load_eq_none_iff.mp (by decide +kernel)
  have hv : ∀ key f, ¬ v.drawer.Jams key f := load_eq_none_iff.mp (by decide +kernel)
  have hu : u.drawer.Jams .chatHeight .infiniteHeight :=
    Readings.fault?_ofDrawer.mp (by decide +kernel)
  obtain ⟨hload, htells, hsame⟩ := (load_anyDrawer w).2.1 hw
  exact ⟨hw, hv, hload, htells, hsame v hv rfl .folders rfl, hu,
    ((load_anyDrawer u).2.2 _ _ hu).1⟩

/-- A height beyond the range of numbers stops the loading, and the files, whose document can be
read, are not taken from it. -/
theorem load_infinite_height :
    let w : Workbench :=
      { untouched with drawer := ⟨[("chat_height", .text "1e400"), ("files", .text "[]")]⟩ }
    Session.start { responseDelayMs := 0 } "work" = .ok w.session ∧
      w.drawer.Holds .files (.list []) ∧ w.load.2 = some .infiniteHeight ∧
      w.load.1.session.state.store.files = Store.seedFiles := by
  intro w
  refine ⟨start_untouched, ⟨_, rfl, by rfl⟩, ?_⟩
  decide +kernel

end Workbench

end FolderTalk
