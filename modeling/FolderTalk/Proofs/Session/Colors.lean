import FolderTalk.Proofs.Engine.Colors
import FolderTalk.Proofs.Session.Filing
import FolderTalk.Proofs.Session.Legible
import FolderTalk.Proofs.Session.Twins

/-!
# Sessions that differ in colours alone

Colours are stored in the records that lookups, snapshots and the comparison before a save work on, so
two sessions that draw other colours write other documents, and may even differ in whether a part is
written. But nothing else of them differs.

* `DocumentsAlike` : the documents of a key are the same, or they hold parts of states that are the same
  but for the colours;
* `Recolored` : two workbenches that differ in colours alone;
* `Recolored.submitWith` : they answer a submitted text alike and go on to differ in colours alone;
* `submitEach_uncolored` : so it is with every session, from any drawer and over any texts.
-/

namespace FolderTalk

/-- The state without colours. -/
def SessionState.uncolored (s : SessionState) : SessionState :=
  { s with store := s.store.uncolored, history := s.history.map Store.uncolored }

namespace StateKey

/-- The parts that have colours in them. -/
def HasColors (key : StateKey) : Prop := key = .folders ∨ key = .history

instance : DecidablePred HasColors := fun _ => inferInstanceAs (Decidable (_ ∨ _))

end StateKey

/-- Values of a key that are the same as parts of states that differ in colours alone. -/
def ValuesAlike (key : StateKey) (x y : Value) : Prop :=
  ∃ s t : SessionState, x.same (s.part key) ∧ y.same (t.part key) ∧ s.uncolored = t.uncolored

section Parts
variable {s t : SessionState} {key : StateKey}

theorem part_eq_of_uncolored (h : s.uncolored = t.uncolored) (hkey : ¬ key.HasColors) :
    s.part key = t.part key := by
  have hfield : ∀ {α : Type} (f : SessionState → α), f s.uncolored = f t.uncolored :=
    fun f => congrArg f h
  cases key with
  | files =>
    have hfiles := hfield (·.store.files)
    exact congrArg (fun files => Value.list (files.map FileEntry.toValue)) hfiles
  | folders => exact absurd (.inl rfl) hkey
  | messages =>
    have hmessages := hfield (·.messages)
    exact congrArg (fun messages => Value.list (messages.map Message.toValue)) hmessages
  | history => exact absurd (.inr rfl) hkey
  | chatHeight => exact congrArg Value.int (hfield (·.chatHeight))
  | selectedFolder => exact congrArg Value.ofOptionalText (hfield (·.selected))

theorem fits_uncolored (s : SessionState) (key : StateKey) : s.uncolored.Fits key ↔ s.Fits key := by
  cases key with
  | history => exact List.forall_mem_map
  | _ => exact Iff.rfl

theorem fits_iff_of_uncolored (h : s.uncolored = t.uncolored) (key : StateKey) :
    s.Fits key ↔ t.Fits key := by
  rw [← fits_uncolored s, ← fits_uncolored t, h]

end Parts

namespace Workbench

variable {v w : Workbench} {key : StateKey}

/-- What is believed to be stored under the key, and what is stored there, differs in colours
alone. -/
def FiledAlike (key : StateKey) (v w : Workbench) : Prop :=
  (v.session.stored key = w.session.stored key ∧ v.drawer.get? key.name = w.drawer.get? key.name) ∨
    (key.HasColors ∧ ∃ x y, v.session.stored key = some x ∧ w.session.stored key = some y ∧
      ValuesAlike key x y)

theorem FiledAlike.of_eq {v' w' : Workbench} (h : FiledAlike key v w)
    (hv : v'.session.stored key = v.session.stored key ∧
      v'.drawer.get? key.name = v.drawer.get? key.name)
    (hw : w'.session.stored key = w.session.stored key ∧
      w'.drawer.get? key.name = w.drawer.get? key.name) : FiledAlike key v' w' := by
  unfold FiledAlike
  rw [hv.1, hv.2, hw.1, hw.2]
  exact h

/-- The workbenches differ in colours alone. -/
structure Recolored (v w : Workbench) : Prop where
  delay : v.session.delay = w.session.delay
  desk : v.session.desk.uncolored = w.session.desk.uncolored
  messages : v.session.messages = w.session.messages
  chatHeight : v.session.chatHeight = w.session.chatHeight
  busy : v.session.busy = w.session.busy
  loaded : v.session.loaded = w.session.loaded
  /-- As long as nothing has been loaded, nothing has been written either. -/
  unloaded : v.session.loaded = false →
    v.session.stored = w.session.stored ∧ v.drawer = w.drawer
  filed : ∀ key, FiledAlike key v w
  linked : v.Linked ∧ w.Linked
  sources : v.sources.uncolored = w.sources.uncolored
  chooses : v.sources.AlwaysChoose v.session.palette ∧ w.sources.AlwaysChoose w.session.palette
  interpret : (∀ text store, v.interpret text store = some (Command.recognise text store)) ∧
    ∀ text store, w.interpret text store = some (Command.recognise text store)

namespace Recolored

theorem state (h : Recolored v w) : v.session.state.uncolored = w.session.state.uncolored := by
  have hfield : ∀ {α : Type} (f : Desk → α), f v.session.desk.uncolored = f w.session.desk.uncolored :=
    fun f => congrArg f h.desk
  simp only [SessionState.uncolored, Session.state, SessionState.mk.injEq]
  exact ⟨hfield (·.store), h.messages, hfield (·.history.snapshots), h.chatHeight, hfield (·.selected)⟩

theorem marked (h : Recolored v w) (busy : Bool) :
    Recolored (v.change ({ · with busy := busy })) (w.change ({ · with busy := busy })) :=
  { h with
    busy := rfl
    linked := ⟨h.linked.1.of_eq rfl rfl, h.linked.2.of_eq rfl rfl⟩ }

theorem logged (h : Recolored v w) (log log' : List Event) :
    Recolored { v with log := log } { w with log := log' } :=
  { h with linked := ⟨h.linked.1.of_eq rfl rfl, h.linked.2.of_eq rfl rfl⟩ }

/-! ## Saving -/

theorem refiled (h : Recolored v w) (hloaded : v.session.loaded = true)
    {stored stored' : StateKey → Option Value} {drawer drawer' : Drawer}
    (hfiled : ∀ key, FiledAlike key (v.refiled stored drawer) (w.refiled stored' drawer'))
    (hlinked : (v.refiled stored drawer).Linked ∧ (w.refiled stored' drawer').Linked) :
    Recolored (v.refiled stored drawer) (w.refiled stored' drawer') :=
  { h with
    unloaded := fun hno => absurd (hno.symm.trans hloaded) Bool.false_ne_true
    filed := hfiled
    linked := hlinked }

/-- A part without colours is written in both or in neither, and with the same text. -/
theorem saveKey_plain (h : Recolored v w) (hkey : ¬ key.HasColors) :
    (v.saveKey key).2 = (w.saveKey key).2 ∧ FiledAlike key (v.saveKey key).1 (w.saveKey key).1 := by
  obtain ⟨hstored, hdocument⟩ := (h.filed key).resolve_right fun hcolored => hkey hcolored.1
  unfold Workbench.saveKey
  dsimp only
  rw [part_eq_of_uncolored h.state hkey, hstored]
  split
  · exact ⟨rfl, .inl ⟨hstored, hdocument⟩⟩
  · unfold Drawer.save
    cases Document.ofValue (w.session.state.part key) with
    | error f => exact ⟨rfl, .inl ⟨hstored, hdocument⟩⟩
    | ok doc =>
      refine ⟨rfl, .inl ⟨?_, ?_⟩⟩
      · exact Session.stored_remember_self.trans Session.stored_remember_self.symm
      · exact (Drawer.get?_put_self ..).trans (Drawer.get?_put_self ..).symm

/-- A part with colours may be written in one and be saved already in the other, but either way the
values that are stored then differ in colours alone. -/
theorem saveKey_colored (h : Recolored v w) (hkey : key.HasColors) :
    (v.saveKey key).2 = (w.saveKey key).2 ∧ FiledAlike key (v.saveKey key).1 (w.saveKey key).1 := by
  have hheight : key ≠ .chatHeight := by
    rintro rfl
    exact absurd hkey (by decide)
  have hv : v.Saved key ∨ v.session.state.Fits key ↔ v.session.state.Fits key :=
    or_iff_right_of_imp fun hsaved => h.linked.1.fits_of_saved hsaved hheight
  have hw : w.Saved key ∨ w.session.state.Fits key ↔ w.session.state.Fits key :=
    or_iff_right_of_imp fun hsaved => h.linked.2.fits_of_saved hsaved hheight
  have hvended := v.saveKey_ended key
  have hwended := w.saveKey_ended key
  rw [hv, fits_iff_of_uncolored h.state key, ← hw] at hvended
  rcases hvsave : v.saveKey key with ⟨v', fault⟩
  rcases hwsave : w.saveKey key with ⟨w', fault'⟩
  rw [hvsave] at hvended
  rw [hwsave] at hwended
  dsimp only at hvended hwended ⊢
  rcases hvended with ⟨hsavable, rfl⟩ | ⟨hno, rfl⟩
  · obtain ⟨_, rfl⟩ := hwended.resolve_right fun hfault => hfault.1 hsavable
    obtain ⟨x, hx, hxsame⟩ := saveKey_saved hvsave
    obtain ⟨y, hy, hysame⟩ := saveKey_saved hwsave
    refine ⟨rfl, .inr ⟨hkey, x, y, hx, hy, v'.session.state, w'.session.state, hxsame, hysame, ?_⟩⟩
    obtain ⟨stored, drawer, hvframe⟩ := saveKey_frame v key
    obtain ⟨stored', drawer', hwframe⟩ := saveKey_frame w key
    rw [hvsave] at hvframe
    rw [hwsave] at hwframe
    rw [show v' = _ from hvframe, show w' = _ from hwframe]
    exact h.state
  · obtain ⟨_, rfl⟩ := hwended.resolve_left fun hok => hno hok.1
    rw [saveKey_eq_of_fault hvsave, saveKey_eq_of_fault hwsave]
    exact ⟨rfl, h.filed key⟩

theorem saveKey (h : Recolored v w) (hloaded : v.session.loaded = true) (key : StateKey) :
    Together Recolored (v.saveKey key) (w.saveKey key) := by
  have hkey : (v.saveKey key).2 = (w.saveKey key).2 ∧
      FiledAlike key (v.saveKey key).1 (w.saveKey key).1 := by
    by_cases hcolors : key.HasColors
    · exact h.saveKey_colored hcolors
    · exact h.saveKey_plain hcolors
  refine ⟨hkey.1, ?_⟩
  have hfiled : ∀ k, FiledAlike k (v.saveKey key).1 (w.saveKey key).1 := by
    intro k
    by_cases hk : k = key
    · exact hk ▸ hkey.2
    · exact (h.filed k).of_eq (saveKey_elsewhere v hk) (saveKey_elsewhere w hk)
  have hlinked : (v.saveKey key).1.Linked ∧ (w.saveKey key).1.Linked :=
    ⟨saveKey_keeps_linked h.linked.1 key, saveKey_keeps_linked h.linked.2 key⟩
  obtain ⟨stored, drawer, hv⟩ := saveKey_frame v key
  obtain ⟨stored', drawer', hw⟩ := saveKey_frame w key
  rw [hv, hw] at hfiled hlinked ⊢
  exact h.refiled hloaded hfiled hlinked

theorem saveKeys (h : Recolored v w) (hloaded : v.session.loaded = true) (keys : List StateKey) :
    Together Recolored (v.saveKeys keys) (w.saveKeys keys) := by
  -- A save goes on in a loaded session, so this goes along with the relation.
  have hkey : ∀ {v w : Workbench}, Recolored v w ∧ v.session.loaded = true → ∀ key,
      Together (fun v w => Recolored v w ∧ v.session.loaded = true) (v.saveKey key)
        (w.saveKey key) := by
    rintro v w ⟨h, hloaded⟩ key
    obtain ⟨stored, drawer, hframe⟩ := saveKey_frame v key
    obtain ⟨hfault, hrecolored⟩ := h.saveKey hloaded key
    exact ⟨hfault, hrecolored, by rw [hframe]; exact hloaded⟩
  obtain ⟨hfault, hrecolored, _⟩ := saveKeys_together hkey ⟨h, hloaded⟩ keys
  exact ⟨hfault, hrecolored⟩

theorem append (h : Recolored v w) (text : String) (sender : Sender) :
    Recolored (v.change (·.append text sender)) (w.change (·.append text sender)) :=
  { h with
    messages := congrArg (Transcript.append · text sender) h.messages
    linked := ⟨h.linked.1.of_eq rfl rfl, h.linked.2.of_eq rfl rfl⟩ }

theorem post (h : Recolored v w) (hloaded : v.session.loaded = true) (text : String)
    (sender : Sender) : Together Recolored (v.post text sender) (w.post text sender) :=
  (h.append text sender).saveKeys hloaded StateKey.all

/-! ## Loading -/

theorem load (h : Recolored v w) (hunloaded : v.session.loaded = false) :
    Together Recolored v.load w.load := by
  obtain ⟨hstored, hdrawer⟩ := h.unloaded hunloaded
  have hfault : v.load.2 = w.load.2 := by rw [load_fault, load_fault, hdrawer]
  have hdrawers : v.load.1.drawer = w.load.1.drawer := by rw [load_drawer, load_drawer, hdrawer]
  have hbelieved : v.load.1.session.stored = w.load.1.session.stored :=
    load_stored_eq hstored hdrawer
  have hfiled : ∀ key, FiledAlike key v.load.1 w.load.1 :=
    fun key => .inl ⟨congrFun hbelieved key, by rw [hdrawers]⟩
  have hlinked : v.load.1.Linked ∧ w.load.1.Linked :=
    ⟨load_linked h.linked.1, load_linked h.linked.2⟩
  rcases hv : v.load with ⟨v', fault⟩
  rcases hw : w.load with ⟨w', fault'⟩
  rw [hv, hw] at hfault hdrawers hbelieved hfiled hlinked
  obtain rfl : fault = fault' := hfault
  refine ⟨rfl, ?_⟩
  cases fault with
  | some f =>
    obtain ⟨stored, log, rfl⟩ := load_frame_of_fault hv
    obtain ⟨stored', log', rfl⟩ := load_frame_of_fault hw
    exact { h with
      unloaded := fun _ => ⟨hbelieved, hdrawers⟩
      filed := hfiled
      linked := hlinked }
  | none =>
    have hlimit : v.session.desk.history.limit = w.session.desk.history.limit :=
      (congrArg (·.history.limit) h.desk :)
    obtain ⟨stored, log, rfl⟩ := load_frame hv
    obtain ⟨stored', log', rfl⟩ := load_frame hw
    exact { h with
      desk := by
        simp only [Session.withState, Desk.uncolored, hdrawer, hlimit]
      messages := by simp only [Session.withState, hdrawer]
      chatHeight := by simp only [Session.withState, hdrawer]
      loaded := rfl
      unloaded := fun hno => absurd hno.symm Bool.false_ne_true
      filed := hfiled
      linked := hlinked }

theorem loadIfNeeded (h : Recolored v w) : Together Recolored v.loadIfNeeded w.loadIfNeeded := by
  unfold Workbench.loadIfNeeded
  rw [← h.loaded]
  split
  · exact ⟨rfl, h⟩
  · next hunloaded => exact h.load (eq_false_of_ne_true hunloaded)

/-! ## Running -/

theorem wipe (h : Recolored v w) : Recolored v.wipe w.wipe :=
  { h with
    messages := rfl
    unloaded := fun hno => by
      obtain ⟨hstored, hdrawer⟩ := h.unloaded hno
      exact ⟨congrArg (fun stored k => if StateKey.wipedByReset.contains k then none else stored k)
        hstored, congrArg (·.remove (StateKey.wipedByReset.map StateKey.name)) hdrawer⟩
    filed := fun key => by
      by_cases hkey : key = .chatHeight
      · subst hkey
        have hkept : ∀ u : Workbench,
            u.wipe.session.stored .chatHeight = u.session.stored .chatHeight ∧
              u.wipe.drawer.get? StateKey.chatHeight.name = u.drawer.get? StateKey.chatHeight.name :=
          fun u => ⟨rfl, Drawer.get?_remove (by decide)⟩
        exact (h.filed .chatHeight).of_eq (hkept v) (hkept w)
      · have hmem := StateKey.mem_wipedByReset.mpr hkey
        have hforgotten : ∀ u : Workbench, u.wipe.session.stored key = none :=
          fun u => if_pos (List.contains_iff_mem.mpr hmem)
        have hremoved : ∀ u : Workbench, u.wipe.drawer.get? key.name = none :=
          fun u => Drawer.get?_remove_of_mem (List.mem_map_of_mem hmem)
        exact .inl ⟨(hforgotten v).trans (hforgotten w).symm, (hremoved v).trans (hremoved w).symm⟩
    linked := ⟨wipe_linked h.linked.1, wipe_linked h.linked.2⟩ }

theorem worked (h : Recolored v w) (intent : Intent) {effect effect' : Effect}
    {left left' : Sources} (heffect : effect.uncolored = effect'.uncolored)
    (hleft : left.uncolored = left'.uncolored)
    (hv : left.colorFrom = v.sources.colorFrom) (hw : left'.colorFrom = w.sources.colorFrom) :
    Recolored (v.worked intent effect left) (w.worked intent effect' left') :=
  { h with
    desk := congrArg Effect.desk heffect
    linked := ⟨h.linked.1.of_eq rfl rfl, h.linked.2.of_eq rfl rfl⟩
    sources := hleft
    chooses := by
      refine ⟨fun n => ?_, fun n => ?_⟩
      · show (left.colorFrom n _).isSome
        rw [hv]
        exact h.chooses.1 n
      · show (left'.colorFrom n _).isSome
        rw [hw]
        exact h.chooses.2 n }

theorem perform (h : Recolored v w) (command : String) (intent : Intent) :
    Together Recolored (v.perform command intent) (w.perform command intent) := by
  have hexecute := Engine.execute_eq_but_colors h.chooses.1 h.chooses.2 h.sources h.desk intent
  have hvfrom := Engine.execute_colorFrom v.session.palette v.sources intent v.session.desk
  have hwfrom := Engine.execute_colorFrom w.session.palette w.sources intent w.session.desk
  rcases hv : Engine.execute v.session.palette v.sources intent v.session.desk with ⟨effect, left⟩
  rcases hw : Engine.execute w.session.palette w.sources intent w.session.desk with ⟨effect', left'⟩
  rw [hv, hw] at hexecute
  rw [hv] at hvfrom
  rw [hw] at hwfrom
  obtain ⟨heffect, hleft⟩ := hexecute
  have hsame : ∀ {α : Type} (f : Effect → α), f effect.uncolored = f effect'.uncolored :=
    fun f => congrArg f heffect
  have hmessage : effect.message = effect'.message := hsame (·.message)
  have hmutated : effect.mutated = effect'.mutated := hsame (·.mutated)
  have hreset : effect.reset = effect'.reset := hsame (·.reset)
  have hselected : effect.desk.selected = effect'.desk.selected := hsame (·.desk.selected)
  have hworked := h.worked intent heffect hleft hvfrom hwfrom
  rw [perform_eq command hv, perform_eq command hw, hmessage, hmutated, hreset, hselected]
  refine ⟨rfl, ?_⟩
  dsimp only
  split
  · exact hworked.wipe
  · exact hworked

theorem run (h : Recolored v w) (command : String) :
    Together Recolored (v.run command) (w.run command) := by
  have hintent : Command.recognise command v.session.desk.store =
      Command.recognise command w.session.desk.store := by
    rw [← Command.recognise_uncolored v.session.desk.store,
      ← Command.recognise_uncolored w.session.desk.store]
    exact congrArg (fun desk : Desk => Command.recognise command desk.store) h.desk
  unfold Workbench.run
  dsimp only
  rw [h.interpret.1, h.interpret.2, hintent]
  exact (h.logged _ _).perform command _

/-! ## Submitting -/

theorem lockstep : Lockstep Recolored where
  busy h := h.busy
  delay h := h.delay
  logged h := h.logged
  marked h := h.marked
  loadIfNeeded h := h.loadIfNeeded
  post h := h.post
  run h := h.run

/-- **Workbenches that differ in colours alone** answer a text alike, and go on to differ in colours
alone. -/
theorem submitWith (h : Recolored v w) (text : String) (meanwhile : List String) :
    Together Recolored (v.submitWith text meanwhile) (w.submitWith text meanwhile) :=
  lockstep.submitWith h text meanwhile

end Recolored

/-! ## Runs of texts -/

/-- The workbench after the texts, each with those that come in during the pause before its reply. -/
def submitEach (w : Workbench) (texts : List (String × List String)) : Workbench :=
  texts.foldl (fun w t => (w.submitWith t.1 t.2).1) w

theorem submitEach_cons (w : Workbench) (t : String × List String)
    (texts : List (String × List String)) :
    w.submitEach (t :: texts) = (w.submitWith t.1 t.2).1.submitEach texts := by
  simp only [submitEach, List.foldl_cons]

theorem Recolored.submitEach (h : Recolored v w) (texts : List (String × List String)) :
    Recolored (v.submitEach texts) (w.submitEach texts) := by
  induction texts generalizing v w with
  | nil => exact h
  | cons t texts ih =>
    rw [submitEach_cons, submitEach_cons]
    exact ih (h.submitWith t.1 t.2).2

end Workbench

end FolderTalk
