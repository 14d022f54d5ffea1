import FolderTalk.Proofs.Engine.Frame
import FolderTalk.Proofs.Session.Legible
import FolderTalk.Proofs.Session.Numbering
import FolderTalk.Proofs.Session.OneAtATime

/-!
# What is kept in a session and in its drawer

A session may be loaded again at any time, and its operations may end anywhere, with some documents
written and others not. So what is to hold of its state must hold of what the drawer tells, too.

* `Drawer.Sound` : no document stops the loading, and a transcript that is told of has a property;
* `Workbench.Kept` : the bounds of a session, what holds of its tree and its transcript, and a sound
  drawer;
* `kept_of_load` : so it is after a loading that ends well;
* `operateAll_kept` : and so it stays, whatever is done and wherever it ends.
-/

namespace FolderTalk

open Json

/-! ## Files -/

/-- The identifiers of the files have texts. -/
def Store.FilesFit (s : Store) : Prop := ∀ f ∈ s.files, Numeral.Fits f.id

theorem Store.filesFit_seed : Store.seed.FilesFit :=
  (by decide +kernel : ∀ f ∈ Store.seedFiles, Numeral.Fits f.id)

theorem Store.FilesFit.of_unplaced {s t : Store} (h : s.FilesFit)
    (heq : t.unplacedFiles = s.unplacedFiles) : t.FilesFit := by
  intro f hf
  have hmem : f.unplaced ∈ s.unplacedFiles := heq ▸ List.mem_map_of_mem hf
  obtain ⟨g, hg, hunplaced⟩ := List.mem_map.mp hmem
  rw [show f.id = g.id from (congrArg FileEntry.id hunplaced).symm]
  exact h g hg

theorem Engine.step_filesFit (palette : List String) (p : Desk × Sources) (intent : Intent)
    (h : p.1.All Store.FilesFit) : (step palette p intent).1.All Store.FilesFit :=
  step_all Store.filesFit_seed
    (fun _ _ _ _ _ _ hc hs => hs.of_unplaced (change_came hc).framed.files) palette p intent h

/-! ## What a drawer tells -/

section Drawers
variable {d d' : Drawer} {key : StateKey} {limit : Nat} {s t : SessionState} {v : Value} {f : Fault}

theorem SessionState.fits_initial (key : StateKey) : SessionState.initial.Fits key := by
  cases key <;> decide +kernel

theorem SessionState.AgreeAt.fits (h : s.AgreeAt key t) (hfits : t.Fits key) : s.Fits key := by
  cases key with
  | files => rwa [Fits, show s.store.files = t.store.files from h]
  | messages => rwa [Fits, show s.messages = t.messages from h]
  | history => rwa [Fits, show s.history = t.history from h]
  | chatHeight => rwa [Fits, show s.chatHeight = t.chatHeight from h]
  | folders | selectedFolder => trivial

theorem SessionState.Fits.trimmed (h : s.Fits key) (limit : Nat) : (s.trimmed limit).Fits key := by
  cases key with
  | history => exact fun t ht => h t ((newest_suffix limit s.history).mem ht)
  | _ => exact h

/-- What a drawer tells can be written again. -/
theorem Drawer.Tells.fits (h : d.Tells limit key s) : s.Fits key := by
  rcases h with ⟨v, t, hholds, hgives, hagree⟩ | ⟨_, hagree⟩
  · exact hagree.fits ((fits_of_gives hholds.legible hgives).trimmed limit)
  · exact hagree.fits (SessionState.fits_initial key)

namespace Drawer

theorem jams_congr (h : d'.get? key.name = d.get? key.name) (hjams : d'.Jams key f) :
    d.Jams key f := by
  cases hjams with
  | digits hdoc hread => exact .digits (h.symm.trans hdoc) hread
  | depth hdoc hread => exact .depth (h.symm.trans hdoc) hread
  | height hholds => exact .height ((holds_congr h).mp hholds)

theorem not_jams_of_absent (h : d.get? key.name = none) : ¬ d.Jams key f := by
  intro hjams
  cases hjams with
  | digits hdoc _ => cases h.symm.trans hdoc
  | depth hdoc _ => cases h.symm.trans hdoc
  | height hholds =>
    obtain ⟨doc, hdoc, _⟩ := hholds
    cases h.symm.trans hdoc

/-- A document that is read does not stop the loading, unless it gives an infinite height. -/
theorem not_jams_of_holds (h : d.Holds key v) (hv : ∀ negative, v ≠ .float (.infinite negative)) :
    ¬ d.Jams key f := by
  have hread : ∀ {s : String} {e : ReadError}, d.get? key.name = some (.text s) →
      read s ≠ .error e := by
    intro s e hdoc herror
    obtain ⟨doc, hdoc', hvalue⟩ := h
    obtain rfl := Option.some.inj (hdoc.symm.trans hdoc')
    unfold Document.value at hvalue
    dsimp only at hvalue
    rw [herror] at hvalue
    cases e <;> cases hvalue
  intro hjams
  cases hjams with
  | digits hdoc herror => exact hread hdoc herror
  | depth hdoc herror => exact hread hdoc herror
  | height hholds => exact hv _ (h.unique hholds)

/-- No document stops the loading, and a transcript that is told of has the property. -/
structure Sound (P : List Message → Prop) (d : Drawer) : Prop where
  calm : ∀ key f, ¬ d.Jams key f
  told : ∀ v s, d.Holds .messages v → Gives .messages v s → P s.messages

variable {P : List Message → Prop}

theorem Sound.save (h : d.Sound P) (hP : P s.messages)
    (hsave : d.save key.name (s.part key) = .ok d') : d'.Sound P := by
  have hholds : d'.Holds key (s.part key) := holds_save (storable_part ..) (depth_part_le ..) hsave
  have hother : ∀ k, k ≠ key → d'.get? k.name = d.get? k.name := fun k hk =>
    get?_save_other (fun hname => hk (StateKey.name_injective hname)) hsave
  constructor
  · intro k f
    by_cases hk : k = key
    · subst hk
      refine not_jams_of_holds hholds fun negative => ?_
      cases k with
      | selectedFolder =>
        show Value.ofOptionalText s.selected ≠ _
        cases s.selected <;> nofun
      | _ => nofun
    · exact fun hjams => h.calm k f (jams_congr (hother k hk) hjams)
  · intro v t hv ht
    by_cases hk : StateKey.messages = key
    · subst hk
      obtain rfl := hv.unique hholds
      rw [← Except.ok.inj ((listPart_toValue Message.returns s.messages).symm.trans ht)]
      exact hP
    · exact h.told v t ((holds_congr (hother _ hk)).mp hv) ht

theorem Sound.remove (h : d.Sound P) (keys : List String) : (d.remove keys).Sound P := by
  have hremoved : ∀ key : String, (d.remove keys).get? key = none ∨
      (d.remove keys).get? key = d.get? key := by
    intro key
    by_cases hmem : key ∈ keys
    · exact .inl (get?_remove_of_mem hmem)
    · exact .inr (get?_remove hmem)
  constructor
  · intro key f
    rcases hremoved key.name with hnone | hsame
    · exact not_jams_of_absent hnone
    · exact fun hjams => h.calm key f (jams_congr hsame hjams)
  · intro v s hv hs
    rcases hremoved StateKey.messages.name with hnone | hsame
    · obtain ⟨doc, hdoc, _⟩ := hv
      cases hnone.symm.trans hdoc
    · exact h.told v s ((holds_congr hsame).mp hv) hs

end Drawer

end Drawers

/-! ## Sessions -/

namespace Workbench

variable {w w' : Workbench} {P : List Message → Prop} {room : Nat} {command : String}

/-- What is kept: the bounds of the session, files that can be written, a transcript with the
property, and a drawer that is what the session believes it to be and that is sound. -/
structure Kept (P : List Message → Prop) (room : Nat) (w : Workbench) : Prop where
  limit : w.session.desk.history.limit = room
  bounded : w.session.desk.history.size ≤ room
  height : Panel.clamp w.session.chatHeight = w.session.chatHeight
  files : w.session.desk.All Store.FilesFit
  transcript : P w.session.messages
  linked : w.Linked
  drawer : w.drawer.Sound P

theorem Kept.logged (h : w.Kept P room) (log : List Event) : ({ w with log := log }).Kept P room :=
  { h with linked := h.linked.of_eq rfl rfl }

theorem Kept.marked (h : w.Kept P room) (busy : Bool) : (w.marked busy).Kept P room :=
  { h with linked := h.linked.of_eq rfl rfl }

/-! ## Loading -/

/-- What is loaded has the property exactly if all that the drawer tells of has it. -/
theorem transcript_of_load_iff (hwelcome : P [Transcript.welcome]) (h : w.load = (w', none)) :
    P w'.session.messages ↔
      ∀ v s, w.drawer.Holds .messages v → Gives .messages v s → P s.messages := by
  have htells := load_tells h .messages
  constructor
  · intro hP v s hv hs
    rcases htells with ⟨v', t, hv', ht, hagree⟩ | ⟨hnone, _⟩
    · obtain rfl := hv.unique hv'
      rw [show s.messages = t.messages from hs.agreeAt ht,
        ← show w'.session.messages = t.messages from hagree]
      exact hP
    · exact absurd ⟨s, hs⟩ (hnone v hv)
  · intro htold
    rcases htells with ⟨v, t, hv, ht, hagree⟩ | ⟨_, hagree⟩
    · rw [show w'.session.messages = t.messages from hagree]
      exact htold v t hv ht
    · rw [show w'.session.messages = [Transcript.welcome] from hagree]
      exact hwelcome

/-- **After a loading that ends well** the session is kept, if the transcript has the property. -/
theorem kept_of_load (hwelcome : P [Transcript.welcome]) (hlinked : w.Linked)
    (hlimit : w.session.desk.history.limit = room) (h : w.load = (w', none))
    (hP : P w'.session.messages) : w'.Kept P room := by
  have hfits : ∀ key, w'.session.state.Fits key := fun key => (load_tells h key).fits
  have hlinked' : w'.Linked := by
    have hloaded := load_linked hlinked
    rwa [h] at hloaded
  have hsound : w.drawer.Sound P :=
    ⟨load_eq_none_iff.mp (congrArg Prod.snd h), (transcript_of_load_iff hwelcome h).mp hP⟩
  obtain ⟨stored, log, rfl⟩ := load_frame h
  exact
    { limit := hlimit
      bounded := by
        show (newest _ _).length ≤ room
        rw [length_newest, hlimit]
        exact Nat.min_le_left _ _
      height := Readings.clamp_state_chatHeight _
      files := ⟨hfits .files, fun s hs => hfits .history s hs⟩
      transcript := hP
      linked := hlinked'
      drawer := hsound }

theorem Kept.load (h : w.Kept P room) (hP : Transcript.Lasting P) :
    ∃ w', w.load = (w', none) ∧ w'.Kept P room := by
  have hload : w.load = (w.load.1, none) := Prod.ext rfl (load_eq_none_iff.mpr h.drawer.calm)
  have htranscript := (transcript_of_load_iff hP.welcome hload).mpr h.drawer.told
  exact ⟨_, hload, kept_of_load hP.welcome h.linked h.limit hload htranscript⟩

theorem Kept.loadIfNeeded (h : w.Kept P room) (hP : Transcript.Lasting P) :
    ∃ w', w.loadIfNeeded = (w', none) ∧ w'.Kept P room := by
  unfold Workbench.loadIfNeeded
  split
  · exact ⟨w, rfl, h⟩
  · exact h.load hP

/-! ## Saving and running -/

theorem Kept.saveKey (h : w.Kept P room) (key : StateKey) : (w.saveKey key).1.Kept P room := by
  rcases hsave : w.saveKey key with ⟨w', _ | f⟩
  · have hlinked := saveKey_linked h.linked hsave
    rcases saveKey_came hsave with ⟨rfl, _⟩ | ⟨d, hd, rfl⟩
    · exact h
    · exact { h with linked := hlinked, drawer := h.drawer.save h.transcript hd }
  · exact saveKey_eq_of_fault hsave ▸ h

theorem Kept.saveKeys (h : w.Kept P room) (keys : List StateKey) :
    (w.saveKeys keys).1.Kept P room :=
  saveKeys_induct (P := Kept P room) (fun _ key h => h.saveKey key) h keys

theorem Kept.append (h : w.Kept P room) (hP : Transcript.Lasting P) (text : String)
    (sender : Sender) : (w.change (·.append text sender)).Kept P room :=
  { h with
    transcript := hP.append _ text sender h.transcript
    linked := h.linked.of_eq rfl rfl }

theorem Kept.post (h : w.Kept P room) (hP : Transcript.Lasting P) (text : String)
    (sender : Sender) : (w.post text sender).1.Kept P room :=
  (h.append hP text sender).saveKeys StateKey.all

theorem Kept.wipe (h : w.Kept P room) (hP : Transcript.Lasting P) : w.wipe.Kept P room :=
  { h with
    transcript := hP.welcome
    linked := wipe_linked h.linked
    drawer := h.drawer.remove _ }

theorem run_filesFit (w : Workbench) (command : String) (h : w.session.desk.All Store.FilesFit) :
    (w.run command).1.session.desk.All Store.FilesFit := by
  cases hintent : w.interpret command w.session.desk.store with
  | none =>
    unfold run
    rw [hintent]
    exact h
  | some intent =>
    have htreated := run_treated hintent (Prod.mk.eta : (_, _) = w.run command).symm
    rcases htreated with hsame | ⟨palette, src, hdesk⟩
    · rw [hsame]
      exact h
    · rw [hdesk]
      exact Engine.step_filesFit palette (w.session.desk, src) intent h

theorem Kept.run (h : w.Kept P room) (hP : Transcript.Lasting P) (command : String) :
    (w.run command).1.Kept P room := by
  have hfiles := run_filesFit w command h.files
  obtain ⟨desk, sources, log, hlimit, hsize, hcame⟩ := run_came w command
  have hdesk : desk.All Store.FilesFit → (w.atDesk desk sources log).Kept P room := fun hdesk =>
    { h with
      limit := hlimit.trans h.limit
      bounded := by
        rw [← h.limit, ← hlimit]
        exact hsize (h.limit.symm ▸ h.bounded)
      files := hdesk
      linked := h.linked.of_eq rfl rfl }
  rcases hcame with ⟨_, hcame⟩ | ⟨_, hcame⟩
  · rw [hcame] at hfiles ⊢
    exact hdesk hfiles
  · rw [hcame] at hfiles ⊢
    exact (hdesk hfiles).wipe hP

/-! ## Operations -/

theorem Kept.processed {result : Except Fault Turn} (h : w.Kept P room)
    (hP : Transcript.Lasting P) (hcame : Processed w command (w', result)) : w'.Kept P room := by
  obtain ⟨w₁, hload, hkept⟩ := h.loadIfNeeded hP
  cases hcame with
  | notLoaded hfault => cases hload.symm.trans hfault
  | notAsked hload' hask =>
    obtain rfl := (Prod.mk.inj (hload.symm.trans hload')).1
    have hasked := hkept.post hP command .user
    rwa [hask] at hasked
  | @ran _ _ _ _ outcome _ _ log hload' hask hrun hreply _ =>
    obtain rfl := (Prod.mk.inj (hload.symm.trans hload')).1
    have hasked := hkept.post hP command .user
    rw [hask] at hasked
    have hran := (hasked.logged log).run hP command
    rw [hrun] at hran
    have hreplied := hran.post hP outcome.message .ai
    rwa [hreply] at hreplied

theorem Kept.submitWith (h : w.Kept P room) (hP : Transcript.Lasting P) (text : String)
    (meanwhile : List String) : (w.submitWith text meanwhile).1.Kept P room := by
  have hcame := submitWith_came w text meanwhile
  rcases hsubmit : w.submitWith text meanwhile with ⟨w', result⟩
  rw [hsubmit] at hcame
  cases hcame with
  | ignored log => exact h.logged log
  | processed hprocessed => exact ((h.marked true).processed hP hprocessed).marked false

theorem Kept.setHeight (h : w.Kept P room) (hP : Transcript.Lasting P) (height : Int) :
    (w.setHeight height).1.Kept P room := by
  obtain ⟨w₁, hload, hkept⟩ := h.loadIfNeeded hP
  have hresized : (w₁.change ({ · with chatHeight := Panel.clamp height })).Kept P room :=
    { hkept with
      height := clamp_clamp height
      linked := hkept.linked.of_eq rfl rfl }
  have hsaved := hresized.saveKeys StateKey.all
  unfold Workbench.setHeight
  rw [hload]
  dsimp only
  rcases hsave : (w₁.change ({ · with chatHeight := Panel.clamp height })).save with ⟨w₂, _ | f⟩ <;>
  · rw [show Workbench.saveKeys _ StateKey.all = (w₂, _) from hsave] at hsaved
    exact hsaved

theorem kept_of_start {settings : EngineSettings} {name : String} {fresh : Session}
    (hstart : Session.start settings name = .ok fresh) (h : w.drawer.Sound P)
    (hwelcome : P [Transcript.welcome]) :
    ({ w with session := fresh }).Kept P settings.historyLimit.val := by
  have hlinked : ({ w with session := fresh } : Workbench).Linked :=
    linked_of_unused (Session.start_unused hstart)
  obtain ⟨delay, rfl⟩ := Session.start_eq hstart
  exact
    { limit := rfl
      bounded := Nat.zero_le _
      height := (by decide : Panel.clamp Panel.defaultHeight = Panel.defaultHeight)
      files := Desk.all_seed Store.filesFit_seed _ _
      transcript := hwelcome
      linked := hlinked
      drawer := h }

/-- The operation leaves the number of trees that the history has room for as it is. -/
def Operation.KeepsLimit (room : Nat) : Operation → Prop
  | .replace settings => settings.historyLimit.val = room
  | _ => True

theorem Kept.operate (h : w.Kept P room) (hP : Transcript.Lasting P) {op : Operation}
    (hop : op.KeepsLimit room) : (w.operate op).Kept P room := by
  cases op with
  | submit text meanwhile => exact h.submitWith hP text meanwhile
  | setHeight height => exact h.setHeight hP height
  | load =>
    obtain ⟨w', hload, hkept⟩ := h.load hP
    rw [Workbench.operate, hload]
    exact hkept
  | replace settings =>
    unfold Workbench.operate
    dsimp only
    split
    · next fresh hstart =>
      obtain rfl : settings.historyLimit.val = room := hop
      exact kept_of_start hstart h.drawer hP.welcome
    · exact h

end Workbench

end FolderTalk
