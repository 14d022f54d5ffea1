import FolderTalk.Proofs.Engine.Failing
import FolderTalk.Proofs.Session.AnyDrawer
import FolderTalk.Proofs.Session.OpenFolder
import FolderTalk.Proofs.Session.Savable

/-!
# Commands that fail

A command fails if it is not understood or if something that its intent draws is not given. The
failure is answered like any other command, and it shows only in the transcript.

* `Workbench.Fails` : a command fails;
* `TakenUp` : what a command comes to in a loaded session (`submitWith_takenUp`);
* `Workbench.Answerable` : a message and its reply can be added to the transcript and saved;
* `submitWith_failing` : a command that fails changes nothing but the transcript; it is answered
  exactly if it can be.
-/

namespace FolderTalk

namespace Transcript

/-- A message and the reply to it get numbers that follow one another. -/
theorem nextId_append (messages : List Message) (text : String) (sender : Sender) :
    nextId (append messages text sender) = nextId messages + 1 := by
  cases messages with
  | nil => rfl
  | cons m ms =>
    simp only [nextId, append, List.cons_append, List.map_cons, List.map_append, List.map_nil,
      List.foldl_append, List.foldl_cons, List.foldl_nil]
    omega

/-- The transcript with a command and the reply to it. -/
def exchange (messages : List Message) (command reply : String) : List Message :=
  messages ++ [⟨nextId messages, command, .user⟩, ⟨nextId messages + 1, reply, .ai⟩]

theorem append_append (messages : List Message) (command reply : String) :
    append (append messages command .user) reply .ai = exchange messages command reply := by
  rw [append, nextId_append, append, List.append_assoc]
  rfl

end Transcript

namespace Workbench

variable {w w' w₁ : Workbench} {command : String}

/-- The command is not understood, or something that its intent draws is not given. -/
def Fails (w : Workbench) (command : String) : Prop :=
  ∀ intent, w.interpret command w.session.desk.store = some intent →
    Engine.Fails w.session.palette w.sources w.session.desk.store intent.action

/-- A command and a reply to it can be added to the transcript and saved. -/
structure Answerable (w : Workbench) : Prop where
  others : ∀ key, key ≠ .messages → w.Saved key ∨ w.session.state.Fits key
  messages : ∀ m ∈ w.session.messages, Numeral.Fits m.id
  asked : Numeral.Fits (Transcript.nextId w.session.messages)
  answered : Numeral.Fits (Transcript.nextId w.session.messages + 1)

/-! ## Taking up a command -/

/-- The workbench with the session marked as busy or as free. -/
def marked (w : Workbench) (busy : Bool) : Workbench := w.change ({ · with busy := busy })

theorem noteAll_marked (w : Workbench) (busy : Bool) (ts : List Trace) :
    (w.marked busy).noteAll ts = ((w.noteAll ts).1.marked busy, (w.noteAll ts).2) := by
  induction ts generalizing w with
  | nil => rfl
  | cons t ts ih =>
    have hnote : (w.marked busy).note t = (w.note t).marked busy := by
      unfold note
      cases t.data <;> rfl
    rw [noteAll, noteAll, hnote, ih]
    cases t.fault <;> rfl

/-- Loading does the same in a session that has been marked. -/
theorem loadIfNeeded_marked (w : Workbench) (busy : Bool) :
    (w.marked busy).loadIfNeeded = (w.loadIfNeeded.1.marked busy, w.loadIfNeeded.2) := by
  have hload : (w.marked busy).load = (w.load.1.marked busy, w.load.2) := by
    unfold load
    dsimp only
    rw [show (w.marked busy).drawer = w.drawer from rfl, noteAll_marked]
    rcases w.noteAll (Readings.ofDrawer w.drawer).traces with ⟨w', _ | f⟩ <;> rfl
  unfold loadIfNeeded
  rw [hload, show (w.marked busy).session.loaded = w.session.loaded from rfl]
  split <;> rfl

/-- A command that is taken up is processed in a session marked as busy, which is free then. -/
theorem submitWith_of_free {text : String} (hfree : w.session.busy = false)
    (hcommand : Text.strip text ≠ "") (meanwhile : List String) :
    w.submitWith text meanwhile =
      (((w.marked true).process (Text.strip text) meanwhile).1.marked false,
        ((w.marked true).process (Text.strip text) meanwhile).2) := by
  have hsome : (Text.strip text).isEmpty = false := by
    rw [Bool.eq_false_iff]
    exact fun h => hcommand (String.isEmpty_iff.mp h)
  unfold submitWith
  simp only [hsome, hfree, Bool.false_eq_true, if_false]
  rfl

/-- What a command comes to that is taken up by a session which has been loaded: its message cannot
be saved and that is the end of it, or it is run with everything saved, and the reply is added. -/
inductive TakenUp (w : Workbench) (command : String) : Workbench × Except Fault Turn → Prop
  | unsaved (stored : StateKey → Option Value) (drawer : Drawer)
      (h : ¬ (w.change (·.append command .user)).Savable) :
      TakenUp w command
        ((w.change (·.append command .user)).refiled stored drawer, .error .tooManyDigitsToWrite)
  | ran {w₁ w' : Workbench} {outcome : Outcome} {fault : Option Fault} {result : Except Fault Turn}
      (stored : StateKey → Option Value) (drawer : Drawer) (log : List Event)
      (h : (w.change (·.append command .user)).Savable)
      (hsaved : ∀ key, ((w.change (·.append command .user)).refiled stored drawer).Saved key)
      (hrun : { (w.change (·.append command .user)).refiled stored drawer with
        log := log }.run command = (w₁, outcome))
      (hreply : w₁.post outcome.message .ai = (w', fault)) (hend : Ended outcome fault result) :
      TakenUp w command (w', result)

theorem Processed.takenUp {r : Workbench × Except Fault Turn} (h : Processed w command r)
    (hload : w.loadIfNeeded = (w₁, none)) : TakenUp w₁ command r := by
  cases h with
  | notLoaded h => rw [hload] at h; cases h
  | @notAsked _ w' f hload' hask =>
    obtain rfl := (Prod.mk.inj (hload.symm.trans hload')).1
    have hfault : (w₁.change (·.append command .user)).save.2 = some f := congrArg Prod.snd hask
    obtain ⟨stored, drawer, hframe⟩ := post_frame w₁ command .user
    rw [hask] at hframe
    obtain rfl : w' = _ := hframe
    obtain rfl := save_fault hfault
    refine .unsaved stored drawer fun hsavable => ?_
    rw [save_eq_none_iff.mpr hsavable] at hfault
    cases hfault
  | @ran _ w₂ _ _ _ _ _ log hload' hask hrun hreply hend =>
    obtain rfl := (Prod.mk.inj (hload.symm.trans hload')).1
    have hsaved : ∀ key, w₂.Saved key := fun key => saveKeys_saved hask key.mem_all
    obtain ⟨stored, drawer, hframe⟩ := post_frame w₁ command .user
    rw [hask] at hframe
    obtain rfl : w₂ = _ := hframe
    have hsavable := save_eq_none_iff.mp (congrArg Prod.snd hask)
    exact .ran stored drawer log hsavable hsaved hrun hreply hend

/-- A text that is submitted to a free session is taken up by the session marked as busy. -/
theorem submitWith_takenUp {text : String} (hfree : w.session.busy = false)
    (hcommand : Text.strip text ≠ "") (hload : w.loadIfNeeded = (w₁, none))
    (meanwhile : List String) : ∃ w' result,
      w.submitWith text meanwhile = (w'.marked false, result) ∧
        TakenUp (w₁.marked true) (Text.strip text) (w', result) := by
  have hmarked : (w.marked true).loadIfNeeded = (w₁.marked true, none) := by
    rw [loadIfNeeded_marked, hload]
  exact ⟨_, _, submitWith_of_free hfree hcommand meanwhile,
    (process_came (w.marked true) (Text.strip text) meanwhile).takenUp hmarked⟩

/-! ## A failing command -/

/-- Running a command that fails leaves the session as it is. -/
theorem run_of_fails (h : w.Fails command) : ∃ sources log,
    w.run command = ({ w with sources := sources, log := log },
      { command := command
        intent := w.interpret command w.session.desk.store
        message := Engine.failed
        selected := w.session.desk.selected }) := by
  unfold run
  dsimp only
  cases hintent : w.interpret command w.session.desk.store with
  | none => exact ⟨_, _, rfl⟩
  | some intent =>
    let w₁ := w.report (understanding command (some intent))
    have hfails := h intent hintent
    have hwhole := (Engine.execute_whole w.session.palette w.sources intent w.session.desk).1 hfails
    rcases hexecute : Engine.execute w₁.session.palette w₁.sources intent w₁.session.desk with
      ⟨effect, sources⟩
    rw [show Engine.execute w.session.palette w.sources intent w.session.desk = (effect, sources)
      from hexecute] at hwhole
    obtain rfl : effect = _ := hwhole
    refine ⟨sources, (w₁.worked intent { desk := w.session.desk, message := Engine.failed }
      sources).log, ?_⟩
    show w₁.perform command intent = _
    rw [perform_eq command hexecute, if_neg Bool.false_ne_true]
    rfl

/-! ## Saving the transcript -/

theorem length_eq_of_sameItems {xs ys : List Value} (h : Value.sameItems xs ys) :
    xs.length = ys.length := by
  induction xs generalizing ys with
  | nil =>
    cases ys with
    | nil => rfl
    | cons y ys => simp [Value.sameItems] at h
  | cons x xs ih =>
    cases ys with
    | nil => simp [Value.sameItems] at h
    | cons y ys =>
      rw [Value.sameItems, Bool.and_eq_true] at h
      rw [List.length_cons, List.length_cons, ih h.2]

/-- A transcript that is saved is not saved with one more message. -/
theorem not_saved_append (h : w.Saved .messages) (text : String) (sender : Sender) :
    ¬ (w.change (·.append text sender)).Saved .messages := by
  rintro ⟨v', hstored', hsame'⟩
  obtain ⟨v, hstored, hsame⟩ := h
  obtain rfl := Option.some.inj (hstored.symm.trans hstored')
  have hlist : ∀ ms : List Message, v.same (.list (ms.map Message.toValue)) →
      ∃ items, v = .list items ∧ items.length = ms.length := by
    intro ms hms
    cases v with
    | list items =>
      rw [Value.same] at hms
      exact ⟨items, rfl, by simpa using length_eq_of_sameItems hms⟩
    | _ => simp [Value.same, Value.number?] at hms
  obtain ⟨items, rfl, hlength⟩ := hlist w.session.messages hsame
  obtain ⟨_, hitems, hlength'⟩ := hlist (Transcript.append w.session.messages text sender) hsame'
  cases hitems
  rw [Transcript.append, List.length_append, List.length_singleton] at hlength'
  omega

/-- One more message concerns no other part. -/
theorem savable_append_iff (w : Workbench) (text : String) (sender : Sender) {key : StateKey}
    (hkey : key ≠ .messages) :
    (w.change (·.append text sender)).Saved key ∨
        (w.change (·.append text sender)).session.state.Fits key ↔
      w.Saved key ∨ w.session.state.Fits key := by
  cases key with
  | messages => exact absurd rfl hkey
  | _ => exact Iff.rfl

theorem fits_append_iff (w : Workbench) (text : String) (sender : Sender) :
    (w.change (·.append text sender)).session.state.Fits .messages ↔
      w.session.state.Fits .messages ∧ Numeral.Fits (Transcript.nextId w.session.messages) := by
  show (∀ m ∈ w.session.messages ++ [_], _) ↔ (∀ m ∈ w.session.messages, _) ∧ _
  rw [List.forall_mem_append, List.forall_mem_singleton]

/-- One more message after everything has been saved. -/
theorem savable_append_of_saved (h : ∀ key, w.Saved key) (text : String) (sender : Sender) :
    (w.change (·.append text sender)).Savable ↔
      w.session.state.Fits .messages ∧ Numeral.Fits (Transcript.nextId w.session.messages) := by
  rw [← fits_append_iff w text sender]
  constructor
  · intro hsavable
    exact (hsavable .messages).resolve_left (not_saved_append (h .messages) text sender)
  · intro hfits key
    by_cases hkey : key = .messages
    · exact .inr (hkey ▸ hfits)
    · exact (savable_append_iff w text sender hkey).mpr (.inl (h key))

theorem Answerable.savable (h : w.Answerable) (text : String) (sender : Sender) :
    (w.change (·.append text sender)).Savable := by
  intro key
  by_cases hkey : key = .messages
  · exact .inr (hkey ▸ (fits_append_iff w text sender).mpr ⟨h.messages, h.asked⟩)
  · exact (savable_append_iff w text sender hkey).mpr (h.others key hkey)

/-- Once the message has been saved, the reply can be if its number and those before it can be. -/
theorem answerable_iff (asked : Workbench) (hsavable : (w.change (·.append command .user)).Savable)
    (hstate : asked.session.state = (w.change (·.append command .user)).session.state)
    (hsaved : ∀ key, asked.Saved key) (reply : String) :
    w.Answerable ↔ (asked.change (·.append reply .ai)).Savable := by
  have hmessages : asked.session.messages = Transcript.append w.session.messages command .user :=
    congrArg SessionState.messages hstate
  rw [savable_append_of_saved hsaved, hstate, hmessages, Transcript.nextId_append, fits_append_iff]
  constructor
  · exact fun h => ⟨⟨h.messages, h.asked⟩, h.answered⟩
  · rintro ⟨⟨hmessages, hnumber⟩, hanswered⟩
    exact ⟨fun key hkey => (savable_append_iff w command .user hkey).mp (hsavable key), hmessages,
      hnumber, hanswered⟩

/-! ## Answering a command that fails -/

/-- What processing a command that fails leaves and answers, after the loading. -/
structure Excused (w : Workbench) (command : String) (w' : Workbench) (result : Except Fault Turn) :
    Prop where
  desk : w'.session.desk = w.session.desk
  chatHeight : w'.session.chatHeight = w.session.chatHeight
  transcript :
    w'.session.messages <+: Transcript.exchange w.session.messages command Engine.failed
  answered : w.Answerable →
    w'.session.messages = Transcript.exchange w.session.messages command Engine.failed ∧
    ∃ turn, result = .ok turn ∧ turn.outcome = some
      { command := command
        intent := w.interpret command w.session.desk.store
        message := Engine.failed
        selected := w.session.desk.selected }
  unanswered : ¬ w.Answerable → result = .error .tooManyDigitsToWrite

/-- A command that fails is excused, whether its message and the reply can be saved or not. -/
theorem TakenUp.excused {result : Except Fault Turn} (h : TakenUp w command (w', result))
    (hfails : w.Fails command) : Excused w command w' result := by
  have htranscript := Transcript.append_append w.session.messages command Engine.failed
  cases h with
  | unsaved stored drawer hno =>
    refine ⟨rfl, rfl, ?_, fun hanswerable => absurd (hanswerable.savable command .user) hno,
      fun _ => rfl⟩
    rw [← htranscript]
    exact List.prefix_append _ _
  | @ran _ _ outcome fault _ stored drawer log hsavable hsaved hrun hreply hend =>
    let asked : Workbench :=
      { (w.change (·.append command .user)).refiled stored drawer with log := log }
    obtain ⟨sources, log', hran⟩ := run_of_fails (w := asked) hfails
    rw [hrun] at hran
    obtain ⟨rfl, rfl⟩ := Prod.mk.inj hran
    -- Everything is saved when the reply is added, so only the transcript can fail to be.
    have hanswerable : w.Answerable ↔ fault = none := by
      rw [show fault = _ from (congrArg Prod.snd hreply).symm]
      exact (answerable_iff { asked with sources := sources, log := log' } hsavable rfl hsaved
        Engine.failed).trans save_eq_none_iff.symm
    obtain ⟨stored', drawer', hframe⟩ :=
      post_frame { asked with sources := sources, log := log' } Engine.failed .ai
    have hfault := congrArg Prod.snd hreply
    rw [hreply] at hframe
    obtain rfl : w' = _ := hframe
    refine ⟨rfl, rfl, ?_, fun h => ⟨htranscript, ?_⟩, fun h => ?_⟩
    · rw [← htranscript]
      exact List.prefix_rfl
    · obtain rfl := hanswerable.mp h
      cases hend with
      | answered turn hturn => exact ⟨turn, rfl, hturn⟩
    · cases hend with
      | failed f => rw [save_fault hfault]
      | answered turn _ => exact absurd (hanswerable.mpr rfl) h

theorem submitWith_excused {text : String} (hfree : w.session.busy = false)
    (hcommand : Text.strip text ≠ "") (hload : w.loadIfNeeded = (w₁, none))
    (hfails : w₁.Fails (Text.strip text)) (meanwhile : List String) :
    Excused w₁ (Text.strip text) (w.submitWith text meanwhile).1 (w.submitWith text meanwhile).2 ∧
      (w.submitWith text meanwhile).1.session.busy = false := by
  obtain ⟨w', result, hsubmit, htaken⟩ := submitWith_takenUp hfree hcommand hload meanwhile
  have hexcused := htaken.excused hfails
  rw [hsubmit]
  refine ⟨⟨hexcused.desk, hexcused.chatHeight, hexcused.transcript, fun hw => ?_, fun hno => ?_⟩,
    rfl⟩
  · exact hexcused.answered ⟨hw.others, hw.messages, hw.asked, hw.answered⟩
  · exact hexcused.unanswered fun hw => hno ⟨hw.others, hw.messages, hw.asked, hw.answered⟩

/-- **A command that fails changes nothing but the transcript.** Whatever fails of what an intent
draws, executing it leaves tree, history and open folder as they are and gives the reply for a
failure, and if nothing fails then everything that the intent asks for is done. In a session that is
free and can be loaded, a command that fails leaves tree, history, open folder and height as they
were after the loading, and the session is free again. The transcript gets the command and this
reply, and the submission is answered, if both can be saved; otherwise it ends at a number that has
too many digits. -/
theorem submitWith_failing (palette : List String) (src : Sources) (intent : Intent) (desk : Desk)
    (w w₁ : Workbench) (text : String) (meanwhile : List String) :
    (Engine.Fails palette src desk.store intent.action →
      (Engine.execute palette src intent desk).1 = { desk := desk, message := Engine.failed }) ∧
    (¬ Engine.Fails palette src desk.store intent.action →
      Engine.Completed src intent desk (Engine.execute palette src intent desk).1) ∧
    (w.session.busy = false → Text.strip text ≠ "" → w.loadIfNeeded = (w₁, none) →
      w₁.Fails (Text.strip text) →
      Excused w₁ (Text.strip text) (w.submitWith text meanwhile).1
          (w.submitWith text meanwhile).2 ∧
        (w.submitWith text meanwhile).1.session.busy = false) := by
  obtain ⟨hfailed, hcompleted⟩ := Engine.execute_whole palette src intent desk
  refine ⟨hfailed, hcompleted, fun hfree hcommand hload hfails => ?_⟩
  exact submitWith_excused hfree hcommand hload hfails meanwhile

/-- The colour of a new folder is not given, in a new session and while another text comes in. -/
theorem submitWith_failing_no_color :
    let w : Workbench :=
      { untouched with sources := { untouched.sources with colorFrom := fun _ _ => none } }
    let intent : Intent := ⟨.createSimple "Trips", "Created folder \"Trips\"."⟩
    Engine.Fails w.session.palette w.sources w.session.desk.store intent.action ∧
      (Engine.execute w.session.palette w.sources intent w.session.desk).1 =
        { desk := w.session.desk, message := Engine.failed } ∧
      w.session.busy = false ∧ Text.strip " create folder trips" ≠ "" ∧
      w.loadIfNeeded = (w.load.1, none) ∧ w.load.1.Fails "create folder trips" ∧
      w.load.1.Answerable ∧ (w.submitWith " create folder trips" ["undo"]).2.isOk ∧
      (w.submitWith " create folder trips" ["undo"]).1.session.desk = w.session.desk ∧
      (w.submitWith " create folder trips" ["undo"]).1.session.messages =
        Transcript.exchange [Transcript.welcome] "create folder trips" Engine.failed := by
  intro w intent
  have hstrip : Text.strip " create folder trips" = "create folder trips" := by decide +kernel
  have hdraws : Engine.Fails w.session.palette w.sources w.session.desk.store intent.action := by
    decide +kernel
  have hcommand : Text.strip " create folder trips" ≠ "" := by decide +kernel
  have hload : w.loadIfNeeded = (w.load.1, none) := by
    rw [← show w.load.2 = none by decide +kernel]
    rfl
  have hfails : w.load.1.Fails "create folder trips" := by
    rintro intent ⟨⟩
    decide +kernel
  have hanswerable : w.load.1.Answerable := by
    refine ⟨fun key _ => .inr ?_, by decide +kernel, by decide +kernel, by decide +kernel⟩
    cases key <;> decide +kernel
  have hdesk : w.load.1.session.desk = w.session.desk := by decide +kernel
  have hmessages : w.load.1.session.messages = [Transcript.welcome] := by decide +kernel
  obtain ⟨hfailed, _, hsubmitted⟩ := submitWith_failing w.session.palette w.sources intent
    w.session.desk w w.load.1 " create folder trips" ["undo"]
  obtain ⟨hexcused, _⟩ := hsubmitted rfl hcommand hload (hstrip ▸ hfails)
  obtain ⟨htranscript, turn, hresult, _⟩ := hexcused.answered hanswerable
  refine ⟨hdraws, hfailed hdraws, rfl, hcommand, hload, hfails, hanswerable, ?_,
    hexcused.desk.trans hdesk, ?_⟩
  · rw [hresult]
    rfl
  · rw [← hstrip, ← hmessages]
    exact htranscript

/-- A command that is not understood, when the last message has the last number but one of those
with a text. The number of the reply has none, so nothing is answered. -/
theorem submit_failing_last_number :
    let last : Int := Nat.pow 10 Numeral.maxDigits - 2
    let w : Workbench :=
      { untouched with
        session := { untouched.session with messages := [⟨last, "", .ai⟩], loaded := true }
        interpret := fun _ _ => none }
    Numeral.Fits last ∧ w.session.busy = false ∧ w.loadIfNeeded = (w, none) ∧ w.Fails "list" ∧
      (w.submit "list").2 = .error .tooManyDigitsToWrite := by
  intro last w
  have hlast : last + 1 + 1 = Nat.pow 10 Numeral.maxDigits := by
    show (Nat.pow 10 Numeral.maxDigits : Int) - 2 + 1 + 1 = _
    omega
  have hpos : 2 < Nat.pow 10 Numeral.maxDigits := by decide +kernel
  have hfits : Numeral.Fits last := by
    unfold Numeral.Fits
    omega
  have hstrip : Text.strip "list" = "list" := by decide +kernel
  have hfails : w.Fails "list" := by
    rintro intent ⟨⟩
  have hanswered : ¬ Numeral.Fits (Transcript.nextId w.session.messages + 1) := by
    show ¬ Numeral.Fits (last + 1 + 1)
    rw [hlast, Numeral.Fits, Int.natAbs_natCast]
    exact Nat.lt_irrefl _
  obtain ⟨hexcused, _⟩ := @submitWith_excused w w "list" rfl (by decide +kernel) rfl
    (hstrip ▸ hfails) []
  exact ⟨hfits, rfl, rfl, hfails, hexcused.unanswered fun h => hanswered h.answered⟩

end Workbench

end FolderTalk
