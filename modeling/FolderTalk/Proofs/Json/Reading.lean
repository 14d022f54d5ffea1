import FolderTalk.Json.Read
import FolderTalk.Proofs.Json.Numerals
import FolderTalk.Proofs.Json.RoundTrip

/-!
# What reading gives

Every value that is read from JSON text is made of mappings with distinct texts for keys
(`read_keyed`), and all its whole numbers have texts (`read_legible`): so it is with the tokens of the
text (`sound_of_mem_tokens`), each step keeps what the open containers hold legible (`step_sound`), and
so does the whole run.
-/

namespace FolderTalk.Json

/-- A value whose mappings have distinct texts for keys, all the way down. -/
def Keyed (v : Value) : Prop := BuiltFrom (fun _ => True) v

/-- A leaf that is no whole number without a text. -/
def LegibleLeaf : Value → Prop
  | .int n => Numeral.Fits n
  | .list _ | .map _ => False
  | _ => True

/-- A value as it is read: well keyed, and all its whole numbers have texts. -/
def Legible (v : Value) : Prop := BuiltFrom LegibleLeaf v

theorem keyed_of_legible {v : Value} (h : Legible v) : Keyed v := by
  refine BuiltFrom.mono (fun v hv => ?_) h
  cases v with
  | list _ | map _ => cases hv
  | _ => trivial

/-! ## The tokens of a text -/

/-- A token of a text: a word is legible, and a number begins with digits alone. -/
def Token.Sound : Token → Prop
  | .word v => Legible v
  | .number l => l.Numeric
  | _ => True

theorem word_legible {cs rest : List Char} {v : Value} (h : word? cs = some (v, rest)) :
    Legible v := by
  have hwords : ∀ e ∈ words, Legible e.2 := by
    simp [words, Legible, LegibleLeaf, BuiltFrom]
  unfold word? at h
  obtain ⟨⟨w, v'⟩, hmem, h⟩ := List.exists_of_findSome?_eq_some h
  dsimp only at h
  split at h
  · obtain ⟨rfl, _⟩ := Prod.mk.inj (Option.some.inj h)
    exact hwords _ hmem
  · cases h

theorem firstToken_sound {c : Char} {cs rest : List Char} {t : Token}
    (h : firstToken c cs = (t, rest)) : t.Sound := by
  unfold firstToken at h
  repeat' split at h
  all_goals first
    | (cases h; exact word_legible ‹_›)
    | (cases h; exact number?_numeric ‹_›)
    | (cases h; trivial)

theorem sound_of_mem_tokens {fuel : Nat} {cs : List Char} {t : Token}
    (h : t ∈ tokensWithin fuel cs) : t.Sound := by
  induction fuel generalizing cs with
  | zero => cases h
  | succ fuel ih =>
    rw [tokensWithin] at h
    split at h
    · cases h
    · next c rest _ =>
      generalize hfirst : firstToken c rest = p at h
      obtain ⟨t', rest'⟩ := p
      rcases List.mem_cons.mp h with rfl | h
      · exact firstToken_sound hfirst
      · exact ih h

/-! ## One token -/

/-- What a container that is still open holds is legible. -/
def Frame.Sound : Frame → Prop
  | .list items => ∀ v ∈ items, Legible v
  | .map entries _ => EntriesFrom LegibleLeaf entries

/-- What has been read so far is legible. -/
structure Progress.Sound (p : Progress) : Prop where
  stack : ∀ f ∈ p.stack, f.Sound
  done : ∀ v ∈ p.done, Legible v

theorem legible_value {f : Frame} (h : f.Sound) : Legible f.value := by
  cases f with
  | list items => exact itemsFrom_iff.mpr fun v hv => h v (List.mem_reverse.mp hv)
  | map entries key =>
    refine builtFrom_ofPairs (entriesFrom_iff.mpr fun e he => ?_)
    exact entriesFrom_iff.mp h e (List.mem_reverse.mp he)

theorem finished_sound {v : Value} {stack : List Frame} (hv : Legible v) (h : ∀ f ∈ stack, f.Sound) :
    (finished v stack).Sound := by
  cases stack with
  | nil =>
    refine ⟨List.forall_mem_nil _, fun w hw => ?_⟩
    cases hw
    exact hv
  | cons f stack =>
    obtain ⟨hf, hstack⟩ := List.forall_mem_cons.mp h
    cases f with
    | list items =>
      refine ⟨List.forall_mem_cons.mpr ⟨?_, hstack⟩, fun _ hw => by cases hw⟩
      exact List.forall_mem_cons.mpr ⟨hv, hf⟩
    | map entries key =>
      refine ⟨List.forall_mem_cons.mpr ⟨?_, hstack⟩, fun _ hw => by cases hw⟩
      exact ⟨⟨⟨key, rfl⟩, hv⟩, hf⟩

theorem legible_number {l : Lexeme} {v : Value} (hl : l.Numeric) (h : l.value = .ok v) :
    Legible v := by
  cases v with
  | int n => exact Lexeme.fits hl h
  | list _ | map _ =>
    unfold Lexeme.value at h
    split at h
    · split at h <;> cases h
    · cases h
  | _ => trivial

theorem beginValue_sound {stack : List Frame} {t : Token} {p : Progress}
    (hstack : ∀ f ∈ stack, f.Sound) (ht : t.Sound) (h : beginValue stack t = .ok p) : p.Sound := by
  have hopened : ∀ f need, f.Sound → (opened stack f).map (fun s => Progress.mk need s none) = .ok p →
      p.Sound := by
    intro f need hf h
    unfold opened at h
    split at h
    · cases h
      exact ⟨List.forall_mem_cons.mpr ⟨hf, hstack⟩, fun _ hv => by cases hv⟩
    · cases h
  cases t with
  | openList => exact hopened (.list []) .valueOrClose (List.forall_mem_nil _) h
  | openMap => exact hopened (.map [] "") .keyOrClose trivial h
  | text s =>
    cases h
    exact finished_sound trivial hstack
  | word v =>
    cases h
    exact finished_sound ht hstack
  | number l =>
    obtain ⟨v, hv, h⟩ := ok_of_bind h
    cases h
    exact finished_sound (legible_number ht hv) hstack
  | _ => cases h

theorem step_sound {p q : Progress} {t : Token} (hp : p.Sound) (ht : t.Sound)
    (h : p.step t = .ok q) : q.Sound := by
  obtain ⟨need, stack, done⟩ := p
  have hstack : ∀ f ∈ stack, f.Sound := hp.stack
  have hclosed : ∀ f rest, stack = f :: rest → (finished f.value rest).Sound := by
    rintro f rest rfl
    obtain ⟨hf, hrest⟩ := List.forall_mem_cons.mp hstack
    exact finished_sound (legible_value hf) hrest
  have hkept : ∀ need', Progress.Sound ⟨need', stack, none⟩ := fun need' =>
    ⟨hstack, fun _ hv => by cases hv⟩
  have hkey : ∀ entries key rest s, stack = .map entries key :: rest →
      Progress.Sound ⟨.colon, .map entries s :: rest, none⟩ := by
    rintro entries key rest s rfl
    obtain ⟨hf, hrest⟩ := List.forall_mem_cons.mp hstack
    exact ⟨List.forall_mem_cons.mpr ⟨hf, hrest⟩, fun _ hv => by cases hv⟩
  unfold Progress.step at h
  split at h
  all_goals try cases h
  -- A container is closed, nothing in the stack changes, a key is noted, or a value begins.
  all_goals first
    | exact hclosed _ _ ‹_›
    | exact hkept _
    | exact hkey _ _ _ _ ‹_›
    | exact beginValue_sound hstack ht h

theorem foldlM_sound {toks : List Token} {p q : Progress} (hp : p.Sound)
    (htoks : ∀ t ∈ toks, t.Sound)
    (h : toks.foldlM Progress.step p = .ok q) : q.Sound := by
  induction toks generalizing p with
  | nil =>
    cases h
    exact hp
  | cons t toks ih =>
    obtain ⟨ht, htoks⟩ := List.forall_mem_cons.mp htoks
    rw [List.foldlM_cons] at h
    cases hstep : p.step t with
    | error e => rw [hstep] at h; cases h
    | ok p' =>
      rw [hstep] at h
      exact ih (step_sound hp ht hstep) htoks h

/-- **Every value that is read is legible.** -/
theorem read_legible {s : String} {v : Value} (h : read s = .ok v) : Legible v := by
  unfold read at h
  cases hfold : (tokens s.toList).foldlM Progress.step {} with
  | error e => rw [hfold] at h; cases h
  | ok p =>
    have hstart : Progress.Sound {} := ⟨List.forall_mem_nil _, fun _ hv => by cases hv⟩
    have hp := foldlM_sound hstart (fun t ht => sound_of_mem_tokens ht) hfold
    rw [hfold] at h
    obtain ⟨need, stack, done⟩ := p
    cases done with
    | none => cases h
    | some _ =>
      cases h
      exact hp.done _ rfl

/-- **Every value that is read is well keyed.** -/
theorem read_keyed {s : String} {v : Value} (h : read s = .ok v) : Keyed v :=
  keyed_of_legible (read_legible h)

end FolderTalk.Json
