import FolderTalk.Proofs.Yaml.Cursor
import FolderTalk.Yaml.Lexer

/-!
# Reading goes on

Nothing that is read is read again: behind each token less of the text is left. So there is always
enough fuel, and more of it makes no difference.

* `Cursor.left` : how much of the text is left at a place;
* `Leaves` : what is read leaves no more than so many characters;
* `token_leaves` : a token takes at least one character;
* `run_eq_of_left_lt` : any fuel beyond the length of the text gives the same tokens.
-/

namespace FolderTalk.Yaml

namespace Cursor

/-- The number of characters that are left. -/
def left (c : Cursor) : Nat := c.rest.length

variable (c : Cursor)

@[simp] theorem next_left : c.next.left = c.left - 1 := by
  rw [left, next_rest, List.length_tail, left]

@[simp] theorem skip_left (n : Nat) : (c.skip n).left = c.left - n := by
  rw [left, skip_rest, List.length_drop, left]

theorem span_left_le (p : Char → Bool) : (c.span p).2.left ≤ c.left := by
  rw [span, skip_left]
  exact Nat.sub_le _ _

theorem skipWhile_left_le (p : Char → Bool) : (c.skipWhile p).left ≤ c.left := c.span_left_le p

theorem lineBreak_left_le : c.lineBreak.2.left ≤ c.left := by
  unfold lineBreak
  split
  · simp
  · split
    · simp
    · split <;> simp
  · exact Nat.le_refl _

theorem lineBreak_left_lt (h : isBreak c.peek) : c.lineBreak.2.left < c.left := by
  obtain ⟨ch, cs, hc⟩ : ∃ ch cs, c.rest = ch :: cs := by
    cases hc : c.rest with
    | nil => simp [peek, hc, isBreak] at h
    | cons ch cs => exact ⟨ch, cs, rfl⟩
  have hpos : 0 < c.left := by simp [left, hc]
  rw [peek_of_cons hc] at h
  unfold lineBreak
  split
  · rw [skip_left]
    omega
  · next d ds hd =>
    obtain ⟨rfl, rfl⟩ := List.cons.inj (hc.symm.trans hd)
    rw [if_pos h]
    split <;> rw [next_left] <;> omega
  · next hnil => simp [hc] at hnil

variable {c} in
/-- There is something left before the end. -/
theorem exists_rest_of_not_isEnd (h : isEnd c.peek = false) : ∃ ch cs, c.rest = ch :: cs := by
  cases hc : c.rest with
  | nil => simp [peek, hc, isEnd] at h
  | cons ch cs => exact ⟨ch, cs, rfl⟩

theorem skipComment_left_le : c.skipComment.left ≤ c.left := by
  unfold skipComment
  have hblanks := c.skipWhile_left_le (· == ' ')
  dsimp only
  split
  · exact (skipWhile_left_le _ _).trans hblanks
  · exact hblanks

end Cursor

open Cursor

/-! ## What is left behind what is read -/

/-- What is read leaves at most `n` characters; `place` is the place behind it. -/
def Leaves {α : Type} (place : α → Cursor) (n : Nat) (x : Except ReadError α) : Prop :=
  ∀ a, x = .ok a → (place a).left ≤ n

section Leaves

variable {α β : Type} {place : α → Cursor} {place' : β → Cursor} {n m : Nat}
  {x : Except ReadError α}

theorem leaves_ok {a : α} (h : (place a).left ≤ n) : Leaves place n (.ok a) := by
  rintro _ ⟨⟩
  exact h

theorem leaves_error (e : ReadError) : Leaves place n (.error e) := by
  rintro _ ⟨⟩

theorem Leaves.bind {f : α → Except ReadError β} (hx : Leaves place n x)
    (hf : ∀ a, (place a).left ≤ n → Leaves place' m (f a)) : Leaves place' m (x >>= f) := by
  cases x with
  | ok a => exact hf a (hx a rfl)
  | error e => exact leaves_error e

theorem Leaves.mono (hx : Leaves place n x) (h : n ≤ m) : Leaves place m x :=
  fun a ha => (hx a ha).trans h

end Leaves

theorem restOfLine_leaves (c : Cursor) : Leaves id c.left c.restOfLine := by
  unfold restOfLine
  dsimp only
  split
  · exact leaves_ok ((lineBreak_left_le _).trans c.skipComment_left_le)
  · exact leaves_error _

/-! ## Scalars -/

theorem quotedBreaks_leaves (fuel : Nat) (done : List Char) (c : Cursor) :
    Leaves Prod.snd c.left (quotedBreaks fuel done c) := by
  induction fuel generalizing done c with
  | zero => exact leaves_ok (Nat.le_refl _)
  | succ fuel ih =>
    have hblanks := c.skipWhile_left_le isSpaceOrTab
    rw [quotedBreaks]
    dsimp only
    split
    · exact leaves_error _
    · split
      · exact (ih _ _).mono ((lineBreak_left_le _).trans hblanks)
      · exact leaves_ok hblanks

theorem quotedSpace_leaves (c : Cursor) : Leaves Prod.snd c.left (quotedSpace c) := by
  have hblanks := c.span_left_le isSpaceOrTab
  unfold quotedSpace
  dsimp only
  split
  · exact leaves_error _
  · split
    · refine (quotedBreaks_leaves _ _ _).bind fun r hr => leaves_ok (hr.trans ?_)
      exact (lineBreak_left_le _).trans hblanks
    · exact leaves_ok hblanks

theorem quotedWord_leaves (double : Bool) (fuel : Nat) (done : List Char) (c : Cursor) :
    Leaves Prod.snd c.left (quotedWord double fuel done c) := by
  induction fuel generalizing done c with
  | zero => exact leaves_ok (Nat.le_refl _)
  | succ fuel ih =>
    have hword := c.span_left_le fun ch => ch != '\'' && ch != '"' && ch != '\\' && !endsWord ch
    rw [quotedWord]
    dsimp only
    generalize (c.span fun ch => ch != '\'' && ch != '"' && ch != '\\' && !endsWord ch).2 = d at hword
    have hon : ∀ {x : Except ReadError (List Char × Cursor)} {e : Cursor}, Leaves Prod.snd e.left x →
        e.left ≤ d.left → Leaves Prod.snd c.left x := fun h he => h.mono (he.trans hword)
    split
    · exact hon (ih _ _) (by simp)
    · split
      · exact hon (ih _ _) (by simp)
      · split
        · split
          · exact hon (ih _ _) (by simp; omega)
          · split
            · exact leaves_error _
            · split
              · exact leaves_error _
              · split
                · exact hon (ih _ _) (by simp; omega)
                · exact leaves_error _
          · split
            · split
              · next r hr =>
                have hbreaks := quotedBreaks_leaves _ _ _ _ hr
                refine hon (ih _ _) (hbreaks.trans ((lineBreak_left_le _).trans ?_))
                simp
              · exact leaves_error _
            · exact leaves_error _
        · exact leaves_ok hword

theorem quotedWords_leaves (double : Bool) (fuel : Nat) (done : List Char) (c : Cursor) :
    Leaves Prod.snd c.left (quotedWords double fuel done c) := by
  induction fuel generalizing done c with
  | zero => exact leaves_error _
  | succ fuel ih =>
    rw [quotedWords]
    refine (quotedWord_leaves double _ _ c).bind fun ⟨word, d⟩ hd => ?_
    dsimp only at hd ⊢
    generalize (if double then '"' else '\'') = mark
    split
    · exact leaves_ok (by simpa using by omega)
    · exact (quotedSpace_leaves d).bind fun r hr => (ih _ _).mono (hr.trans hd)

theorem quotedScalar_leaves (double : Bool) (c : Cursor) :
    Leaves Prod.snd (c.left - 1) (quotedScalar double c) := by
  rw [← next_left]
  exact quotedWords_leaves double _ [] c.next

theorem plainBreaks_left_le (fuel : Nat) (done : List Char) (c : Cursor) :
    (plainBreaks fuel done c).2.left ≤ c.left := by
  induction fuel generalizing done c with
  | zero => exact Nat.le_refl _
  | succ fuel ih =>
    rw [plainBreaks]
    split
    · exact (ih _ _).trans (by simp)
    · split
      · dsimp only
        split
        · exact c.lineBreak_left_le
        · exact (ih _ _).trans c.lineBreak_left_le
      · exact Nat.le_refl _

theorem plainSpace_left_le (c : Cursor) : (plainSpace c).2.2.left ≤ c.left := by
  have hblanks := c.span_left_le (· == ' ')
  unfold plainSpace
  dsimp only
  generalize (c.span (· == ' ')).2 = d at hblanks
  have hline := d.lineBreak_left_le.trans hblanks
  split
  · split
    · exact hline
    · have hbreaks := plainBreaks_left_le (d.lineBreak.2.rest.length + 1) [] d.lineBreak.2
      split <;> next heq => rw [heq] at hbreaks; exact hbreaks.trans hline
  · exact hblanks

theorem plainWords_left_le (flow : Bool) (indent : Int) (fuel : Nat) (broken : Bool)
    (space done : List Char) (c : Cursor) :
    (plainWords flow indent fuel broken space done c).2.2.left ≤ c.left := by
  induction fuel generalizing broken space done c with
  | zero => exact Nat.le_refl _
  | succ fuel ih =>
    rw [plainWords]
    dsimp only
    generalize (if c.peek == '#' then [] else plainWord flow c.rest) = word
    split
    · exact Nat.le_refl _
    · have hspace : (plainSpace (c.skip word.length)).2.2.left ≤ c.left :=
        (plainSpace_left_le _).trans (by simp)
      split
      · exact hspace
      · exact (ih _ _ _ _).trans hspace

/-- A plain scalar that begins with a word takes at least its first character. -/
theorem plainScalar_left_lt {flow : Bool} {c : Cursor} (indent : Int) (hmark : c.peek ≠ '#')
    (hword : plainWord flow c.rest ≠ []) : (plainScalar flow indent c).2.2.left ≤ c.left - 1 := by
  have hlength : 0 < (plainWord flow c.rest).length := List.length_pos_iff.mpr hword
  have hspace : (plainSpace (c.skip (plainWord flow c.rest).length)).2.2.left ≤ c.left - 1 := by
    refine (plainSpace_left_le _).trans ?_
    rw [skip_left]
    omega
  rw [plainScalar, plainWords]
  simp only [beq_iff_eq, hmark, if_false, List.isEmpty_iff, hword]
  split
  · exact hspace
  · exact (plainWords_left_le _ _ _ _ _ _ _).trans hspace

theorem blockMarks_leaves (c : Cursor) : Leaves (·.2.2) c.left (blockMarks c) := by
  -- what is read first does not move the cursor
  have hstays : ∀ {α : Type} (x : Except ReadError α), Leaves (fun _ => c) c.left x :=
    fun x _ _ => Nat.le_refl _
  unfold blockMarks
  split
  · refine (hstays _).bind fun r _ => ?_
    cases r <;> exact leaves_ok (by simp only [next_left]; omega)
  · refine (hstays _).bind fun r _ => ?_
    cases r with
    | none => exact leaves_ok (Nat.le_refl _)
    | some n =>
      dsimp only
      split <;> exact leaves_ok (by simp only [next_left]; omega)

theorem leadingBreaks_left_le (fuel widest : Nat) (done : List Char) (c : Cursor) :
    (leadingBreaks fuel widest done c).2.2.left ≤ c.left := by
  induction fuel generalizing widest done c with
  | zero => exact Nat.le_refl _
  | succ fuel ih =>
    rw [leadingBreaks]
    dsimp only
    split
    · exact (ih _ _ _).trans (by simp)
    · split
      · exact (ih _ _ _).trans c.lineBreak_left_le
      · exact Nat.le_refl _

theorem skipIndent_left_le (indent fuel : Nat) (c : Cursor) :
    (skipIndent indent fuel c).left ≤ c.left := by
  induction fuel generalizing c with
  | zero => exact Nat.le_refl _
  | succ fuel ih =>
    rw [skipIndent]
    split
    · exact (ih _).trans (by simp)
    · exact Nat.le_refl _

theorem blockBreaks_left_le (indent fuel : Nat) (done : List Char) (c : Cursor) :
    (blockBreaks indent fuel done c).2.left ≤ c.left := by
  induction fuel generalizing done c with
  | zero => exact Nat.le_refl _
  | succ fuel ih =>
    have hindent := skipIndent_left_le indent indent c
    rw [blockBreaks]
    dsimp only
    split
    · exact (ih _ _).trans ((lineBreak_left_le _).trans hindent)
    · exact hindent

theorem blockLines_left_le (fold : Bool) (indent fuel : Nat) (done breaks : List Char) (c : Cursor) :
    (blockLines fold indent fuel done breaks c).2.2.2.left ≤ c.left := by
  induction fuel generalizing done breaks c with
  | zero => exact Nat.le_refl _
  | succ fuel ih =>
    have hline := (lineBreak_left_le _).trans (c.span_left_le fun ch => !isBreak ch)
    rw [blockLines]
    dsimp only
    generalize (c.span fun ch => !isBreak ch).2.lineBreak.2 = d at hline
    have hbreaks := (blockBreaks_left_le indent (d.rest.length + 1) [] d).trans hline
    split
    · exact (ih _ _ _).trans hbreaks
    · exact hbreaks

theorem blockScalar_leaves (fold : Bool) (outer : Int) (c : Cursor) :
    Leaves Prod.snd (c.left - 1) (blockScalar fold outer c) := by
  rw [← next_left, blockScalar]
  refine (blockMarks_leaves c.next).bind fun ⟨chomping, increment, d⟩ hd => ?_
  dsimp only at hd ⊢
  split
  · exact leaves_error _
  · refine (restOfLine_leaves d).bind fun e he => ?_
    have hbegin := he.trans hd
    cases increment with
    | none =>
      have hbreaks := (leadingBreaks_left_le (e.rest.length + 1) 0 [] e).trans hbegin
      refine leaves_ok ?_
      dsimp only
      split
      · exact (blockLines_left_le _ _ _ _ _ _).trans hbreaks
      · exact hbreaks
    | some n =>
      have hbreaks := (blockBreaks_left_le ((max (outer + 1) 1).toNat + n - 1) (e.rest.length + 1)
        [] e).trans hbegin
      refine leaves_ok ?_
      dsimp only
      split
      · exact (blockLines_left_le _ _ _ _ _ _).trans hbreaks
      · exact hbreaks

/-! ## Names and directives -/

namespace Lexer

theorem anchorName_leaves (c : Cursor) : Leaves Prod.snd (c.left - 1) (anchorName c) := by
  have hname := c.next.span_left_le isNameChar
  rw [next_left] at hname
  unfold anchorName
  dsimp only
  split
  · exact leaves_error _
  · exact leaves_ok hname

theorem percentBytes_leaves (fuel : Nat) (bytes : List UInt8) (c : Cursor) :
    Leaves Prod.snd c.left (percentBytes fuel bytes c) := by
  induction fuel generalizing bytes c with
  | zero => exact leaves_ok (Nat.le_refl _)
  | succ fuel ih =>
    rw [percentBytes]
    split
    · exact leaves_ok (Nat.le_refl _)
    · split
      · exact (ih _ _).mono (by simp)
      · exact leaves_error _

theorem uriParts_leaves (fuel : Nat) (done : List Char) (c : Cursor) :
    Leaves Prod.snd c.left (uriParts fuel done c) := by
  induction fuel generalizing done c with
  | zero => exact leaves_ok (Nat.le_refl _)
  | succ fuel ih =>
    have hrun := c.span_left_le isUriChar
    rw [uriParts]
    dsimp only
    split
    · refine (percentBytes_leaves _ _ _).bind fun r hr => ?_
      split
      · exact (ih _ _).mono (hr.trans hrun)
      · exact leaves_error _
    · exact leaves_ok hrun

theorem uri_leaves (c : Cursor) : Leaves Prod.snd c.left (uri c) := by
  refine (uriParts_leaves _ [] c).bind fun r hr => ?_
  dsimp only
  split
  · exact leaves_error _
  · exact leaves_ok hr

theorem handle_leaves (c : Cursor) : Leaves Prod.snd (c.left - 1) (handle c) := by
  have hname := c.next.span_left_le isNameChar
  rw [next_left] at hname
  unfold handle
  dsimp only
  split
  · exact leaves_error _
  · split
    · exact leaves_ok (by simp)
    · split
      · refine leaves_ok ?_
        rw [next_left]
        omega
      · exact leaves_error _

theorem digits_leaves (c : Cursor) : Leaves Prod.snd c.left (digits c) := by
  unfold digits
  dsimp only
  split
  · exact leaves_error _
  · exact leaves_ok (c.span_left_le _)

/-- The end of a line word behind what is read. -/
theorem finished_leaves {α : Type} {a : α} {c : Cursor} {n : Nat} (h : c.left ≤ n) :
    Leaves Prod.snd n (if endsLineWord c.peek then (pure (a, c) : Except ReadError (α × Cursor))
      else throw .malformed) := by
  split
  · exact leaves_ok h
  · exact leaves_error _

theorem tagToken_leaves (c : Cursor) : Leaves Prod.snd (c.left - 1) (tagToken c) := by
  unfold tagToken
  simp only [pure_bind]
  split
  · refine (uri_leaves _).bind fun r hr => ?_
    rw [skip_left] at hr
    split
    · exact finished_leaves (by rw [next_left]; omega)
    · exact leaves_error _
  · split
    · exact finished_leaves (by rw [next_left])
    · split
      · refine (handle_leaves _).bind fun r hr => ?_
        exact (uri_leaves _).bind fun r' hr' => finished_leaves (hr'.trans hr)
      · refine (uri_leaves _).bind fun r hr => finished_leaves ?_
        exact hr.trans (by rw [next_left])

theorem directive_leaves (c : Cursor) : Leaves Prod.snd (c.left - 1) (directive c) := by
  have hlast : ∀ {d : Directive} {e : Cursor}, e.left ≤ c.left - 1 → Leaves Prod.snd (c.left - 1)
      (e.restOfLine >>= fun e => (pure (d, e) : Except ReadError (Directive × Cursor))) := by
    intro d e he
    exact (restOfLine_leaves e).bind fun e' he' => leaves_ok (he'.trans he)
  have hname := c.next.span_left_le isNameChar
  rw [next_left] at hname
  unfold directive
  simp only [pure_bind]
  generalize (c.next.span isNameChar).2 = d at hname
  have hblank := d.skipWhile_left_le fun ch => ch == ' '
  split
  · exact leaves_error _
  · split
    · refine (digits_leaves _).bind fun r hr => ?_
      split
      · exact leaves_error _
      · refine (digits_leaves _).bind fun r' hr' => ?_
        rw [next_left] at hr'
        split
        · exact hlast (by omega)
        · exact leaves_error _
    · split
      · refine (handle_leaves _).bind fun r hr => ?_
        split
        · exact leaves_error _
        · refine (uri_leaves _).bind fun r' hr' => ?_
          have hblank' := r.2.skipWhile_left_le fun ch => ch == ' '
          split
          · exact hlast (by omega)
          · exact leaves_error _
      · exact hlast ((skipWhile_left_le _ _).trans hname)

/-! ## Tokens -/

variable (l : Lexer)

theorem unwind_cursor (column : Int) : (l.unwind column).cursor = l.cursor := by
  have hgo : ∀ outer (l : Lexer), (unwind.go column outer l).cursor = l.cursor := by
    intro outer
    induction outer with
    | nil => exact fun _ => rfl
    | cons x xs ih =>
      intro l
      rw [unwind.go]
      split
      · exact ih _
      · rfl
  unfold unwind
  split
  · rfl
  · exact hgo _ _

theorem opened_cursor (column : Nat) (mark : Lexer → Lexer) (hmark : ∀ l, (mark l).cursor = l.cursor) :
    (if l.inFlow then l else l.openBlock column mark).cursor = l.cursor := by
  split
  · rfl
  · unfold openBlock
    split
    · exact hmark _
    · rfl

variable {l} {l' : Lexer}

theorem dropStaleKeys_frame (h : l.dropStaleKeys = .ok l') : ∃ keys, l' = { l with keys := keys } := by
  unfold dropStaleKeys at h
  dsimp only at h
  split at h
  · cases h
  · exact ⟨_, (Except.ok.inj h).symm⟩

theorem dropKey_frame (h : l.dropKey = .ok l') : ∃ keys, l' = { l with keys := keys } := by
  unfold dropKey at h
  split at h
  · exact ⟨_, (Except.ok.inj h).symm⟩
  · split at h
    · cases h
    · exact ⟨_, (Except.ok.inj h).symm⟩

theorem noteKey_frame (h : l.noteKey = .ok l') : ∃ keys, l' = { l with keys := keys } := by
  unfold noteKey at h
  split at h
  · cases hdrop : l.dropKey with
    | error e => simp [hdrop, bind, Except.bind] at h
    | ok l₁ =>
      obtain ⟨keys, rfl⟩ := dropKey_frame hdrop
      simp only [hdrop, bind, Except.bind] at h
      exact ⟨_, (Except.ok.inj h).symm⟩
  · exact ⟨_, (Except.ok.inj h).symm⟩

theorem endDocument_cursor (h : l.endDocument = .ok l') : l'.cursor = l.cursor := by
  unfold endDocument at h
  cases hdrop : (l.unwind (-1)).dropKey with
  | error e => simp [hdrop, bind, Except.bind] at h
  | ok l₁ =>
    obtain ⟨keys, rfl⟩ := dropKey_frame hdrop
    simp only [hdrop, bind, Except.bind] at h
    rw [← Except.ok.inj h]
    exact unwind_cursor l (-1)

theorem skipToToken_left_le (fuel : Nat) (l : Lexer) :
    (skipToToken fuel l).cursor.left ≤ l.cursor.left := by
  induction fuel generalizing l with
  | zero => exact Nat.le_refl _
  | succ fuel ih =>
    have hcomment := l.cursor.skipComment_left_le
    rw [skipToToken]
    split
    · exact (ih _).trans ((lineBreak_left_le _).trans hcomment)
    · exact hcomment

theorem leaf_leaves {read : Lexer → Except ReadError (Token × Bool × Cursor)}
    (hread : ∀ keys, Leaves (·.2.2) (l.cursor.left - 1) (read { l with keys := keys })) :
    Leaves cursor (l.cursor.left - 1) (l.leaf read) := by
  unfold leaf
  cases hnote : l.noteKey with
  | error e => exact leaves_error e
  | ok l₁ =>
    obtain ⟨keys, rfl⟩ := noteKey_frame hnote
    exact (hread keys).bind fun r hr => leaves_ok hr

/-- A mark of one character. -/
theorem mark_leaves (t : Token) {l₁ : Lexer} (h : l₁.cursor = l.cursor) :
    Leaves cursor (l.cursor.left - 1)
      (l₁.dropKey >>= fun l => (pure ((l.move 1).emit t) : Except ReadError Lexer)) := by
  cases hdrop : l₁.dropKey with
  | error e => exact leaves_error e
  | ok l₂ =>
    obtain ⟨keys, rfl⟩ := dropKey_frame hdrop
    refine leaves_ok ?_
    show (l₁.cursor.skip 1).left ≤ _
    rw [h, skip_left]

theorem openFlow_leaves (t : Token) : Leaves cursor (l.cursor.left - 1) (l.openFlow t) := by
  unfold openFlow
  cases hnote : l.noteKey with
  | error e => exact leaves_error e
  | ok l₁ =>
    obtain ⟨keys, rfl⟩ := noteKey_frame hnote
    exact leaves_ok (skip_left l.cursor 1).le

theorem closeFlow_leaves (t : Token) : Leaves cursor (l.cursor.left - 1) (l.closeFlow t) := by
  unfold closeFlow
  cases hdrop : l.dropKey with
  | error e => exact leaves_error e
  | ok l₁ =>
    obtain ⟨keys, rfl⟩ := dropKey_frame hdrop
    exact leaves_ok (skip_left l.cursor 1).le

theorem blockEntry_leaves : Leaves cursor (l.cursor.left - 1) l.blockEntry := by
  have hopened := opened_cursor l l.cursor.column (fun l => l.emit .blockList) fun _ => rfl
  unfold blockEntry
  dsimp only
  split
  · exact leaves_error _
  · exact mark_leaves _ hopened

theorem markedKey_leaves : Leaves cursor (l.cursor.left - 1) l.markedKey := by
  have hopened := opened_cursor l l.cursor.column (fun l => l.emit .blockMap) fun _ => rfl
  unfold markedKey
  dsimp only
  split
  · exact leaves_error _
  · exact mark_leaves _ hopened

theorem colon_leaves : Leaves cursor (l.cursor.left - 1) l.colon := by
  unfold colon
  split
  · next k _ =>
    have hopened := opened_cursor
      ({ l with keys := l.keys.filter fun k => k.1 != l.flowDepth }.insert k.position .key)
      k.start.column (fun l => l.insert k.position .blockMap) fun _ => rfl
    refine leaves_ok ?_
    show (Cursor.skip 1 _).left ≤ _
    rw [skip_left, hopened]
    exact Nat.le_refl _
  · have hopened := opened_cursor l l.cursor.column (fun l => l.emit .blockMap) fun _ => rfl
    dsimp only
    split
    · exact leaves_error _
    · exact mark_leaves _ hopened

theorem block_leaves (fold : Bool) : Leaves cursor (l.cursor.left - 1) (l.block fold) := by
  unfold block
  cases hdrop : { l with allowKey := true }.dropKey with
  | error e => exact leaves_error e
  | ok l₁ =>
    obtain ⟨keys, rfl⟩ := dropKey_frame hdrop
    exact (blockScalar_leaves fold _ _).bind fun r hr => leaves_ok hr

theorem documentMark_leaves (t : Token) : Leaves cursor (l.cursor.left - 1)
    (l.endDocument >>= fun l => (pure ((l.move 3).emit t) : Except ReadError Lexer)) := by
  cases hend : l.endDocument with
  | error e => exact leaves_error e
  | ok l₁ =>
    refine leaves_ok ?_
    show (l₁.cursor.skip 3).left ≤ _
    rw [endDocument_cursor hend, skip_left]
    omega

theorem directiveToken_leaves : Leaves cursor (l.cursor.left - 1)
    (do
      let l ← l.endDocument
      let (d, c) ← directive l.cursor
      return { l with cursor := c }.emit (.directive d) : Except ReadError Lexer) := by
  cases hend : l.endDocument with
  | error e => exact leaves_error e
  | ok l₁ =>
    rw [← endDocument_cursor hend]
    exact (directive_leaves l₁.cursor).bind fun r hr => leaves_ok hr

/-- A plain scalar that may begin takes a character. -/
theorem plainWord_of_beginsPlain (h : l.beginsPlain) (hmore : isEnd l.cursor.peek = false) :
    l.cursor.peek ≠ '#' ∧ plainWord l.inFlow l.cursor.rest ≠ [] := by
  obtain ⟨ch, cs, hc⟩ := exists_rest_of_not_isEnd hmore
  have hnext : l.cursor.peekAt 1 = cs.headD '\x00' := by rw [peekAt, hc, List.drop_one, List.tail_cons]
  unfold beginsPlain at h
  rw [peek_of_cons hc, hnext] at h
  rw [peek_of_cons hc, hc, plainWord]
  rcases (Bool.or_eq_true _ _).mp h with hfree | hmark
  · simp at hfree
    simp [isFlowMark, hfree]
  · simp at hmark
    obtain ⟨hword, rfl | ⟨hflow, rfl | rfl⟩⟩ := hmark
    · simp [endsWord, isBreak, isEnd, isFlowMark]
    · simp [hflow, endsWord, isBreak, isEnd]
    · simp [hflow, hword, show endsWord ':' = false by decide]

theorem leaves_ite {p : Prop} [Decidable p] {n : Nat} {x y : Except ReadError Lexer}
    (hx : p → Leaves cursor n x) (hy : ¬ p → Leaves cursor n y) :
    Leaves cursor n (if p then x else y) := by
  split
  · next h => exact hx h
  · next h => exact hy h

/-- **A token takes at least one character.** -/
theorem token_leaves (hmore : isEnd l.cursor.peek = false) :
    Leaves cursor (l.cursor.left - 1) l.token := by
  have hmap : ∀ {α : Type} {x : Except ReadError (α × Cursor)} {f : α × Cursor → Token × Bool × Cursor},
      Leaves Prod.snd (l.cursor.left - 1) x → (∀ r, (f r).2.2 = r.2) →
      Leaves (·.2.2) (l.cursor.left - 1) (x.map f) := by
    intro α x f hx hf
    cases x with
    | error e => exact leaves_error e
    | ok r => exact leaves_ok (by rw [hf]; exact hx r rfl)
  unfold token
  refine leaves_ite (fun _ => directiveToken_leaves) fun _ => ?_
  refine leaves_ite (fun _ => documentMark_leaves _) fun _ => ?_
  refine leaves_ite (fun _ => documentMark_leaves _) fun _ => ?_
  refine leaves_ite (fun _ => openFlow_leaves _) fun _ => ?_
  refine leaves_ite (fun _ => openFlow_leaves _) fun _ => ?_
  refine leaves_ite (fun _ => closeFlow_leaves _) fun _ => ?_
  refine leaves_ite (fun _ => closeFlow_leaves _) fun _ => ?_
  refine leaves_ite (fun _ => mark_leaves _ rfl) fun _ => ?_
  refine leaves_ite (fun _ => blockEntry_leaves) fun _ => ?_
  refine leaves_ite (fun _ => markedKey_leaves) fun _ => ?_
  refine leaves_ite (fun _ => colon_leaves) fun _ => ?_
  refine leaves_ite (fun _ => leaf_leaves fun keys => hmap (anchorName_leaves _) fun _ => rfl)
    fun _ => ?_
  refine leaves_ite (fun _ => leaf_leaves fun keys => hmap (anchorName_leaves _) fun _ => rfl)
    fun _ => ?_
  refine leaves_ite (fun _ => leaf_leaves fun keys => hmap (tagToken_leaves _) fun _ => rfl) fun _ => ?_
  refine leaves_ite (fun _ => block_leaves _) fun _ => leaves_ite (fun _ => block_leaves _) fun _ => ?_
  refine leaves_ite (fun _ => leaf_leaves fun keys => hmap (quotedScalar_leaves _ _) fun _ => rfl)
    fun _ => ?_
  refine leaves_ite (fun hbegins => leaf_leaves fun keys => leaves_ok ?_) fun _ => leaves_error _
  obtain ⟨hmark, hword⟩ := plainWord_of_beginsPlain hbegins hmore
  exact plainScalar_left_lt _ hmark hword

/-! ## Fuel -/

/-- Any fuel that is more than what is left leads to the next token. -/
theorem skipToToken_eq_of_left_lt (l : Lexer) {fuel fuel' : Nat} (h : l.cursor.left < fuel)
    (h' : l.cursor.left < fuel') : skipToToken fuel l = skipToToken fuel' l := by
  induction fuel generalizing fuel' l with
  | zero => omega
  | succ fuel ih =>
    cases fuel' with
    | zero => omega
    | succ fuel' =>
      have hcomment := l.cursor.skipComment_left_le
      rw [skipToToken, skipToToken]
      split
      · next hbreak =>
        have hline := lineBreak_left_lt _ hbreak
        have hless : l.cursor.skipComment.lineBreak.2.left < fuel := by omega
        have hless' : l.cursor.skipComment.lineBreak.2.left < fuel' := by omega
        exact ih _ hless hless'
      · rfl

/-- **There is enough fuel**: any that is more than what is left gives the same tokens. -/
theorem run_eq_of_left_lt (l : Lexer) {fuel fuel' : Nat} (h : l.cursor.left < fuel)
    (h' : l.cursor.left < fuel') : run fuel l = run fuel' l := by
  induction fuel generalizing fuel' l with
  | zero => omega
  | succ fuel ih =>
    cases fuel' with
    | zero => omega
    | succ fuel' =>
      rw [run, run]
      cases hstale : (skipToToken (l.cursor.rest.length + 1) l).dropStaleKeys with
      | error e => rfl
      | ok l₁ =>
        have hleft : l₁.cursor.left ≤ l.cursor.left := by
          obtain ⟨keys, rfl⟩ := dropStaleKeys_frame hstale
          exact skipToToken_left_le _ _
        simp only [bind, Except.bind]
        split
        · rfl
        · next hmore =>
          cases htoken : (l₁.unwind l₁.cursor.column).token with
          | error e => rfl
          | ok l₂ =>
            have hless := token_leaves (eq_false_of_ne_true hmore) _ htoken
            rw [unwind_cursor] at hless hmore
            have hpos : 0 < l₁.cursor.left := by
              obtain ⟨ch, cs, hc⟩ := exists_rest_of_not_isEnd (eq_false_of_ne_true hmore)
              simp [left, hc]
            exact ih _ (by omega) (by omega)

end Lexer

end FolderTalk.Yaml
