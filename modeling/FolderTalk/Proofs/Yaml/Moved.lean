import FolderTalk.Yaml.Lexer

/-!
# Reading further down a text

Reading compares places with one another, but it never asks where in the text a place is. So a text
that begins some lines further down is read like one at the top.

* `Cursor.moved`, `Lexer.moved` : the same place, some characters and lines further down;
* `token_moved`, `run_moved` : tokens are the same there.
-/

namespace FolderTalk.Yaml

/-- How far down something is. -/
structure Offset where
  chars : Nat
  lines : Nat

variable (o : Offset)

namespace Cursor

variable (c : Cursor)

/-- The place with the same text behind it, further down. -/
def moved : Cursor := { c with index := c.index + o.chars, line := c.line + o.lines }

@[simp] theorem moved_rest : (c.moved o).rest = c.rest := rfl

@[simp] theorem moved_column : (c.moved o).column = c.column := rfl

@[simp] theorem moved_peek : (c.moved o).peek = c.peek := rfl

@[simp] theorem moved_peekAt (n : Nat) : (c.moved o).peekAt n = c.peekAt n := rfl

@[simp] theorem moved_atSeparator : (c.moved o).atSeparator = c.atSeparator := rfl

@[simp] theorem moved_next : (c.moved o).next = c.next.moved o := by
  unfold next
  rw [moved_rest]
  cases c.rest with
  | nil => rfl
  | cons ch rest =>
    dsimp only
    split <;> simp [moved] <;> omega

@[simp] theorem moved_skip (n : Nat) : (c.moved o).skip n = (c.skip n).moved o := by
  induction n generalizing c with
  | zero => rfl
  | succ n ih => rw [skip, skip, moved_next, ih]

@[simp] theorem moved_span (p : Char → Bool) :
    (c.moved o).span p = ((c.span p).1, (c.span p).2.moved o) := by
  simp [span]

@[simp] theorem moved_skipWhile (p : Char → Bool) :
    (c.moved o).skipWhile p = (c.skipWhile p).moved o := by
  simp [skipWhile]

@[simp] theorem moved_lineBreak :
    (c.moved o).lineBreak = (c.lineBreak.1, c.lineBreak.2.moved o) := by
  unfold lineBreak
  rw [moved_rest]
  split
  · simp
  · split
    · simp
    · split <;> simp
  · rfl

@[simp] theorem moved_skipComment : (c.moved o).skipComment = c.skipComment.moved o := by
  unfold skipComment
  simp only [moved_skipWhile, moved_peek]
  split <;> rfl

@[simp] theorem moved_restOfLine : (c.moved o).restOfLine = c.restOfLine.map (moved o) := by
  unfold restOfLine
  simp only [moved_skipComment, moved_peek, moved_lineBreak]
  split <;> rfl

end Cursor

open Cursor

variable (c : Cursor)

/-! ## Scalars -/

theorem quotedBreaks_moved (fuel : Nat) (done : List Char) :
    quotedBreaks fuel done (c.moved o) = (quotedBreaks fuel done c).map (Prod.map id (moved o)) := by
  induction fuel generalizing done c with
  | zero => rfl
  | succ fuel ih =>
    simp only [quotedBreaks, moved_atSeparator, moved_skipWhile, moved_peek, moved_lineBreak, ih]
    split
    · rfl
    · split <;> rfl

theorem quotedSpace_moved :
    quotedSpace (c.moved o) = (quotedSpace c).map (Prod.map id (moved o)) := by
  simp only [quotedSpace, moved_span, moved_peek, moved_lineBreak, moved_rest, quotedBreaks_moved]
  split
  · rfl
  · split
    · cases quotedBreaks _ _ _ <;> rfl
    · rfl

theorem quotedWord_moved (double : Bool) (fuel : Nat) (done : List Char) :
    quotedWord double fuel done (c.moved o) =
      (quotedWord double fuel done c).map (Prod.map id (moved o)) := by
  induction fuel generalizing done c with
  | zero => rfl
  | succ fuel ih =>
    simp only [quotedWord, moved_span, moved_peek, moved_peekAt, moved_skip, moved_next, moved_rest,
      moved_lineBreak, quotedBreaks_moved, ih]
    split
    · rfl
    · split
      · rfl
      · split
        · split
          · rfl
          · split
            · rfl
            · split
              · rfl
              · split <;> rfl
          · split
            · cases quotedBreaks _ _ _ with
              | ok r => exact ih _ _
              | error e => rfl
            · rfl
        · rfl

theorem quotedWords_moved (double : Bool) (fuel : Nat) (done : List Char) :
    quotedWords double fuel done (c.moved o) =
      (quotedWords double fuel done c).map (Prod.map id (moved o)) := by
  induction fuel generalizing done c with
  | zero => rfl
  | succ fuel ih =>
    simp only [quotedWords, moved_rest, quotedWord_moved]
    cases quotedWord double (c.rest.length + 1) done c with
    | error e => rfl
    | ok r =>
      obtain ⟨word, c⟩ := r
      simp only [Except.map, Prod.map, id, bind, Except.bind, moved_peek, moved_next, quotedSpace_moved]
      generalize (if double = true then '"' else '\'') = mark
      split
      · rfl
      · cases quotedSpace c with
        | error e => rfl
        | ok r => exact ih _ _

@[simp] theorem quotedScalar_moved (double : Bool) :
    quotedScalar double (c.moved o) = (quotedScalar double c).map (Prod.map id (moved o)) := by
  simp only [quotedScalar, moved_next, moved_rest, quotedWords_moved]

theorem plainBreaks_moved (fuel : Nat) (done : List Char) :
    plainBreaks fuel done (c.moved o) = Prod.map id (moved o) (plainBreaks fuel done c) := by
  induction fuel generalizing done c with
  | zero => rfl
  | succ fuel ih =>
    simp only [plainBreaks, moved_peek, moved_next, moved_lineBreak, moved_atSeparator, ih]
    split
    · rfl
    · split
      · split <;> rfl
      · rfl

theorem plainSpace_moved :
    plainSpace (c.moved o) = Prod.map id (Prod.map id (moved o)) (plainSpace c) := by
  simp only [plainSpace, moved_span, moved_peek, moved_lineBreak, moved_atSeparator, moved_rest,
    plainBreaks_moved]
  split
  · split
    · rfl
    · rcases plainBreaks _ _ _ with ⟨_ | others, c⟩ <;> rfl
  · rfl

theorem plainWords_moved (flow : Bool) (indent : Int) (fuel : Nat) (broken : Bool)
    (space done : List Char) :
    plainWords flow indent fuel broken space done (c.moved o) =
      Prod.map id (Prod.map id (moved o)) (plainWords flow indent fuel broken space done c) := by
  induction fuel generalizing broken space done c with
  | zero => rfl
  | succ fuel ih =>
    cases hmark : c.peek == '#' with
    | true => simp [plainWords, hmark]
    | false =>
      simp only [plainWords, moved_peek, hmark, Bool.false_eq_true, if_false, moved_rest, moved_skip,
        plainSpace_moved, Prod.map, id, moved_column, ih]
      split
      · rfl
      · split <;> rfl

@[simp] theorem plainScalar_moved (flow : Bool) (indent : Int) :
    plainScalar flow indent (c.moved o) =
      Prod.map id (Prod.map id (moved o)) (plainScalar flow indent c) := by
  simp only [plainScalar, moved_rest, plainWords_moved]

theorem blockMarks_moved :
    blockMarks (c.moved o) = (blockMarks c).map (Prod.map id (Prod.map id (moved o))) := by
  have hchomping : ∀ c : Cursor, chomping? (c.moved o) = chomping? c := fun _ => rfl
  have hindentation : ∀ c : Cursor, indentation? (c.moved o) = indentation? c := fun _ => rfl
  simp only [blockMarks, hchomping, hindentation, moved_next]
  cases chomping? c with
  | some keep =>
    dsimp only
    rcases indentation? c.next with e | _ | n <;> rfl
  | none =>
    dsimp only
    rcases indentation? c with e | _ | n
    · rfl
    · rfl
    · simp only [bind, Except.bind]
      cases chomping? c.next <;> rfl

theorem leadingBreaks_moved (fuel widest : Nat) (done : List Char) :
    leadingBreaks fuel widest done (c.moved o) =
      Prod.map id (Prod.map id (moved o)) (leadingBreaks fuel widest done c) := by
  induction fuel generalizing widest done c with
  | zero => rfl
  | succ fuel ih =>
    simp only [leadingBreaks, moved_peek, moved_next, moved_column, moved_lineBreak, ih]
    split
    · rfl
    · split <;> rfl

@[simp] theorem skipIndent_moved (indent fuel : Nat) :
    skipIndent indent fuel (c.moved o) = (skipIndent indent fuel c).moved o := by
  induction fuel generalizing c with
  | zero => rfl
  | succ fuel ih =>
    simp only [skipIndent, moved_column, moved_peek, moved_next, ih]
    exact (apply_ite (moved o) _ _ _).symm

theorem blockBreaks_moved (indent fuel : Nat) (done : List Char) :
    blockBreaks indent fuel done (c.moved o) =
      Prod.map id (moved o) (blockBreaks indent fuel done c) := by
  induction fuel generalizing done c with
  | zero => rfl
  | succ fuel ih =>
    simp only [blockBreaks, skipIndent_moved, moved_peek, moved_lineBreak, ih]
    split <;> rfl

theorem blockLines_moved (fold : Bool) (indent fuel : Nat) (done breaks : List Char) :
    blockLines fold indent fuel done breaks (c.moved o) =
      Prod.map id (Prod.map id (Prod.map id (moved o)))
        (blockLines fold indent fuel done breaks c) := by
  induction fuel generalizing done breaks c with
  | zero => rfl
  | succ fuel ih =>
    simp only [blockLines, moved_peek, moved_span, moved_lineBreak, moved_rest, blockBreaks_moved,
      Prod.map, id, moved_column, ih]
    split <;> rfl

@[simp] theorem blockScalar_moved (fold : Bool) (outer : Int) :
    blockScalar fold outer (c.moved o) = (blockScalar fold outer c).map (Prod.map id (moved o)) := by
  simp only [blockScalar, moved_next, blockMarks_moved]
  rcases blockMarks c.next with e | ⟨chomping, increment, c⟩
  · rfl
  · simp only [Except.map, Prod.map, id, bind, Except.bind, moved_peek, moved_restOfLine]
    split
    · rfl
    · rcases c.restOfLine with e | c
      · rfl
      · simp only [moved_rest, leadingBreaks_moved, blockBreaks_moved, Prod.map, id]
        cases increment with
        | none =>
          simp only [moved_peek, moved_column, moved_rest, blockLines_moved, Prod.map, id, pure,
            Except.pure]
          split <;> rfl
        | some n =>
          simp only [moved_peek, moved_column, moved_rest, blockLines_moved, Prod.map, id, pure,
            Except.pure]
          split <;> rfl

/-! ## Names and directives -/

variable {o} in
/-- What is read next after something that is read further down. -/
theorem bind_moved {α β : Type} {x y : Except ReadError (α × Cursor)}
    {f : α × Cursor → Except ReadError (β × Cursor)} (hx : x = y.map (Prod.map id (moved o)))
    (hf : ∀ a c, f (a, c.moved o) = (f (a, c)).map (Prod.map id (moved o))) :
    (x >>= f) = (y >>= f).map (Prod.map id (moved o)) := by
  subst hx
  cases y with
  | error e => rfl
  | ok r => exact hf r.1 r.2

namespace Lexer

@[simp] theorem anchorName_moved :
    anchorName (c.moved o) = (anchorName c).map (Prod.map id (Cursor.moved o)) := by
  simp only [anchorName, moved_next, moved_span, moved_peek]
  split <;> rfl

theorem percentBytes_moved (fuel : Nat) (bytes : List UInt8) :
    percentBytes fuel bytes (c.moved o) =
      (percentBytes fuel bytes c).map (Prod.map id (Cursor.moved o)) := by
  induction fuel generalizing bytes c with
  | zero => rfl
  | succ fuel ih =>
    simp only [percentBytes, moved_peek, moved_peekAt, moved_skip, ih]
    split
    · rfl
    · split <;> rfl

theorem uriParts_moved (fuel : Nat) (done : List Char) :
    uriParts fuel done (c.moved o) = (uriParts fuel done c).map (Prod.map id (Cursor.moved o)) := by
  induction fuel generalizing done c with
  | zero => rfl
  | succ fuel ih =>
    simp only [uriParts, moved_span, moved_peek, moved_rest, percentBytes_moved]
    split
    · cases percentBytes _ _ _ with
      | error e => rfl
      | ok r =>
        obtain ⟨bytes, c⟩ := r
        simp only [Except.map, Prod.map, id, bind, Except.bind]
        split
        · exact ih _ _
        · rfl
    · rfl

@[simp] theorem uri_moved : uri (c.moved o) = (uri c).map (Prod.map id (Cursor.moved o)) := by
  simp only [uri, moved_rest, uriParts_moved]
  cases uriParts (c.rest.length + 1) [] c with
  | error e => rfl
  | ok r =>
    simp only [Except.map, Prod.map, id, bind, Except.bind]
    split <;> rfl

@[simp] theorem handle_moved :
    handle (c.moved o) = (handle c).map (Prod.map id (Cursor.moved o)) := by
  simp only [handle, moved_peek, moved_peekAt, moved_next, moved_span]
  split
  · rfl
  · split
    · rfl
    · split <;> rfl

@[simp] theorem tagToken_moved :
    tagToken (c.moved o) = (tagToken c).map (Prod.map id (Cursor.moved o)) := by
  let last (t : Token) (c : Cursor) : Except ReadError (Token × Cursor) :=
    if endsLineWord c.peek then pure (t, c) else throw .malformed
  have hlast : ∀ t c, last t (c.moved o) = (last t c).map (Prod.map id (Cursor.moved o)) := by
    intro t c
    cases hends : endsLineWord c.peek <;> simp only [last, moved_peek, hends] <;> rfl
  simp only [tagToken, moved_peekAt, moved_skip, moved_next, moved_rest, handle_moved, pure_bind]
  split
  · refine bind_moved (uri_moved o _) fun name c => ?_
    simp only [moved_peek, moved_next]
    split
    · exact hlast _ _
    · rfl
  · split
    · exact hlast _ _
    · split
      · exact bind_moved rfl fun h c => bind_moved (uri_moved o c) fun suffix c => hlast _ c
      · exact bind_moved (uri_moved o _) fun suffix c => hlast _ c

@[simp] theorem digits_moved :
    digits (c.moved o) = (digits c).map (Prod.map id (Cursor.moved o)) := by
  simp only [digits, moved_span]
  split <;> rfl

@[simp] theorem directive_moved :
    directive (c.moved o) = (directive c).map (Prod.map id (Cursor.moved o)) := by
  have hlast : ∀ (d : Directive) (c : Cursor),
      ((c.moved o).restOfLine >>= fun c => (pure (d, c) : Except ReadError (Directive × Cursor))) =
      (c.restOfLine >>= fun c => pure (d, c)).map (Prod.map id (Cursor.moved o)) := by
    intro d c
    rw [moved_restOfLine]
    cases c.restOfLine <;> rfl
  simp only [directive, moved_next, moved_span, moved_peek, moved_skipWhile, pure_bind]
  split
  · rfl
  · split
    · refine bind_moved (digits_moved o _) fun major c => ?_
      simp only [moved_peek, moved_next]
      split
      · rfl
      · refine bind_moved (digits_moved o _) fun _ c => ?_
        cases hends : endsLineWord c.peek with
        | true => simpa only [moved_peek, hends, if_true] using hlast _ _
        | false => simp only [moved_peek, hends, Bool.false_eq_true, if_false]; rfl
    · split
      · refine bind_moved (handle_moved o _) fun h c => ?_
        simp only [moved_peek, moved_skipWhile]
        split
        · rfl
        · refine bind_moved (uri_moved o _) fun name c => ?_
          cases hends : endsLineWord c.peek with
          | true => simpa only [moved_peek, hends, if_true] using hlast _ _
          | false => simp only [moved_peek, hends, Bool.false_eq_true, if_false]; rfl
      · exact hlast _ _

end Lexer

/-! ## Tokens -/

/-- The possible key, further down. -/
def PossibleKey.moved (k : PossibleKey) : PossibleKey := { k with start := k.start.moved o }

namespace Lexer

variable (l : Lexer)

/-- The lexer at the same text, further down. -/
def moved : Lexer :=
  { l with
    cursor := l.cursor.moved o
    keys := l.keys.map (Prod.map id (PossibleKey.moved o)) }

@[simp] theorem moved_cursor : (l.moved o).cursor = l.cursor.moved o := rfl

@[simp] theorem moved_flowDepth : (l.moved o).flowDepth = l.flowDepth := rfl

@[simp] theorem moved_indent : (l.moved o).indent = l.indent := rfl

@[simp] theorem moved_outer : (l.moved o).outer = l.outer := rfl

@[simp] theorem moved_allowKey : (l.moved o).allowKey = l.allowKey := rfl

@[simp] theorem moved_inFlow : (l.moved o).inFlow = l.inFlow := rfl

@[simp] theorem moved_move (n : Nat) : (l.moved o).move n = (l.move n).moved o := by
  simp [move, moved]

theorem unwind_go_moved (column : Int) (outer : List Int) :
    unwind.go column outer (l.moved o) = (unwind.go column outer l).moved o := by
  induction outer generalizing l with
  | nil => rfl
  | cons x xs ih =>
    by_cases hdeeper : l.indent > column
    · rw [unwind.go, unwind.go, if_pos hdeeper, if_pos (show (l.moved o).indent > column from hdeeper)]
      exact ih ({ l with indent := x, outer := xs }.emit .blockEnd)
    · rw [unwind.go, unwind.go, if_neg hdeeper,
        if_neg (show ¬ (l.moved o).indent > column from hdeeper)]

@[simp] theorem unwind_moved (column : Int) :
    (l.moved o).unwind column = (l.unwind column).moved o := by
  simp only [unwind, moved_inFlow, moved_outer, unwind_go_moved]
  split <;> rfl

@[simp] theorem openBlock_moved (column : Nat) {mark : Lexer → Lexer}
    (hmark : ∀ l, mark (moved o l) = (mark l).moved o) :
    (l.moved o).openBlock column mark = (l.openBlock column mark).moved o := by
  by_cases hdeeper : l.indent < column
  · rw [openBlock, openBlock, if_pos hdeeper, if_pos (show (l.moved o).indent < column from hdeeper)]
    exact hmark { l with indent := column, outer := l.indent :: l.outer }
  · rw [openBlock, openBlock, if_neg hdeeper, if_neg (show ¬ (l.moved o).indent < column from hdeeper)]

/-- Keys of other depths, further down. -/
theorem filter_moved (p : Nat × PossibleKey → Bool)
    (hp : ∀ k, p (Prod.map id (PossibleKey.moved o) k) = p k) (keys : List (Nat × PossibleKey)) :
    (keys.map (Prod.map id (PossibleKey.moved o))).filter p =
      (keys.filter p).map (Prod.map id (PossibleKey.moved o)) := by
  rw [List.filter_map]
  congr 2
  exact funext hp

theorem lookup_moved (depth : Nat) :
    (l.moved o).keys.lookup depth = (l.keys.lookup depth).map (PossibleKey.moved o) := by
  show (l.keys.map _).lookup depth = _
  induction l.keys with
  | nil => rfl
  | cons k keys ih =>
    obtain ⟨d, k⟩ := k
    simp only [List.map_cons, Prod.map, id, List.lookup_cons]
    split
    · rfl
    · exact ih

/-- Whether a possible key is given up at the place of the lexer. -/
def isStale (k : Nat × PossibleKey) : Bool :=
  k.2.start.line != l.cursor.line || l.cursor.index > k.2.start.index + 1024

theorem dropStaleKeys_eq : l.dropStaleKeys =
    if l.keys.any fun k => l.isStale k && k.2.required then .error .malformed
    else .ok { l with keys := l.keys.filter fun k => !l.isStale k } := rfl

/-- Both are further down by as much. -/
theorem isStale_moved (k : Nat × PossibleKey) :
    (l.moved o).isStale (Prod.map id (PossibleKey.moved o) k) = l.isStale k := by
  rw [Bool.eq_iff_iff]
  simp [isStale, moved, Cursor.moved, PossibleKey.moved]
  omega

@[simp] theorem dropStaleKeys_moved :
    (l.moved o).dropStaleKeys = l.dropStaleKeys.map (moved o) := by
  have hany : (l.moved o).keys.any (fun k => (l.moved o).isStale k && k.2.required) =
      l.keys.any fun k => l.isStale k && k.2.required := by
    rw [show (l.moved o).keys = l.keys.map (Prod.map id (PossibleKey.moved o)) from rfl, List.any_map]
    congr 1
    exact funext fun k => congrArg (· && k.2.required) (isStale_moved o l k)
  have hfilter : (l.moved o).keys.filter (fun k => !(l.moved o).isStale k) =
      (l.keys.filter fun k => !l.isStale k).map (Prod.map id (PossibleKey.moved o)) := by
    rw [show (l.moved o).keys = l.keys.map (Prod.map id (PossibleKey.moved o)) from rfl,
      List.filter_map]
    congr 2
    exact funext fun k => congrArg (!·) (isStale_moved o l k)
  rw [dropStaleKeys_eq, dropStaleKeys_eq, hany, hfilter]
  split <;> rfl

@[simp] theorem dropKey_moved : (l.moved o).dropKey = l.dropKey.map (moved o) := by
  simp only [dropKey, lookup_moved, moved_flowDepth]
  cases l.keys.lookup l.flowDepth with
  | none => rfl
  | some k =>
    simp only [Option.map_some, show (k.moved o).required = k.required from rfl]
    split
    · rfl
    · rw [show (l.moved o).keys = l.keys.map (Prod.map id (PossibleKey.moved o)) from rfl,
        filter_moved o _ fun _ => rfl]
      rfl

@[simp] theorem noteKey_moved : (l.moved o).noteKey = l.noteKey.map (moved o) := by
  simp only [noteKey, moved_allowKey, dropKey_moved]
  split
  · cases l.dropKey <;> rfl
  · rfl

@[simp] theorem skipToToken_moved (fuel : Nat) :
    skipToToken fuel (l.moved o) = (skipToToken fuel l).moved o := by
  induction fuel generalizing l with
  | zero => rfl
  | succ fuel ih =>
    simp only [skipToToken, moved_cursor, moved_skipComment, moved_peek, moved_lineBreak]
    split
    · exact ih { l with
        cursor := l.cursor.skipComment.lineBreak.2, allowKey := l.allowKey || !l.inFlow }
    · rfl

@[simp] theorem endDocument_moved : (l.moved o).endDocument = l.endDocument.map (moved o) := by
  simp only [endDocument, unwind_moved, dropKey_moved]
  cases (l.unwind (-1)).dropKey <;> rfl

theorem leaf_moved {read : Lexer → Except ReadError (Token × Bool × Cursor)}
    (hread : ∀ l, read (moved o l) = (read l).map (Prod.map id (Prod.map id (Cursor.moved o)))) :
    (l.moved o).leaf read = (l.leaf read).map (moved o) := by
  simp only [leaf, noteKey_moved]
  cases l.noteKey with
  | error e => rfl
  | ok l =>
    simp only [Except.map, bind, Except.bind, hread]
    cases read l <;> rfl

theorem openFlow_moved (t : Token) : (l.moved o).openFlow t = (l.openFlow t).map (moved o) := by
  simp only [openFlow, noteKey_moved]
  cases l.noteKey with
  | error e => rfl
  | ok l =>
    simp only [Except.map, bind, Except.bind, pure, Except.pure]
    exact congrArg (fun l => Except.ok (emit l t))
      (moved_move o { l with flowDepth := l.flowDepth + 1, allowKey := true } 1)

theorem closeFlow_moved (t : Token) : (l.moved o).closeFlow t = (l.closeFlow t).map (moved o) := by
  simp only [closeFlow, dropKey_moved]
  cases l.dropKey with
  | error e => rfl
  | ok l =>
    simp only [Except.map, bind, Except.bind, pure, Except.pure]
    exact congrArg (fun l => Except.ok (emit l t))
      (moved_move o { l with flowDepth := l.flowDepth - 1, allowKey := false } 1)

/-- A mark of one character, after which a key may or may not begin. -/
theorem mark_moved (allowKey : Bool) (t : Token) :
    (({ l.moved o with allowKey := allowKey }.dropKey >>= fun l => pure ((l.move 1).emit t)) :
        Except ReadError Lexer) =
      ({ l with allowKey := allowKey }.dropKey >>= fun l => pure ((l.move 1).emit t)).map (moved o) := by
  rw [show { l.moved o with allowKey := allowKey } = moved o { l with allowKey := allowKey } from rfl,
    dropKey_moved]
  cases { l with allowKey := allowKey }.dropKey with
  | error e => rfl
  | ok l => exact congrArg (fun l => Except.ok (emit l t)) (moved_move o l 1)

/-- The lexer in the block that a mark belongs to. -/
theorem opened_moved (column : Nat) (mark : Lexer → Lexer)
    (hmark : ∀ l, mark (moved o l) = (mark l).moved o) :
    (if (l.moved o).inFlow then l.moved o else (l.moved o).openBlock column mark) =
      (if l.inFlow then l else l.openBlock column mark).moved o := by
  rw [moved_inFlow, openBlock_moved o l column hmark, apply_ite (moved o)]

theorem blockEntry_moved : (l.moved o).blockEntry = l.blockEntry.map (moved o) := by
  unfold blockEntry
  dsimp only
  rw [opened_moved o l _ (·.emit .blockList) fun _ => rfl, mark_moved, moved_inFlow, moved_allowKey]
  split <;> rfl

theorem markedKey_moved : (l.moved o).markedKey = l.markedKey.map (moved o) := by
  unfold markedKey
  dsimp only
  rw [opened_moved o l _ (·.emit .blockMap) fun _ => rfl, mark_moved, moved_inFlow, moved_allowKey]
  split <;> rfl

theorem colon_moved : (l.moved o).colon = l.colon.map (moved o) := by
  unfold colon
  rw [lookup_moved, moved_flowDepth]
  cases l.keys.lookup l.flowDepth with
  | none =>
    dsimp only [Option.map_none]
    rw [opened_moved o l _ (·.emit .blockMap) fun _ => rfl, mark_moved, moved_inFlow, moved_allowKey]
    split <;> rfl
  | some k =>
    let open? (l : Lexer) : Lexer :=
      if l.inFlow then l else l.openBlock k.start.column (·.insert k.position .blockMap)
    let confirm (l : Lexer) : Except ReadError Lexer :=
      pure (({ open? l with allowKey := false }.move 1).emit .value)
    have hconfirm : ∀ l, confirm (l.moved o) = (confirm l).map (moved o) := by
      intro l
      have hopen : open? (l.moved o) = (open? l).moved o :=
        opened_moved o l _ (·.insert k.position .blockMap) fun _ => rfl
      simp only [confirm, hopen]
      exact congrArg (fun l => Except.ok (emit l .value))
        (moved_move o { open? l with allowKey := false } 1)
    let found (l : Lexer) : Lexer :=
      { l with keys := l.keys.filter fun k => k.1 != l.flowDepth }.insert k.position .key
    have hfound : found (l.moved o) = (found l).moved o := by
      simp only [found, show (l.moved o).keys = l.keys.map (Prod.map id (PossibleKey.moved o)) from rfl]
      rw [filter_moved o _ fun _ => rfl]
      rfl
    show confirm (found (l.moved o)) = (confirm (found l)).map (moved o)
    rw [hfound, hconfirm]

theorem block_moved (fold : Bool) : (l.moved o).block fold = (l.block fold).map (moved o) := by
  simp only [block]
  rw [show { l.moved o with allowKey := true } = moved o { l with allowKey := true } from rfl,
    dropKey_moved]
  cases { l with allowKey := true }.dropKey with
  | error e => rfl
  | ok l =>
    simp only [Except.map, bind, Except.bind, moved_indent, moved_cursor, blockScalar_moved]
    cases blockScalar fold l.indent l.cursor <;> rfl

/-- A mark that ends or begins a document. -/
theorem documentMark_moved (t : Token) :
    (((l.moved o).endDocument >>= fun l => pure ((l.move 3).emit t)) : Except ReadError Lexer) =
      (l.endDocument >>= fun l => pure ((l.move 3).emit t)).map (moved o) := by
  rw [endDocument_moved]
  cases l.endDocument with
  | error e => rfl
  | ok l => exact congrArg (fun l => Except.ok (emit l t)) (moved_move o l 3)

theorem directiveToken_moved :
    ((do
        let l ← (l.moved o).endDocument
        let (d, c) ← directive l.cursor
        return { l with cursor := c }.emit (.directive d)) : Except ReadError Lexer) =
      (do
        let l ← l.endDocument
        let (d, c) ← directive l.cursor
        return { l with cursor := c }.emit (.directive d) : Except ReadError Lexer).map (moved o) := by
  rw [endDocument_moved]
  cases l.endDocument with
  | error e => rfl
  | ok l =>
    simp only [Except.map, bind, Except.bind, moved_cursor, directive_moved]
    cases directive l.cursor <;> rfl

variable {o} in
/-- What comes of one of two readings. -/
theorem ite_moved {p : Prop} [Decidable p] {x x' y y' : Except ReadError Lexer}
    (hx : x = x'.map (moved o)) (hy : y = y'.map (moved o)) :
    (if p then x else y) = (if p then x' else y').map (moved o) := by
  split
  · exact hx
  · exact hy

theorem token_moved : (l.moved o).token = l.token.map (moved o) := by
  unfold token
  refine ite_moved (directiveToken_moved o l) ?_
  refine ite_moved (documentMark_moved o l _) (ite_moved (documentMark_moved o l _) ?_)
  refine ite_moved (openFlow_moved o l _) (ite_moved (openFlow_moved o l _) ?_)
  refine ite_moved (closeFlow_moved o l _) (ite_moved (closeFlow_moved o l _) ?_)
  refine ite_moved (mark_moved o l true _) (ite_moved (blockEntry_moved o l) ?_)
  refine ite_moved (markedKey_moved o l) (ite_moved (colon_moved o l) ?_)
  refine ite_moved (leaf_moved o l fun l => ?_) (ite_moved (leaf_moved o l fun l => ?_) ?_)
  · rw [moved_cursor, anchorName_moved]
    cases anchorName l.cursor <;> rfl
  · rw [moved_cursor, anchorName_moved]
    cases anchorName l.cursor <;> rfl
  refine ite_moved (leaf_moved o l fun l => ?_) ?_
  · rw [moved_cursor, tagToken_moved]
    cases tagToken l.cursor <;> rfl
  refine ite_moved (block_moved o l _) (ite_moved (block_moved o l _) ?_)
  refine ite_moved (leaf_moved o l fun l => ?_) (ite_moved (leaf_moved o l fun l => ?_) rfl)
  · simp only [moved_cursor, quotedScalar_moved]
    cases quotedScalar _ l.cursor <;> rfl
  · simp only [moved_cursor, moved_inFlow, moved_indent, plainScalar_moved, Prod.map, id]
    rfl

/-- **Tokens are the same** further down. -/
theorem run_moved (fuel : Nat) : run fuel (l.moved o) = (run fuel l).map (moved o) := by
  induction fuel generalizing l with
  | zero => rfl
  | succ fuel ih =>
    simp only [run, moved_cursor, moved_rest, skipToToken_moved, dropStaleKeys_moved]
    cases (skipToToken (l.cursor.rest.length + 1) l).dropStaleKeys with
    | error e => rfl
    | ok l =>
      simp only [Except.map, bind, Except.bind, moved_cursor, moved_column, unwind_moved, moved_peek,
        endDocument_moved, token_moved]
      split
      · rfl
      · cases (l.unwind l.cursor.column).token with
        | error e => rfl
        | ok l => exact ih l

end Lexer

end FolderTalk.Yaml
