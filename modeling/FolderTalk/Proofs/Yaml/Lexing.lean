import FolderTalk.Proofs.Yaml.Plain
import FolderTalk.Yaml.Lexer

/-!
# Tokens outside of blocks

A lexer that has no block open, and no key that it would have to find, takes one token after another
from what is left of the text.

* `Stands` : the place of such a lexer;
* `Stands.token_comma`, `Stands.token_quoted`, `Stands.token_plain` : one token;
* `Stands.run_token`, `Stands.run_end` : the steps of a run.
-/

namespace FolderTalk.Yaml

namespace Lexer

/-- Where a lexer stands that has no block open. -/
structure Stands (l : Lexer) (depth : Nat) (ts : List Token) (rest : List Char) : Prop where
  rest : l.cursor.rest = rest
  tokens : l.tokens = ts
  depth : l.flowDepth = depth
  indent : l.indent = -1
  outer : l.outer = []
  keys : ∀ k ∈ l.keys, k.2.required = false

variable {l : Lexer} {depth fuel : Nat} {ts : List Token} {cs : List Char}

/-! ## Keys -/

theorem Stands.dropKey (h : l.Stands depth ts cs) :
    ∃ keys, (∀ k ∈ keys, k.2.required = false) ∧ l.dropKey = .ok { l with keys } := by
  unfold Lexer.dropKey
  cases hkey : l.keys.lookup l.flowDepth with
  | none => exact ⟨l.keys, h.keys, rfl⟩
  | some k =>
    obtain ⟨before, after, hmem, -⟩ := List.lookup_eq_some_iff.mp hkey
    have hk : k.required = false :=
      h.keys (l.flowDepth, k) (hmem ▸ List.mem_append_right before List.mem_cons_self)
    refine ⟨l.keys.filter fun k => k.1 != l.flowDepth,
      fun k hk => h.keys k (List.mem_filter.mp hk).1, ?_⟩
    simp [hk]

theorem Stands.noteKey (h : l.Stands depth ts cs) :
    ∃ l', l.noteKey = .ok l' ∧ l'.Stands depth ts cs ∧ l'.cursor = l.cursor := by
  unfold Lexer.noteKey
  cases hallow : l.allowKey with
  | false => exact ⟨l, rfl, h, rfl⟩
  | true =>
    obtain ⟨keys, hkeys, hdrop⟩ := h.dropKey
    have hrequired : (!l.inFlow && l.indent == (l.cursor.column : Int)) = false := by
      rw [h.indent, Bool.and_eq_false_iff, beq_eq_false_iff_ne]
      right
      omega
    rw [hdrop, hrequired]
    exact ⟨_, rfl, ⟨h.rest, h.tokens, h.depth, h.indent, h.outer,
      List.forall_mem_cons.mpr ⟨rfl, hkeys⟩⟩, rfl⟩

theorem Stands.dropStaleKeys (h : l.Stands depth ts cs) :
    ∃ l', l.dropStaleKeys = .ok l' ∧ l'.Stands depth ts cs := by
  unfold Lexer.dropStaleKeys
  rw [if_neg]
  · exact ⟨_, rfl, ⟨h.rest, h.tokens, h.depth, h.indent, h.outer,
      fun k hk => h.keys k (List.mem_filter.mp hk).1⟩⟩
  · rw [List.any_eq_true]
    rintro ⟨k, hk, hstale⟩
    rw [h.keys k hk, Bool.and_false] at hstale
    cases hstale

theorem Stands.unwind (h : l.Stands depth ts cs) (column : Int) : l.unwind column = l := by
  unfold Lexer.unwind
  rw [h.outer]
  split <;> rfl

/-! ## Between tokens -/

/-- What stands between two tokens. -/
inductive Gap : List Char → Prop where
  | blanks (n : Nat) : Gap (List.replicate n ' ')
  | line (n : Nat) : Gap ('\n' :: List.replicate n ' ')

/-- A character that begins a token. -/
def Begins (c : Char) : Prop := endsWord c = false ∧ c ≠ '#'

theorem skipComment_blanks {c : Cursor} {ch : Char} (n : Nat)
    (hc : c.rest = List.replicate n ' ' ++ ch :: cs) (hch : Begins ch) : c.skipComment = c.skip n := by
  have hskip : c.skipWhile (· == ' ') = c.skip n := by
    rw [Cursor.skipWhile, Cursor.span_append hc, List.length_replicate]
    · intro d hd
      rw [List.eq_of_mem_replicate hd]
      rfl
    · intro d hd
      obtain rfl := Option.mem_some_iff.mp hd
      have hends := hch.1
      simp only [endsWord, Bool.or_eq_false_iff] at hends
      exact hends.1.1.1
  have hpeek := Cursor.peek_of_cons (Cursor.skip_rest_of_blanks hc)
  simp [Cursor.skipComment, hskip, hpeek, hch.2]

theorem Stands.skipToToken_blanks {ch : Char} (n : Nat)
    (h : l.Stands depth ts (List.replicate n ' ' ++ ch :: cs)) (hch : Begins ch) :
    (l.skipToToken (fuel + 1)).Stands depth ts (ch :: cs) := by
  have hrest := Cursor.skip_rest_of_blanks h.rest
  have hbreak : isBreak (l.cursor.skip n).peek = false := by
    rw [Cursor.peek_of_cons hrest]
    exact isBreak_of_endsWord hch.1
  rw [Lexer.skipToToken, skipComment_blanks n h.rest hch]
  simp only [hbreak]
  exact ⟨hrest, h.tokens, h.depth, h.indent, h.outer, h.keys⟩

theorem Stands.skipToToken {gap : List Char} {ch : Char} (hgap : Gap gap)
    (h : l.Stands depth ts (gap ++ ch :: cs)) (hch : Begins ch) :
    (l.skipToToken (l.cursor.rest.length + 1)).Stands depth ts (ch :: cs) := by
  cases hgap with
  | blanks n => exact h.skipToToken_blanks n hch
  | line n =>
    have hrest := h.rest
    rw [List.cons_append] at hrest
    have hpeek := Cursor.peek_of_cons hrest
    have hline : l.cursor.skipComment = l.cursor := by
      have hskip : l.cursor.skipWhile (· == ' ') = l.cursor := by
        rw [Cursor.skipWhile, Cursor.span_cons_of_neg hrest rfl]
      simp [Cursor.skipComment, hskip, hpeek]
    have hnext := Cursor.next_rest_of_cons hrest
    rw [hrest, List.length_cons, Lexer.skipToToken, hline]
    simp only [hpeek, Cursor.lineBreak_of_newLine hrest]
    refine Stands.skipToToken_blanks n ?_ hch
    exact ⟨hnext, h.tokens, h.depth, h.indent, h.outer, h.keys⟩

/-- A step of a run is one token. -/
theorem Stands.run_token {gap : List Char} {ch : Char} (hgap : Gap gap)
    (h : l.Stands depth ts (gap ++ ch :: cs)) (hch : Begins ch) (fuel : Nat) :
    ∃ l' : Lexer, l'.Stands depth ts (ch :: cs) ∧ run (fuel + 1) l = l'.token >>= run fuel := by
  obtain ⟨l', hstale, hl'⟩ := (h.skipToToken hgap hch).dropStaleKeys
  refine ⟨l', hl', ?_⟩
  have hend : isEnd l'.cursor.peek = false := by
    rw [Cursor.peek_of_cons hl'.rest]
    exact isEnd_of_endsWord hch.1
  rw [run, hstale]
  show (if isEnd (l'.unwind _).cursor.peek then _ else _) = _
  rw [hl'.unwind, hend]
  rfl

theorem Stands.run_next {ch : Char} (h : l.Stands depth ts (ch :: cs)) (hch : Begins ch)
    (fuel : Nat) :
    ∃ l' : Lexer, l'.Stands depth ts (ch :: cs) ∧ run (fuel + 1) l = l'.token >>= run fuel :=
  Stands.run_token (.blanks 0) h hch fuel

/-- At the end of the text the run ends. -/
theorem Stands.run_end (h : l.Stands depth ts []) (fuel : Nat) :
    ∃ l', run (fuel + 1) l = .ok l' ∧ l'.tokens = ts := by
  have hpeek : l.cursor.peek = '\x00' := by
    rw [Cursor.peek, h.rest]
    rfl
  have hcomment : l.cursor.skipComment = l.cursor := by
    have hskip : l.cursor.skipWhile (· == ' ') = l.cursor := by
      rw [Cursor.skipWhile, Cursor.span_of_head]
      intro d hd
      rw [h.rest] at hd
      cases hd
    simp [Cursor.skipComment, hskip, hpeek]
  have hskip : l.skipToToken (l.cursor.rest.length + 1) = l := by
    rw [Lexer.skipToToken, hcomment]
    simp only [hpeek]
    rfl
  obtain ⟨l', hstale, hl'⟩ := h.dropStaleKeys
  obtain ⟨keys, -, hdrop⟩ := hl'.dropKey
  have hend : isEnd l'.cursor.peek = true := by
    rw [Cursor.peek, hl'.rest]
    rfl
  refine ⟨{ l' with keys := keys, allowKey := false }, ?_, hl'.tokens⟩
  rw [run, hskip, hstale]
  show (if isEnd (l'.unwind _).cursor.peek then (l'.unwind _).endDocument else _) = _
  rw [hl'.unwind, hend, if_pos rfl, endDocument, hl'.unwind, hdrop]
  rfl

/-! ## One token -/

section Token

variable {ch : Char}

theorem atMarks_of_cons {c : Cursor} (hc : c.rest = ch :: cs) {mark : Char} (h : ch ≠ mark) :
    c.atMarks mark = false := by
  simp [Cursor.atMarks, hc, h]

theorem Stands.move (h : l.Stands depth ts (ch :: cs)) : (l.move 1).Stands depth ts cs :=
  ⟨Cursor.next_rest_of_cons h.rest, h.tokens, h.depth, h.indent, h.outer, h.keys⟩

theorem Stands.peek (h : l.Stands depth ts (ch :: cs)) : l.cursor.peek = ch :=
  Cursor.peek_of_cons h.rest

theorem Stands.emit (h : l.Stands depth ts cs) (t : Token) : (l.emit t).Stands depth (t :: ts) cs :=
  ⟨h.rest, congrArg (t :: ·) h.tokens, h.depth, h.indent, h.outer, h.keys⟩

theorem Stands.token_comma (h : l.Stands depth ts (',' :: cs)) :
    ∃ l', l.token = .ok l' ∧ l'.Stands depth (.flowEntry :: ts) cs := by
  have hallow : Lexer.Stands { l with allowKey := true } depth ts (',' :: cs) :=
    ⟨h.rest, h.tokens, h.depth, h.indent, h.outer, h.keys⟩
  obtain ⟨keys, hkeys, hdrop⟩ := hallow.dropKey
  have hcomma : l.token =
      { l with allowKey := true }.dropKey >>= fun l => .ok ((l.move 1).emit .flowEntry) := by
    unfold Lexer.token
    simp only [h.peek, atMarks_of_cons h.rest (show ',' ≠ '-' by decide),
      atMarks_of_cons h.rest (show ',' ≠ '.' by decide)]
    simp
    rfl
  have hdropped : Lexer.Stands { l with allowKey := true, keys } depth ts (',' :: cs) :=
    ⟨h.rest, h.tokens, h.depth, h.indent, h.outer, hkeys⟩
  rw [hcomma, hdrop]
  exact ⟨_, rfl, hdropped.move.emit .flowEntry⟩

theorem Stands.token_open (h : l.Stands depth ts ('[' :: cs)) :
    ∃ l', l.token = .ok l' ∧ l'.Stands (depth + 1) (.openList :: ts) cs := by
  obtain ⟨l', hnote, hl', -⟩ := h.noteKey
  have hopen : l.token = l.openFlow .openList := by
    unfold Lexer.token
    simp only [h.peek, atMarks_of_cons h.rest (show '[' ≠ '-' by decide),
      atMarks_of_cons h.rest (show '[' ≠ '.' by decide)]
    simp
  have hdeeper : Lexer.Stands { l' with flowDepth := l'.flowDepth + 1, allowKey := true }
      (depth + 1) ts ('[' :: cs) :=
    ⟨hl'.rest, hl'.tokens, congrArg (· + 1) hl'.depth, hl'.indent, hl'.outer, hl'.keys⟩
  rw [hopen, openFlow, hnote]
  exact ⟨_, rfl, hdeeper.move.emit .openList⟩

theorem Stands.token_close (h : l.Stands (depth + 1) ts (']' :: cs)) :
    ∃ l', l.token = .ok l' ∧ l'.Stands depth (.closeList :: ts) cs := by
  obtain ⟨keys, hkeys, hdrop⟩ := h.dropKey
  have hclose : l.token = l.closeFlow .closeList := by
    unfold Lexer.token
    simp only [h.peek, atMarks_of_cons h.rest (show ']' ≠ '-' by decide),
      atMarks_of_cons h.rest (show ']' ≠ '.' by decide)]
    simp
  have hhigher : Lexer.Stands { l with keys, flowDepth := l.flowDepth - 1, allowKey := false }
      depth ts (']' :: cs) :=
    ⟨h.rest, h.tokens, congrArg (· - 1) h.depth, h.indent, h.outer, hkeys⟩
  rw [hclose, closeFlow, hdrop]
  exact ⟨_, rfl, hhigher.move.emit .closeList⟩

/-- A node of one token. -/
theorem Stands.leaf (h : l.Stands depth ts cs)
    {read : Lexer → Except ReadError (Token × Bool × Cursor)} {t : Token} {rest : List Char}
    (hread : ∀ l' : Lexer, l'.Stands depth ts cs → ∃ allowKey c',
      read l' = .ok (t, allowKey, c') ∧ c'.rest = rest) :
    ∃ l', l.leaf read = .ok l' ∧ l'.Stands depth (t :: ts) rest := by
  obtain ⟨l', hnote, hl', -⟩ := h.noteKey
  obtain ⟨allowKey, c', hread, hc'⟩ := hread l' hl'
  rw [Lexer.leaf, hnote]
  show ∃ l₁, (read l' >>= _) = Except.ok l₁ ∧ _
  rw [hread]
  refine ⟨_, rfl, Stands.emit ?_ t⟩
  exact ⟨hc', hl'.tokens, hl'.depth, hl'.indent, hl'.outer, hl'.keys⟩

theorem Stands.token_quoted {double : Bool} {text written : List Char}
    (h : l.Stands depth ts (closing double :: (written ++ closing double :: cs)))
    (hquoted : Quotation double text written) (hcs : ∀ ch ∈ cs.head?, ch ≠ '\'') :
    ∃ l', l.token = .ok l' ∧ l'.Stands depth (.scalar text false :: ts) cs := by
  have htoken : l.token = l.leaf fun l => (quotedScalar double l.cursor).map fun read =>
      (.scalar read.1 false, false, read.2) := by
    have hmarks : ∀ m, m = '-' ∨ m = '.' → closing double ≠ m := by
      rintro m (rfl | rfl) <;> cases double <;> decide
    unfold Lexer.token
    simp only [h.peek, atMarks_of_cons h.rest (hmarks '-' (.inl rfl)),
      atMarks_of_cons h.rest (hmarks '.' (.inr rfl))]
    cases double <;> simp [closing]
  rw [htoken]
  apply h.leaf
  intro l' hl'
  obtain ⟨c', hc', hread⟩ := hquoted.scalar_read hcs hl'.rest
  exact ⟨false, c', by rw [hread]; rfl, hc'⟩

section PlainStart

variable {rest : List Char}

theorem next_visible_of_plainStart (h : PlainStart l.inFlow ch rest) (hrest : l.cursor.rest = ch :: rest)
    (hch : ch = '-' ∨ ch = '?' ∨ ch = ':') : endsWord (l.cursor.peekAt 1) = false := by
  have hnext : l.cursor.peekAt 1 = rest.headD '\x00' := by
    rw [Cursor.peekAt, hrest]
    rfl
  rw [hnext]
  exact h.lone hch

/-- It is not the mark of a key or of a value. -/
theorem no_mark_of_plainStart {m : Char} (h : PlainStart l.inFlow ch rest)
    (hrest : l.cursor.rest = ch :: rest) (hm : m = '?' ∨ m = ':') :
    (ch == m && (l.inFlow || endsWord (l.cursor.peekAt 1))) = false := by
  rw [Bool.and_eq_false_imp, beq_iff_eq]
  rintro rfl
  rw [next_visible_of_plainStart h hrest (.inr hm), Bool.or_false, ← Bool.not_eq_true]
  exact fun hflow => hm.elim (h.flowMarks hflow).1 (h.flowMarks hflow).2

theorem beginsPlain_of_plainStart (h : PlainStart l.inFlow ch rest) (hrest : l.cursor.rest = ch :: rest) :
    l.beginsPlain = true := by
  unfold beginsPlain
  simp only [Cursor.peek_of_cons hrest, h.visible, Bool.false_or, Bool.or_eq_true, Bool.and_eq_true,
    Bool.not_eq_true', beq_iff_eq]
  by_cases hmark : ch = '-' ∨ ch = '?' ∨ ch = ':'
  · refine .inr ⟨next_visible_of_plainStart h hrest hmark, hmark.imp_right fun hmark => ⟨?_, hmark⟩⟩
    rw [← Bool.not_eq_true]
    exact fun hflow => hmark.elim (h.flowMarks hflow).1 (h.flowMarks hflow).2
  · refine .inl ?_
    have hmarks : ∀ m ∈ "-?:,[]\x7b\x7d#&*!|>'\"%@\x60".toList,
        (m == '-' || (m == '?' || m == ':')) || isOpeningMark m :=
      List.all_eq_true.mp (by decide)
    simp only [Bool.or_eq_true, beq_iff_eq] at hmarks
    rw [← Bool.not_eq_true, List.contains_iff_mem]
    exact fun hmem => (hmarks ch hmem).elim hmark fun hopening => h.ne_mark ch hopening rfl

/-- The reader tries a plain scalar where one begins. -/
theorem token_of_plainStart (hrest : l.cursor.rest = ch :: rest)
    (h : PlainStart l.inFlow ch rest) : l.token = l.leaf fun l =>
      let (text, broken, c) := plainScalar l.inFlow (l.indent + 1) l.cursor
      .ok (.scalar text true, broken, c) := by
  have hseparator : ∀ m, m = '-' ∨ m = '.' → l.cursor.atMarks m = false := by
    intro m hm
    rw [Cursor.atMarks, hrest, beq_eq_false_iff_ne.mpr (h.separator m hm), Bool.false_and]
  have hentry : (ch == '-' && endsWord (l.cursor.peekAt 1)) = false := by
    rw [Bool.and_eq_false_imp, beq_iff_eq]
    exact fun hch => next_visible_of_plainStart h hrest (.inl hch)
  unfold Lexer.token
  simp only [Cursor.peek_of_cons hrest, hseparator '-' (.inl rfl), hseparator '.' (.inr rfl),
    no_mark_of_plainStart h hrest (.inl rfl), no_mark_of_plainStart h hrest (.inr rfl), hentry,
    beginsPlain_of_plainStart h hrest]
  simp [h.ne_mark '%' (by decide), h.ne_mark '[' (by decide), h.ne_mark ']' (by decide),
    h.ne_mark '\x7b' (by decide), h.ne_mark '\x7d' (by decide), h.ne_mark ',' (by decide),
    h.ne_mark '*' (by decide), h.ne_mark '&' (by decide), h.ne_mark '!' (by decide),
    h.ne_mark '|' (by decide), h.ne_mark '>' (by decide), h.ne_mark '\'' (by decide),
    h.ne_mark '"' (by decide)]

end PlainStart

theorem Stands.token_plain {text written : List Char} (h : l.Stands depth ts (written ++ cs))
    (hwritten : PlainWriting (depth != 0) text written) (htext : Plain (depth != 0) text)
    (hcs : StopsPlain (depth != 0) cs) :
    ∃ l', l.token = .ok l' ∧ l'.Stands depth (.scalar text true :: ts) cs := by
  have htoken : l.token = l.leaf fun l =>
      let (text, broken, c) := plainScalar l.inFlow (l.indent + 1) l.cursor
      .ok (.scalar text true, broken, c) := by
    obtain ⟨ch, rest, hstart, hplain⟩ := hwritten.start hcs htext
    rw [hstart] at h
    refine token_of_plainStart h.rest ?_
    unfold inFlow
    rwa [h.depth]
  rw [htoken]
  apply h.leaf
  intro l' hl'
  have hflow : l'.inFlow = (depth != 0) := by
    unfold inFlow
    rw [hl'.depth]
  have hindent : (depth != 0) = true ∨ l'.indent + 1 ≤ 0 := by
    rw [hl'.indent]
    exact .inr (by decide)
  obtain ⟨broken, c', hc', hread⟩ := hwritten.read hcs hindent hl'.rest
  exact ⟨broken, c', by rw [hflow, hread], hc'⟩

end Token

end Lexer

end FolderTalk.Yaml
