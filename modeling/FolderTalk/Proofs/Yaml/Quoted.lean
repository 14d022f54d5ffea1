import FolderTalk.Proofs.Yaml.Cursor
import FolderTalk.Yaml.Page
import Mathlib.Algebra.Group.Nat.Defs

/-!
# Scalars between quotes are read back

What the writer puts between quotes and what the reader makes of it are both described by one
grammar, in which a text may be written in several ways: blanks may become line breaks, and
characters may have a backslash.

* `Quotation` : the ways to write a text between quotes;
* `ReadsAs` : what the reader makes of what stands before the closing quote;
* `Quotation.read` : each of the ways is read as the text.
-/

namespace FolderTalk.Yaml

/-! ## Ways to write a text between quotes -/

/-- Text with something else than a line break behind its first blanks. -/
def Firm (cs : List Char) : Prop := Solid (cs.dropWhile isSpaceOrTab)

/-- The ways to write a character between quotes, white space without a backslash apart. -/
inductive QuotedChar : (double : Bool) → (written : List Char) → Char → Prop where
  | letter {double : Bool} {c : Char} : Page.needsEscape c = false → c ≠ ' ' → c ≠ '\'' →
      QuotedChar double [c] c
  | doubled : QuotedChar false ['\'', '\''] '\''
  | mark {c : Char} : c = '"' ∨ c = '\\' → QuotedChar false [c] c
  | apostrophe : QuotedChar true ['\''] '\''
  | escaped {c : Char} : Page.needsEscape c → QuotedChar true (Page.escaped c) c
  | blank : QuotedChar true ['\\', ' '] ' '

/-- What `n + 1` line feeds stand for. -/
def breaks (n : Nat) : List Char := folded ['\n'] (List.replicate n '\n')

/-- The ways to write a text between quotes. A line break is followed by blanks, which stand for
nothing. -/
inductive Quotation : (double : Bool) → (text written : List Char) → Prop where
  | nil {double : Bool} : Quotation double [] []
  | char {double : Bool} {u text written : List Char} {c : Char} : QuotedChar double u c →
      Quotation double text written → Quotation double (c :: text) (u ++ written)
  | blank {double : Bool} {text written : List Char} : Firm written →
      Quotation double text written → Quotation double (' ' :: text) (' ' :: written)
  | lines {text written : List Char} (n indent : Nat) : Solid written →
      Quotation false text written →
      Quotation false (breaks n ++ text)
        ('\n' :: (List.replicate n '\n' ++ ' ' :: (List.replicate indent ' ' ++ written)))
  | fold {text written : List Char} (indent : Nat) : Solid written →
      Quotation true text written →
      Quotation true text ('\\' :: '\n' :: ' ' :: (List.replicate indent ' ' ++ written))

theorem Solid.firm {cs : List Char} (h : Solid cs) : Firm cs := by
  unfold Firm
  rwa [h.dropWhile_eq]

/-- Firm text in front of a visible character is blanks in front of one. -/
theorem Firm.split {cs : List Char} {d : Char} (h : Firm cs) (hd : endsWord d = false)
    (ds : List Char) :
    ∃ blanks ch rest, cs ++ d :: ds = blanks ++ ch :: rest ∧ (∀ b ∈ blanks, isSpaceOrTab b) ∧
      endsWord ch = false := by
  have hsplit : cs.takeWhile isSpaceOrTab ++ (cs.dropWhile isSpaceOrTab ++ d :: ds) = cs ++ d :: ds := by
    rw [← List.append_assoc, List.takeWhile_append_dropWhile]
  have hblanks : ∀ b ∈ cs.takeWhile isSpaceOrTab, isSpaceOrTab b := fun b => List.mem_takeWhile_imp
  unfold Firm at h
  cases hrest : cs.dropWhile isSpaceOrTab with
  | nil =>
    rw [hrest] at hsplit
    exact ⟨_, d, ds, hsplit.symm, hblanks, hd⟩
  | cons ch rest =>
    rw [hrest] at hsplit h
    exact ⟨_, ch, rest ++ d :: ds, hsplit.symm, hblanks, h ch rfl⟩

theorem endsWord_of_isSpaceOrTab {c : Char} (h : isSpaceOrTab c) : endsWord c := by
  unfold isSpaceOrTab at h
  simp [endsWord, h]

theorem firm_blank {cs : List Char} : Firm (' ' :: cs) ↔ Firm cs := by
  unfold Firm
  rw [List.dropWhile_cons_of_pos rfl]

theorem escaped_eq_cons (c : Char) : ∃ cs, Page.escaped c = '\\' :: cs := by
  unfold Page.escaped
  split
  · exact ⟨_, rfl⟩
  · split
    · exact ⟨_, rfl⟩
    · split <;> exact ⟨_, rfl⟩

/-- A character that needs no backslash is visible. -/
theorem endsWord_of_needsEscape {c : Char} (h : Page.needsEscape c = false) (hblank : c ≠ ' ') :
    endsWord c = false := by
  rw [← Bool.not_eq_true]
  intro hends
  have hescaped : ∀ d ∈ ['\t', '\n', '\r', '\x85', '\u2028', '\u2029', '\x00'],
      Page.needsEscape d :=
    List.all_eq_true.mp (by decide)
  rcases List.mem_cons.mp (mem_of_endsWord hends) with hc | hc
  · exact hblank hc
  · rw [hescaped c hc] at h
    cases h

theorem QuotedChar.eq_cons {double : Bool} {u : List Char} {c : Char} (h : QuotedChar double u c) :
    ∃ d ds, u = d :: ds ∧ endsWord d = false := by
  cases h with
  | letter h hblank => exact ⟨c, [], rfl, endsWord_of_needsEscape h hblank⟩
  | mark h => exact ⟨c, [], rfl, by rcases h with rfl | rfl <;> rfl⟩
  | escaped h =>
    obtain ⟨cs, hcs⟩ := escaped_eq_cons c
    exact ⟨'\\', cs, hcs, rfl⟩
  | _ => exact ⟨_, _, rfl, rfl⟩

theorem QuotedChar.ne_nil {double : Bool} {u : List Char} {c : Char} (h : QuotedChar double u c) :
    u ≠ [] := by
  obtain ⟨d, ds, rfl, -⟩ := h.eq_cons
  exact List.cons_ne_nil d ds

theorem QuotedChar.solid_append {double : Bool} {u : List Char} {c : Char}
    (h : QuotedChar double u c) (written : List Char) : Solid (u ++ written) := by
  obtain ⟨d, ds, rfl, hd⟩ := h.eq_cons
  exact solid_cons hd

/-! ## Escaped characters are read back -/

theorem hexNumber?_zero (cs : List Char) : hexNumber? ('0' :: cs) = hexNumber? cs := by
  unfold hexNumber?
  rw [List.mapM_cons]
  cases cs.mapM hexValue? <;> rfl

theorem hexNumber?_concat {cs : List Char} {d : Char} {n v : Nat} (hcs : hexNumber? cs = some n)
    (hd : hexValue? d = some v) : hexNumber? (cs ++ [d]) = some (n * 16 + v) := by
  unfold hexNumber? at hcs ⊢
  obtain ⟨digits, hdigits, rfl⟩ := Option.map_eq_some_iff.mp hcs
  simp [List.mapM_append, hdigits, hd]

theorem hexValue?_raised {v : Nat} (hv : v < 16) : ∃ d, asciiRaised [v.digitChar] = [d] ∧
    hexValue? d = some v := by
  have hall : ∀ v < 16, ∃ d, asciiRaised [v.digitChar] = [d] ∧ hexValue? d = some v := by
    intro v hv
    refine ⟨_, rfl, ?_⟩
    revert v
    decide
  exact hall v hv

theorem asciiRaised_append (cs ds : List Char) :
    asciiRaised (cs ++ ds) = asciiRaised cs ++ asciiRaised ds := List.map_append

theorem hexNumber?_toDigits (n : Nat) : hexNumber? (asciiRaised (Nat.toDigits 16 n)) = some n := by
  induction n using Nat.strongRecOn with
  | ind n ih =>
    rw [Nat.toDigits_eq_if (by decide)]
    split
    · next hsmall =>
      obtain ⟨d, hd, hvalue⟩ := hexValue?_raised hsmall
      rw [hd]
      simp [hexNumber?, hvalue]
    · next hlarge =>
      obtain ⟨d, hd, hvalue⟩ := hexValue?_raised (Nat.mod_lt n (by decide : 0 < 16))
      rw [asciiRaised_append, hd, hexNumber?_concat (ih (n / 16) (by omega)) hvalue]
      congr 1
      omega

theorem hexNumber?_capitalHex (width n : Nat) : hexNumber? (Page.capitalHex width n) = some n := by
  have hzeros : ∀ k cs, hexNumber? (asciiRaised (List.replicate k '0') ++ cs) = hexNumber? cs := by
    intro k cs
    induction k with
    | zero => rfl
    | succ k ih =>
      rw [List.replicate_succ]
      exact (hexNumber?_zero _).trans ih
  rw [Page.capitalHex, Text.hexDigits, asciiRaised_append, hzeros, hexNumber?_toDigits]

theorem length_capitalHex {width n : Nat} (hwidth : 0 < width) (h : n < 16 ^ width) :
    (Page.capitalHex width n).length = width := by
  have hlength := (Nat.length_toDigits_le_iff (b := 16) (by decide) hwidth).mpr h
  simp only [Page.capitalHex, Text.hexDigits, asciiRaised, List.length_map, List.length_append,
    List.length_replicate]
  omega

theorem charOfCode_toNat (c : Char) : charOfCode c.toNat = .ok c := by
  have hvalid : c.toNat < 0xd800 ∨ 0xdfff < c.toNat ∧ c.toNat < 0x110000 := c.valid
  have hsurrogate : ¬ ((0xd800 ≤ c.toNat && c.toNat < 0xe000) = true) := by
    simp only [Bool.and_eq_true, decide_eq_true_eq]
    omega
  rw [charOfCode, if_pos (by omega), if_neg hsurrogate, Char.ofNat_toNat]

/-! ## Reading -/

/-- The quote at both ends of a scalar. -/
def closing (double : Bool) : Char := if double then '"' else '\''

/-- What follows after a word between quotes. -/
def afterWord (double : Bool) (fuel : Nat) (r : Except ReadError (List Char × Cursor)) :
    Except ReadError (List Char × Cursor) := do
  let (word, c) ← r
  if c.peek == closing double then return (word, c.next)
  else
    let (space, c) ← quotedSpace c
    quotedWords double fuel (word ++ space) c

theorem quotedWords_succ (double : Bool) (fuel : Nat) (done : List Char) (c : Cursor) :
    quotedWords double (fuel + 1) done c =
      afterWord double fuel (quotedWord double (c.rest.length + 1) done c) := rfl

/-- The characters inside a word between quotes that stand for themselves. -/
def isLetter (c : Char) : Bool := c != '\'' && c != '"' && c != '\\' && !endsWord c

section Reading

variable {double : Bool} {fuel : Nat} {done cs : List Char} {c : Cursor}

theorem quotedWord_letter {ch : Char} (hc : c.rest = ch :: cs) (h : isLetter ch) :
    quotedWord double (fuel + 1) done c = quotedWord double (fuel + 1) (done ++ [ch]) c.next := by
  have hspan := Cursor.span_cons_of_pos hc h
  unfold isLetter at hspan
  rw [quotedWord, quotedWord, hspan]
  simp only [List.append_assoc, List.singleton_append]

/-- No character in front of a mark stands for itself. -/
theorem span_letters_of_mark {ch : Char} (hc : c.rest = ch :: cs) (h : isLetter ch = false) :
    (c.span fun ch => ch != '\'' && ch != '"' && ch != '\\' && !endsWord ch) = ([], c) :=
  Cursor.span_cons_of_neg hc h

theorem isLetter_of_needsEscape {ch : Char} (h : Page.needsEscape ch = false) (hblank : ch ≠ ' ')
    (hquote : ch ≠ '\'') : isLetter ch := by
  have hends := endsWord_of_needsEscape h hblank
  simp only [Page.needsEscape, Bool.or_eq_false_iff] at h
  simp [isLetter, hends, hquote, bne, h.1]

/-- A backslash with a letter for a character. -/
theorem quotedWord_backslash {e ch : Char} (hc : c.rest = '\\' :: e :: cs)
    (he : escapedChar? e = some ch) :
    quotedWord true (fuel + 1) done c = quotedWord true fuel (done ++ [ch]) (c.skip 2) := by
  have hnext := Cursor.next_rest_of_cons hc
  rw [quotedWord, span_letters_of_mark hc rfl]
  simp [Cursor.peek, hc, hnext, he, Cursor.skip]

/-- A backslash with the digits of a code. -/
theorem quotedWord_code {e ch : Char} {width : Nat} (hwidth : 0 < width)
    (hwidth? : escapeWidth? e = some width) (he : escapedChar? e = none)
    (hcode : ch.toNat < 16 ^ width)
    (hc : c.rest = '\\' :: e :: (Page.capitalHex width ch.toNat ++ cs)) :
    quotedWord true (fuel + 1) done c = quotedWord true fuel (done ++ [ch]) (c.skip (width + 2)) := by
  have hnext := Cursor.next_rest_of_cons hc
  have hlength := length_capitalHex hwidth hcode
  have htake : (Page.capitalHex width ch.toNat ++ cs).take width = Page.capitalHex width ch.toNat :=
    List.take_left' hlength
  rw [quotedWord, span_letters_of_mark hc rfl]
  simp [Cursor.peek, hc, hnext, he, hwidth?, htake, hexNumber?_capitalHex, charOfCode_toNat,
    Cursor.skip]
  omega

/-- The letter behind a backslash stands for the character again. -/
theorem escapeLetter?_spec {ch e : Char} (h : Page.escapeLetter? ch = some e) :
    escapedChar? e = some ch ∧ isSimple [e] := by
  have hall : ∀ p ∈ [('\x00', '0'), ('\x07', 'a'), ('\x08', 'b'), ('\t', 't'), ('\n', 'n'),
      ('\x0b', 'v'), ('\x0c', 'f'), ('\r', 'r'), ('\x1b', 'e'), ('"', '"'), ('\\', '\\'),
      ('\x85', 'N'), ('\xa0', '_'), ('\u2028', 'L'), ('\u2029', 'P')],
      escapedChar? p.2 = some p.1 ∧ isSimple [p.2] := by
    decide
  obtain ⟨before, after, hmem, -⟩ := List.lookup_eq_some_iff.mp h
  exact hall (ch, e) (hmem ▸ List.mem_append_right before List.mem_cons_self)

theorem quotedWord_escaped {ch : Char} (hc : c.rest = Page.escaped ch ++ cs) :
    quotedWord true (fuel + 1) done c =
      quotedWord true fuel (done ++ [ch]) (c.skip (Page.escaped ch).length) := by
  have hcode : ch.toNat < 16 ^ 8 := by
    have hvalid : ch.toNat < 0xd800 ∨ 0xdfff < ch.toNat ∧ ch.toNat < 0x110000 := ch.valid
    omega
  unfold Page.escaped at hc ⊢
  split at hc
  · next e he => exact quotedWord_backslash hc (escapeLetter?_spec he).1
  · split at hc
    · next hbyte =>
      rw [if_pos hbyte, List.length_cons, List.length_cons, length_capitalHex (by decide) (by omega)]
      exact quotedWord_code (by decide) rfl rfl (by omega) hc
    · next hbyte =>
      rw [if_neg hbyte]
      split at hc
      · next hshort =>
        rw [if_pos hshort, List.length_cons, List.length_cons,
          length_capitalHex (by decide) (by omega)]
        exact quotedWord_code (by decide) rfl rfl (by omega) hc
      · next hshort =>
        rw [if_neg hshort, List.length_cons, List.length_cons, length_capitalHex (by decide) hcode]
        exact quotedWord_code (by decide) rfl rfl hcode hc

theorem quotedWord_char {u : List Char} {ch : Char} (h : QuotedChar double u ch) (fuel : Nat)
    (done : List Char) (hc : c.rest = u ++ cs) : ∃ fuel', fuel ≤ fuel' ∧
      quotedWord double (fuel + 1) done c = quotedWord double fuel' (done ++ [ch]) (c.skip u.length) := by
  cases h with
  | letter h hblank hquote =>
    exact ⟨fuel + 1, Nat.le_succ fuel, quotedWord_letter hc (isLetter_of_needsEscape h hblank hquote)⟩
  | doubled =>
    refine ⟨fuel, Nat.le_refl fuel, ?_⟩
    rw [quotedWord, span_letters_of_mark hc rfl]
    simp [Cursor.peek, Cursor.peekAt, hc]
  | mark hmark =>
    refine ⟨fuel, Nat.le_refl fuel, ?_⟩
    rcases hmark with rfl | rfl
    all_goals
      rw [quotedWord, span_letters_of_mark hc rfl]
      simp [Cursor.peek, hc, Cursor.skip]
  | apostrophe =>
    refine ⟨fuel, Nat.le_refl fuel, ?_⟩
    rw [quotedWord, span_letters_of_mark hc rfl]
    simp [Cursor.peek, hc, Cursor.skip]
  | escaped => exact ⟨fuel, Nat.le_refl fuel, quotedWord_escaped hc⟩
  | blank => exact ⟨fuel, Nat.le_refl fuel, quotedWord_backslash hc rfl⟩

/-- Line feeds and the blanks before the next word. -/
theorem quotedBreaks_lines (done : List Char) (n indent : Nat)
    (hc : c.rest = List.replicate n '\n' ++ ' ' :: (List.replicate indent ' ' ++ cs))
    (hcs : Solid cs) (hfuel : n < fuel) : ∃ c', c'.rest = cs ∧
      quotedBreaks fuel done c = .ok (done ++ List.replicate n '\n', c') := by
  obtain ⟨fuel, rfl⟩ := Nat.exists_eq_succ_of_ne_zero (Nat.ne_of_gt (Nat.zero_lt_of_lt hfuel))
  induction n generalizing fuel done c with
  | zero =>
    have hblanks : c.rest = List.replicate (indent + 1) ' ' ++ cs := hc
    have hskip : c.skipWhile isSpaceOrTab = c.skip (indent + 1) := by
      rw [Cursor.skipWhile, Cursor.span_append hblanks, List.length_replicate]
      · intro ch hch
        rw [List.eq_of_mem_replicate hch]
        rfl
      · exact fun ch hch => isSpaceOrTab_of_endsWord (hcs ch hch)
    have hrest := Cursor.skip_rest_of_blanks hblanks
    refine ⟨c.skip (indent + 1), hrest, ?_⟩
    have hbreak : isBreak (c.skip (indent + 1)).peek = false := isBreak_peek (hrest ▸ hcs)
    rw [quotedBreaks, Cursor.atSeparator_of_cons hc (by decide) (by decide)]
    simp [hskip, hbreak]
  | succ n ih =>
    obtain ⟨fuel, rfl⟩ := Nat.exists_eq_succ_of_ne_zero
      (Nat.ne_of_gt (Nat.zero_lt_of_lt (Nat.lt_of_succ_lt_succ hfuel)))
    rw [List.replicate_succ, List.cons_append] at hc
    have hskip : c.skipWhile isSpaceOrTab = c := by
      rw [Cursor.skipWhile, Cursor.span_cons_of_neg hc rfl]
    have hpeek : isBreak c.peek = true := by
      rw [Cursor.peek_of_cons hc]
      rfl
    obtain ⟨c', hc', hread⟩ := ih (done ++ ['\n'])
      (Cursor.next_rest_of_cons hc) fuel (Nat.lt_of_succ_lt_succ hfuel)
    refine ⟨c', hc', ?_⟩
    rw [quotedBreaks, Cursor.atSeparator_of_cons hc (by decide) (by decide)]
    simp only [Bool.false_eq_true, if_false, hskip, hpeek, if_true, Cursor.lineBreak_of_newLine hc]
    rw [hread, List.replicate_succ, List.append_assoc, List.singleton_append]

/-- Where a word ends: at white space, and at the quote that closes it. -/
theorem quotedWord_end {ch : Char} (hc : c.rest = ch :: cs)
    (hend : endsWord ch ∨ ch = closing double ∧ ∀ d ∈ cs.head?, d ≠ '\'') :
    quotedWord double (fuel + 1) done c = .ok (done, c) := by
  have hletter : isLetter ch = false := by
    rcases hend with h | ⟨rfl, -⟩
    · simp [isLetter, h]
    · cases double <;> rfl
  rw [quotedWord, span_letters_of_mark hc hletter]
  rcases hend with h | ⟨rfl, hcs⟩
  · have hmarks : ch ≠ '\'' ∧ ch ≠ '"' ∧ ch ≠ '\\' := by
      refine ⟨?_, ?_, ?_⟩ <;> (rintro rfl; revert h; decide)
    simp [Cursor.peek, hc, hmarks]
  · cases double with
    | true => simp [Cursor.peek, hc, closing]
    | false =>
      cases cs with
      | nil => simp [Cursor.peek, Cursor.peekAt, hc, closing]
      | cons d ds => simp [Cursor.peek, Cursor.peekAt, hc, closing, hcs d rfl]

/-- Blanks between two words of a line. -/
theorem quotedSpace_blanks {blanks : List Char} {ch : Char} (hc : c.rest = blanks ++ ch :: cs)
    (hblanks : ∀ b ∈ blanks, isSpaceOrTab b) (hch : endsWord ch = false) :
    quotedSpace c = .ok (blanks, c.skip blanks.length) := by
  have hstop : ∀ d ∈ (ch :: cs).head?, isSpaceOrTab d = false := by
    intro d hd
    rw [← Option.mem_some_iff.mp hd]
    exact isSpaceOrTab_of_endsWord hch
  have hpeek := Cursor.peek_of_cons (Cursor.skip_rest_of_append hc)
  rw [quotedSpace, Cursor.span_append hc hblanks hstop]
  simp [hpeek, isEnd_of_endsWord hch, isBreak_of_endsWord hch]

/-- Line feeds between two words. -/
theorem quotedSpace_lines (n indent : Nat)
    (hc : c.rest = '\n' :: (List.replicate n '\n' ++ ' ' :: (List.replicate indent ' ' ++ cs)))
    (hcs : Solid cs) : ∃ c', c'.rest = cs ∧ quotedSpace c = .ok (breaks n, c') := by
  have hspan : c.span isSpaceOrTab = ([], c) := Cursor.span_cons_of_neg hc rfl
  have hpeek := Cursor.peek_of_cons hc
  have hnext := Cursor.next_rest_of_cons hc
  have hfuel : n < c.next.rest.length + 1 := by
    simp only [hnext, List.length_append, List.length_replicate]
    omega
  obtain ⟨c', hc', hread⟩ := quotedBreaks_lines [] n indent hnext hcs hfuel
  refine ⟨c', hc', ?_⟩
  rw [quotedSpace, hspan]
  simp only [hpeek, Cursor.lineBreak_of_newLine hc]
  show (quotedBreaks (c.next.rest.length + 1) [] c.next >>= _) = _
  rw [hread]
  rfl

/-- A line break behind a backslash. -/
theorem quotedWord_fold (fuel : Nat) (done : List Char) (indent : Nat)
    (hc : c.rest = '\\' :: '\n' :: ' ' :: (List.replicate indent ' ' ++ cs)) (hcs : Solid cs) :
    ∃ c', c'.rest = cs ∧ quotedWord true (fuel + 1) done c = quotedWord true fuel done c' := by
  have hnext := Cursor.next_rest_of_cons hc
  have hline : c.next.next.rest = List.replicate 0 '\n' ++ ' ' :: (List.replicate indent ' ' ++ cs) := by
    rw [Cursor.next_rest, hnext]
    rfl
  obtain ⟨c', hc', hread⟩ := quotedBreaks_lines [] 0 indent hline hcs
    (Nat.succ_pos c.next.rest.length)
  refine ⟨c', hc', ?_⟩
  have hescape : escapedChar? '\n' = none ∧ escapeWidth? '\n' = none ∧ isBreak '\n' := by decide
  rw [quotedWord, span_letters_of_mark hc rfl]
  rw [hnext] at hread
  simp only [Cursor.peek, hc, hnext, hescape, Cursor.lineBreak_of_newLine hnext, List.headD_cons,
    hread]
  simp

theorem afterWord_closing (hc : c.rest = closing double :: cs) :
    afterWord double fuel (.ok (done, c)) = .ok (done, c.next) := by
  show (if c.peek == closing double then _ else _) = _
  rw [Cursor.peek_of_cons hc, beq_self_eq_true, if_pos rfl]
  rfl

theorem afterWord_space {ch : Char} {space : List Char} {c' : Cursor} (hc : c.rest = ch :: cs)
    (hch : ch ≠ closing double) (hspace : quotedSpace c = .ok (space, c')) :
    afterWord double (fuel + 1) (.ok (done, c)) =
      afterWord double fuel (quotedWord double (c'.rest.length + 1) (done ++ space) c') := by
  show (if c.peek == closing double then _ else quotedSpace c >>= _) = _
  rw [Cursor.peek_of_cons hc, beq_eq_false_iff_ne.mpr hch, hspace]
  rfl

/-- Up to the closing quote, with `after` behind it, `cs` is read as `text`, whatever has been read
before. -/
def ReadsAs (double : Bool) (text cs after : List Char) : Prop :=
  ∀ (fuel fuel' : Nat) (done : List Char) (c : Cursor), c.rest = cs → cs.length ≤ fuel →
    cs.length ≤ fuel' → ∃ c', c'.rest = after ∧
      afterWord double fuel (quotedWord double (fuel' + 1) done c) = .ok (done ++ text, c')

variable {text after : List Char}

theorem readsAs_closing (hafter : ∀ ch ∈ after.head?, ch ≠ '\'') :
    ReadsAs double [] (closing double :: after) after := by
  intro fuel fuel' done c hc _ _
  rw [quotedWord_end hc (.inr ⟨rfl, hafter⟩), List.append_nil]
  exact ⟨c.next, Cursor.next_rest_of_cons hc, afterWord_closing hc⟩

theorem ReadsAs.char {u : List Char} {ch : Char} (hchar : QuotedChar double u ch)
    (h : ReadsAs double text cs after) : ReadsAs double (ch :: text) (u ++ cs) after := by
  intro fuel fuel' done c hc hfuel hfuel'
  have hu := List.length_pos_iff.mpr hchar.ne_nil
  rw [List.length_append] at hfuel hfuel'
  obtain ⟨fuel₁, hle, hword⟩ := quotedWord_char hchar fuel' done hc
  obtain ⟨fuel₂, rfl⟩ := Nat.exists_eq_succ_of_ne_zero (show fuel₁ ≠ 0 by omega)
  obtain ⟨c', hc', hread⟩ := h fuel fuel₂ (done ++ [ch]) _ (Cursor.skip_rest_of_append hc)
    (by omega) (by omega)
  refine ⟨c', hc', ?_⟩
  rw [hword, hread, List.append_assoc, List.singleton_append]

/-- A blank in front of a word, or in front of more blanks, which the reader takes with it. -/
theorem ReadsAs.blank {blanks rest : List Char} {ch : Char} (hblanks : ∀ b ∈ blanks, isSpaceOrTab b)
    (hch : endsWord ch = false) (h : ReadsAs double text (blanks ++ ch :: rest) after) :
    ReadsAs double (' ' :: text) (' ' :: (blanks ++ ch :: rest)) after := by
  intro fuel fuel' done c hc hfuel hfuel'
  rw [List.length_cons] at hfuel hfuel'
  have hclosing : ∀ b, isSpaceOrTab b → b ≠ closing double := by
    rintro b hb rfl
    cases double <;> cases hb
  have hnext := Cursor.next_rest_of_cons hc
  have hspace := quotedSpace_blanks (show c.rest = (' ' :: blanks) ++ ch :: rest from hc)
    (List.forall_mem_cons.mpr ⟨rfl, hblanks⟩) hch
  obtain ⟨fuel, rfl⟩ := Nat.exists_eq_succ_of_ne_zero (show fuel ≠ 0 by omega)
  obtain ⟨fuel', rfl⟩ := Nat.exists_eq_succ_of_ne_zero (show fuel' ≠ 0 by omega)
  rw [quotedWord_end hc (.inl rfl), afterWord_space hc (hclosing ' ' rfl) hspace]
  cases blanks with
  | nil =>
    obtain ⟨c', hc', hread⟩ := h fuel c.next.rest.length (done ++ [' ']) c.next hnext
      (by omega) (Nat.le_of_eq (congrArg List.length hnext.symm))
    refine ⟨c', hc', hread.trans ?_⟩
    rw [List.append_assoc, List.singleton_append]
  | cons b blanks =>
    obtain ⟨hb, hblanks⟩ := List.forall_mem_cons.mp hblanks
    obtain ⟨c', hc', hread⟩ := h (fuel + 1) fuel' (done ++ [' ']) c.next hnext (by omega) (by omega)
    rw [quotedWord_end hnext (.inl (endsWord_of_isSpaceOrTab hb)),
      afterWord_space hnext (hclosing b hb)
        (quotedSpace_blanks hnext (List.forall_mem_cons.mpr ⟨hb, hblanks⟩) hch)] at hread
    refine ⟨c', hc', ?_⟩
    rw [List.append_assoc, List.append_assoc, List.singleton_append] at hread
    exact hread

theorem ReadsAs.lines (n indent : Nat) (hcs : Solid cs) (h : ReadsAs false text cs after) :
    ReadsAs false (breaks n ++ text)
      ('\n' :: (List.replicate n '\n' ++ ' ' :: (List.replicate indent ' ' ++ cs))) after := by
  intro fuel fuel' done c hc hfuel _
  simp only [List.length_cons, List.length_append] at hfuel
  obtain ⟨fuel, rfl⟩ := Nat.exists_eq_succ_of_ne_zero (show fuel ≠ 0 by omega)
  obtain ⟨c₁, hc₁, hspace⟩ := quotedSpace_lines n indent hc hcs
  obtain ⟨c', hc', hread⟩ := h fuel c₁.rest.length (done ++ breaks n) c₁ hc₁
    (by omega) (Nat.le_of_eq (congrArg List.length hc₁.symm))
  refine ⟨c', hc', ?_⟩
  rw [quotedWord_end hc (.inl rfl), afterWord_space hc (by decide) hspace, hread,
    List.append_assoc]

theorem ReadsAs.fold (indent : Nat) (hcs : Solid cs) (h : ReadsAs true text cs after) :
    ReadsAs true text ('\\' :: '\n' :: ' ' :: (List.replicate indent ' ' ++ cs)) after := by
  intro fuel fuel' done c hc hfuel hfuel'
  simp only [List.length_cons, List.length_append] at hfuel hfuel'
  obtain ⟨fuel', rfl⟩ := Nat.exists_eq_succ_of_ne_zero (show fuel' ≠ 0 by omega)
  obtain ⟨c₁, hc₁, hword⟩ := quotedWord_fold (fuel' + 1) done indent hc hcs
  obtain ⟨c', hc', hread⟩ := h fuel fuel' done c₁ hc₁ (by omega) (by omega)
  exact ⟨c', hc', by rw [hword, hread]⟩

end Reading

/-- **Every way to write a text between quotes is read as the text.** -/
theorem Quotation.read {double : Bool} {text written after : List Char}
    (h : Quotation double text written) (hafter : ∀ ch ∈ after.head?, ch ≠ '\'') :
    ReadsAs double text (written ++ closing double :: after) after := by
  have hends : ∀ double, endsWord (closing double) = false := by
    intro double
    cases double <;> rfl
  induction h with
  | nil => exact readsAs_closing hafter
  | char hchar _ ih =>
    rw [List.append_assoc]
    exact ih.char hchar
  | blank hfirm _ ih =>
    obtain ⟨blanks, ch, rest, hsplit, hblanks, hch⟩ := hfirm.split (hends _) after
    rw [List.cons_append]
    rw [hsplit] at ih ⊢
    exact ih.blank hblanks hch
  | lines n indent hsolid _ ih =>
    simp only [List.cons_append, List.append_assoc]
    exact ih.lines n indent (hsolid.append (solid_cons (hends false)))
  | fold indent hsolid _ ih =>
    simp only [List.cons_append, List.append_assoc]
    exact ih.fold indent (hsolid.append (solid_cons (hends true)))

theorem Quotation.scalar_read {double : Bool} {text written after : List Char} {c : Cursor}
    (h : Quotation double text written) (hafter : ∀ ch ∈ after.head?, ch ≠ '\'')
    (hc : c.rest = closing double :: (written ++ closing double :: after)) :
    ∃ c', c'.rest = after ∧ quotedScalar double c = .ok (text, c') := by
  have hnext := Cursor.next_rest_of_cons hc
  obtain ⟨c', hc', hread⟩ := h.read hafter c.rest.length c.next.rest.length [] c.next hnext
    (by rw [hc]; exact Nat.le_succ _) (Nat.le_of_eq (congrArg List.length hnext.symm))
  exact ⟨c', hc', by rw [quotedScalar, quotedWords_succ, hread, List.nil_append]⟩

/-! ## Permitted characters -/

theorem isPermitted_of_le {c : Char} (h : (' ' ≤ c && c ≤ '~') = true) : isPermitted c := by
  simp only [Bool.and_eq_true, decide_eq_true_eq] at h
  have hcode : 32 ≤ c.toNat ∧ c.toNat ≤ 126 := h
  simp [isPermitted, hcode]

theorem isSimple_of_le {c : Char} (h : (' ' ≤ c && c ≤ '~') = true) : isSimple [c] := by
  simp only [isSimple, List.all_cons, List.all_nil, h, Bool.or_true, Bool.and_true]

theorem isPermitted_of_isSimple {c : Char} (h : isSimple [c]) : isPermitted c := by
  simp only [isSimple, List.all_cons, List.all_nil, Bool.and_true, Bool.or_eq_true, beq_iff_eq] at h
  rcases h with rfl | h
  · rfl
  · exact isPermitted_of_le h

theorem isSimple_blanks (n : Nat) : ∀ c ∈ List.replicate n ' ', isSimple [c] := by
  intro c hc
  rw [List.eq_of_mem_replicate hc]
  rfl

theorem isPermitted_blanks (n : Nat) : ∀ c ∈ List.replicate n ' ', isPermitted c :=
  fun c hc => isPermitted_of_isSimple (isSimple_blanks n c hc)

theorem isSimple_of_hexValue? {c : Char} {v : Nat} (h : hexValue? c = some v) : isSimple [c] := by
  apply isSimple_of_le
  simp only [Bool.and_eq_true, decide_eq_true_eq, Char.le_def, UInt32.le_iff_toNat_le]
  unfold hexValue? at h
  simp only [Bool.and_eq_true, decide_eq_true_eq, Char.le_def, UInt32.le_iff_toNat_le] at h
  split at h
  · next hdigit => exact ⟨Nat.le_trans (by decide) hdigit.1, Nat.le_trans hdigit.2 (by decide)⟩
  · split at h
    · next hsmall => exact ⟨Nat.le_trans (by decide) hsmall.1, Nat.le_trans hsmall.2 (by decide)⟩
    · split at h
      · next hlarge => exact ⟨Nat.le_trans (by decide) hlarge.1, Nat.le_trans hlarge.2 (by decide)⟩
      · cases h

/-- The digits of a number are digits. -/
theorem isSimple_of_hexNumber? {cs : List Char} {n : Nat} (h : hexNumber? cs = some n) :
    ∀ c ∈ cs, isSimple [c] := by
  obtain ⟨digits, hdigits, -⟩ := Option.map_eq_some_iff.mp h
  clear h
  induction cs generalizing digits with
  | nil => simp
  | cons c cs ih =>
    rw [List.mapM_cons, Option.bind_eq_bind, Option.bind_eq_some_iff] at hdigits
    obtain ⟨v, hv, hdigits⟩ := hdigits
    rw [Option.bind_eq_bind, Option.bind_eq_some_iff] at hdigits
    obtain ⟨rest, hrest, -⟩ := hdigits
    exact List.forall_mem_cons.mpr ⟨isSimple_of_hexValue? hv, ih rest hrest⟩

theorem isSimple_escaped (c : Char) : ∀ d ∈ Page.escaped c, isSimple [d] := by
  have hcode : ∀ e width, isSimple [e] →
      ∀ d ∈ '\\' :: e :: Page.capitalHex width c.toNat, isSimple [d] := fun e width he =>
    List.forall_mem_cons.mpr ⟨rfl, List.forall_mem_cons.mpr
      ⟨he, isSimple_of_hexNumber? (hexNumber?_capitalHex width c.toNat)⟩⟩
  unfold Page.escaped
  split
  · next e he =>
    exact List.forall_mem_cons.mpr ⟨rfl, List.forall_mem_singleton.mpr (escapeLetter?_spec he).2⟩
  · split
    · exact hcode 'x' 2 rfl
    · split
      · exact hcode 'u' 4 rfl
      · exact hcode 'U' 8 rfl

theorem QuotedChar.permitted {double : Bool} {u : List Char} {c : Char} (h : QuotedChar double u c) :
    ∀ d ∈ u, isPermitted d := by
  cases h with
  | letter h =>
    simp only [Page.needsEscape, Bool.or_eq_false_iff, Bool.not_eq_false'] at h
    exact List.forall_mem_singleton.mpr (isPermitted_of_le h.2)
  | mark h => rcases h with rfl | rfl <;> exact List.all_eq_true.mp (by decide)
  | escaped => exact fun d hd => isPermitted_of_isSimple (isSimple_escaped c d hd)
  | _ => exact List.all_eq_true.mp (by decide)

theorem Quotation.permitted {double : Bool} {text written : List Char}
    (h : Quotation double text written) : ∀ c ∈ written, isPermitted c := by
  have hlines : ∀ n, ∀ c ∈ List.replicate n '\n', isPermitted c := by
    intro n c hc
    rw [List.eq_of_mem_replicate hc]
    rfl
  induction h with
  | nil => simp
  | char hchar _ ih => exact List.forall_mem_append.mpr ⟨hchar.permitted, ih⟩
  | blank _ _ ih => exact List.forall_mem_cons.mpr ⟨rfl, ih⟩
  | lines n indent _ _ ih =>
    exact List.forall_mem_cons.mpr ⟨rfl, List.forall_mem_append.mpr ⟨hlines n,
      List.forall_mem_cons.mpr ⟨rfl, List.forall_mem_append.mpr ⟨isPermitted_blanks indent, ih⟩⟩⟩⟩
  | fold indent _ _ ih =>
    exact List.forall_mem_cons.mpr ⟨rfl, List.forall_mem_cons.mpr ⟨rfl,
      List.forall_mem_cons.mpr ⟨rfl, List.forall_mem_append.mpr ⟨isPermitted_blanks indent, ih⟩⟩⟩⟩

end FolderTalk.Yaml
