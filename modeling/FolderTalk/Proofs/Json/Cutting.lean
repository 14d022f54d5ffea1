import FolderTalk.Json.Token
import FolderTalk.Json.Write
import FolderTalk.Number.Numeral
import Mathlib.Data.List.Basic

/-!
# Cutting written text into tokens

* `Cuts` : a stretch of text is cut into the given tokens, whatever follows it as long as a number
  could not go on there;
* `cuts_mark`, `cuts_spaces`, `Cuts.append` : how stretches are put together;
* `cuts_quote`, `cuts_intText`, `cuts_boolText` : written strings, whole numbers and truth values are
  one token each.
-/

namespace FolderTalk.Json

/-- A character that a number could go on with. -/
def goesOn (c : Char) : Bool := isDigit c || c == '.' || c == 'e' || c == 'E'

/-- A text that no number goes on into. -/
def Stops (rest : List Char) : Prop := ∀ c ∈ rest.head?, goesOn c = false

theorem stops_nil : Stops [] := by
  intro c hc
  cases hc

theorem stops_cons {c : Char} {cs : List Char} (h : goesOn c = false) : Stops (c :: cs) := by
  intro d hd
  rwa [← Option.mem_some_iff.mp hd]

/-- The text is cut into the tokens, one unit of fuel for each, where no number goes on behind it. -/
structure Cuts (text : List Char) (toks : List Token) : Prop where
  short : toks.length ≤ text.length
  cut : ∀ fuel rest, Stops rest →
    tokensWithin (toks.length + fuel) (text ++ rest) = toks ++ tokensWithin fuel rest

theorem tokensWithin_nil (fuel : Nat) : tokensWithin fuel [] = [] := by
  cases fuel <;> rfl

theorem Cuts.tokens_eq {text : List Char} {toks : List Token} (h : Cuts text toks) :
    tokens text = toks := by
  obtain ⟨more, hmore⟩ := Nat.exists_eq_add_of_le h.short
  have hcut := h.cut more [] stops_nil
  rwa [List.append_nil, ← hmore, tokensWithin_nil, List.append_nil] at hcut

/-! ## Putting stretches together -/

section Together
variable {text text' : List Char} {toks toks' : List Token}

theorem cuts_nil : Cuts [] [] := ⟨Nat.le_refl _, fun fuel rest _ => by simp⟩

/-- A text that numbers before it stop at. -/
def Leads (text : List Char) : Prop := ∀ rest, Stops rest → Stops (text ++ rest)

theorem leads_nil : Leads [] := fun _ h => h

theorem leads_cons {c : Char} {cs : List Char} (h : goesOn c = false) : Leads (c :: cs) :=
  fun _ _ => stops_cons h

theorem Cuts.append (h : Cuts text toks) (h' : Cuts text' toks') (hlead : Leads text') :
    Cuts (text ++ text') (toks ++ toks') where
  short := by
    have := h.short
    have := h'.short
    simp only [List.length_append]
    omega
  cut := by
    intro fuel rest hrest
    rw [List.length_append, Nat.add_assoc, List.append_assoc, h.cut _ _ (hlead rest hrest),
      h'.cut fuel rest hrest, List.append_assoc]

/-- White space before a stretch. -/
theorem cuts_spaces {spaces : List Char} (hspaces : ∀ c ∈ spaces, isSpace c) (h : Cuts text toks) :
    Cuts (spaces ++ text) toks where
  short := by
    have := h.short
    rw [List.length_append]
    omega
  cut := by
    have hskip : ∀ fuel cs, tokensWithin fuel (spaces ++ cs) = tokensWithin fuel cs := by
      intro fuel cs
      cases fuel with
      | zero => rfl
      | succ fuel => rw [tokensWithin, tokensWithin, List.dropWhile_append_of_pos hspaces]
    intro fuel rest hrest
    rw [List.append_assoc, hskip, h.cut fuel rest hrest]

/-- A token that the text begins with. -/
theorem tokensWithin_first {c : Char} {cs rest : List Char} {t : Token} (hspace : isSpace c = false)
    (h : firstToken c cs = (t, rest)) (fuel : Nat) :
    tokensWithin (fuel + 1) (c :: cs) = t :: tokensWithin fuel rest := by
  rw [tokensWithin, List.dropWhile_cons_of_neg (by simp [hspace])]
  simp only [h]

/-- A token of one character before a stretch. -/
theorem cuts_mark {c : Char} {t : Token} (hspace : isSpace c = false)
    (hmark : ∀ cs, firstToken c cs = (t, cs)) (h : Cuts text toks) : Cuts (c :: text) (t :: toks) where
  short := Nat.succ_le_succ h.short
  cut := by
    intro fuel rest hrest
    rw [List.length_cons, Nat.add_right_comm, List.cons_append,
      tokensWithin_first hspace (hmark _), h.cut fuel rest hrest, List.cons_append]

/-- A stretch that is one token. -/
theorem cuts_token {c : Char} {cs : List Char} {t : Token} (hspace : isSpace c = false)
    (h : ∀ rest, Stops rest → firstToken c (cs ++ rest) = (t, rest)) : Cuts (c :: cs) [t] where
  short := by simp
  cut := by
    intro fuel rest hrest
    rw [List.length_singleton, Nat.add_comm, List.cons_append,
      tokensWithin_first hspace (h rest hrest), List.singleton_append]

end Together

/-! ## Strings -/

theorem hexFour?_append {a b c d : Char} {n : Nat} (h : hexFour? [a, b, c, d] = some (n, []))
    (rest : List Char) : hexFour? (a :: b :: c :: d :: rest) = some (n, rest) := by
  simp only [hexFour?, Option.bind_eq_bind, Option.bind_eq_some_iff, Option.pure_def,
    Option.some.injEq, Prod.mk.injEq, and_true] at h ⊢
  exact h

/-- The codes of control characters have four digits, which are read back. -/
theorem hexFour?_hexDigits {n : Nat} (hn : n < 32) (rest : List Char) :
    hexFour? (Text.hexDigits 4 n ++ rest) = some (n, rest) := by
  have hcodes : ∀ n < 32, Text.hexDigits 4 n = ['0', '0', (n / 16).digitChar, (n % 16).digitChar] ∧
      hexFour? ['0', '0', (n / 16).digitChar, (n % 16).digitChar] = some (n, []) := by decide
  obtain ⟨hdigits, hvalue⟩ := hcodes n hn
  rw [hdigits]
  exact hexFour?_append hvalue rest

theorem stringBody?_backslash {c : Char} {cs rest : List Char} (h : escape? cs = some (c, rest))
    (fuel : Nat) (done : List Char) :
    stringBody? (fuel + 1) done ('\\' :: cs) = stringBody? fuel (c :: done) rest := by
  rw [stringBody?, if_neg (by decide), if_pos (by decide), h]
  rfl

/-- The code of a control character stands for that character, and nothing is paired with it. -/
theorem escape?_control {c : Char} (h : c.toNat < 32) (cs : List Char) :
    escape? ('u' :: (Text.hexDigits 4 c.toNat ++ cs)) = some (c, cs) := by
  have hunit : (0xd800 ≤ c.toNat && c.toNat < 0xdc00) = false := by
    simp only [Bool.and_eq_false_imp, decide_eq_true_eq, decide_eq_false_iff_not]
    omega
  have hchar : unpaired c.toNat = c := by
    rw [unpaired, if_neg (by simp only [Bool.and_eq_true, decide_eq_true_eq]; omega),
      Char.ofNat_toNat]
  rw [escape?, hexFour?_hexDigits h, Option.bind_eq_bind, Option.bind_some]
  simp only [hunit, hchar]
  rfl

/-- A character is written with a backslash and an escape of it, or as it is. -/
theorem escapedChar_cases (c : Char) :
    (∃ code, escapedChar c = '\\' :: code ∧ ∀ cs, escape? (code ++ cs) = some (c, cs)) ∨
      (escapedChar c = [c] ∧ c ≠ '"' ∧ c ≠ '\\' ∧ ¬c.toNat < 32) := by
  unfold escapedChar
  split
  · next h => exact .inl ⟨['"'], rfl, fun _ => by rw [beq_iff_eq.mp h]; rfl⟩
  next hquote =>
  split
  · next h => exact .inl ⟨['\\'], rfl, fun _ => by rw [beq_iff_eq.mp h]; rfl⟩
  next hslash =>
  split
  · next h => exact .inl ⟨['n'], rfl, fun _ => by rw [beq_iff_eq.mp h]; rfl⟩
  split
  · next h => exact .inl ⟨['r'], rfl, fun _ => by rw [beq_iff_eq.mp h]; rfl⟩
  split
  · next h => exact .inl ⟨['t'], rfl, fun _ => by rw [beq_iff_eq.mp h]; rfl⟩
  split
  · next h => exact .inl ⟨['b'], rfl, fun _ => by rw [beq_iff_eq.mp h]; rfl⟩
  split
  · next h => exact .inl ⟨['f'], rfl, fun _ => by rw [beq_iff_eq.mp h]; rfl⟩
  split
  · next hcontrol => exact .inl ⟨_, rfl, escape?_control hcontrol⟩
  · next hcontrol =>
    exact .inr ⟨rfl, by simpa using hquote, by simpa using hslash, hcontrol⟩

/-- A written character is one character of the string again. -/
theorem stringBody?_escapedChar (c : Char) (fuel : Nat) (done cs : List Char) :
    stringBody? (fuel + 1) done (escapedChar c ++ cs) = stringBody? fuel (c :: done) cs := by
  rcases escapedChar_cases c with ⟨code, hcode, hescape⟩ | ⟨hself, hquote, hslash, hplain⟩
  · rw [hcode, List.cons_append, stringBody?_backslash (hescape cs)]
  · rw [hself, List.singleton_append, stringBody?, if_neg (by simpa using hquote),
      if_neg (by simpa using hslash), if_neg hplain]

theorem stringBody?_escaped {chars done rest : List Char} {fuel : Nat} (h : chars.length < fuel) :
    stringBody? fuel done (chars.flatMap escapedChar ++ '"' :: rest)
      = some (String.ofList (done.reverse ++ chars), rest) := by
  induction chars generalizing done fuel with
  | nil =>
    obtain ⟨fuel, rfl⟩ := Nat.exists_eq_succ_of_ne_zero (Nat.ne_of_gt h)
    rw [List.flatMap_nil, List.nil_append, stringBody?, List.append_nil]
    rfl
  | cons c chars ih =>
    obtain ⟨fuel, rfl⟩ := Nat.exists_eq_succ_of_ne_zero (Nat.ne_of_gt (Nat.zero_lt_of_lt h))
    rw [List.flatMap_cons, List.append_assoc, stringBody?_escapedChar, ih (Nat.lt_of_succ_lt_succ h)]
    simp

theorem length_le_length_escaped (chars : List Char) :
    chars.length ≤ (chars.flatMap escapedChar).length := by
  induction chars with
  | nil => exact Nat.le_refl _
  | cons c chars ih =>
    have hc : 0 < (escapedChar c).length := by
      rcases escapedChar_cases c with ⟨code, hcode, -⟩ | ⟨hself, -⟩
      · simp [hcode]
      · simp [hself]
    rw [List.flatMap_cons, List.length_append, List.length_cons]
    omega

/-- **A written string is one token again.** -/
theorem cuts_quote (s : String) : Cuts (quote s) [.text s] := by
  refine cuts_token rfl fun rest _ => ?_
  have hlength := length_le_length_escaped s.toList
  have hbody : ∀ fuel, s.toList.length < fuel →
      stringBody? fuel [] (s.toList.flatMap escapedChar ++ ['"'] ++ rest) = some (s, rest) := by
    intro fuel hfuel
    rw [List.append_assoc, List.singleton_append, stringBody?_escaped hfuel, List.reverse_nil,
      List.nil_append, String.ofList_toList]
  unfold firstToken
  rw [hbody _ (by simp only [List.length_append]; omega)]
  rfl

/-! ## Words -/

theorem cuts_null : Cuts "null".toList [.word .null] := cuts_token rfl fun _ _ => rfl

theorem cuts_boolText (b : Bool) : Cuts (boolText b) [.word (.bool b)] := by
  cases b with
  | false => exact cuts_token rfl fun _ _ => rfl
  | true => exact cuts_token rfl fun _ _ => rfl

/-! ## Whole numbers -/

/-- A whole number as it is written. -/
def Lexeme.ofInt (n : Int) : Lexeme := { negative := n < 0, whole := Nat.toDigits 10 n.natAbs }

theorem isDigit_of_mem_toDigits {n : Nat} {c : Char} (h : c ∈ Nat.toDigits 10 n) : isDigit c := by
  have hc := Nat.isDigit_of_mem_toDigits (by decide) (by decide) h
  simp only [Char.isDigit, Bool.and_eq_true, decide_eq_true_eq] at hc
  simp only [isDigit, Bool.and_eq_true, decide_eq_true_eq]
  exact hc

/-- Only zero is written with a leading zero. -/
theorem head_toDigits {n : Nat} (hn : 0 < n) : ∀ c ∈ (Nat.toDigits 10 n).head?, c ≠ '0' := by
  induction n using Nat.strongRecOn with
  | ind n ih =>
    intro c hc
    rw [Nat.toDigits_eq_if (by decide)] at hc
    split at hc
    · have hdigit : n.digitChar = c := by simpa using hc
      rw [← hdigit]
      simp
      omega
    · next hlarge =>
      rw [List.head?_append_of_ne_nil _ Nat.toDigits_ne_nil] at hc
      exact ih (n / 10) (by omega) (by omega) c hc

theorem wholePart?_toDigits (n : Nat) {rest : List Char} (hrest : Stops rest) :
    wholePart? (Nat.toDigits 10 n ++ rest) = some (Nat.toDigits 10 n, rest) := by
  rcases Nat.eq_zero_or_pos n with rfl | hn
  · rfl
  · obtain ⟨d, ds, hdigits⟩ := List.exists_cons_of_ne_nil (Nat.toDigits_ne_nil (n := n) (b := 10))
    have hzero := head_toDigits hn d (by rw [hdigits]; rfl)
    have hall : ∀ c ∈ d :: ds, isDigit c := fun c hc => isDigit_of_mem_toDigits (hdigits ▸ hc)
    obtain ⟨hd, hds⟩ := List.forall_mem_cons.mp hall
    have hstop : rest.takeWhile isDigit = [] ∧ rest.dropWhile isDigit = rest := by
      cases rest with
      | nil => exact ⟨rfl, rfl⟩
      | cons c cs =>
        have hc : isDigit c = false := by
          have := hrest c rfl
          simp only [goesOn, Bool.or_eq_false_iff] at this
          exact this.1.1.1
        exact ⟨List.takeWhile_cons_of_neg (by simp [hc]), List.dropWhile_cons_of_neg (by simp [hc])⟩
    rw [hdigits, List.cons_append, wholePart?, if_neg (by simpa using hzero), if_pos hd,
      List.takeWhile_append_of_pos hds, List.dropWhile_append_of_pos hds, hstop.1, hstop.2,
      List.append_nil]

theorem fractionPart_of_stops {rest : List Char} (h : Stops rest) : fractionPart rest = (none, rest) := by
  unfold fractionPart
  split
  · exact absurd (h '.' rfl) (by decide)
  · rfl

theorem exponentPart_of_stops {rest : List Char} (h : Stops rest) : exponentPart rest = (none, rest) := by
  cases rest with
  | nil => rfl
  | cons c cs =>
    have hc : (c == 'e' || c == 'E') = false := by
      have := h c rfl
      simp only [goesOn, Bool.or_eq_false_iff] at this ⊢
      exact ⟨this.1.2, this.2⟩
    unfold exponentPart
    simp only [hc]
    rfl

/-- The characters of a whole number. -/
theorem toList_toString (n : Int) :
    (toString n).toList = (if n < 0 then ['-'] else []) ++ Nat.toDigits 10 n.natAbs := by
  cases n with
  | ofNat n =>
    have hn : ¬ Int.ofNat n < 0 := Int.not_lt.mpr (Int.natCast_nonneg n)
    rw [if_neg hn, List.nil_append]
    exact Nat.toList_repr
  | negSucc n =>
    rw [if_pos (Int.negSucc_lt_zero n)]
    show ("-" ++ (n + 1).repr).toList = _
    rw [String.toList_append, Nat.toList_repr]
    rfl

/-- A digit, or a hyphen with a digit after it, begins no word. -/
theorem word?_eq_none {c : Char} {cs : List Char}
    (h : isDigit c ∨ c = '-' ∧ ∃ d ds, cs = d :: ds ∧ isDigit d) : word? (c :: cs) = none := by
  have hletters : ∀ {c : Char}, isDigit c → c ≠ 'n' ∧ c ≠ 't' ∧ c ≠ 'f' ∧ c ≠ 'N' ∧ c ≠ 'I' ∧ c ≠ '-' := by
    intro c hc
    refine ⟨?_, ?_, ?_, ?_, ?_, ?_⟩ <;> (rintro rfl; revert hc; decide)
  rcases h with hc | ⟨rfl, d, ds, rfl, hd⟩
  · obtain ⟨h1, h2, h3, h4, h5, h6⟩ := hletters hc
    simp [word?, words, h1.symm, h2.symm, h3.symm, h4.symm, h5.symm, h6.symm]
  · obtain ⟨_, _, _, _, h5, _⟩ := hletters hd
    simp [word?, words, h5.symm]

theorem firstToken_number {c : Char} {cs rest : List Char} {l : Lexeme}
    (h : isDigit c ∨ c = '-' ∧ ∃ d ds, cs = d :: ds ∧ isDigit d)
    (hnumber : number? (c :: cs) = some (l, rest)) : firstToken c cs = (.number l, rest) := by
  have hmarks : ∀ m ∈ ['[', ']', '\x7b', '\x7d', ',', ':', '"'], ¬ (c == m) = true := by
    intro m hm heq
    have hnone : ∀ m ∈ ['[', ']', '\x7b', '\x7d', ',', ':', '"'], ¬ (isDigit m ∨ m = '-') := by
      simp [isDigit]
    rw [← beq_iff_eq.mp heq] at hm
    exact hnone c hm (h.imp_right And.left)
  unfold firstToken
  rw [if_neg (hmarks '[' (by decide)), if_neg (hmarks ']' (by decide)),
    if_neg (hmarks '\x7b' (by decide)), if_neg (hmarks '\x7d' (by decide)),
    if_neg (hmarks ',' (by decide)), if_neg (hmarks ':' (by decide)),
    if_neg (hmarks '"' (by decide)), word?_eq_none h, hnumber]

theorem number?_toString (n : Int) {rest : List Char} (hrest : Stops rest) :
    number? ((toString n).toList ++ rest) = some (.ofInt n, rest) := by
  have hwhole := wholePart?_toDigits n.natAbs hrest
  rw [toList_toString, Lexeme.ofInt]
  by_cases hn : n < 0
  · rw [if_pos hn, decide_eq_true hn]
    show (wholePart? (Nat.toDigits 10 n.natAbs ++ rest)).bind _ = _
    rw [hwhole, Option.bind_some]
    simp only [fractionPart_of_stops hrest, exponentPart_of_stops hrest]
    rfl
  · rw [if_neg hn, decide_eq_false hn, List.nil_append]
    unfold number?
    split
    next negative cs hsign =>
    have hplain : (negative, cs) = (false, Nat.toDigits 10 n.natAbs ++ rest) := by
      rw [← hsign]
      split
      · next r heq =>
        obtain ⟨d, ds, hd⟩ := List.exists_cons_of_ne_nil (Nat.toDigits_ne_nil (n := n.natAbs) (b := 10))
        rw [hd] at heq
        have hdigit := isDigit_of_mem_toDigits (n := n.natAbs) (c := d) (by rw [hd]; simp)
        rw [(List.cons.inj heq).1] at hdigit
        exact absurd hdigit (by decide)
      · rfl
    obtain ⟨rfl, rfl⟩ := Prod.mk.inj hplain
    rw [hwhole, Option.bind_eq_bind, Option.bind_some]
    simp only [fractionPart_of_stops hrest, exponentPart_of_stops hrest]
    rfl

/-- **A written whole number is one token again.** -/
theorem cuts_intText {n : Int} {text : List Char} (h : intText n = .ok text) :
    Cuts text [.number (.ofInt n)] := by
  have htext : text = (toString n).toList := by
    unfold intText at h
    split at h
    · exact (Except.ok.inj h).symm
    · cases h
  have hdigits : ∀ c ∈ Nat.toDigits 10 n.natAbs, isDigit c := fun c => isDigit_of_mem_toDigits
  obtain ⟨d, ds, hd⟩ := List.exists_cons_of_ne_nil (Nat.toDigits_ne_nil (n := n.natAbs) (b := 10))
  rw [hd, List.forall_mem_cons] at hdigits
  have hbegins : ∃ c cs, (toString n).toList = c :: cs ∧
      (isDigit c ∨ c = '-' ∧ ∃ d ds, cs = d :: ds ∧ isDigit d) := by
    rw [toList_toString, hd]
    by_cases hn : n < 0
    · rw [if_pos hn]
      exact ⟨'-', d :: ds, rfl, .inr ⟨rfl, d, ds, rfl, hdigits.1⟩⟩
    · rw [if_neg hn]
      exact ⟨d, ds, rfl, .inl hdigits.1⟩
  obtain ⟨c, cs, hcs, hc⟩ := hbegins
  rw [htext, hcs]
  refine cuts_token ?_ fun rest hrest => firstToken_number ?_ ?_
  · have hspaces : ∀ s ∈ [' ', '\t', '\n', '\r'], ¬ (isDigit s ∨ s = '-') := by simp [isDigit]
    rw [Bool.eq_false_iff]
    intro hspace
    refine hspaces c ?_ (hc.imp_right And.left)
    simpa [isSpace, or_assoc] using hspace
  · rcases hc with hc | ⟨rfl, d, ds, rfl, hd⟩
    · exact .inl hc
    · exact .inr ⟨rfl, d, ds ++ rest, rfl, hd⟩
  · rw [← List.cons_append, ← hcs]
    exact number?_toString n hrest

end FolderTalk.Json
