import FolderTalk.Proofs.Yaml.Moved
import FolderTalk.Proofs.Yaml.Onward
import FolderTalk.Yaml.Read

/-!
# Comments above a text

* `CommentLine` : a line that holds nothing but a comment;
* `read_comments` : comment lines above a text do not change what it is read as.
-/

namespace FolderTalk.Yaml

/-- A line that holds nothing but a comment. -/
structure CommentLine (line : List Char) : Prop where
  mark : line.head? = some '#'
  permitted : ∀ c ∈ line, isPermitted c
  unbroken : ∀ c ∈ line, isBreak c = false

/-- Lines with a line feed behind each. -/
def unlines (lines : List (List Char)) : List Char := lines.flatMap (· ++ ['\n'])

variable {line text : List Char}

/-- A place at the beginning of a line. -/
theorem Cursor.eq_moved {c : Cursor} (hrest : c.rest = text) (hcolumn : c.column = 0) :
    ∃ o, c = ({ rest := text } : Cursor).moved o := by
  obtain ⟨rest, index, line, column⟩ := c
  obtain rfl : rest = text := hrest
  obtain rfl : column = 0 := hcolumn
  exact ⟨⟨index, line⟩, by simp [Cursor.moved]⟩

theorem skipComment_commentLine (h : CommentLine line) {c : Cursor}
    (hc : c.rest = line ++ '\n' :: text) : c.skipComment = c.skip line.length := by
  have hpeek : c.peek = '#' := by
    cases line with
    | nil => cases h.mark
    | cons ch cs => rw [Cursor.peek_of_cons hc, Option.some.inj h.mark]
  have hblanks : c.skipWhile (· == ' ') = c := by
    rw [Cursor.skipWhile, Cursor.span_of_head]
    intro ch hch
    cases line with
    | nil => cases h.mark
    | cons d ds =>
      rw [hc] at hch
      obtain rfl := Option.mem_some_iff.mp hch
      rw [Option.some.inj h.mark]
      rfl
  have hline : c.skipWhile (fun ch => !isBreak ch) = c.skip line.length := by
    rw [Cursor.skipWhile, Cursor.span_append hc]
    · exact fun ch hch => by rw [h.unbroken ch hch]; rfl
    · rintro ch ⟨⟩
      rfl
  simp [Cursor.skipComment, hblanks, hpeek, hline]

namespace Lexer

/-- Behind a comment line the lexer is where it would begin without it, further down. -/
theorem skipToToken_commentLine (h : CommentLine line) : ∃ o, ∀ fuel,
    skipToToken (fuel + 1) { cursor := { rest := line ++ '\n' :: text } } =
      skipToToken fuel (moved o { cursor := { rest := text } }) := by
  have hcomment := skipComment_commentLine (c := { rest := line ++ '\n' :: text }) h rfl
  have hrest := Cursor.skip_rest_of_append (c := { rest := line ++ '\n' :: text }) rfl
  have hcolumn : (Cursor.skip line.length { rest := line ++ '\n' :: text }).next.column = 0 := by
    unfold Cursor.next
    rw [hrest]
    rfl
  obtain ⟨o, hnext⟩ := Cursor.eq_moved (Cursor.next_rest_of_cons hrest) hcolumn
  refine ⟨o, fun fuel => ?_⟩
  rw [skipToToken, hcomment]
  simp only [Cursor.peek_of_cons hrest, Cursor.lineBreak_of_newLine hrest, hnext]
  rfl

/-- A comment line makes no difference to the tokens behind it. -/
theorem run_commentLine (h : CommentLine line) {fuel : Nat} (hfuel : text.length < fuel) :
    (run fuel { cursor := { rest := line ++ '\n' :: text } }).map Lexer.tokens =
      (run (text.length + 1) { cursor := { rest := text } }).map Lexer.tokens := by
  obtain ⟨o, hskip⟩ := skipToToken_commentLine h
  obtain ⟨fuel, rfl⟩ : ∃ n, fuel = n + 1 := ⟨fuel - 1, by omega⟩
  have hmoved : run (fuel + 1) { cursor := { rest := line ++ '\n' :: text } } =
      run (fuel + 1) (moved o { cursor := { rest := text } }) := by
    rw [run, run, hskip, skipToToken_eq_of_left_lt]
    · show text.length < (line ++ '\n' :: text).length
      rw [List.length_append, List.length_cons]
      omega
    · exact Nat.lt_succ_self _
  rw [hmoved, run_moved,
    run_eq_of_left_lt { cursor := { rest := text } } hfuel (Nat.lt_succ_self text.length)]
  cases run (text.length + 1) { cursor := { rest := text } } <;> rfl

end Lexer

/-- The tokens of a text without a byte order mark. -/
theorem tokens_eq (hmark : text.head? ≠ some '\ufeff') : tokens (String.ofList text) =
    if text.all isPermitted then
      (Lexer.run (text.length + 1) { cursor := { rest := text } }).map (·.tokens.reverse)
    else .error .malformed := by
  have hpeek : ({ rest := text } : Cursor).peek ≠ '\ufeff' := by
    cases text with
    | nil => decide
    | cons c cs => exact fun hc => hmark (congrArg some hc)
  rw [tokens, String.toList_ofList]
  simp only [beq_eq_false_iff_ne.mpr hpeek, Bool.false_eq_true, if_false]
  cases Lexer.run (text.length + 1) { cursor := { rest := text } } <;> rfl

/-- A comment line above a text makes no difference to its tokens. -/
theorem tokens_comment (h : CommentLine line) (hmark : text.head? ≠ some '\ufeff') :
    tokens (String.ofList (line ++ '\n' :: text)) = tokens (String.ofList text) := by
  have hmark' : (line ++ '\n' :: text).head? ≠ some '\ufeff' := by
    rw [List.head?_append, h.mark]
    show some '#' ≠ _
    decide
  have hpermitted : (line ++ '\n' :: text).all isPermitted = text.all isPermitted := by
    rw [List.all_append, List.all_cons, List.all_eq_true.mpr h.permitted]
    rfl
  rw [tokens_eq hmark', tokens_eq hmark, hpermitted]
  split
  · have hlength : text.length < (line ++ '\n' :: text).length + 1 := by
      rw [List.length_append, List.length_cons]
      omega
    have hreversed : ∀ x : Except ReadError Lexer,
        x.map (·.tokens.reverse) = (x.map Lexer.tokens).map List.reverse := by
      intro x
      cases x <;> rfl
    rw [hreversed, hreversed, Lexer.run_commentLine h hlength]
  · rfl

/-- **Comments above a text** do not change what it is read as. -/
theorem read_comments {lines : List (List Char)} (h : ∀ line ∈ lines, CommentLine line)
    (hmark : text.head? ≠ some '\ufeff') :
    read (String.ofList (unlines lines ++ text)) = read (String.ofList text) := by
  have htokens : tokens (String.ofList (unlines lines ++ text)) = tokens (String.ofList text) := by
    induction lines with
    | nil => rfl
    | cons line lines ih =>
      obtain ⟨hline, hlines⟩ := List.forall_mem_cons.mp h
      have hbelow : (unlines lines ++ text).head? ≠ some '\ufeff' := by
        cases lines with
        | nil => exact hmark
        | cons line' lines =>
          rw [unlines, List.flatMap_cons, List.append_assoc, List.append_assoc, List.head?_append,
            (hlines line' List.mem_cons_self).mark]
          show some '#' ≠ _
          decide
      rw [← ih hlines, ← tokens_comment hline hbelow, unlines, List.flatMap_cons, List.append_assoc,
        List.append_assoc]
      rfl
  rw [read, htokens, read]

end FolderTalk.Yaml
