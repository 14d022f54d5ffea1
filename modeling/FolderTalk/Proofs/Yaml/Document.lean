import FolderTalk.Proofs.Yaml.Lexing
import FolderTalk.Yaml.Read

/-!
# Texts of one node

A text that is cut into the tokens of one node has the value of this node. A plain scalar on a line
of its own is such a text.

* `tokens_of_run`, `document_of_node`, `read_of_document` : from a run of the lexer to the value;
* `Plain.read` : what a text that may be written plain is read as.
-/

namespace FolderTalk.Yaml

/-- The tokens of a text are those that a run of the lexer gives. -/
theorem tokens_of_run {cs : List Char} {ts : List Token} {l : Lexer}
    (hpermitted : ∀ c ∈ cs, isPermitted c) (hmark : cs.head? ≠ some '\ufeff')
    (hrun : Lexer.run (cs.length + 1) { cursor := { rest := cs } } = .ok l)
    (htokens : l.tokens = ts.reverse) : tokens (String.ofList cs) = .ok ts := by
  have hpeek : ({ rest := cs } : Cursor).peek ≠ '\ufeff' := by
    cases cs with
    | nil => show '\x00' ≠ '\ufeff'; decide
    | cons c cs => exact fun hc => hmark (congrArg some hc)
  rw [tokens, String.toList_ofList, if_pos (List.all_eq_true.mpr hpermitted)]
  simp only [beq_eq_false_iff_ne.mpr hpeek, Bool.false_eq_true, if_false, hrun]
  rw [← List.reverse_reverse ts, ← htokens]
  rfl

/-- A scalar without anchor and tag is a node. -/
theorem node_scalar (fuel : Nat) (position : Position) (s : Source) (text : List Char) (plain : Bool)
    (ts : List Token) :
    node (fuel + 1) position { s with tokens := .scalar text plain :: ts } =
      .ok (.scalar (if plain then .ofPlain text else .text) text, { s with tokens := ts }) := by
  cases plain <;> rfl

/-- A text whose tokens are those of one node. -/
theorem document_of_node {t : Token} {ts : List Token} {n : Node} {s : Source}
    (ht : endsDocument (t :: ts) = false)
    (hnode : node (4 * (t :: ts).length + 4) .block { tokens := t :: ts, handles := usualHandles } =
      .ok (n, s)) (hs : s.tokens = []) : document (t :: ts) = .ok (some n) := by
  have hfinished : endsText s.tokens = true := by
    rw [hs]
    rfl
  rw [document]
  · show (node _ .block _ >>= _) = _
    rw [hnode]
    exact if_pos hfinished
  · simp
  · rintro tail h
    rw [h] at ht
    cases ht
  · rintro d tail h
    rw [h] at ht
    cases ht

/-- The value of a text is that of its node, unless there are errors in it. -/
theorem read_of_document {s : String} {ts : List Token} {n : Node} (htokens : tokens s = .ok ts)
    (hnode : document ts = .ok (some n)) :
    read s = match (build n).errors.flatten with
      | [] => .ok (build n).value
      | e :: _ => .error e := by
  rw [read, htokens]
  show (document ts >>= _) = _
  rw [hnode]
  rfl

/-! ## Plain scalars -/

theorem Plain.tokens_eq {cs : List Char} (h : Plain false cs) :
    tokens (String.ofList cs) = .ok [.scalar cs true] := by
  have hwritten := h.itself
  have hstops : StopsPlain false [] := fun c hc => by cases hc
  obtain ⟨ch, rest, hcs, hplain⟩ := hwritten.start hstops h
  rw [List.append_nil] at hcs
  have hbegins : Lexer.Begins ch := by
    refine ⟨hplain.visible, ?_⟩
    rintro rfl
    exact absurd hplain.opening (by decide)
  have hstart : Lexer.Stands { cursor := { rest := cs } } 0 [] (ch :: rest) :=
    ⟨hcs, rfl, rfl, rfl, rfl, by simp⟩
  obtain ⟨more, hmore⟩ : ∃ more, cs.length = more + 1 := ⟨rest.length, by rw [hcs]; rfl⟩
  obtain ⟨l₁, hl₁, hrun₁⟩ := hstart.run_next hbegins cs.length
  rw [← hcs, ← List.append_nil cs] at hl₁
  obtain ⟨l₂, htoken, hl₂⟩ := hl₁.token_plain hwritten h hstops
  obtain ⟨l, hend, htokens⟩ := hl₂.run_end more
  refine tokens_of_run hwritten.permitted ?_ (l := l) ?_ htokens
  · rw [hcs]
    rintro hmark
    obtain rfl := Option.some.inj hmark
    exact absurd (h.simple '\ufeff' (by rw [hcs]; exact List.mem_cons_self)).1 (by decide)
  · rw [hrun₁, htoken, hmore]
    exact hend

/-- **A text that may be written plain** is read as a scalar of the kind that it looks like. -/
theorem Plain.read {s : String} (h : Plain false s.toList) :
    Yaml.read s = scalarValue (.ofPlain s.toList) s.toList := by
  have htokens := h.tokens_eq
  rw [String.ofList_toList] at htokens
  have hnode := node_scalar 7 .block ⟨[], [], [], usualHandles⟩ s.toList true []
  rw [read_of_document htokens (document_of_node rfl hnode rfl), if_pos rfl, build, buildScalar]
  cases scalarValue (.ofPlain s.toList) s.toList <;> rfl

end FolderTalk.Yaml
