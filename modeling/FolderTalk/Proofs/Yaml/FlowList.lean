import FolderTalk.Proofs.Text.Trimmed
import FolderTalk.Proofs.Yaml.Document

/-!
# Lists between brackets are read back

* `ItemWriting`, `ItemsWriting` : the ways to write the items of a list between brackets;
* `writeFlowItems_writes` : what is written is one of them;
* `ItemsWriting.run`, `ItemsWriting.flowItems` : each of them is read as the items;
* `read_writeFlowList` : the list is read back.
-/

namespace FolderTalk.Yaml

open Page

/-! ## Ways to write a list -/

/-- The ways to write an item, and whether it is plain. -/
inductive ItemWriting (text : List Char) : (plain : Bool) → (written : List Char) → Prop where
  | quoted {double : Bool} {written : List Char} : Quotation double text written →
      ItemWriting text false (closing double :: (written ++ [closing double]))
  | plain {written : List Char} : Plain true text → Kind.ofPlain text = .text →
      PlainWriting true text written → ItemWriting text true written

/-- The ways to write the items of a list that follow after others, with the tokens for them. -/
inductive ItemsWriting : List (List Char) → List Token → (written : List Char) → Prop where
  | nil : ItemsWriting [] [] []
  | cons {text gap item written : List Char} {items : List (List Char)} {plain : Bool}
      {ts : List Token} : Lexer.Gap gap → ItemWriting text plain item →
      ItemsWriting items ts written →
      ItemsWriting (text :: items) (.flowEntry :: .scalar text plain :: ts)
        (',' :: (gap ++ (item ++ written)))

/-! ## Writing -/

theorem ItemWriting.begins {text item : List Char} {plain : Bool} (h : ItemWriting text plain item)
    {cs : List Char} (hcs : StopsPlain true cs) :
    ∃ ch rest, item ++ cs = ch :: rest ∧ Lexer.Begins ch := by
  cases h with
  | @quoted double written =>
    refine ⟨closing double, _, rfl, ?_⟩
    cases double <;> exact ⟨rfl, by decide⟩
  | plain htext _ hwritten =>
    obtain ⟨ch, rest, hstart, hplain⟩ := hwritten.start hcs htext
    refine ⟨ch, rest, hstart, hplain.visible, ?_⟩
    rintro rfl
    exact absurd hplain.opening (by decide)

/-- An item is one token. -/
theorem ItemWriting.token {text item cs : List Char} {plain : Bool} (h : ItemWriting text plain item)
    (hcs : StopsPlain true cs) {l : Lexer} {ts : List Token} {depth : Nat}
    (hl : l.Stands (depth + 1) ts (item ++ cs)) :
    ∃ l', l.token = .ok l' ∧ l'.Stands (depth + 1) (.scalar text plain :: ts) cs := by
  cases h with
  | quoted hquoted =>
    rw [List.cons_append, List.append_assoc, List.singleton_append] at hl
    refine hl.token_quoted hquoted fun ch hch => ?_
    rintro rfl
    exact absurd (hcs '\'' hch).2 (by decide)
  | plain htext _ hwritten => exact hl.token_plain hwritten htext hcs

theorem ItemsWriting.stops {items : List (List Char)} {ts : List Token} {written : List Char}
    (h : ItemsWriting items ts written) (after : List Char) :
    StopsPlain true (written ++ ']' :: after) := by
  intro ch hch
  cases h with
  | nil =>
    obtain rfl := Option.mem_some_iff.mp hch
    decide
  | cons =>
    obtain rfl := Option.mem_some_iff.mp hch
    decide

/-- An item is a step of the run. -/
theorem ItemWriting.run {text item gap cs : List Char} {plain : Bool} (h : ItemWriting text plain item)
    (hgap : Lexer.Gap gap) (hcs : StopsPlain true cs) {l : Lexer} {ts : List Token} {depth : Nat}
    (hl : l.Stands (depth + 1) ts (gap ++ (item ++ cs))) (fuel : Nat) :
    ∃ l', l'.Stands (depth + 1) (.scalar text plain :: ts) cs ∧
      Lexer.run (fuel + 1) l = Lexer.run fuel l' := by
  obtain ⟨ch, rest, hitem, hbegins⟩ := h.begins hcs
  rw [hitem] at hl
  obtain ⟨l₁, hl₁, hrun⟩ := hl.run_token hgap hbegins fuel
  rw [← hitem] at hl₁
  obtain ⟨l', htoken, hl'⟩ := h.token hcs hl₁
  refine ⟨l', hl', ?_⟩
  rw [hrun, htoken]
  rfl

/-- The items of a list are read one after another. -/
theorem ItemsWriting.run {items : List (List Char)} {ts' : List Token} {written after : List Char}
    (h : ItemsWriting items ts' written) {l : Lexer} {ts : List Token} {depth : Nat}
    (hl : l.Stands (depth + 1) ts (written ++ ']' :: after)) (fuel : Nat) :
    ∃ l', l'.Stands (depth + 1) (ts'.reverse ++ ts) (']' :: after) ∧
      Lexer.run (ts'.length + fuel) l = Lexer.run fuel l' := by
  induction h generalizing l ts with
  | nil => exact ⟨l, hl, by rw [List.length_nil, Nat.zero_add]⟩
  | @cons text gap item written items plain ts' hgap hitem hitems ih =>
    simp only [List.cons_append, List.append_assoc] at hl
    obtain ⟨l₁, hl₁, hrun₁⟩ := hl.run_next ⟨rfl, by decide⟩ (ts'.length + 1 + fuel)
    obtain ⟨l₂, htoken, hl₂⟩ := hl₁.token_comma
    obtain ⟨l₃, hl₃, hrun₃⟩ := hitem.run hgap (hitems.stops after) hl₂ (ts'.length + fuel)
    obtain ⟨l', hl', hrun⟩ := ih hl₃
    refine ⟨l', ?_, ?_⟩
    · simpa using hl'
    · have hfuel : (Token.flowEntry :: Token.scalar text plain :: ts').length + fuel =
          ts'.length + 1 + fuel + 1 := by
        simp only [List.length_cons]
        omega
      rw [hfuel, hrun₁, htoken]
      show Lexer.run (ts'.length + 1 + fuel) l₂ = _
      rw [Nat.add_right_comm, hrun₃, hrun]

/-! ## Whole lists -/

/-- The ways to write a list between brackets, with its tokens. -/
inductive ListWriting : List (List Char) → List Token → (written : List Char) → Prop where
  | empty : ListWriting [] [.openList, .closeList] ['[', ']']
  | items {text gap item written : List Char} {items : List (List Char)} {plain : Bool}
      {ts : List Token} : Lexer.Gap gap → ItemWriting text plain item →
      ItemsWriting items ts written →
      ListWriting (text :: items) (.openList :: .scalar text plain :: (ts ++ [.closeList]))
        ('[' :: (gap ++ (item ++ (written ++ [']']))))

theorem Lexer.Gap.permitted {gap : List Char} (h : Lexer.Gap gap) : ∀ c ∈ gap, isPermitted c := by
  cases h with
  | blanks n => exact isPermitted_blanks n
  | line n => exact List.forall_mem_cons.mpr ⟨rfl, isPermitted_blanks n⟩

theorem ItemWriting.permitted {text item : List Char} {plain : Bool}
    (h : ItemWriting text plain item) : ∀ c ∈ item, isPermitted c := by
  cases h with
  | @quoted double written hquoted =>
    have hclosing : isPermitted (closing double) := by cases double <;> rfl
    exact List.forall_mem_cons.mpr ⟨hclosing, List.forall_mem_append.mpr
      ⟨hquoted.permitted, List.forall_mem_singleton.mpr hclosing⟩⟩
  | plain _ _ hwritten => exact hwritten.permitted

theorem ItemsWriting.permitted {items : List (List Char)} {ts : List Token} {written : List Char}
    (h : ItemsWriting items ts written) : ∀ c ∈ written, isPermitted c := by
  induction h with
  | nil => simp
  | cons hgap hitem _ ih =>
    exact List.forall_mem_cons.mpr ⟨rfl, List.forall_mem_append.mpr
      ⟨hgap.permitted, List.forall_mem_append.mpr ⟨hitem.permitted, ih⟩⟩⟩

theorem ListWriting.permitted {items : List (List Char)} {ts : List Token} {written : List Char}
    (h : ListWriting items ts written) : ∀ c ∈ written, isPermitted c := by
  cases h with
  | empty => exact List.forall_mem_cons.mpr ⟨rfl, List.forall_mem_singleton.mpr rfl⟩
  | items hgap hitem hitems =>
    exact List.forall_mem_cons.mpr ⟨rfl, List.forall_mem_append.mpr
      ⟨hgap.permitted, List.forall_mem_append.mpr ⟨hitem.permitted, List.forall_mem_append.mpr
        ⟨hitems.permitted, List.forall_mem_singleton.mpr rfl⟩⟩⟩⟩

theorem ItemWriting.length_pos {text item : List Char} {plain : Bool}
    (h : ItemWriting text plain item) : 0 < item.length := by
  have hstops : StopsPlain true [] := fun c hc => by cases hc
  obtain ⟨ch, rest, hitem, -⟩ := h.begins hstops
  rw [List.append_nil] at hitem
  rw [hitem]
  exact Nat.succ_pos _

theorem ItemsWriting.length_le {items : List (List Char)} {ts : List Token} {written : List Char}
    (h : ItemsWriting items ts written) : ts.length ≤ written.length := by
  induction h with
  | nil => exact Nat.le_refl _
  | cons _ hitem _ ih =>
    have := hitem.length_pos
    simp only [List.length_cons, List.length_append]
    omega

/-- The bracket that ends the list is the last token. -/
theorem Lexer.Stands.run_close {l : Lexer} {ts : List Token} (h : l.Stands 1 ts [']']) (fuel : Nat) :
    ∃ l', Lexer.run (fuel + 2) l = .ok l' ∧ l'.tokens = .closeList :: ts := by
  obtain ⟨l₁, hl₁, hrun⟩ := h.run_next ⟨rfl, by decide⟩ (fuel + 1)
  obtain ⟨l₂, htoken, hl₂⟩ := hl₁.token_close
  obtain ⟨l', hend, htokens⟩ := hl₂.run_end fuel
  refine ⟨l', ?_, htokens⟩
  rw [hrun, htoken]
  exact hend

/-- A list is taken apart into its tokens. -/
theorem ListWriting.tokens_eq {items : List (List Char)} {ts : List Token} {written : List Char}
    (h : ListWriting items ts written) : tokens (String.ofList written) = .ok ts := by
  obtain ⟨cs, hcs⟩ : ∃ cs, written = '[' :: cs := by cases h <;> exact ⟨_, rfl⟩
  have hstart : Lexer.Stands { cursor := { rest := written } } 0 [] ('[' :: cs) :=
    ⟨hcs, rfl, rfl, rfl, rfl, by simp⟩
  obtain ⟨l₁, hl₁, hrun₁⟩ := hstart.run_next ⟨rfl, by decide⟩ written.length
  obtain ⟨l₂, htoken₂, hl₂⟩ := hl₁.token_open
  have hrun : ∃ l, Lexer.run written.length l₂ = .ok l ∧ l.tokens = ts.reverse := by
    cases h with
    | empty =>
      obtain rfl := (List.cons.inj hcs).2
      exact hl₂.run_close 0
    | @items text gap item written items plain ts hgap hitem hitems =>
      obtain rfl := (List.cons.inj hcs).2
      have hpos := hitem.length_pos
      have hle := hitems.length_le
      obtain ⟨more, hmore⟩ : ∃ more,
          ('[' :: (gap ++ (item ++ (written ++ [']'])))).length = ts.length + (more + 2) + 1 := by
        simp only [List.length_cons, List.length_append, List.length_nil]
        exact ⟨gap.length + item.length + written.length - ts.length - 1, by omega⟩
      obtain ⟨l₃, hl₃, hrun₃⟩ := hitem.run hgap (hitems.stops []) hl₂ (ts.length + (more + 2))
      obtain ⟨l₄, hl₄, hrun₄⟩ := hitems.run hl₃ (more + 2)
      obtain ⟨l, hrun, htokens⟩ := hl₄.run_close more
      exact ⟨l, by rw [hmore, hrun₃, hrun₄, hrun], by simp [htokens]⟩
  obtain ⟨l, hl, htokens⟩ := hrun
  refine tokens_of_run h.permitted (by rw [hcs]; simp) (l := l) ?_ htokens
  rw [hrun₁, htoken₂]
  exact hl

/-! ## Reading nodes -/

/-- A scalar in a list is an item, behind a comma unless it is the first one. -/
theorem flowItems_scalar (fuel : Nat) (first : Bool) (s : Source) (text : List Char) (plain : Bool)
    (ts : List Token) :
    flowItems (fuel + 2) first { s with
        tokens := if first then .scalar text plain :: ts else .flowEntry :: .scalar text plain :: ts } =
      (flowItems (fuel + 1) false { s with tokens := ts }).map fun (items, s) =>
        (.scalar (if plain then .ofPlain text else .text) text :: items, s) := by
  have hnode := node_scalar fuel .flow s text plain ts
  cases first with
  | true =>
    rw [Yaml.flowItems]
    simp [Source.isAt, Source.peek, hnode, bind, Except.bind, pure, Except.pure]
    cases flowItems (fuel + 1) false { s with tokens := ts } <;> rfl
  | false =>
    rw [Yaml.flowItems]
    simp [Source.isAt, Source.peek, Source.next, hnode, bind, Except.bind, pure, Except.pure]
    cases flowItems (fuel + 1) false { s with tokens := ts } <;> rfl

theorem ItemWriting.kind {text item : List Char} {plain : Bool} (h : ItemWriting text plain item) :
    (if plain then Kind.ofPlain text else .text) = .text := by
  cases h with
  | quoted => rfl
  | plain _ hkind => exact hkind

theorem ItemsWriting.flowItems {items : List (List Char)} {ts : List Token} {written : List Char}
    (h : ItemsWriting items ts written) (s : Source) (rest : List Token) {fuel : Nat}
    (hfuel : items.length < fuel) :
    flowItems fuel false { s with tokens := ts ++ .closeList :: rest } =
      .ok (items.map (.scalar .text), { s with tokens := rest }) := by
  obtain ⟨fuel, rfl⟩ := Nat.exists_eq_succ_of_ne_zero (Nat.ne_of_gt (Nat.zero_lt_of_lt hfuel))
  induction h generalizing fuel with
  | nil => rfl
  | @cons text gap item written items plain ts hgap hitem hitems ih =>
    obtain ⟨fuel, rfl⟩ := Nat.exists_eq_succ_of_ne_zero
      (Nat.ne_of_gt (Nat.zero_lt_of_lt (Nat.lt_of_succ_lt_succ hfuel)))
    have hscalar := flowItems_scalar fuel false s text plain (ts ++ .closeList :: rest)
    rw [ih fuel (Nat.lt_of_succ_lt_succ hfuel), hitem.kind] at hscalar
    exact hscalar

theorem ItemsWriting.length_tokens {items : List (List Char)} {ts : List Token} {written : List Char}
    (h : ItemsWriting items ts written) : ts.length = 2 * items.length := by
  induction h with
  | nil => rfl
  | cons _ _ _ ih =>
    simp only [List.length_cons, ih]
    omega

theorem node_list {fuel : Nat} (position : Position) {s : Source} {ts rest : List Token}
    {items : List Node} (h : flowItems fuel true { s with tokens := ts } =
      .ok (items, { s with tokens := rest })) :
    node (fuel + 1) position { s with tokens := .openList :: ts } =
      .ok (.list .list items, { s with tokens := rest }) := by
  show (flowItems fuel true { s with tokens := ts } >>= _) = _
  rw [h]
  rfl

/-- The tokens of a list are a list of its items. -/
theorem ListWriting.document {items : List (List Char)} {ts : List Token} {written : List Char}
    (h : ListWriting items ts written) :
    document ts = .ok (some (.list .list (items.map (.scalar .text)))) := by
  cases h with
  | empty => rfl
  | @items text gap item written items plain ts hgap hitem hitems =>
    have htokens := hitems.length_tokens
    obtain ⟨fuel, hfuel, hlt⟩ : ∃ fuel, 4 * (Token.openList :: .scalar text plain ::
        (ts ++ [.closeList])).length + 4 = fuel + 2 + 1 ∧ items.length < fuel + 1 := by
      simp only [List.length_cons, List.length_append, List.length_nil]
      exact ⟨4 * (ts.length + 3) + 1, by omega, by omega⟩
    have hscalar := flowItems_scalar fuel true ⟨[], [], [], usualHandles⟩ text plain
      (ts ++ [.closeList])
    rw [hitems.flowItems _ [] hlt, hitem.kind] at hscalar
    have hnode := node_list .block hscalar
    rw [← hfuel, if_pos rfl] at hnode
    exact document_of_node rfl hnode rfl

/-- A list begins and ends with its brackets. -/
theorem ListWriting.trimmed {items : List (List Char)} {ts : List Token} {written : List Char}
    (h : ListWriting items ts written) : Text.Trimmed written := by
  obtain ⟨cs, hwritten⟩ : ∃ cs, written = '[' :: cs ++ [']'] := by
    cases h with
    | empty => exact ⟨[], rfl⟩
    | @items _ gap item written => exact ⟨gap ++ (item ++ written), by simp⟩
  subst hwritten
  refine ⟨fun c hc => ?_, fun c hc => ?_⟩
  · obtain rfl := Option.mem_some_iff.mp hc
    rfl
  · rw [List.getLast?_concat] at hc
    obtain rfl := Option.mem_some_iff.mp hc
    rfl

end FolderTalk.Yaml
