import FolderTalk.Json.Read
import FolderTalk.Proofs.Json.Built
import FolderTalk.Proofs.Json.Cutting

/-!
# Written values are read back

* `Storable` : values that JSON text holds as they are: no doubles and no dates, and mappings whose
  keys are distinct texts;
* `Spells` : a text whose tokens are read as a value, wherever a value may stand;
* `read_write` : what is written of such a value is read as the same value, unless too many
  containers stand inside one another.
-/

namespace FolderTalk.Json

/-- A leaf that JSON text holds as it is. -/
def PlainLeaf : Value → Prop
  | .null | .bool _ | .int _ | .text _ => True
  | _ => False

/-- Values that JSON text holds as they are. -/
def Storable (v : Value) : Prop := BuiltFrom PlainLeaf v

mutual

/-- How many containers stand inside one another. -/
def depth : Value → Nat
  | .list items => itemsDepth items + 1
  | .map entries => entriesDepth entries + 1
  | _ => 0

def itemsDepth : List Value → Nat
  | [] => 0
  | v :: vs => max (depth v) (itemsDepth vs)

def entriesDepth : List (Value × Value) → Nat
  | [] => 0
  | e :: es => max (entryDepth e) (entriesDepth es)

def entryDepth : Value × Value → Nat
  | (_, v) => depth v

end

theorem ok_of_bind {ε α β : Type} {x : Except ε α} {f : α → Except ε β} {b : β}
    (h : x >>= f = .ok b) : ∃ a, x = .ok a ∧ f a = .ok b := by
  cases x with
  | error e => cases h
  | ok a => exact ⟨a, rfl, h⟩

/-! ## Tokens that are read as a value -/

/-- Reading the tokens goes from one state to another. -/
def Takes (toks : List Token) (p q : Progress) : Prop :=
  ∀ more, (toks ++ more).foldlM Progress.step p = more.foldlM Progress.step q

theorem takes_nil (p : Progress) : Takes [] p p := fun _ => rfl

theorem Takes.append {toks toks' : List Token} {p q r : Progress} (h : Takes toks p q)
    (h' : Takes toks' q r) : Takes (toks ++ toks') p r := by
  intro more
  rw [List.append_assoc, h, h']

theorem takes_one {t : Token} {p q : Progress} (h : p.step t = .ok q) : Takes [t] p q := by
  intro more
  rw [List.singleton_append, List.foldlM_cons, h]
  rfl

/-- A place where a value may begin. -/
def Need.isValue : Need → Prop
  | .value | .valueOrClose => True
  | _ => False

/-- The text is cut into tokens that are read as the value wherever one may stand. -/
def Spells (text : List Char) (v : Value) : Prop :=
  ∃ toks, Cuts text toks ∧ ∀ need stack, need.isValue → stack.length + depth v ≤ maxDepth →
    Takes toks ⟨need, stack, none⟩ (finished v stack)

/-- The text of the items after the first. -/
def SpellsItems (text : List Char) (vs : List Value) : Prop :=
  ∃ toks, Cuts text toks ∧ Leads text ∧ ∀ stack done,
    stack.length + 1 + itemsDepth vs ≤ maxDepth →
    Takes toks ⟨.commaOrClose, .list done :: stack, none⟩
      ⟨.commaOrClose, .list (vs.reverse ++ done) :: stack, none⟩

/-- The text of an entry, where a key may stand. -/
def SpellsEntry (text : List Char) (e : Value × Value) : Prop :=
  ∃ toks, Cuts text toks ∧ ∀ need stack done key, need = .key ∨ need = .keyOrClose →
    stack.length + 1 + entryDepth e ≤ maxDepth →
    ∃ key', Takes toks ⟨need, .map done key :: stack, none⟩
      ⟨.commaOrClose, .map (e :: done) key' :: stack, none⟩

/-- The text of the entries after the first. -/
def SpellsEntries (text : List Char) (es : List (Value × Value)) : Prop :=
  ∃ toks, Cuts text toks ∧ Leads text ∧ ∀ stack done key,
    stack.length + 1 + entriesDepth es ≤ maxDepth →
    ∃ key', Takes toks ⟨.commaOrClose, .map done key :: stack, none⟩
      ⟨.commaOrClose, .map (es.reverse ++ done) key' :: stack, none⟩

/-- A value of one token. -/
theorem spells_token {text : List Char} {t : Token} {v : Value} (hcut : Cuts text [t])
    (h : ∀ need stack, need.isValue → Progress.step ⟨need, stack, none⟩ t = .ok (finished v stack)) :
    Spells text v :=
  ⟨[t], hcut, fun need stack hneed _ => takes_one (h need stack hneed)⟩

/-! ## Single tokens -/

theorem spells_null : Spells "null".toList .null :=
  spells_token cuts_null fun need _ h => by cases need <;> first | rfl | cases h

theorem spells_boolText (b : Bool) : Spells (boolText b) (.bool b) :=
  spells_token (cuts_boolText b) fun need _ h => by cases need <;> first | rfl | cases h

theorem spells_quote (s : String) : Spells (quote s) (.text s) :=
  spells_token (cuts_quote s) fun need _ h => by cases need <;> first | rfl | cases h

theorem digitsValue_toDigits (n : Nat) : Numeral.digitsValue (Nat.toDigits 10 n) = n := by
  have h := Nat.ofDigitChars_toDigits (b := 10) (n := n) (by decide) (by decide)
  rw [Nat.ofDigitChars_eq_foldl] at h
  simpa only [Numeral.digitsValue, Nat.mul_comm] using h

theorem length_toDigits_le {n limit : Nat} (hlimit : 0 < limit) (h : n < Nat.pow 10 limit) :
    (Nat.toDigits 10 n).length ≤ limit :=
  (Nat.length_toDigits_le_iff (by decide) hlimit).mpr h

/-- A whole number that was written is read as itself. -/
theorem value_ofInt {n : Int} (h : n.natAbs < Nat.pow 10 Numeral.maxDigits) :
    (Lexeme.ofInt n).value = .ok (.int n) := by
  have hlength := length_toDigits_le (by decide) h
  have hsigned : Binary64.signed (n < 0) n.natAbs = n := by
    unfold Binary64.signed
    by_cases hn : n < 0
    · rw [decide_eq_true hn, if_pos rfl]
      omega
    · rw [decide_eq_false hn, if_neg Bool.false_ne_true]
      omega
  show (if (Nat.toDigits 10 n.natAbs).length > Numeral.maxDigits then _ else _) = _
  rw [if_neg (Nat.not_lt.mpr hlength)]
  show Except.ok (Value.int (Binary64.signed (n < 0) (Numeral.digitsValue (Nat.toDigits 10 n.natAbs)))) = _
  rw [digitsValue_toDigits, hsigned]

theorem spells_intText {n : Int} {text : List Char} (h : intText n = .ok text) :
    Spells text (.int n) := by
  have hbound : n.natAbs < Nat.pow 10 Numeral.maxDigits := by
    unfold intText at h
    split at h
    · assumption
    · cases h
  refine spells_token (cuts_intText h) fun need stack hneed => ?_
  have hbegin : beginValue stack (.number (.ofInt n)) = .ok (finished (.int n) stack) := by
    rw [beginValue, value_ofInt hbound]
    rfl
  cases need with
  | value => exact hbegin
  | valueOrClose => exact hbegin
  | _ => cases hneed

/-! ## Containers -/

theorem newLine_spaces (level : Nat) : ∀ c ∈ newLine level, isSpace c := by
  refine List.forall_mem_cons.mpr ⟨by decide, fun c hc => ?_⟩
  rw [List.eq_of_mem_replicate hc]
  decide

theorem leads_newLine (level : Nat) (more : List Char) : Leads (newLine level ++ more) :=
  leads_cons (by decide)

theorem step_open {need : Need} {stack : List Frame} (hneed : need.isValue)
    (hdepth : stack.length < maxDepth) :
    Progress.step ⟨need, stack, none⟩ .openList = .ok ⟨.valueOrClose, .list [] :: stack, none⟩ ∧
    Progress.step ⟨need, stack, none⟩ .openMap = .ok ⟨.keyOrClose, .map [] "" :: stack, none⟩ := by
  have hopened : ∀ f, opened stack f = .ok (f :: stack) := fun f => if_pos hdepth
  have hlist : beginValue stack .openList = .ok ⟨.valueOrClose, .list [] :: stack, none⟩ := by
    rw [beginValue, hopened]
    rfl
  have hmap : beginValue stack .openMap = .ok ⟨.keyOrClose, .map [] "" :: stack, none⟩ := by
    rw [beginValue, hopened]
    rfl
  cases need with
  | value => exact ⟨hlist, hmap⟩
  | valueOrClose => exact ⟨hlist, hmap⟩
  | _ => cases hneed

theorem leads_append {text text' : List Char} (h : Leads text) (h' : Leads text') :
    Leads (text ++ text') := by
  intro rest hrest
  rw [List.append_assoc]
  exact h _ (h' rest hrest)

theorem takes_emptyList {need : Need} {stack : List Frame} (hneed : need.isValue)
    (hdepth : stack.length < maxDepth) :
    Takes [.openList, .closeList] ⟨need, stack, none⟩ (finished (.list []) stack) :=
  (takes_one (step_open hneed hdepth).1).append (takes_one rfl)

theorem takes_emptyMap {need : Need} {stack : List Frame} (hneed : need.isValue)
    (hdepth : stack.length < maxDepth) :
    Takes [.openMap, .closeMap] ⟨need, stack, none⟩ (finished (.map []) stack) :=
  (takes_one (step_open hneed hdepth).2).append (takes_one rfl)

/-- What stands between the brackets of a container that is not empty. -/
theorem cuts_container {openMark closeMark : Char} {openToken closeToken : Token} (level : Nat)
    {first rest : List Char} {toks toks' : List Token}
    (hopen : isSpace openMark = false ∧ ∀ cs, firstToken openMark cs = (openToken, cs))
    (hclose : isSpace closeMark = false ∧ ∀ cs, firstToken closeMark cs = (closeToken, cs))
    (hfirst : Cuts first toks) (hrest : Cuts rest toks') (hlead : Leads rest) :
    Cuts (openMark :: (newLine (level + 1) ++ first ++ rest ++ newLine level ++ [closeMark]))
      (openToken :: (toks ++ (toks' ++ [closeToken]))) := by
  have hend : Cuts (newLine level ++ [closeMark]) [closeToken] :=
    cuts_spaces (newLine_spaces level) (cuts_mark hclose.1 hclose.2 cuts_nil)
  have hmore := hrest.append hend (leads_newLine level [closeMark])
  apply cuts_mark hopen.1 hopen.2
  simp only [List.append_assoc]
  refine cuts_spaces (newLine_spaces _) (hfirst.append hmore ?_)
  exact leads_append hlead (leads_newLine level [closeMark])

theorem spells_emptyList : Spells ['[', ']'] (.list []) := by
  have hcut : Cuts ['[', ']'] [.openList, .closeList] :=
    cuts_mark rfl (fun _ => rfl) (cuts_mark rfl (fun _ => rfl) cuts_nil)
  exact ⟨_, hcut, fun need stack hneed hdepth => takes_emptyList hneed hdepth⟩

theorem spells_emptyMap : Spells ['\x7b', '\x7d'] (.map []) := by
  have hcut : Cuts ['\x7b', '\x7d'] [.openMap, .closeMap] :=
    cuts_mark rfl (fun _ => rfl) (cuts_mark rfl (fun _ => rfl) cuts_nil)
  exact ⟨_, hcut, fun need stack hneed hdepth => takes_emptyMap hneed hdepth⟩

theorem spells_list {x : Value} {xs : List Value} {first items : List Char} (level : Nat)
    (hx : Spells first x) (hxs : SpellsItems items xs) :
    Spells ('[' :: (newLine (level + 1) ++ first ++ items ++ newLine level ++ [']']))
      (.list (x :: xs)) := by
  obtain ⟨toks, hcut, hread⟩ := hx
  obtain ⟨toks', hcut', hlead, hread'⟩ := hxs
  refine ⟨_, cuts_container level ⟨rfl, fun _ => rfl⟩ ⟨rfl, fun _ => rfl⟩ hcut hcut' hlead, ?_⟩
  intro need stack hneed hdepth
  simp only [depth, itemsDepth] at hdepth
  have hfirst := hread .valueOrClose (.list [] :: stack) trivial (by rw [List.length_cons]; omega)
  have hitems := hread' stack [x] (by omega)
  have hclose : Progress.step ⟨.commaOrClose, .list (xs.reverse ++ [x]) :: stack, none⟩ .closeList
      = .ok (finished (.list (x :: xs)) stack) := by
    show Except.ok (finished (.list (xs.reverse ++ [x]).reverse) stack) = _
    simp
  have hroom : stack.length < maxDepth := by omega
  have hopen := takes_one (step_open hneed hroom).1
  exact hopen.append (hfirst.append (hitems.append (takes_one hclose)))

theorem spells_map {e : Value × Value} {es : List (Value × Value)} {first entries : List Char}
    (level : Nat) (hmap : Storable (.map (e :: es))) (he : SpellsEntry first e)
    (hes : SpellsEntries entries es) :
    Spells ('\x7b' :: (newLine (level + 1) ++ first ++ entries ++ newLine level ++ ['\x7d']))
      (.map (e :: es)) := by
  obtain ⟨toks, hcut, hread⟩ := he
  obtain ⟨toks', hcut', hlead, hread'⟩ := hes
  refine ⟨_, cuts_container level ⟨rfl, fun _ => rfl⟩ ⟨rfl, fun _ => rfl⟩ hcut hcut' hlead, ?_⟩
  intro need stack hneed hdepth
  simp only [depth, entriesDepth] at hdepth
  obtain ⟨key, hfirst⟩ := hread .keyOrClose stack [] "" (.inr rfl) (by omega)
  obtain ⟨key', hentries⟩ := hread' stack [e] key (by omega)
  have hclose : Progress.step ⟨.commaOrClose, .map (es.reverse ++ [e]) key' :: stack, none⟩ .closeMap
      = .ok (finished (.map (e :: es)) stack) := by
    show Except.ok (finished (.map (Entries.ofPairs (es.reverse ++ [e]).reverse)) stack) = _
    rw [← List.reverse_cons, List.reverse_reverse, ofPairs_eq_self hmap]
  have hroom : stack.length < maxDepth := by omega
  have hopen := takes_one (step_open hneed hroom).2
  exact hopen.append (hfirst.append (hentries.append (takes_one hclose)))

theorem spellsItems_nil : SpellsItems [] [] :=
  ⟨[], cuts_nil, leads_nil, fun _ _ _ => takes_nil _⟩

theorem spellsItems_cons {x : Value} {xs : List Value} {item items : List Char} (level : Nat)
    (hx : Spells item x) (hxs : SpellsItems items xs) :
    SpellsItems (',' :: (newLine level ++ item ++ items)) (x :: xs) := by
  obtain ⟨toks, hcut, hread⟩ := hx
  obtain ⟨toks', hcut', hlead, hread'⟩ := hxs
  refine ⟨.comma :: (toks ++ toks'), ?_, leads_cons (by decide), ?_⟩
  · rw [List.append_assoc]
    exact cuts_mark rfl (fun _ => rfl) (cuts_spaces (newLine_spaces level) (hcut.append hcut' hlead))
  · intro stack done hdepth
    simp only [itemsDepth] at hdepth
    have hcomma : Progress.step ⟨.commaOrClose, .list done :: stack, none⟩ .comma =
        .ok ⟨.value, .list done :: stack, none⟩ := rfl
    have hitem := hread .value (.list done :: stack) trivial (by rw [List.length_cons]; omega)
    have hitems := hread' stack (x :: done) (by omega)
    rw [List.reverse_cons, List.append_assoc]
    exact (takes_one hcomma).append (hitem.append hitems)

theorem spellsEntries_nil : SpellsEntries [] [] :=
  ⟨[], cuts_nil, leads_nil, fun _ _ key _ => ⟨key, takes_nil _⟩⟩

theorem spellsEntries_cons {e : Value × Value} {es : List (Value × Value)}
    {entry entries : List Char} (level : Nat) (he : SpellsEntry entry e)
    (hes : SpellsEntries entries es) :
    SpellsEntries (',' :: (newLine level ++ entry ++ entries)) (e :: es) := by
  obtain ⟨toks, hcut, hread⟩ := he
  obtain ⟨toks', hcut', hlead, hread'⟩ := hes
  refine ⟨.comma :: (toks ++ toks'), ?_, leads_cons (by decide), ?_⟩
  · rw [List.append_assoc]
    exact cuts_mark rfl (fun _ => rfl) (cuts_spaces (newLine_spaces level) (hcut.append hcut' hlead))
  · intro stack done key hdepth
    simp only [entriesDepth] at hdepth
    have hcomma : Progress.step ⟨.commaOrClose, .map done key :: stack, none⟩ .comma =
        .ok ⟨.key, .map done key :: stack, none⟩ := rfl
    obtain ⟨key', hentry⟩ := hread .key stack done key (.inl rfl) (by omega)
    obtain ⟨key'', hentries⟩ := hread' stack (e :: done) key' (by omega)
    refine ⟨key'', ?_⟩
    rw [List.reverse_cons, List.append_assoc]
    exact (takes_one hcomma).append (hentry.append hentries)

theorem spellsEntry {s : String} {v : Value} {value : List Char} (hv : Spells value v) :
    SpellsEntry (quote s ++ ':' :: ' ' :: value) (.text s, v) := by
  obtain ⟨toks, hcut, hread⟩ := hv
  have hspace : ∀ c ∈ [' '], isSpace c := List.forall_mem_singleton.mpr (by decide)
  refine ⟨[.text s] ++ .colon :: toks, ?_, ?_⟩
  · refine (cuts_quote s).append (cuts_mark rfl (fun _ => rfl) ?_) (leads_cons (by decide))
    exact cuts_spaces hspace hcut
  · intro need stack done key hneed hdepth
    have hkey : Progress.step ⟨need, .map done key :: stack, none⟩ (.text s) =
        .ok ⟨.colon, .map done s :: stack, none⟩ := by
      rcases hneed with rfl | rfl <;> rfl
    have hcolon : Progress.step ⟨.colon, .map done s :: stack, none⟩ .colon =
        .ok ⟨.value, .map done s :: stack, none⟩ := rfl
    have hvalue := hread .value (.map done s :: stack) trivial (by
      simp only [entryDepth] at hdepth
      rw [List.length_cons]
      omega)
    exact ⟨s, (takes_one hkey).append ((takes_one hcolon).append hvalue)⟩

/-! ## The round trip -/

theorem spells_writeItems {vs : List Value}
    (h : ∀ v ∈ vs, ∀ level text, writeAt level v = .ok text → Spells text v) {level : Nat}
    {text : List Char} (hwrite : writeItems level vs = .ok text) : SpellsItems text vs := by
  induction vs generalizing text with
  | nil =>
    cases hwrite
    exact spellsItems_nil
  | cons x xs ih =>
    obtain ⟨hx, hxs⟩ := List.forall_mem_cons.mp h
    rw [writeItems] at hwrite
    obtain ⟨item, hitem, hwrite⟩ := ok_of_bind hwrite
    obtain ⟨items, hitems, hwrite⟩ := ok_of_bind hwrite
    cases hwrite
    exact spellsItems_cons level (hx _ _ hitem) (ih hxs hitems)

theorem spells_writeEntry {e : Value × Value} (hkey : ∃ s, e.1 = .text s)
    (h : ∀ level text, writeAt level e.2 = .ok text → Spells text e.2) {level : Nat}
    {text : List Char} (hwrite : writeEntry level e = .ok text) : SpellsEntry text e := by
  obtain ⟨k, v⟩ := e
  obtain ⟨s, rfl⟩ : ∃ s, k = .text s := hkey
  rw [writeEntry] at hwrite
  obtain ⟨key, hkey, hwrite⟩ := ok_of_bind hwrite
  obtain ⟨value, hvalue, hwrite⟩ := ok_of_bind hwrite
  cases hkey
  cases hwrite
  exact spellsEntry (h _ _ hvalue)

theorem spells_writeEntries {es : List (Value × Value)} (hkeys : ∀ e ∈ es, ∃ s, e.1 = .text s)
    (h : ∀ e ∈ es, ∀ level text, writeAt level e.2 = .ok text → Spells text e.2) {level : Nat}
    {text : List Char} (hwrite : writeEntries level es = .ok text) : SpellsEntries text es := by
  induction es generalizing text with
  | nil =>
    cases hwrite
    exact spellsEntries_nil
  | cons e es ih =>
    obtain ⟨hkey, hkeys⟩ := List.forall_mem_cons.mp hkeys
    obtain ⟨he, hes⟩ := List.forall_mem_cons.mp h
    rw [writeEntries] at hwrite
    obtain ⟨entry, hentry, hwrite⟩ := ok_of_bind hwrite
    obtain ⟨entries, hentries, hwrite⟩ := ok_of_bind hwrite
    cases hwrite
    exact spellsEntries_cons level (spells_writeEntry hkey he hentry) (ih hkeys hes hentries)

/-- **The text of a value spells it**, at every level of indentation. -/
theorem spells_writeAt {v : Value} (hv : Storable v) :
    ∀ level text, writeAt level v = .ok text → Spells text v := by
  refine BuiltFrom.induction
    (P := fun v => ∀ level text, writeAt level v = .ok text → Spells text v) ?_ ?_ ?_ v hv
  · intro v hleaf level text h
    cases v with
    | null => rw [writeAt] at h; cases h; exact spells_null
    | bool b => rw [writeAt] at h; cases h; exact spells_boolText b
    | int n => rw [writeAt] at h; exact spells_intText h
    | text s => rw [writeAt] at h; cases h; exact spells_quote s
    | _ => cases hleaf
  · intro vs h level text hwrite
    cases vs with
    | nil => rw [writeAt] at hwrite; cases hwrite; exact spells_emptyList
    | cons x xs =>
      obtain ⟨hx, hxs⟩ := List.forall_mem_cons.mp h
      rw [writeAt] at hwrite
      split at hwrite
      · cases hwrite
      obtain ⟨first, hfirst, hwrite⟩ := ok_of_bind hwrite
      obtain ⟨items, hitems, hwrite⟩ := ok_of_bind hwrite
      cases hwrite
      exact spells_list level (hx _ _ hfirst) (spells_writeItems hxs hitems)
  · intro es hes h level text hwrite
    have hkeys : ∀ e ∈ es, ∃ s, e.1 = .text s := fun e he => (entriesFrom_iff.mp hes.2 e he).1
    cases es with
    | nil => rw [writeAt] at hwrite; cases hwrite; exact spells_emptyMap
    | cons e es =>
      obtain ⟨hkey, hkeys⟩ := List.forall_mem_cons.mp hkeys
      obtain ⟨he, htail⟩ := List.forall_mem_cons.mp h
      rw [writeAt] at hwrite
      split at hwrite
      · cases hwrite
      obtain ⟨first, hfirst, hwrite⟩ := ok_of_bind hwrite
      obtain ⟨entries, hentries, hwrite⟩ := ok_of_bind hwrite
      cases hwrite
      exact spells_map level hes (spells_writeEntry hkey he hfirst)
        (spells_writeEntries hkeys htail hentries)

/-- **What is written is read as the same value**, if it is not nested too deeply. -/
theorem read_write {v : Value} {s : String} (hv : Storable v) (hdepth : depth v ≤ maxDepth)
    (h : write v = .ok s) : read s = .ok v := by
  unfold write at h
  cases htext : writeAt 0 v with
  | error e => rw [htext] at h; cases h
  | ok text =>
    rw [htext] at h
    cases h
    obtain ⟨toks, hcut, hread⟩ := spells_writeAt hv 0 text htext
    have hall := hread .value [] trivial (by simpa using hdepth) []
    rw [List.append_nil, List.foldlM_nil] at hall
    show ((tokens (String.ofList text).toList).foldlM Progress.step {} >>= _) = _
    rw [String.toList_ofList, hcut.tokens_eq, hall]
    rfl

end FolderTalk.Json
