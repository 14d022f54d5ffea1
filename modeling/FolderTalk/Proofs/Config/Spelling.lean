import FolderTalk.Proofs.Config.Paths

/-!
# Dotted keys and nested mappings

A setting may be given by a dotted key or by mappings one inside the other. Both are written to the
same place. They differ only where something is in the way that is no mapping: the dotted key is
refused, while a mapping takes the place of what is there.

* `dotted`, `nested` : the two spellings of one entry;
* `Respells` : entries of which one, at any depth, is spelled the other way;
* `overlayEntry_respelled` : what the two spellings of an entry do to any target;
* `resolveOver_respelled` : so layers in either spelling make up the same configuration, or none, or
  the dotted key is refused.
-/

namespace FolderTalk.Config

variable {α β ε : Type}

/-! ## Two computations, of which the first may be refused -/

/-- Both computations give the same or fail, unless the first one fails with the given error. -/
def AgreesOr (e : ε) (x y : Except ε α) : Prop := x.toOption = y.toOption ∨ x = .error e

section Agreement
variable {e e' : ε} {x y : Except ε α} {f g : α → Except ε β}

theorem AgreesOr.of_eq (h : x = y) : AgreesOr e x y := .inl (by rw [h])

theorem AgreesOr.bind (h : AgreesOr e x y) (hfg : ∀ a, AgreesOr e (f a) (g a)) :
    AgreesOr e (x >>= f) (y >>= g) := by
  rcases h with h | rfl
  · cases x with
    | error _ =>
      cases y with
      | error _ => exact .inl rfl
      | ok b => cases h
    | ok a =>
      cases y with
      | error _ => cases h
      | ok b =>
        obtain rfl := Option.some.inj h
        exact hfg a
  · exact .inr rfl

theorem AgreesOr.map (h : AgreesOr e x y) (k : α → β) : AgreesOr e (x.map k) (y.map k) := by
  rcases h with h | rfl
  · left
    rw [toOption_map, toOption_map, h]
  · exact .inr rfl

end Agreement

/-- Changes that agree at the end of a path agree at its beginning. -/
theorem changeAt_agrees {refused refused' : String → ε} {e : ε}
    {change change' : Entries → Except ε Entries} (h : ∀ es, AgreesOr e (change es) (change' es))
    (keys : List String) (es : Entries) :
    AgreesOr e (changeAt refused change keys es) (changeAt refused' change' keys es) := by
  induction keys generalizing es with
  | nil => exact h es
  | cons key keys ih =>
    rw [changeAt, changeAt]
    cases es.mappingAt? key with
    | none => exact .inl rfl
    | some inner => exact (ih inner).map _

/-! ## Entries in two spellings -/

/-- The dotted key of a path. -/
def dotted : List String → String → String
  | [], leaf => leaf
  | key :: keys, leaf => key ++ "." ++ dotted keys leaf

/-- The entry with mappings of one entry each on the path. -/
def nested : List String → String → Value → Value × Value
  | [], leaf, v => (.text leaf, v)
  | key :: keys, leaf, v => (.text key, .map [nested keys leaf v])

/-- One entry, here or inside a mapping, is replaced by another one in its place. -/
inductive Respells (e e' : Value × Value) : Entries → Entries → Prop
  | here (before after : Entries) : Respells e e' (before ++ e :: after) (before ++ e' :: after)
  | within {inner inner' : Entries} (before after : Entries) (key : Value)
      (h : Respells e e' inner inner') :
      Respells e e' (before ++ (key, .map inner) :: after) (before ++ (key, .map inner') :: after)

section Entry
variable (layer : Layer) {v : Value} {target : Entries}

theorem keyPath_dotted (keys : List String) (leaf : String) :
    keyPath (dotted keys leaf) = keys.flatMap keyPath ++ keyPath leaf := by
  induction keys with
  | nil => rfl
  | cons key keys ih => rw [dotted, keyPath_append, ih, List.flatMap_cons, List.append_assoc]

/-- Writes a value under a key of a mapping. -/
def landAt (leaf : String) (v : Value) (node : Entries) : Except ConfigError Entries :=
  (landed layer ((node.mappingAt? leaf).getD []) v).map (node.set leaf)

theorem overlayEntry_eq_landAt (target : Entries) (key : String) (v : Value) :
    overlayEntry layer target (.text key, v) =
      changeAt (fun _ => .conflict layer key) (landAt layer (splitKey key).2 v) (splitKey key).1
        target :=
  overlayEntry_eq target key v

theorem overlay_singleton (target : Entries) (e : Value × Value) :
    overlay layer target [e] = overlayEntry layer target e := by
  rw [overlay_cons]
  cases overlayEntry layer target e with
  | ok next =>
    show overlay layer next [] = _
    rw [overlay]
  | error e => rfl

/-- The nested spelling does at the end of a path that leads there what the dotted one does. -/
theorem changeAt_nested {refused : String → ConfigError} {keys : List String} {leaf : String}
    {target : Entries} (h : target.leads (keys.flatMap keyPath ++ (splitKey leaf).1)) :
    (changeAt refused (landAt layer (splitKey leaf).2 v)
      (keys.flatMap keyPath ++ (splitKey leaf).1) target).toOption =
      (overlayEntry layer target (nested keys leaf v)).toOption := by
  induction keys generalizing target with
  | nil =>
    rw [nested, overlayEntry_eq_landAt]
    have hleads : target.leads ((splitKey leaf).1 ++ []) := by rwa [List.append_nil]
    exact changeAt_of_leads (fun _ _ => rfl) hleads
  | cons key keys ih =>
    rw [List.flatMap_cons, keyPath_eq key, List.append_assoc, List.append_assoc] at h ⊢
    rw [nested, overlayEntry_eq_landAt, changeAt_append]
    refine changeAt_of_leads (fun node hnode => ?_) h
    rw [List.singleton_append] at hnode ⊢
    rw [Entries.leads] at hnode
    rw [changeAt, landAt]
    cases hinner : node.mappingAt? (splitKey key).2 with
    | none =>
      rw [hinner] at hnode
      cases hnode
    | some inner =>
      simp only [hinner] at hnode
      rw [Option.getD_some, landed, overlay_singleton]
      dsimp only
      rw [toOption_map, ih hnode, toOption_map, toOption_map, Option.map_map]
      rfl

/-- **The two spellings of an entry** do the same to a target, or both fail, if the path leads through
mappings there; otherwise the dotted key is refused. -/
theorem overlayEntry_respelled (keys : List String) (leaf : String) (v : Value) (target : Entries) :
    (target.leads (splitKey (dotted keys leaf)).1 = true →
      (overlayEntry layer target (.text (dotted keys leaf), v)).toOption =
        (overlayEntry layer target (nested keys leaf v)).toOption) ∧
    (target.leads (splitKey (dotted keys leaf)).1 = false →
      overlayEntry layer target (.text (dotted keys leaf), v) =
        .error (.conflict layer (dotted keys leaf))) := by
  rw [overlayEntry_eq_landAt]
  constructor
  · rw [splitKey_of_keyPath_append (keyPath_dotted keys leaf)]
    exact changeAt_nested layer
  · intro h
    exact (changeAt_of_not_leads h).elim fun _ hrefused => hrefused.2

theorem overlayEntry_agrees (keys : List String) (leaf : String) (v : Value) (target : Entries) :
    AgreesOr (.conflict layer (dotted keys leaf))
      (overlayEntry layer target (.text (dotted keys leaf), v))
      (overlayEntry layer target (nested keys leaf v)) := by
  obtain ⟨hleads, hblocked⟩ := overlayEntry_respelled layer keys leaf v target
  cases h : target.leads (splitKey (dotted keys leaf)).1 with
  | true => exact .inl (hleads h)
  | false => exact .inr (hblocked h)

theorem overlay_append (target es es' : Entries) :
    overlay layer target (es ++ es') = overlay layer target es >>= (overlay layer · es') := by
  induction es generalizing target with
  | nil =>
    rw [List.nil_append, overlay]
    rfl
  | cons e es ih =>
    rw [List.cons_append, overlay, overlay]
    cases overlayEntry layer target e with
    | ok next => exact ih next
    | error e => rfl

/-- Entries agree if the one that is replaced does. -/
theorem Respells.overlay {layer : Layer} {e e' : Value × Value} {error : ConfigError}
    {es es' : Entries} (h : Respells e e' es es')
    (he : ∀ target,
      AgreesOr error (overlayEntry layer target e) (overlayEntry layer target e')) :
    ∀ target, AgreesOr error (overlay layer target es) (overlay layer target es') := by
  -- What stands before and after does the same in both.
  have haround : ∀ {a a' : Value × Value} (before after : Entries),
      (∀ target, AgreesOr error (overlayEntry layer target a) (overlayEntry layer target a')) →
      ∀ target, AgreesOr error (Config.overlay layer target (before ++ a :: after))
        (Config.overlay layer target (before ++ a' :: after)) := by
    intro a a' before after ha target
    rw [overlay_append, overlay_append]
    refine (AgreesOr.of_eq rfl).bind fun next => ?_
    rw [overlay_cons, overlay_cons]
    exact (ha next).bind fun _ => .of_eq rfl
  induction h with
  | here before after => exact haround before after he
  | @within inner inner' before after key _ ih =>
    refine haround before after fun target => ?_
    cases key with
    | text key =>
      rw [overlayEntry_eq_landAt, overlayEntry_eq_landAt]
      refine changeAt_agrees (fun node => ?_) _ target
      exact ((ih _).map Value.map).map _
    | _ => exact .of_eq (by simp [overlayEntry])

end Entry

/-! ## The configuration of all layers -/

/-- The configuration that the layers make up. -/
def resolveLayers (defaults : Config) (sources : Layer → Option Value) : Except ConfigError Config :=
  resolveOver defaults (sources .file) (sources .environment) (sources .commandLine)

theorem resolveLayers_agrees {error : ConfigError} {sources sources' : Layer → Option Value}
    (h : ∀ layer target, AgreesOr error (overlayLayer target layer (sources layer))
      (overlayLayer target layer (sources' layer))) (defaults : Config) :
    AgreesOr error (resolveLayers defaults sources) (resolveLayers defaults sources') :=
  (h .file _).bind fun _ => (h .environment _).bind fun _ => (h .commandLine _).bind fun _ =>
    .of_eq rfl

/-- **Dotted keys and nested mappings mean the same.** When one entry of a layer, at any depth, is
spelled the other way, the layers make up the same configuration as before, or none in either
spelling, or else the dotted key is refused. It is refused wherever its path leads through something
that is no mapping, and nowhere else do the two spellings do different things. -/
theorem resolveOver_respelled (defaults : Config) (sources : Layer → Option Value) (layer : Layer)
    (keys : List String) (leaf : String) (v : Value) :
    (∀ es es', sources layer = some (.map es) →
      Respells (.text (dotted keys leaf), v) (nested keys leaf v) es es' →
      let withDots := resolveLayers defaults sources
      let withMappings := resolveLayers defaults (Function.update sources layer (some (.map es')))
      withDots.toOption = withMappings.toOption ∨
        withDots = .error (.conflict layer (dotted keys leaf))) ∧
    ∀ target : Entries,
      let withDots := overlayEntry layer target (.text (dotted keys leaf), v)
      let withMappings := overlayEntry layer target (nested keys leaf v)
      (target.leads (splitKey (dotted keys leaf)).1 = true →
        withDots.toOption = withMappings.toOption) ∧
      (target.leads (splitKey (dotted keys leaf)).1 = false →
        withDots = .error (.conflict layer (dotted keys leaf))) := by
  refine ⟨fun es es' hes hrespells => ?_, overlayEntry_respelled layer keys leaf v⟩
  refine resolveLayers_agrees (fun other target => ?_) defaults
  by_cases hother : other = layer
  · subst hother
    rw [Function.update_self, hes]
    exact hrespells.overlay (overlayEntry_agrees other keys leaf v) target
  · rw [Function.update_of_ne hother]
    exact .of_eq rfl

/-- A dotted key of the command line, spelled as a mapping, over a mapping of the file. -/
theorem resolveOver_respelled_history_limit :
    let sources : Layer → Option Value
      | .file => some (.map [(.text "engine", .map [(.text "response_delay_ms", .int 0)])])
      | .environment => none
      | .commandLine => some (.map [(.text "logging.level", .text "DEBUG"),
          (.text "engine.history_limit", .int 3)])
    let withMappings := some (Value.map [(.text "logging.level", .text "DEBUG"),
      (.text "engine", .map [(.text "history_limit", .int 3)])])
    let config : Config :=
      { engine := { historyLimit := ⟨3, by decide⟩, responseDelayMs := 0 },
        logging := { level := "DEBUG" } }
    resolveLayers {} sources = .ok config ∧
      resolveLayers {} (Function.update sources .commandLine withMappings) = .ok config := by
  intro sources withMappings config
  have hdots : resolveLayers {} sources = .ok config := by decide +kernel
  have hrespells : Respells (.text (dotted ["engine"] "history_limit"), .int 3)
      (nested ["engine"] "history_limit" (.int 3))
      [(.text "logging.level", .text "DEBUG"), (.text "engine.history_limit", .int 3)]
      [(.text "logging.level", .text "DEBUG"),
        (.text "engine", .map [(.text "history_limit", .int 3)])] :=
    .here [(.text "logging.level", .text "DEBUG")] []
  refine ⟨hdots, ?_⟩
  rcases (resolveOver_respelled {} sources .commandLine ["engine"] "history_limit" (.int 3)).1 _ _
    rfl hrespells with hsame | hrefused
  · rw [hdots] at hsame
    exact (toOption_eq_some _).mp hsame.symm
  · rw [hdots] at hrefused
    cases hrefused

/-- The dotted key of a setting is refused where a number stands for its section, while a mapping
takes the place of the number. -/
theorem resolve_dotted_over_number :
    let file := some (Value.map [(.text "engine", .int 5)])
    resolve file none (some (.map [(.text "engine.history_limit", .int 3)])) =
        .error (.conflict .commandLine "engine.history_limit") ∧
      resolve file none
          (some (.map [(.text "engine", .map [(.text "history_limit", .int 3)])])) =
        .ok { engine := { historyLimit := ⟨3, by decide⟩ } } := by
  decide +kernel

end FolderTalk.Config
