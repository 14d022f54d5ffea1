import FolderTalk.Proofs.Config.Settings
import Mathlib.Data.List.Induction

/-!
# The last writer of a setting wins

A layer of configuration assigns values to settings, by nested mappings and dotted keys, one after
another. Writing the layer over what is there replaces the values of these settings and nothing
else, so that in the end each setting has the value that was assigned to it last.

* `assigned?` : the assignments of a layer in their order, if it assigns nothing but settings;
* `overlayLayer_tree` : what writing such a layer does;
* `resolveOver_lastWriter` : which configuration the layers make up.
-/

namespace FolderTalk.Config

open Schema

/-! ## Assignments -/

/-- A setting with a value that a layer gives it. -/
abbrev Assignment := Setting × Value

/-- The setting with this path. -/
def Setting.at? (path : List String) : Option Setting := Setting.all.find? (·.path == path)

/-- The section with this path. -/
def Section.at? (path : List String) : Option Section := Section.all.find? ([·.name] == path)

mutual

/-- What a value below a path assigns, depth first; `none` if it is a mapping that is not a section,
or anything else that is not at the path of a setting. -/
def assigned? (path : List String) : Value → Option (List Assignment)
  | .map entries =>
    if (Section.at? path).isSome then assignedByAll? path entries else none
  | v => (Setting.at? path).map fun s => [(s, v)]

/-- What entries assign, one after another. -/
def assignedByAll? (path : List String) : List (Value × Value) → Option (List Assignment)
  | [] => some []
  | e :: es =>
    match assignedBy? path e, assignedByAll? path es with
    | some first, some rest => some (first ++ rest)
    | _, _ => none

/-- What one entry assigns; its key is a path, which continues the one of the mapping. -/
def assignedBy? (path : List String) : Value × Value → Option (List Assignment)
  | (.text key, v) =>
    let (parents, leaf) := splitKey key
    assigned? (path ++ parents ++ [leaf]) v
  | _ => none

end

/-- What a whole layer assigns. -/
def assignedByLayer? : Option Value → Option (List Assignment)
  | none => some []
  | some (.map entries) => assignedByAll? [] entries
  | some _ => none

/-- The values of all settings after one more assignment. -/
def assign (v : Setting → Value) (a : Assignment) : Setting → Value := Function.update v a.1 a.2

/-- The value that is assigned last. -/
def last? (as : List Assignment) (s : Setting) : Option Value := as.reverse.lookup s

variable {v : Setting → Value} {as : List Assignment}

theorem Setting.at?_eq_some_iff {path : List String} {s : Setting} :
    Setting.at? path = some s ↔ s.path = path := by
  constructor
  · intro h
    have hfound := List.find?_some h
    exact beq_iff_eq.mp hfound
  · rintro rfl
    cases s <;> decide

theorem Section.at?_eq_some_iff {path : List String} {sec : Section} :
    Section.at? path = some sec ↔ [sec.name] = path := by
  constructor
  · intro h
    have hfound := List.find?_some h
    exact beq_iff_eq.mp hfound
  · rintro rfl
    cases sec <;> decide

theorem last?_concat (as : List Assignment) (a : Assignment) (s : Setting) :
    last? (as ++ [a]) s = if s = a.1 then some a.2 else last? as s := by
  unfold last?
  rw [List.reverse_concat, List.lookup_cons]
  by_cases h : s = a.1
  · simp [h]
  · rw [beq_eq_false_iff_ne.mpr h, if_neg h]

/-- In the end each setting has the value that was assigned to it last, if there is one. -/
theorem foldl_assign (v : Setting → Value) (as : List Assignment) (s : Setting) :
    as.foldl assign v s = (last? as s).getD (v s) := by
  induction as using List.reverseRecOn with
  | nil => rfl
  | append_singleton as a ih =>
    rw [List.foldl_concat, last?_concat, assign]
    by_cases h : s = a.1
    · rw [h, Function.update_self, if_pos rfl, Option.getD_some]
    · rw [Function.update_of_ne h, if_neg h, ih]

theorem assignedBy?_eq_some {path : List String} {e : Value × Value}
    (h : assignedBy? path e = some as) : ∃ key v, e = (.text key, v) ∧
      assigned? (path ++ (splitKey key).1 ++ [(splitKey key).2]) v = some as := by
  obtain ⟨k, v⟩ := e
  cases k with
  | text key =>
    rw [assignedBy?] at h
    exact ⟨key, v, rfl, h⟩
  | _ => simp [assignedBy?] at h

theorem assigned?_eq_some {path : List String} {v : Value} (h : assigned? path v = some as) :
    (∃ es sec, v = .map es ∧ [Section.name sec] = path ∧ assignedByAll? path es = some as) ∨
      ∃ s, (∀ es, v ≠ .map es) ∧ Setting.path s = path ∧ as = [(s, v)] := by
  cases v with
  | map es =>
    left
    rw [assigned?] at h
    split at h
    · next hsec =>
      obtain ⟨sec, hsec⟩ := Option.isSome_iff_exists.mp hsec
      exact ⟨es, sec, rfl, Section.at?_eq_some_iff.mp hsec, h⟩
    · cases h
  | _ =>
    right
    rw [assigned?, Option.map_eq_some_iff] at h
    · obtain ⟨s, hs, rfl⟩ := h
      exact ⟨s, by simp, Setting.at?_eq_some_iff.mp hs, rfl⟩
    · simp

theorem assignedByAll?_cons_eq_some {path : List String} {e : Value × Value} {es : Entries}
    (h : assignedByAll? path (e :: es) = some as) : ∃ first rest,
      assignedBy? path e = some first ∧ assignedByAll? path es = some rest ∧ as = first ++ rest := by
  rw [assignedByAll?] at h
  split at h
  · next first rest hfirst hrest => exact ⟨first, rest, hfirst, hrest, (Option.some.inj h).symm⟩
  · cases h

theorem Setting.key_of_path {s : Setting} {parents : List String} {leaf : String}
    (h : s.path = parents ++ [leaf]) : parents = [s.section.name] ∧ leaf = s.name := by
  have hparts : [s.section.name] ++ [s.name] = parents ++ [leaf] := h
  obtain ⟨hparents, hleaf⟩ := List.append_inj' hparts rfl
  exact ⟨hparents.symm, (List.singleton_inj.mp hleaf).symm⟩

/-- The keys of a section are the names of its settings. -/
theorem assignedBy?_section {sec : Section} {e : Value × Value}
    (h : assignedBy? [sec.name] e = some as) : ∃ key s x, e = (.text key, x) ∧
      (∀ es, x ≠ .map es) ∧ splitKey key = ([], Setting.name s) ∧ s.section = sec ∧
      as = [(s, x)] := by
  obtain ⟨key, x, rfl, hx⟩ := assignedBy?_eq_some h
  rcases assigned?_eq_some hx with ⟨es, other, -, hpath, -⟩ | ⟨s, hleaf, hpath, rfl⟩
  · simp at hpath
  · obtain ⟨hparents, hname⟩ := Setting.key_of_path hpath
    rw [List.singleton_append, List.cons.injEq] at hparents
    obtain ⟨hsec, hnone⟩ := hparents
    exact ⟨key, s, x, rfl, hleaf, Prod.ext hnone hname, (Section.name_injective hsec).symm, rfl⟩

/-- A section assigns its own settings only. -/
theorem section_of_mem_assigned {sec : Section} {es : Entries}
    (h : assignedByAll? [sec.name] es = some as) : ∀ a ∈ as, a.1.section = sec := by
  induction es generalizing as with
  | nil =>
    rw [assignedByAll?] at h
    obtain rfl := Option.some.inj h
    simp
  | cons e es ih =>
    obtain ⟨first, rest, hfirst, hrest, rfl⟩ := assignedByAll?_cons_eq_some h
    obtain ⟨-, s, x, -, -, -, hsec, rfl⟩ := assignedBy?_section hfirst
    intro a ha
    rcases List.mem_append.mp ha with ha | ha
    · rw [List.mem_singleton.mp ha]
      exact hsec
    · exact ih hrest a ha

/-! ## Writing over all settings -/

theorem set_fields (v : Setting → Value) (s : Setting) (x : Value) :
    (fields v s.section).set s.name x = fields (assign v (s, x)) s.section := by
  have hnodup : s.section.settings.Nodup := by cases s <;> decide
  exact Entries.set_map_of_mem Setting.name_injective hnodup s.mem_settings x

theorem set_tree {v w : Setting → Value} (sec : Section) (h : ∀ s, s.section ≠ sec → w s = v s) :
    (tree v).set sec.name (.map (fields w sec)) = tree w := by
  unfold tree
  rw [Entries.set_map_of_mem Section.name_injective (by decide) sec.mem_all]
  apply List.map_congr_left
  intro other _
  by_cases hother : other = sec
  · rw [hother, Function.update_self]
  · rw [Function.update_of_ne hother]
    have hfields : fields v other = fields w other := by
      apply List.map_congr_left
      intro s hs
      rw [h s (Setting.section_of_mem hs ▸ hother)]
    rw [hfields]

theorem mappingAt?_tree (v : Setting → Value) (sec : Section) :
    (tree v).mappingAt? sec.name = some (fields v sec) := by
  rw [Entries.mappingAt?, get?_tree]

variable (layer : Layer)

theorem overlayEntry_leaf (target : Entries) (key : String) {x : Value} (hx : ∀ es, x ≠ .map es) :
    overlayEntry layer target (.text key, x) =
      changeAt (fun _ => .conflict layer key) (fun node => .ok (node.set (splitKey key).2 x))
        (splitKey key).1 target := by
  rw [overlayEntry]
  exact hx

/-- What each entry of a mapping does to all settings, the entries together do. -/
theorem overlay_of_entries {path : List String} {target : (Setting → Value) → Entries}
    (hentry : ∀ {e as}, assignedBy? path e = some as → ∀ v,
      overlayEntry layer (target v) e = .ok (target (as.foldl assign v)))
    {es : Entries} (h : assignedByAll? path es = some as) (v : Setting → Value) :
    overlay layer (target v) es = .ok (target (as.foldl assign v)) := by
  induction es generalizing as v with
  | nil =>
    rw [assignedByAll?] at h
    obtain rfl := Option.some.inj h
    rw [overlay]
    rfl
  | cons e es ih =>
    obtain ⟨first, rest, hfirst, hrest, rfl⟩ := assignedByAll?_cons_eq_some h
    rw [overlay, hentry hfirst v, List.foldl_append]
    exact ih hrest _

theorem overlayEntry_fields {sec : Section} {e : Value × Value}
    (h : assignedBy? [sec.name] e = some as) (v : Setting → Value) :
    overlayEntry layer (fields v sec) e = .ok (fields (as.foldl assign v) sec) := by
  obtain ⟨key, s, x, rfl, hleaf, hkey, rfl, rfl⟩ := assignedBy?_section h
  rw [overlayEntry_leaf _ _ _ hleaf, hkey, changeAt, set_fields]
  rfl

theorem overlay_fields {sec : Section} {es : Entries} (h : assignedByAll? [sec.name] es = some as)
    (v : Setting → Value) :
    overlay layer (fields v sec) es = .ok (fields (as.foldl assign v) sec) :=
  overlay_of_entries layer (overlayEntry_fields layer) h v

theorem foldl_assign_of_not_mem (v : Setting → Value) {s : Setting} (h : ∀ a ∈ as, a.1 ≠ s) :
    as.foldl assign v s = v s := by
  induction as generalizing v with
  | nil => rfl
  | cons a as ih =>
    obtain ⟨ha, has⟩ := List.forall_mem_cons.mp h
    rw [List.foldl_cons, ih _ has, assign, Function.update_of_ne ha.symm]

/-- **One entry of a layer** replaces the values of the settings that it assigns. -/
theorem overlayEntry_tree {e : Value × Value} (h : assignedBy? [] e = some as)
    (v : Setting → Value) :
    overlayEntry layer (tree v) e = .ok (tree (as.foldl assign v)) := by
  obtain ⟨key, x, rfl, hx⟩ := assignedBy?_eq_some h
  rw [List.nil_append] at hx
  rcases assigned?_eq_some hx with ⟨es, sec, rfl, hpath, hall⟩ | ⟨s, hleaf, hpath, rfl⟩
  · have hparts : [] ++ [sec.name] = (splitKey key).1 ++ [(splitKey key).2] := hpath
    obtain ⟨hparents, hname⟩ := List.append_inj' hparts rfl
    rw [← hpath] at hall
    have hover := overlay_fields layer hall v
    have hkept : ∀ s, s.section ≠ sec → as.foldl assign v s = v s := by
      intro s hs
      apply foldl_assign_of_not_mem
      rintro a ha rfl
      exact hs (section_of_mem_assigned hall a ha)
    have hkey : splitKey key = ([], sec.name) :=
      Prod.ext hparents.symm (List.singleton_inj.mp hname).symm
    rw [overlayEntry, hkey]
    simp only [changeAt, mappingAt?_tree, Option.getD_some, hover, Except.map, set_tree sec hkept]
  · obtain ⟨hparents, hname⟩ := Setting.key_of_path hpath
    have hkept : ∀ t, t.section ≠ s.section → assign v (s, x) t = v t := by
      intro t ht
      apply Function.update_of_ne
      rintro rfl
      exact ht rfl
    rw [overlayEntry_leaf _ _ _ hleaf, hparents, hname, changeAt, mappingAt?_tree]
    simp only [changeAt, Except.map, set_fields, set_tree s.section hkept, List.foldl_cons,
      List.foldl_nil]

/-- **A layer** replaces the values of the settings that it assigns, one assignment after another. -/
theorem overlay_tree {es : Entries} (h : assignedByAll? [] es = some as) (v : Setting → Value) :
    overlay layer (tree v) es = .ok (tree (as.foldl assign v)) :=
  overlay_of_entries layer (overlayEntry_tree layer) h v

theorem overlayLayer_tree {source : Option Value} (h : assignedByLayer? source = some as)
    (v : Setting → Value) :
    overlayLayer (tree v) layer source = .ok (tree (as.foldl assign v)) := by
  cases source with
  | none =>
    obtain rfl := Option.some.inj h
    rfl
  | some x =>
    cases x with
    | map es => exact overlay_tree layer h v
    | _ => cases h

/-! ## The configuration of all layers -/

section Layers

variable {file environment commandLine : Option Value}
variable {inFile inEnvironment inCommandLine : List Assignment}

theorem resolveOver_eq_ok_iff (defaults : Config) (hfile : assignedByLayer? file = some inFile)
    (henvironment : assignedByLayer? environment = some inEnvironment)
    (hcommandLine : assignedByLayer? commandLine = some inCommandLine) (c : Config) :
    resolveOver defaults file environment commandLine = .ok c ↔ ∀ s : Setting,
      let v := (last? (inFile ++ inEnvironment ++ inCommandLine) s).getD (s.written (s.of defaults))
      s.check v = .valid (s.of c) := by
  have hlast := funext (foldl_assign (fun s => s.written (s.of defaults))
    (inFile ++ inEnvironment ++ inCommandLine))
  rw [← check_tree_iff, ← hlast]
  unfold resolveOver
  rw [entries_eq_tree, overlayLayer_tree _ hfile]
  simp only [bind, Except.bind, overlayLayer_tree _ henvironment, overlayLayer_tree _ hcommandLine,
    ← List.foldl_append]
  split
  · next d hd => rw [hd]; simp [pure, Except.pure]
  · next issues hissues => rw [hissues]; simp [throw, throwThe, MonadExceptOf.throw]

/-- **The last writer of each setting wins.** Layers that assign nothing but settings make up a
configuration over any defaults exactly if the last value of each setting passes the check of that
setting, whatever the values before it were; and then each setting is this value, checked, or what it
is in the defaults if no layer assigns it. -/
theorem resolveOver_lastWriter (defaults : Config) (hfile : assignedByLayer? file = some inFile)
    (henvironment : assignedByLayer? environment = some inEnvironment)
    (hcommandLine : assignedByLayer? commandLine = some inCommandLine) :
    let resolved := resolveOver defaults file environment commandLine
    let assignments := inFile ++ inEnvironment ++ inCommandLine
    ((∃ c, resolved = .ok c) ↔
        ∀ (s : Setting) v, last? assignments s = some v → ∃ a, s.check v = .valid a) ∧
      ∀ c, resolved = .ok c → ∀ s : Setting,
        match last? assignments s with
        | some v => s.check v = .valid (s.of c)
        | none => s.of c = s.of defaults := by
  intro resolved assignments
  have hresolved : ∀ c, resolved = .ok c ↔ ∀ s : Setting,
      s.check ((last? assignments s).getD (s.written (s.of defaults))) = .valid (s.of c) :=
    resolveOver_eq_ok_iff defaults hfile henvironment hcommandLine
  refine ⟨⟨?_, fun h => ?_⟩, fun c hc s => ?_⟩
  · rintro ⟨c, hc⟩ s v hv
    have hs := (hresolved c).mp hc s
    rw [hv] at hs
    exact ⟨s.of c, hs⟩
  · have hvalue : ∀ s : Setting, ∃ a,
        s.check ((last? assignments s).getD (s.written (s.of defaults))) = .valid a := by
      intro s
      cases hlast : last? assignments s with
      | none => exact ⟨s.of defaults, s.check_written _⟩
      | some v => exact h s v hlast
    choose value hvalue using hvalue
    refine ⟨ofSettings value, (hresolved _).mpr fun s => ?_⟩
    rw [of_ofSettings]
    exact hvalue s
  · have hs := (hresolved c).mp hc s
    cases hlast : last? assignments s with
    | none =>
      rw [hlast, Option.getD_none, Setting.check_written] at hs
      exact (Checked.valid.inj hs).symm
    | some v =>
      rw [hlast] at hs
      exact hs

end Layers

/-- A refused value of the file loses to a nested mapping of the environment, and the list of the
file to a dotted key of the command line. -/
theorem resolveOver_lastWriter_three_layers :
    let file := Value.map [(.text "engine", .map [(.text "history_limit", .text "many"),
      (.text "folder_colors", .list [.text "bg-red-500", .text "bg-pink-500"])])]
    let environment := Value.map [(.text "engine", .map [(.text "history_limit", .text "7")])]
    let commandLine := Value.map [(.text "engine.folder_colors", .list [.text "bg-teal-500"])]
    let defaults : Config := { logging := { level := "DEBUG" } }
    assignedByLayer? (some file) = some [(.historyLimit, .text "many"),
        (.folderColors, .list [.text "bg-red-500", .text "bg-pink-500"])] ∧
      assignedByLayer? (some environment) = some [(.historyLimit, .text "7")] ∧
      assignedByLayer? (some commandLine) = some [(.folderColors, .list [.text "bg-teal-500"])] ∧
      ∃ c, resolveOver defaults (some file) (some environment) (some commandLine) = .ok c ∧
        c.engine.historyLimit.val = 7 ∧ c.engine.folderColors = ["bg-teal-500"] ∧
        c.logging.level = "DEBUG" := by
  intro file environment commandLine defaults
  have hkeys : splitKey "engine" = ([], "engine") ∧
      splitKey "history_limit" = ([], "history_limit") ∧
      splitKey "folder_colors" = ([], "folder_colors") ∧
      splitKey "engine.folder_colors" = (["engine"], "folder_colors") := by
    decide +kernel
  obtain ⟨hengine, hlimit, hcolors, hdotted⟩ := hkeys
  have hsection : Section.at? ["engine"] = some .engine := by decide
  have hsettings : Setting.at? ["engine", "history_limit"] = some .historyLimit ∧
      Setting.at? ["engine", "folder_colors"] = some .folderColors := by
    decide
  have hfile : assignedByLayer? (some file) = some [(.historyLimit, .text "many"),
      (.folderColors, .list [.text "bg-red-500", .text "bg-pink-500"])] := by
    simp [file, assignedByLayer?, assignedByAll?, assignedBy?, assigned?, *]
  have henvironment : assignedByLayer? (some environment) = some [(.historyLimit, .text "7")] := by
    simp [environment, assignedByLayer?, assignedByAll?, assignedBy?, assigned?, *]
  have hcommandLine : assignedByLayer? (some commandLine) =
      some [(.folderColors, .list [.text "bg-teal-500"])] := by
    simp [commandLine, assignedByLayer?, assignedByAll?, assignedBy?, assigned?, *]
  obtain ⟨hresolved, hsetting⟩ := resolveOver_lastWriter defaults hfile henvironment hcommandLine
  have hchecked : Setting.historyLimit.check (.text "7") = .valid ⟨7, by decide⟩ := rfl
  obtain ⟨c, hc⟩ := hresolved.mpr (by
    intro s v hv
    cases s <;> cases hv
    · exact ⟨_, hchecked⟩
    · exact ⟨["bg-teal-500"], rfl⟩)
  have hlimit := hchecked.symm.trans (hsetting c hc .historyLimit)
  have hcolors := hsetting c hc .folderColors
  have hlevel := hsetting c hc .level
  refine ⟨hfile, henvironment, hcommandLine, c, hc, ?_, ?_, hlevel⟩
  · exact (congrArg Subtype.val (Checked.valid.inj hlimit)).symm
  · exact (Checked.valid.inj hcolors).symm

end FolderTalk.Config
