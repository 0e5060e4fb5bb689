import DepAtlas.Config.Layers
import Mathlib.Data.List.Basic

set_option relaxedAutoImplicit false
set_option autoImplicit false

/-!
# Which layer decides about a field

A configuration has fifteen fields, and each layer gives values for some of them. Every layer is
applied to all fields at once, but field by field the result is the value that the highest layer
gives: the layers below it and the other fields do not count.

## Main definitions

* `DepAtlas.Config.Field` — the fields, with the types of their values.
* `DepAtlas.Config.Field.inFile`, `DepAtlas.Config.Field.inEnvironment`,
  `DepAtlas.Config.Field.inOverrides` — what a layer gives for a field, if it gives anything.
* `DepAtlas.ConfigSource` — a configuration file that is there.
* `DepAtlas.Config.Field.given` — what all layers of a run give for a field.

## Main results

* `DepAtlas.Config.exists_withFile_eq_ok`, `DepAtlas.Config.isSound_of_withFile_eq_ok` — when a file can be
  applied, and what comes out.
* `DepAtlas.Config.exists_withSources_eq_ok`, `DepAtlas.Config.isUsable_of_withSources_eq_ok` — a run of files.
* `DepAtlas.World.highest_layer_decides` — the configuration of a run, field by field.
* `DepAtlas.World.empty_prefixes_override` — an empty list that overrides a list.
-/

namespace DepAtlas

namespace Config

/-! ## Fields -/

/-- The fields of a configuration that layers give values for, each with the type of its values.
With a type of fields, precedence is one statement about all of them. -/
inductive Field : Type → Type where
  | quiet : Field Bool
  | includes : Field (List String)
  | excludes : Field (List String)
  | internals : Field Bool
  | internalPrefixes : Field (List String)
  | noExternal : Field Bool
  | filterNamespace : Field (Option String)
  | filterFrom : Field (Option String)
  | depth : Field ℕ
  | excludeRegex : Field (Option String)
  | noClasses : Field Bool
  | separator : Field String
  | weights : Field Policy
  | dot : Field String
  | plantUml : Field String

/-- A list, unless it is empty. -/
def nonEmpty? (list : List String) : Option (List String) :=
  if list.isEmpty then none else some list

/-- What a switch says that can only be turned on. -/
def switch? (on : Bool) : Option Bool :=
  if on then some true else none

namespace Field

variable {α : Type}

/-- The value of a field in a configuration. -/
def value : {α : Type} → Field α → Config → α
  | _, quiet, c => c.quiet
  | _, includes, c => c.includes
  | _, excludes, c => c.excludes
  | _, internals, c => c.filters.internals
  | _, internalPrefixes, c => c.filters.internalPrefixes
  | _, noExternal, c => c.filters.noExternal
  | _, filterNamespace, c => c.filters.filterNamespace
  | _, filterFrom, c => c.filters.filterFrom
  | _, depth, c => c.filters.depth
  | _, excludeRegex, c => c.filters.excludeRegex
  | _, noClasses, c => c.filters.noClasses
  | _, separator, c => c.filters.separator
  | _, weights, c => c.weights
  | _, dot, c => c.tools.dot
  | _, plantUml, c => c.tools.plantUml

/-- The value that a field has without any layer. -/
def initial (field : Field α) : α := field.value {}

/-- What a file gives for a field. The lists of files to take and to leave out have to be non-empty
to count. A file has no say about the two namespaces. -/
def inFile : {α : Type} → Field α → ConfigFile → Option α
  | _, quiet, f => f.quiet
  | _, includes, f => nonEmpty? f.includes
  | _, excludes, f => nonEmpty? f.excludes
  | _, internals, f => f.internals
  | _, internalPrefixes, f => f.internalPrefixes
  | _, noExternal, f => f.noExternal
  | _, filterNamespace, _ => none
  | _, filterFrom, _ => none
  | _, depth, f => f.depth
  | _, excludeRegex, f => f.excludeRegex.map some
  | _, noClasses, f => f.noClasses
  | _, separator, f => f.separator
  | _, weights, f => f.weights.bind fun word => (Policy.read word).toOption
  | _, dot, f => f.dot
  | _, plantUml, f => f.plantUml

/-- What the environment gives for a field: a variable for a switch says yes or no, and one that
cannot be read gives nothing. -/
def inEnvironment : {α : Type} → Field α → (String → Option String) → Option α
  | _, quiet, value? => (value? "DEPLENS_QUIET").map isYes
  | _, internals, value? => (value? "DEPLENS_INTERNALS").map isYes
  | _, depth, value? => (value? "DEPLENS_DEPTH").bind readNumber?
  | _, excludeRegex, value? => (value? "DEPLENS_EXCLUDE_REGEX").map some
  | _, weights, value? =>
    (value? "DEPLENS_MERGE_WEIGHTS").bind fun word => (Policy.read word).toOption
  | _, dot, value? => value? "DEPLENS_DOT"
  | _, plantUml, value? => value? "DEPLENS_PLANTUML"
  | _, _, _ => none

/-- What the command line gives for a field. A switch can only be turned on. -/
def inOverrides : {α : Type} → Field α → Overrides → Option α
  | _, quiet, o => switch? o.quiet
  | _, includes, o => nonEmpty? o.includes
  | _, excludes, o => nonEmpty? o.excludes
  | _, internals, o => switch? o.internals
  | _, noExternal, o => switch? o.noExternal
  | _, filterNamespace, o => o.filterNamespace.map some
  | _, filterFrom, o => o.filterFrom.map some
  | _, depth, o => o.depth
  | _, excludeRegex, o => o.excludeRegex.map some
  | _, noClasses, o => switch? o.noClasses
  | _, _, _ => none

end Field

/-! ## Layers on top of each other -/

/-- One configuration is another one with some given values on top, read from some more files.
Fields for which no value is given keep theirs. -/
structure Overlaid (c c' : Config) (paths : List String)
    (given : (α : Type) → Field α → Option α) : Prop where
  loaded_eq : c'.loaded = c.loaded ++ paths
  value_eq : ∀ (α : Type) (field : Field α), field.value c' = (given α field).getD (field.value c)

namespace Overlaid

variable {c d e : Config} {paths paths' : List String} {given given' : (α : Type) → Field α → Option α}

/-- A configuration is itself without anything on top. -/
lemma refl (c : Config) : c.Overlaid c [] fun _ _ => none :=
  ⟨(List.append_nil _).symm, fun _ _ => rfl⟩

/-- Of two layers the upper one decides about the fields for which it gives a value, and the lower
one about the others. -/
lemma trans (h : c.Overlaid d paths given) (h' : d.Overlaid e paths' given') :
    c.Overlaid e (paths ++ paths') fun α field => (given' α field).or (given α field) := by
  refine ⟨?_, fun α field => ?_⟩
  · rw [h'.loaded_eq, h.loaded_eq, List.append_assoc]
  · rw [h'.value_eq, h.value_eq, Option.getD_or]

end Overlaid

/-- A list on top counts unless it is empty. -/
lemma getD_nonEmpty? (list before : List String) :
    (nonEmpty? list).getD before = if list.isEmpty then before else list := by
  unfold nonEmpty?
  split <;> rfl

/-- A switch on top can only turn on. -/
lemma getD_switch? (on before : Bool) : (switch? on).getD before = (before || on) := by
  cases on <;> simp [switch?]

/-- A text on top counts if there is one. -/
lemma getD_map_some (text before : Option String) :
    (text.map some).getD before = (text <|> before) := by
  cases text <;> rfl

/-- **The environment overrides field by field.** -/
lemma overlaid_withEnvironment (c : Config) (value? : String → Option String) :
    c.Overlaid (c.withEnvironment value?) [] fun _ field => field.inEnvironment value? := by
  refine ⟨(List.append_nil _).symm, fun α field => ?_⟩
  cases field with
  | excludeRegex => exact (getD_map_some _ _).symm
  | _ => rfl

/-- **The command line overrides field by field.** -/
lemma overlaid_withOverrides (c : Config) (o : Overrides) :
    c.Overlaid (c.withOverrides o) [] fun _ field => field.inOverrides o := by
  refine ⟨(List.append_nil _).symm, fun α field => ?_⟩
  cases field with
  | includes | excludes => exact (getD_nonEmpty? _ _).symm
  | quiet | internals | noExternal | noClasses => exact (getD_switch? _ _).symm
  | filterNamespace | filterFrom | excludeRegex => exact (getD_map_some _ _).symm
  | _ => rfl

end Config

/-! ## Files -/

/-- A file asks for no empty separator, and for no policy that there is not. -/
def ConfigFile.IsSound (f : ConfigFile) : Prop :=
  f.separator ≠ some "" ∧ ∀ word, f.weights = some word → ∃ policy, Policy.read word = .ok policy

/-- A configuration file that is there: its kind, its path and its contents, unless it cannot be
read. -/
structure ConfigSource where
  layer : ConfigLayer
  path : String
  contents : Option ByteArray

namespace ConfigSource

/-- The options that a file gives, if it is a text that can be read. -/
def file? (source : ConfigSource) : Option ConfigFile :=
  (source.contents.bind Text.decode?).bind ConfigFile.read?

/-- A file can be read, and what it says is sound. -/
def IsUsable (source : ConfigSource) : Prop :=
  ∃ f, source.file? = some f ∧ f.IsSound

end ConfigSource

namespace Config

variable {c c' : Config}

/-- A separator passes the check unless it is empty, and is not changed by it. -/
lemma checkSeparator_eq_ok_iff {separator checked : Option String} :
    checkSeparator separator = .ok checked ↔ separator ≠ some "" ∧ checked = separator := by
  unfold checkSeparator
  split
  · simp
  · next hne => exact ⟨fun h => ⟨hne, (Except.ok.inj h).symm⟩, fun h => congrArg _ h.2.symm⟩

/-- A policy is checked by reading it. -/
lemma checkWeights_eq_ok_iff {word : Option String} {checked : Option Policy} :
    checkWeights word = .ok checked ↔
      (∀ w, word = some w → ∃ policy, Policy.read w = .ok policy) ∧
        checked = word.bind fun w => (Policy.read w).toOption := by
  cases word with
  | none => simp [checkWeights, eq_comm]
  | some w =>
    cases h : Policy.read w with
    | error e => simp [checkWeights, h]
    | ok policy => simp [checkWeights, h, Except.toOption, eq_comm]

/-- A sound file overrides field by field. -/
lemma exists_withFile_eq_ok {f : ConfigFile} (hf : f.IsSound) (c : Config) :
    ∃ c', c.withFile f = .ok c' ∧ c.Overlaid c' [] fun _ field => field.inFile f := by
  have hseparator := checkSeparator_eq_ok_iff.2 ⟨hf.1, rfl⟩
  have hweights := checkWeights_eq_ok_iff.2 ⟨hf.2, rfl⟩
  unfold withFile
  rw [hseparator, hweights]
  refine ⟨_, rfl, (List.append_nil _).symm, fun α field => ?_⟩
  cases field with
  | includes | excludes => exact (getD_nonEmpty? _ _).symm
  | excludeRegex => exact (getD_map_some _ _).symm
  | _ => rfl

/-- A file that can be applied is sound.

**Proof sketch.** Applying a file checks its separator and its policy first, and each check fails
for what is not sound. -/
lemma isSound_of_withFile_eq_ok {f : ConfigFile} (h : c.withFile f = .ok c') : f.IsSound := by
  unfold withFile at h
  cases hseparator : checkSeparator f.separator with
  | error e =>
    rw [hseparator] at h
    exact nomatch h
  | ok separator =>
    cases hweights : checkWeights f.weights with
    | error e =>
      rw [hseparator, hweights] at h
      exact nomatch h
    | ok weights =>
      exact ⟨(checkSeparator_eq_ok_iff.1 hseparator).1, (checkWeights_eq_ok_iff.1 hweights).1⟩

/-- What a file gives for a field; nothing if it cannot be read. -/
def Field.inSource {α : Type} (field : Field α) (source : ConfigSource) : Option α :=
  source.file?.bind field.inFile

/-- A configuration with a file on top. -/
def withSource (c : Config) (source : ConfigSource) : Except ConfigError Config :=
  c.withContents source.layer source.path source.contents

/-- A file that can be read is applied, and its path is noted down. -/
lemma withSource_eq_map {source : ConfigSource} {f : ConfigFile} (h : source.file? = some f)
    (c : Config) :
    c.withSource source =
      (c.withFile f).map fun c' => { c' with loaded := c'.loaded ++ [source.path] } := by
  unfold ConfigSource.file? at h
  obtain ⟨text, hcontents, hread⟩ := Option.bind_eq_some_iff.1 h
  simp only [withSource, withContents, hcontents, hread]
  rfl

/-- A usable file overrides field by field. -/
lemma exists_withSource_eq_ok {source : ConfigSource} (h : source.IsUsable) (c : Config) :
    ∃ c', c.withSource source = .ok c' ∧
      c.Overlaid c' [source.path] fun _ field => field.inSource source := by
  obtain ⟨f, hfile, hf⟩ := h
  obtain ⟨d, hd, hloaded, hvalue⟩ := exists_withFile_eq_ok hf c
  refine ⟨{ d with loaded := d.loaded ++ [source.path] }, ?_, ?_, fun α field => ?_⟩
  · rw [withSource_eq_map hfile, hd]
    rfl
  · rw [hloaded, List.append_nil]
  · rw [Field.inSource, hfile, Option.bind_some, ← hvalue]
    cases field <;> rfl

/-- A file that can be applied is usable.

**Proof sketch.** A file that cannot be read, or whose text is no configuration, is an error before
anything is applied. -/
lemma isUsable_of_withSource_eq_ok {source : ConfigSource} (h : c.withSource source = .ok c') :
    source.IsUsable := by
  cases hfile : source.file? with
  | none =>
    unfold withSource withContents at h
    cases hcontents : source.contents.bind Text.decode? with
    | none => simp [hcontents] at h
    | some text =>
      have hread : ConfigFile.read? text = none := by simpa [ConfigSource.file?, hcontents] using hfile
      simp [hcontents, hread] at h
  | some f =>
    rw [withSource_eq_map hfile] at h
    cases hd : c.withFile f with
    | error e =>
      rw [hd] at h
      exact nomatch h
    | ok d => exact ⟨f, hfile, isSound_of_withFile_eq_ok hd⟩

/-- Usable files override field by field: for every field the last file counts that gives a value.

**Proof sketch.** Induction on the files. The first of them is a layer below all others. -/
lemma exists_withSources_eq_ok {sources : List ConfigSource}
    (h : ∀ source ∈ sources, source.IsUsable) (c : Config) :
    ∃ c', sources.foldlM withSource c = .ok c' ∧
      c.Overlaid c' (sources.map ConfigSource.path) fun _ field =>
        sources.reverse.findSome? field.inSource := by
  induction sources generalizing c with
  | nil => exact ⟨c, rfl, .refl c⟩
  | cons source sources ih =>
    obtain ⟨d, hd, hfirst⟩ := exists_withSource_eq_ok (h source List.mem_cons_self) c
    obtain ⟨e, he, hrest⟩ := ih (fun source hmem => h source (List.mem_cons_of_mem _ hmem)) d
    refine ⟨e, ?_, ?_⟩
    · rw [List.foldlM_cons, hd]
      exact he
    · have hgiven : ∀ (α : Type) (field : Field α),
          (source :: sources).reverse.findSome? field.inSource =
            (sources.reverse.findSome? field.inSource).or (field.inSource source) := by
        intro α field
        rw [List.reverse_cons, List.findSome?_append, List.findSome?_singleton]
      simp only [hgiven]
      exact hfirst.trans hrest

/-- Files that can all be applied are usable.

**Proof sketch.** Induction along the files: the first one is usable, and the others are applied to
what comes out of it. -/
lemma isUsable_of_withSources_eq_ok {sources : List ConfigSource}
    (h : sources.foldlM withSource c = .ok c') : ∀ source ∈ sources, source.IsUsable := by
  induction sources generalizing c with
  | nil => exact fun source hmem => absurd hmem List.not_mem_nil
  | cons source sources ih =>
    rw [List.foldlM_cons] at h
    cases hd : c.withSource source with
    | error e =>
      rw [hd] at h
      exact nomatch h
    | ok d =>
      rw [hd] at h
      exact List.forall_mem_cons.2 ⟨isUsable_of_withSource_eq_ok hd, ih h⟩

/-! ## All layers -/

/-- What all layers of a run give for a field, the highest layer first: the command line, the
environment, and the files with the nearest one first. -/
def Field.given {α : Type} (field : Field α) (sources : List ConfigSource)
    (value? : String → Option String) (o : Overrides) : List (Option α) :=
  field.inOverrides o :: field.inEnvironment value? :: sources.reverse.map field.inSource

/-- No layer of usable files gives an empty separator: the environment and the command line have no
say about it, and a file that asks for one is not sound. -/
lemma findSome?_given_separator_ne {sources : List ConfigSource}
    (h : ∀ source ∈ sources, source.IsUsable) (value? : String → Option String) (o : Overrides) :
    (Field.separator.given sources value? o).findSome? id ≠ some "" := by
  intro hempty
  obtain ⟨given, hmem, hgiven⟩ := List.exists_of_findSome?_eq_some hempty
  obtain rfl : given = some "" := hgiven
  simp only [Field.given, Field.inOverrides, Field.inEnvironment, List.mem_cons, List.mem_map,
    List.mem_reverse, reduceCtorEq, false_or] at hmem
  obtain ⟨source, hsource, hfile⟩ := hmem
  obtain ⟨f, hread, hf⟩ := h source hsource
  rw [Field.inSource, hread, Option.bind_some] at hfile
  exact hf.1 hfile

end Config

namespace World

/-- The configuration files that are there, the lower one first: that of the user, and the nearest
one of a project. Files of a project further up are not read. -/
def configSources (w : World) : List ConfigSource :=
  (w.userFile?.map fun contents => ⟨.user, userConfigPath, contents⟩).toList ++
    (w.projectConfig?.map fun place =>
      ⟨.project, w.shown place, (w.files.at? place).bind FileTree.contents?⟩).toList

/-- A run applies the files that are there, then the environment and then the command line.

**Proof sketch.** A file that is not there is passed over by the run, and is not in the list. -/
lemma config_eq_map (w : World) (o : Overrides) :
    w.config o = (w.configSources.foldlM Config.withSource {}).map fun c =>
      (c.withEnvironment w.environmentValue?).withOverrides o := by
  have huser : w.withUserConfig {} = (w.userFile?.map fun contents =>
      (⟨.user, userConfigPath, contents⟩ : ConfigSource)).toList.foldlM Config.withSource {} := by
    unfold withUserConfig
    cases w.userFile? with
    | none => rfl
    | some contents => simp [Config.withSource]
  have hproject : ∀ c, w.withProjectConfig c = (w.projectConfig?.map fun place =>
      (⟨.project, w.shown place, (w.files.at? place).bind FileTree.contents?⟩ :
        ConfigSource)).toList.foldlM Config.withSource c := by
    intro c
    unfold withProjectConfig
    cases w.projectConfig? with
    | none => rfl
    | some place => simp [Config.withSource]
  rw [config, configSources, List.foldlM_append, ← huser]
  cases w.withUserConfig {} with
  | error e => rfl
  | ok c =>
    change (w.withProjectConfig c >>= _) = Except.map _ (List.foldlM _ c _)
    rw [← hproject]
    cases w.withProjectConfig c <;> rfl

/-- The configuration of a run, if all files that are there are usable, is the initial one with what
all layers give on top.

**Proof sketch.** Each layer overrides field by field, so their order decides which value a field
has. -/
lemma exists_config_eq_ok {w : World} (h : ∀ source ∈ w.configSources, source.IsUsable)
    (o : Overrides) :
    ∃ c, w.config o = .ok c ∧
      ({} : Config).Overlaid c (w.configSources.map ConfigSource.path) fun _ field =>
        (field.given w.configSources w.environmentValue? o).findSome? id := by
  obtain ⟨c, hc, hfiles⟩ := Config.exists_withSources_eq_ok h {}
  refine ⟨(c.withEnvironment w.environmentValue?).withOverrides o, ?_, ?_⟩
  · rw [config_eq_map, hc]
    rfl
  · have hover := (hfiles.trans (c.overlaid_withEnvironment w.environmentValue?)).trans
      ((c.withEnvironment w.environmentValue?).overlaid_withOverrides o)
    have hgiven : ∀ (α : Type) (field : Config.Field α),
        (field.given w.configSources w.environmentValue? o).findSome? id =
          (field.inOverrides o).or ((field.inEnvironment w.environmentValue?).or
            (w.configSources.reverse.findSome? field.inSource)) := by
      intro α field
      rw [Config.Field.given, List.findSome?_cons, List.findSome?_cons, List.findSome?_map]
      cases field.inOverrides o <;> cases field.inEnvironment w.environmentValue? <;> rfl
    simpa only [hgiven, List.append_nil] using hover

/-- A run whose configuration is found has usable files only. -/
lemma isUsable_of_config_eq_ok {w : World} {o : Overrides} {c : Config} (h : w.config o = .ok c) :
    ∀ source ∈ w.configSources, source.IsUsable := by
  rw [config_eq_map] at h
  cases hfiles : w.configSources.foldlM Config.withSource {} with
  | error e =>
    rw [hfiles] at h
    exact nomatch h
  | ok d => exact Config.isUsable_of_withSources_eq_ok hfiles

/-- **The highest layer that gives a value decides.** There is a configuration unless one of the files
that are there cannot be read, cannot be parsed, or asks for an empty separator or an unknown policy,
whatever the other layers say. Each of its fields has the value that the highest layer gives that gives
one for this field, of the command line, the environment, the file of the project and that of the user,
or else its initial value. So two runs whose layers give the same for a field agree in it, whatever they
give for other fields. The files that were applied are listed, and the separator is not empty. -/
theorem highest_layer_decides (w : World) (o : Overrides) :
    ((∃ e, w.config o = .error e) ↔ ∃ source ∈ w.configSources, ¬ source.IsUsable) ∧
    ∀ c, w.config o = .ok c →
      c.loaded = w.configSources.map ConfigSource.path ∧
      c.filters.separator ≠ "" ∧
      (∀ (α : Type) (field : Config.Field α), field.value c =
        ((field.given w.configSources w.environmentValue? o).findSome? id).getD field.initial) ∧
      ∀ (w' : World) (o' : Overrides) (c' : Config), w'.config o' = .ok c' →
        ∀ (α : Type) (field : Config.Field α),
          field.given w'.configSources w'.environmentValue? o' =
            field.given w.configSources w.environmentValue? o →
          field.value c' = field.value c := by
  have hvalue : ∀ (w : World) (o : Overrides) (c : Config), w.config o = .ok c →
      ({} : Config).Overlaid c (w.configSources.map ConfigSource.path) fun _ field =>
        (field.given w.configSources w.environmentValue? o).findSome? id := by
    intro w o c hc
    obtain ⟨d, hd, hover⟩ := exists_config_eq_ok (isUsable_of_config_eq_ok hc) o
    obtain rfl : c = d := Except.ok.inj (hc.symm.trans hd)
    exact hover
  refine ⟨⟨?_, ?_⟩, fun c hc => ⟨?_, ?_, (hvalue w o c hc).value_eq, ?_⟩⟩
  · rintro ⟨e, he⟩
    by_contra hall
    push Not at hall
    obtain ⟨c, hc, -⟩ := exists_config_eq_ok hall o
    exact nomatch he.symm.trans hc
  · rintro ⟨source, hsource, hnot⟩
    cases hc : w.config o with
    | error e => exact ⟨e, rfl⟩
    | ok c => exact absurd (isUsable_of_config_eq_ok hc source hsource) hnot
  · rw [(hvalue w o c hc).loaded_eq]
    rfl
  · have hseparator := (hvalue w o c hc).value_eq String .separator
    have hgiven := Config.findSome?_given_separator_ne (isUsable_of_config_eq_ok hc)
      w.environmentValue? o
    intro hempty
    rw [Config.Field.value, hempty] at hseparator
    cases hfound : (Config.Field.separator.given w.configSources w.environmentValue? o).findSome? id with
    | none =>
      rw [hfound] at hseparator
      exact absurd hseparator (by decide)
    | some separator =>
      rw [hfound, Option.getD_some] at hseparator
      exact hgiven (hseparator ▸ hfound)
  · intro w' o' c' hc' α field hgiven
    rw [(hvalue w o c hc).value_eq, (hvalue w' o' c' hc').value_eq, hgiven]

/-- A depth that both files give and the environment garbles comes from the file of the project; a
separator that only the user's file gives is kept, and the command line has the last word on what to
leave out. -/
theorem highest_layer_of_five :
    let w : World :=
      { files := .directory [(".deplens.toml", .file
          "[filters]\ndepth = 3\n[targeting]\nexclude = [\"a.rs\"]\n".toUTF8)]
        environment := [("DEPLENS_DEPTH", "deep"), ("DEPLENS_QUIET", "no")]
        userConfig := some "[defaults]\nquiet = true\n[filters]\ndepth = 5\nseparator = \"/\"\n".toUTF8 }
    let o : Overrides := { excludes := ["b.rs"] }
    ∃ c, w.config o = .ok c ∧ c.loaded = ["<user>/deplens/config.toml", ".deplens.toml"] ∧
      c.filters.depth = 3 ∧ c.filters.separator = "/" ∧ c.quiet = false ∧ c.excludes = ["b.rs"] := by
  intro w o
  obtain ⟨-, hdecides⟩ := highest_layer_decides w o
  have hok : (w.config o).isOk = true := by decide +kernel
  cases hc : w.config o with
  | error e =>
    rw [hc] at hok
    exact nomatch hok
  | ok c =>
    obtain ⟨hloaded, -, hvalue, -⟩ := hdecides c hc
    refine ⟨c, rfl, ?_, ?_, ?_, ?_, ?_⟩
    · rw [hloaded]
      decide +kernel
    · exact (hvalue _ .depth).trans (by decide +kernel)
    · exact (hvalue _ .separator).trans (by decide +kernel)
    · exact (hvalue _ .quiet).trans (by decide +kernel)
    · exact (hvalue _ .excludes).trans (by decide +kernel)

/-- **An empty list of prefixes overrides the prefixes.** No layer gives a list with entries, and yet the
value is not the initial one: unlike the lists of files to take and to leave out, the list of prefixes
in a file counts also if it is empty. -/
theorem empty_prefixes_override :
    let w : World := { files := .directory [(".deplens.toml", .file
      "[filters]\ninternal_prefixes = []\n".toUTF8)] }
    let field : Config.Field (List String) := .internalPrefixes
    ∃ c, w.config {} = .ok c ∧
      ((field.given w.configSources w.environmentValue? {}).map
        fun given => given.filter (· ≠ [])).findSome? id = none ∧
      field.value c = [] ∧ field.initial = ["std", "core", "alloc"] := by
  intro w field
  have hvalue : (w.config {}).toOption.map field.value = some [] := by decide +kernel
  cases hc : w.config {} with
  | error e =>
    rw [hc] at hvalue
    exact nomatch hvalue
  | ok c =>
    rw [hc] at hvalue
    exact ⟨c, rfl, by decide +kernel, Option.some.inj hvalue, rfl⟩

end World

end DepAtlas
