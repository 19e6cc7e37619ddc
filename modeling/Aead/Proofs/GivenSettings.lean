import Aead.Proofs.WrittenSettings

/-!
# The settings that a document gives

A document overrides the settings that it names and no others. Setting by setting: a value of the
right kind replaces what the configuration had for that setting, and leaves the other ones as they
were; a value of another kind is refused, and the whole document with it.

Results:

* `Config.set?_of_fits`, `Config.set?_of_not_fits`: what one entry of a document does.
* `Config.exists_setAll?`, `Config.setAll?_eq_none`: what all of them do.
* `Config.ofText_overrides_given_settings`: what reading a document or a file of settings gives.
-/

namespace Aead.Config

open Toml

/-! ## Kinds of values -/

/-- The kinds of values. -/
inductive Kind where
  | text
  | bool
  | texts
  deriving DecidableEq

/-- The kind of values that a setting has. -/
def Setting.kind : Setting → Kind
  | namePrefix => .text
  | exportPrecompute | exportConstants | allowSoftwareAes => .bool
  | algorithms => .texts

/-- The kind of a value. -/
def Given.kind : Given → Kind
  | text _ => .text
  | bool _ => .bool
  | texts _ => .texts

/-- An entry gives a value of the kind that its setting has. -/
def Fits (entry : Setting × Given) : Prop :=
  entry.2.kind = entry.1.kind

instance (entry : Setting × Given) : Decidable (Fits entry) :=
  inferInstanceAs (Decidable (entry.2.kind = entry.1.kind))

/-- The value that a configuration has for a setting. -/
def given (config : Config) : Setting → Given
  | .namePrefix => .text config.namePrefix
  | .exportPrecompute => .bool config.exportPrecompute
  | .exportConstants => .bool config.exportConstants
  | .allowSoftwareAes => .bool config.allowSoftwareAes
  | .algorithms => .texts config.algorithms

/-- The values of the settings are all that a configuration has. -/
theorem given_injective : Function.Injective given := by
  intro config config' h
  have same (setting : Setting) : config.given setting = config'.given setting := congrFun h setting
  obtain ⟨_, _, _, _, _⟩ := config
  obtain ⟨_, _, _, _, _⟩ := config'
  cases same .namePrefix
  cases same .exportPrecompute
  cases same .exportConstants
  cases same .allowSoftwareAes
  cases same .algorithms
  rfl

/-! ## One entry -/

theorem textsOf?_map_text (names : List String) :
    textsOf? (.array (names.map .text)) = some names := by
  rw [textsOf?]
  induction names with
  | nil => rfl
  | cons name names ih =>
    rw [List.map_cons, List.mapM_cons, ih]
    rfl

/-- A value of the right kind replaces that of its setting. -/
theorem set?_of_fits (config : Config) {setting : Setting} {value : Given}
    (h : Fits (setting, value)) :
    ∃ config', config.set? setting.name value.value = some config' ∧
      config'.given = Function.update config.given setting value := by
  cases value with
  | text s =>
    cases setting <;> cases h
    exact ⟨_, rfl, funext fun other => by cases other <;> rfl⟩
  | bool b =>
    cases setting <;> cases h <;> exact ⟨_, rfl, funext fun other => by cases other <;> rfl⟩
  | texts names =>
    cases setting <;> cases h
    have set : config.set? Setting.algorithms.name (Given.texts names).value =
        some { config with algorithms := names } :=
      congrArg (Option.map _) (textsOf?_map_text names)
    exact ⟨_, set, funext fun other => by cases other <;> rfl⟩

/-- A value of another kind is refused. -/
theorem set?_of_not_fits (config : Config) {setting : Setting} {value : Given}
    (h : ¬Fits (setting, value)) : config.set? setting.name value.value = none := by
  cases setting <;> cases value <;> first | exact absurd rfl h | rfl

/-! ## All entries -/

variable {entries : List (Setting × Given)}

/-- The configuration with the values of a document's entries, one after another. -/
def setAll? (config : Config) (entries : List (Setting × Given)) : Option Config :=
  (tableOf entries).foldlM (fun config (name, value) => config.set? name value) config

theorem setAll?_cons (config : Config) (setting : Setting) (value : Given)
    (entries : List (Setting × Given)) :
    config.setAll? ((setting, value) :: entries) =
      (config.set? setting.name value.value).bind fun next => next.setAll? entries := by
  rw [setAll?, tableOf, List.map_cons, List.foldlM_cons]
  rfl

/-- Entries of the right kinds, none of them for the same setting as another, are looked up for the
settings that they give; the other settings stay. -/
theorem exists_setAll? (fits : ∀ entry ∈ entries, Fits entry)
    (once : (entries.map Prod.fst).Nodup) (config : Config) :
    ∃ config', config.setAll? entries = some config' ∧
      ∀ setting, config'.given setting = (entries.lookup setting).getD (config.given setting) := by
  induction entries generalizing config with
  | nil => exact ⟨config, rfl, fun setting => rfl⟩
  | cons entry entries ih =>
    obtain ⟨setting, value⟩ := entry
    rw [List.forall_mem_cons] at fits
    rw [List.map_cons, List.nodup_cons] at once
    obtain ⟨next, set, given_next⟩ := set?_of_fits config fits.1
    obtain ⟨last, later, given_last⟩ := ih fits.2 once.2 next
    refine ⟨last, ?_, fun other => ?_⟩
    · rw [setAll?_cons, set, Option.bind_some, later]
    · rw [given_last, given_next, List.lookup_cons]
      by_cases same : other = setting
      · -- no later entry gives the setting again
        have absent : entries.lookup setting = none := by
          refine List.lookup_eq_none_iff.2 fun entry hentry => bne_iff_ne.2 fun h => once.1 ?_
          exact List.mem_map.2 ⟨entry, hentry, h.symm⟩
        rw [same, absent, Function.update_self, beq_self_eq_true]
        rfl
      · rw [Function.update_of_ne same, beq_false_of_ne same]

/-- One entry of another kind than its setting is enough for all of them to be refused. -/
theorem setAll?_eq_none (misfit : ∃ entry ∈ entries, ¬Fits entry) (config : Config) :
    config.setAll? entries = none := by
  induction entries generalizing config with
  | nil =>
    obtain ⟨entry, hentry, -⟩ := misfit
    cases hentry
  | cons entry entries ih =>
    obtain ⟨setting, value⟩ := entry
    rw [setAll?_cons]
    by_cases fits : Fits (setting, value)
    · obtain ⟨next, set, -⟩ := set?_of_fits config fits
      have later : ∃ entry ∈ entries, ¬Fits entry := by
        simpa [fits] using misfit
      rw [set, Option.bind_some, ih later next]
    · rw [set?_of_not_fits config fits, Option.bind_none]

/-! ## Documents -/

theorem Setting.name_injective : Function.Injective Setting.name := by
  intro setting other h
  cases setting <;> cases other <;> first | rfl | exact absurd h (by decide)

/-- Entries of which no two are for one setting give every setting once. -/
theorem givesOnce_tableOf (once : (entries.map Prod.fst).Nodup) : givesOnce (tableOf entries) := by
  have distinct : ((tableOf entries).map Prod.fst).Nodup := by
    have names : (tableOf entries).map Prod.fst = (entries.map Prod.fst).map Setting.name := by
      rw [tableOf, List.map_map, List.map_map]
      rfl
    rw [names]
    exact once.map Setting.name_injective
  refine List.all_eq_true.2 fun name _ => decide_eq_true ?_
  have count := List.nodup_iff_count_le_one.1 distinct name
  rwa [List.count, List.countP_map, List.countP_eq_length_filter] at count

/-- A file of a text's bytes is read as the text. -/
theorem ofFile_toUTF8 (text : String) : ofFile (some text.toUTF8) = ofText text := by
  have decoded : String.fromUTF8? text.toUTF8 = some text := by
    simp only [String.fromUTF8?]
    split
    · rfl
    · rename_i h
      exact absurd text.isValidUTF8 h
  rw [ofFile, decoded]

/-- A document of settings overrides these and no others, and is refused if it gives one of them a
value of another kind. A file of the same bytes is read alike. -/
theorem ofText_overrides_given_settings {text : String}
    (written : DocumentWritten entries text.toList) (once : (entries.map Prod.fst).Nodup) :
    ((∀ entry ∈ entries, Fits entry) →
      ∃ config : Config, ofText text = .ok config ∧ ofFile (some text.toUTF8) = .ok config ∧
        ∀ setting, config.given setting =
          (entries.lookup setting).getD (given {} setting)) ∧
    ((∃ entry ∈ entries, ¬Fits entry) →
      ∃ message, ofText text = .error (.config message) ∧
        ofFile (some text.toUTF8) = .error (.config message)) := by
  have document : ofDocument? ⟨tableOf entries, []⟩ = setAll? {} entries :=
    if_pos (by rw [givesOnce_tableOf once]; rfl)
  rw [ofFile_toUTF8]
  constructor
  · intro fits
    obtain ⟨config, set, given_config⟩ := exists_setAll? fits once {}
    have read : ofText text = .ok config := by
      simp only [ofText, written.ofText?_eq, document, set]
    exact ⟨config, read, read, given_config⟩
  · intro misfit
    have read : ofText text =
        .error (.config "a setting has a value of the wrong kind or stands twice") := by
      simp only [ofText, written.ofText?_eq, document, setAll?_eq_none misfit]
    exact ⟨_, read, read⟩

/-- Three of the settings, with line ends of both kinds, blanks at some places and not at others,
and a name twice that no algorithm has; and a truth value between quotes. -/
theorem ofText_overrides_given_settings_of_three :
    ofText "prefix = \"sodium_\"\r\nexport_constants=false\nalgorithms = [\"aes\", \"aes\" ,]" =
        .ok { namePrefix := "sodium_", exportConstants := false, algorithms := ["aes", "aes"] } ∧
      ∃ message, ofText "export_precompute = \"true\"" = .error (.config message) := by
  have none : IsGap [] := List.forall_mem_nil _
  have one : IsGap [' '] := List.forall_mem_singleton.2 (.inl rfl)
  have plain (s : String) (h : s.toList.all fun c => ' ' ≤ c ∧ c ≤ '~' ∧ c ≠ '"' ∧ c ≠ '\\') :
      TextWritten s ('"' :: (s.toList ++ ['"'])) :=
    .quoted fun c hc => of_decide_eq_true (List.all_eq_true.1 h c hc)
  constructor
  · have items : ItemsWritten ["aes", "aes"] "\"aes\", \"aes\" ,".toList :=
      .more none (plain "aes" rfl) none (.more one (plain "aes" rfl) one .none)
    have written : DocumentWritten
        [(.namePrefix, .text "sodium_"), (.exportConstants, .bool false),
          (.algorithms, .texts ["aes", "aes"])]
        "prefix = \"sodium_\"\r\nexport_constants=false\nalgorithms = [\"aes\", \"aes\" ,]".toList :=
      .more (.entry none one one (.text (plain "sodium_" rfl)) none) (.inr rfl)
        (.more (.entry none none none (.bool false) none) (.inl rfl)
          (.last (.entry none one one (.texts items none) none)))
    obtain ⟨config, read, -, given_config⟩ :=
      (ofText_overrides_given_settings written (by decide)).1 (by decide)
    rw [read]
    refine congrArg Except.ok (given_injective (funext fun setting => ?_))
    rw [given_config]
    cases setting <;> rfl
  · have written : DocumentWritten [(.exportPrecompute, .text "true")]
        "export_precompute = \"true\"".toList :=
      .last (.entry none one one (.text (plain "true" rfl)) none)
    obtain ⟨message, read, -⟩ :=
      (ofText_overrides_given_settings written (by decide)).2 (by decide)
    exact ⟨message, read⟩

end Aead.Config
