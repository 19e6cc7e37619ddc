import Aead.Proofs.RegistrationRuns
import Aead.Proofs.SpelledNames
import Aead.Proofs.WholeNumbers

/-!
# The names that a surface offers

Settings name their algorithms in any spelling, in any order and as often as they like. What a
surface offers depends on the set of the algorithms alone: for each of them the functions and the
constants that the settings ask for, and nothing else.

Results:

* `Config.exists_selected`, `Config.selected_of_firstUnknown`: the settings select algorithms, or
  fail with the first name that is none.
* `Config.selection_map_name`, `Host.Surface.exists_ofConfig_default`: algorithms listed under their
  own names are selected; the default settings list all of them, and have a surface.
* `Host.Surface.find?_functions_iff`, `Host.Surface.find?_constants_iff`: what is found under a name
  is what one of the selected algorithms contributes.
* `Host.Surface.ofConfig_offers`: which settings have a surface, the names on it, how many they are
  and the values of the constants, and that settings with the same set of algorithms have the same
  surface.
-/

namespace Aead

/-! ## Traversals that fail -/

/-- A traversal fails as its first element that fails. -/
theorem mapM_eq_error_of_first {ε α β : Type} {f : α → Except ε β} {before after : List α} {x : α}
    {e : ε} (accepted : ∀ y ∈ before, ∃ b, f y = .ok b) (refused : f x = .error e) :
    (before ++ x :: after).mapM f = .error e := by
  induction before with
  | nil =>
    rw [List.nil_append, List.mapM_cons, refused]
    rfl
  | cons y before ih =>
    obtain ⟨b, hb⟩ := accepted y List.mem_cons_self
    have rest := ih fun y hy => accepted y (List.mem_cons_of_mem _ hy)
    rw [List.cons_append, List.mapM_cons, hb, rest]
    rfl

/-- A traversal of elements that do not fail does not fail. -/
theorem exists_mapM_eq_ok {ε α β : Type} {f : α → Except ε β} {xs : List α}
    (accepted : ∀ x ∈ xs, ∃ b, f x = .ok b) : ∃ ys, xs.mapM f = .ok ys := by
  induction xs with
  | nil => exact ⟨[], rfl⟩
  | cons x xs ih =>
    obtain ⟨y, hy⟩ := accepted x List.mem_cons_self
    obtain ⟨ys, hys⟩ := ih fun x hx => accepted x (List.mem_cons_of_mem _ hx)
    refine ⟨y :: ys, ?_⟩
    rw [List.mapM_cons, hy, hys]
    rfl

/-! ## What settings ask for -/

namespace Config

variable (config : Config)

/-- The set of the algorithms that the settings name. -/
def selection : Finset Algorithm :=
  (config.algorithms.filterMap Algorithm.ofName?).toFinset

/-- The first name of the settings that is no algorithm's. -/
def firstUnknown? : Option String :=
  config.algorithms.find? fun name => (Algorithm.ofName? name).isNone

/-- The ends of the names of an algorithm's functions. -/
def functionEnds (algorithm : Algorithm) : List String :=
  ["encrypt", "decrypt", "encrypt_detached", "decrypt_detached"] ++
    if algorithm = .aes256Gcm then
      "is_available" ::
        if config.exportPrecompute then
          ["beforenm", "encrypt_afternm", "decrypt_afternm", "encrypt_detached_afternm",
            "decrypt_detached_afternm"]
        else []
    else []

/-- The ends of the names of an algorithm's constants, with the sizes. -/
def constantEnds (algorithm : Algorithm) : List (String × Nat) :=
  let sizes := algorithm.descriptor
  if config.exportConstants then
    [("KEYBYTES", sizes.keyLength), ("NPUBBYTES", sizes.nonceLength), ("ABYTES", sizes.tagLength),
      ("NSECBYTES", sizes.secretNonceLength)] ++
    if algorithm = .aes256Gcm then [("STATEBYTES", sizes.stateSize)] else []
  else []

/-- The ends of all names of an algorithm. -/
def nameEnds (algorithm : Algorithm) : List String :=
  config.functionEnds algorithm ++ (config.constantEnds algorithm).map Prod.fst

theorem mem_selection_iff {algorithm : Algorithm} :
    algorithm ∈ config.selection ↔ config.Names algorithm := by
  unfold selection Names
  rw [List.mem_toFinset, List.mem_filterMap]

/-- Algorithms that are listed under their own names are selected. -/
theorem selection_map_name (algorithms : List Algorithm) :
    { config with algorithms := algorithms.map Algorithm.name }.selection =
      algorithms.toFinset := by
  have read : Algorithm.ofName? ∘ Algorithm.name = some := funext Algorithm.ofName?_name
  unfold selection
  rw [List.filterMap_map, read, List.filterMap_some]

theorem firstUnknown?_map_name (algorithms : List Algorithm) :
    { config with algorithms := algorithms.map Algorithm.name }.firstUnknown? = none := by
  refine List.find?_eq_none.2 fun name hname => ?_
  obtain ⟨algorithm, -, rfl⟩ := List.mem_map.1 hname
  rw [algorithm.ofName?_name]
  exact Bool.false_ne_true

/-! ## Selected algorithms -/

/-- The algorithm of a name in the settings; another name is a failure of the settings. -/
theorem mapError_ofName (name : String) :
    ((Algorithm.ofName name).mapError fun e => Error.config e.message) =
      (Algorithm.ofName? name).elim
        (.error (.config ("unknown algorithm `" ++ name ++ "`"))) .ok := by
  unfold Algorithm.ofName
  cases Algorithm.ofName? name <;> rfl

theorem exists_selected (h : config.firstUnknown? = none) :
    ∃ algorithms, config.selected = .ok algorithms := by
  refine exists_mapM_eq_ok fun name hname => ?_
  have known := List.find?_eq_none.1 h name hname
  rw [mapError_ofName]
  cases hparse : Algorithm.ofName? name with
  | none => simp [hparse] at known
  | some algorithm => exact ⟨algorithm, rfl⟩

theorem selected_of_firstUnknown {name : String} (h : config.firstUnknown? = some name) :
    config.selected = .error (.config ("unknown algorithm `" ++ name ++ "`")) := by
  obtain ⟨unknown, before, after, split, known⟩ := List.find?_eq_some_iff_append.1 h
  unfold selected
  rw [split]
  refine mapM_eq_error_of_first (fun other hother => ?_) ?_
  · have isKnown := known other hother
    rw [mapError_ofName]
    cases hparse : Algorithm.ofName? other with
    | none => simp [hparse] at isKnown
    | some algorithm => exact ⟨algorithm, rfl⟩
  · rw [mapError_ofName, Option.isNone_iff_eq_none.1 unknown]
    rfl

/-! ## Contributions -/

theorem perm_functionEnds (algorithm : Algorithm) (hardware : Bool) :
    ((config.entriesOf algorithm hardware).map Prod.fst).Perm (config.functionEnds algorithm) := by
  -- Of the settings the ends depend on one flag alone, and not on the hardware.
  have closed : ∀ exportPrecompute,
      ((({ exportPrecompute } : Config).entriesOf algorithm false).map Prod.fst).Perm
        (({ exportPrecompute } : Config).functionEnds algorithm) := by
    intro exportPrecompute
    cases exportPrecompute <;> cases algorithm <;> decide +kernel
  obtain ⟨-, exportPrecompute, -, -, -⟩ := config
  cases exportPrecompute with
  | false => cases algorithm <;> exact closed false
  | true => cases algorithm <;> exact closed true

theorem sizesOf_eq_constantEnds (algorithm : Algorithm) :
    config.sizesOf algorithm = config.constantEnds algorithm := by
  cases algorithm <;> rfl

variable {algorithm : Algorithm}

/-- All sizes are small enough for a host's numbers. -/
theorem lt_of_mem_constantEnds {suffix : String} {size : ℕ}
    (h : (suffix, size) ∈ config.constantEnds algorithm) : size < 2 ^ 53 := by
  -- Of the settings the sizes depend on one flag alone.
  have closed : ∀ exportConstants,
      ∀ entry ∈ ({ exportConstants } : Config).constantEnds algorithm, entry.2 < 2 ^ 53 := by
    intro exportConstants
    cases exportConstants <;> cases algorithm <;> decide +kernel
  exact closed config.exportConstants (suffix, size) h

/-! ## Names that do not coincide -/

theorem functionEnds_subset : config.functionEnds algorithm ⊆ functionSuffixes := by
  intro suffix h
  have offered := (config.perm_functionEnds algorithm false).symm.subset h
  exact (config.entriesOf_sublist algorithm false).subset offered

theorem map_fst_constantEnds_subset :
    (config.constantEnds algorithm).map Prod.fst ⊆ constantSuffixes := by
  rw [← sizesOf_eq_constantEnds]
  exact (config.sizesOf_sublist algorithm).subset

theorem isOwnName_of_mem_nameEnds {suffix : String} (h : suffix ∈ config.nameEnds algorithm) :
    IsOwnName suffix := by
  rcases List.mem_append.1 h with h | h
  · exact isOwnName_of_mem suffix (config.functionEnds_subset h)
  · exact isOwnName_of_mem_constantSuffixes suffix (config.map_fst_constantEnds_subset h)

/-- No function ends as a constant does. -/
theorem disjoint_suffixes : functionSuffixes.Disjoint constantSuffixes := by
  rw [List.disjoint_left]
  decide +kernel

theorem nodup_nameEnds (algorithm : Algorithm) : (config.nameEnds algorithm).Nodup := by
  have functions : (config.functionEnds algorithm).Nodup :=
    (config.perm_functionEnds algorithm false).nodup_iff.1
      ((config.entriesOf_sublist algorithm false).nodup nodup_functionSuffixes)
  have constants : ((config.constantEnds algorithm).map Prod.fst).Nodup := by
    rw [← sizesOf_eq_constantEnds]
    exact (config.sizesOf_sublist algorithm).nodup nodup_constantSuffixes
  refine List.Nodup.append functions constants fun suffix h h' => ?_
  exact disjoint_suffixes (config.functionEnds_subset h) (config.map_fst_constantEnds_subset h')

end Config

/-! ## Sizes of tables -/

/-- A table that holds what some algorithms contribute has as many names as they contribute. -/
theorem Config.Contributes.size_eq_sum {config : Config} {α : Type}
    {part : Algorithm → List (String × α)} (contributes : config.Contributes part)
    {table : NameTable α} {selection : Finset Algorithm}
    (holds : ∀ name value, table.find? name = some value ↔
      ∃ a ∈ selection, (name, value) ∈ part a) :
    table.size = ∑ a ∈ selection, (part a).length := by
  have names : table.names.toFinset =
      selection.biUnion fun a => ((part a).map Prod.fst).toFinset := by
    ext name
    simp only [List.mem_toFinset, Finset.mem_biUnion, NameTable.mem_names_iff, holds, List.mem_map]
    constructor
    · rintro ⟨value, a, ha, hmem⟩
      exact ⟨a, ha, (name, value), hmem, rfl⟩
    · rintro ⟨a, ha, ⟨_, value⟩, hmem, rfl⟩
      exact ⟨value, a, ha, hmem⟩
  have apart : (selection : Set Algorithm).PairwiseDisjoint
      fun a => ((part a).map Prod.fst).toFinset := by
    intro a _ b _ different
    refine Finset.disjoint_left.2 fun name ha hb => ?_
    exact contributes.disjoint contributes rfl different name (List.mem_toFinset.1 ha)
      (List.mem_toFinset.1 hb)
  calc
    table.size = table.names.length := (List.length_map _).symm
    _ = table.names.toFinset.card := (List.toFinset_card_of_nodup table.nodup_names).symm
    _ = ∑ a ∈ selection, ((part a).map Prod.fst).toFinset.card := by
      rw [names, Finset.card_biUnion apart]
    _ = ∑ a ∈ selection, (part a).length := by
      refine Finset.sum_congr rfl fun a _ => ?_
      rw [List.toFinset_card_of_nodup (contributes.nodup a), List.length_map]

namespace Config

variable (config : Config) (algorithm : Algorithm)

theorem length_functionsOf (hardware : Bool) :
    (config.functionsOf algorithm hardware).length =
      4 + if algorithm = .aes256Gcm then 1 + (if config.exportPrecompute then 5 else 0) else 0 := by
  have length := (config.perm_functionEnds algorithm hardware).length_eq
  rw [List.length_map] at length
  unfold functionsOf
  rw [List.length_map, length, functionEnds, List.length_append]
  split_ifs <;> rfl

theorem length_constantsOf :
    (config.constantsOf algorithm).length =
      if config.exportConstants then 4 + (if algorithm = .aes256Gcm then 1 else 0) else 0 := by
  unfold constantsOf
  rw [List.length_map, sizesOf_eq_constantEnds, constantEnds]
  split_ifs <;> rfl

end Config

/-! ## What is found under a name -/

/-- When rounds on the empty table agree on the value of a name, each of them decides it. -/
theorem NameTable.Resolves.eq_some_iff {α : Type} {name : String}
    {rounds : List (List (String × α))} {found : Option α} (h : Resolves {} name rounds found)
    (agree : ∀ round ∈ rounds, ∀ other ∈ rounds, ∀ value value',
      (name, value) ∈ round → (name, value') ∈ other → value = value') (value : α) :
    found = some value ↔ ∃ round ∈ rounds, (name, value) ∈ round := by
  cases h with
  | last set unset =>
    rename_i before after round last
    have here : round ∈ before ++ round :: after := by simp
    constructor
    · rintro ⟨⟩
      exact ⟨round, here, set⟩
    · rintro ⟨other, hother, hmem⟩
      rw [agree round here other hother last value set hmem]
  | start unset =>
    constructor
    · intro h
      cases h
    · rintro ⟨round, hround, hmem⟩
      exact absurd (List.mem_map_of_mem hmem) (unset round hround)

/-- When the rounds are what some algorithms contribute, a value is found exactly when one of them
contributes it. -/
theorem Config.Contributes.find?_iff {config : Config} {α : Type}
    {part : Algorithm → List (String × α)} (contributes : config.Contributes part)
    {algorithms : List Algorithm} {name : String} {found : Option α}
    (resolved : NameTable.Resolves {} name (algorithms.map part) found) (value : α) :
    found = some value ↔ ∃ a ∈ algorithms, (name, value) ∈ part a := by
  rw [resolved.eq_some_iff]
  · simp
  · intro round h round' h' value value' hvalue hvalue'
    obtain ⟨a, -, rfl⟩ := List.mem_map.1 h
    obtain ⟨b, -, rfl⟩ := List.mem_map.1 h'
    exact contributes.value_unique hvalue hvalue'

namespace Host.Surface

variable {config : Config} {hardware : Bool} {surface : Surface}

/-- The surface of some settings is a run that registers the selected algorithms. -/
theorem exists_run_of_ofConfig (bound : ofConfig config hardware = .ok surface) :
    ∃ algorithms : List Algorithm, (∀ a, a ∈ algorithms ↔ a ∈ config.selection) ∧
      surface = registerAll {} (algorithms.map fun a => ⟨a, config, hardware⟩) := by
  unfold ofConfig at bound
  cases selected : config.selected with
  | error e =>
    rw [selected] at bound
    cases bound
  | ok algorithms =>
    rw [selected] at bound
    cases bound
    refine ⟨algorithms, fun a => ?_, ?_⟩
    · rw [config.mem_selected_iff selected, Config.mem_selection_iff]
    · unfold registerAll
      rw [List.foldl_map]
      rfl

section Bound

variable (bound : ofConfig config hardware = .ok surface)
include bound

/-- A function is found under a name exactly when a selected algorithm contributes it. -/
theorem find?_functions_iff (name : String) (entry : Entry) :
    surface.functions.find? name = some entry ↔
      ∃ a ∈ config.selection, (name, entry) ∈ config.functionsOf a hardware := by
  obtain ⟨algorithms, members, rfl⟩ := exists_run_of_ofConfig bound
  have resolved := resolves_functions {} (algorithms.map fun a => ⟨a, config, hardware⟩) name
  rw [List.map_map] at resolved
  simp only [← members]
  exact (config.contributes_functionsOf hardware).find?_iff resolved entry

theorem find?_constants_iff (name : String) (value : Value) :
    surface.constants.find? name = some value ↔
      ∃ a ∈ config.selection, (name, value) ∈ config.constantsOf a := by
  obtain ⟨algorithms, members, rfl⟩ := exists_run_of_ofConfig bound
  have resolved := resolves_constants {} (algorithms.map fun a => ⟨a, config, hardware⟩) name
  rw [List.map_map] at resolved
  simp only [← members]
  exact config.contributes_constantsOf.find?_iff resolved value

/-- The names of the functions. -/
theorem mem_names_functions_iff (name : String) :
    name ∈ surface.functions.names ↔
      ∃ a ∈ config.selection, ∃ suffix ∈ config.functionEnds a,
        name = config.entryName a suffix := by
  simp only [NameTable.mem_names_iff, find?_functions_iff bound]
  constructor
  · rintro ⟨entry, a, ha, hmem⟩
    obtain ⟨⟨suffix, entry⟩, hentry, ⟨⟩⟩ := List.mem_map.1 hmem
    have isEnd := (config.perm_functionEnds a hardware).subset (List.mem_map_of_mem hentry)
    exact ⟨a, ha, suffix, isEnd, rfl⟩
  · rintro ⟨a, ha, suffix, isEnd, rfl⟩
    have offered := (config.perm_functionEnds a hardware).symm.subset isEnd
    obtain ⟨⟨_, entry⟩, hentry, rfl⟩ := List.mem_map.1 offered
    exact ⟨entry, a, ha, config.mem_functionsOf hentry⟩

/-- The constants with their values. -/
theorem find?_constants_iff_size (name : String) (value : Value) :
    surface.constants.find? name = some value ↔
      ∃ a ∈ config.selection, ∃ suffix size, (suffix, size) ∈ config.constantEnds a ∧
        name = config.entryName a suffix ∧ ∃ x : Number, value = .number x ∧ x.IsNat size := by
  rw [find?_constants_iff bound]
  refine exists_congr fun a => and_congr_right fun _ => ?_
  unfold Config.constantsOf
  rw [config.sizesOf_eq_constantEnds]
  constructor
  · intro h
    obtain ⟨⟨suffix, size⟩, hsize, ⟨⟩⟩ := List.mem_map.1 h
    have exact_size := Number.isNat_ofNat (config.lt_of_mem_constantEnds hsize)
    exact ⟨suffix, size, hsize, rfl, .ofNat size, rfl, exact_size⟩
  · rintro ⟨suffix, size, hsize, rfl, x, rfl, isSize⟩
    rw [Number.isNat_iff (config.lt_of_mem_constantEnds hsize)] at isSize
    subst isSize
    exact List.mem_map_of_mem hsize

theorem functionCount_eq :
    surface.functionCount =
      4 * config.selection.card +
        if .aes256Gcm ∈ config.selection then 1 + (if config.exportPrecompute then 5 else 0)
        else 0 := by
  have counted :=
    (config.contributes_functionsOf hardware).size_eq_sum (find?_functions_iff bound)
  rw [functionCount, counted]
  simp only [Config.length_functionsOf]
  rw [Finset.sum_add_distrib, Finset.sum_const, Finset.sum_ite_eq', smul_eq_mul, Nat.mul_comm]

theorem constantCount_eq :
    surface.constantCount =
      if config.exportConstants then
        4 * config.selection.card + (if .aes256Gcm ∈ config.selection then 1 else 0)
      else 0 := by
  have counted := config.contributes_constantsOf.size_eq_sum (find?_constants_iff bound)
  rw [constantCount, counted]
  simp only [Config.length_constantsOf]
  cases config.exportConstants with
  | false => simp
  | true =>
    simp only [if_true]
    rw [Finset.sum_add_distrib, Finset.sum_const, Finset.sum_ite_eq', smul_eq_mul, Nat.mul_comm]

end Bound

/-! ## Settings with a surface -/

theorem exists_ofConfig (h : config.firstUnknown? = none) :
    ∃ surface, ofConfig config hardware = .ok surface := by
  obtain ⟨algorithms, selected⟩ := config.exists_selected h
  unfold ofConfig
  rw [selected]
  exact ⟨_, rfl⟩

/-- The default settings list all algorithms, and have a surface. -/
theorem exists_ofConfig_default (hardware : Bool) :
    ({} : Config).selection = Algorithm.all.toFinset ∧
      ∃ surface, ofConfig {} hardware = .ok surface :=
  ⟨Config.selection_map_name {} Algorithm.all,
    exists_ofConfig (Config.firstUnknown?_map_name {} Algorithm.all)⟩

theorem ofConfig_of_firstUnknown {name : String} (h : config.firstUnknown? = some name) :
    ofConfig config hardware = .error (.config ("unknown algorithm `" ++ name ++ "`")) := by
  unfold ofConfig
  rw [config.selected_of_firstUnknown h]
  rfl

/-- Settings that differ in how they name one set of algorithms have one surface. -/
theorem ofConfig_eq_of_selection_eq {algorithms : List String} {surface' : Surface}
    (same : { config with algorithms }.selection = config.selection)
    (bound : ofConfig config hardware = .ok surface)
    (bound' : ofConfig { config with algorithms } hardware = .ok surface') :
    surface' = surface := by
  have functions : surface'.functions = surface.functions := by
    refine NameTable.ext_find? fun name => Option.ext fun entry => ?_
    rw [find?_functions_iff bound, find?_functions_iff bound', same]
    rfl
  have constants : surface'.constants = surface.constants := by
    refine NameTable.ext_find? fun name => Option.ext fun value => ?_
    rw [find?_constants_iff bound, find?_constants_iff bound', same]
    rfl
  cases surface
  cases surface'
  exact congrArg₂ Surface.mk functions constants

/-- **Offered names.** Settings have a surface exactly when all their names are names of algorithms;
else the first one that is none is the failure, as it was written. The functions and the constants
of the surface are those of the selected algorithms, each under a name of its own, and how many they
are follows from the number of the algorithms. A constant is exactly the size that it is named for.
How, in which order and how often the settings name the algorithms makes no difference to the
surface. -/
theorem ofConfig_offers (config : Config) (hardware : Bool) :
    ((∃ surface, ofConfig config hardware = .ok surface) ↔
      ∀ name ∈ config.algorithms, (Algorithm.ofName? name).isSome) ∧
    (∀ name, config.firstUnknown? = some name →
      ofConfig config hardware = .error (.config ("unknown algorithm `" ++ name ++ "`"))) ∧
    ∀ surface, ofConfig config hardware = .ok surface →
      (∀ name, name ∈ surface.functions.names ↔
        ∃ a ∈ config.selection, ∃ suffix ∈ config.functionEnds a,
          name = config.namePrefix ++ a.name ++ "_" ++ suffix) ∧
      (∀ name value, surface.constants.find? name = some value ↔
        ∃ a ∈ config.selection, ∃ suffix size, (suffix, size) ∈ config.constantEnds a ∧
          name = config.namePrefix ++ a.name ++ "_" ++ suffix ∧
          ∃ x : Number, value = .number x ∧ x.IsNat size) ∧
      (∀ a b, (config.nameEnds a).Nodup ∧
        ∀ suffix ∈ config.nameEnds a, ∀ suffix' ∈ config.nameEnds b,
          config.namePrefix ++ a.name ++ "_" ++ suffix =
            config.namePrefix ++ b.name ++ "_" ++ suffix' → a = b ∧ suffix = suffix') ∧
      surface.functionCount =
        4 * config.selection.card +
          (if .aes256Gcm ∈ config.selection then 1 + (if config.exportPrecompute then 5 else 0)
          else 0) ∧
      surface.constantCount =
        (if config.exportConstants then
          4 * config.selection.card + (if .aes256Gcm ∈ config.selection then 1 else 0)
        else 0) ∧
      ∀ algorithms, { config with algorithms }.selection = config.selection →
        ∀ surface', ofConfig { config with algorithms } hardware = .ok surface' →
          surface' = surface := by
  refine ⟨⟨?_, ?_⟩, fun name h => ofConfig_of_firstUnknown h, fun surface bound => ?_⟩
  · rintro ⟨surface, bound⟩
    cases unknown : config.firstUnknown? with
    | some name =>
      rw [ofConfig_of_firstUnknown unknown] at bound
      cases bound
    | none =>
      intro name hname
      simpa [Option.isSome_iff_ne_none] using List.find?_eq_none.1 unknown name hname
  · intro known
    refine exists_ofConfig (List.find?_eq_none.2 fun name hname => ?_)
    simpa [Option.isSome_iff_ne_none] using known name hname
  · refine ⟨mem_names_functions_iff bound, find?_constants_iff_size bound, fun a b => ⟨?_, ?_⟩,
      functionCount_eq bound, constantCount_eq bound, ?_⟩
    · exact config.nodup_nameEnds a
    · intro suffix h suffix' h' same
      exact config.entryName_inj (config.isOwnName_of_mem_nameEnds h)
        (config.isOwnName_of_mem_nameEnds h') same
    · intro algorithms same surface' bound'
      exact ofConfig_eq_of_selection_eq same bound bound'

/-- Three names of two algorithms and the two names alone: one surface, with 14 functions and nine
constants, among them the nonce length 12.0 and the key length 32.0. An unknown name is a failure in
its own spelling, also ahead of another one. -/
theorem ofConfig_offers_of_spellings :
    let config : Config :=
      { namePrefix := "x_", algorithms := [" AES256GCM", "ChaCha20Poly1305-IETF", "aes256gcm"] }
    ∃ surface, ofConfig config true = .ok surface ∧
      ofConfig { config with algorithms := ["chacha20poly1305_ietf", "aes256gcm"] } true =
        .ok surface ∧
      surface.functionCount = 14 ∧ surface.constantCount = 9 ∧
      surface.constants.find? "x_chacha20poly1305_ietf_NPUBBYTES" =
        some (.number ⟨0x4028000000000000⟩) ∧
      surface.constants.find? "x_aes256gcm_KEYBYTES" = some (.number ⟨0x4040000000000000⟩) ∧
      ofConfig { config with algorithms := ["aes256gcm", "AES-128", "des"] } true =
        .error (.config "unknown algorithm `AES-128`") := by
  intro config
  let plain : Config := { config with algorithms := ["chacha20poly1305_ietf", "aes256gcm"] }
  let other : Config := { config with algorithms := ["aes256gcm", "AES-128", "des"] }
  obtain ⟨surface, bound⟩ := (ofConfig_offers config true).1.2 (by decide +kernel)
  obtain ⟨surface', bound'⟩ := (ofConfig_offers plain true).1.2 (by decide +kernel)
  obtain ⟨-, values, -, functions, constants, same⟩ :=
    (ofConfig_offers config true).2.2 surface bound
  have one_surface := same plain.algorithms (by decide +kernel) surface' bound'
  subst one_surface
  have twelve : Number.IsNat ⟨0x4028000000000000⟩ 12 :=
    (Number.isNat_iff (by decide)).2 (by decide +kernel)
  have thirty_two : Number.IsNat ⟨0x4040000000000000⟩ 32 :=
    (Number.isNat_iff (by decide)).2 (by decide +kernel)
  refine ⟨surface', bound, bound', functions.trans (by decide +kernel),
    constants.trans (by decide +kernel), ?_, ?_, ?_⟩
  · exact (values _ _).2 ⟨.chacha20Poly1305Ietf, by decide +kernel, "NPUBBYTES", 12,
      by decide +kernel, by decide +kernel, _, rfl, twelve⟩
  · exact (values _ _).2 ⟨.aes256Gcm, by decide +kernel, "KEYBYTES", 32,
      by decide +kernel, by decide +kernel, _, rfl, thirty_two⟩
  · exact (ofConfig_offers other true).2.1 "AES-128" (by decide +kernel)

end Host.Surface

end Aead
