import Aead.Host.Registration
import Mathlib

/-!
# What a name finds on a surface

The names of an algorithm's entries begin with the prefix of the settings and the algorithm's name.
One algorithm's name continues another's, but what it continues it with begins no entry's own name,
so names of entries never coincide. Registering an algorithm therefore sets its entries and leaves
those of the other algorithms alone.

Results:

* `Config.entryName_inj`: the name of an entry determines the algorithm and the entry.
* `Config.contributes_functionsOf`: algorithms contribute functions under names of their own.
* `Host.Surface.find?_register_self`, `Host.Surface.find?_register_of_ne`: the functions of the
  registered algorithm, and those of the others.
* `Host.Surface.find?_ofConfig`: on the surface of some settings, each function of a selected
  algorithm is found under its name.
-/

namespace Aead

/-! ## Tables with distinct names -/

namespace NameTable

variable {α : Type} {entries : List (String × α)} {name : String}

theorem find?_insertAll_of_not_mem (table : NameTable α) (h : name ∉ entries.map Prod.fst) :
    (table.insertAll entries).find? name = table.find? name := by
  have unset : entries.reverse.lookup name = none := by
    rw [List.lookup_eq_none_iff]
    intro entry hentry
    have hne : name ≠ entry.1 := by
      rintro rfl
      exact h (List.mem_map_of_mem (List.mem_reverse.1 hentry))
    simp [hne]
  rw [find?_insertAll, unset, Option.none_or]

/-- Of distinct names each finds its value. -/
theorem find?_insertAll_of_mem (table : NameTable α) (distinct : (entries.map Prod.fst).Nodup)
    {value : α} (h : (name, value) ∈ entries) :
    (table.insertAll entries).find? name = some value := by
  induction entries generalizing table with
  | nil => cases h
  | cons head rest ih =>
    obtain ⟨fresh, distinct_rest⟩ := List.nodup_cons.1 distinct
    change ((table.insert head.1 head.2).insertAll rest).find? name = some value
    rcases List.mem_cons.1 h with rfl | hrest
    · rw [find?_insertAll_of_not_mem _ fresh, find?_insert, if_pos rfl]
    · exact ih _ distinct_rest hrest

end NameTable

/-! ## Traversals -/

/-- The elements that a traversal without a failure gives. -/
theorem mem_of_mapM_eq_ok {ε α β : Type} {f : α → Except ε β} {xs : List α} {ys : List β}
    (h : xs.mapM f = .ok ys) (y : β) : y ∈ ys ↔ ∃ x ∈ xs, f x = .ok y := by
  induction xs generalizing ys with
  | nil =>
    cases h
    simp
  | cons x xs ih =>
    rw [List.mapM_cons] at h
    cases hx : f x with
    | error e =>
      rw [hx] at h
      cases h
    | ok z =>
      cases hxs : xs.mapM f with
      | error e =>
        rw [hx, hxs] at h
        cases h
      | ok zs =>
        rw [hx, hxs] at h
        cases h
        rw [List.mem_cons, ih hxs]
        simp [hx, eq_comm]

/-! ## Names of entries -/

namespace Algorithm

/-- The part of its entries' names that an algorithm contributes. -/
def stem (algorithm : Algorithm) : String :=
  algorithm.name ++ "_"

/-- What a stem is continued with in another one. -/
def continuation : List Char :=
  "ietf_".toList

theorem eq_or_continuation_of_stem_prefix (a b : Algorithm) :
    a.stem.toList <+: b.stem.toList →
      a = b ∨ b.stem.toList.drop a.stem.toList.length = continuation := by
  cases a <;> cases b <;> decide +kernel

/-- One stem continues another with nothing or with `continuation`. -/
theorem stem_eq_append {a b : Algorithm} {rest : List Char}
    (h : b.stem.toList = a.stem.toList ++ rest) : (a = b ∧ rest = []) ∨ rest = continuation := by
  have hrest : b.stem.toList.drop a.stem.toList.length = rest := by
    rw [h, List.drop_left]
  rcases eq_or_continuation_of_stem_prefix a b ⟨rest, h.symm⟩ with rfl | hcontinuation
  · left
    refine ⟨rfl, ?_⟩
    rw [← hrest, List.drop_length]
  · right
    rw [← hrest, hcontinuation]

end Algorithm

namespace Config

/-- The end of an entry's name does not begin as the rest of another algorithm's name. -/
def IsOwnName (suffix : String) : Prop :=
  ¬Algorithm.continuation <+: suffix.toList

instance (suffix : String) : Decidable (IsOwnName suffix) :=
  inferInstanceAs (Decidable (¬_))

variable (config : Config)

theorem entryName_eq (algorithm : Algorithm) (suffix : String) :
    config.entryName algorithm suffix = config.namePrefix ++ (algorithm.stem ++ suffix) := by
  unfold entryName exportName Algorithm.stem
  simp only [String.append_assoc]

/-- The name of an entry determines the algorithm and the entry. -/
theorem entryName_inj {a b : Algorithm} {suffix suffix' : String} (own : IsOwnName suffix)
    (own' : IsOwnName suffix')
    (h : config.entryName a suffix = config.entryName b suffix') : a = b ∧ suffix = suffix' := by
  rw [entryName_eq, entryName_eq, String.append_right_inj] at h
  have chars := congrArg String.toList h
  rw [String.toList_append, String.toList_append, List.append_eq_append_iff] at chars
  -- One of the two stems continues the other; the rest begins the other suffix.
  rcases chars with ⟨rest, hstem, hsuffix⟩ | ⟨rest, hstem, hsuffix⟩
  · rcases Algorithm.stem_eq_append hstem with ⟨rfl, rfl⟩ | rfl
    · exact ⟨rfl, String.toList_injective hsuffix⟩
    · exact absurd ⟨_, hsuffix.symm⟩ own
  · rcases Algorithm.stem_eq_append hstem with ⟨rfl, rfl⟩ | rfl
    · exact ⟨rfl, String.toList_injective hsuffix.symm⟩
    · exact absurd ⟨_, hsuffix.symm⟩ own'

/-- The name is one that the settings give to an entry of the algorithm. -/
def IsNameOf (config : Config) (algorithm : Algorithm) (name : String) : Prop :=
  ∃ suffix, IsOwnName suffix ∧ name = config.entryName algorithm suffix

/-- Names of different algorithms differ, also with other settings that give them one prefix. -/
theorem IsNameOf.unique {config other : Config} (samePrefix : config.namePrefix = other.namePrefix)
    {a b : Algorithm} {name : String} (h : config.IsNameOf a name) (h' : other.IsNameOf b name) :
    a = b := by
  obtain ⟨suffix, own, rfl⟩ := h
  obtain ⟨suffix', own', same⟩ := h'
  have renamed : other.entryName b suffix' = config.entryName b suffix' := by
    unfold entryName exportName
    rw [samePrefix]
  exact (config.entryName_inj own own' (same.trans renamed)).1

/-! ## Contributions -/

/-- What each algorithm contributes to a table has names of the algorithm's own, and none twice. -/
structure Contributes {α : Type} (config : Config) (part : Algorithm → List (String × α)) :
    Prop where
  isNameOf : ∀ {algorithm : Algorithm} {name : String},
    name ∈ (part algorithm).map Prod.fst → config.IsNameOf algorithm name
  nodup : ∀ algorithm, ((part algorithm).map Prod.fst).Nodup

/-- Contributions come from the ends of names: distinct own names. -/
theorem contributes_of_ends {α β : Type} {ends : Algorithm → List (String × α)}
    {suffixes : List String}
    (sub : ∀ algorithm, ((ends algorithm).map Prod.fst).Sublist suffixes)
    (distinct : suffixes.Nodup) (own : ∀ suffix ∈ suffixes, IsOwnName suffix) (f : α → β) :
    config.Contributes fun algorithm =>
      (ends algorithm).map fun e => (config.entryName algorithm e.1, f e.2) := by
  have names : ∀ algorithm,
      ((ends algorithm).map fun e => (config.entryName algorithm e.1, f e.2)).map Prod.fst =
        ((ends algorithm).map Prod.fst).map (config.entryName algorithm) := by
    intro algorithm
    rw [List.map_map, List.map_map]
    rfl
  constructor
  · intro algorithm name h
    rw [names] at h
    obtain ⟨suffix, hsuffix, rfl⟩ := List.mem_map.1 h
    exact ⟨suffix, own suffix ((sub algorithm).subset hsuffix), rfl⟩
  · intro algorithm
    rw [names]
    refine ((sub algorithm).nodup distinct).map_on fun suffix h suffix' h' same => ?_
    exact (config.entryName_inj (own suffix ((sub algorithm).subset h))
      (own suffix' ((sub algorithm).subset h')) same).2

namespace Contributes

variable {config other : Config} {α β : Type} {part : Algorithm → List (String × α)}
  {part' : Algorithm → List (String × β)}

/-- A name has one value, whichever algorithm contributes it. -/
theorem value_unique (h : config.Contributes part) {a b : Algorithm} {name : String} {x y : α}
    (hx : (name, x) ∈ part a) (hy : (name, y) ∈ part b) : x = y := by
  have isName := h.isNameOf (List.mem_map_of_mem hx)
  have isName' := h.isNameOf (List.mem_map_of_mem hy)
  obtain rfl := isName.unique rfl isName'
  have same := List.inj_on_of_nodup_map (h.nodup a) hx hy rfl
  exact congrArg Prod.snd same

/-- Under one prefix, different algorithms contribute no name in common. -/
theorem disjoint (h : config.Contributes part) (h' : other.Contributes part')
    (samePrefix : config.namePrefix = other.namePrefix) {a b : Algorithm} (different : a ≠ b) :
    ∀ name ∈ (part a).map Prod.fst, name ∉ (part' b).map Prod.fst :=
  fun _ hname hname' => different ((h.isNameOf hname).unique samePrefix (h'.isNameOf hname'))

end Contributes

/-! ## The functions of one algorithm -/

/-- The ends of the names that functions can have. -/
def functionSuffixes : List String :=
  ["is_available"] ++ Operation.all.map (·.suffix) ++ ["beforenm"]

theorem functionSuffixes_eq :
    functionSuffixes =
      ["is_available", "encrypt", "decrypt", "encrypt_detached", "decrypt_detached",
        "encrypt_afternm", "decrypt_afternm", "encrypt_detached_afternm",
        "decrypt_detached_afternm", "beforenm"] := by
  rw [functionSuffixes, Operation.map_suffix_all]
  rfl

theorem nodup_functionSuffixes : functionSuffixes.Nodup := by
  rw [functionSuffixes_eq]
  decide +kernel

theorem isOwnName_of_mem : ∀ suffix ∈ functionSuffixes, IsOwnName suffix := by
  rw [functionSuffixes_eq]
  decide +kernel

variable {algorithm : Algorithm} {hardware : Bool} {suffix : String} {entry : Host.Entry}

theorem entriesOf_sublist (algorithm : Algorithm) (hardware : Bool) :
    ((config.entriesOf algorithm hardware).map Prod.fst).Sublist functionSuffixes := by
  unfold entriesOf functionSuffixes
  rw [List.map_append, List.map_append, List.map_map]
  refine .append (.append ?_ ?_) ?_
  · split_ifs <;> simp
  · exact List.filter_sublist.map _
  · split_ifs <;> simp

theorem isOwnName_of_mem_entriesOf (h : (suffix, entry) ∈ config.entriesOf algorithm hardware) :
    IsOwnName suffix :=
  isOwnName_of_mem _ <|
    (config.entriesOf_sublist algorithm hardware).subset (List.mem_map_of_mem h)

theorem mem_functionsOf (h : (suffix, entry) ∈ config.entriesOf algorithm hardware) :
    (config.entryName algorithm suffix, entry) ∈ config.functionsOf algorithm hardware :=
  List.mem_map_of_mem h

theorem contributes_functionsOf (hardware : Bool) :
    config.Contributes fun algorithm => config.functionsOf algorithm hardware :=
  config.contributes_of_ends (fun algorithm => config.entriesOf_sublist algorithm hardware)
    nodup_functionSuffixes isOwnName_of_mem id

/-- An operation is among the entries when it takes a key, or contexts are offered. -/
theorem mem_entriesOf_operation {op : Operation}
    (h : op.key = .rawKey ∨ config.offersPrecompute algorithm = true) :
    (op.suffix, .operation algorithm op (config.isGated algorithm hardware)) ∈
      config.entriesOf algorithm hardware := by
  have offered : op ∈ config.operationsOf algorithm :=
    List.mem_filter.2 ⟨op.mem_all, by simpa using h⟩
  unfold entriesOf
  simp only [List.mem_append, List.mem_map]
  exact .inl (.inr ⟨op, offered, rfl⟩)

/-- The expansion of keys is among the entries when contexts are offered. -/
theorem mem_entriesOf_precompute (h : config.offersPrecompute algorithm = true) :
    ("beforenm", .precompute algorithm (config.isGated algorithm hardware)) ∈
      config.entriesOf algorithm hardware := by
  unfold entriesOf
  simp [h]

/-! ## Selected algorithms -/

/-- The settings name the algorithm, in one of its spellings. -/
def Names (config : Config) (algorithm : Algorithm) : Prop :=
  ∃ name ∈ config.algorithms, Algorithm.ofName? name = some algorithm

theorem mem_selected_iff {algorithms : List Algorithm} (h : config.selected = .ok algorithms) :
    algorithm ∈ algorithms ↔ config.Names algorithm := by
  rw [mem_of_mapM_eq_ok h]
  unfold Names Algorithm.ofName
  refine exists_congr fun name => and_congr_right fun _ => ?_
  cases Algorithm.ofName? name with
  | none => exact ⟨fun h => (by cases h), fun h => (by cases h)⟩
  | some a =>
    constructor
    · rintro ⟨⟩
      rfl
    · rintro ⟨⟩
      rfl

end Config

/-! ## Registration -/

namespace Host.Surface

variable {config : Config} {algorithm : Algorithm} {hardware : Bool} {suffix : String}
  {entry : Entry}

/-- Registering an algorithm sets its functions. -/
theorem find?_register_self (surface : Surface)
    (h : (suffix, entry) ∈ config.entriesOf algorithm hardware) :
    (surface.register algorithm config hardware).functions.find?
        (config.entryName algorithm suffix) = some entry :=
  NameTable.find?_insertAll_of_mem _ ((config.contributes_functionsOf hardware).nodup algorithm)
    (config.mem_functionsOf h)

/-- Registering an algorithm leaves the functions of the others alone. -/
theorem find?_register_of_ne (surface : Surface) {other : Algorithm} (hne : other ≠ algorithm)
    (own : Config.IsOwnName suffix) :
    (surface.register other config hardware).functions.find? (config.entryName algorithm suffix) =
      surface.functions.find? (config.entryName algorithm suffix) := by
  refine NameTable.find?_insertAll_of_not_mem _ fun h => ?_
  have isName := (config.contributes_functionsOf hardware).isNameOf h
  exact hne (isName.unique rfl ⟨suffix, own, rfl⟩)

theorem find?_foldl_register (h : (suffix, entry) ∈ config.entriesOf algorithm hardware)
    {algorithms : List Algorithm} (surface : Surface)
    (hset : algorithm ∈ algorithms ∨
      surface.functions.find? (config.entryName algorithm suffix) = some entry) :
    (algorithms.foldl (fun surface a => surface.register a config hardware)
      surface).functions.find? (config.entryName algorithm suffix) = some entry := by
  -- Either the algorithm is still to come, or its function is set and the others leave it alone.
  induction algorithms generalizing surface with
  | nil => exact hset.resolve_left List.not_mem_nil
  | cons first rest ih =>
    refine ih (surface.register first config hardware) ?_
    by_cases hfirst : first = algorithm
    · subst hfirst
      exact .inr (find?_register_self surface h)
    · rw [find?_register_of_ne surface hfirst (config.isOwnName_of_mem_entriesOf h)]
      refine hset.imp_left fun hmem => ?_
      exact (List.mem_cons.1 hmem).resolve_left (Ne.symm hfirst)

/-- On the surface of some settings, each function of a selected algorithm is found under its
name. -/
theorem find?_ofConfig {surface : Surface} (bound : ofConfig config hardware = .ok surface)
    (names : config.Names algorithm) (h : (suffix, entry) ∈ config.entriesOf algorithm hardware) :
    surface.functions.find? (config.entryName algorithm suffix) = some entry := by
  unfold ofConfig at bound
  cases selected : config.selected with
  | error e =>
    rw [selected] at bound
    cases bound
  | ok algorithms =>
    rw [selected] at bound
    cases bound
    exact find?_foldl_register h {} (.inl ((config.mem_selected_iff selected).2 names))

end Host.Surface

end Aead
