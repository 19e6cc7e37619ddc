import Aead.Proofs.Lookup

/-!
# Runs of registrations

A surface may be registered on again and again, with other algorithms, other settings and another
answer of the hardware each time. Every registration is a round of insertions into two tables, so a
run is a fold of rounds, and what a name finds afterwards is what the last round that sets the name
gave it.

Results:

* `NameTable.ext_find?`: a table is determined by what its names find.
* `NameTable.resolves_foldl_insertAll`: after rounds of insertions, the last one that sets a name
  decides.
* `Host.Surface.registerAll_resolves`: the same for the functions and the constants of a surface;
  a registration removes nothing, and when it may be repeated or exchanged with another.
-/

namespace Aead

/-! ## Tables by what their names find -/

namespace NameTable

variable {α : Type}

theorem mem_iff_lookup_eq_some {entries : List (String × α)}
    (ascending : entries.Pairwise (fun a b => a.1 < b.1)) {name : String} {value : α} :
    (name, value) ∈ entries ↔ entries.lookup name = some value := by
  induction entries with
  | nil => simp
  | cons head rest ih =>
    obtain ⟨n, v⟩ := head
    obtain ⟨below, ascending_rest⟩ := List.pairwise_cons.1 ascending
    rw [List.mem_cons, lookup_cons_eq_ite, ih ascending_rest]
    split_ifs with same
    · subst same
      -- The rest stands above the head, so the head's name is not found there.
      have above : rest.lookup name ≠ some value := fun h =>
        String.lt_irrefl name (below _ ((ih ascending_rest).2 h))
      simp [above, eq_comm]
    · simp [same]

/-- The entries of a table are what its names find. -/
theorem mem_entries_iff (table : NameTable α) {name : String} {value : α} :
    (name, value) ∈ table.entries ↔ table.find? name = some value :=
  mem_iff_lookup_eq_some table.ascending

theorem mem_names_iff (table : NameTable α) {name : String} :
    name ∈ table.names ↔ ∃ value, table.find? name = some value := by
  simp [names, mem_entries_iff]

theorem nodup_names (table : NameTable α) : table.names.Nodup := by
  unfold names
  rw [List.Nodup, List.pairwise_map]
  refine table.ascending.imp fun below same => ?_
  rw [same] at below
  exact String.lt_irrefl _ below

/-- A table is determined by what its names find. -/
theorem ext_find? {s t : NameTable α} (h : ∀ name, s.find? name = t.find? name) : s = t := by
  have members : ∀ entry, entry ∈ s.entries ↔ entry ∈ t.entries := by
    rintro ⟨name, value⟩
    rw [mem_entries_iff, mem_entries_iff, h]
  have perm : s.entries.Perm t.entries :=
    (List.perm_ext_iff_of_nodup s.nodup_names.of_map t.nodup_names.of_map).2 members
  have entries : s.entries = t.entries :=
    perm.eq_of_pairwise (fun _ _ _ _ below above => absurd above (String.lt_asymm below))
      s.ascending t.ascending
  cases s
  cases t
  cases entries
  rfl

/-! ## Rounds of insertions -/

variable {name : String} {value : α} {xs ys : List (String × α)}

/-- A round that is repeated at once changes nothing more. -/
theorem insertAll_insertAll_self (table : NameTable α) (xs : List (String × α)) :
    (table.insertAll xs).insertAll xs = table.insertAll xs := by
  refine ext_find? fun name => ?_
  rw [find?_insertAll, find?_insertAll, ← Option.or_assoc, Option.or_self]

/-- Rounds that set no name in common may be exchanged. -/
theorem insertAll_comm (table : NameTable α)
    (disjoint : ∀ name ∈ xs.map Prod.fst, name ∉ ys.map Prod.fst) :
    (table.insertAll xs).insertAll ys = (table.insertAll ys).insertAll xs := by
  refine ext_find? fun name => ?_
  by_cases h : name ∈ xs.map Prod.fst
  · rw [find?_insertAll_of_not_mem _ (disjoint name h), find?_insertAll, find?_insertAll,
      find?_insertAll_of_not_mem _ (disjoint name h)]
  · rw [find?_insertAll_of_not_mem (table.insertAll ys) h, find?_insertAll (table.insertAll xs),
      find?_insertAll_of_not_mem table h, find?_insertAll]

/-- `t` has all names of `s`, and finds the same as `s` under every name that is not `set`. -/
structure Extends (set : List String) (s t : NameTable α) : Prop where
  kept : ∀ name ∈ s.names, name ∈ t.names
  unchanged : ∀ name ∉ set, t.find? name = s.find? name

theorem extends_insertAll (table : NameTable α) (xs : List (String × α)) :
    Extends (xs.map Prod.fst) table (table.insertAll xs) where
  kept name h := by
    obtain ⟨value, hvalue⟩ := (mem_names_iff table).1 h
    rw [mem_names_iff, find?_insertAll, hvalue]
    cases xs.reverse.lookup name with
    | none => exact ⟨value, rfl⟩
    | some new => exact ⟨new, rfl⟩
  unchanged _ h := find?_insertAll_of_not_mem table h

/-- What a name finds after some rounds on a table: the value that the last round which sets the
name gives it, or what it found at the start when no round sets it. -/
inductive Resolves (start : NameTable α) (name : String) :
    List (List (String × α)) → Option α → Prop
  | last {before after : List (List (String × α))} {round : List (String × α)} {value : α}
      (set : (name, value) ∈ round) (unset : ∀ later ∈ after, name ∉ later.map Prod.fst) :
      Resolves start name (before ++ round :: after) (some value)
  | start {rounds : List (List (String × α))}
      (unset : ∀ round ∈ rounds, name ∉ round.map Prod.fst) :
      Resolves start name rounds (start.find? name)

/-- A further round that does not set the name leaves open nothing and changes nothing. -/
theorem Resolves.concat_unset {start : NameTable α} {rounds : List (List (String × α))}
    {found : Option α} {round : List (String × α)} (h : Resolves start name rounds found)
    (hround : name ∉ round.map Prod.fst) : Resolves start name (rounds ++ [round]) found := by
  have extended : ∀ {others : List (List (String × α))},
      (∀ other ∈ others, name ∉ other.map Prod.fst) →
      ∀ other ∈ others ++ [round], name ∉ other.map Prod.fst := by
    intro others unset other hother
    rcases List.mem_append.1 hother with hother | hother
    · exact unset other hother
    · rwa [List.mem_singleton.1 hother]
  cases h with
  | last set unset =>
    rw [List.append_assoc, List.cons_append]
    exact .last set (extended unset)
  | start unset => exact .start (extended unset)

/-- After rounds of insertions, each with distinct names, the last one that sets a name decides. -/
theorem resolves_foldl_insertAll (start : NameTable α) (rounds : List (List (String × α)))
    (distinct : ∀ round ∈ rounds, (round.map Prod.fst).Nodup) (name : String) :
    Resolves start name rounds ((rounds.foldl insertAll start).find? name) := by
  -- From the end: the last round decides, or what was found before it still counts.
  induction rounds using List.reverseRecOn with
  | nil => exact .start fun round h => absurd h List.not_mem_nil
  | append_singleton rounds round ih =>
    rw [List.foldl_append]
    change Resolves start name _ (((rounds.foldl insertAll start).insertAll round).find? name)
    have distinct_round := distinct round (by simp)
    by_cases h : name ∈ round.map Prod.fst
    · obtain ⟨⟨_, value⟩, set, rfl⟩ := List.mem_map.1 h
      rw [find?_insertAll_of_mem _ distinct_round set]
      exact .last set fun later hlater => absurd hlater List.not_mem_nil
    · rw [find?_insertAll_of_not_mem _ h]
      exact (ih fun r hr => distinct r (List.mem_append_left _ hr)).concat_unset h

end NameTable

/-! ## What one registration sets -/

namespace Config

variable (config : Config)

/-- The ends of the names that constants can have. -/
def constantSuffixes : List String :=
  ["KEYBYTES", "NPUBBYTES", "ABYTES", "NSECBYTES", "STATEBYTES"]

theorem nodup_constantSuffixes : constantSuffixes.Nodup := by
  decide +kernel

theorem isOwnName_of_mem_constantSuffixes : ∀ suffix ∈ constantSuffixes, IsOwnName suffix := by
  decide +kernel

theorem sizesOf_sublist (algorithm : Algorithm) :
    ((config.sizesOf algorithm).map Prod.fst).Sublist constantSuffixes := by
  unfold sizesOf constantSuffixes
  dsimp only
  split_ifs <;> simp

theorem contributes_constantsOf : config.Contributes config.constantsOf :=
  config.contributes_of_ends config.sizesOf_sublist nodup_constantSuffixes
    isOwnName_of_mem_constantSuffixes Host.toValue

end Config

/-! ## Runs -/

namespace Host

/-- One registration: an algorithm, settings, and whether the hardware supports the algorithm. -/
structure Registration where
  algorithm : Algorithm
  config : Config
  hardware : Bool

namespace Registration

/-- The functions that the registration sets. -/
def functions (step : Registration) : List (String × Entry) :=
  step.config.functionsOf step.algorithm step.hardware

/-- The constants that the registration sets. -/
def constants (step : Registration) : List (String × Value) :=
  step.config.constantsOf step.algorithm

section Disjoint

variable {step other : Registration} (different : step.algorithm ≠ other.algorithm)
  (samePrefix : step.config.namePrefix = other.config.namePrefix)
include different samePrefix

theorem functions_disjoint :
    ∀ name ∈ step.functions.map Prod.fst, name ∉ other.functions.map Prod.fst :=
  (step.config.contributes_functionsOf step.hardware).disjoint
    (other.config.contributes_functionsOf other.hardware) samePrefix different

theorem constants_disjoint :
    ∀ name ∈ step.constants.map Prod.fst, name ∉ other.constants.map Prod.fst :=
  step.config.contributes_constantsOf.disjoint other.config.contributes_constantsOf samePrefix
    different

end Disjoint

end Registration

namespace Surface

open NameTable (Resolves Extends)

/-- The surface after one registration. -/
def registerStep (surface : Surface) (step : Registration) : Surface :=
  surface.register step.algorithm step.config step.hardware

/-- The surface after registrations one after another. -/
def registerAll (surface : Surface) (steps : List Registration) : Surface :=
  steps.foldl registerStep surface

/-- The functions of a run are those of its rounds of insertions. -/
theorem functions_registerAll (surface : Surface) (steps : List Registration) :
    (surface.registerAll steps).functions =
      (steps.map (·.functions)).foldl NameTable.insertAll surface.functions := by
  rw [List.foldl_map]
  exact (List.foldl_hom Surface.functions fun _ _ => rfl).symm

theorem constants_registerAll (surface : Surface) (steps : List Registration) :
    (surface.registerAll steps).constants =
      (steps.map (·.constants)).foldl NameTable.insertAll surface.constants := by
  rw [List.foldl_map]
  exact (List.foldl_hom Surface.constants fun _ _ => rfl).symm

theorem resolves_functions (start : Surface) (steps : List Registration) (name : String) :
    Resolves start.functions name (steps.map (·.functions))
      ((start.registerAll steps).functions.find? name) := by
  rw [functions_registerAll]
  refine NameTable.resolves_foldl_insertAll _ _ (fun round h => ?_) name
  obtain ⟨step, -, rfl⟩ := List.mem_map.1 h
  exact (step.config.contributes_functionsOf step.hardware).nodup step.algorithm

theorem resolves_constants (start : Surface) (steps : List Registration) (name : String) :
    Resolves start.constants name (steps.map (·.constants))
      ((start.registerAll steps).constants.find? name) := by
  rw [constants_registerAll]
  refine NameTable.resolves_foldl_insertAll _ _ (fun round h => ?_) name
  obtain ⟨step, -, rfl⟩ := List.mem_map.1 h
  exact step.config.contributes_constantsOf.nodup step.algorithm

/-- A registration that is repeated at once changes nothing more. -/
theorem registerStep_registerStep_self (surface : Surface) (step : Registration) :
    (surface.registerStep step).registerStep step = surface.registerStep step :=
  congrArg₂ Surface.mk (surface.functions.insertAll_insertAll_self step.functions)
    (surface.constants.insertAll_insertAll_self step.constants)

/-- Registrations of different algorithms under one prefix may be exchanged. -/
theorem registerStep_comm (surface : Surface) {step other : Registration}
    (different : step.algorithm ≠ other.algorithm)
    (samePrefix : step.config.namePrefix = other.config.namePrefix) :
    (surface.registerStep step).registerStep other =
      (surface.registerStep other).registerStep step :=
  congrArg₂ Surface.mk
    (surface.functions.insertAll_comm (Registration.functions_disjoint different samePrefix))
    (surface.constants.insertAll_comm (Registration.constants_disjoint different samePrefix))

/-- **Runs of registrations.** After any run from any surface, a function and a constant are what
the last registration that sets the name made of it, or what they were at the start. The next
registration removes no name and changes no entry that it does not set; at once repeated, it gives
the same surface; and it may be exchanged with the next but one when the two are of different
algorithms and their settings have one prefix, whatever else the settings say. -/
theorem registerAll_resolves (start : Surface) (steps : List Registration) :
    (∀ name,
      Resolves start.functions name (steps.map (·.functions))
        ((start.registerAll steps).functions.find? name) ∧
      Resolves start.constants name (steps.map (·.constants))
        ((start.registerAll steps).constants.find? name)) ∧
    ∀ step : Registration,
      let reached := start.registerAll steps
      Extends (step.functions.map Prod.fst) reached.functions
        (reached.registerStep step).functions ∧
      Extends (step.constants.map Prod.fst) reached.constants
        (reached.registerStep step).constants ∧
      (reached.registerStep step).registerStep step = reached.registerStep step ∧
      ∀ other : Registration, step.algorithm ≠ other.algorithm →
        step.config.namePrefix = other.config.namePrefix →
        (reached.registerStep step).registerStep other =
          (reached.registerStep other).registerStep step := by
  constructor
  · intro name
    exact ⟨resolves_functions start steps name, resolves_constants start steps name⟩
  · intro step reached
    refine ⟨NameTable.extends_insertAll _ _, NameTable.extends_insertAll _ _, ?_, ?_⟩
    · exact registerStep_registerStep_self reached step
    · intro other different samePrefix
      exact registerStep_comm reached different samePrefix

/-- Under one prefix two algorithms may be registered in either order. Under two prefixes they may
not: `x` before one algorithm's name is the name of the other. -/
theorem registerAll_resolves_of_one_prefix :
    let ietf : String → Registration := fun namePrefix =>
      ⟨.chacha20Poly1305Ietf, { namePrefix }, false⟩
    let extended : String → Registration := fun namePrefix =>
      ⟨.xchacha20Poly1305Ietf, { namePrefix, exportConstants := false }, true⟩
    let name := "xchacha20poly1305_ietf_encrypt"
    (ietf "x").algorithm ≠ (extended "x").algorithm ∧
      (ietf "x").config.namePrefix = (extended "x").config.namePrefix ∧
      registerAll {} [ietf "x", extended "x"] = registerAll {} [extended "x", ietf "x"] ∧
      (registerAll {} [ietf "x", extended ""]).functions.find? name ≠
        (registerAll {} [extended "", ietf "x"]).functions.find? name := by
  intro ietf extended name
  have different : (ietf "x").algorithm ≠ (extended "x").algorithm := by decide
  refine ⟨different, rfl, ?_, by decide +kernel⟩
  exact ((registerAll_resolves {} []).2 (ietf "x")).2.2.2 (extended "x") different rfl

end Surface

end Host

end Aead
