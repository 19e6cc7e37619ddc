import Aead.Algorithm
import Mathlib

/-!
# The spellings of a name

A name may be given with blanks around it, with some of its letters in upper case, and with hyphens
for underscores. A reader trims and folds the text that it is given. Here the same is said from the
side of the name, as the texts that it accepts, character by character. The two agree because
folding can be undone: a character of a name is what that character, its upper case or a hyphen
folds to, and nothing else.

Results:

* `Text.IsTrimmed.eq_trim`, `Text.isTrimmed_trim`: between its blanks a text has one body, and
  trimming gives it.
* `Algorithm.foldChar_eq_iff`: what folds to a character of a name.
* `Algorithm.isNamedBy_of_spelled`, `Algorithm.ofName_name`: a spelling needs no blanks around it;
  above all an algorithm's own name is read as it.
* `Algorithm.ofName?_eq_some_iff`: a text is read as the algorithm whose name its body spells.
* `Algorithm.ofName_accepts_spellings`: which texts are read, what becomes of the others, and which
  changes to a text make no difference.
-/

namespace Aead

/-! ## Blanks around a text -/

namespace Text

/-- The body is what lies between the blanks at the ends of a text. -/
structure IsTrimmed (text body : List Char) : Prop where
  surrounded : ∃ front back, text = front ++ body ++ back ∧
    (∀ c ∈ front, isBlank c) ∧ ∀ c ∈ back, isBlank c
  first : ∀ c ∈ body.head?, ¬isBlank c
  last : ∀ c ∈ body.getLast?, ¬isBlank c

theorem dropWhile_isBlank_append {front rest : List Char} (blank : ∀ c ∈ front, isBlank c)
    (first : ∀ c ∈ rest.head?, ¬isBlank c) : (front ++ rest).dropWhile isBlank = rest := by
  rw [List.dropWhile_append_of_pos blank]
  cases rest with
  | nil => rfl
  | cons c rest => exact List.dropWhile_cons_of_neg (first c rfl)

theorem not_isBlank_of_mem_head?_dropWhile {text : List Char} {c : Char}
    (h : c ∈ (text.dropWhile isBlank).head?) : ¬isBlank c := by
  have stopped := List.head?_dropWhile_not isBlank text
  rw [Option.mem_def.1 h] at stopped
  exact Bool.eq_false_iff.1 stopped

theorem trim_isPrefix (text : List Char) : trim text <+: text.dropWhile isBlank := by
  rw [trim, ← List.reverse_suffix, List.reverse_reverse]
  exact List.dropWhile_suffix _

/-- Trimming gives a body of the text. -/
theorem isTrimmed_trim (text : List Char) : IsTrimmed text (trim text) where
  surrounded := by
    refine ⟨text.takeWhile isBlank,
      ((text.dropWhile isBlank).reverse.takeWhile isBlank).reverse, ?_, ?_, ?_⟩
    · rw [trim, List.append_assoc, ← List.reverse_append, List.takeWhile_append_dropWhile,
        List.reverse_reverse, List.takeWhile_append_dropWhile]
    · exact fun c hc => List.mem_takeWhile_imp hc
    · exact fun c hc => List.mem_takeWhile_imp (List.mem_reverse.1 hc)
  first := by
    intro c hc
    obtain ⟨rest, hrest⟩ := trim_isPrefix text
    have stays : c ∈ (text.dropWhile isBlank).head? := by
      rw [← hrest, List.head?_append, Option.mem_def.1 hc]
      rfl
    exact not_isBlank_of_mem_head?_dropWhile stays
  last := by
    intro c hc
    rw [trim, List.getLast?_reverse] at hc
    exact not_isBlank_of_mem_head?_dropWhile hc

namespace IsTrimmed

variable {text body : List Char}

/-- A text has no other body than the one that trimming gives. -/
theorem eq_trim (h : IsTrimmed text body) : trim text = body := by
  obtain ⟨front, back, rfl, hfront, hback⟩ := h.surrounded
  unfold trim
  cases body with
  | nil =>
    have blank : ∀ c ∈ front ++ [] ++ back, isBlank c := by
      intro c hc
      rw [List.append_nil] at hc
      exact (List.mem_append.1 hc).elim (hfront c) (hback c)
    rw [List.dropWhile_eq_nil_iff.2 blank]
    rfl
  | cons first rest =>
    have without_front :
        (front ++ (first :: rest) ++ back).dropWhile isBlank = (first :: rest) ++ back := by
      rw [List.append_assoc]
      exact dropWhile_isBlank_append hfront h.first
    have without_back :
        ((first :: rest) ++ back).reverse.dropWhile isBlank = (first :: rest).reverse := by
      rw [List.reverse_append]
      refine dropWhile_isBlank_append (fun c hc => hback c (List.mem_reverse.1 hc)) ?_
      rw [List.head?_reverse]
      exact h.last
    rw [without_front, without_back, List.reverse_reverse]

/-- More blanks around a text leave it its body. -/
theorem surround {front back : List Char} (h : IsTrimmed text body)
    (hfront : ∀ c ∈ front, isBlank c) (hback : ∀ c ∈ back, isBlank c) :
    IsTrimmed (front ++ text ++ back) body where
  surrounded := by
    obtain ⟨front', back', rfl, hfront', hback'⟩ := h.surrounded
    refine ⟨front ++ front', back' ++ back, by simp only [List.append_assoc], ?_, ?_⟩
    · exact fun c hc => (List.mem_append.1 hc).elim (hfront c) (hfront' c)
    · exact fun c hc => (List.mem_append.1 hc).elim (hback' c) (hback c)
  first := h.first
  last := h.last

end IsTrimmed

/-- There is no blank from the digit zero to the letter z. -/
theorem isBlank_of_bounds {c : Char} (zero_le : 48 ≤ c.toNat) (le_z : c.toNat ≤ 122) :
    isBlank c = false := by
  have apart : ∀ range ∈ blankRanges, range.2 < 48 ∨ 122 < range.1 := by decide
  rw [isBlank, List.any_eq_false]
  rintro ⟨low, high⟩ hrange
  rw [Bool.and_eq_true, decide_eq_true_eq, decide_eq_true_eq]
  have := apart _ hrange
  omega

/-- A letter is no blank. -/
theorem isBlank_of_isAlpha {c : Char} (h : c.isAlpha) : isBlank c = false := by
  simp only [Char.isAlpha, Char.isUpper, Char.isLower, Bool.or_eq_true, Bool.and_eq_true,
    decide_eq_true_eq, ge_iff_le, UInt32.le_iff_toNat_le] at h
  change (65 ≤ c.toNat ∧ c.toNat ≤ 90) ∨ (97 ≤ c.toNat ∧ c.toNat ≤ 122) at h
  exact isBlank_of_bounds (by omega) (by omega)

end Text

namespace Algorithm

/-! ## Characters -/

/-- How a character of a name may be written: as it is, a letter in upper case, an underscore as a
hyphen. -/
inductive Spells : (written c : Char) → Prop
  | same (c : Char) : Spells c c
  | upper {c : Char} (h : c.isLower) : Spells c.toUpper c
  | hyphen : Spells '-' '_'

/-- Characters that may be exchanged in a text: those that are equal but for the case of an ASCII
letter, and a hyphen for an underscore or an underscore for a hyphen. -/
inductive Exchangeable : Char → Char → Prop
  | case {c d : Char} (h : c.toLower = d.toLower) : Exchangeable c d
  | hyphen : Exchangeable '_' '-'
  | underscore : Exchangeable '-' '_'

theorem exchangeable_iff {c d : Char} :
    Exchangeable c d ↔ c.toLower = d.toLower ∨ (c = '_' ∧ d = '-') ∨ (c = '-' ∧ d = '_') := by
  constructor
  · rintro (h | _ | _)
    · exact .inl h
    · exact .inr (.inl ⟨rfl, rfl⟩)
    · exact .inr (.inr ⟨rfl, rfl⟩)
  · rintro (h | ⟨rfl, rfl⟩ | ⟨rfl, rfl⟩)
    · exact .case h
    · exact .hyphen
    · exact .underscore

instance : DecidableRel Exchangeable :=
  fun _ _ => decidable_of_iff _ exchangeable_iff.symm

/-- The characters of names. -/
def isNameChar (c : Char) : Bool :=
  c.isLower || c.isDigit || c = '_'

theorem all_isNameChar_name (algorithm : Algorithm) : algorithm.name.toList.all isNameChar := by
  cases algorithm <;> rfl

theorem isNameChar_bounds {c : Char} (h : isNameChar c) :
    48 ≤ c.toNat ∧ c.toNat ≤ 122 ∧ (c.toNat < 65 ∨ 90 < c.toNat) := by
  simp only [isNameChar, Char.isLower, Char.isDigit, Bool.or_eq_true, Bool.and_eq_true,
    decide_eq_true_eq, ge_iff_le, UInt32.le_iff_toNat_le] at h
  change ((97 ≤ c.toNat ∧ c.toNat ≤ 122) ∨ (48 ≤ c.toNat ∧ c.toNat ≤ 57)) ∨ c = '_' at h
  rcases h with (lower | digit) | rfl
  · omega
  · omega
  · decide

/-- A character of a name is in lower case, and no hyphen. -/
theorem isNameChar_folded {c : Char} (h : isNameChar c) : ¬c.isUpper ∧ c ≠ '-' := by
  obtain ⟨zero_le, -, outside⟩ := isNameChar_bounds h
  constructor
  · simp only [Char.isUpper, decide_eq_true_eq, ge_iff_le, UInt32.le_iff_toNat_le]
    change ¬(65 ≤ c.toNat ∧ c.toNat ≤ 90)
    omega
  · rintro rfl
    exact absurd zero_le (by decide)

theorem isBlank_of_isNameChar {c : Char} (h : isNameChar c) : Text.isBlank c = false :=
  Text.isBlank_of_bounds (isNameChar_bounds h).1 (isNameChar_bounds h).2.1

theorem foldChar_of_ne {c : Char} (h : c ≠ '-') : foldChar c = c.toLower :=
  if_neg h

/-- What folds to a character of a name. -/
theorem foldChar_eq_iff {written c : Char} (h : isNameChar c) :
    foldChar written = c ↔ Spells written c := by
  obtain ⟨not_upper, ne_hyphen⟩ := isNameChar_folded h
  constructor
  · rintro rfl
    by_cases hyphen : written = '-'
    · rw [hyphen]
      exact .hyphen
    · rw [foldChar_of_ne hyphen]
      by_cases upper : written.isUpper
      · have lower : written.toLower.isLower := by
          rw [Char.isLower_toLower_eq_isAlpha, Char.isAlpha, upper, Bool.true_or]
        have spelled := Spells.upper lower
        rwa [Char.toUpper_toLower_eq_toUpper,
          Char.toUpper_eq_of_not_isLower (Char.not_isLower_of_isUpper upper)] at spelled
      · rw [Char.toLower_eq_of_not_isUpper upper]
        exact .same written
  · intro spelled
    cases spelled with
    | same => rw [foldChar_of_ne ne_hyphen, Char.toLower_eq_of_not_isUpper not_upper]
    | upper lower =>
      have ne_hyphen' : c.toUpper ≠ '-' := by
        intro heq
        have alpha := Char.isUpper_toUpper_eq_isAlpha c
        rw [heq, Char.isAlpha, lower, Bool.or_true] at alpha
        exact absurd alpha (by decide)
      rw [foldChar_of_ne ne_hyphen', Char.toLower_toUpper_eq_toLower,
        Char.toLower_eq_of_not_isUpper not_upper]
    | hyphen => rfl

/-- No character beyond ASCII is written for a character of a name. -/
theorem Spells.toNat_lt {written c : Char} (spelled : Spells written c) (h : isNameChar c) :
    written.toNat < 128 := by
  cases spelled with
  | same => exact Nat.lt_of_le_of_lt (isNameChar_bounds h).2.1 (by decide)
  | upper lower =>
    have upper := Char.isUpper_toUpper_eq_isAlpha c
    rw [Char.isAlpha, lower, Bool.or_true] at upper
    simp only [Char.isUpper, decide_eq_true_eq, ge_iff_le, UInt32.le_iff_toNat_le] at upper
    exact Nat.lt_of_le_of_lt upper.2 (by decide)
  | hyphen => decide

theorem Exchangeable.foldChar_eq {c d : Char} (h : Exchangeable c d) : foldChar c = foldChar d := by
  have ne_hyphen : ∀ {c d : Char}, c.toLower = d.toLower → c = '-' → d = '-' := by
    rintro c d same rfl
    by_cases upper : d.isUpper
    · -- The lower case of a letter is a letter, and a hyphen is none.
      have lower := Char.isLower_toLower_eq_isAlpha d
      rw [← same, Char.isAlpha, upper, Bool.true_or] at lower
      exact absurd lower (by decide)
    · rw [Char.toLower_eq_of_not_isUpper upper] at same
      exact same.symm
  cases h with
  | case same =>
    by_cases hyphen : c = '-'
    · rw [ne_hyphen same hyphen, hyphen]
    · rw [foldChar_of_ne hyphen, foldChar_of_ne (hyphen ∘ ne_hyphen same.symm), same]
  | hyphen => rfl
  | underscore => rfl

theorem isBlank_foldChar (c : Char) : Text.isBlank (foldChar c) = Text.isBlank c := by
  by_cases hyphen : c = '-'
  · rw [hyphen]
    rfl
  · rw [foldChar_of_ne hyphen]
    by_cases upper : c.isUpper
    · have alpha : c.isAlpha := by
        rw [Char.isAlpha, upper, Bool.true_or]
      rw [Text.isBlank_of_isAlpha alpha,
        Text.isBlank_of_isAlpha ((Char.isAlpha_toLower_eq_isAlpha c).trans alpha)]
    · rw [Char.toLower_eq_of_not_isUpper upper]

/-- No blank is written for a character of a name. -/
theorem Spells.isBlank_eq_false {written c : Char} (spelled : Spells written c)
    (h : isNameChar c) : Text.isBlank written = false := by
  rw [← isBlank_foldChar, (foldChar_eq_iff h).2 spelled]
  exact isBlank_of_isNameChar h

/-! ## Names -/

/-- The text names the algorithm: blanks aside, it spells the name, one character for each. -/
def IsNamedBy (algorithm : Algorithm) (text : String) : Prop :=
  ∃ body, Text.IsTrimmed text.toList body ∧ List.Forall₂ Spells body algorithm.name.toList

/-- The other text is this one with characters exchanged and blanks put around it. -/
def IsVariant (text other : String) : Prop :=
  ∃ front exchanged back, other.toList = front ++ exchanged ++ back ∧
    (∀ c ∈ front, Text.isBlank c) ∧ (∀ c ∈ back, Text.isBlank c) ∧
    List.Forall₂ Exchangeable text.toList exchanged

theorem toList_name_injective {a b : Algorithm} (h : a.name.toList = b.name.toList) : a = b := by
  revert h
  cases a <;> cases b <;> decide

theorem map_foldChar_eq_iff {body name : List Char} (h : name.all isNameChar) :
    body.map foldChar = name ↔ List.Forall₂ Spells body name := by
  induction body generalizing name with
  | nil => rw [List.map_nil, List.forall₂_nil_left_iff, eq_comm]
  | cons c body ih =>
    cases name with
    | nil => simp
    | cons d name =>
      rw [List.all_cons, Bool.and_eq_true] at h
      rw [List.map_cons, List.cons.injEq, List.forall₂_cons, foldChar_eq_iff h.1, ih h.2]

/-- What holds of all that is written for one character holds in the spelling of a name. -/
theorem forall_mem_of_spelled {P : Char → Prop}
    (written : ∀ {w c : Char}, Spells w c → isNameChar c → P w) {body name : List Char}
    (h : name.all isNameChar) (spelled : List.Forall₂ Spells body name) : ∀ c ∈ body, P c := by
  induction spelled with
  | nil => exact fun c hc => absurd hc List.not_mem_nil
  | cons first _ ih =>
    rw [List.all_cons, Bool.and_eq_true] at h
    rw [List.forall_mem_cons]
    exact ⟨written first h.1, ih h.2⟩

/-- A spelling without blanks around it names the algorithm: there is no blank in it. -/
theorem isNamedBy_of_spelled {text : String} {algorithm : Algorithm}
    (spelled : List.Forall₂ Spells text.toList algorithm.name.toList) :
    algorithm.IsNamedBy text := by
  have visible : ∀ c ∈ text.toList, ¬Text.isBlank c :=
    forall_mem_of_spelled (fun written h => Bool.eq_false_iff.1 (written.isBlank_eq_false h))
      algorithm.all_isNameChar_name spelled
  refine ⟨text.toList, ⟨⟨[], [], ?_, ?_, ?_⟩, fun c hc => ?_, fun c hc => ?_⟩, spelled⟩
  · rw [List.nil_append, List.append_nil]
  · exact List.forall_mem_nil _
  · exact List.forall_mem_nil _
  · exact visible c (List.mem_of_mem_head? hc)
  · exact visible c (List.mem_of_mem_getLast? hc)

/-- Trimming and folding may be exchanged, for folding keeps blanks and makes none. -/
theorem trim_map_foldChar (text : List Char) :
    Text.trim (text.map foldChar) = (Text.trim text).map foldChar := by
  have same : Text.isBlank ∘ foldChar = Text.isBlank := funext isBlank_foldChar
  unfold Text.trim
  rw [List.dropWhile_map, same, ← List.map_reverse, List.dropWhile_map, same, ← List.map_reverse]

/-- A text is read as the algorithm that it names. -/
theorem ofName?_eq_some_iff {text : String} {algorithm : Algorithm} :
    ofName? text = some algorithm ↔ algorithm.IsNamedBy text := by
  have found : ofName? text = some algorithm ↔
      (Text.trim text.toList).map foldChar = algorithm.name.toList := by
    let folded := (Text.trim text.toList).map foldChar
    let matching := fun a : Algorithm => a.name.toList == folded
    change all.find? matching = some algorithm ↔ folded = algorithm.name.toList
    constructor
    · intro h
      exact (beq_iff_eq.1 (List.find?_some (p := matching) h)).symm
    · intro h
      cases hfind : all.find? matching with
      | none =>
        exact absurd (beq_iff_eq.2 h.symm)
          (List.find?_eq_none.1 hfind algorithm algorithm.mem_all)
      | some other =>
        have hother := beq_iff_eq.1 (List.find?_some (p := matching) hfind)
        exact congrArg some (toList_name_injective (hother.trans h))
  rw [found, map_foldChar_eq_iff algorithm.all_isNameChar_name]
  constructor
  · exact fun h => ⟨_, Text.isTrimmed_trim _, h⟩
  · rintro ⟨body, hbody, h⟩
    rwa [hbody.eq_trim]

theorem ofName?_name (algorithm : Algorithm) : ofName? algorithm.name = some algorithm :=
  ofName?_eq_some_iff.2 <| isNamedBy_of_spelled <| List.forall₂_same.2 fun c _ => .same c

theorem ofName?_eq_of_isVariant {text other : String} (h : IsVariant text other) :
    ofName? other = ofName? text := by
  obtain ⟨front, exchanged, back, hother, hfront, hback, alike⟩ := h
  have folded : exchanged.map foldChar = text.toList.map foldChar := by
    rw [← List.forall₂_eq_eq_eq, List.forall₂_map_left_iff, List.forall₂_map_right_iff]
    exact alike.flip.imp fun c d h => (Exchangeable.foldChar_eq h).symm
  have same : (Text.trim other.toList).map foldChar = (Text.trim text.toList).map foldChar := by
    rw [hother, ((Text.isTrimmed_trim exchanged).surround hfront hback).eq_trim,
      ← trim_map_foldChar, folded, trim_map_foldChar]
  unfold ofName?
  rw [same]

theorem ofName_eq_ok_iff {text : String} {algorithm : Algorithm} :
    ofName text = .ok algorithm ↔ ofName? text = some algorithm := by
  unfold ofName
  cases ofName? text <;> simp

/-- An algorithm's own name is read as it. -/
theorem ofName_name (algorithm : Algorithm) : ofName algorithm.name = .ok algorithm :=
  ofName_eq_ok_iff.2 algorithm.ofName?_name

/-- **Names are read exactly.** A text is read as an algorithm if, blanks aside, it spells the
algorithm's name; every other text is refused as it was given. So no text is read as two algorithms,
nothing beyond ASCII is read as part of a name, and neither blanks around a text nor exchanged
characters make a difference. -/
theorem ofName_accepts_spellings (text : String) :
    (∀ algorithm, ofName text = .ok algorithm ↔ algorithm.IsNamedBy text) ∧
    (ofName text = .error (.unknownAlgorithm text) ↔
      ∀ algorithm : Algorithm, ¬algorithm.IsNamedBy text) ∧
    (∀ a b : Algorithm, a.IsNamedBy text → b.IsNamedBy text → a = b) ∧
    (∀ algorithm, ofName text = .ok algorithm →
      ∀ c ∈ Text.trim text.toList, c.toNat < 128) ∧
    ∀ other, IsVariant text other →
      ∀ algorithm, ofName other = .ok algorithm ↔ ofName text = .ok algorithm := by
  have named (algorithm : Algorithm) :
      ofName text = .ok algorithm ↔ algorithm.IsNamedBy text :=
    ofName_eq_ok_iff.trans ofName?_eq_some_iff
  refine ⟨named, ?_, fun a b ha hb => ?_, fun algorithm h c hc => ?_, fun other h algorithm => ?_⟩
  · constructor
    · intro refused algorithm h
      rw [(named algorithm).2 h] at refused
      cases refused
    · intro unnamed
      have missed : ofName? text = none :=
        Option.eq_none_iff_forall_ne_some.2 fun a h => unnamed a (ofName?_eq_some_iff.1 h)
      rw [ofName, missed]
      rfl
  · have same := ((named a).2 ha).symm.trans ((named b).2 hb)
    exact Except.ok.inj same
  · obtain ⟨body, hbody, spelled⟩ := (named algorithm).1 h
    rw [hbody.eq_trim] at hc
    exact forall_mem_of_spelled Spells.toNat_lt algorithm.all_isNameChar_name spelled c hc
  · rw [ofName_eq_ok_iff, ofName_eq_ok_iff, ofName?_eq_of_isVariant h]

/-- A name in another case between a no-break space and a line end, a text with one hyphen too many,
and one of the four names with blanks, capitals and a hyphen. -/
theorem ofName_accepts_spellings_of_capitals :
    ofName "\u00a0XChaCha20Poly1305-IETF\n" = .ok .xchacha20Poly1305Ietf ∧
    ofName "aes-256-gcm" = .error (.unknownAlgorithm "aes-256-gcm") ∧
    ofName "\tChaCha20Poly1305-IETF " = .ok .chacha20Poly1305Ietf := by
  have named : xchacha20Poly1305Ietf.IsNamedBy "\u00a0XChaCha20Poly1305-IETF\n" := by
    have first : ∀ c ∈ "XChaCha20Poly1305-IETF".toList.head?, ¬Text.isBlank c := by
      rintro _ ⟨⟩
      decide
    have last : ∀ c ∈ "XChaCha20Poly1305-IETF".toList.getLast?, ¬Text.isBlank c := by
      rintro _ ⟨⟩
      decide
    refine ⟨_, ⟨⟨['\u00a0'], ['\n'], rfl, ?_, ?_⟩, first, last⟩, ?_⟩
    · exact List.forall_mem_singleton.2 (by decide)
    · exact List.forall_mem_singleton.2 (by decide)
    · exact (map_foldChar_eq_iff xchacha20Poly1305Ietf.all_isNameChar_name).1 (by decide)
  have unnamed (algorithm : Algorithm) : ¬algorithm.IsNamedBy "aes-256-gcm" := by
    rw [← ofName?_eq_some_iff]
    cases algorithm <;> decide
  have plain : ofName "chacha20poly1305_ietf" = .ok .chacha20Poly1305Ietf :=
    ofName_name .chacha20Poly1305Ietf
  have variant : IsVariant "chacha20poly1305_ietf" "\tChaCha20Poly1305-IETF " := by
    refine ⟨['\t'], "ChaCha20Poly1305-IETF".toList, [' '], rfl, ?_, ?_, ?_⟩
    · exact List.forall_mem_singleton.2 (by decide)
    · exact List.forall_mem_singleton.2 (by decide)
    · decide
  obtain ⟨accepted, -⟩ := ofName_accepts_spellings "\u00a0XChaCha20Poly1305-IETF\n"
  obtain ⟨-, refused, -⟩ := ofName_accepts_spellings "aes-256-gcm"
  obtain ⟨-, -, -, -, unchanged⟩ := ofName_accepts_spellings "chacha20poly1305_ietf"
  exact ⟨(accepted _).2 named, refused.2 unnamed, (unchanged _ variant _).2 plain⟩

end Algorithm

end Aead
