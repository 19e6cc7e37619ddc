import Aead.Toml.Token
import Mathlib

/-!
# Reading tokens one after another

The reader often stands inside a token whose end it has not seen: a blank or a bare word goes on as
long as characters join it, and an empty text may turn out to open a block. Only the next character
tells. So what has been read is said of a state in two parts, what the tokens are if the document
ends here, and that a character which does not join the last of them begins another. With that, the
pieces of a document are read one after another.

Results:

* `Token.HasRead`: the tokens that have been read in a state.
* `Token.reads_gap`, `Token.reads_mark`, `Token.reads_word`, `Token.reads_text`: blanks, a mark, a
  bare word and a quoted text are read as what they are.
* `Token.ofDocument?_of_reads`: a document whose pieces are read one after another has their tokens.
-/

namespace Aead.Toml.Token

/-! ## What has been read -/

/-- The character would become part of the token before it, or make another token of it. -/
def joins : Token → Char → Bool
  | blank _, c => isBlankChar c
  | comment, c => isCommentChar c
  | bare _, c => isBareChar c
  | quoted _ _, c => c = '"' || c = '\''
  | _, _ => false

/-- The character may follow the tokens, of which the last one comes first, as the beginning of
another one. -/
def Follows (done : List Token) (c : Char) : Prop :=
  ∀ token ∈ done.head?, token.joins c = false

/-- The tokens that have been read in a state, the last one first. -/
structure HasRead (state : State) (done : List Token) : Prop where
  finish_eq : finish state = some done
  step_eq : ∀ c, Follows done c → step state c = start done c

/-- After the tokens `done` the characters are read, and then the tokens are `done'`. -/
def Reads (done : List Token) (chars : List Char) (done' : List Token) : Prop :=
  ∀ state, HasRead state done →
    ∃ state', chars.foldlM step state = some state' ∧ HasRead state' done'

theorem hasRead_between (done : List Token) : HasRead (done, .between) done where
  finish_eq := rfl
  step_eq _ _ := rfl

theorem hasRead_blank (done : List Token) (text : List Char) :
    HasRead (done, .blank text) (blank text.reverse :: done) where
  finish_eq := rfl
  step_eq _ h := if_neg (Bool.eq_false_iff.1 (h _ rfl))

theorem hasRead_bare (done : List Token) (text : List Char) :
    HasRead (done, .bare text) (bare text.reverse :: done) where
  finish_eq := rfl
  step_eq _ h := if_neg (Bool.eq_false_iff.1 (h _ rfl))

theorem hasRead_openedTwice (done : List Token) :
    HasRead (done, .openedTwice '"') (quoted [] false :: done) where
  finish_eq := rfl
  step_eq c h := by
    have not_quote := h _ rfl
    simp only [joins, Bool.or_eq_false_iff, decide_eq_false_iff_not] at not_quote
    exact if_neg not_quote.1

namespace Reads

variable {first second third : List Token} {front rest : List Char}

protected theorem refl (done : List Token) : Reads done [] done :=
  fun state h => ⟨state, rfl, h⟩

protected theorem append (h : Reads first front second) (h' : Reads second rest third) :
    Reads first (front ++ rest) third := by
  intro state hstate
  obtain ⟨middle, hfront, hmiddle⟩ := h state hstate
  obtain ⟨last, hrest, hlast⟩ := h' middle hmiddle
  exact ⟨last, by rw [List.foldlM_append, hfront]; exact hrest, hlast⟩

end Reads

/-! ## Where a token may begin -/

/-- A token that one character is, and that no other joins. -/
def isMark : Token → Bool
  | blank _ | comment | bare _ | quoted _ _ => false
  | _ => true

/-- A token that blanks end. -/
def isWord : Token → Bool
  | blank _ | comment => false
  | _ => true

/-- A character that is no part of bare words and does not quote. -/
def isBreak (c : Char) : Bool :=
  !isBareChar c && c ≠ '"' && c ≠ '\''

/-- Nothing has been read, or a mark was the last: anything may follow. -/
def Fresh (done : List Token) : Prop :=
  ∀ token ∈ done.head?, token.isMark

/-- A token other than blanks may follow. -/
def Ready (done : List Token) : Prop :=
  ∀ c, isBlankChar c = false → Follows done c

/-- Blanks and marks may follow. -/
def Closed (done : List Token) : Prop :=
  ∀ token ∈ done.head?, token.isWord

/-- The tokens of blanks: none if there are none. -/
def gap (blanks : List Char) : List Token :=
  if blanks = [] then [] else [blank blanks]

theorem isBreak_of_isBlankChar {c : Char} (h : isBlankChar c) : isBreak c := by
  simp only [isBlankChar, Bool.or_eq_true, decide_eq_true_eq] at h
  rcases h with rfl | rfl <;> decide

theorem isBlankChar_of_isBareChar {c : Char} (h : isBareChar c) : isBlankChar c = false := by
  by_contra hblank
  have hbreak := isBreak_of_isBlankChar (Bool.not_eq_false _ ▸ hblank)
  simp only [isBreak, h, Bool.not_true, Bool.false_and] at hbreak
  exact absurd hbreak (by decide)

theorem Fresh.closed {done : List Token} (h : Fresh done) : Closed done := by
  intro token htoken
  have mark := h token htoken
  cases token <;> first | rfl | cases mark

theorem Fresh.follows {done : List Token} (h : Fresh done) (c : Char) : Follows done c := by
  intro token htoken
  have mark := h token htoken
  cases token <;> first | rfl | cases mark

theorem Closed.follows {done : List Token} (h : Closed done) {c : Char} (hc : isBreak c) :
    Follows done c := by
  intro token htoken
  have word := h token htoken
  simp only [isBreak, Bool.and_eq_true, Bool.not_eq_true', decide_eq_true_eq] at hc
  obtain ⟨⟨not_bare, ne_quote⟩, ne_quote'⟩ := hc
  cases token with
  | blank => cases word
  | comment => cases word
  | bare => exact not_bare
  | quoted => simp only [joins, ne_quote, ne_quote', decide_false, Bool.or_self]
  | _ => rfl

/-- What may follow tokens may follow them after blanks too, unless it is a blank. -/
theorem Follows.gap {done : List Token} {c : Char} (h : Follows done c)
    (hc : isBlankChar c = false) (blanks : List Char) : Follows (gap blanks ++ done) c := by
  unfold Token.gap
  split_ifs
  · exact h
  · rintro _ ⟨⟩
    exact hc

theorem fresh_cons {token : Token} (h : token.isMark) (done : List Token) :
    Fresh (token :: done) := by
  rintro _ ⟨⟩
  exact h

theorem closed_cons {token : Token} (h : token.isWord) (done : List Token) :
    Closed (token :: done) := by
  rintro _ ⟨⟩
  exact h

theorem Fresh.ready_gap {done : List Token} (h : Fresh done) (blanks : List Char) :
    Ready (gap blanks ++ done) :=
  fun c hc => (h.follows c).gap hc blanks

/-! ## Single tokens -/

/-- Characters that leave the reader in a mode are collected there. -/
theorem foldlM_step_of_stays {done : List Token} {mode : List Char → Mode} {p : Char → Prop}
    (stays : ∀ text c, p c → step (done, mode text) c = some (done, mode (c :: text)))
    {chars : List Char} (hchars : ∀ c ∈ chars, p c) (text : List Char) :
    chars.foldlM step (done, mode text) = some (done, mode (chars.reverse ++ text)) := by
  induction chars generalizing text with
  | nil => rfl
  | cons c chars ih =>
    rw [List.forall_mem_cons] at hchars
    rw [List.foldlM_cons, stays text c hchars.1, Option.bind_eq_bind, Option.bind_some,
      ih hchars.2, List.reverse_cons, List.append_assoc, List.singleton_append]

theorem start_of_isBlankChar (done : List Token) {c : Char} (h : isBlankChar c) :
    start done c = some (done, .blank [c]) :=
  if_pos h

theorem start_of_isBareChar (done : List Token) {c : Char} (h : isBareChar c) :
    start done c = some (done, .bare [c]) := by
  rw [start, isBlankChar_of_isBareChar h, if_neg Bool.false_ne_true, if_pos h]

/-- Blanks are one token. -/
theorem reads_gap {done : List Token} (closed : Closed done) {blanks : List Char}
    (hblanks : ∀ c ∈ blanks, isBlankChar c) : Reads done blanks (gap blanks ++ done) := by
  cases blanks with
  | nil => exact Reads.refl done
  | cons c blanks =>
    rw [List.forall_mem_cons] at hblanks
    intro state hstate
    have begun : step state c = some (done, .blank [c]) := by
      rw [hstate.step_eq c (closed.follows (isBreak_of_isBlankChar hblanks.1))]
      exact start_of_isBlankChar done hblanks.1
    have stays (text : List Char) (c : Char) (hc : isBlankChar c) :
        step (done, .blank text) c = some (done, .blank (c :: text)) :=
      if_pos hc
    refine ⟨(done, .blank (blanks.reverse ++ [c])), ?_, ?_⟩
    · rw [List.foldlM_cons, begun]
      exact foldlM_step_of_stays stays hblanks.2 [c]
    · have read := hasRead_blank done (blanks.reverse ++ [c])
      rwa [List.reverse_append, List.reverse_reverse, List.reverse_singleton] at read

/-- A mark is a token by itself. -/
theorem reads_mark {done : List Token} {c : Char} {mark : Token} (follows : Follows done c)
    (begins : ∀ done, start done c = some (mark :: done, .between)) :
    Reads done [c] (mark :: done) := by
  intro state hstate
  refine ⟨(mark :: done, .between), ?_, hasRead_between _⟩
  rw [List.foldlM_cons, hstate.step_eq c follows, begins]
  rfl

/-- A bare word is one token. -/
theorem reads_word {done : List Token} {c : Char} {word : List Char}
    (follows : Follows done c) (hword : ∀ c' ∈ c :: word, isBareChar c') :
    Reads done (c :: word) (bare (c :: word) :: done) := by
  rw [List.forall_mem_cons] at hword
  intro state hstate
  have begun : step state c = some (done, .bare [c]) := by
    rw [hstate.step_eq c follows, start_of_isBareChar done hword.1]
  have stays (text : List Char) (c : Char) (hc : isBareChar c) :
      step (done, .bare text) c = some (done, .bare (c :: text)) :=
    if_pos hc
  refine ⟨(done, .bare (word.reverse ++ [c])), ?_, ?_⟩
  · rw [List.foldlM_cons, begun]
    exact foldlM_step_of_stays stays hword.2 [c]
  · have read := hasRead_bare done (word.reverse ++ [c])
    rwa [List.reverse_append, List.reverse_reverse, List.reverse_singleton] at read

/-- The character stands for itself in text between double quotes. -/
def IsPlain (c : Char) : Prop :=
  isTextChar c ∧ c ≠ '"' ∧ c ≠ '\\'

theorem lineStep_of_isPlain (done : List Token) (text : List Char) {c : Char} (h : IsPlain c) :
    lineStep done '"' text c = some (done, .line '"' (c :: text)) := by
  obtain ⟨htext, ne_quote, ne_backslash⟩ := h
  simp [lineStep, htext, ne_quote, ne_backslash]

/-- Text between double quotes is one token. -/
theorem reads_text {done : List Token} {text : List Char} (follows : Follows done '"')
    (htext : ∀ c ∈ text, IsPlain c) :
    Reads done ('"' :: (text ++ ['"'])) (quoted text false :: done) := by
  intro state hstate
  have begun : step state '"' = some (done, .opened '"') := hstate.step_eq '"' follows
  cases text with
  | nil =>
    refine ⟨(done, .openedTwice '"'), ?_, hasRead_openedTwice done⟩
    rw [List.foldlM_cons, begun]
    rfl
  | cons c text =>
    rw [List.forall_mem_cons] at htext
    have first : step (done, .opened '"') c = some (done, .line '"' [c]) :=
      (if_neg htext.1.2.1).trans (lineStep_of_isPlain done [] htext.1)
    have stays (text : List Char) (c : Char) (hc : IsPlain c) :
        step (done, .line '"' text) c = some (done, .line '"' (c :: text)) :=
      lineStep_of_isPlain done text hc
    have last : step (done, .line '"' (text.reverse ++ [c])) '"' =
        some (quoted (c :: text) false :: done, .between) := by
      rw [step, lineStep, if_pos rfl, List.reverse_append, List.reverse_reverse,
        List.reverse_singleton, List.singleton_append]
    refine ⟨(quoted (c :: text) false :: done, .between), ?_, hasRead_between _⟩
    rw [List.foldlM_cons, begun, Option.bind_eq_bind, Option.bind_some, List.cons_append,
      List.foldlM_cons, first, Option.bind_eq_bind, Option.bind_some, List.foldlM_append,
      foldlM_step_of_stays stays htext.2 [c], Option.bind_eq_bind, Option.bind_some,
      List.foldlM_cons, last]
    rfl

/-! ## Whole documents -/

/-- Text without a carriage return keeps its line ends. -/
theorem foldLineEnds_append {front : List Char} (h : '\r' ∉ front) (rest : List Char) :
    foldLineEnds (front ++ rest) = front ++ foldLineEnds rest := by
  induction front with
  | nil => rfl
  | cons c front ih =>
    rw [List.mem_cons, not_or] at h
    rw [List.cons_append, foldLineEnds, ih h.2]
    · rfl
    · exact fun _ hc _ => h.1 hc.symm

theorem dropMark_eq_self {chars : List Char} (h : '\uFEFF' ∉ chars) : dropMark chars = chars := by
  unfold dropMark
  split
  · exact absurd List.mem_cons_self h
  · rfl

/-- Pieces that are read one after another from the beginning make the tokens of a document. -/
theorem ofDocument?_of_reads {chars : List Char} {tokens : List Token}
    (h : Reads [] (foldLineEnds (dropMark chars)) tokens.reverse) :
    ofDocument? chars = some tokens := by
  obtain ⟨state, read, hstate⟩ := h _ (hasRead_between [])
  simp only [ofDocument?, read, hstate.finish_eq, Option.bind_eq_bind, Option.bind_some,
    Option.pure_def, List.reverse_reverse]

end Aead.Toml.Token
