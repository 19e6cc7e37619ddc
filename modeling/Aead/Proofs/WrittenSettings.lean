import Aead.Config.Reader
import Aead.Proofs.TokenReading

/-!
# Settings as they are written

A document gives settings on lines of their own, each as a name, an equals sign and a value. Here is
what may be written: truth values as words, text between double quotes, and arrays of such text in
brackets, with blanks between any two of these and lines that end either way. Such a document is
read as the settings that it was written for, in their order.

Results:

* `Config.DocumentWritten`: the texts that may be written for settings with their values.
* `Config.ValueWritten.exists_tokens`, `Config.LineWritten.exists_tokens`: what is written for a
  value, or on a line, is read back whatever follows it.
* `Config.DocumentWritten.ofText?_eq`: a document is read back.
-/

namespace Aead.Config

open Toml

/-! ## Settings -/

/-- The settings that a document can give. -/
inductive Setting where
  | namePrefix
  | exportPrecompute
  | exportConstants
  | allowSoftwareAes
  | algorithms
  deriving DecidableEq

/-- The name of a setting in documents. -/
def Setting.name : Setting → String
  | namePrefix => "prefix"
  | exportPrecompute => "export_precompute"
  | exportConstants => "export_constants"
  | allowSoftwareAes => "allow_software_aes"
  | algorithms => "algorithms"

/-- A value that is given for a setting. -/
inductive Given where
  | text (s : String)
  | bool (b : Bool)
  | texts (names : List String)
  deriving DecidableEq

/-- The value in a document. -/
def Given.value : Given → Value
  | text s => .text s
  | bool b => .bool b
  | texts names => .array (names.map .text)

/-! ## What is written -/

/-- Blanks inside a line. -/
def IsGap (chars : List Char) : Prop :=
  ∀ c ∈ chars, c = ' ' ∨ c = '\t'

/-- Text of printable ASCII characters, without quotes and backslashes, between double quotes. -/
inductive TextWritten : String → List Char → Prop
  | quoted {s : String}
      (printable : ∀ c ∈ s.toList, ' ' ≤ c ∧ c ≤ '~' ∧ c ≠ '"' ∧ c ≠ '\\') :
      TextWritten s ('"' :: (s.toList ++ ['"']))

/-- Texts with commas between them; another comma may stand after the last one. -/
inductive ItemsWritten : List String → List Char → Prop
  | none : ItemsWritten [] []
  | last {before chars : List Char} {s : String} (hbefore : IsGap before)
      (text : TextWritten s chars) : ItemsWritten [s] (before ++ chars)
  | more {before chars after rest : List Char} {s : String} {names : List String}
      (hbefore : IsGap before) (text : TextWritten s chars) (hafter : IsGap after)
      (others : ItemsWritten names rest) :
      ItemsWritten (s :: names) (before ++ chars ++ after ++ ',' :: rest)

/-- A value. -/
inductive ValueWritten : Given → List Char → Prop
  | bool (b : Bool) : ValueWritten (.bool b) (toString b).toList
  | text {s : String} {chars : List Char} (text : TextWritten s chars) :
      ValueWritten (.text s) chars
  | texts {names : List String} {chars last : List Char} (items : ItemsWritten names chars)
      (hlast : IsGap last) : ValueWritten (.texts names) ('[' :: (chars ++ last ++ [']']))

/-- A line without its end. -/
inductive LineWritten : Setting × Given → List Char → Prop
  | entry {setting : Setting} {given : Given} {value indent before after last : List Char}
      (hindent : IsGap indent) (hbefore : IsGap before) (hafter : IsGap after)
      (written : ValueWritten given value) (hlast : IsGap last) :
      LineWritten (setting, given)
        (indent ++ setting.name.toList ++ before ++ '=' :: (after ++ value ++ last))

/-- Lines, of which the last one need not be ended. -/
inductive DocumentWritten : List (Setting × Given) → List Char → Prop
  | empty : DocumentWritten [] []
  | last {entry : Setting × Given} {line : List Char} (written : LineWritten entry line) :
      DocumentWritten [entry] line
  | more {entry : Setting × Given} {entries : List (Setting × Given)}
      {line lineEnd rest : List Char}
      (written : LineWritten entry line) (ended : lineEnd = ['\n'] ∨ lineEnd = ['\r', '\n'])
      (others : DocumentWritten entries rest) :
      DocumentWritten (entry :: entries) (line ++ lineEnd ++ rest)

/-! ## Blanks -/

open Token (Reads Follows Fresh Ready Closed gap)
open Document (skipBlank skipLines endLine? valueWith? itemsWith? value? entry? linesFrom?)

theorem IsGap.isBlankChar {chars : List Char} (h : IsGap chars) :
    ∀ c ∈ chars, Token.isBlankChar c := by
  intro c hc
  rcases h c hc with rfl | rfl <;> rfl

theorem skipBlank_gap (blanks : List Char) (tokens : List Token) :
    skipBlank (gap blanks ++ tokens) = skipBlank tokens := by
  unfold gap
  split_ifs <;> rfl

theorem skipLines_gap (blanks : List Char) (tokens : List Token) :
    skipLines (gap blanks ++ tokens) = skipLines tokens := by
  unfold gap
  split_ifs <;> rfl

theorem endLine?_gap (blanks : List Char) (tokens : List Token) :
    endLine? (gap blanks ++ tokens) = endLine? tokens := by
  unfold endLine?
  rw [skipBlank_gap]

theorem reverse_gap (blanks : List Char) : (gap blanks).reverse = gap blanks := by
  unfold gap
  split_ifs <;> rfl

/-- A mark may follow a word after blanks. -/
theorem reads_gap_mark {done : List Token} (closed : Closed done) {blanks : List Char}
    (hblanks : IsGap blanks) {c : Char} {mark : Token} (hbreak : Token.isBreak c)
    (not_blank : Token.isBlankChar c = false)
    (begins : ∀ done, Token.start done c = some (mark :: done, .between)) :
    Reads done (blanks ++ [c]) (mark :: (gap blanks ++ done)) :=
  (Token.reads_gap closed hblanks.isBlankChar).append <|
    Token.reads_mark ((closed.follows hbreak).gap not_blank blanks) begins

/-! ## Values -/

/-- Text is one token. -/
theorem TextWritten.reads {s : String} {chars : List Char} (h : TextWritten s chars)
    {done : List Token} (ready : Ready done) :
    Reads done chars (.quoted s.toList false :: done) := by
  cases h with
  | quoted printable =>
    refine Token.reads_text (ready '"' rfl) fun c hc => ?_
    obtain ⟨low, high, ne_quote, ne_backslash⟩ := printable c hc
    have ne_delete : c ≠ '\x7f' := by
      rintro rfl
      exact absurd high (by decide)
    refine ⟨?_, ne_quote, ne_backslash⟩
    simp [Token.isTextChar, Token.isCommentChar, low, ne_delete]

/-- Text in an array is an item; a comma or the end of the array has to follow. -/
theorem itemsWith?_text (fuel : Nat) (items : List Value) (before : List Char) (s : String)
    (tokens : List Token) :
    itemsWith? (fuel + 2) items (gap before ++ .quoted s.toList false :: tokens) =
      match skipLines tokens with
      | .comma :: rest => itemsWith? (fuel + 1) (items ++ [.text s]) rest
      | .rightBracket :: rest => some (.array (items ++ [.text s]), rest)
      | _ => none := by
  have item :
      valueWith? (fuel + 1) (.quoted s.toList false :: tokens) = some (.text s, tokens) := by
    rw [valueWith?, String.ofList_toList]
  rw [itemsWith?, skipLines_gap]
  change (valueWith? (fuel + 1) (.quoted s.toList false :: tokens) >>= _) = _
  rw [item]
  rfl

/-- What is written for items is read back up to the end of the array. -/
theorem ItemsWritten.exists_tokens {names : List String} {chars : List Char}
    (h : ItemsWritten names chars) :
    ∃ tokens : List Token,
      (∀ done, Fresh done →
        Reads done chars (tokens.reverse ++ done) ∧ Closed (tokens.reverse ++ done)) ∧
      names.length ≤ tokens.length ∧
      ∀ fuel items last rest, names.length < fuel →
        itemsWith? fuel items (tokens ++ (gap last ++ .rightBracket :: rest)) =
          some (.array (items ++ names.map .text), rest) := by
  induction h with
  | none =>
    refine ⟨[], fun done fresh => ⟨Reads.refl done, fresh.closed⟩, Nat.le_refl 0, ?_⟩
    intro fuel items last rest hfuel
    obtain ⟨fuel, rfl⟩ : ∃ f, fuel = f + 1 := Nat.exists_eq_add_of_le' hfuel
    rw [List.nil_append, itemsWith?, skipLines_gap, List.map_nil, List.append_nil]
    rfl
  | @last before chars s hbefore text =>
    refine ⟨gap before ++ [.quoted s.toList false], fun done fresh => ?_, by simp, ?_⟩
    · rw [List.reverse_append, List.reverse_singleton, reverse_gap]
      exact ⟨(Token.reads_gap fresh.closed hbefore.isBlankChar).append
        (text.reads (fresh.ready_gap before)), Token.closed_cons rfl _⟩
    · intro fuel items last rest hfuel
      obtain ⟨fuel, rfl⟩ : ∃ f, fuel = f + 2 := Nat.exists_eq_add_of_le' hfuel
      rw [List.append_assoc, List.singleton_append, itemsWith?_text, skipLines_gap]
      rfl
  | @more before chars after rest s names hbefore text hafter others ih =>
    obtain ⟨tokens, reads, length, parse⟩ := ih
    refine ⟨gap before ++ .quoted s.toList false :: (gap after ++ .comma :: tokens),
      fun done fresh => ?_, ?_, ?_⟩
    · let closed := Token.quoted s.toList false :: (gap before ++ done)
      have item : Reads done (before ++ chars) closed :=
        (Token.reads_gap fresh.closed hbefore.isBlankChar).append
          (text.reads (fresh.ready_gap before))
      have comma : Reads closed (after ++ [',']) (.comma :: (gap after ++ closed)) :=
        reads_gap_mark (Token.closed_cons rfl _) hafter rfl rfl fun _ => rfl
      obtain ⟨later, ended⟩ := reads _ (@Token.fresh_cons .comma rfl (gap after ++ closed))
      have order : before ++ chars ++ after ++ ',' :: rest =
          (before ++ chars) ++ ((after ++ [',']) ++ rest) := by simp
      have order' :
          (gap before ++ .quoted s.toList false :: (gap after ++ .comma :: tokens)).reverse ++
              done =
            tokens.reverse ++ .comma :: (gap after ++ closed) := by
        simp [closed, reverse_gap]
      rw [order, order']
      exact ⟨item.append (comma.append later), ended⟩
    · simp only [List.length_cons, List.length_append]
      omega
    · intro fuel items last rest hfuel
      rw [List.length_cons] at hfuel
      obtain ⟨fuel, rfl⟩ : ∃ f, fuel = f + 2 := Nat.exists_eq_add_of_le' (by omega)
      rw [List.append_assoc, List.cons_append, itemsWith?_text, List.append_assoc, skipLines_gap]
      change itemsWith? (fuel + 1) (items ++ [.text s]) (tokens ++ _) = _
      rw [parse _ _ _ _ (by omega), List.append_assoc, List.map_cons, List.singleton_append]

/-- What is written for a value is read back, whatever follows it. -/
theorem ValueWritten.exists_tokens {given : Given} {chars : List Char}
    (h : ValueWritten given chars) :
    ∃ tokens : List Token,
      (∀ done, Ready done →
        Reads done chars (tokens.reverse ++ done) ∧ Closed (tokens.reverse ++ done)) ∧
      ∀ rest, value? (skipBlank (tokens ++ rest)) = some (given.value, rest) := by
  cases h with
  | bool b =>
    refine ⟨[.bare (toString b).toList], fun done ready => ⟨?_, Token.closed_cons rfl done⟩, ?_⟩
    · cases b with
      | true => exact Token.reads_word (ready 't' rfl) (List.all_eq_true.1 rfl)
      | false => exact Token.reads_word (ready 'f' rfl) (List.all_eq_true.1 rfl)
    · cases b <;> exact fun rest => rfl
  | @text s _ text =>
    refine ⟨[.quoted s.toList false],
      fun done ready => ⟨text.reads ready, Token.closed_cons rfl done⟩, fun rest => ?_⟩
    change valueWith? _ (.quoted s.toList false :: rest) = _
    rw [valueWith?, String.ofList_toList]
    rfl
  | @texts names inner last items hlast =>
    obtain ⟨tokens, reads, length, parse⟩ := items.exists_tokens
    refine ⟨.leftBracket :: (tokens ++ (gap last ++ [.rightBracket])), fun done ready => ?_,
      fun rest => ?_⟩
    · have opened : Reads done ['['] (.leftBracket :: done) :=
        Token.reads_mark (ready '[' rfl) fun _ => rfl
      obtain ⟨inside, ended⟩ := reads _ (@Token.fresh_cons .leftBracket rfl done)
      have closed : Reads (tokens.reverse ++ .leftBracket :: done) (last ++ [']'])
          (.rightBracket :: (gap last ++ (tokens.reverse ++ .leftBracket :: done))) :=
        reads_gap_mark ended hlast rfl rfl fun _ => rfl
      have order : '[' :: (inner ++ last ++ [']']) = ['['] ++ (inner ++ (last ++ [']'])) := by simp
      have order' :
          (Token.leftBracket :: (tokens ++ (gap last ++ [.rightBracket]))).reverse ++ done =
          .rightBracket :: (gap last ++ (tokens.reverse ++ .leftBracket :: done)) := by
        simp [reverse_gap]
      rw [order, order']
      exact ⟨opened.append (inside.append closed), Token.closed_cons rfl _⟩
    · have order : tokens ++ (gap last ++ [.rightBracket]) ++ rest =
          tokens ++ (gap last ++ .rightBracket :: rest) := by simp
      have enough :
          names.length < 2 * (tokens ++ (gap last ++ .rightBracket :: rest)).length + 2 := by
        rw [List.length_append]
        omega
      rw [List.cons_append, order]
      exact parse _ [] last rest enough

/-! ## Lines -/

/-- The name of a setting is a bare word. -/
theorem Setting.reads_name (setting : Setting) {done : List Token} (ready : Ready done) :
    Reads done setting.name.toList (.bare setting.name.toList :: done) := by
  obtain ⟨c, word, hname, hword⟩ : ∃ c word, setting.name.toList = c :: word ∧
      ∀ c' ∈ c :: word, Token.isBareChar c' := by
    cases setting <;> exact ⟨_, _, rfl, List.all_eq_true.1 rfl⟩
  rw [hname]
  exact Token.reads_word
    (ready c (Token.isBlankChar_of_isBareChar (hword c List.mem_cons_self))) hword

/-- A bare name, an equals sign, a value and nothing else on the line are an entry. -/
theorem entry?_of_value {before : List Char} {tokens rest rest' : List Token} {value : Value}
    (name : String) (hvalue : value? (skipBlank tokens) = some (value, rest))
    (hend : endLine? rest = some rest') :
    entry? (.bare name.toList :: (gap before ++ .equals :: tokens)) =
      some (([name], value), rest') := by
  have later : Document.pathRest? (gap before ++ .equals :: tokens)
      (gap before ++ .equals :: tokens).length = some ([], .equals :: tokens) := by
    obtain ⟨fuel, hfuel⟩ : ∃ fuel, (gap before ++ .equals :: tokens).length = fuel + 1 :=
      Nat.exists_eq_succ_of_ne_zero (by simp)
    rw [hfuel, Document.pathRest?, skipBlank_gap]
    rfl
  have path : Document.path? (.bare name.toList :: (gap before ++ .equals :: tokens)) =
      some ([name], .equals :: tokens) := by
    unfold Document.path? Document.name?
    simp only [Option.bind_eq_bind, Option.bind_some, later, String.ofList_toList]
    rfl
  unfold entry?
  rw [path, Option.bind_eq_bind, Option.bind_some]
  change (value? (skipBlank tokens) >>= _) = _
  rw [hvalue]
  change (endLine? rest >>= _) = _
  rw [hend]
  rfl

/-- What is written on a line is added to the document, and the next line is read. -/
theorem LineWritten.exists_tokens {entry : Setting × Given} {line : List Char}
    (h : LineWritten entry line) :
    ∃ tokens : List Token,
      (∀ done, Fresh done →
        Reads done line (tokens.reverse ++ done) ∧ Follows (tokens.reverse ++ done) '\n') ∧
      tokens ≠ [] ∧
      ∀ fuel root ends rest, endLine? ends = some rest →
        linesFrom? (fuel + 1) ⟨root, []⟩ (tokens ++ ends) =
          linesFrom? fuel ⟨root ++ [(entry.1.name, entry.2.value)], []⟩ rest := by
  cases h with
  | @entry setting given value indent before after last hindent hbefore hafter written hlast =>
    obtain ⟨tokens, reads, parse⟩ := written.exists_tokens
    refine ⟨gap indent ++ .bare setting.name.toList ::
        (gap before ++ .equals :: (gap after ++ (tokens ++ gap last))),
      fun done fresh => ?_, by simp, fun fuel root ends rest hends => ?_⟩
    · have named : Reads done (indent ++ setting.name.toList)
          (.bare setting.name.toList :: (gap indent ++ done)) :=
        (Token.reads_gap fresh.closed hindent.isBlankChar).append
          (setting.reads_name (fresh.ready_gap indent))
      let upToName := Token.bare setting.name.toList :: (gap indent ++ done)
      have equals : Reads upToName (before ++ ['=']) (.equals :: (gap before ++ upToName)) :=
        reads_gap_mark (Token.closed_cons rfl _) hbefore rfl rfl fun _ => rfl
      let upToEquals := Token.equals :: (gap before ++ upToName)
      have fresh' : Fresh upToEquals := Token.fresh_cons rfl _
      have blanks : Reads upToEquals after (gap after ++ upToEquals) :=
        Token.reads_gap fresh'.closed hafter.isBlankChar
      obtain ⟨valued, ended⟩ := reads _ (fresh'.ready_gap after)
      have trailing := Token.reads_gap ended hlast.isBlankChar
      have order : indent ++ setting.name.toList ++ before ++ '=' :: (after ++ value ++ last) =
          (indent ++ setting.name.toList) ++ ((before ++ ['=']) ++ (after ++ (value ++ last))) := by
        simp
      have order' :
          (gap indent ++ .bare setting.name.toList ::
            (gap before ++ .equals :: (gap after ++ (tokens ++ gap last)))).reverse ++ done =
          gap last ++ (tokens.reverse ++ (gap after ++ upToEquals)) := by
        simp [reverse_gap, upToName, upToEquals]
      rw [order, order']
      exact ⟨named.append (equals.append (blanks.append (valued.append trailing))),
        (ended.follows rfl).gap rfl last⟩
    · have order :
          gap indent ++ .bare setting.name.toList ::
            (gap before ++ .equals :: (gap after ++ (tokens ++ gap last))) ++ ends =
          gap indent ++ .bare setting.name.toList ::
            (gap before ++ .equals :: (gap after ++ (tokens ++ (gap last ++ ends)))) := by
        simp
      have read : entry? (.bare setting.name.toList ::
          (gap before ++ .equals :: (gap after ++ (tokens ++ (gap last ++ ends))))) =
          some (([setting.name], given.value), rest) := by
        refine entry?_of_value setting.name ?_ ((endLine?_gap last ends).trans hends)
        rw [skipBlank_gap]
        exact parse _
      rw [order, linesFrom?, skipLines_gap]
      change entry? _ >>= _ = _
      rw [read]
      rfl

/-! ## Documents -/

/-- The characters of lines: a tab and printable ASCII. -/
def isLineChar (c : Char) : Bool :=
  c = '\t' || (' ' ≤ c && c ≤ '~')

theorem IsGap.isLineChar {chars : List Char} (h : IsGap chars) :
    ∀ c ∈ chars, isLineChar c := by
  intro c hc
  rcases h c hc with rfl | rfl <;> rfl

theorem TextWritten.isLineChar {s : String} {chars : List Char} (h : TextWritten s chars) :
    ∀ c ∈ chars, isLineChar c := by
  cases h with
  | quoted printable =>
    simp only [List.forall_mem_cons, List.forall_mem_append]
    refine ⟨rfl, fun c hc => ?_, rfl, List.forall_mem_nil _⟩
    obtain ⟨low, high, -⟩ := printable c hc
    simp [Config.isLineChar, low, high]

theorem ItemsWritten.isLineChar {names : List String} {chars : List Char}
    (h : ItemsWritten names chars) : ∀ c ∈ chars, isLineChar c := by
  induction h with
  | none => exact List.forall_mem_nil _
  | last hbefore text =>
    exact List.forall_mem_append.2 ⟨hbefore.isLineChar, text.isLineChar⟩
  | more hbefore text hafter others ih =>
    simp only [List.forall_mem_append, List.forall_mem_cons]
    exact ⟨⟨⟨hbefore.isLineChar, text.isLineChar⟩, hafter.isLineChar⟩, rfl, ih⟩

theorem ValueWritten.isLineChar {given : Given} {chars : List Char}
    (h : ValueWritten given chars) : ∀ c ∈ chars, isLineChar c := by
  cases h with
  | bool b => cases b <;> exact List.all_eq_true.1 rfl
  | text text => exact text.isLineChar
  | texts items hlast =>
    simp only [List.forall_mem_append, List.forall_mem_cons]
    exact ⟨rfl, ⟨items.isLineChar, hlast.isLineChar⟩, rfl, List.forall_mem_nil _⟩

theorem LineWritten.isLineChar {entry : Setting × Given} {line : List Char}
    (h : LineWritten entry line) : ∀ c ∈ line, isLineChar c := by
  cases h with
  | @entry setting _ _ _ _ _ _ hindent hbefore hafter written hlast =>
    have name : ∀ c ∈ setting.name.toList, Config.isLineChar c := by
      cases setting <;> exact List.all_eq_true.1 rfl
    simp only [List.forall_mem_append, List.forall_mem_cons]
    exact ⟨⟨⟨hindent.isLineChar, name⟩, hbefore.isLineChar⟩, rfl,
      ⟨hafter.isLineChar, written.isLineChar⟩, hlast.isLineChar⟩

/-- A line holds no carriage return, so it is not changed when line ends are folded. -/
theorem LineWritten.foldLineEnds_append {entry : Setting × Given} {line : List Char}
    (h : LineWritten entry line) (rest : List Char) :
    Token.foldLineEnds (line ++ rest) = line ++ Token.foldLineEnds rest :=
  Token.foldLineEnds_append (fun hc => absurd (h.isLineChar _ hc) (by decide)) rest

/-- A document is ASCII, and no byte order mark begins it. -/
theorem DocumentWritten.dropMark_eq {entries : List (Setting × Given)} {chars : List Char}
    (h : DocumentWritten entries chars) : Token.dropMark chars = chars := by
  refine Token.dropMark_eq_self ?_
  have not_mark {entry : Setting × Given} {line : List Char} (h : LineWritten entry line) :
      '\uFEFF' ∉ line :=
    fun hc => absurd (h.isLineChar _ hc) (by decide)
  induction h with
  | empty => exact List.not_mem_nil
  | last written => exact not_mark written
  | more written ended others ih =>
    simp only [List.mem_append, not_or]
    refine ⟨⟨not_mark written, ?_⟩, ih⟩
    rcases ended with rfl | rfl <;> decide

/-- The entries of a document, by name. -/
def tableOf (entries : List (Setting × Given)) : Table :=
  entries.map fun entry => (entry.1.name, entry.2.value)

/-- What is written for entries is read back. -/
theorem DocumentWritten.exists_tokens {entries : List (Setting × Given)} {chars : List Char}
    (h : DocumentWritten entries chars) :
    ∃ tokens : List Token,
      (∀ done, Fresh done →
        Reads done (Token.foldLineEnds chars) (tokens.reverse ++ done)) ∧
      entries.length ≤ tokens.length ∧
      ∀ fuel root, entries.length < fuel →
        linesFrom? fuel ⟨root, []⟩ tokens = some ⟨root ++ tableOf entries, []⟩ := by
  induction h with
  | empty =>
    refine ⟨[], fun done fresh => Reads.refl done, Nat.le_refl 0, fun fuel root hfuel => ?_⟩
    obtain ⟨fuel, rfl⟩ : ∃ f, fuel = f + 1 := Nat.exists_eq_add_of_le' hfuel
    rw [tableOf, List.map_nil, List.append_nil]
    rfl
  | @last entry line written =>
    obtain ⟨tokens, reads, nonempty, parse⟩ := written.exists_tokens
    refine ⟨tokens, fun done fresh => ?_, List.length_pos_iff.2 nonempty, fun fuel root hfuel => ?_⟩
    · have unchanged : Token.foldLineEnds line = line := by
        have folded := written.foldLineEnds_append []
        rwa [List.append_nil, Token.foldLineEnds, List.append_nil] at folded
      rw [unchanged]
      exact (reads done fresh).1
    · obtain ⟨fuel, rfl⟩ : ∃ f, fuel = f + 2 := Nat.exists_eq_add_of_le' hfuel
      have added := parse (fuel + 1) root [] [] rfl
      rw [List.append_nil] at added
      rw [added]
      rfl
  | @more entry entries line lineEnd rest written ended others ih =>
    obtain ⟨tokens, reads, -, parse⟩ := written.exists_tokens
    obtain ⟨tokens', reads', length, parse'⟩ := ih
    refine ⟨tokens ++ .newline :: tokens', fun done fresh => ?_, ?_, fun fuel root hfuel => ?_⟩
    · have folded : Token.foldLineEnds (line ++ lineEnd ++ rest) =
          line ++ (['\n'] ++ Token.foldLineEnds rest) := by
        rw [List.append_assoc, written.foldLineEnds_append]
        rcases ended with rfl | rfl <;> rfl
      obtain ⟨read, follows⟩ := reads done fresh
      have newline : Reads (tokens.reverse ++ done) ['\n'] (.newline :: (tokens.reverse ++ done)) :=
        Token.reads_mark follows fun _ => rfl
      have later := reads' _ (@Token.fresh_cons .newline rfl (tokens.reverse ++ done))
      have order : (tokens ++ .newline :: tokens').reverse ++ done =
          tokens'.reverse ++ .newline :: (tokens.reverse ++ done) := by simp
      rw [folded, order]
      exact read.append (newline.append later)
    · simp only [List.length_cons, List.length_append]
      omega
    · rw [List.length_cons] at hfuel
      obtain ⟨fuel, rfl⟩ : ∃ f, fuel = f + 1 := Nat.exists_eq_add_of_le' (by omega)
      rw [parse fuel root (.newline :: tokens') tokens' rfl, parse' _ _ (by omega),
        List.append_assoc]
      rfl

/-- A document is read as the entries that it was written for. -/
theorem DocumentWritten.ofText?_eq {entries : List (Setting × Given)} {text : String}
    (h : DocumentWritten entries text.toList) :
    Document.ofText? text = some ⟨tableOf entries, []⟩ := by
  obtain ⟨tokens, reads, length, parse⟩ := h.exists_tokens
  have fresh : Fresh [] := by
    rintro _ ⟨⟩
  have read : Token.ofDocument? text.toList = some tokens := by
    refine Token.ofDocument?_of_reads ?_
    rw [h.dropMark_eq]
    simpa using reads [] fresh
  have document : Document.ofTokens? tokens = some ⟨tableOf entries, []⟩ :=
    parse (tokens.length + 1) [] (by omega)
  simp only [Document.ofText?, read, document, Option.bind_eq_bind, Option.bind_some]
  rfl

end Aead.Config
