import AccessController.Assembler
import AccessController.Proofs.Assembler.Line
import AccessController.Proofs.Text.Lines

/-!
# Listings

A listing is a text of a program as a person may write it: one instruction on a line, in
hexadecimal digits or by its mnemonic and its fields, with white space, comments, empty lines and
either kind of line end wherever they are allowed.  Every program has listings, in any choice of
spellings for its words, and each of them is read back as the program (`parse_listing`).
-/

namespace AccessController

namespace Assembler

/-- White space inside a line. -/
def Space (text : List Char) : Prop := ∀ char ∈ text, Text.isBlank char = true ∧ char ≠ '\n'

instance (text : List Char) : Decidable (Space text) := List.decidableBAll _ text

/-- White space between two tokens. -/
structure Gap (text : List Char) : Prop where
  ne_nil : text ≠ []
  space : Space text

/-- A comment up to the end of its line, or nothing. -/
structure Comment (text : List Char) : Prop where
  unbroken : '\n' ∉ text
  marked : ∀ char ∈ text.head?, char = '#'

/-- Tokens in a row, with white space between them. -/
inductive Joined : List (List Char) → List Char → Prop where
  | last {token : List Char} : Joined [token] token
  | token {token gap text : List Char} {tokens : List (List Char)} :
      Gap gap → Joined tokens text → Joined (token :: tokens) (token ++ gap ++ text)

/-- The texts of an instruction word: its hexadecimal digits behind `0x`, with underscores
anywhere among them, or the mnemonic of its opcode and its line, place and address. -/
inductive Spelling (word : Word) : List Char → Prop where
  | raw {digits : List Char} :
      Number.Digits 16 (digits.filter (· != '_')) word.toNat → Spelling word ('0' :: 'x' :: digits)
  | named {opcode : Opcode} {head line place address text : List Char} :
      (Instruction.ofWord word).opcode = opcode.code →
      Text.SameLetters head opcode.mnemonic.toList →
      Number.Numeral line (Instruction.ofWord word).line.toNat →
      Number.Numeral place (Instruction.ofWord word).place.toNat →
      Number.Numeral address (Instruction.ofWord word).address.toNat →
      Joined [head, line, place, address] text → Spelling word text

/-- A line without its end, and the word on it if there is one. -/
inductive Row : List Char → Option Word → Prop where
  | plain {space comment : List Char} :
      Space space → Comment comment → Row (space ++ comment) none
  | word {word : Word} {front text behind comment : List Char} :
      Space front → Spelling word text → Space behind → Comment comment →
      Row (front ++ text ++ behind ++ comment) (some word)

/-- A text of lines, and the words on them. The last line may stand without an end. -/
inductive Listing : List Char → List Word → Prop where
  | nil : Listing [] []
  | last {row : List Char} {word : Option Word} : Row row word → Listing row word.toList
  | line {row ending rest : List Char} {word : Option Word} {words : List Word} :
      Row row word → ending = ['\n'] ∨ ending = ['\r', '\n'] → Listing rest words →
      Listing (row ++ ending ++ rest) (word.toList ++ words)

/-! ## Plain characters -/

/-- A character that is neither blank nor the start of a comment. -/
def Plain (char : Char) : Prop := Text.isBlank char = false ∧ char ≠ '#'

instance (char : Char) : Decidable (Plain char) := inferInstanceAs (Decidable (_ ∧ _))

theorem plain_digitChar : ∀ digit < 16, Plain digit.digitChar ∧ Plain digit.digitChar.toUpper := by
  decide +kernel

theorem plain_of_isDigit {char : Char} {base digit : Nat} (small : base ≤ 16)
    (isDigit : Number.IsDigit base char digit) : Plain char := by
  obtain ⟨narrow, rfl | rfl⟩ := isDigit
  · exact (plain_digitChar digit (by omega)).1
  · exact (plain_digitChar digit (by omega)).2

theorem plain_of_unsigned {text : List Char} {base value : Nat} (small : base ≤ 16)
    (unsigned : Number.Unsigned base text value) : ∀ char ∈ text, Plain char := by
  have plain {digits : List Char} (all : Number.Digits base digits value) :
      ∀ char ∈ digits, Plain char := by
    intro char member
    obtain ⟨_, isDigit⟩ := all.exists_isDigit char member
    exact plain_of_isDigit small isDigit
  rcases unsigned with digits | ⟨_, rfl, digits⟩
  · exact plain digits
  · exact List.forall_mem_cons.2 ⟨by decide, plain digits⟩

theorem plain_of_written {text : List Char} {value : Nat} (written : Number.Written text value) :
    ∀ char ∈ text, Plain char := by
  cases written with
  | decimal unsigned => exact plain_of_unsigned (by decide) unsigned
  | hexadecimal either unsigned =>
    refine List.forall_mem_cons.2 ⟨by decide, List.forall_mem_cons.2 ⟨?_, ?_⟩⟩
    · rcases either with rfl | rfl <;> decide
    · exact plain_of_unsigned (by decide) unsigned

theorem plain_of_numeral {token : List Char} {value : Nat} (numeral : Number.Numeral token value) :
    ∀ char ∈ token, Plain char := by
  intro char member
  by_cases under : char = '_'
  · subst under
    decide
  · exact plain_of_written numeral.1 char (List.mem_filter.2 ⟨member, bne_iff_ne.2 under⟩)

theorem toUpper_of_not_plain {char : Char} (strange : ¬ Plain char) : char.toUpper = char := by
  refine dif_neg fun letter => strange ?_
  obtain ⟨low, high⟩ : 97 ≤ char.toNat ∧ char.toNat ≤ 122 := letter
  constructor
  · rw [Bool.eq_false_iff]
    simp only [Text.isBlank, ne_eq, Bool.or_eq_true, Bool.and_eq_true, decide_eq_true_eq,
      beq_iff_eq]
    omega
  · rintro rfl
    exact absurd low (by decide)

theorem plain_mnemonic (opcode : Opcode) : ∀ char ∈ opcode.mnemonic.toList, Plain char := by
  have all : opcode.mnemonic.toList.all fun char => decide (Plain char) := by
    rcases opcode with _ | ⟨_ | _⟩ | _ | _ | _ | ⟨_ | _⟩ <;> decide +kernel
  exact fun char member => of_decide_eq_true (List.all_eq_true.1 all char member)

theorem plain_of_sameLetters {head : List Char} {opcode : Opcode}
    (same : Text.SameLetters head opcode.mnemonic.toList) : ∀ char ∈ head, Plain char := by
  intro char member
  by_contra strange
  have upper : char.toUpper ∈ opcode.mnemonic.toList := by
    rw [← opcode.map_toUpper_mnemonic, ← same]
    exact List.mem_map_of_mem member
  rw [toUpper_of_not_plain strange] at upper
  exact strange (plain_mnemonic opcode char upper)

/-! ## Spellings -/

/-- Plain characters, at least one of them. -/
structure Token (text : List Char) : Prop where
  ne_nil : text ≠ []
  plain : ∀ char ∈ text, Plain char

theorem token_of_numeral {token : List Char} {value : Nat}
    (numeral : Number.Numeral token value) : Token token := by
  refine ⟨?_, plain_of_numeral numeral⟩
  rintro rfl
  cases Number.read_eq_ok_iff.2 numeral

theorem token_of_sameLetters {head : List Char} {opcode : Opcode}
    (same : Text.SameLetters head opcode.mnemonic.toList) : Token head := by
  refine ⟨?_, plain_of_sameLetters same⟩
  rintro rfl
  have nameless : Opcode.ofMnemonic? (String.ofList []) = none := by decide +kernel
  cases nameless.symm.trans (Opcode.ofMnemonic?_eq_some_iff.2 same)

namespace Token

variable {token : List Char} (isToken : Token token)

include isToken

theorem solid : Text.Solid token :=
  ⟨isToken.ne_nil, fun char member => (isToken.plain char member).1⟩

theorem unbroken : '\n' ∉ token := fun member => absurd (isToken.plain _ member).1 (by decide)

theorem unmarked : '#' ∉ token := fun member => (isToken.plain _ member).2 rfl

end Token

namespace Space

variable {text : List Char} (space : Space text)

include space

theorem blank : ∀ char ∈ text, Text.isBlank char = true := fun char member => (space char member).1

theorem unbroken : '\n' ∉ text := fun member => (space _ member).2 rfl

theorem unmarked : '#' ∉ text := fun member => absurd (space _ member).1 (by decide)

end Space

namespace Joined

variable {tokens : List (List Char)} {text : List Char}

theorem words_eq (joined : Joined tokens text) (all : ∀ token ∈ tokens, Token token) :
    Text.words text = tokens := by
  induction joined with
  | last => exact Text.words_solid (all _ List.mem_cons_self).solid
  | @token token gap text tokens between _ ih =>
    obtain ⟨first, others⟩ := List.forall_mem_cons.1 all
    obtain ⟨char, more, rfl⟩ := List.exists_cons_of_ne_nil between.ne_nil
    obtain ⟨blank, blanks⟩ := List.forall_mem_cons.1 between.space.blank
    rw [List.append_assoc, List.cons_append, Text.words_append_blank blank,
      Text.words_solid first.solid, Text.words_blanks_append blanks, ih others]
    rfl

theorem notMem (joined : Joined tokens text) (all : ∀ token ∈ tokens, Token token) :
    '\n' ∉ text ∧ '#' ∉ text := by
  induction joined with
  | last => exact ⟨(all _ List.mem_cons_self).unbroken, (all _ List.mem_cons_self).unmarked⟩
  | token between _ ih =>
    obtain ⟨first, others⟩ := List.forall_mem_cons.1 all
    simp only [List.mem_append, not_or]
    exact ⟨⟨⟨first.unbroken, between.space.unbroken⟩, (ih others).1⟩,
      ⟨first.unmarked, between.space.unmarked⟩, (ih others).2⟩

end Joined

theorem Spelling.exists_tokens {word : Word} {text : List Char} (spelling : Spelling word text) :
    ∃ tokens, Joined tokens text ∧ (∀ token ∈ tokens, Token token) ∧ Spells tokens word := by
  cases spelling with
  | @raw digits written =>
    have numeral : Number.Numeral ('0' :: 'x' :: digits) word.toNat :=
      ⟨.hexadecimal (.inl rfl) (.inl written), word.isLt⟩
    exact ⟨_, .last, List.forall_mem_singleton.2 (token_of_numeral numeral),
      .raw ⟨'0', rfl, rfl⟩ numeral⟩
  | named code letters line place address joined =>
    refine ⟨_, joined, ?_, .named letters (.cons line (.cons place (.cons address .nil))) ?_⟩
    · simp only [List.forall_mem_cons, List.not_mem_nil, false_imp_iff, implies_true, and_true]
      exact ⟨token_of_sameLetters letters, token_of_numeral line, token_of_numeral place,
        token_of_numeral address⟩
    · exact ⟨Nat.le_refl 3, Nat.le_of_lt_succ (BitVec.isLt _), Nat.le_of_lt_succ (BitVec.isLt _),
        Nat.le_of_lt_succ (BitVec.isLt _), code, rfl, rfl, rfl⟩

/-! ## Rows -/

theorem Comment.uncommented {comment part : List Char} (isComment : Comment comment)
    (unmarked : '#' ∉ part) : Uncommented (part ++ comment) part :=
  ⟨unmarked, comment, rfl, isComment.marked⟩

namespace Row

variable {row : List Char} {word : Option Word}

theorem unbroken (isRow : Row row word) : '\n' ∉ row := by
  cases isRow with
  | plain space comment =>
    rw [List.mem_append, not_or]
    exact ⟨space.unbroken, comment.unbroken⟩
  | word front spelling behind comment =>
    obtain ⟨_, joined, all, -⟩ := spelling.exists_tokens
    simp only [List.mem_append, not_or]
    exact ⟨⟨⟨front.unbroken, (joined.notMem all).1⟩, behind.unbroken⟩, comment.unbroken⟩

/-- A row is assembled to the word on it. -/
theorem assembleLine_eq (isRow : Row row word) : assembleLine row = .ok word := by
  cases isRow with
  | plain space comment =>
    refine assembleLine_eq_none_iff.2 ?_
    rw [(comment.uncommented space.unmarked).code_eq]
    exact space.blank
  | @word word front text behind comment before spelling after isComment =>
    obtain ⟨tokens, joined, all, spells⟩ := spelling.exists_tokens
    have unmarked : '#' ∉ front ++ text ++ behind := by
      simp only [List.mem_append, not_or]
      exact ⟨⟨before.unmarked, (joined.notMem all).2⟩, after.unmarked⟩
    rw [assembleLine, (isComment.uncommented unmarked).code_eq,
      Text.words_append_blanks after.blank, Text.words_blanks_append before.blank,
      joined.words_eq all]
    exact assembleTokens_eq_some_iff.2 spells

end Row

/-- A carriage return at the end of a line is white space or part of its comment. -/
theorem assembleLine_withoutReturn (line : List Char) :
    assembleLine (Text.withoutReturn line) = assembleLine line := by
  rcases Text.withoutReturn_cases line with same | ended
  · rw [same]
  · generalize Text.withoutReturn line = front at ended
    subst ended
    obtain ⟨unmarked, comment, cut, marked⟩ := uncommented_code front
    cases comment with
    | nil =>
      have longer : Uncommented (front ++ ['\r']) (code front ++ ['\r']) := by
        refine ⟨?_, [], ?_, nofun⟩
        · rw [List.mem_append, not_or]
          exact ⟨unmarked, by decide⟩
        · rw [List.append_nil]
          exact congrArg (· ++ ['\r']) (cut.trans (List.append_nil _))
      have blank : ∀ char ∈ ['\r'], Text.isBlank char = true := List.forall_mem_singleton.2 rfl
      rw [assembleLine, assembleLine, longer.code_eq, Text.words_append_blanks blank]
    | cons mark more =>
      have same : Uncommented (front ++ ['\r']) (code front) := by
        refine ⟨unmarked, mark :: more ++ ['\r'], ?_, marked⟩
        rw [← List.append_assoc, ← cut]
      rw [assembleLine, assembleLine, same.code_eq]

end Assembler

namespace Program

open Assembler

theorem assembleLines_cons {line : List Char} {word : Option Word}
    (assembled : assembleLine line = .ok word) (number : Nat) (rest : List (List Char)) :
    assembleLines number (line :: rest) =
      (assembleLines (number + 1) rest).map (word.toList ++ ·) := by
  rw [assembleLines, assembled]
  cases word with
  | none => cases assembleLines (number + 1) rest <;> rfl
  | some word => rfl

theorem assembleLines_of_listing {text : List Char} {words : List Word}
    (listing : Listing text words) (number : Nat) :
    assembleLines number (Text.lines text) = .ok words := by
  induction listing generalizing number with
  | nil => rfl
  | @last row word isRow =>
    cases row with
    | nil =>
      obtain rfl : none = word := Except.ok.inj isRow.assembleLine_eq
      rfl
    | cons char more =>
      rw [Text.lines_of_notMem isRow.unbroken (List.cons_ne_nil char more),
        assembleLines_cons isRow.assembleLine_eq]
      exact congrArg Except.ok (List.append_nil _)
  | @line row ending rest word words isRow ended _ ih =>
    rcases ended with rfl | rfl
    · have assembled := isRow.assembleLine_eq
      rw [← assembleLine_withoutReturn] at assembled
      rw [List.append_assoc, List.singleton_append, Text.lines_feed isRow.unbroken,
        assembleLines_cons assembled, ih]
      rfl
    · rw [List.append_assoc, List.cons_append, List.singleton_append,
        Text.lines_returnFeed isRow.unbroken, assembleLines_cons isRow.assembleLine_eq, ih]
      rfl

end Program

namespace Assembler

/-! ## Writing programs -/

/-- A word in its hexadecimal digits. -/
def rawText (word : Word) : List Char := '0' :: 'x' :: Nat.toDigits 16 word.toNat

/-- A word by the mnemonic of its opcode, its fields in decimal digits. -/
def namedText (opcode : Opcode) (word : Word) : List Char :=
  let fields := Instruction.ofWord word
  opcode.mnemonic.toList ++ [' '] ++
    (Nat.toDigits 10 fields.line.toNat ++ [' '] ++
      (Nat.toDigits 10 fields.place.toNat ++ [' '] ++ Nat.toDigits 10 fields.address.toNat))

theorem spelling_rawText (word : Word) : Spelling word (rawText word) := by
  have digits := Number.digits_toDigits (by decide : 1 < 16) word.toNat
  refine .raw ?_
  rw [Number.filter_digits (by decide) digits]
  exact digits

theorem spelling_namedText {opcode : Opcode} {word : Word}
    (code : (Instruction.ofWord word).opcode = opcode.code) :
    Spelling word (namedText opcode word) := by
  have blank : Gap [' '] := ⟨List.cons_ne_nil _ _, by decide⟩
  have numeral {width : Nat} (narrow : width ≤ 32) (field : BitVec width) :
      Number.Numeral (Nat.toDigits 10 field.toNat) field.toNat :=
    Number.numeral_toDigits
      (Nat.lt_of_lt_of_le field.isLt (Nat.pow_le_pow_right (by decide) narrow))
  exact .named code rfl (numeral (by decide) _) (numeral (by decide) _) (numeral (by decide) _)
    (.token blank (.token blank (.token blank .last)))

theorem listing_of_spellings {words : List Word} {texts : List (List Char)}
    (spellings : List.Forall₂ Spelling words texts) :
    Listing (texts.flatMap (· ++ ['\n'])) words := by
  induction spellings with
  | nil => exact .nil
  | @cons word text words texts spelling _ ih =>
    have row : Row text (some word) := by
      have alone : Row ([] ++ text ++ [] ++ []) (some word) :=
        .word (by decide) spelling (by decide) ⟨List.not_mem_nil, nofun⟩
      simpa using alone
    exact .line row (.inl rfl) ih

/-- Some words can be written down, and are read back from every listing of them. -/
structure Legible (words : List Word) : Prop where
  raw : ∀ word ∈ words, Spelling word (rawText word)
  named : ∀ word ∈ words, ∀ opcode : Opcode, (Instruction.ofWord word).opcode = opcode.code →
    Spelling word (namedText opcode word)
  listing : ∀ texts, List.Forall₂ Spelling words texts →
    Listing (texts.flatMap (· ++ ['\n'])) words
  parse_eq : ∀ text, Listing text words → Program.parse (String.ofList text) = .ok ⟨words⟩

/-- Every word has a spelling in hexadecimal digits and, if its opcode is an instruction, one with
its mnemonic. Spellings of some words, one on each line, are a listing of these words, and every
listing of them is read back as the program that they are. -/
theorem parse_listing (words : List Word) : Legible words where
  raw word _ := spelling_rawText word
  named _ _ _ code := spelling_namedText code
  listing _ spellings := listing_of_spellings spellings
  parse_eq text listing := by
    rw [Program.parse, String.toList_ofList, Program.assembleLines_of_listing listing]
    rfl

/-- Two words in the middle of comments, empty lines and both kinds of line ends. -/
theorem parse_listing_decorated :
    let text := "# start-up\r\n\n\tloadPC 1 0x7_f\t+80 # whole line\r\n  0x0_00F # unknown".toList
    let words : List Word := [0x00503fc5, 0xf]
    Listing text words ∧ Program.parse (String.ofList text) = .ok ⟨words⟩ := by
  intro text words
  have blank : Gap [' '] := ⟨List.cons_ne_nil _ _, by decide⟩
  have tab : Gap ['\t'] := ⟨List.cons_ne_nil _ _, by decide⟩
  have numeral {token : List Char} {value : Nat} (read : Number.read token = .ok value) :
      Number.Numeral token value := Number.read_eq_ok_iff.1 read
  have letters :
      Text.SameLetters "loadPC".toList (Opcode.transfer .loadConfPe).mnemonic.toList := by
    unfold Text.SameLetters
    decide +kernel
  have joined : Joined ["loadPC".toList, "1".toList, "0x7_f".toList, "+80".toList] _ :=
    .token blank (.token blank (.token tab .last))
  have load : Spelling 0x00503fc5 _ :=
    .named rfl letters (numeral (by decide +kernel)) (numeral (by decide +kernel))
      (numeral (by decide +kernel)) joined
  have digits : Number.Digits 16 ("0_00F".toList.filter (· != '_')) 15 :=
    ((Number.readDigits_zero_eq_ok_iff (by decide) (by decide) (by decide : 0 < Number.bound)
      (by decide +kernel)).1 (by decide +kernel)).1
  have comment {text : List Char} (unbroken : '\n' ∉ text) : Comment ('#' :: text) := by
    refine ⟨?_, ?_⟩
    · rw [List.mem_cons, not_or]
      exact ⟨by decide, unbroken⟩
    · rintro _ ⟨⟩
      rfl
  have empty : Row ([] ++ []) none := .plain (by decide) ⟨List.not_mem_nil, nofun⟩
  have title : Row ([] ++ '#' :: " start-up".toList) none :=
    .plain (by decide) (comment (by decide +kernel))
  have first : Row (['\t'] ++ _ ++ [' '] ++ '#' :: " whole line".toList) (some 0x00503fc5) :=
    .word (by decide) load (by decide) (comment (by decide +kernel))
  have second : Row ([' ', ' '] ++ _ ++ [' '] ++ '#' :: " unknown".toList) (some 0xf) :=
    .word (by decide) (.raw digits) (by decide) (comment (by decide +kernel))
  have listing : Listing text words :=
    .line title (.inr rfl) (.line empty (.inl rfl) (.line first (.inr rfl) (.last second)))
  exact ⟨listing, (parse_listing words).parse_eq text listing⟩

end Assembler

end AccessController
