import AccessController.Assembler
import AccessController.Proofs.Assembler.Number
import AccessController.Proofs.Outcome
import AccessController.Proofs.Text.Words

/-!
# The grammar of a line

A line of code is blank, or it spells an instruction word: as one numeral that starts with a
digit, or as a mnemonic, in any letter case, with up to three numerals behind it that fit the
fields of the word.  `Spells` says so of the tokens between the blanks.  The assembler accepts
exactly the lines of this grammar, each with its word, and it looks at nothing behind the first
`#` (`assembleLine_grammar`).
-/

namespace AccessController

/-- Equality of texts up to the case of ASCII letters. -/
def Text.SameLetters (left right : List Char) : Prop :=
  left.map Char.toUpper = right.map Char.toUpper

namespace Opcode

theorem map_toUpper_mnemonic (opcode : Opcode) :
    opcode.mnemonic.toList.map Char.toUpper = opcode.mnemonic.toList := by
  rcases opcode with _ | ⟨_ | _⟩ | _ | _ | _ | ⟨_ | _⟩ <;> decide +kernel

/-- No two opcodes share a mnemonic. -/
theorem find?_mnemonic (opcode : Opcode) :
    all.find? (fun other => other.mnemonic == opcode.mnemonic) = some opcode := by
  rcases opcode with _ | ⟨_ | _⟩ | _ | _ | _ | ⟨_ | _⟩ <;> decide +kernel

theorem ofMnemonic?_eq_some_iff {head : List Char} {opcode : Opcode} :
    ofMnemonic? (String.ofList head) = some opcode ↔
      Text.SameLetters head opcode.mnemonic.toList := by
  have upper_iff : (String.ofList head).map Char.toUpper = opcode.mnemonic ↔
      Text.SameLetters head opcode.mnemonic.toList := by
    rw [Text.SameLetters, map_toUpper_mnemonic, ← String.toList_inj, String.toList_map,
      String.toList_ofList]
  rw [← upper_iff, ofMnemonic?]
  constructor
  · intro found
    have same : (opcode.mnemonic == (String.ofList head).map Char.toUpper) = true :=
      @List.find?_some _ _ opcode _ found
    exact (beq_iff_eq.1 same).symm
  · intro upper
    rw [upper]
    exact find?_mnemonic opcode

end Opcode

namespace Assembler

/-- Fields of a word that hold an opcode and up to three numbers, each of which fits its field.
Numbers that are left out are zero. -/
structure Holds (word : Word) (opcode : Opcode) (values : List Nat) : Prop where
  few : values.length ≤ 3
  line_le : values.getD 0 0 ≤ 7
  place_le : values.getD 1 0 ≤ 127
  address_le : values.getD 2 0 ≤ 65535
  opcode : (Instruction.ofWord word).opcode = opcode.code
  line : (Instruction.ofWord word).line.toNat = values.getD 0 0
  place : (Instruction.ofWord word).place.toNat = values.getD 1 0
  address : (Instruction.ofWord word).address.toNat = values.getD 2 0

/-- Tokens that spell an instruction word. -/
inductive Spells : List (List Char) → Word → Prop where
  | raw {token : List Char} {word : Word} :
      (∃ char ∈ token.head?, char.isDigit = true) → Number.Numeral token word.toNat →
      Spells [token] word
  | named {head : List Char} {operands : List (List Char)} {opcode : Opcode} {values : List Nat}
      {word : Word} :
      Text.SameLetters head opcode.mnemonic.toList →
      List.Forall₂ Number.Numeral operands values → Holds word opcode values →
      Spells (head :: operands) word

/-! ## Operands -/

theorem number_eq_ok_iff {token : List Char} {value : Nat} :
    number token = .ok value ↔ Number.Numeral token value := by
  rw [← Number.read_eq_ok_iff, number]
  cases Number.read token with
  | error fault => exact iff_of_false nofun nofun
  | ok other => simp only [Except.mapError, Except.ok.injEq]

theorem mapM_number_eq_ok_iff {operands : List (List Char)} {values : List Nat} :
    operands.mapM number = .ok values ↔ List.Forall₂ Number.Numeral operands values := by
  induction operands generalizing values with
  | nil =>
    rw [List.mapM_nil, List.forall₂_nil_left_iff]
    exact ⟨fun same => (Except.ok.inj same).symm, fun same => same ▸ rfl⟩
  | cons token rest ih =>
    rw [List.mapM_cons, List.forall₂_cons_left_iff]
    simp only [bind_eq_ok_iff, number_eq_ok_iff, ih]
    constructor
    · rintro ⟨value, numeral, others, numerals, same⟩
      exact ⟨value, others, numeral, numerals, (Except.ok.inj same).symm⟩
    · rintro ⟨value, others, numeral, numerals, rfl⟩
      exact ⟨value, numeral, others, numerals, rfl⟩

/-! ## Fields -/

/-- An instruction is accepted if each of its operands fits its field. -/
theorem instruction_eq_ok_iff {opcode : Opcode} {line place address : Nat} {made : Instruction} :
    instruction opcode line place address = .ok made ↔
      line ≤ 7 ∧ place ≤ 127 ∧ address ≤ 65535 ∧
        made = .ofFields opcode.code.toNat line place address := by
  rw [instruction]
  split
  next wide => exact iff_of_false nofun fun fits => absurd fits.1 (by omega)
  split
  next wide => exact iff_of_false nofun fun fits => absurd fits.2.1 (by omega)
  split
  next wide => exact iff_of_false nofun fun fits => absurd fits.2.2.1 (by omega)
  next =>
    rw [Except.ok.injEq, eq_comm]
    exact ⟨fun same => ⟨by omega, by omega, by omega, same⟩, fun fits => fits.2.2.2⟩

theorem holds_iff {word : Word} {opcode : Opcode} {values : List Nat} :
    Holds word opcode values ↔ values.length ≤ 3 ∧ ∃ made,
      instruction opcode (values.getD 0 0) (values.getD 1 0) (values.getD 2 0) = .ok made ∧
        made.toWord = word := by
  constructor
  · intro holds
    refine ⟨holds.few, Instruction.ofWord word, ?_, Instruction.toWord_ofWord word⟩
    refine instruction_eq_ok_iff.2 ⟨holds.line_le, holds.place_le, holds.address_le, ?_⟩
    rw [← holds.line, ← holds.place, ← holds.address, ← holds.opcode, Instruction.ofFields]
    simp only [BitVec.ofNat_toNat, BitVec.setWidth_eq]
  · rintro ⟨few, made, accepted, rfl⟩
    obtain ⟨line, place, address, rfl⟩ := instruction_eq_ok_iff.1 accepted
    refine ⟨few, line, place, address, ?_, ?_, ?_, ?_⟩
    all_goals rw [Instruction.ofWord_toWord, Instruction.ofFields]
    · exact (BitVec.ofNat_toNat ..).trans (BitVec.setWidth_eq opcode.code)
    · exact Nat.mod_eq_of_lt (Nat.lt_succ_of_le line)
    · exact Nat.mod_eq_of_lt (Nat.lt_succ_of_le place)
    · exact Nat.mod_eq_of_lt (Nat.lt_succ_of_le address)

/-! ## Mnemonics -/

theorem assembleMnemonic_eq {head : List Char} {operands : List (List Char)} {opcode : Opcode}
    {values : List Nat} (named : Opcode.ofMnemonic? (String.ofList head) = some opcode)
    (numbers : operands.mapM number = .ok values) :
    assembleMnemonic head operands =
      if values.length ≤ 3 then
        instruction opcode (values.getD 0 0) (values.getD 1 0) (values.getD 2 0) >>= fun made =>
          .ok made.toWord
      else .error (.tooManyOperands (String.ofList head) values.length) := by
  simp only [assembleMnemonic, named, numbers]
  match values with
  | [] => rfl
  | [_] => rfl
  | [_, _] => rfl
  | [_, _, _] => rfl
  | first :: second :: third :: fourth :: rest =>
    rw [if_neg (by simp only [List.length_cons]; omega)]
    rfl

theorem assembleMnemonic_eq_ok_iff {head : List Char} {operands : List (List Char)} {word : Word} :
    assembleMnemonic head operands = .ok word ↔
      ∃ opcode values, Text.SameLetters head opcode.mnemonic.toList ∧
        List.Forall₂ Number.Numeral operands values ∧ Holds word opcode values := by
  simp only [← Opcode.ofMnemonic?_eq_some_iff, ← mapM_number_eq_ok_iff, holds_iff]
  cases named : Opcode.ofMnemonic? (String.ofList head) with
  | none =>
    rw [assembleMnemonic, named]
    refine iff_of_false nofun ?_
    rintro ⟨_, _, found, -⟩
    cases found
  | some opcode =>
    cases numbers : operands.mapM number with
    | error error =>
      simp only [assembleMnemonic, named, numbers]
      refine iff_of_false nofun ?_
      rintro ⟨_, _, -, found, -⟩
      cases found
    | ok values =>
      rw [assembleMnemonic_eq named numbers]
      constructor
      · intro assembled
        split at assembled
        next few =>
          obtain ⟨made, accepted, same⟩ := bind_eq_ok_iff.1 assembled
          exact ⟨opcode, values, rfl, rfl, few, made, accepted, Except.ok.inj same⟩
        next => cases assembled
      · rintro ⟨_, _, ⟨⟩, ⟨⟩, few, made, accepted, rfl⟩
        rw [if_pos few, accepted]
        rfl

/-! ## Tokens -/

theorem startsWithDigit_iff {token : List Char} :
    startsWithDigit token = true ↔ ∃ char ∈ token.head?, char.isDigit = true := by
  cases token with
  | nil => exact iff_of_false nofun (by rintro ⟨_, member, -⟩; cases member)
  | cons char rest =>
    simp only [startsWithDigit, List.head?_cons, Option.mem_some_iff, exists_eq_left', Char.isDigit,
      Bool.and_eq_true, decide_eq_true_iff]
    exact Iff.rfl

theorem startsWithDigit_mnemonic (opcode : Opcode) :
    startsWithDigit opcode.mnemonic.toList = false := by
  rcases opcode with _ | ⟨_ | _⟩ | _ | _ | _ | ⟨_ | _⟩ <;> decide +kernel

theorem startsWithDigit_map_toUpper {token : List Char} (digit : startsWithDigit token = true) :
    startsWithDigit (token.map Char.toUpper) = true := by
  cases token with
  | nil => cases digit
  | cons char rest =>
    obtain ⟨low, high⟩ : '0' ≤ char ∧ char ≤ '9' := of_decide_eq_true digit
    have stays : char.toUpper = char :=
      dif_neg fun letter => absurd (UInt32.le_trans letter.1 high) (by decide)
    rw [List.map_cons, stays]
    exact digit

/-- No line is both of a raw word and of a mnemonic. -/
theorem startsWithDigit_of_sameLetters {head : List Char} {opcode : Opcode}
    (same : Text.SameLetters head opcode.mnemonic.toList) : startsWithDigit head = false := by
  rw [Text.SameLetters, Opcode.map_toUpper_mnemonic] at same
  by_contra digit
  have upper := startsWithDigit_map_toUpper (Bool.eq_true_of_not_eq_false digit)
  rw [same, startsWithDigit_mnemonic] at upper
  cases upper

theorem assembleTokens_digit {head : List Char} (digit : startsWithDigit head = true)
    (operands : List (List Char)) :
    assembleTokens (head :: operands) =
      if operands = [] then (number head).map fun value => some (BitVec.ofNat 32 value)
      else .error .operandsOnRawWord := by
  cases operands with
  | nil => simp only [assembleTokens, if_pos digit, if_pos]
  | cons => rw [if_neg (List.cons_ne_nil _ _)]; simp only [assembleTokens, if_pos digit]

theorem assembleTokens_letter {head : List Char} (letter : startsWithDigit head = false)
    (operands : List (List Char)) :
    assembleTokens (head :: operands) = (assembleMnemonic head operands).map some := by
  cases operands <;> simp only [assembleTokens, letter, Bool.false_eq_true, if_false]

theorem assembleTokens_eq_none_iff {tokens : List (List Char)} :
    assembleTokens tokens = .ok none ↔ tokens = [] := by
  cases tokens with
  | nil => exact iff_of_true rfl rfl
  | cons head operands =>
    refine iff_of_false (fun assembled => ?_) (List.cons_ne_nil head operands)
    cases starts : startsWithDigit head with
    | false =>
      rw [assembleTokens_letter starts, map_eq_ok_iff] at assembled
      obtain ⟨_, -, absurd⟩ := assembled
      cases absurd
    | true =>
      rw [assembleTokens_digit starts] at assembled
      split at assembled
      next =>
        obtain ⟨_, -, absurd⟩ := map_eq_ok_iff.1 assembled
        cases absurd
      next => cases assembled

theorem assembleTokens_eq_some_iff {tokens : List (List Char)} {word : Word} :
    assembleTokens tokens = .ok (some word) ↔ Spells tokens word := by
  constructor
  · intro assembled
    cases tokens with
    | nil => cases assembled
    | cons head operands =>
      cases starts : startsWithDigit head with
      | false =>
        rw [assembleTokens_letter starts, map_eq_ok_iff] at assembled
        obtain ⟨_, assembled, ⟨⟩⟩ := assembled
        obtain ⟨opcode, values, same, numerals, holds⟩ := assembleMnemonic_eq_ok_iff.1 assembled
        exact .named same numerals holds
      | true =>
        rw [assembleTokens_digit starts] at assembled
        split at assembled
        next alone =>
          obtain ⟨value, read, ⟨⟩⟩ := map_eq_ok_iff.1 assembled
          have numeral := number_eq_ok_iff.1 read
          rw [alone]
          refine .raw (startsWithDigit_iff.1 starts) ?_
          rwa [BitVec.toNat_ofNat, Nat.mod_eq_of_lt numeral.2]
        next => cases assembled
  · rintro (⟨first, numeral⟩ | ⟨same, numerals, holds⟩)
    · rw [assembleTokens_digit (startsWithDigit_iff.2 first), if_pos rfl,
        number_eq_ok_iff.2 numeral]
      exact congrArg (fun word => Except.ok (some word)) (BitVec.ofNat_toNat ..)
    · rw [assembleTokens_letter (startsWithDigit_of_sameLetters same),
        assembleMnemonic_eq_ok_iff.2 ⟨_, _, same, numerals, holds⟩]
      rfl

/-! ## Lines -/

/-- The part of a line before its first `#`. -/
structure Uncommented (line part : List Char) : Prop where
  notMem : '#' ∉ part
  comment : ∃ comment, line = part ++ comment ∧ ∀ char ∈ comment.head?, char = '#'

theorem Uncommented.code_eq {line part : List Char} (uncommented : Uncommented line part) :
    code line = part := by
  obtain ⟨notMem, comment, rfl, marked⟩ := uncommented
  have behind : code comment = [] := by
    cases comment with
    | nil => rfl
    | cons mark rest =>
      obtain rfl := marked mark rfl
      rfl
  have plain : ∀ char ∈ part, (char != '#') = true := fun char member =>
    bne_iff_ne.2 fun mark => notMem (mark ▸ member)
  rw [code, List.takeWhile_append_of_pos plain]
  exact (congrArg (part ++ ·) behind).trans (List.append_nil part)

theorem uncommented_code (line : List Char) : Uncommented line (code line) where
  notMem member := by
    have plain : (code line).all (· != '#') = true := List.all_takeWhile
    exact bne_iff_ne.1 (List.all_eq_true.1 plain _ member) rfl
  comment := by
    refine ⟨line.dropWhile (· != '#'), List.takeWhile_append_dropWhile.symm, ?_⟩
    intro char first
    have stops := List.head?_dropWhile_not (· != '#') line
    rw [first] at stops
    exact bne_eq_false_iff_eq.1 stops

theorem code_code (line : List Char) : code (code line) = code line :=
  Uncommented.code_eq ⟨(uncommented_code line).notMem, [], (List.append_nil _).symm, nofun⟩

theorem assembleLine_eq_none_iff {line : List Char} :
    assembleLine line = .ok none ↔ ∀ char ∈ code line, Text.isBlank char = true := by
  rw [assembleLine, assembleTokens_eq_none_iff, Text.words_eq_nil_iff]

/-- A line has a word exactly if the tokens of its code spell that word. -/
theorem assembleLine_eq_some_iff {line : List Char} {word : Word} :
    assembleLine line = .ok (some word) ↔
      ∃ tokens, Text.Separated (code line) tokens ∧ Spells tokens word := by
  rw [assembleLine, assembleTokens_eq_some_iff]
  constructor
  · exact fun spells => ⟨_, Text.separated_words _, spells⟩
  · rintro ⟨_, separated, spells⟩
    exact separated.words_eq ▸ spells

/-- A line is read as the grammar says. -/
structure Grammatical (line : List Char) : Prop where
  uncommented : Uncommented line (code line)
  /-- A comment is not looked at. -/
  assemble_code : assembleLine line = assembleLine (code line)
  none_iff : assembleLine line = .ok none ↔ ∀ char ∈ code line, Text.isBlank char = true
  some_iff : ∀ word, assembleLine line = .ok (some word) ↔
    ∃ tokens, Text.Separated (code line) tokens ∧ Spells tokens word
  /-- All other lines are refused. -/
  error_iff : (∃ error, assembleLine line = .error error) ↔
    ¬ (∀ char ∈ code line, Text.isBlank char = true) ∧
      ¬ ∃ word tokens, Text.Separated (code line) tokens ∧ Spells tokens word

/-- The assembler accepts its grammar: it looks only at the code of a line, finds no word in it
if it is blank, finds the word that its tokens spell, and refuses all other lines. -/
theorem assembleLine_grammar (line : List Char) : Grammatical line where
  uncommented := uncommented_code line
  assemble_code := by rw [assembleLine, assembleLine, code_code]
  none_iff := assembleLine_eq_none_iff
  some_iff _ := assembleLine_eq_some_iff
  error_iff := by
    simp only [← assembleLine_eq_none_iff, ← assembleLine_eq_some_iff]
    cases assembleLine line with
    | error error => exact iff_of_true ⟨error, rfl⟩ ⟨nofun, by rintro ⟨_, absurd⟩; cases absurd⟩
    | ok found =>
      refine iff_of_false (by rintro ⟨_, absurd⟩; cases absurd) ?_
      rintro ⟨some, none⟩
      cases found with
      | none => exact some rfl
      | some word => exact none ⟨word, rfl⟩

end Assembler

end AccessController
