import Persistence.Sql.Literal

/-!
# Tokens of statements

A scanner for SQL text. It reads one character at a time and is in one mode between any two
of them, so that what a piece of text means depends on the text before it through the mode
alone. A quote inside a text is written twice; the scanner undoes this.
-/

set_option autoImplicit false

namespace Persistence.Sql

/-! ## Tokens -/

/-- The reserved words of selections. -/
inductive Keyword where
  | select
  | fromTable
  | whereRows
  | and
  | or
  | not
  | between
  | isIn
  | like
  | is
  | null
  | limit
  | offset
deriving DecidableEq, Repr

namespace Keyword

def all : List Keyword :=
  [.select, .fromTable, .whereRows, .and, .or, .not, .between, .isIn, .like, .is, .null, .limit,
    .offset]

def spelling : Keyword → String
  | .select => "SELECT"
  | .fromTable => "FROM"
  | .whereRows => "WHERE"
  | .and => "AND"
  | .or => "OR"
  | .not => "NOT"
  | .between => "BETWEEN"
  | .isIn => "IN"
  | .like => "LIKE"
  | .is => "IS"
  | .null => "NULL"
  | .limit => "LIMIT"
  | .offset => "OFFSET"

def ofSpelling? (characters : List Char) : Option Keyword :=
  all.find? fun keyword => keyword.spelling.toList == characters

end Keyword

/-- A unit of SQL text. -/
inductive Token where
  | keyword (keyword : Keyword)
  | word (characters : List Char)
  | numeral (characters : List Char)
  /-- A quoted text, by its contents. -/
  | text (contents : List Char)
  /-- A blob, by its digits. -/
  | blob (digits : List Char)
  | mark (character : Char)
  | unclosed
deriving DecidableEq, Repr

def Token.ofWord (characters : List Char) : Token :=
  match Keyword.ofSpelling? characters with
  | some found => .keyword found
  | none => .word characters

/-! ## Names -/

/-- Whether a name can begin with the character: a letter, an underscore, or anything beyond
ASCII. -/
def isNameStart (character : Char) : Bool :=
  character.isAlpha || character == '_' || decide (128 ≤ character.toNat)

def isNameCharacter (character : Char) : Bool :=
  isNameStart character || character.isDigit || character == '$'

def IsPlainName (name : String) : Prop :=
  (∃ first rest, name.toList = first :: rest ∧ isNameStart first = true ∧
    rest.all isNameCharacter = true) ∧
  Keyword.ofSpelling? name.toList = none

/-! ## The scanner -/

/-- What the scanner is in the middle of, with the characters read of it. -/
inductive Mode where
  | between
  | word (characters : List Char)
  | numeral (characters : List Char)
  | text (contents : List Char)
  /-- A quoted text behind a quote, which ends it unless it is the first of a doubled one. -/
  | quote (contents : List Char)
  | blob (digits : List Char)
deriving DecidableEq, Repr

/-- The mode behind a character that begins something new, and the token that it is if it
stands alone. -/
def start (character : Char) : List Token × Mode :=
  if character = ' ' then ([], .between)
  else if character = '\'' then ([], .text [])
  else if character.isDigit || character == '-' then ([], .numeral [character])
  else if isNameStart character then ([], .word [character])
  else ([.mark character], .between)

def step : Mode → Char → List Token × Mode
  | .between, character => start character
  | .word read, character =>
      if isNameCharacter character then ([], .word (read ++ [character]))
      else if character = '\'' ∧ read = ['X'] then ([], .blob [])
      else (Token.ofWord read :: (start character).1, (start character).2)
  | .numeral read, character =>
      if isNameCharacter character || character == '.' then ([], .numeral (read ++ [character]))
      else (.numeral read :: (start character).1, (start character).2)
  | .text read, character =>
      if character = '\'' then ([], .quote read) else ([], .text (read ++ [character]))
  | .quote read, character =>
      if character = '\'' then ([], .text (read ++ ['\'']))
      else (.text read :: (start character).1, (start character).2)
  | .blob read, character =>
      if character = '\'' then ([.blob read], .between) else ([], .blob (read ++ [character]))

def Mode.pending : Mode → List Token
  | .between => []
  | .word read => [Token.ofWord read]
  | .numeral read => [.numeral read]
  | .quote read => [.text read]
  | .text _ | .blob _ => [.unclosed]

/-- The tokens that a piece of text completes and the mode behind it. -/
def scan : Mode → List Char → List Token × Mode
  | mode, [] => ([], mode)
  | mode, character :: rest =>
      ((step mode character).1 ++ (scan (step mode character).2 rest).1,
        (scan (step mode character).2 rest).2)

def lex (mode : Mode) (characters : List Char) : List Token :=
  (scan mode characters).1 ++ (scan mode characters).2.pending

def tokens (text : String) : List Token := lex .between text.toList

/-! ## Reading piece by piece -/

@[simp] theorem lex_nil (mode : Mode) : lex mode [] = mode.pending := rfl

theorem lex_cons (mode : Mode) (character : Char) (rest : List Char) :
    lex mode (character :: rest) =
      (step mode character).1 ++ lex (step mode character).2 rest := by
  simp only [lex, scan, List.append_assoc]

theorem scan_append (mode : Mode) (piece rest : List Char) :
    scan mode (piece ++ rest) =
      ((scan mode piece).1 ++ (scan (scan mode piece).2 rest).1,
        (scan (scan mode piece).2 rest).2) := by
  induction piece generalizing mode with
  | nil => rfl
  | cons character piece ih => simp only [List.cons_append, scan, ih, List.append_assoc]

theorem lex_append (mode : Mode) (piece rest : List Char) :
    lex mode (piece ++ rest) = (scan mode piece).1 ++ lex (scan mode piece).2 rest := by
  simp only [lex, scan_append, List.append_assoc]

/-- A piece of text that leaves nothing unfinished is read on its own. -/
theorem lex_closed (piece : String) (read : List Token)
    (scanned : scan .between piece.toList = (read, .between)) (rest : List Char) :
    lex .between (piece.toList ++ rest) = read ++ lex .between rest := by
  rw [lex_append, scanned]

/-- Whether the character ends a name, a number or a quoted text before it. -/
def isSeparator (character : Char) : Bool :=
  character == ' ' || character == ',' || character == ')'

def Separated (rest : List Char) : Prop := rest.head?.all isSeparator = true

def Mode.IsComplete : Mode → Prop
  | .text _ | .blob _ => False
  | _ => True

/-- A separator ends what came before it. -/
theorem step_separator {mode : Mode} {character : Char} (complete : mode.IsComplete)
    (separator : isSeparator character = true) :
    step mode character = (mode.pending ++ (start character).1, (start character).2) := by
  obtain ⟨notInName, notPoint, notQuote⟩ : isNameCharacter character = false ∧
      (character == '.') = false ∧ character ≠ '\'' := by
    simp only [isSeparator, Bool.or_eq_true, beq_iff_eq] at separator
    rcases separator with (rfl | rfl) | rfl <;> decide
  cases mode with
  | between => rfl
  | word read => simp [step, Mode.pending, notInName, notQuote]
  | numeral read => simp only [step, Mode.pending, notInName, notPoint]; rfl
  | quote read => simp [step, Mode.pending, notQuote]
  | text read => exact complete.elim
  | blob read => exact complete.elim

theorem lex_separated {mode : Mode} {rest : List Char} (complete : mode.IsComplete)
    (separated : Separated rest) : lex mode rest = mode.pending ++ lex .between rest := by
  cases rest with
  | nil => simp [Mode.pending]
  | cons character rest =>
      rw [lex_cons, lex_cons, step_separator complete separated]
      simp only [step, List.append_assoc]

/-- A piece of text before a separator is read on its own. -/
theorem lex_open (piece : String) {rest : List Char} {read : List Token} {mode : Mode}
    (scanned : scan .between piece.toList = (read, mode)) (complete : mode.IsComplete)
    (separated : Separated rest) :
    lex .between (piece.toList ++ rest) = read ++ mode.pending ++ lex .between rest := by
  rw [lex_append, scanned, lex_separated complete separated, List.append_assoc]

/-! ## Names, numbers and texts -/

theorem scan_word (read name : List Char) (plain : name.all isNameCharacter = true) :
    scan (.word read) name = ([], .word (read ++ name)) := by
  induction name generalizing read with
  | nil => simp [scan]
  | cons character name ih =>
      simp only [List.all_cons, Bool.and_eq_true] at plain
      have stepped : step (.word read) character = ([], .word (read ++ [character])) := by
        simp only [step, plain.1, ↓reduceIte]
      simp only [scan, stepped, ih _ plain.2, List.append_assoc, List.singleton_append,
        List.nil_append]

theorem scan_numeral (read digits : List Char)
    (plain : ∀ character ∈ digits, character.isDigit = true ∨ character = '.') :
    scan (.numeral read) digits = ([], .numeral (read ++ digits)) := by
  induction digits generalizing read with
  | nil => simp [scan]
  | cons character digits ih =>
      have accepted : (isNameCharacter character || character == '.') = true := by
        rcases plain character (by simp) with digit | rfl
        · simp [isNameCharacter, digit]
        · rfl
      have stepped : step (.numeral read) character = ([], .numeral (read ++ [character])) := by
        simp only [step, accepted, ↓reduceIte]
      have others := ih (read ++ [character]) fun other member => plain other (by simp [member])
      simp only [scan, stepped, others, List.append_assoc, List.singleton_append,
        List.nil_append]

/-- No text can end its own literal: behind the doubled quotes of any text the scanner is still
inside it, and has read exactly its contents. -/
theorem scan_doubleQuotes (read contents : List Char) :
    scan (.text read) (doubleQuotes contents) = ([], .text (read ++ contents)) := by
  induction contents generalizing read with
  | nil => simp [doubleQuotes, scan]
  | cons character contents ih =>
      by_cases isQuote : character = '\''
      · subst isQuote
        simp only [doubleQuotes, scan, step, ↓reduceIte, ih, List.nil_append,
          List.append_assoc, List.singleton_append]
      · have written : doubleQuotes (character :: contents) =
            character :: doubleQuotes contents := by
          simp [doubleQuotes]
        simp only [written, scan, step, isQuote, ↓reduceIte, ih, List.nil_append,
          List.append_assoc, List.singleton_append]

theorem scan_quoted (text : String) :
    scan .between (quoted text).toList = ([], .quote text.toList) := by
  rw [quoted, String.toList_ofList]
  have opened : step .between '\'' = ([], .text []) := rfl
  have closed : scan (.text text.toList) ['\''] = ([], .quote text.toList) := rfl
  simp only [scan.eq_2, opened, scan_append, scan_doubleQuotes, closed, List.nil_append]

theorem scan_blob (read digits : List Char) (plain : '\'' ∉ digits) :
    scan (.blob read) digits = ([], .blob (read ++ digits)) := by
  induction digits generalizing read with
  | nil => simp [scan]
  | cons character digits ih =>
      simp only [List.mem_cons, not_or] at plain
      have different : character ≠ '\'' := fun same => plain.1 same.symm
      simp only [scan, step, different, ↓reduceIte, ih _ plain.2, List.nil_append,
        List.append_assoc, List.singleton_append]

private theorem isNameStart_digit :
    ∀ code < 58, 48 ≤ code → isNameStart (Char.ofNat code) = false := by
  decide

private theorem isDigit_eq_false_of_isNameStart {character : Char}
    (begins : isNameStart character = true) : character.isDigit = false := by
  cases digit : character.isDigit with
  | false => rfl
  | true =>
      obtain ⟨least, greatest⟩ := Char.isDigit_iff_toNat.mp digit
      have refused := isNameStart_digit character.toNat (Nat.lt_succ_of_le greatest) least
      rw [Char.ofNat_toNat, begins] at refused
      cases refused

theorem start_of_isNameStart {character : Char} (begins : isNameStart character = true) :
    start character = ([], .word [character]) := by
  have notDigit := isDigit_eq_false_of_isNameStart begins
  have notBlank : character ≠ ' ' := by
    rintro rfl
    exact absurd begins (by decide)
  have notQuote : character ≠ '\'' := by
    rintro rfl
    exact absurd begins (by decide)
  have notMinus : (character == '-') = false := by
    cases minus : character == '-' with
    | false => rfl
    | true =>
        obtain rfl : character = '-' := by simpa using minus
        exact absurd begins (by decide)
  simp only [start, notBlank, notQuote, notDigit, notMinus, begins, Bool.or_false,
    Bool.false_eq_true, ↓reduceIte]

theorem lex_name {name : String} {rest : List Char} (plain : IsPlainName name)
    (separated : Separated rest) :
    lex .between (name.toList ++ rest) = .word name.toList :: lex .between rest := by
  obtain ⟨⟨first, others, spelled, begins, continues⟩, notKeyword⟩ := plain
  have scanned : scan .between name.toList = ([], .word name.toList) := by
    rw [spelled]
    simp only [scan, step, start_of_isNameStart begins, scan_word _ _ continues, List.nil_append,
      List.singleton_append]
  rw [lex_open name scanned trivial separated]
  simp [Mode.pending, Token.ofWord, notKeyword]

end Persistence.Sql
