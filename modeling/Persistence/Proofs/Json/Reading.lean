import Mathlib.Data.List.TakeDrop
import Persistence.Json.Reader
import Persistence.Json.Scalar
import Persistence.Proofs.Number.Integer

/-!
# Trees read back

The text of a JSON tree reads as the tree itself, if the numbers in it are integers and the
strings spell texts. Escapes, signs and separators are read where they were written, and the
fuel of the reader never runs out on a written text.
-/

set_option autoImplicit false

namespace Persistence.Json

open Text (joinWith joinWith_cons_cons)

/-! ## Strings -/

/-- What an escaped character is read as. Only characters below the surrogates are written by
their number. -/
inductive Spells : Piece → Char → Prop
  | character (value : Char) : Spells (.character value) value
  | unit {value : Char} (low : value.toNat < 0xD800) : Spells (.unit value.toNat) value

theorem assemble?_unit {value : Nat} (low : value < 0xD800) (rest : List Piece) :
    assemble? (.unit value :: rest) = (assemble? rest).map (Char.ofNat value :: ·) := by
  have notHigh : ¬ 0xD800 ≤ value := by omega
  have notLow : ¬ 0xDC00 ≤ value := by omega
  cases rest with
  | nil => simp [assemble?, notHigh]
  | cons next rest => cases next <;> simp [assemble?, notHigh, notLow]

theorem assemble?_of_spells {pieces : List Piece} {characters : List Char}
    (spells : List.Forall₂ Spells pieces characters) : assemble? pieces = some characters := by
  induction spells with
  | nil => rfl
  | cons first others ih =>
      cases first with
      | character value => rw [assemble?, ih, Option.map_some]
      | unit low => rw [assemble?_unit low, ih, Option.map_some, Char.ofNat_toNat]

theorem value?_fixedDigits_control : ∀ value < 0x20,
    Text.Hexadecimal.value? (Text.Hexadecimal.fixedDigits 4 value) = some value := by
  decide

theorem readPieces?_escapeChar (character : Char) :
    ∃ piece, Spells piece character ∧ ∀ rest pieces after,
      readPieces? rest = some (pieces, after) →
        readPieces? (escapeChar character ++ rest) = some (piece :: pieces, after) := by
  unfold escapeChar
  split
  case h_8 _ notQuote notBackslash _ _ _ _ _ =>
    split
    case isTrue control =>
      refine ⟨.unit character.toNat, .unit (by omega), fun rest pieces after read => ?_⟩
      have spelt := value?_fixedDigits_control character.toNat control
      simp only [Text.Hexadecimal.fixedDigits, List.nil_append, List.cons_append] at spelt ⊢
      simp only [readPieces?, spelt, read, Option.bind_eq_bind, Option.bind_some]
    case isFalse printable =>
      refine ⟨.character character, .character character, fun rest pieces after read => ?_⟩
      rw [List.singleton_append, readPieces?.eq_5 character rest notQuote
        (fun _ _ _ _ _ same _ => notBackslash same) (fun _ _ same _ => notBackslash same), read]
      have unescaped : (character == '\\') = false := beq_false_of_ne notBackslash
      simp only [unescaped, printable, decide_false, Bool.or_self, Bool.false_eq_true, ↓reduceIte,
        Option.bind_eq_bind, Option.bind_some]
  all_goals
    exact ⟨.character _, .character _, fun rest pieces after read => by
      simp [readPieces?, simpleEscape?, read]⟩

theorem readPieces?_escaped (characters rest : List Char) :
    ∃ pieces, List.Forall₂ Spells pieces characters ∧
      readPieces? (characters.flatMap escapeChar ++ '"' :: rest) = some (pieces, rest) := by
  induction characters with
  | nil => exact ⟨[], .nil, rfl⟩
  | cons character characters ih =>
      obtain ⟨pieces, spells, read⟩ := ih
      obtain ⟨piece, first, escaped⟩ := readPieces?_escapeChar character
      refine ⟨piece :: pieces, .cons first spells, ?_⟩
      rw [List.flatMap_cons, List.append_assoc]
      exact escaped _ pieces rest read

theorem readString?_escaped (contents : String) (rest : List Char) :
    readString? (contents.toList.flatMap escapeChar ++ '"' :: rest) =
      some (some contents, rest) := by
  obtain ⟨pieces, spells, read⟩ := readPieces?_escaped contents.toList rest
  simp only [readString?, read, assemble?_of_spells spells, Option.bind_eq_bind,
    Option.bind_some, Option.map_some, String.ofList_toList]

/-! ## Numbers -/

/-- What stands behind a value in a written text. -/
inductive Follows : List Char → Prop
  | nothing : Follows []
  | comma (rest : List Char) : Follows (',' :: rest)
  | bracket (rest : List Char) : Follows (']' :: rest)
  | brace (rest : List Char) : Follows ('\x7d' :: rest)

theorem span_digits {digits rest : List Char} (plain : Sql.AllDigits digits)
    (follows : Follows rest) : (digits ++ rest).span Number.isDigit = (digits, rest) := by
  have noDigit : rest.takeWhile Char.isDigit = [] ∧ rest.dropWhile Char.isDigit = rest := by
    cases follows <;> exact ⟨rfl, rfl⟩
  change (digits ++ rest).span Char.isDigit = (digits, rest)
  rw [List.span_eq_takeWhile_dropWhile, List.takeWhile_append_of_pos plain,
    List.dropWhile_append_of_pos plain, noDigit.1, noDigit.2, List.append_nil]

/-- The digits of a number begin with a zero only if they are one. -/
theorem toDigits_cases (value : Nat) :
    (value = 0 ∧ Nat.toDigits 10 value = ['0']) ∨
      ∃ first rest, Nat.toDigits 10 value = first :: rest ∧ first ≠ '0' := by
  induction value using Nat.strongRecOn with
  | ind value ih =>
      by_cases small : value < 10
      · rw [Nat.toDigits_of_lt_base small]
        have table : ∀ digit < 10, digit = 0 ∨ Nat.digitChar digit ≠ '0' := by decide
        rcases table value small with rfl | nonzero
        · exact .inl ⟨rfl, rfl⟩
        · exact .inr ⟨_, [], rfl, nonzero⟩
      · rw [Nat.toDigits_of_base_le (by decide) (by omega)]
        rcases ih (value / 10) (by omega) with ⟨none, -⟩ | ⟨first, rest, digits, nonzero⟩
        · omega
        · exact .inr ⟨first, rest ++ [_], by rw [digits, List.cons_append], nonzero⟩

theorem readWhole?_toDigits (value : Nat) {rest : List Char} (follows : Follows rest) :
    readWhole? (Nat.toDigits 10 value ++ rest) = some (Nat.toDigits 10 value, rest) := by
  rcases toDigits_cases value with ⟨-, zero⟩ | ⟨first, others, digits, nonzero⟩
  · rw [zero]
    cases follows <;> rfl
  · have span := span_digits (Sql.allDigits_toDigits value) follows
    rw [digits, List.cons_append] at span ⊢
    rw [readWhole?.eq_3 _ (fun _ _ same => nonzero (List.cons.inj same).1)
      (fun same => nonzero (List.cons.inj same).1), readDigits?, span]

theorem readFraction?_of_follows {rest : List Char} (follows : Follows rest) :
    readFraction? rest = some ([], rest) := by
  cases follows <;> rfl

theorem readExponent?_of_follows {rest : List Char} (follows : Follows rest) :
    readExponent? rest = some ([], rest) := by
  cases follows <;> rfl

theorem readNumber?_signed (negative : Bool) (value : Nat) {rest : List Char}
    (follows : Follows rest) :
    readNumber? (Sql.signed negative (Nat.toDigits 10 value) ++ rest) =
      some (String.ofList (Sql.signed negative (Nat.toDigits 10 value)), rest) := by
  have whole := readWhole?_toDigits value follows
  have fraction := readFraction?_of_follows follows
  have exponent := readExponent?_of_follows follows
  cases negative with
  | true =>
      simp only [Sql.signed, ↓reduceIte, List.cons_append, List.nil_append, readNumber?.eq_1,
        whole, fraction, exponent, Option.bind_eq_bind, Option.bind_some, List.append_nil]
  | false =>
      obtain ⟨first, others, digits, isDigit, -⟩ := Sql.isMagnitude_toDigits value
      have unsigned : ∀ rest', Nat.toDigits 10 value ++ rest ≠ '-' :: rest' := by
        intro rest' same
        rw [digits, List.cons_append] at same
        cases same
        cases isDigit
      simp only [Sql.signed, Bool.false_eq_true, ↓reduceIte, List.nil_append]
      rw [readNumber?.eq_2 _ unsigned]
      simp only [whole, fraction, exponent, Option.bind_eq_bind, Option.bind_some,
        List.nil_append, List.append_nil]

theorem toString_ne_minusZero (value : Int) : toString value ≠ "-0" := by
  intro same
  have spelt := Sql.toList_toString_int value
  rw [same] at spelt
  have whole := Number.splitSign_signed (decide (value < 0)) value.natAbs
  rw [← spelt] at whole
  obtain ⟨negative, zero⟩ := Prod.mk.inj whole
  have isZero := Number.natural?_toDigits value.natAbs
  rw [← zero] at isZero
  have none : value.natAbs = 0 := (Option.some.inj isZero).symm
  have below : value < 0 := of_decide_eq_true negative.symm
  omega

theorem integerWithin?_integer {least greatest value : Int} (low : least ≤ value)
    (high : value ≤ greatest) : integerWithin? least greatest (.integer value) = some value := by
  have notMinusZero : (toString value == "-0") = false :=
    beq_false_of_ne (toString_ne_minusZero value)
  rw [integer, integerWithin?, notMinusZero, if_neg Bool.false_ne_true,
    Number.integerWithin?_toString low high]

theorem readNumber?_integer (value : Int) {rest : List Char} (follows : Follows rest) :
    readNumber? ((toString value).toList ++ rest) = some (toString value, rest) := by
  rw [Sql.toList_toString_int, readNumber?_signed _ _ follows, ← Sql.toList_toString_int,
    String.ofList_toList]

/-! ## Beginnings -/

/-- Neither a blank nor the end of an array. -/
def startsValue (first : Char) : Bool := !([' ', '\t', '\n', '\r', ']'].contains first)

def startsNumber (first : Char) : Bool := first == '-' || first.isDigit

theorem skipBlanks_of_startsValue {first : Char} (starts : startsValue first = true)
    (rest : List Char) : skipBlanks (first :: rest) = first :: rest := by
  refine List.dropWhile_cons_of_neg fun blank => ?_
  simp only [Bool.or_eq_true, beq_iff_eq] at blank
  rcases blank with ((rfl | rfl) | rfl) | rfl <;> cases starts

theorem startsValue_of_startsNumber {first : Char} (starts : startsNumber first = true) :
    startsValue first = true := by
  rw [startsValue, Bool.not_eq_true', List.contains_eq_mem, decide_eq_false_iff_not]
  intro member
  simp only [List.mem_cons, List.not_mem_nil, or_false] at member
  rcases member with rfl | rfl | rfl | rfl | rfl <;> cases starts

theorem exists_startsNumber (value : Int) :
    ∃ first rest, (toString value).toList = first :: rest ∧ startsNumber first = true := by
  rw [Sql.toList_toString_int]
  cases decide (value < 0) with
  | true => exact ⟨'-', _, rfl, rfl⟩
  | false =>
      obtain ⟨first, rest, digits, isDigit, -⟩ := Sql.isMagnitude_toDigits value.natAbs
      exact ⟨first, rest, digits, by rw [startsNumber, isDigit, Bool.or_true]⟩

theorem readValue?_number {first : Char} (starts : startsNumber first = true) (fuel : Nat)
    (others : List Char) :
    readValue? (fuel + 1) (first :: others) =
      (readNumber? (first :: others)).map fun (lexeme, rest) => (.number lexeme, rest) := by
  rw [readValue?, skipBlanks_of_startsValue (startsValue_of_startsNumber starts)]
  split
  case h_7 => cases readNumber? (first :: others) <;> rfl
  all_goals
    rename_i same
    cases same
    cases starts

theorem readValue?_items {first : Char} (starts : startsValue first = true) (fuel : Nat)
    (others : List Char) :
    readValue? (fuel + 1) ('[' :: first :: others) =
      (readItems? fuel (first :: others)).map fun (items, rest) => (.array items, rest) := by
  rw [readValue?, skipBlanks_of_startsValue rfl]
  split
  case h_5 same =>
    cases same
    rw [skipBlanks_of_startsValue starts]
    split
    case h_1 ends =>
      cases ends
      cases starts
    case h_2 => cases readItems? fuel (first :: others) <;> rfl
  case h_7 begins _ => exact absurd rfl (begins (first :: others))
  all_goals
    rename_i same
    cases same

/-! ## Written texts -/

theorem toList_quote (contents : String) :
    (quote contents).toList = '"' :: (contents.toList.flatMap escapeChar ++ ['"']) := by
  rw [quote, String.toList_ofList]

theorem writeItems_eq_map (items : List Json) : writeItems items = items.map write := by
  induction items with
  | nil => rfl
  | cons item items ih => rw [writeItems, ih, List.map_cons]

def writeMember (member : String × Json) : String := quote member.1 ++ ":" ++ member.2.write

theorem writeMembers_eq_map (members : List (String × Json)) :
    writeMembers (members.map fun (name, value) => (some name, value)) =
      members.map writeMember := by
  induction members with
  | nil => rfl
  | cons member members ih =>
      rw [List.map_cons, writeMembers, ih, List.map_cons]
      rfl

theorem toList_write_array (items : List Json) :
    (write (.array items)).toList =
      '[' :: ((joinWith "," (items.map write)).toList ++ [']']) := by
  rw [write, writeItems_eq_map, String.toList_append, String.toList_append]
  rfl

theorem toList_write_record (members : List (String × Json)) :
    (write (.record members)).toList =
      '\x7b' :: ((joinWith "," (members.map writeMember)).toList ++ ['\x7d']) := by
  rw [record, write, writeMembers_eq_map, String.toList_append, String.toList_append]
  rfl

theorem toList_writeMember (name : String) (value : Json) :
    (writeMember (name, value)).toList =
      '"' :: (name.toList.flatMap escapeChar ++ '"' :: ':' :: value.write.toList) := by
  rw [writeMember, String.toList_append, String.toList_append, toList_quote]
  simp

theorem toList_joinWith_cons_cons (first second : String) (rest : List String) :
    (joinWith "," (first :: second :: rest)).toList =
      first.toList ++ ',' :: (joinWith "," (second :: rest)).toList := by
  rw [joinWith_cons_cons, String.toList_append, String.toList_append, List.append_assoc]
  rfl

theorem exists_toList_joinWith {first : String} {character : Char} {others : List Char}
    (written : first.toList = character :: others) (rest : List String) :
    ∃ more, (joinWith "," (first :: rest)).toList = character :: more := by
  cases rest with
  | nil => exact ⟨others, written⟩
  | cons second rest =>
      rw [toList_joinWith_cons_cons, written]
      exact ⟨_, rfl⟩

/-! ## Values -/

/-- The text of the tree reads as the tree wherever a value may stand, and what follows is left.
Every level of the tree has two characters of its own, which pay for the two steps down. -/
structure ReadsBack (json : Json) : Prop where
  starts : ∃ first rest, json.write.toList = first :: rest ∧ startsValue first = true
  reads : ∀ fuel rest, 2 * json.write.toList.length ≤ fuel → Follows rest →
    readValue? fuel (json.write.toList ++ rest) = some (json, rest)

theorem ReadsBack.of_reads_succ {json : Json}
    (starts : ∃ first rest, json.write.toList = first :: rest ∧ startsValue first = true)
    (reads : ∀ fuel rest, 2 * json.write.toList.length ≤ fuel + 1 → Follows rest →
      readValue? (fuel + 1) (json.write.toList ++ rest) = some (json, rest)) :
    ReadsBack json where
  starts := starts
  reads fuel rest enough follows := by
    cases fuel with
    | zero =>
        obtain ⟨first, others, written, -⟩ := starts
        rw [written, List.length_cons] at enough
        omega
    | succ fuel => exact reads fuel rest enough follows

theorem readsBack_null : ReadsBack .null :=
  .of_reads_succ ⟨'n', _, rfl, rfl⟩ fun _ _ _ _ => rfl

theorem readsBack_bool (value : Bool) : ReadsBack (.bool value) := by
  cases value with
  | false => exact .of_reads_succ ⟨'f', _, rfl, rfl⟩ fun _ _ _ _ => rfl
  | true => exact .of_reads_succ ⟨'t', _, rfl, rfl⟩ fun _ _ _ _ => rfl

theorem readsBack_integer (value : Int) : ReadsBack (.integer value) := by
  obtain ⟨first, others, written, starts⟩ := exists_startsNumber value
  refine .of_reads_succ ⟨first, others, written, startsValue_of_startsNumber starts⟩ ?_
  intro fuel rest _ follows
  have read := readNumber?_integer value follows
  change readValue? (fuel + 1) ((toString value).toList ++ rest) = _
  rw [written, List.cons_append] at read ⊢
  rw [readValue?_number starts, read]
  rfl

theorem readsBack_text (contents : String) : ReadsBack (.text contents) := by
  refine .of_reads_succ ⟨'"', _, toList_quote contents, rfl⟩ ?_
  intro fuel rest _ _
  change readValue? (fuel + 1) ((quote contents).toList ++ rest) = _
  rw [toList_quote, List.cons_append, List.append_assoc, List.singleton_append]
  change (readString? (contents.toList.flatMap escapeChar ++ '"' :: rest)).bind _ = _
  rw [readString?_escaped]
  rfl

theorem readItems?_joined {items : List Json} (nonempty : items ≠ [])
    (each : ∀ item ∈ items, ReadsBack item) (fuel : Nat) (rest : List Char)
    (enough : 2 * (joinWith "," (items.map write)).toList.length + 1 ≤ fuel) :
    readItems? fuel ((joinWith "," (items.map write)).toList ++ ']' :: rest) =
      some (items, rest) := by
  induction items generalizing fuel with
  | nil => contradiction
  | cons item items ih =>
      obtain ⟨fuel, rfl⟩ : ∃ less, fuel = less + 1 := ⟨fuel - 1, by omega⟩
      obtain ⟨first, others⟩ := List.forall_mem_cons.mp each
      cases items with
      | nil =>
          rw [List.map_singleton, Text.joinWith_singleton] at enough ⊢
          rw [readItems?, first.reads fuel (']' :: rest) (by omega) (.bracket rest)]
          rfl
      | cons second items =>
          rw [List.map_cons, List.map_cons, toList_joinWith_cons_cons, List.length_append,
            List.length_cons] at enough
          rw [List.map_cons, List.map_cons, toList_joinWith_cons_cons, List.append_assoc,
            List.cons_append, readItems?, first.reads fuel _ (by omega) (.comma _)]
          change (readItems? fuel
            ((joinWith "," ((second :: items).map write)).toList ++ ']' :: rest)).bind _ = _
          rw [ih (List.cons_ne_nil _ _) others fuel (by rw [List.map_cons]; omega)]
          rfl

theorem readsBack_array {items : List Json} (each : ∀ item ∈ items, ReadsBack item) :
    ReadsBack (.array items) := by
  refine .of_reads_succ ⟨'[', _, toList_write_array items, rfl⟩ ?_
  intro fuel rest enough _
  rw [toList_write_array, List.length_cons, List.length_append, List.length_singleton] at enough
  rw [toList_write_array, List.cons_append, List.append_assoc, List.singleton_append]
  cases items with
  | nil => rfl
  | cons item items =>
      have read := readItems?_joined (List.cons_ne_nil item items) each fuel rest (by omega)
      obtain ⟨first, others, written, starts⟩ := (each item List.mem_cons_self).starts
      obtain ⟨more, joined⟩ := exists_toList_joinWith written (items.map write)
      rw [List.map_cons, joined, List.cons_append] at read ⊢
      rw [readValue?_items starts, read]
      rfl

/-- Reads what follows a member: the others behind a comma, or the end. -/
def readOthers? (fuel : Nat) : List Char → Option (List (Option String × Json) × List Char)
  | ',' :: rest => readMembers? fuel rest
  | '\x7d' :: rest => some ([], rest)
  | _ => none

theorem readMembers?_member {name : String} {value : Json} (readsBack : ReadsBack value)
    {fuel : Nat} {rest : List Char} (enough : 2 * value.write.toList.length ≤ fuel)
    (follows : Follows rest) :
    readMembers? (fuel + 1) ((writeMember (name, value)).toList ++ rest) =
      (readOthers? fuel rest).map fun (members, rest) => ((some name, value) :: members, rest) := by
  rw [toList_writeMember, List.cons_append, List.append_assoc, List.cons_append, List.cons_append]
  change (readString? (name.toList.flatMap escapeChar ++
    '"' :: ':' :: (value.write.toList ++ rest))).bind _ = _
  rw [readString?_escaped]
  change (readValue? fuel (value.write.toList ++ rest)).bind _ = _
  rw [readsBack.reads fuel rest enough follows]
  cases follows with
  | comma rest =>
      change (readMembers? fuel rest).bind _ = (readMembers? fuel rest).map _
      cases readMembers? fuel rest <;> rfl
  | _ => rfl

theorem readMembers?_joined {members : List (String × Json)} (nonempty : members ≠ [])
    (each : ∀ member ∈ members, ReadsBack member.2) (fuel : Nat) (rest : List Char)
    (enough : 2 * (joinWith "," (members.map writeMember)).toList.length + 1 ≤ fuel) :
    readMembers? fuel ((joinWith "," (members.map writeMember)).toList ++ '\x7d' :: rest) =
      some (members.map fun (name, value) => (some name, value), rest) := by
  induction members generalizing fuel with
  | nil => contradiction
  | cons member members ih =>
      obtain ⟨fuel, rfl⟩ : ∃ less, fuel = less + 1 := ⟨fuel - 1, by omega⟩
      obtain ⟨name, value⟩ := member
      obtain ⟨first, others⟩ := List.forall_mem_cons.mp each
      have shorter : value.write.toList.length ≤ (writeMember (name, value)).toList.length := by
        rw [toList_writeMember]
        simp only [List.length_cons, List.length_append]
        omega
      cases members with
      | nil =>
          rw [List.map_singleton, Text.joinWith_singleton] at enough ⊢
          rw [readMembers?_member first (by dsimp only; omega) (.brace rest)]
          rfl
      | cons second members =>
          rw [List.map_cons, List.map_cons, toList_joinWith_cons_cons, List.length_append,
            List.length_cons] at enough
          rw [List.map_cons, List.map_cons, toList_joinWith_cons_cons, List.append_assoc,
            List.cons_append, readMembers?_member first (by dsimp only; omega) (.comma _),
            readOthers?, ← List.map_cons,
            ih (List.cons_ne_nil _ _) others fuel (by rw [List.map_cons]; omega)]
          rfl

theorem readsBack_record {members : List (String × Json)}
    (each : ∀ member ∈ members, ReadsBack member.2) : ReadsBack (.record members) := by
  refine .of_reads_succ ⟨'\x7b', _, toList_write_record members, rfl⟩ ?_
  intro fuel rest enough _
  rw [toList_write_record, List.length_cons, List.length_append, List.length_singleton] at enough
  rw [toList_write_record, List.cons_append, List.append_assoc, List.singleton_append]
  cases members with
  | nil => rfl
  | cons member members =>
      have read := readMembers?_joined (List.cons_ne_nil member members) each fuel rest (by omega)
      obtain ⟨more, joined⟩ := exists_toList_joinWith (toList_writeMember member.1 member.2)
        (members.map writeMember)
      rw [List.map_cons, joined, List.cons_append] at read ⊢
      change (readMembers? fuel ('"' :: (more ++ '\x7d' :: rest))).bind _ = _
      rw [read]
      rfl

/-! ## Plain trees -/

/-- A tree whose numbers are integers and whose strings all spell texts. -/
inductive IsPlain : Json → Prop
  | null : IsPlain .null
  | bool (value : Bool) : IsPlain (.bool value)
  | integer (value : Int) : IsPlain (.integer value)
  | text (contents : String) : IsPlain (.text contents)
  | array {items : List Json} (each : ∀ item ∈ items, IsPlain item) : IsPlain (.array items)
  | record {members : List (String × Json)} (each : ∀ member ∈ members, IsPlain member.2) :
      IsPlain (.record members)

theorem IsPlain.readsBack {json : Json} (plain : IsPlain json) : ReadsBack json := by
  induction plain with
  | null => exact readsBack_null
  | bool value => exact readsBack_bool value
  | integer value => exact readsBack_integer value
  | text contents => exact readsBack_text contents
  | array _ ih => exact readsBack_array ih
  | record _ ih => exact readsBack_record ih

theorem read?_write {json : Json} (plain : IsPlain json) : read? json.write = some json := by
  have read := plain.readsBack.reads (2 * json.write.toList.length + 2) [] (by omega) .nothing
  rw [List.append_nil] at read
  rw [read?, read]
  rfl

end Persistence.Json
