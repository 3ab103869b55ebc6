import Mathlib.Data.List.TakeDrop
import Persistence.CommandLine.Run
import Persistence.Proofs.Catalog.CriteriaFaults
import Persistence.Proofs.Number.Integer

/-!
# Filters as criteria

A filter means what it says: one that is written for a stored field and a value, with any
blanks around both, is the criterion that the field equals the value. So a selection with
filters is the selection with the criteria that they are written for, whether it succeeds or
fails.
-/

set_option autoImplicit false

namespace Persistence

-- Powers are those of the core library, as in the definition of the ranges.
attribute [local instance (2000)] instPowNat

/-! ## Blanks around a text -/

namespace Text

def AllBlank (text : String) : Prop := ∀ character ∈ text.toList, isBlank character = true

-- Decided along the text; an instance that goes through all characters would not come to an end.
instance (text : String) : Decidable (AllBlank text) :=
  List.decidableBAll (fun character => isBlank character = true) text.toList

/-- Neither end of the text is a blank. The empty text has no ends. -/
structure HasBareEnds (text : String) : Prop where
  first : ∀ character ∈ text.toList.head?, isBlank character = false
  last : ∀ character ∈ text.toList.getLast?, isBlank character = false

instance (text : String) : Decidable (HasBareEnds text) :=
  decidable_of_iff
    ((text.toList.head?.all fun character => !isBlank character) = true ∧
      (text.toList.getLast?.all fun character => !isBlank character) = true)
    ⟨fun ends => ⟨by simpa [Option.all_eq_true] using ends.1,
        by simpa [Option.all_eq_true] using ends.2⟩,
      fun ends => ⟨by simpa [Option.all_eq_true] using ends.first,
        by simpa [Option.all_eq_true] using ends.last⟩⟩

theorem dropWhile_isBlank_append {blanks rest : List Char}
    (blank : ∀ character ∈ blanks, isBlank character = true)
    (bare : ∀ character ∈ rest.head?, isBlank character = false) :
    (blanks ++ rest).dropWhile isBlank = rest := by
  rw [List.dropWhile_append_of_pos blank]
  cases rest with
  | nil => rfl
  | cons first others => exact List.dropWhile_cons_of_neg (by simp [bare first rfl])

theorem trim_padded {before text after : String} (blankBefore : AllBlank before)
    (bare : HasBareEnds text) (blankAfter : AllBlank after) :
    trim (before ++ text ++ after) = text := by
  rw [trim, String.toList_append, String.toList_append, List.append_assoc]
  cases characters : text.toList with
  | nil =>
      -- Everything is blank, so that the first half of the trimming leaves nothing.
      rw [List.nil_append, List.dropWhile_append_of_pos blankBefore,
        List.dropWhile_eq_nil_iff.mpr blankAfter]
      exact (String.toList_injective (characters.trans rfl)).symm
  | cons first rest =>
      have bareFirst : ∀ character ∈ (text.toList ++ after.toList).head?,
          isBlank character = false := by
        simpa [characters] using bare.first
      have bareLast : ∀ character ∈ text.toList.reverse.head?, isBlank character = false := by
        rw [List.head?_reverse]
        exact bare.last
      have blankReversed : ∀ character ∈ after.toList.reverse, isBlank character = true :=
        fun character member => blankAfter character (List.mem_reverse.mp member)
      rw [← characters, dropWhile_isBlank_append blankBefore bareFirst, List.reverse_append,
        dropWhile_isBlank_append blankReversed bareLast, List.reverse_reverse,
        String.ofList_toList]

end Text

namespace CommandLine

open Schema Text

/-! ## Filters written for criteria -/

/-- The canonical text of a value of a type: an integer in decimal, a truth value by its name,
a text as it is, and bytes as the text that they spell. Blanks at the ends of a text are not
told from those around it. -/
inductive Spells : ScalarType → Value → String → Prop
  | truth (value : Bool) : Spells .bool (.bool value) (if value then "true" else "false")
  | int32 (value : Int32) : Spells .int32 (.int32 value) (toString value.toInt)
  | int64 (value : Int64) : Spells .int64 (.int64 value) (toString value.toInt)
  | timestamp (value : Int64) : Spells .timestamp (.timestamp value) (toString value.toInt)
  | text {text : String} (bare : HasBareEnds text) : Spells .string (.string text) text
  | bytes {text : String} (bare : HasBareEnds text) :
      Spells .bytes (.bytes (utf8Bytes text)) text

/-- The filter is written for the criterion that a stored field equals a value. -/
inductive IsWrittenFor (catalog : Catalog) (entity : String) : String → Criterion → Prop
  | equation {field : Field} {scalar : ScalarType} {value : Value}
      {text before between behind after : String}
      (stored : catalog.StoresField entity field) (typed : field.type = .scalar scalar)
      (unequal : '=' ∉ field.name.toList) (bare : HasBareEnds field.name)
      (spells : Spells scalar value text) (blankBefore : AllBlank before)
      (blankBetween : AllBlank between) (blankBehind : AllBlank behind)
      (blankAfter : AllBlank after) :
      IsWrittenFor catalog entity
        (before ++ field.name ++ between ++ "=" ++ (behind ++ text ++ after))
        (.compare field.name .equal value)

/-! ## Filters read -/

theorem splitFilter_append {left right : String} (unequal : '=' ∉ left.toList) :
    splitFilter (left ++ "=" ++ right) = .ok (trim left, trim right) := by
  have others : ∀ character ∈ left.toList, (character != '=') = true := by
    intro character member
    rw [bne_iff_ne]
    rintro rfl
    exact unequal member
  have characters : (left ++ "=" ++ right).toList = left.toList ++ '=' :: right.toList := by
    simp
  have split : (left.toList ++ '=' :: right.toList).span (fun character => character != '=') =
      (left.toList, '=' :: right.toList) := by
    rw [List.span_eq_takeWhile_dropWhile, List.takeWhile_append_of_pos others,
      List.dropWhile_append_of_pos others]
    simp
  rw [splitFilter, characters, split]
  simp only [String.ofList_toList]

theorem isBlank_equalsSign : isBlank '=' = false := by decide

theorem splitFilter_padded {name text before between behind after : String}
    (unequal : '=' ∉ name.toList) (bareName : HasBareEnds name) (bareText : HasBareEnds text)
    (blankBefore : AllBlank before) (blankBetween : AllBlank between)
    (blankBehind : AllBlank behind) (blankAfter : AllBlank after) :
    splitFilter (before ++ name ++ between ++ "=" ++ (behind ++ text ++ after)) =
      .ok (name, text) := by
  have noBlank : ∀ {blanks : String}, AllBlank blanks → '=' ∉ blanks.toList := by
    intro blanks blank member
    have equals := blank '=' member
    rw [isBlank_equalsSign] at equals
    cases equals
  rw [splitFilter_append, trim_padded blankBefore bareName blankBetween,
    trim_padded blankBehind bareText blankAfter]
  simp only [String.toList_append, List.mem_append, not_or]
  exact ⟨⟨noBlank blankBefore, unequal⟩, noBlank blankBetween⟩

theorem isBlank_of_isDigit {character : Char} (digit : character.isDigit = true) :
    isBlank character = false := by
  have range := Char.isDigit_iff_toNat.mp digit
  have zero : '0'.toNat = 48 := rfl
  have nine : '9'.toNat = 57 := rfl
  simp only [isBlank, Bool.or_eq_false_iff, Bool.and_eq_false_iff, decide_eq_false_iff_not,
    beq_eq_false_iff_ne]
  omega

theorem hasBareEnds_toString (value : Int) : HasBareEnds (toString value) := by
  have noBlank : ∀ character ∈ (toString value).toList, isBlank character = false := by
    intro character member
    rw [Sql.toList_toString_int, Sql.signed] at member
    rcases List.mem_append.mp member with sign | digit
    · split at sign
      · rw [List.mem_singleton.mp sign]
        decide
      · cases sign
    · exact isBlank_of_isDigit (Sql.allDigits_toDigits _ character digit)
  exact ⟨fun character first => noBlank character (List.mem_of_mem_head? first),
    fun character last => noBlank character (List.mem_of_mem_getLast? last)⟩

theorem Spells.hasBareEnds {scalar : ScalarType} {value : Value} {text : String}
    (spells : Spells scalar value text) : HasBareEnds text := by
  cases spells with
  | truth value => cases value <;> decide
  | int32 value => exact hasBareEnds_toString value.toInt
  | int64 value => exact hasBareEnds_toString value.toInt
  | timestamp value => exact hasBareEnds_toString value.toInt
  | text bare => exact bare
  | bytes bare => exact bare

/-- The text is read as the value, a timestamp as its number. Either is the same literal. -/
theorem Spells.exists_scalarValue {scalar : ScalarType} {value : Value} {text : String}
    (spells : Spells scalar value text) :
    ∃ read, scalarValue scalar text = .ok read ∧
      ∀ type, read.literalAs type = value.literalAs type := by
  cases spells with
  | truth value =>
      refine ⟨.bool value, ?_, fun _ => rfl⟩
      cases value <;> rfl
  | int32 value =>
      have low := value.le_toInt
      have high := value.toInt_lt
      refine ⟨.int32 value, ?_, fun _ => rfl⟩
      rw [scalarValue, Number.integerWithin?_toString low (by omega)]
      simp only [Int32.ofInt_toInt]
  | int64 value =>
      have low := value.le_toInt
      have high := value.toInt_lt
      refine ⟨.int64 value, ?_, fun _ => rfl⟩
      rw [scalarValue, Number.integerWithin?_toString low (by omega)]
      simp only [Int64.ofInt_toInt]
  | timestamp value =>
      have low := value.le_toInt
      have high := value.toInt_lt
      refine ⟨.int64 value, ?_, fun type => by cases type <;> rfl⟩
      rw [scalarValue, Number.integerWithin?_toString low (by omega)]
      simp only [Int64.ofInt_toInt]
  | text bare => exact ⟨.string text, rfl, fun _ => rfl⟩
  | bytes bare => exact ⟨.bytes (utf8Bytes text), rfl, fun _ => rfl⟩

section Compilation

variable {catalog : Catalog} {entity filter : String} {criterion : Criterion}

theorem IsWrittenFor.exists_split (written : IsWrittenFor catalog entity filter criterion) :
    ∃ (field : Field) (scalar : ScalarType) (value : Value) (text : String),
      catalog.StoresField entity field ∧ field.type = .scalar scalar ∧
      Spells scalar value text ∧ splitFilter filter = .ok (field.name, text) ∧
      criterion = .compare field.name .equal value := by
  cases written with
  | equation stored typed unequal bare spells blankBefore blankBetween blankBehind blankAfter =>
      exact ⟨_, _, _, _, stored, typed, spells,
        splitFilter_padded unequal bare spells.hasBareEnds blankBefore blankBetween blankBehind
          blankAfter, rfl⟩

theorem filterCriterion_of_error {fault : Error} (unmapped : catalog.mapping entity = .error fault)
    (written : IsWrittenFor catalog entity filter criterion) :
    filterCriterion catalog entity filter = .error (.compile fault) := by
  obtain ⟨field, scalar, value, text, -, -, -, split, -⟩ := written.exists_split
  unfold filterCriterion Catalog.findField
  rw [split, unmapped]
  rfl

theorem exists_filterCriterion {mapping : Mapping} (mapped : catalog.mapping entity = .ok mapping)
    (written : IsWrittenFor catalog entity filter criterion) :
    ∃ read, filterCriterion catalog entity filter = .ok read ∧
      catalog.condition mapping read = catalog.condition mapping criterion := by
  obtain ⟨field, scalar, value, text, stored, typed, spells, split, rfl⟩ := written.exists_split
  have member := (Catalog.storesField_iff mapped).mp stored
  have found := Catalog.field?_of_mem mapped (List.mem_of_mem_filter member)
  obtain ⟨read, scalarRead, alike⟩ := spells.exists_scalarValue
  have valued : fieldValue (mapping.field? field.name) text = .ok read := by
    simp only [fieldValue, found, Option.bind_some, typed, FieldType.scalar?, scalarRead]
  refine ⟨.compare field.name .equal read, ?_, ?_⟩
  · unfold filterCriterion Catalog.findField
    rw [split, mapped]
    simp only [Except.mapError, bind, Except.bind, valued]
  · simp only [Catalog.condition, alike]

theorem exists_filterCriteria {mapping : Mapping} (mapped : catalog.mapping entity = .ok mapping)
    {filters : List String} {criteria : List Criterion}
    (written : List.Forall₂ (IsWrittenFor catalog entity) filters criteria) :
    ∃ read, filters.mapM (filterCriterion catalog entity) = .ok read ∧
      read.mapM (catalog.condition mapping) = criteria.mapM (catalog.condition mapping) := by
  induction written with
  | nil => exact ⟨[], rfl, rfl⟩
  | cons firstWritten _ ih =>
      obtain ⟨first, firstRead, firstAlike⟩ := exists_filterCriterion mapped firstWritten
      obtain ⟨others, othersRead, othersAlike⟩ := ih
      refine ⟨first :: others, ?_, ?_⟩
      · rw [List.mapM_cons, firstRead, othersRead]
        rfl
      · rw [List.mapM_cons, List.mapM_cons, firstAlike, othersAlike]

theorem compile_select_of_read {filters : List String} {read criteria : List Criterion}
    {mapping : Mapping} (mapped : catalog.mapping entity = .ok mapping)
    (filtersRead : filters.mapM (filterCriterion catalog entity) = .ok read)
    (alike : read.mapM (catalog.condition mapping) = criteria.mapM (catalog.condition mapping))
    (limit offset : Nat) :
    compile catalog (.select entity filters limit offset) =
      ((catalog.select { entity, criteria, limit, offset }).map fun statement =>
        [statement]).mapError .compile := by
  have same : catalog.select { entity, criteria := read, limit, offset } =
      catalog.select { entity, criteria, limit, offset } := by
    simp only [Catalog.select, Catalog.selection, mapped, bind, Except.bind] at alike ⊢
    rw [alike]
    rfl
  simp only [compile, filtersRead, same, bind, Except.bind]
  cases catalog.select { entity, criteria, limit, offset } <;> rfl

/-- The filters of a selection are as good as the criteria that they are written for: with them
the entity, the limit and the offset compile to the same statement, or fail for the same
reason. -/
theorem compile_select {filters : List String} {criteria : List Criterion}
    (written : List.Forall₂ (IsWrittenFor catalog entity) filters criteria)
    (limit offset : Nat) :
    compile catalog (.select entity filters limit offset) =
      ((catalog.select { entity, criteria, limit, offset }).map fun statement =>
        [statement]).mapError .compile := by
  cases mapped : catalog.mapping entity with
  | ok mapping =>
      obtain ⟨read, filtersRead, alike⟩ := exists_filterCriteria mapped written
      exact compile_select_of_read mapped filtersRead alike limit offset
  | error fault =>
      have refused : ∀ criteria, catalog.select { entity, criteria, limit, offset } =
          .error fault := by
        intro criteria
        rw [Catalog.select, Catalog.selection, mapped]
        rfl
      cases written with
      | nil =>
          simp only [compile, List.mapM_nil, refused, pure, Except.pure, bind, Except.bind]
          rfl
      | cons firstWritten _ =>
          simp only [compile, List.mapM_cons, filterCriterion_of_error mapped firstWritten,
            refused]
          rfl

end Compilation

/-! ## Visits -/

def visitField (name : String) (scalar : ScalarType) : Field :=
  { name, type := .scalar scalar, isPrimaryKey := name == "id" }

def visitFields : List Field := [
  visitField "id" .int64, visitField "guests" .int32, visitField "start" .timestamp,
  visitField "open" .bool, visitField "note" .string, visitField "mark" .bytes]

def visitCatalog : Catalog where
  schema := ⟨[{ name := "Visit", fields := visitFields }]⟩

def visitFilters : List String := [
  "id=-9223372036854775808", " guests = 7 ", "start=0", "\u00a0open =true",
  "note= it's a=b\u3000", "mark=é"]

def visitCriteria : List Criterion := [
  .compare "id" .equal (.int64 (-9223372036854775808)), .compare "guests" .equal (.int32 7),
  .compare "start" .equal (.timestamp 0), .compare "open" .equal (.bool true),
  .compare "note" .equal (.string "it's a=b"), .compare "mark" .equal (.bytes [0xC3, 0xA9])]

example : (compile visitCatalog (.select "Visit" visitFilters 10 20)).map
    (List.map Statement.render) = .ok ["SELECT * FROM visit WHERE id = -9223372036854775808 AND " ++
      "guests = 7 AND start = 0 AND open = 1 AND note = 'it''s a=b' AND mark = X'c3a9' " ++
      "LIMIT 10 OFFSET 20"] := by
  decide +kernel

theorem isWrittenFor_visit {filter name text : String} {scalar : ScalarType} {value : Value}
    (before between behind after : String) (spells : Spells scalar value text)
    (shape : before ++ name ++ between ++ "=" ++ (behind ++ text ++ after) = filter)
    (named : visitField name scalar ∈ visitFields ∧ '=' ∉ name.toList ∧ HasBareEnds name)
    (blank : AllBlank before ∧ AllBlank between ∧ AllBlank behind ∧ AllBlank after) :
    IsWrittenFor visitCatalog "Visit" filter (.compare name .equal value) := by
  obtain ⟨blankBefore, blankBetween, blankBehind, blankAfter⟩ := blank
  have stored : visitCatalog.StoresField "Visit" (visitField name scalar) :=
    ⟨_, rfl, named.1, rfl, rfl⟩
  rw [← shape]
  exact @IsWrittenFor.equation _ _ (visitField name scalar) scalar value text before between
    behind after stored rfl named.2.1 named.2.2 spells blankBefore blankBetween blankBehind
    blankAfter

theorem areWrittenFor_visits :
    List.Forall₂ (IsWrittenFor visitCatalog "Visit") visitFilters visitCriteria :=
  .cons (isWrittenFor_visit "" "" "" "" (.int64 _) rfl (by decide) (by decide)) <|
  .cons (isWrittenFor_visit " " " " " " " " (.int32 _) rfl (by decide) (by decide)) <|
  .cons (isWrittenFor_visit "" "" "" "" (.timestamp _) rfl (by decide) (by decide)) <|
  .cons (isWrittenFor_visit "\u00a0" " " "" "" (.truth _) rfl (by decide) (by decide)) <|
  .cons (isWrittenFor_visit "" "" " " "\u3000" (.text (by decide)) rfl (by decide) (by decide)) <|
  .cons (isWrittenFor_visit "" "" "" "" (@Spells.bytes "é" (by decide)) rfl (by decide)
    (by decide)) .nil

theorem compile_select_visits :
    List.Forall₂ (IsWrittenFor visitCatalog "Visit") visitFilters visitCriteria ∧
      compile visitCatalog (.select "Visit" visitFilters 10 20) =
        ((visitCatalog.select
            { entity := "Visit", criteria := visitCriteria, limit := 10, offset := 20 }).map
          fun statement => [statement]).mapError .compile :=
  ⟨areWrittenFor_visits, compile_select areWrittenFor_visits 10 20⟩

end CommandLine

end Persistence
