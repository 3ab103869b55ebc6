import Persistence.Proofs.Sql.Effect

/-!
# Rows of links

The rows of a join table when the links of one owner are replaced: rows with other counterparts
are removed, then one row is added for each counterpart that has none. A row without a known
counterpart is neither removed, unless all rows of the owner are, nor taken for a link.
-/

set_option autoImplicit false

namespace Persistence.TableRow

/-! ## Rows removed and added -/

variable {columns : List String} {tests : List (TableRow → Truth)} {rows : List TableRow}
  {row : TableRow} {kept : TableRow → Bool}

theorem mem_removeFrom :
    row ∈ removeFrom tests rows ↔ row ∈ rows ∧ ∃ test ∈ tests, test row ≠ .yes := by
  simp [removeFrom]

theorem filter_removeFrom
    (spared : ∀ row, kept row = true → ∃ test ∈ tests, test row ≠ .yes) :
    (removeFrom tests rows).filter kept = rows.filter kept := by
  rw [removeFrom, List.filter_filter]
  apply List.filter_congr
  intro row _
  cases isKept : kept row with
  | false => rfl
  | true => simpa using spared row isKept

theorem subset_addTo : rows ⊆ addTo columns row rows := by
  intro other member
  unfold addTo
  split
  · exact member
  · exact List.mem_append_left _ member

theorem mem_or_eq_of_mem_addTo {other : TableRow} (member : other ∈ addTo columns row rows) :
    other ∈ rows ∨ other = row := by
  unfold addTo at member
  split at member
  · exact .inl member
  · rcases List.mem_append.mp member with before | added
    · exact .inl before
    · exact .inr (List.mem_singleton.mp added)

theorem filter_addTo (excluded : kept row = false) :
    (addTo columns row rows).filter kept = rows.filter kept := by
  unfold addTo
  split
  · rfl
  · rw [List.filter_append, List.filter_singleton, excluded]
    exact List.append_nil _

theorem exists_same_of_addTo (rows : List TableRow)
    (known : ∀ column ∈ columns, row column ≠ .null) :
    ∃ other ∈ addTo columns row rows,
      ∀ column ∈ columns, (other column).equal (row column) = .yes := by
  unfold addTo
  split
  · rename_i present
    obtain ⟨other, member, same⟩ := List.any_eq_true.mp present
    refine ⟨other, member, fun column isColumn => ?_⟩
    simpa using List.all_eq_true.mp same column isColumn
  · exact ⟨row, List.mem_append_right _ List.mem_cons_self,
      fun column isColumn => Cell.equal_self (known column isColumn)⟩

theorem mem_addTo_of_null {column : String} (isColumn : column ∈ columns)
    (null : row column = .null) : row ∈ addTo columns row rows := by
  unfold addTo
  split
  · rename_i present
    obtain ⟨other, -, same⟩ := List.any_eq_true.mp present
    have compared : (other column).equal (row column) = .yes := by
      simpa using List.all_eq_true.mp same column isColumn
    rw [null, Cell.equal_eq_unknown.mpr (.inr rfl)] at compared
    cases compared
  · exact List.mem_append_right _ List.mem_cons_self

/-! ## The links of an owner -/

section Links

variable (own other : String) (owner : Cell)

def link (counterpart : Cell) : TableRow := .ofColumns [own, other] [owner, counterpart]

def removeStale (counterparts : List Cell) : List TableRow → List TableRow :=
  removeFrom [fun row => (row own).equal owner,
    fun row => ((row other).isAmong counterparts).not]

def addLinks (counterparts : List Cell) (rows : List TableRow) : List TableRow :=
  counterparts.foldl
    (fun rows counterpart => addTo [own, other] (link own other owner counterpart) rows) rows

/-- The rows when the links of the owner have been made those to the counterparts. -/
def reconciled (counterparts : List Cell) (rows : List TableRow) : List TableRow :=
  addLinks own other owner counterparts (removeStale own other owner counterparts rows)

/-- The rows that are not certainly of the owner. -/
def othersOf (rows : List TableRow) : List TableRow :=
  rows.filter fun row => (row own).equal owner != .yes

/-- The owner has a row with each of the counterparts that are known. -/
def HasLinks (counterparts : List Cell) (rows : List TableRow) : Prop :=
  ∀ counterpart ∈ counterparts, counterpart ≠ .null →
    ∃ row ∈ rows, (row own).equal owner = .yes ∧ (row other).equal counterpart = .yes

def HasNoOtherLinks (counterparts : List Cell) (rows : List TableRow) : Prop :=
  ∀ row ∈ rows, (row own).equal owner = .yes →
    ∃ counterpart ∈ counterparts, (row other).equal counterpart = .yes

end Links

variable {own other : String} {owner counterpart : Cell} {counterparts : List Cell}

theorem link_own : link own other owner counterpart own = owner := by
  simp [link, ofColumns]

theorem link_other (different : own ≠ other) :
    link own other owner counterpart other = counterpart := by
  have others : (other == own) = false := by simpa using different.symm
  simp [link, ofColumns, List.lookup_cons, others]

theorem removeStale_nil :
    removeStale own other owner [] = removeFrom [fun row => (row own).equal owner] := by
  funext rows
  simp [removeStale, removeFrom, Cell.isAmong, Truth.not]

theorem mem_removeStale :
    row ∈ removeStale own other owner counterparts rows ↔
      row ∈ rows ∧
        ((row own).equal owner ≠ .yes ∨ (row other).isAmong counterparts ≠ .no) := by
  rw [removeStale, mem_removeFrom]
  simp [Truth.not_eq_yes]

theorem addLinks_cons (first : Cell) (rest : List Cell) (rows : List TableRow) :
    addLinks own other owner (first :: rest) rows =
      addLinks own other owner rest
        (addTo [own, other] (link own other owner first) rows) :=
  rfl

theorem subset_addLinks : rows ⊆ addLinks own other owner counterparts rows := by
  induction counterparts generalizing rows with
  | nil => exact List.Subset.refl rows
  | cons first rest ih => exact List.Subset.trans subset_addTo ih

theorem of_mem_addLinks (member : row ∈ addLinks own other owner counterparts rows) :
    row ∈ rows ∨ ∃ counterpart ∈ counterparts, row = link own other owner counterpart := by
  induction counterparts generalizing rows with
  | nil => exact .inl member
  | cons first rest ih =>
      rcases ih member with earlier | ⟨counterpart, inRest, rfl⟩
      · rcases mem_or_eq_of_mem_addTo earlier with before | rfl
        · exact .inl before
        · exact .inr ⟨first, List.mem_cons_self, rfl⟩
      · exact .inr ⟨counterpart, List.mem_cons_of_mem first inRest, rfl⟩

theorem hasLinks_addLinks (different : own ≠ other) (known : owner ≠ .null) :
    HasLinks own other owner counterparts (addLinks own other owner counterparts rows) := by
  intro counterpart member counterpartKnown
  -- Rows are only added, so the row that the first link finds or adds is there at the end.
  induction counterparts generalizing rows with
  | nil => exact absurd member List.not_mem_nil
  | cons first rest ih =>
      rcases List.mem_cons.mp member with rfl | inRest
      · have linkKnown : ∀ column ∈ [own, other],
            link own other owner counterpart column ≠ .null := by
          simp [link_own, link_other different, known, counterpartKnown]
        obtain ⟨row, present, same⟩ := exists_same_of_addTo rows linkKnown
        have sameOwn := same own List.mem_cons_self
        have sameOther := same other (List.mem_cons_of_mem own List.mem_cons_self)
        rw [link_own] at sameOwn
        rw [link_other different] at sameOther
        rw [addLinks_cons]
        exact ⟨row, subset_addLinks present, sameOwn, sameOther⟩
      · exact ih inRest

theorem link_null_mem (different : own ≠ other) (member : .null ∈ counterparts) :
    link own other owner .null ∈ addLinks own other owner counterparts rows := by
  induction counterparts generalizing rows with
  | nil => exact absurd member List.not_mem_nil
  | cons first rest ih =>
      rcases List.mem_cons.mp member with rfl | inRest
      · have isColumn : other ∈ [own, other] := List.mem_cons_of_mem own List.mem_cons_self
        rw [addLinks_cons]
        exact subset_addLinks (mem_addTo_of_null isColumn (link_other different))
      · exact ih inRest

theorem filter_addLinks
    (excluded : ∀ counterpart, kept (link own other owner counterpart) = false) :
    (addLinks own other owner counterparts rows).filter kept = rows.filter kept := by
  induction counterparts generalizing rows with
  | nil => rfl
  | cons first rest ih => rw [addLinks_cons, ih, filter_addTo (excluded first)]

/-! ## Links replaced -/

theorem othersOf_reconciled (known : owner ≠ .null) :
    othersOf own owner (reconciled own other owner counterparts rows) =
      othersOf own owner rows := by
  rw [othersOf, reconciled, filter_addLinks, removeStale, filter_removeFrom, othersOf]
  · intro row others
    exact ⟨_, List.mem_cons_self, by simpa using others⟩
  · intro counterpart
    rw [link_own, Cell.equal_self known]
    rfl

theorem not_equal_of_null (null : row other = .null) :
    ¬ ∃ counterpart ∈ counterparts, (row other).equal counterpart = .yes := by
  rintro ⟨counterpart, -, same⟩
  rw [null, Cell.equal_eq_unknown.mpr (.inl rfl)] at same
  cases same

/-- The owner has no links but those to the counterparts exactly if there are none, or if they
are all known and so were those of the owner's rows. -/
theorem hasNoOtherLinks_reconciled_iff (different : own ≠ other) (known : owner ≠ .null) :
    HasNoOtherLinks own other owner counterparts
        (reconciled own other owner counterparts rows) ↔
      counterparts = [] ∨
        (.null ∉ counterparts ∧
          ∀ row ∈ rows, (row own).equal owner = .yes → row other ≠ .null) := by
  constructor
  · intro exact
    by_cases none : counterparts = []
    · exact .inl none
    · refine .inr ⟨fun null => ?_, fun row member owned null => ?_⟩
      -- A null among the counterparts would itself be linked.
      · have owned : (link own other owner .null own).equal owner = .yes := by
          rw [link_own]
          exact Cell.equal_self known
        exact not_equal_of_null (link_other different)
          (exact _ (link_null_mem different null) owned)
      -- A row without a counterpart is not known to be stale, so it would be spared.
      · have spared : row ∈ removeStale own other owner counterparts rows := by
          refine mem_removeStale.mpr ⟨member, .inr ?_⟩
          rw [null]
          exact Cell.isAmong_ne_no_of_null none
        exact not_equal_of_null null (exact row (subset_addLinks spared) owned)
  · intro condition row member owned
    rcases of_mem_addLinks member with before | ⟨counterpart, isCounterpart, rfl⟩
    · obtain ⟨earlier, spared⟩ := mem_removeStale.mp before
      have near : (row other).isAmong counterparts ≠ .no :=
        spared.resolve_left fun others => others owned
      rcases condition with rfl | ⟨counterpartsKnown, rowsKnown⟩
      · exact absurd rfl near
      · exact Cell.exists_equal_of_isAmong_ne_no near (rowsKnown row earlier owned)
          counterpartsKnown
    · rcases condition with rfl | ⟨counterpartsKnown, -⟩
      · exact absurd isCounterpart List.not_mem_nil
      · have counterpartKnown : counterpart ≠ .null := by
          rintro rfl
          exact counterpartsKnown isCounterpart
        refine ⟨counterpart, isCounterpart, ?_⟩
        rw [link_other different]
        exact Cell.equal_self counterpartKnown

end Persistence.TableRow
