import SqlDialect.Proofs.InPlace.Existence
import SqlDialect.Proofs.NumberedForm

/-!
# What an existence check depends on

An existence check selects a column of its own from at most one row, and drops the columns of the
query with their values. So it is the same for all queries that describe the same rows
(`Query.SameRows`), and its values are those of the other clauses, in the order in which its text
holds them. If rows are numbered, the check keeps a single one: the first that is not left out.
-/

namespace SqlDialect

/-- Whether two queries describe the same rows: they may select other columns, with other values, and
another number of the rows. -/
structure Query.SameRows (q r : Query) : Prop where
  distinct : r.distinct = q.distinct
  source : r.source = q.source
  joins : r.joins = q.joins
  conditions : r.conditions = q.conditions
  groups : r.groups = q.groups
  havings : r.havings = q.havings
  orders : r.orders = q.orders
  offset : r.offset = q.offset
  values : ∀ category, category ≠ .select → r.bindings.get category = q.bindings.get category

namespace Db2

/-- The range of a single row holds the number behind the offset, or the largest number. -/
theorem text_rangeOf_one (offset : UInt64) :
    (RowRange.of offset (some 1)).text =
      "between " ++ (min (offset.toNat + 1) (UInt64.size - 1)).repr ++
        " and " ++ (min (offset.toNat + 1) (UInt64.size - 1)).repr :=
  rfl

namespace Connection

variable {c : Connection} {q r : Query}

/-! ## Queries with the same rows -/

theorem existenceQuery_of_sameRows (h : q.SameRows r) :
    existenceQuery r = { existenceQuery q with bindings := (existenceQuery r).bindings } := by
  simp only [existenceQuery, h.distinct, h.source, h.joins, h.conditions, h.groups, h.havings,
    h.orders, h.offset]

theorem get_set_select_of_sameRows (h : q.SameRows r) :
    (r.bindings.set .select []).get = (q.bindings.set .select []).get := by
  funext category
  rw [Bindings.get_set, Bindings.get_set]
  split
  · rfl
  · next hcategory => exact h.values category hcategory

theorem heldOrder_of_sameRows (h : q.SameRows r) : c.heldOrder r = c.heldOrder q := by
  have hoffset : activeOffset? r = activeOffset? q := by rw [activeOffset?, h.offset, activeOffset?]
  rw [heldOrder, numberedOffset?, hoffset, heldOrder, numberedOffset?]

/-- An existence check is made of its query, and of the values in the order of their clauses. -/
theorem existenceStatement_eq (q : Query) :
    c.existenceStatement q =
      ⟨c.dialect.select (existenceQuery q),
        c.dialect.prepare ((c.heldOrder q).flatMap (q.bindings.set .select []).get)⟩ := by
  rw [existenceStatement, Dialect.statement, flatten_rebind_existenceQuery]

/-- An existence check does not show what is selected, nor how many of the rows. -/
theorem existenceStatement_of_sameRows (h : q.SameRows r) :
    c.existenceStatement r = c.existenceStatement q := by
  have hselect : c.dialect.select (existenceQuery r) = c.dialect.select (existenceQuery q) := by
    rw [existenceQuery_of_sameRows h, select_rebound]
  rw [existenceStatement_eq, existenceStatement_eq, hselect, heldOrder_of_sameRows h,
    get_set_select_of_sameRows h]

/-! ## Text and values -/

theorem values_existenceStatement_of_numbers (h : c.Numbers q) :
    (c.existenceStatement q).values = c.dialect.prepare
      (q.bindings.get .order ++ q.bindings.get .condition ++ q.bindings.get .having) := by
  rw [existenceStatement_eq, heldOrder, if_pos ((isSome_numberedOffset?_iff c q).2 h)]
  simp

theorem values_existenceStatement_of_not_numbers (h : ¬ c.Numbers q) :
    (c.existenceStatement q).values = c.dialect.prepare
      (q.bindings.get .condition ++ q.bindings.get .having ++ q.bindings.get .order) := by
  rw [existenceStatement_eq, heldOrder, if_neg (mt (isSome_numberedOffset?_iff c q).1 h)]
  simp [Category.all]

/-- The existence check of numbered rows keeps the first row that is not left out. -/
theorem sql_existenceStatement_of_offset (hcompat : c.settings.offsetCompatibility = true)
    {offset : UInt64} (hoffset : q.offset = some offset) (hactive : 0 < offset) :
    (c.existenceStatement q).sql =
      "select * from (" ++ c.dialect.select (c.numberedForm (existenceQuery q)) ++
        ") as temp_table where row_num " ++ (RowRange.of offset (some 1)).text := by
  rw [existenceStatement_eq]
  exact select_eq_numberedRows (existenceQuery q) hcompat hoffset hactive

/-- **What an existence check depends on.** It is the same for all queries with the same rows, and
its text is the one that tells whether there are rows. If rows are numbered, it keeps the single row
behind the offset, and the values of the order come first; otherwise they come last. The values of
the select clause are not among them. -/
theorem existenceStatement_depends (c : Connection) (q : Query) :
    (∀ r, q.SameRows r → c.existenceStatement r = c.existenceStatement q) ∧
    (c.existenceStatement q).sql = c.dialect.hasRows q ∧
    (∀ offset, c.settings.offsetCompatibility = true → q.offset = some offset → 0 < offset →
      (c.existenceStatement q).sql =
        "select * from (" ++ c.dialect.select (c.numberedForm (existenceQuery q)) ++
          ") as temp_table where row_num between " ++
            (min (offset.toNat + 1) (UInt64.size - 1)).repr ++ " and " ++
            (min (offset.toNat + 1) (UInt64.size - 1)).repr ∧
      (c.existenceStatement q).values = c.dialect.prepare
        (q.bindings.get .order ++ q.bindings.get .condition ++ q.bindings.get .having)) ∧
    (¬ c.Numbers q →
      (c.existenceStatement q).values = c.dialect.prepare
        (q.bindings.get .condition ++ q.bindings.get .having ++ q.bindings.get .order)) := by
  refine ⟨fun r hsame => existenceStatement_of_sameRows hsame, rfl, ?_,
    values_existenceStatement_of_not_numbers⟩
  intro offset hcompat hoffset hactive
  refine ⟨?_, values_existenceStatement_of_numbers ⟨hcompat, offset, hoffset, hactive⟩⟩
  rw [sql_existenceStatement_of_offset hcompat hoffset hactive, text_rangeOf_one]
  simp only [String.append_assoc]
  rfl

/-- The labelled users, but with other columns, another label and a limit. -/
def relabelled (offset : UInt64) : Query :=
  { labelled offset with
    columns := some [.named "id"]
    limit := some 50
    bindings := (labelled offset).bindings.set .select [.null] }

theorem existenceStatement_depends_relabelled :
    (labelled 3).SameRows (relabelled 3) ∧
    ({} : Connection).existenceStatement (relabelled 3) =
      ({} : Connection).existenceStatement (labelled 3) ∧
    (({} : Connection).existenceStatement (labelled 3)).sql =
      "select * from (" ++
        ({} : Connection).dialect.select
          (({} : Connection).numberedForm (existenceQuery (labelled 3))) ++
        ") as temp_table where row_num between 4 and 4" ∧
    (({} : Connection).existenceStatement (labelled 3)).values = [.int 9, .bool true, .int 1] ∧
    ¬ ({} : Connection).Numbers (labelled 0) ∧
    (({} : Connection).existenceStatement (labelled 0)).values = [.bool true, .int 1, .int 9] := by
  have hsame : (labelled 3).SameRows (relabelled 3) :=
    ⟨rfl, rfl, rfl, rfl, rfl, rfl, rfl, rfl, fun category hselect => by
      simp only [relabelled, Bindings.get_set, if_neg hselect]⟩
  have hplain : ¬ ({} : Connection).Numbers (labelled 0) := by decide
  obtain ⟨hrows, -, hnumbered, -⟩ := existenceStatement_depends {} (labelled 3)
  obtain ⟨hsql, hvalues⟩ := hnumbered 3 rfl rfl (by decide)
  exact ⟨hsame, hrows _ hsame, hsql, hvalues, hplain,
    (existenceStatement_depends {} (labelled 0)).2.2.2 hplain⟩

end Connection

end Db2

end SqlDialect
