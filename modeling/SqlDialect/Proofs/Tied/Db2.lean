import SqlDialect.Db2.Dialect
import SqlDialect.Proofs.Tied.Statement

/-!
# DB2 statements with their values

The decisions of DB2 with values in place. When rows are numbered, the order stands in the select
clause, and so do its placeholders: the values of the order come second
(`Db2.Connection.heldOrder`), which is where compiling moves them.
-/

namespace SqlDialect

open Tied (plain)

/-! ## Without trailing asterisks -/

namespace Tied

/-- The tied text without the asterisks it ends in. -/
def dropAsterisks (t : Tied) : Tied :=
  (t.reverse.dropWhile fun sign => sign.toChar == '*').reverse

/-- The asterisks that a tied text ends in. -/
def endAsterisks (t : Tied) : Tied :=
  (t.reverse.takeWhile fun sign => sign.toChar == '*').reverse

theorem dropAsterisks_append_endAsterisks (t : Tied) :
    t.dropAsterisks ++ t.endAsterisks = t := by
  rw [dropAsterisks, endAsterisks, ← List.reverse_append, List.takeWhile_append_dropWhile,
    List.reverse_reverse]

theorem values_endAsterisks (t : Tied) : t.endAsterisks.values = [] := by
  refine List.filterMap_eq_nil_iff.2 fun sign hmem => ?_
  have hstar : (sign.toChar == '*') = true :=
    List.all_eq_true.1 List.all_takeWhile sign (List.mem_reverse.1 hmem)
  cases sign with
  | char c => rfl
  | slot value => simp [Sign.toChar] at hstar

theorem Aligned.dropAsterisks {t : Tied} {sql : String} {values : List Value}
    (h : t.Aligned sql values) : t.dropAsterisks.Aligned (Db2.dropAsterisks sql) values where
  text_eq := by
    rw [← h.text_eq, Db2.dropAsterisks, text, text, String.toList_ofList, Tied.dropAsterisks,
      List.map_reverse, ← List.map_reverse (l := t), List.dropWhile_map]
    rfl
  full := by
    have hfull : Full (t.dropAsterisks ++ t.endAsterisks) :=
      t.dropAsterisks_append_endAsterisks.symm ▸ h.full
    exact (full_append.1 hfull).1
  values_eq := by
    have hvalues := values_append t.dropAsterisks t.endAsterisks
    rw [dropAsterisks_append_endAsterisks, values_endAsterisks, List.append_nil] at hvalues
    rw [← hvalues, h.values_eq]

end Tied

/-! ## Names and operands -/

namespace Db2

open Spelling (memberOperator)

theorem unmarked_correlationName {table : String} (h : Unmarked table) :
    Unmarked (correlationName table) := by
  unfold correlationName
  split
  · next name byname hsplit => exact (Identifier.unmarked_splitAlias? h hsplit).2
  · exact h

theorem unmarked_rangeText (r : RowRange) : Unmarked r.text := by
  unfold RowRange.text
  split
  · next last _ =>
    simp only [unmarked_append]
    exact ⟨⟨⟨by decide, unmarked_repr _⟩, by decide⟩, unmarked_repr _⟩
  · exact unmarked_append.2 ⟨by decide, unmarked_repr _⟩

theorem unmarked_upperColumn {s : Spelling} (h : s.KeepsUnmarked) (policy : CastPolicy)
    {column : Column} (hc : column.Unmarked) : Unmarked (upperColumn s policy column) := by
  cases column with
  | raw sql => exact hc
  | named name =>
    have hname : Unmarked (s.columnName name) := Spelling.unmarked_columnName h hc
    simp only [upperColumn]
    split
    · simp only [unmarked_append]
      exact ⟨⟨by decide, hname⟩, by decide⟩
    · simp only [unmarked_append]
      exact ⟨⟨by decide, hname⟩, by decide⟩

theorem unmarked_likeOperator? {operator like : String} (h : likeOperator? operator = some like) :
    Unmarked like := by
  simp only [likeOperator?] at h
  split at h
  · cases h
    decide
  · split at h
    · cases h
      decide
    · cases h

/-- An operand in upper case. -/
def tiedUpper : Operand → Tied
  | .raw sql => plain sql
  | .literal value => plain "UPPER(" ++ [.slot value] ++ plain ")"

/-- A comparison; one by `LIKE` or `NOT LIKE` is made in upper case. -/
def tiedCompare (s : Spelling) (policy : CastPolicy) (column : Column) (operator : String)
    (operand : Operand) : Tied :=
  match likeOperator? operator with
  | some like => plain (upperColumn s policy column ++ " " ++ like ++ " ") ++ tiedUpper operand
  | none => s.tiedComparison column operator operand

/-- Membership in a list; a single value is compared instead. -/
def tiedInList (s : Spelling) (column : Column) (operands : List Operand) (negated : Bool) :
    Tied :=
  match operands with
  | [.literal value] =>
    plain (s.column column ++ if negated then " <> " else " = ") ++ [.slot value]
  | operands => s.tiedList column operands negated

section Marks

variable {s : Spelling} (h : s.MarksValues) {column : Column} (hc : column.Unmarked)

include h

theorem aligned_upper {operand : Operand} (ho : operand.Unmarked) :
    (tiedUpper operand).Aligned (upperOperand s operand) operand.values := by
  cases operand with
  | raw sql => exact Tied.aligned_plain ho
  | literal value =>
    have hslot : s.operand (.literal value) = "?" := h.operand_eq _
    simp only [tiedUpper, upperOperand, hslot]
    exact Tied.Aligned.enclosed (by decide) (Tied.aligned_slot value) (by decide)

include hc

theorem aligned_compare (policy : CastPolicy) {operator : String} (hop : Unmarked operator)
    {operand : Operand} (ho : operand.Unmarked) :
    (tiedCompare s policy column operator operand).Aligned
      (compare s policy column operator operand) operand.values := by
  cases hlike : likeOperator? operator with
  | some like =>
    simp only [tiedCompare, compare, hlike]
    refine Tied.Aligned.plain_append ?_ (aligned_upper h ho)
    have hcolumn := unmarked_upperColumn h.toKeepsUnmarked policy hc
    exact unmarked_append.2 ⟨unmarked_spaced hcolumn (unmarked_likeOperator? hlike), by decide⟩
  | none =>
    simp only [tiedCompare, compare, hlike]
    exact h.aligned_comparison hc hop ho

theorem aligned_inList {operands : List Operand} (ho : ∀ o ∈ operands, o.Unmarked)
    (negated : Bool) :
    (tiedInList s column operands negated).Aligned (inList s column operands negated)
      (operands.flatMap Operand.values) := by
  have hcolumn : Unmarked (s.column column) := Spelling.unmarked_column h.toKeepsUnmarked hc
  have hword : Unmarked (if negated then " <> " else " = ") := by cases negated <;> decide
  rcases operands with _ | ⟨operand, _ | ⟨second, rest⟩⟩
  · exact h.aligned_list hc ho
  · cases operand with
    | literal value =>
      simp only [tiedInList, inList, h.operand_eq]
      exact Tied.Aligned.plain_append (unmarked_append.2 ⟨hcolumn, hword⟩)
        (Tied.aligned_slot value)
    | raw sql => exact h.aligned_list hc ho
  · cases operand <;> exact h.aligned_list hc ho

end Marks

/-! ## Numbered rows -/

/-- The select clause to which the row number is added. -/
def tiedNumberedColumns (s : Spelling) (columns : Option Tied) (source : Option String) : Tied :=
  match columns, source with
  | some columns, some source =>
    if endsInWildcard columns.text then
      columns.dropAsterisks ++ plain (s.table (correlationName source) ++ ".*, ")
    else if columns.text ≠ "" then columns ++ plain ", "
    else plain "select "
  | some columns, none => if columns.text ≠ "" then columns ++ plain ", " else plain "select "
  | none, _ => plain "select "

/-- The fragments of the statement that numbers the rows. -/
def tiedInner (s : Spelling) (q : Query) (ts : TiedFragments) : TiedFragments
  | .columns =>
    some (tiedNumberedColumns s (ts .columns) q.source ++ plain "row_number() over (" ++
      (ts .orders).getD (plain "order by 1") ++ plain ") as row_num")
  | .orders => none
  | .limit => none
  | p => ts p

/-- The statement of a query that leaves out rows. -/
def tiedPaginate (s : Spelling) (q : Query) (offset : UInt64) (ts : TiedFragments) : Tied :=
  plain "select * from (" ++ (tiedInner s q ts).concatenate ++
    plain (") as temp_table where row_num " ++ (RowRange.of offset q.limit).text)

/-- The values by category when those of the order stand behind those of the select clause. -/
def movedOrder (values : Category → List Value) : Category → List Value
  | .select => values .select ++ values .order
  | .order => []
  | c => values c

theorem flatMap_movedOrder (values : Category → List Value) :
    Category.all.flatMap (movedOrder values) =
      [.select, .order, .condition, .having].flatMap values := by
  simp [Category.all, movedOrder]

theorem get_relocate (b : Bindings) : (relocate b).get = movedOrder b.get := by
  have hrelocate : relocate b = (b.take .order).2.extend .select (b.get .order) := rfl
  funext c
  rw [hrelocate, Bindings.get_extend, Bindings.get_take, Bindings.get_take]
  cases c <;> rfl

section Paginate

variable {s : Spelling} (h : s.MarksValues) {q : Query}
  (hsource : ∀ table, q.source = some table → Unmarked table)

include h hsource

theorem aligned_numberedColumns {columns : Option Tied} {text : Option String}
    {values : List Value} (hcolumns : Tied.AlignedFragment columns text values) :
    (tiedNumberedColumns s columns q.source).Aligned (numberedColumns s text q.source) values := by
  -- What is written unless the clause ends in a wildcard.
  have hplain : ∀ {t : Tied} {sql : String}, t.Aligned sql values →
      Tied.Aligned (if t.text ≠ "" then t ++ plain ", " else plain "select ")
        (if sql ≠ "" then sql ++ ", " else "select ") values := by
    intro t sql ht
    rw [ht.text_eq]
    by_cases hsql : sql = ""
    · have hvalues : values = [] := by
        rw [← ht.values_eq, ht.nil_iff.2 hsql]
        rfl
      rw [if_neg (Decidable.not_not.2 hsql), if_neg (Decidable.not_not.2 hsql), hvalues]
      exact Tied.aligned_plain (by decide)
    · rw [if_pos hsql, if_pos hsql]
      exact ht.append_plain (by decide)
  cases columns <;> cases text
  case none.none =>
    have hvalues : values = [] := hcolumns
    rw [hvalues]
    exact Tied.aligned_plain (by decide)
  case none.some => exact hcolumns.elim
  case some.none => exact hcolumns.elim
  case some.some t sql =>
    have ht : t.Aligned sql values := hcolumns
    cases htable : q.source with
    | none => exact hplain ht
    | some table =>
      simp only [tiedNumberedColumns, numberedColumns]
      have hname : Unmarked (s.table (correlationName table)) :=
        Spelling.unmarked_table h.toKeepsUnmarked (unmarked_correlationName (hsource table htable))
      by_cases hstar : endsInWildcard sql = true
      · rw [ht.text_eq, if_pos hstar, if_pos hstar, String.append_assoc]
        exact ht.dropAsterisks.append_plain (unmarked_append.2 ⟨hname, by decide⟩)
      · have hrest := hplain ht
        rw [ht.text_eq] at hrest ⊢
        rw [if_neg hstar, if_neg hstar]
        exact hrest

/-- The fragments of the statement that numbers the rows hold the values of the order in the select
clause. -/
theorem aligned_inner {ts : TiedFragments} {f : Fragments} {values : Category → List Value}
    (hts : ts.Aligned f values) :
    (tiedInner s q ts).Aligned
      (((f.erase .orders).erase .limit).insert .columns
        (overClause (f.orders.getD "order by 1") (numberedColumns s f.columns q.source)))
      (movedOrder values) := by
  have hcolumns := aligned_numberedColumns h hsource (hts .columns)
  have horders : ((ts .orders).getD (plain "order by 1")).Aligned (f.orders.getD "order by 1")
      (values .order) := (hts .orders).getD (by decide)
  intro p
  cases p with
  | columns =>
    have hnumber : Unmarked "row_number() over (" := by decide
    have hover := (hcolumns.append_plain hnumber).append horders
    exact hover.append_plain (by decide)
  | orders => rfl
  | limit => rfl
  | source => exact hts .source
  | joins => exact hts .joins
  | conditions => exact hts .conditions
  | groups => exact hts .groups
  | havings => exact hts .havings
  | offset => exact hts .offset

theorem aligned_paginate (offset : UInt64) {ts : TiedFragments} {f : Fragments}
    {values : Category → List Value} (hts : ts.Aligned f values) :
    (tiedPaginate s q offset ts).Aligned (paginate s q offset f)
      (Category.all.flatMap (movedOrder values)) := by
  have hinner := (aligned_inner h hsource hts).concatenate
  have hrange : Unmarked (") as temp_table where row_num " ++ (RowRange.of offset q.limit).text) :=
    unmarked_append.2 ⟨by decide, unmarked_rangeText _⟩
  have hfrom : Unmarked "select * from (" := by decide
  have hall := Tied.Aligned.enclosed hfrom hinner hrange
  rw [← String.append_assoc] at hall
  exact hall

end Paginate

/-! ## Connections -/

namespace Connection

variable (c : Connection)

theorem marksValues (h : Unmarked c.settings.tablePrefix) : c.dialect.MarksValues where
  tablePrefix := h
  quote := by
    intro segment hsegment
    show Unmarked (c.quote segment)
    unfold quote
    split
    · exact Identifier.unmarked_quoted hsegment
    · exact Identifier.unmarked_doubled hsegment
  operand_eq := fun _ => rfl
  limit := by
    intro rows
    simp only [dialect]
    split
    · exact unmarked_append.2 ⟨unmarked_append.2 ⟨by decide, unmarked_repr _⟩, by decide⟩
    · exact Dialect.unmarked_limitClause rows
  offset := by
    intro rows
    simp only [dialect]
    split
    · decide
    · exact Dialect.unmarked_offsetClause rows

/-- The categories in the order in which the statement of a query holds their placeholders. -/
def heldOrder (q : Query) : List Category :=
  if (c.numberedOffset? q).isSome then [.select, .order, .condition, .having] else Category.all

variable {c}

theorem heldOrder_perm (q : Query) : (c.heldOrder q).Perm Category.all := by
  unfold heldOrder
  split
  · exact .cons _ (by decide)
  · exact .refl _

theorem flatten_rebind (q : Query) :
    (c.dialect.rebind q).flatten = (c.heldOrder q).flatMap q.bindings.get := by
  simp only [dialect, heldOrder]
  cases c.numberedOffset? q with
  | none => exact q.bindings.flatten_eq
  | some offset =>
    rw [Option.isSome_some, if_pos rfl, ← flatMap_movedOrder, ← get_relocate,
      ← Bindings.flatten_eq]

/-- The decisions of DB2, with values in place. -/
def tying (h : Unmarked c.settings.tablePrefix) : c.dialect.Tying where
  marks := c.marksValues h
  compare := tiedCompare c.spelling c.castPolicy
  inList := tiedInList c.spelling
  assemble := fun q ts =>
    match c.numberedOffset? q with
    | some offset => tiedPaginate c.spelling q offset ts
    | none => ts.concatenate
  order := c.heldOrder
  aligned_compare := fun hc hop ho =>
    aligned_compare (c.marksValues h).toMarksValues hc c.castPolicy hop ho
  aligned_inList := fun negated hc ho =>
    aligned_inList (c.marksValues h).toMarksValues hc ho negated
  aligned_assemble := by
    intro q ts f values hsource hts
    simp only [dialect, heldOrder]
    cases c.numberedOffset? q with
    | none => exact hts.concatenate
    | some offset =>
      rw [Option.isSome_some, if_pos rfl, ← flatMap_movedOrder]
      exact aligned_paginate (c.marksValues h).toMarksValues hsource offset hts
  order_perm := heldOrder_perm
  flatten_rebind := flatten_rebind

end Connection

end Db2

end SqlDialect
