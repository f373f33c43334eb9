import SqlDialect.Proofs.Tied.Db2
import SqlDialect.Proofs.Tied.Order

/-!
# Placeholders and values line up

The values of a statement are handed over apart from its text, so the first of them has to be for
the first placeholder, and so on. The statements of the builder are `Tied` to their values, and what
is shown here is in which order these values stand.

Where values are never moved, statements hold the bindings of their query as they are
(`select_aligned_flatten`). Where rows are numbered, a statement moves the values of its order, and
so do its sub-queries; but a query binds the values of its sub-queries before they move. So a
statement of DB2 always holds its values, and it holds them in order unless some sub-query rotates
(`Db2.Connection.Rotates`), which is what `Db2.Connection.tiedStatement_aligned` says.
-/

namespace SqlDialect

variable {steps : List Step}

/-! ## Values that are not moved -/

namespace Dialect.Tying

variable {d : Dialect} {T : d.Tying}

theorem aligned_rebind (hbuild : Step.allBuild steps = true) (htidy : Step.AllTidy steps)
    (hkeeps : ∀ sub ∈ Step.allSubqueries steps, d.KeepsOrder (Query.build sub)) :
    (T.select steps).Aligned (d.select (Query.build steps))
      (d.rebind (Query.build steps)).flatten := by
  have hvalues : T.values steps = (d.rebind (Query.build steps)).flatten :=
    values_eq_of_keepsOrder hbuild htidy hkeeps
  exact hvalues ▸ aligned_select hbuild htidy

theorem aligned_flatten (hbuild : Step.allBuild steps = true) (htidy : Step.AllTidy steps)
    (hkeeps : ∀ q, d.KeepsOrder q) :
    (T.select steps).Aligned (d.select (Query.build steps)) (Query.build steps).bindings.flatten :=
  hkeeps (Query.build steps) ▸ aligned_rebind hbuild htidy fun sub _ => hkeeps (Query.build sub)

end Dialect.Tying

theorem Db2.Connection.keepsOrder_of_off {c : Db2.Connection}
    (hoff : c.settings.offsetCompatibility = false) (q : Query) : c.dialect.KeepsOrder q := by
  have hnone : c.numberedOffset? q = none := by simp [numberedOffset?, hoff]
  simp only [Dialect.KeepsOrder, dialect, hnone]

/-- **Placeholders line up with the bindings of the query** in standard SQL, and in DB2 unless rows
are numbered: the placeholders of the statement are written for the values of the query, one after
another, and there are as many of one as of the other. -/
theorem select_aligned_flatten (hbuild : Step.allBuild steps = true)
    (htidy : Step.AllTidy steps) :
    (∀ {tablePrefix : String} (h : Unmarked tablePrefix),
      ((Dialect.Tying.generic h).select steps).Aligned
          ((Dialect.generic tablePrefix).select (Query.build steps))
          (Query.build steps).bindings.flatten ∧
        ((Dialect.generic tablePrefix).select (Query.build steps)).toList.count '?' =
          (Query.build steps).bindings.flatten.length) ∧
    ∀ {c : Db2.Connection} (h : Unmarked c.settings.tablePrefix),
      c.settings.offsetCompatibility = false →
        ((c.tying h).select steps).Aligned (c.dialect.select (Query.build steps))
            (Query.build steps).bindings.flatten ∧
          (c.dialect.select (Query.build steps)).toList.count '?' =
            (Query.build steps).bindings.flatten.length := by
  constructor
  · intro tablePrefix h
    have haligned := Dialect.Tying.aligned_flatten (T := .generic h) hbuild htidy fun _ => rfl
    exact ⟨haligned, haligned.count⟩
  · intro c h hoff
    have haligned := Dialect.Tying.aligned_flatten (T := c.tying h) hbuild htidy fun q =>
      c.keepsOrder_of_off hoff q
    exact ⟨haligned, haligned.count⟩

/-- A query with values in all of its clauses, a group and a sub-query with an offset. -/
def reportSteps : List Step :=
  [.source "orders as o",
    .selectRaw "coalesce(total, ?) as total" [.int 0],
    .group
      [.compare .and (.named "o.state") "=" (.literal (.text "open")),
        .conditionRaw "placed > ?" [.text "2024"]],
    .inQuery (.named "customer_id")
      [.source "customers", .select ["id"],
        .between (.named "score") (.literal (.int 1)) (.literal (.int 5)) false,
        .orderBy "id" .ascending, .limit 3, .offset 10]
      false,
    .havingRaw "count(*) > ?" [.int 2],
    .orderByRaw "case when state = ? then 0 else 1 end" [.text "late"],
    .offset 20]

theorem allTidy_reportSteps : Step.AllTidy reportSteps := by
  simp only [reportSteps, Step.AllTidy, Step.Tidy, Column.Unmarked, Operand.Unmarked]
  decide

theorem select_aligned_flatten_reportSteps :
    Step.allBuild reportSteps = true ∧ Step.AllTidy reportSteps ∧
    ((Dialect.Tying.generic (by decide : Unmarked "app_")).select reportSteps).Aligned
      ((Dialect.generic "app_").select (Query.build reportSteps))
      [.int 0, .text "open", .text "2024", .int 1, .int 5, .int 2, .text "late"] ∧
    ((({ settings := { offsetCompatibility := false } } : Db2.Connection).tying
        (by decide : Unmarked "")).select reportSteps).Aligned
      (({ settings := { offsetCompatibility := false } } : Db2.Connection).dialect.select
        (Query.build reportSteps))
      [.int 0, .text "open", .text "2024", .int 1, .int 5, .int 2, .text "late"] := by
  have hall := @select_aligned_flatten reportSteps rfl allTidy_reportSteps
  exact ⟨rfl, allTidy_reportSteps, (hall.1 _).1, (hall.2 _ rfl).1⟩

/-! ## Values as they are bound -/

/-- A value as it is bound. -/
def Dialect.prepareValue (d : Dialect) : Value → Value
  | .timestamp t => .text (d.writeTimestamp t)
  | value => value

theorem Dialect.prepare_eq_map (d : Dialect) (values : List Value) :
    d.prepare values = values.map d.prepareValue := by
  refine List.map_congr_left fun value _ => ?_
  cases value <;> rfl

/-- A sign with its value as it is bound. -/
def Sign.prepared (d : Dialect) : Sign → Sign
  | .char c => .char c
  | .slot value => .slot (d.prepareValue value)

theorem Tied.Aligned.prepared (d : Dialect) {t : Tied} {sql : String} {values : List Value}
    (h : t.Aligned sql values) :
    Tied.Aligned (t.map (Sign.prepared d)) sql (d.prepare values) := by
  obtain ⟨rfl, hfull, rfl⟩ := h
  constructor
  case text_eq =>
    have hchar : Sign.toChar ∘ Sign.prepared d = Sign.toChar := by
      funext sign
      cases sign <;> rfl
    rw [Tied.text, Tied.text, List.map_map, hchar]
  case full =>
    intro hmem
    obtain ⟨sign, hsign, heq⟩ := List.mem_map.1 hmem
    cases sign with
    | char c => exact hfull (heq ▸ hsign)
    | slot value => cases heq
  case values_eq =>
    rw [Dialect.prepare_eq_map, Tied.values, Tied.values, List.filterMap_map, List.map_filterMap]
    congr 1
    funext sign
    cases sign <;> rfl

/-- The same values in the same order once they are prepared were in the same order before, if they
can still be told apart. -/
theorem Dialect.eq_of_prepare_eq {d : Dialect} {values others : List Value}
    (hperm : values.Perm others) (hnodup : (d.prepare others).Nodup)
    (h : d.prepare values = d.prepare others) : values = others := by
  rw [d.prepare_eq_map] at hnodup
  rw [d.prepare_eq_map, d.prepare_eq_map] at h
  refine List.ext_getElem hperm.length_eq fun i hi hi' => ?_
  refine List.inj_on_of_nodup_map hnodup (hperm.mem_iff.1 (List.getElem_mem hi))
    (List.getElem_mem hi') ?_
  have hat : (values.map d.prepareValue)[i]? = (others.map d.prepareValue)[i]? := by rw [h]
  simpa [hi, hi'] using hat

/-! ## Values that are moved -/

namespace Db2.Connection

variable (c : Db2.Connection)

/-- Rows are numbered and the values of the order are not the only ones behind those of the select
clause, so that their place is another one after they have moved. -/
def Rotates (q : Query) : Prop :=
  (c.numberedOffset? q).isSome ∧ q.bindings.get .order ≠ [] ∧
    (q.bindings.get .condition ≠ [] ∨ q.bindings.get .having ≠ [])

/-- The statement of the query that the steps build, in which each placeholder has the value that it
is written for as it is bound. -/
def tiedStatement (h : Unmarked c.settings.tablePrefix) (steps : List Step) : Tied :=
  ((c.tying h).select steps).map (Sign.prepared c.dialect)

variable {c}

theorem keepsOrder_of_not_rotates {q : Query} (h : ¬ c.Rotates q) : c.dialect.KeepsOrder q := by
  unfold Dialect.KeepsOrder
  rw [flatten_rebind, Bindings.flatten_eq, heldOrder]
  by_cases hnumbered : (c.numberedOffset? q).isSome = true
  · rw [if_pos hnumbered]
    by_cases horder : q.bindings.get .order = []
    · simp [Category.all, horder]
    · have hrest : q.bindings.get .condition = [] ∧ q.bindings.get .having = [] := by
        simpa [Rotates, hnumbered, horder] using h
      simp [Category.all, hrest]
  · rw [if_neg hnumbered]

theorem not_rotates_of_keepsOrder {q : Query} (hnodup : q.bindings.flatten.Nodup)
    (h : c.dialect.KeepsOrder q) : ¬ c.Rotates q := by
  rintro ⟨hnumbered, horder, hrest⟩
  unfold Dialect.KeepsOrder at h
  rw [flatten_rebind, Bindings.flatten_eq, heldOrder, if_pos hnumbered] at h
  rw [Bindings.flatten_eq] at hnodup
  simp only [Category.all, List.flatMap_cons, List.flatMap_nil, List.append_nil,
    List.append_cancel_left_eq] at h hnodup
  rw [← List.append_assoc (q.bindings.get .condition)] at h hnodup
  -- The values of the order stand behind the others and, moved, before them.
  have hmoved := List.nodup_append.1 hnodup |>.2.1
  rcases eq_nil_or_eq_nil_of_append_comm hmoved h.symm with hnone | hnone
  · obtain ⟨hcondition, hhaving⟩ := List.append_eq_nil_iff.1 hnone
    exact hrest.elim (fun hne => hne hcondition) fun hne => hne hhaving
  · exact horder hnone

/-- **Which value a placeholder of DB2 is for.** A statement holds its values, each once, and has as
many question marks. The placeholders line up with the values, in order, if no sub-query rotates; if
one does, and the values are told apart, they do not. -/
theorem tiedStatement_aligned (h : Unmarked c.settings.tablePrefix)
    (hbuild : Step.allBuild steps = true) (htidy : Step.AllTidy steps) :
    (∃ values, (c.tiedStatement h steps).Aligned (c.statement (Query.build steps)).sql values ∧
      values.Perm (c.statement (Query.build steps)).values) ∧
    (c.statement (Query.build steps)).sql.toList.count '?' =
      (c.statement (Query.build steps)).values.length ∧
    ((∀ sub ∈ Step.allSubqueries steps, ¬ c.Rotates (Query.build sub)) →
      (c.tiedStatement h steps).Aligned (c.statement (Query.build steps)).sql
        (c.statement (Query.build steps)).values) ∧
    ((c.statement (Query.build steps)).values.Nodup →
      (c.tiedStatement h steps).Aligned (c.statement (Query.build steps)).sql
        (c.statement (Query.build steps)).values →
      ∀ sub ∈ Step.allSubqueries steps, ¬ c.Rotates (Query.build sub)) := by
  have haligned : (c.tiedStatement h steps).Aligned (c.statement (Query.build steps)).sql
      (c.dialect.prepare ((c.tying h).values steps)) :=
    (Dialect.Tying.aligned_select hbuild htidy).prepared c.dialect
  have hvalues : ((c.tying h).values steps).Perm (c.dialect.rebind (Query.build steps)).flatten :=
    Dialect.Tying.values_perm hbuild htidy
  have hperm : (c.dialect.prepare ((c.tying h).values steps)).Perm
      (c.statement (Query.build steps)).values := hvalues.map _
  refine ⟨⟨_, haligned, hperm⟩, haligned.count.trans hperm.length_eq, ?_, ?_⟩
  · intro hnone
    have hkeeps : ∀ sub ∈ Step.allSubqueries steps, c.dialect.KeepsOrder (Query.build sub) :=
      fun sub hsub => keepsOrder_of_not_rotates (hnone sub hsub)
    exact (Dialect.Tying.aligned_rebind hbuild htidy hkeeps).prepared c.dialect
  · intro hnodup hinOrder sub hsub
    have hsame : (c.tying h).values steps = (c.dialect.rebind (Query.build steps)).flatten :=
      Dialect.eq_of_prepare_eq hvalues hnodup
        (haligned.values_eq.symm.trans hinOrder.values_eq)
    have hrebound : (c.dialect.rebind (Query.build steps)).flatten.Nodup :=
      List.Nodup.of_map _ hnodup
    obtain ⟨hsubNodup, hkeeps⟩ :=
      Dialect.Tying.keepsOrder_of_values_eq hbuild htidy hrebound hsame sub hsub
    exact not_rotates_of_keepsOrder hsubNodup hkeeps

theorem unmarked_default : Unmarked ({} : Connection).settings.tablePrefix := by decide

theorem not_rotates_reportSteps :
    ∀ sub ∈ Step.allSubqueries reportSteps, ¬ ({} : Connection).Rotates (Query.build sub) := by
  intro sub hsub
  rw [List.mem_singleton.1 hsub]
  exact fun hrotates => hrotates.2.1 rfl

theorem nodup_reportSteps :
    (({} : Connection).statement (Query.build reportSteps)).values.Nodup := by
  have hvalues : (({} : Connection).statement (Query.build reportSteps)).values =
      [.int 0, .text "late", .text "open", .text "2024", .int 1, .int 5, .int 2] := rfl
  rw [hvalues]
  simp

theorem tiedStatement_aligned_reportSteps :
    Step.allBuild reportSteps = true ∧ Step.AllTidy reportSteps ∧
    (({} : Connection).statement (Query.build reportSteps)).values.Nodup ∧
    (({} : Connection).tiedStatement unmarked_default reportSteps).Aligned
      (({} : Connection).statement (Query.build reportSteps)).sql
      [.int 0, .text "late", .text "open", .text "2024", .int 1, .int 5, .int 2] ∧
    ∀ sub ∈ Step.allSubqueries reportSteps, ¬ ({} : Connection).Rotates (Query.build sub) := by
  have hall := tiedStatement_aligned unmarked_default rfl allTidy_reportSteps
  have haligned := hall.2.2.1 not_rotates_reportSteps
  exact ⟨rfl, allTidy_reportSteps, nodup_reportSteps, haligned,
    hall.2.2.2 nodup_reportSteps haligned⟩

/-- A sub-query that rotates: it has an offset, a value for its order and one for a condition. -/
def rotatedSteps : List Step :=
  [.source "orders",
    .inQuery (.named "customer_id")
      [.source "customers", .select ["id"],
        .compare .and (.named "state") "=" (.literal (.text "open")),
        .orderByRaw "case when region = ? then 0 else 1 end" [.text "north"], .offset 10]
      false]

set_option maxRecDepth 8000 in
/-- The first placeholder is for the region, and the first value is the state. -/
theorem tiedStatement_not_aligned_rotatedSteps :
    ({} : Connection).settings.offsetCompatibility = true ∧
    Step.allBuild rotatedSteps = true ∧ Step.AllTidy rotatedSteps ∧
    (({} : Connection).tiedStatement unmarked_default rotatedSteps).values =
      [.text "north", .text "open"] ∧
    (({} : Connection).statement (Query.build rotatedSteps)).values =
      [.text "open", .text "north"] ∧
    ¬ (({} : Connection).tiedStatement unmarked_default rotatedSteps).Aligned
      (({} : Connection).statement (Query.build rotatedSteps)).sql
      (({} : Connection).statement (Query.build rotatedSteps)).values := by
  have hheld : (({} : Connection).tiedStatement unmarked_default rotatedSteps).values =
      [.text "north", .text "open"] := rfl
  have hgiven : (({} : Connection).statement (Query.build rotatedSteps)).values =
      [.text "open", .text "north"] := rfl
  refine ⟨rfl, rfl, ?_, hheld, hgiven, fun h => ?_⟩
  · simp only [rotatedSteps, Step.AllTidy, Step.Tidy, Column.Unmarked, Operand.Unmarked]
    decide
  · have hsame := hheld.symm.trans (h.values_eq.trans hgiven)
    have hfirst := Value.text.inj (List.cons.inj hsame).1
    exact absurd hfirst (by decide)

end Db2.Connection

end SqlDialect
