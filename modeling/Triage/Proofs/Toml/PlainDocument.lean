import Triage.Toml.Document
import Triage.Proofs.Toml.PlainLine

/-!
# Plain documents

A plain document is a list of tables, each with a head of its own and entries of plain
values.  When no table and no key of a table comes twice and all integers have 64 bits,
its text is read as these tables with these entries, in the order in which they stand.
-/

namespace Triage.Toml

open Triage.Text

/-! ## Values -/

namespace PlainValue

/-- The integer has 64 bits. -/
def Has64Bits (value : Int) : Prop :=
  -9223372036854775808 ≤ value ∧ value ≤ 9223372036854775807

instance (value : Int) : Decidable (Has64Bits value) := inferInstanceAs (Decidable (_ ∧ _))

theorem has64Bits_natCast {number : Nat} (small : number ≤ 9223372036854775807) :
    Has64Bits number := by
  unfold Has64Bits
  omega

/-- All integers of the value have 64 bits. -/
def Fits : PlainValue → Prop
  | integer value => Has64Bits value
  | boolean _ => True
  | integers values => ∀ value ∈ values, Has64Bits value

/-- What is read from a value that fits. -/
def literal : PlainValue → Literal
  | integer value => .integer value
  | boolean value => .boolean value
  | integers values => .array (values.map .integer)

/-- What a plain value is as a value of a document. -/
def value : PlainValue → Value
  | integer value => .integer value
  | boolean value => .boolean value
  | integers values => .array (values.map .integer)

theorem integer?_of_has64Bits {value : Int} (has64Bits : Has64Bits value) :
    integer? value = some (.integer value) :=
  if_pos has64Bits

theorem mapM_integer?_of_has64Bits {values : List Int}
    (has64Bits : ∀ value ∈ values, Has64Bits value) :
    values.mapM integer? = some (values.map .integer) := by
  induction values with
  | nil => rfl
  | cons value later ih =>
      have fits := List.forall_mem_cons.mp has64Bits
      rw [List.mapM_cons, integer?_of_has64Bits fits.1, ih fits.2]
      rfl

theorem literal?_of_fits {value : PlainValue} (fits : value.Fits) :
    value.literal? = some value.literal := by
  cases value with
  | integer value => exact integer?_of_has64Bits fits
  | boolean value => rfl
  | integers values =>
      rw [literal?, mapM_integer?_of_has64Bits fits]
      rfl

theorem has64Bits_of_integer? {value : Int} {literal : Literal}
    (read : integer? value = some literal) : Has64Bits value := by
  unfold integer? at read
  split at read
  · assumption
  · contradiction

theorem has64Bits_of_mapM_integer? {values : List Int} {literals : List Literal}
    (read : values.mapM integer? = some literals) : ∀ value ∈ values, Has64Bits value := by
  induction values generalizing literals with
  | nil =>
      intro value isIn
      contradiction
  | cons value later ih =>
      rw [List.mapM_cons] at read
      obtain ⟨literal, isLiteral, readLater⟩ := Option.bind_eq_some_iff.mp read
      obtain ⟨literals, isLiterals, -⟩ := Option.bind_eq_some_iff.mp readLater
      exact List.forall_mem_cons.mpr ⟨has64Bits_of_integer? isLiteral, ih isLiterals⟩

/-- A value that is read fits. -/
theorem fits_of_literal? {value : PlainValue} {literal : Literal}
    (read : value.literal? = some literal) : value.Fits := by
  cases value with
  | integer value => exact has64Bits_of_integer? read
  | boolean value => trivial
  | integers values =>
      obtain ⟨literals, isLiterals, -⟩ := Option.map_eq_some_iff.mp read
      exact has64Bits_of_mapM_integer? isLiterals

theorem value?_literal (value : PlainValue) : value.literal.value? = some value.value := by
  have items : ∀ values : List Int,
      itemValues? (values.map .integer) = some (values.map .integer) := by
    intro values
    induction values with
    | nil => rfl
    | cons value later ih =>
        rw [List.map_cons, itemValues?, ih]
        rfl
  cases value with
  | integer value => rfl
  | boolean value => rfl
  | integers values =>
      rw [literal, Literal.value?, items]
      rfl

/-- Plain values are no tables that stand for moments. -/
theorem withMoments?_value (value : PlainValue) : value.value.withMoments? = some value.value := by
  have items : ∀ values : List Int,
      itemsWithMoments? (values.map .integer) = some (values.map .integer) := by
    intro values
    induction values with
    | nil => rfl
    | cons value later ih =>
        rw [List.map_cons, itemsWithMoments?, ih]
        rfl
  cases value with
  | integer value => rfl
  | boolean value => rfl
  | integers values =>
      rw [PlainValue.value, Value.withMoments?, items]
      rfl

end PlainValue

/-! ## Tables -/

/-- A table with its head and its entries. -/
structure PlainTable where
  key : BareKey
  entries : List (BareKey × PlainValue)

/-- The blanks in front of every line, and the blank lines in front of every head. -/
structure Layout where
  indent : Nat
  gap : Nat

namespace PlainTable

/-- The lines of the table. -/
def lines (layout : Layout) (table : PlainTable) : List PlainLine :=
  List.replicate layout.gap ⟨0, .nothing⟩ ++ ⟨layout.indent, .head table.key⟩ ::
    table.entries.map fun (key, value) => ⟨layout.indent, .entry key value⟩

/-- All values of the table fit. -/
def Fits (table : PlainTable) : Prop := ∀ entry ∈ table.entries, entry.2.Fits

/-- No key of the table comes twice. -/
def IsDistinct (table : PlainTable) : Prop := (table.entries.map fun entry => entry.1.name).Nodup

/-- The assignments that are read from the table. -/
def assignments (table : PlainTable) : List (List String × Literal) :=
  table.entries.map fun (key, value) => ([key.name], value.literal)

/-- The statements that are read from the table. -/
def statements (table : PlainTable) : List Statement :=
  .tableHead [table.key.name] :: table.assignments.map fun (key, literal) => .assign key literal

/-- The entries of the table in a document. -/
def value (table : PlainTable) : String × Value :=
  (table.key.name, .table (table.entries.map fun (key, value) => (key.name, value.value)))

end PlainTable

/-- The text of some tables. -/
def documentText (layout : Layout) (tables : List PlainTable) : String :=
  String.ofList (lineLetters (tables.flatMap (PlainTable.lines layout)))

/-! ## Statements -/

theorem lineStatements?_append (first later : List PlainLine) :
    lineStatements? (first ++ later) =
      (lineStatements? first).bind fun statements =>
        (lineStatements? later).map (statements ++ ·) := by
  induction first with
  | nil => simp [lineStatements?]
  | cons line first ih =>
      rw [List.cons_append, lineStatements?, lineStatements?, ih]
      cases line.content.statement? <;> cases lineStatements? first <;>
        cases lineStatements? later <;> simp

theorem lineStatements?_entries (indent : Nat) {entries : List (BareKey × PlainValue)}
    (fits : ∀ entry ∈ entries, entry.2.Fits) :
    lineStatements? (entries.map fun (key, value) => ⟨indent, .entry key value⟩) =
      some (entries.map fun (key, value) => .assign [key.name] value.literal) := by
  induction entries with
  | nil => rfl
  | cons entry later ih =>
      have fits := List.forall_mem_cons.mp fits
      rw [List.map_cons, lineStatements?, ih fits.2]
      simp [LineContent.statement?, PlainValue.literal?_of_fits fits.1]

theorem lineStatements?_gap (gap : Nat) :
    lineStatements? (List.replicate gap ⟨0, .nothing⟩) = some [] := by
  induction gap with
  | zero => rfl
  | succ gap ih =>
      rw [List.replicate_succ, lineStatements?, ih]
      rfl

/-- The lines of a table are read as its statements. -/
theorem lineStatements?_lines (layout : Layout) {table : PlainTable} (fits : table.Fits) :
    lineStatements? (table.lines layout) = some table.statements := by
  rw [PlainTable.lines, lineStatements?_append, lineStatements?_gap, lineStatements?,
    lineStatements?_entries layout.indent fits]
  simp [LineContent.statement?, PlainTable.statements, PlainTable.assignments]

/-- The lines of tables are read as their statements. -/
theorem lineStatements?_tables (layout : Layout) {tables : List PlainTable}
    (fits : ∀ table ∈ tables, table.Fits) :
    lineStatements? (tables.flatMap (PlainTable.lines layout)) =
      some (tables.flatMap PlainTable.statements) := by
  induction tables with
  | nil => rfl
  | cons table later ih =>
      have fits := List.forall_mem_cons.mp fits
      rw [List.flatMap_cons, lineStatements?_append, lineStatements?_lines layout fits.1,
        ih fits.2]
      rfl

/-- Lines that are read give no value that does not fit. -/
theorem fits_of_lineStatements? {lines : List PlainLine} {statements : List Statement}
    (read : lineStatements? lines = some statements) :
    ∀ indent key value, ⟨indent, .entry key value⟩ ∈ lines → value.Fits := by
  induction lines generalizing statements with
  | nil =>
      intro indent key value isIn
      contradiction
  | cons line later ih =>
      obtain ⟨statement, isStatement, readLater⟩ := Option.bind_eq_some_iff.mp read
      obtain ⟨laterStatements, isRead, -⟩ := Option.bind_eq_some_iff.mp readLater
      intro indent key value isIn
      rcases List.mem_cons.mp isIn with rfl | isLater
      · obtain ⟨literal, isLiteral, -⟩ := Option.map_eq_some_iff.mp isStatement
        exact PlainValue.fits_of_literal? isLiteral
      · exact ih isRead indent key value isLater

theorem PlainTable.entry_mem_lines (layout : Layout) {table : PlainTable}
    {entry : BareKey × PlainValue} (isIn : entry ∈ table.entries) :
    ⟨layout.indent, .entry entry.1 entry.2⟩ ∈ table.lines layout :=
  List.mem_append_right _ (List.mem_cons_of_mem _ (List.mem_map_of_mem isIn))

/-! ## Entries -/

theorem leadingAssignments_statements (assignments : List (List String × Literal))
    (tables : List PlainTable) :
    leadingAssignments (assignments.map (fun (key, literal) => .assign key literal) ++
        tables.flatMap PlainTable.statements) = assignments := by
  induction assignments with
  | nil => cases tables <;> rfl
  | cons assignment later ih =>
      rw [List.map_cons, List.cons_append, leadingAssignments, ih]

theorem sections?_assignments (entries : Entries Node)
    (assignments : List (List String × Literal)) (later : List Statement) :
    sections? entries (assignments.map (fun (key, literal) => .assign key literal) ++ later) =
      sections? entries later := by
  induction assignments with
  | nil => rfl
  | cons assignment rest ih =>
      rw [List.map_cons, List.cons_append, sections?, ih]

/-- A new key of one part is assigned behind the entries that are there. -/
theorem assign?_of_new {entries : Entries Node} {key : String} (value : Value)
    (new : key ∉ entries.map Prod.fst) :
    assign? entries [key] value = some (entries ++ [(key, .leaf value)]) := by
  have absent := Entries.get?_eq_none_iff.mpr new
  rw [← Entries.put_of_get?_eq_none (Node.leaf value) absent]
  simp [assign?, change?, absent]

theorem assigned?_entries (done : Entries Node) {entries : List (BareKey × PlainValue)}
    (distinct : (done.map Prod.fst ++ entries.map fun entry => entry.1.name).Nodup) :
    assigned? done (entries.map fun (key, value) => ([key.name], value.literal)) =
      some (done ++ entries.map fun (key, value) => (key.name, .leaf value.value)) := by
  induction entries generalizing done with
  | nil => simp [assigned?]
  | cons entry later ih =>
      rcases entry with ⟨key, value⟩
      rcases Entries.new_of_nodup distinct (Node.leaf value.value) with ⟨new, distinctLater⟩
      have assigned := ih _ distinctLater
      rw [List.append_assoc] at assigned
      rw [List.map_cons, assigned?, value.value?_literal]
      simp only [Option.bind_eq_bind, Option.bind_some, assign?_of_new value.value new]
      exact assigned

/-- The tree of a table. -/
def PlainTable.node (table : PlainTable) : Node :=
  .table .head (table.entries.map fun (key, value) => (key.name, .leaf value.value))

/-- A new table is entered behind the entries that are there. -/
theorem enterTable?_of_new {entries : Entries Node} {table : PlainTable}
    (new : table.key.name ∉ entries.map Prod.fst) (distinct : table.IsDistinct) :
    enterTable? entries [table.key.name] table.assignments =
      some (entries ++ [(table.key.name, table.node)]) := by
  have absent := Entries.get?_eq_none_iff.mpr new
  have assigned : assigned? [] table.assignments = some
      (table.entries.map fun (key, value) => (key.name, .leaf value.value)) :=
    assigned?_entries [] distinct
  simp only [enterTable?, List.reverse_cons, List.reverse_nil, List.nil_append, change?,
    openTable?, absent, assigned, Option.bind_eq_bind, Option.bind_some,
    Entries.erase_of_get?_eq_none absent]
  rw [Entries.put_of_get?_eq_none _ absent]
  rfl

/-- Tables are entered one behind the other. -/
theorem sections?_statements (done : Entries Node) {tables : List PlainTable}
    (distinct : (done.map Prod.fst ++ tables.map fun table => table.key.name).Nodup)
    (distinctKeys : ∀ table ∈ tables, table.IsDistinct) :
    sections? done (tables.flatMap PlainTable.statements) =
      some (done ++ tables.map fun table => (table.key.name, table.node)) := by
  induction tables generalizing done with
  | nil => simp [sections?]
  | cons table later ih =>
      have distinctKeys := List.forall_mem_cons.mp distinctKeys
      rcases Entries.new_of_nodup distinct table.node with ⟨new, distinctLater⟩
      have entered := ih _ distinctLater distinctKeys.2
      rw [List.append_assoc] at entered
      rw [List.flatMap_cons, PlainTable.statements, List.cons_append, sections?,
        leadingAssignments_statements, enterTable?_of_new new distinctKeys.1]
      simp only [Option.bind_eq_bind, Option.bind_some, sections?_assignments]
      exact entered

/-! ## Documents -/

theorem entryValues_leaves (entries : List (BareKey × PlainValue)) :
    entryValues (entries.map fun (key, value) => (key.name, .leaf value.value)) =
      entries.map fun (key, value) => (key.name, value.value) := by
  induction entries with
  | nil => rfl
  | cons entry later ih =>
      rw [List.map_cons, entryValues, Node.value, ih]
      rfl

theorem entryValues_nodes (tables : List PlainTable) :
    entryValues (tables.map fun table => (table.key.name, table.node)) =
      tables.map PlainTable.value := by
  induction tables with
  | nil => rfl
  | cons table later ih =>
      rw [List.map_cons, entryValues, PlainTable.node, Node.value, entryValues_leaves, ih]
      rfl

/-- No key that needs no quotes is the mark of a moment. -/
theorem BareKey.name_ne_momentKey (key : BareKey) : key.name ≠ momentKey := by
  intro marked
  have plain := key.plain
  rw [marked] at plain
  contradiction

theorem entriesWithMoments?_entries (entries : List (BareKey × PlainValue)) :
    entriesWithMoments? (entries.map fun (key, value) => (key.name, value.value)) =
      some (entries.map fun (key, value) => (key.name, value.value)) := by
  induction entries with
  | nil => rfl
  | cons entry later ih =>
      rw [List.map_cons, entriesWithMoments?, ih, entry.2.withMoments?_value]
      rfl

theorem withMoments?_table (table : PlainTable) :
    table.value.2.withMoments? = some table.value.2 := by
  rw [PlainTable.value, Value.withMoments?, entriesWithMoments?_entries]
  cases table.entries with
  | nil => rfl
  | cons entry later =>
      rw [List.map_cons, markedValue?, if_neg entry.1.name_ne_momentKey]
      rfl

theorem entriesWithMoments?_tables (tables : List PlainTable) :
    entriesWithMoments? (tables.map PlainTable.value) = some (tables.map PlainTable.value) := by
  induction tables with
  | nil => rfl
  | cons table later ih =>
      rw [List.map_cons, entriesWithMoments?, ih, withMoments?_table]
      rfl

theorem withMoments?_tables (tables : List PlainTable) :
    (Value.table (tables.map PlainTable.value)).withMoments? =
      some (.table (tables.map PlainTable.value)) := by
  rw [Value.withMoments?, entriesWithMoments?_tables]
  cases tables with
  | nil => rfl
  | cons table later =>
      rw [List.map_cons, PlainTable.value, markedValue?, if_neg table.key.name_ne_momentKey]
      rfl

/-- Plain lines start with no byte-order mark. -/
theorem withoutMark_lineLetters (lines : List PlainLine) :
    withoutMark (lineLetters lines) = lineLetters lines := by
  cases lines with
  | nil => rfl
  | cons line later =>
      rcases line.exists_letters_eq_cons with ⟨first, tail, isLetters, noMark⟩
      rw [lineLetters, List.flatMap_cons, isLetters, List.cons_append, withoutMark]
      rintro rest same
      exact noMark (List.cons.inj same).1

/-- The text of tables is read as the tables. -/
theorem read?_documentText (layout : Layout) {tables : List PlainTable}
    (fits : ∀ table ∈ tables, table.Fits)
    (distinct : (tables.map fun table => table.key.name).Nodup)
    (distinctKeys : ∀ table ∈ tables, table.IsDistinct) :
    read? (documentText layout tables) = some (tables.map PlainTable.value) := by
  have noAssignments : leadingAssignments (tables.flatMap PlainTable.statements) = [] :=
    leadingAssignments_statements [] tables
  have entered : sections? [] (tables.flatMap PlainTable.statements) =
      some (tables.map fun table => (table.key.name, table.node)) :=
    sections?_statements [] distinct distinctKeys
  rw [read?, documentText, String.toList_ofList, withoutMark_lineLetters, statements?_lineLetters,
    lineStatements?_tables layout fits]
  simp only [entries?, noAssignments, assigned?, entered, Option.bind_eq_bind, Option.bind_some,
    entryValues_nodes, withMoments?_tables]

/-- The text of tables is refused when one of their values does not fit. -/
theorem fits_of_read?_documentText {layout : Layout} {tables : List PlainTable}
    {entries : List (String × Value)} (read : read? (documentText layout tables) = some entries) :
    ∀ table ∈ tables, table.Fits := by
  rw [read?, documentText, String.toList_ofList, withoutMark_lineLetters,
    statements?_lineLetters] at read
  obtain ⟨statements, isRead, -⟩ := Option.bind_eq_some_iff.mp read
  intro table isTable entry isEntry
  exact fits_of_lineStatements? isRead layout.indent entry.1 entry.2
    (List.mem_flatMap.mpr ⟨table, isTable, table.entry_mem_lines layout isEntry⟩)

end Triage.Toml
