import QueryMind.Frontend.ResultTable
import QueryMind.Lib.Csv

namespace QueryMind.Frontend.Csv
open Lib Lib.Csv
set_option autoImplicit true

structure QueryColumn where
  name : String
  databaseType : String
  pythonType : String
  nullable : Option Bool
  deriving DecidableEq, Repr

structure FormattedTable where
  columns : List QueryColumn
  rows : List ResultTable.FormattedRow
  deriving DecidableEq, Repr

def needsQuotes (value : List Char) : Bool :=
  value.any fun c => c == '"' || c == ',' || c == '\n'

/-- `"` around a value, with each quote in it replaced by two. -/
def escapeCsvCell (value : String) : String :=
  if needsQuotes value.toList then
    "\"" ++ .ofList (value.toList.flatMap fun c => if c = '"' then ['"', '"'] else [c]) ++ "\""
  else value

def formattedTableToCsv (table : FormattedTable) : String :=
  let header := ",".intercalate (table.columns.map fun column => escapeCsvCell column.name)
  let rows := table.rows.map fun row =>
    ",".intercalate (row.values.map fun value => escapeCsvCell value.formattedValue)
  "\r\n".intercalate (header :: rows)

/-- The header names followed by the rows' formatted values. -/
def cells (table : FormattedTable) : List (List (List Char)) :=
  (table.columns.map fun column => column.name.toList) ::
    table.rows.map fun row => row.values.map fun value => value.formattedValue.toList

/-- The tables whose text is read as their cells. -/
structure Readable (table : FormattedTable) : Prop where
  cells : ∀ record ∈ cells table, record ≠ []
  returns : ∀ record ∈ Csv.cells table, ∀ cell ∈ record, '\r' ∈ cell → needsQuotes cell = true
  last : ∀ row ∈ table.rows.getLast?, row.values.map (·.formattedValue) ≠ [""]

def escapeChars (value : List Char) : List Char :=
  if needsQuotes value then quoted value else value

theorem escapeCsvCell_toList (value : String) :
    (escapeCsvCell value).toList = escapeChars value.toList := by
  rw [escapeCsvCell, escapeChars]
  split
  · simp only [String.toList_append, String.toList_ofList]
    rfl
  · rfl

def writeRecord (record : List (List Char)) : List Char :=
  [','].intercalate (record.map escapeChars)

def write (records : List (List (List Char))) : List Char :=
  ['\r', '\n'].intercalate (records.map writeRecord)

theorem formattedTableToCsv_toList (table : FormattedTable) :
    (formattedTableToCsv table).toList = write (cells table) := by
  have hrecord (ss : List String) :
      (",".intercalate (ss.map escapeCsvCell)).toList = writeRecord (ss.map String.toList) := by
    rw [String.toList_intercalate, writeRecord, List.map_map, List.map_map]
    apply congrArg ([','].intercalate)
    apply List.map_congr_left
    intro s _
    exact escapeCsvCell_toList s
  have hheader : (",".intercalate (table.columns.map fun c => escapeCsvCell c.name)).toList =
      writeRecord (table.columns.map fun column => column.name.toList) := by
    have h := hrecord (table.columns.map QueryColumn.name)
    rw [List.map_map, List.map_map] at h
    exact h
  have hrows : (table.rows.map fun row => ",".intercalate
      (row.values.map fun value => escapeCsvCell value.formattedValue)).map String.toList =
        (table.rows.map fun row => row.values.map fun value => value.formattedValue.toList).map
          writeRecord := by
    rw [List.map_map, List.map_map]
    apply List.map_congr_left
    intro row _
    have h := hrecord (row.values.map ResultTable.FormattedValue.formattedValue)
    rw [List.map_map, List.map_map] at h
    exact h
  rw [formattedTableToCsv, String.toList_intercalate, write, cells, List.map_cons, List.map_cons,
    hheader, hrows]
  rfl

theorem length_doubled (value : List Char) :
    (doubled value).length = value.length + value.count '"' := by
  induction value with
  | nil => rfl
  | cons c value ih =>
    by_cases hc : c = '"'
    · rw [hc, doubled_cons_quote, List.length_cons, List.length_cons, ih, List.length_cons,
        List.count_cons_self]
      omega
    · rw [doubled_cons hc, List.length_cons, ih, List.length_cons, List.count_cons_of_ne hc]
      omega

theorem length_quoted (value : List Char) : value.length < (quoted value).length := by
  rw [quoted, List.length_cons, List.length_append, length_doubled]
  omega

theorem not_needsQuotes_iff :
    needsQuotes value = false ↔ ∀ c ∈ value, c ≠ '"' ∧ c ≠ ',' ∧ c ≠ '\n' := by
  simp only [needsQuotes, List.any_eq_false, Bool.or_eq_true, beq_iff_eq, not_or, and_assoc]

theorem escapeChars_shortest :
    Shortest Field escapeChars fun cell => '\r' ∈ cell → needsQuotes cell = true := by
  constructor
  · intro text cell h
    cases h with
    | bare h =>
      have hq : needsQuotes text = false :=
        not_needsQuotes_iff.2 fun c hc => ⟨(h c hc).1, (h c hc).2.1, (h c hc).2.2.2⟩
      rw [escapeChars, hq, if_neg Bool.false_ne_true]
    | quoted =>
      rw [escapeChars]
      split
      · exact le_rfl
      · exact (length_quoted cell).le
  · intro text cell h hlen hr
    cases h with
    | bare h => exact absurd rfl (h _ hr).2.2.1
    | quoted =>
      rw [escapeChars] at hlen
      by_contra hq
      rw [if_neg hq] at hlen
      exact absurd (length_quoted cell) hlen.not_gt

theorem escapeChars_field {cell : List Char} (h : '\r' ∈ cell → needsQuotes cell = true) :
    Field (escapeChars cell) cell := by
  rw [escapeChars]
  split
  · exact .quoted cell
  · rename_i hq
    rw [Bool.not_eq_true] at hq
    apply Field.bare
    intro c hc
    obtain ⟨hquote, hcomma, hfeed⟩ := not_needsQuotes_iff.1 hq c hc
    apply And.intro hquote
    apply And.intro hcomma
    apply And.intro _ hfeed
    rintro rfl
    rw [h hc] at hq
    cases hq

theorem write_shortest : Shortest Records write
    fun records => ∀ record ∈ records, ∀ cell ∈ record, '\r' ∈ cell → needsQuotes cell = true :=
  escapeChars_shortest.separated.separated

theorem write_records (hn : records ≠ []) (hcells : ∀ record ∈ records, record ≠ [])
    (h : ∀ record ∈ records, ∀ cell ∈ record, '\r' ∈ cell → needsQuotes cell = true) :
    Records (write records) records := by
  apply separated_intercalate hn
  intro record hrecord
  apply separated_intercalate (hcells record hrecord)
  intro cell hcell
  exact escapeChars_field (h record hrecord cell hcell)

theorem records_of_file (h : File (write records) records) : Records (write records) records := by
  rcases h with h | ⟨body, he, h⟩
  · exact h
  · have hle := write_shortest.le _ _ h
    have hlen := congrArg List.length he
    rw [List.length_append] at hlen
    change _ = body.length + 2 at hlen
    omega

theorem emptyCell_iff (row : ResultTable.FormattedRow) :
    (row.values.map fun value => value.formattedValue.toList) = [[]] ↔
      row.values.map (·.formattedValue) = [""] := by
  have hinj : Function.Injective (List.map String.toList) :=
    List.map_injective_iff.2 fun _ _ => String.toList_injective
  have h := hinj.eq_iff (a := row.values.map (·.formattedValue)) (b := [""])
  rw [List.map_map] at h
  exact h

theorem last_iff (table : FormattedTable) :
    (∀ row ∈ table.rows.getLast?, row.values.map (·.formattedValue) ≠ [""]) ↔
      ∀ before, before ≠ [] → cells table ≠ before ++ [[[]]] := by
  rcases List.eq_nil_or_concat table.rows with hn | ⟨rows, row, hr⟩
  · rw [cells, hn]
    constructor
    · intro _ before hb he
      have hlen := congrArg List.length he
      rw [List.length_append] at hlen
      have hpos := List.length_pos_iff.2 hb
      change 1 = before.length + 1 at hlen
      omega
    · intro _ row hrow
      cases hrow
  · rw [List.concat_eq_append] at hr
    rw [cells, hr, List.getLast?_append, List.map_append, ← List.cons_append]
    constructor
    · intro h before _ he
      obtain ⟨-, hl⟩ := List.append_inj' he rfl
      exact h row rfl ((emptyCell_iff row).1 (List.cons.inj hl).1)
    · intro h row' hrow he
      cases hrow
      apply h _ (List.cons_ne_nil _ _)
      rw [← (emptyCell_iff row).2 he]
      rfl

theorem file_before (hb : before ≠ []) (h : Records (write (before ++ [[[]]])) (before ++ [[[]]])) :
    File (write (before ++ [[[]]])) before := by
  have hcells : ∀ record ∈ before ++ [[[]]], record ≠ [] :=
    h.forall fun _ _ hrecord => hrecord.ne_nil
  have hreturns := write_shortest.good _ _ h le_rfl
  rw [List.forall_mem_append] at hcells hreturns
  right
  apply Exists.intro (write before)
  apply And.intro _ (write_records hb hcells.1 hreturns.1)
  have hn : before.map writeRecord ≠ [] := fun hm => hb (List.map_eq_nil_iff.1 hm)
  rw [write, List.map_append, List.map_singleton, intercalate_concat hn]
  rfl

/-- A table's text is read as its cells, by every reader, just when each row has a cell, no cell
has a carriage return and nothing else that makes it quoted, and the last row is no empty cell
alone. -/
theorem formattedTableToCsv_read_iff (table : FormattedTable) :
    (∀ reader : Reader, reader.read (formattedTableToCsv table).toList = some (cells table)) ↔
      Readable table := by
  rw [read_eq_iff, formattedTableToCsv_toList]
  constructor
  · rintro ⟨hf, hu⟩
    have hr := records_of_file hf
    have hreturns := write_shortest.good _ _ hr le_rfl
    have hcells : ∀ record ∈ cells table, record ≠ [] :=
      hr.forall fun _ _ hrecord => hrecord.ne_nil
    apply Readable.mk hcells hreturns
    rw [last_iff]
    intro before hb he
    rw [he] at hr hu
    have hlen := congrArg List.length (hu before (file_before hb hr))
    rw [List.length_append, List.length_singleton] at hlen
    omega
  · intro h
    have hr : Records (write (cells table)) (cells table) :=
      write_records (List.cons_ne_nil _ _) h.cells h.returns
    apply And.intro (.inl hr)
    intro records' hf
    exact file_unique hr ((last_iff table).1 h.last) hf

/-- A carriage return alone in a cell is not quoted, so the text holds no records at all. -/
def returnTable : FormattedTable where
  columns := [⟨"note", "text", "str", some true⟩]
  rows := [⟨[⟨.string "first\rsecond", "first\rsecond", "string"⟩]⟩]

theorem returnTable_unread : formattedTableToCsv returnTable = "note\r\nfirst\rsecond" ∧
    ¬∀ reader : Reader, reader.read (formattedTableToCsv returnTable).toList =
      some (cells returnTable) := by
  have ht : formattedTableToCsv returnTable = "note\r\nfirst\rsecond" := by decide
  apply And.intro ht
  intro h
  rw [read_eq_iff, formattedTableToCsv_toList] at h
  have hr := write_shortest.good _ _ (records_of_file h.1) le_rfl
  have hcell := hr [['f', 'i', 'r', 's', 't', '\r', 's', 'e', 'c', 'o', 'n', 'd']] (by decide) _
    List.mem_cons_self (by decide)
  cases hcell

end QueryMind.Frontend.Csv
