import QueryMind.Execution.Guard
import QueryMind.Execution.Models
import QueryMind.Lib.Pattern

namespace QueryMind.Execution
open Lib Sql
set_option autoImplicit true

/-- How the library reads a character of a text: as it stands, as the backslash of an escape, which
it drops, or as the start of a parameter, which needs a value. -/
inductive Reading
  | verbatim
  | dropped
  | parameter
  deriving DecidableEq, Repr

/-- What `connection.execute` comes to: no answer in time, an error of the library or the database,
an exception of another kind, or a cursor whose rows may still fail to be read. -/
inductive DriverAnswer
  | timeout
  | error (message : String)
  | raised (pythonType message : String)
  | cursor (keys : List String) (typeOids : Option (List (Option Nat)))
      (rows : Except String (List (List Value)))

/-- The library below the executor: how `text` and its compiler read a text, what they raise for a
parameter without a value, the texts in which the compiler finds a placeholder in a spelling of its
own, such as `%(name)s`, and the driver. -/
structure Backend where
  read : String → List (Char × Reading)
  unfilled : String → DriverAnswer
  reserved : String → Bool
  driver : String → Nat → DriverAnswer

/-- What leaves `SQLExecutor.execute`: an exception of its own, or one it does not catch. -/
inductive ExecutorRaised
  | executor (e : ExecutorError)
  | other (pythonType message : String)
  deriving DecidableEq, Repr

def showSeconds (ms : Nat) : String :=
  let digits := ((1000 + ms % 1000).repr.toList.drop 1)
  let fraction := (digits.take 1) ++ ((digits.drop 1).rdropWhile (· = '0'))
  (ms / 1000).repr ++ "." ++ .ofList fraction

namespace SQLExecutor

def sent (read : List (Char × Reading)) : List Char :=
  (read.filter fun x => x.2 ≠ .dropped).map Prod.fst

/-- `connection.execute(text(sql), {})`: no parameter has a value, so a text that names one never
reaches the driver. The list holds the statement texts that do. -/
def executeText (b : Backend) (sql : String) (timeoutMs : Nat) : DriverAnswer × List String :=
  if (b.read sql).any (fun x => x.2 = .parameter) then (b.unfilled sql, [])
  else
    let statement := String.ofList (sent (b.read sql))
    (b.driver statement timeoutMs, [statement])

def execute (b : Backend) (sql : String) (timeoutMs : Nat) :
    Except ExecutorRaised RawQueryResult × List String :=
  let answer := executeText b sql timeoutMs
  match answer.1 with
  | .timeout =>
    (.error (.executor (.timeout
      ("Execution exceeded the " ++ showSeconds timeoutMs ++ "s timeout."))), answer.2)
  | .error message => (.error (.executor (.failure message)), answer.2)
  | .raised pythonType message => (.error (.other pythonType message), answer.2)
  | .cursor _ _ (.error message) => (.error (.executor (.failure message)), answer.2)
  | .cursor keys typeOids (.ok rows) =>
    (.ok { columnNames := keys, columnTypeOids := typeOids.getD (keys.map fun _ => none), rows },
      answer.2)

end SQLExecutor

example : showSeconds 30000 = "30.0" := by decide

section Text
variable (w : WordClass)

def nameable (c : Char) : Bool := w.isWord c || c = '$'

def shields (c : Char) : Bool := c = ':' || c = '\\' || nameable w c

/-- What follows a colon does not end in a colon, after all the characters of a name. -/
def unclosed (after : List Char) : Bool := (after.dropWhile (nameable w)).head? ≠ some ':'

/-- A colon names a parameter: a name follows, and nothing before or after it forbids it. -/
def namesAt (previous : Option Char) (after : List Char) : Bool :=
  !previous.any (shields w) && after.head?.any (nameable w) && unclosed w after

def NamesParameter (cs : List Char) : Prop :=
  ∃ before after, cs = before ++ ':' :: after ∧ namesAt w before.getLast? after = true

def EscapesColon (cs : List Char) : Prop :=
  ∃ before after, cs = before ++ '\\' :: ':' :: after ∧ unclosed w after = true

/-- The library reads the whole of a text, takes for parameters the names after a colon and its own
placeholders, and drops the backslashes that escape a colon. -/
structure Backend.ReadsText (b : Backend) : Prop where
  whole : ∀ sql, (b.read sql).map Prod.fst = sql.toList
  parameter : ∀ sql, (∃ x ∈ b.read sql, x.2 = .parameter) ↔
    NamesParameter w sql.toList ∨ b.reserved sql = true
  dropped : ∀ sql, (∃ x ∈ b.read sql, x.2 = .dropped) ↔ EscapesColon w sql.toList

end Text

theorem sent_eq_iff (read : List (Char × Reading)) :
    SQLExecutor.sent read = read.map Prod.fst ↔ ¬ ∃ x ∈ read, x.2 = .dropped := by
  constructor
  · rintro h ⟨x, hx, hd⟩
    have hlen := congrArg List.length h
    rw [SQLExecutor.sent, List.length_map, List.length_map,
      List.length_filter_eq_length_iff] at hlen
    exact of_decide_eq_true (hlen x hx) hd
  · intro h
    rw [SQLExecutor.sent, List.filter_eq_self.2]
    intro x hx
    exact decide_eq_true fun hd => h ⟨x, hx, hd⟩

theorem execute_statements (b : Backend) (sql : String) (timeoutMs : Nat) :
    (SQLExecutor.execute b sql timeoutMs).2 =
      if ∃ x ∈ b.read sql, x.2 = .parameter then []
      else [.ofList (SQLExecutor.sent (b.read sql))] := by
  have he : (SQLExecutor.execute b sql timeoutMs).2 =
      (SQLExecutor.executeText b sql timeoutMs).2 := by
    rw [SQLExecutor.execute]
    split <;> rfl
  rw [he, SQLExecutor.executeText]
  simp only [List.any_eq_true, decide_eq_true_eq]
  split <;> rfl

/-- A permitted text reaches the driver as it is exactly when the library finds no parameter and no
escape in it. -/
theorem driver_text (w : WordClass) {b : Backend} (hb : b.ReadsText w)
    (permit : ExecutionPermit) :
    (SQLExecutor.execute b permit.sql permit.timeoutMs).2 = [permit.sql] ↔
      ¬ NamesParameter w permit.sql.toList ∧ b.reserved permit.sql = false ∧
        ¬ EscapesColon w permit.sql.toList := by
  have hparam := hb.parameter permit.sql
  have hsent : String.ofList (SQLExecutor.sent (b.read permit.sql)) = permit.sql ↔
      ¬ EscapesColon w permit.sql.toList := by
    rw [← String.toList_inj, String.toList_ofList, ← hb.whole, sent_eq_iff, hb.dropped]
    rw [hb.whole]
  rw [execute_statements]
  split
  · rename_i hp
    apply iff_of_false (List.cons_ne_nil _ _).symm
    rintro ⟨hn, hr, _⟩
    rcases hparam.1 hp with h | h
    · exact hn h
    · exact absurd (hr.symm.trans h) Bool.false_ne_true
  · rename_i hp
    have hnone := fun h => hp (hparam.2 h)
    rw [List.singleton_inj, hsent]
    constructor
    · intro he
      exact ⟨fun h => hnone (.inl h), Bool.eq_false_iff.2 fun h => hnone (.inr h), he⟩
    · exact fun h => h.2.2

section Shipped
variable (w : WordClass)

def readingAt (previous : Option Char) (c : Char) : List Char → Reading
  | ':' :: after =>
    if c = '\\' ∧ unclosed w after = true then .dropped
    else if c = ':' ∧ namesAt w previous (':' :: after) = true then .parameter
    else .verbatim
  | after => if c = ':' ∧ namesAt w previous after = true then .parameter else .verbatim

def readFrom : Option Char → List Char → List (Char × Reading)
  | _, [] => []
  | previous, c :: cs => (c, readingAt w previous c cs) :: readFrom (some c) cs

/-- A library that reads a text from left to right, and answers every statement. -/
def readsLeftToRight : Backend where
  read sql := readFrom w none sql.toList
  unfilled _ := .error "A value is required for bind parameter"
  reserved _ := false
  driver _ _ := .cursor ["id"] none (.ok [])

theorem readFrom_map (previous : Option Char) (cs : List Char) :
    (readFrom w previous cs).map Prod.fst = cs := by
  induction cs generalizing previous with
  | nil => rfl
  | cons c cs ih => rw [readFrom, List.map_cons, ih]

theorem exists_readFrom (previous : Option Char) (cs : List Char) (r : Reading) :
    (∃ x ∈ readFrom w previous cs, x.2 = r) ↔ ∃ before c after, cs = before ++ c :: after ∧
      readingAt w (before.getLast?.or previous) c after = r := by
  induction cs generalizing previous with
  | nil =>
    constructor
    · rintro ⟨x, hx, _⟩
      cases hx
    · rintro ⟨before, c, after, he, _⟩
      cases before <;> cases he
  | cons c cs ih =>
    rw [readFrom]
    simp only [List.exists_mem_cons_iff, ih]
    constructor
    · rintro (hr | ⟨before, d, after, rfl, hr⟩)
      · exact ⟨[], c, cs, rfl, hr⟩
      · refine ⟨c :: before, d, after, rfl, ?_⟩
        rw [List.getLast?_cons, Option.some_or]
        cases hl : before.getLast? with
        | none => rwa [hl] at hr
        | some e => rwa [hl] at hr
    · rintro ⟨before, d, after, he, hr⟩
      cases before with
      | nil =>
        obtain ⟨rfl, rfl⟩ := List.cons.inj he
        exact .inl hr
      | cons e before =>
        obtain ⟨rfl, rfl⟩ := List.cons.inj he
        refine .inr ⟨before, d, after, rfl, ?_⟩
        rw [List.getLast?_cons, Option.some_or] at hr
        cases hl : before.getLast? with
        | none => rwa [hl] at hr
        | some e => rwa [hl] at hr

theorem readingAt_parameter :
    readingAt w previous c after = .parameter ↔ c = ':' ∧ namesAt w previous after = true := by
  rw [readingAt.eq_def]
  split
  · split
    · rename_i h
      apply iff_of_false Reading.noConfusion
      rintro ⟨hc, _⟩
      exact absurd (h.1.symm.trans hc) (by decide)
    · split
      · exact iff_of_true rfl ‹_›
      · exact iff_of_false Reading.noConfusion ‹_›
  · split
    · exact iff_of_true rfl ‹_›
    · exact iff_of_false Reading.noConfusion ‹_›

theorem readingAt_dropped : readingAt w previous c after = .dropped ↔
    c = '\\' ∧ ∃ rest, after = ':' :: rest ∧ unclosed w rest = true := by
  rw [readingAt.eq_def]
  split
  · rename_i rest
    split
    · rename_i h
      exact iff_of_true rfl ⟨h.1, rest, rfl, h.2⟩
    · rename_i h
      have hno : ¬ (c = '\\' ∧ ∃ rest', ':' :: rest = ':' :: rest' ∧ unclosed w rest' = true) := by
        rintro ⟨hc, rest', he, hu⟩
        obtain ⟨_, rfl⟩ := List.cons.inj he
        exact h ⟨hc, hu⟩
      split
      · exact iff_of_false Reading.noConfusion hno
      · exact iff_of_false Reading.noConfusion hno
  · rename_i hne
    have hno : ¬ (c = '\\' ∧ ∃ rest, after = ':' :: rest ∧ unclosed w rest = true) := by
      rintro ⟨_, rest, he, _⟩
      exact hne rest he
    split
    · exact iff_of_false Reading.noConfusion hno
    · exact iff_of_false Reading.noConfusion hno

theorem readsLeftToRight_readsText : (readsLeftToRight w).ReadsText w where
  whole sql := readFrom_map w none sql.toList
  parameter sql := by
    show (∃ x ∈ readFrom w none sql.toList, x.2 = .parameter) ↔ NamesParameter w _ ∨ false = true
    rw [exists_readFrom, or_iff_left Bool.false_ne_true]
    simp only [readingAt_parameter, Option.or_none]
    constructor
    · rintro ⟨before, c, after, he, rfl, hn⟩
      exact ⟨before, after, he, hn⟩
    · rintro ⟨before, after, he, hn⟩
      exact ⟨before, ':', after, he, rfl, hn⟩
  dropped sql := by
    show (∃ x ∈ readFrom w none sql.toList, x.2 = .dropped) ↔ EscapesColon w _
    rw [exists_readFrom]
    simp only [readingAt_dropped]
    constructor
    · rintro ⟨before, c, after, he, rfl, rest, rfl, hu⟩
      exact ⟨before, rest, he, hu⟩
    · rintro ⟨before, rest, he, hu⟩
      exact ⟨before, '\\', ':' :: rest, he, rfl, rest, rfl, hu⟩

/-- A text with a cast, in which the library reads nothing. -/
def castOrders : ExecutionPermit := ⟨"SELECT total::numeric FROM orders", 30000⟩

theorem driver_text_cast :
    (SQLExecutor.execute (readsLeftToRight asciiWord) castOrders.sql castOrders.timeoutMs).2 =
      [castOrders.sql] := by
  have hb := readsLeftToRight_readsText asciiWord
  apply (driver_text asciiWord hb castOrders).2
  refine ⟨?_, rfl, ?_⟩
  · intro h
    obtain ⟨x, hx, hp⟩ := (hb.parameter castOrders.sql).2 (.inl h)
    have hall : ∀ x ∈ readFrom asciiWord none castOrders.sql.toList, x.2 ≠ .parameter := by decide
    exact hall x hx hp
  · intro h
    obtain ⟨x, hx, hd⟩ := (hb.dropped castOrders.sql).2 h
    have hall : ∀ x ∈ readFrom asciiWord none castOrders.sql.toList, x.2 ≠ .dropped := by decide
    exact hall x hx hd

end Shipped

def urgentOrders : Node :=
  mk "" .select [
    mk "expressions" .column [ident "this" "id"],
    mk "from" .from [mk "this" .table [ident "this" "orders"]],
    mk "where" .where [mk "this" (.other "EQ") [
      mk "this" .column [ident "this" "note"],
      .node ⟨"expression", .literal, [("this", ":urgent"), ("is_string", "True")]⟩ []]]]

def urgentSql : GeneratedSQL where
  sql := "SELECT id FROM orders WHERE note = ':urgent'"
  dialect := .postgresql
  sql_nonempty := by decide

/-- A permitted query with a colon in a string literal never gets to the driver. -/
theorem literal_read_as_parameter :
    ∃ permit, ExecutionGuard.check ⟨30000, by decide⟩ (fun _ _ => .ok [some urgentOrders]) urgentSql
        ⟨urgentSql, true, [], []⟩ = .ok permit ∧
      (readsLeftToRight asciiWord).ReadsText asciiWord ∧
      (SQLExecutor.execute (readsLeftToRight asciiWord) permit.sql permit.timeoutMs).2 ≠
        [permit.sql] := by
  refine ⟨⟨"SELECT id FROM orders WHERE note = ':urgent'", 30000⟩, by decide,
    readsLeftToRight_readsText _, ?_⟩
  decide

end QueryMind.Execution
