import QueryMind.Sql.Scope

namespace QueryMind.Sql
open Lib Metadata
set_option autoImplicit true

/-- What an item of a FROM clause is; a table function and VALUES count as LATERAL items. -/
inductive SourceKind
  | base
  | cte
  | derived
  | lateral
  deriving DecidableEq, Repr

/-- An item of a FROM clause: the name and the columns under which a query can refer to it, what
the query calls the table that it stands for, and its column list, `AS t (a, b)`. -/
structure Source where
  name : String
  kind : SourceKind
  table : String
  renames : List String
  columns : List String
  -- the columns that USING or NATURAL merges into those on the left
  merged : List String
  deriving DecidableEq, Repr

abbrev Ctes := List (String × List String)

/-- The items of a FROM clause so far: those before the last comma, and those joined since. -/
structure FromList where
  before : List Source
  joined : List Source

def FromList.sources (f : FromList) : List Source := f.before ++ f.joined

def argName (n : Node) (key : String) : String :=
  match n.arg key with
  | none => ""
  | some i => folded i

def aliasColumns (n : Node) : List String :=
  match n.arg "alias" with
  | none => []
  | some a => (a.argList "columns").map folded

def renamed (names columns : List String) : List String := names ++ columns.drop names.length

def registryColumns (registry : MetadataRegistry) (table : String) : List String :=
  match registry.getTable table with
  | none => []
  | some t => t.columns.map ColumnMetadata.name

def cteOf (ctes : Ctes) (t : Node) : Option (List String) :=
  if (t.arg "db").isNone then ctes.lookup (resolvedTable t) else none

/-- A reference to a visible CTE, or else to a table of the database. -/
def tableSource (registry : MetadataRegistry) (ctes : Ctes) (t : Node) : Source where
  name := if cteName t = "" then resolvedTable t else cteName t
  kind :=
    if (t.arg "this").any fun i => i.cls = .identifier then
      if (cteOf ctes t).isSome then .cte else .base
    else .lateral
  table := t.name
  renames := aliasColumns t
  columns :=
    renamed (aliasColumns t) ((cteOf ctes t).getD (registryColumns registry (resolvedTable t)))
  merged := []

def derivedSource (kind : SourceKind) (n : Node) (columns : List String) : Source where
  name := cteName n
  kind := kind
  table := n.aliasName
  renames := aliasColumns n
  columns := renamed (aliasColumns n) columns
  merged := []

def Ctes.declare (ctes : Ctes) (c : Node) (columns : List String) : Ctes :=
  if c.cls = .cte ∧ cteName c ≠ "" then (cteName c, columns) :: ctes else ctes

/-- Brackets around a table or a join, and not around a query. -/
def isBracket (n : Node) : Bool :=
  n.aliasName = "" && (n.arg "this").any fun t => t.cls = .table || t.cls = .subquery

def isComma (join : Node) : Bool :=
  (join.arg "on").isNone && (join.arg "using").isNone && join.text "method" = "" &&
    join.text "side" = "" && join.text "kind" = ""

def mergedNames (left : List Source) (join : Node) : List String :=
  if Text.upper (join.text "method") = "NATURAL" then left.flatMap Source.columns
  else (join.argList "using").map folded

/-- What an argument of a query adds to its FROM list, given the items in the argument. -/
def FromList.next (f : FromList) (c : Node) (items : List Source) : FromList :=
  match c.cls with
  | .from => ⟨f.before, f.joined ++ items⟩
  | .join =>
    if isComma c then ⟨f.sources, items⟩
    else
      ⟨f.before, f.joined ++ items.map fun s =>
        { s with merged := s.merged ++ mergedNames f.joined c }⟩
  | _ => f

/-- The column names that an output expression gives to the rows of its query. -/
def outputColumns (sources : List Source) (item : Node) : List String :=
  match item.cls with
  | .alias => [argName item "alias"]
  | .star => sources.flatMap Source.columns
  | .column =>
    if argName item "this" = "*" then
      (sources.filter fun s => s.name = argName item "table").flatMap Source.columns
    else [argName item "this"]
  | _ => []

section Scoping
variable (registry : MetadataRegistry)

mutual
def columnsOf (ctes : Ctes) : Node → List String
  | .node l cs =>
    match l.cls with
    | .select =>
      (cs.filter fun c : Node => c.key = "expressions").flatMap
        (outputColumns (fromList (withCtes ctes cs) ⟨[], []⟩ cs).sources)
    | .table =>
      (fromList ctes ⟨[], [tableSource registry ctes (.node l cs)]⟩ cs).sources.flatMap
        Source.columns
    | .subquery =>
      if isBracket (.node l cs) then
        (fromList ctes ⟨[], sourcesOfThis ctes cs⟩ cs).sources.flatMap Source.columns
      else columnsOfThis (withCtes ctes cs) cs
    | .union | .intersect | .except => columnsOfThis (withCtes ctes cs) cs
    | _ => []

def columnsOfThis (ctes : Ctes) : List Node → List String
  | [] => []
  | c :: cs => (if c.key = "this" then columnsOf ctes c else []) ++ columnsOfThis ctes cs

def sourcesOf (ctes : Ctes) : Node → List Source
  | .node l cs =>
    match l.cls with
    | .table => (fromList ctes ⟨[], [tableSource registry ctes (.node l cs)]⟩ cs).sources
    | .subquery =>
      if isBracket (.node l cs) then (fromList ctes ⟨[], sourcesOfThis ctes cs⟩ cs).sources
      else [derivedSource .derived (.node l cs) (columnsOfThis (withCtes ctes cs) cs)]
    | .lateral | .values => [derivedSource .lateral (.node l cs) (columnsOfThis ctes cs)]
    | _ => []

def sourcesOfThis (ctes : Ctes) : List Node → List Source
  | [] => []
  | c :: cs => (if c.key = "this" then sourcesOf ctes c else []) ++ sourcesOfThis ctes cs

def itemsOf (ctes : Ctes) : Node → List Source
  | .node _ cs => sourcesOfThis ctes cs

def fromList (ctes : Ctes) (f : FromList) : List Node → FromList
  | [] => f
  | c :: cs => fromList ctes (f.next c (itemsOf ctes c)) cs

def withCtes (ctes : Ctes) : List Node → Ctes
  | [] => ctes
  | c :: cs => withCtes (if c.cls = .with then clauseCtes ctes c else ctes) cs

def clauseCtes (ctes : Ctes) : Node → Ctes
  | .node _ cs => declareCtes ctes cs

def declareCtes (ctes : Ctes) : List Node → Ctes
  | [] => ctes
  | c :: cs => declareCtes (Ctes.declare ctes c (cteColumns ctes c)) cs

def cteColumns (ctes : Ctes) : Node → List String
  | .node l cs => renamed (aliasColumns (.node l cs)) (columnsOfThis ctes cs)
end

/-- What the names in an expression can refer to: the FROM lists of the queries around it, the
innermost first, and the output names that its clause can use. -/
structure Context where
  ctes : Ctes
  frames : List (List Source)
  outputs : List String

/-- A column reference, where it stands. -/
structure Place where
  column : Node
  context : Context

def Context.body (x : Context) (l : Label) (args : List Node) : Context :=
  let ctes := withCtes registry x.ctes args
  match l.cls with
  | .select => ⟨ctes, (fromList registry ctes ⟨[], []⟩ args).sources :: x.frames, []⟩
  | .union | .intersect | .except => ⟨ctes, x.frames, []⟩
  | _ => ⟨ctes, x.frames, x.outputs⟩

def Context.outer (x : Context) (l : Label) (args : List Node) : Context :=
  { x.body registry l args with frames := x.frames }

/-- The output names that a query's GROUP BY and ORDER BY can use. -/
def outputNames (ctes : Ctes) (l : Label) (args : List Node) : List String :=
  match l.cls with
  | .select =>
    (args.filter fun c : Node => c.key = "expressions" && c.cls = .alias).map fun c =>
      argName c "alias"
  | .union | .intersect | .except => columnsOfThis registry (withCtes registry ctes args) args
  | _ => []

def Context.argument (x : Context) (l : Label) (args : List Node) (c : Node) : Context :=
  let body := x.body registry l args
  if c.cls = .with then x
  else if c.cls = .from then x.outer registry l args
  else if c.key = "group" ∨ c.key = "order" then
    { body with outputs := body.outputs ++ outputNames registry x.ctes l args }
  else body

def startOf (ctes : Ctes) (l : Label) (args : List Node) : FromList :=
  match l.cls with
  | .table => ⟨[], [tableSource registry ctes (.node l args)]⟩
  | .subquery => ⟨[], sourcesOfThis registry ctes args⟩
  | _ => ⟨[], []⟩

mutual
def places (x : Context) : Node → List Place
  | .node l cs =>
    (if l.cls = .column then [⟨.node l cs, x⟩] else []) ++
      match l.cls with
      | .with =>
        placesCtes (if isRecursive l then { x with ctes := declareCtes registry x.ctes cs } else x)
          cs
      | _ => placesArgs x l cs (startOf registry x.ctes l cs) cs

/-- Those of the arguments of a node; a join sees what has been joined before it. -/
def placesArgs (x : Context) (l : Label) (args : List Node) (f : FromList) : List Node → List Place
  | [] => []
  | c :: cs =>
    (if c.cls = .join then placesJoin (x.outer registry l args) f c
      else places (x.argument registry l args c) c) ++
      placesArgs x l args (f.next c (itemsOf registry (x.outer registry l args).ctes c)) cs

def placesJoin (outer : Context) (f : FromList) : Node → List Place
  | .node l cs =>
    placesOperands outer { outer with frames := f.sources :: outer.frames }
      { outer with
        frames := (f.next (.node l cs) (sourcesOfThis registry outer.ctes cs)).joined ::
          outer.frames }
      cs

/-- Those of a join: only a LATERAL item sees what stands before it. -/
def placesOperands (outer earlier on : Context) : List Node → List Place
  | [] => []
  | c :: cs =>
    places (if c.key = "this" then if c.cls = .lateral then earlier else outer else on) c ++
      placesOperands outer earlier on cs

def placesCtes (x : Context) : List Node → List Place
  | [] => []
  | c :: cs =>
    places x c ++
      placesCtes { x with ctes := x.ctes.declare c (cteColumns registry x.ctes c) } cs
end

end Scoping

def ColumnIn (c t : Node) : Prop := OrderedTree.Below c t ∧ c.cls = .column

theorem columnIn_node : ColumnIn c (.node l cs) ↔
    (c = .node l cs ∧ l.cls = .column) ∨ ∃ t ∈ cs, ColumnIn c t := by
  rw [ColumnIn, OrderedTree.below_node, or_and_right]
  apply or_congr
  · constructor
    · rintro ⟨rfl, h⟩
      exact ⟨rfl, h⟩
    · rintro ⟨rfl, h⟩
      exact ⟨rfl, h⟩
  · constructor
    · intro ⟨⟨t, ht, hb⟩, hc⟩
      exact ⟨t, ht, hb, hc⟩
    · intro ⟨t, ht, hb, hc⟩
      exact ⟨⟨t, ht, hb⟩, hc⟩

mutual
theorem mem_places (registry : MetadataRegistry) : ∀ {x : Context} {t : Node},
    c ∈ (places registry x t).map Place.column ↔ ColumnIn c t
  | x, .node l cs => by
    rw [places, List.map_append, List.mem_append, columnIn_node]
    apply or_congr
    · split
      · rename_i h
        exact List.mem_singleton.trans (and_iff_left h).symm
      · rename_i h
        exact iff_of_false (List.not_mem_nil) (fun hc => h hc.2)
    · split
      · exact mem_placesCtes registry
      · exact mem_placesArgs registry

theorem mem_placesArgs (registry : MetadataRegistry) :
    ∀ {x : Context} {l : Label} {args ts : List Node} {f : FromList},
    c ∈ (placesArgs registry x l args f ts).map Place.column ↔ ∃ t ∈ ts, ColumnIn c t
  | _, _, _, [], _ => by simp [placesArgs]
  | x, l, args, t :: ts, f => by
    rw [placesArgs, List.map_append, List.mem_append, List.exists_mem_cons_iff,
      mem_placesArgs registry]
    apply or_congr_left
    split
    · rename_i h
      exact mem_placesJoin registry h
    · exact mem_places registry

theorem mem_placesJoin (registry : MetadataRegistry) :
    ∀ {outer : Context} {f : FromList} {t : Node}, t.cls = .join →
      (c ∈ (placesJoin registry outer f t).map Place.column ↔ ColumnIn c t)
  | _, _, .node l cs, h => by
    rw [placesJoin, columnIn_node, mem_placesOperands registry]
    constructor
    · exact Or.inr
    · rintro (⟨_, hc⟩ | hc)
      · cases hc.symm.trans h
      · exact hc

theorem mem_placesOperands (registry : MetadataRegistry) :
    ∀ {outer earlier on : Context} {ts : List Node},
    c ∈ (placesOperands registry outer earlier on ts).map Place.column ↔ ∃ t ∈ ts, ColumnIn c t
  | _, _, _, [] => by simp [placesOperands]
  | outer, earlier, on, t :: ts => by
    rw [placesOperands, List.map_append, List.mem_append, List.exists_mem_cons_iff,
      mem_placesOperands registry, mem_places registry]

theorem mem_placesCtes (registry : MetadataRegistry) : ∀ {x : Context} {ts : List Node},
    c ∈ (placesCtes registry x ts).map Place.column ↔ ∃ t ∈ ts, ColumnIn c t
  | _, [] => by simp [placesCtes]
  | x, t :: ts => by
    rw [placesCtes, List.map_append, List.mem_append, List.exists_mem_cons_iff,
      mem_placesCtes registry, mem_places registry]
end

end QueryMind.Sql
