import SqlTables.Name.Ident

/-!
# Syntax trees of statements

The trees keep what can hold a reference to a table: names, aliases, queries, and expressions
down to their column references. Lists of expressions stand in the order in which a walk
visits them, parents before children; what holds no expression is left out.
-/

namespace SqlTables.Sql

inductive Form where
  | unary (operator : String)
  | binary (operator : String)
  | quantified (operator : String)
  | test (predicate : String)
  | between
  | inList
  | inSubquery
  | inUnnest
  | like
  | cast
  | convert
  | call (name : ObjectName)
  | case
  | collate
  | nested
  | tuple
  | array
  | struct
  | dictionary
  | map
  | access
  | method
  | interval
  | typed
  | extract
  | round
  | position
  | substring
  | trim
  | overlay
  | timeZone
  | exists
  | grouping
  | lambda
  | named (name : Ident)
  | prior
  | fullText
  | wildcardItem
deriving DecidableEq, Repr

/-- What a change to a table does, as far as it matters for names. -/
inductive AlterAction where
  | addColumn
  | renameTable (name : ObjectName)
  | other
deriving DecidableEq, Repr

inductive ObjectKind where
  | table
  | view
  | other
deriving DecidableEq, Repr

mutual

inductive Expr where
  /-- A name without qualifier. -/
  | ident (name : Ident)
  /-- A column reference with at least one qualifier. -/
  | compound (parts : List Ident)
  /-- A literal or a parameter. -/
  | value
  /-- The wildcard `*`. -/
  | wildcard
  /-- A wildcard with a qualifier. -/
  | qualifiedWildcard (name : ObjectName)
  /-- A nested query. -/
  | query (query : Query)
  /-- A composite expression with its operands in visiting order. -/
  | node (form : Form) (operands : List Expr)

inductive Cte where
  | mk (calledAs : Ident) (query : Query) (source : Option Ident)

inductive Query where
  | mk (ctes : List Cte) (body : Body) (orderBy : List Expr) (limit : Option Expr)
    (limitBy : List Expr) (offset : Option Expr) (fetch : Option Expr)

inductive Body where
  | select (select : Select)
  | query (query : Query)
  | setOperation (left right : Body)
  /-- Rows of values, cell by cell. -/
  | values (cells : List Expr)
  /-- A table by name, in the form `TABLE name`. -/
  | table
  | insert (statement : Statement)
  | update (statement : Statement)

/-- A selection with its clauses in the order of their visit. -/
inductive Select where
  | mk (distinctOn : List Expr) (top : Option Expr) (projection : List Expr)
    (sources : List TableWithJoins) (lateralViews : List Expr) (prewhere : Option Expr)
    (selection : Option Expr) (groupBy : List Expr) (clusterBy distributeBy sortBy : List Expr)
    (having : Option Expr) (windows : List Expr) (qualify : Option Expr)
    (connectBy : List Expr)

inductive TableWithJoins where
  | mk (relation : TableFactor) (joins : List Join)

/-- A joined relation with the expressions of the join operator. -/
inductive Join where
  | mk (relation : TableFactor) (condition : List Expr)

/-- An operand of `FROM` or `JOIN`. -/
inductive TableFactor where
  /-- A table by name, or a call of a table function when there are arguments. The extras are
  the expressions of hints, versions and samples. -/
  | table (name : ObjectName) (calledAs : Option RelationAlias) (args : Option (List Expr))
    (extras : List Expr)
  | derived (query : Query) (calledAs : Option RelationAlias)
  | nestedJoin (tables : TableWithJoins) (calledAs : Option RelationAlias)
  /-- A pivoted or unpivoted relation. -/
  | pivot (source : TableFactor) (operands : List Expr) (calledAs : Option RelationAlias)
  /-- A relation computed from expressions alone: table functions, unnested arrays, relations
  read from documents. -/
  | computed (operands : List Expr) (calledAs : Option RelationAlias)
  /-- Rows matched by a pattern. -/
  | matchRecognize (source : TableFactor) (operands : List Expr) (calledAs : Option RelationAlias)

inductive Statement where
  | query (query : Query)
  /-- `INSERT`; the target is absent when a table function is the target. -/
  | insert (target : Option ObjectName) (source : Option Query)
  | update (target : TableWithJoins) (assigned : List Expr) (sources : List TableWithJoins)
    (selection : Option Expr)
  | delete (targets : List TableWithJoins) (sources : List TableWithJoins)
    (selection : Option Expr)
  | merge (target source : TableFactor) (on : Expr) (clauses : List Expr)
  | createTable (name : ObjectName) (query : Option Query)
  /-- Definition or redefinition of a view. -/
  | defineView (name : ObjectName) (query : Query)
  | alterTable (name : ObjectName) (actions : List AlterAction)
  | drop (kind : ObjectKind) (names : List ObjectName)
  | truncate (names : List ObjectName)
  | comment (kind : ObjectKind) (name : ObjectName)
  /-- Granting or revoking privileges on tables. -/
  | privileges (tables : List ObjectName)
  | showColumns (parent : Option ObjectName)
  | showCreate (kind : ObjectKind) (name : ObjectName)
  | analyze (name : ObjectName)
  | explain (statement : Statement)
  /-- Description of a table. -/
  | describe (name : ObjectName)
  /-- Any statement that names no table in a way that matters here. -/
  | other

end

namespace Query

def ofBody (body : Body) : Query :=
  .mk [] body [] none [] none none

end Query

end SqlTables.Sql
