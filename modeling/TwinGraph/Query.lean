import TwinGraph.Clause
import TwinGraph.Condition.Text
import TwinGraph.Configuration

/-!
# Queries

A query begins with an origin and grows by calls: joins bring aliases into its scope, a condition
may refer to these, and a projection completes it.  Every call makes a new query and leaves the
one that it was made on as it was, so queries that grow from one query never touch each other.
Hence the history of a query is just the calls before it, and a query is reachable if calls led to
it from a builder whose configuration has been looked at.
-/

namespace TwinGraph

/-- The clauses of a query, and how far it has come. -/
structure Query where
  /-- Which calls come next. -/
  stage : Stage
  /-- The alias with which the query began, which is projected unless entries are chosen. -/
  root : String
  /-- The clause that names the collection. -/
  origin : Origin
  /-- The aliases that the query introduced, the root first. -/
  scope : Scope
  /-- The joins in the order of the calls. -/
  joins : List Join
  /-- The condition, if one is attached. -/
  condition : Option Condition
  /-- What the query gives. -/
  projection : Projection
  /-- Whether an event tells of the text when it is made. -/
  logRendered : Bool

/-- A call that adds to a query. -/
inductive Call where
  | join (join : Join)
  | filter (condition : Condition)
  | select (entries : List String)
  | top (limit : UInt16)
  | count

/-- The kinds of calls that add to a query. -/
inductive CallKind where
  | join
  | filter
  | select
  | top
  | count
  deriving DecidableEq

/-- The kind of a call. -/
def Call.kind : Call → CallKind
  | join _ => .join
  | filter _ => .filter
  | select _ => .select
  | top _ => .top
  | count => .count

namespace Query

/-- The query on a collection with a root alias, which is not looked at. -/
def start (collection : Collection) (root : String) (logRendered : Bool) :
    Traced QueryError Query := do
  Traced.record (.started collection root)
  return {
    stage := .base
    root := root
    origin := ⟨collection, root⟩
    scope := Scope.ofRoot root
    joins := []
    condition := none
    projection := .select ⟨[root], none⟩
    logRendered := logRendered }

/-- Whether a query can take a call of a kind.  Relationships have no joins, a condition comes
before the projection, and a count takes nothing more. -/
def offers (query : Query) : CallKind → Bool
  | .join => query.stage == .base && query.origin.collection == .digitalTwins
  | .filter => query.stage == .base
  | .select => query.stage.isOpen || query.stage == .topped
  | .top => query.stage != .counted
  | .count => query.stage.isOpen

/-- The query at a later stage. -/
def advance (query : Query) (after : Stage) : Traced QueryError Query := do
  Traced.record (.advanced query.stage after)
  return { query with stage := after }

/-- The query with a further join, whose source has to be in scope before it. -/
def join (query : Query) (join : Join) : Traced QueryError Query := do
  Traced.silent (requireNonBlank "relationship" join.relationship)
  query.scope.require join.source
  let scope ← Traced.silent (query.scope.introduce "alias" join.target)
  let scope ←
    Traced.silent (scope.introduceOptional "relationship_alias" join.relationshipAlias)
  Traced.record (.joined join.target join.source join.relationship)
  return { query with scope := scope, joins := query.joins ++ [join] }

/-- The query with a condition, all of whose aliases have to be in scope. -/
def filter (query : Query) (condition : Condition) : Traced QueryError Query := do
  query.scope.requireAll condition.aliases
  advance { query with condition := some condition } .filtered

/-- Refuse the first entry whose part before a point is no alias of the scope. -/
def checkEntries (query : Query) (entries : List String) : Traced QueryError Unit :=
  query.scope.requireAll (entries.map (Text.firstPart '.'))

/-- The query with entries to project and no cap.  Blank entries are dropped, and of the others
there has to be one. -/
def selectOpen (query : Query) (entries : List String) : Traced QueryError Query :=
  let kept := entries.filter fun entry => !Text.isBlank entry
  if kept.isEmpty then
    Traced.silent (.error (.invalidArgument "aliases" .onlyBlankEntries))
  else do
    query.checkEntries kept
    advance { query with projection := .select ⟨kept, none⟩ } .selected

/-- The query with entries to project and the cap that it has.  Entries are taken as they are. -/
def selectTopped (query : Query) (entries : List String) : Traced QueryError Query :=
  if entries.isEmpty then
    Traced.silent (.error (.invalidArgument "aliases" .noEntries))
  else do
    query.checkEntries entries
    advance { query with projection := .select ⟨entries, query.projection.top⟩ } .selected

/-- The query with entries to project. -/
def select (query : Query) (entries : List String) : Traced QueryError Query :=
  if query.stage = .topped then query.selectTopped entries else query.selectOpen entries

/-- The projection of the root alone. -/
def rootProjection (query : Query) (top : Option UInt16) : Projection :=
  .select ⟨[query.root], top⟩

/-- A selection with another cap. -/
def recap (limit : UInt16) : Projection → Projection
  | .select selection => .select { selection with top := some limit }
  | .count => .count

/-- The query with a cap on the number of records, in place of any earlier one.  Chosen entries
stay; otherwise the root is projected. -/
def top (query : Query) (limit : UInt16) : Traced QueryError Query :=
  match query.stage with
  | .selected => pure { query with projection := recap limit query.projection }
  | .topped => pure { query with projection := query.rootProjection (some limit) }
  | _ => advance { query with projection := query.rootProjection (some limit) } .topped

/-- The query for the number of records. -/
def count (query : Query) : Traced QueryError Query :=
  advance { query with projection := .count } .counted

/-- The query after a call that it offers. -/
def perform (query : Query) : Call → Traced QueryError Query
  | .join join => query.join join
  | .filter condition => query.filter condition
  | .select entries => query.select entries
  | .top limit => query.top limit
  | .count => query.count

/-- The clauses after the projection, which a query has before it is complete. -/
def renderTail (query : Query) : List Char :=
  query.origin.render ++ (query.joins.flatMap (' ' :: ·.render) ++
    query.condition.elim [] (' ' :: renderWhere ·.render))

/-- A query written out. -/
def render (query : Query) : List Char :=
  query.projection.render ++ ' ' :: query.renderTail

/-- The text of a query. -/
def text (query : Query) : String :=
  String.ofList query.render

/-- The text of a query, of which an event tells if the query is to announce it. -/
def announce (query : Query) : Traced QueryError String :=
  if query.logRendered then do
    Traced.record (.rendered query.text)
    return query.text
  else
    return query.text

end Query

/-- A configuration from which queries begin. -/
structure Builder where
  /-- The configuration, whose aliases have been looked at. -/
  configuration : Configuration
  deriving DecidableEq

namespace Builder

/-- The builder of a configuration that gives nothing. -/
def new : Builder := ⟨.default⟩

/-- The builder of a configuration, whose aliases are looked at first. -/
def ofConfiguration (configuration : Configuration) : Except QueryError Builder := do
  configuration.validate
  return ⟨configuration⟩

/-- A query on a collection with its configured alias. -/
def start (builder : Builder) (collection : Collection) : Traced QueryError Query :=
  Query.start collection (builder.configuration.root collection) builder.configuration.logRendered

/-- A query on a collection with an alias of its own. -/
def startAs (builder : Builder) (collection : Collection) (root : String) :
    Traced QueryError Query := do
  Traced.silent (validateAlias "alias" root)
  Query.start collection root builder.configuration.logRendered

end Builder

/-- A builder that was made from a configuration with usable aliases, or from none. -/
inductive Builder.Configured : Builder → Prop where
  | new : Configured .new
  | ofConfiguration {configuration : Configuration} {builder : Builder}
      (made : Builder.ofConfiguration configuration = .ok builder) : Configured builder

namespace Query

/-- A query that calls lead to. -/
inductive Reachable : Query → Prop where
  | start {builder : Builder} {collection : Collection} {query : Query}
      (configured : builder.Configured)
      (made : (builder.start collection).outcome = .ok query) : Reachable query
  | startAs {builder : Builder} {collection : Collection} {root : String} {query : Query}
      (configured : builder.Configured)
      (made : (builder.startAs collection root).outcome = .ok query) : Reachable query
  | perform {before after : Query} {call : Call} (reached : Reachable before)
      (offered : before.offers call.kind = true)
      (made : (before.perform call).outcome = .ok after) : Reachable after

end Query
end TwinGraph
