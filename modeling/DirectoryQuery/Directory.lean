import DirectoryQuery.Value

/-! What a directory is asked and what it answers. A directory is known only by its behaviour: a
connection is opened or refused, and an open one answers each search with entries or with a failure.
Every call made to it can be told afterwards. -/
namespace DirectoryQuery

inductive Verification
  | skipped | required
  deriving DecidableEq, Repr

/-- How the certificate of a server is checked. -/
structure Tls where
  verification : Verification
  authorityFile : Option String
  deriving DecidableEq, Repr

structure Server where
  host : String
  secure : Bool
  tls : Option Tls
  deriving DecidableEq, Repr

structure Connection where
  server : Server
  user : String
  password : String
  timeLimit : Value

structure SearchRequest where
  base : String
  filter : String
  attributes : List String
  deriving DecidableEq, Repr

/-- An entry as the directory holds it. -/
structure FoundEntry where
  name : Value
  attributes : List (String × Value)

/-- A directory's refusal to open a connection or to search. -/
structure Failure where
  message : String
  deriving DecidableEq, Repr

/-- An open connection. -/
abbrev Access := SearchRequest → Except Failure (List FoundEntry)

abbrev Directory := Connection → Except Failure Access

inductive Call
  | tls (tls : Tls)
  | server (server : Server)
  | connection (connection : Connection)
  | search (request : SearchRequest)
  | unbind

end DirectoryQuery
