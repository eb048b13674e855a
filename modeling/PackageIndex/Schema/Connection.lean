import PackageIndex.Schema.Database
/-!
A connection to a database file. What is written inside a transaction is seen by the connection
alone until a commit brings it to the file; a transaction that is given up leaves no trace there.
-/
namespace PackageIndex.Schema

structure Connection where
  file : Database
  /-- What the open transaction has made of the file so far. -/
  pending? : Option Database := none

namespace Connection

/-- The database as the connection sees it. -/
def seen (c : Connection) : Database := c.pending?.getD c.file

/-- Opens a transaction. -/
def start (c : Connection) : Connection := { c with pending? := some c.file }

/-- What is written outside a transaction goes to the file at once. -/
def write (c : Connection) (db : Database) : Connection :=
  match c.pending? with
  | none => { c with file := db }
  | some _ => { c with pending? := some db }

/-- Brings what the open transaction has made to the file; without one there is nothing to
commit. -/
def commit? (c : Connection) : Option Connection := c.pending?.map fun db => { file := db }

def rollBack (c : Connection) : Connection := { file := c.file }

end Connection

end PackageIndex.Schema
