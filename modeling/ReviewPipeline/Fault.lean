import ReviewPipeline.Text.Digits

/-!
# Faults of the Database

What a read or a write of the database can fail with: a constraint that a row would break, a
stored value that its reader does not know, an address that makes no sense, or a file that cannot
be opened or holds no database.
-/

namespace ReviewPipeline

/-- Why a read or a write of the database failed. -/
inductive Fault where
  /-- Another row already has this value in a unique column. -/
  | notUnique (column : String)
  /-- A row would refer to a row that is not there. -/
  | missingReference
  /-- A row would break a check on its columns. -/
  | checkFailed (rule : String)
  /-- An entry of the ledger was to be changed or removed. -/
  | appendOnly
  /-- Writes of this kind are blocked. -/
  | blocked
  /-- A column, counted from zero, holds a word outside its vocabulary. -/
  | unknownWord (column : Nat) (word : String)
  /-- A column, counted from zero, holds a number outside its range. -/
  | outOfRange (column : Nat) (value : Int)
  /-- The file holds something else than a database. -/
  | notADatabase
  /-- The file at a path cannot be opened. -/
  | cannotOpen (path : String)
  /-- A file beside the database cannot be opened. -/
  | cannotOpenBeside
  /-- The database may be read only. -/
  | readOnly
  /-- A file of the database cannot be read or removed. -/
  | inputOutput
  /-- The log of the database belongs to an index that cannot be had. -/
  | lockingProtocol
  /-- The name of a database has a NUL at this byte. -/
  | nulByte (position : Nat)
  /-- The address of a database is on another host. -/
  | foreignHost (host : String)
  /-- The address of a database asks for an unknown access. -/
  | unknownAccess (word : String)
  /-- The address of a database asks for more access than it asked for before. -/
  | accessNotAllowed (word : String)
  /-- The address of a database asks for an unknown kind of cache. -/
  | unknownCache (word : String)
  /-- The address of a database asks for an unknown way to use the file system. -/
  | unknownLayer (word : String)
  /-- A fault reported in words. -/
  | reported (text : String)
  deriving DecidableEq, Repr

/-- The text of a fault. -/
def Fault.message : Fault → String
  | notUnique column => "UNIQUE constraint failed: " ++ column
  | missingReference => "FOREIGN KEY constraint failed"
  | checkFailed rule => "CHECK constraint failed: " ++ rule
  | appendOnly => "issue_pipeline_history is append-only"
  | blocked => "blocked"
  | unknownWord column word =>
    "Conversion error from type Text at index: " ++ Text.showNat column
      ++ ", unknown value '" ++ word ++ "'"
  | outOfRange column value =>
    "Integer " ++ Text.showInt value ++ " out of range at index " ++ Text.showNat column
  | notADatabase => "file is not a database"
  | cannotOpen path => "unable to open database file: " ++ path
  | cannotOpenBeside => "unable to open database file"
  | readOnly => "attempt to write a readonly database"
  | inputOutput => "disk I/O error"
  | lockingProtocol => "locking protocol"
  | nulByte position => "nul byte found in provided data at position: " ++ Text.showNat position
  | foreignHost host => "invalid uri authority: " ++ host
  | unknownAccess word => "no such access mode: " ++ word
  | accessNotAllowed word => "access mode not allowed: " ++ word
  | unknownCache word => "no such cache mode: " ++ word
  | unknownLayer word => "no such vfs: " ++ word
  | reported text => text

end ReviewPipeline
