import RaftMysql.Member.Sql
import RaftMysql.Text.Utf8

/-!
# Rows as a server sends them

A server sends a row as one cell for every column, bytes or nothing. Of several columns of one name
the last counts, and bytes that are no text are read with replacement characters.
-/

namespace RaftMysql.Wire

/-- A row from its columns and cells. -/
def rowOfCells (columns : List String) (cells : List (Option (List UInt8))) : Row :=
  Table.ofPairs ((columns.zip cells).map fun p => (p.1, p.2.map Text.Utf8.decodeLossy))

end RaftMysql.Wire
