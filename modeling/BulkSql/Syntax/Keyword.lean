import BulkSql.Text.Basic

/-! # Keywords

Every keyword of the grammar is reserved: none of them names a table, a column or a function. Words are compared
without regard to the case of ASCII letters.
-/

namespace BulkSql

inductive Keyword where
  | AND | AS | CONFLICT | CONSTRAINT | DELETE | DO | FALSE | FROM | INSERT | INTO | IS | NOT | NOTHING | NULL | ON | OR
  | SELECT | SET | TRUE | UPDATE | UPSERT | VALUES | WHERE | XOR
deriving DecidableEq, Repr

namespace Keyword

/-- The keyword in upper case. -/
def word : Keyword → Text
  | AND => "AND" | AS => "AS" | CONFLICT => "CONFLICT" | CONSTRAINT => "CONSTRAINT" | DELETE => "DELETE"
  | DO => "DO" | FALSE => "FALSE" | FROM => "FROM" | INSERT => "INSERT" | INTO => "INTO" | IS => "IS"
  | NOT => "NOT" | NOTHING => "NOTHING" | NULL => "NULL" | ON => "ON" | OR => "OR" | SELECT => "SELECT"
  | SET => "SET" | TRUE => "TRUE" | UPDATE => "UPDATE" | UPSERT => "UPSERT" | VALUES => "VALUES"
  | WHERE => "WHERE" | XOR => "XOR"

def all : List Keyword :=
  [AND, AS, CONFLICT, CONSTRAINT, DELETE, DO, FALSE, FROM, INSERT, INTO, IS, NOT, NOTHING, NULL, ON, OR, SELECT, SET,
    TRUE, UPDATE, UPSERT, VALUES, WHERE, XOR]

/-- The keyword that a word spells, in any case. -/
def lookup? (word : Text) : Option Keyword := all.find? fun keyword => keyword.word == Text.upperCase word

end Keyword

/-- A reserved word is one that spells a keyword. -/
def isReserved (word : Text) : Bool := (Keyword.lookup? word).isSome

end BulkSql
