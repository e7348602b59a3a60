import ImpLexer.Text.Visible

/-!
# Tokens

A token is a piece of source text that has been given a kind: the piece exactly
as it was written, quotation marks and escapes included, and the byte at which
it began. Nothing is decoded, so the source can be put together again from its
tokens and what lies between them.

Six kinds cover the language. Keywords are identifiers, and brackets and
separators are operators: telling those apart is left to whoever reads the
tokens.
-/

namespace ImpLexer

/-! ## Kinds -/

/-- What sort of thing a token is. -/
inductive Kind where
  /-- A character in single quotation marks. -/
  | character
  /-- A number with a fraction. -/
  | decimal
  /-- A name or a keyword. -/
  | identifier
  /-- A number without a fraction. -/
  | integer
  /-- One of the four comparisons of two characters, or any single character
  that begins nothing else. -/
  | operator
  /-- A text in double quotation marks. -/
  | string
  deriving DecidableEq, Repr

namespace Kind

/-- The name of a kind in listings. -/
def name : Kind → Text
  | character => "CHARACTER".toList
  | decimal => "DECIMAL".toList
  | identifier => "IDENTIFIER".toList
  | integer => "INTEGER".toList
  | operator => "OPERATOR".toList
  | string => "STRING".toList

/-- The place of a kind among the six, which stand in the order of their names. -/
def rank : Kind → Nat
  | character => 0
  | decimal => 1
  | identifier => 2
  | integer => 3
  | operator => 4
  | string => 5

instance : LE Kind := ⟨fun a b => a.rank ≤ b.rank⟩

instance (a b : Kind) : Decidable (a ≤ b) := Nat.decLe a.rank b.rank

/-- Kinds in ascending order, repetitions kept. -/
def sort (kinds : List Kind) : List Kind := kinds.mergeSort (· ≤ ·)

end Kind

/-! ## Pieces of a source -/

/-- A piece of source text and what sort of thing it is. -/
structure Token where
  kind : Kind
  literal : Text
  /-- The bytes of source in front of it. -/
  offset : Nat
  deriving DecidableEq, Repr

namespace Token

/-- The bytes of source up to and including the token. -/
def stop (token : Token) : Nat := token.offset + token.literal.byteSize

/-- A token in a listing: its kind, its quoted literal and, behind `@`, its
offset. -/
def render (token : Token) : Text :=
  token.kind.name ++ ' ' :: token.literal.quoted ++ '@' :: Text.decimal token.offset

end Token

end ImpLexer
