/-!
# Text

A source text is a list of Unicode characters. The lexer takes it from the
front, one character at a time and with at most two of them in view, so a list
is all the structure it needs, and "what has been read, followed by what has
not, is the text" is an equation between lists.

Bytes enter only as a measure. Token offsets count the bytes of the UTF-8 form,
and `byteSize` says how many a text has; it turns `++` into `+`, which is the
one thing that every statement about offsets uses.
-/

namespace ImpLexer

/-- A text, as the list of its characters. -/
abbrev Text := List Char

namespace Text

/-- The number of bytes in the UTF-8 form of a text. -/
def byteSize (t : Text) : Nat := t.foldr (fun c n => c.utf8Size + n) 0

@[simp] theorem byteSize_nil : byteSize [] = 0 := rfl

@[simp] theorem byteSize_cons (c : Char) (t : Text) :
    byteSize (c :: t) = c.utf8Size + byteSize t := rfl

@[simp] theorem byteSize_append (s t : Text) :
    byteSize (s ++ t) = byteSize s + byteSize t := by
  induction s with
  | nil => rw [List.nil_append, byteSize_nil, Nat.zero_add]
  | cons c s ih => rw [List.cons_append, byteSize_cons, byteSize_cons, ih, Nat.add_assoc]

/-- The measure is the one that strings have. -/
theorem byteSize_eq (t : Text) : t.byteSize = (String.ofList t).utf8ByteSize := by
  induction t with
  | nil => simp
  | cons c t ih =>
      rw [byteSize_cons, ih, String.ofList_cons, String.utf8ByteSize_append,
        String.utf8ByteSize_singleton]

/-! ## Numerals -/

/-- A number in decimal digits, without leading zeros. -/
def decimal (n : Nat) : Text := Nat.toDigits 10 n

/-- A number in lower-case hexadecimal digits, without leading zeros. -/
def hexadecimal (n : Nat) : Text := Nat.toDigits 16 n

/-! ## Lines -/

/-- A text as one line: its characters and a line feed. -/
def line (t : Text) : Text := t ++ ['\n']

/-- The part of a text in front of its first line break, which is a line feed or a
carriage return with a line feed behind it. A carriage return by itself breaks no
line. -/
def firstLine : Text → Text
  | [] => []
  | c :: t =>
      if c = '\n' ∨ c = '\r' ∧ t.head? = some '\n' then [] else c :: firstLine t

end Text

end ImpLexer
