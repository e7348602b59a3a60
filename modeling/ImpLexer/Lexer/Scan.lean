import ImpLexer.Lexer.Basic

/-!
# Scanning a whole text

A scan passes over blanks and reads tokens until the text ends or a token cannot
be read. Both ways of ending leave tokens behind, so a `Scan` holds them along
with how it ended; whoever only wants the tokens of a text without errors asks
for `Lexer.tokens`, where the first error takes their place.

Reading a token makes the remaining text shorter and skipping blanks does not
make it longer, which is why a scan ends. It is a recursion on the length of a
text, which the kernel does not evaluate; for a text that is written out,
`lex_eq_scanUpTo` turns it into one that it does.
-/

namespace ImpLexer

/-- How a scan ended. -/
inductive Ending where
  /-- Nothing but blanks was left. -/
  | complete
  /-- A lexer that had passed over the blanks in front of it could not read on. -/
  | failed (stopped : Lexer) (error : LexError)
  deriving DecidableEq, Repr

/-- What came of lexing a text from some place on. -/
structure Scan where
  tokens : List Token
  ending : Ending
  deriving DecidableEq, Repr

def Scan.cons (token : Token) (scan : Scan) : Scan :=
  { scan with tokens := token :: scan.tokens }

/-- The tokens of a scan that met no error, or the error it met. -/
def Scan.result (scan : Scan) : Except LexError (List Token) :=
  match scan.ending with
  | .complete => .ok scan.tokens
  | .failed _ error => .error error

theorem Scan.tokens_eq_of_result_eq_ok {scan : Scan} {tokens : List Token}
    (h : scan.result = .ok tokens) : scan.tokens = tokens := by
  obtain ⟨found, ending⟩ := scan
  cases ending with
  | complete => exact Except.ok.inj h
  | failed stopped error => cases h

/-- The scan that has found some tokens before. -/
def Scan.behind (scan : Scan) (front : List Token) : Scan :=
  { scan with tokens := front ++ scan.tokens }

theorem Scan.result_behind (scan : Scan) (front : List Token) :
    (scan.behind front).result = scan.result.map (front ++ ·) := by
  obtain ⟨found, ending⟩ := scan
  cases ending <;> rfl

namespace Lexer

/-- Reads all that is left of a text. -/
def scan (lexer : Lexer) : Scan :=
  let ready := lexer.skipBlanks
  if ready.rest = [] then ⟨[], .complete⟩
  else
    match h : ready.readToken with
    | (.ok token, next) =>
        have : next.rest.length < lexer.rest.length :=
          Nat.lt_of_lt_of_le (length_rest_readToken_lt h) (length_rest_skipBlanks_le lexer)
        next.scan.cons token
    | (.error error, _) => ⟨[], .failed ready error⟩
termination_by lexer.rest.length

/-- The tokens that are left, if all of them can be read. -/
def tokens (lexer : Lexer) : Except LexError (List Token) := lexer.scan.result

/-! ## One token of a scan -/

variable {lexer next : Lexer}

theorem scan_of_rest_eq_nil (hrest : lexer.skipBlanks.rest = []) :
    lexer.scan = ⟨[], .complete⟩ := by
  rw [scan]
  exact if_pos hrest

theorem scan_of_token {token : Token} (hne : lexer.skipBlanks.rest ≠ [])
    (hread : lexer.skipBlanks.readToken = (.ok token, next)) :
    lexer.scan = next.scan.cons token := by
  rw [scan]
  simp only
  rw [if_neg hne]
  split
  · next h => rw [hread] at h; cases h; rfl
  · next h => rw [hread] at h; cases h

theorem scan_of_error {error : LexError} (hne : lexer.skipBlanks.rest ≠ [])
    (hread : lexer.skipBlanks.readToken = (.error error, next)) :
    lexer.scan = ⟨[], .failed lexer.skipBlanks error⟩ := by
  rw [scan]
  simp only
  rw [if_neg hne]
  split
  · next h => rw [hread] at h; cases h
  · next h => rw [hread] at h; cases h; rfl

/-! ## Evaluation -/

/-- Reads all that is left of a text, but no more than `n` tokens. -/
def scanUpTo : Nat → Lexer → Scan
  | 0, _ => ⟨[], .complete⟩
  | n + 1, lexer =>
      let ready := lexer.skipBlanks
      if ready.rest = [] then ⟨[], .complete⟩
      else
        match ready.readToken with
        | (.ok token, next) => (next.scanUpTo n).cons token
        | (.error error, _) => ⟨[], .failed ready error⟩

/-- A text has no more tokens than characters. -/
theorem scan_eq_scanUpTo {n : Nat} (h : lexer.rest.length ≤ n) :
    lexer.scan = lexer.scanUpTo n := by
  have hskip := length_rest_skipBlanks_le lexer
  induction n generalizing lexer with
  | zero =>
      have hrest : lexer.skipBlanks.rest = [] := List.length_eq_zero_iff.1 (by omega)
      exact scan_of_rest_eq_nil hrest
  | succ n ih =>
      rw [scanUpTo]
      by_cases hrest : lexer.skipBlanks.rest = []
      · rw [scan_of_rest_eq_nil hrest, if_pos hrest]
      · rw [if_neg hrest]
        cases hread : lexer.skipBlanks.readToken with
        | mk result next =>
            cases result with
            | ok token =>
                have hlt := length_rest_readToken_lt hread
                rw [scan_of_token hrest hread,
                  ih (by omega) (length_rest_skipBlanks_le next)]
            | error error => rw [scan_of_error hrest hread]

end Lexer

/-- The tokens of a text. -/
def lex (config : Config) (source : Text) : Except LexError (List Token) :=
  (Lexer.ofText config source).tokens

theorem lex_eq_scanUpTo (config : Config) (source : Text) :
    lex config source = ((Lexer.ofText config source).scanUpTo source.length).result :=
  congrArg Scan.result (Lexer.scan_eq_scanUpTo (Nat.le_refl source.length))

end ImpLexer
