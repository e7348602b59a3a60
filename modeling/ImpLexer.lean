import ImpLexer.Lexer.Script
import ImpLexer.Lexer.Walk
import ImpLexer.Main
import ImpLexer.Proofs.Beginning
import ImpLexer.Proofs.Units
import ImpLexer.Token.Grammar
import ImpLexer.Proofs.Lawful
import ImpLexer.Proofs.Readers
import ImpLexer.Proofs.Pieces
import ImpLexer.Proofs.Printing
import ImpLexer.Proofs.Coverage
import ImpLexer.Proofs.Carry
import ImpLexer.Proofs.Restart
import ImpLexer.Proofs.Walking
import ImpLexer.Proofs.Appending
import ImpLexer.Proofs.Policies
import ImpLexer.Proofs.Separation
import ImpLexer.Proofs.Stepwise
import ImpLexer.Proofs.LineEndings
import ImpLexer.Proofs.Cursor
import ImpLexer.Proofs.Truncation
import ImpLexer.Proofs.Blame
import ImpLexer.Proofs.Arguments
import ImpLexer.Proofs.Concatenation
import ImpLexer.Proofs.Longest
import ImpLexer.Proofs.StringLiterals
import ImpLexer.Proofs.Settling
import ImpLexer.Proofs.Verbosity
import ImpLexer.Proofs.Visible
import ImpLexer.Proofs.FullOutput
import ImpLexer.Proofs.Stopping
import ImpLexer.Proofs.CharacterLiterals
import ImpLexer.Proofs.Revealing
import ImpLexer.Proofs.Listing
import ImpLexer.Proofs.Diagnostics
import ImpLexer.Proofs.Places
import ImpLexer.Proofs.Arrangement
