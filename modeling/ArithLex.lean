import ArithLex.Catalogue
import ArithLex.Diagnostic
import ArithLex.Lexeme
import ArithLex.Lexer.Basic
import ArithLex.Lexer.Pull
import ArithLex.Lexer.Scanner
import ArithLex.Location
import ArithLex.Manifest
import ArithLex.Proofs.Diagnostic.Lines
import ArithLex.Proofs.Diagnostic.Places
import ArithLex.Proofs.Diagnostic.Reports
import ArithLex.Proofs.Lexeme.Place
import ArithLex.Proofs.Lexeme.Runs
import ArithLex.Proofs.Lexeme.Split
import ArithLex.Proofs.Lexer.Classes
import ArithLex.Proofs.Lexer.Concatenation
import ArithLex.Proofs.Lexer.Journal
import ArithLex.Proofs.Lexer.Progress
import ArithLex.Proofs.Lexer.Pulls
import ArithLex.Proofs.Lexer.Scanning
import ArithLex.Proofs.Lexer.State
import ArithLex.Proofs.Lexer.Strict
import ArithLex.Proofs.Lexer.Termination
import ArithLex.Proofs.Location.Lines
import ArithLex.Proofs.Session.Isolation
import ArithLex.Proofs.Text.Legible
import ArithLex.Proofs.Text.Numerals
import ArithLex.Proofs.Text.Printable
import ArithLex.Proofs.Text.Quoted
import ArithLex.Proofs.Token.Counts
import ArithLex.Proofs.Token.Forms
import ArithLex.Proofs.Token.Insertion
import ArithLex.Proofs.Token.Numbers
import ArithLex.Proofs.Token.Repair
import ArithLex.Proofs.Token.RoundTrip
import ArithLex.Proofs.Token.Stripped
import ArithLex.Session
import ArithLex.Text.CharTable
import ArithLex.Text.Written
import ArithLex.Token.Basic
import ArithLex.Token.Kind
