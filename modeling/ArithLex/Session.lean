import ArithLex.Lexer.Pull

/-!
# Sessions

A session drives several lexers side by side. Each command names one of them and a step; the answer
is the step's reply and the lexer after it.
-/

set_option autoImplicit false

namespace ArithLex

inductive Step where
  | next
  | pull
  | drain
  | take (n : Nat)
  | stripRest
  | textOfRest
  | location
  | errors
  | warnings
  | diagnostics
deriving DecidableEq

/-- What a lexer answers. Where no token is left, `next` says that there is none and `pull` stops. -/
inductive Reply where
  | token (t : Token)
  | noToken
  | stop
  | tokens (ts : List Token)
  | text (s : String)
  | location (p : Location)
  | diagnostics (ds : List Diagnostic)
deriving DecidableEq

/-- One step of a lexer: the reply, and the lexer after it. -/
def Lexer.perform (l : Lexer) : Step → Reply × Lexer
  | .next =>
    match l.next with
    | some (t, m) => (.token t, m)
    | none => (.noToken, l)
  | .pull =>
    match l.next with
    | some (t, m) => (.token t, m)
    | none => (.stop, l)
  | .drain =>
    let (ts, m) := l.drain
    (.tokens ts, m)
  | .take n =>
    let (ts, m) := l.take n
    (.tokens ts, m)
  | .stripRest =>
    let (ts, m) := l.drain
    (.tokens (stripTrivia ts), m)
  | .textOfRest =>
    let (ts, m) := l.drain
    (.text (sourceText ts), m)
  | .location => (.location l.location, l)
  | .errors => (.diagnostics l.errors.toList, l)
  | .warnings => (.diagnostics l.warnings.toList, l)
  | .diagnostics => (.diagnostics l.diagnostics.toList, l)

namespace Session

structure Command (n : Nat) where
  target : Fin n
  step : Step

/-- The reply to a command, and the lexer it was for after the step. -/
structure Entry (n : Nat) where
  target : Fin n
  reply : Reply
  after : Lexer

/-- The entries of the commands, in order. -/
def run {n : Nat} (lexers : Vector Lexer n) : List (Command n) → List (Entry n)
  | [] => []
  | c :: cs =>
    let (reply, after) := lexers[c.target].perform c.step
    ⟨c.target, reply, after⟩ :: run (lexers.set c.target after) cs

end Session

end ArithLex
