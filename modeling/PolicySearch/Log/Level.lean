import PolicySearch.Fault
import PolicySearch.Text.Case
/-! How grave a log line is. A line is written if its level is at least the one asked for. Besides
the named levels there is one for each rank. A whole number makes such a level, and from then on
any equal number finds it. -/
namespace PolicySearch
open Number

inductive Level where
  | trace
  | debug
  | info
  | success
  | warning
  | error
  | critical
  | ranked (rank : Nat)
  deriving DecidableEq, Repr

inductive BadLevel where
  | unknown (name : String)
  | negative (rank : Int)
  | other (value : Json)
  deriving DecidableEq, Repr

def BadLevel.fault : BadLevel → Fault
  | unknown name => ⟨.value, some ("Level '" ++ name ++ "' does not exist")⟩
  | negative rank =>
    ⟨.value, some ("Invalid level value, it should be a positive integer, not: " ++ intText rank)⟩
  | other value =>
    ⟨.type, some ("Invalid level, it should be an integer or a string, not: '" ++ value.typeName ++
      "'")⟩

namespace Level

def allNamed : List Level := [trace, debug, info, success, warning, error, critical]

def name : Level → String
  | trace => "TRACE"
  | debug => "DEBUG"
  | info => "INFO"
  | success => "SUCCESS"
  | warning => "WARNING"
  | error => "ERROR"
  | critical => "CRITICAL"
  | ranked rank => "Level " ++ natText rank

def rank : Level → Nat
  | trace => 5
  | debug => 10
  | info => 20
  | success => 25
  | warning => 30
  | error => 40
  | critical => 50
  | ranked rank => rank

def icon : Level → String
  | trace => "✏️"
  | debug => "🐞"
  | info => "ℹ️"
  | success => "✅"
  | warning => "⚠️"
  | error => "❌"
  | critical => "☠️"
  | ranked _ => " "

def ofName (name : String) : Except BadLevel Level :=
  match allNamed.find? (·.name == name) with
  | some level => .ok level
  | none => .error (.unknown name)

def ofRank (rank : Int) : Except BadLevel Level :=
  if rank < 0 then .error (.negative rank) else .ok (.ranked rank.toNat)

def hasRank (x : Binary64) : Level → Bool
  | ranked rank => x.equals rank
  | _ => false

def ofJson (used : List Level) : Json → Except BadLevel Level
  | .str name => ofName name
  | .int rank => ofRank rank
  | .bool b => ofRank b.toInt
  | .float x =>
    match used.find? (hasRank x) with
    | some level => .ok level
    | none => .error (.other (.float x))
  | value => .error (.other value)

/-- The levels of lines that follow one another. -/
def ofEach (used : List Level) : List Json → Except BadLevel (List Level)
  | [] => .ok []
  | value :: rest => do
    let level ← ofJson used value
    let others ← ofEach (level :: used) rest
    return level :: others

end Level

end PolicySearch
