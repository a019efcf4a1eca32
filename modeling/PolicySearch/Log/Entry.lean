import PolicySearch.Log.Level
/-! Log lines, and how they are written out. -/
namespace PolicySearch

structure LogEntry where
  level : Level
  /-- The part of the program that speaks. -/
  origin : String
  message : String
  deriving DecidableEq, Repr

abbrev Log := List LogEntry

namespace LogEntry

def line (e : LogEntry) : String := e.level.icon ++ " " ++ e.origin ++ ": " ++ e.message ++ "\n"

end LogEntry

def Log.written (threshold : Level) (log : Log) : String :=
  String.join ((log.filter (threshold.rank ≤ ·.level.rank)).map LogEntry.line)

end PolicySearch
