import PolicySearch.Client.Cache
import PolicySearch.Log.Entry
/-! What calls to the service leave behind: the kept texts, the log, and the addresses that were
asked. A trail only grows, but for the log that a reader takes away. -/
namespace PolicySearch

structure Asked where
  url : String
  /-- The name under which a good reply is kept, if replies are kept. -/
  keptAs : Option String
  deriving DecidableEq, Repr

structure Trail where
  cache : Cache := []
  log : Log := []
  asked : List Asked := []
  deriving DecidableEq, Repr

namespace Trail

def say (t : Trail) (log : Log) : Trail := { t with log := t.log ++ log }

def ask (t : Trail) (request : Asked) : Trail := { t with asked := t.asked ++ [request] }

def keep (t : Trail) (stem name : String) (text : Text.Points) : Except Fault Unit × Trail :=
  let (done, cache) := t.cache.keep stem name text
  (done, { t with cache := cache })

end Trail

end PolicySearch
