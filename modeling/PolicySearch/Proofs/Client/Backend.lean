import PolicySearch.Client.Online
/-! What a service holds, as a client without a cache sees it: the outcome of a fetch hangs on its
branch and its kind, and not on what was asked before. -/
namespace PolicySearch

abbrev Backend := String → Kind → Outcome

/- The index of a branch that is fetched whole. -/
def Backend.index (backend : Backend) (branch : String) : Index :=
  Index.build (some branch) fun kind => (backend branch kind).items

namespace Client

def backend (c : Client) (web : Web) : Backend :=
  fun branch kind => .ofResult (c.fetchDocuments web {} branch kind.word).1

variable {c : Client}

theorem plainCall (plain : c.cacheStem = none) (web : Web) (t : Trail) (path : String) :
    (c.call web t path).1 = (c.call web {} path).1 := by
  simp only [call, plain, request]
  split <;> rfl

theorem plainKinds (plain : c.cacheStem = none) (web : Web) (branch : String) (kinds : List Kind)
    (t : Trail) :
    (c.fetchKinds web branch kinds t).1 = kinds.map fun kind => (kind, c.backend web branch kind) := by
  induction kinds generalizing t with
  | nil => rfl
  | cons kind rest ih =>
    rw [List.map_cons, ← ih (c.fetchDocuments web t branch kind.word).2, backend, fetchDocuments,
      ← plainCall plain web t]
    rfl

theorem plainGather (plain : c.cacheStem = none) (web : Web) (branch : String) (t : Trail) :
    (c.gather web t true branch).1 = Kind.all.map fun kind => (kind, c.backend web branch kind) :=
  plainKinds plain web branch Kind.all t

theorem plainAsked (plain : c.cacheStem = none) (web : Web) (t : Trail) (path : String) :
    (c.call web t path).2.asked.length = t.asked.length + 1 := by
  simp only [call, plain, request]
  split <;> simp [Trail.ask, Trail.say]

/- Each kind is one request. -/
theorem kindsAsked (plain : c.cacheStem = none) (web : Web) (branch : String) (kinds : List Kind)
    (t : Trail) :
    (c.fetchKinds web branch kinds t).2.asked.length = t.asked.length + kinds.length := by
  induction kinds generalizing t with
  | nil => rfl
  | cons kind rest ih =>
    simp only [fetchKinds, fetchDocuments, List.length_cons, ih, plainAsked plain]
    omega

end Client

end PolicySearch
