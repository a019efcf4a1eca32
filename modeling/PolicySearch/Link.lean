import PolicySearch.Kind
/-! Where the console shows a document for editing. -/
namespace PolicySearch

structure Link where
  branch : String
  kind : Kind
  id : String
  deriving DecidableEq, Repr

def Link.path (link : Link) : String :=
  "/config/" ++ link.branch ++ "/" ++ link.kind.word ++ "/" ++ link.id

end PolicySearch
