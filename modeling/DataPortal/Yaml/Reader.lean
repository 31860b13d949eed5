import DataPortal.Yaml.Document
import DataPortal.Yaml.Part
/-!
# Reading YAML

The value that a text denotes: its tokens, the graph of its only document, and the values of
the nodes. A text that is no YAML fails as such before any scalar is read.
-/
namespace DataPortal.Yaml

/-- The value that a text denotes. -/
def read (s : List Char) : Except Failure Value := do
  let document ← documentOf (tokens s)
  let parts ← partsOf document.graph document.root
  return (valuesOf parts).getD document.root .unknown

end DataPortal.Yaml
