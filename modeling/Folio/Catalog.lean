-- SUMMARY: The public constants and the lists of public names.
import Folio.Grammar
import Folio.Node.Content

/-!
# Catalogue

What the library makes public: its version, its constants with their values, and
the names that its two entry points offer, in order of code points.
-/

namespace Folio.Catalog

def version : String := "1.0.0"

def constants : List (String × Value) :=
  [ ("DEFAULT_CHECK_HEADING_LEVELS", .bool ({} : Options).checkHeadingLevels),
    ("DEFAULT_STRICT_VALIDATION", .bool ({} : Options).strict),
    ("DEFAULT_TEXT_JOINER", .text Node.defaultJoiner),
    ("MAX_HEADER_LEVEL", .int maxHeadingLevel),
    ("MIN_HEADER_LEVEL", .int minHeadingLevel) ]

/-- The names offered by the library as a whole. -/
def exports : List String :=
  ["Anchor", "BlockRule", "Body", "Bold", "Cons", "Div", "DocumentBuilder", "DomTreeError",
    "Empty", "GrammarError", "Header", "InlineRule", "Italic", "Node", "NodeVisitor", "PList",
    "Para", "RootRule", "Text", "ValidationError", "ValidationOptions", "__version__",
    "extract_text", "from_iterable", "is_well_formed", "validate"]

/-- The names offered by the part about trees. -/
def treeExports : List String :=
  ["Anchor", "BlockRule", "Body", "Bold", "Div", "DocumentBuilder", "Header", "InlineRule",
    "Italic", "Node", "NodeVisitor", "Para", "RootRule", "Text", "anchor", "body", "bold",
    "count_nodes", "div", "extract_text", "get_node_children", "header", "is_well_formed",
    "italic", "para", "text", "tree_depth", "validate"]

end Folio.Catalog
