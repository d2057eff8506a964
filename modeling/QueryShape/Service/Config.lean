/-!
# Configuration

A service is configured by the names of the request parameters and by the number of
levels that filters and relationships may be nested.
-/

namespace QueryShape

def defaultMaxDepth : Nat := 16

structure ParameterNames where
  columns : String := "_columns"
  filters : String := "_filters"
  relationships : String := "_relationships"
deriving DecidableEq

structure Config where
  names : ParameterNames := {}
  maxDepth : Nat := defaultMaxDepth
deriving DecidableEq

end QueryShape
