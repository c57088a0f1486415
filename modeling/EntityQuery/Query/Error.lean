import EntityQuery.Store.Error

/-!
# Query errors

A query is rejected before any store is asked, or it fails with an error of the
store.  Errors of the store are kept as they are.
-/

namespace EntityQuery

/-- A failure of a query or an insertion. -/
inductive QueryError where
  /-- A filter has an operator that is not one of the seven. -/
  | unsupportedOperator (raw : String)
  /-- No kind was named. -/
  | missingTargetKind
  /-- The store failed on a query. -/
  | storeQuery (source : StoreError)
  /-- The store failed on an allocation or an insertion. -/
  | storeWrite (source : StoreError)
deriving DecidableEq, Repr

namespace QueryError

/-- How grave an error is: rejected before a store was asked, or failed there. -/
inductive Gravity where
  | reject
  | error
deriving DecidableEq, Repr

/-- The word for a gravity. -/
def Gravity.text : Gravity → String
  | .reject => "REJECT"
  | .error => "ERROR"

/-- The code of the error. -/
def code : QueryError → String
  | .unsupportedOperator _ => "KINDQL_UNSUPPORTED_OPERATOR"
  | .missingTargetKind => "KINDQL_MISSING_TARGET_KIND"
  | .storeQuery _ => "KINDQL_STORE_QUERY"
  | .storeWrite _ => "KINDQL_STORE_WRITE"

/-- How grave the error is. -/
def gravity : QueryError → Gravity
  | .unsupportedOperator _ | .missingTargetKind => .reject
  | .storeQuery _ | .storeWrite _ => .error

/-- Whether the query was rejected before a store was asked. -/
def isRejected (e : QueryError) : Bool := e.gravity == .reject

/-- The error of the store, if it was the store that failed. -/
def source? : QueryError → Option StoreError
  | .unsupportedOperator _ | .missingTargetKind => none
  | .storeQuery source | .storeWrite source => some source

/-- What to tell about the error. -/
def message : QueryError → String
  | .unsupportedOperator raw => "Operator '" ++ raw ++ "' is not supported"
  | .missingTargetKind => "No target kind set; call from(kind) first"
  | .storeQuery source | .storeWrite source => source.message

/-- The line that shows the error. -/
def text (e : QueryError) : String :=
  "[" ++ e.gravity.text ++ "] " ++ e.code ++ ": " ++ e.message

end QueryError

end EntityQuery
