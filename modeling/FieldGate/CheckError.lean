/-! What can go wrong while a requirement is checked. -/
namespace FieldGate

/-- Why a check has no verdict. -/
inductive CheckError
  | handlerFailed (handler reason : String)
  | unexpectedValue (target expected found : String)
  | entryReleased (target : String)
  deriving DecidableEq, Repr

def CheckError.message (e : CheckError) : String :=
  "Evaluation error: " ++
    match e with
    | handlerFailed handler reason => "Handler " ++ handler ++ " failed: " ++ reason
    | unexpectedValue target expected found =>
      "Unexpected value for " ++ target ++ ": expected " ++ expected ++ ", found " ++ found
    | entryReleased target => "Entry for " ++ target ++ " was released before evaluation"

end FieldGate
