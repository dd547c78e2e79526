namespace AgentLedger

/-! Python exceptions, as far as the runtime tells them apart. -/

/-- The most specific class that some `except` clause or `isinstance` test of
the runtime names. -/
inductive ErrorClass
  | keyError
  | valueError
  | typeError
  | runtimeError
  | integrityError
  | toolValidationError
  | permissionDenied
  | budgetExceeded
  | approvalRequired
  | simulatedCrash
  | retryableAgentError
  | nonRetryableAgentError
  | timeoutError
  | exception
  deriving DecidableEq, Repr

/-- `typeName` is `type(exc).__name__`, the name of the raised subclass. -/
structure PyError where
  cls : ErrorClass
  typeName : String
  message : String
  approvalId : Option String := none
  deriving DecidableEq, Repr

namespace PyError

def keyError (message : String) : PyError :=
  { cls := .keyError, typeName := "KeyError", message := message }

def valueError (message : String) : PyError :=
  { cls := .valueError, typeName := "ValueError", message := message }

def typeError (message : String) : PyError :=
  { cls := .typeError, typeName := "TypeError", message := message }

def runtimeError (message : String) : PyError :=
  { cls := .runtimeError, typeName := "RuntimeError", message := message }

def integrityError : PyError :=
  { cls := .integrityError
    typeName := "IntegrityError"
    message := "UNIQUE constraint failed" }

/-- An error of the database of no class that the runtime names. -/
def operationalError (message : String) : PyError :=
  { cls := .exception, typeName := "OperationalError", message := message }

/-- Of the classes in which the store refuses what it is asked. -/
def refuses (error : PyError) : Bool :=
  decide (error.cls = .keyError) || decide (error.cls = .runtimeError)

/-- `repr(exc)`. -/
def repr (error : PyError) : String :=
  error.typeName ++ "('" ++ error.message ++ "')"

end PyError

end AgentLedger
