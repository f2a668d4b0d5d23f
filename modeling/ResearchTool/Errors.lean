import Mathlib.Data.String.Basic

/-!
# Exceptions of the research service

The model keeps the three exception classes the code distinguishes in an
`except` clause apart; every other `Exception` subclass is known to the code
only through its class name and `str(exc)`.
-/

namespace ResearchTool

/-- `ResearchProblem` of `common/exception/errors.py`, with the fields its
callers in the research package set. -/
structure ResearchProblem where
  statusCode : Nat
  type : String
  title : String
  detail : Option String := none
  deriving DecidableEq, Repr

/-- Any exception an `except Exception` clause catches. -/
inductive Exn where
  | researchProblem (problem : ResearchProblem)
  | llmUnavailable (message : String)
  | contentPolicy (message : String)
  | other (className message : String)
  deriving DecidableEq, Repr

namespace ResearchProblem

/-- `str(problem)`: the constructor passes `detail or title` to `Exception`. -/
def str (problem : ResearchProblem) : String :=
  match problem.detail with
  | some detail => if detail = "" then problem.title else detail
  | none => problem.title

end ResearchProblem

namespace Exn

/-- `str(exc)`. -/
def str : Exn → String
  | researchProblem problem => problem.str
  | llmUnavailable message => message
  | contentPolicy message => message
  | other _ message => message

/-- The two classes `execute_research_pipeline` catches around the analysis. -/
def isAnalysisFault : Exn → Bool
  | llmUnavailable _ => true
  | contentPolicy _ => true
  | _ => false

end Exn

end ResearchTool
