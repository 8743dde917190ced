import ExchangeGrid.Error
import ExchangeGrid.Watch.Overrides

namespace ExchangeGrid
namespace Watch

/-!
# Why watching comes to an end

An end names its cause.  `Halt.chain` puts it into words from the outside in: what was attempted
first, then what went wrong in it.
-/

/-- Why the watching program ends without having been told to. -/
inductive Halt
  | failed (context : Option String) (error : Error)
  | calledOff
  | stillPending
  | wrongSettings (path : String)
  | wrongHost (flaw : HostFlaw)
  deriving DecidableEq, Repr

namespace Halt

/-- The messages of an end, from the outermost to its cause. -/
def chain : Halt → List String
  | failed context error => context.toList ++ [error.message]
  | calledOff => ["cancelled while waiting for approval"]
  | stillPending => ["the account is still pending"]
  | wrongSettings path => ["parsing " ++ path ++ ": not a settings file"]
  | wrongHost flaw => flaw.chain

def indented (text : String) : String :=
  String.intercalate "\n" ((splitOn '\n' text.toList).map fun line =>
    String.ofList (if line.isEmpty then [] else "    ".toList ++ line))

/-- The causes below the outermost message.  Several causes are numbered. -/
def causes : List String → List String
  | [] => []
  | [cause] => ["", "Caused by:", indented cause]
  | several => "" :: "Caused by:" :: several.zipIdx.map fun (cause, index) =>
      "    " ++ toString index ++ ": " ++ cause

def report (halt : Halt) : String :=
  match halt.chain with
  | [] => ""
  | outermost :: rest => String.intercalate "\n" (("Error: " ++ outermost) :: causes rest)

end Halt
end Watch
end ExchangeGrid
