/-!
# Chains of errors

- `ErrorChain`: an error with the errors behind it, the outermost first.
- `ErrorChain.text`: the chain on one line, as in `outer: middle: root`.
-/

namespace CommandFront

/-- An error with what caused it. -/
structure ErrorChain where
  /-- What went wrong. -/
  message : String
  /-- The errors behind it, each the cause of the one before. -/
  causes : List String := []
deriving DecidableEq, Repr

namespace ErrorChain

/-- An error without a cause. -/
def ofMessage (message : String) : ErrorChain :=
  ⟨message, []⟩

/-- The errors of the chain on one line. -/
def text (chain : ErrorChain) : String :=
  ": ".intercalate (chain.message :: chain.causes)

end ErrorChain

end CommandFront
