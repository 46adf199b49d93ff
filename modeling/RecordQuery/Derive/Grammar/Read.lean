import RecordQuery.Derive.Grammar.Blocks

/-!
# Reading any phrase

`Grammar.read` reads a phrase of any goal. The readers of the grammar are written against
a reader of goals `r`, which they call for the phrases they hold; `read` ties them
together, with a depth bound: each nesting of one phrase in another takes one unit of
depth. A phrase holds at least one token more than the phrases it starts with, apart
from a bounded number of steps, so a depth of sixteen units a token suffices for any
input; `Grammar.readAll` gives that.
-/

namespace RecordQuery

namespace Derive

namespace Grammar

/-- Reads an expression: a unary expression and the operators after it. -/
def exprStep (r : Goal → Reader Phrase) (allowStruct : Bool) : Reader Phrase := do
  let lhs ← r (.unary allowStruct)
  r (.exprTail lhs allowStruct .jump)

/-- Reads one phrase of the goal `g`, with `r` for the phrases it holds. -/
def step (r : Goal → Reader Phrase) : Goal → Reader Phrase
  | .type allowPlus => typeStep r allowPlus
  | .typePath => typePathStep r
  | .path exprStyle => pathStep r exprStyle
  | .qpath exprStyle => qpathStep r exprStyle
  | .angleArgs => angleArgsStep r
  | .parenArgs => parenArgsStep r
  | .bound allowPrecise allowConst => boundStep r allowPrecise allowConst
  | .boundLifetimes => boundLifetimesStep r
  | .genericParam inGenerics => genericParamStep r inGenerics
  | .outerAttrs => do
    let (list, ts) ← outerAttrs r (← Reader.steps)
    return ⟨ts, .attrs list⟩
  | .innerAttrs => do
    let (list, ts) ← innerAttrs r (← Reader.steps)
    return ⟨ts, .attrs list⟩
  | .metaItem => metaStep r
  | .metaItems => do
    let list ← metaItems r (← Reader.steps)
    return ⟨[], .metaItems list⟩
  | .constArgument => constArgumentStep r
  | .expr allowStruct => exprStep r allowStruct
  | .unary allowStruct => unaryStep r allowStruct
  | .exprTail lhs allowStruct base => do exprTail r allowStruct base (← Reader.steps) lhs
  | .binaryRhs allowStruct prec => binaryRhsStep r allowStruct prec
  | .exprEarly => exprEarlyStep r
  | .block inner => blockStep r inner
  | .statement => statementStep r
  | .pattern multi => patternStep r multi

/-- Reads one phrase of the goal `g`, nesting at most `depth` phrases. -/
def read : Nat → Goal → Reader Phrase
  | 0, _ => Reader.failHere "recursion limit reached"
  | depth + 1, g => step (read depth) g

/-- Reads one phrase of the goal `g`, with depth enough for the tokens left. -/
def readAll (g : Goal) : Reader Phrase := do
  let ts ← Reader.tokens
  read (16 * Tokens.count ts + 16) g

end Grammar

end Derive

end RecordQuery
