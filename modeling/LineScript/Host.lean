import LineScript.Store

/-! The process in which a program runs. It can end a line for reasons that are none of the language: calls nest only
    so deep in it, which depends on how deep its caller stands, and its memory may give out. -/

namespace LineScript

/-- What a process leaves to a run. -/
class Host where
  /-- The largest argument whose factorial is computed at all. -/
  factorials : Int
  /-- How many operators of an expression may nest. -/
  operators : Nat
  /-- The height to which the tree of an expression is built. -/
  height : Nat
  /-- Whether the memory gives out at a line, after so many executed lines and with this store. -/
  givesOut : Nat → Store → Text → Bool

/-- The process of a caller that stands up to a dozen calls deep and has memory for everything. A caller that stands
    deeper leaves less, one that stands higher a little more. -/
instance Host.caller : Host where
  factorials := 980
  operators := 480
  height := 2950
  givesOut _ _ _ := false

end LineScript
