import LineScript.Arithmetic.Grammar.Construct

/-! The rules for common mistakes. They are looked for once a text is known to be no expression, and can
    end the reading before too deep a nesting is found. Each fault has a spot at which it is reported. -/

namespace LineScript.Arithmetic.Grammar

/-- A plain or a loaded parameter list's beginning with a slash. -/
def slashed : Pattern := oneOf [[Rule.slashPlain], [Rule.slashDefault]]

/-- The alternatives of the rules for mistakes, and of the rules that only they use. -/
def mistakes : Rule → List Alternative
  | .quietExpression =>
    [making spanning [Rule.disjunction, "if", Rule.disjunction, "else", Rule.expression],
      parts [Rule.disjunction],
      parts [Rule.function]]
  | .wrongArguments =>
    [fault Match.beginning [Rule.argumentList, ",", "*"],
      fault Match.firstPart [Rule.expression, Rule.loops, ",",
        .optional (oneOf [[Rule.argumentList], [Rule.expression, Rule.loops]])],
      fault Match.beginning [.name, "=", Rule.expression, Rule.loops],
      faultIf (fun m => 1 < m.unlabelled.length) Match.lastUnlabelled [Rule.argumentList, Rule.loops],
      fault Match.lastUnlabelled [Rule.argumentList, ",", Rule.expression, Rule.loops],
      fault Match.latest [Rule.argumentList, ",", Rule.argumentList]]
  | .wrongKeyword =>
    [fault Match.beginning [oneOf [["True"], ["False"], ["None"]], "="],
      fault Match.beginning [.name, "=", Rule.expression, Rule.loops],
      fault Match.firstPart [.not (oneOf [[.name, "="]]), Rule.expression, "="]]
  | .wrongStatement =>
    [faultIf Match.beginsOldStatement Match.beginning [.name, .not "(", Rule.starExpressions]]
  | .wrongExpression =>
    [faultIf (fun m => m.inside && !m.beginsOldStatement) Match.firstPart
        [.not (oneOf [[.name, .quotation], [.softName]]), Rule.disjunction, Rule.quietExpression],
      fault Match.firstPart [Rule.disjunction, "if", Rule.disjunction, .not (oneOf [["else"], [":"]])]]
  | .wrongAssignment =>
    [fault Match.firstPart [Rule.expression, ":=", Rule.expression],
      fault Match.beginning [.name, "=", Rule.bitOr, .not (oneOf [["="], [":="]])],
      fault Match.firstPart
        [.not (oneOf [[Rule.list], [Rule.tuple], [Rule.generator], ["True"], ["None"], ["False"]]),
          Rule.bitOr, "=", Rule.bitOr, .not (oneOf [["="], [":="]])]]
  | .wrongLoop =>
    [fault Match.firstPart [oneOf [["["], ["("], ["\x7b"]], Rule.starArgument, Rule.loops],
      fault Match.firstPart [oneOf [["["], ["\x7b"]], Rule.element, ",", Rule.elements, Rule.loops],
      fault Match.firstPart [oneOf [["["], ["\x7b"]], Rule.element, ",", Rule.loops]]
  | .wrongDictLoop => [fault Match.marked ["\x7b", .mark, "**", Rule.bitOr, Rule.loops, "\x7d"]]
  | .wrongParameters =>
    [fault Match.lastPart [.many [Rule.plainParameter], Rule.wrongParameterStart, Rule.plainParameter],
      fault Match.marked
        [.many [Rule.plainParameter], .mark, "(", separated "," Rule.parameter, .optional ",", ")"],
      fault Match.beginning ["/", ","],
      fault Match.marked [slashed, .many [Rule.anyParameter], .mark, "/"],
      fault Match.marked [.optional slashed, .many [Rule.anyParameter], "*",
        oneOf [[","], [Rule.plainParameter]], .many [Rule.anyParameter], .mark, "/"],
      fault Match.marked [.some [Rule.anyParameter], "/", .mark, "*"]]
  | .wrongParameterStart => [parts [Rule.slashDefault], parts [.some [Rule.defaultParameter]]]
  | .wrongStarParameters =>
    [fault Match.latest ["*", oneOf [[":"], [",", oneOf [[":"], ["**"]]]]],
      fault Match.marked ["*", Rule.parameter, .mark, "="],
      fault Match.marked ["*", oneOf [[Rule.plainParameter], [","]], .many [Rule.anyParameter], .mark, "*",
        oneOf [[Rule.plainParameter], [","]]]]
  | .wrongDoubleStarParameter =>
    [fault Match.marked ["**", Rule.parameter, .mark, "="],
      fault Match.lastPart ["**", Rule.parameter, ",", Rule.parameter],
      fault Match.marked ["**", Rule.parameter, ",", .mark, oneOf [["*"], ["**"], ["/"]]]]
  | .wrongDefault => [fault Match.beginning ["=", .next (oneOf [[")"], [","]])]]
  | .wrongTarget =>
    [faultIf (fun m => m.parts.any fun p => p.tree.role ≠ .target) Match.culprit
      [.optional "async", "for", Rule.starExpressions]]
  | .wrongGroup =>
    [fault Match.firstPart ["(", Rule.starArgument, ")"],
      fault Match.marked ["(", .mark, "**", Rule.expression, ")"]]
  | .wrongPairs =>
    [parts [separated "," Rule.doublePair, ",", Rule.wrongPair],
      fault Match.marked [Rule.expression, ":", .mark, "*", Rule.bitOr],
      fault Match.marked [Rule.expression, .mark, ":", .next (oneOf [["\x7d"], [","]])]]
  | .wrongPair =>
    [fault Match.firstEnd [Rule.expression, .not ":"],
      fault Match.marked [Rule.expression, ":", .mark, "*", Rule.bitOr],
      fault Match.marked [Rule.expression, .mark, ":", .next (oneOf [["\x7d"], [","]])]]
  | _ => []

end LineScript.Arithmetic.Grammar
