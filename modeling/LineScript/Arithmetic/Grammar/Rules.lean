import LineScript.Arithmetic.Grammar.Mistakes

/-! The rules of the language of expressions. The first alternative that matches is taken, so the order
    of the alternatives is a part of the grammar. -/

namespace LineScript.Arithmetic.Grammar

/-- A comma that may be left out. -/
def lastComma : Pattern := .optional ","

/-- An expression to which nothing is assigned. -/
def unassigned : List Pattern := [Rule.expression, .not ":="]

/-- What an argument or a generator can begin with. -/
def assignable : Pattern := oneOf [[Rule.assignment], unassigned]

/-- Operators of one rank, which group to the left. -/
def ranked (self operand : Rule) (operators : List (String × Operator)) : List Alternative :=
  (operators.map fun o => making (joining o.2) [self, o.1, operand]) ++ [parts [operand]]

/-- A chain of operands with a word between neighbours. -/
def chain (word : String) (operand : Rule) : List Alternative :=
  [making spanning [operand, .some [oneOf [[word, operand]]]], parts [operand]]

/-- A test of two operands, after the first of them. -/
def test (words : List Pattern) : List Alternative := [parts (words ++ [.rule .bitOr])]

/-- A parameter, with what has to follow it. -/
def endedParameter (ps : List Pattern) : List Alternative :=
  let comma : Pattern := ","
  [parts (ps ++ [comma]), parts (ps ++ [.next ":"])]

/-- The alternatives of a rule. -/
def Rule.alternatives : Rule → List Alternative
  | .expressions =>
    [gathering packed [Rule.expression, .some [oneOf [[",", Rule.expression]]], lastComma],
      gathering packed [Rule.expression, ","],
      parts [Rule.expression]]
  | .expression =>
    [mistake .wrongExpression,
      mistake .wrongStatement,
      making spanning [Rule.disjunction, "if", Rule.disjunction, "else", Rule.expression],
      parts [Rule.disjunction],
      parts [Rule.function]]
  | .yielded =>
    [making spanning ["yield", "from", Rule.expression],
      making spanning ["yield", .optional Rule.starExpressions]]
  | .starExpressions =>
    [gathering packed [Rule.starExpression, .some [oneOf [[",", Rule.starExpression]]], lastComma],
      gathering packed [Rule.starExpression, ","],
      parts [Rule.starExpression]]
  | .starExpression => [gathering packed ["*", Rule.bitOr], parts [Rule.expression]]
  | .elements => [parts [separated "," Rule.element, lastComma]]
  | .element => [gathering packed ["*", Rule.bitOr], parts [Rule.namedExpression]]
  | .assignment => [making spanning [.name, ":=", .cut, Rule.expression]]
  | .namedExpression => [parts [Rule.assignment], mistake .wrongAssignment, parts unassigned]
  | .disjunction => chain "or" .conjunction
  | .conjunction => chain "and" .inversion
  | .inversion => [making (signed .other) ["not", Rule.inversion], parts [Rule.comparison]]
  | .comparison => [gathering compared [Rule.bitOr, .some [Rule.comparand]], parts [Rule.bitOr]]
  | .comparand =>
    [parts [Rule.equal], parts [Rule.unequal], parts [Rule.atMost], parts [Rule.below],
      parts [Rule.atLeast], parts [Rule.above], parts [Rule.notMember], parts [Rule.member],
      parts [Rule.notIdentical], parts [Rule.identical]]
  | .equal => test ["=="]
  | .unequal => test [oneOf [["!="]]]
  | .atMost => test ["<="]
  | .below => test ["<"]
  | .atLeast => test [">="]
  | .above => test [">"]
  | .notMember => test ["not", "in"]
  | .member => [making memberOperand ["in", Rule.bitOr]]
  | .notIdentical => test ["is", "not"]
  | .identical => test ["is"]
  | .bitOr => ranked .bitOr .bitXor [("|", .other)]
  | .bitXor => ranked .bitXor .bitAnd [("^", .other)]
  | .bitAnd => ranked .bitAnd .shift [("&", .other)]
  | .shift => ranked .shift .sum [("<<", .other), (">>", .other)]
  | .sum => ranked .sum .term [("+", .add), ("-", .subtract)]
  | .term =>
    ranked .term .factor
      [("*", .multiply), ("/", .divide), ("//", .other), ("%", .other), ("@", .other)]
  | .factor =>
    [making (signed .plus) ["+", Rule.factor],
      making (signed .minus) ["-", Rule.factor],
      making (signed .other) ["~", Rule.factor],
      parts [Rule.power]]
  | .power => [making (joining .other) [Rule.awaited, "**", Rule.factor], parts [Rule.awaited]]
  | .awaited => [making spanning ["await", Rule.primary], parts [Rule.primary]]
  | .primary =>
    [making place [Rule.primary, ".", .name],
      making spanning [Rule.primary, Rule.generator],
      making spanning [Rule.primary, "(", .optional Rule.arguments, ")"],
      making place [Rule.primary, "[", Rule.slices, "]"],
      parts [Rule.atom]]
  | .slices =>
    [parts [Rule.slice, .not ","],
      making spanning [separated "," (oneOf [[Rule.slice], [Rule.starArgument]]), lastComma]]
  | .slice =>
    [making spanning [.optional Rule.expression, ":", .optional Rule.expression,
        .optional (oneOf [[":", .optional Rule.expression]])],
      parts [Rule.namedExpression]]
  | .atom =>
    [parts [.name],
      making spanning ["True"],
      making spanning ["False"],
      making spanning ["None"],
      parts [.next .quotation, Rule.quotations],
      parts [.number],
      parts [.next "(", oneOf [[Rule.tuple], [Rule.group], [Rule.generator]]],
      parts [.next "[", oneOf [[Rule.list], [Rule.listLoop]]],
      parts [.next "\x7b", oneOf [[Rule.dict], [Rule.set], [Rule.dictLoop], [Rule.setLoop]]],
      making spanning ["..."]]
  | .group =>
    [parts ["(", oneOf [[Rule.yielded], [Rule.namedExpression]], ")"], mistake .wrongGroup]
  | .quotations => [parts [.joined]]
  | .list => [gathering packed ["[", .optional Rule.elements, "]"]]
  | .tuple =>
    [gathering packed ["(", .optional (oneOf [[Rule.element, ",", .optional Rule.elements]]), ")"]]
  | .set => [making spanning ["\x7b", Rule.elements, "\x7d"]]
  | .dict =>
    [making spanning ["\x7b", .optional Rule.pairs, "\x7d"],
      parts ["\x7b", Rule.wrongPairs, "\x7d"]]
  | .pairs => [parts [separated "," Rule.doublePair, lastComma]]
  | .doublePair => [parts ["**", Rule.bitOr], parts [Rule.pair]]
  | .pair => [parts [Rule.expression, ":", Rule.expression]]
  | .function => [making spanning ["lambda", .optional Rule.parameters, ":", Rule.expression]]
  | .parameters => [mistake .wrongParameters, parts [Rule.parameterList]]
  | .parameterList =>
    [making spanning [Rule.slashPlain, .many [Rule.plainParameter], .many [Rule.defaultParameter],
        .optional Rule.starParameters],
      making spanning [Rule.slashDefault, .many [Rule.defaultParameter], .optional Rule.starParameters],
      making spanning [.some [Rule.plainParameter], .many [Rule.defaultParameter],
        .optional Rule.starParameters],
      making spanning [.some [Rule.defaultParameter], .optional Rule.starParameters],
      making spanning [Rule.starParameters]]
  | .slashPlain => endedParameter [.some [Rule.plainParameter], "/"]
  | .slashDefault => endedParameter [.many [Rule.plainParameter], .some [Rule.defaultParameter], "/"]
  | .starParameters =>
    [mistake .wrongStarParameters,
      parts ["*", Rule.plainParameter, .many [Rule.anyParameter], .optional Rule.doubleStarParameter],
      parts ["*", ",", .some [Rule.anyParameter], .optional Rule.doubleStarParameter],
      parts [Rule.doubleStarParameter]]
  | .doubleStarParameter => [mistake .wrongDoubleStarParameter, parts ["**", Rule.plainParameter]]
  | .plainParameter => endedParameter [Rule.parameter]
  | .defaultParameter => endedParameter [Rule.parameter, Rule.defaultValue]
  | .anyParameter => endedParameter [Rule.parameter, .optional Rule.defaultValue]
  | .parameter => [parts [.name]]
  | .defaultValue => [parts ["=", Rule.expression], mistake .wrongDefault]
  | .loops => [parts [.some [Rule.loop]]]
  | .loop =>
    let clause : List Pattern :=
      ["for", Rule.targets, "in", .cut, Rule.disjunction, .many [oneOf [["if", Rule.disjunction]]]]
    [making labelled ("async" :: clause), making labelled clause, mistake .wrongTarget]
  | .listLoop =>
    [making spanning ["[", Rule.namedExpression, Rule.loops, "]"], mistake .wrongLoop]
  | .setLoop =>
    [making spanning ["\x7b", Rule.namedExpression, Rule.loops, "\x7d"], mistake .wrongLoop]
  | .generator => [making spanning ["(", assignable, Rule.loops, ")"], mistake .wrongLoop]
  | .dictLoop =>
    [making spanning ["\x7b", Rule.pair, Rule.loops, "\x7d"], mistake .wrongDictLoop]
  | .arguments => [parts [Rule.argumentList, lastComma, .next ")"], mistake .wrongArguments]
  | .argumentList =>
    [parts [separated "," (oneOf [[Rule.starArgument], [assignable, .not "="]]),
        .optional (oneOf [[",", Rule.keywords]])],
      parts [Rule.keywords]]
  | .keywords =>
    [parts [separated "," Rule.keywordOrStar, ",", separated "," Rule.keywordOrDoubleStar],
      parts [separated "," Rule.keywordOrStar],
      parts [separated "," Rule.keywordOrDoubleStar]]
  | .starArgument => [making spanning ["*", Rule.expression]]
  | .keywordOrStar =>
    [mistake .wrongKeyword, making labelled [.name, "=", Rule.expression], parts [Rule.starArgument]]
  | .keywordOrDoubleStar =>
    [mistake .wrongKeyword, making labelled [.name, "=", Rule.expression],
      making labelled ["**", Rule.expression]]
  | .targets =>
    [parts [Rule.target, .not ","],
      gathering packed [Rule.target, .many [oneOf [[",", Rule.target]]], lastComma]]
  | .listTargets => [parts [separated "," Rule.target, lastComma]]
  | .tupleTargets =>
    [parts [Rule.target, .some [oneOf [[",", Rule.target]]], lastComma], parts [Rule.target, ","]]
  | .target => [gathering packed ["*", oneOf [[.not "*", Rule.target]]], parts [Rule.plainTarget]]
  | .plainTarget =>
    [making place [Rule.owner, ".", .name, .not Rule.ownerAhead],
      making place [Rule.owner, "[", Rule.slices, "]", .not Rule.ownerAhead],
      parts [Rule.atomTarget]]
  | .atomTarget =>
    [parts [.name],
      parts ["(", Rule.plainTarget, ")"],
      gathering packed ["(", .optional Rule.tupleTargets, ")"],
      gathering packed ["[", .optional Rule.listTargets, "]"]]
  | .owner =>
    [making place [Rule.owner, ".", .name, .next Rule.ownerAhead],
      making place [Rule.owner, "[", Rule.slices, "]", .next Rule.ownerAhead],
      making spanning [Rule.owner, Rule.generator, .next Rule.ownerAhead],
      making spanning [Rule.owner, "(", .optional Rule.arguments, ")", .next Rule.ownerAhead],
      parts [Rule.atom, .next Rule.ownerAhead]]
  | .ownerAhead => [parts ["("], parts ["["], parts ["."]]
  | r => mistakes r

/-! ### How rules are tried -/

/-- Whether a rule begins with itself. -/
def Rule.isGrowing : Rule → Bool
  | .bitOr | .bitXor | .bitAnd | .shift | .sum | .term | .primary | .owner => true
  | _ => false

/-- Whether the result of a rule at a token is kept. -/
def Rule.isKept : Rule → Bool
  | .expression | .starExpression | .disjunction | .conjunction | .inversion | .factor | .awaited
  | .quotations | .arguments | .target | .plainTarget | .wrongAssignment => true
  | _ => false

/-- Whether a rule looks at the next token before anything else. -/
def Rule.looksFirst (r : Rule) : Bool :=
  r.isGrowing || r.isKept ||
    match r with
    | .expressions | .quietExpression | .yielded | .starExpressions | .element | .assignment | .comparison
    | .power | .slices | .slice | .atom | .list | .tuple | .set | .dict | .function | .parameter
    | .listLoop | .setLoop | .generator | .dictLoop | .argumentList | .starArgument | .keywordOrStar
    | .keywordOrDoubleStar | .targets | .atomTarget => true
    | _ => false

end LineScript.Arithmetic.Grammar
