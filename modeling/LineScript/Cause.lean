import LineScript.Decimal.Integer
import LineScript.Text.Utf8

/-! Why a line of a program fails, and the wording of it. -/

namespace LineScript

/-- The kinds of error that a caller can tell apart; `general` is an error of no special kind. -/
inductive ErrorKind where
  | general
  | compilation
  | execution
  | unsupported
deriving DecidableEq, Repr, Inhabited

/-- The word for the kind in an answer. -/
def ErrorKind.code : ErrorKind → Text
  | .general => "RUNNER_ERROR".toText
  | .compilation => "COMPILATION_ERROR".toText
  | .execution => "RUNTIME_ERROR".toText
  | .unsupported => "UNSUPPORTED_OPERATION".toText

/-- The words for the kind in front of a message. -/
def ErrorKind.label : ErrorKind → Text
  | .general => "Error".toText
  | .compilation => "Compilation Error".toText
  | .execution => "Runtime Error".toText
  | .unsupported => "Unsupported Operation".toText

/-- What went wrong in a line. The last eight arise below the language: an integer literal of too many
    digits, an integer of too many digits to be written, arithmetic that holds a surrogate or a null character, an
    integer too large to meet a float, nesting beyond the depth that is evaluated, memory that gave out or
    nesting beyond what can be read, and a fault inside a quoted text that cannot be reported. -/
inductive Cause where
  | invalidPrint
  | invalidDeclaration
  | invalidAssignment
  | invalidCall (name : Text)
  | addArity
  | unknownExpression (text : Text)
  | badArithmetic (text : Text)
  | factorialArgument
  | factorialTooLarge (limit : Int)
  | greetArgument
  | addArgument
  | addOverflow
  | stepLimit (limit : Int)
  | outputLimit (limit : Int)
  | longInteger (digits : Nat)
  | unwritable
  | unencodable (fault : Text.EncodeFault)
  | nullCharacter
  | integerBeyondFloat
  | tooDeep
  | outOfMemory
  | misplaced
deriving DecidableEq, Repr

namespace Cause

/-- A malformed statement is a compilation error; everything else happens while it is executed. -/
def kind : Cause → ErrorKind
  | .invalidPrint | .invalidDeclaration | .invalidAssignment | .invalidCall _ | .addArity => .compilation
  | _ => .execution

/-- The wording of a cause. -/
def message : Cause → Text
  | .invalidPrint => "Invalid print statement".toText
  | .invalidDeclaration => "Invalid variable declaration".toText
  | .invalidAssignment => "Invalid assignment".toText
  | .invalidCall name => "Invalid ".toText ++ name ++ " function call".toText
  | .addArity => "Add function requires exactly 2 parameters".toText
  | .unknownExpression text => "Unknown expression: ".toText ++ text
  | .badArithmetic text => "Cannot evaluate arithmetic expression: ".toText ++ text
  | .factorialArgument => "Factorial requires an integer parameter".toText
  | .factorialTooLarge limit =>
    "Factorial argument too large (max ".toText ++ Text.ofInt limit ++ ")".toText
  | .greetArgument => "Greet requires a string parameter".toText
  | .addArgument => "Add function requires integer parameters".toText
  | .addOverflow => "Integer overflow in add".toText
  | .stepLimit limit => "Step limit exceeded (max ".toText ++ Text.ofInt limit ++ " lines)".toText
  | .outputLimit limit =>
    "Output length limit reached (max ".toText ++ Text.ofInt limit ++ " characters)".toText
  | .longInteger digits => Decimal.longIntegerMessage digits
  | .unwritable => Decimal.unwritableMessage
  | .unencodable fault => fault.message
  | .nullCharacter => "source code string cannot contain null bytes".toText
  | .integerBeyondFloat => "int too large to convert to float".toText
  | .tooDeep => "Recursion limit exceeded".toText
  | .outOfMemory => "MemoryError".toText
  | .misplaced => "Negative size passed to PyUnicode_New".toText

/-- The cause that names a limit, if the limit can be written. -/
def naming (wording : Int → Cause) (limit : Int) : Cause :=
  if Decimal.isWritable limit then wording limit else .unwritable

theorem naming_of_isWritable {limit : Int} (h : Decimal.isWritable limit = true) (wording : Int → Cause) :
    naming wording limit = wording limit := if_pos h

theorem naming_of_not_isWritable {limit : Int} (h : Decimal.isWritable limit = false) (wording : Int → Cause) :
    naming wording limit = .unwritable := if_neg (by rw [h]; exact Bool.noConfusion)

end Cause
end LineScript
