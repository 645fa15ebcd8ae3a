/-
**Why a filter text cannot be read.**

Main definitions: `Coffer.FilterError`, `Coffer.FilterError.message`.
-/

set_option autoImplicit false

namespace Coffer

/-- Why a filter text cannot be read. -/
inductive FilterError where
  /-- No field has this name. -/
  | unknownField (name : String)
  /-- Nothing follows the colon of this field, or nothing but an operator. -/
  | emptyValue (field : String)
  /-- A quote is opened and not closed. -/
  | unterminatedQuote
  /-- A parenthesis has no partner. -/
  | unbalancedParens
  /-- A pair of parentheses has nothing in it. -/
  | emptyGroup
  /-- There is nothing on one side of an `OR`. -/
  | danglingOr
  /-- The text is not a span of the calendar. -/
  | invalidDate (text : String)
  /-- The text is not an amount. -/
  | invalidAmount (text : String)
  /-- The low bound of this range is above the high bound. -/
  | invertedRange (range : String)
  /-- The field cannot be compared in this way. -/
  | unsupportedOperator (field : String) (operator : String)
  /-- There is no filter where one is needed. -/
  | emptyExpression
  deriving DecidableEq, Repr

/-- The wording of a filter error. -/
def FilterError.message : FilterError → String
  | .unknownField name => "unknown field '" ++ name ++ "'"
  | .emptyValue field => "missing value for field '" ++ field ++ "'"
  | .unterminatedQuote => "unterminated quote"
  | .unbalancedParens => "unbalanced parentheses"
  | .emptyGroup => "empty group '()'"
  | .danglingOr => "OR needs an expression on both sides"
  | .invalidDate text => "invalid date '" ++ text ++ "' (expected YYYY, YYYY-MM or YYYY-MM-DD)"
  | .invalidAmount text => "invalid amount '" ++ text ++ "'"
  | .invertedRange range => "range '" ++ range ++ "' has its low bound after its high bound"
  | .unsupportedOperator field operator =>
    "operator '" ++ operator ++ "' is not supported on field '" ++ field ++ "'"
  | .emptyExpression => "filter expression is empty"

end Coffer
