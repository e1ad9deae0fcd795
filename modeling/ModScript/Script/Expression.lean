import ModScript.Callback
import ModScript.Json.Text

/-!
# Expressions of a script

The literals and function expressions that a script is put together from. Strings are written as in
data files, so every string literal ends on the line on which it begins.
-/

namespace ModScript

/-- A whole number in hexadecimal digits, the sign before the mark. -/
def hexLiteral (n : Int) : String :=
  (if n < 0 then "-0x" else "0x") ++ String.ofList (Nat.toDigits 16 n.natAbs)

/-- Constants show whole numbers in hexadecimal and anything else as data. -/
def constantLiteral : Json → String
  | .number (.whole n _) => hexLiteral n
  | value => value.compact

/-- The function expression of a callback. Arguments reach only scripts and events. -/
def Callback.expression : Callback → String
  | script source => Text.trim source
  | noop => r"function () {}"
  | log level message =>
    r"function () { " ++ level.helper ++ "(" ++ Json.quote message ++ r"); }"
  | emit event =>
    r"function () { send({ event: " ++ Json.quote event ++
      r", data: Array.prototype.slice.call(arguments) }); }"
  | writeVariable name value =>
    r"function () { game.writeVar(game.module, " ++ Json.quote name ++ ", " ++ value.compact ++
      r"); }"
  | returnValue value => r"function () { return " ++ value.compact ++ r"; }"

/-- The expression that presents a raw argument or return value to a callback. -/
def NativeType.presented (type : NativeType) (raw : String) : String :=
  match type.conversion with
  | .signed32 => raw ++ ".toInt32()"
  | .unsigned32 => raw ++ ".toUInt32()"
  | .signed64 => "int64(" ++ raw ++ ".toString())"
  | .unsigned64 => "uint64(" ++ raw ++ ".toString())"
  | .opaqueValue => raw

end ModScript
