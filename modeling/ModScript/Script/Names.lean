/-!
# Names that a script can bind

Constants and loops become bindings of the script. An identifier is made of ASCII letters, digits, `_`
and `$` and does not begin with a digit; a name is free when it is an identifier that neither the
script's own bindings nor the engine nor the language has taken.
-/

namespace ModScript

/-- ASCII letters, `_` and `$`. -/
def beginsIdentifier (c : Char) : Bool := c.isAlpha || c == '_' || c == '$'

def continuesIdentifier (c : Char) : Bool := c.isAlphanum || c == '_' || c == '$'

/-- Characters that make an identifier. -/
def isIdentifierChars : List Char → Bool
  | [] => false
  | c :: rest => beginsIdentifier c && rest.all continuesIdentifier

def isIdentifier (name : String) : Bool := isIdentifierChars name.toList

/-- What every script binds at its top level. -/
def ownBindings : List String :=
  ["__state", "TYPE_MAP", "__offset", "__createRuntime", "game", "__emitLog", "log", "warn", "error",
    "__teardown", "manifest", "_supportedModules", "memoryAddresses", "__init",
    "__registerFunctions", "__installHooks", "__installLoops", "__installNops", "__modExit"]

/-- Names of the engine and the language's library that scripts refer to. -/
def engineNames : List String :=
  ["Module", "Process", "Memory", "Interceptor", "NativeCallback", "NativeFunction", "ptr", "int64",
    "uint64", "send", "recv", "setTimeout", "clearTimeout", "console", "parseInt", "Promise",
    "Uint8Array", "Object", "Array", "String", "Error", "undefined", "NaN", "Infinity"]

/-- Words that the language of scripts does not let a constant be named. -/
def keywords : List String :=
  ["await", "break", "case", "catch", "class", "const", "continue", "debugger", "default", "delete",
    "do", "else", "enum", "export", "extends", "false", "finally", "for", "function", "if",
    "implements", "import", "in", "instanceof", "interface", "let", "new", "null", "package",
    "private", "protected", "public", "return", "static", "super", "switch", "this", "throw", "true",
    "try", "typeof", "var", "void", "while", "with", "yield", "arguments", "eval"]

/-- A constant of that name does not clash with anything in a script. -/
def isFreeName (name : String) : Bool :=
  isIdentifier name && !ownBindings.contains name && !engineNames.contains name &&
    !keywords.contains name

end ModScript
