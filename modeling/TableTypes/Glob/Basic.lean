/-!
# Globs

Globs match whole texts byte by byte, and letters of ASCII match whatever their case. `?` stands for
one byte, `*` for any number of them, brackets for one byte out of a set, braces for a choice
between globs, and `**` between slashes for any number of directories.
-/

namespace TableTypes.Glob

/-- A part of a glob. -/
inductive Token where
  | literal (c : Char)
  | anyOne
  | anyMany
  /-- Directories at the beginning, down to a slash. -/
  | leadingDirs
  /-- A slash and all below it. -/
  | trailingDirs
  /-- A slash, or directories between two of them. -/
  | innerDirs
  | charClass (negated : Bool) (ranges : List (Char × Char))
  | choice (branches : List (List Token))
  deriving Repr

/-- Why a text is no glob. -/
inductive Cause where
  | unclosedChoice
  | unopenedChoice
  | unclosedClass
  | backwardRange (first last : Char)
  | danglingEscape
  deriving DecidableEq, Repr

/-- A fault of a glob. -/
structure Error where
  pattern : String
  cause : Cause
  deriving DecidableEq, Repr

/-- What is wrong with a glob. -/
def Cause.message : Cause → String
  | unclosedChoice =>
    "unclosed alternate group; missing '\x7d' (maybe escape '\x7b' with '[\x7b]'?)"
  | unopenedChoice =>
    "unopened alternate group; missing '\x7b' (maybe escape '\x7d' with '[\x7d]'?)"
  | unclosedClass => "unclosed character class; missing ']'"
  | backwardRange first last =>
    "invalid range; '" ++ String.singleton first ++ "' > '" ++ String.singleton last ++ "'"
  | danglingEscape => "dangling '\\'"

/-- The text of a fault. -/
def Error.message (e : Error) : String :=
  "error parsing glob '" ++ e.pattern ++ "': " ++ e.cause.message

end TableTypes.Glob
