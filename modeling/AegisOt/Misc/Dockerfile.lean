import AegisOt.Misc.Text

/-!
# Dockerfiles

What a builder reads in the text of a Dockerfile, as far as `FROM` and `ARG` go: an instruction
is a line, or several of which each but the last ends with a backslash; lines that begin with
`#` are comments and a `#` elsewhere is text; the case of a keyword does not matter; and an
`ARG` may have any number of pairs. Quotes, substitutions, here-documents and the directive
that changes the escape character are left out. Nothing here names a program.
-/

namespace AegisOt

namespace Dockerfile

/-- A line of comment. -/
def isComment (line : List Char) : Bool := (Text.lstrip line).head? == some '#'

/-- A line that goes on in the next one, without its backslash. -/
def continued (line : List Char) : Option (List Char) :=
  let text := Text.rstrip line
  if text.getLast? = some '\\' ∧ text.dropLast.getLast? ≠ some '\\' then some text.dropLast
  else none

/-- The line without the carriage return before its end. -/
def dropReturn (line : List Char) : List Char :=
  if line.getLast? = some '\r' then line.dropLast else line

/-- The instructions in some lines, the first of which may have begun. -/
def instructionsFrom (begun : Option (List Char)) : List (List Char) → List (List Char)
  | [] => begun.toList
  | line :: rest =>
      if isComment line ∨ (begun.isSome ∧ Text.strip line = []) then instructionsFrom begun rest
      else
        match continued line with
        | some start => instructionsFrom (some (begun.getD [] ++ start)) rest
        | none => (begun.getD [] ++ line) :: instructionsFrom none rest

/-- The instructions of a file, blank lines among them. -/
def instructions (text : List Char) : List (List Char) :=
  instructionsFrom none ((text.splitOn '\n').map dropReturn)

/-- What stands behind a keyword. -/
def arguments (keyword : List Char) (instruction : List Char) : Option (List (List Char)) :=
  match Text.words instruction with
  | [] => none
  | word :: arguments => if Text.lower word = keyword then some arguments else none

/-- An argument that is an option of the instruction. -/
def isFlag (argument : List Char) : Bool := "--".toList.isPrefixOf argument

/-- The image that a `FROM` instruction names. -/
def image (instruction : List Char) : Option (List Char) :=
  (arguments "from".toList instruction).bind fun arguments =>
    (arguments.dropWhile isFlag).head?

/-- The pair in an argument. -/
def assignment (argument : List Char) : Option (List Char × List Char) :=
  (Text.partition '=' argument).2.map fun value => ((Text.partition '=' argument).1, value)

/-- The pairs that an `ARG` instruction assigns. -/
def assignments (instruction : List Char) : List (List Char × List Char) :=
  ((arguments "arg".toList instruction).getD []).filterMap assignment

theorem arguments_eq_some {keyword instruction : List Char} {rest : List (List Char)} :
    arguments keyword instruction = some rest ↔
      ∃ word, Text.words instruction = word :: rest ∧ Text.lower word = keyword := by
  unfold arguments
  cases Text.words instruction with
  | nil => simp
  | cons word others =>
    by_cases hword : Text.lower word = keyword
    · simp [hword]
    · simp [hword]

theorem image_eq_some {instruction name : List Char} :
    image instruction = some name ↔ ∃ rest, arguments "from".toList instruction = some rest ∧
      (rest.dropWhile isFlag).head? = some name := by
  rw [image, Option.bind_eq_some_iff]

end Dockerfile

end AegisOt
