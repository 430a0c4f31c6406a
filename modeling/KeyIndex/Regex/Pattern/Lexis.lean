import KeyIndex.Regex.Pattern.Basic

/-!
# The lexical elements of patterns

Escapes, numbers and names are written the same way inside and outside of
brackets.  In verbose mode white space and comments are passed over wherever they
stand between two characters of an element; a comment runs from a number sign to
the end of the line.

Each function reads from the front of a list of characters and returns what
follows.

Main definitions:

- `skip`, `collect`: passing over blanks and comments.
- `decimal`: the numbers of a repetition.
- `escape`: what follows a backslash.
-/

namespace KeyIndex.Regex.Pattern

/-! ## Blanks and comments -/

/-- Whether a character is white space. -/
def isBlank (c : Char) : Bool := Unicode.white.contains c

/-- What follows the blanks and comments at the front. -/
def skipBlanks (inComment : Bool) : List Char → List Char
  | [] => []
  | c :: cs =>
    if inComment then skipBlanks (c ≠ '\n') cs
    else if isBlank c then skipBlanks false cs
    else if c = '#' then skipBlanks true cs
    else c :: cs

/-- In verbose mode, what follows the blanks and comments at the front. -/
def skip (verbose : Bool) (cs : List Char) : List Char :=
  if verbose then skipBlanks false cs else cs

/-- The characters at the front that are to be kept, and what follows them.  In
verbose mode blanks and comments are passed over, before and between them. -/
def collect (verbose : Bool) (keep : Char → Bool) (inComment : Bool) :
    List Char → List Char × List Char
  | [] => ([], [])
  | c :: cs =>
    if inComment then collect verbose keep (c ≠ '\n') cs
    else if verbose && isBlank c then collect verbose keep false cs
    else if verbose && c == '#' then collect verbose keep true cs
    else if keep c then
      let (kept, rest) := collect verbose keep false cs
      (c :: kept, rest)
    else ([], c :: cs)

/-- The character after the one at the front, where a range may start: in verbose
mode blanks are passed over, and one number sign among them. -/
def peekAfter (verbose : Bool) (cs : List Char) : Option Char :=
  if verbose then
    match cs.tail.dropWhile isBlank with
    | '#' :: rest => (rest.dropWhile isBlank).head?
    | rest => rest.head?
  else cs.tail.head?

/-! ## Numbers -/

/-- The greatest number that can be written in a pattern. -/
def greatestNumber : Nat := 4294967295

/-- Whether a character is a hexadecimal digit. -/
def isHexDigit (c : Char) : Bool :=
  c.isDigit || ('a' ≤ c && c ≤ 'f') || ('A' ≤ c && c ≤ 'F')

/-- The value of a digit in any base up to sixteen. -/
def digitValue (c : Char) : Nat :=
  if c.isDigit then c.toNat - '0'.toNat
  else if 'a' ≤ c then c.toNat - 'a'.toNat + 10
  else c.toNat - 'A'.toNat + 10

/-- The value of some digits. -/
def digitsValue (base : Nat) (digits : List Char) : Nat :=
  digits.foldl (fun n c => n * base + digitValue c) 0

/-- A decimal number, with blanks around it in every mode. -/
def decimal (verbose : Bool) (cs : List Char) : Option (Nat × List Char) :=
  match collect verbose Char.isDigit false (cs.dropWhile isBlank) with
  | ([], _) => none
  | (digits, rest) =>
    let n := digitsValue 10 digits
    if n ≤ greatestNumber then some (n, skip verbose (rest.dropWhile isBlank)) else none

/-- The character of a code point, if it is one. -/
def charOfCode? (code : Nat) : Option Char :=
  if h : code.isValidChar then some (.ofNatAux code h) else none

/-- A given number of hexadecimal digits. -/
def hexDigits (verbose : Bool) : Nat → List Char → Option (List Char × List Char)
  | 0, cs => some ([], cs)
  | n + 1, c :: cs =>
    if isHexDigit c then do
      let (digits, rest) ← hexDigits verbose n (skip verbose cs)
      some (c :: digits, rest)
    else none
  | _ + 1, [] => none

/-- The character of an escape by code point: any number of digits in braces, or
as many as the letter of the escape demands. -/
def hexEscape (verbose : Bool) (count : Nat) (cs : List Char) : Option (Literal × List Char) :=
  match skip verbose cs with
  | '{' :: cs =>
    match collect verbose isHexDigit false cs with
    | (d :: digits, '}' :: rest) => do
      let c ← charOfCode? (digitsValue 16 (d :: digits))
      some (⟨c, false⟩, skip verbose rest)
    | _ => none
  | cs => do
    let (digits, rest) ← hexDigits verbose count cs
    let c ← charOfCode? (digitsValue 16 digits)
    some (⟨c, count == 2⟩, rest)

/-! ## Properties -/

/-- What stands before and after the first place where `separator` stands. -/
def splitAt? (separator : List Char) : List Char → Option (List Char × List Char)
  | [] => none
  | c :: cs =>
    if separator.isPrefixOf (c :: cs) then some ([], (c :: cs).drop separator.length)
    else do
      let (before, after) ← splitAt? separator cs
      some (c :: before, after)

/-- What the text between the braces of a property escape asks for. -/
def queryOfChars (cs : List Char) : PropertyQuery :=
  match splitAt? ['!', '='] cs with
  | some (name, value) => .value (.ofList name) (.ofList value) true
  | none =>
    match splitAt? [':'] cs <|> splitAt? ['='] cs with
    | some (name, value) => .value (.ofList name) (.ofList value) false
    | none => .name (.ofList cs)

/-- The property of a property escape: one letter, or a text in braces. -/
def propertyEscape (verbose : Bool) (cs : List Char) : Option (PropertyQuery × List Char) :=
  match skip verbose cs with
  | [] => none
  | '{' :: cs =>
    match collect verbose (· ≠ '}') false cs with
    | (name, _ :: rest) => some (queryOfChars name, rest)
    | (_, []) => none
  | '\\' :: _ => none
  | c :: cs => some (.name c.toString, skip verbose cs)

/-! ## Escapes -/

/-- What an escape stands for. -/
inductive Escape where
  | literal (l : Literal)
  | assertion (a : Assertion)
  | short (cls : ShortClass) (negated : Bool)
  | property (query : PropertyQuery) (negated : Bool)

/-- Whether a character stands for itself after a backslash: everything in ASCII
that is neither letter nor digit, except angle brackets. -/
def standsForItself (c : Char) : Bool :=
  c.toNat < 0x80 && !c.isAlphanum && c != '<' && c != '>'

/-- The assertion in braces after the escape of a word boundary.  The brace opens a
repetition when no letter or hyphen follows it. -/
def boundaryName (verbose : Bool) (cs : List Char) : Option (Assertion × List Char) :=
  match cs with
  | '{' :: rest =>
    match skip verbose rest with
    | [] => none
    | c :: cs' =>
      let inName := fun c : Char => c.isAlpha || c == '-'
      if !inName c then some (.boundary, cs)
      else
        match collect verbose inName false (c :: cs') with
        | (name, '}' :: rest) =>
          if name = "start".toList then some (.wordStart, rest)
          else if name = "end".toList then some (.wordStop, rest)
          else if name = "start-half".toList then some (.wordStartHalf, rest)
          else if name = "end-half".toList then some (.wordStopHalf, rest)
          else none
        | _ => none
  | cs => some (.boundary, cs)

/-- What follows a backslash. -/
def escape (verbose : Bool) : List Char → Option (Escape × List Char)
  | [] => none
  | c :: cs =>
    match c with
    | 'x' => (hexEscape verbose 2 cs).map fun (l, rest) => (.literal l, rest)
    | 'u' => (hexEscape verbose 4 cs).map fun (l, rest) => (.literal l, rest)
    | 'U' => (hexEscape verbose 8 cs).map fun (l, rest) => (.literal l, rest)
    | 'p' => (propertyEscape verbose cs).map fun (q, rest) => (.property q false, rest)
    | 'P' => (propertyEscape verbose cs).map fun (q, rest) => (.property q true, rest)
    | 'd' => some (.short .digit false, cs)
    | 'D' => some (.short .digit true, cs)
    | 's' => some (.short .space false, cs)
    | 'S' => some (.short .space true, cs)
    | 'w' => some (.short .word false, cs)
    | 'W' => some (.short .word true, cs)
    | 'a' => some (.literal ⟨'\x07', false⟩, cs)
    | 'f' => some (.literal ⟨'\x0c', false⟩, cs)
    | 't' => some (.literal ⟨'\t', false⟩, cs)
    | 'n' => some (.literal ⟨'\n', false⟩, cs)
    | 'r' => some (.literal ⟨'\r', false⟩, cs)
    | 'v' => some (.literal ⟨'\x0b', false⟩, cs)
    | 'A' => some (.assertion .textStart, cs)
    | 'z' => some (.assertion .textStop, cs)
    | 'B' => some (.assertion .noBoundary, cs)
    | '<' => some (.assertion .wordStart, cs)
    | '>' => some (.assertion .wordStop, cs)
    | 'b' => (boundaryName verbose cs).map fun (a, rest) => (.assertion a, rest)
    | c => if standsForItself c then some (.literal ⟨c, false⟩, cs) else none

end KeyIndex.Regex.Pattern
