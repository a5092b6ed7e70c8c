/-!
# Why a pattern is refused

The causes for which the pattern reader and the checks after it refuse a pattern, and the one
place where they are worded.
-/

namespace ScopeCheck.Regex

/-- Why a pattern is refused. -/
inductive Error
  | endAtEscape
  | endAtMeta
  | endAtControl
  | endInGroup
  | unclosedGroup
  | unopenedGroup
  | metaSyntax
  | controlSyntax
  | emptyClass
  | unclosedClass
  | classAtRangeEnd
  | unmatchedRange
  | emptyRange
  | posixBracket
  | propertyName (name : List Char)
  | nothingToRepeat
  | cannotRepeat
  | repeatTooBig
  | numberTooBig
  | groupOption
  | groupOptionPlace
  | emptyGroupName
  | groupName (name : List Char)
  | groupNameCharacter (name : List Char)
  | undefinedName (name : List Char)
  | undefinedGroup (name : List Char)
  | ambiguousCall (name : List Char)
  | backReference
  | condition
  | absent
  | calloutPattern
  | calloutName
  | calloutUndefined
  | lookBehind
  | endlessRecursion
  | shortBytes
  | codePoint
  | codePointTooBig
  | codePointTooLong
  | tooManyCaptures
  | tooDeep
  | internal
  deriving DecidableEq, Repr

/-- The longest part of a name that a message shows, in bytes. -/
def shownNameLimit : Nat := 30

/-- The part of a name that a message shows. -/
def shownName (name : List Char) : String :=
  let rec clip : Nat → List Char → List Char
    | _, [] => []
    | room, c :: rest =>
      if c.utf8Size ≤ room then c :: clip (room - c.utf8Size) rest else "...".toList
  String.ofList (clip shownNameLimit name)

/-- The wording of a refusal. -/
def Error.message : Error → String
  | endAtEscape => "end pattern at escape"
  | endAtMeta => "end pattern at meta"
  | endAtControl => "end pattern at control"
  | endInGroup => "end pattern in group"
  | unclosedGroup => "end pattern with unmatched parenthesis"
  | unopenedGroup => "unmatched close parenthesis"
  | metaSyntax => "invalid meta-code syntax"
  | controlSyntax => "invalid control-code syntax"
  | emptyClass => "empty char-class"
  | unclosedClass => "premature end of char-class"
  | classAtRangeEnd => "char-class value at end of range"
  | unmatchedRange => "unmatched range specifier in char-class"
  | emptyRange => "empty range in char class"
  | posixBracket => "invalid POSIX bracket type"
  | propertyName name => "invalid character property name \x7b" ++ shownName name ++ "\x7d"
  | nothingToRepeat => "target of repeat operator is not specified"
  | cannotRepeat => "target of repeat operator is invalid"
  | repeatTooBig => "too big number for repeat range"
  | numberTooBig => "too big number"
  | groupOption => "undefined group option"
  | groupOptionPlace => "invalid group option"
  | emptyGroupName => "group name is empty"
  | groupName name => "invalid group name <" ++ shownName name ++ ">"
  | groupNameCharacter name => "invalid char in group name <" ++ shownName name ++ ">"
  | undefinedName name => "undefined name <" ++ shownName name ++ "> reference"
  | undefinedGroup name => "undefined group <" ++ shownName name ++ "> reference"
  | ambiguousCall name => "multiplex definition name <" ++ shownName name ++ "> call"
  | backReference => "invalid backref number/name"
  | condition => "invalid if-else syntax"
  | absent => "invalid absent group pattern"
  | calloutPattern => "invalid callout pattern"
  | calloutName => "invalid callout name"
  | calloutUndefined => "undefined callout name"
  | lookBehind => "invalid pattern in look-behind"
  | endlessRecursion => "never ending recursion"
  | shortBytes => "too short multibyte string"
  | codePoint => "invalid code point value"
  | codePointTooBig => "too big wide-char value"
  | codePointTooLong => "too long wide-char value"
  | tooManyCaptures => "too many captures"
  | tooDeep => "parse depth limit over"
  | internal => "internal parser error (bug)"

end ScopeCheck.Regex
