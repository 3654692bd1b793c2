/-!
# Patterns of the shell

A pattern is matched against a whole text: a star stands for any characters, a question mark for
one, brackets for one of those listed, and a backslash takes the meaning of what follows away. An
opening bracket that none closes stands for itself.

## Main definitions

* `Shell.Glyph` : a character with what quotes say about it.
* `Shell.patternItems` : what a pattern consists of.
* `Shell.patternMatches` : the pattern matches a text.
-/

namespace RoutineTiming.Shell

/-- A character of an expanded word. -/
inductive Glyph where
  | plain (c : Char)
  /-- A character that stands for itself. -/
  | quoted (c : Char)
  /-- A mark of quotes, which makes a field though it is empty. -/
  | mark
  /-- The boundary between two arguments. -/
  | separator
  deriving DecidableEq

namespace Glyph

/-- The character that the glyph shows, if it shows one. -/
def char? : Glyph → Option Char
  | plain c => some c
  | quoted c => some c
  | _ => none

/-- The characters of the glyph in a pattern. -/
def inPattern : Glyph → List Char
  | plain c => [c]
  | quoted c => ['\\', c]
  | _ => []

end Glyph

/-- The text of glyphs. -/
def glyphText (glyphs : List Glyph) : String := String.ofList (glyphs.filterMap Glyph.char?)

/-- The pattern of glyphs. -/
def glyphPattern (glyphs : List Glyph) : List Char := glyphs.flatMap Glyph.inPattern

/-! ### Brackets -/

/-- The classes of characters by their names. -/
def characterClasses : List (String × (Char → Bool)) :=
  [("alnum", Char.isAlphanum), ("alpha", Char.isAlpha), ("blank", fun c => c = ' ' || c = '\t'),
    ("cntrl", fun c => c.toNat < 32 || c.toNat = 127), ("digit", Char.isDigit),
    ("graph", fun c => 32 < c.toNat && c.toNat < 127), ("lower", Char.isLower),
    ("print", fun c => 32 ≤ c.toNat && c.toNat < 127),
    ("punct", fun c => 32 < c.toNat && c.toNat < 127 && !c.isAlphanum),
    ("space", fun c => c = ' ' || (9 ≤ c.toNat && c.toNat ≤ 13)), ("upper", Char.isUpper),
    ("xdigit", fun c => c.isDigit || ('a' ≤ c.toLower && c.toLower ≤ 'f'))]

/-- The class that is named at the front of a text behind a bracket, and the rest. -/
def takeClass? (text : List Char) : Option ((Char → Bool) × List Char) :=
  characterClasses.findSome? fun (name, accepts) =>
    let front := ':' :: name.toList ++ [':', ']']
    if front.isPrefixOf text then some (accepts, text.drop front.length) else none

/-- One character of a list in brackets, from behind a backslash if there is one. -/
def takeListed : List Char → Option (Char × List Char)
  | '\\' :: c :: rest => some (c, rest)
  | c :: rest => some (c, rest)
  | [] => none

/-- What a list in brackets accepts, from a text behind the bracket, and the rest behind the closing
bracket, if there is one. The first character does not close. -/
def takeBracket? : (fuel : Nat) → (isFirst : Bool) → List Char →
    Option ((Char → Bool) × List Char)
  | 0, _, _ => none
  | _, false, ']' :: rest => some (fun _ => false, rest)
  | fuel + 1, _, text =>
    let named := match text with
      | '[' :: rest => takeClass? rest
      | _ => none
    match named with
    | some (accepts, rest) =>
      (takeBracket? fuel false rest).map fun (more, rest) => (fun c => accepts c || more c, rest)
    | none => do
      let (low, rest) ← takeListed text
      let (accepts, rest) : (Char → Bool) × List Char :=
        match rest with
        | '-' :: high :: _ =>
          match if high = ']' then none else takeListed (rest.drop 1) with
          | some (high, rest) => (fun c => low ≤ c && c ≤ high, rest)
          | none => (fun c => c = low, rest)
        | _ => (fun c => c = low, rest)
      let (more, rest) ← takeBracket? fuel false rest
      return (fun c => accepts c || more c, rest)

/-! ### Patterns -/

/-- A part of a pattern. -/
inductive PatternItem where
  | many
  | one (accepts : Char → Bool)

/-- The parts of a pattern. -/
def patternItems : (fuel : Nat) → List Char → List PatternItem
  | 0, _ => []
  | _, [] => []
  | fuel + 1, '\\' :: c :: rest => .one (fun d => d = c) :: patternItems fuel rest
  | fuel + 1, '*' :: rest => .many :: patternItems fuel rest
  | fuel + 1, '?' :: rest => .one (fun _ => true) :: patternItems fuel rest
  | fuel + 1, '[' :: rest =>
    let (isNegated, listed) := match rest with
      | '!' :: listed => (true, listed)
      | listed => (false, listed)
    match takeBracket? (listed.length + 1) true listed with
    | some (accepts, rest) => .one (fun c => accepts c != isNegated) :: patternItems fuel rest
    | none => .one (fun c => c = '[') :: patternItems fuel rest
  | fuel + 1, c :: rest => .one (fun d => d = c) :: patternItems fuel rest

/-- The parts match a text. -/
def itemsMatch : List PatternItem → List Char → Bool
  | [], text => text.isEmpty
  | .many :: items, text => matchesBehind (itemsMatch items) text
  | .one accepts :: items, c :: text => accepts c && itemsMatch items text
  | .one _ :: _, [] => false
where
  /-- A test holds of a text or of what is left of it behind some characters. -/
  matchesBehind (holds : List Char → Bool) : List Char → Bool
    | [] => holds []
    | c :: text => holds (c :: text) || matchesBehind holds text

/-- The pattern matches a text. -/
def patternMatches (pattern text : List Char) : Bool :=
  itemsMatch (patternItems pattern.length pattern) text

/-- The pattern has a character with a meaning. -/
def hasMeaning : List Char → Bool
  | '\\' :: _ :: rest => hasMeaning rest
  | c :: rest => c = '*' || c = '?' || c = '[' || hasMeaning rest
  | [] => false

/-- The text of a pattern that has no characters with a meaning. -/
def unguarded : List Char → List Char
  | '\\' :: c :: rest => c :: unguarded rest
  | c :: rest => c :: unguarded rest
  | [] => []

end RoutineTiming.Shell
