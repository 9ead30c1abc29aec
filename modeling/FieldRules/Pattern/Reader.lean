import FieldRules.Automaton.Size
import FieldRules.Pattern.Class
import FieldRules.Pattern.Normal

/-!
The notation of patterns.
-/

namespace FieldRules.Pattern

/-- What begins after an opening parenthesis: a group that is read in a mode of its own, of which a
    matcher notes what it takes or does not, or a change of mode for the rest of the group around
    it. -/
inductive Opening where
  | group (mode : Mode) (noted : Bool)
  | directive (mode : Mode)

/-- The flags after `(?`. Each may be set or, after a hyphen, unset once. -/
def readFlags? (mode : Mode) (on : Bool) (seen : List Char) :
    List Char → Option (Opening × List Char)
  | [] => none
  | c :: rest =>
    if c = ':' ∨ c = ')' then
      if seen.head? = some '-' ∨ (c = ')' ∧ seen.isEmpty) then none
      else some (if c = ':' then .group mode false else .directive mode, rest)
    else if seen.contains c then none
    else if c = '-' then readFlags? mode false (c :: seen) rest
    else do
      let mode ← mode.set? c on
      readFlags? mode on (c :: seen) rest

/-- Whether a text is the name of a group: it starts with a letter or an underscore, and letters,
    numbers, underscores, points and brackets may follow. -/
def isGroupName : List Char → Bool
  | [] => false
  | c :: rest =>
    (c == '_' || Unicode.currentLetters.contains c) &&
      rest.all fun c => "_.[]".toList.contains c || Unicode.currentAlphanumerics.contains c

/-- The start of a group after its parenthesis. No two groups have one name. -/
def readOpening? (mode : Mode) (names : List (List Char)) (cs : List Char) :
    Option (Opening × List (List Char) × List Char) :=
  let named (cs : List Char) : Option (Opening × List (List Char) × List Char) := do
    let (name, rest) ← splitAtMark? '>' cs
    if isGroupName name ∧ !names.contains name then some (.group mode true, name :: names, rest)
    else none
  match mode.skip cs with
  | '?' :: 'P' :: '<' :: rest => named rest
  | '?' :: '<' :: rest => named rest
  | '?' :: rest => do
    let (opening, rest) ← readFlags? mode true [] rest
    some (opening, names, rest)
  | cs => some (.group mode true, names, cs)

/-- A question mark after a repetition makes it prefer fewer repeats, which makes no difference to
    whether a text matches. -/
def dropLazy : List Char → List Char
  | '?' :: rest => rest
  | rest => rest

/-- A decimal number among blanks. -/
def readCount? (mode : Mode) (cs : List Char) : Option (Nat × List Char) :=
  match mode.span Char.isDigit (cs.dropWhile Text.isBlank) with
  | ([], _) => none
  | (digits, rest) =>
    let n := digits.foldl (fun n c => 10 * n + (c.toNat - '0'.toNat)) 0
    if n < 0x100000000 then some (n, rest.dropWhile Text.isBlank) else none

/-- The bounds of a counted repetition, after its opening brace. -/
def readBounds? (mode : Mode) (cs : List Char) : Option ((Nat × Option Nat) × List Char) := do
  let (least, rest) ← readCount? mode (mode.skip cs)
  match rest with
  | '\x7d' :: rest => some ((least, some least), dropLazy (mode.skip rest))
  | ',' :: rest =>
    match mode.skip rest with
    | '\x7d' :: rest => some ((least, none), dropLazy (mode.skip rest))
    | rest =>
      let (most, rest) ← readCount? mode rest
      match rest with
      | '\x7d' :: rest =>
        if least ≤ most then some ((least, some most), dropLazy (mode.skip rest)) else none
      | _ => none
  | _ => none

/-- The bounds of a repetition, if the text begins with one. The outer `none` is an error. -/
def readRepetition? (mode : Mode) :
    List Char → Option (Option ((Nat × Option Nat) × List Char))
  | '?' :: rest => some (some ((0, some 1), dropLazy rest))
  | '*' :: rest => some (some ((0, none), dropLazy rest))
  | '+' :: rest => some (some ((1, none), dropLazy rest))
  | '\x7b' :: rest => (readBounds? mode rest).map some
  | _ => some none

/-- A part of a sequence. -/
structure Item where
  pattern : Pattern
  /-- The depth to which its notation is nested. -/
  depth : Nat
  /-- Whether a repetition may follow, as it may not after a change of mode. -/
  repeatable : Bool

namespace Item

def plain (p : Pattern) : Item := ⟨p, 0, true⟩

/-- A change of mode, which matches the empty text. -/
def directive : Item := ⟨empty, 0, false⟩

/-- A group around a pattern. -/
def ofGroup (noted : Bool) (inner : Nested Pattern) : Item :=
  ⟨if noted then group inner.value else inner.value, inner.depth + 1, true⟩

def repeated? (item : Item) (least : Nat) (most : Option Nat) : Option Item :=
  if item.repeatable then
    some { item with pattern := item.pattern.repeated least most, depth := item.depth + 1 }
  else none

/-- The sequence of some items. More than one are nested in a list. -/
def sequence (items : List Item) : Nested Pattern :=
  let depth := (items.map depth).foldl max 0
  ⟨Pattern.sequence (items.map pattern), if items.length < 2 then depth else depth + 1⟩

end Item

/-- A character, class or anchor outside brackets. -/
def readPrimitive? (mode : Mode) : List Char → Option (Item × List Char)
  | '[' :: rest => do
    let (s, rest) ← readClass? mode rest
    some (⟨ofSet s.value, s.depth, true⟩, rest)
  | '\\' :: rest => do
    let (atom, rest) ← readEscape? mode rest
    match atom with
    | .char c => some (.plain (ofSet (mode.fold (.single c))), rest)
    | .set s => some (.plain (ofSet s), rest)
    | .anchor a => some (.plain (anchor a), rest)
  | '.' :: rest =>
    if !mode.unicode then none
    else some (.plain (char (if mode.dotAll then .any else mode.lineEnds.compl)), rest)
  | '^' :: rest =>
    some (.plain (anchor (if mode.multiLine then .lineStart mode.carriage else .textStart)), rest)
  | '$' :: rest =>
    some (.plain (anchor (if mode.multiLine then .lineEnd mode.carriage else .textEnd)), rest)
  | c :: rest => some (.plain (ofSet (mode.fold (.single c))), rest)
  | [] => none

/-- The alternatives of a group, last one first. More than one are nested in a list. -/
def alternation (alternatives : List (Nested Pattern)) : Nested Pattern :=
  let depth := (alternatives.map Nested.depth).foldl max 0
  ⟨oneOf (alternatives.reverse.map Nested.value),
    if alternatives.length < 2 then depth else depth + 1⟩

/-- Ends an alternative of a group. -/
def closeSequence (done : List (Nested Pattern)) (items : List Item) : List (Nested Pattern) :=
  Item.sequence items.reverse :: done

/-- The alternatives of a group, up to its closing parenthesis or the end of the text. `done` holds
    the alternatives before the present one, and `items` its items so far, both last one first.
    Every step takes a character, so that their number is enough fuel. -/
def readAlternatives (fuel : Nat) (mode : Mode) (names : List (List Char))
    (done : List (Nested Pattern)) (items : List Item) (cs : List Char) :
    Option (Nested Pattern × List (List Char) × List Char) :=
  match fuel with
  | 0 => none
  | fuel + 1 =>
    match mode.skip cs with
    | [] => some (alternation (closeSequence done items), names, [])
    | ')' :: rest => some (alternation (closeSequence done items), names, ')' :: rest)
    | '|' :: rest => readAlternatives fuel mode names (closeSequence done items) [] rest
    | '(' :: rest => do
      let (opening, names, rest) ← readOpening? mode names rest
      match opening with
      | .directive mode => readAlternatives fuel mode names done (.directive :: items) rest
      | .group inner noted =>
        let (p, names, rest) ← readAlternatives fuel inner names [] [] rest
        let rest ← rest.tail?
        readAlternatives fuel mode names done (.ofGroup noted p :: items) rest
    | cs => do
      match ← readRepetition? mode cs with
      | some ((least, most), rest) =>
        match items with
        | item :: items => do
          let item ← item.repeated? least most
          readAlternatives fuel mode names done (item :: items) rest
        | [] => none
      | none =>
        let (item, rest) ← readPrimitive? mode cs
        readAlternatives fuel mode names done (item :: items) rest

/-- The greatest depth to which the notation of a pattern may be nested. -/
def maxDepth : Nat := 250

/-- Reads a pattern. There is none if the text is malformed or too deeply nested, or the pattern too
    large. -/
def read? (mode : Mode) (cs : List Char) : Option Pattern :=
  match readAlternatives (cs.length + 1) mode [] [] [] cs with
  | some (p, _, []) => if p.depth ≤ maxDepth ∧ p.value.isSmall then some p.value else none
  | _ => none

/-- Reads a pattern between slashes, with flags after the second one: `i` for either case, `m` for
    lines, and `g` for nothing. A slash inside the pattern needs no escape. -/
def readDelimited? (s : String) : Option Pattern :=
  match s.toList with
  | '/' :: body =>
    let flags := (body.reverse.takeWhile (· != '/')).reverse
    let source := body.take (body.length - flags.length - 1)
    if body.contains '/' ∧ flags.all "gmi".toList.contains ∧ !source.contains '\n' then
      read? (.ofFlags (flags.contains 'i') (flags.contains 'm')) source
    else none
  | _ => none

end FieldRules.Pattern
