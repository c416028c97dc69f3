import TypedDocument.Regex.Basic
import TypedDocument.Regex.Named

/-!
# Reading regular expressions

The pattern syntax has alternatives, repetitions, groups with inline flags, bracketed classes with set operations,
named classes and conditions on positions. Back references and look-around are not part of it. A pattern is read from
left to right with a budget that starts above its length; every step consumes at least one character. A pattern that
nests its parts too deeply is refused.
-/

namespace TypedDocument.Regex

/-- The two dialects of the pattern syntax. -/
inductive Dialect where
  /-- The letter classes hold the digits, blanks and word characters of all scripts. -/
  | full
  /-- The letter classes hold the ASCII digits and word characters and a fixed list of ten blanks. Support for all
  scripts cannot be switched off, carriage returns never end lines, and there are no special word boundaries. -/
  | basic
deriving DecidableEq, Repr

/-- The inline flags, and the dialect. -/
structure Flags where
  caseless : Bool := false
  multiLine : Bool := false
  dotAll : Bool := false
  crlf : Bool := false
  allScripts : Bool := true
  /-- Blanks and comments between the parts of a pattern are skipped. -/
  extended : Bool := false
  dialect : Dialect := .full
deriving Repr, DecidableEq

/-- Skips blanks and comments, which last from a hash sign to the end of the line. -/
def skipComments : (inComment : Bool) → List Char → List Char
  | _, [] => []
  | inComment, c :: cs =>
    if inComment then skipComments (c != '\n') cs
    else if CharProperty.isWhiteSpace c then skipComments false cs
    else if c = '#' then skipComments true cs
    else c :: cs

def Flags.skip (f : Flags) (cs : List Char) : List Char := if f.extended then skipComments false cs else cs

/-- Closes a set under case if the flags ask for it. -/
def Flags.fold (f : Flags) (s : CharSet) : CharSet :=
  if !f.caseless then s
  else if f.allScripts then .anyCase s
  else .anyCaseAscii s

/-- Without support for all scripts a class may only hold ASCII characters, because its other members would be
bytes that are no characters. -/
def Flags.allow (f : Flags) (s : CharSet) : Option CharSet :=
  if !f.allScripts && s.leavesAscii then none else some s

/-- Without support for all scripts two hexadecimal digits number a byte, which has to be an ASCII character. -/
def Flags.isStrayByte (f : Flags) (digits : Nat) (c : Char) : Bool := !f.allScripts && digits = 2 && 128 ≤ c.toNat

/-- The characters with a meaning of their own in patterns. -/
def isMeta (c : Char) : Bool := "\\.+*?()|[]\x7b\x7d^$#&-~".toList.contains c

/-- A text as a pattern that matches just that text. -/
def escape (s : String) : String :=
  String.ofList (s.toList.flatMap fun c => if isMeta c then ['\\', c] else [c])

/-- What a part of a pattern stands for, and how deep parts are nested in it. A group, a repetition and a class in
brackets are one deeper than what they hold; characters, dots, positions, named classes and flags hold nothing. -/
structure Nested (α : Type) where
  value : α
  depth : Nat

/-- The depth of parts that stand side by side, given the depths of all of them: two or more make up a part of their
own. -/
def joinedDepth : List Nat → Nat
  | [] => 0
  | [depth] => depth
  | depths => depths.foldl max 0 + 1

/-- The greatest depth of a pattern. -/
def nestLimit : Nat := 250

/-- What an escape or a single character stands for. -/
inductive Primitive where
  | char (c : Char)
  | set (s : CharSet)
  | look (l : Look)

/-- Hexadecimal digits as the character they number. -/
def hexChar? (digits : List Char) : Option Char :=
  let value? := digits.foldlM (fun (n : Nat) c =>
    if c.isDigit then some (16 * n + (c.toNat - '0'.toNat))
    else if 'a' ≤ c && c ≤ 'f' then some (16 * n + (c.toNat - 'a'.toNat + 10))
    else if 'A' ≤ c && c ≤ 'F' then some (16 * n + (c.toNat - 'A'.toNat + 10))
    else none) 0
  match value? with
  | some n => if n.isValidChar then some (Char.ofNat n) else none
  | none => none

/-- The next `n` characters, with blanks and comments skipped after each. -/
def takeSkipping (f : Flags) : Nat → List Char → Option (List Char × List Char)
  | 0, cs => some ([], cs)
  | n + 1, c :: cs => (takeSkipping f n (f.skip cs)).map fun (taken, rest) => (c :: taken, rest)
  | _ + 1, [] => none

/-- The characters up to a closing brace, and what follows it. -/
def takeBraced (f : Flags) : (budget : Nat) → List Char → Option (List Char × List Char)
  | 0, _ => none
  | budget + 1, cs =>
    match f.skip cs with
    | [] => none
    | '\x7d' :: rest => some ([], rest)
    | c :: rest => (takeBraced f budget rest).map fun (taken, tail) => (c :: taken, tail)

/-- A character by its number: `digits` digits, or any number of them between braces. -/
def readHex? (f : Flags) (digits : Nat) (cs : List Char) : Option (Primitive × List Char) :=
  match f.skip cs with
  | '\x7b' :: rest => do
    let (body, tail) ← takeBraced f (rest.length + 1) rest
    if body.isEmpty then none
    else return (.char (← hexChar? body), f.skip tail)
  | rest => do
    let (body, tail) ← takeSkipping f digits rest
    let c ← hexChar? body
    if f.isStrayByte digits c then none else return (.char c, tail)

/-- The text before a separator and behind it. -/
def splitAt? (separator : List Char) : List Char → Option (List Char × List Char)
  | [] => none
  | c :: cs =>
    if separator.isPrefixOf (c :: cs) then some ([], (c :: cs).drop separator.length)
    else (splitAt? separator cs).map fun (l, r) => (c :: l, r)

/-- A class by the text between its braces. -/
def bracedClass? (body : List Char) : Option CharSet :=
  match splitAt? ['!', '='] body with
  | some (name, value) => (CharSet.namedValue? name value).map .compl
  | none =>
    match splitAt? [':'] body with
    | some (name, value) => CharSet.namedValue? name value
    | none =>
      match splitAt? ['='] body with
      | some (name, value) => CharSet.namedValue? name value
      | none => CharSet.named? body

/-- A named class behind its `p` or `P`. -/
def readNamedClass? (f : Flags) (negated : Bool) (cs : List Char) : Option (Primitive × List Char) := do
  let (set, rest) ← match f.skip cs with
    | '\x7b' :: body => do
      let (name, tail) ← takeBraced f (body.length + 1) body
      pure (← bracedClass? name, tail)
    | '\\' :: _ => none
    | c :: tail => do pure (← CharSet.named? [c], f.skip tail)
    | [] => none
  if !f.allScripts then none
  else
    let folded := f.fold set
    return (.set (if negated then .compl folded else folded), rest)

/-- The blanks of the basic letter classes. -/
def basicBlanks : CharSet :=
  .ranges [.upTo 9 13, .chars ' ' ' ', .upTo 0xA0 0xA0, .upTo 0x2003 0x2003, .upTo 0x2029 0x2029, .upTo 0xFEFF 0xFEFF]

/-- The class of an escaped letter in lower case. -/
def letterSet (f : Flags) (c : Char) : CharSet :=
  let pick (full ascii basic : CharSet) : CharSet :=
    match f.dialect with
    | .basic => f.fold basic
    | .full => if f.allScripts then full else ascii
  if c = 'd' then pick (.ranges Category.decimalNumber.ranges) .asciiDigits .asciiDigits
  else if c = 's' then pick (.ranges CharProperty.whiteSpace) .asciiBlanks basicBlanks
  else pick (.ranges CharProperty.word) .asciiWord .asciiWord

def isBoundaryChar (c : Char) : Bool := c.isAlpha || c = '-'

/-- Letters and hyphens up to the first other character. -/
def takeBoundaryName (f : Flags) : (budget : Nat) → List Char → List Char × List Char
  | 0, cs => ([], cs)
  | budget + 1, c :: cs =>
    if isBoundaryChar c then
      let (taken, rest) := takeBoundaryName f budget (f.skip cs)
      (c :: taken, rest)
    else ([], c :: cs)
  | _ + 1, [] => ([], [])

/-- A word boundary behind its `b`: plain, or one of the special ones named between braces. A brace that does not
open a name belongs to a repetition. -/
def readBoundary? (f : Flags) (cs : List Char) : Option (Primitive × List Char) :=
  let look (b : Boundary) : Primitive := .look (.word (!f.allScripts) b)
  match cs with
  | '\x7b' :: rest =>
    match f.skip rest with
    | [] => none
    | c :: body =>
      if f.dialect = .basic then none
      else if !isBoundaryChar c then some (look .between, cs)
      else
        match takeBoundaryName f (body.length + 1) (c :: body) with
        | (name, '\x7d' :: tail) =>
          match String.ofList name with
          | "start" => some (look .start, tail)
          | "end" => some (look .finish, tail)
          | "start-half" => some (look .halfStart, tail)
          | "end-half" => some (look .halfFinish, tail)
          | _ => none
        | _ => none
  | _ => some (look .between, cs)

/-- What follows a backslash. -/
def readEscape? (f : Flags) : List Char → Option (Primitive × List Char)
  | [] => none
  | c :: rest =>
    match c with
    | 'x' => readHex? f 2 rest
    | 'u' => readHex? f 4 rest
    | 'U' => readHex? f 8 rest
    | 'p' => readNamedClass? f false rest
    | 'P' => readNamedClass? f true rest
    | 'd' | 's' | 'w' => (f.allow (letterSet f c)).map fun s => (.set s, rest)
    | 'D' | 'S' | 'W' => (f.allow (.compl (letterSet f c.toLower))).map fun s => (.set s, rest)
    | 'a' => some (.char '\x07', rest)
    | 'f' => some (.char '\x0c', rest)
    | 't' => some (.char '\t', rest)
    | 'n' => some (.char '\n', rest)
    | 'r' => some (.char '\r', rest)
    | 'v' => some (.char '\x0b', rest)
    | 'A' => some (.look .textStart, rest)
    | 'z' => some (.look .textEnd, rest)
    | 'b' => readBoundary? f rest
    | 'B' => some (.look (.word (!f.allScripts) .inside), rest)
    | '<' => some (.look (.word (!f.allScripts) .start), rest)
    | '>' => some (.look (.word (!f.allScripts) .finish), rest)
    | c => if c.toNat < 128 && !c.isAlphanum then some (.char c, rest) else none

/-- The set operations inside brackets, all of one rank and grouped to the left. -/
inductive SetOperator where
  | inter
  | diff
  | symmDiff

def SetOperator.apply : SetOperator → CharSet → CharSet → CharSet
  | inter => .inter
  | diff => .diff
  | symmDiff => .symmDiff

/-- The members of a class that have been read, and the depth of each. -/
structure Members where
  set : CharSet := .empty
  depths : List Nat := []

def Members.add (m : Members) (s : CharSet) (depth : Nat) : Members := ⟨.union m.set s, depth :: m.depths⟩

/-- Completes the operation that waits for its right side. -/
def combine (f : Flags) (pending : Option (Nested CharSet × SetOperator)) (right : Members) : Nested CharSet :=
  let depth := joinedDepth right.depths
  match pending with
  | none => ⟨right.set, depth⟩
  | some (left, operator) => ⟨operator.apply (f.fold left.value) (f.fold right.set), max left.depth depth + 1⟩

/-- A class such as `[:alpha:]`, from its colon on. -/
def asciiClass? (f : Flags) (cs : List Char) : Option (CharSet × List Char) :=
  match cs with
  | ':' :: rest =>
    let (negated, body) := match rest with
      | '^' :: r => (true, r)
      | _ => (false, rest)
    let name := body.takeWhile (· != ':')
    match body.dropWhile (· != ':') with
    | ':' :: ']' :: tail =>
      (CharSet.ascii? (String.ofList name)).map fun s =>
        let folded := f.fold s
        (if negated then .compl folded else folded, tail)
    | _ => none
  | _ => none

/-- A member of a bracketed class: a character or a class, but no condition. -/
def readMember? (f : Flags) : List Char → Option (Primitive × List Char)
  | [] => none
  | '\\' :: rest =>
    match readEscape? f rest with
    | some (.look _, _) => none
    | other => other
  | c :: rest => some (.char c, rest)

/-- A character as a set; without support for all scripts only ASCII characters may stand in a class. -/
def charSet? (f : Flags) (c : Char) : Option CharSet :=
  if !f.allScripts && 128 ≤ c.toNat then none else some (.single c)

/-- A single member or a range of characters. A hyphen before the closing bracket or before another hyphen does not
make a range. -/
def readRange? (f : Flags) (cs : List Char) : Option (CharSet × List Char) := do
  let (first, rest) ← readMember? f cs
  let single : Option CharSet := match first with
    | .char c => charSet? f c
    | .set s => some s
    | .look _ => none
  match f.skip rest with
  | [] => none
  | '-' :: behind =>
    match (f.skip behind).head? with
    | some ']' => return (← single, '-' :: behind)
    | some '-' => return (← single, '-' :: behind)
    | none => none
    | some _ =>
      match first, ← readMember? f (f.skip behind) with
      | .char a, (.char b, tail) =>
        if a ≤ b && (f.allScripts || b.toNat < 128) then return (.interval a b, tail) else none
      | _, _ => none
  | rest => return (← single, rest)

/-- The number of hyphens at the start of a class, which stand for themselves. -/
def leadingHyphens (f : Flags) : (budget : Nat) → List Char → Nat × List Char
  | budget + 1, '-' :: rest =>
    let (n, tail) := leadingHyphens f budget (f.skip rest)
    (n + 1, tail)
  | _, cs => (0, cs)

mutual

/-- A bracketed class behind its opening bracket. -/
def readClass? (f : Flags) : (budget : Nat) → List Char → Option (Nested CharSet × List Char)
  | 0, _ => none
  | budget + 1, cs => do
    let cs := f.skip cs
    let (negated, cs) := match cs with
      | '^' :: rest => (true, f.skip rest)
      | _ => (false, cs)
    let (hyphens, cs) := leadingHyphens f cs.length cs
    let (start, cs) : Members × List Char := match hyphens, cs with
      | 0, ']' :: rest => (⟨.single ']', [0]⟩, rest)
      | 0, _ => ({}, cs)
      | n + 1, _ => (⟨.single '-', List.replicate (n + 1) 0⟩, cs)
    let (members, rest) ← readMembers? f budget none start cs
    let folded := f.fold members.value
    return (⟨if negated then .compl folded else folded, members.depth + 1⟩, rest)

/-- The members of a class up to its closing bracket. -/
def readMembers? (f : Flags) : (budget : Nat) → Option (Nested CharSet × SetOperator) → Members → List Char →
    Option (Nested CharSet × List Char)
  | 0, _, _, _ => none
  | budget + 1, pending, members, cs =>
    match f.skip cs with
    | [] => none
    | ']' :: rest => some (combine f pending members, rest)
    | '[' :: rest =>
      match asciiClass? f rest with
      | some (s, tail) => readMembers? f budget pending (members.add s 0) tail
      | none => do
        let (inner, tail) ← readClass? f budget rest
        readMembers? f budget pending (members.add inner.value inner.depth) tail
    | '&' :: '&' :: rest => readMembers? f budget (some (combine f pending members, .inter)) {} rest
    | '-' :: '-' :: rest => readMembers? f budget (some (combine f pending members, .diff)) {} rest
    | '~' :: '~' :: rest => readMembers? f budget (some (combine f pending members, .symmDiff)) {} rest
    | other => do
      let (s, tail) ← readRange? f other
      readMembers? f budget pending (members.add s 0) tail

end

/-- One flag of a group, switched on or off. -/
def Flags.set? (f : Flags) (on : Bool) : Char → Option Flags
  | 'i' => some { f with caseless := on }
  | 'm' => some { f with multiLine := on }
  | 's' => some { f with dotAll := on }
  | 'R' => if f.dialect = .full then some { f with crlf := on } else none
  | 'u' => if on || f.dialect = .full then some { f with allScripts := on } else none
  | 'x' => some { f with extended := on }
  | 'U' => some f
  | _ => none

/-- Flags up to a colon or a closing parenthesis, which is left in place. No flag may be given twice, and a minus
sign has to be followed by a flag. The result also says whether there were any. -/
def readFlags? (f : Flags) : (on : Bool) → (seen : List Char) → List Char → Option (Flags × Bool × List Char)
  | _, _, [] => none
  | on, seen, c :: cs =>
    if c = ':' || c = ')' then
      if seen.head? == some '-' then none else some (f, !seen.isEmpty, c :: cs)
    else if seen.contains c then none
    else if c = '-' then readFlags? f false ('-' :: seen) cs
    else
      match f.set? on c with
      | some g => readFlags? g on (c :: seen) cs
      | none => none

/-- The name of a group and what follows it. -/
def readGroupName? (names : List (List Char)) (cs : List Char) : Option (List Char × List Char) :=
  let name := cs.takeWhile (· != '>')
  let first (c : Char) : Bool := c = '_' || CharProperty.isAlphabetic c
  let later (c : Char) : Bool :=
    c = '_' || c = '.' || c = '[' || c = ']' || CharProperty.isAlphanumeric c
  match cs.dropWhile (· != '>'), name with
  | '>' :: rest, c :: more =>
    if first c && more.all later && !names.contains name then some (name, rest) else none
  | _, _ => none

/-- What an opening parenthesis begins. -/
inductive GroupHead where
  /-- Flags for the rest of the enclosing group. -/
  | directive (flags : Flags)
  | group (flags : Flags) (name : Option (List Char))

/-- What follows an opening parenthesis, up to the group's contents. -/
def readGroupHead? (f : Flags) (names : List (List Char)) (cs : List Char) : Option (GroupHead × List Char) :=
  match f.skip cs with
  | '?' :: '=' :: _ => none
  | '?' :: '!' :: _ => none
  | '?' :: '<' :: '=' :: _ => none
  | '?' :: '<' :: '!' :: _ => none
  | '?' :: 'P' :: '<' :: rest => (readGroupName? names rest).map fun (n, tail) => (.group f (some n), tail)
  | '?' :: '<' :: rest => (readGroupName? names rest).map fun (n, tail) => (.group f (some n), tail)
  | '?' :: rest =>
    match readFlags? f true [] rest with
    | some (g, _, ':' :: tail) => some (.group g none, tail)
    | some (g, true, ')' :: tail) => some (.directive g, tail)
    | _ => none
  | rest => some (.group f none, rest)

/-- Decimal digits with blanks around them. -/
def readCount? (f : Flags) (cs : List Char) : Option Nat × List Char :=
  let rec digits : (budget : Nat) → List Char → List Char × List Char
    | budget + 1, c :: rest =>
      if c.isDigit then
        let (ds, tail) := digits budget (f.skip rest)
        (c :: ds, tail)
      else ([], c :: rest)
    | _, rest => ([], rest)
  let start := cs.dropWhile CharProperty.isWhiteSpace
  let (ds, rest) := digits start.length start
  (if ds.isEmpty then none else some (digitsValue ds), f.skip (rest.dropWhile CharProperty.isWhiteSpace))
where
  /-- The value of decimal digits. -/
  digitsValue (ds : List Char) : Nat := ds.foldl (fun n c => 10 * n + (c.toNat - '0'.toNat)) 0

/-- The greatest count of a repetition. -/
def maxCount : Nat := UInt32.size - 1

/-- The counts of a repetition behind its opening brace. -/
def readCounts? (f : Flags) (cs : List Char) : Option (Nat × Option Nat × List Char) := do
  let (least?, rest) := readCount? f (f.skip cs)
  let least ← least?
  let (most, rest) ← match rest with
    | ',' :: rest =>
      match f.skip rest with
      | '\x7d' :: _ => pure (none, f.skip rest)
      | rest =>
        let (most?, rest) := readCount? f rest
        pure (some (← most?), rest)
    | _ => pure (some least, rest)
  match rest with
  | '\x7d' :: rest =>
    if maxCount < least || most.any (fun m => m < least || maxCount < m) then none
    else return (least, most, rest)
  | _ => none

/-- A question mark behind a repetition only changes its preference. -/
def dropPreference : List Char → List Char
  | '?' :: rest => rest
  | cs => cs

/-- A part of a sequence. Flags cannot be repeated. -/
inductive Part where
  | regex (r : Nested Regex)
  | directive

namespace Part

def regex? : Part → Option Regex
  | regex r => some r.value
  | directive => none

def depth : Part → Nat
  | regex r => r.depth
  | directive => 0

end Part

/-- The sequence of parts gathered in reverse. -/
def closeSequence (parts : List Part) : Nested Regex :=
  ⟨sequence (parts.reverse.filterMap Part.regex?), joinedDepth (parts.map Part.depth)⟩

/-- The choice between alternatives gathered in reverse. -/
def closeChoice (branches : List (Nested Regex)) : Nested Regex :=
  ⟨choice (branches.reverse.map Nested.value), joinedDepth (branches.map Nested.depth)⟩

/-- The expression of a single character. -/
def charRegex (f : Flags) (c : Char) : Regex :=
  chars (if f.caseless && (f.allScripts || c.toNat < 128) then f.fold (.single c) else .single c)

def Primitive.regex (f : Flags) : Primitive → Regex
  | char c => charRegex f c
  | set s => chars s
  | look l => .look l

/-- The expression of a dot. -/
def dot? (f : Flags) : Option Regex :=
  if !f.allScripts then none
  else if f.dotAll then some (chars .all)
  else if f.crlf then some (chars (.compl (.ranges [.chars '\n' '\n', .chars '\r' '\r'])))
  else some (chars (.allBut '\n'))

def caret (f : Flags) : Regex :=
  look (if !f.multiLine then .textStart else if f.crlf then .lineStartCrlf else .lineStart)

def dollar (f : Flags) : Regex :=
  look (if !f.multiLine then .textEnd else if f.crlf then .lineEndCrlf else .lineEnd)

/-- The alternatives of a group up to its closing parenthesis or the end of the pattern, which is left in place.
`branches` are the alternatives before the current one and `parts` the parts of the current one, both in reverse. The
names of groups are passed along because no two groups may share one. -/
def readBranches? : (budget : Nat) → Flags → (branches : List (Nested Regex)) → (parts : List Part) →
    (names : List (List Char)) → List Char → Option (Nested Regex × List (List Char) × List Char)
  | 0, _, _, _, _, _ => none
  | budget + 1, f, branches, parts, names, cs =>
    let again (parts : List Part) (rest : List Char) := readBranches? budget f branches parts names rest
    let single (r : Regex) (rest : List Char) := again (.regex ⟨r, 0⟩ :: parts) rest
    let repeatLast (least : Nat) (most : Option Nat) (rest : List Char) :=
      match parts with
      | .regex r :: before => again (.regex ⟨.repeated r.value least most, r.depth + 1⟩ :: before) (dropPreference rest)
      | _ => none
    match f.skip cs with
    | [] => some (closeChoice (closeSequence parts :: branches), names, [])
    | ')' :: rest => some (closeChoice (closeSequence parts :: branches), names, ')' :: rest)
    | '|' :: rest => readBranches? budget f (closeSequence parts :: branches) [] names rest
    | '(' :: rest =>
      match readGroupHead? f names rest with
      | none => none
      | some (.directive g, tail) => readBranches? budget g branches (.directive :: parts) names tail
      | some (.group g name, inner) =>
        match readBranches? budget g [] [] (name.toList ++ names) inner with
        | some (r, names, ')' :: tail) =>
          readBranches? budget f branches (.regex ⟨r.value, r.depth + 1⟩ :: parts) names tail
        | _ => none
    | '[' :: rest =>
      match readClass? f (2 * rest.length + 2) rest with
      | some (s, tail) => (f.allow s.value).bind fun set => again (.regex ⟨chars set, s.depth⟩ :: parts) tail
      | none => none
    | '*' :: rest => repeatLast 0 none rest
    | '+' :: rest => repeatLast 1 none rest
    | '?' :: rest => repeatLast 0 (some 1) rest
    | '\x7b' :: rest =>
      match readCounts? f rest with
      | some (least, most, tail) => repeatLast least most (f.skip tail)
      | none => none
    | '\\' :: rest =>
      match readEscape? f rest with
      | some (p, tail) => single (p.regex f) tail
      | none => none
    | '.' :: rest => (dot? f).bind fun r => single r rest
    | '^' :: rest => single (caret f) rest
    | '$' :: rest => single (dollar f) rest
    | c :: rest => single (charRegex f c) rest

/-- The expression a pattern stands for, if it is one. -/
def parse? (dialect : Dialect) (pattern : List Char) : Option Regex :=
  match readBranches? (pattern.length + 1) { dialect } [] [] [] pattern with
  | some (r, _, []) => if r.depth ≤ nestLimit then some r.value else none
  | _ => none

end TypedDocument.Regex
