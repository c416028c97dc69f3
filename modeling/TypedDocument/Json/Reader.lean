import TypedDocument.Json.Number

/-!
# Reading JSON text

A recursive descent over the characters of the text. Every call spends one unit of a budget that starts above the
length of the text, and containers nest at most `maxDepth` deep.
-/

namespace TypedDocument.Json

/-- How deep containers may nest. -/
def maxDepth : Nat := 127

def isBlank (c : Char) : Bool := c = ' ' || c = '\n' || c = '\t' || c = '\r'

def skipBlanks (cs : List Char) : List Char := cs.dropWhile isBlank

def hexDigit? (c : Char) : Option Nat :=
  if c.isDigit then some (c.toNat - '0'.toNat)
  else if 'a' ≤ c && c ≤ 'f' then some (c.toNat - 'a'.toNat + 10)
  else if 'A' ≤ c && c ≤ 'F' then some (c.toNat - 'A'.toNat + 10)
  else none

/-- The value of four hexadecimal digits. -/
def hexQuad? (a b c d : Char) : Option Nat := do
  return (((← hexDigit? a) * 16 + (← hexDigit? b)) * 16 + (← hexDigit? c)) * 16 + (← hexDigit? d)

/-- The character of an escape of one letter. -/
def simpleEscape? : Char → Option Char
  | '"' => some '"'
  | '\\' => some '\\'
  | '/' => some '/'
  | 'b' => some '\x08'
  | 'f' => some '\x0c'
  | 'n' => some '\n'
  | 'r' => some '\r'
  | 't' => some '\t'
  | _ => none

def isHighSurrogate (n : Nat) : Bool := 0xD800 ≤ n && n < 0xDC00

def isLowSurrogate (n : Nat) : Bool := 0xDC00 ≤ n && n < 0xE000

/-- The characters of a string up to its closing quote, and what follows it. Escapes of surrogates have to come in
pairs, and control characters have to be escaped. -/
def readChars? : List Char → Option (List Char × List Char)
  | [] => none
  | '"' :: rest => some ([], rest)
  | '\\' :: 'u' :: a :: b :: c :: d :: rest => do
    let unit ← hexQuad? a b c d
    if isLowSurrogate unit then none
    else if isHighSurrogate unit then
      match rest with
      | '\\' :: 'u' :: a' :: b' :: c' :: d' :: rest' =>
        let low ← hexQuad? a' b' c' d'
        if isLowSurrogate low then
          let (cs, tail) ← readChars? rest'
          return (Char.ofNat (0x10000 + (unit - 0xD800) * 0x400 + (low - 0xDC00)) :: cs, tail)
        else none
      | _ => none
    else
      let (cs, tail) ← readChars? rest
      return (Char.ofNat unit :: cs, tail)
  | '\\' :: e :: rest => do
    let c ← simpleEscape? e
    let (cs, tail) ← readChars? rest
    return (c :: cs, tail)
  | c :: rest => do
    if c.toNat < 0x20 then none
    else
      let (cs, tail) ← readChars? rest
      return (c :: cs, tail)

/-- The rest behind a given word. -/
def expect? : List Char → List Char → Option (List Char)
  | [], rest => some rest
  | w :: ws, c :: cs => if w = c then expect? ws cs else none
  | _ :: _, [] => none

mutual

/-- A value and the text behind it. -/
def readValue? : (budget depth : Nat) → List Char → Option (Json × List Char)
  | 0, _, _ => none
  | budget + 1, depth, cs =>
    match skipBlanks cs with
    | 'n' :: rest => (expect? "ull".toList rest).map (null, ·)
    | 't' :: rest => (expect? "rue".toList rest).map (bool true, ·)
    | 'f' :: rest => (expect? "alse".toList rest).map (bool false, ·)
    | '"' :: rest => (readChars? rest).map fun (s, tail) => (string (String.ofList s), tail)
    | '-' :: rest => readNumber? true rest
    | '[' :: rest =>
      match depth with
      | 0 => none
      | depth + 1 =>
        match skipBlanks rest with
        | ']' :: tail => some (array [], tail)
        | inner => (readItems? budget depth inner).map fun (items, tail) => (array items, tail)
    | '\x7b' :: rest =>
      match depth with
      | 0 => none
      | depth + 1 =>
        match skipBlanks rest with
        | '\x7d' :: tail => some (object [], tail)
        | inner => (readMembers? budget depth inner).map fun (ms, tail) => (object (Entries.ofList ms), tail)
    | rest => readNumber? false rest

/-- The elements of a list that has at least one more, up to the closing bracket. -/
def readItems? : (budget depth : Nat) → List Char → Option (List Json × List Char)
  | 0, _, _ => none
  | budget + 1, depth, cs => do
    let (item, afterItem) ← readValue? budget depth cs
    match skipBlanks afterItem with
    | ']' :: tail => return ([item], tail)
    | ',' :: rest =>
      let (items, tail) ← readItems? budget depth rest
      return (item :: items, tail)
    | _ => none

/-- The members of an object that has at least one more, up to the closing brace. -/
def readMembers? : (budget depth : Nat) → List Char → Option (List (String × Json) × List Char)
  | 0, _, _ => none
  | budget + 1, depth, cs => do
    match skipBlanks cs with
    | '"' :: rest =>
      let (key, afterKey) ← readChars? rest
      match skipBlanks afterKey with
      | ':' :: rest =>
        let (value, afterValue) ← readValue? budget depth rest
        let member := (String.ofList key, value)
        match skipBlanks afterValue with
        | '\x7d' :: tail => return ([member], tail)
        | ',' :: rest =>
          let (members, tail) ← readMembers? budget depth rest
          return (member :: members, tail)
        | _ => none
      | _ => none
    | _ => none

end

/-- The value a text stands for, if it is a JSON text. -/
def parse? (text : String) : Option Json :=
  let cs := text.toList
  match readValue? (2 * cs.length + 2) maxDepth cs with
  | some (j, rest) => if (skipBlanks rest).isEmpty then some j else none
  | none => none

end TypedDocument.Json
