import SpatialColumns.Json.Numeral
import SpatialColumns.Text.Hex
/-! # JSON tokens

A text is read one character at a time. Outside of strings, tokens are
punctuation marks and words, and a word ends before a blank, a quote or a
punctuation mark. Inside a string, an escape names a code point by a letter or
by four digits; a code point beyond four digits takes a pair of surrogates. -/

namespace SpatialColumns.Json

inductive Token where
  | openArray
  | closeArray
  | openObject
  | closeObject
  | colon
  | comma
  | string (text : Option String)
  /-- A number, a truth value or null. -/
  | literal (value : Json)

namespace Token

def ofPunctuation? (c : Char) : Option Token :=
  if c = '[' then some openArray
  else if c = ']' then some closeArray
  else if c = '\x7b' then some openObject
  else if c = '\x7d' then some closeObject
  else if c = ':' then some colon
  else if c = ',' then some comma
  else none

def ofWord? (word : List Char) : Option Token :=
  if word = "null".toList then some (literal null)
  else if word = "true".toList then some (literal (bool true))
  else if word = "false".toList then some (literal (bool false))
  else (ofNumeral? word).map literal

end Token

/-! ## Strings -/

/-- Whether a code point is the first half of a surrogate pair. -/
def isHighSurrogate (n : Nat) : Bool := 0xd800 ≤ n && n < 0xdc00

/-- Whether a code point is the second half of a surrogate pair. -/
def isLowSurrogate (n : Nat) : Bool := 0xdc00 ≤ n && n < 0xe000

/-- The code point that a pair of surrogates stands for. -/
def joinSurrogates (high low : Nat) : Nat :=
  0x10000 + (high - 0xd800) * 0x400 + (low - 0xdc00)

/-- The characters of code points in which every surrogate is one of a pair. -/
def charsOfUnits : List Nat → Option (List Char)
  | [] => some []
  | [unit] =>
    if isHighSurrogate unit || isLowSurrogate unit then none else some [Char.ofNat unit]
  | first :: second :: rest =>
    if isHighSurrogate first then
      if isLowSurrogate second then
        (charsOfUnits rest).map (Char.ofNat (joinSurrogates first second) :: ·)
      else none
    else if isLowSurrogate first then none
    else (charsOfUnits (second :: rest)).map (Char.ofNat first :: ·)

/-- The character that a letter after a backslash names. -/
def escaped? (c : Char) : Option Char :=
  if c = '"' || c = '\\' || c = '/' then some c
  else if c = 'b' then some '\x08'
  else if c = 'f' then some '\x0c'
  else if c = 'n' then some '\n'
  else if c = 'r' then some '\r'
  else if c = 't' then some '\t'
  else none

/-- The value of a digit in base sixteen. -/
def hexDigit? (c : Char) : Option Nat :=
  if c.toNat < 128 then Text.Hex.digitValue? (UInt8.ofNat c.toNat) else none

/-! ## Reading characters -/

/-- What a reader of characters is in the middle of. What it has read of a word
or a string is kept with the last character first. -/
inductive Lexer.Mode where
  | between
  | word (chars : List Char)
  | string (units : List Nat)
  /-- After a backslash. -/
  | escape (units : List Nat)
  /-- Before the given number of digits of a code point. -/
  | digits (units : List Nat) (missing value : Nat)

structure Lexer where
  tokens : Array Token := #[]
  mode : Lexer.Mode := .between

namespace Lexer

def isBlank (c : Char) : Bool := c = ' ' || c = '\n' || c = '\t' || c = '\r'

/-- The tokens read, with the word that ends here. -/
def flush (l : Lexer) : Option (Array Token) :=
  match l.mode with
  | .between => some l.tokens
  | .word chars => (Token.ofWord? chars.reverse).map l.tokens.push
  | _ => none

/-- Reads a character that is not in a string. -/
def stepOutside (l : Lexer) (word : List Char) (c : Char) : Option Lexer :=
  if isBlank c then l.flush.map fun tokens => ⟨tokens, .between⟩
  else if c = '"' then l.flush.map fun tokens => ⟨tokens, .string []⟩
  else match Token.ofPunctuation? c with
    | some token => l.flush.map fun tokens => ⟨tokens.push token, .between⟩
    | none => some { l with mode := .word (c :: word) }

/-- Reads a character of a string; control characters have to be escaped. -/
def stepString (l : Lexer) (units : List Nat) (c : Char) : Option Lexer :=
  if c = '"' then
    let text := (charsOfUnits units.reverse).map String.ofList
    some ⟨l.tokens.push (.string text), .between⟩
  else if c = '\\' then some { l with mode := .escape units }
  else if c.toNat < 0x20 then none
  else some { l with mode := .string (c.toNat :: units) }

def stepEscape (l : Lexer) (units : List Nat) (c : Char) : Option Lexer :=
  if c = 'u' then some { l with mode := .digits units 4 0 }
  else (escaped? c).map fun e => { l with mode := .string (e.toNat :: units) }

def stepDigit (l : Lexer) (units : List Nat) (missing value : Nat) (c : Char) : Option Lexer :=
  (hexDigit? c).map fun digit =>
    let value := 16 * value + digit
    if missing ≤ 1 then { l with mode := .string (value :: units) }
    else { l with mode := .digits units (missing - 1) value }

def step (l : Lexer) (c : Char) : Option Lexer :=
  match l.mode with
  | .between => l.stepOutside [] c
  | .word chars => l.stepOutside chars c
  | .string units => l.stepString units c
  | .escape units => l.stepEscape units c
  | .digits units missing value => l.stepDigit units missing value c

end Lexer

/-- The tokens of a text. -/
def tokens? (text : String) : Option (List Token) := do
  return (← (← text.toList.foldlM Lexer.step {}).flush).toList

end SpatialColumns.Json
