/-
Module: MonitorSplit.Text.Quoted
Purpose: Quoted literals of texts and of octets, for messages.
Main exports:
  hexDigits, quoteText, quoteOctets
-/
import MonitorSplit.Text.Printable

namespace MonitorSplit.Text

/-!
A literal stands between single quotes, or between double quotes when the content
has a single quote and no double one.  The chosen quote and the backslash are
escaped by a backslash; line feed, carriage return and tab have short escapes; all
that cannot be shown is written by its number in two, four or eight hexadecimal
digits.  Octets outside visible ASCII are always numbered.
-/

/-- A number in lower-case hexadecimal, filled with zeros to a width. -/
def hexDigits (width number : Nat) : List Char :=
  let digits := Nat.toDigits 16 number
  List.replicate (width - digits.length) '0' ++ digits

/-- The single quote. -/
def singleQuote : Char := Char.ofNat 39

/-- The double quote. -/
def doubleQuote : Char := Char.ofNat 34

/-- The backslash. -/
def backslash : Char := Char.ofNat 92

/-- The quote around a literal: double only if the content has a single quote and no
double one. -/
def quoteFor (content : List Char) : Char :=
  if content.contains singleQuote && !content.contains doubleQuote then doubleQuote
  else singleQuote

/-- Escapes with a letter, and those of the quote and the backslash. -/
def shortEscape? (quote c : Char) : Option (List Char) :=
  if c = quote || c = backslash then some [backslash, c]
  else if c = '\n' then some [backslash, 'n']
  else if c = '\r' then some [backslash, 'r']
  else if c = '\t' then some [backslash, 't']
  else none

/-- One character of a text literal. -/
def quoteChar (quote c : Char) : List Char :=
  match shortEscape? quote c with
  | some escape => escape
  | none =>
      if isPrintable c then [c]
      else if c.toNat < 0x100 then backslash :: 'x' :: hexDigits 2 c.toNat
      else if c.toNat < 0x10000 then backslash :: 'u' :: hexDigits 4 c.toNat
      else backslash :: 'U' :: hexDigits 8 c.toNat

/-- The literal of a text. -/
def quoteText (content : List Char) : String :=
  let quote := quoteFor content
  String.ofList (quote :: content.flatMap (quoteChar quote) ++ [quote])

/-- One octet of an octet literal. -/
def quoteOctet (quote : Char) (octet : UInt8) : List Char :=
  let c := Char.ofNat octet.toNat
  match shortEscape? quote c with
  | some escape => escape
  | none =>
      if 0x20 ≤ octet.toNat && octet.toNat < 0x7F then [c]
      else backslash :: 'x' :: hexDigits 2 octet.toNat

/-- The literal of octets, marked by a leading `b`. -/
def quoteOctets (octets : List UInt8) : String :=
  let quote := quoteFor (octets.map fun octet => Char.ofNat octet.toNat)
  String.ofList ('b' :: quote :: octets.flatMap (quoteOctet quote) ++ [quote])

end MonitorSplit.Text
