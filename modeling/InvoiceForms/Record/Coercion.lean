import InvoiceForms.Record.Fault
import InvoiceForms.Text.Blank
import InvoiceForms.Value.Basic

/-!
# Reading single values

What a field of a simple type takes. The rules are lenient: a number may come as a text, a truth
value as a number or a word, a date in one of several forms. Each `read` function either gives the
value or refuses it for one cause.
-/

namespace InvoiceForms.Record

open InvoiceForms.Calendar InvoiceForms.Number InvoiceForms.Text

/-- The text that bytes encode, if they do. -/
def textOfBytes? (bs : List UInt8) : Option String := String.fromUTF8? ⟨bs.toArray⟩

/-- What a text field demands of the characters of a text. -/
structure TextPattern where
  shown : String
  holds : List Char → Bool

/-- The rule of a text field: whether white space at the ends is dropped, the least and the greatest
number of characters, and a pattern. -/
structure TextRule where
  trimmed : Bool
  least : Nat
  most : Option Nat
  pattern : Option TextPattern

/-- A trimmed text with at most so many characters. -/
def TextRule.upTo (most : Nat) : TextRule := ⟨true, 0, some most, none⟩

/-- A trimmed text that is not empty and has at most so many characters. -/
def TextRule.from1To (most : Nat) : TextRule := ⟨true, 1, some most, none⟩

/-- A trimmed text. -/
def TextRule.free : TextRule := ⟨true, 0, none, none⟩

/-- A text as it is. -/
def TextRule.verbatim : TextRule := ⟨false, 0, none, none⟩

/-- Holds a text to a rule. -/
def TextRule.check (rule : TextRule) (s : String) : Read String :=
  let s := if rule.trimmed then trimWhiteSpace s else s
  let n := s.length
  if rule.most.any (· < n) then refuse (.textTooLong (rule.most.getD 0))
  else if n < rule.least then refuse (.textTooShort rule.least)
  else
    match rule.pattern with
    | some p => if p.holds s.toList then .ok s else refuse (.patternMismatch p.shown)
    | none => .ok s

/-- Reads a text. -/
def readText (rule : TextRule) : Value → Read String
  | .text s => rule.check s
  | .bytes bs =>
    match textOfBytes? bs with
    | some s => rule.check s
    | none => refuse .textUnreadable
  | _ => refuse .textExpected

/-- The truth value that a word stands for. -/
def boolOfWord? (s : String) : Option Bool :=
  let word := lowerAscii s
  if word ∈ ["1", "true", "t", "yes", "y", "on"] then some true
  else if word ∈ ["0", "false", "f", "no", "n", "off"] then some false
  else none

/-- Reads a truth value from a word. -/
def readBoolText (s : String) : Read Bool :=
  match boolOfWord? s with
  | some b => .ok b
  | none => refuse .boolUnreadable

/-- Reads a truth value from an integer. -/
def readBoolInt (n : Int) : Read Bool :=
  if n = 0 then .ok false else if n = 1 then .ok true else refuse .boolUnreadable

/-- Reads a truth value from a double: only integers of 64 bits count as numbers. -/
def readBoolDouble (x : Double) : Read Bool :=
  match x.toInt? with
  | some n => if n.natAbs < wordBound then readBoolInt n else refuse .boolExpected
  | none => refuse .boolExpected

/-- Reads a truth value. -/
def readBool : Value → Read Bool
  | .bool b => .ok b
  | .text s => readBoolText s
  | .bytes bs =>
    match textOfBytes? bs with
    | some s => readBoolText s
    | none => refuse .boolUnreadable
  | .int n => if isWord n then readBoolInt n else refuse .boolExpected
  | .float x => readBoolDouble x
  | .decimal x => x.toDouble?.elim (refuse .boolExpected) readBoolDouble
  | _ => refuse .boolExpected

/-- Reads an integer from a text. -/
def readIntText (s : String) : Read Int :=
  match readFieldInteger s.toList with
  | .ok n => .ok n
  | .error .malformed => refuse .intUnreadable
  | .error (.tooManyDigits _) => refuse .intTooLarge

/-- Reads an integer from a double without a fraction. -/
def readIntDouble (x : Double) : Read Int :=
  if x.isFinite then
    match x.toInt? with
    | some n => if n.natAbs < wordBound then .ok n else refuse .intTooLarge
    | none => refuse .intFraction
  else refuse .finiteExpected

/-- The integer that a decimal is, when it has no fraction. -/
def intOfDecimal? (negative : Bool) (coefficient : Nat) (exponent : Int) : Option Int :=
  if 0 ≤ exponent then some (signed negative (coefficient * Nat.pow 10 exponent.toNat))
  else
    let unit := Nat.pow 10 (-exponent).toNat
    if coefficient % unit = 0 then some (signed negative (coefficient / unit)) else none

/-- Reads an integer from a decimal without a fraction. -/
def readIntDecimal : Decimal → Read Int
  | .finite s c e =>
    match intOfDecimal? s c e with
    | some n => .ok n
    | none => refuse .intFraction
  | _ => refuse .finiteExpected

/-- Reads an integer. -/
def readInt : Value → Read Int
  | .int n => .ok n
  | .bool b => .ok (if b then 1 else 0)
  | .float x => readIntDouble x
  | .decimal x => readIntDecimal x
  | .text s => readIntText s
  | .bytes bs =>
    match textOfBytes? bs with
    | some s => readIntText s
    | none => refuse .intUnreadable
  | _ => refuse .intExpected

/-- Reads a double from a text. -/
def readDoubleText (s : String) : Read Double :=
  match readDouble? s.toList with
  | some x => .ok x
  | none => refuse .numberUnreadable

/-- Reads a double. An integer beyond all doubles is none. -/
def readDouble : Value → Read Double
  | .float x => .ok x
  | .int n => if (Double.ofInt n).isFinite then .ok (.ofInt n) else refuse .numberExpected
  | .bool b => .ok (.ofInt (if b then 1 else 0))
  | .decimal x => x.toDouble?.elim (refuse .numberExpected) .ok
  | .text s => readDoubleText s
  | .bytes bs =>
    match textOfBytes? bs with
    | some s => readDoubleText s
    | none => refuse .numberUnreadable
  | _ => refuse .numberExpected

/-- The cause of a date that cannot be read. -/
def causeOfDate : DateFault → Cause
  | .unreadable reason => .dateUnreadable reason
  | .notMidnight => .dateNotMidnight
  | .yearZero => .dateYearZero

/-- The result of reading a date. -/
def dateResult : Except DateFault Date → Read Date
  | .ok d => .ok d
  | .error e => refuse (causeOfDate e)

/-- Reads a date. -/
def readDate : Value → Read Date
  | .date d => .ok d
  | .moment m => if m.clock.isMidnight then .ok m.date else refuse .dateNotMidnight
  | .text s => dateResult (Calendar.readDate s.toUTF8.toList)
  | .bytes bs => dateResult (Calendar.readDate bs)
  | .int n =>
    if isWord n then dateResult (dateOfInt n)
    else if (Double.ofInt n).isFinite then dateResult (dateOfDouble (.ofInt n))
    else refuse .dateExpected
  | .float x => dateResult (dateOfDouble x)
  | .decimal x => x.toDouble?.elim (refuse .dateExpected) fun x => dateResult (dateOfDouble x)
  | _ => refuse .dateExpected

/-- The bounds of a number field. -/
structure Bounds where
  atMost : Option Nat
  atLeast : Option Nat
  greaterThan : Option Nat
deriving DecidableEq, Repr

/-- No bounds. -/
def Bounds.none : Bounds := ⟨.none, .none, .none⟩

/-- At least zero. -/
def Bounds.nonNegative : Bounds := ⟨.none, some 0, .none⟩

/-- Above zero. -/
def Bounds.positive : Bounds := ⟨.none, .none, some 0⟩

/-- From zero to a bound. -/
def Bounds.upTo (most : Nat) : Bounds := ⟨some most, some 0, .none⟩

/-- The first bound that a number breaks, where `le` and `lt` compare bounds and numbers. -/
def Bounds.broken? (b : Bounds) (most least above : Nat → Bool) : Option Cause :=
  match b.atMost.filter (!most ·), b.atLeast.filter (!least ·), b.greaterThan.filter (!above ·) with
  | some n, _, _ => some (.atMost n)
  | _, some n, _ => some (.atLeast n)
  | _, _, some n => some (.greaterThan n)
  | _, _, _ => .none

/-- Holds an integer to bounds. -/
def Bounds.checkInt (b : Bounds) (n : Int) : Read Int :=
  match b.broken? (fun k => n ≤ k) (fun k => k ≤ n) (fun k => k < n) with
  | some cause => refuse cause
  | .none => .ok n

/-- Holds a double to bounds. A NaN breaks every bound. -/
def Bounds.checkDouble (b : Bounds) (x : Double) : Read Double :=
  match b.broken? (fun k => x.le (.ofInt k)) (fun k => (Double.ofInt k).le x)
      (fun k => (Double.ofInt k).lt x) with
  | some cause => refuse cause
  | .none => .ok x

/-- The items of a value that a list field takes: those of anything that has items but texts, bytes
and mappings. -/
def itemsOf? : Value → Option (List Value)
  | .text _ => none
  | .bytes _ => none
  | .mapping _ => none
  | v => v.items?

/-- Reads all items, or collects the faults of all of them. -/
def readItems {α : Type} (read : Value → Read α) (n : Nat) : List Value → Read (List α)
  | [] => .ok []
  | v :: vs =>
    match read v with
    | .error (.misuse cause) => .error (.misuse cause)
    | .error (.faults found) =>
      let here := found.map (·.under (.index n))
      match readItems read (n + 1) vs with
      | .error (.faults more) => .error (.faults (here ++ more))
      | .error (.misuse cause) => .error (.misuse cause)
      | .ok _ => .error (.faults here)
    | .ok x => (readItems read (n + 1) vs).map (x :: ·)

/-- Reads all values of a mapping, or collects the faults of all of them. Keys are trimmed. -/
def readEntries {α : Type} (read : Value → Read α) :
    List (String × Value) → Read (List (String × α))
  | [] => .ok []
  | (key, v) :: rest =>
    match read v with
    | .error (.misuse cause) => .error (.misuse cause)
    | .error (.faults found) =>
      let here := found.map (·.under (.key key))
      match readEntries read rest with
      | .error (.faults more) => .error (.faults (here ++ more))
      | .error (.misuse cause) => .error (.misuse cause)
      | .ok _ => .error (.faults here)
    | .ok x => (readEntries read rest).map ((trimWhiteSpace key, x) :: ·)

end InvoiceForms.Record
