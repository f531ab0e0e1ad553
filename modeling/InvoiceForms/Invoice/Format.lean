import InvoiceForms.Invoice.Order
import InvoiceForms.Number.DoubleText

/-!
# Texts of dates and amounts

How an invoice writes its dates, amounts of money, tax rates and quantities. Languages are given by
their tags; a tag that is not known is written like German, except for dates, which are in ISO form.
-/

namespace InvoiceForms.Format

open InvoiceForms.Calendar InvoiceForms.Number

/-- The date style of a language. -/
def defaultStyle (language : String) : DateStyle :=
  if language = "de" then .locale else .iso

/-- A date in a style and a language. -/
def date (style : DateStyle) (language : String) (d : Date) : String :=
  match style with
  | .iso => d.toIso
  | .locale =>
    if language = "en" then
      Date.monthName d.month ++ " " ++ Date.padded 2 d.day ++ ", " ++ toString d.year
    else Date.padded 2 d.day ++ "." ++ Date.padded 2 d.month ++ "." ++ toString d.year

/-- A date in the style that a word names, or in the style of the language. -/
def dateBy (word : Option String) (language : String) (d : Date) : Except String String :=
  match word.filter (· ≠ "") with
  | none => .ok (date (defaultStyle language) language d)
  | some w =>
    match DateStyle.ofWord? w with
    | some style => .ok (date style language d)
    | none => .error DateStyle.badStyle

/-- A number text with the decimal separator of a language. -/
def localized (language : String) (s : String) : String :=
  if language = "en" then s else String.ofList (s.toList.map fun c => if c = '.' then ',' else c)

/-- An amount with two places, in front of its currency. -/
def currency (language currency : String) (amount : Double) : String :=
  localized language (amount.toFixed 2) ++ " " ++ currency

/-- A tax rate in per cent. -/
def rate (language : String) (x : Double) : String :=
  localized language (x * .ofInt 100).toGeneral ++ "%"

/-- A quantity. -/
def quantity (x : Double) : String := x.toGeneral

end InvoiceForms.Format
