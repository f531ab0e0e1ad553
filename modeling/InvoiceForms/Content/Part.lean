import InvoiceForms.Content.Token

/-!
# Loop blocks

`Part.ofTokens` groups the tokens of a content string: a loop opener with a matching closer makes a
block with the tokens between them, an opener without one and a closer without one stand alone, and
so does every other token. Blocks inside a block stay tokens of its body.
-/

namespace InvoiceForms

/-- A part of a content string. -/
inductive Part
  | single (token : Token)
  | stray (closer : Token)
  | unclosed (opener : Token)
  | block (opener : Token) (body : List Token) (closer : Token)
deriving DecidableEq, Repr, Inhabited

namespace Part

/-- The tokens up to the closer that brings the number of open blocks to zero, that closer, and the
tokens after it; `depth` blocks are open inside the one to be closed. -/
def takeBlock (depth : Nat) : List Token → Option (List Token × Token × List Token)
  | [] => none
  | t :: ts =>
    let further (d : Nat) := (takeBlock d ts).map fun r => (t :: r.1, r.2)
    match t.kind, depth with
    | .closer, 0 => some ([], t, ts)
    | .closer, d + 1 => further d
    | .opener, d => further (d + 1)
    | _, d => further d

/-- The parts of tokens; one of the fuel is taken for each. -/
def group : Nat → List Token → List Part
  | 0, _ => []
  | _ + 1, [] => []
  | fuel + 1, t :: ts =>
    match t.kind with
    | .opener =>
      match takeBlock 0 ts with
      | some (body, closer, rest) => block t body closer :: group fuel rest
      | none => unclosed t :: group fuel ts
    | .closer => stray t :: group fuel ts
    | _ => single t :: group fuel ts

/-- The parts of tokens. -/
def ofTokens (tokens : List Token) : List Part := group tokens.length tokens

/-- The parts of a content string. -/
def ofContent (content : String) : List Part := ofTokens (Token.scan content)

/-- The tokens of a part. -/
def tokens : Part → List Token
  | single t => [t]
  | stray t => [t]
  | unclosed t => [t]
  | block opener body closer => opener :: body ++ [closer]

/-- The text of a part in the content. -/
def raw (part : Part) : String := Token.rawText part.tokens

/-- The text of parts in the content. -/
def rawText (parts : List Part) : String := String.join (parts.map raw)

end Part

end InvoiceForms
