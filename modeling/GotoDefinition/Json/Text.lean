import GotoDefinition.Json.Token

/-!
# GotoDefinition.Json.Text

Reading a JSON text.

The tokens are taken one after the other with the open brackets on a stack. Where no token of the
grammar follows, the value ends with `malformed` inside all brackets that are still open.
-/

namespace GotoDefinition

namespace Json

/-- An open bracket with what it holds so far, last first. -/
inductive Frame where
  | items (done : List Json)
  /-- The value of the key is being read. -/
  | fields (done : List (Option String × Json)) (key : Option String)

/-- Ends all open brackets behind a value. -/
def closeAll (v : Json) : List Frame → Json
  | [] => v
  | .items done :: outer => closeAll (.array (v :: done).reverse) outer
  | .fields done key :: outer => closeAll (.object ((key, v) :: done).reverse) outer

/-- The value whose text stops being JSON inside the open brackets. -/
def stopped (outer : List Frame) : Json :=
  closeAll .malformed outer

mutual

/-- Reads a value inside the open brackets. The result is the outermost value and what follows. -/
def readValue (outer : List Frame) : List Token → Json × List Token
  | .scalar v :: ts => readRest v outer ts
  | .text s :: ts => readRest (.string s) outer ts
  | .openBracket :: .closeBracket :: ts => readRest (.array []) outer ts
  | .openBracket :: ts => readValue (.items [] :: outer) ts
  | .openBrace :: .closeBrace :: ts => readRest (.object []) outer ts
  | .openBrace :: .text key :: .colon :: ts => readValue (.fields [] key :: outer) ts
  | .openBrace :: .text key :: _ => (stopped (.fields [] key :: outer), [])
  | .openBrace :: _ => (stopped (.fields [] none :: outer), [])
  | _ => (stopped outer, [])
termination_by ts => ts.length

/-- Goes on behind a value inside the open brackets. -/
def readRest (v : Json) : List Frame → List Token → Json × List Token
  | [], ts => (v, ts)
  | .items done :: outer, .comma :: ts => readValue (.items (v :: done) :: outer) ts
  | .items done :: outer, .closeBracket :: ts => readRest (.array (v :: done).reverse) outer ts
  | .items done :: outer, _ => (stopped (.items (v :: done) :: outer), [])
  | .fields done key :: outer, .comma :: .text next :: .colon :: ts =>
    readValue (.fields ((key, v) :: done) next :: outer) ts
  | .fields done key :: outer, .comma :: .text next :: _ =>
    (stopped (.fields ((key, v) :: done) next :: outer), [])
  | .fields done key :: outer, .closeBrace :: ts =>
    readRest (.object ((key, v) :: done).reverse) outer ts
  | .fields done key :: outer, _ => (stopped (.fields ((key, v) :: done) none :: outer), [])
termination_by _ ts => ts.length

end

/-- The value of a text, and whether the text ends behind it. -/
def ofText (s : String) : Json × Bool :=
  let (v, rest) := readValue [] (tokens s.toList)
  (v, rest.isEmpty)

end Json

end GotoDefinition
